import NewApi.Referral.Withdrawals

/-!
# Entry points of the commission jobs

The calls of `service/referral.go` that process the commission of a paid order,
retry it or mark it as failed.  A call is a sequence of transactions, between
which other workers may run theirs.  Columns of an order that may change are
arguments of the call that reads them.
-/

namespace NewApi.Referral

open GoStrings

structure OrderIdentity where
  id : Int
  userId : Int
  affiliateId : Int
  deriving DecidableEq, Repr

def redemptionCommissionTradeNo (redemptionId : Int) : String :=
  "redemption:" ++ toString redemptionId

structure OrderTradeNo (tradeNo : String) : Prop where
  trimmed : trimSpace tradeNo = tradeNo
  nonempty : tradeNo ≠ ""
  notRedemption : ∀ id, tradeNo ≠ redemptionCommissionTradeNo id

structure PaidOrders where
  topups : String → Option OrderIdentity
  subscriptions : String → Option OrderIdentity
  redemptions : Int → Option Int
  topupTradeNo : ∀ tradeNo order, topups tradeNo = some order → OrderTradeNo tradeNo
  subscriptionTradeNo : ∀ tradeNo order, subscriptions tradeNo = some order → OrderTradeNo tradeNo

/-- The columns of a top-up or a subscription order, as a call reads them. -/
structure OrderColumns where
  success : Bool
  rate : Int
  paidAmount : Int
  paidCurrency : String
  referral : OrderReferral
  deriving DecidableEq, Repr

/-- The referral columns of a redemption after `buildOrderSnapshotTx`, where it
is called, and the amount that it is paid for. -/
structure RedemptionSnapshot where
  affiliateId : Int
  rate : Int
  paidAmount : Int
  referral : OrderReferral
  deriving DecidableEq, Repr

/-- The columns of a redemption, as a call reads them; `snapshot` is `none`
when its amount or its snapshot cannot be found. -/
structure RedemptionColumns where
  redeemed : Bool
  affiliateId : Int
  referral : OrderReferral
  snapshotMatches : Bool
  snapshot : Option RedemptionSnapshot
  deriving DecidableEq, Repr

structure CommissionContext where
  settings : ReferralSettings
  affiliates : List ReferralAffiliate
  faults : CommissionFaults
  now : Int

def processOrderTx (context : CommissionContext) (sourceType : SourceType)
    (orders : String → Option OrderIdentity) (db : ReferralDatabase)
    (tradeNo : String) (columns : OrderColumns) :
    Except ReferralError ReferralDatabase :=
  match orders tradeNo with
  | none => .error .recordNotFound
  | some order =>
    if columns.success then
      (processCommissionTx context.settings context.affiliates context.faults
        context.now db
        { sourceType := sourceType
          tradeNo := tradeNo
          userId := order.userId
          sourceOrderId := order.id
          affiliateId := order.affiliateId
          rate := columns.rate
          paidAmount := columns.paidAmount
          paidCurrency := columns.paidCurrency
          referral := columns.referral }).map Prod.fst
    else .ok db

def subscriptionOrderExists (orders : PaidOrders) (fails : Bool) (tradeNo : String) : Bool :=
  let tradeNo := trimSpace tradeNo
  if tradeNo = "" then false
  else if fails then false
  else (orders.subscriptions tradeNo).isSome

/-! ## Redemptions -/

def redemptionCommissionRecordComplete (db : ReferralDatabase) (redemptionId usedUserId : Int) :
    Option ReferralCommission × Bool :=
  let tradeNo := redemptionCommissionTradeNo redemptionId
  match db.commissionOf .redemption tradeNo with
  | none => (none, false)
  | some commission =>
    if commission.id ≤ 0 ∨ commission.affiliateId ≤ 0 ∨
        commission.affiliateUserId ≤ 0 ∨ commission.commissionAmount ≤ 0 then
      (some commission, false)
    else if 0 < commission.sourceOrderId ∧
        commission.sourceOrderId ≠ redemptionId then
      (some commission, false)
    else if 0 < usedUserId ∧ commission.inviteeUserId ≠ usedUserId then (some commission, false)
    else
      (some commission,
        referralCommissionAccrueLedgerComplete db commission .redemption
            (trimSpace tradeNo) &&
          referralAccountLedgerBalanceComplete db commission.affiliateId commission.affiliateUserId)

/-- The job half of `syncRedemptionTerminalJobTx`: the job takes the terminal
status of its redemption. -/
def syncRedemptionTerminalJob
    (db : ReferralDatabase) (redemptionId : Int) (terminalStatus : JobStatus)
    (affiliateId succeededAt : Int) (lastError : String) : ReferralDatabase :=
  let tradeNo := redemptionCommissionTradeNo redemptionId
  match db.jobs.lookup (.redemption, tradeNo) with
  | none =>
    { db with
      jobs :=
        db.jobs.insertIgnore
          { sourceType := .redemption
            sourceTradeNo := tradeNo
            affiliateId := affiliateId
            status := terminalStatus
            lastError := lastError
            succeededAt := succeededAt } }
  | some job =>
    let updated :=
      { job with
        affiliateId := affiliateId
        status := terminalStatus
        lockedAt := 0
        failedAt := 0 }
    if job.status ≠ .succeeded ∧ job.status ≠ .skipped then
      db.saveJob { updated with lastError := lastError, succeededAt := succeededAt }
    else
      let stale :=
        terminalStatus = .succeeded ∧
          (trimSpace job.lastError ≠ "" ∨ job.failedAt ≠ 0 ∨
            job.lockedAt ≠ 0 ∨ job.affiliateId ≠ affiliateId)
      db.saveJob
        { updated with
          lastError :=
            if trimSpace job.lastError = lastError then job.lastError
            else lastError
          succeededAt :=
            if job.status ≠ terminalStatus ∨ job.succeededAt ≤ 0 ∨ stale then succeededAt
            else job.succeededAt }

def chainIncompleteText : String := "redemption_commission_chain_incomplete"

def resetRedemptionCommissionJob (db : ReferralDatabase) (redemptionId affiliateId failedAt : Int) :
    ReferralDatabase :=
  let tradeNo := redemptionCommissionTradeNo redemptionId
  match db.jobs.lookup (.redemption, tradeNo) with
  | none =>
    { db with
      jobs :=
        db.jobs.insertIgnore
          { sourceType := .redemption
            sourceTradeNo := tradeNo
            affiliateId := affiliateId
            status := .failed
            lastError := chainIncompleteText
            failedAt := failedAt } }
  | some job =>
    db.saveJob
      { job with
        affiliateId := affiliateId
        status := .failed
        lastError := chainIncompleteText
        lockedAt := 0
        succeededAt := 0
        failedAt := failedAt }

/-- `applyCompletedRedemptionCommission`, as far as the job sees it: when the
redemption counts as done. -/
def completedRedemptionAt
    (now : Int) (columns : RedemptionColumns) (commission : ReferralCommission) :
    Int :=
  if columns.snapshotMatches = false ∧ 0 < commission.createdAt then commission.createdAt
  else if columns.referral.at_ ≤ 0 then
    if 0 < commission.createdAt then commission.createdAt else now
  else columns.referral.at_

def processRedemptionTx (context : CommissionContext) (orders : PaidOrders) (db : ReferralDatabase)
    (redemptionId : Int) (columns : RedemptionColumns) :
    Except ReferralError ReferralDatabase :=
  if redemptionId ≤ 0 then .error (.text "invalid redemption id")
  else
    match orders.redemptions redemptionId with
    | none => .error .recordNotFound
    | some usedUserId =>
      if columns.redeemed = false then .ok db
      else
        let record := redemptionCommissionRecordComplete db redemptionId usedUserId
        let process (db : ReferralDatabase) :
            Except ReferralError ReferralDatabase :=
          match columns.snapshot with
          | none => .error (.text "redemption amount is unavailable")
          | some snapshot =>
            let status :=
              match snapshot.referral.status with
              | none | some .skipped => some JobStatus.pending
              | some status => some status
            (processCommissionTx context.settings context.affiliates
              context.faults context.now db
              { sourceType := .redemption
                tradeNo := redemptionCommissionTradeNo redemptionId
                userId := usedUserId
                sourceOrderId := redemptionId
                affiliateId := snapshot.affiliateId
                rate := snapshot.rate
                paidAmount := snapshot.paidAmount
                paidCurrency := "CNY"
                referral := { snapshot.referral with status := status } }).map
              Prod.fst
        let reset := resetRedemptionCommissionJob db redemptionId columns.affiliateId context.now
        match record with
        | (some commission, true) =>
          .ok
            (syncRedemptionTerminalJob db redemptionId .succeeded
              commission.affiliateId
              (completedRedemptionAt context.now columns commission) "")
        | (found, _) =>
          match columns.referral.status with
          | some .succeeded => process reset
          | some .skipped =>
            if found.isSome then .ok reset
            else
              .ok
                (syncRedemptionTerminalJob db redemptionId .skipped
                  columns.affiliateId
                  (if columns.referral.at_ ≤ 0 then context.now
                  else columns.referral.at_)
                  (trimSpace columns.referral.error))
          | _ => process db

def moveCommissionJobToCanonicalSource
    (now : Int) (db : ReferralDatabase) (oldSourceType newSourceType : SourceType)
    (tradeNo : String) : ReferralDatabase :=
  let tradeNo := trimSpace tradeNo
  if oldSourceType = newSourceType ∨ tradeNo = "" then db
  else
    match db.jobs.lookup (oldSourceType, tradeNo) with
    | none => db
    | some oldJob =>
      match db.jobs.lookup (newSourceType, tradeNo) with
      | some existing =>
        let db :=
          if existing.status ≠ .succeeded then
            db.saveJob
              { existing with
                status := .pending
                lastError := ""
                lockedAt := 0
                failedAt := 0
                succeededAt := 0
                attemptCount := max oldJob.attemptCount existing.attemptCount }
          else db
        db.saveJob
          { oldJob with
            status := .skipped
            lastError := "duplicate_job_superseded_by_subscription"
            succeededAt := now }
      | none =>
        { db with
          jobs :=
            (db.jobs.delete (oldSourceType, tradeNo)).insertIgnore
              { oldJob with
                sourceType := newSourceType
                status := .pending
                lastError := ""
                lockedAt := 0
                failedAt := 0
                succeededAt := 0 } }

def markCommissionJobFailed (now : Int) (db : ReferralDatabase) (sourceType : SourceType)
    (tradeNo : String) (affiliateId : Int) (reason : String) :
    ReferralDatabase :=
  let tradeNo := trimSpace tradeNo
  let message :=
    if trimSpace reason = "" then "referral commission processing failed"
    else trimSpace reason
  if tradeNo = "" then db
  else
    match db.jobs.lookup (sourceType, tradeNo) with
    | none =>
      { db with
        jobs :=
          db.jobs.insertIgnore
            { sourceType := sourceType
              sourceTradeNo := tradeNo
              affiliateId := affiliateId
              status := .failed
              lastError := message
              failedAt := now } }
    | some job =>
      if job.status = .succeeded ∨ job.status = .skipped then db
      else
        db.saveJob
          { job with
            affiliateId :=
              if job.affiliateId ≤ 0 ∧ 0 < affiliateId then affiliateId
              else job.affiliateId
            status := .failed
            lastError := message
            failedAt := now
            lockedAt := 0 }

inductive CommissionStep where
  | topup (context : CommissionContext) (tradeNo : String) (columns : OrderColumns)
  | subscription (context : CommissionContext) (tradeNo : String) (columns : OrderColumns)
  | redemption (context : CommissionContext) (redemptionId : Int) (columns : RedemptionColumns)
  | move (now : Int) (oldSourceType newSourceType : SourceType) (tradeNo : String)
  | fail
      (now : Int) (sourceType : SourceType) (tradeNo : String) (affiliateId : Int)
      (reason : String)

def CommissionStep.run (orders : PaidOrders) (db : ReferralDatabase) :
    CommissionStep → Except ReferralError ReferralDatabase
  | .topup context tradeNo columns => processOrderTx context .topup orders.topups db tradeNo columns
  | .subscription context tradeNo columns =>
    processOrderTx context .subscription orders.subscriptions db tradeNo columns
  | .redemption context redemptionId columns =>
    processRedemptionTx context orders db redemptionId columns
  | .move now oldSourceType newSourceType tradeNo =>
    .ok (moveCommissionJobToCanonicalSource now db oldSourceType newSourceType tradeNo)
  | .fail now sourceType tradeNo affiliateId reason =>
    .ok (markCommissionJobFailed now db sourceType tradeNo affiliateId reason)

/-- What a call may read: an order in either table under its trade number, or a
redemption. -/
structure CommissionReads where
  context : CommissionContext
  order : OrderColumns
  redemption : RedemptionColumns

/-- A call of one of the entry points.  `existsFails` and `canonicalFails` say
whether the lookups of the subscription order fail. -/
inductive CommissionCall where
  | processTopUp (reads : CommissionReads) (existsFails : Bool) (tradeNo : String)
  | processSubscription (reads : CommissionReads) (tradeNo : String)
  | processRedemption (reads : CommissionReads) (redemptionId : Int)
  | retry
      (reads : CommissionReads) (canonicalFails existsFails : Bool)
      (sourceType : SourceType) (tradeNo : String)
  | markFailed
      (now : Int) (sourceType : SourceType) (tradeNo : String) (affiliateId : Int)
      (reason : String)
  | backfill (redemptions : List (Int × CommissionReads)) (reason : String)

def canonicalCommissionSourceType (orders : PaidOrders) (fails : Bool) (sourceType : SourceType)
    (tradeNo : String) : Option SourceType :=
  if sourceType = .redemption then some .redemption
  else if subscriptionOrderExists orders fails tradeNo then some .subscription
  else if sourceType = .subscription then none
  else some .topup

def processTopUpCommission (orders : PaidOrders) (reads : CommissionReads) (existsFails : Bool)
    (tradeNo : String) : CommissionStep :=
  if subscriptionOrderExists orders existsFails tradeNo then
    .subscription reads.context tradeNo reads.order
  else .topup reads.context tradeNo reads.order

def redemptionCommissionIDFromTradeNo (tradeNo : String) : Option Int :=
  let raw := trimSpace tradeNo
  if hasPrefix raw "redemption:" then
    match atoi (trimPrefix raw "redemption:") with
    | some id => if id ≤ 0 then none else some id
    | none => none
  else none

/-- The transactions that a call may run, in their order.  A call stops at the
first one that fails, and a backfill marks a redemption only when its own
transaction has failed. -/
def CommissionCall.steps (orders : PaidOrders) :
    CommissionCall → List CommissionStep
  | .processTopUp reads existsFails tradeNo =>
    [processTopUpCommission orders reads existsFails tradeNo]
  | .processSubscription reads tradeNo => [.subscription reads.context tradeNo reads.order]
  | .processRedemption reads redemptionId =>
    [.redemption reads.context redemptionId reads.redemption]
  | .retry reads canonicalFails existsFails sourceType tradeNo =>
    let tradeNo := trimSpace tradeNo
    if tradeNo = "" then []
    else
      match canonicalCommissionSourceType orders canonicalFails sourceType tradeNo
      with
      | none => []
      | some canonical =>
        (if canonical ≠ sourceType then [.move reads.context.now sourceType canonical tradeNo]
        else
          []) ++
          match canonical with
          | .topup => [processTopUpCommission orders reads existsFails tradeNo]
          | .subscription => [.subscription reads.context tradeNo reads.order]
          | .redemption =>
            match redemptionCommissionIDFromTradeNo tradeNo with
            | none => []
            | some redemptionId => [.redemption reads.context redemptionId reads.redemption]
  | .markFailed now sourceType tradeNo affiliateId reason =>
    [.fail now sourceType tradeNo affiliateId reason]
  | .backfill redemptions reason =>
    redemptions.flatMap fun (redemptionId, reads) =>
      [.redemption reads.context redemptionId reads.redemption,
        .fail reads.context.now .redemption
          (redemptionCommissionTradeNo redemptionId)
          reads.redemption.affiliateId reason]

structure CommissionTransaction where
  step : CommissionStep
  aborted : Bool

def commissionTransaction (orders : PaidOrders) (db : ReferralDatabase)
    (transaction : CommissionTransaction) : ReferralDatabase :=
  if transaction.aborted then db
  else Transactions.commit db (transaction.step.run orders db)

end NewApi.Referral
