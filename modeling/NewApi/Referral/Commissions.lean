import Mathlib.Data.List.Sort
import NewApi.Referral.Ledger

/-!
# Accruing and settling commissions

`processCommissionTx` turns a paid order into a pending commission, and the
settlement batches make due commissions available.  A statement whose error the
code only records has a flag in the arguments that says whether it fails.
-/

namespace NewApi.Referral

open GoStrings

def moneyScale : Int := 10 ^ 8

def divRound (amount divisor : Int) : Int := (2 * amount + divisor) / (2 * divisor)

/-- The decimal quotient is rounded to sixteen places before it is rounded to
the eight of an amount. -/
def calculateCommissionAmount (baseAmount rate : Int) : Int :=
  if baseAmount ≤ 0 ∨ rate ≤ 0 then 0
  else divRound (divRound (baseAmount * rate) 100) moneyScale

/-- The settings that commissions read.  `fxRate` is
`referralSettlementFxRate` for a currency other than the settlement one. -/
structure ReferralSettings where
  mapping : CaseMapping
  settlementCurrency : String
  fxRate : String → Option Int
  settleFreezeDays : Int
  minWithdrawAmount : Int
  withdrawFee : Int

def resolveReferralSettlementAmount
    (settings : ReferralSettings) (paidAmount : Int) (paidCurrency : String) :
    Except String Int :=
  let currency := toUpper settings.mapping (trimSpace paidCurrency)
  if currency = "" then .error "fx_rate_missing"
  else if paidAmount ≤ 0 then .error "paid_amount must be a positive finite number"
  else if currency = settings.settlementCurrency then .ok paidAmount
  else
    match settings.fxRate currency with
    | none => .error "fx_rate_missing"
    | some rate =>
      if rate ≤ 0 then .error "fx_rate_missing"
      else .ok (divRound (paidAmount * rate) moneyScale)

/-- The referral columns that `processCommissionTx` rewrites on its order. -/
structure OrderReferral where
  status : Option JobStatus
  error : String
  at_ : Int
  deriving DecidableEq, Repr

/-- What `processCommissionTx` is told about the order. -/
structure CommissionOrder where
  sourceType : SourceType
  tradeNo : String
  userId : Int
  sourceOrderId : Int
  affiliateId : Int
  rate : Int
  paidAmount : Int
  paidCurrency : String
  referral : OrderReferral
  deriving DecidableEq, Repr

/-- The statements of `processCommissionTx` whose failure is recorded on the
job instead of ending the transaction. -/
structure CommissionFaults where
  affiliateLookup : Bool := false
  commissionInsert : Bool := false
  deriving DecidableEq, Repr

def databaseErrorText : String := "database error"

def ReferralDatabase.saveJob
    (db : ReferralDatabase) (job : ReferralCommissionJob) : ReferralDatabase :=
  { db with jobs := db.jobs.save job }

def findOrCreateJobTx (db : ReferralDatabase) (order : CommissionOrder) :
    ReferralDatabase × ReferralCommissionJob :=
  match db.jobs.lookup (order.sourceType, order.tradeNo) with
  | some job => (db, job)
  | none =>
    let job : ReferralCommissionJob :=
      { sourceType := order.sourceType
        sourceTradeNo := order.tradeNo
        affiliateId := order.affiliateId
        status := .pending }
    ({ db with jobs := db.jobs.insertIgnore job }, job)

def skippedCommissionJobError (sourceType : SourceType) (message : String) :
    String :=
  if sourceType = .redemption then trimSpace message else ""

def failCommissionJob (db : ReferralDatabase) (job : ReferralCommissionJob) (now : Int)
    (message : String) : ReferralDatabase × OrderReferral :=
  (db.saveJob
      { job with
        status := .failed
        lastError := message
        lockedAt := 0
        failedAt := now },
    { status := some .failed, error := message, at_ := now })

def skipCommissionJob (db : ReferralDatabase) (job : ReferralCommissionJob)
    (sourceType : SourceType) (now : Int) (message : String) :
    ReferralDatabase × OrderReferral :=
  (db.saveJob
      { job with
        status := .skipped
        lastError := skippedCommissionJobError sourceType message
        lockedAt := 0
        succeededAt := now
        failedAt := 0 },
    { status := some .skipped, error := message, at_ := now })

def succeedCommissionJob (db : ReferralDatabase) (job : ReferralCommissionJob) (now : Int) :
    ReferralDatabase × OrderReferral :=
  (db.saveJob
      { job with
        status := .succeeded
        lastError := ""
        lockedAt := 0
        succeededAt := now
        failedAt := 0 },
    { status := some .succeeded, error := "", at_ := now })

def referralMoneyEqual (left right : Int) : Bool := decide (-1 ≤ left - right ∧ left - right ≤ 1)

def referralCommissionAccrueLedgerComplete (db : ReferralDatabase) (commission : ReferralCommission)
    (sourceType : SourceType) (tradeNo : String) : Bool :=
  let lines := db.ledger.rows.filter (fun line =>
    line.commissionId = commission.id && line.type = .commissionAccrue &&
      line.refType = sourceType.text && line.refId = tradeNo &&
        line.externalRefId = .accrue sourceType tradeNo)
  decide (lines ≠ []) &&
    referralMoneyEqual (lines.map (·.deltaPending)).sum commission.commissionAmount

def referralAccountLedgerBalanceComplete
    (db : ReferralDatabase) (affiliateId userId : Int) : Bool :=
  match db.accounts.lookup affiliateId with
  | none => false
  | some account =>
    let posted (pot : Pot) : Int :=
      db.ledger.total (fun line =>
        if line.affiliateId = affiliateId ∧ line.userId = userId then line.delta pot
        else 0)
    decide (account.userId = userId) &&
      referralMoneyEqual account.pendingAmount (posted .pending) &&
        referralMoneyEqual account.availableAmount (posted .available) &&
          referralMoneyEqual account.frozenAmount (posted .frozen) &&
            referralMoneyEqual account.withdrawnAmount (posted .withdrawn)

def ReferralDatabase.commissionOf
    (db : ReferralDatabase) (sourceType : SourceType) (tradeNo : String) :
    Option ReferralCommission :=
  db.commissions.rows.find? (fun commission =>
    commission.sourceType = sourceType && commission.sourceTradeNo = tradeNo)

def commissionAccrualCompleteTx (db : ReferralDatabase) (order : CommissionOrder) : Bool :=
  let tradeNo := trimSpace order.tradeNo
  if tradeNo = "" then false
  else
    match db.commissionOf order.sourceType tradeNo with
    | none => false
    | some commission =>
      if commission.id ≤ 0 ∨ commission.affiliateId ≤ 0 ∨
          commission.affiliateUserId ≤ 0 ∨ commission.commissionAmount ≤ 0 then
        false
      else if 0 < order.affiliateId ∧
          commission.affiliateId ≠ order.affiliateId then
        false
      else if 0 < order.userId ∧ commission.inviteeUserId ≠ order.userId then false
      else if 0 < order.sourceOrderId ∧
          commission.sourceOrderId ≠ order.sourceOrderId then
        false
      else
        referralCommissionAccrueLedgerComplete db commission order.sourceType
            tradeNo &&
          referralAccountLedgerBalanceComplete db commission.affiliateId commission.affiliateUserId

def accrueLine (commission : ReferralCommission) (userId : Int) :
    ReferralCommissionLedger where
  externalRefId := .accrue commission.sourceType commission.sourceTradeNo
  affiliateId := commission.affiliateId
  userId := userId
  commissionId := commission.id
  type := .commissionAccrue
  refType := commission.sourceType.text
  refId := commission.sourceTradeNo
  deltaPending := commission.commissionAmount

/-- The commission of an order, its pending balance and its ledger line, and
the job that is done with them. -/
def accrueCommissionTx (settings : ReferralSettings) (faults : CommissionFaults) (now : Int)
    (db : ReferralDatabase) (job : ReferralCommissionJob)
    (order : CommissionOrder) (affiliate : ReferralAffiliate)
    (settlementBaseAmount commissionAmount : Int) :
    Except ReferralError (ReferralDatabase × OrderReferral) :=
  let commission : ReferralCommission :=
    { id := nextId (db.commissions.rows.map ReferralCommission.id)
      affiliateId := order.affiliateId
      affiliateUserId := affiliate.userId
      inviteeUserId := order.userId
      sourceType := order.sourceType
      sourceOrderId := order.sourceOrderId
      sourceTradeNo := order.tradeNo
      settlementCurrency := settings.settlementCurrency
      settlementBaseAmount := settlementBaseAmount
      rate := order.rate
      commissionAmount := commissionAmount
      status := .pending
      settleAt := now + max settings.settleFreezeDays 0 * 24 * 3600
      createdAt := now }
  if faults.commissionInsert then .ok (failCommissionJob db job now databaseErrorText)
  else if (db.commissionOf order.sourceType order.tradeNo).isSome then
    -- The insert met the unique index and did nothing.
    if commissionAccrualCompleteTx db order then .ok (succeedCommissionJob db job now)
    else
      .ok
        (failCommissionJob db { job with succeededAt := 0 } now
          "referral_commission_chain_incomplete")
  else do
    let commissions ← (match db.commissions.create commission with
      | some commissions => .ok commissions
      | none => .error .duplicatedKey)
    let (db, account) ←
      getOrCreateAccountTx { db with commissions := commissions } order.affiliateId affiliate.userId
    let db ← requireRow "failed to update referral pending amount"
      (updateAccount db account.affiliateId (fun _ => true) (·.accrue commissionAmount))
    let db ← createLedgerTx db (accrueLine commission affiliate.userId)
    return succeedCommissionJob db job now

/-- A job that was skipped before: the order takes its reason and its time. -/
def syncSkippedCommission (now : Int) (db : ReferralDatabase) (job : ReferralCommissionJob)
    (order : CommissionOrder) : ReferralDatabase × OrderReferral :=
  let jobError := trimSpace job.lastError
  let sourceError := trimSpace order.referral.error
  let error :=
    if jobError ≠ "" then jobError
    else if sourceError ≠ "" then order.referral.error
    else ""
  let lastError :=
    if jobError = "" ∧ sourceError ≠ "" then skippedCommissionJobError order.sourceType sourceError
    else job.lastError
  let at_ :=
    if 0 < order.referral.at_ then order.referral.at_
    else if 0 < job.succeededAt then job.succeededAt
    else now
  (db.saveJob
      { job with
        lastError := lastError
        succeededAt := if job.succeededAt ≤ 0 then at_ else job.succeededAt
        lockedAt := 0
        failedAt := 0 },
    { status := some .skipped, error := error, at_ := at_ })

/-- A job that succeeded before: its chain is checked again. -/
def recheckSucceededCommission (now : Int) (db : ReferralDatabase) (job : ReferralCommissionJob)
    (order : CommissionOrder) : ReferralDatabase × OrderReferral :=
  if commissionAccrualCompleteTx db order then
    (db,
      { status := some .succeeded
        error := ""
        at_ := if order.referral.at_ ≤ 0 then now else order.referral.at_ })
  else
    failCommissionJob db { job with succeededAt := 0 } now "referral_commission_chain_incomplete"

def runCommissionJobTx (settings : ReferralSettings) (affiliates : List ReferralAffiliate)
    (faults : CommissionFaults) (now : Int)
    (db : ReferralDatabase) (job : ReferralCommissionJob) (order : CommissionOrder) :
    Except ReferralError (ReferralDatabase × OrderReferral) :=
  let job :=
    if 0 < order.affiliateId ∧ job.affiliateId ≠ order.affiliateId then
      { job with affiliateId := order.affiliateId }
    else job
  let error := if order.referral.status = some .failed then "" else order.referral.error
  if order.affiliateId ≤ 0 ∨ order.rate ≤ 0 then
    .ok
      (skipCommissionJob db job order.sourceType now
        (if trimSpace error = "" then "missing_referral_snapshot" else error))
  else
    let job :=
      { job with
        status := .processing
        lockedAt := now
        attemptCount := job.attemptCount + 1 }
    let db := db.saveJob job
    match resolveReferralSettlementAmount settings (max order.paidAmount 0) order.paidCurrency
    with
    | .error message => .ok (failCommissionJob db job now message)
    | .ok settlementBaseAmount =>
      let commissionAmount := calculateCommissionAmount settlementBaseAmount order.rate
      if commissionAmount ≤ 0 then
        .ok (skipCommissionJob db job order.sourceType now "zero_commission_amount")
      else if faults.affiliateLookup then .ok (failCommissionJob db job now databaseErrorText)
      else
        match affiliates.find? (fun row => row.id = order.affiliateId) with
        | none => .ok (failCommissionJob db job now "record not found")
        | some affiliate =>
          if affiliate.status ≠ .approved ∨
              affiliate.settlementEnabled = false then
            .ok (skipCommissionJob db job order.sourceType now "affiliate_not_eligible")
          else
            accrueCommissionTx settings faults now db job order affiliate
              settlementBaseAmount commissionAmount

/-- The result is the database and the columns that the order is saved with;
an order that is already skipped is not looked at. -/
def processCommissionTx (settings : ReferralSettings) (affiliates : List ReferralAffiliate)
    (faults : CommissionFaults) (now : Int) (db : ReferralDatabase) (order : CommissionOrder) :
    Except ReferralError (ReferralDatabase × OrderReferral) :=
  if order.referral.status = some .skipped then .ok (db, order.referral)
  else
    let (db, job) := findOrCreateJobTx db order
    match job.status with
    | .succeeded => .ok (recheckSucceededCommission now db job order)
    | .skipped => .ok (syncSkippedCommission now db job order)
    | .pending | .processing | .failed =>
      runCommissionJobTx settings affiliates faults now db job order

def ReferralDatabase.dueCommissions (db : ReferralDatabase) (now : Int) : List ReferralCommission :=
  (db.commissions.rows.filter (fun commission =>
      commission.status = .pending && decide (0 < commission.settleAt) &&
        decide (commission.settleAt ≤ now))).insertionSort
    (fun left right =>
      left.settleAt < right.settleAt ∨ left.settleAt = right.settleAt ∧ left.id ≤ right.id)

def settlementBatchLimit : Nat := 200

def ReferralAffiliate.settles (affiliate : ReferralAffiliate) : Bool :=
  affiliate.status = .approved && affiliate.settlementEnabled

def settleLine (commission : ReferralCommission) (userId : Int) :
    ReferralCommissionLedger where
  externalRefId := .settle commission.id
  affiliateId := commission.affiliateId
  userId := userId
  commissionId := commission.id
  type := .commissionSettle
  refType := "commission"
  refId := toString commission.id
  deltaPending := -commission.commissionAmount
  deltaAvailable := commission.commissionAmount

/-- The statements that both batches run on a commission whose affiliate
settles; the flag says whether the row was still pending. -/
def settleCommissionTx (now : Int) (db : ReferralDatabase) (affiliate : ReferralAffiliate)
    (commission : ReferralCommission) :
    Except ReferralError (ReferralDatabase × Bool) := do
  let (db, account) ← getOrCreateAccountTx db affiliate.id affiliate.userId
  match db.commissions.lookup commission.id with
  | none => return (db, false)
  | some row =>
    if row.status ≠ .pending then return (db, false)
    else
      let db : ReferralDatabase :=
        { db with
          commissions := db.commissions.save { row with status := .available, availableAt := now } }
      let db ← requireRow "referral settlement account balance mismatch"
        (updateAccount db account.affiliateId
          (fun account => decide (commission.commissionAmount ≤ account.pendingAmount))
          (·.settle commission.commissionAmount))
      let db ← createLedgerTx db (settleLine commission affiliate.userId)
      return (db, true)

structure ReferralSettlementBatch where
  scannedCount : Nat
  settledCount : Nat := 0
  skippedCount : Nat := 0
  failedCount : Nat := 0
  deriving DecidableEq, Repr

def runSettlementRow (affiliates : List ReferralAffiliate) (lookupFails : Int → Bool) (now : Int)
    (progress : ReferralDatabase × ReferralSettlementBatch) (commission : ReferralCommission) :
    Except ReferralError (ReferralDatabase × ReferralSettlementBatch) :=
  let (db, batch) := progress
  match
    if lookupFails commission.id then none
    else affiliates.find? (fun row => row.id = commission.affiliateId)
  with
  | none => .ok (db, { batch with failedCount := batch.failedCount + 1 })
  | some affiliate =>
    if !affiliate.settles then .ok (db, { batch with skippedCount := batch.skippedCount + 1 })
    else do
      let (db, settled) ← settleCommissionTx now db affiliate commission
      let counted := { batch with settledCount := batch.settledCount + 1 }
      return (db, if settled then counted else batch)

def runSettlementBatch (affiliates : List ReferralAffiliate) (lookupFails : Int → Bool) (now : Int)
    (db : ReferralDatabase) :
    Except ReferralError (ReferralDatabase × ReferralSettlementBatch) :=
  let commissions := (db.dueCommissions now).take settlementBatchLimit
  commissions.foldlM (runSettlementRow affiliates lookupFails now)
    (db, { scannedCount := commissions.length })

def runSettlementRowInline (affiliates : List ReferralAffiliate) (now : Int)
    (progress : ReferralDatabase × Nat) (commission : ReferralCommission) :
    Except ReferralError (ReferralDatabase × Nat) :=
  let (db, settledCount) := progress
  match affiliates.find? (fun row => row.id = commission.affiliateId) with
  | none => .error .recordNotFound
  | some affiliate =>
    if !affiliate.settles then .ok (db, settledCount)
    else do
      let (db, settled) ← settleCommissionTx now db affiliate commission
      return (db, if settled then settledCount + 1 else settledCount)

def runSettlementBatchInline
    (affiliates : List ReferralAffiliate) (now : Int) (db : ReferralDatabase) :
    Except ReferralError (ReferralDatabase × Nat) :=
  ((db.dueCommissions now).take settlementBatchLimit).foldlM
    (runSettlementRowInline affiliates now) (db, 0)

end NewApi.Referral
