import NewApi.Referral.Commissions

/-!
# Withdrawals

A withdrawal freezes its amount on the account and is split over the settled
commissions of the affiliate, oldest first.  It ends paid, rejected or
canceled; the last two give the amount and the parts of the commissions back.
The administrator's adjustment changes the available balance without any
commission.
-/

namespace NewApi.Referral

open GoStrings

/-- The items of a commission that hold part of it, by status. -/
def ReferralDatabase.allocated
    (db : ReferralDatabase) (status : ItemStatus) (commissionId : Int) : Int :=
  db.items.total (fun item =>
    if item.commissionId = commissionId ∧ item.status = status then item.allocatedAmount
    else 0)

def deriveCommissionStatusTx (db : ReferralDatabase) (commissionId commissionAmount : Int) :
    CommissionStatus :=
  if 0 < db.allocated .frozen commissionId then .frozen
  else if commissionAmount ≤ db.allocated .withdrawn commissionId + 1 then .paid
  else .available

def syncCommissionStatusTx (now : Int) (db : ReferralDatabase) (commissionId : Int) :
    Except ReferralError ReferralDatabase :=
  match db.commissions.lookup commissionId with
  | none => .error .recordNotFound
  | some commission =>
    if commission.status = .pending then .ok db
    else
      let status := deriveCommissionStatusTx db commissionId commission.commissionAmount
      let frozenAt :=
        if status ≠ .frozen then 0
        else if commission.frozenAt = 0 then now
        else commission.frozenAt
      .ok
        { db with
          commissions :=
            db.commissions.save { commission with status := status, frozenAt := frozenAt } }

def createItem (db : ReferralDatabase) (withdrawalId commissionId allocatedAmount : Int) :
    Except ReferralError ReferralDatabase :=
  match
    db.items.create
      { id := nextId (db.items.rows.map ReferralWithdrawalItem.id)
        withdrawalId := withdrawalId
        commissionId := commissionId
        allocatedAmount := allocatedAmount
        status := .frozen }
  with
  | some items => .ok { db with items := items }
  | none => .error .duplicatedKey

/-- One commission of the allocation; the second component is what is left to
allocate. -/
def allocateFromCommission (now withdrawalId : Int) (progress : ReferralDatabase × Int)
    (commission : ReferralCommission) :
    Except ReferralError (ReferralDatabase × Int) :=
  let (db, remaining) := progress
  if remaining ≤ 0 then .ok progress
  else
    let available :=
      commission.commissionAmount - db.allocated .frozen commission.id -
        db.allocated .withdrawn commission.id
    if available ≤ 0 then .ok progress
    else do
      let useAmount := min available remaining
      let db ← createItem db withdrawalId commission.id useAmount
      let db ← syncCommissionStatusTx now db commission.id
      return (db, remaining - useAmount)

def ReferralDatabase.settledCommissions
    (db : ReferralDatabase) (affiliateId : Int) : List ReferralCommission :=
  (db.commissions.rows.filter (fun commission =>
      commission.affiliateId = affiliateId && decide (commission.status ≠ .pending))).insertionSort
    (fun left right =>
      left.availableAt < right.availableAt ∨
        left.availableAt = right.availableAt ∧ left.id ≤ right.id)

/-- More than one unit that no commission covers becomes an item of its own. -/
def allocateWithdrawalItemsTx
    (now : Int) (db : ReferralDatabase) (affiliateId withdrawalId amount : Int) :
    Except ReferralError ReferralDatabase := do
  let (db, remaining) ←
    (db.settledCommissions affiliateId).foldlM
      (allocateFromCommission now withdrawalId) (db, amount)
  if 1 < remaining then createItem db withdrawalId 0 remaining
  else return db

/-- Both ways an item ends: it is saved, and the commission behind it gets the
status that its items now give. -/
def endItem (now : Int) (change : ReferralWithdrawalItem → ReferralWithdrawalItem)
    (db : ReferralDatabase) (item : ReferralWithdrawalItem) :
    Except ReferralError ReferralDatabase :=
  let db := { db with items := db.items.save (change item) }
  if item.commissionId ≤ 0 then .ok db
  else syncCommissionStatusTx now db item.commissionId

def ReferralDatabase.frozenItems
    (db : ReferralDatabase) (withdrawalId : Int) : List ReferralWithdrawalItem :=
  db.items.rows.filter (fun item => item.withdrawalId = withdrawalId && item.status = .frozen)

def releaseWithdrawalItemsTx (now : Int) (db : ReferralDatabase) (withdrawalId : Int) :
    Except ReferralError ReferralDatabase :=
  (db.frozenItems withdrawalId).foldlM
    (endItem now (fun item => { item with status := .released, allocatedAmount := 0 }))
    db

def markWithdrawalItemsPaidTx (now : Int) (db : ReferralDatabase) (withdrawalId : Int) :
    Except ReferralError ReferralDatabase :=
  (db.frozenItems withdrawalId).foldlM
    (endItem now (fun item => { item with status := .withdrawn })) db

structure WithdrawalCreateInput where
  userId : Int
  amount : Int
  accountType : String
  accountName : String
  accountNo : String
  accountNetwork : String
  qrImageURL : String
  applicantNote : String
  idempotencyKey : String
  deriving DecidableEq, Repr

def normalizeWithdrawalNetwork (mapping : CaseMapping) (value : String) : String :=
  let network := toLower mapping (trimSpace value)
  if network = "trc20" then "TRC20"
  else if network = "bep20" then "BEP20"
  else if network = "polygon" then "Polygon"
  else ""

def stripAssetSignature (value : String) : String :=
  String.ofList ((trimSpace value).toList.takeWhile (· ≠ '?'))

def sameWithdrawalRequest (mapping : CaseMapping) (existing : ReferralWithdrawal)
    (input : WithdrawalCreateInput) : Bool :=
  existing.amount = input.amount &&
    trimSpace existing.idempotencyKey = trimSpace input.idempotencyKey &&
    equalFold mapping (trimSpace existing.accountType) (trimSpace input.accountType) &&
    trimSpace existing.accountName = trimSpace input.accountName &&
    trimSpace existing.accountNo = trimSpace input.accountNo &&
    equalFold mapping
      (normalizeWithdrawalNetwork mapping existing.accountNetwork)
      (normalizeWithdrawalNetwork mapping input.accountNetwork) &&
    stripAssetSignature existing.qrImageURL = stripAssetSignature input.qrImageURL &&
    trimSpace existing.applicantNote = trimSpace input.applicantNote

/-- The request in the form it is compared with an earlier one. -/
def canonicalWithdrawalInput (mapping : CaseMapping) (input : WithdrawalCreateInput)
    (qrImagePath : String) : WithdrawalCreateInput :=
  let accountType := toLower mapping (trimSpace input.accountType)
  let accountName := trimSpace input.accountName
  let accountNetwork := trimSpace input.accountNetwork
  { input with
    accountType := accountType
    accountName := if accountType = "usdt" then "" else accountName
    accountNo := trimSpace input.accountNo
    accountNetwork :=
      if accountType = "alipay" then ""
      else if accountType = "usdt" then normalizeWithdrawalNetwork mapping accountNetwork
      else accountNetwork
    qrImageURL := qrImagePath }

def newWithdrawal (settings : ReferralSettings) (now : Int) (affiliate : ReferralAffiliate)
    (input : WithdrawalCreateInput) (qrImagePath : String) (id fee : Int) :
    Except ReferralError ReferralWithdrawal :=
  let withdrawal : ReferralWithdrawal :=
    { id := id
      affiliateId := affiliate.id
      userId := input.userId
      amount := input.amount
      feeAmount := fee
      netAmount := input.amount - fee
      accountType := toLower settings.mapping (trimSpace input.accountType)
      accountName := trimSpace input.accountName
      accountNo := trimSpace input.accountNo
      accountNetwork := trimSpace input.accountNetwork
      qrImageURL := qrImagePath
      applicantNote := trimSpace input.applicantNote
      status := .pending
      idempotencyKey := trimSpace input.idempotencyKey
      submittedAt := now }
  if withdrawal.accountNo = "" then .error (.text "withdrawal account is required")
  else if withdrawal.accountType = "alipay" then
    if withdrawal.accountName = "" then .error (.text "withdrawal account name is required")
    else .ok { withdrawal with accountNetwork := "" }
  else if withdrawal.accountType = "usdt" then
    let network := normalizeWithdrawalNetwork settings.mapping withdrawal.accountNetwork
    if network = "" then .error (.text "invalid withdraw network")
    else .ok { withdrawal with accountName := "", accountNetwork := network }
  else .error (.text "invalid withdraw type")

def freezeLine (withdrawal : ReferralWithdrawal) (affiliate : ReferralAffiliate) :
    ReferralCommissionLedger where
  externalRefId := .withdrawalFreeze withdrawal.idempotencyKey
  affiliateId := affiliate.id
  userId := affiliate.userId
  withdrawalId := withdrawal.id
  type := .withdrawalFreeze
  refType := "withdrawal"
  refId := toString withdrawal.id
  deltaAvailable := -withdrawal.amount
  deltaFrozen := withdrawal.amount
  remark := "user created referral withdrawal"

def bookWithdrawalTx (now : Int) (db : ReferralDatabase) (affiliate : ReferralAffiliate)
    (withdrawal : ReferralWithdrawal) : Except ReferralError ReferralDatabase := do
  let db ← requireRow "available referral balance is insufficient"
    (updateAccount db affiliate.id
      (fun account => decide (withdrawal.amount ≤ account.availableAmount))
      (·.freeze withdrawal.amount))
  let withdrawals ←
    (if db.withdrawals.rows.any (fun row =>
        row.idempotencyKey = withdrawal.idempotencyKey) then
      .error .duplicatedKey
    else
      match db.withdrawals.create withdrawal with
      | some withdrawals => .ok withdrawals
      | none => .error .duplicatedKey)
  let db ←
    allocateWithdrawalItemsTx now { db with withdrawals := withdrawals }
      affiliate.id withdrawal.id withdrawal.amount
  createLedgerTx db (freezeLine withdrawal affiliate)

/-- `CreateWithdrawal`.  `enabled` is the referral switch and `asset` what
`validateWithdrawalAssetTx` makes of an image of the user. -/
def createWithdrawal (settings : ReferralSettings) (affiliates : List ReferralAffiliate)
    (enabled : Bool) (asset : String → Except ReferralError String) (now : Int)
    (db : ReferralDatabase) (input : WithdrawalCreateInput) :
    Except ReferralError ReferralDatabase :=
  if enabled = false then .error (.text "referral is disabled")
  else if input.userId ≤ 0 then .error (.text "invalid user")
  else if input.amount ≤ 0 then .error (.text "withdraw amount must be greater than 0")
  else if 0 < settings.minWithdrawAmount ∧
      input.amount < settings.minWithdrawAmount then
    .error (.text "withdraw amount is below minimum threshold")
  else if trimSpace input.idempotencyKey = "" then .error (.text "idempotency key is required")
  else
    match affiliates.find? (fun row => row.userId = input.userId) with
    | none => .error (.text "referral profile not found")
    | some affiliate =>
      if affiliate.status ≠ .approved ∨ affiliate.withdrawalEnabled = false then
        .error (.text "withdrawal is disabled for current affiliate")
      else if (db.accounts.lookup affiliate.id).isNone then .error .recordNotFound
      else do
        let qrImagePath ← asset (trimSpace input.qrImageURL)
        let existing := db.withdrawals.rows.find? (fun row =>
          row.userId = input.userId && row.idempotencyKey = trimSpace input.idempotencyKey)
        match existing with
        | some row =>
          if sameWithdrawalRequest settings.mapping row
              (canonicalWithdrawalInput settings.mapping input qrImagePath)
          then return db
          else .error (.text "idempotency key conflicts with different payload")
        | none =>
          if settings.withdrawFee < 0 then .error (.text "withdraw fee must be non-negative")
          else if input.amount < settings.withdrawFee then
            .error (.text "withdraw fee exceeds withdrawal amount")
          else
            let withdrawal ←
              newWithdrawal settings now affiliate input qrImagePath
                (nextId (db.withdrawals.rows.map ReferralWithdrawal.id))
                settings.withdrawFee
            bookWithdrawalTx now db affiliate withdrawal

/-! ## The end of a withdrawal -/

def ReferralDatabase.saveWithdrawal (db : ReferralDatabase) (withdrawal : ReferralWithdrawal) :
    ReferralDatabase :=
  { db with withdrawals := db.withdrawals.save withdrawal }

def referralWithdrawalCancelWindowSeconds : Int := 30 * 60

/-- The frozen amount goes back to the available balance, with its items; the
caller has saved the withdrawal under its new status. -/
def releaseFrozenTx (now : Int) (db : ReferralDatabase) (withdrawal : ReferralWithdrawal)
    (type : LedgerType) (externalRefId : ExternalRef) (remark : String) :
    Except ReferralError ReferralDatabase := do
  let db ← requireRow "withdrawal frozen balance is invalid"
    (updateAccount db withdrawal.affiliateId
      (fun account => decide (withdrawal.amount ≤ account.frozenAmount))
      (·.release withdrawal.amount))
  let db ← releaseWithdrawalItemsTx now db withdrawal.id
  createLedgerTx db
    { externalRefId := externalRefId
      affiliateId := withdrawal.affiliateId
      userId := withdrawal.userId
      withdrawalId := withdrawal.id
      type := type
      refType := "withdrawal"
      refId := toString withdrawal.id
      deltaAvailable := withdrawal.amount
      deltaFrozen := -withdrawal.amount
      remark := remark }

/-- The frozen amount has left the account, with its items. -/
def payFrozenTx (now : Int) (db : ReferralDatabase) (withdrawal : ReferralWithdrawal)
    (remark : String) : Except ReferralError ReferralDatabase := do
  let db ← requireRow "withdrawal frozen balance is invalid"
    (updateAccount db withdrawal.affiliateId
      (fun account => decide (withdrawal.amount ≤ account.frozenAmount))
      (·.pay withdrawal.amount))
  let db ← markWithdrawalItemsPaidTx now db withdrawal.id
  createLedgerTx db
    { externalRefId := .withdrawalPaid withdrawal.id
      affiliateId := withdrawal.affiliateId
      userId := withdrawal.userId
      withdrawalId := withdrawal.id
      type := .withdrawalPaid
      refType := "withdrawal"
      refId := toString withdrawal.id
      deltaFrozen := -withdrawal.amount
      deltaWithdrawn := withdrawal.amount
      remark := remark }

def cancelWithdrawal (now : Int) (db : ReferralDatabase) (withdrawalId userId : Int) :
    Except ReferralError ReferralDatabase :=
  if withdrawalId ≤ 0 ∨ userId ≤ 0 then .error (.text "invalid withdrawal")
  else
    match db.withdrawals.lookup withdrawalId with
    | none => .error .recordNotFound
    | some withdrawal =>
      if withdrawal.userId ≠ userId then .error (.text "withdrawal does not belong to current user")
      else if withdrawal.status ≠ .pending then
        .error (.text "only pending withdrawals can be canceled")
      else if withdrawal.submittedAt ≤ 0 ∨
          referralWithdrawalCancelWindowSeconds < now - withdrawal.submittedAt then
        .error (.text "withdrawal can only be canceled within 30 minutes after submission")
      else if (db.accounts.lookup withdrawal.affiliateId).isNone then .error .recordNotFound
      else
        releaseFrozenTx now
          (db.saveWithdrawal
            { withdrawal with
              status := .canceled
              review.canceledAt := now
              review.canceledBy := userId })
          withdrawal .withdrawalCancelRelease
          (.withdrawalCancelRelease withdrawal.id)
          "user canceled referral withdrawal"

/-- What an administrator passes to the review and the payment of a withdrawal. -/
structure WithdrawalReviewInput where
  withdrawalId : Int
  adminUserId : Int
  adminNote : String
  deriving DecidableEq, Repr

/-- `deadline` is the second reading of the clock, two days on. -/
def approveWithdrawal (now deadline : Int) (db : ReferralDatabase)
    (input : WithdrawalReviewInput) : Except ReferralError ReferralDatabase :=
  match db.withdrawals.lookup input.withdrawalId with
  | none => .error .recordNotFound
  | some withdrawal =>
    if withdrawal.status ≠ .pending then .error (.text "only pending withdrawals can be approved")
    else
      createLedgerTx
        (db.saveWithdrawal
          { withdrawal with
            status := .approved
            review.approvedAt := now
            review.payoutDeadlineAt := deadline
            review.reviewedBy := input.adminUserId
            review.adminNote := trimSpace input.adminNote })
        { externalRefId := .withdrawalApprove withdrawal.id
          affiliateId := withdrawal.affiliateId
          userId := withdrawal.userId
          withdrawalId := withdrawal.id
          type := .withdrawalApprove
          refType := "withdrawal"
          refId := toString withdrawal.id
          remark := trimSpace input.adminNote }

/-- `asset` is what `validatePaymentProofAssetTx` makes of the proof. -/
def rejectWithdrawal (now : Int) (asset : String → Except ReferralError String)
    (db : ReferralDatabase) (input : WithdrawalReviewInput)
    (rejectProofURL rejectReason : String) : Except ReferralError ReferralDatabase :=
  match db.withdrawals.lookup input.withdrawalId with
  | none => .error .recordNotFound
  | some withdrawal =>
    if withdrawal.status ≠ .pending ∧ withdrawal.status ≠ .approved then
      .error (.text "withdrawal can not be rejected")
    else if (db.accounts.lookup withdrawal.affiliateId).isNone then .error .recordNotFound
    else do
      let rejectProofPath ← asset (trimSpace rejectProofURL)
      releaseFrozenTx now
        (db.saveWithdrawal
          { withdrawal with
            status := .rejected
            review.rejectedAt := now
            review.rejectedBy := input.adminUserId
            review.rejectReason := trimSpace rejectReason
            review.rejectProofURL := rejectProofPath
            review.adminNote := trimSpace input.adminNote })
        withdrawal .withdrawalRejectRelease
        (.withdrawalRejectRelease withdrawal.id) (trimSpace rejectReason)

def markWithdrawalPaid (now : Int) (asset : String → Except ReferralError String)
    (db : ReferralDatabase) (input : WithdrawalReviewInput)
    (paymentProofURL paymentTxnNo : String) : Except ReferralError ReferralDatabase :=
  match db.withdrawals.lookup input.withdrawalId with
  | none => .error .recordNotFound
  | some withdrawal =>
    if withdrawal.status ≠ .approved then
      .error (.text "only approved withdrawals can be marked paid")
    else do
      let paymentProofPath ← asset (trimSpace paymentProofURL)
      if (db.accounts.lookup withdrawal.affiliateId).isNone then .error .recordNotFound
      else
        payFrozenTx now
          (db.saveWithdrawal
            { withdrawal with
              status := .paid
              review.paidAt := now
              review.adminNote := trimSpace input.adminNote
              review.paymentProofURL := paymentProofPath
              review.paymentTxnNo := trimSpace paymentTxnNo })
          withdrawal (trimSpace paymentTxnNo)

structure AdjustInput where
  userId : Int
  adminUserId : Int
  delta : Int
  remark : String
  idempotencyKey : String
  deriving DecidableEq, Repr

def sameAdjustmentPayload (existing : ReferralCommissionLedger) (affiliateId userId delta : Int)
    (remark : String) : Bool :=
  existing.affiliateId = affiliateId && existing.userId = userId &&
    existing.deltaAvailable = delta && trimSpace existing.remark = trimSpace remark

def adjustAffiliateCommission (affiliates : List ReferralAffiliate) (db : ReferralDatabase)
    (input : AdjustInput) : Except ReferralError ReferralDatabase :=
  if input.userId ≤ 0 ∨ input.adminUserId ≤ 0 then .error (.text "invalid adjust request")
  else if input.delta = 0 then .error (.text "adjust amount must not be zero")
  else if trimSpace input.idempotencyKey = "" then .error (.text "idempotency key is required")
  else
    match affiliates.find? (fun row => row.userId = input.userId) with
    | none => .error .recordNotFound
    | some affiliate => do
        let (db, account) ← getOrCreateAccountTx db affiliate.id affiliate.userId
        let line : ReferralCommissionLedger :=
          { externalRefId := .adjust (trimSpace input.idempotencyKey)
            affiliateId := affiliate.id
            userId := affiliate.userId
            type :=
              if input.delta < 0 then .commissionAdjustDecrease
              else .commissionAdjustIncrease
            refType := "affiliate"
            refId := toString affiliate.id
            deltaAvailable := input.delta
            remark := trimSpace input.remark }
        match db.ledger.lookup line.externalRefId with
        | some existing =>
          if sameAdjustmentPayload existing affiliate.id affiliate.userId
              input.delta input.remark then
            return db
          else .error (.text "idempotency key conflicts with different payload")
        | none =>
          let db ← createLedgerTx db line
          requireRow "available referral balance is insufficient"
            (updateAccount db account.affiliateId
              (fun account => decide (0 ≤ input.delta ∨ -input.delta ≤ account.availableAmount))
              (·.adjust input.delta))

end NewApi.Referral
