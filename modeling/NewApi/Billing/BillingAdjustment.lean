import NewApi.Billing.Subscription
import NewApi.Billing.WalletPreConsume

/-!
# The settlement ledger

`model/billing_adjustment.go`.  A ledger row is written once for each relay
request: `pending`, then `applied` with the settle delta, and `rolledBack` when
the request is refunded.  The after-commit writes to Redis are part of each
result as a list of `CacheWrite`.
-/

namespace NewApi.Billing

open Transactions

def billingAdjustmentKey (requestID : String) : String := "billing:" ++ requestID

theorem billingAdjustmentKey_ne_empty (requestID : String) :
    billingAdjustmentKey requestID ≠ "" := by
  intro empty
  have lengths := congrArg String.length empty
  simp [billingAdjustmentKey] at lengths

structure BillingAdjustmentRequest where
  idempotencyKey : String
  requestID : String
  userID : Int
  tokenID : Int
  source : BillingAdjustmentSource
  subscriptionID : Int
  fundingDelta : Int
  tokenDelta : Int
  chargeQuota : Int
  reservationQuota : Int
  extraReserved : Int
  tokenIncluded : Bool
  deriving DecidableEq, Repr

namespace BillingAdjustmentRequest

variable (req : BillingAdjustmentRequest)

def checkToken : Except BillingError Unit :=
  if req.tokenIncluded then
    if req.tokenID ≤ 0 then .error (.text "billing adjustment token is empty")
    else if req.tokenDelta ≠ req.fundingDelta then
      .error
        (.billingAdjustmentConflict
          (": token delta " ++ toString req.tokenDelta ++
            " funding delta " ++ toString req.fundingDelta))
    else .ok ()
  else if req.tokenDelta ≠ 0 then
    .error (.billingAdjustmentConflict ": token delta must be zero when token is excluded")
  else .ok ()

def checkSource : Except BillingError Unit :=
  match req.source with
  | .wallet =>
    if req.subscriptionID ≠ 0 then
      .error (.billingAdjustmentConflict ": wallet adjustment cannot carry a subscription")
    else .ok ()
  | .subscription =>
    if req.subscriptionID ≤ 0 then .error (.text "billing adjustment subscription is empty")
    else .ok ()

/-- The checks that precede every settlement.  The source is an enumeration
here, so the branch for an unknown source has no counterpart. -/
def validate : Except BillingError Unit :=
  if req.idempotencyKey = "" then .error (.text "billing adjustment key is empty")
  else if req.userID ≤ 0 then .error (.text "billing adjustment user is empty")
  else if req.chargeQuota < 0 ∨ req.reservationQuota < 0 ∨
      req.extraReserved < 0 then
    .error (.text "billing adjustment quota cannot be negative")
  else if req.reservationQuota + req.fundingDelta ≠ req.chargeQuota then
    .error
      (.billingAdjustmentConflict
        (": reservation " ++ toString req.reservationQuota ++
          " delta " ++ toString req.fundingDelta ++
          " charge " ++ toString req.chargeQuota))
  else do
    req.checkSource
    req.checkToken

def same (row : BillingAdjustment) : Bool :=
  row.userID = req.userID &&
    row.tokenID = req.tokenID &&
    row.source = req.source &&
    row.subscriptionID = req.subscriptionID &&
    row.fundingDelta = req.fundingDelta &&
    row.tokenDelta = req.tokenDelta &&
    row.chargeQuota = req.chargeQuota &&
    row.reservationQuota = req.reservationQuota &&
    row.extraReserved = req.extraReserved &&
    row.tokenIncluded = req.tokenIncluded

variable {req} in
theorem checked_same {α : Type} {row : BillingAdjustment} {err : BillingError}
    {rest : Except BillingError α} {result : α}
    (done : (if !req.same row then .error err else rest) = .ok result) :
    req.same row = true ∧ rest = .ok result := by
  obtain ⟨notDifferent, done⟩ := guard_ok_iff.mp done
  exact ⟨by simpa using notDifferent, done⟩

def pendingRow (now consumedAt : Int) : BillingAdjustment where
  idempotencyKey := req.idempotencyKey
  requestID := req.requestID
  userID := req.userID
  tokenID := req.tokenID
  source := req.source
  subscriptionID := req.subscriptionID
  fundingDelta := req.fundingDelta
  tokenDelta := req.tokenDelta
  chargeQuota := req.chargeQuota
  reservationQuota := req.reservationQuota
  extraReserved := req.extraReserved
  subscriptionConsumedAt := consumedAt
  tokenIncluded := req.tokenIncluded
  status := .pending
  createdAt := now
  updatedAt := now

end BillingAdjustmentRequest

def lockOrCreateBillingAdjustment (db : Database) (now : Int) (req : BillingAdjustmentRequest) :
    Except BillingError (BillingAdjustment × Database) :=
  match db.billingAdjustments.lookup req.idempotencyKey with
  | some row => .ok (row, db)
  | none => do
      let consumedAt :=
        match req.source with
        | .subscription => subscriptionPreConsumeCreatedAtTx db req.requestID
        | .wallet => 0
      let row := req.pendingRow now consumedAt
      let db ← db.createBillingAdjustment row
      .ok (row, db)

inductive CacheWrite where
  /-- `InvalidateUserCache`. -/
  | invalidateUser (userID : Int)
  /-- `applyUserQuotaCacheDeltaBestEffort`. -/
  | userDelta (userID delta : Int)
  /-- `applyTokenQuotaCacheDelta` with the change of the remaining quota. -/
  | tokenDelta (tokenID delta : Int)
  deriving DecidableEq, Repr

def applyBillingAdjustmentCache (req : BillingAdjustmentRequest) : List CacheWrite :=
  (if req.source = .wallet ∧ req.fundingDelta ≠ 0 then [.userDelta req.userID (-req.fundingDelta)]
    else []) ++
    if !req.tokenIncluded ∨ req.tokenDelta = 0 ∨ req.tokenID ≤ 0 then []
    else [.tokenDelta req.tokenID (-req.tokenDelta)]

/-- The writes after a settlement.  A full charge after a refund drops the
cached balance, because the stored delta is not what the wallet paid. -/
def settledCacheWrites (req : BillingAdjustmentRequest) (walletCacheInvalidate : Bool)
    (userID : Int) : List CacheWrite :=
  if walletCacheInvalidate ∧ 0 < userID then
    .invalidateUser userID :: applyBillingAdjustmentCache { req with fundingDelta := 0 }
  else applyBillingAdjustmentCache req

structure BillingAdjustmentCache where
  moved : Bool := false
  userID : Int := 0
  userDelta : Int := 0
  tokenID : Int := 0
  tokenAdd : Int := 0
  source : BillingAdjustmentSource := .wallet
  deriving DecidableEq, Repr

/-- `billingAdjustmentCacheFrom` with `credit` set, as both callers have it. -/
def billingAdjustmentCacheFrom
    (row : BillingAdjustment) (refunded : Int) : BillingAdjustmentCache :=
  if refunded = 0 then
    {}
  else
    { moved := true
      source := row.source
      userID := row.userID
      userDelta := if row.source = .wallet then refunded else 0
      tokenID := if row.tokenIncluded ∧ 0 < row.tokenID then row.tokenID else 0
      tokenAdd := if row.tokenIncluded ∧ 0 < row.tokenID then refunded else 0 }

def applyBillingRollbackCache (cache : BillingAdjustmentCache) : List CacheWrite :=
  if !cache.moved then []
  else
    (if cache.source = .wallet ∧ cache.userDelta ≠ 0 then [.userDelta cache.userID cache.userDelta]
      else []) ++
      if 0 < cache.tokenID ∧ cache.tokenAdd ≠ 0 then [.tokenDelta cache.tokenID cache.tokenAdd]
      else []

/-- A missing token row does not hold the funding side back. -/
def ignoreMissingToken (db : Database) (outcome : Except BillingError Database) :
    Except BillingError Database :=
  match outcome with
  | .ok next => .ok next
  | .error err => if isTokenQuotaNoRowsError err then .ok db else .error err

def subscriptionLedgerConsumedAtTx (db : Database) (row : BillingAdjustment) : Int :=
  if 0 < row.subscriptionConsumedAt then row.subscriptionConsumedAt
  else
    let createdAt := subscriptionPreConsumeCreatedAtTx db row.requestID
    if 0 < createdAt then createdAt else row.createdAt

/-- Move the settle delta of the funding source.  The flag in the result is
`WalletCacheInvalidate`. -/
def applyFundingDelta (db : Database) (now : Int) (row : BillingAdjustment) (delta : Int) :
    Except BillingError (Bool × Database) :=
  match row.source with
  | .wallet => applyWalletFundingDelta db now row delta
  | .subscription => do
      let db ←
        applySubscriptionLedgerChargeTx db row.subscriptionID delta
          row.chargeQuota (subscriptionLedgerConsumedAtTx db row) row.requestID
      .ok (false, db)

def applyTokenDelta (db : Database) (row : BillingAdjustment) : Except BillingError Database :=
  if !row.tokenIncluded ∨ row.tokenDelta = 0 then .ok db
  else if 0 < row.tokenDelta then
    ignoreMissingToken db (decreaseTokenQuotaAllowNegativeTx db row.tokenID row.tokenDelta)
  else
    ignoreMissingToken db (increaseTokenQuotaTx db row.tokenID (-row.tokenDelta))

def applyBillingAdjustmentDeltas (db : Database) (now : Int) (row : BillingAdjustment) :
    Except BillingError (Bool × Database) := do
  let (invalidate, db) ← applyFundingDelta db now row row.fundingDelta
  let db ← applyTokenDelta db row
  .ok (invalidate, db)

def BillingAdjustment.settled (row : BillingAdjustment) (now : Int) : BillingAdjustment :=
  { row with status := .applied, updatedAt := now }

/-- What a settlement reports: whether it moved the delta now, and the cache
writes that follow. -/
structure ApplyOutcome where
  appliedNow : Bool
  cache : List CacheWrite
  deriving DecidableEq, Repr

def applyBillingAdjustment (db : Database) (now : Int) (req : BillingAdjustmentRequest) :
    Except BillingError (ApplyOutcome × Database) := do
  req.validate
  let (row, db) ← lockOrCreateBillingAdjustment db now req
  if !req.same row then .error (.billingAdjustmentConflict "")
  else
    match row.status with
    | .applied => .ok (⟨false, []⟩, db)
    | .rolledBack => .error .billingAdjustmentClosed
    | .pending => do
        let (invalidate, db) ← applyBillingAdjustmentDeltas db now row
        .ok
          (⟨true, settledCacheWrites req invalidate row.userID⟩,
            db.saveBillingAdjustment (row.settled now))

def ensurePendingBillingAdjustment (db : Database) (now : Int) (req : BillingAdjustmentRequest) :
    Except BillingError Database := do
  req.validate
  let (row, db) ← lockOrCreateBillingAdjustment db now req
  if !req.same row then .error (.billingAdjustmentConflict "")
  else
    match row.status with
    | .pending => .ok db
    | .applied => .ok db
    | .rolledBack => .error .billingAdjustmentClosed

def getBillingAdjustment (db : Database) (key : String) :
    Except BillingError (Option BillingAdjustment) :=
  if key = "" then .error (.text "billing adjustment key is empty")
  else .ok (db.billingAdjustments.lookup key)

def billingAdjustmentRetryable (err : BillingError) : Bool :=
  match err with
  | .billingAdjustmentConflict _ => false
  | .billingAdjustmentClosed => false
  | .billingAdjustmentAbsent => false
  | .billingAdjustmentDeferred => false
  | .tokenQuotaInsufficient _ => false
  | .tokenQuotaNoRows _ => false
  | err =>
    let message := err.message.toList.map Char.toLower
    !(["cannot be negative", "unsupported billing",
        "quota cannot be negative", "subscription used exceeds total",
        "invalid user", "database is required",
        "database transaction is required"].any
      (fun needle => decide (needle.toList <:+: message)))

def reopenSubscriptionPreConsumeForDeliveredChargeTx
    (db : Database) (requestID : String) (amount : Int) : Database :=
  if requestID = "" then db
  else
    match db.subscriptionPreConsumes.lookup requestID with
    | none => db
    | some record =>
      db.saveSubscriptionPreConsume
        { record with
          status := .consumed
          preConsumed := amount
          postResetReserved := 0 }

def BillingAdjustment.recharged (row : BillingAdjustment) (req : BillingAdjustmentRequest) :
    BillingAdjustment :=
  { row with
    requestID := req.requestID
    userID := req.userID
    tokenID := req.tokenID
    source := req.source
    subscriptionID := req.subscriptionID
    fundingDelta := req.fundingDelta
    tokenDelta := req.tokenDelta
    chargeQuota := req.chargeQuota
    reservationQuota := req.reservationQuota
    extraReserved := req.extraReserved
    tokenIncluded := req.tokenIncluded
    refundedQuota := 0 }

def applyDeliveredChargeToRolledBackTx (db : Database) (now : Int) (row : BillingAdjustment)
    (req : BillingAdjustmentRequest) :
    Except BillingError ((Bool × BillingAdjustment) × Database) := do
  let row := row.recharged req
  let db :=
    match row.source with
    | .subscription =>
      reopenSubscriptionPreConsumeForDeliveredChargeTx db row.requestID row.chargeQuota
    | .wallet => db
  let (invalidate, db) ← applyBillingAdjustmentDeltas db now row
  let row := row.settled now
  .ok ((invalidate, row), db.saveBillingAdjustment row)

structure CollectOutcome where
  charged : Int
  applied : Bool
  cache : List CacheWrite
  deriving DecidableEq, Repr

def collectDeliveredBillingCharge (db : Database) (now : Int) (req : BillingAdjustmentRequest) :
    Except BillingError (CollectOutcome × Database) := do
  req.validate
  let (row, db) ← lockOrCreateBillingAdjustment db now req
  match row.status with
  | .applied => .ok (⟨row.chargeQuota, false, []⟩, db)
  | .pending =>
    if !req.same row then .error (.billingAdjustmentConflict "")
    else do
      let (invalidate, db) ← applyBillingAdjustmentDeltas db now row
      .ok
        (⟨row.chargeQuota, true,
            settledCacheWrites req invalidate row.userID⟩,
          db.saveBillingAdjustment (row.settled now))
  | .rolledBack => do
      let ((invalidate, row), db) ← applyDeliveredChargeToRolledBackTx db now row req
      .ok (⟨row.chargeQuota, true, settledCacheWrites req invalidate row.userID⟩, db)

/-! ## Refunding -/

def creditWallet (db : Database) (userID amount : Int) : Except BillingError Database :=
  if amount = 0 then .ok db
  else if amount < 0 then .error (.text "billing adjustment credit cannot be negative")
  else increaseUserQuotaTx db userID amount

def creditTokenAmount (db : Database) (row : BillingAdjustment) (amount : Int) :
    Except BillingError Database :=
  if !row.tokenIncluded ∨ amount = 0 ∨ row.tokenID ≤ 0 then .ok db
  else ignoreMissingToken db (increaseTokenQuotaTx db row.tokenID amount)

def creditHeld (db : Database) (userID amount : Int) : Except BillingError Database :=
  if 0 < amount then creditWallet db userID amount else .ok db

/-- Return the wallet part of a reservation once; the reserve row says how
much of it is still out. -/
def creditWalletReservationOnceTx (db : Database) (now : Int) (row : BillingAdjustment) :
    Except BillingError (Int × Database) :=
  match lockWalletPreConsumeTx db row.requestID with
  | none => do
      let db ← creditWallet db row.userID row.reservationQuota
      .ok (row.reservationQuota, db)
  | some record =>
    match record.status with
    | .refunded => .ok (0, db)
    | .reserved => do
        let db ← creditHeld db row.userID record.amount
        .ok (record.amount, markWalletPreConsumeRefundedTx db now row.requestID)
    | .trusted => do
        let db ← creditHeld db row.userID record.collected
        .ok (record.collected, markWalletPreConsumeRefundedTx db now row.requestID)
    | .settled => do
        let amount := if record.collected ≤ 0 then record.amount else record.collected
        let db ← creditHeld db row.userID amount
        .ok (amount, db.saveWalletPreConsume { record with status := .refunded, updatedAt := now })

/-- Refund the pre-consume of a reservation; the flag says that the reserve
row is missing. -/
def refundReservedPreConsumeTx (db : Database) (row : BillingAdjustment) :
    Except BillingError (Bool × Database) :=
  match refundSubscriptionPreConsumeTx db row.requestID with
  | .ok next => .ok (false, next)
  | .error .recordNotFound => .ok (true, db)
  | .error err => .error err

/-- Without a reserve row the pre-consume is read off the ledger row. -/
def refundMissingPreConsumeTx (db : Database) (row : BillingAdjustment) (missingRecord : Bool)
    (consumedAt : Int) : Except BillingError Database :=
  if missingRecord then
    let preConsumed := row.reservationQuota - row.extraReserved
    if preConsumed < 0 then
      .error
        (.billingAdjustmentConflict
          (": reservation " ++ toString row.reservationQuota ++
            " extra " ++ toString row.extraReserved))
    else
      refundSubscriptionUsageIfCurrentPeriodTx db row.subscriptionID preConsumed consumedAt
  else .ok db

def refundPostedExtraTx (db : Database) (row : BillingAdjustment) (posted : Int) :
    Except BillingError Database :=
  if 0 < posted then do
    let db ← refundSubscriptionUsageIfCurrentPeriodTx db row.subscriptionID posted 0
    .ok (clearSubscriptionPostResetReservedTx db row.requestID)
  else .ok db

def reservationConsumedAt (db : Database) (row : BillingAdjustment) (missingRecord : Bool) : Int :=
  let createdAt := subscriptionPreConsumeCreatedAtTx db row.requestID
  if !missingRecord ∧ 0 < createdAt then createdAt
  else subscriptionRefundConsumedAt row

/-- Return the subscription part of a reservation: the pre-consume, the extra
reserved before a reset, and the extra reserved after one. -/
def creditSubscriptionReservationTx (db : Database) (row : BillingAdjustment) :
    Except BillingError Database := do
  let (missingRecord, db) ← refundReservedPreConsumeTx db row
  let consumedAt := reservationConsumedAt db row missingRecord
  let posted ← subscriptionPostResetReservedTx db row.requestID
  if row.extraReserved < posted then
    .error
      (.billingAdjustmentConflict
        (": post-reset reserve " ++ toString posted ++ " extra " ++ toString row.extraReserved))
  else do
    let db ← refundMissingPreConsumeTx db row missingRecord consumedAt
    let db ← refundPositiveUsageTx db row.subscriptionID (row.extraReserved - posted) consumedAt
    refundPostedExtraTx db row posted

/-- Return a reservation that no settlement has used.  The amount in the
result is the wallet credit. -/
def creditBillingReservation (db : Database) (now : Int) (row : BillingAdjustment) :
    Except BillingError (Int × Database) := do
  let (walletCredited, db) ←
    match row.source with
    | .wallet => creditWalletReservationOnceTx db now row
    | .subscription => do
        let db ← creditSubscriptionReservationTx db row
        .ok (row.reservationQuota, db)
  let db ← creditTokenAmount db row row.reservationQuota
  .ok (walletCredited, db)

def creditSubscriptionChargeTx (db : Database) (row : BillingAdjustment) :
    Except BillingError Database := do
  let db ←
    match rollbackSubscriptionPreConsumeSettlementTx db row.requestID row.chargeQuota
    with
    | .ok next => .ok next
    | .error .recordNotFound =>
      refundSubscriptionUsageIfCurrentPeriodTx db row.subscriptionID
        row.chargeQuota (subscriptionRefundConsumedAt row)
    | .error err => .error err
  refundLedgerChargeAppliedAfterResetTx db row

def creditBillingCharge (db : Database) (row : BillingAdjustment) :
    Except BillingError Database := do
  let db ←
    match row.source with
    | .wallet => creditWallet db row.userID row.chargeQuota
    | .subscription => creditSubscriptionChargeTx db row
  creditTokenAmount db row row.chargeQuota

def BillingAdjustment.refunded
    (row : BillingAdjustment) (now refundQuota : Int) : BillingAdjustment :=
  { row with
    status := .rolledBack
    refundedQuota := refundQuota
    updatedAt := now }

/-- The cache writes of a returned reservation.  `reported` says that the wallet
credit of the transaction replaces the amount of the row. -/
def reservationCacheWrites (row : BillingAdjustment) (walletCredited : Int) (reported : Bool) :
    List CacheWrite :=
  let cache := billingAdjustmentCacheFrom row row.reservationQuota
  applyBillingRollbackCache (if reported then { cache with userDelta := walletCredited } else cache)

def rollbackBillingAdjustment (db : Database) (now : Int) (key : String) (actualQuota : Int) :
    Except BillingError (List CacheWrite × Database) :=
  if key = "" then .error (.text "billing adjustment key is empty")
  else if actualQuota < 0 then
    .error (.text ("actual quota cannot be negative: " ++ toString actualQuota))
  else
    match db.billingAdjustments.lookup key with
    | none => .error .billingAdjustmentAbsent
    | some row =>
      match row.status with
      | .rolledBack => .ok ([], db)
      | .pending => do
          let (walletCredited, db) ← creditBillingReservation db now row
          .ok
            (reservationCacheWrites row walletCredited
                (row.source = .wallet ∧ 0 ≤ walletCredited),
              db.saveBillingAdjustment (row.refunded now row.reservationQuota))
      | .applied =>
        if 0 < actualQuota ∧ actualQuota ≠ row.chargeQuota then
          .error
            (.billingAdjustmentConflict
              (": actual " ++ toString actualQuota ++ " charge " ++ toString row.chargeQuota))
        else do
          let db ← creditBillingCharge db row
          .ok
            (applyBillingRollbackCache
                (billingAdjustmentCacheFrom row row.chargeQuota),
              db.saveBillingAdjustment (row.refunded now row.chargeQuota))

structure BillingReservationRefund where
  idempotencyKey : String
  requestID : String
  userID : Int
  tokenID : Int
  source : BillingAdjustmentSource
  subscriptionID : Int
  reservationQuota : Int
  extraReserved : Int
  tokenIncluded : Bool
  deriving DecidableEq, Repr

def BillingReservationRefund.pendingRow (req : BillingReservationRefund) (now consumedAt : Int) :
    BillingAdjustment where
  idempotencyKey := req.idempotencyKey
  requestID := req.requestID
  userID := req.userID
  tokenID := req.tokenID
  source := req.source
  subscriptionID := req.subscriptionID
  reservationQuota := req.reservationQuota
  extraReserved := req.extraReserved
  subscriptionConsumedAt := consumedAt
  tokenIncluded := req.tokenIncluded
  status := .pending
  createdAt := now
  updatedAt := now

def lockOrCreateReservation (db : Database) (now : Int) (req : BillingReservationRefund) :
    Except BillingError (BillingAdjustment × Database) :=
  match db.billingAdjustments.lookup req.idempotencyKey with
  | some row => .ok (row, db)
  | none => do
      let row := req.pendingRow now (subscriptionPreConsumeCreatedAtTx db req.requestID)
      let db ← db.createBillingAdjustment row
      .ok (row, db)

def refundBillingReservation (db : Database) (now : Int) (req : BillingReservationRefund) :
    Except BillingError (List CacheWrite × Database) :=
  if req.idempotencyKey = "" then .error (.text "billing adjustment key is empty")
  else if req.reservationQuota < 0 ∨ req.extraReserved < 0 then
    .error (.text "billing adjustment quota cannot be negative")
  else do
    let (row, db) ← lockOrCreateReservation db now req
    match row.status with
    | .rolledBack => .ok ([], db)
    | .applied => .error .billingAdjustmentClosed
    | .pending => do
        let (walletCredited, db) ← creditBillingReservation db now row
        .ok
          (reservationCacheWrites row walletCredited (row.source = .wallet),
            db.saveBillingAdjustment (row.refunded now row.reservationQuota))

end NewApi.Billing
