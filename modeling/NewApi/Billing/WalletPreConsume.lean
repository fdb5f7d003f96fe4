import NewApi.Billing.RequestView

/-!
# The request-scoped wallet reserve

`model/wallet_preconsume.go`.  A reserve row is opened as `reserved`, when the
wallet was debited, or as `trusted`.  It is closed as `settled` by the ledger or
the recovery of a delivered response, and as `refunded`.  The amounts of cache
writes are part of the results.
-/

namespace NewApi.Billing

open Transactions RequestScope WalletPreConsumeRecord WalletPreConsumeStatus KeyedTable

def walletPreConsumeLeaseSeconds : Int := 120

def lockWalletPreConsumeTx (db : Database) (requestID : String) : Option WalletPreConsumeRecord :=
  db.walletPreConsumes.lookup requestID

private def debitReserve (db : Database) (userID amount : Int) : Except BillingError Database :=
  match decreaseUserQuotaTx db userID amount with
  | .ok next => .ok next
  | .error err =>
    if walletQuotaUpdateRejected err then .error .walletPreConsumeInsufficient
    else .error err

def openedWalletPreConsume (now : Int) (requestID : String) (userID amount : Int)
    (status : WalletPreConsumeStatus) : WalletPreConsumeRecord where
  requestID := requestID
  userID := userID
  amount := amount
  status := status
  leaseUntil := now + walletPreConsumeLeaseSeconds
  createdAt := now
  updatedAt := now

def WalletPreConsumeRecord.renewed
    (record : WalletPreConsumeRecord) (now : Int) : WalletPreConsumeRecord :=
  { record with
    leaseUntil := now + walletPreConsumeLeaseSeconds
    updatedAt := now }

private def storedRequested (stored requested : Int) : String :=
  ": stored=" ++ toString stored ++ " requested=" ++ toString requested

def reserveWalletPreConsumeTx (db : Database) (now : Int)
    (requestID : String) (userID amount : Int) :
    Except BillingError (Int × Database) :=
  match lockWalletPreConsumeTx db requestID with
  | none => do
      let db ← debitReserve db userID amount
      let db ←
        db.createWalletPreConsume (openedWalletPreConsume now requestID userID amount .reserved)
      .ok (amount, db)
  | some record =>
    if record.userID ≠ userID then .error (.walletPreConsumeConflict "")
    else if record.status ≠ .reserved then .error .walletPreConsumeClosed
    else if record.amount ≠ amount then
      .error (.walletPreConsumeConflict (storedRequested record.amount amount))
    else .ok (0, db.saveWalletPreConsume (record.renewed now))

private def checkReserve (requestID : String) (userID amount : Int) : Except BillingError Unit :=
  if requestID = "" then .error (.text "wallet pre-consume request id is empty")
  else if userID ≤ 0 then .error (.text "invalid user")
  else if amount ≤ 0 then .error (.text "wallet pre-consume amount must be positive")
  else .ok ()

/-- The amount in the result is what the transaction debited: zero when the
call only refreshed the lease of the same reserve. -/
def reserveWalletPreConsume (db : Database) (now : Int) (requestID : String) (userID amount : Int) :
    Except BillingError (Int × Database) := do
  checkReserve requestID userID amount
  reserveWalletPreConsumeTx db now requestID userID amount

def reserveTrustedWalletPreConsumeTx (db : Database) (now : Int)
    (requestID : String) (userID amount : Int) :
    Except BillingError Database :=
  match lockWalletPreConsumeTx db requestID with
  | none =>
    db.createWalletPreConsume (openedWalletPreConsume now requestID userID amount .trusted)
  | some record =>
    if record.userID ≠ userID ∨ record.amount ≠ amount ∨
        record.status ≠ .trusted then
      if record.status ≠ .trusted then .error .walletPreConsumeClosed
      else
        .error (.walletPreConsumeConflict (storedRequested record.amount amount))
    else .ok (db.saveWalletPreConsume (record.renewed now))

def reserveTrustedWalletPreConsume (db : Database) (now : Int)
    (requestID : String) (userID amount : Int) :
    Except BillingError Database := do
  checkReserve requestID userID amount
  reserveTrustedWalletPreConsumeTx db now requestID userID amount

def increaseWalletPreConsume (db : Database) (now : Int) (requestID : String) (userID delta : Int) :
    Except BillingError Database :=
  if requestID = "" then .error .walletPreConsumeNotFound
  else if userID ≤ 0 then .error (.text "invalid user")
  else if delta ≤ 0 then .error (.text "wallet pre-consume amount must be positive")
  else
    match lockWalletPreConsumeTx db requestID with
    | none => .error .walletPreConsumeNotFound
    | some record =>
      if record.userID ≠ userID then .error (.walletPreConsumeConflict "")
      else
        match record.status with
        | .trusted => do
            let db ← debitReserve db userID delta
            .ok
              (db.saveWalletPreConsume
                { record.renewed now with
                  amount := delta
                  status := .reserved })
        | .reserved => do
            let db ← debitReserve db userID delta
            .ok
              (db.saveWalletPreConsume { record.renewed now with amount := record.amount + delta })
        | .settled => .error .walletPreConsumeClosed
        | .refunded => .error .walletPreConsumeClosed

def WalletPreConsumeStatus.isOpen : WalletPreConsumeStatus → Bool
  | .reserved => true
  | .trusted => true
  | .settled => false
  | .refunded => false

def markWalletPreConsumeClientDelivered
    (db : Database) (now : Int) (requestID : String) : Database :=
  match lockWalletPreConsumeTx db requestID with
  | none => db
  | some record =>
    if record.status.isOpen then
      db.saveWalletPreConsume { record with clientDelivered := true, updatedAt := now }
    else db

def walletBillingAdjustmentOwnsTx (db : Database) (requestID : String) : Bool :=
  requestID ≠ "" &&
    db.billingAdjustments.rows.any (fun row =>
      row.requestID = requestID && (row.status = .pending || row.status = .applied))

structure WalletRefundOutcome where
  credited : Int
  userID : Int
  cacheDebit : Int := 0
  deriving DecidableEq, Repr

def refundWalletPreConsumeTx
    (db : Database) (now : Int) (requestID : String) (requireExpired : Bool) :
    Except BillingError (WalletRefundOutcome × Database) :=
  match lockWalletPreConsumeTx db requestID with
  | none => .error .walletPreConsumeNotFound
  | some record =>
    if record.status = .refunded then .ok (⟨0, record.userID, 0⟩, db)
    else if requireExpired && record.status.isOpen &&
        decide (now < record.leaseUntil) then
      .error .walletPreConsumeLeaseActive
    else if requireExpired && record.status.isOpen &&
        walletBillingAdjustmentOwnsTx db requestID then
      .ok
        (⟨0, record.userID, 0⟩,
          db.saveWalletPreConsume { record with leaseUntil := 0, updatedAt := now })
    else if record.status = .trusted then
      if requireExpired && record.clientDelivered then do
        -- Nothing was debited yet, so the delivered estimate is charged now.
        let debit := if 0 < record.amount then record.amount else 0
        let db ← decreaseUserQuotaAllowNegativeTx db record.userID debit
        .ok
          (⟨0, record.userID, debit⟩,
            db.saveWalletPreConsume
              { record with
                collected := record.amount
                status := .settled
                updatedAt := now })
      else
        .ok
          (⟨0, record.userID, 0⟩,
            db.saveWalletPreConsume { record with status := .refunded, updatedAt := now })
    else if record.status ≠ .reserved then .error .walletPreConsumeClosed
    else if requireExpired && record.clientDelivered then
      .ok
        (⟨0, record.userID, 0⟩,
          db.saveWalletPreConsume { record with status := .settled, updatedAt := now })
    else do
      let credited := if 0 < record.amount then record.amount else 0
      let db ← increaseUserQuotaTx db record.userID credited
      .ok
        (⟨credited, record.userID, 0⟩,
          db.saveWalletPreConsume { record with status := .refunded, updatedAt := now })

/-- `refundWalletPreConsume`: the explicit refund of a failed request, and the
recovery of an expired one when `requireExpired` is set. -/
def refundWalletPreConsume
    (db : Database) (now : Int) (requestID : String) (requireExpired : Bool) :
    Except BillingError (WalletRefundOutcome × Database) :=
  if requestID = "" then .error .walletPreConsumeNotFound
  else refundWalletPreConsumeTx db now requestID requireExpired

def recoverExpiredWalletPreConsumes (db : Database) (now limit : Int) : Database :=
  let batch := if limit ≤ 0 then 100 else limit.toNat
  let expired :=
    db.walletPreConsumes.rows.filter (fun record =>
      record.status.isOpen && decide (0 < record.leaseUntil) && decide (record.leaseUntil ≤ now))
  (expired.take batch).foldl
    (fun db record =>
      commit db ((refundWalletPreConsume db now record.requestID true).map Prod.snd))
    db

def markWalletPreConsumeRefundedTx (db : Database) (now : Int) (requestID : String) : Database :=
  match lockWalletPreConsumeTx db requestID with
  | none => db
  | some record =>
    if record.status.isOpen then
      db.saveWalletPreConsume { record with status := .refunded, updatedAt := now }
    else db

/-- Close the reserve for a settlement.  The result says whether the charge
must be taken in full and how much of it was collected before. -/
def accountWalletPreConsumeTx (db : Database) (now : Int) (row : BillingAdjustment) :
    (Bool × Int) × Database :=
  if row.requestID = "" then ((false, 0), db)
  else
    match lockWalletPreConsumeTx db row.requestID with
    | none => ((false, 0), db)
    | some record =>
      match record.status with
      | .reserved | .trusted =>
        ((false, record.collected),
          db.saveWalletPreConsume { record with status := .settled, updatedAt := now })
      | .settled => ((false, record.collected), db)
      | .refunded =>
        if row.status = .rolledBack then ((false, 0), db)
        else ((true, 0), db)

def chargeWallet (db : Database) (userID charge : Int) : Except BillingError Database :=
  if charge = 0 then .ok db
  else if 0 < charge then decreaseUserQuotaAllowNegativeTx db userID charge
  else increaseUserQuotaTx db userID (-charge)

/-- Close the reserve and move the settle delta.  The flag in the result is
`WalletCacheInvalidate`. -/
def applyWalletFundingDelta (db : Database) (now : Int) (row : BillingAdjustment) (delta : Int) :
    Except BillingError (Bool × Database) := do
  let ((fullCharge, collected), db) := accountWalletPreConsumeTx db now row
  let charge :=
    if fullCharge then row.chargeQuota
    -- Expiry already took the trusted estimate.
    else if 0 < collected then row.chargeQuota - collected
    else delta
  let db ← chargeWallet db row.userID charge
  .ok (fullCharge, db)

/-! ## What the transactions do to the request -/

section Specifications

variable {scope : RequestScope} {db after : Database} {now : Int}

variable {userID amount : Int}

private theorem debitReserve_spec (done : debitReserve db userID amount = .ok after) :
    WalletMoved db after userID (-amount) := by
  unfold debitReserve at done
  split at done
  · rename_i next debited
    cases done
    exact (decreaseUserQuotaTx_spec debited).2
  · split at done <;> cases done

private theorem checkReserve_spec {requestID : String}
    (done : checkReserve requestID userID amount = .ok ()) :
    0 < amount := by
  unfold checkReserve at done
  split at done
  · cases done
  split at done
  · cases done
  split at done
  · cases done
  omega

/-- The record is opened and debited, or only renewed. -/
theorem reserveWalletPreConsume_spec {debited : Int}
    (done :
      reserveWalletPreConsume db now scope.requestID scope.userID amount = .ok (debited, after)) :
    0 < amount ∧ (scope.OwnsRows db → scope.OwnsRows after) ∧
      (((scope.view db).record = none ∧ debited = amount ∧
          scope.view after =
            { scope.view db with
              quota := (scope.view db).quota + -amount
              record :=
                some (openedWalletPreConsume now scope.requestID scope.userID amount .reserved) }) ∨
        ∃ record,
          (scope.view db).record = some record ∧ record.status = .reserved ∧ debited = 0 ∧
            scope.view after = { scope.view db with record := some (record.renewed now) }) := by
  obtain ⟨_, checked, done⟩ := bind_ok_iff.mp done
  refine ⟨checkReserve_spec checked, ?_⟩
  unfold reserveWalletPreConsumeTx at done
  split at done
  · rename_i absent
    obtain ⟨paid, debitDone, done⟩ := bind_ok_iff.mp done
    obtain ⟨opened, createDone, done⟩ := bind_ok_iff.mp done
    cases done
    have debited := view_walletMoved (debitReserve_spec debitDone)
    have created := view_createWalletPreConsume createDone rfl
    refine ⟨created.2 ∘ debited.2, Or.inl ⟨absent, rfl, ?_⟩⟩
    rw [created.1, debited.1]
  · rename_i record found
    split at done
    · cases done
    split at done
    · cases done
    rename_i reserved
    split at done
    · cases done
    cases done
    have sameID : record.requestID = scope.requestID := key_of_lookup found
    have saved := view_saveWalletPreConsume (record.renewed now) found sameID
    exact ⟨saved.2, Or.inr ⟨record, found, not_not.mp reserved, rfl, saved.1⟩⟩

/-- A trusted record is opened or renewed without a debit. -/
theorem reserveTrustedWalletPreConsume_spec
    (done : reserveTrustedWalletPreConsume db now scope.requestID scope.userID amount = .ok after) :
    0 < amount ∧ (scope.OwnsRows db → scope.OwnsRows after) ∧
      (((scope.view db).record = none ∧
          scope.view after =
            { scope.view db with
              record :=
                some (openedWalletPreConsume now scope.requestID scope.userID amount .trusted) }) ∨
        ∃ record,
          (scope.view db).record = some record ∧ record.status = .trusted ∧
            scope.view after = { scope.view db with record := some (record.renewed now) }) := by
  obtain ⟨_, checked, done⟩ := bind_ok_iff.mp done
  refine ⟨checkReserve_spec checked, ?_⟩
  unfold reserveTrustedWalletPreConsumeTx at done
  split at done
  · rename_i absent
    have created := view_createWalletPreConsume done rfl
    exact ⟨created.2, Or.inl ⟨absent, created.1⟩⟩
  · rename_i record found
    split at done
    · split at done <;> cases done
    rename_i matching
    push Not at matching
    cases done
    have sameID : record.requestID = scope.requestID := key_of_lookup found
    have saved := view_saveWalletPreConsume (record.renewed now) found sameID
    exact ⟨saved.2, Or.inr ⟨record, found, matching.2.2, saved.1⟩⟩

variable {delta : Int}

/-- A reserve that grows is debited first, and a trusted one becomes a reserve. -/
theorem increaseWalletPreConsume_cases {requestID : String} {userID : Int}
    (done : increaseWalletPreConsume db now requestID userID delta = .ok after) :
    0 < delta ∧ ∃ record paid,
      db.walletPreConsumes.lookup requestID = some record ∧ record.userID = userID ∧
        record.status.isOpen = true ∧ debitReserve db userID delta = .ok paid ∧
          after = paid.saveWalletPreConsume
            { record.renewed now with
              amount := if record.status = .trusted then delta else record.amount + delta
              status := .reserved } := by
  simp only [increaseWalletPreConsume, guard_ok_iff] at done
  obtain ⟨_, _, positive, done⟩ := done
  refine ⟨Int.not_le.mp positive, ?_⟩
  split at done
  · cases done
  rename_i record found
  obtain ⟨owner, done⟩ := guard_ok_iff.mp done
  split at done
  · rename_i trusted
    obtain ⟨paid, debitDone, done⟩ := bind_ok_iff.mp done
    cases done
    refine ⟨record, paid, found, not_not.mp owner, by rw [trusted]; rfl, debitDone, ?_⟩
    rw [if_pos trusted]
  · rename_i reserved
    obtain ⟨paid, debitDone, done⟩ := bind_ok_iff.mp done
    cases done
    refine ⟨record, paid, found, not_not.mp owner, by rw [reserved]; rfl, debitDone, ?_⟩
    simp [reserved, renewed]
  · cases done
  · cases done

/-- A reserve that grows, in the view of its request. -/
theorem increaseWalletPreConsume_spec
    (done : increaseWalletPreConsume db now scope.requestID scope.userID delta = .ok after) :
    0 < delta ∧ (scope.OwnsRows db → scope.OwnsRows after) ∧
      ∃ record,
        (scope.view db).record = some record ∧ record.userID = scope.userID ∧
          record.status.isOpen = true ∧
          scope.view after =
            { scope.view db with
              quota := (scope.view db).quota + -delta
              record :=
                some
                  { record.renewed now with
                    amount :=
                      if record.status = .trusted then delta
                      else record.amount + delta
                    status := .reserved } } := by
  obtain ⟨positive, record, paid, found, owner, isOpen, debitDone, rfl⟩ :=
    increaseWalletPreConsume_cases done
  have sameID : record.requestID = scope.requestID := key_of_lookup found
  have debited := view_walletMoved (debitReserve_spec debitDone)
  have present : (scope.view paid).record = some record := by
    rw [debited.1]
    exact found
  have saved :=
    view_saveWalletPreConsume
      { record.renewed now with
        amount := if record.status = .trusted then delta else record.amount + delta
        status := .reserved } present sameID
  refine ⟨positive, saved.2 ∘ debited.2, record, found, owner, isOpen, ?_⟩
  rw [saved.1, debited.1]

private theorem debitReserve_refused {err : BillingError}
    (failed : debitReserve db userID amount = .error err) :
    err ≠ .walletPreConsumeNotFound := by
  rintro rfl
  unfold debitReserve at failed
  split at failed
  · cases failed
  rename_i refusal refused
  split at failed
  · cases failed
  cases failed
  unfold decreaseUserQuotaTx at refused
  split at refused
  · cases refused
  split at refused
  · cases refused
  split at refused
  · split at refused <;> cases refused
  · cases refused

theorem increaseWalletPreConsume_notFound (nonempty : scope.requestID ≠ "")
    (failed : increaseWalletPreConsume db now scope.requestID scope.userID delta =
        .error .walletPreConsumeNotFound) :
    (scope.view db).record = none := by
  have debits : ∀ save : Database → Except BillingError Database,
      (∀ paid, ∃ saved, save paid = .ok saved) →
        debitReserve db scope.userID delta >>= save ≠ .error .walletPreConsumeNotFound := by
    intro save saves failed
    cases debited : debitReserve db scope.userID delta with
    | ok paid =>
      obtain ⟨saved, stored⟩ := saves paid
      rw [debited] at failed
      cases stored.symm.trans failed
    | error err =>
      rw [debited] at failed
      cases failed
      exact debitReserve_refused debited rfl
  unfold increaseWalletPreConsume at failed
  rw [if_neg nonempty] at failed
  split at failed
  · cases failed
  split at failed
  · cases failed
  split at failed
  · assumption
  split at failed
  · cases failed
  split at failed
  · exact absurd failed (debits _ fun _ => ⟨_, rfl⟩)
  · exact absurd failed (debits _ fun _ => ⟨_, rfl⟩)
  · cases failed
  · cases failed

/-- Only an open record is marked. -/
theorem markWalletPreConsumeClientDelivered_spec : (scope.OwnsRows db →
        scope.OwnsRows (markWalletPreConsumeClientDelivered db now scope.requestID)) ∧
      scope.view (markWalletPreConsumeClientDelivered db now scope.requestID) =
        { scope.view db with
          record := (scope.view db).record.map (fun record =>
              if record.status.isOpen then
                { record with clientDelivered := true, updatedAt := now }
              else
                record) } := by
  unfold markWalletPreConsumeClientDelivered
  cases found : lockWalletPreConsumeTx db scope.requestID with
  | none =>
    have absent : (scope.view db).record = none := found
    refine ⟨id, ?_⟩
    change scope.view db = _
    rw [absent, Option.map_none, ← absent]
  | some record =>
    have present : (scope.view db).record = some record := found
    by_cases isOpen : record.status.isOpen = true
    · have sameID : record.requestID = scope.requestID := key_of_lookup found
      have saved :=
        view_saveWalletPreConsume
          { record with clientDelivered := true, updatedAt := now }
          present sameID
      simp only [isOpen, if_true, present, Option.map_some]
      exact ⟨saved.2, saved.1⟩
    · simp only [isOpen, Bool.false_eq_true, if_false, present, Option.map_some]
      refine ⟨id, ?_⟩
      rw [← present]

inductive WalletRefundCase (scope : RequestScope) (db : Database) (now : Int)
    (requireExpired : Bool) :
    WalletRefundOutcome → RequestView → Prop
  | alreadyRefunded
      {record : WalletPreConsumeRecord}
      (found : (scope.view db).record = some record)
      (refunded : record.status = .refunded) :
      WalletRefundCase scope db now requireExpired ⟨0, record.userID, 0⟩ (scope.view db)
  | owned
      {record : WalletPreConsumeRecord}
      (found : (scope.view db).record = some record)
      (isOpen : record.status.isOpen = true)
      (expiry : requireExpired = true)
      (owned : walletBillingAdjustmentOwnsTx db scope.requestID = true) :
      WalletRefundCase scope db now requireExpired
        ⟨0, record.userID, 0⟩
        { scope.view db with record := some { record with leaseUntil := 0, updatedAt := now } }
  | collected
      {record : WalletPreConsumeRecord}
      (found : (scope.view db).record = some record)
      (trusted : record.status = .trusted)
      (expiry : requireExpired = true)
      (delivered : record.clientDelivered = true)
      (unowned : walletBillingAdjustmentOwnsTx db scope.requestID = false) :
      WalletRefundCase scope db now requireExpired
        ⟨0, record.userID, if 0 < record.amount then record.amount else 0⟩
        { scope.view db with
          quota := (scope.view db).quota + -(if 0 < record.amount then record.amount else 0)
          record :=
            some
              { record with
                collected := record.amount
                status := .settled
                updatedAt := now } }
  | dropped
      {record : WalletPreConsumeRecord}
      (found : (scope.view db).record = some record)
      (trusted : record.status = .trusted) :
      WalletRefundCase scope db now requireExpired
        ⟨0, record.userID, 0⟩
        { scope.view db with record := some { record with status := .refunded, updatedAt := now } }
  | kept
      {record : WalletPreConsumeRecord}
      (found : (scope.view db).record = some record)
      (reserved : record.status = .reserved)
      (expiry : requireExpired = true)
      (delivered : record.clientDelivered = true)
      (unowned : walletBillingAdjustmentOwnsTx db scope.requestID = false) :
      WalletRefundCase scope db now requireExpired
        ⟨0, record.userID, 0⟩
        { scope.view db with record := some { record with status := .settled, updatedAt := now } }
  | returned
      {record : WalletPreConsumeRecord}
      (found : (scope.view db).record = some record)
      (reserved : record.status = .reserved)
      (undelivered : requireExpired = true → record.clientDelivered = false)
      (unowned : requireExpired = true → walletBillingAdjustmentOwnsTx db scope.requestID = false) :
      WalletRefundCase scope db now requireExpired
        ⟨if 0 < record.amount then record.amount else 0, record.userID, 0⟩
        { scope.view db with
          quota :=
            (scope.view db).quota +
              (if 0 < record.amount then record.amount else 0)
          record := some { record with status := .refunded, updatedAt := now } }

/-- A refund, by the status and the owner of the record. -/
theorem refundWalletPreConsume_cases {requireExpired : Bool} {outcome : WalletRefundOutcome}
    (owner : ∀ record, (scope.view db).record = some record → record.userID = scope.userID)
    (done : refundWalletPreConsume db now scope.requestID requireExpired = .ok (outcome, after)) :
    WalletRefundCase scope db now requireExpired outcome (scope.view after) ∧
      (scope.OwnsRows db → scope.OwnsRows after) := by
  unfold refundWalletPreConsume at done
  split at done
  · cases done
  unfold refundWalletPreConsumeTx at done
  split at done
  · cases done
  rename_i record found
  have present : (scope.view db).record = some record := found
  have sameID : record.requestID = scope.requestID := key_of_lookup found
  have sameUser : record.userID = scope.userID := owner record present
  split at done
  · rename_i refunded
    cases done
    exact ⟨.alreadyRefunded present refunded, id⟩
  · split at done
    · cases done
    split at done
    · rename_i guard
      simp only [Bool.and_eq_true] at guard
      cases done
      have saved :=
        view_saveWalletPreConsume { record with leaseUntil := 0, updatedAt := now }
          present sameID
      rw [saved.1]
      exact ⟨.owned present guard.1.2 guard.1.1 guard.2, saved.2⟩
    · rename_i notOwned
      have unowned : record.status.isOpen = true → requireExpired = true →
            walletBillingAdjustmentOwnsTx db scope.requestID = false := by
        intro isOpen expiry
        simpa [isOpen, expiry] using notOwned
      split at done
      · rename_i trusted
        have isOpen : record.status.isOpen = true := by
          rw [trusted]
          rfl
        split at done
        · rename_i guard
          simp only [Bool.and_eq_true] at guard
          obtain ⟨paid, debitDone, done⟩ := bind_ok_iff.mp done
          cases done
          have moved := (decreaseUserQuotaAllowNegativeTx_spec debitDone).2
          rw [sameUser] at moved
          have debited := view_walletMoved moved
          have stillPresent : (scope.view paid).record = some record := by
            rw [debited.1]
            exact present
          have saved :=
            view_saveWalletPreConsume
              { record with
                collected := record.amount
                status := .settled
                updatedAt := now } stillPresent sameID
          rw [saved.1, debited.1]
          exact ⟨.collected present trusted guard.1 guard.2 (unowned isOpen guard.1),
              saved.2 ∘ debited.2⟩
        · cases done
          have saved :=
            view_saveWalletPreConsume
              { record with status := .refunded, updatedAt := now }
              present sameID
          rw [saved.1]
          exact ⟨.dropped present trusted, saved.2⟩
      · split at done
        · cases done
        rename_i notReserved
        have reserved : record.status = .reserved := not_not.mp notReserved
        have isOpen : record.status.isOpen = true := by
          rw [reserved]
          rfl
        split at done
        · rename_i guard
          simp only [Bool.and_eq_true] at guard
          cases done
          have saved :=
            view_saveWalletPreConsume
              { record with status := .settled, updatedAt := now }
              present sameID
          rw [saved.1]
          exact ⟨.kept present reserved guard.1 guard.2 (unowned isOpen guard.1), saved.2⟩
        · rename_i guard
          obtain ⟨paid, creditDone, done⟩ := bind_ok_iff.mp done
          cases done
          have moved := (increaseUserQuotaTx_spec creditDone).2
          rw [sameUser] at moved
          have credited := view_walletMoved moved
          have stillPresent : (scope.view paid).record = some record := by
            rw [credited.1]
            exact present
          have saved :=
            view_saveWalletPreConsume
              { record with status := .refunded, updatedAt := now }
              stillPresent sameID
          rw [saved.1, credited.1]
          refine ⟨.returned present reserved ?_ (unowned isOpen), saved.2 ∘ credited.2⟩
          intro expiry
          simpa [expiry] using guard

theorem refundWalletPreConsume_notFound (nonempty : scope.requestID ≠ "")
    (failed :
      refundWalletPreConsume db now scope.requestID false = .error .walletPreConsumeNotFound) :
    (scope.view db).record = none := by
  unfold refundWalletPreConsume refundWalletPreConsumeTx at failed
  rw [if_neg nonempty] at failed
  split at failed
  · assumption
  simp only [Bool.false_and, Bool.false_eq_true, if_false] at failed
  split at failed
  · cases failed
  split at failed
  · cases failed
  split at failed
  · cases failed
  rename_i record _ _ _ _
  cases credited :
    increaseUserQuotaTx db record.userID (if 0 < record.amount then record.amount else 0) with
  | ok paid =>
    rw [credited] at failed
    cases failed
  | error err =>
    rw [credited] at failed
    cases failed
    exact absurd rfl (increaseUserQuotaTx_refused credited)

/-- What a settlement reads off the reserve: whether the charge is taken in
full, and the part of it that was collected before. -/
def settleAccount (record : Option WalletPreConsumeRecord) (row : BillingAdjustment) :
    Bool × Int :=
  match record with
  | none => (false, 0)
  | some record =>
    match record.status with
    | .reserved => (false, record.collected)
    | .trusted => (false, record.collected)
    | .settled => (false, record.collected)
    | .refunded =>
      if row.status = .rolledBack then (false, 0) else (true, 0)

def settleCharge (record : Option WalletPreConsumeRecord) (row : BillingAdjustment)
    (delta : Int) : Int :=
  let (fullCharge, collected) := settleAccount record row
  if fullCharge then row.chargeQuota
  else if 0 < collected then row.chargeQuota - collected
  else delta

def WalletPreConsumeRecord.closed
    (record : WalletPreConsumeRecord) (now : Int) : WalletPreConsumeRecord :=
  if record.status.isOpen then
    { record with status := .settled, updatedAt := now }
  else record

/-- The record is closed, and its reserve handed over. -/
theorem accountWalletPreConsumeTx_spec {row : BillingAdjustment}
    (sameRequest : row.requestID = scope.requestID) (nonempty : scope.requestID ≠ "") :
    (accountWalletPreConsumeTx db now row).1 = settleAccount (scope.view db).record row ∧
      scope.view (accountWalletPreConsumeTx db now row).2 =
        { scope.view db with record := (scope.view db).record.map (·.closed now) } ∧
      (scope.OwnsRows db → scope.OwnsRows (accountWalletPreConsumeTx db now row).2) := by
  unfold accountWalletPreConsumeTx
  rw [sameRequest, if_neg nonempty]
  cases found : lockWalletPreConsumeTx db scope.requestID with
  | none =>
    have absent : (scope.view db).record = none := found
    refine ⟨by rw [absent]; rfl, ?_, id⟩
    change scope.view db = _
    rw [absent, Option.map_none, ← absent]
  | some record =>
    have present : (scope.view db).record = some record := found
    have sameID : record.requestID = scope.requestID := key_of_lookup found
    have saved :=
      view_saveWalletPreConsume { record with status := .settled, updatedAt := now }
        present sameID
    have unchanged : record.closed now = record →
          scope.view db =
            { scope.view db with
              record := (scope.view db).record.map (·.closed now) } := by
      intro same
      rw [present, Option.map_some, same, ← present]
    rw [present] at unchanged ⊢
    cases status : record.status with
    | reserved =>
      simp only [settleAccount, status, Option.map_some, closed, isOpen]
      exact ⟨trivial, saved⟩
    | trusted =>
      simp only [settleAccount, status, Option.map_some, closed, isOpen]
      exact ⟨trivial, saved⟩
    | settled =>
      simp only [settleAccount, status]
      exact ⟨trivial, unchanged (by
        simp [closed, status, isOpen]), id⟩
    | refunded =>
      have same : record.closed now = record := by
        simp [closed, status, isOpen]
      simp only [settleAccount, status]
      split
      · exact ⟨rfl, unchanged same, id⟩
      · exact ⟨rfl, unchanged same, id⟩

theorem chargeWallet_spec {charge : Int} (done : chargeWallet db userID charge = .ok after) :
    WalletMoved db after userID (-charge) := by
  unfold chargeWallet at done
  split at done
  · rename_i zero
    cases done
    rw [zero]
    exact WalletMoved.refl db userID
  · split at done
    · exact (decreaseUserQuotaAllowNegativeTx_spec done).2
    · exact (increaseUserQuotaTx_spec done).2

theorem applyWalletFundingDelta_spec {row : BillingAdjustment} {invalidate : Bool}
    (sameRequest : row.requestID = scope.requestID)
    (sameUser : row.userID = scope.userID) (nonempty : scope.requestID ≠ "")
    (done : applyWalletFundingDelta db now row delta = .ok (invalidate, after)) :
    invalidate = (settleAccount (scope.view db).record row).1 ∧
      scope.view after =
        { scope.view db with
          quota := (scope.view db).quota + -settleCharge (scope.view db).record row delta
          record := (scope.view db).record.map (·.closed now) } ∧
      (scope.OwnsRows db → scope.OwnsRows after) := by
  have spec := @accountWalletPreConsumeTx_spec scope db now row sameRequest nonempty
  unfold applyWalletFundingDelta at done
  unfold settleCharge
  rcases outcome : accountWalletPreConsumeTx db now row with
    ⟨⟨fullCharge, collected⟩, mid⟩
  rw [outcome] at done spec
  obtain ⟨account, closed, closedOwns⟩ := spec
  rw [← account]
  obtain ⟨paid, chargeDone, done⟩ := bind_ok_iff.mp done
  cases done
  have moved := chargeWallet_spec chargeDone
  rw [sameUser] at moved
  have charged := view_walletMoved moved
  refine ⟨rfl, ?_, charged.2 ∘ closedOwns⟩
  rw [charged.1, closed]

end Specifications

/-- `after` differs from `before` in the wallets and the reserves only, and no
account has appeared or vanished. -/
def WalletOnly (before after : Database) : Prop :=
  ∃ users records,
    after = { before with users := users, walletPreConsumes := records } ∧
      SameAccounts before.users users

section Frames

variable {db mid after : Database} {now : Int} {requestID : String}

theorem WalletOnly.refl (db : Database) : WalletOnly db db :=
  ⟨db.users, db.walletPreConsumes, rfl, fun _ => rfl⟩

theorem WalletOnly.trans (first : WalletOnly db mid) (second : WalletOnly mid after) :
    WalletOnly db after := by
  obtain ⟨_, _, rfl, firstSame⟩ := first
  obtain ⟨users, records, rfl, secondSame⟩ := second
  exact ⟨users, records, rfl, fun id => (secondSame id).trans (firstSame id)⟩

variable {amount : Int}

theorem WalletMoved.walletOnly {id : Int} (moved : WalletMoved db after id amount) :
    WalletOnly db after := by
  obtain ⟨users, rfl, _, same⟩ := moved
  exact ⟨users, db.walletPreConsumes, rfl, same⟩

theorem walletOnly_saveWalletPreConsume (db : Database) (record : WalletPreConsumeRecord) :
    WalletOnly db (db.saveWalletPreConsume record) :=
  ⟨db.users, db.walletPreConsumes.save record, rfl, fun _ => rfl⟩

theorem walletOnly_createWalletPreConsume {record : WalletPreConsumeRecord}
    (done : db.createWalletPreConsume record = .ok after) :
    WalletOnly db after := by
  unfold Database.createWalletPreConsume at done
  split at done
  · cases done
  rename_i records _
  cases done
  exact ⟨db.users, records, rfl, fun _ => rfl⟩

variable {userID : Int}

theorem reserveWalletPreConsume_walletOnly {debited : Int}
    (done : reserveWalletPreConsume db now requestID userID amount = .ok (debited, after)) :
    WalletOnly db after := by
  obtain ⟨_, _, done⟩ := bind_ok_iff.mp done
  unfold reserveWalletPreConsumeTx at done
  split at done
  · obtain ⟨paid, debitDone, done⟩ := bind_ok_iff.mp done
    obtain ⟨opened, createDone, done⟩ := bind_ok_iff.mp done
    cases done
    exact
      (debitReserve_spec debitDone).walletOnly.trans (walletOnly_createWalletPreConsume createDone)
  · split at done
    · cases done
    split at done
    · cases done
    split at done
    · cases done
    cases done
    exact walletOnly_saveWalletPreConsume db _

private theorem debitReserve_account (positive : 0 < amount)
    (done : debitReserve db userID amount = .ok after) :
    (db.users.lookup userID).isSome = true := by
  unfold debitReserve at done
  split at done
  · rename_i next debited
    exact decreaseUserQuotaTx_account positive debited
  · split at done <;> cases done

theorem reserveWalletPreConsume_account {debited : Int}
    (absent : db.walletPreConsumes.lookup requestID = none)
    (done : reserveWalletPreConsume db now requestID userID amount = .ok (debited, after)) :
    (db.users.lookup userID).isSome = true := by
  obtain ⟨_, checked, done⟩ := bind_ok_iff.mp done
  unfold reserveWalletPreConsumeTx lockWalletPreConsumeTx at done
  rw [absent] at done
  obtain ⟨paid, debitDone, _⟩ := bind_ok_iff.mp done
  exact debitReserve_account (checkReserve_spec checked) debitDone

theorem increaseWalletPreConsume_account {delta : Int}
    (done : increaseWalletPreConsume db now requestID userID delta = .ok after) :
    (db.users.lookup userID).isSome = true := by
  obtain ⟨positive, _, _, _, _, _, debitDone, _⟩ := increaseWalletPreConsume_cases done
  exact debitReserve_account positive debitDone

theorem reserveTrustedWalletPreConsume_walletOnly
    (done : reserveTrustedWalletPreConsume db now requestID userID amount = .ok after) :
    WalletOnly db after := by
  obtain ⟨_, _, done⟩ := bind_ok_iff.mp done
  unfold reserveTrustedWalletPreConsumeTx at done
  split at done
  · exact walletOnly_createWalletPreConsume done
  · split at done
    · split at done <;> cases done
    · cases done
      exact walletOnly_saveWalletPreConsume db _

theorem increaseWalletPreConsume_walletOnly {delta : Int}
    (done : increaseWalletPreConsume db now requestID userID delta = .ok after) :
    WalletOnly db after := by
  obtain ⟨_, _, paid, _, _, _, debitDone, rfl⟩ := increaseWalletPreConsume_cases done
  exact (debitReserve_spec debitDone).walletOnly.trans (walletOnly_saveWalletPreConsume paid _)

theorem refundWalletPreConsume_walletOnly {requireExpired : Bool} {outcome : WalletRefundOutcome}
    (done : refundWalletPreConsume db now requestID requireExpired = .ok (outcome, after)) :
    WalletOnly db after := by
  unfold refundWalletPreConsume refundWalletPreConsumeTx at done
  split at done
  · cases done
  split at done
  · cases done
  split at done
  · cases done
    exact WalletOnly.refl db
  · split at done
    · cases done
    split at done
    · cases done
      exact walletOnly_saveWalletPreConsume db _
    · split at done
      · split at done
        · obtain ⟨paid, debitDone, done⟩ := bind_ok_iff.mp done
          cases done
          exact (decreaseUserQuotaAllowNegativeTx_spec debitDone).2.walletOnly.trans
              (walletOnly_saveWalletPreConsume paid _)
        · cases done
          exact walletOnly_saveWalletPreConsume db _
      · split at done
        · cases done
        split at done
        · cases done
          exact walletOnly_saveWalletPreConsume db _
        · obtain ⟨paid, creditDone, done⟩ := bind_ok_iff.mp done
          cases done
          exact (increaseUserQuotaTx_spec creditDone).2.walletOnly.trans
              (walletOnly_saveWalletPreConsume paid _)

end Frames

end NewApi.Billing
