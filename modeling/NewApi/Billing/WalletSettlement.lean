import NewApi.Billing.BillingAdjustment

/-!
# The ledger seen from a wallet request

Each ledger transaction is described once, by what it does to the four rows of
a wallet request: `ApplyCase`, `CollectCase`, `RollbackCase` and
`ReservationCase` list every way in which it can commit.
-/

namespace NewApi.Billing

open Transactions RequestScope BillingAdjustmentRequest Token WalletPreConsumeRecord WalletMoved

namespace BillingAdjustmentRequest

variable {req : BillingAdjustmentRequest}

structure Valid (req : BillingAdjustmentRequest) : Prop where
  charge : 0 ≤ req.chargeQuota
  reservation : 0 ≤ req.reservationQuota
  extra : 0 ≤ req.extraReserved
  balanced : req.reservationQuota + req.fundingDelta = req.chargeQuota
  included : req.tokenIncluded = true → 0 < req.tokenID ∧ req.tokenDelta = req.fundingDelta
  excluded : req.tokenIncluded = false → req.tokenDelta = 0
  positiveUser : 0 < req.userID

theorem valid_of_validate (done : req.validate = .ok ()) : req.Valid := by
  unfold validate at done
  split at done
  · cases done
  split at done
  · cases done
  split at done
  · cases done
  rename_i quotas
  push Not at quotas
  split at done
  · cases done
  rename_i balanced
  obtain ⟨_, _, done⟩ := bind_ok_iff.mp done
  unfold checkToken at done
  refine ⟨quotas.1, quotas.2.1, quotas.2.2, not_not.mp balanced, ?_, ?_, by omega⟩
  · intro included
    rw [if_pos included] at done
    split at done
    · cases done
    split at done
    · cases done
    rename_i equal
    exact ⟨by omega, not_not.mp equal⟩
  · intro excluded
    rw [if_neg (by simp [excluded])] at done
    split at done
    · cases done
    rename_i zero
    exact not_not.mp zero

theorem same_iff {row : BillingAdjustment} : req.same row = true ↔
      row.userID = req.userID ∧ row.tokenID = req.tokenID ∧ row.source = req.source ∧
        row.subscriptionID = req.subscriptionID ∧
        row.fundingDelta = req.fundingDelta ∧
        row.tokenDelta = req.tokenDelta ∧
        row.chargeQuota = req.chargeQuota ∧
        row.reservationQuota = req.reservationQuota ∧
        row.extraReserved = req.extraReserved ∧
        row.tokenIncluded = req.tokenIncluded := by
  simp only [same, Bool.and_eq_true, decide_eq_true_eq, and_assoc]

@[simp]
theorem same_pendingRow (now consumedAt : Int) :
    req.same (req.pendingRow now consumedAt) = true := by
  simp [same_iff, pendingRow]

end BillingAdjustmentRequest

namespace RequestScope

structure Carries (scope : RequestScope) (row : BillingAdjustment) : Prop where
  key : row.idempotencyKey = scope.key
  request : row.requestID = scope.requestID
  user : row.userID = scope.userID
  token : row.tokenID = scope.tokenID
  wallet : row.source = .wallet

structure Sends (scope : RequestScope) (req : BillingAdjustmentRequest) : Prop where
  key : req.idempotencyKey = scope.key
  request : req.requestID = scope.requestID
  user : req.userID = scope.userID
  token : req.tokenID = scope.tokenID
  wallet : req.source = .wallet

structure Returns (scope : RequestScope) (req : BillingReservationRefund) : Prop where
  key : req.idempotencyKey = scope.key
  request : req.requestID = scope.requestID
  user : req.userID = scope.userID
  token : req.tokenID = scope.tokenID
  wallet : req.source = .wallet

def OwnsKey (scope : RequestScope) (db : Database) : Prop :=
  ∀ row, (scope.view db).row = some row → scope.Carries row

variable {scope : RequestScope} {row : BillingAdjustment}

theorem Carries.settled (carries : scope.Carries row) (now : Int) :
    scope.Carries (row.settled now) :=
  ⟨carries.key, carries.request, carries.user, carries.token, carries.wallet⟩

theorem Carries.refunded (carries : scope.Carries row) (now quota : Int) :
    scope.Carries (row.refunded now quota) :=
  ⟨carries.key, carries.request, carries.user, carries.token, carries.wallet⟩

variable {req : BillingAdjustmentRequest}

theorem Sends.carries_pendingRow (sends : scope.Sends req) (now consumedAt : Int) :
    scope.Carries (req.pendingRow now consumedAt) :=
  ⟨sends.key, sends.request, sends.user, sends.token, sends.wallet⟩

theorem Sends.carries_recharged (sends : scope.Sends req) (carries : scope.Carries row) :
    scope.Carries (row.recharged req) :=
  ⟨carries.key, sends.request, sends.user, sends.token, sends.wallet⟩

theorem Returns.carries_pendingRow {req : BillingReservationRefund}
    (returns : scope.Returns req) (now consumedAt : Int) :
    scope.Carries (req.pendingRow now consumedAt) :=
  ⟨returns.key, returns.request, returns.user, returns.token, returns.wallet⟩

end RequestScope

def Token.settle (included : Bool) (delta : Int) (token : Token) : Token :=
  if !included ∨ delta = 0 then token
  else if 0 < delta then token.decrease delta
  else token.increase (-delta)

def Token.refund (included : Bool) (tokenID amount : Int) (token : Token) : Token :=
  if !included ∨ amount = 0 ∨ tokenID ≤ 0 then token
  else token.increase amount

section TokenHalf

variable {db after : Database} {id quota : Int} {err : BillingError}

private theorem decreaseTokenQuota_noRows
    (failed : decreaseTokenQuotaAllowNegativeTx db id quota = .error err)
    (noRows : isTokenQuotaNoRowsError err = true) :
    db.tokens.lookup id = none := by
  unfold decreaseTokenQuotaAllowNegativeTx at failed
  split at failed
  · cases failed
    cases noRows
  · split at failed
    · cases failed
    split at failed
    · assumption
    · cases failed

private theorem increaseTokenQuota_noRows (failed : increaseTokenQuotaTx db id quota = .error err)
    (noRows : isTokenQuotaNoRowsError err = true) :
    db.tokens.lookup id = none := by
  unfold increaseTokenQuotaTx at failed
  split at failed
  · cases failed
    cases noRows
  · split at failed
    · cases failed
    split at failed
    · assumption
    · cases failed

/-- A token movement whose missing row is ignored still moves the token by
`update`, which has nothing to act on in that case. -/
private theorem ignoreMissingToken_spec
    {outcome : Except BillingError Database} {update : Token → Token}
    (moved : ∀ next, outcome = .ok next → TokenMoved db next id update)
    (missing :
      ∀ err, outcome = .error err → isTokenQuotaNoRowsError err = true → db.tokens.lookup id = none)
    (done : ignoreMissingToken db outcome = .ok after) :
    TokenMoved db after id update := by
  unfold ignoreMissingToken at done
  split at done
  · cases done
    exact moved after rfl
  · rename_i err
    split at done
    · rename_i noRows
      cases done
      have absent := missing err rfl noRows
      apply tokenMoved_unchanged
      intro token found
      rw [absent] at found
      cases found
    · cases done

/-- The token moves by the delta. -/
theorem applyTokenDelta_spec {row : BillingAdjustment} (done : applyTokenDelta db row = .ok after) :
    TokenMoved db after row.tokenID (settle row.tokenIncluded row.tokenDelta) := by
  unfold applyTokenDelta at done
  split at done
  · rename_i idle
    cases done
    apply tokenMoved_unchanged
    intro token _
    rw [settle, if_pos idle]
  · rename_i moving
    have shape : settle row.tokenIncluded row.tokenDelta =
          fun token =>
            if 0 < row.tokenDelta then token.decrease row.tokenDelta
            else token.increase (-row.tokenDelta) := by
      funext token
      rw [settle, if_neg moving]
    rw [shape]
    push Not at moving
    split at done
    · rename_i positive
      refine ignoreMissingToken_spec ?_ ?_ done
      · intro next committed
        rcases decreaseTokenQuotaAllowNegativeTx_spec committed with ⟨zero, _⟩ | ⟨_, moved⟩
        · omega
        · simpa only [if_pos positive] using moved
      · intro err
        exact decreaseTokenQuota_noRows
    · rename_i negative
      refine ignoreMissingToken_spec ?_ ?_ done
      · intro next committed
        rcases increaseTokenQuotaTx_spec committed with ⟨zero, _⟩ | ⟨_, moved⟩
        · omega
        · simpa only [if_neg negative] using moved
      · intro err
        exact increaseTokenQuota_noRows

theorem creditTokenAmount_spec {row : BillingAdjustment} {amount : Int}
    (done : creditTokenAmount db row amount = .ok after) :
    TokenMoved db after row.tokenID (refund row.tokenIncluded row.tokenID amount) := by
  unfold creditTokenAmount at done
  split at done
  · rename_i idle
    cases done
    apply tokenMoved_unchanged
    intro token _
    rw [refund, if_pos idle]
  · rename_i moving
    have shape : refund row.tokenIncluded row.tokenID amount = (increase · amount) := by
      funext token
      rw [refund, if_neg moving]
    rw [shape]
    push Not at moving
    refine ignoreMissingToken_spec ?_ ?_ done
    · intro next committed
      rcases increaseTokenQuotaTx_spec committed with ⟨zero, _⟩ | ⟨_, moved⟩
      · exact absurd zero moving.2.1
      · exact moved
    · intro err
      exact increaseTokenQuota_noRows

end TokenHalf

/-! ## Settling a request -/

namespace RequestView

def settle (view : RequestView) (now : Int) (row : BillingAdjustment) :
    RequestView :=
  { view with
    quota := view.quota + -settleCharge view.record row row.fundingDelta
    record := view.record.map (·.closed now)
    token := view.token.map (Token.settle row.tokenIncluded row.tokenDelta) }

end RequestView

section Settling

variable
  {scope : RequestScope} {db after : Database} {now : Int}
  {req : BillingAdjustmentRequest} {row : BillingAdjustment}

theorem applyBillingAdjustmentDeltas_spec {invalidate : Bool}
    (carries : scope.Carries row) (nonempty : scope.requestID ≠ "")
    (done : applyBillingAdjustmentDeltas db now row = .ok (invalidate, after)) :
    invalidate = (settleAccount (scope.view db).record row).1 ∧
      scope.view after = (scope.view db).settle now row ∧
      (scope.OwnsRows db → scope.OwnsRows after) := by
  obtain ⟨⟨flag, paid⟩, fundingDone, done⟩ := bind_ok_iff.mp done
  obtain ⟨final, tokenDone, done⟩ := bind_ok_iff.mp done
  cases done
  simp only [applyFundingDelta, carries.wallet] at fundingDone
  obtain ⟨flagEq, funded, fundedOwns⟩ :=
    applyWalletFundingDelta_spec carries.request carries.user nonempty fundingDone
  have moved := applyTokenDelta_spec tokenDone
  rw [carries.token] at moved
  have tokenMoved := view_tokenMoved moved
  refine ⟨flagEq, ?_, tokenMoved.2 ∘ fundedOwns⟩
  rw [tokenMoved.1, funded]
  rfl

def SettlesRow (scope : RequestScope) (db : Database) (now : Int)
    (req : BillingAdjustmentRequest) (row : BillingAdjustment) : Prop :=
  (scope.view db).row = some row ∨ ((scope.view db).row = none ∧ row = req.pendingRow now 0)

theorem SettlesRow.carries (settles : SettlesRow scope db now req row)
    (sends : scope.Sends req) (owns : scope.OwnsKey db) :
    scope.Carries row := by
  rcases settles with found | ⟨_, rfl⟩
  · exact owns row found
  · exact sends.carries_pendingRow now 0

/-- The row of the key, or a new pending one. -/
theorem lockOrCreateBillingAdjustment_spec (sends : scope.Sends req)
    (done : lockOrCreateBillingAdjustment db now req = .ok (row, after)) :
    SettlesRow scope db now req row ∧ scope.view after = { scope.view db with row := some row } ∧
      (scope.OwnsRows db → scope.OwnsRows after) := by
  unfold lockOrCreateBillingAdjustment at done
  rw [sends.key, sends.wallet] at done
  split at done
  · rename_i stored found
    cases done
    have present : (scope.view db).row = some row := found
    refine ⟨Or.inl present, ?_, id⟩
    rw [← present]
  · obtain ⟨mid, created, done⟩ := bind_ok_iff.mp done
    cases done
    obtain ⟨absent, view, owns⟩ := view_createBillingAdjustment created sends.key
    exact ⟨Or.inr ⟨absent, rfl⟩, view, owns⟩

private theorem settleAndSave_spec {start paid : Database} {before : RequestView} {flag : Bool}
    (carries : scope.Carries row) (nonempty : scope.requestID ≠ "")
    (located : ∃ stored, before.row = some stored) (begun : scope.view start = before)
    (done : applyBillingAdjustmentDeltas start now row = .ok (flag, paid)) :
    flag = (settleAccount before.record row).1 ∧
      scope.view (paid.saveBillingAdjustment (row.settled now)) =
        { before.settle now row with row := some (row.settled now) } ∧
      (scope.OwnsRows start → scope.OwnsRows (paid.saveBillingAdjustment (row.settled now))) := by
  subst begun
  obtain ⟨stored, present⟩ := located
  obtain ⟨flagEq, settled, settledOwns⟩ := applyBillingAdjustmentDeltas_spec carries nonempty done
  have stillPresent : (scope.view paid).row = some stored := by
    rw [settled]
    exact present
  have saved := view_saveBillingAdjustment (row.settled now) stillPresent (carries.settled now).key
  refine ⟨flagEq, ?_, saved.2 ∘ settledOwns⟩
  rw [saved.1, settled]

inductive ApplyCase (scope : RequestScope) (db : Database) (now : Int)
    (req : BillingAdjustmentRequest) :
    ApplyOutcome → RequestView → Prop
  | replayed
      {row : BillingAdjustment}
      (found : (scope.view db).row = some row)
      (same : req.same row = true)
      (applied : row.status = .applied) :
      ApplyCase scope db now req ⟨false, []⟩ (scope.view db)
  | settled
      {row : BillingAdjustment}
      (settles : SettlesRow scope db now req row)
      (same : req.same row = true)
      (pending : row.status = .pending) :
      ApplyCase scope db now req
        ⟨true, settledCacheWrites req (settleAccount (scope.view db).record row).1 row.userID⟩
        { (scope.view db).settle now row with row := some (row.settled now) }

/-- An applied request is replayed; a pending one is settled. -/
theorem applyBillingAdjustment_cases {outcome : ApplyOutcome}
    (sends : scope.Sends req) (nonempty : scope.requestID ≠ "") (ownsKey : scope.OwnsKey db)
    (done : applyBillingAdjustment db now req = .ok (outcome, after)) :
    req.Valid ∧ ApplyCase scope db now req outcome (scope.view after) ∧
      (scope.OwnsRows db → scope.OwnsRows after) := by
  obtain ⟨_, checked, done⟩ := bind_ok_iff.mp done
  obtain ⟨⟨row, mid⟩, locked, done⟩ := bind_ok_iff.mp done
  refine ⟨valid_of_validate checked, ?_⟩
  obtain ⟨settles, lockedView, lockedOwns⟩ := lockOrCreateBillingAdjustment_spec sends locked
  have carries := settles.carries sends ownsKey
  obtain ⟨same, done⟩ := checked_same done
  split at done
  · rename_i applied
    cases done
    rcases settles with found | ⟨_, rfl⟩
    · refine ⟨?_, lockedOwns⟩
      rw [lockedView, ← found]
      exact ApplyCase.replayed found same applied
    · cases applied
  · cases done
  · rename_i pending
    obtain ⟨⟨flag, paid⟩, deltas, done⟩ := bind_ok_iff.mp done
    cases done
    obtain ⟨flagEq, view, owns⟩ := settleAndSave_spec carries nonempty ⟨row, rfl⟩ lockedView deltas
    refine ⟨?_, owns ∘ lockedOwns⟩
    rw [view, flagEq]
    exact ApplyCase.settled settles same pending

theorem ensurePendingBillingAdjustment_spec (sends : scope.Sends req)
    (done : ensurePendingBillingAdjustment db now req = .ok after) :
    req.Valid ∧
      (∃ row,
        SettlesRow scope db now req row ∧ req.same row = true ∧ row.status ≠ .rolledBack ∧
          scope.view after = { scope.view db with row := some row }) ∧
      (scope.OwnsRows db → scope.OwnsRows after) := by
  obtain ⟨_, checked, done⟩ := bind_ok_iff.mp done
  obtain ⟨⟨row, mid⟩, locked, done⟩ := bind_ok_iff.mp done
  refine ⟨valid_of_validate checked, ?_⟩
  obtain ⟨settles, lockedView, lockedOwns⟩ := lockOrCreateBillingAdjustment_spec sends locked
  obtain ⟨same, done⟩ := checked_same done
  split at done
  · rename_i pending
    cases done
    exact ⟨⟨row, settles, same, by rw [pending]; decide, lockedView⟩, lockedOwns⟩
  · rename_i applied
    cases done
    exact ⟨⟨row, settles, same, by rw [applied]; decide, lockedView⟩, lockedOwns⟩
  · cases done

inductive CollectCase (scope : RequestScope) (db : Database) (now : Int)
    (req : BillingAdjustmentRequest) :
    CollectOutcome → RequestView → Prop
  | kept
      {row : BillingAdjustment}
      (found : (scope.view db).row = some row)
      (applied : row.status = .applied) :
      CollectCase scope db now req ⟨row.chargeQuota, false, []⟩ (scope.view db)
  | settled
      {row : BillingAdjustment}
      (settles : SettlesRow scope db now req row)
      (same : req.same row = true)
      (pending : row.status = .pending) :
      CollectCase scope db now req
        ⟨row.chargeQuota, true,
          settledCacheWrites req (settleAccount (scope.view db).record row).1 row.userID⟩
        { (scope.view db).settle now row with row := some (row.settled now) }
  | recharged
      {row : BillingAdjustment}
      (found : (scope.view db).row = some row)
      (rolledBack : row.status = .rolledBack) :
      CollectCase scope db now req
        ⟨req.chargeQuota, true,
          settledCacheWrites req
            (settleAccount (scope.view db).record (row.recharged req)).1
            req.userID⟩
        { (scope.view db).settle now (row.recharged req) with
          row := some ((row.recharged req).settled now) }

/-- A collected charge is kept, settled, or charged again after a rollback. -/
theorem collectDeliveredBillingCharge_cases {outcome : CollectOutcome}
    (sends : scope.Sends req) (nonempty : scope.requestID ≠ "") (ownsKey : scope.OwnsKey db)
    (done : collectDeliveredBillingCharge db now req = .ok (outcome, after)) :
    req.Valid ∧ CollectCase scope db now req outcome (scope.view after) ∧
      (scope.OwnsRows db → scope.OwnsRows after) := by
  obtain ⟨_, checked, done⟩ := bind_ok_iff.mp done
  obtain ⟨⟨row, mid⟩, locked, done⟩ := bind_ok_iff.mp done
  refine ⟨valid_of_validate checked, ?_⟩
  obtain ⟨settles, lockedView, lockedOwns⟩ := lockOrCreateBillingAdjustment_spec sends locked
  have carries := settles.carries sends ownsKey
  dsimp only at done
  split at done
  · rename_i applied
    cases done
    rcases settles with found | ⟨_, rfl⟩
    · refine ⟨?_, lockedOwns⟩
      rw [lockedView, ← found]
      exact CollectCase.kept found applied
    · cases applied
  · rename_i pending
    obtain ⟨same, done⟩ := checked_same done
    obtain ⟨⟨flag, paid⟩, deltas, done⟩ := bind_ok_iff.mp done
    cases done
    obtain ⟨flagEq, view, owns⟩ := settleAndSave_spec carries nonempty ⟨row, rfl⟩ lockedView deltas
    refine ⟨?_, owns ∘ lockedOwns⟩
    rw [view, flagEq]
    exact CollectCase.settled settles same pending
  · rename_i rolledBack
    have found : (scope.view db).row = some row := by
      rcases settles with found | ⟨_, rfl⟩
      · exact found
      · cases rolledBack
    obtain ⟨⟨⟨flag, final⟩, paid⟩, charged, done⟩ := bind_ok_iff.mp done
    cases done
    unfold applyDeliveredChargeToRolledBackTx at charged
    have wallet : (row.recharged req).source = .wallet := sends.wallet
    simp only [wallet] at charged
    obtain ⟨⟨flag', paid'⟩, deltas, charged⟩ := bind_ok_iff.mp charged
    cases charged
    obtain ⟨flagEq, view, owns⟩ :=
      settleAndSave_spec (sends.carries_recharged carries) nonempty ⟨row, rfl⟩ lockedView deltas
    refine ⟨?_, owns ∘ lockedOwns⟩
    rw [view, flagEq]
    exact CollectCase.recharged found rolledBack

end Settling

/-! ## Refunding a request -/

def reservationCredit (record : Option WalletPreConsumeRecord) (row : BillingAdjustment) : Int :=
  match record with
  | none => row.reservationQuota
  | some record =>
    match record.status with
    | .refunded => 0
    | .reserved => record.amount
    | .trusted => record.collected
    | .settled =>
      if record.collected ≤ 0 then record.amount else record.collected

def WalletPreConsumeRecord.returned
    (record : WalletPreConsumeRecord) (now : Int) : WalletPreConsumeRecord :=
  if record.status = .refunded then record
  else
    { record with status := .refunded, updatedAt := now }

namespace RequestView

def returnReservation (view : RequestView) (now : Int) (row : BillingAdjustment) : RequestView :=
  { view with
    quota := view.quota + max 0 (reservationCredit view.record row)
    record := view.record.map (·.returned now)
    token := view.token.map (Token.refund row.tokenIncluded row.tokenID row.reservationQuota) }

def returnCharge (view : RequestView) (row : BillingAdjustment) : RequestView :=
  { view with
    quota := view.quota + row.chargeQuota
    token := view.token.map (Token.refund row.tokenIncluded row.tokenID row.chargeQuota) }

end RequestView

section Refunding

variable {scope : RequestScope} {db after : Database} {now : Int} {row : BillingAdjustment}

theorem creditWallet_spec {userID amount : Int} (done : creditWallet db userID amount = .ok after) :
    0 ≤ amount ∧ WalletMoved db after userID amount := by
  unfold creditWallet at done
  split at done
  · rename_i zero
    cases done
    subst zero
    exact ⟨Int.le_refl 0, refl db userID⟩
  · split at done
    · cases done
    exact increaseUserQuotaTx_spec done

theorem creditHeld_spec {userID amount : Int} (done : creditHeld db userID amount = .ok after) :
    WalletMoved db after userID (max 0 amount) := by
  unfold creditHeld at done
  split at done
  · rename_i positive
    rw [max_eq_right (Int.le_of_lt positive)]
    exact (creditWallet_spec done).2
  · rename_i nothing
    cases done
    rw [max_eq_left (Int.not_lt.mp nothing)]
    exact refl db userID

theorem markWalletPreConsumeRefundedTx_spec {record : WalletPreConsumeRecord}
    (found : (scope.view db).record = some record) (isOpen : record.status.isOpen = true) :
    scope.view (markWalletPreConsumeRefundedTx db now scope.requestID) =
        { scope.view db with
          record := some { record with status := .refunded, updatedAt := now } } ∧
      (scope.OwnsRows db →
        scope.OwnsRows (markWalletPreConsumeRefundedTx db now scope.requestID)) := by
  have located : lockWalletPreConsumeTx db scope.requestID = some record := found
  have sameID : record.requestID = scope.requestID := KeyedTable.key_of_lookup located
  unfold markWalletPreConsumeRefundedTx
  simp only [located, isOpen, if_true]
  exact view_saveWalletPreConsume
      { record with status := .refunded, updatedAt := now } found sameID

private theorem creditAndClose_spec
    {paid closed : Database} {record : WalletPreConsumeRecord} {amount : Int}
    (found : (scope.view db).record = some record) (notRefunded : record.status ≠ .refunded)
    (moved : WalletMoved db paid scope.userID amount)
    (closing : (scope.view paid).record = some record →
        scope.view closed =
            { scope.view paid with
              record := some { record with status := .refunded, updatedAt := now } } ∧
          (scope.OwnsRows paid → scope.OwnsRows closed)) :
    scope.view closed =
        { scope.view db with
          quota := (scope.view db).quota + amount
          record := (scope.view db).record.map (·.returned now) } ∧
      (scope.OwnsRows db → scope.OwnsRows closed) := by
  have credited := view_walletMoved moved
  have present : (scope.view paid).record = some record := by
    rw [credited.1]
    exact found
  obtain ⟨view, owns⟩ := closing present
  refine ⟨?_, owns ∘ credited.2⟩
  rw [view, credited.1, found, Option.map_some, returned, if_neg notRefunded]

/-- The reserve is credited once and its record closed. -/
theorem creditWalletReservationOnceTx_spec {credited : Int} (carries : scope.Carries row)
    (done : creditWalletReservationOnceTx db now row = .ok (credited, after)) :
    credited = reservationCredit (scope.view db).record row ∧
      scope.view after =
        { scope.view db with
          quota := (scope.view db).quota + max 0 credited
          record := (scope.view db).record.map (·.returned now) } ∧
      (scope.OwnsRows db → scope.OwnsRows after) := by
  unfold creditWalletReservationOnceTx at done
  rw [carries.request, carries.user] at done
  split at done
  · rename_i located
    have absent : (scope.view db).record = none := located
    obtain ⟨paid, creditDone, done⟩ := bind_ok_iff.mp done
    cases done
    obtain ⟨nonnegative, moved⟩ := creditWallet_spec creditDone
    have paidView := view_walletMoved moved
    refine ⟨by rw [absent]; rfl, ?_, paidView.2⟩
    rw [paidView.1, absent, max_eq_right nonnegative, Option.map_none, ← absent]
  · rename_i record located
    have found : (scope.view db).record = some record := located
    have sameID : record.requestID = scope.requestID := KeyedTable.key_of_lookup located
    split at done
    · rename_i refunded
      cases done
      refine ⟨by simp [found, reservationCredit, refunded], ?_, id⟩
      rw [found, Option.map_some, returned, if_pos refunded, ← found, max_self, Int.add_zero]
    · rename_i reserved
      obtain ⟨paid, creditDone, done⟩ := bind_ok_iff.mp done
      cases done
      refine ⟨by simp [found, reservationCredit, reserved], ?_⟩
      refine creditAndClose_spec found (by rw [reserved]; decide) (creditHeld_spec creditDone) ?_
      intro present
      exact markWalletPreConsumeRefundedTx_spec present (by rw [reserved]; rfl)
    · rename_i trusted
      obtain ⟨paid, creditDone, done⟩ := bind_ok_iff.mp done
      cases done
      refine ⟨by simp [found, reservationCredit, trusted], ?_⟩
      refine creditAndClose_spec found (by rw [trusted]; decide) (creditHeld_spec creditDone) ?_
      intro present
      exact markWalletPreConsumeRefundedTx_spec present (by rw [trusted]; rfl)
    · rename_i settled
      obtain ⟨paid, creditDone, done⟩ := bind_ok_iff.mp done
      cases done
      refine ⟨by simp [found, reservationCredit, settled], ?_⟩
      refine creditAndClose_spec found (by rw [settled]; decide) (creditHeld_spec creditDone) ?_
      intro present
      exact
        view_saveWalletPreConsume { record with status := .refunded, updatedAt := now }
          present sameID

theorem creditBillingReservation_spec {credited : Int} (carries : scope.Carries row)
    (done : creditBillingReservation db now row = .ok (credited, after)) :
    credited = reservationCredit (scope.view db).record row ∧
      scope.view after = (scope.view db).returnReservation now row ∧
      (scope.OwnsRows db → scope.OwnsRows after) := by
  unfold creditBillingReservation at done
  simp only [carries.wallet] at done
  obtain ⟨⟨amount, paid⟩, creditDone, done⟩ := bind_ok_iff.mp done
  obtain ⟨final, tokenDone, done⟩ := bind_ok_iff.mp done
  cases done
  obtain ⟨amountEq, paidView, paidOwns⟩ := creditWalletReservationOnceTx_spec carries creditDone
  have moved := creditTokenAmount_spec tokenDone
  rw [carries.token] at moved
  have tokenView := view_tokenMoved moved
  refine ⟨amountEq, ?_, tokenView.2 ∘ paidOwns⟩
  rw [tokenView.1, paidView, amountEq, ← carries.token]
  rfl

theorem creditBillingCharge_spec (carries : scope.Carries row)
    (done : creditBillingCharge db row = .ok after) :
    scope.view after = (scope.view db).returnCharge row ∧
      (scope.OwnsRows db → scope.OwnsRows after) := by
  unfold creditBillingCharge at done
  simp only [carries.wallet] at done
  obtain ⟨paid, creditDone, tokenDone⟩ := bind_ok_iff.mp done
  have credited := (creditWallet_spec creditDone).2
  rw [carries.user] at credited
  have paidView := view_walletMoved credited
  have moved := creditTokenAmount_spec tokenDone
  rw [carries.token] at moved
  have tokenView := view_tokenMoved moved
  refine ⟨?_, tokenView.2 ∘ paidView.2⟩
  rw [tokenView.1, paidView.1, ← carries.token]
  rfl

private theorem saveRefunded_spec {paid : Database} {before : RequestView}
    (carries : scope.Carries row) (now quota : Int) (begun : scope.view paid = before)
    (located : ∃ stored, before.row = some stored) :
    scope.view (paid.saveBillingAdjustment (row.refunded now quota)) =
        { before with row := some (row.refunded now quota) } ∧
      (scope.OwnsRows paid →
        scope.OwnsRows (paid.saveBillingAdjustment (row.refunded now quota))) := by
  subst begun
  obtain ⟨stored, present⟩ := located
  exact view_saveBillingAdjustment (row.refunded now quota) present (carries.refunded now quota).key

inductive RollbackCase (scope : RequestScope) (db : Database) (now actualQuota : Int) :
    List CacheWrite → RequestView → Prop
  | kept
      {row : BillingAdjustment}
      (found : (scope.view db).row = some row)
      (rolledBack : row.status = .rolledBack) :
      RollbackCase scope db now actualQuota [] (scope.view db)
  | returned
      {row : BillingAdjustment}
      (found : (scope.view db).row = some row)
      (pending : row.status = .pending) :
      RollbackCase scope db now actualQuota
        (reservationCacheWrites row
          (reservationCredit (scope.view db).record row)
          (row.source = .wallet ∧ 0 ≤ reservationCredit (scope.view db).record row))
        { (scope.view db).returnReservation now row with
          row := some (row.refunded now row.reservationQuota) }
  | reversed
      {row : BillingAdjustment}
      (found : (scope.view db).row = some row)
      (applied : row.status = .applied)
      (accepted : ¬(0 < actualQuota ∧ actualQuota ≠ row.chargeQuota)) :
      RollbackCase scope db now actualQuota
        (applyBillingRollbackCache (billingAdjustmentCacheFrom row row.chargeQuota))
        { (scope.view db).returnCharge row with row := some (row.refunded now row.chargeQuota) }

/-- A rollback, by the status of the row. -/
theorem rollbackBillingAdjustment_cases
    {actualQuota : Int} {writes : List CacheWrite} (ownsKey : scope.OwnsKey db)
    (done : rollbackBillingAdjustment db now scope.key actualQuota = .ok (writes, after)) :
    RollbackCase scope db now actualQuota writes (scope.view after) ∧
      (scope.OwnsRows db → scope.OwnsRows after) := by
  unfold rollbackBillingAdjustment at done
  split at done
  · cases done
  split at done
  · cases done
  split at done
  · cases done
  rename_i row located
  have found : (scope.view db).row = some row := located
  have carries := ownsKey row found
  split at done
  · rename_i rolledBack
    cases done
    exact ⟨.kept found rolledBack, id⟩
  · rename_i pending
    obtain ⟨⟨credited, paid⟩, creditDone, done⟩ := bind_ok_iff.mp done
    cases done
    obtain ⟨creditedEq, paidView, paidOwns⟩ := creditBillingReservation_spec carries creditDone
    have saved := saveRefunded_spec carries now row.reservationQuota paidView ⟨row, found⟩
    refine ⟨?_, saved.2 ∘ paidOwns⟩
    rw [saved.1, creditedEq]
    exact .returned found pending
  · rename_i applied
    split at done
    · cases done
    rename_i accepted
    obtain ⟨paid, creditDone, done⟩ := bind_ok_iff.mp done
    cases done
    obtain ⟨paidView, paidOwns⟩ := creditBillingCharge_spec carries creditDone
    have saved := saveRefunded_spec carries now row.chargeQuota paidView ⟨row, found⟩
    refine ⟨?_, saved.2 ∘ paidOwns⟩
    rw [saved.1]
    exact .reversed found applied accepted

def ReturnsRow (scope : RequestScope) (db : Database) (now : Int)
    (req : BillingReservationRefund) (row : BillingAdjustment) : Prop :=
  (scope.view db).row = some row ∨
    ((scope.view db).row = none ∧
      row = req.pendingRow now (subscriptionPreConsumeCreatedAtTx db req.requestID))

inductive ReservationCase (scope : RequestScope) (db : Database) (now : Int)
    (req : BillingReservationRefund) :
    List CacheWrite → RequestView → Prop
  | kept
      {row : BillingAdjustment}
      (found : (scope.view db).row = some row)
      (rolledBack : row.status = .rolledBack) :
      ReservationCase scope db now req [] (scope.view db)
  | returned
      {row : BillingAdjustment}
      (returns : ReturnsRow scope db now req row)
      (pending : row.status = .pending) :
      ReservationCase scope db now req
        (reservationCacheWrites row
          (reservationCredit (scope.view db).record row)
          (row.source = .wallet))
        { (scope.view db).returnReservation now row with
          row := some (row.refunded now row.reservationQuota) }

/-- A refund of the reservation, by the status of the row. -/
theorem refundBillingReservation_cases {req : BillingReservationRefund} {writes : List CacheWrite}
    (returns : scope.Returns req) (ownsKey : scope.OwnsKey db)
    (done : refundBillingReservation db now req = .ok (writes, after)) :
    0 ≤ req.reservationQuota ∧ ReservationCase scope db now req writes (scope.view after) ∧
      (scope.OwnsRows db → scope.OwnsRows after) := by
  unfold refundBillingReservation at done
  split at done
  · cases done
  split at done
  · cases done
  rename_i quotas
  push Not at quotas
  refine ⟨quotas.1, ?_⟩
  obtain ⟨⟨row, mid⟩, locked, done⟩ := bind_ok_iff.mp done
  have lockedSpec : ReturnsRow scope db now req row ∧ scope.Carries row ∧
        scope.view mid = { scope.view db with row := some row } ∧
        (scope.OwnsRows db → scope.OwnsRows mid) := by
    unfold lockOrCreateReservation at locked
    rw [returns.key] at locked
    split at locked
    · rename_i stored located
      cases locked
      have found : (scope.view db).row = some row := located
      refine ⟨Or.inl found, ownsKey row found, ?_, id⟩
      rw [← found]
    · obtain ⟨created, createDone, locked⟩ := bind_ok_iff.mp locked
      cases locked
      obtain ⟨absent, view, owns⟩ :=
        view_createBillingAdjustment createDone returns.key
      exact ⟨Or.inr ⟨absent, rfl⟩, returns.carries_pendingRow now _, view, owns⟩
  obtain ⟨located, carries, lockedView, lockedOwns⟩ := lockedSpec
  dsimp only at done
  split at done
  · rename_i rolledBack
    cases done
    rcases located with found | ⟨_, rfl⟩
    · refine ⟨?_, lockedOwns⟩
      rw [lockedView, ← found]
      exact .kept found rolledBack
    · cases rolledBack
  · cases done
  · rename_i pending
    obtain ⟨⟨credited, paid⟩, creditDone, done⟩ := bind_ok_iff.mp done
    cases done
    obtain ⟨creditedEq, paidView, paidOwns⟩ := creditBillingReservation_spec carries creditDone
    rw [lockedView] at creditedEq paidView
    have saved := saveRefunded_spec carries now row.reservationQuota paidView ⟨row, rfl⟩
    refine ⟨?_, saved.2 ∘ paidOwns ∘ lockedOwns⟩
    rw [saved.1, creditedEq]
    exact .returned located pending

end Refunding

end NewApi.Billing
