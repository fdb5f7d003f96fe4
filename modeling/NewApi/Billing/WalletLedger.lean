import NewApi.Billing.WalletSettlement

/-!
# Runs of one wallet request

A `WalletStep` is one database transaction for the request, by any node.
`RequestView.taken` says what the ledger is for: a request takes what its
reserve holds until it is settled, then the charge, and nothing after a
rollback.  The invariant relates this to the balance and to the reserve row.
-/

namespace NewApi.Billing

open Transactions WalletPreConsumeRecord RequestView WalletPreConsumeStatus Database RequestScope

structure LedgerState where
  db : Database
  /-- The amount that the session of the request has reserved so far. -/
  reserved : Int

inductive WalletStep where
  | reserve (now amount : Int)
  | reserveTrusted (now amount : Int)
  | increase (now delta : Int)
  | markDelivered (now : Int)
  | refund (now : Int)
  | recoverExpired (now : Int)
  | ensurePending (now : Int) (req : BillingAdjustmentRequest)
  | apply (now : Int) (req : BillingAdjustmentRequest)
  | rollback (now actualQuota : Int)
  | refundReservation (now : Int) (req : BillingReservationRefund)
  | collectDelivered (now : Int) (req : BillingAdjustmentRequest)

def LedgerState.after {α : Type}
    (state : LedgerState) (transaction : Except BillingError (α × Database)) :
    LedgerState :=
  { state with db := commit state.db (transaction.map Prod.snd) }

def WalletStep.run (scope : RequestScope) (state : LedgerState) : WalletStep → LedgerState
  | .reserve now amount =>
    match reserveWalletPreConsume state.db now scope.requestID scope.userID amount
    with
    | .ok (debited, db) => ⟨db, state.reserved + debited⟩
    | .error _ => state
  | .reserveTrusted now amount =>
    { state with
      db :=
        commit state.db
          (reserveTrustedWalletPreConsume state.db now scope.requestID scope.userID amount) }
  | .increase now delta =>
    match increaseWalletPreConsume state.db now scope.requestID scope.userID delta
    with
    | .ok db => ⟨db, state.reserved + delta⟩
    | .error _ => state
  | .markDelivered now =>
    { state with db := markWalletPreConsumeClientDelivered state.db now scope.requestID }
  | .refund now => state.after (refundWalletPreConsume state.db now scope.requestID false)
  | .recoverExpired now => state.after (refundWalletPreConsume state.db now scope.requestID true)
  | .ensurePending now req =>
    { state with db := commit state.db (ensurePendingBillingAdjustment state.db now req) }
  | .apply now req => state.after (applyBillingAdjustment state.db now req)
  | .rollback now actualQuota =>
    state.after (rollbackBillingAdjustment state.db now scope.key actualQuota)
  | .refundReservation now req => state.after (refundBillingReservation state.db now req)
  | .collectDelivered now req => state.after (collectDeliveredBillingCharge state.db now req)

/-- What the session of a request keeps to: it reserves before the first
ledger step, its settle payloads carry what it has reserved, and it charges a
delivered response only as `collects` permits.  A reservation refund is checked
only where the code relies on its amount, which is when no reserve row exists. -/
def WalletStep.Allowed (scope : RequestScope)
    (collects : LedgerState → BillingAdjustmentRequest → Prop)
    (state : LedgerState) : WalletStep → Prop
  | .reserve _ _ => (scope.view state.db).row = none
  | .reserveTrusted _ _ => (scope.view state.db).row = none
  | .increase _ _ => (scope.view state.db).row = none
  | .markDelivered _ => True
  | .refund _ => True
  | .recoverExpired _ => True
  | .ensurePending _ req => scope.Sends req ∧ req.reservationQuota = state.reserved
  | .apply _ req => scope.Sends req ∧ req.reservationQuota = state.reserved
  | .rollback _ _ => True
  | .refundReservation _ req =>
    scope.Returns req ∧
      ((scope.view state.db).record = none → req.reservationQuota = state.reserved)
  | .collectDelivered _ req => scope.Sends req ∧ collects state req

variable {scope : RequestScope}

theorem WalletStep.allowed_mono {few many : LedgerState → BillingAdjustmentRequest → Prop}
    {state : LedgerState} (step : WalletStep) (weaker : ∀ req, few state req → many state req)
    (allowed : step.Allowed scope few state) :
    step.Allowed scope many state := by
  cases step with
  | collectDelivered now req => exact ⟨allowed.1, weaker req allowed.2⟩
  | _ => exact allowed

abbrev WalletRun (scope : RequestScope) (collects : LedgerState → BillingAdjustmentRequest → Prop)
    (start : Database) (steps : List WalletStep) : Prop :=
  GuardedRun (WalletStep.run scope) (WalletStep.Allowed scope collects) ⟨start, 0⟩ steps

abbrev walletFinal (scope : RequestScope) (start : Database) (steps : List WalletStep) :
    LedgerState :=
  execute (WalletStep.run scope) ⟨start, 0⟩ steps

structure RequestScope.Fresh (scope : RequestScope) (db : Database) : Prop where
  nonempty : scope.requestID ≠ ""
  noRecord : (scope.view db).record = none
  noRow : (scope.view db).row = none
  ownsRows : scope.OwnsRows db

def RequestScope.net (scope : RequestScope) (start now : Database) : Int :=
  (scope.view start).quota - (scope.view now).quota

def WalletPreConsumeRecord.held (record : WalletPreConsumeRecord) : Int :=
  match record.status with
  | .reserved => record.amount
  | .trusted => 0
  | .settled =>
    if 0 < record.collected then record.collected else record.amount
  | .refunded => 0

def heldBy : Option WalletPreConsumeRecord → Int
  | none => 0
  | some record => record.held

def RequestView.taken (view : RequestView) : Int :=
  match view.row with
  | none => heldBy view.record
  | some row =>
    match row.status with
    | .pending => heldBy view.record
    | .applied => row.chargeQuota
    | .rolledBack => 0

/-- What a reserve row remembers of the session's amount before settlement. -/
def WalletPreConsumeRecord.Remembers (record : WalletPreConsumeRecord) (reserved : Int) : Prop :=
  match record.status with
  | .reserved => record.amount = reserved ∧ 0 < record.amount ∧ record.collected = 0
  | .trusted => reserved = 0 ∧ 0 < record.amount ∧ record.collected = 0
  | .settled =>
    (0 < record.collected ∧ reserved = 0) ∨
      (record.collected = 0 ∧ record.amount = reserved ∧ 0 < record.amount)
  | .refunded => True

def Unsettled (record : Option WalletPreConsumeRecord) (reserved : Int) : Prop :=
  match record with
  | none => reserved = 0
  | some record => record.Remembers reserved

def Closed (record : Option WalletPreConsumeRecord) : Prop :=
  ∀ stored, record = some stored → stored.status.isOpen = false

def RequestView.Consistent (view : RequestView) (reserved : Int) : Prop :=
  match view.row with
  | none => Unsettled view.record reserved
  | some row =>
    match row.status with
    | .pending =>
      Unsettled view.record reserved ∧
        row.reservationQuota = reserved ∧
        row.reservationQuota + row.fundingDelta = row.chargeQuota
    | .applied => Closed view.record
    | .rolledBack => Closed view.record

/-- The ledger invariant, on the rows of the request: the balance has moved by
exactly what the request is meant to have taken. -/
structure RequestView.Balanced
    (scope : RequestScope) (startQuota reserved : Int) (view : RequestView) :
    Prop where
  carries : ∀ row, view.row = some row → scope.Carries row
  owner : ∀ record, view.record = some record → record.userID = scope.userID
  consistent : view.Consistent reserved
  balance : view.quota + view.taken = startQuota

structure LedgerInvariant (scope : RequestScope) (startQuota : Int) (db : Database)
    (reserved : Int) : Prop where
  ownsRows : scope.OwnsRows db
  balanced : (scope.view db).Balanced scope startQuota reserved

/-- When a charge for a delivered response is exact: without a ledger row the
payload carries what was reserved, unless the reserve row overrides it; a
rolled-back request holds nothing any more, so the payload must carry nothing
and no estimate may be on record as collected. -/
def CollectsHeld (scope : RequestScope) (state : LedgerState)
    (req : BillingAdjustmentRequest) : Prop :=
  match (scope.view state.db).row with
  | none =>
    req.reservationQuota = state.reserved ∨
      ∃ record, (scope.view state.db).record = some record ∧
        (record.status = .refunded ∨ record.status = .settled ∧ 0 < record.collected)
  | some row =>
    row.status = .rolledBack →
      req.reservationQuota = 0 ∧
        ∀ record, (scope.view state.db).record = some record →
          record.status = .settled → record.collected ≤ 0

section SettleCharge

variable {record : Option WalletPreConsumeRecord} {row : BillingAdjustment} {reserved : Int}

/-- A first settlement brings the request from what it holds to its charge
exactly when the payload carries the reserved amount, or when the reserve row
makes the code ignore the payload. -/
theorem settleCharge_exact_iff (unsettled : Unsettled record reserved)
    (live : row.status ≠ .rolledBack)
    (payload : row.reservationQuota + row.fundingDelta = row.chargeQuota) :
    settleCharge record row row.fundingDelta = row.chargeQuota - heldBy record ↔
      row.reservationQuota = reserved ∨
        ∃ stored, record = some stored ∧
          (stored.status = .refunded ∨ stored.status = .settled ∧ 0 < stored.collected) := by
  cases record with
  | none =>
    have nothing : reserved = 0 := unsettled
    simp only [settleCharge, settleAccount, heldBy]
    simp
    omega
  | some stored =>
    have remembers : stored.Remembers reserved := unsettled
    cases status : stored.status with
    | reserved =>
      simp only [Remembers, status] at remembers
      simp [settleCharge, settleAccount, heldBy, held, status, remembers.2.2]
      omega
    | trusted =>
      simp only [Remembers, status] at remembers
      simp [settleCharge, settleAccount, heldBy, held, status, remembers.2.2]
      omega
    | settled =>
      simp only [Remembers, status] at remembers
      rcases remembers with ⟨collected, nothing⟩ | ⟨clean, amount, _⟩
      · simp [settleCharge, settleAccount, heldBy, held, status, collected]
      · simp [settleCharge, settleAccount, heldBy, held, status, clean]
        omega
    | refunded =>
      simp [settleCharge, settleAccount, heldBy, held, status, live]

/-- After a rollback the request holds nothing, so its next charge is exact
when the payload carries no reservation and the code subtracts no collected
estimate. -/
theorem settleCharge_rolledBack_exact_iff (closed : Closed record)
    (rolledBack : row.status = .rolledBack)
    (payload : row.reservationQuota + row.fundingDelta = row.chargeQuota) :
    settleCharge record row row.fundingDelta = row.chargeQuota ↔ row.reservationQuota = 0 ∧
        ∀ stored, record = some stored → stored.status = .settled → stored.collected ≤ 0 := by
  cases record with
  | none =>
    simp [settleCharge, settleAccount]
    omega
  | some stored =>
    have shut : stored.status.isOpen = false := closed stored rfl
    cases status : stored.status with
    | reserved => simp [status, isOpen] at shut
    | trusted => simp [status, isOpen] at shut
    | settled =>
      by_cases collected : 0 < stored.collected
      · simp [settleCharge, settleAccount, status, collected]
        omega
      · simp [settleCharge, settleAccount, status, collected]
        omega
    | refunded =>
      simp [settleCharge, settleAccount, status, rolledBack]
      omega

end SettleCharge

/-! ## One step -/

section Steps

variable {scope : RequestScope} {startQuota reserved : Int}
  {view : RequestView} {row : BillingAdjustment} {now : Int}

private theorem closed_map_closed (record : Option WalletPreConsumeRecord) (now : Int) :
    Closed (record.map (·.closed now)) := by
  intro stored found
  obtain ⟨old, _, rfl⟩ := Option.map_eq_some_iff.mp found
  unfold closed
  split
  · rfl
  · rename_i shut
    simpa using shut

private theorem closed_map_returned (record : Option WalletPreConsumeRecord) (now : Int) :
    Closed (record.map (·.returned now)) := by
  intro stored found
  obtain ⟨old, _, rfl⟩ := Option.map_eq_some_iff.mp found
  unfold returned
  split
  · rename_i refunded
    rw [refunded]
    rfl
  · rfl

private theorem owner_map {record : Option WalletPreConsumeRecord}
    {update : WalletPreConsumeRecord → WalletPreConsumeRecord}
    (owner : ∀ stored, record = some stored → stored.userID = scope.userID)
    (sameUser : ∀ stored, (update stored).userID = stored.userID) :
    ∀ stored, record.map update = some stored → stored.userID = scope.userID := by
  intro stored found
  obtain ⟨old, present, rfl⟩ := Option.map_eq_some_iff.mp found
  rw [sameUser]
  exact owner old present

private theorem closed_userID (record : WalletPreConsumeRecord) (now : Int) :
    (record.closed now).userID = record.userID := by
  unfold closed
  split <;> rfl

private theorem returned_userID (record : WalletPreConsumeRecord) (now : Int) :
    (record.returned now).userID = record.userID := by
  unfold returned
  split <;> rfl

private theorem balanced_settle (balanced : view.Balanced scope startQuota reserved)
    (carries : scope.Carries row)
    (exact : settleCharge view.record row row.fundingDelta = row.chargeQuota - view.taken) :
    Balanced scope startQuota reserved
      { view.settle now row with row := some (row.settled now) } where
  carries := by
    intro stored found
    cases found
    exact carries.settled now
  owner := owner_map balanced.owner (closed_userID · now)
  consistent := closed_map_closed view.record now
  balance := by
    have before := balanced.balance
    change
      view.quota + -settleCharge view.record row row.fundingDelta + row.chargeQuota = startQuota
    omega

variable {quota : Int}

private theorem balanced_returnReservation
    (balanced : view.Balanced scope startQuota reserved) (carries : scope.Carries row)
    (exact : max 0 (reservationCredit view.record row) = view.taken) :
    Balanced scope startQuota reserved
      { view.returnReservation now row with
        row := some (row.refunded now quota) } where
  carries := by
    intro stored found
    cases found
    exact carries.refunded now quota
  owner := owner_map balanced.owner (returned_userID · now)
  consistent := closed_map_returned view.record now
  balance := by
    have before := balanced.balance
    change view.quota + max 0 (reservationCredit view.record row) + 0 = startQuota
    omega

private theorem balanced_returnCharge (balanced : view.Balanced scope startQuota reserved)
    (found : view.row = some row) (applied : row.status = .applied) :
    Balanced scope startQuota reserved
      { view.returnCharge row with
        row := some (row.refunded now quota) } where
  carries := by
    intro stored located
    cases located
    exact (balanced.carries row found).refunded now quota
  owner := balanced.owner
  consistent := by
    have before := balanced.consistent
    simp only [Consistent, found, applied] at before
    exact before
  balance := by
    have before := balanced.balance
    simp only [taken, found, applied] at before
    simp only [returnCharge, taken, BillingAdjustment.refunded]
    omega

private theorem reservationCredit_unsettled {record : Option WalletPreConsumeRecord}
    (unsettled : Unsettled record reserved)
    (payload : record = none → row.reservationQuota = reserved) :
    max 0 (reservationCredit record row) = heldBy record := by
  cases record with
  | none =>
    have nothing : reserved = 0 := unsettled
    simp [reservationCredit, heldBy, payload rfl, nothing]
  | some stored =>
    have remembers : stored.Remembers reserved := unsettled
    cases status : stored.status with
    | reserved =>
      simp only [Remembers, status] at remembers
      simp [reservationCredit, heldBy, held, status]
      omega
    | trusted =>
      simp only [Remembers, status] at remembers
      simp [reservationCredit, heldBy, held, status]
      omega
    | settled =>
      simp only [Remembers, status] at remembers
      simp only [reservationCredit, heldBy, held, status]
      split <;> split <;> omega
    | refunded => simp [reservationCredit, heldBy, held, status]

def RequestView.Live (view : RequestView) : Prop :=
  ∀ row, view.row = some row → row.status = .pending

private theorem taken_of_live (live : view.Live) : view.taken = heldBy view.record := by
  unfold taken
  split
  · rfl
  · rename_i row found
    rw [live row found]

private theorem consistent_iff_of_live (live : view.Live) : view.Consistent reserved ↔
      Unsettled view.record reserved ∧
        ∀ row, view.row = some row →
          row.reservationQuota = reserved ∧
            row.reservationQuota + row.fundingDelta = row.chargeQuota := by
  unfold Consistent
  cases found : view.row with
  | none => simp
  | some row => simp [live row found]

private theorem live_of_isOpen {record : WalletPreConsumeRecord}
    (consistent : view.Consistent reserved) (present : view.record = some record)
    (isOpen : record.status.isOpen = true) :
    view.Live := by
  intro row found
  unfold Consistent at consistent
  rw [found] at consistent
  cases status : row.status with
  | pending => rfl
  | applied | rolledBack =>
    simp only [status] at consistent
    rw [consistent record present] at isOpen
    cases isOpen

/-- A change of the reserve row before settlement: the balance moves by the
change of what is held, and the session's amount only changes while there is
no ledger row. -/
private theorem balanced_record
    {after : RequestView} {record : WalletPreConsumeRecord} {reserved' : Int}
    (balanced : view.Balanced scope startQuota reserved) (live : view.Live)
    (shape : after = { view with quota := quota, record := some record })
    (owner : record.userID = scope.userID) (remembers : record.Remembers reserved')
    (sameReserved : view.row = none ∨ reserved' = reserved)
    (moved : quota + record.held = view.quota + heldBy view.record) :
    after.Balanced scope startQuota reserved' := by
  subst shape
  have stillLive : Live { view with quota := quota, record := some record } := live
  constructor
  · exact balanced.carries
  · intro stored found
    cases found
    exact owner
  · have before := (consistent_iff_of_live live).mp balanced.consistent
    refine (consistent_iff_of_live stillLive).mpr ⟨remembers, ?_⟩
    intro row found
    rcases sameReserved with noRow | rfl
    · rw [noRow] at found
      cases found
    · exact before.2 row found
  · have before := balanced.balance
    rw [taken_of_live live] at before
    rw [taken_of_live stillLive]
    change quota + record.held = startQuota
    omega

private theorem balanced_refund
    {db : Database} {requireExpired : Bool} {outcome : WalletRefundOutcome}
    (balanced : (scope.view db).Balanced scope startQuota reserved)
    (refund : WalletRefundCase scope db now requireExpired outcome view) :
    view.Balanced scope startQuota reserved := by
  have remembered : ∀ record, (scope.view db).record = some record →
        record.status.isOpen = true → (scope.view db).Live ∧ record.Remembers reserved := by
    intro record found isOpen
    have live := live_of_isOpen balanced.consistent found isOpen
    have consistent := (consistent_iff_of_live live).mp balanced.consistent
    rw [found] at consistent
    exact ⟨live, consistent.1⟩
  cases refund with
  | alreadyRefunded found refunded => exact balanced
  | @owned record found isOpen expiry owned =>
    obtain ⟨live, remembers⟩ := remembered record found isOpen
    refine balanced_record balanced live rfl (balanced.owner record found) remembers (Or.inr rfl) ?_
    rw [found]
    rfl
  | @collected record found trusted expiry delivered unowned =>
    obtain ⟨live, remembers⟩ := remembered record found (by rw [trusted]; rfl)
    simp only [Remembers, trusted] at remembers
    refine balanced_record balanced live rfl (balanced.owner record found)
        (Or.inl ⟨remembers.2.1, remembers.1⟩) (Or.inr rfl) ?_
    simp only [found, heldBy, held, trusted]
    omega
  | @dropped record found trusted =>
    obtain ⟨live, _⟩ := remembered record found (by rw [trusted]; rfl)
    refine balanced_record balanced live rfl (balanced.owner record found) trivial (Or.inr rfl) ?_
    simp [found, heldBy, held, trusted]
  | @kept record found reservedStatus expiry delivered unowned =>
    obtain ⟨live, remembers⟩ := remembered record found (by rw [reservedStatus]; rfl)
    simp only [Remembers, reservedStatus] at remembers
    refine balanced_record balanced live rfl (balanced.owner record found)
        (Or.inr ⟨remembers.2.2, remembers.1, remembers.2.1⟩)
        (Or.inr rfl) ?_
    simp [found, heldBy, held, reservedStatus, remembers.2.2]
  | @returned record found reservedStatus undelivered unowned =>
    obtain ⟨live, remembers⟩ := remembered record found (by rw [reservedStatus]; rfl)
    simp only [Remembers, reservedStatus] at remembers
    refine balanced_record balanced live rfl (balanced.owner record found) trivial (Or.inr rfl) ?_
    simp [found, heldBy, held, reservedStatus, remembers.2.1]

private theorem live_of_row (located : view.row = some row ∨ view.row = none)
    (pending : row.status = .pending) :
    view.Live := by
  intro stored found
  rcases located with present | absent
  · rw [present] at found
    cases found
    exact pending
  · rw [absent] at found
    cases found

/-- A first settlement is exact as soon as a payload that creates the row
carries the reserved amount, or the reserve row overrides it. -/
private theorem settle_exact_iff {db : Database} {req : BillingAdjustmentRequest}
    (balanced : (scope.view db).Balanced scope startQuota reserved)
    (settles : SettlesRow scope db now req row)
    (pending : row.status = .pending) (valid : req.Valid) :
    settleCharge (scope.view db).record row row.fundingDelta =
        row.chargeQuota - (scope.view db).taken ↔
      ((scope.view db).row = none →
        req.reservationQuota = reserved ∨
          ∃ stored, (scope.view db).record = some stored ∧
            (stored.status = .refunded ∨ stored.status = .settled ∧ 0 < stored.collected)) := by
  have live : (scope.view db).Live := live_of_row (settles.imp_right And.left) pending
  have consistent := (consistent_iff_of_live live).mp balanced.consistent
  have notRolledBack : row.status ≠ .rolledBack := by
    rw [pending]
    decide
  rw [taken_of_live live]
  rcases settles with found | ⟨absent, rfl⟩
  · obtain ⟨sameReserved, payload⟩ := consistent.2 row found
    have exact :=
      (settleCharge_exact_iff consistent.1 notRolledBack payload).mpr (Or.inl sameReserved)
    rw [found]
    simp [exact]
  · rw [settleCharge_exact_iff consistent.1 notRolledBack valid.balanced]
    exact ⟨fun exact _ => exact, fun exact => exact absent⟩

private theorem unsettled_of_noRow (balanced : view.Balanced scope startQuota reserved)
    (noRow : view.row = none) :
    view.Live ∧ Unsettled view.record reserved := by
  have live : view.Live := by
    intro row found
    rw [noRow] at found
    cases found
  exact ⟨live, ((consistent_iff_of_live live).mp balanced.consistent).1⟩

end Steps

section Transactions

variable {scope : RequestScope} {startQuota reserved : Int} {db after : Database} {now : Int}

private theorem reserve_invariant {amount debited : Int}
    (invariant : LedgerInvariant scope startQuota db reserved) (noRow : (scope.view db).row = none)
    (done :
      reserveWalletPreConsume db now scope.requestID scope.userID amount = .ok (debited, after)) :
    LedgerInvariant scope startQuota after (reserved + debited) := by
  obtain ⟨ownsRows, balanced⟩ := invariant
  obtain ⟨live, unsettled⟩ := unsettled_of_noRow balanced noRow
  obtain ⟨positive, owns, outcome⟩ := reserveWalletPreConsume_spec done
  refine ⟨owns ownsRows, ?_⟩
  rcases outcome with ⟨absent, rfl, view⟩ | ⟨record, found, reservedStatus, rfl, view⟩
  · rw [absent] at unsettled
    have nothing : reserved = 0 := unsettled
    refine balanced_record balanced live view rfl ?_ (Or.inl noRow) ?_
    · exact ⟨by rw [nothing, Int.zero_add]; rfl, positive, rfl⟩
    · rw [absent]
      change _ + -debited + debited = _ + 0
      omega
  · rw [found] at unsettled
    refine balanced_record balanced live view (balanced.owner record found) ?_ (Or.inl noRow) ?_
    · rw [Int.add_zero]
      exact unsettled
    · rw [found]
      rfl

private theorem reserveTrusted_invariant {amount : Int}
    (invariant : LedgerInvariant scope startQuota db reserved) (noRow : (scope.view db).row = none)
    (done : reserveTrustedWalletPreConsume db now scope.requestID scope.userID amount = .ok after) :
    LedgerInvariant scope startQuota after reserved := by
  obtain ⟨ownsRows, balanced⟩ := invariant
  obtain ⟨live, unsettled⟩ := unsettled_of_noRow balanced noRow
  obtain ⟨positive, owns, outcome⟩ := reserveTrustedWalletPreConsume_spec done
  refine ⟨owns ownsRows, ?_⟩
  rcases outcome with ⟨absent, view⟩ | ⟨record, found, trusted, view⟩
  · rw [absent] at unsettled
    refine balanced_record balanced live view rfl ⟨unsettled, positive, rfl⟩ (Or.inl noRow) ?_
    rw [absent]
    rfl
  · rw [found] at unsettled
    refine
      balanced_record balanced live view (balanced.owner record found) unsettled (Or.inl noRow) ?_
    rw [found]
    rfl

private theorem increase_invariant {delta : Int}
    (invariant : LedgerInvariant scope startQuota db reserved) (noRow : (scope.view db).row = none)
    (done : increaseWalletPreConsume db now scope.requestID scope.userID delta = .ok after) :
    LedgerInvariant scope startQuota after (reserved + delta) := by
  obtain ⟨ownsRows, balanced⟩ := invariant
  obtain ⟨live, unsettled⟩ := unsettled_of_noRow balanced noRow
  obtain ⟨positive, owns, record, found, owner, isOpen, view⟩ := increaseWalletPreConsume_spec done
  refine ⟨owns ownsRows, ?_⟩
  rw [found] at unsettled
  have remembers : record.Remembers reserved := unsettled
  refine balanced_record balanced live view owner ?_ (Or.inl noRow) ?_
  · cases status : record.status with
    | reserved =>
      simp only [Remembers, status] at remembers
      refine ⟨?_, ?_, remembers.2.2⟩
      · simp
        omega
      · simp
        omega
    | trusted =>
      simp only [Remembers, status] at remembers
      refine ⟨?_, ?_, remembers.2.2⟩
      · simp
        omega
      · simpa using positive
    | settled | refunded => simp [status, WalletPreConsumeStatus.isOpen] at isOpen
  · rw [found]
    cases status : record.status with
    | reserved =>
      simp [heldBy, held, status]
      omega
    | trusted =>
      simp only [heldBy, held, status, if_true]
      omega
    | settled | refunded => simp [status, WalletPreConsumeStatus.isOpen] at isOpen

private theorem markDelivered_invariant (invariant : LedgerInvariant scope startQuota db reserved) :
    LedgerInvariant scope startQuota (markWalletPreConsumeClientDelivered db now scope.requestID)
      reserved := by
  obtain ⟨ownsRows, balanced⟩ := invariant
  obtain ⟨owns, view⟩ := @markWalletPreConsumeClientDelivered_spec scope db now
  refine ⟨owns ownsRows, ?_⟩
  cases found : (scope.view db).record with
  | none =>
    rw [found, Option.map_none, ← found] at view
    rw [view]
    exact balanced
  | some record =>
    rw [found, Option.map_some] at view
    by_cases isOpen : record.status.isOpen = true
    · rw [if_pos isOpen] at view
      have live := live_of_isOpen balanced.consistent found isOpen
      have consistent := (consistent_iff_of_live live).mp balanced.consistent
      rw [found] at consistent
      refine balanced_record balanced live view (balanced.owner record found)
          consistent.1 (Or.inr rfl) ?_
      rw [found]
      rfl
    · rw [if_neg isOpen, ← found] at view
      rw [view]
      exact balanced

private theorem refund_invariant {requireExpired : Bool} {outcome : WalletRefundOutcome}
    (invariant : LedgerInvariant scope startQuota db reserved)
    (done : refundWalletPreConsume db now scope.requestID requireExpired = .ok (outcome, after)) :
    LedgerInvariant scope startQuota after reserved := by
  obtain ⟨ownsRows, balanced⟩ := invariant
  obtain ⟨refund, owns⟩ := refundWalletPreConsume_cases balanced.owner done
  exact ⟨owns ownsRows, balanced_refund balanced refund⟩

variable {req : BillingAdjustmentRequest}

private theorem ensurePending_invariant (invariant : LedgerInvariant scope startQuota db reserved)
    (sends : scope.Sends req) (payload : req.reservationQuota = reserved)
    (done : ensurePendingBillingAdjustment db now req = .ok after) :
    LedgerInvariant scope startQuota after reserved := by
  obtain ⟨ownsRows, balanced⟩ := invariant
  obtain ⟨valid, ⟨row, settles, same, live, view⟩, owns⟩ :=
    ensurePendingBillingAdjustment_spec sends done
  refine ⟨owns ownsRows, ?_⟩
  rcases settles with found | ⟨absent, rfl⟩
  · rw [view, ← found]
    exact balanced
  · obtain ⟨fresh, unsettled⟩ := unsettled_of_noRow balanced absent
    rw [view]
    constructor
    · intro stored found
      cases found
      exact sends.carries_pendingRow now 0
    · exact balanced.owner
    · exact ⟨unsettled, payload, valid.balanced⟩
    · have before := balanced.balance
      rw [taken_of_live fresh] at before
      exact before

/-- So does an apply for the reserve that is held. -/
theorem apply_invariant {outcome : ApplyOutcome}
    (invariant : LedgerInvariant scope startQuota db reserved)
    (nonempty : scope.requestID ≠ "") (sends : scope.Sends req)
    (payload : req.reservationQuota = reserved)
    (done : applyBillingAdjustment db now req = .ok (outcome, after)) :
    LedgerInvariant scope startQuota after reserved := by
  obtain ⟨ownsRows, balanced⟩ := invariant
  obtain ⟨valid, applied, owns⟩ := applyBillingAdjustment_cases sends nonempty balanced.carries done
  refine ⟨owns ownsRows, ?_⟩
  generalize scope.view after = view at applied
  cases applied with
  | replayed found same applied => exact balanced
  | settled settles same pending =>
    apply balanced_settle balanced (settles.carries sends balanced.carries)
    exact (settle_exact_iff balanced settles pending valid).mpr (fun _ => Or.inl payload)

private theorem rollback_invariant {actualQuota : Int} {writes : List CacheWrite}
    (invariant : LedgerInvariant scope startQuota db reserved)
    (done : rollbackBillingAdjustment db now scope.key actualQuota = .ok (writes, after)) :
    LedgerInvariant scope startQuota after reserved := by
  obtain ⟨ownsRows, balanced⟩ := invariant
  obtain ⟨rolledBack, owns⟩ := rollbackBillingAdjustment_cases balanced.carries done
  refine ⟨owns ownsRows, ?_⟩
  generalize scope.view after = view at rolledBack
  cases rolledBack with
  | kept found rolledBack => exact balanced
  | returned found pending =>
    have live := live_of_row (Or.inl found) pending
    have consistent := (consistent_iff_of_live live).mp balanced.consistent
    apply balanced_returnReservation balanced (balanced.carries _ found)
    rw [taken_of_live live]
    exact reservationCredit_unsettled consistent.1 (fun _ => (consistent.2 _ found).1)
  | reversed found applied accepted => exact balanced_returnCharge balanced found applied

private theorem refundReservation_invariant
    {req : BillingReservationRefund} {writes : List CacheWrite}
    (invariant : LedgerInvariant scope startQuota db reserved) (returns : scope.Returns req)
    (payload : (scope.view db).record = none → req.reservationQuota = reserved)
    (done : refundBillingReservation db now req = .ok (writes, after)) :
    LedgerInvariant scope startQuota after reserved := by
  obtain ⟨ownsRows, balanced⟩ := invariant
  obtain ⟨_, refunded, owns⟩ := refundBillingReservation_cases returns balanced.carries done
  refine ⟨owns ownsRows, ?_⟩
  generalize scope.view after = view at refunded
  cases refunded with
  | kept found rolledBack => exact balanced
  | @returned row located pending =>
    have live := live_of_row (located.imp_right And.left) pending
    have consistent := (consistent_iff_of_live live).mp balanced.consistent
    rcases located with found | ⟨absent, rfl⟩
    · apply balanced_returnReservation balanced (balanced.carries _ found)
      rw [taken_of_live live]
      exact reservationCredit_unsettled consistent.1 (fun _ => (consistent.2 _ found).1)
    · apply balanced_returnReservation balanced (returns.carries_pendingRow now _)
      rw [taken_of_live live]
      exact reservationCredit_unsettled consistent.1 payload

/-- A charge after a rollback is exact precisely when `CollectsHeld` holds. -/
private theorem recharge_exact_iff {row : BillingAdjustment}
    (balanced : (scope.view db).Balanced scope startQuota reserved)
    (found : (scope.view db).row = some row)
    (rolledBack : row.status = .rolledBack) (valid : req.Valid) :
    settleCharge (scope.view db).record (row.recharged req) (row.recharged req).fundingDelta =
        (row.recharged req).chargeQuota - (scope.view db).taken ↔
      CollectsHeld scope ⟨db, reserved⟩ req := by
  have taken : (scope.view db).taken = 0 := by simp [taken, found, rolledBack]
  have closed : Closed (scope.view db).record := by
    have consistent := balanced.consistent
    simpa only [Consistent, found, rolledBack] using consistent
  have stillRolledBack : (row.recharged req).status = .rolledBack := rolledBack
  have exact := settleCharge_rolledBack_exact_iff closed stillRolledBack valid.balanced
  rw [taken, Int.sub_zero, exact]
  simp only [CollectsHeld, found, rolledBack, true_implies]
  rfl

/-- The charge for a delivered response leaves an applied row with the charge
it reports, and the wallet has paid exactly that charge precisely when
`CollectsHeld` did hold. -/
theorem collectDelivered_exact_iff {outcome : CollectOutcome}
    (invariant : LedgerInvariant scope startQuota db reserved)
    (nonempty : scope.requestID ≠ "") (sends : scope.Sends req)
    (done : collectDeliveredBillingCharge db now req = .ok (outcome, after)) :
    (∃ row,
      (scope.view after).row = some row ∧
        row.status = .applied ∧ row.chargeQuota = outcome.charged) ∧
      (startQuota - (scope.view after).quota = outcome.charged ↔
        CollectsHeld scope ⟨db, reserved⟩ req) := by
  obtain ⟨ownsRows, balanced⟩ := invariant
  have before := balanced.balance
  obtain ⟨valid, collected, _⟩ :=
    collectDeliveredBillingCharge_cases sends nonempty balanced.carries done
  generalize scope.view after = view at collected
  cases collected with
  | @kept row found applied =>
    refine ⟨⟨row, found, applied, rfl⟩, ?_⟩
    have taken : (scope.view db).taken = row.chargeQuota := by
      simp [taken, found, applied]
    have held : CollectsHeld scope ⟨db, reserved⟩ req := by simp [CollectsHeld, found, applied]
    simp only [held, iff_true]
    omega
  | @settled row settles same pending =>
    refine ⟨⟨row.settled now, rfl, rfl, rfl⟩, ?_⟩
    have paid :
        startQuota -
              ((scope.view db).quota + -settleCharge (scope.view db).record row row.fundingDelta) =
            row.chargeQuota ↔
          settleCharge (scope.view db).record row row.fundingDelta =
            row.chargeQuota - (scope.view db).taken := by
      omega
    refine paid.trans ((settle_exact_iff balanced settles pending valid).trans ?_)
    rcases settles with found | ⟨absent, rfl⟩
    · simp [CollectsHeld, found, pending]
    · simp [CollectsHeld, absent]
  | @recharged row found rolledBack =>
    refine ⟨⟨(row.recharged req).settled now, rfl, rfl, rfl⟩, ?_⟩
    have paid :
        startQuota -
              ((scope.view db).quota +
                -settleCharge (scope.view db).record (row.recharged req)
                  (row.recharged req).fundingDelta) =
            (row.recharged req).chargeQuota ↔
          settleCharge (scope.view db).record (row.recharged req) (row.recharged req).fundingDelta =
            (row.recharged req).chargeQuota - (scope.view db).taken := by
      omega
    exact paid.trans (recharge_exact_iff balanced found rolledBack valid)

private theorem collectDelivered_invariant {outcome : CollectOutcome}
    (invariant : LedgerInvariant scope startQuota db reserved)
    (nonempty : scope.requestID ≠ "") (sends : scope.Sends req)
    (held : CollectsHeld scope ⟨db, reserved⟩ req)
    (done : collectDeliveredBillingCharge db now req = .ok (outcome, after)) :
    LedgerInvariant scope startQuota after reserved := by
  obtain ⟨ownsRows, balanced⟩ := invariant
  obtain ⟨valid, collected, owns⟩ :=
    collectDeliveredBillingCharge_cases sends nonempty balanced.carries done
  refine ⟨owns ownsRows, ?_⟩
  generalize scope.view after = view at collected
  cases collected with
  | kept found applied => exact balanced
  | @settled row settles same pending =>
    apply balanced_settle balanced (settles.carries sends balanced.carries)
    refine (settle_exact_iff balanced settles pending valid).mpr ?_
    intro absent
    simpa only [CollectsHeld, absent] using held
  | @recharged row found rolledBack =>
    apply balanced_settle balanced (sends.carries_recharged (balanced.carries row found))
    exact (recharge_exact_iff balanced found rolledBack valid).mpr held

end Transactions

/-! ## Whole runs -/

private theorem after_invariant {startQuota : Int} {α : Type}
    {state : LedgerState} {transaction : Except BillingError (α × Database)}
    (before : LedgerInvariant scope startQuota state.db state.reserved)
    (kept : ∀ outcome next, transaction = .ok (outcome, next) →
        LedgerInvariant scope startQuota next state.reserved) :
    LedgerInvariant scope startQuota (state.after transaction).db
      (state.after transaction).reserved := by
  cases done : transaction with
  | ok result => exact kept result.1 result.2 done
  | error err => exact before

/-- One step of the protocol keeps the ledger. -/
theorem WalletStep.run_invariant {startQuota : Int}
    (nonempty : scope.requestID ≠ "") (state : LedgerState) (step : WalletStep)
    (allowed : step.Allowed scope (CollectsHeld scope) state)
    (invariant : LedgerInvariant scope startQuota state.db state.reserved) :
    LedgerInvariant scope startQuota (step.run scope state).db (step.run scope state).reserved := by
  cases step with
  | reserve now amount =>
    simp only [run]
    split
    · rename_i done
      exact reserve_invariant invariant allowed done
    · exact invariant
  | reserveTrusted now amount =>
    refine
      @commit_invariant _ _ (LedgerInvariant scope startQuota · state.reserved) _ _ invariant ?_
    intro next done
    exact reserveTrusted_invariant invariant allowed done
  | increase now delta =>
    simp only [run]
    split
    · rename_i done
      exact increase_invariant invariant allowed done
    · exact invariant
  | markDelivered now => exact markDelivered_invariant invariant
  | refund now => exact after_invariant invariant (fun _ _ done => refund_invariant invariant done)
  | recoverExpired now =>
    exact after_invariant invariant (fun _ _ done => refund_invariant invariant done)
  | ensurePending now req =>
    refine
      @commit_invariant _ _ (LedgerInvariant scope startQuota · state.reserved) _ _ invariant ?_
    intro next done
    exact ensurePending_invariant invariant allowed.1 allowed.2 done
  | apply now req =>
    exact after_invariant invariant
        (fun _ _ done => apply_invariant invariant nonempty allowed.1 allowed.2 done)
  | rollback now actualQuota =>
    exact after_invariant invariant (fun _ _ done => rollback_invariant invariant done)
  | refundReservation now req =>
    exact after_invariant invariant
        (fun _ _ done => refundReservation_invariant invariant allowed.1 allowed.2 done)
  | collectDelivered now req =>
    exact after_invariant invariant
        (fun _ _ done => collectDelivered_invariant invariant nonempty allowed.1 allowed.2 done)

theorem RequestScope.Fresh.invariant {db : Database} (fresh : scope.Fresh db) :
    LedgerInvariant scope (scope.view db).quota db 0 := by
  refine ⟨fresh.ownsRows, ?_, ?_, ?_, ?_⟩
  · intro row found
    rw [fresh.noRow] at found
    cases found
  · intro record found
    rw [fresh.noRecord] at found
    cases found
  · simp [Consistent, fresh.noRow, fresh.noRecord, Unsettled]
  · simp [taken, fresh.noRow, fresh.noRecord, heldBy]

theorem walletRun_invariant {start : Database} {steps : List WalletStep}
    (fresh : scope.Fresh start) (run : WalletRun scope (CollectsHeld scope) start steps) :
    LedgerInvariant scope (scope.view start).quota (walletFinal scope start steps).db
      (walletFinal scope start steps).reserved :=
  @GuardedRun.invariant _ _ _ _
    (fun state => LedgerInvariant scope (scope.view start).quota state.db state.reserved)
    (WalletStep.run_invariant fresh.nonempty) _ _ run fresh.invariant

/-- A wallet request that keeps to the protocol has taken exactly its charge
when its row is applied and nothing when its row is rolled back; before that it
has taken what its reserve row holds. -/
theorem walletLedger_exact (scope : RequestScope) (start : Database) (steps : List WalletStep)
    (fresh : scope.Fresh start) (run : WalletRun scope (fun _ _ => False) start steps) :
    let final := (walletFinal scope start steps).db
    (∀ row, (scope.view final).row = some row →
        (row.status = .applied → scope.net start final = row.chargeQuota) ∧
          (row.status = .rolledBack → scope.net start final = 0) ∧
          (row.status = .pending → scope.net start final = heldBy (scope.view final).record)) ∧
      ((scope.view final).row = none →
        scope.net start final = heldBy (scope.view final).record) := by
  intro final
  have invariant :=
    walletRun_invariant fresh
      (run.mono (fun _ step => step.allowed_mono (fun _ never => never.elim)))
  have balance : scope.net start final = (scope.view final).taken := by
    have before : (scope.view final).quota + (scope.view final).taken = (scope.view start).quota :=
      invariant.balanced.balance
    unfold RequestScope.net
    omega
  rw [balance]
  constructor
  · intro row found
    refine ⟨?_, ?_, ?_⟩
    · intro applied
      simp [RequestView.taken, found, applied]
    · intro rolledBack
      simp [RequestView.taken, found, rolledBack]
    · intro pending
      simp [RequestView.taken, found, pending]
  · intro absent
    simp [RequestView.taken, absent]

def sampleCharge (reservationQuota chargeQuota : Int) :
    BillingAdjustmentRequest where
  idempotencyKey := "billing:req-1"
  requestID := "req-1"
  userID := 1
  tokenID := 1
  source := .wallet
  subscriptionID := 0
  fundingDelta := chargeQuota - reservationQuota
  tokenDelta := chargeQuota - reservationQuota
  chargeQuota := chargeQuota
  reservationQuota := reservationQuota
  extraReserved := 0
  tokenIncluded := true

theorem sampleCharge_sends (reservationQuota chargeQuota : Int) :
    sample.Sends (sampleCharge reservationQuota chargeQuota) :=
  ⟨rfl, rfl, rfl, rfl, rfl⟩

theorem sample_fresh : sample.Fresh sample where
  nonempty := by decide
  noRecord := rfl
  noRow := rfl
  ownsRows := by
    intro key row found
    cases found

/-- A trusted estimate of 10 that is collected after the response was sent,
and settled with a charge of 7. -/
def collectedThenSettled : List WalletStep :=
  [.reserveTrusted 0 10, .markDelivered 1, .recoverExpired 200, .apply 201 (sampleCharge 0 7)]

theorem walletLedger_exact_collectedThenSettled :
    let final := (walletFinal .sample Database.sample collectedThenSettled).db
    ((RequestScope.sample.view final).row.map BillingAdjustment.status = some .applied) ∧
      RequestScope.sample.net Database.sample final = 7 := by
  intro final
  have run : WalletRun .sample (fun _ _ => False) Database.sample collectedThenSettled :=
    ⟨rfl, trivial, trivial, ⟨sampleCharge_sends 0 7, rfl⟩, trivial⟩
  have exact := walletLedger_exact .sample Database.sample collectedThenSettled sample_fresh run
  refine ⟨by decide, ?_⟩
  have located : (RequestScope.sample.view final).row =
        some (((sampleCharge 0 7).pendingRow 201 0).settled 201) := by
    decide
  exact (exact.1 _ located).1 rfl

/-- The delivered-charge property: the row is applied with the reported charge
and the wallet has paid exactly that. -/
def CollectedExactly (scope : RequestScope) (start after : Database) (charged : Int) : Prop :=
  (∃ row,
    (scope.view after).row = some row ∧ row.status = .applied ∧ row.chargeQuota = charged) ∧
    scope.net start after = charged

/-- In every run whose delivered charges meet `CollectsHeld`, the next charge
for a delivered response is exact precisely when it meets `CollectsHeld` too. -/
theorem collectDelivered_exact_in_runs
    (scope : RequestScope) (start : Database) (steps : List WalletStep)
    (now : Int) (req : BillingAdjustmentRequest)
    (outcome : CollectOutcome) (after : Database) (fresh : scope.Fresh start)
    (run : WalletRun scope (CollectsHeld scope) start steps) (sends : scope.Sends req)
    (done : collectDeliveredBillingCharge (walletFinal scope start steps).db now req =
        .ok (outcome, after)) :
    CollectedExactly scope start after outcome.charged ↔
      CollectsHeld scope (walletFinal scope start steps) req := by
  obtain ⟨row, paid⟩ :=
    collectDelivered_exact_iff (walletRun_invariant fresh run) fresh.nonempty sends done
  constructor
  · intro exact
    exact paid.mp exact.2
  · intro held
    exact ⟨row, paid.mpr held⟩

/-- The charge and the net amount a delivered charge of the sample request
ends with. -/
private def collectedNet (steps : List WalletStep) (req : BillingAdjustmentRequest) :
    Option (Int × Int) :=
  (collectDeliveredBillingCharge
      (walletFinal .sample Database.sample steps).db 203 req).toOption.map
    (fun result => (result.1.charged, RequestScope.sample.net Database.sample result.2))

private theorem exists_of_collectedNet
    {steps : List WalletStep} {req : BillingAdjustmentRequest} {charged net : Int}
    (evaluated : collectedNet steps req = some (charged, net)) :
    ∃ outcome after,
      collectDeliveredBillingCharge (walletFinal .sample sample steps).db 203 req =
          .ok (outcome, after) ∧
        outcome.charged = charged ∧
        sample.net sample after = net := by
  unfold collectedNet at evaluated
  cases done :
      collectDeliveredBillingCharge (walletFinal .sample sample steps).db 203 req with
  | error err =>
    rw [done] at evaluated
    cases evaluated
  | ok result =>
    rw [done] at evaluated
    cases evaluated
    exact ⟨result.1, result.2, rfl, rfl, rfl⟩

/-- A reserve of 10 that is settled with 7, rolled back, and charged again
without a reservation. -/
theorem collectDelivered_exact_after_rollback :
    ∃ outcome after,
      collectDeliveredBillingCharge
            (walletFinal .sample Database.sample
              [.reserve 0 10, .apply 1 (sampleCharge 10 7),
                .rollback 2 0]).db 203 (sampleCharge 0 7) =
          .ok (outcome, after) ∧
        CollectedExactly .sample Database.sample after outcome.charged := by
  obtain ⟨outcome, after, done, _, _⟩ :=
    @exists_of_collectedNet [.reserve 0 10, .apply 1 (sampleCharge 10 7), .rollback 2 0]
      (sampleCharge 0 7) 7 7 (by decide)
  refine ⟨outcome, after, done, ?_⟩
  refine (collectDelivered_exact_in_runs .sample Database.sample
      [.reserve 0 10, .apply 1 (sampleCharge 10 7), .rollback 2 0] 203
      (sampleCharge 0 7) outcome after sample_fresh
      ⟨rfl, ⟨sampleCharge_sends 10 7, rfl⟩, trivial, trivial⟩
      (sampleCharge_sends 0 7) done).mpr ?_
  intro _
  refine ⟨rfl, ?_⟩
  intro record found _
  cases found
  decide

/-- After the estimate of a trusted request was collected, settled and rolled
back, a protocol-abiding charge of 7 for the delivered response gives 3 away. -/
theorem collectDelivered_after_collected_rollback :
    ¬ ∀ (steps : List WalletStep) (now : Int) (req : BillingAdjustmentRequest)
        (outcome : CollectOutcome) (after : Database),
        WalletRun .sample (fun _ _ => False) Database.sample steps → RequestScope.sample.Sends req →
          req.reservationQuota = (walletFinal .sample Database.sample steps).reserved →
          collectDeliveredBillingCharge (walletFinal .sample Database.sample steps).db now req =
            .ok (outcome, after) →
          CollectedExactly .sample Database.sample after outcome.charged := by
  intro claim
  obtain ⟨outcome, after, done, charged, net⟩ :=
    @exists_of_collectedNet (collectedThenSettled ++ [.rollback 202 0])
      (sampleCharge 0 7) 7 (-3) (by decide)
  have run :
      WalletRun .sample (fun _ _ => False) Database.sample
        (collectedThenSettled ++ [.rollback 202 0]) :=
    ⟨rfl, trivial, trivial, ⟨sampleCharge_sends 0 7, rfl⟩, trivial, trivial⟩
  have exact := claim _ 203 (sampleCharge 0 7) outcome after run (sampleCharge_sends 0 7) rfl done
  have paid := exact.2
  omega

end NewApi.Billing
