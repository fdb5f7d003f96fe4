import NewApi.Billing.SettlementRetries
import NewApi.Billing.WalletSettlement

/-!
# The single calls of a settlement

What `EnsurePendingBillingAdjustment`, `GetBillingAdjustment`,
`ApplyBillingAdjustment` and the spool do to the ledger row of a request when
every one of them may fail, and the rule for the retry loops around them:
whatever their transactions keep holds at the end of a settle call.
-/

namespace NewApi.Billing

open Transactions Node BillingAdjustmentRequest KeyedTable

/-! ## The ledger under a settlement -/

section Ledger

variable {db after : Database} {now : Int}

theorem applySubscriptionLedgerChargeTx_ledger
    {id rawDelta charge consumedAt : Int} {requestID : String}
    (done :
      applySubscriptionLedgerChargeTx db id rawDelta charge consumedAt requestID = .ok after) :
    after.billingAdjustments = db.billingAdjustments := by
  unfold applySubscriptionLedgerChargeTx at done
  split at done
  · cases done
  split at done
  · cases done
  obtain ⟨posted, _, done⟩ := bind_ok_iff.mp done
  obtain ⟨sub, _, done⟩ := bind_ok_iff.mp done
  dsimp only at done
  generalize
    (if subscriptionUsageClearedByReset sub.lastResetTime consumedAt = true
      then charge - posted else rawDelta) = effective at done
  split at done
  · cases done
    rfl
  · rw [applyUserSubscriptionDeltaTx_cases done]
    rfl

theorem applyWalletFundingDelta_ledger {row : BillingAdjustment} {delta : Int} {invalidate : Bool}
    (done : applyWalletFundingDelta db now row delta = .ok (invalidate, after)) :
    after.billingAdjustments = db.billingAdjustments := by
  have closed :
      (accountWalletPreConsumeTx db now row).2.billingAdjustments = db.billingAdjustments := by
    unfold accountWalletPreConsumeTx
    split
    · rfl
    split
    · rfl
    split
    · rfl
    · rfl
    · rfl
    · split
      · rfl
      · rfl
  unfold applyWalletFundingDelta at done
  rcases outcome : accountWalletPreConsumeTx db now row with ⟨⟨fullCharge, collected⟩, mid⟩
  obtain ⟨paid, charged, done⟩ := bind_ok_iff.mp done
  cases done
  obtain ⟨users, rfl, _⟩ := chargeWallet_spec charged
  exact closed

theorem applyBillingAdjustmentDeltas_ledger {row : BillingAdjustment} {invalidate : Bool}
    (done : applyBillingAdjustmentDeltas db now row = .ok (invalidate, after)) :
    after.billingAdjustments = db.billingAdjustments := by
  obtain ⟨⟨flag, paid⟩, funded, done⟩ := bind_ok_iff.mp done
  obtain ⟨charged, token, done⟩ := bind_ok_iff.mp done
  cases done
  obtain ⟨tokens, rfl, _⟩ := applyTokenDelta_spec token
  have paidLedger : paid.billingAdjustments = db.billingAdjustments := by
    unfold applyFundingDelta at funded
    split at funded
    · exact applyWalletFundingDelta_ledger funded
    · obtain ⟨used, usage, funded⟩ := bind_ok_iff.mp funded
      cases funded
      exact applySubscriptionLedgerChargeTx_ledger usage
  exact paidLedger

end Ledger

namespace BillingAdjustmentRequest

variable {req : BillingAdjustmentRequest} {db after : Database} {now : Int}

def rowIn (req : BillingAdjustmentRequest) (db : Database) :
    Option BillingAdjustment :=
  db.billingAdjustments.lookup req.idempotencyKey

def Staged (req : BillingAdjustmentRequest) (db : Database) : Prop :=
  ∃ row, req.rowIn db = some row ∧ row.status = .pending ∧ req.same row = true

def Charged (req : BillingAdjustmentRequest) (db : Database) : Prop :=
  ∃ row, req.rowIn db = some row ∧ row.status = .applied ∧ row.chargeQuota = req.chargeQuota

/-- A stored row that cannot be mistaken for the charge of the request. -/
def Harmless (req : BillingAdjustmentRequest) :
    Option BillingAdjustment → Prop
  | none => True
  | some row =>
    match row.status with
    | .rolledBack => True
    | .pending => req.same row = true
    | .applied => req.same row = false ∧ row.chargeQuota = req.chargeQuota

theorem Staged.harmless (staged : req.Staged db) : req.Harmless (req.rowIn db) := by
  obtain ⟨row, found, pending, same⟩ := staged
  rw [found]
  simpa only [Harmless, pending] using same

theorem lockOrCreate_row {row : BillingAdjustment}
    (done : lockOrCreateBillingAdjustment db now req = .ok (row, after)) :
    req.rowIn after = some row ∧
      (req.rowIn db = some row ∨
        req.rowIn db = none ∧ row.status = .pending ∧ req.same row = true) := by
  unfold lockOrCreateBillingAdjustment at done
  split at done
  · rename_i stored found
    cases done
    exact ⟨found, Or.inl found⟩
  · rename_i absent
    obtain ⟨mid, created, done⟩ := bind_ok_iff.mp done
    cases done
    unfold Database.createBillingAdjustment at created
    split at created
    · cases created
    rename_i rows inserted
    cases created
    refine ⟨?_, Or.inr ⟨absent, rfl, same_pendingRow now _⟩⟩
    have visible := (lookup_create inserted).2 req.idempotencyKey
    exact visible.trans (if_pos rfl)

theorem exists_lockOrCreate :
    ∃ row mid, lockOrCreateBillingAdjustment db now req = .ok (row, mid) := by
  unfold lockOrCreateBillingAdjustment
  split
  · rename_i row found
    exact ⟨row, db, rfl⟩
  · rename_i absent
    dsimp only
    generalize row_eq : req.pendingRow now _ = row
    have free : db.billingAdjustments.lookup row.idempotencyKey = none := by
      rw [← row_eq]
      exact absent
    obtain ⟨rows, created⟩ := exists_create free
    refine ⟨row, { db with billingAdjustments := rows }, ?_⟩
    rw [Database.createBillingAdjustment, created]
    rfl

theorem ensurePending_row (done : ensurePendingBillingAdjustment db now req = .ok after) :
    ∃ row, req.rowIn after = some row ∧ req.same row = true ∧
      (req.rowIn db = some row ∧ row.status ≠ .rolledBack ∨ row.status = .pending) := by
  obtain ⟨_, _, done⟩ := bind_ok_iff.mp done
  obtain ⟨⟨row, mid⟩, locked, done⟩ := bind_ok_iff.mp done
  obtain ⟨visible, origin⟩ := lockOrCreate_row locked
  obtain ⟨same, done⟩ := checked_same done
  split at done
  · rename_i pending
    cases done
    exact ⟨row, visible, same, Or.inr pending⟩
  · rename_i applied
    cases done
    rcases origin with found | ⟨_, pending, _⟩
    · exact ⟨row, visible, same, Or.inl ⟨found, by rw [applied]; decide⟩⟩
    · exact ⟨row, visible, same, Or.inr pending⟩
  · cases done

theorem Harmless.staged (harmless : req.Harmless (req.rowIn db))
    (done : ensurePendingBillingAdjustment db now req = .ok after) :
    req.Staged after := by
  obtain ⟨row, visible, same, ⟨found, active⟩ | pending⟩ := ensurePending_row done
  · rw [found] at harmless
    cases status : row.status with
    | pending => exact ⟨row, visible, status, same⟩
    | applied =>
      simp only [Harmless, status, same] at harmless
      cases harmless.1
    | rolledBack => exact absurd status active
  · exact ⟨row, visible, pending, same⟩

theorem ensurePending_refused {err : BillingError} (valid : req.validate = .ok ())
    (failed : ensurePendingBillingAdjustment db now req = .error err) :
    err.isConflictOrClosed = true := by
  unfold ensurePendingBillingAdjustment at failed
  obtain ⟨row, mid, locked⟩ := @exists_lockOrCreate req db now
  rw [valid, locked] at failed
  simp only [bind, Except.bind] at failed
  split at failed
  · cases failed
    rfl
  · split at failed
    · cases failed
    · cases failed
    · cases failed
      rfl

theorem settled_of_apply {outcome : ApplyOutcome}
    (done : applyBillingAdjustment db now req = .ok (outcome, after)) :
    ∃ row, req.rowIn after = some row ∧ row.status = .applied ∧ req.same row = true := by
  obtain ⟨_, _, done⟩ := bind_ok_iff.mp done
  obtain ⟨⟨row, mid⟩, locked, done⟩ := bind_ok_iff.mp done
  obtain ⟨visible, _⟩ := lockOrCreate_row locked
  obtain ⟨same, done⟩ := checked_same done
  split at done
  · rename_i applied
    cases done
    exact ⟨row, visible, applied, same⟩
  · cases done
  · obtain ⟨⟨flag, paid⟩, deltas, done⟩ := bind_ok_iff.mp done
    cases done
    have rowKey : row.idempotencyKey = req.idempotencyKey := key_of_lookup visible
    have present : paid.billingAdjustments.lookup (row.settled now).idempotencyKey = some row := by
      rw [applyBillingAdjustmentDeltas_ledger deltas]
      exact rowKey ▸ visible
    refine ⟨row.settled now, ?_, rfl, same⟩
    rw [rowIn, ← rowKey]
    exact lookup_save_self present

theorem charged_of_apply {outcome : ApplyOutcome}
    (done : applyBillingAdjustment db now req = .ok (outcome, after)) :
    req.Charged after := by
  obtain ⟨row, visible, applied, same⟩ := settled_of_apply done
  exact ⟨row, visible, applied, (same_iff.mp same).2.2.2.2.2.2.1⟩

/-- A row of the same payload, pending or applied, is left as it is. -/
theorem ensurePending_of_same {row : BillingAdjustment} (valid : req.validate = .ok ())
    (found : req.rowIn db = some row) (same : req.same row = true)
    (active : row.status ≠ .rolledBack) :
    ensurePendingBillingAdjustment db now req = .ok db := by
  have located : db.billingAdjustments.lookup req.idempotencyKey = some row := found
  unfold ensurePendingBillingAdjustment lockOrCreateBillingAdjustment
  cases status : row.status with
  | rolledBack => exact absurd status active
  | pending | applied => simp [valid, located, same, status, Bind.bind, Except.bind]

/-- No charge of the request can be applied, also not on the row that
`EnsurePendingBillingAdjustment` would leave. -/
def Unappliable (now : Int) (req : BillingAdjustmentRequest) (db : Database) : Prop :=
  ∀ stored, ensurePendingBillingAdjustment db now req = .ok stored →
    ∀ outcome paid, applyBillingAdjustment stored now req ≠ .ok (outcome, paid)

end BillingAdjustmentRequest

namespace Node

variable {node after : Node} {now : Int} {req : BillingAdjustmentRequest}

/-- No spool entry was removed, and no fault was added. -/
structure KeepsDrops (node after : Node) : Prop where
  drops : after.drops = node.drops
  applyFaults : after.applyFaults ⊆ node.applyFaults

theorem KeepsDrops.refl (node : Node) : KeepsDrops node node := ⟨rfl, List.Subset.refl _⟩

theorem KeepsDrops.trans {mid : Node} (second : KeepsDrops mid after)
    (first : KeepsDrops node mid) : KeepsDrops node after :=
  ⟨second.drops.trans first.drops, List.Subset.trans second.applyFaults first.applyFaults⟩

structure SameStore (node after : Node) : Prop where
  db : after.db = node.db
  drops : KeepsDrops node after

theorem SameStore.refl (node : Node) : SameStore node node := ⟨rfl, .refl node⟩

theorem nextFault_sameStore {fault : Fault} (called : node.nextFault = (fault, after)) :
    SameStore node after := by
  unfold nextFault at called
  split at called
  · cases called
    exact SameStore.refl node
  · cases called
    exact ⟨rfl, rfl, List.Subset.refl _⟩

theorem nextApplyFault_spec {fault : Fault} (called : node.nextApplyFault = (fault, after)) :
    SameStore node after ∧ (fault = .none ∨ fault ∈ node.applyFaults) := by
  unfold nextApplyFault at called
  split at called
  · cases called
    exact ⟨SameStore.refl node, Or.inl rfl⟩
  · rename_i fault rest faults
    cases called
    refine ⟨⟨rfl, rfl, ?_⟩, Or.inr ?_⟩
    · rw [faults]
      exact List.subset_cons_self _ _
    · rw [faults]
      exact List.mem_cons_self

theorem nextFailure_spec {failure : Option BillingError}
    (called : node.nextFailure = (failure, after)) :
    SameStore node after ∧ ∀ err, failure = some err → billingAdjustmentRetryable err = true := by
  unfold nextFailure at called
  split at called
  · rename_i next
    cases called
    exact ⟨nextFault_sameStore next, fun err failed => by cases failed⟩
  · rename_i fault mid next
    cases called
    refine ⟨nextFault_sameStore next, fun err failed => ?_⟩
    cases failed
    exact fault.retryable
  · rename_i fault mid next
    cases called
    refine ⟨nextFault_sameStore next, fun err failed => ?_⟩
    cases failed
    exact fault.retryable

variable {result : Except BillingError Unit}

theorem remember_spec (called : node.rememberUnpersistedBillingAdjustment req = (result, after)) :
    after.db = node.db ∧ KeepsDrops node after ∧
      (result = .ok () → after.spool req.idempotencyKey = some req) := by
  unfold rememberUnpersistedBillingAdjustment at called
  split at called
  · cases called
    exact ⟨rfl, .refl node, fun done => by cases done⟩
  · split at called
    · rename_i failure next failed
      cases called
      have same := nextFault_sameStore failed
      exact ⟨same.db, same.drops, fun done => by cases done⟩
    · rename_i fault next _ ran
      have same := nextFault_sameStore ran
      split at called
      · cases called
        exact ⟨same.db, ⟨same.drops.drops, same.drops.applyFaults⟩, fun done => by cases done⟩
      · cases called
        exact ⟨same.db, ⟨same.drops.drops, same.drops.applyFaults⟩,
          fun _ => Function.update_self ..⟩

theorem get_spec {stored : Except BillingError (Option BillingAdjustment)}
    (nonempty : req.idempotencyKey ≠ "") (called : node.get req.idempotencyKey = (stored, after)) :
    SameStore node after ∧
      (stored = .ok (req.rowIn node.db) ∨
        ∃ err, stored = .error err ∧ billingAdjustmentRetryable err = true) := by
  unfold get at called
  split at called
  · rename_i err next failed
    cases called
    obtain ⟨same, retryable⟩ := nextFailure_spec failed
    exact ⟨same, Or.inr ⟨err, rfl, retryable err rfl⟩⟩
  · rename_i next ran
    cases called
    obtain ⟨same, _⟩ := nextFailure_spec ran
    refine ⟨same, Or.inl ?_⟩
    rw [getBillingAdjustment, if_neg nonempty, same.db]
    rfl

/-- A successful call has staged the request. -/
theorem ensurePending_spec (valid : req.validate = .ok ())
    (harmless : req.Harmless (req.rowIn node.db))
    (called : node.ensurePending now req = (result, after)) :
    req.Harmless (req.rowIn after.db) ∧ KeepsDrops node after ∧
      (result = .ok () → req.Staged after.db) ∧
      ∀ err, result = .error err →
        billingAdjustmentRetryable err = true ∨ err.isConflictOrClosed = true := by
  unfold ensurePending at called
  split at called
  · rename_i failure next failed
    cases called
    have same := nextFault_sameStore failed
    refine ⟨by rw [same.db]; exact harmless, same.drops, ?_, ?_⟩
    · intro done
      cases done
    · intro err failed
      cases failed
      exact Or.inl failure.retryable
  · rename_i fault next _ ran
    have same := nextFault_sameStore ran
    split at called
    · rename_i err refused
      cases called
      refine ⟨by rw [same.db]; exact harmless, same.drops, ?_, ?_⟩
      · intro done
        cases done
      · intro err' failed
        cases failed
        exact Or.inr (ensurePending_refused valid refused)
    · rename_i db stored
      rw [same.db] at stored
      have staged := harmless.staged stored
      split at called
      · rename_i failure _
        cases called
        refine ⟨staged.harmless, ⟨same.drops.drops, same.drops.applyFaults⟩, ?_, ?_⟩
        · intro done
          cases done
        · intro err failed
          cases failed
          exact Or.inl failure.retryable
      · cases called
        exact ⟨staged.harmless, ⟨same.drops.drops, same.drops.applyFaults⟩, fun _ => staged,
          fun err failed => by cases failed⟩

/-- A call that fails leaves the ledger, or it lost the answer to its commit. -/
theorem apply_spec (called : node.apply now req = (result, after)) :
    KeepsDrops node after ∧ (result = .ok () → req.Charged after.db) ∧
      ∀ err, result = .error err →
        after.db = node.db ∨
          (∃ failure, .after failure ∈ node.applyFaults) ∧
            ∃ outcome, applyBillingAdjustment node.db now req = .ok (outcome, after.db) := by
  unfold apply at called
  split at called
  · rename_i failure next failed
    cases called
    obtain ⟨same, _⟩ := nextApplyFault_spec failed
    exact ⟨same.drops, (fun done => by cases done), fun _ _ => Or.inl same.db⟩
  · rename_i fault next _ ran
    obtain ⟨same, origin⟩ := nextApplyFault_spec ran
    split at called
    · cases called
      exact ⟨same.drops, (fun done => by cases done), fun _ _ => Or.inl same.db⟩
    · rename_i outcome db applied
      rw [same.db] at applied
      split at called
      · rename_i failure _
        cases called
        refine ⟨⟨same.drops.drops, same.drops.applyFaults⟩, (fun done => by cases done), ?_⟩
        intro _ _
        rcases origin with impossible | met
        · cases impossible
        · exact Or.inr ⟨⟨failure, met⟩, outcome, applied⟩
      · cases called
        exact ⟨⟨same.drops.drops, same.drops.applyFaults⟩, fun _ => charged_of_apply applied,
          fun err failed => by cases failed⟩

end Node

/-! ## What a settlement keeps -/

structure KeptByEnsure (now : Int) (req : BillingAdjustmentRequest) (holds : Database → Prop) :
    Prop where
  ensure :
    ∀ db after, holds db → ensurePendingBillingAdjustment db now req = .ok after → holds after

structure KeptBySettle (now : Int) (req : BillingAdjustmentRequest) (holds : Database → Prop) :
    Prop extends KeptByEnsure now req holds where
  apply :
    ∀ db outcome after, holds db →
      applyBillingAdjustment db now req = .ok (outcome, after) → holds after

section Kept

variable {node after : Node} {now : Int} {req : BillingAdjustmentRequest}
variable {holds : Database → Prop}

def BillingAdjustmentRequest.Applied (req : BillingAdjustmentRequest) (db : Database) : Prop :=
  ∃ row, req.rowIn db = some row ∧ row.status = .applied

namespace KeptByEnsure

variable {result : Except BillingError Unit}

theorem ensurePending (kept : KeptByEnsure now req holds) (before : holds node.db)
    (called : node.ensurePending now req = (result, after)) :
    holds after.db := by
  unfold Node.ensurePending at called
  split at called
  · rename_i failure next failed
    cases called
    rw [(nextFault_sameStore failed).db]
    exact before
  · rename_i fault next _ ran
    have same := nextFault_sameStore ran
    split at called
    · cases called
      rw [same.db]
      exact before
    · rename_i db stored
      rw [same.db] at stored
      have held := kept.ensure node.db db before stored
      split at called
      · cases called
        exact held
      · cases called
        exact held

theorem stageDurable (kept : KeptByEnsure now req holds)
    (nonempty : req.idempotencyKey ≠ "") (before : holds node.db)
    (called : stageDurableBillingAdjustment node now req = (result, after)) :
    holds after.db := by
  unfold stageDurableBillingAdjustment at called
  rcases remembered : node.rememberUnpersistedBillingAdjustment req with ⟨_, spooled⟩
  rw [← (remember_spec remembered).1] at before
  rcases ensured : spooled.ensurePending now req with ⟨saved, ensuredNode⟩
  have held := kept.ensurePending before ensured
  rcases read : ensuredNode.get req.idempotencyKey with ⟨stored, last⟩
  rw [← (get_spec nonempty read).1.db] at held
  rw [remembered] at called
  simp only [ensured, read] at called
  split at called
  · cases called
    exact held
  · generalize cleared :
      (if (foundRow stored).isSome then last.forgetUnpersistedBillingAdjustment req.idempotencyKey
        else last) = final at called
    have same : final.db = last.db := by
      subst cleared
      split
      · unfold forgetUnpersistedBillingAdjustment
        split <;> rfl
      · rfl
    rw [← same] at held
    split at called
    · cases called
      exact held
    · split at called
      · cases called
        exact held
      · split at called
        · cases called
          exact held
        · cases called
          exact held

end KeptByEnsure

namespace KeptBySettle

theorem applied {result : Except BillingError Unit}
    (kept : KeptBySettle now req holds) (before : holds node.db)
    (called : node.apply now req = (result, after)) :
    holds after.db ∧ (result = .ok () → req.Applied after.db) := by
  unfold Node.apply at called
  split at called
  · rename_i failure next failed
    cases called
    rw [(nextApplyFault_spec failed).1.db]
    exact ⟨before, fun done => by cases done⟩
  · rename_i fault next _ ran
    have same := (nextApplyFault_spec ran).1.db
    split at called
    · cases called
      rw [same]
      exact ⟨before, fun done => by cases done⟩
    · rename_i outcome db applied
      rw [same] at applied
      have held := kept.apply node.db outcome db before applied
      obtain ⟨row, located, status, _⟩ := charged_of_apply applied
      split at called
      · cases called
        exact ⟨held, fun done => by cases done⟩
      · cases called
        exact ⟨held, fun _ => ⟨row, located, status⟩⟩

end KeptBySettle

theorem storedBillingAdjustmentResult_applied
    {verdict : Option (Except BillingError Unit)} (nonempty : req.idempotencyKey ≠ "")
    (called : storedBillingAdjustmentResult node req.idempotencyKey = (verdict, after)) :
    after.db = node.db ∧ (verdict = some (.ok ()) → req.Applied after.db) := by
  unfold storedBillingAdjustmentResult at called
  rcases read : node.get req.idempotencyKey with ⟨stored, mid⟩
  obtain ⟨same, storedRow⟩ := get_spec nonempty read
  rw [read] at called
  dsimp only at called
  split at called
  · cases called
    exact ⟨same.db, fun done => by cases done⟩
  · rename_i row found
    split at called
    · rename_i status
      cases called
      refine ⟨same.db, fun _ => ⟨row, ?_, status⟩⟩
      rcases storedRow with rfl | ⟨err, rfl, _⟩
      · rw [same.db]
        exact found
      · cases found
    · cases called
      exact ⟨same.db, fun done => by cases done⟩
    · cases called
      exact ⟨same.db, fun done => by cases done⟩

namespace KeptBySettle

theorem saveOnce {outcome : SaveOutcome}
    (kept : KeptBySettle now req holds) (nonempty : req.idempotencyKey ≠ "")
    (before : holds node.db) (called : saveOnce now req node = (outcome, after)) :
    holds after.db ∧ (outcome = .resolved (.ok ()) → req.Applied after.db) := by
  unfold NewApi.Billing.saveOnce at called
  split at called
  · rename_i mid ensured
    cases called
    exact ⟨kept.ensurePending before ensured, fun done => by cases done⟩
  · rename_i err mid ensured
    have held := kept.ensurePending before ensured
    split at called
    · cases called
      exact ⟨held, fun done => by cases done⟩
    · split at called
      · rename_i result last stored
        cases called
        obtain ⟨same, applied⟩ := storedBillingAdjustmentResult_applied nonempty stored
        refine ⟨by rw [same]; exact held, fun done => ?_⟩
        cases done
        exact applied rfl
      · rename_i last stored
        cases called
        obtain ⟨same, _⟩ := storedBillingAdjustmentResult_applied nonempty stored
        exact ⟨by rw [same]; exact held, fun done => by cases done⟩

theorem saveAttempts (kept : KeptBySettle now req holds) (nonempty : req.idempotencyKey ≠ "")
    (retries : Nat) :
    ∀ {node after : Node} {outcome : SaveOutcome}, holds node.db →
      saveAttempts now req retries node = (outcome, after) →
      holds after.db ∧ (outcome = .resolved (.ok ()) → req.Applied after.db) := by
  induction retries with
  | zero =>
    intro node after outcome before called
    exact kept.saveOnce nonempty before called
  | succ retries ih =>
    intro node after outcome before called
    unfold NewApi.Billing.saveAttempts at called
    split at called
    · rename_i err mid once
      obtain ⟨held, _⟩ := kept.saveOnce nonempty before once
      split at called
      · exact ih held called
      · cases called
        exact ⟨held, fun done => by cases done⟩
    · rename_i outcome mid _ once
      cases called
      exact kept.saveOnce nonempty before once

variable {result : Except BillingError Unit}

theorem persistRetryable (kept : KeptBySettle now req holds) (nonempty : req.idempotencyKey ≠ "")
    (before : holds node.db)
    (called : persistRetryableBillingAdjustment node now req = (result, after)) :
    holds after.db ∧ (result = .ok () → req.Applied after.db) := by
  unfold persistRetryableBillingAdjustment at called
  split at called
  · rename_i outcome mid attempts
    cases called
    obtain ⟨held, applied⟩ := kept.saveAttempts nonempty 2 before attempts
    refine ⟨held, fun done => ?_⟩
    rw [done] at applied
    exact applied rfl
  · rename_i saveErr mid attempts
    obtain ⟨held, _⟩ := kept.saveAttempts nonempty 2 before attempts
    split at called
    · cases called
      exact ⟨held, fun done => by cases done⟩
    · split at called
      · rename_i outcome next stored
        cases called
        obtain ⟨same, applied⟩ := storedBillingAdjustmentResult_applied nonempty stored
        refine ⟨by rw [same]; exact held, fun done => ?_⟩
        rw [done] at applied
        exact applied rfl
      · rename_i next stored
        obtain ⟨same, _⟩ := storedBillingAdjustmentResult_applied nonempty stored
        split at called
        · rename_i spoolErr last remembered
          cases called
          rw [(remember_spec remembered).1, same]
          exact ⟨held, fun done => by cases done⟩
        · rename_i last remembered
          cases called
          rw [(remember_spec remembered).1, same]
          exact ⟨held, fun done => by cases done⟩
  · rename_i mid attempts
    obtain ⟨held, _⟩ := kept.saveAttempts nonempty 2 before attempts
    split at called
    · rename_i next ran
      cases called
      exact kept.applied held ran
    · rename_i applyErr next ran
      obtain ⟨last, _⟩ := kept.applied held ran
      split at called
      · cases called
        exact ⟨last, fun done => by cases done⟩
      · cases called
        exact ⟨last, fun done => by cases done⟩

theorem applyAttempts (kept : KeptBySettle now req holds) (retries : Nat) :
    ∀ {node after : Node} {result : Except BillingError Unit}, holds node.db →
      applyAttempts now req retries node = (result, after) →
      holds after.db ∧ (result = .ok () → req.Applied after.db) := by
  induction retries with
  | zero =>
    intro node after result before called
    exact kept.applied before called
  | succ retries ih =>
    intro node after result before called
    unfold NewApi.Billing.applyAttempts at called
    split at called
    · rename_i err mid ran
      obtain ⟨held, _⟩ := kept.applied before ran
      split at called
      · exact ih held called
      · cases called
        exact ⟨held, fun done => by cases done⟩
    · rename_i mid ran
      cases called
      exact kept.applied before ran

/-- The rule for a settle call: whatever its transactions keep holds at its
end, and a call that reports success leaves an applied row. -/
theorem settleThroughLedger (kept : KeptBySettle now req holds) (nonempty : req.idempotencyKey ≠ "")
    (before : holds node.db) (called : settleThroughLedger node now req = (result, after)) :
    holds after.db ∧ (result = .ok () → req.Applied after.db) := by
  unfold NewApi.Billing.settleThroughLedger at called
  split at called
  · rename_i err mid staging
    have held := kept.stageDurable nonempty before staging
    split at called
    · exact kept.persistRetryable nonempty held called
    · cases called
      exact ⟨held, fun done => by cases done⟩
  · rename_i mid staging
    have held := kept.stageDurable nonempty before staging
    split at called
    · rename_i err next attempts
      obtain ⟨last, _⟩ := kept.applyAttempts 2 held attempts
      split at called
      · exact kept.persistRetryable nonempty last called
      · cases called
        exact ⟨last, fun done => by cases done⟩
    · rename_i next attempts
      cases called
      exact kept.applyAttempts 2 held attempts

end KeptBySettle

end Kept

end NewApi.Billing
