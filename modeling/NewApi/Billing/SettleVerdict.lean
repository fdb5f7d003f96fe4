import NewApi.Billing.BillingSession
import NewApi.Billing.SettlementCalls

/-!
# The verdict of a settle call

A settle call reports that the charge is applied, deferred or failed; the report
is compared with the ledger row and the spool that the call leaves.  A stored
row is harmless when no pattern of transient failures leads to a wrong report.
-/

namespace NewApi.Billing

open Transactions BillingAdjustmentRequest Node TransientError BillingError

/-! ## Reports -/

/-- A settlement reported as done is applied with the charge of the request,
and one reported as deferred waits in the ledger or in the spool. -/
structure Verdict (req : BillingAdjustmentRequest) (result : Except BillingError Unit)
    (node : Node) : Prop where
  settled : result = .ok () → req.Charged node.db
  deferred :
    result = .error .billingAdjustmentDeferred →
      req.Staged node.db ∨ node.spool req.idempotencyKey = some req

section Verdicts

variable {node after : Node} {now : Int} {req : BillingAdjustmentRequest}
variable {err : BillingError}

theorem Verdict.done (charged : req.Charged node.db) : Verdict req (.ok ()) node :=
  ⟨fun _ => charged, fun failed => by cases failed⟩

theorem Verdict.waiting (waits : req.Staged node.db ∨ node.spool req.idempotencyKey = some req) :
    Verdict req (.error err) node :=
  ⟨(fun done => by cases done), fun _ => waits⟩

theorem Verdict.failed (other : err ≠ .billingAdjustmentDeferred) :
    Verdict req (.error err) node := by
  refine ⟨(fun done => by cases done), fun failed => ?_⟩
  cases failed
  exact absurd rfl other

theorem ne_deferred_of_retryable (retryable : billingAdjustmentRetryable err = true) :
    err ≠ .billingAdjustmentDeferred := by
  rintro rfl
  cases retryable

theorem ne_deferred_of_conflictOrClosed (refused : err.isConflictOrClosed = true) :
    err ≠ .billingAdjustmentDeferred := by
  rintro rfl
  cases refused

theorem storedBillingAdjustmentResult_verdict
    {verdict : Option (Except BillingError Unit)} (nonempty : req.idempotencyKey ≠ "")
    (harmless : req.Harmless (req.rowIn node.db))
    (called : storedBillingAdjustmentResult node req.idempotencyKey = (verdict, after)) :
    SameStore node after ∧ ∀ result, verdict = some result → Verdict req result after := by
  unfold storedBillingAdjustmentResult at called
  rcases read : node.get req.idempotencyKey with ⟨stored, mid⟩
  obtain ⟨same, storedRow⟩ := get_spec nonempty read
  rw [read] at called
  dsimp only at called
  rcases storedRow with rfl | ⟨err, rfl, _⟩
  · rw [foundRow] at called
    split at called
    · cases called
      exact ⟨same, fun result resolved => by cases resolved⟩
    · rename_i row found
      rw [found] at harmless
      have located : req.rowIn mid.db = some row := by
        rw [same.db]
        exact found
      split at called
      · rename_i applied
        cases called
        refine ⟨same, fun result resolved => ?_⟩
        cases resolved
        simp only [Harmless, applied] at harmless
        exact Verdict.done ⟨row, located, applied, harmless.2⟩
      · rename_i pending
        cases called
        refine ⟨same, fun result resolved => ?_⟩
        cases resolved
        simp only [Harmless, pending] at harmless
        exact Verdict.waiting (Or.inl ⟨row, located, pending, harmless⟩)
      · cases called
        refine ⟨same, fun result resolved => ?_⟩
        cases resolved
        exact Verdict.failed (by decide)
  · cases called
    exact ⟨same, fun result resolved => by cases resolved⟩

/-- No call of `ApplyBillingAdjustment` fails after its commit. -/
def AllAnswered (applyFaults : List Fault) : Prop :=
  ∀ failure, Fault.after failure ∉ applyFaults

/-- The stored row cannot be mistaken for the charge of the request, and no
charge is applied behind a failed call. -/
structure Calm (now : Int) (req : BillingAdjustmentRequest) (node : Node) : Prop where
  harmless : req.Harmless (req.rowIn node.db)
  seen : AllAnswered node.applyFaults ∨ req.Unappliable now node.db

theorem Calm.same (calm : Calm now req node) (db : after.db = node.db)
    (drops : KeepsDrops node after) : Calm now req after := by
  constructor
  · rw [db]
    exact calm.harmless
  · rw [db]
    exact calm.seen.imp_left fun none failure met => none failure (drops.applyFaults met)

theorem Staged.ensurePending (staged : req.Staged node.db) (valid : req.validate = .ok ()) :
    ensurePendingBillingAdjustment node.db now req = .ok node.db := by
  obtain ⟨row, found, pending, same⟩ := staged
  exact ensurePending_of_same valid found same (by rw [pending]; decide)

theorem Calm.ensurePending {result : Except BillingError Unit} (calm : Calm now req node)
    (valid : req.validate = .ok ()) (called : node.ensurePending now req = (result, after)) :
    Calm now req after := by
  obtain ⟨harmless, drops, _⟩ := ensurePending_spec valid calm.harmless called
  refine ⟨harmless, ?_⟩
  rcases calm.seen with none | unappliable
  · exact Or.inl fun failure met => none failure (drops.applyFaults met)
  have kept : KeptByEnsure now req fun db =>
      req.Harmless (req.rowIn db) ∧ req.Unappliable now db := by
    refine ⟨fun db saved ⟨rowHarmless, refused⟩ ensured => ?_⟩
    obtain ⟨row, found, pending, same⟩ := rowHarmless.staged ensured
    have again : ensurePendingBillingAdjustment saved now req = .ok saved :=
      ensurePending_of_same valid found same (by rw [pending]; decide)
    refine ⟨Staged.harmless ⟨row, found, pending, same⟩, fun stored twice => ?_⟩
    cases again.symm.trans twice
    exact refused saved ensured
  exact Or.inr (kept.ensurePending ⟨calm.harmless, unappliable⟩ called).2

/-- On a pending row of the request, a call that fails has applied nothing. -/
theorem Calm.apply_failed (calm : Calm now req node) (valid : req.validate = .ok ())
    (staged : req.Staged node.db) (called : node.apply now req = (.error err, after)) :
    after.db = node.db := by
  obtain ⟨_, _, failed⟩ := apply_spec called
  rcases failed err rfl with same | ⟨⟨failure, met⟩, outcome, applied⟩
  · exact same
  · rcases calm.seen with none | unappliable
    · exact absurd met (none failure)
    · exact absurd applied (unappliable node.db (Staged.ensurePending staged valid) outcome _)

def SaveOutcome.Sound (req : BillingAdjustmentRequest) (node : Node) : SaveOutcome → Prop
  | .saved => req.Staged node.db
  | .failed err => billingAdjustmentRetryable err = true ∨ err.isConflictOrClosed = true
  | .resolved result => Verdict req result node

/-- A save tells the truth: a staged row, a retryable failure, or a verdict. -/
theorem saveOnce_sound {outcome : SaveOutcome}
    (nonempty : req.idempotencyKey ≠ "") (valid : req.validate = .ok ())
    (calm : Calm now req node) (called : saveOnce now req node = (outcome, after)) :
    Calm now req after ∧ KeepsDrops node after ∧ outcome.Sound req after := by
  unfold saveOnce at called
  split at called
  · rename_i mid ensured
    cases called
    obtain ⟨_, drops, staged, _⟩ := ensurePending_spec valid calm.harmless ensured
    exact ⟨calm.ensurePending valid ensured, drops, staged rfl⟩
  · rename_i err mid ensured
    obtain ⟨_, drops, _, refused⟩ := ensurePending_spec valid calm.harmless ensured
    have kept := calm.ensurePending valid ensured
    split at called
    · cases called
      exact ⟨kept, drops, refused err rfl⟩
    · split at called
      · rename_i result last stored
        cases called
        obtain ⟨same, verdict⟩ :=
          storedBillingAdjustmentResult_verdict nonempty kept.harmless stored
        exact ⟨kept.same same.db same.drops, same.drops.trans drops, verdict result rfl⟩
      · rename_i last stored
        cases called
        obtain ⟨same, _⟩ := storedBillingAdjustmentResult_verdict nonempty kept.harmless stored
        exact ⟨kept.same same.db same.drops, same.drops.trans drops, refused err rfl⟩

theorem saveAttempts_sound (nonempty : req.idempotencyKey ≠ "")
    (valid : req.validate = .ok ()) (retries : Nat) :
    ∀ {node after : Node} {outcome : SaveOutcome}, Calm now req node →
      saveAttempts now req retries node = (outcome, after) →
      Calm now req after ∧ KeepsDrops node after ∧ outcome.Sound req after := by
  induction retries with
  | zero =>
    intro node after outcome calm called
    exact saveOnce_sound nonempty valid calm called
  | succ retries ih =>
    intro node after outcome calm called
    unfold saveAttempts at called
    split at called
    · rename_i err mid once
      obtain ⟨kept, drops, sound⟩ := saveOnce_sound nonempty valid calm once
      split at called
      · obtain ⟨last, lastDrops, lastSound⟩ := ih kept called
        exact ⟨last, lastDrops.trans drops, lastSound⟩
      · cases called
        exact ⟨kept, drops, sound⟩
    · rename_i outcome mid _ once
      cases called
      exact saveOnce_sound nonempty valid calm once

variable {result : Except BillingError Unit}

theorem persistRetryableBillingAdjustment_verdict (nonempty : req.idempotencyKey ≠ "")
    (valid : req.validate = .ok ()) (calm : Calm now req node)
    (called : persistRetryableBillingAdjustment node now req = (result, after)) :
    Verdict req result after ∧ KeepsDrops node after := by
  unfold persistRetryableBillingAdjustment at called
  split at called
  · rename_i outcome mid attempts
    cases called
    obtain ⟨_, drops, sound⟩ := saveAttempts_sound nonempty valid 2 calm attempts
    exact ⟨sound, drops⟩
  · rename_i saveErr mid attempts
    obtain ⟨kept, drops, sound⟩ := saveAttempts_sound nonempty valid 2 calm attempts
    split at called
    · cases called
      refine ⟨Verdict.failed ?_, drops⟩
      rcases sound with retryable | refused
      · exact ne_deferred_of_retryable retryable
      · exact ne_deferred_of_conflictOrClosed refused
    · rename_i again
      have retryable : billingAdjustmentRetryable saveErr = true := by simpa using again
      split at called
      · rename_i outcome next stored
        cases called
        obtain ⟨same, verdict⟩ := storedBillingAdjustmentResult_verdict nonempty kept.harmless stored
        exact ⟨verdict result rfl, same.drops.trans drops⟩
      · rename_i next stored
        obtain ⟨same, _⟩ := storedBillingAdjustmentResult_verdict nonempty kept.harmless stored
        split at called
        · rename_i spoolErr last remembered
          cases called
          obtain ⟨_, lastDrops, _⟩ := remember_spec remembered
          exact ⟨Verdict.failed (ne_deferred_of_retryable retryable),
              lastDrops.trans (same.drops.trans drops)⟩
        · rename_i last remembered
          cases called
          obtain ⟨_, lastDrops, held⟩ := remember_spec remembered
          exact ⟨Verdict.waiting (Or.inr (held rfl)), lastDrops.trans (same.drops.trans drops)⟩
  · rename_i mid attempts
    obtain ⟨kept, drops, staged⟩ := saveAttempts_sound nonempty valid 2 calm attempts
    split at called
    · rename_i next applied
      cases called
      obtain ⟨lastDrops, charged, _⟩ := apply_spec applied
      exact ⟨Verdict.done (charged rfl), lastDrops.trans drops⟩
    · rename_i applyErr next failed
      have lastDrops := (apply_spec failed).1
      have waits : req.Staged next.db := by
        rw [kept.apply_failed valid staged failed]
        exact staged
      split at called
      · cases called
        exact ⟨Verdict.waiting (Or.inl waits), lastDrops.trans drops⟩
      · cases called
        exact ⟨Verdict.waiting (Or.inl waits), lastDrops.trans drops⟩

/-- An attempt posts the charge or writes nothing. -/
theorem applyAttempts_spec (valid : req.validate = .ok ()) (retries : Nat) :
    ∀ {node after : Node} {result : Except BillingError Unit},
      Calm now req node → req.Staged node.db →
      applyAttempts now req retries node = (result, after) →
      KeepsDrops node after ∧ (result = .ok () → req.Charged after.db) ∧
        ∀ err, result = .error err → after.db = node.db := by
  induction retries with
  | zero =>
    intro node after result calm staged called
    obtain ⟨drops, charged, _⟩ := apply_spec called
    refine ⟨drops, charged, ?_⟩
    rintro err rfl
    exact calm.apply_failed valid staged called
  | succ retries ih =>
    intro node after result calm staged called
    unfold applyAttempts at called
    split at called
    · rename_i err mid failed
      have drops := (apply_spec failed).1
      have unchanged := calm.apply_failed valid staged failed
      split at called
      · obtain ⟨lastDrops, charged, lastUnchanged⟩ :=
          ih (calm.same unchanged drops) (by rw [unchanged]; exact staged) called
        exact ⟨lastDrops.trans drops, charged, fun lastErr lastFailed =>
            (lastUnchanged lastErr lastFailed).trans unchanged⟩
      · cases called
        exact ⟨drops, (fun done => by cases done), fun _ _ => unchanged⟩
    · rename_i mid applied
      cases called
      obtain ⟨drops, charged, _⟩ := apply_spec applied
      exact ⟨drops, charged, fun err failed => by cases failed⟩

/-- Every spool entry that was removed had a ledger row by then. -/
def DropsCovered (node after : Node) : Prop :=
  ∀ row ∈ after.drops, row ∈ node.drops ∨ row.isSome = true

theorem DropsCovered.congr {mid : Node} (covered : DropsCovered node mid)
    (keeps : KeepsDrops mid after) :
    DropsCovered node after := by
  intro row dropped
  rw [keeps.drops] at dropped
  exact covered row dropped

theorem DropsCovered.of_keeps (keeps : KeepsDrops node after) : DropsCovered node after := by
  intro row dropped
  rw [keeps.drops] at dropped
  exact Or.inl dropped

/-- Staging removes the spool entry only under a row that it has read. -/
theorem forget_covered {stored : Option BillingAdjustment}
    (seen : ∀ row, stored = some row → req.rowIn node.db = some row)
    (called :
      (if stored.isSome then node.forgetUnpersistedBillingAdjustment req.idempotencyKey
        else node) =
        after) :
    after.db = node.db ∧ after.applyFaults = node.applyFaults ∧ DropsCovered node after := by
  subst called
  split
  · rename_i present
    obtain ⟨row, read⟩ := Option.isSome_iff_exists.mp present
    have located : req.rowIn node.db = some row := seen row read
    unfold forgetUnpersistedBillingAdjustment
    split
    · exact ⟨rfl, rfl, .of_keeps (.refl node)⟩
    refine ⟨rfl, rfl, ?_⟩
    intro row dropped
    rcases List.mem_cons.mp dropped with rfl | old
    · refine Or.inr ?_
      change (req.rowIn node.db).isSome = true
      rw [located]
      rfl
    · exact Or.inl old
  · exact ⟨rfl, rfl, .of_keeps (.refl node)⟩

section

variable (nonempty : req.idempotencyKey ≠ "") (valid : req.validate = .ok ())
  (calm : Calm now req node)
include nonempty valid calm

/-- A staged request is in the ledger; a refusal is retryable or final. -/
theorem stageDurableBillingAdjustment_spec
    (called : stageDurableBillingAdjustment node now req = (result, after)) :
    Calm now req after ∧ DropsCovered node after ∧
      (result = .ok () → req.Staged after.db) ∧
      ∀ err, result = .error err →
        billingAdjustmentRetryable err = true ∨ Verdict req (.error err) after := by
  unfold stageDurableBillingAdjustment at called
  rcases remembered : node.rememberUnpersistedBillingAdjustment req with ⟨_, spooled⟩
  obtain ⟨spooledDb, spooledDrops, _⟩ := remember_spec remembered
  have spooledCalm := calm.same spooledDb spooledDrops
  rcases ensured : spooled.ensurePending now req with ⟨saved, ensuredNode⟩
  obtain ⟨_, ensuredDrops, staged, refused⟩ :=
    ensurePending_spec valid spooledCalm.harmless ensured
  rcases read : ensuredNode.get req.idempotencyKey with ⟨stored, last⟩
  obtain ⟨same, storedRow⟩ := get_spec nonempty read
  rw [remembered] at called
  simp only [ensured, read] at called
  have drops : KeepsDrops node last := same.drops.trans (ensuredDrops.trans spooledDrops)
  have lastCalm : Calm now req last :=
    (spooledCalm.ensurePending valid ensured).same same.db same.drops
  split at called
  · cases called
    refine ⟨lastCalm, .of_keeps drops, (fun done => by cases done), ?_⟩
    intro err failed
    cases failed
    rcases storedRow with impossible | ⟨err, equal, retryable⟩
    · cases impossible
    · cases equal
      exact Or.inl retryable
  · have seen : ∀ row, foundRow stored = some row → req.rowIn last.db = some row := by
      intro row found
      rcases storedRow with rfl | ⟨err, rfl, _⟩
      · rw [same.db]
        exact found
      · cases found
    generalize cleared :
      (if (foundRow stored).isSome then last.forgetUnpersistedBillingAdjustment req.idempotencyKey
        else last) = final at called
    obtain ⟨finalDb, finalFaults, covered⟩ := forget_covered seen cleared
    have finalCovered : DropsCovered node final := by
      intro row dropped
      rw [← drops.drops]
      exact covered row dropped
    have finalCalm : Calm now req final := by
      refine ⟨by rw [finalDb]; exact lastCalm.harmless, ?_⟩
      rw [finalDb, finalFaults]
      exact lastCalm.seen
    split at called
    · cases called
      refine ⟨finalCalm, finalCovered, fun _ => ?_, fun err failed => by cases failed⟩
      rw [finalDb, same.db]
      exact staged rfl
    · rename_i saveErr _
      have other : saveErr ≠ .billingAdjustmentDeferred := by
        rcases refused saveErr rfl with retryable | closed
        · exact ne_deferred_of_retryable retryable
        · exact ne_deferred_of_conflictOrClosed closed
      split at called
      · cases called
        refine ⟨finalCalm, finalCovered, (fun done => by cases done), ?_⟩
        intro err failed
        cases failed
        exact Or.inr (Verdict.failed other)
      · split at called
        · rename_i waits
          cases called
          refine ⟨finalCalm, finalCovered, (fun done => by cases done), ?_⟩
          intro err failed
          cases failed
          obtain ⟨row, found, pending⟩ := Option.map_eq_some_iff.mp waits
          have located : req.rowIn after.db = some row := by
            rw [finalDb]
            exact seen row found
          have finalHarmless := finalCalm.harmless
          rw [located] at finalHarmless
          simp only [Harmless, pending] at finalHarmless
          exact Or.inr (Verdict.waiting (Or.inl ⟨row, located, pending, finalHarmless⟩))
        · cases called
          refine ⟨finalCalm, finalCovered, (fun done => by cases done), ?_⟩
          intro err failed
          cases failed
          exact Or.inr (Verdict.failed other)

theorem settleThroughLedger_verdict (called : settleThroughLedger node now req = (result, after)) :
    Verdict req result after ∧ DropsCovered node after := by
  unfold settleThroughLedger at called
  split at called
  · rename_i err mid staging
    obtain ⟨kept, covered, _, reported⟩ :=
      stageDurableBillingAdjustment_spec nonempty valid calm staging
    split at called
    · obtain ⟨verdict, drops⟩ :=
        persistRetryableBillingAdjustment_verdict nonempty valid kept called
      exact ⟨verdict, covered.congr drops⟩
    · rename_i final
      cases called
      rcases reported err rfl with retryable | verdict
      · exact absurd retryable final
      · exact ⟨verdict, covered⟩
  · rename_i mid staging
    obtain ⟨kept, covered, staged, _⟩ :=
      stageDurableBillingAdjustment_spec nonempty valid calm staging
    have waits := staged rfl
    split at called
    · rename_i err next attempts
      obtain ⟨drops, _, unchanged⟩ := applyAttempts_spec valid 2 kept waits attempts
      have nextStaged : req.Staged next.db := by
        rw [unchanged err rfl]
        exact waits
      split at called
      · obtain ⟨verdict, lastDrops⟩ :=
          persistRetryableBillingAdjustment_verdict nonempty valid (kept.same (unchanged err rfl) drops) called
        exact ⟨verdict, (covered.congr drops).congr lastDrops⟩
      · cases called
        exact ⟨Verdict.waiting (Or.inl nextStaged), covered.congr drops⟩
    · rename_i next attempts
      cases called
      obtain ⟨drops, charged, _⟩ := applyAttempts_spec valid 2 kept waits attempts
      exact ⟨Verdict.done (charged rfl), covered.congr drops⟩

end

end Verdicts

def TransientError.locked : TransientError where
  err := .text "database is locked"
  retryable := by decide

section Misleading

variable {db : Database} {now : Int} {req : BillingAdjustmentRequest}
variable {row : BillingAdjustment}

def Node.meeting (db : Database) (spool : String → Option BillingAdjustmentRequest)
    (drops : List (Option BillingAdjustment)) (faults applyFaults : List Fault) : Node :=
  ⟨db, spool, faults, applyFaults, drops⟩

@[simp]
theorem Node.meeting_db (spool : String → Option BillingAdjustmentRequest)
    (drops : List (Option BillingAdjustment)) (faults applyFaults : List Fault) :
    (meeting db spool drops faults applyFaults).db = db :=
  rfl

@[simp]
theorem Node.meeting_spool (spool : String → Option BillingAdjustmentRequest)
    (drops : List (Option BillingAdjustment)) (faults applyFaults : List Fault) :
    (meeting db spool drops faults applyFaults).spool = spool :=
  rfl

variable {spool : String → Option BillingAdjustmentRequest}
variable {drops : List (Option BillingAdjustment)}

theorem settleThroughLedger_pending_misled (nonempty : req.idempotencyKey ≠ "")
    (valid : req.validate = .ok ()) (found : req.rowIn db = some row)
    (pending : row.status = .pending) :
    settleThroughLedger (Node.meeting db spool drops [.none, .before .locked] []) now req =
      (.error .billingAdjustmentDeferred,
        Node.meeting db (Function.update spool req.idempotencyKey none)
          (some row :: drops) [] []) := by
  have located : db.billingAdjustments.lookup req.idempotencyKey = some row := found
  simp [settleThroughLedger, stageDurableBillingAdjustment, Node.meeting,
    Node.rememberUnpersistedBillingAdjustment, Node.nextFailure, Node.nextFault, Node.ensurePending,
    Node.get, getBillingAdjustment, Node.forgetUnpersistedBillingAdjustment, foundRow, valid,
    nonempty, located, pending, locked, isConflictOrClosed,
    billingAdjustmentRetryable]

private theorem locked_retryable : billingAdjustmentRetryable (.text "database is locked") = true :=
  locked.retryable

section

variable (nonempty : req.idempotencyKey ≠ "") (valid : req.validate = .ok ())
  (found : req.rowIn db = some row) (applied : row.status = .applied)
include nonempty valid found applied

/-- The charge was applied before, and the call that could have said so
fails. -/
theorem settleThroughLedger_applied_misled (same : req.same row = true) :
    settleThroughLedger
        (Node.meeting db spool drops []
          [.before .locked, .before .locked, .before .locked, .before .locked]) now req =
      (.error .billingAdjustmentDeferred,
        Node.meeting db (Function.update spool req.idempotencyKey none)
          (some row :: drops) [] []) := by
  have located : db.billingAdjustments.lookup req.idempotencyKey = some row := found
  have ensured : ensurePendingBillingAdjustment db now req = .ok db := by
    simp [ensurePendingBillingAdjustment, lockOrCreateBillingAdjustment,
      valid, located, same, applied, Bind.bind, Except.bind]
  simp [settleThroughLedger, stageDurableBillingAdjustment, Node.meeting,
    Node.rememberUnpersistedBillingAdjustment, Node.nextFailure, Node.nextFault, Node.ensurePending,
    Node.get, getBillingAdjustment, Node.forgetUnpersistedBillingAdjustment, foundRow, valid,
    nonempty, located, ensured, applyAttempts, Node.apply, Node.nextApplyFault, locked_retryable,
    locked, persistRetryableBillingAdjustment, saveAttempts, saveOnce]

/-- Another charge was applied under the key, and the payloads are never
compared. -/
theorem settleThroughLedger_other_misled :
    settleThroughLedger
        (Node.meeting db spool drops [.none, .before .locked, .none, .before .locked] []) now req =
      (.ok (),
        Node.meeting db (Function.update spool req.idempotencyKey none)
          (some row :: drops) [] []) := by
  have located : db.billingAdjustments.lookup req.idempotencyKey = some row := found
  simp [settleThroughLedger, stageDurableBillingAdjustment, Node.meeting,
    Node.rememberUnpersistedBillingAdjustment, Node.nextFailure, Node.nextFault, Node.ensurePending,
    Node.get, getBillingAdjustment, Node.forgetUnpersistedBillingAdjustment, foundRow, valid,
    nonempty, located, applied, locked, isConflictOrClosed,
    locked_retryable, persistRetryableBillingAdjustment, saveAttempts, saveOnce,
    storedBillingAdjustmentResult]

end

/-- The charge is applied by the first call, whose answer is lost, and all
later calls fail. -/
theorem settleThroughLedger_lost_misled {stored paid : Database} {outcome : ApplyOutcome}
    (nonempty : req.idempotencyKey ≠ "") (valid : req.validate = .ok ())
    (harmless : req.Harmless (req.rowIn db))
    (ensured : ensurePendingBillingAdjustment db now req = .ok stored)
    (applied : applyBillingAdjustment stored now req = .ok (outcome, paid)) :
    ∃ row,
      settleThroughLedger
          (Node.meeting db spool drops []
            [.after .locked, .before .locked, .before .locked, .before .locked]) now req =
        (.error .billingAdjustmentDeferred,
          Node.meeting paid (Function.update spool req.idempotencyKey none)
            (some row :: drops) [] []) := by
  obtain ⟨row, found, pending, same⟩ := harmless.staged ensured
  obtain ⟨last, visible, settled, lastSame⟩ := settled_of_apply applied
  have located : stored.billingAdjustments.lookup req.idempotencyKey = some row := found
  have again : ensurePendingBillingAdjustment paid now req = .ok paid :=
    ensurePending_of_same valid visible lastSame (by rw [settled]; decide)
  refine ⟨row, ?_⟩
  simp [settleThroughLedger, stageDurableBillingAdjustment, Node.meeting,
    Node.rememberUnpersistedBillingAdjustment, Node.nextFailure, Node.nextFault, Node.ensurePending,
    Node.get, getBillingAdjustment, Node.forgetUnpersistedBillingAdjustment, foundRow, valid,
    nonempty, located, ensured, applied, again, applyAttempts, Node.apply, Node.nextApplyFault,
    locked_retryable, locked, persistRetryableBillingAdjustment, saveAttempts, saveOnce]

end Misleading

/-! ## Settle calls -/

namespace BillingSession

structure WellFormed (session : BillingSession) : Prop where
  user : 0 < session.relayInfo.userId
  preConsumed : 0 ≤ session.preConsumedQuota
  extra : 0 ≤ session.extraReserved
  subscription : ∀ funding, session.funding = .subscription funding → 0 < funding.subscriptionId

variable {session : BillingSession} {now actual : Int}

theorem key_ne_empty (keyed : session.requestId ≠ "") : session.key ≠ "" := by
  rw [key, if_neg keyed]
  exact billingAdjustmentKey_ne_empty session.requestId

theorem WellFormed.validate (wellFormed : session.WellFormed) (keyed : session.requestId ≠ "")
    (nonneg : 0 ≤ actual) :
    (session.billingAdjustmentRequest actual).validate = .ok () := by
  have quotas : ¬(actual < 0 ∨ session.preConsumedQuota < 0 ∨ session.extraReserved < 0) := by
    have preConsumed := wellFormed.preConsumed
    have extra := wellFormed.extra
    omega
  have source : (session.billingAdjustmentRequest actual).checkSource = .ok () := by
    cases funded : session.funding with
    | wallet funding =>
      simp [BillingAdjustmentRequest.checkSource, billingAdjustmentRequest,
        funded, FundingSource.source, FundingSource.subscriptionID]
    | subscription funding =>
      have positive := wellFormed.subscription funding funded
      simp [BillingAdjustmentRequest.checkSource, billingAdjustmentRequest, funded,
        FundingSource.source, FundingSource.subscriptionID, positive]
  have token : (session.billingAdjustmentRequest actual).checkToken = .ok () := by
    simp only [BillingAdjustmentRequest.checkToken, billingAdjustmentRequest]
    split
    · rename_i included
      have positive : 0 < session.relayInfo.tokenId := by
        simp only [tokenIncluded, Bool.and_eq_true, decide_eq_true_eq] at included
        exact included.1
      rw [if_neg (by omega), if_neg (by simp)]
    · simp
  have balanced : session.preConsumedQuota + (actual - session.preConsumedQuota) = actual := by
    omega
  rw [BillingAdjustmentRequest.validate,
    if_neg (show
      (session.billingAdjustmentRequest actual).idempotencyKey ≠ "" from key_ne_empty keyed),
    if_neg (show
      ¬(session.billingAdjustmentRequest actual).userID ≤ 0 from not_le.mpr wellFormed.user),
    if_neg (show
      ¬((session.billingAdjustmentRequest actual).chargeQuota < 0 ∨
        (session.billingAdjustmentRequest actual).reservationQuota < 0 ∨
        (session.billingAdjustmentRequest actual).extraReserved < 0) from
        quotas),
    if_neg (show
      ¬(session.billingAdjustmentRequest actual).reservationQuota +
          (session.billingAdjustmentRequest actual).fundingDelta ≠
        (session.billingAdjustmentRequest actual).chargeQuota from
        not_not.mpr balanced),
    source, token]
  rfl

/-- The report of a settle call agrees with what the call leaves behind: a
charge reported as settled is the applied one, a deferred charge waits in the
ledger or on this node, and no spool entry was dropped without a ledger row. -/
structure ReportHolds (session : BillingSession) (node : Node) (actual : Int)
    (outcome : SessionOutcome Unit) : Prop where
  settled :
    outcome.result = .ok () →
      ∃ row,
        outcome.node.db.billingAdjustments.lookup session.key = some row ∧
          row.status = .applied ∧
          row.chargeQuota = outcome.session.deliveredQuota ∧
          outcome.session.deliveredQuota = actual
  deferred :
    outcome.result = .error .billingAdjustmentDeferred →
      (∃ row,
        outcome.node.db.billingAdjustments.lookup session.key = some row ∧
          row.status = .pending ∧
          (session.billingAdjustmentRequest actual).same row = true) ∨
        outcome.node.spool session.key = some (session.billingAdjustmentRequest actual)
  dropped : ∀ row ∈ outcome.node.drops, row ∈ node.drops ∨ row.isSome = true

theorem settle_keyed (keyed : session.requestId ≠ "") (unsettled : session.settled = false)
    (clear : session.settleErr = none) (node : Node) :
    session.settle node now actual = session.settleIdempotentLocked node now actual := by
  simp [settle, unsettled, clear, idempotentEnabled, keyed]

theorem settleIdempotentLocked_charged (nonneg : 0 ≤ actual) {node after : Node}
    {result : Except BillingError Unit}
    (called :
      settleThroughLedger node now (session.billingAdjustmentRequest actual) = (result, after)) :
    (session.settleIdempotentLocked node now actual).result = result ∧
      (session.settleIdempotentLocked node now actual).node = after ∧
      (result = .ok () →
        (session.settleIdempotentLocked node now actual).session.deliveredQuota = actual) := by
  have sent :
      ({ session with ledgerActive := true } : BillingSession).billingAdjustmentRequest actual =
        session.billingAdjustmentRequest actual :=
    rfl
  unfold settleIdempotentLocked
  rw [if_neg (by omega), sent, called]
  cases result with
  | ok done => exact ⟨rfl, rfl, fun _ => rfl⟩
  | error err => exact ⟨rfl, rfl, fun done => by cases done⟩

theorem reportHolds_of_negative (negative : actual < 0) (node : Node) :
    session.ReportHolds node actual (session.settleIdempotentLocked node now actual) := by
  unfold settleIdempotentLocked
  rw [if_pos negative]
  refine ⟨?_, ?_, fun row old => Or.inl old⟩
  · intro done
    cases done
  · intro deferred
    cases deferred

theorem reportHolds_of_calm (wellFormed : session.WellFormed) (keyed : session.requestId ≠ "")
    (nonneg : 0 ≤ actual) {node : Node}
    (calm : Calm now (session.billingAdjustmentRequest actual) node) :
    session.ReportHolds node actual (session.settleIdempotentLocked node now actual) := by
  rcases called : settleThroughLedger node now (session.billingAdjustmentRequest actual)
    with ⟨result, after⟩
  obtain ⟨verdict, covered⟩ :=
    settleThroughLedger_verdict (key_ne_empty keyed)
      (wellFormed.validate keyed nonneg) calm called
  obtain ⟨resultEq, nodeEq, delivered⟩ := settleIdempotentLocked_charged nonneg called
  refine ⟨?_, ?_, ?_⟩
  · intro done
    rw [resultEq] at done
    obtain ⟨row, located, applied, charge⟩ := verdict.settled done
    rw [nodeEq, delivered done]
    exact ⟨row, located, applied, charge, rfl⟩
  · intro deferred
    rw [resultEq] at deferred
    rw [nodeEq]
    exact verdict.deferred deferred
  · rw [nodeEq]
    exact covered

/-- For every other row some pattern of failures makes the report wrong. -/
theorem harmless_of_reportHolds (wellFormed : session.WellFormed) (keyed : session.requestId ≠ "")
    (nonneg : 0 ≤ actual) {db : Database} {spool : String → Option BillingAdjustmentRequest}
    {drops : List (Option BillingAdjustment)}
    (reports :
      ∀ faults applyFaults, AllAnswered applyFaults →
        session.ReportHolds (meeting db spool drops faults applyFaults) actual
          (session.settleIdempotentLocked (meeting db spool drops faults applyFaults) now
            actual)) :
    (session.billingAdjustmentRequest actual).Harmless
      (db.billingAdjustments.lookup session.key) := by
  have nonempty := key_ne_empty keyed
  have valid := wellFormed.validate keyed nonneg
  cases found : db.billingAdjustments.lookup session.key with
  | none => trivial
  | some row =>
    -- A deferred report with the entry gone needs a pending row of the same
    -- payload.
    have waits :
        ∀ faults applyFaults, AllAnswered applyFaults →
          settleThroughLedger (meeting db spool drops faults applyFaults) now
              (session.billingAdjustmentRequest actual) =
            (.error .billingAdjustmentDeferred,
              meeting db (Function.update spool session.key none) (some row :: drops) [] []) →
          row.status = .pending ∧ (session.billingAdjustmentRequest actual).same row = true := by
      intro faults applyFaults answered called
      obtain ⟨resultEq, nodeEq, _⟩ := settleIdempotentLocked_charged nonneg called
      rcases (reports faults applyFaults answered).deferred resultEq with
        ⟨stored, located, pending, same⟩ | held
      · rw [nodeEq, meeting_db, found] at located
        cases located
        exact ⟨pending, same⟩
      · rw [nodeEq, meeting_spool, Function.update_self] at held
        cases held
    cases status : row.status with
    | rolledBack => simp [Harmless, status]
    | pending =>
      simp only [Harmless, status]
      exact (waits _ _ (by simp [AllAnswered])
        (settleThroughLedger_pending_misled nonempty valid found status)).2
    | applied =>
      simp only [Harmless, status]
      cases same : (session.billingAdjustmentRequest actual).same row with
      | true =>
        have pending :=
          (waits _ _ (by simp [AllAnswered])
            (settleThroughLedger_applied_misled nonempty valid found status same)).1
        rw [status] at pending
        cases pending
      | false =>
        refine ⟨rfl, ?_⟩
        obtain ⟨resultEq, nodeEq, delivered⟩ :=
          settleIdempotentLocked_charged nonneg
            (settleThroughLedger_other_misled nonempty valid found status)
        obtain ⟨stored, located, _, charge, recorded⟩ :=
          (reports _ _ (by simp [AllAnswered])).settled resultEq
        rw [nodeEq, meeting_db, found] at located
        cases located
        exact charge.trans recorded

/-- When a charge could be applied, its answer may get lost. -/
theorem unappliable_of_reportHolds (wellFormed : session.WellFormed)
    (keyed : session.requestId ≠ "") (nonneg : 0 ≤ actual) {db : Database}
    {spool : String → Option BillingAdjustmentRequest} {drops : List (Option BillingAdjustment)}
    (harmless :
      (session.billingAdjustmentRequest actual).Harmless
        (db.billingAdjustments.lookup session.key))
    (reports :
      ∀ faults applyFaults,
        session.ReportHolds (meeting db spool drops faults applyFaults) actual
          (session.settleIdempotentLocked (meeting db spool drops faults applyFaults) now
            actual)) :
    (session.billingAdjustmentRequest actual).Unappliable now db := by
  intro stored ensured outcome paid applied
  obtain ⟨row, called⟩ :=
    @settleThroughLedger_lost_misled db now (session.billingAdjustmentRequest actual) spool drops
      stored paid outcome (key_ne_empty keyed) (wellFormed.validate keyed nonneg) harmless ensured
      applied
  obtain ⟨resultEq, nodeEq, _⟩ := settleIdempotentLocked_charged nonneg called
  rcases (reports _ _).deferred resultEq with ⟨waiting, located, pending, _⟩ | held
  · obtain ⟨last, visible, settled, _⟩ := settled_of_apply applied
    rw [nodeEq, meeting_db] at located
    cases located.symm.trans visible
    rw [pending] at settled
    cases settled
  · rw [nodeEq, meeting_spool] at held
    have gone : Function.update spool session.key none session.key = none :=
      Function.update_self ..
    cases gone.symm.trans held

/-- When no answer to a commit of `ApplyBillingAdjustment` is lost, the report
of a settle call is right under every pattern of transient failures exactly
when the stored row cannot be mistaken for its charge: the amount is refused as
negative, there is no row, the row is rolled back, it is pending with the same
payload, or it is applied with another payload of the same charge.  When
answers may get lost, the charge must moreover not be applicable. -/
theorem settle_report_iff (wellFormed : session.WellFormed) (keyed : session.requestId ≠ "")
    (unsettled : session.settled = false) (clear : session.settleErr = none) (db : Database)
    (spool : String → Option BillingAdjustmentRequest) (drops : List (Option BillingAdjustment)) :
    ((∀ faults applyFaults, AllAnswered applyFaults →
      session.ReportHolds (Node.meeting db spool drops faults applyFaults) actual
        (session.settle (Node.meeting db spool drops faults applyFaults) now actual)) ↔
      actual < 0 ∨
        (session.billingAdjustmentRequest actual).Harmless
          (db.billingAdjustments.lookup session.key)) ∧
    ((∀ faults applyFaults,
      session.ReportHolds (Node.meeting db spool drops faults applyFaults) actual
        (session.settle (Node.meeting db spool drops faults applyFaults) now actual)) ↔
      actual < 0 ∨
        (session.billingAdjustmentRequest actual).Harmless
            (db.billingAdjustments.lookup session.key) ∧
          (session.billingAdjustmentRequest actual).Unappliable now db) := by
  simp only [settle_keyed keyed unsettled clear]
  by_cases negative : actual < 0
  · have holds := fun node => @reportHolds_of_negative session now actual negative node
    exact ⟨⟨fun _ => Or.inl negative, fun _ _ _ _ => holds _⟩,
      ⟨fun _ => Or.inl negative, fun _ _ _ => holds _⟩⟩
  have nonneg : 0 ≤ actual := by omega
  simp only [negative, false_or]
  refine ⟨⟨harmless_of_reportHolds wellFormed keyed nonneg, ?_⟩, ⟨?_, ?_⟩⟩
  · intro harmless faults applyFaults answered
    exact reportHolds_of_calm wellFormed keyed nonneg ⟨harmless, Or.inl answered⟩
  · intro reports
    have harmless :=
      harmless_of_reportHolds wellFormed keyed nonneg fun faults applyFaults _ =>
        reports faults applyFaults
    exact ⟨harmless, unappliable_of_reportHolds wellFormed keyed nonneg harmless reports⟩
  · rintro ⟨harmless, unappliable⟩ faults applyFaults
    exact reportHolds_of_calm wellFormed keyed nonneg ⟨harmless, Or.inr unappliable⟩

theorem sample_wellFormed : sample.WellFormed where
  user := by decide
  preConsumed := by decide
  extra := by decide
  subscription := by
    intro funding funded
    cases funded

theorem settle_report_without_row : sample.settled = false ∧
      ∀ faults applyFaults, AllAnswered applyFaults →
        sample.ReportHolds (Node.meeting Database.sample (fun _ => none) [] faults applyFaults) 7
          (sample.settle (Node.meeting Database.sample (fun _ => none) [] faults applyFaults)
            1 7) :=
  ⟨rfl,
    (settle_report_iff sample_wellFormed (by decide) rfl rfl Database.sample
      (fun _ => none) []).1.mpr (Or.inr trivial)⟩

def sampleLedger : Database :=
  { Database.sample with
    billingAdjustments :=
      ⟨[((sample.billingAdjustmentRequest 5).pendingRow 1 0).settled 1], by decide⟩ }

/-- The row is applied with a charge of 5, both saves meet a lock, and the call
reports that 7 was charged. -/
theorem settle_report_other_charge :
    ¬sample.ReportHolds
      (Node.meeting sampleLedger (fun _ => none) []
        [.none, .before .locked, .none, .before .locked] []) 7
      (sample.settle
        (Node.meeting sampleLedger (fun _ => none) []
          [.none, .before .locked, .none, .before .locked] []) 1 7) := by
  intro holds
  obtain ⟨row, located, _, charge, _⟩ := holds.settled rfl
  have stored : row = ((sample.billingAdjustmentRequest 5).pendingRow 1 0).settled 1 :=
    (Option.some.inj located).symm
  rw [stored] at charge
  exact absurd charge (by decide)

end BillingSession

end NewApi.Billing
