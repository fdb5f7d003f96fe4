import NewApi.TaskRows.HiddenChanges
import NewApi.TaskRows.RowWriters
import Mathlib.Logic.Relation

/-!
# Leases of image tasks

Workers claim an image task for some time, renew the claim while they work and
release it, or end it with the update that ends the task.  Updates and the mark
of a submission are guarded by the lease; recoveries and cancellations by its
absence.
-/

namespace NewApi.TaskRows

open NewApi.Tasks GoStrings TaskContents

variable {Snapshot : Type} [DecidableEq Snapshot]

/-- An owner as `imageTaskLeaseOwner` makes it: not empty, and without space
around it. -/
structure LeaseOwner where
  name : String
  nonempty : name ≠ ""
  trimmed : trimSpace name = name

theorem LeaseOwner.ext_name {first second : LeaseOwner}
    (same : first.name = second.name) : first = second := by
  cases first
  cases second
  cases same
  rfl

instance : DecidableEq LeaseOwner := fun first second =>
  decidable_of_iff (first.name = second.name) ⟨LeaseOwner.ext_name, congrArg LeaseOwner.name⟩

inductive LeaseEvent (Snapshot : Type) where
  | claim (owner : LeaseOwner) (leaseSeconds : Int)
  | renew (owner : LeaseOwner) (leaseSeconds : Int)
  | release (owner : LeaseOwner) (nextPollAt retryCount : Int)
  | updateAndLease (task : TaskView Snapshot) (fromStatus : TaskStatus) (owner : LeaseOwner)
  | updateIfUnlocked (task : TaskView Snapshot) (fromStatus : TaskStatus)
  | cancel (task : TaskView Snapshot) (fromStatus : TaskStatus)
  | mark (owner : Option LeaseOwner) (startedAt : Int)

def LeaseEvent.run (now : Int) (row : TaskRow Snapshot) :
    LeaseEvent Snapshot → Option (TaskRow Snapshot)
  | .claim owner leaseSeconds => claimTaskLease owner.name now leaseSeconds row
  | .renew owner leaseSeconds => renewTaskLease owner.name now leaseSeconds row
  | .release owner nextPollAt retryCount =>
    releaseTaskLease owner.name nextPollAt retryCount now row
  | .updateAndLease task fromStatus owner =>
    (task.updateWithStatusAndLease fromStatus owner.name now now row).map Written.row
  | .updateIfUnlocked task fromStatus =>
    (task.updateWithStatusIfUnlocked fromStatus now now row).map Written.row
  | .cancel task fromStatus =>
    (applyImageTaskCancelBeforeExecution task fromStatus now now row).map Written.row
  | .mark owner startedAt =>
    markImageTaskSyncSubmissionStarted (owner.elim "" LeaseOwner.name) now startedAt now row

def TaskView.isTerminal (task : TaskView Snapshot) : Bool :=
  task.contents.column .status = .success ∨ task.contents.column .status = .failure

/-- A row with the claims and renewals that have returned success and that
their owners have not ended, the latest first, each with its expiry; and how
often the submission has been marked. -/
structure LeaseState (Snapshot : Type) where
  row : TaskRow Snapshot
  clock : Int
  grants : List (LeaseOwner × Int)
  marks : Nat

namespace LeaseState

def ended (state : LeaseState Snapshot) (owner : LeaseOwner) :
    LeaseState Snapshot :=
  { state with grants := state.grants.filter fun grant => grant.1 ≠ owner }

def record (state : LeaseState Snapshot) :
    LeaseEvent Snapshot → LeaseState Snapshot
  | .claim owner leaseSeconds =>
    { state with grants := (owner, state.clock + leaseSeconds) :: state.grants }
  | .renew owner leaseSeconds =>
    { state with grants := (owner, state.clock + leaseSeconds) :: state.grants }
  | .release owner _ _ => state.ended owner
  | .updateAndLease task _ owner =>
    if task.isTerminal = true then state.ended owner else state
  | .updateIfUnlocked _ _ => state
  | .cancel _ _ => state
  | .mark _ _ => { state with marks := state.marks + 1 }

def step (state : LeaseState Snapshot) (now : Int)
    (event : LeaseEvent Snapshot) : Option (LeaseState Snapshot) :=
  (event.run now state.row).map fun row => record { state with row, clock := now } event

def lease (state : LeaseState Snapshot) (owner : LeaseOwner) : Option Int :=
  (state.grants.find? fun grant => grant.1 = owner).map Prod.snd

/-- Nobody has claimed the row, and nobody has marked it. -/
def Initial (state : LeaseState Snapshot) : Prop := state.grants = [] ∧ state.marks = 0

def Locked (row : TaskRow Snapshot) (owner : LeaseOwner) (now : Int) : Prop :=
  row.column .lockOwner = owner.name ∧ now < row.column .lockUntil

/-- An owner whose latest lease has not expired has locked the row until
then. -/
def InStep (state : LeaseState Snapshot) : Prop :=
  ∀ owner expiry, state.lease owner = some expiry → state.clock < expiry →
    state.row.column .lockOwner = owner.name ∧ state.row.column .lockUntil = expiry

end LeaseState

def LeaseStep (state next : LeaseState Snapshot) : Prop :=
  ∃ now event, state.clock ≤ now ∧ state.step now event = some next

section Guards

variable {now : Int} {row next : TaskRow Snapshot}

variable {owner : LeaseOwner}

omit [DecidableEq Snapshot] in
theorem claim_wins {leaseSeconds : Int}
    (wins : claimTaskLease owner.name now leaseSeconds row = some next) :
    row.column .lockUntil ≤ now ∧ next.column .lockOwner = owner.name ∧
      next.column .lockUntil = now + leaseSeconds := by
  simp only [claimTaskLease] at wins
  split at wins
  · cases wins
  split at wins
  case isTrue claimable =>
    obtain rfl := Option.some.inj wins
    have due := claimable.2.1
    simp only [isDue, decide_eq_true_eq] at due
    exact ⟨due.2, rfl, rfl⟩
  case isFalse => cases wins

omit [DecidableEq Snapshot] in
theorem renew_wins {leaseSeconds : Int}
    (wins : renewTaskLease owner.name now leaseSeconds row = some next) :
    LeaseState.Locked row owner now ∧ next.column .lockOwner = owner.name ∧
      next.column .lockUntil = now + leaseSeconds := by
  simp only [renewTaskLease] at wins
  split at wins
  · cases wins
  split at wins
  case isTrue renewable =>
    obtain rfl := Option.some.inj wins
    obtain ⟨-, locked, -, unexpired⟩ := renewable
    exact ⟨⟨locked, unexpired⟩, locked, rfl⟩
  case isFalse => cases wins

omit [DecidableEq Snapshot] in
theorem release_wins {nextPollAt retryCount : Int}
    (wins : releaseTaskLease owner.name nextPollAt retryCount now row =
      some next) : row.column .lockOwner = owner.name := by
  simp only [releaseTaskLease] at wins
  split at wins
  · cases wins
  split at wins
  case isTrue locked => exact locked
  case isFalse => cases wins

variable {task : TaskView Snapshot} {fromStatus : TaskStatus} {written : Written Snapshot}

theorem updateAndLease_wins
    (wins : task.updateWithStatusAndLease fromStatus owner.name now now row = some written) :
    LeaseState.Locked row owner now ∧
      (task.isTerminal = false →
        written.row.column .lockOwner = row.column .lockOwner ∧
          written.row.column .lockUntil = row.column .lockUntil) := by
  obtain ⟨patched, won, rfl⟩ := Option.map_eq_some_iff.mp wins
  obtain ⟨guard, patch⟩ := updateWithStatusFrom_cases won
  have locked : LeaseState.Locked row owner now := by
    by_contra unlocked
    refine guard ⟨by simpa using owner.nonempty, owner.nonempty, ?_⟩
    by_contra neither
    obtain ⟨isOwner, unexpired⟩ := not_or.mp neither
    exact unlocked ⟨not_not.mp isOwner, not_le.mp unexpired⟩
  refine ⟨locked, ?_⟩
  intro running
  obtain rfl | rfl := patch
  · exact ⟨rfl, rfl⟩
  · have keeps : task.contents.column .status ≠ .success ∧
        task.contents.column .status ≠ .failure := by
      simpa [TaskView.isTerminal] using running
    simp only [Written.ofReload]
    rw [if_pos ⟨by simpa using owner.nonempty, keeps.1, keeps.2⟩]
    simp [TaskRow.updates, TaskUpdates.delete]

theorem updateIfUnlocked_wins
    (wins : task.updateWithStatusIfUnlocked fromStatus now now row = some written) :
    written.row = row ∨ row.column .lockOwner = "" ∨ row.column .lockUntil ≤ now := by
  simp only [TaskView.updateWithStatusIfUnlocked] at wins
  split at wins
  · cases wins
  split at wins
  · obtain rfl := Option.some.inj wins
    exact Or.inl rfl
  split at wins
  case isTrue unlocked => exact Or.inr unlocked
  case isFalse => cases wins

theorem cancel_wins
    (wins : applyImageTaskCancelBeforeExecution task fromStatus now now row = some written) :
    (row.column .lockOwner = "" ∨ row.column .lockUntil ≤ now) ∧
      row.column .syncSubmissionStartedAt ≤ 0 := by
  simp only [applyImageTaskCancelBeforeExecution] at wins
  split at wins
  · cases wins
  split at wins
  · cases wins
  case isFalse cancellable =>
    split at wins
    · cases wins
    split at wins
    case isTrue unlocked =>
      refine ⟨unlocked, ?_⟩
      by_contra marked
      refine cancellable (Or.inr ?_)
      exact if_pos (Or.inr (Or.inr (Or.inr (Or.inr (not_le.mp marked)))))
    case isFalse => cases wins

omit [DecidableEq Snapshot] in
theorem mark_wins {owner : Option LeaseOwner} {startedAt : Int}
    (wins : markImageTaskSyncSubmissionStarted
      (owner.elim "" LeaseOwner.name) now startedAt now row = some next) :
    (∀ holder ∈ owner, LeaseState.Locked row holder now) ∧ row.column .syncSubmissionStartedAt = 0 ∧
      0 < next.column .syncSubmissionStartedAt ∧
      next.column .lockOwner = row.column .lockOwner ∧
      next.column .lockUntil = row.column .lockUntil := by
  simp only [markImageTaskSyncSubmissionStarted, ite_self] at wins
  split at wins
  · cases wins
  case isFalse started =>
    split at wins
    case isTrue markable =>
      obtain ⟨-, -, unmarked, held⟩ := markable
      obtain rfl := Option.some.inj wins
      refine ⟨?_, unmarked, not_le.mp started, rfl, rfl⟩
      rintro holder ⟨⟩
      have isHeld : row.isHeldBy holder.name now = true := by
        rw [← holder.trimmed]
        exact held
      simpa [isHeldBy, holder.nonempty, LeaseState.Locked] using isHeld
    case isFalse => cases wins

end Guards

section Leases

variable {state next : LeaseState Snapshot}

variable {owner other : LeaseOwner} {expiry : Int}

omit [DecidableEq Snapshot] in
theorem lease_of_granted {granted : LeaseState Snapshot} {latest : Int}
    (grants : granted.grants = (owner, latest) :: state.grants)
    (leased : granted.lease other = some expiry) :
    (owner = other ∧ latest = expiry) ∨ (owner ≠ other ∧ state.lease other = some expiry) := by
  unfold LeaseState.lease at leased ⊢
  rw [grants, List.find?_cons] at leased
  by_cases same : owner = other
  · left
    simpa [same] using leased
  · right
    simpa [same] using leased

omit [DecidableEq Snapshot] in
theorem lease_of_ended {ended : LeaseState Snapshot}
    (grants : ended.grants = state.grants.filter fun grant => grant.1 ≠ owner)
    (leased : ended.lease other = some expiry) :
    other ≠ owner ∧ state.lease other = some expiry := by
  unfold LeaseState.lease at leased ⊢
  rw [grants, List.find?_filter] at leased
  by_cases same : other = owner
  · obtain ⟨grant, found, -⟩ := Option.map_eq_some_iff.mp leased
    have test := List.find?_some found
    simp [same] at test
  · refine ⟨same, ?_⟩
    have sameTest : ∀ grant : LeaseOwner × Int,
        (grant.1 ≠ owner ∧ grant.1 = other) ↔ grant.1 = other := by
      intro grant
      constructor
      · exact And.right
      · rintro rfl
        exact ⟨same, rfl⟩
    simpa only [decide_eq_true_eq, sameTest] using leased

variable {now : Int}

omit [DecidableEq Snapshot] in
theorem locked_of_lease (inStep : state.InStep) (later : state.clock ≤ now)
    (leased : state.lease owner = some expiry) (unexpired : now < expiry) :
    state.row.column .lockOwner = owner.name ∧ state.row.column .lockUntil = expiry :=
  inStep owner expiry leased (later.trans_lt unexpired)

omit [DecidableEq Snapshot] in
theorem owner_eq_of_locked (inStep : state.InStep) (later : state.clock ≤ now)
    (leased : state.lease other = some expiry) (unexpired : now < expiry)
    (locked : state.row.column .lockOwner = owner.name) : other = owner := by
  have names := (locked_of_lease inStep later leased unexpired).1
  exact LeaseOwner.ext_name (names.symm.trans locked)

omit [DecidableEq Snapshot] in
theorem not_leased_of_unlocked (inStep : state.InStep) (later : state.clock ≤ now)
    (unlocked : state.row.column .lockOwner = "" ∨ state.row.column .lockUntil ≤ now)
    (leased : state.lease owner = some expiry) : ¬ now < expiry := by
  intro unexpired
  obtain ⟨names, expiryIs⟩ := locked_of_lease inStep later leased unexpired
  rcases unlocked with blank | expired
  · exact owner.nonempty (names.symm.trans blank)
  · exact absurd (expiryIs ▸ expired) (not_le.mpr unexpired)

/-- One event keeps the row in step with what was granted. -/
theorem inStep_step_lease (inStep : state.InStep)
    (later : state.clock ≤ now) {event : LeaseEvent Snapshot}
    (stepped : state.step now event = some next) : next.InStep := by
  obtain ⟨row, wins, rfl⟩ := Option.map_eq_some_iff.mp stepped
  cases event with
  | claim owner leaseSeconds =>
    obtain ⟨due, ownerIs, untilIs⟩ := claim_wins wins
    intro other expiry leased unexpired
    rcases lease_of_granted rfl leased with ⟨rfl, rfl⟩ | ⟨-, leasedBefore⟩
    · exact ⟨ownerIs, untilIs⟩
    · exact absurd unexpired (not_leased_of_unlocked inStep later (Or.inr due) leasedBefore)
  | renew owner leaseSeconds =>
    obtain ⟨locked, ownerIs, untilIs⟩ := renew_wins wins
    intro other expiry leased unexpired
    rcases lease_of_granted rfl leased with ⟨rfl, rfl⟩ | ⟨isOther, leasedBefore⟩
    · exact ⟨ownerIs, untilIs⟩
    · exact absurd (owner_eq_of_locked inStep later leasedBefore unexpired locked.1).symm isOther
  | release owner nextPollAt retryCount =>
    have locked := release_wins wins
    intro other expiry leased unexpired
    obtain ⟨isOther, leasedBefore⟩ := lease_of_ended rfl leased
    exact absurd (owner_eq_of_locked inStep later leasedBefore unexpired locked) isOther
  | updateAndLease task fromStatus owner =>
    obtain ⟨written, won, rfl⟩ := Option.map_eq_some_iff.mp wins
    obtain ⟨locked, kept⟩ := updateAndLease_wins won
    intro other expiry leased unexpired
    simp only [LeaseState.record] at leased unexpired ⊢
    cases terminal : task.isTerminal with
    | true =>
      rw [terminal, if_pos rfl] at leased unexpired
      obtain ⟨isOther, leasedBefore⟩ := lease_of_ended rfl leased
      exact absurd (owner_eq_of_locked inStep later leasedBefore unexpired locked.1) isOther
    | false =>
      rw [terminal, if_neg (by simp)] at leased unexpired
      obtain ⟨sameOwner, sameUntil⟩ := kept terminal
      rw [if_neg (by simp)]
      rw [sameOwner, sameUntil]
      exact locked_of_lease inStep later leased unexpired
  | updateIfUnlocked task fromStatus =>
    obtain ⟨written, won, rfl⟩ := Option.map_eq_some_iff.mp wins
    intro other expiry leased unexpired
    rcases updateIfUnlocked_wins won with same | unlocked
    · simp only [LeaseState.record, same]
      exact locked_of_lease inStep later leased unexpired
    · exact absurd unexpired (not_leased_of_unlocked inStep later unlocked leased)
  | cancel task fromStatus =>
    obtain ⟨written, won, rfl⟩ := Option.map_eq_some_iff.mp wins
    intro other expiry leased unexpired
    exact absurd unexpired (not_leased_of_unlocked inStep later (cancel_wins won).1 leased)
  | mark owner startedAt =>
    obtain ⟨-, -, -, sameOwner, sameUntil⟩ := mark_wins wins
    intro other expiry leased unexpired
    simp only [LeaseState.record]
    rw [sameOwner, sameUntil]
    exact locked_of_lease inStep later leased unexpired

theorem inStep_leaseRun {start : LeaseState Snapshot} (initial : start.Initial)
    (run : Relation.ReflTransGen LeaseStep start state) : state.InStep := by
  induction run with
  | refl =>
    intro owner expiry leased
    rw [LeaseState.lease, initial.1] at leased
    cases leased
  | tail _ step ih =>
    obtain ⟨now, event, later, stepped⟩ := step
    exact inStep_step_lease ih later stepped

end Leases

end NewApi.TaskRows
