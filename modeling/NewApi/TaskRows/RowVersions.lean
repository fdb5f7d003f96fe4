import NewApi.TaskRows.HiddenChanges
import NewApi.TaskRows.RowWriters
import Mathlib.Logic.Relation

/-!
# Versions of a row

`Update` writes a whole object, and is meant to fail if the row has changed
since the object was loaded.  It compares `updated_at`, which is a version only
as long as every writer leaves it higher than it was.
-/

namespace NewApi.TaskRows

open NewApi.Tasks GoStrings TaskView

variable {Snapshot : Type} [DecidableEq Snapshot]

inductive RowWriter (Snapshot : Type) where
  | update (task : TaskView Snapshot)
  | updateWithStatus (task : TaskView Snapshot) (fromStatus : TaskStatus) (lockOwner : String)
  | updateWithStatusIfUnlocked (task : TaskView Snapshot) (fromStatus : TaskStatus)
  | claimTaskLease (owner : String) (leaseSeconds : Int)
  | renewTaskLease (owner : String) (leaseSeconds : Int)
  | releaseTaskLease (owner : String) (nextPollAt retryCount : Int)
  | updateTaskPrivateData (mutate : TaskPrivateData Snapshot → Option (TaskPrivateData Snapshot))
  | updateSettlementStatus (task : TaskView Snapshot) (fromStatus : TaskStatus)
      (fromSettlementStatus : TaskSettlementStatus)
  | forceTaskRefundable (task : TaskView Snapshot)
  | markSyncSubmissionStarted (owner : String) (startedAt : Int)

def RowWriter.run (stamp : Int → Int → Int) (now : Int)
    (row : TaskRow Snapshot) : RowWriter Snapshot → Option (TaskRow Snapshot)
  | .update task => (task.update stamp now row).map Written.row
  | .updateWithStatus task fromStatus lockOwner =>
    (task.updateWithStatusAndLease fromStatus lockOwner now now row).map Written.row
  | .updateWithStatusIfUnlocked task fromStatus =>
    (task.updateWithStatusIfUnlocked fromStatus now now row).map Written.row
  | .claimTaskLease owner leaseSeconds => TaskRows.claimTaskLease owner now leaseSeconds row
  | .renewTaskLease owner leaseSeconds => TaskRows.renewTaskLease owner now leaseSeconds row
  | .releaseTaskLease owner nextPollAt retryCount =>
    TaskRows.releaseTaskLease owner nextPollAt retryCount now row
  | .updateTaskPrivateData mutate => TaskRows.updateTaskPrivateData mutate now row
  | .updateSettlementStatus task fromStatus fromSettlementStatus =>
    (task.updateSettlementStatus fromStatus fromSettlementStatus now row).map Written.row
  | .forceTaskRefundable task =>
    some (task.forceTaskRefundableAfterSubmitAccountingFailure now row).row
  | .markSyncSubmissionStarted owner startedAt =>
    markImageTaskSyncSubmissionStarted owner now startedAt now row

/-- What the writer stores for `updated_at` is above the version of the row.
For patches and for `UpdateTaskPrivateData` this is always so. -/
def RowWriter.Advances (stamp : Int → Int → Int) (now : Int)
    (row : TaskRow Snapshot) : RowWriter Snapshot → Prop
  | .update task => row.updatedAt < stamp (nextTaskUpdatedAt task.updatedAt now) now
  | .updateWithStatus _ _ _ => True
  | .updateWithStatusIfUnlocked _ _ => True
  | .updateTaskPrivateData _ => True
  | .forceTaskRefundable task => row.updatedAt < nextTaskUpdatedAt task.updatedAt now
  | .claimTaskLease _ _ => row.updatedAt < now
  | .renewTaskLease _ _ => row.updatedAt < now
  | .releaseTaskLease _ _ _ => row.updatedAt < now
  | .updateSettlementStatus _ _ _ => row.updatedAt < now
  | .markSyncSubmissionStarted _ _ => row.updatedAt < now

theorem lt_nextTaskUpdatedAt (previous now : Int) : previous < nextTaskUpdatedAt previous now := by
  unfold nextTaskUpdatedAt
  split <;> omega

section Versions

variable {stamp : Int → Int → Int} {now : Int} {row next : TaskRow Snapshot}

theorem updateWithStatusFrom_version {base : Option (TaskContents Snapshot)}
    {candidate : TaskContents Snapshot} {taskUpdatedAt : Int}
    {fromStatus : TaskStatus} {lockOwner : String} {requireLease : Bool}
    (won : updateWithStatusFrom base candidate taskUpdatedAt fromStatus
      lockOwner now requireLease now row = some next) :
    next = row ∨ row.updatedAt < next.updatedAt := by
  obtain ⟨-, same | rfl⟩ := updateWithStatusFrom_cases won
  · exact Or.inl same
  · exact Or.inr (lt_nextTaskUpdatedAt _ _)

theorem updateWithStatusIfUnlocked_version {task : TaskView Snapshot}
    {fromStatus : TaskStatus} {written : Written Snapshot}
    (won : task.updateWithStatusIfUnlocked fromStatus now now row = some written) :
    written.row = row ∨ row.updatedAt < written.row.updatedAt := by
  simp only [updateWithStatusIfUnlocked] at won
  split at won
  · cases won
  split at won
  · obtain rfl := Option.some.inj won
    exact Or.inl rfl
  split at won
  · obtain rfl := Option.some.inj won
    exact Or.inr (lt_nextTaskUpdatedAt _ _)
  · cases won

/-- A writer that meets the condition leaves the row, or raises its version. -/
theorem RowWriter.version {writer : RowWriter Snapshot}
    (wins : writer.run stamp now row = some next) (advances : writer.Advances stamp now row) :
    next = row ∨ row.updatedAt < next.updatedAt := by
  cases writer with
  | update task =>
    obtain ⟨written, won, rfl⟩ := Option.map_eq_some_iff.mp wins
    simp only [TaskView.update] at won
    split at won
    · cases won
    obtain rfl := Option.some.inj won
    exact Or.inr advances
  | updateWithStatus task fromStatus lockOwner =>
    obtain ⟨written, won, rfl⟩ := Option.map_eq_some_iff.mp wins
    obtain ⟨next, patched, rfl⟩ := Option.map_eq_some_iff.mp won
    exact updateWithStatusFrom_version patched
  | updateWithStatusIfUnlocked task fromStatus =>
    obtain ⟨written, won, rfl⟩ := Option.map_eq_some_iff.mp wins
    exact updateWithStatusIfUnlocked_version won
  | claimTaskLease owner leaseSeconds =>
    obtain ⟨-, -, rfl⟩ := guarded_eq_some.mp wins
    exact Or.inr advances
  | renewTaskLease owner leaseSeconds =>
    obtain ⟨-, -, rfl⟩ := guarded_eq_some.mp wins
    exact Or.inr advances
  | releaseTaskLease owner nextPollAt retryCount =>
    obtain ⟨-, -, rfl⟩ := guarded_eq_some.mp wins
    exact Or.inr advances
  | updateTaskPrivateData mutate =>
    obtain ⟨privateData, -, rfl⟩ := Option.map_eq_some_iff.mp wins
    exact Or.inr (lt_nextTaskUpdatedAt _ _)
  | updateSettlementStatus task fromStatus fromSettlementStatus =>
    obtain ⟨written, won, rfl⟩ := Option.map_eq_some_iff.mp wins
    simp only [TaskView.updateSettlementStatus] at won
    split at won
    · cases won
    obtain rfl := Option.some.inj won
    exact Or.inr advances
  | forceTaskRefundable task =>
    obtain rfl := Option.some.inj wins
    exact Or.inr advances
  | markSyncSubmissionStarted owner startedAt =>
    simp only [run, markImageTaskSyncSubmissionStarted, ite_self] at wins
    obtain ⟨-, -, rfl⟩ := guarded_eq_some.mp wins
    exact Or.inr advances

end Versions

/-! ## Runs -/

/-- A row and one object that was loaded from it.  `foreign` says that another
writer has changed the row since. -/
structure VersionState (Snapshot : Type) where
  row : TaskRow Snapshot
  task : TaskView Snapshot
  clock : Int
  foreign : Prop

inductive OwnWrite where
  | update
  | updateWithStatus (fromStatus : TaskStatus) (lockOwner : String)
  | updateWithStatusIfUnlocked (fromStatus : TaskStatus)
  | updateSettlementStatus (fromStatus : TaskStatus) (fromSettlementStatus : TaskSettlementStatus)
  | forceTaskRefundable

def OwnWrite.run (stamp : Int → Int → Int) (task : TaskView Snapshot)
    (now : Int) (row : TaskRow Snapshot) :
    OwnWrite → Option (Written Snapshot)
  | .update => task.update stamp now row
  | .updateWithStatus fromStatus lockOwner =>
    task.updateWithStatusAndLease fromStatus lockOwner now now row
  | .updateWithStatusIfUnlocked fromStatus => task.updateWithStatusIfUnlocked fromStatus now now row
  | .updateSettlementStatus fromStatus fromSettlementStatus =>
    task.updateSettlementStatus fromStatus fromSettlementStatus now row
  | .forceTaskRefundable => some (task.forceTaskRefundableAfterSubmitAccountingFailure now row)

inductive VersionEvent (Snapshot : Type) where
  /-- Another writer. -/
  | other (writer : RowWriter Snapshot)
  /-- The owner changes the object. -/
  | mutate (contents : TaskContents Snapshot) (base : Option (TaskContents Snapshot))
  /-- The object is loaded. -/
  | load
  /-- A write through the object. -/
  | own (write : OwnWrite)

namespace VersionState

def load (state : VersionState Snapshot) : VersionState Snapshot :=
  { state with
    task :=
      { contents := state.row.toTaskContents
        base := some state.row.toTaskContents
        updatedAt := state.row.updatedAt }
    foreign := False }

def Loaded (state : VersionState Snapshot) : Prop := state = state.load

def wrote (state : VersionState Snapshot) (written : Written Snapshot) :
    VersionState Snapshot :=
  if written.baseline = .reloaded then
    { state with row := written.row }.load
  else
    { state with
      row := written.row
      task :=
        { state.task with
          contents := written.contents
          updatedAt := written.updatedAt } }

def step (stamp : Int → Int → Int) (state : VersionState Snapshot) (now : Int)
    (event : VersionEvent Snapshot) : Option (VersionState Snapshot) :=
  let state := { state with clock := now }
  match event with
  | .other writer =>
    (writer.run stamp now state.row).map fun row =>
      { state with row, foreign := state.foreign ∨ row ≠ state.row }
  | .mutate contents base => some { state with task := { state.task with contents, base } }
  | .load => some state.load
  | .own write => (write.run stamp state.task now state.row).map state.wrote

/-- Others raise the version; the object, where it is not loaded again, writes
only the version that it has. -/
def Meets (stamp : Int → Int → Int) (state : VersionState Snapshot)
    (now : Int) : VersionEvent Snapshot → Prop
  | .other writer => writer.Advances stamp now state.row
  | .own .update =>
    state.row.updatedAt = state.task.updatedAt ∧
      nextTaskUpdatedAt state.task.updatedAt now ≤
        stamp (nextTaskUpdatedAt state.task.updatedAt now) now
  | .own (.updateSettlementStatus _ _) => state.row.updatedAt = state.task.updatedAt
  | .own .forceTaskRefundable => state.row.updatedAt = state.task.updatedAt
  | _ => True

/-- The version of the object is not above that of the row, and below it if
somebody else has changed the row. -/
structure InStep (state : VersionState Snapshot) : Prop where
  below : state.task.updatedAt ≤ state.row.updatedAt
  foreign : state.foreign → state.task.updatedAt < state.row.updatedAt

end VersionState

def VersionStep (stamp : Int → Int → Int) (state next : VersionState Snapshot) : Prop :=
  ∃ now event, state.clock ≤ now ∧ state.step stamp now event = some next

def CleanStep (stamp : Int → Int → Int) (state next : VersionState Snapshot) : Prop :=
  ∃ now event, state.clock ≤ now ∧ state.Meets stamp now event ∧
    state.step stamp now event = some next

section Runs

variable {stamp : Int → Int → Int} {state next : VersionState Snapshot}

omit [DecidableEq Snapshot] in
theorem inStep_load (state : VersionState Snapshot) : state.load.InStep where
  below := le_rfl
  foreign := False.elim

/-- A write that loads the object again leaves it in step; another one found
the version of the object, and leaves both with the new one. -/
theorem inStep_own {write : OwnWrite} {now : Int}
    (inStep : state.InStep) (meets : state.Meets stamp now (.own write))
    {written : Written Snapshot}
    (succeeds : write.run stamp state.task now state.row = some written) :
    (VersionState.wrote { state with clock := now } written).InStep := by
  have unforeign : state.row.updatedAt = state.task.updatedAt → ¬ state.foreign := by
    intro same foreign
    exact absurd same (inStep.foreign foreign).ne'
  cases write with
  | update =>
    obtain ⟨same, stamped⟩ := meets
    simp only [OwnWrite.run, update] at succeeds
    split at succeeds
    · cases succeeds
    obtain rfl := Option.some.inj succeeds
    exact ⟨stamped, fun foreign => absurd foreign (unforeign same)⟩
  | updateWithStatus fromStatus lockOwner =>
    obtain ⟨patched, -, rfl⟩ := Option.map_eq_some_iff.mp succeeds
    exact inStep_load _
  | updateWithStatusIfUnlocked fromStatus =>
    simp only [OwnWrite.run, updateWithStatusIfUnlocked] at succeeds
    split at succeeds
    · cases succeeds
    split at succeeds
    · obtain rfl := Option.some.inj succeeds
      exact inStep_load _
    split at succeeds
    · obtain rfl := Option.some.inj succeeds
      exact inStep_load _
    · cases succeeds
  | updateSettlementStatus fromStatus fromSettlementStatus =>
    simp only [OwnWrite.run, updateSettlementStatus] at succeeds
    split at succeeds
    · cases succeeds
    obtain rfl := Option.some.inj succeeds
    exact ⟨le_rfl, fun foreign => absurd foreign (unforeign meets)⟩
  | forceTaskRefundable =>
    obtain rfl := Option.some.inj succeeds
    exact ⟨le_rfl, fun foreign => absurd foreign (unforeign meets)⟩

/-- A clean step keeps versions in step with contents. -/
theorem inStep_clean (inStep : state.InStep)
    (clean : CleanStep stamp state next) : next.InStep := by
  obtain ⟨now, event, -, meets, stepped⟩ := clean
  cases event with
  | other writer =>
    obtain ⟨row, wins, rfl⟩ := Option.map_eq_some_iff.mp stepped
    rcases RowWriter.version wins meets with rfl | raised
    · refine ⟨inStep.below, ?_⟩
      rintro (before | changed)
      · exact inStep.foreign before
      · exact absurd rfl changed
    · have above := inStep.below.trans_lt raised
      exact ⟨above.le, fun _ => above⟩
  | mutate contents base =>
    obtain rfl := Option.some.inj stepped
    exact ⟨inStep.below, inStep.foreign⟩
  | load =>
    obtain rfl := Option.some.inj stepped
    exact inStep_load _
  | own write =>
    obtain ⟨written, succeeds, rfl⟩ := Option.map_eq_some_iff.mp stepped
    exact inStep_own inStep meets succeeds

theorem inStep_cleanRun {start : VersionState Snapshot} (loaded : start.Loaded)
    (run : Relation.ReflTransGen (CleanStep stamp) start state) :
    state.InStep := by
  induction run with
  | refl =>
    rw [loaded]
    exact inStep_load _
  | tail _ clean ih => exact inStep_clean ih clean

end Runs

/-- In every run whose steps meet the condition, `Update` succeeds only if
nobody else has changed the row since the object was loaded. -/
theorem update_succeeds_without_foreign_changes (stamp : Int → Int → Int)
    (start state : VersionState Snapshot) (loaded : start.Loaded)
    (run : Relation.ReflTransGen (CleanStep stamp) start state) (now : Int)
    (positive : 0 < state.task.updatedAt) (written : Written Snapshot)
    (succeeds : state.task.update stamp now state.row = some written) :
    ¬ state.foreign := by
  intro foreign
  have below := (inStep_cleanRun loaded run).foreign foreign
  simp only [TaskView.update] at succeeds
  split at succeeds
  · cases succeeds
  case isFalse matching => exact matching ⟨positive, below.ne'⟩

def loadedVersion : VersionState RequestBody :=
  VersionState.load
    { row :=
        { requestRow.setColumn .platform taskPlatformImage with updatedAt := 100 }
      task := ⟨requestRow.toTaskContents, none, 0⟩
      clock := 100
      foreign := False }

theorem loadedVersion_loaded : loadedVersion.Loaded := rfl

def claimedRow (now : Int) : TaskRow RequestBody :=
  { (loadedVersion.row.setColumn .lockOwner "worker").setColumn .lockUntil
      (now + 60) with updatedAt := now }

/-- Somebody claims the task a second later, and the object is loaded again. -/
theorem update_succeeds_after_load :
    ∃ state : VersionState RequestBody, state.row = claimedRow 101 ∧
      (state.task.update (fun value _ => value) 102 state.row).isSome = true ∧ ¬ state.foreign := by
  let claimed : VersionState RequestBody :=
    { loadedVersion with
      row := claimedRow 101
      clock := 101
      foreign := False ∨ claimedRow 101 ≠ loadedVersion.row }
  have claims : CleanStep (fun value _ => value) loadedVersion claimed :=
    ⟨101, .other (.claimTaskLease "worker" 60), by decide, by
      simp only [VersionState.Meets, RowWriter.Advances]
      decide, rfl⟩
  have loads : CleanStep (fun value _ => value) claimed claimed.load :=
    ⟨101, .load, by decide, trivial, rfl⟩
  refine ⟨claimed.load, rfl, rfl, ?_⟩
  exact update_succeeds_without_foreign_changes (fun value _ => value)
    loadedVersion claimed.load loadedVersion_loaded
    (.tail (.single claims) loads) 102 (by decide) _ rfl

/-- A claim in the second of the last write leaves the version as it is, and
the lease is written over. -/
theorem claimed_row_is_overwritten :
    ¬ ∀ (stamp : Int → Int → Int) (start state : VersionState RequestBody),
      start.Loaded → Relation.ReflTransGen (VersionStep stamp) start state →
        ∀ now, state.clock ≤ now → 0 < state.task.updatedAt →
          ∀ written, state.task.update stamp now state.row = some written → ¬ state.foreign := by
  intro detects
  let claimed : VersionState RequestBody :=
    { loadedVersion with
      row := claimedRow 100
      clock := 100
      foreign := False ∨ claimedRow 100 ≠ loadedVersion.row }
  have claims : VersionStep (fun value _ => value) loadedVersion claimed :=
    ⟨100, .other (.claimTaskLease "worker" 60), by decide, rfl⟩
  have undetected := detects (fun value _ => value) loadedVersion claimed
    loadedVersion_loaded (.single claims) 101 (by decide) (by decide) _ rfl
  refine undetected (Or.inr ?_)
  intro same
  have owner : (claimedRow 100).column .lockOwner =
      loadedVersion.row.column .lockOwner := by rw [same]
  exact absurd owner (by decide)

end NewApi.TaskRows
