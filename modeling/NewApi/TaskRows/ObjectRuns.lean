import NewApi.TaskRows.HiddenChanges
import NewApi.TaskRows.ObjectWrites
import Mathlib.Logic.Relation

/-!
# Writing through one object again and again

An object is loaded, changed and written, over and over, while others write
the row.  As long as every write has loaded the object again, a patch has in
it what the owner has changed since; after other writes the object keeps a
baseline that is older than itself.
-/

namespace NewApi.TaskRows

open NewApi.Tasks

variable {Snapshot : Type} [DecidableEq Snapshot]

/-- An object and its row.  `touched` are the fields that the owner has changed
since the last successful write, or since the object was loaded; `stale` says
that this write has not loaded the object again. -/
structure ObjectState (Snapshot : Type) where
  memory : Memory Snapshot
  task : Task
  row : TaskRow Snapshot
  touched : Set TaskField
  stale : Bool

namespace ObjectState

def view (state : ObjectState Snapshot) : TaskView Snapshot where
  contents := state.task.read state.memory
  base := state.task.baseline state.memory
  updatedAt := state.task.updatedAt

def Altered (before after : Memory Snapshot × Task) : Set TaskField
  | .column name => after.2.column name ≠ before.2.column name
  | .privateData name =>
    after.2.privateData name ≠ before.2.privateData name ∨
      after.1.read name.kind (after.2.privateData name) ≠
        before.1.read name.kind (before.2.privateData name)

def mutate (state : ObjectState Snapshot) (mutation : Mutation Snapshot) :
    ObjectState Snapshot :=
  let changed := mutation.run (state.memory, state.task)
  { state with
    memory := changed.1
    task := changed.2
    touched := state.touched ∪ Altered (state.memory, state.task) changed }

structure Loaded (state : ObjectState Snapshot) : Prop where
  stored : state.row.Stored
  scans : state.task.Scans state.memory state.row
  baseline : state.task.updateBase = some state.task.toTaskFields
  untouched : state.touched = ∅
  fresh : state.stale = false

/-- The object after a write, wherever its references now point to. -/
structure Holds (state : ObjectState Snapshot) (written : Written Snapshot)
    (memory : Memory Snapshot) (task : Task) : Prop where
  contents : task.read memory = written.contents
  updatedAt : task.updatedAt = written.updatedAt
  reloaded : written.baseline = .reloaded → task.updateBase = some task.toTaskFields
  before : written.baseline = .before → task.baseline memory = some state.row.toTaskContents
  kept : written.baseline = .kept → task.baseline memory = state.task.baseline state.memory

end ObjectState

/-- The owner changes the object, somebody else writes the row, or a write
through the object succeeds. -/
inductive ObjectStep (stamp : Int → Int → Int) :
    ObjectState Snapshot → ObjectState Snapshot → Prop
  | mutate (state : ObjectState Snapshot) (mutation : Mutation Snapshot) :
      ObjectStep stamp state (state.mutate mutation)
  | other (state : ObjectState Snapshot) (row : TaskRow Snapshot)
      (stored : row.Stored) : ObjectStep stamp state { state with row }
  | write (state : ObjectState Snapshot) (write : ObjectWrite) (clock : Int)
      (written : Written Snapshot)
      (succeeds : write.run stamp state.view clock state.row = some written)
      (memory : Memory Snapshot) (task : Task)
      (holds : state.Holds written memory task) :
      ObjectStep stamp state
        { memory
          task
          row := written.row
          touched := ∅
          stale := written.baseline ≠ .reloaded }

/-- The write is a patch, and the last one has loaded the object again; or it
takes from the object, of the fields that the owner has not changed since,
only such as the row has. -/
def ObjectState.Meets (state : ObjectState Snapshot) (write : ObjectWrite) :
    Prop :=
  (write.patches = true ∧ state.stale = false) ∨
    ∀ field, field ∉ state.touched →
      write.Carries state.view state.row field →
        state.row.value field = field.stored (state.view.contents.value field)

/-- Fields that have not been touched refer to what the baseline refers to. -/
structure ObjectState.InStep (state : ObjectState Snapshot) : Prop where
  stored : state.row.Stored
  shares : state.stale = false →
    ∃ base, state.task.updateBase = some base ∧
      (∀ name, TaskField.column name ∉ state.touched → state.task.column name = base.column name) ∧
      ∀ name, TaskField.privateData name ∉ state.touched →
        state.task.privateData name = base.privateData name

section Steps

variable {stamp : Int → Int → Int} {state next : ObjectState Snapshot}

omit [DecidableEq Snapshot] in
theorem inStep_of_loaded (loaded : state.Loaded) : state.InStep where
  stored := loaded.stored
  shares := fun _ => ⟨_, loaded.baseline, fun _ _ => rfl, fun _ _ => rfl⟩

omit [DecidableEq Snapshot] in
theorem inStep_mutate (inStep : state.InStep) (mutation : Mutation Snapshot) :
    (state.mutate mutation).InStep where
  stored := inStep.stored
  shares := by
    intro fresh
    obtain ⟨base, hasBase, columns, fields⟩ := inStep.shares fresh
    refine ⟨base, ?_, ?_, ?_⟩
    · rw [← hasBase]
      exact runAll_updateBase (state.memory, state.task) [mutation]
    · intro name untouched
      obtain ⟨before, same⟩ := not_or.mp untouched
      exact (not_not.mp same).trans (columns name before)
    · intro name untouched
      obtain ⟨before, same⟩ := not_or.mp untouched
      exact (not_not.mp (not_or.mp same).1).trans (fields name before)

theorem inStep_step (inStep : state.InStep) (step : ObjectStep stamp state next) : next.InStep := by
  cases step with
  | mutate mutation => exact inStep_mutate inStep mutation
  | other row stored => exact ⟨stored, inStep.shares⟩
  | write write clock written succeeds memory task holds =>
    refine ⟨write.stored inStep.stored succeeds, ?_⟩
    intro fresh
    have reloaded : written.baseline = .reloaded := by simpa using fresh
    exact ⟨_, holds.reloaded reloaded, fun _ _ => rfl, fun _ _ => rfl⟩

theorem inStep_run (loaded : state.Loaded)
    (run : Relation.ReflTransGen (ObjectStep stamp) state next) :
    next.InStep := by
  induction run with
  | refl => exact inStep_of_loaded loaded
  | tail _ step ih => exact inStep_step ih step

omit [DecidableEq Snapshot] in
/-- In an object that is in step, only fields that have been touched differ
from the baseline. -/
theorem touched_of_differs (inStep : state.InStep) (fresh : state.stale = false)
    {field : TaskField} (differs : state.view.Differs field) :
    field ∈ state.touched := by
  obtain ⟨base, hasBase, columns, fields⟩ := inStep.shares fresh
  by_contra untouched
  refine differs (base.read state.memory) ?_ ?_
  · simp only [ObjectState.view, Task.baseline, hasBase, Option.map_some, Option.mem_some_iff]
  · cases field with
    | column name => exact columns name untouched
    | privateData name =>
      simp only [ObjectState.view, TaskContents.value, TaskFields.read, fields name untouched]

end Steps

/-- In every run of an object, a write that meets the condition changes only
fields that the owner has changed since the last one. -/
theorem writes_change_touched_fields (stamp : Int → Int → Int)
    (start state : ObjectState Snapshot) (loaded : start.Loaded)
    (run : Relation.ReflTransGen (ObjectStep stamp) start state)
    (write : ObjectWrite) (clock : Int) (written : Written Snapshot)
    (succeeds : write.run stamp state.view clock state.row = some written)
    (meets : state.Meets write) (field : TaskField)
    (changed : written.row.value field ≠ state.row.value field) :
    field ∈ state.touched := by
  have inStep := inStep_run loaded run
  by_contra untouched
  refine changed (write.frame inStep.stored succeeds ?_)
  intro carries
  rcases meets with ⟨patches, fresh⟩ | inRow
  · have differs : state.view.Differs field := by
      cases write with
      | updateWithStatus fromStatus lockOwner now => exact carries.1
      | updateWithStatusIfUnlocked fromStatus now => exact carries
      | _ => cases patches
    exact absurd (touched_of_differs inStep fresh differs) untouched
  · exact inRow field untouched carries

def loadedState : ObjectState RequestBody where
  memory := requestMemory
  task := { requestTask with updateBase := some requestTask.toTaskFields }
  row := requestRow
  touched := ∅
  stale := false

theorem loadedState_loaded : loadedState.Loaded where
  stored := requestRow_stored
  scans := ⟨requestTask_scans.contents, rfl⟩
  baseline := rfl
  untouched := rfl
  fresh := rfl

def timedOut : ObjectState RequestBody := loadedState.mutate (.setColumn .failReason "timed out")

def repricedRow : TaskRow RequestBody := requestRow.setColumn .quota 9

/-- Somebody else has written the quota between the change and the patch; the
patch brings in the reason and leaves the quota. -/
theorem patch_changes_touched_fields :
    ∃ written, (ObjectWrite.updateWithStatus .inProgress "" 0).run (fun value _ => value)
        timedOut.view 60 repricedRow = some written ∧
      (∀ field, written.row.value field ≠ repricedRow.value field → field ∈ timedOut.touched) ∧
      written.row.column .failReason = "timed out" ∧ written.row.column .quota = 9 := by
  let state : ObjectState RequestBody := { timedOut with row := repricedRow }
  have stored : repricedRow.Stored := requestRow_stored
  obtain ⟨next, won, -, merged⟩ := updateWithStatusFrom_wins
    (requestTask.toTaskFields.read requestMemory) state.view.contents
    stored rfl state.view.updatedAt 60
  have succeeds : (ObjectWrite.updateWithStatus .inProgress "" 0).run
      (fun value _ => value) state.view 60 repricedRow = some (Written.ofReload next) :=
    congrArg (Option.map Written.ofReload) won
  have run : Relation.ReflTransGen (ObjectStep fun value _ => value) loadedState state :=
    .tail (.single (.mutate _ _)) (.other timedOut repricedRow stored)
  have touched := writes_change_touched_fields (fun value _ => value) loadedState state
    loadedState_loaded run _ 60 _ succeeds (Or.inl ⟨rfl, rfl⟩)
  refine ⟨Written.ofReload next, succeeds, touched, ?_, ?_⟩
  · exact (merged (.column .failReason)).2 (by decide)
  · by_contra repriced
    have changed : (Written.ofReload next).row.value (.column .quota) ≠
        repricedRow.value (.column .quota) := repriced
    rcases touched (.column .quota) changed with before | assigned
    · cases before
    · exact assigned rfl

/-- The quota that `UpdateQuota` has written is written again by the next
patch, over what somebody else has written in between. -/
theorem quota_is_written_again :
    ¬ ∀ (stamp : Int → Int → Int) (start state : ObjectState RequestBody),
      start.Loaded → Relation.ReflTransGen (ObjectStep stamp) start state →
        ∀ (write : ObjectWrite) (clock : Int) (written : Written RequestBody),
          write.run stamp state.view clock state.row = some written →
            ∀ field, written.row.value field ≠ state.row.value field → field ∈ state.touched := by
  intro honest
  let stamp : Int → Int → Int := fun value _ => value
  let charged := loadedState.mutate (.setColumn .quota 5)
  let written := charged.view.updateTaskSettlementFields 60 requestRow
  let task : Task :=
    { charged.task with
      column := written.contents.column
      updatedAt := written.updatedAt }
  have privateData : written.contents.privateData =
      (requestTask.read requestMemory).privateData := by
    funext field
    cases field <;> rfl
  have contents : task.read requestMemory = written.contents := by
    calc task.read requestMemory
        = ⟨written.contents.column, (requestTask.read requestMemory).privateData⟩ := rfl
      _ = written.contents := by rw [← privateData]
  have holds : charged.Holds written requestMemory task :=
    { contents
      updatedAt := rfl
      reloaded := by
        intro reloaded
        cases reloaded
      before := by
        intro before
        cases before
      kept := fun _ => rfl }
  let changed := written.row.setColumn .quota 9
  have charges : ObjectWrite.updateSettlementFields.run stamp charged.view 60
      requestRow = some written := rfl
  have changedStored : changed.Stored := ObjectWrite.stored requestRow_stored charges
  have changedStatus : changed.column .status = .inProgress := rfl
  let state : ObjectState RequestBody :=
    { memory := requestMemory, task, row := changed, touched := ∅, stale := true }
  have run : Relation.ReflTransGen (ObjectStep stamp) loadedState state := by
    refine .tail (.tail (.single (.mutate _ (.setColumn .quota 5)))
      (.write charged .updateSettlementFields 60 written charges requestMemory task holds)) ?_
    exact .other _ changed changedStored
  obtain ⟨next, won, -, merged⟩ := updateWithStatusFrom_wins
    (requestTask.toTaskFields.read requestMemory) state.view.contents
    changedStored changedStatus state.view.updatedAt 60
  have succeeds : (ObjectWrite.updateWithStatus .inProgress "" 0).run stamp
      state.view 60 state.row = some (Written.ofReload next) :=
    congrArg (Option.map Written.ofReload) won
  have quota : next.column .quota = 5 := (merged (.column .quota)).2 (by decide)
  have again := honest stamp loadedState state loadedState_loaded run _ 60 _
    succeeds (.column .quota)
  refine again ?_
  simp only [TaskContents.value, Written.ofReload, quota]
  decide

end NewApi.TaskRows
