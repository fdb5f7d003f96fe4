import NewApi.TaskRows.TaskObjects

/-!
# Changes that the baseline hides

The baseline of a loaded task refers to the cells of the task.  What a worker
writes through a reference therefore changes both, and a patch finds no
difference there.  What is written in this way is stored exactly if the
baseline reads differently all the same.

The row that a call locks has been loaded too, and the private data that it
writes is marshalled.
-/

namespace NewApi.TaskRows

open NewApi.Tasks

variable {Snapshot : Type} [DecidableEq Snapshot]

def Task.baseline (memory : Memory Snapshot) (task : Task) :
    Option (TaskContents Snapshot) :=
  task.updateBase.map fun fields => fields.read memory

/-- `UpdateWithStatus`; it fails where the private data of its patch cannot be
marshalled. -/
def Task.updateWithStatus (json : RawJson) (memory : Memory Snapshot) (task : Task)
    (fromStatus : TaskStatus) (clock : Int) (current : TaskRow Snapshot) :
    Option (TaskRow Snapshot) :=
  let base := task.baseline memory
  let found := current.loaded json
  match updateWithStatusFrom base (task.read memory) task.updatedAt fromStatus "" 0 false
      clock found with
  | none => none
  | some next =>
    match (buildTaskUpdatePatch base found.toTaskContents (task.read memory)).1.privateData with
    | none => some { next with privateData := current.privateData }
    | some _ => (json.marshal next.privateData).map fun privateData => { next with privateData }

def TaskContents.stored (contents : TaskContents Snapshot) :
    TaskContents Snapshot :=
  { contents with privateData := fun field => field.kind.stored (contents.privateData field) }

omit [DecidableEq Snapshot] in
theorem stored_contents (contents : TaskContents Snapshot) : contents.stored.Stored :=
  fun field => field.kind.stored_stored _

omit [DecidableEq Snapshot] in
theorem part_stored (contents : TaskContents Snapshot) (part : TaskPart) :
    contents.stored.part part = part.stored (contents.part part) := by
  cases part with
  | column name => rfl
  | field name plain => rfl
  | artifact key => exact entry_storedArtifacts Snapshot _ key
  | header key => exact entry_storedHeaders Snapshot _ key

omit [DecidableEq Snapshot] in
theorem stored_part {contents : TaskContents Snapshot}
    (stored : contents.Stored) (part : TaskPart) :
    part.stored (contents.part part) = contents.part part := by
  cases part with
  | column name => rfl
  | field name plain => exact stored name
  | artifact key => rfl
  | header key => rfl

theorem updateWithStatusFrom_wins (base candidate : TaskContents Snapshot)
    {row : TaskRow Snapshot} (stored : row.Stored) {status : TaskStatus}
    (fromStatus : row.column .status = status) (taskUpdatedAt clock : Int) :
    ∃ next, updateWithStatusFrom (some base) candidate taskUpdatedAt status ""
        0 false clock row = some next ∧
      next.Stored ∧
      ∀ part : TaskPart, part.Merged (row.part part) (base.part part)
        (candidate.part part) (next.part part) := by
  simp only [updateWithStatusFrom, fromStatus, ne_eq, not_true_eq_false,
    if_false, Bool.false_eq_true, false_and, reduceCtorEq]
  cases applied : (buildTaskUpdatePatch (some base) row.toTaskContents candidate).2 with
  | false =>
    refine ⟨row, rfl, stored, ?_⟩
    intro part
    have same := part_eq_of_noPatch applied part
    exact ⟨fun _ => rfl, fun differs => absurd same differs⟩
  | true =>
    exact ⟨_, rfl, stored_updates stored _, part_patch stored _⟩

/-- A call that locks a row with a compact `plugin_state` leaves one. -/
theorem compact_of_updateWithStatus {json : RawJson} {memory : Memory Snapshot} {task : Task}
    {fromStatus : TaskStatus} {clock : Int} {current next : TaskRow Snapshot}
    (compact : current.Compact json)
    (won : task.updateWithStatus json memory fromStatus clock current = some next) :
    next.Compact json := by
  simp only [Task.updateWithStatus] at won
  split at won
  · cases won
  · split at won
    · obtain rfl := Option.some.inj won
      exact compact
    · obtain ⟨privateData, marshals, rfl⟩ := Option.map_eq_some_iff.mp won
      exact compact_of_marshal marshals

omit [DecidableEq Snapshot] in
theorem compact_stored_iff {json : RawJson} {contents : TaskContents Snapshot} :
    contents.stored.Compact json ↔ contents.Compact json := by
  have same : contents.stored.privateData .pluginState =
      @FieldKind.stored Snapshot .raw (contents.privateData .pluginState) := rfl
  rw [compact_iff, compact_iff, same]
  cases contents.privateData .pluginState with
  | none => exact Iff.rfl
  | some message =>
    cases message with
    | nil => exact ⟨fun _ => rfl, fun _ => rfl⟩
    | cons byte rest => exact Iff.rfl

/-- A patch without private data leaves the private data of the row. -/
theorem updateWithStatusFrom_privateData {base candidate : TaskContents Snapshot}
    {taskUpdatedAt clock : Int} {status : TaskStatus} {row next : TaskRow Snapshot}
    (won : updateWithStatusFrom (some base) candidate taskUpdatedAt status "" 0 false clock row =
      some next)
    (unpatched : (buildTaskUpdatePatch (some base) row.toTaskContents candidate).1.privateData =
      none) : next.privateData = row.privateData := by
  simp only [updateWithStatusFrom, Bool.false_eq_true, false_and, if_false, reduceCtorEq] at won
  split at won
  · cases won
  split at won
  · obtain rfl := Option.some.inj won
    rfl
  · obtain rfl := Option.some.inj won
    funext field
    simp only [TaskRow.updates, unpatched]

/-- Between compact rows a call does what the patch does. -/
theorem updateWithStatus_eq {json : RawJson} {memory : Memory Snapshot} {task : Task}
    {base : TaskContents Snapshot} {status : TaskStatus} {clock : Int}
    {current next : TaskRow Snapshot} (reads : task.baseline memory = some base)
    (compact : current.Compact json) (nextCompact : next.Compact json)
    (won : updateWithStatusFrom (some base) (task.read memory) task.updatedAt status "" 0 false
      clock current = some next) :
    task.updateWithStatus json memory status clock current = some next := by
  simp only [Task.updateWithStatus, reads, loaded_eq_of_compact compact, won]
  split
  case h_1 unpatched => rw [← updateWithStatusFrom_privateData won unpatched]
  case h_2 =>
    have marshals : json.marshal next.privateData = some next.privateData := nextCompact
    rw [marshals, Option.map_some]

/-- A worker that has loaded a row into an object, and what it has done to the
object since. -/
structure LoadedTask (json : RawJson) (row : TaskRow Snapshot) where
  scanned : Task
  scannedMemory : Memory Snapshot
  scans : scanned.Scans scannedMemory row
  room : scanned.Room json scannedMemory
  mutations : List (Mutation Snapshot)

namespace LoadedTask

variable {json : RawJson} {row : TaskRow Snapshot}

def state (worker : LoadedTask json row) : Memory Snapshot × Task :=
  Mutation.runAll (worker.scanned.afterFind json worker.scannedMemory) worker.mutations

def contents (worker : LoadedTask json row) : TaskContents Snapshot :=
  worker.state.2.read worker.state.1

def updateWithStatus (worker : LoadedTask json row) (fromStatus : TaskStatus)
    (clock : Int) (current : TaskRow Snapshot) : Option (TaskRow Snapshot) :=
  worker.state.2.updateWithStatus json worker.state.1 fromStatus clock current

def Changes (worker : LoadedTask json row) (part : TaskPart) : Prop :=
  part.stored (worker.contents.part part) ≠ row.part part

def Shows (worker : LoadedTask json row) (part : TaskPart) : Prop :=
  ∀ base ∈ worker.state.2.baseline worker.state.1, worker.contents.part part ≠ base.part part

omit [DecidableEq Snapshot] in
theorem baseline_eq (worker : LoadedTask json row) (compact : row.Compact json) :
    worker.state.2.baseline worker.state.1 =
      some (worker.scanned.toTaskFields.read worker.state.1) := by
  have scanned : (worker.scanned.read worker.scannedMemory).Compact json := by
    rw [worker.scans.contents]
    exact compact
  have kept : worker.state.2.updateBase = some worker.scanned.toTaskFields := by
    refine (runAll_updateBase _ _).trans ?_
    rw [afterFind_eq worker.room scanned]
  rw [Task.baseline, kept, Option.map_some]

omit [DecidableEq Snapshot] in
/-- A worker that has not written through references shows its changes. -/
theorem shows_of_unwritten {worker : LoadedTask json row} (stored : row.Stored)
    (compact : row.Compact json) (unwritten : worker.state.1 = worker.scannedMemory)
    {part : TaskPart} (changes : worker.Changes part) : worker.Shows part := by
  have baseline := worker.baseline_eq compact
  rw [unwritten, worker.scans.contents] at baseline
  intro base reads same
  rw [unwritten, baseline] at reads
  obtain rfl := Option.mem_some_iff.mp reads
  refine changes ?_
  rw [same]
  exact stored_part stored part

theorem updateWithStatus_wins (worker : LoadedTask json row) (compact : row.Compact json)
    (contentsCompact : worker.contents.Compact json) {current : TaskRow Snapshot}
    (stored : current.Stored) (currentCompact : current.Compact json)
    {status : TaskStatus} (fromStatus : current.column .status = status) (clock : Int) :
    ∃ next, worker.updateWithStatus status clock current = some next ∧
      next.Stored ∧ next.Compact json ∧
      ∀ part, (¬ worker.Shows part → next.part part = current.part part) ∧
        (worker.Shows part → next.part part = part.stored (worker.contents.part part)) := by
  obtain ⟨next, won, nextStored, merged⟩ :=
    updateWithStatusFrom_wins
      (worker.scanned.toTaskFields.read worker.state.1) worker.contents stored
      fromStatus worker.state.2.updatedAt clock
  have written : ∀ part, (¬ worker.Shows part → next.part part = current.part part) ∧
      (worker.Shows part → next.part part = part.stored (worker.contents.part part)) := by
    intro part
    have shows : worker.Shows part ↔ worker.contents.part part ≠
        (worker.scanned.toTaskFields.read worker.state.1).part part := by
      rw [Shows, worker.baseline_eq compact]
      simp only [Option.mem_some_iff, forall_eq']
    rw [shows, not_not]
    exact merged part
  -- The message of the next row is the object's, or stays that of the row.
  have nextCompact : next.Compact json := by
    let message : TaskPart := .field .pluginState rfl
    by_cases shows : worker.Shows message
    · have same : next.privateData .pluginState = worker.contents.stored.privateData .pluginState :=
        (written message).2 shows
      rw [compact_iff, same, ← compact_iff]
      exact compact_stored_iff.mpr contentsCompact
    · have same : next.privateData .pluginState = current.privateData .pluginState :=
        (written message).1 shows
      rw [compact_iff, same, ← compact_iff]
      exact currentCompact
  exact ⟨next, updateWithStatus_eq (worker.baseline_eq compact) currentCompact nextCompact won,
    nextStored, nextCompact, written⟩

end LoadedTask

abbrev RequestBody := Option String

def ColumnKind.initial : (kind : ColumnKind) → kind.Value
  | .text => ""
  | .int => 0
  | .bool => false
  | .status => .inProgress
  | .settlementStatus => .unset
  | .properties => {}

def FieldKind.nil : (kind : FieldKind) → kind.Handle
  | .text => ""
  | .int => 0
  | .bool => false
  | .raw => none
  | .slice => none
  | .headers => none
  | .artifacts => none
  | .pointer => none

def requestRow : TaskRow RequestBody where
  column := fun column => column.kind.initial
  privateData := Function.update (fun field => field.kind.zero)
    .billingRequestInput (some (some "a prompt"))
  id := 1
  createdAt := 0
  updatedAt := 0

def requestMemory : Memory RequestBody where
  cell
    | .raw => fun _ => []
    | .slice => fun _ => []
    | .headers => fun _ => GoMap.empty
    | .artifacts => fun _ => GoMap.empty
    | .pointer => fun _ => some "a prompt"
    | .text => fun _ => ()
    | .int => fun _ => ()
    | .bool => fun _ => ()
  next := 1

def requestTask : Task where
  column := fun column => column.kind.initial
  privateData := Function.update (fun field => field.kind.nil) .billingRequestInput (some 0)
  id := 1
  createdAt := 0
  updatedAt := 0
  updateBase := none

theorem requestTask_scans : requestTask.Scans requestMemory requestRow where
  contents := by
    simp only [TaskFields.read, requestTask, requestRow]
    congr 1
    funext field
    cases field <;> rfl
  updatedAt := rfl

theorem requestRow_stored : requestRow.Stored := by
  intro field
  by_cases same : field = .billingRequestInput
  · subst same
    rfl
  · simp only [requestRow, Function.update_of_ne same, FieldKind.stored_zero]

/-- An encoder for the rows without a `plugin_state`. -/
def noMessages : RawJson where
  compact := fun _ => none
  compact_compact := by
    intro message compacted absurdly
    cases absurdly
  capacity := List.length

theorem requestTask_room : requestTask.Room noMessages requestMemory where
  fits := by
    intro slice absurdly
    cases absurdly
  capacity := by
    intro slice absurdly
    cases absurdly
  taken := by
    intro slice absurdly
    cases absurdly

theorem requestRow_compact : requestRow.Compact noMessages := (compact_iff ..).mpr rfl

def requestWorker (mutations : List (Mutation RequestBody)) :
    LoadedTask noMessages requestRow where
  scanned := requestTask
  scannedMemory := requestMemory
  scans := requestTask_scans
  room := requestTask_room
  mutations := mutations

theorem requestWorker_state (mutations : List (Mutation RequestBody)) :
    (requestWorker mutations).state = Mutation.runAll (requestMemory,
      { requestTask with updateBase := some requestTask.toTaskFields }) mutations := by
  have scanned : (requestTask.read requestMemory).Compact noMessages := by
    rw [requestTask_scans.contents]
    exact requestRow_compact
  exact congrArg (Mutation.runAll · mutations) (afterFind_eq requestTask_room scanned)

end NewApi.TaskRows
