import NewApi.TaskRows.TaskRow

/-!
# Task patches

`UpdateWithStatus` writes what has changed between the baseline of a task
object and the object, under the lock of the row: columns one by one, private
fields one by one, and the two maps among them key by key.

A row is therefore the sum of its parts, and on each part a patch is the same
three-way merge.
-/

namespace NewApi.TaskRows

open NewApi.Tasks TaskContents GoMap TaskRow FieldKind

section Maps

variable {ν : Type} [DecidableEq ν]

def entry (map : Option (GoMap String ν)) (key : String) : Option ν := map.bind (·.get key)

/-- `mergeTaskStringMap` and `mergeTaskArtifactRefs`, whose loops treat every
key by itself. -/
def mergeTaskMap (current base candidate : Option (GoMap String ν)) :
    Option (GoMap String ν) :=
  if base = candidate then current
  else
    let keys := (current.elim ∅ GoMap.keys) ∪ (candidate.elim ∅ GoMap.keys)
    let merged := GoMap.tabulate keys fun key =>
      match entry base key, entry candidate key with
      | some _, none => none
      | some old, some new => if old = new then entry current key else some new
      | none, some new => some new
      | none, none => entry current key
    if merged.isEmpty then none else some merged

end Maps

variable {Snapshot : Type} [DecidableEq Snapshot]

def mergeTaskPrivateData (current base candidate : TaskPrivateData Snapshot) :
    TaskPrivateData Snapshot
  | .artifactRefs =>
    if base .artifactRefs = candidate .artifactRefs then current .artifactRefs
    else
      mergeTaskMap (current .artifactRefs) (base .artifactRefs) (candidate .artifactRefs)
  | .requestHeaders =>
    if base .requestHeaders = candidate .requestHeaders then current .requestHeaders
    else
      mergeTaskMap (current .requestHeaders) (base .requestHeaders) (candidate .requestHeaders)
  | field =>
    if base field = candidate field then current field else candidate field

structure TaskUpdates (Snapshot : Type) where
  column : (column : TaskColumn) → Option column.Value
  privateData : Option (TaskPrivateData Snapshot)

def TaskUpdates.delete (updates : TaskUpdates Snapshot) (column : TaskColumn) :
    TaskUpdates Snapshot :=
  { updates with column := Function.update updates.column column none }

def buildTaskUpdatePatch (base : Option (TaskContents Snapshot))
    (current candidate : TaskContents Snapshot) :
    TaskUpdates Snapshot × Bool :=
  match base with
  | none =>
    ({ column := fun column => some (candidate.column column)
       privateData := some candidate.privateData }, true)
  | some base =>
    let changed := PrivateField.all.any fun field =>
      candidate.privateData field ≠ base.privateData field
    let updates : TaskUpdates Snapshot :=
      { column := fun column =>
          if candidate.column column ≠ base.column column then some (candidate.column column)
          else none
        privateData :=
          if changed then
            some (mergeTaskPrivateData current.privateData base.privateData candidate.privateData)
          else none }
    (updates, changed || TaskColumn.all.any fun column => (updates.column column).isSome)

def TaskRow.updates (row : TaskRow Snapshot) (updates : TaskUpdates Snapshot)
    (updatedAt : Int) : TaskRow Snapshot :=
  { row with
    column := fun column => (updates.column column).getD (row.column column)
    privateData := fun field =>
      match updates.privateData with
      | none => row.privateData field
      | some privateData => field.kind.stored (privateData field)
    updatedAt }

def TaskContents.Stored (contents : TaskContents Snapshot) : Prop :=
  ∀ field : PrivateField,
    field.kind.stored (contents.privateData field) = contents.privateData field

def PrivateField.isMap : PrivateField → Bool
  | .artifactRefs => true
  | .requestHeaders => true
  | _ => false

theorem PrivateField.eq_of_isMap {field : PrivateField} (isMap : field.isMap = true) :
    field = .artifactRefs ∨ field = .requestHeaders := by
  cases field <;> first | exact Or.inl rfl | exact Or.inr rfl | cases isMap

/-- What a patch writes or leaves: a column, a private field or a key of one
of the maps. -/
inductive TaskPart where
  | column (column : TaskColumn)
  | field (field : PrivateField) (plain : field.isMap = false)
  | artifact (key : String)
  | header (key : String)
deriving DecidableEq

abbrev TaskPart.Value (Snapshot : Type) : TaskPart → Type
  | .column name => name.Value
  | .field name _ => name.Value Snapshot
  | .artifact _ => Option TaskArtifactStorageRef
  | .header _ => Option String

def TaskContents.part (contents : TaskContents Snapshot) :
    (part : TaskPart) → part.Value Snapshot
  | .column name => contents.column name
  | .field name _ => contents.privateData name
  | .artifact key => entry (contents.privateData .artifactRefs) key
  | .header key => entry (contents.privateData .requestHeaders) key

def TaskPart.stored : (part : TaskPart) → part.Value Snapshot →
    part.Value Snapshot
  | .column _, value => value
  | .field name _, value => name.kind.stored value
  | .artifact _, value => value
  | .header _, value => value

/-! ### Merging part by part -/

section Entries

variable {ν : Type}

@[simp]
theorem entry_none (key : String) : entry (none : Option (GoMap String ν)) key = none := rfl

@[simp]
theorem entry_some (map : GoMap String ν) (key : String) : entry (some map) key = map.get key := rfl

theorem entry_readBack (map : Option (GoMap String ν)) (key : String) :
    entry (if map.elim true (·.isEmpty) = true then none else map) key = entry map key := by
  cases map with
  | none => rfl
  | some map =>
    cases blank : map.isEmpty with
    | false => simp [blank]
    | true => simp [blank, isEmpty_iff.mp blank key]

theorem entry_storedArtifacts (Snapshot : Type)
    (map : Option (GoMap String TaskArtifactStorageRef)) (key : String) :
    entry (stored .artifacts map :
      artifacts.Value Snapshot) key = entry map key :=
  entry_readBack map key

theorem entry_storedHeaders (Snapshot : Type) (map : Option (GoMap String String)) (key : String) :
    entry (stored .headers map : headers.Value Snapshot) key = entry map key :=
  entry_readBack map key

theorem map_eq_of_entries {first second : Option (GoMap String ν)}
    (firstStored : (if first.elim true (·.isEmpty) = true then none else first) = first)
    (secondStored : (if second.elim true (·.isEmpty) = true then none else second) = second)
    (keys : ∀ key, entry first key = entry second key) : first = second := by
  cases first with
  | none =>
    cases second with
    | none => rfl
    | some map =>
      have blank : map.isEmpty = true := isEmpty_iff.mpr fun key => (keys key).symm
      simp [blank] at secondStored
  | some map =>
    cases second with
    | none =>
      have blank : map.isEmpty = true := isEmpty_iff.mpr fun key => keys key
      simp [blank] at firstStored
    | some otherMap => rw [ext keys]

theorem mem_keys_of_entry {map : Option (GoMap String ν)} {key : String}
    (present : entry map key ≠ none) : key ∈ map.elim ∅ GoMap.keys := by
  cases map with
  | none => exact absurd rfl present
  | some map => exact mem_keys_of_get present

theorem entry_mergeTaskMap [DecidableEq ν]
    (current base candidate : Option (GoMap String ν)) (key : String) :
    entry (mergeTaskMap current base candidate) key =
      if entry candidate key = entry base key then entry current key
      else entry candidate key := by
  unfold mergeTaskMap
  by_cases same : base = candidate
  · rw [if_pos same, if_pos (by rw [same])]
  rw [if_neg same]
  have merged : ∀ map : GoMap String ν,
      entry (if map.isEmpty = true then none else some map) key = map.get key := by
    intro map
    split
    case isTrue blank => rw [entry_none, isEmpty_iff.mp blank]
    case isFalse => rfl
  rw [merged, get_tabulate]
  · cases old : entry base key <;> cases new : entry candidate key <;> grind
  · intro other present
    rw [Finset.mem_union]
    by_contra absent
    rw [not_or] at absent
    have noCurrent : entry current other = none := by
      by_contra there
      exact absent.1 (mem_keys_of_entry there)
    have noCandidate : entry candidate other = none := by
      by_contra there
      exact absent.2 (mem_keys_of_entry there)
    rw [noCurrent, noCandidate] at present
    cases old : entry base other <;> simp [old] at present

end Entries

/-- On a part, the row keeps its value where the object agrees with its
baseline, and has the object's value elsewhere. -/
def TaskPart.Merged (part : TaskPart) (row base candidate result : part.Value Snapshot) : Prop :=
  (candidate = base → result = row) ∧ (candidate ≠ base → result = part.stored candidate)

section Merged

variable {row : TaskRow Snapshot} {base candidate : TaskContents Snapshot}

theorem mergeTaskPrivateData_plain
    (current base candidate : TaskPrivateData Snapshot) {field : PrivateField}
    (plain : field.isMap = false) :
    mergeTaskPrivateData current base candidate field =
      if base field = candidate field then current field
      else candidate field := by
  cases field <;> first | rfl | cases plain

theorem merged_map {ν : Type} [DecidableEq ν]
    (current base candidate : Option (GoMap String ν)) (key : String) :
    (entry candidate key = entry base key →
      entry (if base = candidate then current
        else mergeTaskMap current base candidate) key = entry current key) ∧
    (entry candidate key ≠ entry base key →
      entry (if base = candidate then current
        else mergeTaskMap current base candidate) key = entry candidate key) := by
  have keyed := entry_mergeTaskMap current base candidate key
  split
  case isTrue same => exact ⟨fun _ => rfl, fun differs => absurd (by rw [same]) differs⟩
  case isFalse =>
    rw [keyed]
    exact ⟨fun same => if_pos same, fun differs => if_neg differs⟩

theorem part_mergedPrivateData (base candidate : TaskContents Snapshot)
    (stored : row.Stored) (column : TaskColumns)
    {part : TaskPart} (isPrivate : ∀ name, part ≠ .column name) :
    part.Merged (row.part part) (base.part part) (candidate.part part)
      (TaskContents.part
        ⟨column, fun field => field.kind.stored
          (mergeTaskPrivateData row.privateData base.privateData
            candidate.privateData field)⟩ part) := by
  cases part with
  | column name => exact absurd rfl (isPrivate name)
  | field field plain =>
    simp only [TaskPart.Merged, part, TaskPart.stored, mergeTaskPrivateData_plain _ _ _ plain]
    constructor
    · intro same
      rw [if_pos same.symm]
      exact stored field
    · intro differs
      rw [if_neg (Ne.symm differs)]
  | artifact key =>
    simp only [TaskPart.Merged, part, TaskPart.stored]
    rw [entry_storedArtifacts]
    exact merged_map _ _ _ key
  | header key =>
    simp only [TaskPart.Merged, part, TaskPart.stored]
    rw [entry_storedHeaders]
    exact merged_map _ _ _ key

/-- A field that is merged keeps its value if the object does not differ from
its baseline, or has the value of the row. -/
theorem stored_merge_kept (stored : row.Stored) {field : PrivateField}
    (carried : candidate.privateData field ≠ base.privateData field →
      row.privateData field = field.kind.stored (candidate.privateData field)) :
    field.kind.stored (mergeTaskPrivateData row.privateData base.privateData
      candidate.privateData field) = row.privateData field := by
  have part_kept : ∀ part : TaskPart, (∀ name, part ≠ .column name) →
      (candidate.part part ≠ base.part part → row.part part = part.stored (candidate.part part)) →
      TaskContents.part ⟨row.column, fun field => field.kind.stored
        (mergeTaskPrivateData row.privateData base.privateData
          candidate.privateData field)⟩ part = row.part part := by
    intro part isPrivate same
    obtain ⟨kept, written⟩ := part_mergedPrivateData base candidate stored row.column isPrivate
    by_cases agrees : candidate.part part = base.part part
    · exact kept agrees
    · exact (written agrees).trans (same agrees).symm
  cases plain : field.isMap with
  | false => exact part_kept (.field field plain) (by simp) carried
  | true =>
    rcases PrivateField.eq_of_isMap plain with rfl | rfl
    · have readBack := PrivateField.artifactRefs.kind.stored_stored
        (mergeTaskPrivateData row.privateData base.privateData candidate.privateData .artifactRefs)
      refine map_eq_of_entries readBack (stored .artifactRefs) ?_
      intro key
      refine part_kept (.artifact key) (by simp) ?_
      intro differs
      have same := carried fun agrees => differs <| by
        simp only [part, agrees]
      simp only [part, TaskPart.stored, same]
      exact entry_storedArtifacts Snapshot _ key
    · have readBack := PrivateField.requestHeaders.kind.stored_stored
        (mergeTaskPrivateData row.privateData base.privateData
          candidate.privateData .requestHeaders)
      refine map_eq_of_entries readBack (stored .requestHeaders) ?_
      intro key
      refine part_kept (.header key) (by simp) ?_
      intro differs
      have same := carried fun agrees => differs <| by
        simp only [part, agrees]
      simp only [part, TaskPart.stored, same]
      exact entry_storedHeaders Snapshot _ key

omit [DecidableEq Snapshot] in
theorem part_congr {first second : TaskContents Snapshot} (columns : first.column = second.column)
    (fields : first.privateData = second.privateData) (part : TaskPart) :
    first.part part = second.part part := by
  cases part with
  | column name => exact congrFun columns name
  | field name plain => exact congrFun fields name
  | artifact key | header key =>
    simp only [part]
    rw [fields]

theorem not_any_changed_iff {first second : TaskPrivateData Snapshot} :
    (PrivateField.all.any fun field => first field ≠ second field) = false ↔ first = second := by
  rw [List.any_eq_false]
  constructor
  · intro same
    funext field
    simpa using same field (PrivateField.mem_all field)
  · rintro rfl field _
    simp

theorem part_patch (stored : row.Stored) (updatedAt : Int) (part : TaskPart) :
    part.Merged (row.part part) (base.part part) (candidate.part part)
      ((row.updates (buildTaskUpdatePatch (some base) row.toTaskContents
        candidate).1 updatedAt).part part) := by
  by_cases isColumn : ∃ name, part = .column name
  · obtain ⟨name, rfl⟩ := isColumn
    simp only [TaskPart.Merged, part, TaskPart.stored, updates, buildTaskUpdatePatch]
    constructor
    · intro same
      rw [if_neg (not_not.mpr same)]
      rfl
    · intro differs
      rw [if_pos differs]
      rfl
  · have isPrivate : ∀ name, part ≠ .column name := fun name same => isColumn ⟨name, same⟩
    cases changed : PrivateField.all.any fun field =>
        candidate.privateData field ≠ base.privateData field with
    | true =>
      simp only [updates, buildTaskUpdatePatch, changed, if_true]
      exact part_mergedPrivateData base candidate stored _ isPrivate
    | false =>
      have same := not_any_changed_iff.mp changed
      have kept : ∀ column, TaskContents.part ⟨column, row.privateData⟩ part = row.part part := by
        intro column
        cases part with
        | column name => exact absurd rfl (isPrivate name)
        | _ => rfl
      have agrees : candidate.part part = base.part part := by
        cases part with
        | column name => exact absurd rfl (isPrivate name)
        | _ => simp only [part, same]
      simp only [updates, buildTaskUpdatePatch, changed, Bool.false_eq_true, if_false]
      exact ⟨fun _ => kept _, fun differs => absurd agrees differs⟩

theorem part_eq_of_noPatch {current : TaskContents Snapshot}
    (none : (buildTaskUpdatePatch (some base) current candidate).2 = false)
    (part : TaskPart) : candidate.part part = base.part part := by
  simp only [buildTaskUpdatePatch, Bool.or_eq_false_iff] at none
  obtain ⟨noField, noColumn⟩ := none
  refine part_congr ?_ (not_any_changed_iff.mp noField) part
  funext column
  have same := List.any_eq_false.mp noColumn column (TaskColumn.mem_all column)
  by_contra differs
  rw [if_pos differs] at same
  exact same rfl

omit [DecidableEq Snapshot] in
theorem stored_updates {updates : TaskUpdates Snapshot} (stored : row.Stored)
    (updatedAt : Int) : (row.updates updates updatedAt).Stored := by
  intro field
  simp only [TaskRow.updates]
  split
  · exact stored field
  · exact field.kind.stored_stored _

omit [DecidableEq Snapshot] in
theorem contents_ext {first second : TaskContents Snapshot}
    (firstStored : first.Stored) (secondStored : second.Stored)
    (same : ∀ part, first.part part = second.part part) : first = second := by
  have columns : first.column = second.column := by
    funext column
    exact same (.column column)
  have fields : first.privateData = second.privateData := by
    funext field
    cases plain : field.isMap with
    | false => exact same (.field field plain)
    | true =>
      rcases PrivateField.eq_of_isMap plain with rfl | rfl
      · exact map_eq_of_entries (firstStored .artifactRefs)
          (secondStored .artifactRefs) fun key => same (.artifact key)
      · exact map_eq_of_entries (firstStored .requestHeaders)
          (secondStored .requestHeaders) fun key => same (.header key)
  obtain ⟨firstColumn, firstPrivate⟩ := first
  dsimp only at columns fields ⊢
  rw [columns, fields]

end Merged

/-- `updateWithStatusFrom` on the locked row: the row afterwards, or `none` if
the call does not win.  Its statement repeats the conditions that are checked
here. -/
def updateWithStatusFrom (base : Option (TaskContents Snapshot))
    (task : TaskContents Snapshot) (taskUpdatedAt : Int)
    (fromStatus : TaskStatus) (lockOwner : String) (now : Int)
    (requireLease : Bool) (clock : Int) (current : TaskRow Snapshot) :
    Option (TaskRow Snapshot) :=
  if current.column .status ≠ fromStatus then none
  else if requireLease ∧ lockOwner ≠ "" ∧
      (current.column .lockOwner ≠ lockOwner ∨ current.column .lockUntil ≤ now) then none
  else if base = none ∧ 0 < taskUpdatedAt ∧ current.updatedAt ≠ taskUpdatedAt then none
  else
    let (updates, applyPatch) := buildTaskUpdatePatch base current.toTaskContents task
    if applyPatch = false then some current
    else
      let updates :=
        if requireLease ∧ task.column .status ≠ .success ∧
            task.column .status ≠ .failure then
          (updates.delete .lockOwner).delete .lockUntil
        else updates
      some (current.updates updates (nextTaskUpdatedAt current.updatedAt clock))

/-- A call that wins found the row unlocked, or locked by its owner, and patches it. -/
theorem updateWithStatusFrom_cases {base : Option (TaskContents Snapshot)}
    {task : TaskContents Snapshot} {taskUpdatedAt now clock : Int} {fromStatus : TaskStatus}
    {lockOwner : String} {requireLease : Bool} {row next : TaskRow Snapshot}
    (won : updateWithStatusFrom base task taskUpdatedAt fromStatus lockOwner now requireLease
      clock row = some next) :
    ¬ (requireLease ∧ lockOwner ≠ "" ∧
        (row.column .lockOwner ≠ lockOwner ∨ row.column .lockUntil ≤ now)) ∧
      (next = row ∨
        next = row.updates
          (let updates := (buildTaskUpdatePatch base row.toTaskContents task).1
          if requireLease ∧ task.column .status ≠ .success ∧ task.column .status ≠ .failure then
            (updates.delete .lockOwner).delete .lockUntil
          else updates)
          (nextTaskUpdatedAt row.updatedAt clock)) := by
  simp only [updateWithStatusFrom, Option.ite_none_left_eq_some] at won
  obtain ⟨-, guard, -, won⟩ := won
  refine ⟨guard, ?_⟩
  split at won
  · exact Or.inl (Option.some.inj won).symm
  · exact Or.inr (Option.some.inj won).symm

end NewApi.TaskRows
