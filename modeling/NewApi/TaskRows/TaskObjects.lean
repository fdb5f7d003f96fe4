import NewApi.TaskRows.Patches

/-!
# Task objects

A loaded task is a struct whose maps, slices and pointers are references to
cells.  `CloneForUpdate` copies the struct and decodes the JSON of its private
data into the copy, that is into the cells of the object itself.

For maps and pointers this changes nothing, since what is decoded is there
already.  A raw message is marshalled in its compact form, and decoding copies
the compact form to the start of the array that the message is in.
-/

namespace NewApi.TaskRows

open NewApi.Tasks GoMap

/-! ## Memory -/

/-- A slice from the start of an array. -/
structure Slice where
  address : Nat
  length : Nat

/-- What a reference refers to; the length of an array of bytes is the capacity
of the slices in it. -/
@[reducible]
def FieldKind.Pointee (Snapshot : Type) : FieldKind → Type
  | .raw => List UInt8
  | .slice => List String
  | .headers => GoMap String String
  | .artifacts => GoMap String TaskArtifactStorageRef
  | .pointer => Snapshot
  | _ => Unit

/-- What a field of the struct holds: a value, or a reference that may be
nil. -/
@[reducible]
def FieldKind.Handle : FieldKind → Type
  | .text => String
  | .int => Int
  | .bool => Bool
  | .raw => Option Slice
  | _ => Option Nat

/-- The cells behind the references, and the next one that is free. -/
structure Memory (Snapshot : Type) where
  cell : (kind : FieldKind) → Nat → kind.Pointee Snapshot
  next : Nat

namespace Memory

variable {Snapshot : Type}

def read (memory : Memory Snapshot) :
    (kind : FieldKind) → kind.Handle → kind.Value Snapshot
  | .text, value => value
  | .int, value => value
  | .bool, value => value
  | .raw, reference =>
    reference.map fun slice => (memory.cell .raw slice.address).take slice.length
  | .slice, reference => reference.map (memory.cell .slice)
  | .headers, reference => reference.map (memory.cell .headers)
  | .artifacts, reference => reference.map (memory.cell .artifacts)
  | .pointer, reference => reference.map (memory.cell .pointer)

def write (memory : Memory Snapshot) (kind : FieldKind) (address : Nat)
    (pointee : kind.Pointee Snapshot) : Memory Snapshot :=
  { memory with
    cell := Function.update memory.cell kind (Function.update (memory.cell kind) address pointee) }

@[simp]
theorem write_cell (memory : Memory Snapshot) (kind : FieldKind)
    (address : Nat) : memory.write kind address (memory.cell kind address) = memory := by
  simp [write]

/-- `encoding/json` decodes into what a reference refers to, and makes a new
cell for a nil reference. -/
def decodeReference (memory : Memory Snapshot) (kind : FieldKind)
    (combine : kind.Pointee Snapshot → kind.Pointee Snapshot → kind.Pointee Snapshot)
    (reference : Option Nat) (json : Option (kind.Pointee Snapshot)) :
    Memory Snapshot × Option Nat :=
  match json, reference with
  | none, _ => (memory, none)
  | some decoded, some address =>
    (memory.write kind address (combine (memory.cell kind address) decoded), some address)
  | some decoded, none =>
    ({ memory.write kind memory.next decoded with next := memory.next + 1 }, some memory.next)

/-- `UnmarshalJSON` of a raw message: `append((*m)[0:0], data...)` stays in the
array of the message if there is room. -/
def decodeMessage (memory : Memory Snapshot) (message : Option Slice) (json : Option RawMessage) :
    Memory Snapshot × Option Slice :=
  match json, message with
  | none, _ => (memory, none)
  | some data, some slice =>
    let array := memory.cell .raw slice.address
    if data.length ≤ array.length then
      (memory.write .raw slice.address (data ++ array.drop data.length),
        some { slice with length := data.length })
    else
      ({ memory.write .raw memory.next data with next := memory.next + 1 },
        some ⟨memory.next, data.length⟩)
  | some data, none =>
    ({ memory.write .raw memory.next data with next := memory.next + 1 },
      some ⟨memory.next, data.length⟩)

/-- Decoding the JSON of one field.  A map keeps the entries it has; what the
JSON of a snapshot leaves out is only looked at where the snapshot itself is
decoded into, and has its zero value there. -/
def decode (memory : Memory Snapshot) :
    (kind : FieldKind) → kind.Handle → kind.Value Snapshot → Memory Snapshot × kind.Handle
  | .text, _, json => (memory, json)
  | .int, _, json => (memory, json)
  | .bool, _, json => (memory, json)
  | .raw, message, json => memory.decodeMessage message json
  | .slice, reference, json =>
    memory.decodeReference .slice (fun _ decoded => decoded) reference json
  | .headers, reference, json => memory.decodeReference .headers GoMap.merge reference json
  | .artifacts, reference, json => memory.decodeReference .artifacts GoMap.merge reference json
  | .pointer, reference, json =>
    memory.decodeReference .pointer (fun _ decoded => decoded) reference json

theorem decodeReference_self (memory : Memory Snapshot) (kind : FieldKind)
    (combine : kind.Pointee Snapshot → kind.Pointee Snapshot → kind.Pointee Snapshot)
    (idempotent : ∀ pointee, combine pointee pointee = pointee) (reference : Option Nat) :
    memory.decodeReference kind combine reference
      (reference.map (memory.cell kind)) = (memory, reference) := by
  cases reference with
  | none => rfl
  | some address => simp [decodeReference, idempotent]

/-- A slice is within its array. -/
def Fits (memory : Memory Snapshot) : (kind : FieldKind) → kind.Handle → Prop
  | .raw, message =>
    ∀ slice ∈ message, slice.length ≤ (memory.cell .raw slice.address).length
  | .text, _ => True
  | .int, _ => True
  | .bool, _ => True
  | .slice, _ => True
  | .headers, _ => True
  | .artifacts, _ => True
  | .pointer, _ => True

theorem decodeMessage_self (memory : Memory Snapshot) (message : Option Slice)
    (fits : memory.Fits .raw message) :
    memory.decodeMessage message (memory.read .raw message) = (memory, message) := by
  cases message with
  | none => rfl
  | some slice =>
    have within := fits slice rfl
    simp [decodeMessage, read, within]

theorem decode_read (memory : Memory Snapshot) (kind : FieldKind) (handle : kind.Handle)
    (fits : memory.Fits kind handle) :
    memory.decode kind handle (memory.read kind handle) = (memory, handle) := by
  cases kind with
  | text | int | bool => rfl
  | raw => exact memory.decodeMessage_self handle fits
  | slice =>
    exact memory.decodeReference_self .slice (fun _ decoded => decoded) (fun _ => rfl) handle
  | headers => exact memory.decodeReference_self .headers merge merge_self handle
  | artifacts => exact memory.decodeReference_self .artifacts merge merge_self handle
  | pointer =>
    exact memory.decodeReference_self .pointer (fun _ decoded => decoded) (fun _ => rfl) handle

end Memory

abbrev TaskHandles := (field : PrivateField) → field.kind.Handle

structure TaskFields where
  column : TaskColumns
  privateData : TaskHandles

/-- A `Task` in memory. -/
structure Task extends TaskFields where
  id : Int
  createdAt : Int
  updatedAt : Int
  updateBase : Option TaskFields

section Clones

variable {Snapshot : Type}

def TaskFields.read (memory : Memory Snapshot) (fields : TaskFields) :
    TaskContents Snapshot where
  column := fields.column
  privateData := fun field => memory.read field.kind (fields.privateData field)

/-! ## Raw messages -/

/-- What `encoding/json` does with a raw message: the compact form in which a
valid one is marshalled, and the capacity of the array that one is scanned
into. -/
structure RawJson where
  compact : RawMessage → Option RawMessage
  compact_compact : ∀ {message compacted : RawMessage},
    compact message = some compacted → compact compacted = some compacted
  capacity : RawMessage → Nat

namespace RawJson

def marshalMessage (json : RawJson) : Option RawMessage → Option (Option RawMessage)
  | none => some none
  | some message =>
    if message = [] then some (some []) else (json.compact message).map some

/-- `json.Marshal` of private data, of which `plugin_state` is the only raw
message; it fails if this is not valid. -/
def marshal (json : RawJson) (privateData : TaskPrivateData Snapshot) :
    Option (TaskPrivateData Snapshot) :=
  (json.marshalMessage (privateData .pluginState)).map
    (Function.update privateData .pluginState)

theorem marshalMessage_self {json : RawJson} {message marshalled : Option RawMessage}
    (marshals : json.marshalMessage message = some marshalled) :
    json.marshalMessage marshalled = some marshalled := by
  cases message with
  | none =>
    obtain rfl := Option.some.inj marshals
    rfl
  | some message =>
    simp only [marshalMessage] at marshals
    split at marshals
    · obtain rfl := Option.some.inj marshals
      rfl
    · obtain ⟨compacted, compacts, rfl⟩ := Option.map_eq_some_iff.mp marshals
      simp only [marshalMessage, json.compact_compact compacts, Option.map_some]
      split
      case isTrue blank => rw [blank]
      case isFalse => rfl

/-- What is left of a scanned message when its compact form has been decoded
over it. -/
def overwritten (json : RawJson) (message : RawMessage) : RawMessage :=
  match json.marshalMessage (some message) with
  | some (some compacted) =>
    if compacted.length ≤ json.capacity message then
      (compacted ++ message.drop compacted.length).take message.length
    else message
  | _ => message

end RawJson

/-- Private data that is marshalled as it is: `plugin_state` is compact. -/
def TaskContents.Compact (json : RawJson) (contents : TaskContents Snapshot) : Prop :=
  json.marshal contents.privateData = some contents.privateData

theorem compact_iff (json : RawJson) (contents : TaskContents Snapshot) :
    contents.Compact json ↔ json.marshalMessage (contents.privateData .pluginState) =
      some (contents.privateData .pluginState) := by
  rw [TaskContents.Compact, RawJson.marshal, Option.map_eq_some_iff]
  constructor
  · rintro ⟨message, marshals, same⟩
    rw [marshals, ← same, Function.update_self]
  · intro marshals
    exact ⟨_, marshals, Function.update_eq_self ..⟩

theorem compact_of_marshal {json : RawJson} {contents : TaskContents Snapshot}
    {privateData : TaskPrivateData Snapshot}
    (marshals : json.marshal privateData = some contents.privateData) : contents.Compact json := by
  rw [compact_iff]
  obtain ⟨message, marshalled, same⟩ := Option.map_eq_some_iff.mp marshals
  rw [← same, Function.update_self]
  exact RawJson.marshalMessage_self marshalled

/-- The row as a query returns it: `AfterFind` has made its baseline, and
decoded the compact `plugin_state` over the one that was scanned. -/
def TaskRow.loaded (json : RawJson) (row : TaskRow Snapshot) : TaskRow Snapshot :=
  { row with
    privateData := Function.update row.privateData .pluginState
      ((row.privateData .pluginState).map json.overwritten) }

theorem loaded_eq_of_compact {json : RawJson} {row : TaskRow Snapshot}
    (compact : row.Compact json) : row.loaded json = row := by
  have marshals := (compact_iff json _).mp compact
  have same : (row.privateData .pluginState).map json.overwritten =
      row.privateData .pluginState := by
    cases scanned : row.privateData .pluginState with
    | none => rfl
    | some message =>
      rw [scanned] at marshals
      simp [RawJson.overwritten, marshals]
  rw [TaskRow.loaded, same, Function.update_eq_self]

/-! ## Clones -/

/-- A field that `omitempty` has left out is not looked at. -/
def decodeField (json : TaskPrivateData Snapshot) (decoded : Memory Snapshot × TaskHandles)
    (field : PrivateField) : Memory Snapshot × TaskHandles :=
  if field.kind.omits (json field) = true then decoded
  else
    let (memory, handle) := decoded.1.decode field.kind (decoded.2 field) (json field)
    (memory, Function.update decoded.2 field handle)

def decodeFields (json : TaskPrivateData Snapshot) (fields : List PrivateField)
    (decoded : Memory Snapshot × TaskHandles) : Memory Snapshot × TaskHandles :=
  fields.foldl (decodeField json) decoded

/-- Fields that are decoded from what they hold stay what they are. -/
theorem decodeFields_self {json : TaskPrivateData Snapshot} {fields : List PrivateField}
    {memory : Memory Snapshot} {handles : TaskHandles}
    (holds : ∀ field ∈ fields, memory.Fits field.kind (handles field) ∧
      json field = memory.read field.kind (handles field)) :
    decodeFields json fields (memory, handles) = (memory, handles) := by
  induction fields with
  | nil => rfl
  | cons field rest ih =>
    obtain ⟨fits, same⟩ := holds field (List.mem_cons_self ..)
    have others := ih fun other listed => holds other (List.mem_cons_of_mem _ listed)
    have stays : decodeField json (memory, handles) field = (memory, handles) := by
      simp only [decodeField, same, memory.decode_read _ _ fits, Function.update_eq_self, ite_self]
    rw [decodeFields, List.foldl_cons, stays]
    exact others

/-- `json.Unmarshal` of the JSON of private data. -/
def unmarshalPrivateData (json : TaskPrivateData Snapshot)
    (memory : Memory Snapshot) (privateData : TaskHandles) :
    Memory Snapshot × TaskHandles :=
  decodeFields json PrivateField.all (memory, privateData)

def cloneForUpdate (json : RawJson) (memory : Memory Snapshot) (task : Task) :
    Memory Snapshot × TaskFields :=
  let clone := task.toTaskFields
  match json.marshal (task.read memory).privateData with
  | none => (memory, clone)
  | some privateData =>
    let (memory, decoded) := unmarshalPrivateData privateData memory clone.privateData
    (memory, { clone with privateData := decoded })

/-- The slice of a scanned message is in an array of the capacity of the
message, and not in a cell that is still free. -/
structure Task.Room (json : RawJson) (memory : Memory Snapshot) (task : Task) : Prop where
  fits : memory.Fits .raw (task.privateData .pluginState)
  capacity : ∀ slice ∈ task.privateData .pluginState,
    (memory.cell .raw slice.address).length =
      json.capacity ((memory.cell .raw slice.address).take slice.length)
  taken : ∀ slice ∈ task.privateData .pluginState, slice.address ≠ memory.next

theorem fits_of_room {json : RawJson} {memory : Memory Snapshot} {task : Task}
    (room : task.Room json memory) (field : PrivateField) :
    memory.Fits field.kind (task.privateData field) := by
  cases field with
  | pluginState => exact room.fits
  | _ => trivial

/-- The baseline of an object with a compact `plugin_state` refers to what the
object refers to. -/
theorem cloneForUpdate_eq {json : RawJson} {memory : Memory Snapshot} {task : Task}
    (room : task.Room json memory) (compact : (task.read memory).Compact json) :
    cloneForUpdate json memory task = (memory, task.toTaskFields) := by
  have marshals : json.marshal (task.read memory).privateData =
      some (task.read memory).privateData := compact
  have unchanged : decodeFields (task.read memory).privateData PrivateField.all
      (memory, task.privateData) = (memory, task.privateData) :=
    decodeFields_self fun field _ => ⟨fits_of_room room field, rfl⟩
  simp only [cloneForUpdate, marshals, unmarshalPrivateData, unchanged]

def Task.afterFind (json : RawJson) (memory : Memory Snapshot) (task : Task) :
    Memory Snapshot × Task :=
  let (memory, clone) := cloneForUpdate json memory task
  (memory, { task with updateBase := some clone })

theorem afterFind_eq {json : RawJson} {memory : Memory Snapshot} {task : Task}
    (room : task.Room json memory) (compact : (task.read memory).Compact json) :
    task.afterFind json memory = (memory, { task with updateBase := some task.toTaskFields }) := by
  simp only [Task.afterFind, cloneForUpdate_eq room compact]

structure Task.Scans (memory : Memory Snapshot) (task : Task) (row : TaskRow Snapshot) : Prop where
  contents : task.read memory = row.toTaskContents
  updatedAt : task.updatedAt = row.updatedAt

/-! ### What a decoded message leaves -/

theorem decodeFields_append (json : TaskPrivateData Snapshot) (first second : List PrivateField)
    (decoded : Memory Snapshot × TaskHandles) :
    decodeFields json (first ++ second) decoded =
      decodeFields json second (decodeFields json first decoded) :=
  List.foldl_append

/-- Memory in which at most arrays of bytes have changed. -/
def Memory.SameCells (first second : Memory Snapshot) : Prop :=
  ∀ kind : FieldKind, kind ≠ .raw → first.cell kind = second.cell kind

theorem Memory.SameCells.read_eq {first second : Memory Snapshot} (same : first.SameCells second)
    {kind : FieldKind} (other : kind ≠ .raw) (handle : kind.Handle) :
    first.read kind handle = second.read kind handle := by
  cases kind with
  | raw => exact absurd rfl other
  | text | int | bool => rfl
  | slice => exact congrArg (Option.map · handle) (same .slice other)
  | headers => exact congrArg (Option.map · handle) (same .headers other)
  | artifacts => exact congrArg (Option.map · handle) (same .artifacts other)
  | pointer => exact congrArg (Option.map · handle) (same .pointer other)

theorem PrivateField.kind_ne_raw {field : PrivateField} (other : field ≠ .pluginState) :
    field.kind ≠ .raw := by
  cases field <;> first | exact absurd rfl other | decide

theorem sameCells_write {first second : Memory Snapshot} (address : Nat) (array : List UInt8)
    (cells : second.cell = (first.write .raw address array).cell) : second.SameCells first := by
  intro kind isOther
  rw [cells, Memory.write]
  exact Function.update_of_ne isOther ..

theorem decodeMessage_sameCells (memory : Memory Snapshot) (slice : Option Slice)
    (message : Option RawMessage) : (memory.decodeMessage slice message).1.SameCells memory := by
  cases message with
  | none => exact fun _ _ => rfl
  | some data =>
    cases slice with
    | none => exact sameCells_write _ _ rfl
    | some slice =>
      simp only [Memory.decodeMessage]
      split
      · exact sameCells_write _ _ rfl
      · exact sameCells_write _ _ rfl

/-- What the object reads after the compact form of its message has been
decoded. -/
theorem decodeMessage_read {json : RawJson} {memory : Memory Snapshot} {task : Task}
    (room : task.Room json memory) {slice : Slice}
    (refers : task.privateData .pluginState = some slice) (compacted : RawMessage) :
    let message := (memory.cell .raw slice.address).take slice.length
    (memory.decodeMessage (some slice) (some compacted)).1.read .raw (some slice) =
      some (if compacted.length ≤ json.capacity message then
        (compacted ++ message.drop compacted.length).take message.length else message) := by
  intro message
  have messageLength : message.length = slice.length := by
    simp [message, Nat.min_eq_left (room.fits slice refers)]
  simp only [Memory.decodeMessage]
  rw [← room.capacity slice refers]
  split
  case isTrue fits =>
    simp only [Memory.read, Memory.write, Function.update_self, Option.map_some, messageLength,
      message]
    rw [List.take_append, List.take_append, List.drop_take, List.take_take, Nat.min_self]
  case isFalse =>
    simp only [Memory.read, Memory.write, Function.update_self, Option.map_some,
      Function.update_of_ne (room.taken slice refers), message]

/-- The message is decoded, and every other field stays what it is. -/
theorem unmarshalPrivateData_message {memory : Memory Snapshot} {task : Task}
    (message : Option RawMessage) :
    (unmarshalPrivateData (Function.update (task.read memory).privateData .pluginState message)
      memory task.privateData).1 =
      if @FieldKind.omits Snapshot .raw message = true then memory
      else (memory.decodeMessage (task.privateData .pluginState) message).1 := by
  let json := Function.update (task.read memory).privateData .pluginState message
  have others : ∀ (memory' : Memory Snapshot) (handles : TaskHandles) (fields : List PrivateField),
      memory'.SameCells memory → (∀ field ∈ fields, field ≠ .pluginState) →
      (∀ field ∈ fields, handles field = task.privateData field) →
      decodeFields json fields (memory', handles) = (memory', handles) := by
    intro memory' handles fields same isOther sameHandles
    refine decodeFields_self ?_
    intro field listed
    have notRaw := PrivateField.kind_ne_raw (isOther field listed)
    rw [sameHandles field listed, same.read_eq notRaw]
    refine ⟨?_, Function.update_of_ne (isOther field listed) ..⟩
    cases field with
    | pluginState => exact absurd rfl notRaw
    | _ => trivial
  have split : PrivateField.all =
      PrivateField.all.take 26 ++ .pluginState :: PrivateField.all.drop 27 := rfl
  have before := others memory task.privateData (PrivateField.all.take 26)
    (fun _ _ => rfl) (by decide) fun _ _ => rfl
  have isMessage : json .pluginState = message := Function.update_self ..
  rw [unmarshalPrivateData, split, decodeFields_append, before, decodeFields, List.foldl_cons]
  by_cases omitted : @FieldKind.omits Snapshot .raw message = true
  · have skips : decodeField json (memory, task.privateData) .pluginState =
        (memory, task.privateData) := by
      rw [decodeField, isMessage]
      exact if_pos omitted
    rw [if_pos omitted, skips]
    exact congrArg Prod.fst <| others memory task.privateData _
      (fun _ _ => rfl) (by decide) fun _ _ => rfl
  · let decoded := memory.decodeMessage (task.privateData .pluginState) message
    have decodes : decodeField json (memory, task.privateData) .pluginState =
        (decoded.1, Function.update task.privateData .pluginState decoded.2) := by
      rw [decodeField, isMessage]
      exact if_neg omitted
    rw [if_neg omitted, decodes]
    refine congrArg Prod.fst <| others decoded.1 _ _ ?_ (by decide) ?_
    · exact decodeMessage_sameCells memory (task.privateData .pluginState) message
    · intro field listed
      have isOther : field ≠ .pluginState := by
        rintro rfl
        exact absurd listed (by decide)
      exact Function.update_of_ne isOther ..

/-- A scanned object reads as what a query returns of its row, once it has
been cloned. -/
theorem cloneForUpdate_read {json : RawJson} {memory : Memory Snapshot} {task : Task}
    {row : TaskRow Snapshot} (room : task.Room json memory) (scans : task.Scans memory row) :
    task.read (cloneForUpdate json memory task).1 = (row.loaded json).toTaskContents := by
  have fields : (task.read memory).privateData = row.privateData := by rw [scans.contents]
  have scanned : memory.read .raw (task.privateData .pluginState) = row.privateData .pluginState :=
    congrFun fields .pluginState
  -- Only the message may read differently afterwards.
  have reads : ∀ memory' : Memory Snapshot, memory'.SameCells memory →
      memory'.read .raw (task.privateData .pluginState) =
        (row.privateData .pluginState).map json.overwritten →
      task.read memory' = (row.loaded json).toTaskContents := by
    intro memory' same message
    have columns : task.column = row.column := congrArg TaskContents.column scans.contents
    simp only [TaskFields.read, TaskRow.loaded, columns]
    congr 1
    funext field
    by_cases isMessage : field = .pluginState
    · subst isMessage
      rw [Function.update_self]
      exact message
    · rw [Function.update_of_ne isMessage, same.read_eq (PrivateField.kind_ne_raw isMessage)]
      exact congrFun fields field
  cases marshalled : json.marshalMessage (row.privateData .pluginState) with
  | none =>
    have unchanged : (cloneForUpdate json memory task).1 = memory := by
      simp only [cloneForUpdate, RawJson.marshal, fields, marshalled, Option.map_none]
    rw [unchanged]
    refine reads memory (fun _ _ => rfl) (scanned.trans ?_)
    cases message : row.privateData .pluginState with
    | none => rfl
    | some data =>
      rw [message] at marshalled
      simp [RawJson.overwritten, marshalled]
  | some message =>
    have decoded : (cloneForUpdate json memory task).1 =
        if @FieldKind.omits Snapshot .raw message = true then memory
        else (memory.decodeMessage (task.privateData .pluginState) message).1 := by
      rw [← unmarshalPrivateData_message message]
      simp only [cloneForUpdate, RawJson.marshal, fields, marshalled, Option.map_some]
    rw [decoded]
    cases refers : task.privateData .pluginState with
    | none =>
      rw [refers] at scanned
      rw [← scanned] at marshalled
      obtain rfl := Option.some.inj marshalled
      refine reads memory (fun _ _ => rfl) ?_
      rw [refers, ← scanned]
      rfl
    | some slice =>
      rw [refers] at scanned
      rw [← scanned] at marshalled
      simp only [Memory.read, Option.map_some] at marshalled
      split
      case isTrue omitted =>
        refine reads memory (fun _ _ => rfl) ?_
        rw [refers, ← scanned]
        cases message with
        | none => simp [Memory.read, RawJson.overwritten, marshalled]
        | some data =>
          obtain rfl : data = [] := List.isEmpty_iff.mp omitted
          simp [Memory.read, RawJson.overwritten, marshalled]
      case isFalse decodes =>
        cases message with
        | none => exact absurd rfl decodes
        | some data =>
          refine reads _ (decodeMessage_sameCells memory (some slice) (some data)) ?_
          rw [refers, decodeMessage_read room refers, ← scanned]
          simp [Memory.read, RawJson.overwritten, marshalled]

end Clones

/-- What the owner of an object may do to it: assign a column, assign a
private field, or write to memory, through references or to new cells. -/
inductive Mutation (Snapshot : Type) where
  | setColumn (column : TaskColumn) (value : column.Value)
  | setField (field : PrivateField) (handle : field.kind.Handle)
  | write (change : Memory Snapshot → Memory Snapshot)

section Mutations

variable {Snapshot : Type}

def Mutation.run (state : Memory Snapshot × Task) :
    Mutation Snapshot → Memory Snapshot × Task
  | .setColumn column value =>
    (state.1, { state.2 with column := Function.update state.2.column column value })
  | .setField field handle =>
    (state.1, { state.2 with privateData := Function.update state.2.privateData field handle })
  | .write change => (change state.1, state.2)

def Mutation.runAll (state : Memory Snapshot × Task)
    (mutations : List (Mutation Snapshot)) : Memory Snapshot × Task :=
  mutations.foldl Mutation.run state

/-- An object keeps the references of its baseline, whatever is done to it. -/
theorem runAll_updateBase (state : Memory Snapshot × Task) (mutations : List (Mutation Snapshot)) :
    (Mutation.runAll state mutations).2.updateBase = state.2.updateBase := by
  induction mutations generalizing state with
  | nil => rfl
  | cons mutation rest ih =>
    refine (ih (mutation.run state)).trans ?_
    cases mutation <;> rfl

/-- `ClearImageTaskExecutionSecrets`; `withoutBody` clears the body of the
request input behind a pointer. -/
def clearImageTaskExecutionSecrets (withoutBody : Snapshot → Snapshot)
    (clock : Int) (task : Task) : List (Mutation Snapshot) :=
  [.setField .key "", .setField .requestHeaders none] ++
    (match task.privateData .billingRequestInput with
      | none => []
      | some address =>
        [.write fun memory => memory.write .pointer address
          (withoutBody (memory.cell .pointer address))]) ++
    (if task.column .executionSecretsCleanedAt = 0 then
      [.setColumn .executionSecretsCleanedAt clock]
    else [])

end Mutations

end NewApi.TaskRows
