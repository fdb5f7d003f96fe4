import Mathlib.Data.List.Sort
import NewApi.Relay.MovedValues
import NewApi.Relay.NegativeIndexes
import NewApi.Relay.PrunedObjects

/-!
# Wildcard operations on the body

A path with `*` segments is expanded against the decoded document into texts,
and the operation is applied at one text after the other.  The names of members
are joined with dots as they are.
-/

namespace NewApi.Relay

open GoStrings JsonValue Members

/-- `strconv.Atoi`; an index out of its range is past the end of any array. -/
def atoi (segment : String) : Option Int :=
  match segment.toList with
  | '-' :: digits => (index? (String.ofList digits)).map fun value => -(value : Int)
  | '+' :: digits => (index? (String.ofList digits)).map Int.ofNat
  | _ => (index? segment).map Int.ofNat

def sortedKeys (fields : List (String × JsonValue)) : List String :=
  (fields.map Prod.fst).insertionSort (· ≤ ·)

def collectWildcardPaths :
    List String → JsonValue → List String → List String
  | [], _, before => [joinSegments before]
  | first :: segments, node, before =>
    let segment := trimSpace first
    if segment = "" then []
    else if segment = "*" then
      match node with
      | .object fields =>
        (sortedKeys fields).flatMap fun key =>
          match fields.lookup key with
          | some child => collectWildcardPaths segments child (before ++ [key])
          | none => []
      | .array items =>
        (List.range items.length).flatMap fun index =>
          match items[index]? with
          | some child =>
            collectWildcardPaths segments child (before ++ [toString index])
          | none => []
      | _ => []
    else
      match node with
      | .object fields =>
        if segments = [] then [joinSegments (before ++ [segment])]
        else
          match fields.lookup segment with
          | some child => collectWildcardPaths segments child (before ++ [segment])
          | none => []
      | .array items =>
        match atoi segment with
        | some index =>
          if index < 0 then []
          else
            match items[index.toNat]? with
            | some child =>
              if segments = [] then [joinSegments (before ++ [segment])]
              else
                collectWildcardPaths segments child (before ++ [segment])
            | none => []
        | none => []
      | _ => []

section

variable (library : PathLibrary)

def expandWildcardPaths (doc : JsonValue) (path : String) : Except String (List String) :=
  match doc.unmarshal library.readNumber maxNestingDepth with
  | none => .error "cannot decode the body"
  | some root => .ok (collectWildcardPaths (pathSegments path) root []).eraseDups

def resolveOperationPaths (doc : JsonValue) (path : String) : Except String (List String) :=
  if path.toList.contains '*' then expandWildcardPaths library doc path else .ok [path]

def deleteValue (doc : JsonValue) (path : String) : Except String JsonValue :=
  if trimSpace path = "" then .ok doc else library.deleteBytes doc path

def setValue (keepOrigin : Bool) (value doc : JsonValue) (path : String) :
    Except String JsonValue :=
  if keepOrigin ∧ (library.get doc path).isSome then .ok doc
  else library.setBytes doc path value

def applyAtPaths (apply : JsonValue → String → Except String JsonValue) :
    JsonValue → List String → Except String JsonValue
  | doc, [] => .ok doc
  | doc, path :: paths => (apply doc path).bind fun result => applyAtPaths apply result paths

/-- The cases of `applyOperations` that delete, set, move and copy values of the
body; `none` for the other modes. -/
def bodyOperation (doc : JsonValue) (operation : ParamOperation) :
    Option (Except String JsonValue) :=
  let opPath := processNegativeIndex library doc operation.path
  let opFrom := processNegativeIndex library doc operation.source
  let opTo := processNegativeIndex library doc operation.target
  let failed (result : Except String JsonValue) :=
    result.mapError fun message => "operation " ++ operation.mode ++ " failed: " ++ message
  if operation.mode = "delete" then
    some ((resolveOperationPaths library doc opPath).bind fun paths =>
      failed (applyAtPaths (deleteValue library) doc paths))
  else if operation.mode = "set" then
    some ((resolveOperationPaths library doc opPath).bind fun paths =>
      failed (applyAtPaths (setValue library operation.keepOrigin operation.value) doc paths))
  else if operation.mode = "move" then some (failed (moveValue library doc opFrom opTo))
  else if operation.mode = "copy" then
    some (if operation.source = "" ∨ operation.target = "" then .error "copy from/to is required"
    else failed (copyValue library doc opFrom opTo))
  else none

end

inductive PathStep where
  | star
  | child (name : String)
  deriving DecidableEq

namespace PathStep

/-- The step that a segment stands for; an empty segment is none. -/
def ofSegment (segment : String) : Option PathStep :=
  if trimSpace segment = "" then none
  else if trimSpace segment = "*" then some .star
  else some (.child (trimSpace segment))

def names : PathStep → String → Bool
  | .star, _ => true
  | .child name, key => key = name

def counts : PathStep → Nat → Bool
  | .star, _ => true
  | .child name, index => index? name = some index

end PathStep

def changeAt (change : PathStep → JsonValue → JsonValue) :
    List PathStep → JsonValue → JsonValue
  | [], node => node
  | [step], node => change step node
  | step :: next :: steps, .object fields =>
    .object (fields.map fun field =>
      (field.1,
        if step.names field.1 then changeAt change (next :: steps) field.2
        else field.2))
  | step :: next :: steps, .array items =>
    .array (items.mapIdx fun index item =>
      if step.counts index then changeAt change (next :: steps) item
      else item)
  | _, node => node

def dropChildren (step : PathStep) : JsonValue → JsonValue
  | .object fields => .object (fields.filter fun field => !step.names field.1)
  | .array items => .array ((items.zipIdx.filter fun item => !step.counts item.2).map Prod.fst)
  | node => node

/-- A node with the value at the children that a step goes to; the named member
of an object is one of them also where it is missing. -/
def writeChildren (value : JsonValue) (step : PathStep) : JsonValue → JsonValue
  | .object fields =>
    match step with
    | .star => .object (fields.map fun field => (field.1, value))
    | .child name => .object (Members.put fields name value)
  | .array items =>
    .array (items.mapIdx fun index item => if step.counts index then value else item)
  | node => node

def prune : List PathStep → JsonValue → JsonValue := changeAt dropChildren

def overwrite (value : JsonValue) : List PathStep → JsonValue → JsonValue :=
  changeAt (writeChildren value)

def denoted : List PathStep → JsonValue → List (List String)
  | [], _ => [[]]
  | .star :: steps, .object fields =>
    (sortedKeys fields).flatMap fun key =>
      ((fields.lookup key).elim [] (denoted steps)).map (key :: ·)
  | .child name :: steps, .object fields =>
    if steps = [] then [[name]]
    else ((fields.lookup name).elim [] (denoted steps)).map (name :: ·)
  | .star :: steps, .array items =>
    (List.range items.length).flatMap fun index =>
      (items[index]?.elim [] (denoted steps)).map (toString index :: ·)
  | .child name :: steps, .array items =>
    (((index? name).bind fun index => items[index]?).elim [] (denoted steps)).map (name :: ·)
  | _ :: _, _ => []

/-- In every object that a location reaches the names are distinct. -/
def JsonValue.DistinctNames (doc : JsonValue) : Prop :=
  ∀ path fields, doc.get path = some (.object fields) → (fields.map Prod.fst).Nodup

variable {fields : List (String × JsonValue)} {key : String}

theorem JsonValue.DistinctNames.child {child : JsonValue} (distinct : (object fields).DistinctNames)
    (found : fields.lookup key = some child) : child.DistinctNames := by
  intro path members stands
  refine distinct (key :: path) members ?_
  rw [get_object, found]
  exact stands

variable {items : List JsonValue} {index : Nat}

theorem JsonValue.DistinctNames.item {item : JsonValue} (distinct : (array items).DistinctNames)
    (found : items[index]? = some item) : item.DistinctNames := by
  intro path members stands
  refine distinct (toString index :: path) members ?_
  rw [get_array, index?_toString, Option.bind_some, found]
  exact stands

theorem JsonValue.DistinctNames.names (distinct : (object fields).DistinctNames) :
    (fields.map Prod.fst).Nodup :=
  distinct [] fields (get_nil _)

theorem JsonValue.distinctNames_object (unique : (fields.map Prod.fst).Nodup)
    (below : ∀ field ∈ fields, field.2.DistinctNames) :
    (object fields).DistinctNames := by
  intro path members stands
  cases path with
  | nil =>
    rw [← object.inj (Option.some.inj stands)]
    exact unique
  | cons key path =>
    obtain ⟨child, found, standsBelow⟩ := Option.bind_eq_some_iff.mp stands
    exact below (key, child) (mem_of_lookup found) path members standsBelow

theorem JsonValue.distinctNames_array (below : ∀ item ∈ items, item.DistinctNames) :
    (array items).DistinctNames := by
  intro path members stands
  cases path with
  | nil => cases Option.some.inj stands
  | cons segment path =>
    obtain ⟨index, -, stands⟩ := Option.bind_eq_some_iff.mp stands
    obtain ⟨item, found, standsBelow⟩ := Option.bind_eq_some_iff.mp stands
    exact below item (List.mem_of_getElem? found) path members standsBelow

section Decoding

variable {readNumber : String → Option String} {room : Nat}

def DecodesTo (readNumber : String → Option String) (room : Nat) (value next : JsonValue) : Prop :=
  value.unmarshal readNumber room = some next

/-- Decoding keeps the names and the order of members with distinct names. -/
theorem unmarshalFields_lookup {others : List (String × JsonValue)}
    (distinct : (fields.map Prod.fst).Nodup)
    (decoded : unmarshalFields readNumber room fields = some others) :
    others.map Prod.fst = fields.map Prod.fst ∧
      ∀ key, Option.Rel (DecodesTo readNumber room) (fields.lookup key) (others.lookup key) := by
  induction fields generalizing others with
  | nil =>
    obtain rfl := Option.some.inj decoded
    exact ⟨rfl, fun _ => .none⟩
  | cons field fields ih =>
    obtain ⟨fresh, restDistinct⟩ := List.nodup_cons.mp distinct
    obtain ⟨first, own, rest⟩ := Option.bind_eq_some_iff.mp decoded
    obtain ⟨tail, later, rfl⟩ := Option.map_eq_some_iff.mp rest
    obtain ⟨names, lookups⟩ := ih restDistinct later
    have isFresh : field.1 ∉ tail.map Prod.fst := by
      rw [names]
      exact fresh
    rw [if_neg isFresh]
    refine ⟨congrArg (field.1 :: ·) names, ?_⟩
    intro key
    obtain ⟨name, value⟩ := field
    cases same : key == name with
    | true =>
      simp only [List.lookup_cons, same]
      exact .some own
    | false =>
      simp only [List.lookup_cons, same]
      exact lookups key

theorem unmarshalItems_getElem? {others : List JsonValue}
    (decoded : unmarshalItems readNumber room items = some others) :
    others.length = items.length ∧
      ∀ index : Nat, Option.Rel (DecodesTo readNumber room) items[index]? others[index]? := by
  induction items generalizing others with
  | nil =>
    obtain rfl := Option.some.inj decoded
    exact ⟨rfl, fun _ => .none⟩
  | cons item items ih =>
    obtain ⟨first, own, rest⟩ := Option.bind_eq_some_iff.mp decoded
    obtain ⟨tail, later, rfl⟩ := Option.map_eq_some_iff.mp rest
    obtain ⟨length, each⟩ := ih later
    refine ⟨congrArg (· + 1) length, ?_⟩
    intro index
    cases index with
    | zero => exact .some own
    | succ index => exact each index

/-- The decoded document has the same paths. -/
theorem collectWildcardPaths_unmarshal (segments : List String) {doc root : JsonValue}
    (distinct : doc.DistinctNames) (decoded : doc.unmarshal readNumber room = some root)
    (before : List String) :
    collectWildcardPaths segments root before = collectWildcardPaths segments doc before := by
  induction segments generalizing doc root room before with
  | nil => rfl
  | cons first segments ih =>
    -- The children at a place have been decoded into one another.
    have under : ∀ {child next : Option JsonValue} {room : Nat} (collect : JsonValue → List String),
        (∀ value next, value.DistinctNames → DecodesTo readNumber room value next →
          collect next = collect value) →
        Option.Rel (DecodesTo readNumber room) child next →
        (∀ value, child = some value → value.DistinctNames) →
        (match next with
          | some next => collect next
          | none => []) =
          match child with
          | some child => collect child
          | none => [] := by
      intro child next room collect same related names
      cases related with
      | none => rfl
      | some related => exact same _ _ (names _ rfl) related
    cases doc with
    | null | bool | string =>
      obtain rfl := Option.some.inj decoded
      rfl
    | number printed =>
      obtain ⟨read, -, rfl⟩ := Option.map_eq_some_iff.mp decoded
      rfl
    | array items =>
      cases room with
      | zero => cases decoded
      | succ room =>
        obtain ⟨others, itemsDecoded, rfl⟩ := Option.map_eq_some_iff.mp decoded
        obtain ⟨length, each⟩ := unmarshalItems_getElem? itemsDecoded
        have below : ∀ (index : Nat) (before : List String),
            (match others[index]? with
              | some next => collectWildcardPaths segments next before
              | none => []) =
              match items[index]? with
              | some child => collectWildcardPaths segments child before
              | none => [] :=
          fun index before => under (collectWildcardPaths segments · before)
            (fun _ _ names related => ih names related before) (each index)
            fun _ found => distinct.item found
        have named : ∀ (index : Nat) (before : List String),
            (match others[index]? with
              | some next =>
                if segments = [] then [joinSegments before]
                else collectWildcardPaths segments next before
              | none => []) =
              match items[index]? with
              | some child =>
                if segments = [] then [joinSegments before]
                else collectWildcardPaths segments child before
              | none => [] :=
          fun index before => under (fun child => if segments = [] then [joinSegments before]
              else collectWildcardPaths segments child before)
            (fun _ _ names related => by rw [ih names related before]) (each index)
            fun _ found => distinct.item found
        simp only [collectWildcardPaths, length, below, named]
    | object fields =>
      cases room with
      | zero => cases decoded
      | succ room =>
        obtain ⟨others, fieldsDecoded, rfl⟩ := Option.map_eq_some_iff.mp decoded
        obtain ⟨names, lookups⟩ := unmarshalFields_lookup distinct.names fieldsDecoded
        have below : ∀ (key : String) (before : List String),
            (match others.lookup key with
              | some next => collectWildcardPaths segments next before
              | none => []) =
              match fields.lookup key with
              | some child => collectWildcardPaths segments child before
              | none => [] :=
          fun key before => under (collectWildcardPaths segments · before)
            (fun _ _ names related => ih names related before) (lookups key)
            fun _ found => distinct.child found
        simp only [collectWildcardPaths, sortedKeys, names, below]

end Decoding

theorem JsonValue.distinctNames_string (text : String) : (string text).DistinctNames := by
  intro path members stands
  cases path with
  | nil => cases Option.some.inj stands
  | cons segment path => cases stands

/-- A name that `strconv.Atoi` reads as an index is one. -/
def PathStep.Regular : PathStep → Prop
  | .star => True
  | .child name => ∀ index, atoi name = some index → 0 ≤ index → index? name = some index.toNat

variable {name : String}

theorem atoi_of_index? (indexed : index? name = some index) : atoi name = some (index : Int) := by
  have digits : name.toList.all Char.isDigit = true := by
    unfold index? at indexed
    split at indexed
    case isTrue holds => exact holds.2
    · cases indexed
  unfold atoi
  split
  case h_1 rest split =>
      rw [split, List.all_cons, Bool.and_eq_true] at digits
      exact absurd digits.1 (by decide)
  case h_2 rest split =>
      rw [split, List.all_cons, Bool.and_eq_true] at digits
      exact absurd digits.1 (by decide)
  case h_3 =>
      rw [indexed]
      rfl

theorem index?_of_atoi_none (read : atoi name = none) : index? name = none := by
  cases indexed : index? name with
  | none => rfl
  | some index =>
    rw [atoi_of_index? indexed] at read
    cases read

theorem index?_of_atoi_negative {value : Int} (read : atoi name = some value)
    (negative : value < 0) : index? name = none := by
  cases indexed : index? name with
  | none => rfl
  | some index =>
    rw [atoi_of_index? indexed] at read
    have same := Option.some.inj read
    omega

theorem ofSegment_eq_some {segment : String} {step : PathStep}
    (parsed : PathStep.ofSegment segment = some step) :
    trimSpace segment ≠ "" ∧
      ((trimSpace segment = "*" ∧ step = .star) ∨
        trimSpace segment ≠ "*" ∧ step = .child (trimSpace segment)) := by
  unfold PathStep.ofSegment at parsed
  split at parsed
  · cases parsed
  case isFalse nonempty =>
      refine ⟨nonempty, ?_⟩
      split at parsed
      case isTrue star => exact Or.inl ⟨star, (Option.some.inj parsed).symm⟩
      case isFalse named => exact Or.inr ⟨named, (Option.some.inj parsed).symm⟩

theorem map_joinSegments_cons
    (before : List String) (key : String) (locations : List (List String)) :
    (locations.map (key :: ·)).map (fun below => joinSegments (before ++ below)) =
      locations.map fun below => joinSegments (before ++ [key] ++ below) := by
  rw [List.map_map]
  refine List.map_congr_left ?_
  intro below _
  simp

variable {segments : List String} {steps : List PathStep}

theorem parsed_eq_nil_iff (parsed : segments.mapM PathStep.ofSegment = some steps) :
    segments = [] ↔ steps = [] := by
  cases segments with
  | nil =>
    obtain rfl := Option.some.inj parsed
    exact ⟨fun _ => rfl, fun _ => rfl⟩
  | cons first segments =>
    rw [List.mapM_cons] at parsed
    obtain ⟨step, -, parsed⟩ := Option.bind_eq_some_iff.mp parsed
    obtain ⟨steps', -, same⟩ := Option.bind_eq_some_iff.mp parsed
    obtain rfl := Option.some.inj same
    constructor
    · rintro ⟨⟩
    · rintro ⟨⟩

theorem collectWildcardPaths_eq (parsed : segments.mapM PathStep.ofSegment = some steps)
    (regular : ∀ step ∈ steps, step.Regular) (node : JsonValue) (before : List String) :
    collectWildcardPaths segments node before =
      (denoted steps node).map fun below => joinSegments (before ++ below) := by
  induction segments generalizing steps node before with
  | nil =>
    obtain rfl := Option.some.inj parsed
    simp [collectWildcardPaths, denoted]
  | cons first segments ih =>
    rw [List.mapM_cons] at parsed
    obtain ⟨step, stepParsed, parsed⟩ := Option.bind_eq_some_iff.mp parsed
    obtain ⟨steps', restParsed, same⟩ := Option.bind_eq_some_iff.mp parsed
    obtain rfl := Option.some.inj same
    have ends := parsed_eq_nil_iff restParsed
    have rest (child : JsonValue) (key : String) :
        collectWildcardPaths segments child (before ++ [key]) =
          ((denoted steps' child).map (key :: ·)).map fun below =>
            joinSegments (before ++ below) := by
      rw [map_joinSegments_cons]
      exact ih restParsed
        (fun other member => regular other (List.mem_cons_of_mem _ member)) child (before ++ [key])
    obtain ⟨nonempty, ⟨star, rfl⟩ | ⟨named, rfl⟩⟩ := ofSegment_eq_some stepParsed
    · cases node with
      | object fields =>
        simp only [collectWildcardPaths, star, denoted, List.map_flatMap,
          String.reduceEq, if_false, if_true]
        refine List.flatMap_congr ?_
        intro key _
        cases fields.lookup key with
        | none => rfl
        | some child => exact rest child key
      | array items =>
        simp only [collectWildcardPaths, star, denoted, List.map_flatMap,
          String.reduceEq, if_false, if_true]
        refine List.flatMap_congr ?_
        intro index _
        cases items[index]? with
        | none => rfl
        | some child => exact rest child (toString index)
      | _ => simp [collectWildcardPaths, star, denoted]
    · cases node with
      | object fields =>
        simp only [collectWildcardPaths, nonempty, named, denoted, if_false, ends]
        by_cases last : steps' = []
        · rw [if_pos last, if_pos last]
          rfl
        · rw [if_neg last, if_neg last]
          cases fields.lookup (trimSpace first) with
          | none => rfl
          | some child => exact rest child (trimSpace first)
      | array items =>
        simp only [collectWildcardPaths, nonempty, named, denoted, if_false, ends]
        have isRegular := regular _ List.mem_cons_self
        cases read : atoi (trimSpace first) with
        | none =>
          rw [index?_of_atoi_none read]
          rfl
        | some index =>
          by_cases negative : index < 0
          · rw [index?_of_atoi_negative read negative]
            simp only [if_pos negative]
            rfl
          · rw [isRegular index read (by omega)]
            simp only [if_neg negative, Option.bind_some]
            cases items[index.toNat]? with
            | none => rfl
            | some child =>
              by_cases last : steps' = []
              · rw [last]
                rfl
              · simp only [if_neg last]
                exact rest child (trimSpace first)
      | _ => simp [collectWildcardPaths, nonempty, named, denoted]

/-! ## Actions at locations -/

/-- An action that acts on a child as it acts on the document below it, at the
paths in the child for which it does. -/
structure LocalAction (act : JsonValue → List String → Option JsonValue)
    (within : List String → Prop) : Prop where
  object_child :
    ∀ {fields key child path}, fields.lookup key = some child → within path →
      act (.object fields) (key :: path) =
        (act child path).map fun changed => .object (Members.put fields key changed)
  array_child :
    ∀ {items : List JsonValue} {segment index child path},
      index? segment = some index → items[index]? = some child → within path →
        act (.array items) (segment :: path) =
          (act child path).map fun changed => .array (items.set index changed)

theorem set_local (value : JsonValue) :
    LocalAction (fun doc path => doc.set path value) fun _ => True where
  object_child := by
    intro fields key child path found _
    simp only [JsonValue.set, found]
  array_child := by
    intro items segment index child path indexed found _
    simp only [JsonValue.set, indexed, found]

theorem Members.put_lookup {child : JsonValue} (found : fields.lookup key = some child) :
    put fields key child = fields := by
  induction fields with
  | nil => cases found
  | cons field fields ih =>
    by_cases same : field.1 = key
    · subst same
      rw [lookup_cons_self] at found
      rw [put, if_pos rfl, ← Option.some.inj found]
    · rw [lookup_cons_of_ne same] at found
      rw [put, if_neg same, ih found]

theorem set_of_getElem? {item : JsonValue}
    (found : items[index]? = some item) : items.set index item = items := by
  obtain ⟨within, same⟩ := List.getElem?_eq_some_iff.mp found
  rw [← same, List.set_getElem_self within]

theorem remove_local : LocalAction (fun doc path => some (doc.remove path)) fun path =>
      path ≠ [] where
  object_child := by
    intro fields key child path found nonempty
    obtain ⟨next, rest, rfl⟩ := List.exists_cons_of_ne_nil nonempty
    simp only [remove, remove?, found, Option.bind_some, Option.map_some]
    cases child.remove? (next :: rest) with
    | none =>
      simp only [Option.map_none, Option.getD_none]
      rw [put_lookup found]
    | some changed => rfl
  array_child := by
    intro items segment index child path indexed found nonempty
    obtain ⟨next, rest, rfl⟩ := List.exists_cons_of_ne_nil nonempty
    have notLast : segment ≠ "-1" := by
      rintro rfl
      have unindexed : index? "-1" = none := by decide
      cases indexed
    simp only [remove, remove?, position?, if_neg notLast,
      indexed, found, Option.bind_some, Option.map_some]
    cases child.remove? (next :: rest) with
    | none =>
      simp only [Option.map_none, Option.getD_none]
      rw [set_of_getElem? found]
    | some changed => rfl

theorem Members.put_put (fields : List (String × JsonValue)) (key : String)
    (first second : JsonValue) :
    put (put fields key first) key second = put fields key second := by
  induction fields with
  | nil => simp [put]
  | cons field fields ih =>
    by_cases same : field.1 = key
    · simp [put, same]
    · simp [put, same, ih]

theorem Members.lookup_mapValues (change : String → JsonValue → JsonValue)
    (fields : List (String × JsonValue)) (key : String) :
    (fields.map fun field => (field.1, change field.1 field.2)).lookup key =
      (fields.lookup key).map (change key) := by
  induction fields with
  | nil => rfl
  | cons field fields ih =>
    rw [List.map_cons]
    by_cases same : field.1 = key
    · subst same
      rw [lookup_cons_self, List.lookup_cons_self]
      rfl
    · have different : (field.1, change field.1 field.2).1 ≠ key := same
      have skipped := lookup_cons_of_ne different
        (fields.map fun field => (field.1, change field.1 field.2))
      rw [skipped, ih, lookup_cons_of_ne same]

theorem Members.put_mapValues (change : String → JsonValue → JsonValue)
    (distinct : (fields.map Prod.fst).Nodup) (present : key ∈ fields.map Prod.fst)
    (value : JsonValue) :
    put (fields.map fun field => (field.1, change field.1 field.2)) key value =
      fields.map fun field =>
        (field.1, if field.1 = key then value else change field.1 field.2) := by
  induction fields with
  | nil => cases present
  | cons field fields ih =>
    rw [List.map_cons, List.nodup_cons] at distinct
    rw [List.map_cons, List.map_cons, put]
    by_cases same : field.1 = key
    · rw [if_pos same, if_pos same]
      congr 1
      · rw [same]
      · refine List.map_congr_left ?_
        intro other member
        have different : other.1 ≠ key := by
          rintro rfl
          exact distinct.1 (same ▸ List.mem_map_of_mem member)
        rw [if_neg different]
    · rw [if_neg same, if_neg same]
      congr 1
      refine ih distinct.2 ?_
      rw [List.map_cons, List.mem_cons] at present
      exact present.resolve_left (Ne.symm same)

theorem Members.lookup_of_mem {field : String × JsonValue}
    (distinct : (fields.map Prod.fst).Nodup) (member : field ∈ fields) :
    fields.lookup field.1 = some field.2 := by
  induction fields with
  | nil => cases member
  | cons head fields ih =>
    rw [List.map_cons, List.nodup_cons] at distinct
    rcases List.mem_cons.mp member with rfl | member
    · exact lookup_cons_self field.1 field.2 fields
    · have different : head.1 ≠ field.1 := by
        intro same
        exact distinct.1 (same ▸ List.mem_map_of_mem member)
      rw [lookup_cons_of_ne different, ih distinct.2 member]

section Actions

variable (act : JsonValue → List String → Option JsonValue)

def actAll : JsonValue → List (List String) → Option JsonValue
  | doc, [] => some doc
  | doc, location :: locations => (act doc location).bind fun result => actAll result locations

variable {act} {within : List String → Prop}

theorem actAll_append (doc : JsonValue) (first second : List (List String)) :
    actAll act doc (first ++ second) =
      (actAll act doc first).bind fun result => actAll act result second := by
  induction first generalizing doc with
  | nil => rfl
  | cons location first ih =>
    rw [List.cons_append, actAll, actAll, Option.bind_assoc]
    congr 1
    funext result
    exact ih result

variable {fields : List (String × JsonValue)}

variable {locations : List (List String)} {below : JsonValue → List (List String)}

theorem actAll_member (locality : LocalAction act within) {key : String} {child : JsonValue}
    (found : fields.lookup key = some child) (inside : ∀ location ∈ locations, within location) :
    actAll act (.object fields) (locations.map (key :: ·)) =
      (actAll act child locations).map fun changed =>
        .object (put fields key changed) := by
  induction locations generalizing fields child with
  | nil =>
    simp only [List.map_nil, actAll, Option.map_some]
    rw [put_lookup found]
  | cons location locations ih =>
    rw [List.map_cons, actAll, actAll,
      locality.object_child found (inside location List.mem_cons_self)]
    cases act child location with
    | none => rfl
    | some changed =>
      simp only [Option.map_some, Option.bind_some]
      rw [ih (lookup_put_self fields key changed)
        fun other member => inside other (List.mem_cons_of_mem _ member)]
      congr 1
      funext result
      rw [put_put]

theorem actAll_item (locality : LocalAction act within) {items : List JsonValue} {segment : String}
    {index : Nat} {child : JsonValue} (indexed : index? segment = some index)
    (found : items[index]? = some child) (inside : ∀ location ∈ locations, within location) :
    actAll act (.array items) (locations.map (segment :: ·)) =
      (actAll act child locations).map fun changed =>
        .array (items.set index changed) := by
  induction locations generalizing items child with
  | nil =>
    simp only [List.map_nil, actAll, Option.map_some]
    rw [set_of_getElem? found]
  | cons location locations ih =>
    rw [List.map_cons, actAll, actAll,
      locality.array_child indexed found (inside location List.mem_cons_self)]
    cases act child location with
    | none => rfl
    | some changed =>
      have within := (List.getElem?_eq_some_iff.mp found).1
      simp only [Option.map_some, Option.bind_some]
      rw [ih (List.getElem?_set_self within)
        fun other member => inside other (List.mem_cons_of_mem _ member)]
      congr 1
      funext result
      rw [List.set_set]

theorem actAll_members (locality : LocalAction act within) (distinct : (fields.map Prod.fst).Nodup)
    (change : JsonValue → JsonValue) (inside : ∀ child, ∀ location ∈ below child, within location)
    (runs : ∀ field ∈ fields, actAll act field.2 (below field.2) = some (change field.2))
    (done todo : List String) (fresh : todo.Nodup) (apart : ∀ key ∈ todo, key ∉ done)
    (present : ∀ key ∈ todo, key ∈ fields.map Prod.fst) :
    actAll act
        (.object (fields.map fun field =>
          (field.1, if field.1 ∈ done then change field.2 else field.2)))
        (todo.flatMap fun key => ((fields.lookup key).elim [] below).map (key :: ·)) =
      some (.object (fields.map fun field =>
        (field.1, if field.1 ∈ done ++ todo then change field.2 else field.2))) := by
  induction todo generalizing done with
  | nil => simp [actAll]
  | cons key todo ih =>
    obtain ⟨notLater, freshRest⟩ := List.nodup_cons.mp fresh
    obtain ⟨field, member, rfl⟩ := List.mem_map.mp (present key List.mem_cons_self)
    have notDone := apart field.1 List.mem_cons_self
    have found := lookup_of_mem distinct member
    have current := lookup_mapValues
      (fun name value => if name ∈ done then change value else value) fields field.1
    rw [found, Option.map_some, if_neg notDone] at current
    rw [List.flatMap_cons, actAll_append, found, Option.elim_some,
      actAll_member locality current (inside field.2),
      runs field member, Option.map_some, Option.bind_some,
      put_mapValues (fun name value => if name ∈ done then change value else value)
        distinct (List.mem_map_of_mem member)]
    have next := ih (done ++ [field.1]) freshRest
      (by
        intro other there
        rw [List.mem_append, List.mem_singleton, not_or]
        exact ⟨apart other (List.mem_cons_of_mem _ there), fun same => notLater (same ▸ there)⟩)
      (fun other there => present other (List.mem_cons_of_mem _ there))
    rw [List.append_assoc, List.singleton_append] at next
    rw [← next]
    congr 2
    refine List.map_congr_left ?_
    intro other there
    by_cases same : other.1 = field.1
    · have values : other.2 = field.2 := by
        have otherFound := lookup_of_mem distinct there
        rw [same, found] at otherFound
        exact (Option.some.inj otherFound).symm
      rw [if_pos same, if_pos (by simp [same]), values]
    · have listed : other.1 ∈ done ++ [field.1] ↔ other.1 ∈ done := by simp [same]
      rw [if_neg same]
      simp only [listed]

theorem mapIdx_of_eq (change : Nat → JsonValue → JsonValue) {items : List JsonValue}
    (same : ∀ index item, items[index]? = some item → change index item = item) :
    items.mapIdx change = items := by
  refine List.ext_getElem? ?_
  intro index
  rw [List.getElem?_mapIdx]
  cases found : items[index]? with
  | none => rfl
  | some item => rw [Option.map_some, same index item found]

theorem actAll_items (locality : LocalAction act within) (items : List JsonValue)
    (change : JsonValue → JsonValue) (inside : ∀ child, ∀ location ∈ below child, within location)
    (runs : ∀ item ∈ items, actAll act item (below item) = some (change item)) (count : Nat) :
    actAll act (.array items)
        ((List.range count).flatMap fun index =>
          (items[index]?.elim [] below).map (toString index :: ·)) =
      some (.array (items.mapIdx fun index item =>
        if index < count then change item else item)) := by
  induction count with
  | zero =>
    simp only [List.range_zero, List.flatMap_nil, actAll, Nat.not_lt_zero, if_false]
    rw [mapIdx_of_eq (fun index item => item) fun _ _ _ => rfl]
  | succ count ih =>
    rw [List.range_succ, List.flatMap_append, actAll_append,
      ih, Option.bind_some, List.flatMap_singleton]
    cases found : items[count]? with
    | none =>
      rw [Option.elim_none, List.map_nil, actAll]
      congr 2
      refine List.ext_getElem? ?_
      intro index
      rw [List.getElem?_mapIdx, List.getElem?_mapIdx]
      by_cases same : index = count
      · rw [same, found]
        rfl
      · have bounds : index < count + 1 ↔ index < count := by omega
        simp only [bounds]
    | some item =>
      have member := List.mem_of_getElem? found
      have current : (items.mapIdx fun index item =>
            if index < count then change item else item)[count]? = some item := by
        rw [List.getElem?_mapIdx, found]
        simp
      rw [Option.elim_some, actAll_item locality (index?_toString count) current (inside item),
        runs item member, Option.map_some]
      congr 2
      refine List.ext_getElem? ?_
      intro index
      by_cases same : index = count
      · subst same
        have within := (List.getElem?_eq_some_iff.mp current).1
        rw [List.getElem?_set_self within, List.getElem?_mapIdx, found]
        simp
      · have bounds : index < count + 1 ↔ index < count := by omega
        rw [List.getElem?_set_ne (Ne.symm same), List.getElem?_mapIdx, List.getElem?_mapIdx]
        simp only [bounds]

theorem denoted_nonempty (step : PathStep) (steps : List PathStep) (node : JsonValue) :
    ∀ location ∈ denoted (step :: steps) node, location ≠ [] := by
  rintro location member rfl
  have heads (keys : List String) (rest : List (List String)) (key : String) :
      [] ∉ rest.map (key :: ·) := by simp
  cases step with
  | star =>
    cases node with
    | object fields =>
      obtain ⟨key, -, below⟩ := List.mem_flatMap.mp member
      exact heads [] _ key below
    | array items =>
      obtain ⟨index, -, below⟩ := List.mem_flatMap.mp member
      exact heads [] _ (toString index) below
    | _ => cases member
  | child name =>
    cases node with
    | object fields =>
      simp only [denoted] at member
      split at member
      · cases List.mem_singleton.mp member
      · exact heads [] _ name member
    | array items => exact heads [] _ name member
    | _ => cases member

theorem mem_sortedKeys {key : String} : key ∈ sortedKeys fields ↔ key ∈ fields.map Prod.fst :=
  List.mem_insertionSort _

theorem nodup_sortedKeys (distinct : (fields.map Prod.fst).Nodup) : (sortedKeys fields).Nodup :=
  (List.perm_insertionSort _ _).nodup_iff.mpr distinct

theorem map_values_self (change : String → JsonValue → JsonValue)
    (same : ∀ field ∈ fields, change field.1 field.2 = field.2) :
    (fields.map fun field => (field.1, change field.1 field.2)) = fields := by
  have identity : (fields.map fun field => (field.1, change field.1 field.2)) = fields.map id := by
    refine List.map_congr_left ?_
    intro field member
    rw [same field member]
    rfl
  rw [identity, List.map_id]

section Children

variable (locality : LocalAction act within) {fields : List (String × JsonValue)}
  {items : List JsonValue} (change : JsonValue → JsonValue)
  {below : JsonValue → List (List String)}
  (inside : ∀ child, ∀ location ∈ below child, within location)

include locality inside

section

variable (unique : (fields.map Prod.fst).Nodup)
  (runs : ∀ field ∈ fields, actAll act field.2 (below field.2) = some (change field.2))
include unique runs

theorem actAll_everyMember :
    actAll act (.object fields)
        ((sortedKeys fields).flatMap fun key =>
          ((fields.lookup key).elim [] below).map (key :: ·)) =
      some (.object (fields.map fun field => (field.1, change field.2))) := by
  have run := actAll_members locality unique change inside runs [] (sortedKeys fields)
    (nodup_sortedKeys unique) (fun _ _ => List.not_mem_nil)
    (fun key member => mem_sortedKeys.mp member)
  simp only [List.not_mem_nil, if_false, List.nil_append, mem_sortedKeys] at run
  rw [map_values_self (fun _ value => value) fun _ _ => rfl] at run
  rw [run]
  congr 2
  refine List.map_congr_left ?_
  intro field member
  rw [if_pos (List.mem_map_of_mem member)]

theorem actAll_namedMember (name : String) :
    actAll act (.object fields) (((fields.lookup name).elim [] below).map (name :: ·)) =
      some (.object (fields.map fun field =>
        (field.1, if field.1 = name then change field.2 else field.2))) := by
  cases found : fields.lookup name with
  | none =>
    rw [Option.elim_none, List.map_nil, actAll,
      map_values_self fun key value => if key = name then change value else value]
    intro field member
    refine if_neg ?_
    rintro rfl
    rw [lookup_of_mem unique member] at found
    cases found
  | some child =>
    have present := mem_of_lookup found
    have put := put_mapValues (fun _ value => value) unique
      (List.mem_map_of_mem present) (change child)
    rw [map_values_self (fun _ value => value) fun _ _ => rfl] at put
    rw [Option.elim_some, actAll_member locality found (inside child),
      runs (name, child) present, Option.map_some]
    rw [put]
    congr 2
    refine List.map_congr_left ?_
    intro field member
    by_cases same : field.1 = name
    · have located := lookup_of_mem unique member
      rw [same, found] at located
      rw [if_pos same, if_pos same, Option.some.inj located]
    · rw [if_neg same, if_neg same]

end

theorem actAll_everyItem
    (runs : ∀ item ∈ items, actAll act item (below item) = some (change item)) :
    actAll act (.array items)
        ((List.range items.length).flatMap fun index =>
          (items[index]?.elim [] below).map (toString index :: ·)) =
      some (.array (items.mapIdx fun _ item => change item)) := by
  rw [actAll_items locality items change inside runs items.length]
  congr 2
  refine List.ext_getElem? ?_
  intro index
  rw [List.getElem?_mapIdx, List.getElem?_mapIdx]
  cases found : items[index]? with
  | none => rfl
  | some item =>
    have within := (List.getElem?_eq_some_iff.mp found).1
    rw [Option.map_some, Option.map_some, if_pos within]

theorem actAll_indexedItem
    (runs : ∀ item ∈ items, actAll act item (below item) = some (change item)) (name : String) :
    actAll act (.array items)
        ((((index? name).bind fun index => items[index]?).elim [] below).map (name :: ·)) =
      some (.array (items.mapIdx fun index item =>
        if index? name = some index then change item else item)) := by
  cases indexed : index? name with
  | none =>
    rw [Option.bind_none, Option.elim_none, List.map_nil, actAll, mapIdx_of_eq]
    intro index item _
    refine if_neg ?_
    rintro ⟨⟩
  | some position =>
    rw [Option.bind_some]
    cases found : items[position]? with
    | none =>
      rw [Option.elim_none, List.map_nil, actAll, mapIdx_of_eq]
      intro index item located
      refine if_neg ?_
      intro same
      rw [Option.some.inj same, located] at found
      cases found
    | some child =>
      rw [Option.elim_some, actAll_item locality indexed found (inside child),
        runs child (List.mem_of_getElem? found), Option.map_some]
      congr 2
      refine List.ext_getElem? ?_
      intro index
      rw [List.getElem?_mapIdx]
      by_cases same : position = index
      · subst same
        have within := (List.getElem?_eq_some_iff.mp found).1
        rw [List.getElem?_set_self within, found]
        simp
      · rw [List.getElem?_set_ne same]
        cases items[index]? with
        | none => rfl
        | some item =>
          rw [Option.map_some, if_neg]
          exact fun equal => same (Option.some.inj equal)

end Children

theorem actAll_denoted (locality : LocalAction act within)
    (inside : ∀ path, path ≠ [] → within path) (change : PathStep → JsonValue → JsonValue)
    (ends : ∀ step node, node.DistinctNames →
        actAll act node (denoted [step] node) = some (change step node))
    {steps : List PathStep} (nonempty : steps ≠ []) {node : JsonValue}
    (distinct : node.DistinctNames) :
    actAll act node (denoted steps node) = some (changeAt change steps node) := by
  induction steps generalizing node with
  | nil => exact absurd rfl nonempty
  | cons step steps ih =>
    cases steps with
    | nil =>
      rw [ends step node distinct]
      cases node <;> rfl
    | cons next steps =>
      have notRoot (child : JsonValue) (location : List String)
          (member : location ∈ denoted (next :: steps) child) :
          within location :=
        inside location (denoted_nonempty next steps child location member)
      cases node with
      | object fields =>
        have unique := distinct.names
        have runs :
            ∀ field ∈ fields,
              actAll act field.2 (denoted (next :: steps) field.2) =
                some (changeAt change (next :: steps) field.2) :=
          fun field member =>
            ih (List.cons_ne_nil _ _) (distinct.child (lookup_of_mem unique member))
        cases step with
        | star =>
          rw [denoted, actAll_everyMember locality _ notRoot unique runs]
          rfl
        | child name =>
          rw [denoted, if_neg (List.cons_ne_nil _ _),
            actAll_namedMember locality _ notRoot unique runs name]
          simp only [changeAt, PathStep.names, decide_eq_true_eq]
      | array items =>
        have runs :
            ∀ item ∈ items,
              actAll act item (denoted (next :: steps) item) =
                some (changeAt change (next :: steps) item) := by
          intro item member
          obtain ⟨index, found⟩ := List.mem_iff_getElem?.mp member
          exact ih (List.cons_ne_nil _ _) (distinct.item found)
        cases step with
        | star =>
          rw [denoted, actAll_everyItem locality _ notRoot runs]
          simp only [changeAt, PathStep.counts, if_true]
        | child name =>
          rw [denoted, actAll_indexedItem locality _ notRoot runs name]
          simp only [changeAt, PathStep.counts, decide_eq_true_eq]
      | _ => cases step <;> rfl

end Actions

/-! ## Assignments and deletions at the children of a node -/

theorem set_ends (value : JsonValue) (step : PathStep) {node : JsonValue}
    (distinct : node.DistinctNames) :
    actAll (fun doc path => doc.set path value) node (denoted [step] node) =
      some (writeChildren value step node) := by
  have locality := set_local value
  have runs (child : JsonValue) :
      actAll (fun doc path => doc.set path value) child (denoted [] child) = some value := by
    cases child <;> rfl
  have inside (child : JsonValue) (location : List String)
      (_ : location ∈ denoted [] child) : True :=
    trivial
  cases node with
  | object fields =>
    cases step with
    | star =>
      rw [denoted, actAll_everyMember locality (fun _ => value) inside
        distinct.names fun field _ => runs field.2]
      rfl
    | child name =>
      rw [denoted, if_pos rfl]
      change (set (.object fields) [name] value).bind _ = _
      rw [set_object_cons]
      cases fields.lookup name with
      | none => rfl
      | some child => cases child <;> rfl
  | array items =>
    cases step with
    | star =>
      rw [denoted, actAll_everyItem locality (fun _ => value) inside fun item _ => runs item]
      rfl
    | child name =>
      rw [denoted, actAll_indexedItem locality (fun _ => value) inside
        (fun item _ => runs item) name]
      simp only [writeChildren, PathStep.counts, decide_eq_true_eq]
  | _ => cases step <;> rfl

theorem denoted_nil (node : JsonValue) : denoted [] node = [[]] := by
  cases node <;> rfl

theorem denoted_star_object (fields : List (String × JsonValue)) :
    denoted [.star] (.object fields) = (sortedKeys fields).map fun key => [key] := by
  rw [denoted, List.map_eq_flatMap]
  refine List.flatMap_congr ?_
  intro key member
  obtain ⟨field, present, rfl⟩ := List.mem_map.mp (mem_sortedKeys.mp member)
  cases found : fields.lookup field.1 with
  | none =>
    have absent := List.lookup_eq_none_iff.mp found field present
    simp at absent
  | some child =>
    rw [Option.elim_some, denoted_nil]
    rfl

theorem denoted_star_array (items : List JsonValue) : denoted [.star] (.array items) =
      (List.range items.length).map fun index => [toString index] := by
  rw [denoted, List.map_eq_flatMap]
  refine List.flatMap_congr ?_
  intro index member
  rw [List.getElem?_eq_getElem (List.mem_range.mp member), Option.elim_some, denoted_nil]
  rfl

section Deletions

variable {fields : List (String × JsonValue)} {items : List JsonValue}

theorem remove_member (key : String) :
    (object fields).remove [key] = .object (drop fields key) := by
  simp only [remove, remove?]
  cases found : fields.lookup key with
  | none =>
    have kept : drop fields key = fields := by
      refine List.filter_eq_self.mpr ?_
      intro field member
      have absent := List.lookup_eq_none_iff.mp found field member
      have different : key ≠ field.1 := by simpa using absent
      exact decide_eq_true (Ne.symm different)
    rw [kept]
    rfl
  | some child => rfl

theorem remove_members (fields : List (String × JsonValue)) (keys : List String) :
    actAll (fun doc path => some (doc.remove path)) (.object fields) (keys.map fun key => [key]) =
      some (.object (fields.filter fun field => field.1 ∉ keys)) := by
  induction keys generalizing fields with
  | nil => simp [actAll]
  | cons key keys ih =>
    rw [List.map_cons, actAll, Option.bind_some, remove_member, ih, drop, List.filter_filter]
    congr 2
    refine List.filter_congr ?_
    intro field _
    simp only [List.mem_cons, not_or, Bool.decide_and]
    exact Bool.and_comm _ _

theorem remove_item (index : Nat) :
    (array items).remove [toString index] = .array (items.eraseIdx index) := by
  have notLast : toString index ≠ "-1" := by
    intro same
    have indexed := index?_toString index
    rw [same] at indexed
    cases indexed
  simp only [remove, remove?, position?, if_neg notLast, index?_toString, Option.bind_some]
  cases found : items[index]? with
  | none =>
    rw [List.eraseIdx_of_length_le (List.getElem?_eq_none_iff.mp found)]
    rfl
  | some item => rfl

/-- The deletion at the first indexes: each deletes an item at most, and the
first one does. -/
theorem remove_items (items : List JsonValue) (count : Nat) :
    ∃ kept, actAll (fun doc path => some (doc.remove path)) (.array items)
        ((List.range count).map fun index => [toString index]) = some (.array kept) ∧
      items.length ≤ kept.length + count ∧ kept.length ≤ items.length ∧
        (0 < count → kept.length ≤ items.length - 1) := by
  induction count with
  | zero =>
    exact ⟨items, rfl, Nat.le_refl _, Nat.le_refl _,
      fun positive => absurd positive (Nat.lt_irrefl 0)⟩
  | succ count ih =>
    obtain ⟨kept, run, atLeast, noMore, atMost⟩ := ih
    refine ⟨kept.eraseIdx count, ?_, ?_, ?_, ?_⟩
    · rw [List.range_succ, List.map_append, actAll_append, run,
        Option.bind_some, List.map_singleton]
      change some ((array kept).remove [toString count]) = _
      rw [remove_item]
    · rw [List.length_eraseIdx]
      split <;> omega
    · rw [List.length_eraseIdx]
      split <;> omega
    · intro _
      rw [List.length_eraseIdx]
      cases count with
      | zero => split <;> omega
      | succ count => split <;> omega

/-- The deletion of every item leaves nothing only if there is one item at
most: the last index is not found any more, once an item is deleted. -/
theorem remove_every_item_iff (items : List JsonValue) :
    actAll (fun doc path => some (doc.remove path)) (.array items)
        (denoted [.star] (.array items)) = some (.array []) ↔
      items.length ≤ 1 := by
  rw [denoted_star_array]
  constructor
  · intro emptied
    by_contra several
    obtain ⟨last, count⟩ : ∃ last, items.length = last + 1 := ⟨items.length - 1, by omega⟩
    obtain ⟨kept, run, atLeast, -, atMost⟩ := remove_items items last
    rw [count, List.range_succ, List.map_append, actAll_append, run,
      Option.bind_some, List.map_singleton] at emptied
    change some ((array kept).remove [toString last]) = _ at emptied
    rw [remove_item, List.eraseIdx_of_length_le (by omega)] at emptied
    have none := congrArg List.length (array.inj (Option.some.inj emptied))
    rw [List.length_nil] at none
    omega
  · intro few
    cases items with
    | nil => rfl
    | cons item rest =>
      obtain rfl : rest = [] := by
        rw [List.length_cons] at few
        exact List.length_eq_zero_iff.mp (by omega)
      change some ((array [item]).remove [toString 0]) = _
      rw [remove_item]
      rfl

end Deletions

/-- What the deletions at the children of a node leave of it. -/
def removeEach (step : PathStep) (node : JsonValue) : JsonValue :=
  (actAll (fun doc path => some (doc.remove path)) node (denoted [step] node)).getD node

theorem remove_total (locations : List (List String)) (node : JsonValue) :
    ∃ result, actAll (fun doc path => some (doc.remove path)) node locations = some result := by
  induction locations generalizing node with
  | nil => exact ⟨node, rfl⟩
  | cons location locations ih => exact ih (node.remove location)

theorem remove_ends (step : PathStep) (node : JsonValue) :
    actAll (fun doc path => some (doc.remove path)) node
        (denoted [step] node) = some (removeEach step node) := by
  obtain ⟨result, run⟩ := remove_total (denoted [step] node) node
  rw [removeEach, run]
  rfl

/-- A deletion at every item of an array shifts no item that is still to be
deleted. -/
def ShiftsNothing : PathStep → JsonValue → Prop
  | .star, .array items => items.length ≤ 1
  | _, _ => True

theorem filter_zipIdx_ne (items : List JsonValue) (index start : Nat) :
    (((items.zipIdx start).filter fun item =>
        !decide (some (start + index) = some item.2)).map Prod.fst) =
      items.eraseIdx index := by
  induction items generalizing index start with
  | nil => rfl
  | cons item items ih =>
    rw [List.zipIdx_cons]
    cases index with
    | zero =>
      have later : ((items.zipIdx (start + 1)).filter fun item =>
            !decide (some (start + 0) = some item.2)) = items.zipIdx (start + 1) := by
        refine List.filter_eq_self.mpr ?_
        intro entry member
        have bound := List.le_snd_of_mem_zipIdx member
        simp only [Option.some.injEq, Bool.not_eq_true', decide_eq_false_iff_not]
        omega
      rw [List.filter_cons_of_neg (by simp), later, List.zipIdx_map_fst]
      rfl
    | succ index =>
      have next := ih index (start + 1)
      have same : start + 1 + index = start + (index + 1) := by omega
      rw [same] at next
      rw [List.filter_cons_of_pos (by simp), List.map_cons, next]
      rfl

theorem denoted_child_array (name : String) (items : List JsonValue) :
    denoted [.child name] (.array items) =
      (((index? name).bind fun index => items[index]?).elim [] fun _ => [[name]]) := by
  rw [denoted]
  cases (index? name).bind fun index => items[index]? with
  | none => rfl
  | some item =>
    rw [Option.elim_some, denoted_nil]
    rfl

theorem removeEach_child_array (name : String) (items : List JsonValue) :
    removeEach (.child name) (.array items) = dropChildren (.child name) (.array items) := by
  rw [removeEach, denoted_child_array, dropChildren]
  simp only [PathStep.counts]
  cases indexed : index? name with
  | none => simp [actAll]
  | some index =>
    have dropped := filter_zipIdx_ne items index 0
    rw [Nat.zero_add] at dropped
    rw [dropped, Option.bind_some]
    cases found : items[index]? with
    | none =>
      rw [Option.elim_none, List.eraseIdx_of_length_le (List.getElem?_eq_none_iff.mp found)]
      rfl
    | some item =>
      have notLast : name ≠ "-1" := by
        rintro rfl
        have unindexed : index? "-1" = none := by decide
        cases indexed
      change (array items).remove [name] = _
      simp only [remove, remove?, position?, if_neg notLast, indexed,
        Option.bind_some, found, Option.map_some, Option.getD_some]

/-- The deletions leave what they should exactly if they shift nothing. -/
theorem removeEach_eq_iff (step : PathStep) (node : JsonValue) :
    removeEach step node = dropChildren step node ↔ ShiftsNothing step node := by
  cases node with
  | object fields =>
    refine iff_of_true ?_ (by cases step <;> trivial)
    cases step with
    | star =>
      rw [removeEach, denoted_star_object, remove_members, dropChildren]
      have every : fields.filter (fun field => field.1 ∉ sortedKeys fields) = [] := by
        refine List.filter_eq_nil_iff.mpr ?_
        intro field member
        simpa [mem_sortedKeys] using ⟨field.2, member⟩
      rw [every]
      simp [PathStep.names]
    | child name =>
      rw [removeEach, denoted, if_pos rfl, dropChildren]
      change (object fields).remove [name] = _
      rw [remove_member, drop]
      simp [PathStep.names]
  | array items =>
    cases step with
    | star =>
      have ends := remove_ends .star (.array items)
      have none : dropChildren .star (.array items) = .array [] := by
        simp [dropChildren, PathStep.counts]
      rw [none]
      refine Iff.trans ?_ (remove_every_item_iff items)
      rw [ends, Option.some.injEq]
    | child name => exact iff_of_true (removeEach_child_array name items) trivial
  | _ => cases step <;> simp [removeEach, denoted, actAll, dropChildren, ShiftsNothing]

def EndsSatisfy (property : PathStep → JsonValue → Prop) :
    List PathStep → JsonValue → Prop
  | [], _ => True
  | [step], node => property step node
  | step :: next :: steps, .object fields =>
    ∀ field ∈ fields, step.names field.1 = true → EndsSatisfy property (next :: steps) field.2
  | step :: next :: steps, .array items =>
    ∀ index item, items[index]? = some item → step.counts index = true →
      EndsSatisfy property (next :: steps) item
  | _, _ => True

theorem shiftsNothing_of_name (steps : List PathStep) (name : String) (node : JsonValue) :
    EndsSatisfy ShiftsNothing (steps ++ [.child name]) node := by
  induction steps generalizing node with
  | nil => trivial
  | cons step steps ih =>
    obtain ⟨next, rest, split⟩ := List.exists_cons_of_ne_nil
      (List.append_ne_nil_of_right_ne_nil steps (List.cons_ne_nil (PathStep.child name) []))
    rw [List.cons_append, split]
    rw [split] at ih
    cases node with
    | object fields => exact fun field _ _ => ih field.2
    | array items => exact fun _ item _ _ => ih item
    | _ => trivial

/-- Two changes agree exactly if they agree where the last step is applied. -/
theorem changeAt_eq_iff {first second : PathStep → JsonValue → JsonValue}
    {property : PathStep → JsonValue → Prop}
    (ends : ∀ step node, first step node = second step node ↔ property step node)
    (steps : List PathStep) (node : JsonValue) :
    changeAt first steps node = changeAt second steps node ↔ EndsSatisfy property steps node := by
  induction steps generalizing node with
  | nil => simp [changeAt, EndsSatisfy]
  | cons step steps ih =>
    cases steps with
    | nil => cases node <;> exact ends step _
    | cons next steps =>
      cases node with
      | object fields =>
        rw [changeAt, changeAt, EndsSatisfy, object.injEq, List.map_inj_left]
        refine forall₂_congr ?_
        intro field _
        by_cases named : step.names field.1 = true
        · simp [named, ih]
        · simp [named]
      | array items =>
        rw [changeAt, changeAt, EndsSatisfy, array.injEq]
        constructor
        · intro same index item found counted
          have located := congrArg (fun list => list[index]?) same
          simp only [List.getElem?_mapIdx, found, Option.map_some,
            counted, if_true, Option.some.injEq] at located
          exact (ih item).mp located
        · intro below
          refine List.ext_getElem? ?_
          intro index
          rw [List.getElem?_mapIdx, List.getElem?_mapIdx]
          cases found : items[index]? with
          | none => rfl
          | some item =>
            by_cases counted : step.counts index = true
            · rw [Option.map_some, Option.map_some, if_pos counted, if_pos counted,
                (ih item).mpr (below index item found counted)]
            · rw [Option.map_some, Option.map_some, if_neg counted, if_neg counted]
      | _ => simp [changeAt, EndsSatisfy]

/-! ## Texts -/

theorem nodup_flatMap_cons {α : Type} {head : α → String} {below : α → List (List String)}
    {keys : List α} (distinct : (keys.map head).Nodup) (each : ∀ key ∈ keys, (below key).Nodup) :
    (keys.flatMap fun key => (below key).map (head key :: ·)).Nodup := by
  induction keys with
  | nil => exact List.nodup_nil
  | cons key keys ih =>
    rw [List.map_cons, List.nodup_cons] at distinct
    rw [List.flatMap_cons, List.nodup_append]
    refine ⟨?_, ih distinct.2 fun other member => each other (List.mem_cons_of_mem _ member), ?_⟩
    · exact (each key List.mem_cons_self).map (fun left right same => (List.cons.inj same).2)
    · rintro location first other later rfl
      obtain ⟨path, -, rfl⟩ := List.mem_map.mp first
      obtain ⟨next, member, inside⟩ := List.mem_flatMap.mp later
      obtain ⟨rest, -, same⟩ := List.mem_map.mp inside
      exact distinct.1 ((List.cons.inj same).1 ▸ List.mem_map_of_mem member)

theorem toString_injective {left right : Nat}
    (same : toString left = toString right) : left = right := by
  have indexed := index?_toString left
  rw [same, index?_toString] at indexed
  exact (Option.some.inj indexed).symm

theorem nodup_denoted (steps : List PathStep) {node : JsonValue} (distinct : node.DistinctNames) :
    (denoted steps node).Nodup := by
  induction steps generalizing node with
  | nil => rw [denoted_nil]; simp
  | cons step steps ih =>
    have under (key : String) {child : JsonValue} (names : child.DistinctNames) :
        ((denoted steps child).map (key :: ·)).Nodup :=
      (ih names).map fun left right same => (List.cons.inj same).2
    cases node with
    | object fields =>
      cases step with
      | star =>
        rw [denoted]
        refine nodup_flatMap_cons (by simpa using nodup_sortedKeys distinct.names) ?_
        intro key _
        cases found : fields.lookup key with
        | none => exact List.nodup_nil
        | some child => exact ih (distinct.child found)
      | child name =>
        rw [denoted]
        split
        · exact List.nodup_singleton _
        · cases found : fields.lookup name with
          | none => exact List.nodup_nil
          | some child => exact under name (distinct.child found)
    | array items =>
      cases step with
      | star =>
        rw [denoted]
        refine nodup_flatMap_cons (List.nodup_range.map fun _ _ same => toString_injective same) ?_
        intro index _
        cases found : items[index]? with
        | none => exact List.nodup_nil
        | some item => exact ih (distinct.item found)
      | child name =>
        rw [denoted]
        cases indexed : index? name with
        | none => exact List.nodup_nil
        | some index =>
          rw [Option.bind_some]
          cases found : items[index]? with
          | none => exact List.nodup_nil
          | some item => exact under name (distinct.item found)
    | _ => cases step <;> exact List.nodup_nil

theorem noDot_of_isPlainName (plain : isPlainName name = true) : '.' ∉ name.toList := by
  intro member
  rw [isPlainName, Bool.and_eq_true] at plain
  exact absurd (List.all_eq_true.mp plain.2 '.' member) (by decide)

section

variable {location : List String} (nonempty : location ≠ [])
  (plain : ∀ name ∈ location, isPlainName name = true)
include nonempty plain

theorem pathSegments_of_plainNames :
    pathSegments (joinSegments location) = location :=
  pathSegments_joinSegments nonempty fun name member => noDot_of_isPlainName (plain name member)

theorem isPlainPath_of_plainNames :
    isPlainPath (joinSegments location) = true := by
  rw [isPlainPath, pathSegments_of_plainNames nonempty plain]
  exact List.all_eq_true.mpr plain

end

variable {locations : List (List String)}

theorem nodup_map_joinSegments (distinct : locations.Nodup)
    (nonempty : ∀ location ∈ locations, location ≠ [])
    (plain : ∀ location ∈ locations, ∀ name ∈ location, isPlainName name = true) :
    (locations.map joinSegments).Nodup := by
  refine List.Nodup.map_on ?_ distinct
  intro left leftMember right rightMember same
  rw [← pathSegments_of_plainNames (nonempty left leftMember) (plain left leftMember), same,
    pathSegments_of_plainNames (nonempty right rightMember) (plain right rightMember)]

theorem eraseDups_of_nodup {texts : List String} (distinct : texts.Nodup) :
    texts.eraseDups = texts := by
  induction texts with
  | nil => rfl
  | cons text texts ih =>
    obtain ⟨fresh, rest⟩ := List.nodup_cons.mp distinct
    have kept : texts.filter (fun other => !other == text) = texts := by
      refine List.filter_eq_self.mpr ?_
      intro other member
      have different : other ≠ text := by
        rintro rfl
        exact fresh member
      simpa using different
    rw [List.eraseDups_cons, kept, ih rest]

theorem applyAtPaths_joined {apply : JsonValue → String → Except String JsonValue}
    {act : JsonValue → List String → Option JsonValue}
    (same : ∀ location ∈ locations, ∀ doc result, act doc location = some result →
        apply doc (joinSegments location) = .ok result)
    {doc result : JsonValue} (run : actAll act doc locations = some result) :
    applyAtPaths apply doc (locations.map joinSegments) = .ok result := by
  induction locations generalizing doc with
  | nil =>
    rw [← Option.some.inj run]
    rfl
  | cons location locations ih =>
    obtain ⟨next, here, rest⟩ := Option.bind_eq_some_iff.mp run
    rw [List.map_cons, applyAtPaths, same location List.mem_cons_self doc next here]
    exact ih (fun other member => same other (List.mem_cons_of_mem _ member)) rest

section Library

variable {library : PathLibrary} (plain : library.ReadsPlainPaths)

include plain

section

variable {location : List String} (nonempty : location ≠ [])
  (names : ∀ name ∈ location, isPlainName name = true)
include nonempty names

theorem setValue_joined {doc value result : JsonValue}
    (written : doc.set location value = some result) :
    setValue library false value doc (joinSegments location) = .ok result := by
  have assigned := plain.set_eq doc (joinSegments location) value
    (isPlainPath_of_plainNames nonempty names)
  rw [pathSegments_of_plainNames nonempty names, written] at assigned
  rw [setValue, if_neg (by simp)]
  cases outcome : library.setBytes doc (joinSegments location) value with
  | error message =>
    rw [outcome] at assigned
    cases assigned
  | ok next =>
    rw [outcome] at assigned
    rw [Option.some.inj assigned]

theorem deleteValue_joined (notBlank : trimSpace (joinSegments location) ≠ "") (doc : JsonValue) :
    deleteValue library doc (joinSegments location) = .ok (doc.remove location) := by
  rw [deleteValue, if_neg notBlank,
    plain.delete_eq doc _ (isPlainPath_of_plainNames nonempty names),
    pathSegments_of_plainNames nonempty names]

end

end Library

/-- Every number is one of Go's, and the nesting is not too deep. -/
def JsonValue.Decodes (library : PathLibrary) (doc : JsonValue) : Prop :=
  (doc.unmarshal library.readNumber maxNestingDepth).isSome = true

/-- The steps of a path; none if one of its segments is empty. -/
def pathSteps (path : String) : Option (List PathStep) :=
  (pathSegments path).mapM PathStep.ofSegment

structure PlainDenoted (steps : List PathStep) (doc : JsonValue) : Prop where
  regular : ∀ step ∈ steps, step.Regular
  names : ∀ location ∈ denoted steps doc, ∀ name ∈ location, isPlainName name = true

theorem pathSteps_ne_nil {path : String} (parsed : pathSteps path = some steps) : steps ≠ [] :=
  fun empty => pathSegments_ne_nil path ((parsed_eq_nil_iff parsed).mpr empty)

theorem denoted_ne_nil (nonempty : steps ≠ []) (node : JsonValue) :
    ∀ location ∈ denoted steps node, location ≠ [] := by
  obtain ⟨step, rest, rfl⟩ := List.exists_cons_of_ne_nil nonempty
  exact denoted_nonempty step rest node

theorem collectWildcardPaths_empty
    (unparsed : segments.mapM PathStep.ofSegment = none) (node : JsonValue)
    (before : List String) : collectWildcardPaths segments node before = [] := by
  induction segments generalizing node before with
  | nil => cases unparsed
  | cons first segments ih =>
    unfold collectWildcardPaths
    by_cases empty : trimSpace first = ""
    · simp only [if_pos empty]
    have below : segments.mapM PathStep.ofSegment = none := by
      rw [List.mapM_cons] at unparsed
      cases parsed : segments.mapM PathStep.ofSegment with
      | none => rfl
      | some steps =>
        rw [parsed] at unparsed
        by_cases star : trimSpace first = "*"
        · simp [PathStep.ofSegment, star] at unparsed
        · simp [PathStep.ofSegment, empty, star] at unparsed
    have nonempty : segments ≠ [] := by
      rintro rfl
      cases below
    simp only [if_neg empty, if_neg nonempty, ih below]
    by_cases star : trimSpace first = "*"
    · simp only [if_pos star]
      cases node with
      | object fields =>
        refine List.flatMap_eq_nil_iff.mpr ?_
        intro key _
        cases fields.lookup key <;> rfl
      | array items =>
        refine List.flatMap_eq_nil_iff.mpr ?_
        intro index _
        cases items[index]? <;> rfl
      | _ => rfl
    · simp only [if_neg star]
      cases node with
      | object fields =>
        simp only
        cases fields.lookup (trimSpace first) <;> rfl
      | array items =>
        cases atoi (trimSpace first) with
        | none => rfl
        | some index =>
          simp only
          split
          · rfl
          · cases items[index.toNat]? <;> rfl
      | _ => rfl

theorem mem_joinSegments {segment : String} {char : Char}
    (member : segment ∈ segments) (inSegment : char ∈ segment.toList) :
    char ∈ (joinSegments segments).toList := by
  cases segments with
  | nil => cases member
  | cons first segments =>
    rw [joinSegments_cons, String.toList_ofList, List.mem_append]
    rcases List.mem_cons.mp member with rfl | member
    · exact Or.inl inSegment
    · exact Or.inr (List.mem_flatMap.mpr
        ⟨segment.toList, List.mem_map_of_mem member, List.mem_cons_of_mem _ inSegment⟩)

section Operations

variable {library : PathLibrary} {doc : JsonValue} {path : String}

theorem mem_star_of_segment (star : ∃ segment ∈ pathSegments path, trimSpace segment = "*") :
    path.toList.contains '*' = true := by
  obtain ⟨segment, member, trimmed⟩ := star
  have inSegment : '*' ∈ segment.toList := by
    have inTrimmed : '*' ∈ (trimSpace segment).toList := by
      rw [trimmed]
      decide
    rw [trimSpace, String.toList_ofList, List.mem_reverse] at inTrimmed
    have inReverse := (List.dropWhile_suffix _).subset inTrimmed
    rw [List.mem_reverse] at inReverse
    exact (List.dropWhile_suffix _).subset inReverse
  have inPath := mem_joinSegments member inSegment
  rw [joinSegments_pathSegments] at inPath
  exact List.contains_iff_mem.mpr inPath

variable {steps : List PathStep}

theorem resolveOperationPaths_eq (distinct : doc.DistinctNames)
    (star : ∃ segment ∈ pathSegments path, trimSpace segment = "*")
    (parsed : pathSteps path = some steps) (plainNames : PlainDenoted steps doc)
    (decodes : doc.Decodes library) :
    resolveOperationPaths library doc path = .ok ((denoted steps doc).map joinSegments) := by
  have nonempty := denoted_ne_nil (pathSteps_ne_nil parsed) doc
  obtain ⟨root, decoded⟩ := Option.isSome_iff_exists.mp decodes
  rw [resolveOperationPaths, if_pos (mem_star_of_segment star), expandWildcardPaths, decoded]
  simp only
  rw [collectWildcardPaths_unmarshal _ distinct decoded,
    collectWildcardPaths_eq parsed plainNames.regular]
  exact congrArg _ (eraseDups_of_nodup (nodup_map_joinSegments (nodup_denoted steps distinct)
    nonempty plainNames.names))

theorem resolveOperationPaths_empty (star : ∃ segment ∈ pathSegments path, trimSpace segment = "*")
    (unparsed : pathSteps path = none) (decodes : doc.Decodes library) :
    resolveOperationPaths library doc path = .ok [] := by
  obtain ⟨root, decoded⟩ := Option.isSome_iff_exists.mp decodes
  rw [resolveOperationPaths, if_pos (mem_star_of_segment star), expandWildcardPaths, decoded]
  simp only [collectWildcardPaths_empty unparsed, List.eraseDups_nil]

/-- A document that cannot be decoded is refused. -/
theorem resolveOperationPaths_error (star : ∃ segment ∈ pathSegments path, trimSpace segment = "*")
    (fails : ¬ doc.Decodes library) :
    resolveOperationPaths library doc path = .error "cannot decode the body" := by
  rw [resolveOperationPaths, if_pos (mem_star_of_segment star), expandWildcardPaths,
    Option.not_isSome_iff_eq_none.mp fails]

section

variable (plain : library.ReadsPlainPaths) (distinct : doc.DistinctNames) (nonempty : steps ≠ [])
  (plainNames : PlainDenoted steps doc)
include plain distinct nonempty plainNames

theorem applyAtPaths_delete
    (notBlank : ∀ location ∈ denoted steps doc, trimSpace (joinSegments location) ≠ "") :
    applyAtPaths (deleteValue library) doc ((denoted steps doc).map joinSegments) =
      .ok (changeAt removeEach steps doc) := by
  have notRoot := denoted_ne_nil nonempty doc
  refine applyAtPaths_joined ?_ (actAll_denoted remove_local
    (fun _ notEmpty => notEmpty) removeEach
      (fun step node _ => remove_ends step node) nonempty distinct)
  intro location member current result removed
  rw [deleteValue_joined plain (notRoot location member)
    (plainNames.names location member) (notBlank location member)]
  exact congrArg _ (Option.some.inj removed)

theorem applyAtPaths_set (value : JsonValue) :
    applyAtPaths (setValue library false value) doc ((denoted steps doc).map joinSegments) =
      .ok (overwrite value steps doc) := by
  have notRoot := denoted_ne_nil nonempty doc
  refine applyAtPaths_joined ?_ (actAll_denoted (set_local value)
    (fun _ _ => trivial) (writeChildren value)
      (fun step node names => set_ends value step names) nonempty distinct)
  intro location member current result written
  exact setValue_joined plain (notRoot location member) (plainNames.names location member) written

end

end Operations

/-- Where the names on the denoted locations are plain, an assignment writes
exactly the denoted locations if the document can be decoded, and a deletion
removes exactly these if moreover no last `*` is applied to an array of two
items. -/
theorem wildcard_operations_exact (library : PathLibrary) (plain : library.ReadsPlainPaths)
    (doc : JsonValue) (distinct : doc.DistinctNames)
    (operation : ParamOperation) (overwrites : operation.keepOrigin = false)
    (path : String) (indexed : path = processNegativeIndex library doc operation.path)
    (star : ∃ segment ∈ pathSegments path, trimSpace segment = "*")
    (plainNames : ∀ steps, pathSteps path = some steps → PlainDenoted steps doc) :
    (operation.mode = "delete" →
      (∀ steps, pathSteps path = some steps →
        ∀ location ∈ denoted steps doc, trimSpace (joinSegments location) ≠ "") →
        (bodyOperation library doc operation = some (.ok ((pathSteps path).elim doc fun steps =>
              prune steps doc)) ↔
          doc.Decodes library ∧
            ∀ steps, pathSteps path = some steps → EndsSatisfy ShiftsNothing steps doc)) ∧
      (operation.mode = "set" →
        (bodyOperation library doc operation = some (.ok ((pathSteps path).elim doc fun steps =>
            overwrite operation.value steps doc)) ↔ doc.Decodes library)) := by
  constructor
  · intro deletes notBlank
    simp only [bodyOperation, deletes, if_true, ← indexed]
    by_cases decodes : doc.Decodes library
    · cases parsed : pathSteps path with
      | none =>
        rw [resolveOperationPaths_empty star parsed decodes]
        refine iff_of_true rfl ⟨decodes, ?_⟩
        rintro steps ⟨⟩
      | some steps =>
        have names := plainNames steps parsed
        rw [resolveOperationPaths_eq distinct star parsed names decodes, Except.bind,
          applyAtPaths_delete plain distinct (pathSteps_ne_nil parsed) names (notBlank steps parsed)]
        have ends := changeAt_eq_iff removeEach_eq_iff steps doc
        constructor
        · intro same
          refine ⟨decodes, ?_⟩
          intro other isSteps
          obtain rfl := Option.some.inj isSteps
          exact ends.mp (Except.ok.inj (Option.some.inj same))
        · intro shifts
          exact congrArg _ (congrArg _ (ends.mpr (shifts.2 steps rfl)))
    · rw [resolveOperationPaths_error star decodes]
      refine iff_of_false ?_ fun holds => decodes holds.1
      rintro ⟨⟩
  · intro sets
    have notDelete : ("set" : String) ≠ "delete" := by decide
    simp only [bodyOperation, sets, if_neg notDelete, if_true, ← indexed, overwrites]
    by_cases decodes : doc.Decodes library
    · refine iff_of_true ?_ decodes
      cases parsed : pathSteps path with
      | none =>
        rw [resolveOperationPaths_empty star parsed decodes]
        rfl
      | some steps =>
        have names := plainNames steps parsed
        rw [resolveOperationPaths_eq distinct star parsed names decodes, Except.bind,
          applyAtPaths_set plain distinct (pathSteps_ne_nil parsed) names]
        rfl
    · rw [resolveOperationPaths_error star decodes]
      refine iff_of_false ?_ decodes
      rintro ⟨⟩

/-- A member of every item is deleted. -/
theorem member_of_every_item_deleted :
    let doc : JsonValue := .object [("tools", .array [.object [("tag", .string "A")], .object []])]
    let operation : ParamOperation :=
      { path := "tools.*.tag", mode := "delete", value := .null
        keepOrigin := false, source := "", target := "", conditions := .null
        logic := "" }
    bodyOperation PathLibrary.dotted doc operation =
      some (.ok (prune [.child "tools", .star, .child "tag"] doc)) := by
  intro doc operation
  have kept : "tools.*.tag" = processNegativeIndex PathLibrary.dotted doc "tools.*.tag" := by decide
  have parsed : pathSteps "tools.*.tag" = some [.child "tools", .star, .child "tag"] := by
    decide +kernel
  have distinct : doc.DistinctNames := by
    refine JsonValue.distinctNames_object (by decide) ?_
    intro field member
    obtain rfl := List.mem_singleton.mp member
    refine JsonValue.distinctNames_array ?_
    intro item member
    rcases List.mem_cons.mp member with rfl | member
    · refine JsonValue.distinctNames_object (by decide) ?_
      intro field member
      obtain rfl := List.mem_singleton.mp member
      exact JsonValue.distinctNames_string "A"
    · obtain rfl := List.mem_singleton.mp member
      refine JsonValue.distinctNames_object List.nodup_nil ?_
      intro field member
      cases member
  have deleted :=
    (wildcard_operations_exact PathLibrary.dotted
      PathLibrary.dotted_readsPlainPaths doc distinct operation rfl
        "tools.*.tag" kept ⟨"*", by decide, by decide +kernel⟩ ?_).1 rfl ?_
  · rw [parsed] at deleted
    refine deleted.mpr ⟨rfl, ?_⟩
    rintro steps ⟨⟩
    exact shiftsNothing_of_name [.child "tools", .star] "tag" doc
  · intro steps isSteps
    rw [parsed] at isSteps
    rw [← Option.some.inj isSteps]
    refine ⟨?_, by decide⟩
    intro step member
    simp only [List.mem_cons, List.not_mem_nil, or_false] at member
    rcases member with rfl | rfl | rfl
    · rintro index ⟨⟩
    · trivial
    · rintro index ⟨⟩
  · intro steps isSteps
    rw [parsed] at isSteps
    rw [← Option.some.inj isSteps]
    decide +kernel

/-- The items of an array deleted by a last `*`: the second one stays. -/
theorem second_item_is_kept :
    let doc : JsonValue := .object [("stop", .array [.string "a", .string "b"])]
    let operation : ParamOperation :=
      { path := "stop.*", mode := "delete", value := .null, keepOrigin := false
        source := "", target := "", conditions := .null, logic := "" }
    pathSteps "stop.*" = some [.child "stop", .star] ∧
      bodyOperation PathLibrary.dotted doc operation =
          some (.ok (.object [("stop", .array [.string "b"])])) ∧
        prune [.child "stop", .star] doc = .object [("stop", .array [])] := by
  intro doc operation
  have expanded : resolveOperationPaths PathLibrary.dotted doc
      (processNegativeIndex PathLibrary.dotted doc "stop.*") = .ok ["stop.0", "stop.1"] := by
    have kept : processNegativeIndex PathLibrary.dotted doc "stop.*" = "stop.*" := by decide
    have decoded : doc.unmarshal PathLibrary.dotted.readNumber maxNestingDepth = some doc := by
      rfl
    have collected : (collectWildcardPaths (pathSegments "stop.*") doc []).eraseDups =
        ["stop.0", "stop.1"] := by
      decide +kernel
    rw [kept, resolveOperationPaths, if_pos (by decide), expandWildcardPaths, decoded]
    exact congrArg _ collected
  have firstText : "stop.0" = joinSegments ["stop", "0"] := by decide
  have secondText : "stop.1" = joinSegments ["stop", "1"] := by decide
  have first := deleteValue_joined PathLibrary.dotted_readsPlainPaths
    (List.cons_ne_nil "stop" ["0"]) (by decide) (by decide +kernel) doc
  have second := deleteValue_joined PathLibrary.dotted_readsPlainPaths
    (List.cons_ne_nil "stop" ["1"]) (by decide) (by decide +kernel) (doc.remove ["stop", "0"])
  rw [← firstText] at first
  rw [← secondText] at second
  refine ⟨by decide +kernel, ?_, rfl⟩
  simp only [bodyOperation, operation, if_true, expanded, Except.bind, applyAtPaths]
  rw [first]
  simp only [second]
  rfl

end NewApi.Relay
