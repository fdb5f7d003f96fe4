import NewApi.Relay.JsonPaths

/-!
# Pruning the objects of a type

`prune_objects` decodes a document and removes, below its root, the objects
that meet its conditions.  With a text for its value there is one condition:
the member `type` is this text.  The condition is asked of every object on the
way, and a member `type` of another kind is an error.
-/

namespace NewApi.Relay

open GoStrings

namespace JsonValue

theorem induct {motive : JsonValue → Prop}
    (null : motive .null) (bool : ∀ value, motive (.bool value))
    (number : ∀ printed, motive (.number printed)) (string : ∀ value, motive (.string value))
    (array : ∀ items, (∀ item ∈ items, motive item) → motive (.array items))
    (object : ∀ fields, (∀ field ∈ fields, motive field.2) → motive (.object fields)) :
    ∀ value, motive value := by
  intro value
  refine JsonValue.rec (motive_1 := motive) (motive_2 := fun items => ∀ item ∈ items, motive item)
    (motive_3 := fun fields => ∀ field ∈ fields, motive field.2)
    (motive_4 := fun field => motive field.2)
    null bool number string array object ?_ ?_ ?_ ?_ ?_ value
  · simp
  · exact fun _ _ first rest => List.forall_mem_cons.mpr ⟨first, rest⟩
  · simp
  · exact fun _ _ first rest => List.forall_mem_cons.mpr ⟨first, rest⟩
  · exact fun _ _ member => member

section Decoding

variable (readNumber : String → Option String)

mutual

/-- `json.Unmarshal` into `any`: a number becomes the one that is printed for
its float, and of members with one name the last stays.  The first argument is
the depth that is left. -/
def unmarshal : Nat → JsonValue → Option JsonValue
  | _, .number printed => (readNumber printed).map .number
  | 0, .array _ => none
  | 0, .object _ => none
  | room + 1, .array items => (unmarshalItems room items).map .array
  | room + 1, .object fields => (unmarshalFields room fields).map .object
  | _, value => some value

def unmarshalItems : Nat → List JsonValue → Option (List JsonValue)
  | _, [] => some []
  | room, item :: items =>
    (unmarshal room item).bind fun next =>
      (unmarshalItems room items).map fun others => next :: others

def unmarshalFields :
    Nat → List (String × JsonValue) → Option (List (String × JsonValue))
  | _, [] => some []
  | room, (name, value) :: fields =>
    (unmarshal room value).bind fun next =>
      (unmarshalFields room fields).map fun others =>
        if name ∈ others.map Prod.fst then others else (name, next) :: others

end

end Decoding

end JsonValue

def maxNestingDepth : Nat := 10000

def JsonValue.kind : JsonValue → String
  | .null => "Null"
  | .bool value => if value then "True" else "False"
  | .number _ => "Number"
  | .string _ => "String"
  | .array _ | .object _ => "JSON"

def compareEqual (text : String) : JsonValue → Except String Bool
  | .null => .ok false
  | .string value => .ok (value = text)
  | value =>
    .error ("comparison failed for path type: compare for different types, got " ++
      value.kind ++ " and String")

structure PruneObjectsOptions where
  shouldPruneObject : List (String × JsonValue) → Except String Bool
  recursive : Bool

/-- The only condition of a text; an object without a type is asked for the
`type` of the context. -/
def typeCondition (contextType : Option JsonValue) (text : String)
    (fields : List (String × JsonValue)) : Except String Bool :=
  match (fields.lookup "type").or contextType with
  | none => .ok false
  | some value => compareEqual text value

def parsePruneObjectsOptions
    (objectOptions : List (String × JsonValue) → Except String PruneObjectsOptions)
    (contextType : Option JsonValue) : JsonValue → Except String PruneObjectsOptions
  | .null => .error "prune_objects value is required"
  | .string raw =>
    if trimSpace raw = "" then .error "prune_objects value is required"
    else .ok ⟨typeCondition contextType (trimSpace raw), true⟩
  | .object entries => objectOptions entries
  | _ => .error "prune_objects value must be string or object"

section Pruning

variable (options : PruneObjectsOptions)

mutual

def pruneObjectsNode :
    (isRoot : Bool) → JsonValue → Except String (Option JsonValue)
  | _, .array items => (pruneItems items).map fun kept => some (.array kept)
  | isRoot, .object fields =>
    (options.shouldPruneObject fields).bind fun shouldDrop =>
      if shouldDrop && !isRoot then .ok none
      else if options.recursive then (pruneFields fields).map fun kept => some (.object kept)
      else .ok (some (.object fields))
  | _, value => .ok (some value)

def pruneItems : List JsonValue → Except String (List JsonValue)
  | [] => .ok []
  | item :: items =>
    (pruneObjectsNode false item).bind fun next =>
      (pruneItems items).map fun kept => next.toList ++ kept

def pruneFields :
    List (String × JsonValue) → Except String (List (String × JsonValue))
  | [] => .ok []
  | (name, value) :: fields =>
    (pruneObjectsNode false value).bind fun next =>
      (pruneFields fields).map fun kept => next.toList.map (fun value => (name, value)) ++ kept

end

end Pruning

/-- The functions of the path library that `pruneObjects` calls. -/
structure RawPaths where
  get : JsonValue → String → Option JsonValue
  setRawBytes : JsonValue → String → JsonValue → Except String JsonValue
  readNumber : String → Option String
  objectOptions : List (String × JsonValue) → Except String PruneObjectsOptions

def pruneObjects (library : RawPaths) (doc : JsonValue) (path : String)
    (contextType : Option JsonValue) (value : JsonValue) : Except String JsonValue :=
  (parsePruneObjectsOptions library.objectOptions contextType value).bind
    fun options =>
      match if path = "" then some doc else library.get doc path with
      | none => .ok doc
      | some target =>
        match target.unmarshal library.readNumber maxNestingDepth with
        | none => .error "cannot decode the target"
        | some node =>
          (pruneObjectsNode options true node).bind fun cleaned =>
            if path = "" then .ok (cleaned.getD .null)
            else library.setRawBytes doc path (cleaned.getD .null)

/-! ## When it succeeds -/

section Success

variable (contextType : Option JsonValue) (text : String)

def typeOf (fields : List (String × JsonValue)) : Option JsonValue :=
  (fields.lookup "type").or contextType

def comparesWithText : Option JsonValue → Bool
  | none | some .null | some (.string _) => true
  | some _ => false

/-- The objects whose type is compared: what is inside a dropped object is not
looked at. -/
inductive Asked : (isRoot : Bool) → JsonValue → List (String × JsonValue) → Prop
  | here {isRoot : Bool} {fields : List (String × JsonValue)} : Asked isRoot (.object fields) fields
  | item {isRoot : Bool} {items : List JsonValue} {item : JsonValue}
      {fields : List (String × JsonValue)} :
      item ∈ items → Asked false item fields → Asked isRoot (.array items) fields
  | member {isRoot : Bool} {fields asked : List (String × JsonValue)}
      {field : String × JsonValue} :
      (isRoot = true ∨ typeOf contextType fields ≠ some (.string text)) →
        field ∈ fields → Asked false field.2 asked → Asked isRoot (.object fields) asked

variable {contextType text}

theorem typeCondition_cases (fields : List (String × JsonValue)) :
    (∃ message, typeCondition contextType text fields = .error message ∧
      comparesWithText (typeOf contextType fields) = false) ∨
    ∃ holds, typeCondition contextType text fields = .ok holds ∧
      comparesWithText (typeOf contextType fields) = true ∧
      (holds = true ↔ typeOf contextType fields = some (.string text)) := by
  unfold typeCondition typeOf
  cases (fields.lookup "type").or contextType with
  | none => exact Or.inr ⟨false, rfl, rfl, by simp⟩
  | some value =>
    cases value with
    | null => exact Or.inr ⟨false, rfl, rfl, by simp⟩
    | string other => exact Or.inr ⟨other = text, rfl, rfl, by simp⟩
    | bool _ => exact Or.inl ⟨_, rfl, rfl⟩
    | number _ => exact Or.inl ⟨_, rfl, rfl⟩
    | array _ => exact Or.inl ⟨_, rfl, rfl⟩
    | object _ => exact Or.inl ⟨_, rfl, rfl⟩

theorem pruneItems_ok_iff (options : PruneObjectsOptions) (items : List JsonValue) :
    (∃ kept, pruneItems options items = .ok kept) ↔
      ∀ item ∈ items, ∃ next, pruneObjectsNode options false item = .ok next := by
  induction items with
  | nil => simp [pruneItems]
  | cons item items ih =>
    rw [List.forall_mem_cons, ← ih, pruneItems]
    cases pruneObjectsNode options false item with
    | error _ => simp [Except.bind]
    | ok next => cases pruneItems options items <;> simp [Except.bind, Except.map]

theorem pruneFields_ok_iff (options : PruneObjectsOptions) (fields : List (String × JsonValue)) :
    (∃ kept, pruneFields options fields = .ok kept) ↔
      ∀ field ∈ fields, ∃ next, pruneObjectsNode options false field.2 = .ok next := by
  induction fields with
  | nil => simp [pruneFields]
  | cons field fields ih =>
    rw [List.forall_mem_cons, ← ih, pruneFields]
    cases pruneObjectsNode options false field.2 with
    | error _ => simp [Except.bind]
    | ok next => cases pruneFields options fields <;> simp [Except.bind, Except.map]

theorem map_ok_iff {α β : Type} {found : Except String α} (f : α → β) :
    (∃ next, found.map f = .ok next) ↔ ∃ value, found = .ok value := by
  cases found <;> simp [Except.map]

/-- Pruning succeeds exactly when each type it asks for compares with a text. -/
theorem pruneObjectsNode_ok_iff (node : JsonValue) : ∀ isRoot,
    (∃ next, pruneObjectsNode ⟨typeCondition contextType text, true⟩ isRoot node = .ok next) ↔
      ∀ fields, Asked contextType text isRoot node fields →
        comparesWithText (typeOf contextType fields) = true := by
  induction node using JsonValue.induct with
  | null | bool _ | number _ | string _ =>
    exact fun _ => ⟨fun _ _ asked => (by cases asked), fun _ => ⟨_, rfl⟩⟩
  | array items ih =>
    intro isRoot
    rw [pruneObjectsNode, map_ok_iff, pruneItems_ok_iff]
    constructor
    · intro all fields asked
      cases asked with
      | item listed inside => exact (ih _ listed false).mp (all _ listed) _ inside
    · intro all item listed
      exact (ih item listed false).mpr fun fields inside => all fields (.item listed inside)
  | object fields ih =>
    intro isRoot
    rw [pruneObjectsNode]
    rcases @typeCondition_cases contextType text fields with
      ⟨message, failed, other⟩ | ⟨holds, compared, comparable, typed⟩
    · simp only [failed, Except.bind]
      constructor
      · rintro ⟨_, done⟩
        cases done
      · intro all
        rw [all fields .here] at other
        cases other
    · simp only [compared, Except.bind, if_true]
      by_cases dropped : (holds && !isRoot) = true
      · rw [if_pos dropped]
        obtain ⟨held, below⟩ : holds = true ∧ isRoot = false := by simpa using dropped
        refine ⟨fun _ asked found => ?_, fun _ => ⟨_, rfl⟩⟩
        cases found with
        | here => exact comparable
        | member enters _ _ =>
          rcases enters with root | untyped
          · rw [below] at root
            cases root
          · exact absurd (typed.mp held) untyped
      · rw [if_neg dropped, map_ok_iff, pruneFields_ok_iff]
        constructor
        · intro all asked found
          cases found with
          | here => exact comparable
          | member _ listed inside => exact (ih _ listed false).mp (all _ listed) _ inside
        · intro all field listed
          refine (ih field listed false).mpr fun asked inside => ?_
          refine all asked (.member ?_ listed inside)
          cases isRoot with
          | true => exact Or.inl rfl
          | false =>
            refine Or.inr fun same => dropped ?_
            rw [typed.mpr same]
            rfl

/-- With a text, `prune_objects` succeeds exactly if the text is not blank and
the target, if there is one, can be decoded and compared. -/
theorem prune_by_type_succeeds_iff {library : RawPaths}
    (writes : ∀ doc path old new, library.get doc path = some old →
      ∃ result, library.setRawBytes doc path new = .ok result)
    (doc : JsonValue) (path raw : String) :
    (∃ result, pruneObjects library doc path contextType (.string raw) = .ok result) ↔
      trimSpace raw ≠ "" ∧
        ∀ target, (if path = "" then some doc else library.get doc path) = some target →
          ∃ node, target.unmarshal library.readNumber maxNestingDepth = some node ∧
            ∀ fields, Asked contextType (trimSpace raw) true node fields →
              comparesWithText (typeOf contextType fields) = true := by
  unfold pruneObjects
  rw [parsePruneObjectsOptions]
  by_cases blank : trimSpace raw = ""
  · simp [blank, Except.bind]
  rw [if_neg blank]
  simp only [Except.bind, blank, ne_eq, not_false_eq_true, true_and]
  cases found : if path = "" then some doc else library.get doc path with
  | none => simp
  | some target =>
    simp only [Option.some.injEq, forall_eq']
    cases target.unmarshal library.readNumber maxNestingDepth with
    | none => simp
    | some node =>
      have pruned := @pruneObjectsNode_ok_iff contextType (trimSpace raw) node true
      simp only [Option.some.injEq, exists_eq_left', ← pruned]
      cases pruneObjectsNode ⟨typeCondition contextType (trimSpace raw), true⟩ true node with
      | error message => simp
      | ok cleaned =>
        by_cases root : path = ""
        · simp [root]
        · rw [if_neg root] at found
          simpa [root] using writes doc path target (cleaned.getD .null) found

end Success

def RawPaths.whole : RawPaths where
  get := fun _ _ => none
  setRawBytes := fun _ _ value => .ok value
  readNumber := some
  objectOptions := fun _ => .error "prune_objects conditions are required"

def thoughts : JsonValue :=
  .object [("messages", .array [.object [("type", .string "text")],
    .object [("type", .string "redacted_thinking")]])]

theorem prune_by_type_succeeds_thoughts :
    ∃ node, thoughts.unmarshal some maxNestingDepth = some node ∧
      ∀ fields, Asked none (trimSpace "redacted_thinking") true node fields →
        comparesWithText (typeOf none fields) = true := by
  have writes : ∀ doc path old new, RawPaths.whole.get doc path = some old →
      ∃ result, RawPaths.whole.setRawBytes doc path new = .ok result :=
    fun _ _ _ new _ => ⟨new, rfl⟩
  exact ((@prune_by_type_succeeds_iff none RawPaths.whole writes thoughts ""
    "redacted_thinking").mp ⟨.object [("messages",
      .array [.object [("type", .string "text")]])], by with_unfolding_all rfl⟩).2 thoughts rfl

/-- A schema with a property called `type` rejects the request, and so does a
blank text. -/
theorem prune_by_type_rejects :
    pruneObjects RawPaths.whole (.object [("properties",
        .object [("type", .object [("type", .string "string")])])]) "" none
      (.string "redacted_thinking") =
        .error "comparison failed for path type: compare for different types, got JSON and String" ∧
    pruneObjects RawPaths.whole thoughts "" none (.string " ") =
      .error "prune_objects value is required" := by
  with_unfolding_all exact ⟨rfl, rfl⟩

end NewApi.Relay
