import Mathlib.Data.List.Basic
import NewApi.Relay.HeaderOverride

/-!
# Plain paths of a JSON document

What the path library documents for plain paths: a segment is the name of a
member or the index of an item; `-1` is the last item for a deletion and the
place after it for an assignment, which builds what is missing.  What it does
with other paths is left open.
-/

namespace NewApi.Relay

open JsonValue

namespace Members

variable {ν : Type}

def put : List (String × ν) → String → ν → List (String × ν)
  | [], name, value => [(name, value)]
  | field :: fields, name, value =>
    if field.1 = name then (name, value) :: fields
    else field :: put fields name value

def drop (fields : List (String × ν)) (name : String) : List (String × ν) :=
  fields.filter fun field => field.1 ≠ name

variable {name : String}

theorem lookup_cons_of_ne {field : String × ν} (different : field.1 ≠ name)
    (fields : List (String × ν)) :
    (field :: fields).lookup name = fields.lookup name := by
  have unequal : (name == field.1) = false := beq_eq_false_iff_ne.mpr (Ne.symm different)
  rw [List.lookup_cons, unequal]

theorem lookup_cons_self (name : String) (value : ν) (fields : List (String × ν)) :
    ((name, value) :: fields).lookup name = some value :=
  List.lookup_cons_self

@[simp]
theorem lookup_put_self (fields : List (String × ν)) (name : String) (value : ν) :
    (put fields name value).lookup name = some value := by
  induction fields with
  | nil => exact lookup_cons_self name value []
  | cons field fields ih =>
    by_cases same : field.1 = name
    · rw [put, if_pos same]
      exact lookup_cons_self name value fields
    · rw [put, if_neg same, lookup_cons_of_ne same]
      exact ih

theorem lookup_put_of_ne {other : String} (different : other ≠ name)
    (fields : List (String × ν)) (value : ν) :
    (put fields name value).lookup other = fields.lookup other := by
  induction fields with
  | nil => rw [put, lookup_cons_of_ne (Ne.symm different)]
  | cons field fields ih =>
    by_cases same : field.1 = name
    · have apart : field.1 ≠ other := by
        rw [same]
        exact Ne.symm different
      rw [put, if_pos same, lookup_cons_of_ne (Ne.symm different), lookup_cons_of_ne apart]
    · rw [put, if_neg same]
      by_cases named : field.1 = other
      · subst named
        rw [List.lookup_cons_self, List.lookup_cons_self]
      · rw [lookup_cons_of_ne named, lookup_cons_of_ne named, ih]

@[simp]
theorem lookup_drop_self (fields : List (String × ν)) (name : String) :
    (drop fields name).lookup name = none := by
  induction fields with
  | nil => rfl
  | cons field fields ih =>
    by_cases same : field.1 = name
    · simpa [drop, same] using ih
    · have kept : drop (field :: fields) name = field :: drop fields name := by simp [drop, same]
      rw [kept, lookup_cons_of_ne same]
      exact ih

theorem lookup_drop_of_ne {other : String} (different : other ≠ name) (fields : List (String × ν)) :
    (drop fields name).lookup other = fields.lookup other := by
  induction fields with
  | nil => rfl
  | cons field fields ih =>
    by_cases same : field.1 = name
    · have apart : field.1 ≠ other := by
        rw [same]
        exact Ne.symm different
      have dropped : drop (field :: fields) name = drop fields name := by simp [drop, same]
      rw [dropped, lookup_cons_of_ne apart, ih]
    · have kept : drop (field :: fields) name = field :: drop fields name := by simp [drop, same]
      rw [kept]
      by_cases named : field.1 = other
      · subst named
        rw [List.lookup_cons_self, List.lookup_cons_self]
      · rw [lookup_cons_of_ne named, lookup_cons_of_ne named, ih]

theorem mem_of_lookup {fields : List (String × ν)} {key : String} {value : ν}
    (found : fields.lookup key = some value) : (key, value) ∈ fields := by
  induction fields with
  | nil => cases found
  | cons field fields ih =>
    by_cases same : field.1 = key
    · subst same
      rw [lookup_cons_self] at found
      rw [← Option.some.inj found]
      exact List.mem_cons_self
    · rw [lookup_cons_of_ne same] at found
      exact List.mem_cons_of_mem _ (ih found)

end Members

def index? (segment : String) : Option Nat :=
  if segment.toList ≠ [] ∧ segment.toList.all Char.isDigit = true then
    some (Nat.ofDigitChars 10 segment.toList 0)
  else none

@[simp]
theorem index?_toString (number : Nat) : index? (toString number) = some number := by
  have chars : (toString number).toList = Nat.toDigits 10 number := Nat.toList_repr
  have areDigits : (Nat.toDigits 10 number).all Char.isDigit = true := by
    rw [List.all_eq_true]
    intro char member
    exact Nat.isDigit_of_mem_toDigits (by decide) (by decide) member
  rw [index?, chars, if_pos ⟨Nat.toDigits_ne_nil, areDigits⟩, Nat.ofDigitChars_ten_toDigits]

def position? (items : List JsonValue) (segment : String) : Option Nat :=
  if segment = "-1" then
    if items = [] then none else some (items.length - 1)
  else index? segment

namespace JsonValue

def get : JsonValue → List String → Option JsonValue
  | value, [] => some value
  | .object fields, segment :: path => (fields.lookup segment).bind fun child => child.get path
  | .array items, segment :: path =>
    (index? segment).bind fun index => items[index]?.bind fun child => child.get path
  | _, _ :: _ => none

def wrap (segment : String) (value : JsonValue) : JsonValue :=
  match index? segment with
  | some index => .array (List.replicate index .null ++ [value])
  | none => .object [(segment, value)]

def build : List String → JsonValue → JsonValue
  | [], value => value
  | segment :: path, value =>
    if segment = "-1" then .array [build path value]
    else wrap segment (build path value)

def set : JsonValue → List String → JsonValue → Option JsonValue
  | _, [], value => some value
  | .object fields, segment :: path, value =>
    match fields.lookup segment with
    | some child =>
      (child.set path value).map fun changed => .object (Members.put fields segment changed)
    | none => some (.object (Members.put fields segment (build path value)))
  | .array items, segment :: path, value =>
    match index? segment with
    | some index =>
      match items[index]? with
      | some child =>
        (child.set path value).map fun changed => .array (items.set index changed)
      | none =>
        some (.array (items ++ List.replicate (index - items.length) .null ++ [build path value]))
    | none =>
      if segment = "-1" then some (.array (items ++ [build path value]))
      else none
  | _, segment :: path, value => some (wrap segment (build path value))

def remove? : JsonValue → List String → Option JsonValue
  | _, [] => none
  | .object fields, [segment] =>
    (fields.lookup segment).map fun _ => .object (Members.drop fields segment)
  | .object fields, segment :: next :: path =>
    (fields.lookup segment).bind fun child =>
      (child.remove? (next :: path)).map fun changed => .object (Members.put fields segment changed)
  | .array items, [segment] =>
    (position? items segment).bind fun index =>
      items[index]?.map fun _ => .array (items.eraseIdx index)
  | .array items, segment :: next :: path =>
    (position? items segment).bind fun index =>
      items[index]?.bind fun child =>
        (child.remove? (next :: path)).map fun changed => .array (items.set index changed)
  | _, _ :: _ => none

def remove (value : JsonValue) (path : List String) : JsonValue := (value.remove? path).getD value

/-- The segment is an index where an array stands or is built. -/
def indexes (segment : String) : Bool := (index? segment).isSome || segment = "-1"

/-- The path names members of objects: where no object stands on the way, its
segments are no indexes. -/
def keyPath : JsonValue → List String → Bool
  | _, [] => true
  | .object fields, segment :: path =>
    match fields.lookup segment with
    | some child => child.keyPath path
    | none => path.all fun name => !indexes name
  | _, path => path.all fun name => !indexes name

@[simp]
theorem get_nil (value : JsonValue) : value.get [] = some value := by
  cases value <;> rfl

@[simp]
theorem get_object (fields : List (String × JsonValue)) (segment : String) (path : List String) :
    (object fields).get (segment :: path) =
      (fields.lookup segment).bind fun child => child.get path :=
  rfl

theorem get_array (items : List JsonValue) (segment : String) (path : List String) :
    (array items).get (segment :: path) = (index? segment).bind fun index =>
        items[index]?.bind fun child => child.get path :=
  rfl

theorem get_append (value : JsonValue) (path below : List String) :
    value.get (path ++ below) = (value.get path).bind fun child => child.get below := by
  induction path generalizing value with
  | nil => simp
  | cons segment path ih =>
    cases value with
    | object fields =>
      rw [List.cons_append, get_object, get_object]
      cases fields.lookup segment with
      | none => rfl
      | some child => exact ih child
    | array items =>
      rw [List.cons_append, get_array, get_array]
      cases index? segment with
      | none => rfl
      | some index =>
        simp only [Option.bind_some]
        cases items[index]? with
        | none => rfl
        | some child => exact ih child
    | _ => rfl

variable {segment : String}

theorem not_indexes (named : (!indexes segment) = true) :
    index? segment = none ∧ segment ≠ "-1" := by
  simpa [indexes, Option.isSome_iff_ne_none] using named

variable {path : List String}

theorem get_build (value : JsonValue) (named : (path.all fun name => !indexes name) = true) :
    (build path value).get path = some value := by
  induction path with
  | nil => exact get_nil value
  | cons segment path ih =>
    rw [List.all_cons, Bool.and_eq_true] at named
    obtain ⟨unindexed, notLast⟩ := not_indexes named.1
    rw [build, if_neg notLast, wrap, unindexed]
    simp only [get_object, Members.lookup_cons_self, Option.bind_some]
    exact ih named.2

theorem get_build_apart {other : List String} (value : JsonValue)
    (named : (path.all fun name => !indexes name) = true)
    (notUnder : ¬path <+: other) (notAbove : ¬other <+: path) :
    (build path value).get other = none := by
  induction path generalizing other with
  | nil => exact absurd (List.nil_prefix) notUnder
  | cons segment path ih =>
    rw [List.all_cons, Bool.and_eq_true] at named
    obtain ⟨unindexed, notLast⟩ := not_indexes named.1
    rw [build, if_neg notLast, wrap, unindexed]
    cases other with
    | nil => exact absurd (List.nil_prefix) notAbove
    | cons first other =>
      rw [get_object]
      by_cases same : first = segment
      · subst same
        rw [Members.lookup_cons_self, Option.bind_some]
        exact ih named.2 (fun below => notUnder (List.cons_prefix_cons.mpr ⟨rfl, below⟩))
          (fun above => notAbove (List.cons_prefix_cons.mpr ⟨rfl, above⟩))
      · rw [Members.lookup_cons_of_ne (Ne.symm same)]
        rfl

theorem set_object_cons (fields : List (String × JsonValue)) (segment : String)
    (path : List String) (value : JsonValue) :
    (object fields).set (segment :: path) value =
      match fields.lookup segment with
      | some child =>
        (child.set path value).map fun changed => .object (Members.put fields segment changed)
      | none =>
        some (.object (Members.put fields segment (build path value))) :=
  rfl

variable {value : JsonValue}

theorem set_array_cons_of_name {items : List JsonValue} (named : (!indexes segment) = true) :
    (array items).set (segment :: path) value = none := by
  obtain ⟨unindexed, notLast⟩ := not_indexes named
  simp only [set, unindexed, if_neg notLast]

variable {fields : List (String × JsonValue)} {result : JsonValue}

/-- An assignment to a member: what becomes of the object and of the member. -/
theorem set_object_cases (written : (object fields).set (segment :: path) value = some result) :
    (∃ child changed,
        fields.lookup segment = some child ∧
          child.set path value = some changed ∧
            result = .object (Members.put fields segment changed)) ∨
      fields.lookup segment = none ∧
        result = .object (Members.put fields segment (build path value)) := by
  rw [set_object_cons] at written
  cases found : fields.lookup segment with
  | none =>
    rw [found] at written
    exact Or.inr ⟨rfl, (Option.some.inj written).symm⟩
  | some child =>
    rw [found] at written
    obtain ⟨changed, below, same⟩ := Option.map_eq_some_iff.mp written
    exact Or.inl ⟨child, changed, rfl, below, same.symm⟩

theorem keyPath_object_cons (fields : List (String × JsonValue)) (segment : String)
    (path : List String) :
    (object fields).keyPath (segment :: path) =
      match fields.lookup segment with
      | some child => child.keyPath path
      | none => path.all fun name => !indexes name :=
  rfl

variable {doc : JsonValue}

theorem get_set_self (named : doc.keyPath path = true)
    (written : doc.set path value = some result) :
    result.get path = some value := by
  induction path generalizing doc result with
  | nil =>
    have same : value = result := by cases doc <;> exact Option.some.inj written
    rw [same]
    exact get_nil result
  | cons segment path ih =>
    cases doc with
    | object fields =>
      rw [keyPath_object_cons] at named
      rcases set_object_cases written with ⟨child, changed, found, below, rfl⟩ | ⟨absent, rfl⟩
      · rw [found] at named
        rw [get_object, Members.lookup_put_self, Option.bind_some]
        exact ih named below
      · rw [absent] at named
        rw [get_object, Members.lookup_put_self, Option.bind_some]
        exact get_build value named
    | array items =>
      change ((segment :: path).all fun name => !indexes name) = true at named
      rw [List.all_cons, Bool.and_eq_true] at named
      rw [set_array_cons_of_name named.1] at written
      cases written
    | _ =>
      change ((segment :: path).all fun name => !indexes name) = true at named
      have built := get_build value named
      rw [List.all_cons, Bool.and_eq_true] at named
      rw [build, if_neg (not_indexes named.1).2] at built
      rw [← Option.some.inj written]
      exact built

/-- An assignment leaves the locations that are neither under its path nor on
the way to it. -/
theorem get_set_apart {other : List String} (named : doc.keyPath path = true)
    (written : doc.set path value = some result)
    (notUnder : ¬path <+: other) (notAbove : ¬other <+: path) :
    result.get other = doc.get other := by
  induction path generalizing doc result other with
  | nil => exact absurd List.nil_prefix notUnder
  | cons segment path ih =>
    cases other with
    | nil => exact absurd List.nil_prefix notAbove
    | cons first other =>
      cases doc with
      | object fields =>
        rw [keyPath_object_cons] at named
        by_cases same : first = segment
        · subst same
          have under : ¬path <+: other := fun below =>
            notUnder (List.cons_prefix_cons.mpr ⟨rfl, below⟩)
          have above : ¬other <+: path := fun shorter =>
            notAbove (List.cons_prefix_cons.mpr ⟨rfl, shorter⟩)
          rcases set_object_cases written with ⟨child, changed, found, below, rfl⟩ | ⟨absent, rfl⟩
          · rw [found] at named
            rw [get_object, get_object, Members.lookup_put_self, found]
            exact ih named below under above
          · rw [absent] at named
            rw [get_object, get_object, Members.lookup_put_self, absent]
            exact get_build_apart value named under above
        · rcases set_object_cases written with ⟨child, changed, found, below, rfl⟩ | ⟨absent, rfl⟩
          · rw [get_object, get_object, Members.lookup_put_of_ne same]
          · rw [get_object, get_object, Members.lookup_put_of_ne same]
      | array items =>
        change ((segment :: path).all fun name => !indexes name) = true at named
        rw [List.all_cons, Bool.and_eq_true] at named
        rw [set_array_cons_of_name named.1] at written
        cases written
      | _ =>
        change ((segment :: path).all fun name => !indexes name) = true at named
        have built := get_build_apart value named notUnder notAbove
        rw [List.all_cons, Bool.and_eq_true] at named
        rw [build, if_neg (not_indexes named.1).2] at built
        rw [← Option.some.inj written]
        exact built

theorem get_set_above {above : List String} (written : doc.set path value = some result)
    (onTheWay : above <+: path) (notThere : above ≠ path)
    (stood : doc.get above = some (.object fields)) :
    ∃ kept, result.get above = some (.object kept) := by
  induction above generalizing doc result path with
  | nil =>
    obtain rfl : doc = .object fields := by exact Option.some.inj stood
    cases path with
    | nil => exact absurd rfl notThere
    | cons segment path =>
      rcases set_object_cases written with ⟨child, changed, found, below, rfl⟩ | ⟨absent, rfl⟩
      · exact ⟨_, get_nil _⟩
      · exact ⟨_, get_nil _⟩
  | cons first above ih =>
    cases path with
    | nil => exact absurd (List.prefix_nil.mp onTheWay) notThere
    | cons segment path =>
      obtain ⟨rfl, onRest⟩ := List.cons_prefix_cons.mp onTheWay
      have notThere : above ≠ path := fun same => notThere (by rw [same])
      cases doc with
      | object members =>
        rw [get_object] at stood
        rcases set_object_cases written with ⟨child, changed, found, below, rfl⟩ | ⟨absent, rfl⟩
        · rw [found, Option.bind_some] at stood
          rw [get_object, Members.lookup_put_self, Option.bind_some]
          exact ih below onRest notThere stood
        · rw [absent] at stood
          cases stood
      | array items =>
        obtain ⟨index, indexed, stood⟩ := Option.bind_eq_some_iff.mp stood
        obtain ⟨child, found, stood⟩ := Option.bind_eq_some_iff.mp stood
        simp only [set, indexed, found] at written
        obtain ⟨changed, below, rfl⟩ := Option.map_eq_some_iff.mp written
        obtain ⟨kept, stays⟩ := ih below onRest notThere stood
        refine ⟨kept, ?_⟩
        rw [get_array, indexed, Option.bind_some,
          List.getElem?_set_self (List.getElem?_eq_some_iff.mp found).1]
        exact stays
      | _ => cases stood

/-! ### After a deletion -/

theorem remove?_append {below : List String}
    (stood : doc.get path = some value) (nonempty : below ≠ []) :
    (value.remove? below = none → doc.remove? (path ++ below) = none) ∧
      ∀ changed, value.remove? below = some changed →
        ∃ result, doc.remove? (path ++ below) = some result ∧ result.get path = some changed := by
  induction path generalizing doc with
  | nil =>
    obtain rfl : doc = value := by exact Option.some.inj stood
    exact ⟨fun none => none, fun changed found => ⟨changed, found, get_nil _⟩⟩
  | cons segment path ih =>
    obtain ⟨next, rest, split⟩ := List.exists_cons_of_ne_nil
      (List.append_ne_nil_of_right_ne_nil path nonempty)
    rw [List.cons_append, split]
    rw [split] at ih
    cases doc with
    | object fields =>
      obtain ⟨child, found, stood⟩ := Option.bind_eq_some_iff.mp stood
      obtain ⟨absent, removed⟩ := ih stood
      simp only [remove?, found, Option.bind_some]
      constructor
      · intro missing
        rw [absent missing]
        rfl
      · intro changed found
        obtain ⟨inner, deleted, there⟩ := removed changed found
        refine ⟨_, by rw [deleted]; rfl, ?_⟩
        rw [get_object, Members.lookup_put_self, Option.bind_some]
        exact there
    | array items =>
      obtain ⟨index, indexed, stood⟩ := Option.bind_eq_some_iff.mp stood
      obtain ⟨child, found, stood⟩ := Option.bind_eq_some_iff.mp stood
      obtain ⟨absent, removed⟩ := ih stood
      have notLast : segment ≠ "-1" := by
        rintro rfl
        have unindexed : index? "-1" = none := by decide
        cases indexed
      have placed : position? items segment = some index := by
        rw [position?, if_neg notLast, indexed]
      simp only [remove?, placed, found, Option.bind_some]
      constructor
      · intro missing
        rw [absent missing]
        rfl
      · intro changed deletes
        obtain ⟨inner, deleted, there⟩ := removed changed deletes
        refine ⟨_, by rw [deleted]; rfl, ?_⟩
        rw [get_array, indexed, Option.bind_some,
          List.getElem?_set_self (List.getElem?_eq_some_iff.mp found).1]
        exact there
    | _ => cases stood

theorem remove?_ne (deleted : doc.remove? path = some result) : result ≠ doc := by
  induction path generalizing doc result with
  | nil => cases doc <;> cases deleted
  | cons segment path ih =>
    rintro rfl
    cases path with
    | nil =>
      cases result with
      | object fields =>
        obtain ⟨child, found, same⟩ := Option.map_eq_some_iff.mp deleted
        have lost := Members.lookup_drop_self fields segment
        rw [object.inj same, found] at lost
        cases lost
      | array items =>
        obtain ⟨index, -, found⟩ := Option.bind_eq_some_iff.mp deleted
        obtain ⟨child, found, same⟩ := Option.map_eq_some_iff.mp found
        have shorter := congrArg List.length (array.inj same)
        have within := (List.getElem?_eq_some_iff.mp found).1
        rw [List.length_eraseIdx_of_lt within] at shorter
        omega
      | _ => cases deleted
    | cons next path =>
      cases result with
      | object fields =>
        obtain ⟨child, found, below⟩ := Option.bind_eq_some_iff.mp deleted
        obtain ⟨changed, below, same⟩ := Option.map_eq_some_iff.mp below
        have kept := Members.lookup_put_self fields segment changed
        rw [object.inj same, found] at kept
        rw [Option.some.inj kept] at below
        exact ih below rfl
      | array items =>
        obtain ⟨index, -, found⟩ := Option.bind_eq_some_iff.mp deleted
        obtain ⟨child, found, below⟩ := Option.bind_eq_some_iff.mp found
        obtain ⟨changed, below, same⟩ := Option.map_eq_some_iff.mp below
        have within := (List.getElem?_eq_some_iff.mp found).1
        have kept := List.getElem?_set_self (a := changed) within
        rw [array.inj same, found] at kept
        rw [Option.some.inj kept] at below
        exact ih below rfl
      | _ => cases deleted

/-- Every step of the path before its last one is in an object. -/
def ObjectsAbove (doc : JsonValue) (path : List String) : Prop :=
  ∀ above, above <+: path → above ≠ path → ∃ fields, doc.get above = some (.object fields)

theorem ObjectsAbove.below {child : JsonValue}
    (objects : (object fields).ObjectsAbove (segment :: path))
    (found : fields.lookup segment = some child) :
    child.ObjectsAbove path := by
  intro above onTheWay notThere
  obtain ⟨members, stands⟩ :=
    objects (segment :: above) (List.cons_prefix_cons.mpr ⟨rfl, onTheWay⟩)
      (fun same => notThere (List.cons.inj same).2)
  rw [get_object, found, Option.bind_some] at stands
  exact ⟨members, stands⟩

theorem objectsAbove_of_keyPath
    (named : doc.keyPath path = true) (stands : doc.get path = some value) :
    doc.ObjectsAbove path := by
  induction path generalizing doc with
  | nil =>
    intro above onTheWay notThere
    exact absurd (List.prefix_nil.mp onTheWay) notThere
  | cons segment path ih =>
    cases doc with
    | object fields =>
      obtain ⟨child, found, standsBelow⟩ := Option.bind_eq_some_iff.mp stands
      rw [keyPath_object_cons, found] at named
      intro above onTheWay notThere
      cases above with
      | nil => exact ⟨fields, get_nil _⟩
      | cons first above =>
        obtain ⟨rfl, onRest⟩ := List.cons_prefix_cons.mp onTheWay
        obtain ⟨members, below⟩ := ih named standsBelow
          above onRest (fun same => notThere (by rw [same]))
        refine ⟨members, ?_⟩
        rw [get_object, found]
        exact below
    | array items =>
      change ((segment :: path).all fun name => !indexes name) = true at named
      rw [List.all_cons, Bool.and_eq_true] at named
      rw [get_array, (not_indexes named.1).1] at stands
      cases stands
    | _ => cases stands

structure Removed (doc result : JsonValue) (path : List String) : Prop where
  gone : ∀ below, result.get (path ++ below) = none
  apart : ∀ other, ¬path <+: other → ¬other <+: path → result.get other = doc.get other
  above : ∀ other, other <+: path → other ≠ path → ∃ kept, result.get other = some (.object kept)

theorem remove?_member (nonempty : path ≠ [])
    (objects : doc.ObjectsAbove path) (stands : doc.get path = some value) :
    ∃ result, doc.remove? path = some result ∧ Removed doc result path := by
  induction path generalizing doc with
  | nil => exact absurd rfl nonempty
  | cons segment path ih =>
    obtain ⟨fields, rooted⟩ := objects [] List.nil_prefix (List.cons_ne_nil _ _).symm
    obtain rfl : doc = .object fields := Option.some.inj rooted
    obtain ⟨child, found, stands⟩ := Option.bind_eq_some_iff.mp stands
    cases path with
    | nil =>
      refine ⟨.object (Members.drop fields segment), ?_, ?_, ?_, ?_⟩
      · simp only [remove?, found, Option.map_some]
      · intro below
        rw [List.cons_append, get_object, Members.lookup_drop_self]
        rfl
      · intro other notUnder notAbove
        cases other with
        | nil => exact absurd List.nil_prefix notAbove
        | cons first other =>
          have different : first ≠ segment := by
            rintro rfl
            exact notUnder (List.cons_prefix_cons.mpr ⟨rfl, List.nil_prefix⟩)
          rw [get_object, get_object, Members.lookup_drop_of_ne different]
      · intro other onTheWay notThere
        cases other with
        | nil => exact ⟨_, get_nil _⟩
        | cons first other =>
          obtain ⟨rfl, onRest⟩ := List.cons_prefix_cons.mp onTheWay
          exact absurd (by rw [List.prefix_nil.mp onRest]) notThere
    | cons next path =>
      obtain ⟨changed, deleted, removed⟩ := ih (List.cons_ne_nil _ _) (objects.below found) stands
      refine ⟨.object (Members.put fields segment changed), ?_, ?_, ?_, ?_⟩
      · simp only [remove?, found, Option.bind_some, deleted, Option.map_some]
      · intro below
        rw [List.cons_append, get_object, Members.lookup_put_self, Option.bind_some]
        exact removed.gone below
      · intro other notUnder notAbove
        cases other with
        | nil => exact absurd List.nil_prefix notAbove
        | cons first other =>
          by_cases same : first = segment
          · subst same
            rw [get_object, get_object, Members.lookup_put_self, found]
            exact removed.apart other
              (fun under => notUnder (List.cons_prefix_cons.mpr ⟨rfl, under⟩))
              (fun shorter => notAbove (List.cons_prefix_cons.mpr ⟨rfl, shorter⟩))
          · rw [get_object, get_object, Members.lookup_put_of_ne same]
      · intro other onTheWay notThere
        cases other with
        | nil => exact ⟨_, get_nil _⟩
        | cons first other =>
          obtain ⟨rfl, onRest⟩ := List.cons_prefix_cons.mp onTheWay
          rw [get_object, Members.lookup_put_self, Option.bind_some]
          exact removed.above other onRest (fun same => notThere (by rw [same]))

end JsonValue

/-- The characters that have no meaning of their own in a path. -/
def isPlainChar (char : Char) : Bool :=
  char ≤ ' ' || '~' < char || char == '_' || char == '-' ||
    ('a' ≤ char && char ≤ 'z') || ('A' ≤ char && char ≤ 'Z') ||
    ('0' ≤ char && char ≤ '9')

def isPlainName (name : String) : Bool := name.toList ≠ [] && name.toList.all isPlainChar

def pathSegments (path : String) : List String := (path.toList.splitOn '.').map String.ofList

def joinSegments (segments : List String) : String :=
  String.ofList (['.'].intercalate (segments.map String.toList))

def isPlainPath (path : String) : Bool := (pathSegments path).all isPlainName

theorem notMem_of_mem_splitOn {separator : Char} {text part : List Char}
    (member : part ∈ text.splitOn separator) : separator ∉ part := by
  induction text generalizing part with
  | nil =>
    rw [List.splitOn_nil, List.mem_singleton] at member
    simp [member]
  | cons char text ih =>
    rw [List.splitOn_cons_eq_if_modifyHead] at member
    by_cases same : char = separator
    · rw [if_pos (beq_iff_eq.mpr same)] at member
      rcases List.mem_cons.mp member with rfl | member
      · exact List.not_mem_nil
      · exact ih member
    · rw [if_neg (by simpa using same)] at member
      obtain ⟨head, parts, split⟩ := List.exists_cons_of_ne_nil (List.splitOn_ne_nil separator text)
      rw [split] at member ih
      rcases List.mem_cons.mp member with rfl | member
      · intro found
        rcases List.mem_cons.mp found with same' | found
        · exact same same'.symm
        · exact ih List.mem_cons_self found
      · exact ih (List.mem_cons_of_mem _ member)

theorem map_toList_ofList (parts : List (List Char)) :
    (parts.map String.ofList).map String.toList = parts := by
  rw [List.map_map]
  exact List.map_id'' (fun part => String.toList_ofList) _

theorem map_ofList_toList (segments : List String) :
    (segments.map String.toList).map String.ofList = segments := by
  rw [List.map_map]
  exact List.map_id'' (fun segment => String.ofList_toList) _

theorem noDots_of_mem_pathSegments {path segment : String} (member : segment ∈ pathSegments path) :
    '.' ∉ segment.toList := by
  obtain ⟨part, partMember, rfl⟩ := List.mem_map.mp member
  rw [String.toList_ofList]
  exact notMem_of_mem_splitOn partMember

theorem pathSegments_ne_nil (path : String) : pathSegments path ≠ [] := by
  rw [pathSegments, Ne, List.map_eq_nil_iff]
  exact List.splitOn_ne_nil _ _

@[simp]
theorem joinSegments_pathSegments (path : String) : joinSegments (pathSegments path) = path := by
  rw [joinSegments, pathSegments, map_toList_ofList, List.intercalate_splitOn, String.ofList_toList]

theorem pathSegments_joinSegments {segments : List String} (nonempty : segments ≠ [])
    (noDots : ∀ segment ∈ segments, '.' ∉ segment.toList) :
    pathSegments (joinSegments segments) = segments := by
  have split :
      (['.'].intercalate (segments.map String.toList)).splitOn '.' = segments.map String.toList :=
    List.splitOn_intercalate '.' (by simpa using noDots) (by simpa using nonempty)
  rw [pathSegments, joinSegments, String.toList_ofList, split, map_ofList_toList]

/-- `gjson` and `sjson` on decoded documents, and the numbers that
`encoding/json` reads. -/
structure PathLibrary where
  get : JsonValue → String → Option JsonValue
  setBytes : JsonValue → String → JsonValue → Except String JsonValue
  deleteBytes : JsonValue → String → Except String JsonValue
  readNumber : String → Option String

structure PathLibrary.ReadsPlainPaths (library : PathLibrary) : Prop where
  get_eq : ∀ doc path, isPlainPath path = true → library.get doc path = doc.get (pathSegments path)
  set_eq :
    ∀ doc path value, isPlainPath path = true →
      (library.setBytes doc path value).toOption = doc.set (pathSegments path) value
  delete_eq :
    ∀ doc path, isPlainPath path = true →
      library.deleteBytes doc path = .ok (doc.remove (pathSegments path))

def PathLibrary.dotted : PathLibrary where
  get := fun doc path => doc.get (pathSegments path)
  setBytes := fun doc path value =>
    match doc.set (pathSegments path) value with
    | some result => .ok result
    | none => .error "cannot set array element for non-numeric key"
  deleteBytes := fun doc path => .ok (doc.remove (pathSegments path))
  readNumber := some

theorem PathLibrary.dotted_readsPlainPaths : PathLibrary.dotted.ReadsPlainPaths where
  get_eq := fun _ _ _ => rfl
  set_eq := by
    intro doc path value _
    simp only [dotted]
    cases doc.set (pathSegments path) value <;> rfl
  delete_eq := fun _ _ _ => rfl

end NewApi.Relay
