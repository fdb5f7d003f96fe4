import NewApi.Lib.Transactions
import NewApi.Relay.PrunedObjects

/-!
# What pruning leaves

A decoded document has distinct names in each of its objects, so dropping and
cleaning the members of an object leaves its own type as it was.  The result of
pruning is therefore the tree without the objects of the type, and pruning it
again changes nothing.
-/

namespace NewApi.Relay

open GoStrings Transactions JsonValue

namespace JsonValue

variable {text : String}

def hasType (text : String) : JsonValue → Bool
  | .object fields =>
    match fields.lookup "type" with
    | some (.string value) => value = text
    | _ => false
  | _ => false

mutual

def withoutType (text : String) : JsonValue → JsonValue
  | .array items => .array (withoutTypeItems text items)
  | .object fields => .object (withoutTypeFields text fields)
  | value => value

def withoutTypeItems (text : String) : List JsonValue → List JsonValue
  | [] => []
  | item :: items =>
    if item.hasType text then withoutTypeItems text items
    else withoutType text item :: withoutTypeItems text items

def withoutTypeFields (text : String) :
    List (String × JsonValue) → List (String × JsonValue)
  | [] => []
  | (name, value) :: fields =>
    if value.hasType text then withoutTypeFields text fields
    else (name, withoutType text value) :: withoutTypeFields text fields

end

theorem withoutTypeItems_eq (items : List JsonValue) : withoutTypeItems text items =
      (items.filter fun item => !item.hasType text).map (withoutType text) := by
  induction items with
  | nil => rfl
  | cons item items ih =>
    rw [withoutTypeItems, ih]
    cases typed : item.hasType text <;> simp [typed]

theorem withoutTypeFields_eq (fields : List (String × JsonValue)) : withoutTypeFields text fields =
      (fields.filter fun field => !field.2.hasType text).map
        fun field => (field.1, withoutType text field.2) := by
  induction fields with
  | nil => rfl
  | cons field fields ih =>
    rw [withoutTypeFields, ih]
    cases typed : field.2.hasType text <;> simp [typed]

theorem names_withoutTypeFields (fields : List (String × JsonValue)) :
    ((withoutTypeFields text fields).map Prod.fst).Sublist (fields.map Prod.fst) := by
  rw [withoutTypeFields_eq, List.map_map]
  exact List.filter_sublist.map Prod.fst

variable {fields : List (String × JsonValue)}

theorem lookup_withoutTypeFields (distinct : (fields.map Prod.fst).Nodup) (name : String) :
    (withoutTypeFields text fields).lookup name =
      ((fields.lookup name).filter fun value => !value.hasType text).map (withoutType text) := by
  induction fields with
  | nil => rfl
  | cons field fields ih =>
    obtain ⟨fresh, rest⟩ := List.nodup_cons.mp distinct
    rw [withoutTypeFields]
    by_cases named : field.1 = name
    · subst named
      rw [List.lookup_cons_self]
      cases typed : field.2.hasType text with
      | true =>
        have missing : (withoutTypeFields text fields).lookup field.1 = none := by
          rw [List.lookup_eq_none_iff]
          intro other listed
          have apart : other.1 ≠ field.1 := fun same => fresh
            ((names_withoutTypeFields fields).subset (List.mem_map.mpr ⟨other, listed, same⟩))
          simpa using Ne.symm apart
        simp [missing, Option.filter, typed]
      | false => simp [Option.filter, typed, List.lookup_cons_self]
    · rw [Members.lookup_cons_of_ne named]
      split
      · exact ih rest
      · have apart : (field.1, withoutType text field.2).1 ≠ name := named
        rw [Members.lookup_cons_of_ne apart]
        exact ih rest

inductive Within : JsonValue → JsonValue → Prop
  | self (value : JsonValue) : Within value value
  | item {part item : JsonValue} {items : List JsonValue} :
      item ∈ items → Within part item → Within part (.array items)
  | member {part : JsonValue} {field : String × JsonValue}
      {fields : List (String × JsonValue)} :
      field ∈ fields → Within part field.2 → Within part (.object fields)

def WellNamed (value : JsonValue) : Prop :=
  ∀ fields, Within (.object fields) value → (fields.map Prod.fst).Nodup

theorem WellNamed.member {field : String × JsonValue} (named : (object fields).WellNamed)
    (listed : field ∈ fields) : field.2.WellNamed :=
  fun _ within => named _ (.member listed within)

theorem WellNamed.item {item : JsonValue} {items : List JsonValue}
    (named : (array items).WellNamed) (listed : item ∈ items) : item.WellNamed :=
  fun _ within => named _ (.item listed within)

theorem hasType_object :
    (object fields).hasType text = true ↔ fields.lookup "type" = some (.string text) := by
  cases found : fields.lookup "type" with
  | none => simp [hasType, found]
  | some type => cases type <;> simp [hasType, found]

theorem hasType_withoutType {value : JsonValue} (named : value.WellNamed) :
    (withoutType text value).hasType text = value.hasType text := by
  cases value with
  | object fields =>
    rw [withoutType, Bool.eq_iff_iff, hasType_object, hasType_object,
      lookup_withoutTypeFields (named fields (.self _))]
    cases fields.lookup "type" with
    | none => simp
    | some type => cases type <;> simp [Option.filter, hasType, withoutType]
  | _ => rfl

theorem within_withoutType (value : JsonValue) (named : value.WellNamed) :
    ∀ part, Within part (withoutType text value) →
      part = withoutType text value ∨ part.hasType text = false := by
  induction value using induct with
  | null | bool _ | number _ | string _ => exact fun _ within => by cases within; exact Or.inl rfl
  | array items ih =>
    intro part within
    rw [withoutType, withoutTypeItems_eq] at within ⊢
    cases within with
    | self => exact Or.inl rfl
    | item listed inside =>
      obtain ⟨old, kept, rfl⟩ := List.mem_map.mp listed
      obtain ⟨member, untyped⟩ := List.mem_filter.mp kept
      rcases ih old member (named.item member) part inside with rfl | other
      · rw [hasType_withoutType (named.item member)]
        exact Or.inr (by simpa using untyped)
      · exact Or.inr other
  | object fields ih =>
    intro part within
    rw [withoutType, withoutTypeFields_eq] at within ⊢
    cases within with
    | self => exact Or.inl rfl
    | member listed inside =>
      obtain ⟨old, kept, rfl⟩ := List.mem_map.mp listed
      obtain ⟨member, untyped⟩ := List.mem_filter.mp kept
      rcases ih old member (named.member member) part inside with rfl | other
      · rw [hasType_withoutType (named.member member)]
        exact Or.inr (by simpa using untyped)
      · exact Or.inr other

section Decoded

variable {readNumber : String → Option String} {room : Nat}

theorem unmarshalItems_mem {items others : List JsonValue}
    (decoded : unmarshalItems readNumber room items = some others) :
    ∀ next ∈ others, ∃ item ∈ items, unmarshal readNumber room item = some next := by
  induction items generalizing others with
  | nil => simp_all [unmarshalItems]
  | cons item items ih =>
    obtain ⟨first, own, rest⟩ := Option.bind_eq_some_iff.mp decoded
    obtain ⟨tail, later, rfl⟩ := Option.map_eq_some_iff.mp rest
    refine List.forall_mem_cons.mpr ⟨⟨item, List.mem_cons_self, own⟩, ?_⟩
    intro next listed
    obtain ⟨old, member, found⟩ := ih later next listed
    exact ⟨old, List.mem_cons_of_mem _ member, found⟩

variable {fields : List (String × JsonValue)}

theorem unmarshalFields_mem {others : List (String × JsonValue)}
    (decoded : unmarshalFields readNumber room fields = some others) :
    (others.map Prod.fst).Nodup ∧
      ∀ next ∈ others, ∃ field ∈ fields, unmarshal readNumber room field.2 = some next.2 := by
  induction fields generalizing others with
  | nil => simp_all [unmarshalFields]
  | cons field fields ih =>
    obtain ⟨first, own, rest⟩ := Option.bind_eq_some_iff.mp decoded
    obtain ⟨tail, later, kept⟩ := Option.map_eq_some_iff.mp rest
    obtain ⟨distinct, members⟩ := ih later
    have below : ∀ next ∈ tail, ∃ old ∈ field :: fields,
        unmarshal readNumber room old.2 = some next.2 := by
      intro next listed
      obtain ⟨old, member, found⟩ := members next listed
      exact ⟨old, List.mem_cons_of_mem _ member, found⟩
    split at kept
    · exact kept ▸ ⟨distinct, below⟩
    · rename_i fresh
      subst kept
      exact ⟨List.nodup_cons.mpr ⟨fresh, distinct⟩,
        List.forall_mem_cons.mpr ⟨⟨field, List.mem_cons_self, own⟩, below⟩⟩

theorem unmarshalItems_fixed {items : List JsonValue}
    (fixed : ∀ item ∈ items, unmarshal readNumber room item = some item) :
    unmarshalItems readNumber room items = some items := by
  induction items with
  | nil => rfl
  | cons item items ih =>
    obtain ⟨own, rest⟩ := List.forall_mem_cons.mp fixed
    rw [unmarshalItems, own, ih rest]
    rfl

theorem unmarshalFields_fixed (distinct : (fields.map Prod.fst).Nodup)
    (fixed : ∀ field ∈ fields, unmarshal readNumber room field.2 = some field.2) :
    unmarshalFields readNumber room fields = some fields := by
  induction fields with
  | nil => rfl
  | cons field fields ih =>
    obtain ⟨own, rest⟩ := List.forall_mem_cons.mp fixed
    obtain ⟨fresh, later⟩ := List.nodup_cons.mp distinct
    rw [unmarshalFields, own, ih later rest]
    simp only [Option.bind_some, Option.map_some, if_neg fresh]

/-- A decoded tree has distinct names, and is read back as it is without the
objects of a type. -/
theorem unmarshal_withoutType
    (rereads : ∀ printed read, readNumber printed = some read → readNumber read = some read)
    (doc : JsonValue) : ∀ room tree, unmarshal readNumber room doc = some tree →
      tree.WellNamed ∧
        unmarshal readNumber room (withoutType text tree) = some (withoutType text tree) := by
  induction doc using induct with
  | null | bool _ | string _ =>
    intro room tree decoded
    cases decoded
    exact ⟨fun _ within => (by cases within), rfl⟩
  | number printed =>
    intro room tree decoded
    obtain ⟨read, own, rfl⟩ := Option.map_eq_some_iff.mp decoded
    refine ⟨fun _ within => (by cases within), ?_⟩
    rw [withoutType, unmarshal, rereads _ _ own]
    · rfl
    all_goals simp
  | array items ih =>
    intro room tree decoded
    cases room with
    | zero => cases decoded
    | succ room =>
      obtain ⟨others, listed, rfl⟩ := Option.map_eq_some_iff.mp decoded
      have parts : ∀ next ∈ others, next.WellNamed ∧ _ := fun next member =>
        let ⟨item, old, found⟩ := unmarshalItems_mem listed next member
        ih item old room next found
      constructor
      · intro fields within
        cases within with
        | item member inside => exact (parts _ member).1 fields inside
      · rw [withoutType, unmarshal, unmarshalItems_fixed]
        · rfl
        · rw [withoutTypeItems_eq]
          intro item member
          obtain ⟨old, kept, rfl⟩ := List.mem_map.mp member
          exact (parts old (List.mem_filter.mp kept).1).2
  | object fields ih =>
    intro room tree decoded
    cases room with
    | zero => cases decoded
    | succ room =>
      obtain ⟨others, listed, rfl⟩ := Option.map_eq_some_iff.mp decoded
      obtain ⟨distinct, members⟩ := unmarshalFields_mem listed
      have parts : ∀ next ∈ others, next.2.WellNamed ∧ _ := fun next member =>
        let ⟨field, old, found⟩ := members next member
        ih field old room next.2 found
      constructor
      · intro fields within
        cases within with
        | self => exact distinct
        | member listed inside => exact (parts _ listed).1 fields inside
      · rw [withoutType, unmarshal, unmarshalFields_fixed]
        · rfl
        · exact distinct.sublist (names_withoutTypeFields others)
        · rw [withoutTypeFields_eq]
          intro field member
          obtain ⟨old, kept, rfl⟩ := List.mem_map.mp member
          exact (parts old (List.mem_filter.mp kept).1).2

end Decoded

end JsonValue

/-! ## What is pruned -/

section Pruned

variable {text : String}

open JsonValue

def pruneByType (text : String) :
    (isRoot : Bool) → JsonValue → Except String (Option JsonValue) :=
  pruneObjectsNode ⟨typeCondition none text, true⟩

variable {options : PruneObjectsOptions} {fields : List (String × JsonValue)}

theorem pruneItems_eq {items : List JsonValue}
    (each : ∀ item ∈ items, ∀ next, pruneObjectsNode options false item = .ok next →
      next = if item.hasType text then none else some (withoutType text item)) :
    ∀ kept, pruneItems options items = .ok kept → kept = withoutTypeItems text items := by
  induction items with
  | nil => exact fun _ pruned => (Except.ok.inj pruned).symm
  | cons item items ih =>
    intro kept pruned
    obtain ⟨own, rest⟩ := List.forall_mem_cons.mp each
    obtain ⟨next, first, mapped⟩ := bind_ok_iff.mp pruned
    obtain ⟨others, later, rfl⟩ := map_eq_ok_iff.mp mapped
    rw [ih rest others later, own next first, withoutTypeItems]
    split <;> rfl

theorem pruneFields_eq (each : ∀ field ∈ fields, ∀ next,
      pruneObjectsNode options false field.2 = .ok next →
        next = if field.2.hasType text then none else some (withoutType text field.2)) :
    ∀ kept, pruneFields options fields = .ok kept → kept = withoutTypeFields text fields := by
  induction fields with
  | nil => exact fun _ pruned => (Except.ok.inj pruned).symm
  | cons field fields ih =>
    intro kept pruned
    obtain ⟨own, rest⟩ := List.forall_mem_cons.mp each
    obtain ⟨next, first, mapped⟩ := bind_ok_iff.mp pruned
    obtain ⟨others, later, rfl⟩ := map_eq_ok_iff.mp mapped
    rw [ih rest others later, own next first, withoutTypeFields]
    split <;> rfl

theorem pruneItems_fixed {items : List JsonValue}
    (fixed : ∀ item ∈ items, pruneObjectsNode options false item = .ok (some item)) :
    pruneItems options items = .ok items := by
  induction items with
  | nil => rfl
  | cons item items ih =>
    obtain ⟨own, rest⟩ := List.forall_mem_cons.mp fixed
    rw [pruneItems, own, ih rest]
    rfl

theorem pruneFields_fixed
    (fixed : ∀ field ∈ fields, pruneObjectsNode options false field.2 = .ok (some field.2)) :
    pruneFields options fields = .ok fields := by
  induction fields with
  | nil => rfl
  | cons field fields ih =>
    obtain ⟨own, rest⟩ := List.forall_mem_cons.mp fixed
    rw [pruneFields, own, ih rest]
    rfl

theorem typeCondition_ok {holds : Bool} (compared : typeCondition none text fields = .ok holds) :
    holds = (object fields).hasType text ∧ comparesWithText (fields.lookup "type") = true := by
  have same : typeOf none fields = fields.lookup "type" := Option.or_none
  rcases @typeCondition_cases none text fields with
    ⟨message, failed, _⟩ | ⟨other, done, comparable, typed⟩
  · rw [failed] at compared
    cases compared
  · rw [done] at compared
    cases compared
    rw [same] at comparable typed
    exact ⟨Bool.eq_iff_iff.mpr (typed.trans hasType_object.symm), comparable⟩

theorem pruneByType_eq (node : JsonValue) : ∀ isRoot next, pruneByType text isRoot node = .ok next →
      next = if node.hasType text && !isRoot then none
        else some (withoutType text node) := by
  induction node using induct with
  | null | bool _ | number _ | string _ => exact fun _ _ done => (Except.ok.inj done).symm
  | array items ih =>
    intro isRoot next done
    obtain ⟨kept, pruned, rfl⟩ := map_eq_ok_iff.mp done
    rw [pruneItems_eq (fun item listed next own => by
      simpa using ih item listed false next own) kept pruned]
    rfl
  | object fields ih =>
    intro isRoot next done
    obtain ⟨holds, compared, rest⟩ := bind_ok_iff.mp done
    rw [← (typeCondition_ok compared).1]
    split at rest
    · rename_i dropped
      rw [if_pos dropped]
      exact (Except.ok.inj rest).symm
    · rename_i stays
      obtain ⟨kept, pruned, rfl⟩ := map_eq_ok_iff.mp rest
      rw [if_neg stays, pruneFields_eq (fun field listed next own => by
        simpa using ih field listed false next own) kept pruned]
      rfl

theorem pruneByType_kept {node : JsonValue} (untyped : node.hasType text = false)
    (done : ∃ next, pruneByType text false node = .ok next) :
    pruneByType text false node = .ok (some (withoutType text node)) := by
  obtain ⟨next, done⟩ := done
  rw [done, pruneByType_eq node false next done, untyped]
  rfl

theorem pruneByType_again (node : JsonValue) (named : node.WellNamed) :
    ∀ isRoot, pruneByType text isRoot node = .ok (some (withoutType text node)) →
      pruneByType text isRoot (withoutType text node) = .ok (some (withoutType text node)) := by
  induction node using induct with
  | null | bool _ | number _ | string _ => exact fun _ done => done
  | array items ih =>
    intro isRoot done
    obtain ⟨kept, pruned, _⟩ := map_eq_ok_iff.mp done
    refine map_eq_ok_iff.mpr ⟨_, pruneItems_fixed ?_, rfl⟩
    rw [withoutTypeItems_eq]
    intro item member
    obtain ⟨old, stays, rfl⟩ := List.mem_map.mp member
    obtain ⟨listed, untyped⟩ := List.mem_filter.mp stays
    exact ih old listed (named.item listed) false (pruneByType_kept
      (by simpa using untyped) ((pruneItems_ok_iff _ _).mp ⟨kept, pruned⟩ old listed))
  | object fields ih =>
    intro isRoot done
    obtain ⟨holds, compared, rest⟩ := bind_ok_iff.mp done
    change typeCondition none text fields = .ok holds at compared
    have comparable := (typeCondition_ok compared).2
    have same : typeCondition none text (withoutTypeFields text fields) = .ok holds := by
      rw [← compared]
      unfold typeCondition
      rw [lookup_withoutTypeFields (named fields (.self _))]
      cases type : fields.lookup "type" with
      | none => rfl
      | some value =>
        cases value <;> simp_all [comparesWithText, Option.filter, hasType, withoutType]
    split at rest
    · cases rest
    rename_i stays
    obtain ⟨kept, pruned, _⟩ := map_eq_ok_iff.mp rest
    refine bind_ok_iff.mpr ⟨holds, same, ?_⟩
    rw [if_neg stays]
    refine map_eq_ok_iff.mpr ⟨_, pruneFields_fixed ?_, rfl⟩
    rw [withoutTypeFields_eq]
    intro field member
    obtain ⟨old, kept_old, rfl⟩ := List.mem_map.mp member
    obtain ⟨listed, untyped⟩ := List.mem_filter.mp kept_old
    exact ih old listed (named.member listed) false (pruneByType_kept
      (by simpa using untyped) ((pruneFields_ok_iff _ _).mp ⟨kept, pruned⟩ old listed))

/-- Where pruning a document by type succeeds, the result is the decoded tree
without the objects of the trimmed type; none is left below its root, and
pruning it again changes nothing. -/
theorem prune_removes_type {library : RawPaths}
    (rereads : ∀ printed read, library.readNumber printed = some read →
      library.readNumber read = some read)
    {doc result : JsonValue} {raw : String}
    (done : pruneObjects library doc "" none (.string raw) = .ok result) :
    ∃ tree, doc.unmarshal library.readNumber maxNestingDepth = some tree ∧
      result = withoutType (trimSpace raw) tree ∧
      (∀ part, Within part result → part = result ∨ part.hasType (trimSpace raw) = false) ∧
      pruneObjects library result "" none (.string raw) = .ok result := by
  obtain ⟨options, parsed, rest⟩ := bind_ok_iff.mp done
  rw [parsePruneObjectsOptions] at parsed
  split at parsed
  · cases parsed
  rename_i nonblank
  obtain rfl := Except.ok.inj parsed
  simp only [if_true] at rest
  split at rest
  · cases rest
  rename_i tree decoded
  obtain ⟨cleaned, pruned, whole⟩ := bind_ok_iff.mp rest
  have removed := pruneByType_eq tree true cleaned pruned
  simp only [Bool.not_true, Bool.and_false, Bool.false_eq_true, if_false] at removed
  subst removed
  obtain rfl : withoutType (trimSpace raw) tree = result := Except.ok.inj whole
  obtain ⟨named, reread⟩ := @unmarshal_withoutType (trimSpace raw) _ rereads doc
    maxNestingDepth tree decoded
  refine ⟨tree, decoded, rfl, within_withoutType tree named, ?_⟩
  refine bind_ok_iff.mpr ⟨_, by rw [parsePruneObjectsOptions, if_neg nonblank], ?_⟩
  simp only [if_true, reread]
  exact bind_ok_iff.mpr ⟨_, pruneByType_again tree named true pruned, rfl⟩

end Pruned

theorem prune_removes_thoughts : ∃ tree, thoughts.unmarshal some maxNestingDepth = some tree ∧
      .object [("messages", .array [.object [("type", .string "text")]])] =
        tree.withoutType (trimSpace "redacted_thinking") := by
  obtain ⟨tree, decoded, removed, _⟩ :=
    @prune_removes_type RawPaths.whole (fun _ _ _ => rfl) thoughts
      (.object [("messages", .array [.object [("type", .string "text")]])])
      "redacted_thinking" (by with_unfolding_all rfl)
  exact ⟨tree, decoded, removed⟩

/-- The text is trimmed: objects of the type " x " stay, and those of the type
"x" go. -/
theorem prune_trims_type :
    pruneObjects RawPaths.whole (.array [.object [("type", .string " x ")],
        .object [("type", .string "x")]]) "" none (.string " x ") =
      .ok (.array [.object [("type", .string " x ")]]) ∧
    JsonValue.hasType " x " (.object [("type", .string " x ")]) = true := by
  with_unfolding_all exact ⟨rfl, rfl⟩

end NewApi.Relay
