import Mathlib.Data.Finset.Max
import NewApi.Relay.JsonPaths

/-!
# Overrides in the old form

The old form of an override is a map from the names of top-level members to
their values.  Each name is escaped and handed to the path library as a path.
The characters that make a path a query and the leading colon are not escaped,
so a name with one of them is not read as itself.
-/

namespace NewApi.Relay

open Members

inductive PathReading where
  | start
  | inside
  | escaped
deriving DecidableEq

def queryChars : List Char := ['|', '#', '@', '*', '?']

def pushChar (char : Char) : List (List Char) → List (List Char)
  | [] => [[char]]
  | segment :: segments => (char :: segment) :: segments

/-- The segments of a path; a query has none. -/
def readSegments : PathReading → List Char → Option (List (List Char))
  | _, [] => some [[]]
  | .escaped, char :: rest => (readSegments .inside rest).map (pushChar char)
  | reading, char :: rest =>
    if char = ':' ∧ reading = .start then readSegments .inside rest
    else if char = '\\' then readSegments .escaped rest
    else if char = '.' then (readSegments .start rest).map ([] :: ·)
    else if char ∈ queryChars then none
    else (readSegments .inside rest).map (pushChar char)

def sjsonSegments (path : String) : Option (List String) :=
  (readSegments .start path.toList).map fun segments => segments.map String.ofList

/-- `sjson.SetBytes` at any path.  A query writes where it matches, so it adds
no member to an object. -/
structure PathLibrary.ReadsGrammar (library : PathLibrary) : Prop where
  empty_fails : ∀ doc value, (library.setBytes doc "" value).toOption = none
  segments_eq :
    ∀ doc path value segments, path ≠ "" → sjsonSegments path = some segments →
      (library.setBytes doc path value).toOption = doc.set segments value
  query_members :
    ∀ fields path value, path ≠ "" → sjsonSegments path = none →
      ∃ others, library.setBytes (.object fields) path value = .ok (.object others) ∧
        ∀ name, (others.lookup name).isSome = (fields.lookup name).isSome

def escapedChars : List Char := ['.', '*', '?', '\\']

def escapeChar (char : Char) : List Char := if char ∈ escapedChars then ['\\', char] else [char]

def escapeSjsonLiteralKey (key : String) : String :=
  if key.toList.all (· ∉ escapedChars) then key
  else String.ofList (key.toList.flatMap escapeChar)

def unescapedChars : List Char := ['|', '#', '@']

def dropColon : List Char → List Char
  | [] => []
  | char :: rest => if char = ':' then rest else char :: rest

def isQueryKey (key : String) : Bool := key.toList.any (· ∈ unescapedChars)

/-- The name that is written for a key whose path is not a query. -/
def writtenName (key : String) : String := String.ofList (dropColon key.toList)

def LiteralKey (key : String) : Prop :=
  key ≠ "" ∧ key.toList.head? ≠ some ':' ∧ isQueryKey key = false

theorem toList_escapeSjsonLiteralKey (key : String) :
    (escapeSjsonLiteralKey key).toList = key.toList.flatMap escapeChar := by
  unfold escapeSjsonLiteralKey
  split
  · rename_i plain
    have unchanged : ∀ chars : List Char,
        (∀ char ∈ chars, char ∉ escapedChars) → chars.flatMap escapeChar = chars := by
      intro chars
      induction chars with
      | nil => exact fun _ => rfl
      | cons char chars ih =>
        intro plain
        rw [List.flatMap_cons, escapeChar, if_neg (plain char List.mem_cons_self),
          ih fun other listed => plain other (List.mem_cons_of_mem _ listed)]
        rfl
    exact (unchanged _ (by simpa using plain)).symm
  · exact String.toList_ofList

theorem readSegments_escapeChar {reading : PathReading} {char : Char} (reads : reading ≠ .escaped)
    (colon : ¬ (char = ':' ∧ reading = .start)) (rest : List Char) :
    readSegments reading (escapeChar char ++ rest) =
      if char ∈ unescapedChars then none
      else (readSegments .inside rest).map (pushChar char) := by
  have unfolded : ∀ next rest, ¬ (next = ':' ∧ reading = .start) →
      readSegments reading (next :: rest) =
        if next = '\\' then readSegments .escaped rest
        else if next = '.' then (readSegments .start rest).map ([] :: ·)
        else if next ∈ queryChars then none
        else (readSegments .inside rest).map (pushChar next) := by
    intro next rest colon
    rw [readSegments, if_neg colon]
    exact reads
  by_cases escaped : char ∈ escapedChars
  · have apart : ∀ char ∈ escapedChars, char ∉ unescapedChars := by
      simp [escapedChars, unescapedChars]
    have plain := apart char escaped
    rw [escapeChar, if_pos escaped, if_neg plain]
    change readSegments reading ('\\' :: char :: rest) = _
    rw [unfolded _ _ (by simp), if_pos rfl, readSegments]
  · rw [escapeChar, if_neg escaped]
    change readSegments reading (char :: rest) = _
    rw [unfolded _ _ colon]
    simp only [escapedChars, List.mem_cons, List.not_mem_nil, or_false, not_or] at escaped
    simp [escaped, queryChars, unescapedChars]

theorem readSegments_escaped (chars : List Char) : readSegments .inside (chars.flatMap escapeChar) =
      if chars.any (· ∈ unescapedChars) then none else some [chars] := by
  induction chars with
  | nil => rfl
  | cons char chars ih =>
    rw [List.flatMap_cons, readSegments_escapeChar (by decide) (by simp), ih, List.any_cons]
    by_cases special : char ∈ unescapedChars
    · simp [special]
    · by_cases query : chars.any (· ∈ unescapedChars) = true
      · simp [query]
      · simp [special, query, pushChar]

theorem sjsonSegments_escaped (key : String) : sjsonSegments (escapeSjsonLiteralKey key) =
      if isQueryKey key then none else some [writtenName key] := by
  unfold sjsonSegments isQueryKey writtenName
  rw [toList_escapeSjsonLiteralKey]
  cases key.toList with
  | nil => rfl
  | cons char chars =>
    by_cases colon : char = ':'
    · subst colon
      have started : (':' :: chars).flatMap escapeChar = ':' :: chars.flatMap escapeChar := by
        rfl
      have stripped : readSegments .start (':' :: chars.flatMap escapeChar) =
          readSegments .inside (chars.flatMap escapeChar) := by
        rw [readSegments, if_pos ⟨rfl, rfl⟩]
        decide
      rw [started, stripped, readSegments_escaped]
      have first : (':' ∈ unescapedChars) = False := by decide
      simp only [List.any_cons, first, decide_false, Bool.false_or, dropColon, if_true]
      split <;> rfl
    · have started : readSegments .start ((char :: chars).flatMap escapeChar) =
          readSegments .inside ((char :: chars).flatMap escapeChar) := by
        rw [List.flatMap_cons, readSegments_escapeChar (by decide) (by simp [colon]),
          readSegments_escapeChar (by decide) (by simp)]
      rw [started, readSegments_escaped, dropColon, if_neg colon]
      split <;> rfl

/-! ## Applying a map of overrides -/

section Legacy

variable (library : PathLibrary)

/-- `applyOperationsLegacy` on a map in the order in which it is ranged
over. -/
def applyOperationsLegacy :
    JsonValue → List (String × JsonValue) → Except String JsonValue
  | doc, [] => .ok doc
  | doc, (key, value) :: overrides =>
    (library.setBytes doc (escapeSjsonLiteralKey key) value).bind fun next =>
      applyOperationsLegacy next overrides

/-- The result is the body with exactly the members of the map set. -/
def SetsMembers (fields overrides : List (String × JsonValue)) : Prop :=
  ∃ others,
    applyOperationsLegacy library (.object fields) overrides = .ok (.object others) ∧
      ∀ name, others.lookup name = (overrides.lookup name).or (fields.lookup name)

variable {library}

variable {key : String}

theorem escapeSjsonLiteralKey_eq_empty :
    escapeSjsonLiteralKey key = "" ↔ key = "" := by
  rw [← String.toList_eq_nil_iff, toList_escapeSjsonLiteralKey,
    ← String.toList_eq_nil_iff (b := key)]
  cases key.toList with
  | nil => simp
  | cons char chars =>
    have nonempty : escapeChar char ≠ [] := by
      unfold escapeChar
      split <;> simp
    simp [nonempty]

theorem setBytes_key (grammar : library.ReadsGrammar)
    (fields : List (String × JsonValue)) (key : String) (value : JsonValue) :
    (key = "" →
      (library.setBytes (.object fields) (escapeSjsonLiteralKey key) value).toOption = none) ∧
    (key ≠ "" → isQueryKey key = true →
      ∃ others, library.setBytes (.object fields) (escapeSjsonLiteralKey key)
          value = .ok (.object others) ∧
        ∀ name, (others.lookup name).isSome = (fields.lookup name).isSome) ∧
    (key ≠ "" → isQueryKey key = false →
      library.setBytes (.object fields) (escapeSjsonLiteralKey key) value =
        .ok (.object (Members.put fields (writtenName key) value))) := by
  have path := sjsonSegments_escaped key
  refine ⟨?_, ?_, ?_⟩
  · rintro rfl
    exact grammar.empty_fails _ _
  · intro nonempty query
    rw [if_pos query] at path
    exact grammar.query_members fields _ value
      (fun empty => nonempty (escapeSjsonLiteralKey_eq_empty.mp empty)) path
  · intro nonempty plain
    rw [if_neg (by simp [plain])] at path
    have written := grammar.segments_eq (.object fields) _ value _
      (fun empty => nonempty (escapeSjsonLiteralKey_eq_empty.mp empty)) path
    have set : (JsonValue.object fields).set [writtenName key] value =
        some (.object (put fields (writtenName key) value)) := by
      rw [JsonValue.set]
      cases fields.lookup (writtenName key) with
      | none => rfl
      | some child => cases child <;> rfl
    rw [set] at written
    cases outcome : library.setBytes (.object fields) (escapeSjsonLiteralKey key) value with
    | error message => simp [outcome, Except.toOption] at written
    | ok next => simpa [outcome, Except.toOption] using written

theorem writtenName_plain (first : key.toList.head? ≠ some ':') : writtenName key = key := by
  have kept : dropColon key.toList = key.toList := by
    cases chars : key.toList with
    | nil => rfl
    | cons char rest =>
      have other : char ≠ ':' := by simpa [chars] using first
      rw [dropColon, if_neg other]
  rw [writtenName, kept, String.ofList_toList]

theorem length_writtenName (first : key.toList.head? = some ':') :
    key.toList.length = (writtenName key).toList.length + 1 := by
  cases chars : key.toList with
  | nil => simp [chars] at first
  | cons char rest =>
    have colon : char = ':' := by simpa [chars] using first
    simp [writtenName, chars, dropColon, colon]

theorem setsMembers_of_literal (grammar : library.ReadsGrammar)
    (overrides : List (String × JsonValue)) :
    (overrides.map Prod.fst).Nodup →
    (∀ entry ∈ overrides, LiteralKey entry.1) → ∀ fields, SetsMembers library fields overrides := by
  induction overrides with
  | nil => exact fun _ _ fields => ⟨fields, rfl, fun _ => rfl⟩
  | cons entry overrides ih =>
    intro distinct literal fields
    obtain ⟨key, value⟩ := entry
    have own : LiteralKey key := literal (key, value) List.mem_cons_self
    obtain ⟨fresh, rest⟩ := List.nodup_cons.mp distinct
    obtain ⟨others, applied, lookups⟩ := ih rest
      (fun other listed => literal other (List.mem_cons_of_mem _ listed))
      (put fields key value)
    have set := (setBytes_key grammar fields key value).2.2 own.1 own.2.2
    rw [writtenName_plain own.2.1] at set
    refine ⟨others, ?_, ?_⟩
    · rw [applyOperationsLegacy, set]
      exact applied
    · intro name
      rw [lookups name]
      by_cases same : key = name
      · subst same
        have later : overrides.lookup key = none := by
          rw [List.lookup_eq_none_iff]
          intro other listed
          have apart : other.1 ≠ key := fun equal => fresh (List.mem_map.mpr ⟨other, listed, equal⟩)
          simpa using Ne.symm apart
        rw [later, lookup_put_self, lookup_cons_self]
        rfl
      · rw [lookup_cons_of_ne same, lookup_put_of_ne (Ne.symm same)]

theorem applyOperationsLegacy_members (grammar : library.ReadsGrammar)
    (overrides : List (String × JsonValue)) :
    ∀ {fields others : List (String × JsonValue)},
      applyOperationsLegacy library (.object fields) overrides = .ok (.object others) →
      (∀ entry ∈ overrides, entry.1 ≠ "") ∧
        ∀ name, (others.lookup name).isSome = true →
          (fields.lookup name).isSome = true ∨
            ∃ entry ∈ overrides, isQueryKey entry.1 = false ∧ writtenName entry.1 = name := by
  induction overrides with
  | nil =>
    intro fields others done
    cases done
    exact ⟨by simp, fun _ => Or.inl⟩
  | cons entry overrides ih =>
    intro fields others done
    obtain ⟨key, value⟩ := entry
    obtain ⟨empty, query, written⟩ := setBytes_key grammar fields key value
    rw [applyOperationsLegacy] at done
    have nonempty : key ≠ "" := by
      intro blank
      have failed := empty blank
      cases outcome : library.setBytes (.object fields) (escapeSjsonLiteralKey key) value with
      | error message => simp [outcome, Except.bind] at done
      | ok next => simp [outcome, Except.toOption] at failed
    obtain ⟨middle, set, origin⟩ : ∃ middle,
        library.setBytes (.object fields) (escapeSjsonLiteralKey key) value = .ok (.object middle) ∧
        ∀ name, (middle.lookup name).isSome = true →
          (fields.lookup name).isSome = true ∨ isQueryKey key = false ∧ writtenName key = name := by
      cases queried : isQueryKey key with
      | true =>
        obtain ⟨middle, set, same⟩ := query nonempty queried
        exact ⟨middle, set, fun name found => Or.inl (same name ▸ found)⟩
      | false =>
        refine ⟨_, written nonempty queried, ?_⟩
        intro name found
        by_cases named : writtenName key = name
        · exact Or.inr ⟨rfl, named⟩
        · rw [lookup_put_of_ne (Ne.symm named)] at found
          exact Or.inl found
    rw [set] at done
    obtain ⟨later, members⟩ := ih done
    refine ⟨List.forall_mem_cons.mpr ⟨nonempty, later⟩, ?_⟩
    intro name found
    rcases members name found with before | ⟨other, tail, writes⟩
    · rcases origin name before with here | writes
      · exact Or.inl here
      · exact Or.inr ⟨(key, value), List.mem_cons_self, writes⟩
    · exact Or.inr ⟨other, List.mem_cons_of_mem _ tail, writes⟩

/-- Where every key is the written name of a key, no key leads with a colon:
the longest of them would be written for a longer one. -/
theorem literal_of_written {keys : List String}
    (written : ∀ key ∈ keys, key ≠ "" ∧
      ∃ other ∈ keys, isQueryKey other = false ∧ writtenName other = key) :
    ∀ key ∈ keys, LiteralKey key := by
  have noColon : ∀ key ∈ keys, key.toList.head? ≠ some ':' := by
    intro key listed first
    obtain ⟨longest, chosen, longer⟩ := Finset.exists_max_image
      (keys.toFinset.filter fun key => key.toList.head? = some ':')
      (fun key => key.toList.length) ⟨key, by simp [listed, first]⟩
    obtain ⟨member, colon⟩ : longest ∈ keys ∧ longest.toList.head? = some ':' := by
      simpa using chosen
    obtain ⟨_, other, otherListed, _, writes⟩ := written longest member
    by_cases otherColon : other.toList.head? = some ':'
    · have length := length_writtenName otherColon
      have bound := longer other (by simp [otherListed, otherColon])
      rw [writes] at length
      omega
    · rw [writtenName_plain otherColon] at writes
      exact otherColon (writes ▸ colon)
  intro key listed
  obtain ⟨nonempty, other, otherListed, plain, writes⟩ := written key listed
  rw [writtenName_plain (noColon other otherListed)] at writes
  exact ⟨nonempty, noColon key listed, writes ▸ plain⟩

/-- A map sets exactly its members on every body if and only if no key is
empty, leads with a colon or has one of the characters left unescaped. -/
theorem legacy_keys_literal_iff (grammar : library.ReadsGrammar)
    {overrides : List (String × JsonValue)} (distinct : (overrides.map Prod.fst).Nodup) :
    (∀ fields, SetsMembers library fields overrides) ↔ ∀ entry ∈ overrides, LiteralKey entry.1 := by
  refine ⟨?_, fun literal => setsMembers_of_literal grammar _ distinct literal⟩
  intro sets
  obtain ⟨others, done, lookups⟩ := sets []
  obtain ⟨nonempty, members⟩ := applyOperationsLegacy_members grammar overrides done
  have literal : ∀ key ∈ overrides.map Prod.fst, LiteralKey key := by
    apply literal_of_written
    intro key listed
    obtain ⟨entry, entryListed, rfl⟩ := List.mem_map.mp listed
    refine ⟨nonempty entry entryListed, ?_⟩
    have set : (others.lookup entry.1).isSome = true := by
      rw [lookups, List.lookup_nil, Option.or_none, List.lookup_isSome_iff]
      exact ⟨entry, entryListed, by simp⟩
    rcases members _ set with none_there | ⟨other, otherListed, writes⟩
    · cases none_there
    · exact ⟨other.1, List.mem_map_of_mem otherListed, writes⟩
  exact fun entry listed => literal _ (List.mem_map_of_mem listed)

end Legacy

/-- A library in which queries match nothing. -/
def PathLibrary.escaped : PathLibrary :=
  { PathLibrary.dotted with
    setBytes := fun doc path value =>
      if path = "" then .error "path cannot be empty"
      else
        match sjsonSegments path with
        | none => .ok doc
        | some segments =>
          match doc.set segments value with
          | some result => .ok result
          | none => .error "cannot set array element for non-numeric key" }

theorem PathLibrary.escaped_readsGrammar : PathLibrary.escaped.ReadsGrammar where
  empty_fails := fun _ _ => rfl
  segments_eq := by
    intro doc path value segments nonempty read
    simp only [escaped, if_neg nonempty, read]
    cases doc.set segments value <;> rfl
  query_members := by
    intro fields path value nonempty query
    simp only [escaped, if_neg nonempty, query]
    exact ⟨fields, rfl, fun _ => rfl⟩

theorem legacy_keys_literal_dotted :
    SetsMembers PathLibrary.escaped [("c*", .number "2")] [("a.b", .number "1"), ("c*", .null)] :=
  (legacy_keys_literal_iff PathLibrary.escaped_readsGrammar (by decide)).mpr
    (by unfold LiteralKey; decide) _

/-- A colon is stripped, and what is read as a query is dropped without an
error. -/
theorem legacy_key_not_literal :
    applyOperationsLegacy PathLibrary.escaped (.object [])
        [("a|b", .number "1"), (":x", .number "2")] =
      .ok (.object [("x", .number "2")]) ∧
    ¬ SetsMembers PathLibrary.escaped [] [("a|b", .number "1"), (":x", .number "2")] := by
  have applied : applyOperationsLegacy PathLibrary.escaped (.object [])
      [("a|b", .number "1"), (":x", .number "2")] = .ok (.object [("x", .number "2")]) := by
    rfl
  refine ⟨applied, ?_⟩
  rintro ⟨others, done, lookups⟩
  cases done
  have missing : (none : Option JsonValue) = some (.number "2") := lookups ":x"
  cases missing

end NewApi.Relay
