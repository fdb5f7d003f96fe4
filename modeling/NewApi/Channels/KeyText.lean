import NewApi.Channels.ChannelRow

/-!
# Texts of keys

After a deletion the remaining keys are stored with one key in a line.  The
text parses back to these keys if none of them holds a line break, the outer
ones are not blank, and the text is not a JSON array by accident.
-/

namespace NewApi.Channels

open GoStrings

theorem head_intercalate {line : List Char} (nonempty : line ≠ []) (lines : List (List Char)) :
    (['\n'].intercalate (line :: lines)).head? = line.head? := by
  cases lines with
  | nil => rw [List.intercalate_singleton]
  | cons next lines =>
    exact List.head?_append_of_ne_nil _ nonempty

theorem getLast_intercalate (lines : List (List Char)) :
    ∀ {line : List Char}, lines.getLast? = some line → line ≠ [] →
      (['\n'].intercalate lines).getLast? = line.getLast? := by
  induction lines with
  | nil => exact fun contrary => nomatch contrary
  | cons first lines ih =>
    intro line last nonempty
    cases lines with
    | nil =>
      have same : first = line := Option.some.inj last
      rw [List.intercalate_singleton, same]
    | cons next lines =>
      have rest := ih (by simpa using last) nonempty
      have some_last : ∃ char, line.getLast? = some char :=
        ⟨_, List.getLast?_eq_some_getLast nonempty⟩
      obtain ⟨char, ends⟩ := some_last
      rw [List.intercalate_cons_cons, List.getLast?_append, rest, ends]
      rfl

theorem trimmed_ends {key : String} (trimmed : trimSpace key = key) :
    (∀ char ∈ key.toList.head?, decide (char = '\n') = false) ∧
      ∀ char ∈ key.toList.getLast?, decide (char = '\n') = false := by
  have kept := trimFunc_of_trimSpace trimmed
  have noBreak : ∀ char : Char, isSpace char = false → decide (char = '\n') = false := by
    intro char printed
    by_cases same : char = '\n'
    · rw [same] at printed
      exact absurd printed (by decide)
    · exact decide_eq_false same
  constructor
  · intro char first
    rw [← kept] at first
    exact noBreak char (head_trimFunc isSpace key.toList char first)
  · intro char last
    rw [← kept] at last
    exact noBreak char (getLast_trimFunc isSpace key.toList char last)

section Keys

variable [JsonCodec]

/-- A list of keys that a text with one key in a line can hold. -/
structure Rejoinable (keys : List String) : Prop where
  first : ∀ key ∈ keys.head?, trimSpace key ≠ ""
  last : ∀ key ∈ keys.getLast?, trimSpace key ≠ ""
  lines : ∀ key ∈ keys, '\n' ∉ key.toList
  notArray : hasPrefix (trimSpace ("\n".intercalate keys)) "[" = true →
    JsonCodec.unmarshalArray (trimSpace ("\n".intercalate keys)) = none

theorem parseChannelKeyList_trimmed (text : String) :
    ∀ key ∈ parseChannelKeyList text, trimSpace key = key := by
  have ofLines : ∀ key ∈ keyLines text, trimSpace key = key := by
    intro key listed
    obtain ⟨part, _, rfl⟩ := List.mem_map.mp listed
    exact trimSpace_trimSpace _
  intro key listed
  unfold parseChannelKeyList at listed
  split at listed
  · cases listed
  split at listed
  · split at listed
    · rename_i items decoded
      obtain ⟨item, member, found⟩ := List.mem_filterMap.mp listed
      cases item with
      | null => cases found
      | string value =>
        change (if trimSpace value = "" then none
          else some (trimSpace value)) = some key at found
        split at found
        · cases found
        rw [← Option.some.inj found]
        exact trimSpace_trimSpace value
      | other encoded =>
        change (if encoded = "" then none else some encoded) = some key at found
        split at found
        · cases found
        rw [← Option.some.inj found]
        exact (JsonCodec.encoded_compact _ items encoded decoded member).1
    · exact ofLines key listed
  · exact ofLines key listed

theorem keyLines_joined {keys : List String} (nonempty : keys ≠ [])
    (trimmed : ∀ key ∈ keys, trimSpace key = key) (joinable : Rejoinable keys) :
    keyLines ("\n".intercalate keys) = keys := by
  have joined : ("\n".intercalate keys).toList = ['\n'].intercalate (keys.map String.toList) :=
    String.toList_intercalate
  have blankless : ∀ key : String, trimSpace key = key → trimSpace key ≠ "" → key.toList ≠ [] := by
    intro key same nonblank empty
    exact nonblank (same.trans (String.toList_eq_nil_iff.mp empty))
  have kept : trimLines (['\n'].intercalate (keys.map String.toList)) =
      ['\n'].intercalate (keys.map String.toList) := by
    apply trimFunc_eq_self
    · cases keys with
      | nil => exact absurd rfl nonempty
      | cons key keys =>
        have keyTrimmed := trimmed key List.mem_cons_self
        rw [List.map_cons, head_intercalate (blankless key keyTrimmed (joinable.first key rfl))]
        exact (trimmed_ends keyTrimmed).1
    · have ends := List.getLast?_eq_some_getLast nonempty
      have keyTrimmed := trimmed _ (List.getLast_mem nonempty)
      have mapped : (keys.map String.toList).getLast? = some (keys.getLast nonempty).toList := by
        rw [List.getLast?_map, ends]
        rfl
      rw [getLast_intercalate _ mapped (blankless _ keyTrimmed (joinable.last _ ends))]
      exact (trimmed_ends keyTrimmed).2
  unfold keyLines
  rw [joined, kept, List.splitOn_intercalate]
  · rw [List.map_map]
    calc
      keys.map ((fun part => trimSpace (String.ofList part)) ∘ String.toList) = keys.map id := by
        apply List.map_congr_left
        intro key listed
        simp only [Function.comp_apply, String.ofList_toList]
        exact trimmed key listed
      _ = keys := List.map_id keys
  · intro line listed
    obtain ⟨key, member, rfl⟩ := List.mem_map.mp listed
    exact joinable.lines key member
  · simpa using nonempty

theorem parseChannelKeyList_joined
    {keys : List String} (trimmed : ∀ key ∈ keys, trimSpace key = key)
    (joinable : Rejoinable keys) :
    parseChannelKeyList ("\n".intercalate keys) = keys := by
  by_cases empty : keys = []
  · rw [empty]
    rfl
  · have written : "\n".intercalate keys ≠ "" := by
      intro blank
      have lines := keyLines_joined empty trimmed joinable
      rw [blank] at lines
      have single : keys = [""] := lines.symm.trans (by decide +kernel)
      exact joinable.first "" (by rw [single]; rfl) trimSpace_empty
    unfold parseChannelKeyList
    rw [if_neg written]
    split
    · rename_i bracket
      rw [joinable.notArray bracket]
      exact keyLines_joined empty trimmed joinable
    · exact keyLines_joined empty trimmed joinable

end Keys

end NewApi.Channels
