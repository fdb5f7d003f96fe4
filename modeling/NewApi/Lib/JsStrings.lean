import Mathlib.Data.List.TakeWhile

/-!
# JavaScript strings

A string is the list of its UTF-16 code units, so that positions and slices
are those of the language.
-/

namespace JsStrings

abbrev Text := List Nat

def units (constant : String) : Text := constant.toList.map Char.toNat

def isSpace (unit : Nat) : Bool :=
  (9 ≤ unit && unit ≤ 13) || unit == 32 || unit == 0xA0 || unit == 0x1680 ||
    (0x2000 ≤ unit && unit ≤ 0x200A) || unit == 0x2028 || unit == 0x2029 ||
    unit == 0x202F || unit == 0x205F || unit == 0x3000 || unit == 0xFEFF

def isDigit (unit : Nat) : Bool := 48 ≤ unit && unit ≤ 57

def isWordStart (unit : Nat) : Bool :=
  (65 ≤ unit && unit ≤ 90) || (97 ≤ unit && unit ≤ 122) || unit == 95

def isWord (unit : Nat) : Bool := isWordStart unit || isDigit unit

def isHex (unit : Nat) : Bool :=
  isDigit unit || (65 ≤ unit && unit ≤ 70) || (97 ≤ unit && unit ≤ 102)

def trim (text : Text) : Text := ((text.dropWhile isSpace).reverse.dropWhile isSpace).reverse

def slice (text : Text) (start stop : Nat) : Text := (text.drop start).take (stop - start)

def isLead (unit : Nat) : Bool := 0xD800 ≤ unit && unit ≤ 0xDBFF

def isTrail (unit : Nat) : Bool := 0xDC00 ≤ unit && unit ≤ 0xDFFF

def hexUnit (digit : Nat) : Nat := if digit < 10 then 48 + digit else 87 + digit

/-- The escape of a code unit by its four hexadecimal digits. -/
def unicodeEscape (unit : Nat) : Text :=
  [92, 117, hexUnit (unit / 4096 % 16), hexUnit (unit / 256 % 16),
    hexUnit (unit / 16 % 16), hexUnit (unit % 16)]

def jsonUnit (unit : Nat) : Text :=
  if unit = 34 then [92, 34]
  else if unit = 92 then [92, 92]
  else if unit = 8 then [92, 98]
  else if unit = 9 then [92, 116]
  else if unit = 10 then [92, 110]
  else if unit = 12 then [92, 102]
  else if unit = 13 then [92, 114]
  else if unit < 32 then unicodeEscape unit
  else [unit]

/-- The units of a JSON string between its quotes: surrogates without a
partner are escaped.  `paired` says that the unit before was a high surrogate
with its partner here. -/
def jsonBody (paired : Bool) : Text → Text
  | [] => []
  | unit :: rest =>
    if isTrail unit && paired then unit :: jsonBody false rest
    else if isLead unit && rest.head?.any isTrail then unit :: jsonBody true rest
    else if isLead unit || isTrail unit then unicodeEscape unit ++ jsonBody false rest
    else jsonUnit unit ++ jsonBody false rest

def jsonStringify (text : Text) : Text := 34 :: (jsonBody false text ++ [34])

section

variable {test : Nat → Bool} {run rest : Text} (inside : ∀ unit ∈ run, test unit = true)
  (outside : ∀ unit ∈ rest.head?, test unit = false)
include inside outside

theorem takeWhile_run :
    (run ++ rest).takeWhile test = run := by
  rw [List.takeWhile_append_of_pos inside]
  have stopped : rest.takeWhile test = [] := by
    cases rest with
    | nil => rfl
    | cons unit more => simp [outside unit rfl]
  rw [stopped, List.append_nil]

theorem dropWhile_run :
    (run ++ rest).dropWhile test = rest := by
  rw [List.dropWhile_append_of_pos inside]
  cases rest with
  | nil => rfl
  | cons unit more => simp [outside unit rfl]

end

theorem slice_overwrite {text : Text} {outerStart outerStop start stop : Nat}
    (startsAfter : outerStart ≤ start) (ordered : start ≤ stop) (endsBefore : stop ≤ outerStop) :
    (slice text outerStart outerStop).take (start - outerStart) ++ slice text start stop ++
        (slice text outerStart outerStop).drop (stop - outerStart) =
      slice text outerStart outerStop := by
  unfold slice
  obtain ⟨lead, rfl⟩ := Nat.exists_eq_add_of_le startsAfter
  obtain ⟨inner, rfl⟩ := Nat.exists_eq_add_of_le ordered
  obtain ⟨tail, rfl⟩ := Nat.exists_eq_add_of_le endsBefore
  generalize restEq : text.drop outerStart = rest
  have restAfter : text.drop (outerStart + lead) = rest.drop lead := by
    rw [← restEq, List.drop_drop]
  rw [restAfter]
  have outerLength : outerStart + lead + inner + tail - outerStart = lead + inner + tail := by omega
  have startEq : outerStart + lead - outerStart = lead := by omega
  have innerEq : outerStart + lead + inner - (outerStart + lead) = inner := by omega
  have stopEq : outerStart + lead + inner - outerStart = lead + inner := by omega
  rw [outerLength, startEq, innerEq, stopEq, List.take_take,
    Nat.min_eq_left (by omega), ← List.take_add]
  have inside : lead + inner ≤ lead + inner + tail := by omega
  calc
    rest.take (lead + inner) ++ (rest.take (lead + inner + tail)).drop (lead + inner) =
        (rest.take (lead + inner + tail)).take (lead + inner) ++
          (rest.take (lead + inner + tail)).drop (lead + inner) := by
      rw [List.take_take, Nat.min_eq_left inside]
    _ = rest.take (lead + inner + tail) := List.take_append_drop _ _

end JsStrings
