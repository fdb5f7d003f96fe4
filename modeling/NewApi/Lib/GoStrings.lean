import Mathlib.Algebra.Ring.Int.Defs
import Mathlib.Data.List.DropRight
import Mathlib.Data.List.Infix

/-!
# Go string functions

The functions of Go's `strings` package that stored texts go through, on the
characters of a string.
-/

namespace GoStrings

def isSpace (char : Char) : Bool :=
  let code := char.toNat
  (9 ≤ code && code ≤ 13) || code == 32 || code == 0x85 || code == 0xA0 ||
    code == 0x1680 || (0x2000 ≤ code && code ≤ 0x200A) || code == 0x2028 ||
    code == 0x2029 || code == 0x202F || code == 0x205F || code == 0x3000

def trimSpace (text : String) : String :=
  String.ofList (((text.toList.dropWhile isSpace).reverse.dropWhile isSpace).reverse)

section Trimming

universe u

variable {α : Type u} (trims : α → Bool)

def trimFunc (text : List α) : List α := (text.dropWhile trims).rdropWhile trims

theorem trimSpace_eq (text : String) :
    trimSpace text = String.ofList (trimFunc isSpace text.toList) :=
  rfl

theorem trimFunc_eq_self {text : List α} (first : ∀ item ∈ text.head?, trims item = false)
    (last : ∀ item ∈ text.getLast?, trims item = false) :
    trimFunc trims text = text := by
  have started : text.dropWhile trims = text := by
    cases text with
    | nil => rfl
    | cons item items =>
      have kept : trims item = false := first item rfl
      rw [List.dropWhile_cons_of_neg (by simp [kept])]
  rw [trimFunc, started, List.rdropWhile_eq_self_iff]
  intro nonempty trimmed
  have kept := last _ (List.getLast?_eq_some_getLast nonempty)
  rw [trimmed] at kept
  cases kept

theorem head_trimFunc (text : List α) :
    ∀ item ∈ (trimFunc trims text).head?, trims item = false := by
  intro item first
  obtain ⟨rest, split⟩ : trimFunc trims text <+: text.dropWhile trims :=
    List.rdropWhile_prefix trims _
  have located : (text.dropWhile trims).head? = some item := by
    rw [← split, List.head?_append, Option.mem_def.mp first]
    rfl
  have dropped := List.head?_dropWhile_not trims text
  rw [located] at dropped
  exact dropped

theorem getLast_trimFunc (text : List α) :
    ∀ item ∈ (trimFunc trims text).getLast?, trims item = false := by
  intro item last
  have nonempty : trimFunc trims text ≠ [] := by
    intro empty
    rw [empty] at last
    cases last
  have located : (trimFunc trims text).getLast nonempty = item := by
    rw [List.getLast?_eq_some_getLast nonempty] at last
    exact Option.some.inj last
  have kept := List.rdropWhile_last_not trims (text.dropWhile trims) nonempty
  have same : (List.rdropWhile trims (text.dropWhile trims)).getLast nonempty = item := located
  rw [same] at kept
  simpa using kept

theorem trimFunc_trimFunc (text : List α) :
    trimFunc trims (trimFunc trims text) = trimFunc trims text :=
  trimFunc_eq_self trims (head_trimFunc trims text) (getLast_trimFunc trims text)

theorem trimFunc_of_trimSpace {text : String} (trimmed : trimSpace text = text) :
    trimFunc isSpace text.toList = text.toList := by
  have ends := congrArg String.toList trimmed
  rwa [trimSpace_eq, String.toList_ofList] at ends

theorem trimSpace_trimSpace (text : String) : trimSpace (trimSpace text) = trimSpace text := by
  rw [trimSpace_eq (trimSpace text), trimSpace_eq text, String.toList_ofList, trimFunc_trimFunc]

@[simp]
theorem trimSpace_empty : trimSpace "" = "" := rfl

end Trimming

-- Left folded, so that a split on a trimmed text does not evaluate it.
attribute [irreducible] trimSpace

/-- The simple case mapping of the `unicode` package, rune by rune. -/
structure CaseMapping where
  upper : Char → Char
  lower : Char → Char

def CaseMapping.ascii : CaseMapping where
  upper := Char.toUpper
  lower := Char.toLower

theorem CaseMapping.ascii_lower_lower (char : Char) :
    CaseMapping.ascii.lower (CaseMapping.ascii.lower char) = CaseMapping.ascii.lower char := by
  change char.toLower.toLower = char.toLower
  unfold Char.toLower
  split <;> grind

def toUpper (mapping : CaseMapping) (text : String) : String :=
  String.ofList (text.toList.map mapping.upper)

def toLower (mapping : CaseMapping) (text : String) : String :=
  String.ofList (text.toList.map mapping.lower)

def equalFold (mapping : CaseMapping) (left right : String) : Bool :=
  toLower mapping (toUpper mapping left) = toLower mapping (toUpper mapping right)

def atoi (text : String) : Option Int :=
  let (negative, digits) :=
    match text.toList with
    | '-' :: rest => (true, rest)
    | '+' :: rest => (false, rest)
    | all => (false, all)
  if digits = [] ∨ digits.any (fun char => !char.isDigit) then none
  else
    let size := digits.foldl (fun (value : Int) char => 10 * value + (char.toNat - 48)) 0
    let value := if negative then -size else size
    if -(2 ^ 63) ≤ value ∧ value < 2 ^ 63 then some value else none

def hasPrefix (text start : String) : Bool := decide (start.toList <+: text.toList)

def hasSuffix (text suffix : String) : Bool := decide (suffix.toList <:+ text.toList)

def trimPrefix (text start : String) : String :=
  if hasPrefix text start then String.ofList (text.toList.drop start.toList.length)
  else text

def contains (text part : String) : Bool := decide (part.toList <:+: text.toList)

end GoStrings
