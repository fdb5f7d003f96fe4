import Mathlib.Algebra.Order.Ring.Nat
import Mathlib.Data.List.Induction

/-!
# Decimal texts

The order of the numbers that decimal digits write, read off the digits: the
longer text writes the larger number, and texts of one length compare like
words.
-/

namespace Decimals

def value (digits : List Char) : Nat := Nat.ofDigitChars 10 digits 0

def denoted : List Char → Int
  | '-' :: digits => -value digits
  | digits => value digits

def decimal (number : Int) : List Char :=
  if number < 0 then '-' :: Nat.toDigits 10 number.natAbs else Nat.toDigits 10 number.natAbs

/-- Digits as a number is written: no zero leads another digit. -/
structure Canonical (digits : List Char) : Prop where
  all : digits.all Char.isDigit = true
  nonempty : digits ≠ []
  leading : digits.head? = some '0' → digits = ['0']

variable {digits others : List Char}

theorem toNat_of_isDigit {char : Char} (digit : char.isDigit = true) :
    48 ≤ char.toNat ∧ char.toNat ≤ 57 :=
  Char.isDigit_iff_toNat.mp digit

theorem value_cons (char : Char) (digits : List Char) :
    value (char :: digits) = 10 ^ digits.length * (char.toNat - 48) + value digits := by
  rw [value, Nat.ofDigitChars_cons, Nat.ofDigitChars_eq_ofDigitChars_zero]
  simp [value]

theorem value_concat (digits : List Char) (char : Char) :
    value (digits ++ [char]) = 10 * value digits + (char.toNat - 48) := by
  rw [value, Nat.ofDigitChars_append, Nat.ofDigitChars_cons, Nat.ofDigitChars_nil]
  rfl

theorem value_lt (all : digits.all Char.isDigit = true) : value digits < 10 ^ digits.length := by
  induction digits with
  | nil => decide
  | cons char digits ih =>
    simp only [List.all_cons, Bool.and_eq_true] at all
    have bound := toNat_of_isDigit all.1
    have rest := ih all.2
    have top : 10 ^ digits.length * (char.toNat - 48) ≤ 10 ^ digits.length * 9 :=
      Nat.mul_le_mul_left _ (by omega)
    rw [value_cons, List.length_cons, pow_succ]
    omega

/-- A number is at least the power that its first digit stands at. -/
theorem pow_le_value {char : Char} (digit : char.isDigit = true) (nonzero : char ≠ '0')
    (digits : List Char) : 10 ^ digits.length ≤ value (char :: digits) := by
  have bound := toNat_of_isDigit digit
  have apart : char.toNat ≠ 48 := fun zero => nonzero (Char.toNat_inj.mp zero)
  rw [value_cons]
  exact (Nat.le_mul_of_pos_right _ (by omega)).trans (Nat.le_add_right _ _)

theorem Canonical.lt_of_length (canonical : Canonical others)
    (all : digits.all Char.isDigit = true) (nonempty : digits ≠ [])
    (shorter : digits.length < others.length) : value digits < value others := by
  have positive := List.length_pos_iff.mpr nonempty
  cases others with
  | nil => cases shorter
  | cons char others =>
    have nonzero : char ≠ '0' := by
      rintro rfl
      rw [canonical.leading rfl, List.length_singleton] at shorter
      omega
    calc value digits < 10 ^ digits.length := value_lt all
      _ ≤ 10 ^ others.length := Nat.pow_le_pow_right (by decide) (Nat.le_of_lt_succ shorter)
      _ ≤ value (char :: others) :=
        pow_le_value (Bool.and_eq_true_iff.mp canonical.all).1 nonzero others

/-- Texts of one length are ordered like words. -/
theorem lt_iff_value_lt (all : digits.all Char.isDigit = true)
    (allOthers : others.all Char.isDigit = true) (same : digits.length = others.length) :
    digits < others ↔ value digits < value others := by
  induction digits generalizing others with
  | nil =>
    cases others with
    | nil =>
      exact ⟨fun less => absurd less (List.lt_irrefl _), fun less => absurd less (lt_irrefl _)⟩
    | cons char others => cases same
  | cons char digits ih =>
    cases others with
    | nil => cases same
    | cons other others =>
      simp only [List.all_cons, Bool.and_eq_true] at all allOthers
      have length : digits.length = others.length := Nat.succ.inj same
      have below := value_lt all.2
      have belowOther := value_lt allOthers.2
      have bound := toNat_of_isDigit all.1
      have boundOther := toNat_of_isDigit allOthers.1
      rw [List.cons_lt_cons_iff, ih all.2 allOthers.2 length, value_cons, value_cons, length]
      rw [length] at below
      rcases lt_trichotomy char.toNat other.toNat with less | equal | greater
      · have step : 10 ^ others.length * (char.toNat - 48) + 10 ^ others.length ≤
            10 ^ others.length * (other.toNat - 48) := by
          rw [← Nat.mul_succ]
          exact Nat.mul_le_mul_left _ (by omega)
        have first : char < other := Char.lt_def.mpr (UInt32.lt_iff_toNat_lt.mpr less)
        exact ⟨fun _ => by omega, fun _ => Or.inl first⟩
      · have first : char = other := Char.toNat_inj.mp equal
        rw [first]
        simp
      · have step : 10 ^ others.length * (other.toNat - 48) + 10 ^ others.length ≤
            10 ^ others.length * (char.toNat - 48) := by
          rw [← Nat.mul_succ]
          exact Nat.mul_le_mul_left _ (by omega)
        have first : ¬ char < other := fun less =>
          absurd (UInt32.lt_iff_toNat_lt.mp (Char.lt_def.mp less)) (by exact not_lt.mpr greater.le)
        have apart : char ≠ other := by
          rintro rfl
          exact lt_irrefl _ greater
        refine ⟨?_, fun _ => by omega⟩
        rintro (less | ⟨equal, _⟩)
        · exact absurd less first
        · exact absurd equal apart

theorem digitChar_toNat {char : Char} (digit : char.isDigit = true) :
    (char.toNat - 48).digitChar = char := by
  have bound := toNat_of_isDigit digit
  have back := Nat.toNat_digitChar_sub_48_of_lt_ten (show char.toNat - 48 < 10 by omega)
  have isDigit : (char.toNat - 48).digitChar.isDigit = true := by
    rw [Nat.isDigit_digitChar]
    exact decide_eq_true (by omega)
  have boundBack := toNat_of_isDigit isDigit
  exact Char.toNat_inj.mp (by omega)

/-- The canonical digits of a number are the ones it is written with. -/
theorem Canonical.eq_toDigits (canonical : Canonical digits) :
    digits = Nat.toDigits 10 (value digits) := by
  induction digits using List.reverseRecOn with
  | nil => exact absurd rfl canonical.nonempty
  | append_singleton initial char ih =>
    have all := canonical.all
    simp only [List.all_append, List.all_cons, List.all_nil, Bool.and_true, Bool.and_eq_true] at all
    have bound := toNat_of_isDigit all.2
    have last : [char] = Nat.toDigits 10 (char.toNat - 48) := by
      rw [Nat.toDigits_of_lt_base (by omega), digitChar_toNat all.2]
    cases initial with
    | nil =>
      rw [value_concat]
      exact last.trans (congrArg _ (Nat.zero_add _).symm)
    | cons first rest =>
      have nonzero : first ≠ '0' := by
        rintro rfl
        have single := canonical.leading rfl
        simp at single
      have started : Canonical (first :: rest) :=
        ⟨all.1, List.cons_ne_nil _ _, fun zero => absurd (Option.some.inj zero) nonzero⟩
      have positive : 0 < value (first :: rest) :=
        (Nat.pow_pos (by decide)).trans_le
          (pow_le_value (Bool.and_eq_true_iff.mp all.1).1 nonzero rest)
      rw [value_concat, ← Nat.toDigits_append_toDigits (by decide) positive (by omega),
        ← ih started, ← last]

end Decimals
