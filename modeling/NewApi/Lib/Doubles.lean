import Mathlib.Algebra.Order.Archimedean.Basic
import Mathlib.Data.Int.Log
import Mathlib.Data.Rat.Floor
import Mathlib.Tactic.Linarith

/-!
# Rounding to doubles

The double nearest to a nonnegative rational.  A double has 53 bits, the last of
them not below `2 ^ -1074`; of two nearest ones it is the one whose last bit is
zero.
-/

namespace Doubles

/-- The nearest integer, the even one of two. -/
def roundEven (value : Rat) : Int :=
  let whole := ⌊value⌋
  if value - whole < 1 / 2 then whole
  else if 1 / 2 < value - whole then whole + 1
  else if whole % 2 = 0 then whole
  else whole + 1

/-- The exponent of the last bit. -/
def lastPlace (value : Rat) : Int := max (Int.log 2 value - 52) (-1074)

/-- The nearest double.  From `2 ^ 1024 - 2 ^ 970` on, where a double is
infinite, the exponent goes on. -/
def roundDouble (value : Rat) : Rat :=
  roundEven (value / 2 ^ lastPlace value) * 2 ^ lastPlace value

theorem roundEven_intCast (n : Int) : roundEven n = n := by
  unfold roundEven
  simp only [Int.floor_intCast, sub_self]
  exact if_pos (by norm_num)

theorem roundEven_le {value : Rat} {n : Int} (near : value < n + 1 / 2) : roundEven value ≤ n := by
  have below := Int.floor_le value
  unfold roundEven
  dsimp only
  have whole : ⌊value⌋ ≤ n := by
    have small : (⌊value⌋ : Rat) < n + 1 := by linarith
    exact Int.lt_add_one_iff.mp (by exact_mod_cast small)
  -- Rounding up to `n + 1` would need half of the way from `n`.
  have stays : 1 / 2 ≤ value - ⌊value⌋ → ⌊value⌋ + 1 ≤ n := by
    intro half
    have less : (⌊value⌋ : Rat) < n := by linarith
    exact Int.add_one_le_of_lt (by exact_mod_cast less)
  split_ifs with low high
  · exact whole
  · exact stays high.le
  · exact whole
  · exact stays (not_lt.mp low)

theorem le_roundEven (value : Rat) : ⌊value⌋ ≤ roundEven value := by
  unfold roundEven
  dsimp only
  split_ifs <;> omega

variable {value : Rat}

theorem pow_lastPlace_pos : (0 : Rat) < 2 ^ lastPlace value := zpow_pos (by norm_num) _

theorem roundDouble_nonneg (nonnegative : 0 ≤ value) : 0 ≤ roundDouble value := by
  have mantissa : 0 ≤ ⌊value / 2 ^ lastPlace value⌋ :=
    Int.floor_nonneg.mpr (div_nonneg nonnegative pow_lastPlace_pos.le)
  refine mul_nonneg ?_ pow_lastPlace_pos.le
  exact_mod_cast mantissa.trans (le_roundEven _)

/-- An integer rounds to an integer. -/
theorem roundDouble_natCast (n : Nat) : ∃ m : Int, roundDouble n = m := by
  unfold roundDouble
  rcases le_or_gt 0 (lastPlace n) with up | down
  · obtain ⟨place, eq⟩ := Int.eq_ofNat_of_zero_le up
    refine ⟨roundEven (n / 2 ^ lastPlace n) * 2 ^ place, ?_⟩
    rw [eq]
    push_cast
    rfl
  · -- The last bit is below the units, so that the quotient is an integer.
    obtain ⟨place, eq⟩ := Int.eq_ofNat_of_zero_le (neg_nonneg.mpr down.le)
    have quotient : (n : Rat) / 2 ^ lastPlace (n : Rat) = ((n * 2 ^ place : Int) : Rat) := by
      rw [← neg_neg (lastPlace (n : Rat)), eq, zpow_neg, div_inv_eq_mul]
      push_cast
      rfl
    refine ⟨n, ?_⟩
    rw [quotient, roundEven_intCast, ← quotient, div_mul_cancel₀ _ pow_lastPlace_pos.ne']
    push_cast
    rfl

theorem pow_1024 : (2 : Rat) ^ 1024 = 2 ^ 54 * 2 ^ 970 := by rw [← pow_add]

theorem zpow_971 : (2 : Rat) ^ (971 : Int) = 2 * 2 ^ 970 := by
  rw [← pow_succ']
  rfl

/-- A finite value rounds to a finite double. -/
theorem roundDouble_lt (nonnegative : 0 ≤ value) (finite : value < 2 ^ 1024 - 2 ^ 970) :
    roundDouble value < 2 ^ 1024 - 2 ^ 970 := by
  have upper : value < 2 ^ (Int.log 2 value + 1) := Int.lt_zpow_succ_log_self (by norm_num) value
  have unit : (0 : Rat) < 2 ^ 970 := pow_pos (by norm_num) 970
  unfold roundDouble
  rcases le_or_gt (lastPlace value) 970 with low | high
  · -- A mantissa of at most `2 ^ 53` is below the largest exponent.
    have mantissa : roundEven (value / 2 ^ lastPlace value) ≤ 2 ^ 53 := by
      apply roundEven_le
      have bound : value < 2 ^ (53 : Int) * 2 ^ lastPlace value := by
        rw [← zpow_add₀ (by norm_num : (2 : Rat) ≠ 0)]
        refine upper.trans_le (zpow_le_zpow_right₀ (by norm_num) ?_)
        have := le_max_left (Int.log 2 value - 52) (-1074)
        unfold lastPlace
        omega
      have quotient : value / 2 ^ lastPlace value < 2 ^ (53 : Int) :=
        (div_lt_iff₀ pow_lastPlace_pos).mpr bound
      push_cast
      norm_num at quotient ⊢
      linarith
    have place : (2 : Rat) ^ lastPlace value ≤ 2 ^ 970 :=
      zpow_le_zpow_right₀ (by norm_num) low
    have cast : (roundEven (value / 2 ^ lastPlace value) : Rat) ≤ 2 ^ 53 := by
      exact_mod_cast mantissa
    calc
      (roundEven (value / 2 ^ lastPlace value) : Rat) * 2 ^ lastPlace value
          ≤ 2 ^ 53 * 2 ^ 970 := mul_le_mul cast place pow_lastPlace_pos.le (by norm_num)
      _ < 2 ^ 1024 - 2 ^ 970 := by
            rw [pow_1024]
            generalize (2 : Rat) ^ 970 = unit at *
            linarith
  · have top : lastPlace value = 971 := by
      have positive : 0 < value := by
        by_contra zero
        have none : value = 0 := le_antisymm (not_lt.mp zero) nonnegative
        rw [none, lastPlace, Int.log_zero_right] at high
        norm_num at high
      have size : Int.log 2 value < 1024 := by
        rw [← Int.lt_zpow_iff_log_lt (by norm_num) positive]
        refine finite.trans ?_
        norm_num
      have := max_choice (Int.log 2 value - 52) (-1074)
      unfold lastPlace at high ⊢
      omega
    have mantissa : roundEven (value / 2 ^ lastPlace value) ≤ 2 ^ 53 - 1 := by
      apply roundEven_le
      rw [top, zpow_971, div_lt_iff₀ (mul_pos (by norm_num) unit)]
      rw [pow_1024] at finite
      generalize (2 : Rat) ^ 970 = unit at *
      push_cast
      linarith
    have cast : (roundEven (value / 2 ^ lastPlace value) : Rat) ≤ 2 ^ 53 - 1 := by
      exact_mod_cast mantissa
    calc
      (roundEven (value / 2 ^ lastPlace value) : Rat) * 2 ^ lastPlace value
          ≤ (2 ^ 53 - 1) * 2 ^ lastPlace value :=
            mul_le_mul_of_nonneg_right cast pow_lastPlace_pos.le
      _ < 2 ^ 1024 - 2 ^ 970 := by
            rw [top, zpow_971, pow_1024]
            generalize (2 : Rat) ^ 970 = unit at *
            linarith

example : roundDouble (1 / 10) = 3602879701896397 / 2 ^ 55 := by decide +kernel

end Doubles
