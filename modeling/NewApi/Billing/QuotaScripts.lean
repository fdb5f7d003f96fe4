import Mathlib.Logic.Function.Basic
import NewApi.Lib.Decimals

/-!
# The scripts that reserve quota

`model/quota_reserve.go`: a balance that is cached in Redis is compared with an
amount as text, of any length, before `HINCRBY` takes the amount from it.  The
comparison is exact; the counter behind it holds 64 bits.
-/

namespace NewApi.Billing

open Decimals

/-! ## Integers as text -/

def isNegative (text : List Char) : Bool := text.head? == some '-'

def unsigned (text : List Char) : List Char := if isNegative text then text.tail else text

def isInteger (text : List Char) : Bool :=
  !(unsigned text).isEmpty && (unsigned text).all Char.isDigit

def dropZeros (digits : List Char) : List Char := digits.dropWhile (· == '0')

def norm (text : List Char) : Bool × List Char :=
  if dropZeros (unsigned text) = [] then (false, ['0'])
  else (isNegative text, dropZeros (unsigned text))

def digitOrder (av bv : List Char) : Int :=
  if av.length ≠ bv.length then if bv.length < av.length then 1 else -1
  else if av ≠ bv then if bv < av then 1 else -1
  else 0

def cmpInt (a b : List Char) : Option Int :=
  if isInteger a = false ∨ isInteger b = false then none
  else if (norm a).1 ≠ (norm b).1 then if (norm a).1 then some (-1) else some 1
  else if (norm a).1 then some (-digitOrder (norm a).2 (norm b).2)
  else some (digitOrder (norm a).2 (norm b).2)

def intarg (text : List Char) : Option (List Char) :=
  if isInteger text = false then none
  else if dropZeros (unsigned text) = [] then some ['0']
  else if isNegative text then some ('-' :: dropZeros (unsigned text))
  else some (dropZeros (unsigned text))

/-! ## The scripts -/

abbrev RedisHash := String → Option (List Char)

section Scripts

variable {ν : Type} [DecidableEq ν] (tonumber : List Char → Option ν)
  (hincrby : List Char → List Char → Option (List Char))

def balanceOrder (balance : List Char) (amount : Option (List Char)) : Option Int :=
  amount.bind fun amount => if isNegative amount then none else cmpInt balance amount

def reserveDelta (amount : List Char) : List Char := if amount = ['0'] then ['0'] else '-' :: amount

/-- The hash afterwards and the reply; `none` is a command that fails. -/
def userQuotaReserveScript (hash : RedisHash) (amount id schema : List Char) :
    RedisHash × Option Int :=
  match hash "Quota" with
  | none => (hash, some (-1))
  | some quota =>
    if tonumber ((hash "Id").getD ['0']) ≠ tonumber id ∨
        tonumber ((hash "CacheSchema").getD ['0']) ≠ tonumber schema then (hash, some (-1))
    else if (balanceOrder quota (intarg amount)).all (· < 0) then (hash, some 0)
    else
      match hincrby quota (reserveDelta ((intarg amount).getD [])) with
      | none => (hash, none)
      | some left => (Function.update hash "Quota" (some left), some 1)

def tokenQuotaReserveScript (hash : RedisHash) (amount id accessedTime : List Char) :
    RedisHash × Option Int :=
  match hash "RemainQuota", hash "UsedQuota" with
  | some remain, some used =>
    if tonumber ((hash "Id").getD ['0']) ≠ tonumber id then (hash, some (-1))
    else if (balanceOrder remain (intarg amount)).all (· < 0) then (hash, some 0)
    else
      match hincrby remain (reserveDelta ((intarg amount).getD [])) with
      | none => (hash, none)
      | some left =>
        let reserved := Function.update hash "RemainQuota" (some left)
        match hincrby used ((intarg amount).getD []) with
        | none => (reserved, none)
        | some spent =>
          (Function.update (Function.update reserved "UsedQuota" (some spent)) "AccessedTime"
            (some accessedTime), some 1)
  | _, _ => (hash, some (-1))

end Scripts

/-! ## The order of the integers -/

section Texts

variable {a b text digits : List Char}

theorem denoted_eq (text : List Char) :
    denoted text = if isNegative text then -(value (unsigned text) : Int)
      else value (unsigned text) := by
  unfold unsigned isNegative
  cases text with
  | nil => rfl
  | cons char digits =>
    by_cases minus : char = '-'
    · subst minus
      rfl
    · have positive : denoted (char :: digits) = value (char :: digits) := by
        unfold denoted
        split
        · rename_i split
          exact absurd (List.cons.inj split).1 minus
        · rfl
      simp [positive, minus]

theorem value_dropZeros (digits : List Char) : value (dropZeros digits) = value digits := by
  induction digits with
  | nil => rfl
  | cons char digits ih =>
    rw [dropZeros, List.dropWhile_cons]
    split
    · rename_i zero
      rw [eq_of_beq zero, value_cons]
      exact ih.trans (by simp)
    · rfl

theorem head_dropZeros (digits : List Char) : (dropZeros digits).head? ≠ some '0' := by
  intro zero
  have dropped := List.head?_dropWhile_not (· == '0') digits
  rw [← dropZeros, zero] at dropped
  cases dropped

theorem canonical_dropZeros (all : digits.all Char.isDigit = true)
    (nonempty : dropZeros digits ≠ []) :
    Canonical (dropZeros digits) ∧ 0 < value (dropZeros digits) := by
  have kept : (dropZeros digits).all Char.isDigit = true :=
    List.all_eq_true.mpr fun char member =>
      List.all_eq_true.mp all char ((List.dropWhile_sublist _).mem member)
  refine ⟨⟨kept, nonempty, fun zero => absurd zero (head_dropZeros digits)⟩, ?_⟩
  have nonzero := head_dropZeros digits
  cases split : dropZeros digits with
  | nil => exact absurd split nonempty
  | cons char rest =>
    rw [split] at kept nonzero
    exact (Nat.pow_pos (by decide)).trans_le
      (pow_le_value (Bool.and_eq_true_iff.mp kept).1
        (fun same => nonzero (congrArg some same)) rest)

theorem norm_spec (integer : isInteger text = true) :
    Canonical (norm text).2 ∧
      denoted text = (if (norm text).1 then -(value (norm text).2 : Int) else value (norm text).2) ∧
      ((norm text).1 = true → 0 < value (norm text).2) := by
  simp only [isInteger, Bool.and_eq_true] at integer
  rw [denoted_eq, ← value_dropZeros (unsigned text)]
  unfold norm
  by_cases empty : dropZeros (unsigned text) = []
  · rw [if_pos empty, empty]
    refine ⟨⟨rfl, List.cons_ne_nil _ _, fun _ => rfl⟩, ?_, fun signed => by cases signed⟩
    split <;> rfl
  · obtain ⟨canonical, positive⟩ := canonical_dropZeros integer.2 empty
    rw [if_neg empty]
    exact ⟨canonical, rfl, fun _ => positive⟩

theorem digitOrder_eq {av bv : List Char} (left : Canonical av) (right : Canonical bv) :
    digitOrder av bv = Int.sign ((value av : Int) - value bv) := by
  have positive (less : value bv < value av) : Int.sign ((value av : Int) - value bv) = 1 :=
    Int.sign_eq_one_of_pos (by omega)
  have negative (less : value av < value bv) : Int.sign ((value av : Int) - value bv) = -1 :=
    Int.sign_eq_neg_one_of_neg (by omega)
  unfold digitOrder
  by_cases same : av.length = bv.length
  · rw [if_neg (not_not.mpr same)]
    simp only [lt_iff_value_lt right.all left.all same.symm]
    by_cases equal : av = bv
    · simp [equal]
    · have apart : value av ≠ value bv := fun values =>
        equal (left.eq_toDigits.trans (values ▸ right.eq_toDigits.symm))
      rw [if_pos equal]
      split
      · rename_i less
        exact (positive less).symm
      · exact (negative (by omega)).symm
  · rw [if_pos same]
    split
    · rename_i shorter
      exact (positive (left.lt_of_length right.all right.nonempty shorter)).symm
    · exact (negative (right.lt_of_length left.all left.nonempty (by omega))).symm

theorem cmpInt_eq (a b : List Char) :
    cmpInt a b =
      if isInteger a = true ∧ isInteger b = true then some (Int.sign (denoted a - denoted b))
      else none := by
  by_cases integers : isInteger a = true ∧ isInteger b = true
  · obtain ⟨canonicalA, denotesA, positiveA⟩ := norm_spec integers.1
    obtain ⟨canonicalB, denotesB, positiveB⟩ := norm_spec integers.2
    rw [cmpInt, if_neg (by simp [integers]), if_pos integers, denotesA, denotesB,
      digitOrder_eq canonicalA canonicalB]
    cases signA : (norm a).1 <;> cases signB : (norm b).1
    · simp
    · have positive := positiveB signB
      simpa using (Int.sign_eq_one_of_pos (by omega)).symm
    · have positive := positiveA signA
      simpa using (Int.sign_eq_neg_one_of_neg (by omega)).symm
    · simp only [if_true, ne_eq, not_true_eq_false, if_false, ← Int.sign_neg]
      congr 2
      omega
  · have missing : isInteger a = false ∨ isInteger b = false := by
      simpa [imp_iff_not_or] using integers
    rw [cmpInt, if_pos missing, if_neg integers]

theorem intarg_eq (text : List Char) :
    intarg text = if isInteger text = true then some (decimal (denoted text)) else none := by
  cases integer : isInteger text with
  | false => simp [intarg, integer]
  | true =>
    obtain ⟨canonical, denotes, positive⟩ := norm_spec integer
    rw [intarg, if_neg (by simp [integer]), if_pos rfl, denotes]
    unfold norm at canonical positive ⊢
    by_cases empty : dropZeros (unsigned text) = []
    · simp only [if_pos empty]
      rfl
    · simp only [if_neg empty] at canonical positive ⊢
      cases signed : isNegative text with
      | true =>
        have below := positive signed
        simp only [if_true, decimal, Int.natAbs_neg, Int.natAbs_natCast, ← canonical.eq_toDigits]
        rw [if_pos (by omega)]
      | false =>
        simp only [Bool.false_eq_true, if_false, decimal, Int.natAbs_natCast,
          ← canonical.eq_toDigits]
        rw [if_neg (by omega)]

end Texts

/-! ## What the scripts reserve -/

def IsCounter (text : List Char) : Prop :=
  text = decimal (denoted text) ∧ -(2 ^ 63) ≤ denoted text ∧ denoted text < 2 ^ 63

instance (text : List Char) : Decidable (IsCounter text) := inferInstanceAs (Decidable (_ ∧ _))

/-- `HINCRBY` adds 64-bit integers in decimal form and fails on all others. -/
def Counts (hincrby : List Char → List Char → Option (List Char)) : Prop :=
  ∀ stored delta, hincrby stored delta =
    if IsCounter stored ∧ IsCounter delta ∧
        IsCounter (decimal (denoted stored + denoted delta)) then
      some (decimal (denoted stored + denoted delta))
    else none

def Covers (balance amount : List Char) : Prop :=
  isInteger amount = true ∧ isInteger balance = true ∧ 0 ≤ denoted amount ∧
    denoted amount ≤ denoted balance

section Reserves

variable {ν : Type} [DecidableEq ν] {tonumber : List Char → Option ν}
  {hincrby : List Char → List Char → Option (List Char)} {balance amount : List Char}

variable (tonumber) in
/-- The amount is taken from the balance of the cached user, and `after` is
what the cache holds then. -/
def UserReserved (hash : RedisHash) (amount id schema : List Char) (after : RedisHash) : Prop :=
  ∃ quota, hash "Quota" = some quota ∧
    tonumber ((hash "Id").getD ['0']) = tonumber id ∧
    tonumber ((hash "CacheSchema").getD ['0']) = tonumber schema ∧
    Covers quota amount ∧ IsCounter quota ∧
    after = Function.update hash "Quota" (some (decimal (denoted quota - denoted amount)))

variable (tonumber) in
def TokenReserved (hash : RedisHash) (amount id accessedTime : List Char) (after : RedisHash) :
    Prop :=
  ∃ remain used, hash "RemainQuota" = some remain ∧ hash "UsedQuota" = some used ∧
    tonumber ((hash "Id").getD ['0']) = tonumber id ∧ Covers remain amount ∧
    IsCounter remain ∧ (IsCounter used ∧ denoted used + denoted amount < 2 ^ 63) ∧
    after =
      Function.update
        (Function.update
          (Function.update hash "RemainQuota" (some (decimal (denoted remain - denoted amount))))
          "UsedQuota" (some (decimal (denoted used + denoted amount))))
        "AccessedTime" (some accessedTime)

theorem isDigit_toDigits (number : Nat) : (Nat.toDigits 10 number).all Char.isDigit = true :=
  List.all_eq_true.mpr fun _ => Nat.isDigit_of_mem_toDigits (by decide) (by decide)

theorem isNegative_decimal (number : Int) : isNegative (decimal number) = decide (number < 0) := by
  by_cases negative : number < 0
  · simp [decimal, negative, isNegative]
  · have other : (Nat.toDigits 10 number.natAbs).head? ≠ some '-' := by
      intro minus
      have digit := List.all_eq_true.mp (isDigit_toDigits number.natAbs) '-'
        (List.mem_of_mem_head? minus)
      cases digit
    simp [decimal, negative, isNegative, other]

theorem unsigned_decimal (number : Int) :
    unsigned (decimal number) = Nat.toDigits 10 number.natAbs := by
  rw [unsigned, isNegative_decimal]
  by_cases negative : number < 0 <;> simp [decimal, negative]

theorem isInteger_decimal (number : Int) : isInteger (decimal number) = true := by
  rw [isInteger, unsigned_decimal, isDigit_toDigits]
  simp

theorem denoted_decimal (number : Int) : denoted (decimal number) = number := by
  rw [denoted_eq, unsigned_decimal, isNegative_decimal, value, Nat.ofDigitChars_ten_toDigits]
  by_cases negative : number < 0
  · simp only [negative, decide_true, if_true]
    omega
  · simp only [negative, decide_false, Bool.false_eq_true, if_false]
    omega

theorem isCounter_decimal (number : Int) :
    IsCounter (decimal number) ↔ -(2 ^ 63) ≤ number ∧ number < 2 ^ 63 := by
  rw [IsCounter, denoted_decimal]
  exact and_iff_right rfl

theorem reserveDelta_decimal {number : Int} (nonneg : 0 ≤ number) :
    reserveDelta (decimal number) = decimal (-number) := by
  by_cases zero : number = 0
  · subst zero
    rfl
  · have apart : decimal number ≠ ['0'] := fun same =>
      zero ((denoted_decimal number).symm.trans (congrArg denoted same))
    rw [reserveDelta, if_neg apart, decimal, decimal, if_neg (by omega), if_pos (by omega),
      Int.natAbs_neg]

theorem balanceOrder_refuses :
    (balanceOrder balance (intarg amount)).all (· < 0) = true ↔ ¬ Covers balance amount := by
  rw [intarg_eq, Covers]
  by_cases integer : isInteger amount = true
  · rw [if_pos integer, balanceOrder, Option.bind_some, isNegative_decimal, cmpInt_eq,
      denoted_decimal]
    by_cases negative : denoted amount < 0
    · simp [negative, not_le.mpr negative]
    · by_cases balanced : isInteger balance = true
      · simp [negative, isInteger_decimal, balanced, integer, not_lt.mp negative, Int.sign_neg_iff]
      · simp [negative, balanced]
  · simp [integer, balanceOrder]

theorem hincrby_reserve (counts : Counts hincrby) (covers : Covers balance amount) :
    hincrby balance (reserveDelta ((intarg amount).getD [])) =
      if IsCounter balance then some (decimal (denoted balance - denoted amount)) else none := by
  obtain ⟨integer, _, nonneg, enough⟩ := covers
  rw [intarg_eq, if_pos integer, Option.getD_some, reserveDelta_decimal nonneg, counts,
    denoted_decimal, ← Int.sub_eq_add_neg]
  refine if_congr ⟨fun all => all.1, fun counter => ⟨counter, ?_, ?_⟩⟩ rfl rfl
  · have below := counter.2.2
    exact (isCounter_decimal _).mpr ⟨by omega, by omega⟩
  · have below := counter.2.2
    exact (isCounter_decimal _).mpr ⟨by omega, by omega⟩

theorem hincrby_spend (counts : Counts hincrby) (covers : Covers balance amount)
    (counter : IsCounter balance) {used : List Char} :
    hincrby used ((intarg amount).getD []) =
      if IsCounter used ∧ denoted used + denoted amount < 2 ^ 63 then
        some (decimal (denoted used + denoted amount))
      else none := by
  obtain ⟨integer, _, nonneg, enough⟩ := covers
  have below := counter.2.2
  rw [intarg_eq, if_pos integer, Option.getD_some, counts, denoted_decimal]
  refine if_congr ⟨?_, ?_⟩ rfl rfl
  · rintro ⟨counted, _, fits⟩
    exact ⟨counted, ((isCounter_decimal _).mp fits).2⟩
  · rintro ⟨counted, fits⟩
    have above := counted.2.1
    exact ⟨counted, (isCounter_decimal _).mpr ⟨by omega, by omega⟩,
      (isCounter_decimal _).mpr ⟨by omega, fits⟩⟩

theorem userQuotaReserveScript_reserves (counts : Counts hincrby) (hash : RedisHash)
    (amount id schema : List Char) (after : RedisHash) :
    userQuotaReserveScript tonumber hincrby hash amount id schema = (after, some 1) ↔
      UserReserved tonumber hash amount id schema after := by
  unfold userQuotaReserveScript UserReserved
  cases hash "Quota" with
  | none => simp
  | some quota =>
    simp only [Option.some.injEq, exists_eq_left']
    by_cases identified : tonumber ((hash "Id").getD ['0']) = tonumber id ∧
        tonumber ((hash "CacheSchema").getD ['0']) = tonumber schema
    · rw [if_neg (by simp [identified])]
      by_cases covers : Covers quota amount
      · rw [if_neg (mt balanceOrder_refuses.mp (not_not.mpr covers)), hincrby_reserve counts covers]
        by_cases counter : IsCounter quota
        · simp [counter, covers, identified, eq_comm]
        · simp [counter]
      · rw [if_pos (balanceOrder_refuses.mpr covers)]
        simp [covers]
    · rw [if_pos (by simpa [imp_iff_not_or] using identified)]
      simp only [Prod.mk.injEq, Option.some.injEq, reduceCtorEq, and_false, false_iff]
      exact fun reserved => identified ⟨reserved.1, reserved.2.1⟩

theorem tokenQuotaReserveScript_reserves (counts : Counts hincrby) (hash : RedisHash)
    (amount id accessedTime : List Char) (after : RedisHash) :
    tokenQuotaReserveScript tonumber hincrby hash amount id accessedTime = (after, some 1) ↔
      TokenReserved tonumber hash amount id accessedTime after := by
  unfold tokenQuotaReserveScript TokenReserved
  cases hash "RemainQuota" with
  | none => simp
  | some remain =>
    cases hash "UsedQuota" with
    | none => simp
    | some used =>
      simp only [Option.some.injEq, exists_and_left, exists_eq_left']
      by_cases identified : tonumber ((hash "Id").getD ['0']) = tonumber id
      · rw [if_neg (not_not.mpr identified)]
        by_cases covers : Covers remain amount
        · rw [if_neg (mt balanceOrder_refuses.mp (not_not.mpr covers)),
            hincrby_reserve counts covers]
          by_cases counter : IsCounter remain
          · simp only [counter, if_true, hincrby_spend counts covers counter]
            by_cases spent : IsCounter used ∧ denoted used + denoted amount < 2 ^ 63
            · rw [if_pos spent]
              simp only [spent, identified, covers, Prod.mk.injEq, and_true, true_and, eq_comm]
            · rw [if_neg spent]
              simp only [Prod.mk.injEq, reduceCtorEq, and_false, spent, false_and]
          · simp [counter]
        · rw [if_pos (balanceOrder_refuses.mpr covers)]
          simp [covers]
      · rw [if_pos identified]
        simp [identified]

/-- The comparison is exact at any length; the scripts grant what the balance
covers as long as it is counted in 64 bits. -/
theorem quota_scripts_exact (counts : Counts hincrby) :
    (∀ a b, cmpInt a b =
      if isInteger a = true ∧ isInteger b = true then some (Int.sign (denoted a - denoted b))
      else none) ∧
    (∀ text, intarg text = if isInteger text = true then some (decimal (denoted text)) else none) ∧
    (∀ hash amount id schema after,
      userQuotaReserveScript tonumber hincrby hash amount id schema = (after, some 1) ↔
        UserReserved tonumber hash amount id schema after) ∧
    ∀ hash amount id accessedTime after,
      tokenQuotaReserveScript tonumber hincrby hash amount id accessedTime = (after, some 1) ↔
        TokenReserved tonumber hash amount id accessedTime after :=
  ⟨cmpInt_eq, intarg_eq, userQuotaReserveScript_reserves counts,
    tokenQuotaReserveScript_reserves counts⟩

end Reserves

def hincrby64 (stored delta : List Char) : Option (List Char) :=
  if IsCounter stored ∧ IsCounter delta ∧ IsCounter (decimal (denoted stored + denoted delta)) then
    some (decimal (denoted stored + denoted delta))
  else none

def cachedUser (quota : String) : RedisHash := fun field =>
  if field = "Quota" then some quota.toList
  else if field = "Id" ∨ field = "CacheSchema" then some ['1'] else none

theorem quota_scripts_seven :
    userQuotaReserveScript some hincrby64 (cachedUser "12") ['0', '7'] ['1'] ['1'] =
      (Function.update (cachedUser "12") "Quota" (some ['5']), some 1) :=
  ((quota_scripts_exact fun _ _ => rfl).2.2.1 _ _ _ _ _).mpr
    ⟨['1', '2'], rfl, rfl, rfl, by unfold Covers; decide, by decide, rfl⟩

/-- A balance of 2^63 covers one, and the counter refuses it. -/
theorem large_balance_is_not_reserved :
    Counts hincrby64 ∧ Covers "9223372036854775808".toList ['1'] ∧
      (userQuotaReserveScript some hincrby64 (cachedUser "9223372036854775808") ['1'] ['1']
        ['1']).2 ≠ some 1 := by
  refine ⟨fun _ _ => rfl, by unfold Covers; decide, ?_⟩
  decide

end NewApi.Billing
