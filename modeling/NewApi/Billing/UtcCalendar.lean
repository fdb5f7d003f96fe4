import NewApi.Billing.Subscription

/-!
# The calendar of UTC

Days are counted from 1970-01-01.  `time.Date` turns a year and a month into
such a day, `Time.Year` and `Time.Month` go the other way, and `calcNextResetTime`
builds its boundaries from the two.
-/

namespace NewApi.Billing

def isLeap (year : Int) : Bool := year % 4 = 0 ∧ (year % 100 ≠ 0 ∨ year % 400 = 0)

def daysBeforeYear (year : Int) : Int :=
  365 * (year - 1) + (year - 1) / 4 - (year - 1) / 100 + (year - 1) / 400

/-- The days of a year before its month; month 13 is the January after it. -/
def daysBefore (leap : Bool) (month : Nat) : Int :=
  [0, 31, 59, 90, 120, 151, 181, 212, 243, 273, 304, 334, 365].getD
      (month - 1) 0 +
    if leap && decide (3 ≤ month) then 1 else 0

def dayOfDate (year : Int) (month : Nat) : Int :=
  daysBeforeYear year + daysBefore (isLeap year) month - 719162

/-- The year of a day, and the day within the year, by cutting off cycles of
400, 100 and 4 years.  The last cycle of 100 years and the last year are the
long ones. -/
def yearOfDay (day : Int) : Int × Int :=
  let absolute := day + 719162
  let n400 := absolute / 146097
  let rest := absolute % 146097
  let n100 := min 3 (rest / 36524)
  let rest := rest - 36524 * n100
  let n4 := rest / 1461
  let rest := rest % 1461
  let n1 := min 3 (rest / 365)
  (400 * n400 + 100 * n100 + 4 * n4 + n1 + 1, rest - 365 * n1)

def monthOfYearDay (leap : Bool) (yday : Int) : Nat :=
  ((List.range 12).find? fun month => yday < daysBefore leap (month + 2)).getD 11 + 1

def civilOfDay (day : Int) : Int × Nat :=
  let (year, yday) := yearOfDay day
  (year, monthOfYearDay (isLeap year) yday)

def weekdayOfDay (day : Int) : Int := (day + 4) % 7

section Cycles

variable {n400 n100 n4 n1 : Int}

section

variable (hundreds : 0 ≤ n100 ∧ n100 ≤ 3) (fours : 0 ≤ n4 ∧ n4 ≤ 24) (ones : 0 ≤ n1 ∧ n1 ≤ 3)
include hundreds fours ones

theorem daysBeforeYear_cycles :
    daysBeforeYear (400 * n400 + 100 * n100 + 4 * n4 + n1 + 1) =
      146097 * n400 + 36524 * n100 + 1461 * n4 + 365 * n1 := by
  unfold daysBeforeYear
  omega

theorem isLeap_cycles :
    isLeap (400 * n400 + 100 * n100 + 4 * n4 + n1 + 1) = true ↔ n1 = 3 ∧ (n4 ≠ 24 ∨ n100 = 3) := by
  simp only [isLeap, decide_eq_true_eq]
  omega

end

end Cycles

def yearLength (year : Int) : Int := if isLeap year then 366 else 365

/-- Each day lies in the year that is found for it. -/
theorem yearOfDay_spec (day : Int) :
    daysBeforeYear (yearOfDay day).1 + (yearOfDay day).2 = day + 719162 ∧
      0 ≤ (yearOfDay day).2 ∧ (yearOfDay day).2 < yearLength (yearOfDay day).1 := by
  simp only [yearOfDay]
  generalize day + 719162 = absolute
  have rest := Int.emod_add_mul_ediv absolute 146097
  have restRange : 0 ≤ absolute % 146097 ∧ absolute % 146097 < 146097 := by omega
  generalize absolute / 146097 = n400 at *
  generalize absolute % 146097 = rest₁ at *
  obtain ⟨n100, hundredsEq, hundreds, restHundred, longHundred⟩ :
      ∃ n100, min 3 (rest₁ / 36524) = n100 ∧ (0 ≤ n100 ∧ n100 ≤ 3) ∧
        (0 ≤ rest₁ - 36524 * n100 ∧ rest₁ - 36524 * n100 ≤ 36524) ∧
          (n100 ≠ 3 → rest₁ - 36524 * n100 < 36524) :=
    ⟨_, rfl, by omega, by omega, by omega⟩
  rw [hundredsEq]
  obtain ⟨rest₂, restEq⟩ : ∃ rest₂, rest₁ - 36524 * n100 = rest₂ := ⟨_, rfl⟩
  rw [restEq] at restHundred longHundred ⊢
  obtain ⟨n4, foursEq, fours⟩ : ∃ n4, rest₂ / 1461 = n4 ∧ (0 ≤ n4 ∧ n4 ≤ 24) := ⟨_, rfl, by omega⟩
  obtain ⟨rest₃, restFourEq, restFour, partition⟩ :
      ∃ rest₃, rest₂ % 1461 = rest₃ ∧ (0 ≤ rest₃ ∧ rest₃ < 1461) ∧ rest₂ = 1461 * n4 + rest₃ :=
    ⟨_, rfl, by omega, by omega⟩
  rw [foursEq, restFourEq]
  obtain ⟨n1, onesEq, ones, ydayRange⟩ : ∃ n1, min 3 (rest₃ / 365) = n1 ∧ (0 ≤ n1 ∧ n1 ≤ 3) ∧
        (0 ≤ rest₃ - 365 * n1 ∧
          (n1 ≠ 3 → rest₃ - 365 * n1 < 365) ∧ (n1 = 3 → rest₃ - 365 * n1 < 366)) :=
    ⟨_, rfl, by omega, by omega, by omega, by omega⟩
  rw [onesEq, daysBeforeYear_cycles hundreds fours ones]
  have leap := @isLeap_cycles n400 n100 n4 n1 hundreds fours ones
  refine ⟨by omega, ydayRange.1, ?_⟩
  unfold yearLength
  by_cases long : isLeap (400 * n400 + 100 * n100 + 4 * n4 + n1 + 1) = true
  · rw [if_pos long]
    omega
  · rw [leap] at long
    omega

theorem lt_daysBefore_monthOfYearDay {year yday : Int} (inside : yday < yearLength year) :
    yday < daysBefore (isLeap year) (monthOfYearDay (isLeap year) yday + 1) := by
  unfold monthOfYearDay
  cases found : (List.range 12).find? fun month => yday < daysBefore (isLeap year) (month + 2) with
  | none =>
    have last := List.find?_eq_none.mp found 11 (by decide)
    simp only [decide_eq_true_eq, not_lt] at last
    unfold yearLength at inside
    cases leap : isLeap year with
    | true =>
      rw [leap] at inside last
      exact absurd (last.trans_lt inside) (by decide)
    | false =>
      rw [leap] at inside last
      exact absurd (last.trans_lt inside) (by decide)
  | some month => simpa using List.find?_some found

theorem lt_dayOfDate_next (day : Int) :
    day < dayOfDate (civilOfDay day).1 ((civilOfDay day).2 + 1) := by
  obtain ⟨placed, _, inside⟩ := yearOfDay_spec day
  have next := lt_daysBefore_monthOfYearDay inside
  change day < daysBeforeYear (yearOfDay day).1 +
        daysBefore (isLeap (yearOfDay day).1)
          (monthOfYearDay (isLeap (yearOfDay day).1) (yearOfDay day).2 + 1) -
      719162
  omega

/-- The days until the next Monday, with the weekdays from Monday = 1 to
Sunday = 7. -/
def daysUntilMonday (day : Int) : Int := 8 - if weekdayOfDay day = 0 then 7 else weekdayOfDay day

theorem daysUntilMonday_pos (day : Int) : 0 < daysUntilMonday day := by
  unfold daysUntilMonday weekdayOfDay
  by_cases sunday : (day + 4) % 7 = 0
  · rw [if_pos sunday]
    decide
  · omega

def Calendar.utc : Calendar where
  nextMidnight moment := (moment / 86400 + 1) * 86400
  nextMonday moment := (moment / 86400 + daysUntilMonday (moment / 86400)) * 86400
  nextMonth moment :=
    let date := civilOfDay (moment / 86400)
    dayOfDate date.1 (date.2 + 1) * 86400
  lt_nextMidnight := lt_nextDay
  lt_nextMonday := by
    intro moment
    have later := daysUntilMonday_pos (moment / 86400)
    omega
  lt_nextMonth := by
    intro moment
    have later := lt_dayOfDate_next (moment / 86400)
    dsimp only
    omega

/-- The month after February 2024, a leap year, begins on day 19783. -/
example : Calendar.utc.nextMonth 1707955200 = 1709251200 := by decide

end NewApi.Billing
