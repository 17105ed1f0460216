import Mathlib.Tactic.IntervalCases
import Mathlib.Tactic.SplitIfs
import TokenAuthority.Time.Calendar

/-!
# The dates of days

Every day has a date that exists, and the number of this date is the day again.  The year is found by dividing
the day of the era by the mean length of a year, after taking off the leap days; that this is right is seen from
the centuries, the spans of four years and the years of which the day of the era is made up.  The month is then a
matter of the day of the year alone.
-/

namespace TokenAuthority
namespace Time

/-! ## Years of an era -/

/-- The days of an era before 1 March of one of its years. -/
def daysBeforeYear (yearOfEra : Int) : Int :=
  365 * yearOfEra + yearOfEra / 4 - yearOfEra / 100

/-- The year of an era, counted from March, in which a day of it lies. -/
def yearOfDay (dayOfEra : Int) : Int :=
  (dayOfEra - dayOfEra / 1460 + dayOfEra / 36524 - dayOfEra / 146096) / 365

/-- A day of an era is a day of a year, behind whole centuries, spans of four years and years.  The last day of a
leap year is one more than the other years have; the last span of a century lacks it, but for the last century. -/
structure IsDayOf (dayOfEra century span year day : Int) : Prop where
  century_nonneg : 0 ≤ century
  century_le : century ≤ 3
  span_nonneg : 0 ≤ span
  span_le : span ≤ 24
  year_nonneg : 0 ≤ year
  year_le : year ≤ 3
  day_nonneg : 0 ≤ day
  day_le : day ≤ 365
  leap : day = 365 → year = 3 ∧ (span = 24 → century = 3)
  sum : dayOfEra = 36524 * century + 1461 * span + 365 * year + day

theorem exists_isDayOf {dayOfEra : Int} (nonneg : 0 ≤ dayOfEra) (lt : dayOfEra < 146097) :
    ∃ century span year day, IsDayOf dayOfEra century span year day := by
  -- the last day of the era belongs to the century before it, and the last of four years likewise
  have centuries : ∃ century rest : Int, 0 ≤ century ∧ century ≤ 3 ∧ 0 ≤ rest ∧ rest ≤ 36524 ∧
      (rest = 36524 → century = 3) ∧ dayOfEra = 36524 * century + rest :=
    ⟨min 3 (dayOfEra / 36524), dayOfEra - 36524 * min 3 (dayOfEra / 36524), by omega⟩
  rcases centuries with ⟨century, rest, nonneg, le, restNonneg, restLe, last, sum⟩
  refine ⟨century, rest / 1461, min 3 (rest % 1461 / 365),
    rest % 1461 - 365 * min 3 (rest % 1461 / 365), ?_⟩
  constructor <;> omega

section

variable {dayOfEra century span year day : Int} (isDayOf : IsDayOf dayOfEra century span year day)

include isDayOf

theorem yearOfDay_eq : yearOfDay dayOfEra = 100 * century + 4 * span + year := by
  rcases isDayOf with
    ⟨centuryNonneg, centuryLe, spanNonneg, spanLe, yearNonneg, yearLe, dayNonneg, dayLe, leap, sum⟩
  have centuries : dayOfEra / 36524 - dayOfEra / 146096 = century := by
    have last : dayOfEra = 146096 ∨ 1461 * span + 365 * year + day ≤ 36523 := by omega
    rcases last with last | inside
    · omega
    · have whole : dayOfEra / 36524 = century := by omega
      have few : dayOfEra / 146096 = 0 := by omega
      omega
  have spans : dayOfEra / 1460 =
      25 * century + span + (24 * century + span + (365 * year + day)) / 1460 := by omega
  -- what is left of a span reaches its end in the last of the four years only
  have early : year ≤ 2 → (24 * century + span + (365 * year + day)) / 1460 = 0 := by omega
  have late : (24 * century + span + (365 * year + day)) / 1460 ≤ 1 := by omega
  unfold yearOfDay
  omega

theorem yearOfDay_bounds : 0 ≤ yearOfDay dayOfEra ∧ yearOfDay dayOfEra < 400 := by
  rw [yearOfDay_eq isDayOf]
  have := isDayOf.century_nonneg
  have := isDayOf.century_le
  have := isDayOf.span_nonneg
  have := isDayOf.span_le
  have := isDayOf.year_nonneg
  have := isDayOf.year_le
  omega

theorem daysBeforeYear_yearOfDay : daysBeforeYear (yearOfDay dayOfEra) = dayOfEra - day := by
  rw [yearOfDay_eq isDayOf]
  rcases isDayOf with
    ⟨centuryNonneg, centuryLe, spanNonneg, spanLe, yearNonneg, yearLe, dayNonneg, dayLe, leap, sum⟩
  unfold daysBeforeYear
  omega

/-- A year has a last day more only if the February at its end has one. -/
theorem isLeapYear_of_isDayOf (last : day = 365) (era : Int) :
    isLeapYear (yearOfDay dayOfEra + era * 400 + 1) = true := by
  rcases isDayOf.leap last with ⟨fourth, lastSpan⟩
  have centuryNonneg := isDayOf.century_nonneg
  have spanNonneg := isDayOf.span_nonneg
  have spanLe := isDayOf.span_le
  rw [yearOfDay_eq isDayOf, isLeapYear]
  simp only [Bool.and_eq_true, Bool.or_eq_true, beq_iff_eq, bne_iff_ne]
  omega

end

/-! ## Days of a year -/

theorem daysInMonth_le (year : Int) (month : Nat) : daysInMonth year month ≤ 31 := by
  unfold daysInMonth
  split_ifs <;> decide

namespace Date

/-- The date of a day of a year that is counted from March. -/
def ofYearDay (marchYear dayOfYear : Int) : Date :=
  let marchMonth := (5 * dayOfYear + 2) / 153
  let day := dayOfYear - (153 * marchMonth + 2) / 5 + 1
  let month := if marchMonth < 10 then marchMonth + 3 else marchMonth - 9
  { year := if month ≤ 2 then marchYear + 1 else marchYear
    month := month.toNat
    day := day.toNat }

section

variable {marchYear dayOfYear : Int} (nonneg : 0 ≤ dayOfYear) (le : dayOfYear ≤ 365)

include nonneg le

theorem toDays_ofYearDay : (ofYearDay marchYear dayOfYear).toDays =
    marchYear / 400 * 146097 + daysBeforeYear (marchYear % 400) + dayOfYear - 719468 := by
  unfold ofYearDay toDays daysBeforeYear
  dsimp only
  split_ifs <;> omega

/-- All days of a year but the last have dates that exist in every year. -/
theorem isValid_ofYearDay (leap : dayOfYear = 365 → isLeapYear (marchYear + 1) = true) :
    (ofYearDay marchYear dayOfYear).isValid = true := by
  by_cases last : dayOfYear = 365
  · subst last
    have february : ofYearDay marchYear 365 = ⟨marchYear + 1, 2, 29⟩ := rfl
    rw [february, isValid, daysInMonth]
    simp only [leap rfl]
    rfl
  · have monthNonneg : 0 ≤ (5 * dayOfYear + 2) / 153 := by omega
    have monthLe : (5 * dayOfYear + 2) / 153 ≤ 11 := by omega
    unfold ofYearDay isValid daysInMonth
    simp only [Bool.and_eq_true, decide_eq_true_eq]
    generalize within : (5 * dayOfYear + 2) / 153 = marchMonth at monthNonneg monthLe
    interval_cases marchMonth <;> split_ifs <;> omega

end

/-! ## Days -/

/-- The date of a day, found by the era and the day of the year. -/
theorem ofDays_eq_ofYearDay (days : Int) : ofDays days =
    ofYearDay (yearOfDay ((days + 719468) % 146097) + (days + 719468) / 146097 * 400)
      ((days + 719468) % 146097 - daysBeforeYear (yearOfDay ((days + 719468) % 146097))) :=
  rfl

/-- The number of the date of a day is the day. -/
theorem toDays_ofDays (days : Int) : (ofDays days).toDays = days := by
  rcases exists_isDayOf (Int.emod_nonneg (days + 719468) (by decide))
    (Int.emod_lt_of_pos (days + 719468) (by decide)) with ⟨century, span, year, day, isDayOf⟩
  have before := daysBeforeYear_yearOfDay isDayOf
  have bounds := yearOfDay_bounds isDayOf
  have nonneg := isDayOf.day_nonneg
  have le := isDayOf.day_le
  rw [ofDays_eq_ofYearDay, toDays_ofYearDay (by omega) (by omega)]
  have year : (yearOfDay ((days + 719468) % 146097) + (days + 719468) / 146097 * 400) % 400 =
      yearOfDay ((days + 719468) % 146097) := by omega
  rw [year]
  omega

/-- The date of a day exists. -/
theorem isValid_ofDays (days : Int) : (ofDays days).isValid = true := by
  rcases exists_isDayOf (Int.emod_nonneg (days + 719468) (by decide))
    (Int.emod_lt_of_pos (days + 719468) (by decide)) with ⟨century, span, year, day, isDayOf⟩
  have before := daysBeforeYear_yearOfDay isDayOf
  have nonneg := isDayOf.day_nonneg
  have le := isDayOf.day_le
  rw [ofDays_eq_ofYearDay]
  refine isValid_ofYearDay (by omega) (by omega) fun last => ?_
  exact isLeapYear_of_isDayOf isDayOf (by omega) _

/-- The month and the day of a date have two digits. -/
theorem lt_hundred_of_isValid {date : Date} (valid : date.isValid = true) : date.month < 100 ∧ date.day < 100 := by
  simp only [isValid, Bool.and_eq_true, decide_eq_true_eq] at valid
  have short := daysInMonth_le date.year date.month
  omega

/-- The days of the representable years. -/
theorem year_ofDays_bounds {days : Int} (first : -96465292 ≤ days) (last : days ≤ 95026236) :
    -262143 ≤ (ofDays days).year ∧ (ofDays days).year ≤ 262142 := by
  have number := toDays_ofDays days
  have valid := isValid_ofDays days
  simp only [isValid, Bool.and_eq_true, decide_eq_true_eq] at valid
  have short := daysInMonth_le (ofDays days).year (ofDays days).month
  unfold toDays at number
  generalize (ofDays days).year = year at *
  generalize (ofDays days).month = month at *
  generalize (ofDays days).day = day at *
  dsimp only at number
  -- the years next to the bounds are known by their days, and those beyond by the length of a year
  by_contra outside
  have beyond : year = -262144 ∨ year ≤ -262145 ∨ year = 262143 ∨ 262144 ≤ year := by omega
  rcases beyond with rfl | before | rfl | after
  all_goals split_ifs at number <;> omega

end Date
end Time
end TokenAuthority
