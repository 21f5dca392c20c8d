import Mathlib.Algebra.Order.Group.Int
import Mathlib.Data.Int.SuccPred
import Mathlib.Order.Monotone.Basic
import Mathlib.Order.SuccPred.Basic
import Mathlib.Tactic.IntervalCases
import Workflow.Timestamp

/-!
# The calendar

Days are numbered, and every number is the number of a date.  The two directions of the
calendar are written down independently: one adds up the days of eras, years and months, the
other divides.  They fit because the divisions for years and for months never decrease and
are right at both ends of every year and month.

## Main Definitions

* `Timestamp.newYear` — the days before a year, when years begin in March.
* `Timestamp.Date.ofMarch` — the date of a day in such a year.

## Main Statements

* `Timestamp.Date.toDays_ofDays` — a day is the day of its date.
* `Timestamp.date?_ofDays` — the date of a day of the calendar is a date of the calendar.
-/

namespace Workflow.Timestamp

/-! ### Years that begin in March -/

/-- The days before a year, counted from the first of March of the year 0. -/
def newYear (year : Int) : Int := 365 * year + year / 4 - year / 100 + year / 400

/-- The year that a day of an era falls into. -/
def yearOfEra (dayOfEra : Int) : Int :=
  (dayOfEra - dayOfEra / 1460 + dayOfEra / 36524 - dayOfEra / 146096) / 365

/-- A year is a day longer when the next February has 29 days. -/
theorem newYear_succ (year : Int) :
    newYear (year + 1) = newYear year + if isLeap (year + 1) then 366 else 365 := by
  simp only [newYear, isLeap, Bool.and_eq_true, Bool.or_eq_true, beq_iff_eq, bne_iff_ne]
  split
  · omega
  · omega

theorem yearLength_le (leap : Bool) : (if leap then 366 else 365 : Int) ≤ 366 := by
  cases leap
  · decide
  · decide

/-- Eras are alike. -/
theorem newYear_add_era (year era : Int) :
    newYear (year + era * 400) = newYear year + era * 146097 := by
  simp only [newYear]
  omega

theorem yearOfEra_mono {a b : Int} (le : a ≤ b) : yearOfEra a ≤ yearOfEra b := by
  have step (day : Int) : yearOfEra day ≤ yearOfEra (day + 1) :=
    Int.ediv_le_ediv (by decide) (by omega)
  exact monotone_int_of_le_succ step le

/-- The division is right on the first and on the last day of each year. -/
theorem yearOfEra_ends (year : Nat) (bound : year < 400) :
    yearOfEra (newYear year) = year ∧ yearOfEra (newYear (year + 1) - 1) = year := by
  revert year
  decide +kernel

/-- A day before some year lies in an earlier one. -/
theorem exists_year {years : Nat} {day : Int} (lower : 0 ≤ day) (upper : day < newYear years) :
    ∃ year < years, newYear year ≤ day ∧ day < newYear (year + 1) := by
  induction years with
  | zero => exact absurd upper (by rw [newYear]; omega)
  | succ years ih =>
      by_cases earlier : day < newYear years
      · obtain ⟨year, bound, inside⟩ := ih earlier
        exact ⟨year, by omega, inside⟩
      · exact ⟨years, by omega, by omega, upper⟩

/-- **Every day of an era lies in the year that the division gives.** -/
theorem yearOfEra_spec {day : Int} (lower : 0 ≤ day) (upper : day < 146097) :
    0 ≤ yearOfEra day ∧ yearOfEra day < 400 ∧ newYear (yearOfEra day) ≤ day ∧
      day < newYear (yearOfEra day + 1) := by
  obtain ⟨year, bound, start, stop⟩ := @exists_year 400 day lower upper
  have ends := yearOfEra_ends year bound
  have low := yearOfEra_mono start
  have high := yearOfEra_mono (show day ≤ newYear (year + 1) - 1 by omega)
  have right : yearOfEra day = year := by omega
  rw [right]
  exact ⟨by omega, by omega, start, stop⟩

namespace Date

/-- The date of a day in a year that begins in March. -/
def ofMarch (year dayOfYear : Int) : Date :=
  let month : Int := (5 * dayOfYear + 2) / 153
  let month' : Int := if month < 10 then month + 3 else month - 9
  ⟨year + (if month' ≤ 2 then 1 else 0), month'.toNat,
    (dayOfYear - (153 * month + 2) / 5 + 1).toNat⟩

/-- **Every day lies in some year that begins in March**, and that gives its date. -/
theorem exists_ofMarch (days : Int) : ∃ year dayOfYear : Int, 0 ≤ dayOfYear ∧
    dayOfYear < (if isLeap (year + 1) then 366 else 365) ∧
    days = newYear year + dayOfYear - 719468 ∧ ofDays days = ofMarch year dayOfYear := by
  obtain ⟨era, day, shifted, lower, upper⟩ :
      ∃ era day : Int, days + 719468 = day + era * 146097 ∧ 0 ≤ day ∧ day < 146097 :=
    ⟨(days + 719468) / 146097, (days + 719468) % 146097, by omega, by omega, by omega⟩
  obtain ⟨first, last, start, stop⟩ := yearOfEra_spec lower upper
  have next : newYear (yearOfEra day + era * 400 + 1) =
      newYear (yearOfEra day + 1) + era * 146097 := by
    rw [add_right_comm, newYear_add_era]
  rw [newYear_succ, newYear_add_era] at next
  refine ⟨yearOfEra day + era * 400, day - newYear (yearOfEra day), by omega, ?_, ?_, ?_⟩
  · generalize (if isLeap (yearOfEra day + era * 400 + 1) then 366 else 365 : Int) = length at *
    omega
  · rw [newYear_add_era]
    omega
  · have whole : (days + 719468) / 146097 = era := by omega
    have rest : (days + 719468) % 146097 = day := by omega
    have inEra : 365 * yearOfEra day + yearOfEra day / 4 - yearOfEra day / 100 =
        newYear (yearOfEra day) := by
      simp only [newYear]
      omega
    rw [ofDays]
    simp only [whole, rest, ← yearOfEra.eq_1, inEra]
    rfl

variable {year dayOfYear : Int}

/-- Adding up the months undoes the division for months. -/
theorem toDays_ofMarch (lower : 0 ≤ dayOfYear) (upper : dayOfYear < 366) :
    (ofMarch year dayOfYear).toDays = newYear year + dayOfYear - 719468 := by
  simp only [ofMarch, toDays, newYear]
  split
  · omega
  · omega

/-- The division for months gives them their lengths, all but the last, which is February. -/
theorem daysInMonth_fromMarch {month : Int} (first : 0 ≤ month) (last : month ≤ 10) (year : Int) :
    (daysInMonth year (if month < 10 then month + 3 else month - 9).toNat : Int) =
      (153 * (month + 1) + 2) / 5 - (153 * month + 2) / 5 := by
  interval_cases month
  all_goals rfl

/-- **The date of a day exists**: February is as long as its year allows. -/
theorem ofMarch_exists (lower : 0 ≤ dayOfYear)
    (upper : dayOfYear < if isLeap (year + 1) then 366 else 365) :
    1 ≤ (ofMarch year dayOfYear).month ∧ (ofMarch year dayOfYear).month ≤ 12 ∧
      1 ≤ (ofMarch year dayOfYear).day ∧ (ofMarch year dayOfYear).day ≤
        daysInMonth (ofMarch year dayOfYear).year (ofMarch year dayOfYear).month := by
  have longest := lt_of_lt_of_le upper (yearLength_le _)
  obtain ⟨month, division⟩ : ∃ month, (5 * dayOfYear + 2) / 153 = month := ⟨_, rfl⟩
  simp only [ofMarch, division]
  refine ⟨by omega, by omega, by omega, ?_⟩
  by_cases february : month = 11
  · subst february
    have length : daysInMonth (year + 1) 2 = if isLeap (year + 1) then 29 else 28 := rfl
    change _ ≤ daysInMonth (year + 1) 2
    rw [length]
    split
    · omega
    · next common =>
        rw [if_neg common] at upper
        omega
  · rw [← Int.ofNat_le, daysInMonth_fromMarch (by omega) (by omega)]
    omega

/-- **A day is the day of its date.** -/
theorem toDays_ofDays (days : Int) : (ofDays days).toDays = days := by
  obtain ⟨year, dayOfYear, lower, upper, eq, date⟩ := exists_ofMarch days
  rw [date, eq, toDays_ofMarch lower (lt_of_lt_of_le upper (yearLength_le _))]

/-- The first and the last day of the calendar have the first and the last year. -/
theorem year_ofDays {days : Int} (first : toDays ⟨firstYear, 1, 1⟩ ≤ days)
    (last : days ≤ toDays ⟨lastYear, 12, 31⟩) :
    firstYear ≤ (ofDays days).year ∧ (ofDays days).year ≤ lastYear := by
  have start : toDays ⟨firstYear, 1, 1⟩ = -96465292 := by decide
  have stop : toDays ⟨lastYear, 12, 31⟩ = 95026236 := by decide
  obtain ⟨year, dayOfYear, lower, upper, eq, date⟩ := exists_ofMarch days
  have longest := lt_of_lt_of_le upper (yearLength_le _)
  rw [newYear] at eq
  have early : -262144 ≤ year := by omega
  have late : year ≤ 262142 := by omega
  rw [date]
  simp only [ofMarch, firstYear, lastYear]
  constructor
  · -- the first year begins in the last months of the one that begins in March
    rcases early.eq_or_lt with rfl | early
    · omega
    · omega
  · rcases late.eq_or_lt with rfl | late
    · omega
    · omega

end Date

/-- **The date of a day of the calendar is a date of the calendar.** -/
theorem date?_ofDays {days : Int} (first : Date.toDays ⟨firstYear, 1, 1⟩ ≤ days)
    (last : days ≤ Date.toDays ⟨lastYear, 12, 31⟩) :
    date? (Date.ofDays days).year (Date.ofDays days).month (Date.ofDays days).day =
      some (Date.ofDays days) := by
  obtain ⟨year, dayOfYear, lower, upper, eq, date⟩ := Date.exists_ofMarch days
  obtain ⟨early, late⟩ := Date.year_ofDays first last
  have valid := Date.ofMarch_exists lower upper
  rw [← date] at valid
  exact if_pos ⟨early, late, valid⟩

end Workflow.Timestamp
