import ContinuousData.Date.Calendar
import Mathlib.Order.Monotone.Basic
import Mathlib.Tactic.SplitIfs

/-! The years of the calendar. Each day belongs to the year whose first day is the last new year not
after it, and years follow each other after as many days as they have. -/
namespace ContinuousData.Calendar

/-- The day number of the first of March. -/
def firstOfMarch (year : Int) : Int :=
  365 * year + year / 4 - year / 100 + year / 400 - 719468

theorem newYear_eq (year : Int) : newYear year = firstOfMarch (year - 1) + 306 := by
  simp only [newYear, dayNumber, firstOfMarch, if_pos (show (1 : Int) ≤ 2 by decide)]
  omega

theorem firstOfMarch_succ (year : Int) :
    firstOfMarch year + 365 ≤ firstOfMarch (year + 1) ∧
      firstOfMarch (year + 1) ≤ firstOfMarch year + 366 := by
  unfold firstOfMarch
  omega

theorem newYear_succ (year : Int) : newYear (year + 1) = newYear year + daysInYear year := by
  rw [newYear_eq, newYear_eq]
  simp only [firstOfMarch, daysInYear, isLeapYear, Bool.or_eq_true, Bool.and_eq_true, beq_iff_eq,
    bne_iff_ne]
  split_ifs <;> omega

theorem daysInYear_bounds (year : Int) : 365 ≤ daysInYear year ∧ daysInYear year ≤ 366 := by
  unfold daysInYear
  split_ifs <;> omega

theorem newYear_lt_iff {first second : Int} : newYear first < newYear second ↔ first < second := by
  have increasing : StrictMono newYear := by
    apply strictMono_int_of_lt_succ
    intro year
    have length := newYear_succ year
    have positive := (daysInYear_bounds year).1
    omega
  exact increasing.lt_iff_lt

theorem newYear_le_iff {first second : Int} : newYear first ≤ newYear second ↔ first ≤ second := by
  rw [← Int.not_lt, newYear_lt_iff, Int.not_lt]

/-- The days of the years from 0 up to a year, which is not counted. -/
def daysBefore : Nat → Int
  | 0 => 0
  | year + 1 => daysBefore year + daysInYear year

/-- The number of a new year counts the days of all the years before it. -/
theorem newYear_eq_daysBefore (year : Nat) : newYear year = daysBefore year - daysBefore 1970 := by
  have fromZero (year : Nat) : newYear year = newYear 0 + daysBefore year := by
    induction year with
    | zero => exact (Int.add_zero _).symm
    | succ year ih => rw [Int.natCast_succ, newYear_succ, ih, daysBefore, Int.add_assoc]
  have epoch : newYear (1970 : Nat) = 0 := rfl
  have first := fromZero 1970
  rw [fromZero]
  omega

/-- The year of an era that has a day, both counted from the era's first of March on. -/
def yearOfEra (day : Int) : Int :=
  (day - day / 1460 + day / 36524 - day / 146096) / 365

/-- Within a century that has no leap day at its end. -/
theorem yearOfEra_century (day century : Int) (h : 0 ≤ century ∧ century ≤ 3)
    (low : 36524 * century ≤ day) (high : day < 36524 * (century + 1)) :
    yearOfEra day = (day - day / 1460 + century) / 365 ∧ yearOfEra day / 100 = century := by
  have hundreds : day / 36524 = century := by omega
  have whole : day / 146096 = 0 := by omega
  have year : yearOfEra day = (day - day / 1460 + century) / 365 := by
    rw [yearOfEra, hundreds, whole, Int.sub_zero]
  refine ⟨year, ?_⟩
  rw [year]
  omega

theorem yearOfEra_spec {day : Int} (nonneg : 0 ≤ day) (inside : day < 146097) :
    (0 ≤ yearOfEra day ∧ yearOfEra day ≤ 399) ∧
      365 * yearOfEra day + yearOfEra day / 4 - yearOfEra day / 100 ≤ day ∧
      day < 365 * (yearOfEra day + 1) + (yearOfEra day + 1) / 4 - (yearOfEra day + 1) / 100 +
        (yearOfEra day + 1) / 400 := by
  by_cases last : day = 146096
  · subst last
    decide
  obtain ⟨year, hundreds⟩ :=
    yearOfEra_century day (day / 36524) (by omega) (by omega) (by omega)
  generalize hc : day / 36524 = century at *
  generalize yearOfEra day = y at *
  have quarter : y / 4 = day / 1460 ∨ y / 4 = day / 1460 - 1 := by omega
  have nextHundreds : (y + 1) / 100 = century ∨ (y + 1) / 100 = century + 1 := by omega
  have nextQuarter : (y + 1) / 4 = y / 4 ∨ (y + 1) / 4 = y / 4 + 1 := by omega
  omega

def dayOfEra (days : Int) : Int :=
  days + 719468 - (days + 719468) / 146097 * 146097

/-- The year of a day, where years start in March. -/
def marchYear (days : Int) : Int :=
  yearOfEra (dayOfEra days) + (days + 719468) / 146097 * 400

/-- The date of a day of a year that starts in March. -/
def ofMarch (year dayOfYear : Int) : Date :=
  let monthIndex := (5 * dayOfYear + 2) / 153
  let month := if monthIndex < 10 then monthIndex + 3 else monthIndex - 9
  ⟨year + (if month ≤ 2 then 1 else 0), month, dayOfYear - (153 * monthIndex + 2) / 5 + 1⟩

theorem firstOfMarch_era (era year : Int) :
    firstOfMarch (year + era * 400) = firstOfMarch year + era * 146097 := by
  unfold firstOfMarch
  omega

theorem firstOfMarch_marchYear (days : Int) :
    firstOfMarch (marchYear days) ≤ days ∧ days < firstOfMarch (marchYear days + 1) := by
  obtain ⟨range, low, high⟩ :=
    @yearOfEra_spec (dayOfEra days) (by unfold dayOfEra; omega) (by unfold dayOfEra; omega)
  have next : marchYear days + 1 =
      yearOfEra (dayOfEra days) + 1 + (days + 719468) / 146097 * 400 := by
    unfold marchYear
    omega
  have position : days = dayOfEra days + (days + 719468) / 146097 * 146097 - 719468 := by
    unfold dayOfEra
    omega
  rw [next, marchYear, firstOfMarch_era, firstOfMarch_era]
  unfold firstOfMarch
  omega

theorem dateOf_eq (days : Int) :
    dateOf days = ofMarch (marchYear days) (days - firstOfMarch (marchYear days)) := by
  obtain ⟨range, -⟩ :=
    @yearOfEra_spec (dayOfEra days) (by unfold dayOfEra; omega) (by unfold dayOfEra; omega)
  have dayOfYear : days - firstOfMarch (marchYear days) =
      dayOfEra days - (365 * yearOfEra (dayOfEra days) + yearOfEra (dayOfEra days) / 4 -
        yearOfEra (dayOfEra days) / 100) := by
    rw [marchYear, firstOfMarch_era, firstOfMarch]
    generalize hy : yearOfEra (dayOfEra days) = y at *
    unfold dayOfEra
    omega
  rw [dayOfYear]
  rfl

theorem year_ofMarch {dayOfYear : Int} (year : Int) (nonneg : 0 ≤ dayOfYear)
    (inside : dayOfYear < 366) :
    (ofMarch year dayOfYear).year = if dayOfYear < 306 then year else year + 1 := by
  simp only [ofMarch]
  split_ifs <;> omega

/-- Each day lies between the new year of its year and the next one. -/
theorem newYear_dateOf (days : Int) :
    newYear (dateOf days).year ≤ days ∧ days < newYear ((dateOf days).year + 1) := by
  obtain ⟨low, high⟩ := firstOfMarch_marchYear days
  have length := firstOfMarch_succ (marchYear days)
  have before := firstOfMarch_succ (marchYear days - 1)
  rw [Int.sub_add_cancel] at before
  rw [dateOf_eq, year_ofMarch _ (by omega) (by omega), newYear_eq, newYear_eq]
  split_ifs
  · rw [Int.add_sub_cancel]
    omega
  · rw [Int.add_sub_cancel, Int.add_sub_cancel]
    omega

/-- The year of a day is the only one whose days include it. -/
theorem year_dateOf_eq {days year : Int} (first : newYear year ≤ days)
    (next : days < newYear (year + 1)) : (dateOf days).year = year := by
  obtain ⟨low, high⟩ := newYear_dateOf days
  have notAfter := newYear_lt_iff.mp (low.trans_lt next)
  have notBefore := newYear_lt_iff.mp (first.trans_lt high)
  omega

end ContinuousData.Calendar
