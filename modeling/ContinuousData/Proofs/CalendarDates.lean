import ContinuousData.Proofs.CheckedDates

/-! The dates of the calendar. Each day has exactly one date, and its number is that of the day. For
all days that milliseconds of 64 bits can tell, dates and numbers are found without a step that
leaves 64 bits. -/
namespace ContinuousData

namespace Calendar

def daysInMonth (year month : Int) : Int :=
  if month = 2 then if isLeapYear year then 29 else 28
  else if month = 4 ∨ month = 6 ∨ month = 9 ∨ month = 11 then 30
  else 31

/-- A day that the month has, in that year. -/
structure Date.IsValid (date : Date) : Prop where
  month : 1 ≤ date.month ∧ date.month ≤ 12
  day : 1 ≤ date.day ∧ date.day ≤ daysInMonth date.year date.month

/-- The year that started in the last March. -/
def Date.marchYear (date : Date) : Int :=
  if date.month ≤ 2 then date.year - 1 else date.year

/-- The number of days since the first of that March. -/
def Date.dayOfMarchYear (date : Date) : Int :=
  (153 * ((date.month + 9) % 12) + 2) / 5 + date.day - 1

theorem dayNumber_eq (date : Date) :
    dayNumber date = firstOfMarch date.marchYear + date.dayOfMarchYear := by
  simp only [dayNumber, firstOfMarch, Date.marchYear, Date.dayOfMarchYear]
  omega

/-- A leap day is the last day of its year. -/
theorem firstOfMarch_add_daysInYear (year : Int) :
    firstOfMarch (year + 1) = firstOfMarch year + daysInYear (year + 1) := by
  have length := newYear_succ (year + 1)
  rw [newYear_eq, newYear_eq, Int.add_sub_cancel, Int.add_sub_cancel] at length
  omega

theorem firstOfMarch_lt_iff {first second : Int} :
    firstOfMarch first < firstOfMarch second ↔ first < second := by
  have shifted := @newYear_lt_iff (first + 1) (second + 1)
  rw [newYear_eq, newYear_eq, Int.add_sub_cancel, Int.add_sub_cancel] at shifted
  omega

theorem marchYear_eq {days year : Int} (first : firstOfMarch year ≤ days)
    (next : days < firstOfMarch (year + 1)) : marchYear days = year := by
  obtain ⟨low, high⟩ := firstOfMarch_marchYear days
  have notAfter := firstOfMarch_lt_iff.mp (low.trans_lt next)
  have notBefore := firstOfMarch_lt_iff.mp (first.trans_lt high)
  omega

/-- Months are counted from March on, so that each but February ends where the next one starts. -/
theorem daysInMonth_eq (year : Int) {month : Int} (range : 1 ≤ month ∧ month ≤ 12)
    (other : month ≠ 2) :
    daysInMonth year month =
      (153 * ((month + 9) % 12 + 1) + 2) / 5 - (153 * ((month + 9) % 12) + 2) / 5 := by
  obtain ⟨low, high⟩ := range
  interval_cases month
  case «2» => contradiction
  all_goals rfl

/-- February ends with the year. -/
theorem daysInMonth_february (year : Int) : daysInMonth year 2 = daysInYear year - 337 := by
  unfold daysInMonth daysInYear
  split_ifs <;> omega

theorem month_ofMarch (year : Int) {dayOfYear : Int} (nonneg : 0 ≤ dayOfYear)
    (inside : dayOfYear < 366) :
    ((ofMarch year dayOfYear).month + 9) % 12 = (5 * dayOfYear + 2) / 153 ∧
      1 ≤ (ofMarch year dayOfYear).month ∧ (ofMarch year dayOfYear).month ≤ 12 := by
  simp only [ofMarch]
  split_ifs <;> omega

/-- Twelve months cover a year from March on, and the last one ends with it. -/
theorem isValid_ofMarch (year : Int) {dayOfYear : Int} (nonneg : 0 ≤ dayOfYear)
    (inside : dayOfYear < daysInYear (year + 1)) : (ofMarch year dayOfYear).IsValid := by
  have bounds := (daysInYear_bounds (year + 1)).2
  obtain ⟨index, range⟩ := month_ofMarch year nonneg (by omega)
  refine ⟨range, ?_⟩
  have day : (ofMarch year dayOfYear).day =
      dayOfYear - (153 * ((5 * dayOfYear + 2) / 153) + 2) / 5 + 1 := rfl
  by_cases february : (ofMarch year dayOfYear).month = 2
  · have last : (ofMarch year dayOfYear).year = year + 1 := by
      change year + (if (ofMarch year dayOfYear).month ≤ 2 then 1 else 0) = year + 1
      rw [if_pos (by omega)]
    rw [february, daysInMonth_february, last, day]
    omega
  · rw [daysInMonth_eq _ range february, index, day]
    omega

theorem dayOfMarchYear_ofMarch (year : Int) {dayOfYear : Int} (nonneg : 0 ≤ dayOfYear)
    (inside : dayOfYear < 366) :
    (ofMarch year dayOfYear).marchYear = year ∧
      (ofMarch year dayOfYear).dayOfMarchYear = dayOfYear := by
  simp only [ofMarch, Date.marchYear, Date.dayOfMarchYear]
  split_ifs <;> omega

/-- The day tells the month, as no month is longer than the next one starts after it. -/
theorem monthIndex_eq {date : Date} (h : date.IsValid) :
    (5 * date.dayOfMarchYear + 2) / 153 = (date.month + 9) % 12 ∧ 0 ≤ date.dayOfMarchYear ∧
      date.dayOfMarchYear < daysInYear (date.marchYear + 1) := by
  obtain ⟨range, first, last⟩ := h
  have bounds := daysInYear_bounds (date.marchYear + 1)
  unfold Date.dayOfMarchYear
  by_cases february : date.month = 2
  · have next : date.marchYear + 1 = date.year := by
      rw [Date.marchYear, if_pos (by omega)]
      omega
    rw [february, daysInMonth_february, ← next] at last
    rw [february]
    omega
  · rw [daysInMonth_eq _ range february] at last
    omega

theorem ofMarch_of_isValid {date : Date} (h : date.IsValid) :
    ofMarch date.marchYear date.dayOfMarchYear = date := by
  obtain ⟨index, -⟩ := monthIndex_eq h
  obtain ⟨year, month, day⟩ := date
  obtain ⟨⟨low, high⟩, -⟩ := h
  simp only [ofMarch, index, Date.mk.injEq]
  simp only [Date.dayOfMarchYear, Date.marchYear] at *
  refine ⟨?_, ?_, by omega⟩ <;> split_ifs <;> omega

/-- A day has the date that has its number. -/
theorem dateOf_dayNumber {date : Date} (h : date.IsValid) : dateOf (dayNumber date) = date := by
  obtain ⟨-, nonneg, inside⟩ := monthIndex_eq h
  have length := firstOfMarch_add_daysInYear date.marchYear
  have number := dayNumber_eq date
  have year : marchYear (dayNumber date) = date.marchYear :=
    marchYear_eq (by omega) (by omega)
  have day : dayNumber date - firstOfMarch date.marchYear = date.dayOfMarchYear := by omega
  rw [dateOf_eq, year, day, ofMarch_of_isValid h]

theorem isValid_dateOf (days : Int) : (dateOf days).IsValid ∧ dayNumber (dateOf days) = days := by
  obtain ⟨low, high⟩ := firstOfMarch_marchYear days
  have length := firstOfMarch_add_daysInYear (marchYear days)
  have bounds := (daysInYear_bounds (marchYear days + 1)).2
  have nonneg : 0 ≤ days - firstOfMarch (marchYear days) := by omega
  have inside : days - firstOfMarch (marchYear days) < daysInYear (marchYear days + 1) := by omega
  obtain ⟨year, day⟩ := dayOfMarchYear_ofMarch (marchYear days) nonneg (by omega)
  rw [dateOf_eq, dayNumber_eq, year, day]
  exact ⟨isValid_ofMarch _ nonneg inside, by omega⟩

/-- The year of an era that has a day, if no step goes beyond 64 bits. -/
def yearOfEra? (day : Int) : Option Int := do
  let long ← signed? ((← signed? (day - day / 1460)) + day / 36524)
  return (← signed? (long - day / 146096)) / 365

/-- The days from the first of March to a day of an era, in the year that has it. -/
def dayOfMarchYear? (day yearOfEra : Int) : Option Int := do
  let long ← signed? ((← signed? (365 * yearOfEra)) + yearOfEra / 4)
  signed? (day - (← signed? (long - yearOfEra / 100)))

/-- The date of a day of a year that starts in March. -/
def ofMarch? (year dayOfYear : Int) : Option Date := do
  let monthIndex := (← signed? ((← signed? (5 * dayOfYear)) + 2)) / 153
  let before := (← signed? ((← signed? (153 * monthIndex)) + 2)) / 5
  let day ← signed? ((← signed? (dayOfYear - before)) + 1)
  let month ← if monthIndex < 10 then signed? (monthIndex + 3) else signed? (monthIndex - 9)
  let year ← signed? (year + if month ≤ 2 then 1 else 0)
  return ⟨year, month, day⟩

def dateOf? (days : Int) : Option Date := do
  let shifted ← signed? (days + 719468)
  let era := shifted / 146097
  let dayOfEra ← signed? (shifted - (← signed? (era * 146097)))
  let yearOfEra ← yearOfEra? dayOfEra
  let dayOfYear ← dayOfMarchYear? dayOfEra yearOfEra
  ofMarch? (← signed? (yearOfEra + (← signed? (era * 400)))) dayOfYear

/-- The next step, behind one that stays inside. It is found before the steps that follow are
looked at, as their values are not known yet. -/
theorem signed?_bind {α : Type} {x : Int} (low : -2 ^ 63 ≤ x) (high : x < 2 ^ 63)
    (next : Int → Option α) : (signed? x).bind next = next x := by
  rw [signed?_eq low high, Option.bind_some]

theorem yearOfEra?_eq {day : Int} (inside : 0 ≤ day ∧ day < 146097) :
    yearOfEra? day = some (yearOfEra day) := by
  simp (disch := omega) only [yearOfEra?, yearOfEra, ↓Option.bind_eq_bind, ↓signed?_bind]
  rfl

theorem dayOfMarchYear?_eq {day yearOfEra : Int} (hd : 0 ≤ day ∧ day < 146097)
    (hy : 0 ≤ yearOfEra ∧ yearOfEra ≤ 399) :
    dayOfMarchYear? day yearOfEra =
      some (day - (365 * yearOfEra + yearOfEra / 4 - yearOfEra / 100)) := by
  simp (disch := omega) only [dayOfMarchYear?, ↓Option.bind_eq_bind, ↓signed?_bind, signed?_eq]

theorem ofMarch?_eq {year dayOfYear : Int} (hy : -2 ^ 40 ≤ year ∧ year ≤ 2 ^ 40)
    (hd : 0 ≤ dayOfYear ∧ dayOfYear < 366) :
    ofMarch? year dayOfYear = some (ofMarch year dayOfYear) := by
  simp (disch := omega) only [ofMarch?, ↓Option.bind_eq_bind, ↓signed?_bind]
  unfold ofMarch
  dsimp only
  by_cases early : (5 * dayOfYear + 2) / 153 < 10
  · rw [if_pos early, if_pos early]
    rfl
  · rw [if_neg early, if_neg early]
    rfl

/-- The days of the last few hundred million years, and of as many to come. -/
theorem dateOf?_eq {days : Int} (near : -2 ^ 40 ≤ days ∧ days ≤ 2 ^ 40) :
    dateOf? days = some (dateOf days) := by
  have era : -2 ^ 30 ≤ (days + 719468) / 146097 ∧ (days + 719468) / 146097 ≤ 2 ^ 30 := by omega
  obtain ⟨inEra, low, high⟩ :=
    @yearOfEra_spec (dayOfEra days) (by unfold dayOfEra; omega) (by unfold dayOfEra; omega)
  unfold dayOfEra at inEra low high
  simp (disch := omega) only [dateOf?, ↓Option.bind_eq_bind, ↓signed?_bind, yearOfEra?_eq,
    dayOfMarchYear?_eq, ofMarch?_eq, Option.bind_some]
  rfl

/-- Each day has one date in the calendar, from which its number is found again, and lies in the
year that the date tells. For the days that milliseconds of 64 bits reach, no step on the way to the
date, back to the day or to the new years around it goes beyond 64 bits. -/
theorem has_one_date (days : Int) :
    ((dateOf days).IsValid ∧ dayNumber (dateOf days) = days ∧
      ∀ date, date.IsValid → dayNumber date = days → date = dateOf days) ∧
    (newYear (dateOf days).year ≤ days ∧ days < newYear ((dateOf days).year + 1)) ∧
    (Int64.minValue.toInt / OrdinalDate.millisPerDay ≤ days →
      days ≤ Int64.maxValue.toInt / OrdinalDate.millisPerDay →
      dateOf? days = some (dateOf days) ∧ dayNumber? (dateOf days) = some days ∧
        dayNumber? ⟨(dateOf days).year, 1, 1⟩ = some (newYear (dateOf days).year) ∧
        dayNumber? ⟨(dateOf days).year + 1, 1, 1⟩ = some (newYear ((dateOf days).year + 1))) := by
  obtain ⟨valid, number⟩ := isValid_dateOf days
  obtain ⟨first, next⟩ := newYear_dateOf days
  refine ⟨⟨valid, number, ?_⟩, ⟨first, next⟩, fun notBefore notAfter => ?_⟩
  · rintro date exists_ rfl
    exact (dateOf_dayNumber exists_).symm
  have low : Int64.minValue.toInt / OrdinalDate.millisPerDay = -106751991168 := by decide
  have high : Int64.maxValue.toInt / OrdinalDate.millisPerDay = 106751991167 := by decide
  rw [low] at notBefore
  rw [high] at notAfter
  have year : -2 ^ 30 ≤ (dateOf days).year ∧ (dateOf days).year ≤ 2 ^ 30 := by
    rw [newYear_eq, firstOfMarch] at first next
    omega
  have short : daysInMonth (dateOf days).year (dateOf days).month ≤ 31 := by
    unfold daysInMonth
    split_ifs <;> omega
  refine ⟨dateOf?_eq (by omega), ?_, newYear?_eq (by omega), newYear?_eq (by omega)⟩
  rw [dayNumber?_eq (by omega) valid.month ⟨valid.day.1, valid.day.2.trans short⟩, number]

/-- The first of these days. -/
theorem has_one_date_first :
    Int64.minValue.toInt / OrdinalDate.millisPerDay = -106751991168 ∧
      (Date.mk (-292275055) 5 16).IsValid ∧
      dateOf? (-106751991168) = some ⟨-292275055, 5, 16⟩ ∧
      dayNumber? ⟨-292275055, 5, 16⟩ = some (-106751991168) ∧
      dayNumber? ⟨-292275055, 1, 1⟩ = some (newYear (-292275055)) ∧
      dayNumber? ⟨-292275055 + 1, 1, 1⟩ = some (newYear (-292275055 + 1)) := by
  have first : Int64.minValue.toInt / OrdinalDate.millisPerDay = -106751991168 := by decide
  have found : dateOf (-106751991168) = ⟨-292275055, 5, 16⟩ := by decide
  obtain ⟨⟨valid, -⟩, -, inBounds⟩ := has_one_date (-106751991168)
  have steps := inBounds first.le (by decide)
  rw [found] at valid steps
  exact ⟨first, valid, steps⟩

end Calendar

end ContinuousData
