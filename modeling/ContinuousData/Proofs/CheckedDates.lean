import ContinuousData.Proofs.StreamConservation
import ContinuousData.Proofs.DateSpellings

/-! Dates are read in 64 bits. No step on the way from the digits of a date to its milliseconds
leaves the signed numbers of 64 bits, and no digit is looked for behind the end of the text. -/
namespace ContinuousData

/-- A number that fits into 64 bits, one of which is for the sign. -/
def signed? (value : Int) : Option Int :=
  if -2 ^ 63 ≤ value ∧ value < 2 ^ 63 then some value else none

theorem signed?_eq {value : Int} (low : -2 ^ 63 ≤ value) (high : value < 2 ^ 63) :
    signed? value = some value :=
  if_pos ⟨low, high⟩

namespace Calendar

/-- The days from the first of March to a day of some month. Dividing by a constant makes nothing
larger. -/
def dayOfYear? (month day : Int) : Option Int := do
  let scaled ← signed? (153 * ((← signed? (month + 9)) % 12))
  signed? ((← signed? ((← signed? (scaled + 2)) / 5 + day)) - 1)

def dayOfEra? (yearOfEra dayOfYear : Int) : Option Int := do
  let withLeapDays ← signed? ((← signed? (yearOfEra * 365)) + yearOfEra / 4)
  signed? ((← signed? (withLeapDays - yearOfEra / 100)) + dayOfYear)

/-- The number of a day of a year that starts in March. -/
def dayNumberOf? (year dayOfYear : Int) : Option Int := do
  let era := year / 400
  let yearOfEra ← signed? (year - (← signed? (era * 400)))
  let days ← signed? ((← signed? (era * 146097)) + (← dayOfEra? yearOfEra dayOfYear))
  signed? (days - 719468)

def dayNumber? (date : Date) : Option Int := do
  let dayOfYear ← dayOfYear? date.month date.day
  if date.month ≤ 2 then dayNumberOf? (← signed? (date.year - 1)) dayOfYear
  else dayNumberOf? date.year dayOfYear

theorem dayOfYear?_eq {month day : Int} (hd : 1 ≤ day ∧ day ≤ 31) (hm : 1 ≤ month ∧ month ≤ 12) :
    dayOfYear? month day = some ((153 * ((month + 9) % 12) + 2) / 5 + day - 1) := by
  have index : 0 ≤ (month + 9) % 12 ∧ (month + 9) % 12 < 12 := by omega
  simp (disch := omega) only [dayOfYear?, signed?_eq, Option.bind_eq_bind, Option.bind_some]

theorem dayOfEra?_eq {yearOfEra dayOfYear : Int} (hy : 0 ≤ yearOfEra ∧ yearOfEra < 400)
    (hd : 0 ≤ dayOfYear ∧ dayOfYear ≤ 367) :
    dayOfEra? yearOfEra dayOfYear =
      some (yearOfEra * 365 + yearOfEra / 4 - yearOfEra / 100 + dayOfYear) := by
  simp (disch := omega) only [dayOfEra?, signed?_eq, Option.bind_eq_bind, Option.bind_some]

theorem dayNumberOf?_eq {year dayOfYear : Int} (hy : -2 ^ 40 ≤ year ∧ year ≤ 2 ^ 40)
    (hd : 0 ≤ dayOfYear ∧ dayOfYear ≤ 367) :
    dayNumberOf? year dayOfYear =
      some (year / 400 * 146097 + ((year - year / 400 * 400) * 365 +
        (year - year / 400 * 400) / 4 - (year - year / 400 * 400) / 100 + dayOfYear) - 719468) := by
  have era : -2 ^ 32 ≤ year / 400 ∧ year / 400 ≤ 2 ^ 32 := by omega
  have inEra : 0 ≤ year - year / 400 * 400 ∧ year - year / 400 * 400 < 400 := by omega
  simp (disch := omega) only [dayNumberOf?, signed?_eq, dayOfEra?_eq inEra hd, Option.bind_eq_bind,
    Option.bind_some]

/-- Only very distant years are beyond 64 bits. -/
theorem dayNumber?_eq {date : Date} (year : -2 ^ 40 < date.year ∧ date.year ≤ 2 ^ 40)
    (month : 1 ≤ date.month ∧ date.month ≤ 12) (day : 1 ≤ date.day ∧ date.day ≤ 31) :
    dayNumber? date = some (dayNumber date) := by
  unfold dayNumber? dayNumber
  rw [dayOfYear?_eq day month, Option.bind_eq_bind, Option.bind_some]
  dsimp only
  have inYear : 0 ≤ (153 * ((date.month + 9) % 12) + 2) / 5 + date.day - 1 ∧
      (153 * ((date.month + 9) % 12) + 2) / 5 + date.day - 1 ≤ 367 := by
    omega
  split_ifs
  · rw [signed?_eq (by omega) (by omega), Option.bind_some, dayNumberOf?_eq (by omega) inYear]
  · rw [dayNumberOf?_eq (by omega) inYear]

theorem newYear?_eq {year : Int} (near : -2 ^ 40 < year ∧ year ≤ 2 ^ 40) :
    dayNumber? ⟨year, 1, 1⟩ = some (newYear year) := by
  have first : (1 : Int) ≤ 1 ∧ (1 : Int) ≤ 12 ∧ (1 : Int) ≤ 31 := by decide
  exact dayNumber?_eq near ⟨first.1, first.2.1⟩ ⟨first.1, first.2.2⟩

end Calendar

namespace OrdinalDate

open Calendar Splitter

/-- One more digit of a number. -/
def digit? (value : Int) (c : Char) : Option Int := do
  let digit ← difference? c.toNat 48
  signed? ((← signed? (value * 10)) + digit)

/-- The value of the digits in the places from `first` up to `last`, if the text has them. -/
def field? (cs : List Char) (first last : Nat) : Option Int :=
  if first ≤ last ∧ last ≤ cs.length then ((cs.drop first).take (last - first)).foldlM digit? 0
  else none

/-- The milliseconds since 1970 at a time of a day. -/
def millis? (days hour minute second millis : Int) : Option Int := do
  let minutes ← signed? ((← signed? (hour * 60)) + minute)
  let seconds ← signed? ((← signed? (minutes * 60)) + second)
  let whole ← signed? ((← signed? (days * millisPerDay)) + (← signed? (seconds * 1000)))
  signed? (whole + millis)

def parse? (text : String) : Option (Except Error Timestamp) :=
  let cs := text.toList
  if ¬ hasShape cs then some (.error (.notADate text))
  else do
    let year ← field? cs 0 4
    let day ← field? cs 4 7
    let hour ← field? cs 8 10
    let minute ← field? cs 11 13
    let second ← field? cs 14 16
    let millis ← field? cs 17 20
    if day < 1 ∨ daysInYear year < day then return .error (.dayOutOfRange day.toNat text)
    if 23 < hour ∨ 59 < minute ∨ 59 < second then return .error (.timeOutOfRange text)
    let days ← signed? ((← signed? ((← dayNumber? ⟨year, 1, 1⟩) + day)) - 1)
    return .ok ((← millis? days hour minute second millis) * 1000000)

theorem foldlM_digit? {cs : List Char} {value width : Nat} (digits : ∀ c ∈ cs, c.isDigit = true)
    (small : value < 10 ^ width) (short : width + cs.length ≤ 18) :
    cs.foldlM digit? (value : Int) =
      some ((cs.foldl (fun value c => value * 10 + (c.toNat - 48)) value : Nat) : Int) := by
  induction cs generalizing value width with
  | nil => rfl
  | cons c cs ih =>
    obtain ⟨first, others⟩ := List.forall_mem_cons.mp digits
    obtain ⟨low, high⟩ := toNat_of_isDigit first
    have more : value * 10 + (c.toNat - 48) < 10 ^ (width + 1) := by
      rw [Nat.pow_succ]
      omega
    have fits : 10 ^ (width + 1) ≤ 10 ^ 18 := by
      rw [List.length_cons] at short
      exact Nat.pow_le_pow_right (by decide) (by omega)
    have step : digit? value c = some ((value * 10 + (c.toNat - 48) : Nat) : Int) := by
      have digit : difference? c.toNat 48 = some (c.toNat - 48) := if_pos low
      rw [digit?, digit, Option.bind_eq_bind, Option.bind_some, signed?_eq (by omega) (by omega),
        Option.bind_eq_bind, Option.bind_some, signed?_eq (by omega) (by omega)]
      push_cast
      rfl
    rw [List.foldlM_cons, step, Option.bind_eq_bind, Option.bind_some, List.foldl_cons]
    exact ih others more (by rw [List.length_cons] at short; omega)

theorem field?_eq {cs : List Char} {first last : Nat} (forward : first ≤ last)
    (inside : last ≤ cs.length) (short : last - first ≤ 18)
    (digits : ∀ c ∈ (cs.drop first).take (last - first), c.isDigit = true) :
    field? cs first last = some (field cs first last : Int) := by
  rw [field?, if_pos ⟨forward, inside⟩]
  exact @foldlM_digit? _ 0 0 digits (by decide) (by rw [List.length_take]; omega)

theorem millis?_eq {days hour minute second millis : Int} (hdays : -2 ^ 32 ≤ days ∧ days ≤ 2 ^ 32)
    (hhour : 0 ≤ hour ∧ hour < 24) (hminute : 0 ≤ minute ∧ minute < 60)
    (hsecond : 0 ≤ second ∧ second < 60) (hmillis : 0 ≤ millis ∧ millis < 1000) :
    millis? days hour minute second millis =
      some (days * millisPerDay + (((hour * 60 + minute) * 60 + second) * 1000 + millis)) := by
  simp (disch := omega) only [millis?, millisPerDay, signed?_eq, Option.bind_eq_bind,
    Option.bind_some, Int.add_assoc]

/-- The numbers of a date are found in its text. -/
theorem fields?_layout {fields : Fields} (fit : fields.Fit) :
    field? fields.layout 0 4 = some (fields.year : Int) ∧
      field? fields.layout 4 7 = some (fields.day : Int) ∧
      field? fields.layout 8 10 = some (fields.hour : Int) ∧
      field? fields.layout 11 13 = some (fields.minute : Int) ∧
      field? fields.layout 14 16 = some (fields.second : Int) ∧
      field? fields.layout 17 20 = some (fields.millis : Int) := by
  obtain ⟨year, day, hour, minute, second, millis⟩ := fields_layout fields.year fields.day
    fields.hour fields.minute fields.second fields.millis fit.year fit.day fit.hour fit.minute
    fit.second fit.millis
  have digit (n : Nat) : n % 10 < 10 := Nat.mod_lt n (by decide)
  have found {first last value : Nat} (at_ : field fields.layout first last = value)
      (forward : first ≤ last) (inside : last ≤ 20) (short : last - first ≤ 18)
      (digits : ∀ c ∈ (fields.layout.drop first).take (last - first), c.isDigit = true) :
      field? fields.layout first last = some (value : Int) := by
    have length : fields.layout.length = 20 := by rw [Fields.layout, layout_eq]; rfl
    rw [field?_eq forward (length ▸ inside) short digits, at_]
  refine ⟨found year ?_ ?_ ?_ ?_, found day ?_ ?_ ?_ ?_, found hour ?_ ?_ ?_ ?_,
    found minute ?_ ?_ ?_ ?_, found second ?_ ?_ ?_ ?_, found millis ?_ ?_ ?_ ?_⟩
  all_goals
    first
      | decide
      | simp [Fields.layout, layout_eq, digit]

theorem newYear_mem {year : Nat} (small : year < 10000) :
    -719528 ≤ newYear year ∧ newYear year ≤ 2932897 := by
  have first : newYear 0 = -719528 := by decide
  have last : newYear 10000 = 2932897 := by decide
  rw [← first, ← last, newYear_le_iff, newYear_le_iff]
  omega

theorem parse?_layout {fields : Fields} (fit : fields.Fit) :
    parse? (String.ofList fields.layout) = some (parse (String.ofList fields.layout)) := by
  obtain ⟨atYear, atDay, atHour, atMinute, atSecond, atMillis⟩ := fields_layout fields.year
    fields.day fields.hour fields.minute fields.second fields.millis fit.year fit.day fit.hour
    fit.minute fit.second fit.millis
  obtain ⟨year, day, hour, minute, second, millis⟩ := fields?_layout fit
  have shaped : hasShape fields.layout = true := hasShape_layout _ _ _ _ _ _
  rw [← Fields.layout] at atYear atDay atHour atMinute atSecond atMillis
  have years := fit.year
  have fraction := fit.millis
  unfold parse? parse
  dsimp only
  rw [String.toList_ofList, if_neg (not_not.mpr shaped), if_pos shaped, year, day, hour, minute,
    second, millis, atYear, atDay, atHour, atMinute, atSecond, atMillis]
  simp only [Option.bind_eq_bind, Option.bind_some]
  obtain ⟨notBefore, notAfter⟩ := newYear_mem years
  by_cases dayInside : fields.day < 1 ∨ daysInYear fields.year < fields.day
  · rw [if_pos dayInside, if_pos (by omega)]
    rfl
  have length := daysInYear_bounds fields.year
  rw [if_neg dayInside, if_neg (by omega)]
  by_cases timeInside : 23 < fields.hour ∨ 59 < fields.minute ∨ 59 < fields.second
  · rw [if_pos timeInside, if_pos (by omega)]
    rfl
  rw [if_neg timeInside, if_neg (by omega), newYear?_eq (by omega), Option.bind_some,
    signed?_eq (by omega) (by omega), Option.bind_some, signed?_eq (by omega) (by omega),
    Option.bind_some, millis?_eq (by omega) (by omega) (by omega) (by omega) (by omega)]
  rfl

/-- No step of reading a date goes beyond 64 bits or behind the end of the text. -/
theorem parse?_eq (text : String) : parse? text = some (parse text) := by
  by_cases shaped : hasShape text.toList = true
  · obtain ⟨fields, spelled⟩ := exists_isSpelled shaped
    obtain ⟨fit, rfl⟩ := Fields.isSpelled_iff.mp spelled
    exact parse?_layout fit
  · unfold parse? parse
    dsimp only
    rw [if_pos shaped, if_neg shaped]
    rfl

end OrdinalDate

end ContinuousData
