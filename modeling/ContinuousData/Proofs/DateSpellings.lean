import ContinuousData.Proofs.OrdinalTexts
import Mathlib.Data.Nat.Digits.Defs

/-! Which texts are dates, and of which times. A text is a date if it has the right shape and the
calendar has such a day and the day such a time. Its time is counted out, year by year, from the
lengths of the years. There is one text for each of these times, and texts sort as times do. -/
namespace ContinuousData

namespace OrdinalDate

open Calendar

/-- A number in decimal digits, filled up with zeros to a width. -/
structure IsNumeral (width value : Nat) (cs : List Char) : Prop where
  length : cs.length = width
  digits : ∀ c ∈ cs, c.isDigit = true
  value : Nat.ofDigits 10 (cs.reverse.map fun c => c.toNat - '0'.toNat) = value

theorem digitChar_of_isDigit {c : Char} (digit : c.isDigit = true) :
    Nat.digitChar (c.toNat - 48) = c := by
  obtain ⟨low, high⟩ := toNat_of_isDigit digit
  rw [← Char.toNat_inj, Nat.toNat_digitChar_of_lt_ten (by omega)]
  omega

theorem isNumeral_concat {width value : Nat} {front : List Char} {last : Char} :
    IsNumeral (width + 1) value (front ++ [last]) ↔
      IsNumeral width (value / 10) front ∧ last.isDigit = true ∧ value % 10 = last.toNat - 48 := by
  constructor
  · rintro ⟨length, digits, rfl⟩
    have digit := digits last (by simp)
    have small := toNat_of_isDigit digit
    rw [List.reverse_concat, List.map_cons, Nat.ofDigits_cons]
    refine ⟨⟨?_, ?_, ?_⟩, digit, ?_⟩
    · simpa using length
    · exact fun c hc => digits c (List.mem_append_left _ hc)
    · change _ = (last.toNat - 48 + _) / 10
      omega
    · change (last.toNat - 48 + _) % 10 = _
      omega
  · rintro ⟨⟨length, digits, value⟩, digit, rest⟩
    refine ⟨?_, ?_, ?_⟩
    · simpa using length
    · simpa [or_imp, forall_and] using ⟨digits, digit⟩
    · rw [List.reverse_concat, List.map_cons, Nat.ofDigits_cons, value]
      change last.toNat - 48 + _ = _
      omega

/-- A number that fits into a width has exactly one numeral there. -/
theorem isNumeral_iff {width value : Nat} {cs : List Char} :
    IsNumeral width value cs ↔ value < 10 ^ width ∧ cs = digits width value := by
  induction width generalizing value cs with
  | zero =>
    constructor
    · rintro ⟨length, -, rfl⟩
      obtain rfl := List.length_eq_zero_iff.mp length
      exact ⟨Nat.one_pos, rfl⟩
    · rintro ⟨small, rfl⟩
      obtain rfl := Nat.lt_one_iff.mp small
      exact ⟨rfl, nofun, rfl⟩
  | succ width ih =>
    have high : value / 10 < 10 ^ width ↔ value < 10 ^ (width + 1) := by
      rw [Nat.div_lt_iff_lt_mul (by decide), Nat.pow_succ]
    have digit : value % 10 < 10 := Nat.mod_lt _ (by decide)
    constructor
    · intro numeral
      obtain ⟨front, last, rfl⟩ : ∃ front last, cs = front ++ [last] := by
        refine (List.eq_nil_or_concat' cs).resolve_left fun empty => ?_
        have length := numeral.length
        rw [empty] at length
        contradiction
      obtain ⟨others, known, rest⟩ := isNumeral_concat.mp numeral
      obtain ⟨small, rfl⟩ := ih.mp others
      rw [digits, rest, digitChar_of_isDigit known]
      exact ⟨high.mp small, rfl⟩
    · rintro ⟨small, rfl⟩
      refine isNumeral_concat.mpr ⟨ih.mpr ⟨high.mpr small, rfl⟩, ?_, ?_⟩
      · rw [Nat.isDigit_digitChar]
        exact decide_eq_true digit
      · rw [Nat.toNat_digitChar_of_lt_ten digit]
        omega

/-- The numbers of a date. -/
structure Fields where
  year : Nat
  day : Nat
  hour : Nat
  minute : Nat
  second : Nat
  millis : Nat
  deriving DecidableEq, Repr

namespace Fields

/-- The text has the shape of a date, with these numbers in it. -/
def IsSpelled (fields : Fields) (text : String) : Prop :=
  ∃ year day hour minute second millis,
    IsNumeral 4 fields.year year ∧ IsNumeral 3 fields.day day ∧ IsNumeral 2 fields.hour hour ∧
      IsNumeral 2 fields.minute minute ∧ IsNumeral 2 fields.second second ∧
      IsNumeral 3 fields.millis millis ∧
      text.toList = year ++ day ++ [' '] ++ hour ++ [':'] ++ minute ++ [':'] ++ second ++ ['.'] ++
        millis

/-- The year has such a day, and the day such a time. -/
structure IsPossible (fields : Fields) : Prop where
  day : 1 ≤ fields.day ∧ fields.day ≤ daysInYear fields.year
  hour : fields.hour < 24
  minute : fields.minute < 60
  second : fields.second < 60

/-- The days since 1970, counted year by year. -/
def dayNumber (fields : Fields) : Int :=
  daysBefore fields.year - daysBefore 1970 + (fields.day - 1)

def millisOfDay (fields : Fields) : Nat :=
  ((fields.hour * 60 + fields.minute) * 60 + fields.second) * 1000 + fields.millis

def time (fields : Fields) : Timestamp :=
  (fields.dayNumber * millisPerDay + fields.millisOfDay) * 1000000

def layout (fields : Fields) : List Char :=
  OrdinalDate.layout fields.year fields.day fields.hour fields.minute fields.second fields.millis

/-- The numbers fit into their places. -/
structure Fit (fields : Fields) : Prop where
  year : fields.year < 10000
  day : fields.day < 1000
  hour : fields.hour < 100
  minute : fields.minute < 100
  second : fields.second < 100
  millis : fields.millis < 1000

variable {fields : Fields} {text : String}

theorem isSpelled_iff :
    fields.IsSpelled text ↔ fields.Fit ∧ text = String.ofList fields.layout := by
  have same (cs : List Char) : text = String.ofList cs ↔ text.toList = cs :=
    ⟨fun h => by rw [h, String.toList_ofList], fun h => by rw [← h, String.ofList_toList]⟩
  rw [same]
  constructor
  · rintro ⟨_, _, _, _, _, _, hy, hd, hh, hm, hs, hf, spelled⟩
    obtain ⟨year, rfl⟩ := isNumeral_iff.mp hy
    obtain ⟨day, rfl⟩ := isNumeral_iff.mp hd
    obtain ⟨hour, rfl⟩ := isNumeral_iff.mp hh
    obtain ⟨minute, rfl⟩ := isNumeral_iff.mp hm
    obtain ⟨second, rfl⟩ := isNumeral_iff.mp hs
    obtain ⟨millis, rfl⟩ := isNumeral_iff.mp hf
    exact ⟨⟨year, day, hour, minute, second, millis⟩, spelled⟩
  · rintro ⟨⟨year, day, hour, minute, second, millis⟩, spelled⟩
    exact ⟨_, _, _, _, _, _, isNumeral_iff.mpr ⟨year, rfl⟩, isNumeral_iff.mpr ⟨day, rfl⟩,
      isNumeral_iff.mpr ⟨hour, rfl⟩, isNumeral_iff.mpr ⟨minute, rfl⟩,
      isNumeral_iff.mpr ⟨second, rfl⟩, isNumeral_iff.mpr ⟨millis, rfl⟩, spelled⟩

end Fields

/-- The character can stand at a place of the shape. -/
def CanStand (c place : Char) : Prop :=
  if place = 'd' then c.isDigit = true else c = place

theorem canStand_of_hasShape {cs : List Char} (shaped : hasShape cs = true) :
    List.Forall₂ CanStand cs shape := by
  simp only [hasShape, Bool.and_eq_true, beq_iff_eq, List.all_eq_true] at shaped
  refine List.forall₂_iff_zip.mpr ⟨shaped.1, fun {c place} member => ?_⟩
  have fits := shaped.2 (c, place) member
  unfold CanStand
  split at fits
  case isTrue digit => rwa [if_pos digit]
  case isFalse other => rwa [if_neg other, ← beq_iff_eq]

theorem split_of_canStand {cs front back : List Char}
    (h : List.Forall₂ CanStand cs (front ++ back)) :
    ∃ first others, List.Forall₂ CanStand first front ∧ List.Forall₂ CanStand others back ∧
      cs = first ++ others :=
  ⟨_, _, List.forall₂_take_append cs front back h, List.forall₂_drop_append cs front back h,
    (List.take_append_drop _ cs).symm⟩

theorem exists_isNumeral {width : Nat} {cs : List Char}
    (h : List.Forall₂ CanStand cs (List.replicate width 'd')) :
    ∃ value, IsNumeral width value cs := by
  have digits : ∀ c ∈ cs, c.isDigit = true := by
    induction width generalizing cs with
    | zero =>
      cases h
      exact nofun
    | succ width ih =>
      obtain ⟨c, others, digit, rest, rfl⟩ := List.forall₂_cons_right_iff.mp h
      exact List.forall_mem_cons.mpr ⟨digit, ih rest⟩
  exact ⟨_, h.length_eq.trans List.length_replicate, digits, rfl⟩

theorem eq_of_canStand {cs : List Char} {place : Char} (fixed : place ≠ 'd')
    (h : List.Forall₂ CanStand cs [place]) : cs = [place] := by
  obtain ⟨c, others, stands, rest, rfl⟩ := List.forall₂_cons_right_iff.mp h
  cases rest
  rw [CanStand, if_neg fixed] at stands
  rw [stands]

/-- Whatever has the shape of a date spells some numbers. -/
theorem exists_isSpelled {text : String} (shaped : hasShape text.toList = true) :
    ∃ fields : Fields, fields.IsSpelled text := by
  have places := canStand_of_hasShape shaped
  have parts : shape = List.replicate 4 'd' ++ (List.replicate 3 'd' ++ ([' '] ++
      (List.replicate 2 'd' ++ ([':'] ++ (List.replicate 2 'd' ++ ([':'] ++
        (List.replicate 2 'd' ++ (['.'] ++ List.replicate 3 'd')))))))) := by
    decide
  rw [parts] at places
  obtain ⟨_, _, years, afterYear, whole⟩ := split_of_canStand places
  obtain ⟨_, _, days, afterDay, rfl⟩ := split_of_canStand afterYear
  obtain ⟨_, _, space, afterSpace, rfl⟩ := split_of_canStand afterDay
  obtain ⟨_, _, hours, afterHour, rfl⟩ := split_of_canStand afterSpace
  obtain ⟨_, _, colon, afterColon, rfl⟩ := split_of_canStand afterHour
  obtain ⟨_, _, minutes, afterMinute, rfl⟩ := split_of_canStand afterColon
  obtain ⟨_, _, colon', afterColon', rfl⟩ := split_of_canStand afterMinute
  obtain ⟨_, _, seconds, afterSecond, rfl⟩ := split_of_canStand afterColon'
  obtain ⟨_, _, point, millis, rfl⟩ := split_of_canStand afterSecond
  obtain rfl := eq_of_canStand (by decide) space
  obtain rfl := eq_of_canStand (by decide) colon
  obtain rfl := eq_of_canStand (by decide) colon'
  obtain rfl := eq_of_canStand (by decide) point
  obtain ⟨year, hy⟩ := exists_isNumeral years
  obtain ⟨day, hd⟩ := exists_isNumeral days
  obtain ⟨hour, hh⟩ := exists_isNumeral hours
  obtain ⟨minute, hm⟩ := exists_isNumeral minutes
  obtain ⟨second, hs⟩ := exists_isNumeral seconds
  obtain ⟨milli, hf⟩ := exists_isNumeral millis
  refine ⟨⟨year, day, hour, minute, second, milli⟩, _, _, _, _, _, _, hy, hd, hh, hm, hs, hf, ?_⟩
  rw [whole]
  simp only [List.append_assoc]

namespace Fields

variable {fields early late : Fields} {text : String} {time : Timestamp}

theorem dayNumber_eq (fields : Fields) :
    fields.dayNumber = newYear fields.year + (fields.day - 1) := by
  rw [dayNumber, newYear_eq_daysBefore]

/-- A spelling is read as a time exactly when its numbers are possible. -/
theorem parse_layout_eq_ok (fit : fields.Fit) :
    parse (String.ofList fields.layout) = .ok time ↔ fields.IsPossible ∧ fields.time = time := by
  obtain ⟨atYear, atDay, atHour, atMinute, atSecond, atMillis⟩ := fields_layout fields.year
    fields.day fields.hour fields.minute fields.second fields.millis fit.year fit.day fit.hour
    fit.minute fit.second fit.millis
  have value : ((newYear fields.year + fields.day - 1) * millisPerDay +
      (((fields.hour * 60 + fields.minute) * 60 + fields.second) * 1000 + fields.millis : Nat)) *
        1000000 = fields.time := by
    rw [Fields.time, dayNumber_eq, ← Int.add_sub_assoc]
    rfl
  unfold parse
  dsimp only
  simp only [require_eq_ok, refuse_eq_ok, pure_eq_ok, String.toList_ofList, layout, atYear, atDay,
    atHour, atMinute, atSecond, atMillis, hasShape_layout, true_and]
  rw [value, ← and_assoc]
  refine and_congr_left fun _ => ⟨fun ⟨day, rest⟩ => ?_, fun possible => ?_⟩
  · constructor <;> omega
  · obtain ⟨day, hour, minute, second⟩ := possible
    omega

/-- A text is read as a time exactly when it spells the numbers of that time. -/
theorem parse_eq_ok :
    parse text = .ok time ↔
      ∃ fields : Fields, fields.IsSpelled text ∧ fields.IsPossible ∧ fields.time = time := by
  constructor
  · intro h
    have shaped : hasShape text.toList = true := by
      unfold parse at h
      dsimp only at h
      exact (require_eq_ok.mp h).1
    obtain ⟨fields, spelled⟩ := exists_isSpelled shaped
    obtain ⟨fit, rfl⟩ := isSpelled_iff.mp spelled
    exact ⟨fields, spelled, (parse_layout_eq_ok fit).mp h⟩
  · rintro ⟨fields, spelled, possible⟩
    obtain ⟨fit, rfl⟩ := isSpelled_iff.mp spelled
    exact (parse_layout_eq_ok fit).mpr possible

theorem IsPossible.dayNumber_mem (possible : fields.IsPossible) :
    newYear fields.year ≤ fields.dayNumber ∧ fields.dayNumber < newYear (fields.year + 1) := by
  have day := possible.day
  rw [dayNumber_eq, newYear_succ]
  omega

theorem IsPossible.millisOfDay_lt (possible : fields.IsPossible) (fit : fields.Fit) :
    (fields.millisOfDay : Int) < millisPerDay := by
  obtain ⟨-, hour, minute, second⟩ := possible
  have millis := fit.millis
  unfold millisOfDay millisPerDay
  omega

theorem isExact_time (fit : fields.Fit) (possible : fields.IsPossible) :
    IsExact fields.time := by
  obtain ⟨first, next⟩ := possible.dayNumber_mem
  have rest := possible.millisOfDay_lt fit
  have year := fit.year
  have notBefore : newYear 0 ≤ newYear fields.year := newYear_le_iff.mpr (by omega)
  have notAfter : newYear (fields.year + 1) ≤ newYear 10000 := newYear_le_iff.mpr (by omega)
  unfold IsExact Fields.time
  unfold millisPerDay at *
  omega

theorem layoutOf_time (fit : fields.Fit) (possible : fields.IsPossible) :
    layoutOf (fields.dayNumber * millisPerDay + fields.millisOfDay) = fields.layout := by
  obtain ⟨first, next⟩ := possible.dayNumber_mem
  have rest := possible.millisOfDay_lt fit
  have whole : (fields.dayNumber * millisPerDay + fields.millisOfDay) / millisPerDay =
      fields.dayNumber := by
    unfold millisPerDay at *
    omega
  have left : (fields.dayNumber * millisPerDay + fields.millisOfDay) % millisPerDay =
      fields.millisOfDay := by
    unfold millisPerDay at *
    omega
  obtain ⟨day, hour, minute, second⟩ := possible
  have millis := fit.millis
  unfold layoutOf layout
  dsimp only
  rw [whole, left, year_dateOf_eq first next, dayNumber_eq, Int.toNat_natCast, Int.toNat_natCast]
  unfold millisOfDay
  congr 1 <;> omega

/-- The time of a date is written as the date is spelled. -/
theorem format_time (fit : fields.Fit) (possible : fields.IsPossible) :
    format fields.time = .ok (String.ofList fields.layout) := by
  have exact := isExact_time fit possible
  have millis : (Timestamp.millis fields.time).toInt =
      fields.dayNumber * millisPerDay + fields.millisOfDay := by
    have whole := (millis_of_isExact exact).1
    conv_rhs at whole => rw [Fields.time]
    omega
  rw [format_of_isExact exact, millis, layoutOf_time fit possible]

/-- The first number in which two dates differ is less in the first of them. -/
def Precedes (early late : Fields) : Prop :=
  early.year < late.year ∨ early.year = late.year ∧
    (early.day < late.day ∨ early.day = late.day ∧
      (early.hour < late.hour ∨ early.hour = late.hour ∧
        (early.minute < late.minute ∨ early.minute = late.minute ∧
          (early.second < late.second ∨ early.second = late.second ∧
            early.millis < late.millis))))

theorem precedes_of_time_lt (possible : early.IsPossible) (possible' : late.IsPossible)
    (fit : late.Fit) (h : early.time < late.time) : early.Precedes late := by
  have order : early.dayNumber * millisPerDay + early.millisOfDay <
      late.dayNumber * millisPerDay + late.millisOfDay :=
    lt_of_mul_lt_mul_right h (by decide)
  unfold millisPerDay at order
  rcases Nat.lt_trichotomy early.year late.year with before | same | after
  · exact .inl before
  · refine .inr ⟨same, ?_⟩
    rw [dayNumber_eq, dayNumber_eq, same] at order
    unfold millisOfDay at order
    obtain ⟨-, hour, minute, second⟩ := possible
    obtain ⟨-, hour', minute', second'⟩ := possible'
    have millis := fit.millis
    omega
  · -- A later year starts after all of the days of an earlier one.
    have next : newYear (late.year + 1) ≤ newYear early.year := newYear_le_iff.mpr (by omega)
    have ended := possible'.dayNumber_mem.2
    have begun := possible.dayNumber_mem.1
    have rest := possible'.millisOfDay_lt fit
    unfold millisPerDay at rest
    omega

end Fields

theorem encodeChar_digitChar {digit : Nat} (h : digit < 10) :
    String.utf8EncodeChar (Nat.digitChar digit) = [UInt8.ofNat (48 + digit)] := by
  have value : (Nat.digitChar digit).val.toNat = 48 + digit := Nat.toNat_digitChar_of_lt_ten h
  have one : String.utf8EncodeChar (Nat.digitChar digit) =
      [UInt8.ofNat (Nat.digitChar digit).val.toNat] :=
    if_pos (by rw [value]; omega)
  rw [one, value]

theorem length_encode_digits (width value : Nat) :
    ((digits width value).flatMap String.utf8EncodeChar).length = width := by
  induction width generalizing value with
  | zero => rfl
  | succ width ih =>
    rw [digits, List.flatMap_append, List.length_append, ih, List.flatMap_singleton,
      encodeChar_digitChar (Nat.mod_lt _ (by decide)), List.length_singleton]

/-- What follows does not matter to bytes that differ already. -/
theorem append_lt_append {front front' : Bytes} (h : front < front')
    (same : front.length = front'.length) (back back' : Bytes) :
    front ++ back < front' ++ back' := by
  induction front generalizing front' with
  | nil =>
    cases front' with
    | nil => exact absurd h (List.lt_irrefl [])
    | cons byte front' => contradiction
  | cons byte front ih =>
    cases front' with
    | nil => contradiction
    | cons byte' front' =>
      rw [List.cons_append, List.cons_append, List.cons_lt_cons_iff]
      rcases List.cons_lt_cons_iff.mp h with less | ⟨equal, less⟩
      · exact .inl less
      · exact .inr ⟨equal, ih less (Nat.succ.inj same)⟩

theorem encode_digits_lt {width value value' : Nat} (less : value < value')
    (fits : value' < 10 ^ width) :
    (digits width value).flatMap String.utf8EncodeChar <
      (digits width value').flatMap String.utf8EncodeChar := by
  induction width generalizing value value' with
  | zero =>
    rw [Nat.pow_zero] at fits
    omega
  | succ width ih =>
    have digit (n : Nat) : n % 10 < 10 := Nat.mod_lt n (by decide)
    rw [digits, digits, List.flatMap_append, List.flatMap_append, List.flatMap_singleton,
      List.flatMap_singleton, encodeChar_digitChar (digit value),
      encodeChar_digitChar (digit value')]
    rcases Nat.lt_or_ge (value / 10) (value' / 10) with high | same
    · apply append_lt_append (ih high ?_)
      · rw [length_encode_digits, length_encode_digits]
      · rwa [Nat.div_lt_iff_lt_mul (by decide), ← Nat.pow_succ]
    · obtain high : value / 10 = value' / 10 := by omega
      rw [high]
      apply List.append_left_lt
      refine List.cons_lt_cons_iff.mpr (.inl ?_)
      rw [UInt8.lt_iff_toNat_lt, UInt8.toNat_ofNat', UInt8.toNat_ofNat']
      omega

/-- Numerals of one width, with something behind them, sort as numbers do. -/
theorem encode_digits_append_lt {width value value' : Nat} (fits : value' < 10 ^ width)
    {back back' : Bytes} (h : value < value' ∨ value = value' ∧ back < back') :
    (digits width value).flatMap String.utf8EncodeChar ++ back <
      (digits width value').flatMap String.utf8EncodeChar ++ back' := by
  rcases h with less | ⟨rfl, less⟩
  · apply append_lt_append (encode_digits_lt less fits)
    rw [length_encode_digits, length_encode_digits]
  · exact List.append_left_lt less

theorem Fields.Precedes.encode_lt {early late : Fields} (h : early.Precedes late)
    (fit : late.Fit) :
    Text.encode (String.ofList early.layout) < Text.encode (String.ofList late.layout) := by
  unfold Text.encode layout OrdinalDate.layout
  simp only [String.toList_ofList, List.append_assoc, List.flatMap_append]
  refine encode_digits_append_lt fit.year (h.imp_right fun ⟨same, h⟩ => ⟨same, ?_⟩)
  refine encode_digits_append_lt fit.day (h.imp_right fun ⟨same, h⟩ => ⟨same, ?_⟩)
  apply List.append_left_lt
  refine encode_digits_append_lt fit.hour (h.imp_right fun ⟨same, h⟩ => ⟨same, ?_⟩)
  apply List.append_left_lt
  refine encode_digits_append_lt fit.minute (h.imp_right fun ⟨same, h⟩ => ⟨same, ?_⟩)
  apply List.append_left_lt
  refine encode_digits_append_lt fit.second (h.imp_right fun ⟨same, h⟩ => ⟨same, ?_⟩)
  apply List.append_left_lt
  exact encode_digits_lt h fit.millis

section Texts

variable {first second : String} {time time' : Timestamp}

theorem format_of_parse (h : parse first = .ok time) : format time = .ok first := by
  obtain ⟨fields, spelled, possible, rfl⟩ := Fields.parse_eq_ok.mp h
  obtain ⟨fit, rfl⟩ := Fields.isSpelled_iff.mp spelled
  exact Fields.format_time fit possible

theorem isExact_of_parse (h : parse first = .ok time) : IsExact time := by
  obtain ⟨fields, spelled, possible, rfl⟩ := Fields.parse_eq_ok.mp h
  exact Fields.isExact_time (Fields.isSpelled_iff.mp spelled).1 possible

theorem eq_of_parse (h : parse first = .ok time) (h' : parse second = .ok time) :
    first = second :=
  Except.ok.inj ((format_of_parse h).symm.trans (format_of_parse h'))

theorem encode_lt_of_lt (h : parse first = .ok time) (h' : parse second = .ok time')
    (earlier : time < time') : Text.encode first < Text.encode second := by
  obtain ⟨fields, spelled, possible, rfl⟩ := Fields.parse_eq_ok.mp h
  obtain ⟨fields', spelled', possible', rfl⟩ := Fields.parse_eq_ok.mp h'
  obtain ⟨-, rfl⟩ := Fields.isSpelled_iff.mp spelled
  obtain ⟨fit, rfl⟩ := Fields.isSpelled_iff.mp spelled'
  exact (Fields.precedes_of_time_lt possible possible' fit earlier).encode_lt fit

end Texts

/-- The texts that are read are the spellings of possible dates, and they are read as the times that
are counted out for these. Such a time is written as the text from which it was read, and texts sort
byte by byte as their times do, of which no two are the same. -/
theorem parse_spellings :
    (∀ text time, parse text = .ok time ↔
      ∃ fields : Fields, fields.IsSpelled text ∧ fields.IsPossible ∧ fields.time = time) ∧
    (∀ text time, parse text = .ok time → format time = .ok text) ∧
    ∀ first second time time', parse first = .ok time → parse second = .ok time' →
      (Text.encode first < Text.encode second ↔ time < time') ∧
      (time = time' → first = second) := by
  refine ⟨fun text time => Fields.parse_eq_ok, fun text time => format_of_parse, ?_⟩
  intro first second time time' h h'
  refine ⟨⟨fun sorted => ?_, encode_lt_of_lt h h'⟩, fun same => eq_of_parse h (same ▸ h')⟩
  rcases lt_trichotomy time time' with earlier | same | later
  · exact earlier
  · rw [eq_of_parse h (same ▸ h')] at sorted
    exact absurd sorted (List.lt_irrefl _)
  · exact absurd (encode_lt_of_lt h' h later) (List.lt_asymm sorted)

example : parse "2020060 12:30:15.250" = .ok 1582979415250000000 := by rfl

end OrdinalDate

end ContinuousData
