import ContinuousData.Date.Ordinal
import ContinuousData.Proofs.CalendarYears
import ContinuousData.Proofs.PlainText
import ContinuousData.Proofs.Results
import Mathlib.Tactic.Lift

/-! The written form of dates and its way back: a time in the years that have four digits is written
in twenty characters, and they are read as this time without what is below a millisecond. -/
namespace ContinuousData

namespace OrdinalDate

open Calendar

/-- The characters of a date, field by field. -/
def layout (year day hour minute second millis : Nat) : List Char :=
  digits 4 year ++ digits 3 day ++ [' '] ++ digits 2 hour ++ [':'] ++ digits 2 minute ++ [':'] ++
    digits 2 second ++ ['.'] ++ digits 3 millis

theorem toNat_of_isDigit {c : Char} (digit : c.isDigit = true) : 48 ≤ c.toNat ∧ c.toNat ≤ 57 := by
  simp only [Char.isDigit, Bool.and_eq_true, decide_eq_true_eq, ge_iff_le,
    UInt32.le_iff_toNat_le] at digit
  exact digit

theorem isDigit_of_mem_digits {c : Char} {count value : Nat} (h : c ∈ digits count value) :
    c.isDigit = true := by
  induction count generalizing value with
  | zero => simp [digits] at h
  | succ count ih =>
    rcases List.mem_append.mp h with h | h
    · exact ih h
    · rw [List.mem_singleton.mp h, Nat.isDigit_digitChar]
      exact decide_eq_true (Nat.mod_lt _ (by decide))

section Layout

variable (year day hour minute second millis : Nat)

theorem layout_eq :
    layout year day hour minute second millis =
      [Nat.digitChar (year / 1000 % 10), Nat.digitChar (year / 100 % 10),
        Nat.digitChar (year / 10 % 10), Nat.digitChar (year % 10), Nat.digitChar (day / 100 % 10),
        Nat.digitChar (day / 10 % 10), Nat.digitChar (day % 10), ' ',
        Nat.digitChar (hour / 10 % 10), Nat.digitChar (hour % 10), ':',
        Nat.digitChar (minute / 10 % 10), Nat.digitChar (minute % 10), ':',
        Nat.digitChar (second / 10 % 10), Nat.digitChar (second % 10), '.',
        Nat.digitChar (millis / 100 % 10), Nat.digitChar (millis / 10 % 10),
        Nat.digitChar (millis % 10)] := by
  simp [layout, digits, Nat.div_div_eq_div_mul]

theorem value_digitChar_mod (n : Nat) : (Nat.digitChar (n % 10)).toNat - 48 = n % 10 :=
  Nat.toNat_digitChar_sub_48_of_lt_ten (Nat.mod_lt _ (by decide))

theorem shape_eq :
    shape = ['d', 'd', 'd', 'd', 'd', 'd', 'd', ' ', 'd', 'd', ':', 'd', 'd', ':', 'd', 'd', '.',
      'd', 'd', 'd'] := by
  decide

theorem hasShape_layout : hasShape (layout year day hour minute second millis) = true := by
  have digit : ∀ n, n % 10 < 10 := fun n => Nat.mod_lt n (by decide)
  simp [hasShape, layout_eq, shape_eq, digit]

/-- Each field is found where it was laid out. -/
theorem fields_layout (hyear : year < 10000) (hday : day < 1000) (hhour : hour < 100)
    (hminute : minute < 100) (hsecond : second < 100) (hmillis : millis < 1000) :
    field (layout year day hour minute second millis) 0 4 = year ∧
      field (layout year day hour minute second millis) 4 7 = day ∧
      field (layout year day hour minute second millis) 8 10 = hour ∧
      field (layout year day hour minute second millis) 11 13 = minute ∧
      field (layout year day hour minute second millis) 14 16 = second ∧
      field (layout year day hour minute second millis) 17 20 = millis := by
  simp [field, layout_eq, value_digitChar_mod]
  omega

theorem mem_layout {c : Char} (h : c ∈ layout year day hour minute second millis) :
    c.isDigit = true ∨ c = ' ' ∨ c = ':' ∨ c = '.' := by
  simp only [layout, List.mem_append, List.mem_singleton] at h
  rcases h with (((((((((h | h) | h) | h) | h) | h) | h) | h) | h) | h) <;>
    first
      | exact .inl (isDigit_of_mem_digits h)
      | simp [h]

end Layout

theorem toNat_of_mem_layout {year day hour minute second millis : Nat} {c : Char}
    (h : c ∈ layout year day hour minute second millis) : 32 ≤ c.toNat ∧ c.toNat < 128 := by
  rcases mem_layout _ _ _ _ _ _ h with digit | rfl | rfl | rfl
  · obtain ⟨low, high⟩ := toNat_of_isDigit digit
    omega
  all_goals decide

theorem isBlank_digitChar_mod (n : Nat) : Text.isBlank (Nat.digitChar (n % 10)) = false := by
  have small : n % 10 < 10 := Nat.mod_lt n (by decide)
  have value := Nat.toNat_digitChar_of_lt_ten small
  simp only [Text.isBlank, value, Bool.or_eq_false_iff, Bool.and_eq_false_iff,
    decide_eq_false_iff_not, beq_eq_false_iff_ne]
  omega

theorem parse_layout {year day hour minute second millis : Nat} (hyear : year < 10000)
    (hday : 1 ≤ day ∧ day ≤ daysInYear year) (hhour : hour < 24) (hminute : minute < 60)
    (hsecond : second < 60) (hmillis : millis < 1000) :
    parse (String.ofList (layout year day hour minute second millis)) =
      .ok (((newYear year + day - 1) * millisPerDay +
        (((hour * 60 + minute) * 60 + second) * 1000 + millis : Nat)) * 1000000) := by
  have length := daysInYear_bounds year
  have dayInside : ¬ (day < 1 ∨ daysInYear year < day) := by omega
  have timeInside : ¬ (23 < hour ∨ 59 < minute ∨ 59 < second) := by omega
  obtain ⟨atYear, atDay, atHour, atMinute, atSecond, atMillis⟩ :=
    fields_layout year day hour minute second millis hyear (by omega) (by omega) (by omega)
      (by omega) hmillis
  simp only [parse, String.toList_ofList, hasShape_layout, atYear, atDay, atHour, atMinute,
    atSecond, atMillis, if_neg dayInside, if_neg timeInside]
  rfl

/-- The fields of a time that is given in milliseconds. -/
def layoutOf (millis : Int) : List Char :=
  let days := millis / millisPerDay
  let year := (dateOf days).year
  let rest := (millis % millisPerDay).toNat
  layout year.toNat (days - newYear year + 1).toNat (rest / 3600000) (rest / 60000 % 60)
    (rest / 1000 % 60) (rest % 1000)

theorem format_eq (time : Timestamp) :
    format time =
      let year := (dateOf (time.millis.toInt / millisPerDay)).year
      if year < 0 ∨ 9999 < year then .error (.yearOutOfRange year)
      else .ok (String.ofList (layoutOf time.millis.toInt)) := by
  unfold format
  dsimp only
  split_ifs <;> rfl

theorem timeOfDay (rest : Nat) :
    ((rest / 3600000 * 60 + rest / 60000 % 60) * 60 + rest / 1000 % 60) * 1000 + rest % 1000 =
      rest := by
  omega

theorem parse_layoutOf {millis : Int} (first : 0 ≤ (dateOf (millis / millisPerDay)).year)
    (last : (dateOf (millis / millisPerDay)).year ≤ 9999) :
    parse (String.ofList (layoutOf millis)) = .ok (millis * 1000000) := by
  obtain ⟨low, high⟩ := newYear_dateOf (millis / millisPerDay)
  have next := newYear_succ (dateOf (millis / millisPerDay)).year
  have rest : 0 ≤ millis % millisPerDay ∧ millis % millisPerDay < 86400000 := by
    unfold millisPerDay
    omega
  have whole : millis / millisPerDay * millisPerDay + millis % millisPerDay = millis :=
    Int.ediv_mul_add_emod millis millisPerDay
  unfold layoutOf
  dsimp only
  generalize (dateOf (millis / millisPerDay)).year = year at *
  generalize millis / millisPerDay = days at *
  generalize millis % millisPerDay = restOfDay at *
  lift year to Nat using first
  lift restOfDay to Nat using rest.1
  rw [Int.toNat_natCast, Int.toNat_natCast, parse_layout (by omega) (by omega) (by omega)
    (by omega) (by omega) (by omega), timeOfDay]
  have position : newYear year + ((days - newYear year + 1).toNat : Int) - 1 = days := by omega
  rw [position, whole]

/-- Times on a whole millisecond, in the years from 0 to 9999. -/
def IsExact (time : Int) : Prop :=
  time % 1000000 = 0 ∧ newYear 0 * millisPerDay * 1000000 ≤ time ∧
    time < newYear 10000 * millisPerDay * 1000000

instance (time : Int) : Decidable (IsExact time) := by
  unfold IsExact
  infer_instance

theorem millis_of_isExact {time : Timestamp} (exact : IsExact time) :
    time.millis.toInt * 1000000 = time ∧ newYear 0 ≤ time.millis.toInt / millisPerDay ∧
      time.millis.toInt / millisPerDay < newYear 10000 := by
  obtain ⟨whole, first, last⟩ := exact
  have start : newYear 0 = -719528 := by decide
  have stop : newYear 10000 = 2932897 := by decide
  rw [start, millisPerDay] at first
  rw [stop, millisPerDay] at last
  have value : time.millis.toInt = time / 1000000 := by
    apply Int64.toInt_ofInt_of_le
    · change -9223372036854775808 ≤ _
      omega
    · change _ < 9223372036854775808
      omega
  rw [value, start, stop, millisPerDay]
  omega

theorem year_of_isExact {time : Timestamp} (exact : IsExact time) :
    0 ≤ (dateOf (time.millis.toInt / millisPerDay)).year ∧
      (dateOf (time.millis.toInt / millisPerDay)).year ≤ 9999 := by
  obtain ⟨-, first, last⟩ := millis_of_isExact exact
  obtain ⟨low, high⟩ := newYear_dateOf (time.millis.toInt / millisPerDay)
  have notBefore := newYear_lt_iff.mp (first.trans_lt high)
  have notAfter := newYear_lt_iff.mp (low.trans_lt last)
  omega

theorem format_of_isExact {time : Timestamp} (exact : IsExact time) :
    format time = .ok (String.ofList (layoutOf time.millis.toInt)) := by
  obtain ⟨first, last⟩ := year_of_isExact exact
  rw [format_eq]
  exact if_neg (by omega)

theorem isPlain_layoutOf (millis : Int) : Text.IsPlain (String.ofList (layoutOf millis)) := by
  unfold layoutOf
  dsimp only
  generalize (dateOf (millis / millisPerDay)).year.toNat = year
  generalize (millis % millisPerDay).toNat = rest
  generalize (_ - _ + 1 : Int).toNat = day
  refine ⟨?_, ?_, ?_⟩
  · rw [String.toList_ofList]
    intro nul
    exact absurd (toNat_of_mem_layout nul).1 (by decide)
  · simp [layout_eq, isBlank_digitChar_mod]
  · simp [layout_eq, isBlank_digitChar_mod]

theorem size_layoutOf (millis : Int) :
    Text.size (String.ofList (layoutOf millis)) = width := by
  rw [Text.size_of_ascii]
  · simp [layoutOf, layout_eq, width]
  · rw [String.toList_ofList]
    intro c h
    exact (toNat_of_mem_layout h).2

theorem write_eq_ok {time : Timestamp} {written : Bytes} (h : write time = .ok written) :
    (0 ≤ (dateOf (time.millis.toInt / millisPerDay)).year ∧
      (dateOf (time.millis.toInt / millisPerDay)).year ≤ 9999) ∧
      written = Text.encode (String.ofList (layoutOf time.millis.toInt)) := by
  unfold write at h
  rw [format_eq, bind_eq_ok] at h
  obtain ⟨text, formatted, encoded⟩ := h
  dsimp only at formatted
  split_ifs at formatted
  rw [← pure_eq_ok.mp encoded, ← Except.ok.inj formatted]
  exact ⟨by omega, rfl⟩

/-- A date fills its field. -/
theorem length_write {time : Timestamp} {written : Bytes} (h : write time = .ok written) :
    written.length = width := by
  rw [(write_eq_ok h).2]
  exact size_layoutOf time.millis.toInt

theorem write_of_isExact {time : Timestamp} (exact : IsExact time) :
    ∃ written, write time = .ok written := by
  rw [write, format_of_isExact exact]
  exact ⟨_, rfl⟩

/-- A date is read as the time that was written, in whole milliseconds. -/
theorem reads_write_millis {time : Timestamp} {written : Bytes} (h : write time = .ok written) :
    Decoder.Reads read written (Timestamp.ofMillis time.millis) := by
  have size := size_layoutOf time.millis.toInt
  have field := Encoder.text_of_size size.le
  rw [size, Nat.sub_self, Bytes.zeros, List.replicate_zero, List.append_nil] at field
  have text := Decoder.reads_text field (isPlain_layoutOf time.millis.toInt)
  obtain ⟨⟨first, last⟩, fields⟩ := write_eq_ok h
  have back := parse_layoutOf first last
  rw [← Timestamp.ofMillis] at back
  rw [fields]
  exact text.bind_nil (Decoder.Reads.ofExcept back)

theorem ofMillis_of_isExact {time : Timestamp} (exact : IsExact time) :
    Timestamp.ofMillis time.millis = time :=
  (millis_of_isExact exact).1

theorem reads_write {time : Timestamp} {written : Bytes} (h : write time = .ok written)
    (exact : IsExact time) : Decoder.Reads read written time := by
  have back := reads_write_millis h
  rwa [ofMillis_of_isExact exact] at back

end OrdinalDate

end ContinuousData
