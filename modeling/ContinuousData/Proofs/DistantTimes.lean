import ContinuousData.Proofs.OrdinalTexts
import Mathlib.Algebra.Ring.Int.Defs
import Mathlib.Algebra.Ring.Nat

/-! Which times get a date that can be trusted. The milliseconds of a time wrap around at 64 bits, so
a time far from those that have a date may be shown as one of them. It is if it is a whole number of
laps away from it, and there is no other way in which a date can be wrong. -/
namespace ContinuousData

namespace Timestamp

/-- After this time the milliseconds are back where they were. -/
def lap : Int := 2 ^ 64 * 1000000

theorem toInt_millis (time : Timestamp) :
    time.millis.toInt = (time / 1000000).bmod (2 ^ 64) :=
  Int64.toInt_ofInt

theorem sub_lap_div (time laps : Int) :
    (time - laps * lap) / 1000000 = time / 1000000 - laps * 2 ^ 64 := by
  unfold lap
  omega

theorem exists_millis_eq (time : Int) :
    ∃ laps : Int, (millis time).toInt = (time - laps * lap) / 1000000 := by
  refine ⟨(time / 1000000).bdiv (2 ^ 64), ?_⟩
  rw [toInt_millis, sub_lap_div, Int.bmod_eq_self_sub_bdiv_mul]
  rfl

theorem millis_eq_of_bounds {time laps : Int}
    (low : -2 ^ 63 ≤ (time - laps * lap) / 1000000) (high : (time - laps * lap) / 1000000 < 2 ^ 63) :
    (millis time).toInt = (time - laps * lap) / 1000000 := by
  rw [sub_lap_div] at *
  rw [toInt_millis, ← Int.sub_mul_bmod_self_right (time / 1000000) laps (2 ^ 64)]
  exact Int.bmod_eq_of_le low high

end Timestamp

namespace OrdinalDate

open Calendar

/-- The time lies in the year, counted out from the lengths of all years before. -/
def IsDuring (year : Nat) (time : Int) : Prop :=
  (daysBefore year - daysBefore 1970) * millisPerDay * 1000000 ≤ time ∧
    time < (daysBefore (year + 1) - daysBefore 1970) * millisPerDay * 1000000

/-- The time lies in a year of four digits. -/
def IsDatable (time : Int) : Prop :=
  ∃ year ≤ 9999, IsDuring year time

/-- The time is written exactly if it has a date, and is then read back but for what is below a
millisecond. -/
structure IsFaithful (time : Int) : Prop where
  written : (∃ text, format time = .ok text) ↔ IsDatable time
  text : ∀ text, format time = .ok text →
    text.length = 20 ∧ isValid text = true ∧ parse text = .ok (time / 1000000 * 1000000)

variable {time : Int}

theorem isDuring_iff {year : Nat} :
    IsDuring year time ↔ (dateOf (time / 1000000 / millisPerDay)).year = year := by
  have days : IsDuring year time ↔ newYear year ≤ time / 1000000 / millisPerDay ∧
      time / 1000000 / millisPerDay < newYear (year + 1) := by
    unfold IsDuring millisPerDay
    rw [← newYear_eq_daysBefore, ← newYear_eq_daysBefore, Int.natCast_succ]
    omega
  rw [days]
  constructor
  · rintro ⟨first, next⟩
    exact year_dateOf_eq first next
  · intro same
    have mem := newYear_dateOf (time / 1000000 / millisPerDay)
    rwa [same] at mem

theorem isDatable_iff :
    IsDatable time ↔ 0 ≤ (dateOf (time / 1000000 / millisPerDay)).year ∧
      (dateOf (time / 1000000 / millisPerDay)).year ≤ 9999 := by
  unfold IsDatable
  simp only [isDuring_iff]
  constructor
  · rintro ⟨year, last, same⟩
    omega
  · rintro ⟨first, last⟩
    exact ⟨_, by omega, (Int.toNat_of_nonneg first).symm⟩

instance : Decidable (IsDatable time) :=
  decidable_of_iff' _ isDatable_iff

/-- The milliseconds of times that have a date fit 64 bits by far. -/
theorem IsDatable.bounds (datable : IsDatable time) :
    -2 ^ 63 ≤ time / 1000000 ∧ time / 1000000 < 2 ^ 63 := by
  obtain ⟨first, last⟩ := isDatable_iff.mp datable
  obtain ⟨low, high⟩ := newYear_dateOf (time / 1000000 / millisPerDay)
  have start : newYear 0 = -719528 := by decide
  have stop : newYear 10000 = 2932897 := by decide
  have notBefore := newYear_le_iff.mpr first
  have notAfter : newYear ((dateOf (time / 1000000 / millisPerDay)).year + 1) ≤ newYear 10000 :=
    newYear_le_iff.mpr (by omega)
  rw [start] at notBefore
  rw [stop] at notAfter
  unfold millisPerDay at *
  omega

theorem IsDatable.millis_eq {laps : Int} (datable : IsDatable (time - laps * Timestamp.lap)) :
    (Timestamp.millis time).toInt = (time - laps * Timestamp.lap) / 1000000 :=
  Timestamp.millis_eq_of_bounds datable.bounds.1 datable.bounds.2

/-- What is written is the date of the time that lies some laps away. -/
theorem format_eq_ok {laps : Int} {text : String}
    (shown : (Timestamp.millis time).toInt = (time - laps * Timestamp.lap) / 1000000) :
    format time = .ok text ↔ IsDatable (time - laps * Timestamp.lap) ∧
      String.ofList (layoutOf (Timestamp.millis time).toInt) = text := by
  rw [format_eq, isDatable_iff, ← shown]
  dsimp only
  split_ifs with outside
  · refine ⟨nofun, fun ⟨inside, _⟩ => ?_⟩
    omega
  · rw [Except.ok.injEq]
    exact ⟨fun same => ⟨by omega, same⟩, And.right⟩

theorem isValid_layoutOf (millis : Int) : isValid (String.ofList (layoutOf millis)) = true := by
  rw [isValid, String.toList_ofList]
  exact hasShape_layout ..

theorem length_layoutOf (millis : Int) : (String.ofList (layoutOf millis)).length = 20 := by
  rw [String.length_ofList, layoutOf]
  simp [layout_eq]

theorem parse_of_format {laps : Int} {text : String}
    (shown : (Timestamp.millis time).toInt = (time - laps * Timestamp.lap) / 1000000)
    (h : format time = .ok text) :
    parse text = .ok ((time - laps * Timestamp.lap) / 1000000 * 1000000) := by
  obtain ⟨datable, rfl⟩ := (format_eq_ok shown).mp h
  rw [isDatable_iff, ← shown] at datable
  rw [← shown]
  exact parse_layoutOf datable.1 datable.2

/-- A date can be trusted unless the time is some laps away from another one that has a date. -/
theorem isFaithful_iff (time : Int) :
    IsFaithful time ↔ ∀ laps : Int, IsDatable (time - laps * Timestamp.lap) → laps = 0 := by
  constructor
  · intro faithful laps datable
    have shown := datable.millis_eq
    have written := (format_eq_ok shown).mpr ⟨datable, rfl⟩
    have back := (faithful.text _ written).2.2
    have same : (time - laps * Timestamp.lap) / 1000000 * 1000000 = time / 1000000 * 1000000 :=
      Except.ok.inj ((parse_of_format shown written).symm.trans back)
    rw [Timestamp.sub_lap_div] at same
    omega
  · intro alone
    obtain ⟨laps, shown⟩ := Timestamp.exists_millis_eq time
    have own := alone laps
    have unmoved : time - 0 * Timestamp.lap = time := by
      rw [Int.zero_mul, Int.sub_zero]
    refine ⟨⟨fun ⟨text, h⟩ => ?_, fun datable => ?_⟩, fun text h => ?_⟩
    · obtain ⟨datable, -⟩ := (format_eq_ok shown).mp h
      rwa [own datable, unmoved] at datable
    · rw [← unmoved] at datable
      exact ⟨_, (format_eq_ok datable.millis_eq).mpr ⟨datable, rfl⟩⟩
    · have back := parse_of_format shown h
      obtain ⟨datable, rfl⟩ := (format_eq_ok shown).mp h
      rw [own datable, unmoved] at back
      exact ⟨length_layoutOf _, isValid_layoutOf _, back⟩

/-- One lap after 1970 its first date is written once more, although the seconds fit 64 bits. -/
theorem format_lap :
    (-2 ^ 63 ≤ Timestamp.lap / 1000000000 ∧ Timestamp.lap / 1000000000 < 2 ^ 63) ∧
      ¬ IsDatable Timestamp.lap ∧ format Timestamp.lap = .ok "1970001 00:00:00.000" ∧
      ¬ IsFaithful Timestamp.lap := by
  have distant : ¬ IsDatable Timestamp.lap := by decide
  have written : format Timestamp.lap = .ok "1970001 00:00:00.000" := by rfl
  exact ⟨by decide, distant, written,
    fun faithful => distant (faithful.written.mp ⟨_, written⟩)⟩

end OrdinalDate

end ContinuousData
