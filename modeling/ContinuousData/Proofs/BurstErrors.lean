import ContinuousData.Proofs.FrameCodec
import Mathlib.Data.Nat.Bitwise

/-! What the checksum detects. A shift of the remainder can be undone, and up to eight bytes are
taken in as one number that is added to the remainder without carry, before all of their shifts.
Bytes that differ within such a window thus lead to different remainders, and these stay different
whatever follows. -/
namespace ContinuousData

/-- Bytes of one length that stand for the same number are the same. -/
theorem Bytes.ofBigEndian_inj {bytes others : Bytes} (length : bytes.length = others.length)
    (same : ofBigEndian bytes = ofBigEndian others) : bytes = others := by
  rw [← bigEndian_ofBigEndian bytes, ← bigEndian_ofBigEndian others, length, same]

namespace Checksum

theorem low_bit_iff (remainder : UInt64) :
    remainder &&& 1 = 1 ↔ remainder.toNat.testBit 0 = true := by
  rw [← UInt64.toNat_inj, UInt64.toNat_and, Nat.testBit_zero, decide_eq_true_iff]
  exact Nat.and_one_is_mod remainder.toNat ▸ Iff.rfl

/-- All bits move down, and where the lowest one is lost, the generator is added. -/
theorem testBit_shift (remainder : UInt64) (i : Nat) :
    (shift remainder).toNat.testBit i =
      (remainder.toNat.testBit (i + 1) ^^
        (remainder.toNat.testBit 0 && generator.toNat.testBit i)) := by
  have moved : (remainder >>> 1).toNat.testBit i = remainder.toNat.testBit (i + 1) := by
    rw [UInt64.toNat_shiftRight, Nat.add_comm]
    exact Nat.testBit_shiftRight remainder.toNat
  unfold shift
  cases low : remainder.toNat.testBit 0 with
  | true =>
    rw [if_pos ((low_bit_iff remainder).mpr low), UInt64.toNat_xor, Nat.testBit_xor, moved,
      Bool.true_and]
  | false =>
    have even : ¬ remainder &&& 1 = 1 := by
      rw [low_bit_iff, low]
      exact Bool.false_ne_true
    rw [if_neg even, moved, Bool.false_and, Bool.xor_false]

theorem shift_xor (a b : UInt64) : shift (a ^^^ b) = shift a ^^^ shift b := by
  refine UInt64.toNat_inj.mp (Nat.eq_of_testBit_eq fun i => ?_)
  simp only [UInt64.toNat_xor, Nat.testBit_xor, testBit_shift]
  rw [Bool.and_xor_distrib_right, Bool.xor_assoc, Bool.xor_assoc,
    Bool.xor_left_comm (b.toNat.testBit _)]

/-- The highest bit after a shift tells which bit was lost. -/
theorem shift_injective : Function.Injective shift := by
  intro a b same
  have bits (i : Nat) := congrArg (fun r => r.toNat.testBit i) same
  simp only [testBit_shift] at bits
  have top (r : UInt64) : r.toNat.testBit 64 = false := Nat.testBit_lt_two_pow r.toNat_lt
  have low : a.toNat.testBit 0 = b.toNat.testBit 0 := by
    have highest : generator.toNat.testBit 63 = true := by decide
    have last := bits 63
    rwa [top, top, highest, Bool.and_true, Bool.and_true, Bool.false_xor, Bool.false_xor] at last
  refine UInt64.toNat_inj.mp (Nat.eq_of_testBit_eq fun i => ?_)
  cases i with
  | zero => exact low
  | succ i =>
    have next := bits i
    rwa [low, Bool.xor_left_inj] at next

theorem shifts_xor (count : Nat) (a b : UInt64) :
    shifts count (a ^^^ b) = shifts count a ^^^ shifts count b := by
  induction count generalizing a b with
  | zero => rfl
  | succ count ih => rw [shifts, shift_xor, ih, shifts, shifts]

theorem shifts_injective (count : Nat) : Function.Injective (shifts count) := by
  induction count with
  | zero => exact Function.injective_id
  | succ count ih => exact ih.comp shift_injective

theorem shifts_add (first second : Nat) (remainder : UInt64) :
    shifts (first + second) remainder = shifts second (shifts first remainder) := by
  induction first generalizing remainder with
  | zero => rw [Nat.zero_add, shifts]
  | succ first ih => rw [Nat.succ_add, shifts, ih, shifts]

/-- While only zeros are lost, a shift halves. -/
theorem shifts_mul_two_pow {count value : Nat} (small : value * 2 ^ count < UInt64.size) :
    shifts count (UInt64.ofNat (value * 2 ^ count)) = UInt64.ofNat value := by
  induction count with
  | zero => rw [Nat.pow_zero, Nat.mul_one, shifts]
  | succ count ih =>
    have double : value * 2 ^ (count + 1) = value * 2 ^ count * 2 := by
      rw [Nat.pow_succ, Nat.mul_assoc]
    rw [double] at small ⊢
    have halved : shift (UInt64.ofNat (value * 2 ^ count * 2)) =
        UInt64.ofNat (value * 2 ^ count) := by
      have even : ¬ UInt64.ofNat (value * 2 ^ count * 2) &&& 1 = 1 := by
        rw [low_bit_iff, UInt64.toNat_ofNat_of_lt' small, Nat.testBit_zero, decide_eq_true_iff]
        omega
      rw [shift, if_neg even, ← UInt64.toNat_inj, UInt64.toNat_shiftRight,
        UInt64.toNat_ofNat_of_lt' small, UInt64.toNat_ofNat_of_lt' (by omega)]
      exact Nat.mul_div_cancel (value * 2 ^ count) Nat.two_pos
    rw [shifts, halved, ih (by omega)]

/-- A window of bytes as the number whose lowest byte is the first one. -/
def packed (window : Bytes) : UInt64 :=
  UInt64.ofNat (Bytes.ofBigEndian window.reverse)

theorem ofBigEndian_reverse_lt {window : Bytes} (short : window.length ≤ width) :
    Bytes.ofBigEndian window.reverse < UInt64.size := by
  have small := Bytes.ofBigEndian_lt window.reverse
  rw [List.length_reverse] at small
  exact Nat.lt_of_lt_of_le small (Nat.pow_le_pow_right (by decide) short)

theorem packed_injective {window other : Bytes} (short : window.length ≤ width)
    (length : other.length = window.length) (same : packed other = packed window) :
    other = window := by
  have values : Bytes.ofBigEndian other.reverse = Bytes.ofBigEndian window.reverse := by
    have := congrArg UInt64.toNat same
    rwa [packed, packed, UInt64.toNat_ofNat_of_lt' (ofBigEndian_reverse_lt (length ▸ short)),
      UInt64.toNat_ofNat_of_lt' (ofBigEndian_reverse_lt short)] at this
  refine List.reverse_injective (Bytes.ofBigEndian_inj ?_ values)
  rw [List.length_reverse, List.length_reverse, length]

theorem mul_two_pow_lt {byte : UInt8} {window : Bytes} (short : (byte :: window).length ≤ width) :
    Bytes.ofBigEndian window.reverse * 2 ^ 8 < UInt64.size := by
  have small := ofBigEndian_reverse_lt short
  rw [List.reverse_cons, Bytes.ofBigEndian_concat] at small
  exact Nat.lt_of_le_of_lt (Nat.le_add_right _ byte.toNat) small

/-- The first byte is added to the others moved up. -/
theorem packed_cons {byte : UInt8} {window : Bytes} (short : (byte :: window).length ≤ width) :
    packed (byte :: window) =
      byte.toUInt64 ^^^ UInt64.ofNat (Bytes.ofBigEndian window.reverse * 2 ^ 8) := by
  rw [packed, ← UInt64.toNat_inj, UInt64.toNat_ofNat_of_lt' (ofBigEndian_reverse_lt short),
    UInt64.toNat_xor, UInt8.toNat_toUInt64, UInt64.toNat_ofNat_of_lt' (mul_two_pow_lt short),
    List.reverse_cons, Bytes.ofBigEndian_concat]
  refine Nat.eq_of_testBit_eq fun i => ?_
  have byteSmall : byte.toNat < 2 ^ 8 := byte.toNat_lt
  rw [Nat.testBit_xor, Nat.testBit_mul_two_pow, Nat.mul_comm]
  change (2 ^ 8 * _ + _).testBit i = _
  rw [Nat.testBit_two_pow_mul_add _ byteSmall]
  by_cases low : i < 8
  · rw [if_pos low, decide_eq_false (Nat.not_le.mpr low), Bool.false_and, Bool.xor_false]
  · have high := Nat.not_lt.mp low
    have above : byte.toNat.testBit i = false :=
      Nat.testBit_lt_two_pow (byteSmall.trans_le (Nat.pow_le_pow_right Nat.two_pos high))
    rw [if_neg low, decide_eq_true high, above, Bool.true_and, Bool.false_xor]

/-- Up to eight bytes are taken into the remainder at once. -/
theorem foldl_absorb {window : Bytes} (short : window.length ≤ width) (remainder : UInt64) :
    window.foldl absorb remainder = shifts (8 * window.length) (remainder ^^^ packed window) := by
  induction window generalizing remainder with
  | nil => exact (UInt64.xor_zero).symm
  | cons byte window ih =>
    have moved := shifts_mul_two_pow (mul_two_pow_lt short)
    calc (byte :: window).foldl absorb remainder
        = shifts (8 * window.length) (absorb remainder byte ^^^ packed window) :=
          ih (Nat.le_of_succ_le short) _
      _ = shifts (8 * window.length) (shifts 8 (remainder ^^^ packed (byte :: window))) := by
          rw [packed_cons short, ← UInt64.xor_assoc, shifts_xor 8, moved]
          rfl
      _ = shifts (8 * (byte :: window).length) (remainder ^^^ packed (byte :: window)) := by
          rw [← shifts_add, List.length_cons, Nat.mul_succ, Nat.add_comm]

theorem absorb_injective (byte : UInt8) : Function.Injective (absorb · byte) :=
  (shifts_injective 8).comp fun _ _ same => (UInt64.xor_left_inj _).mp same

/-- Remainders that differ stay different, whatever is taken in. -/
theorem foldl_absorb_injective (bytes : Bytes) :
    Function.Injective fun remainder => bytes.foldl absorb remainder := by
  induction bytes with
  | nil => exact Function.injective_id
  | cons byte bytes ih => exact ih.comp (absorb_injective byte)

/-- Byte strings that differ within a window have different remainders. -/
theorem crc_ne {front window other back : Bytes} (short : window.length ≤ width)
    (length : other.length = window.length) (different : other ≠ window) :
    crc (front ++ other ++ back) ≠ crc (front ++ window ++ back) := by
  intro same
  unfold crc at same
  rw [List.foldl_append, List.foldl_append, List.foldl_append, List.foldl_append] at same
  have inside := foldl_absorb_injective back same
  rw [foldl_absorb short, foldl_absorb (length ▸ short), length] at inside
  exact different (packed_injective short length
    ((UInt64.xor_right_inj _).mp (shifts_injective _ inside)))

/-- The checksum in its place is right if it is that of the bytes before. -/
theorem isValid_append (front : Bytes) {back : Bytes} (length : back.length = width) :
    isValid (front ++ back) = true ↔
      UInt64.ofNat (Bytes.ofBigEndian back) = crc (front ++ Bytes.zeros width) := by
  have long : width ≤ (front ++ back).length := by
    rw [List.length_append, length]
    exact Nat.le_add_left _ _
  rw [isValid, decide_eq_true long, Bool.true_and, beq_iff_eq, stored_append front length,
    compute_append front length]

theorem exists_split {frame : Bytes} (long : width ≤ frame.length) :
    ∃ front back, back.length = width ∧ frame = front ++ back := by
  refine ⟨frame.take (frame.length - width), frame.drop (frame.length - width), ?_,
    (List.take_append_drop _ frame).symm⟩
  rw [List.length_drop, Nat.sub_sub_self long]

theorem width_le_of_isValid {frame : Bytes} (valid : isValid frame = true) :
    width ≤ frame.length :=
  of_decide_eq_true (Bool.and_eq_true_iff.mp valid).1

/-- The place of the checksum holds one number only that is right. -/
theorem eq_of_isValid {front back held : Bytes} (length : back.length = width)
    (lengthToo : held.length = width) (valid : isValid (front ++ back) = true)
    (validToo : isValid (front ++ held) = true) : held = back := by
  have same := ((isValid_append front lengthToo).mp validToo).trans
    ((isValid_append front length).mp valid).symm
  have small (bytes : Bytes) (h : bytes.length = width) :
      Bytes.ofBigEndian bytes < UInt64.size := by
    have := Bytes.ofBigEndian_lt bytes
    rwa [h] at this
  have values := congrArg UInt64.toNat same
  rw [UInt64.toNat_ofNat_of_lt' (small held lengthToo),
    UInt64.toNat_ofNat_of_lt' (small back length)] at values
  exact Bytes.ofBigEndian_inj (lengthToo.trans length.symm) values

/-- A window before the checksum's place. -/
theorem not_isValid_before {front window other back : Bytes}
    (valid : isValid (front ++ window ++ back) = true) (short : window.length ≤ width)
    (length : other.length = window.length) (different : other ≠ window)
    (before : width ≤ back.length) : ¬ isValid (front ++ other ++ back) = true := by
  intro validToo
  obtain ⟨between, held, place, rfl⟩ := exists_split before
  rw [← List.append_assoc, isValid_append _ place, List.append_assoc] at valid validToo
  exact crc_ne short length different (validToo.symm.trans valid)

/-- A window within the checksum's place. -/
theorem not_isValid_within {front window other back : Bytes}
    (valid : isValid (front ++ window ++ back) = true)
    (length : other.length = window.length) (different : other ≠ window)
    (within : window.length + back.length ≤ width) : ¬ isValid (front ++ other ++ back) = true := by
  intro validToo
  have long := width_le_of_isValid valid
  rw [List.length_append, List.length_append] at long
  have split := List.take_append_drop (front.length + window.length + back.length - width) front
  rw [← split] at valid validToo
  simp only [List.append_assoc] at valid validToo
  have place : ∀ bytes : Bytes, bytes.length = window.length →
      (front.drop (front.length + window.length + back.length - width) ++
        (bytes ++ back)).length = width := by
    intro bytes same
    rw [List.length_append, List.length_append, List.length_drop, same]
    omega
  have same := eq_of_isValid (place window rfl) (place other length) valid validToo
  exact different (List.append_cancel_right (List.append_cancel_left same))

/-- The checksum of a frame is put into its last eight bytes, whatever these held, and is right
there. Where it is right, other bytes in a window of up to eight, before that place or within it,
make it wrong. -/
theorem detects_bursts :
    (∀ frame : Bytes, width ≤ frame.length →
      ∃ front back sum : Bytes, back.length = width ∧ sum.length = width ∧ frame = front ++ back ∧
        patch frame = front ++ sum ∧ isValid (patch frame) = true ∧
        ∀ held : Bytes, held.length = width → patch (front ++ held) = front ++ sum) ∧
    ∀ front window other back : Bytes, isValid (front ++ window ++ back) = true →
      window.length ≤ width → other.length = window.length → other ≠ window →
      width ≤ back.length ∨ window.length + back.length ≤ width →
      isValid (front ++ other ++ back) = false := by
  refine ⟨fun frame long => ?_, ?_⟩
  · obtain ⟨front, back, length, rfl⟩ := exists_split long
    refine ⟨front, back, _, length, Bytes.length_bigEndian _ _, rfl, patch_append front length,
      isValid_patch front length, fun held lengthToo => ?_⟩
    rw [patch_append front lengthToo, compute_append front lengthToo, compute_append front length]
  · intro front window other back valid short length different place
    refine Bool.eq_false_iff.mpr ?_
    rcases place with before | within
    · exact not_isValid_before valid short length different before
    · exact not_isValid_within valid length different within

end Checksum

end ContinuousData
