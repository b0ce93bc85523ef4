import ContinuousData.Proofs.SpentBytes

/-! Which bytes of a value matter. A decoder that skips padding finds the same value whatever the
padding is, so that bytes that are alike everywhere else are read alike. A subframe takes up as many
bytes as it says, on its way to the wire and back, and only its padding is passed over. -/
namespace ContinuousData

namespace Bytes

/-- Bytes that are the same in all places that the mask shows. -/
structure Alike (mask : List Bool) (bytes other : Bytes) : Prop where
  length : other.length = bytes.length
  shown : ∀ place : Nat, mask[place]? = some true → other[place]? = bytes[place]?

theorem Alike.refl (mask : List Bool) (bytes : Bytes) : Alike mask bytes bytes :=
  ⟨rfl, fun _ _ => rfl⟩

theorem Alike.eq {bytes other : Bytes}
    (h : Alike (List.replicate bytes.length true) bytes other) : other = bytes := by
  apply List.ext_getElem?
  intro place
  by_cases inside : place < bytes.length
  · exact h.shown place (by rw [List.getElem?_replicate, if_pos inside])
  · rw [List.getElem?_eq_none (by rw [h.length]; omega), List.getElem?_eq_none (by omega)]

theorem Alike.split {mask others : List Bool} {front back other : Bytes}
    (h : Alike (mask ++ others) (front ++ back) other) (same : mask.length = front.length) :
    ∃ first last, other = first ++ last ∧ Alike mask front first ∧ Alike others back last := by
  have length := h.length
  rw [List.length_append] at length
  have width : (other.take front.length).length = front.length :=
    List.length_take_of_le (by omega)
  refine ⟨other.take front.length, other.drop front.length, (List.take_append_drop _ _).symm,
    ⟨width, fun place shown => ?_⟩, ⟨?_, fun place shown => ?_⟩⟩
  · obtain ⟨inside, -⟩ := List.getElem?_eq_some_iff.mp shown
    have known := h.shown place (by rw [List.getElem?_append_left inside]; exact shown)
    rw [List.getElem?_append_left (by omega)] at known
    rw [List.getElem?_take_of_lt (by omega), known]
  · rw [List.length_drop]
    omega
  · have known := h.shown (front.length + place)
      (by rw [← same, List.getElem?_append_right (by omega), Nat.add_sub_cancel_left]; exact shown)
    rw [List.getElem?_append_right (by omega), Nat.add_sub_cancel_left] at known
    rw [List.getElem?_drop, known]

end Bytes

namespace Decoder

variable {α β : Type} {mask : α → List Bool → Prop} {mask' : β → List Bool → Prop}

/-- What is read has taken up bytes with a mask that goes with the value. Bytes that are alike behind
the mask have the same value, and what follows them has no part in it. -/
def Heeds (decoder : Decoder α) (mask : α → List Bool → Prop) : Prop :=
  ∀ input value rest, decoder input = .ok value rest →
    ∃ taken shown, mask value shown ∧ shown.length = taken.length ∧ input = taken ++ rest ∧
      ∀ other, Bytes.Alike shown taken other → Reads decoder other value

theorem Heeds.spends {decoder : Decoder α} {extent : α → Nat → Prop} (h : Heeds decoder mask)
    (length : ∀ value shown, mask value shown → extent value shown.length) :
    Spends decoder extent := by
  intro input value rest read
  obtain ⟨taken, shown, known, same, split, reads⟩ := h input value rest read
  exact ⟨taken, same ▸ length value shown known, split, reads taken (.refl shown taken)⟩

/-- Where the mask shows everything. -/
theorem Spends.heeds {decoder : Decoder α} {extent : α → Nat → Prop} (h : Spends decoder extent) :
    Heeds decoder fun value shown => ∃ count, extent value count ∧
      shown = List.replicate count true := by
  intro input value rest read
  obtain ⟨taken, known, split, reads⟩ := h input value rest read
  refine ⟨taken, _, ⟨_, known, rfl⟩, List.length_replicate, split, fun other alike => ?_⟩
  rw [alike.eq]
  exact reads

theorem Heeds.pure {value : α} (h : mask value []) : Heeds (Pure.pure value) mask := by
  intro input found rest read
  obtain ⟨rfl, rfl⟩ := EStateM.Result.ok.inj read
  refine ⟨[], [], h, rfl, rfl, fun other alike => ?_⟩
  rw [List.eq_nil_of_length_eq_zero alike.length]
  exact Reads.pure _

theorem Heeds.bind {first : Decoder α} {next : α → Decoder β} (h : Heeds first mask)
    (hn : ∀ value shown, mask value shown →
      Heeds (next value) fun result more => mask' result (shown ++ more)) :
    Heeds (first >>= next) mask' := by
  intro input result rest read
  obtain ⟨value, left, front, back⟩ := bind_eq_ok.mp read
  obtain ⟨taken, shown, known, same, rfl, reads⟩ := h input value left front
  obtain ⟨takenMore, more, total, sameMore, rfl, readsMore⟩ :=
    hn value shown known left result rest back
  refine ⟨taken ++ takenMore, shown ++ more, total, ?_, (List.append_assoc ..).symm,
    fun other alike => ?_⟩
  · rw [List.length_append, List.length_append, same, sameMore]
  · obtain ⟨first, last, rfl, alikeFirst, alikeLast⟩ := alike.split same
    exact (reads first alikeFirst).bind (readsMore last alikeLast)

/-- A field of fixed width, all of which matters, in front of others. -/
theorem Spans.thenHeeds {first : Decoder α} {next : α → Decoder β} {width : Nat}
    (h : Spans first width)
    (hn : ∀ value, Heeds (next value) fun result more =>
      mask' result (List.replicate width true ++ more)) :
    Heeds (first >>= next) mask' := by
  refine h.spends.heeds.bind ?_
  rintro value _ ⟨_, rfl, rfl⟩
  exact hn value

/-- A check whether there are enough bytes does not look at those that follow, if what is read then
takes up as many. -/
theorem Heeds.enough {least : Nat} {reason : Nat → Error} {others : Decoder α}
    (h : Heeds others mask) (long : ∀ value shown, mask value shown → least ≤ shown.length) :
    Heeds
      (do
        let left ← Decoder.remaining
        if left < least then throw (reason left)
        others) mask := by
  have checked (input : Bytes) (enough : least ≤ input.length) :
      (do
        let left ← Decoder.remaining
        if left < least then throw (reason left)
        others) input = others input := by
    have found : Decoder.remaining input = .ok input.length input := rfl
    rw [bind_of_ok found]
    dsimp only
    rw [if_neg (Nat.not_lt.mpr enough)]
  intro input value rest read
  by_cases enough : least ≤ input.length
  · rw [checked input enough] at read
    obtain ⟨taken, shown, known, same, split, reads⟩ := h input value rest read
    refine ⟨taken, shown, known, same, split, fun other alike behind => ?_⟩
    have bound := long value shown known
    rw [checked, reads other alike]
    rw [List.length_append, alike.length, ← same]
    exact Nat.le_trans bound (Nat.le_add_right _ _)
  · obtain ⟨left, _, found, checked⟩ := bind_eq_ok.mp read
    obtain ⟨rfl, rfl⟩ := EStateM.Result.ok.inj found
    rw [if_pos (Nat.not_le.mp enough)] at checked
    obtain ⟨_, _, failed, -⟩ := bind_eq_ok.mp checked
    contradiction

/-- All of a sized field matters but the padding at its end. -/
def sizedMask (size : Nat) : List Bool :=
  List.replicate (4 + size) true ++ List.replicate (Bytes.padding size 4) false

theorem length_sizedMask (size : Nat) : (sizedMask size).length = 4 + Bytes.aligned size := by
  unfold sizedMask Bytes.aligned Bytes.padded
  rw [List.length_append, List.length_replicate, List.length_replicate, Nat.add_assoc]

theorem heeds_skip (count : Nat) :
    Heeds (skip count) fun _ shown => shown = List.replicate count false := by
  intro input value rest read
  obtain ⟨padding, rfl, rfl⟩ := skip_eq_ok read
  refine ⟨padding, _, rfl, List.length_replicate, rfl, fun other alike => ?_⟩
  rw [← alike.length]
  exact reads_skip other

theorem heeds_sized (field : String) :
    Heeds (sized field) fun value shown => shown = sizedMask value.length := by
  refine (spans_length field).thenHeeds fun count => (spends_bytes count).heeds.bind ?_
  rintro value _ ⟨_, ⟨rfl, rfl⟩, rfl⟩
  refine (heeds_skip _).bind ?_
  rintro _ _ rfl
  refine Heeds.pure ?_
  rw [sizedMask, ← List.replicate_append_replicate, List.append_nil, List.append_assoc]

end Decoder

namespace Subframe

open Decoder

/-- All bytes of a subframe but the padding at the ends of its three sized fields. -/
def mask (s : Subframe) : List Bool :=
  List.replicate 60 true ++ sizedMask s.status.length ++ sizedMask s.data.length ++
    List.replicate 8 true ++ sizedMask s.authValue.length

theorem length_mask (s : Subframe) : s.mask.length = s.wireLength := by
  unfold mask wireLength minLength
  simp only [List.length_append, List.length_replicate, length_sizedMask]
  omega

theorem aligned_wireLength (s : Subframe) : s.wireLength % 4 = 0 ∧ minLength ≤ s.wireLength := by
  have status := Bytes.aligned_mod s.status.length
  have data := Bytes.aligned_mod s.data.length
  have authValue := Bytes.aligned_mod s.authValue.length
  unfold wireLength minLength
  omega

theorem heeds_read : Heeds read fun s shown => shown = s.mask := by
  refine Heeds.enough ?_ ?_
  · refine spans_i32.thenHeeds fun _ => spans_i32.thenHeeds fun _ => spans_u8.thenHeeds fun _ =>
      spans_readCompression.thenHeeds fun _ => spans_u8.thenHeeds fun _ =>
      spans_u8.thenHeeds fun _ => (spans_text _).thenHeeds fun _ => (spans_text _).thenHeeds fun _ =>
      (spans_text _).thenHeeds fun _ => (spans_text _).thenHeeds fun _ =>
      spans_f32.thenHeeds fun _ => spans_f32.thenHeeds fun _ =>
      OrdinalDate.spans_read.thenHeeds fun _ => spans_i32.thenHeeds fun _ =>
      spans_i32.thenHeeds fun _ => (heeds_sized _).bind fun status _ hs =>
      (heeds_sized _).bind fun data _ hd => spans_i32.thenHeeds fun _ =>
      spans_i32.thenHeeds fun _ => (heeds_sized _).bind fun value _ ha =>
      (spans_ofExcept _).thenHeeds fun _ => Heeds.pure ?_
    rw [hs, hd, ha, mask]
    simp only [List.append_assoc, List.replicate_zero, List.append_nil]
    rfl
  · rintro s _ rfl
    rw [length_mask]
    exact (aligned_wireLength s).2

/-- A subframe is as long as it says, wherever it stands. -/
theorem spends_read : Spends read fun s count => count = s.wireLength :=
  heeds_read.spends fun s _ known => known ▸ length_mask s

/-- A subframe is written to as many bytes as it says, and read from as many, whatever follows them
and whatever stands in its padding. -/
theorem lengths_agree (s : Subframe) :
    (∀ written, s.write = .ok written →
      written.length = s.wireLength ∧ s.wireLength % 4 = 0 ∧ 80 ≤ s.wireLength) ∧
    ∀ input rest, read input = .ok s rest →
      ∃ taken, taken.length = s.wireLength ∧ input = taken ++ rest ∧
        ∀ other, Bytes.Alike s.mask taken other → ∀ behind, read (other ++ behind) = .ok s behind := by
  refine ⟨fun written sent => ⟨length_write sent, aligned_wireLength s⟩, fun input rest found => ?_⟩
  obtain ⟨taken, _, rfl, same, split, reads⟩ := heeds_read input s rest found
  exact ⟨taken, same ▸ length_mask s, split, reads⟩

/-- Five bytes of data are padded to eight. Any byte may stand in the last place. -/
theorem lengths_agree_overwritten :
    ∃ written, (Endpoint.silence 5).write = .ok written ∧ written.length = 88 ∧
      ∀ byte, read (written.set 75 byte ++ [9]) = .ok (Endpoint.silence 5) [9] := by
  have valid : (Endpoint.silence 5).check = .ok () := rfl
  obtain ⟨written, sent⟩ := write_of_check valid (by decide) (by decide) (by decide) (by decide)
  have whole := reads_write sent (Endpoint.isCanonical_silence valid)
  obtain ⟨onWriting, onReading⟩ := lengths_agree (Endpoint.silence 5)
  obtain ⟨taken, -, split, reads⟩ := onReading (written ++ []) [] (whole [])
  obtain rfl := List.append_cancel_right split
  refine ⟨written, sent, (onWriting written sent).1, fun byte => reads _ ⟨?_, ?_⟩ [9]⟩
  · exact List.length_set
  · intro place shown
    refine List.getElem?_set_ne ?_
    rintro rfl
    exact absurd shown (by decide)

end Subframe

end ContinuousData
