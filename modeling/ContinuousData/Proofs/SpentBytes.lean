import ContinuousData.Proofs.DataFrames
import ContinuousData.Proofs.ReachableStations

/-! How many bytes a value has taken up. A decoder of fields with lengths takes as many bytes as the
lengths tell, and finds the same value in them whatever follows. -/
namespace ContinuousData

namespace Decoder

variable {α β : Type} {extent : α → Nat → Prop} {extent' : β → Nat → Prop}

/-- What is read has taken up a number of bytes that goes with the value, and what follows them has
no part in the value. -/
def Spends (decoder : Decoder α) (extent : α → Nat → Prop) : Prop :=
  ∀ input value rest, decoder input = .ok value rest →
    ∃ taken, extent value taken.length ∧ input = taken ++ rest ∧ Reads decoder taken value

theorem Spends.pure {value : α} (h : extent value 0) : Spends (Pure.pure value) extent := by
  intro input found rest read
  obtain ⟨rfl, rfl⟩ := EStateM.Result.ok.inj read
  exact ⟨[], h, rfl, Reads.pure _⟩

theorem Spends.bind {first : Decoder α} {next : α → Decoder β} (h : Spends first extent)
    (hn : ∀ value count, extent value count →
      Spends (next value) fun result more => extent' result (count + more)) :
    Spends (first >>= next) extent' := by
  intro input result rest read
  obtain ⟨value, left, front, back⟩ := bind_eq_ok.mp read
  obtain ⟨taken, known, rfl, reads⟩ := h input value left front
  obtain ⟨more, total, rfl, readsMore⟩ := hn value taken.length known left result rest back
  refine ⟨taken ++ more, ?_, (List.append_assoc ..).symm, reads.bind readsMore⟩
  rwa [List.length_append]

theorem Spans.spends {decoder : Decoder α} {width : Nat} (h : Spans decoder width) :
    Spends decoder fun _ count => count = width :=
  h

/-- Fields of fixed width come in front of others. -/
theorem Spans.then {first : Decoder α} {next : α → Decoder β} {width : Nat}
    (h : Spans first width)
    (hn : ∀ value, Spends (next value) fun result more => extent' result (width + more)) :
    Spends (first >>= next) extent' :=
  h.spends.bind fun value _ known => known ▸ hn value

theorem spans_u8 : Spans u8 1 :=
  (spans_number .u8).map _

theorem spans_f32 : Spans f32 4 :=
  (spans_number .f32).map _

theorem spans_length (field : String) : Spans (length field) 4 := by
  intro input value rest read
  obtain ⟨small, split⟩ := length_eq_ok read
  exact ⟨_, Encoder.length_length value, split, reads_length field small⟩

theorem spends_bytes (count : Nat) :
    Spends (bytes count) fun value width => value.length = count ∧ width = count := by
  intro input value rest read
  obtain ⟨length, split⟩ := bytes_eq_ok read
  exact ⟨value, ⟨length, length⟩, split, length ▸ reads_bytes value⟩

end Decoder

open Decoder

theorem OrdinalDate.spans_read : Spans read width :=
  (spans_text width).bind fun text => spans_ofExcept (parse text)

theorem Subframe.spans_readCompression : Spans readCompression 1 := by
  refine @Spans.bind _ _ _ _ 1 0 spans_u8 fun code => ?_
  cases Compression.ofCode? code with
  | none => exact nofun
  | some compression => exact Spans.pure compression

end ContinuousData
