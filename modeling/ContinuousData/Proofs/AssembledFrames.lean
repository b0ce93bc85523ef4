import ContinuousData.Proofs.FrameCodec

/-! Which frames can be assembled. A header, a body and a trailer make a frame exactly when they fit
together, and the bytes of the frame are theirs, one after the other. A frame that is composed
around a body is the one that its own parts make, with the checksum of its own bytes. -/
namespace ContinuousData

theorem Header.exists_write_iff {header : Header} :
    (∃ written, header.write = .ok written) ↔
      width ≤ header.trailerOffset ∧ header.trailerOffset ≤ Encoder.maxLength ∧
        Text.size header.creator ≤ creatorWidth ∧
        Text.size header.destination ≤ destinationWidth := by
  constructor
  · rintro ⟨written, h⟩
    obtain ⟨after, fits, creator, destination, hc, hd, -⟩ := write_eq_ok h
    exact ⟨after, fits, (Encoder.text_eq_ok hc).1, (Encoder.text_eq_ok hd).1⟩
  · rintro ⟨after, fits, creator, destination⟩
    exact write_of_size after fits creator destination

theorem Trailer.exists_write_iff {trailer : Trailer} :
    (∃ written, trailer.write = .ok written) ↔ trailer.authValue.length ≤ Encoder.maxLength := by
  constructor
  · rintro ⟨written, h⟩
    obtain ⟨authValue, ha, -⟩ := write_eq_ok.mp h
    exact (Encoder.sized_eq_ok.mp ha).1
  · exact write_of_size

namespace Frame

/-- What a header, a body and a trailer must agree on, and what must fit into its field. -/
structure FitTogether (header : Header) (body : Body) (trailer : Trailer) : Prop where
  type : header.type = body.type
  offset : ∃ written, body.write = .ok written ∧
    header.trailerOffset = Header.width + written.length
  offset_le : header.trailerOffset ≤ Encoder.maxLength
  creator : Text.size header.creator ≤ Header.creatorWidth
  destination : Text.size header.destination ≤ Header.destinationWidth
  authValue : trailer.authValue.length ≤ Encoder.maxLength

/-- The bytes of a header, a body and a trailer, each at its place. -/
structure LaysOut (header : Header) (body : Body) (trailer : Trailer) (raw : Bytes) : Prop where
  first : header.write = .ok (raw.take Header.width)
  between : body.write = .ok (middle raw header)
  last : trailer.write = .ok (raw.drop header.trailerOffset)
  length : raw.length = header.trailerOffset + trailer.wireLength

variable {header : Header} {body : Body} {trailer : Trailer} {raw : Bytes} {frame : Frame}

theorem exists_encode_iff :
    (∃ raw, encode header body trailer = .ok raw) ↔ FitTogether header body trailer := by
  simp only [encode_eq_ok]
  constructor
  · rintro ⟨raw, type, head, hh, written, hb, offset, tail, ht, -⟩
    obtain ⟨-, fits, creator, destination⟩ := Header.exists_write_iff.mp ⟨head, hh⟩
    exact ⟨type, ⟨written, hb, offset.symm⟩, fits, creator, destination,
      Trailer.exists_write_iff.mp ⟨tail, ht⟩⟩
  · rintro ⟨type, ⟨written, hb, offset⟩, fits, creator, destination, authValue⟩
    have after : Header.width ≤ header.trailerOffset := offset ▸ Nat.le_add_right _ _
    obtain ⟨head, hh⟩ := Header.exists_write_iff.mpr ⟨after, fits, creator, destination⟩
    obtain ⟨tail, ht⟩ := Trailer.exists_write_iff.mpr authValue
    exact ⟨_, type, head, hh, written, hb, offset.symm, tail, ht, rfl⟩

theorem laysOut_of_encode (h : encode header body trailer = .ok raw) :
    LaysOut header body trailer raw := by
  obtain ⟨-, head, hh, written, hb, offset, tail, ht, rfl⟩ := encode_eq_ok.mp h
  have width := Header.length_write hh
  have front : (head ++ written).length = header.trailerOffset := by
    rw [List.length_append, width, offset]
  constructor
  case first => rw [List.append_assoc, ← width, List.take_left, hh]
  case between => rw [middle, ← front, List.take_left, ← width, List.drop_left, hb]
  case last => rw [← front, List.drop_left, ht]
  case length => rw [List.length_append, front, Trailer.length_write ht]

theorem assemble_eq_ok :
    assemble header body trailer = .ok frame ↔
      ∃ raw, encode header body trailer = .ok raw ∧ ⟨header, body, trailer, raw⟩ = frame := by
  unfold assemble
  simp only [bind_eq_ok, pure_eq_ok]

theorem exists_assemble_iff :
    (∃ frame, assemble header body trailer = .ok frame) ↔ FitTogether header body trailer := by
  rw [← exists_encode_iff]
  constructor
  · rintro ⟨frame, assembled⟩
    obtain ⟨raw, encoded, -⟩ := assemble_eq_ok.mp assembled
    exact ⟨raw, encoded⟩
  · rintro ⟨raw, encoded⟩
    exact ⟨_, assemble_eq_ok.mpr ⟨raw, encoded, rfl⟩⟩

/-- A header, a body and a trailer can be assembled exactly when they fit together, and the bytes of
the frame are then theirs, the trailer's from the trailer offset on. The parts of a frame that was
composed around a body can be assembled to the same frame, and its checksum is that of its bytes. -/
theorem assembles_iff_fitTogether :
    (∀ (header : Header) (body : Body) (trailer : Trailer),
      ((∃ frame, assemble header body trailer = .ok frame) ↔ FitTogether header body trailer) ∧
      ∀ frame, assemble header body trailer = .ok frame →
        frame.header = header ∧ frame.body = body ∧ frame.trailer = trailer ∧
          LaysOut header body trailer frame.raw) ∧
    ∀ (creator destination : String) (sequence : UInt64) (series : Int32) (body : Body)
      (authKeyId : Int32) (authValue : Bytes) (frame : Frame),
      compose creator destination sequence series body authKeyId authValue = .ok frame →
        assemble frame.header frame.body frame.trailer = .ok frame ∧
          frame.trailer.checksum = Checksum.compute frame.raw := by
  refine ⟨fun header body trailer => ⟨exists_assemble_iff, fun frame assembled => ?_⟩, ?_⟩
  · obtain ⟨raw, encoded, rfl⟩ := assemble_eq_ok.mp assembled
    exact ⟨rfl, rfl, rfl, laysOut_of_encode encoded⟩
  · intro creator destination sequence series body authKeyId authValue frame composed
    refine ⟨assemble_eq_ok.mpr ⟨frame.raw, encode_of_compose composed, rfl⟩, ?_⟩
    rw [(checksum_of_compose composed).1]

end Frame

end ContinuousData
