import ContinuousData.Proofs.BodyFailures
import ContinuousData.Proofs.FrameBoundaries

/-! How far a frame extends. It ends where the trailer ends that its header points to, and parsing
finds that trailer exactly where the splitter cuts the frame off. No frame begins another one. -/
namespace ContinuousData

open Splitter

namespace Decoder

variable {α β : Type}

/-- The decoder takes as many bytes as there are in a fixed width, whatever they are. -/
def Takes (decoder : Decoder α) (count : Nat) : Prop :=
  ∀ input, count ≤ input.length → ∃ value, decoder input = .ok value (input.drop count)

theorem Takes.pure (value : α) : Takes (Pure.pure value) 0 :=
  fun _ _ => ⟨value, rfl⟩

theorem Takes.bind {first : Decoder α} {next : α → Decoder β} {count others : Nat}
    (h : Takes first count) (hn : ∀ value, Takes (next value) others) :
    Takes (first >>= next) (count + others) := by
  intro input long
  obtain ⟨value, read⟩ := h input (by omega)
  obtain ⟨result, later⟩ := hn value (input.drop count) (by rw [List.length_drop]; omega)
  rw [bind_of_ok read, ← List.drop_drop]
  exact ⟨result, later⟩

theorem Takes.map {decoder : Decoder α} {count : Nat} (f : α → β) (h : Takes decoder count) :
    Takes (do return f (← decoder)) count :=
  h.bind fun value => Takes.pure (f value)

theorem takes_number (scalar : Scalar) : Takes (number scalar) scalar.width :=
  fun _ long => ⟨_, if_neg (Nat.not_lt.mpr long)⟩

theorem takes_bytes (count : Nat) : Takes (bytes count) count :=
  fun _ long => ⟨_, if_neg (Nat.not_lt.mpr long)⟩

theorem takes_skip (count : Nat) : Takes (skip count) count :=
  fun _ long => ⟨_, if_neg (Nat.not_lt.mpr long)⟩

theorem takes_text (width : Nat) : Takes (text width) width :=
  (takes_bytes width).map Text.strip

theorem takes_i32 : Takes i32 4 :=
  (takes_number .i32).map _

theorem takes_u64 : Takes u64 8 :=
  (takes_number .i64).map _

theorem takes_paddedBytes (count : Nat) : Takes (paddedBytes count) (Bytes.aligned count) :=
  (takes_bytes count).bind fun value => (takes_skip _).map fun _ => value

/-- A length field that is not negative. -/
theorem length_of_word {input : Bytes} (field : String) (long : 4 ≤ input.length)
    (nonneg : ¬ word (input.take 4) < 0) :
    length field input = .ok (word (input.take 4)).toInt.toNat (input.drop 4) := by
  unfold length
  rw [bind_of_ok (i32_of_length long), if_neg nonneg]
  rfl

end Decoder

namespace Header

/-- Behind its type and its offset, a header can hold anything. -/
theorem exists_read {input left : Bytes} {type : FrameType} {offset : Nat}
    (h : readTypeAndOffset input = .ok (type, offset) left) (arrived : width ≤ input.length) :
    ∃ header rest, read input = .ok header rest ∧ header.trailerOffset = offset := by
  obtain ⟨-, -, -, split⟩ := typeAndOffset_eq_ok h
  have long : creatorWidth + (destinationWidth + (8 + 4)) ≤ left.length := by
    rw [split] at arrived
    simp only [List.length_append, Encoder.length_i32, Encoder.length_length, width] at arrived
    unfold creatorWidth destinationWidth
    omega
  have others (creator : String) (destination : String) (sequence : UInt64) :
      Decoder.Takes (do return Header.mk type offset creator destination sequence (← Decoder.i32))
        4 := Decoder.takes_i32.map _
  have fields := (Decoder.takes_text creatorWidth).bind fun creator =>
    (Decoder.takes_text destinationWidth).bind fun destination =>
      Decoder.takes_u64.bind (others creator destination)
  obtain ⟨header, rest⟩ := fields left long
  have whole : read input = .ok header (left.drop (creatorWidth + (destinationWidth + (8 + 4)))) :=
    (Decoder.bind_of_ok h).trans rest
  obtain ⟨_, again⟩ := typeAndOffset_of_read whole
  rw [h] at again
  injection again with same
  exact ⟨header, _, whole, (Prod.mk.inj same).2.symm⟩

end Header

namespace Trailer

theorem length_of_read {input rest : Bytes} {trailer : Trailer}
    (h : read input = .ok trailer rest) : input.length = trailer.wireLength + rest.length := by
  obtain ⟨padded, checksum, -, long, width, rfl⟩ := read_eq_ok h
  simp only [List.length_append, Encoder.length_i32, Encoder.length_length, long, width, wireLength,
    lengthFor, fixedWidth]

/-- A trailer takes up as many bytes as its size demands. -/
theorem exists_read_of_le {input : Bytes} (nonneg : ¬ word ((input.drop 4).take 4) < 0)
    (enough : lengthFor (word ((input.drop 4).take 4)).toInt.toNat ≤ input.length) :
    ∃ trailer,
      read input = .ok trailer
        (input.drop (lengthFor (word ((input.drop 4).take 4)).toInt.toNat)) := by
  unfold lengthFor fixedWidth checksumWidth at enough ⊢
  obtain ⟨key, first⟩ := Decoder.takes_i32 input (by omega)
  have size := Decoder.length_of_word "authentication size"
    (show 4 ≤ (input.drop 4).length by rw [List.length_drop]; omega) nonneg
  have rest : Bytes.aligned (word ((input.drop 4).take 4)).toInt.toNat + 8 ≤
      ((input.drop 4).drop 4).length := by
    rw [List.length_drop, List.length_drop]
    omega
  have fields := (Decoder.takes_paddedBytes (word ((input.drop 4).take 4)).toInt.toNat).bind
    fun value => Decoder.takes_u64.map (Trailer.mk key value)
  obtain ⟨trailer, last⟩ := fields ((input.drop 4).drop 4) rest
  rw [List.drop_drop, List.drop_drop, ← Nat.add_assoc] at last
  refine ⟨trailer, ?_⟩
  unfold read Decoder.sized
  rw [Decoder.bind_of_ok first, bind_assoc, Decoder.bind_of_ok size, List.drop_drop]
  exact last

theorem exists_read {input : Bytes} (nonneg : ¬ word ((input.drop 4).take 4) < 0)
    (whole : input.length = lengthFor (word ((input.drop 4).take 4)).toInt.toNat) :
    ∃ trailer, read input = .ok trailer [] := by
  obtain ⟨trailer, last⟩ := exists_read_of_le nonneg whole.ge
  rw [List.drop_eq_nil_of_le whole.le] at last
  exact ⟨trailer, last⟩

end Trailer

namespace Frame

/-- The header and the trailer that were found, in a frame or in bytes that are none. -/
def ends : Except PartialFrame Frame → Option (Header × Trailer)
  | .ok frame => some (frame.header, frame.trailer)
  | .error broken => do return (← broken.header, ← broken.trailer)

/-- The bytes end where the trailer does that was found in them. -/
def IsDelimited (raw : Bytes) : Prop :=
  ∃ header trailer, ends (parse raw).1 = some (header, trailer) ∧
    raw.length = header.trailerOffset + trailer.wireLength

/-- Header and trailer are in place, but the body makes no sense. -/
def FailsInBody (raw : Bytes) : Prop :=
  ∃ header body trailer reason,
    (parse raw).1 = .error ⟨some header, some body, some trailer, reason, raw⟩ ∧
      (readBody header body).1 = .error reason

variable {raw : Bytes} {header : Header} {trailer : Trailer}

theorem HasEnds.length_eq (h : HasEnds raw header trailer) :
    raw.length = header.trailerOffset + trailer.wireLength := by
  have inside := h.inside
  have length := Trailer.length_of_read h.last
  rw [List.length_drop, List.length_nil] at length
  omega

theorem ends_eq_some {broken : PartialFrame} (h : ends (.error broken) = some (header, trailer)) :
    broken.header = some header ∧ broken.trailer = some trailer := by
  obtain ⟨first, found, h⟩ := Option.bind_eq_some_iff.mp h
  obtain ⟨last, foundTrailer, h⟩ := Option.bind_eq_some_iff.mp h
  obtain ⟨rfl, rfl⟩ := Prod.mk.inj (Option.some.inj h)
  exact ⟨found, foundTrailer⟩

theorem isDelimited_iff : IsDelimited raw ↔ ∃ header trailer, HasEnds raw header trailer := by
  constructor
  · rintro ⟨header, trailer, found, length⟩
    rcases parse_cases raw with ends | ⟨broken, failed, behind⟩
    · exact ends
    rw [failed] at found
    obtain ⟨foundHeader, foundTrailer⟩ := ends_eq_some found
    obtain ⟨rest, more, last, inside, -⟩ := behind header trailer foundHeader foundTrailer
    have total := Trailer.length_of_read last
    rw [List.length_drop] at total
    exact absurd (List.eq_nil_of_length_eq_zero (by omega)) more
  · rintro ⟨header, trailer, h⟩
    refine ⟨header, trailer, ?_, h.length_eq⟩
    rw [h.parse_eq]
    split <;> rfl

theorem isLocal_of_readBody {body : Bytes} {reason : Error}
    (h : (readBody header body).1 = .error reason) : reason.IsLocal := by
  unfold readBody at h
  split at h
  · rw [← Except.error.inj h]
    exact nofun
  · exact Body.isLocal_of_read h

/-- Between its ends, only the body of a frame can be wrong. -/
theorem isDelimited_iff_parse :
    IsDelimited raw ↔ (∃ frame, (parse raw).1 = .ok frame) ∨ FailsInBody raw := by
  rw [isDelimited_iff]
  constructor
  · rintro ⟨header, trailer, ends⟩
    rw [FailsInBody, ends.parse_eq]
    cases between : Body.read header.type (middle raw header) with
    | mk result notices =>
      cases result with
      | ok body => exact .inl ⟨_, rfl⟩
      | error reason =>
        have why : (readBody header (middle raw header)).1 = .error reason := by
          rw [ends.readBody_eq, between]
        exact .inr ⟨header, _, trailer, reason, rfl, why⟩
  · rintro (⟨frame, parsed⟩ | ⟨header, body, trailer, reason, failed, why⟩)
    · exact ⟨frame.header, frame.trailer, (parse_eq_ok parsed).2.1⟩
    · rcases parse_cases raw with ends | ⟨broken, stopped, behind⟩
      · exact ends
      -- Parsing stopped at bytes behind the trailer, which no body reader complains of.
      rw [stopped] at failed
      obtain rfl := Except.error.inj failed
      obtain ⟨rest, -, -, -, same⟩ := behind header trailer rfl rfl
      exact absurd same (isLocal_of_readBody why rest.length)

end Frame

namespace Splitter

variable {limit : Nat} {buffer raw rest : Bytes}

/-- A frame that is cut off has the length that its header and its trailer tell. -/
theorem next_eq_frame (h : next limit buffer = some (.frame raw, rest)) :
    ∃ type offset left, Header.readTypeAndOffset buffer = .ok (type, offset) left ∧
      ¬ word ((buffer.drop (offset + 4)).take 4) < 0 ∧
      raw.length = offset +
        Trailer.lengthFor (word ((buffer.drop (offset + 4)).take 4)).toInt.toNat := by
  revert h
  unfold next dropGarbage
  dsimp only
  split
  · exact nofun
  split
  · exact nofun
  case h_2 type offset left typeAndOffset =>
    split_ifs with late short negative long incomplete
    iterate 5 exact nofun
    intro h
    obtain ⟨cut, -⟩ := Prod.mk.inj (Option.some.inj h)
    rw [← Piece.frame.inj cut]
    exact ⟨type, offset, left, typeAndOffset, negative,
      List.length_take_of_le (Nat.not_lt.mp incomplete)⟩

/-- Where a frame is cut off, its header and its trailer can be read. -/
theorem hasEnds_of_next (h : next limit (raw ++ rest) = some (.frame raw, rest)) :
    ∃ header trailer, Frame.HasEnds raw header trailer := by
  obtain ⟨type, offset, left, first, nonneg, length⟩ := next_eq_frame h
  obtain ⟨sent, after, fits, split⟩ := Header.typeAndOffset_eq_ok first
  unfold Header.width at after
  have fixed : offset + 16 ≤ raw.length := by
    rw [length]
    unfold Trailer.lengthFor Trailer.fixedWidth Trailer.checksumWidth
    omega
  -- What follows the frame has no part in its size and its header.
  have size : (((raw ++ rest).drop (offset + 4)).take 4) = ((raw.drop offset).drop 4).take 4 := by
    rw [List.drop_append_of_le_length (by omega), List.drop_drop]
    exact List.take_append_of_le_length (by rw [List.length_drop]; omega)
  rw [size] at nonneg length
  have front : (Encoder.i32 type.code ++ Encoder.length offset).length = 8 := by
    rw [List.length_append, Encoder.length_i32, Encoder.length_length]
  have start : raw = Encoder.i32 type.code ++ Encoder.length offset ++ raw.drop 8 := by
    have head := congrArg (List.take 8) split
    rw [List.take_append_of_le_length (by omega), ← front, List.take_left] at head
    rw [← head, front, List.take_append_drop]
  have again := Header.reads_typeAndOffset sent after fits (raw.drop 8)
  rw [← start] at again
  obtain ⟨header, _, read, rfl⟩ := Header.exists_read again (by unfold Header.width; omega)
  obtain ⟨trailer, last⟩ := Trailer.exists_read nonneg (by rw [List.length_drop]; omega)
  exact ⟨header, trailer, ⟨_, read⟩, by omega, last⟩

theorem next_append_iff (short : raw.length ≤ limit) :
    next limit (raw ++ rest) = some (.frame raw, rest) ↔
      ∃ header trailer, Frame.HasEnds raw header trailer := by
  constructor
  · exact hasEnds_of_next
  · rintro ⟨header, trailer, ends⟩
    obtain ⟨o, rfl⟩ := Outline.exists_of_hasEnds ends
    rw [Outline.next_of_prefix short List.prefix_rfl, List.drop_left, if_neg]
    rw [List.length_append]
    omega

/-- In front of the last byte of a frame there is nothing to be cut off. -/
theorem next_of_hasEnds {start : Bytes} {header : Header} {trailer : Trailer}
    (short : raw.length ≤ limit) (ends : Frame.HasEnds raw header trailer) (h : start <+: raw)
    (strict : start ≠ raw) : next limit start = none := by
  obtain ⟨o, rfl⟩ := Outline.exists_of_hasEnds ends
  have incomplete : start.length < o.raw.length :=
    Nat.lt_of_le_of_ne h.length_le (mt h.eq_of_length strict)
  rw [@Outline.next_of_prefix limit o start [] short (by rwa [List.append_nil]), if_pos incomplete]

/-- The splitter and the parser agree on what one frame is, and no frame begins another one. -/
theorem next_eq_frame_iff (short : raw.length ≤ limit) (rest : Bytes) :
    (next limit (raw ++ rest) = some (.frame raw, rest) ↔ Frame.IsDelimited raw) ∧
      (Frame.IsDelimited raw ↔
        (∃ frame, (Frame.parse raw).1 = .ok frame) ∨ Frame.FailsInBody raw) ∧
      (Frame.IsDelimited raw → ∀ start, start <+: raw → start ≠ raw →
        next limit start = none ∧ ¬ Frame.IsDelimited start ∧
          ∃ broken, (Frame.parse start).1 = .error broken) := by
  refine ⟨?_, Frame.isDelimited_iff_parse, ?_⟩
  · rw [Frame.isDelimited_iff]
    exact next_append_iff short
  · intro delimited start begins strict
    obtain ⟨header, trailer, ends⟩ := Frame.isDelimited_iff.mp delimited
    have waiting := next_of_hasEnds short ends begins strict
    have shorter : start.length ≤ limit := begins.length_le.trans short
    have unfinished : ¬ Frame.IsDelimited start := by
      rw [Frame.isDelimited_iff, ← @next_append_iff limit start [] shorter, List.append_nil,
        waiting]
      exact nofun
    refine ⟨waiting, unfinished, ?_⟩
    cases parsed : (Frame.parse start).1 with
    | error broken => exact ⟨broken, rfl⟩
    | ok frame => exact absurd (Frame.isDelimited_iff_parse.mpr (.inl ⟨frame, parsed⟩)) unfinished

/-- An ALERT of one byte that is no length, so that the trailer starts at an odd place, with an
authentication value of one byte. -/
def crooked : Bytes :=
  Encoder.i32 7 ++ Encoder.length 37 ++ Bytes.zeros 28 ++ [0xFF] ++ Bytes.zeros 4 ++
    Encoder.length 1 ++ [9, 0, 0, 0] ++ Bytes.zeros 8

/-- It is cut off at the right place although its body makes no sense. -/
theorem next_eq_frame_iff_crooked :
    crooked.length ≤ 57 ∧ Frame.FailsInBody crooked ∧
      next 57 (crooked ++ [0, 0, 0, 7]) = some (.frame crooked, [0, 0, 0, 7]) ∧
      next 57 (crooked.take 56) = none := by
  have short : crooked.length ≤ 57 := by decide
  have senseless : Frame.FailsInBody crooked := ⟨_, _, _, _, rfl, rfl⟩
  obtain ⟨cut, extent, waiting⟩ := next_eq_frame_iff short [0, 0, 0, 7]
  have delimited := extent.mpr (.inr senseless)
  exact ⟨short, senseless, cut.mpr delimited,
    (waiting delimited (crooked.take 56) (List.take_prefix 56 crooked) (by decide)).1⟩

end Splitter

end ContinuousData
