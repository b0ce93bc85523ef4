import ContinuousData.Proofs.FrameCodec
import ContinuousData.Stream.Splitter

/-! Frames are cut off a stream of bytes at their ends, however the bytes arrive. -/
namespace ContinuousData

open Splitter

theorem word_length {value : Nat} (h : value ≤ Encoder.maxLength) :
    word (Encoder.length value) = Int32.ofNat value := by
  have small : value < 256 ^ 4 := Nat.lt_of_le_of_lt h (by decide)
  have whole : value % Nat.pow 256 4 = value := Nat.mod_eq_of_lt small
  rw [word, Encoder.length, Bytes.ofBigEndian_bigEndian, whole, UInt32.toInt32_ofNat']

/-- The splitter reads words as decoders do. -/
theorem Decoder.i32_of_length {input : Bytes} (long : 4 ≤ input.length) :
    i32 input = .ok (word (input.take 4)) (input.drop 4) := by
  have read : number .i32 input = .ok (Bytes.ofBigEndian (input.take 4)) (input.drop 4) :=
    if_neg (Nat.not_lt.mpr long)
  exact bind_of_ok read

/-- What tells the length of a frame, and whatever stands in between. -/
structure Outline where
  type : FrameType
  body : Bytes
  key : Bytes
  size : Nat
  back : Bytes
  sent : type ≠ .malformed
  behindHeader : Header.width ≤ 8 + body.length
  offsetFits : 8 + body.length ≤ Encoder.maxLength
  sizeFits : size ≤ Encoder.maxLength
  length_key : key.length = 4
  length_back : back.length = Bytes.aligned size + Trailer.checksumWidth

namespace Outline

/-- Where the trailer starts. -/
def offset (o : Outline) : Nat :=
  8 + o.body.length

def head (o : Outline) : Bytes :=
  Encoder.i32 o.type.code ++ Encoder.length o.offset

/-- Everything before the authentication value. -/
def front (o : Outline) : Bytes :=
  o.head ++ o.body ++ o.key ++ Encoder.length o.size

def raw (o : Outline) : Bytes :=
  o.front ++ o.back

theorem length_front (o : Outline) : o.front.length = o.offset + 8 := by
  simp only [front, head, offset, List.length_append, Encoder.length_i32, Encoder.length_length,
    o.length_key]

theorem length_raw (o : Outline) : o.raw.length = o.offset + Trailer.lengthFor o.size := by
  simp only [raw, List.length_append, length_front, o.length_back, Trailer.lengthFor,
    Trailer.fixedWidth]
  omega

theorem width_le_offset (o : Outline) : Header.width ≤ o.offset :=
  o.behindHeader

/-- Once the header has arrived, it tells the type and where the trailer starts. -/
theorem readTypeAndOffset_of_prefix {o : Outline} {buffer rest : Bytes}
    (h : buffer <+: o.raw ++ rest) (arrived : Header.width ≤ buffer.length) :
    ∃ left, Header.readTypeAndOffset buffer = .ok (o.type, o.offset) left := by
  have head : o.head <+: buffer := by
    apply List.prefix_of_prefix_length_le ?_ h ?_
    · simp only [raw, front, List.append_assoc, List.prefix_append]
    · rw [head, List.length_append, Encoder.length_i32, Encoder.length_length]
      unfold Header.width at arrived
      omega
  obtain ⟨left, split⟩ := head
  rw [← split]
  exact ⟨left, Header.reads_typeAndOffset o.sent o.width_le_offset o.offsetFits left⟩

/-- Once it has arrived, the size is where the splitter looks for it. -/
theorem word_of_prefix {o : Outline} {buffer rest : Bytes} (h : buffer <+: o.raw ++ rest)
    (arrived : o.offset + Trailer.fixedWidth ≤ buffer.length) :
    word ((buffer.drop (o.offset + Trailer.fixedWidth - 4)).take 4) = Int32.ofNat o.size := by
  have front : o.front <+: buffer := by
    apply List.prefix_of_prefix_length_le ?_ h ?_
    · simp only [raw, List.append_assoc, List.prefix_append]
    · rw [length_front]
      exact arrived
  obtain ⟨left, rfl⟩ := front
  have before : (o.head ++ o.body ++ o.key).length = o.offset + Trailer.fixedWidth - 4 := by
    simp only [head, offset, List.length_append, Encoder.length_i32, Encoder.length_length,
      o.length_key, Trailer.fixedWidth]
    omega
  rw [Outline.front, List.append_assoc _ (Encoder.length o.size), ← before, List.drop_left,
    List.take_left' (Encoder.length_length o.size), word_length o.sizeFits]

theorem toInt_size (o : Outline) : (Int32.ofNat o.size).toInt = o.size :=
  Int32.toInt_ofNat_of_lt (Nat.lt_of_le_of_lt o.sizeFits (by decide))

/-- A frame at the front of a stream is cut off at its last byte, and not before it is there. -/
theorem next_of_prefix {limit : Nat} {o : Outline} {buffer rest : Bytes}
    (short : o.raw.length ≤ limit) (h : buffer <+: o.raw ++ rest) :
    next limit buffer =
      if buffer.length < o.raw.length then none
      else some (.frame o.raw, buffer.drop o.raw.length) := by
  have length := o.length_raw
  have total : o.offset + 16 ≤ o.raw.length := by
    rw [length, Trailer.lengthFor, Trailer.fixedWidth, Trailer.checksumWidth]
    omega
  have after := o.width_le_offset
  unfold next
  by_cases noHeader : buffer.length < Header.width
  · rw [if_pos noHeader, if_pos (by omega)]
  obtain ⟨left, typeAndOffset⟩ := readTypeAndOffset_of_prefix h (Nat.not_lt.mp noHeader)
  rw [if_neg noHeader, typeAndOffset]
  dsimp only
  rw [if_neg (by omega)]
  by_cases noSize : buffer.length < o.offset + Trailer.fixedWidth
  · have incomplete : buffer.length < o.raw.length := by
      unfold Trailer.fixedWidth at noSize
      omega
    rw [if_pos noSize, if_pos incomplete]
  have nonneg : ¬ Int32.ofNat o.size < 0 := by
    rw [Int32.lt_iff_toInt_lt, o.toInt_size]
    simp
  rw [if_neg noSize, word_of_prefix h (Nat.not_lt.mp noSize), if_neg nonneg, o.toInt_size,
    Int.toNat_natCast, ← length, if_neg (Nat.not_lt.mpr short)]
  by_cases incomplete : buffer.length < o.raw.length
  · rw [if_pos incomplete, if_pos incomplete]
  · obtain ⟨others, whole⟩ : o.raw <+: buffer :=
      List.prefix_of_prefix_length_le (List.prefix_append _ _) h (Nat.not_lt.mp incomplete)
    rw [if_neg incomplete, if_neg incomplete, ← whole, List.take_left]

theorem exists_of_fields {type : FrameType} {offset size : Nat} {key : Bytes} (body back : Bytes)
    (sent : type ≠ .malformed) (after : Header.width ≤ offset) (fits : offset ≤ Encoder.maxLength)
    (length_body : 8 + body.length = offset) (length_key : key.length = 4)
    (sizeFits : size ≤ Encoder.maxLength)
    (length_back : back.length = Bytes.aligned size + Trailer.checksumWidth) :
    ∃ o : Outline, o.raw = Encoder.i32 type.code ++ Encoder.length offset ++ body ++ key ++
      Encoder.length size ++ back := by
  subst length_body
  exact ⟨⟨type, body, key, size, back, sent, after, fits, sizeFits, length_key, length_back⟩, rfl⟩

theorem exists_of_encode {header : Header} {body : Body} {trailer : Trailer} {raw : Bytes}
    (h : Frame.encode header body trailer = .ok raw) : ∃ o : Outline, o.raw = raw := by
  obtain ⟨same, head, hh, middle, -, offset, tail, ht, rfl⟩ := Frame.encode_eq_ok.mp h
  obtain ⟨after, fits, creator, destination, hc, hd, rfl⟩ := Header.write_eq_ok hh
  obtain ⟨value, hv, rfl⟩ := Trailer.write_eq_ok.mp ht
  obtain ⟨sizeFits, rfl⟩ := Encoder.sized_eq_ok.mp hv
  have sent : header.type ≠ .malformed := same ▸ body.type_ne_malformed
  have length_body : 8 + (creator ++ destination ++ Encoder.u64 header.sequence ++
      Encoder.i32 header.series ++ middle).length = header.trailerOffset := by
    simp only [List.length_append, Encoder.length_text hc, Encoder.length_text hd,
      Encoder.length_u64, Encoder.length_i32, ← offset, Header.creatorWidth,
      Header.destinationWidth, Header.width]
    omega
  have length_back : (Encoder.padded trailer.authValue ++ Encoder.u64 trailer.checksum).length =
      Bytes.aligned trailer.authValue.length + Trailer.checksumWidth := by
    rw [List.length_append, Encoder.length_padded, Encoder.length_u64]
    rfl
  obtain ⟨o, fields⟩ := exists_of_fields _ _ sent after fits length_body
    (Encoder.length_i32 trailer.authKeyId) sizeFits length_back
  refine ⟨o, ?_⟩
  rw [fields]
  simp only [List.append_assoc]

/-- What stands between header and trailer does not matter. -/
theorem exists_of_hasEnds {raw : Bytes} {header : Header} {trailer : Trailer}
    (h : Frame.HasEnds raw header trailer) : ∃ o : Outline, o.raw = raw := by
  obtain ⟨⟨_, first⟩, long, last⟩ := h
  obtain ⟨left, typeAndOffset⟩ := Header.typeAndOffset_of_read first
  obtain ⟨sent, after, fits, split⟩ := Header.typeAndOffset_eq_ok typeAndOffset
  obtain ⟨padded, checksum, sizeFits, length_padded, length_checksum, fields⟩ :=
    Trailer.read_eq_ok last
  have head : (Encoder.i32 header.type.code ++ Encoder.length header.trailerOffset).length = 8 := by
    rw [List.length_append, Encoder.length_i32, Encoder.length_length]
  unfold Header.width at after
  have drop : raw.drop header.trailerOffset = left.drop (header.trailerOffset - 8) := by
    rw [split, List.drop_append, List.drop_of_length_le (by omega), head, List.nil_append]
  have length : raw.length = 8 + left.length := by
    rw [split, List.length_append, head]
  have length_body : 8 + (left.take (header.trailerOffset - 8)).length = header.trailerOffset := by
    rw [List.length_take]
    omega
  have length_back : (padded ++ checksum).length =
      Bytes.aligned trailer.authValue.length + Trailer.checksumWidth := by
    rw [List.length_append, length_padded, length_checksum]
  obtain ⟨o, outline⟩ := exists_of_fields _ _ sent after fits length_body
    (Encoder.length_i32 trailer.authKeyId) sizeFits length_back
  have parts : left = left.take (header.trailerOffset - 8) ++
      (Encoder.i32 trailer.authKeyId ++ Encoder.length trailer.authValue.length ++
        padded ++ checksum ++ []) := by
    rw [← fields, drop, List.take_append_drop]
  refine ⟨o, ?_⟩
  rw [split, parts, outline]
  simp only [List.append_assoc, List.append_nil]

end Outline

/-- The ways to get a frame. -/
inductive Frame.IsObtained : Frame → Prop where
  | assembled {header : Header} {body : Body} {trailer : Trailer} {frame : Frame}
      (h : assemble header body trailer = .ok frame) : IsObtained frame
  | composed {creator destination : String} {sequence : UInt64} {series : Int32} {body : Body}
      {authKeyId : Int32} {authValue : Bytes} {frame : Frame}
      (h : compose creator destination sequence series body authKeyId authValue = .ok frame) :
      IsObtained frame
  | parsed {raw : Bytes} {frame : Frame} (h : (parse raw).1 = .ok frame) : IsObtained frame

theorem Frame.IsObtained.outline {frame : Frame} (h : frame.IsObtained) :
    ∃ o : Outline, o.raw = frame.raw := by
  cases h with
  | assembled h => exact Outline.exists_of_encode (encode_of_assemble h)
  | composed h => exact Outline.exists_of_encode (encode_of_compose h)
  | parsed h =>
    obtain ⟨same, ends, -⟩ := parse_eq_ok h
    rw [same]
    exact Outline.exists_of_hasEnds ends

/-- What is parsed of the bytes of a frame bears its type and its number. -/
theorem Frame.IsObtained.numbers_of_parse {frame whole : Frame} (h : frame.IsObtained)
    (parsed : (parse frame.raw).1 = .ok whole) :
    whole.type = frame.type ∧ whole.sequence = frame.sequence := by
  cases h with
  | assembled h => exact numbers_of_encode (encode_of_assemble h) parsed
  | composed h => exact numbers_of_encode (encode_of_compose h) parsed
  | parsed h =>
    rw [(parse_eq_ok h).1, h] at parsed
    obtain rfl := Except.ok.inj parsed
    exact ⟨rfl, rfl⟩

namespace Splitter

theorem pieces_of_none {limit : Nat} {buffer : Bytes} (h : next limit buffer = none) :
    pieces limit buffer = ([], buffer) := by
  rw [pieces]
  split
  case h_1 => rfl
  case h_2 found =>
    rw [h] at found
    contradiction

theorem pieces_of_some {limit : Nat} {buffer rest : Bytes} {piece : Piece}
    (h : next limit buffer = some (piece, rest)) :
    pieces limit buffer = (piece :: (pieces limit rest).1, (pieces limit rest).2) := by
  rw [pieces]
  split
  case h_1 found =>
    rw [h] at found
    contradiction
  case h_2 found =>
    rw [h] at found
    obtain ⟨rfl, rfl⟩ := Prod.mk.inj (Option.some.inj found)
    rfl

variable {limit : Nat}

/-- Of the frames on their way, the first ones have arrived completely. What is left is too little
to tell more. -/
theorem pieces_of_prefix {outlines : List Outline} {buffer rest : Bytes}
    (short : ∀ o ∈ outlines, o.raw.length ≤ limit)
    (h : buffer ++ rest = (outlines.map (·.raw)).flatten) :
    ∃ arrived waiting left, outlines = arrived ++ waiting ∧
      pieces limit buffer = (arrived.map (.frame ·.raw), left) ∧ next limit left = none ∧
      left ++ rest = (waiting.map (·.raw)).flatten := by
  induction outlines generalizing buffer with
  | nil =>
    obtain ⟨rfl, rfl⟩ := List.append_eq_nil_iff.mp h
    exact ⟨[], [], [], rfl, pieces_of_none rfl, rfl, rfl⟩
  | cons first others ih =>
    obtain ⟨firstShort, othersShort⟩ := List.forall_mem_cons.mp short
    rw [List.map_cons, List.flatten_cons] at h
    have found := Outline.next_of_prefix firstShort (h ▸ List.prefix_append buffer rest)
    by_cases incomplete : buffer.length < first.raw.length
    · rw [if_pos incomplete] at found
      exact ⟨[], first :: others, buffer, rfl, pieces_of_none found, found, h⟩
    · rw [if_neg incomplete] at found
      have whole : buffer = first.raw ++ buffer.drop first.raw.length := by
        rw [← next_append found]
        simp [Piece.raw]
      rw [whole, List.append_assoc, List.append_cancel_left_eq] at h
      obtain ⟨arrived, waiting, left, rfl, cut, last, remaining⟩ := ih othersShort h
      refine ⟨first :: arrived, waiting, left, rfl, ?_, last, remaining⟩
      rw [pieces_of_some found, cut]
      rfl

/-- The invariant between two chunks: the buffer and what is still to come are the bytes of some
frames, and the buffer holds none of them completely. -/
theorem feedAll_of_flatten {outlines : List Outline} {buffer : Bytes} {chunks : List Bytes}
    (short : ∀ o ∈ outlines, o.raw.length ≤ limit) (last : next limit buffer = none)
    (h : buffer ++ chunks.flatten = (outlines.map (·.raw)).flatten) :
    feedAll limit buffer chunks = (outlines.map (.frame ·.raw), []) := by
  induction chunks generalizing outlines buffer with
  | nil =>
    rw [List.flatten_nil, List.append_nil] at h
    cases outlines with
    | nil =>
      rw [h]
      rfl
    | cons first others =>
      rw [List.map_cons, List.flatten_cons] at h
      have found := Outline.next_of_prefix (short first List.mem_cons_self)
        ⟨[], (List.append_nil buffer).trans h⟩
      have whole : ¬ buffer.length < first.raw.length := by
        rw [h, List.length_append]
        omega
      rw [if_neg whole, last] at found
      contradiction
  | cons chunk chunks ih =>
    rw [List.flatten_cons, ← List.append_assoc] at h
    obtain ⟨arrived, waiting, left, rfl, cut, last, remaining⟩ := pieces_of_prefix short h
    have later := ih (fun o ho => short o (List.mem_append_right arrived ho)) last remaining
    rw [feedAll, feed, cut]
    dsimp only
    rw [later, List.map_append]

theorem exists_outlines {frames : List Frame} (obtained : ∀ frame ∈ frames, frame.IsObtained) :
    ∃ outlines : List Outline, outlines.map (·.raw) = frames.map (·.raw) := by
  induction frames with
  | nil => exact ⟨[], rfl⟩
  | cons frame frames ih =>
    obtain ⟨first, others⟩ := List.forall_mem_cons.mp obtained
    obtain ⟨o, raw⟩ := first.outline
    obtain ⟨outlines, raws⟩ := ih others
    exact ⟨o :: outlines, by rw [List.map_cons, List.map_cons, raw, raws]⟩

/-- Frames that are sent one after the other come out of the stream as they are, in whatever chunks
their bytes arrive, and nothing is left. -/
theorem feedAll_of_isObtained {frames : List Frame} {chunks : List Bytes}
    (obtained : ∀ frame ∈ frames, frame.IsObtained)
    (short : ∀ frame ∈ frames, frame.raw.length ≤ limit)
    (h : chunks.flatten = (frames.map (·.raw)).flatten) :
    feedAll limit [] chunks = (frames.map (.frame ·.raw), []) := by
  obtain ⟨outlines, raws⟩ := exists_outlines obtained
  have shortOutlines : ∀ o ∈ outlines, o.raw.length ≤ limit := by
    intro o ho
    have member : o.raw ∈ frames.map (·.raw) := raws ▸ List.mem_map_of_mem ho
    obtain ⟨frame, hf, same⟩ := List.mem_map.mp member
    rw [← same]
    exact short frame hf
  have pieces : outlines.map (Piece.frame ·.raw) = frames.map (Piece.frame ·.raw) := by
    have same := congrArg (List.map Piece.frame) raws
    rwa [List.map_map, List.map_map] at same
  rw [← pieces]
  exact feedAll_of_flatten shortOutlines rfl (by rw [raws, ← h, List.nil_append])

/-- Two resets, cut within both headers and in an empty place. -/
theorem feedAll_of_isObtained_resets :
    ∃ reset : Frame,
      Frame.assemble ⟨.customReset, 36, "A", "B", 0, 0⟩ (.customReset []) ⟨0, [], 0⟩ = .ok reset ∧
      feedAll 52 [] [reset.raw.take 1, [], reset.raw.drop 1 ++ reset.raw.take 30,
        reset.raw.drop 30] = ([.frame reset.raw, .frame reset.raw], []) := by
  obtain ⟨reset, assembled⟩ : ∃ reset, Frame.assemble ⟨.customReset, 36, "A", "B", 0, 0⟩
      (.customReset []) ⟨0, [], 0⟩ = .ok reset := ⟨_, rfl⟩
  have length : reset.raw.length = 52 := by
    obtain rfl := Except.ok.inj assembled
    rfl
  refine ⟨reset, assembled, @feedAll_of_isObtained 52 [reset, reset] _ ?_ ?_ ?_⟩
  · simpa using Frame.IsObtained.assembled assembled
  · simp [length]
  · simp only [List.flatten_cons, List.flatten_nil, List.map_cons, List.map_nil, List.append_nil,
      List.nil_append, List.append_assoc, List.take_append_drop]
    rw [← List.append_assoc, List.take_append_drop]

end Splitter

end ContinuousData
