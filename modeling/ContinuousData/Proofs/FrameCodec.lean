import ContinuousData.Frame.Basic
import ContinuousData.Proofs.FieldReading
import ContinuousData.Proofs.PlainText
import ContinuousData.Proofs.Results

/-! Headers and trailers come back from their bytes, and a frame is parsed into them and a body. -/
namespace ContinuousData

namespace Header

theorem reads_typeAndOffset {type : FrameType} {offset : Nat} (sent : type ≠ .malformed)
    (after : width ≤ offset) (fits : offset ≤ Encoder.maxLength) :
    Decoder.Reads readTypeAndOffset (Encoder.i32 type.code ++ Encoder.length offset)
      (type, offset) := by
  have small : offset < 2 ^ 31 := by
    unfold Encoder.maxLength at fits
    omega
  have value : (Int32.ofNat offset).toInt = offset := Int32.toInt_ofNat_of_lt small
  have behind : ¬ Int32.ofNat offset < 36 := by
    rw [Int32.lt_iff_toInt_lt, value]
    unfold width at after
    have : (36 : Int32).toInt = 36 := rfl
    omega
  apply (Decoder.reads_i32 type.code).bind
  rw [FrameType.ofWire?_code sent, Encoder.length_eq_i32 fits]
  apply (Decoder.reads_i32 _).bind_nil
  dsimp only
  rw [if_neg behind, value]
  exact Decoder.Reads.pure _

theorem write_eq_ok {header : Header} {written : Bytes} (h : header.write = .ok written) :
    width ≤ header.trailerOffset ∧ header.trailerOffset ≤ Encoder.maxLength ∧
      ∃ creator destination, Encoder.text header.creator creatorWidth = .ok creator ∧
        Encoder.text header.destination destinationWidth = .ok destination ∧
        written = Encoder.i32 header.type.code ++ Encoder.length header.trailerOffset ++ creator ++
          destination ++ Encoder.u64 header.sequence ++ Encoder.i32 header.series := by
  unfold write at h
  simp only [refuse_eq_ok, bind_eq_ok, pure_eq_ok, not_or, Nat.not_lt] at h
  obtain ⟨⟨after, fits⟩, creator, hc, destination, hd, rfl⟩ := h
  exact ⟨after, fits, creator, destination, hc, hd, rfl⟩

theorem length_write {header : Header} {written : Bytes} (h : header.write = .ok written) :
    written.length = width := by
  obtain ⟨-, -, creator, destination, hc, hd, rfl⟩ := write_eq_ok h
  simp only [List.length_append, Encoder.length_i32, Encoder.length_length, Encoder.length_u64,
    Encoder.length_text hc, Encoder.length_text hd]
  rfl

theorem write_of_size {header : Header} (after : width ≤ header.trailerOffset)
    (fits : header.trailerOffset ≤ Encoder.maxLength)
    (creator : Text.size header.creator ≤ creatorWidth)
    (destination : Text.size header.destination ≤ destinationWidth) :
    ∃ written, header.write = .ok written := by
  unfold write
  rw [if_neg (by omega), Encoder.text_of_size creator, Encoder.text_of_size destination]
  exact ⟨_, rfl⟩

/-- What the wire keeps of a header. -/
def kept (header : Header) : Header :=
  { header with creator := Text.kept header.creator, destination := Text.kept header.destination }

theorem kept_of_plain {header : Header} (creator : Text.IsPlain header.creator)
    (destination : Text.IsPlain header.destination) : header.kept = header := by
  rw [kept, Text.kept_of_plain creator, Text.kept_of_plain destination]

theorem reads_write {header : Header} {written : Bytes} (h : header.write = .ok written)
    (sent : header.type ≠ .malformed) : Decoder.Reads read written header.kept := by
  obtain ⟨after, fits, creator, destination, hc, hd, rfl⟩ := write_eq_ok h
  simp only [List.append_assoc]
  rw [← List.append_assoc]
  apply (reads_typeAndOffset sent after fits).bind
  apply (Decoder.reads_text_kept hc).bind
  apply (Decoder.reads_text_kept hd).bind
  apply (Decoder.reads_u64 _).bind
  exact (Decoder.reads_i32 _).bind_nil (Decoder.Reads.pure _)

theorem typeAndOffset_eq_ok {input rest : Bytes} {type : FrameType} {offset : Nat}
    (h : readTypeAndOffset input = .ok (type, offset) rest) :
    type ≠ .malformed ∧ width ≤ offset ∧ offset ≤ Encoder.maxLength ∧
      input = Encoder.i32 type.code ++ Encoder.length offset ++ rest := by
  have after := offset_of_readTypeAndOffset h
  obtain ⟨code, left, first, h⟩ := Decoder.bind_eq_ok.mp h
  cases known : FrameType.ofWire? code with
  | none => simp [known] at h
  | some kind =>
    rw [known] at h
    obtain ⟨value, left, second, h⟩ := Decoder.bind_eq_ok.mp h
    split at h
    · simp [bind, EStateM.bind] at h
    obtain ⟨same, rfl⟩ := EStateM.Result.ok.inj h
    obtain ⟨rfl, rfl⟩ := Prod.mk.inj same
    obtain ⟨rfl, sent⟩ := FrameType.ofWire?_eq_some known
    have bound := value.toInt_lt
    have fits : value.toInt.toNat ≤ Encoder.maxLength := by
      unfold Encoder.maxLength
      omega
    have back : Int32.ofNat value.toInt.toNat = value := by
      apply Int32.toInt.inj
      unfold width at after
      rw [Int32.toInt_ofNat_of_lt (by omega)]
      omega
    refine ⟨sent, after, fits, ?_⟩
    rw [Encoder.length_eq_i32 fits, back, List.append_assoc, ← Decoder.i32_eq_ok second]
    exact Decoder.i32_eq_ok first

theorem typeAndOffset_of_read {input rest : Bytes} {header : Header}
    (h : read input = .ok header rest) :
    ∃ left, readTypeAndOffset input = .ok (header.type, header.trailerOffset) left := by
  obtain ⟨⟨type, offset⟩, left, first, h⟩ := Decoder.bind_eq_ok.mp h
  obtain ⟨creator, _, -, h⟩ := Decoder.bind_eq_ok.mp h
  obtain ⟨destination, _, -, h⟩ := Decoder.bind_eq_ok.mp h
  obtain ⟨sequence, _, -, h⟩ := Decoder.bind_eq_ok.mp h
  obtain ⟨series, _, -, result⟩ := Decoder.bind_eq_ok.mp h
  obtain ⟨rfl, -⟩ := EStateM.Result.ok.inj result
  exact ⟨left, first⟩

end Header

namespace Trailer

theorem write_eq_ok {trailer : Trailer} {written : Bytes} :
    trailer.write = .ok written ↔
      ∃ authValue, Encoder.sized trailer.authValue = .ok authValue ∧
        Encoder.i32 trailer.authKeyId ++ authValue ++ Encoder.u64 trailer.checksum = written := by
  unfold write
  simp only [refuse_eq_ok, bind_eq_ok, pure_eq_ok]
  refine ⟨fun h => h.2, fun h => ⟨?_, h⟩⟩
  obtain ⟨authValue, ha, -⟩ := h
  exact Nat.not_lt.mpr (Encoder.sized_eq_ok.mp ha).1

theorem length_write {trailer : Trailer} {written : Bytes} (h : trailer.write = .ok written) :
    written.length = trailer.wireLength := by
  obtain ⟨authValue, ha, rfl⟩ := write_eq_ok.mp h
  simp only [List.length_append, Encoder.length_i32, Encoder.length_u64, Encoder.length_sized ha,
    wireLength, lengthFor, fixedWidth, checksumWidth]
  omega

theorem write_of_size {trailer : Trailer} (fits : trailer.authValue.length ≤ Encoder.maxLength) :
    ∃ written, trailer.write = .ok written := by
  exact ⟨_, write_eq_ok.mpr ⟨_, Encoder.sized_eq_ok.mpr ⟨fits, rfl⟩, rfl⟩⟩

theorem reads_write {trailer : Trailer} {written : Bytes} (h : trailer.write = .ok written) :
    Decoder.Reads read written trailer := by
  obtain ⟨authValue, ha, rfl⟩ := write_eq_ok.mp h
  rw [List.append_assoc]
  apply (Decoder.reads_i32 _).bind
  apply (Decoder.reads_sized _ ha).bind
  exact (Decoder.reads_u64 _).bind_nil (Decoder.Reads.pure trailer)

/-- The checksum stands at the end. -/
theorem read_eq_ok {input rest : Bytes} {trailer : Trailer} (h : read input = .ok trailer rest) :
    ∃ padded checksum, trailer.authValue.length ≤ Encoder.maxLength ∧
      padded.length = Bytes.aligned trailer.authValue.length ∧ checksum.length = checksumWidth ∧
      input = Encoder.i32 trailer.authKeyId ++ Encoder.length trailer.authValue.length ++ padded ++
        checksum ++ rest := by
  obtain ⟨key, left, first, h⟩ := Decoder.bind_eq_ok.mp h
  obtain ⟨value, left, second, h⟩ := Decoder.bind_eq_ok.mp h
  obtain ⟨sum, left, third, h⟩ := Decoder.bind_eq_ok.mp h
  obtain ⟨number, left, taken, result⟩ := Decoder.bind_eq_ok.mp third
  obtain ⟨rfl, rfl⟩ := EStateM.Result.ok.inj h
  obtain ⟨rfl, rfl⟩ := EStateM.Result.ok.inj result
  obtain ⟨checksum, width, -, rfl⟩ := Decoder.number_eq_ok taken
  obtain ⟨padded, fits, long, rfl⟩ := Decoder.sized_eq_ok second
  refine ⟨padded, checksum, fits, long, width, ?_⟩
  rw [Decoder.i32_eq_ok first]
  simp only [List.append_assoc]

end Trailer

namespace Checksum

variable (front : Bytes) {back : Bytes}

theorem covered_append (h : back.length = width) : covered (front ++ back) = front := by
  rw [covered, List.length_append, h, Nat.add_sub_cancel]
  exact List.take_left

theorem compute_append (h : back.length = width) :
    compute (front ++ back) = crc (front ++ Bytes.zeros width) := by
  rw [compute, covered_append front h, List.length_append, Nat.add_sub_cancel_left, h]

theorem stored_append (h : back.length = width) :
    stored (front ++ back) = UInt64.ofNat (Bytes.ofBigEndian back) := by
  rw [stored, List.length_append, h, Nat.add_sub_cancel, List.drop_left]

/-- Only the last eight bytes are replaced. -/
theorem patch_append (h : back.length = width) :
    patch (front ++ back) =
      front ++ Bytes.bigEndian width (compute (front ++ back)).toNat := by
  have long : ¬ (front ++ back).length < width := by
    rw [List.length_append]
    omega
  rw [patch, if_neg long, covered_append front h]

/-- The checksum does not depend on what its own place holds. -/
theorem compute_patch (h : back.length = width) :
    compute (patch (front ++ back)) = compute (front ++ back) := by
  rw [patch_append front h, compute_append front (Bytes.length_bigEndian _ _),
    compute_append front h]

theorem isValid_patch (h : back.length = width) : isValid (patch (front ++ back)) = true := by
  have long : width ≤ (patch (front ++ back)).length := by
    rw [patch_append front h, List.length_append, Bytes.length_bigEndian]
    omega
  have whole : (compute (front ++ back)).toNat % Nat.pow 256 width =
      (compute (front ++ back)).toNat :=
    Nat.mod_eq_of_lt (compute (front ++ back)).toNat_lt
  rw [isValid, compute_patch front h, patch_append front h,
    stored_append front (Bytes.length_bigEndian _ _), Bytes.ofBigEndian_bigEndian, whole,
    UInt64.ofNat_toNat, beq_self_eq_true, Bool.and_true, decide_eq_true_eq]
  rwa [patch_append front h] at long

end Checksum

namespace Acknowledgement

theorem reads_gaps (gaps : List (UInt64 × UInt64)) :
    Decoder.Reads (readGaps gaps.length)
      (gaps.flatMap fun (first, last) => Encoder.u64 first ++ Encoder.u64 last) gaps := by
  induction gaps with
  | nil => exact Decoder.Reads.pure []
  | cons gap gaps ih =>
    obtain ⟨first, last⟩ := gap
    rw [List.flatMap_cons, List.append_assoc]
    exact (Decoder.reads_u64 first).bind
      ((Decoder.reads_u64 last).bind (ih.map ((first, last) :: ·)))

theorem length_gaps (gaps : List (UInt64 × UInt64)) :
    (gaps.flatMap fun (first, last) => Encoder.u64 first ++ Encoder.u64 last).length =
      gaps.length * gapWidth := by
  induction gaps with
  | nil => rfl
  | cons gap gaps ih =>
    rw [List.flatMap_cons, List.length_append, ih, List.length_append, Encoder.length_u64,
      Encoder.length_u64, List.length_cons, gapWidth]
    omega

/-- What the wire keeps of an acknowledgement. -/
def kept (body : Acknowledgement) : Acknowledgement :=
  { body with frameset := Text.kept body.frameset }

/-- Whatever the name of its frame set is, the numbers of an acknowledgement come back. -/
theorem reads_write {body : Acknowledgement} {written : Bytes} (h : body.write = .ok written) :
    Decoder.Reads read written body.kept := by
  unfold write at h
  simp only [refuse_eq_ok, bind_eq_ok, pure_eq_ok, Nat.not_lt] at h
  obtain ⟨field, text, fits, rfl⟩ := h
  intro rest
  unfold read
  simp only [List.append_assoc]
  rw [Decoder.bind_of_ok (Decoder.reads_text_kept text _),
    Decoder.bind_of_ok (Decoder.reads_u64 _ _), Decoder.bind_of_ok (Decoder.reads_u64 _ _),
    Decoder.bind_of_ok (Decoder.reads_length _ fits _)]
  have remaining (input : Bytes) : Decoder.remaining input = .ok input.length input := rfl
  have enough : ¬ ((body.gaps.flatMap fun (first, last) =>
      Encoder.u64 first ++ Encoder.u64 last) ++ rest).length < body.gaps.length * gapWidth := by
    rw [List.length_append, length_gaps]
    omega
  rw [Decoder.bind_of_ok (remaining _), if_neg enough]
  exact (reads_gaps body.gaps).map
    (fun gaps => { body with frameset := Text.kept body.frameset, gaps }) rest

end Acknowledgement

namespace Body

theorem type_ne_malformed (body : Body) : body.type ≠ .malformed := by
  cases body <;> exact nofun

theorem type_of_reader {type : FrameType} {input rest : Bytes} {body : Body}
    (h : reader type input = .ok body rest) : body.type = type := by
  cases type <;> first
    | contradiction
    | obtain ⟨_, _, -, result⟩ := Decoder.bind_eq_ok.mp h
      obtain ⟨rfl, -⟩ := EStateM.Result.ok.inj result
      rfl

theorem read_eq {type : FrameType} (control : type ≠ .data) (input : Bytes) :
    read type input =
      match reader type input with
      | .error reason _ =>
        (.error reason, if type = .encapsulation then [.undecodedEncapsulation] else [])
      | .ok body rest =>
        (.ok body, (if type = .encapsulation then [.undecodedEncapsulation] else []) ++
          if rest = [] then [] else [.trailingBytes type rest.length]) := by
  cases type <;> first | rfl | exact absurd rfl control

/-- A body is of the type that was to be read. -/
theorem type_of_read {type : FrameType} {input : Bytes} {body : Body}
    (h : (read type input).1 = .ok body) : body.type = type := by
  by_cases data : type = .data
  · subst data
    change (DataFrame.read input).1.map Body.data = .ok body at h
    cases content : (DataFrame.read input).1 with
    | error reason =>
      rw [content] at h
      contradiction
    | ok frame =>
      rw [content] at h
      obtain rfl := Except.ok.inj h
      rfl
  · rw [read_eq data] at h
    cases result : reader type input with
    | error reason rest =>
      rw [result] at h
      contradiction
    | ok whole rest =>
      rw [result] at h
      obtain rfl := Except.ok.inj h
      exact type_of_reader result

end Body

namespace Frame

theorem encode_eq_ok {header : Header} {body : Body} {trailer : Trailer} {raw : Bytes} :
    encode header body trailer = .ok raw ↔
      header.type = body.type ∧ ∃ head, header.write = .ok head ∧
        ∃ middle, body.write = .ok middle ∧ Header.width + middle.length = header.trailerOffset ∧
          ∃ tail, trailer.write = .ok tail ∧ head ++ middle ++ tail = raw := by
  unfold encode
  simp only [refuse_eq_ok, bind_eq_ok, pure_eq_ok, ne_eq, not_not]

theorem compose_eq_ok {creator destination : String} {sequence : UInt64} {series : Int32}
    {body : Body} {authKeyId : Int32} {authValue : Bytes} {frame : Frame} :
    compose creator destination sequence series body authKeyId authValue = .ok frame ↔
      ∃ middle, body.write = .ok middle ∧ ∃ raw,
        encode ⟨body.type, Header.width + middle.length, creator, destination, sequence, series⟩
          body ⟨authKeyId, authValue, 0⟩ = .ok raw ∧
        Frame.mk ⟨body.type, Header.width + middle.length, creator, destination, sequence, series⟩
          body ⟨authKeyId, authValue, Checksum.compute raw⟩ (Checksum.patch raw) = frame := by
  unfold compose
  simp only [bind_eq_ok, pure_eq_ok]

theorem exists_compose {creator destination : String} {sequence : UInt64} {series : Int32}
    {body : Body} {middle authValue : Bytes} {authKeyId : Int32} (hm : body.write = .ok middle)
    (offset : Header.width + middle.length ≤ Encoder.maxLength)
    (hc : Text.size creator ≤ Header.creatorWidth)
    (hd : Text.size destination ≤ Header.destinationWidth)
    (ha : authValue.length ≤ Encoder.maxLength) :
    ∃ frame, compose creator destination sequence series body authKeyId authValue = .ok frame := by
  obtain ⟨head, hh⟩ := @Header.write_of_size
    ⟨body.type, Header.width + middle.length, creator, destination, sequence, series⟩
    (Nat.le_add_right _ _) offset hc hd
  obtain ⟨tail, ht⟩ := @Trailer.write_of_size ⟨authKeyId, authValue, 0⟩ ha
  exact ⟨_, compose_eq_ok.mpr
    ⟨middle, hm, _, encode_eq_ok.mpr ⟨rfl, head, hh, middle, hm, rfl, tail, ht, rfl⟩, rfl⟩⟩

/-- The trailer of a composed frame is written with its checksum. -/
theorem patch_encode {header : Header} {body : Body} {authKeyId : Int32} {authValue raw : Bytes}
    (h : encode header body ⟨authKeyId, authValue, 0⟩ = .ok raw) :
    encode header body ⟨authKeyId, authValue, Checksum.compute raw⟩ = .ok (Checksum.patch raw) := by
  obtain ⟨same, head, hh, middle, hm, offset, tail, ht, rfl⟩ := encode_eq_ok.mp h
  obtain ⟨value, hv, rfl⟩ := Trailer.write_eq_ok.mp ht
  refine encode_eq_ok.mpr ⟨same, head, hh, middle, hm, offset, _,
    Trailer.write_eq_ok.mpr ⟨value, hv, rfl⟩, ?_⟩
  simp only [← List.append_assoc]
  rw [Checksum.patch_append _ (Encoder.length_u64 0)]
  rfl

/-- Frames that are sent consist of their parts. -/
theorem encode_of_assemble {header : Header} {body : Body} {trailer : Trailer} {frame : Frame}
    (h : assemble header body trailer = .ok frame) :
    encode frame.header frame.body frame.trailer = .ok frame.raw := by
  unfold assemble at h
  obtain ⟨raw, encoded, result⟩ := bind_eq_ok.mp h
  rw [← pure_eq_ok.mp result]
  exact encoded

theorem encode_of_compose {creator destination : String} {sequence : UInt64} {series : Int32}
    {body : Body} {authKeyId : Int32} {authValue : Bytes} {frame : Frame}
    (h : compose creator destination sequence series body authKeyId authValue = .ok frame) :
    encode frame.header frame.body frame.trailer = .ok frame.raw := by
  obtain ⟨middle, -, raw, encoded, rfl⟩ := compose_eq_ok.mp h
  exact patch_encode encoded

/-- The checksum of a composed frame is that of its bytes. -/
theorem checksum_of_compose {creator destination : String} {sequence : UInt64} {series : Int32}
    {body : Body} {authKeyId : Int32} {authValue : Bytes} {frame : Frame}
    (h : compose creator destination sequence series body authKeyId authValue = .ok frame) :
    frame.trailer = ⟨authKeyId, authValue, Checksum.compute frame.raw⟩ ∧
      frame.hasValidChecksum = true := by
  obtain ⟨_, -, raw, encoded, rfl⟩ := compose_eq_ok.mp h
  obtain ⟨-, head, -, middle, -, -, tail, ht, rfl⟩ := encode_eq_ok.mp encoded
  obtain ⟨value, -, rfl⟩ := Trailer.write_eq_ok.mp ht
  simp only [hasValidChecksum, ← List.append_assoc]
  have width := Encoder.length_u64 0
  exact ⟨by rw [Checksum.compute_patch _ width], Checksum.isValid_patch _ width⟩

theorem parts_of_compose {creator destination : String} {sequence : UInt64} {series : Int32}
    {body : Body} {authKeyId : Int32} {authValue : Bytes} {frame : Frame}
    (h : compose creator destination sequence series body authKeyId authValue = .ok frame) :
    frame.type = body.type ∧ frame.sequence = sequence ∧ frame.body = body := by
  obtain ⟨_, -, _, -, rfl⟩ := compose_eq_ok.mp h
  exact ⟨rfl, rfl, rfl⟩

/-- A header stands at the front, and a trailer takes up everything from where the header says. -/
structure HasEnds (raw : Bytes) (header : Header) (trailer : Trailer) : Prop where
  first : ∃ left, Header.read raw = .ok header left
  inside : header.trailerOffset ≤ raw.length
  last : Trailer.read (raw.drop header.trailerOffset) = .ok trailer []

/-- The bytes between header and trailer. -/
def middle (raw : Bytes) (header : Header) : Bytes :=
  (raw.take header.trailerOffset).drop Header.width

theorem HasEnds.readBody_eq {raw : Bytes} {header : Header} {trailer : Trailer}
    (h : HasEnds raw header trailer) :
    readBody header (middle raw header) = Body.read header.type (middle raw header) := by
  refine if_neg (not_not.mpr ?_)
  rw [middle, List.length_drop, List.length_take_of_le h.inside]
  rfl

/-- Between the ends of a frame, there is only its body to be parsed. -/
theorem HasEnds.parse_eq {raw : Bytes} {header : Header} {trailer : Trailer}
    (h : HasEnds raw header trailer) :
    parse raw =
      match Body.read header.type (middle raw header) with
      | (.ok body, notices) => (.ok ⟨header, body, trailer, raw⟩, notices)
      | (.error reason, notices) =>
        (.error ⟨some header, some (middle raw header), some trailer, reason, raw⟩, notices) := by
  obtain ⟨left, first⟩ := h.first
  unfold parse
  rw [first, ← h.readBody_eq]
  dsimp only
  rw [if_neg (Nat.not_lt.mpr h.inside), h.last]
  exact if_neg (not_not.mpr rfl)

/-- Where bytes do not have the ends of a frame, parsing stops before the body. If a trailer was
found nevertheless, something follows it. -/
theorem parse_cases (raw : Bytes) :
    (∃ header trailer, HasEnds raw header trailer) ∨
      ∃ broken, parse raw = (.error broken, []) ∧
        ∀ header trailer, broken.header = some header → broken.trailer = some trailer →
          ∃ rest, rest ≠ [] ∧ Trailer.read (raw.drop header.trailerOffset) = .ok trailer rest ∧
            header.trailerOffset ≤ raw.length ∧ broken.reason = .bytesAfterTrailer rest.length := by
  unfold parse
  cases first : Header.read raw with
  | error reason left => exact .inr ⟨_, rfl, nofun⟩
  | ok header left =>
    dsimp only
    by_cases short : raw.length < header.trailerOffset
    · rw [if_pos short]
      exact .inr ⟨_, rfl, nofun⟩
    rw [if_neg short]
    cases last : Trailer.read (raw.drop header.trailerOffset) with
    | error reason left => exact .inr ⟨_, rfl, nofun⟩
    | ok trailer rest =>
      dsimp only
      by_cases more : rest ≠ []
      · rw [if_pos more]
        refine .inr ⟨_, rfl, fun other another found foundTrailer => ?_⟩
        obtain rfl := Option.some.inj found
        obtain rfl := Option.some.inj foundTrailer
        exact ⟨rest, more, last, Nat.not_lt.mp short, rfl⟩
      · rw [not_not.mp more] at last
        exact .inl ⟨header, trailer, ⟨left, first⟩, Nat.not_lt.mp short, last⟩

/-- The three parts of a frame are told apart by the offset in its header. -/
theorem parse_append {head body tail : Bytes} {header : Header} {trailer : Trailer}
    (hh : Decoder.Reads Header.read head header) (length : head.length = Header.width)
    (offset : Header.width + body.length = header.trailerOffset)
    (ht : Decoder.Reads Trailer.read tail trailer) :
    parse (head ++ body ++ tail) =
      match Body.read header.type body with
      | (.ok content, notices) => (.ok ⟨header, content, trailer, head ++ body ++ tail⟩, notices)
      | (.error reason, notices) =>
        (.error ⟨some header, some body, some trailer, reason, head ++ body ++ tail⟩, notices) := by
  have front : (head ++ body).length = header.trailerOffset := by
    rw [List.length_append, length, offset]
  have ends : HasEnds (head ++ body ++ tail) header trailer := by
    refine ⟨⟨body ++ tail, ?_⟩, ?_, ?_⟩
    · rw [List.append_assoc]
      exact hh (body ++ tail)
    · rw [List.length_append, front]
      omega
    · rw [← front, List.drop_left]
      exact ht.exact
  have between : middle (head ++ body ++ tail) header = body := by
    rw [middle, ← front, List.take_left, ← length, List.drop_left]
  rw [ends.parse_eq, between]

/-- Of any frame that is sent, the numbers and the trailer come back; the rest is up to its
body. -/
theorem parse_of_encode {header : Header} {body : Body} {trailer : Trailer} {raw middle : Bytes}
    (h : encode header body trailer = .ok raw) (hm : body.write = .ok middle) :
    parse raw =
      match Body.read body.type middle with
      | (.ok body, notices) => (.ok ⟨header.kept, body, trailer, raw⟩, notices)
      | (.error reason, notices) =>
        (.error ⟨some header.kept, some middle, some trailer, reason, raw⟩, notices) := by
  obtain ⟨same, head, hh, _, hm', offset, tail, ht, rfl⟩ := encode_eq_ok.mp h
  obtain rfl := Except.ok.inj (hm.symm.trans hm')
  have sent : header.type ≠ .malformed := same ▸ body.type_ne_malformed
  rw [← same]
  exact parse_append (Header.reads_write hh sent) (Header.length_write hh) offset
    (Trailer.reads_write ht)

theorem parse_of_compose {creator destination : String} {sequence : UInt64} {series : Int32}
    {body : Body} {authKeyId : Int32} {middle authValue : Bytes} {frame : Frame}
    (h : compose creator destination sequence series body authKeyId authValue = .ok frame)
    (plainCreator : Text.IsPlain creator) (plainDestination : Text.IsPlain destination)
    (hm : body.write = .ok middle) :
    frame.body = body ∧ parse frame.raw =
      match Body.read body.type middle with
      | (.ok body, notices) => (.ok { frame with body }, notices)
      | (.error reason, notices) =>
        (.error ⟨some frame.header, some middle, some frame.trailer, reason, frame.raw⟩,
          notices) := by
  have encoded := encode_of_compose h
  obtain ⟨_, -, raw, -, rfl⟩ := compose_eq_ok.mp h
  have back := parse_of_encode encoded hm
  rw [Header.kept_of_plain plainCreator plainDestination] at back
  exact ⟨rfl, back⟩

/-- A frame that was parsed is kept with the bytes that its parts come from. -/
theorem parse_eq_ok {raw : Bytes} {frame : Frame} (h : (parse raw).1 = .ok frame) :
    frame.raw = raw ∧ HasEnds raw frame.header frame.trailer ∧
      (Body.read frame.header.type (middle raw frame.header)).1 = .ok frame.body := by
  rcases parse_cases raw with ⟨header, trailer, ends⟩ | ⟨broken, failed, -⟩
  · rw [ends.parse_eq] at h
    split at h
    case h_1 body notices between =>
      obtain rfl := Except.ok.inj h
      exact ⟨rfl, ends, congrArg Prod.fst between⟩
    case h_2 => contradiction
  · rw [failed] at h
    contradiction

/-- A frame that was parsed has a body of the type that its header announces. -/
theorem type_of_parse {raw : Bytes} {frame : Frame} (h : (parse raw).1 = .ok frame) :
    frame.body.type = frame.type := by
  obtain ⟨-, -, between⟩ := parse_eq_ok h
  exact Body.type_of_read between

/-- The body of a frame that was parsed was read from the bytes between its ends. -/
theorem reader_of_parse {raw : Bytes} {frame : Frame} (h : (parse raw).1 = .ok frame)
    (control : frame.body.type ≠ .data) :
    ∃ rest, Body.reader frame.body.type (middle raw frame.header) = .ok frame.body rest := by
  obtain ⟨-, -, between⟩ := parse_eq_ok h
  rw [← Body.type_of_read between, Body.read_eq control] at between
  cases result : Body.reader frame.body.type (middle raw frame.header) with
  | error reason rest =>
    rw [result] at between
    contradiction
  | ok body rest =>
    rw [result] at between
    exact ⟨rest, congrArg (EStateM.Result.ok · rest) (Except.ok.inj between)⟩

/-- What is parsed from the bytes of a frame bears its type and its number. -/
theorem numbers_of_encode {header : Header} {body : Body} {trailer : Trailer} {raw : Bytes}
    (encoded : encode header body trailer = .ok raw) {whole : Frame}
    (parsed : (parse raw).1 = .ok whole) :
    whole.type = header.type ∧ whole.sequence = header.sequence := by
  obtain ⟨-, -, -, middle, hm, -⟩ := encode_eq_ok.mp encoded
  rw [parse_of_encode encoded hm] at parsed
  split at parsed
  case h_1 =>
    obtain rfl := Except.ok.inj parsed
    exact ⟨rfl, rfl⟩
  case h_2 => contradiction

/-- An acknowledgement comes back, whatever the name of its frame set is. -/
theorem exists_parse_acknack {header : Header} {acknowledgement : Acknowledgement}
    {trailer : Trailer} {raw : Bytes}
    (encoded : encode header (.acknack acknowledgement) trailer = .ok raw) :
    ∃ whole frameset, (parse raw).1 = .ok whole ∧
      whole.body = .acknack { acknowledgement with frameset } := by
  obtain ⟨-, -, -, middle, written, -⟩ := encode_eq_ok.mp encoded
  have reads : Body.reader .acknack middle = .ok (.acknack acknowledgement.kept) [] :=
    ((Acknowledgement.reads_write written).map Body.acknack).exact
  have back := parse_of_encode encoded written
  simp only [Body.type, Body.read, reads] at back
  exact ⟨_, _, congrArg Prod.fst back, rfl⟩

end Frame

end ContinuousData
