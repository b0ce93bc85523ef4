import ContinuousData.Proofs.Disguises
import ContinuousData.Proofs.FrameExtents
import ContinuousData.Stream.Reader

/-! What the checksums of frames change: nothing. Streams of frames that differ in their checksums
only are cut at the same places and parsed alike, and a consumer that reads one of them does the
same as one that reads the other. -/
namespace ContinuousData

namespace Decoder

variable {α β : Type}

/-- The decoder takes bytes of a fixed width, and what follows them has no part in the value. -/
def Spans (decoder : Decoder α) (width : Nat) : Prop :=
  ∀ input value rest, decoder input = .ok value rest →
    ∃ taken, taken.length = width ∧ input = taken ++ rest ∧ Reads decoder taken value

theorem Spans.pure (value : α) : Spans (Pure.pure value) 0 := by
  intro input result rest h
  obtain ⟨rfl, rfl⟩ := EStateM.Result.ok.inj h
  exact ⟨[], rfl, rfl, Reads.pure _⟩

theorem Spans.bind {first : Decoder α} {next : α → Decoder β} {width others : Nat}
    (h : Spans first width) (hn : ∀ value, Spans (next value) others) :
    Spans (first >>= next) (width + others) := by
  intro input result rest read
  obtain ⟨value, left, front, back⟩ := bind_eq_ok.mp read
  obtain ⟨taken, length, rfl, reads⟩ := h _ _ _ front
  obtain ⟨more, lengthMore, rfl, readsMore⟩ := hn value _ _ _ back
  refine ⟨taken ++ more, ?_, (List.append_assoc ..).symm, reads.bind readsMore⟩
  rw [List.length_append, length, lengthMore]

theorem Spans.map {decoder : Decoder α} {width : Nat} (f : α → β) (h : Spans decoder width) :
    Spans (do return f (← decoder)) width :=
  h.bind fun value => Spans.pure (f value)

theorem spans_number (scalar : Scalar) : Spans (number scalar) scalar.width := by
  intro input value rest read
  obtain ⟨taken, width, rfl, split⟩ := number_eq_ok read
  have small := Bytes.ofBigEndian_lt taken
  rw [width] at small
  have reads := reads_number scalar small
  rw [← width, Bytes.bigEndian_ofBigEndian] at reads
  exact ⟨taken, width, split, reads⟩

theorem spans_bytes (count : Nat) : Spans (bytes count) count := by
  intro input value rest read
  obtain ⟨rfl, split⟩ := bytes_eq_ok read
  exact ⟨value, rfl, split, reads_bytes value⟩

theorem spans_skip (count : Nat) : Spans (skip count) count := by
  intro input value rest read
  obtain ⟨padding, rfl, split⟩ := skip_eq_ok read
  exact ⟨padding, rfl, split, reads_skip padding⟩

theorem spans_text (width : Nat) : Spans (text width) width :=
  (spans_bytes width).map Text.strip

theorem spans_i32 : Spans i32 4 :=
  (spans_number .i32).map _

theorem spans_u64 : Spans u64 8 :=
  (spans_number .i64).map _

theorem spans_paddedBytes (count : Nat) : Spans (paddedBytes count) (Bytes.aligned count) :=
  (spans_bytes count).bind fun value => (spans_skip _).map fun _ => value

/-- A length and the bytes that it counts are read without a look at what follows. -/
theorem exists_reads_sized {field : String} {input value rest : Bytes}
    (read : sized field input = .ok value rest) :
    ∃ taken, input = taken ++ rest ∧ Reads (sized field) taken value := by
  obtain ⟨count, left, front, back⟩ := bind_eq_ok.mp read
  obtain ⟨small, rfl⟩ := length_eq_ok front
  obtain ⟨taken, -, rfl, reads⟩ := spans_paddedBytes count _ _ _ back
  exact ⟨Encoder.length count ++ taken, (List.append_assoc ..).symm,
    (reads_length field small).bind reads⟩

end Decoder

namespace Header

theorem spans_typeAndOffset : Decoder.Spans readTypeAndOffset 8 := by
  intro input ⟨type, offset⟩ rest read
  obtain ⟨sent, after, fits, split⟩ := typeAndOffset_eq_ok read
  refine ⟨_, ?_, split, reads_typeAndOffset sent after fits⟩
  rw [List.length_append, Encoder.length_i32, Encoder.length_length]

theorem spans_read : Decoder.Spans read width :=
  spans_typeAndOffset.bind fun _ => (Decoder.spans_text creatorWidth).bind fun _ =>
    (Decoder.spans_text destinationWidth).bind fun _ => Decoder.spans_u64.bind fun _ =>
      Decoder.spans_i32.map _

end Header

/-- Whatever stands in the checksum's place, the rest of a trailer is the same. -/
theorem Trailer.read_of_checksum {front tail other : Bytes} {trailer : Trailer}
    (h : read (front ++ tail) = .ok trailer []) (width : tail.length = checksumWidth)
    (widthToo : other.length = checksumWidth) :
    ∃ checksum, read (front ++ other) = .ok { trailer with checksum } [] := by
  obtain ⟨key, left, first, h⟩ := Decoder.bind_eq_ok.mp h
  obtain ⟨value, left, second, h⟩ := Decoder.bind_eq_ok.mp h
  obtain ⟨sum, left, third, result⟩ := Decoder.bind_eq_ok.mp h
  obtain ⟨rfl, rfl⟩ := EStateM.Result.ok.inj result
  obtain ⟨keyBytes, -, split, readsKey⟩ := Decoder.spans_i32 _ _ _ first
  obtain ⟨valueBytes, rfl, readsValue⟩ := Decoder.exists_reads_sized second
  obtain ⟨last, lastWidth, rfl, -⟩ := Decoder.spans_u64 _ _ _ third
  rw [List.append_nil, ← List.append_assoc] at split
  obtain ⟨rfl, rfl⟩ := List.append_inj' split (width.trans lastWidth.symm)
  unfold checksumWidth at widthToo
  obtain ⟨checksum, fourth⟩ := Decoder.takes_u64 other widthToo.ge
  rw [List.drop_eq_nil_of_le widthToo.le] at fourth
  refine ⟨checksum, ?_⟩
  unfold read
  rw [List.append_assoc, Decoder.bind_of_ok (readsKey _), Decoder.bind_of_ok (readsValue _),
    Decoder.bind_of_ok fourth]
  rfl

namespace Frame

variable {front tail other : Bytes} {header : Header} {trailer : Trailer}

/-- The ends of a frame are found whatever its checksum is, and so are the bytes between them. -/
theorem HasEnds.of_checksum (h : HasEnds (front ++ tail) header trailer)
    (width : tail.length = Trailer.checksumWidth)
    (widthToo : other.length = Trailer.checksumWidth) :
    ∃ checksum, HasEnds (front ++ other) header { trailer with checksum } ∧
      middle (front ++ other) header = middle (front ++ tail) header := by
  have total := h.length_eq
  obtain ⟨⟨left, first⟩, -, last⟩ := h
  obtain ⟨_, typeAndOffset⟩ := Header.typeAndOffset_of_read first
  have after := (Header.typeAndOffset_eq_ok typeAndOffset).2.1
  have inside : header.trailerOffset ≤ front.length := by
    rw [List.length_append, width] at total
    unfold Trailer.wireLength Trailer.lengthFor at total
    omega
  obtain ⟨taken, length, split, reads⟩ := Header.spans_read _ _ _ first
  obtain ⟨more, rfl⟩ : taken <+: front :=
    List.prefix_of_prefix_length_le (split ▸ List.prefix_append taken left)
      (List.prefix_append front tail) (by omega)
  rw [List.drop_append_of_le_length inside] at last
  obtain ⟨checksum, last⟩ := Trailer.read_of_checksum last width widthToo
  refine ⟨checksum, ⟨⟨more ++ other, ?_⟩, ?_, ?_⟩, ?_⟩
  · rw [List.append_assoc]
    exact reads _
  · rw [List.length_append]
    omega
  · rwa [List.drop_append_of_le_length inside]
  · rw [middle, middle, List.take_append_of_le_length inside,
      List.take_append_of_le_length inside]

/-- Between the same ends, the same body is parsed or the same is wrong with it. -/
theorem HasEnds.parse_cases {raw other : Bytes} {last : Trailer} (h : HasEnds raw header trailer)
    (ho : HasEnds other header last) (same : middle other header = middle raw header) :
    (∃ body, (parse raw).1 = .ok ⟨header, body, trailer, raw⟩ ∧
      (parse other).1 = .ok ⟨header, body, last, other⟩) ∨
    ∃ reason, (parse raw).1 =
        .error ⟨some header, some (middle raw header), some trailer, reason, raw⟩ ∧
      (parse other).1 =
        .error ⟨some header, some (middle raw header), some last, reason, other⟩ := by
  rw [h.parse_eq, ho.parse_eq, same]
  cases Body.read header.type (middle raw header) with
  | mk result notices =>
    cases result with
    | ok body => exact .inl ⟨body, rfl, rfl⟩
    | error reason => exact .inr ⟨reason, rfl, rfl⟩

/-- Both are frames or neither is, and then they agree in everything but the checksum. -/
def ParsedAlike (raw other : Bytes) : Prop :=
  ((∃ frame, (parse raw).1 = .ok frame) ↔ ∃ twin, (parse other).1 = .ok twin) ∧
    ∀ frame twin, (parse raw).1 = .ok frame → (parse other).1 = .ok twin →
      twin.header = frame.header ∧ twin.body = frame.body ∧
        twin.trailer.authKeyId = frame.trailer.authKeyId ∧
        twin.trailer.authValue = frame.trailer.authValue

/-- All of a frame but its checksum. -/
def unchecked (frame : Frame) : Frame :=
  { frame with
    trailer := { frame.trailer with checksum := 0 }, raw := Checksum.covered frame.raw }

end Frame

def PartialFrame.unchecked (broken : PartialFrame) : PartialFrame :=
  { broken with
    trailer := broken.trailer.map ({ · with checksum := 0 }), raw := Checksum.covered broken.raw }

/-- What comes in, with all checksums taken away. -/
def Disguise.unchecked : Disguise :=
  ⟨Frame.unchecked, PartialFrame.unchecked, fun _ => rfl, fun _ => rfl⟩

namespace Checksum

/-- The same bytes but for the checksum. -/
def Alike (raw other : Bytes) : Prop :=
  raw.length = other.length ∧ covered raw = covered other

theorem Alike.exists_split {raw other : Bytes} (h : Alike raw other) (long : width ≤ raw.length) :
    ∃ front tail last, tail.length = width ∧ last.length = width ∧ raw = front ++ tail ∧
      other = front ++ last := by
  obtain ⟨length, same⟩ := h
  refine ⟨covered raw, raw.drop (raw.length - width), other.drop (other.length - width), ?_, ?_,
    (List.take_append_drop _ raw).symm, ?_⟩
  · rw [List.length_drop]
    omega
  · rw [List.length_drop]
    omega
  · rw [same]
    exact (List.take_append_drop _ other).symm

theorem alike_covered_append {raw last : Bytes} (long : width ≤ raw.length)
    (h : last.length = width) : Alike raw (covered raw ++ last) := by
  refine ⟨?_, (covered_append (covered raw) h).symm⟩
  rw [List.length_append, covered, List.length_take, h]
  omega

end Checksum

namespace Splitter

variable {limit : Nat} {raw other buffer : Bytes} {raws twins : List Bytes}

/-- A frame, and the same frame with any checksum. -/
structure Twins (limit : Nat) (raw other : Bytes) : Prop where
  cut : next limit raw = some (.frame raw, [])
  alike : Checksum.Alike raw other

theorem length_le_of_next {rest : Bytes} (h : next limit buffer = some (.frame raw, rest)) :
    raw.length ≤ limit := by
  revert h
  unfold next dropGarbage
  dsimp only
  split
  · exact nofun
  split
  · exact nofun
  split_ifs with late short negative long incomplete
  iterate 5 exact nofun
  intro h
  obtain ⟨cut, -⟩ := Prod.mk.inj (Option.some.inj h)
  rw [← Piece.frame.inj cut, List.length_take_of_le (Nat.not_lt.mp incomplete)]
  exact Nat.not_lt.mp long

theorem Twins.exists_ends (h : Twins limit raw other) :
    ∃ header trailer checksum, Frame.HasEnds raw header trailer ∧
      Frame.HasEnds other header { trailer with checksum } ∧
      Frame.middle other header = Frame.middle raw header := by
  have long := next_length h.cut
  have cut : next limit (raw ++ []) = some (.frame raw, []) := by
    rw [List.append_nil]
    exact h.cut
  obtain ⟨header, trailer, ends⟩ := hasEnds_of_next cut
  obtain ⟨front, tail, last, width, widthToo, rfl, rfl⟩ :=
    h.alike.exists_split (by unfold Checksum.width; omega)
  obtain ⟨checksum, others, same⟩ := ends.of_checksum width widthToo
  exact ⟨header, trailer, checksum, ends, others, same⟩

theorem Twins.parsedAlike (h : Twins limit raw other) : Frame.ParsedAlike raw other := by
  obtain ⟨header, trailer, checksum, ends, others, same⟩ := h.exists_ends
  unfold Frame.ParsedAlike
  rcases ends.parse_cases others same with ⟨body, first, second⟩ | ⟨reason, first, second⟩
  · rw [first, second]
    refine ⟨iff_of_true ⟨_, rfl⟩ ⟨_, rfl⟩, fun frame twin parsed parsedToo => ?_⟩
    obtain rfl := Except.ok.inj parsed
    obtain rfl := Except.ok.inj parsedToo
    exact ⟨rfl, rfl, rfl, rfl⟩
  · rw [first, second]
    exact ⟨iff_of_false (fun ⟨_, parsed⟩ => nomatch parsed) (fun ⟨_, parsed⟩ => nomatch parsed),
      fun _ _ parsed => nomatch parsed⟩

/-- Without the checksum, twins cannot be told apart by what comes in. -/
theorem Twins.incoming_eq (h : Twins limit raw other) :
    Disguise.unchecked.incoming (.ofPiece (.frame other)) =
      Disguise.unchecked.incoming (.ofPiece (.frame raw)) := by
  obtain ⟨header, trailer, checksum, ends, others, same⟩ := h.exists_ends
  unfold Incoming.ofPiece
  dsimp only
  rcases ends.parse_cases others same with ⟨body, first, second⟩ | ⟨reason, first, second⟩
  · rw [first, second]
    simp [Disguise.incoming, Disguise.unchecked, Frame.unchecked, h.alike.2]
  · rw [first, second]
    simp [Disguise.incoming, Disguise.unchecked, PartialFrame.unchecked, h.alike.2]

theorem Twins.exists_outlines (h : Twins limit raw other) :
    ∃ first second : Outline, first.raw = raw ∧ second.raw = other ∧ raw.length ≤ limit := by
  obtain ⟨header, trailer, checksum, ends, others, -⟩ := h.exists_ends
  obtain ⟨first, whole⟩ := Outline.exists_of_hasEnds ends
  obtain ⟨second, wholeToo⟩ := Outline.exists_of_hasEnds others
  exact ⟨first, second, whole, wholeToo, length_le_of_next h.cut⟩

/-- Two streams of twins. Of what is left of them, as many bytes of the one as of the other are in
the buffer, and the rest is still to come. -/
structure InStep (limit : Nat) (raws twins : List Bytes) (buffer other rest last : Bytes) :
    Prop where
  frames : List.Forall₂ (Twins limit) raws twins
  stream : buffer ++ rest = raws.flatten
  streamToo : other ++ last = twins.flatten
  length : buffer.length = other.length

/-- What is found next in two streams of twins. -/
inductive FindsAlike (limit : Nat) (buffer other rest last : Bytes) :
    List Bytes → List Bytes → Prop where
  | waiting {raws twins : List Bytes} (first : next limit buffer = none)
      (second : next limit other = none) : FindsAlike limit buffer other rest last raws twins
  | found {raw twin left leftToo : Bytes} {raws twins : List Bytes} (alike : Twins limit raw twin)
      (first : next limit buffer = some (.frame raw, left))
      (second : next limit other = some (.frame twin, leftToo))
      (later : InStep limit raws twins left leftToo rest last) :
      FindsAlike limit buffer other rest last (raw :: raws) (twin :: twins)

/-- Frames are cut off both streams or off neither. -/
theorem InStep.findsAlike {rest last : Bytes} (h : InStep limit raws twins buffer other rest last) :
    FindsAlike limit buffer other rest last raws twins := by
  obtain ⟨frames, stream, streamToo, length⟩ := h
  cases frames with
  | nil =>
    obtain ⟨rfl, -⟩ := List.append_eq_nil_iff.mp stream
    obtain ⟨rfl, -⟩ := List.append_eq_nil_iff.mp streamToo
    exact .waiting rfl rfl
  | cons alike frames =>
    obtain ⟨o, p, rfl, rfl, short⟩ := alike.exists_outlines
    have lengths := alike.alike.1
    rw [List.flatten_cons] at stream streamToo
    have first := Outline.next_of_prefix short (stream ▸ List.prefix_append buffer rest)
    have second :=
      Outline.next_of_prefix (lengths ▸ short) (streamToo ▸ List.prefix_append other last)
    by_cases incomplete : buffer.length < o.raw.length
    · rw [if_pos incomplete] at first
      rw [if_pos (by omega)] at second
      exact .waiting first second
    · rw [if_neg incomplete] at first
      rw [if_neg (by omega)] at second
      rw [← next_append first, List.append_assoc] at stream
      rw [← next_append second, List.append_assoc] at streamToo
      refine .found alike first second ⟨frames, List.append_cancel_left stream,
        List.append_cancel_left streamToo, ?_⟩
      rw [List.length_drop, List.length_drop, length, lengths]

theorem InStep.append {chunk chunkToo rest last : Bytes}
    (h : InStep limit raws twins buffer other (chunk ++ rest) (chunkToo ++ last))
    (same : chunk.length = chunkToo.length) :
    InStep limit raws twins (buffer ++ chunk) (other ++ chunkToo) rest last where
  frames := h.frames
  stream := (List.append_assoc ..).trans h.stream
  streamToo := (List.append_assoc ..).trans h.streamToo
  length := by rw [List.length_append, List.length_append, h.length, same]

theorem InStep.pieces {rest last : Bytes} (h : InStep limit raws twins buffer other rest last) :
    ∃ count left leftToo, pieces limit buffer = ((raws.take count).map .frame, left) ∧
      Splitter.pieces limit other = ((twins.take count).map .frame, leftToo) ∧
      InStep limit (raws.drop count) (twins.drop count) left leftToo rest last := by
  induction raws generalizing twins buffer other with
  | nil =>
    cases h.findsAlike with
    | waiting first second =>
      exact ⟨0, buffer, other, pieces_of_none first, pieces_of_none second, h⟩
  | cons raw raws ih =>
    cases h.findsAlike with
    | waiting first second =>
      exact ⟨0, buffer, other, pieces_of_none first, pieces_of_none second, h⟩
    | found alike first second later =>
      obtain ⟨count, left, leftToo, cut, cutToo, last⟩ := ih later
      refine ⟨count + 1, left, leftToo, ?_, ?_, last⟩
      · rw [pieces_of_some first, cut]
        rfl
      · rw [pieces_of_some second, cutToo]
        rfl

/-- After any number of chunks, as many frames have been cut off one stream as off the other. -/
theorem InStep.feedAll {chunks others : List Bytes} {rest last : Bytes}
    (h : InStep limit raws twins buffer other (chunks.flatten ++ rest) (others.flatten ++ last))
    (same : chunks.map List.length = others.map List.length) :
    ∃ count left leftToo, feedAll limit buffer chunks = ((raws.take count).map .frame, left) ∧
      Splitter.feedAll limit other others = ((twins.take count).map .frame, leftToo) ∧
      left.length = leftToo.length := by
  induction chunks generalizing raws twins buffer other others with
  | nil =>
    obtain rfl := List.map_eq_nil_iff.mp same.symm
    exact ⟨0, buffer, other, rfl, rfl, h.length⟩
  | cons chunk chunks ih =>
    obtain ⟨chunkToo, others, rfl, first, same⟩ := List.map_eq_cons_iff.mp same.symm
    rw [List.flatten_cons, List.flatten_cons, List.append_assoc, List.append_assoc] at h
    obtain ⟨count, left, leftToo, cut, cutToo, later⟩ := (h.append first.symm).pieces
    obtain ⟨more, last, lastToo, fed, fedToo, length⟩ := ih later same.symm
    refine ⟨count + more, last, lastToo, ?_, ?_, length⟩
    · rw [Splitter.feedAll, feed, cut]
      dsimp only
      rw [fed, List.take_add, List.map_append]
    · rw [Splitter.feedAll, feed, cutToo]
      dsimp only
      rw [fedToo, List.take_add, List.map_append]

end Splitter

namespace StreamReader

open Splitter

variable {limit : Nat} {buffer other : Bytes}

/-- What comes of reading two streams of twins. -/
inductive ReadAlike (limit : Nat) : ReadResult → ReadResult → Prop where
  | twins {raw twin : Bytes} (h : Twins limit raw twin) :
    ReadAlike limit (.piece (.frame raw)) (.piece (.frame twin))
  | same (result : ReadResult) : ReadAlike limit result result

/-- Two streams of twins are read in step, and come in the same chunks. -/
def Abreast (limit : Nat) (buffer other : Bytes) (deliveries deliveriesToo : List Delivery) :
    Prop :=
  ∃ (raws twins chunks others : List Bytes) (rest last : Bytes), deliveries = chunks.map .bytes ∧
    deliveriesToo = others.map .bytes ∧ chunks.map List.length = others.map List.length ∧
    InStep limit raws twins buffer other (chunks.flatten ++ rest) (others.flatten ++ last)

theorem atEnd_eq (same : buffer.length = other.length) : atEnd buffer = atEnd other := by
  simp only [atEnd, ← List.length_eq_zero_iff, same]

/-- Reading goes on to the next frame of both streams, or to the ends of both. -/
theorem read_alike {deliveries deliveriesToo : List Delivery}
    (h : Abreast limit buffer other deliveries deliveriesToo) :
    ReadAlike limit (read limit buffer deliveries).1 (read limit other deliveriesToo).1 ∧
      Abreast limit (read limit buffer deliveries).2.1 (read limit other deliveriesToo).2.1
        (read limit buffer deliveries).2.2 (read limit other deliveriesToo).2.2 := by
  obtain ⟨raws, twins, chunks, others, rest, last, rfl, rfl, same, h⟩ := h
  induction chunks generalizing buffer other others with
  | nil =>
    obtain rfl := List.map_eq_nil_iff.mp same.symm
    cases h.findsAlike with
    | waiting first second =>
      simp only [List.map_nil, read, first, second]
      rw [atEnd_eq h.length]
      exact ⟨.same _, raws, twins, [], [], rest, last, rfl, rfl, rfl, h⟩
    | found alike first second later =>
      simp only [List.map_nil, read, first, second]
      exact ⟨.twins alike, _, _, [], [], rest, last, rfl, rfl, rfl, later⟩
  | cons chunk chunks ih =>
    obtain ⟨chunkToo, others, rfl, length, sameLater⟩ := List.map_eq_cons_iff.mp same.symm
    cases h.findsAlike with
    | found alike first second later =>
      simp only [List.map_cons, read, first, second]
      exact ⟨.twins alike, _, _, chunk :: chunks, chunkToo :: others, rest, last, rfl, rfl, same,
        later⟩
    | waiting first second =>
      -- An empty chunk is the end of the stream.
      cases chunk with
      | nil =>
        obtain rfl := List.eq_nil_of_length_eq_zero length
        simp only [List.map_cons, read, first, second]
        rw [atEnd_eq h.length]
        exact ⟨.same _, raws, twins, chunks, others, rest, last, rfl, rfl, sameLater.symm, h⟩
      | cons byte bytes =>
        obtain ⟨byteToo, bytesToo, rfl⟩ := List.exists_cons_of_length_eq_add_one length
        rw [List.flatten_cons, List.flatten_cons, List.append_assoc, List.append_assoc] at h
        simp only [List.map_cons, read, first, second]
        exact ih others sameLater.symm (h.append length.symm)

end StreamReader

/-- A consumer, and what it has still to read. -/
structure FedConsumer (σ : Type) where
  consumer : Consumer σ
  buffer : Bytes
  deliveries : List Delivery

namespace FedConsumer

inductive Turn where
  /-- The task that reads gets its next piece, or comes to the end of the stream. -/
  | read
  /-- Anything else happens: another task goes on, or what the reader is about is done. -/
  | other (event : Consumer.Event)
  deriving DecidableEq, Repr

variable {σ : Type} [GapStore σ]

def happen (fed : FedConsumer σ) (moment : Moment) (event : Consumer.Event) :
    FedConsumer σ × List Consumer.Effect :=
  let (consumer, effects) := fed.consumer.step moment event
  ({ fed with consumer }, effects)

def outcome : ReadResult → Consumer.Event
  | .piece piece => .received (.ofPiece piece)
  | .ended | .failed _ => .readEnded

def read (fed : FedConsumer σ) (moment : Moment) : FedConsumer σ × List Consumer.Effect :=
  let (result, buffer, deliveries) :=
    StreamReader.read fed.consumer.config.maxFrameSize fed.buffer fed.deliveries
  { fed with buffer, deliveries }.happen moment (outcome result)

/-- Nothing is read before the task that reads is done with the last frame. -/
def turn (fed : FedConsumer σ) (moment : Moment) : Turn → FedConsumer σ × List Consumer.Effect
  | .read => if fed.consumer.reader = .waiting then fed.read moment else (fed, [])
  | .other event => fed.happen moment event

def run (fed : FedConsumer σ) (turns : List (Moment × Turn)) :
    FedConsumer σ × List Consumer.Effect :=
  Machine.run (fun fed (moment, turn) => fed.turn moment turn) fed turns

end FedConsumer

namespace Consumer

namespace Effect

/-- The body that was published, with the outcome. -/
def body? : Effect → Option (Body × Option Error)
  | published frame failure => some (frame.body, failure)
  | _ => none

def wrote? : Effect → Option (Frame × Bool)
  | wrote frame written => some (frame, written)
  | _ => none

end Effect

end Consumer

namespace FedConsumer

variable {σ : Type} [GapStore σ] {limit : Nat} {fed other : FedConsumer σ}

/-- Two consumers that are the same but for checksums, with two streams that are. -/
structure Alike (limit : Nat) (fed other : FedConsumer σ) : Prop where
  limited : fed.consumer.config.maxFrameSize = limit
  consumers : other.consumer.inDisguise .unchecked = fed.consumer.inDisguise .unchecked
  streams : StreamReader.Abreast limit fed.buffer other.buffer fed.deliveries other.deliveries

theorem Alike.happen (h : Alike limit fed other) (moment : Moment) {event twin : Consumer.Event}
    (same : Disguise.unchecked.event twin = Disguise.unchecked.event event) :
    Alike limit (fed.happen moment event).1 (other.happen moment twin).1 ∧
      (other.happen moment twin).2.map Disguise.unchecked.effect =
        (fed.happen moment event).2.map Disguise.unchecked.effect := by
  have both := fed.consumer.step_inDisguise .unchecked moment event
  rw [← same, ← h.consumers, Consumer.step_inDisguise] at both
  obtain ⟨consumers, effects⟩ := Prod.mk.inj both
  have config := (fed.consumer.moves_step moment event).config_eq
  exact ⟨⟨config ▸ h.limited, consumers, h.streams⟩, effects⟩

theorem outcome_alike {result twin : ReadResult} (h : StreamReader.ReadAlike limit result twin) :
    Disguise.unchecked.event (outcome twin) = Disguise.unchecked.event (outcome result) := by
  cases h with
  | twins alike => exact congrArg Consumer.Event.received alike.incoming_eq
  | same => rfl

/-- Whatever happens next, the checksums have no part in it. -/
theorem Alike.turn (h : Alike limit fed other) (moment : Moment) (turn : Turn) :
    Alike limit (fed.turn moment turn).1 (other.turn moment turn).1 ∧
      (other.turn moment turn).2.map Disguise.unchecked.effect =
        (fed.turn moment turn).2.map Disguise.unchecked.effect := by
  cases turn with
  | other event => exact h.happen moment rfl
  | read =>
    have config : other.consumer.config = fed.consumer.config :=
      (congrArg Consumer.config h.consumers :)
    have limited : other.consumer.config.maxFrameSize = limit :=
      (congrArg ConsumerConfig.maxFrameSize config).trans h.limited
    have ready : other.consumer.reader = .waiting ↔ fed.consumer.reader = .waiting := by
      rw [← Consumer.waiting_inDisguise other.consumer .unchecked, h.consumers,
        Consumer.waiting_inDisguise]
    unfold FedConsumer.turn
    dsimp only
    by_cases waiting : fed.consumer.reader = .waiting
    · rw [if_pos waiting, if_pos (ready.mpr waiting), FedConsumer.read, FedConsumer.read,
        h.limited, limited]
      obtain ⟨results, streams⟩ := StreamReader.read_alike h.streams
      generalize StreamReader.read limit fed.buffer fed.deliveries = first at results streams ⊢
      generalize StreamReader.read limit other.buffer other.deliveries = second at results streams ⊢
      have next : Alike limit ⟨fed.consumer, first.2.1, first.2.2⟩
          ⟨other.consumer, second.2.1, second.2.2⟩ := ⟨h.limited, h.consumers, streams⟩
      exact next.happen moment (outcome_alike results)
    · rw [if_neg waiting, if_neg (mt ready.mp waiting)]
      exact ⟨h, rfl⟩

theorem Alike.run (h : Alike limit fed other) (turns : List (Moment × Turn)) :
    Alike limit (fed.run turns).1 (other.run turns).1 ∧
      (other.run turns).2.map Disguise.unchecked.effect =
        (fed.run turns).2.map Disguise.unchecked.effect := by
  induction turns generalizing fed other with
  | nil => exact ⟨h, rfl⟩
  | cons turn turns ih =>
    obtain ⟨moment, turn⟩ := turn
    obtain ⟨next, effects⟩ := h.turn moment turn
    obtain ⟨last, later⟩ := ih next
    refine ⟨last, ?_⟩
    unfold FedConsumer.run at later ⊢
    rw [Machine.run_cons, Machine.run_cons, List.map_append, List.map_append, effects, later]

/-- What is selected regardless of checksums is the same. -/
theorem filterMap_of_unchecked {α : Type} {select : Consumer.Effect → Option α}
    (blind : ∀ effect, select (Disguise.unchecked.effect effect) = select effect)
    {past less : List Consumer.Effect}
    (same : less.map Disguise.unchecked.effect = past.map Disguise.unchecked.effect) :
    less.filterMap select = past.filterMap select := by
  have all (effects : List Consumer.Effect) :
      (effects.map Disguise.unchecked.effect).filterMap select = effects.filterMap select := by
    rw [List.filterMap_map]
    exact List.filterMap_congr fun effect _ => blind effect
  rw [← all less, same, all past]

/-- Checksums are of no consequence. Complete frames and the same frames with other checksums, in
the same chunks, are cut off at the same places, and both of a pair or neither can be parsed, to the
same header, body and authentication. Whatever happens besides, and wherever it is stopped, a
consumer that reads the one stream has the same tracker, store, frame set and state as one that
reads the other, and has published the same bodies and written the same frames. -/
theorem ignores_checksums {consumer : Consumer σ} {raws twins chunks others : List Bytes}
    {rest last : Bytes}
    (complete : ∀ raw ∈ raws,
      Splitter.next consumer.config.maxFrameSize raw = some (.frame raw, []))
    (alike : List.Forall₂ Checksum.Alike raws twins) (sent : chunks.flatten ++ rest = raws.flatten)
    (sentToo : others.flatten ++ last = twins.flatten)
    (cut : chunks.map List.length = others.map List.length) (turns : List (Moment × Turn))
    {now other : FedConsumer σ} {past less : List Consumer.Effect}
    (ran : run ⟨consumer, [], chunks.map .bytes⟩ turns = (now, past))
    (ranToo : run ⟨consumer, [], others.map .bytes⟩ turns = (other, less)) :
    (∃ count left leftToo,
      Splitter.feedAll consumer.config.maxFrameSize [] chunks =
        ((raws.take count).map .frame, left) ∧
      Splitter.feedAll consumer.config.maxFrameSize [] others =
        ((twins.take count).map .frame, leftToo) ∧ left.length = leftToo.length) ∧
    List.Forall₂ Frame.ParsedAlike raws twins ∧
    other.consumer.tracker = now.consumer.tracker ∧ other.consumer.store = now.consumer.store ∧
    other.consumer.endpoint = now.consumer.endpoint ∧ other.consumer.state = now.consumer.state ∧
    less.filterMap Consumer.Effect.body? = past.filterMap Consumer.Effect.body? ∧
    less.filterMap Consumer.Effect.wrote? = past.filterMap Consumer.Effect.wrote? ∧
    less.map Disguise.unchecked.effect = past.map Disguise.unchecked.effect := by
  have frames : List.Forall₂ (Splitter.Twins consumer.config.maxFrameSize) raws twins :=
    ((List.forall₂_and_left raws twins).mpr ⟨complete, alike⟩).imp fun _ _ h => ⟨h.1, h.2⟩
  have start : Splitter.InStep consumer.config.maxFrameSize raws twins [] []
      (chunks.flatten ++ rest) (others.flatten ++ last) := ⟨frames, sent, sentToo, rfl⟩
  have started : Alike consumer.config.maxFrameSize ⟨consumer, [], chunks.map .bytes⟩
      ⟨consumer, [], others.map .bytes⟩ :=
    ⟨rfl, rfl, raws, twins, chunks, others, rest, last, rfl, rfl, cut, start⟩
  obtain ⟨⟨-, consumers, -⟩, effects⟩ := started.run turns
  rw [ran, ranToo] at consumers effects
  refine ⟨start.feedAll cut, frames.imp fun _ _ h => h.parsedAlike,
    (congrArg Consumer.tracker consumers :), (congrArg Consumer.store consumers :),
    (congrArg Consumer.endpoint consumers :), (congrArg Consumer.state consumers :),
    filterMap_of_unchecked (fun effect => ?_) effects,
    filterMap_of_unchecked (fun effect => ?_) effects, effects⟩
  · cases effect <;> rfl
  · cases effect <;> rfl

/-- The same frame with ones for a checksum. -/
def overwritten (raw : Bytes) : Bytes :=
  Checksum.covered raw ++ List.replicate Checksum.width 0xFF

/-- A body that makes no sense and then a reset, both with eight bytes of ones for a checksum. -/
theorem ignores_checksums_overwritten :
    ∃ (reset : Frame) (now other : FedConsumer MemoryStore) (past less : List Consumer.Effect),
      Frame.FailsInBody Splitter.crooked ∧
      Frame.assemble ⟨.customReset, 36, "A", "B", 0, 0⟩ (.customReset []) ⟨0, [], 0⟩ = .ok reset ∧
      run ⟨Consumer.serving, [], [.bytes Splitter.crooked, .bytes reset.raw]⟩
        [(⟨0, 0⟩, .read), (⟨0, 0⟩, .read), (⟨0, 0⟩, .other .trackerReset)] = (now, past) ∧
      run ⟨Consumer.serving, [], [.bytes (overwritten Splitter.crooked),
        .bytes (overwritten reset.raw)]⟩
        [(⟨0, 0⟩, .read), (⟨0, 0⟩, .read), (⟨0, 0⟩, .other .trackerReset)] = (other, less) ∧
      now.consumer.state = .draining ∧ other.consumer.state = .draining := by
  obtain ⟨reset, assembled⟩ : ∃ reset, Frame.assemble ⟨.customReset, 36, "A", "B", 0, 0⟩
      (.customReset []) ⟨0, [], 0⟩ = .ok reset := ⟨_, rfl⟩
  have complete : ∀ raw ∈ [Splitter.crooked, reset.raw],
      Splitter.next Splitter.defaultLimit raw = some (.frame raw, []) := by
    obtain rfl := Except.ok.inj assembled
    rw [List.forall_mem_cons, List.forall_mem_singleton]
    exact ⟨rfl, rfl⟩
  have alike : List.Forall₂ Checksum.Alike [Splitter.crooked, reset.raw]
      [overwritten Splitter.crooked, overwritten reset.raw] := by
    obtain rfl := Except.ok.inj assembled
    exact .cons (Checksum.alike_covered_append (by decide) rfl)
      (.cons (Checksum.alike_covered_append (by decide) rfl) .nil)
  have cut : [Splitter.crooked, reset.raw].map List.length =
      [overwritten Splitter.crooked, overwritten reset.raw].map List.length := by
    obtain rfl := Except.ok.inj assembled
    rfl
  obtain ⟨turns, reading⟩ : ∃ turns : List (Moment × Turn), turns =
    [(⟨0, 0⟩, .read), (⟨0, 0⟩, .read), (⟨0, 0⟩, .other .trackerReset)] := ⟨_, rfl⟩
  obtain ⟨now, past, ran⟩ : ∃ now past, run ⟨Consumer.serving, [],
      [Splitter.crooked, reset.raw].map .bytes⟩ turns = (now, past) := ⟨_, _, rfl⟩
  obtain ⟨other, less, ranToo⟩ : ∃ other less, run ⟨Consumer.serving, [],
      [overwritten Splitter.crooked, overwritten reset.raw].map .bytes⟩ turns = (other, less) :=
    ⟨_, _, rfl⟩
  obtain ⟨-, -, -, -, -, state, -⟩ := ignores_checksums complete alike (List.append_nil _)
    (List.append_nil _) cut turns ran ranToo
  have drains : now.consumer.state = .draining := by
    obtain rfl := Except.ok.inj assembled
    rw [reading] at ran
    exact congrArg (·.1.consumer.state) ran.symm
  rw [reading] at ran ranToo
  exact ⟨reset, now, other, past, less, ⟨_, _, _, _, rfl, rfl⟩, assembled, ran, ranToo, drains,
    state.trans drains⟩

end FedConsumer

end ContinuousData
