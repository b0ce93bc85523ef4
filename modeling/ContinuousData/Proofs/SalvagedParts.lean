import ContinuousData.Proofs.CheckedBodies
import ContinuousData.Proofs.ChecksumBlindness
import ContinuousData.Proofs.GarbageExtents

/-! What is left of bytes that are no frame. Parsing keeps every part that stands in its place in
front of what is broken, and looks for no byte outside the bytes that it gets. -/
namespace ContinuousData

open Cursor Splitter

namespace Header

/-- A header is read of 36 bytes that tell a known type and an offset behind them. -/
theorem exists_read_iff {raw : Bytes} {offset : Nat} :
    (∃ header left, read raw = .ok header left ∧ header.trailerOffset = offset) ↔
      HasOffset raw offset := by
  constructor
  · rintro ⟨header, left, first, rfl⟩
    obtain ⟨taken, length, split, -⟩ := spans_read raw header left first
    have arrived : width ≤ raw.length := by
      rw [split, List.length_append]
      omega
    obtain ⟨rest, fields⟩ := typeAndOffset_of_read first
    have behind := offset_of_readTypeAndOffset fields
    rw [readTypeAndOffset_eq arrived] at fields
    cases known : FrameType.ofWire? (wordAt 0 raw) with
    | none =>
      rw [known] at fields
      contradiction
    | some type =>
      rw [known] at fields
      dsimp only at fields
      by_cases early : wordAt 4 raw < 36
      · rw [if_pos early] at fields
        contradiction
      rw [if_neg early] at fields
      obtain ⟨same, -⟩ := EStateM.Result.ok.inj fields
      have offset := (Prod.mk.inj same).2
      refine ⟨arrived, Option.isSome_of_eq_some known, ?_, behind⟩
      unfold width at behind
      omega
  · intro h
    obtain ⟨type, left, fields⟩ := h.exists_read
    exact exists_read fields h.arrived

theorem trailerOffset_eq {raw left : Bytes} {header : Header} {offset : Nat}
    (first : read raw = .ok header left) (h : HasOffset raw offset) :
    header.trailerOffset = offset := by
  have own := (exists_read_iff.mp ⟨header, left, first, rfl⟩).value
  have value := h.value
  omega

end Header

namespace Trailer

/-- A trailer has arrived in full at `offset`, as its size tells. -/
structure IsAt (raw : Bytes) (offset : Nat) : Prop where
  nonneg : 0 ≤ (wordAt (offset + 4) raw).toInt
  arrived : offset + lengthFor (wordAt (offset + 4) raw).toInt.toNat ≤ raw.length

theorem exists_read_iff {raw : Bytes} {offset : Nat} (inside : offset ≤ raw.length) :
    (∃ trailer left, read (raw.drop offset) = .ok trailer left) ↔ IsAt raw offset := by
  have size : word (((raw.drop offset).drop 4).take 4) = wordAt (offset + 4) raw := by
    rw [wordAt, List.drop_drop]
  constructor
  · rintro ⟨trailer, left, last⟩
    have length := length_of_read last
    obtain ⟨padded, checksum, fits, -, -, split⟩ := read_eq_ok last
    have value : (wordAt (offset + 4) raw).toInt = trailer.authValue.length := by
      rw [← size, split, List.append_assoc, List.append_assoc, List.append_assoc,
        List.drop_left' (Encoder.length_i32 _), List.take_left' (Encoder.length_length _),
        word_length fits, Int32.toInt_ofNat_of_lt (Nat.lt_of_le_of_lt fits (by decide))]
    refine ⟨by omega, ?_⟩
    rw [value, Int.toNat_natCast]
    rw [List.length_drop, wireLength] at length
    omega
  · rintro ⟨nonneg, arrived⟩
    rw [← size] at nonneg arrived
    have enough : lengthFor (word (((raw.drop offset).drop 4).take 4)).toInt.toNat ≤
        (raw.drop offset).length := by
      rw [List.length_drop]
      omega
    obtain ⟨trailer, last⟩ := exists_read_of_le (not_lt_of_toInt nonneg) enough
    exact ⟨trailer, _, last⟩

end Trailer

namespace Frame

/-- The body announced by a header, read by index. -/
def readBody? (header : Header) (body : Bytes) : Option (Except Error Body × List Notice) := do
  let length ← difference? header.trailerOffset Header.width
  if body.length ≠ length then
    return (.error (.bodyLengthMismatch header.type length body.length), [])
  Body.walk header.type body

/-- Parsing by index. -/
def parse? (raw : Bytes) : Option (Except PartialFrame Frame × List Notice) := do
  match ← Header.walk raw 0 with
  | (.error reason, _) => return (.error ⟨none, none, none, reason, raw⟩, [])
  | (.ok header, _) =>
    if raw.length < header.trailerOffset then
      return (.error ⟨some header, none, none,
        .endsBeforeTrailer raw.length header.trailerOffset, raw⟩, [])
    let body ← slice? Header.width header.trailerOffset raw
    let back ← slice? header.trailerOffset raw.length raw
    match ← Trailer.walk back 0 with
    | (.error reason, _) => return (.error ⟨some header, some body, none, reason, raw⟩, [])
    | (.ok trailer, stop) =>
      let left ← difference? back.length stop
      if left ≠ 0 then
        return (.error ⟨some header, some body, some trailer, .bytesAfterTrailer left, raw⟩, [])
      match ← readBody? header body with
      | (.ok body, notices) => return (.ok { header, body, trailer, raw }, notices)
      | (.error reason, notices) =>
        return (.error ⟨some header, some body, some trailer, reason, raw⟩, notices)

variable {raw : Bytes}

theorem readBody?_eq {header : Header} {body : Bytes} (behind : Header.width ≤ header.trailerOffset)
    (room : body.length ≤ capacity) : readBody? header body = some (readBody header body) := by
  rw [readBody?, difference?, if_pos behind, Option.bind_eq_bind, Option.bind_some, readBody,
    Header.bodyLength]
  split
  · rfl
  · exact Body.walk_eq room

/-- No byte is looked for outside the bytes that are parsed. -/
theorem parse?_eq (room : raw.length ≤ capacity) : parse? raw = some (parse raw) := by
  obtain ⟨result, place, found, -, first⟩ := Header.follows_walk raw 0 room (Nat.zero_le _)
  rw [List.drop_zero] at first
  unfold parse? parse
  rw [found, first, Option.bind_eq_bind, Option.bind_some]
  cases result with
  | error reason => rfl
  | ok header =>
    have behind := (Header.exists_read_iff.mp ⟨header, _, first, rfl⟩).behind
    dsimp only [outcome]
    by_cases short : raw.length < header.trailerOffset
    · rw [if_pos short, if_pos short]
      rfl
    have inside := Nat.not_lt.mp short
    have roomBack : (raw.drop header.trailerOffset).length ≤ capacity := by
      rw [List.length_drop]
      omega
    have roomBody : ((raw.take header.trailerOffset).drop Header.width).length ≤ capacity := by
      rw [List.length_drop, List.length_take]
      omega
    obtain ⟨result, stop, found, within, last⟩ :=
      Trailer.follows_walk (raw.drop header.trailerOffset) 0 roomBack (Nat.zero_le _)
    rw [List.drop_zero] at last
    rw [if_neg short, if_neg short, slice?_eq behind inside, slice?_eq inside le_rfl,
      List.take_length, Option.bind_eq_bind, Option.bind_some, Option.bind_eq_bind,
      Option.bind_some, found, last, Option.bind_eq_bind, Option.bind_some]
    cases result with
    | error reason => rfl
    | ok trailer =>
      dsimp only [outcome]
      have left : difference? (raw.drop header.trailerOffset).length stop =
          some ((raw.drop header.trailerOffset).drop stop).length := by
        rw [difference?, if_pos within, @List.length_drop _ stop]
      rw [left, Option.bind_eq_bind, Option.bind_some, readBody?_eq behind roomBody,
        Option.bind_some]
      cases (raw.drop header.trailerOffset).drop stop with
      | cons byte others => rfl
      | nil =>
        rw [if_neg (not_not.mpr List.length_nil), if_neg (not_not.mpr rfl)]
        rcases readBody header ((raw.take header.trailerOffset).drop Header.width) with
          ⟨_ | _, notices⟩ <;> rfl

/-- What is left when parsing stops, with a case for each place where it does. -/
inductive Remains (raw : Bytes) : PartialFrame → Prop where
  | nothing {reason : Error} {left : Bytes} (first : Header.read raw = .error reason left) :
      Remains raw ⟨none, none, none, reason, raw⟩
  | header {header : Header} {left : Bytes} (first : Header.read raw = .ok header left)
      (short : raw.length < header.trailerOffset) :
      Remains raw
        ⟨some header, none, none, .endsBeforeTrailer raw.length header.trailerOffset, raw⟩
  | body {header : Header} {reason : Error} {left rest : Bytes}
      (first : Header.read raw = .ok header left) (inside : header.trailerOffset ≤ raw.length)
      (last : Trailer.read (raw.drop header.trailerOffset) = .error reason rest) :
      Remains raw ⟨some header, some (middle raw header), none, reason, raw⟩
  | behind {header : Header} {trailer : Trailer} {left rest : Bytes}
      (first : Header.read raw = .ok header left) (inside : header.trailerOffset ≤ raw.length)
      (last : Trailer.read (raw.drop header.trailerOffset) = .ok trailer rest) (more : rest ≠ []) :
      Remains raw ⟨some header, some (middle raw header), some trailer,
        .bytesAfterTrailer rest.length, raw⟩
  | between {header : Header} {trailer : Trailer} {reason : Error} {left : Bytes}
      (first : Header.read raw = .ok header left) (inside : header.trailerOffset ≤ raw.length)
      (last : Trailer.read (raw.drop header.trailerOffset) = .ok trailer [])
      (broken : (Body.read header.type (middle raw header)).1 = .error reason) :
      Remains raw ⟨some header, some (middle raw header), some trailer, reason, raw⟩

theorem remains_of_parse {broken : PartialFrame} (h : (parse raw).1 = .error broken) :
    Remains raw broken := by
  unfold parse at h
  cases first : Header.read raw with
  | error reason left =>
    rw [first] at h
    obtain rfl := Except.error.inj h
    exact .nothing first
  | ok header left =>
    rw [first] at h
    dsimp only at h
    by_cases short : raw.length < header.trailerOffset
    · rw [if_pos short] at h
      obtain rfl := Except.error.inj h
      exact .header first short
    have inside := Nat.not_lt.mp short
    rw [if_neg short] at h
    cases last : Trailer.read (raw.drop header.trailerOffset) with
    | error reason rest =>
      rw [last] at h
      obtain rfl := Except.error.inj h
      exact .body first inside last
    | ok trailer rest =>
      rw [last] at h
      dsimp only at h
      by_cases more : rest ≠ []
      · rw [if_pos more] at h
        obtain rfl := Except.error.inj h
        exact .behind first inside last more
      obtain rfl := not_not.mp more
      have ends : HasEnds raw header trailer := ⟨⟨left, first⟩, inside, last⟩
      have between := ends.readBody_eq
      unfold middle at between
      rw [if_neg more, between] at h
      rcases read : Body.read header.type ((raw.take header.trailerOffset).drop Header.width)
        with ⟨_ | _, notices⟩
      · rw [read] at h
        obtain rfl := Except.error.inj h
        exact .between first inside last (congrArg Prod.fst read)
      · rw [read] at h
        contradiction

/-- Every part is kept that stands in its place, and the rest is why there is no frame. -/
structure IsSalvage (raw : Bytes) (broken : PartialFrame) : Prop where
  raw_eq : broken.raw = raw
  header_isSome : broken.header.isSome ↔ ∃ offset, HasOffset raw offset
  body_isSome : broken.body.isSome ↔ ∃ offset, HasOffset raw offset ∧ offset ≤ raw.length
  trailer_isSome : broken.trailer.isSome ↔ ∃ offset, HasOffset raw offset ∧ Trailer.IsAt raw offset
  header_eq : ∀ header, broken.header = some header → ∃ left, Header.read raw = .ok header left
  body_eq : ∀ offset body, HasOffset raw offset → broken.body = some body →
    body = (raw.take offset).drop Header.width
  trailer_eq : ∀ offset trailer, HasOffset raw offset → broken.trailer = some trailer →
    ∃ left, Trailer.read (raw.drop offset) = .ok trailer left
  fault : ∀ header body trailer, broken.header = some header → broken.body = some body →
    broken.trailer = some trailer →
      (∃ count, 0 < count ∧
        raw.length = header.trailerOffset + trailer.wireLength + count ∧
          broken.reason = .bytesAfterTrailer count) ∨
      raw.length = header.trailerOffset + trailer.wireLength ∧
        (Body.read header.type body).1 = .error broken.reason

section

variable {header : Header} {left : Bytes} {offset : Nat} {broken : PartialFrame}

theorem not_hasOffset_of_error {reason : Error} (first : Header.read raw = .error reason left) :
    ¬ HasOffset raw offset := by
  intro h
  obtain ⟨header, rest, read, -⟩ := Header.exists_read_iff.mpr h
  rw [first] at read
  contradiction

theorem hasOffset_of_read (first : Header.read raw = .ok header left) :
    HasOffset raw header.trailerOffset :=
  Header.exists_read_iff.mp ⟨header, left, first, rfl⟩

theorem Remains.header_isSome (h : Remains raw broken) :
    broken.header.isSome ↔ ∃ offset, HasOffset raw offset := by
  cases h with
  | nothing first =>
    exact iff_of_false nofun fun ⟨_, h⟩ => not_hasOffset_of_error first h
  | header first | body first | behind first | between first =>
    exact iff_of_true rfl ⟨_, hasOffset_of_read first⟩

theorem Remains.body_isSome (h : Remains raw broken) :
    broken.body.isSome ↔ ∃ offset, HasOffset raw offset ∧ offset ≤ raw.length := by
  cases h with
  | nothing first =>
    exact iff_of_false nofun fun ⟨_, h, _⟩ => not_hasOffset_of_error first h
  | header first short =>
    refine iff_of_false nofun fun ⟨offset, h, inside⟩ => ?_
    rw [Header.trailerOffset_eq first h] at short
    omega
  | body first inside | behind first inside | between first inside =>
    exact iff_of_true rfl ⟨_, hasOffset_of_read first, inside⟩

theorem Remains.trailer_isSome (h : Remains raw broken) :
    broken.trailer.isSome ↔ ∃ offset, HasOffset raw offset ∧ Trailer.IsAt raw offset := by
  cases h with
  | nothing first =>
    exact iff_of_false nofun fun ⟨_, h, _⟩ => not_hasOffset_of_error first h
  | header first short =>
    refine iff_of_false nofun fun ⟨offset, h, whole⟩ => ?_
    have arrived := whole.arrived
    rw [Header.trailerOffset_eq first h] at short
    omega
  | body first inside last =>
    refine iff_of_false nofun fun ⟨offset, h, whole⟩ => ?_
    obtain rfl := Header.trailerOffset_eq first h
    obtain ⟨trailer, rest, read⟩ := (Trailer.exists_read_iff inside).mpr whole
    rw [last] at read
    contradiction
  | behind first inside last | between first inside last =>
    exact iff_of_true rfl
      ⟨_, hasOffset_of_read first, (Trailer.exists_read_iff inside).mp ⟨_, _, last⟩⟩

theorem length_of_trailer {trailer : Trailer} {rest : Bytes}
    (inside : header.trailerOffset ≤ raw.length)
    (last : Trailer.read (raw.drop header.trailerOffset) = .ok trailer rest) :
    raw.length = header.trailerOffset + trailer.wireLength + rest.length := by
  have length := Trailer.length_of_read last
  rw [List.length_drop] at length
  omega

theorem Remains.isSalvage (h : Remains raw broken) : IsSalvage raw broken where
  raw_eq := by cases h <;> rfl
  header_isSome := h.header_isSome
  body_isSome := h.body_isSome
  trailer_isSome := h.trailer_isSome
  header_eq := by
    intro header found
    cases h with
    | nothing => contradiction
    | header first | body first | behind first | between first =>
      obtain rfl := Option.some.inj found
      exact ⟨_, first⟩
  body_eq := by
    intro offset body h' found
    cases h with
    | nothing | header => contradiction
    | body first | behind first | between first =>
      obtain rfl := Option.some.inj found
      rw [middle, Header.trailerOffset_eq first h']
  trailer_eq := by
    intro offset trailer h' found
    cases h with
    | nothing | header | body => contradiction
    | behind first _ last | between first _ last =>
      obtain rfl := Option.some.inj found
      obtain rfl := Header.trailerOffset_eq first h'
      exact ⟨_, last⟩
  fault := by
    intro header body trailer foundHeader foundBody foundTrailer
    cases h with
    | nothing | header | body => contradiction
    | behind first inside last more =>
      obtain rfl := Option.some.inj foundHeader
      obtain rfl := Option.some.inj foundTrailer
      exact .inl ⟨_, List.length_pos_iff_ne_nil.mpr more, length_of_trailer inside last, rfl⟩
    | between first inside last broken =>
      obtain rfl := Option.some.inj foundHeader
      obtain rfl := Option.some.inj foundBody
      obtain rfl := Option.some.inj foundTrailer
      exact .inr ⟨length_of_trailer inside last, broken⟩

end

/-- Parsing comes to a frame of the bytes that it gets, or keeps what is whole of them. It looks for
no byte outside of them. -/
theorem parse_salvages (raw : Bytes) :
    (raw.length ≤ capacity → parse? raw = some (parse raw)) ∧
      ((∃ frame, (parse raw).1 = .ok frame ∧ frame.raw = raw) ∨
        ∃ broken, (parse raw).1 = .error broken ∧ IsSalvage raw broken) := by
  refine ⟨parse?_eq, ?_⟩
  cases parsed : (parse raw).1 with
  | ok frame => exact .inl ⟨frame, rfl, (parse_eq_ok parsed).1⟩
  | error broken => exact .inr ⟨broken, rfl, (remains_of_parse parsed).isSalvage⟩

/-- Without its last byte, a frame keeps its header and its body. -/
theorem parse_salvages_cut :
    (crooked.take 56).length ≤ capacity ∧
      parse? (crooked.take 56) = some (parse (crooked.take 56)) ∧
      ∃ header, IsSalvage (crooked.take 56)
        ⟨some header, some [0xFF], none, .missingScalar .i64, crooked.take 56⟩ := by
  have room : (crooked.take 56).length ≤ capacity := by decide
  have stopped : ∃ header, (parse (crooked.take 56)).1 =
      .error ⟨some header, some [0xFF], none, .missingScalar .i64, crooked.take 56⟩ := ⟨_, rfl⟩
  obtain ⟨header, stopped⟩ := stopped
  obtain ⟨checked, outcome⟩ := parse_salvages (crooked.take 56)
  rcases outcome with ⟨frame, parsed, -⟩ | ⟨broken, parsed, salvage⟩
  · rw [stopped] at parsed
    contradiction
  · rw [stopped] at parsed
    obtain rfl := Except.error.inj parsed
    exact ⟨room, checked room, header, salvage⟩

end Frame

end ContinuousData
