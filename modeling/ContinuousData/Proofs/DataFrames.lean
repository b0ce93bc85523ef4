import ContinuousData.Endpoint
import ContinuousData.Proofs.FrameCodec
import ContinuousData.Proofs.SubframeCodec
import Mathlib

/-! DATA frames and their way over the wire. The channel string of an odd number of channels is
followed by two bytes of padding, which the reader takes for what they are only where the channel
length after them is small. -/
namespace ContinuousData

theorem Bytes.padding_ids (count : Nat) :
    padding (10 * count) 4 = if count % 2 = 0 then 0 else 2 := by
  unfold padding
  split_ifs <;> omega

namespace Subframe

/-- The channel length stands in front. -/
theorem channelLength_of_write {s : Subframe} {written : Bytes} (h : s.write = .ok written) :
    ∃ left, written = Encoder.i32 s.channelLength ++ left := by
  obtain ⟨-, id, format, time, status, data, authValue, -, -, -, -, -, -, fields⟩ := write_eq_ok h
  refine ⟨written.drop 4, ?_⟩
  rw [fields]
  simp only [List.append_assoc]
  rw [List.drop_left' (Encoder.length_i32 s.channelLength)]

theorem channelLength_of_read {s : Subframe} {input rest : Bytes} (h : read input = .ok s rest) :
    ∃ left, input = Encoder.i32 s.channelLength ++ left := by
  unfold read at h
  obtain ⟨_, _, remaining, h⟩ := Decoder.bind_eq_ok.mp h
  obtain ⟨-, rfl⟩ := EStateM.Result.ok.inj remaining
  split at h
  · simp [bind, EStateM.bind] at h
  obtain ⟨channelLength, left, first, h⟩ := Decoder.bind_eq_ok.mp h
  -- The fields after the first one.
  iterate 19 obtain ⟨_, _, -, h⟩ := Decoder.bind_eq_ok.mp h
  obtain ⟨_, _, -, result⟩ := Decoder.bind_eq_ok.mp h
  obtain ⟨rfl, -⟩ := EStateM.Result.ok.inj result
  exact ⟨left, Decoder.i32_eq_ok first⟩

theorem channelLength_nonneg {s : Subframe} (valid : s.check = .ok ()) : 0 ≤ s.channelLength :=
  Int32.le_trans (by decide) (check_eq_ok.mp valid).1

/-- The two leading bytes of a number. -/
theorem take_i32 {value : Int32} (h : 0 ≤ value) :
    (Encoder.i32 value).take 2 = Bytes.zeros 2 ↔ value < 65536 := by
  have bits : value.toUInt32.toNat = value.toInt := by
    rw [Int32.toNat_toUInt32_of_le h, Int32.toInt_eq_toNatClampNeg h]
  have bound := value.toInt_lt
  have leading : (Encoder.i32 value).take 2 = [UInt8.ofNat (value.toUInt32.toNat / 256 / 256 / 256),
      UInt8.ofNat (value.toUInt32.toNat / 256 / 256)] := rfl
  have limit : (65536 : Int32).toInt = 65536 := rfl
  rw [leading, Int32.lt_iff_toInt_lt, limit]
  simp only [Bytes.zeros, List.replicate, List.cons.injEq, and_true,
    UInt8.ofNat_eq_iff_mod_eq_toNat]
  change _ % 256 = 0 ∧ _ % 256 = 0 ↔ _
  omega

end Subframe

namespace DataHeader

theorem check_eq_ok {header : DataHeader} :
    header.check = .ok () ↔ 0 < header.channels ∧ 0 < header.timeLength := by
  unfold check
  simp only [refuse_eq_ok, refuse_pure_eq_ok, and_true, Int32.not_le]

theorem write_eq_ok {header : DataHeader} {written : Bytes} :
    header.write = .ok written ↔
      header.check = .ok () ∧ ∃ time, OrdinalDate.write header.nominalTime = .ok time ∧
        ∃ channelString, Encoder.sized header.channelString = .ok channelString ∧
          Encoder.i32 header.channels ++ Encoder.i32 header.timeLength ++ time ++ channelString =
            written := by
  unfold write
  simp only [bind_eq_ok, pure_eq_ok]
  exact ⟨fun ⟨_, h⟩ => h, fun h => ⟨(), h⟩⟩

theorem length_write {header : DataHeader} {written : Bytes} (h : header.write = .ok written) :
    written.length = 32 + Bytes.aligned header.channelString.length := by
  obtain ⟨-, time, ht, channelString, hs, rfl⟩ := write_eq_ok.mp h
  simp only [List.length_append, Encoder.length_i32, OrdinalDate.length_write ht,
    Encoder.length_sized hs, OrdinalDate.width]
  omega

/-- What stands between the channel string and the subframes. -/
def padding (header : DataHeader) : Bytes :=
  Bytes.zeros (Bytes.padding header.channelString.length 4)

/-- The padding is recognized by the four bytes that start with it. -/
def IsAligned (header : DataHeader) (rest : Bytes) : Prop :=
  header.padding = [] ∨ (header.padding ++ rest).take 4 = Bytes.zeros 4

instance (header : DataHeader) (rest : Bytes) : Decidable (header.IsAligned rest) := by
  unfold IsAligned
  infer_instance

theorem readFields_write {header : DataHeader} {written : Bytes} (h : header.write = .ok written)
    (exact : OrdinalDate.IsExact header.nominalTime) (rest : Bytes) :
    readFields (written ++ rest) =
      if header.IsAligned rest then .ok (header, true) rest
      else .ok (header, false) (header.padding ++ rest) := by
  obtain ⟨-, time, ht, channelString, hs, rfl⟩ := write_eq_ok.mp h
  obtain ⟨fits, rfl⟩ := Encoder.sized_eq_ok.mp hs
  unfold readFields Encoder.padded
  simp only [List.append_assoc]
  rw [Decoder.bind_of_ok (Decoder.reads_i32 _ _), Decoder.bind_of_ok (Decoder.reads_i32 _ _),
    Decoder.bind_of_ok (OrdinalDate.reads_write ht exact _),
    Decoder.bind_of_ok (Decoder.reads_length _ fits _),
    Decoder.bind_of_ok (Decoder.reads_bytes _ _)]
  by_cases none : Bytes.padding header.channelString.length 4 = 0
  · have empty : header.padding = [] := by
      rw [padding, none]
      rfl
    rw [if_pos none, if_pos (.inl empty)]
    change EStateM.Result.ok _ (header.padding ++ rest) = _
    rw [empty, List.nil_append]
  have some : header.padding ≠ [] := by
    rwa [padding, ← List.length_pos_iff_ne_nil, Bytes.length_zeros, Nat.pos_iff_ne_zero]
  have look : readFields.nextIsZero (header.padding ++ rest) = .ok _ _ := rfl
  rw [if_neg none, ← padding, Decoder.bind_of_ok look]
  by_cases zero : (header.padding ++ rest).take 4 = Bytes.zeros 4
  · rw [if_pos (beq_iff_eq.mpr zero), if_pos (.inr zero)]
    exact Decoder.bind_of_ok (Decoder.reads_zeros _ rest)
  · have unaligned : ¬ header.IsAligned rest := not_or.mpr ⟨some, zero⟩
    rw [if_neg (mt beq_iff_eq.mp zero), if_neg unaligned]
    rfl

theorem padding_of_ids {header : DataHeader} {count : Nat}
    (ids : header.channelString.length = 10 * count) :
    header.padding = if count % 2 = 0 then [] else Bytes.zeros 2 := by
  rw [padding, ids, Bytes.padding_ids]
  split_ifs <;> rfl

theorem isAligned_of_odd {header : DataHeader} (odd : header.padding = Bytes.zeros 2)
    (value : Int32) (left : Bytes) :
    header.IsAligned (Encoder.i32 value ++ left) ↔
      (Encoder.i32 value).take 2 = Bytes.zeros 2 := by
  have leading : (Bytes.zeros 2 ++ (Encoder.i32 value ++ left)).take 4 =
      Bytes.zeros 2 ++ (Encoder.i32 value).take 2 := by
    rw [List.take_append, List.take_append]
    rfl
  have zeros : Bytes.zeros 4 = Bytes.zeros 2 ++ Bytes.zeros 2 := rfl
  rw [IsAligned, odd, leading, zeros, List.append_cancel_left_eq]
  exact or_iff_right nofun

end DataHeader

namespace DataFrame

theorem readSubframes_flatten {subframes : List Subframe} {written : List Bytes} {index : Nat}
    (rest : Bytes) (h : List.Forall₂ (fun s bytes => s.write = .ok bytes) subframes written)
    (canonical : ∀ s ∈ subframes, s.IsCanonical) :
    readSubframes subframes.length index (written.flatten ++ rest) = (subframes, [], rest) := by
  induction h generalizing index with
  | nil => rfl
  | cons first _ ih =>
    obtain ⟨firstCanonical, othersCanonical⟩ := List.forall_mem_cons.mp canonical
    rw [List.length_cons, readSubframes, List.flatten_cons, List.append_assoc,
      Subframe.reads_write first firstCanonical]
    dsimp only
    rw [ih othersCanonical]

theorem length_flatten {subframes : List Subframe} {written : List Bytes}
    (h : List.Forall₂ (fun s bytes => s.write = .ok bytes) subframes written) :
    written.flatten.length = (subframes.map Subframe.wireLength).sum := by
  induction h with
  | nil => rfl
  | cons first _ ih =>
    rw [List.flatten_cons, List.length_append, Subframe.length_write first, ih, List.map_cons,
      List.sum_cons]

theorem isExact_foldl {start : Timestamp} {others : List Subframe}
    (first : OrdinalDate.IsExact start) (h : ∀ s ∈ others, OrdinalDate.IsExact s.time) :
    OrdinalDate.IsExact (others.foldl (fun earliest s => min earliest s.time) start) := by
  induction others generalizing start with
  | nil => exact first
  | cons s others ih =>
    obtain ⟨exact, h⟩ := List.forall_mem_cons.mp h
    apply ih _ h
    dsimp only
    rw [Int.min_def]
    split_ifs
    · exact first
    · exact exact

theorem length_ids {subframes : List Subframe} {ids : List Bytes}
    (h : List.Forall₂ (fun s id => (do s.check; s.channelId) = .ok id) subframes ids) :
    ids.flatten.length = 10 * subframes.length := by
  induction h with
  | nil => rfl
  | cons first _ ih =>
    obtain ⟨_, -, id⟩ := bind_eq_ok.mp first
    rw [List.flatten_cons, List.length_append, Subframe.length_channelId id, ih, List.length_cons]
    omega

theorem exists_id {s : Subframe} (canonical : s.IsCanonical) :
    ∃ id, (do s.check; s.channelId) = .ok id := by
  obtain ⟨id, hid⟩ := Subframe.channelId_of_check canonical.valid
  exact ⟨id, bind_eq_ok.mpr ⟨(), canonical.valid, hid⟩⟩

theorem ofNat_pos {count : Nat} (some : 0 < count) (fits : count ≤ Encoder.maxLength) :
    0 < Int32.ofNat count := by
  have value : (Int32.ofNat count).toInt = count :=
    Int32.toInt_ofNat_of_lt (Nat.lt_of_le_of_lt fits (by decide))
  rw [Int32.lt_iff_toInt_lt, value]
  exact Int.natCast_pos.mpr some

/-- The header of a frame of subframes that are fit for the wire. -/
theorem exists_ofSubframes {first : Subframe} {others : List Subframe}
    (canonical : ∀ s ∈ first :: others, s.IsCanonical) (positive : 0 < first.timeLength)
    (fits : (first :: others).length ≤ Encoder.maxLength) :
    ∃ header : DataHeader, ofSubframes (first :: others) = .ok ⟨header, first :: others⟩ ∧
      header.check = .ok () ∧ header.channelString.length = 10 * (first :: others).length ∧
      OrdinalDate.IsExact header.nominalTime := by
  obtain ⟨ids, hids⟩ := exists_mapM fun s hs => exists_id (canonical s hs)
  have exact := isExact_foldl (canonical first List.mem_cons_self).time
    fun s hs => (canonical s (List.mem_cons_of_mem first hs)).time
  have some : 0 < Int32.ofNat (first :: others).length :=
    ofNat_pos (List.length_pos_of_ne_nil (List.cons_ne_nil first others)) fits
  refine ⟨⟨Int32.ofNat (first :: others).length, first.timeLength, others.foldl
    (fun earliest s => min earliest s.time) first.time, ids.flatten⟩, ?_,
    DataHeader.check_eq_ok.mpr ⟨some, positive⟩, length_ids (mapM_eq_ok.mp hids), exact⟩
  unfold ofSubframes
  dsimp only
  simp only [bind_eq_ok, refuse_eq_ok, pure_eq_ok]
  exact ⟨ids, hids, Nat.not_lt.mpr fits, (), DataHeader.check_eq_ok.mpr ⟨some, positive⟩, rfl⟩

theorem isAligned_iff {header : DataHeader} {first : Subframe} {others : List Subframe}
    {written : List Bytes} (ids : header.channelString.length = 10 * (first :: others).length)
    (h : List.Forall₂ (fun s bytes => s.write = .ok bytes) (first :: others) written)
    (nonneg : 0 ≤ first.channelLength) :
    header.IsAligned written.flatten ↔
      (first :: others).length % 2 = 0 ∨ first.channelLength < 65536 := by
  have padding := DataHeader.padding_of_ids ids
  by_cases even : (first :: others).length % 2 = 0
  · rw [if_pos even] at padding
    exact ⟨fun _ => .inl even, fun _ => .inl padding⟩
  · rw [if_neg even] at padding
    obtain ⟨bytes, more, hfirst, -, rfl⟩ := List.forall₂_cons_left_iff.mp h
    obtain ⟨left, rfl⟩ := Subframe.channelLength_of_write hfirst
    rw [List.flatten_cons, List.append_assoc, DataHeader.isAligned_of_odd padding,
      Subframe.take_i32 nonneg]
    exact (or_iff_right even).symm

theorem read_of_isAligned {header : DataHeader} {subframes : List Subframe} {head : Bytes}
    {written : List Bytes} (hh : header.write = .ok head)
    (exact : OrdinalDate.IsExact header.nominalTime) (some : subframes ≠ [])
    (ids : header.channelString.length = 10 * subframes.length)
    (h : List.Forall₂ (fun s bytes => s.write = .ok bytes) subframes written)
    (canonical : ∀ s ∈ subframes, s.IsCanonical) (aligned : header.IsAligned written.flatten) :
    read (head ++ written.flatten) = (.ok ⟨header, subframes⟩, header.notices) := by
  have count : header.idCount = subframes.length := by
    rw [DataHeader.idCount, ids, DataHeader.channelIdWidth, Nat.mul_div_cancel_left _ (by decide)]
  have back := @readSubframes_flatten subframes written 0 [] h canonical
  rw [List.append_nil] at back
  rw [read, DataHeader.readFields_write hh exact, if_pos aligned]
  dsimp only
  rw [(DataHeader.write_eq_ok.mp hh).1, count, back]
  dsimp only
  rw [if_neg some]
  simp

theorem channelLength_of_readSubframes {count index : Nat} {input rest : Bytes} {first : Subframe}
    {others : List Subframe} {notices : List Notice}
    (h : readSubframes count index input = (first :: others, notices, rest)) :
    ∃ left, input = Encoder.i32 first.channelLength ++ left := by
  cases count with
  | zero =>
    obtain ⟨none, -⟩ := Prod.mk.inj h
    contradiction
  | succ count =>
    rw [readSubframes] at h
    cases hs : Subframe.read input with
    | error reason left =>
      rw [hs] at h
      obtain ⟨none, -⟩ := Prod.mk.inj h
      contradiction
    | ok s left =>
      rw [hs] at h
      obtain ⟨same, -⟩ := Prod.mk.inj h
      obtain ⟨rfl, -⟩ := List.cons.inj same
      exact Subframe.channelLength_of_read hs

/-- The padding is then taken for a part of the first subframe's channel length. -/
theorem read_of_not_isAligned {header : DataHeader} {first : Subframe} {others : List Subframe}
    {head : Bytes} {written : List Bytes} (hh : header.write = .ok head)
    (exact : OrdinalDate.IsExact header.nominalTime)
    (ids : header.channelString.length = 10 * (first :: others).length)
    (h : List.Forall₂ (fun s bytes => s.write = .ok bytes) (first :: others) written)
    (unaligned : ¬ header.IsAligned written.flatten) :
    (read (head ++ written.flatten)).1 ≠ .ok ⟨header, first :: others⟩ := by
  obtain ⟨bytes, more, hfirst, -, rfl⟩ := List.forall₂_cons_left_iff.mp h
  obtain ⟨left, rfl⟩ := Subframe.channelLength_of_write hfirst
  rw [List.flatten_cons, List.append_assoc] at unaligned ⊢
  have padding := DataHeader.padding_of_ids ids
  by_cases even : (first :: others).length % 2 = 0
  · rw [if_pos even] at padding
    exact absurd (.inl padding) unaligned
  rw [if_neg even] at padding
  rw [read, DataHeader.readFields_write hh exact, if_neg unaligned]
  dsimp only
  rw [(DataHeader.write_eq_ok.mp hh).1, padding]
  dsimp only
  rcases result : readSubframes header.idCount 0
    (Bytes.zeros 2 ++ (Encoder.i32 first.channelLength ++ (left ++ more.flatten)))
    with ⟨subframes, stopped, rest⟩
  dsimp only
  by_cases none : subframes = []
  · rw [if_pos none]
    exact nofun
  rw [if_neg none]
  intro same
  obtain ⟨-, rfl⟩ := DataFrame.mk.inj (Except.ok.inj same)
  obtain ⟨_, stream⟩ := channelLength_of_readSubframes result
  have leading := congrArg (List.take 2) stream
  rw [List.take_left' (Bytes.length_zeros 2), List.take_append_of_le_length (by simp)] at leading
  exact unaligned ((DataHeader.isAligned_of_odd padding _ _).mpr leading.symm)

/-- The length of the body around some subframes. -/
def bodyLength (subframes : List Subframe) : Nat :=
  32 + Bytes.aligned (10 * subframes.length) + (subframes.map Subframe.wireLength).sum

theorem wireLength_le {s : Subframe} {subframes : List Subframe} (h : s ∈ subframes) :
    s.wireLength ≤ (subframes.map Subframe.wireLength).sum :=
  List.le_sum_of_mem (List.mem_map_of_mem h)

theorem length_le_bodyLength (subframes : List Subframe) :
    10 * subframes.length ≤ bodyLength subframes := by
  unfold bodyLength Bytes.aligned Bytes.padded
  omega

/-- Subframes that are fit for the wire make a frame, and its body is written. -/
theorem exists_write {first : Subframe} {others : List Subframe}
    (canonical : ∀ s ∈ first :: others, s.IsCanonical) (positive : 0 < first.timeLength)
    (fits : bodyLength (first :: others) ≤ Encoder.maxLength) :
    ∃ header head written, ofSubframes (first :: others) = .ok ⟨header, first :: others⟩ ∧
      header.channelString.length = 10 * (first :: others).length ∧
      OrdinalDate.IsExact header.nominalTime ∧ header.write = .ok head ∧
      List.Forall₂ (fun s bytes => s.write = .ok bytes) (first :: others) written ∧
      write ⟨header, first :: others⟩ = .ok (head ++ written.flatten) ∧
      (head ++ written.flatten).length = bodyLength (first :: others) := by
  have count := length_le_bodyLength (first :: others)
  obtain ⟨header, made, valid, ids, exact⟩ := exists_ofSubframes canonical positive (by omega)
  obtain ⟨time, ht⟩ := OrdinalDate.write_of_isExact exact
  have hh := DataHeader.write_eq_ok.mpr ⟨valid, time, ht, _,
    Encoder.sized_eq_ok.mpr ⟨by omega, rfl⟩, rfl⟩
  have writes : ∀ s ∈ first :: others, ∃ bytes, s.write = .ok bytes := by
    intro s hs
    have wire := wireLength_le hs
    have fields := s.length_le_wireLength
    unfold bodyLength at fits
    exact Subframe.write_of_check (canonical s hs).valid (canonical s hs).time (by omega)
      (by omega) (by omega)
  obtain ⟨written, hw⟩ := exists_mapM writes
  have each := mapM_eq_ok.mp hw
  refine ⟨header, _, written, made, ids, exact, hh, each, ?_, ?_⟩
  · unfold write
    simp only [bind_eq_ok, pure_eq_ok]
    exact ⟨_, hh, written, hw, rfl⟩
  · rw [List.length_append, DataHeader.length_write hh, ids, length_flatten each]
    rfl

end DataFrame

/-- What is reported of a header is about the ids in its channel string. -/
theorem DataHeader.mem_notices {header : DataHeader} {notice : Notice}
    (h : notice ∈ header.notices) :
    notice = .channelStringLength header.channelString.length ∨
      notice = .channelCount header.idCount header.channels ∨
        ∃ id, notice = .invalidChannelId id := by
  rcases List.mem_append.mp h with h | h
  · rcases List.mem_append.mp h with h | h
    · split_ifs at h
      · exact .inl (List.mem_singleton.mp h)
      · contradiction
    · split_ifs at h
      · exact .inr (.inl (List.mem_singleton.mp h))
      · contradiction
  · obtain ⟨id, -, rfl⟩ := List.mem_map.mp h
    exact .inr (.inr ⟨_, rfl⟩)

theorem DataHeader.unparsedBytes_not_mem_notices (header : DataHeader) (count : Nat) :
    .unparsedBytes count ∉ header.notices := by
  intro h
  rcases mem_notices h with h | h | ⟨_, h⟩ <;> contradiction

namespace Endpoint

/-- Endpoints as they come about, with names that fit into frame headers. -/
inductive IsBuilt : Endpoint → Prop where
  | ofSettings {settings : EndpointSettings} {endpoint : Endpoint}
      (h : ofSettings settings = .ok endpoint) : IsBuilt endpoint
  | setFrameset {endpoint changed : Endpoint} {frameset : String} (built : IsBuilt endpoint)
      (h : endpoint.setFrameset frameset = .ok changed) : IsBuilt changed

/-- All that an endpoint tells of itself fits into the fields of frames. -/
structure Fits (endpoint : Endpoint) : Prop where
  creator : Text.size endpoint.creator ≤ Header.creatorWidth
  destination : Text.size endpoint.destination ≤ Header.destinationWidth
  responderName : Text.size endpoint.responderName ≤ Handshake.nameWidth
  responderType : Text.size endpoint.responderType ≤ Handshake.typeWidth
  version : 0 ≤ endpoint.major ∧ 0 ≤ endpoint.minor
  frameset : Text.size endpoint.frameset ≤ Acknowledgement.framesetWidth

/-- An endpoint has the identity that it was told to have. -/
theorem eq_of_ofSettings {settings : EndpointSettings} {endpoint : Endpoint}
    (h : ofSettings settings = .ok endpoint) :
    endpoint.Fits ∧ ∃ frameset, endpoint = ⟨settings.authKeyId, settings.creator,
      settings.destination, settings.major, settings.minor, settings.responderName,
      settings.responderType, settings.service, frameset⟩ := by
  unfold ofSettings checkFrameset at h
  dsimp only at h
  simp only [bind_eq_ok, refuse_eq_ok, refuse_pure_eq_ok, pure_eq_ok, Nat.not_lt, not_or,
    Int16.not_lt] at h
  obtain ⟨creator, destination, name, type, version, _, ⟨frameset, -⟩, rfl⟩ := h
  exact ⟨⟨creator, destination, name, type, version, frameset⟩, _, rfl⟩

theorem setFrameset_eq_ok {endpoint changed : Endpoint} {frameset : String} :
    endpoint.setFrameset frameset = .ok changed ↔
      Text.size frameset ≤ Acknowledgement.framesetWidth ∧
        { endpoint with frameset } = changed := by
  unfold setFrameset checkFrameset
  simp only [bind_eq_ok, refuse_pure_eq_ok, pure_eq_ok, Nat.not_lt, exists_const, and_true]

theorem IsBuilt.fits {endpoint : Endpoint} (built : endpoint.IsBuilt) : endpoint.Fits := by
  induction built with
  | ofSettings h => exact (eq_of_ofSettings h).1
  | setFrameset _ h ih =>
    obtain ⟨fits, rfl⟩ := setFrameset_eq_ok.mp h
    exact { ih with frameset := fits }

/-- Any body can be sent that is not too long for the length fields of a frame. -/
theorem IsBuilt.exists_frame {endpoint : Endpoint} (built : endpoint.IsBuilt) {body : Body}
    {middle : Bytes} (written : body.write = .ok middle)
    (short : Header.width + middle.length ≤ Encoder.maxLength) (sequence : UInt64) :
    ∃ frame, endpoint.frame sequence body = .ok frame :=
  Frame.exists_compose written short built.fits.creator built.fits.destination (Nat.zero_le _)

variable {endpoint : Endpoint} {first : Subframe} {others : List Subframe}

/-- A DATA frame comes back exactly when its body does. -/
theorem parse_of_data {sequence : UInt64} {frame : Frame} {data : DataFrame} {middle : Bytes}
    (creator : Text.IsPlain endpoint.creator) (destination : Text.IsPlain endpoint.destination)
    (h : endpoint.frame sequence (.data data) = .ok frame) (hm : data.write = .ok middle) :
    ((Frame.parse frame.raw).1 = .ok frame ↔ (DataFrame.read middle).1 = .ok data) ∧
      (Frame.parse frame.raw).2 = (DataFrame.read middle).2 := by
  obtain ⟨body, parse⟩ := Frame.parse_of_compose h creator destination hm
  have typed : Body.read (Body.data data).type middle =
      ((DataFrame.read middle).1.map Body.data, (DataFrame.read middle).2) := rfl
  rw [parse, typed]
  cases back : (DataFrame.read middle).1 with
  | error reason => exact ⟨⟨nofun, nofun⟩, rfl⟩
  | ok found =>
    refine ⟨?_, rfl⟩
    constructor
    · intro same
      have bodies := congrArg Frame.body (Except.ok.inj same)
      rw [body] at bodies
      rw [Body.data.inj bodies]
    · intro same
      rw [Except.ok.inj same]
      change Except.ok { frame with body := Body.data data } = Except.ok frame
      rw [← body]

/-- A frame of subframes comes back unless its padding is not recognized. -/
theorem exists_data (built : endpoint.IsBuilt) (creator : Text.IsPlain endpoint.creator)
    (destination : Text.IsPlain endpoint.destination)
    (canonical : ∀ s ∈ first :: others, s.IsCanonical) (positive : 0 < first.timeLength)
    (fits : Header.width + DataFrame.bodyLength (first :: others) ≤ Encoder.maxLength)
    (sequence : UInt64) :
    ∃ frame header, endpoint.data (first :: others) sequence = .ok frame ∧
      ((first :: others).length % 2 = 0 ∨ first.channelLength < 65536 →
        Frame.parse frame.raw = (.ok frame, DataHeader.notices header)) ∧
      (¬ ((first :: others).length % 2 = 0 ∨ first.channelLength < 65536) →
        (Frame.parse frame.raw).1 ≠ .ok frame) := by
  obtain ⟨header, head, written, made, ids, exact, hh, each, hm, length⟩ :=
    DataFrame.exists_write canonical positive (by omega)
  obtain ⟨frame, sent⟩ :=
    @IsBuilt.exists_frame endpoint built (.data ⟨header, first :: others⟩) _ hm (by omega) sequence
  obtain ⟨back, notices⟩ := parse_of_data creator destination sent hm
  have recognized := DataFrame.isAligned_iff ids each
    (Subframe.channelLength_nonneg (canonical first List.mem_cons_self).valid)
  refine ⟨frame, header, ?_, fun aligned => ?_, fun unaligned => ?_⟩
  · unfold data
    simp only [bind_eq_ok]
    exact ⟨_, made, sent⟩
  · have read := DataFrame.read_of_isAligned hh exact (List.cons_ne_nil first others) ids each
      canonical (recognized.mpr aligned)
    rw [read] at back notices
    exact Prod.ext (back.mpr rfl) notices
  · have lost := DataFrame.read_of_not_isAligned hh exact ids each (mt recognized.mp unaligned)
    exact mt back.mp lost

/-- A channel of a station that has measured nothing. -/
def silence (count : Nat) : Subframe where
  channelLength := Int32.ofNat (80 + Bytes.aligned count)
  authOffset := Int32.ofNat (72 + Bytes.aligned count)
  authenticated := false
  compression := .none
  sensor := .seismic
  calibration := false
  site := "STA"
  channel := "BHZ"
  location := ""
  format := .s4
  calibrationFactor := ⟨0x3F800000⟩
  calibrationPeriod := ⟨0x3F800000⟩
  time := 0
  timeLength := 10000
  samples := Int32.ofNat (count / 4)
  status := []
  data := Bytes.zeros count
  subframeCount := 0
  authKeyId := 0
  authValue := []

theorem isCanonical_silence {count : Nat} (valid : (silence count).check = .ok ()) :
    (silence count).IsCanonical where
  valid := valid
  site := show Text.IsPlain "STA" by decide
  channel := show Text.IsPlain "BHZ" by decide
  location := show Text.IsPlain "" by decide
  formatText := show Text.IsPlain "s4" by decide
  format := rfl
  sensor := rfl
  time := show OrdinalDate.IsExact 0 by decide

theorem wireLength_silence (count : Nat) :
    (silence count).wireLength = 80 + Bytes.aligned count := by
  simp [Subframe.wireLength, silence, Subframe.minLength, Bytes.aligned, Bytes.padded,
    Bytes.padding]

/-- The endpoint of the default settings. -/
def standard : Endpoint where
  authKeyId := 0
  creator := "TEST"
  destination := "0"
  major := 1
  minor := 1
  responderName := "DC"
  responderType := "IDC"
  service := .tcp
  frameset := "TEST:0"

theorem isBuilt_standard : standard.IsBuilt :=
  @IsBuilt.ofSettings {} standard rfl

/-- There are DATA frames of any number, and they come back. -/
theorem exists_silence (sequence : UInt64) :
    ∃ frame content, standard.data [silence 40] sequence = .ok frame ∧
      frame.sequence = sequence ∧ frame.body = .data content ∧
      (Frame.parse frame.raw).1 = .ok frame := by
  have canonical : ∀ s ∈ [silence 40], s.IsCanonical := by
    simpa using isCanonical_silence rfl
  obtain ⟨frame, header, sent, back, -⟩ := @exists_data standard (silence 40) [] isBuilt_standard
    (by decide) (by decide) canonical (by decide) (by decide) sequence
  obtain ⟨content, -, made⟩ := bind_eq_ok.mp sent
  obtain ⟨-, number, body⟩ := Frame.parts_of_compose made
  exact ⟨frame, content, sent, number, body, congrArg Prod.fst (back (.inr (by decide)))⟩

/-- DATA frames come back, but for those of an odd number of channels whose first channel length
does not fit into two bytes. -/
theorem parse_data_iff (built : endpoint.IsBuilt) (creator : Text.IsPlain endpoint.creator)
    (destination : Text.IsPlain endpoint.destination)
    (canonical : ∀ s ∈ first :: others, s.IsCanonical) (positive : 0 < first.timeLength)
    (fits : Header.width + DataFrame.bodyLength (first :: others) ≤ Encoder.maxLength)
    (sequence : UInt64) :
    ∃ frame, endpoint.data (first :: others) sequence = .ok frame ∧
      (((Frame.parse frame.raw).1 = .ok frame ∧
          ∀ count, .unparsedBytes count ∉ (Frame.parse frame.raw).2) ↔
        (first :: others).length % 2 = 0 ∨ first.channelLength < 65536) := by
  obtain ⟨frame, header, sent, whole, broken⟩ :=
    exists_data built creator destination canonical positive fits sequence
  refine ⟨frame, sent, fun h => by_contra fun odd => broken odd h.1, fun recognized => ?_⟩
  rw [whole recognized]
  exact ⟨rfl, header.unparsedBytes_not_mem_notices⟩

/-- A short frame of one channel comes back. -/
theorem parse_data_iff_short :
    ∃ frame, standard.data [silence 40] 7 = .ok frame ∧ (Frame.parse frame.raw).1 = .ok frame := by
  have canonical : ∀ s ∈ [silence 40], s.IsCanonical := by
    simpa using isCanonical_silence rfl
  obtain ⟨frame, sent, back⟩ := @parse_data_iff standard (silence 40) [] isBuilt_standard
    (by decide) (by decide) canonical (by decide) (by decide) 7
  exact ⟨frame, sent, (back.mpr (.inr (by decide))).1⟩

/-- A long frame of one channel does not, although its channel length is right. -/
theorem parse_data_ne_of_long :
    standard.IsBuilt ∧ Text.IsPlain standard.creator ∧ Text.IsPlain standard.destination ∧
      (silence 65456).IsCanonical ∧ 0 < (silence 65456).timeLength ∧
      (silence 65456).channelLength.toInt = (silence 65456).wireLength ∧
      ∃ frame, standard.data [silence 65456] 7 = .ok frame ∧
        (Frame.parse frame.raw).1 ≠ .ok frame := by
  have canonical := @isCanonical_silence 65456 rfl
  have wireLength := wireLength_silence 65456
  have every : ∀ s ∈ [silence 65456], s.IsCanonical := by
    simpa using canonical
  have fits : Header.width + DataFrame.bodyLength [silence 65456] ≤ Encoder.maxLength := by
    rw [DataFrame.bodyLength, List.map_singleton, List.sum_singleton, wireLength]
    decide
  obtain ⟨frame, _, sent, -, broken⟩ := @exists_data standard (silence 65456) [] isBuilt_standard
    (by decide) (by decide) every (by decide) fits 7
  refine ⟨isBuilt_standard, by decide, by decide, canonical, by decide, ?_, frame, sent,
    broken (by decide)⟩
  rw [wireLength]
  rfl

end Endpoint

end ContinuousData
