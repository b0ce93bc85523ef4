import ContinuousData.Proofs.DataFrames

/-! Senders that do not align the channel string. Where padding is expected the reader then finds a
channel length, which is never zero, so nothing is skipped and all subframes are read from where
they are. -/
namespace ContinuousData

theorem Encoder.i32_injective {first second : Int32} (same : i32 first = i32 second) :
    first = second := by
  have read := (Decoder.reads_i32 first).exact
  rw [same, (Decoder.reads_i32 second).exact] at read
  exact (EStateM.Result.ok.inj read).1.symm

theorem Encoder.i32_eq_zeros_iff {value : Int32} : i32 value = Bytes.zeros 4 ↔ value = 0 :=
  ⟨@i32_injective value 0, fun zero => by rw [zero]; rfl⟩

/-- No channel length looks like padding. -/
theorem Subframe.i32_channelLength_ne {s : Subframe} (valid : s.check = .ok ()) :
    Encoder.i32 s.channelLength ≠ Bytes.zeros 4 := by
  intro zero
  have least := (check_eq_ok.mp valid).1
  rw [Encoder.i32_eq_zeros_iff.mp zero] at least
  exact absurd least (by decide)

theorem Subframe.exists_write_iff {s : Subframe} (canonical : s.IsCanonical) :
    (∃ written, s.write = .ok written) ↔
      s.status.length ≤ Encoder.maxLength ∧ s.data.length ≤ Encoder.maxLength ∧
        s.authValue.length ≤ Encoder.maxLength := by
  constructor
  · rintro ⟨written, h⟩
    obtain ⟨-, _, _, _, _, _, _, -, -, -, status, data, authValue, -⟩ := write_eq_ok h
    exact ⟨(Encoder.sized_eq_ok.mp status).1, (Encoder.sized_eq_ok.mp data).1,
      (Encoder.sized_eq_ok.mp authValue).1⟩
  · rintro ⟨status, data, authValue⟩
    exact write_of_check canonical.valid canonical.time status data authValue

namespace DataHeader

/-- The written form without padding behind the channel string. -/
def writeUnaligned (header : DataHeader) : Except Error Bytes := do
  header.check
  let time ← OrdinalDate.write header.nominalTime
  if Encoder.maxLength < header.channelString.length then
    throw (.fieldTooLong header.channelString.length)
  return Encoder.i32 header.channels ++ Encoder.i32 header.timeLength ++ time ++
    Encoder.length header.channelString.length ++ header.channelString

theorem writeUnaligned_eq_ok {header : DataHeader} {written : Bytes} :
    header.writeUnaligned = .ok written ↔
      header.check = .ok () ∧ ∃ time, OrdinalDate.write header.nominalTime = .ok time ∧
        header.channelString.length ≤ Encoder.maxLength ∧
          Encoder.i32 header.channels ++ Encoder.i32 header.timeLength ++ time ++
            Encoder.length header.channelString.length ++ header.channelString = written := by
  unfold writeUnaligned
  dsimp only
  simp only [bind_eq_ok, refuse_eq_ok, pure_eq_ok, Nat.not_lt]
  exact ⟨fun ⟨_, h⟩ => h, fun h => ⟨(), h⟩⟩

theorem readFields_writeUnaligned {header : DataHeader} {written rest : Bytes}
    (h : header.writeUnaligned = .ok written) (exact : OrdinalDate.IsExact header.nominalTime)
    (padded : header.padding ≠ []) (behind : rest.take 4 ≠ Bytes.zeros 4) :
    readFields (written ++ rest) = .ok (header, false) rest := by
  obtain ⟨-, time, ht, fits, rfl⟩ := writeUnaligned_eq_ok.mp h
  have some : Bytes.padding header.channelString.length 4 ≠ 0 := by
    rwa [padding, ← List.length_pos_iff_ne_nil, Bytes.length_zeros, Nat.pos_iff_ne_zero] at padded
  have look : readFields.nextIsZero rest = .ok (rest.take 4 == Bytes.zeros 4) rest := rfl
  unfold readFields
  simp only [List.append_assoc]
  rw [Decoder.bind_of_ok (Decoder.reads_i32 _ _), Decoder.bind_of_ok (Decoder.reads_i32 _ _),
    Decoder.bind_of_ok (OrdinalDate.reads_write ht exact _),
    Decoder.bind_of_ok (Decoder.reads_length _ fits _),
    Decoder.bind_of_ok (Decoder.reads_bytes _ _), if_neg some, Decoder.bind_of_ok look,
    if_neg (mt beq_iff_eq.mp behind)]
  rfl

end DataHeader

namespace DataFrame

/-- The body as it comes from a sender that does not align the channel string. -/
def writeUnaligned (frame : DataFrame) : Except Error Bytes := do
  let header ← frame.header.writeUnaligned
  let subframes ← frame.subframes.mapM Subframe.write
  return header ++ subframes.flatten

/-- What is known of a frame by the way it is made. -/
theorem of_ofSubframes {subframes : List Subframe} {frame : DataFrame}
    (h : ofSubframes subframes = .ok frame) (canonical : ∀ s ∈ subframes, s.IsCanonical) :
    subframes ≠ [] ∧ frame.subframes = subframes ∧ frame.header.check = .ok () ∧
      frame.header.channelString.length = 10 * subframes.length ∧
      OrdinalDate.IsExact frame.header.nominalTime := by
  cases subframes with
  | nil => exact nomatch h
  | cons first others =>
    unfold ofSubframes at h
    dsimp only at h
    simp only [bind_eq_ok, refuse_eq_ok, pure_eq_ok] at h
    obtain ⟨ids, hids, -, _, valid, rfl⟩ := h
    obtain ⟨firstCanonical, othersCanonical⟩ := List.forall_mem_cons.mp canonical
    exact ⟨List.cons_ne_nil first others, rfl, valid, length_ids (mapM_eq_ok.mp hids),
      isExact_foldl firstCanonical.time fun s hs => (othersCanonical s hs).time⟩

theorem writeUnaligned_eq_ok {frame : DataFrame} {body : Bytes} :
    frame.writeUnaligned = .ok body ↔
      ∃ head, frame.header.writeUnaligned = .ok head ∧
        ∃ written, List.Forall₂ (fun s bytes => s.write = .ok bytes) frame.subframes written ∧
          head ++ written.flatten = body := by
  unfold writeUnaligned
  simp only [bind_eq_ok, pure_eq_ok, mapM_eq_ok]

theorem read_of_writeUnaligned {frame : DataFrame} {body : Bytes}
    (h : frame.writeUnaligned = .ok body) (exact : OrdinalDate.IsExact frame.header.nominalTime)
    (ids : frame.header.channelString.length = 10 * frame.subframes.length)
    (odd : frame.subframes.length % 2 = 1) (canonical : ∀ s ∈ frame.subframes, s.IsCanonical) :
    read body = (.ok frame, .channelStringUnaligned :: frame.header.notices) := by
  obtain ⟨head, hh, written, hw, rfl⟩ := writeUnaligned_eq_ok.mp h
  obtain ⟨header, subframes⟩ := frame
  dsimp only at *
  have padded : header.padding ≠ [] := by
    rw [DataHeader.padding_of_ids ids, if_neg (by omega)]
    exact List.cons_ne_nil _ _
  have count : header.idCount = subframes.length := by
    rw [DataHeader.idCount, ids, DataHeader.channelIdWidth, Nat.mul_div_cancel_left _ (by decide)]
  have behind : written.flatten.take 4 ≠ Bytes.zeros 4 := by
    cases hw with
    | nil => exact absurd odd (by decide)
    | cons first others =>
      obtain ⟨left, rfl⟩ := Subframe.channelLength_of_write first
      rw [List.flatten_cons, List.append_assoc, List.take_left' (Encoder.length_i32 _)]
      exact Subframe.i32_channelLength_ne (canonical _ List.mem_cons_self).valid
  have some : subframes ≠ [] := by
    rintro rfl
    exact absurd odd (by decide)
  have back := @readSubframes_flatten subframes written 0 [] hw canonical
  rw [List.append_nil] at back
  rw [read, DataHeader.readFields_writeUnaligned hh exact padded behind]
  dsimp only
  rw [(DataHeader.writeUnaligned_eq_ok.mp hh).1, count, back]
  dsimp only
  rw [if_neg some]
  simp

/-- A frame of an odd number of channels comes back from a body without padding, however long its
channels are, and nothing is left over. There is such a body if all fields fit into it. -/
theorem read_writeUnaligned {subframes : List Subframe} {frame : DataFrame}
    (made : ofSubframes subframes = .ok frame) (odd : subframes.length % 2 = 1)
    (canonical : ∀ s ∈ subframes, s.IsCanonical) :
    (∀ body, frame.writeUnaligned = .ok body →
      read body = (.ok frame, .channelStringUnaligned :: frame.header.notices) ∧
        ∀ count, .unparsedBytes count ∉ (read body).2) ∧
    ((∃ body, frame.writeUnaligned = .ok body) ↔
      10 * subframes.length ≤ Encoder.maxLength ∧
        ∀ s ∈ subframes, s.status.length ≤ Encoder.maxLength ∧
          s.data.length ≤ Encoder.maxLength ∧ s.authValue.length ≤ Encoder.maxLength) := by
  obtain ⟨-, rfl, valid, ids, exact⟩ := of_ofSubframes made canonical
  refine ⟨fun body h => ?_, ?_⟩
  · have back := read_of_writeUnaligned h exact ids odd canonical
    refine ⟨back, fun count member => ?_⟩
    rw [back] at member
    rcases List.mem_cons.mp member with same | member
    · contradiction
    · exact frame.header.unparsedBytes_not_mem_notices count member
  · constructor
    · rintro ⟨body, h⟩
      obtain ⟨head, hh, written, hw, -⟩ := writeUnaligned_eq_ok.mp h
      obtain ⟨-, _, -, fits, -⟩ := DataHeader.writeUnaligned_eq_ok.mp hh
      have writes : ∀ s ∈ frame.subframes, ∃ bytes, s.write = .ok bytes :=
        ((List.forall₂_and_left _ _).mp (hw.imp fun s bytes hb => ⟨⟨bytes, hb⟩, hb⟩)).1
      exact ⟨ids ▸ fits, fun s hs => (Subframe.exists_write_iff (canonical s hs)).mp (writes s hs)⟩
    · rintro ⟨fits, fields⟩
      obtain ⟨time, ht⟩ := OrdinalDate.write_of_isExact exact
      obtain ⟨written, hw⟩ := exists_mapM fun s hs =>
        (Subframe.exists_write_iff (canonical s hs)).mpr (fields s hs)
      have hh := DataHeader.writeUnaligned_eq_ok.mpr ⟨valid, time, ht, ids ▸ fits, rfl⟩
      exact ⟨_, writeUnaligned_eq_ok.mpr ⟨_, hh, written, mapM_eq_ok.mp hw, rfl⟩⟩

/-- The long channel whose frame is lost when it is sent with padding. -/
theorem read_writeUnaligned_of_long :
    ∃ frame body, ofSubframes [Endpoint.silence 65456] = .ok frame ∧
      frame.writeUnaligned = .ok body ∧ (read body).1 = .ok frame := by
  have canonical : ∀ s ∈ [Endpoint.silence 65456], s.IsCanonical := by
    simpa using Endpoint.isCanonical_silence rfl
  obtain ⟨header, made, -⟩ := exists_ofSubframes canonical (by decide) (by decide)
  obtain ⟨back, written⟩ := read_writeUnaligned made rfl canonical
  have fits : ∀ s ∈ [Endpoint.silence 65456], s.status.length ≤ Encoder.maxLength ∧
      s.data.length ≤ Encoder.maxLength ∧ s.authValue.length ≤ Encoder.maxLength := by
    simp [Endpoint.silence, Encoder.maxLength]
  obtain ⟨body, h⟩ := written.mpr ⟨by decide, fits⟩
  exact ⟨_, body, made, h, congrArg Prod.fst (back body h).1⟩

end DataFrame

end ContinuousData
