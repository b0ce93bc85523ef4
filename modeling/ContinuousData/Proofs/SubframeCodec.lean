import ContinuousData.Frame.Subframe
import ContinuousData.Proofs.OrdinalTexts
import ContinuousData.Proofs.Results

/-! Channel subframes are as long as they say, and come back from their bytes. -/
namespace ContinuousData

namespace Subframe

/-- What the wire can carry of a subframe without a change. -/
structure IsCanonical (s : Subframe) : Prop where
  valid : s.check = .ok ()
  site : Text.IsPlain s.site
  channel : Text.IsPlain s.channel
  location : Text.IsPlain s.location
  formatText : Text.IsPlain s.format.code
  format : DataFormat.ofCode s.format.code = s.format
  sensor : Sensor.ofCode s.sensor.code = s.sensor
  time : OrdinalDate.IsExact s.time

theorem check_eq_ok {s : Subframe} :
    s.check = .ok () ↔
      80 ≤ s.channelLength ∧ s.channelLength % 4 = 0 ∧ 80 ≤ s.authOffset ∧ s.site ≠ "" ∧
      s.channel ≠ "" ∧ (Text.size s.site ≤ siteWidth ∧ Text.size s.channel ≤ channelWidth ∧
        Text.size s.location ≤ locationWidth) ∧ Text.size s.format.code ≤ formatWidth ∧
      0 ≤ s.timeLength ∧ 0 ≤ s.samples ∧ 0 ≤ s.subframeCount := by
  unfold check
  dsimp only
  simp only [refuse_eq_ok, refuse_pure_eq_ok, and_true, ne_eq, not_not, not_or, Int32.not_lt,
    Nat.not_lt]

theorem channelId_eq_ok {s : Subframe} {id : Bytes} (h : s.channelId = .ok id) :
    ∃ site channel location, Encoder.text s.site siteWidth = .ok site ∧
      Encoder.text s.channel channelWidth = .ok channel ∧
      Encoder.text s.location locationWidth = .ok location ∧ id = site ++ channel ++ location := by
  unfold channelId at h
  simp only [bind_eq_ok, pure_eq_ok] at h
  obtain ⟨site, hs, channel, hc, location, hl, rfl⟩ := h
  exact ⟨site, channel, location, hs, hc, hl, rfl⟩

theorem length_channelId {s : Subframe} {id : Bytes} (h : s.channelId = .ok id) :
    id.length = 10 := by
  obtain ⟨site, channel, location, hs, hc, hl, rfl⟩ := channelId_eq_ok h
  rw [List.length_append, List.length_append, Encoder.length_text hs, Encoder.length_text hc,
    Encoder.length_text hl]
  rfl

theorem channelId_of_check {s : Subframe} (valid : s.check = .ok ()) :
    ∃ id, s.channelId = .ok id := by
  obtain ⟨-, -, -, -, -, ⟨site, channel, location⟩, -⟩ := check_eq_ok.mp valid
  unfold channelId
  rw [Encoder.text_of_size site, Encoder.text_of_size channel, Encoder.text_of_size location]
  exact ⟨_, rfl⟩

theorem reads_flag (value : Bool) :
    Decoder.Reads Decoder.u8 (flag value) (if value then 1 else 0) :=
  Decoder.reads_u8 _

theorem reads_compression (c : Compression) :
    Decoder.Reads readCompression (Encoder.u8 c.code) c := by
  apply (Decoder.reads_u8 c.code).bind_nil
  rw [Compression.ofCode?_code]
  exact Decoder.Reads.pure c

theorem write_eq_ok {s : Subframe} {written : Bytes} (h : s.write = .ok written) :
    s.check = .ok () ∧ ∃ id format time status data authValue, s.channelId = .ok id ∧
      Encoder.text s.format.code formatWidth = .ok format ∧ OrdinalDate.write s.time = .ok time ∧
      Encoder.sized s.status = .ok status ∧ Encoder.sized s.data = .ok data ∧
      Encoder.sized s.authValue = .ok authValue ∧
      written = Encoder.i32 s.channelLength ++ Encoder.i32 s.authOffset ++
        flag s.authenticated ++ Encoder.u8 s.compression.code ++
        Encoder.u8 s.sensor.code ++ flag s.calibration ++ id ++ format ++
        Encoder.u32 s.calibrationFactor.bits ++ Encoder.u32 s.calibrationPeriod.bits ++
        time ++ Encoder.i32 s.timeLength ++ Encoder.i32 s.samples ++ status ++ data ++
        Encoder.i32 s.subframeCount ++ Encoder.i32 s.authKeyId ++ authValue := by
  unfold write at h
  simp only [bind_eq_ok, pure_eq_ok] at h
  obtain ⟨_, valid, id, hid, format, hf, time, ht, status, hs, data, hd, authValue, ha, rfl⟩ := h
  exact ⟨valid, id, format, time, status, data, authValue, hid, hf, ht, hs, hd, ha, rfl⟩

theorem length_flag (value : Bool) : (flag value).length = 1 :=
  rfl

theorem length_write {s : Subframe} {written : Bytes} (h : s.write = .ok written) :
    written.length = s.wireLength := by
  obtain ⟨-, id, format, time, status, data, authValue, hid, hf, ht, hs, hd, ha, fields⟩ :=
    write_eq_ok h
  rw [fields]
  simp only [List.length_append, Encoder.length_i32, Encoder.length_u32, Encoder.length_u8,
    length_flag, length_channelId hid, Encoder.length_text hf, OrdinalDate.length_write ht,
    Encoder.length_sized hs, Encoder.length_sized hd, Encoder.length_sized ha, wireLength,
    minLength, formatWidth, OrdinalDate.width]
  omega

theorem length_le_wireLength (s : Subframe) :
    s.status.length ≤ s.wireLength ∧ s.data.length ≤ s.wireLength ∧
      s.authValue.length ≤ s.wireLength := by
  unfold wireLength Bytes.aligned Bytes.padded
  omega

theorem reads_write {s : Subframe} {written : Bytes} (h : s.write = .ok written)
    (canonical : s.IsCanonical) : Decoder.Reads read written s := by
  have length := length_write h
  obtain ⟨valid, id, format, time, status, data, authValue, hid, hf, ht, hs, hd, ha, fields⟩ :=
    write_eq_ok h
  obtain ⟨site, channel, location, hsite, hchannel, hlocation, parts⟩ := channelId_eq_ok hid
  have long : ∀ rest : Bytes, ¬ (written ++ rest).length < minLength := by
    intro rest
    rw [List.length_append, length, wireLength]
    omega
  intro rest
  unfold read
  rw [Decoder.bind_of_ok (show Decoder.remaining _ = .ok _ _ from rfl)]
  dsimp only
  rw [if_neg (long rest)]
  revert rest
  change Decoder.Reads _ written s
  rw [fields, parts]
  simp only [List.append_assoc]
  apply (Decoder.reads_i32 _).bind
  apply (Decoder.reads_i32 _).bind
  apply (reads_flag _).bind
  apply (reads_compression _).bind
  apply (Decoder.reads_u8 _).bind
  apply (reads_flag _).bind
  apply (Decoder.reads_text hsite canonical.site).bind
  apply (Decoder.reads_text hchannel canonical.channel).bind
  apply (Decoder.reads_text hlocation canonical.location).bind
  apply (Decoder.reads_text hf canonical.formatText).bind
  apply (Decoder.reads_f32 _).bind
  apply (Decoder.reads_f32 _).bind
  apply (OrdinalDate.reads_write ht canonical.time).bind
  apply (Decoder.reads_i32 _).bind
  apply (Decoder.reads_i32 _).bind
  apply (Decoder.reads_sized _ hs).bind
  apply (Decoder.reads_sized _ hd).bind
  apply (Decoder.reads_i32 _).bind
  apply (Decoder.reads_i32 _).bind
  apply (Decoder.reads_sized _ ha).bind_nil
  have authenticated : decide ((if s.authenticated then (1 : UInt8) else 0) = 1) =
      s.authenticated := by
    cases s.authenticated <;> rfl
  have calibration : decide ((if s.calibration then (1 : UInt8) else 0) = 1) =
      s.calibration := by
    cases s.calibration <;> rfl
  simp only [authenticated, calibration, canonical.sensor, canonical.format]
  exact (Decoder.Reads.ofExcept canonical.valid).bind_nil (Decoder.Reads.pure s)

/-- A subframe that passes its check is written when its time and its sized fields fit. -/
theorem write_of_check {s : Subframe} (valid : s.check = .ok ())
    (time : OrdinalDate.IsExact s.time) (status : s.status.length ≤ Encoder.maxLength)
    (data : s.data.length ≤ Encoder.maxLength)
    (authValue : s.authValue.length ≤ Encoder.maxLength) : ∃ written, s.write = .ok written := by
  obtain ⟨-, -, -, -, -, -, format, -⟩ := check_eq_ok.mp valid
  obtain ⟨id, hid⟩ := channelId_of_check valid
  obtain ⟨date, ht⟩ := OrdinalDate.write_of_isExact time
  unfold write
  rw [valid, hid, Encoder.text_of_size format, ht, Encoder.sized_eq_ok.mpr ⟨status, rfl⟩,
    Encoder.sized_eq_ok.mpr ⟨data, rfl⟩, Encoder.sized_eq_ok.mpr ⟨authValue, rfl⟩]
  exact ⟨_, rfl⟩

end Subframe

end ContinuousData
