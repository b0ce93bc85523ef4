import ContinuousData.Decoder
import ContinuousData.Encoder
import ContinuousData.Proofs.Results
import Mathlib.Data.List.Induction

/-! Fields and their bytes. `Reads` says what a decoder makes of the bytes of one value, whatever
follows them, and `Refuses` that it fails on them; both go through sequences of reads. A field that
has been read stood at the front of the input in its written form. -/
namespace ContinuousData

namespace Bytes

theorem ofBigEndian_lt (bytes : Bytes) : ofBigEndian bytes < Nat.pow 256 bytes.length := by
  induction bytes using List.reverseRecOn with
  | nil => decide
  | append_singleton bytes byte ih =>
    have small := byte.toNat_lt
    rw [ofBigEndian_concat, List.length_append, List.length_singleton]
    change _ < Nat.pow 256 bytes.length * 256
    omega

theorem bigEndian_ofBigEndian (bytes : Bytes) :
    bigEndian bytes.length (ofBigEndian bytes) = bytes := by
  induction bytes using List.reverseRecOn with
  | nil => rfl
  | append_singleton bytes byte ih =>
    have small : byte.toNat < 256 := byte.toNat_lt
    have high : (ofBigEndian bytes * 256 + byte.toNat) / 256 = ofBigEndian bytes := by omega
    have low : UInt8.ofNat (ofBigEndian bytes * 256 + byte.toNat) = byte := by
      apply UInt8.toNat.inj
      rw [UInt8.toNat_ofNat']
      omega
    rw [ofBigEndian_concat, List.length_append, List.length_singleton, bigEndian, high, ih, low]

end Bytes

namespace Encoder

@[simp] theorem length_u8 (value : UInt8) : (u8 value).length = 1 :=
  rfl

@[simp] theorem length_i16 (value : Int16) : (i16 value).length = 2 :=
  Bytes.length_bigEndian _ _

@[simp] theorem length_u16 (value : UInt16) : (u16 value).length = 2 :=
  Bytes.length_bigEndian _ _

@[simp] theorem length_i32 (value : Int32) : (i32 value).length = 4 :=
  Bytes.length_bigEndian _ _

@[simp] theorem length_u32 (value : UInt32) : (u32 value).length = 4 :=
  Bytes.length_bigEndian _ _

@[simp] theorem length_u64 (value : UInt64) : (u64 value).length = 8 :=
  Bytes.length_bigEndian _ _

@[simp] theorem length_length (value : Nat) : (length value).length = 4 :=
  Bytes.length_bigEndian _ _

/-- A length that fits its field is positive as a signed number. -/
theorem length_eq_i32 {value : Nat} (h : value ≤ maxLength) :
    length value = i32 (Int32.ofNat value) := by
  have small : value < UInt32.size := by
    unfold maxLength at h
    exact Nat.lt_of_le_of_lt h (by decide)
  rw [i32, ← UInt32.toInt32_ofNat', UInt32.toUInt32_toInt32, UInt32.toNat_ofNat_of_lt' small]
  rfl

@[simp] theorem length_padded (value : Bytes) :
    (padded value).length = Bytes.aligned value.length := by
  rw [padded, List.length_append, Bytes.length_zeros]
  rfl

theorem sized_eq_ok {value written : Bytes} :
    sized value = .ok written ↔
      value.length ≤ maxLength ∧ length value.length ++ padded value = written := by
  unfold sized
  rw [← Nat.not_lt]
  by_cases h : maxLength < value.length
  · simp [h, throw_ne_ok]
  · simp [h, pure_eq_ok]

theorem length_sized {value written : Bytes} (h : sized value = .ok written) :
    written.length = 4 + Bytes.aligned value.length := by
  rw [← (sized_eq_ok.mp h).2, List.length_append, length_length, length_padded]

end Encoder

namespace Decoder

variable {α β : Type}

/-- From these bytes the decoder gets the value, and it leaves what follows alone. -/
def Reads (decoder : Decoder α) (bytes : Bytes) (value : α) : Prop :=
  ∀ rest, decoder (bytes ++ rest) = .ok value rest

theorem Reads.pure (value : α) : Reads (Pure.pure value) [] value :=
  fun _ => rfl

theorem Reads.bind {first : Decoder α} {next : α → Decoder β} {bytes others : Bytes} {value : α}
    {result : β} (h : Reads first bytes value) (hn : Reads (next value) others result) :
    Reads (first >>= next) (bytes ++ others) result := by
  intro rest
  rw [List.append_assoc, bind_of_ok (h _)]
  exact hn rest

/-- A decoder that reads nothing more in the end. -/
theorem Reads.bind_nil {first : Decoder α} {next : α → Decoder β} {bytes : Bytes} {value : α}
    {result : β} (h : Reads first bytes value) (hn : Reads (next value) [] result) :
    Reads (first >>= next) bytes result := by
  simpa using h.bind hn

/-- A decoder that reads nothing at first. -/
theorem Reads.nil_bind {first : Decoder α} {next : α → Decoder β} {bytes : Bytes} {value : α}
    {result : β} (h : Reads first [] value) (hn : Reads (next value) bytes result) :
    Reads (first >>= next) bytes result :=
  h.bind hn

theorem Reads.map {decoder : Decoder α} {bytes : Bytes} {value : α} (f : α → β)
    (h : Reads decoder bytes value) : Reads (do return f (← decoder)) bytes (f value) :=
  h.bind_nil (Reads.pure (f value))

theorem Reads.ofExcept {result : Except Error α} {value : α} (h : result = .ok value) :
    Reads (ofExcept result) [] value := by
  subst h
  exact Reads.pure value

theorem Reads.exact {decoder : Decoder α} {bytes : Bytes} {value : α}
    (h : Reads decoder bytes value) : decoder bytes = .ok value [] := by
  simpa using h []

/-- On these bytes the decoder fails, whatever follows. -/
def Refuses (decoder : Decoder α) (bytes : Bytes) : Prop :=
  ∀ rest, ∃ reason left, decoder (bytes ++ rest) = .error reason left

theorem Refuses.exact {decoder : Decoder α} {bytes : Bytes} (h : Refuses decoder bytes) :
    ∃ reason left, decoder bytes = .error reason left := by
  simpa using h []

theorem Refuses.bind {first : Decoder α} {next : α → Decoder β} {bytes : Bytes}
    (h : Refuses first bytes) (others : Bytes) : Refuses (first >>= next) (bytes ++ others) := by
  intro rest
  obtain ⟨reason, left, failed⟩ := h (others ++ rest)
  exact ⟨reason, left, by rw [List.append_assoc, bind_of_error failed]⟩

theorem Refuses.bind_nil {first : Decoder α} {next : α → Decoder β} {bytes : Bytes}
    (h : Refuses first bytes) : Refuses (first >>= next) bytes := by
  simpa only [List.append_nil] using h.bind []

theorem Reads.bind_refuses {first : Decoder α} {next : α → Decoder β} {bytes others : Bytes}
    {value : α} (h : Reads first bytes value) (hn : Refuses (next value) others) :
    Refuses (first >>= next) (bytes ++ others) := by
  intro rest
  rw [List.append_assoc, bind_of_ok (h _)]
  exact hn rest

theorem Reads.bind_refuses_nil {first : Decoder α} {next : α → Decoder β} {bytes : Bytes}
    {value : α} (h : Reads first bytes value) (hn : Refuses (next value) []) :
    Refuses (first >>= next) bytes := by
  simpa using h.bind_refuses hn

theorem Refuses.throw (reason : Error) (bytes : Bytes) :
    Refuses (throw reason : Decoder α) bytes :=
  fun rest => ⟨reason, bytes ++ rest, rfl⟩

theorem Refuses.ofExcept {result : Except Error α} (h : ∀ value, result ≠ .ok value)
    (bytes : Bytes) : Refuses (ofExcept result) bytes := by
  cases result with
  | error reason => exact Refuses.throw reason bytes
  | ok value => exact absurd rfl (h value)

theorem reads_number (scalar : Scalar) {value : Nat} (h : value < Nat.pow 256 scalar.width) :
    Reads (number scalar) (Bytes.bigEndian scalar.width value) value := by
  intro rest
  have long : ¬ scalar.width + rest.length < scalar.width := by omega
  have whole : value % 256 ^ scalar.width = value := Nat.mod_eq_of_lt h
  simp [number, Bytes.ofBigEndian_bigEndian, long, whole]

theorem reads_u8 (value : UInt8) : Reads u8 (Encoder.u8 value) value := by
  have h := (reads_number .u8 value.toNat_lt).map UInt8.ofNat
  simpa [Encoder.u8, Scalar.width, Bytes.bigEndian, u8] using h

theorem reads_i16 (value : Int16) : Reads i16 (Encoder.i16 value) value := by
  have h := (reads_number .i16 value.toUInt16.toNat_lt).map
    fun n => (UInt16.ofNat n).toInt16
  simpa [Encoder.i16, Scalar.width, i16] using h

theorem reads_u16 (value : UInt16) : Reads u16 (Encoder.u16 value) value := by
  have h := (reads_number .u16 value.toNat_lt).map UInt16.ofNat
  simpa [Encoder.u16, Scalar.width, u16] using h

theorem reads_i32 (value : Int32) : Reads i32 (Encoder.i32 value) value := by
  have h := (reads_number .i32 value.toUInt32.toNat_lt).map
    fun n => (UInt32.ofNat n).toInt32
  simpa [Encoder.i32, Scalar.width, i32] using h

theorem reads_u32 (value : UInt32) : Reads u32 (Encoder.u32 value) value := by
  have h := (reads_number .u32 value.toNat_lt).map UInt32.ofNat
  simpa [Encoder.u32, Scalar.width, u32] using h

theorem reads_f32 (bits : UInt32) : Reads f32 (Encoder.u32 bits) bits := by
  have h := (reads_number .f32 bits.toNat_lt).map UInt32.ofNat
  simpa [Encoder.u32, Scalar.width, f32] using h

theorem reads_u64 (value : UInt64) : Reads u64 (Encoder.u64 value) value := by
  have h := (reads_number .i64 value.toNat_lt).map UInt64.ofNat
  simpa [Encoder.u64, Scalar.width, u64] using h

theorem reads_bytes (value : Bytes) : Reads (bytes value.length) value value := by
  intro rest
  simp [bytes]

theorem reads_skip (padding : Bytes) : Reads (skip padding.length) padding () := by
  intro rest
  simp [skip]

theorem reads_zeros (count : Nat) : Reads (skip count) (Bytes.zeros count) () := by
  simpa using reads_skip (Bytes.zeros count)

theorem reads_length {value : Nat} (field : String) (h : value ≤ Encoder.maxLength) :
    Reads (length field) (Encoder.length value) value := by
  have small : value < 2 ^ 31 := by
    unfold Encoder.maxLength at h
    omega
  have back : (Int32.ofNat value).toInt = value := Int32.toInt_ofNat_of_lt small
  have nonneg : ¬ Int32.ofNat value < 0 := by
    rw [Int32.lt_iff_toInt_lt, back]
    simp
  rw [Encoder.length_eq_i32 h]
  apply (reads_i32 _).bind_nil
  rw [if_neg nonneg, back]
  exact Reads.pure value

theorem reads_paddedBytes (value : Bytes) :
    Reads (paddedBytes value.length) (Encoder.padded value) value :=
  (reads_bytes value).bind ((reads_zeros _).map fun _ => value)

theorem reads_sized {value written : Bytes} (field : String)
    (h : Encoder.sized value = .ok written) : Reads (sized field) written value := by
  obtain ⟨short, rfl⟩ := Encoder.sized_eq_ok.mp h
  exact (reads_length field short).bind (reads_paddedBytes value)

theorem bind_eq_ok {first : Decoder α} {next : α → Decoder β} {input rest : Bytes} {result : β} :
    (first >>= next) input = .ok result rest ↔
      ∃ value left, first input = .ok value left ∧ next value left = .ok result rest := by
  cases h : first input with
  | error reason left => simp [bind_of_error h]
  | ok value left =>
    rw [bind_of_ok h]
    refine ⟨fun next => ⟨value, left, rfl, next⟩, ?_⟩
    rintro ⟨_, _, same, next⟩
    obtain ⟨rfl, rfl⟩ := EStateM.Result.ok.inj same
    exact next

theorem ofExcept_eq_ok {result : Except Error α} {input rest : Bytes} {value : α}
    (h : ofExcept result input = .ok value rest) : result = .ok value ∧ input = rest := by
  cases result with
  | error reason => exact nomatch h
  | ok found =>
    obtain ⟨rfl, rfl⟩ := EStateM.Result.ok.inj h
    exact ⟨rfl, rfl⟩

theorem number_eq_ok {scalar : Scalar} {input rest : Bytes} {value : Nat}
    (h : number scalar input = .ok value rest) :
    ∃ taken, taken.length = scalar.width ∧ value = Bytes.ofBigEndian taken ∧
      input = taken ++ rest := by
  unfold number at h
  split at h
  case isTrue => contradiction
  case isFalse long =>
    obtain ⟨rfl, rfl⟩ := EStateM.Result.ok.inj h
    have width : (input.take scalar.width).length = scalar.width :=
      List.length_take_of_le (Nat.not_lt.mp long)
    exact ⟨input.take scalar.width, width, rfl, (List.take_append_drop _ input).symm⟩

theorem i32_eq_ok {input rest : Bytes} {value : Int32} (h : i32 input = .ok value rest) :
    input = Encoder.i32 value ++ rest := by
  obtain ⟨number, left, taken, result⟩ := bind_eq_ok.mp h
  obtain ⟨rfl, rfl⟩ := EStateM.Result.ok.inj result
  obtain ⟨field, width, rfl, rfl⟩ := number_eq_ok taken
  have small : Bytes.ofBigEndian field < 2 ^ 32 := by
    have := Bytes.ofBigEndian_lt field
    rwa [width] at this
  have back : Encoder.i32 (UInt32.ofNat (Bytes.ofBigEndian field)).toInt32 =
      Bytes.bigEndian field.length (Bytes.ofBigEndian field) := by
    rw [Encoder.i32, UInt32.toUInt32_toInt32, UInt32.toNat_ofNat_of_lt' small, width]
    rfl
  rw [back, Bytes.bigEndian_ofBigEndian]

theorem length_eq_ok {field : String} {input rest : Bytes} {value : Nat}
    (h : length field input = .ok value rest) :
    value ≤ Encoder.maxLength ∧ input = Encoder.length value ++ rest := by
  obtain ⟨number, left, taken, result⟩ := bind_eq_ok.mp h
  split at result
  case isTrue => simp [bind, EStateM.bind] at result
  case isFalse negative =>
    obtain ⟨rfl, rfl⟩ := EStateM.Result.ok.inj result
    have back : number.toUInt32.toNat = number.toInt.toNat := by
      rw [Int32.toNat_toUInt32_of_le (Int32.not_lt.mp negative), Int32.toNat_toInt]
    constructor
    · have bound := number.toInt_lt
      unfold Encoder.maxLength
      omega
    · rw [i32_eq_ok taken, Encoder.i32, Encoder.length, back]

theorem bytes_eq_ok {count : Nat} {input rest value : Bytes}
    (h : bytes count input = .ok value rest) : value.length = count ∧ input = value ++ rest := by
  unfold bytes at h
  split at h
  case isTrue => contradiction
  case isFalse long =>
    obtain ⟨rfl, rfl⟩ := EStateM.Result.ok.inj h
    exact ⟨List.length_take_of_le (Nat.not_lt.mp long), (List.take_append_drop count input).symm⟩

theorem skip_eq_ok {count : Nat} {input rest : Bytes} (h : skip count input = .ok () rest) :
    ∃ padding, padding.length = count ∧ input = padding ++ rest := by
  unfold skip at h
  split at h
  case isTrue => contradiction
  case isFalse long =>
    obtain ⟨-, rfl⟩ := EStateM.Result.ok.inj h
    exact ⟨input.take count, List.length_take_of_le (Nat.not_lt.mp long),
      (List.take_append_drop count input).symm⟩

theorem sized_eq_ok {field : String} {input rest value : Bytes}
    (h : sized field input = .ok value rest) :
    ∃ padded, value.length ≤ Encoder.maxLength ∧ padded.length = Bytes.aligned value.length ∧
      input = Encoder.length value.length ++ padded ++ rest := by
  obtain ⟨count, left, first, h⟩ := bind_eq_ok.mp h
  obtain ⟨taken, left, second, h⟩ := bind_eq_ok.mp h
  obtain ⟨_, left, third, result⟩ := bind_eq_ok.mp h
  obtain ⟨rfl, rfl⟩ := EStateM.Result.ok.inj result
  obtain ⟨small, rfl⟩ := length_eq_ok first
  obtain ⟨rfl, rfl⟩ := bytes_eq_ok second
  obtain ⟨padding, long, rfl⟩ := skip_eq_ok third
  refine ⟨taken ++ padding, small, ?_, by simp only [List.append_assoc]⟩
  rw [List.length_append, long]
  rfl

end Decoder

end ContinuousData
