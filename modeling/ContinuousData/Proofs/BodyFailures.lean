import ContinuousData.Proofs.FrameCodec

/-! Why bodies cannot be read. Whatever is wrong with a body, it is not that bytes follow the
trailer of its frame: a body reader does not see them. -/
namespace ContinuousData

/-- The reason lies in the bytes that were read, not in those behind a trailer. -/
def Error.IsLocal (reason : Error) : Prop :=
  ∀ count, reason ≠ .bytesAfterTrailer count

namespace Decoder

variable {α β : Type}

/-- The decoder fails for reasons in what it reads. -/
def IsLocal (decoder : Decoder α) : Prop :=
  ∀ input reason left, decoder input = .error reason left → reason.IsLocal

theorem IsLocal.pure (value : α) : IsLocal (Pure.pure value) :=
  fun _ _ _ => nofun

theorem IsLocal.throw {reason : Error} (h : reason.IsLocal) :
    IsLocal (throw reason : Decoder α) := by
  intro input found left failed
  obtain ⟨rfl, -⟩ := EStateM.Result.error.inj failed
  exact h

theorem IsLocal.bind {first : Decoder α} {next : α → Decoder β} (h : IsLocal first)
    (hn : ∀ value, IsLocal (next value)) : IsLocal (first >>= next) := by
  intro input reason left failed
  cases read : first input with
  | error found rest =>
    rw [bind_of_error read] at failed
    obtain ⟨rfl, -⟩ := EStateM.Result.error.inj failed
    exact h input found rest read
  | ok value rest =>
    rw [bind_of_ok read] at failed
    exact hn value rest reason left failed

theorem IsLocal.map {decoder : Decoder α} (f : α → β) (h : IsLocal decoder) :
    IsLocal (do return f (← decoder)) :=
  h.bind fun value => IsLocal.pure (f value)

/-- A check in front of other reads. -/
theorem IsLocal.refuse {c : Prop} [Decidable c] {reason : Error} {next : β → Decoder α}
    {others : Decoder α} (h : reason.IsLocal) (ho : IsLocal others) :
    IsLocal (if c then MonadExcept.throw reason >>= next else others) := by
  split
  · intro input found left failed
    obtain ⟨rfl, -⟩ := EStateM.Result.error.inj failed
    exact h
  · exact ho

theorem isLocal_pure (value : α) : IsLocal (ofExcept (Pure.pure value)) :=
  IsLocal.pure value

theorem isLocal_throw {reason : Error} (h : reason.IsLocal) :
    IsLocal (ofExcept (throw reason : Except Error α)) :=
  IsLocal.throw h

/-- A check in front of others. -/
theorem isLocal_refuse {c : Prop} [Decidable c] {reason : Error} {next : β → Except Error α}
    {others : Except Error α} (h : reason.IsLocal) (ho : IsLocal (ofExcept others)) :
    IsLocal (ofExcept (if c then MonadExcept.throw reason >>= next else others)) := by
  split
  · exact IsLocal.throw h
  · exact ho

/-- A check at the end. -/
theorem isLocal_ite {c : Prop} [Decidable c] {result other : Except Error α}
    (h : IsLocal (ofExcept result)) (ho : IsLocal (ofExcept other)) :
    IsLocal (ofExcept (if c then result else other)) := by
  split
  · exact h
  · exact ho

/-- Bytes are there or missing. -/
theorem isLocal_missing {short : Bytes → Prop} [∀ input, Decidable (short input)]
    {reason : Bytes → Error} {value : Bytes → α} {rest : Bytes → Bytes}
    (h : ∀ input, (reason input).IsLocal) :
    IsLocal fun input =>
      if short input then .error (reason input) input else .ok (value input) (rest input) := by
  intro input found left failed
  dsimp only at failed
  split_ifs at failed
  obtain ⟨rfl, -⟩ := EStateM.Result.error.inj failed
  exact h input

theorem isLocal_number (scalar : Scalar) : IsLocal (number scalar) :=
  isLocal_missing fun _ => nofun

theorem isLocal_bytes (count : Nat) : IsLocal (bytes count) :=
  isLocal_missing fun _ => nofun

theorem isLocal_skip (count : Nat) : IsLocal (skip count) :=
  isLocal_missing fun _ => nofun

theorem isLocal_remaining : IsLocal remaining :=
  fun _ _ _ => nofun

theorem isLocal_all : IsLocal all :=
  fun _ _ _ => nofun

theorem isLocal_i16 : IsLocal i16 := (isLocal_number _).map _

theorem isLocal_u16 : IsLocal u16 := (isLocal_number _).map _

theorem isLocal_i32 : IsLocal i32 := (isLocal_number _).map _

theorem isLocal_u32 : IsLocal u32 := (isLocal_number _).map _

theorem isLocal_u64 : IsLocal u64 := (isLocal_number _).map _

theorem isLocal_text (width : Nat) : IsLocal (text width) := (isLocal_bytes width).map _

theorem isLocal_length (field : String) : IsLocal (length field) :=
  isLocal_i32.bind fun _ => IsLocal.refuse nofun (IsLocal.pure _)

theorem isLocal_sized (field : String) : IsLocal (sized field) :=
  (isLocal_length field).bind fun count =>
    (isLocal_bytes count).bind fun value => (isLocal_skip _).map fun _ => value

end Decoder

open Decoder

namespace OrdinalDate

theorem isLocal_parse (text : String) : IsLocal (Decoder.ofExcept (parse text)) := by
  unfold parse
  apply isLocal_ite
  · exact isLocal_refuse nofun (isLocal_refuse nofun (isLocal_pure _))
  · exact isLocal_throw nofun

theorem isLocal_read : IsLocal read :=
  (isLocal_text width).bind isLocal_parse

end OrdinalDate

namespace Handshake

theorem isLocal_service (text : String) : IsLocal (Decoder.ofExcept (Service.ofText text)) :=
  isLocal_ite (isLocal_pure _) (isLocal_ite (isLocal_pure _) (isLocal_throw nofun))

theorem isLocal_check (body : Handshake) : IsLocal (Decoder.ofExcept body.check) :=
  isLocal_refuse nofun (isLocal_refuse nofun (isLocal_ite (isLocal_throw nofun) (isLocal_pure _)))

theorem isLocal_read : IsLocal read :=
  isLocal_i16.bind fun _ => isLocal_i16.bind fun _ => (isLocal_text _).bind fun _ =>
    (isLocal_text _).bind fun _ => (isLocal_text _).bind fun text =>
    (isLocal_service text).bind fun _ => isLocal_u32.bind fun _ => isLocal_u16.bind fun _ =>
    isLocal_u32.bind fun _ => isLocal_u16.bind fun _ => (isLocal_check _).map fun _ => _

end Handshake

theorem OptionSetting.isLocal_read : IsLocal read := by
  have checked (body : OptionSetting) : IsLocal (Decoder.ofExcept body.check) :=
    isLocal_refuse nofun (isLocal_ite (isLocal_throw nofun) (isLocal_pure _))
  exact isLocal_i32.bind fun _ => isLocal_i32.bind fun _ => (isLocal_sized _).bind fun _ =>
    (checked _).map fun _ => _

theorem Acknowledgement.isLocal_readGaps (count : Nat) : IsLocal (readGaps count) := by
  induction count with
  | zero => exact IsLocal.pure []
  | succ count ih =>
    exact isLocal_u64.bind fun first => isLocal_u64.bind fun last => ih.map ((first, last) :: ·)

theorem Acknowledgement.isLocal_read : IsLocal read :=
  (isLocal_text _).bind fun _ => isLocal_u64.bind fun _ => isLocal_u64.bind fun _ =>
    (isLocal_length _).bind fun count => isLocal_remaining.bind fun _ =>
    IsLocal.refuse nofun ((isLocal_readGaps count).map fun _ => _)

theorem Alert.isLocal_read : IsLocal read := by
  have checked (message : String) : IsLocal (Decoder.ofExcept (check message)) :=
    isLocal_ite (isLocal_throw nofun) (isLocal_pure _)
  exact (isLocal_sized _).bind fun _ => (checked _).map fun _ => _

theorem CommandTarget.isLocal_read : IsLocal read :=
  (isLocal_text _).bind fun _ => (isLocal_text _).bind fun _ => (isLocal_text _).bind fun _ =>
    (isLocal_text _).bind fun _ => (isLocal_skip _).bind fun _ =>
    OrdinalDate.isLocal_read.map fun _ => _

theorem CommandMessage.isLocal_read (field : String) : IsLocal (read field) :=
  (isLocal_length field).bind fun count => (isLocal_bytes count).bind fun _ =>
    IsLocal.refuse nofun (IsLocal.pure _)

theorem CommandRequest.isLocal_read : IsLocal read :=
  CommandTarget.isLocal_read.bind fun _ => (CommandMessage.isLocal_read _).map fun _ => _

theorem CommandResponse.isLocal_read : IsLocal read :=
  CommandTarget.isLocal_read.bind fun _ => (CommandMessage.isLocal_read _).bind fun _ =>
    (CommandMessage.isLocal_read _).map fun _ => _

theorem DataHeader.isLocal_readFields : IsLocal readFields := by
  have zero : IsLocal readFields.nextIsZero := fun _ _ _ => nofun
  refine isLocal_i32.bind fun _ => isLocal_i32.bind fun _ => OrdinalDate.isLocal_read.bind fun _ =>
    (isLocal_length _).bind fun count => (isLocal_bytes count).bind fun _ => ?_
  dsimp only
  split
  · exact IsLocal.pure _
  · refine zero.bind fun found => ?_
    split
    · exact (isLocal_skip _).map fun _ => _
    · exact IsLocal.pure _

variable {reason : Error}

theorem DataHeader.isLocal_check (header : DataHeader) : IsLocal (Decoder.ofExcept header.check) :=
  isLocal_refuse nofun (isLocal_ite (isLocal_throw nofun) (isLocal_pure _))

theorem DataFrame.isLocal_of_read {input : Bytes} (h : (read input).1 = .error reason) :
    reason.IsLocal := by
  unfold read at h
  cases fields : DataHeader.readFields input with
  | error found left =>
    rw [fields] at h
    rw [← Except.error.inj h]
    exact DataHeader.isLocal_readFields input found left fields
  | ok value rest =>
    obtain ⟨header, aligned⟩ := value
    rw [fields] at h
    dsimp only at h
    cases valid : header.check with
    | error found =>
      rw [valid] at h
      rw [← Except.error.inj h]
      have failed : Decoder.ofExcept header.check [] = .error found [] := by
        rw [valid]
        rfl
      exact header.isLocal_check [] found [] failed
    | ok =>
      rw [valid] at h
      dsimp only at h
      by_cases empty : (readSubframes header.idCount 0 rest).1 = []
      · rw [if_pos empty] at h
        rw [← Except.error.inj h]
        exact nofun
      · rw [if_neg empty] at h
        contradiction

theorem Body.isLocal_reader (type : FrameType) : IsLocal (reader type) := by
  cases type with
  | connectionRequest => exact Handshake.isLocal_read.map connectionRequest
  | connectionResponse => exact Handshake.isLocal_read.map connectionResponse
  | optionRequest => exact OptionSetting.isLocal_read.map optionRequest
  | optionResponse => exact OptionSetting.isLocal_read.map optionResponse
  | acknack => exact Acknowledgement.isLocal_read.map acknack
  | alert => exact Alert.isLocal_read.map alert
  | commandRequest => exact CommandRequest.isLocal_read.map commandRequest
  | commandResponse => exact CommandResponse.isLocal_read.map commandResponse
  | encapsulation => exact isLocal_all.map encapsulation
  | customReset => exact isLocal_all.map customReset
  | data => exact IsLocal.throw nofun
  | malformed => exact IsLocal.throw nofun

/-- A body fails for reasons of its own. -/
theorem Body.isLocal_of_read {type : FrameType} {input : Bytes}
    (h : (read type input).1 = .error reason) : reason.IsLocal := by
  by_cases data : type = .data
  · subst data
    change (DataFrame.read input).1.map Body.data = .error reason at h
    cases read : (DataFrame.read input).1 with
    | error found =>
      rw [read] at h
      rw [← Except.error.inj h]
      exact DataFrame.isLocal_of_read read
    | ok frame =>
      rw [read] at h
      contradiction
  · rw [read_eq data] at h
    cases result : reader type input with
    | error found rest =>
      rw [result] at h
      rw [← Except.error.inj h]
      exact isLocal_reader type input found rest result
    | ok whole rest =>
      rw [result] at h
      contradiction

end ContinuousData
