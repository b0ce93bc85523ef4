import ContinuousData.Frame.Basic
import ContinuousData.Proofs.CheckedDates
import ContinuousData.Proofs.Cursors
import ContinuousData.Proofs.UnalignedChannels

/-! The parts of a frame are read without leaving their bytes. Each of them has a cursor that
follows its decoder, so no index is out of range and no count overflows, whatever the bytes are. -/
namespace ContinuousData

open Cursor Splitter

namespace OrdinalDate

def walk : Cursor Timestamp := do
  let text ← Cursor.text width
  Cursor.ofExcept (parse? text)

theorem follows_walk : Follows walk read :=
  (follows_text width).bind fun text => Follows.ofExcept (parse?_eq text)

end OrdinalDate

namespace Header

def walkTypeAndOffset : Cursor (FrameType × Nat) := do
  let code ← Cursor.i32
  match FrameType.ofWire? code with
  | none => throw (.unknownFrameType code)
  | some type =>
    let offset ← Cursor.i32
    if offset < 36 then throw (.trailerInsideHeader offset)
    return (type, offset.toInt.toNat)

def walk : Cursor Header := do
  let (type, trailerOffset) ← walkTypeAndOffset
  let creator ← Cursor.text creatorWidth
  let destination ← Cursor.text destinationWidth
  let sequence ← Cursor.u64
  let series ← Cursor.i32
  return { type, trailerOffset, creator, destination, sequence, series }

theorem follows_walkTypeAndOffset : Follows walkTypeAndOffset readTypeAndOffset := by
  refine follows_i32.bind fun code => ?_
  cases FrameType.ofWire? code with
  | none => exact Follows.throw _
  | some type => exact follows_i32.bind fun _ => Follows.refuse (Follows.pure _)

theorem follows_walk : Follows walk read :=
  follows_walkTypeAndOffset.bind fun _ => (follows_text _).bind fun _ =>
    (follows_text _).bind fun _ => follows_u64.bind fun _ => follows_i32.map fun _ => _

end Header

namespace Trailer

def walk : Cursor Trailer := do
  let authKeyId ← Cursor.i32
  let authValue ← Cursor.sized "authentication size"
  let checksum ← Cursor.u64
  return { authKeyId, authValue, checksum }

theorem follows_walk : Follows walk read :=
  follows_i32.bind fun _ => (follows_sized _).bind fun _ => follows_u64.map fun _ => _

end Trailer

namespace Handshake

def walk : Cursor Handshake := do
  let major ← Cursor.i16
  let minor ← Cursor.i16
  let name ← Cursor.text nameWidth
  let type ← Cursor.text typeWidth
  let service ← Cursor.ofExcept (Service.ofText (← Cursor.text serviceWidth))
  let ip ← Cursor.u32
  let port ← Cursor.u16
  let secondaryIp ← Cursor.u32
  let secondaryPort ← Cursor.u16
  let body : Handshake :=
    { major, minor, name, type, service, ip := ⟨ip⟩, port
      secondary := secondaryOf secondaryIp secondaryPort }
  Cursor.ofExcept body.check
  return body

theorem follows_walk : Follows walk read :=
  follows_i16.bind fun _ => follows_i16.bind fun _ => (follows_text _).bind fun _ =>
    (follows_text _).bind fun _ => (follows_text _).bind fun _ =>
    (Follows.ofExcept rfl).bind fun _ => follows_u32.bind fun _ => follows_u16.bind fun _ =>
    follows_u32.bind fun _ => follows_u16.bind fun _ => (Follows.ofExcept rfl).map fun _ => _

end Handshake

namespace OptionSetting

def walk : Cursor OptionSetting := do
  let _count ← Cursor.i32
  let type ← Cursor.i32
  let raw ← Cursor.sized "option size"
  let body : OptionSetting := { type, value := Text.strip raw }
  Cursor.ofExcept body.check
  return body

theorem follows_walk : Follows walk read :=
  follows_i32.bind fun _ => follows_i32.bind fun _ => (follows_sized _).bind fun _ =>
    (Follows.ofExcept rfl).map fun _ => _

end OptionSetting

namespace Acknowledgement

def walkGaps : Nat → Cursor (List (UInt64 × UInt64))
  | 0 => return []
  | count + 1 => do
    let first ← Cursor.u64
    let last ← Cursor.u64
    return (first, last) :: (← walkGaps count)

/-- The length of the gaps is cut off at what 64 bits can hold. -/
def walk : Cursor Acknowledgement := do
  let frameset ← Cursor.text framesetWidth
  let lowest ← Cursor.u64
  let highest ← Cursor.u64
  let count ← Cursor.length "gap count"
  let remaining ← Cursor.remaining
  if remaining < min (count * gapWidth) (2 ^ 64 - 1) then throw (.missingGaps count remaining)
  let gaps ← walkGaps count
  return { frameset, lowest, highest, gaps }

theorem follows_walkGaps (count : Nat) : Follows (walkGaps count) (readGaps count) := by
  induction count with
  | zero => exact Follows.pure []
  | succ count ih =>
    exact follows_u64.bind fun first => follows_u64.bind fun last => ih.map ((first, last) :: ·)

theorem follows_walk : Follows walk read :=
  (follows_text _).bind fun _ => follows_u64.bind fun _ => follows_u64.bind fun _ =>
    (follows_length _).bind fun count =>
    Follows.saturated ((follows_walkGaps count).map fun _ => _)

end Acknowledgement

namespace Alert

def walk : Cursor String := do
  let message := Text.strip (← Cursor.sized "alert size")
  Cursor.ofExcept (check message)
  return message

theorem follows_walk : Follows walk read :=
  (follows_sized _).bind fun _ => (Follows.ofExcept rfl).map fun _ => _

end Alert

namespace CommandTarget

def walk : Cursor CommandTarget := do
  let station ← Cursor.text stationWidth
  let site ← Cursor.text siteWidth
  let channel ← Cursor.text channelWidth
  let location ← Cursor.text locationWidth
  Cursor.skip 2
  let time ← OrdinalDate.walk
  return { station, site, channel, location, time }

theorem follows_walk : Follows walk read :=
  (follows_text _).bind fun _ => (follows_text _).bind fun _ => (follows_text _).bind fun _ =>
    (follows_text _).bind fun _ => (follows_skip _).bind fun _ =>
    OrdinalDate.follows_walk.map fun _ => _

end CommandTarget

namespace CommandMessage

def walk (field : String) : Cursor String := do
  let message := Text.strip (← Cursor.bytes (← Cursor.length field))
  if message = "" then throw (.blankMessage field)
  return message

theorem follows_walk (field : String) : Follows (walk field) (read field) :=
  (follows_length field).bind fun count => (follows_bytes count).bind fun _ =>
    Follows.refuse (Follows.pure _)

end CommandMessage

namespace CommandRequest

def walk : Cursor CommandRequest := do
  let target ← CommandTarget.walk
  let command ← CommandMessage.walk "command message"
  return { target, command }

theorem follows_walk : Follows walk read :=
  CommandTarget.follows_walk.bind fun _ => (CommandMessage.follows_walk _).map fun _ => _

end CommandRequest

namespace CommandResponse

def walk : Cursor CommandResponse := do
  let target ← CommandTarget.walk
  let request ← CommandMessage.walk "command request message"
  let response ← CommandMessage.walk "command response message"
  return { target, request, response }

theorem follows_walk : Follows walk read :=
  CommandTarget.follows_walk.bind fun _ => (CommandMessage.follows_walk _).bind fun _ =>
    (CommandMessage.follows_walk _).map fun _ => _

end CommandResponse

namespace Subframe

def walkCompression : Cursor Compression := do
  let code ← Cursor.u8
  match Compression.ofCode? code with
  | some compression => return compression
  | none => throw (.unknownCompression code)

def walk : Cursor Subframe := do
  let remaining ← Cursor.remaining
  if remaining < minLength then throw (.shortSubframe remaining)
  let channelLength ← Cursor.i32
  let authOffset ← Cursor.i32
  let authenticated ← Cursor.u8
  let compression ← walkCompression
  let sensor ← Cursor.u8
  let calibration ← Cursor.u8
  let site ← Cursor.text siteWidth
  let channel ← Cursor.text channelWidth
  let location ← Cursor.text locationWidth
  let format ← Cursor.text formatWidth
  let calibrationFactor ← Cursor.f32
  let calibrationPeriod ← Cursor.f32
  let time ← OrdinalDate.walk
  let timeLength ← Cursor.i32
  let samples ← Cursor.i32
  let status ← Cursor.sized "channel status size"
  let data ← Cursor.sized "data size"
  let subframeCount ← Cursor.i32
  let authKeyId ← Cursor.i32
  let authValue ← Cursor.sized "authentication size"
  let subframe : Subframe :=
    { channelLength, authOffset, authenticated := authenticated = 1, compression
      sensor := Sensor.ofCode sensor, calibration := calibration = 1, site, channel, location
      format := DataFormat.ofCode format, calibrationFactor := ⟨calibrationFactor⟩
      calibrationPeriod := ⟨calibrationPeriod⟩, time, timeLength, samples, status, data
      subframeCount, authKeyId, authValue }
  Cursor.ofExcept subframe.check
  return subframe

theorem follows_walkCompression : Follows walkCompression readCompression := by
  refine follows_u8.bind fun code => ?_
  cases Compression.ofCode? code with
  | none => exact Follows.throw _
  | some compression => exact Follows.pure compression

theorem follows_walk : Follows walk read :=
  follows_remaining.bind fun _ => Follows.refuse <|
    follows_i32.bind fun _ => follows_i32.bind fun _ => follows_u8.bind fun _ =>
    follows_walkCompression.bind fun _ => follows_u8.bind fun _ => follows_u8.bind fun _ =>
    (follows_text _).bind fun _ => (follows_text _).bind fun _ => (follows_text _).bind fun _ =>
    (follows_text _).bind fun _ => follows_f32.bind fun _ => follows_f32.bind fun _ =>
    OrdinalDate.follows_walk.bind fun _ => follows_i32.bind fun _ => follows_i32.bind fun _ =>
    (follows_sized _).bind fun _ => (follows_sized _).bind fun _ => follows_i32.bind fun _ =>
    follows_i32.bind fun _ => (follows_sized _).bind fun _ => (Follows.ofExcept rfl).map fun _ => _

end Subframe

namespace DataHeader

theorem length_of_take_zeros {input : Bytes} (zero : input.take 4 = Bytes.zeros 4) :
    4 ≤ input.length := by
  have length := congrArg List.length zero
  rw [List.length_take, Bytes.length_zeros] at length
  omega

/-- Whether the next four bytes are zero, in which case the number that they form is. -/
def walkIsZero : Cursor Bool := fun buffer place => do
  match ← Cursor.i32 buffer place with
  | (.ok value, _) => return (.ok (value == 0), place)
  | (.error _, _) => return (.ok false, place)

def walkFields : Cursor (DataHeader × Bool) := do
  let channels ← Cursor.i32
  let timeLength ← Cursor.i32
  let nominalTime ← OrdinalDate.walk
  let count ← Cursor.length "channel string count"
  let channelString ← Cursor.bytes count
  let header : DataHeader := { channels, timeLength, nominalTime, channelString }
  let padding ← Cursor.checked (padding? count)
  if padding = 0 then return (header, true)
  if (← walkIsZero) then
    Cursor.skip padding
    return (header, true)
  return (header, false)

theorem follows_walkIsZero : Follows walkIsZero readFields.nextIsZero := by
  intro buffer place room inside
  obtain ⟨result, stop, found, -, same⟩ := follows_i32 buffer place room inside
  cases result with
  | ok value =>
    have front : (buffer.drop place).take 4 = Encoder.i32 value := by
      rw [Decoder.i32_eq_ok same, List.take_left' (Encoder.length_i32 value)]
    have zero : (Encoder.i32 value == Bytes.zeros 4) = (value == 0) := by
      rw [Bool.beq_eq_decide_eq, Bool.beq_eq_decide_eq]
      exact decide_eq_decide.mpr Encoder.i32_eq_zeros_iff
    refine ⟨.ok (value == 0), place, ?_, inside, ?_⟩
    · rw [walkIsZero, found]
      rfl
    · rw [readFields.nextIsZero, front, zero]
      rfl
  | error reason =>
    have short : (buffer.drop place).length < 4 := by
      by_contra long
      rw [Decoder.i32_of_length (Nat.not_lt.mp long)] at same
      contradiction
    have other : ((buffer.drop place).take 4 == Bytes.zeros 4) = false := by
      rw [beq_eq_false_iff_ne]
      exact fun zero => Nat.not_le.mpr short (length_of_take_zeros zero)
    refine ⟨.ok false, place, ?_, inside, ?_⟩
    · rw [walkIsZero, found]
      rfl
    · rw [readFields.nextIsZero, other]
      rfl

theorem follows_walkFields : Follows walkFields readFields := by
  refine follows_i32.bind fun _ => follows_i32.bind fun _ => OrdinalDate.follows_walk.bind fun _ =>
    (follows_length _).bind fun count => (follows_bytes count).bind fun _ =>
    Follows.checked (padding?_eq count) ?_
  dsimp only
  split
  · exact Follows.pure _
  · refine follows_walkIsZero.bind fun zero => ?_
    split
    · exact (follows_skip _).map fun _ => _
    · exact Follows.pure _

end DataHeader

namespace DataFrame

def walkSubframes : (count index : Nat) → Bytes → Nat →
    Option (List Subframe × List Notice × Nat)
  | 0, _, _, place => some ([], [], place)
  | count + 1, index, buffer, place => do
    match ← Subframe.walk buffer place with
    | (.ok subframe, stop) =>
      let (subframes, notices, stop) ← walkSubframes count (index + 1) buffer stop
      return (subframe :: subframes, notices, stop)
    | (.error reason, stop) => return ([], [.stoppedAtSubframe index reason], stop)

/-- What is read of a body, and the place where reading it ends. -/
def walk (buffer : Bytes) : Option ((Except Error DataFrame × List Notice) × Nat) := do
  match ← DataHeader.walkFields buffer 0 with
  | (.error reason, stop) => return ((.error reason, []), stop)
  | (.ok (header, aligned), stop) =>
    let unaligned := if aligned then [] else [.channelStringUnaligned]
    match header.check with
    | .error reason => return ((.error reason, unaligned), stop)
    | .ok () =>
      let (subframes, stopped, stop) ← walkSubframes header.idCount 0 buffer stop
      let notices := unaligned ++ header.notices ++ stopped
      if subframes = [] then return ((.error .noParseableSubframe, notices), stop)
      let left ← difference? buffer.length stop
      if left = 0 then return ((.ok { header, subframes }, notices), stop)
      let stop ← sum? stop left
      return ((.ok { header, subframes }, notices ++ [.unparsedBytes left]), stop)

variable {buffer : Bytes}

theorem walkSubframes_eq (room : buffer.length ≤ capacity) (count index : Nat) {place : Nat}
    (inside : place ≤ buffer.length) :
    ∃ subframes notices stop,
      walkSubframes count index buffer place = some (subframes, notices, stop) ∧
        stop ≤ buffer.length ∧
        readSubframes count index (buffer.drop place) = (subframes, notices, buffer.drop stop) := by
  induction count generalizing index place with
  | zero => exact ⟨[], [], place, rfl, inside, rfl⟩
  | succ count ih =>
    obtain ⟨result, stop, found, within, same⟩ := Subframe.follows_walk buffer place room inside
    rw [walkSubframes, readSubframes, found, same, Option.bind_eq_bind, Option.bind_some]
    cases result with
    | error reason => exact ⟨_, _, stop, rfl, within, rfl⟩
    | ok subframe =>
      obtain ⟨subframes, notices, last, later, beyond, alike⟩ := ih (index + 1) within
      dsimp only [outcome]
      rw [later, alike]
      exact ⟨_, _, last, rfl, beyond, rfl⟩

/-- A body is read within its bounds, and to its end if a frame comes of it. -/
theorem walk_eq (room : buffer.length ≤ capacity) :
    ∃ stop ≤ buffer.length, walk buffer = some (read buffer, stop) ∧
      ∀ frame, (read buffer).1 = .ok frame → stop = buffer.length := by
  obtain ⟨result, stop, found, within, same⟩ :=
    DataHeader.follows_walkFields buffer 0 room (Nat.zero_le _)
  rw [List.drop_zero] at same
  unfold walk read
  rw [found, same, Option.bind_eq_bind, Option.bind_some]
  cases result with
  | error reason => exact ⟨stop, within, rfl, nofun⟩
  | ok fields =>
    obtain ⟨header, aligned⟩ := fields
    dsimp only [outcome]
    cases header.check with
    | error reason => exact ⟨stop, within, rfl, nofun⟩
    | ok =>
      obtain ⟨subframes, stopped, last, later, beyond, alike⟩ :=
        walkSubframes_eq room header.idCount 0 within
      dsimp only
      rw [later, alike, Option.bind_eq_bind, Option.bind_some]
      dsimp only
      by_cases none : subframes = []
      · rw [if_pos none, if_pos none]
        exact ⟨last, beyond, rfl, nofun⟩
      have left : difference? buffer.length last = some (buffer.length - last) := if_pos beyond
      rw [if_neg none, if_neg none, left, Option.bind_eq_bind, Option.bind_some, List.length_drop]
      by_cases whole : buffer.length - last = 0
      · rw [if_pos whole, if_pos (List.drop_eq_nil_of_le (by omega)), List.append_nil]
        exact ⟨last, beyond, rfl, fun _ _ => by omega⟩
      · have more : buffer.drop last ≠ [] := by
          rw [← List.length_pos_iff_ne_nil, List.length_drop]
          omega
        have stop : sum? last (buffer.length - last) = some buffer.length := by
          unfold capacity at room
          rw [sum?_eq (by omega), Nat.add_sub_cancel' beyond]
        rw [if_neg whole, if_neg more, stop]
        exact ⟨buffer.length, Nat.le_refl _, rfl, fun _ _ => rfl⟩

end DataFrame

namespace Body

def walker : FrameType → Cursor Body
  | .connectionRequest => return connectionRequest (← Handshake.walk)
  | .connectionResponse => return connectionResponse (← Handshake.walk)
  | .optionRequest => return optionRequest (← OptionSetting.walk)
  | .optionResponse => return optionResponse (← OptionSetting.walk)
  | .acknack => return acknack (← Acknowledgement.walk)
  | .alert => return alert (← Alert.walk)
  | .commandRequest => return commandRequest (← CommandRequest.walk)
  | .commandResponse => return commandResponse (← CommandResponse.walk)
  | .encapsulation => return encapsulation (← Cursor.all)
  | .customReset => return customReset (← Cursor.all)
  | .data => throw (.unparseableType .data)
  | .malformed => throw (.unparseableType .malformed)

/-- A body of any type but DATA, behind which bytes may be left. -/
def walkControl (type : FrameType) (buffer : Bytes) :
    Option (Except Error Body × List Notice) := do
  let undecoded := if type = .encapsulation then [.undecodedEncapsulation] else []
  match ← walker type buffer 0 with
  | (.error reason, _) => return (.error reason, undecoded)
  | (.ok body, stop) =>
    let left ← difference? buffer.length stop
    return (.ok body, undecoded ++ if left = 0 then [] else [.trailingBytes type left])

def walk (type : FrameType) (buffer : Bytes) : Option (Except Error Body × List Notice) :=
  match type with
  | .data => do
    let ((result, notices), _) ← DataFrame.walk buffer
    return (result.map data, notices)
  | _ => walkControl type buffer

theorem follows_walker (type : FrameType) : Follows (walker type) (reader type) := by
  cases type with
  | connectionRequest => exact Handshake.follows_walk.map connectionRequest
  | connectionResponse => exact Handshake.follows_walk.map connectionResponse
  | optionRequest => exact OptionSetting.follows_walk.map optionRequest
  | optionResponse => exact OptionSetting.follows_walk.map optionResponse
  | acknack => exact Acknowledgement.follows_walk.map acknack
  | alert => exact Alert.follows_walk.map alert
  | commandRequest => exact CommandRequest.follows_walk.map commandRequest
  | commandResponse => exact CommandResponse.follows_walk.map commandResponse
  | encapsulation => exact follows_all.map encapsulation
  | customReset => exact follows_all.map customReset
  | data => exact Follows.throw _
  | malformed => exact Follows.throw _

theorem walkControl_eq {type : FrameType} {buffer : Bytes} (control : type ≠ .data)
    (room : buffer.length ≤ capacity) : walkControl type buffer = some (read type buffer) := by
  obtain ⟨result, stop, found, within, same⟩ :=
    follows_walker type buffer 0 room (Nat.zero_le _)
  rw [List.drop_zero] at same
  rw [walkControl, read_eq control, found, same, Option.bind_eq_bind, Option.bind_some]
  cases result with
  | error reason => rfl
  | ok body =>
    have left : difference? buffer.length stop = some (buffer.length - stop) := if_pos within
    have nothing : buffer.length - stop = 0 ↔ buffer.drop stop = [] := by
      rw [← List.length_eq_zero_iff, List.length_drop]
    dsimp only [outcome]
    rw [left, Option.bind_eq_bind, Option.bind_some, List.length_drop]
    simp only [nothing]
    rfl

/-- Whatever type of body is looked for, no byte is looked for outside the buffer. -/
theorem walk_eq {type : FrameType} {buffer : Bytes} (room : buffer.length ≤ capacity) :
    walk type buffer = some (read type buffer) := by
  by_cases data : type = .data
  · subst data
    obtain ⟨stop, -, found, -⟩ := DataFrame.walk_eq room
    rw [walk, found]
    rfl
  · have control : walk type buffer = walkControl type buffer := by
      cases type <;> first | rfl | exact absurd rfl data
    rw [control, walkControl_eq data room]

end Body

end ContinuousData
