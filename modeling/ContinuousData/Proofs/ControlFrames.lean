import ContinuousData.Proofs.ControlBodies
import ContinuousData.Proofs.DataFrames

/-! Frames other than DATA frames, from an endpoint to its peer. Frames of canonical parts come back
as they are. Of any other, the numbers and the trailer come back together with what the wire keeps
of its texts and times, unless one of its messages consists of NUL characters and white space. -/
namespace ContinuousData

namespace Frame

/-- What the wire keeps of a frame that is not a DATA frame. -/
def kept (frame : Frame) : Frame :=
  { frame with header := frame.header.kept, body := frame.body.kept }

variable {frame : Frame}

theorem parse_of_legible (h : frame.IsEncoded) (control : frame.body.type ≠ .data)
    (legible : frame.body.IsLegible) :
    parse frame.raw = (.ok frame.kept,
      if frame.body.type = .encapsulation then [.undecodedEncapsulation] else []) := by
  obtain ⟨-, -, -, middle, hm, -⟩ := encode_eq_ok.mp h
  rw [parse_of_encode h hm, Body.read_of_legible control hm legible]
  rfl

theorem parse_of_illegible (h : frame.IsEncoded) (control : frame.body.type ≠ .data)
    (illegible : ¬ frame.body.IsLegible) (whole : Frame) :
    (parse frame.raw).1 ≠ .ok whole := by
  obtain ⟨-, -, -, middle, hm, -⟩ := encode_eq_ok.mp h
  obtain ⟨reason, notices, failed⟩ := Body.read_of_illegible control hm illegible
  rw [parse_of_encode h hm, failed]
  exact nofun

/-- A frame of canonical parts is made, has a valid checksum, and is parsed to its last byte. -/
theorem parse_compose_of_isCanonical {creator destination : String} {body : Body}
    {middle authValue : Bytes} (control : body.type ≠ .data) (canonical : body.IsCanonical)
    (plainCreator : Text.IsPlain creator) (plainDestination : Text.IsPlain destination)
    (shortCreator : Text.size creator ≤ Header.creatorWidth)
    (shortDestination : Text.size destination ≤ Header.destinationWidth)
    (hm : body.write = .ok middle)
    (offset : Header.width + middle.length ≤ Encoder.maxLength)
    (shortAuth : authValue.length ≤ Encoder.maxLength) (sequence : UInt64)
    (series authKeyId : Int32) :
    ∃ frame, compose creator destination sequence series body authKeyId authValue = .ok frame ∧
      frame.header =
        ⟨body.type, Header.width + middle.length, creator, destination, sequence, series⟩ ∧
      frame.body = body ∧
      frame.trailer = ⟨authKeyId, authValue, Checksum.compute frame.raw⟩ ∧
      frame.hasValidChecksum = true ∧
      parse frame.raw =
        (.ok frame, if body.type = .encapsulation then [.undecodedEncapsulation] else []) ∧
      Body.reader body.type middle = .ok body [] := by
  have legible := canonical.isLegible hm
  obtain ⟨frame, made⟩ := @exists_compose creator destination sequence series body middle authValue
    authKeyId hm offset shortCreator shortDestination shortAuth
  obtain ⟨trailer, valid⟩ := checksum_of_compose made
  obtain ⟨same, back⟩ := parse_of_compose made plainCreator plainDestination hm
  have header : frame.header =
      ⟨body.type, Header.width + middle.length, creator, destination, sequence, series⟩ := by
    obtain ⟨middle', hm', _, -, rfl⟩ := compose_eq_ok.mp made
    rw [Except.ok.inj (hm.symm.trans hm')]
  rw [Body.read_of_legible control hm legible, canonical.kept_eq] at back
  have read := Body.reader_of_legible control hm legible
  rw [canonical.kept_eq] at read
  refine ⟨frame, made, header, same, trailer, valid, ?_, read⟩
  rw [back, ← same]

end Frame

/-- A response to the millisecond, of texts that are padded, empty or longer than they look. -/
def CommandResponse.refusal : CommandResponse where
  target := ⟨"STA", "SITE", "BHZ", "", 951782399999000000⟩
  request := "größer"
  response := "no"

/-- It comes back under an authentication value that is padded. -/
theorem Frame.parse_compose_of_isCanonical_refusal :
    ∃ middle frame, Body.write (.commandResponse .refusal) = .ok middle ∧
      Frame.compose "STA" "" 0xFFFFFFFFFFFFFFFF (-1) (.commandResponse .refusal) (-7)
        [1, 0, 2, 0, 3] = .ok frame ∧ Frame.parse frame.raw = (.ok frame, []) := by
  obtain ⟨middle, hm⟩ : ∃ middle, Body.write (.commandResponse .refusal) = .ok middle := ⟨_, rfl⟩
  have length : middle.length = 58 := by
    obtain rfl := Except.ok.inj hm
    rfl
  have canonical : Body.IsCanonical (.commandResponse .refusal) :=
    ⟨⟨by decide, by decide, by decide, by decide, by decide⟩, by decide, by decide⟩
  obtain ⟨frame, made, -, -, -, -, back, -⟩ := @Frame.parse_compose_of_isCanonical "STA" ""
    (.commandResponse .refusal) middle [1, 0, 2, 0, 3] nofun canonical (by decide) (by decide)
    (by decide) (by decide) hm (by rw [length]; decide) (by decide) 0xFFFFFFFFFFFFFFFF (-1) (-7)
  exact ⟨middle, frame, hm, made, back⟩

namespace Endpoint

/-- What an endpoint can send besides DATA frames. -/
inductive Control where
  | acknack (frameset : String) (lowest highest : UInt64) (gaps : List (UInt64 × UInt64))
  | alert (message : String)
  | connectionRequest (ip : Ipv4) (port : UInt16) (secondary : Option (Ipv4 × UInt16))
  | connectionResponse (ip : Ipv4) (port : UInt16) (secondary : Option (Ipv4 × UInt16))
  | optionRequest (setting : OptionSetting)
  | optionResponse (setting : OptionSetting)
  | commandRequest (request : CommandRequest)
  | commandResponse (response : CommandResponse)
  | customReset
  | encapsulation (payload : Bytes) (sequence : UInt64)
  deriving DecidableEq, Repr

def send (endpoint : Endpoint) : Control → Except Error Frame
  | .acknack frameset lowest highest gaps => endpoint.acknack frameset lowest highest gaps
  | .alert message => endpoint.alert message
  | .connectionRequest ip port secondary => endpoint.connectionRequest ip port secondary
  | .connectionResponse ip port secondary => endpoint.connectionResponse ip port secondary
  | .optionRequest setting => endpoint.optionRequest setting
  | .optionResponse setting => endpoint.optionResponse setting
  | .commandRequest request => endpoint.commandRequest request
  | .commandResponse response => endpoint.commandResponse response
  | .customReset => endpoint.customReset
  | .encapsulation payload sequence => endpoint.encapsulation payload sequence

variable {endpoint : Endpoint} {control : Control} {frame : Frame}

/-- All that is sent is composed in the same way. -/
theorem frame_of_send (h : endpoint.send control = .ok frame) :
    ∃ sequence body, endpoint.frame sequence body = .ok frame ∧ body.type ≠ .data := by
  cases control with
  | alert message =>
    obtain ⟨_, -, h⟩ := bind_eq_ok.mp h
    exact ⟨_, _, h, nofun⟩
  | optionRequest setting =>
    obtain ⟨_, -, h⟩ := bind_eq_ok.mp h
    exact ⟨_, _, h, nofun⟩
  | optionResponse setting =>
    obtain ⟨_, -, h⟩ := bind_eq_ok.mp h
    exact ⟨_, _, h, nofun⟩
  | _ => exact ⟨_, _, h, nofun⟩

/-- What an endpoint sends is parsed exactly when there is something to see in its messages. -/
theorem parse_send_iff (h : endpoint.send control = .ok frame) :
    (∃ whole, (Frame.parse frame.raw).1 = .ok whole ∧ whole.type = frame.type ∧
      whole.header.trailerOffset = frame.header.trailerOffset ∧
      whole.sequence = frame.sequence ∧ whole.header.series = frame.header.series ∧
      whole.trailer = frame.trailer) ↔ frame.body.IsLegible := by
  obtain ⟨sequence, body, made, control⟩ := frame_of_send h
  have encoded := Frame.encode_of_compose made
  obtain ⟨-, -, rfl⟩ := Frame.parts_of_compose made
  constructor
  · rintro ⟨whole, parsed, -⟩
    by_contra illegible
    exact Frame.parse_of_illegible encoded control illegible whole parsed
  · intro legible
    have back := congrArg Prod.fst (Frame.parse_of_legible encoded control legible)
    exact ⟨frame.kept, back, rfl, rfl, rfl, rfl, rfl⟩

/-- NUL characters and white space around a message do no harm. -/
theorem parse_send_iff_farewell :
    ∃ frame, standard.send (.alert "\x00 bye") = .ok frame ∧
      ∃ whole, (Frame.parse frame.raw).1 = .ok whole ∧ whole.trailer = frame.trailer := by
  obtain ⟨frame, sent⟩ : ∃ frame, standard.send (.alert "\x00 bye") = .ok frame := ⟨_, rfl⟩
  have legible : frame.body.IsLegible := by
    obtain rfl := Except.ok.inj sent
    decide
  obtain ⟨whole, parsed, -, -, -, -, trailer⟩ := (parse_send_iff sent).mpr legible
  exact ⟨frame, sent, whole, parsed, trailer⟩

/-- A NUL character is no white space, so it is sent as a message, and nothing of it arrives. -/
theorem parse_send_ne_of_nul :
    standard.IsBuilt ∧ ∃ frame, standard.send (.alert "\x00") = .ok frame ∧
      ∀ whole, (Frame.parse frame.raw).1 ≠ .ok whole := by
  obtain ⟨frame, sent⟩ : ∃ frame, standard.send (.alert "\x00") = .ok frame := ⟨_, rfl⟩
  obtain ⟨sequence, body, made, control⟩ := frame_of_send sent
  have illegible : ¬ frame.body.IsLegible := by
    obtain rfl := Except.ok.inj sent
    decide
  have encoded := Frame.encode_of_compose made
  obtain ⟨-, -, rfl⟩ := Frame.parts_of_compose made
  exact ⟨isBuilt_standard, frame, sent, Frame.parse_of_illegible encoded control illegible⟩

end Endpoint

end ContinuousData
