import ContinuousData.Frame.Body
import ContinuousData.Proofs.FrameCodec
import ContinuousData.Proofs.OrdinalTexts
import ContinuousData.Proofs.SubframeCodec

/-! The bodies of frames other than DATA, and what the wire keeps of them: texts as fields keep
them, times in whole milliseconds. A body that was written is read again unless one of its messages
has nothing in it to see. -/
namespace ContinuousData

namespace Handshake

/-- A secondary address of zeros stands for none. -/
def kept (body : Handshake) : Handshake :=
  { body with
    name := Text.kept body.name
    type := Text.kept body.type
    secondary := body.secondary.filter (· ≠ (.unspecified, 0)) }

theorem check_eq_ok {body : Handshake} :
    body.check = .ok () ↔
      (0 ≤ body.major ∧ 0 ≤ body.minor) ∧ Text.size body.name ≤ nameWidth ∧
        Text.size body.type ≤ typeWidth := by
  unfold check
  simp only [refuse_eq_ok, refuse_pure_eq_ok, and_true, not_or, Int16.not_lt, Nat.not_lt]

theorem write_eq_ok {body : Handshake} {written : Bytes} (h : body.write = .ok written) :
    body.check = .ok () ∧ ∃ name type service, Encoder.text body.name nameWidth = .ok name ∧
      Encoder.text body.type typeWidth = .ok type ∧
      Encoder.text body.service.text serviceWidth = .ok service ∧
      written = Encoder.i16 body.major ++ Encoder.i16 body.minor ++ name ++ type ++ service ++
        Encoder.u32 body.ip.value ++ Encoder.u16 body.port ++
        Encoder.u32 (body.secondary.getD (.unspecified, 0)).1.value ++
        Encoder.u16 (body.secondary.getD (.unspecified, 0)).2 := by
  unfold write at h
  simp only [bind_eq_ok, pure_eq_ok] at h
  obtain ⟨_, valid, name, hn, type, ht, service, hs, rfl⟩ := h
  exact ⟨valid, name, type, service, hn, ht, hs, rfl⟩

theorem secondaryOf_getD (secondary : Option (Ipv4 × UInt16)) :
    secondaryOf (secondary.getD (.unspecified, 0)).1.value (secondary.getD (.unspecified, 0)).2 =
      secondary.filter (· ≠ (.unspecified, 0)) := by
  cases secondary with
  | none => rfl
  | some address =>
    obtain ⟨⟨ip⟩, port⟩ := address
    by_cases zero : ip = 0 ∧ port = 0
    · obtain ⟨rfl, rfl⟩ := zero
      rfl
    · simp [secondaryOf, zero, Option.filter, Ipv4.unspecified]

theorem isPlain_service (service : Service) : Text.IsPlain service.text := by
  cases service <;> decide

theorem reads_write {body : Handshake} {written : Bytes} (h : body.write = .ok written) :
    Decoder.Reads read written body.kept := by
  obtain ⟨valid, name, type, service, hn, ht, hs, rfl⟩ := write_eq_ok h
  have checked : body.kept.check = .ok () := by
    obtain ⟨versions, nameFits, typeFits⟩ := check_eq_ok.mp valid
    exact check_eq_ok.mpr ⟨versions, (Text.size_kept_le _).trans nameFits,
      (Text.size_kept_le _).trans typeFits⟩
  simp only [List.append_assoc]
  apply (Decoder.reads_i16 _).bind
  apply (Decoder.reads_i16 _).bind
  apply (Decoder.reads_text_kept hn).bind
  apply (Decoder.reads_text_kept ht).bind
  apply (Decoder.reads_text hs (isPlain_service _)).bind
  apply (Decoder.Reads.ofExcept (Service.ofText_text _)).nil_bind
  apply (Decoder.reads_u32 _).bind
  apply (Decoder.reads_u16 _).bind
  apply (Decoder.reads_u32 _).bind
  apply (Decoder.reads_u16 _).bind_nil
  rw [secondaryOf_getD]
  exact (Decoder.Reads.ofExcept checked).bind_nil (Decoder.Reads.pure body.kept)

end Handshake

namespace OptionSetting

def kept (body : OptionSetting) : OptionSetting :=
  { body with value := Text.kept body.value }

theorem check_eq_ok {body : OptionSetting} :
    body.check = .ok () ↔
      body.type = connectionEstablishment ∧ Text.size (Text.trim body.value) ≠ 0 ∧
        Text.size (Text.trim body.value) ≤ 8 := by
  unfold check
  simp only [refuse_eq_ok, refuse_pure_eq_ok, and_true, not_not, not_or, Nat.not_lt]

/-- Dropping NUL characters makes no value too long, but it can leave nothing of it. -/
theorem check_kept {body : OptionSetting} (valid : body.check = .ok ()) :
    body.kept.check = .ok () ↔ Text.IsLegible body.value := by
  obtain ⟨type, -, short⟩ := check_eq_ok.mp valid
  have fits : Text.size (Text.kept body.value) ≤ 8 := (Text.size_kept_le_trim _).trans short
  rw [check_eq_ok, kept, Text.trim_of_plain (Text.isPlain_kept _), Ne, Text.size_eq_zero_iff,
    Text.kept_eq_empty_iff, not_not]
  exact ⟨fun h => h.2.1, fun legible => ⟨type, legible, fits⟩⟩

theorem write_eq_ok {body : OptionSetting} {written : Bytes} (h : body.write = .ok written) :
    body.check = .ok () ∧ ∃ value, Encoder.sized (Text.encode body.value) = .ok value ∧
      written = Encoder.i32 1 ++ Encoder.i32 body.type ++ value := by
  unfold write at h
  simp only [bind_eq_ok, pure_eq_ok] at h
  obtain ⟨_, valid, value, hv, rfl⟩ := h
  exact ⟨valid, value, hv, rfl⟩

theorem reads_write {body : OptionSetting} {written : Bytes} (h : body.write = .ok written)
    (legible : Text.IsLegible body.value) : Decoder.Reads read written body.kept := by
  obtain ⟨valid, value, hv, rfl⟩ := write_eq_ok h
  rw [List.append_assoc]
  apply (Decoder.reads_i32 _).bind
  apply (Decoder.reads_i32 _).bind
  apply (Decoder.reads_sized _ hv).bind_nil
  rw [Text.strip_encode]
  exact (Decoder.Reads.ofExcept ((check_kept valid).mpr legible)).bind_nil
    (Decoder.Reads.pure body.kept)

theorem refuses_write {body : OptionSetting} {written : Bytes} (h : body.write = .ok written)
    (illegible : ¬ Text.IsLegible body.value) : Decoder.Refuses read written := by
  obtain ⟨valid, value, hv, rfl⟩ := write_eq_ok h
  rw [List.append_assoc]
  apply (Decoder.reads_i32 _).bind_refuses
  apply (Decoder.reads_i32 _).bind_refuses
  apply (Decoder.reads_sized _ hv).bind_refuses_nil
  rw [Text.strip_encode]
  have refused : ∀ value, body.kept.check ≠ .ok value := fun _ =>
    mt (check_kept valid).mp illegible
  exact (Decoder.Refuses.ofExcept refused []).bind_nil

end OptionSetting

namespace Alert

theorem check_kept (message : String) :
    check (Text.kept message) = .ok () ↔ Text.IsLegible message := by
  unfold check
  rw [refuse_pure_eq_ok, Text.isBlankText_iff (Text.isPlain_kept message), Text.kept_eq_empty_iff,
    not_not]
  exact and_iff_left rfl

theorem write_eq_ok {message : String} {written : Bytes} (h : write message = .ok written) :
    Text.isBlankText message = false ∧ Encoder.sized (Text.encode message) = .ok written := by
  obtain ⟨_, valid, sized⟩ := bind_eq_ok.mp h
  unfold check at valid
  rw [refuse_pure_eq_ok, Bool.not_eq_true] at valid
  exact ⟨valid.1, sized⟩

theorem reads_write {message : String} {written : Bytes} (h : write message = .ok written)
    (legible : Text.IsLegible message) : Decoder.Reads read written (Text.kept message) := by
  apply (Decoder.reads_sized _ (write_eq_ok h).2).bind_nil
  rw [Text.strip_encode]
  exact (Decoder.Reads.ofExcept ((check_kept message).mpr legible)).bind_nil (Decoder.Reads.pure _)

theorem refuses_write {message : String} {written : Bytes} (h : write message = .ok written)
    (illegible : ¬ Text.IsLegible message) : Decoder.Refuses read written := by
  apply (Decoder.reads_sized _ (write_eq_ok h).2).bind_refuses_nil
  rw [Text.strip_encode]
  have refused : ∀ value, check (Text.kept message) ≠ .ok value := fun _ =>
    mt (check_kept message).mp illegible
  exact (Decoder.Refuses.ofExcept refused []).bind_nil

end Alert

namespace CommandTarget

def kept (target : CommandTarget) : CommandTarget where
  station := Text.kept target.station
  site := Text.kept target.site
  channel := Text.kept target.channel
  location := Text.kept target.location
  time := Timestamp.ofMillis target.time.millis

theorem write_eq_ok {target : CommandTarget} {written : Bytes} (h : target.write = .ok written) :
    ∃ station site channel location time, Encoder.text target.station stationWidth = .ok station ∧
      Encoder.text target.site siteWidth = .ok site ∧
      Encoder.text target.channel channelWidth = .ok channel ∧
      Encoder.text target.location locationWidth = .ok location ∧
      OrdinalDate.write target.time = .ok time ∧
      written = station ++ site ++ channel ++ location ++ Bytes.zeros 2 ++ time := by
  unfold write at h
  simp only [bind_eq_ok, pure_eq_ok] at h
  obtain ⟨_, -, station, hst, site, hs, channel, hc, location, hl, time, ht, rfl⟩ := h
  exact ⟨station, site, channel, location, time, hst, hs, hc, hl, ht, rfl⟩

theorem reads_write {target : CommandTarget} {written : Bytes} (h : target.write = .ok written) :
    Decoder.Reads read written target.kept := by
  obtain ⟨station, site, channel, location, time, hst, hs, hc, hl, ht, rfl⟩ := write_eq_ok h
  simp only [List.append_assoc]
  apply (Decoder.reads_text_kept hst).bind
  apply (Decoder.reads_text_kept hs).bind
  apply (Decoder.reads_text_kept hc).bind
  apply (Decoder.reads_text_kept hl).bind
  apply (Decoder.reads_zeros 2).bind
  exact (OrdinalDate.reads_write_millis ht).bind_nil (Decoder.Reads.pure target.kept)

end CommandTarget

namespace CommandMessage

variable {field message : String} {written : Bytes}

theorem write_eq_ok (h : write field message = .ok written) :
    Text.isBlankText message = false ∧ Text.size message ≤ Encoder.maxLength ∧
      written = Encoder.length (Text.size message) ++ Text.encode message := by
  unfold write at h
  simp only [refuse_eq_ok, pure_eq_ok, Nat.not_lt, Bool.not_eq_true] at h
  obtain ⟨some, fits, rfl⟩ := h
  exact ⟨some, fits, rfl⟩

theorem reads_write (h : write field message = .ok written) (legible : Text.IsLegible message) :
    Decoder.Reads (read field) written (Text.kept message) := by
  obtain ⟨-, fits, rfl⟩ := write_eq_ok h
  apply (Decoder.reads_length field fits).bind
  apply (Decoder.reads_bytes (Text.encode message)).bind_nil
  rw [Text.strip_encode, if_neg (mt Text.kept_eq_empty_iff.mp (not_not.mpr legible))]
  exact Decoder.Reads.pure _

theorem refuses_write (h : write field message = .ok written)
    (illegible : ¬ Text.IsLegible message) : Decoder.Refuses (read field) written := by
  obtain ⟨-, fits, rfl⟩ := write_eq_ok h
  apply (Decoder.reads_length field fits).bind_refuses
  apply (Decoder.reads_bytes (Text.encode message)).bind_refuses_nil
  rw [Text.strip_encode, if_pos (Text.kept_eq_empty_iff.mpr illegible)]
  exact (Decoder.Refuses.throw _ []).bind_nil

end CommandMessage

namespace CommandRequest

def kept (body : CommandRequest) : CommandRequest where
  target := body.target.kept
  command := Text.kept body.command

theorem write_eq_ok {body : CommandRequest} {written : Bytes} (h : body.write = .ok written) :
    ∃ target command, body.target.write = .ok target ∧
      CommandMessage.write "command message" body.command = .ok command ∧
      written = target ++ command := by
  unfold write at h
  simp only [bind_eq_ok, pure_eq_ok] at h
  obtain ⟨target, ht, command, hc, rfl⟩ := h
  exact ⟨target, command, ht, hc, rfl⟩

theorem reads_write {body : CommandRequest} {written : Bytes} (h : body.write = .ok written)
    (legible : Text.IsLegible body.command) : Decoder.Reads read written body.kept := by
  obtain ⟨target, command, ht, hc, rfl⟩ := write_eq_ok h
  apply (CommandTarget.reads_write ht).bind
  exact (CommandMessage.reads_write hc legible).bind_nil (Decoder.Reads.pure body.kept)

theorem refuses_write {body : CommandRequest} {written : Bytes} (h : body.write = .ok written)
    (illegible : ¬ Text.IsLegible body.command) : Decoder.Refuses read written := by
  obtain ⟨target, command, ht, hc, rfl⟩ := write_eq_ok h
  apply (CommandTarget.reads_write ht).bind_refuses
  exact (CommandMessage.refuses_write hc illegible).bind_nil

end CommandRequest

namespace CommandResponse

def kept (body : CommandResponse) : CommandResponse where
  target := body.target.kept
  request := Text.kept body.request
  response := Text.kept body.response

theorem write_eq_ok {body : CommandResponse} {written : Bytes} (h : body.write = .ok written) :
    ∃ target request response, body.target.write = .ok target ∧
      CommandMessage.write "command request message" body.request = .ok request ∧
      CommandMessage.write "command response message" body.response = .ok response ∧
      written = target ++ request ++ response := by
  unfold write at h
  simp only [bind_eq_ok, pure_eq_ok] at h
  obtain ⟨target, ht, request, hq, response, hr, rfl⟩ := h
  exact ⟨target, request, response, ht, hq, hr, rfl⟩

theorem reads_write {body : CommandResponse} {written : Bytes} (h : body.write = .ok written)
    (request : Text.IsLegible body.request) (response : Text.IsLegible body.response) :
    Decoder.Reads read written body.kept := by
  obtain ⟨_, _, _, ht, hq, hr, rfl⟩ := write_eq_ok h
  rw [List.append_assoc]
  apply (CommandTarget.reads_write ht).bind
  apply (CommandMessage.reads_write hq request).bind
  exact (CommandMessage.reads_write hr response).bind_nil (Decoder.Reads.pure body.kept)

theorem refuses_write {body : CommandResponse} {written : Bytes} (h : body.write = .ok written)
    (illegible : ¬ (Text.IsLegible body.request ∧ Text.IsLegible body.response)) :
    Decoder.Refuses read written := by
  obtain ⟨_, _, response, ht, hq, hr, rfl⟩ := write_eq_ok h
  rw [List.append_assoc]
  apply (CommandTarget.reads_write ht).bind_refuses
  by_cases request : Text.IsLegible body.request
  · apply (CommandMessage.reads_write hq request).bind_refuses
    have unseen := fun legible => illegible ⟨request, legible⟩
    exact (CommandMessage.refuses_write hr unseen).bind_nil
  · exact (CommandMessage.refuses_write hq request).bind response

end CommandResponse

/-- What the wire can carry of a handshake without a change. -/
structure Handshake.IsCanonical (body : Handshake) : Prop where
  name : Text.IsPlain body.name
  type : Text.IsPlain body.type
  secondary : body.secondary ≠ some (.unspecified, 0)

theorem Handshake.IsCanonical.kept_eq {body : Handshake} (canonical : body.IsCanonical) :
    body.kept = body := by
  have secondary : body.secondary.filter (· ≠ (.unspecified, 0)) = body.secondary := by
    cases found : body.secondary with
    | none => rfl
    | some address =>
      have specified : address ≠ (.unspecified, 0) := by
        rintro rfl
        exact canonical.secondary found
      exact Option.filter_some_pos (decide_eq_true specified)
  rw [kept, Text.kept_of_plain canonical.name, Text.kept_of_plain canonical.type, secondary]

structure CommandTarget.IsCanonical (target : CommandTarget) : Prop where
  station : Text.IsPlain target.station
  site : Text.IsPlain target.site
  channel : Text.IsPlain target.channel
  location : Text.IsPlain target.location
  time : OrdinalDate.IsExact target.time

theorem CommandTarget.IsCanonical.kept_eq {target : CommandTarget}
    (canonical : target.IsCanonical) : target.kept = target := by
  rw [kept, Text.kept_of_plain canonical.station, Text.kept_of_plain canonical.site,
    Text.kept_of_plain canonical.channel, Text.kept_of_plain canonical.location,
    OrdinalDate.ofMillis_of_isExact canonical.time]

namespace Body

/-- What the wire keeps of a body that is not one of a DATA frame. -/
def kept : Body → Body
  | connectionRequest station => connectionRequest station.kept
  | connectionResponse responder => connectionResponse responder.kept
  | optionRequest setting => optionRequest setting.kept
  | optionResponse setting => optionResponse setting.kept
  | data frame => data frame
  | acknack acknowledgement => acknack acknowledgement.kept
  | alert message => alert (Text.kept message)
  | commandRequest request => commandRequest request.kept
  | commandResponse response => commandResponse response.kept
  | encapsulation payload => encapsulation payload
  | customReset payload => customReset payload

/-- The texts that must not be blank. -/
def messages : Body → List String
  | optionRequest setting | optionResponse setting => [setting.value]
  | alert message => [message]
  | commandRequest request => [request.command]
  | commandResponse response => [response.request, response.response]
  | _ => []

def IsLegible (body : Body) : Prop :=
  ∀ message ∈ body.messages, Text.IsLegible message

instance (body : Body) : Decidable body.IsLegible :=
  List.decidableBAll _ _

/-- What the wire can carry of a body without a change. -/
def IsCanonical : Body → Prop
  | connectionRequest station => station.IsCanonical
  | connectionResponse responder => responder.IsCanonical
  | optionRequest setting | optionResponse setting => Text.IsPlain setting.value
  | data frame => ∀ s ∈ frame.subframes, s.IsCanonical
  | acknack acknowledgement => Text.IsPlain acknowledgement.frameset
  | alert message => Text.IsPlain message
  | commandRequest request => request.target.IsCanonical ∧ Text.IsPlain request.command
  | commandResponse response => response.target.IsCanonical ∧
      Text.IsPlain response.request ∧ Text.IsPlain response.response
  | encapsulation _ | customReset _ => True

variable {body : Body} {written : Bytes}

theorem IsCanonical.kept_eq (canonical : body.IsCanonical) : body.kept = body := by
  cases body with
  | connectionRequest station => rw [kept, Handshake.IsCanonical.kept_eq canonical]
  | connectionResponse responder => rw [kept, Handshake.IsCanonical.kept_eq canonical]
  | optionRequest setting =>
    rw [kept, OptionSetting.kept, Text.kept_of_plain canonical]
  | optionResponse setting =>
    rw [kept, OptionSetting.kept, Text.kept_of_plain canonical]
  | data frame => rfl
  | acknack acknowledgement =>
    rw [kept, Acknowledgement.kept, Text.kept_of_plain canonical]
  | alert message => rw [kept, Text.kept_of_plain canonical]
  | commandRequest request =>
    rw [kept, CommandRequest.kept, canonical.1.kept_eq, Text.kept_of_plain canonical.2]
  | commandResponse response =>
    rw [kept, CommandResponse.kept, canonical.1.kept_eq, Text.kept_of_plain canonical.2.1,
      Text.kept_of_plain canonical.2.2]
  | encapsulation payload => rfl
  | customReset payload => rfl

/-- A blank message is refused before it is written. -/
theorem IsCanonical.isLegible (canonical : body.IsCanonical) (h : body.write = .ok written) :
    body.IsLegible := by
  have option {setting : OptionSetting} (plain : Text.IsPlain setting.value)
      (h : setting.write = .ok written) : Text.IsLegible setting.value := by
    obtain ⟨valid, -⟩ := OptionSetting.write_eq_ok h
    obtain ⟨-, some, -⟩ := OptionSetting.check_eq_ok.mp valid
    rw [Text.trim_of_plain plain, Ne, Text.size_eq_zero_iff] at some
    exact Text.isLegible_of_plain plain some
  have message {text : String} (plain : Text.IsPlain text) (some : Text.isBlankText text = false) :
      Text.IsLegible text := by
    apply Text.isLegible_of_plain plain
    rw [Ne, ← Text.isBlankText_iff plain, some]
    exact Bool.false_ne_true
  intro text member
  cases body with
  | optionRequest setting =>
    rw [List.mem_singleton.mp member]
    exact option canonical h
  | optionResponse setting =>
    rw [List.mem_singleton.mp member]
    exact option canonical h
  | alert text =>
    rw [List.mem_singleton.mp member]
    exact message canonical (Alert.write_eq_ok h).1
  | commandRequest request =>
    obtain ⟨_, _, -, hc, -⟩ := CommandRequest.write_eq_ok h
    rw [List.mem_singleton.mp member]
    exact message canonical.2 (CommandMessage.write_eq_ok hc).1
  | commandResponse response =>
    obtain ⟨_, _, _, -, hq, hr, -⟩ := CommandResponse.write_eq_ok h
    rcases List.mem_pair.mp member with rfl | rfl
    · exact message canonical.2.1 (CommandMessage.write_eq_ok hq).1
    · exact message canonical.2.2 (CommandMessage.write_eq_ok hr).1
  | _ => contradiction

/-- A legible body is read as far as it has been kept, to its last byte. -/
theorem reader_of_legible (control : body.type ≠ .data) (h : body.write = .ok written)
    (legible : body.IsLegible) : reader body.type written = .ok body.kept [] := by
  cases body with
  | connectionRequest station => exact ((Handshake.reads_write h).map connectionRequest).exact
  | connectionResponse responder =>
    exact ((Handshake.reads_write h).map connectionResponse).exact
  | optionRequest setting =>
    have text := legible _ List.mem_cons_self
    exact ((OptionSetting.reads_write h text).map optionRequest).exact
  | optionResponse setting =>
    have text := legible _ List.mem_cons_self
    exact ((OptionSetting.reads_write h text).map optionResponse).exact
  | data frame => exact absurd rfl control
  | acknack acknowledgement => exact ((Acknowledgement.reads_write h).map acknack).exact
  | alert message =>
    have text := legible _ List.mem_cons_self
    exact ((Alert.reads_write h text).map alert).exact
  | commandRequest request =>
    have text := legible _ List.mem_cons_self
    exact ((CommandRequest.reads_write h text).map commandRequest).exact
  | commandResponse response =>
    obtain ⟨request, others⟩ := List.forall_mem_cons.mp legible
    have text := others _ List.mem_cons_self
    exact ((CommandResponse.reads_write h request text).map commandResponse).exact
  | encapsulation payload =>
    obtain rfl := Except.ok.inj h
    rfl
  | customReset payload =>
    obtain rfl := Except.ok.inj h
    rfl

theorem reader_of_illegible (h : body.write = .ok written) (illegible : ¬ body.IsLegible) :
    ∃ reason left, reader body.type written = .error reason left := by
  simp only [IsLegible] at illegible
  cases body with
  | optionRequest setting =>
    rw [messages, List.forall_mem_singleton] at illegible
    exact (OptionSetting.refuses_write h illegible).bind_nil.exact
  | optionResponse setting =>
    rw [messages, List.forall_mem_singleton] at illegible
    exact (OptionSetting.refuses_write h illegible).bind_nil.exact
  | alert message =>
    rw [messages, List.forall_mem_singleton] at illegible
    exact (Alert.refuses_write h illegible).bind_nil.exact
  | commandRequest request =>
    rw [messages, List.forall_mem_singleton] at illegible
    exact (CommandRequest.refuses_write h illegible).bind_nil.exact
  | commandResponse response =>
    rw [messages, List.forall_mem_cons, List.forall_mem_singleton] at illegible
    exact (CommandResponse.refuses_write h illegible).bind_nil.exact
  | _ => exact absurd nofun illegible

/-- Nothing is odd about a legible body, but that an encapsulated frame is not looked into. -/
theorem read_of_legible (control : body.type ≠ .data) (h : body.write = .ok written)
    (legible : body.IsLegible) :
    read body.type written =
      (.ok body.kept, if body.type = .encapsulation then [.undecodedEncapsulation] else []) := by
  rw [read_eq control, reader_of_legible control h legible]
  simp

theorem read_of_illegible (control : body.type ≠ .data) (h : body.write = .ok written)
    (illegible : ¬ body.IsLegible) :
    ∃ reason notices, read body.type written = (.error reason, notices) := by
  obtain ⟨reason, left, failed⟩ := reader_of_illegible h illegible
  rw [read_eq control, failed]
  exact ⟨reason, _, rfl⟩

end Body

end ContinuousData
