import ContinuousData.Manager.Basic
import ContinuousData.Proofs.ConsumerFrames
import ContinuousData.Proofs.ControlFrames

/-! What a connection manager answers. Each request of a station from which data is wanted is
answered with the station's address, whether or not its checksum is valid; nothing else is. All
answers can be made and sent, so that a connection ends only with what comes in. -/
namespace ContinuousData

namespace Handshake

/-- The length of a handshake on the wire. -/
def width : Nat := 32

theorem length_write {body : Handshake} {written : Bytes} (h : body.write = .ok written) :
    written.length = width := by
  obtain ⟨-, name, type, service, hn, ht, hs, rfl⟩ := write_eq_ok h
  simp only [List.length_append, Encoder.length_i16, Encoder.length_u16, Encoder.length_u32,
    Encoder.length_text hn, Encoder.length_text ht, Encoder.length_text hs]
  rfl

theorem exists_write {body : Handshake} (valid : body.check = .ok ()) :
    ∃ written, body.write = .ok written := by
  obtain ⟨-, name, type⟩ := check_eq_ok.mp valid
  have service : Text.size body.service.text ≤ serviceWidth := by
    cases body.service <;> decide
  unfold write
  rw [valid, Encoder.text_of_size name, Encoder.text_of_size type, Encoder.text_of_size service]
  exact ⟨_, rfl⟩

end Handshake

namespace Endpoint

variable {endpoint : Endpoint}

/-- The identity of an endpoint fits into a handshake. -/
theorem Fits.check_handshake (fits : endpoint.Fits) (ip : Ipv4) (port : UInt16)
    (secondary : Option (Ipv4 × UInt16)) :
    (endpoint.handshake ip port secondary).check = .ok () :=
  Handshake.check_eq_ok.mpr ⟨fits.version, fits.responderName, fits.responderType⟩

/-- A frame with a handshake can be made, whatever the addresses are. -/
theorem IsBuilt.exists_handshake (built : endpoint.IsBuilt) {body : Handshake → Body}
    (write : ∀ handshake, (body handshake).write = handshake.write) (ip : Ipv4) (port : UInt16)
    (secondary : Option (Ipv4 × UInt16)) :
    ∃ frame, endpoint.controlFrame (body (endpoint.handshake ip port secondary)) = .ok frame := by
  obtain ⟨written, hw⟩ := Handshake.exists_write (built.fits.check_handshake ip port secondary)
  have width := Handshake.length_write hw
  exact built.exists_frame ((write _).trans hw) (by rw [width]; decide) 0

end Endpoint

namespace Registration

/-- What comes in is a request of this station, from which data is wanted. -/
def IsAsked (registration : Registration) (incoming : Incoming) : Prop :=
  registration.acquired = true ∧ ∃ frame request, incoming = .frame frame ∧
    frame.body = .connectionRequest request ∧ request.name = registration.station

theorem isAsked_iff {registration : Registration} {frame : Frame} {request : Handshake}
    (body : frame.body = .connectionRequest request) :
    registration.IsAsked (.frame frame) ↔
      registration.acquired = true ∧ request.name = registration.station := by
  constructor
  · rintro ⟨acquired, other, found, same, body', name⟩
    obtain rfl := Incoming.frame.inj same
    obtain rfl := Body.connectionRequest.inj (body.symm.trans body')
    exact ⟨acquired, name⟩
  · rintro ⟨acquired, name⟩
    exact ⟨acquired, frame, request, rfl, body, name⟩

theorem not_isAsked {registration : Registration} {frame : Frame}
    (body : ∀ request, frame.body ≠ .connectionRequest request) :
    ¬ registration.IsAsked (.frame frame) := by
  rintro ⟨-, other, request, same, found, -⟩
  obtain rfl := Incoming.frame.inj same
  exact body request found

end Registration

namespace ManagerConfig

variable {config : ManagerConfig}

/-- What a provider is told that is sent to an address. -/
def handshake (config : ManagerConfig) (ip : Ipv4) (port : UInt16) : Handshake where
  major := config.endpoint.major
  minor := config.endpoint.minor
  name := config.endpoint.responderName
  type := config.endpoint.responderType
  service := config.endpoint.service
  ip := ip
  port := port
  secondary := none

/-- A CONNECTION_RESPONSE that sends a provider to an address, and that its peer can read. -/
structure Redirects (config : ManagerConfig) (ip : Ipv4) (port : UInt16) (frame : Frame) :
    Prop where
  header : frame.header = ⟨.connectionResponse, Header.width + Handshake.width,
    config.endpoint.creator, config.endpoint.destination, 0, 0⟩
  body : frame.body = .connectionResponse (config.handshake ip port)
  trailer : frame.trailer = ⟨config.endpoint.authKeyId, [], Checksum.compute frame.raw⟩
  encoded : Frame.encode frame.header frame.body frame.trailer = .ok frame.raw
  valid : frame.hasValidChecksum = true
  accepted : Frame.parse frame.raw = (.ok frame.kept, [])

/-- What is to be sent for all that comes in on a connection, in order. -/
inductive Answers (config : ManagerConfig) : List Incoming → List Frame → Prop
  | ended : Answers config [] []
  | redirected {registration : Registration} {incoming : Incoming} {ip : Ipv4} {port : UInt16}
      {frame : Frame} {incomings : List Incoming} {frames : List Frame}
      (registered : registration ∈ config.stations) (asked : registration.IsAsked incoming)
      (only : ∀ other ∈ config.stations, other.IsAsked incoming → other = registration)
      (address : registration.address = .v4 ip port) (redirects : config.Redirects ip port frame)
      (later : Answers config incomings frames) :
      Answers config (incoming :: incomings) (frame :: frames)
  | ignored {incoming : Incoming} {incomings : List Incoming} {frames : List Frame}
      (unasked : ∀ registration ∈ config.stations, ¬ registration.IsAsked incoming)
      (later : Answers config incomings frames) : Answers config (incoming :: incomings) frames

/-- Two stations, from one of which data is wanted. -/
def ofTwo : ManagerConfig where
  stations := [⟨"STA01", .v4 ⟨0x0A000005⟩ 8101, true⟩, ⟨"STA02", .v4 ⟨0x0A000006⟩ 8102, false⟩]

theorem checkStations_eq_ok {seen : List String} {stations : List Registration} :
    checkStations seen stations = .ok () ↔
      (∀ registration ∈ stations, Text.isBlankText registration.station = false ∧
        registration.address.isV4 = true ∧ registration.station ∉ seen) ∧
      (stations.map (·.station)).Nodup := by
  induction stations generalizing seen with
  | nil => simp [checkStations, pure_eq_ok]
  | cons registration others ih =>
    unfold checkStations
    dsimp only
    simp only [refuse_eq_ok, require_eq_ok, ih, List.mem_cons, not_or, List.map_cons,
      List.nodup_cons, List.mem_map, not_exists, not_and, Bool.not_eq_true]
    constructor
    · rintro ⟨named, reachable, new, each, distinct⟩
      refine ⟨?_, fun other member => (each other member).2.2.1, distinct⟩
      rintro other (rfl | member)
      · exact ⟨named, reachable, new⟩
      · obtain ⟨named, reachable, -, new⟩ := each other member
        exact ⟨named, reachable, new⟩
    · rintro ⟨each, apart, distinct⟩
      obtain ⟨named, reachable, new⟩ := each registration (.inl rfl)
      refine ⟨named, reachable, new, fun other member => ?_, distinct⟩
      obtain ⟨named, reachable, new⟩ := each other (.inr member)
      exact ⟨named, reachable, apart other member, new⟩

end ManagerConfig

namespace Manager

variable {config : ManagerConfig} {manager : Manager}

/-- What a manager has been told and has found to be in order. -/
theorem bind_eq_ok (bound : bind config = .ok manager) :
    manager.config = config ∧ Endpoint.ofSettings config.endpoint = .ok manager.endpoint ∧
      (∀ registration ∈ config.stations, Text.isBlankText registration.station = false ∧
        registration.address.isV4 = true) ∧ (config.stations.map (·.station)).Nodup := by
  obtain ⟨_, checked, rest⟩ := ContinuousData.bind_eq_ok.mp bound
  obtain ⟨endpoint, built, made⟩ := ContinuousData.bind_eq_ok.mp rest
  obtain ⟨each, distinct⟩ := ManagerConfig.checkStations_eq_ok.mp checked
  obtain rfl := pure_eq_ok.mp made
  exact ⟨rfl, built, fun registration member =>
    ⟨(each registration member).1, (each registration member).2.1⟩, distinct⟩

/-- A station is registered once at most. -/
theorem acquired?_eq_some_iff (distinct : (manager.config.stations.map (·.station)).Nodup)
    {station : String} {registration : Registration} :
    manager.acquired? station = some registration ↔
      registration ∈ manager.config.stations ∧ registration.station = station ∧
        registration.acquired = true := by
  unfold acquired?
  constructor
  · intro found
    obtain ⟨first, acquired⟩ := Option.filter_eq_some_iff.mp found
    exact ⟨List.mem_of_find?_eq_some first, by simpa using List.find?_some first, acquired⟩
  · rintro ⟨member, rfl, acquired⟩
    refine Option.filter_eq_some_iff.mpr ⟨?_, acquired⟩
    cases first : manager.config.stations.find? (·.station = registration.station) with
    | none => simpa using List.find?_eq_none.mp first registration member
    | some other =>
      have same : other.station = registration.station := by simpa using List.find?_some first
      rw [List.inj_on_of_nodup_map distinct (List.mem_of_find?_eq_some first) member same]

/-- The answer that sends a provider to an address can always be made, and is read by its peer. -/
theorem exists_response (bound : bind config = .ok manager) (ip : Ipv4) (port : UInt16) :
    ∃ frame, manager.response (.v4 ip port) = .ok frame ∧ config.Redirects ip port frame := by
  obtain ⟨-, settings, -, -⟩ := bind_eq_ok bound
  have built := Endpoint.IsBuilt.ofSettings settings
  obtain ⟨frame, made⟩ :=
    @Endpoint.IsBuilt.exists_handshake _ built .connectionResponse (fun _ => rfl) ip port none
  refine ⟨frame, made, ?_⟩
  have encoded := Frame.encode_of_compose made
  obtain ⟨trailer, valid⟩ := Frame.checksum_of_compose made
  obtain ⟨middle, hm, _, -, rfl⟩ := Frame.compose_eq_ok.mp made
  have width : middle.length = Handshake.width := Handshake.length_write hm
  obtain ⟨_, endpoint⟩ := manager
  obtain ⟨-, frameset, rfl⟩ := Endpoint.eq_of_ofSettings settings
  refine ⟨?_, rfl, trailer, encoded, valid, Frame.parse_of_legible encoded nofun nofun⟩
  rw [width]
  rfl

theorem answer_of_request {frame : Frame} {request : Handshake}
    (body : frame.body = .connectionRequest request) :
    manager.answer (.frame frame) =
      match manager.acquired? request.name with
      | some registration => some <$> manager.response registration.address
      | none => return none := by
  cases frame
  obtain rfl := body
  rfl

theorem answer_of_other {frame : Frame}
    (body : ∀ request, frame.body ≠ .connectionRequest request) :
    manager.answer (.frame frame) = .ok none := by
  unfold answer
  dsimp only
  split
  case h_1 request found => exact absurd found (body request)
  case h_2 => rfl

/-- What comes in asks for one station at most. If it does, there is an answer to send. -/
theorem answer_cases (bound : bind config = .ok manager) (incoming : Incoming) :
    (∃ registration ∈ config.stations, registration.IsAsked incoming ∧
        (∀ other ∈ config.stations, other.IsAsked incoming → other = registration) ∧
        ∃ ip port frame, registration.address = .v4 ip port ∧ config.Redirects ip port frame ∧
          manager.answer incoming = .ok (some frame)) ∨
      (∀ registration ∈ config.stations, ¬ registration.IsAsked incoming) ∧
        manager.answer incoming = .ok none := by
  have response := exists_response bound
  obtain ⟨rfl, -, each, distinct⟩ := bind_eq_ok bound
  cases incoming with
  | malformed broken =>
    refine .inr ⟨?_, rfl⟩
    rintro registration - ⟨-, frame, request, same, -⟩
    exact nomatch same
  | frame frame =>
    by_cases asks : ∃ request, frame.body = .connectionRequest request
    · obtain ⟨request, body⟩ := asks
      rw [answer_of_request body]
      simp only [Registration.isAsked_iff body]
      cases found : manager.acquired? request.name with
      | none =>
        refine .inr ⟨?_, rfl⟩
        rintro registration member ⟨acquired, name⟩
        rw [(acquired?_eq_some_iff distinct).mpr ⟨member, name.symm, acquired⟩] at found
        exact nomatch found
      | some registration =>
        obtain ⟨member, name, acquired⟩ := (acquired?_eq_some_iff distinct).mp found
        refine .inl ⟨registration, member, ⟨acquired, name.symm⟩, ?_, ?_⟩
        · rintro other there ⟨-, same⟩
          exact List.inj_on_of_nodup_map distinct there member (same.symm.trans name.symm)
        · cases address : registration.address with
          | v4 ip port =>
            obtain ⟨answer, made, redirects⟩ := response ip port
            refine ⟨ip, port, answer, rfl, redirects, ?_⟩
            dsimp only
            rw [address, made]
            rfl
          | v6 text =>
            have reachable := (each registration member).2
            rw [address] at reachable
            exact nomatch reachable
    · have body : ∀ request, frame.body ≠ .connectionRequest request := not_exists.mp asks
      exact .inr ⟨fun _ _ => Registration.not_isAsked body, answer_of_other body⟩

/-- A connection is served for as long as anything comes in. What is sent are the answers to the
requests of stations from which data is wanted; what is wrong with what came in is only logged. -/
theorem serve_answers (bound : bind config = .ok manager) (incomings : List Incoming) :
    (manager.serve incomings).failure = none ∧
      config.Answers incomings (manager.serve incomings).sent ∧
      (manager.serve incomings).complaints = incomings.filterMap complaint? := by
  induction incomings with
  | nil => exact ⟨rfl, .ended, rfl⟩
  | cons incoming others ih =>
    obtain ⟨going, answers, complaints⟩ := ih
    have complained : (complaint? incoming).toList ++ others.filterMap complaint? =
        (incoming :: others).filterMap complaint? := by
      rw [List.filterMap_cons]
      cases complaint? incoming <;> rfl
    unfold serve
    -- every answer can be made, so the connection goes on to what comes in next
    rcases answer_cases bound incoming with
      ⟨registration, member, asked, only, ip, port, frame, address, redirects, made⟩ |
      ⟨unasked, silent⟩
    · rw [made]
      refine ⟨going, .redirected member asked only address redirects answers, ?_⟩
      dsimp only
      rw [complaints, complained]
    · rw [silent]
      refine ⟨going, .ignored unasked answers, ?_⟩
      dsimp only
      rw [complaints, complained]

def requestHeader : Header :=
  ⟨.connectionRequest, 68, "STA", "DC", 0, 0⟩

/-- A request under a name. -/
def asking (name : String) : Body :=
  .connectionRequest ⟨0, 1, name, "IMS", .tcp, ⟨0x7F000001⟩, 4000, none⟩

/-- Both ask, the first of them after bytes that are no frame and before a wish to end. -/
theorem serve_answers_two :
    ∃ manager first second alert broken, bind .ofTwo = .ok manager ∧
      Frame.compose "STA" "DC" 0 0 (asking "STA01") 0 [] = .ok first ∧
      Frame.compose "STA" "DC" 0 0 (asking "STA02") 0 [] = .ok second ∧
      Endpoint.standard.alert "bye" = .ok alert ∧
      (manager.serve [.malformed broken, .frame first, .frame alert, .frame second]).failure =
        none ∧
      ManagerConfig.ofTwo.Answers [.malformed broken, .frame first, .frame alert, .frame second]
        (manager.serve [.malformed broken, .frame first, .frame alert, .frame second]).sent ∧
      (manager.serve [.malformed broken, .frame first, .frame alert, .frame second]).sent.length =
        1 := by
  obtain ⟨manager, bound⟩ : ∃ manager, bind .ofTwo = .ok manager := ⟨_, rfl⟩
  obtain ⟨first, hf⟩ : ∃ first, Frame.compose "STA" "DC" 0 0 (asking "STA01") 0 [] = .ok first :=
    ⟨_, rfl⟩
  obtain ⟨second, hs⟩ : ∃ second,
      Frame.compose "STA" "DC" 0 0 (asking "STA02") 0 [] = .ok second := ⟨_, rfl⟩
  obtain ⟨alert, ha⟩ : ∃ alert, Endpoint.standard.alert "bye" = .ok alert := ⟨_, rfl⟩
  obtain ⟨going, answers, -⟩ := serve_answers bound [.malformed ⟨none, none, none,
    .emptyAlert, []⟩, .frame first, .frame alert, .frame second]
  refine ⟨manager, first, second, alert, _, bound, hf, hs, ha, going, answers, ?_⟩
  obtain rfl := Except.ok.inj bound
  obtain rfl := Except.ok.inj hf
  obtain rfl := Except.ok.inj hs
  obtain rfl := Except.ok.inj ha
  rfl

set_option maxRecDepth 20000 in
/-- A request with a wrong checksum is answered like any other. -/
theorem serve_damaged_request :
    ∃ manager raw whole, bind .ofTwo = .ok manager ∧
      Frame.encode requestHeader (asking "STA01") ⟨0, [], 0⟩ = .ok raw ∧
      Incoming.ofPiece (.frame raw) = .frame whole ∧ whole.hasValidChecksum = false ∧
      (manager.serve [.frame whole]).sent ≠ [] := by
  obtain ⟨manager, bound⟩ : ∃ manager, bind .ofTwo = .ok manager := ⟨_, rfl⟩
  obtain ⟨raw, encoded⟩ : ∃ raw, Frame.encode requestHeader (asking "STA01") ⟨0, [], 0⟩ = .ok raw :=
    ⟨_, rfl⟩
  have back := @Frame.parse_of_legible ⟨requestHeader, asking "STA01", ⟨0, [], 0⟩, raw⟩ encoded
    nofun nofun
  refine ⟨manager, raw, _, bound, encoded,
    Incoming.ofPiece_of_parse (congrArg Prod.fst back), ?_, ?_⟩
  · have damaged : (Frame.encode requestHeader (asking "STA01") ⟨0, [], 0⟩).map Checksum.isValid =
        .ok false := by decide +kernel
    rw [encoded] at damaged
    exact Except.ok.inj damaged
  · obtain rfl := Except.ok.inj bound
    obtain rfl := Except.ok.inj encoded
    exact nofun

end Manager

end ContinuousData
