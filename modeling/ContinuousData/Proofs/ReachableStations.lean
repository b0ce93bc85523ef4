import ContinuousData.Proofs.CanonicalReadings
import ContinuousData.Proofs.ChecksumBlindness
import ContinuousData.Proofs.Redirections

/-! Which stations are told an address. A request takes up eighty-four bytes at least, and the name
in it comes off the wire without NUL characters, without white space at its ends and with eight
bytes at most. A station that is registered under any other name, or with a manager that takes no
frames of that length, asks in vain. -/
namespace ContinuousData

namespace Decoder

variable {α : Type}

theorem spans_ofExcept (result : Except Error α) : Spans (ofExcept result) 0 := by
  intro input value rest read
  obtain ⟨rfl, rfl⟩ := ofExcept_eq_ok read
  exact ⟨[], rfl, rfl, Reads.ofExcept rfl⟩

theorem spans_i16 : Spans i16 2 :=
  (spans_number .i16).map _

theorem spans_u16 : Spans u16 2 :=
  (spans_number .u16).map _

theorem spans_u32 : Spans u32 4 :=
  (spans_number .u32).map _

end Decoder

namespace Handshake

theorem spans_read : Decoder.Spans read width :=
  Decoder.spans_i16.bind fun _ => Decoder.spans_i16.bind fun _ =>
    (Decoder.spans_text nameWidth).bind fun _ => (Decoder.spans_text typeWidth).bind fun _ =>
      (Decoder.spans_text serviceWidth).bind fun _ => (Decoder.spans_ofExcept _).bind fun _ =>
        Decoder.spans_u32.bind fun _ => Decoder.spans_u16.bind fun _ =>
          Decoder.spans_u32.bind fun _ => Decoder.spans_u16.bind fun _ =>
            (Decoder.spans_ofExcept _).map _

/-- The name that a handshake is read with. -/
theorem name_of_read {input rest : Bytes} {body : Handshake} (h : read input = .ok body rest) :
    Text.IsPlain body.name ∧ Text.size body.name ≤ nameWidth := by
  obtain ⟨valid, canonical⟩ := yields_read input body rest h
  exact ⟨canonical.name, (check_eq_ok.mp valid).2.1⟩

end Handshake

namespace Splitter

/-- No frame is longer than the splitter is told to take. -/
theorem length_le_of_mem_pieces {limit : Nat} {buffer raw : Bytes}
    (found : .frame raw ∈ (pieces limit buffer).1) : raw.length ≤ limit := by
  fun_induction pieces limit buffer with
  | case1 buffer waiting => exact absurd found List.not_mem_nil
  | case2 buffer piece rest cut others left same ih =>
    rw [same] at ih
    rcases List.mem_cons.mp found with rfl | later
    · exact length_le_of_next cut
    · exact ih later

theorem length_le_of_mem_feedAll {limit : Nat} {buffer raw : Bytes} {chunks : List Bytes}
    (found : .frame raw ∈ (feedAll limit buffer chunks).1) : raw.length ≤ limit := by
  induction chunks generalizing buffer with
  | nil => exact absurd found List.not_mem_nil
  | cons chunk chunks ih =>
    rw [feedAll, feed] at found
    rcases List.mem_append.mp found with now | later
    · exact length_le_of_mem_pieces now
    · exact ih later

/-- A frame that is sent alone comes out of the stream. -/
theorem feedAll_of_hasEnds {limit : Nat} {raw : Bytes} {header : Header} {trailer : Trailer}
    (short : raw.length ≤ limit) (ends : Frame.HasEnds raw header trailer) :
    .frame raw ∈ (feedAll limit [] [raw]).1 := by
  have cut := (@next_append_iff limit raw [] short).mpr ⟨header, trailer, ends⟩
  rw [List.append_nil] at cut
  rw [feedAll, feed, List.nil_append, pieces_of_some cut]
  exact List.mem_append_left _ List.mem_cons_self

end Splitter

namespace Frame

/-- What is parsed of a request comes from its own field of the frame. -/
theorem request_of_parse {raw : Bytes} {whole : Frame} {request : Handshake}
    (parsed : (parse raw).1 = .ok whole) (body : whole.body = .connectionRequest request) :
    Text.IsPlain request.name ∧ Text.size request.name ≤ Handshake.nameWidth ∧
      84 ≤ raw.length := by
  obtain ⟨rest, result⟩ := reader_of_parse parsed (by rw [body]; exact nofun)
  rw [body] at result
  obtain ⟨found, left, read, result⟩ := Decoder.bind_eq_ok.mp result
  obtain ⟨same, -⟩ := EStateM.Result.ok.inj result
  obtain rfl := Body.connectionRequest.inj same
  obtain ⟨plain, short⟩ := Handshake.name_of_read read
  refine ⟨plain, short, ?_⟩
  obtain ⟨-, ends, -⟩ := parse_eq_ok parsed
  obtain ⟨taken, length, split, -⟩ := Handshake.spans_read _ _ _ read
  -- header and handshake are inside the frame, in front of a trailer of sixteen bytes at least
  have inner := congrArg List.length split
  have inside := ends.inside
  have total := ends.length_eq
  rw [middle, List.length_drop, List.length_take_of_le inside, List.length_append, length] at inner
  unfold Handshake.width Header.width at inner
  unfold Trailer.wireLength Trailer.lengthFor Trailer.fixedWidth Trailer.checksumWidth at total
  omega

end Frame

namespace Registration

variable {registration : Registration}

/-- A request can bear the name of the station. -/
def IsExpressible (registration : Registration) : Prop :=
  Text.IsPlain registration.station ∧ Text.size registration.station ≤ Handshake.nameWidth

instance (registration : Registration) : Decidable registration.IsExpressible :=
  inferInstanceAs (Decidable (_ ∧ _))

/-- A request with no more in it than the name of the station. -/
def inquiry (registration : Registration) : Handshake :=
  ⟨0, 0, registration.station, "", .tcp, .unspecified, 0, none⟩

theorem IsExpressible.exists_request (expressible : registration.IsExpressible) :
    ∃ raw whole request, raw.length = 84 ∧ (Frame.parse raw).1 = .ok whole ∧
      whole.body = .connectionRequest request ∧ request.name = registration.station := by
  have valid : registration.inquiry.check = .ok () :=
    Handshake.check_eq_ok.mpr
      ⟨⟨Int16.le_refl 0, Int16.le_refl 0⟩, expressible.2, Nat.zero_le _⟩
  obtain ⟨written, hm⟩ := Handshake.exists_write valid
  have width := Handshake.length_write hm
  obtain ⟨frame, made⟩ := @Frame.exists_compose "" "" 0 0
    (.connectionRequest registration.inquiry) written [] 0 hm
    (by rw [width]; decide) (by decide) (by decide) (by decide)
  have encoded := Frame.encode_of_compose made
  obtain ⟨_, hm', raw, -, rfl⟩ := Frame.compose_eq_ok.mp made
  obtain rfl := Except.ok.inj (hm.symm.trans hm')
  have parsed := congrArg Prod.fst (Frame.parse_of_legible encoded nofun nofun)
  obtain ⟨-, ends, -⟩ := Frame.parse_eq_ok parsed
  refine ⟨Checksum.patch raw, _, registration.inquiry.kept, ?_, parsed, rfl,
    Text.kept_of_plain expressible.1⟩
  calc (Checksum.patch raw).length
    _ = Header.width + written.length + 16 := ends.length_eq
    _ = 84 := by rw [width]; rfl

end Registration

/-- A station, whose name has nine bytes. -/
def ManagerConfig.ofLong : ManagerConfig where
  stations := [⟨"STATION01", .v4 ⟨0x0A000005⟩ 8101, true⟩]

namespace Manager

variable {config : ManagerConfig} {manager : Manager}

/-- A request that comes out of the bytes sent on a connection, and what is read of the bytes that it
is answered with. -/
inductive Exchanges (manager : Manager) (chunks : List Bytes) : Handshake → Handshake → Prop
  | intro {raw : Bytes} {whole answer told : Frame} {request response : Handshake}
      (arrives : .frame raw ∈ (Splitter.feedAll manager.config.maxFrameSize [] chunks).1)
      (parsed : (Frame.parse raw).1 = .ok whole) (asks : whole.body = .connectionRequest request)
      (answered : manager.answer (.frame whole) = .ok (some answer))
      (arrived : (Frame.parse answer.raw).1 = .ok told)
      (tells : told.body = .connectionResponse response) :
      Exchanges manager chunks request response

/-- Whoever gets an answer has asked under the name of a registered station that a request can
bear. -/
theorem Exchanges.exists_registration (bound : bind config = .ok manager) {chunks : List Bytes}
    {request response : Handshake} (h : manager.Exchanges chunks request response) :
    84 ≤ config.maxFrameSize ∧ ∃ registration ∈ config.stations, registration.acquired = true ∧
      registration.station = request.name ∧ registration.address = .v4 response.ip response.port ∧
      Text.IsPlain request.name ∧ Text.size request.name ≤ Handshake.nameWidth := by
  obtain ⟨arrives, parsed, asks, answered, arrived, tells⟩ := h
  rename_i raw whole answer told
  obtain ⟨plain, short, long⟩ := Frame.request_of_parse parsed asks
  have taken := Splitter.length_le_of_mem_feedAll arrives
  rw [(bind_eq_ok bound).1] at taken
  refine ⟨long.trans taken, ?_⟩
  rcases answer_cases bound (.frame whole) with
    ⟨registration, member, asked, -, ip, port, frame, address, redirects, made⟩ | ⟨-, silent⟩
  · obtain ⟨acquired, name⟩ := (Registration.isAsked_iff asks).mp asked
    obtain rfl := Option.some.inj (Except.ok.inj (made.symm.trans answered))
    rw [redirects.accepted] at arrived
    obtain rfl := Except.ok.inj arrived
    rw [Frame.kept, redirects.body] at tells
    obtain rfl := Body.connectionResponse.inj tells
    exact ⟨registration, member, acquired, name.symm, address, plain, short⟩
  · rw [silent] at answered
    exact nomatch answered

/-- If a request can bear the name of a station, one is answered. -/
theorem exists_exchange (bound : bind config = .ok manager) (room : 84 ≤ config.maxFrameSize)
    {registration : Registration} (member : registration ∈ config.stations)
    (acquired : registration.acquired = true) (expressible : registration.IsExpressible) :
    ∃ raw request response, manager.Exchanges [raw] request response ∧
      request.name = registration.station ∧
      registration.address = .v4 response.ip response.port := by
  obtain ⟨raw, whole, request, length, parsed, asks, name⟩ := expressible.exists_request
  obtain ⟨-, ends, -⟩ := Frame.parse_eq_ok parsed
  have fits : raw.length ≤ manager.config.maxFrameSize := by
    rw [length, (bind_eq_ok bound).1]
    exact room
  have asked := (Registration.isAsked_iff asks).mpr ⟨acquired, name⟩
  rcases answer_cases bound (.frame whole) with
    ⟨other, -, -, only, ip, port, answer, address, redirects, answered⟩ | ⟨unasked, -⟩
  · obtain rfl := only registration member asked
    have arrived : (Frame.parse answer.raw).1 = .ok answer.kept := by rw [redirects.accepted]
    have tells : answer.kept.body = .connectionResponse (config.handshake ip port).kept := by
      rw [Frame.kept, redirects.body]
      rfl
    exact ⟨raw, request, _, .intro (Splitter.feedAll_of_hasEnds fits ends) parsed asks answered
      arrived tells, name, address⟩
  · exact absurd asked (unasked registration member)

/-- A station is told its address exactly if a request can bear its name, and its address is told to
anyone exactly if a request can bear the name of a station with the same address. -/
theorem told_iff (bound : bind config = .ok manager) {registration : Registration}
    (member : registration ∈ config.stations) (acquired : registration.acquired = true) :
    ((∃ chunks request response, manager.Exchanges chunks request response ∧
        request.name = registration.station ∧
        registration.address = .v4 response.ip response.port) ↔
      84 ≤ config.maxFrameSize ∧ registration.IsExpressible) ∧
    ((∃ chunks request response, manager.Exchanges chunks request response ∧
        registration.address = .v4 response.ip response.port) ↔
      84 ≤ config.maxFrameSize ∧ ∃ other ∈ config.stations, other.acquired = true ∧
        other.address = registration.address ∧ other.IsExpressible) := by
  refine ⟨⟨?_, ?_⟩, ⟨?_, ?_⟩⟩
  · rintro ⟨chunks, request, response, exchange, name, -⟩
    obtain ⟨room, _, -, -, -, -, expressible⟩ := exchange.exists_registration bound
    rw [name] at expressible
    exact ⟨room, expressible⟩
  · rintro ⟨room, expressible⟩
    obtain ⟨raw, request, response, exchange, told⟩ :=
      exists_exchange bound room member acquired expressible
    exact ⟨[raw], request, response, exchange, told⟩
  · rintro ⟨chunks, request, response, exchange, told⟩
    obtain ⟨room, other, there, wanted, name, address, expressible⟩ :=
      exchange.exists_registration bound
    rw [← name] at expressible
    exact ⟨room, other, there, wanted, address.trans told.symm, expressible⟩
  · rintro ⟨room, other, there, wanted, same, expressible⟩
    obtain ⟨raw, request, response, exchange, -, told⟩ :=
      exists_exchange bound room there wanted expressible
    exact ⟨[raw], request, response, exchange, same ▸ told⟩

/-- A station with a name of its own length. -/
theorem told_iff_short :
    ∃ manager registration, bind .ofTwo = .ok manager ∧
      registration ∈ ManagerConfig.ofTwo.stations ∧ registration.acquired = true ∧
      ∃ chunks request response, manager.Exchanges chunks request response ∧
        request.name = "STA01" ∧ registration.address = .v4 response.ip response.port := by
  obtain ⟨manager, bound⟩ : ∃ manager, bind .ofTwo = .ok manager := ⟨_, rfl⟩
  have told := (told_iff bound List.mem_cons_self rfl).1.mpr ⟨by decide, by decide⟩
  exact ⟨manager, _, bound, List.mem_cons_self, rfl, told⟩

/-- A station whose name is one byte too long. -/
theorem untold_long :
    ∃ manager registration, bind .ofLong = .ok manager ∧
      registration ∈ ManagerConfig.ofLong.stations ∧ registration.acquired = true ∧
      ¬ ∃ chunks request response, manager.Exchanges chunks request response ∧
        registration.address = .v4 response.ip response.port := by
  obtain ⟨manager, bound⟩ : ∃ manager, bind .ofLong = .ok manager := ⟨_, rfl⟩
  refine ⟨manager, _, bound, List.mem_cons_self, rfl, ?_⟩
  rintro ⟨chunks, request, response, exchange, -⟩
  obtain ⟨-, other, there, -, name, -, -, short⟩ := exchange.exists_registration bound
  obtain rfl := List.mem_singleton.mp there
  rw [← name] at short
  exact absurd short (by decide)

end Manager

end ContinuousData
