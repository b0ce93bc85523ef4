import ContinuousData.Proofs.CanonicalReadings
import ContinuousData.Proofs.ConsumerFrames
import ContinuousData.Proofs.ControlFrames
import ContinuousData.Proofs.Disguises
import ContinuousData.Proofs.Handover

/-! What a consumer ignores. Bytes that form no frame are reported, and frames of some types are of
no use to it. But for that, a connection goes on as if they had never come in. Of the others, each
DATA frame is published, and for each OPTION_REQUEST an OPTION_RESPONSE is read by the peer. -/
namespace ContinuousData

namespace OptionSetting

/-- What was read can be written again. -/
theorem exists_write {setting : OptionSetting} (valid : setting.check = .ok ())
    (plain : Text.IsPlain setting.value) :
    ∃ written, setting.write = .ok written ∧ written.length ≤ 20 := by
  have short : (Text.encode setting.value).length ≤ 8 := by
    have fits := (check_eq_ok.mp valid).2.2
    rwa [Text.trim_of_plain plain] at fits
  obtain ⟨value, sized⟩ : ∃ value, Encoder.sized (Text.encode setting.value) = .ok value :=
    ⟨_, Encoder.sized_eq_ok.mpr ⟨short.trans (by decide), rfl⟩⟩
  refine ⟨Encoder.i32 1 ++ Encoder.i32 setting.type ++ value, ?_, ?_⟩
  · unfold write
    rw [valid, sized]
    rfl
  · have length := Encoder.length_sized sized
    unfold Bytes.aligned Bytes.padded Bytes.padding at length
    simp only [List.length_append, Encoder.length_i32]
    split at length <;> omega

end OptionSetting

/-- A setting that was asked for is valid, and the wire can carry it without a change. -/
theorem Frame.setting_of_parse {raw : Bytes} {frame : Frame} (parsed : (parse raw).1 = .ok frame)
    {setting : OptionSetting} (body : frame.body = .optionRequest setting) :
    setting.check = .ok () ∧ Text.IsPlain setting.value := by
  obtain ⟨rest, result⟩ := reader_of_parse parsed (by rw [body]; exact nofun)
  rw [body] at result
  obtain ⟨other, left, read, result⟩ := Decoder.bind_eq_ok.mp result
  obtain ⟨same, -⟩ := EStateM.Result.ok.inj result
  obtain rfl := Body.optionRequest.inj same
  exact OptionSetting.yields_read _ other left read

/-- A request that was parsed can be answered. -/
theorem Endpoint.IsBuilt.exists_optionResponse {endpoint : Endpoint} (built : endpoint.IsBuilt)
    {raw : Bytes} {frame : Frame} (parsed : (Frame.parse raw).1 = .ok frame)
    {setting : OptionSetting} (body : frame.body = .optionRequest setting) :
    ∃ response, endpoint.optionResponse setting = .ok response := by
  obtain ⟨valid, plain⟩ := Frame.setting_of_parse parsed body
  obtain ⟨written, encoded, short⟩ := OptionSetting.exists_write valid plain
  obtain ⟨response, made⟩ := @exists_frame endpoint built (.optionResponse setting) written
    encoded (Nat.add_le_add_left short _ |>.trans (by decide)) 0
  exact ⟨response, bind_eq_ok.mpr ⟨(), valid, made⟩⟩

/-- There is a request that comes back. -/
theorem Endpoint.exists_inquiry :
    ∃ request, standard.optionRequest ⟨1, "STA"⟩ = .ok request ∧
      request.body = .optionRequest ⟨1, "STA"⟩ ∧ (Frame.parse request.raw).1 = .ok request := by
  obtain ⟨middle, hm⟩ : ∃ middle, Body.write (.optionRequest ⟨1, "STA"⟩) = .ok middle := ⟨_, rfl⟩
  have length : middle.length = 16 := by
    obtain rfl := Except.ok.inj hm
    rfl
  have canonical : Body.IsCanonical (.optionRequest ⟨1, "STA"⟩) := by
    change Text.IsPlain "STA"
    decide
  obtain ⟨request, made, -, body, -, -, back, -⟩ := @Frame.parse_compose_of_isCanonical "TEST" "0"
    (.optionRequest ⟨1, "STA"⟩) middle [] nofun canonical (by decide) (by decide) (by decide)
    (by decide) hm (by rw [length]; decide) (by decide) 0 0 0
  exact ⟨request, made, body, congrArg Prod.fst back⟩

namespace Body

/-- The setting that an OPTION_REQUEST asks for. -/
def asked? : Body → Option OptionSetting
  | optionRequest setting => some setting
  | _ => none

/-- The setting that an OPTION_RESPONSE grants. -/
def granted? : Body → Option OptionSetting
  | optionResponse setting => some setting
  | _ => none

end Body

namespace Frame

variable {frame : Frame}

/-- The setting that the peer finds granted, which has only the bytes of the frame. -/
def granted? (frame : Frame) : Option OptionSetting :=
  (parse frame.raw).1.toOption.bind (·.body.granted?)

theorem granted?_eq_some {setting : OptionSetting} :
    frame.granted? = some setting ↔
      ∃ whole, (parse frame.raw).1 = .ok whole ∧ whole.body = .optionResponse setting := by
  unfold granted?
  cases parsed : (parse frame.raw).1 with
  | error broken => simp [Except.toOption]
  | ok whole => cases body : whole.body <;> simp [Except.toOption, Body.granted?, body]

/-- Nothing is granted by a frame of another type. -/
theorem IsEncoded.granted?_eq_none (h : frame.IsEncoded)
    (other : frame.body.type ≠ .optionResponse) : frame.granted? = none := by
  refine Option.eq_none_iff_forall_ne_some.mpr fun setting granted => ?_
  obtain ⟨whole, parsed, body⟩ := granted?_eq_some.mp granted
  have type := h.type_of_parse parsed
  rw [body] at type
  exact other type.symm

/-- A valid response grants what it says. -/
theorem IsEncoded.granted?_eq_some (h : frame.IsEncoded) {setting : OptionSetting}
    (body : frame.body = .optionResponse setting) (plain : Text.IsPlain setting.value) :
    frame.granted? = some setting := by
  have canonical : frame.body.IsCanonical := by rwa [body]
  obtain ⟨-, -, -, middle, written, -⟩ := encode_eq_ok.mp h
  have parsed := congrArg Prod.fst
    (parse_of_legible h (by rw [body]; exact nofun) (canonical.isLegible written))
  exact Frame.granted?_eq_some.mpr ⟨_, parsed, canonical.kept_eq.trans body⟩

end Frame

namespace Incoming

/-- What is not acted upon: what cannot be read as a frame, and frames that ask for nothing. Among
them are resets, where these are disabled. -/
def isIgnored (resetEnabled : Bool) : Incoming → Bool
  | malformed _ => true
  | frame whole =>
    match whole.body with
    | .connectionRequest _ | .connectionResponse _ | .commandRequest _ | .optionResponse _
    | .encapsulation _ => true
    | .customReset _ => !resetEnabled
    | _ => false

def malformed? : Incoming → Option PartialFrame
  | malformed broken => some broken
  | frame _ => none

theorem exists_parse {piece : Piece} {whole : Frame} (h : ofPiece piece = .frame whole) :
    ∃ raw, (Frame.parse raw).1 = .ok whole := by
  cases piece with
  | frame raw => exact ⟨raw, parse_of_ofPiece h⟩
  | garbage raw reason => exact nomatch h

end Incoming

namespace ReaderTask

/-- The DATA frame that is being published. -/
def offered : ReaderTask → List Frame
  | publishing frame => [frame]
  | _ => []

/-- What the answer grants that is being written. -/
def granted : ReaderTask → List OptionSetting
  | answering response => response.granted?.toList
  | _ => []

end ReaderTask

namespace Consumer

namespace Effect

/-- What is left where nothing comes in that is ignored. -/
def isHeard (resetEnabled : Bool) : Effect → Bool
  | handled incoming => !incoming.isIgnored resetEnabled
  | reported _ => false
  | _ => true

def reported? : Effect → Option PartialFrame
  | reported broken => some broken
  | _ => none

/-- The DATA frame that was published, with the outcome. -/
def published? : Effect → Option (Frame × Option Error)
  | published frame failure => some (frame, failure)
  | _ => none

def asked? : Effect → Option OptionSetting
  | handled (.frame whole) => whole.body.asked?
  | _ => none

/-- What is granted by an answer that has been written. -/
def answered? : Effect → Option OptionSetting
  | wrote frame true => frame.granted?
  | _ => none

end Effect

def publications (effects : List Effect) : List (Frame × Option Error) :=
  effects.filterMap Effect.published?

def asked (effects : List Effect) : List OptionSetting :=
  effects.filterMap Effect.asked?

def answers (effects : List Effect) : List OptionSetting :=
  effects.filterMap Effect.answered?

/-- An answer has been written if the peer reads it in the bytes. -/
theorem mem_answers {past : List Effect} {setting : OptionSetting} :
    setting ∈ answers past ↔ ∃ response whole, .wrote response true ∈ past ∧
      (Frame.parse response.raw).1 = .ok whole ∧ whole.body = .optionResponse setting := by
  constructor
  · intro member
    obtain ⟨effect, member, answered⟩ := List.mem_filterMap.mp member
    cases effect with
    | wrote response written =>
      cases written with
      | true =>
        obtain ⟨whole, parsed, body⟩ := Frame.granted?_eq_some.mp answered
        exact ⟨response, whole, member, parsed, body⟩
      | false => exact nomatch answered
    | _ => exact nomatch answered
  · rintro ⟨response, whole, member, parsed, body⟩
    exact List.mem_filterMap.mpr ⟨_, member, Frame.granted?_eq_some.mpr ⟨whole, parsed, body⟩⟩

/-- The second list lacks some of the events, in all of which something is read that is ignored. -/
inductive Hushed (resetEnabled : Bool) : List (Moment × Event) → List (Moment × Event) → Prop where
  | nil : Hushed resetEnabled [] []
  | kept (event : Moment × Event) {events fewer : List (Moment × Event)}
      (others : Hushed resetEnabled events fewer) :
      Hushed resetEnabled (event :: events) (event :: fewer)
  | dropped (moment : Moment) {incoming : Incoming} {events fewer : List (Moment × Event)}
      (ignored : incoming.isIgnored resetEnabled = true)
      (others : Hushed resetEnabled events fewer) :
      Hushed resetEnabled ((moment, .received incoming) :: events) fewer

variable {σ : Type} [GapStore σ] {consumer next now : Consumer σ} {moment : Moment} {event : Event}
  {events fewer : List (Moment × Event)} {past effects : List Effect}

/-- The provider is never found silent for too long. -/
def NeverSilent (consumer : Consumer σ) : List (Moment × Event) → Prop
  | [] => True
  | (moment, event) :: events =>
    (event = .contactDue → consumer.watching = true → ¬ consumer.IsSilentAt moment) ∧
      (consumer.step moment event).1.NeverSilent events

/-- As long as there is something to be read, the connection is not cancelled. -/
def NeverCancelled (consumer : Consumer σ) : List (Moment × Event) → Prop
  | [] => True
  | (moment, event) :: events =>
    (consumer.reader ≠ .finished → consumer.cancelled = false) ∧
      (consumer.step moment event).1.NeverCancelled events

theorem neverSilent_atOnce (consumer : Consumer σ) (events : List Event) :
    consumer.NeverSilent (atOnce events) := by
  induction events generalizing consumer with
  | nil => trivial
  | cons event events ih =>
    refine ⟨fun _ _ silent => ?_, ih _⟩
    rw [IsSilentAt, Nat.zero_sub] at silent
    exact Nat.not_lt_zero _ silent

theorem neverCancelled_cons (next : Consumer σ)
    (stepped : consumer.step moment event = (next, effects))
    (going : consumer.reader ≠ .finished → consumer.cancelled = false)
    (later : next.NeverCancelled events) : consumer.NeverCancelled ((moment, event) :: events) :=
  ⟨going, by rwa [stepped]⟩

/-- It is as if the provider had only been in contact. -/
theorem step_ignored {incoming : Incoming}
    (ignored : incoming.isIgnored consumer.config.resetEnabled = true) (moment : Moment) :
    ∃ contact effects,
      consumer.step moment (.received incoming) = (consumer.disguised .none contact, effects) ∧
        effects.filter (Effect.isHeard consumer.config.resetEnabled) = [] := by
  have move := consumer.moves_step moment (.received incoming)
  generalize consumer.step moment (.received incoming) = stepped at move ⊢
  obtain ⟨next, effects⟩ := stepped
  simp only [disguised_none]
  cases move
  case refused => exact ⟨_, _, rfl, rfl⟩
  case passedOver => exact ⟨_, _, rfl, by simp [Effect.isHeard, ignored]⟩
  case malformed => exact ⟨_, _, rfl, rfl⟩
  all_goals simp_all [Incoming.isIgnored]

theorem map_effect_none (effects : List Effect) : effects.map Disguise.none.effect = effects :=
  List.map_id'' Disguise.effect_none effects

/-- Without what is ignored, all that is heard comes about in the same way. -/
theorem run_hushed {resetEnabled : Bool} (hushed : Hushed resetEnabled events fewer)
    (same : consumer.config.resetEnabled = resetEnabled) (contact : Duration)
    (heard : consumer.NeverSilent events)
    (heardToo : (consumer.disguised .none contact).NeverSilent fewer) :
    ∃ later, ((consumer.disguised .none contact).run fewer).1 =
        (consumer.run events).1.disguised .none later ∧
      ((consumer.disguised .none contact).run fewer).2.filter (Effect.isHeard resetEnabled) =
        (consumer.run events).2.filter (Effect.isHeard resetEnabled) := by
  induction hushed generalizing consumer contact with
  | nil => exact ⟨contact, rfl, rfl⟩
  | @dropped moment incoming events fewer ignored others ih =>
    obtain ⟨before, effects, stepped, unheard⟩ := step_ignored (same ▸ ignored) moment
    rw [same] at unheard
    have heard : (consumer.disguised .none before).NeverSilent events := by
      have heard := heard.2
      rwa [stepped] at heard
    have again : (consumer.disguised .none before).disguised .none contact =
        consumer.disguised .none contact := by
      rw [disguised_none, disguised_none, disguised_none]
    rw [← again] at heardToo ⊢
    obtain ⟨later, state, others⟩ :=
      @ih (consumer.disguised .none before) same contact heard heardToo
    rw [run_cons, stepped, List.filter_append, unheard]
    exact ⟨later, state, others⟩
  | kept event others ih =>
    obtain ⟨moment, event⟩ := event
    obtain ⟨unsilent, heard⟩ := heard
    obtain ⟨unsilentToo, heardToo⟩ := heardToo
    obtain ⟨before, stepped, -⟩ := consumer.step_disguised .none contact moment event
      fun due watching => iff_of_false (unsilentToo due watching) (unsilent due watching)
    rw [Disguise.event_none, disguisedOutcome, map_effect_none] at stepped
    rw [stepped] at heardToo
    have config := (consumer.moves_step moment event).config_eq
    obtain ⟨later, state, others⟩ := ih (config ▸ same) before heard heardToo
    rw [run_cons, run_cons, stepped, List.filter_append, List.filter_append, others]
    exact ⟨later, state, rfl⟩

theorem publications_append (past effects : List Effect) :
    publications (past ++ effects) = publications past ++ publications effects :=
  List.filterMap_append

theorem asked_append (past effects : List Effect) :
    asked (past ++ effects) = asked past ++ asked effects :=
  List.filterMap_append

theorem answers_append (past effects : List Effect) :
    answers (past ++ effects) = answers past ++ answers effects :=
  List.filterMap_append

/-- What a step reports is what it reads that is no frame. -/
theorem Moves.reported (move : consumer.Moves moment event next effects) :
    effects.filterMap Effect.reported? =
      (effects.filterMap Effect.handled?).filterMap Incoming.malformed? := by
  have silent := @filterMap_persist σ _ _ Effect.reported? (fun _ _ => rfl) consumer
  have unread := @filterMap_persist σ _ _ Effect.handled? (fun _ _ => rfl) consumer
  cases move
  case closedSilently =>
    rw [List.filterMap_append, List.filterMap_append, silent, unread]
    rfl
  case drained | stopped => rw [silent, unread]; rfl
  all_goals rfl

/-- A DATA frame that is read is published in the end, unless the connection is cancelled. -/
theorem Moves.offered (move : consumer.Moves moment event next effects)
    (coherent : consumer.IsCoherent)
    (going : consumer.reader ≠ .finished → consumer.cancelled = false) :
    consumer.reader.offered ++ taken effects =
      (publications effects).map Prod.fst ++ next.reader.offered := by
  obtain ⟨none, -⟩ := isAside_persist consumer
  have unpublished : publications consumer.persist.2 = [] :=
    filterMap_persist (fun _ _ => rfl) consumer
  cases move
  case accepted idle _ => rw [coherent.finished_of_idle idle]; rfl
  case unpublished publishing cancelled =>
    exact nomatch (going (publishing ▸ nofun)).symm.trans cancelled
  case closedSilently =>
    rw [taken_append, publications_append, none, unpublished]
    exact List.append_nil _
  case drained | stopped =>
    rw [none, unpublished]
    exact List.append_nil _
  case passedOver waiting passed =>
    simp [taken, Effect.taken?, passed.type_ne, publications, Effect.published?]
  all_goals
    clear none unpublished
    simp_all [taken, Effect.taken?, publications, Effect.published?, ReaderTask.offered, Body.type,
      List.filterMap_cons]

/-- An OPTION_REQUEST that is read is answered in the end, if it was parsed and can be written. -/
theorem Moves.granted (move : consumer.Moves moment event next effects)
    (coherent : consumer.IsCoherent) (writes : consumer.WritesInKind)
    (read : ∀ incoming, event = .received incoming → ∃ piece, incoming = .ofPiece piece)
    (written : event ≠ .answered false) :
    consumer.reader.granted ++ asked effects = answers effects ++ next.reader.granted := by
  have unasked : asked consumer.persist.2 = [] := filterMap_persist (fun _ _ => rfl) consumer
  have unanswered : answers consumer.persist.2 = [] := filterMap_persist (fun _ _ => rfl) consumer
  cases move
  case accepted idle _ => rw [coherent.finished_of_idle idle]; rfl
  case unanswered => exact absurd rfl written
  case closedSilently =>
    rw [asked_append, answers_append, unasked, unanswered]
    exact List.append_nil _
  case drained | stopped =>
    rw [unasked, unanswered]
    exact List.append_nil _
  case passedOver frame waiting passed =>
    have useless : frame.body.asked? = none := by
      obtain ⟨piece, same⟩ := read _ rfl
      obtain ⟨raw, parsed⟩ := Incoming.exists_parse same.symm
      cases body : frame.body with
      | optionRequest setting =>
        obtain ⟨response, made⟩ := writes.built.exists_optionResponse parsed body
        rw [IsPassedOver, body] at passed
        exact absurd made (passed response)
      | _ => rfl
    simp [asked, Effect.asked?, useless, answers, Effect.answered?]
  case acknackWritten frame writing =>
    have ungranted := (writes.encoded frame (.inl writing)).granted?_eq_none
      ((writes.acknack frame writing).trans_ne (by decide))
    simp [asked, Effect.asked?, answers, Effect.answered?, ungranted]
  case farewellWritten alert parted leaving =>
    have ungranted := (writes.encoded alert (.inr (.inr leaving))).granted?_eq_none
      (by rw [writes.farewell alert leaving]; decide)
    cases parted <;>
      simp [asked, Effect.asked?, answers, Effect.answered?, ungranted, List.filterMap_cons]
  case optionRequest frame response setting waiting body made =>
    obtain ⟨piece, same⟩ := read _ rfl
    obtain ⟨raw, parsed⟩ := Incoming.exists_parse same.symm
    have granted := (Endpoint.isEncoded_of_optionResponse made).granted?_eq_some
      (Endpoint.body_of_optionResponse made) (Frame.setting_of_parse parsed body).2
    simp [asked, Effect.asked?, waiting, body, Body.asked?, answers, Effect.answered?,
      ReaderTask.granted, granted]
  case answered response answering =>
    rw [answering]
    change response.granted?.toList ++ [] = [Effect.wrote response true].filterMap _ ++ []
    cases granted : response.granted? <;> simp [Effect.answered?, granted]
  all_goals
    clear unasked unanswered
    simp_all [asked, Effect.asked?, Body.asked?, answers, Effect.answered?, ReaderTask.granted,
      List.filterMap_cons]

/-- How far a consumer has dealt with what it has read. -/
structure DealsWith (consumer : Consumer σ) (past : List Effect) : Prop where
  coherent : consumer.IsCoherent
  writes : consumer.WritesInKind
  reported : past.filterMap Effect.reported? =
    (past.filterMap Effect.handled?).filterMap Incoming.malformed?
  offered : taken past = (publications past).map Prod.fst ++ consumer.reader.offered
  granted : asked past = answers past ++ consumer.reader.granted

theorem DealsWith.move (h : consumer.DealsWith past)
    (going : consumer.reader ≠ .finished → consumer.cancelled = false)
    (read : ∀ incoming, event = .received incoming → ∃ piece, incoming = .ofPiece piece)
    (written : event ≠ .answered false) (move : consumer.Moves moment event next effects) :
    next.DealsWith (past ++ effects) where
  coherent := h.coherent.move move
  writes := h.writes.move move
  reported := by
    rw [List.filterMap_append, List.filterMap_append, List.filterMap_append, h.reported,
      move.reported]
  offered := by
    rw [taken_append, publications_append, h.offered, List.append_assoc,
      move.offered h.coherent going, List.map_append, List.append_assoc]
  granted := by
    rw [asked_append, answers_append, h.granted, List.append_assoc,
      move.granted h.coherent h.writes read written, List.append_assoc]

theorem DealsWith.run (h : consumer.DealsWith past) (going : consumer.NeverCancelled events)
    (read : ∀ moment incoming, (moment, .received incoming) ∈ events →
      ∃ piece, incoming = .ofPiece piece)
    (written : ∀ moment, (moment, .answered false) ∉ events) :
    (consumer.run events).1.DealsWith (past ++ (consumer.run events).2) := by
  induction events generalizing consumer past with
  | nil => rwa [run, Machine.run_nil, List.append_nil]
  | cons event events ih =>
    obtain ⟨moment, event⟩ := event
    obtain ⟨now, later⟩ := going
    have next := h.move now (fun incoming same => read moment incoming (same ▸ .head _))
      (fun same => written moment (same ▸ .head _)) (consumer.moves_step moment event)
    rw [run_cons, ← List.append_assoc]
    exact ih next later (fun moment incoming member => read moment incoming (.tail _ member))
      fun moment member => written moment (.tail _ member)

/-- What is selected of the effects that are heard is not touched by what is not. -/
theorem filterMap_heard {α : Type} {select : Effect → Option α} {resetEnabled : Bool}
    (unheard : ∀ effect, effect.isHeard resetEnabled = false → select effect = none)
    {effects others : List Effect}
    (same : effects.filter (Effect.isHeard resetEnabled) =
      others.filter (Effect.isHeard resetEnabled)) :
    effects.filterMap select = others.filterMap select := by
  have all (effects : List Effect) : effects.filterMap select =
      (effects.filter (Effect.isHeard resetEnabled)).filterMap select := by
    rw [List.filterMap_filter]
    refine List.filterMap_congr fun effect _ => ?_
    split
    case isTrue => rfl
    case isFalse deaf => exact unheard effect (Bool.not_eq_true _ ▸ deaf)
  rw [all effects, all others, same]

/-- What is ignored makes no difference, wherever it comes in between other frames, as long as the
provider is never found silent. Tracker, store and frame set are the same without it, and so is
whatever else is done, up to the point at which the connection drains. Only what cannot be read as a
frame is reported, each time that it comes in. Each DATA frame is published once, and each
OPTION_REQUEST is answered once: the setting that it asks for is read by the peer in the bytes of one
frame. All that is written are the bytes of frames. -/
theorem ignores_noise {config : ConsumerConfig} {store : σ} {started consumer : Consumer σ}
    {before : List (Moment × Event)} {earlier : List Effect}
    (bound : bind config store = .ok started) (reached : started.run before = (consumer, earlier))
    (idle : consumer.isIdle = true) {events fewer : List (Moment × Event)}
    (hushed : Hushed consumer.config.resetEnabled events fewer)
    (read : ∀ moment incoming, (moment, .received incoming) ∈ events →
      ∃ piece, incoming = .ofPiece piece)
    (heard : consumer.NeverSilent events) (heardToo : consumer.NeverSilent fewer)
    (going : consumer.NeverCancelled events)
    (written : ∀ moment, (moment, .answered false) ∉ events)
    {now other : Consumer σ} {past less : List Effect} (ran : consumer.run events = (now, past))
    (ranToo : consumer.run fewer = (other, less)) :
    (∃ lastContact, other = { now with lastContact }) ∧
      less.filter (Effect.isHeard consumer.config.resetEnabled) =
        past.filter (Effect.isHeard consumer.config.resetEnabled) ∧
      publications less = publications past ∧ answers less = answers past ∧
      past.filterMap Effect.reported? =
        (past.filterMap Effect.handled?).filterMap Incoming.malformed? ∧
      taken past = (publications past).map Prod.fst ++ now.reader.offered ∧
      asked past = answers past ++ now.reader.granted ∧
      ∀ frame written, .wrote frame written ∈ past → frame.IsEncoded := by
  have writes := (writesInKind_of_bind bound).run before
  have coherent := (isCoherent_of_bind bound).run before
  rw [reached] at writes coherent
  have finished := coherent.finished_of_idle idle
  have nothing : consumer.DealsWith [] :=
    ⟨coherent, writes, rfl, by rw [finished]; rfl, by rw [finished]; rfl⟩
  have deals := nothing.run going read written
  have unmoved : consumer.disguised .none consumer.lastContact = consumer := by rw [disguised_none]
  obtain ⟨lastContact, state, effects⟩ :=
    run_hushed hushed rfl consumer.lastContact heard (unmoved.symm ▸ heardToo)
  rw [unmoved, ranToo, ran] at state effects
  rw [ran] at deals
  have encoded {frame : Frame} {written : Bool} (wrote : .wrote frame written ∈ past) :
      frame.IsEncoded := writes.encoded_of_run events (by rwa [ran])
  refine ⟨⟨lastContact, state.trans (disguised_none ..)⟩, effects, ?_, ?_, deals.reported,
    deals.offered, deals.granted, fun _ _ => encoded⟩
  · refine filterMap_heard (fun effect deaf => ?_) effects
    cases effect <;> first | rfl | exact nomatch deaf
  · refine filterMap_heard (fun effect deaf => ?_) effects
    cases effect <;> first | rfl | exact nomatch deaf

/-- Bytes that form no frame come in before a request and before a DATA frame. The peer reads the
response from its bytes. -/
theorem ignores_noise_before_data :
    ∃ request frame broken now past other less response whole,
      Endpoint.standard.optionRequest ⟨1, "STA"⟩ = .ok request ∧
      Endpoint.standard.data [Endpoint.silence 40] 7 = .ok frame ∧
      fresh.run (atOnce [.accepted, .received (.malformed broken), .received (.frame request),
        .answered true, .received (.malformed broken), .received (.frame frame), .published none,
        .contactDue]) = (now, past) ∧
      fresh.run (atOnce [.accepted, .received (.frame request), .answered true,
        .received (.frame frame), .published none, .contactDue]) = (other, less) ∧
      other.tracker = now.tracker ∧ publications less = publications past ∧
      answers less = answers past ∧ publications past = [(frame, none)] ∧
      past.filterMap Effect.reported? = [broken, broken] ∧ answers past = [⟨1, "STA"⟩] ∧
      .wrote response true ∈ past ∧ (Frame.parse response.raw).1 = .ok whole ∧
      whole.body = .optionResponse ⟨1, "STA"⟩ := by
  obtain ⟨frame, content, sent, -, body, back⟩ := Endpoint.exists_silence 7
  obtain ⟨request, asks, question, arrived⟩ := Endpoint.exists_inquiry
  obtain ⟨broken, garbage⟩ : ∃ broken,
      Incoming.ofPiece (.garbage [] (.unknownFrameType 0)) = .malformed broken := ⟨_, rfl⟩
  obtain ⟨header, _, trailer, raw⟩ := frame
  obtain rfl := body
  obtain ⟨head, _, tail, bytes⟩ := request
  obtain rfl := question
  obtain ⟨events, noisy⟩ : ∃ events, events = atOnce [.accepted, .received (.malformed broken),
      .received (.frame ⟨head, .optionRequest ⟨1, "STA"⟩, tail, bytes⟩), .answered true,
      .received (.malformed broken), .received (.frame ⟨header, .data content, trailer, raw⟩),
      .published none, .contactDue] := ⟨_, rfl⟩
  obtain ⟨fewer, quiet⟩ : ∃ fewer, fewer = atOnce [.accepted,
      .received (.frame ⟨head, .optionRequest ⟨1, "STA"⟩, tail, bytes⟩), .answered true,
      .received (.frame ⟨header, .data content, trailer, raw⟩), .published none, .contactDue] :=
    ⟨_, rfl⟩
  have hushed : Hushed true events fewer := by
    rw [noisy, quiet]
    exact .kept _ (.dropped _ rfl (.kept _ (.kept _ (.dropped _ rfl
      (.kept _ (.kept _ (.kept _ .nil)))))))
  have heard : fresh.NeverSilent events := noisy ▸ neverSilent_atOnce fresh _
  have heardToo : fresh.NeverSilent fewer := quiet ▸ neverSilent_atOnce fresh _
  have going : fresh.NeverCancelled events := by
    rw [noisy]
    refine neverCancelled_cons serving rfl (fun _ => rfl) ?_
    refine neverCancelled_cons serving rfl (fun _ => rfl) ?_
    refine neverCancelled_cons _ rfl (fun _ => rfl) ?_
    refine neverCancelled_cons serving rfl (fun _ => rfl) ?_
    refine neverCancelled_cons serving rfl (fun _ => rfl) ?_
    exact ⟨fun _ => rfl, fun _ => rfl, fun _ => rfl, trivial⟩
  have written : ∀ moment, (moment, .answered false) ∉ events := by simp [noisy, atOnce]
  have read : ∀ moment incoming, (moment, .received incoming) ∈ events →
      ∃ piece, incoming = .ofPiece piece := by
    intro moment incoming member
    rw [noisy] at member
    simp only [atOnce, List.map_cons, List.map_nil, List.mem_cons, Prod.mk.injEq, reduceCtorEq,
      and_false, false_or, List.not_mem_nil, or_false, Event.received.injEq] at member
    rcases member with ⟨-, rfl⟩ | ⟨-, rfl⟩ | ⟨-, rfl⟩ | ⟨-, rfl⟩
    · exact ⟨_, garbage.symm⟩
    · exact ⟨_, (Incoming.ofPiece_of_parse arrived).symm⟩
    · exact ⟨_, garbage.symm⟩
    · exact ⟨_, (Incoming.ofPiece_of_parse back).symm⟩
  obtain ⟨now, past, ran⟩ : ∃ now past, fresh.run events = (now, past) := ⟨_, _, rfl⟩
  obtain ⟨other, less, ranToo⟩ : ∃ other less, fresh.run fewer = (other, less) := ⟨_, _, rfl⟩
  obtain ⟨⟨lastContact, same⟩, -, publications, answered, -, -, granted, -⟩ :=
    @ignores_noise _ _ _ _ _ _ [] _ bind_fresh rfl rfl _ _ hushed read heard heardToo going written
      _ _ _ _ ran ranToo
  rw [noisy] at ran
  rw [quiet] at ranToo
  have idle : now.reader.granted = [] := by
    obtain rfl := congrArg Prod.fst ran
    rfl
  have question : asked past = [⟨1, "STA"⟩] := by
    obtain rfl := congrArg Prod.snd ran
    rfl
  rw [idle, List.append_nil, question] at granted
  have member : ⟨1, "STA"⟩ ∈ answers past := granted ▸ .head _
  obtain ⟨response, whole, wrote, parsed, setting⟩ := mem_answers.mp member
  refine ⟨_, _, broken, now, past, other, less, response, whole, asks, sent, ran, ranToo, ?_,
    publications, answered, ?_, ?_, granted.symm, wrote, parsed, setting⟩
  · rw [same]
  · obtain rfl := congrArg Prod.snd ran
    rfl
  · obtain rfl := congrArg Prod.snd ran
    rfl

end Consumer

end ContinuousData
