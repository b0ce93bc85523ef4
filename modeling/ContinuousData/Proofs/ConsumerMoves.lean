import ContinuousData.Consumer.Run
import ContinuousData.Proofs.DataFrames

/-! What a consumer can do at a step, with the guard of each possibility. Everything that is kept
over the steps is proved by cases of these moves. -/
namespace ContinuousData

namespace Consumer

variable {σ : Type} [GapStore σ]

theorem persist_of_some {consumer : Consumer σ} {state : GapState}
    (tracked : consumer.tracker.toState = some state) :
    consumer.persist =
      ({ consumer with
         store := (GapStore.store consumer.store consumer.config.station state).2 },
        [.stored state
          (failure? (GapStore.store consumer.store consumer.config.station state).1)]) := by
  rw [persist, tracked]
  rfl

theorem persist_of_none {consumer : Consumer σ} (empty : consumer.tracker.toState = none) :
    consumer.persist = (consumer, []) := by
  rw [persist, empty]

/-- Nothing but the store changes. -/
theorem persist_fst (consumer : Consumer σ) :
    consumer.persist.1 = { consumer with store := consumer.persist.1.store } := by
  cases tracked : consumer.tracker.toState with
  | some state => rw [persist_of_some tracked]
  | none => rw [persist_of_none tracked]

theorem persist_stopped (consumer : Consumer σ) (stopped : Bool) :
    { consumer with stopped }.persist =
      ({ consumer.persist.1 with stopped }, consumer.persist.2) := by
  cases tracked : consumer.tracker.toState with
  | some state =>
    rw [persist_of_some tracked]
    exact persist_of_some tracked
  | none =>
    rw [persist_of_none tracked]
    exact persist_of_none tracked

theorem mem_persist {consumer : Consumer σ} {effect : Effect} (h : effect ∈ consumer.persist.2) :
    ∃ state failure, consumer.tracker.toState = some state ∧ effect = .stored state failure := by
  cases tracked : consumer.tracker.toState with
  | some state =>
    rw [persist_of_some tracked] at h
    exact ⟨state, _, rfl, List.mem_singleton.mp h⟩
  | none =>
    rw [persist_of_none tracked] at h
    exact absurd h List.not_mem_nil

/-- What is stored at the end of a connection. -/
theorem persist_subset_finish (consumer : Consumer σ) : consumer.persist.2 ⊆ consumer.finish.2 := by
  unfold finish
  dsimp only
  split
  case h_1 => exact List.Subset.refl _
  case h_2 => exact List.subset_append_left _ _

/-- Frames that ask for nothing, or for what is not to be done. -/
def IsPassedOver (consumer : Consumer σ) (frame : Frame) : Prop :=
  match frame.body with
  | .data _ | .acknack _ | .commandResponse _ | .alert _ => False
  | .optionRequest setting => ∀ response, consumer.endpoint.optionResponse setting ≠ .ok response
  | .customReset _ => consumer.config.resetEnabled = false
  | .connectionRequest _ | .connectionResponse _ | .optionResponse _ | .commandRequest _
  | .encapsulation _ => True

/-- The outcomes of a step, each with the state and the effects that it leads to. -/
inductive Moves (consumer : Consumer σ) (moment : Moment) :
    Event → Consumer σ → List Effect → Prop where
  /-- Nothing happens where an event cannot. -/
  | refused {event : Event} : Moves consumer moment event consumer []
  | accepted (idle : consumer.isIdle = true) (going : consumer.stopping = false) :
      Moves consumer moment .accepted
        { consumer with
          state := .connected, reader := .waiting, acknack := .waiting, watching := true
          keeper := .waiting, cancelled := false, lastContact := moment.uptime, farewell := none }
        [.entered .connecting, .entered .connected]
  | data {frame : Frame} {content : DataFrame} (waiting : consumer.reader = .waiting)
      (body : frame.body = .data content) :
      Moves consumer moment (.received (.frame frame))
        { consumer with
          lastContact := moment.uptime
          tracker := consumer.tracker.add frame.sequence moment.wall, reader := .publishing frame }
        [.handled (.frame frame)]
  | peerAcknack {frame : Frame} {acknowledgement : Acknowledgement}
      (waiting : consumer.reader = .waiting) (body : frame.body = .acknack acknowledgement) :
      Moves consumer moment (.received (.frame frame))
        { consumer with
          lastContact := moment.uptime
          endpoint := consumer.endpoint.adoptFrameset acknowledgement.frameset
          reader := .comparing acknowledgement.highest }
        [.handled (.frame frame)]
  | commandResponse {frame : Frame} {response : CommandResponse}
      (waiting : consumer.reader = .waiting) (body : frame.body = .commandResponse response) :
      Moves consumer moment (.received (.frame frame))
        { consumer with
          lastContact := moment.uptime
          tracker := consumer.tracker.add frame.sequence moment.wall }
        [.handled (.frame frame)]
  | optionRequest {frame response : Frame} {setting : OptionSetting}
      (waiting : consumer.reader = .waiting) (body : frame.body = .optionRequest setting)
      (made : consumer.endpoint.optionResponse setting = .ok response) :
      Moves consumer moment (.received (.frame frame))
        { consumer with lastContact := moment.uptime, reader := .answering response }
        [.handled (.frame frame)]
  | peerAlert {frame : Frame} {message : String} (waiting : consumer.reader = .waiting)
      (body : frame.body = .alert message) :
      Moves consumer moment (.received (.frame frame))
        { consumer with
          lastContact := moment.uptime, state := .draining, reader := .finished, cancelled := true }
        [.handled (.frame frame), .entered .draining]
  | customReset {frame : Frame} {payload : Bytes} (waiting : consumer.reader = .waiting)
      (body : frame.body = .customReset payload) (enabled : consumer.config.resetEnabled = true) :
      Moves consumer moment (.received (.frame frame))
        { consumer with
          lastContact := moment.uptime
          store := (GapStore.remove consumer.store consumer.config.station).2
          reader := .resetting }
        [.handled (.frame frame),
          .removed (failure? (GapStore.remove consumer.store consumer.config.station).1)]
  | passedOver {frame : Frame} (waiting : consumer.reader = .waiting)
      (passed : consumer.IsPassedOver frame) :
      Moves consumer moment (.received (.frame frame))
        { consumer with lastContact := moment.uptime } [.handled (.frame frame)]
  | malformed {broken : PartialFrame} (waiting : consumer.reader = .waiting) :
      Moves consumer moment (.received (.malformed broken))
        { consumer with lastContact := moment.uptime }
        [.handled (.malformed broken), .reported broken]
  | readEnded (waiting : consumer.reader = .waiting) :
      Moves consumer moment .readEnded
        { consumer with state := .draining, reader := .finished, cancelled := true }
        [.entered .draining]
  | published {frame : Frame} {failure : Option Error}
      (publishing : consumer.reader = .publishing frame) :
      Moves consumer moment (.published failure) { consumer with reader := .waiting }
        [.published frame failure]
  | unpublished {frame : Frame} (publishing : consumer.reader = .publishing frame)
      (cancelled : consumer.cancelled = true) :
      Moves consumer moment .publicationAbandoned { consumer with reader := .waiting }
        [.unpublished frame]
  | compared {peerHighest : UInt64} (comparing : consumer.reader = .comparing peerHighest) :
      Moves consumer moment .compared
        { consumer with
          tracker := consumer.tracker.forgetIfOutdated peerHighest, reader := .waiting } []
  | answered {response : Frame} (answering : consumer.reader = .answering response) :
      Moves consumer moment (.answered true) { consumer with reader := .waiting }
        [.wrote response true]
  | unanswered {response : Frame} (answering : consumer.reader = .answering response) :
      Moves consumer moment (.answered false)
        { consumer with state := .draining, reader := .finished, cancelled := true }
        [.wrote response false, .entered .draining]
  | trackerReset (resetting : consumer.reader = .resetting) :
      Moves consumer moment .trackerReset
        { consumer with
          tracker := .empty, state := .draining, reader := .finished, cancelled := true }
        [.entered .draining]
  | acknackDue {frame : Frame} (waiting : consumer.acknack = .waiting)
      (made : consumer.endpoint.acknackOf consumer.tracker = .ok frame) :
      Moves consumer moment .acknackDue { consumer with acknack := .writing frame } []
  | acknackFailed {reason : Error} (waiting : consumer.acknack = .waiting)
      (failed : consumer.endpoint.acknackOf consumer.tracker = .error reason) :
      Moves consumer moment .acknackDue
        { consumer with acknack := .finished, cancelled := true } []
  | acknackWritten {frame : Frame} (writing : consumer.acknack = .writing frame) :
      Moves consumer moment (.acknackWritten true) { consumer with acknack := .waiting }
        [.wrote frame true]
  | acknackLost {frame : Frame} (writing : consumer.acknack = .writing frame) :
      Moves consumer moment (.acknackWritten false)
        { consumer with acknack := .finished, cancelled := true } [.wrote frame false]
  | acknackEnded (waiting : consumer.acknack = .waiting) (cancelled : consumer.cancelled = true) :
      Moves consumer moment .acknackEnded { consumer with acknack := .finished } []
  | contactLost (watching : consumer.watching = true)
      (silent : consumer.config.expiryLimit < moment.uptime - consumer.lastContact) :
      Moves consumer moment .contactDue { consumer with watching := false, cancelled := true } []
  | watchEnded (watching : consumer.watching = true) (cancelled : consumer.cancelled = true) :
      Moves consumer moment .watchEnded { consumer with watching := false } []
  | gapsExpired {age : Duration} (waiting : consumer.keeper = .waiting)
      (expires : consumer.config.gapExpiration = some age) :
      Moves consumer moment .storeDue
        { consumer with
          tracker := consumer.tracker.expire (moment.wall - (age : Nat)), keeper := .expired } []
  | gapsKept (waiting : consumer.keeper = .waiting)
      (keeps : consumer.config.gapExpiration = none) :
      Moves consumer moment .storeDue { consumer with keeper := .expired } []
  | stateTaken {state : GapState} (expired : consumer.keeper = .expired)
      (tracked : consumer.tracker.toState = some state) :
      Moves consumer moment .stateTaken { consumer with keeper := .holding state } []
  | noneTaken (expired : consumer.keeper = .expired) (empty : consumer.tracker.toState = none) :
      Moves consumer moment .stateTaken { consumer with keeper := .waiting } []
  | stateStored {state : GapState} (holding : consumer.keeper = .holding state) :
      Moves consumer moment .stateStored
        { consumer with
          keeper := .waiting
          store := (GapStore.store consumer.store consumer.config.station state).2 }
        [.stored state (failure? (GapStore.store consumer.store consumer.config.station state).1)]
  | keepingEnded (waiting : consumer.keeper = .waiting) (cancelled : consumer.cancelled = true) :
      Moves consumer moment .keepingEnded { consumer with keeper := .finished } []
  | drained {alert : Frame} (drained : consumer.isDrained = true)
      (made : consumer.endpoint.alert farewellMessage = .ok alert) :
      Moves consumer moment .drained
        { consumer with store := consumer.persist.1.store, farewell := some alert }
        consumer.persist.2
  | closedSilently {reason : Error} (drained : consumer.isDrained = true)
      (failed : consumer.endpoint.alert farewellMessage = .error reason) :
      Moves consumer moment .drained
        { consumer with store := consumer.persist.1.store, state := .closed, farewell := none }
        (consumer.persist.2 ++ [.alertFailed reason, .entered .closed])
  | farewellWritten {alert : Frame} {written : Bool} (leaving : consumer.farewell = some alert) :
      Moves consumer moment (.farewellWritten written)
        { consumer with state := .closed, farewell := none }
        [.wrote alert written, .entered .closed]
  | shutdown :
      Moves consumer moment .shutdown { consumer with stopping := true, cancelled := true } []
  | stopped (idle : consumer.isIdle = true) (stopping : consumer.stopping = true)
      (running : consumer.stopped = false) :
      Moves consumer moment .stopped
        { consumer with store := consumer.persist.1.store, stopped := true } consumer.persist.2

section Steps

variable (consumer : Consumer σ) (moment : Moment)

theorem moves_handleFrame (frame : Frame) (waiting : consumer.reader = .waiting) :
    consumer.Moves moment (.received (.frame frame))
      ({ consumer with lastContact := moment.uptime }.handleFrame moment frame).1
      (.handled (.frame frame) ::
        ({ consumer with lastContact := moment.uptime }.handleFrame moment frame).2) := by
  unfold handleFrame
  cases body : frame.body with
  | data content => exact .data waiting body
  | acknack acknowledgement => exact .peerAcknack waiting body
  | commandResponse response => exact .commandResponse waiting body
  | alert message => exact .peerAlert waiting body
  | optionRequest setting =>
    cases made : consumer.endpoint.optionResponse setting with
    | ok response => simpa [made] using Moves.optionRequest waiting body made
    | error reason =>
      have passed : consumer.IsPassedOver frame := by simp [IsPassedOver, body, made]
      simpa [made] using Moves.passedOver waiting passed
  | customReset payload =>
    by_cases enabled : consumer.config.resetEnabled = true
    · simpa [enabled] using Moves.customReset waiting body enabled
    · have passed : consumer.IsPassedOver frame := by simpa [IsPassedOver, body] using enabled
      simpa [enabled] using Moves.passedOver waiting passed
  | connectionRequest _ | connectionResponse _ | optionResponse _ | commandRequest _
  | encapsulation _ => exact .passedOver waiting (by simp [IsPassedOver, body])

theorem moves_stepReader {event : Event} :
    consumer.Moves moment event (consumer.stepReader moment event).1
      (consumer.stepReader moment event).2 := by
  unfold stepReader
  cases reader : consumer.reader with
  | waiting =>
    cases event with
    | received incoming =>
      cases incoming with
      | frame frame => exact consumer.moves_handleFrame moment frame reader
      | malformed broken => exact .malformed reader
    | readEnded => exact .readEnded reader
    | _ => exact .refused
  | publishing frame =>
    cases event with
    | published failure => exact .published reader
    | publicationAbandoned =>
      dsimp only
      split
      case isTrue cancelled => exact .unpublished reader cancelled
      case isFalse => exact .refused
    | _ => exact .refused
  | comparing peerHighest =>
    cases event with
    | compared => exact .compared reader
    | _ => exact .refused
  | answering response =>
    cases event with
    | answered written =>
      cases written with
      | true => exact .answered reader
      | false => exact .unanswered reader
    | _ => exact .refused
  | resetting =>
    cases event with
    | trackerReset => exact .trackerReset reader
    | _ => exact .refused
  | finished => cases event <;> exact .refused

theorem moves_stepAcknack {event : Event} :
    consumer.Moves moment event (consumer.stepAcknack event).1 (consumer.stepAcknack event).2 := by
  unfold stepAcknack
  cases acknack : consumer.acknack with
  | waiting =>
    cases event with
    | acknackDue =>
      unfold acknowledge
      cases made : consumer.endpoint.acknackOf consumer.tracker with
      | ok frame => exact .acknackDue acknack made
      | error reason => exact .acknackFailed acknack made
    | acknackEnded =>
      dsimp only
      split
      case isTrue cancelled => exact .acknackEnded acknack cancelled
      case isFalse => exact .refused
    | _ => exact .refused
  | writing frame =>
    cases event with
    | acknackWritten written =>
      cases written with
      | true => exact .acknackWritten acknack
      | false => exact .acknackLost acknack
    | _ => exact .refused
  | finished => cases event <;> exact .refused

theorem moves_stepWatch {event : Event} :
    consumer.Moves moment event (consumer.stepWatch moment event) [] := by
  unfold stepWatch
  by_cases watching : consumer.watching = true
  · rw [if_pos watching]
    cases event with
    | contactDue =>
      unfold checkContact
      dsimp only
      split
      case isTrue silent => exact .contactLost watching silent
      case isFalse => exact .refused
    | watchEnded =>
      dsimp only
      split
      case isTrue cancelled => exact .watchEnded watching cancelled
      case isFalse => exact .refused
    | _ => exact .refused
  · rw [if_neg watching]
    exact .refused

theorem moves_stepKeeper {event : Event} :
    consumer.Moves moment event (consumer.stepKeeper moment event).1
      (consumer.stepKeeper moment event).2 := by
  unfold stepKeeper
  cases keeper : consumer.keeper with
  | waiting =>
    cases event with
    | storeDue =>
      unfold expire
      dsimp only
      split
      case h_1 age expires => exact .gapsExpired keeper expires
      case h_2 keeps => exact .gapsKept keeper keeps
    | keepingEnded =>
      dsimp only
      split
      case isTrue cancelled => exact .keepingEnded keeper cancelled
      case isFalse => exact .refused
    | _ => exact .refused
  | expired =>
    cases event with
    | stateTaken =>
      dsimp only
      split
      case h_1 state tracked => exact .stateTaken keeper tracked
      case h_2 empty => exact .noneTaken keeper empty
    | _ => exact .refused
  | holding state =>
    cases event with
    | stateStored => exact .stateStored keeper
    | _ => exact .refused
  | finished => cases event <;> exact .refused

theorem moves_finish (drained : consumer.isDrained = true) :
    consumer.Moves moment .drained consumer.finish.1 consumer.finish.2 := by
  unfold finish
  dsimp only
  rw [persist_fst]
  cases made : consumer.endpoint.alert farewellMessage with
  | ok alert => exact .drained drained made
  | error reason => exact .closedSilently drained made

/-- Every step is one of the moves. -/
theorem moves_step (event : Event) :
    consumer.Moves moment event (consumer.step moment event).1 (consumer.step moment event).2 := by
  unfold step
  cases event with
  | accepted =>
    dsimp only
    split
    case isTrue possible =>
      obtain ⟨idle, going⟩ := Bool.and_eq_true_iff.mp possible
      have going : consumer.stopping = false := by simpa using going
      simpa [accept, going] using Moves.accepted idle going
    case isFalse => exact .refused
  | drained =>
    dsimp only
    split
    case isTrue drained => exact consumer.moves_finish moment drained
    case isFalse => exact .refused
  | farewellWritten written =>
    dsimp only
    split
    case h_1 alert leaving => exact .farewellWritten leaving
    case h_2 => exact .refused
  | shutdown => exact .shutdown
  | stopped =>
    dsimp only
    split
    case isTrue possible =>
      obtain ⟨⟨idle, stopping⟩, running⟩ : (consumer.isIdle = true ∧ consumer.stopping = true) ∧
          consumer.stopped = false := by simpa using possible
      rw [persist_stopped, persist_fst]
      exact .stopped idle stopping running
    case isFalse => exact .refused
  | received _ | readEnded | published _ | publicationAbandoned | compared | answered _
  | trackerReset => exact consumer.moves_stepReader moment
  | acknackDue | acknackWritten _ | acknackEnded => exact consumer.moves_stepAcknack moment
  | contactDue | watchEnded => exact consumer.moves_stepWatch moment
  | storeDue | stateTaken | stateStored | keepingEnded => exact consumer.moves_stepKeeper moment

end Steps

/-- Which tasks there can be. -/
structure IsCoherent (consumer : Consumer σ) : Prop where
  reading : consumer.reader ≠ .finished → consumer.state = .connected
  ended : consumer.isIdle = true ∨ consumer.farewell ≠ none →
    consumer.acknack = .finished ∧ consumer.watching = false ∧ consumer.keeper = .finished
  leaving : consumer.farewell ≠ none → consumer.state = .draining
  stopped : consumer.stopped = true → consumer.stopping = true ∧ consumer.isIdle = true

theorem bind_eq_ok {config : ConsumerConfig} {store : σ} {consumer : Consumer σ} :
    bind config store = .ok consumer ↔
      config.check = .ok () ∧ ∃ endpoint, Endpoint.ofSettings config.endpoint = .ok endpoint ∧
        { config, endpoint, tracker := restored (GapStore.load store config.station).1
          store := (GapStore.load store config.station).2 } = consumer := by
  unfold bind
  simp only [ContinuousData.bind_eq_ok, pure_eq_ok]
  exact ⟨fun ⟨_, checked, made⟩ => ⟨checked, made⟩, fun ⟨checked, made⟩ => ⟨(), checked, made⟩⟩

theorem isCoherent_of_bind {config : ConsumerConfig} {store : σ} {consumer : Consumer σ}
    (bound : bind config store = .ok consumer) : consumer.IsCoherent := by
  obtain ⟨-, endpoint, -, rfl⟩ := bind_eq_ok.mp bound
  exact ⟨fun busy => absurd rfl busy, fun _ => ⟨rfl, rfl, rfl⟩, fun leaving => absurd rfl leaving,
    nofun⟩

section Moves

variable {consumer next : Consumer σ} {moment : Moment} {event : Event} {effects : List Effect}

theorem IsCoherent.move (h : consumer.IsCoherent)
    (move : consumer.Moves moment event next effects) : next.IsCoherent := by
  obtain ⟨reading, ended, leaving, stopped⟩ := h
  cases move <;> constructor <;> simp_all [isIdle, isDrained]

omit [GapStore σ] in
theorem IsCoherent.finished_of_idle (h : consumer.IsCoherent) (idle : consumer.isIdle = true) :
    consumer.reader = .finished := by
  refine Decidable.byContradiction fun busy => ?_
  have connected := h.reading busy
  simp [isIdle, connected] at idle

omit [GapStore σ] in
theorem IsCoherent.finished_of_drained (h : consumer.IsCoherent)
    (drained : consumer.isDrained = true) : consumer.reader = .finished := by
  refine Decidable.byContradiction fun busy => ?_
  have connected := h.reading busy
  simp [isDrained, connected] at drained

omit [GapStore σ] in
theorem not_idle_of_drained (drained : consumer.isDrained = true) : consumer.isIdle ≠ true := by
  intro idle
  simp only [isDrained, isIdle, Bool.and_eq_true, Bool.or_eq_true, decide_eq_true_eq]
    at drained idle
  simp [drained] at idle

theorem Moves.config_eq (move : consumer.Moves moment event next effects) :
    next.config = consumer.config := by
  cases move <;> rfl

/-- An acknowledgement that is being written was made of what was tracked at the time. -/
theorem Moves.writing_cases (move : consumer.Moves moment event next effects) {frame : Frame}
    (writing : next.acknack = .writing frame) :
    consumer.acknack = .writing frame ∨
      consumer.endpoint.acknackOf consumer.tracker = .ok frame := by
  cases move <;> simp_all

/-- So was a state that is being stored. -/
theorem Moves.holding_cases (move : consumer.Moves moment event next effects) {state : GapState}
    (holding : next.keeper = .holding state) :
    consumer.keeper = .holding state ∨ consumer.tracker.toState = some state := by
  cases move <;> simp_all

theorem Moves.farewell_cases (move : consumer.Moves moment event next effects) {alert : Frame}
    (leaving : next.farewell = some alert) :
    consumer.farewell = some alert ∨ consumer.endpoint.alert farewellMessage = .ok alert := by
  cases move <;> simp_all

/-- Where the frames come from that a consumer writes. -/
theorem Moves.wrote_cases (move : consumer.Moves moment event next effects) {frame : Frame}
    {written : Bool} (wrote : .wrote frame written ∈ effects) :
    consumer.acknack = .writing frame ∨ consumer.reader = .answering frame ∨
      consumer.farewell = some frame := by
  have persist : .wrote frame written ∉ consumer.persist.2 := by
    intro member
    obtain ⟨_, _, -, same⟩ := mem_persist member
    exact Effect.noConfusion same
  cases move <;> simp_all

/-- Where the states come from that a consumer stores. -/
theorem Moves.stored_cases (move : consumer.Moves moment event next effects) {state : GapState}
    {failure : Option Error} (stored : .stored state failure ∈ effects) :
    consumer.keeper = .holding state ∨ consumer.tracker.toState = some state := by
  have persist (member : .stored state failure ∈ consumer.persist.2) :
      consumer.tracker.toState = some state := by
    obtain ⟨_, _, tracked, same⟩ := mem_persist member
    obtain ⟨rfl, -⟩ := Effect.stored.inj same
    exact tracked
  cases move <;> simp_all

/-- What a step does to the tracker. Only a peer that has started anew and a reset empty it. -/
inductive Tracking (consumer : Consumer σ) (moment : Moment) (event : Event) (next : Consumer σ) :
    Prop where
  | same (same : next.tracker = consumer.tracker)
  | adds (frame : Frame) (received : event = .received (.frame frame))
      (added : next.tracker = consumer.tracker.add frame.sequence moment.wall)
  | expires (cutoff : Timestamp) (expired : next.tracker = consumer.tracker.expire cutoff)
  | outdated (peerHighest : UInt64) (compared : event = .compared)
      (comparing : consumer.reader = .comparing peerHighest)
      (outdated : consumer.tracker.isOutdatedBy peerHighest = true) (empty : next.tracker = .empty)
  | resets (resetting : consumer.reader = .resetting) (keeper : next.keeper = consumer.keeper)
      (empty : next.tracker = .empty)

theorem Moves.tracking (move : consumer.Moves moment event next effects) :
    consumer.Tracking moment event next := by
  cases move
  case data frame _ _ _ => exact .adds frame rfl rfl
  case commandResponse frame _ _ _ => exact .adds frame rfl rfl
  case gapsExpired => exact .expires _ rfl
  case compared peerHighest comparing =>
    by_cases outdated : consumer.tracker.isOutdatedBy peerHighest = true
    · exact .outdated peerHighest rfl comparing outdated (if_pos outdated)
    · exact .same (if_neg outdated)
  case trackerReset resetting => exact .resets resetting rfl rfl
  all_goals exact .same rfl

end Moves

/-- What each move of a run keeps holds at its end. It may depend on the effects so far. -/
theorem run_keeps {consumer : Consumer σ} {events : List (Moment × Event)}
    {Inv : Consumer σ → List Effect → Prop} (start : Inv consumer [])
    (keeps : ∀ {front : List (Moment × Event)} {moment : Moment} {event : Event}
      {back : List (Moment × Event)} {next : Consumer σ} {effects : List Effect},
      events = front ++ (moment, event) :: back →
      Inv (consumer.run front).1 (consumer.run front).2 →
      (consumer.run front).1.Moves moment event next effects →
      Inv next ((consumer.run front).2 ++ effects)) :
    Inv (consumer.run events).1 (consumer.run events).2 :=
  Machine.run_keeps start fun front event _ split inv =>
    keeps split inv ((consumer.run front).1.moves_step event.1 event.2)

theorem IsCoherent.run {consumer : Consumer σ} (h : consumer.IsCoherent)
    (events : List (Moment × Event)) : (consumer.run events).1.IsCoherent :=
  @run_keeps σ _ consumer events (fun now _ => now.IsCoherent) h fun _ h move => h.move move

theorem run_append {consumer now : Consumer σ} {events : List (Moment × Event)}
    {past : List Effect} (reached : consumer.run events = (now, past))
    (others : List (Moment × Event)) :
    consumer.run (events ++ others) = ((now.run others).1, past ++ (now.run others).2) := by
  unfold run at reached ⊢
  rw [Machine.run_append, reached]

theorem run_concat {consumer now : Consumer σ} {events : List (Moment × Event)}
    {past : List Effect} (reached : consumer.run events = (now, past)) (moment : Moment)
    (event : Event) :
    consumer.run (events ++ [(moment, event)]) =
      ((now.step moment event).1, past ++ (now.step moment event).2) := by
  have last : now.run [(moment, event)] = now.step moment event :=
    Prod.ext rfl (List.append_nil _)
  rw [run_append reached, last]

/-- The end of a connection, where an ALERT can be made. -/
theorem step_drained {consumer : Consumer σ} {alert : Frame} (drained : consumer.isDrained = true)
    (made : consumer.endpoint.alert farewellMessage = .ok alert) (moment : Moment) :
    consumer.step moment .drained =
      ({ consumer with store := consumer.persist.1.store, farewell := some alert },
        consumer.persist.2) := by
  change (if consumer.isDrained then consumer.finish else (consumer, [])) = _
  rw [if_pos drained]
  unfold finish
  dsimp only
  rw [persist_fst]
  dsimp only
  rw [made]

/-- The end of the program. -/
theorem step_stopped {consumer : Consumer σ} (idle : consumer.isIdle = true)
    (stopping : consumer.stopping = true) (running : consumer.stopped = false) (moment : Moment) :
    consumer.step moment .stopped =
      ({ consumer with store := consumer.persist.1.store, stopped := true },
        consumer.persist.2) := by
  have possible : (consumer.isIdle && consumer.stopping && !consumer.stopped) = true := by
    rw [idle, stopping, running]
    rfl
  change (if _ then _ else _) = _
  rw [if_pos possible, persist_stopped, persist_fst]

/-- Events that happen all at once. -/
def atOnce (events : List Event) : List (Moment × Event) :=
  events.map (⟨0, 0⟩, ·)

/-- What happens when a provider leaves. -/
def leaving : List Event :=
  [.readEnded, .acknackEnded, .watchEnded, .keepingEnded]

/-- The consumer that a provider leaves behind. -/
def left (consumer : Consumer σ) : Consumer σ :=
  { consumer with
    state := .draining, reader := .finished, acknack := .finished, watching := false
    keeper := .finished, cancelled := true }

theorem run_leaving {consumer : Consumer σ} (reader : consumer.reader = .waiting)
    (acknack : consumer.acknack = .waiting) (watching : consumer.watching = true)
    (keeper : consumer.keeper = .waiting) :
    consumer.run (atOnce leaving) = (consumer.left, [.entered .draining]) := by
  obtain ⟨_, _, _, _, _, _, _, _, _, _, _, _, _, _⟩ := consumer
  obtain rfl := reader
  obtain rfl := acknack
  obtain rfl := watching
  obtain rfl := keeper
  rfl

/-- A consumer with default settings that has just been bound. -/
def fresh : Consumer MemoryStore where
  config := { station := "STA" }
  endpoint := Endpoint.standard
  tracker := .empty
  store := .empty

theorem bind_fresh : bind { station := "STA" } MemoryStore.empty = .ok fresh :=
  rfl

/-- The same consumer with its first provider. -/
def serving : Consumer MemoryStore :=
  { fresh with
    state := .connected, reader := .waiting, acknack := .waiting, watching := true
    keeper := .waiting }

theorem run_accepted :
    fresh.run (atOnce [.accepted]) = (serving, [.entered .connecting, .entered .connected]) :=
  rfl

/-- Its first DATA frame. -/
theorem run_received {frame : Frame} {content : DataFrame} (body : frame.body = .data content) :
    fresh.run (atOnce [.accepted, .received (.frame frame)]) =
      ({ serving with
         tracker := some (.single frame.sequence), reader := .publishing frame },
        [.entered .connecting, .entered .connected, .handled (.frame frame)]) := by
  obtain ⟨header, _, trailer, raw⟩ := frame
  obtain rfl := body
  rfl

end Consumer

end ContinuousData
