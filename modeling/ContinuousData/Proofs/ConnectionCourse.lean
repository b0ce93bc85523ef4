import ContinuousData.Proofs.ConsumerFrames

/-! The course of a connection, from the moment at which a provider is accepted. There are several
causes for it to end. All of them lead through the same states to the same last words. -/
namespace ContinuousData

/-- The states of a connection, up to one of them. -/
def LinkState.upTo : LinkState → List LinkState
  | .disconnected => []
  | .connecting => [.connecting]
  | .connected => [.connecting, .connected]
  | .draining => [.connecting, .connected, .draining]
  | .closed => [.connecting, .connected, .draining, .closed]

/-- What a provider has no business to send, and what cannot be read as a frame. -/
def Incoming.IsNoise : Incoming → Prop
  | .malformed _ => True
  | .frame whole =>
    match whole.body with
    | .connectionRequest _ | .connectionResponse _ | .commandRequest _ | .optionResponse _ => True
    | _ => False

namespace Consumer

namespace Effect

def entered? : Effect → Option LinkState
  | entered state => some state
  | _ => none

/-- Nothing is read after an ALERT, a reset or an answer that could not be written. -/
def endsReading (resetEnabled : Bool) : Effect → Bool
  | handled (.frame frame) =>
    match frame.body with
    | .alert _ => true
    | .customReset _ => resetEnabled
    | _ => false
  | wrote frame written => !written && frame.body.type = .optionResponse
  | _ => false

end Effect

variable {σ : Type} [GapStore σ]

/-- What brings the reader to its end, with the outcome of what it is about. -/
def endReading (failure : Option Error) (answered : Bool) : List Event :=
  [.published failure, .compared, .answered answered, .trackerReset, .readEnded]

/-- What brings the other tasks to their ends. -/
def endTasks (acknowledged : Bool) : List Event :=
  [.acknackWritten acknowledged, .acknackEnded, .watchEnded, .stateTaken, .stateStored,
    .keepingEnded]

/-- What brings a connection to its end. -/
def ending (failure : Option Error) (answered acknowledged parted : Bool) : List Event :=
  endReading failure answered ++ endTasks acknowledged ++ [.drained, .farewellWritten parted]

/-- The course of a connection up to `now`, with the effects since a provider was accepted. -/
structure KeepsCourse (consumer : Consumer σ) (first : Moment) (events : List (Moment × Event))
    (now : Consumer σ) (past : List Effect) : Prop where
  state : now.state = .connected ∨ now.state = .draining ∨ now.state = .closed
  states : past.filterMap Effect.entered? = now.state.upTo
  /-- Whatever is read is handled, in the order in which it arrives. -/
  handled : past.filterMap Effect.handled? = consumer.arrivals ((first, .accepted) :: events)
  inOrder : (past.filterMap Effect.handled?).Sublist (events.filterMap (·.2.incoming?))
  ends : past.Pairwise fun earlier later =>
    earlier.endsReading consumer.config.resetEnabled = true → later.handled? = none
  noise : ∀ moment incoming, Incoming.IsNoise incoming →
    ∃ contact, (now.step moment (.received incoming)).1 = { now with lastContact := contact }
  /-- What is written are the bytes of frames. -/
  encoded : ∀ frame written, .wrote frame written ∈ past → frame.IsEncoded
  /-- There are no last words before the end. -/
  silent : now.state ≠ .closed →
    ∀ frame written, .wrote frame written ∈ past → frame.body.type ≠ .alert
  /-- All tasks have come to their ends. What is tracked is stored, and then an ALERT is written. -/
  farewell : now.state = .closed → ∃ front moment back before earlier final alert written,
    events = front ++ (moment, .drained) :: back ∧
      consumer.run ((first, .accepted) :: front) = (before, earlier) ∧ before.isDrained = true ∧
      (∀ frame written, .wrote frame written ∈ earlier → frame.body.type ≠ .alert) ∧
      (now.tracker = .empty ∧ final = [] ∨
        ∃ state failure, now.tracker.toState = some state ∧ final = [.stored state failure]) ∧
      alert.body = .alert farewellMessage ∧
      past = earlier ++ final ++ [.wrote alert written, .entered .closed]
  closes : ∀ moment failure answered acknowledged parted,
    (now.run ((ending failure answered acknowledged parted).map (moment, ·))).1.state = .closed

section Reading

/-- Noise is not heard: it is as if the provider had only been in contact. -/
theorem step_noise (consumer : Consumer σ) (moment : Moment) {incoming : Incoming}
    (noise : incoming.IsNoise) :
    ∃ contact,
      (consumer.step moment (.received incoming)).1 = { consumer with lastContact := contact } := by
  have move := consumer.moves_step moment (.received incoming)
  generalize consumer.step moment (.received incoming) = stepped at move ⊢
  obtain ⟨next, effects⟩ := stepped
  cases move
  case refused => exact ⟨_, rfl⟩
  case passedOver => exact ⟨_, rfl⟩
  case malformed => exact ⟨_, rfl⟩
  all_goals simp_all [Incoming.IsNoise]

end Reading

section Moves

variable {consumer next : Consumer σ} {moment : Moment} {event : Event} {past effects : List Effect}

/-- A provider is being served, or its connection is coming to its end. -/
structure IsServing (consumer : Consumer σ) : Prop where
  coherent : consumer.IsCoherent
  writes : consumer.WritesInKind
  phase : consumer.state = .connected ∧ consumer.reader ≠ .finished ∨
    (consumer.state = .draining ∨ consumer.state = .closed) ∧ consumer.reader = .finished ∧
      consumer.cancelled = true

theorem IsServing.move (h : consumer.IsServing) (serving : event ≠ .accepted)
    (move : consumer.Moves moment event next effects) : next.IsServing where
  coherent := h.coherent.move move
  writes := h.writes.move move
  phase := by
    have leaving := h.coherent.leaving
    rcases h.phase with ⟨connected, busy⟩ | ⟨gone, finished, cancelled⟩
    · cases move <;> simp_all [isDrained]
    · cases move <;> simp_all

theorem IsServing.entered (h : consumer.IsServing) (serving : event ≠ .accepted)
    (move : consumer.Moves moment event next effects) :
    consumer.state.upTo ++ effects.filterMap Effect.entered? = next.state.upTo := by
  have reading := h.coherent.reading
  have leaving := h.coherent.leaving
  have drained : consumer.isDrained = true → consumer.state = .draining := by simp_all [isDrained]
  have persist := @filterMap_persist σ _ _ Effect.entered? (fun _ _ => rfl) consumer
  cases move
  case drained | stopped => rw [persist, List.append_nil]
  case closedSilently ended _ =>
    rw [List.filterMap_append, persist, drained ended]
    rfl
  all_goals
    clear persist
    simp_all [Effect.entered?, LinkState.upTo] <;> rfl

/-- Nothing more is read. -/
def HasRead (consumer : Consumer σ) : Prop :=
  consumer.reader = .resetting ∨ consumer.reader = .finished

theorem HasRead.move (h : consumer.HasRead) (serving : event ≠ .accepted)
    (move : consumer.Moves moment event next effects) : next.HasRead := by
  unfold HasRead at h ⊢
  cases move <;> simp_all

theorem Moves.waiting_of_handled (move : consumer.Moves moment event next effects)
    {effect : Effect} (member : effect ∈ effects) (handled : effect.handled? ≠ none) :
    consumer.reader = .waiting := by
  have persist : effect ∉ consumer.persist.2 := by
    intro member
    obtain ⟨state, failure, -, rfl⟩ := mem_persist member
    exact handled rfl
  cases move <;> simp_all
  all_goals rcases member with rfl | rfl <;> exact absurd rfl handled

/-- What ends the reading. -/
theorem IsServing.hasRead_of_ends (h : consumer.IsServing)
    (move : consumer.Moves moment event next effects) {effect : Effect} (member : effect ∈ effects)
    (ends : effect.endsReading consumer.config.resetEnabled = true) : next.HasRead := by
  have persist : effect ∉ consumer.persist.2 := by
    intro member
    obtain ⟨state, failure, -, rfl⟩ := mem_persist member
    exact Bool.false_ne_true ends
  unfold HasRead
  cases effect with
  | handled incoming =>
    have waiting := move.waiting_of_handled member nofun
    cases move <;> simp_all [Effect.endsReading, IsPassedOver]
    split at ends <;> simp_all
  | wrote frame written =>
    have lost : written = false ∧ frame.body.type = .optionResponse := by
      simpa [Effect.endsReading] using ends
    -- Neither an acknowledgement nor the last words are of the type of the lost frame.
    have acknack : consumer.acknack ≠ .writing frame := fun writing =>
      absurd ((h.writes.acknack frame writing).symm.trans lost.2) (by decide)
    have farewell : consumer.farewell ≠ some frame := fun leaving =>
      absurd ((congrArg Body.type (h.writes.farewell frame leaving)).symm.trans lost.2) (by decide)
    cases move <;> simp_all
  | _ => exact (Bool.false_ne_true ends).elim

/-- A step handles what it has read before it does anything else. -/
theorem Moves.handled_later (move : consumer.Moves moment event next effects) :
    effects.Pairwise fun _ later => later.handled? = none := by
  have persist : consumer.persist.2.Pairwise fun _ later => later.handled? = none := by
    refine List.pairwise_of_forall_mem_list fun _ _ later member => ?_
    obtain ⟨state, failure, -, rfl⟩ := mem_persist member
    rfl
  cases move <;> simp_all [Effect.handled?, List.pairwise_append]

/-- The last words have not been written. -/
def IsSilent (past : List Effect) : Prop :=
  ∀ frame written, .wrote frame written ∈ past → frame.body.type ≠ .alert

/-- Nothing happens to a connection that has been closed. -/
theorem IsServing.still (h : consumer.IsServing) (serving : event ≠ .accepted ∧ event ≠ .stopped)
    (closed : consumer.state = .closed) (move : consumer.Moves moment event next effects) :
    next.state = .closed ∧ next.tracker = consumer.tracker ∧ effects = [] := by
  have idle : consumer.isIdle = true := by simp [isIdle, closed]
  have finished := h.coherent.finished_of_idle idle
  have ended := h.coherent.ended (.inl idle)
  have leaving := h.coherent.leaving
  cases move <;> simp_all [isDrained]

/-- While an ALERT is being written, nothing else happens. -/
theorem IsServing.leaving_cases (h : consumer.IsServing) {alert : Frame}
    (serving : event ≠ .accepted ∧ event ≠ .stopped) (leaving : consumer.farewell = some alert)
    (move : consumer.Moves moment event next effects) :
    next.tracker = consumer.tracker ∧ (next.farewell = some alert ∧ effects = [] ∨
      ∃ written, next.state = .closed ∧ effects = [.wrote alert written, .entered .closed]) := by
  have some := Option.ne_none_iff_exists'.mpr ⟨alert, leaving⟩
  have draining := h.coherent.leaving some
  have ended := h.coherent.ended (.inr some)
  have finished : consumer.reader = .finished := by
    refine Decidable.byContradiction fun busy => ?_
    exact nomatch draining.symm.trans (h.coherent.reading busy)
  cases move <;> simp_all [isDrained, isIdle]

/-- A connection goes on until all tasks have come to their ends. -/
theorem IsServing.going_cases (h : consumer.IsServing) (serving : event ≠ .accepted)
    (silent : consumer.farewell = none) (unclosed : consumer.state ≠ .closed)
    (move : consumer.Moves moment event next effects) :
    next.farewell = none ∧ next.state ≠ .closed ∧ IsSilent effects ∨
      event = .drained ∧ consumer.isDrained = true ∧ next.tracker = consumer.tracker ∧
        effects = consumer.persist.2 ∧ ∃ alert, next.farewell = some alert := by
  have quiet : IsSilent effects := by
    intro frame written wrote
    rcases h.writes.wrote_cases move wrote with ⟨-, type⟩ | ⟨-, type⟩ | ⟨leaving, -⟩
    · exact type ▸ nofun
    · exact type ▸ nofun
    · exact nomatch silent.symm.trans leaving
  -- The last words can always be made, so that no connection is closed without them.
  obtain ⟨alert, made⟩ := h.writes.built.exists_farewell
  cases move <;> simp_all

end Moves

section Course

variable {consumer now next before : Consumer σ} {first moment : Moment} {event : Event}
  {events : List (Moment × Event)} {past effects earlier : List Effect}

/-- In the course of the events, all tasks have come to their ends, with these effects. -/
structure HasDrained (consumer : Consumer σ) (first : Moment) (events : List (Moment × Event))
    (before : Consumer σ) (earlier : List Effect) : Prop where
  split : ∃ front moment back, events = front ++ (moment, .drained) :: back ∧
    consumer.run ((first, .accepted) :: front) = (before, earlier)
  drained : before.isDrained = true
  silent : IsSilent earlier

theorem HasDrained.later (h : HasDrained consumer first events before earlier)
    (event : Moment × Event) : HasDrained consumer first (events ++ [event]) before earlier where
  split := by
    obtain ⟨front, moment, back, rfl, reached⟩ := h.split
    exact ⟨front, moment, back ++ [event], List.append_assoc .., reached⟩
  drained := h.drained
  silent := h.silent

/-- How far a connection has come to its last words. -/
inductive Parting (consumer : Consumer σ) (first : Moment) (events : List (Moment × Event))
    (now : Consumer σ) (past : List Effect) : Prop where
  | going (silent : now.farewell = none) (unclosed : now.state ≠ .closed)
      (quiet : IsSilent past)
  | leaving (before : Consumer σ) (earlier : List Effect) (alert : Frame)
      (drained : HasDrained consumer first events before earlier)
      (tracker : now.tracker = before.tracker) (leaving : now.farewell = some alert)
      (past_eq : past = earlier ++ before.persist.2)
  | left (before : Consumer σ) (earlier : List Effect) (alert : Frame) (written : Bool)
      (drained : HasDrained consumer first events before earlier)
      (tracker : now.tracker = before.tracker) (closed : now.state = .closed)
      (words : alert.body = .alert farewellMessage)
      (past_eq : past = earlier ++ before.persist.2 ++ [.wrote alert written, .entered .closed])

theorem Parting.move (h : Parting consumer first events now past) (served : now.IsServing)
    (reached : consumer.run ((first, .accepted) :: events) = (now, past))
    (serving : event ≠ .accepted ∧ event ≠ .stopped)
    (move : now.Moves moment event next effects) :
    Parting consumer first (events ++ [(moment, event)]) next (past ++ effects) := by
  cases h with
  | going silent unclosed quiet =>
    rcases served.going_cases serving.1 silent unclosed move with
      ⟨silent, unclosed, none⟩ | ⟨rfl, drained, tracker, rfl, alert, leaving⟩
    · refine .going silent unclosed fun frame written wrote => ?_
      exact (List.mem_append.mp wrote).elim (quiet frame written) (none frame written)
    · exact .leaving now past alert ⟨⟨events, moment, [], rfl, reached⟩, drained, quiet⟩ tracker
        leaving rfl
  | leaving before earlier alert drained tracker leaving past_eq =>
    have words := served.writes.farewell alert leaving
    obtain ⟨same, ⟨leaving, rfl⟩ | ⟨written, closed, rfl⟩⟩ :=
      served.leaving_cases serving leaving move
    · rw [List.append_nil]
      exact .leaving before earlier alert (drained.later _) (same.trans tracker) leaving past_eq
    · rw [past_eq]
      exact .left before earlier alert written (drained.later _) (same.trans tracker) closed words
        rfl
  | left before earlier alert written drained tracker closed words past_eq =>
    obtain ⟨closed, same, rfl⟩ := served.still serving closed move
    rw [List.append_nil]
    exact .left before earlier alert written (drained.later _) (same.trans tracker) closed words
      past_eq

theorem Parting.isSilent (h : Parting consumer first events now past)
    (unclosed : now.state ≠ .closed) : IsSilent past := by
  cases h with
  | going _ _ quiet => exact quiet
  | leaving before earlier alert drained _ _ past_eq =>
    intro frame written wrote
    rw [past_eq, List.mem_append] at wrote
    rcases wrote with early | final
    · exact drained.silent frame written early
    · obtain ⟨_, _, -, same⟩ := mem_persist final
      exact nomatch same
  | left _ _ _ _ _ _ closed => exact absurd closed unclosed

theorem persist_cases (consumer : Consumer σ) :
    consumer.tracker = .empty ∧ consumer.persist.2 = [] ∨
      ∃ state failure, consumer.tracker.toState = some state ∧
        consumer.persist.2 = [.stored state failure] := by
  cases tracked : consumer.tracker.toState with
  | none =>
    rw [persist_of_none tracked]
    exact .inl ⟨Option.map_eq_none_iff.mp tracked, rfl⟩
  | some state =>
    rw [persist_of_some tracked]
    exact .inr ⟨state, _, rfl, rfl⟩

/-- What holds at every moment of a connection. -/
structure Course (consumer : Consumer σ) (first : Moment) (events : List (Moment × Event))
    (now : Consumer σ) (past : List Effect) : Prop where
  config : now.config = consumer.config
  served : now.IsServing
  states : past.filterMap Effect.entered? = now.state.upTo
  ends : past.Pairwise fun earlier later =>
    earlier.endsReading consumer.config.resetEnabled = true → later.handled? = none
  hasRead : ∀ effect ∈ past, effect.endsReading consumer.config.resetEnabled = true → now.HasRead
  parting : Parting consumer first events now past

theorem Course.move (h : Course consumer first events now past)
    (reached : consumer.run ((first, .accepted) :: events) = (now, past))
    (serving : event ≠ .accepted ∧ event ≠ .stopped)
    (move : now.Moves moment event next effects) :
    Course consumer first (events ++ [(moment, event)]) next (past ++ effects) where
  config := move.config_eq.trans h.config
  served := h.served.move serving.1 move
  states := by rw [List.filterMap_append, h.states, h.served.entered serving.1 move]
  ends := by
    refine List.pairwise_append.mpr ⟨h.ends, move.handled_later.imp fun none => fun _ => none, ?_⟩
    intro earlier before later after ends
    refine Decidable.byContradiction fun handled => ?_
    have waiting := move.waiting_of_handled after handled
    rcases h.hasRead earlier before ends with resetting | finished
    · exact nomatch waiting.symm.trans resetting
    · exact nomatch waiting.symm.trans finished
  hasRead := by
    intro effect member ends
    rcases List.mem_append.mp member with before | after
    · exact (h.hasRead effect before ends).move serving.1 move
    · exact h.served.hasRead_of_ends move after (h.config ▸ ends)
  parting := h.parting.move h.served reached serving move

/-- The consumer that has accepted its next provider. -/
def welcomed (consumer : Consumer σ) (first : Moment) : Consumer σ :=
  { consumer with
    state := .connected, reader := .waiting, acknack := .waiting, watching := true
    keeper := .waiting, cancelled := false, lastContact := first.uptime, farewell := none }

theorem run_first (idle : consumer.isIdle = true) (going : consumer.stopping = false) :
    consumer.run [(first, .accepted)] =
      (consumer.welcomed first, [.entered .connecting, .entered .connected]) := by
  have possible : (consumer.isIdle && !consumer.stopping) = true := by rw [idle, going]; rfl
  change ((if _ then _ else _ : Consumer σ × List Effect).1,
    (if _ then _ else _ : Consumer σ × List Effect).2 ++ []) = _
  rw [if_pos possible]
  simp only [accept, going, welcomed, List.append_nil]

theorem course_start (coherent : consumer.IsCoherent) (built : consumer.endpoint.IsBuilt)
    (idle : consumer.isIdle = true) (going : consumer.stopping = false) :
    Course consumer first [] (consumer.welcomed first)
      [.entered .connecting, .entered .connected] where
  config := rfl
  served := ⟨coherent.move (.accepted idle going),
    .start built (fun _ writing => nomatch writing) (fun _ answering => nomatch answering) rfl,
    .inl ⟨rfl, nofun⟩⟩
  states := rfl
  ends := List.pairwise_pair.mpr fun _ => rfl
  hasRead := by
    intro effect member ends
    simp only [List.mem_cons, List.not_mem_nil, or_false] at member
    rcases member with rfl | rfl <;> exact nomatch ends
  parting := by
    refine .going rfl nofun fun frame written wrote => ?_
    simp only [List.mem_cons, List.not_mem_nil, reduceCtorEq, or_false] at wrote

theorem course_of_run (coherent : consumer.IsCoherent) (built : consumer.endpoint.IsBuilt)
    (idle : consumer.isIdle = true) (going : consumer.stopping = false)
    (serving : ∀ event ∈ events, event.2 ≠ .accepted ∧ event.2 ≠ .stopped) :
    Course consumer first events (consumer.run ((first, .accepted) :: events)).1
      (consumer.run ((first, .accepted) :: events)).2 := by
  -- What holds so far includes how the events split, so they are taken from the back.
  induction events using List.reverseRecOn with
  | nil =>
    rw [run_first idle going]
    exact course_start coherent built idle going
  | append_singleton events event ih =>
    obtain ⟨moment, event⟩ := event
    have earlier := ih fun event member => serving event (List.mem_append_left _ member)
    have last := serving (moment, event) (List.mem_append_right _ (.head _))
    rcases reached : consumer.run ((first, .accepted) :: events) with ⟨now, past⟩
    rw [reached] at earlier
    rw [← List.cons_append, run_concat reached]
    exact earlier.move reached last (now.moves_step moment event)

end Course

section Ending

variable {consumer : Consumer σ} (moment : Moment)

/-- Whatever the reader is about, it comes to its end. -/
theorem reader_ended (failure : Option Error) (answered : Bool) :
    (consumer.run ((endReading failure answered).map (moment, ·))).1.reader = .finished := by
  obtain ⟨_, _, _, _, _, reader, _, _, _, _, _, _, _, _⟩ := consumer
  cases reader with
  | answering response => cases answered <;> rfl
  | _ => rfl

theorem acknack_ended (cancelled : consumer.cancelled = true) (acknowledged : Bool) :
    ((consumer.step moment (.acknackWritten acknowledged)).1.step moment .acknackEnded).1 =
      { consumer with acknack := .finished } := by
  obtain ⟨_, _, _, _, _, _, acknack, _, _, _, _, _, _, _⟩ := consumer
  obtain rfl := cancelled
  cases acknack with
  | writing frame => cases acknowledged <;> rfl
  | _ => rfl

theorem watch_ended (cancelled : consumer.cancelled = true) :
    (consumer.step moment .watchEnded).1 = { consumer with watching := false } := by
  obtain ⟨_, _, _, _, _, _, _, watching, _, _, _, _, _, _⟩ := consumer
  obtain rfl := cancelled
  cases watching <;> rfl

theorem keeper_ended (cancelled : consumer.cancelled = true) :
    ∃ store, (((consumer.step moment .stateTaken).1.step moment .stateStored).1.step moment
      .keepingEnded).1 = { consumer with keeper := .finished, store } := by
  obtain ⟨_, _, tracker, _, _, _, _, _, keeper, _, _, _, _, _⟩ := consumer
  obtain rfl := cancelled
  cases keeper with
  | expired => cases tracker <;> exact ⟨_, rfl⟩
  | _ => exact ⟨_, rfl⟩

theorem tasks_ended (cancelled : consumer.cancelled = true) (acknowledged : Bool) :
    ∃ store, (consumer.run ((endTasks acknowledged).map (moment, ·))).1 =
      { consumer with acknack := .finished, watching := false, keeper := .finished, store } := by
  obtain ⟨store, kept⟩ := @keeper_ended σ _
    { consumer with acknack := .finished, watching := false } moment cancelled
  refine ⟨store, Eq.trans ?_ kept⟩
  have watched := @watch_ended σ _ { consumer with acknack := .finished } moment cancelled
  rw [← watched, ← acknack_ended moment cancelled acknowledged]
  rfl

theorem written_ended (leaving : consumer.farewell ≠ none ∨ consumer.state = .closed)
    (written : Bool) : (consumer.step moment (.farewellWritten written)).1.state = .closed := by
  obtain ⟨_, _, _, _, _, _, _, _, _, _, _, farewell, _, _⟩ := consumer
  cases farewell with
  | some alert => rfl
  | none => exact leaving.resolve_left (absurd rfl)

/-- Once all tasks have come to their ends, the connection is closed. -/
theorem IsServing.parted (served : consumer.IsServing) (reader : consumer.reader = .finished)
    (acknack : consumer.acknack = .finished) (watching : consumer.watching = false)
    (keeper : consumer.keeper = .finished) (written : Bool) :
    (consumer.run ([.drained, .farewellWritten written].map (moment, ·))).1.state = .closed := by
  obtain ⟨alert, made⟩ := served.writes.built.exists_farewell
  have leaving : (consumer.step moment .drained).1.farewell ≠ none ∨
      (consumer.step moment .drained).1.state = .closed := by
    by_cases drained : consumer.isDrained = true
    · rw [step_drained drained made]
      exact .inl (Option.some_ne_none alert)
    · have same : consumer.step moment .drained = (consumer, []) := if_neg drained
      rw [same]
      rcases served.phase with ⟨-, busy⟩ | ⟨draining | closed, -, -⟩
      · exact absurd reader busy
      · refine .inl fun (silent : consumer.farewell = none) => drained ?_
        simp [isDrained, draining, acknack, watching, keeper, silent]
      · exact .inr closed
  exact written_ended moment leaving written

theorem IsServing.run (served : consumer.IsServing) {events : List (Moment × Event)}
    (serving : ∀ event ∈ events, event.2 ≠ .accepted) : (consumer.run events).1.IsServing := by
  refine @run_keeps σ _ consumer events (fun now _ => now.IsServing) served ?_
  intro front moment event back next effects split served move
  refine served.move (serving (moment, event) ?_) move
  rw [split]
  exact List.mem_append_right _ (.head _)

/-- Every connection can be brought to its end. -/
theorem IsServing.closes (served : consumer.IsServing) (failure : Option Error)
    (answered acknowledged parted : Bool) :
    (consumer.run ((ending failure answered acknowledged parted).map (moment, ·))).1.state =
      .closed := by
  have reader := @reader_ended σ _ consumer moment failure answered
  have ended := @IsServing.run σ _ consumer served ((endReading failure answered).map (moment, ·))
    (by simp [endReading])
  rcases reading : consumer.run ((endReading failure answered).map (moment, ·)) with ⟨now, past⟩
  rw [reading] at reader ended
  have cancelled : now.cancelled = true := by
    rcases ended.phase with ⟨-, busy⟩ | ⟨-, -, cancelled⟩
    · exact absurd reader busy
    · exact cancelled
  obtain ⟨store, tasks⟩ := @tasks_ended σ _ now moment cancelled acknowledged
  have served := @IsServing.run σ _ now ended ((endTasks acknowledged).map (moment, ·))
    (by simp [endTasks])
  rcases working : now.run ((endTasks acknowledged).map (moment, ·)) with ⟨last, effects⟩
  rw [working] at tasks served
  obtain rfl := tasks
  unfold ending
  rw [List.map_append, List.map_append, run_append (run_append reading _), working]
  exact served.parted moment reader rfl rfl rfl parted

end Ending

/-- Whatever happens, a connection keeps its course from the moment at which a provider is accepted.
The states come in their order, and what is read is handled in its order until something ends the
reading. An ALERT is written once, after all other writes, and what is tracked is stored before. -/
theorem keepsCourse_of_run {config : ConsumerConfig} {store : σ} {started consumer : Consumer σ}
    {before : List (Moment × Event)} {earlier : List Effect}
    (bound : bind config store = .ok started) (reached : started.run before = (consumer, earlier))
    (idle : consumer.isIdle = true) (going : consumer.stopping = false) {first : Moment}
    {events : List (Moment × Event)}
    (serving : ∀ event ∈ events, event.2 ≠ .accepted ∧ event.2 ≠ .stopped)
    {now : Consumer σ} {past : List Effect}
    (ran : consumer.run ((first, .accepted) :: events) = (now, past)) :
    KeepsCourse consumer first events now past := by
  have writes := (writesInKind_of_bind bound).run before
  have coherent := (isCoherent_of_bind bound).run before
  rw [reached] at writes coherent
  have course : Course consumer first events (consumer.run ((first, .accepted) :: events)).1
      (consumer.run ((first, .accepted) :: events)).2 :=
    course_of_run coherent writes.built idle going serving
  have handled :
      past.filterMap Effect.handled? = consumer.arrivals ((first, .accepted) :: events) := by
    rw [← handled_run, ran]
  rw [ran] at course
  constructor
  case state => exact course.served.phase.imp And.left And.left
  case states => exact course.states
  case handled => exact handled
  case inOrder =>
    rw [handled]
    exact consumer.arrivals_sublist ((first, .accepted) :: events)
  case ends => exact course.ends
  case noise => exact fun moment incoming noise => now.step_noise moment noise
  case encoded =>
    obtain rfl : (consumer.run ((first, .accepted) :: events)).2 = past := congrArg Prod.snd ran
    exact fun frame written wrote => writes.encoded_of_run _ wrote
  case silent => exact course.parting.isSilent
  case farewell =>
    intro closed
    cases course.parting with
    | going _ unclosed => exact absurd closed unclosed
    | leaving _ _ alert _ _ leaving =>
      have draining := course.served.coherent.leaving (leaving ▸ Option.some_ne_none alert)
      exact nomatch closed.symm.trans draining
    | left before earlier alert written drained tracker _ words past_eq =>
      obtain ⟨front, moment, back, split, reached⟩ := drained.split
      refine ⟨front, moment, back, before, earlier, before.persist.2, alert, written, split,
        reached, drained.drained, drained.silent, ?_, words, past_eq⟩
      rw [tracker]
      exact before.persist_cases
  case closes => exact course.served.closes

/-- A provider that sends a frame and then leaves. -/
theorem keepsCourse_of_leaving :
    ∃ frame now past, Endpoint.standard.data [Endpoint.silence 40] 7 = .ok frame ∧
      fresh.run (atOnce ([.accepted, .received (.frame frame)] ++ ending none true true true)) =
        (now, past) ∧
      past.filterMap Effect.entered? = [.connecting, .connected, .draining, .closed] ∧
      ∃ front alert written, past = front ++ [.wrote alert written, .entered .closed] := by
  obtain ⟨frame, content, sent, number, body, -⟩ := Endpoint.exists_silence 7
  have early : fresh.KeepsCourse ⟨0, 0⟩ (atOnce [.received (.frame frame)]) _ _ :=
    keepsCourse_of_run bind_fresh (Eq.refl (fresh.run [])) rfl rfl (by simp [atOnce])
      (run_received body)
  rcases reached : fresh.run (atOnce ([.accepted, .received (.frame frame)] ++
    ending none true true true)) with ⟨now, past⟩
  have course := keepsCourse_of_run bind_fresh (Eq.refl (fresh.run [])) rfl rfl
    (by simp [ending, endReading, endTasks]) reached
  have closed : now.state = .closed := by
    have whole := run_append (run_received body) (atOnce (ending none true true true))
    exact (congrArg (·.1.state) (reached.symm.trans whole)).trans
      (early.closes ⟨0, 0⟩ none true true true)
  refine ⟨frame, now, past, sent, reached, ?_, ?_⟩
  · rw [course.states, closed]
    rfl
  · obtain ⟨_, _, _, _, earlier, final, alert, written, -, -, -, -, -, -, past_eq⟩ :=
      course.farewell closed
    exact ⟨earlier ++ final, alert, written, past_eq⟩

end Consumer

end ContinuousData
