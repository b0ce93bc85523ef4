import ContinuousData.Proofs.Restarts

/-! What a custom reset leaves behind. The reader removes the stored state first and empties the
tracker afterwards. In between, the task that keeps the gap state may hold a state that it has taken
before, or may take one; it is stored after the removal and stays. -/
namespace ContinuousData

namespace Consumer

variable {σ : Type} [GapStore σ]

/-- In the course of the events, a state is held for the store while a reset is under way. -/
def HoldsWhileResetting (consumer : Consumer σ) (events : List (Moment × Event)) : Prop :=
  ∃ front back state, events = front ++ back ∧ (consumer.run front).1.reader = .resetting ∧
    (consumer.run front).1.keeper = .holding state

theorem holdsWhileResetting_nil {consumer : Consumer σ} :
    consumer.HoldsWhileResetting [] ↔
      consumer.reader = .resetting ∧ ∃ state, consumer.keeper = .holding state := by
  constructor
  · rintro ⟨front, back, state, split, resetting, holding⟩
    obtain ⟨rfl, -⟩ := List.append_eq_nil_iff.mp split.symm
    exact ⟨resetting, state, holding⟩
  · rintro ⟨resetting, state, holding⟩
    exact ⟨[], [], state, rfl, resetting, holding⟩

theorem holdsWhileResetting_cons {consumer : Consumer σ} {event : Moment × Event}
    {events : List (Moment × Event)} :
    consumer.HoldsWhileResetting (event :: events) ↔
      (consumer.reader = .resetting ∧ ∃ state, consumer.keeper = .holding state) ∨
        (consumer.step event.1 event.2).1.HoldsWhileResetting events := by
  constructor
  · rintro ⟨front, back, state, split, resetting, holding⟩
    cases front with
    | nil => exact .inl ⟨resetting, state, holding⟩
    | cons first front =>
      obtain ⟨rfl, rfl⟩ := List.cons.inj split
      exact .inr ⟨front, back, state, rfl, resetting, holding⟩
  · rintro (⟨resetting, state, holding⟩ | ⟨front, back, state, rfl, resetting, holding⟩)
    · exact ⟨[], event :: events, state, rfl, resetting, holding⟩
    · exact ⟨event :: front, back, state, rfl, resetting, holding⟩

/-- A reader that has come to its end starts again with the next provider only. -/
theorem Moves.finished {consumer next : Consumer σ} {moment : Moment} {event : Event}
    {effects : List Effect} (move : consumer.Moves moment event next effects)
    (serving : event ≠ .accepted) (finished : consumer.reader = .finished) :
    next.reader = .finished := by
  cases move <;> simp_all

/-- The reset is over. -/
theorem not_holdsWhileResetting {consumer : Consumer σ} (finished : consumer.reader = .finished)
    {events : List (Moment × Event)} (serving : ∀ event ∈ events, event.2 ≠ .accepted) :
    ¬ consumer.HoldsWhileResetting events := by
  induction events generalizing consumer with
  | nil =>
    rw [holdsWhileResetting_nil, finished]
    exact fun h => nomatch h.1
  | cons event events ih =>
    obtain ⟨first, others⟩ := List.forall_mem_cons.mp serving
    rw [holdsWhileResetting_cons, finished]
    rintro (⟨resetting, -⟩ | holds)
    · exact nomatch resetting
    · exact ih ((consumer.moves_step event.1 event.2).finished first finished) others holds

/-- The stored state has been removed, and nothing will be tracked any more. -/
def IsForgetting (consumer : Consumer σ) : Prop :=
  consumer.reader = .resetting ∨ consumer.reader = .finished ∧ consumer.tracker = .empty

section Moves

variable {config : ConsumerConfig} {reliable : Reliable σ config.station} {held : Option GapState}
  {consumer next : Consumer σ} {moment : Moment} {event : Event} {past effects : List Effect}

omit [GapStore σ] in
theorem IsForgetting.not_waiting (h : consumer.IsForgetting) : consumer.reader ≠ .waiting := by
  rcases h with resetting | ⟨finished, -⟩
  · exact resetting ▸ nofun
  · exact finished ▸ nofun

/-- The same provider is served until it has left. -/
theorem IsForgetting.move (h : consumer.IsForgetting) (serving : event ≠ .accepted)
    (move : consumer.Moves moment event next effects) : next.IsForgetting := by
  have busy := h.not_waiting
  cases move
  case accepted => exact absurd rfl serving
  case trackerReset => exact .inr ⟨rfl, rfl⟩
  case gapsExpired =>
    refine h.imp_right fun ⟨finished, empty⟩ => ⟨finished, ?_⟩
    rw [empty]
    rfl
  all_goals first | exact h | simp_all [IsForgetting]

/-- Nothing is stored, and nothing is about to be stored. -/
def IsCleared (reliable : Reliable σ config.station) (consumer : Consumer σ) : Prop :=
  reliable.held consumer.store = none ∧ ∀ state, consumer.keeper ≠ .holding state

/-- Unless a state is taken while the reset is under way, a step neither stores one nor does away
with one. -/
theorem isCleared_iff_of_move (tracks : Tracks reliable held consumer past)
    (forgetting : consumer.IsForgetting) (serving : event ≠ .accepted)
    (alone : next.reader = .resetting → ∀ state, next.keeper ≠ .holding state)
    (move : consumer.Moves moment event next effects) :
    IsCleared reliable next ↔ IsCleared reliable consumer := by
  have busy := forgetting.not_waiting
  -- Once the reader is done, there is nothing to be taken or stored.
  have nothing (finished : consumer.reader = .finished) : consumer.tracker.toState = none := by
    rcases forgetting with resetting | ⟨-, empty⟩
    · exact nomatch finished.symm.trans resetting
    · rw [empty]
      rfl
  have kept {other : Consumer σ} (store : other.store = consumer.store)
      (keeper : ∀ state, other.keeper = .holding state ↔ consumer.keeper = .holding state) :
      IsCleared reliable other ↔ IsCleared reliable consumer := by
    unfold IsCleared
    simp only [store, ne_eq, keeper]
  cases move
  case accepted => exact absurd rfl serving
  case stateTaken state expired tracked =>
    rcases forgetting with resetting | ⟨finished, -⟩
    · exact absurd rfl (alone resetting state)
    · exact nomatch (nothing finished).symm.trans tracked
  case stateStored state holding =>
    have stored := (reliable.store_eq state tracks.works).2.2
    refine iff_of_false (fun cleared => ?_) fun cleared => cleared.2 state holding
    obtain ⟨none, -⟩ := cleared
    rw [tracks.config] at none
    exact nomatch none.symm.trans stored
  case drained drained _ =>
    have finished := tracks.coherent.finished_of_drained drained
    exact kept (by rw [persist_of_none (nothing finished)]) fun _ => Iff.rfl
  case closedSilently drained _ =>
    have finished := tracks.coherent.finished_of_drained drained
    exact kept (by rw [persist_of_none (nothing finished)]) fun _ => Iff.rfl
  case stopped idle _ _ =>
    have finished := tracks.coherent.finished_of_idle idle
    exact kept (by rw [persist_of_none (nothing finished)]) fun _ => Iff.rfl
  case customReset waiting _ _ => exact absurd waiting busy
  all_goals first | exact kept rfl fun _ => Iff.rfl | exact kept rfl fun _ => by simp_all

/-- From the removal of the stored state to the end of the connection. -/
theorem held_eq_none_iff (tracks : Tracks reliable held consumer past)
    (forgetting : consumer.IsForgetting) {events : List (Moment × Event)}
    (serving : ∀ event ∈ events, event.2 ≠ .accepted)
    (closed : (consumer.run events).1.state = .closed) :
    (consumer.run events).1.tracker = .empty ∧
      (reliable.held (consumer.run events).1.store = none ↔
        IsCleared reliable consumer ∧ ¬ consumer.HoldsWhileResetting events) := by
  induction events generalizing consumer past with
  | nil =>
    have idle : consumer.isIdle = true := by
      unfold isIdle
      rw [show consumer.state = .closed from closed]
      rfl
    have finished := tracks.coherent.finished_of_idle idle
    have keeper := (tracks.coherent.ended (.inl idle)).2.2
    have empty : consumer.tracker = .empty :=
      forgetting.elim (fun resetting => nomatch finished.symm.trans resetting) And.right
    refine ⟨empty, fun none => ⟨⟨none, fun state => keeper ▸ nofun⟩, ?_⟩, fun h => h.1.1⟩
    rw [holdsWhileResetting_nil, finished]
    exact fun h => nomatch h.1
  | cons event events ih =>
    obtain ⟨first, others⟩ := List.forall_mem_cons.mp serving
    have move := consumer.moves_step event.1 event.2
    obtain ⟨empty, later⟩ := ih (tracks.move move) (forgetting.move first move) others closed
    refine ⟨empty, later.trans ?_⟩
    rw [holdsWhileResetting_cons, not_or, ← and_assoc]
    -- What is held at the next step counts on either side.
    by_cases holds : (consumer.step event.1 event.2).1.HoldsWhileResetting events
    · exact iff_of_false (fun h => h.2 holds) fun h => h.2 holds
    · refine and_congr_left fun _ => ?_
      have alone : (consumer.step event.1 event.2).1.reader = .resetting →
          ∀ state, (consumer.step event.1 event.2).1.keeper ≠ .holding state :=
        fun resetting state holding => holds ⟨[], events, state, rfl, resetting, holding⟩
      rw [isCleared_iff_of_move tracks forgetting first alone move]
      refine ⟨fun cleared => ⟨cleared, ?_⟩, And.left⟩
      rintro ⟨-, state, holding⟩
      exact cleared.2 state holding

end Moves

/-- The first step of a reset. -/
theorem step_customReset {consumer : Consumer σ} (waiting : consumer.reader = .waiting)
    (enabled : consumer.config.resetEnabled = true) {frame : Frame} {payload : Bytes}
    (body : frame.body = .customReset payload) (moment : Moment) :
    (consumer.step moment (.received (.frame frame))).1 =
      { consumer with
        lastContact := moment.uptime, reader := .resetting
        store := (GapStore.remove consumer.store consumer.config.station).2 } := by
  change (consumer.stepReader moment (.received (.frame frame))).1 = _
  unfold stepReader
  rw [waiting]
  dsimp only [receive, handle]
  unfold handleFrame
  rw [body]
  dsimp only
  rw [if_pos enabled]

/-- At the end of a connection on which a reset was asked for, nothing is tracked. Nothing is stored
exactly if at no time between the two steps of the reset a state was held for the store. -/
theorem reset_clears_iff {config : ConsumerConfig} {store : σ} {consumer now : Consumer σ}
    {before : List (Moment × Event)} {past : List Effect}
    (bound : bind config store = .ok consumer) (enabled : config.resetEnabled = true)
    (reliable : Reliable σ config.station) (works : reliable.works store)
    (reached : consumer.run before = (now, past)) (waiting : now.reader = .waiting) {frame : Frame}
    {payload : Bytes} (body : frame.body = .customReset payload) (moment : Moment)
    {others : List (Moment × Event)} (serving : ∀ event ∈ others, event.2 ≠ .accepted)
    {last : Consumer σ} {effects : List Effect}
    (ended : now.run ((moment, .received (.frame frame)) :: others) = (last, effects))
    (closed : last.state = .closed) :
    last.tracker = .empty ∧
      (reliable.held last.store = none ↔
        ¬ now.HoldsWhileResetting ((moment, .received (.frame frame)) :: others)) := by
  have tracks : Tracks reliable (reliable.held store) (consumer.run before).1
      (consumer.run before).2 := tracks_of_run bound reliable works
  rw [reached] at tracks
  have removal := step_customReset waiting (tracks.config ▸ enabled) body moment
  have removed : reliable.held (now.step moment (.received (.frame frame))).1.store = none := by
    rw [removal, tracks.config]
    exact (reliable.remove_eq tracks.works).2.2
  have forgetting : (now.step moment (.received (.frame frame))).1.IsForgetting := by
    rw [removal]
    exact .inl rfl
  obtain rfl : ((now.step moment (.received (.frame frame))).1.run others).1 = last :=
    congrArg Prod.fst ended
  obtain ⟨empty, exact⟩ :=
    held_eq_none_iff (tracks.move (now.moves_step moment _)) forgetting serving closed
  refine ⟨empty, exact.trans ?_⟩
  rw [holdsWhileResetting_cons, waiting]
  constructor
  · rintro ⟨-, alone⟩ (⟨resetting, -⟩ | holds)
    · exact nomatch resetting
    · exact alone holds
  · intro alone
    have alone := fun holds => alone (.inr holds)
    refine ⟨⟨removed, fun state holding => alone ⟨[], others, state, rfl, ?_, holding⟩⟩, alone⟩
    exact congrArg Consumer.reader removal

/-- A consumer with a first number that has been stored, if `store` says so, while the task that
keeps the gap state is at `keeper`. -/
def keeping (store : MemoryStore) (keeper : KeeperTask) : Consumer MemoryStore :=
  { serving with tracker := some (.single 7), store, keeper }

/-- The same consumer after the first step of a reset. -/
theorem step_keeping {frame : Frame} {payload : Bytes} (body : frame.body = .customReset payload)
    (store : MemoryStore) (keeper : KeeperTask) :
    ((keeping store keeper).step ⟨0, 0⟩ (.received (.frame frame))).1 =
      { keeping (store.erase "STA") keeper with reader := .resetting } :=
  step_customReset rfl rfl body ⟨0, 0⟩

theorem run_keeping {frame : Frame} {payload : Bytes} (body : frame.body = .customReset payload)
    (store : MemoryStore) (keeper : KeeperTask) (events : List Event) :
    ((keeping store keeper).run (atOnce (.received (.frame frame) :: events))).1 =
      ({ keeping (store.erase "STA") keeper with reader := .resetting }.run (atOnce events)).1 := by
  rw [← step_keeping body]
  rfl

/-- Something is due to be stored, but it is looked at only after the reset. -/
theorem reset_clears_iff_in_time :
    ∃ frame reset now past last effects,
      Endpoint.standard.data [Endpoint.silence 40] 7 = .ok frame ∧
      Endpoint.standard.customReset = .ok reset ∧
      fresh.run (atOnce [.accepted, .received (.frame frame), .published none, .storeDue,
        .stateTaken, .stateStored]) = (now, past) ∧ now.store.get? "STA" = some ⟨7, 7, []⟩ ∧
      now.run (atOnce [.received (.frame reset), .storeDue, .trackerReset, .stateTaken,
        .acknackEnded, .watchEnded, .keepingEnded, .drained, .farewellWritten true]) =
        (last, effects) ∧ last.state = .closed ∧ last.store.get? "STA" = none := by
  obtain ⟨frame, content, sent, number, body, -⟩ := Endpoint.exists_silence 7
  obtain ⟨reset, made⟩ : ∃ reset, Endpoint.standard.customReset = .ok reset := ⟨_, rfl⟩
  obtain ⟨-, -, resetBody⟩ := Frame.parts_of_compose made
  obtain ⟨alert, farewell⟩ : ∃ alert, Endpoint.standard.alert farewellMessage = .ok alert :=
    ⟨_, rfl⟩
  have received := run_received body
  rw [number] at received
  obtain ⟨past, reached⟩ : ∃ past, fresh.run (atOnce [.accepted, .received (.frame frame),
      .published none, .storeDue, .stateTaken, .stateStored]) =
      (keeping ⟨[("STA", ⟨7, 7, []⟩)]⟩ .waiting, past) :=
    ⟨_, run_append received (atOnce [.published none, .storeDue, .stateTaken, .stateStored])⟩
  have serving : ∀ event ∈ atOnce [.storeDue, .trackerReset, .stateTaken, .acknackEnded,
      .watchEnded, .keepingEnded, .drained, .farewellWritten true], event.2 ≠ .accepted := by
    decide
  have alone : ¬ (keeping ⟨[("STA", ⟨7, 7, []⟩)]⟩ .waiting).HoldsWhileResetting
      (atOnce [.received (.frame reset), .storeDue, .trackerReset, .stateTaken, .acknackEnded,
        .watchEnded, .keepingEnded, .drained, .farewellWritten true]) := by
    rintro holds
    rcases holdsWhileResetting_cons.mp holds with ⟨resetting, -⟩ | holds
    · exact nomatch resetting
    rw [step_keeping resetBody] at holds
    rcases holdsWhileResetting_cons.mp holds with ⟨-, state, holding⟩ | holds
    · exact nomatch holding
    rcases holdsWhileResetting_cons.mp holds with ⟨-, state, holding⟩ | holds
    · exact nomatch holding
    · exact not_holdsWhileResetting rfl (by decide) holds
  have closed : ((keeping ⟨[("STA", ⟨7, 7, []⟩)]⟩ .waiting).run (atOnce [.received (.frame reset),
      .storeDue, .trackerReset, .stateTaken, .acknackEnded, .watchEnded, .keepingEnded, .drained,
      .farewellWritten true])).1.state = .closed := by
    rw [run_keeping resetBody]
    rfl
  obtain ⟨-, exact⟩ := reset_clears_iff bind_fresh rfl (MemoryStore.reliable "STA") trivial reached
    rfl resetBody ⟨0, 0⟩ serving rfl closed
  exact ⟨frame, reset, _, past, _, _, sent, made, reached, rfl, rfl, closed, exact.mpr alone⟩

/-- A state that was taken before the reset is stored after it, and is still there in the end. -/
theorem reset_leaves_held :
    bind { station := "STA" } MemoryStore.empty = .ok fresh ∧ fresh.config.resetEnabled = true ∧
      ∃ frame reset now past last effects,
        Endpoint.standard.data [Endpoint.silence 40] 7 = .ok frame ∧
        Endpoint.standard.customReset = .ok reset ∧
        fresh.run (atOnce [.accepted, .received (.frame frame), .published none, .storeDue,
          .stateTaken]) = (now, past) ∧
        now.run (atOnce [.received (.frame reset), .trackerReset, .stateStored, .acknackEnded,
          .watchEnded, .keepingEnded, .drained, .farewellWritten true]) = (last, effects) ∧
        last.state = .closed ∧ last.tracker = .empty ∧
        last.store.get? "STA" = some ⟨7, 7, []⟩ := by
  obtain ⟨frame, content, sent, number, body, -⟩ := Endpoint.exists_silence 7
  obtain ⟨reset, made⟩ : ∃ reset, Endpoint.standard.customReset = .ok reset := ⟨_, rfl⟩
  obtain ⟨-, -, resetBody⟩ := Frame.parts_of_compose made
  have received := run_received body
  rw [number] at received
  obtain ⟨past, reached⟩ : ∃ past, fresh.run (atOnce [.accepted, .received (.frame frame),
      .published none, .storeDue, .stateTaken]) = (keeping .empty (.holding ⟨7, 7, []⟩), past) :=
    ⟨_, run_append received (atOnce [.published none, .storeDue, .stateTaken])⟩
  have ended := run_keeping resetBody .empty (.holding ⟨7, 7, []⟩) [.trackerReset, .stateStored,
    .acknackEnded, .watchEnded, .keepingEnded, .drained, .farewellWritten true]
  refine ⟨bind_fresh, rfl, frame, reset, _, past, _, _, sent, made, reached, rfl, ?_, ?_, ?_⟩
  · exact congrArg Consumer.state ended
  · exact congrArg Consumer.tracker ended
  · exact congrArg (fun last => last.store.get? "STA") ended

end Consumer

end ContinuousData
