import ContinuousData.Proofs.Restarts
import ContinuousData.Proofs.TrueAcknowledgements

/-! What is tracked over connections and restarts. Consumers follow one another over one store;
where nothing but DATA frames is read and no gaps are given up, the last of them tracks what a single
one would have tracked on a single connection. -/
namespace ContinuousData

namespace GapList

variable {list : GapList} {history : History}

theorem missingNumbers_stored (list : GapList) :
    list.stored.missingNumbers = list.missingNumbers := by
  ext n
  constructor
  · rintro ⟨_, member, contains⟩
    obtain ⟨gap, hg, rfl⟩ := List.mem_map.mp member
    exact ⟨gap, hg, contains⟩
  · rintro ⟨gap, hg, contains⟩
    exact ⟨gap.stored, List.mem_map_of_mem hg, contains⟩

/-- Storage takes something off the times only. -/
theorem Follows.stored (h : list.Follows history) : list.stored.Follows history where
  spaced := by
    refine ⟨h.spaced.bounds, fun gap member => ?_, List.pairwise_map.mpr h.spaced.apart⟩
    obtain ⟨before, hg, rfl⟩ := List.mem_map.mp member
    exact h.spaced.inside before hg
  min_mem := h.min_mem
  max_mem := h.max_mem
  subset := h.subset
  bounds := h.bounds
  missing n := by
    rw [missingNumbers_stored]
    exact h.missing n

end GapList

namespace Consumer

variable {σ : Type} [GapStore σ] {config : ConsumerConfig} {station : String} {store : σ}
  {consumer started now : Consumer σ} {frames : List Frame} {events : List (Moment × Event)}

/-- What a consumer has been through, from the start of the program: on any number of connections it
has read nothing but DATA frames, and no gaps are given up. -/
structure Life (config : ConsumerConfig) (store : σ) (frames : List Frame) (now : Consumer σ) :
    Prop where
  never : config.gapExpiration = none
  data : ∀ frame ∈ frames, frame.body.type = .data
  lived : ∃ started events past, bind config store = .ok started ∧
    started.run events = (now, past) ∧ past.filterMap Effect.handled? = frames.map .frame

/-- Consumers of a station that follow one another. Each is started when the one before has stopped,
over the store that this one leaves, and the frames are those that all of them have read. -/
inductive Succession (station : String) (store : σ) : List Frame → Consumer σ → Prop where
  | first {config : ConsumerConfig} {frames : List Frame} {now : Consumer σ}
      (same : config.station = station) (life : Life config store frames now) :
      Succession station store frames now
  | next {config : ConsumerConfig} {earlier frames : List Frame} {last now : Consumer σ}
      (before : Succession station store earlier last) (stopped : last.stopped = true)
      (same : config.station = station) (life : Life config last.store frames now) :
      Succession station store (earlier ++ frames) now

theorem Succession.data (h : Succession station store frames now) :
    ∀ frame ∈ frames, frame.body.type = .data := by
  induction h with
  | first _ life => exact life.data
  | next _ _ _ life ih => exact List.forall_mem_append.mpr ⟨ih, life.data⟩

/-- A reader that has read nothing but DATA frames does not empty the tracker. -/
theorem keeps_of_run (keeps : consumer.reader.Keeps) (reads : ReadsData (consumer.run events).2) :
    (consumer.run events).1.reader.Keeps := by
  have always := @run_keeps σ _ consumer events
    (fun now past => ReadsData past → now.reader.Keeps) (fun _ => keeps)
  refine always (fun _ before move reads => ?_) reads
  refine keeps_of_move (before fun incoming handled => ?_) (fun incoming handled => ?_) move
  · exact reads incoming (List.mem_append_left _ handled)
  · exact reads incoming (List.mem_append_right _ handled)

theorem keeps_at_front {front back : List (Moment × Event)} (keeps : consumer.reader.Keeps)
    (reads : ReadsData (consumer.run (front ++ back)).2) :
    (consumer.run front).1.reader.Keeps := by
  refine keeps_of_run keeps fun incoming handled => reads incoming ?_
  rw [run_append rfl]
  exact List.mem_append_left _ handled

theorem tracker_of_bind (bound : bind config store = .ok started)
    (reliable : Reliable σ config.station) (works : reliable.works store) :
    started.tracker = restored (.ok (reliable.held store)) := by
  obtain ⟨-, endpoint, -, rfl⟩ := bind_eq_ok.mp bound
  rw [← (reliable.load_eq works).1]

/-- What is tracked at the end of a life, and what it leaves in the store for the next one. -/
theorem Life.follows (life : Life config store frames now)
    (reliable : Reliable σ config.station) (works : reliable.works store) {history : History}
    (begins : (restored (.ok (reliable.held store))).Follows history) :
    now.tracker.Follows (history.add (numbers frames)) ∧ now.config = config ∧
      reliable.works now.store ∧
      (now.stopped = true →
        (restored (.ok (reliable.held now.store))).Follows (history.add (numbers frames)) ∧
          ∃ next, bind config now.store = .ok next ∧
            next.tracker = restored (.ok (reliable.held now.store))) := by
  obtain ⟨never, data, started, events, past, bound, ran, handled⟩ := life
  obtain rfl : (started.run events).1 = now := congrArg Prod.fst ran
  obtain rfl : (started.run events).2 = past := congrArg Prod.snd ran
  have tracks : Tracks reliable _ (started.run events).1 (started.run events).2 :=
    tracks_of_run bound reliable works
  rw [← tracker_of_bind bound reliable works] at begins
  obtain ⟨keeps, config⟩ : started.reader.Keeps ∧ started.config = config := by
    obtain ⟨-, endpoint, -, rfl⟩ := bind_eq_ok.mp bound
    exact ⟨⟨nofun, nofun⟩, rfl⟩
  obtain ⟨reads, counted⟩ := counted_of_handled handled data
  have follows := follows_run begins keeps reads
  rw [counted, givenUp_eq_empty (config ▸ never), History.drop_empty] at follows
  refine ⟨follows, tracks.config, tracks.works, fun stopped => ⟨?_, ?_⟩⟩
  · rw [tracks.holds]
    cases tracked : (started.run events).1.tracker with
    | some list =>
      rw [tracked] at follows
      have spaced := GapList.Follows.spaced follows
      have same := (restored_ofList_iff spaced).mpr (spaced.isNonadjacent_iff.mpr spaced)
      rw [tracks.final stopped _ (congrArg Tracker.toState tracked), same]
      exact GapList.Follows.stored follows
    | none =>
      -- Then nothing has been read, and what was found in the store is still there.
      rw [tracked] at follows
      have retains := @retains_of_run σ _ _ _ _ events bound reliable works
        (fun list member => ?_) (fun front moment back split peerHighest comparing => ?_)
        (fun front back split resetting => ?_)
      · rwa [retains.nothing tracked]
      · rw [member] at begins
        exact ⟨GapList.Follows.min_not_missing begins, GapList.Follows.max_not_missing begins⟩
      · exact absurd comparing ((keeps_at_front keeps (split ▸ reads)).2 peerHighest)
      · exact absurd resetting (keeps_at_front keeps (split ▸ reads)).1
  · obtain ⟨next, found, tracker⟩ := exists_next bound reliable tracks
    exact ⟨next, found, tracks.holds ▸ tracker⟩

theorem Succession.follows (h : Succession station store frames now)
    (reliable : Reliable σ station) (works : reliable.works store) {history : History}
    (begins : (restored (.ok (reliable.held store))).Follows history) :
    now.tracker.Follows (history.add (numbers frames)) ∧ reliable.works now.store ∧
      (now.stopped = true →
        (restored (.ok (reliable.held now.store))).Follows (history.add (numbers frames)) ∧
          ∃ next, bind now.config now.store = .ok next ∧
            next.tracker = restored (.ok (reliable.held now.store))) := by
  induction h with
  | first same life =>
    subst same
    obtain ⟨follows, config, works, later⟩ := life.follows reliable works begins
    exact ⟨follows, works, config ▸ later⟩
  | next before stopped same life ih =>
    subst same
    obtain ⟨-, works, later⟩ := ih
    obtain ⟨follows, config, works, later⟩ := life.follows reliable works (later stopped).1
    rw [History.add_add, ← numbers_append] at follows later
    exact ⟨follows, works, config ▸ later⟩

/-- A DATA frame is read and published. -/
def reading (frame : Frame) : List Event :=
  [.received (.frame frame), .published none]

/-- Frames are read on a connection of their own. -/
def connection (frames : List Frame) : List Event :=
  .accepted :: frames.flatMap reading ++ leaving ++ [.drained, .farewellWritten true]

theorem atOnce_append (events others : List Event) :
    atOnce (events ++ others) = atOnce events ++ atOnce others :=
  List.map_append

/-- A consumer without a provider that has not been told to stop. -/
structure IsReady (consumer : Consumer σ) : Prop where
  idle : consumer.isIdle = true
  going : consumer.stopping = false
  running : consumer.stopped = false
  built : consumer.endpoint.IsBuilt

/-- A connection on which all tasks wait. -/
structure IsOpen (consumer : Consumer σ) : Prop where
  reader : consumer.reader = .waiting
  acknack : consumer.acknack = .waiting
  watching : consumer.watching = true
  keeper : consumer.keeper = .waiting
  farewell : consumer.farewell = none
  going : consumer.stopping = false
  running : consumer.stopped = false
  built : consumer.endpoint.IsBuilt

theorem isReady_of_bind (bound : bind config store = .ok consumer) : consumer.IsReady := by
  have built := (writesInKind_of_bind bound).built
  obtain ⟨-, endpoint, -, rfl⟩ := bind_eq_ok.mp bound
  exact ⟨rfl, rfl, rfl, built⟩

theorem IsReady.accepted (ready : consumer.IsReady) :
    ∃ now, consumer.run (atOnce [.accepted]) =
      (now, [.entered .connecting, .entered .connected]) ∧ now.IsOpen := by
  have possible : (consumer.isIdle && !consumer.stopping) = true := by
    rw [ready.idle, ready.going]
    rfl
  have first : consumer.step ⟨0, 0⟩ .accepted = consumer.accept ⟨0, 0⟩ := if_pos possible
  refine ⟨(consumer.accept ⟨0, 0⟩).1, ?_, ?_⟩
  · change ((consumer.step ⟨0, 0⟩ .accepted).1, (consumer.step ⟨0, 0⟩ .accepted).2 ++ []) = _
    rw [first]
    rfl
  · exact ⟨rfl, rfl, rfl, rfl, rfl, ready.going, ready.running, ready.built⟩

theorem IsOpen.reads {frame : Frame} (waits : consumer.IsOpen) (data : frame.body.type = .data) :
    ∃ now, consumer.run (atOnce (reading frame)) =
      (now, [.handled (.frame frame), .published frame none]) ∧ now.IsOpen := by
  obtain ⟨header, body, trailer, raw⟩ := frame
  obtain ⟨reader, acknack, watching, keeper, farewell, going, running, built⟩ := waits
  obtain ⟨_, _, _, _, _, _, _, _, _, _, _, _, _, _⟩ := consumer
  obtain rfl := reader
  cases body with
  | data => exact ⟨_, rfl, rfl, acknack, watching, keeper, farewell, going, running, built⟩
  | _ => exact nomatch data

theorem IsOpen.readsAll (waits : consumer.IsOpen)
    (data : ∀ frame ∈ frames, frame.body.type = .data) :
    ∃ now past, consumer.run (atOnce (frames.flatMap reading)) = (now, past) ∧ now.IsOpen ∧
      past.filterMap Effect.handled? = frames.map .frame := by
  induction frames generalizing consumer with
  | nil => exact ⟨consumer, [], rfl, waits, rfl⟩
  | cons frame frames ih =>
    obtain ⟨first, data⟩ := List.forall_mem_cons.mp data
    obtain ⟨next, read, waits⟩ := waits.reads first
    obtain ⟨now, past, others, waits, handled⟩ := ih waits data
    refine ⟨now, [.handled (.frame frame), .published frame none] ++ past, ?_, waits, ?_⟩
    · rw [List.flatMap_cons, atOnce_append, run_append read, others]
    · rw [List.filterMap_append, handled]
      rfl

theorem IsOpen.closes (waits : consumer.IsOpen) :
    ∃ now past, consumer.run (atOnce (leaving ++ [.drained, .farewellWritten true])) = (now, past) ∧
      now.IsReady ∧ past.filterMap Effect.handled? = [] := by
  obtain ⟨reader, acknack, watching, keeper, farewell, going, running, built⟩ := waits
  have drained : consumer.left.isDrained = true := by simp [isDrained, left, farewell]
  obtain ⟨alert, made⟩ := built.exists_farewell
  have gone := run_concat (run_leaving reader acknack watching keeper) ⟨0, 0⟩ .drained
  rw [step_drained drained made] at gone
  refine ⟨_, _, run_concat gone ⟨0, 0⟩ (.farewellWritten true), ⟨rfl, going, running, built⟩, ?_⟩
  rw [List.filterMap_append, List.filterMap_append, filterMap_persist fun _ _ => rfl]
  rfl

theorem IsReady.serves (ready : consumer.IsReady)
    (data : ∀ frame ∈ frames, frame.body.type = .data) :
    ∃ now past, consumer.run (atOnce (connection frames)) = (now, past) ∧ now.IsReady ∧
      past.filterMap Effect.handled? = frames.map .frame := by
  obtain ⟨now, accepted, waits⟩ := ready.accepted
  obtain ⟨now, past, read, waits, handled⟩ := waits.readsAll data
  obtain ⟨now, others, closed, ready, silent⟩ := waits.closes
  have split : connection frames = [.accepted] ++ (frames.flatMap reading ++
      (leaving ++ [.drained, .farewellWritten true])) := by
    simp [connection]
  refine ⟨now, [.entered .connecting, .entered .connected] ++ (past ++ others), ?_, ready, ?_⟩
  · rw [split, atOnce_append, run_append accepted, atOnce_append, run_append read, closed]
  · rw [List.filterMap_append, List.filterMap_append, handled, silent, List.append_nil]
    rfl

theorem IsReady.servesAll {lists : List (List Frame)} (ready : consumer.IsReady)
    (data : ∀ frame ∈ lists.flatten, frame.body.type = .data) :
    ∃ now past, consumer.run (atOnce (lists.flatMap connection)) = (now, past) ∧ now.IsReady ∧
      past.filterMap Effect.handled? = lists.flatten.map .frame := by
  induction lists generalizing consumer with
  | nil => exact ⟨consumer, [], rfl, ready, rfl⟩
  | cons frames lists ih =>
    rw [List.flatten_cons, List.forall_mem_append] at data
    obtain ⟨next, past, served, ready, handled⟩ := ready.serves data.1
    obtain ⟨now, others, servedAll, ready, handledAll⟩ := ih ready data.2
    refine ⟨now, past ++ others, ?_, ready, ?_⟩
    · rw [List.flatMap_cons, atOnce_append, run_append served, servedAll]
    · rw [List.filterMap_append, handled, handledAll, List.flatten_cons, List.map_append]

omit [GapStore σ] in
theorem numbers_eq_of_perm {others : List Frame} (same : others.Perm frames) :
    numbers others = numbers frames :=
  Set.ext fun _ => exists_congr fun _ => and_congr_left fun _ => same.mem_iff

/-- Any number of connections, and a shutdown after them. -/
theorem exists_life (bound : bind config store = .ok started) (never : config.gapExpiration = none)
    {lists : List (List Frame)} (data : ∀ frame ∈ lists.flatten, frame.body.type = .data) :
    ∃ now, Life config store lists.flatten now ∧ now.stopped = true := by
  obtain ⟨last, past, served, ready, handled⟩ := (isReady_of_bind bound).servesAll data
  have told := run_concat served ⟨0, 0⟩ .shutdown
  have ended := run_concat told ⟨0, 0⟩ .stopped
  rw [step_stopped ?_ rfl ?_] at ended
  refine ⟨_, ⟨never, data, started, _, _, bound, ended, ?_⟩, rfl⟩
  · rw [List.filterMap_append, List.filterMap_append, filterMap_persist fun _ _ => rfl, handled]
    simp [step]
  · exact ready.idle
  · exact ready.running

theorem exists_rebound (bound : bind config store = .ok started) (other : σ) :
    ∃ next, bind config other = .ok next := by
  obtain ⟨checked, endpoint, made, -⟩ := bind_eq_ok.mp bound
  exact ⟨_, bind_eq_ok.mpr ⟨checked, endpoint, made, rfl⟩⟩

/-- Consumers with the same settings can go on as often as there are frames for them. -/
theorem Succession.exists_later {last : Consumer σ}
    (h : Succession config.station store frames last) (stopped : last.stopped = true)
    (bound : bind config store = .ok started) (never : config.gapExpiration = none)
    (lives : List (List (List Frame)))
    (data : ∀ frame ∈ lives.flatten.flatten, frame.body.type = .data) :
    ∃ now, Succession config.station store (frames ++ lives.flatten.flatten) now ∧
      now.stopped = true := by
  induction lives generalizing frames last with
  | nil => exact ⟨last, by simpa using h, stopped⟩
  | cons lists lives ih =>
    rw [List.flatten_cons, List.flatten_append] at data ⊢
    rw [List.forall_mem_append] at data
    obtain ⟨_, again⟩ := exists_rebound bound last.store
    obtain ⟨next, life, stoppedToo⟩ := exists_life again never data.1
    obtain ⟨now, later, stopped⟩ := ih (.next h stopped rfl life) stoppedToo data.2
    exact ⟨now, by rwa [← List.append_assoc], stopped⟩

theorem exists_succession (bound : bind config store = .ok started)
    (never : config.gapExpiration = none) {lists : List (List Frame)}
    {lives : List (List (List Frame))}
    (data : ∀ frame ∈ (lists :: lives).flatten.flatten, frame.body.type = .data) :
    ∃ now, Succession config.station store (lists :: lives).flatten.flatten now ∧
      now.stopped = true := by
  rw [List.flatten_cons, List.flatten_append] at data ⊢
  rw [List.forall_mem_append] at data
  obtain ⟨first, life, stopped⟩ := exists_life bound never data.1
  exact (Succession.first rfl life).exists_later stopped bound never lives data.2

/-- However DATA frames are spread over connections and restarts, the last consumer tracks what is
tracked after any run that reads them in any order, be it on a single connection. The store may hold
a state at the start if the bounds of that were received, as those of all states are that consumers
leave in a store without one. -/
theorem view_of_succession (bound : bind config store = .ok started)
    (never : config.gapExpiration = none) (reliable : Reliable σ config.station)
    (works : reliable.works store)
    (bounds : ∀ list ∈ started.tracker,
      list.min ∉ list.missingNumbers ∧ list.max ∉ list.missingNumbers) :
    (∀ lists lives, (∀ frame ∈ (lists :: lives).flatten.flatten, frame.body.type = .data) →
      ∃ now : Consumer σ, Succession config.station store (lists :: lives).flatten.flatten now ∧
        now.stopped = true) ∧
    ∀ frames now, Succession config.station store frames now →
      (now.stopped = true → ∃ next, bind now.config now.store = .ok next ∧
        next.tracker.view = now.tracker.view) ∧
      ∀ others, others.Perm frames →
        (∀ events single past, started.run events = (single, past) →
          past.filterMap Effect.handled? = others.map .frame →
          single.tracker.view = now.tracker.view) ∧
        ∃ single past, started.run (atOnce (connection others)) = (single, past) ∧
          past.filterMap Effect.handled? = others.map .frame ∧
          single.tracker.view = now.tracker.view := by
  obtain ⟨history, begins⟩ := (retains_of_bind bound reliable works bounds).follows
  rw [tracker_of_bind bound reliable works] at begins
  refine ⟨fun lists lives data => exists_succession bound never data, ?_⟩
  intro frames now lives
  obtain ⟨follows, -, later⟩ := lives.follows reliable works begins
  refine ⟨fun stopped => ?_, fun others same => ?_⟩
  · obtain ⟨stays, next, started, tracker⟩ := later stopped
    exact ⟨next, started, Tracker.view_eq_of_follows (tracker ▸ stays) follows⟩
  · have data : ∀ frame ∈ others, frame.body.type = .data :=
      fun frame hf => lives.data frame (same.subset hf)
    have single_eq : ∀ events single past, started.run events = (single, past) →
        past.filterMap Effect.handled? = others.map .frame →
        single.tracker.view = now.tracker.view := by
      intro events single past ran handled
      have life : Life config store others single :=
        ⟨never, data, started, events, past, bound, ran, handled⟩
      have alone := (life.follows reliable works begins).1
      rw [numbers_eq_of_perm same] at alone
      exact Tracker.view_eq_of_follows alone follows
    obtain ⟨single, past, served, -, handled⟩ := (isReady_of_bind bound).serves data
    exact ⟨single_eq, single, past, served, handled, single_eq _ single past served handled⟩

/-- A restart between two numbers. -/
theorem view_of_succession_restarted :
    ∃ first second last, Endpoint.standard.data [Endpoint.silence 40] 7 = .ok first ∧
      Endpoint.standard.data [Endpoint.silence 40] 5 = .ok second ∧
      bind { station := "STA" } MemoryStore.empty = .ok fresh ∧
      Succession "STA" MemoryStore.empty [first, second] last ∧
      last.tracker.view = (some 5, some 7, [(6, 6)]) := by
  obtain ⟨first, second, content, other, sent, sent', number, number', body, body', -⟩ :=
    exists_reversed
  obtain ⟨possible, same⟩ :=
    view_of_succession bind_fresh rfl (MemoryStore.reliable "STA") trivial nofun
  obtain ⟨last, lives, -⟩ := possible [[first]] [[[second]]] (by simp [body, body', Body.type])
  have reached := run_received_data body' body
  rw [number, number'] at reached
  refine ⟨first, second, last, sent, sent', bind_fresh, lives, ?_⟩
  exact (((same _ last lives).2 [second, first] (.swap _ _ _)).1 _ _ _ reached rfl).symm

end Consumer

end ContinuousData
