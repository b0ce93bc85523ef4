import ContinuousData.Proofs.ConsumerMoves
import ContinuousData.Proofs.GapRestoring

/-! What a consumer tracks over restarts. The next consumer finds what the last one stored, which is
what it tracked when it stopped unless the tracker was emptied and the stored state was left behind,
or unless gaps touch. -/
namespace ContinuousData

/-- Stores that work for a station: what they are asked for succeeds, and they hold a state until it
is replaced or removed. -/
structure Reliable (σ : Type) [GapStore σ] (station : String) where
  works : σ → Prop
  held : σ → Option GapState
  load_eq : ∀ {store}, works store →
    (GapStore.load store station).1 = .ok (held store) ∧
      works (GapStore.load store station).2 ∧ held (GapStore.load store station).2 = held store
  store_eq : ∀ {store} state, works store →
    (GapStore.store store station state).1 = .ok () ∧
      works (GapStore.store store station state).2 ∧
      held (GapStore.store store station state).2 = some state
  remove_eq : ∀ {store}, works store →
    (GapStore.remove store station).1 = .ok () ∧
      works (GapStore.remove store station).2 ∧ held (GapStore.remove store station).2 = none

namespace MemoryStore

theorem get?_insert (store : MemoryStore) (station : String) (state : GapState) :
    (store.insert station state).get? station = some state := by
  simp [insert, get?]

theorem get?_erase (store : MemoryStore) (station : String) :
    (store.erase station).get? station = none := by
  refine List.lookup_eq_none_iff.mpr fun entry member => ?_
  have other := (List.mem_filter.mp member).2
  exact bne_iff_ne.mpr (Ne.symm (of_decide_eq_true other))

/-- Memory never fails. -/
def reliable (station : String) : Reliable MemoryStore station where
  works _ := True
  held store := store.get? station
  load_eq _ := ⟨rfl, trivial, rfl⟩
  store_eq state _ := ⟨rfl, trivial, get?_insert _ station state⟩
  remove_eq _ := ⟨rfl, trivial, get?_erase _ station⟩

end MemoryStore

namespace GapList

variable {list : GapList}

/-- A list as it comes back from storage. -/
def stored (list : GapList) : GapList :=
  { list with gaps := list.gaps.map Gap.stored }

/-- The shortest history of a list: what is not missing has been added. -/
def history (list : GapList) : History where
  added := {n | (list.min ≤ n ∧ n ≤ list.max) ∧ n ∉ list.missingNumbers}
  received := {n | (list.min ≤ n ∧ n ≤ list.max) ∧ n ∉ list.missingNumbers}

theorem IsSpaced.follows (h : list.IsSpaced ∅) (min : list.min ∉ list.missingNumbers)
    (max : list.max ∉ list.missingNumbers) : list.Follows list.history where
  spaced := h
  min_mem := ⟨⟨UInt64.le_refl _, h.bounds⟩, min⟩
  max_mem := ⟨⟨h.bounds, UInt64.le_refl _⟩, max⟩
  subset := subset_rfl
  bounds _ inside := inside.1
  missing _ := ⟨fun missing => ⟨h.of_missing missing, fun inside => inside.2 missing⟩,
    fun ⟨inside, absent⟩ => by_contra fun present => absent ⟨inside, present⟩⟩

end GapList

namespace Consumer

namespace Effect

/-- What is held after an operation on the store. -/
def keep (held : Option GapState) : Effect → Option GapState
  | stored state none => some state
  | removed none => none
  | _ => held

end Effect

/-- What the operations of a consumer leave in its store. -/
def kept (held : Option GapState) (effects : List Effect) : Option GapState :=
  effects.foldl Effect.keep held

theorem kept_append (held : Option GapState) (past effects : List Effect) :
    kept held (past ++ effects) = kept (kept held past) effects :=
  List.foldl_append

/-- A list comes back from its stored state exactly when its gaps do not touch. -/
theorem restored_ofList_iff {list : GapList} {seams : Set UInt64} (h : list.IsSpaced seams) :
    restored (.ok (some (.ofList list))) = some list.stored ↔ list.IsNonadjacent := by
  rw [h.isNonadjacent_iff]
  constructor
  · intro same
    cases accepted : Tracker.reload (some list) with
    | ok tracker => exact Tracker.spaced_of_reload h accepted
    | error reason =>
      change Tracker.ofState (.ofList list) = .error reason at accepted
      unfold restored at same
      dsimp only at same
      rw [accepted] at same
      exact nomatch same
  · intro spaced
    have accepted : Tracker.ofState (.ofList list) = .ok (some list.stored) :=
      Tracker.reload_of_spaced spaced
    unfold restored
    dsimp only
    rw [accepted]

theorem spaced_of_restored {outcome : Except Error (Option GapState)} {list : GapList}
    (h : restored outcome = some list) : list.IsSpaced ∅ := by
  unfold restored at h
  split at h
  case h_1 state =>
    split at h
    case h_1 tracker accepted =>
      obtain ⟨found, toList, same⟩ := ContinuousData.bind_eq_ok.mp accepted
      obtain rfl := Option.some.inj ((pure_eq_ok.mp same).trans h)
      exact GapList.ofParts_eq_ok toList
    case h_2 => exact nomatch h
  case h_2 => exact nomatch h

section Stores

variable {σ : Type} [GapStore σ] {consumer next : Consumer σ} {moment : Moment} {event : Event}
  {effects : List Effect}

/-- A step leaves the store alone, or makes it store or remove a state. -/
inductive Stores (consumer next : Consumer σ) (effects : List Effect) : Prop where
  | alone (same : next.store = consumer.store) (kept : ∀ held, kept held effects = held)
      (resetting : next.reader = .resetting → consumer.reader = .resetting)
  | stored (state : GapState)
      (origin : consumer.keeper = .holding state ∨
        consumer.reader = .finished ∧ consumer.tracker.toState = some state)
      (store : next.store = (GapStore.store consumer.store consumer.config.station state).2)
      (kept : ∀ held, kept held effects = Effect.keep held (.stored state
        (failure? (GapStore.store consumer.store consumer.config.station state).1)))
      (resetting : next.reader = .resetting → consumer.reader = .resetting)
  | removed (store : next.store = (GapStore.remove consumer.store consumer.config.station).2)
      (kept : ∀ held, kept held effects = Effect.keep held (.removed
        (failure? (GapStore.remove consumer.store consumer.config.station).1)))

theorem stores_persist (ended : consumer.reader = .finished)
    (store : next.store = consumer.persist.1.store) (reader : next.reader = consumer.reader)
    (others : List Effect) (alone : ∀ held, kept held others = held) :
    consumer.Stores next (consumer.persist.2 ++ others) := by
  cases tracked : consumer.tracker.toState with
  | some state =>
    rw [persist_of_some tracked] at store ⊢
    exact .stored state (.inr ⟨ended, tracked⟩) store (fun held => alone _) (reader ▸ id)
  | none =>
    rw [persist_of_none tracked] at store ⊢
    exact .alone store alone (reader ▸ id)

theorem stores_of_move (coherent : consumer.IsCoherent)
    (move : consumer.Moves moment event next effects) : consumer.Stores next effects := by
  cases move
  case customReset => exact .removed rfl fun _ => rfl
  case stateStored state holding => exact .stored state (.inl holding) rfl (fun _ => rfl) id
  case drained alert drained made =>
    have ended := coherent.finished_of_drained drained
    rw [← List.append_nil consumer.persist.2]
    refine stores_persist ended ?_ ?_ [] fun _ => rfl <;> rfl
  case closedSilently reason drained failed =>
    have ended := coherent.finished_of_drained drained
    refine stores_persist ended ?_ ?_ [.alertFailed reason, .entered .closed] fun _ => rfl <;> rfl
  case stopped idle _ _ =>
    have ended := coherent.finished_of_idle idle
    rw [← List.append_nil consumer.persist.2]
    refine stores_persist ended ?_ ?_ [] fun _ => rfl <;> rfl
  all_goals exact .alone rfl (fun _ => rfl) (fun resetting => by simp_all)

/-- After the end nothing changes; it comes with storing what is tracked. -/
theorem Moves.stopped_cases (coherent : consumer.IsCoherent)
    (move : consumer.Moves moment event next effects) (stopped : next.stopped = true) :
    next.tracker = consumer.tracker ∧
      (consumer.stopped = true ∧ (∀ held, kept held effects = held) ∨
        effects = consumer.persist.2) := by
  have idle : consumer.stopped = true → consumer.isIdle = true := fun h => (coherent.stopped h).2
  have reader (h : consumer.stopped = true) := coherent.finished_of_idle (idle h)
  have keeper (h : consumer.stopped = true) := (coherent.ended (.inl (idle h))).2.2
  cases move
  case stopped => exact ⟨rfl, .inr rfl⟩
  -- All tasks have come to their ends, and no others are started.
  case accepted going => exact nomatch (coherent.stopped stopped).1.symm.trans going
  case data busy _ | commandResponse busy _ | customReset busy _ _ =>
    exact nomatch (reader stopped).symm.trans busy
  case compared busy | trackerReset busy => exact nomatch (reader stopped).symm.trans busy
  case gapsExpired busy _ | stateStored busy => exact nomatch (keeper stopped).symm.trans busy
  case drained drained _ | closedSilently drained _ =>
    exact absurd (idle stopped) (not_idle_of_drained drained)
  all_goals exact ⟨rfl, .inl ⟨stopped, fun _ => rfl⟩⟩

end Stores

section Trackers

variable {σ : Type} {consumer next : Consumer σ} {moment : Moment} {event : Event}

theorem spaced_of_tracking (spaced : ∀ list ∈ consumer.tracker, list.IsSpaced Set.univ)
    (tracking : consumer.Tracking moment event next) :
    ∀ list ∈ next.tracker, list.IsSpaced Set.univ := by
  cases tracking with
  | same same => rwa [same]
  | outdated _ _ _ _ empty => rw [empty]; nofun
  | resets _ _ empty => rw [empty]; nofun
  | expires cutoff expired =>
    rw [expired]
    intro list member
    obtain ⟨before, tracked, rfl⟩ := Option.map_eq_some_iff.mp member
    exact (spaced before tracked).expire cutoff
  | adds frame _ added =>
    rw [added]
    intro list member
    cases tracker : consumer.tracker with
    | none =>
      rw [tracker] at member
      obtain rfl := Option.some.inj member
      exact ⟨UInt64.le_refl _, nofun, List.Pairwise.nil⟩
    | some before =>
      rw [tracker] at member
      obtain rfl := Option.some.inj member
      exact (spaced before tracker).add frame.sequence moment.wall

theorem follows_of_tracking (follows : ∃ history, consumer.tracker.Follows history)
    (tracking : consumer.Tracking moment event next) :
    ∃ history, next.tracker.Follows history := by
  obtain ⟨history, follows⟩ := follows
  cases tracking with
  | same same => exact ⟨history, same ▸ follows⟩
  | outdated _ _ _ _ empty => exact ⟨.empty, empty ▸ rfl⟩
  | resets _ _ empty => exact ⟨.empty, empty ▸ rfl⟩
  | expires cutoff expired =>
    obtain ⟨_, applied, seen⟩ := follows.step (.expire cutoff)
    obtain rfl := Except.ok.inj applied
    exact ⟨_, expired ▸ seen⟩
  | adds frame _ added => exact ⟨_, added ▸ follows.add frame.sequence moment.wall⟩

/-- The tracker is emptied only by a reset. -/
theorem empty_cases (tracking : consumer.Tracking moment event next)
    (compares : ∀ peerHighest, event = .compared → consumer.reader = .comparing peerHighest →
      consumer.tracker.isOutdatedBy peerHighest = false)
    (empty : next.tracker = .empty) :
    consumer.tracker = .empty ∨ consumer.reader = .resetting ∧ next.keeper = consumer.keeper := by
  cases tracking with
  | same same => exact .inl (same ▸ empty)
  | adds frame _ added =>
    rw [added] at empty
    cases tracker : consumer.tracker <;> simp [tracker, Tracker.add, Tracker.empty] at empty
  | expires cutoff expired => exact .inl (Option.map_eq_none_iff.mp (expired ▸ empty))
  | outdated peerHighest compared comparing outdated _ =>
    exact nomatch (compares peerHighest compared comparing).symm.trans outdated
  | resets resetting keeper _ => exact .inr ⟨resetting, keeper⟩

theorem not_holding_of_resets {state : GapState}
    (resets : consumer.keeper = .waiting ∨ consumer.keeper = .finished) :
    consumer.keeper ≠ .holding state := by
  rintro holding
  rcases resets with keeper | keeper <;> exact nomatch keeper.symm.trans holding

end Trackers

section Invariants

variable {σ : Type} [GapStore σ] {config : ConsumerConfig}

/-- The invariant of consumers with a store that works, with their effects so far. It held `held` at
the start. -/
structure Tracks (reliable : Reliable σ config.station) (held : Option GapState)
    (consumer : Consumer σ) (past : List Effect) : Prop where
  coherent : consumer.IsCoherent
  config : consumer.config = config
  spaced : ∀ list ∈ consumer.tracker, list.IsSpaced Set.univ
  works : reliable.works consumer.store
  holds : reliable.held consumer.store = kept held past
  final : consumer.stopped = true →
    ∀ state, consumer.tracker.toState = some state → kept held past = some state

variable {consumer next : Consumer σ} {moment : Moment} {event : Event} {past effects : List Effect}
  {reliable : Reliable σ config.station} {held : Option GapState}

theorem Tracks.store (h : Tracks reliable held consumer past)
    (stores : consumer.Stores next effects) :
    reliable.works next.store ∧ reliable.held next.store = kept held (past ++ effects) := by
  have config := h.config
  rw [kept_append, ← h.holds]
  cases stores with
  | alone same kept _ =>
    rw [same, kept]
    exact ⟨h.works, rfl⟩
  | stored state _ store kept _ =>
    obtain ⟨succeeded, works, holds⟩ := reliable.store_eq state h.works
    rw [config] at store kept
    rw [store, kept, succeeded]
    exact ⟨works, holds⟩
  | removed store kept =>
    obtain ⟨succeeded, works, holds⟩ := reliable.remove_eq h.works
    rw [config] at store kept
    rw [store, kept, succeeded]
    exact ⟨works, holds⟩

theorem Tracks.move (h : Tracks reliable held consumer past)
    (move : consumer.Moves moment event next effects) :
    Tracks reliable held next (past ++ effects) := by
  obtain ⟨works, holds⟩ := h.store (stores_of_move h.coherent move)
  refine ⟨h.coherent.move move, move.config_eq.trans h.config,
    spaced_of_tracking h.spaced move.tracking, works, holds, ?_⟩
  intro stopped state tracked
  obtain ⟨same, before | now⟩ := move.stopped_cases h.coherent stopped
  · rw [kept_append, before.2]
    rw [same] at tracked
    exact h.final before.1 state tracked
  · rw [same] at tracked
    rw [kept_append, now, persist_of_some tracked, h.config,
      (reliable.store_eq state h.works).1]
    rfl

/-- What keeps the stored state in step with the tracker. The first state had its bounds
received. -/
structure Retains (held : Option GapState) (consumer : Consumer σ) (past : List Effect) :
    Prop where
  follows : ∃ history, consumer.tracker.Follows history
  nothing : consumer.tracker = .empty → restored (.ok (kept held past)) = .empty
  holding : ∀ state, consumer.keeper = .holding state → consumer.tracker ≠ .empty
  resetting : consumer.reader = .resetting → restored (.ok (kept held past)) = .empty

/-- As long as nothing is tracked, or a reset is under way, nothing is stored. -/
theorem Retains.nothing_kept (h : Retains held consumer past)
    (tracks : Tracks reliable held consumer past)
    (resets : consumer.reader = .resetting →
      consumer.keeper = .waiting ∨ consumer.keeper = .finished)
    (stores : consumer.Stores next effects)
    (quiet : consumer.tracker = .empty ∨ consumer.reader = .resetting ∨ next.reader = .resetting) :
    restored (.ok (kept held (past ++ effects))) = .empty := by
  cases stores with
  | alone _ alone before =>
    rw [kept_append, alone]
    exact quiet.elim h.nothing fun resetting => h.resetting (resetting.elim id before)
  | stored state origin _ _ before =>
    have empties : consumer.tracker = .empty ∨ consumer.reader = .resetting :=
      quiet.imp_right fun resetting => resetting.elim id before
    rcases origin with holding | ⟨finished, tracked⟩
    · rcases empties with empty | resetting
      · exact absurd empty (h.holding state holding)
      · exact absurd holding (not_holding_of_resets (resets resetting))
    · rcases empties with empty | resetting
      · rw [empty] at tracked
        exact nomatch tracked
      · exact nomatch finished.symm.trans resetting
  | removed _ removed =>
    rw [kept_append, removed, tracks.config, (reliable.remove_eq tracks.works).1]
    rfl

theorem Retains.move (h : Retains held consumer past) (tracks : Tracks reliable held consumer past)
    (compares : ∀ peerHighest, event = .compared → consumer.reader = .comparing peerHighest →
      consumer.tracker.isOutdatedBy peerHighest = false)
    (resets : consumer.reader = .resetting →
      consumer.keeper = .waiting ∨ consumer.keeper = .finished)
    (move : consumer.Moves moment event next effects) :
    Retains held next (past ++ effects) := by
  have empties := empty_cases move.tracking compares
  have stores := stores_of_move tracks.coherent move
  constructor
  case follows => exact follows_of_tracking h.follows move.tracking
  case nothing =>
    intro empty
    exact h.nothing_kept tracks resets stores
      ((empties empty).imp_right fun resets => .inl resets.1)
  case holding =>
    intro state holding empty
    rcases empties empty with none | ⟨resetting, keeper⟩
    · rcases move.holding_cases holding with before | tracked
      · exact h.holding state before none
      · rw [none] at tracked
        exact nomatch tracked
    · exact not_holding_of_resets (resets resetting) (keeper ▸ holding)
  case resetting =>
    exact fun resetting => h.nothing_kept tracks resets stores (.inr (.inr resetting))

theorem tracks_of_bind {store : σ} (bound : bind config store = .ok consumer)
    (reliable : Reliable σ config.station) (works : reliable.works store) :
    Tracks reliable (reliable.held store) consumer [] := by
  have coherent := isCoherent_of_bind bound
  obtain ⟨-, endpoint, -, rfl⟩ := bind_eq_ok.mp bound
  obtain ⟨-, works, holds⟩ := reliable.load_eq works
  refine ⟨coherent, rfl, fun list member => ?_, works, holds, nofun⟩
  exact (spaced_of_restored member).loosen (Set.empty_subset _)

end Invariants

variable {σ : Type} [GapStore σ] {config : ConsumerConfig} {store : σ} {consumer : Consumer σ}

theorem retains_of_bind (bound : bind config store = .ok consumer)
    (reliable : Reliable σ config.station) (works : reliable.works store)
    (bounds : ∀ list ∈ consumer.tracker,
      list.min ∉ list.missingNumbers ∧ list.max ∉ list.missingNumbers) :
    Retains (reliable.held store) consumer [] := by
  obtain ⟨-, endpoint, -, rfl⟩ := bind_eq_ok.mp bound
  obtain ⟨loaded, -, -⟩ := reliable.load_eq works
  constructor
  case follows =>
    change ∃ history, Tracker.Follows history (restored (GapStore.load store config.station).1)
    cases tracker : restored (GapStore.load store config.station).1 with
    | none => exact ⟨.empty, rfl⟩
    | some list =>
      obtain ⟨min, max⟩ := bounds list tracker
      exact ⟨list.history, (spaced_of_restored tracker).follows min max⟩
  case nothing =>
    intro empty
    rw [← empty, loaded]
    rfl
  case holding => exact fun _ holding => KeeperTask.noConfusion holding
  case resetting => exact fun resetting => ReaderTask.noConfusion resetting

/-- No ACKNACK in a run gives a number below all that is tracked. -/
def NeverOutdated (consumer : Consumer σ) (events : List (Moment × Event)) : Prop :=
  ∀ front moment back, events = front ++ (moment, .compared) :: back →
    ∀ peerHighest, (consumer.run front).1.reader = .comparing peerHighest →
      (consumer.run front).1.tracker.isOutdatedBy peerHighest = false

/-- No state is being stored while a reset is under way. -/
def ResetsAlone (consumer : Consumer σ) (events : List (Moment × Event)) : Prop :=
  ∀ front back, events = front ++ back → (consumer.run front).1.reader = .resetting →
    (consumer.run front).1.keeper = .waiting ∨ (consumer.run front).1.keeper = .finished

variable {events : List (Moment × Event)}

theorem tracks_of_run (bound : bind config store = .ok consumer)
    (reliable : Reliable σ config.station) (works : reliable.works store) :
    Tracks reliable (reliable.held store) (consumer.run events).1 (consumer.run events).2 := by
  refine run_keeps (tracks_of_bind bound reliable works) ?_
  intro front moment event back next effects _ tracks move
  exact tracks.move move

theorem retains_of_run (bound : bind config store = .ok consumer)
    (reliable : Reliable σ config.station) (works : reliable.works store)
    (bounds : ∀ list ∈ consumer.tracker,
      list.min ∉ list.missingNumbers ∧ list.max ∉ list.missingNumbers)
    (compares : consumer.NeverOutdated events) (resets : consumer.ResetsAlone events) :
    Retains (reliable.held store) (consumer.run events).1 (consumer.run events).2 := by
  refine run_keeps (retains_of_bind bound reliable works bounds) ?_
  intro front moment event back next effects split retains move
  have tracks : Tracks reliable _ (consumer.run front).1 (consumer.run front).2 :=
    tracks_of_run bound reliable works
  refine retains.move tracks (fun peerHighest compared comparing => ?_) (resets front _ split) move
  rw [compared] at split
  exact compares front moment back split peerHighest comparing

/-- The next consumer starts with what is left in the store. -/
theorem exists_next {last : Consumer σ} {effects : List Effect}
    (bound : bind config store = .ok consumer) (reliable : Reliable σ config.station)
    (tracks : Tracks reliable (reliable.held store) last effects) :
    ∃ next, bind config last.store = .ok next ∧
      next.tracker = restored (.ok (kept (reliable.held store) effects)) := by
  obtain ⟨checked, endpoint, made, -⟩ := bind_eq_ok.mp bound
  refine ⟨_, bind_eq_ok.mpr ⟨checked, endpoint, made, rfl⟩, ?_⟩
  rw [← tracks.holds, ← (reliable.load_eq tracks.works).1]

/-- After a consumer has stopped, the next one starts with the same gaps, but for times in
milliseconds, exactly if no gaps touch and, where nothing is tracked at the end, nothing is left in
the store that could be restored. So it does after all runs in which no ACKNACK finds the tracker
outdated and no state is being stored while a reset is under way, if the bounds of the state at the
start were received. -/
theorem restart_iff {last : Consumer σ} {effects : List Effect}
    (bound : bind config store = .ok consumer) (reliable : Reliable σ config.station)
    (works : reliable.works store) (reached : consumer.run events = (last, effects))
    (stopped : last.stopped = true) :
    ∃ next, bind config last.store = .ok next ∧
      (next.tracker = last.tracker.map GapList.stored ↔
        (∀ list ∈ last.tracker, list.IsNonadjacent) ∧
          (last.tracker = .empty →
            restored (.ok (kept (reliable.held store) effects)) = .empty)) ∧
      (∀ list ∈ last.tracker, ∀ gap ∈ list.gaps, Gap.FitsMillis gap.modified →
        gap.stored.modified = (gap.modified : Int) / 1000000 * 1000000) ∧
      ((∀ list ∈ consumer.tracker,
          list.min ∉ list.missingNumbers ∧ list.max ∉ list.missingNumbers) →
        consumer.NeverOutdated events → consumer.ResetsAlone events →
        next.tracker = last.tracker.map GapList.stored) := by
  obtain rfl : (consumer.run events).1 = last := congrArg Prod.fst reached
  obtain rfl : (consumer.run events).2 = effects := congrArg Prod.snd reached
  have tracks : Tracks reliable _ (consumer.run events).1 (consumer.run events).2 :=
    tracks_of_run bound reliable works
  obtain ⟨next, started, tracker⟩ := exists_next bound reliable tracks
  have exact : next.tracker = (consumer.run events).1.tracker.map GapList.stored ↔
      (∀ list ∈ (consumer.run events).1.tracker, list.IsNonadjacent) ∧
        ((consumer.run events).1.tracker = .empty →
          restored (.ok (kept (reliable.held store) (consumer.run events).2)) = .empty) := by
    rw [tracker]
    cases tracked : (consumer.run events).1.tracker with
    | none => exact ⟨fun same => ⟨nofun, fun _ => same⟩, fun both => both.2 rfl⟩
    | some list =>
      have state : (consumer.run events).1.tracker.toState = some (.ofList list) :=
        congrArg Tracker.toState tracked
      rw [tracks.final stopped _ state]
      refine (restored_ofList_iff (tracks.spaced list tracked)).trans ⟨fun apart => ?_, ?_⟩
      · exact ⟨fun other same => Option.some.inj same ▸ apart, nofun⟩
      · exact fun both => both.1 list rfl
  refine ⟨next, started, exact, fun _ _ gap _ fits => Gap.modified_stored fits, ?_⟩
  intro bounds compares resets
  have retains := retains_of_run bound reliable works bounds compares resets
  refine exact.mpr ⟨fun list tracked => ?_, retains.nothing⟩
  obtain ⟨history, follows⟩ := retains.follows
  exact ((tracks.spaced list tracked).isNonadjacent_iff).mpr (follows.spaced list tracked)

/-- The end of the program, after the provider has left. -/
def goodbye : List Event :=
  [.drained, .farewellWritten true, .shutdown, .stopped]

/-- What remains of a consumer that says goodbye. -/
theorem exists_goodbye {now : Consumer MemoryStore} (drained : now.isDrained = true)
    (running : now.stopped = false) {endpoint : Endpoint} (same : now.endpoint = endpoint)
    {alert : Frame} (made : endpoint.alert farewellMessage = .ok alert) :
    ∃ last effects, now.run (atOnce goodbye) = (last, effects) ∧ last.stopped = true ∧
      last.tracker = now.tracker ∧ (now.tracker = .empty → last.store = now.store) := by
  obtain ⟨closed, hc⟩ : ∃ closed : Consumer MemoryStore, closed =
      { now with
        store := now.persist.1.store, state := .closed, farewell := none, stopping := true
        cancelled := true } := ⟨_, rfl⟩
  have reached : ((now.step ⟨0, 0⟩ .drained).1.run (atOnce [.farewellWritten true, .shutdown])).1 =
      closed := by
    rw [step_drained drained (same ▸ made), hc]
    rfl
  have last : (now.run (atOnce goodbye)).1 =
      (((now.step ⟨0, 0⟩ .drained).1.run (atOnce [.farewellWritten true, .shutdown])).1.step ⟨0, 0⟩
        .stopped).1 :=
    rfl
  have idle : closed.isIdle = true := by rw [hc]; rfl
  have stopping : closed.stopping = true := by rw [hc]
  have notYet : closed.stopped = false := by rw [hc]; exact running
  have tracker : closed.tracker = now.tracker := by rw [hc]
  refine ⟨(now.run (atOnce goodbye)).1, (now.run (atOnce goodbye)).2, rfl, ?_⟩
  rw [last, reached, step_stopped idle stopping notYet]
  refine ⟨rfl, tracker, fun empty => ?_⟩
  have nothing : closed.tracker.toState = none := by rw [tracker, empty]; rfl
  have before : now.tracker.toState = none := by rw [empty]; rfl
  rw [persist_of_none nothing, hc, persist_of_none before]

/-- A consumer that has received one number. -/
theorem restart_iff_received :
    ∃ frame last effects, Endpoint.standard.data [Endpoint.silence 40] 7 = .ok frame ∧
      fresh.run (atOnce [.accepted, .received (.frame frame), .published none] ++ atOnce leaving ++
        atOnce goodbye) = (last, effects) ∧ last.stopped = true ∧
      ∃ next, bind { station := "STA" } last.store = .ok next ∧
        next.tracker = some ⟨7, 7, []⟩ := by
  obtain ⟨frame, content, sent, number, body, -⟩ := Endpoint.exists_silence 7
  obtain ⟨alert, made⟩ : ∃ alert, Endpoint.standard.alert farewellMessage = .ok alert := ⟨_, rfl⟩
  have received := run_received body
  rw [number] at received
  have published : fresh.run (atOnce [.accepted, .received (.frame frame), .published none]) =
      ({ serving with tracker := some (.single 7) },
        [.entered .connecting, .entered .connected, .handled (.frame frame),
          .published frame none]) :=
    run_concat received ⟨0, 0⟩ (.published none)
  obtain ⟨last, effects, ended, stopped, tracker, -⟩ :=
    @exists_goodbye { serving with tracker := some (.single 7) }.left rfl rfl
      Endpoint.standard rfl alert made
  have left := run_append published (atOnce leaving)
  rw [run_leaving rfl rfl rfl rfl] at left
  have reached := run_append left (atOnce goodbye)
  rw [ended] at reached
  obtain ⟨next, started, exact, -⟩ :=
    restart_iff bind_fresh (MemoryStore.reliable "STA") trivial reached stopped
  refine ⟨frame, last, _, sent, reached, stopped, next, started, ?_⟩
  rw [tracker] at exact
  exact exact.mpr ⟨fun list same => Option.some.inj same ▸ List.Pairwise.nil, nofun⟩

/-- A peer that starts anew empties the tracker, but not the store. -/
theorem restart_ne_of_outdated :
    ∃ frame ack last effects, Endpoint.standard.data [Endpoint.silence 40] 7 = .ok frame ∧
      Endpoint.standard.acknack "None" 0 0 [] = .ok ack ∧
      bind { station := "STA" } MemoryStore.empty = .ok fresh ∧
      fresh.run (atOnce [.accepted, .received (.frame frame)] ++ atOnce [.published none,
        .storeDue, .stateTaken, .stateStored] ++ atOnce [.received (.frame ack), .compared] ++
        atOnce leaving ++ atOnce goodbye) = (last, effects) ∧ last.stopped = true ∧
      last.tracker = .empty ∧
      ∃ next, bind { station := "STA" } last.store = .ok next ∧
        next.tracker = some ⟨7, 7, []⟩ := by
  obtain ⟨frame, content, sent, number, body, -⟩ := Endpoint.exists_silence 7
  obtain ⟨ack, acknowledged⟩ : ∃ ack, Endpoint.standard.acknack "None" 0 0 [] = .ok ack := ⟨_, rfl⟩
  obtain ⟨-, -, ackBody⟩ := Frame.parts_of_compose acknowledged
  obtain ⟨alert, made⟩ : ∃ alert, ({ Endpoint.standard with frameset := "None" }).alert
      farewellMessage = .ok alert := ⟨_, rfl⟩
  have received := run_received body
  rw [number] at received
  obtain ⟨past, stored⟩ : ∃ past, fresh.run (atOnce [.accepted, .received (.frame frame)] ++
      atOnce [.published none, .storeDue, .stateTaken, .stateStored]) =
      ({ serving with
         tracker := some (.single 7), store := ⟨[("STA", ⟨7, 7, []⟩)]⟩ }, past) :=
    ⟨_, run_append received (atOnce [.published none, .storeDue, .stateTaken, .stateStored])⟩
  obtain ⟨effects, outdated⟩ : ∃ effects,
      ({ serving with
         tracker := some (.single 7), store := ⟨[("STA", ⟨7, 7, []⟩)]⟩ } : Consumer MemoryStore).run
        (atOnce [.received (.frame ack), .compared]) =
      ({ serving with
         endpoint := { Endpoint.standard with frameset := "None" }, tracker := .empty
         store := ⟨[("STA", ⟨7, 7, []⟩)]⟩ }, effects) := by
    obtain ⟨header, _, trailer, raw⟩ := ack
    obtain rfl := ackBody
    exact ⟨_, rfl⟩
  have forgotten := run_append stored (atOnce [.received (.frame ack), .compared])
  rw [outdated] at forgotten
  have gone := run_append forgotten (atOnce leaving)
  rw [run_leaving rfl rfl rfl rfl] at gone
  obtain ⟨last, others, ended, stopped, tracker, store⟩ :=
    @exists_goodbye (left { serving with
      endpoint := { Endpoint.standard with frameset := "None" }, tracker := .empty
      store := ⟨[("STA", ⟨7, 7, []⟩)]⟩ }) rfl rfl { Endpoint.standard with frameset := "None" } rfl
      alert made
  have reached := run_append gone (atOnce goodbye)
  rw [ended] at reached
  refine ⟨frame, ack, last, _, sent, acknowledged, bind_fresh, reached, stopped, tracker, ?_⟩
  rw [store rfl]
  have spaced := (GapList.IsConstructed.single 7).spaced
  exact ⟨_, rfl, (restored_ofList_iff spaced).mpr List.Pairwise.nil⟩

end Consumer

end ContinuousData
