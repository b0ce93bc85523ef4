import ContinuousData.Proofs.ConsumerMoves
import ContinuousData.Proofs.GapHistory

/-! What a consumer reports as received has been handed over before, or is being handed over. A
number counts as received when its DATA frame is taken up, whatever becomes of the publication. -/
namespace ContinuousData

/-- The numbers of a range outside of its gaps. -/
def numbersOutside (lowest highest : UInt64) (gaps : List (UInt64 × UInt64)) : Set UInt64 :=
  {n | (lowest ≤ n ∧ n ≤ highest) ∧ ∀ gap ∈ gaps, ¬ (gap.1 ≤ n ∧ n ≤ gap.2)}

/-- The numbers that it claims to be received. -/
def Acknowledgement.claims (acknowledgement : Acknowledgement) : Set UInt64 :=
  numbersOutside acknowledgement.lowest acknowledgement.highest acknowledgement.gaps

/-- The numbers that it claims to be received. -/
def GapState.claims (state : GapState) : Set UInt64 :=
  numbersOutside state.min state.max (state.gaps.map fun record => (record.first, record.last))

namespace GapList

variable {list : GapList} {history : History}

theorem Follows.numbersOutside_eq (h : list.Follows history) :
    numbersOutside list.min list.max list.bounds = history.received := by
  ext n
  have missing : (∀ gap ∈ list.bounds, ¬ (gap.1 ≤ n ∧ n ≤ gap.2)) ↔ n ∉ list.missingNumbers := by
    simp only [GapList.bounds, List.forall_mem_map, missingNumbers, Set.mem_ofPred_eq,
      Gap.contains_iff, not_exists, not_and]
    exact Iff.rfl
  refine (and_congr_right fun _ => missing).trans ?_
  rw [h.missing, not_and, not_not]
  constructor
  · rintro ⟨inside, received⟩
    exact received inside
  · intro received
    exact ⟨h.bounds n received, fun _ => received⟩

theorem Follows.claims_ofList (h : list.Follows history) :
    (GapState.ofList list).claims = history.received := by
  rw [← h.numbersOutside_eq]
  unfold GapState.claims GapState.ofList
  rw [List.map_map]
  rfl

/-- The greatest number was received, so that no gap reaches up to the end of the numbers. -/
theorem Follows.closedBounds_eq (h : list.Follows history) : list.closedBounds = list.bounds := by
  have closed : list.gaps.filter (·.last ≠ maxNumber) = list.gaps := by
    refine List.filter_eq_self.mpr fun gap hg => decide_eq_true ?_
    intro last
    have missing := h.spaced.last_missing hg
    have inside := (h.spaced.of_missing missing).2
    have same : gap.last = list.max := by
      unfold maxNumber at last
      grind
    exact h.max_not_missing (same ▸ missing)
  rw [closedBounds, closed]
  rfl

end GapList

namespace Consumer

namespace Effect

/-- The numbers that it claims to be received: those of an acknowledgement or of a stored state. -/
def claims : Effect → Set UInt64
  | wrote frame _ =>
    match frame.body with
    | .acknack acknowledgement => acknowledgement.claims
    | _ => ∅
  | stored state _ => state.claims
  | _ => ∅

/-- An acknowledgement that asks for everything, as nothing has been received yet. -/
def asksForAll : Effect → Prop
  | wrote frame _ => ∃ frameset, frame.body = .acknack ⟨frameset, 0, GapList.maxNumber, []⟩
  | _ => False

/-- The DATA frame that was taken up. -/
def taken? : Effect → Option Frame
  | handled (.frame frame) => if frame.body.type = .data then some frame else none
  | _ => none

/-- The DATA frame with whose publication the consumer is done, successfully or not. -/
def concluded? : Effect → Option Frame
  | published frame _ => some frame
  | unpublished frame => some frame
  | _ => none

end Effect

def taken (effects : List Effect) : List Frame :=
  effects.filterMap Effect.taken?

def concluded (effects : List Effect) : List Frame :=
  effects.filterMap Effect.concluded?

/-- The numbers of frames. -/
def numbers (frames : List Frame) : Set UInt64 :=
  {n | ∃ frame ∈ frames, frame.sequence = n}

theorem taken_append (past effects : List Effect) :
    taken (past ++ effects) = taken past ++ taken effects :=
  List.filterMap_append

theorem concluded_append (past effects : List Effect) :
    concluded (past ++ effects) = concluded past ++ concluded effects :=
  List.filterMap_append

theorem numbers_nil : numbers [] = ∅ := by
  simp [numbers]

theorem numbers_singleton (frame : Frame) : numbers [frame] = {frame.sequence} := by
  ext n
  simp [numbers, eq_comm]

theorem numbers_append (frames others : List Frame) :
    numbers (frames ++ others) = numbers frames ∪ numbers others := by
  ext n
  simp [numbers, or_and_right, exists_or]

theorem numbers_taken_subset (past effects : List Effect) :
    numbers (taken past) ⊆ numbers (taken (past ++ effects)) := by
  rw [taken_append, numbers_append]
  exact Set.subset_union_left

/-- What the task that reads is about, while nothing but DATA frames comes in. -/
def PublishesLast (reader : ReaderTask) (effects : List Effect) : Prop :=
  match reader with
  | .waiting | .finished => taken effects = concluded effects
  | .publishing frame => taken effects = concluded effects ++ [frame]
  | .comparing _ | .answering _ | .resetting => False

/-- Effects that have nothing to do with DATA frames. -/
def IsAside (effects : List Effect) : Prop :=
  taken effects = [] ∧ concluded effects = []

section Records

variable {σ : Type} {consumer next : Consumer σ} {moment : Moment} {past effects : List Effect}

/-- A step takes up a DATA frame, is done with one, or does neither. -/
inductive Records (consumer : Consumer σ) (moment : Moment) (next : Consumer σ)
    (effects : List Effect) : Prop where
  | takes (frame : Frame) (waiting : consumer.reader = .waiting)
      (publishing : next.reader = .publishing frame)
      (added : next.tracker = consumer.tracker.add frame.sequence moment.wall)
      (taken : taken effects = [frame]) (concluded : concluded effects = [])
  | concludes (frame : Frame) (publishing : consumer.reader = .publishing frame)
      (waiting : next.reader = .waiting) (same : next.tracker = consumer.tracker)
      (taken : taken effects = []) (concluded : concluded effects = [frame])
  | aside (same : next.tracker = consumer.tracker) (aside : IsAside effects)
      (publishes : ∀ past, PublishesLast consumer.reader past → PublishesLast next.reader past)

theorem PublishesLast.records (publishes : PublishesLast consumer.reader past)
    (records : consumer.Records moment next effects) :
    PublishesLast next.reader (past ++ effects) := by
  cases records with
  | takes frame waiting publishing _ takes concludes =>
    rw [waiting] at publishes
    rw [publishing]
    change taken (past ++ effects) = concluded (past ++ effects) ++ [frame]
    rw [taken_append, concluded_append, takes, concludes, List.append_nil]
    exact congrArg (· ++ [frame]) publishes
  | concludes frame publishing waiting _ takes concludes =>
    rw [publishing] at publishes
    rw [waiting]
    change taken (past ++ effects) = concluded (past ++ effects)
    rw [taken_append, concluded_append, takes, concludes, List.append_nil]
    exact publishes
  | aside _ aside same =>
    have later := same past publishes
    obtain ⟨takes, concludes⟩ := aside
    unfold PublishesLast at later ⊢
    rwa [taken_append, concluded_append, takes, concludes, List.append_nil, List.append_nil]

/-- The tracker has seen the numbers of the frames that were taken up. -/
theorem follows_of_records
    (follows : consumer.tracker.Follows (History.empty.add (numbers (taken past))))
    (records : consumer.Records moment next effects) :
    next.tracker.Follows (History.empty.add (numbers (taken (past ++ effects)))) := by
  rw [taken_append, numbers_append, ← History.add_add]
  cases records with
  | takes frame _ _ added takes _ =>
    rw [added, takes, numbers_singleton]
    exact follows.add frame.sequence moment.wall
  | concludes _ _ _ same takes _ => rwa [same, takes, numbers_nil, History.add_empty]
  | aside same aside _ => rwa [same, aside.1, numbers_nil, History.add_empty]

theorem IsPassedOver.type_ne {frame : Frame} (passed : consumer.IsPassedOver frame) :
    frame.body.type ≠ .data := by
  intro data
  unfold IsPassedOver at passed
  cases body : frame.body <;> simp_all [Body.type]

end Records

/-- A stored state claims what has been added, as long as no gap is given up. -/
theorem claims_of_toState {tracker : Tracker} {numbers : Set UInt64} {state : GapState}
    (follows : tracker.Follows (History.empty.add numbers))
    (tracked : tracker.toState = some state) : state.claims = numbers := by
  obtain ⟨list, rfl, rfl⟩ := Option.map_eq_some_iff.mp tracked
  rw [GapList.Follows.claims_ofList follows]
  exact Set.empty_union numbers

/-- So does an acknowledgement. -/
theorem claims_of_acknackOf {endpoint : Endpoint} {tracker : Tracker} {numbers : Set UInt64}
    {frame : Frame} (follows : tracker.Follows (History.empty.add numbers))
    (made : endpoint.acknackOf tracker = .ok frame) (written : Bool) :
    (Effect.wrote frame written).asksForAll ∨ (Effect.wrote frame written).claims = numbers := by
  obtain ⟨-, -, body⟩ := Frame.parts_of_compose made
  cases tracker with
  | none => exact .inl ⟨_, body⟩
  | some list =>
    right
    simp only [Effect.claims, body]
    change numbersOutside list.min list.max list.closedBounds = numbers
    rw [GapList.Follows.closedBounds_eq follows, GapList.Follows.numbersOutside_eq follows]
    exact Set.empty_union numbers

variable {σ : Type} [GapStore σ] {consumer next : Consumer σ} {moment : Moment} {event : Event}
  {past effects : List Effect}

theorem isAside_persist (consumer : Consumer σ) : IsAside consumer.persist.2 := by
  cases tracked : consumer.tracker.toState with
  | some state => rw [persist_of_some tracked]; exact ⟨rfl, rfl⟩
  | none => rw [persist_of_none tracked]; exact ⟨rfl, rfl⟩

theorem records_of_move (coherent : consumer.IsCoherent)
    (keepsGaps : consumer.config.gapExpiration = none)
    (publishes : PublishesLast consumer.reader past)
    (only : ∀ frame, event = .received (.frame frame) → frame.body.type = .data)
    (move : consumer.Moves moment event next effects) : consumer.Records moment next effects := by
  cases move
  case data frame content waiting body =>
    refine .takes frame waiting rfl rfl ?_ rfl
    simp [taken, Effect.taken?, only frame rfl]
  case published frame failure publishing => exact .concludes frame publishing rfl rfl rfl rfl
  case unpublished frame publishing cancelled => exact .concludes frame publishing rfl rfl rfl rfl
  -- Other frames do not come in, and so ask for nothing.
  case peerAcknack frame _ _ body | commandResponse frame _ _ body | peerAlert frame _ _ body =>
    exact nomatch (congrArg Body.type body).symm.trans (only frame rfl)
  case optionRequest frame _ _ _ body _ | customReset frame _ _ body _ =>
    exact nomatch (congrArg Body.type body).symm.trans (only frame rfl)
  case passedOver frame waiting passed => exact absurd (only frame rfl) passed.type_ne
  case compared asked | answered asked | unanswered asked | trackerReset asked =>
    rw [asked] at publishes
    exact publishes.elim
  case gapsExpired age waiting expires => exact nomatch keepsGaps.symm.trans expires
  case accepted idle going =>
    have finished : consumer.reader = .finished := coherent.finished_of_idle idle
    exact .aside rfl ⟨rfl, rfl⟩ fun past h => by rwa [finished] at h
  case readEnded waiting => exact .aside rfl ⟨rfl, rfl⟩ fun past h => by rwa [waiting] at h
  case drained => exact .aside rfl (isAside_persist consumer) fun _ h => h
  case stopped => exact .aside rfl (isAside_persist consumer) fun _ h => h
  case closedSilently =>
    obtain ⟨taken, concluded⟩ := isAside_persist consumer
    refine .aside rfl ⟨?_, ?_⟩ fun _ h => h
    · rw [taken_append, taken]
      rfl
    · rw [concluded_append, concluded]
      rfl
  all_goals exact .aside rfl ⟨rfl, rfl⟩ fun _ h => h

/-- The invariant of consumers that get nothing but DATA frames, with their effects so far. -/
structure RecordsTaken (consumer : Consumer σ) (past : List Effect) : Prop where
  coherent : consumer.IsCoherent
  keepsGaps : consumer.config.gapExpiration = none
  follows : consumer.tracker.Follows (History.empty.add (numbers (taken past)))
  publishes : PublishesLast consumer.reader past
  acknowledges : ∀ frame, consumer.acknack = .writing frame →
    (Effect.wrote frame true).asksForAll ∨ (Effect.wrote frame true).claims ⊆ numbers (taken past)
  holds : ∀ state, consumer.keeper = .holding state → state.claims ⊆ numbers (taken past)
  leaves : ∀ frame, consumer.farewell = some frame → (Effect.wrote frame true).claims = ∅

theorem RecordsTaken.move (h : consumer.RecordsTaken past)
    (only : ∀ frame, event = .received (.frame frame) → frame.body.type = .data)
    (move : consumer.Moves moment event next effects) : next.RecordsTaken (past ++ effects) := by
  have records := records_of_move h.coherent h.keepsGaps h.publishes only move
  constructor
  case coherent => exact h.coherent.move move
  case keepsGaps => rw [move.config_eq, h.keepsGaps]
  case follows => exact follows_of_records h.follows records
  case publishes => exact h.publishes.records records
  case acknowledges =>
    intro frame writing
    have more := numbers_taken_subset past effects
    rcases move.writing_cases writing with before | made
    · exact (h.acknowledges frame before).imp_right fun known => known.trans more
    · exact (claims_of_acknackOf h.follows made true).imp_right fun same => same.trans_subset more
  case holds =>
    intro state holding
    have more := numbers_taken_subset past effects
    rcases move.holding_cases holding with before | tracked
    · exact (h.holds state before).trans more
    · exact (claims_of_toState h.follows tracked).trans_subset more
  case leaves =>
    intro frame leaving
    rcases move.farewell_cases leaving with before | made
    · exact h.leaves frame before
    · obtain ⟨_, -, made⟩ := ContinuousData.bind_eq_ok.mp made
      obtain ⟨-, -, body⟩ := Frame.parts_of_compose made
      simp only [Effect.claims, body]

theorem recordsTaken_of_bind {config : ConsumerConfig} {store : σ} {consumer : Consumer σ}
    (bound : bind config store = .ok consumer) (empty : consumer.tracker = .empty)
    (keepsGaps : config.gapExpiration = none) : consumer.RecordsTaken [] := by
  have coherent := isCoherent_of_bind bound
  obtain ⟨-, endpoint, -, rfl⟩ := bind_eq_ok.mp bound
  have nothing : History.empty.add (numbers (taken [])) = .empty :=
    (congrArg History.empty.add numbers_nil).trans (History.add_empty _)
  constructor
  case coherent => exact coherent
  case keepsGaps => exact keepsGaps
  case follows =>
    rw [nothing, empty]
    rfl
  case publishes => exact Eq.refl (taken [])
  case acknowledges => exact fun _ writing => AcknackTask.noConfusion writing
  case holds => exact fun _ holding => KeeperTask.noConfusion holding
  case leaves => exact fun frame leaving => absurd leaving.symm (Option.some_ne_none frame)

theorem mem_taken {frame : Frame} (h : frame ∈ taken past) :
    frame.body.type = .data ∧ .handled (.frame frame) ∈ past := by
  obtain ⟨effect, member, same⟩ := List.mem_filterMap.mp h
  unfold Effect.taken? at same
  split at same
  case h_1 other =>
    obtain ⟨data, same⟩ := Option.ite_none_right_eq_some.mp same
    obtain rfl := Option.some.inj same
    exact ⟨data, member⟩
  case h_2 => exact nomatch same

theorem mem_concluded {frame : Frame} (h : frame ∈ concluded past) :
    .published frame none ∈ past ∨ (∃ reason, .published frame (some reason) ∈ past) ∨
      .unpublished frame ∈ past := by
  obtain ⟨effect, member, same⟩ := List.mem_filterMap.mp h
  unfold Effect.concluded? at same
  split at same
  case h_1 other failure =>
    obtain rfl := Option.some.inj same
    cases failure with
    | none => exact .inl member
    | some reason => exact .inr (.inl ⟨reason, member⟩)
  case h_2 other =>
    obtain rfl := Option.some.inj same
    exact .inr (.inr member)
  case h_3 => exact nomatch same

/-- A frame that has been taken up is done with, or is being published. -/
theorem PublishesLast.mem_cases {reader : ReaderTask} (publishes : PublishesLast reader past)
    {frame : Frame} (h : frame ∈ taken past) :
    frame ∈ concluded past ∨ reader = .publishing frame := by
  unfold PublishesLast at publishes
  split at publishes
  case h_1 | h_2 => exact .inl (publishes ▸ h)
  case h_3 last =>
    rw [publishes, List.mem_append, List.mem_singleton] at h
    rcases h with concluded | rfl
    · exact .inl concluded
    · exact .inr rfl
  all_goals exact publishes.elim

/-- What a consumer reports has been taken up. -/
theorem RecordsTaken.claims_subset (h : consumer.RecordsTaken past)
    (move : consumer.Moves moment event next effects) {report : Effect}
    (member : report ∈ effects) :
    report.asksForAll ∨ report.claims ⊆ numbers (taken past) := by
  cases report with
  | wrote frame written =>
    rcases move.wrote_cases member with writing | answering | leaving
    · exact h.acknowledges frame writing
    · have := h.publishes
      rw [answering] at this
      exact this.elim
    · exact .inr ((h.leaves frame leaving).trans_subset (Set.empty_subset _))
  | stored state failure =>
    right
    rcases move.stored_cases member with holding | tracked
    · exact h.holds state holding
    · exact (claims_of_toState h.follows tracked).subset
  | _ => exact .inr (Set.empty_subset _)

/-- Whatever a consumer reports as received, in an acknowledgement or to its store, it has taken up
a DATA frame with that number before. The frame has been published, or its publication has failed,
was given up, or is still going on. The only report that claims more asks for everything, as nothing
has been received yet. -/
theorem claims_taken {config : ConsumerConfig} {store : σ} {consumer : Consumer σ}
    (bound : bind config store = .ok consumer) (empty : consumer.tracker = .empty)
    (keepsGaps : config.gapExpiration = none) {events : List (Moment × Event)}
    (only : ∀ moment frame, (moment, .received (.frame frame)) ∈ events → frame.body.type = .data)
    {now : Consumer σ} {past : List Effect} (reached : consumer.run events = (now, past))
    (moment : Moment) (event : Event) (report : Effect) (h : report ∈ (now.step moment event).2) :
    report.asksForAll ∨ ∀ n ∈ report.claims, ∃ frame, frame.sequence = n ∧
      frame.body.type = .data ∧ .handled (.frame frame) ∈ past ∧
      (.published frame none ∈ past ∨ (∃ reason, .published frame (some reason) ∈ past) ∨
        .unpublished frame ∈ past ∨ now.reader = .publishing frame) := by
  have records : now.RecordsTaken past := by
    have start := recordsTaken_of_bind bound empty keepsGaps
    have kept : RecordsTaken (consumer.run events).1 (consumer.run events).2 := by
      refine run_keeps start ?_
      intro front moment event back next effects split kept move
      refine kept.move (fun frame received => only moment frame ?_) move
      rw [split, received]
      exact List.mem_append_right front (.head back)
    rwa [reached] at kept
  refine (records.claims_subset (now.moves_step moment event) h).imp_right
    fun claims n claimed => ?_
  obtain ⟨frame, taken, number⟩ := claims claimed
  obtain ⟨data, handled⟩ := mem_taken taken
  refine ⟨frame, number, data, handled, ?_⟩
  rcases records.publishes.mem_cases taken with concluded | publishing
  · rcases mem_concluded concluded with published | failed | unpublished
    · exact .inl published
    · exact .inr (.inl failed)
    · exact .inr (.inr (.inl unpublished))
  · exact .inr (.inr (.inr publishing))

/-- A frame that has been published when its number is stored. -/
theorem claims_taken_after_publication :
    ∃ frame now past, Endpoint.standard.data [Endpoint.silence 40] 7 = .ok frame ∧
      fresh.run (atOnce [.accepted, .received (.frame frame), .published none, .storeDue,
        .stateTaken]) = (now, past) ∧
      .stored ⟨7, 7, []⟩ none ∈ (now.step ⟨0, 0⟩ .stateStored).2 ∧
      ∃ other, other.sequence = 7 ∧ .handled (.frame other) ∈ past := by
  obtain ⟨frame, content, sent, number, body, -⟩ := Endpoint.exists_silence 7
  have only : ∀ moment other, (moment, .received (.frame other)) ∈ atOnce [.accepted,
      .received (.frame frame), .published none, .storeDue, .stateTaken] →
      other.body.type = .data := by
    intro moment other member
    obtain ⟨-, rfl⟩ : moment = ⟨0, 0⟩ ∧ other = frame := by simpa [atOnce] using member
    rw [body]
    rfl
  have received := run_received body
  rw [number] at received
  have reached : fresh.run (atOnce [.accepted, .received (.frame frame), .published none,
      .storeDue, .stateTaken]) =
      ({ serving with tracker := some (.single 7), keeper := .holding ⟨7, 7, []⟩ },
        [.entered .connecting, .entered .connected, .handled (.frame frame),
          .published frame none]) :=
    run_append received (atOnce [.published none, .storeDue, .stateTaken])
  refine ⟨frame, _, _, sent, reached, .head _, ?_⟩
  have stored : (7 : UInt64) ∈ (Effect.stored ⟨7, 7, []⟩ none).claims :=
    ⟨⟨UInt64.le_refl 7, UInt64.le_refl 7⟩, nofun⟩
  rcases claims_taken bind_fresh rfl rfl only reached ⟨0, 0⟩ .stateStored
    (.stored ⟨7, 7, []⟩ none) (.head _) with asks | claims
  · exact asks.elim
  · obtain ⟨other, same, -, handled, -⟩ := claims 7 stored
    exact ⟨other, same, handled⟩

/-- A step of a consumer reports a number for which no DATA frame has been published. -/
def ReportsUnpublished (events : List Event) (event : Event) (n : UInt64) : Prop :=
  ∃ now past report, fresh.run (atOnce events) = (now, past) ∧
    report ∈ (now.step ⟨0, 0⟩ event).2 ∧ n ∈ report.claims ∧
    ∀ frame, frame.sequence = n → .published frame none ∉ past

/-- An acknowledgement that is written right after it was made. -/
theorem reportsUnpublished_of_acknack {now : Consumer MemoryStore} {events : List Event}
    {past : List Effect} {ack : Frame} {n : UInt64}
    (reached : fresh.run (atOnce events) = (now, past)) (waiting : now.acknack = .waiting)
    (made : now.endpoint.acknackOf now.tracker = .ok ack)
    (claimed : n ∈ (Effect.wrote ack true).claims)
    (unpublished : ∀ frame, frame.sequence = n → .published frame none ∉ past) :
    ReportsUnpublished (events ++ [.acknackDue]) (.acknackWritten true) n := by
  have due : now.step ⟨0, 0⟩ .acknackDue = ({ now with acknack := .writing ack }, []) := by
    simp only [step, stepAcknack, waiting, acknowledge, made]
  have later := run_concat reached ⟨0, 0⟩ .acknackDue
  rw [due, List.append_nil] at later
  refine ⟨{ now with acknack := .writing ack }, past, .wrote ack true, ?_, .head _, claimed,
    unpublished⟩
  rw [atOnce, List.map_append]
  exact later

/-- The state is stored as soon as the provider has left. -/
theorem stored_of_left {consumer : Consumer MemoryStore} {state : GapState}
    (tracked : consumer.tracker.toState = some state) (farewell : consumer.farewell = none) :
    .stored state none ∈ (consumer.left.step ⟨0, 0⟩ .drained).2 := by
  have drained : consumer.left.isDrained = true := by simp [isDrained, left, farewell]
  change .stored state none ∈ (if _ then _ else _ : Consumer MemoryStore × List Effect).2
  rw [if_pos drained]
  refine persist_subset_finish consumer.left ?_
  have same : consumer.left.tracker.toState = some state := tracked
  rw [persist_of_some same]
  exact .head _

theorem reportsUnpublished_of_left {now : Consumer MemoryStore} {events : List Event}
    {past : List Effect} {state : GapState} {n : UInt64}
    (reached : fresh.run (atOnce events) = (now, past)) (reader : now.reader = .waiting)
    (acknack : now.acknack = .waiting) (watching : now.watching = true)
    (keeper : now.keeper = .waiting) (farewell : now.farewell = none)
    (tracked : now.tracker.toState = some state) (claimed : n ∈ state.claims)
    (unpublished : ∀ frame, frame.sequence = n → .published frame none ∉ past) :
    ReportsUnpublished (events ++ leaving) .drained n := by
  have gone := run_append reached (atOnce leaving)
  rw [run_leaving reader acknack watching keeper] at gone
  refine ⟨now.left, past ++ [.entered .draining], .stored state none, ?_,
    stored_of_left tracked farewell, claimed, fun frame number => ?_⟩
  · rw [atOnce, List.map_append]
    exact gone
  · simpa using unpublished frame number

/-- A number is reported while its frame is being published, and also if the publication fails or is
given up. Before the first frame every number is. -/
theorem claims_unpublished :
    bind { station := "STA" } MemoryStore.empty = .ok fresh ∧ fresh.tracker = .empty ∧
      fresh.config.gapExpiration = none ∧
      ∃ frame, Endpoint.standard.data [Endpoint.silence 40] 7 = .ok frame ∧
        ReportsUnpublished [.accepted, .acknackDue] (.acknackWritten true) 7 ∧
        ReportsUnpublished [.accepted, .received (.frame frame), .acknackDue]
          (.acknackWritten true) 7 ∧
        ReportsUnpublished ([.accepted, .received (.frame frame),
          .published (some (.publisherGone 7 "STA"))] ++ leaving) .drained 7 ∧
        ReportsUnpublished ([.accepted, .received (.frame frame), .shutdown,
          .publicationAbandoned] ++ leaving) .drained 7 := by
  obtain ⟨frame, content, sent, number, body, -⟩ := Endpoint.exists_silence 7
  refine ⟨bind_fresh, rfl, rfl, frame, sent, ?_⟩
  have reached := run_received body
  rw [number] at reached
  have received : (7 : UInt64) ∈ GapState.claims ⟨7, 7, []⟩ :=
    ⟨⟨UInt64.le_refl 7, UInt64.le_refl 7⟩, nofun⟩
  refine ⟨?_, ?_, ?_, ?_⟩
  · obtain ⟨ack, made⟩ : ∃ ack, Endpoint.standard.acknackOf .empty = .ok ack := ⟨_, rfl⟩
    obtain ⟨-, -, body⟩ := Frame.parts_of_compose made
    refine reportsUnpublished_of_acknack run_accepted rfl made ?_ (by simp)
    simp only [Effect.claims, body]
    exact ⟨by decide, nofun⟩
  · obtain ⟨ack, made⟩ : ∃ ack, Endpoint.standard.acknackOf (some (.single 7)) = .ok ack :=
      ⟨_, rfl⟩
    obtain ⟨-, -, body⟩ := Frame.parts_of_compose made
    refine reportsUnpublished_of_acknack reached rfl made ?_ (by simp)
    simp only [Effect.claims, body]
    exact ⟨by decide, nofun⟩
  · have failed : fresh.run (atOnce [.accepted, .received (.frame frame),
        .published (some (.publisherGone 7 "STA"))]) =
        ({ serving with tracker := some (.single 7) },
          [.entered .connecting, .entered .connected, .handled (.frame frame),
            .published frame (some (.publisherGone 7 "STA"))]) :=
      run_concat reached ⟨0, 0⟩ (.published (some (.publisherGone 7 "STA")))
    exact reportsUnpublished_of_left failed rfl rfl rfl rfl rfl rfl received (by simp)
  · have cancelled : fresh.run (atOnce [.accepted, .received (.frame frame), .shutdown,
        .publicationAbandoned]) =
        ({ serving with tracker := some (.single 7), stopping := true, cancelled := true },
          [.entered .connecting, .entered .connected, .handled (.frame frame),
            .unpublished frame]) :=
      run_append reached (atOnce [.shutdown, .publicationAbandoned])
    exact reportsUnpublished_of_left cancelled rfl rfl rfl rfl rfl rfl received (by simp)

end Consumer

end ContinuousData
