import ContinuousData.Proofs.CountedNumbers
import ContinuousData.Proofs.FrameBoundaries

/-! What a consumer acknowledges of the DATA frames that it has been sent, as its peer reads it. On
the way from the first byte to the last, frames are cut off a stream, parsed, counted and reported,
and the report is cut off another stream and parsed. -/
namespace ContinuousData

/-- Frames arrive as they have been sent, in whatever chunks their bytes do. -/
theorem Splitter.arrives_of_flatten {limit : Nat} {frames : List Frame} {chunks : List Bytes}
    (parsed : ∀ frame ∈ frames, (Frame.parse frame.raw).1 = .ok frame)
    (short : ∀ frame ∈ frames, frame.raw.length ≤ limit)
    (h : chunks.flatten = (frames.map (·.raw)).flatten) :
    (feedAll limit [] chunks).1.map Incoming.ofPiece = frames.map .frame := by
  obtain ⟨outlines, raws⟩ := exists_outlines fun frame hf => .parsed (parsed frame hf)
  have fits : ∀ raw ∈ outlines.map (·.raw), raw.length ≤ limit := by
    rw [raws]
    exact List.forall_mem_map.mpr short
  have fed : feedAll limit [] chunks = (outlines.map (.frame ·.raw), []) :=
    feedAll_of_flatten (List.forall_mem_map.mp fits) rfl (by rw [raws, ← h, List.nil_append])
  have arrived : (frames.map (·.raw)).map (fun raw => Incoming.ofPiece (.frame raw)) =
      frames.map .frame := by
    rw [List.map_map]
    exact List.map_congr_left fun frame hf => Incoming.ofPiece_of_parse (parsed frame hf)
  rw [fed, ← arrived, ← raws, List.map_map, List.map_map]
  rfl

theorem Acknowledgement.write_eq_ok {body : Acknowledgement} {written : Bytes} :
    body.write = .ok written ↔
      ∃ frameset, Encoder.text body.frameset framesetWidth = .ok frameset ∧
        body.gaps.length ≤ Encoder.maxLength ∧
        frameset ++ Encoder.u64 body.lowest ++ Encoder.u64 body.highest ++
          Encoder.length body.gaps.length ++
          (body.gaps.flatMap fun (first, last) => Encoder.u64 first ++ Encoder.u64 last) =
            written := by
  unfold write
  simp only [bind_eq_ok, refuse_eq_ok, pure_eq_ok, Nat.not_lt]

theorem Acknowledgement.length_write {body : Acknowledgement} {written : Bytes}
    (h : body.write = .ok written) : written.length = 40 + 16 * body.gaps.length := by
  obtain ⟨frameset, text, -, rfl⟩ := write_eq_ok.mp h
  simp only [List.length_append, Encoder.length_text text, Encoder.length_u64,
    Encoder.length_length, length_gaps, framesetWidth, gapWidth]
  omega

namespace Endpoint

variable {endpoint : Endpoint}

/-- An acknowledgement can be made unless it is too long for the length fields of a frame. -/
theorem IsBuilt.exists_acknack_iff (built : endpoint.IsBuilt) {frameset : String}
    (fits : Text.size frameset ≤ Acknowledgement.framesetWidth) (lowest highest : UInt64)
    (gaps : List (UInt64 × UInt64)) :
    (∃ ack, endpoint.acknack frameset lowest highest gaps = .ok ack) ↔
      76 + 16 * gaps.length ≤ Encoder.maxLength := by
  constructor
  · rintro ⟨ack, made⟩
    obtain ⟨middle, written, raw, encoded, -⟩ := Frame.compose_eq_ok.mp made
    obtain ⟨-, head, headWritten, -⟩ := Frame.encode_eq_ok.mp encoded
    obtain ⟨-, offset, -⟩ := Header.write_eq_ok headWritten
    have length := Acknowledgement.length_write written
    dsimp only at offset length
    rw [length, Header.width] at offset
    omega
  · intro short
    obtain ⟨middle, written⟩ : ∃ middle,
        Acknowledgement.write { frameset, lowest, highest, gaps } = .ok middle :=
      ⟨_, Acknowledgement.write_eq_ok.mpr ⟨_, Encoder.text_of_size fits, by dsimp only; omega, rfl⟩⟩
    have length := Acknowledgement.length_write written
    dsimp only at length
    exact @IsBuilt.exists_frame endpoint built (.acknack { frameset, lowest, highest, gaps }) middle
      written (by rw [length, Header.width]; omega) 0

/-- It is cut off a stream at its last byte, however its bytes arrive. -/
theorem next_of_acknack {frameset : String} {lowest highest : UInt64}
    {gaps : List (UInt64 × UInt64)} {ack : Frame}
    (made : endpoint.acknack frameset lowest highest gaps = .ok ack) {limit : Nat}
    (short : ack.raw.length ≤ limit) :
    (∀ rest, Splitter.next limit (ack.raw ++ rest) = some (.frame ack.raw, rest)) ∧
      ∀ chunks, chunks.flatten = ack.raw →
        Splitter.feedAll limit [] chunks = ([.frame ack.raw], []) := by
  obtain ⟨outline, raw⟩ := Outline.exists_of_encode (Frame.encode_of_compose made)
  rw [← raw] at short ⊢
  constructor
  · intro rest
    rw [Outline.next_of_prefix short List.prefix_rfl, List.drop_left, if_neg]
    rw [List.length_append]
    omega
  · intro chunks whole
    exact @Splitter.feedAll_of_flatten limit [outline] [] chunks (by simpa using short) rfl
      (by simpa using whole)

end Endpoint

namespace Consumer

variable {σ : Type} [GapStore σ] {consumer next : Consumer σ} {moment : Moment} {event : Event}
  {past effects : List Effect}

/-- The numbers of the gaps that are given up in the course of the events. Gaps are looked at for
their age before the state is stored. -/
def givenUp (consumer : Consumer σ) : List (Moment × Event) → Set UInt64
  | [] => ∅
  | (moment, event) :: events =>
    {n | event = .storeDue ∧ consumer.keeper = .waiting ∧ n ∈ consumer.overdue moment} ∪
      (consumer.step moment event).1.givenUp events

/-- Nothing but DATA frames has been read. -/
def ReadsData (past : List Effect) : Prop :=
  ∀ incoming, .handled incoming ∈ past →
    ∃ frame, incoming = .frame frame ∧ frame.body.type = .data

theorem keeps_of_move (keeps : consumer.reader.Keeps)
    (reads : ReadsData effects) (move : consumer.Moves moment event next effects) :
    next.reader.Keeps := by
  unfold ReaderTask.Keeps at keeps ⊢
  cases move
  case peerAcknack frame acknowledgement waiting body =>
    obtain ⟨_, same, data⟩ := reads _ (.head _)
    obtain rfl := Incoming.frame.inj same
    exact nomatch (congrArg Body.type body).symm.trans data
  case customReset frame payload waiting body enabled =>
    obtain ⟨_, same, data⟩ := reads _ (.head _)
    obtain rfl := Incoming.frame.inj same
    exact nomatch (congrArg Body.type body).symm.trans data
  all_goals first | exact keeps | simp_all

/-- The first step of the task that keeps the gap state. -/
theorem step_storeDue (waiting : consumer.keeper = .waiting) (moment : Moment) :
    consumer.step moment .storeDue = ({ consumer.expire moment with keeper := .expired }, []) := by
  change consumer.stepKeeper moment .storeDue = _
  unfold stepKeeper
  rw [waiting]

/-- What is given up counts as received. -/
theorem follows_step {history : History} (follows : consumer.tracker.Follows history)
    (keeps : consumer.reader.Keeps) (moment : Moment) (event : Event) :
    (consumer.step moment event).1.tracker.Follows
      ((history.add (numbers (counted (consumer.step moment event).2))).drop
        {n | event = .storeDue ∧ consumer.keeper = .waiting ∧ n ∈ consumer.overdue moment}) := by
  -- That gaps are looked at is told by the event and the task, not by what the step changes.
  by_cases due : event = .storeDue ∧ consumer.keeper = .waiting
  · obtain ⟨rfl, waiting⟩ := due
    have overdue : {n | Event.storeDue = .storeDue ∧ consumer.keeper = .waiting ∧
        n ∈ consumer.overdue moment} = consumer.overdue moment :=
      Set.ext fun n => ⟨fun given => given.2.2, fun given => ⟨rfl, waiting, given⟩⟩
    rw [overdue, step_storeDue waiting]
    change (consumer.expire moment).tracker.Follows ((history.add (numbers [])).drop _)
    rw [numbers_nil, History.add_empty]
    exact follows_expire follows moment
  · have nothing : {n | event = .storeDue ∧ consumer.keeper = .waiting ∧
        n ∈ consumer.overdue moment} = ∅ :=
      Set.eq_empty_iff_forall_notMem.mpr fun n given => due ⟨given.1, given.2.1⟩
    rw [nothing, History.drop_empty]
    rcases (consumer.moves_step moment event).counts.follows follows with
      ⟨-, emptying⟩ | later | ⟨stores, waiting, -⟩
    · exact absurd keeps emptying
    · exact later
    · exact absurd ⟨stores, waiting⟩ due

theorem follows_run {history : History} {events : List (Moment × Event)}
    (follows : consumer.tracker.Follows history) (keeps : consumer.reader.Keeps)
    (reads : ReadsData (consumer.run events).2) :
    (consumer.run events).1.tracker.Follows
      ((history.add (numbers (counted (consumer.run events).2))).drop
        (consumer.givenUp events)) := by
  induction events generalizing consumer history with
  | nil =>
    change consumer.tracker.Follows ((history.add (numbers [])).drop ∅)
    rwa [numbers_nil, History.add_empty, History.drop_empty]
  | cons event events ih =>
    obtain ⟨moment, event⟩ := event
    have split : (consumer.run ((moment, event) :: events)).2 =
        (consumer.step moment event).2 ++ ((consumer.step moment event).1.run events).2 := rfl
    rw [split] at reads ⊢
    have first : ReadsData (consumer.step moment event).2 :=
      fun incoming handled => reads incoming (List.mem_append_left _ handled)
    have others : ReadsData ((consumer.step moment event).1.run events).2 :=
      fun incoming handled => reads incoming (List.mem_append_right _ handled)
    have later := ih (follows_step follows keeps moment event)
      (keeps_of_move keeps first (consumer.moves_step moment event)) others
    rw [History.drop_add, History.add_add, History.drop_drop, ← numbers_append,
      ← counted_append] at later
    exact later

/-- The numbers of DATA frames are counted. -/
theorem counted_of_handled {frames : List Frame}
    (handled : past.filterMap Effect.handled? = frames.map .frame)
    (data : ∀ frame ∈ frames, frame.body.type = .data) :
    ReadsData past ∧ numbers (counted past) = numbers frames := by
  have read (incoming : Incoming) :
      .handled incoming ∈ past ↔ ∃ frame ∈ frames, Incoming.frame frame = incoming := by
    rw [← mem_handled, handled, List.mem_map]
  constructor
  · intro incoming member
    obtain ⟨frame, hf, rfl⟩ := (read incoming).mp member
    exact ⟨frame, rfl, data frame hf⟩
  · refine Set.ext fun n => exists_congr fun frame => and_congr_left fun _ => ?_
    rw [mem_counted, read]
    constructor
    · rintro ⟨⟨other, hf, equal⟩, -⟩
      obtain rfl := Incoming.frame.inj equal
      exact hf
    · exact fun hf => ⟨⟨frame, hf, rfl⟩, .inl (data frame hf)⟩

/-- From an empty tracker, nothing else is known. -/
theorem follows_of_handled {events : List (Moment × Event)} (coherent : consumer.IsCoherent)
    (idle : consumer.isIdle = true) (empty : consumer.tracker = .empty) {frames : List Frame}
    (handled : (consumer.run events).2.filterMap Effect.handled? = frames.map .frame)
    (data : ∀ frame ∈ frames, frame.body.type = .data) :
    (consumer.run events).1.tracker.Follows
      ⟨numbers frames, numbers frames ∪ consumer.givenUp events⟩ := by
  obtain ⟨reads, same⟩ := counted_of_handled handled data
  have keeps : consumer.reader.Keeps := by
    rw [coherent.finished_of_idle idle]
    exact ⟨nofun, nofun⟩
  have nothing : consumer.tracker.Follows .empty := by
    rw [empty]
    rfl
  have follows := follows_run nothing keeps reads
  rwa [same, History.drop_empty_add] at follows

/-- Where gaps do not expire, none are given up. -/
theorem givenUp_eq_empty (never : consumer.config.gapExpiration = none)
    (events : List (Moment × Event)) : consumer.givenUp events = ∅ := by
  induction events generalizing consumer with
  | nil => rfl
  | cons event events ih =>
    obtain ⟨moment, event⟩ := event
    have move := consumer.moves_step moment event
    unfold givenUp
    rw [ih (move.config_eq ▸ never), Set.union_empty]
    refine Set.eq_empty_iff_forall_notMem.mpr fun n given => ?_
    have overdue := given.2.2
    rw [Consumer.overdue, never] at overdue
    exact overdue

/-- After any DATA frames, in whatever order and however often they come and in whatever chunks
their bytes arrive, what is acknowledged is what has been received: the least and the greatest
number, and in between all that is missing and has not been given up. An acknowledgement that is not
too long to be made reaches a peer as it is, unless it is too long for the peer. -/
theorem acknowledges_received {config : ConsumerConfig} {store : σ} {started consumer : Consumer σ}
    {before : List (Moment × Event)} {earlier : List Effect}
    (bound : bind config store = .ok started) (reached : started.run before = (consumer, earlier))
    (idle : consumer.isIdle = true) (empty : consumer.tracker = .empty)
    {events : List (Moment × Event)} {now : Consumer σ} {past : List Effect}
    (ran : consumer.run events = (now, past)) {frames : List Frame} (nonempty : frames ≠ [])
    (parsed : ∀ frame ∈ frames, (Frame.parse frame.raw).1 = .ok frame ∧ frame.body.type = .data)
    (short : ∀ frame ∈ frames, frame.raw.length ≤ consumer.config.maxFrameSize)
    {chunks : List Bytes} (sent : chunks.flatten = (frames.map (·.raw)).flatten)
    (handled : past.filterMap Effect.handled? =
      (Splitter.feedAll consumer.config.maxFrameSize [] chunks).1.map Incoming.ofPiece) :
    (consumer.config.gapExpiration = none → consumer.givenUp events = ∅) ∧
      ∃ lowest highest gaps,
        (History.mk (numbers frames) (numbers frames ∪ consumer.givenUp events)).Determines
          lowest highest gaps ∧
        ((∃ ack, now.endpoint.acknackOf now.tracker = .ok ack) ↔
          76 + 16 * gaps.length ≤ Encoder.maxLength) ∧
        ∀ ack, now.endpoint.acknackOf now.tracker = .ok ack →
          (now.acknack = .waiting →
            ∀ moment, (now.step moment .acknackDue).1.acknack = .writing ack) ∧
          (∀ limit, ack.raw.length ≤ limit →
            (∀ rest, Splitter.next limit (ack.raw ++ rest) = some (.frame ack.raw, rest)) ∧
            ∀ chunks, chunks.flatten = ack.raw →
              Splitter.feedAll limit [] chunks = ([.frame ack.raw], [])) ∧
          ∃ whole frameset, (Frame.parse ack.raw).1 = .ok whole ∧
            whole.body = .acknack { frameset, lowest, highest, gaps } := by
  refine ⟨fun never => givenUp_eq_empty never events, ?_⟩
  have writes := (writesInKind_of_bind bound).run before
  have coherent := (isCoherent_of_bind bound).run before
  rw [reached] at writes coherent
  have built := (writes.run events).built
  rw [Splitter.arrives_of_flatten (fun frame hf => (parsed frame hf).1) short sent] at handled
  have follows := @follows_of_handled σ _ consumer events coherent idle empty frames
    (by rw [ran, handled]) fun frame hf => (parsed frame hf).2
  rw [ran] at built follows
  obtain ⟨frame, hf⟩ := List.exists_mem_of_ne_nil frames nonempty
  obtain ⟨list, tracked, follows⟩ := follows.exists_list ⟨frame.sequence, frame, hf, rfl⟩
  have report : now.endpoint.acknackOf now.tracker =
      now.endpoint.acknack now.endpoint.frameset list.min list.max list.bounds := by
    rw [tracked, ← follows.closedBounds_eq]
    rfl
  refine ⟨list.min, list.max, list.bounds, follows.determines, ?_, fun ack made => ⟨?_, ?_, ?_⟩⟩
  · rw [report]
    exact built.exists_acknack_iff built.size_frameset_le _ _ _
  · intro waiting moment
    simp only [step, stepAcknack, waiting, acknowledge, made]
  · rw [report] at made
    exact fun limit short => Endpoint.next_of_acknack made short
  · rw [report] at made
    exact Endpoint.exists_parse_acknack made

/-- Two DATA frames in the wrong order. -/
theorem exists_reversed :
    ∃ first second content other, Endpoint.standard.data [Endpoint.silence 40] 7 = .ok first ∧
      Endpoint.standard.data [Endpoint.silence 40] 5 = .ok second ∧ first.sequence = 7 ∧
      second.sequence = 5 ∧ first.body = .data content ∧ second.body = .data other ∧
      (∀ frame ∈ [first, second],
        (Frame.parse frame.raw).1 = .ok frame ∧ frame.body.type = .data) ∧
      ∀ frame ∈ [first, second], frame.raw.length ≤ Splitter.defaultLimit := by
  obtain ⟨first, content, sent, number, body, back⟩ := Endpoint.exists_silence 7
  obtain ⟨second, other, sent', number', body', back'⟩ := Endpoint.exists_silence 5
  have length : (Endpoint.standard.data [Endpoint.silence 40] 7).map (·.raw.length) = .ok 216 ∧
      (Endpoint.standard.data [Endpoint.silence 40] 5).map (·.raw.length) = .ok 216 := by
    decide +kernel
  rw [sent, sent'] at length
  have short : first.raw.length = 216 := Except.ok.inj length.1
  have short' : second.raw.length = 216 := Except.ok.inj length.2
  exact ⟨first, second, content, other, sent, sent', number, number', body, body',
    by simp [back, back', body, body', Body.type], by simp [short, short', Splitter.defaultLimit]⟩

/-- The first one is cut after its first byte. -/
theorem acknowledges_received_reversed :
    ∃ first second now past ack whole frameset,
      Endpoint.standard.data [Endpoint.silence 40] 7 = .ok first ∧
      Endpoint.standard.data [Endpoint.silence 40] 5 = .ok second ∧
      fresh.run (atOnce [.accepted, .received (.frame first), .published none,
        .received (.frame second)]) = (now, past) ∧
      now.endpoint.acknackOf now.tracker = .ok ack ∧ (Frame.parse ack.raw).1 = .ok whole ∧
      whole.body = .acknack ⟨frameset, 5, 7, [(6, 6)]⟩ ∧
      (History.mk (numbers [first, second]) (numbers [first, second])).Determines 5 7 [(6, 6)] := by
  obtain ⟨first, second, content, other, sent, sent', number, number', body, body', parsed,
    short⟩ := exists_reversed
  have reached := run_received_data body body'
  rw [number, number'] at reached
  have chunks : [first.raw.take 1, first.raw.drop 1 ++ second.raw].flatten =
      ([first, second].map (·.raw)).flatten := by
    simp only [List.flatten_cons, List.flatten_nil, List.map_cons, List.map_nil, List.append_nil]
    rw [← List.append_assoc, List.take_append_drop]
  have handled := Splitter.arrives_of_flatten (fun frame hf => (parsed frame hf).1) short chunks
  obtain ⟨ack, made⟩ : ∃ ack, Endpoint.standard.acknackOf
      (Tracker.add (some (.single 7)) 5 0) = .ok ack := ⟨_, rfl⟩
  obtain ⟨never, lowest, highest, gaps, determines, -, acknowledged⟩ :=
    acknowledges_received bind_fresh (Eq.refl (fresh.run [])) rfl rfl reached
      (List.cons_ne_nil first [second]) parsed short chunks handled.symm
  obtain ⟨-, -, whole, frameset, arrived, reported⟩ := acknowledged ack made
  obtain ⟨same, name, arrived', reported'⟩ := Endpoint.exists_parse_acknack made
  obtain rfl := Except.ok.inj (arrived.symm.trans arrived')
  have equal := Body.acknack.inj (reported.symm.trans reported')
  obtain ⟨-, rfl, rfl, rfl⟩ := Acknowledgement.mk.inj equal
  rw [never rfl, Set.union_empty] at determines
  exact ⟨first, second, _, _, ack, whole, frameset, sent, sent', reached, made, arrived, reported,
    determines⟩

/-- A consumer that gives up gaps after a second. -/
def impatient : Consumer MemoryStore :=
  { fresh with config := { station := "STA", gapExpiration := some (.ofSeconds 1) } }

theorem run_impatient {first second : Frame} {content other : DataFrame}
    (body : first.body = .data content) (body' : second.body = .data other) :
    ∃ now, impatient.run (atOnce [.accepted, .received (.frame first), .published none,
        .received (.frame second)] ++ [(⟨2000000000, 2000000000⟩, .storeDue)]) =
        (now, [.entered .connecting, .entered .connected, .handled (.frame first),
          .published first none, .handled (.frame second)]) ∧
      now.endpoint = Endpoint.standard ∧ now.tracker = Tracker.expire
        (Tracker.add (some (.single first.sequence)) second.sequence 0) 1000000000 := by
  obtain ⟨header, _, trailer, raw⟩ := first
  obtain ⟨header', _, trailer', raw'⟩ := second
  obtain rfl := body
  obtain rfl := body'
  exact ⟨_, rfl, rfl, rfl⟩

/-- The number between two received ones is missing. -/
theorem isMaximalRun_of_two {first second : Frame} (number : first.sequence = 7)
    (number' : second.sequence = 5) :
    IsMaximalRun {n | (5 ≤ n ∧ n ≤ 7) ∧ n ∉ numbers [first, second]} 6 6 := by
  have received (n : UInt64) : n ∈ numbers [first, second] ↔ n = 7 ∨ n = 5 := by
    simp [numbers, number, number', eq_comm]
  constructor
  case ordered => decide
  case within =>
    intro n low high
    obtain rfl : n = 6 := UInt64.le_antisymm high low
    exact ⟨by decide, by rw [received]; decide⟩
  case before =>
    rintro n - next ⟨-, missing⟩
    rw [received] at missing
    exact missing (.inr (by grind))
  case after =>
    rintro n - next ⟨-, missing⟩
    rw [received] at missing
    exact missing (.inl (by grind))

/-- A number that was never received is not asked for again once it has been given up. -/
theorem acknowledges_given_up :
    bind { station := "STA", gapExpiration := some (.ofSeconds 1) } MemoryStore.empty =
        .ok impatient ∧ impatient.isIdle = true ∧ impatient.tracker = .empty ∧
      ∃ first second now past ack whole frameset,
        Endpoint.standard.data [Endpoint.silence 40] 7 = .ok first ∧
        Endpoint.standard.data [Endpoint.silence 40] 5 = .ok second ∧
        (∀ frame ∈ [first, second],
          (Frame.parse frame.raw).1 = .ok frame ∧ frame.body.type = .data) ∧
        impatient.run (atOnce [.accepted, .received (.frame first), .published none,
          .received (.frame second)] ++ [(⟨2000000000, 2000000000⟩, .storeDue)]) = (now, past) ∧
        past.filterMap Effect.handled? = (Splitter.feedAll impatient.config.maxFrameSize []
          [first.raw, second.raw]).1.map Incoming.ofPiece ∧
        now.endpoint.acknackOf now.tracker = .ok ack ∧ (Frame.parse ack.raw).1 = .ok whole ∧
        whole.body = .acknack ⟨frameset, 5, 7, []⟩ ∧
        ¬ (History.mk (numbers [first, second]) (numbers [first, second])).Determines 5 7 [] := by
  obtain ⟨first, second, content, other, sent, sent', number, number', body, body', parsed,
    short⟩ := exists_reversed
  have handled := @Splitter.arrives_of_flatten impatient.config.maxFrameSize [first, second]
    [first.raw, second.raw] (fun frame hf => (parsed frame hf).1) short rfl
  obtain ⟨now, reached, endpoint, tracker⟩ := run_impatient body body'
  rw [number, number'] at tracker
  obtain ⟨ack, made⟩ : ∃ ack, Endpoint.standard.acknackOf
      (Tracker.expire (Tracker.add (some (.single 7)) 5 0) 1000000000) = .ok ack := ⟨_, rfl⟩
  obtain ⟨whole, frameset, arrived, reported⟩ := Endpoint.exists_parse_acknack made
  refine ⟨rfl, rfl, rfl, first, second, now, _, ack, whole, frameset, sent, sent', parsed, reached,
    handled.symm, ?_, arrived, reported, fun determines => ?_⟩
  · rw [endpoint, tracker, made]
  · exact List.not_mem_nil ((determines.runs 6 6).mpr (isMaximalRun_of_two number number'))

end Consumer

end ContinuousData
