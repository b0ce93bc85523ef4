import ContinuousData.Proofs.ControlFrames
import ContinuousData.Proofs.CountedNumbers
import ContinuousData.Proofs.FrameBoundaries

/-! Where gaps come from. A number is missing only between two numbers that were counted. Apart
from DATA frames these are the numbers of COMMAND_RESPONSE frames, which an endpoint sends with the
number zero: after one of them, everything below the first DATA frame is missing. -/
namespace ContinuousData

namespace Endpoint

variable {endpoint : Endpoint} {frame : Frame}

/-- A frame of any type, as an endpoint makes it. -/
def Sends (endpoint : Endpoint) (frame : Frame) : Prop :=
  (∃ control, endpoint.send control = .ok frame) ∨
    ∃ subframes sequence, endpoint.data subframes sequence = .ok frame

theorem Sends.isObtained (sends : endpoint.Sends frame) : frame.IsObtained := by
  rcases sends with ⟨control, sent⟩ | ⟨subframes, sequence, sent⟩
  · obtain ⟨sequence, body, made, -⟩ := frame_of_send sent
    exact .composed made
  · obtain ⟨content, -, made⟩ := bind_eq_ok.mp sent
    exact .composed made

/-- Frames that answer a command all have the same number. -/
theorem Sends.sequence_eq_zero (sends : endpoint.Sends frame)
    (type : frame.type = .commandResponse) : frame.sequence = 0 := by
  rcases sends with ⟨control, sent⟩ | ⟨subframes, sequence, sent⟩
  · cases control with
    | commandResponse response => exact (Frame.parts_of_compose sent).2.1
    | alert | optionRequest | optionResponse =>
      obtain ⟨_, -, made⟩ := bind_eq_ok.mp sent
      exact nomatch (Frame.parts_of_compose made).1.symm.trans type
    | _ => exact nomatch (Frame.parts_of_compose sent).1.symm.trans type
  · obtain ⟨content, -, made⟩ := bind_eq_ok.mp sent
    exact nomatch (Frame.parts_of_compose made).1.symm.trans type

end Endpoint

/-- All numbers in the gaps are between two of the given ones. -/
def AreWithin (numbers : Set UInt64) (gaps : List (UInt64 × UInt64)) : Prop :=
  ∀ gap ∈ gaps, ∀ n, gap.1 ≤ n → n ≤ gap.2 → ∃ low ∈ numbers, ∃ high ∈ numbers, low < n ∧ n < high

theorem AreWithin.mono {numbers others : Set UInt64} {gaps : List (UInt64 × UInt64)}
    (h : AreWithin numbers gaps) (more : numbers ⊆ others) : AreWithin others gaps := by
  intro gap member n first last
  obtain ⟨low, below, high, above, inside⟩ := h gap member n first last
  exact ⟨low, more below, high, more above, inside⟩

theorem areWithin_nil (numbers : Set UInt64) : AreWithin numbers [] :=
  nofun

/-- The bounds of a list were added, so that nothing is missing outside of them. -/
theorem GapList.Follows.areWithin {list : GapList} {history : History}
    (h : list.Follows history) : AreWithin history.added list.bounds := by
  intro pair member n first last
  obtain ⟨gap, hg, rfl⟩ := List.mem_map.mp member
  have missing : n ∈ list.missingNumbers := ⟨gap, hg, Gap.contains_iff.mpr ⟨first, last⟩⟩
  obtain ⟨⟨low, high⟩, -⟩ := (h.missing n).mp missing
  refine ⟨list.min, h.min_mem, list.max, h.max_mem, ?_, ?_⟩
  · refine UInt64.lt_of_le_of_ne low ?_
    rintro rfl
    exact h.min_not_missing missing
  · refine UInt64.lt_of_le_of_ne high ?_
    rintro rfl
    exact h.max_not_missing missing

theorem Tracker.Follows.areWithin {tracker : Tracker} {history : History}
    (h : tracker.Follows history) :
    AreWithin history.added tracker.gaps ∧ AreWithin history.added tracker.snapshot.gaps := by
  cases tracker with
  | none => exact ⟨areWithin_nil _, areWithin_nil _⟩
  | some list =>
    refine ⟨GapList.Follows.areWithin h, ?_⟩
    change AreWithin history.added list.closedBounds
    rw [GapList.Follows.closedBounds_eq h]
    exact GapList.Follows.areWithin h

namespace Consumer

variable {σ : Type} [GapStore σ] {consumer next : Consumer σ} {moment : Moment} {event : Event}
  {past effects : List Effect}

omit [GapStore σ] in
theorem follows_of_counts {history : History} (follows : consumer.tracker.Follows history)
    (counts : consumer.Counts moment event next effects) :
    ∃ seen, next.tracker.Follows seen ∧ seen.added ⊆ history.added ∪ numbers (counted effects) := by
  rcases counts.follows follows with ⟨empty, -⟩ | later | ⟨-, -, later⟩
  · exact ⟨.empty, empty ▸ rfl, Set.empty_subset _⟩
  · exact ⟨_, later, subset_rfl⟩
  · exact ⟨_, later, Set.subset_union_left⟩

/-- An acknowledgement asks for nothing but numbers between the given ones. -/
def Asks (numbers : Set UInt64) (frame : Frame) : Prop :=
  ∀ acknowledgement, frame.body = .acknack acknowledgement → AreWithin numbers acknowledgement.gaps

/-- What is missing, and what is asked for, is between numbers that have been counted. -/
structure AsksWithin (consumer : Consumer σ) (past : List Effect) : Prop where
  writes : consumer.WritesInKind
  follows : ∃ history, consumer.tracker.Follows history ∧ history.added ⊆ numbers (counted past)
  asks : ∀ frame, consumer.acknack = .writing frame → Asks (numbers (counted past)) frame
  asked : ∀ frame written, .wrote frame written ∈ past → Asks (numbers (counted past)) frame

theorem AsksWithin.move (h : consumer.AsksWithin past)
    (move : consumer.Moves moment event next effects) : next.AsksWithin (past ++ effects) := by
  have more : numbers (counted past) ⊆ numbers (counted (past ++ effects)) := by
    rw [counted_append, numbers_append]
    exact Set.subset_union_left
  have later {frame : Frame} (asks : Asks (numbers (counted past)) frame) :
      Asks (numbers (counted (past ++ effects))) frame :=
    fun acknowledgement body => (asks acknowledgement body).mono more
  obtain ⟨history, follows, known⟩ := h.follows
  constructor
  case writes => exact h.writes.move move
  case follows =>
    obtain ⟨seen, follows, added⟩ := follows_of_counts follows move.counts
    refine ⟨seen, follows, added.trans ?_⟩
    rw [counted_append, numbers_append]
    exact Set.union_subset_union_left _ known
  case asks =>
    intro frame writing
    rcases move.writing_cases writing with before | made
    · exact later (h.asks frame before)
    · refine later fun acknowledgement body => ?_
      rw [Endpoint.body_of_acknackOf made] at body
      obtain rfl := Body.acknack.inj body
      exact follows.areWithin.2.mono known
  case asked =>
    intro frame written wrote
    rcases List.mem_append.mp wrote with before | after
    · exact later (h.asked frame written before)
    rcases h.writes.wrote_cases move after with ⟨writing, -⟩ | ⟨-, type⟩ | ⟨-, words⟩
    · exact later (h.asks frame writing)
    · exact fun _ body => nomatch (congrArg Body.type body).symm.trans type
    · exact fun _ body => nomatch body.symm.trans words

omit [GapStore σ] in
theorem asksWithin_of_idle (writes : consumer.WritesInKind) (coherent : consumer.IsCoherent)
    (idle : consumer.isIdle = true) (empty : consumer.tracker = .empty) :
    consumer.AsksWithin [] where
  writes := writes
  follows := ⟨.empty, empty ▸ rfl, Set.empty_subset _⟩
  asks := fun _ writing => nomatch writing.symm.trans (coherent.ended (.inl idle)).1
  asked := fun _ _ wrote => absurd wrote List.not_mem_nil

/-- A number between those of two received frames: of DATA frames, or of a COMMAND_RESPONSE frame
with the number zero and a DATA frame. -/
def IsBetween (past : List Effect) (n : UInt64) : Prop :=
  ∃ low high, .handled (.frame low) ∈ past ∧ .handled (.frame high) ∈ past ∧
    low.sequence < n ∧ n < high.sequence ∧ high.body.type = .data ∧
    (low.body.type = .data ∨ low.body.type = .commandResponse ∧ low.sequence = 0)

/-- Between numbers that have been counted. -/
theorem isBetween_of_areWithin {gaps : List (UInt64 × UInt64)}
    (within : AreWithin (numbers (counted past)) gaps)
    (sent : ∀ frame, .handled (.frame frame) ∈ past → frame.body.type = .commandResponse →
      frame.sequence = 0) :
    ∀ gap ∈ gaps, ∀ n, gap.1 ≤ n → n ≤ gap.2 → IsBetween past n := by
  intro gap member n first last
  obtain ⟨_, ⟨low, below, rfl⟩, _, ⟨high, above, rfl⟩, lower, upper⟩ :=
    within gap member n first last
  obtain ⟨below, lowType⟩ := mem_counted.mp below
  obtain ⟨above, highType⟩ := mem_counted.mp above
  refine ⟨low, high, below, above, lower, upper, highType.resolve_right fun type => ?_,
    lowType.imp_right fun type => ⟨type, sent low below type⟩⟩
  rw [sent high above type] at upper
  exact UInt64.not_lt_zero upper

/-- On a connection to an endpoint, numbers are missing, and are asked for, only between the numbers
of two DATA frames, or below that of a DATA frame after a COMMAND_RESPONSE frame. -/
theorem gaps_between {config : ConsumerConfig} {store : σ} {started consumer : Consumer σ}
    {before : List (Moment × Event)} {earlier : List Effect}
    (bound : bind config store = .ok started) (reached : started.run before = (consumer, earlier))
    (idle : consumer.isIdle = true) (empty : consumer.tracker = .empty)
    {events : List (Moment × Event)}
    (sent : ∀ moment incoming, (moment, .received incoming) ∈ events →
      ∃ (endpoint : Endpoint) (frame : Frame), endpoint.Sends frame ∧
        incoming = .ofPiece (.frame frame.raw))
    {now : Consumer σ} {past : List Effect} (ran : consumer.run events = (now, past)) :
    (∀ gap ∈ now.tracker.gaps, ∀ n, gap.1 ≤ n → n ≤ gap.2 → IsBetween past n) ∧
      ∀ ack written acknowledgement, .wrote ack written ∈ past →
        ack.body = .acknack acknowledgement →
        ∀ gap ∈ acknowledgement.gaps, ∀ n, gap.1 ≤ n → n ≤ gap.2 → IsBetween past n := by
  have writes := (writesInKind_of_bind bound).run before
  have coherent := (isCoherent_of_bind bound).run before
  rw [reached] at writes coherent
  have within : AsksWithin (consumer.run events).1 (consumer.run events).2 :=
    run_keeps (asksWithin_of_idle writes coherent idle empty) fun _ within move => within.move move
  rw [ran] at within
  have zero (whole : Frame) (handled : .handled (.frame whole) ∈ past)
      (type : whole.body.type = .commandResponse) : whole.sequence = 0 := by
    obtain ⟨moment, received⟩ := exists_received ran handled
    obtain ⟨endpoint, frame, sends, arrived⟩ := sent moment _ received
    have parsed := Incoming.parse_of_ofPiece arrived.symm
    obtain ⟨sameType, sameNumber⟩ := sends.isObtained.numbers_of_parse parsed
    rw [sameNumber]
    exact sends.sequence_eq_zero (sameType ▸ Frame.type_of_parse parsed ▸ type)
  obtain ⟨history, follows, known⟩ := within.follows
  refine ⟨isBetween_of_areWithin (follows.areWithin.1.mono known) zero, ?_⟩
  intro ack written acknowledgement wrote body
  exact isBetween_of_areWithin (within.asked ack written wrote acknowledgement body) zero

/-- A gap between two DATA frames. -/
theorem gaps_between_data :
    ∃ first second now past, Endpoint.standard.data [Endpoint.silence 40] 7 = .ok first ∧
      Endpoint.standard.data [Endpoint.silence 40] 5 = .ok second ∧
      fresh.run (atOnce [.accepted, .received (.frame first), .published none,
        .received (.frame second)]) = (now, past) ∧
      now.tracker.gaps = [(6, 6)] ∧ IsBetween past 6 := by
  obtain ⟨first, content, sent, number, body, back⟩ := Endpoint.exists_silence 7
  obtain ⟨second, other, sent', number', body', back'⟩ := Endpoint.exists_silence 5
  have reached := run_received_data body body'
  have gaps : (Tracker.add (some (.single 7)) 5 0).gaps = [(6, 6)] := by decide
  rw [number, number'] at reached
  have arrives : ∀ moment incoming, (moment, .received incoming) ∈ atOnce [.accepted,
      .received (.frame first), .published none, .received (.frame second)] →
      ∃ (endpoint : Endpoint) (frame : Frame), endpoint.Sends frame ∧
        incoming = .ofPiece (.frame frame.raw) := by
    intro moment incoming member
    obtain ⟨-, rfl⟩ | ⟨-, rfl⟩ : moment = ⟨0, 0⟩ ∧ incoming = .frame first ∨
        moment = ⟨0, 0⟩ ∧ incoming = .frame second := by simpa [atOnce] using member
    · exact ⟨_, first, .inr ⟨_, _, sent⟩, (Incoming.ofPiece_of_parse back).symm⟩
    · exact ⟨_, second, .inr ⟨_, _, sent'⟩, (Incoming.ofPiece_of_parse back').symm⟩
  obtain ⟨between, -⟩ := gaps_between bind_fresh (Eq.refl (fresh.run [])) rfl rfl arrives reached
  refine ⟨first, second, _, _, sent, sent', reached, gaps, ?_⟩
  exact between (6, 6) (gaps ▸ List.mem_singleton_self _) 6 (UInt64.le_refl 6) (UInt64.le_refl 6)

/-- A DATA frame, and an answer to a command. -/
theorem run_received_reply {frame reply : Frame} {content : DataFrame} {response : CommandResponse}
    (body : frame.body = .data content) (body' : reply.body = .commandResponse response) :
    fresh.run (atOnce [.accepted, .received (.frame frame), .published none,
      .received (.frame reply)]) =
      ({ serving with tracker := Tracker.add (some (.single frame.sequence)) reply.sequence 0 },
        [.entered .connecting, .entered .connected, .handled (.frame frame),
          .published frame none, .handled (.frame reply)]) := by
  obtain ⟨header, _, trailer, raw⟩ := reply
  obtain rfl := body'
  exact run_append (run_received body) (atOnce [.published none, .received (.frame _)])

/-- After an answer to a command, everything from number one on is missing. -/
theorem gaps_below_data :
    bind { station := "STA" } MemoryStore.empty = .ok fresh ∧ fresh.tracker = .empty ∧
      ∃ frame reply whole now past, Endpoint.standard.data [Endpoint.silence 40] 5 = .ok frame ∧
        Endpoint.standard.commandResponse .refusal = .ok reply ∧
        Incoming.ofPiece (.frame frame.raw) = .frame frame ∧
        Incoming.ofPiece (.frame reply.raw) = .frame whole ∧
        fresh.run (atOnce [.accepted, .received (.frame frame), .published none,
          .received (.frame whole)]) = (now, past) ∧ now.tracker.gaps = [(1, 4)] ∧
        ∀ other, .handled (.frame other) ∈ past → other.body.type = .data → other.sequence = 5 := by
  obtain ⟨frame, content, sent, number, body, back⟩ := Endpoint.exists_silence 5
  obtain ⟨reply, made⟩ : ∃ reply, Endpoint.standard.commandResponse .refusal = .ok reply := ⟨_, rfl⟩
  obtain ⟨type, zero, replyBody⟩ := Frame.parts_of_compose made
  have legible : reply.body.IsLegible := by
    rw [replyBody]
    decide
  have parsed := congrArg Prod.fst (Frame.parse_of_legible (Frame.encode_of_compose made)
    (by rw [replyBody]; decide) legible)
  have answers : reply.kept.body = .commandResponse _ := congrArg Body.kept replyBody
  have reached := run_received_reply body answers
  have gaps : (Tracker.add (some (.single 5)) 0 0).gaps = [(1, 4)] := by decide
  have zero : reply.kept.sequence = 0 := zero
  rw [number, zero] at reached
  refine ⟨bind_fresh, rfl, frame, reply, reply.kept, _, _, sent, made, ?_, ?_, reached, gaps, ?_⟩
  · exact Incoming.ofPiece_of_parse back
  · exact Incoming.ofPiece_of_parse parsed
  · intro other handled data
    obtain rfl | rfl : other = frame ∨ other = reply.kept := by simpa using handled
    · exact number
    · exact nomatch (congrArg Body.type answers).symm.trans data

end Consumer

end ContinuousData
