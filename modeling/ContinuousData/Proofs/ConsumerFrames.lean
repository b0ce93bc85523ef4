import ContinuousData.Proofs.ConsumerMoves

/-! The frames that a consumer reads and writes. It reads while its reader is not busy. What it
writes are acknowledgements, answers to option requests and, at the end of a connection, an ALERT,
which its endpoint can always make. -/
namespace ContinuousData

namespace Endpoint

variable {endpoint : Endpoint}

theorem IsBuilt.adoptFrameset (built : endpoint.IsBuilt) (frameset : String) :
    (endpoint.adoptFrameset frameset).IsBuilt := by
  unfold Endpoint.adoptFrameset
  cases taken : endpoint.setFrameset frameset with
  | ok changed => exact built.setFrameset taken
  | error reason => exact built

/-- The name of the frame set fits into an acknowledgement. -/
theorem IsBuilt.size_frameset_le (built : endpoint.IsBuilt) :
    Text.size endpoint.frameset ≤ Acknowledgement.framesetWidth :=
  built.fits.frameset

/-- The last words on a connection can be sent. -/
theorem IsBuilt.exists_farewell (built : endpoint.IsBuilt) :
    ∃ alert, endpoint.alert Consumer.farewellMessage = .ok alert := by
  obtain ⟨middle, written⟩ :
      ∃ middle, Body.write (.alert Consumer.farewellMessage) = .ok middle := ⟨_, rfl⟩
  have length : middle.length = 28 := by
    obtain rfl := Except.ok.inj written
    rfl
  obtain ⟨alert, made⟩ := built.exists_frame written (by rw [length]; decide) 0
  exact ⟨alert, bind_eq_ok.mpr ⟨(), rfl, made⟩⟩

theorem isEncoded_of_frame {sequence : UInt64} {body : Body} {frame : Frame}
    (made : endpoint.frame sequence body = .ok frame) : frame.IsEncoded :=
  Frame.encode_of_compose made

theorem isEncoded_of_alert {message : String} {alert : Frame}
    (made : endpoint.alert message = .ok alert) : alert.IsEncoded := by
  obtain ⟨_, -, made⟩ := bind_eq_ok.mp made
  exact isEncoded_of_frame made

theorem isEncoded_of_optionResponse {setting : OptionSetting} {response : Frame}
    (made : endpoint.optionResponse setting = .ok response) : response.IsEncoded := by
  obtain ⟨_, -, made⟩ := bind_eq_ok.mp made
  exact isEncoded_of_frame made

theorem body_of_alert {message : String} {alert : Frame}
    (made : endpoint.alert message = .ok alert) : alert.body = .alert message := by
  obtain ⟨_, -, made⟩ := bind_eq_ok.mp made
  exact (Frame.parts_of_compose made).2.2

theorem body_of_optionResponse {setting : OptionSetting} {response : Frame}
    (made : endpoint.optionResponse setting = .ok response) :
    response.body = .optionResponse setting := by
  obtain ⟨_, -, made⟩ := bind_eq_ok.mp made
  exact (Frame.parts_of_compose made).2.2

theorem body_of_acknackOf {tracker : Tracker} {ack : Frame}
    (made : endpoint.acknackOf tracker = .ok ack) :
    ack.body = .acknack ⟨endpoint.frameset, tracker.snapshot.lowest, tracker.snapshot.highest,
      tracker.snapshot.gaps⟩ :=
  (Frame.parts_of_compose made).2.2

/-- What is acknowledged arrives as it is, but for the name of the frame set. -/
theorem exists_parse_acknack {frameset : String}
    {lowest highest : UInt64} {gaps : List (UInt64 × UInt64)} {frame : Frame}
    (made : endpoint.acknack frameset lowest highest gaps = .ok frame) :
    ∃ whole frameset, (Frame.parse frame.raw).1 = .ok whole ∧
      whole.body = .acknack { frameset, lowest, highest, gaps } := by
  have encoded := Frame.encode_of_compose made
  rw [(Frame.parts_of_compose made).2.2] at encoded
  exact Frame.exists_parse_acknack encoded

end Endpoint

/-- A frame with the bytes of its parts is read as one of its type, if it can be read. -/
theorem Frame.IsEncoded.type_of_parse {frame whole : Frame} (h : frame.IsEncoded)
    (parsed : (Frame.parse frame.raw).1 = .ok whole) : whole.body.type = frame.body.type := by
  obtain ⟨same, -⟩ := Frame.encode_eq_ok.mp h
  exact (Frame.type_of_parse parsed).trans ((Frame.numbers_of_encode h parsed).1.trans same)

theorem Incoming.ofPiece_of_parse {raw : Bytes} {whole : Frame}
    (parsed : (Frame.parse raw).1 = .ok whole) : ofPiece (.frame raw) = .frame whole := by
  rw [ofPiece, parsed]

theorem Incoming.parse_of_ofPiece {raw : Bytes} {whole : Frame}
    (h : ofPiece (.frame raw) = .frame whole) : (Frame.parse raw).1 = .ok whole := by
  unfold ofPiece at h
  dsimp only at h
  split at h
  case h_1 other parsed =>
    obtain rfl := Incoming.frame.inj h
    exact parsed
  case h_2 => contradiction

namespace Consumer

/-- What there is to be read. -/
def Event.incoming? : Event → Option Incoming
  | received incoming => some incoming
  | _ => none

/-- What was read. -/
def Effect.handled? : Effect → Option Incoming
  | handled incoming => some incoming
  | _ => none

theorem mem_handled {past : List Effect} {incoming : Incoming} :
    incoming ∈ past.filterMap Effect.handled? ↔ .handled incoming ∈ past := by
  rw [List.mem_filterMap]
  constructor
  · rintro ⟨effect, member, same⟩
    cases effect with
    | handled other =>
      obtain rfl := Option.some.inj same
      exact member
    | _ => exact nomatch same
  · exact fun member => ⟨_, member, rfl⟩

section Reading

variable {σ : Type} [GapStore σ]

/-- What is read in the course of the events. Nothing is read while the reader is busy. -/
def arrivals (consumer : Consumer σ) : List (Moment × Event) → List Incoming
  | [] => []
  | (moment, event) :: events =>
    (if consumer.reader = .waiting then event.incoming?.toList else []) ++
      (consumer.step moment event).1.arrivals events

/-- What is selected of the effects of a step does not depend on what it stores. -/
theorem filterMap_persist {α : Type} {select : Effect → Option α}
    (none : ∀ state failure, select (.stored state failure) = none) (consumer : Consumer σ) :
    consumer.persist.2.filterMap select = [] := by
  refine List.filterMap_eq_nil_iff.mpr fun effect member => ?_
  obtain ⟨state, failure, -, rfl⟩ := mem_persist member
  exact none state failure

/-- The steps of a reader that waits are those that read. -/
theorem handled_of_move {consumer next : Consumer σ} {moment : Moment} {event : Event}
    {effects : List Effect} (move : consumer.Moves moment event next effects)
    (refused : effects = [] → consumer.reader = .waiting → event.incoming? = none) :
    effects.filterMap Effect.handled? =
      if consumer.reader = .waiting then event.incoming?.toList else [] := by
  cases move
  case refused =>
    split
    case isTrue waiting => rw [refused rfl waiting]; rfl
    case isFalse => rfl
  all_goals
    clear refused
    have persist := @filterMap_persist σ _ _ Effect.handled? (fun _ _ => rfl) consumer
    simp [Effect.handled?, Event.incoming?, *]

/-- A reader that waits takes what there is to be read. -/
theorem handled_step (consumer : Consumer σ) (moment : Moment) (event : Event) :
    (consumer.step moment event).2.filterMap Effect.handled? =
      if consumer.reader = .waiting then event.incoming?.toList else [] := by
  refine handled_of_move (consumer.moves_step moment event) fun nothing waiting => ?_
  cases event with
  | received incoming =>
    change (consumer.stepReader moment (.received incoming)).2 = [] at nothing
    unfold stepReader at nothing
    simp only [waiting, receive, reduceCtorEq] at nothing
  | _ => rfl

theorem handled_run (consumer : Consumer σ) (events : List (Moment × Event)) :
    (consumer.run events).2.filterMap Effect.handled? = consumer.arrivals events := by
  induction events generalizing consumer with
  | nil => rfl
  | cons event events ih =>
    obtain ⟨moment, event⟩ := event
    change ((consumer.step moment event).2 ++
      ((consumer.step moment event).1.run events).2).filterMap Effect.handled? = _
    rw [List.filterMap_append, handled_step, ih]
    rfl

theorem arrivals_sublist (consumer : Consumer σ) (events : List (Moment × Event)) :
    (consumer.arrivals events).Sublist (events.filterMap (·.2.incoming?)) := by
  induction events generalizing consumer with
  | nil => exact List.Sublist.slnil
  | cons event events ih =>
    obtain ⟨moment, event⟩ := event
    have split : ((moment, event) :: events).filterMap (·.2.incoming?) =
        event.incoming?.toList ++ events.filterMap (·.2.incoming?) := by
      cases event <;> rfl
    rw [split]
    refine List.Sublist.append ?_ (ih _)
    split
    case isTrue => exact List.Sublist.refl _
    case isFalse => exact List.nil_sublist _

/-- What is handled was there to be read. -/
theorem exists_received {consumer now : Consumer σ} {events : List (Moment × Event)}
    {past : List Effect} (reached : consumer.run events = (now, past)) {incoming : Incoming}
    (handled : .handled incoming ∈ past) : ∃ moment, (moment, .received incoming) ∈ events := by
  have read := mem_handled.mpr handled
  obtain rfl : (consumer.run events).2 = past := congrArg Prod.snd reached
  rw [handled_run] at read
  obtain ⟨⟨moment, event⟩, member, same⟩ :=
    List.mem_filterMap.mp ((consumer.arrivals_sublist events).subset read)
  refine ⟨moment, ?_⟩
  cases event with
  | received other =>
    obtain rfl := Option.some.inj same
    exact member
  | _ => exact nomatch same

end Reading

/-- One of the tasks is writing the frame. -/
def IsWriting {σ : Type} (consumer : Consumer σ) (frame : Frame) : Prop :=
  consumer.acknack = .writing frame ∨ consumer.reader = .answering frame ∨
    consumer.farewell = some frame

/-- Frames that are being written are of the types that their tasks write, and have the bytes of
their parts. -/
structure WritesInKind {σ : Type} (consumer : Consumer σ) : Prop where
  built : consumer.endpoint.IsBuilt
  encoded : ∀ frame, consumer.IsWriting frame → frame.IsEncoded
  acknack : ∀ frame, consumer.acknack = .writing frame → frame.body.type = .acknack
  answer : ∀ frame, consumer.reader = .answering frame → frame.body.type = .optionResponse
  farewell : ∀ frame, consumer.farewell = some frame → frame.body = .alert farewellMessage

variable {σ : Type} [GapStore σ] {consumer next : Consumer σ} {moment : Moment} {event : Event}
  {effects : List Effect}

theorem Moves.isBuilt (move : consumer.Moves moment event next effects)
    (built : consumer.endpoint.IsBuilt) : next.endpoint.IsBuilt := by
  cases move
  case peerAcknack acknowledgement _ _ => exact built.adoptFrameset acknowledgement.frameset
  all_goals exact built

theorem Moves.answering_cases (move : consumer.Moves moment event next effects) {frame : Frame}
    (answering : next.reader = .answering frame) :
    consumer.reader = .answering frame ∨
      ∃ setting, consumer.endpoint.optionResponse setting = .ok frame := by
  cases move
  case optionRequest made =>
    obtain rfl := ReaderTask.answering.inj answering
    exact .inr ⟨_, made⟩
  all_goals simp_all

theorem WritesInKind.move (h : consumer.WritesInKind)
    (move : consumer.Moves moment event next effects) : next.WritesInKind := by
  constructor
  case built => exact move.isBuilt h.built
  case encoded =>
    rintro frame (writing | answering | leaving)
    · rcases move.writing_cases writing with before | made
      · exact h.encoded frame (.inl before)
      · exact Endpoint.isEncoded_of_frame made
    · rcases move.answering_cases answering with before | ⟨setting, made⟩
      · exact h.encoded frame (.inr (.inl before))
      · exact Endpoint.isEncoded_of_optionResponse made
    · rcases move.farewell_cases leaving with before | made
      · exact h.encoded frame (.inr (.inr before))
      · exact Endpoint.isEncoded_of_alert made
  case acknack =>
    intro frame writing
    rcases move.writing_cases writing with before | made
    · exact h.acknack frame before
    · rw [Endpoint.body_of_acknackOf made]
      rfl
  case answer =>
    intro frame answering
    rcases move.answering_cases answering with before | ⟨setting, made⟩
    · exact h.answer frame before
    · rw [Endpoint.body_of_optionResponse made]
      rfl
  case farewell =>
    intro frame leaving
    rcases move.farewell_cases leaving with before | made
    · exact h.farewell frame before
    · exact Endpoint.body_of_alert made

omit [GapStore σ] in
/-- No task is writing. -/
theorem WritesInKind.start (built : consumer.endpoint.IsBuilt)
    (acknack : ∀ frame, consumer.acknack ≠ .writing frame)
    (reader : ∀ frame, consumer.reader ≠ .answering frame) (farewell : consumer.farewell = none) :
    consumer.WritesInKind where
  built := built
  encoded := by
    rintro frame (writing | answering | leaving)
    · exact absurd writing (acknack frame)
    · exact absurd answering (reader frame)
    · exact nomatch farewell.symm.trans leaving
  acknack := fun frame writing => absurd writing (acknack frame)
  answer := fun frame answering => absurd answering (reader frame)
  farewell := fun _ leaving => nomatch farewell.symm.trans leaving

theorem writesInKind_of_bind {config : ConsumerConfig} {store : σ} {consumer : Consumer σ}
    (bound : bind config store = .ok consumer) : consumer.WritesInKind := by
  obtain ⟨-, endpoint, made, rfl⟩ := bind_eq_ok.mp bound
  exact .start (.ofSettings made) (fun _ writing => nomatch writing)
    (fun _ answering => nomatch answering) rfl

theorem WritesInKind.run (h : consumer.WritesInKind) (events : List (Moment × Event)) :
    (consumer.run events).1.WritesInKind :=
  @run_keeps σ _ consumer events (fun now _ => now.WritesInKind) h fun _ h move => h.move move

/-- The types of the frames that are written. An ALERT comes last. -/
theorem WritesInKind.wrote_cases (h : consumer.WritesInKind)
    (move : consumer.Moves moment event next effects) {frame : Frame} {written : Bool}
    (wrote : .wrote frame written ∈ effects) :
    consumer.acknack = .writing frame ∧ frame.body.type = .acknack ∨
      consumer.reader = .answering frame ∧ frame.body.type = .optionResponse ∨
      consumer.farewell = some frame ∧ frame.body = .alert farewellMessage := by
  rcases move.wrote_cases wrote with writing | answering | leaving
  · exact .inl ⟨writing, h.acknack frame writing⟩
  · exact .inr (.inl ⟨answering, h.answer frame answering⟩)
  · exact .inr (.inr ⟨leaving, h.farewell frame leaving⟩)

/-- What has been written in a run are the bytes of frames. -/
theorem WritesInKind.encoded_of_run (h : consumer.WritesInKind) (events : List (Moment × Event))
    {frame : Frame} {written : Bool} (wrote : .wrote frame written ∈ (consumer.run events).2) :
    frame.IsEncoded := by
  refine (@run_keeps σ _ consumer events
    (fun now past => now.WritesInKind ∧ ∀ frame written, .wrote frame written ∈ past →
      frame.IsEncoded) ⟨h, nofun⟩ ?_).2 frame written wrote
  intro front moment event back next effects _ ⟨writes, past⟩ move
  refine ⟨writes.move move, fun frame written wrote => ?_⟩
  rcases List.mem_append.mp wrote with before | now
  · exact past frame written before
  · exact writes.encoded frame (move.wrote_cases now)

end Consumer

end ContinuousData
