import ContinuousData.Proofs.ConsumerMoves

/-! What a consumer takes no notice of. Of a frame it looks at the number and at the body only, and
of the time of the last contact it takes notice only when it looks for silence. -/
namespace ContinuousData

/-- A change to what comes in that keeps the numbers and the bodies of frames. -/
structure Disguise where
  frame : Frame → Frame
  broken : PartialFrame → PartialFrame
  sequence : ∀ whole, (frame whole).sequence = whole.sequence
  body : ∀ whole, (frame whole).body = whole.body

namespace Disguise

/-- Everything stays as it is. -/
def none : Disguise :=
  ⟨id, id, fun _ => rfl, fun _ => rfl⟩

variable (disguise : Disguise)

def incoming : Incoming → Incoming
  | .frame whole => .frame (disguise.frame whole)
  | .malformed broken => .malformed (disguise.broken broken)

def event : Consumer.Event → Consumer.Event
  | .received incoming => .received (disguise.incoming incoming)
  | event => event

def reader : ReaderTask → ReaderTask
  | .publishing frame => .publishing (disguise.frame frame)
  | reader => reader

/-- What is written is made by the consumer, and has nothing to do with what comes in. -/
def effect : Consumer.Effect → Consumer.Effect
  | .handled incoming => .handled (disguise.incoming incoming)
  | .published frame failure => .published (disguise.frame frame) failure
  | .unpublished frame => .unpublished (disguise.frame frame)
  | .reported broken => .reported (disguise.broken broken)
  | effect => effect

variable {disguise}

theorem incoming_none (incoming : Incoming) : none.incoming incoming = incoming := by
  cases incoming <;> rfl

theorem event_none (event : Consumer.Event) : none.event event = event := by
  cases event with
  | received incoming => exact congrArg _ (incoming_none incoming)
  | _ => rfl

theorem reader_none (reader : ReaderTask) : none.reader reader = reader := by
  cases reader <;> rfl

theorem effect_none (effect : Consumer.Effect) : none.effect effect = effect := by
  cases effect with
  | handled incoming => exact congrArg _ (incoming_none incoming)
  | _ => rfl

end Disguise

namespace Consumer

variable {σ : Type} [GapStore σ]

/-- The provider has been silent for too long. -/
def IsSilentAt (consumer : Consumer σ) (moment : Moment) : Prop :=
  consumer.config.expiryLimit < moment.uptime - consumer.lastContact

/-- The consumer that has read a frame in disguise, and that was last in contact at another time. -/
def disguised (consumer : Consumer σ) (disguise : Disguise) (lastContact : Duration) : Consumer σ :=
  { consumer with reader := disguise.reader consumer.reader, lastContact }

/-- What comes of a step, in disguise. -/
def disguisedOutcome (disguise : Disguise) (lastContact : Duration)
    (outcome : Consumer σ × List Effect) : Consumer σ × List Effect :=
  (outcome.1.disguised disguise lastContact, outcome.2.map disguise.effect)

variable (consumer : Consumer σ) (disguise : Disguise) (contact : Duration) (moment : Moment)

theorem handleFrame_disguised (frame : Frame) :
    (consumer.disguised disguise contact).handleFrame moment (disguise.frame frame) =
      disguisedOutcome disguise contact (consumer.handleFrame moment frame) := by
  unfold handleFrame
  rw [disguise.body, disguise.sequence]
  cases frame.body with
  | optionRequest setting =>
    dsimp only [disguised]
    cases consumer.endpoint.optionResponse setting <;> rfl
  | customReset payload =>
    obtain ⟨⟨_, _, _, _, _, _, _, _, _, _, resetEnabled⟩, _⟩ := consumer
    cases resetEnabled <;> rfl
  | _ => rfl

theorem receive_disguised (incoming : Incoming) :
    (consumer.disguised disguise contact).receive moment (disguise.incoming incoming) =
      disguisedOutcome disguise moment.uptime (consumer.receive moment incoming) := by
  cases incoming with
  | malformed broken => rfl
  | frame whole =>
    have same := { consumer with lastContact := moment.uptime }.handleFrame_disguised disguise
      moment.uptime moment whole
    unfold receive handle
    dsimp only [Disguise.incoming]
    rw [disguised] at same ⊢
    rw [same]
    rfl

theorem lastContact_receive (incoming : Incoming) :
    (consumer.receive moment incoming).1.lastContact = moment.uptime := by
  cases incoming with
  | malformed broken => rfl
  | frame whole =>
    unfold receive handle handleFrame
    dsimp only
    split
    all_goals try split
    all_goals rfl

theorem stepReader_disguised (event : Event) :
    ∃ later, (consumer.disguised disguise contact).stepReader moment (disguise.event event) =
      disguisedOutcome disguise later (consumer.stepReader moment event) ∧
      (contact = consumer.lastContact →
        later = (consumer.stepReader moment event).1.lastContact) := by
  obtain ⟨_, _, _, _, _, reader, _, _, _, cancelled, _, _, _, _⟩ := consumer
  cases reader with
  | waiting =>
    cases event with
    | received incoming =>
      refine ⟨moment.uptime, receive_disguised _ disguise contact moment incoming, fun _ => ?_⟩
      exact (lastContact_receive _ moment incoming).symm
    | _ => exact ⟨contact, rfl, id⟩
  | publishing frame =>
    cases event with
    | publicationAbandoned => cases cancelled <;> exact ⟨contact, rfl, id⟩
    | _ => exact ⟨contact, rfl, id⟩
  | answering response =>
    cases event with
    | answered written => cases written <;> exact ⟨contact, rfl, id⟩
    | _ => exact ⟨contact, rfl, id⟩
  | comparing peerHighest => cases event <;> exact ⟨contact, rfl, id⟩
  | resetting => cases event <;> exact ⟨contact, rfl, id⟩
  | finished => cases event <;> exact ⟨contact, rfl, id⟩

omit [GapStore σ] in
theorem acknowledge_disguised :
    (consumer.disguised disguise contact).acknowledge =
      consumer.acknowledge.disguised disguise contact := by
  unfold acknowledge
  dsimp only [disguised]
  cases consumer.endpoint.acknackOf consumer.tracker <;> rfl

omit [GapStore σ] in
theorem expire_disguised :
    (consumer.disguised disguise contact).expire moment =
      (consumer.expire moment).disguised disguise contact := by
  unfold expire
  dsimp only [disguised]
  cases consumer.config.gapExpiration <;> rfl

theorem persist_disguised :
    (consumer.disguised disguise contact).persist =
      disguisedOutcome disguise contact consumer.persist := by
  obtain ⟨_, _, tracker, _⟩ := consumer
  cases tracker <;> rfl

theorem finish_disguised :
    (consumer.disguised disguise contact).finish =
      disguisedOutcome disguise contact consumer.finish := by
  unfold finish
  rw [persist_disguised]
  dsimp only [disguised, disguisedOutcome]
  cases consumer.persist.1.endpoint.alert farewellMessage with
  | ok alert => rfl
  | error reason =>
    dsimp only
    rw [List.map_append]
    rfl

omit [GapStore σ] in
theorem stepAcknack_disguised (event : Event) :
    (consumer.disguised disguise contact).stepAcknack event =
      disguisedOutcome disguise contact (consumer.stepAcknack event) := by
  obtain ⟨_, _, _, _, _, _, acknack, _, _, cancelled, _, _, _, _⟩ := consumer
  cases acknack with
  | waiting =>
    cases event with
    | acknackDue => exact congrArg (·, []) (acknowledge_disguised _ disguise contact)
    | acknackEnded => cases cancelled <;> rfl
    | _ => rfl
  | writing frame =>
    cases event with
    | acknackWritten written => cases written <;> rfl
    | _ => rfl
  | finished => cases event <;> rfl

theorem stepKeeper_disguised (event : Event) :
    (consumer.disguised disguise contact).stepKeeper moment event =
      disguisedOutcome disguise contact (consumer.stepKeeper moment event) := by
  obtain ⟨config, _, tracker, _, _, _, _, _, keeper, cancelled, _, _, _, _⟩ := consumer
  cases keeper with
  | waiting =>
    cases event with
    | storeDue =>
      exact congrArg (fun expired : Consumer σ => ({ expired with keeper := .expired }, []))
        (expire_disguised _ disguise contact moment)
    | keepingEnded => cases cancelled <;> rfl
    | _ => rfl
  | expired =>
    cases event with
    | stateTaken => cases tracker <;> rfl
    | _ => rfl
  | holding state => cases event <;> rfl
  | finished => cases event <;> rfl

omit [GapStore σ] in
/-- Of the last contact it matters only whether the provider is found silent. -/
theorem stepWatch_disguised (event : Event)
    (agree : event = .contactDue → consumer.watching = true →
      ((consumer.disguised disguise contact).IsSilentAt moment ↔ consumer.IsSilentAt moment)) :
    (consumer.disguised disguise contact).stepWatch moment event =
      (consumer.stepWatch moment event).disguised disguise contact := by
  obtain ⟨config, _, _, _, _, _, _, watching, _, cancelled, lastContact, _, _, _⟩ := consumer
  cases watching with
  | false => rfl
  | true =>
    cases event with
    | contactDue =>
      have same : config.expiryLimit < moment.uptime - contact ↔
          config.expiryLimit < moment.uptime - lastContact := agree rfl rfl
      simp only [stepWatch, disguised, checkContact, if_true, same]
      split <;> rfl
    | watchEnded => cases cancelled <;> rfl
    | _ => rfl

/-- A provider is in contact when it is accepted and whenever something is read from it. -/
theorem lastContact_step {event : Event} (unaccepted : event ≠ .accepted)
    (unread : ∀ incoming, event ≠ .received incoming) :
    (consumer.step moment event).1.lastContact = consumer.lastContact := by
  have move := consumer.moves_step moment event
  generalize consumer.step moment event = stepped at move ⊢
  obtain ⟨next, effects⟩ := stepped
  cases move
  case accepted => exact absurd rfl unaccepted
  case data | peerAcknack | commandResponse | optionRequest | peerAlert | customReset | passedOver |
    malformed => exact absurd rfl (unread _)
  all_goals rfl

/-- A step takes no notice of a disguise, nor of when the last contact was. -/
theorem step_disguised (event : Event)
    (agree : event = .contactDue → consumer.watching = true →
      ((consumer.disguised disguise contact).IsSilentAt moment ↔ consumer.IsSilentAt moment)) :
    ∃ later, (consumer.disguised disguise contact).step moment (disguise.event event) =
      disguisedOutcome disguise later (consumer.step moment event) ∧
      (contact = consumer.lastContact → later = (consumer.step moment event).1.lastContact) := by
  have keeps (unaccepted : event ≠ .accepted) (unread : ∀ incoming, event ≠ .received incoming)
      (same : contact = consumer.lastContact) :
      contact = (consumer.step moment event).1.lastContact :=
    same.trans (consumer.lastContact_step moment unaccepted unread).symm
  cases event with
  | received _ | readEnded | published _ | publicationAbandoned | compared | answered _
  | trackerReset => exact stepReader_disguised consumer disguise contact moment _
  | acknackDue | acknackWritten _ | acknackEnded =>
    exact ⟨contact, stepAcknack_disguised consumer disguise contact _, keeps nofun fun _ => nofun⟩
  | contactDue | watchEnded =>
    have same := stepWatch_disguised consumer disguise contact moment _ agree
    exact ⟨contact, congrArg (·, []) same, keeps nofun fun _ => nofun⟩
  | storeDue | stateTaken | stateStored | keepingEnded =>
    exact ⟨contact, stepKeeper_disguised consumer disguise contact moment _,
      keeps nofun fun _ => nofun⟩
  | accepted =>
    change ∃ later, (consumer.disguised disguise contact).step moment .accepted = _ ∧ _
    by_cases possible : (consumer.isIdle && !consumer.stopping) = true
    · have first : consumer.step moment .accepted = consumer.accept moment := if_pos possible
      have second : (consumer.disguised disguise contact).step moment .accepted =
          (consumer.disguised disguise contact).accept moment := if_pos possible
      rw [first, second]
      exact ⟨moment.uptime, rfl, fun _ => rfl⟩
    · have first : consumer.step moment .accepted = (consumer, []) := if_neg possible
      have second : (consumer.disguised disguise contact).step moment .accepted =
          (consumer.disguised disguise contact, []) := if_neg possible
      rw [first, second]
      exact ⟨contact, rfl, id⟩
  | drained =>
    refine ⟨contact, ?_, keeps nofun fun _ => nofun⟩
    change (if consumer.isDrained then (consumer.disguised disguise contact).finish else
      disguisedOutcome disguise contact (consumer, [])) = _
    rw [finish_disguised, ← apply_ite (disguisedOutcome disguise contact)]
    rfl
  | farewellWritten written =>
    refine ⟨contact, ?_, keeps nofun fun _ => nofun⟩
    obtain ⟨_, _, _, _, _, _, _, _, _, _, _, farewell, _, _⟩ := consumer
    cases farewell <;> rfl
  | shutdown => exact ⟨contact, rfl, id⟩
  | stopped =>
    refine ⟨contact, ?_, keeps nofun fun _ => nofun⟩
    change (if consumer.isIdle && consumer.stopping && !consumer.stopped then
      ({ consumer with stopped := true }.disguised disguise contact).persist else
      disguisedOutcome disguise contact (consumer, [])) = _
    rw [persist_disguised, ← apply_ite (disguisedOutcome disguise contact)]
    rfl

/-- The consumer that has read a frame in disguise. -/
def inDisguise (consumer : Consumer σ) (disguise : Disguise) : Consumer σ :=
  consumer.disguised disguise consumer.lastContact

theorem step_inDisguise (event : Event) :
    (consumer.inDisguise disguise).step moment (disguise.event event) =
      ((consumer.step moment event).1.inDisguise disguise,
        (consumer.step moment event).2.map disguise.effect) := by
  obtain ⟨later, stepped, same⟩ :=
    consumer.step_disguised disguise consumer.lastContact moment event fun _ _ => Iff.rfl
  rw [same rfl] at stepped
  exact stepped

omit [GapStore σ] in
theorem waiting_inDisguise :
    (consumer.inDisguise disguise).reader = .waiting ↔ consumer.reader = .waiting := by
  unfold inDisguise disguised
  cases consumer.reader <;> simp [Disguise.reader]

omit [GapStore σ] in
theorem disguised_none :
    consumer.disguised .none contact = { consumer with lastContact := contact } := by
  rw [disguised, Disguise.reader_none]

theorem run_cons (event : Event) (events : List (Moment × Event)) :
    consumer.run ((moment, event) :: events) =
      (((consumer.step moment event).1.run events).1,
        (consumer.step moment event).2 ++ ((consumer.step moment event).1.run events).2) :=
  rfl

end Consumer

end ContinuousData
