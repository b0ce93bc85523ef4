import ContinuousData.Proofs.ConsumerFrames
import ContinuousData.Proofs.Handover

/-! Which numbers count as received: those of DATA and of COMMAND_RESPONSE frames, from the last
time that the tracker was empty. -/
namespace ContinuousData

/-- The reader is not about to empty the tracker. -/
def ReaderTask.Keeps (reader : ReaderTask) : Prop :=
  reader ≠ .resetting ∧ ∀ peerHighest, reader ≠ .comparing peerHighest

namespace Consumer

/-- The frame whose number was counted. -/
def Effect.counted? : Effect → Option Frame
  | handled (.frame frame) =>
    if frame.body.type = .data ∨ frame.body.type = .commandResponse then some frame else none
  | _ => none

def counted (effects : List Effect) : List Frame :=
  effects.filterMap Effect.counted?

theorem counted_append (past effects : List Effect) :
    counted (past ++ effects) = counted past ++ counted effects :=
  List.filterMap_append

theorem mem_counted {frame : Frame} {effects : List Effect} :
    frame ∈ counted effects ↔ .handled (.frame frame) ∈ effects ∧
      (frame.body.type = .data ∨ frame.body.type = .commandResponse) := by
  constructor
  · intro h
    obtain ⟨effect, member, same⟩ := List.mem_filterMap.mp h
    unfold Effect.counted? at same
    split at same
    case h_1 other =>
      obtain ⟨type, same⟩ := Option.ite_none_right_eq_some.mp same
      obtain rfl := Option.some.inj same
      exact ⟨member, type⟩
    case h_2 => exact nomatch same
  · rintro ⟨member, type⟩
    exact List.mem_filterMap.mpr ⟨_, member, if_pos type⟩

section Counts

variable {σ : Type} [GapStore σ] {consumer next : Consumer σ} {moment : Moment} {event : Event}
  {effects : List Effect}

/-- The numbers of the gaps that have not changed for so long that they are given up. -/
def overdue (consumer : Consumer σ) (moment : Moment) : Set UInt64 :=
  match consumer.config.gapExpiration with
  | some age => History.lost consumer.tracker (moment.wall - (age : Nat))
  | none => ∅

omit [GapStore σ] in
/-- Numbers that have been given up count as received. -/
theorem follows_expire {history : History} (follows : consumer.tracker.Follows history)
    (moment : Moment) :
    (consumer.expire moment).tracker.Follows (history.drop (consumer.overdue moment)) := by
  unfold expire overdue
  cases consumer.config.gapExpiration with
  | none =>
    dsimp only
    rwa [History.drop_empty]
  | some age =>
    obtain ⟨_, expired, later⟩ := follows.step (.expire (moment.wall - (age : Nat)))
    obtain rfl := Except.ok.inj expired
    exact later

omit [GapStore σ] in
theorem counted_of_isPassedOver {frame : Frame} (passed : consumer.IsPassedOver frame) :
    counted [.handled (.frame frame)] = [] := by
  have other : ¬ (frame.body.type = .data ∨ frame.body.type = .commandResponse) := by
    unfold IsPassedOver at passed
    cases body : frame.body <;> simp_all [Body.type]
  simp [counted, Effect.counted?, other]

/-- What a step does to the tracker, and which number it counts. -/
inductive Counts (consumer : Consumer σ) (moment : Moment) (event : Event) (next : Consumer σ)
    (effects : List Effect) : Prop where
  | counts (frame : Frame) (counted : counted effects = [frame])
      (added : next.tracker = consumer.tracker.add frame.sequence moment.wall)
  | keeps (none : counted effects = []) (same : next.tracker = consumer.tracker)
  | expires (none : counted effects = []) (due : event = .storeDue)
      (waiting : consumer.keeper = .waiting)
      (expired : next.tracker = (consumer.expire moment).tracker)
  | empties (none : counted effects = []) (emptying : ¬ consumer.reader.Keeps)
      (empty : next.tracker = .empty)

theorem Moves.counts (move : consumer.Moves moment event next effects) :
    consumer.Counts moment event next effects := by
  have persist : counted consumer.persist.2 = [] := filterMap_persist (fun _ _ => rfl) consumer
  cases move
  case data frame _ _ body =>
    exact .counts frame (by simp [counted, Effect.counted?, body, Body.type]) rfl
  case commandResponse frame _ _ body =>
    exact .counts frame (by simp [counted, Effect.counted?, body, Body.type]) rfl
  case peerAcknack body | optionRequest body _ | peerAlert body | customReset body _ =>
    exact .keeps (by simp [counted, Effect.counted?, body, Body.type]) rfl
  case passedOver passed => exact .keeps (counted_of_isPassedOver passed) rfl
  case gapsExpired waiting expires => exact .expires rfl rfl waiting (by rw [expire, expires])
  case compared peerHighest comparing =>
    by_cases outdated : consumer.tracker.isOutdatedBy peerHighest = true
    · exact .empties rfl (fun keeps => keeps.2 peerHighest comparing) (if_pos outdated)
    · exact .keeps rfl (if_neg outdated)
  case trackerReset resetting => exact .empties rfl (fun keeps => keeps.1 resetting) rfl
  case drained | stopped => exact .keeps persist rfl
  case closedSilently =>
    refine .keeps ?_ rfl
    rw [counted_append, persist]
    rfl
  all_goals exact .keeps rfl rfl

omit [GapStore σ] in
/-- Unless it is emptied, a tracker goes on from the number that is counted, or from those that are
given up. -/
theorem Counts.follows {history : History} (follows : consumer.tracker.Follows history)
    (counts : consumer.Counts moment event next effects) :
    next.tracker = .empty ∧ ¬ consumer.reader.Keeps ∨
      next.tracker.Follows (history.add (numbers (counted effects))) ∨
      event = .storeDue ∧ consumer.keeper = .waiting ∧
        next.tracker.Follows (history.drop (consumer.overdue moment)) := by
  cases counts with
  | counts frame counted added =>
    rw [counted, numbers_singleton, added]
    exact .inr (.inl (follows.add frame.sequence moment.wall))
  | keeps none same =>
    rw [none, numbers_nil, History.add_empty, same]
    exact .inr (.inl follows)
  | expires _ due waiting expired =>
    exact .inr (.inr ⟨due, waiting, expired ▸ follows_expire follows moment⟩)
  | empties _ emptying empty => exact .inl ⟨empty, emptying⟩

end Counts

/-- The first two DATA frames of a consumer. -/
theorem run_received_data {first second : Frame} {content other : DataFrame}
    (body : first.body = .data content) (body' : second.body = .data other) :
    fresh.run (atOnce [.accepted, .received (.frame first), .published none,
      .received (.frame second)]) =
      ({ serving with
         tracker := Tracker.add (some (.single first.sequence)) second.sequence 0
         reader := .publishing second },
        [.entered .connecting, .entered .connected, .handled (.frame first),
          .published first none, .handled (.frame second)]) := by
  obtain ⟨header, _, trailer, raw⟩ := second
  obtain rfl := body'
  exact run_append (run_received body) (atOnce [.published none, .received (.frame _)])

end Consumer

end ContinuousData
