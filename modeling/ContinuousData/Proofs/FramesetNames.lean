import ContinuousData.Proofs.Redirections
import ContinuousData.Proofs.TrueAcknowledgements

/-! The names that peers give their frame sets. A consumer takes a name over from any ACKNACK frame
that it reads, for the acknowledgements that it sends, and texts can grow while they are decoded. A
name that is too long for the field is turned down and the last one that was not stays, so that no
name keeps the consumer from acknowledging. -/
namespace ContinuousData

namespace Endpoint

/-- The endpoint when all these names have been offered to it, one after the other. -/
def offered (endpoint : Endpoint) (names : List String) : Endpoint :=
  names.foldl adoptFrameset endpoint

/-- The name fits into its field. -/
def IsFramesetName (name : String) : Prop :=
  Text.size name ≤ Acknowledgement.framesetWidth

instance (name : String) : Decidable (IsFramesetName name) :=
  Nat.decLe _ _

variable {endpoint : Endpoint}

theorem adoptFrameset_eq (endpoint : Endpoint) (name : String) :
    endpoint.adoptFrameset name =
      if IsFramesetName name then { endpoint with frameset := name } else endpoint := by
  unfold adoptFrameset
  cases taken : endpoint.setFrameset name with
  | ok changed =>
    obtain ⟨fits, rfl⟩ := setFrameset_eq_ok.mp taken
    exact (if_pos (show IsFramesetName name from fits)).symm
  | error reason =>
    refine (if_neg fun fits => ?_).symm
    rw [setFrameset_eq_ok.mpr ⟨fits, rfl⟩] at taken
    contradiction

theorem offered_append (endpoint : Endpoint) (names others : List String) :
    endpoint.offered (names ++ others) = (endpoint.offered names).offered others :=
  List.foldl_append

/-- Of all the names, the last one that fits is kept, and nothing else changes. -/
theorem offered_eq (endpoint : Endpoint) (names : List String) :
    endpoint.offered names =
      { endpoint with
        frameset := (names.filter IsFramesetName).getLast?.getD endpoint.frameset } := by
  induction names using List.reverseRecOn with
  | nil => rfl
  | append_singleton names name ih =>
    rw [offered_append, ih]
    change adoptFrameset _ name = _
    rw [adoptFrameset_eq, List.filter_append]
    split_ifs with fits
    · rw [List.filter_singleton, decide_eq_true fits]
      simp
    · rw [List.filter_singleton, decide_eq_false fits]
      simp

theorem IsBuilt.offered (built : endpoint.IsBuilt) (names : List String) :
    (endpoint.offered names).IsBuilt := by
  induction names generalizing endpoint with
  | nil => exact built
  | cons name names ih => exact ih (built.adoptFrameset name)

/-- The gaps of an acknowledgement leave it short enough for the length fields of a frame. -/
def CanCarry (gaps : List (UInt64 × UInt64)) : Prop :=
  Header.width + 40 + 16 * gaps.length ≤ Encoder.maxLength

instance (gaps : List (UInt64 × UInt64)) : Decidable (CanCarry gaps) :=
  Nat.decLe _ _

/-- The endpoint can name its frame set, acknowledge whatever has been received, and introduce
itself. -/
structure CanSpeak (endpoint : Endpoint) : Prop where
  name : IsFramesetName endpoint.frameset
  acknowledges : ∀ tracker : Tracker,
    (∃ ack, endpoint.acknackOf tracker = .ok ack) ↔ CanCarry tracker.snapshot.gaps
  requests : ∀ ip port secondary,
    ∃ frame, endpoint.connectionRequest ip port secondary = .ok frame
  responds : ∀ ip port secondary,
    ∃ frame, endpoint.connectionResponse ip port secondary = .ok frame

theorem IsBuilt.canSpeak (built : endpoint.IsBuilt) : endpoint.CanSpeak where
  name := built.fits.frameset
  acknowledges := fun _ => built.exists_acknack_iff built.fits.frameset _ _ _
  requests := built.exists_handshake fun _ => rfl
  responds := built.exists_handshake fun _ => rfl

end Endpoint

/-- The name that an ACKNACK gives a frame set. -/
def Body.nameGiven? : Body → Option String
  | acknack acknowledgement => some acknowledgement.frameset
  | _ => none

namespace Consumer

/-- The name that the peer has been read to give its frame set. -/
def Effect.nameGiven? : Effect → Option String
  | handled (.frame frame) => frame.body.nameGiven?
  | _ => none

variable {σ : Type} [GapStore σ] {consumer next : Consumer σ} {moment : Moment} {event : Event}
  {effects : List Effect}

omit [GapStore σ] in
theorem IsPassedOver.nameGiven?_eq_none {frame : Frame} (passed : consumer.IsPassedOver frame) :
    frame.body.nameGiven? = none := by
  unfold IsPassedOver at passed
  cases body : frame.body with
  | acknack => exact (body ▸ passed).elim
  | _ => rfl

/-- A step offers the endpoint the names that are read in it. -/
theorem Moves.endpoint_eq (move : consumer.Moves moment event next effects) :
    next.endpoint = consumer.endpoint.offered (effects.filterMap Effect.nameGiven?) := by
  have persist := @filterMap_persist σ _ _ Effect.nameGiven? (fun _ _ => rfl) consumer
  cases move
  case passedOver passed =>
    simp [Effect.nameGiven?, passed.nameGiven?_eq_none, Endpoint.offered]
  all_goals
    simp [List.filterMap_cons, Effect.nameGiven?, Body.nameGiven?, Endpoint.offered, *]

/-- All that peers can do to the endpoint of a consumer is to offer it names. -/
theorem endpoint_run (consumer : Consumer σ) (events : List (Moment × Event)) :
    (consumer.run events).1.endpoint =
      consumer.endpoint.offered ((consumer.run events).2.filterMap Effect.nameGiven?) := by
  refine @run_keeps σ _ consumer events
    (fun now past => now.endpoint = consumer.endpoint.offered (past.filterMap Effect.nameGiven?))
    rfl fun _ known move => ?_
  rw [move.endpoint_eq, known, ← Endpoint.offered_append, List.filterMap_append]

/-- When an acknowledgement is due, there is one to write. -/
theorem exists_writing (built : consumer.endpoint.IsBuilt) (waiting : consumer.acknack = .waiting)
    (carries : Endpoint.CanCarry consumer.tracker.snapshot.gaps) (moment : Moment) :
    ∃ ack, (consumer.step moment .acknackDue).1.acknack = .writing ack := by
  obtain ⟨ack, made⟩ := (built.canSpeak.acknowledges consumer.tracker).mpr carries
  refine ⟨ack, ?_⟩
  simp only [step, stepAcknack, waiting, acknowledge, made]

/-- Whatever names are offered to an endpoint, it keeps the last one that fits and can speak. So the
consumer has an acknowledgement to write whenever one is due, unless it has too many gaps to report:
its endpoint is as the names leave it that it has read. -/
theorem canSpeak_offered {settings : EndpointSettings} {endpoint : Endpoint}
    (made : Endpoint.ofSettings settings = .ok endpoint) (names : List String) :
    (endpoint.offered names = { endpoint with
        frameset := (names.filter Endpoint.IsFramesetName).getLast?.getD endpoint.frameset } ∧
      ∀ name, (∃ changed, (endpoint.offered names).setFrameset name = .ok changed) ↔
        Endpoint.IsFramesetName name) ∧
    (endpoint.offered names).CanSpeak ∧
    ∀ (σ : Type) [GapStore σ] (config : ConsumerConfig) (store : σ) (started : Consumer σ),
      config.endpoint = settings → bind config store = .ok started →
      ∀ events now past, started.run events = (now, past) →
        now.endpoint = endpoint.offered (past.filterMap Effect.nameGiven?) ∧
          (now.acknack = .waiting → Endpoint.CanCarry now.tracker.snapshot.gaps →
            ∀ moment, ∃ ack, (now.step moment .acknackDue).1.acknack = .writing ack) := by
  have built := Endpoint.IsBuilt.ofSettings made
  refine ⟨⟨endpoint.offered_eq names, fun name => ?_⟩, (built.offered names).canSpeak, ?_⟩
  · simp only [Endpoint.setFrameset_eq_ok, exists_and_left, exists_eq', and_true]
    rfl
  · intro σ _ config store started same bound events now past ran
    have named := endpoint_run started events
    obtain ⟨-, other, made', rfl⟩ := bind_eq_ok.mp bound
    rw [same] at made'
    obtain rfl := Except.ok.inj (made.symm.trans made')
    rw [ran] at named
    have builtStill := built.offered (past.filterMap Effect.nameGiven?)
    rw [← named] at builtStill
    exact ⟨named, exists_writing builtStill⟩

/-- An ACKNACK that gives the frame set this name. -/
def naming (name : String) : Frame where
  header := ⟨.acknack, 76, "STA", "0", 0, 0⟩
  body := .acknack ⟨name, 0, 0, []⟩
  trailer := ⟨0, [], 0⟩
  raw := []

/-- Twenty bytes that are not UTF-8 are decoded to a text of sixty. -/
theorem canSpeak_offered_expanded :
    ∃ expanded now past, expanded = Text.strip (List.replicate 20 0xFF) ∧
      Text.size expanded = 60 ∧
      fresh.run (atOnce [.accepted, .received (.frame (naming "STA:0")), .compared,
        .received (.frame (naming expanded))]) = (now, past) ∧
      now.endpoint = { Endpoint.standard with frameset := "STA:0" } ∧
      (Endpoint.standard.offered ["STA:0", expanded]).CanSpeak ∧
      ∃ ack, (now.step ⟨0, 0⟩ .acknackDue).1.acknack = .writing ack := by
  obtain ⟨⟨kept, -⟩, speaks, runs⟩ :=
    @canSpeak_offered {} Endpoint.standard rfl ["STA:0", Text.strip (List.replicate 20 0xFF)]
  obtain ⟨named, acknowledges⟩ :=
    runs MemoryStore { station := "STA" } .empty fresh rfl bind_fresh _ _ _ (Eq.refl (fresh.run
      (atOnce [.accepted, .received (.frame (naming "STA:0")), .compared,
        .received (.frame (naming (Text.strip (List.replicate 20 0xFF))))])))
  exact ⟨_, _, _, rfl, by decide, rfl, named.trans (kept.trans (by decide)), speaks,
    acknowledges rfl (by decide) _⟩

end Consumer

end ContinuousData
