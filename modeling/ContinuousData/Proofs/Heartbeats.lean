import ContinuousData.Proofs.ConsumerFrames
import ContinuousData.Proofs.FrameBoundaries
import ContinuousData.Proofs.GapInvariant
import ContinuousData.Provider.Run

/-! What the heartbeat of a data provider does to the gap state of the consumer at the other end. A
heartbeat reports the numbers sent on its connection, and zeros as long as there are none. The
consumer takes a highest number below all that it tracks for a sign that the numbering has started
anew. -/
namespace ContinuousData

/-- A connection. What the provider writes arrives as a whole and in order, since frames come out of
the stream as they have been put in; what the provider gets to read is left open. -/
structure Link (σ : Type) where
  provider : Provider
  consumer : Consumer σ
  /-- Frames that have been written and not yet read. -/
  transit : List Frame

namespace Link

inductive Event where
  | provider (event : Provider.Event)
  | consumer (event : Consumer.Event)
  /-- The consumer reads the next frame. -/
  | arrived

inductive Effect where
  | provider (effect : Provider.Effect)
  | consumer (effect : Consumer.Effect)

/-- The frames that are put on the stream. -/
def written (effects : List Provider.Effect) : List Frame :=
  effects.filterMap fun
    | .wrote frame true => some frame
    | _ => none

variable {σ : Type} [GapStore σ]

def step (link : Link σ) (moment : Moment) : Event → Link σ × List Effect
  | .provider event =>
    let (provider, effects) := link.provider.step moment event
    ({ link with provider, transit := link.transit ++ written effects }, effects.map .provider)
  | .consumer event =>
    let (consumer, effects) := link.consumer.step moment event
    ({ link with consumer }, effects.map .consumer)
  | .arrived =>
    match link.consumer.reader, link.transit with
    | .waiting, frame :: others =>
      let (consumer, effects) :=
        link.consumer.step moment (.received (.ofPiece (.frame frame.raw)))
      ({ link with consumer, transit := others }, effects.map .consumer)
    | _, _ => (link, [])

/-- Events one after the other, each with the moment at which it happens. -/
def run (link : Link σ) (events : List (Moment × Event)) : Link σ × List Effect :=
  Machine.run (fun link (moment, event) => link.step moment event) link events

end Link

/-- What its user may ask of a provider: DATA frames have numbers from `low` on, as have the other
frames whose numbers count, and acknowledgements and resets are not the user's business. -/
def Provider.Call.IsOrderly (low : UInt64) : Provider.Call → Prop
  | .sendData frame => frame.IsObtained ∧ (frame.type = .data → low ≤ frame.sequence)
  | .sendFrame frame =>
    frame.IsObtained ∧
      match frame.type with
      | .data | .commandResponse => low ≤ frame.sequence
      | .acknack | .customReset => False
      | _ => True
  | .request _ _ | .close _ => True

namespace Link

/-- The user of the provider is orderly, and does not let it forget what was sent. What the consumer
receives has arrived over the link. -/
def Event.IsOrderly (low : UInt64) : Event → Prop
  | .provider (.called call) => call.IsOrderly low
  | .provider .forgotten => False
  | .consumer (.received _) => False
  | _ => True

variable {σ : Type} [GapStore σ]

/-- A provider that has just connected, to a consumer that tracks numbers from `low` on. -/
structure Starts (link : Link σ) (low : UInt64) : Prop where
  connected : ∃ config uptime effects,
    Provider.start config uptime = .ok (link.provider, effects) ∧ link.transit = written effects
  reading : link.consumer.reader = .waiting
  tracking : ∃ list, link.consumer.tracker = some list ∧ list.min = low

/-- In the course of the events, the consumer compares what it tracks with an acknowledgement that
reports `highest`. -/
def Compares (link : Link σ) (events : List (Moment × Event)) (highest : UInt64) : Prop :=
  ∃ front moment back, events = front ++ (moment, .consumer .compared) :: back ∧
    (link.run front).1.consumer.reader = .comparing highest

/-- A comparison leaves nothing of what was tracked. -/
def Discards (link : Link σ) (events : List (Moment × Event)) : Prop :=
  ∃ front moment back, events = front ++ (moment, .consumer .compared) :: back ∧
    (link.run front).1.consumer.tracker ≠ .empty ∧
    (link.run (front ++ [(moment, .consumer .compared)])).1.consumer.tracker = .empty

end Link

section Benign

variable (low : UInt64) (early : Prop)

/-- What heartbeats report as the highest number: one from `low` on, or zero where they come
`early`, that is, before anything was sent. -/
def IsReportable (highest : UInt64) : Prop :=
  low ≤ highest ∨ early ∧ highest = 0

/-- A frame that does no harm to a gap state from `low` on. -/
def Frame.IsBenign (frame : Frame) : Prop :=
  match frame.body with
  | .data _ | .commandResponse _ => low ≤ frame.sequence
  | .acknack acknowledgement => IsReportable low early acknowledgement.highest
  | .customReset _ => False
  | _ => True

/-- Whatever is parsed from its bytes does none. -/
def Frame.ArrivesBenign (frame : Frame) : Prop :=
  ∀ whole, (Frame.parse frame.raw).1 = .ok whole → whole.IsBenign low early

/-- The reader is not about to do any either. -/
def ReaderTask.IsBenign : ReaderTask → Prop
  | .comparing highest => IsReportable low early highest
  | .resetting => False
  | _ => True

namespace Provider

/-- An action that sends nothing but what may arrive, of a provider that has sent what is in
`sent`. -/
def Action.IsBenign (sent : Tracker) : Action → Prop
  | .record n => low ≤ n
  | .write frame => frame.ArrivesBenign low early
  | .readLowest | .readHighest _ => early ∨ sent ≠ .empty
  | .acknowledge _ highest => IsReportable low early highest
  | _ => True

def Task.IsBenign (sent : Tracker) (task : Task) : Prop :=
  ∀ action ∈ task.todo, action.IsBenign low early sent

/-- Numbers from `low` on count as sent. -/
def SendsFrom (provider : Provider) : Prop :=
  ∀ list, provider.sent = some list → low ≤ list.max

structure IsBenign (provider : Provider) : Prop where
  sends : provider.SendsFrom low
  tasks : ∀ task ∈ provider.tasks, task.IsBenign low early provider.sent
  heartbeat : provider.heartbeat.IsBenign low early provider.sent

/-- What an action leads to, apart from the task that it belongs to. -/
structure Continues (provider next : Provider) (effects : List Effect) : Prop where
  sends : next.SendsFrom low
  grown : provider.sent ≠ .empty → next.sent ≠ .empty
  tasks : next.tasks = provider.tasks
  heartbeat : next.heartbeat = provider.heartbeat
  written : ∀ frame ∈ Link.written effects, frame.ArrivesBenign low early

end Provider

variable {σ : Type}

/-- What is tracked starts at `low` and stays. -/
structure Consumer.IsBenign (consumer : Consumer σ) : Prop where
  tracking : ∃ list, consumer.tracker = some list ∧ list.min = low
  reader : consumer.reader.IsBenign low early

structure Link.IsBenign (link : Link σ) : Prop where
  provider : link.provider.IsBenign low early
  transit : ∀ frame ∈ link.transit, frame.ArrivesBenign low early
  consumer : link.consumer.IsBenign low early

end Benign

variable {low : UInt64} {early : Prop}

namespace Frame

/-- Frames of other types, and those with numbers from `low` on. -/
theorem IsObtained.arrivesBenign {frame : Frame} (obtained : frame.IsObtained)
    (h : match frame.type with
      | .data | .commandResponse => low ≤ frame.sequence
      | .acknack | .customReset => False
      | _ => True) : frame.ArrivesBenign low early := by
  intro whole parsed
  obtain ⟨type, sequence⟩ := obtained.numbers_of_parse parsed
  have announced := type_of_parse parsed
  rw [← type, ← announced, ← sequence] at h
  unfold IsBenign
  cases body : whole.body <;> rw [body] at h <;> first | exact h | trivial

theorem arrivesBenign_of_compose {creator destination : String} {sequence : UInt64}
    {series : Int32} {body : Body} {authKeyId : Int32} {authValue : Bytes} {frame : Frame}
    (made : compose creator destination sequence series body authKeyId authValue = .ok frame)
    (h : match body.type with
      | .data | .commandResponse | .acknack | .customReset => False
      | _ => True) : frame.ArrivesBenign low early := by
  refine (IsObtained.composed made).arrivesBenign ?_
  rw [(parts_of_compose made).1]
  cases body <;> first | exact h.elim | trivial

end Frame

theorem Endpoint.arrivesBenign_of_alert {endpoint : Endpoint} {message : String} {frame : Frame}
    (made : endpoint.alert message = .ok frame) : frame.ArrivesBenign low early := by
  obtain ⟨_, -, made⟩ := bind_eq_ok.mp made
  exact Frame.arrivesBenign_of_compose made trivial

theorem Endpoint.arrivesBenign_of_acknack {endpoint : Endpoint} {frameset : String}
    {lowest highest : UInt64} {gaps : List (UInt64 × UInt64)} {frame : Frame}
    (made : endpoint.acknack frameset lowest highest gaps = .ok frame)
    (h : IsReportable low early highest) : frame.ArrivesBenign low early := by
  intro whole parsed
  obtain ⟨_, _, back, body⟩ := exists_parse_acknack made
  obtain rfl := Except.ok.inj (back.symm.trans parsed)
  rw [Frame.IsBenign, body]
  exact h

namespace Provider

variable {provider : Provider}

/-- What is allowed once something was sent stays so. -/
theorem Action.IsBenign.mono {action : Action} {sent later : Tracker}
    (h : action.IsBenign low early sent) (grown : sent ≠ .empty → later ≠ .empty) :
    action.IsBenign low early later := by
  cases action with
  | readLowest => exact Or.imp_right grown h
  | readHighest lowest => exact Or.imp_right grown h
  | _ => exact h

theorem Task.IsBenign.mono {task : Task} {sent later : Tracker} (h : task.IsBenign low early sent)
    (grown : sent ≠ .empty → later ≠ .empty) : task.IsBenign low early later :=
  fun action member => (h action member).mono grown

/-- What is not about the sent numbers leaves them as they are. -/
theorem SendsFrom.continues (sends : provider.SendsFrom low) {next : Provider}
    {effects : List Effect} (sent : next.sent = provider.sent)
    (tasks : next.tasks = provider.tasks) (heartbeat : next.heartbeat = provider.heartbeat)
    (written : ∀ frame ∈ Link.written effects, frame.ArrivesBenign low early) :
    provider.Continues low early next effects where
  sends := fun list h => sends list (sent ▸ h)
  grown := fun nonempty => sent ▸ nonempty
  tasks := tasks
  heartbeat := heartbeat
  written := written

theorem forall_mem_written {frame : Frame} (h : frame.ArrivesBenign low early) (success : Bool)
    {others : List Effect} (silent : Link.written others = []) :
    ∀ other ∈ Link.written (.wrote frame success :: others), other.ArrivesBenign low early := by
  unfold Link.written at silent ⊢
  cases success with
  | true => simpa [silent] using h
  | false => simp [silent]

section Actions

variable (moment : Moment) (id : Nat) (success : Bool)

theorem act_continues (sends : provider.SendsFrom low) {action : Action}
    (benign : action.IsBenign low early provider.sent) :
    provider.Continues low early (provider.act moment id success action).1
      (provider.act moment id success action).2.1 := by
  cases action with
  | record n =>
    refine ⟨?_, fun _ => ?_, rfl, rfl, List.forall_mem_nil _⟩
    · rintro list added
      change provider.sent.add n moment.wall = some list at added
      cases sent : provider.sent with
      | none =>
        rw [sent] at added
        obtain rfl := Option.some.inj added
        exact benign
      | some before =>
        rw [sent] at added
        obtain rfl := Option.some.inj added
        exact UInt64.le_trans (sends before sent) (before.max_le_max_add n moment.wall)
    · change provider.sent.add n moment.wall ≠ none
      cases provider.sent <;> exact Option.some_ne_none _
  | write frame => exact sends.continues rfl rfl rfl (forall_mem_written benign success rfl)
  | sayGoodbye message =>
    unfold act
    dsimp only
    cases made : provider.endpoint.alert message with
    | ok alert =>
      exact sends.continues rfl rfl rfl
        (forall_mem_written (Endpoint.arrivesBenign_of_alert made) success rfl)
    | error reason => exact sends.continues rfl rfl rfl (List.forall_mem_nil _)
  | acknowledge lowest highest =>
    unfold act
    dsimp only
    cases made : provider.endpoint.acknack heartbeatFrameset lowest highest [] with
    | ok frame =>
      refine sends.continues rfl rfl rfl
        (forall_mem_written (Endpoint.arrivesBenign_of_acknack made benign) success ?_)
      cases success <;> rfl
    | error reason => exact sends.continues rfl rfl rfl (List.forall_mem_nil _)
  | _ => exact sends.continues rfl rfl rfl (List.forall_mem_nil _)

theorem awaited_ne_next (task : Nat) (first : List Action) :
    provider.awaited task success ≠ .next first := by
  unfold awaited
  cases provider.responses.lookup task with
  | some response =>
    dsimp only
    split_ifs <;> exact nofun
  | none =>
    dsimp only
    split_ifs <;> exact nofun

/-- Only a heartbeat has more to do after an action: it reads first, and reports what it has
read. -/
theorem act_next (sends : provider.SendsFrom low) {action : Action}
    (benign : action.IsBenign low early provider.sent) {first : List Action}
    (next : (provider.act moment id success action).2.2 = .next first) :
    ∀ other ∈ first, other.IsBenign low early (provider.act moment id success action).1.sent := by
  have nothing {goal : Action → Prop} (empty : first = []) : ∀ other ∈ first, goal other :=
    empty ▸ List.forall_mem_nil _
  have done (next : Progress.next [] = .next first) : first = [] := (Progress.next.inj next).symm
  have checked {c : Prop} [Decidable c] {outcome : Outcome}
      (next : (if c then Progress.finish outcome else .next []) = .next first) : first = [] := by
    split_ifs at next
    exact done next
  cases action with
  | readLowest =>
    obtain rfl := Progress.next.inj next
    exact List.forall_mem_singleton.mpr benign
  | readHighest lowest =>
    obtain rfl := Progress.next.inj next
    refine List.forall_mem_singleton.mpr ?_
    change IsReportable low early (provider.sent.highest.getD 0)
    cases sent : provider.sent with
    | none => exact .inr ⟨benign.resolve_right (not_not.mpr sent), rfl⟩
    | some list => exact .inl (sends list sent)
  | check | leaveIfClosed => exact nothing (checked next)
  | await => exact absurd next (awaited_ne_next success id first)
  | write frame =>
    cases success with
    | true => exact nothing (done next)
    | false => exact Progress.noConfusion next
  | fail reason => exact Progress.noConfusion next
  | sayGoodbye message =>
    unfold act at next
    dsimp only at next
    split at next <;> exact nothing (done next)
  | acknowledge lowest highest =>
    unfold act at next
    dsimp only at next
    split at next <;> exact nothing (done next)
  | record n | expect | close => exact nothing (done next)

theorem resume_benign (sends : provider.SendsFrom low) {task : Task}
    (benign : task.IsBenign low early provider.sent) :
    provider.Continues low early (provider.resume moment id task success).1
        (provider.resume moment id task success).2.1 ∧
      (provider.resume moment id task success).2.2.IsBenign low early
        (provider.resume moment id task success).1.sent := by
  unfold resume
  split
  case h_1 => exact ⟨sends.continues rfl rfl rfl (List.forall_mem_nil _), benign⟩
  case h_2 action others todo =>
    rw [Task.IsBenign, todo] at benign
    obtain ⟨first, rest⟩ := List.forall_mem_cons.mp benign
    have continues := act_continues moment id success sends first
    have follows := @act_next low early provider moment id success sends action first
    split
    case h_1 next effects more acted =>
      rw [acted] at continues follows
      refine ⟨continues, fun other member => ?_⟩
      rcases List.mem_append.mp member with new | old
      · exact follows rfl other new
      · exact (rest other old).mono continues.grown
    case h_2 next effects outcome acted =>
      rw [acted] at continues
      exact ⟨continues, List.forall_mem_nil _⟩
    case h_3 next effects acted =>
      rw [acted] at continues
      refine ⟨continues, fun other member => ?_⟩
      exact (benign other (todo ▸ member)).mono continues.grown

end Actions

theorem closing_benign (message : String) (sent : Tracker) :
    Task.IsBenign low early sent { todo := closing message } :=
  List.forall_iff_forall_mem.mp ⟨trivial, trivial, trivial⟩

theorem taskFor_benign {call : Call} (orderly : call.IsOrderly low) :
    (provider.taskFor call).IsBenign low early provider.sent := by
  cases call with
  | sendData frame =>
    obtain ⟨obtained, numbered⟩ := orderly
    unfold taskFor
    dsimp only
    split_ifs with data
    · have arrives : frame.ArrivesBenign low early := by
        refine obtained.arrivesBenign ?_
        rw [data]
        exact numbered data
      exact List.forall_iff_forall_mem.mp ⟨numbered data, trivial, arrives⟩
    · exact List.forall_mem_nil _
  | sendFrame frame =>
    have arrives : frame.ArrivesBenign low early := orderly.1.arrivesBenign orderly.2
    exact List.forall_iff_forall_mem.mp ⟨trivial, arrives⟩
  | request ip port =>
    unfold taskFor
    dsimp only
    cases made : provider.endpoint.connectionRequest ip port none with
    | ok frame =>
      have arrives : frame.ArrivesBenign low early := Frame.arrivesBenign_of_compose made trivial
      exact List.forall_iff_forall_mem.mp ⟨trivial, trivial, arrives, trivial⟩
    | error reason => exact List.forall_iff_forall_mem.mp ⟨trivial, trivial⟩
  | close message => exact closing_benign message _

/-- Nothing that is received bears on what is sent. -/
theorem handle_keeps (provider : Provider) (moment : Moment) (incoming : Incoming) :
    (provider.handle moment incoming).1.sent = provider.sent ∧
      (provider.handle moment incoming).1.tasks = provider.tasks ∧
      (provider.handle moment incoming).1.heartbeat = provider.heartbeat ∧
      Link.written (provider.handle moment incoming).2 = [] := by
  unfold handle handleFrame
  split
  · split
    case h_3 => split <;> exact ⟨rfl, rfl, rfl, rfl⟩
    all_goals exact ⟨rfl, rfl, rfl, rfl⟩
  · exact ⟨rfl, rfl, rfl, rfl⟩

theorem IsBenign.after_step (benign : provider.IsBenign low early) (moment : Moment) {event : Event}
    (orderly : (Link.Event.provider event).IsOrderly low)
    (timely : event = .heartbeatDue → early ∨ provider.sent ≠ .empty) :
    (provider.step moment event).1.IsBenign low early ∧
      ∀ frame ∈ Link.written (provider.step moment event).2, frame.ArrivesBenign low early := by
  obtain ⟨sends, tasks, heartbeat⟩ := benign
  cases event with
  | called call =>
    refine ⟨⟨sends, fun task member => ?_, heartbeat⟩, List.forall_mem_nil _⟩
    rcases List.mem_append.mp member with old | new
    · exact tasks task old
    · exact List.mem_singleton.mp new ▸ taskFor_benign orderly
  | resumed id success =>
    unfold step
    dsimp only
    split
    case h_1 task found =>
      obtain ⟨continues, follows⟩ :=
        resume_benign moment id success sends (tasks task (List.mem_of_getElem? found))
      refine ⟨⟨continues.sends, fun other member => ?_, ?_⟩, continues.written⟩
      · rw [continues.tasks] at member
        rcases List.mem_or_eq_of_mem_set member with old | rfl
        · exact (tasks other old).mono continues.grown
        · exact follows
      · rw [continues.heartbeat]
        exact heartbeat.mono continues.grown
    case h_2 => exact ⟨⟨sends, tasks, heartbeat⟩, List.forall_mem_nil _⟩
  | heartbeatDue =>
    unfold step beat
    dsimp only
    split_ifs
    · refine ⟨⟨sends, tasks, ?_⟩, List.forall_mem_nil _⟩
      exact closing_benign timeoutMessage _
    · refine ⟨⟨sends, tasks, ?_⟩, List.forall_mem_nil _⟩
      exact List.forall_mem_singleton.mpr (timely rfl)
    · exact ⟨⟨sends, tasks, heartbeat⟩, List.forall_mem_nil _⟩
  | heartbeatResumed success =>
    obtain ⟨continues, follows⟩ :=
      resume_benign moment provider.tasks.length success sends heartbeat
    refine ⟨⟨continues.sends, fun other member => ?_, follows⟩, continues.written⟩
    exact (tasks other (continues.tasks ▸ member)).mono continues.grown
  | heartbeatEnded =>
    unfold step
    dsimp only
    split_ifs <;> exact ⟨⟨sends, tasks, heartbeat⟩, List.forall_mem_nil _⟩
  | received incoming =>
    unfold step
    dsimp only
    split_ifs
    · obtain ⟨sent, same, also, silent⟩ := provider.handle_keeps moment incoming
      refine ⟨⟨fun list h => sends list (sent ▸ h), fun task member => ?_, ?_⟩, ?_⟩
      · rw [sent]
        exact tasks task (same ▸ member)
      · rw [sent, also]
        exact heartbeat
      · rw [silent]
        exact List.forall_mem_nil _
    · exact ⟨⟨sends, tasks, heartbeat⟩, List.forall_mem_nil _⟩
  | readEnded =>
    unfold step
    dsimp only
    split_ifs <;> exact ⟨⟨sends, tasks, heartbeat⟩, List.forall_mem_nil _⟩
  | forgotten => exact orderly.elim

/-- A provider starts with nothing sent, but for a request that it may write at once. -/
theorem isBenign_of_start {config : ProviderConfig} {uptime : Duration} {effects : List Effect}
    (started : start config uptime = .ok (provider, effects)) :
    provider.IsBenign low early ∧
      ∀ frame ∈ Link.written effects, frame.ArrivesBenign low early := by
  unfold start at started
  obtain ⟨_, -, started⟩ := bind_eq_ok.mp started
  obtain ⟨endpoint, -, started⟩ := bind_eq_ok.mp started
  have fresh : IsBenign low early { config, endpoint, lastAcknack := uptime } :=
    ⟨nofun, List.forall_mem_nil _, List.forall_mem_nil _⟩
  dsimp only at started
  split_ifs at started
  · obtain ⟨request, made, started⟩ := bind_eq_ok.mp started
    obtain ⟨_, -, made⟩ := bind_eq_ok.mp made
    obtain ⟨rfl, rfl⟩ := Prod.mk.inj (Except.ok.inj started)
    exact ⟨fresh, forall_mem_written (Frame.arrivesBenign_of_compose made trivial) true rfl⟩
  · obtain ⟨rfl, rfl⟩ := Prod.mk.inj (Except.ok.inj started)
    exact ⟨fresh, List.forall_mem_nil _⟩

end Provider

namespace Consumer

variable {σ : Type} [GapStore σ] {consumer next : Consumer σ} {moment : Moment} {event : Event}
  {effects : List Effect}

omit [GapStore σ] in
theorem IsBenign.isOutdatedBy_eq (h : consumer.IsBenign low early) {highest : UInt64} :
    consumer.tracker.isOutdatedBy highest = decide (highest < low) := by
  obtain ⟨list, tracker, rfl⟩ := h.tracking
  rw [tracker]
  rfl

theorem IsBenign.move (h : consumer.IsBenign low early)
    (move : consumer.Moves moment event next effects)
    (received : ∀ frame, event = .received (.frame frame) → frame.IsBenign low early)
    (kept : ∀ highest, event = .compared → consumer.reader = .comparing highest →
      low ≤ highest) : next.IsBenign low early := by
  have recorded {n : UInt64} (small : low ≤ n) :
      ∃ list, consumer.tracker.add n moment.wall = some list ∧ list.min = low := by
    obtain ⟨list, tracker, rfl⟩ := h.tracking
    exact ⟨list.add n moment.wall, by rw [tracker]; rfl, GapList.min_add_of_le small _⟩
  cases move
  case data frame content waiting body =>
    have benign := received frame rfl
    rw [Frame.IsBenign, body] at benign
    exact ⟨recorded benign, trivial⟩
  case commandResponse frame response waiting body =>
    have benign := received frame rfl
    rw [Frame.IsBenign, body] at benign
    exact ⟨recorded benign, h.reader⟩
  case peerAcknack frame acknowledgement waiting body =>
    have benign := received frame rfl
    rw [Frame.IsBenign, body] at benign
    exact ⟨h.tracking, benign⟩
  case customReset frame payload waiting body enabled =>
    have benign := received frame rfl
    rw [Frame.IsBenign, body] at benign
    exact benign.elim
  case compared peerHighest comparing =>
    have current : ¬ consumer.tracker.isOutdatedBy peerHighest = true := by
      rw [h.isOutdatedBy_eq, decide_eq_true_eq]
      exact UInt64.not_lt.mpr (kept peerHighest rfl comparing)
    refine ⟨?_, trivial⟩
    change ∃ list, consumer.tracker.forgetIfOutdated peerHighest = some list ∧ list.min = low
    rw [Tracker.forgetIfOutdated, if_neg current]
    exact h.tracking
  case trackerReset resetting =>
    have benign := h.reader
    rw [resetting] at benign
    exact benign.elim
  case gapsExpired age waiting expires =>
    obtain ⟨list, tracker, lowest⟩ := h.tracking
    exact ⟨⟨_, congrArg (Tracker.expire · _) tracker, lowest⟩, h.reader⟩
  all_goals first
    | exact ⟨h.tracking, h.reader⟩
    | exact ⟨h.tracking, trivial⟩

theorem step_compared (consumer : Consumer σ) (moment : Moment) :
    (consumer.step moment .compared).1.tracker =
      match consumer.reader with
      | .comparing highest => consumer.tracker.forgetIfOutdated highest
      | _ => consumer.tracker := by
  change (consumer.stepReader moment .compared).1.tracker = _
  unfold stepReader
  cases consumer.reader <;> rfl

end Consumer

namespace Link

variable {σ : Type} [GapStore σ] {link : Link σ} {events : List (Moment × Event)}

theorem IsBenign.after_step (benign : link.IsBenign low early) (moment : Moment) {event : Event}
    (orderly : event.IsOrderly low)
    (timely : event = .provider .heartbeatDue → early ∨ link.provider.sent ≠ .empty)
    (kept : ∀ highest, event = .consumer .compared → link.consumer.reader = .comparing highest →
      low ≤ highest) : (link.step moment event).1.IsBenign low early := by
  obtain ⟨provider, transit, consumer⟩ := benign
  cases event with
  | provider event =>
    obtain ⟨benign, written⟩ :=
      provider.after_step moment orderly fun due => timely (congrArg Event.provider due)
    exact ⟨benign, fun frame member => (List.mem_append.mp member).elim (transit frame)
      (written frame), consumer⟩
  | consumer event =>
    refine ⟨provider, transit, consumer.move (link.consumer.moves_step moment event) ?_ ?_⟩
    · rintro frame rfl
      exact orderly.elim
    · rintro highest rfl
      exact kept highest rfl
  | arrived =>
    unfold step
    dsimp only
    split
    case h_1 frame others waiting first =>
      rw [first] at transit
      obtain ⟨arrives, rest⟩ := List.forall_mem_cons.mp transit
      refine ⟨provider, rest, consumer.move (link.consumer.moves_step moment _) ?_ nofun⟩
      intro whole received
      exact arrives whole (Incoming.parse_of_ofPiece (Consumer.Event.received.inj received))
    case h_2 => exact ⟨provider, transit, consumer⟩

omit [GapStore σ] in
theorem Starts.isBenign (starts : link.Starts low) : link.IsBenign low early := by
  obtain ⟨⟨config, uptime, effects, started, transit⟩, reading, tracking⟩ := starts
  obtain ⟨benign, written⟩ := Provider.isBenign_of_start started
  exact ⟨benign, transit ▸ written, tracking, by rw [reading]; trivial⟩

/-- Nothing changes for the worse unless a comparison discards the gap state. -/
theorem IsBenign.after_run (start : link.IsBenign low early)
    (orderly : ∀ event ∈ events, event.2.IsOrderly low)
    (timely : ∀ front moment back, events = front ++ (moment, .provider .heartbeatDue) :: back →
      early ∨ (link.run front).1.provider.sent ≠ .empty)
    (kept : ∀ front moment back highest,
      events = front ++ (moment, .consumer .compared) :: back →
      (link.run front).1.IsBenign low early →
      (link.run front).1.consumer.reader = .comparing highest → low ≤ highest)
    {front back : List (Moment × Event)} (split : events = front ++ back) :
    (link.run front).1.IsBenign low early := by
  refine @Machine.run_keeps _ _ _ _ _ _ (fun (link : Link σ) _ => link.IsBenign low early) start ?_
  rintro earlier ⟨moment, event⟩ later rfl benign
  have here : events = earlier ++ (moment, event) :: (later ++ back) := by
    rw [split, List.append_assoc, List.cons_append]
  refine benign.after_step moment (orderly (moment, event) ?_) ?_ ?_
  · rw [here]
    exact List.mem_append_right _ List.mem_cons_self
  · rintro rfl
    exact timely earlier moment _ here
  · rintro highest rfl
    exact kept earlier moment _ highest here benign

theorem run_append (link : Link σ) (front back : List (Moment × Event)) :
    (link.run (front ++ back)).1 = ((link.run front).1.run back).1 := by
  unfold run
  rw [Machine.run_append]

theorem run_concat (link : Link σ) (front : List (Moment × Event)) (moment : Moment)
    (event : Event) :
    (link.run (front ++ [(moment, event)])).1 = ((link.run front).1.step moment event).1 :=
  link.run_append front [(moment, event)]

/-- A comparison with a number below all that is tracked. -/
theorem discards_of_comparing {front back : List (Moment × Event)} {moment : Moment}
    {highest : UInt64} (split : events = front ++ (moment, .consumer .compared) :: back)
    (benign : (link.run front).1.IsBenign low early)
    (comparing : (link.run front).1.consumer.reader = .comparing highest)
    (below : highest < low) : link.Discards events := by
  refine ⟨front, moment, back, split, ?_, ?_⟩
  · obtain ⟨list, tracker, -⟩ := benign.consumer.tracking
    rw [tracker]
    exact Option.some_ne_none list
  · have outdated : (link.run front).1.consumer.tracker.isOutdatedBy highest = true := by
      rw [benign.consumer.isOutdatedBy_eq, decide_eq_true below]
    rw [run_concat]
    change ((link.run front).1.consumer.step moment .compared).1.tracker = .empty
    rw [Consumer.step_compared, comparing]
    exact if_pos outdated

/-- The gap state stays where each number that is compared lies within or above it. -/
theorem IsBenign.not_discards (start : link.IsBenign low early)
    (orderly : ∀ event ∈ events, event.2.IsOrderly low)
    (timely : ∀ front moment back, events = front ++ (moment, .provider .heartbeatDue) :: back →
      early ∨ (link.run front).1.provider.sent ≠ .empty)
    (kept : ∀ front moment back highest,
      events = front ++ (moment, .consumer .compared) :: back →
      (link.run front).1.IsBenign low early →
      (link.run front).1.consumer.reader = .comparing highest → low ≤ highest) :
    ¬ link.Discards events := by
  rintro ⟨front, moment, back, split, tracked, discarded⟩
  have benign := start.after_run orderly timely kept split
  rw [run_concat] at discarded
  change ((link.run front).1.consumer.step moment .compared).1.tracker = .empty at discarded
  rw [Consumer.step_compared] at discarded
  cases reader : (link.run front).1.consumer.reader with
  | comparing highest =>
    have current : ¬ (link.run front).1.consumer.tracker.isOutdatedBy highest = true := by
      rw [benign.consumer.isOutdatedBy_eq, decide_eq_true_eq]
      exact UInt64.not_lt.mpr (kept front moment back highest split benign reader)
    rw [reader] at discarded
    dsimp only at discarded
    rw [Tracker.forgetIfOutdated, if_neg current] at discarded
    exact tracked discarded
  | _ =>
    rw [reader] at discarded
    exact tracked discarded

/-- A heartbeat costs the consumer its gap state exactly when it reports a zero, as it does before
anything was sent, and the gap state starts above zero. One that is due only after something was
sent costs nothing. -/
theorem discards_iff (starts : link.Starts low)
    (orderly : ∀ event ∈ events, event.2.IsOrderly low) :
    (link.Discards events ↔ 0 < low ∧ link.Compares events 0) ∧
      ((∀ front moment back, events = front ++ (moment, .provider .heartbeatDue) :: back →
        (link.run front).1.provider.sent ≠ .empty) → ¬ link.Discards events) := by
  have reported {early : Prop} {front : List (Moment × Event)} {highest : UInt64}
      (benign : (link.run front).1.IsBenign low early)
      (comparing : (link.run front).1.consumer.reader = .comparing highest) :
      IsReportable low early highest := by
    have reader := benign.consumer.reader
    rwa [comparing] at reader
  refine ⟨⟨fun discards => ?_, fun ⟨positive, front, moment, back, split, comparing⟩ => ?_⟩,
    fun timely => ?_⟩
  · by_contra fine
    have start : link.IsBenign low True := starts.isBenign
    refine start.not_discards orderly (fun _ _ _ _ => .inl trivial) ?_ discards
    intro front moment back highest split benign comparing
    by_contra below
    obtain ⟨-, rfl⟩ := (reported benign comparing).resolve_left below
    exact fine ⟨UInt64.not_le.mp below, front, moment, back, split, comparing⟩
  · by_contra stays
    have kept : ∀ front moment back highest,
        events = front ++ (moment, .consumer .compared) :: back →
        (link.run front).1.IsBenign low True →
        (link.run front).1.consumer.reader = .comparing highest → low ≤ highest := by
      intro front moment back highest split benign comparing
      by_contra below
      exact stays (discards_of_comparing split benign comparing (UInt64.not_le.mp below))
    have benign := starts.isBenign.after_run orderly (fun _ _ _ _ => .inl trivial) kept split
    exact UInt64.not_le.mpr positive (kept front moment back 0 split benign comparing)
  · have start : link.IsBenign low False := starts.isBenign
    refine start.not_discards orderly
      (fun front moment back due => .inr (timely front moment back due)) ?_
    intro front moment back highest split benign comparing
    exact (reported benign comparing).resolve_right (fun zero => zero.1)

theorem step_arrived {link : Link σ} {frame whole : Frame} {others : List Frame}
    (waiting : link.consumer.reader = .waiting) (first : link.transit = frame :: others)
    (back : (Frame.parse frame.raw).1 = .ok whole) (moment : Moment) :
    (link.step moment .arrived).1 =
      { link with
        consumer := (link.consumer.step moment (.received (.frame whole))).1
        transit := others } := by
  have incoming : Incoming.ofPiece (.frame frame.raw) = .frame whole := by
    rw [Incoming.ofPiece, back]
  unfold step
  dsimp only
  rw [waiting, first]
  dsimp only
  rw [incoming]

theorem step_received_acknack {consumer : Consumer σ} {whole : Frame}
    {acknowledgement : Acknowledgement} (waiting : consumer.reader = .waiting)
    (body : whole.body = .acknack acknowledgement) (moment : Moment) :
    (consumer.step moment (.received (.frame whole))).1 =
      { consumer with
        lastContact := moment.uptime
        endpoint := consumer.endpoint.adoptFrameset acknowledgement.frameset
        reader := .comparing acknowledgement.highest } := by
  obtain ⟨_, _, _, _, _, _, _, _, _, _, _, _, _, _⟩ := consumer
  obtain ⟨header, _, trailer, raw⟩ := whole
  obtain rfl := waiting
  obtain rfl := body
  rfl

/-- A provider that has just connected, to a consumer that tracks the number 5. -/
def resuming : Link MemoryStore where
  provider :=
    { config := { station := "STA", sendOptionRequest := false }
      endpoint := { Endpoint.standard with responderName := "STA", responderType := "IMS" } }
  consumer := { Consumer.serving with tracker := some (.single 5) }
  transit := []

theorem starts_resuming : resuming.Starts 5 :=
  ⟨⟨{ station := "STA", sendOptionRequest := false }, 0, [], rfl, rfl⟩, rfl, .single 5, rfl, rfl⟩

/-- Events that happen all at once. -/
def atOnce (events : List Event) : List (Moment × Event) :=
  events.map (⟨0, 0⟩, ·)

/-- A heartbeat that is written. -/
def beat : List Event :=
  [.provider .heartbeatDue, .provider (.heartbeatResumed true), .provider (.heartbeatResumed true),
    .provider (.heartbeatResumed true)]

theorem isOrderly_beat : ∀ event ∈ beat, event.IsOrderly low := by
  unfold beat
  exact List.forall_iff_forall_mem.mp ⟨trivial, trivial, trivial, trivial⟩

theorem isOrderly_atOnce {events : List Event} (h : ∀ event ∈ events, event.IsOrderly low) :
    ∀ event ∈ atOnce events, event.2.IsOrderly low :=
  List.forall_mem_map.mpr h

/-- A heartbeat that comes before the first DATA frame. -/
theorem discards_resuming :
    resuming.Starts 5 ∧
      (∀ event ∈ atOnce (beat ++ [.arrived, .consumer .compared]), event.2.IsOrderly 5) ∧
      resuming.Discards (atOnce (beat ++ [.arrived, .consumer .compared])) := by
  obtain ⟨ack, made, beaten⟩ : ∃ ack,
      resuming.provider.endpoint.acknack Provider.heartbeatFrameset 0 0 [] = .ok ack ∧
        (resuming.run (atOnce beat)).1 = { resuming with transit := [ack] } := ⟨_, rfl, rfl⟩
  obtain ⟨whole, frameset, back, body⟩ := Endpoint.exists_parse_acknack made
  obtain ⟨front, hf⟩ : ∃ front, front = atOnce beat ++ [(⟨0, 0⟩, .arrived)] := ⟨_, rfl⟩
  have arrived : (resuming.run front).1.consumer =
      { resuming.consumer with
        endpoint := resuming.consumer.endpoint.adoptFrameset frameset
        reader := .comparing 0 } := by
    rw [hf, run_concat, beaten, step_arrived rfl rfl back]
    exact step_received_acknack rfl body ⟨0, 0⟩
  refine ⟨starts_resuming, isOrderly_atOnce (List.forall_mem_append.mpr ⟨isOrderly_beat, ?_⟩),
    front, ⟨0, 0⟩, [], by rw [hf]; rfl, ?_, ?_⟩
  · exact List.forall_iff_forall_mem.mp ⟨trivial, trivial⟩
  · rw [arrived]
    exact Option.some_ne_none _
  · rw [run_concat]
    change ((resuming.run front).1.consumer.step ⟨0, 0⟩ .compared).1.tracker = .empty
    rw [arrived]
    rfl

/-- A DATA frame that is sent. -/
def sending (frame : Frame) : List Event :=
  [.provider (.called (.sendData frame)), .provider (.resumed 0 true), .provider (.resumed 0 true),
    .provider (.resumed 0 true)]

theorem run_sending {frame : Frame} (type : frame.type = .data) (number : frame.sequence = 7) :
    (resuming.run (atOnce (sending frame))).1.provider.sent = some (.single 7) := by
  obtain ⟨⟨_, _, _, _, _, _⟩, body, trailer, raw⟩ := frame
  obtain rfl := type
  obtain rfl := number
  rfl

/-- A heartbeat that comes after the first DATA frame. -/
theorem discards_iff_after_data :
    ∃ frame, Endpoint.standard.data [Endpoint.silence 40] 7 = .ok frame ∧
      resuming.Starts 5 ∧
      (∀ event ∈ atOnce (sending frame ++ beat ++
        [.arrived, .consumer (.published none), .arrived, .consumer .compared]),
        event.2.IsOrderly 5) ∧
      ¬ resuming.Discards (atOnce (sending frame ++ beat ++
        [.arrived, .consumer (.published none), .arrived, .consumer .compared])) := by
  obtain ⟨frame, content, made, number, body, back⟩ := Endpoint.exists_silence 7
  have type : frame.type = .data := by
    rw [← Frame.type_of_parse back, body]
    rfl
  have orderly : ∀ event ∈ atOnce (sending frame ++ beat ++
      [.arrived, .consumer (.published none), .arrived, .consumer .compared]),
      event.2.IsOrderly 5 := by
    refine isOrderly_atOnce (List.forall_mem_append.mpr
      ⟨List.forall_mem_append.mpr ⟨?_, isOrderly_beat⟩, ?_⟩)
    · unfold sending
      refine List.forall_iff_forall_mem.mp ⟨⟨.parsed back, fun _ => ?_⟩, trivial, trivial, trivial⟩
      rw [number]
      decide
    · exact List.forall_iff_forall_mem.mp ⟨trivial, trivial, trivial, trivial⟩
  refine ⟨frame, made, starts_resuming, orderly, (discards_iff starts_resuming orderly).2 ?_⟩
  intro front moment rest split
  -- No other event of the run is a heartbeat that is due.
  have early : atOnce (sending frame) = front :=
    ((List.append_cons_inj_of_notMem (by simp [atOnce, sending]) (by simp)).mp split).1
  rw [← early, run_sending type number]
  exact Option.some_ne_none _

end Link

end ContinuousData
