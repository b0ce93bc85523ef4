import ContinuousData.Proofs.ProviderMoves

/-! Which call gets which response. A response does not tell what request it answers: it goes to the
call that has registered last, and nobody gets two. It is the response to that call's own request
only if no other request was waiting for one when it went out. -/
namespace ContinuousData

/-- A CONNECTION_RESPONSE that has been received. Calls are known by their positions. -/
structure Answer where
  /-- The call whose request is answered. -/
  asker : Nat
  /-- The call that gets the response, if any does. -/
  taker : Option Nat
  response : Handshake
  deriving DecidableEq, Repr

/-- A provider with a peer that answers each request once, in the order in which they arrive, and
sends no other responses. -/
structure Dialogue where
  provider : Provider
  /-- Calls whose requests have arrived and are not yet answered, the first one first. -/
  unanswered : List Nat := []
  /-- Calls that were registered when their requests went out, with no other one unanswered. -/
  alone : List Nat := []
  /-- The latest one first. -/
  answers : List Answer := []
  deriving Repr

namespace Dialogue

/-- The response that is received. -/
def response? : Provider.Event → Option Handshake
  | .received (.frame frame) =>
    match frame.body with
    | .connectionResponse response => some response
    | _ => none
  | _ => none

/-- The call whose request an event puts on the stream. -/
def asker? (event : Provider.Event) (effects : List Provider.Effect) : Option Nat :=
  match event with
  | .resumed id _ =>
    if (Link.written effects).any (·.type = .connectionRequest) then some id else none
  | _ => none

/-- Takes a request of a call to the peer. -/
def ask (dialogue : Dialogue) : Option Nat → Dialogue
  | none => dialogue
  | some id =>
    { dialogue with
      unanswered := dialogue.unanswered ++ [id]
      alone := if dialogue.unanswered = [] ∧ dialogue.provider.expecting = some id then
          id :: dialogue.alone
        else dialogue.alone }

/-- A response cannot come in unless a request is unanswered and the provider reads. -/
def step (dialogue : Dialogue) (moment : Moment) (event : Provider.Event) :
    Dialogue × List Provider.Effect :=
  let (provider, effects) := dialogue.provider.step moment event
  match response? event with
  | none => ({ dialogue.ask (asker? event effects) with provider }, effects)
  | some response =>
    match dialogue.unanswered with
    | asker :: others =>
      if dialogue.provider.reading then
        ({ dialogue with
           provider, unanswered := others
           answers := ⟨asker, dialogue.provider.expecting, response⟩ :: dialogue.answers }, effects)
      else (dialogue, [])
    | [] => (dialogue, [])

/-- Events one after the other, each with the moment at which it happens. -/
def run (dialogue : Dialogue) (events : List (Moment × Provider.Event)) :
    Dialogue × List Provider.Effect :=
  Machine.run (fun dialogue (moment, event) => dialogue.step moment event) dialogue events

/-- The calls that got a response. -/
def takers (dialogue : Dialogue) : List Nat :=
  dialogue.answers.filterMap (·.taker)

/-- The calls whose requests were answered. -/
def askers (dialogue : Dialogue) : List Nat :=
  dialogue.answers.map (·.asker)

end Dialogue

namespace Provider

variable {provider next : Provider} {moment : Moment} {event : Event} {effects : List Effect}
  {id : Nat} {task : Task} {action : Action} {others : List Action} {progress : Progress}
  {success : Bool}

/-- A call that is done with registering, and with its request if `asked`. -/
def IsPast (provider : Provider) (asked : Prop) (id : Nat) : Prop :=
  ∃ task, provider.tasks[id]? = some task ∧ .expect ∉ task.todo ∧
    (asked → ∀ frame, .write frame ∉ task.todo)

/-- A call registers once, and before it asks. -/
theorem IsRest.expect_once (rest : IsRest (.expect :: others)) : .expect ∉ others := by
  obtain ⟨plan, isPlan, suffix⟩ := rest
  cases isPlan <;> simp [closing, List.suffix_cons_iff] at suffix <;> simp [suffix]

/-- A call writes once, and does not register after that. -/
theorem IsRest.write_once {frame : Frame} (rest : IsRest (.write frame :: others)) :
    .expect ∉ others ∧ ∀ frame, .write frame ∉ others := by
  obtain ⟨plan, isPlan, suffix⟩ := rest
  cases isPlan <;> simp [closing, List.suffix_cons_iff] at suffix <;> simp [suffix]

/-- All calls go on from where they are. -/
def Proceeds (provider next : Provider) : Prop :=
  ∀ (id : Nat) (task : Task), provider.tasks[id]? = some task →
    ∃ later, next.tasks[id]? = some later ∧ later.todo <:+ task.todo

theorem IsPast.later {asked : Prop} (h : provider.IsPast asked id)
    (proceeds : provider.Proceeds next) : next.IsPast asked id := by
  obtain ⟨task, found, unregistered, unwritten⟩ := h
  obtain ⟨later, there, suffix⟩ := proceeds id task found
  exact ⟨later, there, fun member => unregistered (suffix.subset member),
    fun done frame member => unwritten done frame (suffix.subset member)⟩

theorem IsInOrder.proceeds (order : provider.IsInOrder)
    (move : provider.Moves moment event next effects) : provider.Proceeds next := by
  intro id task found
  obtain ⟨inside, -⟩ := List.getElem?_eq_some_iff.mp found
  have calls := move.calls
  generalize next.tasks = tasks at calls ⊢
  cases calls with
  | same => exact ⟨task, found, List.suffix_rfl⟩
  | new call => exact ⟨task, (List.getElem?_append_left inside).trans found, List.suffix_rfl⟩
  | @acted turn other action others next effects progress success _ there first acts =>
    by_cases same : turn = id
    · subst same
      obtain rfl := Option.some.inj (found.symm.trans there)
      have rest := order.calls _ (List.mem_of_getElem? found)
      exact ⟨_, List.getElem?_set_self inside, rest.after_suffix first acts⟩
    · rw [List.getElem?_set_ne same]
      exact ⟨task, found, List.suffix_rfl⟩

theorem act_expecting (provider : Provider) (moment : Moment) (id : Nat) (success : Bool)
    (unregistered : action ≠ .expect) :
    (provider.act moment id success action).1.expecting = provider.expecting := by
  cases action with
  | expect => exact absurd rfl unregistered
  | _ =>
    simp only [act]
    try split
    all_goals rfl

/-- Only what the user of a provider has it write can be a request. -/
theorem act_written (provider : Provider) (moment : Moment) (id : Nat) (success : Bool)
    (prescribed : ∀ frame, action ≠ .write frame) :
    ∀ frame ∈ Link.written (provider.act moment id success action).2.1,
      frame.type ≠ .connectionRequest := by
  cases action with
  | write frame => exact absurd rfl (prescribed frame)
  | sayGoodbye message =>
    simp only [act]
    split
    case h_1 alert made =>
      obtain ⟨_, -, composed⟩ := bind_eq_ok.mp made
      have type := (Frame.parts_of_compose composed).1
      cases success <;> simp [Link.written, type, Body.type]
    case h_2 => exact List.forall_mem_nil _
  | acknowledge lowest highest =>
    simp only [act]
    split
    case h_1 ack made =>
      have type := (Frame.parts_of_compose made).1
      cases success <;> simp [Link.written, type, Body.type, heartbeatFailure]
    case h_2 => exact List.forall_mem_nil _
  | _ => exact List.forall_mem_nil _

/-- What an event does about responses, unless it is one. -/
inductive Turns (provider next : Provider) : Option Nat → Prop
  | other (same : next.expecting = provider.expecting) : Turns provider next none
  | registers {id : Nat} {task : Task} {others : List Action}
      (found : provider.tasks[id]? = some task) (first : task.todo = .expect :: others)
      (expects : next.expecting = some id) (past : next.IsPast False id) :
      Turns provider next none
  | asks {id : Nat} {task : Task} {frame : Frame} {others : List Action}
      (found : provider.tasks[id]? = some task) (first : task.todo = .write frame :: others)
      (same : next.expecting = provider.expecting) (past : next.IsPast True id) :
      Turns provider next (some id)

end Provider

namespace Dialogue

open Provider

variable {provider next : Provider} {moment : Moment} {event : Event} {effects : List Effect}

theorem asker?_eq_none (id : Nat) (success : Bool)
    (others : ∀ frame ∈ Link.written effects, frame.type ≠ .connectionRequest) :
    asker? (.resumed id success) effects = none := by
  have none : (Link.written effects).any (·.type = .connectionRequest) = false := by
    simpa [List.any_eq_false] using others
  rw [asker?, none]
  rfl

/-- What an action of a call does about responses. -/
theorem turns_of_act {id : Nat} {task : Task} {action : Action} {others : List Action}
    {progress : Progress} (success : Bool) (order : provider.IsInOrder)
    (found : provider.tasks[id]? = some task) (first : task.todo = action :: others)
    (acts : provider.act moment id success action = (next, effects, progress)) :
    provider.Turns (next.put (task.after others progress) (.call id))
      (asker? (.resumed id success) effects) := by
  have rest := order.calls task (List.mem_of_getElem? found)
  rw [first] at rest
  obtain ⟨inside, -⟩ := List.getElem?_eq_some_iff.mp found
  have calls : next.tasks = provider.tasks := by
    have keeps := (provider.act_keeps moment id success action).1
    rwa [acts] at keeps
  have later : (next.put (task.after others progress) (.call id)).tasks[id]? =
      some (task.after others progress) := by
    show (next.tasks.set id _)[id]? = _
    rw [calls, List.getElem?_set_self inside]
  by_cases registers : action = .expect
  · subst registers
    simp only [act] at acts
    obtain ⟨rfl, rfl, rfl⟩ := acts
    exact .registers found first rfl ⟨_, later, rest.expect_once, False.elim⟩
  have same := provider.act_expecting moment id success registers
  rw [acts] at same
  by_cases writes : ∃ frame, action = .write frame
  · obtain ⟨frame, rfl⟩ := writes
    simp only [act] at acts
    obtain ⟨rfl, rfl, rfl⟩ := acts
    obtain ⟨unregistered, unwritten⟩ := rest.write_once
    by_cases asks : success = true ∧ frame.type = .connectionRequest
    · obtain ⟨rfl, type⟩ := asks
      have asker : asker? (.resumed id true) [.wrote frame true] = some id := by
        simp [asker?, Link.written, type]
      rw [asker]
      exact .asks found first same ⟨_, later, unregistered, fun _ => unwritten⟩
    · have nobody : asker? (.resumed id success) [.wrote frame success] = none := by
        cases success <;> simp_all [asker?, Link.written]
      rw [nobody]
      exact .other same
  · have prescribed := not_exists.mp writes
    have unasked := provider.act_written moment id success prescribed
    rw [acts] at unasked
    rw [asker?_eq_none id success unasked]
    exact .other same

theorem turns_of_move (order : provider.IsInOrder)
    (move : provider.Moves moment event next effects) (silent : response? event = none) :
    provider.Turns next (asker? event effects) := by
  cases move with
  | @acted actor task action others next effects progress success found first acts =>
    cases actor with
    | call id => exact turns_of_act success order found first acts
    | heartbeat =>
      refine .other ?_
      have unregistered : action ≠ .expect := by
        rintro rfl
        obtain rfl := Option.some.inj found
        rcases order.heartbeat with beat | ⟨-, rest⟩
        · rw [first] at beat
          cases beat
        · have planned := rest.subset (first ▸ List.mem_cons_self)
          simp [closing] at planned
      have same := provider.act_expecting moment (provider.number .heartbeat) success unregistered
      rw [acts] at same
      exact same
  | heard incoming reads =>
    refine .other ?_
    unfold handle handleFrame
    split
    case h_1 frame =>
      split
      case h_3 response body =>
        rw [response?, body] at silent
        cases silent
      all_goals rfl
    case h_2 => rfl
  | due rests goes =>
    refine .other ?_
    unfold beat
    split_ifs <;> rfl
  | idle event =>
    have nobody : asker? event [] = none := by
      cases event <;> simp [asker?, Link.written]
    rw [nobody]
    exact .other rfl
  | _ => exact .other rfl

theorem responses_of_move (move : provider.Moves moment event next effects)
    (silent : response? event = none) : next.responses = provider.responses := by
  cases move with
  | @acted actor task action others next effects progress success found first acts =>
    obtain ⟨-, -, -, -, -, same⟩ :=
      act_keeps provider moment (provider.number actor) success action
    rw [acts] at same
    cases actor <;> exact same
  | heard incoming reads =>
    unfold handle handleFrame
    split
    case h_1 frame =>
      split
      case h_3 response body =>
        rw [response?, body] at silent
        cases silent
      all_goals rfl
    case h_2 => rfl
  | due rests goes =>
    unfold beat
    split_ifs <;> rfl
  | _ => rfl

/-- A call returns no response but one that was recorded for it. -/
theorem act_answered {id : Nat} {action : Action} {success : Bool} {response : Handshake}
    (acts : provider.act moment id success action = (next, effects, .finish (.answered response))) :
    (id, response) ∈ provider.responses := by
  cases action with
  | await =>
    have finishes := congrArg (·.2.2) acts
    simp only [act, awaited] at finishes
    split at finishes
    · cases finishes
    split at finishes
    case h_1 other got =>
      obtain rfl := Outcome.answered.inj (Progress.finish.inj finishes)
      obtain ⟨newer, older, split, -⟩ := List.lookup_eq_some_iff.mp got
      rw [split]
      exact List.mem_append_right _ List.mem_cons_self
    case h_2 => split_ifs at finishes <;> cases finishes
  | _ =>
    simp only [act] at acts
    grind

theorem outcome_taskFor (provider : Provider) (call : Call) (response : Handshake) :
    (provider.taskFor call).outcome ≠ .answered response := by
  cases call with
  | sendData frame | request ip port =>
    simp only [taskFor]
    split <;> exact nofun
  | sendFrame frame | close message => exact nofun

theorem outcome_of_move (move : provider.Moves moment event next effects) {id : Nat} {task : Task}
    {response : Handshake} (there : next.tasks[id]? = some task)
    (answered : task.outcome = .answered response) :
    (∃ before, provider.tasks[id]? = some before ∧ before.outcome = .answered response) ∨
      (id, response) ∈ provider.responses := by
  have calls := move.calls
  generalize next.tasks = tasks at calls there
  cases calls with
  | same => exact .inl ⟨task, there, answered⟩
  | new call =>
    by_cases old : id < provider.tasks.length
    · rw [List.getElem?_append_left old] at there
      exact .inl ⟨task, there, answered⟩
    · rw [List.getElem?_append_right (Nat.not_lt.mp old)] at there
      obtain rfl := List.mem_singleton.mp (List.mem_of_getElem? there)
      exact absurd answered (outcome_taskFor provider call response)
  | @acted turn before action others next effects progress success _ found first acts =>
    by_cases same : turn = id
    · subst same
      obtain ⟨inside, -⟩ := List.getElem?_eq_some_iff.mp found
      rw [List.getElem?_set_self inside] at there
      obtain rfl := Option.some.inj there
      cases progress with
      | next more => exact .inl ⟨before, found, answered⟩
      | wait => exact .inl ⟨before, found, answered⟩
      | finish outcome =>
        obtain rfl := answered
        exact .inr (act_answered acts)
    · rw [List.getElem?_set_ne same] at there
      exact .inl ⟨task, there, answered⟩

/-- What is true at any time. -/
structure IsSound (dialogue : Dialogue) : Prop where
  order : dialogue.provider.IsInOrder
  responses : dialogue.provider.responses =
    dialogue.answers.filterMap fun answer => answer.taker.map (·, answer.response)
  outcomes : ∀ (id : Nat) (task : Task) (response : Handshake),
    dialogue.provider.tasks[id]? = some task → task.outcome = .answered response →
      (id, response) ∈ dialogue.provider.responses
  once : (dialogue.askers ++ dialogue.unanswered).Nodup
  asked : ∀ id, id ∈ dialogue.askers ++ dialogue.unanswered ∨ id ∈ dialogue.alone →
    dialogue.provider.IsPast True id
  single : dialogue.takers.Nodup
  registered : ∀ id, id ∈ dialogue.takers ∨ dialogue.provider.expecting = some id →
    dialogue.provider.IsPast False id
  waiting : ∀ id, dialogue.provider.expecting = some id → id ∉ dialogue.takers
  /-- The next response is that of the call that expects it, if it has asked alone. -/
  next : ∀ id, dialogue.provider.expecting = some id →
    (dialogue.unanswered.head? = some id ↔ id ∈ dialogue.alone)
  own : ∀ answer ∈ dialogue.answers, ∀ id, answer.taker = some id →
    (answer.asker = id ↔ id ∈ dialogue.alone)

variable {dialogue : Dialogue}

theorem mem_takers {answer : Answer} {id : Nat} (member : answer ∈ dialogue.answers)
    (taker : answer.taker = some id) : id ∈ dialogue.takers :=
  List.mem_filterMap.mpr ⟨answer, member, taker⟩

/-- A call that registers or asks has not done so before. -/
theorem not_isPast_of_expect {id : Nat} {task : Task} {others : List Action} {asked : Prop}
    (found : provider.tasks[id]? = some task) (first : task.todo = .expect :: others) :
    ¬ provider.IsPast asked id := by
  rintro ⟨same, there, unregistered, -⟩
  obtain rfl := Option.some.inj (found.symm.trans there)
  rw [first] at unregistered
  exact unregistered List.mem_cons_self

theorem not_isPast_of_write {id : Nat} {task : Task} {frame : Frame} {others : List Action}
    (found : provider.tasks[id]? = some task) (first : task.todo = .write frame :: others) :
    ¬ provider.IsPast True id := by
  rintro ⟨same, there, -, unwritten⟩
  obtain rfl := Option.some.inj (found.symm.trans there)
  rw [first] at unwritten
  exact unwritten trivial frame List.mem_cons_self

theorem mem_alone_ask {turn id : Nat} : id ∈ (dialogue.ask (some turn)).alone ↔
    (id = turn ∧ dialogue.unanswered = [] ∧ dialogue.provider.expecting = some turn) ∨
      id ∈ dialogue.alone := by
  simp only [ask]
  split_ifs with first
  · simp [first]
  · exact ⟨.inr, fun h => h.resolve_left fun ⟨_, this⟩ => first this⟩

/-- What every event leaves of a dialogue, unless it is a response. -/
structure Carries (dialogue : Dialogue) (next : Provider) : Prop where
  order : next.IsInOrder
  responses : next.responses = dialogue.provider.responses
  outcomes : ∀ (id : Nat) (task : Task) (response : Handshake),
    next.tasks[id]? = some task → task.outcome = .answered response →
      (id, response) ∈ next.responses
  proceeds : dialogue.provider.Proceeds next

theorem IsSound.carries (h : dialogue.IsSound)
    (move : dialogue.provider.Moves moment event next effects) (silent : response? event = none) :
    dialogue.Carries next := by
  have responses := responses_of_move move silent
  refine ⟨h.order.move move, responses, ?_, h.order.proceeds move⟩
  intro id task response there answered
  rw [responses]
  rcases outcome_of_move move there answered with ⟨before, found, already⟩ | recorded
  · exact h.outcomes id before response found already
  · exact recorded

theorem IsSound.keep (h : dialogue.IsSound) (carries : dialogue.Carries next)
    (same : next.expecting = dialogue.provider.expecting) :
    IsSound { dialogue with provider := next } := by
  refine { h with
    order := carries.order
    responses := carries.responses.trans h.responses
    outcomes := carries.outcomes
    asked := fun id past => (h.asked id past).later carries.proceeds
    registered := fun id registered => ?_
    waiting := ?_
    next := ?_ }
  · rw [same] at registered
    exact (h.registered id registered).later carries.proceeds
  · rw [same]
    exact h.waiting
  · rw [same]
    exact h.next

/-- A call that registers has neither asked nor got a response. -/
theorem IsSound.register (h : dialogue.IsSound) (carries : dialogue.Carries next) {turn : Nat}
    {task : Task} {others : List Action} (found : dialogue.provider.tasks[turn]? = some task)
    (first : task.todo = .expect :: others) (expects : next.expecting = some turn)
    (past : next.IsPast False turn) : IsSound { dialogue with provider := next } := by
  refine { h with
    order := carries.order
    responses := carries.responses.trans h.responses
    outcomes := carries.outcomes
    asked := fun id past => (h.asked id past).later carries.proceeds
    registered := ?_
    waiting := ?_
    next := ?_ }
  · rintro id (taken | expected)
    · exact (h.registered id (.inl taken)).later carries.proceeds
    · rw [expects] at expected
      exact Option.some.inj expected ▸ past
  · intro id expected
    obtain rfl := Option.some.inj (expects.symm.trans expected)
    exact fun taken => not_isPast_of_expect found first (h.registered turn (.inl taken))
  · intro id expected
    obtain rfl := Option.some.inj (expects.symm.trans expected)
    refine iff_of_false (fun head => ?_) fun alone => ?_
    · have arrived := List.mem_append_right dialogue.askers (List.mem_of_head? head)
      exact not_isPast_of_expect found first (h.asked turn (.inl arrived))
    · exact not_isPast_of_expect found first (h.asked turn (.inr alone))

/-- A request gets behind those that are unanswered. If there are none, and the call is the one that
expects a response, the next response is its own. -/
theorem IsSound.ask (h : dialogue.IsSound) (carries : dialogue.Carries next) {turn : Nat}
    {task : Task} {frame : Frame} {others : List Action}
    (found : dialogue.provider.tasks[turn]? = some task)
    (first : task.todo = .write frame :: others)
    (same : next.expecting = dialogue.provider.expecting) (past : next.IsPast True turn) :
    IsSound { dialogue.ask (some turn) with provider := next } := by
  have behind : dialogue.askers ++ (dialogue.unanswered ++ [turn]) =
      dialogue.askers ++ dialogue.unanswered ++ [turn] := (List.append_assoc _ _ _).symm
  refine { h with
    order := carries.order
    responses := carries.responses.trans h.responses
    outcomes := carries.outcomes
    once := ?_
    asked := fun id asked => ?_
    registered := fun id registered => ?_
    waiting := fun id expected => ?_
    next := fun id expected => ?_
    own := fun answer member id taker => ?_ }
  · show (dialogue.askers ++ (dialogue.unanswered ++ [turn])).Nodup
    have unasked : turn ∉ dialogue.askers ++ dialogue.unanswered := fun member =>
      not_isPast_of_write found first (h.asked turn (.inl member))
    rw [behind]
    exact List.nodup_append_comm.mp (List.nodup_cons.mpr ⟨unasked, h.once⟩)
  · by_cases itself : id = turn
    · exact itself ▸ past
    refine (h.asked id ?_).later carries.proceeds
    rcases asked with arrived | alone
    · change id ∈ dialogue.askers ++ (dialogue.unanswered ++ [turn]) at arrived
      rw [behind] at arrived
      exact .inl ((List.mem_append.mp arrived).resolve_right (by simpa using itself))
    · exact .inr ((mem_alone_ask.mp alone).resolve_left fun ⟨same, _⟩ => itself same)
  · change id ∈ dialogue.takers ∨ next.expecting = some id at registered
    rw [same] at registered
    exact (h.registered id registered).later carries.proceeds
  · change next.expecting = some id at expected
    rw [same] at expected
    exact h.waiting id expected
  · change next.expecting = some id at expected
    rw [same] at expected
    have before := h.next id expected
    refine Iff.trans ?_ mem_alone_ask.symm
    show (dialogue.unanswered ++ [turn]).head? = some id ↔ _
    cases arrived : dialogue.unanswered with
    | nil =>
      rw [arrived] at before
      have unalone : id ∉ dialogue.alone := fun alone => nomatch before.mpr alone
      simp [expected, unalone, eq_comm]
    | cons first others =>
      rw [arrived] at before
      simpa using before
  · -- a call that has got a response expects none, so it does not ask alone any more
    refine (h.own answer member id taker).trans (Iff.trans ?_ mem_alone_ask.symm)
    refine ⟨.inr, fun alone => alone.resolve_left ?_⟩
    rintro ⟨rfl, -, expected⟩
    exact h.waiting id expected (mem_takers member taker)

theorem IsSound.move (h : dialogue.IsSound)
    (move : dialogue.provider.Moves moment event next effects) (silent : response? event = none) :
    IsSound { dialogue.ask (asker? event effects) with provider := next } := by
  have carries := h.carries move silent
  have turns := turns_of_move h.order move silent
  generalize asker? event effects = asker at turns ⊢
  cases turns with
  | other same => exact h.keep carries same
  | registers found first expects past => exact h.register carries found first expects past
  | asks found first same past => exact h.ask carries found first same past

theorem step_response (reads : provider.reading = true) {response : Handshake} {frame : Frame}
    (body : frame.body = .connectionResponse response) (moment : Moment) :
    (provider.step moment (.received (.frame frame))).1 = { provider with
      expecting := none
      responses := (provider.expecting.map (·, response)).toList ++ provider.responses } := by
  have heard : provider.step moment (.received (.frame frame)) =
      provider.handleFrame moment frame := if_pos reads
  rw [heard, handleFrame, body]
  dsimp only
  cases expects : provider.expecting with
  | none =>
    obtain ⟨_, _, _, _, _, _, _, _, _, _, _⟩ := provider
    obtain rfl := expects
    rfl
  | some id => rfl

/-- A response that comes in goes to the call that expects it. -/
theorem IsSound.answer (h : dialogue.IsSound) (reads : dialogue.provider.reading = true)
    {response : Handshake} {frame : Frame} (body : frame.body = .connectionResponse response)
    {asker : Nat} {others : List Nat} (unanswered : dialogue.unanswered = asker :: others)
    (moment : Moment) :
    IsSound { dialogue with
      provider := (dialogue.provider.step moment (.received (.frame frame))).1, unanswered := others
      answers := ⟨asker, dialogue.provider.expecting, response⟩ :: dialogue.answers } := by
  have order := h.order.move (dialogue.provider.moves_step moment (.received (.frame frame)))
  rw [step_response reads body] at order ⊢
  have moved : ∀ id, id ∈ asker :: dialogue.askers ++ others ↔
      id ∈ dialogue.askers ++ dialogue.unanswered := by
    intro id
    rw [unanswered]
    exact List.perm_middle.mem_iff.symm
  have takers : ∀ id, id ∈ (dialogue.provider.expecting.toList ++ dialogue.takers) ↔
      id ∈ dialogue.takers ∨ dialogue.provider.expecting = some id := by
    intro id
    simp [or_comm]
  have taken : List.filterMap (·.taker) (⟨asker, dialogue.provider.expecting, response⟩ ::
      dialogue.answers) = dialogue.provider.expecting.toList ++ dialogue.takers := by
    cases expects : dialogue.provider.expecting <;> simp [Dialogue.takers]
  constructor
  case order => exact order
  case responses =>
    show _ = List.filterMap _ (_ :: _)
    rw [h.responses]
    cases expects : dialogue.provider.expecting <;> simp
  case outcomes =>
    intro id task other there answered
    exact List.mem_append_right _ (h.outcomes id task other there answered)
  case once =>
    have once := h.once
    rw [unanswered] at once
    exact List.nodup_middle.mp once
  case asked =>
    intro id asked
    exact h.asked id (asked.imp_left (moved id).mp)
  case single =>
    show (List.filterMap _ (_ :: _)).Nodup
    rw [taken]
    cases expects : dialogue.provider.expecting with
    | none => exact h.single
    | some id => exact List.nodup_cons.mpr ⟨h.waiting id expects, h.single⟩
  case registered =>
    rintro id (member | expected)
    · change id ∈ List.filterMap _ (_ :: _) at member
      rw [taken] at member
      exact h.registered id ((takers id).mp member)
    · exact nomatch expected
  case waiting => exact fun id expected => nomatch expected
  case next => exact fun id expected => nomatch expected
  case own =>
    intro answer member id taker
    rcases List.mem_cons.mp member with rfl | earlier
    · have next := h.next id taker
      rw [unanswered, List.head?_cons, Option.some_inj] at next
      exact next
    · exact h.own answer earlier id taker

theorem response?_eq_some {response : Handshake} (h : response? event = some response) :
    ∃ frame, event = .received (.frame frame) ∧ frame.body = .connectionResponse response := by
  unfold response? at h
  split at h
  case h_1 frame =>
    split at h
    case h_1 other body => exact ⟨frame, rfl, Option.some.inj h ▸ body⟩
    case h_2 => exact nomatch h
  case h_2 => exact nomatch h

theorem IsSound.after_step (h : dialogue.IsSound) (moment : Moment) (event : Event) :
    (dialogue.step moment event).1.IsSound := by
  unfold step
  dsimp only
  split
  case h_1 silent => exact h.move (dialogue.provider.moves_step moment event) silent
  case h_2 response heard =>
    obtain ⟨frame, rfl, body⟩ := response?_eq_some heard
    split
    case h_1 asker others unanswered =>
      split_ifs with reads
      · exact h.answer reads body unanswered moment
      · exact h
    case h_2 => exact h

theorem IsSound.run (h : dialogue.IsSound) (events : List (Moment × Event)) :
    (dialogue.run events).1.IsSound := by
  induction events generalizing dialogue with
  | nil => exact h
  | cons first events ih =>
    obtain ⟨moment, event⟩ := first
    exact ih (h.after_step moment event)

theorem isSound_of_start {config : ProviderConfig} {uptime : Duration} {fresh : Provider}
    {greeting : List Effect} (started : Provider.start config uptime = .ok (fresh, greeting)) :
    IsSound { provider := fresh } := by
  have order := isInOrder_of_start started
  obtain ⟨endpoint, -, rfl⟩ := eq_of_start started
  constructor
  case order => exact order
  case responses => rfl
  case once | single => exact List.nodup_nil
  case outcomes => exact fun id task response there => nomatch there
  case asked => simp [askers]
  case registered => simp [takers]
  case waiting | next | own => simp

/-- A call that returns a response has got it, and nobody else has. It is the response to its own
request exactly if it was registered and no other request was unanswered when that request went
out. -/
theorem answered_own_iff {config : ProviderConfig} {uptime : Duration} {fresh : Provider}
    {greeting : List Effect} (started : Provider.start config uptime = .ok (fresh, greeting))
    {events : List (Moment × Event)} {last : Dialogue} {effects : List Effect}
    (ran : Dialogue.run { provider := fresh } events = (last, effects)) :
    last.takers.Nodup ∧ (last.askers ++ last.unanswered).Nodup ∧
      ∀ (id : Nat) (task : Task) (response : Handshake), last.provider.tasks[id]? = some task →
        task.outcome = .answered response →
        ∃ asker, ⟨asker, some id, response⟩ ∈ last.answers ∧ (asker = id ↔ id ∈ last.alone) := by
  have sound := (isSound_of_start started).run events
  rw [ran] at sound
  refine ⟨sound.single, sound.once, fun id task response there answered => ?_⟩
  have recorded := sound.outcomes id task response there answered
  rw [sound.responses] at recorded
  obtain ⟨⟨asker, taker, same⟩, member, taken⟩ := List.mem_filterMap.mp recorded
  obtain ⟨other, rfl, pair⟩ := Option.map_eq_some_iff.mp taken
  obtain ⟨rfl, rfl⟩ := Prod.mk.inj pair
  exact ⟨asker, member, sound.own _ member other rfl⟩

theorem run_append (dialogue : Dialogue) (events others : List (Moment × Event)) :
    dialogue.run (events ++ others) =
      (((dialogue.run events).1.run others).1,
        (dialogue.run events).2 ++ ((dialogue.run events).1.run others).2) :=
  Machine.run_append _ _ _ _

/-- A call makes its request. -/
def asking (id : Nat) (port : UInt16) : List (Moment × Event) :=
  atOnce [.called (.request ⟨0x7F000001⟩ port), .resumed id true, .resumed id true,
    .resumed id true]

/-- A call gets a response and returns it. -/
def answering (id : Nat) (reply : Frame) : List (Moment × Event) :=
  atOnce [.received (.frame reply), .resumed id true]

/-- A dialogue in which a new call has made its request. -/
def asked (dialogue : Dialogue) (id : Nat) : Dialogue :=
  { dialogue with
    provider := { dialogue.provider with
      expecting := some id, tasks := dialogue.provider.tasks ++ [{ todo := [.await] }] }
    unanswered := dialogue.unanswered ++ [id]
    alone := if dialogue.unanswered = [] then id :: dialogue.alone else dialogue.alone }

theorem run_asking {id : Nat} {port : UInt16} {request : Frame}
    (new : dialogue.provider.tasks.length = id) (goes : dialogue.provider.closed = false)
    (made : dialogue.provider.endpoint.connectionRequest ⟨0x7F000001⟩ port none = .ok request)
    (type : request.type = .connectionRequest) :
    dialogue.run (asking id port) = (dialogue.asked id, [.wrote request true]) := by
  subst new
  simp [Dialogue.run, Machine.run, asking, asked, atOnce, step, ask, asker?, response?,
    Provider.step, taskFor, resume, act, goes, made, type, Link.written]

theorem run_answering {id asker : Nat} {others : List Nat} {reply : Frame} {response : Handshake}
    (goes : dialogue.provider.closed = false) (reads : dialogue.provider.reading = true)
    (expects : dialogue.provider.expecting = some id)
    (waits : dialogue.provider.tasks[id]? = some { todo := [.await] })
    (unanswered : dialogue.unanswered = asker :: others)
    (body : reply.body = .connectionResponse response) :
    (dialogue.run (answering id reply)).1.provider.tasks[id]? =
        some { todo := [], outcome := .answered response } ∧
      (dialogue.run (answering id reply)).1.answers =
        ⟨asker, some id, response⟩ :: dialogue.answers ∧
      (dialogue.run (answering id reply)).1.alone = dialogue.alone := by
  obtain ⟨inside, call⟩ := List.getElem?_eq_some_iff.mp waits
  simp [Dialogue.run, Machine.run, answering, atOnce, step, ask, asker?, response?, Provider.step,
    resume, act, awaited, handle, handleFrame, goes, reads, expects, unanswered, body,
    Link.written, inside, call]

theorem idle_of_start {config : ProviderConfig} {uptime : Duration} {fresh : Provider}
    {greeting : List Effect} (started : Provider.start config uptime = .ok (fresh, greeting)) :
    fresh.closed = false ∧ fresh.reading = true ∧ fresh.tasks = [] := by
  obtain ⟨endpoint, -, rfl⟩ := eq_of_start started
  exact ⟨rfl, rfl, rfl⟩

theorem exists_requests :
    ∃ fresh greeting request other reply response,
      Provider.start taciturn 0 = .ok (fresh, greeting) ∧
      fresh.endpoint.connectionRequest ⟨0x7F000001⟩ 4000 none = .ok request ∧
      fresh.endpoint.connectionRequest ⟨0x7F000001⟩ 4001 none = .ok other ∧
      request.type = .connectionRequest ∧ other.type = .connectionRequest ∧
      Endpoint.standard.connectionResponse ⟨0x0A000005⟩ 8101 none = .ok reply ∧
      reply.body = .connectionResponse response :=
  ⟨_, _, _, _, _, _, rfl, rfl, rfl, rfl, rfl, rfl, rfl⟩

/-- A request that is answered before another one is made. -/
def askingOnce (reply : Frame) : List (Moment × Event) :=
  asking 0 4000 ++ answering 0 reply

/-- Two requests that are made before one of them is answered. -/
def askingTwice (reply : Frame) : List (Moment × Event) :=
  asking 0 4000 ++ (asking 1 4001 ++ answering 1 reply)

theorem answered_own_iff_once :
    ∃ fresh greeting reply response last effects,
      Provider.start taciturn 0 = .ok (fresh, greeting) ∧
      reply.body = .connectionResponse response ∧
      Dialogue.run { provider := fresh } (askingOnce reply) = (last, effects) ∧
      last.provider.tasks[0]? = some { todo := [], outcome := .answered response } ∧
      ⟨0, some 0, response⟩ ∈ last.answers := by
  obtain ⟨fresh, greeting, request, -, reply, response, started, made, -, type, -, -, body⟩ :=
    exists_requests
  obtain ⟨last, effects, ran⟩ : ∃ last effects,
      Dialogue.run { provider := fresh } (askingOnce reply) = (last, effects) := ⟨_, _, rfl⟩
  obtain ⟨returned, alone⟩ :
      last.provider.tasks[0]? = some { todo := [], outcome := .answered response } ∧
        0 ∈ last.alone := by
    obtain ⟨goes, reads, none⟩ := idle_of_start started
    have first := @run_asking { provider := fresh } 0 4000 request (by simp [none]) goes made type
    obtain ⟨returned, -, alone⟩ := @run_answering (asked { provider := fresh } 0) 0 0 [] reply
      response goes reads rfl (by simp [asked, none]) rfl body
    rw [askingOnce, run_append, first] at ran
    obtain rfl := congrArg Prod.fst ran
    exact ⟨returned, alone ▸ List.mem_cons_self⟩
  obtain ⟨-, -, own⟩ := answered_own_iff started ran
  obtain ⟨asker, member, exactly⟩ := own 0 _ response returned rfl
  obtain rfl := exactly.mpr alone
  exact ⟨fresh, greeting, reply, response, last, effects, started, body, ran, returned, member⟩

/-- The later call returns the response to the request of the earlier one. -/
theorem answered_other_twice :
    ∃ fresh greeting reply response last effects,
      Provider.start taciturn 0 = .ok (fresh, greeting) ∧
      Endpoint.standard.connectionResponse ⟨0x0A000005⟩ 8101 none = .ok reply ∧
      Dialogue.run { provider := fresh } (askingTwice reply) = (last, effects) ∧
      last.provider.tasks[1]? = some { todo := [], outcome := .answered response } ∧
      last.answers = [⟨0, some 1, response⟩] := by
  obtain ⟨fresh, greeting, request, other, reply, response, started, made, made', type, type',
    replied, body⟩ := exists_requests
  obtain ⟨last, effects, ran⟩ : ∃ last effects,
      Dialogue.run { provider := fresh } (askingTwice reply) = (last, effects) := ⟨_, _, rfl⟩
  refine ⟨fresh, greeting, reply, response, last, effects, started, replied, ran, ?_⟩
  obtain ⟨goes, reads, none⟩ := idle_of_start started
  have first := @run_asking { provider := fresh } 0 4000 request (by simp [none]) goes made type
  have second := @run_asking (asked { provider := fresh } 0) 1 4001 other
    (by simp [asked, none]) goes made' type'
  obtain ⟨returned, answers, -⟩ := @run_answering (asked (asked { provider := fresh } 0) 1) 1 0 [1]
    reply response goes reads rfl (by simp [asked, none]) rfl body
  rw [askingTwice, run_append, first, run_append, second] at ran
  obtain rfl := congrArg Prod.fst ran
  exact ⟨returned, answers⟩

end Dialogue

end ContinuousData
