/-! Machines that answer each event with a next state and with effects, and their runs over any list
of events. -/
namespace ContinuousData

namespace Machine

variable {σ ε ω : Type}

/-- Takes events one after the other; the effects are in the order in which they arise. -/
def run (step : σ → ε → σ × List ω) (state : σ) : List ε → σ × List ω
  | [] => (state, [])
  | event :: events =>
    let (next, effects) := step state event
    let (last, others) := run step next events
    (last, effects ++ others)

@[simp] theorem run_nil (step : σ → ε → σ × List ω) (state : σ) : run step state [] = (state, []) :=
  rfl

theorem run_cons (step : σ → ε → σ × List ω) (state : σ) (event : ε) (events : List ε) :
    run step state (event :: events) =
      ((run step (step state event).1 events).1,
        (step state event).2 ++ (run step (step state event).1 events).2) :=
  rfl

theorem run_append (step : σ → ε → σ × List ω) (state : σ) (events others : List ε) :
    run step state (events ++ others) =
      ((run step (run step state events).1 others).1,
        (run step state events).2 ++ (run step (run step state events).1 others).2) := by
  induction events generalizing state with
  | nil => simp
  | cons event events ih => simp [run, ih, List.append_assoc]

/-- What each step of a run keeps holds at its end. It may depend on the effects so far. -/
theorem run_keeps {step : σ → ε → σ × List ω} {state : σ} {events : List ε}
    {Inv : σ → List ω → Prop} (start : Inv state [])
    (keeps : ∀ front event back, events = front ++ event :: back →
      Inv (run step state front).1 (run step state front).2 →
      Inv (step (run step state front).1 event).1
        ((run step state front).2 ++ (step (run step state front).1 event).2)) :
    Inv (run step state events).1 (run step state events).2 := by
  have reach : ∀ back front, events = front ++ back →
      Inv (run step state front).1 (run step state front).2 →
      Inv (run step state events).1 (run step state events).2 := by
    intro back
    induction back with
    | nil =>
      rintro front rfl inv
      rwa [List.append_nil]
    | cons event back ih =>
      rintro front split inv
      refine ih (front ++ [event]) (by rw [split, List.append_assoc]; rfl) ?_
      rw [run_append, run_cons, run_nil, List.append_nil]
      exact keeps front event back split inv
  exact reach events [] rfl start

end Machine

end ContinuousData
