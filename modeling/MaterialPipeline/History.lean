import MaterialPipeline.Session

/-!
# History

Runs of steps.  A step changes a state and answers, or faults; a fault ends the run.

* `Step.answers` — the answers of a run, with the fault if there was one at its end.
* `Step.traced` — an effect as a step, with the calls and notes that it caused.
-/

namespace MaterialPipeline

/-- A step on a state. -/
abbrev Step (σ : Type) := StateT σ (Except Fault)

namespace Step

variable {σ α : Type}

/-- Runs steps from the state `s`, until one faults. -/
def answers (s : σ) : List (Step σ α) → List (Except Fault α)
  | [] => []
  | f :: rest =>
    match f s with
    | .error fault => [.error fault]
    | .ok (a, s) => .ok a :: answers s rest

/-- An effect as a step that answers with its calls and notes too. -/
def traced (f : StateT σ Action α) : Step (σ × Session) (α × List Call × List Note) :=
  fun (s, before) => do
    let ((a, s), after) ← f s before
    let calls := after.device.calls.toList.drop before.device.calls.size
    let notes := after.notes.toList.drop before.notes.size
    return ((a, calls, notes), s, after)

end Step

end MaterialPipeline
