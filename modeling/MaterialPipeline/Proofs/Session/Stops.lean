import MaterialPipeline.Proofs.Session.Runs

/-!
# Proofs — Session — Stops

Why a computation or an action may stop.  It *stops for* some causes when every fault that it ends
in is one of them; an action that stops for few causes breaks no other contract, whatever it is run
on.

* `StopsFor`, `Action.StopsFor`: the judgement, for computations and for actions; both are closed
under sequencing (`bind`).
-/

namespace MaterialPipeline

variable {α β : Type} {causes : Fault → Prop}

/-- Every fault that the computation ends in is one of `causes`. -/
def StopsFor (causes : Fault → Prop) (x : Except Fault α) : Prop :=
  ∀ fault, x = .error fault → causes fault

namespace StopsFor

theorem ok (a : α) : StopsFor causes (.ok a) :=
  fun _ h => nomatch h

theorem error {fault : Fault} (h : causes fault) :
    StopsFor causes (.error fault : Except Fault α) := by
  rintro _ ⟨⟩
  exact h

theorem bind {x : Except Fault α} {f : α → Except Fault β} (hx : StopsFor causes x)
    (hf : ∀ a, x = .ok a → StopsFor causes (f a)) : StopsFor causes (x >>= f) := by
  cases x with
  | error fault => exact error (hx fault rfl)
  | ok a => exact hf a rfl

/-- One step after another. -/
theorem foldlM {step : β → α → Except Fault β} (hstep : ∀ b a, StopsFor causes (step b a))
    (l : List α) (b : β) : StopsFor causes (l.foldlM step b) := by
  induction l generalizing b with
  | nil => exact ok b
  | cons a rest ih =>
      rw [List.foldlM_cons]
      exact (hstep b a).bind fun b _ => ih b

end StopsFor

/-- Wherever the action is run, it stops for one of `causes` at most. -/
def Action.StopsFor (causes : Fault → Prop) (x : Action α) : Prop :=
  ∀ s : Session, MaterialPipeline.StopsFor causes (x.run s)

namespace Action.StopsFor

theorem pure (a : α) : StopsFor causes (Pure.pure a : Action α) :=
  fun _ => .ok _

theorem bind {x : Action α} {f : α → Action β} (hx : StopsFor causes x)
    (hf : ∀ a, StopsFor causes (f a)) : StopsFor causes (x >>= f) := by
  intro s
  rw [StateT.run_bind]
  exact (hx s).bind fun r _ => hf r.1 r.2

/-- A computation; what follows may use that it succeeded. -/
theorem lift_bind {x : Except Fault α} {f : α → Action β}
    (hx : MaterialPipeline.StopsFor causes x) (hf : ∀ a, x = .ok a → StopsFor causes (f a)) :
    StopsFor causes ((liftM x : Action α) >>= f) := by
  cases x with
  | error fault => exact fun _ => .error (hx fault rfl)
  | ok a => exact hf a rfl

theorem lift {x : Except Fault α} (hx : MaterialPipeline.StopsFor causes x) :
    StopsFor causes (liftM x : Action α) := by
  cases x with
  | error fault => exact fun _ => .error (hx fault rfl)
  | ok a => exact pure a

theorem perform (events : List Event) : StopsFor causes (Action.perform events) :=
  fun _ => .ok _

theorem onDevice (g : Device → α × Device) : StopsFor causes (Action.onDevice g) :=
  fun _ => .ok _

theorem limits : StopsFor causes Action.limits :=
  fun _ => .ok _

theorem mono {causes' : Fault → Prop} {x : Action α} (hx : StopsFor causes x)
    (h : ∀ fault, causes fault → causes' fault) : StopsFor causes' x :=
  fun s fault hfault => h fault (hx s fault hfault)

/-- One result after another. -/
theorem mapM {f : α → Action β} (hf : ∀ a, StopsFor causes (f a)) (l : List α) :
    StopsFor causes (l.mapM f) := by
  induction l with
  | nil => exact pure _
  | cons a rest ih =>
      rw [List.mapM_cons]
      exact (hf a).bind fun b => ih.bind fun bs => pure (b :: bs)

end Action.StopsFor

end MaterialPipeline
