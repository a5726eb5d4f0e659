import MaterialPipeline.Proofs.Session.Runs
import Mathlib.Algebra.BigOperators.Group.Multiset.Basic
import Mathlib.Tactic.Abel

/-!
# Proofs — Session — Trades

What an action does with the things that its caller holds on the device.  `I d held` says how the
multiset `held` goes with the device `d`.  An action *trades* `before` for `after` when it takes a
device that goes with `before`, and whatever else is held, to one that goes with `after`, and the
same else; `after` depends on what the action returns.

* `Session.forget`: the session without the record of calls and notes.
* `Action.Oblivious`: what an action does, does not depend on that record.
* `Action.Trades`: the judgement; it is closed under sequencing (`bind`) and under holding more
  (`frame`).
-/

namespace MaterialPipeline

/-- The device without its trace. -/
def Device.forget (d : Device) : Device :=
  { d with calls := #[] }

/-- The session without its record of calls and notes. -/
def Session.forget (s : Session) : Session :=
  { device := s.device.forget, notes := #[] }

namespace Session

theorem forget_apply (s : Session) (e : Event) : (s.forget.apply e).forget = (s.apply e).forget := by
  cases e with
  | note n => rfl
  | call c => cases c <;> rfl

theorem forget_applyAll {s s' : Session} (h : s.forget = s'.forget) (events : List Event) :
    (s.applyAll events).forget = (s'.applyAll events).forget := by
  induction events generalizing s s' with
  | nil => exact h
  | cons e rest ih => exact ih (by rw [← forget_apply s, h, forget_apply])

end Session

namespace Action

variable {α β ρ : Type} {x : Action α} {f : α → Action β}

/-! ### Actions that do not look at the record -/

/-- A result, up to the record. -/
def unrecorded (r : Except Fault (α × Session)) : Except Fault (α × Session) :=
  r.map (Prod.map id Session.forget)

/-- The result does not depend on the record, up to the record. -/
def Oblivious (x : Action α) : Prop :=
  ∀ s s', s.forget = s'.forget → unrecorded (x.run s) = unrecorded (x.run s')

namespace Oblivious

theorem pure (a : α) : Oblivious (pure a : Action α) := by
  intro s s' h
  exact congrArg (fun s => Except.ok (a, s)) h

theorem bind (hx : Oblivious x) (hf : ∀ a, Oblivious (f a)) : Oblivious (x >>= f) := by
  intro s s' h
  have hrun := hx s s' h
  rw [StateT.run_bind, StateT.run_bind]
  cases hs : x.run s with
  | error fault =>
      cases hs' : x.run s' with
      | error fault' =>
          rw [hs, hs'] at hrun
          cases hrun
          rfl
      | ok r =>
          rw [hs, hs'] at hrun
          cases hrun
  | ok r =>
      cases hs' : x.run s' with
      | error fault' =>
          rw [hs, hs'] at hrun
          cases hrun
      | ok r' =>
          rw [hs, hs'] at hrun
          obtain ⟨a, t⟩ := r
          obtain ⟨a', t'⟩ := r'
          injection hrun with hrun
          obtain ⟨rfl, ht⟩ := Prod.mk.inj hrun
          exact hf a t t' ht

theorem of_ok {s s' t : Session} {a : α} (hx : Oblivious x) (h : s.forget = s'.forget)
    (hrun : x.run s = .ok (a, t)) : ∃ t', x.run s' = .ok (a, t') ∧ t.forget = t'.forget := by
  have hresult := hx s s' h
  rw [hrun] at hresult
  cases hs' : x.run s' with
  | error fault =>
      rw [hs'] at hresult
      cases hresult
  | ok r =>
      rw [hs'] at hresult
      obtain ⟨ha, ht⟩ := Prod.mk.inj (Except.ok.inj hresult)
      exact ⟨r.2, congrArg (fun a' => Except.ok (a', r.2)) ha.symm, ht⟩

theorem of_error {s s' : Session} {fault : Fault} (hx : Oblivious x) (h : s.forget = s'.forget)
    (hrun : x.run s = .error fault) : x.run s' = .error fault := by
  have hresult := hx s s' h
  rw [hrun] at hresult
  cases hs' : x.run s' with
  | error fault' =>
      rw [hs'] at hresult
      cases hresult
      rfl
  | ok r =>
      rw [hs'] at hresult
      cases hresult

theorem perform (events : List Event) : Oblivious (perform events) := by
  intro s s' h
  exact congrArg (fun s => Except.ok ((), s)) (Session.forget_applyAll h events)

theorem limits : Oblivious Action.limits := by
  intro s s' h
  have hd : s.device.limits = s'.device.limits := congrArg (·.device.limits) h
  show Except.ok (s.device.limits, s.forget) = Except.ok (s'.device.limits, s'.forget)
  rw [hd, h]

theorem onDevice {g : Device → α × Device}
    (hg : ∀ d, (g d.forget).1 = (g d).1 ∧ (g d.forget).2.forget = (g d).2.forget) :
    Oblivious (onDevice g) := by
  intro s s' h
  have hd : s.device.forget = s'.device.forget := congrArg (·.device) h
  have hvalue : (g s.device).1 = (g s'.device).1 := by rw [← (hg _).1, hd, (hg _).1]
  have hdevice : (g s.device).2.forget = (g s'.device).2.forget := by rw [← (hg _).2, hd, (hg _).2]
  show Except.ok ((g s.device).1, Session.mk (g s.device).2.forget #[]) =
    Except.ok ((g s'.device).1, Session.mk (g s'.device).2.forget #[])
  rw [hvalue, hdevice]

end Oblivious

/-! ### Trades -/

theorem perform_append (a b : List Event) :
    perform (a ++ b) = (do perform a; perform b) := by
  funext s
  show Except.ok ((), s.applyAll (a ++ b)) = Except.ok ((), (s.applyAll a).applyAll b)
  rw [Session.applyAll, List.foldl_append]
  rfl

/-- The action takes what goes with `before` to what goes with `after`, whatever else is held. -/
structure Trades (I : Device → Multiset ρ → Prop) (x : Action α) (before : Multiset ρ)
    (after : α → Multiset ρ) : Prop where
  oblivious : Oblivious x
  run : ∀ {s : Session} {a : α} {s' : Session} (rest : Multiset ρ),
    x.run s = .ok (a, s') → I s.device (before + rest) → I s'.device (after a + rest)

namespace Trades

variable {I : Device → Multiset ρ → Prop} {before before' : Multiset ρ}
  {mid after after' : α → Multiset ρ} {done : β → Multiset ρ}

theorem pure {a : α} (h : after a = before) : Trades I (Pure.pure a) before after where
  oblivious := .pure a
  run := by
    intro s a' s' rest hrun hI
    cases hrun
    exact h ▸ hI

theorem bind (hx : Trades I x before mid) (hf : ∀ a, Trades I (f a) (mid a) done) :
    Trades I (x >>= f) before done where
  oblivious := hx.oblivious.bind fun a => (hf a).oblivious
  run := by
    intro s b s' rest hrun hI
    obtain ⟨a, s₁, hx', hf'⟩ := of_run_bind hrun
    exact (hf a).run rest hf' (hx.run rest hx' hI)

/-- Whatever else is held stays. -/
theorem frame (hx : Trades I x before after) (others : Multiset ρ) :
    Trades I x (before + others) (fun a => after a + others) where
  oblivious := hx.oblivious
  run := by
    intro s a s' rest hrun hI
    rw [add_assoc] at hI ⊢
    exact hx.run (others + rest) hrun hI

theorem of_eq (hx : Trades I x before after) (hbefore : before' = before)
    (hafter : ∀ a, after' a = after a) : Trades I x before' after' := by
  obtain rfl : after' = after := funext hafter
  exact hbefore ▸ hx

/-- A computation trades nothing; what follows may use that it succeeded. -/
theorem lift_bind {e : Except Fault α} (h : ∀ a, e = .ok a → Trades I (f a) before done) :
    Trades I ((liftM e : Action α) >>= f) before done := by
  cases e with
  | error fault =>
      exact ⟨fun _ _ _ => rfl, fun rest hrun => by cases hrun⟩
  | ok a => exact h a rfl

theorem limits : Trades I Action.limits before fun _ => before where
  oblivious := .limits
  run := by
    intro s a s' rest hrun hI
    cases hrun
    exact hI

theorem reportAll (notes : List Note) : Trades I (reportAll notes) before fun _ => before where
  oblivious := .perform _
  run := by
    intro s a s' rest hrun hI
    cases (run_reportAll notes s).symm.trans hrun
    simpa [Session.extend] using hI

theorem report (n : Note) : Trades I (report n) before fun _ => before :=
  reportAll [n]

theorem perform_append {a b : List Event} {between : Multiset ρ} {done : Unit → Multiset ρ}
    (ha : Trades I (perform a) before fun _ => between) (hb : Trades I (perform b) between done) :
    Trades I (perform (a ++ b)) before done := by
  rw [Action.perform_append]
  exact ha.bind fun _ => hb

/-- An operation of the device. -/
theorem onDevice {g : Device → α × Device}
    (hg : ∀ d, (g d.forget).1 = (g d).1 ∧ (g d.forget).2.forget = (g d).2.forget)
    (hI : ∀ d rest, I d (before + rest) → I (g d).2 (after (g d).1 + rest)) :
    Trades I (onDevice g) before after where
  oblivious := .onDevice hg
  run := by
    intro s a s' rest hrun h
    cases (run_onDevice g s).symm.trans hrun
    exact hI _ rest h

/-- One step after another, of which each trades what the one before it left. -/
theorem foldlM {step : β → α → Action β} (hstep : ∀ b a, Trades I (step b a) (done b) done)
    (l : List α) (b : β) : Trades I (l.foldlM step b) (done b) done := by
  induction l generalizing b with
  | nil => exact pure rfl
  | cons a rest ih =>
      rw [List.foldlM_cons]
      exact (hstep b a).bind fun b => ih b

/-- One result after another. -/
theorem mapM {f : α → Action β} (hf : ∀ a, Trades I (f a) 0 done) (l : List α) :
    Trades I (l.mapM f) 0 fun bs => (bs.map done).sum := by
  induction l with
  | nil => exact pure rfl
  | cons a rest ih =>
      rw [List.mapM_cons]
      refine bind (hf a) fun b => ?_
      refine bind ((ih.frame (done b)).of_eq (zero_add _).symm fun _ => rfl) fun bs => ?_
      exact pure (by rw [List.map_cons, List.sum_cons, add_comm])

end Trades

end Action

end MaterialPipeline
