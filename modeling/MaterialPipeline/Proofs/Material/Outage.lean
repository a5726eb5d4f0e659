import MaterialPipeline.Proofs.Material.Steps

/-!
# Proofs — Material — Outage

What is left of a library that was used while its device was lost.  A lost device compiles nothing,
so nothing is built on it, and a form that is asked for then remembers the failure.  The memory does
not tell this failure from others: it stays when the device comes back.

* `BuiltMaterial.error_of_lost`: nothing is built on a lost device.
* `Form.Failed`: a form that remembers a failure.
* `Library.Outlasted`: what is left of a library whose forms were fresh, by the references that were
asked for.  One more question keeps it (`Outlasted.ask`).
* `Library.Outlasted.answer`: what the library answers afterwards, on any device.
-/

namespace MaterialPipeline

open MaterialPipeline.Action

variable {s s' s₁ : Session}

/-! ### Builds on a lost device -/

namespace Packer

variable {p : Packer} {first : Layer} {layers : List Layer} {index : Nat}

theorem not_built_of_lost {pass : Pass} (hlost : s.device.lost = true)
    (hrun : (p.attempt first layers index).run s = .ok (.built pass, s')) : False := by
  obtain ⟨houtcome, -⟩ := of_run_attempt hrun
  unfold outcome at houtcome
  cases hv : p.verdict s.device.refusal index layers with
  | accepted =>
      obtain ⟨-, -, hcompiles⟩ := verdict_eq_accepted_iff.mp hv
      cases (Device.refusal_eq_none_iff.mp hcompiles).1.symm.trans hlost
  | empty =>
      rw [hv] at houtcome
      cases houtcome
  | overflow =>
      rw [hv] at houtcome
      dsimp only at houtcome
      split at houtcome <;> cases houtcome
  | refused error =>
      rw [hv] at houtcome
      dsimp only at houtcome
      split at houtcome <;> cases houtcome

theorem error_of_tryCounts_of_lost {counts : List Nat} {result : Except BuildError (Pass × Nat)}
    (hlost : s.device.lost = true)
    (hrun : (p.tryCounts first layers index counts).run s = .ok (result, s')) :
    ∃ error, result = .error error := by
  induction counts generalizing s with
  | nil =>
      cases hrun
      exact ⟨_, rfl⟩
  | cons count rest ih =>
      rw [tryCounts] at hrun
      obtain ⟨attempt, s₁, hattempt, hrun⟩ := of_run_bind hrun
      cases attempt with
      | built pass => exact (not_built_of_lost hlost hattempt).elim
      | fatal error =>
          cases hrun
          exact ⟨error, rfl⟩
      | retry =>
          have hlost₁ := ((p.mirrors_attempt _ _ _).answersLike hattempt).lost.trans hlost
          exact ih hlost₁ hrun

theorem error_of_buildPasses_of_lost {result : Except BuildError (List Pass)}
    (hlost : s.device.lost = true) (hrun : (p.buildPasses layers).run s = .ok (result, s')) :
    ∃ error, result = .error error := by
  cases layers with
  | nil =>
      cases hrun
      exact ⟨_, rfl⟩
  | cons first rest =>
      have hrun : (p.packFrom [] (first :: rest)).run s = .ok (result, s') := hrun
      rw [packFrom] at hrun
      obtain ⟨result, s₁, hpass, hrun⟩ := of_run_bind hrun
      obtain ⟨error, rfl⟩ := error_of_tryCounts_of_lost hlost hpass
      cases hrun
      exact ⟨error, rfl⟩

end Packer

/-- Nothing is built on a lost device. -/
theorem BuiltMaterial.error_of_lost {context : BuildContext} {m : Material} {format : VertexFormat}
    {variant : Option Variant} {result : Except MaterialError BuiltMaterial}
    (hlost : s.device.lost = true)
    (hrun : (build context m format variant).run s = .ok (result, s')) :
    ∃ error, result = .error error := by
  unfold build at hrun
  split at hrun
  · cases hrun
    exact ⟨_, rfl⟩
  next layers _ =>
    obtain ⟨_, s₁, hnotes, hrun⟩ := of_run_bind hrun
    obtain ⟨device, s₂, hlimits, hrun⟩ := of_run_bind hrun
    obtain ⟨_, s₃, hlimitNotes, hrun⟩ := of_run_bind hrun
    obtain ⟨passes, s₄, hpasses, hrun⟩ := of_run_bind hrun
    have h₁ := (Mirrors.perform _ []).answersLike hnotes
    have h₂ := Mirrors.limits.answersLike hlimits
    have h₃ := (Mirrors.perform _ []).answersLike hlimitNotes
    have hlost₃ : s₃.device.lost = true := ((h₁.trans h₂).trans h₃).lost.trans hlost
    obtain ⟨error, rfl⟩ := Packer.error_of_buildPasses_of_lost hlost₃ hpasses
    cases hrun
    exact ⟨_, rfl⟩

/-! ### Forms -/

namespace Form

variable {context : BuildContext} {f f' : Form} {ready : Bool}

/-- Nothing is built of the form, and a failure is remembered. -/
structure Failed (f : Form) : Prop where
  built : f.built = none
  error : f.error.isSome

/-- A form that is not built is not ready on a lost device, and remembers a failure then. -/
theorem Asks.of_lost (h : f.Asks context s ready f' s') (hlost : s.device.lost = true)
    (hf : f.Fresh ∨ f.Failed) : ready = false ∧ f'.Failed := by
  cases h with
  | built hbuilt =>
      have hnone : f.built = none := hf.elim Fresh.built Failed.built
      rw [hnone] at hbuilt
      cases hbuilt
  | failed hbuilt herror => exact ⟨rfl, hbuilt, herror⟩
  | builds _ hrun =>
      obtain ⟨_, herror⟩ := BuiltMaterial.error_of_lost hlost hrun
      cases herror
  | fails _ note _ => exact ⟨rfl, rfl, rfl⟩

end Form

/-! ### Libraries -/

namespace Library

variable {l l₁ l' : Library} {r r' : MaterialRef} {f : Form} {asked : Set MaterialRef}
  {found : Option (FormPlace × Form)}

/-- What is left of a reference to a library that was used on a lost device. -/
inductive Outlasted.Ref (l : Library) (asked : Set MaterialRef) (l' : Library) (r : MaterialRef) :
    Prop where
  /-- It was not asked for, or names nothing. -/
  | spared (hsame : l'.form? r = l.form? r) (hr : r ∈ asked → ∀ f, ¬ l.At (.own r) f) :
      Ref l asked l' r
  /-- Its form remembers a failure, and so does the stand-in, which was asked for instead. -/
  | failed {f : Form} (hr : r ∈ asked) (hf : l'.At (.own r) f) (hfailed : f.Failed)
      (hwarning : l'.warning.Failed) : Ref l asked l' r

/-- What is left of the library `l`, all of whose forms were fresh, after forms were asked for on a
lost device. -/
structure Outlasted (l : Library) (asked : Set MaterialRef) (l' : Library) : Prop where
  fresh : ∀ place f, l.At place f → f.Fresh
  context : l'.context = l.context
  own : ∀ r, Outlasted.Ref l asked l' r
  warning : l'.warning.Fresh ∨ l'.warning.Failed

namespace Outlasted

theorem refl (hfresh : ∀ place f, l.At place f → f.Fresh) : l.Outlasted ∅ l where
  fresh := hfresh
  context := rfl
  own _ := .spared rfl fun hr => absurd hr (Set.notMem_empty _)
  warning := .inl (hfresh .warning _ rfl)

/-- Nothing is built. -/
theorem fresh_or_failed (h : l.Outlasted asked l') (hf : l'.At (.own r) f) :
    f.Fresh ∨ f.Failed := by
  cases h.own r with
  | spared hsame _ => exact .inl (h.fresh (.own r) f (hsame.symm.trans hf))
  | failed _ hf' hfailed _ =>
      cases hf'.unique hf
      exact .inr hfailed

/-- **One more question.**  On a lost device nothing is given, and if there is a form, the failure
is remembered. -/
theorem ask (h : l.Outlasted asked l₁) (hlost : s.device.lost = true)
    (hrun : (l₁.renderable r).run s = .ok ((found, l'), s')) :
    found = none ∧ s'.device.lost = true ∧ l.Outlasted (insert r asked) l' := by
  obtain ⟨hform, rfl, rfl, rfl⟩ | ⟨f, f', hf, hensure, -, -⟩ |
    ⟨f, f', s₁, l₂, ready, w, hf, hensure, hset, hwarning, rfl, rfl⟩ := renderable_cases hrun
  · refine ⟨rfl, hlost, h.fresh, h.context, fun r' => ?_, h.warning⟩
    cases h.own r' with
    | failed hr hf hfailed hwarning => exact .failed (.inr hr) hf hfailed hwarning
    | spared hsame hnone =>
        refine .spared hsame ?_
        rintro (rfl | hr) f hf
        · cases hf.symm.trans (hsame.symm.trans hform)
        · exact hnone hr f hf
  · obtain ⟨hready, -⟩ := (Form.asks_of_run hensure).of_lost hlost (h.fresh_or_failed hf)
    cases hready
  · have hasks := Form.asks_of_run hensure
    have hlost₁ := hasks.answersLike.lost.trans hlost
    obtain ⟨-, hfailed⟩ := hasks.of_lost hlost (h.fresh_or_failed hf)
    rw [warning_setForm hset] at hwarning
    have hasks' := Form.asks_of_run hwarning
    obtain ⟨rfl, hwarningFailed⟩ := hasks'.of_lost hlost₁ h.warning
    obtain ⟨hf', hcontext⟩ := at_setForm hf hset
    refine ⟨rfl, hasks'.answersLike.lost.trans hlost₁, h.fresh, hcontext.trans h.context,
      fun r' => ?_, .inr hwarningFailed⟩
    by_cases hr : r' = r
    · subst hr
      exact .failed (.inl rfl) hf' hfailed hwarningFailed
    · -- The stand-in is not kept among the references.
      have hkept : l₂.form? r' = l₁.form? r' := form?_setForm_of_ne hf hset hr
      cases h.own r' with
      | spared hsame hnone =>
          exact .spared (hkept.trans hsame) fun hr' => hnone (hr'.resolve_left hr)
      | failed hr' hf hfailed _ => exact .failed (.inr hr') (hkept.trans hf) hfailed hwarningFailed

/-- Nothing is given for a reference that was asked for, wherever it is asked for again. -/
theorem answer_of_mem (h : l.Outlasted asked l') (hr : r ∈ asked) (hf : l.At (.own r) f)
    (t : Session) : (l'.renderable r).run t = .ok ((none, l'), t) := by
  cases h.own r with
  | spared _ hnone => exact absurd hf (hnone hr f)
  | failed _ hf' hfailed hwarning =>
      have hsettled : l'.Settled r none := by
        have hstandIn := Settled.standIn hf' hfailed.built hfailed.error
          (.inr ⟨hwarning.built, hwarning.error⟩)
        rwa [hwarning.built] at hstandIn
      exact hsettled.run t

/-- A form that was not asked for is given if it builds. -/
theorem answer_of_notMem {b : BuiltMaterial} (h : l.Outlasted asked l') (hr : r ∉ asked)
    (hf : l.At (.own r) f) (hrun : (f.construct l.context).run s = .ok (.ok b, s')) :
    ∃ l'', (l'.renderable r).run s = .ok ((some (.own r, f.withBuilt b), l''), s') := by
  cases h.own r with
  | failed hmem _ _ _ => exact absurd hmem hr
  | spared hsame _ =>
      have hf' : l'.At (.own r) f := hsame.trans hf
      obtain ⟨l'', hset, -⟩ := exists_setForm hf' (f.withBuilt b)
      have hensure := (h.fresh _ f hf).run_ensureBuilt_of_ok hrun
      refine ⟨l'', ?_⟩
      unfold renderable
      rw [run_lift_bind hf', h.context]
      refine (run_bind hensure).trans ?_
      exact (run_lift_bind hset).trans rfl

end Outlasted

end Library

end MaterialPipeline
