import MaterialPipeline.Proofs.Material.Asking
import MaterialPipeline.Proofs.Material.Tenants

/-!
# Proofs — Material — Lending

What a library lends out to draw with, from the first time that it is asked to the time that something
is torn down.  A form that was tried stays as it is, and so does the stand-in: what was lent for a
reference is still what would be lent for it, and the library can tell why.

* `Form.Told`: what a form holds, or the error that it remembers, is what a build came to.
* `Library.Follows.holds`, `Library.InUse.holds`: what holds of fresh forms and is kept by use, holds
of every form in use.
* `Library.Continues`: forms were asked for and drawn, and nothing else was done.
* `Library.Lends`: the form of a reference, or the stand-in where that failed.
* `Library.Renders`: the same, with what it was built of.
-/

namespace MaterialPipeline

open MaterialPipeline.Action

variable {s s' : Session} {context : BuildContext}

/-! ### What builds came to -/

/-- A build of the material came to the result. -/
def BuildContext.Came (context : BuildContext) (m : Material) (format : VertexFormat)
    (variant : Option Variant) (result : Except MaterialError BuiltMaterial) : Prop :=
  ∃ s s', (BuiltMaterial.build context m format variant).run s = .ok (result, s')

namespace Form

variable {f f' fresh : Form} {x x' : Option Form} {tears uses : Prop}

/-- What the form holds, or the error that it remembers, is what a build came to under `context`. -/
structure Told (context : BuildContext) (f : Form) : Prop where
  built : ∀ b ∈ f.built, context.Came f.material f.format f.variant (.ok b)
  error : ∀ e ∈ f.error, context.Came f.material f.format f.variant (.error e)

theorem Fresh.told (h : f.Fresh) (context : BuildContext) : f.Told context where
  built b hb := absurd (h.built ▸ hb) (Option.not_mem_none b)
  error e he := absurd (h.error ▸ he) (Option.not_mem_none e)

theorem told_withBuilt {b : BuiltMaterial}
    (hrun : (f.construct context).run s = .ok (.ok b, s')) : (f.withBuilt b).Told context where
  built := by
    rintro _ ⟨⟩
    exact ⟨s, s', hrun⟩
  error e he := absurd he (Option.not_mem_none e)

theorem told_withError {error : MaterialError}
    (hrun : (f.construct context).run s = .ok (.error error, s')) :
    (f.withError error).Told context where
  built b hb := absurd hb (Option.not_mem_none b)
  error := by
    rintro _ ⟨⟩
    exact ⟨s, s', hrun⟩

theorem Told.used (hf : f.Told context) (h : f.Used context f') : f'.Told context := by
  induction h with
  | build hrun =>
      cases buildsTo_of_run hrun with
      | built hconstruct => exact told_withBuilt hconstruct
      | failed note hconstruct => exact told_withError hconstruct
  | ensureBuilt hrun =>
      cases asks_of_run hrun with
      | built _ => exact hf
      | failed _ _ => exact hf
      | builds _ hconstruct => exact told_withBuilt hconstruct
      | fails _ note hconstruct => exact told_withError hconstruct
  | proceed f current => exact ⟨hf.built, hf.error⟩
  | trans _ _ ih ih' => exact ih' (ih hf)

/-- What holds of fresh forms and is kept by use, holds of what becomes of a form. -/
theorem Change.holds {Q : Form → Prop} (hQ : ∀ f : Form, f.Fresh → Q f)
    (hused : ∀ f f', Q f → f.Used context f' → Q f') (hfresh : fresh.Fresh)
    (h : Change context tears uses fresh x x') (hx : ∀ f ∈ x, Q f) : ∀ f ∈ x', Q f := by
  intro f' hf'
  cases h with
  | same => exact hx f' hf'
  | used _ h =>
      obtain rfl := Option.mem_some.mp hf'
      exact hused _ _ (hx _ rfl) h
  | reset _ =>
      obtain rfl := Option.mem_some.mp hf'
      exact hQ _ (fresh_blank _)
  | gone _ => cases hf'
  | hung _ =>
      obtain rfl := Option.mem_some.mp hf'
      exact hQ _ hfresh

end Form

namespace Library

variable {l l₁ l' : Library} {r : MaterialRef} {place : FormPlace} {f f' : Form} {deed : Deed}
  {found : Option (FormPlace × Form)} {b : BuiltMaterial}

section Holds

variable {Q : BuildContext → Form → Prop} (hQ : ∀ context (f : Form), f.Fresh → Q context f)
  (hused : ∀ context (f f' : Form), Q context f → f.Used context f' → Q context f')

include hQ hused

theorem Follows.holds (h : Follows deed l l') (hl : ∀ place f, l.At place f → Q l.context f)
    (hf : l'.At place f) : Q l'.context f := by
  rcases h.context with hcontext | hfresh
  · rw [hcontext]
    cases place with
    | warning =>
        exact h.warning.holds (hQ _) (hused _) (Form.fresh_blank _)
          (fun g hg => hl .warning g (Option.mem_some.mp hg)) f (congrArg some hf)
    | own r =>
        obtain ⟨i', hi', hof⟩ := form?_eq_some hf
        have halike := h.own r.id
        rw [hi'] at halike
        generalize hx : l.instance? r.id = x at halike
        cases halike with
        | ok hchange =>
            cases hchange with
            | same => exact hl (.own r) f (at_own hx hof)
            | arrives hfresh => exact hQ _ f (hfresh r.hook f hof ▸ i'.fresh_freshForm r.hook)
            | @becomes i _ hbecomes =>
                exact (hbecomes.forms r.hook).holds (hQ _) (hused _) (i.fresh_freshForm r.hook)
                  (fun g hg => hl (.own r) g (at_own hx hg)) f hof
  · -- What was in force is so no more, but all forms are fresh.
    exact hQ _ f (hfresh place f hf)

/-- **What holds of every form in use**: what holds of fresh forms, and is kept by use. -/
theorem InUse.holds (h : l.InUse) (hf : l.At place f) : Q l.context f := by
  induction h generalizing place f with
  | @new _ _ l _ _ hrun =>
      obtain ⟨hcontext, hinstances, hform⟩ := of_run_new hrun
      cases place with
      | warning =>
          cases hf
          rw [hcontext]
          exact hused _ _ _ (hQ _ _ ⟨rfl, rfl⟩) hform
      | own r =>
          obtain ⟨i, hi, -⟩ := form?_eq_some hf
          rw [instance?, hinstances] at hi
          obtain ⟨n, hlocate⟩ := SlotSet.locate_of_find hi
          obtain ⟨_, cell, -, -, hcell, -⟩ := SlotSet.locate_eq_some hlocate
          cases hcell
  | step h hstep ih =>
      exact (hstep.follows h.inForce.valid).holds hQ hused (fun _ _ hg => ih hg) hf

end Holds

/-- Every form in use tells of builds that took place. -/
theorem InUse.told (h : l.InUse) (hf : l.At place f) : f.Told l.context :=
  h.holds (fun _ _ hfresh => hfresh.told _) (fun _ _ _ htold hused => htold.used hused) hf

/-! ### Nothing is forgotten -/

/-- What was tried stays as it is, and what was missing is missing still. -/
structure Remembers (l l' : Library) : Prop where
  missing : ∀ r, l.form? r = .ok none → l'.form? r = .ok none
  tried : ∀ place f, l.At place f → f.Tried →
    ∃ f', l'.At place f' ∧ f'.built = f.built ∧ f'.error = f.error

namespace Remembers

theorem refl (l : Library) : l.Remembers l :=
  ⟨fun _ h => h, fun _ f hf _ => ⟨f, hf, rfl, rfl⟩⟩

theorem trans (h : l.Remembers l₁) (h' : l₁.Remembers l') : l.Remembers l' where
  missing r hr := h'.missing r (h.missing r hr)
  tried place f hf htried := by
    obtain ⟨f₁, hf₁, hbuilt, herror⟩ := h.tried place f hf htried
    have htried₁ : f₁.Tried := by
      rw [Form.Tried, hbuilt, herror]
      exact htried
    obtain ⟨f', hf', hbuilt', herror'⟩ := h'.tried place f₁ hf₁ htried₁
    exact ⟨f', hf', hbuilt'.trans hbuilt, herror'.trans herror⟩

theorem ask (hrun : (l.renderable r).run s = .ok ((found, l'), s')) : l.Remembers l' where
  missing r hr := (tried_of_renderable hrun).1 none hr fun _ hf => absurd hf (Option.not_mem_none _)
  tried place f hf htried := by
    cases place with
    | warning =>
        cases hf
        exact ⟨_, (tried_of_renderable (r := r) hrun).2 htried, rfl, rfl⟩
    | own r =>
        exact ⟨f, (tried_of_renderable hrun).1 (some f) hf (by rintro _ ⟨⟩; exact htried), rfl, rfl⟩

/-- The passes of a form were gone through. -/
theorem proceed {current : Option Nat} (hf : l.At place f)
    (hset : l.setForm place { f with current := current } = .ok l') : l.Remembers l' := by
  cases place with
  | warning =>
      cases hf
      cases hset
      refine ⟨fun _ h => h, fun place g hg _ => ?_⟩
      cases place with
      | warning =>
          cases hg
          exact ⟨_, rfl, rfl, rfl⟩
      | own r => exact ⟨g, hg, rfl, rfl⟩
  | own r' =>
      refine ⟨fun r hr => ?_, fun place g hg _ => ?_⟩
      · rcases form?_setForm hf hset r with hsame | ⟨hold, -⟩
        · exact hsame.trans hr
        · cases hr.symm.trans hold
      · cases place with
        | warning => exact ⟨g, (warning_setForm hset).trans hg, rfl, rfl⟩
        | own r =>
            rcases form?_setForm hf hset r with hsame | ⟨hold, hnew⟩
            · exact ⟨g, hsame.trans hg, rfl, rfl⟩
            · cases hg.symm.trans hold
              exact ⟨_, hnew, rfl, rfl⟩

end Remembers

/-- Some forms were asked for, and passes were gone through.  The library is in use, every instance
stands for what it stood for, and nothing that was tried is forgotten. -/
structure Continues (l l' : Library) : Prop where
  inUse : l'.InUse
  context : l'.context = l.context
  retains : l.Retains l'
  remembers : l.Remembers l'

namespace Continues

theorem refl (hl : l.InUse) : l.Continues l :=
  ⟨hl, rfl, .refl l, .refl l⟩

theorem trans (h : l.Continues l₁) (h' : l₁.Continues l') : l.Continues l' where
  inUse := h'.inUse
  context := h'.context.trans h.context
  retains := h.retains.trans h'.retains
  remembers := h.remembers.trans h'.remembers

theorem ask (hl : l.InUse) (hrun : (l.renderable r).run s = .ok ((found, l'), s')) :
    l.Continues l' where
  inUse := hl.step (.ask hrun)
  context := context_renderable hrun
  retains := retains_renderable hl.inForce.valid hrun
  remembers := .ask hrun

theorem proceed {current : Option Nat} (hl : l.InUse) (hf : l.At place f)
    (hset : l.setForm place { f with current := current } = .ok l') : l.Continues l' := by
  have hstep : Step l (.handle place) l' := .handle hf (.proceed f current) hset
  exact {
    inUse := hl.step hstep
    context := (at_setForm hf hset).2
    retains := (hstep.follows hl.inForce.valid).retains (layout_setForm hf hset)
    remembers := .proceed hf hset }

/-- An instance that is there now was there before, and stood for the same. -/
theorem exists_instance {id : Slot} {i' : Instance} (h : l.Continues l')
    (hi' : l'.instance? id = .ok (some i')) :
    ∃ i, l.instance? id = .ok (some i) ∧ i'.form.subject = i.form.subject := by
  have hsome : (l'.instance? id).map Option.isSome = (l.instance? id).map Option.isSome :=
    SlotSet.isSome_find_of_layout h.retains.layout id
  rw [hi'] at hsome
  cases hx : l.instance? id with
  | error fault =>
      rw [hx] at hsome
      cases hsome
  | ok x =>
      rw [hx] at hsome
      cases x with
      | none => cases hsome
      | some i =>
          obtain ⟨i'', hi'', hsubject⟩ := h.retains.subject id i hx
          cases hi'.symm.trans hi''
          exact ⟨i, rfl, hsubject⟩

end Continues

/-! ### What is lent -/

/-- What is lent to draw a reference with: its own form as it is built, or the stand-in if the form
failed. -/
inductive Lends (l : Library) (r : MaterialRef) : BuiltMaterial → Prop where
  | own {f : Form} {b : BuiltMaterial} (hf : l.At (.own r) f) (hb : f.built = some b) :
      Lends l r b
  | standIn {f : Form} {b : BuiltMaterial} {error : MaterialError} (hf : l.At (.own r) f)
      (hbuilt : f.built = none) (herror : f.error = some error)
      (hb : l.warning.built = some b) : Lends l r b

theorem lends_of_renderable (hrun : (l.renderable r).run s = .ok ((found, l'), s'))
    (hb : found.bind (·.2.built) = some b) : l'.Lends r b := by
  cases settled_of_renderable hrun with
  | missing _ => cases hb
  | own hf _ => exact .own hf hb
  | standIn hf hbuilt herror _ =>
      obtain ⟨error, herror⟩ := Option.isSome_iff_exists.mp herror
      split at hb
      · exact .standIn hf hbuilt herror hb
      · cases hb

theorem Lends.remembers (h : l.Lends r b) (hl : l.Remembers l') : l'.Lends r b := by
  cases h with
  | own hf hb =>
      obtain ⟨f', hf', hbuilt, -⟩ := hl.tried _ _ hf (.inl (hb ▸ rfl))
      exact .own hf' (hbuilt.trans hb)
  | standIn hf hbuilt herror hb =>
      obtain ⟨f', hf', hbuilt', herror'⟩ := hl.tried _ _ hf (.inr ⟨hbuilt, herror ▸ rfl⟩)
      obtain ⟨w, hw, hwarning, -⟩ := hl.tried .warning _ rfl (.inl (hb ▸ rfl))
      cases hw
      exact .standIn hf' (hbuilt'.trans hbuilt) (herror'.trans herror) (hwarning.trans hb)

/-- What a reference is drawn with, by a library that is `l` before and `l'` afterwards: what is
built of the instance, for the hook that is named; or what is built of the stand-in, if a build for
the hook came to an error. -/
inductive Renders (l l' : Library) (r : MaterialRef) : BuiltMaterial → Prop where
  | own {i : Instance} {f : Form} {b : BuiltMaterial} (hi : l.instance? r.id = .ok (some i))
      (hf : l'.At (.own r) f) (hb : f.built = some b)
      (hcame : l.context.Came i.form.material i.form.format r.hook (.ok b)) : Renders l l' r b
  | standIn {i : Instance} {f : Form} {b : BuiltMaterial} {error : MaterialError}
      (hi : l.instance? r.id = .ok (some i)) (hf : l'.At (.own r) f) (hbuilt : f.built = none)
      (herror : f.error = some error)
      (hcame : l.context.Came i.form.material i.form.format r.hook (.error error))
      (hb : l'.warning.built = some b)
      (hstandIn : l.context.Came .warning .positionNormalUv none (.ok b)) : Renders l l' r b

/-- The form of a reference stands for the instance behind the handle. -/
theorem InUse.came {i : Instance} {result : Except MaterialError BuiltMaterial} (hl : l.InUse)
    (hi : l.instance? r.id = .ok (some i)) (hf : l.At (.own r) f)
    (hcame : l.context.Came f.material f.format f.variant result) :
    l.context.Came i.form.material i.form.format r.hook result := by
  injection (hl.inForce.subject_at hf).unique (.own hi) with hmaterial hsame
  injection hsame with hformat hvariant
  rwa [hmaterial, hformat, hvariant]

/-- **What is lent was built of the instance that is named**, or stands in for what failed. -/
theorem Lends.renders (h : l'.Lends r b) (hl : l.Continues l') : l.Renders l' r b := by
  have hown {f : Form} {result : Except MaterialError BuiltMaterial} (hf : l'.At (.own r) f)
      (hcame : l'.context.Came f.material f.format f.variant result) : ∃ i,
      l.instance? r.id = .ok (some i) ∧
        l.context.Came i.form.material i.form.format r.hook result := by
    obtain ⟨i', hi', -⟩ := form?_eq_some hf
    have hcame' := hl.inUse.came hi' hf hcame
    obtain ⟨i, hi, hsubject⟩ := hl.exists_instance hi'
    injection hsubject with hmaterial hsame
    injection hsame with hformat
    rw [hl.context, hmaterial, hformat] at hcame'
    exact ⟨i, hi, hcame'⟩
  cases h with
  | own hf hb =>
      obtain ⟨i, hi, hcame⟩ := hown hf ((hl.inUse.told hf).built b hb)
      exact .own hi hf hb hcame
  | standIn hf hbuilt herror hb =>
      obtain ⟨i, hi, hcame⟩ := hown hf ((hl.inUse.told hf).error _ herror)
      have hwarning : l'.At .warning l'.warning := rfl
      have hstandIn := (hl.inUse.told hwarning).built b hb
      injection hl.inUse.inForce.subject with hmaterial hsame
      injection hsame with hformat hvariant
      rw [hmaterial, hformat, hvariant, hl.context] at hstandIn
      exact .standIn hi hf hbuilt herror hcame hb hstandIn

/-- What is drawn with something was there to be drawn. -/
theorem Renders.not_missing (h : l.Renders l' r b) (hl : l.Continues l') : ¬ l.Missing r := by
  intro hmissing
  have hmissing' := hl.remembers.missing r (missing_iff.mp hmissing)
  cases h with
  | own _ hf => cases hf.symm.trans hmissing'
  | standIn _ hf => cases hf.symm.trans hmissing'

end Library

end MaterialPipeline
