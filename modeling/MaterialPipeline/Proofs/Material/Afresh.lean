import MaterialPipeline.Proofs.Material.Asking
import MaterialPipeline.Proofs.Material.Configured
import MaterialPipeline.Proofs.Material.Contents

/-!
# Proofs — Material — Afresh

After everything built was forgotten, nothing is left of the past.  A form that is used then comes to
the same as the form of an instance that was never used, up to the numbers of what is on the device.

* `Form.SameOutcome`: two uses of a form come to the same.
* `Library.Rests`: the form that a reference names is not used.  It stays as a reset left it
(`Library.Rests.blank`).
* `Library.UsedAlike`: two uses of forms of two libraries come to the same.
* `Library.Rests.usedAlike`: a form after a flush, and a fresh one.
-/

namespace MaterialPipeline

open MaterialPipeline.Action

variable {s s' t t' : Session} {context : BuildContext}

/-! ### One form -/

namespace Form

variable {f f' g' : Form} {α : Type}

/-- Two uses of a form, on two devices, come to the same: the same fault, or the same answer, and
forms that show the same, with everything that they have numbers for on their devices. -/
inductive SameOutcome :
    Except Fault ((α × Form) × Session) → Except Fault ((α × Form) × Session) → Prop where
  | fault (fault : Fault) : SameOutcome (.error fault) (.error fault)
  | ok (a : α) {f g : Form} {s t : Session} (hshown : f.shown s.device = g.shown t.device)
      (hpresent : ∀ b ∈ f.built, b.Present s.device)
      (hpresent' : ∀ b ∈ g.built, b.Present t.device) :
      SameOutcome (.ok ((a, f), s)) (.ok ((a, g), t))

/-- Building a form comes to the same on devices that answer alike. -/
theorem sameOutcome_build (f : Form) (context : BuildContext)
    (hst : s.device.AnswersLike t.device) :
    SameOutcome ((f.build context).run s) ((f.build context).run t) := by
  have hends := mirrors_build (f := f) rfl context s t hst
  generalize hx : (f.build context).run s = x at hends ⊢
  generalize hy : (f.build context).run t = y at hends ⊢
  cases hends with
  | fault fault => exact .fault fault
  | @ok a a' s' t' hs ht halike =>
      obtain ⟨result, f'⟩ := a
      obtain ⟨result', g'⟩ := a'
      obtain ⟨rfl, hbare⟩ := halike
      cases buildsTo_of_run hx with
      | failed note hrun =>
          cases buildsTo_of_run hy with
          | failed note' hrun' =>
              have hnone (b : BuiltMaterial) (hb : b ∈ (none : Option BuiltMaterial)) :
                  False := Option.not_mem_none b hb
              refine .ok _ ?_ (fun b hb => (hnone b hb).elim) fun b hb => (hnone b hb).elim
              rw [shown_of_not_built rfl, shown_of_not_built rfl]
      | @built b _ hrun =>
          cases buildsTo_of_run hy with
          | @built b' _ hrun' =>
              have hlimits : (t.applyAll f.destruction).device.limits =
                  (s.applyAll f.destruction).device.limits :=
                ((t.answersLike_applyAll _).limits.trans hst.limits).trans
                  (s.answersLike_applyAll _).limits.symm
              have hb : b.bare = b'.bare := Option.some.inj (congrArg Form.built hbare)
              refine .ok _ ?_ ?_ ?_
              · rw [shown, shown, hbare]
                refine congrArg (Prod.mk _) ?_
                exact congrArg some (BuiltMaterial.contents_congr hlimits hrun hrun' hb)
              · rintro _ ⟨⟩
                exact BuiltMaterial.present_of_run_build hrun
              · rintro _ ⟨⟩
                exact BuiltMaterial.present_of_run_build hrun'

/-- Asking for a fresh form comes to the same on devices that answer alike. -/
theorem Fresh.sameOutcome_ensureBuilt (h : f.Fresh) (context : BuildContext)
    (hst : s.device.AnswersLike t.device) :
    SameOutcome ((f.ensureBuilt context).run s) ((f.ensureBuilt context).run t) := by
  have hbuild := f.sameOutcome_build context hst
  rw [h.ensureBuilt_eq]
  generalize hx : (f.build context).run s = x at hbuild
  generalize hy : (f.build context).run t = y at hbuild
  cases hbuild with
  | fault fault =>
      rw [run_bind_of_error hx, run_bind_of_error hy]
      exact .fault fault
  | ok result hshown hpresent hpresent' =>
      rw [run_bind hx, run_bind hy]
      exact .ok _ hshown hpresent hpresent'

end Form

namespace Library

variable {l l₁ l₂ l' k k₂ k' : Library} {r r' : MaterialRef} {f g : Form} {deed : Deed}

/-! ### Forms that are not used -/

/-- The form that `r` names is not used, from the one library to the other. -/
inductive Rests (r : MaterialRef) : Library → Library → Prop where
  | refl (l : Library) : Rests r l l
  | step {l l₁ l' : Library} {deed : Deed} (h : Rests r l l₁) (hstep : Step l₁ deed l')
      (huses : ¬ deed.Uses (.own r)) : Rests r l l'

/-- The form that `r` names, if there is one, is as a reset leaves it. -/
def Blank (l : Library) (r : MaterialRef) : Prop :=
  ∀ f, l.At (.own r) f → f.blank = f

/-- A form that is not used stays as a reset leaves it. -/
theorem Blank.follows (h : l.Blank r) (hfollows : Follows deed l l') (huses : ¬ deed.Uses (.own r)) :
    l'.Blank r := by
  intro f' hf'
  obtain ⟨i', hi', hof⟩ := form?_eq_some hf'
  have halike := hfollows.own r.id
  rw [hi'] at halike
  generalize hx : l.instance? r.id = x at halike
  cases halike with
  | ok hchange =>
      cases hchange with
      | same => exact h f' (at_own hx hof)
      | arrives hfresh =>
          rw [hfresh r.hook f' hof]
          rfl
      | becomes hbecomes =>
          have hform := hbecomes.forms r.hook
          rw [hof] at hform
          rcases hform.of_not_uses huses with hsame | ⟨f, -, rfl⟩ | rfl
          · exact h f' (at_own hx hsame)
          · rfl
          · rfl

theorem Rests.blank (hl : l.InUse) (h : l.Blank r) (hrests : Rests r l l') :
    l'.InUse ∧ l'.Blank r := by
  induction hrests with
  | refl => exact ⟨hl, h⟩
  | step _ hstep huses ih =>
      obtain ⟨hl₁, hblank⟩ := ih
      exact ⟨hl₁.step hstep, hblank.follows (hstep.follows hl₁.inForce.valid) huses⟩

/-- After everything was forgotten. -/
theorem blank_of_teardown (hstep : Step l .flush l' ∨ Step l .deviceLost l') : l'.Blank r := by
  have hblank : l' = l.blank := by
    rcases hstep with hstep | hstep
    · cases hstep with
      | flush hrun => exact l.yields_flush.eq hrun
    · cases hstep with
      | deviceLost hrun => exact l.yields_deviceLost.eq hrun
  subst hblank
  exact fun f hf => blank_of_at_blank hf

/-- After an instance was taken into use. -/
theorem blank_created (hl : l.InUse) (hroom : l.instances.cells.size < 2 ^ 32 - 1) (m : Material)
    (format : VertexFormat) (hook : Option Variant) :
    (l.created m format).2.Blank ⟨(l.created m format).1, hook⟩ := by
  intro f hf
  obtain ⟨i, hi, hof⟩ := form?_eq_some hf
  cases (instance?_created hl.inForce.valid hroom m format).symm.trans hi
  rw [Instance.fresh_attached_new _ m format hook f hof]
  rfl

/-! ### Two libraries -/

/-- Two uses of the forms that `r` and `r'` name, in two libraries on two devices, come to the same:
the same fault, or the same answer, and forms that show the same, with everything that they have
numbers for on their devices. -/
inductive UsedAlike {α : Type} (r r' : MaterialRef) :
    Except Fault ((α × Library) × Session) → Except Fault ((α × Library) × Session) → Prop where
  | fault (fault : Fault) : UsedAlike r r' (.error fault) (.error fault)
  | ok (a : α) {l k : Library} {f g : Form} {s t : Session} (hf : l.At (.own r) f)
      (hg : k.At (.own r') g) (hshown : f.shown s.device = g.shown t.device)
      (hpresent : ∀ b ∈ f.built, b.Present s.device)
      (hpresent' : ∀ b ∈ g.built, b.Present t.device) :
      UsedAlike r r' (.ok ((a, l), s)) (.ok ((a, k), t))

/-- Uses of two forms that come to the same do so in their libraries. -/
theorem usedAlike_of_sameOutcome {α β : Type} {x y : Action (α × Form)} {answer : α → β}
    (hf : l.At (.own r) f) (hg : k.At (.own r') g) (h : Form.SameOutcome (x.run s) (y.run t)) :
    UsedAlike r r'
      (StateT.run (do let (a, f) ← x; return (answer a, ← l.setForm (.own r) f)) s)
      (StateT.run (do let (a, g) ← y; return (answer a, ← k.setForm (.own r') g)) t) := by
  generalize hx : x.run s = p at h
  generalize hy : y.run t = q at h
  cases h with
  | fault fault =>
      rw [run_bind_of_error hx, run_bind_of_error hy]
      exact .fault fault
  | @ok a f' g' _ _ hshown hpresent hpresent' =>
      obtain ⟨l', hset, hf'⟩ := exists_setForm hf f'
      obtain ⟨k', hset', hg'⟩ := exists_setForm hg g'
      rw [run_bind hx, run_bind hy]
      dsimp only
      rw [run_lift_bind hset, run_lift_bind hset']
      exact .ok (answer a) hf' hg' hshown hpresent hpresent'

theorem usedAlike_buildForm (hf : l.At (.own r) f) (hg : k.At (.own r') f)
    (hcontext : k.context = l.context) (hst : s.device.AnswersLike t.device) :
    UsedAlike r r' ((l.buildForm r).run s) ((k.buildForm r').run t) := by
  unfold buildForm
  rw [run_lift_bind hf, run_lift_bind hg, hcontext]
  exact usedAlike_of_sameOutcome hf hg (f.sameOutcome_build l.context hst)

theorem usedAlike_ensureBuilt (hfresh : f.Fresh) (hf : l.At (.own r) f) (hg : k.At (.own r') f)
    (hcontext : k.context = l.context) (hst : s.device.AnswersLike t.device) :
    UsedAlike r r' ((l.ensureBuilt r).run s) ((k.ensureBuilt r').run t) := by
  unfold ensureBuilt
  rw [run_lift_bind hf, run_lift_bind hg, hcontext]
  exact usedAlike_of_sameOutcome hf hg (hfresh.sameOutcome_ensureBuilt l.context hst)

/-- Whether the form that is given is the one that was asked for. -/
def givesOwn (r : MaterialRef) (found : Option (FormPlace × Form)) : Bool :=
  found.map (·.1) == some (.own r)

/-- What asking for a reference does to the form that it names. -/
theorem ensureBuilt_of_renderable {found : Option (FormPlace × Form)} (hf : l.At (.own r) f)
    (hrun : (l.renderable r).run s = .ok ((found, l'), s')) :
    ∃ f' s₁, (f.ensureBuilt l.context).run s = .ok ((givesOwn r found, f'), s₁) ∧
      l'.At (.own r) f' ∧ if givesOwn r found then s' = s₁ else f'.built = none := by
  obtain ⟨hform, -⟩ | ⟨f₁, f', hf₁, hensure, hset, rfl⟩ |
    ⟨f₁, f', s₁, l₁, ready, w, hf₁, hensure, hset, -, rfl, rfl⟩ := renderable_cases hrun
  · cases hf.symm.trans hform
  · cases hf.unique hf₁
    have hown : givesOwn r (some (.own r, f')) = true := by simp [givesOwn]
    rw [hown]
    exact ⟨f', s', hensure, (at_setForm hf hset).1, rfl⟩
  · cases hf.unique hf₁
    have hown : givesOwn r (if ready = true then some (.warning, w) else none) = false := by
      cases ready <;> simp [givesOwn]
    rw [hown]
    refine ⟨f', s₁, hensure, (at_setForm hf hset).1, ?_⟩
    obtain ⟨⟨htrue, -⟩ | ⟨-, hbuilt, -⟩, -⟩ := Form.ensureBuilt_cases hensure
    · cases htrue
    · exact hbuilt

theorem usedAlike_renderable {found found' : Option (FormPlace × Form)} (hfresh : f.Fresh)
    (hf : l.At (.own r) f) (hg : k.At (.own r') f) (hcontext : k.context = l.context)
    (hst : s.device.AnswersLike t.device)
    (hrun : (l.renderable r).run s = .ok ((found, l'), s'))
    (hrun' : (k.renderable r').run t = .ok ((found', k'), t')) :
    UsedAlike r r' (.ok ((givesOwn r found, l'), s')) (.ok ((givesOwn r' found', k'), t')) := by
  obtain ⟨f', s₁, hensure, hf', hthen⟩ := ensureBuilt_of_renderable hf hrun
  obtain ⟨g', t₁, hensure', hg', hthen'⟩ := ensureBuilt_of_renderable hg hrun'
  have hsame := hfresh.sameOutcome_ensureBuilt l.context hst
  rw [hcontext] at hensure'
  rw [hensure, hensure'] at hsame
  generalize givesOwn r found = ready at hthen hsame ⊢
  generalize givesOwn r' found' = ready' at hthen' hsame ⊢
  cases hsame with
  | ok _ hshown hpresent hpresent' =>
      cases ready with
      | true =>
          obtain rfl : s' = s₁ := hthen
          obtain rfl : t' = t₁ := hthen'
          exact .ok true hf' hg' hshown hpresent hpresent'
      | false =>
          -- Nothing is built, so it does not matter what is done with the stand-in.
          have hnone : f'.built = none := hthen
          have hnone' : g'.built = none := hthen'
          refine .ok false hf' hg' ?_ (by simp [hnone]) (by simp [hnone'])
          rw [Form.shown_of_not_built hnone, Form.shown_of_not_built hnone'] at hshown ⊢
          exact hshown

/-- **Nothing is left of the past.**  After a flush or the loss of the device, and whatever happens
until the form that `r` names is used again, this form is the one that a fresh instance of the same
material and format has for the same purpose.  When the two are used, on devices that answer alike,
they come to the same: the same fault, the same error, or passes and textures that are the same, up
to the numbers that they have on their devices. -/
theorem InUse.usedAlike {m : Material} {format : VertexFormat}
    {subject : Material × VertexFormat × Option Variant}
    (hl : l.InUse) (hteardown : Step l .flush l₁ ∨ Step l .deviceLost l₁) (hrests : Rests r l₁ l₂)
    (hk : k.InUse) (hroom : k.instances.cells.size < 2 ^ 32 - 1)
    (hr' : r' = ⟨(k.created m format).1, r.hook⟩) (hrests' : Rests r' (k.created m format).2 k₂)
    (hcontext : k₂.context = l₂.context) (hf : l₂.At (.own r) f) (hg : k₂.At (.own r') g)
    (hsubject : l₂.Subject (.own r) subject) (hsubject' : k₂.Subject (.own r') subject) :
    g = f ∧ ∀ s t : Session, s.device.AnswersLike t.device →
      UsedAlike r r' ((l₂.ensureBuilt r).run s) ((k₂.ensureBuilt r').run t) ∧
      UsedAlike r r' ((l₂.buildForm r).run s) ((k₂.buildForm r').run t) ∧
      ∀ found l' s' found' k' t', (l₂.renderable r).run s = .ok ((found, l'), s') →
        (k₂.renderable r').run t = .ok ((found', k'), t') →
        UsedAlike r r' (.ok ((givesOwn r found, l'), s')) (.ok ((givesOwn r' found', k'), t')) := by
  have hl₁ : l₁.InUse := hteardown.elim (hl.step ·) (hl.step ·)
  obtain ⟨hl₂, hblank⟩ := hrests.blank hl₁ (blank_of_teardown hteardown)
  have hblank' : (k.created m format).2.Blank r' := hr' ▸ blank_created hk hroom m format r.hook
  obtain ⟨hk₂, hblank'⟩ := hrests'.blank (hk.created m format) hblank'
  have hsame : g = f := by
    refine Form.eq_of_blank_eq (hblank' g hg) (hblank f hf) ?_ ?_
    · exact (hsubject'.unique (hk₂.inForce.subject_at hg)).trans
        (hsubject.unique (hl₂.inForce.subject_at hf)).symm
    · rw [hk₂.inForce.isHook_at hg, hl₂.inForce.isHook_at hf, hr']
  subst hsame
  have hfresh := Form.fresh_of_blank_eq (hblank g hf)
  exact ⟨rfl, fun s t hst => ⟨usedAlike_ensureBuilt hfresh hf hg hcontext hst,
    usedAlike_buildForm hf hg hcontext hst, fun _ _ _ _ _ _ hrun hrun' =>
      usedAlike_renderable hfresh hf hg hcontext hst hrun hrun'⟩⟩

/-- A stone that was asked for while the device was lost, flushed, and a stone that nothing was done
with. -/
theorem usedAlike_of_rock : ∃ (l k : Library) (f : Form), l.InUse ∧ k.InUse ∧ Step l .flush l.blank ∧
    l.blank.At (.own ⟨.new 0 0, none⟩) f ∧ k.At (.own ⟨.new 0 0, none⟩) f ∧
      UsedAlike ⟨.new 0 0, none⟩ ⟨.new 0 0, none⟩
        ((l.blank.ensureBuilt ⟨.new 0 0, none⟩).run {}) ((k.ensureBuilt ⟨.new 0 0, none⟩).run {}) := by
  let m : Material := { name := "rock", stages := [.diffuse "a.png"] }
  obtain ⟨l₀, s₀, hnew⟩ := exists_run_new {} {}
  obtain ⟨hcontext, -, -⟩ := of_run_new hnew
  have hl₀ : InUse l₀ := .new hnew
  obtain ⟨hroom, hid, hi⟩ := created_new hnew m .positionNormalUv
  have hk := hl₀.created m .positionNormalUv
  have hr : (l₀.created m .positionNormalUv).2.context.registry = .builtin :=
    congrArg BuildContext.registry hcontext
  have hg := at_own (v := none) hi rfl
  obtain ⟨found, l, s, hrun⟩ := exists_run_renderable (r := ⟨.new 0 0, none⟩) hr
    (show Slot.position (.new 0 0) = .ok 0 from rfl) { device := { lost := true } }
  have hl : l.InUse := hk.step (.ask hrun)
  obtain ⟨ready, f, s₁, hasks, hf, -⟩ := (answers_of_run hrun).asks _ hg
  have hat : l.blank.At (.own ⟨.new 0 0, none⟩) f.blank := hf.blank
  obtain ⟨s', hflush⟩ := l.yields_flush {}
  have hstep : Step l .flush l.blank := .flush hflush
  have hsubject : l.blank.Subject (.own ⟨.new 0 0, none⟩) (m, .positionNormalUv, none) := by
    have hsubject := (hl.step hstep).inForce.subject_at hat
    have hsame : f.blank.subject = (m, .positionNormalUv, none) := by
      cases hasks <;> rfl
    rwa [hsame] at hsubject
  have hsubject' := hk.inForce.subject_at hg
  have hr' : (⟨.new 0 0, none⟩ : MaterialRef) = ⟨(l₀.created m .positionNormalUv).1, none⟩ := by
    rw [hid]
  obtain ⟨hsame, huses⟩ := InUse.usedAlike hl (.inl hstep) (.refl _) hl₀ hroom hr' (.refl _)
    (context_renderable hrun).symm hat hg hsubject hsubject'
  exact ⟨l, _, f.blank, hl, hk, hstep, hat, hsame ▸ hg, (huses {} {} (.refl _)).1⟩

end Library

end MaterialPipeline
