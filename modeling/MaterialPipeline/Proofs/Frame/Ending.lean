import MaterialPipeline.Proofs.Frame.Handles
import MaterialPipeline.Proofs.Material.Answers
import MaterialPipeline.Proofs.Material.Trials

/-!
# Proofs — Frame — Ending

A frame ends, whatever the device does and whatever was built or failed so far.  If the handles of the
elements resolve, and the handles of their materials name positions, stale or not, there is nothing to
stop for but a form that costs more than 32 bits hold.

* `Library.Affords`: 32 bits hold the costs.  A frame keeps it so.
* `DrawAction.Ends`: an effect of drawing ends, unless costs are too high; closed under sequencing.
* `Pipeline.Listed.ends_render`: a frame ends.
-/

namespace MaterialPipeline

open MaterialPipeline.Action

variable {scene : Scene} {kind : BinKind} {material : MaterialRef} {objects : List Submission}
  {arena : FrameArena Submission} {s s' : Session}

/-! ### Libraries that afford their forms -/

namespace Library

variable {l l' : Library} {r : MaterialRef} {place : FormPlace} {f f' : Form}
  {found : Option (FormPlace × Form)}

/-- 32 bits hold what the features of each form cost. -/
def Affords (l : Library) : Prop :=
  ∀ place f, l.At place f → f.Counts l.context

theorem affords_builtin (hr : l.context.registry = .builtin) : l.Affords :=
  fun _ f _ => f.counts_builtin hr

/-- A form costs what it stands for. -/
theorem Affords.setForm (h : l.Affords) (hf : l.At place f) (hsubject : f'.subject = f.subject)
    (hset : l.setForm place f' = .ok l') : l'.Affords := by
  have hcontext := (at_setForm hf hset).2
  have hcounts : f'.Counts l.context := by
    injection hsubject with hmaterial hsubject
    injection hsubject with hformat hvariant
    unfold Form.Counts
    rw [hmaterial, hformat, hvariant]
    exact h place f hf
  intro place' g hg
  rw [hcontext]
  cases place with
  | warning =>
      cases hset
      cases place' with
      | warning => exact hg ▸ hcounts
      | own r => exact h (.own r) g hg
  | own r =>
      cases place' with
      | warning => exact h .warning g ((warning_setForm hset).symm.trans hg)
      | own r' =>
          rcases form?_setForm hf hset r' with hsame | ⟨-, hnew⟩
          · exact h (.own r') g (hsame.symm.trans hg)
          · cases hnew.symm.trans hg
            exact hcounts

theorem Affords.renderable (h : l.Affords)
    (hrun : (l.renderable r).run s = .ok ((found, l'), s')) : l'.Affords := by
  have hown {f f' : Form} {l₁ : Library} {ready : Bool} {s₁ : Session} (hf : l.At (.own r) f)
      (hensure : (f.ensureBuilt l.context).run s = .ok ((ready, f'), s₁))
      (hset : l.setForm (.own r) f' = .ok l₁) : l₁.Affords :=
    h.setForm hf (Form.Used.ensureBuilt hensure).subject_eq hset
  obtain ⟨-, -, rfl, -⟩ | ⟨f, f', hf, hensure, hset, -⟩ |
    ⟨f, f', _, l₁, ready, w, hf, hensure, hset, hwarning, rfl, -⟩ := renderable_cases hrun
  · exact h
  · exact hown hf hensure hset
  · have hat : l₁.At .warning l₁.warning := rfl
    exact (hown hf hensure hset).setForm hat (Form.Used.ensureBuilt hwarning).subject_eq rfl

end Library

/-! ### Effects that end -/

/-- The effect ends, and the library affords its forms if it did; or it stops for a cost that the
library does not afford. -/
def DrawAction.Ends {α : Type} (x : DrawAction α) : Prop :=
  ∀ (d : Drawing) (s : Session),
    (∃ a d' s', (x.run d).run s = .ok ((a, d'), s') ∧
      (d.library.Affords → d'.library.Affords)) ∨
    ¬ d.library.Affords ∧ (x.run d).run s = .error .addOverflow

namespace DrawAction.Ends

variable {α β : Type}

theorem pure (a : α) : Ends (Pure.pure a : DrawAction α) :=
  fun d s => .inl ⟨a, d, s, rfl, id⟩

theorem bind {x : DrawAction α} {f : α → DrawAction β} (hx : Ends x) (hf : ∀ a, Ends (f a)) :
    Ends (x >>= f) := by
  intro d s
  rcases hx d s with ⟨a, d₁, s₁, hrun, hkeeps⟩ | ⟨hd, hrun⟩
  · rw [runs_bind hrun]
    rcases hf a d₁ s₁ with ⟨b, d', s', hrun', hkeeps'⟩ | ⟨hd₁, hrun'⟩
    · exact .inl ⟨b, d', s', hrun', hkeeps' ∘ hkeeps⟩
    · exact .inr ⟨hd₁ ∘ hkeeps, hrun'⟩
  · exact .inr ⟨hd, runs_bind_of_error hrun⟩

/-- An action that stops for nothing ends. -/
theorem lift {x : Action α} (hx : Action.StopsFor (fun _ => False) x) :
    Ends (liftM x : DrawAction α) := by
  intro d s
  cases hrun : x.run s with
  | error fault => exact (hx s fault hrun).elim
  | ok r =>
      refine .inl ⟨r.1, d, r.2, ?_, id⟩
      show StateT.run (x >>= fun a => Pure.pure (a, d)) s = _
      exact run_bind hrun

/-- A computation that succeeds, and what follows. -/
theorem lift_bind {x : Except Fault α} {f : α → DrawAction β} {a : α} (hx : x = .ok a)
    (hf : Ends (f a)) : Ends ((liftM x : DrawAction α) >>= f) := by
  subst hx
  exact hf

theorem mapM {f : α → DrawAction β} {l : List α} (hf : ∀ a ∈ l, Ends (f a)) :
    Ends (l.mapM f) := by
  induction l with
  | nil => exact pure _
  | cons a rest ih =>
      obtain ⟨ha, hrest⟩ := List.forall_mem_cons.mp hf
      rw [List.mapM_cons]
      exact ha.bind fun b => (ih hrest).bind fun bs => pure (b :: bs)

end DrawAction.Ends

/-- Drawing with a material ends, also if the handle is stale or nothing can be built. -/
theorem ends_drawBatch (hposition : ∃ position, material.id.position = .ok position) :
    DrawAction.Ends (drawBatch scene kind material objects) := by
  intro d s
  obtain ⟨position, hposition⟩ := hposition
  cases hfound : (d.library.renderable material).run s with
  | error fault =>
      have hresolves : StopsFor CostFault material.id.position := hposition ▸ .ok position
      cases d.library.stopsFor_renderable_of_position hresolves (fun _ => id) s fault hfound
      refine .inr ⟨fun hd => ?_, drawBatch_of_error hfound⟩
      obtain ⟨found, library, s₁, hfound'⟩ := Library.exists_run_of_counts hposition
        (fun f hf => hd _ f hf) (hd .warning _ rfl) s
      cases hfound.symm.trans hfound'
  | ok r =>
      obtain ⟨⟨found, library⟩, s₁⟩ := r
      obtain ⟨library', hrewound, hrun⟩ := run_drawBatch scene kind objects hfound
      refine .inl ⟨(), _, _, hrun, fun hd => ?_⟩
      have hlibrary := hd.renderable hfound
      cases found with
      | none =>
          cases hrewound
          exact hlibrary
      | some found =>
          obtain ⟨place, form⟩ := found
          have hsubject : Form.subject { form with current := none } = form.subject := rfl
          exact hlibrary.setForm (Library.at_of_renderable hfound).1 hsubject hrewound

theorem ends_drawDelegate (delegate : Delegate) (o : Submission) :
    DrawAction.Ends (drawDelegate delegate o) :=
  fun _ _ => .inl ⟨(), _, _, rfl, id⟩

/-! ### Bins -/

namespace BinCore

variable (c : BinCore) {elements : List BinElement} {hook : Option Variant}

/-- Every element is of an object in the arena, and what that is drawn with names a position. -/
def Locates (c : BinCore) (arena : FrameArena Submission) (hook : Option Variant)
    (elements : List BinElement) : Prop :=
  ∀ e ∈ elements, ∃ o, arena.find e.handle = some o ∧
    ∀ material, c.materialFor o hook = some material →
      ∃ position, material.id.position = .ok position

theorem ends_renderRuns (h : c.Locates arena hook elements) (batch : Bool) :
    DrawAction.Ends (c.renderRuns arena scene hook kind batch elements) := by
  -- A batch takes its companions along: what is left is a tail of the rest, of any length.
  induction elements using group_induction with
  | nil =>
      rw [renderRuns]
      exact .pure _
  | cons e rest ih =>
      obtain ⟨⟨o, hfind, hnames⟩, hrest⟩ := List.forall_mem_cons.mp h
      have hdrop (n : Nat) := ih n fun e he => hrest e (List.mem_of_mem_drop he)
      rw [renderRuns_cons (FrameArena.get_eq_ok_iff.mpr hfind)]
      cases hmaterial : c.materialFor o hook with
      | none => exact hdrop 0
      | some material =>
          obtain ⟨more, hmore⟩ := exists_companions (c := c)
            (fun e he => (hrest e he).imp fun _ => And.left) hook batch material
          refine .lift_bind hmore ?_
          exact (ends_drawBatch (hnames material hmaterial)).bind fun _ => hdrop more.length

theorem ends_renderEach (h : c.Locates arena hook elements) :
    DrawAction.Ends (c.renderEach arena scene hook kind elements) := by
  induction elements with
  | nil => exact .pure _
  | cons e rest ih =>
      obtain ⟨⟨o, hfind, hnames⟩, hrest⟩ := List.forall_mem_cons.mp h
      rw [renderEach]
      refine .lift_bind (FrameArena.get_eq_ok_iff.mpr hfind) ?_
      cases o.delegate with
      | some delegate => exact (ends_drawDelegate delegate o).bind fun _ => ih hrest
      | none =>
          cases hmaterial : c.materialFor o hook with
          | none => exact ih hrest
          | some material =>
              exact (ends_drawBatch (hnames material hmaterial)).bind fun _ => ih hrest

end BinCore

namespace Bin

variable {b : Bin}

theorem ends_renderBy {rule : DrawRule} (h : b.core.Locates arena rule.hook b.core.elements) :
    DrawAction.Ends (b.renderBy arena scene rule) := by
  unfold renderBy
  cases rule.mode with
  | batches => exact b.core.ends_renderRuns h true
  | singles => exact b.core.ends_renderRuns h false
  | each => exact b.core.ends_renderEach h

theorem ends_render (h : ∀ hook, b.core.Locates arena hook b.core.elements) :
    DrawAction.Ends (b.render arena scene) := by
  unfold render
  cases b.rules.draws scene.pass with
  | none => exact .pure _
  | some rule =>
      cases b.target with
      | none => exact (ends_renderBy (h rule.hook)).bind fun _ => .pure _
      | some target =>
          refine (DrawAction.Ends.lift target.stopsFor_acquire).bind fun ⟨handle, target⟩ => ?_
          cases handle with
          | none => exact .pure _
          | some _ =>
              exact (ends_renderBy (h rule.hook)).bind fun _ =>
                (DrawAction.Ends.lift (.perform _)).bind fun _ => .pure _

end Bin

/-! ### Frames -/

namespace Pipeline

variable {p : Pipeline}

/-- **A frame ends**, on any device, but for a cost that the library does not afford. -/
theorem Listed.ends_render (hp : p.Listed)
    (h : ∀ b ∈ p.bins, ∀ hook, b.core.Locates p.arena hook b.core.elements) (l : Library)
    (scene : Scene) (s : Session) :
    (∃ stats l' p' s', (p.render l scene).run s = .ok ((stats, l', p'), s')) ∨
      ¬ l.Affords ∧ (p.render l scene).run s = .error .addOverflow := by
  have hbins : DrawAction.Ends (drawAll p.arena scene p.drawingOrder) := by
    refine DrawAction.Ends.mapM fun b hb => Bin.ends_render fun hook e he => ?_
    obtain ⟨elements, hperm, hcore⟩ := b.core_sort
    rw [hcore] at he ⊢
    exact h b (hp.perm_drawingOrder.mem_iff.mp hb) hook e (hperm.mem_iff.mp he)
  rw [hp.render_eq]
  rcases hbins ⟨l, p.stats⟩ s with ⟨drawn, drawing, s', hrun, -⟩ | ⟨hl, hrun⟩
  · rw [run_bind hrun]
    exact .inl ⟨_, _, _, _, rfl⟩
  · exact .inr ⟨hl, run_bind_of_error hrun⟩

end Pipeline

end MaterialPipeline
