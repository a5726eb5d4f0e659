import MaterialPipeline.Proofs.Frame.Tally

/-!
# Proofs — Frame — Programs

The programs that a frame draws with.  A round sets its program before all else, and nothing after
that does; so at every draw it is the program of the pass, whatever was bound before, and whether or
not the objects have anything to bind.

* `Cause.Runs`: what is drawn, and with which program.
* `Walk.runs`: the draws of a chain of strokes.
* `Walk.asked`: all that a chain does to a library at rest is asking it for forms.
-/

namespace MaterialPipeline

open MaterialPipeline.Action

variable {scene : Scene} {limits : Limits} {kind : BinKind} {material : MaterialRef}
  {d d' : Drawing} {s s' s₀ : Session} {others : Multiset Object} {strokes : List Stroke}

/-! ### Draws among calls -/

namespace Registers

variable {σ : Registers} {calls : List Call} {r : Register} {drawn : Drawn}

theorem map_range_draws (σ : Registers) (calls : List Call) :
    (σ.draws calls).map (·.range) = rangesOf calls := by
  induction calls generalizing σ with
  | nil => rfl
  | cons c rest ih =>
      rw [draws_cons, List.map_append, ih]
      cases c <;> rfl

/-- A register that no call binds is the same at every draw. -/
theorem eq_of_mem_draws (h : ¬ Writes calls r) (hd : drawn ∈ σ.draws calls) :
    drawn.registers r = σ r := by
  induction calls generalizing σ with
  | nil => cases hd
  | cons c rest ih =>
      rw [← List.singleton_append, writes_append, not_or] at h
      rw [draws_cons] at hd
      rcases List.mem_append.mp hd with hd | hd
      · cases c with
        | draw range =>
            obtain rfl := List.mem_singleton.mp hd
            rfl
        | _ => cases hd
      · rw [ih h.2 hd, after_of_not_writes h.1]

theorem not_writes_program (h : programsOf calls = []) : ¬ Writes calls .program := by
  rintro ⟨c, hc, v, hv⟩
  have hnone := List.filterMap_eq_nil_iff.mp h c hc
  cases c <;> cases hv
  cases hnone

end Registers

/-! ### Rounds -/

/-- In a round, each object is drawn once, with the program of the pass. -/
theorem Form.runs_round (σ : Registers) (b : BuiltMaterial) (limits : Limits) (scene : Scene)
    (kind : BinKind) (objects : List Submission) (p : Pass) :
    List.Forall₂ (fun o drawn => drawn.registers .program = some p.program ∧ drawn.range = o.range)
      objects (σ.draws (callsOf (roundEvents b limits scene kind objects p))) := by
  obtain ⟨hranges, hprograms⟩ := tally_round b limits scene kind objects p
  obtain ⟨rest, hcalls⟩ : ∃ rest, callsOf (roundEvents b limits scene kind objects p) =
      .setProgram p.program :: rest :=
    ⟨_, by rw [callsOf_roundEvents, setupCalls_eq, List.append_assoc, List.append_assoc]; rfl⟩
  -- The program is set first, and never again.
  rw [hcalls] at hprograms hranges ⊢
  have hrest : programsOf rest = [] := List.cons_inj_right _ |>.mp hprograms
  have hprogram : ∀ drawn ∈ σ.draws (.setProgram p.program :: rest),
      drawn.registers .program = some p.program := fun drawn hd =>
    (Registers.eq_of_mem_draws (Registers.not_writes_program hrest) hd).trans
      (Registers.after_of_write rfl)
  have hsame : List.Forall₂ (fun drawn (o : Submission) => drawn.range = o.range)
      (σ.draws (.setProgram p.program :: rest)) objects := by
    rw [← List.forall₂_map_left_iff (f := Drawn.range) (R := fun x (o : Submission) => x = o.range),
      ← List.forall₂_map_right_iff (f := Submission.range) (R := Eq), Registers.map_range_draws,
      hranges]
    exact List.forall₂_refl _
  exact ((List.forall₂_and_left ..).mpr ⟨hprogram, hsame⟩).flip

/-! ### Strokes -/

/-- What is drawn, and with which program. -/
def Cause.Runs : Cause → Drawn → Prop
  | .pass _ m _ p, drawn => drawn.registers .program = some p.program ∧ drawn.range = m.object.range
  | .self _ range, drawn => drawn.range = range

/-- In rounds of some passes, one after another. -/
theorem runs_rounds (b : BuiltMaterial) (limits : Limits) (scene : Scene) (kind : BinKind)
    (members : List Member) (passes : List Pass) (σ : Registers) :
    List.Forall₂ Cause.Runs (passes.flatMap fun p => members.map (.pass kind · b p))
      (σ.draws (callsOf (passes.flatMap
        (Form.roundEvents b limits scene kind (members.map Member.object))))) := by
  induction passes generalizing σ with
  | nil => exact .nil
  | cons p rest ih =>
      rw [List.flatMap_cons, List.flatMap_cons, callsOf_append, Registers.draws_append]
      have hround := Form.runs_round σ b limits scene kind (members.map Member.object) p
      refine List.rel_append ?_ (ih _)
      rw [List.forall₂_map_left_iff] at hround ⊢
      exact hround

theorem runs_strokeCalls (limits : Limits) (scene : Scene) (kind : BinKind)
    (material : MaterialRef) (members : List Member) (built : Option BuiltMaterial)
    (σ : Registers) :
    List.Forall₂ Cause.Runs (Stroke.causes (.batch kind material members built))
      (σ.draws (strokeCalls limits scene kind (members.map Member.object) built)) := by
  cases built with
  | none => exact .nil
  | some b => exact runs_rounds b limits scene kind members b.passes σ

/-! ### Chains -/

/-- On the way from one device to another, draws were issued for some causes, one after another. -/
def Device.Runs (d : Device) (causes : List Cause) (d' : Device) : Prop :=
  ∃ calls, d'.calls.toList = d.calls.toList ++ calls ∧
    ∀ σ : Registers, List.Forall₂ Cause.Runs causes (σ.draws calls)

namespace Device.Runs

variable {device device₁ device' : Device} {causes causes' : List Cause}

theorem of_quiet (h : device.Quiet device') : device.Runs [] device' := by
  obtain ⟨calls, hcalls, hquiet⟩ := h.calls
  refine ⟨calls, hcalls, fun σ => ?_⟩
  rw [Registers.draws_of_isQuiet hquiet]
  exact .nil

theorem trans (h : device.Runs causes device₁) (h' : device₁.Runs causes' device') :
    device.Runs (causes ++ causes') device' := by
  obtain ⟨calls, hcalls, hdraws⟩ := h
  obtain ⟨calls', hcalls', hdraws'⟩ := h'
  refine ⟨calls ++ calls', by rw [hcalls', hcalls, List.append_assoc], fun σ => ?_⟩
  rw [Registers.draws_append]
  exact List.rel_append (hdraws σ) (hdraws' _)

end Device.Runs

/-- **A chain of strokes.**  Draws are issued for the causes of the strokes, one after another, each
with the program of its pass. -/
theorem Walk.runs (h₀ : s₀.device.Owns others) (h : Walk scene d s strokes d' s')
    (hreached : Library.Reached s₀ d.library s) (hidle : d.library.Idle) :
    s.device.Runs (strokes.flatMap Stroke.causes) s'.device := by
  induction h with
  | done d s => exact .of_quiet (.refl s.device)
  | aside haside _ ih =>
      exact (Device.Runs.of_quiet haside.quiet).trans (ih (hreached.adjusts haside.adjusts) hidle)
  | @batch d _ _ s s₁ _ _ kind material members found _ _ hfound hrun _ ih =>
      have hidle₁ := (tallied_batch h₀ hreached hidle hfound hrun).1
      have hrest := ih (reached_of_drawBatch hreached hrun) hidle₁
      obtain ⟨hrun', hstroke, -⟩ :=
        run_drawBatch_of_idle scene kind (members.map Member.object) hidle hfound
      cases hrun'.symm.trans hrun
      have hasked : s.device.Runs [] s₁.device :=
        .of_quiet (hreached.manages_renderable h₀ hfound).quiet
      refine (hasked.trans ⟨_, s₁.calls_applyAll _, fun σ => ?_⟩).trans hrest
      rw [hstroke]
      exact runs_strokeCalls s₁.device.limits scene kind material members _ σ
  | @delegate d _ _ s _ _ member delegate _ hrun _ ih =>
      have hone : Walk scene _ _ _ _ _ := .delegate hrun (.done _ _)
      have hrest := ih (hone.reached hreached) ((tallied_delegate hrun).1 ▸ hidle)
      cases hrun
      have hcalls :=
        s.calls_applyAll ((delegate.ranges member.object.range).map fun r => .call (.draw r))
      rw [callsOf_map_call] at hcalls
      refine Device.Runs.trans ⟨_, hcalls, fun σ => ?_⟩ hrest
      rw [Registers.draws_map_draw, Stroke.causes, List.forall₂_map_left_iff,
        List.forall₂_map_right_iff, List.forall₂_same]
      exact fun _ _ => rfl

/-- What asking keeps, a chain of strokes keeps, if the library is at rest. -/
theorem Walk.asked {P : Library → Prop}
    (hask : ∀ l r found l' s s', P l → (l.renderable r).run s = .ok ((found, l'), s') → P l')
    (h : Walk scene d s strokes d' s') (hidle : d.library.Idle) (hd : P d.library) :
    P d'.library := by
  induction h with
  | done => exact hd
  | aside _ _ ih => exact ih hidle hd
  | @batch d _ _ s _ _ _ kind material members _ _ _ hfound hrun _ ih =>
      have hidle₁ := hidle.renderable hfound
      obtain ⟨hrun', -, -⟩ :=
        run_drawBatch_of_idle scene kind (members.map Member.object) hidle hfound
      cases hrun'.symm.trans hrun
      exact ih hidle₁ (hask _ _ _ _ _ _ hd hfound)
  | delegate hrun _ ih =>
      have hlibrary := (tallied_delegate hrun).1
      exact ih (hlibrary ▸ hidle) (hlibrary ▸ hd)

end MaterialPipeline
