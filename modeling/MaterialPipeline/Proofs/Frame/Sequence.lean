import MaterialPipeline.Feature.Builtin
import MaterialPipeline.Material.Form
import MaterialPipeline.Proofs.Frame.Rounds
import MaterialPipeline.Proofs.Session.Runs

/-!
# Proofs — Frame — Sequence

The passes of a form, one step at a time.  Between two steps anything may be bound for the pass that
is set up.  The textures of a pass come off in the step into the next pass, so all of them are off
only when a sequence is complete.

* `Form.setupPass_before`: one step.
* `Form.advances_before`: the steps that are left of a sequence.
* `Form.advances_sequence`: a whole sequence.
* `Form.advances_sequences`: one sequence after another.
* `Form.drawsThrough_iff`: drawing objects with a form is such a loop, in which each step takes over
what the last object was drawn with.
-/

namespace MaterialPipeline

open MaterialPipeline.Action

/-! ### Stepping -/

/-- Something to bind for the pass that is set up. -/
inductive Setter where
  | transforms (scene : Scene) (world : Mat4)
  | sceneInfo (scene : Scene) (draw : DrawContext)
  | textureStages (draw : DrawContext)
  | buffers (vertices : BufferHandle) (indices : Option BufferHandle)

/-- What binding it on a form does. -/
def Setter.events (f : Form) : Setter → List Event
  | transforms scene world => f.onCurrent fun _ => BuiltMaterial.transforms scene world
  | sceneInfo scene draw => f.onCurrent (·.sceneInfo scene draw)
  | textureStages draw => f.onCurrent (·.textureStages draw)
  | buffers vertices indices => f.setBuffers vertices indices

/-- A step to the next pass, and what is bound after it. -/
structure Advance where
  limits : Limits := {}
  scene : Scene := {}
  draw : DrawContext := {}
  setters : List Setter := []

/-- What a step answers, what it does, and what is done after it. -/
structure Shown where
  ready : Bool
  step : List Event
  bound : List Event

/-- All that was called. -/
def Shown.calls (shown : List Shown) : List Call :=
  callsOf (shown.flatMap fun x => x.step ++ x.bound)

theorem Shown.calls_cons (x : Shown) (rest : List Shown) :
    Shown.calls (x :: rest) = callsOf x.step ++ (callsOf x.bound ++ Shown.calls rest) := by
  rw [Shown.calls, List.flatMap_cons, callsOf_append, callsOf_append, List.append_assoc]
  rfl

theorem Constants.not_writes_texture {c : Constants} {program : ProgramHandle}
    {values : List (String × ConstantValue)} {slot : Nat} :
    ¬ Registers.Writes (callsOf (c.uploadAll program values)) (.texture slot) := by
  rw [writes_uploadAll]
  rintro ⟨x, -, -, hx⟩
  cases hx

namespace BuiltMaterial

variable {b : BuiltMaterial} {n : Nat} {p : Pass}

/-- What takes off the textures of the pass before the one numbered `n`. -/
def leaving (b : BuiltMaterial) : Nat → List Event
  | 0 => []
  | n + 1 => b.onPass n cleanup

theorem onPass_of_getElem? {f : Pass → List Event} (hp : b.passes[n]? = some p) :
    b.onPass n f = f p := by
  rw [onPass, hp]
  rfl

theorem callsOf_cleanup (p : Pass) :
    callsOf (cleanup p) = p.bindings.map fun binding => .setTexture binding.slot none :=
  callsOf_map_call ..

theorem callsOf_setup (limits : Limits) (scene : Scene) (draw : DrawContext) :
    callsOf (b.setup limits scene draw p) =
      [.setProgram p.program, .setState (p.state (b.conditions limits scene draw))] ++
        callsOf (p.constants.uploadAll p.program (b.animationValues scene p)) := rfl

theorem not_writes_setup {limits : Limits} {scene : Scene} {draw : DrawContext} {slot : Nat} :
    ¬ Registers.Writes (callsOf (b.setup limits scene draw p)) (.texture slot) := by
  rw [callsOf_setup, Registers.writes_append, not_or]
  refine ⟨?_, Constants.not_writes_texture⟩
  rintro ⟨c, hc, w, hw⟩
  rcases List.mem_pair.mp hc with rfl | rfl <;> cases hw

/-- Leaving a pass only takes textures off. -/
theorem eq_none_of_leaving {c : Call} {slot : Nat} {texture : Option TextureHandle}
    (hc : c ∈ callsOf (b.leaving n)) (hw : c.write? = some ⟨.texture slot, texture⟩) :
    texture = none := by
  cases n with
  | zero => cases hc
  | succ n =>
      cases hp : b.passes[n]? with
      | none =>
          rw [leaving, onPass, hp] at hc
          cases hc
      | some p =>
          rw [leaving, onPass_of_getElem? hp, callsOf_cleanup] at hc
          obtain ⟨binding, -, rfl⟩ := List.mem_map.mp hc
          cases hw
          rfl

/-- A slot that is cleared on leaving a pass stays so, if whatever is bound there later is taken off
again. -/
theorem run_leaving_append {calls : List Call} {slot : Nat} {σ : Registers}
    (hcalls : Registers.Writes calls (.texture slot) →
      ∀ σ : Registers, σ.run calls (.texture slot) = some none)
    (hw : Registers.Writes (callsOf (b.leaving n) ++ calls) (.texture slot)) :
    σ.run (callsOf (b.leaving n) ++ calls) (.texture slot) = some none := by
  rw [Registers.run_append]
  by_cases hlater : Registers.Writes calls (.texture slot)
  · exact hcalls hlater _
  · rw [Registers.run_of_not_writes hlater]
    exact Registers.run_eq_some ((Registers.writes_append.mp hw).resolve_right hlater)
      fun c hc w hw => eq_none_of_leaving hc hw

end BuiltMaterial

namespace Form

variable {f : Form} {b : BuiltMaterial} {a : Advance} {steps : List Advance} {n slot : Nat}
  {p : Pass} {σ : Registers}

/-- One step, and what is bound after it. -/
def advance (f : Form) (a : Advance) : Shown × Form :=
  let (ready, step, f) := f.setupPass a.limits a.scene a.draw
  (⟨ready, step, a.setters.flatMap (·.events f)⟩, f)

/-- Several steps. -/
def advances (f : Form) : List Advance → List Shown × Form
  | [] => ([], f)
  | a :: rest =>
    let (shown, f) := f.advance a
    let (more, f) := f.advances rest
    (shown :: more, f)

theorem advances_cons (f : Form) (a : Advance) (rest : List Advance) :
    f.advances (a :: rest) = ((f.advance a).1 :: ((f.advance a).2.advances rest).1,
      ((f.advance a).2.advances rest).2) := rfl

theorem advances_append (f : Form) (first rest : List Advance) :
    f.advances (first ++ rest) =
      ((f.advances first).1 ++ ((f.advances first).2.advances rest).1,
        ((f.advances first).2.advances rest).2) := by
  induction first generalizing f with
  | nil => rfl
  | cons a first ih =>
      rw [List.cons_append, advances_cons, ih, advances_cons]
      rfl

/-! ### A form that is not built -/

theorem events_of_not_built (hf : f.built = none) (x : Setter) : x.events f = [] := by
  cases x <;> simp [Setter.events, onCurrent, setBuffers, isBuilt, hf]

theorem setupPass_of_not_built (hf : f.built = none) (limits : Limits) (scene : Scene)
    (draw : DrawContext) :
    f.setupPass limits scene draw = (false, [], { f with current := none }) := by
  unfold setupPass
  split
  next => rfl
  next b hb => cases hf.symm.trans hb

theorem advance_of_not_built (hf : f.built = none) :
    (f.advance a).1 = ⟨false, [], []⟩ ∧ (f.advance a).2.built = none := by
  rw [advance, setupPass_of_not_built hf]
  refine ⟨congrArg (Shown.mk false []) (List.flatMap_eq_nil_iff.mpr fun x _ => ?_), hf⟩
  exact events_of_not_built (f := { f with current := none }) hf x

/-- A form that is not built has no pass, and nothing can be bound for it. -/
theorem advances_of_not_built (hf : f.built = none) (steps : List Advance) :
    (f.advances steps).1 = steps.map fun _ => ⟨false, [], []⟩ := by
  induction steps generalizing f with
  | nil => rfl
  | cons a rest ih =>
      obtain ⟨hadvance, hnext⟩ := advance_of_not_built (a := a) hf
      rw [advances_cons, hadvance, ih hnext]
      rfl

/-! ### One step -/

/-- The form before the pass numbered `n` is set up. -/
def before (f : Form) : Nat → Form
  | 0 => { f with current := none }
  | n + 1 => { f with current := some n }

theorem before_zero (hf : f.current = none) : f.before 0 = f := by
  rw [before, ← hf]

theorem nextPass_before (f : Form) (n : Nat) : (f.before n).nextPass = n := by
  cases n <;> rfl

theorem built_before (f : Form) (n : Nat) : (f.before n).built = f.built := by
  cases n <;> rfl

theorem leavePass_before (hb : f.built = some b) (n : Nat) :
    (f.before n).leavePass = b.leaving n := by
  cases n <;> rw [leavePass, built_before, hb] <;> rfl

section

variable (hb : f.built = some b)

include hb

/-- **One step.**  The textures of the pass before come off, and the pass is set up; after the last
pass the form is at its beginning again. -/
theorem setupPass_before (limits : Limits) (scene : Scene) (draw : DrawContext) (n : Nat) :
    (f.before n).setupPass limits scene draw =
      match b.passes[n]? with
      | some p => (true, b.leaving n ++ b.setup limits scene draw p, f.before (n + 1))
      | none => (false, b.leaving n, f.before 0) := by
  unfold setupPass
  split
  next h => cases (built_before f n ▸ hb).symm.trans h
  next b' h =>
      obtain rfl := Option.some.inj ((built_before f n ▸ hb).symm.trans h)
      rw [nextPass_before, leavePass_before hb]
      cases n <;> rfl

theorem advance_of_pass (hp : b.passes[n]? = some p) : (f.before n).advance a =
    (⟨true, b.leaving n ++ b.setup a.limits a.scene a.draw p,
      a.setters.flatMap (·.events (f.before (n + 1)))⟩, f.before (n + 1)) := by
  rw [advance, setupPass_before hb, hp]

theorem advance_of_end (hn : b.passes[n]? = none) : (f.before n).advance a =
    (⟨false, b.leaving n, a.setters.flatMap (·.events (f.before 0))⟩, f.before 0) := by
  rw [advance, setupPass_before hb, hn]

/-- What is bound after a step binds textures of the pass that is set up, and no others. -/
theorem writes_leaving_of_setter {x : Setter}
    (hw : Registers.Writes (callsOf (x.events (f.before n))) (.texture slot)) :
    Registers.Writes (callsOf (b.leaving n)) (.texture slot) := by
  have hcurrent {g : BuiltMaterial → Pass → List Event}
      (hw : Registers.Writes (callsOf ((f.before n).onCurrent g)) (.texture slot)) :
      ∃ m p, n = m + 1 ∧ b.passes[m]? = some p ∧
        Registers.Writes (callsOf (g b p)) (.texture slot) := by
    rw [onCurrent, built_before, hb] at hw
    cases n with
    | zero => exact absurd hw Registers.not_writes_nil
    | succ m =>
        have hw : Registers.Writes (callsOf (b.onPass m (g b))) (.texture slot) := hw
        cases hp : b.passes[m]? with
        | none =>
            rw [BuiltMaterial.onPass, hp] at hw
            exact absurd hw Registers.not_writes_nil
        | some p =>
            rw [BuiltMaterial.onPass_of_getElem? hp] at hw
            exact ⟨m, p, rfl, hp, hw⟩
  cases x with
  | transforms scene world =>
      obtain ⟨m, p, -, -, hw⟩ := hcurrent hw
      exact absurd hw Constants.not_writes_texture
  | sceneInfo scene draw =>
      obtain ⟨m, p, -, -, hw⟩ := hcurrent hw
      exact absurd hw Constants.not_writes_texture
  | textureStages draw =>
      obtain ⟨m, p, rfl, hp, hw⟩ := hcurrent hw
      rw [BuiltMaterial.leaving, BuiltMaterial.onPass_of_getElem? hp]
      exact writes_cleanup.mpr (writes_textures.mp hw)
  | buffers vertices indices =>
      have hbuilt : (f.before n).isBuilt = true := by
        rw [isBuilt, built_before, hb]
        rfl
      rw [Setter.events, setBuffers, if_pos hbuilt] at hw
      obtain ⟨c, hc, w, hw⟩ := hw
      rcases List.mem_pair.mp hc with rfl | rfl <;> cases hw

theorem writes_leaving_of_setters {setters : List Setter}
    (hw : Registers.Writes (callsOf (setters.flatMap (·.events (f.before n)))) (.texture slot)) :
    Registers.Writes (callsOf (b.leaving n)) (.texture slot) := by
  induction setters with
  | nil => exact absurd hw Registers.not_writes_nil
  | cons x rest ih =>
      rw [List.flatMap_cons, callsOf_append, Registers.writes_append] at hw
      exact hw.elim (writes_leaving_of_setter hb) ih

end

/-! ### Sequences -/

/-- The rest of a sequence, from the step into the pass numbered `n` to the step out of the last
pass. -/
inductive Finishes (f : Form) (b : BuiltMaterial) : Nat → List Advance → List Shown → Prop where
  | last {n : Nat} (a : Advance) (hn : n = b.passes.length) :
      Finishes f b n [a] [⟨false, b.leaving n, a.setters.flatMap (·.events (f.before 0))⟩]
  | pass {n : Nat} {p : Pass} (a : Advance) {steps : List Advance} {shown : List Shown}
      (hp : b.passes[n]? = some p) (hrest : Finishes f b (n + 1) steps shown) :
      Finishes f b n (a :: steps) (⟨true, b.leaving n ++ b.setup a.limits a.scene a.draw p,
        a.setters.flatMap (·.events (f.before (n + 1)))⟩ :: shown)

/-- **The rest of a sequence.**  As many steps as are left finish it, and lead back to the
beginning. -/
theorem advances_before (hb : f.built = some b) (hn : n ≤ b.passes.length)
    (hlength : steps.length + n = b.passes.length + 1) :
    Finishes f b n steps ((f.before n).advances steps).1 ∧
      ((f.before n).advances steps).2 = f.before 0 := by
  induction steps generalizing n with
  | nil =>
      rw [List.length_nil] at hlength
      omega
  | cons a rest ih =>
      rw [List.length_cons] at hlength
      rw [advances_cons]
      rcases Nat.lt_or_eq_of_le hn with hlt | rfl
      · have hp : b.passes[n]? = some b.passes[n] := List.getElem?_eq_getElem hlt
        rw [advance_of_pass hb hp]
        obtain ⟨hrest, hend⟩ := ih (n := n + 1) hlt (by omega)
        exact ⟨.pass a hp hrest, hend⟩
      · obtain rfl : rest = [] := List.length_eq_zero_iff.mp (by omega)
        rw [advance_of_end hb (List.getElem?_eq_none le_rfl)]
        exact ⟨.last a rfl, rfl⟩

namespace Finishes

variable {shown : List Shown}

theorem le (h : Finishes f b n steps shown) : n ≤ b.passes.length := by
  cases h with
  | last a hn => exact hn.le
  | pass a hp hrest => exact (List.getElem?_eq_some_iff.mp hp).1.le

theorem left (h : Finishes f b (n + 1) steps shown) :
    b.passes.length - n = b.passes.length - (n + 1) + 1 := by
  have hle := h.le
  omega

/-- Every step into a pass says so, and only these. -/
theorem ready (h : Finishes f b n steps shown) :
    shown.map (·.ready) = List.replicate (b.passes.length - n) true ++ [false] := by
  induction h with
  | last a hn => rw [hn, Nat.sub_self]; rfl
  | @pass n p a steps shown hp hrest ih =>
      rw [List.map_cons, ih, hrest.left, List.replicate_succ]
      rfl

/-- A step into a pass leaves the pass before it and sets this one up. -/
theorem into (h : Finishes f b n steps shown) {i : Nat} (hp : b.passes[n + i]? = some p)
    (ha : steps[i]? = some a) : ∃ x, shown[i]? = some x ∧
      x.step = b.leaving (n + i) ++ b.setup a.limits a.scene a.draw p := by
  induction h generalizing i with
  | last a' hn =>
      rw [hn, List.getElem?_eq_none (Nat.le_add_right ..)] at hp
      cases hp
  | @pass n p' a' steps shown hp' hrest ih =>
      cases i with
      | zero =>
          obtain rfl := Option.some.inj (hp'.symm.trans hp)
          obtain rfl := Option.some.inj ha
          exact ⟨_, rfl, rfl⟩
      | succ i =>
          rw [← Nat.add_assoc, Nat.add_right_comm] at hp ⊢
          exact ih hp ha

/-- The last step leaves the last pass. -/
theorem out (h : Finishes f b n steps shown) : ∃ x, shown[b.passes.length - n]? = some x ∧
    x.step = b.leaving b.passes.length := by
  induction h with
  | last a hn =>
      rw [hn, Nat.sub_self]
      exact ⟨_, rfl, rfl⟩
  | @pass n p a steps shown hp hrest ih =>
      obtain ⟨x, hx, hstep⟩ := ih
      exact ⟨x, by rw [hrest.left, List.getElem?_cons_succ, hx], hstep⟩

/-- The textures of the pass before come off. -/
theorem writes_of_leaving (h : Finishes f b n steps shown) {r : Register}
    (hw : Registers.Writes (callsOf (b.leaving n)) r) : Registers.Writes (Shown.calls shown) r := by
  cases h with
  | last a hn =>
      rw [Shown.calls_cons, Registers.writes_append]
      exact .inl hw
  | pass a hp hrest =>
      rw [Shown.calls_cons, Registers.writes_append, callsOf_append, Registers.writes_append]
      exact .inl (.inl hw)

/-- **Textures.**  Whatever slot is bound on the way to the end of a sequence, is cleared last. -/
theorem run_texture (hb : f.built = some b) (h : Finishes f b n steps shown)
    (hw : Registers.Writes (Shown.calls shown) (.texture slot)) :
    σ.run (Shown.calls shown) (.texture slot) = some none := by
  induction h generalizing σ with
  | last a hn =>
      rw [Shown.calls_cons] at hw ⊢
      refine BuiltMaterial.run_leaving_append (fun hw => ?_) hw
      -- At the beginning, no pass is set up whose textures could be bound.
      have hbound := (Registers.writes_append.mp hw).resolve_right Registers.not_writes_nil
      exact absurd (writes_leaving_of_setters hb hbound) Registers.not_writes_nil
  | @pass n p a steps shown hp hrest ih =>
      rw [Shown.calls_cons, callsOf_append, List.append_assoc] at hw ⊢
      refine BuiltMaterial.run_leaving_append (fun hw σ => ?_) hw
      -- What is bound for this pass comes off in the step after it.
      have hrest : Registers.Writes (Shown.calls shown) (.texture slot) := by
        rw [Registers.writes_append, Registers.writes_append] at hw
        rcases hw with hw | hw | hw
        · exact absurd hw BuiltMaterial.not_writes_setup
        · exact hrest.writes_of_leaving (writes_leaving_of_setters hb hw)
        · exact hw
      rw [← List.append_assoc, Registers.run_append]
      exact ih hrest

end Finishes

/-- **A sequence.**  A form that is built and at its beginning goes through its passes one by one,
each step leaving the pass before; one step more leaves the last pass, and the form is at its
beginning again.  No texture is left of those that were bound on the way.  A form that is not built
refuses every step, and nothing is called. -/
theorem advances_sequence (f : Form) (steps : List Advance) :
    (f.built = none → (f.advances steps).1 = steps.map fun _ => ⟨false, [], []⟩) ∧
      ∀ b, f.built = some b → f.current = none → steps.length = b.passes.length + 1 →
        let shown := (f.advances steps).1
        shown.map (·.ready) = List.replicate b.passes.length true ++ [false] ∧
          (∀ n p a, b.passes[n]? = some p → steps[n]? = some a → ∃ x uploads, shown[n]? = some x ∧
            callsOf x.step = callsOf (b.leaving n) ++
              ([.setProgram p.program, .setState (p.state (b.conditions a.limits a.scene a.draw))] ++
                uploads) ∧
            ∀ c ∈ uploads, ∃ name value, c = .setConstant p.program name value) ∧
          (∃ x, shown[b.passes.length]? = some x ∧ x.step = b.leaving b.passes.length) ∧
          (f.advances steps).2 = f ∧
          ∀ (σ : Registers) slot, Registers.Writes (Shown.calls shown) (.texture slot) →
            σ.run (Shown.calls shown) (.texture slot) = some none := by
  refine ⟨fun hf => advances_of_not_built hf steps, fun b hb hcurrent hlength => ?_⟩
  have hsteps := advances_before hb (Nat.zero_le _) hlength
  rw [before_zero hcurrent] at hsteps
  obtain ⟨h, hend⟩ := hsteps
  refine ⟨h.ready, fun n p a hp ha => ?_, h.out, hend, fun σ slot => h.run_texture hb⟩
  rw [← Nat.zero_add n] at hp
  obtain ⟨x, hx, hstep⟩ := h.into hp ha
  refine ⟨x, callsOf (p.constants.uploadAll p.program (b.animationValues a.scene p)), hx, ?_,
    fun c => mem_uploadAll⟩
  rw [hstep, Nat.zero_add, callsOf_append, BuiltMaterial.callsOf_setup]

/-- Two stages that need a pass each if there are three texture slots.  The textures are bound after
each step. -/
theorem advances_sequence_two_passes :
    let m : Material := {
      name := "layered", fog := false
      stages := [{ diffuseMap := some "lower", emissive := true },
        { diffuseMap := some "upper", overlayMap := some "shade", emissive := true }] }
    let s : Session := { device := { limits := { textureSlots := 3 } } }
    let step : Advance := { setters := [.textureStages {}] }
    ∃ f b s', (build { material := m, format := .positionNormalUv } ⟨.builtin, {}⟩).run s =
        .ok ((.ok (), f), s') ∧
      f.built = some b ∧ f.current = none ∧ b.passes.length = 2 ∧
      let shown := (f.advances [step, step, step]).1
      shown.map (·.ready) = [true, true, false] ∧ (f.advances [step, step, step]).2 = f ∧
        Registers.Writes (Shown.calls shown) (.texture 1) ∧
        ∀ σ : Registers, σ.run (Shown.calls shown) (.texture 1) = some none := by
  intro m s step
  have hcheck : ((build { material := m, format := .positionNormalUv } ⟨.builtin, {}⟩).run
      s).toOption.any (fun r => r.1.1.isOk && (r.1.2.current.isNone && r.1.2.built.any fun b =>
        b.passes.length == 2 && (Shown.calls (r.1.2.advances [step, step, step]).1).any fun c =>
          c.write?.any (·.1 == .texture 1))) = true := by
    decide +kernel
  obtain ⟨⟨⟨result, f⟩, s'⟩, hrun, hgood⟩ := exists_of_any_toOption hcheck
  simp only [Bool.and_eq_true, Option.any_eq_true, List.any_eq_true, beq_iff_eq,
    Option.isNone_iff_eq_none] at hgood
  obtain ⟨hresult, hcurrent, b, hb, hlength, c, hc, ⟨r, v⟩, hw, rfl⟩ := hgood
  cases result with
  | error error => cases hresult
  | ok =>
      have hwrites : Registers.Writes (Shown.calls (f.advances [step, step, step]).1) (.texture 1) :=
        ⟨c, hc, v, hw⟩
      obtain ⟨hready, -, -, hend, hclear⟩ := (advances_sequence f [step, step, step]).2 b hb hcurrent
        (by rw [hlength]; rfl)
      rw [hlength] at hready
      exact ⟨f, b, s', hrun, hb, hcurrent, hlength, hready, hend, hwrites,
        fun σ => hclear σ 1 hwrites⟩

/-- **Sequences.**  One sequence after another, each goes through all passes. -/
theorem advances_sequences (hb : f.built = some b) (hcurrent : f.current = none)
    {sequences : List (List Advance)}
    (hlengths : ∀ steps ∈ sequences, steps.length = b.passes.length + 1) :
    (f.advances sequences.flatten).1.map (·.ready) =
        sequences.flatMap (fun _ => List.replicate b.passes.length true ++ [false]) ∧
      (f.advances sequences.flatten).2 = f := by
  induction sequences with
  | nil => exact ⟨rfl, rfl⟩
  | cons steps rest ih =>
      have hsteps := advances_before hb (Nat.zero_le _) (hlengths steps List.mem_cons_self)
      rw [before_zero hcurrent] at hsteps
      obtain ⟨h, hend⟩ := hsteps
      obtain ⟨hready, hrest⟩ := ih fun steps hs => hlengths steps (List.mem_cons_of_mem _ hs)
      rw [List.flatten_cons, advances_append, hend]
      refine ⟨?_, hrest⟩
      rw [List.map_append, h.ready, hready]
      rfl

/-! ### Drawing -/

/-- What an object is drawn with; the rest is as it was. -/
def drawnWith (draw : DrawContext) (s : Submission) : DrawContext :=
  { draw with lightMap := s.lightMap, visibility := s.visibility }

/-- What an object binds for the pass that is set up. -/
def settersOf (scene : Scene) (draw : DrawContext) (s : Submission) : List Setter :=
  [.transforms scene s.world, .sceneInfo scene (drawnWith draw s),
      .textureStages (drawnWith draw s)] ++
    (s.vertices.map fun h => [.buffers h s.indices]).getD []

/-- One object in the pass that is set up. -/
def shows (f : Form) (scene : Scene) (draw : DrawContext) (s : Submission) : List Event :=
  (settersOf scene draw s).flatMap (·.events f) ++ [.call (.draw s.range)]

/-- Objects are drawn in one pass after another, as long as there is one to set up. -/
inductive DrawsThrough (limits : Limits) (scene : Scene) (objects : List Submission) :
    DrawContext → Form → Nat → List Event → Form → Prop where
  | done {draw : DrawContext} {f f' : Form} {step : List Event}
      (h : f.setupPass limits scene draw = (false, step, f')) :
      DrawsThrough limits scene objects draw f 0 step f'
  | round {draw : DrawContext} {f f' f'' : Form} {rounds : Nat} {step rest : List Event}
      (h : f.setupPass limits scene draw = (true, step, f'))
      (hrest : DrawsThrough limits scene objects (objects.foldl drawnWith draw) f' rounds rest f'') :
      DrawsThrough limits scene objects draw f (rounds + 1)
        (step ++ objects.flatMap (f'.shows scene draw) ++ rest) f''

/-- The loop can go one way only. -/
theorem DrawsThrough.unique {limits : Limits} {scene : Scene} {objects : List Submission}
    {draw : DrawContext} {f f₁ f₂ : Form} {rounds₁ rounds₂ : Nat} {events₁ events₂ : List Event}
    (h₁ : DrawsThrough limits scene objects draw f rounds₁ events₁ f₁)
    (h₂ : DrawsThrough limits scene objects draw f rounds₂ events₂ f₂) :
    rounds₁ = rounds₂ ∧ events₁ = events₂ ∧ f₁ = f₂ := by
  induction h₁ generalizing rounds₂ events₂ f₂ with
  | done hstep₁ =>
      cases h₂ with
      | done hstep₂ =>
          cases hstep₁.symm.trans hstep₂
          exact ⟨rfl, rfl, rfl⟩
      | round hstep₂ hrest₂ => cases hstep₁.symm.trans hstep₂
  | round hstep₁ hrest₁ ih =>
      cases h₂ with
      | done hstep₂ => cases hstep₁.symm.trans hstep₂
      | round hstep₂ hrest₂ =>
          cases hstep₁.symm.trans hstep₂
          obtain ⟨rfl, rfl, rfl⟩ := ih hrest₂
          exact ⟨rfl, rfl, rfl⟩

section

variable {limits : Limits} {scene : Scene} {draw : DrawContext} {objects : List Submission}
  {bin : BinKind}

theorem before_nextPass (f : Form) : f.before f.nextPass = f := by
  obtain ⟨material, format, variant, isHook, built, error, current⟩ := f
  cases current <;> rfl

theorem drawnWith_objects (draw : DrawContext) (objects : List Submission) :
    (objects.foldl drawnWith draw).bin = draw.bin ∧
      (objects.foldl drawnWith draw).wireframe = draw.wireframe := by
  induction objects generalizing draw with
  | nil => exact ⟨rfl, rfl⟩
  | cons s rest ih => exact ih (drawnWith draw s)

/-- Setting a pass up does not depend on the objects drawn before. -/
theorem setup_of_draw (hbin : draw.bin = bin) (hwireframe : draw.wireframe = false) :
    b.setup limits scene draw p = b.setup limits scene { bin := bin } p := by
  rw [BuiltMaterial.setup, BuiltMaterial.setup, BuiltMaterial.conditions, BuiltMaterial.conditions,
    hbin, hwireframe]

theorem shows_before (hb : f.built = some b) (hp : b.passes[n]? = some p)
    (hbin : draw.bin = bin) (hwireframe : draw.wireframe = false) (scene : Scene) (s : Submission) :
    (f.before (n + 1)).shows scene draw s = objectEvents b scene bin p s := by
  have hcurrent (g : BuiltMaterial → Pass → List Event) :
      (f.before (n + 1)).onCurrent g = g b p := by
    rw [onCurrent, built_before, hb]
    exact BuiltMaterial.onPass_of_getElem? hp
  have hbuffers (h : BufferHandle) (indices : Option BufferHandle) :
      (f.before (n + 1)).setBuffers h indices = BuiltMaterial.setBuffers h indices := by
    rw [setBuffers, isBuilt, built_before, hb]
    rfl
  have hdraw : drawnWith draw s =
      { bin := bin, lightMap := s.lightMap, visibility := s.visibility } := by
    rw [drawnWith, hbin, hwireframe]
  rw [shows, settersOf, objectEvents, hdraw]
  cases s.vertices <;> simp [Setter.events, hcurrent, hbuffers]

/-- The rounds that are left, from the step into the pass numbered `n`. -/
theorem drawsThrough_before (limits : Limits) (scene : Scene) (objects : List Submission)
    (hb : f.built = some b) (hbin : draw.bin = bin) (hwireframe : draw.wireframe = false) (n : Nat) :
    DrawsThrough limits scene objects draw (f.before n) (b.passes.drop n).length
      (b.leaving n ++ (b.passes.drop n).flatMap (roundEvents b limits scene bin objects))
      (f.before 0) := by
  induction hleft : b.passes.drop n generalizing n draw with
  | nil =>
      have hn : b.passes[n]? = none := List.getElem?_eq_none (List.drop_eq_nil_iff.mp hleft)
      rw [List.flatMap_nil, List.append_nil]
      exact .done (by rw [setupPass_before hb, hn])
  | cons p rest ih =>
      have hp : b.passes[n]? = some p := by
        rw [← List.head?_drop, hleft]
        rfl
      have hrest : b.passes.drop (n + 1) = rest := by
        rw [← List.tail_drop, hleft]
        rfl
      obtain ⟨hbin', hwireframe'⟩ := drawnWith_objects draw objects
      have hround := ih (hbin'.trans hbin) (hwireframe'.trans hwireframe) (n + 1) hrest
      have hevents : b.leaving n ++ (p :: rest).flatMap (roundEvents b limits scene bin objects) =
          b.leaving n ++ b.setup limits scene draw p
            ++ objects.flatMap ((f.before (n + 1)).shows scene draw)
            ++ (b.leaving (n + 1) ++ rest.flatMap (roundEvents b limits scene bin objects)) := by
        rw [List.flatMap_cons, roundEvents, setup_of_draw hbin hwireframe,
          funext (shows_before hb hp hbin hwireframe scene), BuiltMaterial.leaving,
          BuiltMaterial.onPass_of_getElem? hp]
        simp only [List.append_assoc]
      rw [hevents]
      exact .round (by rw [setupPass_before hb, hp]) hround

end

theorem drawsThrough_drawEvents (f : Form) (limits : Limits) (scene : Scene) (bin : BinKind)
    (objects : List Submission) :
    DrawsThrough limits scene objects { bin := bin } f f.remainingPasses.length
      (f.drawEvents limits scene bin objects) { f with current := none } := by
  rcases f.built.eq_none_or_eq_some with hb | ⟨b, hb⟩
  · have hleft : f.remainingPasses.length = 0 := by
      rw [remainingPasses, hb, Option.map_none, Option.getD_none, List.drop_nil, List.length_nil]
    have hevents : f.drawEvents limits scene bin objects = [] := by
      rw [drawEvents, hb]
    rw [hleft, hevents]
    exact .done (setupPass_of_not_built hb ..)
  · have hleft : f.remainingPasses = b.passes.drop f.nextPass := by
      rw [remainingPasses, hb, Option.map_some, Option.getD_some]
    have hevents : f.drawEvents limits scene bin objects = b.leaving f.nextPass ++
        f.remainingPasses.flatMap (roundEvents b limits scene bin objects) := by
      rw [drawEvents, hb, ← leavePass_before hb, before_nextPass]
    have hrounds : DrawsThrough limits scene objects { bin := bin } (f.before f.nextPass) _ _ _ :=
      drawsThrough_before limits scene objects hb rfl rfl f.nextPass
    rw [hevents, hleft]
    rwa [before_nextPass] at hrounds

/-- **Drawing with a form.**  The loop that sets one pass after another up and draws all objects in it
goes through the passes that are left, does what drawing with the form does, and leaves no pass set
up. -/
theorem drawsThrough_iff {limits : Limits} {scene : Scene} {bin : BinKind}
    {objects : List Submission} {f f' : Form} {rounds : Nat} {events : List Event} :
    DrawsThrough limits scene objects { bin := bin } f rounds events f' ↔
      rounds = f.remainingPasses.length ∧ events = f.drawEvents limits scene bin objects ∧
        f' = { f with current := none } := by
  have hdraws := f.drawsThrough_drawEvents limits scene bin objects
  constructor
  · exact fun h => h.unique hdraws
  · rintro ⟨rfl, rfl, rfl⟩
    exact hdraws

end Form

end MaterialPipeline
