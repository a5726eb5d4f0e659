import MaterialPipeline.Proofs.Pass.Cover
import MaterialPipeline.Proofs.Pass.Derivation

/-!
# Proofs — Pass — Standing

What the passes are that packing returns, read off its run.  Each was built over a block of layers
by a try that was accepted, and what it got on the device then is still there when packing ends.

* `Session.Extends`: programs and state objects stay where they are.
* `Packer.Stands`: a pass as it was built, in a later session.  Its program and its states are read
off it (`Stands.program`, `Stands.state`).
* `Packer.Laid`: passes that stand over blocks of layers, one block after another.  It is what one
pass preserves (`Laid.snoc`), and so what packing returns (`Packer.laid_of_buildPasses`).
-/

namespace MaterialPipeline

open MaterialPipeline.Action

variable {s s' s'' : Session}

/-! ### What stays on the device -/

/-- The programs and the state objects of the session `s` are in the session `s'`, behind the same
handles. -/
structure Session.Extends (s s' : Session) : Prop where
  keeps : s.Keeps s'
  states : s.device.states.toList <+: s'.device.states.toList

namespace Session.Extends

theorem of_eq (hprograms : s'.device.programs = s.device.programs)
    (hstates : s'.device.states = s.device.states) : s.Extends s' := by
  refine ⟨?_, by rw [hstates]⟩
  rw [Session.Keeps, hprograms]

theorem refl (s : Session) : s.Extends s :=
  .of_eq rfl rfl

theorem trans (h : s.Extends s') (h' : s'.Extends s'') : s.Extends s'' :=
  ⟨h.keeps.trans h'.keeps, h.states.trans h'.states⟩

theorem state? (h : s.Extends s') {handle : StateHandle} {block : StateBlock}
    (hstate : s.device.state? handle = some block) : s'.device.state? handle = some block := by
  obtain ⟨later, e⟩ := h.states
  rw [Device.state?, ← Array.getElem?_toList] at hstate ⊢
  obtain ⟨hlt, -⟩ := List.getElem?_eq_some_iff.mp hstate
  rw [← e, List.getElem?_append_left hlt, hstate]

end Session.Extends

/-- What the states of a pass depend on, besides what holds for all passes of the material. -/
def Pass.inputs (pass : Pass) (shared : StateInputs) : StateInputs :=
  { shared with passComposite := pass.composite, samplers := pass.samplers }

namespace Packer

variable {p : Packer} {first : Layer} {layers layers' block : List Layer} {pass : Pass}
  {index : Nat}

/-! ### Passes that stand -/

/-- The pass numbered `index` was built over `block` by a try that was accepted, and what it got on
the device is there in the session `s'`. -/
def StandsAt (p : Packer) (s' : Session) (index : Nat) (block : List Layer) (pass : Pass) : Prop :=
  ∃ s, p.Accepts s.device.refusal index block ∧ pass = p.passOver s index block ∧
    (p.built s index block).Extends s'

/-- The pass was built over `block` by a try that was accepted, and what it got on the device is
there in the session `s'`. -/
def Stands (p : Packer) (s' : Session) (block : List Layer) (pass : Pass) : Prop :=
  ∃ s index, p.Accepts s.device.refusal index block ∧ pass = p.passOver s index block ∧
    (p.built s index block).Extends s'

namespace StandsAt

theorem mono (h : p.StandsAt s index block pass) (hlater : s.Extends s') :
    p.StandsAt s' index block pass := by
  obtain ⟨s₀, haccepts, rfl, hextends⟩ := h
  exact ⟨s₀, haccepts, rfl, hextends.trans hlater⟩

theorem stands (h : p.StandsAt s index block pass) : p.Stands s block pass := by
  obtain ⟨s₀, hstands⟩ := h
  exact ⟨s₀, index, hstands⟩

theorem features (h : p.StandsAt s index block pass) : pass.features = Layer.union block := by
  obtain ⟨_, -, rfl, -⟩ := h
  rfl

theorem program (h : p.StandsAt s index block pass) :
    s.device.program? pass.program = some (p.program index block) := by
  obtain ⟨s₀, -, rfl, hextends⟩ := h
  exact hextends.keeps.program? program?_built

end StandsAt

namespace Stands

theorem mono (h : p.Stands s block pass) (hlater : s.Extends s') : p.Stands s' block pass := by
  obtain ⟨s₀, index, haccepts, rfl, hextends⟩ := h
  exact ⟨s₀, index, haccepts, rfl, hextends.trans hlater⟩

theorem fits (h : p.Stands s block pass) : (p.cost block).fits p.limits = true := by
  obtain ⟨_, _, haccepts, -⟩ := h
  exact haccepts.2.1

theorem stages (h : p.Stands s block pass) : pass.stages = block.map (·.stage) := by
  obtain ⟨_, _, -, rfl, -⟩ := h
  rfl

theorem bindings (h : p.Stands s block pass) : pass.bindings = p.bindings block := by
  obtain ⟨_, _, -, rfl, -⟩ := h
  rfl

theorem samplers (h : p.Stands s block pass) :
    pass.samplers = (p.bindings block).map (samplerOf block) := by
  obtain ⟨_, _, -, rfl, -⟩ := h
  rfl

/-- A pass has a state object for each render condition. -/
theorem length_states (h : p.Stands s block pass) : pass.states.length = Conditions.count := by
  obtain ⟨_, _, -, rfl, -⟩ := h
  rw [passOver, List.length_map, List.length_range', stateLayers, List.length_map]
  rfl

/-- The program of a pass is on the device, and its constants are those of the pass. -/
theorem program (h : p.Stands s block pass) : ∃ index,
    s.device.program? pass.program = some (p.program index block) ∧
      pass.constants = .ofUniforms (p.program index block).uniforms := by
  obtain ⟨s₀, index, hstands⟩ := h
  refine ⟨index, StandsAt.program ⟨s₀, hstands⟩, ?_⟩
  obtain ⟨-, rfl, -⟩ := hstands
  rfl

/-- The state of a pass under any conditions is on the device. -/
theorem state (h : p.Stands s block pass) (c : Conditions) :
    s.device.state? (pass.state c) = some ((pass.inputs p.inputs).layered c).resolve := by
  obtain ⟨s₀, index, -, rfl, hextends⟩ := h
  refine hextends.state? ?_
  obtain ⟨hbits, -⟩ := List.getElem?_eq_some_iff.mp c.getElem?_all
  have hlayer : (p.stateLayers index block)[c.bits]? =
      some (((p.passOver s₀ index block).inputs p.inputs).layered c) := by
    rw [stateLayers, List.getElem?_map, c.getElem?_all]
    rfl
  have hlength : c.bits < (p.stateLayers index block).length :=
    (List.getElem?_eq_some_iff.mp hlayer).1
  have hhandle : (p.passOver s₀ index block).state c = ⟨s₀.device.states.size + c.bits⟩ := by
    rw [Pass.state, passOver, List.getElem?_map, List.getElem?_range' hlength, Nat.one_mul]
    rfl
  have hstates : (p.built s₀ index block).device.states =
      s₀.device.states ++ ((p.stateLayers index block).map (·.resolve)).toArray := rfl
  rw [hhandle, Device.state?, hstates, Array.getElem?_append_right (Nat.le_add_right ..),
    Nat.add_sub_cancel_left, List.getElem?_toArray, List.getElem?_map, hlayer]
  rfl

end Stands

/-! ### Packing -/

theorem extends_after (p : Packer) (s : Session) (first : Layer) (index : Nat)
    (block : List Layer) : s.Extends (p.after s first index block) := by
  unfold after
  split
  · exact ⟨keeps_built, by simp [built, Session.withStates, Device.compiled, Device.record]⟩
  · exact .of_eq rfl rfl

theorem extends_of_attempt {attempt : Attempt}
    (hrun : (p.attempt first block index).run s = .ok (attempt, s')) : s.Extends s' := by
  obtain ⟨-, rfl⟩ := of_run_attempt hrun
  exact p.extends_after s first index block

theorem stands_of_attempt
    (hrun : (p.attempt first block index).run s = .ok (.built pass, s')) :
    p.StandsAt s' index block pass := by
  obtain ⟨hbuilt, rfl⟩ := of_run_attempt hrun
  by_cases haccepts : p.Accepts s.device.refusal index block
  · rw [outcome, verdict_eq_accepted_iff.mpr haccepts] at hbuilt
    cases hbuilt
    exact ⟨s, haccepts, rfl, after_of_accepts haccepts ▸ .refl _⟩
  · -- Any other verdict builds nothing.
    unfold outcome at hbuilt
    split at hbuilt
    · cases hbuilt
    · split at hbuilt <;> cases hbuilt
    · split at hbuilt <;> cases hbuilt
    next hverdict => exact absurd (verdict_eq_accepted_iff.mp hverdict) haccepts

theorem stands_of_tryCounts {count : Nat} {counts : List Nat}
    (hrun : (p.tryCounts first layers index counts).run s = .ok (.ok (pass, count), s')) :
    s.Extends s' ∧ count ∈ counts ∧ p.StandsAt s' index (layers.take count) pass := by
  induction counts generalizing s with
  | nil => cases hrun
  | cons n rest ih =>
      obtain ⟨attempt, s₁, hattempt, hrun⟩ := of_run_bind hrun
      have hextends := extends_of_attempt hattempt
      cases attempt with
      | built pass' =>
          cases hrun
          exact ⟨hextends, List.mem_cons_self, stands_of_attempt hattempt⟩
      | fatal error => cases hrun
      | retry =>
          obtain ⟨hrest, hcount, hstands⟩ := ih hrun
          exact ⟨hextends.trans hrest, List.mem_cons_of_mem _ hcount, hstands⟩

/-- The passes stand over blocks of layers that, one after another, make up all layers. -/
structure Laid (p : Packer) (s : Session) (layers : List Layer) (passes : List Pass)
    (blocks : List (List Layer)) : Prop where
  flatten : blocks.flatten = layers
  length : blocks.length = passes.length
  nonempty : ∀ block ∈ blocks, block ≠ []
  stands : ∀ i block pass, blocks[i]? = some block → passes[i]? = some pass →
    p.StandsAt s i block pass

namespace Laid

variable {passes : List Pass} {blocks : List (List Layer)}

theorem nil (p : Packer) (s : Session) : p.Laid s [] [] [] where
  flatten := rfl
  length := rfl
  nonempty _ h := absurd h List.not_mem_nil
  stands i block pass h := by cases h

theorem mono (h : p.Laid s layers passes blocks) (hlater : s.Extends s') :
    p.Laid s' layers passes blocks :=
  { h with stands := fun i block pass hb hp => (h.stands i block pass hb hp).mono hlater }

/-- One more pass stands over the layers that come next. -/
theorem snoc (h : p.Laid s layers passes blocks) (hne : block ≠ [])
    (hstands : p.StandsAt s passes.length block pass) :
    p.Laid s (layers ++ block) (passes ++ [pass]) (blocks ++ [block]) where
  flatten := by rw [List.flatten_append, h.flatten, List.flatten_singleton]
  length := by rw [List.length_append, List.length_append, h.length]; rfl
  nonempty b hb := (List.mem_append.mp hb).elim (h.nonempty b) fun hb =>
    List.mem_singleton.mp hb ▸ hne
  stands i b q hb hq := by
    rw [List.getElem?_append] at hb hq
    rw [h.length] at hb
    split at hb
    next hi =>
      rw [if_pos hi] at hq
      exact h.stands i b q hb hq
    next hi =>
      rw [if_neg hi] at hq
      rw [List.getElem?_singleton] at hb hq
      split at hb
      next hi' =>
        rw [if_pos hi'] at hq
        obtain rfl : i = passes.length := by omega
        cases hb
        cases hq
        exact hstands
      next => cases hb

/-- Every pass stands over one of the blocks. -/
theorem of_mem (h : p.Laid s layers passes blocks) (hpass : pass ∈ passes) :
    ∃ index, ∃ block ∈ blocks, p.StandsAt s index block pass := by
  obtain ⟨i, hi, rfl⟩ := List.getElem_of_mem hpass
  have hi' : i < blocks.length := h.length ▸ hi
  exact ⟨i, blocks[i], List.getElem_mem hi',
    h.stands i _ _ (List.getElem?_eq_getElem hi') (List.getElem?_eq_getElem hi)⟩

end Laid

theorem laid_of_packFrom {built passes : List Pass} {blocks : List (List Layer)}
    {taken : List Layer} (hbuilt : p.Laid s taken built blocks)
    (hrun : (p.packFrom built layers).run s = .ok (.ok passes, s')) :
    ∃ blocks', p.Laid s' (taken ++ layers) passes blocks' := by
  induction built, layers using packFrom.induct generalizing s taken blocks with
  | case1 built =>
      rw [packFrom] at hrun
      cases hrun
      exact ⟨blocks, by rw [List.append_nil]; exact hbuilt⟩
  | case2 built first rest ih =>
      rw [packFrom] at hrun
      obtain ⟨result, s₁, hpass, hrun⟩ := of_run_bind hrun
      cases result with
      | error error =>
          obtain ⟨_, _, -, hrun⟩ := of_run_bind hrun
          cases hrun
      | ok result =>
          obtain ⟨pass, count⟩ := result
          obtain ⟨hextends, hcount, hstands⟩ := stands_of_tryCounts hpass
          obtain ⟨hpos, -⟩ := bounds_of_mem_halvings hcount
          have hne : (first :: rest).take count ≠ [] := by
            simp only [ne_eq, List.take_eq_nil_iff, List.cons_ne_nil, or_false]
            omega
          obtain ⟨blocks', hlaid⟩ := ih pass count ((hbuilt.mono hextends).snoc hne hstands) hrun
          refine ⟨blocks', ?_⟩
          -- The pass takes the first `count` layers, and the others are left.
          obtain ⟨n, rfl⟩ := Nat.exists_eq_add_of_le' hpos
          rwa [List.append_assoc, show rest.drop (n + 1 - 1) = (first :: rest).drop (n + 1) from rfl,
            List.take_append_drop] at hlaid

/-- **The passes of a packing.**  They stand over the layers, block by block. -/
theorem laid_of_buildPasses {passes : List Pass}
    (hrun : (p.buildPasses layers).run s = .ok (.ok passes, s')) :
    ∃ blocks, p.Laid s' layers passes blocks := by
  unfold buildPasses at hrun
  split at hrun
  · cases hrun
  · exact laid_of_packFrom (.nil p s) hrun

/-- The pass stands over some of the layers, which come one after another. -/
def StandsWithin (p : Packer) (s : Session) (layers : List Layer) (pass : Pass) : Prop :=
  ∃ block, block ≠ [] ∧ block <:+: layers ∧ p.Stands s block pass

theorem StandsWithin.mono (h : p.StandsWithin s layers pass) (hlater : s.Extends s') :
    p.StandsWithin s' layers pass := by
  obtain ⟨block, hne, hblock, hstands⟩ := h
  exact ⟨block, hne, hblock, hstands.mono hlater⟩

/-- Each pass of a packing stands over some of the layers. -/
theorem stands_of_buildPasses {passes : List Pass}
    (hrun : (p.buildPasses layers).run s = .ok (.ok passes, s')) :
    ∀ pass ∈ passes, p.StandsWithin s' layers pass := by
  intro pass hpass
  obtain ⟨blocks, hlaid⟩ := laid_of_buildPasses hrun
  obtain ⟨index, block, hblock, hstands⟩ := hlaid.of_mem hpass
  exact ⟨block, hlaid.nonempty block hblock,
    hlaid.flatten ▸ List.infix_of_mem_flatten hblock, hstands.stands⟩

end Packer

end MaterialPipeline
