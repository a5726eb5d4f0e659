import MaterialPipeline.Pass.Packing
import MaterialPipeline.Proofs.Program.Total
import MaterialPipeline.Proofs.Session.Runs

/-!
# Proofs — Pass — Attempt

One try to build a pass over a block of layers, as a function of what the compiler answers
(`refusal`).  What the try comes to is its `Verdict`: the block has no features, it is over the
budget, its program is refused, or it is accepted.  `run_attempt` says that the run of
`Packer.attempt` ends as the verdict says (`Packer.outcome`) and leaves the session that the verdict
says (`Packer.after`).

Only an accepted try creates anything on the device.  The others add to the trace and to the notes
alone, so the compiler answers a later try of the same pass as it would have at first.
-/

namespace MaterialPipeline

/-- The features of several layers together. -/
def Layer.union (layers : List Layer) : FeatureSet :=
  .mergeAll (layers.map (·.features))

/-! ### Creating states -/

namespace Session

/-- The session after a state object was created from each of `layers`. -/
def withStates (s : Session) (layers : List StateLayer) : Session where
  device := { s.device with
    states := s.device.states ++ (layers.map (·.resolve)).toArray
    calls := s.device.calls ++ ((List.range' s.device.states.size layers.length).map
      fun n => Call.createState ⟨n⟩).toArray }
  notes := s.notes ++ (layers.flatMap (·.resolveNotes)).toArray

end Session

namespace Packer

theorem run_createState (layer : StateLayer) (s : Session) :
    (createState layer).run s = .ok (⟨s.device.states.size⟩, s.withStates [layer]) := by
  rw [createState, Action.run_bind (Action.run_reportAll _ s), Action.run_onDevice]
  simp [Session.extend, Session.withStates, Device.createState, Device.record]

/-- The state objects of a pass get consecutive numbers. -/
theorem run_mapM_createState : ∀ (layers : List StateLayer) (s : Session),
    (layers.mapM createState).run s =
      .ok ((List.range' s.device.states.size layers.length).map (⟨·⟩), s.withStates layers)
  | [], s => by
      have e : s.withStates [] = s := by simp [Session.withStates]
      rw [List.mapM_nil, Action.run_pure, e]
      rfl
  | layer :: layers, s => by
      have htail := run_mapM_createState layers (s.withStates [layer])
      rw [List.mapM_cons, Action.run_bind (run_createState layer s), Action.run_bind htail,
        Action.run_pure]
      simp [Session.withStates, List.range'_succ, Array.append_assoc]

/-! ### What a try comes to -/

/-- What the features of a block cost. -/
def cost (p : Packer) (block : List Layer) : Cost :=
  p.registry.total (Layer.union block)

/-- The program of a block, within the pass numbered `index`. -/
def program (p : Packer) (index : Nat) (block : List Layer) : Program :=
  p.registry.assemble p.format s!"{p.label}:{index}" (Layer.union block)

/-- The textures of a block. -/
def bindings (p : Packer) (block : List Layer) : List Binding :=
  p.registry.bindings (Layer.union block)

/-- The states of a block, by the bits of their conditions. -/
def stateLayers (p : Packer) (index : Nat) (block : List Layer) : List StateLayer :=
  Conditions.all.map { p.inputs with
    passComposite := compositeOf index
    samplers := (p.bindings block).map (samplerOf block) }.layered

/-- The pass over a block that a session would build next. -/
def passOver (p : Packer) (s : Session) (index : Nat) (block : List Layer) : Pass where
  program := ⟨s.device.programs.size⟩
  constants := .ofUniforms (p.program index block).uniforms
  states := (List.range' s.device.states.size (p.stateLayers index block).length).map (⟨·⟩)
  stages := block.map (·.stage)
  features := Layer.union block
  bindings := p.bindings block
  samplers := (p.bindings block).map (samplerOf block)
  cost := p.cost block
  composite := compositeOf index

/-- The session after the pass over a block was built. -/
def built (p : Packer) (s : Session) (index : Nat) (block : List Layer) : Session :=
  { s with device := s.device.compiled (p.program index block) }.withStates
    (p.stateLayers index block)

/-- What a try may come to. -/
inductive Verdict where
  /-- The block has no features. -/
  | empty
  /-- The features are over the budget. -/
  | overflow
  /-- The device refuses the program. -/
  | refused (error : DeviceError)
  | accepted

/-- What a try over a block comes to. -/
def verdict (p : Packer) (refusal : Program → Option DeviceError) (index : Nat)
    (block : List Layer) : Verdict :=
  if (Layer.union block).isEmpty then .empty
  else if (p.cost block).fits p.limits then
    match refusal (p.program index block) with
    | some error => .refused error
    | none => .accepted
  else .overflow

/-- How a try over a block with the first layer `first` ends. -/
def outcome (p : Packer) (s : Session) (first : Layer) (index : Nat) (block : List Layer) :
    Attempt :=
  match p.verdict s.device.refusal index block with
  | .empty => .fatal (.emptyFeatures first.stage)
  | .overflow =>
    if block.length = 1 then
      .fatal (.overflow first.stage (p.cost block).textures (p.cost block).interpolators)
    else .retry
  | .refused error => if block.length = 1 then .fatal (.compile first.stage error) else .retry
  | .accepted => .built (p.passOver s index block)

/-- The call that compiles the program of a block. -/
def compileCall (p : Packer) (index : Nat) (block : List Layer) : Call :=
  .createProgram (p.program index block).label (p.program index block).features

/-- The calls that a try over a block makes before it knows its verdict. -/
def tryCalls (p : Packer) (index : Nat) (block : List Layer) : List Call :=
  if (Layer.union block).isEmpty = false ∧ (p.cost block).fits p.limits then
    [p.compileCall index block]
  else []

/-- What a try over a block with the first layer `first` reports of a verdict against it. -/
def tryNotes (p : Packer) (refusal : Program → Option DeviceError) (first : Layer) (index : Nat)
    (block : List Layer) : List Note :=
  match p.verdict refusal index block with
  | .overflow => [p.overflowNote first block.length index (p.cost block)]
  | .refused error => [p.compileNote first block.length index error]
  | .empty | .accepted => []

/-- The session after a try over a block with the first layer `first`. -/
def after (p : Packer) (s : Session) (first : Layer) (index : Nat) (block : List Layer) : Session :=
  match p.verdict s.device.refusal index block with
  | .accepted => p.built s index block
  | _ => s.extend (p.tryCalls index block) (p.tryNotes s.device.refusal first index block)

/-! ### The run of a try -/

theorem run_finish (p : Packer) (s : Session) (index : Nat) (block : List Layer) :
    (p.finish ⟨s.device.programs.size⟩ (p.program index block) (Layer.union block) block index
        (p.cost block)).run { s with device := s.device.compiled (p.program index block) } =
      .ok (p.passOver s index block, p.built s index block) := by
  have hstates := run_mapM_createState (p.stateLayers index block)
    { s with device := s.device.compiled (p.program index block) }
  rw [stateLayers, List.mapM_map] at hstates
  rw [finish]
  exact (Action.run_bind hstates).trans rfl

/-- A try ends as its verdict says, if the features that it measures are bounded. -/
theorem run_attempt {p : Packer} {block : List Layer}
    (h : (Layer.union block).isEmpty = false → (p.cost block).Bounded) (s : Session)
    (first : Layer) (index : Nat) :
    (p.attempt first block index).run s =
      .ok (p.outcome s first index block, p.after s first index block) := by
  have hunion : FeatureSet.mergeAll (block.map (·.features)) = Layer.union block := rfl
  have hprogram : p.registry.assemble p.format s!"{p.label}:{index}" (Layer.union block) =
      p.program index block := rfl
  unfold attempt outcome after tryCalls tryNotes verdict
  simp only [hunion]
  by_cases hempty : (Layer.union block).isEmpty
  · simp only [hempty, if_true, Bool.true_eq_false, false_and, if_false, Session.extend_nil]
    rfl
  · have hmeasure : p.registry.measure (Layer.union block) = .ok (p.cost block) :=
      Registry.measure_of_bounded (h (Bool.eq_false_iff.mpr hempty))
    simp only [hempty, Bool.false_eq_true, if_false, true_and]
    rw [Action.run_lift_bind hmeasure]
    by_cases hfits : (p.cost block).fits p.limits
    · simp only [hfits, if_true]
      rw [Action.run_bind (Action.run_onDevice _ s)]
      cases hrefusal : s.device.refusal (p.program index block) with
      | some error =>
          simp only [hprogram, Device.createProgram_of_some hrefusal]
          rw [Action.run_bind (Action.run_report _ _), Session.record_eq_extend,
            Session.extend_extend]
          rfl
      | none =>
          simp only [hprogram, Device.createProgram_of_none hrefusal]
          rw [Action.run_bind (run_finish p s index block)]
          rfl
    · simp only [hfits, Bool.false_eq_true, if_false]
      rw [Action.run_bind (Action.run_report _ _)]
      rfl

/-- A try stops if 32 bits do not hold what the features cost. -/
theorem run_attempt_of_not_bounded {p : Packer} {block : List Layer}
    (hempty : (Layer.union block).isEmpty = false) (hnot : ¬ (p.cost block).Bounded) (s : Session)
    (first : Layer) (index : Nat) :
    (p.attempt first block index).run s = .error .addOverflow := by
  have hempty : (FeatureSet.mergeAll (block.map (·.features))).isEmpty = false := hempty
  have hmeasure : p.registry.measure (.mergeAll (block.map (·.features))) =
      .error .addOverflow := (Registry.measure_eq ..).trans (if_neg hnot)
  unfold Packer.attempt
  simp only [hempty, hmeasure]
  rfl

/-- A try that does not stop has measured the features, if there are any, so it ends as its verdict
says. -/
theorem of_run_attempt {p : Packer} {s s' : Session} {first : Layer} {index : Nat}
    {block : List Layer} {attempt : Attempt}
    (hrun : (p.attempt first block index).run s = .ok (attempt, s')) :
    attempt = p.outcome s first index block ∧ s' = p.after s first index block := by
  have hbounded : (Layer.union block).isEmpty = false → (p.cost block).Bounded := by
    intro hempty
    refine Decidable.byContradiction fun hnot => ?_
    cases (run_attempt_of_not_bounded hempty hnot s first index).symm.trans hrun
  cases (run_attempt hbounded s first index).symm.trans hrun
  exact ⟨rfl, rfl⟩

/-! ### Verdicts -/

/-- The features of a block are within the budget, and the device compiles their program. -/
def Compiles (p : Packer) (refusal : Program → Option DeviceError) (index : Nat)
    (block : List Layer) : Prop :=
  (p.cost block).fits p.limits = true ∧ refusal (p.program index block) = none

/-- The block has features, and they compile within the budget. -/
def Accepts (p : Packer) (refusal : Program → Option DeviceError) (index : Nat)
    (block : List Layer) : Prop :=
  (Layer.union block).isEmpty = false ∧ p.Compiles refusal index block

/-- The block has features, but over the budget or refused by the device. -/
def Rejects (p : Packer) (refusal : Program → Option DeviceError) (index : Nat)
    (block : List Layer) : Prop :=
  (Layer.union block).isEmpty = false ∧ ¬ p.Compiles refusal index block

section Verdicts

variable {p : Packer} {refusal : Program → Option DeviceError} {index : Nat} {block : List Layer}

theorem verdict_eq_empty_iff :
    p.verdict refusal index block = .empty ↔ (Layer.union block).isEmpty = true := by
  unfold verdict
  split
  next h => simp [h]
  next h =>
    split
    · split <;> simp [h]
    · simp [h]

theorem verdict_eq_accepted_iff :
    p.verdict refusal index block = .accepted ↔ p.Accepts refusal index block := by
  unfold verdict Accepts Compiles
  split
  next h => simp [h]
  next h =>
    split
    next hfits => split <;> simp_all
    next hfits => simp [hfits]

theorem fits_of_verdict_overflow (h : p.verdict refusal index block = .overflow) :
    (p.cost block).fits p.limits = false := by
  unfold verdict at h
  split at h
  · cases h
  · split at h
    · split at h <;> cases h
    next hfits => exact Bool.not_eq_true _ ▸ hfits

theorem refusal_of_verdict_refused {error : DeviceError}
    (h : p.verdict refusal index block = .refused error) :
    (p.cost block).fits p.limits = true ∧ refusal (p.program index block) = some error := by
  unfold verdict at h
  split at h
  · cases h
  · split at h
    next hfits =>
      split at h
      next error' hrefusal =>
        cases h
        exact ⟨hfits, hrefusal⟩
      · cases h
    · cases h

/-- A block is rejected exactly when its verdict is neither of the two that end the tries. -/
theorem rejects_iff : p.Rejects refusal index block ↔
    p.verdict refusal index block ≠ .empty ∧ p.verdict refusal index block ≠ .accepted := by
  rw [Ne, verdict_eq_empty_iff, Ne, verdict_eq_accepted_iff, Bool.not_eq_true]
  constructor
  · rintro ⟨hne, hnot⟩
    exact ⟨hne, fun h => hnot h.2⟩
  · rintro ⟨hne, hnot⟩
    exact ⟨hne, fun h => hnot ⟨hne, h⟩⟩

end Verdicts

end Packer

end MaterialPipeline
