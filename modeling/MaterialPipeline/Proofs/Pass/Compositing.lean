import MaterialPipeline.Proofs.Pass.Standing
import MaterialPipeline.Proofs.Session.Runs

/-!
# Proofs — Pass — Compositing

How the later passes of a material go over the earlier ones: what blending and depth come to once
the layers of state are stacked.

* `StateInputs.activeBlend_layered`, `StateInputs.depthWrite_layered`,
`StateInputs.depthCompare_layered`: how the stack mixes colours, and what it does with depths.
* `StateBlock.Composites`: a state that mixes colours by alpha and is hidden by what is nearer.
* `Packer.composites_of_buildPasses`: every pass but the first composites, under all conditions.
-/

namespace MaterialPipeline

open MaterialPipeline.Action

/-! ### The stack -/

namespace StateInputs

variable (i : StateInputs) (c : Conditions)

/-- The equation of the pass is in force if there is one, and else that of translucency. -/
theorem activeBlend_layered : (i.layered c).resolve.activeBlend = i.passComposite.blend?.or
    (if c.translucent then some (i.translucentComposite.blend?.getD .alpha) else none) := by
  rw [resolve_layered, ← blending_eq, StateBlock.activeBlend, derived]
  cases i.blending c <;> rfl

/-- Depths are written by an opaque first pass outside of the glow, and by whatever is drawn
translucent of a material that writes depth all the same. -/
theorem depthWrite_layered : (i.layered c).resolve.depthWrite =
    ((c.translucent && i.translucentZWrite) ||
      (i.passComposite.blend?.isNone && !c.translucent && !c.glow)) := by
  rw [resolve_layered, isNone_blend?, derived]

theorem depthEnable_layered : (i.layered c).resolve.depthEnable = true := by
  rw [resolve_layered, derived]

theorem depthCompare_layered : (i.layered c).resolve.depthCompare = .lessEqual := by
  rw [resolve_layered, derived]

end StateInputs

/-! ### Passes over passes -/

/-- Colours are mixed by alpha with those that are there, and hidden by what is nearer. -/
structure StateBlock.Composites (b : StateBlock) : Prop where
  blendEnable : b.blendEnable = true
  blend : b.blend = .alpha
  depthEnable : b.depthEnable = true
  depthCompare : b.depthCompare = .lessEqual

/-- An equation is in force that is the one the state holds. -/
theorem StateBlock.of_activeBlend {b : StateBlock} {blend : Blend}
    (h : b.activeBlend = some blend) : b.blendEnable = true ∧ b.blend = blend := by
  unfold activeBlend at h
  split at h
  next henable => exact ⟨henable, Option.some.inj h⟩
  next => cases h

/-- A pass that combines by alpha composites under all conditions. -/
theorem StateInputs.composites_layered {i : StateInputs} (h : i.passComposite = .lerpAlpha)
    (c : Conditions) : (i.layered c).resolve.Composites ∧
      (i.layered c).resolve.depthWrite = (c.translucent && i.translucentZWrite) := by
  have hblend : i.passComposite.blend? = some .alpha := by rw [h]; rfl
  have hactive := i.activeBlend_layered c
  rw [hblend, Option.some_or] at hactive
  obtain ⟨henable, hequation⟩ := StateBlock.of_activeBlend hactive
  refine ⟨⟨henable, hequation, i.depthEnable_layered c, i.depthCompare_layered c⟩, ?_⟩
  rw [i.depthWrite_layered, hblend, Option.isNone_some, Bool.false_and, Bool.false_and,
    Bool.or_false]

namespace Packer

variable {p : Packer} {layers : List Layer} {s s' : Session} {passes : List Pass} {pass : Pass}
  {n : Nat}

/-- **Later passes composite.**  However layers are packed, the state of every pass but the first
mixes its colours with those of the passes before it, under all conditions.  It writes depth where
it is drawn translucent and the material writes depth all the same, and nowhere else. -/
theorem composites_of_buildPasses
    (hrun : (p.buildPasses layers).run s = .ok (.ok passes, s')) (hn : n ≠ 0)
    (hpass : passes[n]? = some pass) (c : Conditions) :
    pass.composite = .lerpAlpha ∧ ∃ h block, pass.states[c.bits]? = some h ∧
      s'.device.state? h = some block ∧ block.Composites ∧
      block.depthWrite = (c.translucent && p.inputs.translucentZWrite) := by
  obtain ⟨blocks, hlaid⟩ := laid_of_buildPasses hrun
  obtain ⟨hlt, -⟩ := List.getElem?_eq_some_iff.mp hpass
  have hstands := hlaid.stands n _ pass (List.getElem?_eq_getElem (hlaid.length ▸ hlt)) hpass
  have hcomposite : pass.composite = .lerpAlpha := by
    obtain ⟨_, -, rfl, -⟩ := hstands
    exact if_neg hn
  have hbits : c.bits < pass.states.length := by
    rw [hstands.stands.length_states]
    exact (List.getElem?_eq_some_iff.mp c.getElem?_all).1
  have hstate := hstands.stands.state c
  rw [Pass.state, List.getElem?_eq_getElem hbits, Option.getD_some] at hstate
  exact ⟨hcomposite, _, _, List.getElem?_eq_getElem hbits, hstate,
    StateInputs.composites_layered hcomposite c⟩

/-! ### Two maps, one slot -/

/-- Packs the layers of a translucent material that writes depth, for devices that have a texture
slot for one of its maps at a time. -/
def glass : Packer where
  registry := .builtin
  format := .positionNormalUv
  limits := ⟨2, 10, true⟩
  label := "glass"
  inputs := .ofMaterial { name := "glass", translucent := true, translucentZWrite := true }

/-- Two layers with a map each. -/
def panes : List Layer :=
  [⟨0, .ofList [⟨.diffuseMap, some 0⟩], .wrapLinear⟩,
    ⟨1, .ofList [⟨.diffuseMap, some 1⟩], .wrapLinear⟩]

theorem two_passes_of_glass : ∃ passes s' pass,
    (glass.buildPasses panes).run {} = .ok (.ok passes, s') ∧ passes[1]? = some pass := by
  have hcheck : ((glass.buildPasses panes).run {}).toOption.any
      (fun r => r.1.toOption.any fun passes => passes[1]?.isSome) = true := by
    decide +kernel
  obtain ⟨⟨result, s'⟩, hrun, hgood⟩ := exists_of_any_toOption hcheck
  obtain ⟨passes, rfl, hgood⟩ := exists_of_any_toOption hgood
  obtain ⟨pass, hpass⟩ := Option.isSome_iff_exists.mp hgood
  exact ⟨passes, s', pass, hrun, hpass⟩

/-- The second pass over the glass writes depth where it is drawn translucent, and nowhere else. -/
theorem composites_of_buildPasses_glass : ∃ passes s' pass,
    (glass.buildPasses panes).run {} = .ok (.ok passes, s') ∧ 1 ≠ 0 ∧ passes[1]? = some pass ∧
      ∀ c : Conditions, pass.composite = .lerpAlpha ∧ ∃ h block, pass.states[c.bits]? = some h ∧
        s'.device.state? h = some block ∧ block.Composites ∧ block.depthWrite = c.translucent := by
  obtain ⟨passes, s', pass, hrun, hpass⟩ := two_passes_of_glass
  refine ⟨passes, s', pass, hrun, Nat.one_ne_zero, hpass, fun c => ?_⟩
  have h := composites_of_buildPasses hrun Nat.one_ne_zero hpass c
  rwa [show glass.inputs.translucentZWrite = true from rfl, Bool.and_true] at h

/-- Later passes may write depth. -/
theorem writes_depth_of_glass : ∃ passes s' pass h block,
    (glass.buildPasses panes).run {} = .ok (.ok passes, s') ∧ passes[1]? = some pass ∧
      pass.states[({ translucent := true } : Conditions).bits]? = some h ∧
      s'.device.state? h = some block ∧ block.depthWrite = true := by
  have hcheck : ((glass.buildPasses panes).run {}).toOption.any
      (fun r => r.1.toOption.any fun passes => passes[1]?.any fun pass =>
        pass.states[({ translucent := true } : Conditions).bits]?.any fun h =>
          (r.2.device.state? h).any (·.depthWrite)) = true := by
    decide +kernel
  obtain ⟨⟨result, s'⟩, hrun, hgood⟩ := exists_of_any_toOption hcheck
  obtain ⟨passes, rfl, hgood⟩ := exists_of_any_toOption hgood
  obtain ⟨pass, hpass, hgood⟩ := (Option.any_eq_true _ _).mp hgood
  obtain ⟨h, hstate, hgood⟩ := (Option.any_eq_true _ _).mp hgood
  obtain ⟨block, hblock, hwrite⟩ := (Option.any_eq_true _ _).mp hgood
  exact ⟨passes, s', pass, h, block, hrun, hpass, hstate, hblock, hwrite⟩

end Packer

end MaterialPipeline
