import MaterialPipeline.Pass.Conditions
import MaterialPipeline.Proofs.State.Layering

/-!
# Proofs — Pass — Derivation

What the states of a pass are.  Six layers are stacked, four of them under a condition; a layer out
of force changes nothing, so that the stack is the same under all conditions and each field is what
the topmost layer in force says that sets it.

* `StateInputs.set?_layered`: what the stack sets, layer by layer.
* `StateInputs.passLayer_eq`: the layer of the pass, field by field.
* `StateInputs.derived`: the state of a pass, each field from what it depends on.
* `StateInputs.states_derived`: the sixteen states are these, and each condition reaches few fields.
-/

namespace MaterialPipeline

/-! ### Layers under a condition -/

namespace StateLayer

variable {lower upper l : StateLayer}

/-- A layer where it is in force, and no settings elsewhere. -/
def onlyIf (on : Bool) (l : StateLayer) : StateLayer :=
  if on then l else empty

theorem layer_onlyIf (on : Bool) (lower upper : StateLayer) :
    lower.layer (upper.onlyIf on) = if on then lower.layer upper else lower := by
  cases on with
  | true => rfl
  | false => exact layer_empty lower

theorem set?_onlyIf (on : Bool) (l : StateLayer) (f : Field) :
    f.set? (l.onlyIf on) = (f.set? l).filter fun _ => on := by
  cases on with
  | true =>
      change f.set? l = _
      cases f.set? l <;> rfl
  | false =>
      rw [onlyIf, if_neg Bool.false_ne_true, set?_empty]
      cases f.set? l <;> rfl

theorem samplers_onlyIf (h : l.samplers = []) (on : Bool) : (l.onlyIf on).samplers = [] := by
  cases on with
  | true => exact h
  | false => rfl

theorem samplers_layer_of_lower (upper : StateLayer) (h : lower.samplers = []) :
    (lower.layer upper).samplers = upper.samplers := by
  rw [layer, h, layerSamplers]

theorem samplers_layer_of_upper (h : upper.samplers = []) :
    (lower.layer upper).samplers = lower.samplers := by
  rw [layer, h]
  cases lower.samplers <;> rfl

/-- A slot is read by its sampler, or else as the device reads it by default. -/
theorem getElem_samplers_resolve {samplers : List Sampler} (h : l.samplers = samplers.map some)
    {slot : Nat} (hslot : slot < maxSamplerSlots) :
    l.resolve.samplers[slot] = samplers[slot]?.getD .wrapLinear := by
  rw [resolve, Vector.getElem_ofFn, h, List.getElem?_map]
  cases samplers[slot]? <;> rfl

end StateLayer

/-- A dense state is its fields and its samplers. -/
theorem StateBlock.ext_of_value {s t : StateBlock}
    (hfields : ∀ f : StateLayer.Field, f.value s = f.value t)
    (hsamplers : s.samplers = t.samplers) : s = t := by
  obtain ⟨be, bl, ae, ar, af, cu, de, dw, dc, fi, co, se, st, sa⟩ := s
  obtain ⟨be', bl', ae', ar', af', cu', de', dw', dc', fi', co', se', st', sa'⟩ := t
  obtain rfl : be = be' := hfields .blendEnable
  obtain rfl : bl = bl' := hfields .blend
  obtain rfl : ae = ae' := hfields .alphaTestEnable
  obtain rfl : ar = ar' := hfields .alphaTestRef
  obtain rfl : af = af' := hfields .alphaTestFunc
  obtain rfl : cu = cu' := hfields .cull
  obtain rfl : de = de' := hfields .depthEnable
  obtain rfl : dw = dw' := hfields .depthWrite
  obtain rfl : dc = dc' := hfields .depthCompare
  obtain rfl : fi = fi' := hfields .fillMode
  obtain rfl : co = co' := hfields .colorWrites
  obtain rfl : se = se' := hfields .stencilEnable
  obtain rfl : st = st' := hfields .stencil
  obtain rfl : sa = sa' := hsamplers
  rfl

/-- The bits of conditions are their place among all. -/
theorem Conditions.getElem?_all (c : Conditions) : all[c.bits]? = some c := by
  obtain ⟨reflect, translucent, glow, wireframe⟩ := c
  cases reflect <;> cases translucent <;> cases glow <;> cases wireframe <;> rfl

namespace StateInputs

open StateLayer (Field)

variable (i : StateInputs) (c : Conditions)

/-! ### The stack -/

/-- The same six layers are stacked under all conditions, some of them out of force. -/
theorem layered_eq : i.layered c =
    (((((baseLayer.layer ((translucentLayer i.translucentComposite).onlyIf c.translucent)).layer
      (glowLayer.onlyIf c.glow)).layer (reflectLayer.onlyIf c.reflect)).layer (i.passLayer c)).layer
      (wireframeLayer.onlyIf c.wireframe)) := by
  simp only [StateLayer.layer_onlyIf]
  rfl

/-- The topmost layer in force that sets a field decides it. -/
theorem set?_layered (f : Field) : f.set? (i.layered c) =
    ((f.set? wireframeLayer).filter fun _ => c.wireframe).or
      ((f.set? (i.passLayer c)).or
        (((f.set? reflectLayer).filter fun _ => c.reflect).or
          (((f.set? glowLayer).filter fun _ => c.glow).or
            (((f.set? (translucentLayer i.translucentComposite)).filter fun _ => c.translucent).or
              (f.set? baseLayer))))) := by
  simp only [layered_eq, StateLayer.set?_layer, StateLayer.set?_onlyIf]

/-- The layer of the pass alone sets samplers. -/
theorem samplers_layered : (i.layered c).samplers = i.samplers.map some := by
  rw [layered_eq,
    StateLayer.samplers_layer_of_upper (StateLayer.samplers_onlyIf (l := wireframeLayer) rfl _)]
  refine StateLayer.samplers_layer_of_lower _ ?_
  rw [StateLayer.samplers_layer_of_upper (StateLayer.samplers_onlyIf (l := reflectLayer) rfl _),
    StateLayer.samplers_layer_of_upper (StateLayer.samplers_onlyIf (l := glowLayer) rfl _)]
  exact StateLayer.samplers_layer_of_upper
    (StateLayer.samplers_onlyIf (l := translucentLayer i.translucentComposite) rfl _)

/-- Where compositing and translucency both set depth writes, translucency comes after. -/
theorem passLayer_eq : i.passLayer c = {
    blendEnable := i.passComposite.blend?.map fun _ => true
    blend := i.passComposite.blend?
    alphaTestEnable := if i.alphaTest then some true else none
    alphaTestRef := if i.alphaTest then some i.alphaRef else none
    alphaTestFunc := if i.alphaTest then some .greaterEqual else none
    cull := if i.doubleSided then some .none else none
    depthWrite := if c.translucent && i.translucentZWrite then some true
      else i.passComposite.blend?.map fun _ => false
    depthCompare := i.passComposite.blend?.map fun _ => .lessEqual
    samplers := i.samplers.map some } := by
  unfold passLayer
  cases i.passComposite.blend? <;> cases c.translucent && i.translucentZWrite <;>
    cases i.alphaTest <;> cases i.doubleSided <;> rfl

/-! ### The states -/

/-- How colours are mixed, if they are: as the pass asks, or else as translucency does. -/
def blending : Option Blend :=
  if i.passComposite = .none then
    if c.translucent then some (i.translucentComposite.blend?.getD .alpha) else none
  else i.passComposite.blend?

/-- The state of a pass under the conditions `c`. -/
def derived : StateBlock :=
  { StateBlock.default with
    blendEnable := (i.blending c).isSome
    blend := (i.blending c).getD StateBlock.default.blend
    alphaTestEnable := i.alphaTest
    alphaTestRef := if i.alphaTest then i.alphaRef else StateBlock.default.alphaTestRef
    alphaTestFunc := .greaterEqual
    cull := if i.doubleSided then .none else if c.reflect then .front else .back
    depthEnable := true
    depthWrite := (c.translucent && i.translucentZWrite) ||
      (i.passComposite == .none && !c.translucent && !c.glow)
    depthCompare := .lessEqual
    fillMode := if c.wireframe then .line else .fill
    samplers := Vector.ofFn fun slot => i.samplers[slot.val]?.getD .wrapLinear }

theorem blending_eq : i.blending c = i.passComposite.blend?.or
    (if c.translucent then some (i.translucentComposite.blend?.getD .alpha) else none) := by
  unfold blending
  cases i.passComposite <;> rfl

theorem isNone_blend? : i.passComposite.blend?.isNone = (i.passComposite == .none) := by
  cases i.passComposite <;> rfl

/-- A field depends on the layers that set it, and a layer that leaves it open plays no part. -/
theorem value_layered (f : Field) : f.value (i.layered c).resolve = f.value (i.derived c) := by
  rw [StateLayer.value_resolve, set?_layered, passLayer_eq, derived, blending_eq, ← isNone_blend?]
  cases f with
  | blendEnable | blend =>
      cases i.passComposite.blend? <;> cases c.translucent <;> rfl
  | alphaTestEnable | alphaTestRef | alphaTestFunc => cases i.alphaTest <;> rfl
  | cull => cases i.doubleSided <;> cases c.reflect <;> rfl
  | depthWrite =>
      cases i.passComposite.blend? <;> cases c.translucent <;> cases i.translucentZWrite <;>
        cases c.glow <;> rfl
  | depthCompare => cases i.passComposite.blend? <;> rfl
  | fillMode => cases c.wireframe <;> rfl
  | depthEnable | colorWrites | stencilEnable | stencil => rfl

theorem resolve_layered : (i.layered c).resolve = i.derived c := by
  refine StateBlock.ext_of_value (i.value_layered c) ?_
  refine Vector.ext fun n hn => ?_
  rw [derived, Vector.getElem_ofFn]
  exact StateLayer.getElem_samplers_resolve (i.samplers_layered c) hn

/-- **What each state is.**  Under all conditions the stack comes to the state that is derived field
by field: lines for wireframes; both faces for what is double-sided, the front face left out in
reflections and the back face elsewhere; the blending of the pass, or else that of translucency;
depth written by what is translucent and asks for it, and by an opaque first pass outside of the
glow; depth tested; alpha tested where the material does; the samplers of the pass in as many slots
as there are; the device default in all else.  So wireframes differ in how faces are filled,
reflections in which faces are left out, the glow in whether depth is written, and translucency in
that and in blending.  The states are listed by the bits of their conditions. -/
theorem states_derived (i : StateInputs) :
    (∀ c, (i.layered c).resolve = i.derived c) ∧
    (∀ c on, ∃ fillMode, (i.layered { c with wireframe := on }).resolve =
      { (i.layered c).resolve with fillMode }) ∧
    (∀ c on, ∃ cull, (i.layered { c with reflect := on }).resolve =
      { (i.layered c).resolve with cull }) ∧
    (∀ c on, ∃ depthWrite, (i.layered { c with glow := on }).resolve =
      { (i.layered c).resolve with depthWrite }) ∧
    (∀ c on, ∃ blendEnable blend depthWrite, (i.layered { c with translucent := on }).resolve =
      { (i.layered c).resolve with blendEnable, blend, depthWrite }) ∧
    i.states.length = Conditions.count ∧
    ∀ c, i.states[c.bits]? = some (i.layered c).resolve := by
  refine ⟨i.resolve_layered, fun c on => ?_, fun c on => ?_, fun c on => ?_, fun c on => ?_, ?_,
    fun c => ?_⟩
  · exact ⟨_, by rw [resolve_layered, resolve_layered]; rfl⟩
  · exact ⟨_, by rw [resolve_layered, resolve_layered]; rfl⟩
  · exact ⟨_, by rw [resolve_layered, resolve_layered]; rfl⟩
  · exact ⟨_, _, _, by rw [resolve_layered, resolve_layered]; rfl⟩
  · rw [states, Conditions.all, List.length_map, List.length_map, List.length_range]
  · rw [states, List.getElem?_map, c.getElem?_all, Option.map_some]

end StateInputs

end MaterialPipeline
