import MaterialPipeline.State.Block
import Mathlib.Order.MinMax

/-!
# Proofs — State — Layering

Layers over layers.  A layer is what it sets: thirteen fields, and a sampler for each slot of some
number of slots.  Over another layer it decides what it sets and leaves the rest open.

* `StateLayer.Field`, `StateLayer.slot`: what a layer may set.
* `StateLayer.ext_of_set`: two layers that set the same are equal.
* `StateLayer.set?_layer`, `StateLayer.slot_layer`: what one layer over another sets.
* `StateLayer.read_stack`: what a stack of layers sets is what the last layer that does sets.
* `StateLayer.layers_last_writer`: layers form a monoid in which the last writer wins.
-/

namespace MaterialPipeline.StateLayer

/-! ### What a layer sets -/

/-- What a layer may set besides samplers. -/
inductive Field where
  | blendEnable | blend | alphaTestEnable | alphaTestRef | alphaTestFunc | cull | depthEnable
  | depthWrite | depthCompare | fillMode | colorWrites | stencilEnable | stencil
  deriving DecidableEq

namespace Field

/-- What a field may be set to. -/
def Value : Field → Type
  | blendEnable | alphaTestEnable | depthEnable | depthWrite | stencilEnable => Bool
  | alphaTestRef | colorWrites => Nat
  | alphaTestFunc | depthCompare => CompareFunction
  | blend => Blend
  | cull => CullMode
  | fillMode => FillMode
  | stencil => Stencil

/-- What a layer sets a field to, unless it leaves it open. -/
def set? : (f : Field) → StateLayer → Option f.Value
  | blendEnable => StateLayer.blendEnable
  | blend => StateLayer.blend
  | alphaTestEnable => StateLayer.alphaTestEnable
  | alphaTestRef => StateLayer.alphaTestRef
  | alphaTestFunc => StateLayer.alphaTestFunc
  | cull => StateLayer.cull
  | depthEnable => StateLayer.depthEnable
  | depthWrite => StateLayer.depthWrite
  | depthCompare => StateLayer.depthCompare
  | fillMode => StateLayer.fillMode
  | colorWrites => StateLayer.colorWrites
  | stencilEnable => StateLayer.stencilEnable
  | stencil => StateLayer.stencil

/-- What a dense state has in a field. -/
def value : (f : Field) → StateBlock → f.Value
  | blendEnable => StateBlock.blendEnable
  | blend => StateBlock.blend
  | alphaTestEnable => StateBlock.alphaTestEnable
  | alphaTestRef => StateBlock.alphaTestRef
  | alphaTestFunc => StateBlock.alphaTestFunc
  | cull => StateBlock.cull
  | depthEnable => StateBlock.depthEnable
  | depthWrite => StateBlock.depthWrite
  | depthCompare => StateBlock.depthCompare
  | fillMode => StateBlock.fillMode
  | colorWrites => StateBlock.colorWrites
  | stencilEnable => StateBlock.stencilEnable
  | stencil => StateBlock.stencil

end Field

/-- The sampler that a layer sets for a slot, if it does. -/
def slot (l : StateLayer) (n : Nat) : Option Sampler :=
  l.samplers[n]?.join

variable {a b : StateLayer}

/-- Lists of as many slots that are read alike are equal. -/
theorem samplers_eq {l m : List (Option Sampler)} (hlength : l.length = m.length)
    (h : ∀ n : Nat, l[n]?.join = m[n]?.join) : l = m := by
  refine List.ext_getElem hlength fun n hl hm => ?_
  have hn := h n
  rwa [List.getElem?_eq_getElem hl, List.getElem?_eq_getElem hm] at hn

/-- A layer is what it sets. -/
theorem ext_of_set (hfields : ∀ f : Field, f.set? a = f.set? b)
    (hlength : a.samplers.length = b.samplers.length) (hslots : ∀ n, a.slot n = b.slot n) :
    a = b := by
  have hsamplers : a.samplers = b.samplers := samplers_eq hlength hslots
  obtain ⟨be, bl, ae, ar, af, cu, de, dw, dc, fi, co, se, st, sa⟩ := a
  obtain ⟨be', bl', ae', ar', af', cu', de', dw', dc', fi', co', se', st', sa'⟩ := b
  obtain rfl : be = be' := hfields .blendEnable
  obtain rfl : bl = bl' := hfields .blend
  obtain rfl : ae = ae' := hfields .alphaTestEnable
  obtain rfl : ar = ar' := hfields .alphaTestRef
  obtain rfl : af = af' := hfields .alphaTestFunc
  obtain rfl : cu = cu' := hfields .cull
  obtain rfl : de = de' := hfields .depthEnable
  obtain rfl : dw = dw' := hfields .depthWrite
  obtain rfl : dc = dc' := hfields .depthCompare
  obtain rfl : fi = fi' := hfields .fillMode
  obtain rfl : co = co' := hfields .colorWrites
  obtain rfl : se = se' := hfields .stencilEnable
  obtain rfl : st = st' := hfields .stencil
  obtain rfl : sa = sa' := hsamplers
  rfl

/-! ### One layer over another -/

theorem set?_empty (f : Field) : f.set? empty = none := by
  cases f <;> rfl

/-- The upper layer decides what it sets. -/
theorem set?_layer (a b : StateLayer) (f : Field) :
    f.set? (a.layer b) = (f.set? b).or (f.set? a) := by
  cases f <;> rfl

theorem length_layerSamplers (l m : List (Option Sampler)) :
    (layerSamplers l m).length = max l.length m.length := by
  induction l generalizing m with
  | nil => rw [layerSamplers, List.length_nil, Nat.zero_max]
  | cons x l ih =>
      cases m with
      | nil => rw [layerSamplers, List.length_nil, Nat.max_zero]; exact List.cons_ne_nil x l
      | cons y m => rw [layerSamplers, List.length_cons, ih, List.length_cons, List.length_cons,
          Nat.succ_max_succ]

theorem join_layerSamplers (l m : List (Option Sampler)) (n : Nat) :
    (layerSamplers l m)[n]?.join = m[n]?.join.or l[n]?.join := by
  induction l generalizing m n with
  | nil => rw [layerSamplers, List.getElem?_nil, Option.join_none, Option.or_none]
  | cons x l ih =>
      cases m with
      | nil =>
          rw [layerSamplers, List.getElem?_nil, Option.join_none, Option.none_or]
          exact List.cons_ne_nil x l
      | cons y m =>
          rw [layerSamplers]
          cases n with
          | zero => rfl
          | succ n => exact ih m n

theorem length_samplers_layer (a b : StateLayer) :
    (a.layer b).samplers.length = max a.samplers.length b.samplers.length :=
  length_layerSamplers _ _

/-- So it does for each slot. -/
theorem slot_layer (a b : StateLayer) (n : Nat) :
    (a.layer b).slot n = (b.slot n).or (a.slot n) :=
  join_layerSamplers _ _ n

theorem layer_assoc (a b c : StateLayer) : (a.layer b).layer c = a.layer (b.layer c) := by
  refine ext_of_set (fun f => ?_) ?_ fun n => ?_
  · simp only [set?_layer, Option.or_assoc]
  · simp only [length_samplers_layer, Nat.max_assoc]
  · simp only [slot_layer, Option.or_assoc]

theorem empty_layer (a : StateLayer) : empty.layer a = a := by
  refine ext_of_set (fun f => ?_) ?_ fun n => ?_
  · rw [set?_layer, set?_empty, Option.or_none]
  · rw [length_samplers_layer]
    exact Nat.zero_max _
  · rw [slot_layer]
    exact Option.or_none

theorem layer_empty (a : StateLayer) : a.layer empty = a := by
  refine ext_of_set (fun f => ?_) ?_ fun n => ?_
  · rw [set?_layer, set?_empty, Option.none_or]
  · rw [length_samplers_layer]
    exact Nat.max_zero _
  · rw [slot_layer]
    exact Option.none_or

theorem layer_self (a : StateLayer) : a.layer a = a := by
  refine ext_of_set (fun f => ?_) ?_ fun n => ?_
  · rw [set?_layer, Option.or_self]
  · rw [length_samplers_layer, Nat.max_self]
  · rw [slot_layer, Option.or_self]

/-! ### Stacks of layers -/

/-- Layers over each other, the lowest first. -/
def stack (layers : List StateLayer) : StateLayer :=
  layers.foldl layer empty

/-- What is read of a stack is read of the last layer that sets it. -/
theorem read_stack {α : Type} (read : StateLayer → Option α) (hempty : read empty = none)
    (hlayer : ∀ a b, read (a.layer b) = (read b).or (read a)) (layers : List StateLayer) :
    read (stack layers) = layers.reverse.findSome? read := by
  have hover (a : StateLayer) :
      read (layers.foldl layer a) = (layers.reverse.findSome? read).or (read a) := by
    induction layers generalizing a with
    | nil => exact Option.none_or.symm
    | cons l layers ih =>
        rw [List.foldl_cons, ih, hlayer, List.reverse_cons, List.findSome?_append,
          List.findSome?_singleton, Option.or_assoc]
  rw [stack, hover, hempty, Option.or_none]

/-- An open field gets the device default. -/
theorem value_resolve (l : StateLayer) (f : Field) :
    f.value l.resolve = (f.set? l).getD (f.value .default) := by
  cases f <;> rfl

theorem samplers_resolve (l : StateLayer) (n : Fin maxSamplerSlots) :
    l.resolve.samplers[n] = (l.slot n).getD .wrapLinear :=
  Vector.getElem_ofFn n.isLt

/-- **The last writer wins.**  Layers over each other form a monoid in which the layer without
settings changes nothing, and no layer changes itself.  Of two layers, each field and each slot is
as the upper one sets it, or else the lower one; there are as many slots as the longer list has.
The dense state of a stack has, in each field and in each of its slots, what the last layer that
sets it says, and the device default where none does. -/
theorem layers_last_writer :
    (∀ a b c : StateLayer, (a.layer b).layer c = a.layer (b.layer c)) ∧
    (∀ a : StateLayer, empty.layer a = a ∧ a.layer empty = a) ∧
    (∀ a : StateLayer, a.layer a = a) ∧
    (∀ (a b : StateLayer) (f : Field), f.set? (a.layer b) = (f.set? b).or (f.set? a)) ∧
    (∀ a b : StateLayer, (a.layer b).samplers.length = max a.samplers.length b.samplers.length ∧
      ∀ n, (a.layer b).slot n = (b.slot n).or (a.slot n)) ∧
    ∀ layers : List StateLayer,
      (∀ f : Field, f.value (stack layers).resolve =
        (layers.reverse.findSome? f.set?).getD (f.value .default)) ∧
      ∀ n : Fin maxSamplerSlots, (stack layers).resolve.samplers[n] =
        (layers.reverse.findSome? (·.slot n)).getD .wrapLinear := by
  refine ⟨layer_assoc, fun a => ⟨empty_layer a, layer_empty a⟩, layer_self, set?_layer,
    fun a b => ⟨length_samplers_layer a b, slot_layer a b⟩,
    fun layers => ⟨fun f => ?_, fun n => ?_⟩⟩
  · rw [value_resolve, read_stack f.set? (set?_empty f) fun a b => set?_layer a b f]
  · rw [samplers_resolve, read_stack (·.slot n) rfl fun a b => slot_layer a b n]

end MaterialPipeline.StateLayer
