import MaterialPipeline.Material
import MaterialPipeline.State.Block

/-!
# Pass — Conditions

The fixed-function state of a pass under each of the sixteen render conditions.  A state is a stack
of layers: base, translucent, glow, reflect, the layer of the pass, and wireframe on top.

* `StateInputs.layered` — the stack.
* `StateInputs.states` — the sixteen states, by the bits of their conditions.
-/

namespace MaterialPipeline

/-- What a pass is drawn under. -/
structure Conditions where
  reflect : Bool := false
  translucent : Bool := false
  glow : Bool := false
  wireframe : Bool := false
  deriving DecidableEq, Repr, Inhabited

namespace Conditions

/-- The number of conditions that a pass may be drawn under. -/
def count : Nat := 16

/-- The conditions of the low four bits. -/
def ofBits (bits : Nat) : Conditions :=
  ⟨bits.testBit 0, bits.testBit 1, bits.testBit 2, bits.testBit 3⟩

/-- The conditions as bits. -/
def bits (c : Conditions) : Nat :=
  c.reflect.toNat + 2 * c.translucent.toNat + 4 * c.glow.toNat + 8 * c.wireframe.toNat

/-- Every combination, by its bits. -/
def all : List Conditions :=
  (List.range count).map ofBits

end Conditions

/-- What the state of a pass depends on. -/
structure StateInputs where
  translucentComposite : Composite
  translucentZWrite : Bool
  /-- How the pass combines with the passes before it. -/
  passComposite : Composite
  alphaTest : Bool
  alphaRef : Nat
  doubleSided : Bool
  /-- The sampler of each texture slot. -/
  samplers : List Sampler
  deriving DecidableEq, Repr, Inhabited

namespace StateInputs

/-- What the state of the first pass of a material depends on, before it has textures. -/
def ofMaterial (m : Material) : StateInputs where
  translucentComposite := m.translucentComposite
  translucentZWrite := m.translucentZWrite
  passComposite := .none
  alphaTest := m.alphaTest
  alphaRef := m.alphaRef
  doubleSided := m.doubleSided
  samplers := []

/-! ### Layers -/

/-- Opaque, tested and written depth, back faces left out. -/
def baseLayer : StateLayer where
  blendEnable := some false
  alphaTestEnable := some false
  cull := some .back
  depthEnable := some true
  depthWrite := some true
  depthCompare := some .lessEqual
  fillMode := some .fill

/-- Blended, depth not written. -/
def translucentLayer (op : Composite) : StateLayer :=
  { StateLayer.empty.setBlend (op.blend?.getD .alpha) with depthWrite := some false }

/-- Depth not written. -/
def glowLayer : StateLayer :=
  { depthWrite := some false }

/-- The other faces left out. -/
def reflectLayer : StateLayer :=
  StateLayer.empty.setCull CullMode.back.flipped

/-- What the pass itself asks for. -/
def passLayer (i : StateInputs) (c : Conditions) : StateLayer :=
  let l := StateLayer.empty
  let l := match i.passComposite.blend? with
    | some b => { l.setBlend b with depthWrite := some false, depthCompare := some .lessEqual }
    | none => l
  let l := if c.translucent && i.translucentZWrite then { l with depthWrite := some true } else l
  let l := if i.alphaTest then l.setAlphaTest i.alphaRef .greaterEqual else l
  let l := if i.doubleSided then l.setCull .none else l
  { l with samplers := i.samplers.map some }

/-- Lines instead of faces. -/
def wireframeLayer : StateLayer :=
  { fillMode := some .line }

/-- The stack of layers under the conditions `c`. -/
def layered (i : StateInputs) (c : Conditions) : StateLayer :=
  let l := baseLayer
  let l := if c.translucent then l.layer (translucentLayer i.translucentComposite) else l
  let l := if c.glow then l.layer glowLayer else l
  let l := if c.reflect then l.layer reflectLayer else l
  let l := l.layer (i.passLayer c)
  if c.wireframe then l.layer wireframeLayer else l

/-- The state of every combination, by its bits. -/
def states (i : StateInputs) : List StateBlock :=
  Conditions.all.map fun c => (i.layered c).resolve

end StateInputs

end MaterialPipeline
