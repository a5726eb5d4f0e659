import MaterialPipeline.Device.Limits
import MaterialPipeline.State.Fixed

/-!
# State — Block

Fixed-function state, sparse and dense.  A `StateLayer` sets some fields and leaves the others
open; layers are stacked, and a `StateBlock` is what the device gets.

* `StateLayer.layer` — one layer under another; the upper one wins where it sets a field.
* `StateLayer.resolve` — the device default in every open field.
-/

namespace MaterialPipeline

/-- Sparse state: an open field takes its value from below. -/
structure StateLayer where
  blendEnable : Option Bool := none
  blend : Option Blend := none
  alphaTestEnable : Option Bool := none
  alphaTestRef : Option Nat := none
  alphaTestFunc : Option CompareFunction := none
  cull : Option CullMode := none
  depthEnable : Option Bool := none
  depthWrite : Option Bool := none
  depthCompare : Option CompareFunction := none
  fillMode : Option FillMode := none
  colorWrites : Option Nat := none
  stencilEnable : Option Bool := none
  stencil : Option Stencil := none
  /-- The sampler of each slot; slots past the end are open. -/
  samplers : List (Option Sampler) := []
  deriving DecidableEq, Repr, Inhabited

/-- Dense state. -/
structure StateBlock where
  blendEnable : Bool
  blend : Blend
  alphaTestEnable : Bool
  alphaTestRef : Nat
  alphaTestFunc : CompareFunction
  cull : CullMode
  depthEnable : Bool
  depthWrite : Bool
  depthCompare : CompareFunction
  fillMode : FillMode
  colorWrites : Nat
  stencilEnable : Bool
  stencil : Stencil
  samplers : Vector Sampler maxSamplerSlots
  deriving DecidableEq, Repr

namespace StateLayer

/-- The layer that leaves every field open. -/
def empty : StateLayer := {}

/-- Slot by slot, the upper sampler where there is one. -/
def layerSamplers : List (Option Sampler) → List (Option Sampler) → List (Option Sampler)
  | [], upper => upper
  | lower, [] => lower
  | l :: lower, u :: upper => u.or l :: layerSamplers lower upper

/-- `upper` on top of `lower`. -/
def layer (lower upper : StateLayer) : StateLayer where
  blendEnable := upper.blendEnable.or lower.blendEnable
  blend := upper.blend.or lower.blend
  alphaTestEnable := upper.alphaTestEnable.or lower.alphaTestEnable
  alphaTestRef := upper.alphaTestRef.or lower.alphaTestRef
  alphaTestFunc := upper.alphaTestFunc.or lower.alphaTestFunc
  cull := upper.cull.or lower.cull
  depthEnable := upper.depthEnable.or lower.depthEnable
  depthWrite := upper.depthWrite.or lower.depthWrite
  depthCompare := upper.depthCompare.or lower.depthCompare
  fillMode := upper.fillMode.or lower.fillMode
  colorWrites := upper.colorWrites.or lower.colorWrites
  stencilEnable := upper.stencilEnable.or lower.stencilEnable
  stencil := upper.stencil.or lower.stencil
  samplers := layerSamplers lower.samplers upper.samplers

/-! ### Setting fields -/

/-- Blends by `b`. -/
def setBlend (l : StateLayer) (b : Blend) : StateLayer :=
  { l with blendEnable := some true, blend := some b }

/-- Tests alpha against `reference`. -/
def setAlphaTest (l : StateLayer) (reference : Nat) (func : CompareFunction) : StateLayer :=
  { l with
    alphaTestEnable := some true, alphaTestRef := some reference, alphaTestFunc := some func }

/-- Culls by `mode`. -/
def setCull (l : StateLayer) (mode : CullMode) : StateLayer :=
  { l with cull := some mode }

/-- Turns the depth test and depth writes on or off. -/
def setDepth (l : StateLayer) (enable write : Bool) : StateLayer :=
  { l with depthEnable := some enable, depthWrite := some write }

/-- Reads slot `slot` by `sampler`. -/
def setSampler (l : StateLayer) (slot : Nat) (sampler : Sampler) : StateLayer :=
  { l with samplers := layerSamplers l.samplers (List.replicate slot none ++ [some sampler]) }

/-! ### Resolving -/

/-- The dense state, with the device default in every open field.  Samplers past the last slot are
left out. -/
def resolve (l : StateLayer) : StateBlock where
  blendEnable := l.blendEnable.getD false
  blend := l.blend.getD .replace
  alphaTestEnable := l.alphaTestEnable.getD false
  alphaTestRef := l.alphaTestRef.getD 0
  alphaTestFunc := l.alphaTestFunc.getD .greaterEqual
  cull := l.cull.getD .back
  depthEnable := l.depthEnable.getD true
  depthWrite := l.depthWrite.getD true
  depthCompare := l.depthCompare.getD .lessEqual
  fillMode := l.fillMode.getD .fill
  colorWrites := l.colorWrites.getD 15
  stencilEnable := l.stencilEnable.getD false
  stencil := l.stencil.getD {}
  samplers := Vector.ofFn fun slot => (l.samplers[slot.val]?.join).getD .wrapLinear

/-- What resolving reports. -/
def resolveNotes (l : StateLayer) : List Note :=
  if l.samplers.length ≤ maxSamplerSlots then []
  else [.warn s!"State block sets {l.samplers.length} samplers, only the first {maxSamplerSlots} are kept"]

end StateLayer

namespace StateBlock

/-- The device default in every field. -/
def default : StateBlock := StateLayer.empty.resolve

instance : Inhabited StateBlock := ⟨default⟩

/-- The layer that sets every field. -/
def toLayer (s : StateBlock) : StateLayer where
  blendEnable := some s.blendEnable
  blend := some s.blend
  alphaTestEnable := some s.alphaTestEnable
  alphaTestRef := some s.alphaTestRef
  alphaTestFunc := some s.alphaTestFunc
  cull := some s.cull
  depthEnable := some s.depthEnable
  depthWrite := some s.depthWrite
  depthCompare := some s.depthCompare
  fillMode := some s.fillMode
  colorWrites := some s.colorWrites
  stencilEnable := some s.stencilEnable
  stencil := some s.stencil
  samplers := s.samplers.toList.map some

/-- The blend equation in force, if colours are blended. -/
def activeBlend (s : StateBlock) : Option Blend :=
  if s.blendEnable then some s.blend else none

end StateBlock

end MaterialPipeline
