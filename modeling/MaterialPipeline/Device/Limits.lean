import MaterialPipeline.Report

/-!
# Device — Limits

The fixed resource budget of a device.

* `Limits.clamped` — the part of a budget that a state block can describe.
-/

namespace MaterialPipeline

/-- The number of sampler slots that a state block describes. -/
def maxSamplerSlots : Nat := 16

/-- A resource budget. -/
structure Limits where
  /-- How many textures one pass may bind. -/
  textureSlots : Nat := 8
  /-- How many registers run from the vertex to the pixel stage. -/
  interpolators : Nat := 10
  /-- Whether wireframe fill is available. -/
  wireframe : Bool := true
  deriving DecidableEq, Repr, Inhabited

namespace Limits

/-- The budget with no more texture slots than a state block describes. -/
def clamped (limits : Limits) : Limits :=
  { limits with textureSlots := min limits.textureSlots maxSamplerSlots }

/-- What clamping reports. -/
def clampNotes (limits : Limits) : List Note :=
  if limits.textureSlots ≤ maxSamplerSlots then []
  else [.warn s!"Device reports {limits.textureSlots} texture slots, clamping to {maxSamplerSlots}"]

end Limits

end MaterialPipeline
