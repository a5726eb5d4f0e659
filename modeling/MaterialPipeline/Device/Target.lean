import MaterialPipeline.Text.Named

/-!
# Device — Target

Offscreen render targets and what a clear touches.
-/

namespace MaterialPipeline

/-- The pixel format of a target. -/
inductive PixelFormat where
  | rgba8Unorm | rgba16Float
  deriving DecidableEq, Repr, Inhabited

instance : Named PixelFormat where
  table := [(.rgba8Unorm, "Rgba8Unorm"), (.rgba16Float, "Rgba16Float")]

/-- An offscreen target to create. -/
structure Target where
  label : String
  width : Nat
  height : Nat
  format : PixelFormat
  /-- Whether the target has a depth buffer of its own. -/
  withDepth : Bool := false
  deriving DecidableEq, Repr, Inhabited

/-- The bits of a clear of colour, depth and stencil together. -/
def clearAll : Nat := 7

end MaterialPipeline
