import MaterialPipeline.State.Fixed

/-!
# Material — Composite

How a pass combines with what is in the target already.
-/

namespace MaterialPipeline

/-- A way of combining. -/
inductive Composite where
  /-- The pass covers what was there. -/
  | none
  | mul | add | addAlpha | sub | lerpAlpha
  deriving DecidableEq, Repr, Inhabited

instance : Named Composite where
  table := [(.none, "None"), (.mul, "Mul"), (.add, "Add"), (.addAlpha, "AddAlpha"),
    (.sub, "Sub"), (.lerpAlpha, "LerpAlpha")]

namespace Composite

/-- The blend equation, unless the pass covers what was there. -/
def blend? : Composite → Option Blend
  | .none => Option.none
  | .mul => some .multiply
  | .add => some .additive
  | .addAlpha => some ⟨.sourceAlpha, .one, .add⟩
  | .sub => some ⟨.one, .one, .reverseSubtract⟩
  | .lerpAlpha => some .alpha

end Composite

end MaterialPipeline
