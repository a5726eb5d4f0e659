import MaterialPipeline.Feature.Binding
import MaterialPipeline.Feature.Cost
import MaterialPipeline.Pass.Conditions
import MaterialPipeline.Pass.Constants
import MaterialPipeline.Feature.Set

/-!
# Pass

One round of drawing: a program, the state for each render condition, and the textures of the
stages that it covers.
-/

namespace MaterialPipeline

/-- A pass on the device. -/
structure Pass where
  program : ProgramHandle
  constants : Constants
  /-- The state objects, by the bits of the conditions. -/
  states : List StateHandle
  /-- The stages that the pass covers, in order. -/
  stages : List Nat
  features : FeatureSet
  bindings : List Binding
  /-- The sampler of each binding. -/
  samplers : List Sampler
  cost : Cost
  /-- How the pass combines with the passes before it. -/
  composite : Composite
  deriving DecidableEq

namespace Pass

/-- The state object for the conditions `c`. -/
def state (p : Pass) (c : Conditions) : StateHandle :=
  p.states[c.bits]?.getD ⟨0⟩

/-- Destroys what the pass has on the device. -/
def destruction (p : Pass) : List Event :=
  .call (.destroyProgram p.program) :: p.states.map fun h => .call (.destroyState h)

end Pass

end MaterialPipeline
