import MaterialPipeline.Device.Limits
import MaterialPipeline.Fault

/-!
# Feature — Cost

What features take from the budget of a device.

* `Cost.add` — totals; a total of 2³² or more is a fault.
* `Cost.fits` — a program must leave one texture slot free and may use every interpolator.
-/

namespace MaterialPipeline

/-- Texture slots and interpolators taken. -/
structure Cost where
  textures : Nat
  interpolators : Nat
  deriving DecidableEq, Repr, Inhabited

namespace Cost

/-- Nothing taken. -/
def none : Cost := ⟨0, 0⟩

/-- The sum of two counts, if 32 bits hold it. -/
def addCount (a b : Nat) : Except Fault Nat :=
  if a + b < UInt32.size then .ok (a + b) else .error .addOverflow

/-- The total of two costs. -/
def add (a b : Cost) : Except Fault Cost :=
  return ⟨← addCount a.textures b.textures, ← addCount a.interpolators b.interpolators⟩

/-- Whether the cost is within the budget. -/
def fits (c : Cost) (limits : Limits) : Bool :=
  c.textures < limits.textureSlots && c.interpolators ≤ limits.interpolators

end Cost

end MaterialPipeline
