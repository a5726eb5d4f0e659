import MaterialPipeline.Device.VertexFormat
import MaterialPipeline.Feature.Binding
import MaterialPipeline.Feature.Cost
import MaterialPipeline.Program.Draft

/-!
# Feature — Generator

What one feature type puts into a program, what it costs, and which textures it reads.

* `Scope` — the entry that a generator writes for, within the set being assembled.
* `Generator` — the four readings of a feature type.
-/

namespace MaterialPipeline

/-- The entry that a generator writes for. -/
structure Scope where
  /-- The whole set being assembled. -/
  features : FeatureSet
  /-- The stage of the entry. -/
  stage : Option Nat
  /-- The vertices that the program reads. -/
  format : VertexFormat

namespace Scope

/-- A name with the number of the stage, if there is a stage. -/
def indexedName (stage : Option Nat) (base : String) : String :=
  match stage with
  | some stage => s!"{base}{stage}"
  | none => base

/-- A name with the number of the stage of the entry. -/
def indexed (c : Scope) (base : String) : String :=
  indexedName c.stage base

end Scope

/-- What a feature type contributes. -/
structure Generator where
  /-- The contributions to the vertex half. -/
  vertex : Scope → List Emission := fun _ => []
  /-- The contributions to the pixel half. -/
  pixel : Scope → List Emission := fun _ => []
  /-- What an entry costs within a set. -/
  cost : FeatureSet → Option Nat → Cost := fun _ _ => .none
  /-- The samplers of an entry, and what they read. -/
  textures : Option Nat → List (String × TextureSource) := fun _ => []

instance : Inhabited Generator := ⟨{}⟩

end MaterialPipeline
