import MaterialPipeline.Number.Single
import MaterialPipeline.Text.Named

/-!
# Feature — Type

What a shader feature is called and where it stands in the pipeline: by group, then by its order
in the group, then by its number.

* `FeatureType.key` — the place in the pipeline.
* `FeatureType.same` — equality as values, which the orders decide as numbers.
-/

namespace MaterialPipeline

/-- The coarse place of a feature; groups run in the order given. -/
inductive FeatureGroup where
  | preTransform | transform | postTransform | preTexture | texture
  | preLighting | lighting | postLighting | postProcess | misc
  deriving DecidableEq, Repr, Inhabited

instance : Named FeatureGroup where
  table := [(.preTransform, "PreTransform"), (.transform, "Transform"),
    (.postTransform, "PostTransform"), (.preTexture, "PreTexture"), (.texture, "Texture"),
    (.preLighting, "PreLighting"), (.lighting, "Lighting"), (.postLighting, "PostLighting"),
    (.postProcess, "PostProcess"), (.misc, "Misc")]

namespace FeatureGroup

/-- The place of a group. -/
def rank : FeatureGroup → Nat
  | .preTransform => 0
  | .transform => 1
  | .postTransform => 2
  | .preTexture => 3
  | .texture => 4
  | .preLighting => 5
  | .lighting => 6
  | .postLighting => 7
  | .postProcess => 8
  | .misc => 9

end FeatureGroup

/-- The number that identifies a feature type. -/
abbrev FeatureId := Nat

/-- The first number for feature types beyond the catalogue. -/
def firstCustomFeature : FeatureId := 64

/-- A kind of feature. -/
structure FeatureType where
  id : FeatureId
  name : String
  group : FeatureGroup
  /-- The place within the group. -/
  order : Single
  /-- Whether authors switch the feature on, rather than the pipeline. -/
  togglable : Bool
  deriving DecidableEq, Repr, Inhabited

namespace FeatureType

/-- The place in the pipeline. -/
def key (t : FeatureType) : List Int :=
  [t.group.rank, t.order.totalKey, t.id]

/-- The pipeline order, as a comparison. -/
def pipelineCompare (a b : FeatureType) : Ordering :=
  if a.key < b.key then .lt else if b.key < a.key then .gt else .eq

/-- Whether two types are equal as values. -/
def same (a b : FeatureType) : Bool :=
  a.id == b.id && a.name == b.name && a.group == b.group && a.order.same b.order
    && a.togglable == b.togglable

end FeatureType

end MaterialPipeline
