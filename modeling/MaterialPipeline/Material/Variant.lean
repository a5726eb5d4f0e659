import MaterialPipeline.Feature.Catalogue
import MaterialPipeline.Feature.Set
import MaterialPipeline.Material

/-!
# Material — Variant

What a material is built for besides its colours: the depth and normals drawn ahead, shadow maps, and
glow.  A variant draws one stage of the material, with few of its features.

* `Variant.apply` — the features that a variant draws with.
* `Variant.stage` — the stage that it draws.
-/

namespace MaterialPipeline

/-- A purpose besides colour. -/
inductive Variant where
  /-- Depth and normals, ahead of colour. -/
  | prePass
  /-- Depth, for shadow maps. -/
  | shadow
  /-- The colours of glowing stages. -/
  | glow
  deriving DecidableEq, Repr, Inhabited

instance : Named Variant where
  table := [(.prePass, "PrePass"), (.shadow, "Shadow"), (.glow, "Glow")]

namespace Variant

/-- The types that a variant keeps. -/
def keeps : Variant → List FeatureType
  | .shadow => [.vertTransform, .texAnim, .diffuseMap, .alphaTest]
  | .prePass => [.vertTransform, .texAnim, .parallax, .diffuseMap, .normalMap, .alphaTest]
  | .glow => [.vertTransform, .texAnim, .diffuseMap, .diffuseColor, .alphaTest, .hdrOut]

/-- The type that a variant adds. -/
def output : Variant → FeatureType
  | .shadow => .depthOut
  | .prePass => .prePassConditioner
  | .glow => .glowMask

/-- The features that a variant draws with.  Without colour, the diffuse map and its animation
serve the alpha test only. -/
def apply (v : Variant) (m : Material) (set : FeatureSet) : FeatureSet :=
  let kept := set.filter fun f => v.keeps.any (·.id == f.type.id)
  let needed :=
    if v != .glow && !m.alphaTest then
      (kept.remove FeatureType.diffuseMap.id).remove FeatureType.texAnim.id
    else kept
  needed.add v.output none

/-- The stage that a variant draws. -/
def stage (v : Variant) (m : Material) : Nat :=
  match v with
  | .glow => m.glowStage.getD 0
  | .shadow | .prePass => 0

end Variant

end MaterialPipeline
