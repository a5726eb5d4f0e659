import MaterialPipeline.Device.VertexFormat
import MaterialPipeline.Fault
import MaterialPipeline.Material.Config
import MaterialPipeline.Material.Variant

/-!
# Material — Resolution

From authored stages to features.  What a stage becomes depends on the material, the configuration
and the vertices alone.

* `Material.stageFeatures` — the features of one stage.
* `Material.layers` — the features of every stage that is drawn.
-/

namespace MaterialPipeline

/-- The features of one stage, ready to go into a pass. -/
structure Layer where
  stage : Nat
  features : FeatureSet
  /-- How the textures of the stage are read. -/
  sampler : Sampler
  deriving DecidableEq

instance : Inhabited Layer := ⟨⟨0, .empty, .wrapLinear⟩⟩

namespace Stage

/-- Whether a normal map is authored that the vertices cannot carry. -/
def losesNormalMap (s : Stage) (format : VertexFormat) : Bool :=
  s.normalMap.isSome && !format.has .tangent

/-- The features of the maps of a stage. -/
def mapTypes (s : Stage) (format : VertexFormat) : List FeatureType :=
  let given (on : Bool) (t : FeatureType) : List FeatureType := if on then [t] else []
  let normal := s.normalMap.isSome && format.has .tangent
  given s.diffuseMap.isSome .diffuseMap
    ++ given s.overlayMap.isSome .overlayMap
    ++ given s.detailMap.isSome .detailMap
    ++ given normal .normalMap
    ++ given (normal && Single.lt 0 s.parallaxScale) .parallax
    ++ given s.specularMap.isSome .specularMap
    ++ given s.cubeMap.isSome .cubeMap
    ++ given (s.diffuseMap.isNone || !s.diffuseColor.same .one) .diffuseColor

/-- The types that a moving texture coordinate shows in. -/
def animatedTypes : List FeatureType :=
  [.diffuseMap, .overlayMap, .detailMap, .normalMap]

/-- The features of a stage that carry its number. -/
def textureTypes (s : Stage) (format : VertexFormat) : List FeatureType :=
  let maps := s.mapTypes format
  let moves := s.animation.isActive && animatedTypes.any (maps.contains ·)
  maps ++ if moves then [.texAnim] else []

/-- How a stage is lit; an emissive stage is not. -/
def lighting (s : Stage) (format : VertexFormat) (stage : Option Nat) : List Feature :=
  let secondCoord := 2 ≤ format.texcoordCount
  if s.emissive then []
  else if s.vertexLit then [⟨.vertLit, none⟩]
  else if s.lightMap && secondCoord then [⟨.lightMap, none⟩]
  else if s.toneMap.isSome && secondCoord then [⟨.toneMap, stage⟩]
  else [⟨.rtLighting, none⟩] ++ if s.pixelSpecular then [⟨.pixSpecular, none⟩] else []

end Stage

namespace Material

/-- The features that the material as a whole gives a stage. -/
def sharedTypes (m : Material) (s : Stage) : List FeatureType :=
  let given (on : Bool) (t : FeatureType) : List FeatureType := if on then [t] else []
  given m.alphaTest .alphaTest
    ++ given (m.fog && !s.emissive) .fog
    ++ given m.translucent .translucent
    ++ given m.translucent .visibility
    ++ given (m.translucent && m.translucentZWrite) .translucentZWrite

/-- Every feature that the stage numbered `number` asks for.  Features keep the number modulo 256. -/
def requested (m : Material) (format : VertexFormat) (number : Nat) (s : Stage) : FeatureSet :=
  let stage := some (number % 256)
  .ofList ([⟨.vertTransform, none⟩, ⟨.hdrOut, none⟩]
    ++ (s.textureTypes format).map (⟨·, stage⟩)
    ++ s.lighting format stage
    ++ (m.sharedTypes s).map (⟨·, none⟩))

/-- The features of one stage, under the configuration and for the purpose of a variant. -/
def featuresOf (m : Material) (config : Config) (format : VertexFormat) (variant : Option Variant)
    (number : Nat) (s : Stage) : FeatureSet :=
  let allowed := (m.requested format number s).exclude config.exclusions
  match variant with
  | some v => v.apply m allowed
  | none => allowed

/-- The features of the stage numbered `number`, which the material must have. -/
def stageFeatures (m : Material) (config : Config) (format : VertexFormat)
    (variant : Option Variant) (number : Nat) : Except Fault FeatureSet :=
  match m.stages[number]? with
  | some s => .ok (m.featuresOf config format variant number s)
  | none => .error (.outOfBounds m.stages.length number)

/-- The stages that are drawn, with their numbers: one for a variant, else all. -/
def drawnStages (m : Material) (variant : Option Variant) : List (Stage × Nat) :=
  match variant with
  | some v => m.stages.zipIdx.filter (·.2 == v.stage m)
  | none => m.stages.zipIdx

/-- The features of every stage that is drawn. -/
def layers (m : Material) (config : Config) (format : VertexFormat) (variant : Option Variant) :
    Except MaterialError (List Layer) := do
  m.validate
  return (m.drawnStages variant).map fun (s, number) =>
    ⟨number, m.featuresOf config format variant number s, s.sampler⟩

/-- What computing the layers reports. -/
def layerNotes (m : Material) (format : VertexFormat) (variant : Option Variant) : List Note :=
  (m.drawnStages variant).filterMap fun (s, _) =>
    if s.losesNormalMap format then
      some (.trace "Vertex format has no tangents; dropping normal map")
    else none

end Material

namespace FeatureSet

/-- The number of lighting types that light the stage. -/
def lightingPaths (set : FeatureSet) (stage : Option Nat) : Nat :=
  FeatureType.lightingPaths.countP fun t => set.hasAt t.id none || set.hasAt t.id stage

end FeatureSet

end MaterialPipeline
