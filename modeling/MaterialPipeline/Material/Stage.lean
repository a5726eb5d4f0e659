import MaterialPipeline.Material.Animation
import MaterialPipeline.Material.Map
import MaterialPipeline.State.Fixed

/-!
# Material — Stage

One texture layer of a material, as authored.
-/

namespace MaterialPipeline

/-- A texture layer. -/
structure Stage where
  diffuseMap : Option String := none
  overlayMap : Option String := none
  detailMap : Option String := none
  normalMap : Option String := none
  specularMap : Option String := none
  cubeMap : Option String := none
  toneMap : Option String := none
  diffuseColor : Vec4 := .one
  detailScale : Vec2 := ⟨2, 2⟩
  /-- The depth of the parallax effect; none at zero. -/
  parallaxScale : Single := 0
  specularColor : Vec4 := .one
  specularPower : Single := 8
  pixelSpecular : Bool := false
  /-- Whether the stage gives light instead of receiving it. -/
  emissive : Bool := false
  vertexLit : Bool := false
  /-- Whether the light map of the scene lights the stage. -/
  lightMap : Bool := false
  glow : Bool := false
  /-- Whether textures end at their edge instead of repeating. -/
  clamp : Bool := false
  animation : Animation := {}
  deriving DecidableEq, Repr, Inhabited

namespace Stage

/-- The stage with a diffuse map only. -/
def diffuse (path : String) : Stage :=
  { diffuseMap := some path }

/-- The path of a map, if it is authored. -/
def map (s : Stage) : MapKind → Option String
  | .diffuse => s.diffuseMap
  | .overlay => s.overlayMap
  | .detail => s.detailMap
  | .normal => s.normalMap
  | .specular => s.specularMap
  | .cube => s.cubeMap
  | .tone => s.toneMap

/-- The stage with a map of the kind `kind`. -/
def withMap (s : Stage) (kind : MapKind) (path : String) : Stage :=
  match kind with
  | .diffuse => { s with diffuseMap := some path }
  | .overlay => { s with overlayMap := some path }
  | .detail => { s with detailMap := some path }
  | .normal => { s with normalMap := some path }
  | .specular => { s with specularMap := some path }
  | .cube => { s with cubeMap := some path }
  | .tone => { s with toneMap := some path }

/-- How the textures of the stage are read. -/
def sampler (s : Stage) : Sampler :=
  if s.clamp then .clampLinear else .wrapLinear

end Stage

end MaterialPipeline
