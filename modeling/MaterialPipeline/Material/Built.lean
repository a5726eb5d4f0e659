import MaterialPipeline.Pass.Packing
import MaterialPipeline.Scene
import MaterialPipeline.Text.Quoted

/-!
# Material — Built

What a material is on the device: its passes and its textures.

* `BuiltMaterial.build` — passes first, then textures; a failure leaves nothing behind.
* `BuiltMaterial.setup`, `BuiltMaterial.transforms`, `BuiltMaterial.sceneInfo`,
  `BuiltMaterial.textureStages`, `BuiltMaterial.cleanup` — the draw of one pass, as data.
* `BuiltMaterial.destruction` — the end of everything that it owns.
-/

namespace MaterialPipeline

/-- What builds depend on besides the material. -/
structure BuildContext where
  registry : Registry
  config : Config

/-- A material on the device. -/
structure BuiltMaterial where
  material : Material
  variant : Option Variant
  passes : List Pass
  /-- The textures, by path, in the order of loading. -/
  textures : List (String × TextureHandle)

namespace BuiltMaterial

/-- Destroys every pass, then every texture. -/
def destruction (b : BuiltMaterial) : List Event :=
  b.passes.flatMap Pass.destruction
    ++ b.textures.map fun (_, h) => .call (.releaseTexture h)

/-! ### Building -/

/-- The name that programs are labelled with. -/
def label (m : Material) (variant : Option Variant) : String :=
  match variant with
  | some v => m.name ++ "/" ++ Named.name v
  | none => m.name

/-- The stage and the authored path behind a binding. -/
def pathOf (m : Material) (b : Binding) : Option (Nat × String) :=
  match b.source with
  | .map stage kind => do return (stage, ← (← m.stages[stage]?).map kind)
  | .lightMap => none

/-- The paths that passes read, in order, with the stages that they belong to. -/
def requests (m : Material) (passes : List Pass) : List (Nat × String) :=
  passes.flatMap fun p => p.bindings.filterMap (pathOf m)

/-- Loads each path that is not loaded yet.  The first refusal ends the loading, and comes with what
was loaded before it. -/
def loadTextures (loaded : List (String × TextureHandle)) :
    List (Nat × String) →
      Action (Except (MaterialError × List (String × TextureHandle)) (List (String × TextureHandle)))
  | [] => return .ok loaded
  | (stage, path) :: rest =>
    if loaded.any (·.1 == path) then loadTextures loaded rest
    else do
      match ← Action.onDevice (·.loadTexture path) with
      | .ok h => loadTextures (loaded ++ [(path, h)]) rest
      | .error error => return .error (.textureLoad stage path error, loaded)

/-- What packing the passes of a material depends on. -/
def packer (context : BuildContext) (m : Material) (format : VertexFormat)
    (variant : Option Variant) (device : Limits) : Packer where
  registry := context.registry
  format := format
  limits := context.config.effectiveLimits device
  label := label m variant
  inputs := .ofMaterial m

/-- Builds the passes of a material and loads their textures. -/
def build (context : BuildContext) (m : Material) (format : VertexFormat)
    (variant : Option Variant) : Action (Except MaterialError BuiltMaterial) := do
  match m.layers context.config format variant with
  | .error error => return .error error
  | .ok layers =>
    Action.reportAll (m.layerNotes format variant)
    let device ← Action.limits
    Action.reportAll (context.config.limitNotes device)
    match ← (packer context m format variant device).buildPasses layers with
    | .error error => return .error (.passBuild error)
    | .ok passes =>
      match ← loadTextures [] (requests m passes) with
      | .error (error, loaded) =>
        Action.perform (destruction ⟨m, variant, passes, loaded⟩)
        return .error error
      | .ok textures =>
        Action.report (.trace
          s!"Built '{label m variant}' with {passes.length} passes and {textures.length} textures")
        return .ok ⟨m, variant, passes, textures⟩

/-! ### Looking -/

/-- The union of the features of the passes. -/
def features (b : BuiltMaterial) : FeatureSet :=
  .mergeAll (b.passes.map (·.features))

/-- The texture loaded from a path. -/
def texture? (b : BuiltMaterial) (path : String) : Option TextureHandle :=
  (b.textures.find? (·.1 == path)).map (·.2)

/-- The colour of the first stage. -/
def baseColor (b : BuiltMaterial) : Vec4 :=
  (b.material.stages.head?.map (·.diffuseColor)).getD .one

/-- The text of a built material in descriptions. -/
def describe (b : BuiltMaterial) : String :=
  let name := Quoted.text b.material.name
  let variant := (b.variant.map fun v => "Some(" ++ Named.name v ++ ")").getD "None"
  s!"ProcessedMaterial \x7b material: {name}, stage_override: {variant}, passes: {b.passes.length}, textures: {b.textures.length} \x7d"

/-! ### Drawing -/

/-- What a draw happens under, on a device with the limits `limits`. -/
def conditions (b : BuiltMaterial) (limits : Limits) (scene : Scene) (draw : DrawContext) :
    Conditions where
  glow := draw.bin == .glow
  reflect := scene.isReflection
  translucent := b.material.translucent && draw.bin != .prePass
  wireframe := (draw.wireframe || scene.wireframe) && limits.wireframe

/-- The values of the texture matrices of a pass. -/
def animationValues (b : BuiltMaterial) (scene : Scene) (p : Pass) :
    List (String × ConstantValue) :=
  p.stages.filterMap fun n => do
    let stage ← b.material.stages[n]?
    if stage.animation.isActive then
      some (s!"texMat{n}", .mat4 (stage.animation.matrix scene.time))
    else none

/-- Binds the program and the state of a pass, and its texture matrices. -/
def setup (b : BuiltMaterial) (limits : Limits) (scene : Scene) (draw : DrawContext) (p : Pass) :
    List Event :=
  [.call (.setProgram p.program), .call (.setState (p.state (b.conditions limits scene draw)))]
    ++ p.constants.uploadAll p.program (b.animationValues scene p)

/-- The values that depend on where an object stands. -/
def transformValues (scene : Scene) (world : Mat4) (p : Pass) : List (String × ConstantValue) :=
  [("modelview", .mat4 (scene.viewProjection * world)), ("objTrans", .mat4 world)]
    ++ if p.constants.has "eyePosObj" then
      [("eyePosObj", .vec3 (world.inverse.transformPoint scene.camera))]
    else []

/-- Uploads where an object stands. -/
def transforms (scene : Scene) (world : Mat4) (p : Pass) : List Event :=
  p.constants.uploadAll p.program (transformValues scene world p)

/-- The values of the scene. -/
def sharedValues (b : BuiltMaterial) (scene : Scene) (draw : DrawContext) :
    List (String × ConstantValue) :=
  [("eyePosWorld", .vec3 scene.camera),
    ("fogData", .vec3 ⟨scene.fog.start, scene.fog.density, scene.fog.heightFalloff⟩),
    ("fogColor", .vec4 scene.fog.color),
    ("visibility", .float draw.visibility),
    ("inLightPos", .vec4 (scene.light.position.extend 1)),
    ("inLightColor", .vec4 scene.light.color),
    ("ambient", .vec4 scene.light.ambient),
    ("alphaTestValue", .float (.ofRatio b.material.alphaRef 255))]

/-- The values of one stage. -/
def stageValues (n : Nat) (s : Stage) : List (String × ConstantValue) :=
  [(s!"diffuseMaterialColor{n}", .vec4 s.diffuseColor), (s!"detailScale{n}", .vec2 s.detailScale),
    (s!"parallaxInfo{n}", .float s.parallaxScale)]

/-- The values that a pass takes from its first stage. -/
def leadValues (s : Stage) : List (String × ConstantValue) :=
  [("specularColor", .vec4 s.specularColor), ("specularPower", .float s.specularPower),
    ("glowMul", .float (if s.glow then 1 else 0))]

/-- The stages of a pass, with their numbers. -/
def stagesOf (b : BuiltMaterial) (p : Pass) : List (Nat × Stage) :=
  p.stages.filterMap fun n => (b.material.stages[n]?).map (n, ·)

/-- Uploads the scene and the stages of a pass. -/
def sceneInfo (b : BuiltMaterial) (scene : Scene) (draw : DrawContext) (p : Pass) : List Event :=
  p.constants.uploadAll p.program
    (b.sharedValues scene draw
      ++ (b.stagesOf p).flatMap (fun (n, s) => stageValues n s)
      ++ ((b.stagesOf p).head?.map fun (_, s) => leadValues s).getD [])

/-- The texture that a binding reads. -/
def boundTexture (b : BuiltMaterial) (draw : DrawContext) (binding : Binding) :
    Option TextureHandle :=
  match binding.source with
  | .map .. => (pathOf b.material binding).bind fun (_, path) => b.texture? path
  | .lightMap => draw.lightMap

/-- Binds the textures of a pass. -/
def textureStages (b : BuiltMaterial) (draw : DrawContext) (p : Pass) : List Event :=
  p.bindings.map fun binding => .call (.setTexture binding.slot (b.boundTexture draw binding))

/-- Binds buffers. -/
def setBuffers (vertices : BufferHandle) (indices : Option BufferHandle) : List Event :=
  [.call (.setVertexBuffer vertices), .call (.setIndexBuffer indices)]

/-- Unbinds the textures of a pass. -/
def cleanup (p : Pass) : List Event :=
  p.bindings.map fun binding => .call (.setTexture binding.slot none)

/-- What `f` makes of the pass numbered `n`, if there is one. -/
def onPass (b : BuiltMaterial) (n : Nat) (f : Pass → List Event) : List Event :=
  ((b.passes[n]?).map f).getD []

end BuiltMaterial

end MaterialPipeline
