import MaterialPipeline.Feature.Catalogue
import MaterialPipeline.Feature.Generator

/-!
# Feature — Builtin

The generators of the catalogue.

The maps of one stage share the texture coordinate of the stage: the first of them in the pipeline
computes it and pays for it (`claimsCoord`).  The normal maps of a set share one tangent frame: the
first of them pays for it.  A normal map reads the sampler of a parallax map of its stage.
-/

namespace MaterialPipeline.Generator

/-! ### Shared parts -/

/-- The types that sample at the texture coordinate of their stage, in pipeline order. -/
def coordTypes : List FeatureId :=
  [FeatureType.parallax.id, FeatureType.diffuseMap.id, FeatureType.overlayMap.id,
    FeatureType.detailMap.id, FeatureType.normalMap.id, FeatureType.specularMap.id]

/-- Whether the type numbered `id` is the first of its stage to sample at the coordinate. -/
def claimsCoord (set : FeatureSet) (stage : Option Nat) (id : FeatureId) : Bool :=
  coordTypes.find? (set.hasAt · stage) == some id

/-- The interpolators that the coordinate costs the type numbered `id`. -/
def coordCost (set : FeatureSet) (stage : Option Nat) (id : FeatureId) : Nat :=
  if claimsCoord set stage id then 1 else 0

/-- Whether the entry of the type numbered `id` for `stage` is the first of its type. -/
def isFirst (set : FeatureSet) (id : FeatureId) (stage : Option Nat) : Bool :=
  (set.stagesOf id).head? == some stage

/-- The interpolators of a tangent frame. -/
def tangentFrameInterpolators : Nat := 3

/-- The name of the texture coordinate. -/
def coordName (c : Scope) : String :=
  c.indexed "texCoord"

/-- Declares the texture coordinate. -/
def coord (c : Scope) : Emission :=
  .varying (coordName c) .float2

/-- Computes the texture coordinate, in the entry that claims it. -/
def coordVertex (c : Scope) (id : FeatureId) : List Emission :=
  if !claimsCoord c.features c.stage id then []
  else if c.features.hasAt FeatureType.texAnim.id c.stage then
    let matrix := c.indexed "texMat"
    [coord c, .line s!"{coordName c} = (({matrix} * vec4<f32>(uv0, 0.0, 1.0))).xy;"]
  else [coord c, .line s!"{coordName c} = uv0;"]

/-- Declares what a sample of a map needs. -/
def sampleMap (c : Scope) (base : String) : List Emission :=
  [coord c, .sampler (c.indexed base)]

/-- The sample of a map at the texture coordinate. -/
def sampleText (c : Scope) (base : String) : String :=
  s!"textureSample({c.indexed base}, {coordName c})"

/-- The sampler of a map of a stage; an entry without stage reads stage 0. -/
def mapTexture (base : String) (kind : MapKind) (stage : Option Nat) :
    List (String × TextureSource) :=
  [(s!"{base}{stage.getD 0}", .map (stage.getD 0) kind)]

/-- The cost of one sampler at the texture coordinate of the stage. -/
def mapCost (id : FeatureId) (set : FeatureSet) (stage : Option Nat) : Cost :=
  ⟨1, coordCost set stage id⟩

/-! ### Transform and coordinates -/

def vertTransform : Generator where
  vertex _ :=
    [.uniform "modelview" .float4x4, .line "out_position = modelview * vec4<f32>(position, 1.0);"]

/-- Declares the texture matrix; the entry that claims the coordinate applies it. -/
def texAnim : Generator where
  vertex c := [.uniform (c.indexed "texMat") .float4x4]

/-- Shifts the coordinate by the height in the alpha channel of the normal map. -/
def parallax : Generator where
  vertex c :=
    coordVertex c FeatureType.parallax.id
      ++ [.uniform "eyePosObj" .float3, .varying "eyeTangent" .float3,
        .line "eyeTangent = tangentToObj * (eyePosObj - position);"]
  pixel c :=
    let scale := c.indexed "parallaxInfo"
    let height := sampleText c "bumpMap"
    [.uniform scale .float] ++ sampleMap c "bumpMap"
      ++ [.line s!"{coordName c} += normalize(eyeTangent).xy * ({height}.a * {scale});"]
  cost set stage :=
    let eye := if isFirst set FeatureType.parallax.id stage then 1 else 0
    ⟨1, coordCost set stage FeatureType.parallax.id + eye⟩
  textures := mapTexture "bumpMap" .normal

/-! ### Texture -/

def diffuseMap : Generator where
  vertex c := coordVertex c FeatureType.diffuseMap.id
  pixel c :=
    let sample := sampleText c "diffuseMap"
    sampleMap c "diffuseMap" ++ [.line s!"col = {sample};"]
  cost := mapCost FeatureType.diffuseMap.id
  textures := mapTexture "diffuseMap" .diffuse

def overlayMap : Generator where
  vertex c := coordVertex c FeatureType.overlayMap.id
  pixel c :=
    let sample := sampleText c "overlayMap"
    sampleMap c "overlayMap"
      ++ [.line s!"let overlay = {sample};",
        .line "col = mix(col, overlay, overlay.a);"]
  cost := mapCost FeatureType.overlayMap.id
  textures := mapTexture "overlayMap" .overlay

def detailMap : Generator where
  vertex c := coordVertex c FeatureType.detailMap.id
  pixel c :=
    let scale := c.indexed "detailScale"
    let name := c.indexed "detailMap"
    [.uniform scale .float2, .sampler name, coord c,
      .line s!"col += textureSample({name}, {coordName c} * {scale}) * 2.0 - 1.0;"]
  cost := mapCost FeatureType.detailMap.id
  textures := mapTexture "detailMap" .detail

def diffuseColor : Generator where
  pixel c :=
    let color := c.indexed "diffuseMaterialColor"
    let assign := if c.features.hasAt FeatureType.diffuseMap.id c.stage then "*=" else "="
    [.uniform color .float4, .line s!"col {assign} {color};"]

def normalMap : Generator where
  vertex c :=
    let row (n : Nat) (source : String) : List Emission :=
      [.varying s!"tangentFrame{n}" .float3,
        .line s!"tangentFrame{n} = (objTrans * vec4<f32>({source}, 0.0)).xyz;"]
    coordVertex c FeatureType.normalMap.id
      ++ if isFirst c.features FeatureType.normalMap.id c.stage then
        row 0 "tangent.xyz" ++ row 1 "cross(normal, tangent.xyz) * tangent.w" ++ row 2 "normal"
      else []
  pixel c :=
    let sample := sampleText c "bumpMap"
    let frame := "mat3x3<f32>(tangentFrame0, tangentFrame1, tangentFrame2)"
    sampleMap c "bumpMap"
      ++ [.line s!"bumpNormal = normalize({frame} * ({sample}.xyz * 2.0 - 1.0));"]
  cost set stage :=
    let textures := if set.hasAt FeatureType.parallax.id stage then 0 else 1
    let frame :=
      if isFirst set FeatureType.normalMap.id stage then tangentFrameInterpolators else 0
    ⟨textures, coordCost set stage FeatureType.normalMap.id + frame⟩
  textures := mapTexture "bumpMap" .normal

def specularMap : Generator where
  vertex c := coordVertex c FeatureType.specularMap.id
  pixel c :=
    let sample := sampleText c "specularMap"
    sampleMap c "specularMap" ++ [.line s!"specularMask = {sample};"]
  cost := mapCost FeatureType.specularMap.id
  textures := mapTexture "specularMap" .specular

/-! ### Lighting -/

def alphaTest : Generator where
  pixel _ :=
    [.uniform "alphaTestValue" .float,
      .line "if (col.a < alphaTestValue) \x7b discard; \x7d"]

def vertLit : Generator where
  vertex _ := [.varying "vertColor" .float4, .line "vertColor = diffuse;"]
  pixel _ := [.line "col *= vertColor;"]
  cost _ _ := ⟨0, 1⟩

def lightMap : Generator where
  vertex _ := [.varying "lmCoord" .float2, .line "lmCoord = uv1;"]
  pixel _ := [.sampler "lightMap", .line "col *= textureSample(lightMap, lmCoord);"]
  cost _ _ := ⟨1, 1⟩
  textures _ := [("lightMap", .lightMap)]

/-- The tone maps of a set share one coordinate, which is that of the light map if there is one. -/
def toneMap : Generator where
  vertex _ := [.varying "lmCoord" .float2, .line "lmCoord = uv1;"]
  pixel c :=
    let name := c.indexed "toneMap"
    [.sampler name, .line s!"col *= textureSample({name}, lmCoord);"]
  cost set stage :=
    let pays := !set.has FeatureType.lightMap.id && isFirst set FeatureType.toneMap.id stage
    ⟨1, if pays then 1 else 0⟩
  textures := mapTexture "toneMap" .tone

def rtLighting : Generator where
  vertex c :=
    let normal : List Emission :=
      if c.features.has FeatureType.normalMap.id then []
      else [.line "bumpNormal = normalize((objTrans * vec4<f32>(normal, 0.0)).xyz);"]
    [.varying "wsPosition" .float3,
      .line "wsPosition = (objTrans * vec4<f32>(position, 1.0)).xyz;"]
      ++ normal ++ [.varying "wsNormal" .float3, .line "wsNormal = bumpNormal;"]
  pixel _ :=
    [.uniform "inLightPos" .float4, .uniform "inLightColor" .float4, .uniform "ambient" .float4,
      .line "let lightDir = normalize(inLightPos.xyz - wsPosition);",
      .line "col *= ambient + inLightColor * saturate(dot(wsNormal, lightDir));"]
  cost _ _ := ⟨0, 2⟩

def pixSpecular : Generator where
  pixel _ :=
    [.uniform "specularColor" .float4, .uniform "specularPower" .float,
      .uniform "eyePosWorld" .float3,
      .line "let halfVec = normalize(lightDir + normalize(eyePosWorld - wsPosition));",
      .line "col += specularColor * pow(saturate(dot(wsNormal, halfVec)), specularPower);"]

def cubeMap : Generator where
  vertex c :=
    let direction := c.indexed "reflectVec"
    [.varying direction .float3, .uniform "eyePosWorld" .float3,
      .line s!"{direction} = reflect(position - eyePosWorld, normal);"]
  pixel c :=
    let name := c.indexed "cubeMap"
    let direction := c.indexed "reflectVec"
    [.sampler name, .line s!"col = mix(col, textureSample({name}, {direction}), col.a);"]
  cost _ _ := ⟨1, 1⟩
  textures := mapTexture "cubeMap" .cube

/-! ### Output -/

def fog : Generator where
  pixel _ :=
    [.uniform "fogData" .float3, .uniform "fogColor" .float4,
      .line "let fogAmount = saturate(exp(-fogData.y * (out_depth - fogData.x)));",
      .line "col = vec4<f32>(mix(fogColor.rgb, col.rgb, fogAmount), col.a);"]

def visibility : Generator where
  pixel _ := [.uniform "visibility" .float, .line "col.a *= visibility;"]

/-- Turns stages that do not glow black. -/
def glowMask : Generator where
  pixel _ := [.uniform "glowMul" .float, .line "col = vec4<f32>(col.rgb * glowMul, col.a);"]

/-- Packs the normal and the depth of a surface. -/
def prePassConditioner : Generator where
  vertex _ :=
    [.varying "vsNormalDepth" .float4,
      .line "vsNormalDepth = vec4<f32>((modelview * vec4<f32>(normal, 0.0)).xyz, out_position.z);"]
  pixel _ :=
    [.line "col = vec4<f32>(normalize(vsNormalDepth.xyz) * 0.5 + 0.5, vsNormalDepth.w);"]
  cost _ _ := ⟨0, 1⟩

def depthOut : Generator where
  vertex _ := [.varying "depth" .float, .line "depth = out_position.z / out_position.w;"]
  pixel _ := [.line "col = vec4<f32>(depth, depth, depth, col.a);"]
  cost _ _ := ⟨0, 1⟩

def hdrOut : Generator where
  pixel _ := [.line "col = hdrEncode(col);"]

/-- A feature that only the fixed-function state depends on. -/
def marker : Generator := {}

/-- The generator of every built-in type. -/
def builtin : List (FeatureType × Generator) :=
  [(.vertTransform, vertTransform), (.texAnim, texAnim), (.parallax, parallax),
    (.diffuseMap, diffuseMap), (.overlayMap, overlayMap), (.detailMap, detailMap),
    (.diffuseColor, diffuseColor), (.normalMap, normalMap), (.specularMap, specularMap),
    (.alphaTest, alphaTest), (.vertLit, vertLit), (.lightMap, lightMap), (.toneMap, toneMap),
    (.rtLighting, rtLighting), (.pixSpecular, pixSpecular), (.cubeMap, cubeMap), (.fog, fog),
    (.visibility, visibility), (.glowMask, glowMask), (.prePassConditioner, prePassConditioner),
    (.depthOut, depthOut), (.hdrOut, hdrOut), (.translucent, marker),
    (.translucentZWrite, marker)]

end MaterialPipeline.Generator
