import MaterialPipeline.Feature.Type

/-!
# Feature — Catalogue

The built-in feature types, numbered from zero in the order of `catalogue`.
-/

namespace MaterialPipeline.FeatureType

def vertTransform : FeatureType := ⟨0, "Vert Transform", .transform, 1, false⟩
def texAnim : FeatureType := ⟨1, "Texture Animation", .preTexture, 1, true⟩
def parallax : FeatureType := ⟨2, "Parallax", .preTexture, 2, true⟩
def diffuseMap : FeatureType := ⟨3, "Diffuse Map", .texture, 1, true⟩
def overlayMap : FeatureType := ⟨4, "Overlay Map", .texture, 2, true⟩
def detailMap : FeatureType := ⟨5, "Detail Map", .texture, 3, true⟩
def diffuseColor : FeatureType := ⟨6, "Diffuse Color", .texture, 4, true⟩
def normalMap : FeatureType := ⟨7, "Normal Map", .texture, 5, true⟩
def specularMap : FeatureType := ⟨8, "Specular Map", .texture, 6, true⟩
def alphaTest : FeatureType := ⟨9, "Alpha Test", .preLighting, 1, true⟩
def vertLit : FeatureType := ⟨10, "Vert Lit", .lighting, 1, true⟩
def lightMap : FeatureType := ⟨11, "Light Map", .lighting, 2, true⟩
def toneMap : FeatureType := ⟨12, "Tone Map", .lighting, 3, true⟩
def rtLighting : FeatureType := ⟨13, "RT Lighting", .lighting, 4, false⟩
def pixSpecular : FeatureType := ⟨14, "Pixel Specular", .postLighting, 1, true⟩
def cubeMap : FeatureType := ⟨15, "Cube Map", .postLighting, 2, true⟩
def fog : FeatureType := ⟨16, "Fog", .postProcess, 1, true⟩
def visibility : FeatureType := ⟨17, "Visibility", .postProcess, 2, false⟩
def glowMask : FeatureType := ⟨18, "Glow Mask", .postProcess, 3, true⟩
def prePassConditioner : FeatureType := ⟨19, "PrePass Conditioner", .postProcess, 997, false⟩
def depthOut : FeatureType := ⟨20, "Depth Out", .postProcess, 998, false⟩
def hdrOut : FeatureType := ⟨21, "HDR Out", .postProcess, 999, false⟩
def translucent : FeatureType := ⟨22, "Translucent", .misc, 1, true⟩
def translucentZWrite : FeatureType := ⟨23, "Translucent ZWrite", .misc, 2, true⟩

/-- Every built-in type, by number. -/
def catalogue : List FeatureType :=
  [vertTransform, texAnim, parallax, diffuseMap, overlayMap, detailMap, diffuseColor, normalMap,
    specularMap, alphaTest, vertLit, lightMap, toneMap, rtLighting, pixSpecular, cubeMap, fog,
    visibility, glowMask, prePassConditioner, depthOut, hdrOut, translucent, translucentZWrite]

/-- The types that light a surface; a stage uses at most one. -/
def lightingPaths : List FeatureType :=
  [vertLit, lightMap, toneMap, rtLighting]

end MaterialPipeline.FeatureType
