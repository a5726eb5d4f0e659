import MaterialPipeline.Material.Composite
import MaterialPipeline.Material.Error
import MaterialPipeline.Material.Stage

/-!
# Material

A material as authored: texture layers, and how the whole is drawn.

* `Material.validate` — whether the number of stages is supported.
* `Material.warning` — what is drawn in place of a material that cannot be.
-/

namespace MaterialPipeline

/-- The most stages that a material may have. -/
def maxStages : Nat := 8

/-- A material as authored. -/
structure Material where
  name : String
  stages : List Stage := []
  translucent : Bool := false
  translucentComposite : Composite := .lerpAlpha
  translucentZWrite : Bool := false
  alphaTest : Bool := false
  alphaRef : Nat := 1
  doubleSided : Bool := false
  castShadows : Bool := false
  fog : Bool := true
  deriving DecidableEq, Repr, Inhabited

namespace Material

/-- One unlit magenta stage. -/
def warning : Material where
  name := "WarningMaterial"
  stages := [{ diffuseColor := ⟨1, 0, 1, 1⟩, emissive := true }]
  fog := false

/-- A material has at least one stage, and no more than the limit. -/
def validate (m : Material) : Except MaterialError Unit :=
  if m.stages.isEmpty then .error .noStages
  else if maxStages < m.stages.length then .error (.tooManyStages m.stages.length maxStages)
  else .ok ()

/-- Whether a stage glows. -/
def hasGlow (m : Material) : Bool :=
  m.stages.any (·.glow)

/-- The first stage that glows. -/
def glowStage (m : Material) : Option Nat :=
  m.stages.findIdx? (·.glow)

end Material

end MaterialPipeline
