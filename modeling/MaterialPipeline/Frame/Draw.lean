import MaterialPipeline.Frame.Stats
import MaterialPipeline.Frame.Submission
import MaterialPipeline.Material.Library

/-!
# Frame — Draw

Drawing objects with one material.

* `Form.roundEvents` — one pass over the objects, as data: set the pass up, draw each object, unbind
  the textures.
* `drawBatch` — all passes over the objects, with what the library gives for a material.
-/

namespace MaterialPipeline

/-- The object with the summary of its material, as of now. -/
def Submission.stamp (s : Submission) (library : Library) : Except Fault Submission := do
  match s.material with
  | some id => return { s with flags := ← library.flags id }
  | none => return s

/-- What drawing changes besides the session. -/
structure Drawing where
  library : Library
  stats : FrameStats

/-- An effect of drawing. -/
abbrev DrawAction := StateT Drawing Action

namespace Form

/-- One object in one pass. -/
def objectEvents (b : BuiltMaterial) (scene : Scene) (bin : BinKind) (p : Pass)
    (s : Submission) : List Event :=
  let draw : DrawContext := { bin := bin, lightMap := s.lightMap, visibility := s.visibility }
  BuiltMaterial.transforms scene s.world p
    ++ b.sceneInfo scene draw p
    ++ b.textureStages draw p
    ++ ((s.vertices.map fun h => BuiltMaterial.setBuffers h s.indices).getD [])
    ++ [.call (.draw s.range)]

/-- One pass over the objects. -/
def roundEvents (b : BuiltMaterial) (limits : Limits) (scene : Scene) (bin : BinKind)
    (objects : List Submission) (p : Pass) : List Event :=
  b.setup limits scene { bin := bin } p
    ++ objects.flatMap (objectEvents b scene bin p)
    ++ BuiltMaterial.cleanup p

/-- The passes that are still to be set up. -/
def remainingPasses (f : Form) : List Pass :=
  ((f.built.map (·.passes)).getD []).drop f.nextPass

/-- Every pass that is still to be set up over the objects. -/
def drawEvents (f : Form) (limits : Limits) (scene : Scene) (bin : BinKind)
    (objects : List Submission) : List Event :=
  match f.built with
  | none => []
  | some b => f.leavePass ++ f.remainingPasses.flatMap (roundEvents b limits scene bin objects)

end Form

/-- Draws objects with one material. -/
def drawBatch (scene : Scene) (bin : BinKind) (material : MaterialRef)
    (objects : List Submission) : DrawAction Unit := do
  let drawing ← get
  let (found, library) ← drawing.library.renderable material
  match found with
  | none =>
    set { drawing with library := library }
    Action.report (.trace
      s!"No renderable material for {material.describe}, dropping {objects.length} elements")
  | some (place, form) =>
    let limits ← Action.limits
    Action.perform (form.drawEvents limits scene bin objects)
    let rounds := form.remainingPasses.length
    let stats := { drawing.stats with
      setups := drawing.stats.setups + rounds
      draws := drawing.stats.draws + rounds * objects.length }
    let library ← library.setForm place { form with current := none }
    set { drawing with library := library, stats := stats }

/-- Lets an object draw itself. -/
def drawDelegate (delegate : Delegate) (s : Submission) : DrawAction Unit := do
  let ranges := delegate.ranges s.range
  Action.perform (ranges.map fun r => .call (.draw r))
  modify fun drawing =>
    { drawing with stats := { drawing.stats with draws := drawing.stats.draws + ranges.length } }

end MaterialPipeline
