import MaterialPipeline.Device.Call
import MaterialPipeline.Material.Flags
import MaterialPipeline.Number.Shortest
import MaterialPipeline.Storage.Slot

/-!
# Frame — Submission

One drawable object, handed in for one frame.

* `Submission.mesh`, `Submission.terrain`, `Submission.particle` — geometry with a material; it sorts
  by the position of the material, then by its vertex buffer.
* `Submission.object` — an object that draws itself.
-/

namespace MaterialPipeline

/-- What hands an object in. -/
inductive SubmissionKind where
  | mesh | terrain | particle
  /-- An object that draws itself. -/
  | object
  /-- An object that draws itself and lets light through. -/
  | objectTranslucent
  deriving DecidableEq, Repr, Inhabited

instance : Named SubmissionKind where
  table := [(.mesh, "Mesh"), (.terrain, "Terrain"), (.particle, "Particle"), (.object, "Object"),
    (.objectTranslucent, "ObjectTranslucent")]

/-- How an object draws itself: the ranges that it draws, given its own. -/
structure Delegate where
  ranges : PrimitiveRange → List PrimitiveRange

namespace Delegate

/-- Draws the range of the object once. -/
def once : Delegate := ⟨fun range => [range]⟩

/-- Draws nothing. -/
def idle : Delegate := ⟨fun _ => []⟩

end Delegate

/-- One drawable object. -/
structure Submission where
  kind : SubmissionKind
  material : Option Slot := none
  /-- The summary of the material, as of the time when the object is handed in. -/
  flags : MaterialFlags := {}
  vertices : Option BufferHandle := none
  indices : Option BufferHandle := none
  range : PrimitiveRange := .triangles 0 0
  world : Mat4 := .identity
  sortKey : Nat := 0
  secondaryKey : Nat := 0
  /-- The square of the distance to the camera. -/
  distanceSquared : Single := 0
  lightMap : Option TextureHandle := none
  visibility : Single := 1
  delegate : Option Delegate := none

instance : Inhabited Submission := ⟨{ kind := .mesh }⟩

namespace Submission

/-- Geometry with a material; particles have no indices. -/
def geometry (kind : SubmissionKind) (material : Slot) (vertices : BufferHandle)
    (indices : Option BufferHandle) (range : PrimitiveRange) : Except Fault Submission :=
  return {
    kind := kind
    material := some material
    vertices := some vertices
    indices := if kind = .particle then none else indices
    range := range
    sortKey := (← material.position).toNat
    secondaryKey := vertices.number }

/-- A mesh. -/
def mesh := geometry .mesh

/-- A block of terrain. -/
def terrain := geometry .terrain

/-- Particles. -/
def particle (material : Slot) (vertices : BufferHandle) (range : PrimitiveRange) :
    Except Fault Submission :=
  geometry .particle material vertices none range

/-- An object that draws itself. -/
def object (delegate : Delegate) (translucent : Bool) : Submission where
  kind := if translucent then .objectTranslucent else .object
  delegate := some delegate

/-- The object seen from `camera`: its distance is that of the origin of its world. -/
def seenFrom (s : Submission) (camera : Vec3) : Submission :=
  { s with distanceSquared := s.world.w.truncate.distanceSquared camera }

/-- Whether the object lets light through. -/
def isTranslucent (s : Submission) : Bool :=
  s.kind == .objectTranslucent || s.flags.translucent

/-- The text of an object in descriptions. -/
def describe (s : Submission) : String :=
  let kind := Named.name s.kind
  let material := (s.material.map fun id => s!"Some(MatInstanceId({id.describe}))").getD "None"
  let distance := s.distanceSquared.text .described
  s!"RenderInst \x7b ty: {kind}, material: {material}, mat_flags: {s.flags.describe}, sort_key: {s.sortKey}, secondary_key: {s.secondaryKey}, sort_distance_sq: {distance}, delegate: {s.delegate.isSome}, .. \x7d"

end Submission

end MaterialPipeline
