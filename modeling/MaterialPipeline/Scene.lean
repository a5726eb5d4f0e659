import MaterialPipeline.Device.Handle
import MaterialPipeline.Geometry.Matrix
import MaterialPipeline.Text.Named

/-!
# Scene

What holds for all draws of a frame, and what holds for one draw.
-/

namespace MaterialPipeline

/-- What a frame shows. -/
inductive ScenePass where
  | diffuse
  /-- A reflection, in which faces turn the other way. -/
  | reflect
  | shadow
  deriving DecidableEq, Repr, Inhabited

instance : Named ScenePass where
  table := [(.diffuse, "Diffuse"), (.reflect, "Reflect"), (.shadow, "Shadow")]

/-- Fog. -/
structure Fog where
  color : Vec4 := ⟨0.5, 0.5, 0.5, 1⟩
  start : Single := 0
  density : Single := 0
  heightFalloff : Single := 0
  deriving DecidableEq, Repr, Inhabited

/-- Light. -/
structure Light where
  position : Vec3 := ⟨0, 100, 0⟩
  color : Vec4 := .one
  ambient : Vec4 := ⟨0.2, 0.2, 0.2, 1⟩
  deriving DecidableEq, Repr, Inhabited

/-- What holds for all draws of a frame. -/
structure Scene where
  pass : ScenePass := .diffuse
  camera : Vec3 := .zero
  view : Mat4 := .identity
  projection : Mat4 := .identity
  /-- Seconds since the start. -/
  time : Single := 0
  fog : Fog := {}
  light : Light := {}
  /-- Whether everything is drawn in lines. -/
  wireframe : Bool := false
  deriving DecidableEq, Repr, Inhabited

namespace Scene

/-- The view followed by the projection. -/
def viewProjection (s : Scene) : Mat4 :=
  s.projection * s.view

/-- Whether the frame is a reflection. -/
def isReflection (s : Scene) : Bool :=
  s.pass == .reflect

end Scene

/-- Which kind of bin draws. -/
inductive BinKind where
  | regular | translucent | glow | prePass
  deriving DecidableEq, Repr, Inhabited

instance : Named BinKind where
  table := [(.regular, "Regular"), (.translucent, "Translucent"), (.glow, "Glow"),
    (.prePass, "PrePass")]

/-- What holds for one draw. -/
structure DrawContext where
  bin : BinKind := .regular
  lightMap : Option TextureHandle := none
  /-- How far an object is faded in; one is all the way. -/
  visibility : Single := 1
  wireframe : Bool := false
  deriving DecidableEq, Repr, Inhabited

end MaterialPipeline
