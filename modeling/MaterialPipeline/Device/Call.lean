import MaterialPipeline.Device.Handle
import MaterialPipeline.Device.Target
import MaterialPipeline.Device.Value

/-!
# Device — Call

What the pipeline asks of a device, as data.  A trace of calls is what a device remembers, and a
list of calls is what a draw consists of.
-/

namespace MaterialPipeline

/-- What a buffer holds. -/
inductive BufferKind where
  | vertex | index
  deriving DecidableEq, Repr, Inhabited

instance : Named BufferKind where
  table := [(.vertex, "Vertex"), (.index, "Index")]

/-- A range of triangles in the bound buffers. -/
structure PrimitiveRange where
  /-- The first vertex, or the first index of an indexed range. -/
  start : Nat
  /-- The number of vertices, or of indices of an indexed range. -/
  count : Nat
  indexed : Bool
  baseVertex : Int
  deriving DecidableEq, Repr, Inhabited

namespace PrimitiveRange

/-- Triangles from consecutive vertices. -/
def triangles (start count : Nat) : PrimitiveRange :=
  ⟨start, count, false, 0⟩

/-- Triangles from consecutive indices. -/
def indexedTriangles (start count : Nat) (baseVertex : Int) : PrimitiveRange :=
  ⟨start, count, true, baseVertex⟩

end PrimitiveRange

/-- One request to a device. -/
inductive Call where
  | createProgram (label : String) (features : List String)
  | destroyProgram (h : ProgramHandle)
  | createState (h : StateHandle)
  | destroyState (h : StateHandle)
  | loadTexture (path : String)
  | releaseTexture (h : TextureHandle)
  | createBuffer (label : String) (size : Nat) (kind : BufferKind)
  | destroyBuffer (h : BufferHandle)
  | createTarget (target : Target)
  | destroyTarget (h : TargetHandle)
  | pushTarget (h : TargetHandle)
  | popTarget
  | resolveTarget (h : TargetHandle)
  | clear (flags : Nat) (color : Vec4) (depth : Single) (stencil : Nat)
  | setProgram (h : ProgramHandle)
  | setConstant (h : ProgramHandle) (name : String) (value : ConstantValue)
  | setState (h : StateHandle)
  | setTexture (slot : Nat) (h : Option TextureHandle)
  | setVertexBuffer (h : BufferHandle)
  | setIndexBuffer (h : Option BufferHandle)
  | draw (range : PrimitiveRange)
  deriving DecidableEq, Repr

namespace Call

/-- The name of the request. -/
def name : Call → String
  | createProgram .. => "CreateShader"
  | destroyProgram .. => "DestroyShader"
  | createState .. => "CreateStateBlock"
  | destroyState .. => "DestroyStateBlock"
  | loadTexture .. => "LoadTexture"
  | releaseTexture .. => "ReleaseTexture"
  | createBuffer .. => "CreateBuffer"
  | destroyBuffer .. => "DestroyBuffer"
  | createTarget .. => "CreateRenderTarget"
  | destroyTarget .. => "DestroyRenderTarget"
  | pushTarget .. => "PushRenderTarget"
  | popTarget => "PopRenderTarget"
  | resolveTarget .. => "ResolveRenderTarget"
  | clear .. => "Clear"
  | setProgram .. => "SetShader"
  | setConstant .. => "SetShaderConstant"
  | setState .. => "SetStateBlock"
  | setTexture .. => "SetTexture"
  | setVertexBuffer .. => "SetVertexBuffer"
  | setIndexBuffer .. => "SetIndexBuffer"
  | draw .. => "Draw"

end Call

end MaterialPipeline
