import MaterialPipeline.Text.Named

/-!
# Device — Program

What a device compiles: the two sources of a program and the interface that they share.

* `UniformType.bytes` — the size of a constant, as uploaded.
-/

namespace MaterialPipeline

/-- The type of a constant or of a value between the two stages. -/
inductive UniformType where
  | float | float2 | float3 | float4 | float4x4
  deriving DecidableEq, Repr, Inhabited

instance : Named UniformType where
  table := [(.float, "Float"), (.float2, "Float2"), (.float3, "Float3"), (.float4, "Float4"),
    (.float4x4, "Float4x4")]

namespace UniformType

/-- The bytes of a constant of this type. -/
def bytes : UniformType → Nat
  | .float => 4
  | .float2 => 8
  | .float3 => 12
  | .float4 => 16
  | .float4x4 => 64

/-- The name of the type in program text. -/
def sourceName : UniformType → String
  | .float => "f32"
  | .float2 => "vec2<f32>"
  | .float3 => "vec3<f32>"
  | .float4 => "vec4<f32>"
  | .float4x4 => "mat4x4<f32>"

end UniformType

/-- A declared constant. -/
structure Uniform where
  name : String
  type : UniformType
  deriving DecidableEq, Repr, Inhabited

/-- A declared texture sampler. -/
structure SamplerSlot where
  name : String
  slot : Nat
  deriving DecidableEq, Repr, Inhabited

/-- A program to compile. -/
structure Program where
  label : String := ""
  vertexSource : String := ""
  pixelSource : String := ""
  uniforms : List Uniform := []
  samplers : List SamplerSlot := []
  /-- The names of the features that it was generated from. -/
  features : List String := []
  /-- The registers that run from the vertex to the pixel stage. -/
  interpolators : Nat := 0
  deriving DecidableEq, Repr, Inhabited

namespace Program

/-- Whether a constant of that name is declared. -/
def hasUniform (p : Program) (name : String) : Bool :=
  p.uniforms.any (·.name == name)

end Program

end MaterialPipeline
