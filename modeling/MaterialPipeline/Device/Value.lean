import MaterialPipeline.Device.Program
import MaterialPipeline.Geometry.Matrix

/-!
# Device — Value

Values of program constants.
-/

namespace MaterialPipeline

/-- The value of a constant. -/
inductive ConstantValue where
  | float (x : Single)
  | vec2 (v : Vec2)
  | vec3 (v : Vec3)
  | vec4 (v : Vec4)
  | mat4 (m : Mat4)
  deriving DecidableEq, Repr

namespace ConstantValue

/-- The type that a value has. -/
def type : ConstantValue → UniformType
  | .float _ => .float
  | .vec2 _ => .float2
  | .vec3 _ => .float3
  | .vec4 _ => .float4
  | .mat4 _ => .float4x4

/-- The numbers that are uploaded for a value. -/
def numbers : ConstantValue → List Single
  | .float x => [x]
  | .vec2 v => v.toList
  | .vec3 v => v.toList
  | .vec4 v => v.toList
  | .mat4 m => m.toList

/-- The bytes that are uploaded for a value. -/
def bytes (v : ConstantValue) : Nat :=
  4 * v.numbers.length

end ConstantValue

end MaterialPipeline
