/-!
# Device — Error

Why a device refuses to create an object.
-/

namespace MaterialPipeline

/-- A refusal of the device. -/
inductive DeviceError where
  /-- The program labelled `label` was rejected. -/
  | programRejected (label reason : String)
  | textureNotFound (path : String)
  | targetRefused (reason : String)
  /-- The device is gone, and every object on it. -/
  | lost
  deriving DecidableEq, Repr, Inhabited

namespace DeviceError

/-- The short name of a refusal. -/
def kind : DeviceError → String
  | .programRejected .. => "ShaderCompile"
  | .textureNotFound _ => "TextureNotFound"
  | .targetRefused _ => "TargetCreation"
  | .lost => "DeviceLost"

/-- The wording of a refusal. -/
def message : DeviceError → String
  | .programRejected label reason => s!"Failed to compile shader '{label}': {reason}"
  | .textureNotFound path => s!"Texture not found: {path}"
  | .targetRefused reason => s!"Failed to create render target: {reason}"
  | .lost => "Graphics device lost"

end DeviceError

end MaterialPipeline
