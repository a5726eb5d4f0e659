import MaterialPipeline.Device.Error

/-!
# Material — Error

Why a material cannot be drawn.

* `BuildError` — its stages do not become passes.
* `MaterialError` — any cause, with `MaterialError.message` as its wording and
  `MaterialError.causes` as the wording of what lies behind it.
-/

namespace MaterialPipeline

/-- Why stages do not become passes. -/
inductive BuildError where
  /-- The stage alone is over the budget. -/
  | overflow (stage textures interpolators : Nat)
  /-- The program of the stage alone is refused. -/
  | compile (stage : Nat) (source : DeviceError)
  /-- Nothing is left of the stage. -/
  | emptyFeatures (stage : Nat)
  /-- There is no stage at all. -/
  | noLayers
  deriving DecidableEq, Repr, Inhabited

namespace BuildError

/-- The short name of a cause; a slash leads to what lies behind it. -/
def kind : BuildError → String
  | .overflow .. => "SingleLayerOverflow"
  | .compile _ source => "SingleLayerCompile/" ++ source.kind
  | .emptyFeatures _ => "EmptyFeatureSet"
  | .noLayers => "NoLayers"

/-- The wording of a cause. -/
def message : BuildError → String
  | .overflow stage textures interpolators =>
    s!"Stage {stage} alone exceeds hardware limits ({textures} texture slots, {interpolators} interpolators)"
  | .compile stage source => s!"Stage {stage} alone failed to compile: {source.message}"
  | .emptyFeatures stage => s!"Stage {stage} resolved to an empty feature set"
  | .noLayers => "Material has no layers to build"

/-- The wording of what lies behind a cause. -/
def causes : BuildError → List String
  | .compile _ source => [source.message]
  | _ => []

end BuildError

/-- Why a material cannot be drawn. -/
inductive MaterialError where
  | noStages
  | tooManyStages (count limit : Nat)
  | textureLoad (stage : Nat) (path : String) (source : DeviceError)
  | passBuild (source : BuildError)
  /-- A hook was to get hooks of its own. -/
  | hookOnHook
  /-- The instance is gone, or never was. -/
  | unknownInstance
  deriving DecidableEq, Repr, Inhabited

namespace MaterialError

/-- The short name of a cause; a slash leads to what lies behind it. -/
def kind : MaterialError → String
  | .noStages => "NoStages"
  | .tooManyStages .. => "TooManyStages"
  | .textureLoad _ _ source => "TextureLoad/" ++ source.kind
  | .passBuild source => "PassBuild/" ++ source.kind
  | .hookOnHook => "HookOnHook"
  | .unknownInstance => "UnknownInstance"

/-- The wording of a cause. -/
def message : MaterialError → String
  | .noStages => "Material has no stages"
  | .tooManyStages count limit => s!"Material has {count} stages, at most {limit} are supported"
  | .textureLoad stage path source => s!"Stage {stage} failed to load '{path}': {source.message}"
  | .passBuild source => s!"Pass build failed: {source.message}"
  | .hookOnHook => "A material hook cannot own hooks"
  | .unknownInstance => "Unknown material instance"

/-- The wording of what lies behind a cause, the nearest first. -/
def causes : MaterialError → List String
  | .textureLoad _ _ source => [source.message]
  | .passBuild source => source.message :: source.causes
  | _ => []

end MaterialError

end MaterialPipeline
