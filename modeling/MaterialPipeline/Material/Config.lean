import MaterialPipeline.Device.Limits
import MaterialPipeline.Feature.Catalogue
import MaterialPipeline.Feature.Set

/-!
# Material — Config

The switches that hold for all materials.

* `Config.exclusions` — the features that are switched off.
* `Config.effectiveLimits` — the budget that passes are built for.
-/

namespace MaterialPipeline

/-- The switches for all materials. -/
structure Config where
  disableNormalMapping : Bool := false
  disableSpecular : Bool := false
  disableCubemapping : Bool := false
  /-- Whether depth and normals are drawn ahead of colour. -/
  prepassEnabled : Bool := false
  /-- Takes the place of the texture slots of the device. -/
  textureSlotsOverride : Option Nat := none
  deriving DecidableEq, Repr, Inhabited

namespace Config

/-- The features that are switched off. -/
def exclusions (c : Config) : FeatureSet :=
  let types (on : Bool) (l : List FeatureType) : List Feature :=
    if on then l.map (⟨·, none⟩) else []
  .ofList (types c.disableNormalMapping [.normalMap, .parallax]
    ++ types c.disableSpecular [.pixSpecular, .specularMap]
    ++ types c.disableCubemapping [.cubeMap])

/-- The budget of the device with the override in place. -/
def overrideLimits (c : Config) (device : Limits) : Limits :=
  match c.textureSlotsOverride with
  | some slots => { device with textureSlots := slots }
  | none => device

/-- The budget that passes are built for. -/
def effectiveLimits (c : Config) (device : Limits) : Limits :=
  (c.overrideLimits device).clamped

/-- What computing the budget reports. -/
def limitNotes (c : Config) (device : Limits) : List Note :=
  (c.overrideLimits device).clampNotes

/-- The text of a configuration in descriptions. -/
def describe (c : Config) : String :=
  let slots := match c.textureSlotsOverride with
    | some n => s!"Some({n})"
    | none => "None"
  s!"MaterialConfig \x7b disable_normal_mapping: {c.disableNormalMapping}, disable_specular: {c.disableSpecular}, disable_cubemapping: {c.disableCubemapping}, prepass_enabled: {c.prepassEnabled}, max_texture_slots_override: {slots} \x7d"

end Config

end MaterialPipeline
