import MaterialPipeline.Feature.Generator

/-!
# Feature — Template

Generators written down as data.  A name or a line that begins with `@` takes the number of the stage
that it is written for.

* `Emission.expand`, `TemplateSource.expand` — a piece of a template, for a stage.
* `Template.generator` — the generator that a template describes.
-/

namespace MaterialPipeline

namespace Template

/-- A text of a template, for a stage. -/
def expandText (stage : Option Nat) (text : String) : String :=
  match text.toList with
  | '@' :: base => Scope.indexedName stage (String.ofList base)
  | _ => text

end Template

/-- A contribution of a template, for a stage. -/
def Emission.expand (stage : Option Nat) : Emission → Emission
  | .uniform name type => .uniform (Template.expandText stage name) type
  | .sampler name => .sampler (Template.expandText stage name)
  | .varying name type => .varying (Template.expandText stage name) type
  | .line text => .line (Template.expandText stage text)

/-- Where a template takes a texture from. -/
inductive TemplateSource where
  | lightMap
  /-- A map of a stage; without a number, of the stage that the template is written for. -/
  | map (stage : Option Nat) (kind : MapKind)
  deriving DecidableEq, Repr, Inhabited

/-- The source of a texture, for a stage; no stage counts as the first. -/
def TemplateSource.expand (stage : Option Nat) : TemplateSource → TextureSource
  | .lightMap => .lightMap
  | .map own kind => .map (own.getD (stage.getD 0)) kind

/-- A generator written down. -/
structure Template where
  vertex : List Emission := []
  pixel : List Emission := []
  cost : Cost := .none
  textures : List (String × TemplateSource) := []
  deriving DecidableEq, Repr, Inhabited

namespace Template

/-- The generator that a template describes.  Samplers are always numbered. -/
def generator (t : Template) : Generator where
  vertex scope := t.vertex.map (·.expand scope.stage)
  pixel scope := t.pixel.map (·.expand scope.stage)
  cost _ _ := t.cost
  textures stage := t.textures.map fun (name, source) =>
    (expandText (some (stage.getD 0)) name, source.expand stage)

end Template

end MaterialPipeline
