import MaterialPipeline.Device.Program
import MaterialPipeline.Feature.Set

/-!
# Program — Draft

A program while features contribute to it.

* `Emission` — one contribution: a declaration or a line of code.
* `Draft.emit` — takes a contribution in; a name that is declared stays as it is.
* `Draft.finish` — the two sources.
-/

namespace MaterialPipeline

/-- The two halves of a program. -/
inductive ShaderStage where
  | vertex | pixel
  deriving DecidableEq, Repr, Inhabited

/-- What a feature contributes to a program. -/
inductive Emission where
  /-- A constant. -/
  | uniform (name : String) (type : UniformType)
  /-- A texture sampler. -/
  | sampler (name : String)
  /-- A value that runs from the vertex to the pixel half. -/
  | varying (name : String) (type : UniformType)
  /-- A line of code. -/
  | line (text : String)
  deriving DecidableEq, Repr, Inhabited

/-- A program in the making. -/
structure Draft where
  uniforms : List Uniform := []
  samplers : List SamplerSlot := []
  varyings : List Uniform := []
  vertexLines : List String := []
  pixelLines : List String := []
  deriving DecidableEq, Repr, Inhabited

namespace Draft

/-- The program without contributions. -/
def empty : Draft := {}

/-- Adds a declaration, unless the name is taken. -/
def declare (declared : List Uniform) (name : String) (type : UniformType) : List Uniform :=
  if declared.any (·.name == name) then declared else declared ++ [⟨name, type⟩]

/-- Adds a sampler in the next free slot, unless the name is taken. -/
def declareSampler (declared : List SamplerSlot) (name : String) : List SamplerSlot :=
  if declared.any (·.name == name) then declared else declared ++ [⟨name, declared.length⟩]

/-- Takes one contribution to the half `half` in. -/
def emit (half : ShaderStage) (d : Draft) : Emission → Draft
  | .uniform name type => { d with uniforms := declare d.uniforms name type }
  | .sampler name => { d with samplers := declareSampler d.samplers name }
  | .varying name type => { d with varyings := declare d.varyings name type }
  | .line text =>
    match half with
    | .vertex => { d with vertexLines := d.vertexLines ++ [text] }
    | .pixel => { d with pixelLines := d.pixelLines ++ [text] }

/-- Takes several contributions to the half `half` in, in order. -/
def emitAll (half : ShaderStage) (d : Draft) (emissions : List Emission) : Draft :=
  emissions.foldl (emit half) d

/-- The slot of the sampler `name`. -/
def slotOf (d : Draft) (name : String) : Nat :=
  ((d.samplers.find? (·.name == name)).map (·.slot)).getD d.samplers.length

/-- What a contribution is known by afterwards: a sampler by its slot, any other declaration by its
name, and a line by nothing. -/
def reference (d : Draft) : Emission → Option (Nat ⊕ String)
  | .sampler name => some (.inl (d.slotOf name))
  | .uniform name _ | .varying name _ => some (.inr name)
  | .line _ => none

/-- Takes several contributions in, and says what each is known by. -/
def emitEach (half : ShaderStage) (d : Draft) : List Emission → List (Option (Nat ⊕ String)) × Draft
  | [] => ([], d)
  | e :: rest =>
    let d := d.emit half e
    let (references, d') := d.emitEach half rest
    (d.reference e :: references, d')

/-! ### Source text -/

/-- The declaration of a constant. -/
def uniformText (u : Uniform) : String :=
  s!"uniform {u.name}: {u.type.sourceName};\n"

/-- The declaration of a sampler. -/
def samplerText (s : SamplerSlot) : String :=
  s!"@binding({s.slot}) var {s.name}: texture_2d<f32>;\n"

/-- The declaration of a value that runs between the halves. -/
def varyingText (v : Uniform) : String :=
  s!"varying {v.name}: {v.type.sourceName};\n"

/-- A line of a body. -/
def lineText (line : String) : String :=
  "    " ++ line ++ "\n"

/-- The vertex half. -/
def vertexSource (d : Draft) : String :=
  String.join (d.uniforms.map uniformText ++ d.varyings.map varyingText
    ++ ["fn vs_main() \x7b\n"] ++ d.vertexLines.map lineText ++ ["\x7d\n"])

/-- The pixel half. -/
def pixelSource (d : Draft) : String :=
  String.join (d.uniforms.map uniformText ++ d.samplers.map samplerText
    ++ d.varyings.map varyingText
    ++ ["fn fs_main() -> vec4<f32> \x7b\n    var col = vec4<f32>(1.0);\n"]
    ++ d.pixelLines.map lineText ++ ["    return col;\n\x7d\n"])

/-- The finished program. -/
def finish (d : Draft) (label : String) (features : FeatureSet) : Program where
  label := label
  vertexSource := d.vertexSource
  pixelSource := d.pixelSource
  uniforms := d.uniforms
  samplers := d.samplers
  features := features.names
  interpolators := d.varyings.length

end Draft

end MaterialPipeline
