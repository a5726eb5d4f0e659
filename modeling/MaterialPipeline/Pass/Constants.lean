import MaterialPipeline.Session

/-!
# Pass — Constants

The constants that a program declares, by name.

* `Constants.ofUniforms` — a name that is declared twice keeps its place and takes the later type.
* `Constants.upload` — a value goes to the device if its name and type are declared.
-/

namespace MaterialPipeline

/-- Declared constants, in order. -/
structure Constants where
  entries : List Uniform := []
  deriving DecidableEq, Repr, Inhabited

namespace Constants

/-- The declarations with `u`, in the place of another of its name. -/
def declare : List Uniform → Uniform → List Uniform
  | [], u => [u]
  | v :: rest, u => if v.name = u.name then u :: rest else v :: declare rest u

/-- The constants of a list of declarations. -/
def ofUniforms (uniforms : List Uniform) : Constants :=
  ⟨uniforms.foldl declare []⟩

/-- The type of the constant `name`. -/
def type? (c : Constants) (name : String) : Option UniformType :=
  (c.entries.find? (·.name == name)).map (·.type)

/-- Whether the constant `name` is declared. -/
def has (c : Constants) (name : String) : Bool :=
  (c.type? name).isSome

/-- The names, in order. -/
def names (c : Constants) : List String :=
  c.entries.map (·.name)

/-- Whether a value may be uploaded to the constant `name`. -/
def accepts (c : Constants) (name : String) (value : ConstantValue) : Bool :=
  c.type? name == some value.type

/-- Uploads a value to the constant `name` of a program.  A constant of another type refuses it,
and a name that is not declared is passed over. -/
def upload (c : Constants) (program : ProgramHandle) (name : String) (value : ConstantValue) :
    List Event :=
  match c.type? name with
  | none => []
  | some type =>
    if type = value.type then [.call (.setConstant program name value)]
    else
      let declared := Named.name type
      let offered := Named.name value.type
      [.note (.warn s!"Constant '{name}' declared as {declared}, refusing {offered} value")]

/-- Uploads several values in order. -/
def uploadAll (c : Constants) (program : ProgramHandle)
    (values : List (String × ConstantValue)) : List Event :=
  values.flatMap fun (name, value) => c.upload program name value

end Constants

end MaterialPipeline
