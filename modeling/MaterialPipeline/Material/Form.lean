import MaterialPipeline.Material.Built

/-!
# Material — Form

A material bound to a vertex format, for colour or for a variant, together with what is built of it.
Building waits until the first use, and a failure is remembered until the form is reset.

* `Form.build`, `Form.ensureBuilt`, `Form.reset` — from nothing to built or failed, and back.
* `Form.setupPass` — one step through the passes; the textures of a pass are unbound by the step
  after it.
-/

namespace MaterialPipeline

/-- A material bound to a vertex format. -/
structure Form where
  material : Material
  format : VertexFormat
  /-- The purpose, if it is not colour. -/
  variant : Option Variant := none
  /-- Whether the form hangs on another one. -/
  isHook : Bool := false
  built : Option BuiltMaterial := none
  /-- Why the last build failed. -/
  error : Option MaterialError := none
  /-- The pass that is set up. -/
  current : Option Nat := none

namespace Form

/-- Whether the form is built. -/
def isBuilt (f : Form) : Bool :=
  f.built.isSome

/-- Whether no failure is remembered. -/
def isValid (f : Form) : Bool :=
  f.error.isNone

/-- The number of passes built. -/
def passCount (f : Form) : Nat :=
  (f.built.map (·.passes.length)).getD 0

/-! ### Building -/

/-- Destroys what is built. -/
def destruction (f : Form) : List Event :=
  (f.built.map (·.destruction)).getD []

/-- Forgets what is built, and any failure. -/
def reset (f : Form) : Action Form := do
  Action.perform f.destruction
  return { f with built := none, error := none, current := none }

/-- Builds the form anew. -/
def build (f : Form) (context : BuildContext) : Action (Except MaterialError Unit × Form) := do
  Action.perform f.destruction
  let f := { f with built := none, current := none }
  match ← BuiltMaterial.build context f.material f.format f.variant with
  | .ok built => return (.ok (), { f with built := some built, error := none })
  | .error error =>
    Action.report
      (.error s!"Material '{f.material.name}' failed to initialize: {error.message}")
    return (.error error, { f with error := some error })

/-- Builds the form on first use; says whether it can be drawn. -/
def ensureBuilt (f : Form) (context : BuildContext) : Action (Bool × Form) := do
  if f.isBuilt then return (true, f)
  else if !f.isValid then return (false, f)
  else
    let (result, f) ← f.build context
    return (result.isOk, f)

/-! ### Drawing -/

/-- Unbinds the textures of the pass that is set up. -/
def leavePass (f : Form) : List Event :=
  match f.built, f.current with
  | some built, some n => built.onPass n BuiltMaterial.cleanup
  | _, _ => []

/-- The pass after the one that is set up. -/
def nextPass (f : Form) : Nat :=
  match f.current with
  | some n => n + 1
  | none => 0

/-- Sets the next pass up; says whether there was one. -/
def setupPass (f : Form) (limits : Limits) (scene : Scene) (draw : DrawContext) :
    Bool × List Event × Form :=
  match f.built with
  | none => (false, [], { f with current := none })
  | some built =>
    match built.passes[f.nextPass]? with
    | some p =>
      (true, f.leavePass ++ built.setup limits scene draw p, { f with current := some f.nextPass })
    | none => (false, f.leavePass, { f with current := none })

/-- What `g` makes of the pass that is set up. -/
def onCurrent (f : Form) (g : BuiltMaterial → Pass → List Event) : List Event :=
  match f.built, f.current with
  | some built, some n => built.onPass n (g built)
  | _, _ => []

/-- Binds buffers, if the form is built. -/
def setBuffers (f : Form) (vertices : BufferHandle) (indices : Option BufferHandle) : List Event :=
  if f.isBuilt then BuiltMaterial.setBuffers vertices indices else []

end Form

end MaterialPipeline
