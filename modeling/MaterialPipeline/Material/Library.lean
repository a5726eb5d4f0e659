import MaterialPipeline.Material.Instance
import MaterialPipeline.Storage.SlotSet

/-!
# Material — Library

Every material instance in use, behind generational handles, and the material that stands in for
those that cannot be drawn.

* `Library.create`, `Library.destroy` — what is in use.
* `Library.renderable` — what a reference is drawn with: its own form, the stand-in, or nothing.
* `Library.setConfig`, `Library.flush`, `Library.deviceLost` — everything is built anew on next use.
-/

namespace MaterialPipeline

/-- A reference to an instance, or to one of its hooks. -/
structure MaterialRef where
  id : Slot
  hook : Option Variant
  deriving DecidableEq, Repr, Inhabited

namespace MaterialRef

/-- The text of a reference in descriptions. -/
def describe (r : MaterialRef) : String :=
  let hook := (r.hook.map fun v => "Some(" ++ Named.name v ++ ")").getD "None"
  s!"MatRef \x7b id: MatInstanceId({r.id.describe}), hook: {hook} \x7d"

end MaterialRef

/-- Every instance in use. -/
structure Library where
  context : BuildContext
  instances : SlotSet Instance := .empty
  /-- The form of the stand-in. -/
  warning : Form

/-- Where a form is kept. -/
inductive FormPlace where
  /-- The form that a reference names. -/
  | own (r : MaterialRef)
  /-- The stand-in. -/
  | warning
  deriving DecidableEq, Repr, Inhabited

namespace Library

/-- A library without instances; the stand-in is built at once. -/
def new (registry : Registry) (config : Config) : Action Library := do
  let context : BuildContext := ⟨registry, config⟩
  let form : Form := { material := .warning, format := .positionNormalUv }
  let (result, form) ← form.build context
  if let .error error := result then
    Action.report (.error
      s!"Warning material could not be built, invalid materials will not render: {error.message}")
  return { context := context, warning := form }

/-! ### Instances -/

/-- Takes a material into use. -/
def create (l : Library) (m : Material) (format : VertexFormat) : Action (Slot × Library) := do
  let fresh ← (Instance.new m format).attachHooks l.context.config
  let (id, instances) := l.instances.push fresh
  return (id, { l with instances := instances })

/-- The instance behind a handle. -/
def instance? (l : Library) (id : Slot) : Except Fault (Option Instance) :=
  l.instances.find id

/-- Puts an instance in the place of the one behind a handle. -/
def setInstance (l : Library) (id : Slot) (i : Instance) : Except Fault Library :=
  return { l with instances := ← l.instances.modify id fun _ => i }

/-- Takes a material out of use. -/
def destroy (l : Library) (id : Slot) : Action (Except MaterialError Unit × Library) := do
  let (removed, instances) ← l.instances.remove id
  match removed with
  | some i =>
    Action.perform i.destruction
    return (.ok (), { l with instances := instances })
  | none => return (.error .unknownInstance, l)

/-- Hangs a hook on an instance. -/
def addHook (l : Library) (id : Slot) (v : Variant) :
    Action (Except MaterialError Unit × Library) := do
  match ← l.instance? id with
  | some i =>
    let (result, i) ← i.addHook v
    return (result, ← l.setInstance id i)
  | none => return (.error .unknownInstance, l)

/-- Builds the hooks of an instance in order, until one fails. -/
def buildHooks (context : BuildContext) (i : Instance) :
    List Variant → Action (Except MaterialError Unit × Instance)
  | [] => return (.ok (), i)
  | v :: rest => do
    match i.hooks.get v with
    | none => buildHooks context i rest
    | some j =>
      let (result, f) ← j.form.build context
      let i := i.setForm (some v) f
      match result with
      | .ok () => buildHooks context i rest
      | .error error => return (.error error, i)

/-- Builds an instance and its hooks now. -/
def build (l : Library) (id : Slot) : Action (Except MaterialError Unit × Library) := do
  match ← l.instance? id with
  | none => return (.error .unknownInstance, l)
  | some i =>
    let (result, form) ← i.form.build l.context
    let i := i.setForm none form
    match result with
    | .error error => return (.error error, ← l.setInstance id i)
    | .ok () =>
      let (result, i) ← buildHooks l.context i i.hooks.variants
      return (result, ← l.setInstance id i)

/-- The summary of an instance. -/
def flags (l : Library) (id : Slot) : Except Fault MaterialFlags :=
  return ((← l.instance? id).map (·.flags)).getD { invalid := true }

/-! ### Forms -/

/-- The form that a reference names. -/
def form? (l : Library) (r : MaterialRef) : Except Fault (Option Form) :=
  return (← l.instance? r.id).bind (·.formOf r.hook)

/-- Puts a form in its place. -/
def setForm (l : Library) (place : FormPlace) (f : Form) : Except Fault Library :=
  match place with
  | .warning => return { l with warning := f }
  | .own r => do
    match ← l.instance? r.id with
    | some i => l.setInstance r.id (i.setForm r.hook f)
    | none => return l

/-- The instance or the hook that a reference names. -/
def resolve? (l : Library) (r : MaterialRef) : Except Fault (Option Instance) :=
  return (← l.instance? r.id).bind (·.resolve r.hook)

/-- Puts an instance in the place of what a reference names. -/
def replace (l : Library) (r : MaterialRef) (i : Instance) : Except Fault Library := do
  match ← l.instance? r.id with
  | some owner => l.setInstance r.id (owner.replace r.hook i)
  | none => return l

/-- Builds the form that a reference names anew, if there is one. -/
def buildForm (l : Library) (r : MaterialRef) :
    Action (Option (Except MaterialError Unit) × Library) := do
  match ← l.form? r with
  | none => return (none, l)
  | some f =>
    let (result, f) ← f.build l.context
    return (some result, ← l.setForm (.own r) f)

/-- Builds the form that a reference names on first use; says whether it can be drawn, if there is
one. -/
def ensureBuilt (l : Library) (r : MaterialRef) : Action (Option Bool × Library) := do
  match ← l.form? r with
  | none => return (none, l)
  | some f =>
    let (ready, f) ← f.ensureBuilt l.context
    return (some ready, ← l.setForm (.own r) f)

/-- What a reference is drawn with, built if need be: its own form, or else the stand-in.  Nothing
if the handle is stale, the hook does not exist, or the stand-in fails too. -/
def renderable (l : Library) (r : MaterialRef) : Action (Option (FormPlace × Form) × Library) := do
  match ← l.form? r with
  | none => return (none, l)
  | some f =>
    let (ready, f) ← f.ensureBuilt l.context
    let l ← l.setForm (.own r) f
    if ready then return (some (.own r, f), l)
    else
      let (ready, warning) ← l.warning.ensureBuilt l.context
      let l := { l with warning := warning }
      return (if ready then some (.warning, warning) else none, l)

/-! ### All instances -/

/-- Runs `f` on each live cell, in order. -/
def mapCells (f : Instance → Action Instance) :
    List (Cell Instance) → Action (List (Cell Instance))
  | [] => return []
  | cell :: rest => do
    let value ← match cell.value with
      | some i => some <$> f i
      | none => pure none
    return { cell with value := value } :: (← mapCells f rest)

/-- Runs `f` on each instance, in order of position. -/
def mapInstances (l : Library) (f : Instance → Action Instance) : Action Library := do
  let cells ← mapCells f l.instances.cells.toList
  return { l with instances := { l.instances with cells := cells.toArray } }

/-- Forgets everything built. -/
def reset (l : Library) : Action Library := do
  let l ← l.mapInstances Instance.reset
  return { l with warning := ← l.warning.reset }

/-- Whether the form of the instance was built, or failed. -/
def wasUsed (i : Instance) : Bool :=
  i.isBuilt || !i.isValid

/-- Forgets everything built, and reports how much that was. -/
def flush (l : Library) : Action Library := do
  let used := (l.instances.entries.filter (wasUsed ·.2)).length
  let l ← l.reset
  Action.report (.info s!"Flushed {used} of {l.instances.size} material instances")
  return l

/-- Puts another configuration in force: hooks follow it, and everything is built anew. -/
def setConfig (l : Library) (config : Config) : Action Library := do
  if l.context.config = config then return l
  else
    let l := { l with context := { l.context with config := config } }
    let l ← l.mapInstances (Instance.attachHooks config)
    l.flush

/-- Forgets everything built, as the device is gone. -/
def deviceLost (l : Library) : Action Library := do
  Action.report (.info s!"Device lost, tearing down {l.instances.size} material instances")
  l.reset

/-- The text of a library in descriptions. -/
def describe (l : Library) : String :=
  s!"MaterialManager \x7b config: {l.context.config.describe}, instances: {l.instances.size}, .. \x7d"

end Library

end MaterialPipeline
