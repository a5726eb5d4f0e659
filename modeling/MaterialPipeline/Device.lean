import MaterialPipeline.Device.Call
import MaterialPipeline.Device.Error
import MaterialPipeline.State.Block

/-!
# Device

A graphics device as a value: what it can do, what it refuses, what was created on it, and the
trace of every call.

* `Device.issue` — a call without result.
* `Device.createProgram`, `Device.loadTexture`, `Device.createTarget` — calls that may be refused;
  a refused call is in the trace too.
* `Device.createState`, `Device.createBuffer` — calls that always succeed.
-/

namespace MaterialPipeline

/-- A graphics device. -/
structure Device where
  limits : Limits := {}
  /-- The programs that do not compile. -/
  rejects : Program → Bool := fun _ => false
  /-- What the compiler answers for a program that does not compile. -/
  programError : Program → DeviceError := fun p =>
    .programRejected p.label "mock compile failure"
  /-- The texture paths that lead nowhere. -/
  missing : List String := []
  /-- What is answered for a path that leads nowhere. -/
  textureError : String → DeviceError := .textureNotFound
  /-- Whether all offscreen targets are refused. -/
  refusesTargets : Bool := false
  /-- The offscreen targets that are refused, if not all are. -/
  refuses : Target → Bool := fun _ => false
  /-- What is answered for a target that is refused. -/
  targetError : Target → DeviceError := fun t =>
    .targetRefused s!"mock refused target '{t.label}'"
  /-- Whether the device is gone, and refuses everything that may be refused. -/
  lost : Bool := false
  /-- Every program created, while it is not destroyed. -/
  programs : Array (Option Program) := #[]
  /-- Every state object created. -/
  states : Array StateBlock := #[]
  /-- The path of every texture loaded. -/
  textures : Array String := #[]
  /-- The number of buffers created. -/
  buffers : Nat := 0
  /-- Every offscreen target created. -/
  targets : Array Target := #[]
  /-- The targets drawn into, innermost first. -/
  targetStack : List TargetHandle := []
  /-- The trace of calls. -/
  calls : Array Call := #[]
  deriving Inhabited

namespace Device

/-- The device with one more call in its trace. -/
def record (d : Device) (c : Call) : Device :=
  { d with calls := d.calls.push c }

/-- Carries out a call without result. -/
def issue (d : Device) (c : Call) : Device :=
  let d := d.record c
  match c with
  | .destroyProgram h => { d with programs := d.programs.setIfInBounds h.number none }
  | .pushTarget h => { d with targetStack := h :: d.targetStack }
  | .popTarget => { d with targetStack := d.targetStack.tail }
  | _ => d

/-! ### Creation -/

/-- Compiles a program. -/
def createProgram (d : Device) (p : Program) : Except DeviceError ProgramHandle × Device :=
  let d := d.record (.createProgram p.label p.features)
  if d.lost then (.error .lost, d)
  else if d.rejects p then (.error (d.programError p), d)
  else (.ok ⟨d.programs.size⟩, { d with programs := d.programs.push (some p) })

/-- Creates a state object. -/
def createState (d : Device) (s : StateBlock) : StateHandle × Device :=
  (⟨d.states.size⟩, { d.record (.createState ⟨d.states.size⟩) with states := d.states.push s })

/-- Loads a texture. -/
def loadTexture (d : Device) (path : String) : Except DeviceError TextureHandle × Device :=
  let d := d.record (.loadTexture path)
  if d.lost then (.error .lost, d)
  else if d.missing.contains path then (.error (d.textureError path), d)
  else (.ok ⟨d.textures.size⟩, { d with textures := d.textures.push path })

/-- Creates a buffer. -/
def createBuffer (d : Device) (label : String) (size : Nat) (kind : BufferKind) :
    BufferHandle × Device :=
  (⟨d.buffers⟩, { d.record (.createBuffer label size kind) with buffers := d.buffers + 1 })

/-- Creates an offscreen target. -/
def createTarget (d : Device) (t : Target) : Except DeviceError TargetHandle × Device :=
  let d := d.record (.createTarget t)
  if d.lost then (.error .lost, d)
  else if d.refusesTargets || d.refuses t then (.error (d.targetError t), d)
  else (.ok ⟨d.targets.size⟩, { d with targets := d.targets.push t })

/-! ### Looking -/

/-- The program behind a handle, while it is not destroyed. -/
def program? (d : Device) (h : ProgramHandle) : Option Program :=
  d.programs[h.number]?.join

/-- The number of programs not destroyed. -/
def livePrograms (d : Device) : Nat :=
  d.programs.countP Option.isSome

/-- The data behind a state object. -/
def state? (d : Device) (h : StateHandle) : Option StateBlock :=
  d.states[h.number]?

/-- The path that a texture was loaded from. -/
def texturePath? (d : Device) (h : TextureHandle) : Option String :=
  d.textures[h.number]?

/-- How many calls of the trace have the name `name`. -/
def countCalls (d : Device) (name : String) : Nat :=
  d.calls.countP (·.name == name)

/-- The numbers that a monitor of the device shows, by name. -/
def counters (d : Device) : List (String × Nat) :=
  [("shader_creates", d.countCalls "CreateShader"),
    ("shader_destroys", d.countCalls "DestroyShader"),
    ("state_block_creates", d.countCalls "CreateStateBlock"),
    ("texture_loads", d.countCalls "LoadTexture"), ("draws", d.countCalls "Draw"),
    ("target_pushes", d.countCalls "PushRenderTarget"),
    ("target_pops", d.countCalls "PopRenderTarget"),
    ("target_resolves", d.countCalls "ResolveRenderTarget"), ("clears", d.countCalls "Clear"),
    ("calls", d.calls.size), ("live_shaders", d.livePrograms),
    ("target_depth", d.targetStack.length)]

/-- The labels of every program given to the compiler, in order. -/
def compiledLabels (d : Device) : List String :=
  d.calls.toList.filterMap fun
    | .createProgram label _ => some label
    | _ => none

end Device

end MaterialPipeline
