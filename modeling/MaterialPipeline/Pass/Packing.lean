import MaterialPipeline.Material.Resolution
import MaterialPipeline.Pass
import MaterialPipeline.Program.Assembly

/-!
# Pass — Packing

Packs the layers of a material into passes, in order and as few as the budget allows.  A pass first
tries all layers that are left; while that is over the budget or does not compile, it tries half as
many, rounded up.  One layer that fails alone ends the packing.

* `halvings` — the numbers of layers that a pass tries.
* `Packer.attempt` — one try.
* `Packer.buildPass`, `Packer.buildPasses` — one pass; all of them.
-/

namespace MaterialPipeline

/-- `n`, then each time half as much, rounded up, down to one. -/
def halvings (n : Nat) : List Nat :=
  if n = 0 then [] else if n = 1 then [1] else n :: halvings (n - n / 2)
termination_by n

/-- What packing depends on besides the layers. -/
structure Packer where
  registry : Registry
  format : VertexFormat
  limits : Limits
  /-- The name that programs are labelled with. -/
  label : String
  inputs : StateInputs

/-- How one try ends. -/
inductive Attempt where
  | built (pass : Pass)
  /-- The try was the last one. -/
  | fatal (error : BuildError)
  /-- Fewer layers may do. -/
  | retry

namespace Packer

/-- How the textures of a binding are read, within a pass over `layers`. -/
def samplerOf (layers : List Layer) (b : Binding) : Sampler :=
  match b.source with
  | .map stage _ => ((layers.find? (·.stage == stage)).map (·.sampler)).getD .wrapLinear
  | .lightMap => .clampLinear

/-- How the pass numbered `index` combines with the passes before it. -/
def compositeOf (index : Nat) : Composite :=
  if index = 0 then .none else .lerpAlpha

/-- Creates one state object. -/
def createState (layer : StateLayer) : Action StateHandle := do
  Action.reportAll layer.resolveNotes
  Action.onDevice (·.createState layer.resolve)

/-- The pass around a program that did compile. -/
def finish (p : Packer) (handle : ProgramHandle) (program : Program) (features : FeatureSet)
    (layers : List Layer) (index : Nat) (cost : Cost) : Action Pass := do
  let bindings := p.registry.bindings features
  let samplers := bindings.map (samplerOf layers)
  let inputs := { p.inputs with passComposite := compositeOf index, samplers := samplers }
  let states ← Conditions.all.mapM fun c => createState (inputs.layered c)
  return {
    program := handle
    constants := .ofUniforms program.uniforms
    states := states
    stages := layers.map (·.stage)
    features := features
    bindings := bindings
    samplers := samplers
    cost := cost
    composite := compositeOf index }

/-- The note on a try that is over the budget. -/
def overflowNote (p : Packer) (first : Layer) (count index : Nat) (cost : Cost) : Note :=
  if count = 1 then
    .warn s!"'{p.label}' stage {first.stage} alone needs {cost.textures} texture slots and {cost.interpolators} interpolators (limits {p.limits.textureSlots} / {p.limits.interpolators})"
  else
    .debug s!"'{p.label}' pass {index}: {count} layers need {cost.textures} texture slots and {cost.interpolators} interpolators, retrying with fewer"

/-- The note on a try that did not compile. -/
def compileNote (p : Packer) (first : Layer) (count index : Nat) (error : DeviceError) : Note :=
  if count = 1 then
    .warn s!"'{p.label}' stage {first.stage} failed to compile: {error.message}"
  else
    .debug s!"'{p.label}' pass {index}: compile failed with {count} layers ({error.message}), retrying with fewer"

/-- Tries one pass over all of `layers`, of which `first` is the first. -/
def attempt (p : Packer) (first : Layer) (layers : List Layer) (index : Nat) : Action Attempt := do
  let count := layers.length
  let set := FeatureSet.mergeAll (layers.map (·.features))
  if set.isEmpty then
    return .fatal (.emptyFeatures first.stage)
  let cost ← p.registry.measure set
  if cost.fits p.limits then
    let program := p.registry.assemble p.format s!"{p.label}:{index}" set
    match ← Action.onDevice (·.createProgram program) with
    | .ok handle => return .built (← p.finish handle program set layers index cost)
    | .error error =>
      Action.report (p.compileNote first count index error)
      return if count = 1 then .fatal (.compile first.stage error) else .retry
  else
    Action.report (p.overflowNote first count index cost)
    return if count = 1 then .fatal (.overflow first.stage cost.textures cost.interpolators)
      else .retry

/-- Tries the first `count` of `layers` for each `count` in turn. -/
def tryCounts (p : Packer) (first : Layer) (layers : List Layer) (index : Nat) :
    List Nat → Action (Except BuildError (Pass × Nat))
  | [] => return .error .noLayers
  | count :: rest => do
    match ← p.attempt first (layers.take count) index with
    | .built pass => return .ok (pass, count)
    | .fatal error => return .error error
    | .retry => p.tryCounts first layers index rest

/-- Builds the pass numbered `index` from the first layers, and says how many it took. -/
def buildPass (p : Packer) (layers : List Layer) (index : Nat) :
    Action (Except BuildError (Pass × Nat)) :=
  match layers with
  | [] => return .error .noLayers
  | first :: _ => p.tryCounts first layers index (halvings layers.length)

/-- Builds the passes of the layers that are left.  If one fails, the passes built before it are
destroyed. -/
def packFrom (p : Packer) (built : List Pass) :
    List Layer → Action (Except BuildError (List Pass))
  | [] => return .ok built
  | first :: rest => do
    match ← p.buildPass (first :: rest) built.length with
    | .ok (pass, count) => p.packFrom (built ++ [pass]) (rest.drop (count - 1))
    | .error error =>
      Action.perform (built.flatMap Pass.destruction)
      return .error error
termination_by layers => layers.length
decreasing_by simp only [List.length_drop, List.length_cons]; omega

/-- Builds the passes of all layers. -/
def buildPasses (p : Packer) (layers : List Layer) : Action (Except BuildError (List Pass)) :=
  if layers.isEmpty then return .error .noLayers else p.packFrom [] layers

end Packer

end MaterialPipeline
