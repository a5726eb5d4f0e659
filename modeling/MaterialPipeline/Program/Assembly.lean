import MaterialPipeline.Feature.Registry

/-!
# Program — Assembly

The program of a feature set.  One traversal, `Registry.visits`, serves all three readings: the
registered types in pipeline order, and for each the stages of its entries.

* `Registry.measure` — the cost.
* `Registry.assemble` — the program: every vertex half first, then every pixel half.
* `Registry.bindings` — the textures.
-/

namespace MaterialPipeline.Registry

/-- The entries of `set` that have a generator, in pipeline order. -/
def visits (r : Registry) (set : FeatureSet) : List (Registration × Option Nat) :=
  r.entries.flatMap fun e => (set.stagesOf e.type.id).map (e, ·)

/-- What an entry of the type numbered `id` costs within `set`, if it has a generator. -/
def costOf (r : Registry) (set : FeatureSet) (id : FeatureId) (stage : Option Nat) : Option Cost :=
  (r.lookup id).map fun g => g.cost set stage

/-- The textures of an entry of the type numbered `id`; none without a generator. -/
def texturesOf (r : Registry) (id : FeatureId) (stage : Option Nat) :
    List (String × TextureSource) :=
  ((r.lookup id).map fun g => g.textures stage).getD []

/-- What `set` costs. -/
def measure (r : Registry) (set : FeatureSet) : Except Fault Cost :=
  (r.visits set).foldlM (fun total (e, stage) => total.add (e.generator.cost set stage)) .none

/-- The contributions of `set` to one half of its program. -/
def emissions (r : Registry) (format : VertexFormat) (set : FeatureSet) (half : ShaderStage) :
    List Emission :=
  (r.visits set).flatMap fun (e, stage) =>
    let scope : Scope := ⟨set, stage, format⟩
    match half with
    | .vertex => e.generator.vertex scope
    | .pixel => e.generator.pixel scope

/-- The contributions of `set`, taken in. -/
def draft (r : Registry) (format : VertexFormat) (set : FeatureSet) : Draft :=
  (Draft.empty.emitAll .vertex (r.emissions format set .vertex)).emitAll .pixel
    (r.emissions format set .pixel)

/-- The program of `set`. -/
def assemble (r : Registry) (format : VertexFormat) (label : String) (set : FeatureSet) :
    Program :=
  (r.draft format set).finish label set

/-- The textures that the program of `set` reads. -/
def bindings (r : Registry) (set : FeatureSet) : List Binding :=
  Binding.bindAll [] ((r.visits set).flatMap fun (e, stage) => e.generator.textures stage)

end MaterialPipeline.Registry
