import MaterialPipeline.Proofs.Material.Layers
import MaterialPipeline.Proofs.Program.Agreement

/-!
# Proofs — Material — Agreement

What the layers of a material are measured to cost is what their program uses, for any layers that
come one after another (`layers_agree`): each texture slot is a sampler of the program and a
binding, and each interpolator is a varying.
-/

namespace MaterialPipeline.Material

variable {m : Material} {config : Config} {format : VertexFormat} {variant : Option Variant}
  {layers block : List Layer}

/-- Some layers of a material are always measured without a fault. -/
theorem bounded_mergeAll (h : m.layers config format variant = .ok layers)
    (hblock : List.Sublist block layers) :
    (Registry.builtin.total (.mergeAll (block.map (·.features)))).Bounded := by
  have hsize := size_mergeAll_le h hblock
  exact Registry.bounded_of_size (placed_mergeAll h hblock.subset) (by omega)

/-- **Measurement agrees with the program.**  For layers of a material that come one after another,
as many texture slots are measured as the program has samplers and as there are bindings, which have
the same names and slots; and as many interpolators as the program declares varyings. -/
theorem layers_agree (label : String) (h : m.layers config format variant = .ok layers)
    (hblock : block <:+: layers) :
    let set := FeatureSet.mergeAll (block.map (·.features))
    let program := Registry.builtin.assemble format label set
    let bindings := Registry.builtin.bindings set
    ∃ cost, Registry.builtin.measure set = .ok cost ∧
      cost.textures = program.samplers.length ∧ cost.textures = bindings.length ∧
      cost.interpolators = program.interpolators ∧
      program.interpolators = (Registry.builtin.draft format set).varyings.length ∧
      program.samplers.map (fun s => (s.name, s.slot)) =
        bindings.map (fun b => (b.name, b.slot)) := by
  intro set program bindings
  have hset : set.Placed := placed_mergeAll h hblock.subset
  have hslots := Registry.slots_eq format label hset
  have htextures := Registry.textures_eq hset
  have hlength : program.samplers.length = bindings.length := by
    have := congrArg List.length hslots
    rwa [Draft.slots, Binding.slots, List.length_map, List.length_map] at this
  exact ⟨_, Registry.measure_of_bounded (bounded_mergeAll h hblock.sublist),
    htextures.trans hlength.symm, htextures, Registry.interpolators_eq format label hset, rfl,
    hslots⟩

/-- A stage with a diffuse map and a normal map, on vertices with tangents. -/
theorem layers_agree_of_two_maps :
    let rough : Stage := { diffuseMap := some "a.png", normalMap := some "b.png" }
    let m : Material := { name := "rock", stages := [rough, .diffuse "c.png"] }
    ∃ layers, m.layers {} .positionNormalTangentUv none = .ok layers ∧ layers <:+: layers ∧
      let set := FeatureSet.mergeAll (layers.map (·.features))
      let program := Registry.builtin.assemble .positionNormalTangentUv "rock:0" set
      let bindings := Registry.builtin.bindings set
      ∃ cost, Registry.builtin.measure set = .ok cost ∧
        cost.textures = program.samplers.length ∧ cost.textures = bindings.length ∧
        cost.interpolators = program.interpolators ∧
        program.interpolators =
          (Registry.builtin.draft .positionNormalTangentUv set).varyings.length ∧
        program.samplers.map (fun s => (s.name, s.slot)) =
          bindings.map (fun b => (b.name, b.slot)) := by
  intro rough m
  have h : ∃ layers, m.layers {} .positionNormalTangentUv none = .ok layers := ⟨_, rfl⟩
  obtain ⟨layers, h⟩ := h
  exact ⟨layers, h, List.infix_rfl, layers_agree "rock:0" h List.infix_rfl⟩

end MaterialPipeline.Material
