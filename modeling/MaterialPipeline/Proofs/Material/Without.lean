import MaterialPipeline.Proofs.Material.Agreement
import MaterialPipeline.Proofs.Program.Without

/-!
# Proofs — Material — Without

What becomes of the layers of a material when some built-in types have no generator, against the
layers without the features of these types.

* `Registry.Lacks`: a cost lacks what entries without a generator would have paid for.
* `Draft.Computes`: the vertex half computes a varying.
* `layers_without`: what is declared is the same, but cost and program are the same exactly if what
  stays is closed.
-/

namespace MaterialPipeline

/-- Some entry of the set needs the varying. -/
def FeatureSet.Needs (set : FeatureSet) (v : Varying) : Prop :=
  ∃ id stage, set.hasAt id stage = true ∧ v ∈ Varying.neededBy id stage

/-- One cost lacks of another what the remaining entries need and those that go would pay for. -/
structure Registry.Lacks (set : FeatureSet) (gone : List FeatureId) (cost full : Cost) : Prop where
  varyings : ∃ unpaid : List Varying, unpaid.Nodup ∧
    (∀ v, v ∈ unpaid ↔ (set.without gone).Needs v ∧ Unpaid (Varying.payer set) gone v) ∧
    cost.interpolators + unpaid.length = full.interpolators
  textures : ∃ unpaid : List TextureSource, unpaid.Nodup ∧
    (∀ t, t ∈ unpaid ↔ (set.without gone).Reads t ∧ Unpaid (TextureSource.payer set) gone t) ∧
    cost.textures + unpaid.length = full.textures

/-- A line of the vertex half assigns the name. -/
def Draft.Computes (d : Draft) (name : String) : Prop :=
  ∃ text, name ++ " = " ++ text ∈ d.vertexLines

/-- Two programs that differ in the names of their features at most. -/
structure Program.Alike (a b : Program) : Prop where
  vertexSource : a.vertexSource = b.vertexSource
  pixelSource : a.pixelSource = b.pixelSource
  uniforms : a.uniforms = b.uniforms
  samplers : a.samplers = b.samplers
  interpolators : a.interpolators = b.interpolators

theorem Draft.alike_finish {d d' : Draft} {label : String} {features features' : FeatureSet}
    (h : d = d') : (d.finish label features).Alike (d'.finish label features') := by
  subst h
  exact ⟨rfl, rfl, rfl, rfl, rfl⟩

namespace Material

variable {m : Material} {config : Config} {format : VertexFormat} {variant : Option Variant}
  {layers block : List Layer}

/-- Some layers of a material are measured without a fault when some types have no generator. -/
theorem exists_cost_without (gone : List FeatureId)
    (h : m.layers config format variant = .ok layers) (hblock : block ⊆ layers) :
    let set := FeatureSet.mergeAll (block.map (·.features))
    (Registry.builtin.without gone).measure set =
        .ok ((Registry.builtin.without gone).total set) ∧
      Registry.builtin.measure (set.without gone) =
        .ok (Registry.builtin.total (set.without gone)) ∧
      Registry.Lacks set gone ((Registry.builtin.without gone).total set)
        (Registry.builtin.total (set.without gone)) := by
  intro set
  have hset : set.Placed := placed_mergeAll h hblock
  have hlacks : Registry.Lacks set gone ((Registry.builtin.without gone).total set)
      (Registry.builtin.total (set.without gone)) :=
    ⟨Registry.exists_unpaid_varyings hset gone, Registry.exists_unpaid_textures hset gone⟩
  -- What stays is part of all layers, whose cost is bounded.
  have hall := placed_mergeAll h (List.Subset.refl layers)
  have hle := Registry.total_mono (hset.without gone) hall fun id stage hat => by
    obtain ⟨a, ha, hat⟩ := FeatureSet.hasAt_mergeAll.mp (FeatureSet.hasAt_without.mp hat).1
    obtain ⟨l, hl, rfl⟩ := List.mem_map.mp ha
    exact FeatureSet.hasAt_mergeAll.mpr ⟨_, List.mem_map_of_mem (hblock hl), hat⟩
  have hbounded := bounded_mergeAll h (List.Sublist.refl layers)
  obtain ⟨varyings, -, -, hvaryings⟩ := hlacks.varyings
  obtain ⟨textures, -, -, htextures⟩ := hlacks.textures
  refine ⟨Registry.measure_of_bounded ⟨?_, ?_⟩, Registry.measure_of_bounded ⟨?_, ?_⟩, hlacks⟩
  · have := hle.1
    have := hbounded.1
    omega
  · have := hle.2
    have := hbounded.2
    omega
  · exact hle.1.trans_lt hbounded.1
  · exact hle.2.trans_lt hbounded.2

/-- **A type without a generator against a feature that is not there.**  For some layers of a
material, and types that have no generator, let the rest be the features of the other types.  The
textures, the constants, the samplers and the number of varyings are those of the rest.  The cost
lacks what the rest needs and a type without generator would have paid for; every varying that is
paid for is computed.  The cost and the program are those of the rest exactly if the rest is closed;
then the programs differ in the names of their features only, and every varying is computed. -/
theorem layers_without (label : String) (gone : List FeatureId)
    (h : m.layers config format variant = .ok layers) (hblock : block ⊆ layers) :
    let set := FeatureSet.mergeAll (block.map (·.features))
    let rest := set.without gone
    let reduced := Registry.builtin.without gone
    let program := reduced.assemble format label set
    let program' := Registry.builtin.assemble format label rest
    reduced.bindings set = Registry.builtin.bindings rest ∧
      program.samplers = program'.samplers ∧ program.uniforms = program'.uniforms ∧
      program.interpolators = program'.interpolators ∧
      (∃ cost full, reduced.measure set = .ok cost ∧ Registry.builtin.measure rest = .ok full ∧
        full.textures = (reduced.bindings set).length ∧
        full.interpolators = program.interpolators ∧ Registry.Lacks set gone cost full) ∧
      (∀ u ∈ (reduced.draft format set).varyings, ∃ v, rest.Needs v ∧ v.name = u.name ∧
        (Registry.Unpaid (Varying.payer set) gone v ∨
          (reduced.draft format set).Computes u.name)) ∧
      ((reduced.measure set = Registry.builtin.measure rest ∧
        reduced.draft format set = Registry.builtin.draft format rest) ↔ set.Closed gone) ∧
      (set.Closed gone → program.Alike program' ∧
        ∀ u ∈ (reduced.draft format set).varyings,
          (reduced.draft format set).Computes u.name) := by
  intro set rest reduced program program'
  have hset : set.Placed := placed_mergeAll h hblock
  have hrest : rest.Placed := hset.without gone
  obtain ⟨hcost, hfull, hlacks⟩ := exists_cost_without gone h hblock
  have hbindings : reduced.bindings set = Registry.builtin.bindings rest :=
    Registry.bindings_without
  have hinterpolators : program.interpolators = program'.interpolators :=
    Registry.interpolators_without format label hset
  have hcomputes : ∀ u ∈ (reduced.draft format set).varyings, ∃ v, rest.Needs v ∧
      v.name = u.name ∧ (Registry.Unpaid (Varying.payer set) gone v ∨
        (reduced.draft format set).Computes u.name) := by
    intro u hu
    have hname := List.mem_map_of_mem (f := Uniform.name) hu
    rw [Registry.map_name_varyings_draft, mem_keepNames,
      Registry.mem_varyingNames_without format hset,
      Registry.mem_varyingNames_builtin format hrest] at hname
    obtain ⟨v, ⟨id, stage, hat, hv⟩, e⟩ := hname.resolve_left List.not_mem_nil
    refine ⟨v, ⟨id, stage, hat, hv⟩, e, ?_⟩
    rw [← e]
    exact Decidable.or_iff_not_imp_left.mpr fun hpaid =>
      Registry.assigned_without format hset hat hv hpaid
  have hiff : (reduced.measure set = Registry.builtin.measure rest ∧
      reduced.draft format set = Registry.builtin.draft format rest) ↔ set.Closed gone := by
    rw [hcost, hfull, Except.ok.injEq, Registry.total_without_iff hset]
    exact ⟨fun ⟨hprovides, hdraft⟩ =>
        (Registry.draft_without_iff format hprovides hset).mp hdraft,
      fun hclosed => ⟨hclosed.provides, Registry.draft_without format hclosed hset⟩⟩
  refine ⟨hbindings, Registry.samplers_without format label hset,
    Registry.uniforms_without format label, hinterpolators,
    ⟨_, _, hcost, hfull, ?_, ?_, hlacks⟩, hcomputes, hiff, fun hclosed => ⟨?_, fun u hu => ?_⟩⟩
  · rw [hbindings]
    exact Registry.textures_eq hrest
  · rw [hinterpolators]
    exact Registry.interpolators_eq format label hrest
  · have hdraft := (hiff.mpr hclosed).2
    exact Draft.alike_finish hdraft
  · obtain ⟨v, hneeds, -, hunpaid | hcomputed⟩ := hcomputes u hu
    · exact absurd hunpaid (Registry.provides_iff.mp hclosed.provides v hneeds)
    · exact hcomputed

/-- Without the generator of diffuse maps, nobody computes the coordinate of a detail map. -/
theorem layers_without_of_detail :
    let painted : Stage :=
      { diffuseMap := some "a.png", detailMap := some "b.png", emissive := true }
    let m : Material := { name := "rock", stages := [painted] }
    let gone := [FeatureType.diffuseMap.id]
    ∃ layers, m.layers {} .positionNormalUv none = .ok layers ∧ layers ⊆ layers ∧
      let set := FeatureSet.mergeAll (layers.map (·.features))
      let rest := set.without gone
      let reduced := Registry.builtin.without gone
      let program := reduced.assemble .positionNormalUv "rock:0" set
      let program' := Registry.builtin.assemble .positionNormalUv "rock:0" rest
      reduced.measure set = .ok ⟨1, 0⟩ ∧ Registry.builtin.measure rest = .ok ⟨1, 1⟩ ∧
        (reduced.bindings set = Registry.builtin.bindings rest ∧
          program.samplers = program'.samplers ∧ program.uniforms = program'.uniforms ∧
          program.interpolators = program'.interpolators) ∧
        ¬ set.Closed gone := by
  intro painted m gone
  have h : ∃ layers, m.layers {} .positionNormalUv none = .ok layers ∧
      (Registry.builtin.without gone).measure (FeatureSet.mergeAll (layers.map (·.features))) =
        .ok ⟨1, 0⟩ ∧
      Registry.builtin.measure ((FeatureSet.mergeAll (layers.map (·.features))).without gone) =
        .ok ⟨1, 1⟩ :=
    ⟨_, rfl, by decide +kernel, by decide +kernel⟩
  obtain ⟨layers, h, hcost, hfull⟩ := h
  obtain ⟨hbindings, hsamplers, huniforms, hinterpolators, -, -, hiff, -⟩ :=
    layers_without "rock:0" gone h (List.Subset.refl layers)
  refine ⟨layers, h, List.Subset.refl layers, hcost, hfull,
    ⟨hbindings, hsamplers, huniforms, hinterpolators⟩, fun hclosed => ?_⟩
  have hsame := (hiff.mpr hclosed).1
  rw [hcost, hfull] at hsame
  exact absurd hsame (by decide)

end Material

end MaterialPipeline
