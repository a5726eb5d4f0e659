import MaterialPipeline.Proofs.Feature.Table
import MaterialPipeline.Proofs.Program.Visits

/-!
# Proofs — Program — Order

Measuring, assembling and binding go through the entries of a set in the order of the set.  The
traversal goes through the registered types, and through the stages of each; if the set has the
types of the registry (`Registry.Agrees`), this is the order that the set has by itself.

* `Registry.map_visited`: the visits are the registered entries of the set.
* `Registry.visits_table`: they are the same where the orders are only found on the way.
* `Registry.follows_registered`: measuring, both halves of assembling, and binding by the order of
the set.
-/

namespace MaterialPipeline.Registry

variable {r : Registry} {set : FeatureSet} {e : Registration}

/-- An entry of the set has the type that the registry has for its number, if it has one. -/
def Agrees (r : Registry) (set : FeatureSet) : Prop :=
  ∀ f ∈ set.entries, ∀ e ∈ r.entries, e.type.id = f.type.id → e.type = f.type

/-- The entries of the set that have a generator, in the order of the set. -/
def registered (r : Registry) (set : FeatureSet) : List Feature :=
  set.entries.filter fun f => r.contains f.type.id

/-- The feature that is visited. -/
def visited (v : Registration × Option Nat) : Feature :=
  ⟨v.1.type, v.2⟩

/-- What a feature contributes to one half of the program of `set`; nothing without a generator. -/
def emissionsOf (r : Registry) (format : VertexFormat) (set : FeatureSet) (half : ShaderStage)
    (f : Feature) : List Emission :=
  ((r.lookup f.type.id).map fun g =>
    match half with
    | .vertex => g.vertex ⟨set, f.stage, format⟩
    | .pixel => g.pixel ⟨set, f.stage, format⟩).getD []

/-- The visits of one registration are the entries of its number. -/
theorem map_stagesOf (h : r.Agrees set) (he : e ∈ r.entries) :
    (set.stagesOf e.type.id).map (fun stage => visited (e, stage)) =
      set.entries.filter (·.type.id == e.type.id) := by
  rw [FeatureSet.stagesOf, List.map_map]
  refine (List.map_congr_left fun f hf => ?_).trans (List.map_id _)
  obtain ⟨hf, hid⟩ := List.mem_filter.mp hf
  change Feature.mk e.type f.stage = f
  rw [h f hf e he (beq_iff_eq.mp hid).symm]

/-- **The traversal follows the set.**  What is visited is the entries of the set that have a
generator, in the order of the set. -/
theorem map_visited (h : r.Agrees set) : (r.visits set).map visited = r.registered set := by
  have hvisits : (r.visits set).map visited =
      r.entries.flatMap fun e => set.entries.filter (·.type.id == e.type.id) := by
    rw [visits, List.map_flatMap]
    refine List.flatMap_congr fun e he => ?_
    rw [List.map_map]
    exact map_stagesOf h he
  have hascending : Ascending Feature.key
      (r.entries.flatMap fun e => set.entries.filter (·.type.id == e.type.id)) := by
    -- Entries of one number stand as in the set, and those of two as in the registry.
    refine List.pairwise_flatMap.mpr ⟨fun e _ => set.ascending.filter _, ?_⟩
    refine r.ascending.imp_of_mem fun {e e'} he he' hlt f hf f' hf' => ?_
    obtain ⟨hf, hid⟩ := List.mem_filter.mp hf
    obtain ⟨hf', hid'⟩ := List.mem_filter.mp hf'
    have htype := h f hf e he (beq_iff_eq.mp hid).symm
    have htype' := h f' hf' e' he' (beq_iff_eq.mp hid').symm
    exact Feature.key_lt_iff_type.mpr (.inl (htype ▸ htype' ▸ hlt))
  rw [hvisits]
  refine hascending.eq_of_mem_iff (set.ascending.filter _) fun f => ?_
  simp only [registered, List.mem_flatMap, List.mem_filter, contains_iff, beq_iff_eq]
  constructor
  · rintro ⟨e, he, hf, hid⟩
    exact ⟨hf, e, he, hid.symm⟩
  · rintro ⟨hf, e, he, hid⟩
    exact ⟨e, he, hf, hid.symm⟩

/-- What is asked of a visit is asked of the generator that the number of the feature has. -/
theorem map_lookup_visited {β : Type} (F : Generator → β) {v : Registration × Option Nat}
    (hv : v ∈ r.visits set) : (r.lookup (visited v).type.id).map F = some (F v.1.generator) := by
  have hfind : r.find? (visited v).type.id = some v.1 := find?_of_mem (mem_visits.mp hv).1
  rw [lookup, hfind, Option.map_some, Option.map_some]

theorem costs_eq (h : r.Agrees set) :
    r.costs set = (r.registered set).filterMap fun f => r.costOf set f.type.id f.stage := by
  rw [costs, ← map_visited h, List.filterMap_map, ← List.filterMap_eq_map]
  refine (List.filterMap_congr fun v hv => ?_).symm
  exact map_lookup_visited (·.cost set v.2) hv

theorem measure_of_agrees (h : r.Agrees set) : r.measure set =
    ((r.registered set).filterMap fun f => r.costOf set f.type.id f.stage).foldlM Cost.add
      .none := by
  rw [← costs_eq h, costs, List.foldlM_map, measure]

theorem emissions_of_agrees (h : r.Agrees set) (format : VertexFormat) (half : ShaderStage) :
    r.emissions format set half =
      (r.registered set).flatMap (r.emissionsOf format set half) := by
  rw [emissions, ← map_visited h, List.flatMap_map]
  refine List.flatMap_congr fun v hv => ?_
  rw [emissionsOf, map_lookup_visited _ hv]
  rfl

theorem bindings_of_agrees (h : r.Agrees set) : r.bindings set =
    Binding.bindAll [] ((r.registered set).flatMap fun f => r.texturesOf f.type.id f.stage) := by
  rw [bindings, ← map_visited h, List.flatMap_map]
  refine congrArg _ (List.flatMap_congr fun v hv => ?_)
  exact (congrArg (·.getD []) (map_lookup_visited (·.textures v.2) hv)).symm

/-- The nested traversal that finds its orders on the way visits the same, and the set that it
looks at has the registered entries in the same order. -/
theorem visits_table {table : RegistryTable} {s : LazyFeatureSet} (htable : table.Holds r)
    (hs : s.Holds set) :
    (table.visit.1.flatMap fun e => (s.stagesOf e.type.id).1.map (e, ·)) = r.visits set ∧
      (s.read.1.filter fun f => table.contains f.type.id) = r.registered set := by
  simp only [htable.visit_fst, htable.contains, hs.stagesOf_fst, hs.read_fst]
  exact ⟨rfl, rfl⟩

/-- What is made of a set goes through some features, in the order of the list. -/
structure Follows (r : Registry) (set : FeatureSet) (l : List Feature) : Prop where
  visits : (r.visits set).map visited = l
  measure : r.measure set =
    (l.filterMap fun f => r.costOf set f.type.id f.stage).foldlM Cost.add .none
  /-- The vertex halves of all features come first, and then their pixel halves. -/
  assemble : ∀ format label, r.assemble format label set =
    ((Draft.empty.emitAll .vertex (l.flatMap (r.emissionsOf format set .vertex))).emitAll .pixel
      (l.flatMap (r.emissionsOf format set .pixel))).finish label set
  bindings : r.bindings set =
    Binding.bindAll [] (l.flatMap fun f => r.texturesOf f.type.id f.stage)
  /-- Nothing is visited twice. -/
  nodup : l.Nodup
  /-- The same is visited where the orders of the registry and of the set are found on the way. -/
  table : ∀ {table : RegistryTable} {s : LazyFeatureSet}, table.Holds r → s.Holds set →
    (table.visit.1.flatMap fun e => (s.stagesOf e.type.id).1.map fun stage => visited (e, stage)) =
      l ∧ (s.read.1.filter fun f => table.contains f.type.id) = l

/-- **All traversals follow the set.**  If the entries of a set have the types that the registry has
for their numbers, then measuring, both halves of assembling, and binding go through the entries
that have a generator, in the order of the set.  The program lists the names of all entries in that
order too, and those with a generator as they are emitted. -/
theorem follows_registered (h : r.Agrees set) :
    let registered := set.entries.filter fun f => r.contains f.type.id
    r.Follows set registered ∧
      (∀ format label, (r.assemble format label set).features = set.entries.map (·.name)) ∧
      registered.map (·.name) = (r.visits set).map fun v => (visited v).name := by
  intro registered
  have hvisits : (r.visits set).map visited = registered := map_visited h
  have hnames : registered.map (·.name) = (r.visits set).map fun v => (visited v).name := by
    rw [← hvisits, List.map_map]
    rfl
  refine ⟨?_, fun format label => rfl, hnames⟩
  constructor
  case visits => exact hvisits
  case measure => exact measure_of_agrees h
  case assemble =>
    intro format label
    rw [assemble, draft, emissions_of_agrees h, emissions_of_agrees h]
    rfl
  case bindings => exact bindings_of_agrees h
  case nodup => exact set.nodup_entries.filter _
  case table =>
    intro table s htable hs
    obtain ⟨hnested, hseen⟩ := visits_table htable hs
    refine ⟨?_, hseen⟩
    rw [← hvisits, ← hnested, List.map_flatMap]
    simp only [List.map_map]
    rfl

/-- Maps of two stages, and between them a feature of a type that has no generator. -/
theorem follows_registered_of_maps :
    let custom : FeatureType := ⟨70, "custom", .texture, FeatureType.diffuseMap.order, true⟩
    let features : List Feature :=
      [⟨.normalMap, some 1⟩, ⟨custom, some 0⟩, ⟨.normalMap, some 0⟩, ⟨.diffuseMap, some 0⟩]
    let set := FeatureSet.ofList features
    let table := RegistryTable.ofList builtin.entries
    let found : List Feature :=
      [⟨.diffuseMap, some 0⟩, ⟨.normalMap, some 0⟩, ⟨.normalMap, some 1⟩]
    builtin.Agrees set ∧ set.entries.map (·.type.id) = [3, 70, 7, 7] ∧
      (builtin.visits set).map visited = found ∧
      (table.visit.1.flatMap fun e =>
        (LazyFeatureSet.stagesOf { features } e.type.id).1.map fun stage => visited (e, stage)) =
          found := by
  intro custom features set table found
  have hagrees : builtin.Agrees set := by
    unfold Agrees
    decide +kernel
  have htable : table.Holds builtin := RegistryStep.holds_ofList builtin
  have hperm : features.Perm set.entries := by decide +kernel
  have hset : LazyFeatureSet.Holds { features } set :=
    ⟨fun _ => hperm.mem_iff, by decide +kernel, fun _ h => nomatch h⟩
  obtain ⟨hfollows, -⟩ := follows_registered hagrees
  have hfound : (set.entries.filter fun f => builtin.contains f.type.id) = found := by
    decide +kernel
  exact ⟨hagrees, by decide +kernel, hfollows.visits.trans hfound,
    (hfollows.table htable hset).1.trans hfound⟩

end MaterialPipeline.Registry
