import MaterialPipeline.Proofs.Feature.Agreement
import MaterialPipeline.Proofs.Program.Visits

/-!
# Proofs — Program — Agreement

With the built-in generators, what a set is measured to cost is what its program uses, whatever the
vertices, as long as the entries of texture features carry a stage and no others do.

* `exists_varyings`, `exists_textures`: the cost counts the different varyings and textures that the
  entries need.
* `total_mono`: more entries never cost less.
* `interpolators_eq`, `textures_eq`: the program declares as many.
* `slots_eq`: its samplers and the bindings have the same names and slots.
* `bounded_of_size`: a set of reasonable size never exceeds 32 bits.
-/

namespace MaterialPipeline.Registry

variable {set : FeatureSet} {e : Registration} {id : FeatureId} {stage : Option Nat}

/-! ### The built-in registry -/

theorem entries_builtin : builtin.entries = Generator.builtin.map fun (t, g) => ⟨t, g⟩ := rfl

theorem agrees_of_mem (he : e ∈ builtin.entries) : e.generator.Agrees e.type.id := by
  rw [entries_builtin, List.mem_map] at he
  obtain ⟨p, hp, rfl⟩ := he
  exact Generator.agrees_builtin p hp

/-- A varying is needed by registered types only. -/
theorem mem_order_of_types_varying (v : Varying) (h : id ∈ v.types) : id ∈ builtin.order := by
  have hsub : ∀ id ∈ v.types, id ∈ builtin.order := by
    cases v <;> (simp only [Varying.types]; decide)
  exact hsub id h

/-- A texture is read by registered types only. -/
theorem mem_order_of_types_texture (t : TextureSource) (h : id ∈ t.types) : id ∈ builtin.order := by
  have hsub : ∀ id ∈ t.types, id ∈ builtin.order := by
    cases t with
    | map stage kind => cases kind <;> (simp only [TextureSource.types]; decide)
    | lightMap => simp only [TextureSource.types]; decide
  exact hsub id h

/-! ### What a set needs -/

section Paid

variable {K : Type} {needs : FeatureId → Option Nat → List K}
  {payer : K → Option (FeatureId × Option Nat)}

/-- If every entry costs what it pays for, a set costs the different things that its entries
need. -/
theorem exists_paid_builtin (count : Cost → Nat)
    (hcost : ∀ e ∈ builtin.entries, ∀ stage, set.hasAt e.type.id stage = true →
      count (e.generator.cost set stage) =
        (needs e.type.id stage).countP (payer · = some (e.type.id, stage)))
    (hnodup : ∀ id stage, (needs id stage).Nodup)
    (hregistered : ∀ id stage k, k ∈ needs id stage → id ∈ builtin.order)
    (hpayer : ∀ id stage, set.hasAt id stage = true → ∀ k ∈ needs id stage,
      ∃ w : FeatureId × Option Nat, payer k = some w ∧ set.hasAt w.1 w.2 = true ∧ k ∈ needs w.1 w.2)
    {most : Nat} (hmost : ∀ id stage, (needs id stage).length ≤ most) :
    ∃ paid : List K, paid.Nodup ∧
      (∀ k, k ∈ paid ↔ ∃ id stage, set.hasAt id stage = true ∧ k ∈ needs id stage) ∧
      ((builtin.costs set).map count).sum = paid.length ∧ paid.length ≤ set.size * most := by
  obtain ⟨paid, hpaid, hmem, hsum⟩ := exists_paid (builtin.nodup_idents set)
    (fun v => needs v.1 v.2) payer (fun v _ => hnodup v.1 v.2)
    fun v hv k hk => by
      obtain ⟨w, hpays, hw, hkw⟩ := hpayer v.1 v.2 (mem_idents.mp hv).2 k hk
      exact ⟨w, mem_idents.mpr ⟨hregistered _ _ k hkw, hw⟩, hpays, hkw⟩
  have hcosts : (builtin.costs set).map count =
      (builtin.idents set).map fun v => (needs v.1 v.2).countP (payer · = some v) := by
    rw [costs, idents, List.map_map, List.map_map]
    refine List.map_congr_left fun visit hvisit => ?_
    obtain ⟨he, h⟩ := mem_visits.mp hvisit
    exact hcost visit.1 he visit.2 h
  refine ⟨paid, hpaid, fun k => ?_, by rw [hcosts, hsum], ?_⟩
  · rw [hmem]
    constructor
    · rintro ⟨v, hv, hk⟩
      exact ⟨v.1, v.2, (mem_idents.mp hv).2, hk⟩
    · rintro ⟨id, stage, h, hk⟩
      exact ⟨(id, stage), mem_idents.mpr ⟨hregistered id stage k hk, h⟩, hk⟩
  · calc paid.length
        = ((builtin.idents set).map fun v => (needs v.1 v.2).countP (payer · = some v)).sum :=
          hsum.symm
      _ ≤ (builtin.idents set).length * most := sum_countP_le _ _ fun v => hmost v.1 v.2
      _ ≤ set.size * most := Nat.mul_le_mul_right most (builtin.length_idents_le set)

end Paid

/-- The interpolators of a set count the different varyings that its entries need. -/
theorem exists_varyings (hset : set.Placed) : ∃ paid : List Varying, paid.Nodup ∧
    (∀ v, v ∈ paid ↔ ∃ id stage, set.hasAt id stage = true ∧ v ∈ Varying.neededBy id stage) ∧
    (builtin.total set).interpolators = paid.length ∧ paid.length ≤ set.size * 12 :=
  exists_paid_builtin (·.interpolators)
    (fun _ he stage h => (agrees_of_mem he).interpolators set stage (hset _ stage h) h)
    Varying.nodup_neededBy
    (fun _ _ v hv => mem_order_of_types_varying v (Varying.mem_neededBy.mp hv).2)
    (fun _ _ h _ hv => Varying.payer_spec hset h hv)
    fun _ _ => List.length_filter_le _ _

/-- The texture slots of a set count the different textures that its entries read. -/
theorem exists_textures (hset : set.Placed) : ∃ paid : List TextureSource, paid.Nodup ∧
    (∀ t, t ∈ paid ↔ ∃ id stage, set.hasAt id stage = true ∧ t ∈ TextureSource.neededBy id stage) ∧
    (builtin.total set).textures = paid.length ∧ paid.length ≤ set.size * 8 :=
  exists_paid_builtin (·.textures)
    (fun _ he stage h => (agrees_of_mem he).textures set stage (hset _ stage h) h)
    TextureSource.nodup_neededBy
    (fun _ _ t ht => mem_order_of_types_texture t (TextureSource.mem_neededBy.mp ht).2)
    (fun _ _ h _ ht => TextureSource.payer_spec hset h ht)
    fun _ _ => List.length_filter_le _ _

/-- A set costs no less than another one with fewer entries, although it shares more. -/
theorem total_mono {a b : FeatureSet} (ha : a.Placed) (hb : b.Placed)
    (h : ∀ id stage, a.hasAt id stage = true → b.hasAt id stage = true) :
    (builtin.total a).textures ≤ (builtin.total b).textures ∧
      (builtin.total a).interpolators ≤ (builtin.total b).interpolators := by
  obtain ⟨varyings, hnodup, hmem, htotal, -⟩ := exists_varyings ha
  obtain ⟨varyings', -, hmem', htotal', -⟩ := exists_varyings hb
  obtain ⟨textures, tnodup, tmem, ttotal, -⟩ := exists_textures ha
  obtain ⟨textures', -, tmem', ttotal', -⟩ := exists_textures hb
  have hsub : varyings ⊆ varyings' := by
    intro v hv
    obtain ⟨id, stage, hat, hv⟩ := (hmem v).mp hv
    exact (hmem' v).mpr ⟨id, stage, h id stage hat, hv⟩
  have tsub : textures ⊆ textures' := by
    intro t ht
    obtain ⟨id, stage, hat, ht⟩ := (tmem t).mp ht
    exact (tmem' t).mpr ⟨id, stage, h id stage hat, ht⟩
  rw [htotal, htotal', ttotal, ttotal']
  exact ⟨(List.subperm_of_subset tnodup tsub).length_le,
    (List.subperm_of_subset hnodup hsub).length_le⟩

/-! ### What its program uses -/

variable (format : VertexFormat) (label : String)

theorem mem_varyingNames {r : Registry} {name : String} : name ∈ r.varyingNames format set ↔
    ∃ e stage, (e, stage) ∈ r.visits set ∧
      name ∈ e.generator.varyingNames ⟨set, stage, format⟩ := by
  simp only [varyingNames, emissions, List.filterMap_append, List.mem_append, List.mem_filterMap,
    List.mem_flatMap, Generator.varyingNames, Prod.exists]
  constructor
  · rintro (⟨emission, ⟨e, stage, hvisit, hmem⟩, hname⟩ |
      ⟨emission, ⟨e, stage, hvisit, hmem⟩, hname⟩)
    · exact ⟨e, stage, hvisit, .inl ⟨emission, hmem, hname⟩⟩
    · exact ⟨e, stage, hvisit, .inr ⟨emission, hmem, hname⟩⟩
  · rintro ⟨e, stage, hvisit, ⟨emission, hmem, hname⟩ | ⟨emission, hmem, hname⟩⟩
    · exact .inl ⟨emission, ⟨e, stage, hvisit, hmem⟩, hname⟩
    · exact .inr ⟨emission, ⟨e, stage, hvisit, hmem⟩, hname⟩

/-- The program declares the varyings that the entries need, and no others. -/
theorem mem_varyingNames_builtin (hset : set.Placed) {name : String} :
    name ∈ builtin.varyingNames format set ↔
      ∃ v : Varying, (∃ id stage, set.hasAt id stage = true ∧ v ∈ Varying.neededBy id stage) ∧
        v.name = name := by
  rw [mem_varyingNames]
  constructor
  · rintro ⟨e, stage, hvisit, hname⟩
    obtain ⟨he, h⟩ := mem_visits.mp hvisit
    obtain ⟨v, hv, rfl⟩ := (agrees_of_mem he).varyings _ name hname
    exact ⟨v, ⟨e.type.id, stage, h, hv⟩, rfl⟩
  · rintro ⟨v, ⟨id, stage, h, hv⟩, rfl⟩
    -- The entry that pays for the varying declares it, whichever entry needs it.
    obtain ⟨⟨payer, own⟩, hpays, hpayer, hneeds⟩ := Varying.payer_spec hset h hv
    have hregistered := mem_order_of_types_varying v (Varying.mem_neededBy.mp hneeds).2
    obtain ⟨e, he, rfl⟩ := List.mem_map.mp hregistered
    exact ⟨e, own, mem_visits.mpr ⟨he, hpayer⟩,
      (agrees_of_mem he).emits ⟨set, own, format⟩ v hneeds hpays⟩

/-- As many interpolators are measured as the program declares. -/
theorem interpolators_eq (hset : set.Placed) : (builtin.total set).interpolators =
    (builtin.assemble format label set).interpolators := by
  obtain ⟨paid, hpaid, hmem, htotal, -⟩ := exists_varyings hset
  rw [htotal, interpolators_assemble]
  refine (length_eq_of_names (fun a _ b _ => Varying.name_injective) hpaid
    (nodup_keepNames List.nodup_nil) fun x => ?_).symm
  rw [mem_keepNames, mem_varyingNames_builtin format hset]
  simp only [List.not_mem_nil, false_or, hmem]

/-- The samplers that the program declares are those that textures are requested for, in order. -/
theorem samplerNames_eq (hset : set.Placed) :
    builtin.samplerNames format set = builtin.requestNames set := by
  have hvertex : (builtin.emissions format set .vertex).filterMap (·.sampler?) = [] := by
    rw [emissions, List.filterMap_flatMap, List.flatMap_eq_nil_iff]
    intro visit hvisit
    exact (agrees_of_mem (mem_visits.mp hvisit).1).vertexSamplers _
  have hpixel : (builtin.emissions format set .pixel).filterMap (·.sampler?) =
      builtin.requestNames set := by
    rw [emissions, List.filterMap_flatMap, requestNames]
    refine List.flatMap_congr fun visit hvisit => ?_
    obtain ⟨he, h⟩ := mem_visits.mp hvisit
    have hagrees := agrees_of_mem he
    exact (hagrees.pixelSamplers ⟨set, visit.2, format⟩ (hset _ _ h)).trans
      (hagrees.requests visit.2).symm
  rw [samplerNames, List.filterMap_append, hvertex, hpixel, List.nil_append]

/-- The samplers of the program and the bindings have the same names and slots. -/
theorem slots_eq (hset : set.Placed) :
    Draft.slots (builtin.assemble format label set).samplers =
      Binding.slots (builtin.bindings set) := by
  rw [slots_samplers_assemble, slots_bindings, samplerNames_eq format hset]

/-- Textures are requested for what the entries read, and for nothing else. -/
theorem mem_requestNames_builtin {name : String} : name ∈ builtin.requestNames set ↔
    ∃ t : TextureSource, (∃ id stage, set.hasAt id stage = true ∧
      t ∈ TextureSource.neededBy id stage) ∧ t.samplerName = name := by
  rw [requestNames, List.mem_flatMap]
  constructor
  · rintro ⟨⟨e, stage⟩, hvisit, hname⟩
    obtain ⟨he, h⟩ := mem_visits.mp hvisit
    rw [(agrees_of_mem he).requests] at hname
    obtain ⟨t, ht, rfl⟩ := List.mem_map.mp hname
    exact ⟨t, ⟨e.type.id, stage, h, ht⟩, rfl⟩
  · rintro ⟨t, ⟨id, stage, h, ht⟩, rfl⟩
    have hregistered := mem_order_of_types_texture t (TextureSource.mem_neededBy.mp ht).2
    obtain ⟨e, he, rfl⟩ := List.mem_map.mp hregistered
    refine ⟨(e, stage), mem_visits.mpr ⟨he, h⟩, ?_⟩
    rw [(agrees_of_mem he).requests]
    exact List.mem_map_of_mem ht

/-- As many texture slots are measured as textures are bound. -/
theorem textures_eq (hset : set.Placed) :
    (builtin.total set).textures = (builtin.bindings set).length := by
  obtain ⟨paid, hpaid, hmem, htotal, -⟩ := exists_textures hset
  have hlength : (builtin.bindings set).length =
      (keepNames [] (builtin.requestNames set)).length := by
    rw [← List.length_zipIdx (l := keepNames [] (builtin.requestNames set)), ← slots_bindings,
      Binding.slots, List.length_map]
  rw [htotal, hlength]
  refine (length_eq_of_names (fun a _ b _ => TextureSource.samplerName_injective) hpaid
    (nodup_keepNames List.nodup_nil) fun x => ?_).symm
  rw [mem_keepNames, mem_requestNames_builtin]
  simp only [List.not_mem_nil, false_or, hmem]

/-- A set of reasonable size costs less than 2³². -/
theorem bounded_of_size (hset : set.Placed) (hsize : set.size < 2 ^ 28) :
    (builtin.total set).Bounded := by
  obtain ⟨varyings, -, -, hvaryings, hv⟩ := exists_varyings hset
  obtain ⟨textures, -, -, htextures, ht⟩ := exists_textures hset
  have hlimit : UInt32.size = 2 ^ 32 := rfl
  rw [Cost.Bounded, hvaryings, htextures, hlimit]
  omega

end MaterialPipeline.Registry
