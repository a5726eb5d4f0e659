import MaterialPipeline.Proofs.Feature.Without
import MaterialPipeline.Proofs.Feature.Written

/-!
# Proofs — Program — Without

The program of a set when some built-in types have no generator, against the program of what stays
of the set when they have.

* `bindings_without`, `samplers_without`, `uniforms_without`, `interpolators_without`: the textures,
  the constants and the number of varyings are the same.
* `exists_unpaid_varyings`, `exists_unpaid_textures`: the cost lacks what the entries without a
  generator would have paid for others.  So it is the same if the set provides for what stays, and
  only then (`total_without_iff`).
* `draft_without_iff`: then the lines are the same if the set is closed, and only then.
* `assigned_draft`, `assigned_without`: varyings whose payer stays are computed.
-/

namespace MaterialPipeline

/-! ### Lists -/

/-- Parts that are no longer than others, and come to the same whole, are the same. -/
theorem eq_of_flatMap_eq {α β : Type} {f g : α → List β} : ∀ {l : List α},
    (∀ a ∈ l, (f a).length ≤ (g a).length) → l.flatMap f = l.flatMap g → ∀ a ∈ l, f a = g a
  | [], _, _ => fun _ ha => absurd ha List.not_mem_nil
  | a :: l, hle, h => by
      rw [List.flatMap_cons, List.flatMap_cons] at h
      obtain ⟨hfirst, hothers⟩ := List.forall_mem_cons.mp hle
      have hrest : (l.flatMap f).length ≤ (l.flatMap g).length := by
        rw [List.length_flatMap, List.length_flatMap]
        exact List.sum_le_sum hothers
      have hlength := congrArg List.length h
      rw [List.length_append, List.length_append] at hlength
      obtain ⟨hhead, htail⟩ := List.append_inj h (by omega)
      exact List.forall_mem_cons.mpr ⟨hhead, eq_of_flatMap_eq hothers htail⟩

theorem Draft.slots_injective : Function.Injective Draft.slots :=
  List.map_injective_iff.mpr fun s s' h => by
    cases s
    cases s'
    cases h
    rfl

namespace Draft

/-- The constants of a program, from those contributed. -/
theorem uniforms_emitAll (half : ShaderStage) (emissions : List Emission) (d : Draft) :
    (d.emitAll half emissions).uniforms = (emissions.filterMap (·.uniform?)).foldl
      (fun declared u => declare declared u.name u.type) d.uniforms := by
  induction emissions generalizing d with
  | nil => rfl
  | cons e emissions ih =>
      rw [emitAll, List.foldl_cons, ← emitAll, ih]
      cases e with
      | line text => cases half <;> rfl
      | uniform | sampler | varying => rfl

/-- The lines contributed to the vertex half. -/
theorem vertexLines_emitAll_vertex (emissions : List Emission) (d : Draft) :
    (d.emitAll .vertex emissions).vertexLines =
      d.vertexLines ++ emissions.filterMap (·.line?) := by
  induction emissions generalizing d with
  | nil => rw [List.filterMap_nil, List.append_nil]; rfl
  | cons e emissions ih =>
      rw [emitAll, List.foldl_cons, ← emitAll, ih]
      cases e with
      | line text => exact List.append_assoc ..
      | uniform | sampler | varying => rfl

theorem pixelLines_emitAll_pixel (emissions : List Emission) (d : Draft) :
    (d.emitAll .pixel emissions).pixelLines = d.pixelLines ++ emissions.filterMap (·.line?) := by
  induction emissions generalizing d with
  | nil => rw [List.filterMap_nil, List.append_nil]; rfl
  | cons e emissions ih =>
      rw [emitAll, List.foldl_cons, ← emitAll, ih]
      cases e with
      | line text => exact List.append_assoc ..
      | uniform | sampler | varying => rfl

/-- The other half gets none of the lines. -/
theorem vertexLines_emitAll_pixel (emissions : List Emission) (d : Draft) :
    (d.emitAll .pixel emissions).vertexLines = d.vertexLines := by
  induction emissions generalizing d with
  | nil => rfl
  | cons e emissions ih =>
      rw [emitAll, List.foldl_cons, ← emitAll, ih]
      cases e <;> rfl

theorem pixelLines_emitAll_vertex (emissions : List Emission) (d : Draft) :
    (d.emitAll .vertex emissions).pixelLines = d.pixelLines := by
  induction emissions generalizing d with
  | nil => rfl
  | cons e emissions ih =>
      rw [emitAll, List.foldl_cons, ← emitAll, ih]
      cases e <;> rfl

end Draft

namespace Registry

variable {r : Registry} {set : FeatureSet} {gone : List FeatureId} {e : Registration}
  {stage : Option Nat} (format : VertexFormat) (label : String)

/-- The lines of the vertex half. -/
theorem vertexLines_draft : (r.draft format set).vertexLines =
    (r.visits set).flatMap fun v => Generator.lines (v.1.generator.vertex ⟨set, v.2, format⟩) := by
  rw [draft, Draft.vertexLines_emitAll_pixel, Draft.vertexLines_emitAll_vertex, emissions,
    List.filterMap_flatMap]
  rfl

/-- The lines of the pixel half. -/
theorem pixelLines_draft : (r.draft format set).pixelLines =
    (r.visits set).flatMap fun v => Generator.lines (v.1.generator.pixel ⟨set, v.2, format⟩) := by
  rw [draft, Draft.pixelLines_emitAll_pixel, Draft.pixelLines_emitAll_vertex, emissions,
    List.filterMap_flatMap]
  rfl

/-! ### Visits -/

/-- The registry without some types. -/
def without (r : Registry) (gone : List FeatureId) : Registry :=
  gone.foldl unregister r

theorem entries_without (r : Registry) (gone : List FeatureId) :
    (r.without gone).entries = r.entries.filter (·.type.id ∉ gone) := by
  induction gone generalizing r with
  | nil => simp [without]
  | cons id gone ih =>
      rw [without, List.foldl_cons, ← without, ih, unregister, List.filter_filter]
      refine List.filter_congr fun e _ => ?_
      by_cases he : e.type.id = id
      · simp [he]
      · simp [he]

/-- The entries that have a generator are those that stay of the set. -/
theorem visits_without : (r.without gone).visits set = r.visits (set.without gone) := by
  rw [visits, visits, entries_without]
  induction r.entries with
  | nil => rfl
  | cons e entries ih =>
      rw [List.flatMap_cons, ← ih]
      by_cases hgone : e.type.id ∈ gone
      · -- The entries of a type that goes are not visited on either side.
        have hnone : (set.without gone).stagesOf e.type.id = [] :=
          List.eq_nil_iff_forall_not_mem.mpr fun stage hstage =>
            (FeatureSet.hasAt_without.mp (FeatureSet.mem_stagesOf.mp hstage)).2 hgone
        rw [List.filter_cons_of_neg (by simpa using hgone), hnone, List.map_nil, List.nil_append]
      · rw [List.filter_cons_of_pos (by simpa using hgone), List.flatMap_cons,
          FeatureSet.stagesOf_without hgone]

theorem mem_visits_without : (e, stage) ∈ r.visits (set.without gone) ↔
    e ∈ r.entries ∧ set.hasAt e.type.id stage = true ∧ e.type.id ∉ gone := by
  rw [mem_visits, FeatureSet.hasAt_without]

/-- A built-in generator and its type. -/
theorem mem_builtin_of_mem_entries (he : e ∈ builtin.entries) :
    (e.type, e.generator) ∈ Generator.builtin := by
  rw [entries_builtin] at he
  obtain ⟨p, hp, rfl⟩ := List.mem_map.mp he
  exact hp

theorem mem_entries_of_mem_builtin {p : FeatureType × Generator} (hp : p ∈ Generator.builtin) :
    ⟨p.1, p.2⟩ ∈ builtin.entries := by
  rw [entries_builtin]
  exact List.mem_map_of_mem hp

/-! ### Declarations -/

/-- The textures are the same. -/
theorem bindings_without : (r.without gone).bindings set = r.bindings (set.without gone) := by
  rw [bindings, visits_without]
  rfl

/-- The constants are the same. -/
theorem uniforms_without : ((builtin.without gone).assemble format label set).uniforms =
    (builtin.assemble format label (set.without gone)).uniforms := by
  have hvertex : ((builtin.without gone).emissions format set .vertex).filterMap (·.uniform?) =
      (builtin.emissions format (set.without gone) .vertex).filterMap (·.uniform?) := by
    rw [emissions, emissions, visits_without, List.filterMap_flatMap, List.filterMap_flatMap]
    refine List.flatMap_congr fun v hv => ?_
    exact Generator.uniforms_vertex_congr _ _ (mem_builtin_of_mem_entries (mem_visits.mp hv).1)
  have hpixel : ((builtin.without gone).emissions format set .pixel).filterMap (·.uniform?) =
      (builtin.emissions format (set.without gone) .pixel).filterMap (·.uniform?) := by
    rw [emissions, emissions, visits_without, List.filterMap_flatMap, List.filterMap_flatMap]
    refine List.flatMap_congr fun v hv => ?_
    exact Generator.uniforms_pixel_congr _ _ (mem_builtin_of_mem_entries (mem_visits.mp hv).1)
  simp only [assemble, draft, Draft.finish, Draft.uniforms_emitAll, hvertex, hpixel]

/-- The samplers are the same. -/
theorem samplers_without (hset : set.Placed) :
    ((builtin.without gone).assemble format label set).samplers =
      (builtin.assemble format label (set.without gone)).samplers := by
  have hnames : (builtin.without gone).samplerNames format set =
      builtin.samplerNames format (set.without gone) := by
    rw [samplerNames, samplerNames, List.filterMap_append, List.filterMap_append, emissions,
      emissions, emissions, emissions, visits_without]
    simp only [List.filterMap_flatMap]
    refine congrArg₂ _ (List.flatMap_congr fun v hv => ?_) (List.flatMap_congr fun v hv => ?_)
    · have hagrees := agrees_of_mem (mem_visits.mp hv).1
      exact (hagrees.vertexSamplers _).trans (hagrees.vertexSamplers _).symm
    · obtain ⟨he, hat⟩ := mem_visits.mp hv
      have hagrees := agrees_of_mem he
      have hsuits := hset.without gone _ _ hat
      exact (hagrees.pixelSamplers ⟨set, v.2, format⟩ hsuits).trans
        (hagrees.pixelSamplers ⟨set.without gone, v.2, format⟩ hsuits).symm
  refine Draft.slots_injective ?_
  rw [slots_samplers_assemble, slots_samplers_assemble, hnames]

/-- The same varyings are declared, although they may come in another order. -/
theorem mem_varyingNames_without (hset : set.Placed) {name : String} :
    name ∈ (builtin.without gone).varyingNames format set ↔
      name ∈ builtin.varyingNames format (set.without gone) := by
  rw [mem_varyingNames_builtin format (hset.without gone), mem_varyingNames, visits_without]
  constructor
  · rintro ⟨e, stage, hvisit, hname⟩
    obtain ⟨he, hat⟩ := mem_visits.mp hvisit
    obtain ⟨v, hv, rfl⟩ := (agrees_of_mem he).varyings _ name hname
    exact ⟨v, ⟨e.type.id, stage, hat, hv⟩, rfl⟩
  · rintro ⟨v, ⟨id, stage, hat, hv⟩, rfl⟩
    obtain ⟨hkeptAt, hkept⟩ := FeatureSet.hasAt_without.mp hat
    obtain ⟨hall, htypes⟩ := Varying.mem_neededBy.mp hv
    obtain ⟨e, he, rfl⟩ := List.mem_map.mp (mem_order_of_types_varying v htypes)
    have hp := mem_builtin_of_mem_entries he
    have hvisit := mem_visits.mpr ⟨he, hat⟩
    -- A coordinate may have lost its payer, but whoever needs it declares it.  Other varyings are
    -- needed by one type only, so that their payer stays.
    have hpayer {id : FeatureId} (hown : v.types = [id]) : ∃ e' stage',
        (e', stage') ∈ builtin.visits (set.without gone) ∧
          v.name ∈ e'.generator.varyingNames ⟨set, stage', format⟩ := by
      obtain ⟨⟨id', own⟩, hpays, hpayer, hneeds⟩ := Varying.payer_spec hset hkeptAt hv
      obtain rfl := List.mem_singleton.mp (hown ▸ htypes)
      obtain rfl := List.mem_singleton.mp (hown ▸ (Varying.mem_neededBy.mp hneeds).2)
      exact ⟨e, own, mem_visits_without.mpr ⟨he, hpayer, hkept⟩,
        (agrees_of_mem he).emits ⟨set, own, format⟩ v hneeds hpays⟩
    cases v with
    | coord own =>
        obtain rfl : own = stage := by simpa [Varying.all] using hall
        exact ⟨e, own, hvisit, Generator.declares_coord _ hp htypes _⟩
    | lightCoord => exact ⟨e, stage, hvisit, Generator.declares_lightCoord _ hp htypes _⟩
    | eye | frame | vertexColor | position | normal | reflection | normalDepth | depth =>
        exact hpayer rfl

/-- There are as many varyings. -/
theorem interpolators_without (hset : set.Placed) :
    ((builtin.without gone).assemble format label set).interpolators =
      (builtin.assemble format label (set.without gone)).interpolators := by
  rw [interpolators_assemble, interpolators_assemble]
  refine ((List.perm_ext_iff_of_nodup (nodup_keepNames List.nodup_nil)
    (nodup_keepNames List.nodup_nil)).mpr fun name => ?_).length_eq
  rw [mem_keepNames, mem_keepNames, mem_varyingNames_without format hset]

/-! ### Cost -/

section Unpaid

variable {K : Type} {needs : FeatureId → Option Nat → List K}
  {payer : K → Option (FeatureId × Option Nat)}

/-- The entry that pays for a thing goes. -/
def Unpaid (payer : K → Option (FeatureId × Option Nat)) (gone : List FeatureId) (k : K) : Prop :=
  ∃ w, payer k = some w ∧ w.1 ∈ gone

instance (gone : List FeatureId) (k : K) : Decidable (Unpaid payer gone k) :=
  decidable_of_iff ((payer k).any (·.1 ∈ gone) = true) (by
    simp only [Unpaid, Option.any_eq_true, decide_eq_true_eq])

/-- Of the things that the remaining entries need, the cost lacks those whose payer goes. -/
theorem sum_costs_without (count : Cost → Nat)
    (hcost : ∀ e ∈ builtin.entries, ∀ stage, set.hasAt e.type.id stage = true →
      count (e.generator.cost set stage) =
        (needs e.type.id stage).countP (payer · = some (e.type.id, stage)))
    (hnodup : ∀ id stage, (needs id stage).Nodup)
    (hregistered : ∀ id stage k, k ∈ needs id stage → id ∈ builtin.order)
    (hpayer : ∀ id stage, set.hasAt id stage = true → ∀ k ∈ needs id stage,
      ∃ w : FeatureId × Option Nat, payer k = some w ∧ set.hasAt w.1 w.2 = true ∧ k ∈ needs w.1 w.2)
    {needed : List K} (hneeded : needed.Nodup) (hmem : ∀ k, k ∈ needed ↔
      ∃ id stage, (set.without gone).hasAt id stage = true ∧ k ∈ needs id stage) :
    (((builtin.without gone).costs set).map count).sum +
      (needed.filter (Unpaid payer gone ·)).length = needed.length := by
  obtain ⟨paid, hpaid, hmemPaid, hsum⟩ := exists_paid (builtin.nodup_idents (set.without gone))
    (fun v => (needs v.1 v.2).filter (¬ Unpaid payer gone ·)) payer
    (fun v _ => (hnodup v.1 v.2).filter _) fun v hv k hk => by
      obtain ⟨hk, hstays⟩ := List.mem_filter.mp hk
      obtain ⟨-, hat⟩ := mem_idents.mp hv
      obtain ⟨w, hpays, hw, hkw⟩ := hpayer v.1 v.2 (FeatureSet.hasAt_without.mp hat).1 k hk
      have hkept : w.1 ∉ gone := fun hgone => of_decide_eq_true hstays ⟨w, hpays, hgone⟩
      exact ⟨w, mem_idents.mpr ⟨hregistered _ _ k hkw, FeatureSet.hasAt_without.mpr ⟨hw, hkept⟩⟩,
        hpays, List.mem_filter.mpr ⟨hkw, hstays⟩⟩
  have hcosts : ((builtin.without gone).costs set).map count =
      (builtin.idents (set.without gone)).map fun v =>
        ((needs v.1 v.2).filter (¬ Unpaid payer gone ·)).countP (payer · = some v) := by
    rw [costs, visits_without, idents, List.map_map, List.map_map]
    refine List.map_congr_left fun visit hvisit => ?_
    obtain ⟨he, hat, hkept⟩ := mem_visits_without.mp hvisit
    have hstays : ∀ k ∈ needs visit.1.type.id visit.2,
        payer k = some (visit.1.type.id, visit.2) → ¬ Unpaid payer gone k := by
      rintro k - hpays ⟨w, hw, hgone⟩
      obtain rfl := Option.some.inj (hpays.symm.trans hw)
      exact hkept hgone
    refine (hcost visit.1 he visit.2 hat).trans (Eq.trans ?_ List.countP_filter.symm)
    refine List.countP_congr fun k hk => ?_
    simp only [decide_eq_true_eq, Bool.and_eq_true]
    exact iff_self_and.mpr (hstays k hk)
  have hstay : paid.length = (needed.filter (¬ Unpaid payer gone ·)).length := by
    refine ((List.perm_ext_iff_of_nodup hpaid (hneeded.filter _)).mpr fun k => ?_).length_eq
    rw [hmemPaid, List.mem_filter, hmem]
    constructor
    · rintro ⟨v, hv, hk⟩
      obtain ⟨hk, hstays⟩ := List.mem_filter.mp hk
      exact ⟨⟨v.1, v.2, (mem_idents.mp hv).2, hk⟩, hstays⟩
    · rintro ⟨⟨id, stage, hat, hk⟩, hstays⟩
      exact ⟨(id, stage), mem_idents.mpr ⟨hregistered id stage k hk, hat⟩,
        List.mem_filter.mpr ⟨hk, hstays⟩⟩
  have hsplit := needed.length_eq_length_filter_add (Unpaid payer gone ·)
  simp only [decide_not] at hstay
  rw [hcosts, hsum, hstay, hsplit, Nat.add_comm]

end Unpaid

/-- Of the varyings that the remaining entries need, the cost lacks those whose payer goes. -/
theorem exists_unpaid_varyings (hset : set.Placed) (gone : List FeatureId) :
    ∃ unpaid : List Varying, unpaid.Nodup ∧
      (∀ v, v ∈ unpaid ↔ (∃ id stage, (set.without gone).hasAt id stage = true ∧
        v ∈ Varying.neededBy id stage) ∧ Unpaid (Varying.payer set) gone v) ∧
      ((builtin.without gone).total set).interpolators + unpaid.length =
        (builtin.total (set.without gone)).interpolators := by
  obtain ⟨needed, hneeded, hmem, htotal, -⟩ := exists_varyings (hset.without gone)
  refine ⟨needed.filter (Unpaid (Varying.payer set) gone ·), hneeded.filter _, fun v => ?_, ?_⟩
  · rw [List.mem_filter, hmem, decide_eq_true_eq]
  · rw [htotal]
    exact sum_costs_without (·.interpolators)
      (fun _ he stage h => (agrees_of_mem he).interpolators set stage (hset _ stage h) h)
      Varying.nodup_neededBy
      (fun _ _ v hv => mem_order_of_types_varying v (Varying.mem_neededBy.mp hv).2)
      (fun _ _ h _ hv => Varying.payer_spec hset h hv) hneeded hmem

/-- Of the textures that the remaining entries read, the cost lacks those whose payer goes. -/
theorem exists_unpaid_textures (hset : set.Placed) (gone : List FeatureId) :
    ∃ unpaid : List TextureSource, unpaid.Nodup ∧
      (∀ t, t ∈ unpaid ↔ (set.without gone).Reads t ∧ Unpaid (TextureSource.payer set) gone t) ∧
      ((builtin.without gone).total set).textures + unpaid.length =
        (builtin.total (set.without gone)).textures := by
  obtain ⟨needed, hneeded, hmem, htotal, -⟩ := exists_textures (hset.without gone)
  refine ⟨needed.filter (Unpaid (TextureSource.payer set) gone ·), hneeded.filter _,
    fun t => ?_, ?_⟩
  · rw [List.mem_filter, hmem, decide_eq_true_eq]
    rfl
  · rw [htotal]
    exact sum_costs_without (·.textures)
      (fun _ he stage h => (agrees_of_mem he).textures set stage (hset _ stage h) h)
      TextureSource.nodup_neededBy
      (fun _ _ t ht => mem_order_of_types_texture t (TextureSource.mem_neededBy.mp ht).2)
      (fun _ _ h _ ht => TextureSource.payer_spec hset h ht) hneeded hmem

/-- No varying is without payer exactly if the set provides for what stays. -/
theorem provides_iff : set.Provides gone ↔ ∀ v, (∃ id stage,
    (set.without gone).hasAt id stage = true ∧ v ∈ Varying.neededBy id stage) →
      ¬ Unpaid (Varying.payer set) gone v := by
  constructor
  · rintro h v ⟨id, stage, hat, hv⟩ ⟨w, hpays, hgone⟩
    obtain ⟨hat, hkept⟩ := FeatureSet.hasAt_without.mp hat
    exact h id stage hat hkept v hv w hpays hgone
  · intro h id stage hat hkept v hv w hpays hgone
    exact h v ⟨id, stage, FeatureSet.hasAt_without.mpr ⟨hat, hkept⟩, hv⟩ ⟨w, hpays, hgone⟩

/-- If the payers of varyings stay, so do those of textures: only the height map and the normal map
of a stage share a texture, and these share the coordinate too. -/
theorem not_unpaid_of_provides (h : set.Provides gone) (hset : set.Placed) {t : TextureSource}
    (ht : (set.without gone).Reads t) : ¬ Unpaid (TextureSource.payer set) gone t := by
  rintro ⟨w, hpays, hgone⟩
  obtain ⟨id, stage, hat, ht⟩ := ht
  obtain ⟨hat, hkept⟩ := FeatureSet.hasAt_without.mp hat
  have hnumber := TextureSource.number_eq (hset id stage hat) ht
  obtain ⟨w', hpays', -, hneeds⟩ := TextureSource.payer_spec hset hat ht
  obtain rfl := Option.some.inj (hpays.symm.trans hpays')
  have hid := (TextureSource.mem_neededBy.mp ht).2
  have hpayer := (TextureSource.mem_neededBy.mp hneeds).2
  have hne : w.1 ≠ id := fun e => hkept (e ▸ hgone)
  -- A texture that only one type reads is paid for by that type.
  have hone {only : FeatureId} (htypes : t.types = [only]) : False :=
    hne ((List.mem_singleton.mp (htypes ▸ hpayer)).trans
      (List.mem_singleton.mp (htypes ▸ hid)).symm)
  cases t with
  | lightMap => exact hone rfl
  | map n kind =>
      cases kind with
      | diffuse | overlay | detail | specular | cube | tone => exact hone rfl
      | normal =>
          obtain rfl : some n = stage := hnumber
          rcases List.mem_pair.mp hid with rfl | rfl
          · -- The height map pays itself.
            obtain rfl := Option.some.inj
              (hpays.symm.trans (Generator.payer_normal_of_parallax hat))
            exact hne rfl
          · by_cases hparallax : set.hasAt FeatureType.parallax.id (some n) = true
            · -- The height map that goes pays for the coordinate too, which the normal map needs.
              obtain rfl := Option.some.inj
                (hpays.symm.trans (Generator.payer_normal_of_parallax hparallax))
              have hfind : Generator.coordTypes.find? (set.hasAt · (some n)) =
                  some FeatureType.parallax.id := List.find?_cons_of_pos hparallax
              have hcoord : (Varying.coord (some n)).payer set =
                  some (FeatureType.parallax.id, some n) := by
                rw [Varying.payer, hfind, Option.map_some]
              exact h _ _ hat hkept _
                (Varying.mem_neededBy.mpr ⟨List.mem_cons_self,
                  show FeatureType.normalMap.id ∈ Generator.coordTypes by decide⟩) _ hcoord hgone
            · obtain rfl := Option.some.inj
                (hpays.symm.trans (Generator.payer_normal_of_normalMap hparallax hat))
              exact hne rfl

/-- The cost is the same exactly if the set provides for what stays. -/
theorem total_without_iff (hset : set.Placed) :
    (builtin.without gone).total set = builtin.total (set.without gone) ↔ set.Provides gone := by
  obtain ⟨varyings, -, hvaryings, hinterpolators⟩ := exists_unpaid_varyings hset gone
  obtain ⟨textures, -, htextures, hslots⟩ := exists_unpaid_textures hset gone
  rw [provides_iff]
  constructor
  · intro h v hneeds hunpaid
    have hnil : varyings = [] := List.eq_nil_of_length_eq_zero (by rw [h] at hinterpolators; omega)
    exact absurd (hnil ▸ (hvaryings v).mpr ⟨hneeds, hunpaid⟩) List.not_mem_nil
  · intro h
    have hnil : varyings = [] := List.eq_nil_iff_forall_not_mem.mpr fun v hv =>
      h v ((hvaryings v).mp hv).1 ((hvaryings v).mp hv).2
    have hnil' : textures = [] := List.eq_nil_iff_forall_not_mem.mpr fun t ht =>
      not_unpaid_of_provides (provides_iff.mpr h) hset ((htextures t).mp ht).1
        ((htextures t).mp ht).2
    rw [hnil, List.length_nil, Nat.add_zero] at hinterpolators
    rw [hnil', List.length_nil, Nat.add_zero] at hslots
    exact congrArg₂ Cost.mk hslots hinterpolators

/-! ### Lines -/

/-- In a closed set, the program is the same. -/
theorem draft_without (h : set.Closed gone) (hset : set.Placed) :
    (builtin.without gone).draft format set = builtin.draft format (set.without gone) := by
  have hvertex : (builtin.without gone).emissions format set .vertex =
      builtin.emissions format (set.without gone) .vertex := by
    rw [emissions, emissions, visits_without]
    refine List.flatMap_congr fun v hv => ?_
    obtain ⟨he, hat, hkept⟩ := mem_visits_without.mp hv
    exact (Generator.vertex_without h hset _ (mem_builtin_of_mem_entries he) hat hkept).symm
  have hpixel : (builtin.without gone).emissions format set .pixel =
      builtin.emissions format (set.without gone) .pixel := by
    rw [emissions, emissions, visits_without]
    refine List.flatMap_congr fun v hv => ?_
    obtain ⟨he, hat, hkept⟩ := mem_visits_without.mp hv
    exact (Generator.pixel_without h _ (mem_builtin_of_mem_entries he) hat hkept).symm
  rw [draft, draft, hvertex, hpixel]

section SameLines

variable {format}

/-- If the vertex halves have the same lines, each remaining entry writes the same. -/
theorem lines_vertex_eq (h : set.Provides gone) (hset : set.Placed)
    (hlines : ((builtin.without gone).draft format set).vertexLines =
      (builtin.draft format (set.without gone)).vertexLines) {p : FeatureType × Generator}
    (hp : p ∈ Generator.builtin) (hat : set.hasAt p.1.id stage = true) (hkept : p.1.id ∉ gone) :
    Generator.lines (p.2.vertex ⟨set, stage, format⟩) =
      Generator.lines (p.2.vertex ⟨set.without gone, stage, format⟩) := by
  rw [vertexLines_draft, vertexLines_draft, visits_without] at hlines
  refine eq_of_flatMap_eq (fun v hv => ?_) hlines (⟨p.1, p.2⟩, stage)
    (mem_visits_without.mpr ⟨mem_entries_of_mem_builtin hp, hat, hkept⟩)
  obtain ⟨he, hat, hkept⟩ := mem_visits_without.mp hv
  exact Generator.length_vertex_without h hset _ (mem_builtin_of_mem_entries he) hat hkept

/-- If the pixel halves have the same lines, each remaining entry writes the same. -/
theorem lines_pixel_eq
    (hlines : ((builtin.without gone).draft format set).pixelLines =
      (builtin.draft format (set.without gone)).pixelLines) {p : FeatureType × Generator}
    (hp : p ∈ Generator.builtin) (hat : set.hasAt p.1.id stage = true) (hkept : p.1.id ∉ gone) :
    Generator.lines (p.2.pixel ⟨set, stage, format⟩) =
      Generator.lines (p.2.pixel ⟨set.without gone, stage, format⟩) := by
  rw [pixelLines_draft, pixelLines_draft, visits_without] at hlines
  refine eq_of_flatMap_eq (fun v hv => ?_) hlines (⟨p.1, p.2⟩, stage)
    (mem_visits_without.mpr ⟨mem_entries_of_mem_builtin hp, hat, hkept⟩)
  obtain ⟨he, -, -⟩ := mem_visits_without.mp hv
  exact (Generator.length_pixel_without _ (mem_builtin_of_mem_entries he)).le

/-- If the lines are the same, no coordinate has lost its texture matrix. -/
theorem unmoved_of_lines (h : set.Provides gone) (hset : set.Placed)
    (hlines : ((builtin.without gone).draft format set).vertexLines =
      (builtin.draft format (set.without gone)).vertexLines)
    (hgone : FeatureType.texAnim.id ∈ gone)
    (hanim : set.hasAt FeatureType.texAnim.id stage = true) {id : FeatureId}
    (hid : id ∈ Generator.coordTypes) (hat : set.hasAt id stage = true) : id ∈ gone := by
  by_contra hkept
  -- Whoever claims the coordinate stays too, and its first line tells whether there is a matrix.
  obtain ⟨first, hfind, htype, hfirst⟩ := exists_find?_hasAt hid hat
  have hpays : (Varying.coord stage).payer set = some (first, stage) := by
    rw [Varying.payer, hfind, Option.map_some]
  have hfirstKept : first ∉ gone := h id stage hat hkept (.coord stage)
    (Varying.mem_neededBy.mpr ⟨List.mem_cons_self, hid⟩) (first, stage) hpays
  have hclaims := Generator.payer_coord_iff.mp hpays
  have hclaims' := (Generator.claimsCoord_without h hset htype hfirst hfirstKept).trans hclaims
  obtain ⟨p, hp, rfl, more, hvertex⟩ := Generator.exists_vertex_eq first htype
  have hsame := lines_vertex_eq h hset hlines hp hfirst hfirstKept
  rw [hvertex, hvertex, Generator.lines, Generator.lines, List.filterMap_append,
    List.filterMap_append] at hsame
  exact Generator.lines_coordVertex_ne hclaims hclaims' hanim
    (FeatureSet.hasAt_without_of_gone hgone) (List.append_inj_left hsame
      (Generator.length_coordVertex_without _ h hset htype hfirst hfirstKept))

/-- If the lines are the same, no color has lost its map. -/
theorem untinted_of_lines
    (hlines : ((builtin.without gone).draft format set).pixelLines =
      (builtin.draft format (set.without gone)).pixelLines)
    (hgone : FeatureType.diffuseMap.id ∈ gone)
    (hmap : set.hasAt FeatureType.diffuseMap.id stage = true)
    (hcolor : set.hasAt FeatureType.diffuseColor.id stage = true) :
    FeatureType.diffuseColor.id ∈ gone := by
  by_contra hkept
  have hp : (.diffuseColor, Generator.diffuseColor) ∈ Generator.builtin := by
    simp [Generator.builtin]
  exact Generator.lines_diffuseColor_ne hmap (FeatureSet.hasAt_without_of_gone hgone)
    (lines_pixel_eq hlines hp hcolor hkept)

/-- If the lines are the same, no lighting has lost the normal maps. -/
theorem unbumped_of_lines (h : set.Provides gone) (hset : set.Placed)
    (hlines : ((builtin.without gone).draft format set).vertexLines =
      (builtin.draft format (set.without gone)).vertexLines)
    (hgone : FeatureType.normalMap.id ∈ gone) (hmap : set.has FeatureType.normalMap.id = true)
    (hlight : set.has FeatureType.rtLighting.id = true) : FeatureType.rtLighting.id ∈ gone := by
  by_contra hkept
  obtain ⟨stage, hat⟩ := FeatureSet.has_iff.mp hlight
  have hp : (.rtLighting, Generator.rtLighting) ∈ Generator.builtin := by simp [Generator.builtin]
  have hnot : ¬ (set.without gone).has FeatureType.normalMap.id = true := fun hhas =>
    (FeatureSet.has_without.mp hhas).2 hgone
  have hlength := congrArg List.length (lines_vertex_eq h hset hlines hp hat hkept)
  simp only [Generator.rtLighting, hmap, if_neg hnot] at hlength
  exact absurd hlength (by decide)

end SameLines

/-- If the set provides for what stays, the program is the same exactly if it is closed. -/
theorem draft_without_iff (h : set.Provides gone) (hset : set.Placed) :
    (builtin.without gone).draft format set = builtin.draft format (set.without gone) ↔
      set.Closed gone := by
  constructor
  · intro hdraft
    have hvertex := congrArg Draft.vertexLines hdraft
    have hpixel := congrArg Draft.pixelLines hdraft
    exact ⟨h, fun hgone _ hanim _ hid hat => unmoved_of_lines h hset hvertex hgone hanim hid hat,
      fun hgone _ hmap hcolor => untinted_of_lines hpixel hgone hmap hcolor,
      fun hgone hmap hlight => unbumped_of_lines h hset hvertex hgone hmap hlight⟩
  · exact fun h => draft_without format h hset

/-- The entry that pays for a varying computes it. -/
theorem exists_writer (hset : set.Placed) {id : FeatureId} (hat : set.hasAt id stage = true)
    {v : Varying} (hv : v ∈ Varying.neededBy id stage) :
    ∃ e ∈ builtin.entries, ∃ own, v.payer set = some (e.type.id, own) ∧
      set.hasAt e.type.id own = true ∧ ∃ text,
        v.name ++ " = " ++ text ∈ Generator.lines (e.generator.vertex ⟨set, own, format⟩) := by
  obtain ⟨⟨payer, own⟩, hpays, hpayer, hneeds⟩ := Varying.payer_spec hset hat hv
  have hregistered := mem_order_of_types_varying v (Varying.mem_neededBy.mp hneeds).2
  obtain ⟨e, he, rfl⟩ := List.mem_map.mp hregistered
  obtain ⟨text, hline⟩ := Generator.writes_builtin _ (mem_builtin_of_mem_entries he)
    ⟨set, own, format⟩ v hneeds hpays
  exact ⟨e, he, own, hpays, hpayer, text, List.mem_filterMap.mpr ⟨_, hline, rfl⟩⟩

/-- The vertex half computes every varying that an entry needs. -/
theorem assigned_draft (hset : set.Placed) {id : FeatureId} (hat : set.hasAt id stage = true)
    {v : Varying} (hv : v ∈ Varying.neededBy id stage) :
    ∃ text, v.name ++ " = " ++ text ∈ (builtin.draft format set).vertexLines := by
  obtain ⟨e, he, own, -, hpayer, text, hline⟩ := exists_writer format hset hat hv
  refine ⟨text, ?_⟩
  rw [vertexLines_draft]
  exact List.mem_flatMap.mpr ⟨(e, own), mem_visits.mpr ⟨he, hpayer⟩, hline⟩

/-- The vertex half computes every varying whose payer stays. -/
theorem assigned_without (hset : set.Placed) {id : FeatureId}
    (hat : (set.without gone).hasAt id stage = true) {v : Varying}
    (hv : v ∈ Varying.neededBy id stage) (hpaid : ¬ Unpaid (Varying.payer set) gone v) :
    ∃ text, v.name ++ " = " ++ text ∈ ((builtin.without gone).draft format set).vertexLines := by
  obtain ⟨e, he, own, hpays, hpayer, text, hline⟩ :=
    exists_writer format hset (FeatureSet.hasAt_without.mp hat).1 hv
  have hkept : e.type.id ∉ gone := fun hgone => hpaid ⟨_, hpays, hgone⟩
  refine ⟨text, ?_⟩
  rw [vertexLines_draft, visits_without]
  exact List.mem_flatMap.mpr ⟨(e, own), mem_visits_without.mpr ⟨he, hpayer, hkept⟩, hline⟩

end Registry

end MaterialPipeline
