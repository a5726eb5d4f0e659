import MaterialPipeline.Proofs.Program.Agreement
import Mathlib.Algebra.BigOperators.Group.Finset.Basic
import Mathlib.Algebra.BigOperators.Group.Finset.Piecewise
import Mathlib.Tactic.Ring

/-!
# Proofs — Program — Price

What a set costs with the built-in generators, read off the stages that it serves, whatever those are.
The entries of a set share what they use, so one more entry can make others cheaper; but what they
share is still counted once, for whoever of them is there.

* `FeatureSet.served`: how many stages a set serves with some types.
* `FeatureSet.priceOf`: what a set costs, as a function of these numbers; it is monotone and
subadditive in them (`FeatureSet.priceOf_mono`, `FeatureSet.priceOf_le_add`).
* `FeatureSet.sum_coord`, `FeatureSet.sum_first`, `FeatureSet.sum_bump`, `FeatureSet.sum_tone`: what
entries that share pay together.
* `Registry.measure_builtin`: a set is measured to cost its price.
* **`Registry.measure_monotone_subadditive`**: more entries never cost less, and a union never costs
more than its parts.
-/

namespace MaterialPipeline

/-- One cost is within another in both counts. -/
instance : LE Cost :=
  ⟨fun c c' => c.textures ≤ c'.textures ∧ c.interpolators ≤ c'.interpolators⟩

namespace FeatureSet

variable {a b s : FeatureSet} {ids : List FeatureId} {stage : Option Nat}

/-! ### The stages that are served -/

/-- The stages that a set has entries for, of the types numbered `ids`. -/
def stages (s : FeatureSet) (ids : List FeatureId) : Finset (Option Nat) :=
  (ids.flatMap s.stagesOf).toFinset

/-- How many those are. -/
def served (s : FeatureSet) (ids : List FeatureId) : Nat :=
  (s.stages ids).card

theorem mem_stages : stage ∈ s.stages ids ↔ ∃ id ∈ ids, s.hasAt id stage = true := by
  simp only [stages, List.mem_toFinset, List.mem_flatMap, mem_stagesOf]

theorem stages_singleton (s : FeatureSet) (id : FeatureId) :
    s.stages [id] = (s.stagesOf id).toFinset := by
  rw [stages, List.flatMap_singleton]

theorem served_singleton (s : FeatureSet) (id : FeatureId) :
    s.served [id] = (s.stagesOf id).length := by
  rw [served, stages_singleton, List.toFinset_card_of_nodup (s.nodup_stagesOf id)]

theorem stages_append (s : FeatureSet) (ids ids' : List FeatureId) :
    s.stages (ids ++ ids') = s.stages ids ∪ s.stages ids' := by
  rw [stages, List.flatMap_append, List.toFinset_append, stages, stages]

theorem served_pos_iff (s : FeatureSet) (id : FeatureId) : 0 < s.served [id] ↔ s.has id = true := by
  rw [served, Finset.card_pos, has_iff]
  simp only [Finset.Nonempty, mem_stages, List.mem_singleton, exists_eq_left]

theorem served_mono (h : ∀ f ∈ a.entries, b.hasAt f.type.id f.stage = true)
    (ids : List FeatureId) : a.served ids ≤ b.served ids := by
  refine Finset.card_le_card fun stage hstage => ?_
  obtain ⟨id, hid, hat⟩ := mem_stages.mp hstage
  obtain ⟨f, hf, hident⟩ := hasAt_iff.mp hat
  cases hident
  exact mem_stages.mpr ⟨_, hid, h f hf⟩

theorem served_merge_le (a b : FeatureSet) (ids : List FeatureId) :
    (a.merge b).served ids ≤ a.served ids + b.served ids := by
  refine (Finset.card_le_card fun stage hstage => ?_).trans (Finset.card_union_le ..)
  obtain ⟨id, hid, hat⟩ := mem_stages.mp hstage
  rw [Finset.mem_union, mem_stages, mem_stages]
  exact (hasAt_merge.mp hat).imp (fun h => ⟨id, hid, h⟩) fun h => ⟨id, hid, h⟩

/-! ### What entries pay together -/

/-- Every entry pays the same. -/
theorem sum_const (s : FeatureSet) (id : FeatureId) (n : Nat) :
    ((s.stagesOf id).map fun _ => n).sum = n * s.served [id] := by
  rw [List.map_const', List.sum_replicate_nat, served_singleton, Nat.mul_comm]

/-- The first entry pays for all. -/
theorem sum_first (s : FeatureSet) (id : FeatureId) (n : Nat) :
    ((s.stagesOf id).map fun stage => if Generator.isFirst s id stage then n else 0).sum =
      n * min 1 (s.served [id]) := by
  have hnodup := s.nodup_stagesOf id
  rw [served_singleton]
  unfold Generator.isFirst
  cases hstages : s.stagesOf id with
  | nil => rfl
  | cons first rest =>
      rw [hstages] at hnodup
      have hrest : ∀ stage ∈ rest, (if (some first == some stage) = true then n else 0) = 0 := by
        intro stage hstage
        refine if_neg fun hsame => ?_
        rw [beq_iff_eq, Option.some.injEq] at hsame
        exact (List.nodup_cons.mp hnodup).1 (hsame ▸ hstage)
      rw [List.head?_cons, List.map_cons, List.sum_cons, List.map_congr_left hrest]
      simp

/-- For the coordinate of a stage, one of the types that sample at it pays. -/
theorem sum_coord (s : FeatureSet) :
    (Generator.coordTypes.map fun id =>
      ((s.stagesOf id).map fun stage => Generator.coordCost s stage id).sum).sum =
      s.served Generator.coordTypes := by
  let payer (stage : Option Nat) : Option FeatureId :=
    Generator.coordTypes.find? (s.hasAt · stage)
  have hpays (id : FeatureId) (hid : id ∈ Generator.coordTypes) :
      ((s.stagesOf id).map fun stage => Generator.coordCost s stage id).sum =
        ((s.stages Generator.coordTypes).filter (payer · = some id)).card := by
    rw [← List.sum_toFinset _ (s.nodup_stagesOf id), Finset.card_filter]
    have hcost (stage : Option Nat) :
        Generator.coordCost s stage id = if payer stage = some id then 1 else 0 := by
      simp only [Generator.coordCost, Generator.claimsCoord, beq_iff_eq, payer]
    simp only [hcost]
    refine Finset.sum_subset (fun stage hstage => ?_) fun stage _ hnot => if_neg fun hpays => ?_
    · rw [List.mem_toFinset, mem_stagesOf] at hstage
      exact mem_stages.mpr ⟨id, hid, hstage⟩
    · rw [List.mem_toFinset, mem_stagesOf] at hnot
      exact hnot (List.find?_some (p := (s.hasAt · stage)) hpays)
  have hpayer : ∀ stage ∈ s.stages Generator.coordTypes,
      payer stage ∈ (Generator.coordTypes.map some).toFinset := by
    intro stage hstage
    obtain ⟨id, hid, hat⟩ := mem_stages.mp hstage
    obtain ⟨first, hfirst, hmem, -⟩ := exists_find?_hasAt hid hat
    rw [List.mem_toFinset]
    exact List.mem_map.mpr ⟨first, hmem, hfirst.symm⟩
  rw [served, Finset.card_eq_sum_card_fiberwise hpayer, List.sum_toFinset _ (by decide), List.map_map]
  exact congrArg List.sum (List.map_congr_left hpays)

/-- A normal map pays for its sampler, unless there is a parallax map, which does. -/
theorem sum_bump (s : FeatureSet) :
    s.served [FeatureType.parallax.id] + ((s.stagesOf FeatureType.normalMap.id).map fun stage =>
      if s.hasAt FeatureType.parallax.id stage then 0 else 1).sum =
      s.served [FeatureType.normalMap.id, FeatureType.parallax.id] := by
  have hpays (stage : Option Nat) : (if s.hasAt FeatureType.parallax.id stage then 0 else 1) =
      if stage ∉ s.stages [FeatureType.parallax.id] then 1 else 0 := by
    simp only [mem_stages, List.mem_singleton, exists_eq_left, ite_not]
  have hunion : s.stages [FeatureType.normalMap.id, FeatureType.parallax.id] =
      s.stages [FeatureType.normalMap.id] ∪ s.stages [FeatureType.parallax.id] :=
    s.stages_append [_] [_]
  simp only [hpays]
  rw [← List.sum_toFinset _ (s.nodup_stagesOf _), ← stages_singleton, ← Finset.card_filter,
    ← Finset.sdiff_eq_filter, Nat.add_comm, served, Finset.card_sdiff_add_card, served, hunion]

/-- The first tone map pays for the coordinate, unless there is a light map, which does. -/
theorem sum_tone (s : FeatureSet) :
    s.served [FeatureType.lightMap.id] + ((s.stagesOf FeatureType.toneMap.id).map fun stage =>
      if (!s.has FeatureType.lightMap.id && Generator.isFirst s FeatureType.toneMap.id stage) = true
      then 1 else 0).sum =
      max (s.served [FeatureType.lightMap.id]) (min 1 (s.served [FeatureType.toneMap.id])) := by
  have hpos := s.served_pos_iff FeatureType.lightMap.id
  cases hlight : s.has FeatureType.lightMap.id with
  | true =>
      have hlit := hpos.mpr hlight
      simp only [Bool.not_true, Bool.false_and, Bool.false_eq_true, if_false]
      rw [sum_const]
      omega
  | false =>
      have hunlit := mt hpos.mp (Bool.eq_false_iff.mp hlight)
      simp only [Bool.not_false, Bool.true_and]
      rw [sum_first]
      omega

/-! ### The price -/

/-- The types of which every stage takes one texture slot, however many of them serve it. -/
def slotGroups : List (List FeatureId) :=
  [[FeatureType.normalMap.id, FeatureType.parallax.id], [FeatureType.diffuseMap.id],
    [FeatureType.overlayMap.id], [FeatureType.detailMap.id], [FeatureType.specularMap.id],
    [FeatureType.lightMap.id], [FeatureType.toneMap.id], [FeatureType.cubeMap.id]]

/-- The types that take interpolators for every stage, and how many. -/
def stageInterpolators : List (List FeatureId × Nat) :=
  [(Generator.coordTypes, 1), ([FeatureType.vertLit.id], 1), ([FeatureType.rtLighting.id], 2),
    ([FeatureType.cubeMap.id], 1), ([FeatureType.prePassConditioner.id], 1),
    ([FeatureType.depthOut.id], 1)]

/-- The types that take interpolators once for the set, and how many. -/
def setInterpolators : List (FeatureId × Nat) :=
  [(FeatureType.parallax.id, 1), (FeatureType.normalMap.id, Generator.tangentFrameInterpolators)]

/-- What a set costs that serves so many stages with some types. -/
def priceOf (served : List FeatureId → Nat) : Cost where
  textures := (slotGroups.map served).sum
  interpolators :=
    (stageInterpolators.map fun (ids, n) => n * served ids).sum
      + (setInterpolators.map fun (id, n) => n * min 1 (served [id])).sum
      + max (served [FeatureType.lightMap.id]) (min 1 (served [FeatureType.toneMap.id]))

/-- What a set costs. -/
def price (s : FeatureSet) : Cost :=
  priceOf s.served

theorem sum_map_le_add {β : Type} {f g k : β → Nat} (h : ∀ x, f x ≤ g x + k x) (l : List β) :
    (l.map f).sum ≤ (l.map g).sum + (l.map k).sum := by
  rw [← List.sum_map_add]
  exact List.sum_le_sum fun x _ => h x

theorem priceOf_le_add {m n k : List FeatureId → Nat} (h : ∀ ids, k ids ≤ m ids + n ids) :
    priceOf k ≤ .sum [priceOf m, priceOf n] := by
  have hstage := sum_map_le_add (fun x : List FeatureId × Nat =>
    (Nat.mul_le_mul_left x.2 (h x.1)).trans_eq (Nat.mul_add ..)) stageInterpolators
  have honce (id : FeatureId) : min 1 (k [id]) ≤ min 1 (m [id]) + min 1 (n [id]) := by
    have := h [id]
    omega
  have hset := sum_map_le_add (fun x : FeatureId × Nat =>
    (Nat.mul_le_mul_left x.2 (honce x.1)).trans_eq (Nat.mul_add ..)) setInterpolators
  have hlight := h [FeatureType.lightMap.id]
  have htone := h [FeatureType.toneMap.id]
  refine ⟨sum_map_le_add h slotGroups, ?_⟩
  simp only [priceOf, Cost.sum, List.map_cons, List.map_nil, List.sum_cons, List.sum_nil]
  omega

theorem priceOf_mono {m n : List FeatureId → Nat} (h : ∀ ids, m ids ≤ n ids) :
    priceOf m ≤ priceOf n :=
  priceOf_le_add (n := fun _ => 0) h

/-! ### Stages numbered in a byte -/

/-- The stages are numbered in a byte. -/
def InBytes (s : FeatureSet) : Prop :=
  ∀ f ∈ s.entries, ∀ n ∈ f.stage, n < 256

instance (s : FeatureSet) : Decidable s.InBytes :=
  inferInstanceAs (Decidable (∀ f ∈ s.entries, ∀ n ∈ f.stage, n < 256))

theorem InBytes.merge (ha : a.InBytes) (hb : b.InBytes) : (a.merge b).InBytes := fun f hf =>
  (mem_of_mem_merge hf).elim (ha f) (hb f)

/-- There are 256 stages, and no stage. -/
theorem InBytes.served_le (hs : s.InBytes) (ids : List FeatureId) : s.served ids ≤ 257 := by
  have hsub : s.stages ids ⊆ (Finset.range 256).image some ∪ {none} := by
    intro stage hstage
    obtain ⟨id, -, hat⟩ := mem_stages.mp hstage
    obtain ⟨f, hf, hident⟩ := hasAt_iff.mp hat
    cases hident
    rw [Finset.mem_union]
    cases hn : f.stage with
    | none => exact .inr (Finset.mem_singleton_self none)
    | some n => exact .inl (Finset.mem_image_of_mem some (Finset.mem_range.mpr (hs f hf n hn)))
  calc s.served ids
      ≤ ((Finset.range 256).image some ∪ {none}).card := Finset.card_le_card hsub
    _ ≤ ((Finset.range 256).image some).card + ({none} : Finset (Option Nat)).card :=
        Finset.card_union_le ..
    _ ≤ (Finset.range 256).card + ({none} : Finset (Option Nat)).card :=
        Nat.add_le_add_right Finset.card_image_le _
    _ = 257 := by rw [Finset.card_range, Finset.card_singleton]

theorem InBytes.bounded (hs : s.InBytes) : s.price.Bounded := by
  have hmost : priceOf (fun _ => 257) = ⟨2056, 2060⟩ := by decide +kernel
  have hlimit : UInt32.size = 2 ^ 32 := rfl
  obtain ⟨htextures, hinterpolators⟩ := hmost ▸ priceOf_mono hs.served_le
  dsimp only at htextures hinterpolators
  rw [Cost.Bounded, price, hlimit]
  omega

end FeatureSet

namespace Registry

variable {r : Registry} {set : FeatureSet}

/-- What the entries cost, type by type. -/
theorem sum_costs (r : Registry) (set : FeatureSet) (count : Cost → Nat) :
    ((r.costs set).map count).sum = (r.entries.map fun e =>
      ((set.stagesOf e.type.id).map fun stage => count (e.generator.cost set stage)).sum).sum := by
  rw [costs, visits, List.map_map, List.map_flatMap, List.flatMap_def, List.sum_flatten,
    List.map_map]
  simp only [List.map_map, Function.comp_def]

/-- The entries of a set cost its price together. -/
theorem total_builtin (set : FeatureSet) : builtin.total set = set.price := by
  have hbump := set.sum_bump
  have htone := set.sum_tone
  have hcoord := set.sum_coord
  rw [FeatureSet.price, FeatureSet.priceOf, FeatureSet.slotGroups, FeatureSet.stageInterpolators,
    FeatureSet.setInterpolators, total, Cost.sum, Cost.mk.injEq, sum_costs, sum_costs,
    entries_builtin, List.map_map, List.map_map]
  -- The sums over the types, and then for each type what its entries pay.
  simp only [Generator.coordTypes, Generator.builtin, List.map_cons, List.map_nil, List.sum_cons,
    List.sum_nil, Function.comp_apply] at hcoord ⊢
  simp only [Generator.vertTransform, Generator.texAnim, Generator.parallax, Generator.diffuseMap,
    Generator.overlayMap, Generator.detailMap, Generator.diffuseColor, Generator.normalMap,
    Generator.specularMap, Generator.alphaTest, Generator.vertLit, Generator.lightMap,
    Generator.toneMap, Generator.rtLighting, Generator.pixSpecular, Generator.cubeMap,
    Generator.fog, Generator.visibility, Generator.glowMask, Generator.prePassConditioner,
    Generator.depthOut, Generator.hdrOut, Generator.marker, Generator.mapCost, Cost.none,
    Generator.tangentFrameInterpolators,
    List.sum_map_add, FeatureSet.sum_const, FeatureSet.sum_first]
  constructor
  · rw [← hbump]
    ring
  · rw [← hcoord, ← htone]
    ring

theorem measure_builtin (h : set.InBytes) : builtin.measure set = .ok set.price := by
  rw [measure_of_bounded (total_builtin set ▸ h.bounded), total_builtin]

/-- **Measuring is monotone and subadditive**, whatever the entries share: a set costs no less than
what it has the entries of, and a union no more than its parts together. -/
theorem measure_monotone_subadditive {a b : FeatureSet} (ha : a.InBytes) (hb : b.InBytes) :
    ∃ ca cb cu : Cost, builtin.measure a = .ok ca ∧ builtin.measure b = .ok cb ∧
      builtin.measure (a.merge b) = .ok cu ∧
      ((∀ f ∈ a.entries, b.hasAt f.type.id f.stage = true) → ca ≤ cb) ∧ cu ≤ .sum [ca, cb] :=
  ⟨_, _, _, measure_builtin ha, measure_builtin hb, measure_builtin (ha.merge hb),
    fun h => FeatureSet.priceOf_mono (FeatureSet.served_mono h),
    FeatureSet.priceOf_le_add (FeatureSet.served_merge_le a b)⟩

/-- A tone map that takes the coordinate of a light map, and a normal map that takes the sampler and
the coordinate of a parallax map. -/
theorem measure_monotone_subadditive_of_shared :
    let a := FeatureSet.ofList [⟨.lightMap, none⟩, ⟨.normalMap, some 0⟩]
    let b := FeatureSet.ofList [⟨.toneMap, some 0⟩, ⟨.parallax, some 0⟩]
    ∃ ca cb cu : Cost, builtin.measure a = .ok ca ∧ builtin.measure b = .ok cb ∧
      builtin.measure (a.merge b) = .ok cu ∧ ca ≤ cu ∧ cu ≤ .sum [ca, cb] ∧
      [ca, cb, cu] = [⟨2, 5⟩, ⟨2, 3⟩, ⟨3, 6⟩] := by
  intro a b
  have ha : a.InBytes := by decide +kernel
  have hb : b.InBytes := by decide +kernel
  obtain ⟨ca, cb, cu, hca, hcb, hcu, -, hunion⟩ := measure_monotone_subadditive ha hb
  obtain ⟨ca', cu', _, hca', hcu', -, hmono, -⟩ := measure_monotone_subadditive ha (ha.merge hb)
  cases hca.symm.trans hca'
  cases hcu.symm.trans hcu'
  refine ⟨ca, cb, cu, hca, hcb, hcu, hmono (by decide +kernel), hunion, ?_⟩
  have hmeasured : [builtin.measure a, builtin.measure b, builtin.measure (a.merge b)] =
      [.ok ⟨2, 5⟩, .ok ⟨2, 3⟩, .ok ⟨3, 6⟩] := by decide +kernel
  rw [hca, hcb, hcu] at hmeasured
  simpa using hmeasured

end Registry

end MaterialPipeline
