import MaterialPipeline.Proofs.Feature.Agreement
import MaterialPipeline.Proofs.Feature.Constants

/-!
# Proofs — Feature — Without

What the built-in generators write for an entry of a set, when the entries of some types go from the
set.  The generators look at the whole set to see who claims a coordinate, who comes first and what
else serves a stage, so what they write may change although the entry itself stays.

* `FeatureSet.without`: what stays of a set.
* `FeatureSet.Provides`: whatever an entry that stays needs is paid for by one that stays.  Then
  the same entry pays for it afterwards (`Varying.payer_without`).
* `FeatureSet.Closed`: in addition, no entry that stays words its lines after one that goes.  Then
  every entry that stays contributes what it did before (`Generator.vertex_without`,
  `Generator.pixel_without`).
-/

namespace MaterialPipeline

variable {set : FeatureSet} {gone : List FeatureId} {id : FeatureId} {stage : Option Nat}

namespace FeatureSet

/-- The set without the entries of some types. -/
def without (set : FeatureSet) (gone : List FeatureId) : FeatureSet :=
  set.filter (·.type.id ∉ gone)

theorem hasAt_without :
    (set.without gone).hasAt id stage = true ↔ set.hasAt id stage = true ∧ id ∉ gone := by
  simp only [hasAt_iff, without, filter, List.mem_filter, decide_eq_true_eq]
  constructor
  · rintro ⟨f, ⟨hf, hkept⟩, e⟩
    exact ⟨⟨f, hf, e⟩, (Prod.mk.inj e).1 ▸ hkept⟩
  · rintro ⟨⟨f, hf, e⟩, hkept⟩
    exact ⟨f, ⟨hf, (Prod.mk.inj e).1.symm ▸ hkept⟩, e⟩

theorem hasAt_without_of_kept (h : id ∉ gone) :
    (set.without gone).hasAt id stage = set.hasAt id stage :=
  Bool.eq_iff_iff.mpr (hasAt_without.trans (and_iff_left h))

theorem hasAt_without_of_gone (h : id ∈ gone) : (set.without gone).hasAt id stage = false :=
  Bool.eq_false_iff.mpr fun hat => (hasAt_without.mp hat).2 h

theorem has_without : (set.without gone).has id = true ↔ set.has id = true ∧ id ∉ gone := by
  simp only [has_iff, hasAt_without, exists_and_right]

theorem stagesOf_without (h : id ∉ gone) :
    (set.without gone).stagesOf id = set.stagesOf id := by
  rw [stagesOf, stagesOf, without, filter, List.filter_filter]
  refine congrArg (List.map _) (List.filter_congr fun f _ => ?_)
  by_cases e : f.type.id = id
  · simp [e, h]
  · simp [e]

theorem Placed.without (h : set.Placed) (gone : List FeatureId) : (set.without gone).Placed :=
  fun id stage hat => h id stage (hasAt_without.mp hat).1

/-- Whatever a remaining entry needs, a remaining one pays for. -/
def Provides (set : FeatureSet) (gone : List FeatureId) : Prop :=
  ∀ id stage, set.hasAt id stage = true → id ∉ gone →
    ∀ v ∈ Varying.neededBy id stage, ∀ w, v.payer set = some w → w.1 ∉ gone

/-- What remains of a set is written as if the rest had not been there. -/
structure Closed (set : FeatureSet) (gone : List FeatureId) : Prop where
  /-- Whatever a remaining entry needs, a remaining one pays for. -/
  provides : set.Provides gone
  /-- No coordinate remains that a texture matrix was applied to, if the matrix goes. -/
  unmoved : FeatureType.texAnim.id ∈ gone → ∀ stage, set.hasAt FeatureType.texAnim.id stage = true →
    ∀ id ∈ Generator.coordTypes, set.hasAt id stage = true → id ∈ gone
  /-- No color remains that tinted a map, if the map goes. -/
  untinted : FeatureType.diffuseMap.id ∈ gone → ∀ stage,
    set.hasAt FeatureType.diffuseMap.id stage = true →
      set.hasAt FeatureType.diffuseColor.id stage = true → FeatureType.diffuseColor.id ∈ gone
  /-- No lighting remains that left the normal to normal maps, if they go. -/
  unbumped : FeatureType.normalMap.id ∈ gone → set.has FeatureType.normalMap.id = true →
    set.has FeatureType.rtLighting.id = true → FeatureType.rtLighting.id ∈ gone

end FeatureSet

/-! ### Payers -/

/-- A payer that stays still pays. -/
theorem Varying.payer_without {v : Varying} {w : FeatureId × Option Nat}
    (h : v.payer set = some w) (hkept : w.1 ∉ gone) : v.payer (set.without gone) = some w := by
  cases v with
  | coord own =>
      obtain ⟨first, hfind, rfl⟩ := Option.map_eq_some_iff.mp h
      -- Those before the first were not there, and are not there now.
      obtain ⟨hfirst, before, after, hsplit, hnone⟩ := List.find?_eq_some_iff_append.mp hfind
      have hfind' : Generator.coordTypes.find? ((set.without gone).hasAt · own) = some first := by
        refine List.find?_eq_some_iff_append.mpr ⟨?_, before, after, hsplit, fun id hid => ?_⟩
        · rw [FeatureSet.hasAt_without_of_kept hkept, hfirst]
        · have hnot := hnone id hid
          simp only [Bool.not_eq_true', Bool.eq_false_iff] at hnot ⊢
          exact fun hat => hnot (FeatureSet.hasAt_without.mp hat).1
      rw [payer, hfind', Option.map_some]
  | eye | frame row =>
      obtain ⟨first, hfirst, rfl⟩ := Option.map_eq_some_iff.mp h
      rw [payer, FeatureSet.stagesOf_without hkept, hfirst, Option.map_some]
  | lightCoord =>
      rw [payer] at h
      split at h
      next hmap =>
        obtain rfl := Option.some.inj h
        rw [payer, if_pos (FeatureSet.has_without.mpr ⟨hmap, hkept⟩)]
      next hmap =>
        obtain ⟨first, hfirst, rfl⟩ := Option.map_eq_some_iff.mp h
        rw [payer, if_neg fun hat => hmap (FeatureSet.has_without.mp hat).1,
          FeatureSet.stagesOf_without hkept, hfirst, Option.map_some]
  | vertexColor | position | normal | reflection own | normalDepth | depth => exact h

/-- If the payers stay, the payer of what a remaining entry needs is the same. -/
theorem FeatureSet.Provides.payer_eq (h : set.Provides gone) (hset : set.Placed)
    (hat : set.hasAt id stage = true) (hkept : id ∉ gone) {v : Varying}
    (hv : v ∈ Varying.neededBy id stage) : v.payer (set.without gone) = v.payer set := by
  obtain ⟨w, hpays, -, -⟩ := Varying.payer_spec hset hat hv
  rw [hpays, Varying.payer_without hpays (h id stage hat hkept v hv w hpays)]

namespace Generator

theorem isFirst_without (hkept : id ∉ gone) :
    isFirst (set.without gone) id stage = isFirst set id stage := by
  rw [isFirst, isFirst, FeatureSet.stagesOf_without hkept]

/-- If the payers stay, a remaining map claims its coordinate if it did. -/
theorem claimsCoord_without (h : set.Provides gone) (hset : set.Placed)
    (hid : id ∈ coordTypes) (hat : set.hasAt id stage = true) (hkept : id ∉ gone) :
    claimsCoord (set.without gone) stage id = claimsCoord set stage id := by
  have hneeds : Varying.coord stage ∈ Varying.neededBy id stage :=
    Varying.mem_neededBy.mpr ⟨List.mem_cons_self, hid⟩
  rw [Bool.eq_iff_iff, ← payer_coord_iff, ← payer_coord_iff,
    h.payer_eq hset hat hkept hneeds]

variable {format : VertexFormat}

/-- What an entry of a closed set sees of its texture matrix. -/
theorem hasAt_texAnim_without (h : set.Closed gone) (hid : id ∈ coordTypes)
    (hat : set.hasAt id stage = true) (hkept : id ∉ gone) :
    (set.without gone).hasAt FeatureType.texAnim.id stage =
      set.hasAt FeatureType.texAnim.id stage := by
  by_cases hgone : FeatureType.texAnim.id ∈ gone
  · rw [FeatureSet.hasAt_without_of_gone hgone, eq_comm, Bool.eq_false_iff]
    exact fun hanim => hkept (h.unmoved hgone stage hanim id hid hat)
  · exact FeatureSet.hasAt_without_of_kept hgone

theorem hasAt_diffuseMap_without (h : set.Closed gone)
    (hat : set.hasAt FeatureType.diffuseColor.id stage = true)
    (hkept : FeatureType.diffuseColor.id ∉ gone) :
    (set.without gone).hasAt FeatureType.diffuseMap.id stage =
      set.hasAt FeatureType.diffuseMap.id stage := by
  by_cases hgone : FeatureType.diffuseMap.id ∈ gone
  · rw [FeatureSet.hasAt_without_of_gone hgone, eq_comm, Bool.eq_false_iff]
    exact fun hmap => hkept (h.untinted hgone stage hmap hat)
  · exact FeatureSet.hasAt_without_of_kept hgone

theorem has_normalMap_without (h : set.Closed gone)
    (hat : set.hasAt FeatureType.rtLighting.id stage = true)
    (hkept : FeatureType.rtLighting.id ∉ gone) :
    (set.without gone).has FeatureType.normalMap.id = set.has FeatureType.normalMap.id := by
  rw [Bool.eq_iff_iff, FeatureSet.has_without, and_iff_left_iff_imp]
  exact fun hhas hgone => hkept (h.unbumped hgone hhas (FeatureSet.has_iff.mpr ⟨stage, hat⟩))

/-! ### What remaining entries contribute -/

theorem coordVertex_without (format : VertexFormat) (h : set.Closed gone) (hset : set.Placed)
    (hid : id ∈ coordTypes) (hat : set.hasAt id stage = true) (hkept : id ∉ gone) :
    coordVertex ⟨set.without gone, stage, format⟩ id = coordVertex ⟨set, stage, format⟩ id := by
  simp only [coordVertex, claimsCoord_without h.provides hset hid hat hkept,
    hasAt_texAnim_without h hid hat hkept]
  rfl

/-- In a closed set, remaining entries contribute to the vertex half what they did. -/
theorem vertex_without (h : set.Closed gone) (hset : set.Placed) : ∀ p ∈ builtin,
    set.hasAt p.1.id stage = true → p.1.id ∉ gone →
      p.2.vertex ⟨set.without gone, stage, format⟩ = p.2.vertex ⟨set, stage, format⟩ := by
  simp only [builtin, List.forall_mem_cons, List.not_mem_nil, false_imp_iff, implies_true, and_true]
  have hcoord (id : FeatureId) (hid : id ∈ coordTypes) (hat : set.hasAt id stage = true)
      (hkept : id ∉ gone) := coordVertex_without format h hset hid hat hkept
  refine ⟨fun _ _ => rfl, fun _ _ => rfl, fun hat hkept => ?parallax, hcoord _ (by decide),
    hcoord _ (by decide), hcoord _ (by decide), fun _ _ => rfl, fun hat hkept => ?normalMap,
    hcoord _ (by decide), fun _ _ => rfl, fun _ _ => rfl, fun _ _ => rfl, fun _ _ => rfl,
    fun hat hkept => ?rtLighting, fun _ _ => rfl, fun _ _ => rfl, fun _ _ => rfl, fun _ _ => rfl,
    fun _ _ => rfl, fun _ _ => rfl, fun _ _ => rfl, fun _ _ => rfl, fun _ _ => rfl, fun _ _ => rfl⟩
  case parallax =>
    simp only [parallax, hcoord _ (by decide) hat hkept]
  case normalMap =>
    simp only [normalMap, hcoord _ (by decide) hat hkept, isFirst_without hkept]
  case rtLighting =>
    simp only [rtLighting, has_normalMap_without h hat hkept]

/-- In a closed set, remaining entries contribute to the pixel half what they did. -/
theorem pixel_without (h : set.Closed gone) : ∀ p ∈ builtin,
    set.hasAt p.1.id stage = true → p.1.id ∉ gone →
      p.2.pixel ⟨set.without gone, stage, format⟩ = p.2.pixel ⟨set, stage, format⟩ := by
  simp only [builtin, List.forall_mem_cons, List.not_mem_nil, false_imp_iff, implies_true, and_true]
  refine ⟨fun _ _ => rfl, fun _ _ => rfl, fun _ _ => rfl, fun _ _ => rfl, fun _ _ => rfl,
    fun _ _ => rfl, fun hat hkept => ?diffuseColor, fun _ _ => rfl, fun _ _ => rfl, fun _ _ => rfl,
    fun _ _ => rfl, fun _ _ => rfl, fun _ _ => rfl, fun _ _ => rfl, fun _ _ => rfl,
    fun _ _ => rfl, fun _ _ => rfl, fun _ _ => rfl, fun _ _ => rfl, fun _ _ => rfl,
    fun _ _ => rfl, fun _ _ => rfl, fun _ _ => rfl, fun _ _ => rfl⟩
  simp only [diffuseColor, hasAt_diffuseMap_without h hat hkept]
  rfl

/-! ### What does not depend on the rest of a set -/

/-- The constants of the vertex half are the same in every set. -/
theorem uniforms_vertex_congr (set' : FeatureSet) : ∀ p ∈ builtin,
    (p.2.vertex ⟨set, stage, format⟩).filterMap (·.uniform?) =
      (p.2.vertex ⟨set', stage, format⟩).filterMap (·.uniform?) := by
  simp only [builtin, List.forall_mem_cons, List.not_mem_nil, false_imp_iff, implies_true, and_true]
  have hmap (id : FeatureId) : (coordVertex ⟨set, stage, format⟩ id).filterMap (·.uniform?) =
      (coordVertex ⟨set', stage, format⟩ id).filterMap (·.uniform?) := by
    rw [uniforms_coordVertex, uniforms_coordVertex]
  refine ⟨rfl, rfl, ?parallax, hmap _, hmap _, hmap _, rfl, ?normalMap, hmap _, rfl, rfl, rfl, rfl,
    ?rtLighting, rfl, rfl, rfl, rfl, rfl, rfl, rfl, rfl, rfl, rfl⟩
  case parallax =>
    simp only [parallax, List.filterMap_append, hmap]
  case normalMap =>
    simp only [normalMap, List.filterMap_append, hmap]
    split <;> split <;> rfl
  case rtLighting =>
    simp only [rtLighting]
    split <;> split <;> rfl

/-- The constants of the pixel half are the same in every set. -/
theorem uniforms_pixel_congr (set' : FeatureSet) : ∀ p ∈ builtin,
    (p.2.pixel ⟨set, stage, format⟩).filterMap (·.uniform?) =
      (p.2.pixel ⟨set', stage, format⟩).filterMap (·.uniform?) := by
  simp only [builtin, List.forall_mem_cons, List.not_mem_nil, false_imp_iff, implies_true, and_true]
  and_intros <;> rfl

/-- Every map declares the coordinate that it samples at, whoever computes it. -/
theorem declares_coord : ∀ p ∈ builtin, p.1.id ∈ coordTypes → ∀ c,
    (Varying.coord c.stage).name ∈ p.2.varyingNames c := by
  simp only [builtin, List.forall_mem_cons, List.not_mem_nil, false_imp_iff, implies_true, and_true]
  have hpixel {g : Generator} {c : Scope}
      (h : (g.pixel c).filterMap (·.varying?) = [(Varying.coord c.stage).name]) :
      (Varying.coord c.stage).name ∈ g.varyingNames c := by
    rw [varyingNames, h]
    exact List.mem_append_right _ (List.mem_singleton_self _)
  and_intros <;> first
    | exact fun _ _ => hpixel rfl
    | exact fun h => absurd h (by decide)

/-- The light map and the tone maps declare their coordinate, whoever pays for it. -/
theorem declares_lightCoord : ∀ p ∈ builtin, p.1.id ∈ Varying.lightCoord.types → ∀ c,
    Varying.lightCoord.name ∈ p.2.varyingNames c := by
  simp only [builtin, List.forall_mem_cons, List.not_mem_nil, false_imp_iff, implies_true, and_true]
  and_intros <;> first
    | exact fun _ _ => List.mem_singleton_self _
    | exact fun h => absurd h (by decide)

/-! ### How many lines -/

/-- The lines of several contributions. -/
def lines (emissions : List Emission) : List String :=
  emissions.filterMap (·.line?)

theorem length_lines_coordVertex (c : Scope) :
    (lines (coordVertex c id)).length = if claimsCoord c.features c.stage id then 1 else 0 := by
  unfold coordVertex
  cases claimsCoord c.features c.stage id with
  | false => rfl
  | true =>
      rw [if_neg (by decide), if_pos rfl]
      split <;> rfl

theorem length_coordVertex_without (format : VertexFormat) (h : set.Provides gone)
    (hset : set.Placed) (hid : id ∈ coordTypes) (hat : set.hasAt id stage = true)
    (hkept : id ∉ gone) :
    (lines (coordVertex ⟨set, stage, format⟩ id)).length =
      (lines (coordVertex ⟨set.without gone, stage, format⟩ id)).length := by
  rw [length_lines_coordVertex, length_lines_coordVertex,
    claimsCoord_without h hset hid hat hkept]

/-- If the payers stay, remaining entries write no fewer lines into the vertex half than before. -/
theorem length_vertex_without (h : set.Provides gone) (hset : set.Placed) : ∀ p ∈ builtin,
    set.hasAt p.1.id stage = true → p.1.id ∉ gone →
      (lines (p.2.vertex ⟨set, stage, format⟩)).length ≤
        (lines (p.2.vertex ⟨set.without gone, stage, format⟩)).length := by
  simp only [builtin, List.forall_mem_cons, List.not_mem_nil, false_imp_iff, implies_true, and_true]
  have hcoord (id : FeatureId) (hid : id ∈ coordTypes) (hat : set.hasAt id stage = true)
      (hkept : id ∉ gone) := length_coordVertex_without format h hset hid hat hkept
  have hmap (id : FeatureId) (hid : id ∈ coordTypes) (hat : set.hasAt id stage = true)
      (hkept : id ∉ gone) := (hcoord id hid hat hkept).le
  refine ⟨fun _ _ => le_rfl, fun _ _ => le_rfl, fun hat hkept => ?parallax, hmap _ (by decide),
    hmap _ (by decide), hmap _ (by decide), fun _ _ => le_rfl, fun hat hkept => ?normalMap,
    hmap _ (by decide), fun _ _ => le_rfl, fun _ _ => le_rfl, fun _ _ => le_rfl,
    fun _ _ => le_rfl, fun _ _ => ?rtLighting, fun _ _ => le_rfl, fun _ _ => le_rfl,
    fun _ _ => le_rfl, fun _ _ => le_rfl, fun _ _ => le_rfl, fun _ _ => le_rfl,
    fun _ _ => le_rfl, fun _ _ => le_rfl, fun _ _ => le_rfl, fun _ _ => le_rfl⟩
  case parallax =>
    simp only [parallax, lines, List.filterMap_append, List.length_append]
    exact Nat.add_le_add_right (hmap _ (by decide) hat hkept) _
  case normalMap =>
    simp only [normalMap, lines, List.filterMap_append, List.length_append, isFirst_without hkept]
    exact Nat.add_le_add_right (hmap _ (by decide) hat hkept) _
  case rtLighting =>
    -- The line that only a set without normal maps has may be there now.
    simp only [rtLighting]
    by_cases hbumped : (set.without gone).has FeatureType.normalMap.id = true
    · rw [if_pos hbumped, if_pos (FeatureSet.has_without.mp hbumped).1]
    · rw [if_neg hbumped]
      split <;> decide

theorem length_pixel_without : ∀ p ∈ builtin,
    (lines (p.2.pixel ⟨set, stage, format⟩)).length =
      (lines (p.2.pixel ⟨set.without gone, stage, format⟩)).length := by
  simp only [builtin, List.forall_mem_cons, List.not_mem_nil, false_imp_iff, implies_true, and_true]
  and_intros <;> rfl

/-! ### How lines differ -/

variable {set' : FeatureSet}

/-- A color words its line after the map. -/
theorem lines_diffuseColor_ne (hmap : set.hasAt FeatureType.diffuseMap.id stage = true)
    (hnot : set'.hasAt FeatureType.diffuseMap.id stage = false) :
    lines (diffuseColor.pixel ⟨set, stage, format⟩) ≠
      lines (diffuseColor.pixel ⟨set', stage, format⟩) := by
  intro h
  simp only [diffuseColor, hmap, hnot] at h
  have hlength := congrArg String.length (List.head_eq_of_cons_eq (show [_] = [_] from h))
  simp [Scope.indexed, toString] at hlength
  exact absurd hlength (by decide)

/-- The line of a coordinate differs with a texture matrix and without. -/
theorem lines_coordVertex_ne (hclaims : claimsCoord set stage id = true)
    (hclaims' : claimsCoord set' stage id = true)
    (hanim : set.hasAt FeatureType.texAnim.id stage = true)
    (hnot : set'.hasAt FeatureType.texAnim.id stage = false) :
    lines (coordVertex ⟨set, stage, format⟩ id) ≠
      lines (coordVertex ⟨set', stage, format⟩ id) := by
  intro h
  simp only [coordVertex, hclaims, hclaims', hanim, hnot] at h
  have hlength := congrArg String.length (List.head_eq_of_cons_eq (show [_] = [_] from h))
  simp [coordName, Scope.indexed, toString] at hlength
  have hlonger : " = uv0;".length < " * vec4<f32>(uv0, 0.0, 1.0))).xy;".length := by decide
  omega

/-- The maps that sample at a coordinate begin with it. -/
theorem exists_vertex_eq : ∀ id ∈ coordTypes, ∃ p ∈ builtin, p.1.id = id ∧
    ∃ more : Scope → List Emission, ∀ c, p.2.vertex c = coordVertex c id ++ more c := by
  simp only [coordTypes, List.forall_mem_cons, List.not_mem_nil, false_imp_iff, implies_true,
    and_true]
  have hmap (t : FeatureType) (g : Generator) (hp : (t, g) ∈ builtin)
      (hvertex : g.vertex = (coordVertex · t.id)) : ∃ p ∈ builtin, p.1.id = t.id ∧
        ∃ more : Scope → List Emission, ∀ c, p.2.vertex c = coordVertex c t.id ++ more c :=
    ⟨(t, g), hp, rfl, fun _ => [], fun c => by rw [hvertex, List.append_nil]⟩
  exact ⟨⟨(.parallax, parallax), by simp [builtin], rfl, _, fun _ => rfl⟩,
    hmap .diffuseMap diffuseMap (by simp [builtin]) rfl,
    hmap .overlayMap overlayMap (by simp [builtin]) rfl,
    hmap .detailMap detailMap (by simp [builtin]) rfl,
    ⟨(.normalMap, normalMap), by simp [builtin], rfl, _, fun _ => rfl⟩,
    hmap .specularMap specularMap (by simp [builtin]) rfl⟩

end Generator

end MaterialPipeline
