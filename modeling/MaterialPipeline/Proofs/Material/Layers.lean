import MaterialPipeline.Material.Resolution
import MaterialPipeline.Proofs.Feature.Sharing
import Mathlib.Algebra.Order.BigOperators.Group.List
import Mathlib.Algebra.Order.Ring.Nat

/-!
# Proofs — Material — Layers

What resolving a material comes to: one layer or more, and of each the features are placed, few, and
not none.

* `placed_featuresOf`: texture features carry the number of their stage, and no others carry one.
* `size_featuresOf_le`: a stage has few features.
* `isEmpty_featuresOf`: it has some, whatever is switched off and whatever it is drawn for.
* `layers_ne_nil`, `length_layers_le`: at least one stage is drawn, and no more than there may be.
* `stage_of_mem_layers`, `nodup_stages`: a layer has the number of its stage, and no two have one
number.
* `exists_layer_of_hasAt`: a texture feature of some layers together comes from the layer that has
its number.
-/

namespace MaterialPipeline

/-! ### Sets of features -/

namespace FeatureSet

variable {a b : FeatureSet} {f : Feature} {features : List Feature} {id : FeatureId}
  {stage : Option Nat}

theorem hasAt_ofList :
    (ofList features).hasAt id stage = true ↔ ∃ f ∈ features, f.ident = (id, stage) := by
  rw [ofList, hasAt_foldl_insert]
  simp [empty, hasAt]

theorem size_ofList_le : (ofList features).size ≤ features.length := by
  have h := size_foldl_insert_le (l := features) (s := empty)
  rwa [show empty.size = 0 from rfl, Nat.zero_add] at h

theorem hasAt_of_hasAt_filter {keep : Feature → Bool} (h : (a.filter keep).hasAt id stage = true) :
    a.hasAt id stage = true := by
  obtain ⟨f, hf, e⟩ := hasAt_iff.mp h
  exact hasAt_iff.mpr ⟨f, (List.mem_filter.mp hf).1, e⟩

theorem size_filter_le (keep : Feature → Bool) : (a.filter keep).size ≤ a.size :=
  List.length_filter_le _ _

/-- Keeping some types keeps their entries. -/
theorem hasAt_filter_type (keep : FeatureId → Bool) :
    (a.filter fun f => keep f.type.id).hasAt id stage = true ↔
      a.hasAt id stage = true ∧ keep id = true := by
  simp only [filter, hasAt_iff, List.mem_filter]
  constructor
  · rintro ⟨f, ⟨hf, hkeep⟩, e⟩
    obtain ⟨rfl, rfl⟩ := Prod.mk.inj e
    exact ⟨⟨f, hf, rfl⟩, hkeep⟩
  · rintro ⟨⟨f, hf, e⟩, hkeep⟩
    obtain ⟨rfl, rfl⟩ := Prod.mk.inj e
    exact ⟨f, ⟨hf, hkeep⟩, rfl⟩

/-- Excluding a set keeps the entries of the types that the set has not. -/
theorem hasAt_exclude : (a.exclude b).hasAt id stage = true ↔
    a.hasAt id stage = true ∧ b.has id = false := by
  rw [exclude, hasAt_filter_type fun id => !b.has id, Bool.not_eq_true']

/-- Removing a type keeps the entries of the others. -/
theorem hasAt_remove {other : FeatureId} : (a.remove other).hasAt id stage = true ↔
    a.hasAt id stage = true ∧ id ≠ other := by
  rw [remove, hasAt_filter_type (· != other), bne_iff_ne]

theorem isEmpty_of_hasAt (h : a.hasAt id stage = true) : a.isEmpty = false := by
  obtain ⟨f, hf, -⟩ := hasAt_iff.mp h
  rw [isEmpty, List.isEmpty_eq_false_iff]
  exact List.ne_nil_of_mem hf

namespace Placed

theorem ofList (h : ∀ f ∈ features, FeatureType.Suits f.type.id f.stage) :
    (ofList features).Placed := by
  intro id stage hat
  obtain ⟨f, hf, e⟩ := hasAt_ofList.mp hat
  obtain ⟨rfl, rfl⟩ := Prod.mk.inj e
  exact h f hf

theorem filter (h : a.Placed) (keep : Feature → Bool) : (a.filter keep).Placed :=
  fun id stage hat => h id stage (hasAt_of_hasAt_filter hat)

theorem insert (h : a.Placed) (hf : FeatureType.Suits f.type.id f.stage) :
    (a.insert f).Placed := by
  intro id stage hat
  rcases hasAt_insert.mp hat with hat | e
  · exact h id stage hat
  · obtain ⟨rfl, rfl⟩ := Prod.mk.inj e
    exact hf

theorem mergeAll {sets : List FeatureSet} (h : ∀ a ∈ sets, a.Placed) :
    (mergeAll sets).Placed := by
  intro id stage hat
  obtain ⟨a, ha, hat⟩ := hasAt_mergeAll.mp hat
  exact h a ha id stage hat

end Placed

end FeatureSet

/-! ### The features of a stage -/

/-- A type that is there on a condition is one of itself. -/
theorem given_sublist (on : Bool) (t : FeatureType) :
    List.Sublist (if on then [t] else []) [t] := by
  cases on with
  | true => exact List.Sublist.refl _
  | false => exact List.nil_sublist _

namespace Stage

/-- The types of the maps of a stage. -/
theorem mapTypes_sublist (s : Stage) (format : VertexFormat) :
    List.Sublist (s.mapTypes format)
      [.diffuseMap, .overlayMap, .detailMap, .normalMap, .parallax, .specularMap, .cubeMap,
        .diffuseColor] :=
  ((((((((given_sublist _ .diffuseMap).append (given_sublist _ .overlayMap)).append
    (given_sublist _ .detailMap)).append (given_sublist _ .normalMap)).append
    (given_sublist _ .parallax)).append (given_sublist _ .specularMap)).append
    (given_sublist _ .cubeMap)).append (given_sublist _ .diffuseColor))

/-- The types that may serve a stage. -/
theorem textureTypes_sublist (s : Stage) (format : VertexFormat) :
    List.Sublist (s.textureTypes format)
      [.diffuseMap, .overlayMap, .detailMap, .normalMap, .parallax, .specularMap, .cubeMap,
        .diffuseColor, .texAnim] :=
  (s.mapTypes_sublist format).append (given_sublist _ .texAnim)

/-- Texture coordinates are moved only if the stage moves. -/
theorem isActive_of_mem_textureTypes {s : Stage} {format : VertexFormat} {t : FeatureType}
    (ht : t ∈ s.textureTypes format) (hid : t.id = FeatureType.texAnim.id) :
    s.animation.isActive = true := by
  rcases List.mem_append.mp ht with ht | ht
  · have hother : ∀ t ∈ [FeatureType.diffuseMap, .overlayMap, .detailMap, .normalMap, .parallax,
        .specularMap, .cubeMap, .diffuseColor], t.id ≠ FeatureType.texAnim.id := by decide
    exact absurd hid (hother t ((s.mapTypes_sublist format).subset ht))
  · split at ht
    next hmoves => exact (Bool.and_eq_true_iff.mp hmoves).1
    next => cases ht

/-- A stage is lit in one of these ways, if it is lit. -/
theorem lighting_cases (s : Stage) (format : VertexFormat) (stage : Option Nat) :
    s.lighting format stage = [] ∨ s.lighting format stage = [⟨.vertLit, none⟩] ∨
      s.lighting format stage = [⟨.lightMap, none⟩] ∨
      s.lighting format stage = [⟨.toneMap, stage⟩] ∨
      s.lighting format stage = [⟨.rtLighting, none⟩] ∨
      s.lighting format stage = [⟨.rtLighting, none⟩, ⟨.pixSpecular, none⟩] := by
  unfold lighting
  cases s.emissive with
  | true => simp
  | false =>
      cases s.vertexLit with
      | true => simp
      | false =>
          simp only [Bool.false_eq_true, if_false]
          split
          · simp
          · split
            · simp
            · cases s.pixelSpecular <;> simp

theorem length_lighting_le (s : Stage) (format : VertexFormat) (stage : Option Nat) :
    (s.lighting format stage).length ≤ 2 := by
  rcases s.lighting_cases format stage with h | h | h | h | h | h <;> rw [h] <;> simp

/-- Of the types that light a stage, tone maps serve it. -/
theorem suits_lighting (s : Stage) (format : VertexFormat) (n : Nat) :
    ∀ f ∈ s.lighting format (some n), FeatureType.Suits f.type.id f.stage := by
  have htone : FeatureType.toneMap.id ∈ FeatureType.staged := by decide
  rcases s.lighting_cases format (some n) with h | h | h | h | h | h <;> rw [h] <;> intro f hf
  · cases hf
  · exact List.mem_singleton.mp hf ▸ FeatureType.Suits.none (by decide)
  · exact List.mem_singleton.mp hf ▸ FeatureType.Suits.none (by decide)
  · exact List.mem_singleton.mp hf ▸ FeatureType.Suits.some htone n
  · exact List.mem_singleton.mp hf ▸ FeatureType.Suits.none (by decide)
  · rcases List.mem_pair.mp hf with rfl | rfl <;> exact FeatureType.Suits.none (by decide)

end Stage

namespace Material

/-- The types that a material gives a stage. -/
theorem sharedTypes_sublist (m : Material) (s : Stage) :
    List.Sublist (m.sharedTypes s)
      [.alphaTest, .fog, .translucent, .visibility, .translucentZWrite] :=
  (((((given_sublist _ .alphaTest).append (given_sublist _ .fog)).append
    (given_sublist _ .translucent)).append (given_sublist _ .visibility)).append
    (given_sublist _ .translucentZWrite))

theorem placed_requested (m : Material) (format : VertexFormat) (number : Nat) (s : Stage) :
    (m.requested format number s).Placed := by
  refine FeatureSet.Placed.ofList fun f hf => ?_
  simp only [List.append_assoc, List.mem_append] at hf
  rcases hf with hf | hf | hf | hf
  · rcases List.mem_pair.mp hf with rfl | rfl <;> exact FeatureType.Suits.none (by decide)
  · obtain ⟨t, ht, rfl⟩ := List.mem_map.mp hf
    have hstaged : ∀ t ∈ [FeatureType.diffuseMap, .overlayMap, .detailMap, .normalMap, .parallax,
        .specularMap, .cubeMap, .diffuseColor, .texAnim], t.id ∈ FeatureType.staged := by decide
    exact FeatureType.Suits.some (hstaged t ((s.textureTypes_sublist format).subset ht)) _
  · exact s.suits_lighting format _ f hf
  · obtain ⟨t, ht, rfl⟩ := List.mem_map.mp hf
    have hplain : ∀ t ∈ [FeatureType.alphaTest, .fog, .translucent, .visibility,
        .translucentZWrite], t.id ∉ FeatureType.staged := by decide
    exact FeatureType.Suits.none (hplain t ((m.sharedTypes_sublist s).subset ht))

theorem size_requested_le (m : Material) (format : VertexFormat) (number : Nat) (s : Stage) :
    (m.requested format number s).size ≤ 18 := by
  refine FeatureSet.size_ofList_le.trans ?_
  have htexture := (s.textureTypes_sublist format).length_le
  have hshared := (m.sharedTypes_sublist s).length_le
  have hlighting := s.length_lighting_le format (some (number % 256))
  simp only [List.length_append, List.length_map, List.length_cons, List.length_nil] at *
  omega

/-- What carries a stage is asked for by the stage of that number, as a texture or as a tone map. -/
theorem of_hasAt_requested {m : Material} {format : VertexFormat} {number n : Nat} {s : Stage}
    {id : FeatureId} (h : (m.requested format number s).hasAt id (some n) = true) :
    n = number % 256 ∧
      ((∃ t ∈ s.textureTypes format, t.id = id) ∨ id = FeatureType.toneMap.id) := by
  obtain ⟨f, hf, hident⟩ := FeatureSet.hasAt_ofList.mp h
  obtain ⟨rfl, hstage⟩ := Prod.mk.inj hident
  simp only [List.append_assoc, List.mem_append] at hf
  rcases hf with hf | hf | hf | hf
  · rcases List.mem_pair.mp hf with rfl | rfl <;> cases hstage
  · obtain ⟨t, ht, rfl⟩ := List.mem_map.mp hf
    cases hstage
    exact ⟨rfl, .inl ⟨t, ht, rfl⟩⟩
  · rcases s.lighting_cases format (some (number % 256)) with h | h | h | h | h | h <;>
      rw [h] at hf
    · cases hf
    · obtain rfl := List.mem_singleton.mp hf
      cases hstage
    · obtain rfl := List.mem_singleton.mp hf
      cases hstage
    · obtain rfl := List.mem_singleton.mp hf
      cases hstage
      exact ⟨rfl, .inr rfl⟩
    · obtain rfl := List.mem_singleton.mp hf
      cases hstage
    · rcases List.mem_pair.mp hf with rfl | rfl <;> cases hstage
  · obtain ⟨t, -, rfl⟩ := List.mem_map.mp hf
    cases hstage

end Material

/-! ### Variants and switches -/

namespace Variant

variable {set : FeatureSet}

theorem placed_apply (v : Variant) (m : Material) (h : set.Placed) : (v.apply m set).Placed := by
  have houtput : v.output.id ∉ FeatureType.staged := by cases v <;> decide
  refine FeatureSet.Placed.insert ?_ (FeatureType.Suits.none houtput)
  split
  · exact ((h.filter _).filter _).filter _
  · exact h.filter _

theorem size_apply_le (v : Variant) (m : Material) (set : FeatureSet) :
    (v.apply m set).size ≤ set.size + 1 := by
  refine FeatureSet.size_insert_le.trans (Nat.succ_le_succ ?_)
  split
  · exact ((FeatureSet.size_filter_le _).trans (FeatureSet.size_filter_le _)).trans
      (FeatureSet.size_filter_le _)
  · exact FeatureSet.size_filter_le _

/-- Whether the variant draws with the features of a type, if it is given them. -/
def takes (v : Variant) (m : Material) (id : FeatureId) : Bool :=
  v.keeps.any (·.id == id) &&
    (v == .glow || m.alphaTest || id != FeatureType.diffuseMap.id && id != FeatureType.texAnim.id)

/-- A variant has its output, and what it takes of what it is given. -/
theorem hasAt_apply_iff {v : Variant} {m : Material} {id : FeatureId} {stage : Option Nat} :
    (v.apply m set).hasAt id stage = true ↔
      set.hasAt id stage = true ∧ v.takes m id = true ∨ v.output.id = id ∧ stage = none := by
  have hkept : (set.filter fun f => v.keeps.any (·.id == f.type.id)).hasAt id stage = true ↔
      set.hasAt id stage = true ∧ v.keeps.any (·.id == id) = true :=
    FeatureSet.hasAt_filter_type fun id => v.keeps.any (·.id == id)
  rw [apply, FeatureSet.add, FeatureSet.hasAt_insert, Feature.ident, Prod.mk.injEq,
    eq_comm (a := none)]
  refine or_congr_left ?_
  -- The maps are removed only without need of them, and so are not taken then.
  cases hglow : v == .glow <;> cases halpha : m.alphaTest <;>
    simp [takes, bne, hglow, halpha, hkept, FeatureSet.hasAt_remove, and_assoc]

/-- A variant has its output, and what it kept of what was asked for. -/
theorem hasAt_apply {v : Variant} {m : Material} {id : FeatureId} {stage : Option Nat}
    (h : (v.apply m set).hasAt id stage = true) :
    set.hasAt id stage = true ∨ v.output.id = id ∧ stage = none :=
  (hasAt_apply_iff.mp h).imp_left And.left

/-- What carries a stage is kept from what was asked for. -/
theorem hasAt_of_hasAt_apply {v : Variant} {m : Material} {id : FeatureId} {n : Nat}
    (h : (v.apply m set).hasAt id (some n) = true) : set.hasAt id (some n) = true := by
  rcases hasAt_apply h with h | ⟨-, h⟩
  · exact h
  · cases h

end Variant

/-- The transform cannot be switched off. -/
theorem Config.has_vertTransform_exclusions (config : Config) :
    config.exclusions.has FeatureType.vertTransform.id = false := by
  obtain ⟨normal, specular, cube, prepass, slots⟩ := config
  cases normal <;> cases specular <;> cases cube <;> rfl

/-- What a variant adds cannot be switched off. -/
theorem Config.has_output_exclusions (config : Config) (v : Variant) :
    config.exclusions.has v.output.id = false := by
  obtain ⟨normal, specular, cube, prepass, slots⟩ := config
  cases normal <;> cases specular <;> cases cube <;> cases v <;> rfl

namespace Material

variable (m : Material) (config : Config) (format : VertexFormat) (variant : Option Variant)
  (number : Nat) (s : Stage)

/-- No stage has what is switched off. -/
theorem has_featuresOf {id : FeatureId} (h : config.exclusions.has id = true) :
    (m.featuresOf config format variant number s).has id = false := by
  have hallowed (stage : Option Nat) :
      ¬ ((m.requested format number s).exclude config.exclusions).hasAt id stage = true := by
    rw [FeatureSet.hasAt_exclude, h]
    exact fun hboth => Bool.noConfusion hboth.2
  rw [← Bool.not_eq_true, FeatureSet.has_iff]
  rintro ⟨stage, hstage⟩
  cases variant with
  | none => exact hallowed stage hstage
  | some v =>
      rcases v.hasAt_apply hstage with hstage | ⟨rfl, -⟩
      · exact hallowed stage hstage
      · rw [config.has_output_exclusions v] at h
        cases h

theorem placed_featuresOf : (m.featuresOf config format variant number s).Placed := by
  have hallowed := (m.placed_requested format number s).filter fun f =>
    !config.exclusions.has f.type.id
  cases variant with
  | none => exact hallowed
  | some v => exact v.placed_apply m hallowed

theorem size_featuresOf_le : (m.featuresOf config format variant number s).size ≤ 19 := by
  have hallowed : ((m.requested format number s).exclude config.exclusions).size ≤ 18 :=
    (FeatureSet.size_filter_le _).trans (m.size_requested_le format number s)
  cases variant with
  | none => exact hallowed.trans (Nat.le_succ 18)
  | some v => exact (v.size_apply_le m _).trans (Nat.succ_le_succ hallowed)

/-- What carries a stage was asked for. -/
theorem hasAt_requested {m : Material} {config : Config} {format : VertexFormat}
    {variant : Option Variant} {number n : Nat} {s : Stage} {id : FeatureId}
    (h : (m.featuresOf config format variant number s).hasAt id (some n) = true) :
    (m.requested format number s).hasAt id (some n) = true := by
  refine (FeatureSet.hasAt_exclude (b := config.exclusions).mp ?_).1
  cases variant with
  | none => exact h
  | some v => exact v.hasAt_of_hasAt_apply h

/-- Every stage is transformed, whatever is switched off. -/
theorem hasAt_vertTransform_featuresOf :
    (m.featuresOf config format variant number s).hasAt FeatureType.vertTransform.id none =
      true := by
  have hrequested : (m.requested format number s).hasAt FeatureType.vertTransform.id none = true :=
    FeatureSet.hasAt_ofList.mpr ⟨⟨.vertTransform, none⟩, by simp, rfl⟩
  have hallowed : ((m.requested format number s).exclude config.exclusions).hasAt
      FeatureType.vertTransform.id none = true :=
    FeatureSet.hasAt_exclude.mpr ⟨hrequested, config.has_vertTransform_exclusions⟩
  cases variant with
  | none => exact hallowed
  | some v =>
      have htakes : v.takes m FeatureType.vertTransform.id = true := by
        rw [Variant.takes]
        cases v <;> cases m.alphaTest <;> rfl
      exact Variant.hasAt_apply_iff.mpr (.inl ⟨hallowed, htakes⟩)

/-- Every stage has features, whatever is switched off. -/
theorem isEmpty_featuresOf : (m.featuresOf config format variant number s).isEmpty = false :=
  FeatureSet.isEmpty_of_hasAt (m.hasAt_vertTransform_featuresOf config format variant number s)

/-! ### Layers -/

variable {m config format variant} {layers block : List Layer} {l : Layer}

/-- A material whose layers are resolved has stages, and not too many. -/
theorem layers_eq (h : m.layers config format variant = .ok layers) :
    m.stages ≠ [] ∧ m.stages.length ≤ maxStages ∧
      layers = (m.drawnStages variant).map fun (s, number) =>
        ⟨number, m.featuresOf config format variant number s, s.sampler⟩ := by
  unfold Material.layers validate at h
  by_cases hnone : m.stages.isEmpty
  · rw [if_pos hnone] at h
    cases h
  · rw [if_neg hnone] at h
    by_cases hmany : maxStages < m.stages.length
    · rw [if_pos hmany] at h
      cases h
    · rw [if_neg hmany] at h
      cases h
      exact ⟨by simpa using hnone, Nat.le_of_not_lt hmany, rfl⟩

theorem drawnStages_sublist (m : Material) (variant : Option Variant) :
    List.Sublist (m.drawnStages variant) m.stages.zipIdx := by
  cases variant with
  | none => exact List.Sublist.refl _
  | some v => exact List.filter_sublist

/-- A layer is what becomes of the stage of its number. -/
theorem stage_of_mem_layers (h : m.layers config format variant = .ok layers) (hl : l ∈ layers) :
    l.stage < maxStages ∧ ∃ s, m.stages[l.stage]? = some s ∧ l.sampler = s.sampler ∧
      l.features = m.featuresOf config format variant l.stage s := by
  obtain ⟨-, hlength, rfl⟩ := layers_eq h
  obtain ⟨⟨s, number⟩, hmem, rfl⟩ := List.mem_map.mp hl
  have hstage := List.mk_mem_zipIdx_iff_getElem?.mp ((m.drawnStages_sublist variant).subset hmem)
  have hlt := (List.getElem?_eq_some_iff.mp hstage).1
  exact ⟨hlt.trans_le hlength, s, hstage, rfl, rfl⟩

/-- The features of a layer are those of some stage. -/
theorem features_of_mem_layers (h : m.layers config format variant = .ok layers)
    (hl : l ∈ layers) :
    ∃ s number, l.features = m.featuresOf config format variant number s := by
  obtain ⟨-, s, -, -, hfeatures⟩ := stage_of_mem_layers h hl
  exact ⟨s, l.stage, hfeatures⟩

/-- No two layers have one number. -/
theorem nodup_stages (h : m.layers config format variant = .ok layers) :
    (layers.map (·.stage)).Nodup := by
  obtain ⟨-, -, rfl⟩ := layers_eq h
  have hnumbers : (m.stages.zipIdx.map Prod.snd).Nodup := by
    rw [List.zipIdx_map_snd]
    exact List.nodup_range'
  rw [List.map_map]
  exact hnumbers.sublist ((m.drawnStages_sublist variant).map Prod.snd)

theorem length_drawnStages_le (m : Material) (variant : Option Variant) :
    (m.drawnStages variant).length ≤ m.stages.length :=
  (m.drawnStages_sublist variant).length_le.trans List.length_zipIdx.le

/-- A variant draws a stage that the material has. -/
theorem stage_lt_length (v : Variant) (h : m.stages ≠ []) : v.stage m < m.stages.length := by
  have hpos := List.length_pos_iff.mpr h
  cases v with
  | shadow | prePass => exact hpos
  | glow =>
      rw [Variant.stage, glowStage]
      cases hglow : m.stages.findIdx? (·.glow) with
      | none => exact hpos
      | some n => exact (List.findIdx?_eq_some_iff_getElem.mp hglow).1

theorem drawnStages_ne_nil (variant : Option Variant) (h : m.stages ≠ []) :
    m.drawnStages variant ≠ [] := by
  cases variant with
  | none => simpa [drawnStages] using h
  | some v =>
      have hlt := stage_lt_length v h
      have hmem : (m.stages[v.stage m], v.stage m) ∈ m.drawnStages (some v) :=
        List.mem_filter.mpr ⟨List.mk_mem_zipIdx_iff_getElem?.mpr (List.getElem?_eq_getElem hlt),
          beq_self_eq_true (v.stage m)⟩
      exact List.ne_nil_of_mem hmem

theorem layers_ne_nil (h : m.layers config format variant = .ok layers) : layers ≠ [] := by
  obtain ⟨hstages, -, rfl⟩ := layers_eq h
  exact fun e => drawnStages_ne_nil variant hstages (List.map_eq_nil_iff.mp e)

theorem length_layers_le (h : m.layers config format variant = .ok layers) : layers.length ≤ 8 := by
  obtain ⟨-, hlength, rfl⟩ := layers_eq h
  rw [List.length_map]
  exact (m.length_drawnStages_le variant).trans hlength

/-! ### Blocks of layers -/

/-- The features of some layers together are placed. -/
theorem placed_mergeAll (h : m.layers config format variant = .ok layers)
    (hblock : block ⊆ layers) : (FeatureSet.mergeAll (block.map (·.features))).Placed := by
  refine FeatureSet.Placed.mergeAll fun a ha => ?_
  obtain ⟨l, hl, rfl⟩ := List.mem_map.mp ha
  obtain ⟨s, number, e⟩ := features_of_mem_layers h (hblock hl)
  exact e ▸ m.placed_featuresOf config format variant number s

/-- The features of some layers together are few. -/
theorem size_mergeAll_le (h : m.layers config format variant = .ok layers)
    (hblock : List.Sublist block layers) :
    (FeatureSet.mergeAll (block.map (·.features))).size ≤ 152 := by
  have hsize : ∀ n ∈ (block.map (·.features)).map FeatureSet.size, n ≤ 19 := by
    intro n hn
    rw [List.map_map] at hn
    obtain ⟨l, hl, rfl⟩ := List.mem_map.mp hn
    obtain ⟨s, number, e⟩ := features_of_mem_layers h (hblock.subset hl)
    rw [Function.comp_apply, e]
    exact m.size_featuresOf_le config format variant number s
  have hsum := List.sum_le_card_nsmul _ 19 hsize
  rw [List.length_map, List.length_map, Nat.nsmul_eq_mul] at hsum
  have hlength := hblock.length_le.trans (length_layers_le h)
  exact (FeatureSet.size_mergeAll_le _).trans (hsum.trans (Nat.mul_le_mul_right 19 hlength))

/-- Some layers together have features, if there are any. -/
theorem isEmpty_mergeAll (h : m.layers config format variant = .ok layers) (hblock : block ⊆ layers)
    (hne : block ≠ []) : (FeatureSet.mergeAll (block.map (·.features))).isEmpty = false := by
  obtain ⟨l, hl⟩ := List.exists_mem_of_ne_nil block hne
  obtain ⟨s, number, e⟩ := features_of_mem_layers h (hblock hl)
  rw [← Bool.not_eq_true, FeatureSet.isEmpty_mergeAll]
  intro hempty
  have hl' := hempty l.features (List.mem_map_of_mem hl)
  rw [e, isEmpty_featuresOf] at hl'
  cases hl'

/-- A texture feature of some layers together comes from the layer that has its number. -/
theorem exists_layer_of_hasAt {id : FeatureId} {n : Nat}
    (h : m.layers config format variant = .ok layers) (hblock : block ⊆ layers)
    (hat : (FeatureSet.mergeAll (block.map (·.features))).hasAt id (some n) = true) :
    ∃ l ∈ block, l.stage = n ∧ ∃ s, m.stages[n]? = some s ∧ l.sampler = s.sampler ∧
      (m.requested format n s).hasAt id (some n) = true := by
  obtain ⟨_, hset, hat⟩ := FeatureSet.hasAt_mergeAll.mp hat
  obtain ⟨l, hl, rfl⟩ := List.mem_map.mp hset
  obtain ⟨hlt, s, hstage, hsampler, hfeatures⟩ := stage_of_mem_layers h (hblock hl)
  rw [hfeatures] at hat
  have hrequested := hasAt_requested hat
  -- The numbers of stages are small, so a feature has the whole number.
  have hnumber : n = l.stage := by
    rw [(of_hasAt_requested hrequested).1]
    exact Nat.mod_eq_of_lt (hlt.trans (by decide))
  subst hnumber
  exact ⟨l, hl, rfl, s, hstage, hsampler, hrequested⟩

end Material

end MaterialPipeline
