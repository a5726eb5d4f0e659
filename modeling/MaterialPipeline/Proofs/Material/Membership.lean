import MaterialPipeline.Proofs.Material.Layers

/-!
# Proofs — Material — Membership

Which features a stage has, told without a word on how they are found: by what is authored, what
the vertices carry, what is switched off, and what the stage is drawn for.

* `Stage.Shows`: the features of the maps of a stage, and of their motion.
* `Stage.LitBy`: what lights a stage, by precedence; `existsUnique_litBy` says that it is one thing.
* `Material.Marks`: the features that the material as a whole gives.
* `Material.Draws`: what is asked for and not switched off; for a variant, what the variant takes of
it, and its output.
* `mem_stageFeatures`: the features of a stage are exactly these.
-/

namespace MaterialPipeline

/-! ### Features that are asked for -/

namespace Stage

variable (s : Stage) (format : VertexFormat)

/-- A normal map is authored, and the vertices have the tangents that it needs. -/
def NormalMapped : Prop :=
  s.normalMap ≠ none ∧ format.has .tangent = true

/-- A map is there that shows when texture coordinates move. -/
def ShowsMotion : Prop :=
  s.diffuseMap ≠ none ∨ s.overlayMap ≠ none ∨ s.detailMap ≠ none ∨ s.NormalMapped format

/-- The features of the maps of a stage, which carry its number. -/
inductive Shows : FeatureType → Prop
  | diffuseMap (h : s.diffuseMap ≠ none) : Shows .diffuseMap
  | overlayMap (h : s.overlayMap ≠ none) : Shows .overlayMap
  | detailMap (h : s.detailMap ≠ none) : Shows .detailMap
  | normalMap (h : s.NormalMapped format) : Shows .normalMap
  | parallax (h : s.NormalMapped format) (hdepth : Single.lt 0 s.parallaxScale = true) :
      Shows .parallax
  | specularMap (h : s.specularMap ≠ none) : Shows .specularMap
  | cubeMap (h : s.cubeMap ≠ none) : Shows .cubeMap
  | diffuseColor (h : s.diffuseMap = none ∨ s.diffuseColor.same .one = false) :
      Shows .diffuseColor
  | texAnim (h : s.animation.isActive = true) (hshows : s.ShowsMotion format) : Shows .texAnim

/-- The light map of the scene can light the stage. -/
def LightMapped : Prop :=
  s.lightMap = true ∧ 2 ≤ format.texcoordCount

/-- The tone map of the stage can light it. -/
def ToneMapped : Prop :=
  s.toneMap ≠ none ∧ 2 ≤ format.texcoordCount

/-- What lights the stage of a number: the first that can of the vertices, the light map, the tone
map and the lights themselves.  Nothing lights an emissive stage. -/
inductive LitBy (number : Nat) : Feature → Prop
  | vertLit (hdark : s.emissive = false) (h : s.vertexLit = true) : LitBy number ⟨.vertLit, none⟩
  | lightMap (hdark : s.emissive = false) (hvert : s.vertexLit = false)
      (h : s.LightMapped format) : LitBy number ⟨.lightMap, none⟩
  | toneMap (hdark : s.emissive = false) (hvert : s.vertexLit = false)
      (hmap : ¬ s.LightMapped format) (h : s.ToneMapped format) :
      LitBy number ⟨.toneMap, some number⟩
  | rtLighting (hdark : s.emissive = false) (hvert : s.vertexLit = false)
      (hmap : ¬ s.LightMapped format) (htone : ¬ s.ToneMapped format) :
      LitBy number ⟨.rtLighting, none⟩

end Stage

namespace Material

variable (m : Material) (config : Config) (format : VertexFormat) (number : Nat) (s : Stage)

/-- The features that a material as a whole gives a stage. -/
inductive Marks : FeatureType → Prop
  | alphaTest (h : m.alphaTest = true) : Marks .alphaTest
  | fog (h : m.fog = true) (hdark : s.emissive = false) : Marks .fog
  | translucent (h : m.translucent = true) : Marks .translucent
  | visibility (h : m.translucent = true) : Marks .visibility
  | translucentZWrite (h : m.translucent = true) (hwrite : m.translucentZWrite = true) :
      Marks .translucentZWrite

/-- What the stage of a number asks for. -/
inductive Asks : Feature → Prop
  | vertTransform : Asks ⟨.vertTransform, none⟩
  | hdrOut : Asks ⟨.hdrOut, none⟩
  | shows {t : FeatureType} (h : s.Shows format t) : Asks ⟨t, some number⟩
  | lit {f : Feature} (h : s.LitBy format number f) : Asks f
  | pixSpecular (h : s.LitBy format number ⟨.rtLighting, none⟩)
      (hspecular : s.pixelSpecular = true) : Asks ⟨.pixSpecular, none⟩
  | marks {t : FeatureType} (h : m.Marks s t) : Asks ⟨t, none⟩

end Material

/-- The types that are switched off. -/
inductive Config.SwitchesOff (config : Config) : FeatureType → Prop
  | normalMap (h : config.disableNormalMapping = true) : SwitchesOff config .normalMap
  | parallax (h : config.disableNormalMapping = true) : SwitchesOff config .parallax
  | pixSpecular (h : config.disableSpecular = true) : SwitchesOff config .pixSpecular
  | specularMap (h : config.disableSpecular = true) : SwitchesOff config .specularMap
  | cubeMap (h : config.disableCubemapping = true) : SwitchesOff config .cubeMap

/-- The types that a variant takes: those that it keeps, less the diffuse map and its motion where
neither colour nor the alpha test needs them. -/
def Variant.Takes (v : Variant) (m : Material) (t : FeatureType) : Prop :=
  t ∈ v.keeps ∧ (v = .glow ∨ m.alphaTest = true ∨ t ≠ .diffuseMap ∧ t ≠ .texAnim)

/-- What the stage of a number is drawn with. -/
def Material.Draws (m : Material) (config : Config) (format : VertexFormat)
    (variant : Option Variant) (number : Nat) (s : Stage) (f : Feature) : Prop :=
  match variant with
  | none => m.Asks format number s f ∧ ¬ config.SwitchesOff f.type
  | some v => m.Asks format number s f ∧ ¬ config.SwitchesOff f.type ∧ v.Takes m f.type ∨
      f = ⟨v.output, none⟩

/-! ### Types of the catalogue -/

/-- A built-in type is known by its number. -/
theorem FeatureType.eq_of_id_eq {t u : FeatureType} (ht : t ∈ catalogue) (hu : u ∈ catalogue)
    (h : t.id = u.id) : t = u := by
  have hnodup : (catalogue.map (·.id)).Nodup := by decide
  exact List.inj_on_of_nodup_map hnodup ht hu h

/-- Of built-in types, those with the numbers of some are these. -/
theorem FeatureType.any_id_iff {t : FeatureType} {types : List FeatureType} (ht : t ∈ catalogue)
    (htypes : types ⊆ catalogue) : types.any (·.id == t.id) = true ↔ t ∈ types := by
  rw [List.any_eq_true]
  constructor
  · rintro ⟨u, hu, h⟩
    exact eq_of_id_eq (htypes hu) ht (beq_iff_eq.mp h) ▸ hu
  · exact fun h => ⟨t, h, beq_self_eq_true t.id⟩

/-- The set of a list of built-in features has them all. -/
theorem FeatureSet.mem_ofList {features : List Feature} {f : Feature}
    (h : ∀ f ∈ features, f.type ∈ FeatureType.catalogue) :
    f ∈ (ofList features).entries ↔ f ∈ features := by
  have hfrom {g : Feature} (hg : g ∈ (ofList features).entries) : g ∈ features :=
    (mem_of_mem_foldl_insert hg).resolve_left List.not_mem_nil
  refine ⟨hfrom, fun hf => ?_⟩
  obtain ⟨⟨u, other⟩, hg, e⟩ := hasAt_iff.mp (hasAt_ofList.mpr ⟨f, hf, rfl⟩)
  -- What stands in the place of `f` is of the same built-in type.
  obtain ⟨t, stage⟩ := f
  obtain ⟨hid, rfl⟩ := Prod.mk.inj e
  obtain rfl : u = t := FeatureType.eq_of_id_eq (h _ (hfrom hg)) (h _ hf) hid
  exact hg

/-! ### What is asked for -/

/-- One item that is there on a condition. -/
theorem mem_given {α : Type} {on : Bool} {x y : α} :
    x ∈ (if on then [y] else []) ↔ on = true ∧ x = y := by
  cases on <;> simp

namespace Stage

variable {s : Stage} {format : VertexFormat} {number : Nat} {t : FeatureType} {f : Feature}

theorem normalMapped_iff :
    (s.normalMap.isSome && format.has .tangent) = true ↔ s.NormalMapped format := by
  rw [Bool.and_eq_true, Option.isSome_iff_ne_none, NormalMapped]

theorem mem_mapTypes : t ∈ s.mapTypes format ↔ s.Shows format t ∧ t ≠ .texAnim := by
  simp only [mapTypes, List.mem_append, mem_given, or_assoc]
  rw [Bool.and_eq_true (s.normalMap.isSome && _), normalMapped_iff]
  simp only [Option.isSome_iff_ne_none, Bool.or_eq_true, Option.isNone_iff_eq_none,
    Bool.not_eq_true']
  constructor
  · rintro (⟨h, rfl⟩ | ⟨h, rfl⟩ | ⟨h, rfl⟩ | ⟨h, rfl⟩ | ⟨h, rfl⟩ | ⟨h, rfl⟩ | ⟨h, rfl⟩ | ⟨h, rfl⟩)
    · exact ⟨.diffuseMap h, by decide⟩
    · exact ⟨.overlayMap h, by decide⟩
    · exact ⟨.detailMap h, by decide⟩
    · exact ⟨.normalMap h, by decide⟩
    · exact ⟨.parallax h.1 h.2, by decide⟩
    · exact ⟨.specularMap h, by decide⟩
    · exact ⟨.cubeMap h, by decide⟩
    · exact ⟨.diffuseColor h, by decide⟩
  · rintro ⟨h, hne⟩
    cases h with
    | texAnim => exact absurd rfl hne
    | _ => simp_all

/-- A moving texture coordinate shows in a map that is there. -/
theorem any_animatedTypes :
    animatedTypes.any ((s.mapTypes format).contains ·) = true ↔ s.ShowsMotion format := by
  simp only [animatedTypes, List.any_cons, List.any_nil, Bool.or_false, Bool.or_eq_true,
    List.contains_iff_mem, mem_mapTypes]
  constructor
  · rintro (⟨h, -⟩ | ⟨h, -⟩ | ⟨h, -⟩ | ⟨h, -⟩) <;> cases h with | _ h => simp [ShowsMotion, h]
  · rintro (h | h | h | h)
    · exact .inl ⟨.diffuseMap h, by decide⟩
    · exact .inr (.inl ⟨.overlayMap h, by decide⟩)
    · exact .inr (.inr (.inl ⟨.detailMap h, by decide⟩))
    · exact .inr (.inr (.inr ⟨.normalMap h, by decide⟩))

theorem mem_textureTypes : t ∈ s.textureTypes format ↔ s.Shows format t := by
  rw [textureTypes, List.mem_append, mem_given, Bool.and_eq_true, any_animatedTypes, mem_mapTypes]
  constructor
  · rintro (⟨h, -⟩ | ⟨⟨h, hshows⟩, rfl⟩)
    · exact h
    · exact .texAnim h hshows
  · intro h
    by_cases hmoves : t = .texAnim
    · subst hmoves
      cases h with
      | texAnim h hshows => exact .inr ⟨⟨h, hshows⟩, rfl⟩
    · exact .inl ⟨h, hmoves⟩

theorem lightMapped_iff :
    (s.lightMap && decide (2 ≤ format.texcoordCount)) = true ↔ s.LightMapped format := by
  rw [Bool.and_eq_true, decide_eq_true_iff, LightMapped]

theorem toneMapped_iff :
    (s.toneMap.isSome && decide (2 ≤ format.texcoordCount)) = true ↔ s.ToneMapped format := by
  rw [Bool.and_eq_true, Option.isSome_iff_ne_none, decide_eq_true_iff, ToneMapped]

/-- **A stage that gives no light is lit in exactly one way.** -/
theorem existsUnique_litBy (hdark : s.emissive = false) : ∃! f, s.LitBy format number f := by
  have hunique {f g : Feature} (hf : s.LitBy format number f) (hg : s.LitBy format number g) :
      f = g := by
    cases hf <;> cases hg <;> first | rfl | simp_all
  obtain ⟨f, hf⟩ : ∃ f, s.LitBy format number f := by
    cases hvert : s.vertexLit with
    | true => exact ⟨_, .vertLit hdark hvert⟩
    | false =>
        by_cases hmap : s.LightMapped format
        · exact ⟨_, .lightMap hdark hvert hmap⟩
        · by_cases htone : s.ToneMapped format
          · exact ⟨_, .toneMap hdark hvert hmap htone⟩
          · exact ⟨_, .rtLighting hdark hvert hmap htone⟩
  exact ⟨f, hf, fun g hg => hunique hg hf⟩

/-- What lights the stage is all that does, but that specular light comes beside the lights. -/
theorem mem_lighting : f ∈ s.lighting format (some number) ↔ s.LitBy format number f ∨
    s.LitBy format number ⟨.rtLighting, none⟩ ∧ s.pixelSpecular = true ∧
      f = ⟨.pixSpecular, none⟩ := by
  cases hdark : s.emissive with
  | true =>
      have hnone (g : Feature) : ¬ s.LitBy format number g := fun h => by cases h <;> simp_all
      simp [lighting, hdark, hnone]
  | false =>
      obtain ⟨g, hg, hunique⟩ : ∃! g, s.LitBy format number g := existsUnique_litBy hdark
      have hlit (f : Feature) : s.LitBy format number f ↔ f = g := ⟨hunique f, fun h => h ▸ hg⟩
      have hother : (⟨.rtLighting, none⟩ : Feature) ∉
          [⟨.vertLit, none⟩, ⟨.lightMap, none⟩, ⟨.toneMap, some number⟩] := by
        simp [FeatureType.rtLighting, FeatureType.vertLit, FeatureType.lightMap]
      simp only [List.mem_cons, List.not_mem_nil, or_false, not_or] at hother
      rw [hlit, hlit]
      cases hg with
      | vertLit _ h => simp [lighting, hdark, h, hother]
      | lightMap _ hvert h =>
          simp only [lighting, hdark, hvert, lightMapped_iff, h, Bool.false_eq_true, if_false,
            if_true, List.mem_singleton, hother, false_and, or_false]
      | toneMap _ hvert hmap h =>
          simp only [lighting, hdark, hvert, lightMapped_iff, toneMapped_iff, hmap, h,
            Bool.false_eq_true, if_false, if_true, List.mem_singleton, hother, false_and, or_false]
      | rtLighting _ hvert hmap htone =>
          simp only [lighting, hdark, hvert, lightMapped_iff, toneMapped_iff, hmap, htone,
            Bool.false_eq_true, if_false, List.mem_append, List.mem_singleton, mem_given, true_and]

end Stage

namespace Material

variable {m : Material} {config : Config} {format : VertexFormat} {number : Nat} {s : Stage}
  {t : FeatureType} {f : Feature}

theorem mem_sharedTypes : t ∈ m.sharedTypes s ↔ m.Marks s t := by
  simp only [sharedTypes, List.mem_append, mem_given, or_assoc]
  simp only [Bool.and_eq_true, Bool.not_eq_true']
  constructor
  · rintro (⟨h, rfl⟩ | ⟨h, rfl⟩ | ⟨h, rfl⟩ | ⟨h, rfl⟩ | ⟨h, rfl⟩)
    · exact .alphaTest h
    · exact .fog h.1 h.2
    · exact .translucent h
    · exact .visibility h
    · exact .translucentZWrite h.1 h.2
  · intro h
    cases h <;> simp_all

theorem Asks.mem_catalogue (h : m.Asks format number s f) : f.type ∈ FeatureType.catalogue := by
  cases h with
  | vertTransform | hdrOut | pixSpecular => decide
  | shows h | lit h | marks h => cases h <;> (dsimp only; decide)

/-- A stage asks for the features that are named for it. -/
theorem mem_requested :
    f ∈ (m.requested format number s).entries ↔ m.Asks format (number % 256) s f := by
  have hlist (f : Feature) : f ∈ ([⟨.vertTransform, none⟩, ⟨.hdrOut, none⟩]
      ++ (s.textureTypes format).map (⟨·, some (number % 256)⟩)
      ++ s.lighting format (some (number % 256))
      ++ (m.sharedTypes s).map (⟨·, none⟩) : List Feature) ↔ m.Asks format (number % 256) s f := by
    simp only [List.mem_append, List.mem_map, Stage.mem_textureTypes, Stage.mem_lighting,
      mem_sharedTypes, List.mem_pair, or_assoc]
    constructor
    · rintro (rfl | rfl | ⟨t, h, rfl⟩ | h | ⟨h, hspecular, rfl⟩ | ⟨t, h, rfl⟩)
      · exact .vertTransform
      · exact .hdrOut
      · exact .shows h
      · exact .lit h
      · exact .pixSpecular h hspecular
      · exact .marks h
    · intro h
      cases h with
      | vertTransform => exact .inl rfl
      | hdrOut => exact .inr (.inl rfl)
      | shows h => exact .inr (.inr (.inl ⟨_, h, rfl⟩))
      | lit h => exact .inr (.inr (.inr (.inl h)))
      | pixSpecular h hspecular => exact .inr (.inr (.inr (.inr (.inl ⟨h, hspecular, rfl⟩))))
      | marks h => exact .inr (.inr (.inr (.inr (.inr ⟨_, h, rfl⟩))))
  rw [requested, FeatureSet.mem_ofList fun f hf => ((hlist f).mp hf).mem_catalogue, hlist]

end Material

/-! ### Switches and variants -/

theorem Config.SwitchesOff.mem_catalogue {config : Config} {t : FeatureType}
    (h : config.SwitchesOff t) : t ∈ FeatureType.catalogue := by
  cases h <;> decide

theorem Config.SwitchesOff.not_mem_lightingPaths {config : Config} {t : FeatureType}
    (h : config.SwitchesOff t) : t ∉ FeatureType.lightingPaths := by
  cases h <;> decide

theorem Config.mem_exclusions {config : Config} {f : Feature} :
    f ∈ config.exclusions.entries ↔ ∃ t, config.SwitchesOff t ∧ f = ⟨t, none⟩ := by
  have htypes (on : Bool) (l : List FeatureType) (f : Feature) :
      f ∈ (if on then l.map (⟨·, none⟩) else [] : List Feature) ↔
        on = true ∧ ∃ t ∈ l, f = ⟨t, none⟩ := by
    cases on <;> simp [eq_comm]
  have hlist (f : Feature) :
      f ∈ ((if config.disableNormalMapping then
          [FeatureType.normalMap, .parallax].map (⟨·, none⟩) else [])
        ++ (if config.disableSpecular then
          [FeatureType.pixSpecular, .specularMap].map (⟨·, none⟩) else [])
        ++ (if config.disableCubemapping then
          [FeatureType.cubeMap].map (⟨·, none⟩) else []) : List Feature) ↔
      ∃ t, config.SwitchesOff t ∧ f = ⟨t, none⟩ := by
    simp only [List.mem_append, htypes, List.mem_cons, List.not_mem_nil, or_false]
    constructor
    · rintro ((⟨on, t, rfl | rfl, rfl⟩ | ⟨on, t, rfl | rfl, rfl⟩) | ⟨on, t, rfl, rfl⟩)
      · exact ⟨_, .normalMap on, rfl⟩
      · exact ⟨_, .parallax on, rfl⟩
      · exact ⟨_, .pixSpecular on, rfl⟩
      · exact ⟨_, .specularMap on, rfl⟩
      · exact ⟨_, .cubeMap on, rfl⟩
    · rintro ⟨t, h, rfl⟩
      cases h with
      | normalMap on => exact .inl (.inl ⟨on, _, .inl rfl, rfl⟩)
      | parallax on => exact .inl (.inl ⟨on, _, .inr rfl, rfl⟩)
      | pixSpecular on => exact .inl (.inr ⟨on, _, .inl rfl, rfl⟩)
      | specularMap on => exact .inl (.inr ⟨on, _, .inr rfl, rfl⟩)
      | cubeMap on => exact .inr ⟨on, _, rfl, rfl⟩
  rw [exclusions, FeatureSet.mem_ofList, hlist]
  intro f hf
  obtain ⟨t, hoff, rfl⟩ := (hlist f).mp hf
  exact hoff.mem_catalogue

/-- The types that are switched off are those of the set. -/
theorem Config.has_exclusions_iff {config : Config} {t : FeatureType}
    (ht : t ∈ FeatureType.catalogue) :
    config.exclusions.has t.id = true ↔ config.SwitchesOff t := by
  simp only [FeatureSet.has, List.any_eq_true, mem_exclusions, beq_iff_eq]
  constructor
  · rintro ⟨_, ⟨u, hoff, rfl⟩, hid⟩
    exact FeatureType.eq_of_id_eq hoff.mem_catalogue ht hid ▸ hoff
  · exact fun hoff => ⟨_, ⟨t, hoff, rfl⟩, rfl⟩

/-- What a variant takes, by the number of the type. -/
theorem Variant.takes_iff {v : Variant} {m : Material} {t : FeatureType}
    (ht : t ∈ FeatureType.catalogue) : v.takes m t.id = true ↔ v.Takes m t := by
  have hkeeps : v.keeps ⊆ FeatureType.catalogue := by cases v <;> decide
  have hne {u : FeatureType} (hu : u ∈ FeatureType.catalogue) :
      (t.id != u.id) = true ↔ t ≠ u := by
    rw [bne_iff_ne, ne_eq, not_iff_not]
    exact ⟨FeatureType.eq_of_id_eq ht hu, congrArg _⟩
  simp only [takes, Takes, Bool.and_eq_true, Bool.or_eq_true, FeatureType.any_id_iff ht hkeeps,
    beq_iff_eq, or_assoc]
  rw [hne (by decide), hne (by decide)]

/-- A variant does not keep its output: that it adds. -/
theorem Variant.takes_output (v : Variant) (m : Material) : v.takes m v.output.id = false := by
  have hkeeps : v.keeps.any (·.id == v.output.id) = false := by cases v <;> decide
  rw [takes, hkeeps, Bool.false_and]

/-- A variant has what it takes of the built-in features that it is given, and its output. -/
theorem Variant.mem_apply {v : Variant} {m : Material} {set : FeatureSet} {f : Feature}
    (hset : ∀ f ∈ set.entries, f.type ∈ FeatureType.catalogue) :
    f ∈ (v.apply m set).entries ↔ f ∈ set.entries ∧ v.Takes m f.type ∨ f = ⟨v.output, none⟩ := by
  let kept := set.filter fun f => v.keeps.any (·.id == f.type.id)
  let needed := if v != .glow && !m.alphaTest then
    (kept.remove FeatureType.diffuseMap.id).remove FeatureType.texAnim.id else kept
  have hneeded (f : Feature) :
      f ∈ needed.entries ↔ f ∈ set.entries ∧ v.takes m f.type.id = true := by
    cases hglow : v == .glow <;> cases halpha : m.alphaTest <;>
      simp [needed, kept, Variant.takes, bne, hglow, halpha, FeatureSet.remove, FeatureSet.filter,
        and_comm, and_left_comm, and_assoc]
  have hfresh : needed.hasAt v.output.id none = false := by
    rw [Bool.eq_false_iff, ne_eq, FeatureSet.hasAt_iff]
    rintro ⟨f, hf, e⟩
    have htakes := ((hneeded f).mp hf).2
    rw [show f.type.id = v.output.id from congrArg Prod.fst e, v.takes_output m] at htakes
    cases htakes
  rw [show v.apply m set = needed.insert ⟨v.output, none⟩ from rfl, FeatureSet.mem_insert_iff,
    and_iff_left hfresh, hneeded]
  exact or_congr_left (and_congr_right fun hf => Variant.takes_iff (hset f hf))

/-! ### The features of a stage -/

namespace Material

variable {m : Material} {config : Config} {format : VertexFormat} {variant : Option Variant}
  {number : Nat} {s : Stage} {f : Feature}

theorem mem_featuresOf (hnumber : number < 256) :
    f ∈ (m.featuresOf config format variant number s).entries ↔
      m.Draws config format variant number s f := by
  have hallowed (f : Feature) :
      f ∈ ((m.requested format number s).exclude config.exclusions).entries ↔
        m.Asks format number s f ∧ ¬ config.SwitchesOff f.type := by
    rw [FeatureSet.exclude, FeatureSet.filter, List.mem_filter, mem_requested,
      Nat.mod_eq_of_lt hnumber]
    refine and_congr_right fun h => ?_
    rw [← Config.has_exclusions_iff h.mem_catalogue, Bool.not_eq_true, Bool.not_eq_true']
  cases variant with
  | none => exact hallowed f
  | some v =>
      have hbuiltin : ∀ f ∈ ((m.requested format number s).exclude config.exclusions).entries,
          f.type ∈ FeatureType.catalogue := fun f hf => ((hallowed f).mp hf).1.mem_catalogue
      rw [featuresOf, Variant.mem_apply hbuiltin, hallowed, and_assoc, Draws]

/-- Of what a stage asks for, the ways of lighting are what lights it. -/
theorem Asks.litBy_iff (h : m.Asks format number s f) :
    f.type ∈ FeatureType.lightingPaths ↔ s.LitBy format number f := by
  constructor
  · intro hpath
    cases h with
    | lit h => exact h
    | vertTransform | hdrOut | pixSpecular => exact absurd hpath (by decide)
    | shows h | marks h => cases h <;> exact absurd hpath (by dsimp only; decide)
  · intro h
    cases h <;> (dsimp only; decide)

/-- In colour, what lights a stage is what there is of the ways of lighting. -/
theorem mem_lightingPaths_iff : m.Draws config format none number s f ∧
    f.type ∈ FeatureType.lightingPaths ↔ s.LitBy format number f := by
  constructor
  · rintro ⟨⟨hasks, -⟩, hpath⟩
    exact hasks.litBy_iff.mp hpath
  · intro h
    have hasks : m.Asks format number s f := .lit h
    have hpath := hasks.litBy_iff.mpr h
    exact ⟨⟨hasks, fun hoff => hoff.not_mem_lightingPaths hpath⟩, hpath⟩

/-- A material has no more stages than may be numbered. -/
theorem length_stages_le (h : m.validate = .ok ()) : m.stages.length ≤ maxStages := by
  unfold validate at h
  split at h
  · cases h
  · split at h
    · cases h
    next hmany => exact Nat.le_of_not_lt hmany

/-- **The features of a stage are exactly those that it asks for and that are not switched off; for a
variant, what the variant takes of these, and its output.**  In colour, a stage that gives light is
lit by nothing, and every other in exactly one way. -/
theorem mem_stageFeatures (m : Material) (config : Config) (format : VertexFormat)
    (variant : Option Variant) (number : Nat) (hvalid : m.validate = .ok ())
    (hnumber : number < m.stages.length) :
    ∃ set, m.stageFeatures config format variant number = .ok set ∧
      (∀ f, f ∈ set.entries ↔ m.Draws config format variant number m.stages[number] f) ∧
      (variant = none →
        (m.stages[number].emissive = true →
          ∀ f ∈ set.entries, f.type ∉ FeatureType.lightingPaths) ∧
        (m.stages[number].emissive = false →
          ∃! f, f ∈ set.entries ∧ f.type ∈ FeatureType.lightingPaths)) := by
  have hsmall : number < 256 :=
    (hnumber.trans_le (length_stages_le hvalid)).trans (by decide)
  have hmem (f : Feature) :
      f ∈ (m.featuresOf config format variant number m.stages[number]).entries ↔
        m.Draws config format variant number m.stages[number] f := mem_featuresOf hsmall
  refine ⟨_, ?_, hmem, ?_⟩
  · rw [stageFeatures, List.getElem?_eq_getElem hnumber]
  · rintro rfl
    simp only [hmem]
    constructor
    · intro hemissive f hf hpath
      have hlit := mem_lightingPaths_iff.mp ⟨hf, hpath⟩
      cases hlit <;> simp_all
    · intro hdark
      simp only [mem_lightingPaths_iff]
      exact Stage.existsUnique_litBy hdark

/-- Leaves that move and have a normal map, ahead of colour. -/
theorem mem_stageFeatures_leaves :
    let stage : Stage :=
      { diffuseMap := some "leaf.png", normalMap := some "veins.png", parallaxScale := 1,
        animation := { flags := { scroll := true } } }
    let m : Material := { name := "leaves", alphaTest := true, stages := [{}, stage] }
    m.validate = .ok () ∧ 1 < m.stages.length ∧
    ∃ set, m.stageFeatures {} .positionNormalTangentUv (some .prePass) 1 = .ok set ∧
      set.names = ["Vert Transform", "Texture Animation[1]", "Parallax[1]", "Diffuse Map[1]",
        "Normal Map[1]", "Alpha Test", "PrePass Conditioner"] ∧
      ∀ f, f ∈ set.entries ↔ m.Draws {} .positionNormalTangentUv (some .prePass) 1 stage f := by
  intro stage m
  have hvalid : m.validate = .ok () := rfl
  have hnumber : 1 < m.stages.length := by decide
  have hnames : (m.stageFeatures {} .positionNormalTangentUv (some .prePass) 1).toOption.map
      (·.names) = some ["Vert Transform", "Texture Animation[1]", "Parallax[1]", "Diffuse Map[1]",
        "Normal Map[1]", "Alpha Test", "PrePass Conditioner"] := by
    decide +kernel
  obtain ⟨set, hset, hmem, -⟩ := mem_stageFeatures m {} .positionNormalTangentUv (some .prePass) 1
    hvalid hnumber
  rw [hset] at hnames
  exact ⟨hvalid, hnumber, set, hset, Option.some.inj hnames, hmem⟩

end Material

end MaterialPipeline
