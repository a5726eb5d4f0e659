import MaterialPipeline.Proofs.Material.Membership
import MaterialPipeline.Proofs.Program.Coordinates

/-!
# Proofs — Material — Motion

Whether the maps of a moving stage move in every program that samples them.  Motion is asked for
with any of four maps (`Stage.animatedTypes`), and nothing switches it off; but without colour it
goes wherever the alpha test does not need the diffuse map, and ahead of colour the normal map is
sampled all the same.

* `Material.Stills`: what a material is drawn for where motion goes.
* `Material.draws_texAnim_iff`: there, a map that is drawn loses its motion, and nowhere else.
* `Material.motion_stageFeatures`: so do the coordinates that programs compute.
-/

namespace MaterialPipeline

/-- In a set of built-in features, a type is known by its number. -/
theorem FeatureSet.hasAt_type_iff {set : FeatureSet} {t : FeatureType} {stage : Option Nat}
    (h : ∀ f ∈ set.entries, f.type ∈ FeatureType.catalogue) (ht : t ∈ FeatureType.catalogue) :
    set.hasAt t.id stage = true ↔ ⟨t, stage⟩ ∈ set.entries := by
  rw [hasAt_iff]
  constructor
  · rintro ⟨⟨u, other⟩, hf, e⟩
    obtain ⟨hid, rfl⟩ := Prod.mk.inj e
    obtain rfl := FeatureType.eq_of_id_eq (h _ hf) ht hid
    exact hf
  · exact fun hf => ⟨_, hf, rfl⟩

namespace Material

variable {m : Material} {config : Config} {format : VertexFormat} {variant : Option Variant}
  {number : Nat} {s : Stage} {t : FeatureType} {stage : Option Nat} {f : Feature}

/-! ### Maps that move -/

/-- A map that is asked for is one of the stage, under its number. -/
theorem Asks.shows_of_mem_animatedTypes (h : m.Asks format number s ⟨t, stage⟩)
    (ht : t ∈ Stage.animatedTypes) : s.Shows format t ∧ stage = some number := by
  cases h with
  | shows h => exact ⟨h, rfl⟩
  | vertTransform | hdrOut | pixSpecular => exact absurd ht (by decide)
  | lit h | marks h => cases h <;> exact absurd ht (by decide)

theorem showsMotion_of_shows (h : s.Shows format t) (ht : t ∈ Stage.animatedTypes) :
    s.ShowsMotion format := by
  cases h with
  | diffuseMap h => exact .inl h
  | overlayMap h => exact .inr (.inl h)
  | detailMap h => exact .inr (.inr (.inl h))
  | normalMap h => exact .inr (.inr (.inr h))
  | texAnim _ h => exact h
  | _ => exact absurd ht (by decide)

/-- A map of a moving stage is asked for with its motion, which nothing switches off. -/
theorem asks_texAnim (config : Config) (hactive : s.animation.isActive = true)
    (h : m.Asks format number s ⟨t, stage⟩) (ht : t ∈ Stage.animatedTypes) :
    m.Asks format number s ⟨.texAnim, some number⟩ ∧ ¬ config.SwitchesOff .texAnim :=
  ⟨.shows (.texAnim hactive (showsMotion_of_shows (h.shows_of_mem_animatedTypes ht).1 ht)),
    fun hoff => nomatch hoff⟩

/-- What is drawn of the maps for some purpose is drawn in colour. -/
theorem Draws.colour (h : m.Draws config format variant number s ⟨t, stage⟩)
    (ht : t ∈ Stage.animatedTypes) : m.Draws config format none number s ⟨t, stage⟩ := by
  cases variant with
  | none => exact h
  | some v =>
      rcases h with ⟨hasks, hon, -⟩ | h
      · exact ⟨hasks, hon⟩
      · obtain ⟨rfl, -⟩ := Feature.mk.inj h
        exact absurd ht (by cases v <;> decide)

/-! ### Motion that goes -/

/-- Drawn ahead of colour, with nothing for the alpha test to sample. -/
def Stills (m : Material) (variant : Option Variant) : Prop :=
  variant = some .prePass ∧ m.alphaTest = false

end Material

/-- Motion is taken with the diffuse map. -/
theorem Variant.takes_texAnim_iff {v : Variant} {m : Material} :
    v.Takes m .texAnim ↔ v = .glow ∨ m.alphaTest = true := by
  have hkeeps : FeatureType.texAnim ∈ v.keeps := by cases v <;> decide
  simp [Takes, hkeeps]

/-- Where motion is taken out, the normal map alone is left, ahead of colour. -/
theorem Variant.takes_animated {v : Variant} {m : Material} {t : FeatureType}
    (h : v.Takes m t) (ht : t ∈ Stage.animatedTypes) :
    v = .glow ∨ m.alphaTest = true ∨ v = .prePass ∧ t = .normalMap := by
  have hshadow : ∀ t ∈ Stage.animatedTypes, t ∈ keeps .shadow → t = .diffuseMap := by decide
  have hprePass : ∀ t ∈ Stage.animatedTypes, t ∈ keeps .prePass →
      t = .diffuseMap ∨ t = .normalMap := by decide
  obtain ⟨hkeeps, hglow | halpha | ⟨hne, -⟩⟩ := h
  · exact .inl hglow
  · exact .inr (.inl halpha)
  · cases v with
    | glow => exact .inl rfl
    | shadow => exact absurd (hshadow t ht hkeeps) hne
    | prePass => exact .inr (.inr ⟨rfl, (hprePass t ht hkeeps).resolve_left hne⟩)

namespace Material

variable {m : Material} {config : Config} {format : VertexFormat} {variant : Option Variant}
  {number : Nat} {s : Stage} {t : FeatureType} {stage : Option Nat} {f : Feature}

/-- A map that is drawn of a moving stage is drawn with its motion, but where that goes; then it is
the normal map. -/
theorem draws_texAnim_iff (hactive : s.animation.isActive = true)
    (h : m.Draws config format variant number s ⟨t, stage⟩) (ht : t ∈ Stage.animatedTypes) :
    (m.Draws config format variant number s ⟨.texAnim, some number⟩ ↔ ¬ m.Stills variant) ∧
      (m.Stills variant → t = .normalMap) := by
  obtain ⟨hasks, hon⟩ := asks_texAnim config hactive (h.colour ht).1 ht
  cases variant with
  | none => exact ⟨iff_of_true ⟨hasks, hon⟩ (fun h => nomatch h.1), fun h => nomatch h.1⟩
  | some v =>
      have houtput : v.output ≠ .texAnim ∧ v.output ∉ Stage.animatedTypes := by
        cases v <;> decide
      have htakes : v.Takes m t := by
        rcases h with ⟨-, -, htakes⟩ | h
        · exact htakes
        · exact absurd ((Feature.mk.inj h).1 ▸ ht) houtput.2
      have hdraws : m.Draws config format (some v) number s ⟨.texAnim, some number⟩ ↔
          v = .glow ∨ m.alphaTest = true := by
        rw [← Variant.takes_texAnim_iff]
        refine ⟨?_, fun h => .inl ⟨hasks, hon, h⟩⟩
        rintro (⟨-, -, h⟩ | h)
        · exact h
        · exact absurd (Feature.mk.inj h).1.symm houtput.1
      rw [hdraws, Stills, Option.some.injEq]
      rcases Variant.takes_animated htakes ht with rfl | halpha | ⟨rfl, rfl⟩
      · exact ⟨iff_of_true (.inl rfl) (fun h => nomatch h.1), fun h => nomatch h.1⟩
      · simp [halpha]
      · simp

/-! ### The coordinates of programs -/

/-- The features that are drawn are built-in. -/
theorem Draws.mem_catalogue (h : m.Draws config format variant number s f) :
    f.type ∈ FeatureType.catalogue := by
  cases variant with
  | none => exact h.1.mem_catalogue
  | some v =>
      rcases h with ⟨hasks, -⟩ | rfl
      · exact hasks.mem_catalogue
      · cases v <;> decide

/-- In colour or for a variant, a stage has the features that are drawn. -/
theorem hasAt_featuresOf_iff (hnumber : number < 256) (ht : t ∈ FeatureType.catalogue) :
    (m.featuresOf config format variant number s).hasAt t.id stage = true ↔
      m.Draws config format variant number s ⟨t, stage⟩ := by
  rw [FeatureSet.hasAt_type_iff (fun f hf => ((mem_featuresOf hnumber).mp hf).mem_catalogue) ht,
    mem_featuresOf hnumber]

/-- If a map is in a set, its coordinate is computed, and moved if the motion is in the set. -/
theorem assignments_of_hasAt {set : FeatureSet} (ht : t ∈ Stage.animatedTypes)
    (h : set.hasAt t.id stage = true) :
    (Registry.builtin.draft format set).assignments (Varying.coord stage).name =
      [Generator.coordText stage (set.hasAt FeatureType.texAnim.id stage)] := by
  have hmaps : ∀ t ∈ Stage.animatedTypes, t.id ∈ Generator.coordTypes := by decide
  rw [Registry.assignments_coord, if_pos (List.any_eq_true.mpr ⟨t.id, hmaps t ht, h⟩)]

/-- In colour, the coordinate of a moving stage is moved, whatever is drawn along with it. -/
theorem assignments_colour {layers block : List Layer} {l : Layer}
    (hlayers : m.layers config format none = .ok layers) (hblock : block ⊆ layers) (hl : l ∈ block)
    (hs : m.stages[l.stage]? = some s) (hactive : s.animation.isActive = true)
    (ht : t ∈ Stage.animatedTypes)
    (hdraws : m.Draws config format none l.stage s ⟨t, some l.stage⟩) :
    (Registry.builtin.draft format (FeatureSet.mergeAll (block.map (·.features)))).assignments
      (Varying.coord (some l.stage)).name = [Generator.coordText (some l.stage) true] := by
  obtain ⟨hlt, s', hs', -, hfeatures⟩ := stage_of_mem_layers hlayers (hblock hl)
  obtain rfl : s = s' := Option.some.inj (hs.symm.trans hs')
  have hsmall : l.stage < 256 := hlt.trans (by decide)
  have hunion {u : FeatureType} (hu : u ∈ FeatureType.catalogue)
      (h : m.Draws config format none l.stage s ⟨u, some l.stage⟩) :
      (FeatureSet.mergeAll (block.map (·.features))).hasAt u.id (some l.stage) = true := by
    refine FeatureSet.hasAt_mergeAll.mpr ⟨l.features, List.mem_map_of_mem hl, ?_⟩
    rw [hfeatures, hasAt_featuresOf_iff hsmall hu]
    exact h
  rw [assignments_of_hasAt ht (hunion hdraws.mem_catalogue hdraws),
    hunion (by decide) (asks_texAnim config hactive hdraws.1 ht)]

/-- **Motion goes with the diffuse map.**  A map of a moving stage is drawn with the motion of the
stage, unless it is drawn ahead of colour without alpha test; then the map is the normal map.  The
programs for colour move the coordinate of the stage.  So whatever the stage is drawn for, its
program computes the coordinate as those do, and exactly there it does not. -/
theorem motion_stageFeatures (m : Material) (config : Config) (format : VertexFormat)
    (variant : Option Variant) (number : Nat) (hvalid : m.validate = .ok ())
    (hnumber : number < m.stages.length)
    (hactive : m.stages[number].animation.isActive = true) :
    ∃ set layers, m.stageFeatures config format variant number = .ok set ∧
      m.layers config format none = .ok layers ∧
      ∀ t ∈ Stage.animatedTypes, ⟨t, some number⟩ ∈ set.entries →
        (⟨.texAnim, some number⟩ ∈ set.entries ↔ ¬ m.Stills variant) ∧
        (m.Stills variant → t = .normalMap) ∧
        ∀ block ⊆ layers, (∃ l ∈ block, l.stage = number) →
          let coord := (Varying.coord (some number)).name
          let own := Registry.builtin.draft format set
          let colour := Registry.builtin.draft format
            (FeatureSet.mergeAll (block.map (·.features)))
          colour.assignments coord = [Generator.coordText (some number) true] ∧
            (own.assignments coord = colour.assignments coord ↔ ¬ m.Stills variant) := by
  have hsmall : number < 256 :=
    (hnumber.trans_le (length_stages_le hvalid)).trans (by decide)
  have hstage := List.getElem?_eq_getElem hnumber
  have hlayers : ∃ layers, m.layers config format none = .ok layers := by
    rw [layers, hvalid]
    exact ⟨_, rfl⟩
  obtain ⟨layers, hlayers⟩ := hlayers
  refine ⟨m.featuresOf config format variant number m.stages[number], layers, ?_, hlayers,
    fun t ht hmem => ?_⟩
  · rw [stageFeatures, hstage]
  have hdraws := (mem_featuresOf hsmall).mp hmem
  obtain ⟨hiff, hnormal⟩ := draws_texAnim_iff hactive hdraws ht
  refine ⟨(mem_featuresOf hsmall).trans hiff, hnormal, ?_⟩
  rintro block hblock ⟨l, hl, rfl⟩
  have hcolour := assignments_colour hlayers hblock hl hstage hactive ht (hdraws.colour ht)
  refine ⟨hcolour, ?_⟩
  have hown := (hasAt_featuresOf_iff hsmall hdraws.mem_catalogue).mpr hdraws
  rw [hcolour, assignments_of_hasAt ht hown, List.singleton_inj, Generator.coordText_inj,
    hasAt_featuresOf_iff hsmall (by decide), hiff]

/-- A wall of moving bricks, ahead of colour. -/
theorem motion_stageFeatures_of_bricks :
    let stage : Stage :=
      { diffuseMap := some "bricks.png", normalMap := some "mortar.png",
        animation := { flags := { scroll := true } } }
    let m : Material := { name := "wall", stages := [stage] }
    m.validate = .ok () ∧ 0 < m.stages.length ∧ stage.animation.isActive = true ∧
    ∃ set, m.stageFeatures {} .positionNormalTangentUv (some .prePass) 0 = .ok set ∧
      ⟨.normalMap, some 0⟩ ∈ set.entries ∧ ⟨.texAnim, some 0⟩ ∉ set.entries := by
  intro stage m
  have hvalid : m.validate = .ok () := rfl
  have hnumber : 0 < m.stages.length := by decide
  have hactive : m.stages[0].animation.isActive = true := rfl
  have hmap : (m.stageFeatures {} .positionNormalTangentUv (some .prePass) 0).toOption.any
      (⟨.normalMap, some 0⟩ ∈ ·.entries) = true := by
    decide +kernel
  obtain ⟨set, layers, hset, -, hmotion⟩ := motion_stageFeatures m {} .positionNormalTangentUv
    (some .prePass) 0 hvalid hnumber hactive
  rw [hset] at hmap
  have hmem : ⟨.normalMap, some 0⟩ ∈ set.entries := of_decide_eq_true hmap
  exact ⟨hvalid, hnumber, hactive, set, hset, hmem, fun hanim =>
    (hmotion .normalMap (by decide) hmem).1.mp hanim ⟨rfl, rfl⟩⟩

end Material

end MaterialPipeline
