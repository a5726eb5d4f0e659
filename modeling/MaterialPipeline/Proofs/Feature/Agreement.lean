import MaterialPipeline.Proofs.Feature.Sharing
import MaterialPipeline.Proofs.Program.Declared

/-!
# Proofs — Feature — Agreement

Every built-in generator declares, costs and reads what its entries need and pay for
(`agrees_builtin`).  One lemma for each generator says so, or one for a family of them:

* `agrees_of_fixed`: generators that read no texture and always declare the same.
* `agrees_of_map`: the maps that only sample at the coordinate of their stage.
-/

namespace MaterialPipeline.Generator

variable {id : FeatureId} {g : Generator} {set : FeatureSet} {stage : Option Nat}

/-- The names of the varyings that a generator contributes to both halves. -/
def varyingNames (g : Generator) (c : Scope) : List String :=
  (g.vertex c).filterMap (·.varying?) ++ (g.pixel c).filterMap (·.varying?)

/-- What a generator declares, costs and reads, for entries of the type numbered `id`, is what they
need and pay for. -/
structure Agrees (id : FeatureId) (g : Generator) : Prop where
  /-- Only what is needed is declared. -/
  varyings : ∀ c, ∀ name ∈ g.varyingNames c, ∃ v ∈ Varying.neededBy id c.stage, v.name = name
  /-- What is paid for is declared. -/
  emits : ∀ c, ∀ v ∈ Varying.neededBy id c.stage,
    v.payer c.features = some (id, c.stage) → v.name ∈ g.varyingNames c
  interpolators : ∀ set stage, FeatureType.Suits id stage → set.hasAt id stage = true →
    (g.cost set stage).interpolators =
      (Varying.neededBy id stage).countP (·.payer set = some (id, stage))
  vertexSamplers : ∀ c, (g.vertex c).filterMap (·.sampler?) = []
  pixelSamplers : ∀ c, FeatureType.Suits id c.stage →
    (g.pixel c).filterMap (·.sampler?) = (TextureSource.neededBy id c.stage).map (·.samplerName)
  requests : ∀ stage, (g.textures stage).map (·.1) =
    (TextureSource.neededBy id stage).map (·.samplerName)
  textures : ∀ set stage, FeatureType.Suits id stage → set.hasAt id stage = true →
    (g.cost set stage).textures =
      (TextureSource.neededBy id stage).countP (·.payer set = some (id, stage))

/-! ### Fixed varyings -/

/-- A generator that reads no texture, and always declares the same varyings and pays for them. -/
theorem agrees_of_fixed (varyings : List Varying)
    (hneeds : ∀ stage, Varying.neededBy id stage = varyings)
    (hnames : ∀ c, g.varyingNames c = varyings.map (·.name))
    (hcost : g.cost = fun _ _ => ⟨0, varyings.length⟩)
    (hpays : ∀ set, varyings.map (·.payer set) = varyings.map fun _ => some (id, none))
    (hstaged : varyings ≠ [] → id ∉ FeatureType.staged)
    (hreads : ∀ stage, TextureSource.neededBy id stage = [])
    (htextures : g.textures = fun _ => [])
    (hvertex : ∀ c, (g.vertex c).filterMap (·.sampler?) = [])
    (hpixel : ∀ c, (g.pixel c).filterMap (·.sampler?) = []) : Agrees id g where
  varyings c name h := by
    rw [hnames] at h
    rw [hneeds]
    exact List.mem_map.mp h
  emits c v hv _ := by
    rw [hneeds] at hv
    rw [hnames]
    exact List.mem_map_of_mem hv
  interpolators set stage hsuits _ := by
    rw [hcost, hneeds, eq_comm, List.countP_eq_length]
    intro v hv
    rw [List.map_inj_left.mp (hpays set) v hv,
      hsuits.eq_none (hstaged (List.ne_nil_of_mem hv)), decide_eq_true_eq]
  vertexSamplers := hvertex
  pixelSamplers c _ := by rw [hpixel, hreads, List.map_nil]
  requests stage := by rw [htextures, hreads, List.map_nil, List.map_nil]
  textures set stage _ _ := by rw [hcost, hreads, List.countP_nil]

/-- A generator that declares nothing between the halves and reads no texture. -/
theorem agrees_of_plain
    (hneeds : ∀ stage, Varying.neededBy id stage = []) (hnames : ∀ c, g.varyingNames c = [])
    (hcost : g.cost = fun _ _ => .none) (hreads : ∀ stage, TextureSource.neededBy id stage = [])
    (htextures : g.textures = fun _ => [])
    (hvertex : ∀ c, (g.vertex c).filterMap (·.sampler?) = [])
    (hpixel : ∀ c, (g.pixel c).filterMap (·.sampler?) = []) : Agrees id g :=
  agrees_of_fixed [] hneeds hnames hcost (fun _ => rfl) (absurd rfl) hreads htextures hvertex hpixel

/-- The generators that declare nothing between the halves and read no texture. -/
theorem agrees_plain : ∀ p ∈ [(FeatureType.vertTransform, vertTransform), (.texAnim, texAnim),
    (.diffuseColor, diffuseColor), (.alphaTest, alphaTest), (.pixSpecular, pixSpecular),
    (.fog, fog), (.visibility, visibility), (.glowMask, glowMask), (.hdrOut, hdrOut),
    (.translucent, marker), (.translucentZWrite, marker)], Agrees p.1.id p.2 := by
  simp only [List.forall_mem_cons, List.not_mem_nil, false_imp_iff, implies_true, and_true]
  refine ⟨?_, ?_, ?_, ?_, ?_, ?_, ?_, ?_, ?_, ?_, ?_⟩ <;>
    exact agrees_of_plain (fun _ => rfl) (fun _ => rfl) rfl (fun _ => rfl) rfl (fun _ => rfl)
      fun _ => rfl

theorem agrees_vertLit : Agrees FeatureType.vertLit.id vertLit :=
  agrees_of_fixed [.vertexColor] (fun _ => rfl) (fun _ => rfl) rfl (fun _ => rfl) (by decide)
    (fun _ => rfl) rfl (fun _ => rfl) fun _ => rfl

theorem agrees_rtLighting : Agrees FeatureType.rtLighting.id rtLighting :=
  agrees_of_fixed [.position, .normal] (fun _ => rfl)
    (fun c => by simp only [varyingNames, rtLighting]; split <;> rfl) rfl (fun _ => rfl)
    (by decide) (fun _ => rfl) rfl (fun c => by simp only [rtLighting]; split <;> rfl) fun _ => rfl

theorem agrees_prePassConditioner :
    Agrees FeatureType.prePassConditioner.id prePassConditioner :=
  agrees_of_fixed [.normalDepth] (fun _ => rfl) (fun _ => rfl) rfl (fun _ => rfl) (by decide)
    (fun _ => rfl) rfl (fun _ => rfl) fun _ => rfl

theorem agrees_depthOut : Agrees FeatureType.depthOut.id depthOut :=
  agrees_of_fixed [.depth] (fun _ => rfl) (fun _ => rfl) rfl (fun _ => rfl) (by decide)
    (fun _ => rfl) rfl (fun _ => rfl) fun _ => rfl

/-! ### Maps -/

theorem payer_coord_iff :
    (Varying.coord stage).payer set = some (id, stage) ↔ claimsCoord set stage id = true := by
  simp only [Varying.payer, claimsCoord, Option.map_eq_some_iff, Prod.mk.injEq, and_true,
    exists_eq_right, beq_iff_eq]

theorem varyings_coordVertex (c : Scope) : (coordVertex c id).filterMap (·.varying?) =
    if claimsCoord c.features c.stage id then [(Varying.coord c.stage).name] else [] := by
  unfold coordVertex
  cases claimsCoord c.features c.stage id with
  | false => rfl
  | true =>
      rw [if_neg (by decide), if_pos rfl]
      split <;> rfl

theorem samplers_coordVertex (c : Scope) :
    (coordVertex c id).filterMap (·.sampler?) = [] := by
  unfold coordVertex
  split
  · rfl
  · split <;> rfl

/-- The sampler of the one map that an entry reads. -/
theorem indexed_eq_samplerNames {base : String} {kind : MapKind} (hid : id ∈ FeatureType.staged)
    (hreads : ∀ stage, TextureSource.neededBy id stage = [.map (stage.getD 0) kind])
    (hbase : ∀ n, (TextureSource.map n kind).base = base) {c : Scope}
    (hsuits : FeatureType.Suits id c.stage) :
    [c.indexed base] = (TextureSource.neededBy id c.stage).map (·.samplerName) := by
  obtain ⟨n, hn⟩ := hsuits.eq_some hid
  rw [Scope.indexed, hn, hreads, List.map_singleton, TextureSource.samplerName, hbase]
  rfl

/-- An entry that reads one texture, which no entries of another type read, pays for it. -/
theorem one_eq_countP_payer {t : TextureSource} (hreads : TextureSource.neededBy id stage = [t])
    (htypes : t.types = [id]) (hnumber : t.number = stage) (h : set.hasAt id stage = true) :
    1 = (TextureSource.neededBy id stage).countP (·.payer set = some (id, stage)) := by
  have hfind : [id].find? (set.hasAt · stage) = some id := List.find?_cons_of_pos h
  have hpayer : t.payer set = some (id, stage) := by
    rw [TextureSource.payer, htypes, hnumber, hfind, Option.map_some]
  rw [hreads, List.countP_singleton, if_pos (decide_eq_true hpayer)]

/-- A height map pays for the sampler that it shares. -/
theorem payer_normal_of_parallax {n : Nat}
    (h : set.hasAt FeatureType.parallax.id (some n) = true) :
    (TextureSource.map n .normal).payer set = some (FeatureType.parallax.id, some n) := by
  have hfind : [FeatureType.parallax.id, FeatureType.normalMap.id].find? (set.hasAt · (some n)) =
      some FeatureType.parallax.id := List.find?_cons_of_pos h
  rw [TextureSource.payer, TextureSource.types, TextureSource.number, hfind, Option.map_some]

/-- A normal map pays for its sampler, if no height map does. -/
theorem payer_normal_of_normalMap {n : Nat}
    (hnot : ¬ set.hasAt FeatureType.parallax.id (some n) = true)
    (h : set.hasAt FeatureType.normalMap.id (some n) = true) :
    (TextureSource.map n .normal).payer set = some (FeatureType.normalMap.id, some n) := by
  have hfind : [FeatureType.parallax.id, FeatureType.normalMap.id].find? (set.hasAt · (some n)) =
      some FeatureType.normalMap.id := by
    rw [List.find?_cons_of_neg (p := (set.hasAt · (some n))) hnot]
    exact List.find?_cons_of_pos h
  rw [TextureSource.payer, TextureSource.types, TextureSource.number, hfind, Option.map_some]

/-- A map that only samples at the coordinate of its stage. -/
theorem agrees_of_map {base : String} {kind : MapKind} (hid : id ∈ FeatureType.staged)
    (hneeds : ∀ stage, Varying.neededBy id stage = [.coord stage])
    (hreads : ∀ stage, TextureSource.neededBy id stage = [.map (stage.getD 0) kind])
    (hbase : ∀ n, (TextureSource.map n kind).base = base)
    (htypes : ∀ n, (TextureSource.map n kind).types = [id])
    (hvertex : g.vertex = (coordVertex · id))
    (hvaryings : ∀ c, (g.pixel c).filterMap (·.varying?) = [(Varying.coord c.stage).name])
    (hsamplers : ∀ c, (g.pixel c).filterMap (·.sampler?) = [c.indexed base])
    (hcost : g.cost = mapCost id) (htextures : g.textures = mapTexture base kind) :
    Agrees id g where
  varyings c name h := by
    rw [varyingNames, hvertex, hvaryings, varyings_coordVertex] at h
    rw [hneeds]
    refine ⟨_, List.mem_singleton_self _, ?_⟩
    split at h <;> simpa [eq_comm] using h
  emits c v hv _ := by
    rw [hneeds] at hv
    rw [varyingNames, hvaryings, List.mem_singleton.mp hv]
    exact List.mem_append_right _ (List.mem_singleton_self _)
  interpolators set stage _ _ := by
    rw [hcost, hneeds, List.countP_singleton]
    simp only [payer_coord_iff, decide_eq_true_eq]
    rfl
  vertexSamplers c := by rw [hvertex, samplers_coordVertex]
  pixelSamplers c hsuits := by
    rw [hsamplers, indexed_eq_samplerNames hid hreads hbase hsuits]
  requests stage := by
    rw [htextures, hreads, List.map_singleton, TextureSource.samplerName, hbase]
    rfl
  textures set stage hsuits h := by
    obtain ⟨n, rfl⟩ := hsuits.eq_some hid
    rw [hcost, ← one_eq_countP_payer (hreads (some n)) (htypes n) rfl h]
    rfl

theorem agrees_diffuseMap : Agrees FeatureType.diffuseMap.id diffuseMap :=
  agrees_of_map (by decide) (fun _ => rfl) (fun _ => rfl) (fun _ => rfl) (fun _ => rfl) rfl
    (fun _ => rfl) (fun _ => rfl) rfl rfl

theorem agrees_overlayMap : Agrees FeatureType.overlayMap.id overlayMap :=
  agrees_of_map (by decide) (fun _ => rfl) (fun _ => rfl) (fun _ => rfl) (fun _ => rfl) rfl
    (fun _ => rfl) (fun _ => rfl) rfl rfl

theorem agrees_detailMap : Agrees FeatureType.detailMap.id detailMap :=
  agrees_of_map (by decide) (fun _ => rfl) (fun _ => rfl) (fun _ => rfl) (fun _ => rfl) rfl
    (fun _ => rfl) (fun _ => rfl) rfl rfl

theorem agrees_specularMap : Agrees FeatureType.specularMap.id specularMap :=
  agrees_of_map (by decide) (fun _ => rfl) (fun _ => rfl) (fun _ => rfl) (fun _ => rfl) rfl
    (fun _ => rfl) (fun _ => rfl) rfl rfl

/-! ### Shared by several stages -/

theorem payer_eye_iff : Varying.eye.payer set = some (FeatureType.parallax.id, stage) ↔
    isFirst set FeatureType.parallax.id stage = true := by
  simp only [Varying.payer, isFirst, Option.map_eq_some_iff, Prod.mk.injEq, true_and,
    exists_eq_right, beq_iff_eq]

theorem payer_frame_iff {row : Fin 3} :
    (Varying.frame row).payer set = some (FeatureType.normalMap.id, stage) ↔
      isFirst set FeatureType.normalMap.id stage = true := by
  simp only [Varying.payer, isFirst, Option.map_eq_some_iff, Prod.mk.injEq, true_and,
    exists_eq_right, beq_iff_eq]

theorem neededBy_parallax (stage : Option Nat) :
    Varying.neededBy FeatureType.parallax.id stage = [.coord stage, .eye] := rfl

theorem varyingNames_parallax (c : Scope) : parallax.varyingNames c =
    (if claimsCoord c.features c.stage FeatureType.parallax.id then
      [(Varying.coord c.stage).name] else []) ++
    [Varying.eye.name, (Varying.coord c.stage).name] := by
  rw [varyingNames, parallax, List.filterMap_append, varyings_coordVertex, List.append_assoc]
  rfl

/-- The first height map pays for the direction to the eye.  A height map shares its sampler with
the normal map of its stage, and pays for it. -/
theorem agrees_parallax : Agrees FeatureType.parallax.id parallax where
  varyings c name h := by
    rw [neededBy_parallax]
    rw [varyingNames_parallax, List.mem_append, List.mem_pair] at h
    rcases h with h | rfl | rfl
    · split at h
      · exact ⟨.coord c.stage, List.mem_cons_self, (List.mem_singleton.mp h).symm⟩
      · cases h
    · exact ⟨.eye, by simp, rfl⟩
    · exact ⟨.coord c.stage, List.mem_cons_self, rfl⟩
  emits c v hv _ := by
    rw [neededBy_parallax, List.mem_pair] at hv
    rw [varyingNames_parallax, List.mem_append, List.mem_pair]
    rcases hv with rfl | rfl
    · exact .inr (.inr rfl)
    · exact .inr (.inl rfl)
  interpolators set stage _ _ := by
    rw [neededBy_parallax, List.countP_cons, List.countP_singleton, Nat.add_comm]
    simp only [payer_coord_iff, payer_eye_iff, decide_eq_true_eq]
    rfl
  vertexSamplers c := by
    rw [parallax, List.filterMap_append, samplers_coordVertex]
    rfl
  pixelSamplers c hsuits :=
    indexed_eq_samplerNames (by decide) (fun _ => rfl) (fun _ => rfl) hsuits
  requests stage := rfl
  textures set stage hsuits h := by
    obtain ⟨n, rfl⟩ := hsuits.eq_some (by decide)
    have hreads : TextureSource.neededBy FeatureType.parallax.id (some n) = [.map n .normal] := rfl
    have hpayer := payer_normal_of_parallax h
    rw [hreads, List.countP_singleton, if_pos (decide_eq_true hpayer)]
    rfl

theorem neededBy_normalMap (stage : Option Nat) :
    Varying.neededBy FeatureType.normalMap.id stage =
      [.coord stage, .frame 0, .frame 1, .frame 2] := rfl

theorem varyingNames_normalMap (c : Scope) : normalMap.varyingNames c =
    (if claimsCoord c.features c.stage FeatureType.normalMap.id then
      [(Varying.coord c.stage).name] else []) ++
    ((if isFirst c.features FeatureType.normalMap.id c.stage then
      [(Varying.frame 0).name, (Varying.frame 1).name, (Varying.frame 2).name] else []) ++
    [(Varying.coord c.stage).name]) := by
  rw [varyingNames, normalMap, List.filterMap_append, varyings_coordVertex, List.append_assoc]
  split <;> split <;> rfl

/-- The first normal map pays for the tangent frame. -/
theorem agrees_normalMap : Agrees FeatureType.normalMap.id normalMap where
  varyings c name h := by
    rw [neededBy_normalMap]
    rw [varyingNames_normalMap, List.mem_append, List.mem_append, List.mem_singleton] at h
    rcases h with h | h | rfl
    · split at h
      · exact ⟨.coord c.stage, List.mem_cons_self, (List.mem_singleton.mp h).symm⟩
      · cases h
    · split at h
      · obtain ⟨v, hv, rfl⟩ := List.mem_map.mp
          (show name ∈ [Varying.frame 0, .frame 1, .frame 2].map (·.name) from h)
        exact ⟨v, List.mem_cons_of_mem _ hv, rfl⟩
      · cases h
    · exact ⟨.coord c.stage, List.mem_cons_self, rfl⟩
  emits c v hv hp := by
    rw [neededBy_normalMap] at hv
    rw [varyingNames_normalMap, List.mem_append, List.mem_append]
    rcases List.mem_cons.mp hv with rfl | hv
    · exact .inr (.inr (List.mem_singleton_self _))
    · have hfirst : isFirst c.features FeatureType.normalMap.id c.stage = true := by
        simp only [List.mem_cons, List.not_mem_nil, or_false] at hv
        rcases hv with rfl | rfl | rfl <;> exact payer_frame_iff.mp hp
      rw [if_pos hfirst]
      exact .inr (.inl (List.mem_map_of_mem (f := Varying.name) hv))
  interpolators set stage _ _ := by
    rw [neededBy_normalMap]
    simp only [List.countP_cons, List.countP_nil, payer_coord_iff, payer_frame_iff,
      decide_eq_true_eq, normalMap, coordCost, tangentFrameInterpolators]
    split <;> split <;> rfl
  vertexSamplers c := by
    rw [normalMap, List.filterMap_append, samplers_coordVertex]
    split <;> rfl
  pixelSamplers c hsuits :=
    indexed_eq_samplerNames (by decide) (fun _ => rfl) (fun _ => rfl) hsuits
  requests stage := rfl
  textures set stage hsuits h := by
    obtain ⟨n, rfl⟩ := hsuits.eq_some (by decide)
    have hreads : TextureSource.neededBy FeatureType.normalMap.id (some n) = [.map n .normal] := rfl
    have hne : FeatureType.parallax.id ≠ FeatureType.normalMap.id := by decide
    rw [hreads, List.countP_singleton]
    by_cases hparallax : set.hasAt FeatureType.parallax.id (some n) = true
    · rw [payer_normal_of_parallax hparallax]
      simp [normalMap, hparallax, hne]
    · have hpayer := payer_normal_of_normalMap hparallax h
      rw [if_pos (decide_eq_true hpayer)]
      exact if_neg hparallax

/-- The light map. -/
theorem agrees_lightMap : Agrees FeatureType.lightMap.id lightMap where
  varyings c name h := ⟨.lightCoord, List.mem_cons_self, (List.mem_singleton.mp h).symm⟩
  emits c v hv _ := List.mem_map_of_mem (f := Varying.name) hv
  interpolators set stage hsuits h := by
    obtain rfl := hsuits.eq_none (by decide)
    have hneeds : Varying.neededBy FeatureType.lightMap.id none = [.lightCoord] := rfl
    have hpayer : Varying.lightCoord.payer set = some (FeatureType.lightMap.id, none) :=
      if_pos (FeatureSet.has_iff.mpr ⟨none, h⟩)
    rw [hneeds, List.countP_singleton, if_pos (decide_eq_true hpayer)]
    rfl
  vertexSamplers c := rfl
  pixelSamplers c hsuits := rfl
  requests stage := rfl
  textures set stage hsuits h := by
    obtain rfl := hsuits.eq_none (by decide)
    exact one_eq_countP_payer rfl rfl rfl h

theorem payer_lightCoord_iff :
    Varying.lightCoord.payer set = some (FeatureType.toneMap.id, stage) ↔
      (!set.has FeatureType.lightMap.id && isFirst set FeatureType.toneMap.id stage) = true := by
  have hne : FeatureType.lightMap.id ≠ FeatureType.toneMap.id := by decide
  cases hmap : set.has FeatureType.lightMap.id with
  | true => simp [Varying.payer, hmap, hne]
  | false => simp [Varying.payer, hmap, isFirst]

/-- Without the light map, the first tone map pays for the coordinate. -/
theorem agrees_toneMap : Agrees FeatureType.toneMap.id toneMap where
  varyings c name h := ⟨.lightCoord, List.mem_cons_self, (List.mem_singleton.mp h).symm⟩
  emits c v hv _ := List.mem_map_of_mem (f := Varying.name) hv
  interpolators set stage _ _ := by
    have hneeds : Varying.neededBy FeatureType.toneMap.id stage = [.lightCoord] := rfl
    rw [hneeds, List.countP_singleton]
    simp only [payer_lightCoord_iff, decide_eq_true_eq]
    rfl
  vertexSamplers c := rfl
  pixelSamplers c hsuits :=
    indexed_eq_samplerNames (by decide) (fun _ => rfl) (fun _ => rfl) hsuits
  requests stage := rfl
  textures set stage hsuits h := by
    obtain ⟨n, rfl⟩ := hsuits.eq_some (by decide)
    exact one_eq_countP_payer rfl rfl rfl h

theorem agrees_cubeMap : Agrees FeatureType.cubeMap.id cubeMap where
  varyings c name h :=
    ⟨.reflection c.stage, List.mem_cons_self, (List.mem_singleton.mp h).symm⟩
  emits c v hv _ := List.mem_map_of_mem (f := Varying.name) hv
  interpolators set stage _ _ := by
    have hneeds : Varying.neededBy FeatureType.cubeMap.id stage = [.reflection stage] := rfl
    have hpayer : (Varying.reflection stage).payer set = some (FeatureType.cubeMap.id, stage) := rfl
    rw [hneeds, List.countP_singleton, if_pos (decide_eq_true hpayer)]
    rfl
  vertexSamplers c := rfl
  pixelSamplers c hsuits :=
    indexed_eq_samplerNames (by decide) (fun _ => rfl) (fun _ => rfl) hsuits
  requests stage := rfl
  textures set stage hsuits h := by
    obtain ⟨n, rfl⟩ := hsuits.eq_some (by decide)
    exact one_eq_countP_payer rfl rfl rfl h

/-- **The built-in generators agree** with what their entries need and pay for. -/
theorem agrees_builtin : ∀ p ∈ builtin, Agrees p.1.id p.2 := by
  simp only [builtin, List.forall_mem_cons, List.not_mem_nil, false_imp_iff, implies_true, and_true]
  exact ⟨agrees_plain (.vertTransform, vertTransform) (by simp),
    agrees_plain (.texAnim, texAnim) (by simp), agrees_parallax, agrees_diffuseMap,
    agrees_overlayMap, agrees_detailMap, agrees_plain (.diffuseColor, diffuseColor) (by simp),
    agrees_normalMap, agrees_specularMap, agrees_plain (.alphaTest, alphaTest) (by simp),
    agrees_vertLit, agrees_lightMap, agrees_toneMap, agrees_rtLighting,
    agrees_plain (.pixSpecular, pixSpecular) (by simp), agrees_cubeMap,
    agrees_plain (.fog, fog) (by simp), agrees_plain (.visibility, visibility) (by simp),
    agrees_plain (.glowMask, glowMask) (by simp), agrees_prePassConditioner, agrees_depthOut,
    agrees_plain (.hdrOut, hdrOut) (by simp), agrees_plain (.translucent, marker) (by simp),
    agrees_plain (.translucentZWrite, marker) (by simp)⟩

end MaterialPipeline.Generator
