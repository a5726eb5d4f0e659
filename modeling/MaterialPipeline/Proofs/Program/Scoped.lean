import MaterialPipeline.Proofs.Feature.Scoped
import MaterialPipeline.Proofs.Program.Without

/-!
# Proofs — Program — Scoped

Which names the bodies of a built-in program use, against what the program declares.

* `declared_of_mem_vertexBody`, `declared_of_mem_pixelBody`: a constant that a body names is
  declared, unless it says where an object stands.
* `world_mem_vertexBody_iff`, `world_not_mem_pixelBody`: who names that one.
* `introduced_pixelBody`: the locals that the pixel body introduces.  That of the overlays comes
  once for each of them (`count_overlay`), and any other once at most (`count_le_one`).
-/

namespace MaterialPipeline

open Words

/-- A list of one thing, without repetitions. -/
theorem length_le_one_of_forall_eq {α : Type} {l : List α} (hnodup : l.Nodup)
    (h : ∀ a ∈ l, ∀ b ∈ l, a = b) : l.length ≤ 1 := by
  rcases l with _ | ⟨a, _ | ⟨b, rest⟩⟩
  · exact Nat.zero_le 1
  · exact Nat.le_refl 1
  · have hne := (List.nodup_cons.mp hnodup).1
    rw [h a List.mem_cons_self b (List.mem_cons_of_mem a List.mem_cons_self)] at hne
    exact absurd List.mem_cons_self hne

/-! ### Bodies -/

namespace Draft

variable (d : Draft)

/-- What stands between the braces of the vertex half. -/
def vertexBody : String :=
  String.join (d.vertexLines.map lineText)

/-- What stands between the braces of the pixel half. -/
def pixelBody : String :=
  "    var col = vec4<f32>(1.0);\n" ++ String.join (d.pixelLines.map lineText) ++
    "    return col;\n"

/-- The vertex half is the declarations and the body. -/
theorem vertexSource_eq : d.vertexSource =
    String.join (d.uniforms.map uniformText ++ d.varyings.map varyingText) ++
      "fn vs_main() \x7b\n" ++ d.vertexBody ++ "\x7d\n" := by
  rw [vertexSource, vertexBody]
  simp only [String.join_append, String.join_cons, String.join_nil, String.append_empty]

theorem exists_vertexSource_eq : ∃ declarations, d.vertexSource =
    declarations ++ "fn vs_main() \x7b\n" ++ d.vertexBody ++ "\x7d\n" :=
  ⟨_, d.vertexSource_eq⟩

/-- The pixel half is some declarations and the body. -/
theorem exists_pixelSource_eq : ∃ declarations, d.pixelSource =
    declarations ++ "fn fs_main() -> vec4<f32> \x7b\n" ++ d.pixelBody ++ "\x7d\n" := by
  refine ⟨String.join (d.uniforms.map uniformText ++ d.samplers.map samplerText ++
    d.varyings.map varyingText), ?_⟩
  have hfirst : "fn fs_main() -> vec4<f32> \x7b\n    var col = vec4<f32>(1.0);\n" =
      "fn fs_main() -> vec4<f32> \x7b\n" ++ "    var col = vec4<f32>(1.0);\n" := by
    decide +kernel
  have hlast : "    return col;\n\x7d\n" = "    return col;\n" ++ "\x7d\n" := by decide +kernel
  unfold pixelSource pixelBody
  rw [hfirst, hlast]
  simp only [String.join_append, String.join_cons, String.join_nil, String.append_empty,
    String.append_assoc]

theorem identifiers_lineText (line : String) : identifiers (lineText line) = identifiers line := by
  rw [lineText, identifiers_between (ends_ofList rfl) (begins_ofList rfl), identifiers_ofList,
    identifiers_ofList]
  exact List.append_nil _

theorem identifiers_join_lineText (lines : List String) :
    identifiers (String.join (lines.map lineText)) = lines.flatMap identifiers := by
  have hends : ∀ text ∈ lines.map lineText, endsApart text = true :=
    List.forall_mem_map.mpr fun _ _ => endsApart_append (by decide) (ends_ofList rfl)
  rw [identifiers_join hends, List.flatMap_map]
  exact List.flatMap_congr fun line _ => identifiers_lineText line

theorem identifiers_vertexBody : identifiers d.vertexBody = d.vertexLines.flatMap identifiers :=
  identifiers_join_lineText _

theorem identifiers_pixelBody : identifiers d.pixelBody =
    ["var", "col", "vec4", "f32"] ++ d.pixelLines.flatMap identifiers ++ ["return", "col"] := by
  have hfirst : identifiers "    var col = vec4<f32>(1.0);\n" = ["var", "col", "vec4", "f32"] :=
    (identifiers_ofList _).trans rfl
  have hlast : identifiers "    return col;\n" = ["return", "col"] :=
    (identifiers_ofList _).trans rfl
  unfold pixelBody
  rw [identifiers_between (ends_ofList rfl) (begins_ofList rfl),
    hfirst, hlast, identifiers_join_lineText]

/-- The constants of a program have the names contributed, each once. -/
theorem map_name_uniforms (half : ShaderStage) (emissions : List Emission) :
    (d.emitAll half emissions).uniforms.map (·.name) = keepNames (d.uniforms.map (·.name))
      ((emissions.filterMap (·.uniform?)).map (·.name)) := by
  rw [uniforms_emitAll]
  generalize d.uniforms = declared
  induction emissions.filterMap (·.uniform?) generalizing declared with
  | nil => rfl
  | cons u rest ih =>
      rw [List.foldl_cons, ih, map_name_declare]
      rfl

end Draft

namespace Registry

variable {set : FeatureSet} {id : FeatureId} {stage : Option Nat} {k : Constant} {word : String}
  (format : VertexFormat) (label : String)

theorem identifiers_vertexBody_draft : identifiers (builtin.draft format set).vertexBody =
    (builtin.visits set).flatMap
      fun v => Generator.words (v.1.generator.vertex ⟨set, v.2, format⟩) := by
  rw [Draft.identifiers_vertexBody, vertexLines_draft, List.flatMap_assoc]
  rfl

theorem identifiers_pixelBody_draft : identifiers (builtin.draft format set).pixelBody =
    ["var", "col", "vec4", "f32"] ++ ((builtin.visits set).flatMap
      fun v => Generator.words (v.1.generator.pixel ⟨set, v.2, format⟩)) ++ ["return", "col"] := by
  rw [Draft.identifiers_pixelBody, pixelLines_draft, List.flatMap_assoc]
  rfl

theorem scoped_of_mem_entries {e : Registration} (he : e ∈ builtin.entries) :
    Generator.Scoped e.type.id e.generator :=
  Generator.scoped_builtin _ (mem_builtin_of_mem_entries he)

/-! ### Declared constants -/

/-- A constant is declared by registered types only. -/
theorem mem_order_of_types_constant (k : Constant) (h : id ∈ k.types) : id ∈ builtin.order := by
  have hsub : ∀ id ∈ k.types, id ∈ builtin.order := by
    cases k <;> (simp only [Constant.types]; decide)
  exact hsub id h

/-- What an entry needs is declared. -/
theorem uniform_mem_assemble (hat : set.hasAt id stage = true)
    (hk : k ∈ Constant.neededBy id stage) :
    k.uniform ∈ (builtin.assemble format label set).uniforms := by
  have hregistered := mem_order_of_types_constant k (Constant.mem_neededBy.mp hk).2
  obtain ⟨e, he, rfl⟩ := List.mem_map.mp hregistered
  have hcontributed : k.uniform ∈ e.generator.uniforms ⟨set, stage, format⟩ := by
    rw [Generator.uniforms_builtin _ (mem_builtin_of_mem_entries he)]
    exact List.mem_map_of_mem hk
  have hvisit := mem_visits.mpr ⟨he, hat⟩
  have hname : k.name ∈ (builtin.draft format set).uniforms.map (·.name) := by
    rw [draft, Draft.map_name_uniforms, Draft.map_name_uniforms, mem_keepNames, mem_keepNames]
    rcases List.mem_append.mp hcontributed with h | h
    · refine .inl (.inr (List.mem_map.mpr ⟨k.uniform, ?_, rfl⟩))
      obtain ⟨emission, hemission, hu⟩ := List.mem_filterMap.mp h
      exact List.mem_filterMap.mpr ⟨emission, List.mem_flatMap.mpr ⟨_, hvisit, hemission⟩, hu⟩
    · refine .inr (List.mem_map.mpr ⟨k.uniform, ?_, rfl⟩)
      obtain ⟨emission, hemission, hu⟩ := List.mem_filterMap.mp h
      exact List.mem_filterMap.mpr ⟨emission, List.mem_flatMap.mpr ⟨_, hvisit, hemission⟩, hu⟩
  -- The declaration under the name is that of a constant, and no other has the name.
  obtain ⟨u, hu, e⟩ := List.mem_map.mp hname
  have hu : u ∈ (builtin.assemble format label set).uniforms := hu
  obtain ⟨l, -, -, -, -, rfl⟩ := exists_constant hu
  obtain rfl := Constant.name_injective e
  exact hu

/-- No program declares where an object stands. -/
theorem world_not_declared {u : Uniform} (hu : u ∈ (builtin.assemble format label set).uniforms) :
    u.name ≠ "objTrans" := by
  obtain ⟨k, id, stage, -, hk, rfl⟩ := exists_constant hu
  intro h
  obtain rfl := Constant.name_injective (k := k) (l := .world) h
  exact List.not_mem_nil (Constant.mem_neededBy.mp hk).2

/-! ### Constants in bodies -/

/-- A constant that the vertex body names is one that an entry declares or borrows. -/
theorem exists_of_mem_vertexBody
    (h : k.name ∈ identifiers (builtin.draft format set).vertexBody) :
    ∃ id stage, set.hasAt id stage = true ∧
      (k ∈ Constant.neededBy id stage ∨ k ∈ Constant.borrowedBy set id stage) := by
  rw [identifiers_vertexBody_draft] at h
  obtain ⟨⟨e, stage⟩, hvisit, hword⟩ := List.mem_flatMap.mp h
  obtain ⟨he, hat⟩ := mem_visits.mp hvisit
  have hknown := (scoped_of_mem_entries he).vertex _ _ hword (.inr ⟨k, rfl⟩)
  refine ⟨e.type.id, stage, hat, (List.mem_append.mp hknown).imp ?_ ?_⟩ <;>
  · intro h
    obtain ⟨l, hl, e⟩ := List.mem_map.mp h
    exact Constant.name_injective e ▸ hl

/-- A notable word of the pixel body introduces a local, or names what an entry declares. -/
theorem exists_of_mem_pixelBody (h : k.name ∈ identifiers (builtin.draft format set).pixelBody) :
    ∃ id stage, set.hasAt id stage = true ∧ k ∈ Constant.neededBy id stage := by
  have hnotable : Constant.Notable k.name := .inr ⟨k, rfl⟩
  have hplain : Knows [] (["var", "col", "vec4", "f32"] ++ ["return", "col"]) :=
    knows_of_foreign _ (by decide)
  rw [identifiers_pixelBody_draft, List.mem_append, List.mem_append] at h
  rcases h with (h | h) | h
  · exact absurd (hplain _ (List.mem_append_left _ h) hnotable) List.not_mem_nil
  · obtain ⟨⟨e, stage⟩, hvisit, hword⟩ := List.mem_flatMap.mp h
    obtain ⟨he, hat⟩ := mem_visits.mp hvisit
    rcases List.mem_cons.mp ((scoped_of_mem_entries he).pixel _ _ hword hnotable) with hlet | h
    · exact absurd hlet k.name_ne_let
    · obtain ⟨l, hl, e'⟩ := List.mem_map.mp h
      exact ⟨e.type.id, stage, hat, Constant.name_injective e' ▸ hl⟩
  · exact absurd (hplain _ (List.mem_append_right _ h) hnotable) List.not_mem_nil

/-- A constant that the vertex body names is declared, unless it says where the object stands. -/
theorem declared_of_mem_vertexBody
    (htransform : set.has FeatureType.prePassConditioner.id = true →
      set.hasAt FeatureType.vertTransform.id none = true)
    (h : k.name ∈ identifiers (builtin.draft format set).vertexBody) :
    k = .world ∨ k.uniform ∈ (builtin.assemble format label set).uniforms := by
  obtain ⟨id, stage, hat, hneeds | hborrows⟩ := exists_of_mem_vertexBody format h
  · exact .inr (uniform_mem_assemble format label hat hneeds)
  · simp only [Constant.borrowedBy, List.mem_append, List.mem_ite_nil_right,
      List.mem_singleton] at hborrows
    rcases hborrows with (⟨⟨-, hanim⟩, rfl⟩ | ⟨rfl, rfl⟩) | ⟨-, rfl⟩
    · exact .inr (uniform_mem_assemble format label hanim (Constant.mem_neededBy.mpr
        ⟨by simp [Constant.all], List.mem_cons_self⟩))
    · exact .inr (uniform_mem_assemble format label (htransform (FeatureSet.has_iff.mpr ⟨_, hat⟩))
        (Constant.mem_neededBy.mpr ⟨List.mem_cons_self, List.mem_cons_self⟩))
    · exact .inl rfl

/-- A constant that the pixel body names is declared. -/
theorem declared_of_mem_pixelBody
    (h : k.name ∈ identifiers (builtin.draft format set).pixelBody) :
    k.uniform ∈ (builtin.assemble format label set).uniforms := by
  obtain ⟨id, stage, hat, hneeds⟩ := exists_of_mem_pixelBody format h
  exact uniform_mem_assemble format label hat hneeds

theorem world_not_mem_pixelBody :
    "objTrans" ∉ identifiers (builtin.draft format set).pixelBody := fun h =>
  world_not_declared format "" (declared_of_mem_pixelBody (k := .world) format "" h) rfl

/-- Normal maps and lighting read where the object stands, and nothing else does. -/
theorem world_mem_vertexBody_iff :
    "objTrans" ∈ identifiers (builtin.draft format set).vertexBody ↔
      set.has FeatureType.normalMap.id = true ∨ set.has FeatureType.rtLighting.id = true := by
  constructor
  · intro h
    obtain ⟨id, stage, hat, hneeds | hborrows⟩ :=
      exists_of_mem_vertexBody (k := .world) format h
    · exact absurd (Constant.mem_neededBy.mp hneeds).2 List.not_mem_nil
    · simp only [Constant.borrowedBy, List.mem_append, List.mem_ite_nil_right, List.mem_singleton,
        reduceCtorEq, and_false, false_or, and_true] at hborrows
      rcases hborrows with rfl | rfl
      · exact .inl (FeatureSet.has_iff.mpr ⟨stage, hat⟩)
      · exact .inr (FeatureSet.has_iff.mpr ⟨stage, hat⟩)
  · intro h
    rw [identifiers_vertexBody_draft, List.mem_flatMap]
    rcases h with h | h
    · obtain ⟨stage, hat⟩ := FeatureSet.has_iff.mp h
      obtain ⟨first, hhead, hfirst⟩ := exists_head?_stagesOf hat
      have he : (.normalMap, Generator.normalMap) ∈ Generator.builtin := by simp [Generator.builtin]
      refine ⟨(_, first), mem_visits.mpr ⟨mem_entries_of_mem_builtin he, hfirst⟩, ?_⟩
      have hisFirst : Generator.isFirst set FeatureType.normalMap.id first = true :=
        beq_iff_eq.mpr hhead
      dsimp only
      rw [Generator.words_normalMap_vertex, if_pos hisFirst]
      exact List.mem_append_right _ (by simp)
    · obtain ⟨stage, hat⟩ := FeatureSet.has_iff.mp h
      have he : (.rtLighting, Generator.rtLighting) ∈ Generator.builtin := by
        simp [Generator.builtin]
      refine ⟨(_, stage), mem_visits.mpr ⟨mem_entries_of_mem_builtin he, hat⟩, ?_⟩
      dsimp only
      rw [Generator.words_rtLighting_vertex]
      simp

/-! ### Locals -/

/-- The pixel body introduces the locals of its entries. -/
theorem introduced_pixelBody : introduced (identifiers (builtin.draft format set).pixelBody) =
    (builtin.idents set).flatMap fun v => Generator.locals v.1 := by
  have hends : ∀ v ∈ builtin.visits set,
      (Generator.words (v.1.generator.pixel ⟨set, v.2, format⟩)).getLast? ≠ some "let" :=
    fun v hv => (scoped_of_mem_entries (mem_visits.mp hv).1).ends _
  have hfirst : introduced ["var", "col", "vec4", "f32"] = [] := by decide
  have hlast : introduced ["return", "col"] = [] := by decide
  rw [identifiers_pixelBody_draft, List.append_assoc, introduced_append (by decide), hfirst,
    introduced_flatMap_append hends, hlast, List.append_nil, List.nil_append, idents,
    List.flatMap_map]
  exact List.flatMap_congr fun v hv =>
    (scoped_of_mem_entries (mem_visits.mp hv).1).introduces _

/-- A local is counted as often as entries have it. -/
theorem count_flatMap_locals (name : String) (idents : List (FeatureId × Option Nat)) :
    (idents.flatMap fun v => Generator.locals v.1).count name =
      (idents.filter fun v => name ∈ Generator.locals v.1).length := by
  induction idents with
  | nil => rfl
  | cons v idents ih =>
      rw [List.flatMap_cons, List.count_append, ih, List.filter_cons]
      by_cases h : name ∈ Generator.locals v.1
      · rw [List.count_eq_one_of_mem (Generator.nodup_locals v.1) h, if_pos (decide_eq_true h),
          List.length_cons, Nat.add_comm]
      · rw [List.count_eq_zero_of_not_mem h, if_neg (by simpa using h), Nat.zero_add]

/-- The local of the overlays is introduced once for each. -/
theorem count_overlay :
    (introduced (identifiers (builtin.draft format set).pixelBody)).count "overlay" =
      (set.stagesOf FeatureType.overlayMap.id).length := by
  have hoverlays : ((builtin.idents set).filter fun v => "overlay" ∈ Generator.locals v.1).Perm
      ((set.stagesOf FeatureType.overlayMap.id).map (FeatureType.overlayMap.id, ·)) := by
    refine (List.perm_ext_iff_of_nodup ((builtin.nodup_idents set).filter _)
      ((set.nodup_stagesOf _).map fun _ _ h => (Prod.mk.inj h).2)).mpr fun v => ?_
    obtain ⟨id, stage⟩ := v
    simp only [List.mem_filter, mem_idents, decide_eq_true_eq, Generator.overlay_mem_locals_iff,
      List.mem_map, FeatureSet.mem_stagesOf, Prod.mk.injEq]
    constructor
    · rintro ⟨⟨-, hat⟩, rfl⟩
      exact ⟨stage, hat, rfl, rfl⟩
    · rintro ⟨_, hat, rfl, rfl⟩
      exact ⟨⟨by decide, hat⟩, rfl⟩
  rw [introduced_pixelBody, count_flatMap_locals, hoverlays.length_eq, List.length_map]

/-- Any other local is introduced once at most. -/
theorem count_le_one (hset : set.Placed) {name : String} (hname : name ≠ "overlay") :
    (introduced (identifiers (builtin.draft format set).pixelBody)).count name ≤ 1 := by
  rw [introduced_pixelBody, count_flatMap_locals]
  have hnodup := (builtin.nodup_idents set).filter (fun v => name ∈ Generator.locals v.1)
  -- The entries that have the local are of one type, which serves no stage.
  refine length_le_one_of_forall_eq hnodup fun v hv w hw => ?_
  obtain ⟨hv, hvname⟩ := List.mem_filter.mp hv
  obtain ⟨hw, hwname⟩ := List.mem_filter.mp hw
  obtain ⟨hid, hplace⟩ := Generator.eq_of_mem_locals hname (of_decide_eq_true hvname)
    (of_decide_eq_true hwname)
  have hstage := (hset _ _ (mem_idents.mp hv).2).eq_none hplace
  have hstage' := (hset _ _ (mem_idents.mp hw).2).eq_none (hid ▸ hplace)
  exact Prod.ext hid (hstage.trans hstage'.symm)

/-- No local is introduced twice exactly if there is one overlay at most. -/
theorem nodup_introduced_iff (hset : set.Placed) :
    (introduced (identifiers (builtin.draft format set).pixelBody)).Nodup ↔
      (set.stagesOf FeatureType.overlayMap.id).length ≤ 1 := by
  rw [List.nodup_iff_count_le_one, ← count_overlay format]
  refine ⟨fun h => h _, fun h name => ?_⟩
  by_cases hname : name = "overlay"
  · exact hname ▸ h
  · exact count_le_one format hset hname

end Registry

end MaterialPipeline
