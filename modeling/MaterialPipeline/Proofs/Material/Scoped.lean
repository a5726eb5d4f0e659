import MaterialPipeline.Proofs.Material.Uploads
import MaterialPipeline.Proofs.Program.Scoped

/-!
# Proofs — Material — Scoped

Whether the program of a pass declares what its bodies name.  When a pass is prepared, values are
offered for constants (`BuiltMaterial.offeredValues`); a constant that a body names should have a
declaration with the type of the value, and a local should be introduced once
(`Draft.WellScoped`).

* `scoped_layers`: only the constant that says where an object stands lacks its declaration, and
  only the local of the overlays may come twice.  So a program is well scoped exactly if its stages
  have no normal map, no lighting and at most one overlay.
-/

namespace MaterialPipeline

open Words

/-- What the bodies of a program name of some constants is declared, and they introduce no local
twice. -/
structure Draft.WellScoped (d : Draft) (offered : List (String × UniformType)) : Prop where
  declared : ∀ x ∈ offered, x.1 ∈ identifiers d.vertexBody ∨ x.1 ∈ identifiers d.pixelBody →
    ⟨x.1, x.2⟩ ∈ d.uniforms
  distinct : (introduced (identifiers d.pixelBody)).Nodup

namespace BuiltMaterial

variable {b : BuiltMaterial} {config : Config} {format : VertexFormat} {variant : Option Variant}
  {layers block : List Layer}

/-- Some layers of a material are transformed, if there are any. -/
theorem hasAt_vertTransform_mergeAll {m : Material}
    (h : m.layers config format variant = .ok layers) (hblock : block ⊆ layers) (hne : block ≠ []) :
    (FeatureSet.mergeAll (block.map (·.features))).hasAt FeatureType.vertTransform.id none =
      true := by
  obtain ⟨l, hl⟩ := List.exists_mem_of_ne_nil block hne
  obtain ⟨s, number, e⟩ := Material.features_of_mem_layers h (hblock hl)
  refine FeatureSet.hasAt_mergeAll.mpr ⟨l.features, List.mem_map_of_mem hl, ?_⟩
  exact e ▸ m.hasAt_vertTransform_featuresOf config format variant number s

/-- Where an object stands is offered to every pass. -/
theorem world_mem_offeredValues (scene : Scene) (world : Mat4) (draw : DrawContext) (p : Pass) :
    ("objTrans", .float4x4) ∈ signature (b.offeredValues scene world draw p) := by
  rw [signature_offeredValues]
  refine List.mem_map.mpr ⟨.world, ?_, rfl⟩
  exact List.mem_append_right _ (List.mem_append_left _ (by simp [Constant.transforms]))

/-- **What the bodies of a program name.**  For some layers of a material, whatever values are
offered when a pass is prepared: the constants that a body names are declared with the types of the
values, except where an object stands.  That one is always offered and never declared, and the
vertex body names it exactly if a layer has a normal map or lighting.  The pixel body introduces a
local as often as layers have overlays, and any other once at most.  So the program is well scoped
exactly if the layers have no normal map, no lighting, and at most one overlay. -/
theorem scoped_layers (label : String) (scene : Scene) (world : Mat4) (draw : DrawContext)
    (p : Pass) (h : b.material.layers config format variant = .ok layers)
    (hblock : block ⊆ layers) :
    let set := FeatureSet.mergeAll (block.map (·.features))
    let draft := Registry.builtin.draft format set
    let program := Registry.builtin.assemble format label set
    let values := b.offeredValues scene world draw p
    (program.uniforms = draft.uniforms ∧
      (∃ declarations, program.vertexSource =
        declarations ++ "fn vs_main() \x7b\n" ++ draft.vertexBody ++ "\x7d\n") ∧
      ∃ declarations, program.pixelSource =
        declarations ++ "fn fs_main() -> vec4<f32> \x7b\n" ++ draft.pixelBody ++ "\x7d\n") ∧
    (∀ limits, b.setup limits scene draw p ++ transforms scene world p ++ b.sceneInfo scene draw p =
      [.call (.setProgram p.program), .call (.setState (p.state (b.conditions limits scene draw)))]
        ++ p.constants.uploadAll p.program values) ∧
    (∀ x ∈ signature values,
      x.1 ∈ identifiers draft.vertexBody ∨ x.1 ∈ identifiers draft.pixelBody →
        x.1 = "objTrans" ∨ ⟨x.1, x.2⟩ ∈ program.uniforms) ∧
    (("objTrans", .float4x4) ∈ signature values ∧ (∀ u ∈ program.uniforms, u.name ≠ "objTrans") ∧
      ("objTrans" ∈ identifiers draft.vertexBody ↔
        set.has FeatureType.normalMap.id = true ∨ set.has FeatureType.rtLighting.id = true) ∧
      "objTrans" ∉ identifiers draft.pixelBody) ∧
    ((introduced (identifiers draft.pixelBody)).count "overlay" =
        (set.stagesOf FeatureType.overlayMap.id).length ∧
      ∀ name ≠ "overlay", (introduced (identifiers draft.pixelBody)).count name ≤ 1) ∧
    (draft.WellScoped (signature values) ↔ set.has FeatureType.normalMap.id = false ∧
      set.has FeatureType.rtLighting.id = false ∧
      (set.stagesOf FeatureType.overlayMap.id).length ≤ 1) := by
  intro set draft program values
  have hset : set.Placed := Material.placed_mergeAll h hblock
  have htransform : set.has FeatureType.prePassConditioner.id = true →
      set.hasAt FeatureType.vertTransform.id none = true := by
    intro hhas
    refine hasAt_vertTransform_mergeAll h hblock ?_
    rintro rfl
    cases hhas
  have hdeclared : ∀ x ∈ signature values,
      x.1 ∈ identifiers draft.vertexBody ∨ x.1 ∈ identifiers draft.pixelBody →
        x.1 = "objTrans" ∨ ⟨x.1, x.2⟩ ∈ program.uniforms := by
    intro x hx hnamed
    rw [signature_offeredValues] at hx
    obtain ⟨k, -, rfl⟩ := List.mem_map.mp hx
    rcases hnamed with hnamed | hnamed
    · exact (Registry.declared_of_mem_vertexBody format label htransform hnamed).imp_left
        (congrArg Constant.name)
    · exact .inr (Registry.declared_of_mem_pixelBody format label hnamed)
  have hworld := world_mem_offeredValues (b := b) scene world draw p
  have hundeclared : ∀ u ∈ program.uniforms, u.name ≠ "objTrans" :=
    fun _ hu => Registry.world_not_declared format label hu
  have hreads : "objTrans" ∈ identifiers draft.vertexBody ↔
      set.has FeatureType.normalMap.id = true ∨ set.has FeatureType.rtLighting.id = true :=
    Registry.world_mem_vertexBody_iff format
  refine ⟨⟨rfl, draft.exists_vertexSource_eq, draft.exists_pixelSource_eq⟩, prepare_eq, hdeclared,
    ⟨hworld, hundeclared, hreads, Registry.world_not_mem_pixelBody format⟩,
    ⟨Registry.count_overlay format, fun _ => Registry.count_le_one format hset⟩, ?_⟩
  have hnot : (set.has FeatureType.normalMap.id = false ∧
      set.has FeatureType.rtLighting.id = false) ↔ "objTrans" ∉ identifiers draft.vertexBody := by
    rw [hreads, not_or, Bool.not_eq_true, Bool.not_eq_true]
  rw [← and_assoc, hnot, ← Registry.nodup_introduced_iff format hset]
  constructor
  · exact fun hscoped => ⟨fun hread => hundeclared _ (hscoped.declared _ hworld (.inl hread)) rfl,
      hscoped.distinct⟩
  · rintro ⟨hunread, hdistinct⟩
    refine ⟨fun x hx hnamed => (hdeclared x hx hnamed).resolve_left fun e => ?_, hdistinct⟩
    rw [e] at hnamed
    exact hnamed.elim hunread (Registry.world_not_mem_pixelBody format)

/-- Two lit stages with overlays. -/
theorem scoped_layers_of_two_overlays :
    let painted : Stage := { diffuseMap := some "a.png", overlayMap := some "b.png" }
    let b : BuiltMaterial := ⟨{ name := "rock", stages := [painted, painted] }, none, [], []⟩
    ∃ layers, b.material.layers {} .positionNormalUv none = .ok layers ∧ layers ⊆ layers ∧
      let set := FeatureSet.mergeAll (layers.map (·.features))
      let draft := Registry.builtin.draft .positionNormalUv set
      "objTrans" ∈ identifiers draft.vertexBody ∧
        (∀ u ∈ (Registry.builtin.assemble .positionNormalUv "rock:0" set).uniforms,
          u.name ≠ "objTrans") ∧
        (introduced (identifiers draft.pixelBody)).count "overlay" = 2 ∧
        ∀ scene world draw p,
          ("objTrans", .float4x4) ∈ signature (b.offeredValues scene world draw p) ∧
            ¬ draft.WellScoped (signature (b.offeredValues scene world draw p)) := by
  intro painted b
  have h : ∃ layers, b.material.layers {} .positionNormalUv none = .ok layers ∧
      (FeatureSet.mergeAll (layers.map (·.features))).has FeatureType.rtLighting.id = true ∧
      ((FeatureSet.mergeAll (layers.map (·.features))).stagesOf
        FeatureType.overlayMap.id).length = 2 :=
    ⟨_, rfl, by decide +kernel, by decide +kernel⟩
  obtain ⟨layers, h, hlit, hoverlays⟩ := h
  have hscoped (scene : Scene) (world : Mat4) (draw : DrawContext) (p : Pass) :=
    scoped_layers "rock:0" scene world draw p h (List.Subset.refl layers)
  obtain ⟨-, -, -, ⟨-, hundeclared, hreads, -⟩, ⟨hcount, -⟩, -⟩ :=
    hscoped {} .identity {} ⟨⟨0⟩, .ofUniforms [], [], [], .empty, [], [], .none, .none⟩
  refine ⟨layers, h, List.Subset.refl layers, hreads.mpr (.inr hlit), hundeclared,
    hcount.trans hoverlays, fun scene world draw p => ?_⟩
  obtain ⟨-, -, -, ⟨hoffered, -⟩, -, hiff⟩ := hscoped scene world draw p
  refine ⟨hoffered, fun hwell => ?_⟩
  have hunlit := (hiff.mp hwell).2.1
  rw [hlit] at hunlit
  cases hunlit

end BuiltMaterial

end MaterialPipeline
