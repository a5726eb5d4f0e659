import MaterialPipeline.Proofs.Material.Builds
import MaterialPipeline.Proofs.Material.Steps

/-!
# Proofs — Material — Configured

What is built was built under the configuration that is in force.  The passes of a built material
have, together, the features of its layers, and no pass has what is switched off.

* `BuiltMaterial.Under`: a built material has what its material resolves to under a configuration.
* `BuiltMaterial.under_of_run_build`: a build gives such a material.
* `Library.Subject`: what the form at a place stands for.
* `Library.InUse.built_under`: every form that is built, in every library in use.
-/

namespace MaterialPipeline

open MaterialPipeline.Action

/-- Layers together have nothing that is switched off. -/
theorem Material.has_union {m : Material} {config : Config} {format : VertexFormat}
    {variant : Option Variant} {layers block : List Layer} {id : FeatureId}
    (hlayers : m.layers config format variant = .ok layers) (hblock : block ⊆ layers)
    (h : config.exclusions.has id = true) : (Layer.union block).has id = false := by
  rw [← Bool.not_eq_true, FeatureSet.has_iff]
  rintro ⟨stage, hstage⟩
  obtain ⟨set, hset, hat⟩ := FeatureSet.hasAt_mergeAll.mp hstage
  obtain ⟨layer, hlayer, rfl⟩ := List.mem_map.mp hset
  obtain ⟨s, number, e⟩ := features_of_mem_layers hlayers (hblock hlayer)
  have hhas := m.has_featuresOf config format variant number s h
  rw [← e, ← Bool.not_eq_true, FeatureSet.has_iff] at hhas
  exact hhas ⟨stage, hat⟩

namespace BuiltMaterial

/-- The passes have the features of the layers that the material resolves to under `config`, and none
has a type that is switched off. -/
structure Under (config : Config) (m : Material) (format : VertexFormat)
    (variant : Option Variant) (b : BuiltMaterial) : Prop where
  purpose : b.material = m ∧ b.variant = variant
  features : ∃ layers, m.layers config format variant = .ok layers ∧
    b.features = .mergeAll (layers.map (·.features))
  excluded : ∀ pass ∈ b.passes, ∀ id, config.exclusions.has id = true → pass.features.has id = false

variable {context : BuildContext} {m : Material} {format : VertexFormat} {variant : Option Variant}
  {b : BuiltMaterial} {s s' : Session}

theorem under_of_run_build (hrun : (build context m format variant).run s = .ok (.ok b, s')) :
    b.Under context.config m format variant := by
  obtain ⟨hmaterial, hvariant, -⟩ := parts_of_run_build hrun
  obtain ⟨layers, blocks, hlayers, hlaid, -⟩ := laid_of_run_build hrun
  refine ⟨⟨hmaterial, hvariant⟩, ⟨layers, hlayers, ?_⟩, fun pass hpass id hid => ?_⟩
  · have hpasses : b.passes.map (·.features) = blocks.map Layer.union := by
      refine List.ext_getElem (by simp [hlaid.length]) fun i hi hi' => ?_
      rw [List.length_map] at hi hi'
      rw [List.getElem_map, List.getElem_map]
      exact (hlaid.stands i _ _ (List.getElem?_eq_getElem hi')
        (List.getElem?_eq_getElem hi)).features
    -- The union over the passes is the union over the blocks of layers, so over all layers.
    have hunion : blocks.map Layer.union =
        (blocks.map (List.map (·.features))).map FeatureSet.mergeAll := by
      rw [List.map_map]
      rfl
    rw [BuiltMaterial.features, hpasses, hunion, FeatureSet.mergeAll_flatten, ← List.map_flatten,
      hlaid.flatten]
  · obtain ⟨index, block, hblock, hstands⟩ := hlaid.of_mem hpass
    rw [hstands.features]
    refine Material.has_union hlayers ?_ hid
    exact hlaid.flatten ▸ (List.infix_of_mem_flatten hblock).subset

end BuiltMaterial

namespace Library

variable {l : Library} {place : FormPlace} {f : Form}

/-- What the form at a place stands for: the material of the instance, for the purpose of the hook,
or the material of the stand-in. -/
inductive Subject (l : Library) : FormPlace → Material × VertexFormat × Option Variant → Prop where
  | own {r : MaterialRef} {i : Instance} (hi : l.instance? r.id = .ok (some i)) :
      Subject l (.own r) (i.form.material, i.form.format, r.hook)
  | warning : Subject l .warning (.warning, .positionNormalUv, none)

theorem Subject.unique {subject subject' : Material × VertexFormat × Option Variant}
    (h : l.Subject place subject) (h' : l.Subject place subject') : subject' = subject := by
  cases h with
  | warning =>
      cases h'
      rfl
  | own hi =>
      cases h' with
      | own hi' =>
          cases hi.symm.trans hi'
          rfl

theorem InForce.subject_at (h : l.InForce) (hf : l.At place f) : l.Subject place f.subject := by
  cases place with
  | warning =>
      cases hf
      exact h.subject ▸ .warning
  | own r =>
      obtain ⟨i, hi, hof⟩ := form?_eq_some hf
      rw [(h.own r.id i hi r.hook f hof).1]
      exact .own hi

/-- **What is built is up to date.**  In a library in use, every form that is built, of an instance, of
a hook or of the stand-in, has the features that its material resolves to under the configuration in
force, for the purpose of its place; and that configuration is the one that was set. -/
theorem InUse.built_under (hl : l.InUse) :
    (∀ place f b, l.At place f → f.built = some b → ∃ m format variant,
      l.Subject place (m, format, variant) ∧ b.Under l.context.config m format variant) ∧
    ∀ config l', Step l (.setConfig config) l' → l'.context.config = config := by
  refine ⟨fun place f b hf hb => ?_, fun config l' hstep => ?_⟩
  · obtain ⟨s, s', hrun⟩ := (hl.inForce.current hf).built b hb
    exact ⟨_, _, _, hl.inForce.subject_at hf, BuiltMaterial.under_of_run_build hrun⟩
  · cases hstep with
    | setConfig hrun =>
        obtain rfl := (l.yields_setConfig config).eq hrun
        unfold configured
        split
        next hsame => exact hsame
        next => rfl

/-- A new library with a stand-in that is built, while normal maps are switched off. -/
theorem built_under_of_new : ∃ l, InUse l ∧ l.context.config.disableNormalMapping = true ∧
    ∃ b, l.warning.built = some b ∧
      b.Under l.context.config .warning .positionNormalUv none := by
  have hcheck : ((new .builtin { disableNormalMapping := true }).run {}).toOption.any
      (fun r => r.1.context.config.disableNormalMapping && r.1.warning.built.isSome) = true := by
    decide +kernel
  obtain ⟨⟨l, s'⟩, hrun, hgood⟩ := exists_of_any_toOption hcheck
  obtain ⟨hconfig, hbuilt⟩ := Bool.and_eq_true_iff.mp hgood
  obtain ⟨b, hb⟩ := Option.isSome_iff_exists.mp hbuilt
  have hl : InUse l := .new hrun
  obtain ⟨m, format, variant, hsubject, hunder⟩ := hl.built_under.1 .warning _ b rfl hb
  cases hsubject
  exact ⟨l, hl, hconfig, b, hb, hunder⟩

end Library

end MaterialPipeline
