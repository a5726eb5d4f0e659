import MaterialPipeline.Proofs.Material.Samplers
import MaterialPipeline.Proofs.Material.Trials

/-!
# Proofs — Material — Easing

What stands in the way of a build on a device that compiles every program: a layer that is over the
budget alone, or a texture that the device does not have.  Neither depends on how the layers are
packed, and so a material that can be built can also be built with less to draw, and on a device that
has more room.

* `Config.Eases`, `Limits.Within`: more is switched off; there is more room.
* `Packer.Serves`: nothing stands in the way of a layer.
* `BuiltMaterial.serves_of_run_build`, `BuiltMaterial.exists_run_build_of_serves`: a material is built
exactly if nothing stands in the way of its layers.
* `BuiltMaterial.builds_of_eases`: builds that stay possible.
-/

namespace MaterialPipeline

open MaterialPipeline.Action

variable {m : Material} {format : VertexFormat} {variant : Option Variant} {config config' : Config}
  {layers : List Layer} {s s' : Session} {path : String}

/-! ### Less to draw -/

/-- What `config` switches off, `config'` switches off too; the texture slots are overridden alike. -/
structure Config.Eases (config config' : Config) : Prop where
  normalMapping : config.disableNormalMapping = true → config'.disableNormalMapping = true
  specular : config.disableSpecular = true → config'.disableSpecular = true
  cubemapping : config.disableCubemapping = true → config'.disableCubemapping = true
  slots : config'.textureSlotsOverride = config.textureSlotsOverride

theorem FeatureSet.has_ofList {features : List Feature} {id : FeatureId} :
    (ofList features).has id = true ↔ ∃ f ∈ features, f.type.id = id := by
  simp only [has_iff, hasAt_ofList]
  constructor
  · rintro ⟨stage, f, hf, e⟩
    exact ⟨f, hf, congrArg Prod.fst e⟩
  · rintro ⟨f, hf, rfl⟩
    exact ⟨f.stage, f, hf, rfl⟩

namespace Config.Eases

theorem has_exclusions (he : config.Eases config') {id : FeatureId}
    (h : config.exclusions.has id = true) : config'.exclusions.has id = true := by
  -- Each switch brings its types.
  have hmono {on on' : Bool} (hon : on = true → on' = true) (types : List FeatureType) :
      (if on then types.map (Feature.mk · none) else []) ⊆
        if on' then types.map (Feature.mk · none) else [] := by
    cases on with
    | false => exact List.nil_subset _
    | true => rw [hon rfl]; exact List.Subset.refl _
  obtain ⟨f, hf, hid⟩ := FeatureSet.has_ofList.mp h
  refine FeatureSet.has_ofList.mpr ⟨f, ?_, hid⟩
  simp only [List.mem_append] at hf ⊢
  exact hf.imp (.imp (hmono he.normalMapping _ ·) (hmono he.specular _ ·))
    (hmono he.cubemapping _ ·)

/-- A stage has no features that it had not before. -/
theorem hasAt_featuresOf (he : config.Eases config') {number : Nat} {stage : Stage}
    {id : FeatureId} {n : Option Nat}
    (h : (m.featuresOf config' format variant number stage).hasAt id n = true) :
    (m.featuresOf config format variant number stage).hasAt id n = true := by
  have hallowed {id : FeatureId} {n : Option Nat}
      (h : ((m.requested format number stage).exclude config'.exclusions).hasAt id n = true) :
      ((m.requested format number stage).exclude config.exclusions).hasAt id n = true := by
    obtain ⟨hrequested, hkept⟩ := FeatureSet.hasAt_exclude.mp h
    refine FeatureSet.hasAt_exclude.mpr ⟨hrequested, Bool.eq_false_iff.mpr fun hexcluded => ?_⟩
    exact Bool.eq_false_iff.mp hkept (he.has_exclusions hexcluded)
  cases variant with
  | none => exact hallowed h
  | some v =>
      refine Variant.hasAt_apply_iff.mpr ((Variant.hasAt_apply_iff.mp h).imp_left fun hboth => ?_)
      exact ⟨hallowed hboth.1, hboth.2⟩

/-- The layers have no features that they had not before. -/
theorem exists_layers (he : config.Eases config')
    (h : m.layers config format variant = .ok layers) :
    ∃ layers', m.layers config' format variant = .ok layers' ∧ ∀ l' ∈ layers', ∃ l ∈ layers,
      ∀ id n, l'.features.hasAt id n = true → l.features.hasAt id n = true := by
  have hvalid : m.validate = .ok () := by
    cases hv : m.validate with
    | ok => rfl
    | error error =>
        rw [Material.layers, hv] at h
        cases h
  obtain ⟨-, -, rfl⟩ := Material.layers_eq h
  refine ⟨_, by rw [Material.layers, hvalid]; rfl, fun l' hl' => ?_⟩
  obtain ⟨⟨stage, number⟩, hdrawn, rfl⟩ := List.mem_map.mp hl'
  exact ⟨_, List.mem_map_of_mem hdrawn, fun id n hat => he.hasAt_featuresOf hat⟩

end Config.Eases

/-! ### More room -/

/-- There is no less room within the limits `b` than within the limits `a`. -/
structure Limits.Within (a b : Limits) : Prop where
  textureSlots : a.textureSlots ≤ b.textureSlots
  interpolators : a.interpolators ≤ b.interpolators

theorem Cost.fits_within {cost : Cost} {a b : Limits} (h : a.Within b)
    (hfits : cost.fits a = true) : cost.fits b = true := by
  simp only [Cost.fits, Bool.and_eq_true, decide_eq_true_eq] at hfits ⊢
  exact ⟨hfits.1.trans_le h.textureSlots, hfits.2.trans h.interpolators⟩

theorem Config.Eases.effectiveLimits (he : config.Eases config') {a b : Limits} (h : a.Within b) :
    (config.effectiveLimits a).Within (config'.effectiveLimits b) := by
  have hoverride : (config.overrideLimits a).Within (config'.overrideLimits b) := by
    unfold overrideLimits
    rw [he.slots]
    cases config.textureSlotsOverride with
    | none => exact h
    | some slots => exact ⟨Nat.le_refl _, h.interpolators⟩
  exact ⟨min_le_min_right _ hoverride.textureSlots, hoverride.interpolators⟩

/-! ### Textures -/

/-- The path that the material authors for a texture. -/
def Material.path? (m : Material) : TextureSource → Option String
  | .map stage kind => m.stages[stage]? >>= (·.map kind)
  | .lightMap => none

namespace BuiltMaterial

theorem exists_pathOf_iff {b : Binding} :
    (∃ stage, pathOf m b = some (stage, path)) ↔ m.path? b.source = some path := by
  unfold pathOf Material.path?
  cases b.source with
  | lightMap => simp
  | map stage kind =>
      cases hstage : m.stages[stage]? with
      | none => simp [hstage]
      | some authored => cases hmap : authored.map kind <;> simp [hstage, hmap]

/-- What was loaded, the device had. -/
theorem notMem_missing_of_loadTextures {loaded textures : List (String × TextureHandle)}
    {requests : List (Nat × String)} (hloaded : ∀ x ∈ loaded, x.1 ∉ s.device.missing)
    (hrun : (loadTextures loaded requests).run s = .ok (.ok textures, s')) :
    ∀ request ∈ requests, request.2 ∉ s.device.missing := by
  induction requests generalizing loaded s with
  | nil => exact fun _ h => absurd h List.not_mem_nil
  | cons request rest ih =>
      obtain ⟨stage, path⟩ := request
      rw [loadTextures] at hrun
      split at hrun
      next hany =>
        obtain ⟨x, hx, hpath⟩ := List.any_eq_true.mp hany
        refine List.forall_mem_cons.mpr ⟨?_, ih hloaded hrun⟩
        exact eq_of_beq hpath ▸ hloaded x hx
      next =>
        obtain ⟨answer, s₁, hload, hrun⟩ := of_run_bind hrun
        cases (run_onDevice _ s).symm.trans hload
        rcases Device.loadTexture_cases s.device path with ⟨error, he⟩ | he
        · rw [he] at hrun
          cases hrun
        · have hfound := (Device.loadTexture_eq_ok_iff.mp he).2
          rw [he] at hrun
          refine List.forall_mem_cons.mpr ⟨hfound, ?_⟩
          refine ih (s := { s with device := s.device.loaded path }) (fun x hx => ?_) hrun
          rcases List.mem_append.mp hx with hx | hx
          · exact hloaded x hx
          · rw [List.mem_singleton.mp hx]
            exact hfound

/-- What the device has, it loads. -/
theorem exists_run_loadTextures_of_found {requests : List (Nat × String)}
    (hlost : s.device.lost = false) (hfound : ∀ request ∈ requests, request.2 ∉ s.device.missing)
    (loaded : List (String × TextureHandle)) :
    ∃ textures s', (loadTextures loaded requests).run s = .ok (.ok textures, s') := by
  induction requests generalizing loaded s with
  | nil => exact ⟨_, _, rfl⟩
  | cons request rest ih =>
      obtain ⟨stage, path⟩ := request
      obtain ⟨hpath, hrest⟩ := List.forall_mem_cons.mp hfound
      rw [loadTextures]
      split
      · exact ih hlost hrest loaded
      · rw [run_bind (run_onDevice _ s), Device.loadTexture_eq_ok_iff.mpr ⟨hlost, hpath⟩]
        exact ih (s := { s with device := s.device.loaded path }) hlost hrest _

end BuiltMaterial

namespace Packer

variable {p : Packer} {s₀ : Session} {passes : List Pass} {blocks : List (List Layer)}

/-- Passes ask for the paths of what the layers that they cover read. -/
theorem Packing.exists_request_iff (hp : p.registry = .builtin)
    (h : p.Packing s₀ s layers passes blocks) :
    (∃ stage, (stage, path) ∈ BuiltMaterial.requests m passes) ↔
      ∃ l ∈ layers, ∃ t, l.features.Reads t ∧ m.path? t = some path := by
  have hread {i : Nat} {block : List Layer} {pass : Pass} (hc : p.Covers s₀ s i block pass)
      (t : TextureSource) :
      (∃ b ∈ pass.bindings, b.source = t) ↔ ∃ l ∈ block, l.features.Reads t := by
    rw [hc.bindings, hc.features, hp, Registry.exists_binding_iff, FeatureSet.reads_mergeAll]
    simp only [List.mem_map, exists_exists_and_eq_and]
  simp only [BuiltMaterial.requests, List.mem_flatMap, List.mem_filterMap]
  constructor
  · rintro ⟨stage, pass, hpass, b, hb, hpath⟩
    obtain ⟨i, block, hblock, hc⟩ := h.exists_covers_of_pass hpass
    obtain ⟨l, hl, hreads⟩ := (hread hc b.source).mp ⟨b, hb, rfl⟩
    refine ⟨l, ?_, b.source, hreads, BuiltMaterial.exists_pathOf_iff.mp ⟨stage, hpath⟩⟩
    exact h.flatten ▸ List.mem_flatten_of_mem hblock hl
  · rintro ⟨l, hl, t, hreads, hpath⟩
    obtain ⟨i, block, pass, hpass, -, hl, hc⟩ := h.exists_covers_of_layer hl
    obtain ⟨b, hb, rfl⟩ := (hread hc t).mpr ⟨l, hl, hreads⟩
    obtain ⟨stage, hstage⟩ := BuiltMaterial.exists_pathOf_iff.mpr hpath
    exact ⟨stage, pass, hpass, b, hb, hstage⟩

/-- Nothing stands in the way of a layer: the budget suffices for it alone, and the device has the
textures that it reads. -/
structure Serves (p : Packer) (m : Material) (d : Device) (l : Layer) : Prop where
  fits : p.FitsAlone l
  found : ∀ t path, l.features.Reads t → m.path? t = some path → path ∉ d.missing

end Packer

/-! ### Builds -/

namespace BuiltMaterial

variable {context : BuildContext} {b : BuiltMaterial}

/-- Of a material that was built, nothing stood in the way of its layers. -/
theorem serves_of_run_build (hr : context.registry = .builtin)
    (hrun : (build context m format variant).run s = .ok (.ok b, s')) :
    ∃ layers, m.layers context.config format variant = .ok layers ∧ ∀ l ∈ layers,
      (packer context m format variant s.device.limits).Serves m s.device l := by
  obtain ⟨-, -, layers, s₁, s₂, s₃, hlayers, halike, hpasses, htextures, -⟩ :=
    parts_of_run_build hrun
  obtain ⟨result, s', hpacking, hpacked⟩ := Packer.run_buildPasses
    (p := packer context m format variant s.device.limits) (Material.layers_ne_nil hlayers)
    (fun block hblock => Packer.bounded_cost hr hlayers hblock.sublist) s₁
  cases hpacking.symm.trans hpasses
  cases hpacked with
  | all hpack =>
      have halike₂ := (Packer.mirrors_buildPasses _ layers).answersLike hpasses
      have hmissing : s₂.device.missing = s.device.missing :=
        halike₂.missing.trans halike.missing
      refine ⟨layers, hlayers, fun l hl => ⟨?_, fun t path hreads hpath => ?_⟩⟩
      · exact hpack.fitsAlone hr hlayers (List.Sublist.refl layers) l hl
      · obtain ⟨stage, hrequest⟩ := (hpack.exists_request_iff hr).mpr ⟨l, hl, t, hreads, hpath⟩
        have hnone : ∀ x ∈ ([] : List (String × TextureHandle)), x.1 ∉ s₂.device.missing :=
          fun _ h => absurd h List.not_mem_nil
        exact hmissing ▸ notMem_missing_of_loadTextures hnone htextures _ hrequest

/-- A material is built on a device that compiles every program, if nothing stands in the way of its
layers. -/
theorem exists_run_build_of_serves (hr : context.registry = .builtin)
    (hlayers : m.layers context.config format variant = .ok layers)
    (hlost : s.device.lost = false) (hcompiles : ∀ program, s.device.rejects program = false)
    (hserves : ∀ l ∈ layers, (packer context m format variant s.device.limits).Serves m s.device l) :
    ∃ b s', (build context m format variant).run s = .ok (.ok b, s') := by
  unfold build
  rw [hlayers]
  dsimp only
  have hlimits (notes : List Note) : Action.limits.run (s.extend [] notes) =
      .ok (s.device.limits, s.extend [] notes) := rfl
  rw [run_bind (run_reportAll _ s), run_bind (hlimits _), run_bind (run_reportAll _ _)]
  generalize hs₁ : (s.extend [] _).extend [] _ = s₁
  have halike : s.device.AnswersLike s₁.device :=
    hs₁ ▸ (s.answersLike_extend [] _).trans (Session.answersLike_extend _ [] _)
  obtain ⟨result, s₂, hpacking, hpacked⟩ := Packer.run_buildPasses
    (p := packer context m format variant s.device.limits) (Material.layers_ne_nil hlayers)
    (fun block hblock => Packer.bounded_cost hr hlayers hblock.sublist) s₁
  have hrefusal : ∀ program, s₁.device.refusal program = none := fun program => by
    rw [halike.refusal]
    exact Device.refusal_eq_none_iff.mpr ⟨hlost, hcompiles program⟩
  obtain ⟨passes, rfl⟩ :=
    hpacked.exists_passes hlayers hrefusal fun l hl => (hserves l hl).fits
  have halike₂ := halike.trans ((Packer.mirrors_buildPasses _ layers).answersLike hpacking)
  cases hpacked with
  | all hpack =>
      have hfound : ∀ request ∈ requests m passes, request.2 ∉ s₂.device.missing := by
        rintro ⟨stage, path⟩ hrequest
        obtain ⟨l, hl, t, hreads, hpath⟩ := (hpack.exists_request_iff hr).mp ⟨stage, hrequest⟩
        rw [halike₂.missing]
        exact (hserves l hl).found t path hreads hpath
      obtain ⟨textures, s₃, hload⟩ :=
        exists_run_loadTextures_of_found (halike₂.lost.trans hlost) hfound []
      rw [run_bind hpacking]
      show ∃ b s', StateT.run (loadTextures [] (requests m passes) >>= _) s₂ = _
      rw [run_bind hload]
      exact ⟨_, _, rfl⟩

/-- What stood in the way of no layer still does not, if more is switched off and there is more
room. -/
theorem serves_of_eases (he : config.Eases config') {a b : Limits} {d d' : Device}
    (hlimits : a.Within b) (hmissing : d'.missing ⊆ d.missing)
    (hlayers : m.layers config format variant = .ok layers)
    (hserves : ∀ l ∈ layers, (packer ⟨.builtin, config⟩ m format variant a).Serves m d l) :
    ∃ layers', m.layers config' format variant = .ok layers' ∧ ∀ l' ∈ layers',
      (packer ⟨.builtin, config'⟩ m format variant b).Serves m d' l' := by
  obtain ⟨layers', hlayers', hfewer⟩ := he.exists_layers hlayers
  refine ⟨layers', hlayers', fun l' hl' => ?_⟩
  obtain ⟨l, hl, hsub⟩ := hfewer l' hl'
  have hplaced {config : Config} {layers : List Layer} {l : Layer}
      (h : m.layers config format variant = .ok layers) (hl : l ∈ layers) : l.features.Placed := by
    obtain ⟨stage, number, e⟩ := Material.features_of_mem_layers h hl
    exact e ▸ m.placed_featuresOf config format variant number stage
  obtain ⟨⟨cost, hcost, hfits⟩, hfound⟩ := hserves l hl
  refine ⟨⟨_, Packer.measure_alone rfl hlayers' hl', ?_⟩, fun t path hreads hpath hmiss => ?_⟩
  · -- With fewer features the layer costs no more, although it shares less.
    cases (Packer.measure_alone rfl hlayers hl).symm.trans hcost
    obtain ⟨htextures, hinterpolators⟩ :=
      Registry.total_mono (hplaced hlayers' hl') (hplaced hlayers hl) hsub
    exact Cost.fits_of_le htextures hinterpolators
      (Cost.fits_within (he.effectiveLimits hlimits) hfits)
  · exact hfound t path (hreads.mono hsub) hpath (hmissing hmiss)

/-- **Builds stay possible.**  If a material was built, with the built-in features, it can also be
built if more is switched off, on any device that has no less room, compiles every program, and
refuses no other textures; and a library that is asked for a fresh form of it then gives the form
itself, and not the stand-in. -/
theorem builds_of_eases {t : Session} (he : config.Eases config')
    (hlimits : s.device.limits.Within t.device.limits) (hlost : t.device.lost = false)
    (hcompiles : ∀ program, t.device.rejects program = false)
    (hmissing : t.device.missing ⊆ s.device.missing)
    (hrun : (build ⟨.builtin, config⟩ m format variant).run s = .ok (.ok b, s')) :
    (∃ b' t', (build ⟨.builtin, config'⟩ m format variant).run t = .ok (.ok b', t')) ∧
      ∀ (l : Library) r f, l.context = ⟨.builtin, config'⟩ → l.At (.own r) f → f.Fresh →
        f.subject = (m, format, variant) →
        ∃ f' l' t', (l.renderable r).run t = .ok ((some (.own r, f'), l'), t') := by
  obtain ⟨layers, hlayers, hserves⟩ := serves_of_run_build rfl hrun
  obtain ⟨layers', hlayers', hserves'⟩ := serves_of_eases he hlimits hmissing hlayers hserves
  have hbuilds : ∃ b' t', (build ⟨.builtin, config'⟩ m format variant).run t = .ok (.ok b', t') :=
    exists_run_build_of_serves rfl hlayers' hlost hcompiles hserves'
  obtain ⟨b', t', hrun'⟩ := hbuilds
  refine ⟨⟨b', t', hrun'⟩, fun l r f hcontext hf hfresh hsubject => ?_⟩
  cases hsubject
  have hensure := hfresh.run_ensureBuilt_of_ok hrun'
  obtain ⟨l', hset, -⟩ := Library.exists_setForm hf (f.withBuilt b')
  refine ⟨f.withBuilt b', l', t', ?_⟩
  unfold Library.renderable
  rw [run_lift_bind hf]
  show StateT.run (f.ensureBuilt l.context >>= _) t = _
  rw [hcontext, run_bind hensure]
  show StateT.run ((liftM (l.setForm (.own r) (f.withBuilt b')) : Action Library) >>= _) t' = _
  rw [run_lift_bind hset]
  rfl

/-- A rock with a normal map, which is switched off on a better device. -/
theorem builds_of_eases_rock :
    let stage : Stage := { diffuseMap := some "a.png", normalMap := some "b.png" }
    let m : Material := { name := "rock", stages := [stage] }
    let config : Config := { disableNormalMapping := true }
    let s : Session := { device := { missing := ["c.png"] } }
    let t : Session := { device := { limits := ⟨16, 12, true⟩, missing := ["c.png"] } }
    ∃ b s', ({} : Config).Eases config ∧ s.device.limits.Within t.device.limits ∧
      t.device.lost = false ∧ (∀ program, t.device.rejects program = false) ∧
      t.device.missing ⊆ s.device.missing ∧
      (build ⟨.builtin, {}⟩ m .positionNormalTangentUv none).run s = .ok (.ok b, s') ∧
      (∃ b' t', (build ⟨.builtin, config⟩ m .positionNormalTangentUv none).run t =
        .ok (.ok b', t')) ∧
      ∀ (l : Library) r f, l.context = ⟨.builtin, config⟩ → l.At (.own r) f → f.Fresh →
        f.subject = (m, .positionNormalTangentUv, none) →
        ∃ f' l' t', (l.renderable r).run t = .ok ((some (.own r, f'), l'), t') := by
  intro stage m config s t
  have hcheck : ((build ⟨.builtin, {}⟩ m .positionNormalTangentUv none).run s).toOption.any
      (fun r => r.1.toOption.isSome) = true := by
    decide +kernel
  obtain ⟨⟨result, s'⟩, hrun, hgood⟩ := exists_of_any_toOption hcheck
  cases result with
  | error error => cases hgood
  | ok b =>
      have he : ({} : Config).Eases config := ⟨fun _ => rfl, id, id, rfl⟩
      have hlimits : s.device.limits.Within t.device.limits := ⟨by decide, by decide⟩
      exact ⟨b, s', he, hlimits, rfl, fun _ => rfl, List.Subset.refl _, hrun,
        builds_of_eases he hlimits rfl (fun _ => rfl) (List.Subset.refl _) hrun⟩

end BuiltMaterial

end MaterialPipeline
