import MaterialPipeline.Proofs.Material.Holdings
import MaterialPipeline.Proofs.Pass.Standing
import MaterialPipeline.Proofs.Program.Declared
import MaterialPipeline.Proofs.Session.Mirrors

/-!
# Proofs — Material — Builds

What a build returns, read off its run: every pass has a state object for each render condition and
a slot of its own for each texture, and every texture that a pass asks for was loaded.

* `BuiltMaterial.of_run_build`: the passes that a build returns stand over the layers of the
material, and the textures that they ask for are loaded.
* `BuiltMaterial.Furnished`: a built material whose passes are complete and whose textures are
loaded.
* `Holding.Sound.furnished`: what a form holds is so.
-/

namespace MaterialPipeline

open MaterialPipeline.Action

variable {s s' : Session}

/-! ### Textures -/

/-- A texture keeps its path. -/
theorem Device.Grows.texturePath? {d d' : Device} (h : d.Grows d') {t : TextureHandle}
    {path : String} (ht : d.texturePath? t = some path) : d'.texturePath? t = some path := by
  have ht : d.textures.toList[t.number]? = some path := by rwa [Array.getElem?_toList]
  obtain ⟨hn, hpath⟩ := List.getElem?_eq_some_iff.mp ht
  rw [Device.texturePath?, ← Array.getElem?_toList,
    List.prefix_iff_getElem?.mp h.textures _ hn, hpath]

namespace BuiltMaterial

variable {context : BuildContext} {m : Material} {format : VertexFormat} {variant : Option Variant}
  {b : BuiltMaterial}

/-- Each texture was loaded from the path that it is listed under. -/
def Loaded (d : Device) (textures : List (String × TextureHandle)) : Prop :=
  ∀ x ∈ textures, d.texturePath? x.2 = some x.1

theorem loaded_of_loadTextures {loaded textures : List (String × TextureHandle)}
    {requests : List (Nat × String)} (hloaded : Loaded s.device loaded)
    (hrun : (loadTextures loaded requests).run s = .ok (.ok textures, s')) :
    Loaded s'.device textures ∧ loaded ⊆ textures ∧
      ∀ request ∈ requests, ∃ h, (request.2, h) ∈ textures := by
  induction requests generalizing loaded s with
  | nil =>
      cases hrun
      exact ⟨hloaded, List.Subset.refl _, fun _ h => absurd h List.not_mem_nil⟩
  | cons request rest ih =>
      obtain ⟨stage, path⟩ := request
      rw [loadTextures] at hrun
      split at hrun
      next hany =>
        obtain ⟨htextures, hsub, hrest⟩ := ih hloaded hrun
        obtain ⟨x, hx, hpath⟩ := List.any_eq_true.mp hany
        refine ⟨htextures, hsub, List.forall_mem_cons.mpr ⟨⟨x.2, hsub ?_⟩, hrest⟩⟩
        rwa [← eq_of_beq hpath]
      next =>
        obtain ⟨answer, s₁, hload, hrun⟩ := of_run_bind hrun
        cases (run_onDevice _ s).symm.trans hload
        rcases Device.loadTexture_cases s.device path with ⟨error, he⟩ | he
        · rw [he] at hrun
          cases hrun
        · rw [he] at hrun
          have hgrows : s.device.Grows (s.device.loaded path) :=
            ⟨List.prefix_rfl, by simp [Device.loaded]⟩
          have hnew : (s.device.loaded path).texturePath? ⟨s.device.textures.size⟩ = some path := by
            simp [Device.texturePath?, Device.loaded]
          obtain ⟨htextures, hsub, hrest⟩ := ih (fun x hx => by
            rcases List.mem_append.mp hx with hx | hx
            · exact hgrows.texturePath? (hloaded x hx)
            · rw [List.mem_singleton.mp hx]
              exact hnew) hrun
          have hpath := hsub (List.mem_append_right loaded (List.mem_singleton_self _))
          exact ⟨htextures, fun x hx => hsub (List.mem_append_left _ hx),
            List.forall_mem_cons.mpr ⟨⟨_, hpath⟩, hrest⟩⟩

/-- The passes are complete, and the texture of every binding that asks for one is loaded. -/
structure Furnished (d : Device) (b : BuiltMaterial) : Prop where
  states : ∀ p ∈ b.passes, p.states.length = Conditions.count
  slots : ∀ p ∈ b.passes, (p.bindings.map (·.slot)).Nodup
  textures : ∀ p ∈ b.passes, ∀ binding ∈ p.bindings, ∀ stage path,
    pathOf b.material binding = some (stage, path) →
      ∃ h, b.texture? path = some h ∧ d.texturePath? h = some path

theorem nodup_slots_bindings (r : Registry) (set : FeatureSet) :
    ((r.bindings set).map (·.slot)).Nodup := by
  have hslots := congrArg (List.map Prod.snd) (r.slots_bindings set)
  rw [List.zipIdx_map_snd, Binding.slots, List.map_map] at hslots
  rw [show (fun b : Binding => b.slot) = Prod.snd ∘ fun b => (b.name, b.slot) from rfl, hslots]
  exact List.nodup_range'

theorem texture?_of_loaded {d : Device} {path : String} {h : TextureHandle}
    (hloaded : Loaded d b.textures) (hmem : (path, h) ∈ b.textures) :
    ∃ h', b.texture? path = some h' ∧ d.texturePath? h' = some path := by
  have hfind : (b.textures.find? (·.1 == path)).isSome :=
    List.find?_isSome.mpr ⟨_, hmem, beq_self_eq_true path⟩
  obtain ⟨x, hx⟩ := Option.isSome_iff_exists.mp hfind
  refine ⟨x.2, by rw [texture?, hx]; rfl, ?_⟩
  have hpath : x.1 == path := List.find?_some (p := fun x : String × _ => x.1 == path) hx
  rw [hloaded x (List.mem_of_find?_eq_some hx), eq_of_beq hpath]

/-- Loading textures leaves programs and states alone. -/
theorem extends_of_loadTextures {loaded : List (String × TextureHandle)}
    {requests : List (Nat × String)}
    {result : Except (MaterialError × List (String × TextureHandle))
      (List (String × TextureHandle))}
    (hrun : (loadTextures loaded requests).run s = .ok (result, s')) : s.Extends s' := by
  induction requests generalizing loaded s with
  | nil =>
      cases hrun
      exact .refl _
  | cons request rest ih =>
      obtain ⟨stage, path⟩ := request
      rw [loadTextures] at hrun
      split at hrun
      · exact ih hrun
      · obtain ⟨answer, s₁, hload, hrun⟩ := of_run_bind hrun
        cases (run_onDevice _ s).symm.trans hload
        rcases Device.loadTexture_cases s.device path with ⟨error, he⟩ | he
        · rw [he] at hrun
          cases hrun
          exact .of_eq rfl rfl
        · rw [he] at hrun
          refine Session.Extends.trans ?_ (ih hrun)
          exact .of_eq rfl rfl

/-- A build that succeeds first reported, then packed the layers of the material within the budget of
the device, and then loaded the textures that the passes ask for. -/
theorem parts_of_run_build (hrun : (build context m format variant).run s = .ok (.ok b, s')) :
    b.material = m ∧ b.variant = variant ∧ ∃ layers s₁ s₂ s₃,
      m.layers context.config format variant = .ok layers ∧
      s.device.AnswersLike s₁.device ∧
      ((packer context m format variant s.device.limits).buildPasses layers).run s₁ =
        .ok (.ok b.passes, s₂) ∧
      (loadTextures [] (requests m b.passes)).run s₂ = .ok (.ok b.textures, s₃) ∧
      s'.device = s₃.device := by
  unfold build at hrun
  split at hrun
  · cases hrun
  next layers hlayers =>
    obtain ⟨_, s₀, hnotes, hrun⟩ := of_run_bind hrun
    obtain ⟨device, _, hlimits, hrun⟩ := of_run_bind hrun
    cases (run_reportAll _ s).symm.trans hnotes
    cases hlimits
    obtain ⟨_, _, hnotes, hrun⟩ := of_run_bind hrun
    cases (run_reportAll _ _).symm.trans hnotes
    obtain ⟨passes, _, hpasses, hrun⟩ := of_run_bind hrun
    cases passes with
    | error error => cases hrun
    | ok passes =>
        obtain ⟨textures, _, htextures, hrun⟩ := of_run_bind hrun
        cases textures with
        | error failed =>
            obtain ⟨_, _, -, hrun⟩ := of_run_bind hrun
            cases hrun
        | ok textures =>
            obtain ⟨_, _, hreport, hrun⟩ := of_run_bind hrun
            cases hreport
            cases hrun
            refine ⟨rfl, rfl, layers, _, _, _, hlayers, ?_, hpasses, htextures, rfl⟩
            exact (s.answersLike_extend [] _).trans (Session.answersLike_extend _ [] _)

/-- The passes that a build returns are laid over the layers of the material, and its textures were
loaded from their paths. -/
theorem laid_of_run_build (hrun : (build context m format variant).run s = .ok (.ok b, s')) :
    ∃ layers blocks, m.layers context.config format variant = .ok layers ∧
      (packer context m format variant s.device.limits).Laid s' layers b.passes blocks ∧
      Loaded s'.device b.textures := by
  obtain ⟨-, -, layers, s₁, s₂, s₃, hlayers, -, hpasses, htextures, hdevice⟩ :=
    parts_of_run_build hrun
  obtain ⟨blocks, hlaid⟩ := Packer.laid_of_buildPasses hpasses
  have hlater : s₃.Extends s' := .of_eq (by rw [hdevice]) (by rw [hdevice])
  refine ⟨layers, blocks, hlayers,
    hlaid.mono ((extends_of_loadTextures htextures).trans hlater), ?_⟩
  rw [hdevice]
  exact (loaded_of_loadTextures (fun _ h => absurd h List.not_mem_nil) htextures).1

/-- **What a build returns.**  Its passes stand over layers of the material, packed within the
budget of the device, and every texture that they ask for is loaded. -/
theorem of_run_build (hrun : (build context m format variant).run s = .ok (.ok b, s')) :
    b.material = m ∧ (∃ layers device, m.layers context.config format variant = .ok layers ∧
      ∀ pass ∈ b.passes,
        (packer context m format variant device).StandsWithin s' layers pass) ∧
      Loaded s'.device b.textures ∧
      ∀ request ∈ requests m b.passes, ∃ h, (request.2, h) ∈ b.textures := by
  obtain ⟨hmaterial, -, layers, s₁, s₂, s₃, hlayers, -, hpasses, htextures, hdevice⟩ :=
    parts_of_run_build hrun
  obtain ⟨hloaded, -, hrequests⟩ :=
    loaded_of_loadTextures (fun _ h => absurd h List.not_mem_nil) htextures
  have hlater : s₃.Extends s' := .of_eq (by rw [hdevice]) (by rw [hdevice])
  rw [hdevice]
  refine ⟨hmaterial, ⟨layers, s.device.limits, hlayers, fun pass hpass => ?_⟩, hloaded, hrequests⟩
  refine (Packer.stands_of_buildPasses hpasses pass hpass).mono ?_
  exact (extends_of_loadTextures htextures).trans hlater

theorem furnished_of_run_build (hrun : (build context m format variant).run s = .ok (.ok b, s')) :
    b.Furnished s'.device := by
  obtain ⟨rfl, ⟨layers, device, -, hpasses⟩, hloaded, hrequests⟩ := of_run_build hrun
  refine ⟨fun p hp => ?_, fun p hp => ?_, fun p hp binding hb stage path hpath => ?_⟩
  · obtain ⟨block, -, -, hstands⟩ := hpasses p hp
    exact hstands.length_states
  · obtain ⟨block, -, -, hstands⟩ := hpasses p hp
    rw [hstands.bindings]
    exact nodup_slots_bindings ..
  · obtain ⟨h, hmem⟩ := hrequests (stage, path)
      (List.mem_flatMap.mpr ⟨p, hp, List.mem_filterMap.mpr ⟨binding, hb, hpath⟩⟩)
    exact texture?_of_loaded hloaded hmem

theorem Furnished.mono {d d' : Device} (h : b.Furnished d) (hd : d.Grows d') : b.Furnished d' := by
  refine ⟨h.states, h.slots, fun p hp binding hb stage path hpath => ?_⟩
  obtain ⟨t, ht, hloaded⟩ := h.textures p hp binding hb stage path hpath
  exact ⟨t, ht, hd.texturePath? hloaded⟩

end BuiltMaterial

theorem Holding.Sound.furnished {d : Device} {h : Holding} (hs : h.Sound d) :
    h.built.Furnished d ∧ h.built.material = h.material := by
  obtain ⟨context, s, s', hrun, hgrows⟩ := hs
  exact ⟨(BuiltMaterial.furnished_of_run_build hrun).mono hgrows,
    (BuiltMaterial.of_run_build hrun).1⟩

end MaterialPipeline
