import MaterialPipeline.Proofs.Material.Agreement
import MaterialPipeline.Proofs.Material.Builds

/-!
# Proofs — Material — Samplers

How the texture slots of a pass are read.  Of the layers that a state is stacked from, the one of
the pass alone sets samplers; a slot is the place of its binding, and so of its sampler; and a
program that is within the budget leaves one of the slots free that a state describes, so that no
sampler is left out.

* `Registry.exists_binding_iff`: the textures that are bound are those that the set reads.
* `Material.sampler?`: how a texture is to be read.
* `BuiltMaterial.samplers_of_run_build`: the states of a built material read it so.
-/

namespace MaterialPipeline

/-! ### States -/

theorem StateLayer.resolveNotes_eq_nil {l : StateLayer}
    (h : l.samplers.length ≤ maxSamplerSlots) : l.resolveNotes = [] :=
  if_pos h

/-! ### Bindings -/

namespace Binding

theorem mem_bindAll {requests : List (String × TextureSource)} {bindings : List Binding}
    {b : Binding} (h : b ∈ bindAll bindings requests) :
    b ∈ bindings ∨ (b.name, b.source) ∈ requests := by
  induction requests generalizing bindings with
  | nil => exact .inl h
  | cons request rest ih =>
      obtain ⟨name, source⟩ := request
      rcases ih h with h | h
      · have h : b ∈ bind bindings name source := h
        unfold bind at h
        split at h
        · exact .inl h
        · rcases List.mem_append.mp h with h | h
          · exact .inl h
          · rw [List.mem_singleton.mp h]
            exact .inr List.mem_cons_self
      · exact .inr (List.mem_cons_of_mem _ h)

theorem subset_bindAll (bindings : List Binding) (requests : List (String × TextureSource)) :
    bindings ⊆ bindAll bindings requests := by
  induction requests generalizing bindings with
  | nil => exact List.Subset.refl _
  | cons request rest ih =>
      refine List.Subset.trans ?_ (ih (bind bindings request.1 request.2))
      unfold bind
      split
      · exact List.Subset.refl _
      · exact List.subset_append_left _ _

/-- Every name that is asked for is bound. -/
theorem exists_mem_bindAll {requests : List (String × TextureSource)} (bindings : List Binding)
    {name : String} {source : TextureSource} (h : (name, source) ∈ requests) :
    ∃ b ∈ bindAll bindings requests, b.name = name := by
  induction requests generalizing bindings with
  | nil => cases h
  | cons request rest ih =>
      rcases List.mem_cons.mp h with rfl | h
      · have hbound : ∃ b ∈ bind bindings name source, b.name = name := by
          unfold bind
          split
          next hany =>
            obtain ⟨b, hb, hname⟩ := List.any_eq_true.mp hany
            exact ⟨b, hb, eq_of_beq hname⟩
          next => exact ⟨_, List.mem_append_right _ (List.mem_singleton_self _), rfl⟩
        obtain ⟨b, hb, hname⟩ := hbound
        exact ⟨b, subset_bindAll _ rest hb, hname⟩
      · exact ih (bind bindings request.1 request.2) h

end Binding

/-- The built-in generators ask for what their entries read, under the name of its sampler. -/
theorem Generator.textures_builtin : ∀ p ∈ builtin, ∀ stage, p.2.textures stage =
    (TextureSource.neededBy p.1.id stage).map fun t => (t.samplerName, t) := by
  simp only [builtin, List.forall_mem_cons, List.not_mem_nil, false_imp_iff, implies_true, and_true]
  and_intros <;> exact fun _ => rfl

namespace Registry

/-- The slot of a binding is its place. -/
theorem slot_of_getElem? {r : Registry} {set : FeatureSet} {n : Nat} {b : Binding}
    (h : (r.bindings set)[n]? = some b) : b.slot = n := by
  have hslots := congrArg (·[n]?) (r.slots_bindings set)
  simp only [Binding.slots, List.getElem?_map, h, Option.map_some, List.getElem?_zipIdx,
    Nat.zero_add] at hslots
  obtain ⟨name, -, hname⟩ := Option.map_eq_some_iff.mp hslots.symm
  exact (Prod.mk.inj hname).2.symm

/-- Textures are asked for as the entries read them, each under the name of its sampler. -/
theorem mem_requests_builtin {set : FeatureSet} {name : String} {t : TextureSource} :
    (name, t) ∈ ((builtin.visits set).flatMap fun (e, stage) => e.generator.textures stage) ↔
      set.Reads t ∧ name = t.samplerName := by
  rw [List.mem_flatMap]
  constructor
  · rintro ⟨⟨e, stage⟩, hvisit, ht⟩
    obtain ⟨he, hat⟩ := mem_visits.mp hvisit
    rw [entries_builtin] at he
    obtain ⟨⟨type, generator⟩, hp, rfl⟩ := List.mem_map.mp he
    dsimp only at ht
    rw [Generator.textures_builtin _ hp] at ht
    obtain ⟨u, hu, hname⟩ := List.mem_map.mp ht
    cases hname
    exact ⟨⟨type.id, stage, hat, hu⟩, rfl⟩
  · rintro ⟨⟨id, stage, hat, ht⟩, rfl⟩
    have hregistered := mem_order_of_types_texture t (TextureSource.mem_neededBy.mp ht).2
    obtain ⟨e, he, rfl⟩ := List.mem_map.mp hregistered
    refine ⟨(e, stage), mem_visits.mpr ⟨he, hat⟩, ?_⟩
    rw [entries_builtin] at he
    obtain ⟨⟨type, generator⟩, hp, rfl⟩ := List.mem_map.mp he
    dsimp only
    rw [Generator.textures_builtin _ hp]
    exact List.mem_map_of_mem (f := fun t => (TextureSource.samplerName t, t)) ht

/-- The textures that are bound are those that the set reads. -/
theorem exists_binding_iff {set : FeatureSet} {t : TextureSource} :
    (∃ b ∈ builtin.bindings set, b.source = t) ↔ set.Reads t := by
  have hbound {b : Binding} (hb : b ∈ builtin.bindings set) :
      set.Reads b.source ∧ b.name = b.source.samplerName :=
    mem_requests_builtin.mp ((Binding.mem_bindAll hb).resolve_left List.not_mem_nil)
  constructor
  · rintro ⟨b, hb, rfl⟩
    exact (hbound hb).1
  · intro ht
    obtain ⟨b, hb, hname⟩ :=
      Binding.exists_mem_bindAll [] (mem_requests_builtin.mpr ⟨ht, rfl⟩)
    -- The name is taken by the texture itself, as no other one has it.
    exact ⟨b, hb, TextureSource.samplerName_injective ((hbound hb).2.symm.trans hname)⟩

/-- What a binding reads is needed by an entry of the set, which carries its number. -/
theorem source_of_mem_bindings {set : FeatureSet} (hset : set.Placed) {b : Binding}
    (hb : b ∈ builtin.bindings set) : ∃ id, set.hasAt id b.source.number = true := by
  obtain ⟨id, stage, hat, ht⟩ := exists_binding_iff.mp ⟨b, hb, rfl⟩
  exact ⟨id, by rwa [TextureSource.number_eq (hset _ _ hat) ht]⟩

end Registry

/-! ### Materials -/

/-- How a texture is to be read: a map as its stage says, and a light map to its edge. -/
def Material.sampler? (m : Material) : TextureSource → Option Sampler
  | .map n _ => m.stages[n]?.map fun s => if s.clamp then .clampLinear else .wrapLinear
  | .lightMap => some .clampLinear

/-- The pass has few textures, and its state under any conditions keeps all samplers: it reads the
slot of every binding as its texture is to be read, and every other slot as the device does by
default. -/
structure Pass.ReadsRight (d : Device) (m : Material) (p : Pass) : Prop where
  /-- There is one state for each of the conditions. -/
  each : p.states.length = Conditions.count
  few : p.bindings.length < maxSamplerSlots
  kept : ∀ c, ((p.inputs (.ofMaterial m)).layered c).samplers.length ≤ maxSamplerSlots ∧
    ((p.inputs (.ofMaterial m)).layered c).resolveNotes = []
  states : ∀ c, ∃ block, d.state? (p.state c) = some block ∧
    block = ((p.inputs (.ofMaterial m)).layered c).resolve ∧
    (∀ b ∈ p.bindings, ∃ h : b.slot < maxSamplerSlots,
      m.sampler? b.source = some block.samplers[b.slot]) ∧
    ∀ slot (h : slot < maxSamplerSlots), (∀ b ∈ p.bindings, b.slot ≠ slot) →
      block.samplers[slot] = .wrapLinear

namespace Packer

variable {p : Packer} {m : Material} {config : Config} {format : VertexFormat}
  {variant : Option Variant} {layers block : List Layer} {s : Session} {pass : Pass}

/-- A program within the budget leaves a sampler slot free. -/
theorem length_bindings_lt (hp : p.registry = .builtin)
    (hlimits : p.limits.textureSlots ≤ maxSamplerSlots)
    (h : m.layers config format variant = .ok layers) (hblock : block ⊆ layers)
    (hfits : (p.cost block).fits p.limits = true) :
    (p.bindings block).length < maxSamplerSlots := by
  have htextures : (p.cost block).textures = (p.bindings block).length := by
    rw [cost, bindings, hp]
    exact Registry.textures_eq (Material.placed_mergeAll h hblock)
  simp only [Cost.fits, Bool.and_eq_true, decide_eq_true_eq] at hfits
  omega

/-- The sampler of a binding is the one that its texture is to be read by. -/
theorem sampler?_of_mem_bindings (hp : p.registry = .builtin)
    (h : m.layers config format variant = .ok layers) (hblock : block ⊆ layers) {b : Binding}
    (hb : b ∈ p.bindings block) : m.sampler? b.source = some (samplerOf block b) := by
  rw [bindings, hp] at hb
  obtain ⟨id, hat⟩ := Registry.source_of_mem_bindings (Material.placed_mergeAll h hblock) hb
  unfold samplerOf
  cases hsource : b.source with
  | lightMap => rfl
  | map n kind =>
      rw [hsource] at hat
      obtain ⟨l, hl, hnumber, -⟩ := Material.exists_layer_of_hasAt h hblock hat
      -- The first layer of that number is the stage of that number too.
      have hsome : (block.find? (·.stage == n)).isSome :=
        List.find?_isSome.mpr ⟨l, hl, by simp [hnumber]⟩
      obtain ⟨l', hfind⟩ := Option.isSome_iff_exists.mp hsome
      have hnumber' : l'.stage = n := by simpa using List.find?_some hfind
      obtain ⟨-, stage, hstage, hsampler, -⟩ :=
        Material.stage_of_mem_layers h (hblock (List.mem_of_find?_eq_some hfind))
      rw [hnumber'] at hstage
      simp only [hfind, Option.map_some, Option.getD_some, Material.sampler?, hstage, hsampler]
      rfl

theorem Stands.readsRight (hp : p.registry = .builtin) (hinputs : p.inputs = .ofMaterial m)
    (hlimits : p.limits.textureSlots ≤ maxSamplerSlots)
    (h : m.layers config format variant = .ok layers) (hblock : block ⊆ layers)
    (hstands : p.Stands s block pass) : pass.ReadsRight s.device m := by
  have hfew := length_bindings_lt hp hlimits h hblock hstands.fits
  have hlayered (c : Conditions) : ((pass.inputs (.ofMaterial m)).layered c).samplers =
      ((p.bindings block).map (samplerOf block)).map some := by
    rw [StateInputs.samplers_layered, Pass.inputs, hstands.samplers]
  have hkept (c : Conditions) :
      ((pass.inputs (.ofMaterial m)).layered c).samplers.length ≤ maxSamplerSlots := by
    rw [hlayered, List.length_map, List.length_map]
    exact hfew.le
  refine ⟨hstands.length_states, hstands.bindings ▸ hfew,
    fun c => ⟨hkept c, StateLayer.resolveNotes_eq_nil (hkept c)⟩,
    fun c => ⟨_, hinputs ▸ hstands.state c, rfl, fun b hb => ?_, fun slot hslot hfree => ?_⟩⟩
  · rw [hstands.bindings] at hb
    obtain ⟨n, hn⟩ := List.mem_iff_getElem?.mp hb
    obtain rfl := Registry.slot_of_getElem? hn
    have hslot := (List.getElem?_eq_some_iff.mp hn).1.trans hfew
    refine ⟨hslot, ?_⟩
    rw [StateLayer.getElem_samplers_resolve (hlayered c) hslot, List.getElem?_map, hn]
    exact sampler?_of_mem_bindings hp h hblock hb
  · have hnone : (p.bindings block)[slot]? = none := by
      refine Option.eq_none_iff_forall_ne_some.mpr fun b hb => ?_
      rw [hstands.bindings] at hfree
      exact hfree b (List.mem_of_getElem? hb) (Registry.slot_of_getElem? hb)
    rw [StateLayer.getElem_samplers_resolve (hlayered c) hslot, List.getElem?_map, hnone]
    rfl

end Packer

namespace BuiltMaterial

variable {context : BuildContext} {m : Material} {format : VertexFormat} {variant : Option Variant}
  {b : BuiltMaterial} {p : Pass} {s s' : Session}

/-- **Every texture slot is read as it is to be.**  With the built-in features, whatever slots the
device or the configuration claim to have, each pass of a built material has fewer textures than a
state describes, and its state under any conditions reads every slot as the material says. -/
theorem samplers_of_run_build (hcontext : context.registry = .builtin)
    (hrun : (build context m format variant).run s = .ok (.ok b, s')) (hp : p ∈ b.passes) :
    p.ReadsRight s'.device m := by
  obtain ⟨-, ⟨layers, device, hlayers, hpasses⟩, -⟩ := of_run_build hrun
  obtain ⟨block, -, hblock, hstands⟩ := hpasses p hp
  have hlimits : (context.config.effectiveLimits device).textureSlots ≤ maxSamplerSlots :=
    Nat.min_le_right ..
  exact hstands.readsRight hcontext rfl hlimits hlayers hblock.subset

/-- A clamped map and a light map, on a device that claims more slots than a state describes. -/
theorem samplers_of_run_build_two_maps :
    let context : BuildContext := ⟨.builtin, {}⟩
    let stage : Stage := { diffuseMap := some "a.png", clamp := true, lightMap := true }
    let m : Material := { name := "wall", stages := [stage] }
    let s : Session := { device := { limits := { textureSlots := 64 } } }
    ∃ b s' p, context.registry = .builtin ∧
      (build context m .positionNormalTangentUv2 none).run s = .ok (.ok b, s') ∧ p ∈ b.passes ∧
      p.bindings.length = 2 ∧ p.ReadsRight s'.device m := by
  intro context stage m s
  have hcheck : ((build context m .positionNormalTangentUv2 none).run s).toOption.any
      (fun r => r.1.toOption.any fun b => b.passes.any (·.bindings.length == 2)) = true := by
    decide +kernel
  obtain ⟨⟨result, s'⟩, hrun, hgood⟩ := Action.exists_of_any_toOption hcheck
  cases result with
  | error error => cases hgood
  | ok b =>
      obtain ⟨p, hp, hlength⟩ := List.any_eq_true.mp hgood
      exact ⟨b, s', p, rfl, hrun, hp, beq_iff_eq.mp hlength, samplers_of_run_build rfl hrun hp⟩

end BuiltMaterial

end MaterialPipeline
