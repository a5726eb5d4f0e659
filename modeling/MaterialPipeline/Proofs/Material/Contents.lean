import MaterialPipeline.Proofs.Material.Builds
import MaterialPipeline.Proofs.Material.Mirrors

/-!
# Proofs — Material — Contents

What a device has behind the numbers of a built material: the program of each pass, its state under
each of the sixteen render conditions, and the paths of the textures.  Right after a build this is
known from the bare material alone, so two builds that are the same up to numbers have the same
behind the numbers too.

* `Pass.contents`, `BuiltMaterial.contents`, `Form.shown`: what is behind the numbers.
* `BuiltMaterial.contents_of_run_build`: what it is after a build.
* `BuiltMaterial.contents_congr`: two builds side by side.
-/

namespace MaterialPipeline

open MaterialPipeline.Action

variable {s s' t t' : Session}

/-- What the device has of a pass: its program, and its states by the bits of their conditions. -/
def Pass.contents (d : Device) (p : Pass) : Option Program × List (Option StateBlock) :=
  (d.program? p.program, p.states.map d.state?)

/-- What the device has of a built material: of each of its passes, and the paths of its textures. -/
def BuiltMaterial.contents (d : Device) (b : BuiltMaterial) :
    List (Option Program × List (Option StateBlock)) × List (Option String) :=
  (b.passes.map (·.contents d), b.textures.map (d.texturePath? ·.2))

/-- The form with what the device has of it in place of the numbers. -/
def Form.shown (d : Device) (f : Form) :
    Form × Option (List (Option Program × List (Option StateBlock)) × List (Option String)) :=
  (f.bare, f.built.map (·.contents d))

theorem Form.shown_of_not_built {f : Form} (h : f.built = none) (d : Device) :
    f.shown d = (f.bare, none) := by
  rw [shown, h]
  rfl

/-- Everything that the built material has numbers for is on the device. -/
structure BuiltMaterial.Present (d : Device) (b : BuiltMaterial) : Prop where
  programs : ∀ p ∈ b.passes, (d.program? p.program).isSome
  states : ∀ p ∈ b.passes, p.states.length = Conditions.count ∧
    ∀ h ∈ p.states, (d.state? h).isSome
  textures : ∀ x ∈ b.textures, d.texturePath? x.2 = some x.1

/-! ### Passes -/

/-- The states of a pass are those of the conditions, in order. -/
theorem Pass.states_eq {p : Pass} (h : p.states.length = Conditions.count) :
    p.states = Conditions.all.map p.state := by
  have hbits : ∀ i < Conditions.count, (Conditions.ofBits i).bits = i := by decide
  refine List.ext_getElem (by rw [h]; rfl) fun i hi hi' => ?_
  have hcount : i < Conditions.count := h ▸ hi
  rw [List.getElem_map, Pass.state]
  simp only [Conditions.all, List.getElem_map, List.getElem_range]
  rw [hbits i hcount, List.getElem?_eq_getElem hi]
  rfl

namespace Packer

variable {p : Packer} {index : Nat} {block : List Layer} {pass : Pass}

/-- What packing puts behind the numbers of the pass numbered `index`. -/
def contentsOf (p : Packer) (index : Nat) (pass : Pass) :
    Option Program × List (Option StateBlock) :=
  (some (p.registry.assemble p.format s!"{p.label}:{index}" pass.features),
    (pass.inputs p.inputs).states.map some)

theorem StandsAt.contents (h : p.StandsAt s index block pass) :
    pass.contents s.device = p.contentsOf index pass := by
  rw [Pass.contents, contentsOf, h.program, h.features, Pass.states_eq h.stands.length_states,
    StateInputs.states, List.map_map, List.map_map]
  refine congrArg (Prod.mk _) (List.map_congr_left fun c _ => ?_)
  exact h.stands.state c

end Packer

namespace BuiltMaterial

variable {context : BuildContext} {m : Material} {format : VertexFormat} {variant : Option Variant}
  {b b' : BuiltMaterial}

/-! ### Builds -/

/-- What the device has of a material right after its build. -/
theorem contents_of_run_build (hrun : (build context m format variant).run s = .ok (.ok b, s')) :
    b.contents s'.device =
      (b.passes.zipIdx.map fun (pass, index) =>
          (packer context m format variant s.device.limits).contentsOf index pass,
        b.textures.map fun x => some x.1) := by
  obtain ⟨layers, blocks, -, hlaid, hloaded⟩ := laid_of_run_build hrun
  have hpasses : b.passes.map (·.contents s'.device) = b.passes.zipIdx.map fun (pass, index) =>
      (packer context m format variant s.device.limits).contentsOf index pass := by
    refine List.ext_getElem (by simp) fun i hi hi' => ?_
    rw [List.length_map] at hi
    have hblock : i < blocks.length := hlaid.length ▸ hi
    rw [List.getElem_map, List.getElem_map, List.getElem_zipIdx, Nat.zero_add]
    exact (hlaid.stands i _ _ (List.getElem?_eq_getElem hblock)
      (List.getElem?_eq_getElem hi)).contents
  rw [contents, hpasses]
  exact congrArg (Prod.mk _) (List.map_congr_left fun x hx => hloaded x hx)

theorem present_of_run_build (hrun : (build context m format variant).run s = .ok (.ok b, s')) :
    b.Present s'.device := by
  obtain ⟨layers, blocks, -, hlaid, hloaded⟩ := laid_of_run_build hrun
  refine ⟨fun p hp => ?_, fun p hp => ?_, hloaded⟩
  · obtain ⟨index, block, -, hstands⟩ := hlaid.of_mem hp
    rw [hstands.program]
    rfl
  · obtain ⟨index, block, -, hstands⟩ := hlaid.of_mem hp
    have hlength := hstands.stands.length_states
    refine ⟨hlength, fun h hh => ?_⟩
    rw [Pass.states_eq hlength] at hh
    obtain ⟨c, -, rfl⟩ := List.mem_map.mp hh
    rw [hstands.stands.state c]
    rfl

/-- **What is behind the numbers.**  Two builds of one material, on devices with the same limits,
that came to the same up to numbers, have the same programs, states and textures behind them. -/
theorem contents_congr (hlimits : t.device.limits = s.device.limits)
    (hrun : (build context m format variant).run s = .ok (.ok b, s'))
    (hrun' : (build context m format variant).run t = .ok (.ok b', t')) (h : b.bare = b'.bare) :
    b.contents s'.device = b'.contents t'.device := by
  rw [contents_of_run_build hrun, contents_of_run_build hrun', hlimits]
  have hpasses (b : BuiltMaterial) (p : Packer) :
      (b.passes.zipIdx.map fun (pass, index) => p.contentsOf index pass) =
        b.bare.passes.zipIdx.map fun (pass, index) => p.contentsOf index pass := by
    rw [bare, List.zipIdx_map, List.map_map]
    rfl
  have htextures (b : BuiltMaterial) :
      (b.textures.map fun x => some x.1) = b.bare.textures.map fun x => some x.1 := by
    rw [bare, List.map_map]
    rfl
  rw [hpasses b, hpasses b', htextures b, htextures b', h]

end BuiltMaterial

end MaterialPipeline
