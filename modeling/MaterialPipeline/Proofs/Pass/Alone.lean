import MaterialPipeline.Proofs.Material.Agreement
import MaterialPipeline.Proofs.Pass.Cover

/-!
# Proofs — Pass — Alone

When the layers of a material can be packed at all.  On a device that compiles every program, they
can exactly if the budget suffices for each layer alone (`buildPasses_iff_alone`): layers that share
a pass never cost less than one of them, so no pass hides a layer that is over the budget; and a
pass that is not built fails over its first layer alone.
-/

namespace MaterialPipeline

/-- A cost is within the budget if a larger one is. -/
theorem Cost.fits_of_le {a b : Cost} {limits : Limits} (ht : a.textures ≤ b.textures)
    (hi : a.interpolators ≤ b.interpolators) (h : b.fits limits = true) : a.fits limits = true := by
  simp only [Cost.fits, Bool.and_eq_true, decide_eq_true_eq] at h ⊢
  omega

theorem Layer.union_singleton (l : Layer) : Layer.union [l] = l.features :=
  FeatureSet.mergeAll_singleton l.features

namespace Packer

variable {p : Packer} {m : Material} {config : Config} {format : VertexFormat}
  {variant : Option Variant} {layers taken : List Layer} {l : Layer} {s s₀ : Session}
  {passes : List Pass} {blocks : List (List Layer)}

/-- The budget suffices for a layer alone. -/
def FitsAlone (p : Packer) (l : Layer) : Prop :=
  ∃ cost, p.registry.measure l.features = .ok cost ∧ cost.fits p.limits = true

section

variable (hp : p.registry = .builtin) (h : m.layers config format variant = .ok layers)

include hp h

theorem bounded_cost (hblock : List.Sublist taken layers) : (p.cost taken).Bounded := by
  rw [cost, hp]
  exact Material.bounded_mergeAll h hblock

/-- What a layer costs alone. -/
theorem measure_alone (hl : l ∈ layers) :
    p.registry.measure l.features = .ok (p.registry.total l.features) := by
  have hb := bounded_cost hp h (List.singleton_sublist.mpr hl)
  rw [cost, Layer.union_singleton] at hb
  exact Registry.measure_of_bounded hb

/-- A layer alone costs no more than together with others. -/
theorem total_alone_le (hblock : List.Sublist taken layers) (hl : l ∈ taken) :
    (p.registry.total l.features).textures ≤ (p.cost taken).textures ∧
      (p.registry.total l.features).interpolators ≤ (p.cost taken).interpolators := by
  have halone : l.features.Placed := by
    have hsingle := (List.singleton_sublist.mpr (hblock.subset hl)).subset
    have hplaced := Material.placed_mergeAll h hsingle
    rwa [List.map_singleton, FeatureSet.mergeAll_singleton] at hplaced
  rw [cost, hp]
  have htogether := Material.placed_mergeAll h hblock.subset
  refine Registry.total_mono halone htogether fun id stage hat => ?_
  exact FeatureSet.hasAt_mergeAll.mpr ⟨_, List.mem_map_of_mem hl, hat⟩

/-- The layers that passes cover fit alone. -/
theorem Packing.fitsAlone (hsub : List.Sublist taken layers)
    (hpack : p.Packing s₀ s taken passes blocks) : ∀ l ∈ taken, p.FitsAlone l := by
  intro l hl
  obtain ⟨i, block, pass, -, hblock, hl', hc⟩ := hpack.exists_covers_of_layer hl
  have hsub' : List.Sublist block layers := by
    rw [← hpack.flatten] at hsub
    exact (List.sublist_flatten_of_mem hblock).trans hsub
  -- The pass was measured within the budget, and the layer costs no more than the whole pass.
  have hcost : pass.cost = p.cost block := by
    have hmeasure := hc.cost
    rw [hc.features] at hmeasure
    have hbounded := Registry.measure_of_bounded (bounded_cost hp h hsub')
    exact Except.ok.inj (hmeasure.symm.trans hbounded)
  obtain ⟨ht, hn⟩ := total_alone_le hp h hsub' hl'
  exact ⟨_, measure_alone hp h (hsub.subset hl), Cost.fits_of_le ht hn (hcost ▸ hc.fits)⟩

end

/-- A pass that is not built, on a device that compiles every program, is over the budget already
with its first layer alone. -/
theorem FailsWith.eq_overflow (h : m.layers config format variant = .ok layers)
    {refusal : Program → Option DeviceError}
    (hrefusal : ∀ program, refusal program = none) {first : Layer} {rest : List Layer}
    (hsub : List.Sublist (first :: rest) layers) {index : Nat} {tried : List Nat}
    (htried : tried <+: halvings (first :: rest).length) {error : BuildError}
    (hfails : p.FailsWith refusal index first (first :: rest) tried error) :
    ∃ cost, p.registry.measure first.features = .ok cost ∧ cost.fits p.limits = false ∧
      error = .overflow first.stage cost.textures cost.interpolators := by
  cases hfails with
  | @empty k hk hempty =>
      have hpos := (bounds_of_mem_halvings (htried.subset hk)).1
      have hne : (first :: rest).take k ≠ [] := by simp; omega
      have hsub' := ((List.take_sublist k (first :: rest)).trans hsub).subset
      rw [Layer.union, Material.isEmpty_mergeAll h hsub' hne] at hempty
      cases hempty
  | @overflow cost hne hcost hover =>
      rw [Layer.union_singleton] at hcost
      exact ⟨cost, hcost, hover, rfl⟩
  | compile hne hcost hfits hrefused =>
      rw [hrefusal] at hrefused
      cases hrefused

/-- On a device that compiles every program, packing layers that fit alone does not get stuck. -/
theorem Packed.exists_passes (h : m.layers config format variant = .ok layers)
    (hrefusal : ∀ program, s.device.refusal program = none) (halone : ∀ l ∈ layers, p.FitsAlone l)
    {result : Except BuildError (List Pass)} {s' : Session}
    (hpacked : p.Packed s layers result s') : ∃ passes, result = .ok passes := by
  cases hpacked with
  | all hpack => exact ⟨_, rfl⟩
  | @stuck _ _ taken rest first _ _ _ _ hsplit _ htried hfails =>
      have hfirst : List.Sublist (first :: rest) layers :=
        hsplit ▸ List.sublist_append_right taken (first :: rest)
      obtain ⟨cost, hcost, hover, -⟩ := hfails.eq_overflow h hrefusal hfirst htried
      obtain ⟨cost', hcost', hfits⟩ := halone first (hfirst.subset List.mem_cons_self)
      cases hcost.symm.trans hcost'
      cases hover.symm.trans hfits

/-- **Packing succeeds exactly if every layer fits alone.**  On a device that compiles every
program, the layers of a material can be packed if and only if the budget suffices for each of them
alone; if they cannot, the error names the first layer that it does not suffice for, and what that
layer costs alone. -/
theorem buildPasses_iff_alone (hp : p.registry = .builtin)
    (h : m.layers config format variant = .ok layers) (hlost : s.device.lost = false)
    (hcompiles : ∀ program, s.device.rejects program = false) :
    ∃ result s', (p.buildPasses layers).run s = .ok (result, s') ∧
      ((∃ passes, result = .ok passes) ↔ ∀ l ∈ layers, p.FitsAlone l) ∧
      ∀ error, result = .error error → ∃ before l after cost, layers = before ++ l :: after ∧
        (∀ b ∈ before, p.FitsAlone b) ∧ p.registry.measure l.features = .ok cost ∧
        cost.fits p.limits = false ∧
        error = .overflow l.stage cost.textures cost.interpolators := by
  have hrefusal : ∀ program, s.device.refusal program = none := fun program =>
    Device.refusal_eq_none_iff.mpr ⟨hlost, hcompiles program⟩
  obtain ⟨result, s', hrun, hpacked⟩ := run_buildPasses (Material.layers_ne_nil h)
    (fun block hblock => bounded_cost hp h hblock.sublist) s
  refine ⟨result, s', hrun, ?_⟩
  cases hpacked with
  | all hpack =>
      have halone := hpack.fitsAlone hp h (List.Sublist.refl layers)
      exact ⟨⟨fun _ => halone, fun _ => ⟨_, rfl⟩⟩, fun error he => by cases he⟩
  | @stuck _ _ taken rest first _ _ _ _ hsplit hpack htried hfails =>
      have hfirst : List.Sublist (first :: rest) layers :=
        hsplit ▸ List.sublist_append_right taken (first :: rest)
      -- The layers before are in passes, and so fit alone; the first one left is to blame.
      obtain ⟨cost, hcost, hover, rfl⟩ :=
        hfails.eq_overflow h hrefusal hfirst htried
      refine ⟨⟨fun ⟨_, hok⟩ => (by cases hok), fun halone => ?_⟩, fun error he => ?_⟩
      · obtain ⟨cost', hcost', hfits⟩ := halone first (hfirst.subset List.mem_cons_self)
        rw [hcost] at hcost'
        cases hcost'
        rw [hover] at hfits
        cases hfits
      · cases he
        have hbefore := hpack.fitsAlone hp h (hsplit ▸ List.sublist_append_left taken _)
        exact ⟨taken, first, rest, cost, hsplit.symm, hbefore, hcost, hover, rfl⟩

/-- Two stages, on a device with too few texture slots for the second. -/
theorem buildPasses_iff_alone_two_stages :
    let rough : Stage := { diffuseMap := some "b.png", normalMap := some "c.png" }
    let m : Material := { name := "rock", stages := [.diffuse "a.png", rough] }
    let p : Packer := ⟨.builtin, .positionNormalTangentUv, ⟨2, 10, true⟩, "rock", .ofMaterial m⟩
    let s : Session := {}
    p.registry = .builtin ∧ s.device.lost = false ∧
      (∀ program, s.device.rejects program = false) ∧
      ∃ layers, m.layers {} .positionNormalTangentUv none = .ok layers ∧
        ∃ result s', (p.buildPasses layers).run s = .ok (result, s') ∧
          ((∃ passes, result = .ok passes) ↔ ∀ l ∈ layers, p.FitsAlone l) ∧
          ∀ error, result = .error error → ∃ before l after cost, layers = before ++ l :: after ∧
            (∀ b ∈ before, p.FitsAlone b) ∧ p.registry.measure l.features = .ok cost ∧
            cost.fits p.limits = false ∧
            error = .overflow l.stage cost.textures cost.interpolators := by
  intro rough m p s
  have h : ∃ layers, m.layers {} .positionNormalTangentUv none = .ok layers := ⟨_, rfl⟩
  obtain ⟨layers, h⟩ := h
  exact ⟨rfl, rfl, fun _ => rfl, layers, h, buildPasses_iff_alone rfl h rfl fun _ => rfl⟩

end Packer

end MaterialPipeline
