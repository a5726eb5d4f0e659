import MaterialPipeline.Proofs.Material.Renderable
import MaterialPipeline.Proofs.Pass.Alone

/-!
# Proofs — Material — Total

Building ends without a fault, and gives a built material or an error, if 32 bits hold what the
features of the material cost.  So does asking a library for a form to draw with, if the handle names
a position.

* `BuildContext.Counts`: 32 bits hold the costs.  With the built-in features they always do
(`BuildContext.counts_builtin`).
* `Library.exists_run_of_counts`: a library answers.
-/

namespace MaterialPipeline

open MaterialPipeline.Action

variable {context : BuildContext} {m : Material} {format : VertexFormat}
  {variant : Option Variant} {s : Session}

/-- 32 bits hold what the features of the layers cost, of any layers that come one after another. -/
def BuildContext.Counts (context : BuildContext) (m : Material) (format : VertexFormat)
    (variant : Option Variant) : Prop :=
  ∀ layers, m.layers context.config format variant = .ok layers → ∀ block, block <:+: layers →
    (context.registry.total (Layer.union block)).Bounded

theorem BuildContext.counts_builtin (hr : context.registry = .builtin) (m : Material)
    (format : VertexFormat) (variant : Option Variant) : context.Counts m format variant :=
  fun _ hlayers _ hblock => Packer.bounded_cost
    (p := BuiltMaterial.packer context m format variant {}) hr hlayers hblock.sublist

/-- 32 bits hold what the features of the form cost. -/
def Form.Counts (f : Form) (context : BuildContext) : Prop :=
  context.Counts f.material f.format f.variant

theorem Form.counts_builtin (hr : context.registry = .builtin) (f : Form) : f.Counts context :=
  BuildContext.counts_builtin hr f.material f.format f.variant

namespace BuiltMaterial

theorem exists_run_loadTextures (loaded : List (String × TextureHandle))
    (requests : List (Nat × String)) (s : Session) :
    ∃ r s', (loadTextures loaded requests).run s = .ok (r, s') := by
  induction requests generalizing loaded s with
  | nil => exact ⟨_, _, rfl⟩
  | cons request rest ih =>
      obtain ⟨stage, path⟩ := request
      rw [loadTextures]
      split
      · exact ih loaded s
      · rw [run_bind (run_onDevice _ s)]
        cases (s.device.loadTexture path).1 with
        | error error => exact ⟨_, _, rfl⟩
        | ok h => exact ih _ _

theorem exists_run_build (hcounts : context.Counts m format variant) (s : Session) :
    ∃ r s', (build context m format variant).run s = .ok (r, s') := by
  unfold build
  split
  · exact ⟨_, _, rfl⟩
  next layers hlayers =>
    rw [run_bind (run_reportAll _ s), run_bind rfl, run_bind (run_reportAll _ _)]
    obtain ⟨result, s₁, hrun, -⟩ := Packer.run_buildPasses
      (p := packer context m format variant _) (Material.layers_ne_nil hlayers)
      (hcounts layers hlayers) _
    rw [run_bind hrun]
    cases result with
    | error error => exact ⟨_, _, rfl⟩
    | ok passes =>
        obtain ⟨loaded, s₂, hload⟩ := exists_run_loadTextures [] (requests m passes) s₁
        show ∃ r s', StateT.run (loadTextures [] (requests m passes) >>= _) s₁ = _
        rw [run_bind hload]
        cases loaded with
        | error failed => exact ⟨_, _, rfl⟩
        | ok textures => exact ⟨_, _, rfl⟩

/-- A build stops if 32 bits do not hold what all layers cost together. -/
theorem run_build_of_not_bounded {layers : List Layer}
    (hlayers : m.layers context.config format variant = .ok layers)
    (hnot : ¬ (context.registry.total (Layer.union layers)).Bounded) (s : Session) :
    (build context m format variant).run s = .error .addOverflow := by
  unfold build
  rw [hlayers]
  dsimp only
  rw [run_bind (run_reportAll _ s), run_bind rfl, run_bind (run_reportAll _ _)]
  refine run_bind_of_error ?_
  have hne := Material.layers_ne_nil hlayers
  have hempty := Material.isEmpty_mergeAll hlayers (List.Subset.refl layers) hne
  obtain ⟨first, rest, rfl⟩ := List.exists_cons_of_ne_nil hne
  -- The first try takes all layers.
  obtain ⟨counts, hcounts⟩ : ∃ counts,
      halvings (first :: rest).length = (first :: rest).length :: counts :=
    List.head?_eq_some_iff.mp (head?_halvings (Nat.succ_pos rest.length))
  unfold Packer.buildPasses
  rw [if_neg (by simp), Packer.packFrom]
  refine run_bind_of_error ?_
  rw [Packer.buildPass, hcounts, Packer.tryCounts, List.take_length]
  refine run_bind_of_error (Packer.run_attempt_of_not_bounded hempty ?_ _ first _)
  exact hnot

end BuiltMaterial

theorem Form.exists_run_build {f : Form} (hcounts : f.Counts context) (s : Session) :
    ∃ r s', (f.build context).run s = .ok (r, s') := by
  obtain ⟨result, s', hrun⟩ := BuiltMaterial.exists_run_build hcounts (s.applyAll f.destruction)
  unfold Form.build
  rw [run_bind (run_perform _ s), run_bind hrun]
  cases result with
  | ok built => exact ⟨_, _, rfl⟩
  | error error => exact ⟨_, _, rfl⟩

theorem Form.exists_run_ensureBuilt {f : Form} (hcounts : f.Counts context) (s : Session) :
    ∃ ready f' s', (f.ensureBuilt context).run s = .ok ((ready, f'), s') := by
  unfold Form.ensureBuilt
  split
  · exact ⟨_, _, _, rfl⟩
  · split
    · exact ⟨_, _, _, rfl⟩
    · obtain ⟨⟨result, f'⟩, s', hrun⟩ := Form.exists_run_build hcounts s
      rw [run_bind hrun]
      exact ⟨_, _, _, rfl⟩

theorem Library.exists_run_new_of_counts {registry : Registry} {config : Config}
    (hcounts : BuildContext.Counts ⟨registry, config⟩ .warning .positionNormalUv none)
    (s : Session) : ∃ l s', (Library.new registry config).run s = .ok (l, s') := by
  have hcounts : Form.Counts { material := .warning, format := .positionNormalUv }
      ⟨registry, config⟩ := hcounts
  obtain ⟨⟨result, form⟩, s', hrun⟩ := Form.exists_run_build hcounts s
  unfold Library.new
  rw [run_bind hrun]
  cases result with
  | ok _ => exact ⟨_, _, rfl⟩
  | error error => exact ⟨_, _, rfl⟩

theorem Library.exists_run_new (config : Config) (s : Session) :
    ∃ l s', (Library.new .builtin config).run s = .ok (l, s') :=
  exists_run_new_of_counts (BuildContext.counts_builtin rfl _ _ _) s

namespace Library

variable {l : Library} {r : MaterialRef} {position : UInt32}

theorem exists_form? (hposition : r.id.position = .ok position) :
    ∃ form, l.form? r = .ok form := by
  unfold form? instance? SlotSet.find SlotSet.locate
  rw [hposition]
  exact ⟨_, rfl⟩

/-- **Asking ends.**  A library answers, whatever it has built so far, if 32 bits hold the costs of
the form that it is asked for and of the stand-in. -/
theorem exists_run_of_counts (hposition : r.id.position = .ok position)
    (hown : ∀ f, l.At (.own r) f → f.Counts l.context) (hwarning : l.warning.Counts l.context)
    (s : Session) : ∃ found l' s', (l.renderable r).run s = .ok ((found, l'), s') := by
  obtain ⟨form, hform⟩ := exists_form? (l := l) hposition
  unfold renderable
  rw [run_lift_bind hform]
  cases form with
  | none => exact ⟨_, _, _, rfl⟩
  | some f =>
      have hat : l.At (.own r) f := hform
      obtain ⟨ready, f', s₁, hensure⟩ := Form.exists_run_ensureBuilt (hown f hat) s
      obtain ⟨_, -, hput⟩ := holdings_split_at hat
      obtain ⟨l₁, hset, -⟩ := hput f'
      have hcontext := (at_setForm hat hset).2
      show ∃ found l' s', StateT.run (f.ensureBuilt l.context >>= _) s = .ok ((found, l'), s')
      rw [run_bind hensure]
      show ∃ found l' s', StateT.run ((liftM (l.setForm (.own r) f') : Action Library) >>= _) s₁ =
        .ok ((found, l'), s')
      rw [run_lift_bind hset]
      cases ready with
      | true => exact ⟨_, _, _, rfl⟩
      | false =>
          -- The stand-in is asked for, and may have to be built too.
          have hcounts : l₁.warning.Counts l₁.context := by
            rw [warning_setForm hset, hcontext]
            exact hwarning
          obtain ⟨readyWarning, w, s₂, hwarning⟩ := Form.exists_run_ensureBuilt hcounts s₁
          show ∃ found l' s', StateT.run (l₁.warning.ensureBuilt l₁.context >>= _) s₁ =
            .ok ((found, l'), s')
          rw [run_bind hwarning]
          exact ⟨_, _, _, rfl⟩

/-- With the built-in features, a library answers. -/
theorem exists_run_renderable (hr : l.context.registry = .builtin)
    (hposition : r.id.position = .ok position) (s : Session) :
    ∃ found l' s', (l.renderable r).run s = .ok ((found, l'), s') :=
  exists_run_of_counts hposition (fun f _ => f.counts_builtin hr) (l.warning.counts_builtin hr) s

end Library

end MaterialPipeline
