import MaterialPipeline.Material.Library
import MaterialPipeline.Proofs.Material.Owned

/-!
# Proofs — Material — Works

What a library does to a device when it is asked for a form: it compiles programs, creates state
objects, loads textures, and lets go of any of these.  Nothing is said here of what is live, so this
holds of every library, whatever it was made of.

* `Action.Along`: the judgement, for actions and a preorder on devices; it is closed under sequencing
(`bind`).
* `Packer.along_buildPasses`: packing goes along every preorder that compiling, creating state
objects and letting go of objects go along.
* `Library.works_renderable`: asking for a form works on the device.
-/

namespace MaterialPipeline

open MaterialPipeline.Action

/-- Wherever the action is run, it leads from a device to a related one. -/
def Action.Along {α : Type} (R : Device → Device → Prop) (x : Action α) : Prop :=
  ∀ s s' a, x.run s = .ok (a, s') → R s.device s'.device

/-- Wherever the action is run, it works on the device. -/
def Action.Works {α : Type} (x : Action α) : Prop :=
  ∀ s s' a, x.run s = .ok (a, s') → s.device.Works s'.device

instance : IsPreorder Device Device.Works where
  refl _ := .refl
  trans _ _ _ h h' := h.trans h'

namespace Action.Along

variable {α β : Type} {R : Device → Device → Prop} [IsPreorder Device R] {x : Action α}
  {f : α → Action β}

theorem pure (a : α) : Along R (Pure.pure a : Action α) := by
  intro s s' b hrun
  cases hrun
  exact refl_of R _

theorem bind (hx : Along R x) (hf : ∀ a, Along R (f a)) : Along R (x >>= f) := by
  intro s s' b hrun
  obtain ⟨a, s₁, hx', hf'⟩ := of_run_bind hrun
  exact trans_of R (hx _ _ _ hx') (hf a _ _ _ hf')

omit [IsPreorder Device R] in
theorem lift_bind {e : Except Fault α} (hf : ∀ a, Along R (f a)) :
    Along R ((liftM e : Action α) >>= f) := by
  cases e with
  | error fault => exact fun _ _ _ hrun => nomatch hrun
  | ok a => exact hf a

theorem limits : Along R Action.limits := by
  intro s s' a hrun
  cases hrun
  exact refl_of R _

theorem reportAll (notes : List Note) : Along R (Action.reportAll notes) := by
  intro s s' a hrun
  cases (run_reportAll notes s).symm.trans hrun
  simp only [Session.extend, Array.append_empty]
  exact refl_of R _

theorem report (n : Note) : Along R (Action.report n) :=
  reportAll [n]

omit [IsPreorder Device R] in
theorem onDevice {g : Device → α × Device} (hg : ∀ d : Device, R d (g d).2) :
    Along R (Action.onDevice g) := by
  intro s s' a hrun
  cases (run_onDevice g s).symm.trans hrun
  exact hg s.device

theorem endings (hR : ∀ (d : Device) (o : Object), R d (d.issue o.ending)) (objects : List Object) :
    Along R (perform (MaterialPipeline.endings objects)) := by
  intro s s' a hrun
  cases (run_perform _ s).symm.trans hrun
  induction objects generalizing s with
  | nil => exact refl_of R _
  | cons o rest ih =>
      exact trans_of R (hR s.device o) (ih (s.apply (.call o.ending)) rfl)

theorem mapM {f : α → Action β} (hf : ∀ a, Along R (f a)) (l : List α) : Along R (l.mapM f) := by
  induction l with
  | nil => exact pure _
  | cons a rest ih =>
      rw [List.mapM_cons]
      exact (hf a).bind fun b => ih.bind fun bs => pure _

end Action.Along

/-! ### Packing -/

/-- The relation goes along all that packing does to a device. -/
structure Device.BearsPacking (R : Device → Device → Prop) : Prop where
  createProgram : ∀ d p, R d (d.createProgram p).2
  createState : ∀ d b, R d (d.createState b).2
  destroy : ∀ (d : Device) (o : Object), R d (d.issue o.ending)

theorem Device.bearsPacking_works : BearsPacking Works where
  createProgram _ _ := Works.refl.createProgram _
  createState _ _ := Works.refl.createState _
  destroy _ _ := Works.refl.destroy _

namespace Packer

variable {R : Device → Device → Prop} [IsPreorder Device R] (p : Packer)
  (hR : Device.BearsPacking R)

include hR

theorem along_finish (handle : ProgramHandle) (program : Program) (features : FeatureSet)
    (layers : List Layer) (index : Nat) (cost : Cost) :
    Along R (p.finish handle program features layers index cost) := by
  have hcreate (layer : StateLayer) : Along R (createState layer) :=
    (Along.reportAll _).bind fun _ => .onDevice fun _ => hR.createState _ _
  exact (Along.mapM (fun _ => hcreate _) _).bind fun _ => .pure _

theorem along_attempt (first : Layer) (layers : List Layer) (index : Nat) :
    Along R (p.attempt first layers index) := by
  unfold attempt
  dsimp only
  split
  · exact .pure _
  · refine .lift_bind fun cost => ?_
    split
    · refine (Along.onDevice fun _ => hR.createProgram _ _).bind ?_
      rintro (error | handle)
      · exact (Along.report _).bind fun _ => .pure _
      · exact (p.along_finish hR _ _ _ _ _ _).bind fun _ => .pure _
    · exact (Along.report _).bind fun _ => .pure _

theorem along_buildPass (layers : List Layer) (index : Nat) :
    Along R (p.buildPass layers index) := by
  have htry (first : Layer) (counts : List Nat) :
      Along R (p.tryCounts first layers index counts) := by
    induction counts with
    | nil => exact .pure _
    | cons count rest ih =>
        refine (p.along_attempt hR first (layers.take count) index).bind ?_
        rintro (pass | error | _)
        · exact .pure _
        · exact .pure _
        · exact ih
  cases layers with
  | nil => exact .pure _
  | cons first rest => exact htry first _

theorem along_packFrom (built : List Pass) (layers : List Layer) :
    Along R (p.packFrom built layers) := by
  induction built, layers using packFrom.induct with
  | case1 built =>
      rw [packFrom]
      exact .pure _
  | case2 built first rest ih =>
      rw [packFrom]
      refine (p.along_buildPass hR _ _).bind ?_
      rintro (error | ⟨pass, count⟩)
      · simp only [flatMap_destruction]
        exact (Along.endings hR.destroy _).bind fun _ => .pure _
      · exact ih pass count

theorem along_buildPasses (layers : List Layer) : Along R (p.buildPasses layers) := by
  unfold buildPasses
  split
  · exact .pure _
  · exact p.along_packFrom hR [] layers

end Packer

/-! ### Building -/

namespace BuiltMaterial

theorem works_loadTextures (loaded : List (String × TextureHandle))
    (requests : List (Nat × String)) : Along Device.Works (loadTextures loaded requests) := by
  induction requests generalizing loaded with
  | nil => exact .pure _
  | cons request rest ih =>
      rw [loadTextures]
      split
      · exact ih loaded
      · refine (Along.onDevice fun _ => Device.Works.refl.loadTexture _).bind ?_
        rintro (error | h)
        · exact .pure _
        · exact ih _

theorem works_build (context : BuildContext) (m : Material) (format : VertexFormat)
    (variant : Option Variant) : Along Device.Works (build context m format variant) := by
  unfold build
  split
  · exact .pure _
  · refine (Along.reportAll _).bind fun _ => Along.limits.bind fun device =>
      (Along.reportAll _).bind fun _ =>
        (Packer.along_buildPasses _ Device.bearsPacking_works _).bind ?_
    rintro (error | passes)
    · exact .pure _
    · refine (works_loadTextures _ _).bind ?_
      rintro (⟨error, loaded⟩ | textures)
      · simp only [destruction_eq]
        exact (Along.endings Device.bearsPacking_works.destroy _).bind fun _ => .pure _
      · exact (Along.report _).bind fun _ => .pure _

end BuiltMaterial

theorem Form.works_ensureBuilt (f : Form) (context : BuildContext) :
    Along Device.Works (f.ensureBuilt context) := by
  have hdestruction : Along Device.Works (perform f.destruction) := by
    unfold destruction
    cases f.built with
    | none => exact Along.endings Device.bearsPacking_works.destroy []
    | some b =>
        rw [Option.map_some, Option.getD_some, BuiltMaterial.destruction_eq]
        exact Along.endings Device.bearsPacking_works.destroy _
  have hbuild : Along Device.Works (f.build context) := by
    refine hdestruction.bind fun _ => (BuiltMaterial.works_build _ _ _ _).bind ?_
    rintro (error | built)
    · exact (Along.report _).bind fun _ => .pure _
    · exact .pure _
  unfold ensureBuilt
  split
  · exact .pure _
  · split
    · exact .pure _
    · exact hbuild.bind fun _ => .pure _

/-! ### Asking -/

/-- **Asking for a form.**  It makes objects of materials on the device and lets go of such objects,
and does nothing else to the device. -/
theorem Library.works_renderable (l : Library) (r : MaterialRef) : Works (l.renderable r) := by
  show Along Device.Works (l.renderable r)
  unfold renderable
  refine .lift_bind fun found => ?_
  cases found with
  | none => exact .pure _
  | some f =>
      refine (f.works_ensureBuilt l.context).bind fun ⟨ready, f⟩ => .lift_bind fun l => ?_
      cases ready with
      | true => exact .pure _
      | false => exact (l.warning.works_ensureBuilt l.context).bind fun _ => .pure _

end MaterialPipeline
