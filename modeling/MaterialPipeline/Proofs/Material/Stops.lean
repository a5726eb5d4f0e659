import MaterialPipeline.Material.Library
import MaterialPipeline.Proofs.Session.Stops

/-!
# Proofs — Material — Stops

Why a library may stop when it is asked for a form to draw with.  There are two causes: the
reference names no position, or the features of a material cost more than 32 bits hold.

* `FormFault`: these causes; `CostFault`: the second of them.
* `Library.stopsFor_renderable`: there are no others, whatever the features and the device.
-/

namespace MaterialPipeline

open MaterialPipeline.Action

/-- Why a library may stop. -/
inductive FormFault : Fault → Prop where
  /-- The lower half of a handle is zero. -/
  | position : FormFault .subtractOverflow
  /-- A total cost does not fit. -/
  | cost : FormFault .addOverflow

/-- A total cost does not fit. -/
inductive CostFault : Fault → Prop where
  | cost : CostFault .addOverflow

theorem FormFault.of_cost {fault : Fault} (h : CostFault fault) : FormFault fault := by
  cases h
  exact .cost

/-! ### Building -/

theorem Cost.stopsFor_add (a b : Cost) : StopsFor CostFault (a.add b) := by
  have hcount (m n : Nat) : StopsFor CostFault (addCount m n) := by
    unfold addCount
    split
    · exact .ok _
    · exact .error .cost
  exact (hcount _ _).bind fun _ _ => (hcount _ _).bind fun _ _ => .ok _

theorem Registry.stopsFor_measure (r : Registry) (set : FeatureSet) :
    StopsFor CostFault (r.measure set) :=
  .foldlM (fun _ _ => Cost.stopsFor_add _ _) _ _

namespace Packer

variable (p : Packer)

theorem stopsFor_createState (layer : StateLayer) : Action.StopsFor CostFault (createState layer) :=
  (StopsFor.perform _).bind fun _ => .onDevice _

theorem stopsFor_attempt (first : Layer) (layers : List Layer) (index : Nat) :
    Action.StopsFor CostFault (p.attempt first layers index) := by
  unfold attempt
  dsimp only
  split
  · exact .pure _
  · refine .lift_bind (p.registry.stopsFor_measure _) fun cost _ => ?_
    split
    · refine (StopsFor.onDevice _).bind fun answer => ?_
      cases answer with
      | ok handle =>
          have hfinish (program : Program) (set : FeatureSet) :
              Action.StopsFor CostFault (p.finish handle program set layers index cost) :=
            (StopsFor.mapM (fun _ => stopsFor_createState _) _).bind fun _ => .pure _
          exact (hfinish _ _).bind fun pass => .pure _
      | error error => exact (StopsFor.perform _).bind fun _ => .pure _
    · exact (StopsFor.perform _).bind fun _ => .pure _

theorem stopsFor_buildPass (layers : List Layer) (index : Nat) :
    Action.StopsFor CostFault (p.buildPass layers index) := by
  have htry (first : Layer) (counts : List Nat) :
      Action.StopsFor CostFault (p.tryCounts first layers index counts) := by
    induction counts with
    | nil => exact .pure _
    | cons count rest ih =>
        rw [tryCounts]
        refine (p.stopsFor_attempt _ _ _).bind fun attempt => ?_
        cases attempt with
        | built pass => exact .pure _
        | fatal error => exact .pure _
        | retry => exact ih
  cases layers with
  | nil => exact .pure _
  | cons first rest => exact htry first _

theorem stopsFor_buildPasses (layers : List Layer) :
    Action.StopsFor CostFault (p.buildPasses layers) := by
  have hpack (n : Nat) : ∀ layers : List Layer, layers.length ≤ n → ∀ built,
      Action.StopsFor CostFault (p.packFrom built layers) := by
    induction n with
    | zero =>
        intro layers hn built
        obtain rfl := List.length_eq_zero_iff.mp (Nat.le_zero.mp hn)
        rw [packFrom]
        exact .pure _
    | succ n ih =>
        intro layers hn built
        cases layers with
        | nil =>
            rw [packFrom]
            exact .pure _
        | cons first rest =>
            rw [packFrom]
            refine (p.stopsFor_buildPass _ _).bind fun result => ?_
            cases result with
            | error error => exact (StopsFor.perform _).bind fun _ => .pure _
            | ok taken =>
                refine ih _ ?_ _
                rw [List.length_drop]
                rw [List.length_cons] at hn
                omega
  unfold buildPasses
  split
  · exact .pure _
  · exact hpack _ layers (Nat.le_refl _) []

end Packer

namespace BuiltMaterial

theorem stopsFor_loadTextures (loaded : List (String × TextureHandle))
    (requests : List (Nat × String)) :
    Action.StopsFor CostFault (loadTextures loaded requests) := by
  induction requests generalizing loaded with
  | nil => exact .pure _
  | cons request rest ih =>
      rw [loadTextures]
      split
      · exact ih loaded
      · refine (StopsFor.onDevice _).bind fun answer => ?_
        cases answer with
        | ok h => exact ih _
        | error error => exact .pure _

theorem stopsFor_build (context : BuildContext) (m : Material) (format : VertexFormat)
    (variant : Option Variant) : Action.StopsFor CostFault (build context m format variant) := by
  unfold build
  split
  · exact .pure _
  · refine (StopsFor.perform _).bind fun _ => StopsFor.limits.bind fun device =>
      (StopsFor.perform _).bind fun _ => ?_
    refine ((packer context m format variant device).stopsFor_buildPasses _).bind fun result => ?_
    cases result with
    | error error => exact .pure _
    | ok passes =>
        refine (stopsFor_loadTextures _ _).bind fun loaded => ?_
        cases loaded with
        | error failed => exact (StopsFor.perform _).bind fun _ => .pure _
        | ok textures => exact (StopsFor.perform _).bind fun _ => .pure _

end BuiltMaterial

theorem Form.stopsFor_ensureBuilt (f : Form) (context : BuildContext) :
    Action.StopsFor CostFault (f.ensureBuilt context) := by
  have hbuild : Action.StopsFor CostFault (f.build context) := by
    refine (StopsFor.perform _).bind fun _ =>
      (BuiltMaterial.stopsFor_build _ _ _ _).bind fun result => ?_
    cases result with
    | ok built => exact .pure _
    | error error => exact (StopsFor.perform _).bind fun _ => .pure _
  unfold ensureBuilt
  split
  · exact .pure _
  · split
    · exact .pure _
    · exact hbuild.bind fun _ => .pure _

/-! ### Asking -/

theorem Slot.stopsFor_position (id : Slot) : StopsFor FormFault id.position := by
  unfold position
  split
  · exact .error .position
  · exact .ok _

namespace Library

variable (l : Library) {causes : Fault → Prop} {r : MaterialRef}

section

variable (hposition : StopsFor causes r.id.position)

include hposition

theorem stopsFor_locate : StopsFor causes (l.instances.locate r.id) :=
  hposition.bind fun _ _ => .ok _

theorem stopsFor_instance? : StopsFor causes (l.instance? r.id) :=
  (l.stopsFor_locate hposition).bind fun _ _ => .ok _

theorem stopsFor_setForm (f : Form) : StopsFor causes (l.setForm (.own r) f) := by
  refine (l.stopsFor_instance? hposition).bind fun found _ => ?_
  cases found with
  | none => exact .ok _
  | some i =>
      have hmodify : StopsFor causes (l.instances.modify r.id fun _ => i.setForm r.hook f) :=
        (l.stopsFor_locate hposition).bind fun _ _ => .ok _
      exact hmodify.bind fun _ _ => .ok _

/-- Asking stops for what the position of the handle stops for, and for a cost that does not fit. -/
theorem stopsFor_renderable_of_position (hcost : ∀ fault, CostFault fault → causes fault) :
    Action.StopsFor causes (l.renderable r) := by
  have hform : StopsFor causes (l.form? r) :=
    (l.stopsFor_instance? hposition).bind fun _ _ => .ok _
  unfold renderable
  refine .lift_bind hform fun found _ => ?_
  cases found with
  | none => exact .pure _
  | some f =>
      refine ((f.stopsFor_ensureBuilt l.context).mono hcost).bind fun ⟨ready, f⟩ => ?_
      refine .lift_bind (l.stopsFor_setForm hposition _) fun l _ => ?_
      cases ready with
      | true => exact .pure _
      | false =>
          exact ((l.warning.stopsFor_ensureBuilt l.context).mono hcost).bind fun _ => .pure _

end

/-- **Asking for a form.**  It stops for a handle that names no position, or for a cost that does
not fit, and for no other cause. -/
theorem stopsFor_renderable (r : MaterialRef) : Action.StopsFor FormFault (l.renderable r) :=
  l.stopsFor_renderable_of_position r.id.stopsFor_position fun _ => .of_cost

end Library

end MaterialPipeline
