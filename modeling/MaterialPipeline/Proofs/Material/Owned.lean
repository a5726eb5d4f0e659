import MaterialPipeline.Material.Built
import MaterialPipeline.Proofs.Device.Objects
import MaterialPipeline.Proofs.Session.Trades

/-!
# Proofs — Material — Owned

What a build leaves on the device: the objects of its result, or nothing if it fails.

* `BuiltMaterial.objects`: the objects of a built material, which its destruction lets go of.
* `Device.Ledger`: the objects held on a device, with the way that it got there.
* `BuiltMaterial.trades_build`: a build trades nothing for the objects of its result.
-/

namespace MaterialPipeline

open MaterialPipeline.Action

variable {start : Device} {rest : Multiset Object}

/-- `held` is live on the device `d`, which only managed objects since it was `start`. -/
def Device.Ledger (start d : Device) (held : Multiset Object) : Prop :=
  start.Manages d ∧ d.Owns held

/-! ### Letting go -/

/-- Lets go of objects, in order. -/
def endings (objects : List Object) : List Event :=
  objects.map fun o => .call o.ending

theorem trades_endings (objects : List Object) :
    Trades start.Ledger (perform (endings objects)) (objects : Multiset Object) fun _ => 0 where
  oblivious := .perform _
  run := by
    intro s a s' rest hrun hI
    cases (run_perform _ s).symm.trans hrun
    rw [zero_add]
    induction objects generalizing s with
    | nil => exact Multiset.zero_add rest ▸ hI
    | cons o objects ih =>
        rw [← Multiset.cons_coe, Multiset.cons_add] at hI
        have hlive := (hI.2.live_iff o).mpr (Multiset.mem_cons_self ..)
        exact ih (s := s.apply (.call o.ending)) ⟨hI.1.destroy hlive, hI.2.issue_ending⟩ rfl

/-- The objects of a pass. -/
def Pass.objects (p : Pass) : List Object :=
  .program p.program :: p.states.map .state

theorem Pass.destruction_eq (p : Pass) : p.destruction = endings p.objects := by
  simp [destruction, endings, objects, Object.ending]

/-- The objects of several passes. -/
def passObjects (passes : List Pass) : List Object :=
  passes.flatMap Pass.objects

theorem coe_passObjects_concat (passes : List Pass) (p : Pass) :
    (passObjects (passes ++ [p]) : Multiset Object) = p.objects + passObjects passes := by
  rw [passObjects, List.flatMap_append, List.flatMap_singleton, ← Multiset.coe_add, add_comm]
  rfl

theorem flatMap_destruction (passes : List Pass) :
    passes.flatMap Pass.destruction = endings (passObjects passes) := by
  simp only [endings, passObjects, List.map_flatMap]
  exact congrArg (List.flatMap · passes) (funext Pass.destruction_eq)

/-- The loaded textures. -/
def textureObjects (loaded : List (String × TextureHandle)) : List Object :=
  loaded.map fun (_, h) => .texture h

theorem coe_textureObjects_concat (loaded : List (String × TextureHandle)) (path : String)
    (h : TextureHandle) :
    (textureObjects (loaded ++ [(path, h)]) : Multiset Object) =
      {.texture h} + textureObjects loaded := by
  rw [textureObjects, List.map_append, ← Multiset.coe_add, add_comm]
  rfl

/-- The objects of a material on the device. -/
def BuiltMaterial.objects (b : BuiltMaterial) : List Object :=
  passObjects b.passes ++ textureObjects b.textures

theorem BuiltMaterial.destruction_eq (b : BuiltMaterial) : b.destruction = endings b.objects := by
  rw [destruction, flatMap_destruction]
  simp [endings, objects, textureObjects, Object.ending]

/-- If every object is there once, every pass has a program of its own. -/
theorem BuiltMaterial.nodup_programs {b : BuiltMaterial} (h : b.objects.Nodup) :
    (b.passes.map (·.program)).Nodup := by
  have hpasses : (passObjects b.passes).Nodup := (List.nodup_append.mp h).1
  have hsub (passes : List Pass) :
      List.Sublist (passes.map fun p => Object.program p.program) (passObjects passes) := by
    induction passes with
    | nil => exact List.Sublist.slnil
    | cons p rest ih =>
        exact (ih.trans (List.sublist_append_right (p.states.map .state) _)).cons_cons _
  have hprograms : ((b.passes.map (·.program)).map Object.program).Nodup := by
    rw [List.map_map]
    exact hpasses.sublist (hsub b.passes)
  exact hprograms.of_map

/-! ### Passes -/

theorem sum_map_singleton {α : Type} (f : α → Object) (l : List α) :
    (l.map fun a => ({f a} : Multiset Object)).sum = (l.map f : Multiset Object) := by
  induction l with
  | nil => rfl
  | cons a l ih => rw [List.map_cons, List.sum_cons, ih, List.map_cons, ← Multiset.cons_coe,
      Multiset.singleton_add]

namespace Packer

variable {p : Packer}

theorem trades_createState (layer : StateLayer) :
    Trades start.Ledger (createState layer) 0 fun h => {.state h} := by
  refine (Trades.reportAll _).bind fun _ => Trades.onDevice (fun d => ⟨rfl, rfl⟩) ?_
  intro d rest hd
  rw [zero_add] at hd
  exact ⟨hd.1.createState _, hd.2.createState _⟩

/-- The objects of a pass that is made around a program. -/
theorem trades_finish (handle : ProgramHandle) (program : Program) (features : FeatureSet)
    (layers : List Layer) (index : Nat) (cost : Cost) :
    Trades start.Ledger (p.finish handle program features layers index cost)
      {.program handle} fun pass => (pass.objects : Multiset Object) := by
  unfold finish
  refine Trades.bind ((Trades.frame (Trades.mapM (fun c => trades_createState _) _)
    {.program handle}).of_eq (zero_add _).symm fun _ => rfl) fun states => ?_
  refine Trades.pure ?_
  rw [sum_map_singleton, add_comm, Multiset.singleton_add, Multiset.cons_coe]
  rfl


/-- The objects of the pass of a try. -/
def attemptObjects : Attempt → Multiset Object
  | .built pass => pass.objects
  | .fatal _ | .retry => 0

theorem forget_createProgram (program : Program) (d : Device) :
    (d.forget.createProgram program).1 = (d.createProgram program).1 ∧
      (d.forget.createProgram program).2.forget = (d.createProgram program).2.forget := by
  unfold Device.createProgram
  by_cases hl : d.lost
  · simp [Device.forget, Device.record, hl]
  · by_cases hr : d.rejects program <;> simp [Device.forget, Device.record, hl, hr]

theorem trades_attempt (first : Layer) (layers : List Layer) (index : Nat) :
    Trades start.Ledger (p.attempt first layers index) 0 attemptObjects := by
  unfold attempt
  simp only
  split
  · exact .pure rfl
  · refine .lift_bind fun cost _ => ?_
    split
    · have hcreate (program : Program) : Trades start.Ledger
          (Action.onDevice (·.createProgram program)) 0 (Device.made .program) := by
        refine .onDevice (forget_createProgram _) fun d rest hd => ?_
        rw [zero_add] at hd
        exact ⟨hd.1.createProgram _, hd.2.createProgram _⟩
      refine (hcreate _).bind ?_
      rintro (error | handle)
      · exact (Trades.report _).bind fun _ => .pure (by split <;> rfl)
      · exact (trades_finish ..).bind fun pass => .pure rfl
    · exact (Trades.report _).bind fun _ => .pure (by split <;> rfl)

/-- The objects of a pass that may have failed. -/
def passResult : Except BuildError (Pass × Nat) → Multiset Object
  | .ok (pass, _) => pass.objects
  | .error _ => 0

theorem trades_tryCounts (first : Layer) (layers : List Layer) (index : Nat) (counts : List Nat) :
    Trades start.Ledger (p.tryCounts first layers index counts) 0 passResult := by
  induction counts with
  | nil => exact .pure rfl
  | cons count rest ih =>
      refine (trades_attempt first (layers.take count) index).bind ?_
      rintro (pass | error | _)
      · exact .pure rfl
      · exact .pure rfl
      · exact ih

theorem trades_buildPass (layers : List Layer) (index : Nat) :
    Trades start.Ledger (p.buildPass layers index) 0 passResult := by
  cases layers with
  | nil => exact .pure rfl
  | cons first rest => exact trades_tryCounts ..

/-- The objects of passes that may have failed. -/
def passesResult : Except BuildError (List Pass) → Multiset Object
  | .ok passes => passObjects passes
  | .error _ => 0

/-- A pass that fails takes the passes before it down. -/
theorem trades_packFrom (built : List Pass) (layers : List Layer) :
    Trades start.Ledger (p.packFrom built layers) (passObjects built : Multiset Object)
      passesResult := by
  induction built, layers using packFrom.induct with
  | case1 built => 
      rw [packFrom]
      exact .pure rfl
  | case2 built first rest ih =>
      rw [packFrom]
      refine ((trades_buildPass _ _).frame (passObjects built : Multiset Object)).of_eq
        (zero_add _).symm (fun _ => rfl) |>.bind ?_
      rintro (error | ⟨pass, count⟩)
      · rw [passResult, zero_add, flatMap_destruction]
        exact (trades_endings _).bind fun _ => .pure rfl
      · exact (ih pass count).of_eq (coe_passObjects_concat ..).symm fun _ => rfl

theorem trades_buildPasses (layers : List Layer) :
    Trades start.Ledger (p.buildPasses layers) 0 passesResult := by
  unfold buildPasses
  split
  · exact .pure rfl
  · exact trades_packFrom [] layers

end Packer

/-! ### Materials -/

namespace BuiltMaterial

/-- The textures that were loaded, also before a refusal. -/
def texturesResult :
    Except (MaterialError × List (String × TextureHandle)) (List (String × TextureHandle)) →
      Multiset Object
  | .ok loaded | .error (_, loaded) => textureObjects loaded

theorem forget_loadTexture (path : String) (d : Device) :
    (d.forget.loadTexture path).1 = (d.loadTexture path).1 ∧
      (d.forget.loadTexture path).2.forget = (d.loadTexture path).2.forget := by
  unfold Device.loadTexture
  by_cases hl : d.lost
  · simp [Device.forget, Device.record, hl]
  · by_cases hm : path ∈ d.missing <;> simp [Device.forget, Device.record, hl, hm]

theorem trades_loadTextures (loaded : List (String × TextureHandle))
    (requests : List (Nat × String)) :
    Trades start.Ledger (loadTextures loaded requests) (textureObjects loaded : Multiset Object)
      texturesResult := by
  induction requests generalizing loaded with
  | nil => exact .pure rfl
  | cons request rest ih =>
      obtain ⟨stage, path⟩ := request
      rw [loadTextures]
      split
      · exact ih loaded
      · have hload : Trades start.Ledger (Action.onDevice (·.loadTexture path))
            (textureObjects loaded : Multiset Object)
            (fun r => Device.made .texture r + (textureObjects loaded : Multiset Object)) := by
          refine .onDevice (forget_loadTexture path) fun d others hd => ?_
          rw [add_assoc]
          exact ⟨hd.1.loadTexture _, hd.2.loadTexture _⟩
        refine hload.bind ?_
        rintro (error | h)
        · exact .pure (zero_add _).symm
        · exact (ih (loaded ++ [(path, h)])).of_eq (coe_textureObjects_concat ..).symm fun _ => rfl

/-- The objects of a material that may have failed to build. -/
def result : Except MaterialError BuiltMaterial → Multiset Object
  | .ok b => b.objects
  | .error _ => 0

/-- A build that fails leaves nothing behind. -/
theorem trades_build (context : BuildContext) (m : Material) (format : VertexFormat)
    (variant : Option Variant) :
    Trades start.Ledger (build context m format variant) 0 result := by
  unfold build
  split
  · exact .pure rfl
  · refine (Trades.reportAll _).bind fun _ => Trades.limits.bind fun device =>
      (Trades.reportAll _).bind fun _ => (Packer.trades_buildPasses _).bind ?_
    rintro (error | passes)
    · exact .pure rfl
    · refine Trades.bind ((trades_loadTextures [] _).frame (passObjects passes) |>.of_eq
        (zero_add _).symm fun _ => rfl) ?_
      rintro (⟨error, loaded⟩ | textures)
      · simp only [destruction_eq]
        refine ((trades_endings _).of_eq ?_ fun _ => rfl).bind fun _ => .pure rfl
        rw [objects, ← Multiset.coe_add, add_comm]
        rfl
      · refine (Trades.report _).bind fun _ => .pure ?_
        rw [result, objects, ← Multiset.coe_add, add_comm]
        rfl

end BuiltMaterial

end MaterialPipeline
