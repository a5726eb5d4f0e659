import MaterialPipeline.Material.Library
import MaterialPipeline.Proofs.Session.Mirrors

/-!
# Proofs — Material — Mirrors

A build does not depend on what was done with the device before.  Two builds of one material, on
devices that answer alike, come to the same, up to the numbers of what they create: both stop for the
same fault, or fail for the same reason, or succeed.

* `Pass.bare`, `BuiltMaterial.bare`, `Form.bare`: a pass, a built material, a form without these
numbers.
* `Packer.mirrors_buildPasses`, `BuiltMaterial.mirrors_build`, `Form.mirrors_build`: two runs side by
side give the same bare results.
-/

namespace MaterialPipeline

open MaterialPipeline.Action

/-! ### Results without numbers -/

/-- The pass without the numbers of what it has on the device. -/
def Pass.bare (p : Pass) : Pass :=
  { p with program := ⟨0⟩, states := p.states.map fun _ => ⟨0⟩ }

/-- The built material without the numbers of what it has on the device. -/
def BuiltMaterial.bare (b : BuiltMaterial) : BuiltMaterial :=
  { b with
    passes := b.passes.map Pass.bare
    textures := b.textures.map (Prod.map id fun _ => ⟨0⟩) }

/-- The form without the numbers of what it has on the device. -/
def Form.bare (f : Form) : Form :=
  { f with built := f.built.map BuiltMaterial.bare }

namespace Packer

variable (p : Packer) {first : Layer} {layers : List Layer} {index : Nat}

/-! ### Packing -/

theorem mirrors_createState (layer : StateLayer) :
    Mirrors (fun _ _ => True) (createState layer) (createState layer) :=
  (Mirrors.perform _ _).bind fun _ _ _ =>
    .onDevice (.createState · _) (.createState · _) fun _ _ _ => trivial

/-- The pass around a program depends on the program, not on its number. -/
theorem mirrors_finish (h h' : ProgramHandle) (program : Program) (features : FeatureSet)
    (layers : List Layer) (index : Nat) (cost : Cost) :
    Mirrors (fun q q' => q.bare = q'.bare) (p.finish h program features layers index cost)
      (p.finish h' program features layers index cost) := by
  unfold finish
  refine (Mirrors.mapM (fun _ => mirrors_createState _) _).bind fun states states' hlength => ?_
  refine .pure ?_
  rw [Pass.bare, Pass.bare, List.map_const', List.map_const', hlength]

/-- Two tries that end alike: with a pass each, or for the same reason. -/
inductive AlikeAttempts : Attempt → Attempt → Prop where
  | built {pass pass' : Pass} (h : pass.bare = pass'.bare) :
      AlikeAttempts (.built pass) (.built pass')
  | fatal (error : BuildError) : AlikeAttempts (.fatal error) (.fatal error)
  | retry : AlikeAttempts .retry .retry

theorem mirrors_attempt (first : Layer) (layers : List Layer) (index : Nat) :
    Mirrors AlikeAttempts (p.attempt first layers index) (p.attempt first layers index) := by
  have hend (error : BuildError) : AlikeAttempts
      (if layers.length = 1 then .fatal error else .retry)
      (if layers.length = 1 then .fatal error else .retry) := by
    split
    · exact .fatal error
    · exact .retry
  unfold attempt
  dsimp only
  split
  · exact .pure (.fatal _)
  · refine .lift_bind fun cost _ => ?_
    split
    · refine Mirrors.bind_answer (.onDevice (.createProgram · _) (.createProgram · _)
        fun d d' hd => hd.program _) (fun error error' he => ?_) fun handle handle' _ => ?_
      · subst he
        exact (Mirrors.perform _ _).bind fun _ _ _ => .pure (hend _)
      · exact (p.mirrors_finish handle handle' _ _ layers index cost).bind
          fun pass pass' hpass => .pure (.built hpass)
    · exact (Mirrors.perform _ _).bind fun _ _ _ => .pure (hend _)

/-- Two passes that are the same up to numbers, over as many layers. -/
def AlikeTaken (taken taken' : Pass × Nat) : Prop :=
  taken.1.bare = taken'.1.bare ∧ taken.2 = taken'.2

theorem mirrors_tryCounts (first : Layer) (layers : List Layer) (index : Nat)
    (counts : List Nat) :
    Mirrors (AlikeAnswers Eq AlikeTaken) (p.tryCounts first layers index counts)
      (p.tryCounts first layers index counts) := by
  induction counts with
  | nil => exact .pure (.error rfl)
  | cons count rest ih =>
      rw [tryCounts]
      refine (p.mirrors_attempt first (layers.take count) index).bind fun a a' ha => ?_
      cases ha with
      | built h => exact .pure (.ok ⟨h, rfl⟩)
      | fatal error => exact .pure (.error rfl)
      | retry => exact ih

theorem mirrors_buildPass (layers : List Layer) (index : Nat) :
    Mirrors (AlikeAnswers Eq AlikeTaken) (p.buildPass layers index)
      (p.buildPass layers index) := by
  cases layers with
  | nil => exact .pure (.error rfl)
  | cons first rest => exact p.mirrors_tryCounts first (first :: rest) index _

/-- Passes that are the same up to numbers. -/
def AlikePasses (passes passes' : List Pass) : Prop :=
  passes.map Pass.bare = passes'.map Pass.bare

theorem mirrors_packFrom {built built' : List Pass} (hbuilt : AlikePasses built built')
    (layers : List Layer) :
    Mirrors (AlikeAnswers Eq AlikePasses) (p.packFrom built layers) (p.packFrom built' layers) := by
  induction built, layers using packFrom.induct generalizing built' with
  | case1 built =>
      rw [packFrom, packFrom]
      exact .pure (.ok hbuilt)
  | case2 built first rest ih =>
      have hlength : built.length = built'.length := by simpa using congrArg List.length hbuilt
      rw [packFrom, packFrom, hlength]
      refine (p.mirrors_buildPass (first :: rest) built'.length).bind_answer
        (fun error error' he => ?_) fun (pass, count) (pass', count') htaken => ?_
      · subst he
        exact (Mirrors.perform _ _).bind fun _ _ _ => .pure (.error rfl)
      · obtain ⟨hpass, rfl⟩ := htaken
        refine ih pass count ?_
        rw [AlikePasses, List.map_append, List.map_append, hbuilt]
        exact congrArg (built'.map Pass.bare ++ [·]) hpass

theorem mirrors_buildPasses (layers : List Layer) :
    Mirrors (AlikeAnswers Eq AlikePasses) (p.buildPasses layers) (p.buildPasses layers) := by
  unfold buildPasses
  split
  · exact .pure (.error rfl)
  · exact p.mirrors_packFrom rfl layers

end Packer

namespace BuiltMaterial

/-! ### Building -/

/-- What passes read is no matter of numbers. -/
theorem requests_congr (m : Material) {passes passes' : List Pass}
    (h : Packer.AlikePasses passes passes') : requests m passes = requests m passes' := by
  have hbare (passes : List Pass) : requests m (passes.map Pass.bare) = requests m passes := by
    rw [requests, requests, List.flatMap_map]
    rfl
  rw [← hbare passes, h, hbare]

/-- Textures of the same paths. -/
def AlikeTextures (textures textures' : List (String × TextureHandle)) : Prop :=
  textures.map (·.1) = textures'.map (·.1)

theorem mirrors_loadTextures {loaded loaded' : List (String × TextureHandle)}
    (hloaded : AlikeTextures loaded loaded') (requests : List (Nat × String)) :
    Mirrors (AlikeAnswers (fun e e' => e.1 = e'.1) AlikeTextures) (loadTextures loaded requests)
      (loadTextures loaded' requests) := by
  induction requests generalizing loaded loaded' with
  | nil => exact .pure (.ok hloaded)
  | cons request rest ih =>
      obtain ⟨stage, path⟩ := request
      have hpaths (l : List (String × TextureHandle)) :
          l.any (·.1 == path) = (l.map (·.1)).any (· == path) := by
        rw [List.any_map]
        rfl
      rw [loadTextures, loadTextures, hpaths, hpaths, hloaded]
      split
      · exact ih hloaded
      · refine Mirrors.bind_answer (.onDevice (.loadTexture · _) (.loadTexture · _)
          fun d d' hd => hd.texture _) (fun error error' he => ?_) fun h h' _ => ?_
        · subst he
          exact .pure (.error rfl)
        · refine ih ?_
          rw [AlikeTextures, List.map_append, List.map_append, hloaded]
          rfl

theorem mirrors_build (context : BuildContext) (m : Material) (format : VertexFormat)
    (variant : Option Variant) :
    Mirrors (AlikeAnswers Eq fun b b' => b.bare = b'.bare) (build context m format variant)
      (build context m format variant) := by
  unfold build
  split
  · exact .pure (.error rfl)
  next layers _ =>
    refine (Mirrors.perform _ _).bind fun _ _ _ => Mirrors.limits.bind fun device device' hd => ?_
    subst hd
    refine (Mirrors.perform _ _).bind fun _ _ _ => ?_
    refine ((packer context m format variant device).mirrors_buildPasses layers).bind_answer
      (fun error error' he => ?_) fun passes passes' hpasses => ?_
    · subst he
      exact .pure (.error rfl)
    · dsimp only
      rw [← requests_congr m hpasses]
      have hnone : AlikeTextures [] [] := rfl
      refine (mirrors_loadTextures hnone (requests m passes)).bind_answer
        (fun (error, _) (error', _) he => ?_) fun textures textures' htextures => ?_
      · exact (Mirrors.perform _ _).bind fun _ _ _ => .pure (.error he)
      · refine (Mirrors.perform _ _).bind fun _ _ _ => .pure (.ok ?_)
        have hbare (l : List (String × TextureHandle)) :
            l.map (Prod.map id fun _ => (⟨0⟩ : TextureHandle)) = (l.map (·.1)).map (·, ⟨0⟩) := by
          rw [List.map_map]
          rfl
        rw [bare, bare]
        dsimp only
        rw [hpasses, hbare, hbare, htextures]

end BuiltMaterial

namespace Form

variable {f f' : Form}

/-- Two forms that are the same up to numbers, after something was done that had the same result. -/
def AlikeResults {α : Type} (r r' : α × Form) : Prop :=
  r.1 = r'.1 ∧ r.2.bare = r'.2.bare

theorem mirrors_build (h : f.bare = f'.bare) (context : BuildContext) :
    Mirrors AlikeResults (f.build context) (f'.build context) := by
  obtain ⟨m, format, variant, isHook, built, error, current⟩ := f
  obtain ⟨m', format', variant', isHook', built', error', current'⟩ := f'
  injection h with hm hformat hvariant hhook
  subst hm hformat hvariant hhook
  unfold build
  refine (Mirrors.perform _ _).bind fun _ _ _ => ?_
  refine (BuiltMaterial.mirrors_build context m format variant).bind_answer
    (fun error error' he => ?_) fun b b' hb => ?_
  · subst he
    exact (Mirrors.perform _ _).bind fun _ _ _ => .pure ⟨rfl, rfl⟩
  · refine .pure ⟨rfl, ?_⟩
    rw [bare, bare, Option.map_some, Option.map_some, hb]

end Form

end MaterialPipeline
