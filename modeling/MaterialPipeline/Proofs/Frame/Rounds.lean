import MaterialPipeline.Frame.Draw
import MaterialPipeline.Proofs.Device.Registers

/-!
# Proofs — Frame — Rounds

One pass over some objects.  Setting the pass up binds what holds for all objects, each object binds
the rest and is drawn, and at the end the textures are taken off.  What one object binds, the next
binds anew, so what is bound when an object is drawn does not depend on the objects before it.

* `Form.draws_round`: the draws of a round.
* `Form.bound_program`, `Form.bound_state`, `Form.bound_texture` and others: what is bound at a
draw.
* `Form.clear_round`: no texture is left bound.
-/

namespace MaterialPipeline

variable {σ : Registers} {r : Register}

/-! ### Constants -/

/-- The names and types of some values. -/
def signature (values : List (String × ConstantValue)) : List (String × UniformType) :=
  values.map fun (name, value) => (name, value.type)

theorem signature_append (a b : List (String × ConstantValue)) :
    signature (a ++ b) = signature a ++ signature b :=
  List.map_append

namespace Constants

variable {c : Constants} {program : ProgramHandle} {values : List (String × ConstantValue)}

theorem callsOf_upload (c : Constants) (program : ProgramHandle) (name : String)
    (value : ConstantValue) :
    callsOf (c.upload program name value) =
      if c.type? name = some value.type then [.setConstant program name value] else [] := by
  unfold upload
  cases h : c.type? name with
  | none => rfl
  | some type =>
      by_cases ht : type = value.type
      · simp [ht, callsOf, Event.call?]
      · simp [ht, callsOf, Event.call?]

/-- The values that are declared with their types go to the device. -/
theorem callsOf_uploadAll (c : Constants) (program : ProgramHandle)
    (values : List (String × ConstantValue)) :
    callsOf (c.uploadAll program values) =
      (values.filter fun x => c.type? x.1 = some x.2.type).map
        fun x => .setConstant program x.1 x.2 := by
  induction values with
  | nil => rfl
  | cons head rest ih =>
      obtain ⟨name, value⟩ := head
      have happ : callsOf (c.uploadAll program ((name, value) :: rest)) =
          callsOf (c.upload program name value) ++ callsOf (c.uploadAll program rest) :=
        callsOf_append ..
      rw [happ, ih, callsOf_upload, List.filter_cons]
      by_cases ht : c.type? name = some value.type <;> simp [ht]

/-- An upload binds the constants that are declared with the type of their value. -/
theorem writes_uploadAll :
    Registers.Writes (callsOf (c.uploadAll program values)) r ↔
      ∃ x ∈ signature values, c.type? x.1 = some x.2 ∧ r = .constant program x.1 := by
  rw [callsOf_uploadAll, Registers.writes_map]
  simp [signature, Call.write?, eq_comm, and_assoc]

theorem draw_notMem_uploadAll (range : PrimitiveRange) :
    .draw range ∉ callsOf (c.uploadAll program values) := by
  rw [callsOf_uploadAll, List.mem_map]
  rintro ⟨x, -, hx⟩
  cases hx

end Constants

namespace Form

variable {b : BuiltMaterial} {limits : Limits} {scene : Scene} {bin : BinKind} {p : Pass}
  {s s' : Submission} {objects : List Submission}

/-! ### Binding -/

/-- What is bound for all objects of a round. -/
def setupCalls (b : BuiltMaterial) (limits : Limits) (scene : Scene) (bin : BinKind) (p : Pass) :
    List Call :=
  callsOf (b.setup limits scene { bin := bin } p)

/-- What is bound for one object. -/
def bindCalls (b : BuiltMaterial) (scene : Scene) (bin : BinKind) (p : Pass) (s : Submission) :
    List Call :=
  let draw : DrawContext := { bin := bin, lightMap := s.lightMap, visibility := s.visibility }
  callsOf (BuiltMaterial.transforms scene s.world p ++ b.sceneInfo scene draw p
    ++ b.textureStages draw p
    ++ ((s.vertices.map fun h => BuiltMaterial.setBuffers h s.indices).getD []))

theorem callsOf_objectEvents (b : BuiltMaterial) (scene : Scene) (bin : BinKind) (p : Pass)
    (s : Submission) :
    callsOf (objectEvents b scene bin p s) = bindCalls b scene bin p s ++ [.draw s.range] :=
  callsOf_append ..

/-- What is bound when an object is drawn. -/
def bound (σ : Registers) (b : BuiltMaterial) (limits : Limits) (scene : Scene) (bin : BinKind)
    (p : Pass) (s : Submission) : Registers :=
  σ.run (setupCalls b limits scene bin p ++ bindCalls b scene bin p s)

/-- The names and types of the constants of an object: they are the same for all objects. -/
def objectSignature (b : BuiltMaterial) (scene : Scene) (p : Pass) : List (String × UniformType) :=
  signature (BuiltMaterial.transformValues scene .identity p)
    ++ signature (b.sharedValues scene {}
      ++ (b.stagesOf p).flatMap (fun (n, s) => BuiltMaterial.stageValues n s)
      ++ ((b.stagesOf p).head?.map fun (_, s) => BuiltMaterial.leadValues s).getD [])

theorem signature_transformValues (world : Mat4) :
    signature (BuiltMaterial.transformValues scene world p) =
      signature (BuiltMaterial.transformValues scene .identity p) := by
  by_cases h : p.constants.has "eyePosObj" <;>
    simp [signature, BuiltMaterial.transformValues, h, ConstantValue.type]

theorem writes_textures {values : Binding → Option TextureHandle} {bindings : List Binding} :
    Registers.Writes (callsOf (bindings.map fun binding =>
      .call (.setTexture binding.slot (values binding)))) r ↔
        ∃ binding ∈ bindings, r = .texture binding.slot := by
  rw [callsOf_map_call, Registers.writes_map]
  simp [Call.write?, eq_comm]

theorem draw_notMem_textures {values : Binding → Option TextureHandle} {bindings : List Binding}
    (range : PrimitiveRange) :
    .draw range ∉ callsOf (bindings.map fun binding =>
      .call (.setTexture binding.slot (values binding))) := by
  rw [callsOf_map_call, List.mem_map]
  rintro ⟨binding, -, hb⟩
  cases hb

theorem writes_buffers (hs : s.vertices.isSome) :
    Registers.Writes (callsOf ((s.vertices.map fun h =>
      BuiltMaterial.setBuffers h s.indices).getD [])) r ↔ r = .vertices ∨ r = .indices := by
  obtain ⟨h, hh⟩ := Option.isSome_iff_exists.mp hs
  have hcalls : callsOf (BuiltMaterial.setBuffers h s.indices) =
      [.setVertexBuffer h] ++ [.setIndexBuffer s.indices] := rfl
  rw [hh, Option.map_some, Option.getD_some, hcalls, Registers.writes_append,
    Registers.writes_singleton, Registers.writes_singleton]
  simp [Call.write?, eq_comm]

/-- What an object binds. -/
theorem writes_bindCalls (hs : s.vertices.isSome) :
    Registers.Writes (bindCalls b scene bin p s) r ↔
      (∃ x ∈ objectSignature b scene p,
          p.constants.type? x.1 = some x.2 ∧ r = .constant p.program x.1) ∨
        (∃ binding ∈ p.bindings, r = .texture binding.slot) ∨ r = .vertices ∨ r = .indices := by
  unfold bindCalls BuiltMaterial.transforms BuiltMaterial.sceneInfo BuiltMaterial.textureStages
  simp only [callsOf_append, Registers.writes_append]
  rw [writes_buffers hs, Constants.writes_uploadAll, Constants.writes_uploadAll, writes_textures,
    signature_transformValues]
  simp only [objectSignature, List.mem_append, or_and_right, exists_or, signature_append, or_assoc]
  exact Iff.rfl

theorem setupCalls_eq (b : BuiltMaterial) (limits : Limits) (scene : Scene) (bin : BinKind)
    (p : Pass) : setupCalls b limits scene bin p = [.setProgram p.program] ++
      ([.setState (p.state (b.conditions limits scene { bin := bin }))] ++
        callsOf (p.constants.uploadAll p.program (b.animationValues scene p))) := rfl

/-- What setting a pass up binds. -/
theorem writes_setupCalls : Registers.Writes (setupCalls b limits scene bin p) r ↔
    r = .program ∨ r = .state ∨ ∃ x ∈ signature (b.animationValues scene p),
      p.constants.type? x.1 = some x.2 ∧ r = .constant p.program x.1 := by
  rw [setupCalls_eq, Registers.writes_append, Registers.writes_append, Registers.writes_singleton,
    Registers.writes_singleton, Constants.writes_uploadAll]
  simp [Call.write?, eq_comm]

theorem writes_cleanup : Registers.Writes (callsOf (BuiltMaterial.cleanup p)) r ↔
    ∃ binding ∈ p.bindings, r = .texture binding.slot :=
  writes_textures

/-! ### Drawing -/

/-- An object binds anew what another one bound. -/
theorem run_bindCalls_bindCalls (hs : s.vertices.isSome) (hs' : s'.vertices.isSome) :
    (σ.run (bindCalls b scene bin p s)).run (bindCalls b scene bin p s') =
      σ.run (bindCalls b scene bin p s') := by
  rw [← Registers.run_append]
  exact Registers.run_append_of_writes fun r hr =>
    (writes_bindCalls hs').mpr ((writes_bindCalls hs).mp hr)

theorem run_draw (range : PrimitiveRange) : σ.run [.draw range] = σ := rfl

theorem draws_bindCalls : σ.draws (bindCalls b scene bin p s) = [] := by
  refine Registers.draws_eq_nil fun range hr => ?_
  simp only [bindCalls, callsOf_append, List.mem_append] at hr
  rcases hr with ((hr | hr) | hr) | hr
  · exact Constants.draw_notMem_uploadAll range hr
  · exact Constants.draw_notMem_uploadAll range hr
  · exact draw_notMem_textures range hr
  · cases hv : s.vertices with
    | none =>
        rw [hv] at hr
        cases hr
    | some h =>
        rw [hv] at hr
        rcases List.mem_cons.mp hr with hr | hr
        · cases hr
        · cases List.mem_singleton.mp hr

theorem draws_setupCalls : σ.draws (setupCalls b limits scene bin p) = [] := by
  refine Registers.draws_eq_nil fun range hr => ?_
  rw [setupCalls_eq, List.mem_append, List.mem_append, List.mem_singleton, List.mem_singleton] at hr
  rcases hr with hr | hr | hr
  · cases hr
  · cases hr
  · exact Constants.draw_notMem_uploadAll range hr

theorem draws_objects (hobjects : ∀ s ∈ objects, s.vertices.isSome) :
    σ.draws (callsOf (objects.flatMap (objectEvents b scene bin p))) =
      objects.map fun s => ⟨σ.run (bindCalls b scene bin p s), s.range⟩ := by
  induction objects generalizing σ with
  | nil => rfl
  | cons s rest ih =>
      rw [List.flatMap_cons, callsOf_append, callsOf_objectEvents, Registers.draws_append,
        Registers.draws_append, draws_bindCalls, Registers.run_append, run_draw,
        ih fun s hs => hobjects s (List.mem_cons_of_mem _ hs)]
      refine congrArg (_ :: ·) (List.map_congr_left fun s' hs' => ?_)
      -- What `s` bound is bound anew by each object after it.
      rw [run_bindCalls_bindCalls (hobjects s List.mem_cons_self)
        (hobjects s' (List.mem_cons_of_mem _ hs'))]

/-- **A round.**  Every object is drawn once, with what was bound for it. -/
theorem draws_round (hobjects : ∀ s ∈ objects, s.vertices.isSome) :
    σ.draws (callsOf (roundEvents b limits scene bin objects p)) =
      objects.map fun s => ⟨bound σ b limits scene bin p s, s.range⟩ := by
  have hcleanup (σ : Registers) : σ.draws (callsOf (BuiltMaterial.cleanup p)) = [] :=
    Registers.draws_eq_nil draw_notMem_textures
  rw [roundEvents, callsOf_append, callsOf_append, ← setupCalls, Registers.draws_append,
    Registers.draws_append, hcleanup, draws_objects hobjects, draws_setupCalls, List.append_nil,
    List.nil_append]
  exact List.map_congr_left fun s _ => by rw [bound, Registers.run_append]

/-! ### What is bound when an object is drawn -/

/-- What an upload calls. -/
theorem mem_uploadAll {c : Call} {values : List (String × ConstantValue)}
    (hc : c ∈ callsOf (p.constants.uploadAll p.program values)) :
    ∃ name value, c = .setConstant p.program name value := by
  rw [Constants.callsOf_uploadAll] at hc
  obtain ⟨x, -, rfl⟩ := List.mem_map.mp hc
  exact ⟨x.1, x.2, rfl⟩

/-- What an object calls before it is drawn. -/
theorem mem_bindCalls {c : Call} (hc : c ∈ bindCalls b scene bin p s) :
    (∃ name value, c = .setConstant p.program name value) ∨
      (∃ binding ∈ p.bindings, c = .setTexture binding.slot
        (b.boundTexture { bin := bin, lightMap := s.lightMap, visibility := s.visibility }
          binding)) ∨
      (∃ h, s.vertices = some h ∧ c = .setVertexBuffer h) ∨ c = .setIndexBuffer s.indices := by
  simp only [bindCalls, callsOf_append, List.mem_append] at hc
  rcases hc with ((hc | hc) | hc) | hc
  · exact .inl (mem_uploadAll hc)
  · exact .inl (mem_uploadAll hc)
  · obtain ⟨binding, hb, hx⟩ := List.mem_map.mp (callsOf_map_call .. ▸ hc)
    exact .inr (.inl ⟨binding, hb, hx.symm⟩)
  · cases hv : s.vertices with
    | none =>
        rw [hv] at hc
        cases hc
    | some h =>
        rw [hv] at hc
        rcases List.mem_cons.mp hc with hc | hc
        · exact .inr (.inr (.inl ⟨h, rfl, hc⟩))
        · exact .inr (.inr (.inr (List.mem_singleton.mp hc)))

/-- The calls between a draw and the start of its round, but for those of other objects. -/
theorem mem_boundCalls {c : Call}
    (hc : c ∈ setupCalls b limits scene bin p ++ bindCalls b scene bin p s) :
    c = .setProgram p.program ∨ c = .setState (p.state (b.conditions limits scene { bin := bin })) ∨
      (∃ name value, c = .setConstant p.program name value) ∨
      (∃ binding ∈ p.bindings, c = .setTexture binding.slot
        (b.boundTexture { bin := bin, lightMap := s.lightMap, visibility := s.visibility }
          binding)) ∨
      (∃ h, s.vertices = some h ∧ c = .setVertexBuffer h) ∨ c = .setIndexBuffer s.indices := by
  rw [setupCalls_eq, List.mem_append, List.mem_append, List.mem_append, List.mem_singleton,
    List.mem_singleton] at hc
  rcases hc with (rfl | rfl | hc) | hc
  · exact .inl rfl
  · exact .inr (.inl rfl)
  · exact .inr (.inr (.inl (mem_uploadAll hc)))
  · exact .inr (.inr (mem_bindCalls hc))

/-- A register that is bound for an object has the one value that is bound there. -/
theorem bound_eq_some {v : r.Value}
    (hw : Registers.Writes (setupCalls b limits scene bin p) r ∨
      Registers.Writes (bindCalls b scene bin p s) r)
    (hv : ∀ c ∈ setupCalls b limits scene bin p ++ bindCalls b scene bin p s,
      ∀ w, c.write? = some ⟨r, w⟩ → w = v) : bound σ b limits scene bin p s r = some v :=
  Registers.run_eq_some (Registers.writes_append.mpr hw) hv

theorem bound_program : bound σ b limits scene bin p s .program = some p.program := by
  refine bound_eq_some (.inl (writes_setupCalls.mpr (.inl rfl))) fun c hc w hw => ?_
  rcases mem_boundCalls hc with rfl | rfl | ⟨_, _, rfl⟩ | ⟨_, _, rfl⟩ | ⟨_, _, rfl⟩ | rfl <;>
    cases hw
  rfl

theorem bound_state : bound σ b limits scene bin p s .state =
    some (p.state (b.conditions limits scene { bin := bin })) := by
  refine bound_eq_some (.inl (writes_setupCalls.mpr (.inr (.inl rfl)))) fun c hc w hw => ?_
  rcases mem_boundCalls hc with rfl | rfl | ⟨_, _, rfl⟩ | ⟨_, _, rfl⟩ | ⟨_, _, rfl⟩ | rfl <;>
    cases hw
  rfl

section

variable (hs : s.vertices.isSome)

include hs

theorem bound_vertices : bound σ b limits scene bin p s .vertices = s.vertices := by
  obtain ⟨h, hh⟩ := Option.isSome_iff_exists.mp hs
  rw [hh]
  refine bound_eq_some (.inr ((writes_bindCalls hs).mpr (.inr (.inr (.inl rfl)))))
    fun c hc w hw => ?_
  rcases mem_boundCalls hc with rfl | rfl | ⟨_, _, rfl⟩ | ⟨_, _, rfl⟩ | ⟨h', hh', rfl⟩ | rfl <;>
    cases hw
  exact Option.some.inj (hh'.symm.trans hh)

theorem bound_indices : bound σ b limits scene bin p s .indices = some s.indices := by
  refine bound_eq_some (.inr ((writes_bindCalls hs).mpr (.inr (.inr (.inr rfl)))))
    fun c hc w hw => ?_
  rcases mem_boundCalls hc with rfl | rfl | ⟨_, _, rfl⟩ | ⟨_, _, rfl⟩ | ⟨_, _, rfl⟩ | rfl <;>
    cases hw
  rfl

/-- A slot of the pass has the texture of its binding. -/
theorem bound_texture (hslots : (p.bindings.map (·.slot)).Nodup) {binding : Binding}
    (hb : binding ∈ p.bindings) : bound σ b limits scene bin p s (.texture binding.slot) =
      some (b.boundTexture { bin := bin, lightMap := s.lightMap, visibility := s.visibility }
        binding) := by
  refine bound_eq_some (.inr ((writes_bindCalls hs).mpr (.inr (.inl ⟨binding, hb, rfl⟩))))
    fun c hc w hw => ?_
  rcases mem_boundCalls hc with rfl | rfl | ⟨_, _, rfl⟩ | ⟨binding', hb', rfl⟩ | ⟨_, _, rfl⟩ | rfl
  case inr.inr.inr.inl =>
    have hslot := Register.texture.inj (congrArg Sigma.fst (Option.some.inj hw))
    obtain rfl := List.inj_on_of_nodup_map hslots hb' hb hslot
    cases hw
    rfl
  all_goals cases hw

/-- Any other slot has the texture that it had before. -/
theorem bound_texture_of_ne {slot : Nat} (hslot : ∀ binding ∈ p.bindings, binding.slot ≠ slot) :
    bound σ b limits scene bin p s (.texture slot) = σ (.texture slot) := by
  refine Registers.run_of_not_writes ?_
  rw [Registers.writes_append, writes_setupCalls, writes_bindCalls hs]
  simpa using fun binding hb he => hslot binding hb he.symm

end

/-! ### After a round -/

theorem callsOf_roundEvents : callsOf (roundEvents b limits scene bin objects p) =
    setupCalls b limits scene bin p ++ callsOf (objects.flatMap (objectEvents b scene bin p)) ++
      callsOf (BuiltMaterial.cleanup p) := by
  rw [roundEvents, callsOf_append, callsOf_append]
  rfl

/-- Objects bind what any one object binds. -/
theorem writes_objects (hobjects : ∀ s ∈ objects, s.vertices.isSome) (hs : s.vertices.isSome)
    (hw : Registers.Writes (callsOf (objects.flatMap (objectEvents b scene bin p))) r) :
    Registers.Writes (bindCalls b scene bin p s) r := by
  induction objects with
  | nil => exact absurd hw Registers.not_writes_nil
  | cons s' rest ih =>
      rw [List.flatMap_cons, callsOf_append, callsOf_objectEvents, Registers.writes_append,
        Registers.writes_append, Registers.writes_singleton] at hw
      rcases hw with (hw | hw) | hw
      · exact (writes_bindCalls hs).mpr ((writes_bindCalls (hobjects s' List.mem_cons_self)).mp hw)
      · cases hw
      · exact ih (fun s hs => hobjects s (List.mem_cons_of_mem _ hs)) hw

/-- Of all that a round binds, an object that is drawn on its own binds everything too. -/
theorem writes_round (hobjects : ∀ s ∈ objects, s.vertices.isSome) (hs : s.vertices.isSome)
    (hw : Registers.Writes (callsOf (roundEvents b limits scene bin objects p)) r) :
    Registers.Writes (setupCalls b limits scene bin p ++ bindCalls b scene bin p s) r := by
  rw [callsOf_roundEvents, Registers.writes_append, Registers.writes_append] at hw
  rw [Registers.writes_append]
  rcases hw with (hw | hw) | hw
  · exact .inl hw
  · exact .inr (writes_objects hobjects hs hw)
  · exact .inr ((writes_bindCalls hs).mpr (.inr (.inl (writes_cleanup.mp hw))))

/-- A round takes its textures off. -/
theorem clear_round (hobjects : ∀ s ∈ objects, s.vertices.isSome) (hσ : σ.Clear) :
    (σ.run (callsOf (roundEvents b limits scene bin objects p))).Clear := by
  intro slot
  by_cases hslot : ∃ binding ∈ p.bindings, Register.texture slot = .texture binding.slot
  · -- A slot of the pass: it is taken off at the end, whatever was in it.
    rw [callsOf_roundEvents, Registers.run_append,
      Registers.run_eq_some (v := none) (writes_cleanup.mpr hslot)]
    · rfl
    · intro c hc w hw
      rw [BuiltMaterial.cleanup, callsOf_map_call] at hc
      obtain ⟨binding, -, rfl⟩ := List.mem_map.mp hc
      cases hw
      rfl
  · have hround : ¬ Registers.Writes (callsOf (roundEvents b limits scene bin objects p))
        (.texture slot) := by
      intro hw
      -- Whatever a round binds, an object with vertices would bind; a texture is of some binding.
      have hw := writes_round (s := { kind := .mesh, vertices := some ⟨0⟩ }) hobjects rfl hw
      rw [Registers.writes_append, writes_setupCalls, writes_bindCalls rfl] at hw
      simp only [reduceCtorEq, and_false, exists_false, or_false, false_or] at hw
      exact hslot hw
    rw [Registers.run_of_not_writes hround]
    exact hσ slot

/-- Whatever each round keeps, all rounds keep. -/
theorem run_rounds {I : Registers → Prop} {passes : List Pass}
    (hround : ∀ p ∈ passes, ∀ σ, I σ →
      I (σ.run (callsOf (roundEvents b limits scene bin objects p))))
    (hσ : I σ) : I (σ.run (callsOf (passes.flatMap (roundEvents b limits scene bin objects)))) := by
  induction passes generalizing σ with
  | nil => exact hσ
  | cons p rest ih =>
      rw [List.flatMap_cons, callsOf_append, Registers.run_append]
      exact ih (fun p hp => hround p (List.mem_cons_of_mem _ hp)) (hround p List.mem_cons_self σ hσ)

/-- **Rounds.**  Whatever a round keeps of what is bound, holds at the start of the round of every
draw. -/
theorem draws_rounds {I : Registers → Prop} {passes : List Pass}
    (hobjects : ∀ s ∈ objects, s.vertices.isSome)
    (hround : ∀ p ∈ passes, ∀ σ, I σ →
      I (σ.run (callsOf (roundEvents b limits scene bin objects p))))
    (hσ : I σ) :
    List.Forall₂ (fun (x : Pass × Submission) drawn =>
        ∃ σ', I σ' ∧ drawn = ⟨bound σ' b limits scene bin x.1 x.2, x.2.range⟩)
      (passes.flatMap fun p => objects.map (p, ·))
      (σ.draws (callsOf (passes.flatMap (roundEvents b limits scene bin objects)))) := by
  induction passes generalizing σ with
  | nil => exact .nil
  | cons p rest ih =>
      rw [List.flatMap_cons, List.flatMap_cons, callsOf_append, Registers.draws_append,
        draws_round hobjects]
      refine List.rel_append ?_ ?_
      · rw [List.forall₂_map_left_iff, List.forall₂_map_right_iff, List.forall₂_same]
        exact fun s _ => ⟨σ, hσ, rfl⟩
      · exact ih (fun p hp => hround p (List.mem_cons_of_mem _ hp))
          (hround p List.mem_cons_self σ hσ)

end Form

end MaterialPipeline
