import MaterialPipeline.Proofs.Frame.Drawn

/-!
# Proofs — Frame — Effects

What a draw comes to.  Of all that is bound at a draw, the device reads the program with its
constants, the state object, the textures, the buffers and the range; constants of other programs do
not matter, and a slot that was never set is as good as one that was taken off.

Several objects in one pass leave behind what the last of them leaves behind alone, and what a draw
comes to depends on its pass and its object, not on what was drawn before it.  So the rounds over
some objects and the rounds over one object after another come to the same draws, in another order.

* `Drawn.effect`: what a draw comes to.
* `Form.Rests`: what all draws with a material keep of what is bound.
* `Form.Rests.effects_rounds`: the draws of the rounds over some objects.
* `Form.run_rounds_eq_singles`: what they leave behind.
-/

namespace MaterialPipeline

/-- What a draw comes to. -/
@[ext]
structure Effect where
  program : Option ProgramHandle
  state : Option StateHandle
  /-- The constants of the program. -/
  constants : String → Option ConstantValue
  /-- The texture in each slot, if there is one. -/
  textures : Nat → Option TextureHandle
  vertices : Option BufferHandle
  indices : Option BufferHandle
  range : PrimitiveRange

/-- What the device reads for a draw. -/
def Drawn.effect (drawn : Drawn) : Effect where
  program := drawn.registers .program
  state := drawn.registers .state
  constants := fun name =>
    (drawn.registers .program).bind fun h => drawn.registers (.constant h name)
  textures := fun slot => (drawn.registers (.texture slot)).join
  vertices := drawn.registers .vertices
  indices := (drawn.registers .indices).join
  range := drawn.range

namespace Form

variable {σ σ₀ : Registers} {r : Register} {b : BuiltMaterial} {limits : Limits} {scene : Scene}
  {bin : BinKind} {p : Pass} {s : Submission} {objects : List Submission}

/-! ### The last object of a round -/

/-- The objects before the last one leave no trace. -/
theorem run_round_concat (hobjects : ∀ s ∈ objects, s.vertices.isSome) (hs : s.vertices.isSome) :
    σ.run (callsOf (roundEvents b limits scene bin (objects ++ [s]) p)) =
      σ.run (callsOf (roundEvents b limits scene bin [s] p)) := by
  rw [callsOf_roundEvents, callsOf_roundEvents, List.flatMap_append, callsOf_append]
  simp only [Registers.run_append]
  -- The last object binds everything that the objects before it bind.
  rw [← Registers.run_append (σ.run _), Registers.run_append_of_writes]
  intro r hw
  rw [List.flatMap_singleton, callsOf_objectEvents, Registers.writes_append]
  exact .inl (writes_objects hobjects hs hw)

theorem run_rounds_concat (hobjects : ∀ s ∈ objects, s.vertices.isSome) (hs : s.vertices.isSome)
    (passes : List Pass) :
    σ.run (callsOf (passes.flatMap (roundEvents b limits scene bin (objects ++ [s])))) =
      σ.run (callsOf (passes.flatMap (roundEvents b limits scene bin [s]))) := by
  induction passes generalizing σ with
  | nil => rfl
  | cons p rest ih =>
      rw [List.flatMap_cons, List.flatMap_cons, callsOf_append, callsOf_append,
        Registers.run_append, Registers.run_append, run_round_concat hobjects hs]
      exact ih

/-- Of all that the rounds over an object bind, the rounds over another bind everything too. -/
theorem writes_rounds {s' : Submission} {passes : List Pass} (hs : s.vertices.isSome)
    (hs' : s'.vertices.isSome)
    (hw : Registers.Writes (callsOf (passes.flatMap (roundEvents b limits scene bin [s]))) r) :
    Registers.Writes (callsOf (passes.flatMap (roundEvents b limits scene bin [s']))) r := by
  obtain ⟨c, hc, v, hv⟩ := hw
  obtain ⟨p, hp, hc⟩ := mem_callsOf_flatMap.mp hc
  have hround : Registers.Writes (callsOf (roundEvents b limits scene bin [s] p)) r :=
    ⟨c, hc, v, hv⟩
  have hone := writes_round (List.forall_mem_singleton.mpr hs) hs' hround
  have hround' : Registers.Writes (callsOf (roundEvents b limits scene bin [s'] p)) r := by
    rw [callsOf_roundEvents, Registers.writes_append, Registers.writes_append,
      List.flatMap_singleton, callsOf_objectEvents, Registers.writes_append]
    rcases Registers.writes_append.mp hone with hone | hone
    · exact .inl (.inl hone)
    · exact .inl (.inr (.inl hone))
  obtain ⟨c', hc', hv'⟩ := hround'
  exact ⟨c', mem_callsOf_flatMap.mpr ⟨p, hp, hc'⟩, hv'⟩

/-- **What is left behind.**  The rounds over some objects leave bound what the rounds over one
object after another leave bound. -/
theorem run_rounds_eq_singles {passes : List Pass} (hobjects : ∀ s ∈ objects, s.vertices.isSome)
    (hne : objects ≠ []) :
    σ.run (callsOf (passes.flatMap (roundEvents b limits scene bin objects))) =
      σ.run (objects.flatMap fun s =>
        callsOf (passes.flatMap (roundEvents b limits scene bin [s]))) := by
  rcases List.eq_nil_or_concat objects with rfl | ⟨init, last, rfl⟩
  · exact absurd rfl hne
  rw [List.concat_eq_append, List.forall_mem_append, List.forall_mem_singleton] at hobjects
  obtain ⟨hinit, hlast⟩ := hobjects
  rw [List.concat_eq_append, run_rounds_concat hinit hlast, List.flatMap_append,
    List.flatMap_singleton, Registers.run_append_of_writes]
  rintro r ⟨c, hc, v, hv⟩
  obtain ⟨s, hs, hc⟩ := List.mem_flatMap.mp hc
  exact writes_rounds (hinit s hs) hlast ⟨c, hc, v, hv⟩

/-! ### What the draws of a material keep -/

/-- No texture is bound, and of the constants of the passes, those that no draw binds are as in
`σ₀`. -/
structure Rests (b : BuiltMaterial) (limits : Limits) (scene : Scene) (bin : BinKind)
    (σ₀ σ : Registers) : Prop where
  clear : σ.Clear
  constants : ∀ p ∈ b.passes, ∀ name,
    (∀ s : Submission, s.vertices.isSome → ¬ Registers.Writes
      (setupCalls b limits scene bin p ++ bindCalls b scene bin p s) (.constant p.program name)) →
    σ (.constant p.program name) = σ₀ (.constant p.program name)

/-- A round binds constants of its own program only. -/
theorem eq_program_of_writes {h : ProgramHandle} {name : String} (hs : s.vertices.isSome)
    (hw : Registers.Writes (setupCalls b limits scene bin p ++ bindCalls b scene bin p s)
      (.constant h name)) : h = p.program := by
  rw [Registers.writes_append, writes_setupCalls, writes_bindCalls hs] at hw
  rcases hw with (hw | hw | ⟨x, -, -, hw⟩) | ⟨x, -, -, hw⟩ | ⟨binding, -, hw⟩ | hw | hw
  all_goals first | exact (Register.constant.inj hw).1 | cases hw

theorem Rests.round (h : Rests b limits scene bin σ₀ σ) (hp : p ∈ b.passes)
    (hprograms : (b.passes.map (·.program)).Nodup) (hobjects : ∀ s ∈ objects, s.vertices.isSome) :
    Rests b limits scene bin σ₀ (σ.run (callsOf (roundEvents b limits scene bin objects p))) where
  clear := clear_round hobjects h.clear
  constants := by
    intro p' hp' name hfree
    -- Were the constant bound in this round, the pass would have the program, so be the pass.
    refine (Registers.run_of_not_writes fun hw => ?_).trans (h.constants p' hp' name hfree)
    have hone := writes_round (s := { kind := .mesh, vertices := some ⟨0⟩ }) hobjects rfl hw
    obtain rfl := List.inj_on_of_nodup_map hprograms hp' hp (eq_program_of_writes rfl hone)
    exact hfree _ rfl hone

/-- What a draw comes to, with what was bound at first. -/
def effect (σ₀ : Registers) (b : BuiltMaterial) (limits : Limits) (scene : Scene) (bin : BinKind)
    (p : Pass) (s : Submission) : Effect :=
  Drawn.effect ⟨bound σ₀ b limits scene bin p s, s.range⟩

/-- What a draw comes to depends on its pass and its object alone. -/
theorem Rests.effect_eq (h : Rests b limits scene bin σ₀ σ) (hσ₀ : σ₀.Clear) (hp : p ∈ b.passes)
    (hs : s.vertices.isSome) :
    effect σ b limits scene bin p s = effect σ₀ b limits scene bin p s := by
  have hbound (r : Register) (hr : Registers.Writes
      (setupCalls b limits scene bin p ++ bindCalls b scene bin p s) r ∨ σ r = σ₀ r) :
      bound σ b limits scene bin p s r = bound σ₀ b limits scene bin p s r :=
    Registers.run_congr hr
  have hsetup (r : Register) (hr : r = .program ∨ r = .state) :
      bound σ b limits scene bin p s r = bound σ₀ b limits scene bin p s r := by
    refine hbound r (.inl (Registers.writes_append.mpr (.inl (writes_setupCalls.mpr ?_))))
    exact hr.imp_right .inl
  have hbuffers (r : Register) (hr : r = .vertices ∨ r = .indices) :
      bound σ b limits scene bin p s r = bound σ₀ b limits scene bin p s r := by
    refine hbound r (.inl (Registers.writes_append.mpr (.inr ((writes_bindCalls hs).mpr ?_))))
    exact .inr (.inr hr)
  refine Effect.ext (hsetup .program (.inl rfl)) (hsetup .state (.inr rfl)) ?_ ?_
    (hbuffers .vertices (.inl rfl)) (congrArg Option.join (hbuffers .indices (.inr rfl))) rfl
  · funext name
    show (bound σ b limits scene bin p s .program).bind _ =
      (bound σ₀ b limits scene bin p s .program).bind _
    rw [bound_program, bound_program]
    refine hbound (.constant p.program name) (or_iff_not_imp_left.mpr fun hw => ?_)
    -- Whether a constant is bound does not depend on the object.
    refine h.constants p hp name fun s' hs' hw' => hw ?_
    rw [Registers.writes_append, writes_bindCalls hs'] at hw'
    rw [Registers.writes_append, writes_bindCalls hs]
    exact hw'
  · funext slot
    -- A slot that the pass does not bind is empty on both sides, though it may never have been set.
    by_cases hslot : Registers.Writes
        (setupCalls b limits scene bin p ++ bindCalls b scene bin p s) (.texture slot)
    · exact congrArg Option.join (hbound _ (.inl hslot))
    · have hfree (σ : Registers) (hσ : σ.Clear) :
          (bound σ b limits scene bin p s (.texture slot)).join = none := by
        rw [bound, Registers.run_of_not_writes hslot]
        exact hσ slot
      exact (hfree σ h.clear).trans (hfree σ₀ hσ₀).symm

theorem Rests.rounds (h : Rests b limits scene bin σ₀ σ)
    (hprograms : (b.passes.map (·.program)).Nodup) (hobjects : ∀ s ∈ objects, s.vertices.isSome) :
    Rests b limits scene bin σ₀
      (σ.run (callsOf (b.passes.flatMap (roundEvents b limits scene bin objects)))) :=
  run_rounds (fun _ hp _ hσ => hσ.round hp hprograms hobjects) h

/-- **The draws of the rounds over some objects.**  Every pass goes over all objects. -/
theorem Rests.effects_rounds (h : Rests b limits scene bin σ₀ σ) (hσ₀ : σ₀.Clear)
    (hprograms : (b.passes.map (·.program)).Nodup) (hobjects : ∀ s ∈ objects, s.vertices.isSome) :
    (σ.draws (callsOf (b.passes.flatMap (roundEvents b limits scene bin objects)))).map
        Drawn.effect =
      b.passes.flatMap fun p => objects.map (effect σ₀ b limits scene bin p) := by
  have hdraws := draws_rounds (I := Rests b limits scene bin σ₀) hobjects
    (fun _ hp _ hσ => hσ.round hp hprograms hobjects) h
  have hmem : ∀ x ∈ b.passes.flatMap fun p => objects.map (p, ·),
      x.1 ∈ b.passes ∧ x.2.vertices.isSome := by
    intro x hx
    obtain ⟨p, hp, hx⟩ := List.mem_flatMap.mp hx
    obtain ⟨s, hs, rfl⟩ := List.mem_map.mp hx
    exact ⟨hp, hobjects s hs⟩
  have hpairs : (b.passes.flatMap fun p => objects.map (effect σ₀ b limits scene bin p)) =
      (b.passes.flatMap fun p => objects.map (p, ·)).map
        fun x => effect σ₀ b limits scene bin x.1 x.2 := by
    rw [List.map_flatMap]
    simp only [List.map_map]
    rfl
  rw [hpairs, eq_comm, ← List.forall₂_eq_eq_eq, List.forall₂_map_left_iff,
    List.forall₂_map_right_iff]
  refine ((List.forall₂_and_left ..).mpr ⟨hmem, hdraws⟩).imp ?_
  rintro ⟨p, s⟩ drawn ⟨⟨hp, hs⟩, σ', hσ', rfl⟩
  exact (hσ'.effect_eq hσ₀ hp hs).symm

end Form

end MaterialPipeline
