import MaterialPipeline.Proofs.Frame.Effects

/-!
# Proofs — Frame — Batching

Drawing elements in batches comes to the same as drawing them one by one.

Both go over the elements group by group: elements of one material that stand together.  The proof
keeps two runs side by side, one in batches and one by one, at the start of a group.  There, the
libraries are the same, the sessions differ in their records only, and the same is bound on both
devices.  The first element of a group has its material built, and nothing else is built in the
group; so both runs draw with the same passes, and only the order of the draws differs.

* `BinCore.Issues`: what drawing some elements issues.
* `StrokeRests`: what strokes with one material keep of what is bound.
* `BinCore.Singly`: objects of one material, drawn one by one.
* `BinCore.Alike`: two ways of drawing some elements come to the same.
* `BinCore.alike_group`: they do, for a group.
* `BinCore.batches_agree`: they do, for all elements.
-/

namespace MaterialPipeline

open MaterialPipeline.Action

variable {scene : Scene} {kind : BinKind} {material : MaterialRef} {members : List Member}
  {d d₁ d₂ d' d₁' d₂' : Drawing} {s s₁ s₂ s' s₁' s₂' s₀ : Session} {library : Library}
  {found : Option (FormPlace × Form)} {others : Multiset Object} {c : BinCore}
  {arena : FrameArena Submission} {rule : DrawRule} {elements elements' : List BinElement}
  {σ σ₀ : Registers} {limits : Limits}

/-! ### What is issued -/

/-- The element that a draw is issued for. -/
def Cause.element : Cause → BinElement
  | pass _ m _ _ => m.element
  | self m _ => m.element

/-- Drawing some elements takes these strokes, and issues draws with these effects, in order, each
for an element. -/
structure BinCore.Issues (c : BinCore) (arena : FrameArena Submission) (rule : DrawRule)
    (scene : Scene) (elements : List BinElement) (d : Drawing) (s : Session) (strokes : List Stroke)
    (effects : List (BinElement × Effect)) (d' : Drawing) (s' : Session) : Prop where
  walk : Walk scene d s strokes d' s'
  draws : c.Draws arena rule elements strokes
  labels : effects.map Prod.fst = (strokes.flatMap Stroke.causes).map Cause.element
  effects : ∃ calls, s'.device.calls.toList = s.device.calls.toList ++ calls ∧
    effects.map Prod.snd = (s.device.registers.draws calls).map Drawn.effect

namespace BinCore.Issues

variable {strokes strokes' : List Stroke} {effects effects' : List (BinElement × Effect)}

theorem nil (d : Drawing) (s : Session) : c.Issues arena rule scene [] d s [] [] d s where
  walk := .done d s
  draws := .nil
  labels := rfl
  effects := ⟨[], (List.append_nil _).symm, rfl⟩

theorem append (h : c.Issues arena rule scene elements d s strokes effects d₁ s₁)
    (h' : c.Issues arena rule scene elements' d₁ s₁ strokes' effects' d' s') :
    c.Issues arena rule scene (elements ++ elements') d s (strokes ++ strokes')
      (effects ++ effects') d' s' where
  walk := h.walk.append h'.walk
  draws := h.draws.append h'.draws
  labels := by
    rw [List.map_append, h.labels, h'.labels, List.flatMap_append, List.map_append]
  effects := by
    obtain ⟨calls, hcalls, heffects⟩ := h.effects
    obtain ⟨calls', hcalls', heffects'⟩ := h'.effects
    refine ⟨calls ++ calls', by rw [hcalls', hcalls, List.append_assoc], ?_⟩
    rw [List.map_append, heffects, heffects', Registers.draws_append, List.map_append,
      Device.registers_of_calls hcalls]

end BinCore.Issues

/-! ### One stroke -/

/-- The effects of a stroke with a material: every pass goes over the objects in order. -/
def strokeEffects (σ₀ : Registers) (limits : Limits) (scene : Scene) (kind : BinKind)
    (members : List Member) : Option BuiltMaterial → List (BinElement × Effect)
  | none => []
  | some b => b.passes.flatMap fun p => members.map fun m =>
      (m.element, Form.effect σ₀ b limits scene kind p m.object)

/-- Binding and drawing leave all but the record of a session alone. -/
theorem Session.forget_applyAll_of_isQuiet (s : Session) (events : List Event)
    (h : ∀ c ∈ callsOf events, c.isQuiet = false) : (s.applyAll events).forget = s.forget := by
  induction events generalizing s with
  | nil => rfl
  | cons e rest ih =>
      cases e with
      | note n => exact ih (s.apply (.note n)) h
      | call c =>
          obtain ⟨hc, hrest⟩ := List.forall_mem_cons.mp h
          refine (ih (s.apply (.call c)) hrest).trans ?_
          cases c <;> first | rfl | cases hc

theorem labels_strokeEffects (built : Option BuiltMaterial) :
    (strokeEffects σ₀ limits scene kind members built).map Prod.fst =
      (Stroke.causes (.batch kind material members built)).map Cause.element := by
  cases built with
  | none => rfl
  | some b =>
      rw [strokeEffects, Stroke.causes, List.map_flatMap, List.map_flatMap]
      simp only [List.map_map]
      rfl

/-- What the strokes with `built` keep of what is bound, from `σ₀` on. -/
structure StrokeRests (built : Option BuiltMaterial) (limits : Limits) (scene : Scene)
    (kind : BinKind) (σ₀ σ : Registers) : Prop where
  clear : σ₀.Clear
  programs : ∀ b, built = some b → (b.passes.map (·.program)).Nodup
  rests : ∀ b, built = some b → Form.Rests b limits scene kind σ₀ σ

namespace StrokeRests

variable {built : Option BuiltMaterial}

theorem refl (hσ₀ : σ₀.Clear)
    (hprograms : ∀ b, built = some b → (b.passes.map (·.program)).Nodup) :
    StrokeRests built limits scene kind σ₀ σ₀ :=
  ⟨hσ₀, hprograms, fun _ _ => ⟨hσ₀, fun _ _ _ _ => rfl⟩⟩

theorem run (h : StrokeRests built limits scene kind σ₀ σ)
    (hvertices : ∀ m ∈ members, m.object.vertices.isSome) : StrokeRests built limits scene kind σ₀
      (σ.run (strokeCalls limits scene kind (members.map Member.object) built)) where
  clear := h.clear
  programs := h.programs
  rests := by
    intro b hb
    rw [hb]
    exact (h.rests b hb).rounds (h.programs b hb) (List.forall_mem_map.mpr hvertices)

theorem effects (h : StrokeRests built limits scene kind σ₀ σ)
    (hvertices : ∀ m ∈ members, m.object.vertices.isSome) :
    (σ.draws (strokeCalls limits scene kind (members.map Member.object) built)).map Drawn.effect =
      (strokeEffects σ₀ limits scene kind members built).map Prod.snd := by
  cases built with
  | none => rfl
  | some b =>
      rw [strokeCalls, (h.rests b rfl).effects_rounds h.clear (h.programs b rfl)
        (List.forall_mem_map.mpr hvertices), strokeEffects, List.map_flatMap]
      simp only [List.map_map]
      rfl

end StrokeRests

/-- A stroke, from what the library gives on. -/
theorem issues_stroke (h₀ : s₀.device.Owns others) (hready : d.library.Ready s₀ s)
    (hsuits : Stroke.Suits c rule (.batch kind material members (found.bind (·.2.built))))
    (hmembers : ∀ m ∈ members,
      arena.find m.element.handle = some m.object ∧ m.object.vertices.isSome)
    (hfound : (d.library.renderable material).run s = .ok ((found, library), s₁))
    (hrests : StrokeRests (found.bind (·.2.built)) s.device.limits scene kind σ₀
      s.device.registers) :
    ∃ s', ((drawBatch scene kind material (members.map Member.object)).run d).run s =
        .ok (((), ⟨library, d.stats.drawn (strokeRounds found) members.length⟩), s') ∧
      c.Issues arena rule scene (members.map Member.element) d s
        [.batch kind material members (found.bind (·.2.built))]
        (strokeEffects σ₀ s.device.limits scene kind members (found.bind (·.2.built)))
        ⟨library, d.stats.drawn (strokeRounds found) members.length⟩ s' ∧
      library.Ready s₀ s' ∧ s'.forget = s₁.forget ∧ s'.device.registers = s.device.registers.run
        (strokeCalls s.device.limits scene kind (members.map Member.object)
          (found.bind (·.2.built))) := by
  have hvertices : ∀ m ∈ members, m.object.vertices.isSome := fun m hm => (hmembers m hm).2
  obtain ⟨hrun, hstroke, -⟩ :=
    run_drawBatch_of_idle scene kind (members.map Member.object) hready.idle hfound
  rw [List.length_map] at hrun
  have hquiet := (hready.reached.manages_renderable h₀ hfound).quiet
  rw [hquiet.limits] at hrun hstroke
  obtain ⟨s', hs'⟩ : ∃ s', s' = s₁.applyAll (strokeEvents s.device.limits scene kind material
      (members.map Member.object) found) := ⟨_, rfl⟩
  rw [← hs'] at hrun
  have hwalk : Walk scene d s [.batch kind material members (found.bind (·.2.built))] _ s' :=
    .batch hfound hrun (.done _ s')
  have hready' := (hwalk.issues h₀ hready (List.forall_mem_singleton.mpr hvertices)).1
  have hdrawn : s'.device.calls.toList = s₁.device.calls.toList ++ strokeCalls s.device.limits scene
      kind (members.map Member.object) (found.bind (·.2.built)) := by
    rw [hs', Session.calls_applyAll, hstroke]
  refine ⟨s', hrun, ⟨hwalk, ?_, ?_, ?_⟩, hready', ?_, ?_⟩
  · refine BinCore.Draws.single _ hsuits fun m hm => ⟨(hmembers m hm).1, ?_⟩
    rw [BinCore.shows, (hsuits.2.1 m hm).1, Option.isSome_some, Bool.or_true]
  · rw [List.flatMap_singleton, labels_strokeEffects]
  · -- Asking the library binds nothing and draws nothing, so only the calls of the stroke count.
    obtain ⟨calls, hcalls, hc⟩ := hquiet.calls
    refine ⟨calls ++ _, by rw [hdrawn, hcalls, List.append_assoc], ?_⟩
    rw [Registers.draws_append, Registers.draws_of_isQuiet hc, Registers.run_of_isQuiet hc,
      List.nil_append, hrests.effects hvertices]
  · rw [hs']
    exact s₁.forget_applyAll_of_isQuiet _ fun c hc => isQuiet_stroke hc
  · rw [Device.registers_of_calls hdrawn, hquiet.registers_eq]

/-! ### In another order -/

theorem strokeEffects_singles_none :
    (members.flatMap fun m => strokeEffects σ₀ limits scene kind [m] none) = [] :=
  List.flatMap_eq_nil_iff.mpr fun _ _ => rfl

theorem strokeEffects_singles (b : BuiltMaterial) :
    (members.flatMap fun m => strokeEffects σ₀ limits scene kind [m] (some b)) =
      members.flatMap fun m => b.passes.map fun p =>
        (m.element, Form.effect σ₀ b limits scene kind p m.object) := by
  simp only [strokeEffects, List.map_singleton, ← List.map_eq_flatMap]

/-- Pass by pass or member by member, the effects are the same. -/
theorem perm_strokeEffects (built : Option BuiltMaterial) :
    (strokeEffects σ₀ limits scene kind members built).Perm
      (members.flatMap fun m => strokeEffects σ₀ limits scene kind [m] built) := by
  cases built with
  | none =>
      rw [strokeEffects_singles_none]
      exact .refl _
  | some b =>
      rw [strokeEffects_singles, ← Multiset.coe_eq_coe, strokeEffects]
      simp only [← Multiset.coe_bind, ← Multiset.map_coe]
      exact Multiset.bind_map_comm ..

/-- The material of a stroke has no more than one pass. -/
def Stroke.OnePass : Stroke → Prop
  | .batch _ _ _ (some b) => b.passes.length ≤ 1
  | _ => True

/-- With one pass, they are in the same order too. -/
theorem strokeEffects_eq_singles {built : Option BuiltMaterial}
    (h : Stroke.OnePass (.batch kind material members built)) :
    strokeEffects σ₀ limits scene kind members built =
      members.flatMap fun m => strokeEffects σ₀ limits scene kind [m] built := by
  cases built with
  | none => exact strokeEffects_singles_none.symm
  | some b =>
      have h : b.passes.length ≤ 1 := h
      rw [strokeEffects_singles, strokeEffects]
      match b.passes, h with
      | [], _ => exact (List.flatMap_eq_nil_iff.mpr fun _ _ => rfl).symm
      | [p], _ =>
          rw [List.flatMap_singleton, List.map_eq_flatMap]
          rfl

/-- Two drawings at the same point: the libraries are the same, the sessions differ in their records
only, and the same is bound. -/
structure Drawing.Level (d₁ : Drawing) (s₁ : Session) (d₂ : Drawing) (s₂ : Session) : Prop where
  library : d₁.library = d₂.library
  forget : s₁.forget = s₂.forget
  registers : s₁.device.registers = s₂.device.registers

/-- Two ways of drawing some elements, in batches and one by one, come to the same. -/
structure BinCore.Alike (c : BinCore) (arena : FrameArena Submission) (scene : Scene)
    (hook : Option Variant) (kind : BinKind) (elements : List BinElement)
    (d₁ : Drawing) (s₁ : Session) (d₁' : Drawing) (s₁' : Session)
    (d₂ : Drawing) (s₂ : Session) (d₂' : Drawing) (s₂' : Session) : Prop where
  /-- The same effects for the same elements; in the same order if no material has more than one
  pass. -/
  issues : ∃ strokes₁ effects₁ strokes₂ effects₂,
    c.Issues arena ⟨.batches, hook, kind⟩ scene elements d₁ s₁ strokes₁ effects₁ d₁' s₁' ∧
    c.Issues arena ⟨.singles, hook, kind⟩ scene elements d₂ s₂ strokes₂ effects₂ d₂' s₂' ∧
    effects₁.Perm effects₂ ∧ ((∀ stroke ∈ strokes₁, stroke.OnePass) → effects₁ = effects₂)
  draws : ∃ n, d₁'.stats.draws = d₁.stats.draws + n ∧ d₂'.stats.draws = d₂.stats.draws + n
  setups : ∃ n m, n ≤ m ∧
    d₁'.stats.setups = d₁.stats.setups + n ∧ d₂'.stats.setups = d₂.stats.setups + m
  /-- The two are at the same point again. -/
  level : d₁'.Level s₁' d₂' s₂'

/-! ### Groups -/

namespace BinCore

variable {hook : Option Variant} {batch : Bool} {e : BinElement} {o : Submission}
  {more : List Submission}

theorem renderRuns_head (hfind : arena.find e.handle = some o)
    (hmaterial : c.materialFor o hook = some material)
    (hmore : c.companions arena hook batch material elements = .ok more) :
    c.renderRuns arena scene hook kind batch (e :: elements) = (do
      drawBatch scene kind material (o :: more)
      c.renderRuns arena scene hook kind batch (elements.drop more.length)) := by
  rw [renderRuns_cons (FrameArena.get_eq_ok_iff.mpr hfind), hmaterial]
  simp only [hmore]
  rfl

theorem run_renderRuns_head (hfind : arena.find e.handle = some o)
    (hmaterial : c.materialFor o hook = some material)
    (hmore : c.companions arena hook batch material elements = .ok more)
    (hrun : ((drawBatch scene kind material (o :: more)).run d).run s = .ok (((), d'), s')) :
    ((c.renderRuns arena scene hook kind batch (e :: elements)).run d).run s =
      ((c.renderRuns arena scene hook kind batch (elements.drop more.length)).run d').run s' := by
  rw [renderRuns_head hfind hmaterial hmore]
  exact runs_bind hrun

/-- Objects of one material are drawn one by one, with what the library gives for it. -/
structure Singly (c : BinCore) (arena : FrameArena Submission) (scene : Scene)
    (hook : Option Variant) (kind : BinKind) (material : MaterialRef)
    (found : Option (FormPlace × Form)) (σ₀ : Registers) (limits : Limits) (members : List Member)
    (d : Drawing) (s : Session) (d' : Drawing) (s' : Session) : Prop where
  run : ∀ tail, ((c.renderRuns arena scene hook kind false
      (members.map Member.element ++ tail)).run d).run s =
    ((c.renderRuns arena scene hook kind false tail).run d').run s'
  issues : c.Issues arena ⟨.singles, hook, kind⟩ scene (members.map Member.element) d s
    (members.map fun m => .batch kind material [m] (found.bind (·.2.built)))
    (members.flatMap fun m => strokeEffects σ₀ limits scene kind [m] (found.bind (·.2.built))) d' s'
  registers : s'.device.registers = s.device.registers.run (members.flatMap fun m =>
    strokeCalls limits scene kind [m.object] (found.bind (·.2.built)))
  draws : d'.stats.draws = d.stats.draws + strokeRounds found * members.length
  setups : d'.stats.setups = d.stats.setups + strokeRounds found * members.length

namespace Singly

theorem nil (d : Drawing) (s : Session) :
    c.Singly arena scene hook kind material found σ₀ limits [] d s d s :=
  ⟨fun _ => rfl, .nil d s, rfl, rfl, rfl⟩

theorem append {members' : List Member}
    (h : c.Singly arena scene hook kind material found σ₀ limits members d s d₁ s₁)
    (h' : c.Singly arena scene hook kind material found σ₀ limits members' d₁ s₁ d' s') :
    c.Singly arena scene hook kind material found σ₀ limits (members ++ members') d s d' s' where
  run := by
    intro tail
    rw [List.map_append, List.append_assoc, h.run, h'.run]
  issues := by
    rw [List.map_append, List.map_append, List.flatMap_append]
    exact h.issues.append h'.issues
  registers := by
    rw [h'.registers, h.registers, List.flatMap_append, Registers.run_append]
  draws := by
    rw [h'.draws, h.draws, List.length_append, Nat.mul_add, Nat.add_assoc]
  setups := by
    rw [h'.setups, h.setups, List.length_append, Nat.mul_add, Nat.add_assoc]

end Singly

/-- One object, from what the library gives on. -/
theorem singly_one {m : Member} (h₀ : s₀.device.Owns others) (hready : d.library.Ready s₀ s)
    (hm : arena.find m.element.handle = some m.object ∧
      m.object.vertices.isSome ∧ c.materialFor m.object hook = some material)
    (hfound : (d.library.renderable material).run s = .ok ((found, library), s₁))
    (hlimits : s.device.limits = limits)
    (hrests : StrokeRests (found.bind (·.2.built)) limits scene kind σ₀ s.device.registers) :
    ∃ s', c.Singly arena scene hook kind material found σ₀ limits [m] d s
        ⟨library, d.stats.drawn (strokeRounds found) 1⟩ s' ∧
      library.Ready s₀ s' ∧ s'.forget = s₁.forget ∧ s'.device.limits = limits ∧
      StrokeRests (found.bind (·.2.built)) limits scene kind σ₀ s'.device.registers := by
  obtain ⟨hfind, hvertices, hmaterial⟩ := hm
  subst hlimits
  have hsuits : Stroke.Suits c ⟨.singles, hook, kind⟩
      (.batch kind material [m] (found.bind (·.2.built))) :=
    ⟨rfl, List.forall_mem_singleton.mpr ⟨hmaterial, nofun⟩, fun _ => rfl⟩
  obtain ⟨s', hrun, hissues, hready', hforget, hregisters⟩ := issues_stroke h₀ hready hsuits
    (List.forall_mem_singleton.mpr ⟨hfind, hvertices⟩) hfound hrests
  have hlimits : s'.device.limits = s.device.limits := by
    have hasked := (hready.reached.manages_renderable h₀ hfound).quiet.limits
    exact (congrArg (·.device.limits) hforget).trans hasked
  refine ⟨s', ⟨fun tail => run_renderRuns_head hfind hmaterial rfl hrun, ?_, ?_, rfl, ?_⟩,
    hready', hforget, hlimits, ?_⟩
  · rw [List.flatMap_singleton]
    exact hissues
  · rw [List.flatMap_singleton]
    exact hregisters
  · rw [List.length_singleton, Nat.mul_one]
    rfl
  · rw [hregisters]
    exact hrests.run (List.forall_mem_singleton.mpr hvertices)

/-- Objects of one material that is built already. -/
theorem singly_again (h₀ : s₀.device.Owns others)
    (hagain : ∀ t, (library.renderable material).run t = .ok ((found, library), t))
    (hmembers : ∀ m ∈ members, arena.find m.element.handle = some m.object ∧
      m.object.vertices.isSome ∧ c.materialFor m.object hook = some material)
    (hd : d.library = library) (hready : library.Ready s₀ s) (hlimits : s.device.limits = limits)
    (hrests : StrokeRests (found.bind (·.2.built)) limits scene kind σ₀ s.device.registers) :
    ∃ d' s', c.Singly arena scene hook kind material found σ₀ limits members d s d' s' ∧
      d'.library = library ∧ library.Ready s₀ s' ∧ s'.forget = s.forget := by
  induction members generalizing d s with
  | nil => exact ⟨d, s, .nil d s, hd, hready, rfl⟩
  | cons m rest ih =>
      obtain ⟨hfirst, hothers⟩ := List.forall_mem_cons.mp hmembers
      subst hd
      obtain ⟨s₁, hone, hready₁, hforget₁, hlimits₁, hrests₁⟩ :=
        singly_one h₀ hready hfirst (hagain s) hlimits hrests
      obtain ⟨d', s', hmore, hlibrary, hready', hforget⟩ := ih hothers
        (d := ⟨d.library, d.stats.drawn (strokeRounds found) 1⟩) rfl hready₁ hlimits₁ hrests₁
      exact ⟨d', s', hone.append hmore, hlibrary, hready', hforget.trans hforget₁⟩

/-- What a library gives does not depend on the record. -/
theorem oblivious_renderable (l : Library) (material : MaterialRef) :
    Oblivious (l.renderable material) := by
  have htrades : Trades (Device.Books {} 0) (l.renderable material) l.holdings
      fun r => r.2.holdings := Library.trades_renderable _ _
  exact htrades.oblivious

/-- The objects before the last one leave no trace. -/
theorem run_strokeCalls_eq_singles {built : Option BuiltMaterial} (hne : members ≠ [])
    (hvertices : ∀ m ∈ members, m.object.vertices.isSome) :
    σ.run (strokeCalls limits scene kind (members.map Member.object) built) =
      σ.run (members.flatMap fun m => strokeCalls limits scene kind [m.object] built) := by
  cases built with
  | none =>
      have hnil : (members.flatMap fun m => strokeCalls limits scene kind [m.object] none) = [] :=
        List.flatMap_eq_nil_iff.mpr fun _ _ => rfl
      rw [hnil]
      rfl
  | some b =>
      refine (Form.run_rounds_eq_singles (List.forall_mem_map.mpr hvertices)
        (List.map_eq_nil_iff.not.mpr hne)).trans ?_
      rw [List.flatMap_map]
      rfl

/-- **A group.**  Elements of one material that stand together come to the same. -/
theorem alike_group {m : Member} {rest : List Member} (scene : Scene) (kind : BinKind)
    (h₀ : s₀.device.Owns others)
    (hmembers : ∀ x ∈ m :: rest, arena.find x.element.handle = some x.object ∧
      x.object.vertices.isSome ∧ c.materialFor x.object hook = some material)
    (hready₁ : d₁.library.Ready s₀ s₁) (hready₂ : d₂.library.Ready s₀ s₂)
    (hlevel : d₁.Level s₁ d₂ s₂)
    (hfound : (d₁.library.renderable material).run s₁ = .ok ((found, library), s')) :
    ∃ d₁' s₁' d₂' s₂',
      ((drawBatch scene kind material ((m :: rest).map Member.object)).run d₁).run s₁ =
        .ok (((), d₁'), s₁') ∧
      (∀ tail, ((c.renderRuns arena scene hook kind false
          ((m :: rest).map Member.element ++ tail)).run d₂).run s₂ =
        ((c.renderRuns arena scene hook kind false tail).run d₂').run s₂') ∧
      c.Alike arena scene hook kind ((m :: rest).map Member.element) d₁ s₁ d₁' s₁' d₂ s₂ d₂' s₂' ∧
      d₁'.library.Ready s₀ s₁' ∧ d₂'.library.Ready s₀ s₂' := by
  have hobjects : ∀ x ∈ m :: rest,
      arena.find x.element.handle = some x.object ∧ x.object.vertices.isSome :=
    fun x hx => ⟨(hmembers x hx).1, (hmembers x hx).2.1⟩
  have hrests : StrokeRests (found.bind (·.2.built)) s₁.device.limits scene kind
      s₁.device.registers s₁.device.registers :=
    .refl hready₁.clear fun b hb => (furnished_of_renderable h₀ hready₁.reached hfound hb).2
  -- In batches: one stroke for all.
  have hsuits : Stroke.Suits c ⟨.batches, hook, kind⟩
      (.batch kind material (m :: rest) (found.bind (·.2.built))) :=
    ⟨rfl, fun x hx => ⟨(hmembers x hx).2.2, nofun⟩, fun h => absurd rfl h⟩
  obtain ⟨s₁', hrun₁, hissues₁, hready₁', hforget₁, hregisters₁⟩ :=
    issues_stroke h₀ hready₁ hsuits hobjects hfound hrests
  -- One by one: the first builds the material, and the others find it built.
  obtain ⟨t, hfound₂, ht⟩ := (oblivious_renderable _ material).of_ok hlevel.forget hfound
  rw [hlevel.library] at hfound₂
  have hlimits : s₂.device.limits = s₁.device.limits :=
    congrArg (·.device.limits) hlevel.forget.symm
  obtain ⟨hfirst, hothers⟩ := List.forall_mem_cons.mp hmembers
  have hrests₂ : StrokeRests (found.bind (·.2.built)) s₁.device.limits scene kind
      s₁.device.registers s₂.device.registers := by
    rw [← hlevel.registers]
    exact hrests
  obtain ⟨s₃, hone, hready₃, hforget₃, hlimits₃, hrests₃⟩ :=
    singly_one h₀ hready₂ hfirst hfound₂ hlimits hrests₂
  obtain ⟨d₂', s₂', hmore, hlibrary, hready₂', hforget₂⟩ :=
    singly_again h₀ (Library.renderable_again hfound₂) hothers
      (d := ⟨library, d₂.stats.drawn (strokeRounds found) 1⟩) rfl hready₃ hlimits₃ hrests₃
  have hsingles := hone.append hmore
  refine ⟨_, s₁', d₂', s₂', hrun₁, hsingles.run, ⟨⟨_, _, _, _, hissues₁, hsingles.issues,
    perm_strokeEffects _, fun h => ?_⟩, ⟨_, rfl, hsingles.draws⟩, ?_, ?_⟩, hready₁',
    hlibrary ▸ hready₂'⟩
  · exact strokeEffects_eq_singles (List.forall_mem_singleton.mp h)
  · exact ⟨strokeRounds found, strokeRounds found * (m :: rest).length,
      Nat.le_mul_of_pos_right _ (Nat.succ_pos _), rfl, hsingles.setups⟩
  · refine ⟨hlibrary.symm, hforget₁.trans (ht.trans (hforget₂.trans hforget₃).symm), ?_⟩
    rw [hregisters₁, hsingles.registers, ← hlevel.registers]
    exact run_strokeCalls_eq_singles (List.cons_ne_nil m rest) fun x hx => (hobjects x hx).2

/-! ### All elements -/

theorem Alike.append {e₁ e₂ : Drawing} {t₁ t₂ : Session}
    (h : c.Alike arena scene hook kind elements d₁ s₁ e₁ t₁ d₂ s₂ e₂ t₂)
    (h' : c.Alike arena scene hook kind elements' e₁ t₁ d₁' s₁' e₂ t₂ d₂' s₂') :
    c.Alike arena scene hook kind (elements ++ elements') d₁ s₁ d₁' s₁' d₂ s₂ d₂' s₂' := by
  obtain ⟨strokes₁, effects₁, strokes₂, effects₂, hbatches, hsingles, hperm, horder⟩ := h.issues
  obtain ⟨strokes₁', effects₁', strokes₂', effects₂', hbatches', hsingles', hperm', horder'⟩ :=
    h'.issues
  obtain ⟨n, hn₁, hn₂⟩ := h.draws
  obtain ⟨n', hn₁', hn₂'⟩ := h'.draws
  obtain ⟨k, m, hkm, hk, hm⟩ := h.setups
  obtain ⟨k', m', hkm', hk', hm'⟩ := h'.setups
  refine ⟨⟨_, _, _, _, hbatches.append hbatches', hsingles.append hsingles', hperm.append hperm',
    fun hone => ?_⟩, ⟨n + n', ?_, ?_⟩, ⟨k + k', m + m', Nat.add_le_add hkm hkm', ?_, ?_⟩, h'.level⟩
  · rw [horder fun stroke hs => hone stroke (List.mem_append_left _ hs),
      horder' fun stroke hs => hone stroke (List.mem_append_right _ hs)]
  · rw [hn₁', hn₁, Nat.add_assoc]
  · rw [hn₂', hn₂, Nat.add_assoc]
  · rw [hk', hk, Nat.add_assoc]
  · rw [hm', hm, Nat.add_assoc]

/-- Two runs that draw nothing for some elements. -/
theorem Alike.of_nothing
    (h₁ : c.Issues arena ⟨.batches, hook, kind⟩ scene elements d₁ s₁ [] [] d₁ s₁)
    (h₂ : c.Issues arena ⟨.singles, hook, kind⟩ scene elements d₂ s₂ [] [] d₂ s₂)
    (hlevel : d₁.Level s₁ d₂ s₂) : c.Alike arena scene hook kind elements d₁ s₁ d₁ s₁ d₂ s₂ d₂ s₂ :=
  ⟨⟨[], [], [], [], h₁, h₂, .refl _, fun _ => rfl⟩, ⟨0, rfl, rfl⟩, ⟨0, 0, le_rfl, rfl, rfl⟩, hlevel⟩

/-- An element without a material is passed over. -/
theorem Issues.skip {mode : DrawMode} (hmode : mode ≠ .each) (hfind : arena.find e.handle = some o)
    (hmaterial : c.materialFor o hook = none) (d : Drawing) (s : Session) :
    c.Issues arena ⟨mode, hook, kind⟩ scene [e] d s [] [] d s where
  walk := .done d s
  draws := by
    refine Draws.skip hfind ?_
    rw [shows, hmaterial, beq_eq_false_iff_ne.mpr hmode]
    rfl
  labels := rfl
  effects := ⟨[], (List.append_nil _).symm, rfl⟩

/-- The elements that are drawn together with the one before them, and those after. -/
theorem exists_group
    (helements : ∀ e ∈ elements, ∃ o, arena.find e.handle = some o ∧ o.vertices.isSome)
    (hook : Option Variant) (material : MaterialRef) :
    ∃ (members : List Member) (tail : List BinElement),
      c.companions arena hook true material elements = .ok (members.map Member.object) ∧
      tail = elements.drop (members.map Member.object).length ∧
      elements = members.map Member.element ++ tail ∧
      ∀ m ∈ members, arena.find m.element.handle = some m.object ∧
        m.object.vertices.isSome ∧ c.materialFor m.object hook = some material := by
  obtain ⟨more, hmore⟩ := exists_companions (c := c)
    (fun e he => (helements e he).imp fun _ h => h.1) hook true material
  obtain ⟨members, rfl, htake, hmembers⟩ := of_sameMaterial hmore
  refine ⟨members, _, hmore, rfl, by rw [htake, List.take_append_drop], fun m hm => ?_⟩
  obtain ⟨hfind, hmaterial⟩ := hmembers m hm
  have hmem : m.element ∈ elements := List.mem_of_mem_take (htake ▸ List.mem_map_of_mem hm)
  obtain ⟨o, ho, hvertices⟩ := helements m.element hmem
  obtain rfl := Option.some.inj (hfind.symm.trans ho)
  exact ⟨hfind, hvertices, hmaterial⟩

/-- Drawing elements in batches, from one point, and one by one, from another, come to the same, or
fail alike. -/
def Agrees (c : BinCore) (arena : FrameArena Submission) (scene : Scene) (hook : Option Variant)
    (kind : BinKind) (elements : List BinElement) (d₁ : Drawing) (s₁ : Session) (d₂ : Drawing)
    (s₂ : Session) : Prop :=
  (∃ fault, ((c.renderRuns arena scene hook kind true elements).run d₁).run s₁ = .error fault ∧
    ((c.renderRuns arena scene hook kind false elements).run d₂).run s₂ = .error fault) ∨
  ∃ d₁' s₁' d₂' s₂',
    ((c.renderRuns arena scene hook kind true elements).run d₁).run s₁ = .ok (((), d₁'), s₁') ∧
    ((c.renderRuns arena scene hook kind false elements).run d₂).run s₂ = .ok (((), d₂'), s₂') ∧
    c.Alike arena scene hook kind elements d₁ s₁ d₁' s₁' d₂ s₂ d₂' s₂'

/-- Two runs side by side agree if they agree on the first elements, and from then on. -/
theorem Agrees.prepend {head tail : List BinElement} {e₁ e₂ : Drawing} {t₁ t₂ : Session}
    (h₁ : ((c.renderRuns arena scene hook kind true (head ++ tail)).run d₁).run s₁ =
      ((c.renderRuns arena scene hook kind true tail).run e₁).run t₁)
    (h₂ : ((c.renderRuns arena scene hook kind false (head ++ tail)).run d₂).run s₂ =
      ((c.renderRuns arena scene hook kind false tail).run e₂).run t₂)
    (halike : c.Alike arena scene hook kind head d₁ s₁ e₁ t₁ d₂ s₂ e₂ t₂)
    (h : c.Agrees arena scene hook kind tail e₁ t₁ e₂ t₂) :
    c.Agrees arena scene hook kind (head ++ tail) d₁ s₁ d₂ s₂ := by
  rcases h with ⟨fault, herror₁, herror₂⟩ | ⟨d₁', s₁', d₂', s₂', hrun₁, hrun₂, halike'⟩
  · exact .inl ⟨fault, h₁.trans herror₁, h₂.trans herror₂⟩
  · exact .inr ⟨d₁', s₁', d₂', s₂', h₁.trans hrun₁, h₂.trans hrun₂, halike.append halike'⟩

/-- **Side by side.**  Two runs from the same point agree. -/
theorem agrees (h₀ : s₀.device.Owns others)
    (helements : ∀ e ∈ elements, ∃ o, arena.find e.handle = some o ∧ o.vertices.isSome)
    (hready₁ : d₁.library.Ready s₀ s₁) (hready₂ : d₂.library.Ready s₀ s₂)
    (hlevel : d₁.Level s₁ d₂ s₂) : c.Agrees arena scene hook kind elements d₁ s₁ d₂ s₂ := by
  induction elements using group_induction generalizing d₁ s₁ d₂ s₂ with
  | nil =>
      refine .inr ⟨d₁, s₁, d₂, s₂, ?_, ?_, .of_nothing (.nil d₁ s₁) (.nil d₂ s₂) hlevel⟩
      · rw [renderRuns]
        rfl
      · rw [renderRuns]
        rfl
  | cons e rest ih =>
      obtain ⟨⟨o, hfind, hvertices⟩, hrest⟩ := List.forall_mem_cons.mp helements
      cases hmaterial : c.materialFor o hook with
      | none =>
          have hskip (batch : Bool) (d : Drawing) (s : Session) :
              ((c.renderRuns arena scene hook kind batch (e :: rest)).run d).run s =
                ((c.renderRuns arena scene hook kind batch rest).run d).run s := by
            rw [renderRuns_cons (FrameArena.get_eq_ok_iff.mpr hfind), hmaterial]
          have halike : c.Alike arena scene hook kind [e] d₁ s₁ d₁ s₁ d₂ s₂ d₂ s₂ :=
            .of_nothing (.skip DrawMode.noConfusion hfind hmaterial d₁ s₁)
              (.skip DrawMode.noConfusion hfind hmaterial d₂ s₂) hlevel
          exact Agrees.prepend (hskip true d₁ s₁) (hskip false d₂ s₂) halike
            (ih 0 hrest hready₁ hready₂ hlevel)
      | some material =>
          obtain ⟨members, tail, hmore₁, htail, hsplit, hmembers⟩ :=
            exists_group (c := c) hrest hook material
          have hmore₂ : c.companions arena hook false material rest = .ok [] := rfl
          cases hfound : (d₁.library.renderable material).run s₁ with
          | error fault =>
              -- Neither gets past the first element.
              have hfound₂ := (oblivious_renderable _ material).of_error hlevel.forget hfound
              rw [hlevel.library] at hfound₂
              refine .inl ⟨fault, ?_, ?_⟩
              · rw [renderRuns_head hfind hmaterial hmore₁]
                exact runs_bind_of_error (drawBatch_of_error hfound)
              · rw [renderRuns_head hfind hmaterial hmore₂]
                exact runs_bind_of_error (drawBatch_of_error hfound₂)
          | ok r =>
              obtain ⟨⟨found, library⟩, s'⟩ := r
              have hgroup : ∀ x ∈ (⟨e, o⟩ :: members : List Member),
                  arena.find x.element.handle = some x.object ∧
                    x.object.vertices.isSome ∧ c.materialFor x.object hook = some material :=
                List.forall_mem_cons.mpr ⟨⟨hfind, hvertices, hmaterial⟩, hmembers⟩
              obtain ⟨d₁', s₁', d₂', s₂', hrun₁, hrun₂, halike, hready₁', hready₂'⟩ :=
                alike_group scene kind h₀ hgroup hready₁ hready₂ hlevel hfound
              have hall : e :: rest =
                  (⟨e, o⟩ :: members : List Member).map Member.element ++ tail := by
                rw [List.map_cons, List.cons_append, ← hsplit]
              have hbatch := run_renderRuns_head hfind hmaterial hmore₁ hrun₁
              rw [← htail, hall] at hbatch
              have hagrees : c.Agrees arena scene hook kind tail d₁' s₁' d₂' s₂' := by
                rw [htail]
                exact ih _ (fun x hx => hrest x (List.mem_of_mem_drop hx)) hready₁' hready₂'
                  halike.level
              rw [hall]
              exact Agrees.prepend hbatch (hrun₂ tail) halike hagrees

/-- Drawing some objects with a material ends without a fault. -/
theorem exists_run_drawBatch {position : UInt32} (hr : d.library.context.registry = .builtin)
    (hposition : material.id.position = .ok position) (scene : Scene) (kind : BinKind)
    (objects : List Submission) (s : Session) :
    ∃ d' s', ((drawBatch scene kind material objects).run d).run s = .ok (((), d'), s') ∧
      d'.library.context = d.library.context := by
  obtain ⟨found, library, s₁, hfound⟩ := Library.exists_run_renderable hr hposition s
  obtain ⟨library', hrewound, hrun⟩ := run_drawBatch scene kind objects hfound
  have hcontext := Library.context_renderable hfound
  refine ⟨_, _, hrun, ?_⟩
  cases found with
  | none =>
      cases hrewound
      exact hcontext
  | some found =>
      have hat := (Library.at_of_renderable hfound).1
      exact (Library.at_setForm hat hrewound).2.trans hcontext

/-- With the built-in features, drawing elements ends without a fault, if every element has an
object and the handle of its material names a position. -/
theorem exists_run_renderRuns (hr : d.library.context.registry = .builtin)
    (helements : ∀ e ∈ elements, ∃ o, arena.find e.handle = some o ∧
      ∀ material, c.materialFor o hook = some material →
        ∃ position, material.id.position = .ok position) (batch : Bool) (s : Session) :
    ∃ d' s', ((c.renderRuns arena scene hook kind batch elements).run d).run s =
      .ok (((), d'), s') := by
  induction elements using group_induction generalizing d s with
  | nil =>
      rw [renderRuns]
      exact ⟨d, s, rfl⟩
  | cons e rest ih =>
      obtain ⟨⟨o, hfind, hpositions⟩, hrest⟩ := List.forall_mem_cons.mp helements
      cases hmaterial : c.materialFor o hook with
      | none =>
          rw [renderRuns_cons (FrameArena.get_eq_ok_iff.mpr hfind), hmaterial]
          exact ih 0 hr hrest s
      | some material =>
          obtain ⟨position, hposition⟩ := hpositions material hmaterial
          obtain ⟨more, hmore⟩ := exists_companions (c := c)
            (fun x hx => (hrest x hx).imp fun _ h => h.1) hook batch material
          obtain ⟨d₁, s₁, hrun, hcontext⟩ :=
            exists_run_drawBatch hr hposition scene kind (o :: more) s
          rw [run_renderRuns_head hfind hmaterial hmore hrun]
          exact ih _ (hcontext ▸ hr) (fun x hx => hrest x (List.mem_of_mem_drop hx)) s₁

/-- **Batches.**  If no texture is bound and no pass is set up at first, and all elements have
vertices, drawing them in batches and one by one comes to the same.  With the built-in features, and
handles of materials that name positions, neither fails. -/
theorem batches_agree (howns : s₀.device.Owns others)
    (hvertices : ∀ e ∈ c.elements, ∃ o, arena.find e.handle = some o ∧ o.vertices.isSome)
    (hready : d.library.Ready s₀ s) :
    c.Agrees arena scene hook kind c.elements d s d s ∧
      (d.library.context.registry = .builtin →
        (∀ e ∈ c.elements, ∀ o, arena.find e.handle = some o → ∀ material,
          c.materialFor o hook = some material → ∃ position, material.id.position = .ok position) →
        ∀ batch, ∃ d' s', ((c.renderRuns arena scene hook kind batch c.elements).run d).run s =
          .ok (((), d'), s')) := by
  refine ⟨agrees howns hvertices hready hready ⟨rfl, rfl, rfl⟩, fun hr hpositions batch => ?_⟩
  refine exists_run_renderRuns hr (fun e he => ?_) batch s
  obtain ⟨o, hfind, -⟩ := hvertices e he
  exact ⟨o, hfind, hpositions e he o hfind⟩

/-! ### Two meshes of one material -/

/-- A material of two passes, if there are three texture slots.  The second pass has a texture more.
-/
def layered : Material where
  name := "layered"
  stages := [{ diffuseMap := some "lower", emissive := true },
    { diffuseMap := some "upper", overlayMap := some "shade", emissive := true }]
  fog := false

/-- Two meshes of a material. -/
def meshes (id : Slot) : FrameArena Submission where
  items := #[{ kind := .mesh, material := some id, vertices := some ⟨1⟩, range := .triangles 0 3 },
    { kind := .mesh, material := some id, vertices := some ⟨2⟩, range := .triangles 3 3 }]

/-- A bin that holds them. -/
def meshBin : BinCore where
  name := "meshes"
  renderOrder := 1
  addOrder := 1
  kinds := [.mesh]
  elements := [⟨⟨0, 0⟩, 0, 1, 0⟩, ⟨⟨0, 1⟩, 0, 2, 0⟩]

theorem vertices_of_meshes (id : Slot) : ∀ e ∈ meshBin.elements,
    ∃ o, (meshes id).find e.handle = some o ∧ o.vertices.isSome :=
  List.forall_mem_cons.mpr ⟨⟨_, rfl, rfl⟩, List.forall_mem_singleton.mpr ⟨_, rfl, rfl⟩⟩

/-- A session with three texture slots. -/
def threeSlots : Session := { device := { limits := { textureSlots := 3 } } }

theorem owns_threeSlots : threeSlots.device.Owns 0 :=
  Device.owns_default.adjusts ⟨rfl, rfl, rfl, [], rfl, fun _ h => absurd h List.not_mem_nil⟩

/-- In batches, each of the two passes is set up once. -/
theorem batches_agree_two_meshes : ∃ (id : Slot) (l : Library) (s : Session) (d₁ : Drawing)
    (s₁ : Session), threeSlots.device.Owns 0 ∧
      (∀ e ∈ meshBin.elements, ∃ o, (meshes id).find e.handle = some o ∧ o.vertices.isSome) ∧
      l.Ready threeSlots s ∧
      ((meshBin.renderRuns (meshes id) {} none .regular true meshBin.elements).run ⟨l, {}⟩).run s =
        .ok (((), d₁), s₁) ∧ d₁.stats.draws = 4 ∧ d₁.stats.setups = 2 ∧
      meshBin.Agrees (meshes id) {} none .regular meshBin.elements ⟨l, {}⟩ s ⟨l, {}⟩ s := by
  have hcheck : (StateT.run (do
      let l₀ ← Library.new .builtin {}
      let created ← l₀.create layered .positionNormalUv
      let s ← get
      let drawn ← (meshBin.renderRuns (meshes created.1) {} none .regular true
        meshBin.elements).run ⟨created.2, {}⟩
      return (s.device.calls, drawn.2.stats) : Action (Array Call × FrameStats))
        threeSlots).toOption.any (fun r => r.1.1.toList.all Call.isQuiet &&
          (r.1.2.draws == 4 && r.1.2.setups == 2)) = true := by
    decide +kernel
  obtain ⟨⟨⟨calls, stats⟩, _⟩, hrun, hgood⟩ := exists_of_any_toOption hcheck
  obtain ⟨hquiet, hstats⟩ := Bool.and_eq_true_iff.mp hgood
  obtain ⟨hdraws, hsetups⟩ := Bool.and_eq_true_iff.mp hstats
  obtain ⟨l₀, s₀, hnew, hrun₁⟩ := of_run_bind hrun
  obtain ⟨⟨id, l⟩, s, hcreate, hrun₂⟩ := of_run_bind hrun₁
  obtain ⟨_, _, hget, hrun₃⟩ := of_run_bind hrun₂
  obtain ⟨rfl, rfl⟩ := Prod.mk.inj (Except.ok.inj hget)
  obtain ⟨⟨_, d₁⟩, s₁, hbatches, hrun₄⟩ := of_run_bind hrun₃
  obtain ⟨hvalues, -⟩ := Prod.mk.inj (Except.ok.inj hrun₄)
  obtain ⟨rfl, rfl⟩ := Prod.mk.inj hvalues
  have hready : l.Ready threeSlots s := {
    reached := .create (.new hnew) hcreate
    idle := (Library.idle_new hnew).create (Library.Reached.new hnew).valid hcreate
    clear := by
      rw [Device.registers, Registers.run_of_isQuiet (List.all_eq_true.mp hquiet)]
      exact Registers.clear_unset }
  exact ⟨id, l, s, d₁, s₁, owns_threeSlots, vertices_of_meshes id, hready, hbatches,
    beq_iff_eq.mp hdraws, beq_iff_eq.mp hsetups,
    (batches_agree owns_threeSlots (vertices_of_meshes id) hready).1⟩

/-- What is drawn from one session to another. -/
def effectsBetween (s s' : Session) : List Effect :=
  (s.device.registers.draws (s'.device.calls.toList.drop s.device.calls.toList.length)).map
    Drawn.effect

theorem Issues.effectsBetween {strokes : List Stroke} {effects : List (BinElement × Effect)}
    (h : c.Issues arena rule scene elements d s strokes effects d' s') :
    effects.map Prod.snd = effectsBetween s s' := by
  obtain ⟨calls, hcalls, heffects⟩ := h.effects
  rw [heffects, BinCore.effectsBetween, hcalls, List.drop_left]

/-- The same is drawn, in some order. -/
theorem Alike.perm_effectsBetween
    (h : c.Alike arena scene hook kind elements d₁ s₁ d₁' s₁' d₂ s₂ d₂' s₂') :
    (BinCore.effectsBetween s₁ s₁').Perm (BinCore.effectsBetween s₂ s₂') := by
  obtain ⟨_, _, _, _, hbatches, hsingles, hperm, -⟩ := h.issues
  rw [← hbatches.effectsBetween, ← hsingles.effectsBetween]
  exact hperm.map Prod.snd

/-- A texture that was left in a slot when the drawing begins tells them apart.  The first pass does
not bind that slot.  In batches it is drawn with the texture for both meshes; one by one, the second
pass has taken the texture off when the second mesh is drawn. -/
theorem not_agrees_of_texture_left : ∃ (id : Slot) (l : Library) (s : Session),
    threeSlots.device.Owns 0 ∧
      (∀ e ∈ meshBin.elements, ∃ o, (meshes id).find e.handle = some o ∧ o.vertices.isSome) ∧
      Library.Reached threeSlots l s ∧ l.Idle ∧
      ¬ meshBin.Agrees (meshes id) {} none .regular meshBin.elements ⟨l, {}⟩ s ⟨l, {}⟩ s := by
  have hcheck : (StateT.run (do
      let l₀ ← Library.new .builtin {}
      let created ← l₀.create layered .positionNormalUv
      let built ← created.2.renderable ⟨created.1, none⟩
      perform [.call (.setTexture 1 (some ⟨2⟩))]
      let s ← get
      let _ ← (meshBin.renderRuns (meshes created.1) {} none .regular true
        meshBin.elements).run ⟨built.2, {}⟩
      let s₁ ← get
      set s
      let _ ← (meshBin.renderRuns (meshes created.1) {} none .regular false
        meshBin.elements).run ⟨built.2, {}⟩
      let s₂ ← get
      return (effectsBetween s s₁, effectsBetween s s₂) : Action (List Effect × List Effect))
        threeSlots).toOption.any (fun r => r.1.1.all (fun e => (e.textures 1).isSome) &&
          r.1.2.any fun e => (e.textures 1).isNone) = true := by
    decide +kernel
  obtain ⟨⟨⟨batches, singles⟩, _⟩, hrun, hgood⟩ := exists_of_any_toOption hcheck
  obtain ⟨hbatches, hsingles⟩ := Bool.and_eq_true_iff.mp hgood
  obtain ⟨l₀, s₀, hnew, hrun₁⟩ := of_run_bind hrun
  obtain ⟨⟨id, l₁⟩, _, hcreate, hrun₂⟩ := of_run_bind hrun₁
  obtain ⟨⟨_, l⟩, t, hrenderable, hrun₃⟩ := of_run_bind hrun₂
  obtain ⟨_, _, hperform, hrun₄⟩ := of_run_bind hrun₃
  obtain ⟨-, rfl⟩ := Prod.mk.inj (Except.ok.inj hperform)
  obtain ⟨s, _, hget, hrun₅⟩ := of_run_bind hrun₄
  obtain ⟨hs, rfl⟩ := Prod.mk.inj (Except.ok.inj hget)
  obtain ⟨⟨_, d₁⟩, s₁, hrunBatches, hrun₆⟩ := of_run_bind hrun₅
  obtain ⟨_, _, hget, hrun₇⟩ := of_run_bind hrun₆
  obtain ⟨rfl, rfl⟩ := Prod.mk.inj (Except.ok.inj hget)
  obtain ⟨_, _, hset, hrun₈⟩ := of_run_bind hrun₇
  obtain ⟨-, rfl⟩ := Prod.mk.inj (Except.ok.inj hset)
  obtain ⟨⟨_, d₂⟩, s₂, hrunSingles, hrun₉⟩ := of_run_bind hrun₈
  obtain ⟨_, _, hget, hrun₁₀⟩ := of_run_bind hrun₉
  obtain ⟨rfl, rfl⟩ := Prod.mk.inj (Except.ok.inj hget)
  obtain ⟨hvalues, -⟩ := Prod.mk.inj (Except.ok.inj hrun₁₀)
  obtain ⟨rfl, rfl⟩ := Prod.mk.inj hvalues
  -- The texture is put on without the library, which does not notice.
  rw [hs] at hrunBatches
  have hcreated : Library.Reached threeSlots l₁ _ := .create (.new hnew) hcreate
  have hreached : Library.Reached threeSlots l s := by
    rw [← hs]
    exact (hcreated.renderable hrenderable).adjusts
      (t.adjusts_applyAll _ (List.forall_mem_singleton.mpr rfl))
  have hidle₁ : l₁.Idle :=
    (Library.idle_new hnew).create (Library.Reached.new hnew).valid hcreate
  have hidle : l.Idle := hidle₁.renderable hrenderable
  refine ⟨id, l, s, owns_threeSlots, vertices_of_meshes id, hreached, hidle, fun hagrees => ?_⟩
  rcases hagrees with ⟨fault, herror, -⟩ | ⟨d₁', s₁', d₂', s₂', hrun₁', hrun₂', halike⟩
  · cases hrunBatches.symm.trans herror
  · cases hrunBatches.symm.trans hrun₁'
    cases hrunSingles.symm.trans hrun₂'
    obtain ⟨e, he, hnone⟩ := List.any_eq_true.mp hsingles
    have hsome := List.all_eq_true.mp hbatches e (halike.perm_effectsBetween.mem_iff.mpr he)
    rw [Option.isNone_iff_eq_none.mp hnone] at hsome
    cases hsome

end BinCore

end MaterialPipeline
