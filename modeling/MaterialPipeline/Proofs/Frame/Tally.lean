import MaterialPipeline.Proofs.Frame.Claims
import MaterialPipeline.Proofs.Frame.Drawn
import MaterialPipeline.Proofs.Material.Answers

/-!
# Proofs — Frame — Tally

What a frame draws, in numbers.  The counts are raised where something is drawn, in batches and by
objects that draw themselves; the calls tell what was drawn.

* `Walk.tallied`: along a chain of strokes the counts follow the calls, and the library still gives
what it gave.
* `BinCore.Share`: what an element of a bin draws, by what the library gives for its material.
* `BinCore.exists_shares`: the strokes of a bin are the shares of its elements, in some order.
* `Pipeline.Steady.tallies`: what is answered at the end of a frame.
-/

namespace MaterialPipeline

open MaterialPipeline.Action

variable {scene : Scene} {limits : Limits} {kind : BinKind} {material : MaterialRef}
  {d d₁ d' : Drawing} {s s₁ s' s₀ : Session} {library : Library}
  {found : Option (FormPlace × Form)} {others : Multiset Object} {calls calls' : List Call}

/-! ### Draws among calls -/

namespace Call

/-- What a call draws. -/
def range? : Call → Option PrimitiveRange
  | draw range => some range
  | _ => none

/-- The program that a call sets. -/
def program? : Call → Option ProgramHandle
  | setProgram h => some h
  | _ => none

end Call

/-- What some calls draw. -/
def rangesOf (calls : List Call) : List PrimitiveRange :=
  calls.filterMap Call.range?

/-- The programs that some calls set: one for every pass that is set up. -/
def programsOf (calls : List Call) : List ProgramHandle :=
  calls.filterMap Call.program?

theorem rangesOf_append (a b : List Call) : rangesOf (a ++ b) = rangesOf a ++ rangesOf b :=
  List.filterMap_append

theorem programsOf_append (a b : List Call) : programsOf (a ++ b) = programsOf a ++ programsOf b :=
  List.filterMap_append

/-- The calls draw nothing and set no pass up. -/
def Idly (calls : List Call) : Prop :=
  ∀ c ∈ calls, c.range? = none ∧ c.program? = none

theorem Idly.ranges (h : Idly calls) : rangesOf calls = [] :=
  List.filterMap_eq_nil_iff.mpr fun c hc => (h c hc).1

theorem Idly.programs (h : Idly calls) : programsOf calls = [] :=
  List.filterMap_eq_nil_iff.mpr fun c hc => (h c hc).2

theorem idly_of_isQuiet (h : ∀ c ∈ calls, c.isQuiet = true) : Idly calls := by
  intro c hc
  have hquiet := h c hc
  cases c <;> first | exact ⟨rfl, rfl⟩ | cases hquiet

namespace Form

variable {b : BuiltMaterial} {p : Pass} {objects : List Submission} {o : Submission}

theorem idly_bindCalls : Idly (bindCalls b scene kind p o) := by
  intro c hc
  rcases mem_bindCalls hc with ⟨_, _, rfl⟩ | ⟨_, _, rfl⟩ | ⟨_, _, rfl⟩ | rfl <;> exact ⟨rfl, rfl⟩

theorem idly_cleanup : Idly (callsOf (BuiltMaterial.cleanup p)) := by
  intro c hc
  rw [BuiltMaterial.cleanup, callsOf_map_call] at hc
  obtain ⟨binding, -, rfl⟩ := List.mem_map.mp hc
  exact ⟨rfl, rfl⟩

/-- A round sets one pass up and draws every object once. -/
theorem tally_round (b : BuiltMaterial) (limits : Limits) (scene : Scene) (kind : BinKind)
    (objects : List Submission) (p : Pass) :
    rangesOf (callsOf (roundEvents b limits scene kind objects p)) = objects.map (·.range) ∧
      programsOf (callsOf (roundEvents b limits scene kind objects p)) = [p.program] := by
  have hsetup : Idly ([.setState (p.state (b.conditions limits scene { bin := kind }))] ++
      callsOf (p.constants.uploadAll p.program (b.animationValues scene p))) := by
    intro c hc
    rcases List.mem_append.mp hc with hc | hc
    · obtain rfl := List.mem_singleton.mp hc
      exact ⟨rfl, rfl⟩
    · obtain ⟨_, _, rfl⟩ := mem_uploadAll hc
      exact ⟨rfl, rfl⟩
  have hobjects : rangesOf (callsOf (objects.flatMap (objectEvents b scene kind p))) =
        objects.map (·.range) ∧
      programsOf (callsOf (objects.flatMap (objectEvents b scene kind p))) = [] := by
    induction objects with
    | nil => exact ⟨rfl, rfl⟩
    | cons o rest ih =>
        obtain ⟨hranges, hprograms⟩ := ih
        rw [List.flatMap_cons, callsOf_append, callsOf_objectEvents, rangesOf_append,
          programsOf_append, rangesOf_append, programsOf_append, idly_bindCalls.ranges,
          idly_bindCalls.programs, hranges, hprograms]
        exact ⟨rfl, rfl⟩
  rw [callsOf_roundEvents, setupCalls_eq, rangesOf_append, programsOf_append, rangesOf_append,
    programsOf_append, rangesOf_append, programsOf_append, hsetup.ranges, hsetup.programs,
    hobjects.1, hobjects.2, idly_cleanup.ranges, idly_cleanup.programs, List.append_nil]
  exact ⟨rfl, rfl⟩

end Form

/-! ### Draws of strokes -/

/-- The passes of what is built. -/
def passesOf (built : Option BuiltMaterial) : List Pass :=
  (built.map (·.passes)).getD []

namespace Stroke

/-- What a stroke draws. -/
def ranges : Stroke → List PrimitiveRange
  | batch _ _ members built => (passesOf built).flatMap fun _ => members.map (·.object.range)
  | delegate _ ranges => ranges

/-- How often a stroke sets a pass up. -/
def rounds : Stroke → Nat
  | batch _ _ _ built => (passesOf built).length
  | delegate _ _ => 0

/-- What a stroke draws for one of its elements. -/
def share : Stroke → Member → List PrimitiveRange
  | batch _ _ _ built, m => (passesOf built).map fun _ => m.object.range
  | delegate _ ranges, _ => ranges

/-- A stroke goes over its elements pass by pass, and so draws the shares of all of them. -/
theorem perm_ranges (stroke : Stroke) :
    stroke.ranges.Perm (stroke.members.flatMap stroke.share) := by
  cases stroke with
  | delegate member ranges => exact .of_eq (List.append_nil ranges).symm
  | batch kind material members built =>
      refine Multiset.coe_eq_coe.mp ?_
      simp only [ranges, Stroke.members, share, ← Multiset.coe_bind, ← Multiset.map_coe]
      exact Multiset.bind_map_comm _ _

end Stroke

/-- The calls of a stroke with a material draw what the stroke draws. -/
theorem tally_strokeCalls (limits : Limits) (scene : Scene) (kind : BinKind)
    (material : MaterialRef) (members : List Member) (built : Option BuiltMaterial) :
    rangesOf (strokeCalls limits scene kind (members.map Member.object) built) =
        (Stroke.batch kind material members built).ranges ∧
      (programsOf (strokeCalls limits scene kind (members.map Member.object) built)).length =
        (Stroke.batch kind material members built).rounds := by
  have hpasses (b : BuiltMaterial) (passes : List Pass) :
      rangesOf (callsOf (passes.flatMap
          (Form.roundEvents b limits scene kind (members.map Member.object)))) =
        passes.flatMap (fun _ => members.map (·.object.range)) ∧
      (programsOf (callsOf (passes.flatMap
          (Form.roundEvents b limits scene kind (members.map Member.object))))).length =
        passes.length := by
    induction passes with
    | nil => exact ⟨rfl, rfl⟩
    | cons p rest ih =>
        obtain ⟨hranges, hprograms⟩ :=
          Form.tally_round b limits scene kind (members.map Member.object) p
        rw [List.flatMap_cons, callsOf_append, rangesOf_append, programsOf_append,
          List.length_append, hranges, hprograms, ih.1, ih.2, List.map_map, Nat.add_comm]
        exact ⟨rfl, rfl⟩
  cases built with
  | none => exact ⟨rfl, rfl⟩
  | some b => exact hpasses b b.passes

/-! ### Chains -/

/-- Along a chain of strokes, the counts follow the calls, and the library still gives what it gave.
-/
structure Tallied (strokes : List Stroke) (d : Drawing) (s : Session) (d' : Drawing)
    (s' : Session) : Prop where
  calls : ∃ calls, s'.device.calls.toList = s.device.calls.toList ++ calls ∧
    rangesOf calls = strokes.flatMap Stroke.ranges ∧
    (programsOf calls).length = (strokes.map Stroke.rounds).sum
  stats : d'.stats = { d.stats with
    draws := d.stats.draws + (strokes.flatMap Stroke.ranges).length
    setups := d.stats.setups + (strokes.map Stroke.rounds).sum }
  gives : ∀ r built, d.library.Gives r built → d'.library.Gives r built
  asked : ∀ kind material members built, .batch kind material members built ∈ strokes →
    d'.library.Gives material built

namespace Tallied

variable {strokes strokes' : List Stroke}

theorem of_quiet (d : Drawing) (hquiet : s.device.Quiet s'.device) : Tallied [] d s d s' where
  calls := by
    obtain ⟨calls, hcalls, hc⟩ := hquiet.calls
    exact ⟨calls, hcalls, (idly_of_isQuiet hc).ranges,
      congrArg List.length (idly_of_isQuiet hc).programs⟩
  stats := rfl
  gives := fun _ _ h => h
  asked := fun _ _ _ _ h => absurd h List.not_mem_nil

theorem append (h : Tallied strokes d s d₁ s₁) (h' : Tallied strokes' d₁ s₁ d' s') :
    Tallied (strokes ++ strokes') d s d' s' where
  calls := by
    obtain ⟨calls, hcalls, hranges, hprograms⟩ := h.calls
    obtain ⟨calls', hcalls', hranges', hprograms'⟩ := h'.calls
    refine ⟨calls ++ calls', by rw [hcalls', hcalls, List.append_assoc], ?_, ?_⟩
    · rw [rangesOf_append, hranges, hranges', List.flatMap_append]
    · rw [programsOf_append, List.length_append, hprograms, hprograms', List.map_append,
        List.sum_append]
  stats := by
    rw [h'.stats, h.stats]
    simp only [List.flatMap_append, List.map_append, List.length_append, List.sum_append,
      Nat.add_assoc]
  gives := fun r built hgives => h'.gives r built (h.gives r built hgives)
  asked := by
    intro kind material members built hmem
    rcases List.mem_append.mp hmem with hmem | hmem
    · exact h'.gives _ _ (h.asked kind material members built hmem)
    · exact h'.asked kind material members built hmem

end Tallied

/-- A stroke with a material. -/
theorem tallied_batch {members : List Member} (h₀ : s₀.device.Owns others)
    (hreached : Library.Reached s₀ d.library s) (hidle : d.library.Idle)
    (hfound : (d.library.renderable material).run s = .ok ((found, library), s₁))
    (hrun : ((drawBatch scene kind material (members.map Member.object)).run d).run s =
      .ok (((), d'), s')) :
    d'.library.Idle ∧
      Tallied [.batch kind material members (found.bind (·.2.built))] d s d' s' := by
  obtain ⟨hrun', hstroke, hrounds⟩ :=
    run_drawBatch_of_idle scene kind (members.map Member.object) hidle hfound
  cases hrun'.symm.trans hrun
  refine ⟨hidle.renderable hfound, ?_⟩
  obtain ⟨asking, hasking, hquiet⟩ := (hreached.manages_renderable h₀ hfound).quiet.calls
  have hcalls := s₁.calls_applyAll
    (strokeEvents s₁.device.limits scene kind material (members.map Member.object) found)
  obtain ⟨hranges, hprograms⟩ := tally_strokeCalls s₁.device.limits scene kind material members
    (found.bind (·.2.built))
  have hlength : ∀ built : Option BuiltMaterial,
      (Stroke.batch kind material members built).ranges.length =
        ((built.map (·.passes.length)).getD 0) * members.length := by
    intro built
    cases built with
    | none => exact (Nat.zero_mul _).symm
    | some b => simp [Stroke.ranges, passesOf, List.length_flatMap]
  have hpasses : (Stroke.batch kind material members (found.bind (·.2.built))).rounds =
      strokeRounds found := by
    rw [hrounds, Stroke.rounds, passesOf]
    cases found.bind (·.2.built) <;> rfl
  exact {
    calls := by
      refine ⟨_, by rw [hcalls, hasking, List.append_assoc], ?_, ?_⟩
      · rw [rangesOf_append, (idly_of_isQuiet hquiet).ranges, hstroke, hranges]
        exact (List.append_nil _).symm
      · rw [programsOf_append, (idly_of_isQuiet hquiet).programs, hstroke]
        exact hprograms.trans (Nat.add_zero _).symm
    stats := by
      rw [List.flatMap_singleton, hlength, ← hrounds, List.map_singleton, List.sum_singleton,
        hpasses, FrameStats.drawn, List.length_map]
    gives := fun r built hgives => hgives.renderable hfound
    asked := by
      intro kind' material' members' built hmem
      cases List.mem_singleton.mp hmem
      exact Library.gives_of_renderable hfound }

/-- An object that draws itself. -/
theorem tallied_delegate {member : Member} {delegate : Delegate}
    (hrun : ((drawDelegate delegate member.object).run d).run s = .ok (((), d'), s')) :
    d'.library = d.library ∧
      Tallied [.delegate member (delegate.ranges member.object.range)] d s d' s' := by
  cases hrun
  have hcalls :=
    s.calls_applyAll ((delegate.ranges member.object.range).map fun r => .call (.draw r))
  rw [callsOf_map_call] at hcalls
  refine ⟨rfl, ⟨_, hcalls, ?_, ?_⟩, ?_, fun _ _ h => h, ?_⟩
  · rw [rangesOf, List.filterMap_map, List.flatMap_singleton]
    exact List.filterMap_some
  · rw [programsOf, List.filterMap_map]
    exact congrArg List.length (List.filterMap_eq_nil_iff.mpr fun _ _ => rfl)
  · rw [List.flatMap_singleton]
    rfl
  · intro kind material members built hmem
    cases List.mem_singleton.mp hmem

/-- **A chain in numbers.**  The counts are raised by the draws and the passes of the strokes, which
are those among the calls; and for every stroke with a material, the library gives at the end what
it gave then. -/
theorem Walk.tallied {strokes : List Stroke} (h₀ : s₀.device.Owns others)
    (h : Walk scene d s strokes d' s') (hreached : Library.Reached s₀ d.library s)
    (hidle : d.library.Idle) : d'.library.Idle ∧ Tallied strokes d s d' s' := by
  induction h with
  | done d s => exact ⟨hidle, .of_quiet d (.refl s.device)⟩
  | aside haside _ ih =>
      obtain ⟨hidle', htallied⟩ := ih (hreached.adjusts haside.adjusts) hidle
      exact ⟨hidle', (Tallied.of_quiet _ haside.quiet).append htallied⟩
  | batch hfound hrun _ ih =>
      obtain ⟨hidle₁, hfirst⟩ := tallied_batch h₀ hreached hidle hfound hrun
      obtain ⟨hidle', hrest⟩ := ih (reached_of_drawBatch hreached hrun) hidle₁
      exact ⟨hidle', hfirst.append hrest⟩
  | delegate hrun _ ih =>
      have hone : Walk scene _ _ _ _ _ := .delegate hrun (.done _ _)
      obtain ⟨hlibrary, hfirst⟩ := tallied_delegate hrun
      obtain ⟨hidle', hrest⟩ := ih (hone.reached hreached) (hlibrary ▸ hidle)
      exact ⟨hidle', hfirst.append hrest⟩

/-! ### Shares -/

namespace BinCore

variable {c : BinCore} {arena : FrameArena Submission} {rule : DrawRule} {l : Library}
  {elements : List BinElement} {strokes : List Stroke}

/-- What a bin draws for an object, if the library gives what `l` gives: the object draws itself, or
it is drawn once in each pass of what is given for its material. -/
inductive Share (c : BinCore) (l : Library) (rule : DrawRule) (o : Submission) :
    List PrimitiveRange → Prop where
  | self {delegate : Delegate} (hmode : rule.mode = .each) (h : o.delegate = some delegate) :
      Share c l rule o (delegate.ranges o.range)
  | passes {material : MaterialRef} {b : BuiltMaterial}
      (hself : rule.mode = .each → o.delegate = none)
      (hmaterial : c.materialFor o rule.hook = some material)
      (hgives : l.Gives material (some b)) : Share c l rule o (b.passes.map fun _ => o.range)
  | dropped {material : MaterialRef} (hself : rule.mode = .each → o.delegate = none)
      (hmaterial : c.materialFor o rule.hook = some material) (hgives : l.Gives material none) :
      Share c l rule o []
  | bare (hself : rule.mode = .each → o.delegate = none)
      (hmaterial : c.materialFor o rule.hook = none) : Share c l rule o []

/-- The share of an element of a stroke. -/
theorem share_of_suits {stroke : Stroke} (hsuits : stroke.Suits c rule)
    (hasked : ∀ kind material members built, stroke = .batch kind material members built →
      l.Gives material built) {m : Member} (hm : m ∈ stroke.members) :
    c.Share l rule m.object (stroke.share m) := by
  cases stroke with
  | delegate member ranges =>
      obtain rfl := List.mem_singleton.mp hm
      obtain ⟨hmode, delegate, hdelegate, rfl⟩ := hsuits
      exact .self hmode hdelegate
  | batch kind material members built =>
      obtain ⟨-, hmembers, -⟩ := hsuits
      obtain ⟨hmaterial, hself⟩ := hmembers m hm
      have hgives := hasked kind material members built rfl
      cases built with
      | none => exact .dropped hself hmaterial hgives
      | some b => exact .passes hself hmaterial hgives

/-- Shares of the elements that are drawn, put next to all elements. -/
theorem exists_aligned {pairs : List (Member × List PrimitiveRange)}
    (hpairs : pairs.map Prod.fst = elements.filterMap (c.member? arena rule))
    (hshares : ∀ x ∈ pairs, c.Share l rule x.1.object x.2) (hall : arena.ResolvesAll elements) :
    ∃ shares : List (List PrimitiveRange),
      List.Forall₂ (fun e share => ∃ o, arena.find e.handle = some o ∧ c.Share l rule o share)
        elements shares ∧ shares.flatten = pairs.flatMap Prod.snd := by
  induction elements generalizing pairs with
  | nil =>
      obtain rfl := List.map_eq_nil_iff.mp hpairs
      exact ⟨[], .nil, rfl⟩
  | cons e rest ih =>
      obtain ⟨⟨o, hfind⟩, hrest⟩ := List.forall_mem_cons.mp hall
      cases hshows : c.shows rule o with
      | true =>
          have hmember : c.member? arena rule e = some ⟨e, o⟩ := by
            rw [member?, hfind, Option.filter_some_pos hshows]
            rfl
          rw [List.filterMap_cons_some hmember] at hpairs
          obtain ⟨x, pairs', rfl, hx, hpairs'⟩ := List.map_eq_cons_iff.mp hpairs
          obtain ⟨hshare, hshares'⟩ := List.forall_mem_cons.mp hshares
          obtain ⟨shares, hforall, hflatten⟩ := ih hpairs' hshares' hrest
          refine ⟨x.2 :: shares, .cons ⟨o, hfind, ?_⟩ hforall, by
            rw [List.flatten_cons, hflatten, List.flatMap_cons]⟩
          rw [hx] at hshare
          exact hshare
      | false =>
          have hmember : c.member? arena rule e = none := by
            rw [member?, hfind, Option.filter_some_neg (by simp [hshows])]
            rfl
          rw [List.filterMap_cons_none hmember] at hpairs
          obtain ⟨shares, hforall, hflatten⟩ := ih hpairs hshares hrest
          obtain ⟨hself, hmaterial⟩ := Bool.or_eq_false_iff.mp hshows
          refine ⟨[] :: shares, .cons ⟨o, hfind, .bare ?_ ?_⟩ hforall, hflatten⟩
          · intro hmode
            rw [hmode] at hself
            exact Option.not_isSome_iff_eq_none.mp (Bool.eq_false_iff.mp hself)
          · exact Option.not_isSome_iff_eq_none.mp (Bool.eq_false_iff.mp hmaterial)

/-- **Strokes are shares.**  What the strokes of a bin draw is what its elements draw. -/
theorem exists_shares (h : c.Draws arena rule elements strokes) (hall : arena.ResolvesAll elements)
    (hasked : ∀ kind material members built, .batch kind material members built ∈ strokes →
      l.Gives material built) : ∃ shares : List (List PrimitiveRange),
      List.Forall₂ (fun e share => ∃ o, arena.find e.handle = some o ∧ c.Share l rule o share)
        elements shares ∧ (strokes.flatMap Stroke.ranges).Perm shares.flatten := by
  obtain ⟨pairs, hpairs⟩ : ∃ pairs : List (Member × List PrimitiveRange),
      pairs = strokes.flatMap fun stroke => stroke.members.map fun m => (m, stroke.share m) :=
    ⟨_, rfl⟩
  have hfst : pairs.map Prod.fst = elements.filterMap (c.member? arena rule) := by
    rw [← h.members, hpairs, List.map_flatMap]
    simp only [List.map_map, Function.comp_def, List.map_id']
  have hsnd : pairs.flatMap Prod.snd =
      strokes.flatMap fun stroke => stroke.members.flatMap stroke.share := by
    rw [hpairs, List.flatMap_assoc]
    simp only [List.flatMap_map]
  have hshares : ∀ x ∈ pairs, c.Share l rule x.1.object x.2 := by
    intro x hx
    rw [hpairs] at hx
    obtain ⟨stroke, hstroke, hx⟩ := List.mem_flatMap.mp hx
    obtain ⟨m, hm, rfl⟩ := List.mem_map.mp hx
    refine share_of_suits (h.suits stroke hstroke) ?_ hm
    rintro kind material members built rfl
    exact hasked kind material members built hstroke
  obtain ⟨shares, hforall, hflatten⟩ := exists_aligned hfst hshares hall
  refine ⟨shares, hforall, ?_⟩
  rw [hflatten, hsnd]
  exact .flatMap_left strokes fun stroke _ => stroke.perm_ranges

end BinCore

/-- What a bin draws in a frame, and the bin afterwards.  A bin that draws in such frames draws the
shares of its elements, unless it has a target that is still not there. -/
inductive Bin.Plays (l : Library) (arena : FrameArena Submission) (scene : Scene) (b : Bin) :
    Bin → List PrimitiveRange → Prop where
  | resting (h : b.rules.draws scene.pass = none) : Plays l arena scene b b []
  | refused {target target' : OffscreenTarget} (htarget : b.target = some target)
      (h : target'.handle = none) : Plays l arena scene b { b with target := some target' } []
  | active {rule : DrawRule} {target' : Option OffscreenTarget} {ranges : List PrimitiveRange}
      {shares : List (List PrimitiveRange)} (hrule : b.rules.draws scene.pass = some rule)
      (htarget : ∀ t ∈ target', t.handle.isSome)
      (hshares : List.Forall₂ (fun e share => ∃ o, arena.find e.handle = some o ∧
        b.core.Share l rule o share) b.core.elements shares)
      (hranges : ranges.Perm shares.flatten) :
      Plays l arena scene b { b with target := target' } ranges

/-- A bin that draws for its elements draws their shares. -/
theorem Bin.DrawsTo.plays {l : Library} {arena : FrameArena Submission} {b b' : Bin}
    {strokes : List Stroke} (h : b.DrawsTo arena scene b' strokes)
    (hall : arena.ResolvesAll b.core.elements)
    (hasked : ∀ kind material members built, .batch kind material members built ∈ strokes →
      l.Gives material built) : b.Plays l arena scene b' (strokes.flatMap Stroke.ranges) := by
  cases h with
  | resting h => exact .resting h
  | refused htarget h => exact .refused htarget h
  | elements hrule htarget hdraws =>
      obtain ⟨shares, hshares, hperm⟩ := BinCore.exists_shares hdraws hall hasked
      exact .active hrule htarget hshares hperm

/-- What a bin draws in its turn. -/
def Turn.ranges (t : Turn) : List PrimitiveRange :=
  t.strokes.flatMap Stroke.ranges

/-! ### Frames -/

namespace Pipeline

variable {p p' : Pipeline} {l l' : Library} {stats : FrameStats} {frame : Nat}
  {issued handed : List Issue}

/-- What the counts of a frame say, in which the objects `handed` were handed in, the bins held what
those of `p` hold, and `calls` were issued. -/
structure Tally (handed : List Issue) (p : Pipeline) (calls : List Call) (stats : FrameStats) :
    Prop where
  submitted : stats.submitted = handed.length
  held : ∀ b ∈ p.bins, b.core.elements = (claimedBy b.name handed).map Issue.element
  claims : ∀ b ∈ p.bins, stats.claimsFor b.name = b.core.elements.length
  unclaimed : stats.unclaimed =
    (handed.filter fun i => ∀ b ∈ p.bins, b.name ∉ i.claimedBy).length
  draws : stats.draws = (rangesOf calls).length
  setups : stats.setups = (programsOf calls).length

/-- Without calls, the counts are those of the objects that were handed in. -/
theorem Counts.stats_eq (h : Counts handed p) : p.endFrame.1 = { p.stats with
    draws := (rangesOf []).length, setups := (programsOf []).length } := by
  obtain ⟨hdraws, hsetups⟩ := h.drawn
  calc p.endFrame.1
    _ = { p.stats with draws := p.stats.draws, setups := p.stats.setups } := rfl
    _ = { p.stats with draws := 0, setups := 0 } := by rw [hdraws, hsetups]

theorem Counts.tally (h : Counts handed p) (hstats : stats = { p.stats with
    draws := (rangesOf calls).length, setups := (programsOf calls).length }) :
    Tally handed p calls stats where
  submitted := by rw [hstats, ← h.submitted]
  held := h.held
  claims := by
    intro b hb
    rw [h.held b hb, List.length_map, ← h.claims, hstats]
    rfl
  unclaimed := by
    have hnone : ∀ i ∈ handed,
        i.claimedBy.isEmpty = decide (∀ b ∈ p.bins, b.name ∉ i.claimedBy) := by
      intro i hi
      rw [Bool.eq_iff_iff, decide_eq_true_iff, List.isEmpty_iff]
      refine ⟨fun hnil b _ => hnil ▸ List.not_mem_nil, fun hnone => ?_⟩
      refine List.eq_nil_iff_forall_not_mem.mpr fun name hname => ?_
      obtain ⟨b, hb, rfl⟩ := List.mem_map.mp (h.claimants i hi name hname)
      exact hnone b hb hname
    rw [hstats, ← List.filter_congr hnone]
    exact h.unclaimed
  draws := by rw [hstats]
  setups := by rw [hstats]

/-- **The counts of a frame.**  Whatever happened in a frame, at its end the counts are those of the
objects that were handed in, of the elements that the bins held, and of the draws and passes among
the calls; and a bin that draws has drawn the share of each of its elements. -/
theorem Steady.tallies (h : Steady frame issued p) (howns : s₀.device.Owns others) :
    Tally (issuedIn frame issued) p [] p.endFrame.1 ∧
    ∀ l scene s stats l' p' s', Library.Reached s₀ l s → l.Idle →
      (p.render l scene).run s = .ok ((stats, l', p'), s') →
      ∃ (calls : List Call) (turns : List Turn),
        s'.device.calls.toList = s.device.calls.toList ++ calls ∧
        Tally (issuedIn frame issued) p calls stats ∧
        rangesOf calls = turns.flatMap Turn.ranges ∧
        p.drawingOrder.Perm p.bins ∧ turns.map Turn.before = p.drawingOrder.map Bin.sort ∧
        p'.drawingOrder = turns.map (·.after.clear) ∧
        (∀ t ∈ turns, t.before.Plays l' p.arena scene t.after t.ranges) ∧
        Library.Reached s₀ l' s' ∧ l'.Idle := by
  have hcounts := h.counts
  have hp := h.lived.reachable.inOrder
  refine ⟨hcounts.tally hcounts.stats_eq, ?_⟩
  intro l scene s stats l' p' s' hreached hidle hrun
  obtain ⟨turns, hbefore, hafter, hturns, hwalk⟩ := hp.listed.walk_render hrun
  obtain ⟨hidle', htallied⟩ := hwalk.tallied howns hreached hidle
  obtain ⟨calls, hcalls, hranges, hprograms⟩ := htallied.calls
  have hflat : (turns.flatMap Turn.strokes).flatMap Stroke.ranges = turns.flatMap Turn.ranges :=
    List.flatMap_assoc
  refine ⟨calls, turns, hcalls, hcounts.tally ?_, hranges.trans hflat, hp.listed.perm_drawingOrder,
    hbefore, hafter, fun t ht => ?_, hwalk.reached hreached, hidle'⟩
  · have hstats := htallied.stats
    rw [← hranges, ← hprograms] at hstats
    rw [show stats = _ from hstats, hcounts.drawn.1, hcounts.drawn.2, Nat.zero_add, Nat.zero_add]
  · have hsorted : t.before ∈ p.drawingOrder.map Bin.sort := hbefore ▸ List.mem_map_of_mem ht
    obtain ⟨b, hb, hsort⟩ := List.mem_map.mp hsorted
    have hresolves : p.arena.ResolvesAll t.before.core.elements := by
      intro e he
      obtain ⟨elements, hperm, hcore⟩ := b.core_sort
      rw [← hsort, hcore] at he
      exact h.lived.keeps.resolvesAll (hp.listed.perm_drawingOrder.mem_iff.mp hb) e (hperm.mem_iff.mp he)
    have hasked : ∀ kind material members built, .batch kind material members built ∈ t.strokes →
        l'.Gives material built := fun kind material members built hmem =>
      htallied.asked kind material members built (List.mem_flatMap.mpr ⟨t, ht, hmem⟩)
    exact (hturns t ht).plays hresolves hasked

/-- A mesh, drawn by the bin for meshes, and two objects that no bin takes. -/
theorem tallies_three_objects : ∃ (issued : List Issue) (p p' : Pipeline) (l l' : Library)
    (s s' : Session) (stats : FrameStats) (calls : List Call),
    Steady 0 issued p ∧ ({} : Device).Owns 0 ∧ Library.Reached {} l s ∧ l.Idle ∧
      (p.render l {}).run s = .ok ((stats, l', p'), s') ∧
      (stats.submitted, stats.unclaimed, stats.draws, stats.setups) = (3, 2, 1, 1) ∧
      Tally (issuedIn 0 issued) p calls stats := by
  have hcheck : (StateT.run (do
      let l₀ ← Library.new .builtin {}
      let created ← l₀.create { name := "plain", stages := [{}] } .positionNormalUv
      let s ← get
      let mesh ← Submission.mesh created.1 ⟨0⟩ none (.triangles 0 3)
      let terrain ← Submission.terrain created.1 ⟨0⟩ none (.triangles 0 3)
      let first ← (reorder { bins := [.mesh] }).submit created.2 mesh
      let second ← first.2.submit created.2 (.object .once false)
      let third ← second.2.submit created.2 terrain
      set s
      let rendered ← third.2.render created.2 {}
      return (rendered.1.submitted, rendered.1.unclaimed, rendered.1.draws, rendered.1.setups) :
        Action (Nat × Nat × Nat × Nat)) {}).toOption.any (·.1 == (3, 2, 1, 1)) = true := by
    decide +kernel
  obtain ⟨⟨counts, _⟩, hrun, hgood⟩ := exists_of_any_toOption hcheck
  obtain ⟨l₀, s₀, hnew, hrun⟩ := of_run_bind hrun
  obtain ⟨⟨id, l⟩, s, hcreate, hrun⟩ := of_run_bind hrun
  obtain ⟨_, _, hget, hrun⟩ := of_run_bind hrun
  obtain ⟨rfl, rfl⟩ := Prod.mk.inj (Except.ok.inj hget)
  obtain ⟨mesh, _, -, hrun⟩ := of_run_bind hrun
  obtain ⟨terrain, _, -, hrun⟩ := of_run_bind hrun
  obtain ⟨⟨_, p₂⟩, _, hfirst, hrun⟩ := of_run_bind hrun
  obtain ⟨⟨_, p₃⟩, _, hsecond, hrun⟩ := of_run_bind hrun
  obtain ⟨⟨_, p⟩, _, hthird, hrun⟩ := of_run_bind hrun
  obtain ⟨_, _, hset, hrun⟩ := of_run_bind hrun
  obtain ⟨-, rfl⟩ := Prod.mk.inj (Except.ok.inj hset)
  obtain ⟨⟨stats, l', p'⟩, s', hrender, hrun⟩ := of_run_bind hrun
  obtain ⟨hvalues, -⟩ := Prod.mk.inj (Except.ok.inj hrun)
  have hinstalled : Steady 0 [] (reorder { bins := [.mesh] }) :=
    .add (s := default) (b := .mesh) .empty rfl (by simp) rfl
  obtain ⟨_, hstamp, -⟩ := routed_of_submit hinstalled.lived.reachable.inOrder.listed hfirst
  have h₂ := hinstalled.submit hstamp hfirst
  obtain ⟨_, hstamp, -⟩ := routed_of_submit h₂.lived.reachable.inOrder.listed hsecond
  have h₃ := h₂.submit hstamp hsecond
  obtain ⟨_, hstamp, -⟩ := routed_of_submit h₃.lived.reachable.inOrder.listed hthird
  have hp := h₃.submit hstamp hthird
  have hreached : Library.Reached {} l s := .create (.new hnew) hcreate
  have hidle : l.Idle := (Library.idle_new hnew).create (Library.Reached.new hnew).valid hcreate
  obtain ⟨calls, _, -, htally, -⟩ :=
    (hp.tallies Device.owns_default).2 l {} s stats l' p' s' hreached hidle hrender
  exact ⟨_, p, p', l, l', s, s', stats, calls, hp, Device.owns_default, hreached, hidle, hrender,
    hvalues.trans (beq_iff_eq.mp hgood), htally⟩

end Pipeline

end MaterialPipeline
