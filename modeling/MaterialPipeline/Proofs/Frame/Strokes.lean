import MaterialPipeline.Proofs.Frame.Dispatch
import MaterialPipeline.Proofs.Frame.Rounds
import MaterialPipeline.Proofs.Material.Ownership
import MaterialPipeline.Proofs.Storage.Frames

/-!
# Proofs — Frame — Strokes

A frame as a chain of strokes.  A stroke draws objects with one material, or lets an object draw
itself; in between, targets are bound and taken off.

* `run_drawBatch`: a stroke with a material, once it is known what the library gives for it.
* `Walk`: a chain of strokes, on a library and a session.
* `Bin.walk_render`, `Pipeline.walk_drawAll`: what bins do is such a chain, and it is over their
elements in order.
* `Walk.reached`: a chain is a part of the life of the library.
-/

namespace MaterialPipeline

open MaterialPipeline.Action

variable {scene : Scene} {kind : BinKind} {material : MaterialRef} {objects : List Submission}
  {d d₁ d' : Drawing} {s s₁ s₂ s' s₀ : Session} {library : Library}
  {found : Option (FormPlace × Form)}

/-! ### One stroke with a material -/

/-- What is drawn with what the library gives. -/
def strokeEvents (limits : Limits) (scene : Scene) (kind : BinKind) (material : MaterialRef)
    (objects : List Submission) : Option (FormPlace × Form) → List Event
  | none => [.note (.trace
      s!"No renderable material for {material.describe}, dropping {objects.length} elements")]
  | some (_, form) => form.drawEvents limits scene kind objects

/-- The number of rounds over the objects. -/
def strokeRounds : Option (FormPlace × Form) → Nat
  | none => 0
  | some (_, form) => form.remainingPasses.length

/-- The counts after some rounds over `n` objects. -/
def FrameStats.drawn (stats : FrameStats) (rounds n : Nat) : FrameStats :=
  { stats with setups := stats.setups + rounds, draws := stats.draws + rounds * n }

theorem FrameStats.drawn_zero (stats : FrameStats) (n : Nat) : stats.drawn 0 n = stats := by
  rw [drawn, Nat.zero_mul]
  rfl

/-- The library after the passes of a form were gone through. -/
def Library.Rewound (l : Library) : Option (FormPlace × Form) → Library → Prop
  | none, l' => l' = l
  | some (place, form), l' => l.setForm place { form with current := none } = .ok l'

theorem run_drawBatch (scene : Scene) (kind : BinKind) (objects : List Submission)
    (hfound : (d.library.renderable material).run s = .ok ((found, library), s₁)) : ∃ library',
    library.Rewound found library' ∧
      ((drawBatch scene kind material objects).run d).run s =
        .ok (((), ⟨library', d.stats.drawn (strokeRounds found) objects.length⟩),
          s₁.applyAll (strokeEvents s₁.device.limits scene kind material objects found)) := by
  unfold drawBatch
  rw [runs_get_bind, runs_lift_bind d hfound]
  cases found with
  | none =>
      refine ⟨library, rfl, ?_⟩
      rw [strokeRounds, FrameStats.drawn_zero]
      rfl
  | some found =>
      obtain ⟨place, form⟩ := found
      obtain ⟨hat, -⟩ := Library.at_of_renderable hfound
      obtain ⟨rest, -, hput⟩ := Library.holdings_split_at hat
      obtain ⟨library', hset, -⟩ := hput { form with current := none }
      refine ⟨library', hset, ?_⟩
      refine (runs_lift_bind (x := Action.limits) d rfl).trans ?_
      refine (runs_lift_bind d (run_perform _ s₁)).trans ?_
      rw [hset]
      rfl

theorem exists_run_renderable {r : Unit × Drawing}
    (hrun : ((drawBatch scene kind material objects).run d).run s = .ok (r, s')) :
    ∃ found library s₁, (d.library.renderable material).run s = .ok ((found, library), s₁) := by
  unfold drawBatch at hrun
  rw [runs_get_bind] at hrun
  obtain ⟨⟨found, library⟩, s₁, hfound, -⟩ := of_runs_lift_bind hrun
  exact ⟨found, library, s₁, hfound⟩

theorem drawBatch_of_error {fault : Fault}
    (hfound : (d.library.renderable material).run s = .error fault) :
    ((drawBatch scene kind material objects).run d).run s = .error fault := by
  unfold drawBatch
  rw [runs_get_bind]
  exact runs_lift_bind_of_error d hfound

/-! ### Drawing manages no objects -/

theorem mem_callsOf_flatMap {α : Type} {f : α → List Event} {l : List α} {c : Call} :
    c ∈ callsOf (l.flatMap f) ↔ ∃ a ∈ l, c ∈ callsOf (f a) := by
  simp only [callsOf, List.mem_filterMap, List.mem_flatMap]
  constructor
  · rintro ⟨e, ⟨a, ha, he⟩, hc⟩
    exact ⟨a, ha, e, he, hc⟩
  · rintro ⟨a, ha, e, he, hc⟩
    exact ⟨e, ⟨a, ha, he⟩, hc⟩

/-- What binds or draws does not manage objects. -/
theorem Call.isManaging_of_isQuiet {c : Call} (hc : c.isQuiet = false) : c.isManaging = false := by
  cases c <;> first | rfl | cases hc

theorem isQuiet_cleanup {p : Pass} {c : Call} (hc : c ∈ callsOf (BuiltMaterial.cleanup p)) :
    c.isQuiet = false := by
  rw [BuiltMaterial.cleanup, callsOf_map_call] at hc
  obtain ⟨binding, -, rfl⟩ := List.mem_map.mp hc
  rfl

theorem isQuiet_round {b : BuiltMaterial} {limits : Limits} {p : Pass} {c : Call}
    (hc : c ∈ callsOf (Form.roundEvents b limits scene kind objects p)) : c.isQuiet = false := by
  have hbound {s : Submission}
      (hc : c ∈ Form.setupCalls b limits scene kind p ++ Form.bindCalls b scene kind p s) :
      c.isQuiet = false := by
    rcases Form.mem_boundCalls hc with
      rfl | rfl | ⟨_, _, rfl⟩ | ⟨_, _, rfl⟩ | ⟨_, _, rfl⟩ | rfl <;> rfl
  rw [Form.callsOf_roundEvents, List.mem_append, List.mem_append] at hc
  rcases hc with (hc | hc) | hc
  · exact hbound (s := default) (List.mem_append_left _ hc)
  · obtain ⟨s, -, hc⟩ := mem_callsOf_flatMap.mp hc
    rw [Form.callsOf_objectEvents, List.mem_append, List.mem_singleton] at hc
    rcases hc with hc | rfl
    · exact hbound (List.mem_append_right _ hc)
    · rfl
  · exact isQuiet_cleanup hc

/-- Leaving the pass that is set up unbinds its textures, if there is one. -/
theorem Form.leavePass_cases (f : Form) :
    f.leavePass = [] ∨ ∃ p, f.leavePass = BuiltMaterial.cleanup p := by
  unfold leavePass
  split
  next b n _ _ =>
    unfold BuiltMaterial.onPass
    cases b.passes[n]? with
    | none => exact .inl rfl
    | some p => exact .inr ⟨p, rfl⟩
  next => exact .inl rfl

theorem isQuiet_stroke {limits : Limits} {c : Call}
    (hc : c ∈ callsOf (strokeEvents limits scene kind material objects found)) :
    c.isQuiet = false := by
  cases found with
  | none => cases hc
  | some found =>
      obtain ⟨place, form⟩ := found
      rw [strokeEvents, Form.drawEvents] at hc
      cases hb : form.built with
      | none =>
          rw [hb] at hc
          cases hc
      | some b =>
          rw [hb, callsOf_append, List.mem_append] at hc
          rcases hc with hc | hc
          · rcases form.leavePass_cases with hleave | ⟨p, hleave⟩
            · rw [hleave] at hc
              cases hc
            · exact isQuiet_cleanup (hleave ▸ hc)
          · obtain ⟨p, -, hc⟩ := mem_callsOf_flatMap.mp hc
            exact isQuiet_round hc

/-- A stroke with a material is a part of the life of the library. -/
theorem reached_of_drawBatch (h : Library.Reached s₀ d.library s)
    (hrun : ((drawBatch scene kind material objects).run d).run s = .ok (((), d'), s')) :
    Library.Reached s₀ d'.library s' := by
  obtain ⟨found, library, s₁, hfound⟩ := exists_run_renderable hrun
  obtain ⟨library', hrewound, hrun'⟩ := run_drawBatch scene kind objects hfound
  cases hrun'.symm.trans hrun
  have hasked : Library.Reached s₀ library s₁ := h.renderable hfound
  have hdrawn := hasked.adjusts (s₁.adjusts_applyAll
    (strokeEvents s₁.device.limits scene kind material objects found)
    fun c hc => Call.isManaging_of_isQuiet (isQuiet_stroke hc))
  cases found with
  | none =>
      cases hrewound
      exact hdrawn
  | some found =>
      obtain ⟨place, form⟩ := found
      exact hdrawn.proceed (Library.at_of_renderable hfound).1 hrewound

/-! ### Next to drawing -/

/-- Something happened on the device that binds and draws nothing, and manages no objects. -/
structure Device.Aside (d d' : Device) : Prop where
  quiet : d.Quiet d'
  adjusts : d.Adjusts d'

theorem Device.Aside.trans {d d' d'' : Device} (h : d.Aside d') (h' : d'.Aside d'') : d.Aside d'' :=
  ⟨h.quiet.trans h'.quiet, h.adjusts.trans h'.adjusts⟩

theorem Session.limits_applyAll (s : Session) (events : List Event) :
    (s.applyAll events).device.limits = s.device.limits := by
  induction events generalizing s with
  | nil => rfl
  | cons e rest ih =>
      refine (ih (s.apply e)).trans ?_
      cases e with
      | note n => rfl
      | call c => exact Device.limits_issue ..

theorem Session.aside_applyAll (s : Session) (events : List Event)
    (h : ∀ c ∈ callsOf events, c.isQuiet = true ∧ c.isManaging = false) :
    s.device.Aside (s.applyAll events).device where
  quiet := ⟨s.limits_applyAll events, _, s.calls_applyAll events, fun c hc => (h c hc).1⟩
  adjusts := s.adjusts_applyAll events fun c hc => (h c hc).2

theorem Device.aside_createTarget (d : Device) (t : Target) : d.Aside (d.createTarget t).2 := by
  have hcall (d' : Device) (hlimits : d'.limits = d.limits)
      (hcalls : d'.calls = d.calls.push (.createTarget t)) (hprograms : d'.programs = d.programs)
      (hstates : d'.states = d.states) (htextures : d'.textures = d.textures) : d.Aside d' :=
    ⟨.one hlimits hcalls rfl, hprograms, hstates, htextures, [.createTarget t],
      by rw [hcalls, Array.toList_push], by simp [Call.isManaging]⟩
  unfold Device.createTarget
  by_cases hlost : d.lost
  · simp only [Device.record, hlost, if_true]
    exact hcall _ rfl rfl rfl rfl rfl
  · by_cases hrefuses : d.refusesTargets || d.refuses t
    · simp only [Device.record, hlost, hrefuses, if_true]
      exact hcall _ rfl rfl rfl rfl rfl
    · simp only [Device.record, hlost, hrefuses]
      exact hcall _ rfl rfl rfl rfl rfl

namespace OffscreenTarget

theorem aside_ensure {t t' : OffscreenTarget} {h : Option TargetHandle}
    (hrun : t.ensure.run s = .ok ((h, t'), s')) : s.device.Aside s'.device := by
  unfold ensure at hrun
  cases ht : t.handle with
  | some h =>
      rw [ht] at hrun
      cases hrun
      exact s.aside_applyAll [] fun _ hc => absurd hc List.not_mem_nil
  | none =>
      rw [ht] at hrun
      obtain ⟨answer, s₁, hcreate, hrun⟩ := of_run_bind hrun
      cases (run_onDevice _ s).symm.trans hcreate
      have hcreated := s.device.aside_createTarget t.target
      cases hanswer : (s.device.createTarget t.target).1 with
      | ok h =>
          rw [hanswer] at hrun
          obtain ⟨_, _, hreport, hrun⟩ := of_run_bind hrun
          cases hreport
          cases hrun
          exact hcreated
      | error error =>
          rw [hanswer] at hrun
          obtain ⟨_, _, hreport, hrun⟩ := of_run_bind hrun
          cases hreport
          cases hrun
          exact hcreated

theorem aside_acquire {t t' : OffscreenTarget} {h : Option TargetHandle}
    (hrun : t.acquire.run s = .ok ((h, t'), s')) : s.device.Aside s'.device := by
  obtain ⟨⟨handle, t₁⟩, s₁, hensure, hrun⟩ := of_run_bind hrun
  have haside := aside_ensure hensure
  cases handle with
  | none =>
      cases hrun
      exact haside
  | some h =>
      obtain ⟨_, _, henter, hrun⟩ := of_run_bind hrun
      cases henter
      cases hrun
      refine haside.trans (s₁.aside_applyAll _ fun c hc => ?_)
      rcases List.mem_cons.mp hc with rfl | hc
      · exact ⟨rfl, rfl⟩
      · obtain rfl := List.mem_singleton.mp hc
        exact ⟨rfl, rfl⟩

/-- A target is acquired exactly if it is on the device afterwards. -/
theorem handle_of_acquire {t t' : OffscreenTarget} {h : Option TargetHandle}
    (hrun : t.acquire.run s = .ok ((h, t'), s')) : t'.handle = h := by
  have hensure {t t' : OffscreenTarget} {h : Option TargetHandle} {s s' : Session}
      (hrun : t.ensure.run s = .ok ((h, t'), s')) : t'.handle = h := by
    unfold ensure at hrun
    cases ht : t.handle with
    | some h =>
        rw [ht] at hrun
        cases hrun
        exact ht
    | none =>
        rw [ht] at hrun
        obtain ⟨answer, s₁, -, hrun⟩ := of_run_bind hrun
        cases answer with
        | ok h =>
            obtain ⟨_, _, -, hrun⟩ := of_run_bind hrun
            cases hrun
            rfl
        | error error =>
            obtain ⟨_, _, -, hrun⟩ := of_run_bind hrun
            cases hrun
            exact ht
  obtain ⟨⟨handle, t₁⟩, s₁, hrun₁, hrun⟩ := of_run_bind hrun
  have hhandle := hensure hrun₁
  cases handle with
  | none =>
      cases hrun
      exact hhandle
  | some h =>
      obtain ⟨_, _, -, hrun⟩ := of_run_bind hrun
      cases hrun
      exact hhandle

theorem aside_leave (h : TargetHandle) (s : Session) :
    s.device.Aside (s.applyAll (leave h)).device := by
  refine s.aside_applyAll _ fun c hc => ?_
  rcases List.mem_cons.mp hc with rfl | hc
  · exact ⟨rfl, rfl⟩
  · obtain rfl := List.mem_singleton.mp hc
    exact ⟨rfl, rfl⟩

end OffscreenTarget

/-! ### Chains of strokes -/

/-- A claimed element, with its object. -/
structure Member where
  element : BinElement
  object : Submission

/-- What is drawn in one go. -/
inductive Stroke where
  /-- Objects with one material, which the library gave as `built`, if at all. -/
  | batch (kind : BinKind) (material : MaterialRef) (members : List Member)
      (built : Option BuiltMaterial)
  /-- An object that draws itself, in some ranges. -/
  | delegate (member : Member) (ranges : List PrimitiveRange)

/-- The elements that are drawn. -/
def Stroke.members : Stroke → List Member
  | batch _ _ members _ => members
  | delegate member _ => [member]

/-- Strokes one after another, with something aside in between. -/
inductive Walk (scene : Scene) : Drawing → Session → List Stroke → Drawing → Session → Prop where
  | done (d : Drawing) (s : Session) : Walk scene d s [] d s
  | aside {d d' : Drawing} {s s₁ s' : Session} {strokes : List Stroke}
      (haside : s.device.Aside s₁.device) (h : Walk scene d s₁ strokes d' s') :
      Walk scene d s strokes d' s'
  | batch {d d₁ d' : Drawing} {s s₁ s₂ s' : Session} {kind : BinKind} {material : MaterialRef}
      {members : List Member} {found : Option (FormPlace × Form)} {library : Library}
      {strokes : List Stroke}
      (hfound : (d.library.renderable material).run s = .ok ((found, library), s₁))
      (hrun : ((drawBatch scene kind material (members.map Member.object)).run d).run s =
        .ok (((), d₁), s₂))
      (h : Walk scene d₁ s₂ strokes d' s') :
      Walk scene d s (.batch kind material members (found.bind (·.2.built)) :: strokes) d' s'
  | delegate {d d₁ d' : Drawing} {s s₁ s' : Session} {member : Member} {delegate : Delegate}
      {strokes : List Stroke}
      (hrun : ((drawDelegate delegate member.object).run d).run s = .ok (((), d₁), s₁))
      (h : Walk scene d₁ s₁ strokes d' s') :
      Walk scene d s (.delegate member (delegate.ranges member.object.range) :: strokes) d' s'

namespace Walk

variable {strokes strokes' : List Stroke}

theorem append (h : Walk scene d s strokes d₁ s₁) (h' : Walk scene d₁ s₁ strokes' d' s') :
    Walk scene d s (strokes ++ strokes') d' s' := by
  induction h with
  | done => exact h'
  | aside haside _ ih => exact .aside haside (ih h')
  | batch hfound hrun _ ih => exact .batch hfound hrun (ih h')
  | delegate hrun _ ih => exact .delegate hrun (ih h')

theorem single {members : List Member} (hrun : ((drawBatch scene kind material
    (members.map Member.object)).run d).run s = .ok (((), d'), s')) :
    ∃ built, Walk scene d s [.batch kind material members built] d' s' := by
  obtain ⟨found, library, s₁, hfound⟩ := exists_run_renderable hrun
  exact ⟨_, .batch hfound hrun (.done d' s')⟩

theorem reached (h : Walk scene d s strokes d' s') (hd : Library.Reached s₀ d.library s) :
    Library.Reached s₀ d'.library s' := by
  induction h with
  | done => exact hd
  | aside haside _ ih => exact ih (hd.adjusts haside.adjusts)
  | batch _ hrun _ ih => exact ih (reached_of_drawBatch hd hrun)
  | @delegate d d₁ d' s s₁ s' member delegate strokes hrun _ ih =>
      refine ih ?_
      cases hrun
      refine hd.adjusts (s.adjusts_applyAll _ fun c hc => ?_)
      rw [callsOf_map_call] at hc
      obtain ⟨range, -, rfl⟩ := List.mem_map.mp hc
      rfl

end Walk

/-! ### The strokes of a bin -/

/-- What a stroke is for a bin that draws by a rule. -/
def Stroke.Suits (c : BinCore) (rule : DrawRule) : Stroke → Prop
  | .batch kind material members _ => kind = rule.kind ∧
      (∀ m ∈ members, c.materialFor m.object rule.hook = some material ∧
        (rule.mode = .each → m.object.delegate = none)) ∧
      (rule.mode ≠ .batches → members.length = 1)
  | .delegate member ranges => rule.mode = .each ∧
      ∃ delegate, member.object.delegate = some delegate ∧
        ranges = delegate.ranges member.object.range

namespace BinCore

variable {c : BinCore} {arena : FrameArena Submission} {rule : DrawRule}
  {elements elements' : List BinElement} {strokes strokes' : List Stroke} {members : List Member}

/-- Whether an object is drawn at all: it draws itself, or there is a material for it. -/
def shows (c : BinCore) (rule : DrawRule) (o : Submission) : Bool :=
  rule.mode == .each && o.delegate.isSome || (c.materialFor o rule.hook).isSome

/-- The element with its object, if that is drawn. -/
def member? (c : BinCore) (arena : FrameArena Submission) (rule : DrawRule) (e : BinElement) :
    Option Member :=
  ((arena.find e.handle).filter (c.shows rule)).map (⟨e, ·⟩)

/-- The strokes are for the elements that are drawn, in order. -/
structure Draws (c : BinCore) (arena : FrameArena Submission) (rule : DrawRule)
    (elements : List BinElement) (strokes : List Stroke) : Prop where
  suits : ∀ stroke ∈ strokes, stroke.Suits c rule
  members : strokes.flatMap Stroke.members = elements.filterMap (c.member? arena rule)

theorem Draws.nil : c.Draws arena rule [] [] :=
  ⟨fun _ h => absurd h List.not_mem_nil, rfl⟩

theorem Draws.append (h : c.Draws arena rule elements strokes)
    (h' : c.Draws arena rule elements' strokes') :
    c.Draws arena rule (elements ++ elements') (strokes ++ strokes') where
  suits := fun stroke hs => (List.mem_append.mp hs).elim (h.suits stroke) (h'.suits stroke)
  members := by rw [List.flatMap_append, List.filterMap_append, h.members, h'.members]

theorem Draws.skip {e : BinElement} {o : Submission} (hfind : arena.find e.handle = some o)
    (ho : c.shows rule o = false) : c.Draws arena rule [e] [] := by
  refine ⟨fun _ h => absurd h List.not_mem_nil, ?_⟩
  rw [List.filterMap_cons_none]
  · rfl
  · rw [member?, hfind, Option.filter_some_neg (by simp [ho])]
    rfl

theorem Draws.single (stroke : Stroke) (hsuits : stroke.Suits c rule)
    (hmembers : ∀ m ∈ stroke.members,
      arena.find m.element.handle = some m.object ∧ c.shows rule m.object) :
    c.Draws arena rule (stroke.members.map Member.element) [stroke] where
  suits := fun _ h => List.mem_singleton.mp h ▸ hsuits
  members := by
    have hmember : ∀ m ∈ stroke.members, c.member? arena rule m.element = some m := by
      intro m hm
      obtain ⟨hfind, hshows⟩ := hmembers m hm
      rw [member?, hfind, Option.filter_some_pos hshows]
      rfl
    rw [List.flatMap_singleton, List.filterMap_map,
      List.filterMap_congr (g := some) (f := c.member? arena rule ∘ Member.element) hmember,
      List.filterMap_some]

/-- What is drawn are objects of the arena, behind the handles of the elements. -/
theorem Draws.find_of_mem (h : c.Draws arena rule elements strokes) {stroke : Stroke}
    (hstroke : stroke ∈ strokes) {m : Member} (hm : m ∈ stroke.members) :
    m.element ∈ elements ∧ arena.find m.element.handle = some m.object := by
  have hflat : m ∈ strokes.flatMap Stroke.members := List.mem_flatMap.mpr ⟨stroke, hstroke, hm⟩
  rw [h.members] at hflat
  obtain ⟨e, he, hmember⟩ := List.mem_filterMap.mp hflat
  obtain ⟨o, ho, rfl⟩ := Option.map_eq_some_iff.mp hmember
  exact ⟨he, (Option.filter_eq_some_iff.mp ho).1⟩

theorem sameMaterial_cons {hook : Option Variant} {e : BinElement} {o : Submission}
    (hget : arena.get e.handle = .ok o) : c.sameMaterial arena hook material (e :: elements) =
      if c.materialFor o hook = some material then
        (c.sameMaterial arena hook material elements).map (o :: ·)
      else .ok [] := by
  rw [sameMaterial, hget]
  show (if _ then _ else _) = _
  split
  · cases c.sameMaterial arena hook material elements <;> rfl
  · rfl

/-- The head of the elements that are drawn with the material. -/
theorem of_sameMaterial {hook : Option Variant} {more : List Submission}
    (h : c.sameMaterial arena hook material elements = .ok more) : ∃ members : List Member,
      members.map Member.object = more ∧
      members.map Member.element = elements.take more.length ∧
      ∀ m ∈ members, arena.find m.element.handle = some m.object ∧
        c.materialFor m.object hook = some material := by
  induction elements generalizing more with
  | nil =>
      cases h
      exact ⟨[], rfl, rfl, fun _ h => absurd h List.not_mem_nil⟩
  | cons e rest ih =>
      cases hget : arena.get e.handle with
      | error fault =>
          rw [sameMaterial, hget] at h
          cases h
      | ok o =>
          rw [sameMaterial_cons hget] at h
          split at h
          next hmaterial =>
            cases hrest : c.sameMaterial arena hook material rest with
            | error fault =>
                rw [hrest] at h
                cases h
            | ok more' =>
                rw [hrest] at h
                cases h
                obtain ⟨members, rfl, helements, hmembers⟩ := ih hrest
                refine ⟨⟨e, o⟩ :: members, rfl, ?_, List.forall_mem_cons.mpr
                  ⟨⟨FrameArena.get_eq_ok_iff.mp hget, hmaterial⟩, hmembers⟩⟩
                rw [List.map_cons, helements]
                rfl
          next =>
            cases h
            exact ⟨[], rfl, rfl, fun _ h => absurd h List.not_mem_nil⟩

/-- The objects that are drawn together with the one before them. -/
def companions (c : BinCore) (arena : FrameArena Submission) (hook : Option Variant) (batch : Bool)
    (material : MaterialRef) (elements : List BinElement) : Except Fault (List Submission) :=
  if batch then c.sameMaterial arena hook material elements else .ok []

theorem renderRuns_cons {hook : Option Variant} {batch : Bool} {e : BinElement} {o : Submission}
    (hget : arena.get e.handle = .ok o) :
    c.renderRuns arena scene hook kind batch (e :: elements) =
      match c.materialFor o hook with
      | none => c.renderRuns arena scene hook kind batch elements
      | some material => (do
        let more ← c.companions arena hook batch material elements
        drawBatch scene kind material (o :: more)
        c.renderRuns arena scene hook kind batch (elements.drop more.length)) := by
  rw [renderRuns, hget]
  cases batch <;> rfl

theorem of_companions {hook : Option Variant} {batch : Bool} {more : List Submission}
    (h : c.companions arena hook batch material elements = .ok more) : ∃ members : List Member,
      members.map Member.object = more ∧
      members.map Member.element = elements.take more.length ∧
      (∀ m ∈ members, arena.find m.element.handle = some m.object ∧
        c.materialFor m.object hook = some material) ∧
      (batch = false → members = []) := by
  cases batch with
  | true =>
      obtain ⟨members, hobjects, helements, hmembers⟩ := of_sameMaterial h
      exact ⟨members, hobjects, helements, hmembers, fun h => Bool.noConfusion h⟩
  | false =>
      cases h
      exact ⟨[], rfl, rfl, fun _ h => absurd h List.not_mem_nil, fun _ => rfl⟩

theorem exists_sameMaterial (helements : ∀ e ∈ elements, ∃ o, arena.find e.handle = some o)
    (hook : Option Variant) (material : MaterialRef) :
    ∃ more, c.sameMaterial arena hook material elements = .ok more := by
  induction elements with
  | nil => exact ⟨[], rfl⟩
  | cons e rest ih =>
      obtain ⟨⟨o, ho⟩, hrest⟩ := List.forall_mem_cons.mp helements
      rw [sameMaterial_cons (FrameArena.get_eq_ok_iff.mpr ho)]
      split
      · obtain ⟨more, hmore⟩ := ih hrest
        rw [hmore]
        exact ⟨o :: more, rfl⟩
      · exact ⟨[], rfl⟩

theorem exists_companions (helements : ∀ e ∈ elements, ∃ o, arena.find e.handle = some o)
    (hook : Option Variant) (batch : Bool) (material : MaterialRef) :
    ∃ more, c.companions arena hook batch material elements = .ok more := by
  cases batch with
  | true => exact exists_sameMaterial helements hook material
  | false => exact ⟨[], rfl⟩

/-- Elements of one material, drawn together. -/
theorem walk_drawBatch (hmode : rule.mode ≠ .batches → members.length = 1)
    (hmembers : ∀ m ∈ members, arena.find m.element.handle = some m.object ∧
      c.materialFor m.object rule.hook = some material ∧
      (rule.mode = .each → m.object.delegate = none))
    (hrun : ((drawBatch scene rule.kind material (members.map Member.object)).run d).run s =
      .ok (((), d'), s')) :
    ∃ strokes, Walk scene d s strokes d' s' ∧
      c.Draws arena rule (members.map Member.element) strokes := by
  obtain ⟨built, hwalk⟩ := Walk.single hrun
  refine ⟨_, hwalk, Draws.single (.batch rule.kind material members built) ?_ ?_⟩
  · exact ⟨rfl, fun m hm => (hmembers m hm).2, hmode⟩
  · intro m hm
    refine ⟨(hmembers m hm).1, ?_⟩
    rw [shows, (hmembers m hm).2.1, Option.isSome_some, Bool.or_true]

/-- Induction over elements that are taken in groups: any number of the rest may go with the first.
-/
@[elab_as_elim]
theorem group_induction {motive : List BinElement → Prop} (nil : motive [])
    (cons : ∀ e rest, (∀ n, motive (rest.drop n)) → motive (e :: rest)) (elements) :
    motive elements := by
  induction hn : elements.length using Nat.strong_induction_on generalizing elements with
  | _ n ih =>
      cases elements with
      | nil => exact nil
      | cons e rest =>
          refine cons e rest fun k => ih (rest.drop k).length ?_ _ rfl
          rw [← hn, List.length_drop, List.length_cons]
          exact Nat.lt_succ_of_le (Nat.sub_le ..)

theorem walk_renderRuns (batch : Bool) (hmode : rule.mode = if batch then .batches else .singles)
    (hrun : ((c.renderRuns arena scene rule.hook rule.kind batch elements).run d).run s =
      .ok (((), d'), s')) :
    ∃ strokes, Walk scene d s strokes d' s' ∧ c.Draws arena rule elements strokes := by
  have heach : rule.mode ≠ .each := by
    rw [hmode]
    cases batch <;> exact DrawMode.noConfusion
  induction elements using group_induction generalizing d s with
  | nil =>
      rw [renderRuns] at hrun
      cases hrun
      exact ⟨[], .done _ _, .nil⟩
  | cons e rest ih =>
      cases hget : arena.get e.handle with
      | error fault =>
          rw [renderRuns, hget] at hrun
          cases hrun
      | ok o =>
          have hfind := FrameArena.get_eq_ok_iff.mp hget
          rw [renderRuns_cons hget] at hrun
          cases hmaterial : c.materialFor o rule.hook with
          | none =>
              rw [hmaterial] at hrun
              obtain ⟨strokes, hwalk, hdraws⟩ := ih 0 hrun
              refine ⟨strokes, hwalk, (Draws.skip hfind ?_).append hdraws⟩
              rw [shows, hmaterial, beq_eq_false_iff_ne.mpr heach]
              rfl
          | some material =>
              rw [hmaterial] at hrun
              obtain ⟨more, _, _, hlift, hdraw⟩ := of_runs_bind hrun
              obtain ⟨rfl, rfl, hmore⟩ := of_runs_lift hlift
              obtain ⟨members, rfl, helements, hmembers, hsingle⟩ := of_companions hmore
              obtain ⟨_, d₁, s₁, hbatch, hrest⟩ := of_runs_bind hdraw
              have hlength : rule.mode ≠ .batches → (⟨e, o⟩ :: members).length = 1 := by
                intro hne
                have hb : batch = false := by
                  cases batch with
                  | true => exact absurd hmode hne
                  | false => rfl
                rw [hsingle hb]
                rfl
              have hall : ∀ m ∈ (⟨e, o⟩ :: members : List Member),
                  arena.find m.element.handle = some m.object ∧
                    c.materialFor m.object rule.hook = some material ∧
                    (rule.mode = .each → m.object.delegate = none) := by
                intro m hm
                rcases List.mem_cons.mp hm with rfl | hm
                · exact ⟨hfind, hmaterial, fun h => absurd h heach⟩
                · exact ⟨(hmembers m hm).1, (hmembers m hm).2, fun h => absurd h heach⟩
              obtain ⟨strokes, hwalk, hdraws⟩ := walk_drawBatch hlength hall hbatch
              obtain ⟨strokes', hwalk', hdraws'⟩ := ih _ hrest
              refine ⟨strokes ++ strokes', hwalk.append hwalk', ?_⟩
              have happend := hdraws.append hdraws'
              rwa [List.map_cons, helements, List.cons_append, List.take_append_drop] at happend

theorem walk_renderEach (hmode : rule.mode = .each)
    (hrun : ((c.renderEach arena scene rule.hook rule.kind elements).run d).run s =
      .ok (((), d'), s')) :
    ∃ strokes, Walk scene d s strokes d' s' ∧ c.Draws arena rule elements strokes := by
  induction elements generalizing d s with
  | nil =>
      cases hrun
      exact ⟨[], .done _ _, .nil⟩
  | cons e rest ih =>
      rw [renderEach] at hrun
      obtain ⟨o, _, _, hlift, hthen⟩ := of_runs_bind hrun
      obtain ⟨rfl, rfl, hget⟩ := of_runs_lift hlift
      have hfind := FrameArena.get_eq_ok_iff.mp hget
      cases hdelegate : o.delegate with
      | some delegate =>
          rw [hdelegate] at hthen
          obtain ⟨_, d₁, s₁, hdraw, hrest⟩ := of_runs_bind hthen
          obtain ⟨strokes, hwalk, hdraws⟩ := ih hrest
          have hone : c.Draws arena rule [e] [.delegate ⟨e, o⟩ (delegate.ranges o.range)] := by
            refine Draws.single (.delegate ⟨e, o⟩ _) ⟨hmode, delegate, hdelegate, rfl⟩ ?_
            intro m hm
            obtain rfl := List.mem_singleton.mp hm
            refine ⟨hfind, ?_⟩
            rw [shows, hmode, hdelegate]
            rfl
          have hwalk' :
              Walk scene _ _ (.delegate ⟨e, o⟩ (delegate.ranges o.range) :: strokes) d' s' :=
            .delegate hdraw hwalk
          exact ⟨_, hwalk', hone.append hdraws⟩
      | none =>
          rw [hdelegate] at hthen
          cases hmaterial : c.materialFor o rule.hook with
          | none =>
              simp only [hmaterial] at hthen
              obtain ⟨strokes, hwalk, hdraws⟩ := ih hthen
              refine ⟨strokes, hwalk, (Draws.skip hfind ?_).append hdraws⟩
              rw [shows, hmaterial, hdelegate, Option.isSome_none, Bool.and_false]
              rfl
          | some material =>
              simp only [hmaterial] at hthen
              obtain ⟨_, d₁, s₁, hdraw, hrest⟩ := of_runs_bind hthen
              have hone : ∀ m ∈ ([⟨e, o⟩] : List Member),
                  arena.find m.element.handle = some m.object ∧
                    c.materialFor m.object rule.hook = some material ∧
                    (rule.mode = .each → m.object.delegate = none) := by
                intro m hm
                obtain rfl := List.mem_singleton.mp hm
                exact ⟨hfind, hmaterial, fun _ => hdelegate⟩
              obtain ⟨strokes, hwalk, hdraws⟩ := walk_drawBatch (fun _ => rfl) hone hdraw
              obtain ⟨strokes', hwalk', hdraws'⟩ := ih hrest
              exact ⟨strokes ++ strokes', hwalk.append hwalk', hdraws.append hdraws'⟩

end BinCore

/-- The strokes of a bin in a frame: none if it does not draw, or has no target to draw into. -/
inductive Bin.Draws (arena : FrameArena Submission) (scene : Scene) (b : Bin) :
    List Stroke → Prop where
  | resting (h : b.rules.draws scene.pass = none) : Draws arena scene b []
  | refused (h : b.target.isSome) : Draws arena scene b []
  | elements {rule : DrawRule} {strokes : List Stroke}
      (hrule : b.rules.draws scene.pass = some rule)
      (h : b.core.Draws arena rule b.core.elements strokes) : Draws arena scene b strokes

/-- The strokes of a bin in a frame, and the bin afterwards: there are none if it does not draw, or
if its target is still not there. -/
inductive Bin.DrawsTo (arena : FrameArena Submission) (scene : Scene) (b : Bin) :
    Bin → List Stroke → Prop where
  | resting (h : b.rules.draws scene.pass = none) : DrawsTo arena scene b b []
  | refused {target target' : OffscreenTarget} (htarget : b.target = some target)
      (h : target'.handle = none) : DrawsTo arena scene b { b with target := some target' } []
  | elements {rule : DrawRule} {strokes : List Stroke} {target' : Option OffscreenTarget}
      (hrule : b.rules.draws scene.pass = some rule) (h : ∀ t ∈ target', t.handle.isSome)
      (hdraws : b.core.Draws arena rule b.core.elements strokes) :
      DrawsTo arena scene b { b with target := target' } strokes

theorem Bin.DrawsTo.draws {arena : FrameArena Submission} {b b' : Bin} {strokes : List Stroke}
    (h : b.DrawsTo arena scene b' strokes) : b.Draws arena scene strokes := by
  cases h with
  | resting h => exact .resting h
  | refused htarget _ => exact .refused (htarget ▸ rfl)
  | elements hrule _ hdraws => exact .elements hrule hdraws

namespace Bin

variable {b b' : Bin} {arena : FrameArena Submission} {rule : DrawRule}

theorem Draws.find_of_mem {strokes : List Stroke} (h : b.Draws arena scene strokes)
    {stroke : Stroke} (hstroke : stroke ∈ strokes) {m : Member} (hm : m ∈ stroke.members) :
    m.element ∈ b.core.elements ∧ arena.find m.element.handle = some m.object := by
  cases h with
  | resting => cases hstroke
  | refused => cases hstroke
  | elements _ hdraws => exact hdraws.find_of_mem hstroke hm

theorem walk_renderBy (hrun : ((b.renderBy arena scene rule).run d).run s = .ok (((), d'), s')) :
    ∃ strokes, Walk scene d s strokes d' s' ∧
      b.core.Draws arena rule b.core.elements strokes := by
  unfold renderBy at hrun
  cases hmode : rule.mode with
  | batches =>
      rw [hmode] at hrun
      exact BinCore.walk_renderRuns true hmode hrun
  | singles =>
      rw [hmode] at hrun
      exact BinCore.walk_renderRuns false hmode hrun
  | each =>
      rw [hmode] at hrun
      exact BinCore.walk_renderEach hmode hrun

theorem walk_render (hrun : ((b.render arena scene).run d).run s = .ok ((b', d'), s')) :
    ∃ strokes, Walk scene d s strokes d' s' ∧ b.DrawsTo arena scene b' strokes := by
  unfold render at hrun
  cases hrule : b.rules.draws scene.pass with
  | none =>
      rw [hrule] at hrun
      cases hrun
      exact ⟨[], .done _ _, .resting hrule⟩
  | some rule =>
      rw [hrule] at hrun
      cases htarget : b.target with
      | none =>
          rw [htarget] at hrun
          obtain ⟨_, _, _, hdraw, hrun⟩ := of_runs_bind hrun
          cases hrun
          obtain ⟨strokes, hwalk, hdraws⟩ := walk_renderBy hdraw
          have hnone : ∀ t ∈ b.target, t.handle.isSome := by
            rw [htarget]
            exact fun t ht => absurd ht (Option.not_mem_none t)
          exact ⟨strokes, hwalk, .elements hrule hnone hdraws⟩
      | some target =>
          rw [htarget] at hrun
          obtain ⟨⟨handle, target'⟩, s₁, hacquire, hrun⟩ := of_runs_lift_bind hrun
          have haside := OffscreenTarget.aside_acquire hacquire
          have hhandle := OffscreenTarget.handle_of_acquire hacquire
          cases handle with
          | none =>
              cases hrun
              exact ⟨[], .aside haside (.done _ _), .refused htarget hhandle⟩
          | some h =>
              obtain ⟨_, d₂, s₂, hdraw, hrun⟩ := of_runs_bind hrun
              obtain ⟨_, s₃, hleave, hrun⟩ := of_runs_lift_bind hrun
              cases hleave
              cases hrun
              obtain ⟨strokes, hwalk, hdraws⟩ := walk_renderBy hdraw
              have hleft : Walk scene d' s₂ [] d' (s₂.applyAll (OffscreenTarget.leave h)) :=
                .aside (OffscreenTarget.aside_leave h s₂) (.done d' _)
              have hframe := Walk.aside haside (hwalk.append hleft)
              rw [List.append_nil] at hframe
              have hacquired : ∀ t ∈ some target', t.handle.isSome := by
                rintro t ⟨⟩
                rw [hhandle]
                rfl
              exact ⟨strokes, hframe, .elements hrule hacquired hdraws⟩

end Bin

/-- The turn of a bin in a frame. -/
structure Turn where
  before : Bin
  after : Bin
  strokes : List Stroke

/-- Every bin in turn. -/
theorem Pipeline.walk_drawAll {arena : FrameArena Submission} {bins drawn : List Bin}
    (hrun : ((drawAll arena scene bins).run d).run s = .ok ((drawn, d'), s')) :
    ∃ turns : List Turn, turns.map Turn.before = bins.map Bin.sort ∧
      turns.map Turn.after = drawn ∧
      (∀ t ∈ turns, t.before.DrawsTo arena scene t.after t.strokes) ∧
      Walk scene d s (turns.flatMap Turn.strokes) d' s' := by
  induction bins generalizing d s drawn with
  | nil =>
      cases hrun
      exact ⟨[], rfl, rfl, fun _ h => absurd h List.not_mem_nil, .done _ _⟩
  | cons b rest ih =>
      rw [drawAll, List.mapM_cons] at hrun
      obtain ⟨b', d₁, s₁, hb, hrun⟩ := of_runs_bind hrun
      obtain ⟨drawn', d₂, s₂, hrest, hrun⟩ := of_runs_bind hrun
      cases hrun
      obtain ⟨strokes, hwalk, hdraws⟩ := Bin.walk_render hb
      obtain ⟨turns, hbefore, hafter, hturns, hwalk'⟩ := ih hrest
      refine ⟨⟨b.sort, b', strokes⟩ :: turns, by rw [List.map_cons, hbefore, List.map_cons],
        by rw [List.map_cons, hafter], List.forall_mem_cons.mpr ⟨hdraws, hturns⟩, ?_⟩
      rw [List.flatMap_cons]
      exact hwalk.append hwalk'

/-- A frame is a chain of strokes: those of the bins, in the order of drawing. -/
theorem Pipeline.Listed.walk_render {p p' : Pipeline} {l l' : Library} {stats : FrameStats}
    (hp : p.Listed) (hrun : (p.render l scene).run s = .ok ((stats, l', p'), s')) :
    ∃ turns : List Turn, turns.map Turn.before = p.drawingOrder.map Bin.sort ∧
      p'.drawingOrder = turns.map (·.after.clear) ∧
      (∀ t ∈ turns, t.before.DrawsTo p.arena scene t.after t.strokes) ∧
      Walk scene ⟨l, p.stats⟩ s (turns.flatMap Turn.strokes) ⟨l', stats⟩ s' := by
  obtain ⟨drawn, hdraw, hdrawn⟩ := hp.drawn_of_render hrun
  obtain ⟨turns, hbefore, hafter, hturns, hwalk⟩ := walk_drawAll hdraw
  refine ⟨turns, hbefore, ?_, hturns, hwalk⟩
  rw [hdrawn, ← hafter, List.map_map]
  rfl

end MaterialPipeline
