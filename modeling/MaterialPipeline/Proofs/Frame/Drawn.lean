import MaterialPipeline.Frame.Builtin
import MaterialPipeline.Proofs.Frame.Strokes
import MaterialPipeline.Proofs.Material.Builds

/-!
# Proofs — Frame — Drawn

What is bound at every draw of a frame.

* `Stroke.causes`: what the draws of a stroke are issued for.
* `Cause.Right`: what should be bound at a draw.
* `Library.Ready`: what has to hold before a frame, and holds after it.
* `Walk.issues`: the draws of a chain of strokes.
* `Pipeline.Reachable.draws_of_render`: the draws of a frame over built-in bins.
-/

namespace MaterialPipeline

open MaterialPipeline.Action

variable {scene : Scene} {limits : Limits} {kind : BinKind} {material : MaterialRef}
  {objects : List Submission} {d d₁ d' : Drawing} {s s₁ s₂ s' s₀ : Session}
  {library : Library} {found : Option (FormPlace × Form)} {others : Multiset Object}

/-! ### Strokes on a library at rest -/

/-- The calls of a stroke with what the library gives. -/
def strokeCalls (limits : Limits) (scene : Scene) (kind : BinKind) (objects : List Submission) :
    Option BuiltMaterial → List Call
  | none => []
  | some b => callsOf (b.passes.flatMap (Form.roundEvents b limits scene kind objects))

/-- The library stays as it was when it was asked, and every pass is gone through. -/
theorem run_drawBatch_of_idle (scene : Scene) (kind : BinKind) (objects : List Submission)
    (hl : d.library.Idle)
    (hfound : (d.library.renderable material).run s = .ok ((found, library), s₁)) :
    ((drawBatch scene kind material objects).run d).run s =
        .ok (((), ⟨library, d.stats.drawn (strokeRounds found) objects.length⟩),
          s₁.applyAll (strokeEvents s₁.device.limits scene kind material objects found)) ∧
      callsOf (strokeEvents s₁.device.limits scene kind material objects found) =
        strokeCalls s₁.device.limits scene kind objects (found.bind (·.2.built)) ∧
      strokeRounds found = ((found.bind (·.2.built)).map (·.passes.length)).getD 0 := by
  obtain ⟨library', hrewound, hrun⟩ := run_drawBatch scene kind objects hfound
  cases found with
  | none =>
      cases hrewound
      exact ⟨hrun, rfl, rfl⟩
  | some found =>
      obtain ⟨place, form⟩ := found
      obtain ⟨hat, hbuilt⟩ := Library.at_of_renderable hfound
      have hcurrent := (hl.renderable hfound).current hat
      have hform : { form with current := none } = form := by rw [← hcurrent]
      have hrewound : library.setForm place { form with current := none } = .ok library' := hrewound
      rw [hform, Library.setForm_self hat] at hrewound
      cases hrewound
      obtain ⟨b, hb⟩ := Option.isSome_iff_exists.mp hbuilt
      have hpasses : form.remainingPasses = b.passes := by
        rw [Form.remainingPasses, Form.nextPass, hcurrent, hb]
        rfl
      have hleave : form.leavePass = [] := by
        rw [Form.leavePass, hcurrent, hb]
      refine ⟨hrun, ?_, ?_⟩
      · show callsOf (form.drawEvents _ _ _ _) = strokeCalls _ _ _ _ form.built
        rw [Form.drawEvents, hb, hleave, hpasses]
        rfl
      · show form.remainingPasses.length = (form.built.map _).getD 0
        rw [hpasses, hb]
        rfl

/-- What is given to draw with is held. -/
theorem held_of_renderable
    (hfound : (d.library.renderable material).run s = .ok ((found, library), s₁))
    {b : BuiltMaterial} (hb : found.bind (·.2.built) = some b) :
    ∃ holding ∈ library.holdings, holding.built = b := by
  obtain ⟨⟨place, form⟩, rfl, hb⟩ := Option.bind_eq_some_iff.mp hb
  obtain ⟨rest, hholdings, -⟩ := Library.holdings_split_at (Library.at_of_renderable hfound).1
  have hb : form.built = some b := hb
  have hform : form.holdings = {⟨form.material, form.format, form.variant, b⟩} := by
    rw [Form.holdings, hb]
  refine ⟨⟨form.material, form.format, form.variant, b⟩, ?_, rfl⟩
  rw [hholdings, hform]
  exact Multiset.mem_add.mpr (.inl (Multiset.mem_singleton_self _))

/-- What is given to draw with has complete passes, each with a program of its own, and its textures
are loaded. -/
theorem furnished_of_renderable (h₀ : s₀.device.Owns others) (h : Library.Reached s₀ d.library s)
    (hfound : (d.library.renderable material).run s = .ok ((found, library), s₁))
    {b : BuiltMaterial} (hb : found.bind (·.2.built) = some b) :
    b.Furnished s₁.device ∧ (b.passes.map (·.program)).Nodup := by
  have haccounts := (h.renderable hfound).accounts h₀
  obtain ⟨holding, hheld, rfl⟩ := held_of_renderable hfound hb
  obtain ⟨hnodup, -⟩ := Multiset.nodup_bind.mp (Multiset.nodup_add.mp haccounts.owns.nodup).1
  exact ⟨(haccounts.sound _ hheld).furnished.1,
    BuiltMaterial.nodup_programs (Multiset.coe_nodup.mp (hnodup holding hheld))⟩

/-! ### Causes -/

/-- What a draw is issued for. -/
inductive Cause where
  /-- An object, in a pass of what is built of its material. -/
  | pass (kind : BinKind) (member : Member) (built : BuiltMaterial) (p : Pass)
  /-- An object that draws itself. -/
  | self (member : Member) (range : PrimitiveRange)

namespace Stroke

/-- What the draws of a stroke are issued for: every pass goes over the objects in order. -/
def causes : Stroke → List Cause
  | batch kind _ members (some b) => b.passes.flatMap fun p => members.map (.pass kind · b p)
  | batch _ _ _ none => []
  | delegate member ranges => ranges.map (.self member)

theorem of_mem_causes {stroke : Stroke} {m : Member} {b : BuiltMaterial} {p : Pass}
    (h : .pass kind m b p ∈ stroke.causes) :
    ∃ material members, stroke = .batch kind material members (some b) := by
  cases stroke with
  | delegate member ranges =>
      obtain ⟨range, -, hrange⟩ := List.mem_map.mp h
      cases hrange
  | batch kind' material members built =>
      cases built with
      | none => cases h
      | some b' =>
          obtain ⟨p', -, hm⟩ := List.mem_flatMap.mp h
          obtain ⟨m', -, hpass⟩ := List.mem_map.mp hm
          cases hpass
          exact ⟨material, members, rfl⟩

/-- The objects that are drawn with a material have vertices. -/
def Equipped : Stroke → Prop
  | batch _ _ members _ => ∀ m ∈ members, m.object.vertices.isSome
  | delegate _ _ => True

end Stroke

/-- How a draw comes about: no texture was bound at the start of its round. -/
inductive Cause.Explains (scene : Scene) (limits : Limits) (device : Device) :
    Cause → Drawn → Prop where
  | pass {kind : BinKind} {m : Member} {b : BuiltMaterial} {p : Pass} {σ : Registers}
      (hp : p ∈ b.passes) (hb : b.Furnished device) (hv : m.object.vertices.isSome)
      (hσ : σ.Clear) : Explains scene limits device (.pass kind m b p)
        ⟨Form.bound σ b limits scene kind p m.object, m.object.range⟩
  | self {m : Member} {range : PrimitiveRange} {σ : Registers} :
      Explains scene limits device (.self m range) ⟨σ, range⟩

theorem Cause.Explains.mono {device device' : Device} (hd : device.Grows device') {cause : Cause}
    {drawn : Drawn} (h : cause.Explains scene limits device drawn) :
    cause.Explains scene limits device' drawn := by
  cases h with
  | pass hp hb hv hσ => exact .pass hp (hb.mono hd) hv hσ
  | self => exact .self

/-- The draws of a stroke with what the library gives. -/
theorem explains_stroke (limits : Limits) (scene : Scene) (kind : BinKind) (material : MaterialRef)
    {σ : Registers} {device : Device} {members : List Member} {built : Option BuiltMaterial}
    (hσ : σ.Clear) (hv : ∀ m ∈ members, m.object.vertices.isSome)
    (hb : ∀ b, built = some b → b.Furnished device) :
    (σ.run (strokeCalls limits scene kind (members.map Member.object) built)).Clear ∧
      List.Forall₂ (Cause.Explains scene limits device)
        (Stroke.causes (.batch kind material members built))
        (σ.draws (strokeCalls limits scene kind (members.map Member.object) built)) := by
  cases built with
  | none => exact ⟨hσ, .nil⟩
  | some b =>
      have hobjects : ∀ o ∈ members.map Member.object, o.vertices.isSome :=
        List.forall_mem_map.mpr hv
      have hround : ∀ p ∈ b.passes, ∀ σ : Registers, σ.Clear → (σ.run (callsOf
          (Form.roundEvents b limits scene kind (members.map Member.object) p))).Clear :=
        fun p _ σ hσ => Form.clear_round hobjects hσ
      refine ⟨Form.run_rounds hround hσ, ?_⟩
      have hdraws := Form.draws_rounds hobjects hround hσ
      -- Objects and causes are two readings of one list of passes and members.
      obtain ⟨pairs, hpairs⟩ : ∃ pairs : List (Pass × Member),
          pairs = b.passes.flatMap fun p => members.map (p, ·) := ⟨_, rfl⟩
      have hcauses : Stroke.causes (.batch kind material members (some b)) =
          pairs.map fun x => .pass kind x.2 b x.1 := by
        rw [hpairs, List.map_flatMap]
        simp only [List.map_map]
        rfl
      have hread : (b.passes.flatMap fun p => (members.map Member.object).map (p, ·)) =
          pairs.map fun x => (x.1, x.2.object) := by
        rw [hpairs, List.map_flatMap]
        simp only [List.map_map]
        rfl
      have hmem : ∀ x ∈ pairs, x.1 ∈ b.passes ∧ x.2.object.vertices.isSome := by
        intro x hx
        rw [hpairs] at hx
        obtain ⟨p, hp, hx⟩ := List.mem_flatMap.mp hx
        obtain ⟨m, hm, rfl⟩ := List.mem_map.mp hx
        exact ⟨hp, hv m hm⟩
      rw [hread, List.forall₂_map_left_iff] at hdraws
      rw [hcauses, List.forall₂_map_left_iff]
      refine ((List.forall₂_and_left ..).mpr ⟨hmem, hdraws⟩).imp ?_
      rintro ⟨p, m⟩ drawn ⟨⟨hp, hm⟩, σ', hσ', rfl⟩
      exact .pass hp (hb b rfl) hm hσ'

/-! ### Chains -/

/-- On the way from one device to another, draws were issued for some causes, one after another, and
at the end no texture is bound. -/
structure Device.Issues (scene : Scene) (d : Device) (causes : List Cause) (d' : Device) :
    Prop where
  limits : d'.limits = d.limits
  grows : d.Grows d'
  clear : d'.registers.Clear
  draws : ∃ calls, d'.calls.toList = d.calls.toList ++ calls ∧
    List.Forall₂ (Cause.Explains scene d.limits d') causes (d.registers.draws calls)

namespace Device.Issues

variable {device device₁ device' : Device} {causes causes' : List Cause}

theorem of_quiet (hquiet : device.Quiet device') (hgrows : device.Grows device')
    (hclear : device.registers.Clear) : device.Issues scene [] device' := by
  obtain ⟨calls, hcalls, hc⟩ := hquiet.calls
  refine ⟨hquiet.limits, hgrows, hquiet.registers_eq.symm ▸ hclear, calls, hcalls, ?_⟩
  rw [Registers.draws_of_isQuiet hc]
  exact .nil

theorem trans (h : device.Issues scene causes device₁) (h' : device₁.Issues scene causes' device') :
    device.Issues scene (causes ++ causes') device' := by
  obtain ⟨calls, hcalls, hdraws⟩ := h.draws
  obtain ⟨calls', hcalls', hdraws'⟩ := h'.draws
  refine ⟨h'.limits.trans h.limits, h.grows.trans h'.grows, h'.clear, calls ++ calls',
    by rw [hcalls', hcalls, List.append_assoc], ?_⟩
  rw [Registers.draws_append, ← Device.registers_of_calls hcalls]
  rw [h.limits] at hdraws'
  exact List.rel_append (hdraws.imp fun _ _ hx => hx.mono h'.grows) hdraws'

end Device.Issues

/-- A stroke with a material. -/
theorem issues_batch {members : List Member} (h₀ : s₀.device.Owns others)
    (hreached : Library.Reached s₀ d.library s) (hidle : d.library.Idle)
    (hclear : s.device.registers.Clear) (hv : ∀ m ∈ members, m.object.vertices.isSome)
    (hfound : (d.library.renderable material).run s = .ok ((found, library), s₁))
    (hrun : ((drawBatch scene kind material (members.map Member.object)).run d).run s =
      .ok (((), d'), s')) :
    d'.library.Idle ∧ s.device.Issues scene
      (Stroke.causes (.batch kind material members (found.bind (·.2.built)))) s'.device := by
  obtain ⟨hrun', hstroke, -⟩ :=
    run_drawBatch_of_idle scene kind (members.map Member.object) hidle hfound
  cases hrun'.symm.trans hrun
  refine ⟨hidle.renderable hfound, ?_⟩
  -- First the library is asked, and builds if need be; then the stroke is drawn.
  have hmanages := hreached.manages_renderable h₀ hfound
  have hasked : s.device.Issues scene [] s₁.device :=
    .of_quiet hmanages.quiet hmanages.grows hclear
  have hadjusts := s₁.adjusts_applyAll
    (strokeEvents s₁.device.limits scene kind material (members.map Member.object) found)
    fun c hc => Call.isManaging_of_isQuiet (isQuiet_stroke hc)
  have hcalls := s₁.calls_applyAll
    (strokeEvents s₁.device.limits scene kind material (members.map Member.object) found)
  rw [hstroke] at hcalls
  obtain ⟨hcleared, hdraws⟩ := explains_stroke s₁.device.limits scene kind material hasked.clear hv
    fun b hb => (furnished_of_renderable h₀ hreached hfound hb).1
  refine hasked.trans ⟨s₁.limits_applyAll _, hadjusts.grows, ?_, _, hcalls, ?_⟩
  · rw [Device.registers_of_calls hcalls]
    exact hcleared
  · exact hdraws.imp fun _ _ hx => hx.mono hadjusts.grows

/-- An object that draws itself. -/
theorem issues_delegate {member : Member} {delegate : Delegate}
    (hclear : s.device.registers.Clear)
    (hrun : ((drawDelegate delegate member.object).run d).run s = .ok (((), d'), s')) :
    d'.library = d.library ∧ s.device.Issues scene
      (Stroke.causes (.delegate member (delegate.ranges member.object.range))) s'.device := by
  cases hrun
  have hcalls :=
    s.calls_applyAll ((delegate.ranges member.object.range).map fun r => .call (.draw r))
  rw [callsOf_map_call] at hcalls
  have hadjusts := s.adjusts_applyAll
    ((delegate.ranges member.object.range).map fun r => .call (.draw r)) fun c hc => by
      rw [callsOf_map_call] at hc
      obtain ⟨range, -, rfl⟩ := List.mem_map.mp hc
      rfl
  refine ⟨rfl, s.limits_applyAll _, hadjusts.grows, ?_, _, hcalls, ?_⟩
  · rw [Device.registers_of_calls hcalls, Registers.run_map_draw]
    exact hclear
  · rw [Registers.draws_map_draw, Stroke.causes, List.forall₂_map_left_iff,
      List.forall₂_map_right_iff, List.forall₂_same]
    exact fun _ _ => .self

/-- The library has been in use since `s₀`, and all is set for a frame: no pass of any form is set
up, and no texture is bound. -/
structure Library.Ready (s₀ : Session) (l : Library) (s : Session) : Prop where
  reached : Library.Reached s₀ l s
  idle : l.Idle
  clear : s.device.registers.Clear

/-- **A chain of strokes.**  Draws are issued for the causes of the strokes, one after another, and
the library and the device are left as they have to be before a chain. -/
theorem Walk.issues {strokes : List Stroke} (h₀ : s₀.device.Owns others)
    (h : Walk scene d s strokes d' s') (hready : d.library.Ready s₀ s)
    (hequipped : ∀ stroke ∈ strokes, stroke.Equipped) :
    d'.library.Ready s₀ s' ∧ s.device.Issues scene (strokes.flatMap Stroke.causes) s'.device := by
  induction h with
  | done d s =>
      have hquiet := Device.Quiet.refl s.device
      exact ⟨hready, .of_quiet hquiet (.refl _) hready.clear⟩
  | aside haside _ ih =>
      have hfirst : Device.Issues scene _ [] _ :=
        .of_quiet haside.quiet haside.adjusts.grows hready.clear
      obtain ⟨hready', hrest⟩ :=
        ih ⟨hready.reached.adjusts haside.adjusts, hready.idle, hfirst.clear⟩ hequipped
      exact ⟨hready', hfirst.trans hrest⟩
  | batch hfound hrun _ ih =>
      obtain ⟨hstroke, hstrokes⟩ := List.forall_mem_cons.mp hequipped
      obtain ⟨hidle, hfirst⟩ :=
        issues_batch h₀ hready.reached hready.idle hready.clear hstroke hfound hrun
      obtain ⟨hready', hrest⟩ :=
        ih ⟨reached_of_drawBatch hready.reached hrun, hidle, hfirst.clear⟩ hstrokes
      exact ⟨hready', hfirst.trans hrest⟩
  | delegate hrun hwalk ih =>
      obtain ⟨-, hstrokes⟩ := List.forall_mem_cons.mp hequipped
      have hone : Walk scene _ _ _ _ _ := .delegate hrun (.done _ _)
      obtain ⟨hlibrary, hfirst⟩ := issues_delegate hready.clear hrun
      obtain ⟨hready', hrest⟩ :=
        ih ⟨hone.reached hready.reached, hlibrary ▸ hready.idle, hfirst.clear⟩ hstrokes
      exact ⟨hready', hfirst.trans hrest⟩

/-! ### Built-in bins -/

/-- A bin of the rules of a built-in bin and of its name, at any places in the two orders, with any
elements and any target. -/
def Bin.BuiltIn (b : Bin) : Prop :=
  ∃ size, ∃ b₀ ∈ Bin.standard size, b.name = b₀.name ∧ b.rules = b₀.rules

namespace Bin

variable {b : Bin} {arena : FrameArena Submission}

theorem BuiltIn.sort (h : b.BuiltIn) : b.sort.BuiltIn := by
  obtain ⟨size, b₀, hb₀, hname, hrules⟩ := h
  exact ⟨size, b₀, hb₀, name_sort.trans hname, hrules⟩

/-- The glow bin alone draws for glow, and the pre-pass bin alone ahead of colour. -/
theorem BuiltIn.kind_of_draws {rule : DrawRule} {pass : ScenePass} (h : b.BuiltIn)
    (hrule : b.rules.draws pass = some rule) :
    (rule.kind = .glow ↔ b.name = "glow") ∧ (rule.kind = .prePass ↔ b.name = "prepass") := by
  obtain ⟨size, b₀, hb₀, hname, hrules⟩ := h
  rw [hrules] at hrule
  rw [hname]
  have hsolid : ∀ {rule}, drawsOpaque pass = some rule → rule.kind = .regular := by
    rintro rule ⟨⟩
    rfl
  have htranslucent : ∀ {rule}, drawsTranslucent pass = some rule → rule.kind = .translucent := by
    intro rule h
    unfold drawsTranslucent at h
    split at h <;> cases h
    rfl
  have hhooked : ∀ {hook kind rule}, drawsHooked hook kind pass = some rule → rule.kind = kind := by
    intro hook kind rule h
    unfold drawsHooked at h
    split at h <;> cases h
    rfl
  simp only [standard, List.mem_cons, List.not_mem_nil, or_false] at hb₀
  rcases hb₀ with rfl | rfl | rfl | rfl | rfl | rfl | rfl
  · rw [hhooked hrule]
    show (_ ↔ "prepass" = _) ∧ (_ ↔ "prepass" = _)
    decide
  · rw [hsolid hrule]
    decide
  · rw [hsolid hrule]
    decide
  · cases hrule
    decide
  · rw [htranslucent hrule]
    decide
  · rw [htranslucent hrule]
    show (_ ↔ "particle" = _) ∧ (_ ↔ "particle" = _)
    decide
  · rw [hhooked hrule]
    show (_ ↔ "glow" = _) ∧ (_ ↔ "glow" = _)
    decide

/-- The objects that the bin draws with a material have vertices. -/
def Equipped (arena : FrameArena Submission) (scene : Scene) (b : Bin) : Prop :=
  ∀ rule, b.rules.draws scene.pass = some rule → ∀ e ∈ b.core.elements, ∀ o,
    arena.find e.handle = some o → (b.core.materialFor o rule.hook).isSome →
      (rule.mode = .each → o.delegate = none) → o.vertices.isSome

theorem Equipped.sort (h : b.Equipped arena scene) : b.sort.Equipped arena scene := by
  intro rule hrule e he o hfind hmaterial hdelegate
  obtain ⟨elements, hperm, hcore⟩ := core_sort (b := b)
  rw [hcore] at he hmaterial
  exact h rule hrule e (hperm.mem_iff.mp he) o hfind hmaterial hdelegate

/-- The strokes of a bin draw objects with vertices. -/
theorem Equipped.strokes {strokes : List Stroke} (h : b.Equipped arena scene)
    (hdraws : b.Draws arena scene strokes) : ∀ stroke ∈ strokes, stroke.Equipped := by
  intro stroke hstroke
  cases hdraws with
  | resting => exact absurd hstroke List.not_mem_nil
  | refused => exact absurd hstroke List.not_mem_nil
  | @elements rule _ hrule hdraws =>
      cases stroke with
      | delegate => exact trivial
      | batch kind material members built =>
          obtain ⟨-, hmembers, -⟩ := hdraws.suits _ hstroke
          intro m hm
          obtain ⟨hmaterial, hdelegate⟩ := hmembers m hm
          -- A member comes from an element of the bin.
          have hflat : m ∈ strokes.flatMap Stroke.members := List.mem_flatMap.mpr ⟨_, hstroke, hm⟩
          rw [hdraws.members] at hflat
          obtain ⟨e, he, hmember⟩ := List.mem_filterMap.mp hflat
          obtain ⟨o, ho, rfl⟩ := Option.map_eq_some_iff.mp hmember
          obtain ⟨hfind, -⟩ := Option.filter_eq_some_iff.mp ho
          exact h rule hrule e he o hfind (Option.isSome_iff_exists.mpr ⟨_, hmaterial⟩) hdelegate

/-- The strokes of a bin are of the kind of its rule. -/
theorem BuiltIn.kind_of_stroke {strokes : List Stroke} (h : b.BuiltIn)
    (hdraws : b.Draws arena scene strokes) {kind : BinKind} {material : MaterialRef}
    {members : List Member} {built : Option BuiltMaterial}
    (hstroke : .batch kind material members built ∈ strokes) :
    (kind = .glow ↔ b.name = "glow") ∧ (kind = .prePass ↔ b.name = "prepass") := by
  cases hdraws with
  | resting => exact absurd hstroke List.not_mem_nil
  | refused => exact absurd hstroke List.not_mem_nil
  | elements hrule hdraws =>
      obtain ⟨rfl, -⟩ := hdraws.suits _ hstroke
      exact h.kind_of_draws hrule

end Bin

/-! ### What should be bound -/

/-- What a binding should read for an object: its light map, or the map of a stage, loaded from the
path that the material authors, if it authors one. -/
def Binding.Reads (binding : Binding) (device : Device) (b : BuiltMaterial) (o : Submission)
    (texture : Option TextureHandle) : Prop :=
  match binding.source with
  | .lightMap => texture = o.lightMap
  | .map stage kind =>
    match b.material.stages[stage]?.bind (·.map kind) with
    | some path => ∃ h, texture = some h ∧
        b.texture? path = some h ∧ device.texturePath? h = some path
    | none => texture = none

/-- What should be bound when a bin of the name `bin` draws an object in a pass. -/
structure Drawn.Right (scene : Scene) (limits : Limits) (device : Device) (bin : String)
    (b : BuiltMaterial) (p : Pass) (o : Submission) (drawn : Drawn) : Prop where
  program : drawn.registers .program = some p.program
  state : ∃ c : Conditions, (c.glow ↔ bin = "glow") ∧ (c.reflect ↔ scene.pass = .reflect) ∧
    (c.translucent ↔ b.material.translucent ∧ bin ≠ "prepass") ∧
    (c.wireframe ↔ scene.wireframe ∧ limits.wireframe) ∧
    ∃ h, p.states[c.bits]? = some h ∧ drawn.registers .state = some h
  textures : ∀ binding ∈ p.bindings, ∃ texture,
    drawn.registers (.texture binding.slot) = some texture ∧ binding.Reads device b o texture
  /-- Nothing, or nothing yet. -/
  others : ∀ slot, (∀ binding ∈ p.bindings, binding.slot ≠ slot) →
    (drawn.registers (.texture slot)).join = none
  vertices : drawn.registers .vertices = o.vertices
  indices : drawn.registers .indices = some o.indices
  range : drawn.range = o.range

/-- What should be bound at a draw that a bin of the name `bin` issues. -/
def Cause.Right (scene : Scene) (limits : Limits) (device : Device) (bin : String) :
    Cause → Drawn → Prop
  | .pass _ m b p, drawn => drawn.Right scene limits device bin b p m.object
  | .self _ range, drawn => drawn.range = range

theorem BuiltMaterial.pathOf_map {m : Material} {binding : Binding} {stage : Nat} {kind : MapKind}
    (h : binding.source = .map stage kind) :
    pathOf m binding = (m.stages[stage]?.bind (·.map kind)).map (stage, ·) := by
  simp only [pathOf, h]
  cases m.stages[stage]? with
  | none => rfl
  | some authored =>
      show (do return (stage, ← authored.map kind)) = (authored.map kind).map (stage, ·)
      cases authored.map kind <;> rfl

/-- The textures of a furnished material are what the bindings should read. -/
theorem BuiltMaterial.Furnished.reads {device : Device} {b : BuiltMaterial} {p : Pass}
    {binding : Binding} {draw : DrawContext} {o : Submission} (hb : b.Furnished device)
    (hp : p ∈ b.passes) (hbinding : binding ∈ p.bindings) (hdraw : draw.lightMap = o.lightMap) :
    binding.Reads device b o (b.boundTexture draw binding) := by
  unfold Binding.Reads BuiltMaterial.boundTexture
  cases hsource : binding.source with
  | lightMap => exact hdraw
  | map stage kind =>
      have hpath := BuiltMaterial.pathOf_map (m := b.material) hsource
      cases hmap : b.material.stages[stage]?.bind (·.map kind) with
      | none =>
          rw [hmap] at hpath
          simp only [hpath, hmap]
          rfl
      | some path =>
          rw [hmap] at hpath
          obtain ⟨h, hloaded, hauthored⟩ := hb.textures p hp binding hbinding stage path hpath
          simp only [hpath, hmap]
          exact ⟨h, hloaded, hloaded, hauthored⟩

theorem Cause.Explains.right {device : Device} {bin : String} {cause : Cause} {drawn : Drawn}
    (h : cause.Explains scene limits device drawn)
    (hkind : ∀ kind m b p, cause = .pass kind m b p →
      (kind = .glow ↔ bin = "glow") ∧ (kind = .prePass ↔ bin = "prepass")) :
    cause.Right scene limits device bin drawn := by
  cases h with
  | self => rfl
  | @pass kind m b p σ hp hb hv hσ =>
      obtain ⟨hglow, hprePass⟩ := hkind kind m b p rfl
      have hbits (c : Conditions) : c.bits < p.states.length := by
        rw [hb.states p hp]
        rcases c with ⟨_ | _, _ | _, _ | _, _ | _⟩ <;> decide
      exact {
        program := Form.bound_program
        state := by
          refine ⟨b.conditions limits scene { bin := kind }, ?_, ?_, ?_, ?_, _,
            List.getElem?_eq_getElem (hbits _), ?_⟩
          · exact beq_iff_eq.trans hglow
          · exact beq_iff_eq
          · exact (Bool.and_eq_true_iff.trans (and_congr_right' bne_iff_ne)).trans
              (and_congr_right' (not_congr hprePass))
          · exact Bool.and_eq_true_iff
          · refine Form.bound_state.trans ?_
            rw [Pass.state, List.getElem?_eq_getElem (hbits _)]
            rfl
        textures := fun binding hbinding =>
          ⟨_, Form.bound_texture hv (hb.slots p hp) hbinding, hb.reads hp hbinding rfl⟩
        others := by
          intro slot hslot
          refine (congrArg Option.join (Form.bound_texture_of_ne hv hslot)).trans ?_
          exact hσ slot
        vertices := Form.bound_vertices hv
        indices := Form.bound_indices hv
        range := rfl }

/-! ### Frames -/

namespace Pipeline

variable {p p' : Pipeline} {l l' : Library} {stats : FrameStats}

/-- **What is bound at the draws of a frame.**  A frame over built-in bins draws stroke by stroke,
and at every draw the right things are bound.  Afterwards all is set for the next frame. -/
theorem Reachable.draws_of_render (hp : p.Reachable) (hbins : ∀ b ∈ p.bins, b.BuiltIn)
    (hvertices : ∀ b ∈ p.bins, b.Equipped p.arena scene) (howns : s₀.device.Owns others)
    (hl : l.Ready s₀ s)
    (hrun : (p.render l scene).run s = .ok ((stats, l', p'), s')) :
    ∃ (frame : List (Bin × List Stroke)) (calls : List Call),
      frame.map Prod.fst = p.drawingOrder.map Bin.sort ∧
      (∀ x ∈ frame, x.1.Draws p.arena scene x.2) ∧
      Walk scene ⟨l, p.stats⟩ s (frame.flatMap Prod.snd) ⟨l', stats⟩ s' ∧
      s'.device.calls.toList = s.device.calls.toList ++ calls ∧
      List.Forall₂ (fun (x : Bin × Cause) drawn =>
          x.2.Right scene s.device.limits s'.device x.1.name drawn)
        (frame.flatMap fun x => (x.2.flatMap Stroke.causes).map (x.1, ·))
        (s.device.registers.draws calls) ∧
      l'.Ready s₀ s' := by
  obtain ⟨turns, hbefore, -, hturns, hwalk⟩ := hp.inOrder.listed.walk_render hrun
  obtain ⟨frame, hturn⟩ : ∃ frame : List (Bin × List Stroke),
      frame = turns.map fun t => (t.before, t.strokes) := ⟨_, rfl⟩
  have hframe : frame.map Prod.fst = p.drawingOrder.map Bin.sort := by
    rw [hturn, List.map_map, ← hbefore]
    rfl
  have hdraws : ∀ x ∈ frame, x.1.Draws p.arena scene x.2 := by
    intro x hx
    obtain ⟨t, ht, rfl⟩ := List.mem_map.mp (hturn ▸ hx)
    exact (hturns t ht).draws
  have hwalk : Walk scene ⟨l, p.stats⟩ s (frame.flatMap Prod.snd) ⟨l', stats⟩ s' := by
    rw [hturn, List.flatMap_map]
    exact hwalk
  have hbin : ∀ x ∈ frame, x.1.BuiltIn ∧ x.1.Equipped p.arena scene := by
    intro x hx
    have hsorted : x.1 ∈ p.drawingOrder.map Bin.sort :=
      hframe ▸ List.mem_map_of_mem hx
    obtain ⟨b, hb, hsort⟩ := List.mem_map.mp hsorted
    have hb : b ∈ p.bins := hp.inOrder.listed.perm_drawingOrder.mem_iff.mp hb
    rw [← hsort]
    exact ⟨(hbins b hb).sort, (hvertices b hb).sort⟩
  have hequipped : ∀ stroke ∈ frame.flatMap Prod.snd, stroke.Equipped := by
    intro stroke hstroke
    obtain ⟨x, hx, hstroke⟩ := List.mem_flatMap.mp hstroke
    exact (hbin x hx).2.strokes (hdraws x hx) stroke hstroke
  obtain ⟨hready, hissues⟩ := hwalk.issues howns hl hequipped
  obtain ⟨calls, hcalls, hexplained⟩ := hissues.draws
  refine ⟨frame, calls, hframe, hdraws, hwalk, hcalls, ?_, hready⟩
  obtain ⟨labels, hlabels⟩ : ∃ labels : List (Bin × Cause),
      labels = frame.flatMap fun x => (x.2.flatMap Stroke.causes).map (x.1, ·) := ⟨_, rfl⟩
  have hcauses : (frame.flatMap Prod.snd).flatMap Stroke.causes = labels.map Prod.snd := by
    rw [hlabels, List.map_flatMap, List.flatMap_assoc]
    simp only [List.map_map, Function.comp_def, List.map_id']
  have hkinds : ∀ x ∈ labels, ∀ kind m b p, x.2 = .pass kind m b p →
      (kind = .glow ↔ x.1.name = "glow") ∧ (kind = .prePass ↔ x.1.name = "prepass") := by
    intro x hx kind m b pass hpass
    rw [hlabels] at hx
    obtain ⟨y, hy, hx⟩ := List.mem_flatMap.mp hx
    obtain ⟨cause, hcause, rfl⟩ := List.mem_map.mp hx
    obtain ⟨stroke, hstroke, hcause⟩ := List.mem_flatMap.mp hcause
    have hpass : cause = .pass kind m b pass := hpass
    rw [hpass] at hcause
    obtain ⟨material, members, rfl⟩ := Stroke.of_mem_causes hcause
    exact (hbin y hy).1.kind_of_stroke (hdraws y hy) hstroke
  rw [hcauses, List.forall₂_map_left_iff] at hexplained
  rw [← hlabels]
  refine ((List.forall₂_and_left ..).mpr ⟨hkinds, hexplained⟩).imp ?_
  rintro x drawn ⟨hkind, hx⟩
  exact hx.right hkind

end Pipeline

namespace Submission

variable {o stamped : Submission}

theorem vertices_of_stamp (h : o.stamp library = .ok stamped) : stamped.vertices = o.vertices := by
  unfold stamp at h
  split at h
  next id _ =>
    cases hflags : library.flags id with
    | error fault =>
        rw [hflags] at h
        cases h
    | ok flags =>
        rw [hflags] at h
        cases h
        rfl
  next =>
    cases h
    rfl

theorem vertices_of_geometry {kind : SubmissionKind} {id : Slot} {vertices : BufferHandle}
    {indices : Option BufferHandle} {range : PrimitiveRange}
    (h : geometry kind id vertices indices range = .ok o) : o.vertices = some vertices := by
  unfold geometry at h
  cases hposition : id.position with
  | error fault =>
      rw [hposition] at h
      cases h
  | ok position =>
      rw [hposition] at h
      cases h
      rfl

end Submission

namespace Pipeline

variable {p p' : Pipeline} {l l' : Library} {stats : FrameStats}

/-- Handing in leaves built-in bins built-in. -/
theorem Routed.builtIn {h : FrameHandle} {o : Submission} {visited : List Nat} {names : List String}
    (hrouted : Routed p h o visited names p') (hbins : ∀ b ∈ p.bins, b.BuiltIn) :
    ∀ b ∈ p'.bins, b.BuiltIn := by
  have hoffer (b : Bin) (hb : b.BuiltIn) : (b.offer h o).2.BuiltIn := by
    obtain ⟨size, b₀, hb₀, hname, hrules⟩ := hb
    refine ⟨size, b₀, hb₀, (name_offer b).trans hname, ?_⟩
    rw [← hrules, Bin.offer]
    split <;> rfl
  intro b hb
  rcases hrouted.of_mem_bins hb with hb | ⟨b₀, hb₀, rfl⟩
  · exact hbins b hb
  · exact hoffer b₀ (hbins b₀ hb₀)

/-- A mesh of a plain material, drawn by the bin for meshes. -/
theorem draws_of_render_mesh : ∃ (p p' : Pipeline) (l l' : Library) (s s' : Session)
    (stats : FrameStats) (frame : List (Bin × List Stroke)) (calls : List Call),
    p.Reachable ∧ (∀ b ∈ p.bins, b.BuiltIn) ∧ (∀ b ∈ p.bins, b.Equipped p.arena {}) ∧
      ({} : Device).Owns 0 ∧ l.Ready {} s ∧
      (p.render l {}).run s = .ok ((stats, l', p'), s') ∧ stats.draws = 1 ∧
      s'.device.calls.toList = s.device.calls.toList ++ calls ∧
      List.Forall₂ (fun (x : Bin × Cause) drawn =>
          x.2.Right {} s.device.limits s'.device x.1.name drawn)
        (frame.flatMap fun x => (x.2.flatMap Stroke.causes).map (x.1, ·))
        (s.device.registers.draws calls) := by
  have hcheck : (StateT.run (do
      let l₀ ← Library.new .builtin {}
      let created ← l₀.create { name := "plain", stages := [{}] } .positionNormalUv
      let s ← get
      let o ← Submission.mesh created.1 ⟨0⟩ none (.triangles 0 3)
      let submitted ← (reorder { bins := [.mesh] }).submit created.2 o
      set s
      let rendered ← submitted.2.render created.2 {}
      return (rendered.1.draws, s.device.calls) : Action (Nat × Array Call)) {}).toOption.any
        (fun r => r.1.1 == 1 && r.1.2.toList.all Call.isQuiet) = true := by
    decide +kernel
  obtain ⟨⟨⟨draws, quiet⟩, _⟩, hrun, hgood⟩ := exists_of_any_toOption hcheck
  obtain ⟨hdraws, hquiet⟩ := Bool.and_eq_true_iff.mp hgood
  obtain ⟨l₀, s₀, hnew, hrun₁⟩ := of_run_bind hrun
  obtain ⟨⟨id, l⟩, s, hcreate, hrun₂⟩ := of_run_bind hrun₁
  obtain ⟨_, _, hget, hrun₃⟩ := of_run_bind hrun₂
  obtain ⟨rfl, rfl⟩ := Prod.mk.inj (Except.ok.inj hget)
  obtain ⟨o, s₁, hlift, hrun₄⟩ := of_run_bind hrun₃
  obtain ⟨hs, hmesh⟩ := of_run_lift hlift
  subst s₁
  obtain ⟨⟨names, p⟩, _, hsubmit, hrun₅⟩ := of_run_bind hrun₄
  obtain ⟨_, _, hset, hrun₆⟩ := of_run_bind hrun₅
  obtain ⟨-, rfl⟩ := Prod.mk.inj (Except.ok.inj hset)
  obtain ⟨⟨stats, l', p'⟩, s', hrender, hrun₇⟩ := of_run_bind hrun₆
  obtain ⟨hvalues, -⟩ := Prod.mk.inj (Except.ok.inj hrun₇)
  obtain ⟨rfl, rfl⟩ := Prod.mk.inj hvalues
  have hinstalled : (reorder { bins := [.mesh] }).Reachable :=
    .add (s := default) (b := .mesh) .empty rfl
  obtain ⟨stamped, hstamp, harena, visited, h, hrouted⟩ :=
    routed_of_submit hinstalled.inOrder.listed hsubmit
  have hp : p.Reachable := hinstalled.submit hsubmit
  have hbins : ∀ b ∈ p.bins, b.BuiltIn := by
    refine hrouted.builtIn fun b hb => ?_
    obtain rfl := List.mem_singleton.mp hb
    exact ⟨none, .mesh, by simp [Bin.standard], rfl, rfl⟩
  have hvertices : ∀ b ∈ p.bins, b.Equipped p.arena {} := by
    intro b _ rule _ e _ o' hfind _ _
    rw [harena] at hfind
    have hitem := FrameArena.mem_of_find hfind
    obtain rfl := List.mem_singleton.mp (Array.mem_toList_iff.mpr hitem)
    exact (Submission.vertices_of_stamp hstamp).trans (Submission.vertices_of_geometry hmesh) ▸ rfl
  have hl : l.Ready {} s := {
    reached := .create (.new hnew) hcreate
    idle := (Library.idle_new hnew).create (Library.Reached.new hnew).valid hcreate
    clear := by
      rw [Device.registers, Registers.run_of_isQuiet (List.all_eq_true.mp hquiet)]
      exact Registers.clear_unset }
  obtain ⟨frame, calls, -, -, -, hcalls, hright, -⟩ :=
    hp.draws_of_render hbins hvertices Device.owns_default hl hrender
  exact ⟨p, p', l, l', s, s', stats, frame, calls, hp, hbins, hvertices, Device.owns_default, hl,
    hrender, beq_iff_eq.mp hdraws, hcalls, hright⟩

end Pipeline

end MaterialPipeline
