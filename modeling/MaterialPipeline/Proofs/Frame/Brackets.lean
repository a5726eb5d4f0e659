import MaterialPipeline.Frame.Builtin
import MaterialPipeline.Proofs.Frame.Strokes
import MaterialPipeline.Proofs.Material.Works

/-!
# Proofs — Frame — Brackets

The targets that a frame draws into.  A bin with a target of its own binds it, clears it, draws, takes
it off and makes it ready to be read, all in its own turn; a bin without one does not touch targets.
So the calls of a frame are the turns of its bins one after another, and what is drawn into is the
same after the frame as before.

* `Device.Balanced`: more calls, and the same targets stacked as before.
* `Session.Bears.renderBy`: what every stroke keeps, drawing keeps.
* `DrawAction.Inside`: an effect that does not touch targets; drawing elements is one
(`Bin.inside_renderBy`).
* `OffscreenTarget.Frames`: the calls of a turn with a target.
* `Bin.bracketed_render`: the calls of a turn.
* `Pipeline.Reachable.brackets_of_render`: the calls of a frame.
-/

namespace MaterialPipeline

open MaterialPipeline.Action

variable {scene : Scene} {arena : FrameArena Submission} {d d' : Drawing} {s s' s₁ : Session}

/-! ### Calls about targets -/

/-- Whether a call is about targets. -/
def Call.isFraming : Call → Bool
  | createTarget _ | destroyTarget _ | pushTarget _ | popTarget | resolveTarget _ | clear .. => true
  | _ => false

/-- What binds or draws is not about targets. -/
theorem Call.isFraming_of_isQuiet {c : Call} (hc : c.isQuiet = false) : c.isFraming = false := by
  cases c <;> first | rfl | cases hc

namespace Device

variable {d d' d'' : Device} {calls calls' : List Call}

/-- Whether the device would not create the target. -/
def denies (d : Device) (t : Target) : Bool :=
  d.lost || d.refusesTargets || d.refuses t

/-- The device made some calls.  The same targets are stacked on it as before, and it denies the same
targets as before. -/
structure Balanced (d d' : Device) (calls : List Call) : Prop where
  targetStack : d'.targetStack = d.targetStack
  denies : d'.denies = d.denies
  calls : d'.calls.toList = d.calls.toList ++ calls

namespace Balanced

theorem refl (d : Device) : d.Balanced d [] :=
  ⟨rfl, rfl, (List.append_nil _).symm⟩

theorem trans (h : d.Balanced d' calls) (h' : d'.Balanced d'' calls') :
    d.Balanced d'' (calls ++ calls') where
  targetStack := h'.targetStack.trans h.targetStack
  denies := h'.denies.trans h.denies
  calls := by rw [h'.calls, h.calls, List.append_assoc]

theorem one {c : Call} (hstack : d'.targetStack = d.targetStack) (hdenies : d'.denies = d.denies)
    (hcalls : d'.calls = d.calls.push c) : d.Balanced d' [c] :=
  ⟨hstack, hdenies, by rw [hcalls, Array.toList_push]⟩

end Balanced

/-- A target is created unless the device denies it. -/
theorem createTarget_cases (d : Device) (t : Target) :
    (∃ error, d.denies t = true ∧
      d.createTarget t = (.error error, d.record (.createTarget t))) ∨
    (d.denies t = false ∧ d.createTarget t =
      (.ok ⟨d.targets.size⟩, { d.record (.createTarget t) with targets := d.targets.push t })) := by
  by_cases hlost : d.lost
  · exact .inl ⟨.lost, by rw [denies, hlost, Bool.true_or, Bool.true_or], if_pos hlost⟩
  · by_cases hrefuses : d.refusesTargets || d.refuses t
    · exact .inl ⟨d.targetError t, by rw [denies, Bool.or_assoc, hrefuses, Bool.or_true],
        (if_neg hlost).trans (if_pos hrefuses)⟩
    · refine .inr ⟨?_, (if_neg hlost).trans (if_neg hrefuses)⟩
      rw [denies, Bool.or_assoc, Bool.eq_false_iff.mpr hlost, Bool.eq_false_iff.mpr hrefuses]
      rfl

/-! ### Between targets -/

/-- The device made calls, but none about targets. -/
def Inside (d d' : Device) : Prop :=
  ∃ calls, d.Balanced d' calls ∧ ∀ c ∈ calls, c.isFraming = false

namespace Inside

theorem refl (d : Device) : d.Inside d :=
  ⟨[], .refl d, fun _ h => absurd h List.not_mem_nil⟩

theorem trans (h : d.Inside d') (h' : d'.Inside d'') : d.Inside d'' := by
  obtain ⟨calls, hcalls, hinside⟩ := h
  obtain ⟨calls', hcalls', hinside'⟩ := h'
  exact ⟨_, hcalls.trans hcalls', fun c hc =>
    (List.mem_append.mp hc).elim (hinside c) (hinside' c)⟩

theorem one {c : Call} (h : d.Balanced d' [c]) (hc : c.isFraming = false) : d.Inside d' :=
  ⟨[c], h, by simpa using hc⟩

end Inside

theorem inside_issue {c : Call} (hc : c.isFraming = false) : d.Inside (d.issue c) := by
  refine .one (.one ?_ ?_ (calls_issue c)) hc <;> cases c <;> first | rfl | cases hc

/-- Objects of materials are not targets. -/
theorem Works.inside (h : d.Works d') : d.Inside d' := by
  induction h with
  | refl => exact .refl d
  | @createProgram d' _ p ih =>
      refine ih.trans ?_
      rcases createProgram_cases d' p with ⟨error, he⟩ | he <;> rw [he] <;>
        exact .one (.one rfl rfl rfl) rfl
  | createState _ b ih => exact ih.trans (.one (.one rfl rfl rfl) rfl)
  | @loadTexture d' _ path ih =>
      refine ih.trans ?_
      rcases loadTexture_cases d' path with ⟨error, he⟩ | he <;> rw [he] <;>
        exact .one (.one rfl rfl rfl) rfl
  | destroy _ o ih => exact ih.trans (inside_issue (by cases o <;> rfl))

end Device

theorem Session.inside_applyAll (s : Session) (events : List Event)
    (h : ∀ c ∈ callsOf events, c.isFraming = false) :
    s.device.Inside (s.applyAll events).device := by
  induction events generalizing s with
  | nil => exact .refl _
  | cons e rest ih =>
      cases e with
      | note n => exact ih (s.apply (.note n)) h
      | call c =>
          obtain ⟨hc, hrest⟩ := List.forall_mem_cons.mp h
          exact (Device.inside_issue hc).trans (ih (s.apply (.call c)) hrest)

/-! ### What drawing keeps -/

/-- What holds from one session to another if nothing happens, and across one stroke after another.
-/
structure Session.Bears (scene : Scene) (R : Session → Session → Prop) : Prop where
  refl : ∀ s, R s s
  trans : ∀ {s s₁ s'}, R s s₁ → R s₁ s' → R s s'
  batch : ∀ {d s d' s'} (kind : BinKind) (material : MaterialRef) (objects : List Submission),
    ((drawBatch scene kind material objects).run d).run s = .ok (((), d'), s') → R s s'
  delegate : ∀ {d s d' s'} (delegate : Delegate) (o : Submission),
    ((drawDelegate delegate o).run d).run s = .ok (((), d'), s') → R s s'

/-- Whatever the drawing is, `R` holds across the effect. -/
def DrawAction.Keeps {α : Type} (R : Session → Session → Prop) (x : DrawAction α) : Prop :=
  ∀ d s r s', (x.run d).run s = .ok (r, s') → R s s'

namespace Session.Bears

variable {R : Session → Session → Prop}

theorem pure {α : Type} (h : Bears scene R) (a : α) :
    DrawAction.Keeps R (Pure.pure a : DrawAction α) := by
  intro d s r s' hrun
  cases hrun
  exact h.refl _

theorem bind {α β : Type} (h : Bears scene R) {x : DrawAction α} {f : α → DrawAction β}
    (hx : DrawAction.Keeps R x) (hf : ∀ a, DrawAction.Keeps R (f a)) :
    DrawAction.Keeps R (x >>= f) := by
  rintro d s ⟨b, d'⟩ s' hrun
  obtain ⟨a, d₁, s₁, hx', hf'⟩ := of_runs_bind hrun
  exact h.trans (hx _ _ _ _ hx') (hf a _ _ _ _ hf')

theorem lift {α : Type} (h : Bears scene R) (e : Except Fault α) :
    DrawAction.Keeps R (liftM e : DrawAction α) := by
  rintro d s ⟨a, d'⟩ s' hrun
  obtain ⟨-, rfl, -⟩ := of_runs_lift hrun
  exact h.refl _

theorem renderRuns (h : Bears scene R) (c : BinCore) (arena : FrameArena Submission)
    (hook : Option Variant) (kind : BinKind) (batch : Bool) (elements : List BinElement) :
    DrawAction.Keeps R (c.renderRuns arena scene hook kind batch elements) := by
  induction elements using BinCore.group_induction with
  | nil =>
      rw [BinCore.renderRuns]
      exact h.pure _
  | cons e rest ih =>
      have hbatch (material : MaterialRef) (objects : List Submission) :
          DrawAction.Keeps R (drawBatch scene kind material objects) :=
        fun _ _ _ _ hrun => h.batch kind material objects hrun
      rw [BinCore.renderRuns]
      refine h.bind (h.lift _) fun first => ?_
      cases c.materialFor first hook with
      | none => exact ih 0
      | some material =>
          have hrest (more : List Submission) : DrawAction.Keeps R (do
              drawBatch scene kind material (first :: more)
              c.renderRuns arena scene hook kind batch (rest.drop more.length)) :=
            h.bind (hbatch material _) fun _ => ih more.length
          cases batch with
          | true => exact h.bind (h.lift _) hrest
          | false => exact h.bind (h.pure []) hrest

theorem renderEach (h : Bears scene R) (c : BinCore) (arena : FrameArena Submission)
    (hook : Option Variant) (kind : BinKind) (elements : List BinElement) :
    DrawAction.Keeps R (c.renderEach arena scene hook kind elements) := by
  induction elements with
  | nil => exact h.pure _
  | cons e rest ih =>
      rw [BinCore.renderEach]
      refine h.bind (h.lift _) fun o => ?_
      cases o.delegate with
      | some delegate => exact h.bind (fun _ _ _ _ hrun => h.delegate delegate o hrun) fun _ => ih
      | none =>
          cases c.materialFor o hook with
          | none => exact ih
          | some material =>
              exact h.bind (fun _ _ _ _ hrun => h.batch kind material [o] hrun) fun _ => ih

/-- What every stroke keeps, a bin keeps that draws its elements. -/
theorem renderBy (h : Bears scene R) (b : Bin) (arena : FrameArena Submission) (rule : DrawRule) :
    DrawAction.Keeps R (b.renderBy arena scene rule) := by
  unfold Bin.renderBy
  cases rule.mode with
  | batches => exact h.renderRuns b.core arena rule.hook rule.kind true _
  | singles => exact h.renderRuns b.core arena rule.hook rule.kind false _
  | each => exact h.renderEach b.core arena rule.hook rule.kind _

end Session.Bears

/-! ### Drawing inside a target -/

/-- Whatever the drawing is, the effect makes no calls about targets. -/
def DrawAction.Inside {α : Type} (x : DrawAction α) : Prop :=
  ∀ d s r s', (x.run d).run s = .ok (r, s') → s.device.Inside s'.device

theorem inside_drawBatch (kind : BinKind) (material : MaterialRef) (objects : List Submission) :
    DrawAction.Inside (drawBatch scene kind material objects) := by
  intro d s r s' hrun
  obtain ⟨found, library, s₁, hfound⟩ := exists_run_renderable hrun
  obtain ⟨library', -, hrun'⟩ := run_drawBatch scene kind objects hfound
  cases hrun'.symm.trans hrun
  exact (d.library.works_renderable material _ _ _ hfound).inside.trans
    (s₁.inside_applyAll _ fun c hc => Call.isFraming_of_isQuiet (isQuiet_stroke hc))

theorem inside_drawDelegate (delegate : Delegate) (o : Submission) :
    DrawAction.Inside (drawDelegate delegate o) := by
  intro d s r s' hrun
  cases hrun
  refine s.inside_applyAll _ fun c hc => ?_
  rw [callsOf_map_call] at hc
  obtain ⟨range, -, rfl⟩ := List.mem_map.mp hc
  rfl

theorem Bin.inside_renderBy (b : Bin) (rule : DrawRule) :
    DrawAction.Inside (b.renderBy arena scene rule) := by
  have hbears : Session.Bears scene fun s s' => s.device.Inside s'.device :=
    { refl := fun s => .refl s.device
      trans := Device.Inside.trans
      batch := fun kind material objects => inside_drawBatch kind material objects _ _ _ _
      delegate := fun delegate o => inside_drawDelegate delegate o _ _ _ _ }
  exact hbears.renderBy b arena rule

/-! ### A turn with a target -/

namespace OffscreenTarget

variable {t t' : OffscreenTarget} {h : TargetHandle} {inner : List Call}

/-- The calls that create a target, if it is not on the device. -/
def creation (t : OffscreenTarget) : List Call :=
  if t.handle.isSome then [] else [.createTarget t.target]

/-- The calls that draw into a target: it is bound and cleared, drawn into, taken off and made ready
to be read. -/
def bracket (t : OffscreenTarget) (h : TargetHandle) (inner : List Call) : List Call :=
  [.pushTarget h, .clear clearAll t.clearColor 1 0] ++ inner ++ [.popTarget, .resolveTarget h]

/-- The calls of a turn with a target.  Either the target is not there and the device denies it, or
it is created if need be and drawn into. -/
inductive Frames (denies : Target → Bool) (t : OffscreenTarget) : List Call → Prop where
  | refused (hhandle : t.handle = none) (hdenies : denies t.target = true) :
      Frames denies t [.createTarget t.target]
  | bracket {h : TargetHandle} {inner : List Call}
      (hhandle : t.handle = some h ∨ t.handle = none ∧ denies t.target = false)
      (hinner : ∀ c ∈ inner, c.isFraming = false) :
      Frames denies t (t.creation ++ t.bracket h inner)

/-- Binding a target and taking it off again leaves the targets as they were stacked. -/
theorem balanced_bracket
    (hinner : (s.applyAll (t.enter h)).device.Balanced s₁.device inner) :
    s.device.Balanced (s₁.applyAll (leave h)).device (t.bracket h inner) where
  targetStack := by
    show s₁.device.targetStack.tail = _
    rw [hinner.targetStack]
    rfl
  denies := hinner.denies
  calls := by
    rw [Session.calls_applyAll, hinner.calls, Session.calls_applyAll, bracket, List.append_assoc,
      List.append_assoc, List.append_assoc]
    rfl

/-- A target is acquired if it is there or the device does not deny it. -/
theorem acquire_cases {handle : Option TargetHandle}
    (hrun : t.acquire.run s = .ok ((handle, t'), s')) :
    (handle = none ∧ t.handle = none ∧ s.device.denies t.target = true ∧
      s.device.Balanced s'.device [.createTarget t.target]) ∨
    ∃ h, ∃ s₁ : Session, handle = some h ∧ (t.handle = some h ∨
        t.handle = none ∧ s.device.denies t.target = false) ∧
      s.device.Balanced s₁.device t.creation ∧ s' = s₁.applyAll (t.enter h) := by
  obtain ⟨⟨handle, t₁⟩, s₁, hensure, hrun⟩ := of_run_bind hrun
  unfold ensure at hensure
  cases ht : t.handle with
  | some h =>
      rw [ht] at hensure
      cases hensure
      cases hrun
      refine .inr ⟨h, s, rfl, .inl rfl, ?_, rfl⟩
      rw [creation, ht]
      exact .refl _
  | none =>
      rw [ht] at hensure
      obtain ⟨answer, s₂, hcreate, hensure⟩ := of_run_bind hensure
      cases (run_onDevice _ s).symm.trans hcreate
      have hcreation : t.creation = [.createTarget t.target] := by rw [creation, ht]; rfl
      rcases s.device.createTarget_cases t.target with ⟨error, hdenies, he⟩ | ⟨hdenies, he⟩
      · rw [he] at hensure
        obtain ⟨_, _, hreport, hensure⟩ := of_run_bind hensure
        cases hreport
        cases hensure
        cases hrun
        exact .inl ⟨rfl, rfl, hdenies, .one rfl rfl rfl⟩
      · rw [he] at hensure
        obtain ⟨_, _, hreport, hensure⟩ := of_run_bind hensure
        cases hreport
        cases hensure
        cases hrun
        refine .inr ⟨_, _, rfl, .inr ⟨rfl, hdenies⟩, ?_, rfl⟩
        rw [hcreation]
        exact .one rfl rfl rfl

end OffscreenTarget

/-! ### The turn of a bin -/

namespace Bin

variable {b b' b₀ : Bin} {pass : ScenePass} {denies : Target → Bool} {calls : List Call}

/-- The calls of a bin's turn. -/
inductive Brackets (pass : ScenePass) (denies : Target → Bool) (b : Bin) : List Call → Prop where
  | resting (hrule : b.rules.draws pass = none) : Brackets pass denies b []
  | inPlace {calls : List Call} (hrule : (b.rules.draws pass).isSome) (htarget : b.target = none)
      (hinner : ∀ c ∈ calls, c.isFraming = false) : Brackets pass denies b calls
  | offscreen {t : OffscreenTarget} {calls : List Call} (hrule : (b.rules.draws pass).isSome)
      (htarget : b.target = some t) (h : t.Frames denies calls) : Brackets pass denies b calls

theorem bracketed_render (hrun : ((b.render arena scene).run d).run s = .ok ((b', d'), s')) :
    ∃ calls, s.device.Balanced s'.device calls ∧
      b.Brackets scene.pass s.device.denies calls := by
  unfold render at hrun
  cases hrule : b.rules.draws scene.pass with
  | none =>
      rw [hrule] at hrun
      cases hrun
      exact ⟨[], .refl _, .resting hrule⟩
  | some rule =>
      have hsome : (b.rules.draws scene.pass).isSome := by rw [hrule]; rfl
      rw [hrule] at hrun
      cases htarget : b.target with
      | none =>
          rw [htarget] at hrun
          obtain ⟨_, _, _, hdraw, hrun⟩ := of_runs_bind hrun
          cases hrun
          obtain ⟨calls, hbalanced, hinner⟩ := b.inside_renderBy rule _ _ _ _ hdraw
          exact ⟨calls, hbalanced, .inPlace hsome htarget hinner⟩
      | some t =>
          rw [htarget] at hrun
          obtain ⟨⟨handle, t'⟩, s₁, hacquire, hrun⟩ := of_runs_lift_bind hrun
          rcases t.acquire_cases hacquire with
            ⟨rfl, hhandle, hdenies, hbalanced⟩ | ⟨h, s₀, rfl, hhandle, hcreated, rfl⟩
          · cases hrun
            exact ⟨_, hbalanced, .offscreen hsome htarget (.refused hhandle hdenies)⟩
          · obtain ⟨_, _, s₂, hdraw, hrun⟩ := of_runs_bind hrun
            obtain ⟨_, _, hleave, hrun⟩ := of_runs_lift_bind hrun
            cases hleave
            cases hrun
            obtain ⟨inner, hbalanced, hinner⟩ := b.inside_renderBy rule _ _ _ _ hdraw
            exact ⟨_, hcreated.trans (OffscreenTarget.balanced_bracket hbalanced),
              .offscreen hsome htarget (.bracket hhandle hinner)⟩

/-- In a turn in which it draws, a bin with a target draws into that, or is denied it. -/
theorem Brackets.frames (h : b.Brackets pass denies calls) (htarget : b.target.isSome) :
    if (b.rules.draws pass).isSome then ∃ t, b.target = some t ∧ t.Frames denies calls
    else calls = [] := by
  cases h with
  | resting hrule =>
      rw [hrule]
      exact if_neg Bool.false_ne_true ▸ rfl
  | inPlace _ hnone =>
      rw [hnone] at htarget
      cases htarget
  | offscreen hrule ht hframes =>
      rw [if_pos hrule]
      exact ⟨_, ht, hframes⟩

/-- The bin draws by the rules of another, and has a target of its own if that one has. -/
structure DrawsLike (b b₀ : Bin) : Prop where
  rules : b.rules = b₀.rules
  target : b.target.isSome = b₀.target.isSome

/-- What the calls of a bin's turn are, by what the bin is. -/
structure Bracketed (pass : ScenePass) (denies : Target → Bool) (b : Bin) (calls : List Call) :
    Prop where
  brackets : b.Brackets pass denies calls
  /-- A glow bin and a pre-pass bin draw into their targets in colour frames. -/
  hooked : ∀ width height, b.DrawsLike (glow width height) ∨ b.DrawsLike (prePass width height) →
    if pass = .diffuse then ∃ t, b.target = some t ∧ t.Frames denies calls else calls = []
  /-- A particle bin with a target draws into that in all but shadow frames. -/
  particles : ∀ size, b.DrawsLike (particle (some size)) →
    if pass = .shadow then calls = [] else ∃ t, b.target = some t ∧ t.Frames denies calls

theorem Brackets.bracketed (h : b.Brackets pass denies calls) :
    b.Bracketed pass denies calls where
  brackets := h
  hooked := by
    rintro width height (hlike | hlike)
    · have hframes := h.frames hlike.target
      rw [hlike.rules] at hframes
      cases pass <;> exact hframes
    · have hframes := h.frames hlike.target
      rw [hlike.rules] at hframes
      cases pass <;> exact hframes
  particles := by
    intro size hlike
    have hframes := h.frames hlike.target
    rw [hlike.rules] at hframes
    cases pass <;> exact hframes

end Bin

/-! ### Frames -/

namespace Pipeline

variable {p p' : Pipeline} {l l' : Library} {stats : FrameStats} {bins drawn : List Bin}

/-- Every bin in turn. -/
theorem brackets_of_drawAll
    (hrun : ((drawAll arena scene bins).run d).run s = .ok ((drawn, d'), s')) :
    ∃ frame : List (Bin × List Call), frame.map Prod.fst = bins.map Bin.sort ∧
      s.device.Balanced s'.device (frame.flatMap Prod.snd) ∧
      ∀ x ∈ frame, x.1.Brackets scene.pass s.device.denies x.2 := by
  induction bins generalizing d s drawn with
  | nil =>
      cases hrun
      exact ⟨[], rfl, .refl _, fun _ h => absurd h List.not_mem_nil⟩
  | cons b rest ih =>
      rw [drawAll, List.mapM_cons] at hrun
      obtain ⟨b', d₁, s₁, hb, hrun⟩ := of_runs_bind hrun
      obtain ⟨drawn', d₂, s₂, hrest, hrun⟩ := of_runs_bind hrun
      cases hrun
      obtain ⟨calls, hbalanced, hbrackets⟩ := Bin.bracketed_render hb
      obtain ⟨frame, hframe, hbalanced', hbrackets'⟩ := ih hrest
      refine ⟨(b.sort, calls) :: frame, by rw [List.map_cons, hframe, List.map_cons], ?_,
        List.forall_mem_cons.mpr ⟨hbrackets, ?_⟩⟩
      · rw [List.flatMap_cons]
        exact hbalanced.trans hbalanced'
      · rw [← hbalanced.denies]
        exact hbrackets'

/-- **The targets of a frame.**  Whatever the bins hold and whether or not the device creates their
targets, the calls of a frame are the turns of the bins in the order of drawing, calls about targets
make up whole brackets within the turns of the bins they belong to, and what is drawn into is the
same afterwards as before. -/
theorem Reachable.brackets_of_render (hp : p.Reachable)
    (hrun : (p.render l scene).run s = .ok ((stats, l', p'), s')) :
    ∃ frame : List (Bin × List Call), frame.map Prod.fst = p.drawingOrder.map Bin.sort ∧
      s'.device.calls.toList = s.device.calls.toList ++ frame.flatMap Prod.snd ∧
      s'.device.targetStack = s.device.targetStack ∧
      ∀ x ∈ frame, x.1.Bracketed scene.pass s.device.denies x.2 := by
  rw [hp.inOrder.listed.render_eq] at hrun
  obtain ⟨⟨drawn, drawing⟩, s₁, hdraw, hrun⟩ := of_run_bind hrun
  cases hrun
  obtain ⟨frame, hframe, hbalanced, hbrackets⟩ := brackets_of_drawAll hdraw
  exact ⟨frame, hframe, hbalanced.calls, hbalanced.targetStack,
    fun x hx => (hbrackets x hx).bracketed⟩

/-- A glow bin without elements: its target is created, bound, cleared, taken off and made ready to
be read. -/
theorem brackets_of_render_glow :
    let p : Pipeline := reorder { bins := [.glow 4 2] }
    ∃ (l l' : Library) (p' : Pipeline) (stats : FrameStats) (s s' : Session)
      (frame : List (Bin × List Call)),
      p.Reachable ∧ (p.render l {}).run s = .ok ((stats, l', p'), s') ∧
        s'.device.calls.size = s.device.calls.size + 5 ∧
        frame.map Prod.fst = p.drawingOrder.map Bin.sort ∧
        s'.device.calls.toList = s.device.calls.toList ++ frame.flatMap Prod.snd ∧
        s'.device.targetStack = s.device.targetStack ∧
        ∀ x ∈ frame, x.1.Bracketed .diffuse s.device.denies x.2 := by
  intro p
  let l : Library :=
    { context := ⟨.builtin, {}⟩, warning := { material := .warning, format := .positionNormalUv } }
  have hcheck : ((p.render l {}).run {}).toOption.any (·.2.device.calls.size == 5) = true := by
    decide +kernel
  obtain ⟨⟨⟨stats, l', p'⟩, s'⟩, hrun, hgood⟩ := exists_of_any_toOption hcheck
  have hp : p.Reachable := .add (b := .glow 4 2) (s := default) .empty rfl
  obtain ⟨frame, hframe⟩ := hp.brackets_of_render hrun
  exact ⟨l, l', p', stats, {}, s', frame, hp, hrun, beq_iff_eq.mp hgood, hframe⟩

end Pipeline

end MaterialPipeline
