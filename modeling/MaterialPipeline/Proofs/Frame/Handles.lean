import MaterialPipeline.Frame.Builtin
import MaterialPipeline.Proofs.Frame.Strokes
import MaterialPipeline.Proofs.Material.Stops

/-!
# Proofs — Frame — Handles

The handles of the objects, through the life of a pipeline.  The arena issues a handle for every
object, the bins that claim the object keep it, and the end of the frame takes all of them back at
once, however the frame ends.

* `Pipeline.stopsFor_drawing`: what a frame stops for; `Pipeline.stopsFor_render`: it does not stop
for handles that resolve.
* `Pipeline.Accounts`: how the arena counts the handles that were issued, and what resolves.
* `Pipeline.Lived`: the life of a pipeline, with every handle that was issued in it.
* `Pipeline.Keeps`: what holds at every point of it, whatever the counters; one lemma for each step.
* `Pipeline.Lived.resolves`: while the counters last, the handles of a frame resolve until it ends,
and never after it.
-/

namespace MaterialPipeline

open MaterialPipeline.Action

variable {scene : Scene} {kind : BinKind} {material : MaterialRef} {objects : List Submission}
  {arena : FrameArena Submission} {s s' : Session}

/-! ### Drawing what resolves -/

/-- Whatever the drawing is, the effect stops for one of `causes` at most. -/
def DrawAction.StopsFor {α : Type} (causes : Fault → Prop) (x : DrawAction α) : Prop :=
  ∀ d : Drawing, Action.StopsFor causes (x.run d)

namespace DrawAction.StopsFor

variable {α β : Type} {causes : Fault → Prop}

theorem pure (a : α) : StopsFor causes (Pure.pure a : DrawAction α) :=
  fun _ => .pure _

theorem bind {x : DrawAction α} {f : α → DrawAction β} (hx : StopsFor causes x)
    (hf : ∀ a, StopsFor causes (f a)) : StopsFor causes (x >>= f) := by
  intro d
  rw [StateT.run_bind]
  exact (hx d).bind fun r => hf r.1 r.2

theorem lift {x : Action α} (hx : Action.StopsFor causes x) :
    StopsFor causes (liftM x : DrawAction α) :=
  fun d => hx.bind fun a => .pure (a, d)

theorem mono {causes' : Fault → Prop} {x : DrawAction α} (hx : StopsFor causes x)
    (h : ∀ fault, causes fault → causes' fault) : StopsFor causes' x :=
  fun d => (hx d).mono h

theorem mapM {f : α → DrawAction β} {l : List α} (hf : ∀ a ∈ l, StopsFor causes (f a)) :
    StopsFor causes (l.mapM f) := by
  induction l with
  | nil => exact pure _
  | cons a rest ih =>
      obtain ⟨ha, hrest⟩ := List.forall_mem_cons.mp hf
      rw [List.mapM_cons]
      exact ha.bind fun b => (ih hrest).bind fun bs => pure (b :: bs)

end DrawAction.StopsFor

theorem stopsFor_drawBatch :
    DrawAction.StopsFor FormFault (drawBatch scene kind material objects) := by
  intro d s
  cases hfound : (d.library.renderable material).run s with
  | error fault =>
      rw [drawBatch_of_error hfound]
      exact .error (d.library.stopsFor_renderable material s fault hfound)
  | ok r =>
      obtain ⟨⟨found, library⟩, s₁⟩ := r
      obtain ⟨_, -, hrun⟩ := run_drawBatch scene kind objects hfound
      rw [hrun]
      exact .ok _

theorem stopsFor_drawDelegate (delegate : Delegate) (o : Submission) :
    DrawAction.StopsFor FormFault (drawDelegate delegate o) :=
  fun _ _ => .ok _

/-- Every element is of an object in the arena. -/
def FrameArena.ResolvesAll (arena : FrameArena Submission) (elements : List BinElement) : Prop :=
  ∀ e ∈ elements, ∃ o, arena.find e.handle = some o

/-- What drawing elements may stop for: what the library stops for, or an element whose object is
gone. -/
inductive DrawFault (arena : FrameArena Submission) (elements : List BinElement) : Fault → Prop where
  | form {fault : Fault} (h : FormFault fault) : DrawFault arena elements fault
  | stale {e : BinElement} (he : e ∈ elements) (hfind : arena.find e.handle = none) :
      DrawFault arena elements (.staleFrame e.handle.frame arena.frame)

namespace DrawFault

variable {elements elements' : List BinElement} {fault : Fault}

theorem mono (h : DrawFault arena elements fault) (hsub : elements ⊆ elements') :
    DrawFault arena elements' fault := by
  cases h with
  | form h => exact .form h
  | stale he hfind => exact .stale (hsub he) hfind

theorem form_of_resolvesAll (h : DrawFault arena elements fault)
    (hall : arena.ResolvesAll elements) : FormFault fault := by
  cases h with
  | form h => exact h
  | stale he hfind =>
      obtain ⟨o, ho⟩ := hall _ he
      cases ho.symm.trans hfind

theorem of_get {e : BinElement} (he : e ∈ elements) :
    MaterialPipeline.StopsFor (DrawFault arena elements) (arena.get e.handle) := by
  cases hfind : arena.find e.handle with
  | none =>
      rw [FrameArena.get, hfind]
      exact .error (.stale he hfind)
  | some o =>
      rw [FrameArena.get_eq_ok_iff.mpr hfind]
      exact .ok o

end DrawFault

namespace BinCore

variable (c : BinCore) {elements : List BinElement}

theorem stopsFor_companions (hook : Option Variant) (batch : Bool) (material : MaterialRef) :
    MaterialPipeline.StopsFor (DrawFault arena elements)
      (c.companions arena hook batch material elements) := by
  cases batch with
  | false => exact .ok []
  | true =>
      show MaterialPipeline.StopsFor _ (c.sameMaterial arena hook material elements)
      induction elements with
      | nil => exact .ok []
      | cons e rest ih =>
          rw [sameMaterial]
          refine (DrawFault.of_get List.mem_cons_self).bind fun o _ => ?_
          split
          · refine MaterialPipeline.StopsFor.bind (fun fault hfault => ?_) fun _ _ => .ok _
            exact (ih fault hfault).mono (List.subset_cons_self ..)
          · exact .ok []

theorem stopsFor_renderRuns (hook : Option Variant) (batch : Bool) :
    DrawAction.StopsFor (DrawFault arena elements)
      (c.renderRuns arena scene hook kind batch elements) := by
  induction elements using group_induction with
  | nil =>
      rw [renderRuns]
      exact .pure _
  | cons e rest ih =>
      have hdrop (n : Nat) : DrawAction.StopsFor (DrawFault arena (e :: rest))
          (c.renderRuns arena scene hook kind batch (rest.drop n)) :=
        (ih n).mono fun _ h => h.mono fun e he =>
          List.mem_cons_of_mem _ (List.mem_of_mem_drop he)
      cases hget : arena.get e.handle with
      | error fault =>
          rw [renderRuns, hget]
          have hstale : DrawFault arena (e :: rest) fault :=
            DrawFault.of_get List.mem_cons_self fault hget
          exact fun _ _ => .error hstale
      | ok o =>
          rw [renderRuns_cons hget]
          cases c.materialFor o hook with
          | none => exact hdrop 0
          | some material =>
              refine (DrawAction.StopsFor.lift (.lift fun fault hfault => ?_)).bind fun more => ?_
              · exact (c.stopsFor_companions hook batch material fault hfault).mono
                  (List.subset_cons_self ..)
              · exact (stopsFor_drawBatch.mono fun _ => .form).bind fun _ => hdrop more.length

theorem stopsFor_renderEach (hook : Option Variant) :
    DrawAction.StopsFor (DrawFault arena elements)
      (c.renderEach arena scene hook kind elements) := by
  induction elements with
  | nil => exact .pure _
  | cons e rest ih =>
      have hrest : DrawAction.StopsFor (DrawFault arena (e :: rest))
          (c.renderEach arena scene hook kind rest) :=
        ih.mono fun _ h => h.mono (List.subset_cons_self ..)
      rw [renderEach]
      refine (DrawAction.StopsFor.lift (.lift (.of_get List.mem_cons_self))).bind fun o => ?_
      cases o.delegate with
      | some delegate =>
          exact ((stopsFor_drawDelegate delegate o).mono fun _ => .form).bind fun _ => hrest
      | none =>
          cases c.materialFor o hook with
          | none => exact hrest
          | some material => exact (stopsFor_drawBatch.mono fun _ => .form).bind fun _ => hrest

end BinCore

theorem OffscreenTarget.stopsFor_acquire {causes : Fault → Prop} (t : OffscreenTarget) :
    Action.StopsFor causes t.acquire := by
  have hensure : Action.StopsFor causes t.ensure := by
    unfold ensure
    cases t.handle with
    | some h => exact .pure _
    | none =>
        refine (StopsFor.onDevice _).bind fun answer => ?_
        cases answer with
        | ok h => exact (StopsFor.perform _).bind fun _ => .pure _
        | error error => exact (StopsFor.perform _).bind fun _ => .pure _
  refine hensure.bind fun ⟨handle, t⟩ => ?_
  cases handle with
  | none => exact .pure _
  | some h => exact (StopsFor.perform _).bind fun _ => .pure _

namespace Bin

variable (b : Bin)

theorem stopsFor_renderBy (rule : DrawRule) :
    DrawAction.StopsFor (DrawFault arena b.core.elements) (b.renderBy arena scene rule) := by
  unfold renderBy
  cases rule.mode with
  | batches => exact b.core.stopsFor_renderRuns rule.hook true
  | singles => exact b.core.stopsFor_renderRuns rule.hook false
  | each => exact b.core.stopsFor_renderEach rule.hook

/-- A bin that rests in a frame stops for nothing. -/
theorem stopsFor_render :
    DrawAction.StopsFor
      (fun fault => (b.rules.draws scene.pass).isSome ∧ DrawFault arena b.core.elements fault)
      (b.render arena scene) := by
  unfold render
  cases b.rules.draws scene.pass with
  | none => exact .pure _
  | some rule =>
      have hdraw : DrawAction.StopsFor
          (fun fault => (some rule).isSome ∧ DrawFault arena b.core.elements fault)
          (b.renderBy arena scene rule) :=
        (b.stopsFor_renderBy rule).mono fun _ h => ⟨rfl, h⟩
      cases b.target with
      | none => exact hdraw.bind fun _ => .pure _
      | some target =>
          refine (DrawAction.StopsFor.lift target.stopsFor_acquire).bind fun ⟨handle, target⟩ => ?_
          cases handle with
          | none => exact .pure _
          | some _ =>
              exact hdraw.bind fun _ =>
                (DrawAction.StopsFor.lift (.perform _)).bind fun _ => .pure _

end Bin

namespace Pipeline

variable {p p' : Pipeline} {library : Library} {o stamped : Submission} {names : List String}
  {frame : Nat}

/-- **What a frame stops for.**  A frame stops for what the library stops for, or at an element
whose object is gone, in a bin that draws. -/
theorem stopsFor_drawing (hp : p.Listed) (library : Library) (scene : Scene) :
    Action.StopsFor (fun fault => ∃ b ∈ p.bins, (b.rules.draws scene.pass).isSome ∧
      DrawFault p.arena b.core.elements fault) (p.render library scene) := by
  rw [hp.render_eq]
  refine Action.StopsFor.bind ?_ fun _ => .pure _
  refine DrawAction.StopsFor.mapM (fun b hb => b.sort.stopsFor_render.mono ?_) _
  rintro fault ⟨hrule, hfault⟩
  obtain ⟨elements, hperm, hcore⟩ := b.core_sort
  rw [hcore] at hfault
  exact ⟨b, hp.perm_drawingOrder.mem_iff.mp hb, hrule, hfault.mono hperm.subset⟩

/-- **Drawing what resolves.**  A frame whose bins hold elements of objects in the arena stops for
what the library stops for, and for nothing else. -/
theorem stopsFor_render (hp : p.Listed) (h : ∀ b ∈ p.bins, p.arena.ResolvesAll b.core.elements)
    (library : Library) (scene : Scene) : Action.StopsFor FormFault (p.render library scene) :=
  (stopsFor_drawing hp library scene).mono fun _ ⟨b, hb, _, hfault⟩ =>
    hfault.form_of_resolvesAll (h b hb)

/-! ### The life of a pipeline -/

/-- A handle that was issued: in which frame, counted from the first, and for which object. -/
structure Issue where
  frame : Nat
  handle : FrameHandle
  object : Submission
  /-- The object that the handle reads, and that the bins are offered. -/
  offered : Submission
  /-- The names of the bins that claimed the object. -/
  claimedBy : List String

/-- What the bins that claim the object hold. -/
def Issue.element (i : Issue) : BinElement :=
  ⟨i.handle, i.offered.sortKey, i.offered.secondaryKey, i.offered.distanceSquared⟩

/-- What is issued for an object. -/
def issue (frame : Nat) (arena : FrameArena Submission) (o : Submission) (names : List String) :
    Issue :=
  ⟨frame, (arena.alloc o).1, o, arena.readBack o, names⟩

/-- The handles that were issued in a frame. -/
def issuedIn (frame : Nat) (issued : List Issue) : List Issue :=
  issued.filter (·.frame == frame)

/-- The ways a frame ends. -/
inductive Ends (p : Pipeline) : Pipeline → Prop where
  | render {p' : Pipeline} {library library' : Library} {scene : Scene} {stats : FrameStats}
      {s s' : Session} (hrun : (p.render library scene).run s = .ok ((stats, library', p'), s')) :
      Ends p p'
  | clear : Ends p p.endFrame.2
  | deviceReset {p' : Pipeline} {s s' : Session} (hrun : p.deviceReset.run s = .ok (p', s')) :
      Ends p p'

/-- The life of a pipeline: the number of frames that ended, every handle that was issued, and what
the pipeline is now.  Bins come without elements. -/
inductive Lived : Nat → List Issue → Pipeline → Prop where
  | empty : Lived 0 [] {}
  | add {frame : Nat} {issued : List Issue} {p p' : Pipeline} {b : Bin} {s s' : Session}
      (h : Lived frame issued p) (hb : b.core.elements = [])
      (hrun : (p.add b).run s = .ok (p', s')) : Lived frame issued p'
  | remove {frame : Nat} {issued : List Issue} {p : Pipeline} (h : Lived frame issued p)
      (name : String) : Lived frame issued (p.remove name).2
  | submit {frame : Nat} {issued : List Issue} {p p' : Pipeline} {library : Library}
      {o stamped : Submission} {names : List String} {s s' : Session} (h : Lived frame issued p)
      (hstamp : o.stamp library = .ok stamped)
      (hrun : (p.submit library o).run s = .ok ((names, p'), s')) :
      Lived frame (issued ++ [issue frame p.arena stamped names]) p'
  | ends {frame : Nat} {issued : List Issue} {p p' : Pipeline} (h : Lived frame issued p)
      (hend : p.Ends p') : Lived (frame + 1) issued p'

theorem Lived.reachable {issued : List Issue} (h : Lived frame issued p) : p.Reachable := by
  induction h with
  | empty => exact .empty
  | add _ _ hrun ih => exact ih.add hrun
  | remove _ name ih => exact ih.remove name
  | submit _ _ hrun ih => exact ih.submit hrun
  | ends _ hend ih =>
      cases hend with
      | render hrun => exact ih.render hrun
      | clear => exact ih.endFrame
      | deviceReset hrun => exact ih.deviceReset hrun

/-- The pipeline at the start of a frame: the bins are those of `p`, but empty, the arena is reset,
and nothing is counted. -/
structure Fresh (p p' : Pipeline) : Prop where
  arena : p'.arena = p.arena.reset
  elements : ∀ b ∈ p'.bins, b.core.elements = []
  names : p'.bins.map Bin.name = p.bins.map Bin.name
  stats : p'.stats = {}

/-- However a frame ends, the next one starts anew. -/
theorem Ends.fresh (hend : p.Ends p') : p.Fresh p' := by
  have hclear (bins : List Bin) : ∀ b ∈ bins.map Bin.clear, b.core.elements = [] := by
    intro b hb
    obtain ⟨b₀, -, rfl⟩ := List.mem_map.mp hb
    rfl
  cases hend with
  | clear => exact ⟨rfl, hclear _, List.map_map .., rfl⟩
  | render hrun =>
      obtain ⟨⟨bins, drawing⟩, _, hbins, hrun⟩ := of_run_bind hrun
      cases hrun
      refine ⟨rfl, hclear _, ?_, rfl⟩
      calc (bins.map Bin.clear).map Bin.name
          = (bins.map (·.core)).map BinCore.name := by simp only [List.map_map]; rfl
        _ = (p.bins.map Bin.sort).map Bin.name := by
            rw [core_of_renderBins hbins, List.map_map]
            rfl
        _ = p.bins.map Bin.name := by
            rw [List.map_map]
            exact List.map_congr_left fun b _ => b.name_sort
  | deviceReset hrun =>
      obtain ⟨_, _, -, hrun⟩ := of_run_bind hrun
      obtain ⟨bins, _, hbins, hrun⟩ := of_run_bind hrun
      cases hrun
      have hcores : bins.map (·.core) = p.bins.map (·.clear.core) :=
        map_eq_of_run_mapM (fun _ _ _ _ hb => Bin.core_of_mapTarget hb) hbins
      refine ⟨rfl, fun b hb => ?_, ?_, rfl⟩
      · have hmem : b.core ∈ bins.map (·.core) := List.mem_map_of_mem hb
        rw [hcores] at hmem
        obtain ⟨b₀, -, hb₀⟩ := List.mem_map.mp hmem
        rw [← hb₀]
        rfl
      · have hnames := congrArg (List.map BinCore.name) hcores
        rw [List.map_map, List.map_map] at hnames
        exact hnames

/-! ### What every step keeps -/

section Issued

variable {issued : List Issue}

theorem issuedIn_concat (issued : List Issue) (i : Issue) :
    issuedIn i.frame (issued ++ [i]) = issuedIn i.frame issued ++ [i] := by
  simp [issuedIn]

theorem issuedIn_issue (issued : List Issue) (frame : Nat) (arena : FrameArena Submission)
    (o : Submission) (names : List String) :
    issuedIn frame (issued ++ [issue frame arena o names]) =
      issuedIn frame issued ++ [issue frame arena o names] :=
  issuedIn_concat issued (issue frame arena o names)

theorem issuedIn_succ (h : ∀ i ∈ issued, i.frame ≤ frame) : issuedIn (frame + 1) issued = [] := by
  refine List.filter_eq_nil_iff.mpr fun i hi => ?_
  have hle := h i hi
  simp only [beq_iff_eq]
  omega

end Issued

/-- The arena accounts for the handles that were issued: the frame, its objects and their positions,
as the arena counts them; and each handle reads what was offered under it. -/
structure Accounts (frame : Nat) (issued : List Issue) (arena : FrameArena Submission) : Prop where
  clock : arena.frame = frame.toUInt32
  objects : arena.items.toList = (issuedIn frame issued).map Issue.object
  handles : ∀ (n : Nat) (i : Issue), (issuedIn frame issued)[n]? = some i →
    i.handle = ⟨frame.toUInt32, n.toUInt32⟩
  reads : ∀ i ∈ issuedIn frame issued, arena.find i.handle = some i.offered
  past : ∀ i ∈ issued, i.frame ≤ frame ∧ i.handle.frame = i.frame.toUInt32

namespace Accounts

variable {issued : List Issue} {i : Issue}

theorem empty : Accounts 0 [] .empty where
  clock := rfl
  objects := rfl
  handles := fun _ _ h => nomatch h
  reads := fun _ h => absurd h List.not_mem_nil
  past := fun _ h => absurd h List.not_mem_nil

/-- An object that the arena takes in is the next of the frame. -/
theorem alloc (h : Accounts frame issued arena) (o : Submission) (names : List String) :
    Accounts frame (issued ++ [issue frame arena o names]) (arena.alloc o).2 := by
  have hissued := issuedIn_issue issued frame arena o names
  have hcount : arena.items.size = (issuedIn frame issued).length := by
    rw [← Array.length_toList, h.objects, List.length_map]
  refine ⟨h.clock, ?_, fun n i hn => ?_, fun i hi => ?_, fun i hi => ?_⟩
  · rw [hissued, List.map_append, ← h.objects]
    exact Array.toList_push
  · rw [hissued] at hn
    rcases Nat.lt_trichotomy n (issuedIn frame issued).length with hlt | rfl | hgt
    · exact h.handles n i (List.getElem?_append_left hlt ▸ hn)
    · rw [List.getElem?_concat_length] at hn
      cases hn
      rw [← hcount, ← h.clock]
      rfl
    · rw [List.getElem?_eq_none (by rw [List.length_append]; exact hgt)] at hn
      cases hn
  · rw [hissued] at hi
    rcases List.mem_append.mp hi with hi | hi
    · exact FrameArena.find_alloc_of_find (h.reads i hi)
    · obtain rfl := List.mem_singleton.mp hi
      exact arena.find_alloc o
  · rcases List.mem_append.mp hi with hi | hi
    · exact h.past i hi
    · obtain rfl := List.mem_singleton.mp hi
      exact ⟨le_rfl, h.clock⟩

/-- The next frame starts without objects. -/
theorem reset (h : Accounts frame issued arena) : Accounts (frame + 1) issued arena.reset := by
  have hissued : issuedIn (frame + 1) issued = [] := issuedIn_succ fun i hi => (h.past i hi).1
  refine ⟨?_, ?_, fun n i hn => ?_, fun i hi => ?_, fun i hi =>
    ⟨(h.past i hi).1.trans (Nat.le_succ frame), (h.past i hi).2⟩⟩
  · rw [FrameArena.reset, h.clock]
    exact (UInt32.ofNat_add frame 1).symm
  · rw [hissued]
    rfl
  · rw [hissued] at hn
    cases hn
  · rw [hissued] at hi
    cases hi

/-- The handles of a frame resolve, each to its object. -/
theorem find (h : Accounts frame issued arena)
    (hcount : (issuedIn frame issued).length ≤ 2 ^ 32) (hi : i ∈ issuedIn frame issued) :
    arena.find i.handle = some i.object := by
  obtain ⟨n, hn⟩ := List.mem_iff_getElem?.mp hi
  have hlt : n < (issuedIn frame issued).length := (List.getElem?_eq_some_iff.mp hn).1
  rw [FrameArena.find, h.handles n i hn, if_pos h.clock.symm,
    toNat_toUInt32 (Nat.lt_of_lt_of_le hlt hcount), ← Array.getElem?_toList, h.objects,
    List.getElem?_map, hn]
  rfl

/-- However many objects there are, an element is that of an object which was offered itself: where
handles repeat, it is that of the first of them. -/
theorem exists_original (h : Accounts frame issued arena) (hi : i ∈ issuedIn frame issued) :
    ∃ j ∈ issuedIn frame issued, j.element = i.element ∧ j.offered = j.object := by
  obtain ⟨n, hn⟩ := List.mem_iff_getElem?.mp hi
  have hlt : n < (issuedIn frame issued).length := (List.getElem?_eq_some_iff.mp hn).1
  have hmod : n.toUInt32.toNat ≤ n := Nat.mod_le ..
  obtain ⟨j, hj⟩ : ∃ j, (issuedIn frame issued)[n.toUInt32.toNat]? = some j :=
    ⟨_, List.getElem?_eq_getElem (hmod.trans_lt hlt)⟩
  have hmem : j ∈ issuedIn frame issued := List.mem_of_getElem? hj
  have hhandle : j.handle = i.handle := by
    rw [h.handles _ j hj, h.handles n i hn, Nat.toUInt32, UInt32.ofNat_toNat]
  have hoffered : j.offered = i.offered :=
    Option.some.inj ((h.reads j hmem).symm.trans (hhandle ▸ h.reads i hi))
  have hobject : arena.find j.handle = some j.object := by
    rw [hhandle, FrameArena.find, h.handles n i hn, if_pos h.clock.symm, ← Array.getElem?_toList,
      h.objects, List.getElem?_map, hj]
    rfl
  exact ⟨j, hmem, by rw [Issue.element, hhandle, hoffered, Issue.element],
    Option.some.inj ((h.reads j hmem).symm.trans hobject)⟩

/-- What is offered is the object. -/
theorem offered_eq (h : Accounts frame issued arena)
    (hcount : (issuedIn frame issued).length ≤ 2 ^ 32) (hi : i ∈ issuedIn frame issued) :
    i.offered = i.object :=
  Option.some.inj ((h.reads i hi).symm.trans (h.find hcount hi))

/-- The objects of a frame have different handles. -/
theorem distinct (h : Accounts frame issued arena)
    (hcount : (issuedIn frame issued).length ≤ 2 ^ 32) :
    ((issuedIn frame issued).map Issue.handle).Nodup := by
  refine List.nodup_iff_getElem?_ne_getElem?.mpr fun m n hmn hn heq => ?_
  rw [List.length_map] at hn
  have hm := h.handles m _ (List.getElem?_eq_getElem (hmn.trans hn))
  have hn' := h.handles n _ (List.getElem?_eq_getElem hn)
  rw [List.getElem?_map, List.getElem?_map, List.getElem?_eq_getElem (hmn.trans hn),
    List.getElem?_eq_getElem hn, Option.map_some, Option.map_some, hm, hn'] at heq
  have hindex : m.toUInt32.toNat = n.toUInt32.toNat :=
    congrArg (fun h : FrameHandle => h.index.toNat) (Option.some.inj heq)
  rw [toNat_toUInt32 (by omega), toNat_toUInt32 (by omega)] at hindex
  omega

/-- A handle of an earlier frame does not resolve. -/
theorem find_past (h : Accounts frame issued arena) (hframe : frame < 2 ^ 32) (hi : i ∈ issued)
    (hne : i.frame ≠ frame) : arena.find i.handle = none := by
  obtain ⟨hle, hissued⟩ := h.past i hi
  rw [FrameArena.find, if_neg]
  rw [hissued, h.clock]
  intro heq
  have hframes := congrArg UInt32.toNat heq
  rw [toNat_toUInt32 (by omega), toNat_toUInt32 hframe] at hframes
  exact hne hframes

end Accounts

/-- The arena accounts for the handles, and so do the bins. -/
structure Keeps (frame : Nat) (issued : List Issue) (p : Pipeline) : Prop
    extends Accounts frame issued p.arena where
  /-- A bin holds the objects that it claimed in this frame, in order. -/
  held : ∀ b ∈ p.bins, b.core.elements.Sublist ((issuedIn frame issued).map Issue.element)

namespace Keeps

variable {issued : List Issue}

theorem empty : Keeps 0 [] {} :=
  ⟨.empty, fun _ h => absurd h List.not_mem_nil⟩

/-- Bins may come and go, if those that come are empty. -/
theorem of_bins (h : Keeps frame issued p) (harena : p'.arena = p.arena)
    (hbins : ∀ b ∈ p'.bins, b ∈ p.bins ∨ b.core.elements = []) : Keeps frame issued p' where
  toAccounts := harena ▸ h.toAccounts
  held := by
    intro b hb
    rcases hbins b hb with hb | hb
    · exact h.held b hb
    · rw [hb]
      exact List.nil_sublist _

/-- Handing in: the arena takes the object in, and the bins that claim it hold its handle. -/
theorem submit (h : Keeps frame issued p) (hp : p.InOrder) (hstamp : o.stamp library = .ok stamped)
    (hrun : (p.submit library o).run s = .ok ((names, p'), s')) :
    Keeps frame (issued ++ [issue frame p.arena stamped names]) p' := by
  obtain ⟨harena, visited, hrouted⟩ := routed_of_stamped hp.listed hstamp hrun
  refine ⟨harena ▸ h.alloc stamped names, fun b hb => ?_⟩
  rw [issuedIn_issue, List.map_append]
  have hkept (b : Bin) (hb : b ∈ p.bins) (elements : List BinElement) :
      b.core.elements.Sublist ((issuedIn frame issued).map Issue.element ++ elements) :=
    (h.held b hb).trans (List.sublist_append_left ..)
  rcases hrouted.of_mem_bins hb with hb | ⟨b₀, hb₀, rfl⟩
  · exact hkept b hb _
  · rw [Bin.offer]
    split
    · exact (h.held b₀ hb₀).append (.refl _)
    · exact hkept b₀ hb₀ _

/-- The end of a frame: the bins are empty, and the arena is reset. -/
theorem next (h : Keeps frame issued p) (hfresh : p.Fresh p') : Keeps (frame + 1) issued p' where
  toAccounts := hfresh.arena ▸ h.reset
  held := by
    intro b hb
    rw [hfresh.elements b hb]
    exact List.nil_sublist _

/-- However many objects there are, what is held resolves. -/
theorem resolvesAll (h : Keeps frame issued p) {b : Bin} (hb : b ∈ p.bins) :
    p.arena.ResolvesAll b.core.elements := by
  intro e he
  obtain ⟨i, hi, rfl⟩ := List.mem_map.mp ((h.held b hb).subset he)
  exact ⟨_, h.reads i hi⟩

end Keeps

theorem Lived.keeps {issued : List Issue} (h : Lived frame issued p) : Keeps frame issued p := by
  induction h with
  | empty => exact .empty
  | @add frame issued p p' b s s' _ hb hrun ih =>
      obtain ⟨_, _, -, hrun⟩ := of_run_bind hrun
      cases hrun
      refine ih.of_bins rfl fun b' hb' => (List.mem_append.mp hb').imp_right fun hb' => ?_
      rw [List.mem_singleton.mp hb', hb]
  | @remove frame issued p _ name ih =>
      unfold Pipeline.remove
      split
      · exact ih.of_bins rfl fun b hb => .inl (List.mem_of_mem_eraseP hb)
      · exact ih
  | submit h hstamp hrun ih => exact ih.submit h.reachable.inOrder hstamp hrun
  | ends _ hend ih => exact ih.next hend.fresh

/-! ### While the counters last -/

/-- How the handles that were issued so far resolve. -/
structure Resolves (frame : Nat) (issued : List Issue) (p : Pipeline) : Prop where
  /-- Every handle of the frame resolves, to the object that it was issued for. -/
  current : ∀ i ∈ issuedIn frame issued, p.arena.find i.handle = some i.object
  /-- The bins were offered the object itself. -/
  offered : ∀ i ∈ issuedIn frame issued, i.offered = i.object
  distinct : ((issuedIn frame issued).map Issue.handle).Nodup
  /-- What a bin holds is of an object that was handed in in this frame, each at most once and in
  order. -/
  claimed : ∀ b ∈ p.bins, b.core.elements.Sublist ((issuedIn frame issued).map Issue.element)
  held : ∀ b ∈ p.bins, ∀ e ∈ b.core.elements, ∃ i ∈ issuedIn frame issued,
    e = i.element ∧ p.arena.find e.handle = some i.object
  /-- No handle of an earlier frame resolves. -/
  past : ∀ i ∈ issued, i.frame ≠ frame → p.arena.find i.handle = none
  render : ∀ library scene, Action.StopsFor FormFault (p.render library scene)
  ended : ∀ p', p.Ends p' → (∀ b ∈ p'.bins, b.core.elements = []) ∧ p'.arena.isEmpty ∧
    ∀ i ∈ issued, p'.arena.find i.handle = none

/-- **Handles resolve while their frame lasts, and no longer.**  As long as the frames, and the
objects of the present frame, can be counted in 32 bits, everything that a bin holds resolves to the
object that was handed in, drawing stops for no handle, and the end of the frame empties the bins
and the arena for good. -/
theorem Lived.resolves {issued : List Issue} (h : Lived frame issued p) (hframe : frame < 2 ^ 32)
    (hcount : (issuedIn frame issued).length < 2 ^ 32) : Resolves frame issued p := by
  have hkeeps := h.keeps
  have hheld : ∀ b ∈ p.bins, ∀ e ∈ b.core.elements, ∃ i ∈ issuedIn frame issued,
      e = i.element ∧ p.arena.find e.handle = some i.object := by
    intro b hb e he
    obtain ⟨i, hi, rfl⟩ := List.mem_map.mp ((hkeeps.held b hb).subset he)
    exact ⟨i, hi, rfl, hkeeps.find hcount.le hi⟩
  exact {
    current := fun i hi => hkeeps.find hcount.le hi
    offered := fun i hi => hkeeps.offered_eq hcount.le hi
    distinct := hkeeps.distinct hcount.le
    claimed := hkeeps.held
    held := hheld
    past := fun i hi hne => hkeeps.find_past hframe hi hne
    render := by
      refine stopsFor_render h.reachable.inOrder.listed fun b hb e he => ?_
      obtain ⟨i, -, -, hfind⟩ := hheld b hb e he
      exact ⟨i.object, hfind⟩
    ended := by
      intro p' hend
      refine ⟨hend.fresh.elements, by rw [hend.fresh.arena]; rfl, fun i _ => ?_⟩
      rw [hend.fresh.arena, FrameArena.find]
      split <;> rfl }

/-- An object that draws itself, handed in in two frames; the first is cut short. -/
theorem resolves_two_frames : ∃ issued p, Lived 1 issued p ∧ issued.length = 2 ∧
    (issuedIn 1 issued).length < 2 ^ 32 ∧ p.bins.map (·.core.elements.length) = [1] ∧
    Resolves 1 issued p := by
  let library : Library :=
    { context := ⟨.builtin, {}⟩, warning := { material := .warning, format := .positionNormalUv } }
  let o : Submission := .object .once false
  have hcheck : (StateT.run (do
      let first ← (reorder { bins := [.object] }).submit library o
      let second ← first.2.endFrame.2.submit library o
      return second.2.bins.map (·.core.elements.length) : Action (List Nat)) {}).toOption.any
        (·.1 == [1]) = true := by
    decide +kernel
  obtain ⟨⟨lengths, _⟩, hrun, hgood⟩ := exists_of_any_toOption hcheck
  obtain ⟨⟨_, p₁⟩, s₁, hfirst, hrun⟩ := of_run_bind hrun
  obtain ⟨⟨_, p₂⟩, s₂, hsecond, hrun⟩ := of_run_bind hrun
  cases hrun
  have hinstalled : Lived 0 [] (reorder { bins := [.object] }) :=
    .add (s := default) (b := .object) .empty rfl rfl
  have hlived := Lived.submit (.ends (.submit hinstalled rfl hfirst) .clear) rfl hsecond
  have hcount {issued : List Issue} (h : issued.length = 2) :
      (issuedIn 1 issued).length < 2 ^ 32 := by
    have hle : (issuedIn 1 issued).length ≤ issued.length := List.length_filter_le ..
    omega
  exact ⟨_, p₂, hlived, rfl, hcount rfl, beq_iff_eq.mp hgood,
    hlived.resolves (by decide) (hcount rfl)⟩

end Pipeline

end MaterialPipeline
