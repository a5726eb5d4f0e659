import MaterialPipeline.Proofs.Frame.Brackets
import MaterialPipeline.Proofs.Frame.Handles
import MaterialPipeline.Proofs.Frame.Places

/-!
# Proofs — Frame — Returns

Bins that are taken out and added again.  A bin that is taken out keeps what it claimed, and the end
of a frame empties the bins that are installed and no others, so a bin may come back with elements of
a frame that is over.  The arena tells them from those of the present frame: nothing of an earlier
frame is drawn, but a frame in which such an element would be drawn stops there.

* `Bin.resolvesAll_of_render`: a bin that has drawn held elements of objects in the arena only.
* `Pipeline.Stored`: the life of a pipeline and of the bins that were taken out of it.
* `Pipeline.Carries`: what holds at every point of it; one lemma for each step.
* `Pipeline.Stored.recognises`: what the elements stand for, what a frame draws, and when it stops.
-/

namespace MaterialPipeline

open MaterialPipeline.Action

variable {scene : Scene} {kind : BinKind} {arena : FrameArena Submission} {d d' : Drawing}
  {s s' : Session}

/-! ### Bins that have drawn -/

namespace BinCore

variable {c : BinCore} {elements : List BinElement} {hook : Option Variant}

theorem resolvesAll_of_renderRuns {batch : Bool}
    (hrun : ((c.renderRuns arena scene hook kind batch elements).run d).run s =
      .ok (((), d'), s')) : arena.ResolvesAll elements := by
  induction elements using group_induction generalizing d s with
  | nil => exact fun _ h => absurd h List.not_mem_nil
  | cons e rest ih =>
      cases hget : arena.get e.handle with
      | error fault =>
          rw [renderRuns, hget] at hrun
          cases hrun
      | ok o =>
          refine List.forall_mem_cons.mpr ⟨⟨o, FrameArena.get_eq_ok_iff.mp hget⟩, ?_⟩
          rw [renderRuns_cons hget] at hrun
          cases hmaterial : c.materialFor o hook with
          | none =>
              rw [hmaterial] at hrun
              exact ih 0 hrun
          | some material =>
              rw [hmaterial] at hrun
              obtain ⟨more, _, _, hlift, hdraw⟩ := of_runs_bind hrun
              obtain ⟨rfl, rfl, hmore⟩ := of_runs_lift hlift
              obtain ⟨_, _, _, -, hrest⟩ := of_runs_bind hdraw
              obtain ⟨members, -, helements, hmembers, -⟩ := of_companions hmore
              -- What is drawn with the first element resolves, and so does what is left.
              intro e he
              rw [← List.take_append_drop more.length rest, ← helements] at he
              rcases List.mem_append.mp he with he | he
              · obtain ⟨m, hm, rfl⟩ := List.mem_map.mp he
                exact ⟨m.object, (hmembers m hm).1⟩
              · exact ih _ hrest e he

theorem resolvesAll_of_renderEach
    (hrun : ((c.renderEach arena scene hook kind elements).run d).run s = .ok (((), d'), s')) :
    arena.ResolvesAll elements := by
  induction elements generalizing d s with
  | nil => exact fun _ h => absurd h List.not_mem_nil
  | cons e rest ih =>
      rw [renderEach] at hrun
      obtain ⟨o, _, _, hlift, hthen⟩ := of_runs_bind hrun
      obtain ⟨rfl, rfl, hget⟩ := of_runs_lift hlift
      refine List.forall_mem_cons.mpr ⟨⟨o, FrameArena.get_eq_ok_iff.mp hget⟩, ?_⟩
      cases hdelegate : o.delegate with
      | some delegate =>
          rw [hdelegate] at hthen
          obtain ⟨_, _, _, -, hrest⟩ := of_runs_bind hthen
          exact ih hrest
      | none =>
          rw [hdelegate] at hthen
          cases hmaterial : c.materialFor o hook with
          | none =>
              simp only [hmaterial] at hthen
              exact ih hthen
          | some material =>
              simp only [hmaterial] at hthen
              obtain ⟨_, _, _, -, hrest⟩ := of_runs_bind hthen
              exact ih hrest

end BinCore

namespace Bin

variable {b b' : Bin} {rule : DrawRule}

theorem resolvesAll_of_renderBy
    (hrun : ((b.renderBy arena scene rule).run d).run s = .ok (((), d'), s')) :
    arena.ResolvesAll b.core.elements := by
  unfold renderBy at hrun
  split at hrun
  · exact BinCore.resolvesAll_of_renderRuns hrun
  · exact BinCore.resolvesAll_of_renderRuns hrun
  · exact BinCore.resolvesAll_of_renderEach hrun

/-- A bin that draws, and is not denied its target, gets through its turn only if all of its
elements resolve. -/
theorem resolvesAll_of_render (hrun : ((b.render arena scene).run d).run s = .ok ((b', d'), s'))
    (hrule : (b.rules.draws scene.pass).isSome)
    (htarget : ∀ t ∈ b.target, t.handle.isSome ∨ s.device.denies t.target = false) :
    arena.ResolvesAll b.core.elements := by
  obtain ⟨rule, hrule⟩ := Option.isSome_iff_exists.mp hrule
  unfold render at hrun
  rw [hrule] at hrun
  cases ht : b.target with
  | none =>
      rw [ht] at hrun
      obtain ⟨_, _, _, hdraw, -⟩ := of_runs_bind hrun
      exact resolvesAll_of_renderBy hdraw
  | some t =>
      rw [ht] at hrun
      obtain ⟨⟨handle, t'⟩, s₁, hacquire, hrun⟩ := of_runs_lift_bind hrun
      rcases t.acquire_cases hacquire with ⟨rfl, hhandle, hdenies, -⟩ | ⟨h, _, rfl, -⟩
      · -- A target that is not there would have been denied.
        rcases htarget t ht with hthere | hgrants
        · rw [hhandle] at hthere
          cases hthere
        · cases hgrants.symm.trans hdenies
      · obtain ⟨_, _, _, hdraw, -⟩ := of_runs_bind hrun
        exact resolvesAll_of_renderBy hdraw

end Bin

namespace Pipeline

variable {p p' : Pipeline} {library : Library} {o stamped : Submission} {names : List String}
  {frame : Nat} {bins drawn : List Bin} {b : Bin}

/-- In a frame that comes to its end, every bin gets through its turn. -/
theorem exists_run_of_drawAll
    (hrun : ((drawAll arena scene bins).run d).run s = .ok ((drawn, d'), s')) (hb : b ∈ bins) :
    ∃ b' d₁ d₂ s₁ s₂, ((b.sort.render arena scene).run d₁).run s₁ = .ok ((b', d₂), s₂) ∧
      s₁.device.denies = s.device.denies := by
  induction bins generalizing d s drawn with
  | nil => cases hb
  | cons first rest ih =>
      rw [drawAll, List.mapM_cons] at hrun
      obtain ⟨b', d₁, s₁, hfirst, hrun⟩ := of_runs_bind hrun
      obtain ⟨drawn', d₂, s₂, hrest, hrun⟩ := of_runs_bind hrun
      cases hrun
      rcases List.mem_cons.mp hb with rfl | hb
      · exact ⟨b', d, d₁, s, s₁, hfirst, rfl⟩
      · obtain ⟨_, hbalanced, -⟩ := Bin.bracketed_render hfirst
        obtain ⟨b'', d₃, d₄, s₃, s₄, hturn, hdenies⟩ := ih hrest hb
        exact ⟨b'', d₃, d₄, s₃, s₄, hturn, hdenies.trans hbalanced.denies⟩

/-- Every element of a bin that draws resolves in a frame that comes to its end. -/
theorem Listed.resolvesAll_of_render (hp : p.Listed) {library' : Library} {stats : FrameStats}
    (hrun : (p.render library scene).run s = .ok ((stats, library', p'), s')) (hb : b ∈ p.bins)
    (hrule : (b.rules.draws scene.pass).isSome)
    (htarget : ∀ t ∈ b.target, t.handle.isSome ∨ s.device.denies t.target = false) :
    p.arena.ResolvesAll b.core.elements := by
  rw [hp.render_eq] at hrun
  obtain ⟨⟨drawn, drawing⟩, s₁, hdraw, -⟩ := of_run_bind hrun
  obtain ⟨b', d₁, d₂, s₁, s₂, hturn, hdenies⟩ :=
    exists_run_of_drawAll hdraw (hp.perm_drawingOrder.mem_iff.mpr hb)
  have hall := Bin.resolvesAll_of_render hturn hrule fun t ht =>
    (htarget t ht).imp_right (congrFun hdenies t.target).trans
  obtain ⟨elements, hperm, hcore⟩ := b.core_sort
  rw [hcore] at hall
  exact fun e he => hall e (hperm.mem_iff.mpr he)

/-! ### The life of a pipeline and of its bins -/

/-- The life of a pipeline and of the bins that were taken out of it: the number of frames that
ended, every handle that was issued, the bins as they were taken out, and what the pipeline is now.
A bin comes without elements, or with what it held when it was taken out; installed or not, a bin may
change in any way, but does not come to hold more. -/
inductive Stored : Nat → List Issue → List Bin → Pipeline → Prop where
  | empty : Stored 0 [] [] {}
  | add {frame : Nat} {issued : List Issue} {shelf : List Bin} {p p' : Pipeline} {b : Bin}
      {s s' : Session} (h : Stored frame issued shelf p) (hb : b.core.elements = [])
      (hrun : (p.add b).run s = .ok (p', s')) : Stored frame issued shelf p'
  | takeOut {frame : Nat} {issued : List Issue} {shelf : List Bin} {p p' : Pipeline} {b : Bin}
      {name : String} (h : Stored frame issued shelf p) (hfound : p.remove name = (some b, p')) :
      Stored frame issued (b :: shelf) p'
  | putBack {frame : Nat} {issued : List Issue} {shelf : List Bin} {p p' : Pipeline} {b b' : Bin}
      {s s' : Session} (h : Stored frame issued shelf p) (hb : b ∈ shelf)
      (hheld : b'.core.elements ⊆ b.core.elements) (hrun : (p.add b').run s = .ok (p', s')) :
      Stored frame issued shelf p'
  | modifyBin {frame : Nat} {issued : List Issue} {shelf : List Bin} {p : Pipeline}
      (h : Stored frame issued shelf p) (name : String) {f : Bin → Bin}
      (hf : ∀ b, (f b).core.elements ⊆ b.core.elements) :
      Stored frame issued shelf (p.modifyBin name f)
  | submit {frame : Nat} {issued : List Issue} {shelf : List Bin} {p p' : Pipeline}
      {library : Library} {o stamped : Submission} {names : List String} {s s' : Session}
      (h : Stored frame issued shelf p) (hstamp : o.stamp library = .ok stamped)
      (hrun : (p.submit library o).run s = .ok ((names, p'), s')) :
      Stored frame (issued ++ [issue frame p.arena stamped names]) shelf p'
  | ends {frame : Nat} {issued : List Issue} {shelf : List Bin} {p p' : Pipeline}
      (h : Stored frame issued shelf p) (hend : p.Ends p') : Stored (frame + 1) issued shelf p'

variable {issued : List Issue} {shelf : List Bin}

theorem Arranged.ends {places : List (Single × Single)} (h : Arranged places p) (hend : p.Ends p') :
    Arranged places p' := by
  cases hend with
  | render hrun => exact h.render hrun
  | clear => exact h.endFrame
  | deviceReset hrun => exact h.deviceReset hrun

theorem Stored.exists_arranged (h : Stored frame issued shelf p) :
    ∃ places, Arranged places p := by
  induction h with
  | empty => exact ⟨_, .empty⟩
  | add _ _ hrun ih | putBack _ _ _ hrun ih =>
      obtain ⟨_, ih⟩ := ih
      exact ⟨_, ih.add hrun⟩
  | @takeOut _ _ _ _ _ _ name _ hfound ih =>
      obtain ⟨_, ih⟩ := ih
      have hremoved := ih.remove name
      rw [hfound] at hremoved
      exact ⟨_, hremoved⟩
  | modifyBin _ name _ ih =>
      obtain ⟨_, ih⟩ := ih
      exact ⟨_, ih.modifyBin name _⟩
  | submit _ _ hrun ih =>
      obtain ⟨_, ih⟩ := ih
      exact ⟨_, ih.submit hrun⟩
  | ends _ hend ih =>
      obtain ⟨_, ih⟩ := ih
      exact ⟨_, ih.ends hend⟩

theorem Stored.listed (h : Stored frame issued shelf p) : p.Listed := by
  obtain ⟨_, harranged⟩ := h.exists_arranged
  exact harranged.arrangedBy.listed

/-! ### What every step keeps -/

/-- A bin of the changed pipeline is as it was, or is the one that was changed. -/
theorem mem_bins_modifyBin {name : String} {f : Bin → Bin} (hb : b ∈ (p.modifyBin name f).bins) :
    b ∈ p.bins ∨ ∃ b₀ ∈ p.bins, b = f b₀ := by
  unfold Pipeline.modifyBin at hb
  split at hb
  next n _ =>
    obtain ⟨i, hi⟩ := List.mem_iff_getElem?.mp hb
    rw [List.getElem?_modify] at hi
    obtain ⟨b₀, hb₀, rfl⟩ := Option.map_eq_some_iff.mp hi
    have hb₀ := List.mem_of_getElem? hb₀
    by_cases hn : n = i
    · exact .inr ⟨b₀, hb₀, if_pos hn⟩
    · exact .inl ((if_neg hn).symm ▸ hb₀)
  next => exact .inl hb

theorem arena_modifyBin (p : Pipeline) (name : String) (f : Bin → Bin) :
    (p.modifyBin name f).arena = p.arena := by
  unfold Pipeline.modifyBin
  split <;> rfl

/-- The elements of objects that were handed in in this frame, and those that were taken along. -/
def Known (frame : Nat) (issued : List Issue) (shelf : List Bin) (e : BinElement) : Prop :=
  (∃ i ∈ issuedIn frame issued, e = i.element) ∨ ∃ b ∈ shelf, e ∈ b.core.elements

/-- The arena accounts for the handles, and whatever a bin holds was issued once. -/
structure Carries (frame : Nat) (issued : List Issue) (shelf : List Bin) (p : Pipeline) : Prop
    extends Accounts frame issued p.arena where
  held : ∀ b ∈ p.bins, ∀ e ∈ b.core.elements, Known frame issued shelf e
  shelved : ∀ b ∈ shelf, ∀ e ∈ b.core.elements, ∃ i ∈ issued, e = i.element

namespace Carries

theorem issued_of_known (h : Carries frame issued shelf p) {e : BinElement}
    (he : Known frame issued shelf e) : ∃ i ∈ issued, e = i.element := by
  rcases he with ⟨i, hi, rfl⟩ | ⟨b, hb, he⟩
  · exact ⟨i, List.mem_of_mem_filter hi, rfl⟩
  · exact h.shelved b hb e he

/-- Bins may come, go and change, if they hold what is known. -/
theorem of_bins (h : Carries frame issued shelf p) (harena : p'.arena = p.arena)
    (hbins : ∀ b ∈ p'.bins, ∀ e ∈ b.core.elements, Known frame issued shelf e) :
    Carries frame issued shelf p' where
  toAccounts := harena ▸ h.toAccounts
  held := hbins
  shelved := h.shelved

theorem add {b : Bin} (h : Carries frame issued shelf p)
    (hb : ∀ e ∈ b.core.elements, Known frame issued shelf e)
    (hrun : (p.add b).run s = .ok (p', s')) : Carries frame issued shelf p' := by
  obtain ⟨_, _, -, hrun⟩ := of_run_bind hrun
  cases hrun
  refine h.of_bins rfl fun b' hb' => ?_
  rcases List.mem_append.mp hb' with hb' | hb'
  · exact h.held b' hb'
  · rwa [List.mem_singleton.mp hb']

theorem takeOut {b : Bin} {name : String} (h : Carries frame issued shelf p)
    (hfound : p.remove name = (some b, p')) : Carries frame issued (b :: shelf) p' := by
  unfold Pipeline.remove at hfound
  split at hfound
  next b' hb' =>
    cases hfound
    have hmem : b ∈ p.bins := List.mem_of_find?_eq_some hb'
    refine ⟨h.toAccounts, fun b' hb' e he => ?_, List.forall_mem_cons.mpr ⟨?_, h.shelved⟩⟩
    · exact (h.held b' (List.mem_of_mem_eraseP hb') e he).imp_right fun ⟨b, hb, he⟩ =>
        ⟨b, List.mem_cons_of_mem _ hb, he⟩
    · exact fun e he => h.issued_of_known (h.held b hmem e he)
  next => cases hfound

theorem modifyBin (h : Carries frame issued shelf p) (name : String) {f : Bin → Bin}
    (hf : ∀ b, (f b).core.elements ⊆ b.core.elements) :
    Carries frame issued shelf (p.modifyBin name f) := by
  refine h.of_bins (arena_modifyBin p name f) fun b hb e he => ?_
  rcases mem_bins_modifyBin hb with hb | ⟨b₀, hb₀, rfl⟩
  · exact h.held b hb e he
  · exact h.held b₀ hb₀ e (hf b₀ he)

theorem submit (h : Carries frame issued shelf p) (hp : p.Listed)
    (hstamp : o.stamp library = .ok stamped)
    (hrun : (p.submit library o).run s = .ok ((names, p'), s')) :
    Carries frame (issued ++ [issue frame p.arena stamped names]) shelf p' := by
  obtain ⟨harena, visited, hrouted⟩ := routed_of_stamped hp hstamp hrun
  refine ⟨harena ▸ h.alloc stamped names, fun b hb e he => ?_, fun b hb e he => ?_⟩
  · have hkept (b : Bin) (hb : b ∈ p.bins) (he : e ∈ b.core.elements) :
        Known frame (issued ++ [issue frame p.arena stamped names]) shelf e :=
      (h.held b hb e he).imp_left fun ⟨i, hi, he⟩ =>
        ⟨i, issuedIn_issue .. ▸ List.mem_append_left _ hi, he⟩
    rcases hrouted.of_mem_bins hb with hb | ⟨b₀, hb₀, rfl⟩
    · exact hkept b hb he
    · rw [Bin.offer] at he
      split at he
      · rcases List.mem_append.mp he with he | he
        · exact hkept b₀ hb₀ he
        · refine .inl ⟨issue frame p.arena stamped names, ?_,
            List.mem_singleton.mp he⟩
          rw [issuedIn_issue]
          exact List.mem_append_right _ (List.mem_singleton_self _)
      · exact hkept b₀ hb₀ he
  · obtain ⟨i, hi, he⟩ := h.shelved b hb e he
    exact ⟨i, List.mem_append_left _ hi, he⟩

/-- The end of a frame empties the bins that are installed; those on the shelf stay as they are. -/
theorem next (h : Carries frame issued shelf p) (hfresh : p.Fresh p') :
    Carries (frame + 1) issued shelf p' where
  toAccounts := hfresh.arena ▸ h.reset
  held := by
    intro b hb e he
    rw [hfresh.elements b hb] at he
    cases he
  shelved := h.shelved

end Carries

theorem Stored.carries (h : Stored frame issued shelf p) : Carries frame issued shelf p := by
  induction h with
  | empty =>
      exact ⟨.empty, fun _ hb => absurd hb List.not_mem_nil, fun _ hb => absurd hb List.not_mem_nil⟩
  | add _ hb hrun ih => exact ih.add (fun e he => absurd (hb ▸ he) List.not_mem_nil) hrun
  | takeOut _ hfound ih => exact ih.takeOut hfound
  | putBack _ hb hheld hrun ih => exact ih.add (fun e he => .inr ⟨_, hb, hheld he⟩) hrun
  | modifyBin _ name hf ih => exact ih.modifyBin name hf
  | submit h hstamp hrun ih => exact ih.submit h.listed hstamp hrun
  | ends _ hend ih => exact ih.next hend.fresh

/-! ### While the counters last -/

theorem mem_issuedIn_iff {i : Issue} :
    i ∈ issuedIn frame issued ↔ i ∈ issued ∧ i.frame = frame := by
  rw [issuedIn, List.mem_filter, beq_iff_eq]

namespace Carries

variable {i : Issue} {e : BinElement}

theorem exists_issue (h : Carries frame issued shelf p) (hb : b ∈ p.bins)
    (he : e ∈ b.core.elements) : ∃ i ∈ issued, e = i.element :=
  h.issued_of_known (h.held b hb e he)

section Counted

variable (h : Carries frame issued shelf p)
  (hcount : (issuedIn frame issued).length < 2 ^ 32)

include h hcount

theorem find_eq (hframe : frame < 2 ^ 32) (hi : i ∈ issued) :
    p.arena.find i.handle = if i.frame = frame then some i.object else none := by
  split
  next hi' => exact h.find hcount.le (mem_issuedIn_iff.mpr ⟨hi, hi'⟩)
  next hi' => exact h.find_past hframe hi hi'

/-- What does not resolve is of an earlier frame. -/
theorem lt_of_find_eq_none (hi : i ∈ issued) (hnone : p.arena.find i.handle = none) :
    i.frame < frame := by
  refine Nat.lt_of_le_of_ne (h.past i hi).1 fun hframe => ?_
  cases (h.find hcount.le (mem_issuedIn_iff.mpr ⟨hi, hframe⟩)).symm.trans hnone

/-- A bin that draws stops for what the library stops for, or at an element of an earlier frame. -/
theorem fault_of_drawFault {fault : Fault} (hb : b ∈ p.bins)
    (hfault : DrawFault p.arena b.core.elements fault) : FormFault fault ∨
      ∃ i ∈ issued, i.frame < frame ∧ i.element ∈ b.core.elements ∧
        fault = .staleFrame i.frame.toUInt32 frame.toUInt32 := by
  cases hfault with
  | form hform => exact .inl hform
  | stale he hnone =>
      obtain ⟨i, hi, rfl⟩ := h.exists_issue hb he
      refine .inr ⟨i, hi, h.lt_of_find_eq_none hcount hi hnone, he, ?_⟩
      rw [h.clock, ← (h.past i hi).2]
      rfl

/-- What resolves was handed in in this frame. -/
theorem issued_of_find (hframe : frame < 2 ^ 32) (hb : b ∈ p.bins) (he : e ∈ b.core.elements)
    (ho : p.arena.find e.handle = some o) :
    ∃ i ∈ issuedIn frame issued, e = i.element ∧ o = i.object := by
  obtain ⟨i, hi, rfl⟩ := h.exists_issue hb he
  have hresolved := (h.find_eq hcount hframe hi).symm.trans ho
  split at hresolved
  next hi' => exact ⟨i, mem_issuedIn_iff.mpr ⟨hi, hi'⟩, rfl, (Option.some.inj hresolved).symm⟩
  next => cases hresolved

end Counted

end Carries

/-- What the elements of the bins stand for, and what a frame makes of them. -/
structure Recognises (frame : Nat) (issued : List Issue) (shelf : List Bin) (p : Pipeline) :
    Prop where
  /-- An element resolves, to the object that was handed in, exactly if this was in this frame. -/
  held : ∀ b ∈ p.bins, ∀ e ∈ b.core.elements, ∃ i ∈ issued, e = i.element ∧
    p.arena.find e.handle = if i.frame = frame then some i.object else none
  /-- The bins were offered the objects of this frame themselves. -/
  offered : ∀ i ∈ issuedIn frame issued, i.offered = i.object
  /-- An element of an earlier frame came with a bin that was taken out. -/
  brought : ∀ b ∈ p.bins, ∀ e ∈ b.core.elements, p.arena.find e.handle = none →
    ∃ b' ∈ shelf, e ∈ b'.core.elements
  /-- A frame, sorting included, stops for what the library stops for, or at an element of an earlier
  frame, in a bin that draws. -/
  stops : ∀ library scene, Action.StopsFor (fun fault => FormFault fault ∨
    ∃ b ∈ p.bins, (b.rules.draws scene.pass).isSome ∧
      ∃ i ∈ issued, i.frame < frame ∧ i.element ∈ b.core.elements ∧
        fault = .staleFrame i.frame.toUInt32 frame.toUInt32) (p.render library scene)
  /-- It does stop if the bin that draws has, or is granted, its target. -/
  halts : ∀ library scene (s : Session), ∀ b ∈ p.bins, (b.rules.draws scene.pass).isSome →
    (∀ t ∈ b.target, t.handle.isSome ∨ s.device.denies t.target = false) →
    ∀ i ∈ issued, i.frame < frame → i.element ∈ b.core.elements →
      ∃ fault, (p.render library scene).run s = .error fault
  /-- A frame that comes to its end drew objects of this frame only. -/
  draws : ∀ library scene s stats library' p' s',
    (p.render library scene).run s = .ok ((stats, library', p'), s') →
      ∃ turns : List Turn, turns.map Turn.before = p.drawingOrder.map Bin.sort ∧
        Walk scene ⟨library, p.stats⟩ s (turns.flatMap Turn.strokes) ⟨library', stats⟩ s' ∧
        ∀ t ∈ turns, ∀ stroke ∈ t.strokes, ∀ m ∈ stroke.members,
          ∃ i ∈ issuedIn frame issued, m.element = i.element ∧ m.object = i.object
  /-- However the frame ends, the installed bins are empty after it. -/
  ended : ∀ p', p.Ends p' → (∀ b ∈ p'.bins, b.core.elements = []) ∧
    ∀ i ∈ issued, p'.arena.find i.handle = none

/-- **Nothing of an earlier frame is drawn, but it stops the frame.**  As long as the frames, and the
objects of the present frame, can be counted in 32 bits: whatever bins were taken out, for how many
frames, and added again, an element resolves exactly if its object was handed in in the present
frame.  A frame stops at an element of an earlier one, which only a bin can hold that was taken out
with it; a frame that comes to its end drew objects of its own. -/
theorem Stored.recognises (h : Stored frame issued shelf p) (hframe : frame < 2 ^ 32)
    (hcount : (issuedIn frame issued).length < 2 ^ 32) : Recognises frame issued shelf p := by
  have hcarries := h.carries
  exact {
    held := by
      intro b hb e he
      obtain ⟨i, hi, rfl⟩ := hcarries.exists_issue hb he
      exact ⟨i, hi, rfl, hcarries.find_eq hcount hframe hi⟩
    offered := fun i hi => hcarries.offered_eq hcount.le hi
    brought := by
      intro b hb e he hnone
      rcases hcarries.held b hb e he with ⟨i, hi, rfl⟩ | hshelf
      · cases (hcarries.find hcount.le hi).symm.trans hnone
      · exact hshelf
    stops := by
      intro library scene
      refine (stopsFor_drawing h.listed library scene).mono ?_
      rintro fault ⟨b, hb, hrule, hfault⟩
      exact (hcarries.fault_of_drawFault hcount hb hfault).imp_right fun ⟨i, hi, hstale⟩ =>
        ⟨b, hb, hrule, i, hi, hstale⟩
    halts := by
      intro library scene s b hb hrule htarget i hi hlt he
      cases hrun : (p.render library scene).run s with
      | error fault => exact ⟨fault, rfl⟩
      | ok r =>
          obtain ⟨o, ho⟩ := h.listed.resolvesAll_of_render hrun hb hrule htarget _ he
          cases (hcarries.find_past hframe hi hlt.ne).symm.trans ho
    draws := by
      intro library scene s stats library' p' s' hrun
      obtain ⟨turns, hbefore, -, hturns, hwalk⟩ := h.listed.walk_render hrun
      refine ⟨turns, hbefore, hwalk, fun t ht stroke hstroke m hm => ?_⟩
      obtain ⟨b, hb, hsort⟩ := List.mem_map.mp (hbefore ▸ List.mem_map_of_mem ht)
      obtain ⟨he, ho⟩ := (hturns t ht).draws.find_of_mem hstroke hm
      obtain ⟨elements, hperm, hcore⟩ := b.core_sort
      rw [← hsort, hcore] at he
      exact hcarries.issued_of_find hcount hframe (h.listed.perm_drawingOrder.mem_iff.mp hb)
        (hperm.mem_iff.mp he) ho
    ended := by
      intro p' hend
      refine ⟨hend.fresh.elements, fun i _ => ?_⟩
      rw [hend.fresh.arena, FrameArena.find]
      split <;> rfl }

/-- A bin that is taken out with an object that waits, and added again in the next frame: the frame
stops at the object. -/
theorem recognises_returned_bin : ∃ issued shelf p library, Stored 1 issued shelf p ∧
    shelf.map Bin.name = ["object"] ∧ (issuedIn 1 issued).length < 2 ^ 32 ∧
    (p.render library {}).run {} = .error (.staleFrame 0 1) ∧ Recognises 1 issued shelf p := by
  let library : Library :=
    { context := ⟨.builtin, {}⟩, warning := { material := .warning, format := .positionNormalUv } }
  let stop (p : Pipeline) : Option Fault :=
    match (p.render library {}).run {} with
    | .error fault => some fault
    | .ok _ => none
  have hcheck : (StateT.run (do
      let first ← (reorder { bins := [.object] }).submit library (.object .once false)
      let removed := first.2.remove "object"
      let second ← removed.2.endFrame.2.add (removed.1.getD .object)
      return (removed.1.map Bin.name, stop second) :
        Action (Option String × Option Fault)) {}).toOption.any
          (·.1 == (some "object", some (.staleFrame 0 1))) = true := by
    decide +kernel
  obtain ⟨⟨_, s⟩, hrun, hgood⟩ := exists_of_any_toOption hcheck
  obtain ⟨⟨names, p₁⟩, s₁, hsubmit, hrun⟩ := of_run_bind hrun
  obtain ⟨p₂, s₂, hadd, hrun⟩ := of_run_bind hrun
  cases hrun
  obtain ⟨hname, hstop⟩ := Prod.mk.inj (beq_iff_eq.mp hgood)
  obtain ⟨b, hb, hname⟩ := Option.map_eq_some_iff.mp hname
  have hinstalled : Stored 0 [] [] (reorder { bins := [.object] }) :=
    .add (s := default) (b := .object) .empty rfl rfl
  have hremoved := (hinstalled.submit rfl hsubmit).takeOut (Prod.ext hb rfl)
  rw [hb] at hadd
  have hstored := (hremoved.ends .clear).putBack List.mem_cons_self (List.Subset.refl _) hadd
  have hcount {issued : List Issue} (h : issued.length = 1) :
      (issuedIn 1 issued).length < 2 ^ 32 := by
    have hle : (issuedIn 1 issued).length ≤ issued.length := List.length_filter_le ..
    omega
  refine ⟨_, _, p₂, library, hstored, congrArg (· :: []) hname, hcount rfl, ?_,
    hstored.recognises (by decide) (hcount rfl)⟩
  cases hrender : (p₂.render library {}).run {} with
  | error fault =>
      simp only [stop, hrender, Option.some.injEq] at hstop
      rw [hstop]
  | ok r =>
      simp only [stop, hrender] at hstop
      cases hstop

end Pipeline

end MaterialPipeline
