import MaterialPipeline.Proofs.Frame.Routing
import MaterialPipeline.Proofs.Storage.Frames

/-!
# Proofs — Frame — Dispatch

The bins of a pipeline through its whole life.  Both orders are worked out when a bin comes or goes,
and read when an object is handed in and when a frame is drawn; in between, bins change, but not the
places that they declare.

* `Pipeline.Reachable`: the pipelines that come of adding and taking out bins, with frames and
changes of bins in between.
* `Pipeline.Routed`: what handing in one object does.
* `Pipeline.Reachable.dispatches`: objects go to the bins in the order of adding, frames are drawn
in the order of drawing.
-/

namespace MaterialPipeline

variable {arena : FrameArena Submission} {scene : Scene} {order : List Nat} {bins bins' : List Bin}
variable {b b' : Bin} {d d' : Drawing} {s s' : Session}

/-! ### Bins that sort and draw -/

theorem Bin.core_of_render (hrun : ((b.render arena scene).run d).run s = .ok ((b', d'), s')) :
    b'.core = b.core := by
  unfold Bin.render at hrun
  split at hrun
  · cases hrun
    rfl
  · split at hrun
    · obtain ⟨_, _, _, -, hrun⟩ := Action.of_runs_bind hrun
      cases hrun
      rfl
    · obtain ⟨⟨handle, _⟩, _, _, -, hrun⟩ := Action.of_runs_bind hrun
      cases handle with
      | none =>
          cases hrun
          rfl
      | some h =>
          obtain ⟨_, _, _, -, hrun⟩ := Action.of_runs_bind hrun
          obtain ⟨_, _, _, -, hrun⟩ := Action.of_runs_bind hrun
          cases hrun
          rfl

theorem Bin.core_of_mapTarget {f : OffscreenTarget → Action OffscreenTarget}
    (hrun : (b.mapTarget f).run s = .ok (b', s')) : b'.core = b.core := by
  unfold Bin.mapTarget at hrun
  split at hrun
  · obtain ⟨_, _, -, hrun⟩ := Action.of_run_bind hrun
    cases hrun
    rfl
  · cases hrun
    rfl

namespace Bin

theorem core_sort : ∃ elements : List BinElement, elements.Perm b.core.elements ∧
    b.sort.core = { b.core with elements := elements } := by
  show ∃ elements : List BinElement,
    elements.Perm b.core.elements ∧ b.core.sortBy b.rules.sorting = _
  cases b.rules.sorting with
  | unsorted => exact ⟨_, .refl _, rfl⟩
  | keys => exact ⟨_, List.mergeSort_perm .., rfl⟩
  | backToFront => exact ⟨_, List.mergeSort_perm .., rfl⟩
  | frontToBack => exact ⟨_, List.mergeSort_perm .., rfl⟩

theorem name_sort : b.sort.name = b.name := by
  obtain ⟨elements, -, hcore⟩ := core_sort (b := b)
  rw [name, hcore]
  rfl

end Bin

namespace Pipeline

variable {p p' : Pipeline} {library library' : Library} {o : Submission} {names : List String}

theorem core_of_renderBins
    (hrun : ((renderBins arena scene order bins).run d).run s = .ok ((bins', d'), s')) :
    bins'.map (·.core) = bins.map (·.core) := by
  induction order generalizing bins d s with
  | nil =>
      cases hrun
      rfl
  | cons n rest ih =>
      rw [renderBins] at hrun
      split at hrun
      · exact ih hrun
      next b hb =>
        obtain ⟨b', d₁, s₁, hb', hrest⟩ := Action.of_runs_bind hrun
        obtain ⟨hn, rfl⟩ := List.getElem?_eq_some_iff.mp hb
        rw [ih hrest, List.map_set, Bin.core_of_render hb']
        refine (List.map_set (f := fun b : Bin => b.core)).symm.trans ?_
        rw [List.set_getElem_self]

/-- What a change keeps of every bin, it keeps of the bin at a position. -/
theorem map_modify {γ : Type} {key : Bin → γ} {f : Bin → Bin} (hf : ∀ b, key (f b) = key b)
    (n : Nat) : (bins.modify n f).map key = bins.map key := by
  refine List.ext_getElem? fun i => ?_
  rw [List.getElem?_map, List.getElem?_map, List.getElem?_modify]
  cases bins[i]? with
  | none => rfl
  | some b =>
      show some (key (if n = i then f b else b)) = _
      split
      · exact congrArg some (hf b)
      · rfl

theorem map_foldl_offerAt {γ : Type} {key : Bin → γ} {h : FrameHandle}
    (hoffer : ∀ b, key (b.offer h o).2 = key b) (visited : List Nat) :
    (visited.foldl (offerAt h o) bins).map key = bins.map key := by
  induction visited generalizing bins with
  | nil => rfl
  | cons n rest ih => rw [List.foldl_cons, ih, offerAt, map_modify hoffer]

/-! ### Handing in -/

/-- What handing in an object does: `visited` are the positions of the bins that it is offered to,
in order, and `names` those that claim it. -/
structure Routed (p : Pipeline) (h : FrameHandle) (o : Submission) (visited : List Nat)
    (names : List String) (p' : Pipeline) : Prop where
  inOrder : visited <+: p.addOrder
  /-- The object goes on to the next bin unless a bin stops it. -/
  goesOn : ∀ n ∈ visited.dropLast, answerAt h o p.bins n ≠ some .stopped
  ends : visited = p.addOrder ∨ ∃ n ∈ visited.getLast?, answerAt h o p.bins n = some .stopped
  claimedBy : names = claimants h o p.bins visited
  offered : p'.bins = visited.foldl (offerAt h o) p.bins
  others : ∀ n, p'.bins[n]? =
    if n ∈ visited then p.bins[n]?.map fun b => (b.offer h o).2 else p.bins[n]?
  claims : ∀ name, p'.stats.claimsFor name = p.stats.claimsFor name + names.count name
  unclaimed : p'.stats.unclaimed =
    p.stats.unclaimed + if ∀ b ∈ p.bins, (b.offer h o).1 = .skipped then 1 else 0
  submitted : p'.stats.submitted = p.stats.submitted + 1
  addOrder : p'.addOrder = p.addOrder
  renderOrder : p'.renderOrder = p.renderOrder

/-- After an object was handed in, a bin is as it was, or was offered the object. -/
theorem Routed.of_mem_bins {h : FrameHandle} {visited : List Nat}
    (hrouted : Routed p h o visited names p') (hb : b ∈ p'.bins) :
    b ∈ p.bins ∨ ∃ b₀ ∈ p.bins, b = (b₀.offer h o).2 := by
  obtain ⟨n, hn⟩ := List.mem_iff_getElem?.mp hb
  rw [hrouted.others n] at hn
  split at hn
  · obtain ⟨b₀, hb₀, rfl⟩ := Option.map_eq_some_iff.mp hn
    exact .inr ⟨b₀, List.mem_of_getElem? hb₀, rfl⟩
  · exact .inl (List.mem_of_getElem? hn)

/-- Handing in takes what routing gives. -/
theorem run_submit {stamped : Submission} {stats : FrameStats} (s : Session)
    (hstamp : o.stamp library = .ok stamped)
    (hroute : route (p.arena.alloc stamped).1 (p.arena.readBack stamped) p.addOrder p.bins
      { p.stats with submitted := p.stats.submitted + 1 } = (names, bins, stats)) :
    ∃ s', (p.submit library o).run s = .ok ((names, { p with
      bins := bins
      arena := (p.arena.alloc stamped).2
      stats := if names.isEmpty then { stats with unclaimed := stats.unclaimed + 1 } else stats }),
      s') := by
  unfold Pipeline.submit
  rw [Action.run_lift_bind hstamp]
  dsimp only
  rw [Action.run_lift_bind (p.arena.get_alloc stamped)]
  cases names with
  | nil => exact ⟨_, by simp only [hroute]; rfl⟩
  | cons name rest => exact ⟨_, by simp only [hroute]; rfl⟩

/-- Handing in leaves the device alone. -/
theorem device_of_submit (hrun : (p.submit library o).run s = .ok ((names, p'), s')) :
    s'.device = s.device := by
  obtain ⟨stamped, _, hstamp, hrun⟩ := Action.of_run_bind hrun
  rw [← (Action.of_run_lift hstamp).1]
  obtain ⟨offered, _, hget, hrun⟩ := Action.of_run_bind hrun
  rw [← (Action.of_run_lift hget).1]
  dsimp only at hrun
  split at hrun
  · obtain ⟨_, _, hreport, hrun⟩ := Action.of_run_bind hrun
    cases hreport
    cases hrun
    rfl
  · cases hrun
    rfl

/-- Handing in succeeds once the summary of the material is known. -/
theorem routed_submit (hp : p.Listed) {stamped : Submission}
    (hstamp : o.stamp library = .ok stamped) (s : Session) :
    ∃ visited names p' s', (p.submit library o).run s = .ok ((names, p'), s') ∧
      Routed p (p.arena.alloc stamped).1 (p.arena.readBack stamped) visited names p' := by
  obtain ⟨h, hh⟩ : ∃ h, h = (p.arena.alloc stamped).1 := ⟨_, rfl⟩
  obtain ⟨offered, hoffered⟩ : ∃ offered, offered = p.arena.readBack stamped := ⟨_, rfl⟩
  obtain ⟨visited, hvisited⟩ : ∃ visited, visited = visits (answerAt h offered p.bins) p.addOrder :=
    ⟨_, rfl⟩
  obtain ⟨names, hnames⟩ : ∃ names, names = claimants h offered p.bins visited := ⟨_, rfl⟩
  have hprefix : visited <+: p.addOrder := hvisited ▸ visits_isPrefix _
  have hroute := route_eq (h := h) (o := offered) hp.adding.nodup
    (fun n hn => hp.adding.mem_iff.mp hn) { p.stats with submitted := p.stats.submitted + 1 }
  rw [← hvisited, ← hnames, hh, hoffered] at hroute
  obtain ⟨s', hrun⟩ := run_submit s hstamp hroute
  have hskipped : names = [] ↔ ∀ b ∈ p.bins, (b.offer h offered).1 = .skipped := by
    rw [hnames, hvisited, claimants_visits_eq_nil_iff]
    refine ⟨fun hall b hb => ?_, fun hall n _ b hb => hall b (List.mem_of_getElem? hb)⟩
    obtain ⟨n, hn⟩ := List.mem_iff_getElem?.mp hb
    exact hall n (hp.adding.mem_iff.mpr (List.getElem?_eq_some_iff.mp hn).1) b hn
  refine ⟨visited, names, _, s', hrun, ?_⟩
  rw [← hh, ← hoffered] at hroute ⊢
  exact {
    inOrder := hprefix
    goesOn := fun n hn => answer_ne_stopped_of_mem_dropLast (hvisited ▸ hn)
    ends := hvisited ▸ visits_eq_or_getLast? _
    claimedBy := hnames
    offered := rfl
    others := fun n => getElem?_foldl_offerAt (hp.adding.nodup.sublist hprefix.sublist)
    claims := fun name => by
      have hclaims := claimsFor_foldl_claim names
        { p.stats with submitted := p.stats.submitted + 1 } name
      cases names <;> exact hclaims
    unclaimed := by
      rw [foldl_claim_eq]
      by_cases hn : names = []
      · rw [if_pos (hskipped.mp hn), hn]
        rfl
      · rw [if_neg (hskipped.not.mp hn)]
        simp [hn]
    submitted := by
      rw [foldl_claim_eq]
      cases names <;> rfl
    addOrder := rfl
    renderOrder := rfl }

/-- Handing in that succeeds takes the object into the arena. -/
theorem routed_of_stamped (hp : p.Listed) {stamped : Submission}
    (hstamp : o.stamp library = .ok stamped)
    (hrun : (p.submit library o).run s = .ok ((names, p'), s')) :
    p'.arena = (p.arena.alloc stamped).2 ∧
      ∃ visited, Routed p (p.arena.alloc stamped).1 (p.arena.readBack stamped) visited names p' := by
  obtain ⟨visited, names', p'', s'', hrun', hrouted⟩ := routed_submit hp hstamp s
  cases hrun'.symm.trans hrun
  refine ⟨?_, visited, hrouted⟩
  obtain ⟨names', bins, stats, hroute⟩ : ∃ names bins stats,
      route (p.arena.alloc stamped).1 (p.arena.readBack stamped) p.addOrder p.bins
        { p.stats with submitted := p.stats.submitted + 1 } = (names, bins, stats) :=
    ⟨_, _, _, rfl⟩
  obtain ⟨_, hrun'⟩ := run_submit s hstamp hroute
  cases hrun'.symm.trans hrun
  rfl

theorem routed_of_submit (hp : p.Listed)
    (hrun : (p.submit library o).run s = .ok ((names, p'), s')) :
    ∃ stamped, o.stamp library = .ok stamped ∧ p'.arena = (p.arena.alloc stamped).2 ∧
      ∃ visited h, Routed p h (p.arena.readBack stamped) visited names p' := by
  obtain ⟨stamped, _, hlift, -⟩ := Action.of_run_bind hrun
  obtain ⟨-, hstamp⟩ := Action.of_run_lift hlift
  obtain ⟨harena, visited, hrouted⟩ := routed_of_stamped hp hstamp hrun
  exact ⟨stamped, hstamp, harena, visited, _, hrouted⟩

/-! ### The life of a pipeline -/

/-- The pipelines that come of adding and taking out bins, with frames in between.  A bin may change
in any way while it is installed, but for the places that it declares. -/
inductive Reachable : Pipeline → Prop where
  | empty : Reachable {}
  | add {p p' : Pipeline} {b : Bin} {s s' : Session} (hp : Reachable p)
      (hrun : (p.add b).run s = .ok (p', s')) : Reachable p'
  | remove {p : Pipeline} (hp : Reachable p) (name : String) : Reachable (p.remove name).2
  | modifyBin {p : Pipeline} (hp : Reachable p) (name : String) {f : Bin → Bin}
      (hf : ∀ b, declared (f b) = declared b) : Reachable (p.modifyBin name f)
  | submit {p p' : Pipeline} {library : Library} {o : Submission} {names : List String}
      {s s' : Session} (hp : Reachable p)
      (hrun : (p.submit library o).run s = .ok ((names, p'), s')) : Reachable p'
  | render {p p' : Pipeline} {library library' : Library} {scene : Scene} {stats : FrameStats}
      {s s' : Session} (hp : Reachable p)
      (hrun : (p.render library scene).run s = .ok ((stats, library', p'), s')) : Reachable p'
  | endFrame {p : Pipeline} (hp : Reachable p) : Reachable p.endFrame.2
  | deviceReset {p p' : Pipeline} {s s' : Session} (hp : Reachable p)
      (hrun : p.deviceReset.run s = .ok (p', s')) : Reachable p'

theorem InOrder.remove (hp : p.InOrder) (name : String) : (p.remove name).2.InOrder := by
  unfold Pipeline.remove
  split
  · exact inOrder_reorder _
  · exact hp

theorem InOrder.modifyBin (hp : p.InOrder) (name : String) {f : Bin → Bin}
    (hf : ∀ b, declared (f b) = declared b) : (p.modifyBin name f).InOrder := by
  unfold Pipeline.modifyBin
  split
  · exact hp.congr ⟨map_modify hf _, rfl, rfl⟩
  · exact hp

theorem keepsPlaces_endFrame (p : Pipeline) : p.KeepsPlaces p.endFrame.2 :=
  ⟨List.map_map .., rfl, rfl⟩

theorem Listed.keepsPlaces_submit (hp : p.Listed)
    (hrun : (p.submit library o).run s = .ok ((names, p'), s')) : p.KeepsPlaces p' := by
  obtain ⟨_, -, -, _, _, hrouted⟩ := routed_of_submit hp hrun
  refine ⟨?_, hrouted.addOrder, hrouted.renderOrder⟩
  rw [hrouted.offered, map_foldl_offerAt declared_offer]

theorem keepsPlaces_render {stats : FrameStats}
    (hrun : (p.render library scene).run s = .ok ((stats, library', p'), s')) :
    p.KeepsPlaces p' := by
  unfold Pipeline.render at hrun
  obtain ⟨⟨bins, drawing⟩, s₁, hbins, hrun⟩ := Action.of_run_bind hrun
  cases hrun
  refine ⟨?_, rfl, rfl⟩
  let places (c : BinCore) : Single × Single := (c.renderOrder, c.addOrder)
  calc (bins.map Bin.clear).map declared
      = bins.map declared := List.map_map ..
    _ = (bins.map (·.core)).map places := by
        rw [List.map_map]
        rfl
    _ = (p.bins.map Bin.sort).map declared := by
        rw [core_of_renderBins hbins]
        exact List.map_map ..
    _ = p.bins.map declared := by
        rw [List.map_map]
        refine List.map_congr_left fun b _ => ?_
        obtain ⟨elements, -, hcore⟩ := b.core_sort
        show places b.sort.core = places b.core
        rw [hcore]

theorem keepsPlaces_deviceReset (hrun : p.deviceReset.run s = .ok (p', s')) :
    p.KeepsPlaces p' := by
  unfold Pipeline.deviceReset at hrun
  obtain ⟨_, _, -, hrun⟩ := Action.of_run_bind hrun
  obtain ⟨bins, _, hbins, hrun⟩ := Action.of_run_bind hrun
  cases hrun
  refine ⟨Action.map_eq_of_run_mapM (fun b b' _ _ hb => ?_) hbins, rfl, rfl⟩
  rw [declared, declared, Bin.core_of_mapTarget hb]
  rfl

theorem Reachable.inOrder (hp : p.Reachable) : p.InOrder := by
  induction hp with
  | empty => exact ⟨⟨.refl _, .nil⟩, ⟨.refl _, .nil⟩⟩
  | add _ hrun _ =>
      obtain ⟨_, _, -, hrun⟩ := Action.of_run_bind hrun
      cases hrun
      exact inOrder_reorder _
  | remove _ name ih => exact ih.remove name
  | modifyBin _ name hf ih => exact ih.modifyBin name hf
  | submit _ hrun ih => exact ih.congr (ih.listed.keepsPlaces_submit hrun)
  | render _ hrun ih => exact ih.congr (keepsPlaces_render hrun)
  | endFrame _ ih => exact ih.congr (keepsPlaces_endFrame _)
  | deviceReset _ hrun ih => exact ih.congr (keepsPlaces_deviceReset hrun)

/-! ### Drawing a frame -/

/-- Bins put back at their positions. -/
def putBack : List Nat → List Bin → List Bin → List Bin
  | n :: order, b :: drawn, bins => putBack order drawn (bins.set n b)
  | _, _, bins => bins

/-- Each bin draws once, in order; the bins that have drawn do not show in those that have not. -/
theorem renderBins_eq (horder : order.Nodup) (hbins : ∀ n ∈ order, n < bins.length) :
    renderBins arena scene order bins = (do
      let drawn ← (order.filterMap (bins[·]?)).mapM (·.render arena scene)
      return putBack order drawn bins) := by
  induction order generalizing bins with
  | nil => rfl
  | cons n rest ih =>
      obtain ⟨hn, hrest⟩ := List.nodup_cons.mp horder
      obtain ⟨b, hb⟩ : ∃ b, bins[n]? = some b :=
        ⟨_, List.getElem?_eq_getElem (hbins n List.mem_cons_self)⟩
      have hothers (b' : Bin) :
          rest.filterMap ((bins.set n b')[·]?) = rest.filterMap (bins[·]?) :=
        List.filterMap_congr fun m hm => List.getElem?_set_ne (ne_of_mem_of_not_mem hm hn).symm
      have hlength (b' : Bin) : ∀ m ∈ rest, m < (bins.set n b').length := by
        intro m hm
        rw [List.length_set]
        exact hbins m (List.mem_cons_of_mem n hm)
      have ih (b' : Bin) := ih hrest (hlength b')
      rw [renderBins]
      simp only [hb, ih, hothers, List.filterMap_cons, List.mapM_cons, bind_assoc, pure_bind,
        putBack]

theorem getElem?_putBack_of_notMem {drawn : List Bin} {n : Nat} (hn : n ∉ order) :
    (putBack order drawn bins)[n]? = bins[n]? := by
  induction order generalizing drawn bins with
  | nil => rfl
  | cons m rest ih =>
      obtain ⟨hne, hrest⟩ := not_or.mp (List.mem_cons.not.mp hn)
      cases drawn with
      | nil => rfl
      | cons b drawn => rw [putBack, ih hrest, List.getElem?_set_ne (Ne.symm hne)]

/-- Bins that were put back are found at their positions. -/
theorem filterMap_putBack (bins : List Bin) {drawn : List Bin} (horder : order.Nodup)
    (hbins : ∀ n ∈ order, n < bins.length) (hlength : drawn.length = order.length) :
    order.filterMap ((putBack order drawn bins)[·]?) = drawn := by
  induction order generalizing drawn bins with
  | nil => exact (List.length_eq_zero_iff.mp hlength).symm
  | cons n rest ih =>
      obtain ⟨hn, hrest⟩ := List.nodup_cons.mp horder
      obtain ⟨hbound, hbounds⟩ := List.forall_mem_cons.mp hbins
      cases drawn with
      | nil => cases hlength
      | cons b drawn =>
          have hput : (putBack rest drawn (bins.set n b))[n]? = some b := by
            rw [getElem?_putBack_of_notMem hn, List.getElem?_set_self hbound]
          have hlengths : ∀ m ∈ rest, m < (bins.set n b).length := by
            intro m hm
            rw [List.length_set]
            exact hbounds m hm
          rw [putBack, List.filterMap_cons_some hput,
            ih _ hrest hlengths (Nat.succ.inj hlength)]

/-- The bins in the order of drawing. -/
def drawingOrder (p : Pipeline) : List Bin :=
  p.renderOrder.filterMap (p.bins[·]?)

/-- Every bin sorts and draws, one after another. -/
def drawAll (arena : FrameArena Submission) (scene : Scene) (bins : List Bin) :
    DrawAction (List Bin) :=
  bins.mapM fun b => b.sort.render arena scene

/-- The bins in the order of drawing are all bins, each once. -/
theorem Listed.perm_drawingOrder (hp : p.Listed) : p.drawingOrder.Perm p.bins :=
  hp.drawing.perm_filterMap

/-- A frame: every bin sorts and draws, in the order of drawing. -/
theorem Listed.render_eq (hp : p.Listed) (library : Library) (scene : Scene) :
    p.render library scene = (do
      let (drawn, drawing) ← (drawAll p.arena scene p.drawingOrder).run ⟨library, p.stats⟩
      let (stats, p') := Pipeline.endFrame { p with
        bins := putBack p.renderOrder drawn (p.bins.map Bin.sort), stats := drawing.stats }
      return (stats, drawing.library, p')) := by
  have hrange : ∀ n ∈ p.renderOrder, n < (p.bins.map Bin.sort).length := by
    intro n hn
    rw [List.length_map]
    exact hp.drawing.mem_iff.mp hn
  have hsorted : p.renderOrder.filterMap ((p.bins.map Bin.sort)[·]?) =
      p.drawingOrder.map Bin.sort := by
    rw [drawingOrder, List.map_filterMap]
    exact List.filterMap_congr fun n _ => List.getElem?_map
  unfold Pipeline.render
  simp only [renderBins_eq hp.drawing.nodup hrange, hsorted, List.mapM_map, StateT.run_bind,
    bind_assoc]
  rfl

theorem length_drawAll {drawn : List Bin}
    (hrun : ((drawAll arena scene bins).run d).run s = .ok ((drawn, d'), s')) :
    drawn.length = bins.length := by
  induction bins generalizing d s drawn with
  | nil =>
      cases hrun
      rfl
  | cons b rest ih =>
      rw [drawAll, List.mapM_cons] at hrun
      obtain ⟨_, _, _, -, hrun⟩ := Action.of_runs_bind hrun
      obtain ⟨_, _, _, hrest, hrun⟩ := Action.of_runs_bind hrun
      cases hrun
      rw [List.length_cons, ih hrest, List.length_cons]

/-- After a frame, the bins are in the order of drawing as they drew, without elements. -/
theorem Listed.drawn_of_render (hp : p.Listed) {stats : FrameStats}
    (hrun : (p.render library scene).run s = .ok ((stats, library', p'), s')) :
    ∃ drawn, ((drawAll p.arena scene p.drawingOrder).run ⟨library, p.stats⟩).run s =
        .ok ((drawn, ⟨library', stats⟩), s') ∧ p'.drawingOrder = drawn.map Bin.clear := by
  rw [hp.render_eq] at hrun
  obtain ⟨⟨drawn, drawing⟩, s₁, hdraw, hrun⟩ := Action.of_run_bind hrun
  cases hrun
  refine ⟨drawn, hdraw, ?_⟩
  have hlength : drawn.length = p.renderOrder.length := by
    rw [length_drawAll hdraw, hp.perm_drawingOrder.length_eq, hp.drawing.length_eq]
  have hback := filterMap_putBack (p.bins.map Bin.sort) hp.drawing.nodup
    (fun n hn => by rw [List.length_map]; exact hp.drawing.mem_iff.mp hn) hlength
  show p.renderOrder.filterMap
    (((putBack p.renderOrder drawn (p.bins.map Bin.sort)).map Bin.clear)[·]?) = _
  simp only [List.getElem?_map]
  rw [← List.map_filterMap, hback]

/-- Objects go to the bins in the order of adding, and frames are drawn in the order of drawing. -/
structure Dispatches (p : Pipeline) : Prop where
  inOrder : p.InOrder
  submit : ∀ library o stamped s, o.stamp library = .ok stamped →
    ∃ visited names p' s', (p.submit library o).run s = .ok ((names, p'), s') ∧
      Routed p (p.arena.alloc stamped).1 (p.arena.readBack stamped) visited names p'
  /-- What is routed is what was handed in, as long as objects can be counted in 32 bits. -/
  handedIn : p.arena.size < 2 ^ 32 → ∀ o, p.arena.readBack o = o
  /-- The bins in the order of drawing are all bins, each once. -/
  everyBin : p.drawingOrder.Perm p.bins
  render : ∀ library scene, p.render library scene = (do
    let (drawn, drawing) ← (drawAll p.arena scene p.drawingOrder).run ⟨library, p.stats⟩
    let (stats, p') := Pipeline.endFrame { p with
      bins := putBack p.renderOrder drawn (p.bins.map Bin.sort), stats := drawing.stats }
    return (stats, drawing.library, p'))

theorem Reachable.dispatches (hp : p.Reachable) : p.Dispatches where
  inOrder := hp.inOrder
  submit := fun _ _ _ s hstamp => routed_submit hp.inOrder.listed hstamp s
  handedIn := fun hsize => FrameArena.readBack_of_lt hsize
  everyBin := hp.inOrder.listed.perm_drawingOrder
  render := hp.inOrder.listed.render_eq

/-- A bin that stops every object, installed after a bin that claims every object but offered
objects before it. -/
theorem dispatches_two_bins :
    let open' := Bin.custom "open" .added .unsorted none
    let closed := (Bin.custom "closed" .stopped .unsorted none).withOrders 1 0.5
    let p := Pipeline.reorder { bins := [open', closed] }
    p.Reachable ∧ p.addOrder = [1, 0] ∧ p.renderOrder = [0, 1] ∧ p.Dispatches := by
  intro open' closed p
  have hp : p.Reachable := .add (s := default) (.add (b := open') (s := default) .empty rfl) rfl
  have hadding : OrderedBy addKey p.bins [1, 0] :=
    ⟨.swap 0 1 [], by
      refine List.pairwise_pair.mpr ⟨closed, open', rfl, rfl, .inl ?_⟩
      decide +kernel⟩
  have hdrawing : OrderedBy renderKey p.bins [0, 1] :=
    ⟨.refl _, List.pairwise_pair.mpr ⟨open', closed, rfl, rfl, .inr ⟨rfl, Nat.zero_lt_one⟩⟩⟩
  exact ⟨hp, hp.inOrder.adding.unique hadding, hp.inOrder.drawing.unique hdrawing, hp.dispatches⟩

end Pipeline

end MaterialPipeline
