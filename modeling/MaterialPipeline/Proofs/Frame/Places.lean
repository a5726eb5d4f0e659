import MaterialPipeline.Proofs.Frame.Dispatch

/-!
# Proofs — Frame — Places

Bins that are given other places while they are installed.  Both orders are worked out when a bin
comes or goes and at no other time, so a bin that moves keeps its turn until then.

* `Pipeline.Arranged`: the life of a pipeline whose bins may change in any way, with the places that
the bins declared when the orders were last worked out.
* `Pipeline.ArrangedBy`: both orders are those of some places; one lemma for each step.
* `Pipeline.Arranged.follows_places`: objects go to the bins and frames are drawn by those places,
whatever the bins declare by now, and by which moves the two come to differ.
-/

namespace MaterialPipeline

namespace Pipeline

variable {p p' : Pipeline} {places : List (Single × Single)} {library : Library} {scene : Scene}
  {o : Submission} {names : List String} {s s' : Session}

/-! ### Places -/

/-- The key by which places are offered objects. -/
def addPlace (place : Single × Single) : Int :=
  place.2.totalKey

/-- The key by which places draw. -/
def renderPlace (place : Single × Single) : Int :=
  place.1.totalKey

/-- Both orders are those of some places, one for each bin. -/
structure ArrangedBy (places : List (Single × Single)) (p : Pipeline) : Prop where
  length : places.length = p.bins.length
  adding : OrderedBy addPlace places p.addOrder
  drawing : OrderedBy renderPlace places p.renderOrder

theorem InOrder.arrangedBy (hp : p.InOrder) : ArrangedBy (p.bins.map declared) p where
  length := List.length_map ..
  adding := hp.adding.congr (List.map_map ..)
  drawing := hp.drawing.congr (List.map_map ..)

namespace ArrangedBy

theorem listed (h : ArrangedBy places p) : p.Listed :=
  ⟨h.adding.positions.congr h.length.symm, h.drawing.positions.congr h.length.symm⟩

/-- The orders stay those of the places, whatever becomes of the bins. -/
theorem congr (h : ArrangedBy places p) (hbins : p'.bins.length = p.bins.length)
    (hadd : p'.addOrder = p.addOrder) (hrender : p'.renderOrder = p.renderOrder) :
    ArrangedBy places p' :=
  ⟨h.length.trans hbins.symm, hadd ▸ h.adding, hrender ▸ h.drawing⟩

theorem keep (h : ArrangedBy places p) (hkeeps : p.KeepsPlaces p') : ArrangedBy places p' := by
  have hlength := congrArg List.length hkeeps.bins
  rw [List.length_map, List.length_map] at hlength
  exact h.congr hlength hkeeps.adding hkeeps.drawing

theorem modifyBin (h : ArrangedBy places p) (name : String) (f : Bin → Bin) :
    ArrangedBy places (p.modifyBin name f) := by
  unfold Pipeline.modifyBin
  split
  · exact h.congr (List.length_modify ..) rfl rfl
  · exact h

/-- The orders are those of the bins exactly if no two bins stand the other way round by now. -/
theorem inOrder_iff (h : ArrangedBy places p) : p.InOrder ↔ ∀ i j,
    (Precedes addKey p.bins i j ↔ Precedes addPlace places i j) ∧
      (Precedes renderKey p.bins i j ↔ Precedes renderPlace places i j) := by
  refine ⟨fun hp i j => ⟨hp.adding.precedes_iff.trans h.adding.precedes_iff.symm,
    hp.drawing.precedes_iff.trans h.drawing.precedes_iff.symm⟩, fun halike => ⟨?_, ?_⟩⟩
  · exact (h.adding.iff_precedes h.length.symm).mpr fun i j => (halike i j).1
  · exact (h.drawing.iff_precedes h.length.symm).mpr fun i j => (halike i j).2

end ArrangedBy

/-! ### The life of a pipeline -/

/-- The life of a pipeline whose bins may change in any way while they are installed, with the places
that they declared when a bin last came or went.  Taking out a bin that is not there changes nothing.
-/
inductive Arranged : List (Single × Single) → Pipeline → Prop where
  | empty : Arranged [] {}
  | add {places : List (Single × Single)} {p p' : Pipeline} {b : Bin} {s s' : Session}
      (h : Arranged places p) (hrun : (p.add b).run s = .ok (p', s')) :
      Arranged (p'.bins.map declared) p'
  | remove {places : List (Single × Single)} {p : Pipeline} (h : Arranged places p)
      (name : String) :
      Arranged (if (p.remove name).1.isSome then (p.remove name).2.bins.map declared else places)
        (p.remove name).2
  | modifyBin {places : List (Single × Single)} {p : Pipeline} (h : Arranged places p)
      (name : String) (f : Bin → Bin) : Arranged places (p.modifyBin name f)
  | submit {places : List (Single × Single)} {p p' : Pipeline} {library : Library}
      {o : Submission} {names : List String} {s s' : Session} (h : Arranged places p)
      (hrun : (p.submit library o).run s = .ok ((names, p'), s')) : Arranged places p'
  | render {places : List (Single × Single)} {p p' : Pipeline} {library library' : Library}
      {scene : Scene} {stats : FrameStats} {s s' : Session} (h : Arranged places p)
      (hrun : (p.render library scene).run s = .ok ((stats, library', p'), s')) :
      Arranged places p'
  | endFrame {places : List (Single × Single)} {p : Pipeline} (h : Arranged places p) :
      Arranged places p.endFrame.2
  | deviceReset {places : List (Single × Single)} {p p' : Pipeline} {s s' : Session}
      (h : Arranged places p) (hrun : p.deviceReset.run s = .ok (p', s')) : Arranged places p'

theorem Arranged.arrangedBy (h : Arranged places p) : ArrangedBy places p := by
  induction h with
  | empty => exact ⟨rfl, ⟨.refl _, .nil⟩, ⟨.refl _, .nil⟩⟩
  | add _ hrun _ =>
      obtain ⟨_, _, -, hrun⟩ := Action.of_run_bind hrun
      cases hrun
      exact (inOrder_reorder _).arrangedBy
  | remove _ name ih =>
      unfold Pipeline.remove
      split
      · exact (inOrder_reorder _).arrangedBy
      · exact ih
  | modifyBin _ name f ih => exact ih.modifyBin name f
  | submit _ hrun ih => exact ih.keep (ih.listed.keepsPlaces_submit hrun)
  | render _ hrun ih => exact ih.keep (keepsPlaces_render hrun)
  | endFrame _ ih => exact ih.keep (keepsPlaces_endFrame _)
  | deviceReset _ hrun ih => exact ih.keep (keepsPlaces_deviceReset hrun)

/-! ### What follows the places -/

/-- The bins in the order of adding. -/
def addingOrder (p : Pipeline) : List Bin :=
  p.addOrder.filterMap (p.bins[·]?)

/-- Objects go to the bins, and frames are drawn, by some places. -/
structure Follows (places : List (Single × Single)) (p : Pipeline) : Prop where
  arrangedBy : ArrangedBy places p
  submit : ∀ library o stamped s, o.stamp library = .ok stamped →
    ∃ visited names p' s', (p.submit library o).run s = .ok ((names, p'), s') ∧
      Routed p (p.arena.alloc stamped).1 (p.arena.readBack stamped) visited names p'
  /-- What is routed is what was handed in, as long as objects can be counted in 32 bits. -/
  handedIn : p.arena.size < 2 ^ 32 → ∀ o, p.arena.readBack o = o
  render : ∀ library scene, p.render library scene = (do
    let (drawn, drawing) ← (drawAll p.arena scene p.drawingOrder).run ⟨library, p.stats⟩
    let (stats, p') := Pipeline.endFrame { p with
      bins := putBack p.renderOrder drawn (p.bins.map Bin.sort), stats := drawing.stats }
    return (stats, drawing.library, p'))
  /-- Either list names every bin, in its turn. -/
  added : p.namesAt p.addOrder = p.addingOrder.map Bin.name ∧ p.addingOrder.Perm p.bins
  drawn : p.namesAt p.renderOrder = p.drawingOrder.map Bin.name ∧ p.drawingOrder.Perm p.bins
  /-- The places are those that the bins declare by now, or stand alike, exactly if the orders are
  those of the bins. -/
  inOrder_iff : p.InOrder ↔ ∀ i j,
    (Precedes addKey p.bins i j ↔ Precedes addPlace places i j) ∧
      (Precedes renderKey p.bins i j ↔ Precedes renderPlace places i j)

/-- **The orders are those of the last bin to come or go.**  Whatever the bins declare by now, objects
go to them, frames are drawn and both lists are read off by the places that they declared when a bin
was last added or taken out.  These orders are those of the present places exactly if no two bins
were turned round since. -/
theorem Arranged.follows_places (h : Arranged places p) : Follows places p where
  arrangedBy := h.arrangedBy
  submit := fun _ _ _ s hstamp => routed_submit h.arrangedBy.listed hstamp s
  handedIn := fun hsize => FrameArena.readBack_of_lt hsize
  render := h.arrangedBy.listed.render_eq
  added := ⟨(List.map_filterMap ..).symm, h.arrangedBy.listed.adding.perm_filterMap⟩
  drawn := ⟨(List.map_filterMap ..).symm, h.arrangedBy.listed.perm_drawingOrder⟩
  inOrder_iff := h.arrangedBy.inOrder_iff

/-- A bin that moves before another while both are installed: it is still offered objects after it.
-/
theorem follows_moved_bin :
    let first := Bin.custom "first" .added .unsorted none
    let second := (Bin.custom "second" .stopped .unsorted none).withOrders 2 2
    let p := Pipeline.modifyBin (reorder { bins := [first, second] }) "second"
      (·.withOrders 0 0)
    Arranged [(1, 1), (2, 2)] p ∧ p.bins.map declared = [(1, 1), (0, 0)] ∧
      p.namesAt p.addOrder = ["first", "second"] ∧ ¬ p.InOrder ∧ Follows [(1, 1), (2, 2)] p := by
  intro first second p
  have hinstalled : Arranged [(1, 1), (2, 2)] (reorder { bins := [first, second] }) :=
    .add (b := second) (s := default) (.add (b := first) (s := default) .empty rfl) rfl
  have hp : Arranged [(1, 1), (2, 2)] p := hinstalled.modifyBin "second" _
  have hdeclared : p.bins.map declared = [(1, 1), (0, 0)] := rfl
  have hadding : OrderedBy addPlace [(1, 1), (2, 2)] [0, 1] :=
    ⟨.refl _, List.pairwise_pair.mpr ⟨(1, 1), (2, 2), rfl, rfl, .inl (by decide +kernel)⟩⟩
  have horder : p.addOrder = [0, 1] := hp.arrangedBy.adding.unique hadding
  have hturned : Precedes addKey p.bins 1 0 :=
    ⟨_, _, rfl, rfl, .inl (by decide +kernel)⟩
  refine ⟨hp, hdeclared, by rw [horder]; rfl, fun hin => ?_, hp.follows_places⟩
  have hkept := List.rel_of_pairwise_cons (horder ▸ hin.adding.pairwise)
    (List.mem_singleton_self 1)
  exact hkept.asymm hturned

end Pipeline

end MaterialPipeline
