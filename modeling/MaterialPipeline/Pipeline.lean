import MaterialPipeline.Frame.Builtin
import MaterialPipeline.Frame.Order

/-!
# Pipeline

Frames: objects are handed in and offered to the bins, then every bin sorts and draws what it
claimed, and the frame ends.

* `Pipeline.add`, `Pipeline.remove` — the bins; both orders are worked out anew.
* `Pipeline.submit` — an object goes to the bins in the order of adding, until one stops it.
* `Pipeline.render` — the bins draw in the order of drawing.
-/

namespace MaterialPipeline

/-- The bins, and the frame in the making. -/
structure Pipeline where
  bins : List Bin := []
  /-- The positions of the bins in the order of drawing. -/
  renderOrder : List Nat := []
  /-- The positions of the bins in the order of adding. -/
  addOrder : List Nat := []
  arena : FrameArena Submission := .empty
  stats : FrameStats := {}
  /-- The counts of the frame before. -/
  lastStats : FrameStats := {}

namespace Pipeline

/-! ### Bins -/

/-- The positions of the bins, by a key; equal keys keep the order of the bins. -/
def orderBy (bins : List Bin) (key : BinCore → Single) : List Nat :=
  stableOrder (fun a b => (key a.core).totalLe (key b.core)) bins

/-- Works both orders out. -/
def reorder (p : Pipeline) : Pipeline :=
  { p with
    renderOrder := orderBy p.bins BinCore.renderOrder
    addOrder := orderBy p.bins BinCore.addOrder }

/-- Adds a bin. -/
def add (p : Pipeline) (b : Bin) : Action Pipeline := do
  let render := b.core.renderOrder.text .plain
  let adding := b.core.addOrder.text .plain
  Action.report (.debug s!"Adding render bin '{b.name}' (render {render}, add {adding})")
  return { p with bins := p.bins ++ [b] }.reorder

/-- Takes the first bin of a name out. -/
def remove (p : Pipeline) (name : String) : Option Bin × Pipeline :=
  match p.bins.find? (·.name == name) with
  | some b => (some b, { p with bins := p.bins.eraseP (·.name == name) }.reorder)
  | none => (none, p)

/-- The first bin of a name. -/
def bin? (p : Pipeline) (name : String) : Option Bin :=
  p.bins.find? (·.name == name)

/-- Changes the first bin of a name; the orders stay as they are. -/
def modifyBin (p : Pipeline) (name : String) (f : Bin → Bin) : Pipeline :=
  match p.bins.findIdx? (·.name == name) with
  | some n => { p with bins := p.bins.modify n f }
  | none => p

/-- The names of the bins at some positions. -/
def namesAt (p : Pipeline) (positions : List Nat) : List String :=
  positions.filterMap fun n => (p.bins[n]?).map (·.name)

/-! ### Objects -/

/-- Offers an object to the bins at some positions, until one stops it.  Says which bins claimed
it. -/
def route (h : FrameHandle) (s : Submission) :
    List Nat → List Bin → FrameStats → List String × List Bin × FrameStats
  | [], bins, stats => ([], bins, stats)
  | n :: rest, bins, stats =>
    match bins[n]? with
    | none => route h s rest bins stats
    | some b =>
      let (claim, b) := b.offer h s
      let bins := bins.set n b
      match claim with
      | .skipped => route h s rest bins stats
      | .stopped => ([b.name], bins, stats.claim b.name)
      | .added =>
        let (names, bins, stats) := route h s rest bins (stats.claim b.name)
        (b.name :: names, bins, stats)

/-- Hands an object in, with the summary of its material, and says which bins claimed it.  What the
bins are offered is read back through the handle. -/
def submit (p : Pipeline) (library : Library) (s : Submission) :
    Action (List String × Pipeline) := do
  let s ← s.stamp library
  let (h, arena) := p.arena.alloc s
  let s ← arena.get h
  let stats := { p.stats with submitted := p.stats.submitted + 1 }
  let (names, bins, stats) := route h s p.addOrder p.bins stats
  if names.isEmpty then
    let kind := Named.name s.kind
    Action.report (.trace s!"Render instance {kind} was not claimed by any bin")
  let stats := if names.isEmpty then { stats with unclaimed := stats.unclaimed + 1 } else stats
  return (names, { p with bins := bins, arena := arena, stats := stats })

/-- Hands objects in, in order. -/
def submitAll (p : Pipeline) (library : Library) :
    List Submission → Action (List (List String) × Pipeline)
  | [] => return ([], p)
  | s :: rest => do
    let (names, p) ← p.submit library s
    let (others, p) ← p.submitAll library rest
    return (names :: others, p)

/-! ### Frames -/

/-- Ends the frame, and says what happened in it. -/
def endFrame (p : Pipeline) : FrameStats × Pipeline :=
  (p.stats, { p with
    bins := p.bins.map Bin.clear
    arena := p.arena.reset
    stats := {}
    lastStats := p.stats })

/-- Lets the bins at some positions draw. -/
def renderBins (arena : FrameArena Submission) (scene : Scene) :
    List Nat → List Bin → DrawAction (List Bin)
  | [], bins => return bins
  | n :: rest, bins => do
    match bins[n]? with
    | none => renderBins arena scene rest bins
    | some b => renderBins arena scene rest (bins.set n (← b.render arena scene))

/-- Sorts and draws what every bin claimed, and ends the frame. -/
def render (p : Pipeline) (library : Library) (scene : Scene) :
    Action (FrameStats × Library × Pipeline) := do
  let sorted := p.bins.map Bin.sort
  let (bins, drawing) ← (renderBins p.arena scene p.renderOrder sorted).run ⟨library, p.stats⟩
  let (stats, p) := { p with bins := bins, stats := drawing.stats }.endFrame
  return (stats, drawing.library, p)

/-- Lets go of the frame and of everything on the device. -/
def deviceReset (p : Pipeline) : Action Pipeline := do
  Action.report (.info s!"Device reset, releasing targets of {p.bins.length} render bins")
  let bins ← p.bins.mapM fun b => b.clear.deviceReset
  return { p with bins := bins, arena := p.arena.reset, stats := {} }

/-- The text of a pipeline in descriptions. -/
def describe (p : Pipeline) : String :=
  let render := Quoted.list (p.namesAt p.renderOrder)
  let add := Quoted.list (p.namesAt p.addOrder)
  s!"RenderPassManager \x7b render_order: {render}, process_add_order: {add}, pending: {p.arena.size} \x7d"

end Pipeline

end MaterialPipeline
