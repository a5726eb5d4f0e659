import MaterialPipeline.Frame.Draw
import MaterialPipeline.Frame.Target
import MaterialPipeline.Storage.FrameArena

/-!
# Frame — Bin

Bins claim objects, sort them and draw them, once a frame.

* `BinCore` — what every bin has: a name, its places in the two orders, what it restricts its claims
  to, and the elements it holds.
* `BinRules` — what sets a bin apart: how it answers, how it sorts, how it draws.
* `Bin.offer`, `Bin.sort`, `Bin.render` — the life of an element.
-/

namespace MaterialPipeline

/-- How a bin answers to an object. -/
inductive Claim where
  /-- Claimed, and offered to the next bin too. -/
  | added
  /-- Claimed, and not offered further. -/
  | stopped
  | skipped
  deriving DecidableEq, Repr, Inhabited

instance : Named Claim where
  table := [(.added, "Added"), (.stopped, "Stopped"), (.skipped, "Skipped")]

namespace Claim

/-- Whether the object is claimed. -/
def isClaimed (c : Claim) : Bool :=
  c != .skipped

end Claim

/-- A claimed object and what it sorts by. -/
structure BinElement where
  handle : FrameHandle
  key : Nat
  secondaryKey : Nat
  distanceSquared : Single
  deriving DecidableEq, Repr, Inhabited

/-- What a bin sorts by. -/
inductive SortRule where
  | unsorted | keys | backToFront | frontToBack
  deriving DecidableEq, Repr, Inhabited

instance : Named SortRule where
  table := [(.unsorted, "none"), (.keys, "keys"), (.backToFront, "back"), (.frontToBack, "front")]

/-! ### Elements -/

/-- What every bin has. -/
structure BinCore where
  name : String
  renderOrder : Single
  addOrder : Single
  /-- The kinds of objects that may be claimed; none stands for all. -/
  kinds : List SubmissionKind
  /-- Whether materials with hooks are left to other bins. -/
  basicOnly : Bool := false
  /-- The material to draw an object with, instead of its own. -/
  override : Option (Submission → Option MaterialRef) := none
  elements : List BinElement := []

namespace BinCore

/-- Whether an object may be claimed. -/
def accepts (c : BinCore) (s : Submission) : Bool :=
  (c.kinds.isEmpty || c.kinds.contains s.kind) && !(c.basicOnly && s.flags.anyHook)

/-- Answers `answer` to the objects that may be claimed and pass `claims`. -/
def answering (claims : Submission → Bool) (answer : Claim) (c : BinCore) (s : Submission) :
    Claim :=
  if c.accepts s && claims s then answer else .skipped

/-- Takes an object in. -/
def push (c : BinCore) (h : FrameHandle) (s : Submission) : BinCore :=
  { c with elements := c.elements ++ [⟨h, s.sortKey, s.secondaryKey, s.distanceSquared⟩] }

/-- The material that an object is drawn with. -/
def materialFor (c : BinCore) (s : Submission) (hook : Option Variant) : Option MaterialRef :=
  (c.override.bind (· s)).or (s.material.map (⟨·, hook⟩))

/-- By the first key, then by the second. -/
def keysLe (a b : BinElement) : Bool :=
  a.key < b.key || (a.key == b.key && a.secondaryKey ≤ b.secondaryKey)

/-- The elements by their keys; equal keys keep the order of claims. -/
def sortByKeys (c : BinCore) : BinCore :=
  { c with elements := c.elements.mergeSort keysLe }

/-- The farthest elements first. -/
def sortBackToFront (c : BinCore) : BinCore :=
  { c with elements := c.elements.mergeSort fun a b =>
      b.distanceSquared.totalLe a.distanceSquared }

/-- The nearest elements first. -/
def sortFrontToBack (c : BinCore) : BinCore :=
  { c with elements := c.elements.mergeSort fun a b =>
      a.distanceSquared.totalLe b.distanceSquared }

/-- Sorts the elements by a rule. -/
def sortBy (c : BinCore) : SortRule → BinCore
  | .keys => c.sortByKeys
  | .backToFront => c.sortBackToFront
  | .frontToBack => c.sortFrontToBack
  | .unsorted => c

/-- Lets go of every element. -/
def clear (c : BinCore) : BinCore :=
  { c with elements := [] }

/-- The text of a bin in descriptions. -/
def describe (c : BinCore) : String :=
  let name := Quoted.text c.name
  let render := c.renderOrder.text .described
  let add := c.addOrder.text .described
  let kinds := ", ".intercalate (c.kinds.map Named.name)
  s!"BinCore \x7b name: {name}, render_order: {render}, process_add_order: {add}, allowed_types: [{kinds}], basic_only: {c.basicOnly}, elements: {c.elements.length} \x7d"

/-! ### Drawing elements -/

/-- The objects at the head of `elements` that are drawn with `material`. -/
def sameMaterial (c : BinCore) (arena : FrameArena Submission) (hook : Option Variant)
    (material : MaterialRef) : List BinElement → Except Fault (List Submission)
  | [] => return []
  | e :: rest => do
    let s ← arena.get e.handle
    if c.materialFor s hook = some material then
      return s :: (← c.sameMaterial arena hook material rest)
    else return []

/-- Draws elements with their materials.  In batches, elements of one material that stand together
share the setup of each pass. -/
def renderRuns (c : BinCore) (arena : FrameArena Submission) (scene : Scene)
    (hook : Option Variant) (bin : BinKind) (batch : Bool) : List BinElement → DrawAction Unit
  | [] => return
  | e :: rest => do
    let first ← arena.get e.handle
    match c.materialFor first hook with
    | none => c.renderRuns arena scene hook bin batch rest
    | some material =>
      let more ← if batch then c.sameMaterial arena hook material rest else pure []
      drawBatch scene bin material (first :: more)
      c.renderRuns arena scene hook bin batch (rest.drop more.length)
termination_by elements => elements.length
decreasing_by all_goals simp only [List.length_drop, List.length_cons]; omega

/-- Draws elements one by one; an object that draws itself does so. -/
def renderEach (c : BinCore) (arena : FrameArena Submission) (scene : Scene)
    (hook : Option Variant) (bin : BinKind) : List BinElement → DrawAction Unit
  | [] => return
  | e :: rest => do
    let s ← arena.get e.handle
    match s.delegate with
    | some delegate => drawDelegate delegate s
    | none =>
      if let some material := c.materialFor s hook then
        drawBatch scene bin material [s]
    c.renderEach arena scene hook bin rest

end BinCore

/-! ### Rules -/

/-- How a bin draws its elements. -/
inductive DrawMode where
  /-- Elements of one material together. -/
  | batches
  /-- Each element with its material. -/
  | singles
  /-- Each element with its material, unless it draws itself. -/
  | each
  deriving DecidableEq, Repr, Inhabited

instance : Named DrawMode where
  table := [(.batches, "batch"), (.singles, "single"), (.each, "each")]

/-- How a bin draws in one kind of frame. -/
structure DrawRule where
  mode : DrawMode
  /-- The hook to draw with. -/
  hook : Option Variant
  kind : BinKind
  deriving DecidableEq, Repr, Inhabited

/-- What sets a bin apart. -/
structure BinRules where
  /-- The answer to an object, given what the bin is and holds. -/
  answer : BinCore → Submission → Claim
  sorting : SortRule
  /-- How the elements are drawn, if at all. -/
  draws : ScenePass → Option DrawRule

/-- A bin. -/
structure Bin where
  core : BinCore
  rules : BinRules
  /-- Where the bin draws, if it does not draw where the frame does. -/
  target : Option OffscreenTarget := none

namespace Bin

/-- The name of a bin. -/
def name (b : Bin) : String :=
  b.core.name

/-- The bin at other places in the two orders. -/
def withOrders (b : Bin) (renderOrder addOrder : Single) : Bin :=
  { b with core := { b.core with renderOrder := renderOrder, addOrder := addOrder } }

/-- Offers an object to a bin. -/
def offer (b : Bin) (h : FrameHandle) (s : Submission) : Claim × Bin :=
  let claim := b.rules.answer b.core s
  (claim, if claim.isClaimed then { b with core := b.core.push h s } else b)

/-- Sorts the elements. -/
def sort (b : Bin) : Bin :=
  { b with core := b.core.sortBy b.rules.sorting }

/-- Lets go of every element. -/
def clear (b : Bin) : Bin :=
  { b with core := b.core.clear }

/-- Draws the elements by a rule. -/
def renderBy (b : Bin) (arena : FrameArena Submission) (scene : Scene) (rule : DrawRule) :
    DrawAction Unit :=
  match rule.mode with
  | .batches => b.core.renderRuns arena scene rule.hook rule.kind true b.core.elements
  | .singles => b.core.renderRuns arena scene rule.hook rule.kind false b.core.elements
  | .each => b.core.renderEach arena scene rule.hook rule.kind b.core.elements

/-- Draws the elements where the bin draws.  Without its target, a bin draws nothing. -/
def render (b : Bin) (arena : FrameArena Submission) (scene : Scene) : DrawAction Bin := do
  match b.rules.draws scene.pass with
  | none => return b
  | some rule =>
    match b.target with
    | none =>
      b.renderBy arena scene rule
      return b
    | some target =>
      let (handle, target) ← target.acquire
      if let some h := handle then
        b.renderBy arena scene rule
        Action.perform (OffscreenTarget.leave h)
      return { b with target := some target }

/-- Changes the target of a bin that has one. -/
def mapTarget (b : Bin) (f : OffscreenTarget → Action OffscreenTarget) : Action Bin := do
  match b.target with
  | some target => return { b with target := some (← f target) }
  | none => return b

/-- Destroys what the bin has on the device. -/
def deviceReset (b : Bin) : Action Bin :=
  b.mapTarget OffscreenTarget.release

/-- Changes the size of the target of a bin that has one. -/
def resize (b : Bin) (width height : Nat) : Action Bin :=
  b.mapTarget (·.resize width height)

end Bin

end MaterialPipeline
