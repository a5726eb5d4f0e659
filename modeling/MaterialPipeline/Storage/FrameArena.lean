import MaterialPipeline.Fault

/-!
# Storage — FrameArena

Storage that lives for one frame.  Handles carry the frame they were issued in, so after a reset
every older handle is recognised, even when its position is occupied again.

* `FrameArena.alloc`, `FrameArena.reset` — issue a handle; end the frame.
* `FrameArena.find`, `FrameArena.get` — look-up, without and with a fault on a stale handle.
* `FrameArena.entries` — the values of the current frame with their handles, in order of issue.
-/

namespace MaterialPipeline

/-- A handle to a value of one frame. -/
structure FrameHandle where
  /-- The frame of issue. -/
  frame : UInt32
  /-- The position within that frame. -/
  index : UInt32
  deriving DecidableEq, Repr, Inhabited

namespace FrameHandle

/-- Handles are ordered by frame, then by position. -/
def le (a b : FrameHandle) : Bool :=
  a.frame < b.frame || (a.frame == b.frame && a.index ≤ b.index)

end FrameHandle

/-- The values of the current frame. -/
structure FrameArena (α : Type) where
  /-- The values, in order of issue. -/
  items : Array α := #[]
  /-- The current frame, modulo 2³². -/
  frame : UInt32 := 0
  /-- The most values that any completed frame held. -/
  highWater : Nat := 0
  deriving Repr, Inhabited

namespace FrameArena

variable {α : Type}

/-- The arena at frame 0, without values. -/
def empty : FrameArena α := {}

/-- The number of values in the current frame. -/
def size (a : FrameArena α) : Nat :=
  a.items.size

/-- Whether the current frame holds no value. -/
def isEmpty (a : FrameArena α) : Bool :=
  a.items.isEmpty

/-- Stores `x` and issues its handle. -/
def alloc (a : FrameArena α) (x : α) : FrameHandle × FrameArena α :=
  (⟨a.frame, a.items.size.toUInt32⟩, { a with items := a.items.push x })

/-- The value behind `h`, if `h` was issued in this frame. -/
def find (a : FrameArena α) (h : FrameHandle) : Option α :=
  if h.frame = a.frame then a.items[h.index.toNat]? else none

/-- The value behind `h`, which must have been issued in this frame. -/
def get (a : FrameArena α) (h : FrameHandle) : Except Fault α :=
  match a.find h with
  | some x => .ok x
  | none => .error (.staleFrame h.frame a.frame)

/-- Whether `h` was issued in this frame. -/
def isLive (a : FrameArena α) (h : FrameHandle) : Bool :=
  h.frame == a.frame && h.index.toNat < a.items.size

/-- Puts `x` in the place of the value behind `h`, if `h` was issued in this frame. -/
def replace (a : FrameArena α) (h : FrameHandle) (x : α) : FrameArena α :=
  if h.frame = a.frame then { a with items := a.items.setIfInBounds h.index.toNat x } else a

/-- Puts `x` in the place of the value behind `h`, which must have been issued in this frame. -/
def set (a : FrameArena α) (h : FrameHandle) (x : α) : Except Fault (FrameArena α) :=
  (a.get h).map fun _ => a.replace h x

/-- Ends the frame: its values are gone and its handles stale. -/
def reset (a : FrameArena α) : FrameArena α :=
  { items := #[], frame := a.frame + 1, highWater := max a.highWater a.items.size }

/-- The values of the current frame with their handles, in order of issue. -/
def entries (a : FrameArena α) : List (FrameHandle × α) :=
  a.items.toList.zipIdx.map fun (x, index) => (⟨a.frame, index.toUInt32⟩, x)

end FrameArena

end MaterialPipeline
