import MaterialPipeline.Fault

/-!
# Storage — Slot

Generational handles, packed into one word: the generation in the upper 32 bits and the position
plus one in the lower 32.

* `Slot.new`, `Slot.generation`, `Slot.position` — packing and reading back.
* The order on handles is the order on the words.
-/

namespace MaterialPipeline

/-- A handle to an element of a slot set. -/
structure Slot where
  /-- The packed word. -/
  word : UInt64
  deriving DecidableEq, Repr, Inhabited, Hashable

namespace Slot

/-- The handle of position `position` in its generation `generation`.  The last position, whose
successor needs a 33rd bit, spills that bit into the generation. -/
def new (generation position : UInt32) : Slot :=
  ⟨(generation.toUInt64 <<< 32) ||| (position.toUInt64 + 1)⟩

/-- The generation a handle was packed with. -/
def generation (h : Slot) : UInt32 :=
  (h.word >>> 32).toUInt32

/-- The position a handle was packed with; a lower half of zero names none. -/
def position (h : Slot) : Except Fault UInt32 :=
  if h.word.toUInt32 = 0 then .error .subtractOverflow else .ok (h.word.toUInt32 - 1)

/-- Handles are ordered by their words. -/
def le (a b : Slot) : Bool :=
  a.word ≤ b.word

/-- The text of a handle in reports. -/
def describe (h : Slot) : String :=
  s!"IndexSlot({h.word.toNat})"

end Slot

end MaterialPipeline
