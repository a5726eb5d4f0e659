/-!
# Fault

The ways a computation stops for good.  A fault is never caught: it is what a caller gets for
breaking the contract of an operation, such as using a handle after its element was removed.

* `Fault` — the causes.
* `Fault.message` — the wording of each cause.
-/

namespace MaterialPipeline

/-- A broken contract. -/
inductive Fault where
  /-- A slot handle, given by its packed word, that names no live element. -/
  | staleSlot (word : UInt64)
  /-- A frame handle issued in another frame than the arena is at. -/
  | staleFrame (issued current : UInt32)
  /-- A position past the end of a sequence. -/
  | outOfBounds (length index : Nat)
  /-- A difference below zero. -/
  | subtractOverflow
  /-- A 32-bit total that does not fit. -/
  | addOverflow
  deriving DecidableEq, Repr, Inhabited

namespace Fault

/-- The wording of a fault. -/
def message : Fault → String
  | .staleSlot word => s!"invalid generation, use after free! (IndexSlot({word.toNat}))"
  | .staleFrame issued current =>
    s!"stale frame handle: issued in frame {issued.toNat}, arena is at frame {current.toNat}"
  | .outOfBounds length index =>
    s!"index out of bounds: the len is {length} but the index is {index}"
  | .subtractOverflow => "attempt to subtract with overflow"
  | .addOverflow => "attempt to add with overflow"

end Fault

end MaterialPipeline
