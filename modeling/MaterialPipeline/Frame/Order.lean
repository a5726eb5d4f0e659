/-!
# Frame — Order

The positions of elements in sorted order.

* `stableOrder` — elements that are equal in order keep their places.
-/

namespace MaterialPipeline

/-- The positions of the elements of `l`, sorted by `le`. -/
def stableOrder {α : Type} (le : α → α → Bool) (l : List α) : List Nat :=
  (l.zipIdx.mergeSort fun a b => le a.1 b.1).map (·.2)

end MaterialPipeline
