/-!
# Frame — Stats

What happened in one frame, in numbers.
-/

namespace MaterialPipeline

/-- Counts of one frame. -/
structure FrameStats where
  /-- The objects handed in. -/
  submitted : Nat := 0
  /-- The objects that no bin claimed. -/
  unclaimed : Nat := 0
  /-- The claims of each bin, by name, in the order of their first claims. -/
  claims : List (String × Nat) := []
  draws : Nat := 0
  /-- How often a pass was set up. -/
  setups : Nat := 0
  deriving DecidableEq, Repr, Inhabited

namespace FrameStats

/-- One more for `name`. -/
def countUp (name : String) : List (String × Nat) → List (String × Nat)
  | [] => [(name, 1)]
  | (other, n) :: rest =>
    if other = name then (other, n + 1) :: rest else (other, n) :: countUp name rest

/-- Counts a claim of the bin `name`. -/
def claim (s : FrameStats) (name : String) : FrameStats :=
  { s with claims := countUp name s.claims }

/-- The claims of the bin `name`. -/
def claimsFor (s : FrameStats) (name : String) : Nat :=
  ((s.claims.find? (·.1 == name)).map (·.2)).getD 0

end FrameStats

end MaterialPipeline
