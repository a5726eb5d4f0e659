import MaterialPipeline.Program.Assembly
import Mathlib.Algebra.GroupWithZero.Nat

/-!
# Proofs — Program — Total

The cost of a feature set without the 32-bit limit.  `Registry.total` sums what the entries cost;
`Registry.measure` answers that sum if both counts of it are below 2³², and a fault otherwise
(`measure_eq`).  A count that has passed the limit never comes back, so only the whole sum matters
and not the order of the entries.
-/

namespace MaterialPipeline

namespace Cost

/-- Both counts are below 2³². -/
def Bounded (c : Cost) : Prop :=
  c.textures < UInt32.size ∧ c.interpolators < UInt32.size

instance (c : Cost) : Decidable c.Bounded :=
  inferInstanceAs (Decidable (_ ∧ _))

/-- The sum of several costs. -/
def sum (costs : List Cost) : Cost where
  textures := (costs.map (·.textures)).sum
  interpolators := (costs.map (·.interpolators)).sum

theorem add_eq (a b : Cost) :
    a.add b = if (sum [a, b]).Bounded then .ok (sum [a, b]) else .error .addOverflow := by
  simp only [add, addCount, sum, Bounded, List.map_cons, List.map_nil, List.sum_cons, List.sum_nil,
    Nat.add_zero]
  by_cases ht : a.textures + b.textures < UInt32.size
  · by_cases hi : a.interpolators + b.interpolators < UInt32.size
    · simp [ht, hi, bind, Except.bind, pure, Except.pure]
    · simp [ht, hi, bind, Except.bind]
  · simp [ht, bind, Except.bind]

theorem sum_cons_cons (a b : Cost) (costs : List Cost) :
    sum (sum [a, b] :: costs) = sum (a :: b :: costs) := by
  simp only [sum, List.map_cons, List.map_nil, List.sum_cons, List.sum_nil, Nat.add_zero,
    Nat.add_assoc]

/-- A sum is bounded only if the sum of the first two costs is. -/
theorem Bounded.of_cons_cons {a b : Cost} {costs : List Cost}
    (h : (sum (a :: b :: costs)).Bounded) : (sum [a, b]).Bounded := by
  simp only [sum, Bounded, List.map_cons, List.map_nil, List.sum_cons, List.sum_nil] at h ⊢
  omega

/-- Adding costs one after another gives their sum, or a fault if the sum is not bounded. -/
theorem foldlM_add : ∀ {costs : List Cost} {start : Cost}, start.Bounded →
    costs.foldlM add start =
      if (sum (start :: costs)).Bounded then .ok (sum (start :: costs)) else .error .addOverflow
  | [], start, h => by
      have e : sum [start] = start := rfl
      rw [List.foldlM_nil, e, if_pos h]
      rfl
  | c :: costs, start, _ => by
      rw [List.foldlM_cons, add_eq, ← sum_cons_cons start c costs]
      by_cases hb : (sum [start, c]).Bounded
      · rw [if_pos hb]
        exact foldlM_add hb
      · have hnot : ¬ (sum (sum [start, c] :: costs)).Bounded := fun h =>
          hb (Bounded.of_cons_cons (sum_cons_cons start c costs ▸ h))
        rw [if_neg hb, if_neg hnot]
        rfl

end Cost

namespace Registry

/-- What each entry of `set` costs, in pipeline order. -/
def costs (r : Registry) (set : FeatureSet) : List Cost :=
  (r.visits set).map fun (e, stage) => e.generator.cost set stage

/-- What the entries of `set` cost together. -/
def total (r : Registry) (set : FeatureSet) : Cost :=
  .sum (r.costs set)

/-- A measurement is the total, unless 32 bits do not hold it. -/
theorem measure_eq (r : Registry) (set : FeatureSet) :
    r.measure set =
      if (r.total set).Bounded then .ok (r.total set) else .error .addOverflow := by
  have hzero : Cost.none.Bounded := by decide
  have hsum : Cost.sum (Cost.none :: r.costs set) = r.total set := by
    simp only [total, Cost.sum, Cost.none, List.map_cons, List.sum_cons, Nat.zero_add]
  have hfold : r.measure set = (r.costs set).foldlM Cost.add .none := by
    rw [measure, costs, List.foldlM_map]
  rw [hfold, Cost.foldlM_add hzero, hsum]

theorem measure_of_bounded {r : Registry} {set : FeatureSet} (h : (r.total set).Bounded) :
    r.measure set = .ok (r.total set) := by
  rw [measure_eq, if_pos h]

end Registry

end MaterialPipeline
