import MaterialPipeline.Pass.Packing
import Mathlib.Data.List.Chain
import Mathlib.Data.Nat.Log

/-!
# Proofs — Pass — Halving

The numbers of layers that a pass tries.  From `n` layers the sequence goes down from `n` to one,
each member followed by what is left after half of it is taken away (`halves_halvings`), so it has
`⌈log₂ n⌉ + 1` members (`length_halvings`).  It is no binary search: `5, 3, 2, 1` passes over four.
-/

namespace MaterialPipeline

theorem halvings_zero : halvings 0 = [] := by
  rw [halvings, if_pos rfl]

theorem halvings_one : halvings 1 = [1] := by
  rw [halvings, if_neg Nat.one_ne_zero, if_pos rfl]

theorem halvings_of_two_le {n : Nat} (h : 2 ≤ n) : halvings n = n :: halvings (n - n / 2) := by
  rw [halvings, if_neg (by omega), if_neg (by omega)]

/-- The sequence begins with all layers. -/
theorem head?_halvings {n : Nat} (h : 1 ≤ n) : (halvings n).head? = some n := by
  rcases Nat.lt_or_ge n 2 with h₁ | h₂
  · obtain rfl : n = 1 := by omega
    rw [halvings_one, List.head?_cons]
  · rw [halvings_of_two_le h₂, List.head?_cons]

/-- Each try takes at least one layer, and no more than there are. -/
theorem bounds_of_mem_halvings {n k : Nat} (h : k ∈ halvings n) : 1 ≤ k ∧ k ≤ n := by
  induction n using halvings.induct with
  | case1 => simp [halvings_zero] at h
  | case2 => simp [halvings_one] at h; omega
  | case3 n h₀ h₁ ih =>
      rw [halvings_of_two_le (by omega), List.mem_cons] at h
      rcases h with rfl | h
      · omega
      · have := ih h
        omega

/-- The members go down strictly. -/
theorem pairwise_halvings (n : Nat) : (halvings n).Pairwise (· > ·) := by
  induction n using halvings.induct with
  | case1 => simp [halvings_zero]
  | case2 => simp [halvings_one]
  | case3 n h₀ h₁ ih =>
      rw [halvings_of_two_le (by omega), List.pairwise_cons]
      refine ⟨fun k hk => ?_, ih⟩
      have := (bounds_of_mem_halvings hk).2
      omega

/-- Half of each member, rounded down, is taken away to get the next. -/
theorem halves_halvings (n : Nat) : (halvings n).IsChain fun k next => next = k - k / 2 := by
  induction n using halvings.induct with
  | case1 => simp [halvings_zero]
  | case2 => simp [halvings_one]
  | case3 n h₀ h₁ ih =>
      rw [halvings_of_two_le (by omega), List.isChain_cons]
      refine ⟨fun next hnext => ?_, ih⟩
      rw [head?_halvings (by omega)] at hnext
      exact (Option.some.inj hnext).symm

/-- The sequence ends with one layer. -/
theorem getLast?_halvings {n : Nat} (h : 1 ≤ n) : (halvings n).getLast? = some 1 := by
  induction n using halvings.induct with
  | case1 => omega
  | case2 => rw [halvings_one, List.getLast?_singleton]
  | case3 n h₀ h₁ ih =>
      have hpos : 1 ≤ n - n / 2 := by omega
      rw [halvings_of_two_le (by omega), List.getLast?_cons, ih hpos, Option.getD_some]

/-- The sequence has `⌈log₂ n⌉ + 1` members. -/
theorem length_halvings {n : Nat} (h : 1 ≤ n) : (halvings n).length = Nat.clog 2 n + 1 := by
  induction n using halvings.induct with
  | case1 => omega
  | case2 => rw [halvings_one, List.length_singleton, Nat.clog_one_right]
  | case3 n h₀ h₁ ih =>
      have half : (n + 2 - 1) / 2 = n - n / 2 := by omega
      have hclog : Nat.clog 2 n = Nat.clog 2 (n - n / 2) + 1 := by
        rw [Nat.clog_of_one_lt (by decide) (by omega), half]
      rw [halvings_of_two_le (by omega), List.length_cons, ih (by omega), hclog]

/-- One comes after every other member. -/
theorem eq_append_one_halvings {n : Nat} (h : 1 ≤ n) :
    ∃ larger, halvings n = larger ++ [1] ∧ ∀ k ∈ larger, 1 < k := by
  obtain ⟨larger, hl⟩ := List.getLast?_eq_some_iff.mp (getLast?_halvings h)
  refine ⟨larger, hl, fun k hk => ?_⟩
  have hp := pairwise_halvings n
  rw [hl, List.pairwise_append] at hp
  exact hp.2.2 k hk 1 (List.mem_singleton_self 1)

end MaterialPipeline
