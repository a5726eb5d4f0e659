import MaterialPipeline.Proofs.Feature.Union
import MaterialPipeline.Proofs.Program.Total
import Mathlib.Algebra.Order.BigOperators.Group.List
import Mathlib.Algebra.Order.Ring.Nat
import Mathlib.Data.List.Nodup
import Mathlib.Data.List.Perm.Subperm

/-!
# Proofs — Program — Visits

The entries of a set that have a generator, and how they share what they use.

* `mem_idents`: the entries visited are those of the registered types.
* `length_idents_le`: no entry is visited twice.
* `exists_paid`: if of the entries that need a thing one pays for it, what the entries pay for adds
  up to the different things that they need.
-/

namespace MaterialPipeline.Registry

variable {r : Registry} {set : FeatureSet} {e : Registration} {stage : Option Nat}
  {id : FeatureId}

theorem mem_visits :
    (e, stage) ∈ r.visits set ↔ e ∈ r.entries ∧ set.hasAt e.type.id stage = true := by
  rw [visits, List.mem_flatMap]
  constructor
  · rintro ⟨e', he, h⟩
    obtain ⟨stage', hstage, heq⟩ := List.mem_map.mp h
    cases heq
    exact ⟨he, FeatureSet.mem_stagesOf.mp hstage⟩
  · rintro ⟨he, h⟩
    exact ⟨e, he, List.mem_map_of_mem (FeatureSet.mem_stagesOf.mpr h)⟩

/-- The number of the type and the stage of every entry visited, in pipeline order. -/
def idents (r : Registry) (set : FeatureSet) : List (FeatureId × Option Nat) :=
  (r.visits set).map fun (e, stage) => (e.type.id, stage)

theorem mem_idents :
    (id, stage) ∈ r.idents set ↔ id ∈ r.order ∧ set.hasAt id stage = true := by
  rw [idents, List.mem_map]
  constructor
  · rintro ⟨⟨e, stage'⟩, he, heq⟩
    cases heq
    obtain ⟨he, h⟩ := mem_visits.mp he
    exact ⟨List.mem_map_of_mem he, h⟩
  · rintro ⟨hid, h⟩
    obtain ⟨e, he, rfl⟩ := List.mem_map.mp hid
    exact ⟨(e, stage), mem_visits.mpr ⟨he, h⟩, rfl⟩

/-- No entry is visited twice. -/
theorem nodup_idents (r : Registry) (set : FeatureSet) : (r.idents set).Nodup := by
  have hmap : r.idents set =
      r.entries.flatMap fun e => (set.stagesOf e.type.id).map (e.type.id, ·) := by
    simp only [idents, visits, List.map_flatMap, List.map_map]
    rfl
  rw [hmap, List.nodup_flatMap]
  refine ⟨fun e _ => (set.nodup_stagesOf e.type.id).map fun a b h => (Prod.mk.inj h).2, ?_⟩
  refine r.distinct.imp fun hne x hx hy => hne ?_
  obtain ⟨_, -, rfl⟩ := List.mem_map.mp hx
  obtain ⟨_, -, h⟩ := List.mem_map.mp hy
  exact (Prod.mk.inj h).1.symm

/-- There are no more visits than entries. -/
theorem length_idents_le (r : Registry) (set : FeatureSet) : (r.idents set).length ≤ set.size := by
  have hsub : r.idents set ⊆ set.entries.map (·.ident) := by
    intro x hx
    obtain ⟨f, hf, he⟩ := FeatureSet.hasAt_iff.mp (mem_idents.mp hx).2
    exact List.mem_map.mpr ⟨f, hf, he⟩
  have h := (List.subperm_of_subset (r.nodup_idents set) hsub).length_le
  rwa [List.length_map] at h

end MaterialPipeline.Registry

namespace MaterialPipeline

/-! ### Sharing -/

section Sharing

variable {V K : Type} [DecidableEq V]

/-- If each thing that `users` need is paid for by one of those that need it, then what they pay for
adds up to the different things that they need. -/
theorem exists_paid {users : List V} (husers : users.Nodup) (needs : V → List K)
    (payer : K → Option V) (hneeds : ∀ v ∈ users, (needs v).Nodup)
    (hpayer : ∀ v ∈ users, ∀ k ∈ needs v, ∃ w ∈ users, payer k = some w ∧ k ∈ needs w) :
    ∃ paid : List K, paid.Nodup ∧ (∀ k, k ∈ paid ↔ ∃ v ∈ users, k ∈ needs v) ∧
      (users.map fun v => (needs v).countP (payer · = some v)).sum = paid.length := by
  -- A thing is listed with its payer alone, so no thing is listed twice.
  refine ⟨users.flatMap fun v => (needs v).filter (payer · = some v), ?_, fun k => ?_, ?_⟩
  · refine List.nodup_flatMap.mpr ⟨fun v hv => (hneeds v hv).filter _, ?_⟩
    refine husers.imp fun hne k hk hk' => hne ?_
    have hv := (List.mem_filter.mp hk).2
    have hw := (List.mem_filter.mp hk').2
    rw [decide_eq_true_eq] at hv hw
    exact Option.some.inj (hv.symm.trans hw)
  · simp only [List.mem_flatMap, List.mem_filter, decide_eq_true_eq]
    constructor
    · rintro ⟨v, hv, hk, -⟩
      exact ⟨v, hv, hk⟩
    · rintro ⟨v, hv, hk⟩
      obtain ⟨w, hw, hpays, hk⟩ := hpayer v hv k hk
      exact ⟨w, hw, hk, hpays⟩
  · rw [List.length_flatMap]
    simp only [List.countP_eq_length_filter]

/-- What the users pay for is bounded by their number. -/
theorem sum_countP_le (users : List V) {needs : V → List K} (payer : K → Option V) {most : Nat}
    (hmost : ∀ v, (needs v).length ≤ most) :
    (users.map fun v => (needs v).countP (payer · = some v)).sum ≤ users.length * most := by
  have hle : ∀ n ∈ users.map fun v => (needs v).countP (payer · = some v), n ≤ most := by
    intro n hn
    obtain ⟨v, -, rfl⟩ := List.mem_map.mp hn
    exact List.countP_le_length.trans (hmost v)
  have hsum := List.sum_le_card_nsmul _ most hle
  rwa [List.length_map, Nat.nsmul_eq_mul] at hsum

/-- Lists without repetition have the same length if names tell the members of one apart, and are
the members of the other. -/
theorem length_eq_of_names {paid : List K} {names : List String} {name : K → String}
    (hinj : ∀ a ∈ paid, ∀ b ∈ paid, name a = name b → a = b) (hpaid : paid.Nodup)
    (hnames : names.Nodup) (h : ∀ x, x ∈ names ↔ ∃ k ∈ paid, name k = x) :
    names.length = paid.length := by
  have hmap : (paid.map name).Nodup := hpaid.map_on fun a ha b hb => hinj a ha b hb
  have hperm : names.Perm (paid.map name) :=
    (List.perm_ext_iff_of_nodup hnames hmap).mpr fun x => (h x).trans List.mem_map.symm
  rw [hperm.length_eq, List.length_map]

end Sharing

end MaterialPipeline
