import MaterialPipeline.Frame.Order
import Mathlib.Data.List.Nodup

/-!
# Proofs — Frame — Order

The positions of a list in the order of a key.

* `Positions`: every position of a list once.
* `Precedes`: a position comes before another: by its key, and by its place where the keys are
equal.
* `OrderedBy`: every position once, each before those after it.  There is only one such order.
* `orderedBy_stableOrder`: `stableOrder` is that order.
-/

namespace MaterialPipeline

variable {α β : Type} {key : α → Int} {l l' : List α} {order : List Nat} {i j : Nat}

/-- Every position of `l` once. -/
def Positions (l : List α) (order : List Nat) : Prop :=
  order.Perm (List.range l.length)

namespace Positions

theorem nodup (h : Positions l order) : order.Nodup :=
  List.Perm.nodup_iff h |>.mpr List.nodup_range

theorem mem_iff (h : Positions l order) : i ∈ order ↔ i < l.length := by
  rw [List.Perm.mem_iff h, List.mem_range]

theorem length_eq (h : Positions l order) : order.length = l.length := by
  rw [List.Perm.length_eq h, List.length_range]

theorem congr {m : List β} (h : Positions l order) (he : m.length = l.length) :
    Positions m order := by
  rw [Positions, he]
  exact h

/-- The elements at the positions are the elements of the list. -/
theorem perm_filterMap (h : Positions l order) : (order.filterMap (l[·]?)).Perm l := by
  have hall : (List.range l.length).filterMap (l[·]?) = l := by
    rw [List.range_eq_range', ← List.zipIdx_map_snd 0 l, List.filterMap_map]
    calc l.zipIdx.filterMap ((l[·]?) ∘ Prod.snd)
        = l.zipIdx.filterMap (some ∘ Prod.fst) :=
          List.filterMap_congr fun x hx => (List.mem_zipIdx_iff_getElem?.mp hx)
      _ = l := by rw [List.filterMap_eq_map, List.zipIdx_map_fst]
  simpa only [hall] using List.Perm.filterMap (l[·]?) h

end Positions

/-- The position `i` of `l` comes before the position `j`. -/
def Precedes (key : α → Int) (l : List α) (i j : Nat) : Prop :=
  ∃ a b, l[i]? = some a ∧ l[j]? = some b ∧ (key a < key b ∨ key a = key b ∧ i < j)

theorem Precedes.asymm (h : Precedes key l i j) : ¬ Precedes key l j i := by
  obtain ⟨a, b, ha, hb, h⟩ := h
  rintro ⟨b', a', hb', ha', h'⟩
  cases Option.some.inj (ha.symm.trans ha')
  cases Option.some.inj (hb.symm.trans hb')
  omega

/-- `order` is the positions of `l`, ascending by `key`; equal keys keep their places. -/
structure OrderedBy (key : α → Int) (l : List α) (order : List Nat) : Prop where
  perm : order.Perm (List.range l.length)
  pairwise : order.Pairwise (Precedes key l)

namespace OrderedBy

theorem positions (h : OrderedBy key l order) : Positions l order :=
  h.perm

theorem nodup (h : OrderedBy key l order) : order.Nodup :=
  h.positions.nodup

theorem mem_iff (h : OrderedBy key l order) : i ∈ order ↔ i < l.length :=
  h.positions.mem_iff

theorem unique {order' : List Nat} (h : OrderedBy key l order) (h' : OrderedBy key l order') :
    order = order' :=
  (h.perm.trans h'.perm.symm).eq_of_pairwise (fun _ _ _ _ hij hji => absurd hji hij.asymm)
    h.pairwise h'.pairwise

/-- The order depends on the keys alone. -/
theorem congr {key' : β → Int} {m : List β} (h : OrderedBy key l order)
    (he : m.map key' = l.map key) : OrderedBy key' m order where
  perm := by
    have hlength : m.length = l.length := by simpa using congrArg List.length he
    exact hlength ▸ h.perm
  pairwise := by
    have hkey : ∀ i, m[i]?.map key' = l[i]?.map key := fun i => by
      rw [← List.getElem?_map, he, List.getElem?_map]
    refine h.pairwise.imp fun {i j} ⟨a, b, ha, hb, hab⟩ => ?_
    obtain ⟨a', ha', hka⟩ := Option.map_eq_some_iff.mp ((hkey i).trans (congrArg _ ha))
    obtain ⟨b', hb', hkb⟩ := Option.map_eq_some_iff.mp ((hkey j).trans (congrArg _ hb))
    exact ⟨a', b', ha', hb', hka.symm ▸ hkb.symm ▸ hab⟩

/-- One position comes before another exactly if the order has it so. -/
theorem precedes_iff (h : OrderedBy key l order) : Precedes key l i j ↔ [i, j].Sublist order := by
  refine ⟨fun hij => ?_, fun hsub => List.rel_of_pairwise_cons (h.pairwise.sublist hsub)
    (List.mem_singleton_self j)⟩
  obtain ⟨a, b, ha, hb, -⟩ := id hij
  have hmem {n : Nat} {x : α} (hn : l[n]? = some x) : n ∈ order :=
    h.mem_iff.mpr (List.getElem?_eq_some_iff.mp hn).1
  obtain ⟨before, after, rfl⟩ := List.append_of_mem (hmem ha)
  rcases List.mem_append.mp (hmem hb) with hj | hj
  · -- Then `j` would come first.
    have hsub : [j, i].Sublist (before ++ i :: after) :=
      (List.singleton_sublist.mpr hj).append
        (List.singleton_sublist.mpr List.mem_cons_self)
    have hji := List.rel_of_pairwise_cons (h.pairwise.sublist hsub) (List.mem_singleton_self i)
    exact absurd hji hij.asymm
  · rcases List.mem_cons.mp hj with rfl | hj
    · exact absurd hij hij.asymm
    · exact ((List.singleton_sublist.mpr hj).cons_cons i).trans (List.sublist_append_right ..)

/-- Two keys give one order exactly if they put every two positions alike. -/
theorem iff_precedes {key' : β → Int} {m : List β} (h : OrderedBy key l order)
    (hlength : m.length = l.length) :
    OrderedBy key' m order ↔ ∀ i j, Precedes key' m i j ↔ Precedes key l i j := by
  refine ⟨fun h' i j => h'.precedes_iff.trans h.precedes_iff.symm, fun halike => ?_⟩
  exact ⟨h.positions.congr hlength, h.pairwise.imp (halike _ _).mpr⟩

end OrderedBy

/-! ### Sorting -/

/-- Sorting is stable: elements of equal order are sorted by their places. -/
theorem mergeSort_zipIdx_eq (le : α → α → Bool) (l : List α) :
    l.zipIdx.mergeSort (fun a b => le a.1 b.1) = l.zipIdx.mergeSort (List.zipIdxLE le) := by
  let place : α × Nat → (α × Nat) × Nat := fun a => (a, a.2)
  have hplaces : l.zipIdx.zipIdx = l.zipIdx.map place :=
    List.ext_getElem (by simp) fun i hi hi' => by simp [place]
  have hsort : (l.zipIdx.mergeSort (List.zipIdxLE le)).map place =
      (l.zipIdx.map place).mergeSort (List.zipIdxLE fun a b => le a.1 b.1) :=
    List.map_mergeSort fun _ _ _ _ => rfl
  rw [← List.mergeSort_zipIdx, hplaces, ← hsort, List.map_map,
    show Prod.fst ∘ place = id from rfl, List.map_id]

theorem orderedBy_stableOrder (key : α → Int) (l : List α) :
    OrderedBy key l (stableOrder (fun a b => decide (key a ≤ key b)) l) where
  perm := by
    rw [List.range_eq_range', ← List.zipIdx_map_snd 0 l]
    exact (List.mergeSort_perm _ _).map Prod.snd
  pairwise := by
    let le : α → α → Bool := fun a b => decide (key a ≤ key b)
    have htrans : ∀ a b c, le a b → le b c → le a c := by simp [le]; omega
    have htotal : ∀ a b, le a b || le b a := by simp [le]; omega
    have hsorted := List.pairwise_mergeSort (List.zipIdxLE_trans htrans)
      (List.zipIdxLE_total htotal) l.zipIdx
    have hplaces : ((l.zipIdx.mergeSort (List.zipIdxLE le)).map Prod.snd).Nodup := by
      rw [((List.mergeSort_perm _ _).map Prod.snd).nodup_iff, List.zipIdx_map_snd]
      exact List.nodup_range'
    rw [stableOrder, mergeSort_zipIdx_eq le, List.pairwise_map]
    refine (hsorted.and (List.pairwise_map.mp hplaces)).imp_of_mem fun {a b} ha hb hab => ?_
    rw [List.mem_mergeSort, List.mem_zipIdx_iff_getElem?] at ha hb
    refine ⟨a.1, b.1, ha, hb, ?_⟩
    obtain ⟨hle, hne⟩ := hab
    by_cases hba : key b.1 ≤ key a.1
    · simp [List.zipIdxLE, le, hba] at hle
      omega
    · omega

end MaterialPipeline
