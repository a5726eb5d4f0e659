import MaterialPipeline.Proofs.Storage.Turnover

/-!
# Proofs — Storage — Entries

Going through a slot set, from its first position to its last, to look at the elements or to write to
each of them.

* `SlotSet.mem_entries`: what is met is what the handles find.
* `SlotSet.pairwise_slots`: positions ascend, so nothing is met twice.
* `SlotSet.find_mapEntries`: what is written to each of them is what its handle finds then.
-/

namespace MaterialPipeline

/-- One handle names an earlier position than another. -/
def Slot.Before (h h' : Slot) : Prop :=
  ∃ p p', h.position = .ok p ∧ h'.position = .ok p' ∧ p.toNat < p'.toNat

theorem Slot.Before.ne {h h' : Slot} (hbefore : h.Before h') : h ≠ h' := by
  rintro rfl
  obtain ⟨p, p', hp, hp', hlt⟩ := hbefore
  cases hp.symm.trans hp'
  exact Nat.lt_irrefl _ hlt

namespace SlotSet

variable {α : Type} {s : SlotSet α} {h : Slot} {n : Nat} {a : α} {position : UInt32} {cell : Cell α}

/-! ### Looking -/

theorem toNat_toUInt32_of_getElem? (hroom : s.cells.size < 2 ^ 32) (hcell : s.cells[n]? = some cell) :
    n.toUInt32.toNat = n := by
  have hlt := (Array.getElem?_eq_some_iff.mp hcell).1
  exact UInt32.toNat_ofNat_of_lt' (by show n < 2 ^ 32; omega)

theorem mem_entries_iff : (h, a) ∈ s.entries ↔
    ∃ (n : Nat) (cell : Cell α), s.cells[n]? = some cell ∧ cell.value = some a ∧
      h = .new cell.generation n.toUInt32 := by
  simp only [entries, List.mem_filterMap, Prod.exists, List.mem_zipIdx_iff_getElem?,
    Array.getElem?_toList, Option.map_eq_some_iff, Prod.mk.injEq]
  constructor
  · rintro ⟨cell, n, hcell, a', hvalue, rfl, rfl⟩
    exact ⟨n, cell, hcell, hvalue, rfl⟩
  · rintro ⟨n, cell, hcell, hvalue, rfl⟩
    exact ⟨cell, n, hcell, a, hvalue, rfl, rfl⟩

/-- The entries are what the handles find. -/
theorem mem_entries (hroom : s.cells.size < 2 ^ 32) :
    (h, a) ∈ s.entries ↔ s.find h = .ok (some a) := by
  rw [mem_entries_iff]
  constructor
  · rintro ⟨n, cell, hcell, hvalue, rfl⟩
    have hn := toNat_toUInt32_of_getElem? hroom hcell
    rw [← hn] at hcell
    exact (find_new hroom hcell).trans (congrArg Except.ok hvalue)
  · intro hf
    obtain ⟨position, cell, hcell, hvalue, rfl⟩ := exists_cell_of_find hf
    refine ⟨position.toNat, cell, hcell, hvalue, ?_⟩
    rw [Nat.toUInt32, UInt32.ofNat_toNat]

theorem pairwise_slots (hroom : s.cells.size < 2 ^ 32) : s.slots.Pairwise Slot.Before := by
  have hzip : s.cells.toList.zipIdx.Pairwise fun x y => x.2 < y.2 := by
    rw [← List.pairwise_map (f := Prod.snd) (R := (· < ·)), List.zipIdx_map_snd]
    exact List.pairwise_lt_range'
  rw [slots, List.pairwise_map, entries, List.pairwise_filterMap]
  refine hzip.imp_of_mem ?_
  rintro ⟨cell, n⟩ ⟨cell', n'⟩ hx hy hlt e he e' he'
  rw [List.mem_zipIdx_iff_getElem?, Array.getElem?_toList] at hx hy
  obtain ⟨-, -, rfl⟩ := Option.map_eq_some_iff.mp he
  obtain ⟨-, -, rfl⟩ := Option.map_eq_some_iff.mp he'
  have hn := toNat_toUInt32_of_getElem? hroom hx
  have hn' := toNat_toUInt32_of_getElem? hroom hy
  have hsize := (Array.getElem?_eq_some_iff.mp hy).1
  refine ⟨_, _, Slot.position_new ?_, Slot.position_new ?_, ?_⟩
  · rw [hn]; dsimp only at hlt; omega
  · rw [hn']; dsimp only at hlt; omega
  · rwa [hn, hn']

theorem nodup_slots (hroom : s.cells.size < 2 ^ 32) : s.slots.Nodup :=
  (pairwise_slots hroom).imp Slot.Before.ne

theorem length_entries (s : SlotSet α) : s.entries.length = s.values.card := by
  have hvalues : s.entries.map Prod.snd = s.cells.toList.filterMap Cell.value := by
    rw [← List.zipIdx_map_fst 0 s.cells.toList, List.filterMap_map, entries, List.map_filterMap]
    refine List.filterMap_congr fun (cell, n) _ => ?_
    exact Option.map_map .. |>.trans (Option.map_id' ..)
  rw [values, occupants, Multiset.coe_card, ← hvalues, List.length_map]

/-! ### Writing -/

theorem layout_mapEntries (s : SlotSet α) (f : Slot → α → α) :
    (s.mapEntries f).layout = s.layout := by
  refine congrArg (Prod.mk s.free) (List.ext_getElem? fun i => ?_)
  simp only [mapEntries, List.getElem?_map, Array.getElem?_toList, Array.getElem?_mapIdx,
    Option.map_map, Function.comp_def, Option.isSome_map]

theorem find_mapEntries (f : Slot → α → α) (hposition : h.position = .ok position) :
    (s.mapEntries f).find h = (s.find h).map (Option.map (f h)) := by
  rw [find_of_position hposition, find_of_position hposition]
  refine congrArg Except.ok ?_
  rw [heldAt, heldAt, mapEntries, Array.getElem?_mapIdx]
  cases hcell : s.cells[position.toNat]? with
  | none => rfl
  | some cell =>
      show (if _ then _ else _) = Option.map (f h) (if _ then _ else _)
      split
      next hgeneration =>
        obtain ⟨-, hnew⟩ := Slot.reads_iff.mp ⟨hgeneration.symm, hposition⟩
        show Option.map (f (.new cell.generation position.toNat.toUInt32)) cell.value = _
        rw [Nat.toUInt32, UInt32.ofNat_toNat, ← hnew]
      next => rfl

end SlotSet

end MaterialPipeline
