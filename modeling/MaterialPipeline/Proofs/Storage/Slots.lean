import MaterialPipeline.Storage.SlotSet
import Mathlib.Algebra.BigOperators.Group.Multiset.Basic

/-!
# Proofs — Storage — Slots

A slot set as the multiset of its elements, and as a map from handles to elements.

* `Slot.reads_iff`: packing a handle and reading it back undo each other, at all positions but the
last.
* `SlotSet.values`: the elements, without their handles.
* `SlotSet.Valid`: every position on the free list is vacant, and is there once; pushing needs it,
  as it would overwrite an element otherwise.
* `SlotSet.Alike`: two sets with elements in the same cells; `modify` leads from one to the other.
* `SlotSet.find_modify_of_ne`, `SlotSet.find_remove_of_ne`, `SlotSet.find_push`: what an operation on
one handle does to the others, which is nothing.
-/

namespace MaterialPipeline

namespace Slot

variable {a b h : Slot} {generation position : UInt32}

/-- The generation is the upper half of the word. -/
theorem toNat_generation (h : Slot) : h.generation.toNat = h.word.toNat / 2 ^ 32 := by
  have hword := h.word.toNat_lt
  rw [Slot.generation, UInt64.toNat_toUInt32, UInt64.toNat_shiftRight, Nat.shiftRight_eq_div_pow,
    show UInt64.toNat 32 % 64 = 32 from rfl]
  omega

/-- The word of a handle that names a position, as a number. -/
theorem toNat_word_of_position (hp : h.position = .ok position) :
    position.toNat < 2 ^ 32 - 1 ∧
      h.word.toNat = h.generation.toNat * 2 ^ 32 + (position.toNat + 1) := by
  unfold Slot.position at hp
  split at hp
  next => cases hp
  next hne =>
    injection hp with hp
    have hlow : 1 ≤ h.word.toUInt32.toNat :=
      Nat.one_le_iff_ne_zero.mpr fun hzero => hne (UInt32.toNat_inj.mp hzero)
    have hle : 1 ≤ h.word.toUInt32 := by
      rw [UInt32.le_iff_toNat_le]
      exact hlow
    have hposition : position.toNat = h.word.toUInt32.toNat - 1 := by
      rw [← hp, UInt32.toNat_sub_of_le _ _ hle]
      rfl
    rw [UInt64.toNat_toUInt32] at hlow hposition
    rw [toNat_generation]
    omega

/-- A handle is known by its generation and its position. -/
theorem eq_of_position (ha : a.position = .ok position) (hb : b.position = .ok position)
    (h : a.generation = b.generation) : a = b := by
  have hword : a.word.toNat = b.word.toNat := by
    rw [(toNat_word_of_position ha).2, (toNat_word_of_position hb).2, h]
  obtain ⟨a⟩ := a
  obtain ⟨b⟩ := b
  rw [Slot.mk.injEq, ← UInt64.toNat_inj, hword]

/-- The word of a handle, as a number, also if its two parts have a bit in common. -/
theorem toNat_word_new_eq_or (generation position : UInt32) : (new generation position).word.toNat =
    generation.toNat <<< 32 ||| (position.toNat + 1) := by
  have hg := generation.toNat_lt
  have hp := position.toNat_lt
  have hhigh : (generation.toUInt64 <<< 32).toNat = generation.toNat <<< 32 := by
    rw [UInt64.toNat_shiftLeft, show UInt64.toNat 32 % 64 = 32 from rfl, UInt32.toNat_toUInt64,
      Nat.shiftLeft_eq, Nat.mod_eq_of_lt (by omega)]
  have hnext : (position.toUInt64 + 1).toNat = position.toNat + 1 := by
    rw [UInt64.toNat_add, UInt32.toNat_toUInt64, show UInt64.toNat 1 = 1 from rfl,
      Nat.mod_eq_of_lt (by omega)]
  rw [new, UInt64.toNat_or, hhigh, hnext]

/-- The word of a handle, as a number. -/
theorem toNat_word_new (generation : UInt32) (h : position.toNat < 2 ^ 32 - 1) :
    (new generation position).word.toNat = generation.toNat * 2 ^ 32 + (position.toNat + 1) := by
  have hlow : position.toNat + 1 < 2 ^ 32 := by omega
  rw [toNat_word_new_eq_or, ← Nat.shiftLeft_add_eq_or_of_lt hlow, Nat.shiftLeft_eq]

theorem generation_new (h : position.toNat < 2 ^ 32 - 1) :
    (new generation position).generation = generation := by
  rw [← UInt32.toNat_inj, toNat_generation, toNat_word_new generation h]
  omega

theorem position_new (h : position.toNat < 2 ^ 32 - 1) :
    (new generation position).position = .ok position := by
  have hword := toNat_word_new generation h
  have hlow : (new generation position).word.toUInt32.toNat = position.toNat + 1 := by
    rw [UInt64.toNat_toUInt32, hword]
    omega
  have hne : (new generation position).word.toUInt32 ≠ 0 := by
    intro hzero
    rw [hzero] at hlow
    cases hlow
  rw [Slot.position, if_neg hne]
  refine congrArg Except.ok (UInt32.toNat_inj.mp ?_)
  rw [UInt32.toNat_sub_of_le _ _ (by rw [UInt32.le_iff_toNat_le, hlow]; simp), hlow]
  rfl

/-- A handle is read back as what it was packed of, and no other handle is read back so. -/
theorem reads_iff : h.generation = generation ∧ h.position = .ok position ↔
    position.toNat < 2 ^ 32 - 1 ∧ h = new generation position := by
  constructor
  · rintro ⟨rfl, hposition⟩
    have hbound := (toNat_word_of_position hposition).1
    exact ⟨hbound, eq_of_position hposition (position_new hbound) (generation_new hbound).symm⟩
  · rintro ⟨hbound, rfl⟩
    exact ⟨generation_new hbound, position_new hbound⟩

end Slot

namespace SlotSet

variable {α : Type} {s s' : SlotSet α} {h h' : Slot} {n : Nat} {a : α}

/-- The elements in some cells. -/
def occupants (cells : Array (Cell α)) : Multiset α :=
  (cells.toList.filterMap Cell.value : List α)

/-- The elements. -/
def values (s : SlotSet α) : Multiset α :=
  occupants s.cells

/-- The element that a handle locates is in the cell of its position. -/
theorem locate_eq_some (hl : s.locate h = .ok (some (n, a))) :
    ∃ position cell, h.position = .ok position ∧ position.toNat = n ∧ s.cells[n]? = some cell ∧
      cell.generation = h.generation ∧ cell.value = some a := by
  unfold locate at hl
  cases hp : h.position with
  | error fault =>
      rw [hp] at hl
      cases hl
  | ok position =>
      rw [hp] at hl
      injection hl with hl
      obtain ⟨cell, hcell, hl⟩ := Option.bind_eq_some_iff.mp hl
      split at hl
      next hgeneration =>
        obtain ⟨a', ha, hl⟩ := Option.map_eq_some_iff.mp hl
        cases hl
        exact ⟨position, cell, rfl, rfl, hcell, hgeneration, ha⟩
      next => cases hl

/-- A step that goes by what a handle locates fails if the handle names no position. -/
theorem of_locate_bind {β : Type} {f : Option (Nat × α) → Except Fault β} {r : β}
    (hrun : s.locate h >>= f = .ok r) :
    ∃ located, s.locate h = .ok located ∧ f located = .ok r := by
  cases hl : s.locate h with
  | error fault =>
      rw [hl] at hrun
      cases hrun
  | ok located =>
      rw [hl] at hrun
      exact ⟨located, rfl, hrun⟩

theorem locate_of_find (hf : s.find h = .ok (some a)) : ∃ n, s.locate h = .ok (some (n, a)) := by
  obtain ⟨located, hl, hf⟩ := of_locate_bind hf
  obtain ⟨⟨n, a'⟩, rfl, rfl⟩ := Option.map_eq_some_iff.mp (Except.ok.inj hf)
  exact ⟨n, hl⟩

theorem find_of_locate {located : Option (Nat × α)} (hl : s.locate h = .ok located) :
    s.find h = .ok (located.map (·.2)) := by
  unfold find
  rw [hl]
  rfl

theorem modify_of_locate (hl : s.locate h = .ok (some (n, a))) (f : α → α) :
    s.modify h f =
      .ok { s with cells := s.cells.modify n ({ · with value := some (f a) }) } := by
  unfold modify
  rw [hl]
  rfl

theorem remove_of_locate (hl : s.locate h = .ok (some (n, a))) :
    s.remove h = .ok (some a, {
      cells := s.cells.modify n fun cell => ⟨cell.generation + 1, none⟩
      free := n.toUInt32 :: s.free
      size := s.size - 1 }) := by
  unfold remove
  rw [hl]
  rfl

/-- All that replacing an element does: it replaces the element that the handle locates, if any. -/
theorem modify_cases {f : α → α} (hm : s.modify h f = .ok s') :
    (s.locate h = .ok none ∧ s' = s) ∨
    ∃ n a, s.locate h = .ok (some (n, a)) ∧
      s' = { s with cells := s.cells.modify n ({ · with value := some (f a) }) } := by
  obtain ⟨located, hl, hm⟩ := of_locate_bind hm
  cases located with
  | none =>
      cases hm
      exact .inl ⟨hl, rfl⟩
  | some located =>
      cases hm
      exact .inr ⟨_, _, hl, rfl⟩

/-- All that taking an element out does: it vacates the cell that the handle locates, if any. -/
theorem remove_cases {r : Option α} (hr : s.remove h = .ok (r, s')) :
    (s.locate h = .ok none ∧ r = none ∧ s' = s) ∨
    ∃ n a, s.locate h = .ok (some (n, a)) ∧ r = some a ∧ s' = {
      cells := s.cells.modify n fun cell => ⟨cell.generation + 1, none⟩
      free := n.toUInt32 :: s.free
      size := s.size - 1 } := by
  obtain ⟨located, hl, hr⟩ := of_locate_bind hr
  cases located with
  | none =>
      cases hr
      exact .inl ⟨hl, rfl, rfl⟩
  | some located =>
      cases hr
      exact .inr ⟨_, _, hl, rfl, rfl⟩

theorem locate_of_remove (hr : s.remove h = .ok (some a, s')) :
    ∃ n, s.locate h = .ok (some (n, a)) := by
  obtain ⟨-, hnone, -⟩ | ⟨n, a', hl, hsome, -⟩ := remove_cases hr
  · cases hnone
  · cases hsome
    exact ⟨n, hl⟩

/-! ### The elements -/

/-- What an element adds to the elements, if there is one. -/
def single (a : Option α) : Multiset α :=
  a.elim 0 ({·})

/-- One cell among the others. -/
theorem occupants_split {cells : Array (Cell α)} {cell : Cell α} (hcell : cells[n]? = some cell) :
    ∃ rest, occupants cells = single cell.value + rest ∧
      ∀ f, occupants (cells.modify n f) = single (f cell).value + rest := by
  have hlist : cells.toList[n]? = some cell := by rw [Array.getElem?_toList, hcell]
  obtain ⟨hn, hget⟩ := List.getElem?_eq_some_iff.mp hlist
  have hmid (l r : List (Cell α)) (c : Cell α) :
      ((l ++ c :: r).filterMap Cell.value : Multiset α) =
        single c.value + ((l ++ r).filterMap Cell.value : List α) := by
    rw [List.filterMap_append, List.filterMap_cons, List.filterMap_append]
    cases c.value with
    | none => exact (zero_add _).symm
    | some a => exact Multiset.coe_eq_coe.mpr List.perm_middle
  refine ⟨((cells.toList.take n ++ cells.toList.drop (n + 1)).filterMap Cell.value : List α),
    ?_, fun f => ?_⟩
  · rw [← hmid, ← hget, List.getElem_cons_drop, List.take_append_drop]
    rfl
  · rw [← hmid, ← hget, ← List.modify_eq_take_cons_drop, ← Array.toList_modify]
    rfl

theorem values_of_locate (hl : s.locate h = .ok (some (n, a))) : ∃ rest : Multiset α,
    s.values = a ::ₘ rest ∧ (∀ f, ∃ s', s.modify h f = .ok s' ∧ s'.values = f a ::ₘ rest) ∧
      ∃ s', s.remove h = .ok (some a, s') ∧ s'.values = rest := by
  obtain ⟨_, cell, -, -, hcell, -, hvalue⟩ := locate_eq_some hl
  obtain ⟨rest, hsplit, hmodify⟩ := occupants_split hcell
  rw [hvalue] at hsplit
  refine ⟨rest, hsplit, fun f => ⟨_, modify_of_locate hl f, hmodify _⟩, _, remove_of_locate hl, ?_⟩
  exact (hmodify _).trans (zero_add rest)

/-- A replaced element is found in the place of the one that it replaced. -/
theorem find_of_modify (hf : s.find h = .ok (some a)) {f : α → α} (hm : s.modify h f = .ok s') :
    s'.find h = .ok (some (f a)) := by
  obtain ⟨n, hl⟩ := locate_of_find hf
  obtain ⟨position, cell, hposition, rfl, hcell, hgeneration, hvalue⟩ := locate_eq_some hl
  cases (modify_of_locate hl f).symm.trans hm
  simp [find, locate, hposition, Array.getElem?_modify, hcell, hgeneration]

/-- A replaced element is found in place of the old one, and no other handle finds anything else. -/
theorem find_modify (hf : s.find h = .ok (some a)) {f : α → α} (hm : s.modify h f = .ok s')
    (h' : Slot) : s'.find h' = s.find h' ∨
      s.find h' = .ok (some a) ∧ s'.find h' = .ok (some (f a)) := by
  obtain ⟨n, hl⟩ := locate_of_find hf
  obtain ⟨position, cell, -, rfl, hcell, -, hvalue⟩ := locate_eq_some hl
  cases (modify_of_locate hl f).symm.trans hm
  unfold find locate
  cases h'.position with
  | error fault => exact .inl rfl
  | ok position' =>
      by_cases hn : position.toNat = position'.toNat
      · by_cases hgeneration : cell.generation = h'.generation
        · refine .inr ⟨?_, ?_⟩ <;>
            simp [← hn, Array.getElem?_modify, hcell, hgeneration, hvalue]
        · refine .inl ?_
          simp [← hn, Array.getElem?_modify, hcell, hgeneration]
      · refine .inl ?_
        simp [Array.getElem?_modify, hn]

/-- An element that is put in its own place changes nothing. -/
theorem modify_self (hf : s.find h = .ok (some a)) : s.modify h (fun _ => a) = .ok s := by
  obtain ⟨n, hl⟩ := locate_of_find hf
  obtain ⟨_, cell, -, -, hcell, -, hvalue⟩ := locate_eq_some hl
  have hcells : s.cells.modify n ({ · with value := some a }) = s.cells := by
    refine Array.ext_getElem? fun i => ?_
    rw [Array.getElem?_modify]
    split
    next he => rw [← he, hcell, Option.map_some, ← hvalue]
    next => rfl
  rw [modify_of_locate hl, hcells]

/-! ### Pushing -/

/-- The free list names vacant cells, each once. -/
structure Valid (s : SlotSet α) : Prop where
  vacant : ∀ p ∈ s.free, ∃ cell, s.cells[p.toNat]? = some cell ∧ cell.value = none
  nodup : s.free.Nodup

theorem valid_empty : (empty : SlotSet α).Valid where
  vacant := fun _ hp => absurd hp List.not_mem_nil
  nodup := .nil

theorem values_push (hs : s.Valid) (a : α) : (s.push a).2.values = a ::ₘ s.values := by
  unfold push
  split
  next position rest hfree =>
    obtain ⟨cell, hcell, hvacant⟩ := hs.vacant position (hfree ▸ List.mem_cons_self)
    obtain ⟨others, hsplit, hmodify⟩ := occupants_split hcell
    rw [hvacant] at hsplit
    rw [values, values, hmodify, hsplit]
    exact congrArg ({a} + ·) (zero_add others).symm
  next =>
    rw [values, values, occupants, Array.toList_push, List.filterMap_append]
    exact Multiset.coe_eq_coe.mpr (List.perm_append_singleton a _)

theorem Valid.push (hs : s.Valid) (a : α) : (s.push a).2.Valid := by
  unfold SlotSet.push
  split
  next position rest hfree =>
    have hnodup := hs.nodup
    rw [hfree, List.nodup_cons] at hnodup
    refine ⟨fun p hp => ?_, hnodup.2⟩
    obtain ⟨cell, hcell, hvacant⟩ := hs.vacant p (hfree ▸ List.mem_cons_of_mem position hp)
    refine ⟨cell, ?_, hvacant⟩
    have hne : position.toNat ≠ p.toNat := by
      intro he
      exact hnodup.1 (UInt32.toNat_inj.mp he ▸ hp)
    rw [Array.getElem?_modify, if_neg hne, hcell]
  next hfree => exact ⟨fun p hp => absurd (hfree ▸ hp) List.not_mem_nil, hfree ▸ .nil⟩

theorem Valid.remove {r : Option α} (hs : s.Valid) (hr : s.remove h = .ok (r, s')) : s'.Valid := by
  obtain ⟨-, -, rfl⟩ | ⟨n, a, hl, -, rfl⟩ := remove_cases hr
  · exact hs
  · obtain ⟨position, cell, -, rfl, hcell, -, hvalue⟩ := locate_eq_some hl
    have hposition : position.toNat.toUInt32 = position := UInt32.ofNat_toNat
    -- The cell was occupied until now, so its position was not on the free list.
    have hfree : ∀ p ∈ s.free, position ≠ p := by
      rintro p hp rfl
      obtain ⟨cell', hcell', hvacant⟩ := hs.vacant position hp
      rw [hcell] at hcell'
      cases hcell'
      rw [hvalue] at hvacant
      cases hvacant
    refine ⟨?_, List.nodup_cons.mpr ⟨fun hp => hfree _ hp hposition.symm, hs.nodup⟩⟩
    intro p hp
    rw [hposition, List.mem_cons] at hp
    rw [Array.getElem?_modify]
    rcases hp with rfl | hp
    · exact ⟨_, by rw [if_pos rfl, hcell]; rfl, rfl⟩
    · rw [if_neg fun he => hfree p hp (UInt32.toNat_inj.mp he)]
      exact hs.vacant p hp

/-! ### Elements that stay in their cells -/

/-- Elements in the same cells, and the same free list. -/
structure Alike (s s' : SlotSet α) : Prop where
  free : s'.free = s.free
  occupied : s'.cells.toList.map (·.value.isSome) = s.cells.toList.map (·.value.isSome)

theorem Alike.refl (s : SlotSet α) : s.Alike s :=
  ⟨rfl, rfl⟩

theorem Alike.trans {s₁ s₂ s₃ : SlotSet α} (h : s₁.Alike s₂) (h' : s₂.Alike s₃) : s₁.Alike s₃ :=
  ⟨h'.free.trans h.free, h'.occupied.trans h.occupied⟩

theorem Alike.valid (halike : s.Alike s') (hs : s.Valid) : s'.Valid := by
  refine ⟨fun p hp => ?_, halike.free ▸ hs.nodup⟩
  obtain ⟨cell, hcell, hvacant⟩ := hs.vacant p (halike.free ▸ hp)
  have hoccupied := congrArg (·[p.toNat]?) halike.occupied
  simp only [List.getElem?_map, Array.getElem?_toList, hcell, Option.map_some, hvacant] at hoccupied
  obtain ⟨cell', hcell', hvacant'⟩ := Option.map_eq_some_iff.mp hoccupied
  exact ⟨cell', hcell', Option.not_isSome_iff_eq_none.mp (by rw [hvacant']; exact Bool.noConfusion)⟩

theorem alike_modify {f : α → α} (hm : s.modify h f = .ok s') : s.Alike s' := by
  obtain ⟨-, rfl⟩ | ⟨n, a, hl, rfl⟩ := modify_cases hm
  · exact .refl s'
  · obtain ⟨_, cell, -, -, hcell, -, hvalue⟩ := locate_eq_some hl
    refine ⟨rfl, List.ext_getElem? fun i => ?_⟩
    simp only [List.getElem?_map, Array.getElem?_toList, Array.getElem?_modify]
    split
    next he =>
      rw [← he, hcell]
      simp [hvalue]
    next => rfl

/-! ### What a handle finds -/

/-- What a position holds in a generation. -/
def heldAt (s : SlotSet α) (position generation : UInt32) : Option α :=
  (s.cells[position.toNat]?).bind fun cell =>
    if cell.generation = generation then cell.value else none

theorem find_of_position {position : UInt32} (hposition : h.position = .ok position) :
    s.find h = .ok (s.heldAt position h.generation) := by
  unfold find locate heldAt
  rw [hposition]
  refine congrArg Except.ok ?_
  cases s.cells[position.toNat]? with
  | none => rfl
  | some cell =>
      show Option.map _ (if _ then _ else _) = if _ then _ else _
      split
      · show Option.map _ (Option.map _ _) = _
        rw [Option.map_map]
        exact Option.map_id' ..
      · rfl

/-- A handle finds the same in two sets if its position holds the same in its generation. -/
theorem find_congr (hheld : ∀ position, h.position = .ok position →
      s'.heldAt position h.generation = s.heldAt position h.generation) :
    s'.find h = s.find h := by
  cases hposition : h.position with
  | error fault =>
      unfold find locate
      rw [hposition]
      rfl
  | ok position => rw [find_of_position hposition, find_of_position hposition, hheld _ hposition]

/-- The handle of a cell finds what is in it. -/
theorem find_new {position : UInt32} {cell : Cell α} (hroom : s.cells.size < 2 ^ 32)
    (hcell : s.cells[position.toNat]? = some cell) :
    s.find (.new cell.generation position) = .ok cell.value := by
  have hlt := (Array.getElem?_eq_some_iff.mp hcell).1
  have hbound : position.toNat < 2 ^ 32 - 1 := by omega
  rw [find_of_position (Slot.position_new hbound), heldAt, hcell, Slot.generation_new hbound]
  exact congrArg Except.ok (if_pos rfl)

/-- A handle that finds an element is the handle of its cell. -/
theorem exists_cell_of_find (hf : s.find h = .ok (some a)) :
    ∃ (position : UInt32) (cell : Cell α), s.cells[position.toNat]? = some cell ∧
      cell.value = some a ∧ h = .new cell.generation position := by
  obtain ⟨n, hl⟩ := locate_of_find hf
  obtain ⟨position, cell, hposition, rfl, hcell, hgeneration, hvalue⟩ := locate_eq_some hl
  obtain ⟨-, hnew⟩ := Slot.reads_iff.mp ⟨hgeneration.symm, hposition⟩
  exact ⟨position, cell, hcell, hvalue, hnew⟩

/-- A cell that is not the one of a handle, or not in its generation, does not matter to it. -/
theorem heldAt_modify {position generation : UInt32} {f : Cell α → Cell α} {free : List UInt32}
    {size : Nat} (hcell : n = position.toNat → ∀ cell, s.cells[n]? = some cell →
      cell.generation ≠ generation ∧ ((f cell).generation = generation → (f cell).value = none)) :
    SlotSet.heldAt ⟨s.cells.modify n f, free, size⟩ position generation =
      s.heldAt position generation := by
  unfold heldAt
  rw [Array.getElem?_modify]
  split
  next hn =>
    subst hn
    cases hget : s.cells[position.toNat]? with
    | none => rfl
    | some cell =>
        obtain ⟨hne, hvalue⟩ := hcell rfl cell hget
        show (if _ then _ else _) = if _ then _ else _
        rw [if_neg hne]
        split
        next hgeneration => exact hvalue hgeneration
        next => rfl
  next => rfl

/-- The cell that a handle locates is in another generation for any other handle. -/
theorem generation_ne_of_locate {position : UInt32} {cell : Cell α}
    (hl : s.locate h = .ok (some (n, a))) (hne : h' ≠ h) (hposition : h'.position = .ok position)
    (hn : n = position.toNat) (hcell : s.cells[n]? = some cell) :
    cell.generation ≠ h'.generation := by
  obtain ⟨position', cell', hposition', rfl, hcell', hgeneration, -⟩ := locate_eq_some hl
  cases hcell.symm.trans hcell'
  rintro hsame
  cases UInt32.toNat_inj.mp hn
  exact hne (Slot.eq_of_position hposition hposition' (hsame.symm.trans hgeneration))

/-- No two handles at one position find an element. -/
theorem eq_of_find {a' : α} {position : UInt32} (hfind : s.find h = .ok (some a))
    (hfind' : s.find h' = .ok (some a')) (hposition : h.position = .ok position)
    (hposition' : h'.position = .ok position) : h = h' := by
  obtain ⟨n, hlocate⟩ := locate_of_find hfind
  obtain ⟨n', hlocate'⟩ := locate_of_find hfind'
  obtain ⟨p, cell, hp, rfl, hcell, -⟩ := locate_eq_some hlocate
  obtain ⟨p', cell', hp', rfl, hcell', hgeneration, -⟩ := locate_eq_some hlocate'
  cases hp.symm.trans hposition
  cases hp'.symm.trans hposition'
  cases hcell.symm.trans hcell'
  by_contra hne
  exact generation_ne_of_locate hlocate (Ne.symm hne) hposition' rfl hcell hgeneration

/-- Replacing an element does not change what other handles find. -/
theorem find_modify_of_ne {f : α → α} (hm : s.modify h f = .ok s') (hne : h' ≠ h) :
    s'.find h' = s.find h' := by
  obtain ⟨-, rfl⟩ | ⟨n, a, hl, rfl⟩ := modify_cases hm
  · rfl
  · refine find_congr fun position hposition => heldAt_modify fun hn cell hcell => ?_
    have hother := generation_ne_of_locate hl hne hposition hn hcell
    exact ⟨hother, fun hsame => absurd hsame hother⟩

/-- Taking an element out does not change what other handles find. -/
theorem find_remove_of_ne {r : Option α} (hr : s.remove h = .ok (r, s')) (hne : h' ≠ h) :
    s'.find h' = s.find h' := by
  obtain ⟨-, -, rfl⟩ | ⟨n, a, hl, -, rfl⟩ := remove_cases hr
  · rfl
  · exact find_congr fun position hposition => heldAt_modify fun hn cell hcell =>
      ⟨generation_ne_of_locate hl hne hposition hn hcell, fun _ => rfl⟩

/-- After an element was taken out, its handle finds nothing. -/
theorem find_of_remove {r : Option α} (hr : s.remove h = .ok (r, s')) :
    s.find h = .ok r ∧ s'.find h = .ok none := by
  obtain ⟨hl, rfl, rfl⟩ | ⟨n, a, hl, rfl, rfl⟩ := remove_cases hr
  · exact ⟨find_of_locate hl, find_of_locate hl⟩
  · obtain ⟨position, cell, hposition, rfl, hcell, hgeneration, -⟩ := locate_eq_some hl
    refine ⟨find_of_locate hl, ?_⟩
    rw [find_of_position hposition, heldAt, Array.getElem?_modify, if_pos rfl, hcell]
    exact congrArg Except.ok (ite_self none)

/-- A stored element is found by its new handle, if at all, and every other handle finds what it
found before. -/
theorem find_push (hs : s.Valid) (a : α) (h : Slot) :
    (s.push a).2.find h = s.find h ∨ s.find h = .ok none ∧ (s.push a).2.find h = .ok (some a) := by
  cases hposition : h.position with
  | error fault =>
      refine .inl (find_congr fun position hok => ?_)
      cases hposition.symm.trans hok
  | ok position =>
      rw [find_of_position hposition, find_of_position hposition]
      unfold push
      split
      next vacant rest hfree =>
        obtain ⟨cell, hcell, hnone⟩ := hs.vacant vacant (hfree ▸ List.mem_cons_self)
        by_cases hsame : vacant.toNat = position.toNat
        · have hheld : s.heldAt position h.generation = none := by
            rw [heldAt, ← hsame, hcell, Option.bind_some, hnone, ite_self]
          rw [hheld]
          unfold heldAt
          rw [Array.getElem?_modify, if_pos hsame, ← hsame, hcell]
          show Except.ok (if _ then some a else none) = _ ∨ _ ∧ Except.ok (if _ then some a else none) = _
          split
          · exact .inr ⟨rfl, rfl⟩
          · exact .inl rfl
        · refine .inl (congrArg Except.ok ?_)
          unfold heldAt
          rw [Array.getElem?_modify, if_neg hsame]
      next =>
        unfold heldAt
        dsimp only
        rw [Array.getElem?_push]
        split
        next hlast =>
          rw [hlast, Array.getElem?_eq_none (Nat.le_refl _)]
          show Except.ok (if _ then some a else none) = _ ∨ _ ∧ Except.ok (if _ then some a else none) = _
          split
          · exact .inr ⟨rfl, rfl⟩
          · exact .inl rfl
        next => exact .inl rfl

theorem find_mapValues (f : α → α) (h : Slot) :
    (s.mapValues f).find h = (s.find h).map (Option.map f) := by
  cases hposition : h.position with
  | error fault =>
      unfold find locate
      rw [hposition]
      rfl
  | ok position =>
      rw [find_of_position hposition, find_of_position hposition]
      refine congrArg Except.ok ?_
      unfold heldAt mapValues
      dsimp only
      rw [Array.getElem?_map]
      cases s.cells[position.toNat]? with
      | none => rfl
      | some cell =>
          show (if _ then _ else _) = Option.map f (if _ then _ else _)
          split <;> rfl

theorem mapValues_mapValues (s : SlotSet α) (f g : α → α) :
    (s.mapValues f).mapValues g = s.mapValues (g ∘ f) := by
  simp [mapValues, Function.comp_def]

theorem values_mapValues (s : SlotSet α) (f : α → α) :
    (s.mapValues f).values = s.values.map f := by
  simp [values, occupants, mapValues, List.filterMap_map, List.map_filterMap]

theorem alike_mapValues (s : SlotSet α) (f : α → α) : s.Alike (s.mapValues f) := by
  refine ⟨rfl, ?_⟩
  simp [mapValues, Function.comp_def]

end SlotSet

end MaterialPipeline
