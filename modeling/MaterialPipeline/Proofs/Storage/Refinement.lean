import Mathlib.Data.List.Nodup
import Mathlib.Logic.Function.Basic
import MaterialPipeline.Proofs.Storage.Entries

/-!
# Proofs — Storage — Refinement

A slot set as a finite map, from the handles that were issued and not removed since to what was last
stored under them.  The cells, their generations, the free list and the counter are how it is done;
none of them shows.

* `SlotSet.Recycles`: every vacant cell is on the free list.
* `SlotSet.Lived`: the life of a set, with the handles that were issued and removed in it and what is
held under each of them.
* `SlotSet.Keeps`: what holds throughout a life.  A position was taken into use as often as it was
vacated, and once more if it is occupied now; so a bound on the vacating bounds the generations.
* **`SlotSet.Lived.refines_map`**: while its counters last, the set is that map.
-/

namespace MaterialPipeline.SlotSet

open Function (update update_self update_of_ne)

variable {α : Type} {s s' : SlotSet α} {h h' : Slot} {a : α} {issued removed : List Slot}
  {position : UInt32}

/-! ### Occupied cells -/

/-- Whether there is an element at a position. -/
def occupied (s : SlotSet α) (position : UInt32) : Bool :=
  ((s.cells[position.toNat]?).bind Cell.value).isSome

theorem occupied_of_layout (hlayout : s'.layout = s.layout) (position : UInt32) :
    s'.occupied position = s.occupied position := by
  unfold occupied
  cases hcell : s'.cells[position.toNat]? with
  | none =>
      have hnone : s.cells[position.toNat]? = none := by
        rw [Array.getElem?_eq_none_iff] at hcell ⊢
        rwa [← size_of_layout hlayout]
      rw [hnone]
  | some cell =>
      obtain ⟨cell₀, hcell₀, -, hvalue⟩ := cell_of_layout hlayout hcell
      rw [hcell₀]
      exact hvalue.symm

theorem card_values_of_layout (hlayout : s'.layout = s.layout) : s'.values.card = s.values.card := by
  have hcount (s : SlotSet α) : s.values.card = s.layout.2.countP Prod.snd := by
    rw [values, occupants, Multiset.coe_card, List.length_filterMap_eq_countP, layout,
      List.countP_map]
    rfl
  rw [hcount, hcount, hlayout]

/-! ### Vacant cells -/

/-- Every vacant cell is on the free list. -/
def Recycles (s : SlotSet α) : Prop :=
  ∀ position : UInt32, position.toNat < s.cells.size → s.occupied position = false →
    position ∈ s.free

theorem recycles_empty : (empty : SlotSet α).Recycles :=
  fun position hlt => absurd hlt (Nat.not_lt_zero position.toNat)

theorem Recycles.of_layout (hs : s.Recycles) (hlayout : s'.layout = s.layout) : s'.Recycles := by
  have hfree : s'.free = s.free := congrArg Prod.fst hlayout
  intro position hlt hvacant
  rw [size_of_layout hlayout] at hlt
  rw [occupied_of_layout hlayout] at hvacant
  exact hfree ▸ hs position hlt hvacant

theorem Recycles.push (hs : s.Recycles) (hvalid : s.Valid) (a : α) : (s.push a).2.Recycles := by
  intro position hlt hvacant
  cases hfree : s.free with
  | cons reused rest =>
      obtain ⟨cell, hcell, -⟩ := hvalid.vacant reused (hfree ▸ List.mem_cons_self)
      rw [SlotSet.push, hfree] at hlt hvacant ⊢
      simp only [Array.size_modify, occupied, Array.getElem?_modify] at hlt hvacant
      -- The cell that is reused is the only one that was vacant and is not any more.
      by_cases hsame : reused.toNat = position.toNat
      · rw [if_pos hsame, ← hsame, hcell] at hvacant
        cases hvacant
      · rw [if_neg hsame] at hvacant
        have hmem := hs position hlt hvacant
        rw [hfree, List.mem_cons] at hmem
        exact hmem.resolve_left fun e => hsame (congrArg UInt32.toNat e).symm
  | nil =>
      rw [SlotSet.push, hfree] at hlt hvacant
      simp only [Array.size_push, occupied, Array.getElem?_push] at hlt hvacant
      split at hvacant
      next => cases hvacant
      next hnew =>
        have hmem := hs position (by omega) hvacant
        rw [hfree] at hmem
        cases hmem

theorem Recycles.remove (hs : s.Recycles) (hr : s.remove h = .ok (some a, s')) : s'.Recycles := by
  obtain ⟨n, hl⟩ := locate_of_remove hr
  cases (remove_of_locate hl).symm.trans hr
  intro position hlt hvacant
  simp only [Array.size_modify, occupied, Array.getElem?_modify] at hlt hvacant
  by_cases hsame : n = position.toNat
  · rw [hsame, Nat.toUInt32, UInt32.ofNat_toNat]
    exact List.mem_cons_self
  · rw [if_neg hsame] at hvacant
    exact List.mem_cons_of_mem _ (hs position hlt hvacant)

/-- The free list is what is vacant. -/
theorem mem_free_iff (hvalid : s.Valid) (hs : s.Recycles) :
    position ∈ s.free ↔ ∃ cell, s.cells[position.toNat]? = some cell ∧ cell.value = none := by
  refine ⟨hvalid.vacant position, fun ⟨cell, hcell, hvacant⟩ => ?_⟩
  refine hs position (Array.getElem?_eq_some_iff.mp hcell).1 ?_
  rw [occupied, hcell, Option.bind_some, hvacant, Option.isSome_none]

/-! ### What the operations do -/

theorem occupied_push (hvalid : s.Valid) (hroom : (s.push a).2.cells.size < 2 ^ 32) :
    ∃ new, (s.push a).1.position = .ok new ∧ s.occupied new = false ∧
      (s.push a).2.occupied new = true ∧
      ∀ p ≠ new, (s.push a).2.occupied p = s.occupied p := by
  obtain ⟨generation, new, hbound, hnew, hbefore, -, hcells⟩ := push_cases hvalid hroom
  refine ⟨new, hnew ▸ Slot.position_new hbound, ?_, ?_, fun p hp => ?_⟩
  · rcases hbefore with hvacant | ⟨hsize, -⟩
    · rw [occupied, hvacant]
      rfl
    · rw [occupied, Array.getElem?_eq_none (by omega)]
      rfl
  · rw [occupied, hcells, if_pos rfl]
    rfl
  · rw [occupied, hcells, if_neg fun e => hp (UInt32.toNat_inj.mp e), occupied]

theorem occupied_remove (hr : s.remove h = .ok (some a, s')) :
    ∃ old, h.position = .ok old ∧ s.occupied old = true ∧ s'.occupied old = false ∧
      ∀ p ≠ old, s'.occupied p = s.occupied p := by
  obtain ⟨n, hl⟩ := locate_of_remove hr
  cases (remove_of_locate hl).symm.trans hr
  obtain ⟨old, cell, hposition, rfl, hcell, -, hvalue⟩ := locate_eq_some hl
  refine ⟨old, hposition, ?_, ?_, fun p hp => ?_⟩
  · rw [occupied, hcell, Option.bind_some, hvalue, Option.isSome_some]
  · rw [occupied, Array.getElem?_modify, if_pos rfl, hcell]
    rfl
  · rw [occupied, Array.getElem?_modify, if_neg fun e => hp (UInt32.toNat_inj.mp e).symm, occupied]

/-- Nothing changes if there is nothing to take out. -/
theorem eq_of_remove_none (hr : s.remove h = .ok (none, s')) : s' = s := by
  obtain ⟨-, -, hsame⟩ | ⟨n, a, -, hsome, -⟩ := remove_cases hr
  · exact hsame
  · cases hsome

theorem locate_of_find_none (hf : s.find h = .ok none) : s.locate h = .ok none := by
  obtain ⟨located, hl, hf⟩ := of_locate_bind hf
  rwa [Option.map_eq_none_iff.mp (Except.ok.inj hf)] at hl

theorem remove_of_find (hf : s.find h = .ok (some a)) : ∃ s', s.remove h = .ok (some a, s') := by
  obtain ⟨n, hl⟩ := locate_of_find hf
  exact ⟨_, remove_of_locate hl⟩

theorem modify_of_find (hf : s.find h = .ok (some a)) (f : α → α) :
    ∃ s', s.modify h f = .ok s' := by
  obtain ⟨n, hl⟩ := locate_of_find hf
  exact ⟨_, modify_of_locate hl f⟩

theorem set_of_find (hf : s.find h = .ok (some a)) (b : α) : ∃ s', s.set h b = .ok s' := by
  obtain ⟨n, hl⟩ := locate_of_find hf
  obtain ⟨s', hm⟩ := modify_of_find hf fun _ => b
  refine ⟨s', ?_⟩
  rw [set, hl]
  exact hm

theorem remove_of_find_none (hf : s.find h = .ok none) : s.remove h = .ok (none, s) := by
  rw [remove, locate_of_find_none hf]
  rfl

theorem modify_of_find_none (hf : s.find h = .ok none) (f : α → α) : s.modify h f = .ok s := by
  rw [modify, locate_of_find_none hf]
  rfl

theorem size_modify {f : α → α} (hm : s.modify h f = .ok s') : s'.size = s.size := by
  obtain ⟨-, rfl⟩ | ⟨n, a, -, rfl⟩ := modify_cases hm <;> rfl

/-- A write that must find its element is a write to an element that is there. -/
theorem modify_of_set (hset : s.set h a = .ok s') :
    (∃ old, s.find h = .ok (some old)) ∧ s.modify h (fun _ => a) = .ok s' := by
  obtain ⟨located, hl, hset⟩ := of_locate_bind hset
  cases located with
  | none => cases hset
  | some located => exact ⟨⟨located.2, find_of_locate hl⟩, hset⟩

/-! ### Lives -/

/-- The life of a slot set: the handles that were issued and those whose elements were taken out, in
order, what is held under each handle, and the set now.  Looking changes nothing. -/
inductive Lived : List Slot → List Slot → (Slot → Option α) → SlotSet α → Prop where
  | empty : Lived [] [] (fun _ => none) .empty
  | push {issued removed : List Slot} {held : Slot → Option α} {s : SlotSet α}
      (h : Lived issued removed held s) (a : α) :
      Lived (issued ++ [(s.push a).1]) removed (update held (s.push a).1 (some a)) (s.push a).2
  | remove {issued removed : List Slot} {held : Slot → Option α} {s s' : SlotSet α} {slot : Slot}
      {a : α} (h : Lived issued removed held s) (hrun : s.remove slot = .ok (some a, s')) :
      Lived issued (removed ++ [slot]) (update held slot none) s'
  | miss {issued removed : List Slot} {held : Slot → Option α} {s s' : SlotSet α} {slot : Slot}
      (h : Lived issued removed held s) (hrun : s.remove slot = .ok (none, s')) :
      Lived issued removed held s'
  | modify {issued removed : List Slot} {held : Slot → Option α} {s s' : SlotSet α} {slot : Slot}
      {f : α → α} (h : Lived issued removed held s) (hrun : s.modify slot f = .ok s') :
      Lived issued removed (update held slot ((held slot).map f)) s'
  | set {issued removed : List Slot} {held : Slot → Option α} {s s' : SlotSet α} {slot : Slot}
      {a : α} (h : Lived issued removed held s) (hrun : s.set slot a = .ok s') :
      Lived issued removed (update held slot (some a)) s'
  | mapEntries {issued removed : List Slot} {held : Slot → Option α} {s : SlotSet α}
      (h : Lived issued removed held s) (f : Slot → α → α) :
      Lived issued removed (fun slot => (held slot).map (f slot)) (s.mapEntries f)

/-- What holds at every point of a life, while the counters last. -/
structure Keeps (issued removed : List Slot) (held : Slot → Option α) (s : SlotSet α) : Prop where
  numbered : s.Numbered issued
  nodup_issued : issued.Nodup
  nodup_removed : removed.Nodup
  removed_subset : removed ⊆ issued
  /-- A position was taken into use as often as it was vacated, and once more while it is occupied. -/
  tenancies : ∀ position, tenancies issued position =
    tenancies removed position + (s.occupied position).toNat
  recycles : s.Recycles
  size : s.size = s.values.card
  find : ∀ h position, h.position = .ok position → s.find h = .ok (held h)
  live_iff : ∀ h, (held h).isSome = true ↔ h ∈ issued ∧ h ∉ removed

variable {held held' : Slot → Option α}

theorem keeps_empty : Keeps [] [] (fun _ => none) (empty : SlotSet α) where
  numbered := numbered_empty
  nodup_issued := .nil
  nodup_removed := .nil
  removed_subset := List.Subset.refl _
  tenancies := fun _ => rfl
  recycles := recycles_empty
  size := rfl
  find := fun _ _ hposition => find_of_position hposition
  live_iff := fun _ => by simp

namespace Keeps

/-- What changes elements alone. -/
theorem of_layout (hs : Keeps issued removed held s) (hlayout : s'.layout = s.layout)
    (hsize : s'.size = s.size)
    (hfind : ∀ h position, h.position = .ok position → s'.find h = .ok (held' h))
    (hlive : ∀ h, (held' h).isSome = (held h).isSome) : Keeps issued removed held' s' where
  numbered := hs.numbered.of_layout hlayout
  nodup_issued := hs.nodup_issued
  nodup_removed := hs.nodup_removed
  removed_subset := hs.removed_subset
  tenancies := fun position => occupied_of_layout hlayout position ▸ hs.tenancies position
  recycles := hs.recycles.of_layout hlayout
  size := by rw [hsize, hs.size, card_values_of_layout hlayout]
  find := hfind
  live_iff := fun h => by rw [hlive, hs.live_iff]

theorem modify {f : α → α} (hs : Keeps issued removed held s) (hm : s.modify h f = .ok s') :
    Keeps issued removed (update held h ((held h).map f)) s' := by
  refine hs.of_layout (layout_modify hm) (size_modify hm) (fun h' position hposition => ?_) fun h' => ?_
  · by_cases hsame : h' = h
    · subst hsame
      rw [update_self]
      have hfind := hs.find h' position hposition
      cases hheld : held h' with
      | none =>
          rw [hheld] at hfind
          cases (modify_of_find_none hfind f).symm.trans hm
          exact hfind
      | some a =>
          rw [hheld] at hfind
          exact find_of_modify hfind hm
    · rw [update_of_ne hsame, find_modify_of_ne hm hsame, hs.find h' position hposition]
  · by_cases hsame : h' = h
    · subst hsame
      rw [update_self, Option.isSome_map]
    · rw [update_of_ne hsame]

theorem set (hs : Keeps issued removed held s) (hset : s.set h a = .ok s') :
    Keeps issued removed (update held h (some a)) s' := by
  obtain ⟨⟨old, hfind⟩, hm⟩ := modify_of_set hset
  have hmodified := hs.modify hm
  obtain ⟨_, hl⟩ := locate_of_find hfind
  obtain ⟨position, _, hposition, -⟩ := locate_eq_some hl
  have hheld : held h = some old := Except.ok.inj ((hs.find h position hposition).symm.trans hfind)
  rwa [hheld, Option.map_some] at hmodified

theorem mapEntries (hs : Keeps issued removed held s) (f : Slot → α → α) :
    Keeps issued removed (fun h => (held h).map (f h)) (s.mapEntries f) := by
  refine hs.of_layout (layout_mapEntries s f) rfl (fun h position hposition => ?_) fun h => ?_
  · rw [find_mapEntries f hposition, hs.find h position hposition]
    rfl
  · exact Option.isSome_map ..

theorem remove (hs : Keeps issued removed held s) (hr : s.remove h = .ok (some a, s')) :
    Keeps issued (removed ++ [h]) (update held h none) s' := by
  obtain ⟨old, hposition, hoccupied, hvacant, hothers⟩ := occupied_remove hr
  obtain ⟨hfind, hfind'⟩ := find_of_remove hr
  have hheld : held h = some a := Except.ok.inj ((hs.find h old hposition).symm.trans hfind)
  obtain ⟨hissued, hnot⟩ := (hs.live_iff h).mp (by rw [hheld]; rfl)
  exact {
    numbered := hs.numbered.remove hr
    nodup_issued := hs.nodup_issued
    nodup_removed := List.concat_eq_append ▸ hs.nodup_removed.concat hnot
    removed_subset := List.append_subset.mpr ⟨hs.removed_subset,
      List.cons_subset.mpr ⟨hissued, List.nil_subset _⟩⟩
    tenancies := by
      intro p
      rw [tenancies_concat, hs.tenancies]
      by_cases hp : p = old
      · subst hp
        rw [if_pos hposition, hoccupied, hvacant]
        rfl
      · rw [if_neg fun e => hp (Except.ok.inj (e.symm.trans hposition)), hothers p hp, Nat.add_zero]
    recycles := hs.recycles.remove hr
    size := by
      obtain ⟨n, hl⟩ := locate_of_remove hr
      obtain ⟨rest, hvalues, -, s₁, hr₁, hrest⟩ := values_of_locate hl
      cases hr₁.symm.trans hr
      cases (remove_of_locate hl).symm.trans hr
      rw [hrest]
      show s.size - 1 = _
      rw [hs.size, hvalues, Multiset.card_cons, Nat.add_sub_cancel]
    find := by
      intro h' position hposition'
      by_cases hsame : h' = h
      · subst hsame
        rw [update_self, hfind']
      · rw [update_of_ne hsame, find_remove_of_ne hr hsame, hs.find h' position hposition']
    live_iff := by
      intro h'
      rw [List.mem_append, List.mem_singleton, not_or, ← and_assoc, ← hs.live_iff]
      by_cases hsame : h' = h
      · subst hsame
        rw [update_self]
        exact iff_of_false Bool.false_ne_true fun hboth => hboth.2 rfl
      · rw [update_of_ne hsame]
        exact (and_iff_left hsame).symm }

theorem push (hs : Keeps issued removed held s) (hroom : (s.push a).2.cells.size < 2 ^ 32)
    (hvacated : ∀ position, SlotSet.tenancies removed position < 2 ^ 32) :
    Keeps (issued ++ [(s.push a).1]) removed (update held (s.push a).1 (some a)) (s.push a).2 := by
  have hvalid := hs.numbered.valid
  obtain ⟨new, hposition, hvacant, hoccupied, hothers⟩ := occupied_push (a := a) hvalid hroom
  have htenancies (p : UInt32) : SlotSet.tenancies (issued ++ [(s.push a).1]) p =
      SlotSet.tenancies removed p + ((s.push a).2.occupied p).toNat := by
    rw [tenancies_concat, hs.tenancies]
    by_cases hp : p = new
    · subst hp
      rw [if_pos hposition, hvacant, hoccupied]
      rfl
    · rw [if_neg fun e => hp (Except.ok.inj (e.symm.trans hposition)), hothers p hp, Nat.add_zero]
  have hfresh : (s.push a).1 ∉ issued := by
    refine hs.numbered.fresh hroom fun p => ?_
    have hone := Bool.toNat_le ((s.push a).2.occupied p)
    have hlt := hvacated p
    rw [htenancies]
    omega
  exact {
    numbered := hs.numbered.push hroom
    nodup_issued := List.concat_eq_append ▸ hs.nodup_issued.concat hfresh
    nodup_removed := hs.nodup_removed
    removed_subset := List.subset_append_of_subset_left _ hs.removed_subset
    tenancies := htenancies
    recycles := hs.recycles.push hvalid a
    size := by
      have hsize : (s.push a).2.size = s.size + 1 := by unfold SlotSet.push; split <;> rfl
      rw [hsize, hs.size, values_push hvalid, Multiset.card_cons]
    find := by
      intro h' position hposition'
      by_cases hsame : h' = (s.push a).1
      · rw [hsame, update_self, find_pushed hvalid hroom]
      · rw [update_of_ne hsame, find_push_of_ne hvalid hroom hsame, hs.find h' position hposition']
    live_iff := by
      intro h'
      rw [List.mem_append, List.mem_singleton]
      by_cases hsame : h' = (s.push a).1
      · rw [hsame, update_self]
        exact iff_of_true rfl ⟨.inr rfl, fun hgone => hfresh (hs.removed_subset hgone)⟩
      · rw [update_of_ne hsame, hs.live_iff, or_iff_left hsame] }

end Keeps

theorem size_le_push (s : SlotSet α) (a : α) : s.cells.size ≤ (s.push a).2.cells.size := by
  unfold push
  split
  · exact Array.size_modify.ge
  · exact (Nat.le_succ _).trans (Array.size_push _).ge

theorem Lived.keeps (h : Lived issued removed held s) (hroom : s.cells.size < 2 ^ 32)
    (hvacated : ∀ position, tenancies removed position < 2 ^ 32) :
    Keeps issued removed held s := by
  induction h with
  | empty => exact keeps_empty
  | @push _ _ _ s _ a ih =>
      exact (ih ((s.size_le_push a).trans_lt hroom) hvacated).push hroom hvacated
  | remove _ hrun ih =>
      refine (ih (size_remove hrun ▸ hroom) fun position => ?_).remove hrun
      exact (tenancies_le_concat _).trans_lt (hvacated position)
  | miss _ hrun ih =>
      cases eq_of_remove_none hrun
      exact ih hroom hvacated
  | modify _ hrun ih =>
      exact (ih (size_of_layout (layout_modify hrun) ▸ hroom) hvacated).modify hrun
  | set _ hrun ih =>
      have hlayout := layout_modify (modify_of_set hrun).2
      exact (ih (size_of_layout hlayout ▸ hroom) hvacated).set hrun
  | mapEntries _ f ih =>
      exact (ih (size_of_layout (layout_mapEntries _ f) ▸ hroom) hvacated).mapEntries f

/-- An element is there under a handle, to be looked at, written to and taken out. -/
structure Finds (s : SlotSet α) (h : Slot) (a : α) : Prop where
  find : s.find h = .ok (some a)
  get : s.get h = .ok a
  modify : ∀ f, ∃ s', s.modify h f = .ok s'
  set : ∀ b, ∃ s', s.set h b = .ok s'
  remove : ∃ s', s.remove h = .ok (some a, s')

/-- Nothing is there under a handle, and nothing is done through it. -/
structure Misses (s : SlotSet α) (h : Slot) : Prop where
  find : s.find h = .ok none
  get : s.get h = .error (.staleSlot h.word)
  modify : ∀ f, s.modify h f = .ok s
  set : ∀ b, s.set h b = .error (.staleSlot h.word)
  remove : s.remove h = .ok (none, s)

theorem finds_of_find (hf : s.find h = .ok (some a)) : s.Finds h a where
  find := hf
  get := by
    rw [get, hf]
    rfl
  modify := modify_of_find hf
  set := set_of_find hf
  remove := remove_of_find hf

theorem misses_of_find (hf : s.find h = .ok none) : s.Misses h where
  find := hf
  get := by
    rw [get, hf]
    rfl
  modify := modify_of_find_none hf
  set := by
    intro b
    rw [set, locate_of_find_none hf]
    rfl
  remove := remove_of_find_none hf

/-- A set as a finite map, from the handles that were issued and not removed since to what is held
under them. -/
structure Maps (issued removed : List Slot) (held : Slot → Option α) (s : SlotSet α) : Prop where
  /-- No handle is issued twice. -/
  fresh : issued.Nodup
  /-- Until it is removed, a handle finds what was last stored under it. -/
  live : ∀ h ∈ issued, h ∉ removed → ∃ a, held h = some a ∧ s.Finds h a
  /-- Elements are taken out once, of those that were stored, and there is nothing under their handles
  then. -/
  gone : removed.Nodup ∧ removed ⊆ issued ∧ ∀ h ∈ removed, s.Misses h
  /-- Handles that were not issued find no element. -/
  stray : ∀ h ∉ issued, ∀ a, s.find h ≠ .ok (some a)
  size : s.size = (issued.filter (· ∉ removed)).length
  mem_entries : ∀ h a, (h, a) ∈ s.entries ↔ h ∈ issued ∧ h ∉ removed ∧ held h = some a
  mem_slots : ∀ h, h ∈ s.slots ↔ h ∈ issued ∧ h ∉ removed
  ascending : s.slots.Pairwise Slot.Before
  /-- The vacant cells are on the free list, each of them once. -/
  free : s.free.Nodup ∧ ∀ position : UInt32, position ∈ s.free ↔
    ∃ cell, s.cells[position.toNat]? = some cell ∧ cell.value = none

namespace Keeps

/-- Handles that name a position find what is held under them. -/
theorem find_of_issued (hs : Keeps issued removed held s) (hissued : h ∈ issued) :
    s.find h = .ok (held h) := by
  obtain ⟨position, hposition, -⟩ := hs.numbered.handles h hissued
  exact hs.find h position hposition

theorem mem_entries (hs : Keeps issued removed held s) :
    (h, a) ∈ s.entries ↔ h ∈ issued ∧ h ∉ removed ∧ held h = some a := by
  rw [SlotSet.mem_entries hs.numbered.room, ← and_assoc, ← hs.live_iff]
  constructor
  · intro hf
    have hissued := hs.numbered.mem_of_find hf
    rw [hs.find_of_issued hissued] at hf
    have hheld := Except.ok.inj hf
    exact ⟨Option.isSome_of_mem hheld, hheld⟩
  · rintro ⟨hlive, hheld⟩
    rw [hs.find_of_issued ((hs.live_iff h).mp hlive).1, hheld]

theorem mem_slots (hs : Keeps issued removed held s) :
    h ∈ s.slots ↔ h ∈ issued ∧ h ∉ removed := by
  rw [slots, List.mem_map]
  constructor
  · rintro ⟨⟨h, a⟩, hmem, rfl⟩
    obtain ⟨hissued, hnot, -⟩ := hs.mem_entries.mp hmem
    exact ⟨hissued, hnot⟩
  · rintro ⟨hissued, hnot⟩
    obtain ⟨a, ha⟩ := Option.isSome_iff_exists.mp ((hs.live_iff h).mpr ⟨hissued, hnot⟩)
    exact ⟨(h, a), hs.mem_entries.mpr ⟨hissued, hnot, ha⟩, rfl⟩

theorem length_live (hs : Keeps issued removed held s) :
    s.size = (issued.filter (· ∉ removed)).length := by
  have hperm : s.slots.Perm (issued.filter (· ∉ removed)) :=
    (List.perm_ext_iff_of_nodup (nodup_slots hs.numbered.room) (hs.nodup_issued.filter _)).mpr
      fun h => by rw [hs.mem_slots, List.mem_filter, decide_eq_true_eq]
  rw [hs.size, ← length_entries, ← hperm.length_eq, slots, List.length_map]

end Keeps

/-- **A slot set is a finite map**, for as long as its counters last: while there are fewer than 2³²
cells and none of them was vacated 2³² times. -/
theorem Lived.refines_map (h : Lived issued removed held s) (hroom : s.cells.size < 2 ^ 32)
    (hvacated : ∀ position, tenancies removed position < 2 ^ 32) :
    Maps issued removed held s := by
  have hkeeps := h.keeps hroom hvacated
  have hvalid := hkeeps.numbered.valid
  exact {
    fresh := hkeeps.nodup_issued
    live := by
      intro h hissued hnot
      obtain ⟨a, ha⟩ := Option.isSome_iff_exists.mp ((hkeeps.live_iff h).mpr ⟨hissued, hnot⟩)
      exact ⟨a, ha, finds_of_find (ha ▸ hkeeps.find_of_issued hissued)⟩
    gone := by
      refine ⟨hkeeps.nodup_removed, hkeeps.removed_subset, fun h hgone => misses_of_find ?_⟩
      have hnone : held h = none := Option.not_isSome_iff_eq_none.mp fun hlive =>
        ((hkeeps.live_iff h).mp hlive).2 hgone
      exact hnone ▸ hkeeps.find_of_issued (hkeeps.removed_subset hgone)
    stray := fun h hnot a hf => hnot (hkeeps.numbered.mem_of_find hf)
    size := hkeeps.length_live
    mem_entries := fun h a => hkeeps.mem_entries
    mem_slots := fun h => hkeeps.mem_slots
    ascending := pairwise_slots hroom
    free := ⟨hvalid.nodup, fun position => mem_free_iff hvalid hkeeps.recycles⟩ }

/-- A cell that is used again: its first handle finds nothing any more, its second what was written
to it, and the second is listed ahead of that of the other cell. -/
theorem refines_map_of_reuse :
    let two := ((empty : SlotSet Nat).push 10).2.push 20
    ∃ vacated, two.2.remove (.new 0 0) = .ok (some 10, vacated) ∧
      ∃ reused, (vacated.push 30).2.set (.new 1 0) 31 = .ok reused ∧
        reused.Misses (.new 0 0) ∧ reused.Finds (.new 1 0) 31 ∧
        (.new 1 0, 31) ∈ reused.entries ∧ reused.slots = [.new 1 0, .new 0 1] := by
  intro two
  have htwo : Lived [.new 0 0, .new 0 1] [] _ two.2 := (Lived.empty.push 10).push 20
  obtain ⟨vacated, hremove⟩ : ∃ vacated, two.2.remove (.new 0 0) = .ok (some 10, vacated) :=
    ⟨_, rfl⟩
  obtain ⟨reused, hset⟩ : ∃ reused, (vacated.push 30).2.set (.new 1 0) 31 = .ok reused := by
    cases hremove
    exact ⟨_, rfl⟩
  refine ⟨vacated, hremove, reused, hset, ?_⟩
  have hlived := ((htwo.remove hremove).push 30).set hset
  cases hremove
  cases hset
  have hmaps := hlived.refines_map (by decide) fun position =>
    List.countP_le_length.trans_lt (by decide)
  obtain ⟨a, ha, hfinds⟩ := hmaps.live (.new 1 0) (by decide) (by decide)
  cases ha
  exact ⟨hmaps.gone.2.2 (.new 0 0) (by decide), hfinds,
    (hmaps.mem_entries _ _).mpr ⟨by decide, by decide, rfl⟩, rfl⟩

end MaterialPipeline.SlotSet
