import MaterialPipeline.Proofs.Storage.Slots

/-!
# Proofs — Storage — Turnover

Slot sets through time.  A cell is occupied and vacated, over and over, and each time a handle is
issued for it.  The handles of a cell are told apart by their generations: the cell counts in 32 bits
how often it was vacated.

* `SlotSet.layout`: a set without its elements.  What changes elements alone leaves it as it is, and it
decides which handles find something.
* `SlotSet.push_cases`: all that storing an element does.
* `SlotSet.Numbered`: the cells of a set, and the handles that were issued for them so far.
* `SlotSet.Numbered.fresh`: no handle is issued again, as long as no cell is taken into use more than
2³² times.
-/

namespace MaterialPipeline.SlotSet

variable {α : Type} {s s' : SlotSet α} {h : Slot} {n : Nat} {a : α} {issued : List Slot}
  {position : UInt32} {cell : Cell α}

/-! ### Layouts -/

/-- A set without its elements: the free list, and of each cell its generation and whether it is
occupied. -/
def layout (s : SlotSet α) : List UInt32 × List (UInt32 × Bool) :=
  (s.free, s.cells.toList.map fun cell => (cell.generation, cell.value.isSome))

theorem layout_modify {f : α → α} (hm : s.modify h f = .ok s') : s'.layout = s.layout := by
  obtain ⟨-, rfl⟩ | ⟨n, a, hl, rfl⟩ := modify_cases hm
  · rfl
  · obtain ⟨_, cell, -, -, hcell, -, hvalue⟩ := locate_eq_some hl
    refine congrArg (Prod.mk s.free) (List.ext_getElem? fun i => ?_)
    simp only [List.getElem?_map, Array.getElem?_toList, Array.getElem?_modify]
    split
    next he =>
      rw [← he, hcell]
      simp [hvalue]
    next => rfl

theorem layout_mapValues (s : SlotSet α) (f : α → α) : (s.mapValues f).layout = s.layout := by
  simp [layout, mapValues, Function.comp_def]

section

variable (hlayout : s'.layout = s.layout)

include hlayout

theorem size_of_layout : s'.cells.size = s.cells.size := by
  have hcells := congrArg (·.2.length) hlayout
  simpa [layout] using hcells

/-- A cell of a set with the same layout. -/
theorem cell_of_layout (hcell : s'.cells[n]? = some cell) : ∃ cell₀ : Cell α,
    s.cells[n]? = some cell₀ ∧ cell₀.generation = cell.generation ∧
      cell₀.value.isSome = cell.value.isSome := by
  have hcells := congrArg (·.2[n]?) hlayout
  simp only [layout, List.getElem?_map, Array.getElem?_toList, hcell, Option.map_some] at hcells
  obtain ⟨cell₀, hcell₀, hsame⟩ := Option.map_eq_some_iff.mp hcells.symm
  injection hsame with hgeneration hvalue
  exact ⟨cell₀, hcell₀, hgeneration, hvalue⟩

theorem alike_of_layout : s.Alike s' := by
  refine ⟨congrArg Prod.fst hlayout, ?_⟩
  have hcells := congrArg (·.2.map Prod.snd) hlayout
  simpa [layout, Function.comp_def] using hcells

/-- The layout decides which handles find something. -/
theorem isSome_find_of_layout (h : Slot) :
    (s'.find h).map Option.isSome = (s.find h).map Option.isSome := by
  cases hposition : h.position with
  | error fault =>
      unfold find locate
      rw [hposition]
      rfl
  | ok position =>
      rw [find_of_position hposition, find_of_position hposition]
      refine congrArg Except.ok ?_
      unfold heldAt
      cases hcell : s'.cells[position.toNat]? with
      | none =>
          have hnone : s.cells[position.toNat]? = none := by
            rw [Array.getElem?_eq_none_iff] at hcell ⊢
            rwa [← size_of_layout hlayout]
          rw [hnone]
      | some cell =>
          obtain ⟨cell₀, hcell₀, hgeneration, hvalue⟩ := cell_of_layout hlayout hcell
          rw [hcell₀, Option.bind_some, Option.bind_some, hgeneration]
          split
          · exact hvalue.symm
          · rfl

theorem find_none_of_layout (hnone : s.find h = .ok none) : s'.find h = .ok none := by
  have hsame := isSome_find_of_layout hlayout h
  rw [hnone] at hsame
  cases hx : s'.find h with
  | error fault =>
      rw [hx] at hsame
      cases hsame
  | ok x =>
      rw [hx] at hsame
      cases x with
      | none => rfl
      | some a => cases hsame

end

/-! ### Storing an element -/

theorem size_push_le (s : SlotSet α) (a : α) : (s.push a).2.cells.size ≤ s.cells.size + 1 := by
  unfold push
  split
  · exact Array.size_modify.trans_le (Nat.le_succ _)
  · exact (Array.size_push _).le

/-- All that storing an element does: a vacant cell is occupied, or a new one comes at the end. -/
theorem push_cases (hs : s.Valid) (hroom : (s.push a).2.cells.size < 2 ^ 32) :
    ∃ generation position, position.toNat < 2 ^ 32 - 1 ∧
      (s.push a).1 = .new generation position ∧
      (s.cells[position.toNat]? = some ⟨generation, none⟩ ∨
        s.cells.size = position.toNat ∧ generation = 0) ∧
      s.cells.size ≤ (s.push a).2.cells.size ∧
      ∀ n, (s.push a).2.cells[n]? =
        if n = position.toNat then some ⟨generation, some a⟩ else s.cells[n]? := by
  unfold push at hroom ⊢
  split at hroom
  next vacant rest hfree =>
    obtain ⟨⟨generation, value⟩, hcell, rfl⟩ := hs.vacant vacant (hfree ▸ List.mem_cons_self)
    obtain ⟨hlt, -⟩ := Array.getElem?_eq_some_iff.mp hcell
    simp only [Array.size_modify] at hroom
    simp only [Array.size_modify]
    refine ⟨generation, vacant, by omega, by simp [hcell], .inl hcell, Nat.le_refl _, fun n => ?_⟩
    rw [Array.getElem?_modify]
    by_cases hn : n = vacant.toNat
    · subst hn
      rw [if_pos rfl, if_pos rfl, hcell]
      rfl
    · rw [if_neg (Ne.symm hn), if_neg hn]
  next hfree =>
    rw [Array.size_push] at hroom
    have hsize : s.cells.size.toUInt32.toNat = s.cells.size :=
      UInt32.toNat_ofNat_of_lt' (by show _ < 2 ^ 32; omega)
    simp only [Array.size_push]
    refine ⟨0, s.cells.size.toUInt32, by omega, rfl, .inr ⟨hsize.symm, rfl⟩, Nat.le_succ _,
      fun n => ?_⟩
    rw [hsize, Array.getElem?_push]

/-- A stored element is found by the handle that is given for it. -/
theorem find_pushed (hs : s.Valid) (hroom : (s.push a).2.cells.size < 2 ^ 32) :
    (s.push a).2.find (s.push a).1 = .ok (some a) := by
  obtain ⟨generation, position, hposition, hnew, -, -, hcells⟩ := push_cases hs hroom
  rw [hnew, find_of_position (Slot.position_new hposition), heldAt, hcells, if_pos rfl,
    Slot.generation_new hposition]
  exact congrArg Except.ok (if_pos rfl)

/-- A stored element does not change what other handles find. -/
theorem find_push_of_ne (hs : s.Valid) (hroom : (s.push a).2.cells.size < 2 ^ 32)
    (hne : h ≠ (s.push a).1) : (s.push a).2.find h = s.find h := by
  obtain ⟨generation, position, hposition, hnew, hbefore, -, hcells⟩ := push_cases hs hroom
  refine find_congr fun position' hposition' => ?_
  unfold heldAt
  rw [hcells]
  by_cases hsame : position'.toNat = position.toNat
  · cases UInt32.toNat_inj.mp hsame
    have hgeneration : generation ≠ h.generation := by
      rintro rfl
      exact hne ((Slot.reads_iff.mp ⟨rfl, hposition'⟩).2.trans hnew.symm)
    rw [if_pos rfl]
    rcases hbefore with hvacant | ⟨hsize, -⟩
    · rw [hvacant]
      exact (if_neg hgeneration).trans (if_neg hgeneration).symm
    · rw [Array.getElem?_eq_none (by omega)]
      exact if_neg hgeneration
  · rw [if_neg hsame]

/-- No cell goes. -/
theorem size_remove {r : Option α} (hr : s.remove h = .ok (r, s')) :
    s'.cells.size = s.cells.size := by
  obtain ⟨-, -, rfl⟩ | ⟨n, a, -, -, rfl⟩ := remove_cases hr
  · rfl
  · exact Array.size_modify

/-! ### The handles that were issued -/

/-- How many of the handles name a position. -/
def tenancies (issued : List Slot) (position : UInt32) : Nat :=
  issued.countP fun h => h.position.toOption == some position

theorem tenancies_concat (h : Slot) : tenancies (issued ++ [h]) position =
    tenancies issued position + if h.position = .ok position then 1 else 0 := by
  have hdecides : (h.position.toOption == some position) = decide (h.position = .ok position) := by
    cases h.position with
    | error fault => rfl
    | ok position' => simp [Except.toOption, beq_eq_decide]
  rw [tenancies, List.countP_append, List.countP_singleton, hdecides]
  simp [tenancies]

theorem tenancies_le_concat (h : Slot) :
    tenancies issued position ≤ tenancies (issued ++ [h]) position := by
  rw [tenancies_concat]
  exact Nat.le_add_right ..

/-- The handles that were issued for the cells of a set, since it was empty.  A cell was vacated as
often as handles were issued for it, but for the present one. -/
structure Numbered (issued : List Slot) (s : SlotSet α) : Prop where
  valid : s.Valid
  room : s.cells.size < 2 ^ 32
  handles : ∀ h ∈ issued, ∃ position, h.position = .ok position ∧
    position.toNat < s.cells.size ∧ h.generation.toNat < tenancies issued position
  cells : ∀ (position : UInt32) cell, s.cells[position.toNat]? = some cell →
    (∃ vacated : Nat, cell.generation = vacated.toUInt32 ∧
      tenancies issued position = vacated + cell.value.isSome.toNat) ∧
    (cell.value.isSome → .new cell.generation position ∈ issued)

theorem numbered_empty : Numbered [] (empty : SlotSet α) where
  valid := valid_empty
  room := Nat.two_pow_pos 32
  handles := fun _ hh => absurd hh List.not_mem_nil
  cells := fun _ _ hcell => nomatch hcell

namespace Numbered

theorem of_layout (hs : s.Numbered issued) (hlayout : s'.layout = s.layout) :
    s'.Numbered issued where
  valid := (alike_of_layout hlayout).valid hs.valid
  room := size_of_layout hlayout ▸ hs.room
  handles := size_of_layout hlayout ▸ hs.handles
  cells := by
    intro position cell hcell
    obtain ⟨cell₀, hcell₀, hgeneration, hvalue⟩ := cell_of_layout hlayout hcell
    rw [← hgeneration, ← hvalue]
    exact hs.cells position cell₀ hcell₀

/-- The position of the next handle.  Its generation is the number of the handles that were issued
for it before. -/
theorem exists_next (hs : s.Numbered issued) (hroom : (s.push a).2.cells.size < 2 ^ 32) :
    ∃ position : UInt32, position.toNat < 2 ^ 32 - 1 ∧
      (s.push a).1 = .new (tenancies issued position).toUInt32 position ∧
      s.cells.size ≤ (s.push a).2.cells.size ∧
      ∀ n, (s.push a).2.cells[n]? = if n = position.toNat then
        some ⟨(tenancies issued position).toUInt32, some a⟩ else s.cells[n]? := by
  obtain ⟨generation, position, hposition, hnew, hbefore, hsize, hcells⟩ :=
    push_cases hs.valid hroom
  have hgeneration : generation = (tenancies issued position).toUInt32 := by
    rcases hbefore with hvacant | ⟨hlast, rfl⟩
    · obtain ⟨⟨vacated, hvacated, hcount⟩, -⟩ := hs.cells position _ hvacant
      rw [hcount]
      exact hvacated
    · -- No handle names a position past the end.
      have hnone : tenancies issued position = 0 := by
        refine List.countP_eq_zero.mpr fun h hh hnames => ?_
        obtain ⟨position', hposition', hlt, -⟩ := hs.handles h hh
        rw [hposition'] at hnames
        cases eq_of_beq hnames
        omega
      rw [hnone]
      rfl
  subst hgeneration
  exact ⟨position, hposition, hnew, hsize, hcells⟩

theorem push (hs : s.Numbered issued) (hroom : (s.push a).2.cells.size < 2 ^ 32) :
    (s.push a).2.Numbered (issued ++ [(s.push a).1]) := by
  obtain ⟨position, hposition, hnew, hsize, hcells⟩ := hs.exists_next hroom
  have hnames : Slot.position (.new (tenancies issued position).toUInt32 position) =
      .ok position := Slot.position_new hposition
  have hnext : tenancies (issued ++ [(s.push a).1]) position = tenancies issued position + 1 := by
    rw [tenancies_concat, hnew, if_pos hnames]
  have hlt : position.toNat < (s.push a).2.cells.size :=
    (Array.getElem?_eq_some_iff.mp ((hcells position.toNat).trans (if_pos rfl))).1
  exact {
    valid := hs.valid.push a
    room := hroom
    handles := by
      intro h hh
      rcases List.mem_append.mp hh with hh | hh
      · obtain ⟨position', hposition', hlt', hgeneration⟩ := hs.handles h hh
        exact ⟨position', hposition', hlt'.trans_le hsize,
          hgeneration.trans_le (tenancies_le_concat _)⟩
      · obtain rfl := List.mem_singleton.mp hh
        refine ⟨position, hnew ▸ hnames, hlt, ?_⟩
        rw [hnext, hnew, Slot.generation_new hposition]
        exact Nat.lt_succ_of_le (Nat.mod_le ..)
    cells := by
      intro position' cell hcell
      rw [hcells] at hcell
      split at hcell
      next hsame =>
        cases UInt32.toNat_inj.mp hsame
        cases hcell
        exact ⟨⟨_, rfl, hnext⟩, fun _ => List.mem_append_right _ (hnew ▸ List.mem_singleton_self _)⟩
      next hother =>
        have hne : ¬ (s.push a).1.position = .ok position' := by
          rw [hnew, hnames]
          rintro ⟨⟩
          exact hother rfl
        obtain ⟨hvacated, hissued⟩ := hs.cells position' cell hcell
        refine ⟨?_, fun hvalue => List.mem_append_left _ (hissued hvalue)⟩
        rwa [tenancies_concat, if_neg hne, Nat.add_zero] }

/-- **Handles are not issued again**, as long as no cell is taken into use more than 2³² times. -/
theorem fresh (hs : s.Numbered issued) (hroom : (s.push a).2.cells.size < 2 ^ 32)
    (hcount : ∀ position, tenancies (issued ++ [(s.push a).1]) position ≤ 2 ^ 32) :
    (s.push a).1 ∉ issued := by
  obtain ⟨position, hposition, hnew, -⟩ := hs.exists_next hroom
  have hnames : (s.push a).1.position = .ok position := hnew ▸ Slot.position_new hposition
  have hlt : tenancies issued position < 2 ^ 32 := by
    have hle := hcount position
    rw [tenancies_concat, if_pos hnames] at hle
    omega
  intro hissued
  obtain ⟨position', hposition', -, hgeneration⟩ := hs.handles _ hissued
  cases hnames.symm.trans hposition'
  -- The new handle has a generation that no handle of its cell had.
  rw [hnew, Slot.generation_new hposition, Nat.toUInt32, UInt32.toNat_ofNat_of_lt' hlt]
    at hgeneration
  exact Nat.lt_irrefl _ hgeneration

theorem remove {r : Option α} (hs : s.Numbered issued) (hr : s.remove h = .ok (r, s')) :
    s'.Numbered issued := by
  have hvalid := hs.valid.remove hr
  have hsize := size_remove hr
  obtain ⟨-, -, rfl⟩ | ⟨n, a, hl, -, rfl⟩ := remove_cases hr
  · exact hs
  · obtain ⟨_, cell, -, -, hcell, -, hvalue⟩ := locate_eq_some hl
    refine ⟨hvalid, hsize ▸ hs.room, hsize ▸ hs.handles, fun position cell' hcell' => ?_⟩
    rw [Array.getElem?_modify] at hcell'
    split at hcell'
    next hn =>
      subst hn
      rw [hcell] at hcell'
      cases hcell'
      obtain ⟨⟨vacated, hvacated, hcount⟩, -⟩ := hs.cells position cell hcell
      rw [hvalue] at hcount
      refine ⟨⟨vacated + 1, ?_, hcount⟩, fun h => Bool.noConfusion h⟩
      show cell.generation + 1 = _
      rw [hvacated]
      exact (UInt32.ofNat_add vacated 1).symm
    next => exact hs.cells position cell' hcell'

/-- A handle that finds something was issued. -/
theorem mem_of_find (hs : s.Numbered issued) (hf : s.find h = .ok (some a)) : h ∈ issued := by
  obtain ⟨position, cell, hcell, hvalue, rfl⟩ := exists_cell_of_find hf
  exact (hs.cells position cell hcell).2 (by rw [hvalue]; rfl)

end Numbered

end MaterialPipeline.SlotSet
