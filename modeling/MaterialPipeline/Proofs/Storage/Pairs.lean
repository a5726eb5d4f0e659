import Mathlib.Data.Prod.Lex
import Mathlib.Data.Set.Function
import MaterialPipeline.Proofs.Storage.Slots

/-!
# Proofs — Storage — Pairs

A handle as a pair of a generation and a position.  The two share a word, in which the position stands
with one added.  For all positions but the last the sum fits its half: the word is then a number of two
digits, so that handles are read back, told apart and compared digit by digit.

* `Slot.word_new_ne_zero`: packing never gives a word of zero.
* `Slot.new_last`: at the last position the sum is carried into the generation.
* `Slot.le_iff_of_position`: words go by the lexicographic order of the pairs.
* `SlotSet.bijOn_live`: the handles that find an element are those of the pairs that hold one.
* **`SlotSet.packs_pairs`**: a handle is as good as its pair, by itself and in slot sets.
-/

namespace MaterialPipeline

namespace Slot

variable {h h' : Slot} {generation position position' : UInt32} {x y : UInt32 × UInt32}

/-! ### Words -/

/-- Whatever is packed, the word is not zero. -/
theorem word_new_ne_zero (generation position : UInt32) : (new generation position).word ≠ 0 := by
  rw [Ne, ← UInt64.toNat_inj, toNat_word_new_eq_or]
  exact fun hzero => Nat.succ_ne_zero _ (Nat.or_eq_zero_iff.mp hzero).2

/-- The last position leaves its half of the word empty and the generation odd. -/
theorem new_last (generation : UInt32) (hlast : position.toNat = 2 ^ 32 - 1) :
    (new generation position).generation = generation ||| 1 ∧
      (new generation position).position = .error .subtractOverflow := by
  have hword : (new generation position).word.toNat = (generation ||| 1).toNat * 2 ^ 32 := by
    rw [toNat_word_new_eq_or, hlast, UInt32.toNat_or, ← Nat.shiftLeft_eq, Nat.shiftLeft_or_distrib]
    rfl
  have hlow : (new generation position).word.toUInt32 = 0 := by
    rw [← UInt32.toNat_inj, UInt64.toNat_toUInt32, hword]
    exact Nat.mul_mod_left ..
  refine ⟨?_, by rw [Slot.position, if_pos hlow]⟩
  rw [← UInt32.toNat_inj, toNat_generation, hword, Nat.mul_div_cancel _ (Nat.two_pow_pos 32)]

example : new 0 4294967295 = new 1 4294967295 := by decide

theorem le_iff_of_position (hp : h.position = .ok position) (hp' : h'.position = .ok position') :
    h.le h' = true ↔ toLex (h.generation, position) ≤ toLex (h'.generation, position') := by
  obtain ⟨hbound, hword⟩ := toNat_word_of_position hp
  obtain ⟨hbound', hword'⟩ := toNat_word_of_position hp'
  rw [Slot.le, decide_eq_true_iff, UInt64.le_iff_toNat_le, hword, hword', Prod.Lex.toLex_le_toLex]
  simp only [UInt32.lt_iff_toNat_lt, UInt32.le_iff_toNat_le, ← UInt32.toNat_inj]
  omega

/-! ### Pairs -/

/-- The pairs of a generation and a position that is not the last. -/
def pairs : Set (UInt32 × UInt32) :=
  {x | x.2.toNat < 2 ^ 32 - 1}

/-- The handle of a pair. -/
def ofPair (x : UInt32 × UInt32) : Slot :=
  new x.1 x.2

/-- There is one handle for each pair, and the others name no position. -/
theorem bijOn_ofPair : Set.BijOn ofPair pairs {h | ∃ position, h.position = .ok position} := by
  refine ⟨fun x hx => ⟨x.2, position_new hx⟩, fun x hx y hy hsame => ?_, ?_⟩
  · obtain ⟨hgeneration, hposition⟩ := reads_iff.mpr ⟨hy, hsame⟩
    refine Prod.ext ((generation_new hx).symm.trans hgeneration) ?_
    exact Except.ok.inj ((position_new hx).symm.trans hposition)
  · rintro h ⟨position, hposition⟩
    obtain ⟨hbound, hnew⟩ := reads_iff.mp ⟨rfl, hposition⟩
    exact ⟨(h.generation, position), hbound, hnew.symm⟩

/-- What the handle of one pair tells of it, and how it compares with that of another. -/
structure Packs (x y : UInt32 × UInt32) : Prop where
  word_ne_zero : (ofPair x).word ≠ 0
  generation : (ofPair x).generation = x.1
  /-- The lower half is not zero, so that one can be taken off it. -/
  position : (ofPair x).position = .ok x.2
  eq_iff : ofPair x = ofPair y ↔ x = y
  /-- Handles go by their generations, and within a generation by their positions. -/
  le_iff : (ofPair x).le (ofPair y) = true ↔ toLex x ≤ toLex y

theorem packs_of_mem (hx : x ∈ pairs) (hy : y ∈ pairs) : Packs x y where
  word_ne_zero := word_new_ne_zero x.1 x.2
  generation := generation_new hx
  position := position_new hx
  eq_iff := bijOn_ofPair.injOn.eq_iff hx hy
  le_iff := by
    rw [ofPair, ofPair, le_iff_of_position (position_new hx) (position_new hy), generation_new hx,
      generation_new hy]

end Slot

namespace SlotSet

open Slot (pairs ofPair)

variable {α : Type} {x y : UInt32 × UInt32}

/-! ### Pairs in slot sets -/

/-- The pairs of a generation and a position at which there is an element. -/
def livePairs (s : SlotSet α) : Set (UInt32 × UInt32) :=
  {x | ∃ a, s.heldAt x.2 x.1 = some a}

/-- The handles that find an element. -/
def liveHandles (s : SlotSet α) : Set Slot :=
  {h | ∃ a, s.find h = .ok (some a)}

theorem bijOn_live (s : SlotSet α) : Set.BijOn ofPair (s.livePairs ∩ pairs) s.liveHandles := by
  refine ⟨?_, Slot.bijOn_ofPair.injOn.mono Set.inter_subset_right, ?_⟩
  · rintro x ⟨⟨a, ha⟩, hx⟩
    refine ⟨a, ?_⟩
    rw [ofPair, find_of_position (Slot.position_new hx), Slot.generation_new hx, ha]
  · rintro h ⟨a, hfind⟩
    obtain ⟨n, hlocate⟩ := locate_of_find hfind
    obtain ⟨position, -, hposition, -⟩ := locate_eq_some hlocate
    obtain ⟨hbound, hnew⟩ := Slot.reads_iff.mp ⟨rfl, hposition⟩
    rw [find_of_position hposition] at hfind
    exact ⟨(h.generation, position), ⟨⟨a, Except.ok.inj hfind⟩, hbound⟩, hnew.symm⟩

/-- **A handle is as good as its pair**, unless it is of the last position.  No two pairs that hold
elements share a handle, be it in one set, in two, or in a set at two times. -/
theorem packs_pairs (hx : x ∈ pairs) (hy : y ∈ pairs) (s s' : SlotSet α) :
    Slot.Packs x y ∧
      Set.BijOn ofPair ((s.livePairs ∪ s'.livePairs) ∩ pairs) (s.liveHandles ∪ s'.liveHandles) := by
  refine ⟨Slot.packs_of_mem hx hy, ?_⟩
  rw [Set.union_inter_distrib_right]
  refine (bijOn_live s).union (bijOn_live s') (Slot.bijOn_ofPair.injOn.mono ?_)
  exact Set.union_subset Set.inter_subset_right Set.inter_subset_right

/-- The greatest pair of one generation against the least of the next, and a cell before and after it
is used again. -/
theorem packs_pairs_of_reuse :
    let before := ((empty : SlotSet Nat).push 10).2
    ∃ vacated, before.remove (ofPair (0, 0)) = .ok (some 10, vacated) ∧
      (0, 4294967294) ∈ pairs ∧ (1, 0) ∈ pairs ∧
      (ofPair (0, 4294967294)).position = .ok 4294967294 ∧
      (ofPair (0, 4294967294)).le (ofPair (1, 0)) = true ∧
      (0, 0) ∈ before.livePairs ∧ (1, 0) ∈ (vacated.push 30).2.livePairs ∧
      ofPair (0, 0) ≠ ofPair (1, 0) := by
  intro before
  obtain ⟨vacated, hremove⟩ : ∃ vacated, before.remove (ofPair (0, 0)) = .ok (some 10, vacated) :=
    ⟨_, rfl⟩
  have hx : (0, 4294967294) ∈ pairs := show UInt32.toNat 4294967294 < _ by decide
  have hy : (1, 0) ∈ pairs := show UInt32.toNat 0 < _ by decide
  have hzero : (0, 0) ∈ pairs := show UInt32.toNat 0 < _ by decide
  have hbefore : (0, 0) ∈ before.livePairs := ⟨10, rfl⟩
  have hafter : (1, 0) ∈ (vacated.push 30).2.livePairs := by
    cases hremove
    exact ⟨30, rfl⟩
  obtain ⟨hpacks, hbij⟩ := packs_pairs hx hy before (vacated.push 30).2
  refine ⟨vacated, hremove, hx, hy, hpacks.position, hpacks.le_iff.mpr ?_, hbefore, hafter, ?_⟩
  · exact Prod.Lex.toLex_le_toLex.mpr (.inl (by decide))
  · exact hbij.injOn.ne ⟨.inl hbefore, hzero⟩ ⟨.inr hafter, hy⟩ (by decide)

end SlotSet

end MaterialPipeline
