/-!
# Feature — Order

Lists that ascend strictly by a key.  A key is a list of whole numbers, and keys are ordered word by
word.

* `place` — puts an element where its key belongs.
* `mem_place`, `Ascending.place`, `Ascending.filter` — what placing and filtering keep.
-/

namespace MaterialPipeline

variable {α : Type}

/-- Puts `a` before the first element with a greater key. -/
def place (key : α → List Int) (a : α) : List α → List α
  | [] => [a]
  | b :: rest => if key a < key b then a :: b :: rest else b :: place key a rest

theorem mem_place {key : α → List Int} {a x : α} {l : List α} :
    x ∈ place key a l ↔ x = a ∨ x ∈ l := by
  induction l with
  | nil => simp [place]
  | cons b rest ih =>
    by_cases h : key a < key b
    · simp [place, h]
    · simp [place, h, ih, or_left_comm]

/-- The keys ascend strictly. -/
def Ascending (key : α → List Int) (l : List α) : Prop :=
  l.Pairwise fun a b => key a < key b

theorem Ascending.filter {key : α → List Int} {l : List α} (h : Ascending key l) (p : α → Bool) :
    Ascending key (l.filter p) :=
  List.Pairwise.filter p h

theorem lt_of_not_lt_of_ne {a b : List Int} (h : ¬ a < b) (hne : a ≠ b) : b < a := by
  by_cases h' : b < a
  · exact h'
  · exact absurd (List.le_antisymm (List.not_lt.1 h') (List.not_lt.1 h)) hne

/-- Placing an element with a key of its own keeps the keys ascending. -/
theorem Ascending.place {key : α → List Int} {a : α} {l : List α} (h : Ascending key l)
    (fresh : ∀ b ∈ l, key a ≠ key b) : Ascending key (place key a l) := by
  induction l with
  | nil => simp [MaterialPipeline.place, Ascending]
  | cons b rest ih =>
    obtain ⟨first, others⟩ := List.pairwise_cons.1 h
    by_cases hlt : key a < key b
    · simp only [MaterialPipeline.place, hlt, if_true]
      refine List.pairwise_cons.2 ⟨?_, h⟩
      intro x hx
      rcases List.mem_cons.1 hx with rfl | hx
      · exact hlt
      · exact List.lt_trans hlt (first x hx)
    · simp only [MaterialPipeline.place, hlt, if_false]
      refine List.pairwise_cons.2 ⟨?_, ih others fun x hx => fresh x (List.mem_cons_of_mem b hx)⟩
      intro x hx
      rcases mem_place.1 hx with rfl | hx
      · exact lt_of_not_lt_of_ne hlt (fresh b List.mem_cons_self)
      · exact first x hx

/-- A symmetric relation holds throughout a list that an element was placed in, if it holds
throughout the list and between the element and the list. -/
theorem pairwise_place {key : α → List Int} {r : α → α → Prop} {a : α} {l : List α}
    (symm : ∀ x y, r x y → r y x) (h : l.Pairwise r) (fresh : ∀ b ∈ l, r a b) :
    (place key a l).Pairwise r := by
  induction l with
  | nil => simp [place]
  | cons b rest ih =>
    obtain ⟨first, others⟩ := List.pairwise_cons.1 h
    by_cases hlt : key a < key b
    · simp only [place, hlt, if_true]
      exact List.pairwise_cons.2 ⟨fresh, h⟩
    · simp only [place, hlt, if_false]
      refine List.pairwise_cons.2 ⟨?_, ih others fun x hx => fresh x (List.mem_cons_of_mem b hx)⟩
      intro x hx
      rcases mem_place.1 hx with rfl | hx
      · exact symm _ _ (fresh b List.mem_cons_self)
      · exact first x hx

end MaterialPipeline
