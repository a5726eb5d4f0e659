import MaterialPipeline.Feature.Generator

/-!
# Proofs — Feature — Numbered

Names with the number of a stage.  A base without digits and its number can be read off the name
(`indexedName_inj`), so two stages never share a name, and no two bases do.
-/

namespace MaterialPipeline.Scope

/-- A text without digits, which may be numbered. -/
def Plain (base : String) : Prop :=
  base.toList.all (fun c => !c.isDigit) = true

instance (base : String) : Decidable (Plain base) :=
  inferInstanceAs (Decidable (_ = true))

theorem Plain.isDigit_eq_false {base : String} (h : Plain base) {c : Char} (hc : c ∈ base.toList) :
    c.isDigit = false := by
  simpa using List.all_eq_true.mp h c hc

/-- The digits at the end of a numbered name. -/
def digits : Option Nat → List Char
  | some n => Nat.toDigits 10 n
  | none => []

theorem toList_indexedName (number : Option Nat) (base : String) :
    (indexedName number base).toList = base.toList ++ digits number := by
  cases number with
  | none => rw [indexedName, digits, List.append_nil]
  | some n =>
      have e : indexedName (some n) base = base ++ n.repr := rfl
      rw [e, String.toList_append, Nat.toList_repr, digits]

theorem isDigit_of_mem_digits {number : Option Nat} {c : Char} (h : c ∈ digits number) :
    c.isDigit = true := by
  cases number with
  | none => cases h
  | some n => exact Nat.isDigit_of_mem_toDigits (by decide) (by decide) h

theorem digits_injective {m n : Option Nat} (h : digits m = digits n) : m = n := by
  cases m with
  | none =>
      cases n with
      | none => rfl
      | some n => exact absurd h.symm Nat.toDigits_ne_nil
  | some m =>
      cases n with
      | none => exact absurd h Nat.toDigits_ne_nil
      | some n =>
          have hvalue := congrArg (Nat.ofDigitChars 10 · 0) h
          simp only [digits, Nat.ofDigitChars_ten_toDigits] at hvalue
          rw [hvalue]

/-- The base and the number can be read off a numbered name. -/
theorem indexedName_inj {a b : String} {m n : Option Nat} (ha : Plain a) (hb : Plain b)
    (h : indexedName m a = indexedName n b) : a = b ∧ m = n := by
  have hchars : a.toList ++ digits m = b.toList ++ digits n := by
    rw [← toList_indexedName, ← toList_indexedName, h]
  -- The base has no digits and the number nothing else, so the digits tell where it begins.
  have hbase {base : String} (hbase : Plain base) (number : Option Nat) :
      (base.toList ++ digits number).filter (·.isDigit) = digits number := by
    have hnone : base.toList.filter (·.isDigit) = [] :=
      List.filter_eq_nil_iff.mpr fun c hc => by simp [hbase.isDigit_eq_false hc]
    rw [List.filter_append, hnone, List.nil_append,
      List.filter_eq_self.mpr fun c hc => isDigit_of_mem_digits hc]
  have hnumber : digits m = digits n := by
    rw [← hbase ha m, hchars, hbase hb n]
  rw [hnumber] at hchars
  exact ⟨String.toList_injective (List.append_cancel_right hchars), digits_injective hnumber⟩

end MaterialPipeline.Scope
