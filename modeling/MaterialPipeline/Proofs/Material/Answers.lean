import MaterialPipeline.Proofs.Material.Renderable

/-!
# Proofs — Material — Answers

What a library answers lasts.  Once it was asked for what to draw a reference with, it gives that
again, whatever it is asked for in between: a form that is built stays built, and a failure is
remembered.

* `Library.form?_setForm`: a form that is put in its place, and the other references.
* `Library.Gives`: what the library gives for a reference, by now without any effect.
* `Library.Gives.renderable`: asking for another reference does not change that.
-/

namespace MaterialPipeline

open MaterialPipeline.Action

variable {s s' : Session} {context : BuildContext}

namespace Library

variable {l l' : Library} {r r' : MaterialRef} {f f' g g' : Form} {place : FormPlace}
  {found given : Option (FormPlace × Form)} {built : Option BuiltMaterial}

/-- A form that is put in the place of another is found there, and no other reference finds anything
else. -/
theorem form?_setForm (hg : l.At (.own r') g) (hset : l.setForm (.own r') g' = .ok l')
    (r : MaterialRef) : l'.form? r = l.form? r ∨
      l.form? r = .ok (some g) ∧ l'.form? r = .ok (some g') := by
  obtain ⟨i, hi, hof⟩ := form?_eq_some hg
  rw [setForm_own hi, setInstance] at hset
  cases hm : l.instances.modify r'.id fun _ => i.setForm r'.hook g' with
  | error fault =>
      rw [hm] at hset
      cases hset
  | ok instances =>
      rw [hm] at hset
      cases hset
      unfold form? instance?
      rcases SlotSet.find_modify hi hm r.id with hfind | ⟨hfind, hfind'⟩
      · exact .inl (by rw [hfind])
      · rw [hfind, hfind']
        show Except.ok ((i.setForm r'.hook g').formOf r.hook) = .ok (i.formOf r.hook) ∨
          Except.ok (i.formOf r.hook) = .ok (some g) ∧
            Except.ok ((i.setForm r'.hook g').formOf r.hook) = .ok (some g')
        rw [Instance.formOf_setForm hof]
        by_cases hhook : r.hook = r'.hook
        · exact .inr ⟨congrArg _ (hhook ▸ hof), by rw [if_pos hhook]⟩
        · exact .inl (by rw [if_neg hhook])

/-- No other reference finds anything else. -/
theorem form?_setForm_of_ne (hg : l.At (.own r') g) (hset : l.setForm (.own r') g' = .ok l')
    (hne : r ≠ r') : l'.form? r = l.form? r := by
  obtain ⟨i, hi, hof⟩ := form?_eq_some hg
  rw [setForm_own hi, setInstance] at hset
  cases hm : l.instances.modify r'.id fun _ => i.setForm r'.hook g' with
  | error fault =>
      rw [hm] at hset
      cases hset
  | ok instances =>
      rw [hm] at hset
      cases hset
      unfold form? instance?
      obtain ⟨id, hook⟩ := r
      by_cases hid : id = r'.id
      · subst hid
        have hhook : hook ≠ r'.hook := fun h => hne (h ▸ rfl)
        have hi : l.instances.find r'.id = .ok (some i) := hi
        rw [SlotSet.find_of_modify hi hm, hi]
        show Except.ok ((i.setForm r'.hook g').formOf hook) = .ok (i.formOf hook)
        rw [Instance.formOf_setForm hof, if_neg hhook]
      · rw [SlotSet.find_modify_of_ne hm hid]

/-- A form that was tried stays where it is when another one is asked for. -/
theorem form?_of_ensureBuilt {kept : Option Form} (hform : l.form? r = .ok kept)
    (htried : ∀ f ∈ kept, f.Tried) (hg : l.At (.own r') g)
    (hensure : (g.ensureBuilt context).run s = .ok ((ready, g'), s'))
    (hset : l.setForm (.own r') g' = .ok l') : l'.form? r = .ok kept := by
  rcases form?_setForm hg hset r with hsame | ⟨hold, hnew⟩
  · rw [hsame, hform]
  · -- It is the form that was asked for, and asking did not change it.
    obtain rfl := Except.ok.inj (hform.symm.trans hold)
    have hagain := (htried g rfl).ensureBuilt context s
    cases hagain.symm.trans hensure
    exact hnew

/-- Asking for a reference leaves what was tried alone. -/
theorem tried_of_renderable (hrun : (l.renderable r').run s = .ok ((found, l'), s')) :
    (∀ kept, l.form? r = .ok kept → (∀ f ∈ kept, f.Tried) → l'.form? r = .ok kept) ∧
      (l.warning.Tried → l'.warning = l.warning) := by
  obtain ⟨-, -, rfl, -⟩ | ⟨f₁, f₂, hform, hensure, hset, -⟩ |
    ⟨f₁, f₂, s₁, l₁, ready, w, hform, hensure, hset, hwarning, rfl, -⟩ := renderable_cases hrun
  · exact ⟨fun _ h _ => h, fun _ => rfl⟩
  · exact ⟨fun _ h htried => form?_of_ensureBuilt h htried hform hensure hset,
      fun _ => warning_setForm hset⟩
  · refine ⟨fun _ h htried => ?_, fun htried => ?_⟩
    · have hkept : l₁.form? r = _ := form?_of_ensureBuilt h htried hform hensure hset
      exact hkept
    rw [← warning_setForm hset] at htried ⊢
    have hagain := htried.ensureBuilt l₁.context s₁
    cases hagain.symm.trans hwarning
    rfl

/-- A library that need not build anything to answer, need not after it was asked for something
else, and its answer is the same. -/
theorem Settled.renderable (h : l.Settled r given)
    (hrun : (l.renderable r').run s = .ok ((found, l'), s')) : l'.Settled r given := by
  obtain ⟨hkept, hwarnings⟩ := tried_of_renderable (r := r) hrun
  cases h with
  | missing hform => exact .missing (hkept _ hform fun f hf => absurd hf (Option.not_mem_none f))
  | own hform hbuilt =>
      exact .own (hkept _ hform fun f hf => Option.mem_some.mp hf ▸ .inl hbuilt) hbuilt
  | standIn hform hbuilt herror hwarning =>
      have hform' := hkept _ hform fun f hf => Option.mem_some.mp hf ▸ .inr ⟨hbuilt, herror⟩
      rw [← hwarnings hwarning]
      exact .standIn hform' hbuilt herror (hwarnings hwarning ▸ hwarning)

/-- What the library gives to draw a reference with.  It is at hand: asking for it changes nothing,
on the device or in the library. -/
def Gives (l : Library) (r : MaterialRef) (built : Option BuiltMaterial) : Prop :=
  ∃ found, found.bind (·.2.built) = built ∧
    ∀ s, (l.renderable r).run s = .ok ((found, l), s)

/-- After it was asked, the library gives its answer. -/
theorem gives_of_renderable (hrun : (l.renderable r).run s = .ok ((found, l'), s')) :
    l'.Gives r (found.bind (·.2.built)) :=
  ⟨found, rfl, renderable_again hrun⟩

/-- **Answers last.**  What the library gives for a reference, it gives after it was asked for
another one too. -/
theorem Gives.renderable (h : l.Gives r built)
    (hrun : (l.renderable r').run s = .ok ((found, l'), s')) : l'.Gives r built := by
  obtain ⟨given, rfl, hgiven⟩ := h
  exact ⟨given, rfl, ((settled_of_renderable (hgiven s)).renderable hrun).run⟩

end Library

end MaterialPipeline
