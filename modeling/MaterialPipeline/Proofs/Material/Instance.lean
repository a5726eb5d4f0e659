import MaterialPipeline.Material.Instance

/-!
# Proofs — Material — Instance

An instance and what hangs on it.  A hook is an instance as well, so instances are trees; what they
come to is found by induction over all hooks.

* `Hooks.get_put`, `Hooks.get_map`: the places.
* `Instance.induction`: what holds of an instance if it holds of its hooks holds of all instances.
* `Instance.fold_eq`, and by it `Instance.destruction_eq`, `Instance.reset_eq`: one layer of an instance.
* `Instance.formOf_setForm`: a form that is put in its place, and the other forms.
-/

namespace MaterialPipeline

/-! ### Places -/

namespace Hooks

variable {α β : Type}

theorem get_put (h : Hooks α) (v w : Variant) (a : Option α) :
    (h.put v a).get w = if w = v then a else h.get w := by
  cases v <;> cases w <;> rfl

theorem get_map (h : Hooks α) (f : α → β) (v : Variant) : (h.map f).get v = (h.get v).map f := by
  cases v <;> rfl

theorem get_empty (v : Variant) : (empty : Hooks α).get v = none := by
  cases v <;> rfl

theorem put_get (h : Hooks α) (v : Variant) : h.put v (h.get v) = h := by
  cases v <;> rfl

theorem mapM_eq {m : Type → Type} [Monad m] [LawfulMonad m] (g : α → m β) (h : Hooks α) :
    h.mapM g = (do
      let prePass ← h.prePass.mapM g
      let shadow ← h.shadow.mapM g
      let glow ← h.glow.mapM g
      return ⟨prePass, shadow, glow⟩) := by
  obtain ⟨prePass, shadow, glow⟩ := h
  cases prePass <;> cases shadow <;> cases glow <;> simp [mapM]

theorem mapM_map {m : Type → Type} [Monad m] (f : α → m β) (h : Hooks α) :
    (h.map f).mapM id = h.mapM f := by
  obtain ⟨prePass, shadow, glow⟩ := h
  cases prePass <;> cases shadow <;> cases glow <;> rfl

theorem flatMap_entries (f : α → List β) (h : Hooks α) :
    (h.entries.flatMap fun (_, a) => f a) =
      (h.prePass.map f).getD [] ++ (h.shadow.map f).getD [] ++ (h.glow.map f).getD [] := by
  obtain ⟨prePass, shadow, glow⟩ := h
  cases prePass <;> cases shadow <;> cases glow <;> simp [entries, get]

theorem flatMap_entries_map (f : α → List β) (h : Hooks α) :
    (h.map f).entries.flatMap (·.2) = h.entries.flatMap fun (_, a) => f a := by
  obtain ⟨prePass, shadow, glow⟩ := h
  cases prePass <;> cases shadow <;> cases glow <;> rfl

end Hooks

namespace Instance

variable {i j : Instance} {v w : Option Variant} {f : Form}

/-! ### Trees -/

/-- What holds of every instance of whose hooks it holds, holds of every instance. -/
theorem induction {P : Instance → Prop}
    (step : ∀ i, (∀ v j, i.hooks.get v = some j → P j) → P i) (i : Instance) : P i := by
  refine Instance.rec (motive_1 := P) (motive_2 := fun h => ∀ v j, h.get v = some j → P j)
    (motive_3 := fun x => ∀ j, x = some j → P j) (fun form hooks ih => step ⟨form, hooks⟩ ih)
    (fun prePass shadow glow hprePass hshadow hglow v => ?_) nofun
    (fun i hi j hj => Option.some.inj hj ▸ hi) i
  cases v with
  | prePass => exact hprePass
  | shadow => exact hshadow
  | glow => exact hglow

theorem foldHook_eq {α : Type} (g : Form → Hooks α → α) (x : Option Instance) :
    foldHook g x = x.map (fold g) := by
  cases x <;> rfl

/-- One layer. -/
theorem fold_eq {α : Type} (g : Form → Hooks α → α) (i : Instance) :
    i.fold g = g i.form (i.hooks.map (fold g)) := by
  obtain ⟨form, prePass, shadow, glow⟩ := i
  show g form ⟨foldHook g prePass, foldHook g shadow, foldHook g glow⟩ = _
  rw [foldHook_eq, foldHook_eq, foldHook_eq]
  rfl

theorem destruction_eq (i : Instance) :
    i.destruction = i.form.destruction ++ i.hooks.entries.flatMap fun (_, j) => j.destruction := by
  rw [destruction, fold_eq, Hooks.flatMap_entries_map]

theorem reset_eq (i : Instance) : i.reset = (do
    let form ← i.form.reset
    let hooks ← i.hooks.mapM reset
    return { form := form, hooks := hooks }) := by
  rw [reset, fold_eq]
  simp only [Hooks.mapM_map]

/-! ### Forms -/

theorem formOf_setForm (hf : i.formOf v = some f) (w : Option Variant) (f' : Form) :
    (i.setForm v f').formOf w = if w = v then some f' else i.formOf w := by
  cases v with
  | none => cases w <;> rfl
  | some v =>
      cases w with
      | none => rfl
      | some w =>
          obtain ⟨j, hj, -⟩ := Option.map_eq_some_iff.mp hf
          have hj : i.hooks.get v = some j := hj
          show ((i.hooks.put v _).get w).map _ = _
          rw [Hooks.get_put, hj]
          simp only [Option.some.injEq]
          split <;> rfl

theorem eta (i : Instance) : ⟨i.form, i.hooks⟩ = i := by
  cases i
  rfl

/-- A form that is put where it is. -/
theorem setForm_self (hf : i.formOf v = some f) : i.setForm v f = i := by
  cases v with
  | none =>
      cases hf
      exact i.eta
  | some v =>
      obtain ⟨j, hj, rfl⟩ := Option.map_eq_some_iff.mp hf
      have hj : i.hooks.get v = some j := hj
      rw [setForm, hj, Option.map_some, eta, ← hj, Hooks.put_get, eta]

end Instance

end MaterialPipeline
