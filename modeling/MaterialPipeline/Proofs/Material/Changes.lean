import MaterialPipeline.Proofs.Material.Resets

/-!
# Proofs — Material — Changes

What an operation on an instance does to its forms.  An operation *tears* some of them *down*: it
resets them, takes them off, or hangs fresh ones in their place.  It *uses* some.  The others stay
as they are.

* `Form.Change`: one form, before and after.
* `Instance.Bare`, `Instance.Shaped`: what hangs on an instance is marked, and nothing hangs on that.
* `Instance.Becomes`: an instance that stays, and its forms.
* `Instance.Change`: one instance, before and after; it may arrive, or leave.
* `Instance.InForce`: every form stands for what its place says, and is in force.
-/

namespace MaterialPipeline

open MaterialPipeline.Action

variable {s s' : Session} {context : BuildContext}

/-! ### One form -/

/-- What becomes of a form in its place, by an operation that may tear it down, or use it.  A form
that is hung in its place is `fresh`. -/
inductive Form.Change (context : BuildContext) (tears uses : Prop) (fresh : Form) :
    Option Form → Option Form → Prop where
  | same (x : Option Form) : Change context tears uses fresh x x
  | used {f f' : Form} (h : uses) (hused : f.Used context f') :
      Change context tears uses fresh (some f) (some f')
  | reset {f : Form} (h : tears) : Change context tears uses fresh (some f) (some f.blank)
  | gone {x : Option Form} (h : tears) : Change context tears uses fresh x none
  | hung {x : Option Form} (h : tears) : Change context tears uses fresh x (some fresh)

namespace Form.Change

variable {tears uses : Prop} {fresh f f' : Form} {x x' x'' : Option Form}

/-- Uses come one after another. -/
theorem trans (htears : ¬ tears) (h : Change context tears uses fresh x x')
    (h' : Change context tears uses fresh x' x'') : Change context tears uses fresh x x'' := by
  cases h with
  | same => exact h'
  | reset ht => exact absurd ht htears
  | gone ht => exact absurd ht htears
  | hung ht => exact absurd ht htears
  | used hu hused =>
      cases h' with
      | same => exact .used hu hused
      | used _ hused' => exact .used hu (hused.trans hused')
      | reset ht => exact absurd ht htears
      | gone ht => exact absurd ht htears
      | hung ht => exact absurd ht htears

/-- A form that was tried stays so, unless it is torn down. -/
theorem tried (htears : ¬ tears) (h : Change context tears uses fresh (some f) x')
    (hf : f.Tried) : ∃ f', x' = some f' ∧ f'.Tried := by
  cases h with
  | same => exact ⟨f, rfl, hf⟩
  | used _ hused => exact ⟨_, rfl, hf.used hused⟩
  | reset ht => exact absurd ht htears
  | gone ht => exact absurd ht htears
  | hung ht => exact absurd ht htears

/-- A form that is not used stays, or is fresh now. -/
theorem of_not_uses (huses : ¬ uses) (h : Change context tears uses fresh x (some f')) :
    x = some f' ∨ (∃ f, x = some f ∧ f' = f.blank) ∨ f' = fresh := by
  cases h with
  | same => exact .inl rfl
  | used hu _ => exact absurd hu huses
  | reset _ => exact .inr (.inl ⟨_, rfl, rfl⟩)
  | hung _ => exact .inr (.inr rfl)

/-- What stands for the same as the fresh form, and is in force, does and is so afterwards. -/
theorem inForce (hfresh : fresh.Fresh) (h : Change context tears uses fresh x x')
    (hx : ∀ f ∈ x, f.subject = fresh.subject ∧ f.Current context) :
    ∀ f ∈ x', f.subject = fresh.subject ∧ f.Current context := by
  intro f' hf'
  cases h with
  | same => exact hx f' hf'
  | used _ hused =>
      obtain rfl := Option.mem_some.mp hf'
      obtain ⟨hsubject, hcurrent⟩ := hx _ rfl
      exact ⟨hused.subject_eq.trans hsubject, hcurrent.used hused⟩
  | reset _ =>
      obtain rfl := Option.mem_some.mp hf'
      exact ⟨(hx _ rfl).1, (fresh_blank _).current context⟩
  | gone _ => cases hf'
  | hung _ =>
      obtain rfl := Option.mem_some.mp hf'
      exact ⟨rfl, hfresh.current context⟩

end Form.Change

/-! ### Marks -/

namespace Instance

variable {i j : Instance} {config : Config}

/-- The instance is marked as a hook, and nothing hangs on it. -/
structure Bare (j : Instance) : Prop where
  mark : j.form.isHook = true
  hooks : j.hooks = .empty

namespace Bare

theorem newHook (i : Instance) (v : Variant) : (i.newHook v).Bare :=
  ⟨rfl, rfl⟩

theorem blank (h : j.Bare) : j.blank.Bare where
  mark := j.form_blank ▸ h.mark
  hooks := by
    rw [hooks_blank, h.hooks]
    rfl

/-- Nothing can be hung on the instance. -/
theorem added (h : j.Bare) (v : Variant) : j.added v = (.error .hookOnHook, j) :=
  if_pos h.mark

theorem put_none (h : j.Bare) (v : Variant) : j.hooks.put v none = .empty := by
  rw [h.hooks]
  cases v <;> rfl

end Bare

/-- The instance is no hook, and nothing hangs on what hangs on it. -/
structure Shaped (i : Instance) : Prop where
  mark : i.form.isHook = false
  bare : ∀ v j, i.hooks.get v = some j → j.Bare

namespace Shaped

theorem put {v : Variant} {x : Option Instance} (h : i.Shaped) (hx : ∀ j ∈ x, j.Bare) :
    Shaped { i with hooks := i.hooks.put v x } where
  mark := h.mark
  bare w j hj := by
    have hj : (i.hooks.put v x).get w = some j := hj
    rw [Hooks.get_put] at hj
    split at hj
    · exact hx j hj
    · exact h.bare w j hj

theorem blank (h : i.Shaped) : i.blank.Shaped where
  mark := i.form_blank ▸ h.mark
  bare v j hj := by
    rw [hooks_blank, Hooks.get_map] at hj
    obtain ⟨j, hget, rfl⟩ := Option.map_eq_some_iff.mp hj
    exact (h.bare v j hget).blank

/-- What an instance of this shape wants: the hook that is there, or a fresh one. -/
theorem wanted_eq (h : i.Shaped) (config : Config) (v : Variant) : i.wanted config v =
    if wants config i.material v then some ((i.hooks.get v).getD (i.newHook v)) else none := by
  rw [wanted, h.mark, if_neg Bool.false_ne_true]
  cases i.hooks.get v <;> rfl

theorem attached (h : i.Shaped) (config : Config) : (i.attached config).Shaped where
  mark := h.mark
  bare v j hj := by
    rw [get_attached, h.wanted_eq] at hj
    split at hj
    · cases hget : i.hooks.get v with
      | none =>
          rw [hget] at hj
          exact Option.some.inj hj ▸ .newHook i v
      | some _ =>
          rw [hget] at hj
          exact Option.some.inj hj ▸ h.bare v _ hget
    · cases hj

theorem new (m : Material) (format : VertexFormat) : (Instance.new m format).Shaped where
  mark := rfl
  bare v j hj := by
    rw [show (Instance.new m format).hooks.get v = none from Hooks.get_empty v] at hj
    cases hj

end Shaped

end Instance

/-! ### One instance -/

namespace Instance

variable {tears uses : Option Variant → Prop} {i i' i'' j j' : Instance} {v w : Option Variant}
  {f f' : Form} {x x' x'' : Option Instance}

/-- The instance stays what it is, each of its forms changes, or not, and no shape is lost. -/
structure Becomes (context : BuildContext) (tears uses : Option Variant → Prop)
    (i i' : Instance) : Prop where
  subject : i'.form.subject = i.form.subject
  forms : ∀ v, Form.Change context (tears v) (uses v) (i.freshForm v) (i.formOf v) (i'.formOf v)
  shaped : i.Shaped → i'.Shaped

theorem freshForm_eq (h : i'.form.subject = i.form.subject) (v : Option Variant) :
    i'.freshForm v = i.freshForm v := by
  injection h with hm h
  injection h with hformat _
  rw [freshForm, freshForm, hm, hformat]

namespace Becomes

theorem refl (i : Instance) : Becomes context tears uses i i :=
  ⟨rfl, fun _ => .same _, id⟩

theorem trans (htears : ∀ v, ¬ tears v) (h : Becomes context tears uses i i')
    (h' : Becomes context tears uses i' i'') : Becomes context tears uses i i'' where
  subject := h'.subject.trans h.subject
  forms v := (h.forms v).trans (htears v) (freshForm_eq h.subject v ▸ h'.forms v)
  shaped := h'.shaped ∘ h.shaped

/-- What hangs in one place changes. -/
theorem put {v : Variant} {x : Option Instance}
    (hx : Form.Change context (tears (some v)) (uses (some v)) (i.freshForm (some v))
      (i.formOf (some v)) (x.map (·.form)))
    (hbare : (∀ j, i.hooks.get v = some j → j.Bare) → ∀ j ∈ x, j.Bare) :
    Becomes context tears uses i { i with hooks := i.hooks.put v x } where
  subject := rfl
  forms w := by
    cases w with
    | none => exact .same _
    | some w =>
        show Form.Change context _ _ _ _ (((i.hooks.put v x).get w).map _)
        rw [Hooks.get_put]
        split
        next hw =>
          subst hw
          exact hx
        next => exact .same _
  shaped h := h.put (hbare (h.bare v))

/-- A hook is put in the place of another. -/
theorem replace {v : Variant} (hj : i.hooks.get v = some j)
    (hform : ∀ fresh, Form.Change context (tears (some v)) (uses (some v)) fresh (some j.form)
      (some j'.form))
    (hbare : j.Bare → j'.Bare) : Becomes context tears uses i (i.replace (some v) j') := by
  rw [Instance.replace, hj]
  refine .put ?_ fun h => ?_
  · rw [show i.formOf (some v) = some j.form from congrArg (Option.map _) hj]
    exact hform _
  · rintro _ ⟨⟩
    exact hbare (h j hj)

/-- One form is put in the place of another. -/
theorem setForm (hf : i.formOf v = some f) (hused : f.Used context f') (huses : uses v) :
    Becomes context tears uses i (i.setForm v f') := by
  cases v with
  | none =>
      cases hf
      refine ⟨hused.subject_eq, fun w => ?_, fun h => ⟨hused.isHook_eq.trans h.mark, h.bare⟩⟩
      cases w with
      | none => exact .used huses hused
      | some w => exact .same _
  | some v =>
      obtain ⟨j, hj, rfl⟩ := Option.map_eq_some_iff.mp hf
      have hj : i.hooks.get v = some j := hj
      have hset : i.setForm (some v) f' = i.replace (some v) { j with form := f' } := by
        rw [Instance.setForm, Instance.replace, hj]
        rfl
      rw [hset]
      exact .replace hj (fun _ => .used huses hused) fun h => ⟨hused.isHook_eq.trans h.mark, h.hooks⟩

/-- Every form is torn down. -/
theorem blank (htears : ∀ v, tears v) : Becomes context tears uses i i.blank where
  subject := by
    rw [form_blank]
    rfl
  forms v := by
    rw [formOf_blank]
    cases i.formOf v with
    | none => exact .same _
    | some f => exact .reset (htears v)
  shaped := .blank

/-- Every form is torn down, and the hooks are those that are wanted. -/
theorem attached_blank (config : Config) (htears : ∀ v, tears v) :
    Becomes context tears uses i (i.attached config).blank where
  subject := by
    rw [form_blank]
    rfl
  forms v := by
    rw [formOf_blank]
    cases v with
    | none => exact .reset (htears none)
    | some v =>
        show Form.Change context _ _ _ ((i.hooks.get v).map _)
          ((((i.attached config).hooks.get v).map _).map _)
        rw [get_attached, wanted]
        split
        · cases i.hooks.get v with
          | some j => exact .reset (htears (some v))
          | none =>
              rw [Option.none_or]
              split
              · exact .gone (htears (some v))
              · exact .hung (htears (some v))
        · exact .gone (htears (some v))
  shaped h := (h.attached config).blank

theorem addHook {v : Variant} {result : Except MaterialError Unit} (htears : tears (some v))
    (hrun : (i.addHook v).run s = .ok ((result, i'), s')) : Becomes context tears uses i i' := by
  have hadded := (i.yields_addHook v).eq hrun
  unfold added at hadded
  split at hadded
  · cases hadded
    exact .refl i
  · cases hadded
    exact .put (.hung htears) fun _ j hj => Option.mem_some.mp hj ▸ .newHook i v

theorem removeHook {v : Variant} (htears : tears (some v))
    (hrun : (i.removeHook v).run s = .ok (i', s')) : Becomes context tears uses i i' := by
  obtain rfl := (i.yields_removeHook v).eq hrun
  exact .put (.gone htears) fun _ j hj => absurd hj (Option.not_mem_none j)

theorem clearHooks (htears : ∀ v, tears (some v))
    (hrun : i.clearHooks.run s = .ok (i', s')) : Becomes context tears uses i i' := by
  obtain rfl := i.yields_clearHooks.eq hrun
  refine ⟨rfl, fun v => ?_, fun h => ⟨h.mark, fun v j hj => ?_⟩⟩
  · cases v with
    | none => exact .same _
    | some v =>
        show Form.Change context _ _ _ _ ((Hooks.empty.get v).map _)
        rw [Hooks.get_empty]
        exact .gone (htears v)
  · rw [Hooks.get_empty] at hj
    cases hj

theorem buildHooks {variants : List Variant} {result : Except MaterialError Unit}
    (htears : ∀ v, ¬ tears v) (huses : ∀ v, uses v)
    (hrun : (Library.buildHooks context i variants).run s = .ok ((result, i'), s')) :
    Becomes context tears uses i i' := by
  induction variants generalizing i s with
  | nil =>
      cases hrun
      exact .refl _
  | cons v rest ih =>
      rw [Library.buildHooks] at hrun
      cases hget : i.hooks.get v with
      | none =>
          rw [hget] at hrun
          exact ih hrun
      | some j =>
          rw [hget] at hrun
          obtain ⟨⟨answer, f'⟩, s₁, hbuild, hrun⟩ := of_run_bind hrun
          have hf : i.formOf (some v) = some j.form := congrArg (Option.map _) hget
          have hone : Becomes context tears uses i (i.setForm (some v) f') :=
            .setForm hf (.build hbuild) (huses _)
          cases answer with
          | ok _ => exact hone.trans htears (ih hrun)
          | error error =>
              cases hrun
              exact hone

end Becomes

/-- What becomes of what a handle names, by an operation. -/
inductive Change (context : BuildContext) (tears uses : Option Variant → Prop) :
    Option Instance → Option Instance → Prop where
  | same (x : Option Instance) : Change context tears uses x x
  | arrives {i : Instance} (h : ∀ v, ∀ f ∈ i.formOf v, f = i.freshForm v) (hshaped : i.Shaped) :
      Change context tears uses none (some i)
  | leaves {i : Instance} (h : ∀ v, tears v) : Change context tears uses (some i) none
  | becomes {i i' : Instance} (h : Becomes context tears uses i i') :
      Change context tears uses (some i) (some i')

/-- An instance that is taken into use is fresh. -/
theorem fresh_attached_new (config : Config) (m : Material) (format : VertexFormat)
    (v : Option Variant) :
    ∀ f ∈ ((new m format).attached config).formOf v,
      f = ((new m format).attached config).freshForm v := by
  intro f hf
  cases v with
  | none => exact (Option.mem_some.mp hf).symm
  | some v =>
      have hf : f ∈ (((new m format).attached config).hooks.get v).map _ := hf
      rw [get_attached, (Shaped.new m format).wanted_eq,
        show (new m format).hooks.get v = none from Hooks.get_empty v] at hf
      split at hf
      · exact (Option.mem_some.mp hf).symm
      · cases hf

/-- Every form of the instance stands for the material of the instance, in its place, and is in
force. -/
def InForce (context : BuildContext) (i : Instance) : Prop :=
  ∀ v, ∀ f ∈ i.formOf v, f.subject = (i.freshForm v).subject ∧ f.Current context

theorem fresh_freshForm (i : Instance) (v : Option Variant) : (i.freshForm v).Fresh :=
  ⟨rfl, rfl⟩

theorem InForce.becomes (hi : i.InForce context) (h : Becomes context tears uses i i') :
    i'.InForce context := by
  intro v
  rw [freshForm_eq h.subject]
  exact (h.forms v).inForce (i.fresh_freshForm v) (hi v)

end Instance

end MaterialPipeline
