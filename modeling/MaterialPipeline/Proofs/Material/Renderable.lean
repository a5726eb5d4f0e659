import MaterialPipeline.Proofs.Material.Stock

/-!
# Proofs — Material — Renderable

What a library gives to draw with.  The form is built on first use, and put back where it is kept,
so asking again gives the same form and touches nothing.

* `Library.At`: a form is kept at a place.
* `Library.renderable_cases`: all that asking may do.
* `Library.renderable_again`: asking again.
* `Library.Idle`: no pass of any form is set up.
-/

namespace MaterialPipeline

open MaterialPipeline.Action

variable {s s' : Session} {context : BuildContext}

/-! ### One form -/

namespace Form

variable {f f' : Form} {ready : Bool}

theorem ensureBuilt_of_built (h : f.built.isSome) (s : Session) :
    (f.ensureBuilt context).run s = .ok ((true, f), s) := by
  rw [ensureBuilt, isBuilt, if_pos h]
  rfl

theorem ensureBuilt_of_error (hbuilt : f.built = none) (herror : f.error.isSome) (s : Session) :
    (f.ensureBuilt context).run s = .ok ((false, f), s) := by
  obtain ⟨error, he⟩ := Option.isSome_iff_exists.mp herror
  rw [ensureBuilt, isBuilt, isValid, hbuilt, he]
  rfl

/-- A form is built, or remembers why not; no pass of it is set up. -/
theorem build_cases {result : Except MaterialError Unit}
    (hrun : (f.build context).run s = .ok ((result, f'), s')) :
    (result.isOk = true ∧ f'.built.isSome ∨
      result.isOk = false ∧ f'.built = none ∧ f'.error.isSome) ∧ f'.current = none := by
  obtain ⟨_, _, -, hbuild⟩ := of_run_bind hrun
  obtain ⟨built, _, -, hbuild⟩ := of_run_bind hbuild
  cases built with
  | ok b =>
      cases hbuild
      exact ⟨.inl ⟨rfl, rfl⟩, rfl⟩
  | error error =>
      obtain ⟨_, _, -, hbuild⟩ := of_run_bind hbuild
      cases hbuild
      exact ⟨.inr ⟨rfl, rfl, rfl⟩, rfl⟩

/-- A form is ready exactly when it is built afterwards; else a failure is remembered. -/
theorem ensureBuilt_cases (hrun : (f.ensureBuilt context).run s = .ok ((ready, f'), s')) :
    (ready = true ∧ f'.built.isSome ∨ ready = false ∧ f'.built = none ∧ f'.error.isSome) ∧
      (f.current = none → f'.current = none) := by
  unfold ensureBuilt at hrun
  split at hrun
  next hbuilt =>
    cases hrun
    exact ⟨.inl ⟨rfl, hbuilt⟩, id⟩
  next hbuilt =>
    split at hrun
    next hvalid =>
      cases hrun
      refine ⟨.inr ⟨rfl, ?_, ?_⟩, id⟩
      · simpa [isBuilt] using hbuilt
      · simpa [isValid, Option.isSome_iff_ne_none] using hvalid
    next =>
      obtain ⟨⟨result, f₁⟩, s₁, hbuild, hrun⟩ := of_run_bind hrun
      cases hrun
      obtain ⟨hcases, hcurrent⟩ := build_cases hbuild
      exact ⟨hcases, fun _ => hcurrent⟩

/-- The form is built, or it is known that it cannot be. -/
def Tried (f : Form) : Prop :=
  f.built.isSome ∨ f.built = none ∧ f.error.isSome

theorem tried_of_ensureBuilt (hrun : (f.ensureBuilt context).run s = .ok ((ready, f'), s')) :
    f'.Tried := by
  obtain ⟨⟨-, hbuilt⟩ | ⟨-, hfailed⟩, -⟩ := ensureBuilt_cases hrun
  · exact .inl hbuilt
  · exact .inr hfailed

/-- A form that was tried is left as it is. -/
theorem Tried.ensureBuilt (hf : f.Tried) (context : BuildContext) (s : Session) :
    (f.ensureBuilt context).run s = .ok ((f.built.isSome, f), s) := by
  rcases hf with hbuilt | ⟨hbuilt, herror⟩
  · rw [hbuilt]
    exact ensureBuilt_of_built hbuilt s
  · rw [hbuilt]
    exact ensureBuilt_of_error hbuilt herror s

end Form

namespace Library

variable {l l' : Library} {r : MaterialRef} {place : FormPlace} {f f' : Form}
  {found : Option (FormPlace × Form)}

/-! ### Places -/

/-- The form is kept at the place. -/
def At (l : Library) : FormPlace → Form → Prop
  | .own r, f => l.form? r = .ok (some f)
  | .warning, f => l.warning = f

theorem setInstance_self {id : Slot} {i : Instance} (hi : l.instance? id = .ok (some i)) :
    l.setInstance id i = .ok l := by
  rw [setInstance, SlotSet.modify_self hi]
  rfl

theorem setForm_self (hf : l.At place f) : l.setForm place f = .ok l := by
  cases place with
  | warning =>
      cases hf
      rfl
  | own r =>
      obtain ⟨i, hi, hof⟩ := form?_eq_some hf
      rw [setForm_own hi, Instance.setForm_self hof, setInstance_self hi]

/-- A form that is put in a place is kept there; nothing else changes. -/
theorem at_setForm (hf : l.At place f) (hset : l.setForm place f' = .ok l') :
    l'.At place f' ∧ l'.context = l.context := by
  cases place with
  | warning =>
      cases hset
      exact ⟨rfl, rfl⟩
  | own r =>
      obtain ⟨i, hi, hof⟩ := form?_eq_some hf
      rw [setForm_own hi, setInstance] at hset
      cases hm : l.instances.modify r.id fun _ => i.setForm r.hook f' with
      | error fault =>
          rw [hm] at hset
          cases hset
      | ok instances =>
          rw [hm] at hset
          cases hset
          have hi' : instances.find r.id = .ok (some (i.setForm r.hook f')) :=
            SlotSet.find_of_modify hi hm
          refine ⟨?_, rfl⟩
          show Library.form? _ r = _
          rw [form?, instance?, hi']
          refine congrArg Except.ok ?_
          exact (Instance.formOf_setForm hof r.hook f').trans (if_pos rfl)

theorem warning_setForm (hset : l.setForm (.own r) f = .ok l') : l'.warning = l.warning := by
  rw [setForm] at hset
  cases hi : l.instance? r.id with
  | error fault =>
      rw [hi] at hset
      cases hset
  | ok found =>
      rw [hi] at hset
      cases found with
      | none =>
          cases hset
          rfl
      | some i =>
          have hset : l.setInstance r.id (i.setForm r.hook f) = .ok l' := hset
          rw [setInstance] at hset
          cases hm : l.instances.modify r.id fun _ => i.setForm r.hook f with
          | error fault =>
              rw [hm] at hset
              cases hset
          | ok instances =>
              rw [hm] at hset
              cases hset
              rfl

/-- A form that is kept somewhere is among the holdings, next to all others. -/
theorem holdings_split_at (hf : l.At place f) : ∃ rest, l.holdings = f.holdings + rest ∧
    ∀ f', ∃ l', l.setForm place f' = .ok l' ∧ l'.holdings = f'.holdings + rest := by
  cases place with
  | warning =>
      cases hf
      exact ⟨_, rfl, fun f' => ⟨_, rfl, rfl⟩⟩
  | own r => exact holdings_split_form hf

/-- A form that can be found can be replaced. -/
theorem exists_setForm (hf : l.At place f) (f' : Form) :
    ∃ l', l.setForm place f' = .ok l' ∧ l'.At place f' := by
  obtain ⟨_, -, hput⟩ := holdings_split_at hf
  obtain ⟨l', hset, -⟩ := hput f'
  exact ⟨l', hset, (at_setForm hf hset).1⟩

/-! ### What is drawn with -/

/-- All that asking for a form may do: there is none, it is ready, or the stand-in is asked for. -/
theorem renderable_cases (hrun : (l.renderable r).run s = .ok ((found, l'), s')) :
    (l.form? r = .ok none ∧ found = none ∧ l' = l ∧ s' = s) ∨
      (∃ f f', l.At (.own r) f ∧ (f.ensureBuilt l.context).run s = .ok ((true, f'), s') ∧
        l.setForm (.own r) f' = .ok l' ∧ found = some (.own r, f')) ∨
      ∃ f f' s₁ l₁ ready w, l.At (.own r) f ∧
        (f.ensureBuilt l.context).run s = .ok ((false, f'), s₁) ∧
        l.setForm (.own r) f' = .ok l₁ ∧
        (l₁.warning.ensureBuilt l₁.context).run s₁ = .ok ((ready, w), s') ∧
        l' = { l₁ with warning := w } ∧ found = if ready then some (.warning, w) else none := by
  obtain ⟨form, s₀, hlift, hthen⟩ := of_run_bind hrun
  obtain ⟨rfl, hform⟩ := of_run_lift hlift
  cases form with
  | none =>
      cases hthen
      exact .inl ⟨hform, rfl, rfl, rfl⟩
  | some f =>
      obtain ⟨⟨ready, f'⟩, s₁, hensure, hput⟩ := of_run_bind hthen
      obtain ⟨l₁, s₂, hlift, hlast⟩ := of_run_bind hput
      obtain ⟨rfl, hset⟩ := of_run_lift hlift
      cases ready with
      | true =>
          cases hlast
          exact .inr (.inl ⟨f, f', hform, hensure, hset, rfl⟩)
      | false =>
          obtain ⟨⟨ready, w⟩, s₃, hwarning, hend⟩ := of_run_bind hlast
          cases hend
          exact .inr (.inr ⟨f, f', _, l₁, ready, w, hform, hensure, hset, hwarning, rfl, rfl⟩)

/-- What is given to draw with is built, and is kept at the place that is given. -/
theorem at_of_renderable (hrun : (l.renderable r).run s = .ok ((some (place, f), l'), s')) :
    l'.At place f ∧ f.built.isSome := by
  obtain ⟨-, hfound, -⟩ | ⟨f₁, f₂, hform, hensure, hset, hfound⟩ |
    ⟨f₁, f₂, s₁, l₁, ready, w, hform, hensure, hset, hwarning, rfl, hfound⟩ := renderable_cases hrun
  · cases hfound
  · cases hfound
    refine ⟨(at_setForm hform hset).1, ?_⟩
    obtain ⟨⟨-, hbuilt⟩ | ⟨hfalse, -⟩, -⟩ := Form.ensureBuilt_cases hensure
    · exact hbuilt
    · cases hfalse
  · cases ready with
    | false => cases hfound
    | true =>
        cases hfound
        refine ⟨rfl, ?_⟩
        obtain ⟨⟨-, hbuilt⟩ | ⟨hfalse, -⟩, -⟩ := Form.ensureBuilt_cases hwarning
        · exact hbuilt
        · cases hfalse

/-- Asking leaves what materials are built with alone. -/
theorem context_renderable (hrun : (l.renderable r).run s = .ok ((found, l'), s')) :
    l'.context = l.context := by
  obtain ⟨-, -, rfl, -⟩ | ⟨f₁, f₂, hform, -, hset, -⟩ |
    ⟨f₁, f₂, s₁, l₁, ready, w, hform, -, hset, -, rfl, -⟩ := renderable_cases hrun
  · rfl
  · exact (at_setForm hform hset).2
  · exact (at_setForm hform hset).2

/-- The library need not build anything to answer: there is no form; the form of the reference is
built; or it failed, and it is known whether the stand-in is built. -/
inductive Settled (l : Library) (r : MaterialRef) : Option (FormPlace × Form) → Prop where
  | missing (hform : l.form? r = .ok none) : Settled l r none
  | own {f : Form} (hform : l.At (.own r) f) (hbuilt : f.built.isSome) :
      Settled l r (some (.own r, f))
  | standIn {f : Form} (hform : l.At (.own r) f) (hbuilt : f.built = none)
      (herror : f.error.isSome) (hwarning : l.warning.Tried) :
      Settled l r (if l.warning.built.isSome then some (.warning, l.warning) else none)

/-- A library that was asked need not build anything to answer again. -/
theorem settled_of_renderable (hrun : (l.renderable r).run s = .ok ((found, l'), s')) :
    l'.Settled r found := by
  obtain ⟨hform, rfl, rfl, -⟩ | ⟨f₁, f₂, hform, hensure, hset, rfl⟩ |
    ⟨f₁, f₂, s₁, l₁, ready, w, hform, hensure, hset, hwarning, rfl, rfl⟩ := renderable_cases hrun
  · exact .missing hform
  · obtain ⟨⟨-, hbuilt⟩ | ⟨hfalse, -⟩, -⟩ := Form.ensureBuilt_cases hensure
    · exact .own (at_setForm hform hset).1 hbuilt
    · cases hfalse
  · obtain ⟨⟨htrue, -⟩ | ⟨-, hbuilt, herror⟩, -⟩ := Form.ensureBuilt_cases hensure
    · cases htrue
    -- The stand-in was put in its place after the form, which is still found in its own.
    have hat : Library.At { l₁ with warning := w } (.own r) f₂ := (at_setForm hform hset).1
    have hready : ready = w.built.isSome := by
      obtain ⟨⟨rfl, hbuilt⟩ | ⟨rfl, hnone, -⟩, -⟩ := Form.ensureBuilt_cases hwarning
      · exact hbuilt.symm
      · rw [hnone]
        rfl
    rw [hready]
    exact .standIn hat hbuilt herror (Form.tried_of_ensureBuilt hwarning)

theorem Settled.run (h : l.Settled r found) (t : Session) :
    (l.renderable r).run t = .ok ((found, l), t) := by
  unfold Library.renderable
  cases h with
  | missing hform =>
      rw [run_lift_bind hform]
      rfl
  | @own f hform hbuilt =>
      rw [run_lift_bind hform]
      show StateT.run (f.ensureBuilt l.context >>= _) t = _
      rw [run_bind (Form.ensureBuilt_of_built hbuilt t)]
      show StateT.run ((liftM (l.setForm (.own r) f) : Action Library) >>= _) t = _
      rw [run_lift_bind (setForm_self hform)]
      rfl
  | @standIn f hform hbuilt herror hwarning =>
      rw [run_lift_bind hform]
      show StateT.run (f.ensureBuilt l.context >>= _) t = _
      rw [run_bind (Form.ensureBuilt_of_error hbuilt herror t)]
      show StateT.run ((liftM (l.setForm (.own r) f) : Action Library) >>= _) t = _
      rw [run_lift_bind (setForm_self hform)]
      show StateT.run (l.warning.ensureBuilt l.context >>= _) t = _
      rw [run_bind (hwarning.ensureBuilt l.context t)]
      rfl

/-- Asking again gives the same, and changes nothing. -/
theorem renderable_again (hrun : (l.renderable r).run s = .ok ((found, l'), s')) (t : Session) :
    (l'.renderable r).run t = .ok ((found, l'), t) :=
  (settled_of_renderable hrun).run t

end Library

/-! ### Libraries at rest -/

namespace Instance

variable {i i' : Instance} {f : Form} {v : Variant} {config : Config}

/-- No pass of any form of the instance is set up. -/
def Idle (i : Instance) : Prop :=
  ∀ v f, i.formOf v = some f → f.current = none

theorem Idle.put {found : Option Instance} (hi : i.Idle)
    (hfound : ∀ j ∈ found, j.form.current = none) :
    Idle { i with hooks := i.hooks.put v found } := by
  intro w f hf
  cases w with
  | none => exact hi none f hf
  | some w =>
      obtain ⟨j, hj, rfl⟩ := Option.map_eq_some_iff.mp hf
      have hget : (i.hooks.put v found).get w = some j := hj
      rw [Hooks.get_put] at hget
      split at hget
      · exact hfound j hget
      · exact hi (some w) j.form (congrArg (Option.map _) hget)

theorem Idle.setForm (hi : i.Idle) (hf : f.current = none) (v : Option Variant) :
    (i.setForm v f).Idle := by
  cases v with
  | some v =>
      refine hi.put fun j hj => ?_
      obtain ⟨_, -, rfl⟩ := Option.map_eq_some_iff.mp hj
      exact hf
  | none =>
      intro w g hg
      cases w with
      | none =>
          cases hg
          exact hf
      | some w => exact hi (some w) g hg

theorem Idle.addHook {result : Except MaterialError Unit} (hi : i.Idle)
    (hrun : (i.addHook v).run s = .ok ((result, i'), s')) : i'.Idle := by
  unfold Instance.addHook at hrun
  split at hrun
  · cases hrun
    exact hi
  · obtain ⟨i₁, _, hput, hrun⟩ := of_run_bind hrun
    obtain ⟨_, _, -, hput⟩ := of_run_bind hput
    cases hput
    cases hrun
    exact hi.put fun j hj => Option.mem_some.mp hj ▸ rfl

theorem Idle.attachHook (hi : i.Idle)
    (hrun : (i.attachHook config v).run s = .ok (i', s')) : i'.Idle := by
  unfold Instance.attachHook at hrun
  split at hrun
  · obtain ⟨_, _, -, hrun⟩ := of_run_bind hrun
    cases hrun
    exact hi.put fun j hj => absurd hj (Option.not_mem_none j)
  · split at hrun
    · obtain ⟨⟨result, i₁⟩, _, hadd, hrun⟩ := of_run_bind hrun
      have hi₁ := hi.addHook hadd
      cases result with
      | ok _ =>
          cases hrun
          exact hi₁
      | error error =>
          obtain ⟨_, _, -, hrun⟩ := of_run_bind hrun
          cases hrun
          exact hi₁
    · cases hrun
      exact hi

theorem Idle.attachHooks (hi : i.Idle)
    (hrun : (i.attachHooks config).run s = .ok (i', s')) : i'.Idle := by
  unfold Instance.attachHooks at hrun
  obtain ⟨i₁, _, hglow, hrun⟩ := of_run_bind hrun
  obtain ⟨i₂, _, hprePass, hrun⟩ := of_run_bind hrun
  obtain ⟨i₃, _, hshadow, hrun⟩ := of_run_bind hrun
  cases hrun
  exact ((hi.attachHook hglow).attachHook hprePass).attachHook hshadow

theorem idle_new (m : Material) (format : VertexFormat) : (new m format).Idle := by
  rintro (_ | v) f hf
  · cases hf
    rfl
  · cases v <;> cases hf

end Instance

namespace Library

variable {l l' : Library} {r : MaterialRef} {place : FormPlace} {f f' : Form}
  {found : Option (FormPlace × Form)}

/-- No pass of any form is set up. -/
structure Idle (l : Library) : Prop where
  warning : l.warning.current = none
  instances : ∀ i ∈ l.instances.values, i.Idle

theorem Idle.current (hl : l.Idle) (hf : l.At place f) : f.current = none := by
  cases place with
  | warning => exact hf ▸ hl.warning
  | own r =>
      obtain ⟨i, hi, hof⟩ := form?_eq_some hf
      obtain ⟨n, hlocate⟩ := SlotSet.locate_of_find hi
      obtain ⟨rest, hvalues, -⟩ := SlotSet.values_of_locate hlocate
      exact hl.instances i (hvalues ▸ Multiset.mem_cons_self i rest) r.hook f hof

theorem Idle.setForm (hl : l.Idle) (hf : l.At place f) (hf' : f'.current = none)
    (hset : l.setForm place f' = .ok l') : l'.Idle := by
  cases place with
  | warning =>
      cases hset
      exact ⟨hf', hl.instances⟩
  | own r =>
      refine ⟨(warning_setForm hset).symm ▸ hl.warning, ?_⟩
      obtain ⟨i, hi, hof⟩ := form?_eq_some hf
      obtain ⟨n, hlocate⟩ := SlotSet.locate_of_find hi
      obtain ⟨rest, hvalues, hmodify, -⟩ := SlotSet.values_of_locate hlocate
      obtain ⟨instances, hm, hvalues'⟩ := hmodify fun _ => i.setForm r.hook f'
      rw [setForm_own hi, setInstance, hm] at hset
      cases hset
      have hrest : ∀ j ∈ rest, j ∈ l.instances.values := fun j hj =>
        hvalues ▸ Multiset.mem_cons_of_mem hj
      intro j hj
      rcases Multiset.mem_cons.mp (hvalues' ▸ hj) with rfl | hj
      · exact (hl.instances i (hvalues ▸ Multiset.mem_cons_self i rest)).setForm hf' r.hook
      · exact hl.instances j (hrest j hj)

theorem Idle.renderable (hl : l.Idle) (hrun : (l.renderable r).run s = .ok ((found, l'), s')) :
    l'.Idle := by
  obtain ⟨-, -, rfl, -⟩ | ⟨f₁, f₂, hform, hensure, hset, -⟩ |
    ⟨f₁, f₂, s₁, l₁, ready, w, hform, hensure, hset, hwarning, rfl, -⟩ := renderable_cases hrun
  · exact hl
  · exact hl.setForm hform ((Form.ensureBuilt_cases hensure).2 (hl.current hform)) hset
  · have hl₁ := hl.setForm hform ((Form.ensureBuilt_cases hensure).2 (hl.current hform)) hset
    exact ⟨(Form.ensureBuilt_cases hwarning).2 hl₁.warning, hl₁.instances⟩

/-- A new library is at rest. -/
theorem idle_new {registry : Registry} {config : Config}
    (hrun : (new registry config).run s = .ok (l, s')) : l.Idle := by
  obtain ⟨⟨result, form⟩, _, hbuild, hthen⟩ := of_run_bind hrun
  have hcurrent := (Form.build_cases hbuild).2
  cases result with
  | ok _ =>
      cases hthen
      exact ⟨hcurrent, fun i hi => absurd hi (Multiset.notMem_zero i)⟩
  | error error =>
      obtain ⟨_, _, -, hend⟩ := of_run_bind hthen
      cases hend
      exact ⟨hcurrent, fun i hi => absurd hi (Multiset.notMem_zero i)⟩

/-- A fresh instance is at rest. -/
theorem Idle.create {m : Material} {format : VertexFormat} {id : Slot} (hl : l.Idle)
    (hvalid : l.instances.Valid) (hrun : (l.create m format).run s = .ok ((id, l'), s')) :
    l'.Idle := by
  obtain ⟨fresh, _, hattach, hthen⟩ := of_run_bind hrun
  cases hthen
  refine ⟨hl.warning, fun i hi => ?_⟩
  rcases Multiset.mem_cons.mp (SlotSet.values_push hvalid fresh ▸ hi) with rfl | hi
  · exact (Instance.idle_new m format).attachHooks hattach
  · exact hl.instances i hi

end Library

end MaterialPipeline
