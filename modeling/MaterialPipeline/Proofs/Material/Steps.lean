import MaterialPipeline.Proofs.Material.Changes
import MaterialPipeline.Proofs.Material.Ownership
import MaterialPipeline.Proofs.Storage.Turnover

/-!
# Proofs — Material — Steps

The life of a library, step by step.  A step is one operation, of the library, or of an instance, a
hook or a form that it hands out; it runs in any session, so nothing is assumed of the device.

* `Library.Deed`: what is done.  It says which places it tears down, and which it uses.
* `Library.Step`: one step; `Library.InUse`: the libraries that come of steps.
* `Library.Step.follows`: all that a step does to any place.  Every fact about the life of a library
follows from it, by induction.
* `Library.InUse.inForce`: every form in use stands for what its place says, and is in force; every
hook is marked, and nothing hangs on it.
-/

namespace MaterialPipeline.Library

open MaterialPipeline.Action

variable {l l' : Library} {s s' : Session} {r : MaterialRef} {id : Slot} {i i' j j' : Instance}
  {place : FormPlace} {f f' : Form}

/-! ### Steps -/

/-- What is done with a library, or with what it hands out.  A reference may name a hook, and hooks are
hung on that, and taken off, as on any instance. -/
inductive Deed where
  | create
  | destroy (id : Slot)
  | addHook (r : MaterialRef) (v : Variant)
  | removeHook (r : MaterialRef) (v : Variant)
  | clearHooks (r : MaterialRef)
  | build (id : Slot)
  | handle (place : FormPlace)
  | reset (place : FormPlace)
  | setConfig (config : Config)
  | flush
  | deviceLost
  | ask (r : MaterialRef)

/-- Whether the form at a place is torn down: it is reset, taken off, or replaced by a fresh one.  No
place is on a hook of a hook. -/
def Deed.TearsDown (l : Library) : Deed → FormPlace → Prop
  | .create, _ | .build _, _ | .handle _, _ | .ask _, _ => False
  | .destroy id, .own r => r.id = id
  | .addHook r v, .own r' | .removeHook r v, .own r' => r.hook = none ∧ r' = ⟨r.id, some v⟩
  | .clearHooks r, .own r' => r.hook = none ∧ r'.id = r.id ∧ r'.hook.isSome
  | .destroy _, .warning | .addHook _ _, .warning | .removeHook _ _, .warning
  | .clearHooks _, .warning => False
  | .reset (.own r), .own r' => r'.id = r.id ∧ (r.hook = none ∨ r'.hook = r.hook)
  | .reset .warning, .warning => True
  | .reset (.own _), .warning | .reset .warning, .own _ => False
  | .setConfig config, _ => l.context.config ≠ config
  | .flush, _ | .deviceLost, _ => True

/-- Whether the form at a place is used: it is built, or asked for, or its passes are gone through. -/
def Deed.Uses : Deed → FormPlace → Prop
  | .build id, .own r => r.id = id
  | .handle place, place' => place' = place
  | .ask r, .own r' => r' = r
  | .ask _, .warning => True
  | _, _ => False

/-- One step in the life of a library, in any session. -/
inductive Step : Library → Deed → Library → Prop where
  | create {l l' : Library} {s s' : Session} {m : Material} {format : VertexFormat} {id : Slot}
      (hrun : (l.create m format).run s = .ok ((id, l'), s')) : Step l .create l'
  | destroy {l l' : Library} {s s' : Session} {id : Slot} {result : Except MaterialError Unit}
      (hrun : (l.destroy id).run s = .ok ((result, l'), s')) : Step l (.destroy id) l'
  | addHook {l l' : Library} {s s' : Session} {id : Slot} {v : Variant}
      {result : Except MaterialError Unit}
      (hrun : (l.addHook id v).run s = .ok ((result, l'), s')) : Step l (.addHook ⟨id, none⟩ v) l'
  | hang {l l' : Library} {s s' : Session} {r : MaterialRef} {v : Variant} {j j' : Instance}
      {result : Except MaterialError Unit}
      (hj : l.resolve? r = .ok (some j)) (hrun : (j.addHook v).run s = .ok ((result, j'), s'))
      (hset : l.replace r j' = .ok l') : Step l (.addHook r v) l'
  | removeHook {l l' : Library} {s s' : Session} {r : MaterialRef} {v : Variant} {j j' : Instance}
      (hj : l.resolve? r = .ok (some j)) (hrun : (j.removeHook v).run s = .ok (j', s'))
      (hset : l.replace r j' = .ok l') : Step l (.removeHook r v) l'
  | clearHooks {l l' : Library} {s s' : Session} {r : MaterialRef} {j j' : Instance}
      (hj : l.resolve? r = .ok (some j)) (hrun : j.clearHooks.run s = .ok (j', s'))
      (hset : l.replace r j' = .ok l') : Step l (.clearHooks r) l'
  | build {l l' : Library} {s s' : Session} {id : Slot} {result : Except MaterialError Unit}
      (hrun : (l.build id).run s = .ok ((result, l'), s')) : Step l (.build id) l'
  | handle {l l' : Library} {place : FormPlace} {f f' : Form} (hf : l.At place f)
      (hused : f.Used l.context f') (hset : l.setForm place f' = .ok l') :
      Step l (.handle place) l'
  | reset {l l' : Library} {s s' : Session} {r : MaterialRef} {j j' : Instance}
      (hj : l.resolve? r = .ok (some j)) (hrun : j.reset.run s = .ok (j', s'))
      (hset : l.replace r j' = .ok l') : Step l (.reset (.own r)) l'
  | resetWarning {l : Library} {s s' : Session} {f : Form}
      (hrun : l.warning.reset.run s = .ok (f, s')) :
      Step l (.reset .warning) { l with warning := f }
  | setConfig {l l' : Library} {s s' : Session} {config : Config}
      (hrun : (l.setConfig config).run s = .ok (l', s')) : Step l (.setConfig config) l'
  | flush {l l' : Library} {s s' : Session} (hrun : l.flush.run s = .ok (l', s')) :
      Step l .flush l'
  | deviceLost {l l' : Library} {s s' : Session} (hrun : l.deviceLost.run s = .ok (l', s')) :
      Step l .deviceLost l'
  | ask {l l' : Library} {s s' : Session} {r : MaterialRef} {found : Option (FormPlace × Form)}
      (hrun : (l.renderable r).run s = .ok ((found, l'), s')) : Step l (.ask r) l'

/-- The libraries that come of a new one, step by step. -/
inductive InUse : Library → Prop where
  | new {registry : Registry} {config : Config} {l : Library} {s s' : Session}
      (hrun : (new registry config).run s = .ok (l, s')) : InUse l
  | step {l l' : Library} {deed : Deed} (h : InUse l) (hstep : Step l deed l') : InUse l'

/-! ### What a step does -/

variable {deed : Deed}

/-- What a reference names is an instance or one of its hooks. -/
theorem resolve?_eq_some (h : l.resolve? r = .ok (some j)) :
    ∃ i, l.instance? r.id = .ok (some i) ∧ i.resolve r.hook = some j := by
  unfold resolve? at h
  cases hi : l.instance? r.id with
  | error fault =>
      rw [hi] at h
      cases h
  | ok found =>
      rw [hi] at h
      obtain ⟨i, rfl, hres⟩ := Option.bind_eq_some_iff.mp (Except.ok.inj h)
      exact ⟨i, rfl, hres⟩

theorem resolve?_of_instance? (hi : l.instance? r.id = .ok (some i)) :
    l.resolve? r = .ok (i.resolve r.hook) := by
  rw [resolve?, hi]
  rfl

theorem replace_eq (hi : l.instance? r.id = .ok (some i)) (j : Instance) :
    l.replace r j = l.setInstance r.id (i.replace r.hook j) := by
  rw [replace, hi]
  rfl

/-- All that a deed may do to the forms of a library. -/
structure Follows (deed : Deed) (l l' : Library) : Prop where
  valid : l'.instances.Valid
  /-- What is in force stays so, or everything is fresh. -/
  context : l'.context = l.context ∨ ∀ place f, l'.At place f → f.Fresh
  own : ∀ id, AlikeAnswers Eq
    (Instance.Change l.context (fun v => deed.TearsDown l (.own ⟨id, v⟩))
      fun v => deed.Uses (.own ⟨id, v⟩))
    (l.instance? id) (l'.instance? id)
  warning : Form.Change l.context (deed.TearsDown l .warning) (deed.Uses .warning) l.warning.blank
    (some l.warning) (some l'.warning)

theorem alike_same {context : BuildContext} {tears uses : Option Variant → Prop}
    (h : l'.instance? id = l.instance? id) :
    AlikeAnswers Eq (Instance.Change context tears uses) (l.instance? id) (l'.instance? id) := by
  rw [h]
  cases l.instance? id with
  | error fault => exact .error rfl
  | ok x => exact .ok (.same x)

namespace Follows

theorem same (hvalid : l.instances.Valid) : Follows deed l l where
  valid := hvalid
  context := .inl rfl
  own _ := alike_same rfl
  warning := .same _

/-- One instance is put in the place of another. -/
theorem setInstance (hvalid : l.instances.Valid) (hi : l.instance? id = .ok (some i))
    (hset : l.setInstance id i' = .ok l')
    (hbecomes : i.Becomes l.context (fun v => deed.TearsDown l (.own ⟨id, v⟩))
      (fun v => deed.Uses (.own ⟨id, v⟩)) i') : Follows deed l l' := by
  have halike := alike_setInstance hset
  rw [Library.setInstance] at hset
  cases hm : l.instances.modify id fun _ => i' with
  | error fault =>
      rw [hm] at hset
      cases hset
  | ok instances =>
      rw [hm] at hset
      cases hset
      refine ⟨halike.valid hvalid, .inl rfl, fun id' => ?_, .same _⟩
      by_cases hid : id' = id
      · subst hid
        have hi' : instances.find id' = .ok (some i') := SlotSet.find_of_modify hi hm
        show AlikeAnswers _ _ (l.instance? id') (instances.find id')
        rw [hi, hi']
        exact .ok (.becomes hbecomes)
      · exact alike_same (SlotSet.find_modify_of_ne hm hid)

/-- One form is put in the place of another. -/
theorem setForm (hvalid : l.instances.Valid) (hf : l.At place f)
    (hset : l.setForm place f' = .ok l') (hused : f.Used l.context f') (huses : deed.Uses place) :
    Follows deed l l' := by
  cases place with
  | warning =>
      cases hf
      cases hset
      exact ⟨hvalid, .inl rfl, fun _ => alike_same rfl, .used huses hused⟩
  | own r =>
      obtain ⟨i, hi, hof⟩ := form?_eq_some hf
      rw [setForm_own hi] at hset
      exact .setInstance hvalid hi hset (.setForm hof hused huses)

/-- What a reference names is replaced. -/
theorem replace (hvalid : l.instances.Valid) (hj : l.resolve? r = .ok (some j))
    (hset : l.replace r j' = .ok l')
    (hown : r.hook = none → j.Becomes l.context (fun v => deed.TearsDown l (.own ⟨r.id, v⟩))
      (fun v => deed.Uses (.own ⟨r.id, v⟩)) j')
    (hform : ∀ fresh, Form.Change l.context (deed.TearsDown l (.own r)) (deed.Uses (.own r)) fresh
      (some j.form) (some j'.form))
    (hbare : j.Bare → j'.Bare) : Follows deed l l' := by
  obtain ⟨i, hi, hres⟩ := resolve?_eq_some hj
  rw [replace_eq hi] at hset
  refine .setInstance hvalid hi hset ?_
  obtain ⟨id, hook⟩ := r
  cases hook with
  | none =>
      cases hres
      exact hown rfl
  | some v => exact .replace hres hform hbare

/-- Every instance is replaced, and every form torn down. -/
theorem mapValues {g : Instance → Instance} {context : BuildContext} (hvalid : l.instances.Valid)
    (hcontext : context = l.context ∨ ∀ place f,
      At ⟨context, l.instances.mapValues g, l.warning.blank⟩ place f → f.Fresh)
    (htears : ∀ place, deed.TearsDown l place)
    (hg : ∀ id i, Instance.Becomes l.context (fun v => deed.TearsDown l (.own ⟨id, v⟩))
      (fun v => deed.Uses (.own ⟨id, v⟩)) i (g i)) :
    Follows deed l ⟨context, l.instances.mapValues g, l.warning.blank⟩ where
  valid := (l.instances.alike_mapValues g).valid hvalid
  context := hcontext
  own id := by
    show AlikeAnswers _ _ (l.instance? id) ((l.instances.mapValues g).find id)
    rw [SlotSet.find_mapValues]
    show AlikeAnswers _ _ (l.instance? id) ((l.instance? id).map _)
    cases l.instance? id with
    | error fault => exact .error rfl
    | ok x =>
        cases x with
        | none => exact .ok (.same none)
        | some i => exact .ok (.becomes (hg id i))
  warning := .reset (htears _)

/-- Everything is forgotten. -/
theorem blank (hvalid : l.instances.Valid) (htears : ∀ place, deed.TearsDown l place) :
    Follows deed l l.blank :=
  .mapValues hvalid (.inl rfl) htears fun _ _ => .blank fun _ => htears _

end Follows

theorem instance?_blank (h : l.instance? id = .ok (some i)) :
    l.blank.instance? id = .ok (some i.blank) := by
  show (l.instances.mapValues Instance.blank).find id = _
  rw [SlotSet.find_mapValues]
  show (l.instance? id).map _ = _
  rw [h]
  rfl

/-- Every form of a library that forgot everything is as a reset leaves it. -/
theorem blank_of_at_blank (hf : l.blank.At place f) : f.blank = f := by
  cases place with
  | warning =>
      cases hf
      rfl
  | own r =>
      obtain ⟨i, hi, hof⟩ := form?_eq_some hf
      have hi : (l.instance? r.id).map (Option.map Instance.blank) = .ok (some i) :=
        (SlotSet.find_mapValues Instance.blank r.id).symm.trans hi
      cases hold : l.instance? r.id with
      | error fault =>
          rw [hold] at hi
          cases hi
      | ok x =>
          rw [hold] at hi
          injection hi with hi
          obtain ⟨i₀, rfl, rfl⟩ := Option.map_eq_some_iff.mp hi
          rw [Instance.formOf_blank] at hof
          obtain ⟨f₀, -, rfl⟩ := Option.map_eq_some_iff.mp hof
          rfl

/-- All that asking may do. -/
theorem follows_ask {found : Option (FormPlace × Form)} (hvalid : l.instances.Valid)
    (hrun : (l.renderable r).run s = .ok ((found, l'), s')) : Follows (.ask r) l l' := by
  have hown {f f' : Form} {l₁ : Library} {ready : Bool} {s₁ : Session} (hf : l.At (.own r) f)
      (hensure : (f.ensureBuilt l.context).run s = .ok ((ready, f'), s₁))
      (hset : l.setForm (.own r) f' = .ok l₁) : Follows (.ask r) l l₁ := by
    have hused : f.Used l.context f' := .ensureBuilt hensure
    exact .setForm hvalid hf hset hused rfl
  obtain ⟨-, -, rfl, -⟩ | ⟨f₁, f₂, hform, hensure, hset, -⟩ |
    ⟨f₁, f₂, s₁, l₁, ready, w, hform, hensure, hset, hwarning, rfl, -⟩ := renderable_cases hrun
  · exact .same hvalid
  · exact hown hform hensure hset
  · have hfollows := hown hform hensure hset
    have hcontext := (at_setForm hform hset).2
    rw [warning_setForm hset, hcontext] at hwarning
    exact ⟨hfollows.valid, .inl hcontext, hfollows.own, .used trivial (.ensureBuilt hwarning)⟩

theorem follows_build {result : Except MaterialError Unit} (hvalid : l.instances.Valid)
    (hrun : (l.build id).run s = .ok ((result, l'), s')) : Follows (.build id) l l' := by
  obtain ⟨found, _, hfound, hrun⟩ := of_run_bind hrun
  obtain ⟨rfl, hi⟩ := of_run_lift hfound
  cases found with
  | none =>
      cases hrun
      exact .same hvalid
  | some i =>
      obtain ⟨⟨answer, form⟩, s₁, hbuild, hrun⟩ := of_run_bind hrun
      have hused : i.form.Used l.context form := .build hbuild
      have hform : i.Becomes l.context (fun v => Deed.TearsDown l (.build id) (.own ⟨id, v⟩))
          (fun v => Deed.Uses (.build id) (.own ⟨id, v⟩)) (i.setForm none form) :=
        .setForm (v := none) rfl hused rfl
      cases answer with
      | error error =>
          obtain ⟨l₁, _, hput, hrun⟩ := of_run_bind hrun
          cases hrun
          exact .setInstance hvalid hi (of_run_lift hput).2 hform
      | ok _ =>
          obtain ⟨⟨answer, i'⟩, _, hhooks, hrun⟩ := of_run_bind hrun
          obtain ⟨l₁, _, hput, hrun⟩ := of_run_bind hrun
          cases hrun
          exact .setInstance hvalid hi (of_run_lift hput).2 <|
            hform.trans (fun _ => not_false) (.buildHooks (fun _ => not_false) (fun _ => rfl) hhooks)

/-- **What a step does.**  A place that it neither tears down nor uses keeps its form. -/
theorem Step.follows (hvalid : l.instances.Valid) (hstep : Step l deed l') : Follows deed l l' := by
  cases hstep with
  | @create _ _ _ m format id hrun =>
      obtain ⟨rfl, rfl⟩ := Prod.mk.inj ((l.yields_create m format).eq hrun)
      refine ⟨hvalid.push _, .inl rfl, fun id => ?_, .same _⟩
      rcases SlotSet.find_push hvalid _ id with hsame | ⟨hnone, hsome⟩
      · exact alike_same hsame
      · show AlikeAnswers _ _ (l.instances.find id) ((l.instances.push _).2.find id)
        rw [hnone, hsome]
        exact .ok (.arrives (Instance.fresh_attached_new _ m format)
          ((Instance.Shaped.new m format).attached _))
  | @destroy _ _ _ id result hrun =>
      obtain ⟨⟨removed, instances⟩, _, hremove, hrun⟩ := of_run_bind hrun
      obtain ⟨rfl, htaken⟩ := of_run_lift hremove
      have hvalid' : instances.Valid := hvalid.remove htaken
      cases removed with
      | none =>
          cases hrun
          exact .same hvalid
      | some i =>
          obtain ⟨_, _, -, hrun⟩ := of_run_bind hrun
          cases hrun
          refine ⟨hvalid', .inl rfl, fun id' => ?_, .same _⟩
          by_cases hid : id' = id
          · subst hid
            obtain ⟨hsome, hnone⟩ := SlotSet.find_of_remove htaken
            show AlikeAnswers _ _ (l.instances.find id') (instances.find id')
            rw [hsome, hnone]
            exact .ok (.leaves fun _ => rfl)
          · exact alike_same (SlotSet.find_remove_of_ne htaken hid)
  | addHook hrun =>
      obtain ⟨found, _, hfound, hrun⟩ := of_run_bind hrun
      obtain ⟨rfl, hi⟩ := of_run_lift hfound
      cases found with
      | none =>
          cases hrun
          exact .same hvalid
      | some i =>
          obtain ⟨⟨answer, i'⟩, _, hadd, hrun⟩ := of_run_bind hrun
          obtain ⟨l₁, _, hput, hrun⟩ := of_run_bind hrun
          cases hrun
          exact .setInstance hvalid hi (of_run_lift hput).2 (.addHook ⟨rfl, rfl⟩ hadd)
  | @hang _ _ _ r v j j' result hj hrun hset =>
      have hadded := (j.yields_addHook v).eq hrun
      refine .replace hvalid hj hset (fun hr => .addHook ⟨hr, rfl⟩ hrun) (fun _ => ?_) fun h => ?_
      · -- Whether or not a hook can be hung on it, the form stays.
        unfold Instance.added at hadded
        split at hadded <;> cases hadded <;> exact .same _
      · cases hadded.trans (h.added v)
        exact h
  | @removeHook _ _ _ r v j j' hj hrun hset =>
      obtain rfl := (j.yields_removeHook v).eq hrun
      exact .replace hvalid hj hset (fun hr => .removeHook ⟨hr, rfl⟩ hrun) (fun _ => .same _)
        fun h => ⟨h.mark, h.put_none v⟩
  | @clearHooks _ _ _ r j j' hj hrun hset =>
      obtain rfl := j.yields_clearHooks.eq hrun
      exact .replace hvalid hj hset (fun hr => .clearHooks (fun _ => ⟨hr, rfl, rfl⟩) hrun)
        (fun _ => .same _) fun h => ⟨h.mark, rfl⟩
  | build hrun => exact follows_build hvalid hrun
  | handle hf hused hset => exact .setForm hvalid hf hset hused rfl
  | @reset _ _ _ r j j' hj hrun hset =>
      obtain rfl := j.yields_reset.eq hrun
      exact .replace hvalid hj hset (fun hr => .blank fun v => ⟨rfl, .inl hr⟩)
        (fun _ => j.form_blank ▸ .reset ⟨rfl, .inr rfl⟩) .blank
  | resetWarning hrun =>
      obtain rfl := l.warning.yields_reset.eq hrun
      exact ⟨hvalid, .inl rfl, fun _ => alike_same rfl, .reset trivial⟩
  | setConfig hrun =>
      obtain rfl := (l.yields_setConfig _).eq hrun
      unfold configured
      split
      · exact .same hvalid
      next config hne =>
        have htears (place : FormPlace) : Deed.TearsDown l (.setConfig config) place := by
          cases place <;> exact hne
        have hfresh : ∀ place f, (l.under config).blank.At place f → f.Fresh :=
          fun _ _ hf => Form.fresh_of_blank_eq (blank_of_at_blank hf)
        rw [blank, under, SlotSet.mapValues_mapValues] at hfresh ⊢
        exact .mapValues hvalid (.inr hfresh) htears
          fun id i => .attached_blank config fun v => htears _
  | flush hrun =>
      obtain rfl := l.yields_flush.eq hrun
      exact .blank hvalid fun place => by cases place <;> trivial
  | deviceLost hrun =>
      obtain rfl := l.yields_deviceLost.eq hrun
      exact .blank hvalid fun place => by cases place <;> trivial
  | ask hrun => exact follows_ask hvalid hrun

/-! ### What is in use -/

/-- Every form stands for what its place says, and is in force, and every instance has its shape. -/
structure InForce (l : Library) : Prop where
  valid : l.instances.Valid
  own : ∀ id i, l.instance? id = .ok (some i) → i.InForce l.context
  shaped : ∀ id i, l.instance? id = .ok (some i) → i.Shaped
  subject : l.warning.subject = (.warning, .positionNormalUv, none)
  warning : l.warning.Current l.context

theorem at_own {v : Option Variant} (hi : l.instance? id = .ok (some i))
    (hf : i.formOf v = some f) : l.At (.own ⟨id, v⟩) f := by
  show form? l ⟨id, v⟩ = _
  rw [form?, hi]
  exact congrArg Except.ok hf

/-- After everything was forgotten, every place keeps its form, reset. -/
theorem At.blank (hf : l.At place f) : l.blank.At place f.blank := by
  cases place with
  | warning =>
      cases hf
      rfl
  | own r =>
      obtain ⟨i, hi, hof⟩ := form?_eq_some hf
      exact at_own (instance?_blank hi) (by rw [Instance.formOf_blank, hof]; rfl)

/-- A place keeps one form. -/
theorem At.unique (hf : l.At place f) (hf' : l.At place f') : f' = f := by
  cases place with
  | warning => exact hf'.symm.trans hf
  | own r =>
      cases hf.symm.trans hf'
      rfl

/-- The form at any place is in force. -/
theorem InForce.current (h : l.InForce) (hf : l.At place f) : f.Current l.context := by
  cases place with
  | warning => exact hf ▸ h.warning
  | own r =>
      obtain ⟨i, hi, hof⟩ := form?_eq_some hf
      exact (h.own r.id i hi r.hook f hof).2

/-- A form is marked exactly if it is that of a hook. -/
theorem InForce.isHook_at (h : l.InForce) (hf : l.At (.own r) f) : f.isHook = r.hook.isSome := by
  obtain ⟨i, hi, hof⟩ := form?_eq_some hf
  have hshaped := h.shaped r.id i hi
  cases hhook : r.hook with
  | none =>
      rw [hhook] at hof
      cases hof
      exact hshaped.mark
  | some v =>
      rw [hhook] at hof
      obtain ⟨j, hj, rfl⟩ := Option.map_eq_some_iff.mp hof
      exact (hshaped.bare v j hj).mark

theorem InForce.follows (h : l.InForce) (hfollows : Follows deed l l') : l'.InForce := by
  have hown : ∀ id i, l'.instance? id = .ok (some i) → i.InForce l.context ∧ i.Shaped := by
    intro id i' hi'
    have halike := hfollows.own id
    rw [hi'] at halike
    generalize hx : l.instance? id = x at halike
    cases halike with
    | ok hchange =>
        cases hchange with
        | same => exact ⟨h.own id i' hx, h.shaped id i' hx⟩
        | arrives hfresh hshaped =>
            refine ⟨fun v f hf => ?_, hshaped⟩
            obtain rfl := hfresh v f hf
            exact ⟨rfl, (i'.fresh_freshForm v).current _⟩
        | becomes hbecomes =>
            exact ⟨(h.own id _ hx).becomes hbecomes, hbecomes.shaped (h.shaped id _ hx)⟩
  have hshaped : ∀ id i, l'.instance? id = .ok (some i) → i.Shaped :=
    fun id i hi => (hown id i hi).2
  obtain ⟨hsubject, hwarning⟩ := hfollows.warning.inForce (Form.fresh_blank _)
    (fun f hf => Option.mem_some.mp hf ▸ ⟨rfl, h.warning⟩) l'.warning rfl
  have hsubject : l'.warning.subject = _ := hsubject.trans h.subject
  rcases hfollows.context with hcontext | hfresh
  · exact ⟨hfollows.valid, fun id i hi => hcontext ▸ (hown id i hi).1, hshaped, hsubject,
      hcontext ▸ hwarning⟩
  · -- What was in force is so no more, but all forms are fresh.
    exact ⟨hfollows.valid,
      fun id i hi v f hf => ⟨((hown id i hi).1 v f hf).1, (hfresh _ f (at_own hi hf)).current _⟩,
      hshaped, hsubject, (hfresh .warning _ rfl).current _⟩

/-- A new library has no instances, and tried to build its stand-in. -/
theorem of_run_new {registry : Registry} {config : Config}
    (hrun : (new registry config).run s = .ok (l, s')) :
    l.context = ⟨registry, config⟩ ∧ l.instances = .empty ∧
      Form.Used ⟨registry, config⟩ { material := .warning, format := .positionNormalUv }
        l.warning := by
  obtain ⟨⟨result, form⟩, _, hbuild, hrun⟩ := of_run_bind hrun
  cases result with
  | ok _ =>
      cases hrun
      exact ⟨rfl, rfl, .build hbuild⟩
  | error error =>
      obtain ⟨_, _, -, hrun⟩ := of_run_bind hrun
      cases hrun
      exact ⟨rfl, rfl, .build hbuild⟩

/-- **What is in force.**  In every library in use, every form stands for the material that its place
says, is not built and failed at once, and was built, if so, with what is in force. -/
theorem InUse.inForce (h : InUse l) : l.InForce := by
  induction h with
  | @new _ _ l _ _ hrun =>
      obtain ⟨hcontext, hinstances, hused⟩ := of_run_new hrun
      have hnone (id : Slot) (i : Instance) : l.instance? id ≠ .ok (some i) := by
        intro hi
        rw [instance?, hinstances] at hi
        obtain ⟨n, hlocate⟩ := SlotSet.locate_of_find hi
        obtain ⟨_, cell, -, -, hcell, -⟩ := SlotSet.locate_eq_some hlocate
        cases hcell
      refine ⟨hinstances ▸ SlotSet.valid_empty, fun id i hi => absurd hi (hnone id i),
        fun id i hi => absurd hi (hnone id i), hused.subject_eq, ?_⟩
      rw [hcontext]
      exact (Form.Fresh.current ⟨rfl, rfl⟩ _).used hused
  | step h hstep ih => exact ih.follows (hstep.follows ih.valid)

/-! ### Taking a material into use -/

theorem InUse.created (hl : l.InUse) (m : Material) (format : VertexFormat) :
    (l.created m format).2.InUse := by
  obtain ⟨s', hrun⟩ := l.yields_create m format {}
  exact hl.step (.create hrun)

/-- The new handle names the new instance, as long as there are handles left. -/
theorem instance?_created (hvalid : l.instances.Valid)
    (hroom : l.instances.cells.size < 2 ^ 32 - 1) (m : Material) (format : VertexFormat) :
    (l.created m format).2.instance? (l.created m format).1 =
      .ok (some ((Instance.new m format).attached l.context.config)) := by
  have hsize := l.instances.size_push_le ((Instance.new m format).attached l.context.config)
  exact SlotSet.find_pushed hvalid (hsize.trans_lt (by omega))

/-- The first handle of a new library. -/
theorem created_new {registry : Registry} {config : Config}
    (hrun : (new registry config).run s = .ok (l, s')) (m : Material) (format : VertexFormat) :
    l.instances.cells.size < 2 ^ 32 - 1 ∧ (l.created m format).1 = .new 0 0 ∧
      (l.created m format).2.instance? (.new 0 0) =
        .ok (some ((Instance.new m format).attached config)) := by
  obtain ⟨hcontext, hinstances, -⟩ := of_run_new hrun
  have hroom : l.instances.cells.size < 2 ^ 32 - 1 := by
    rw [hinstances]
    decide
  have hid : (l.created m format).1 = .new 0 0 := by
    rw [created, hinstances]
    rfl
  have hvalid : l.instances.Valid := (InUse.new hrun).inForce.valid
  refine ⟨hroom, hid, ?_⟩
  rw [← hid, instance?_created hvalid hroom, hcontext]

end MaterialPipeline.Library
