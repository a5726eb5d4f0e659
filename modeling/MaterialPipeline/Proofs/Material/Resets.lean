import MaterialPipeline.Proofs.Material.Answers
import MaterialPipeline.Proofs.Material.Trials

/-!
# Proofs — Material — Resets

What the operations on whole instances leave behind.  They do not depend on the device, so what they
leave is a function of what was there.

* `Instance.blank`, `Library.blank`: nothing is built any more, and no failure is remembered.
* `Instance.attached`: the hooks are those that the material wants under a configuration.
* `Library.yields_create`, `Library.yields_flush`, `Library.yields_deviceLost`, `Library.yields_setConfig`.
-/

namespace MaterialPipeline

open MaterialPipeline.Action

theorem Action.Yields.map {α β : Type} {x : Action α} {a : α} (h : Yields x a) (f : α → β) :
    Yields (f <$> x) (f a) := by
  rw [map_eq_pure_bind]
  exact h.bind (.pure _)

/-! ### One instance -/

theorem Form.yields_reset (f : Form) : Yields f.reset f.blank :=
  (Yields.perform _).bind (.pure _)

/-- What is done with each value, one after another. -/
theorem Hooks.yields_mapM {α : Type} {f : α → Action α} {g : α → α} {h : Hooks α}
    (hf : ∀ v a, h.get v = some a → Yields (f a) (g a)) : Yields (h.mapM f) (h.map g) := by
  have hone (v : Variant) : Yields ((h.get v).mapM f) ((h.get v).map g) := by
    cases hget : h.get v with
    | none => exact .pure none
    | some a => exact (hf v a hget).map some
  rw [mapM_eq]
  exact (hone .prePass).bind ((hone .shadow).bind ((hone .glow).bind (.pure _)))

namespace Instance

variable {i : Instance} {config : Config} {v w : Option Variant}

/-- The form that the instance would have for `v`, if it was fresh. -/
def freshForm (i : Instance) (v : Option Variant) : Form :=
  { material := i.form.material, format := i.form.format, variant := v, isHook := v.isSome }

/-- The instance after it was reset. -/
def blank : Instance → Instance :=
  fold fun form hooks => { form := form.blank, hooks := hooks }

theorem blank_eq (i : Instance) : i.blank = { form := i.form.blank, hooks := i.hooks.map blank } :=
  fold_eq _ i

@[simp] theorem form_blank (i : Instance) : i.blank.form = i.form.blank := by
  rw [blank_eq]

@[simp] theorem hooks_blank (i : Instance) : i.blank.hooks = i.hooks.map blank := by
  rw [blank_eq]

@[simp] theorem material_blank (i : Instance) : i.blank.material = i.material := by
  rw [material, form_blank]
  rfl

theorem yields_reset (i : Instance) : Yields i.reset i.blank := by
  induction i using Instance.induction with
  | step i ih =>
      rw [reset_eq, blank_eq]
      exact i.form.yields_reset.bind ((Hooks.yields_mapM ih).bind (.pure _))

theorem formOf_blank (i : Instance) (v : Option Variant) :
    i.blank.formOf v = (i.formOf v).map Form.blank := by
  cases v with
  | none => exact congrArg some i.form_blank
  | some v =>
      show (i.blank.hooks.get v).map _ = ((i.hooks.get v).map _).map _
      rw [hooks_blank, Hooks.get_map, Option.map_map, Option.map_map]
      exact Option.map_congr fun j _ => j.form_blank

/-- The hook for `v` that a material wants under a configuration: the one that is there, or a fresh
one, unless nothing can be hung on the instance. -/
def wanted (config : Config) (i : Instance) (v : Variant) : Option Instance :=
  if wants config i.material v then
    (i.hooks.get v).or (if i.form.isHook then none else some (i.newHook v))
  else none

/-- The instance with the hooks that its material wants under a configuration. -/
def attached (config : Config) (i : Instance) : Instance :=
  { i with hooks := ⟨i.wanted config .prePass, i.wanted config .shadow, i.wanted config .glow⟩ }

/-- What hanging a fresh hook on the instance answers, and the instance after that. -/
def added (i : Instance) (v : Variant) : Except MaterialError Unit × Instance :=
  if i.form.isHook then (.error .hookOnHook, i)
  else (.ok (), { i with hooks := i.hooks.put v (some (i.newHook v)) })

theorem yields_addHook (i : Instance) (v : Variant) : Yields (i.addHook v) (i.added v) := by
  have hput : Yields (i.putHook v) { i with hooks := i.hooks.put v (some (i.newHook v)) } :=
    (Yields.perform _).bind (.pure _)
  unfold addHook added
  split
  · exact .pure _
  · exact hput.bind (.pure _)

theorem yields_removeHook (i : Instance) (v : Variant) :
    Yields (i.removeHook v) { i with hooks := i.hooks.put v none } :=
  (Yields.perform _).bind (.pure _)

theorem yields_clearHooks (i : Instance) : Yields i.clearHooks { i with hooks := .empty } :=
  (Yields.perform _).bind (.pure _)

theorem yields_attachHook (config : Config) (i : Instance) (v : Variant) :
    Yields (i.attachHook config v) { i with hooks := i.hooks.put v (i.wanted config v) } := by
  have hsame {x : Option Instance} (hx : i.hooks.get v = x) :
      ({ i with hooks := i.hooks.put v x } : Instance) = i := by
    rw [← hx, Hooks.put_get, eta]
  unfold attachHook wanted
  cases wants config i.material v with
  | false => exact i.yields_removeHook v
  | true =>
      simp only [Bool.not_true, Bool.false_eq_true, if_false, if_true]
      cases hget : i.hooks.get v with
      | some j =>
          rw [Option.some_or, hsame hget]
          exact .pure i
      | none =>
          rw [Option.none_or]
          refine (i.yields_addHook v).bind ?_
          unfold added
          cases i.form.isHook with
          | true =>
              rw [if_pos rfl, if_pos rfl, hsame hget]
              exact (Yields.perform _).bind (.pure i)
          | false => exact .pure _

theorem yields_attachHooks (config : Config) (i : Instance) :
    Yields (i.attachHooks config) (i.attached config) := by
  have hfold := Yields.foldlM (yields_attachHook config) [Variant.glow, .prePass, .shadow] i
  -- Each hook was brought in line once, and what a hook is brought to depends on itself alone.
  exact hfold

theorem get_attached (config : Config) (i : Instance) (v : Variant) :
    (i.attached config).hooks.get v = i.wanted config v := by
  cases v <;> rfl

end Instance

/-! ### Every instance -/

namespace Library

variable {l : Library} {config : Config}

theorem yields_mapCells {f : Instance → Action Instance} {g : Instance → Instance}
    (hf : ∀ i, Yields (f i) (g i)) (cells : List (Cell Instance)) :
    Yields (mapCells f cells)
      (cells.map fun cell => { cell with value := cell.value.map g }) := by
  induction cells with
  | nil => exact .pure []
  | cons cell rest ih =>
      rw [mapCells]
      obtain ⟨generation, value⟩ := cell
      cases value with
      | none => exact (Yields.pure none).bind (ih.bind (.pure _))
      | some i => exact ((hf i).map some).bind (ih.bind (.pure _))

theorem yields_mapInstances {f : Instance → Action Instance} {g : Instance → Instance}
    (hf : ∀ i, Yields (f i) (g i)) (l : Library) :
    Yields (l.mapInstances f) { l with instances := l.instances.mapValues g } := by
  have hcells : (l.instances.cells.toList.map fun cell =>
      { cell with value := cell.value.map g }).toArray =
        (l.instances.mapValues g).cells := by
    rw [← List.map_toArray, Array.toArray_toList]
    rfl
  unfold mapInstances
  refine (yields_mapCells hf _).bind ?_
  rw [hcells]
  exact .pure _

/-- The handle of a material that is taken into use, and the library after it. -/
def created (l : Library) (m : Material) (format : VertexFormat) : Slot × Library :=
  let pushed := l.instances.push ((Instance.new m format).attached l.context.config)
  (pushed.1, { l with instances := pushed.2 })

theorem yields_create (l : Library) (m : Material) (format : VertexFormat) :
    Yields (l.create m format) (l.created m format) :=
  (Instance.yields_attachHooks l.context.config (.new m format)).bind (.pure _)

/-- The library after everything built was forgotten. -/
def blank (l : Library) : Library :=
  { l with instances := l.instances.mapValues Instance.blank, warning := l.warning.blank }

theorem yields_reset (l : Library) : Yields l.reset l.blank :=
  (yields_mapInstances Instance.yields_reset l).bind (l.warning.yields_reset.bind (.pure _))

theorem yields_flush (l : Library) : Yields l.flush l.blank :=
  l.yields_reset.bind ((Yields.perform _).bind (.pure _))

theorem yields_deviceLost (l : Library) : Yields l.deviceLost l.blank :=
  (Yields.perform _).bind l.yields_reset

/-- The library under another configuration, with the hooks that are wanted then. -/
def under (l : Library) (config : Config) : Library :=
  { l with
    context := { l.context with config := config }
    instances := l.instances.mapValues (Instance.attached config) }

/-- The library after another configuration came into force. -/
def configured (l : Library) (config : Config) : Library :=
  if l.context.config = config then l else (l.under config).blank

theorem yields_setConfig (l : Library) (config : Config) :
    Yields (l.setConfig config) (l.configured config) := by
  unfold setConfig configured
  split
  · exact .pure l
  · exact (yields_mapInstances (Instance.yields_attachHooks config) _).bind (yields_flush _)

end Library

end MaterialPipeline
