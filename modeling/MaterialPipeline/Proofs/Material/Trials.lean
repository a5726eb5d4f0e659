import MaterialPipeline.Proofs.Material.Mirrors
import MaterialPipeline.Proofs.Material.Total

/-!
# Proofs — Material — Trials

One form, and all that is done with it.  It is fresh, or built, or it failed; only a reset leads back
to where it is fresh.

* `Form.BuildsTo`, `Form.Asks`: all that building a form, or asking for it, may come to.
* `Form.Available`, `Form.Unavailable`: whether the form can be drawn, built first if need be.  This
depends on the device through its answers alone (`Form.available_congr`).
* `Form.Current`: the form is not built and failed at once, and what is built of it was built with
what is in force.  Every use of a form keeps it so (`Form.Current.used`).
-/

namespace MaterialPipeline

open MaterialPipeline.Action

variable {s s' t : Session} {context : BuildContext}

/-- Builds what the form stands for. -/
def Form.construct (f : Form) (context : BuildContext) :
    Action (Except MaterialError BuiltMaterial) :=
  BuiltMaterial.build context f.material f.format f.variant

theorem Form.mirrors_construct (f : Form) (context : BuildContext) :
    Mirrors (AlikeAnswers Eq fun b b' => b.bare = b'.bare) (f.construct context)
      (f.construct context) :=
  BuiltMaterial.mirrors_build context f.material f.format f.variant

namespace Form

variable {f f' : Form} {ready : Bool} {result : Except MaterialError Unit}

/-! ### Three states -/

/-- Nothing is built of the form, and no failure is remembered. -/
structure Fresh (f : Form) : Prop where
  built : f.built = none
  error : f.error = none

theorem fresh_or_tried (f : Form) : f.Fresh ∨ f.Tried := by
  cases hb : f.built with
  | some b => exact .inr (.inl (by rw [hb]; rfl))
  | none =>
      cases he : f.error with
      | some error => exact .inr (.inr ⟨hb, by rw [he]; rfl⟩)
      | none => exact .inl ⟨hb, he⟩

theorem Fresh.not_tried (h : f.Fresh) : ¬ f.Tried := by
  rintro (hb | ⟨-, he⟩)
  · rw [h.built] at hb
    cases hb
  · rw [h.error] at he
    cases he

/-- A fresh form has nothing on the device. -/
theorem Fresh.destruction (h : f.Fresh) : f.destruction = [] := by
  rw [Form.destruction, h.built]
  rfl

/-- When a fresh form is built, nothing is destroyed. -/
theorem Fresh.applyAll_destruction (h : f.Fresh) (s : Session) : s.applyAll f.destruction = s := by
  rw [h.destruction]
  rfl

/-- A fresh form is built when it is asked for. -/
theorem Fresh.ensureBuilt_eq (h : f.Fresh) (context : BuildContext) : f.ensureBuilt context = (do
    let (result, f) ← f.build context
    return (result.isOk, f)) := by
  unfold ensureBuilt
  rw [isBuilt, isValid, h.built, h.error]
  rfl

/-- The form after it was reset. -/
def blank (f : Form) : Form :=
  { f with built := none, error := none, current := none }

theorem fresh_blank (f : Form) : f.blank.Fresh :=
  ⟨rfl, rfl⟩

/-- A form that a reset leaves as it is, is fresh. -/
theorem fresh_of_blank_eq (h : f.blank = f) : f.Fresh :=
  h ▸ f.fresh_blank

/-- What a form stands for. -/
def subject (f : Form) : Material × VertexFormat × Option Variant :=
  (f.material, f.format, f.variant)

/-- There is one form that stands for something, is marked or not, and is as a reset leaves it. -/
theorem eq_of_blank_eq (h : f.blank = f) (h' : f'.blank = f') (hsubject : f.subject = f'.subject)
    (hmark : f.isHook = f'.isHook) : f = f' := by
  injection hsubject with hm hsubject
  injection hsubject with hformat hvariant
  rw [← h, ← h', blank, blank, hm, hformat, hvariant, hmark]

/-- The form after a build gave `b`. -/
def withBuilt (f : Form) (b : BuiltMaterial) : Form :=
  { f with built := some b, error := none, current := none }

/-- The form after a build failed. -/
def withError (f : Form) (error : MaterialError) : Form :=
  { f with built := none, error := some error, current := none }

/-! ### What is done with a form -/

/-- All that building a form may come to. -/
inductive BuildsTo (context : BuildContext) (f : Form) (s : Session) :
    Except MaterialError Unit → Form → Session → Prop where
  | built {b : BuiltMaterial} {s' : Session}
      (hrun : (f.construct context).run (s.applyAll f.destruction) = .ok (.ok b, s')) :
      BuildsTo context f s (.ok ()) (f.withBuilt b) s'
  | failed {error : MaterialError} {s' : Session} (note : Note)
      (hrun : (f.construct context).run (s.applyAll f.destruction) = .ok (.error error, s')) :
      BuildsTo context f s (.error error) (f.withError error) (s'.apply (.note note))

theorem buildsTo_of_run (hrun : (f.build context).run s = .ok ((result, f'), s')) :
    f.BuildsTo context s result f' s' := by
  obtain ⟨_, _, hdestroy, hrun⟩ := of_run_bind hrun
  cases hdestroy
  obtain ⟨answer, s₁, hbuild, hrun⟩ := of_run_bind hrun
  cases answer with
  | ok b =>
      cases hrun
      exact .built hbuild
  | error error =>
      obtain ⟨_, _, hreport, hrun⟩ := of_run_bind hrun
      cases hreport
      cases hrun
      exact .failed _ hbuild

/-- All that asking for a form may come to. -/
inductive Asks (context : BuildContext) (f : Form) (s : Session) :
    Bool → Form → Session → Prop where
  | built (h : f.built.isSome) : Asks context f s true f s
  | failed (h : f.built = none) (herror : f.error.isSome) : Asks context f s false f s
  | builds {b : BuiltMaterial} {s' : Session} (h : f.Fresh)
      (hrun : (f.construct context).run s = .ok (.ok b, s')) :
      Asks context f s true (f.withBuilt b) s'
  | fails {error : MaterialError} {s' : Session} (h : f.Fresh) (note : Note)
      (hrun : (f.construct context).run s = .ok (.error error, s')) :
      Asks context f s false (f.withError error) (s'.apply (.note note))

theorem asks_of_run (hrun : (f.ensureBuilt context).run s = .ok ((ready, f'), s')) :
    f.Asks context s ready f' s' := by
  rcases f.fresh_or_tried with hfresh | hbuilt | ⟨hbuilt, herror⟩
  · rw [hfresh.ensureBuilt_eq] at hrun
    obtain ⟨⟨result, f₁⟩, s₁, hbuild, hrun⟩ := of_run_bind hrun
    cases hrun
    cases buildsTo_of_run hbuild with
    | built hconstruct =>
        rw [hfresh.applyAll_destruction] at hconstruct
        exact .builds hfresh hconstruct
    | failed note hconstruct =>
        rw [hfresh.applyAll_destruction] at hconstruct
        exact .fails hfresh note hconstruct
  · cases (ensureBuilt_of_built hbuilt s).symm.trans hrun
    exact .built hbuilt
  · cases (ensureBuilt_of_error hbuilt herror s).symm.trans hrun
    exact .failed hbuilt herror

/-- Asking for a fresh form stops where the build stops. -/
theorem Fresh.run_ensureBuilt_of_error {fault : Fault} (h : f.Fresh)
    (hrun : (f.construct context).run s = .error fault) :
    (f.ensureBuilt context).run s = .error fault := by
  rw [h.ensureBuilt_eq]
  refine run_bind_of_error ?_
  unfold build
  rw [run_bind (run_perform _ s), h.applyAll_destruction]
  exact run_bind_of_error hrun

/-- Asking for a fresh form gives what is built. -/
theorem Fresh.run_ensureBuilt_of_ok {b : BuiltMaterial} (h : f.Fresh)
    (hrun : (f.construct context).run s = .ok (.ok b, s')) :
    (f.ensureBuilt context).run s = .ok ((true, f.withBuilt b), s') := by
  have hbuild : (f.build context).run s = .ok ((.ok (), f.withBuilt b), s') := by
    unfold build
    rw [run_bind (run_perform _ s), h.applyAll_destruction]
    exact (run_bind hrun).trans rfl
  rw [h.ensureBuilt_eq]
  exact (run_bind hbuild).trans rfl

/-- A form that was asked for is built, or it is known that it cannot be. -/
theorem Asks.tried (h : f.Asks context s ready f' s') : f'.Tried := by
  cases h with
  | built h => exact .inl h
  | failed h herror => exact .inr ⟨h, herror⟩
  | builds _ _ => exact .inl rfl
  | fails _ _ _ => exact .inr ⟨rfl, rfl⟩

/-! ### Whether a form can be drawn -/

/-- The form is built, or it is fresh and builds now. -/
def Available (f : Form) (context : BuildContext) (s : Session) : Prop :=
  f.built.isSome ∨ f.Fresh ∧ ∃ b s', (f.construct context).run s = .ok (.ok b, s')

/-- The form is not built, and remembers a failure or fails to build now. -/
def Unavailable (f : Form) (context : BuildContext) (s : Session) : Prop :=
  f.built = none ∧
    (f.error.isSome ∨ ∃ error s', (f.construct context).run s = .ok (.error error, s'))

theorem Unavailable.not_available (h : f.Unavailable context s) : ¬ f.Available context s := by
  obtain ⟨hbuilt, hfails⟩ := h
  rintro (hsome | ⟨hfresh, b, s', hrun⟩)
  · rw [hbuilt] at hsome
    cases hsome
  · rcases hfails with herror | ⟨error, s', hrun'⟩
    · rw [hfresh.error] at herror
      cases herror
    · cases hrun.symm.trans hrun'

/-- A form is ready exactly if it can be drawn. -/
theorem Asks.ready_iff (h : f.Asks context s ready f' s') :
    (ready = true ↔ f.Available context s) ∧ (ready = false ↔ f.Unavailable context s) := by
  have hcases : ready = true ∧ f.Available context s ∨
      ready = false ∧ f.Unavailable context s := by
    cases h with
    | built h => exact .inl ⟨rfl, .inl h⟩
    | failed h herror => exact .inr ⟨rfl, h, .inl herror⟩
    | builds h hrun => exact .inl ⟨rfl, .inr ⟨h, _, _, hrun⟩⟩
    | fails h note hrun => exact .inr ⟨rfl, h.built, .inr ⟨_, _, hrun⟩⟩
  rcases hcases with ⟨rfl, havailable⟩ | ⟨rfl, hunavailable⟩
  · refine ⟨⟨fun _ => havailable, fun _ => rfl⟩, nofun, fun h => ?_⟩
    exact absurd havailable h.not_available
  · refine ⟨⟨nofun, fun h => ?_⟩, fun _ => hunavailable, fun _ => rfl⟩
    exact absurd h hunavailable.not_available

/-- Building leaves the answers of the device as they are. -/
theorem Asks.answersLike (h : f.Asks context s ready f' s') :
    s.device.AnswersLike s'.device := by
  cases h with
  | built h => exact .refl _
  | failed h herror => exact .refl _
  | builds h hrun => exact (f.mirrors_construct context).answersLike hrun
  | fails h note hrun =>
      have halike := (f.mirrors_construct context).answersLike hrun
      exact halike

theorem Available.mono (hst : s.device.AnswersLike t.device) (h : f.Available context s) :
    f.Available context t := by
  refine h.imp_right fun ⟨hfresh, b, s', hrun⟩ => ⟨hfresh, ?_⟩
  obtain ⟨answer, t', hrun', halike, -⟩ := (f.mirrors_construct context).of_ok hst hrun
  cases halike with
  | ok hb => exact ⟨_, t', hrun'⟩

theorem Unavailable.mono (hst : s.device.AnswersLike t.device) (h : f.Unavailable context s) :
    f.Unavailable context t := by
  refine ⟨h.1, h.2.imp_right fun ⟨error, s', hrun⟩ => ?_⟩
  obtain ⟨answer, t', hrun', halike, -⟩ := (f.mirrors_construct context).of_ok hst hrun
  cases halike with
  | error he => exact ⟨_, t', hrun'⟩

/-- Whether a form can be drawn, depends on the answers of the device alone. -/
theorem available_congr (hst : s.device.AnswersLike t.device) :
    (f.Available context s ↔ f.Available context t) ∧
      (f.Unavailable context s ↔ f.Unavailable context t) :=
  ⟨⟨.mono hst, .mono hst.symm⟩, .mono hst, .mono hst.symm⟩

/-! ### Forms that are in force -/

/-- The form is not built and failed at once, and what is built of it was built under `context`. -/
structure Current (context : BuildContext) (f : Form) : Prop where
  exclusive : f.built.isSome → f.error = none
  built : ∀ b ∈ f.built, ∃ s s', (f.construct context).run s = .ok (.ok b, s')

theorem Fresh.current (h : f.Fresh) (context : BuildContext) : f.Current context where
  exclusive _ := h.error
  built b hb := by
    rw [h.built] at hb
    cases hb

/-- A form is used: it is built, or asked for, or its passes are gone through, any number of times.
-/
inductive Used (context : BuildContext) : Form → Form → Prop where
  | build {f f' : Form} {result : Except MaterialError Unit} {s s' : Session}
      (hrun : (f.build context).run s = .ok ((result, f'), s')) : Used context f f'
  | ensureBuilt {f f' : Form} {ready : Bool} {s s' : Session}
      (hrun : (f.ensureBuilt context).run s = .ok ((ready, f'), s')) : Used context f f'
  | proceed (f : Form) (current : Option Nat) : Used context f { f with current := current }
  | trans {f f₁ f' : Form} (h : Used context f f₁) (h' : Used context f₁ f') : Used context f f'

theorem Used.subject_eq (h : f.Used context f') : f'.subject = f.subject := by
  induction h with
  | build hrun => cases buildsTo_of_run hrun <;> rfl
  | ensureBuilt hrun => cases asks_of_run hrun <;> rfl
  | proceed f current => rfl
  | trans _ _ ih ih' => exact ih'.trans ih

/-- Nothing that is done with a form changes its mark. -/
theorem Used.isHook_eq (h : f.Used context f') : f'.isHook = f.isHook := by
  induction h with
  | build hrun => cases buildsTo_of_run hrun <;> rfl
  | ensureBuilt hrun => cases asks_of_run hrun <;> rfl
  | proceed f current => rfl
  | trans _ _ ih ih' => exact ih'.trans ih

theorem current_withBuilt {b : BuiltMaterial}
    (hrun : (f.construct context).run s = .ok (.ok b, s')) :
    (f.withBuilt b).Current context where
  exclusive _ := rfl
  built := by
    rintro _ ⟨⟩
    exact ⟨s, s', hrun⟩

theorem current_withError (f : Form) (error : MaterialError) :
    (f.withError error).Current context where
  exclusive hbuilt := Bool.noConfusion hbuilt
  built b hb := absurd hb (Option.not_mem_none b)

theorem Current.used (hf : f.Current context) (h : f.Used context f') : f'.Current context := by
  induction h with
  | build hrun =>
      cases buildsTo_of_run hrun with
      | built hconstruct => exact current_withBuilt hconstruct
      | failed note _ => exact current_withError _ _
  | ensureBuilt hrun =>
      cases asks_of_run hrun with
      | built _ => exact hf
      | failed _ _ => exact hf
      | builds _ hconstruct => exact current_withBuilt hconstruct
      | fails _ note _ => exact current_withError _ _
  | proceed f current => exact ⟨hf.exclusive, hf.built⟩
  | trans _ _ ih ih' => exact ih' (ih hf)

/-- A form that was tried stays so when it is used. -/
theorem Tried.used (hf : f.Tried) (h : f.Used context f') : f'.Tried := by
  induction h with
  | build hrun =>
      cases buildsTo_of_run hrun with
      | built _ => exact .inl rfl
      | failed note _ => exact .inr ⟨rfl, rfl⟩
  | ensureBuilt hrun => exact tried_of_ensureBuilt hrun
  | proceed f current => exact hf
  | trans _ _ ih ih' => exact ih' (ih hf)

end Form

end MaterialPipeline
