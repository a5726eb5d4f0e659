import MaterialPipeline.Proofs.Material.Steps

/-!
# Proofs — Material — Asking

What a library answers when it is asked for a form to draw with.  A form is fresh, or built, or it
failed; it is built at most once before it is torn down, and then the answer is known.

* `Library.Missing`: a reference that names nothing.
* `Library.Answers`: all that asking comes to, in terms of what was there before.
* `Library.Spell`: a stretch in the life of a library in which the form at a place is not torn down,
with the number of times that asking built it.
* `Library.InUse.answers`: the library answers, and at most one build is tried in a spell.
-/

namespace MaterialPipeline.Library

open MaterialPipeline.Action

variable {l l' : Library} {s s' : Session} {r : MaterialRef} {place : FormPlace} {f f' : Form}
  {found : Option (FormPlace × Form)} {deed : Deed}

/-! ### One answer -/

/-- The handle is stale, or the instance does not have the hook. -/
def Missing (l : Library) (r : MaterialRef) : Prop :=
  l.instance? r.id = .ok none ∨
    ∃ i v, l.instance? r.id = .ok (some i) ∧ r.hook = some v ∧ i.hooks.get v = none

theorem missing_iff : l.Missing r ↔ l.form? r = .ok none := by
  unfold Missing form?
  cases l.instance? r.id with
  | error fault => simp [bind, Except.bind]
  | ok x =>
      obtain ⟨id, hook⟩ := r
      cases x with
      | none => simp [bind, Except.bind, pure, Except.pure]
      | some i =>
          cases hook <;>
            simp [bind, Except.bind, pure, Except.pure, Instance.formOf, Instance.resolve]

theorem At.not_missing (hf : l.At (.own r) f) : ¬ l.Missing r := by
  intro hmissing
  cases hf.symm.trans (missing_iff.mp hmissing)

/-- What the library answers when it is asked for `r`, and what else asking does. -/
structure Answers (l : Library) (r : MaterialRef) (s : Session)
    (found : Option (FormPlace × Form)) (l' : Library) (s' : Session) : Prop where
  /-- Nothing is given if there is nothing to build, or neither the form nor the stand-in can be
  drawn. -/
  none_iff : found = none ↔ l.Missing r ∨
    (∃ f, l.At (.own r) f ∧ f.Unavailable l.context s) ∧ l.warning.Unavailable l.context s
  /-- What is given is built, and is kept at the place that is given. -/
  given : ∀ place f, found = some (place, f) → f.built.isSome ∧ l'.At place f
  /-- The form itself is given if it can be drawn. -/
  own : ∀ f, l.At (.own r) f → f.Available l.context s → ∃ f', found = some (.own r, f')
  /-- Else the stand-in is given if it can be drawn. -/
  standIn : ∀ f, l.At (.own r) f → f.Unavailable l.context s →
    l.warning.Available l.context s → ∃ w, found = some (.warning, w)
  /-- If there is no form, nothing happens. -/
  missing : l.Missing r → l' = l ∧ s' = s
  /-- The form is asked for, and the stand-in after it if the form is not ready; this is all that
  happens. -/
  asks : ∀ f, l.At (.own r) f → ∃ ready f' s₁, f.Asks l.context s ready f' s₁ ∧
    l'.At (.own r) f' ∧
      if ready then s' = s₁ ∧ l'.warning = l.warning
      else ∃ ready', l.warning.Asks l.context s₁ ready' l'.warning s'

theorem answers_of_run (hrun : (l.renderable r).run s = .ok ((found, l'), s')) :
    l.Answers r s found l' s' := by
  have hgiven : ∀ place f, found = some (place, f) → f.built.isSome ∧ l'.At place f := by
    rintro place f rfl
    exact (at_of_renderable hrun).symm
  obtain ⟨hform, rfl, rfl, rfl⟩ | ⟨f, f', hf, hensure, hset, rfl⟩ |
    ⟨f, f', s₁, l₁, ready, w, hf, hensure, hset, hwarning, rfl, rfl⟩ := renderable_cases hrun
  · have hmissing := missing_iff.mpr hform
    have hnot (f : Form) (hf : l'.At (.own r) f) : False := hf.not_missing hmissing
    exact {
      none_iff := iff_of_true rfl (.inl hmissing)
      given := hgiven
      own := fun f hf => (hnot f hf).elim
      standIn := fun f hf => (hnot f hf).elim
      missing := fun _ => ⟨rfl, rfl⟩
      asks := fun f hf => (hnot f hf).elim }
  · have hasks := Form.asks_of_run hensure
    have havailable := hasks.ready_iff.1.mp rfl
    have hnot (g : Form) (hg : l.At (.own r) g) : ¬ g.Unavailable l.context s := by
      cases hf.unique hg
      exact fun h => h.not_available havailable
    refine {
      none_iff := iff_of_false nofun ?_
      given := hgiven
      own := fun _ _ _ => ⟨f', rfl⟩
      standIn := fun g hg h => absurd h (hnot g hg)
      missing := fun h => absurd h hf.not_missing
      asks := fun g hg => ?_ }
    · rintro (hmissing | ⟨⟨g, hg, h⟩, -⟩)
      · exact hf.not_missing hmissing
      · exact hnot g hg h
    · cases hf.unique hg
      exact ⟨true, f', s', hasks, (at_setForm hf hset).1, rfl, warning_setForm hset⟩
  · have hasks := Form.asks_of_run hensure
    have hunavailable := hasks.ready_iff.2.mp rfl
    rw [warning_setForm hset, (at_setForm hf hset).2] at hwarning
    have hasks' := Form.asks_of_run hwarning
    -- The device answers as it did before the form was asked for.
    obtain ⟨havailable, hunavailable'⟩ :=
      @Form.available_congr s s₁ l.context l.warning hasks.answersLike
    have hready := hasks'.ready_iff
    rw [← havailable, ← hunavailable'] at hready
    have hnot (g : Form) (hg : l.At (.own r) g) : ¬ g.Available l.context s := by
      cases hf.unique hg
      exact hunavailable.not_available
    refine {
      none_iff := ?_
      given := hgiven
      own := fun g hg h => absurd h (hnot g hg)
      standIn := fun g hg _ h => ⟨w, by rw [hready.1.mpr h]; rfl⟩
      missing := fun h => absurd h hf.not_missing
      asks := fun g hg => ?_ }
    · have hnone : (if ready = true then some (FormPlace.warning, w) else none) = none ↔
          ready = false := by
        cases ready <;> simp
      rw [hnone, hready.2, or_iff_right hf.not_missing]
      exact (and_iff_right ⟨f, hf, hunavailable⟩).symm
    · cases hf.unique hg
      exact ⟨false, f', s₁, hasks, (at_setForm hf hset).1, ready, hasks'⟩

/-! ### Builds between teardowns -/

/-- When `r` is asked for, the form at a place is built. -/
inductive Builds (l : Library) (r : MaterialRef) (s : Session) : FormPlace → Prop where
  | own {f : Form} (hf : l.At (.own r) f) (hfresh : f.Fresh) : Builds l r s (.own r)
  | warning {f : Form} (hf : l.At (.own r) f) (h : f.Unavailable l.context s)
      (hfresh : l.warning.Fresh) : Builds l r s .warning

/-- From `l` to another library the form at the place was not torn down, and was built `n` times
because it, or a form that it stands in for, was asked for. -/
inductive Spell (place : FormPlace) (l : Library) : Nat → Library → Prop where
  | refl : Spell place l 0 l
  | step {n : Nat} {l₁ l' : Library} {deed : Deed} (h : Spell place l n l₁)
      (hstep : Step l₁ deed l') (hkeeps : ¬ deed.TearsDown l₁ place) : Spell place l n l'
  | builds {n : Nat} {l₁ l' : Library} {s s' : Session} {r : MaterialRef}
      {found : Option (FormPlace × Form)} (h : Spell place l n l₁)
      (hrun : (l₁.renderable r).run s = .ok ((found, l'), s')) (hbuilds : l₁.Builds r s place) :
      Spell place l (n + 1) l'

/-- A form that was tried stays so until it is torn down. -/
theorem Follows.tried (h : Follows deed l l') (hkeeps : ¬ deed.TearsDown l place)
    (hf : l.At place f) (htried : f.Tried) : ∃ f', l'.At place f' ∧ f'.Tried := by
  cases place with
  | warning =>
      cases hf
      obtain ⟨f', hf', htried'⟩ := h.warning.tried hkeeps htried
      cases hf'
      exact ⟨_, rfl, htried'⟩
  | own r =>
      obtain ⟨i, hi, hof⟩ := form?_eq_some hf
      have halike := h.own r.id
      rw [hi] at halike
      generalize hx : l'.instance? r.id = x at halike
      cases halike with
      | ok hchange =>
          cases hchange with
          | same => exact ⟨f, at_own hx hof, htried⟩
          | leaves hleaves => exact absurd (hleaves r.hook) hkeeps
          | becomes hbecomes =>
              have hform := hbecomes.forms r.hook
              rw [hof] at hform
              obtain ⟨f', hf', htried'⟩ := hform.tried hkeeps htried
              exact ⟨f', at_own hx hf', htried'⟩

/-- A form that is built because it is asked for was fresh, and is tried then. -/
theorem Answers.tried (h : l.Answers r s found l' s') (hbuilds : l.Builds r s place) :
    (∃ f, l.At place f ∧ f.Fresh) ∧ ∃ f', l'.At place f' ∧ f'.Tried := by
  cases hbuilds with
  | @own f hf hfresh =>
      obtain ⟨ready, f', s₁, hasks, hf', -⟩ := h.asks f hf
      exact ⟨⟨f, hf, hfresh⟩, f', hf', hasks.tried⟩
  | @warning f hf hunavailable hfresh =>
      obtain ⟨ready, f', s₁, hasks, -, hthen⟩ := h.asks f hf
      rw [hasks.ready_iff.2.mpr hunavailable] at hthen
      obtain ⟨ready', hasks'⟩ := hthen
      exact ⟨⟨_, rfl, hfresh⟩, _, rfl, hasks'.tried⟩

theorem Spell.bounds {n : Nat} (hl : l.InUse) (h : Spell place l n l') :
    l'.InUse ∧ (n = 0 ∨ n = 1 ∧ ∃ f, l'.At place f ∧ f.Tried) := by
  induction h with
  | refl => exact ⟨hl, .inl rfl⟩
  | step _ hstep hkeeps ih =>
      obtain ⟨hl₁, hcount⟩ := ih
      refine ⟨hl₁.step hstep, hcount.imp_right fun ⟨hn, f, hf, htried⟩ => ⟨hn, ?_⟩⟩
      exact (hstep.follows hl₁.inForce.valid).tried hkeeps hf htried
  | builds _ hrun hbuilds ih =>
      obtain ⟨hl₁, hcount⟩ := ih
      obtain ⟨⟨f, hf, hfresh⟩, htried⟩ := (answers_of_run hrun).tried hbuilds
      refine ⟨hl₁.step (.ask hrun), .inr ⟨?_, htried⟩⟩
      rcases hcount with rfl | ⟨-, f', hf', htried'⟩
      · rfl
      · cases hf.unique hf'
        exact absurd htried' hfresh.not_tried

/-- **What asking comes to.**  In a library in use no form is built and failed at once; between two
teardowns of the form at a place, asking builds it at most once; and whatever the device does, asking
ends, with nothing if there is nothing to draw with, or else with a form that is built: the one that
is asked for if it is built or builds now, and the stand-in if not.  A form that is built or failed
is left alone.  The handle must name a position, and 32 bits hold what features cost together. -/
theorem InUse.answers (hl : l.InUse) :
    (∀ place f, l.At place f → f.built.isSome → f.error = none) ∧
      (∀ place n l', Spell place l n l' → n ≤ 1) ∧
      ∀ r s, (∃ position, r.id.position = .ok position) →
        (∀ f, l.At (.own r) f → f.Counts l.context) → l.warning.Counts l.context →
        ∃ found l' s', (l.renderable r).run s = .ok ((found, l'), s') ∧
          l.Answers r s found l' s' := by
  refine ⟨fun place f hf hbuilt => ?_, fun place n l' h => ?_,
    fun r s ⟨position, hposition⟩ hown hwarning => ?_⟩
  · exact (hl.inForce.current hf).exclusive hbuilt
  · rcases (h.bounds hl).2 with rfl | ⟨rfl, -⟩
    · exact Nat.zero_le 1
    · exact Nat.le_refl 1
  · obtain ⟨found, l', s', hrun⟩ := exists_run_of_counts hposition hown hwarning s
    exact ⟨found, l', s', hrun, answers_of_run hrun⟩

/-- The first handle of a new library, with the material taken into use. -/
theorem exists_inUse {registry : Registry} (m : Material) (format : VertexFormat)
    (hcounts : BuildContext.Counts ⟨registry, {}⟩ .warning .positionNormalUv none) :
    ∃ l f, InUse l ∧ l.context = ⟨registry, {}⟩ ∧ l.At (.own ⟨.new 0 0, none⟩) f ∧
      f = { material := m, format := format } := by
  obtain ⟨l₀, s, hnew⟩ := exists_run_new_of_counts hcounts {}
  obtain ⟨-, -, hi⟩ := created_new hnew m format
  exact ⟨(l₀.created m format).2, _, (InUse.new hnew).created m format, (of_run_new hnew).1,
    at_own (v := none) hi rfl, rfl⟩

/-- A stone is taken into use, and asked for. -/
theorem answers_of_rock : ∃ l r f, InUse l ∧ (∃ position, r.id.position = .ok position) ∧
    l.At (.own r) f ∧ (∀ f, l.At (.own r) f → f.Counts l.context) ∧
      l.warning.Counts l.context ∧ ∃ found l' s',
        (l.renderable r).run {} = .ok ((found, l'), s') ∧ l.Answers r {} found l' s' := by
  have hwarning : BuildContext.Counts ⟨.builtin, {}⟩ .warning .positionNormalUv none :=
    BuildContext.counts_builtin rfl _ _ _
  obtain ⟨l, f, hl, hcontext, hf, -⟩ :=
    exists_inUse { name := "rock", stages := [.diffuse "a.png"] } .positionNormalUv hwarning
  have hr : l.context.registry = .builtin := by rw [hcontext]
  have hposition : ∃ position, Slot.position (.new 0 0) = .ok position := ⟨0, rfl⟩
  have hcounts (f : Form) : f.Counts l.context := f.counts_builtin hr
  exact ⟨l, ⟨.new 0 0, none⟩, f, hl, hposition, hf, fun f _ => hcounts f, hcounts _,
    hl.answers.2.2 _ {} hposition (fun f _ => hcounts f) (hcounts _)⟩

/-- A registry in which a diffuse map costs all but one of the textures that 32 bits count. -/
def overpriced : Registry :=
  Registry.builtin.register .diffuseMap { cost := fun _ _ => ⟨4294967295, 0⟩ }

/-- A stone with two maps. -/
def paintedRock : Material where
  name := "rock"
  stages := [{ diffuseMap := some "a.png", overlayMap := some "b.png", emissive := true }]

/-- Asking does not always end: it stops if the handle names no position, although it is stale then,
and if 32 bits do not hold what the maps of the form cost, although the stand-in can be built. -/
theorem renderable_stops :
    (∃ l, InUse l ∧ l.context = ⟨.builtin, {}⟩ ∧
      (l.renderable ⟨.new 0 4294967295, none⟩).run {} = .error .subtractOverflow) ∧
    ∃ l, InUse l ∧ l.context = ⟨overpriced, {}⟩ ∧
      l.At (.own ⟨.new 0 0, none⟩) { material := paintedRock, format := .positionNormalUv } ∧
        (l.renderable ⟨.new 0 0, none⟩).run {} = .error .addOverflow := by
  constructor
  · obtain ⟨l, s, hnew⟩ := exists_run_new {} {}
    exact ⟨l, .new hnew, (of_run_new hnew).1, run_bind_of_error rfl⟩
  · have hwarning : BuildContext.Counts ⟨overpriced, {}⟩ .warning .positionNormalUv none := by
      intro layers hlayers block hblock
      have hbounded : ∀ block ∈ ((Material.warning.layers {} .positionNormalUv none).toOption.getD
          []).sublists', (overpriced.total (Layer.union block)).Bounded := by decide +kernel
      have hlayers : Material.warning.layers {} .positionNormalUv none = .ok layers := hlayers
      rw [hlayers] at hbounded
      exact hbounded block (List.mem_sublists'.mpr hblock.sublist)
    obtain ⟨l, f, hl, hcontext, hf, rfl⟩ := exists_inUse paintedRock .positionNormalUv hwarning
    obtain ⟨layers, hlayers, hnot⟩ : ∃ layers,
        paintedRock.layers {} .positionNormalUv none = .ok layers ∧
          ¬ (overpriced.total (Layer.union layers)).Bounded := ⟨_, rfl, by decide +kernel⟩
    refine ⟨l, hl, hcontext, hf, ?_⟩
    unfold renderable
    rw [run_lift_bind hf]
    refine run_bind_of_error (Form.Fresh.run_ensureBuilt_of_error ⟨rfl, rfl⟩ ?_)
    rw [hcontext]
    exact @BuiltMaterial.run_build_of_not_bounded ⟨overpriced, {}⟩ paintedRock .positionNormalUv
      none layers hlayers hnot _

end MaterialPipeline.Library
