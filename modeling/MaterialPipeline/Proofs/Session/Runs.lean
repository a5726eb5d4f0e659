import MaterialPipeline.Session

/-!
# Proofs — Session — Runs

How actions run.  An action takes a session to a value and a new session, or to a fault; the lemmas
below say which for the actions that others are made of, so that no proof about a larger action
opens them.

* `Session.extend` — more calls in the trace and more notes, and nothing else.
* `Device.refusal` — what the compiler answers to a program; it depends on the program and on how
  the device is set up, not on what was done with the device before.
* `run_bind` — an action that succeeds, followed by another.
* `Action.Yields` — an action whose result does not depend on the session.
-/

namespace MaterialPipeline

namespace Session

/-- The session with `calls` at the end of the trace and `notes` at the end of the notes. -/
def extend (s : Session) (calls : List Call) (notes : List Note) : Session where
  device := { s.device with calls := s.device.calls ++ calls.toArray }
  notes := s.notes ++ notes.toArray

theorem extend_nil (s : Session) : s.extend [] [] = s := by
  simp [extend]

theorem extend_extend (s : Session) (calls₁ calls₂ : List Call) (notes₁ notes₂ : List Note) :
    (s.extend calls₁ notes₁).extend calls₂ notes₂ =
      s.extend (calls₁ ++ calls₂) (notes₁ ++ notes₂) := by
  simp [extend, Array.append_assoc]

/-- Recording a call only adds it to the trace. -/
theorem record_eq_extend (s : Session) (c : Call) :
    { s with device := s.device.record c } = s.extend [c] [] := by
  simp [extend, Device.record]

/-- Notes come one after another and leave the device alone. -/
theorem applyAll_notes (s : Session) (notes : List Note) :
    s.applyAll (notes.map .note) = s.extend [] notes := by
  induction notes generalizing s with
  | nil => exact (extend_nil s).symm
  | cons n notes ih =>
      have step : s.apply (.note n) = s.extend [] [n] := by simp [apply, extend]
      rw [applyAll, List.map_cons, List.foldl_cons, ← applyAll, step, ih, extend_extend]
      rfl

end Session

namespace Action

variable {α β : Type} {s s' : Session}

theorem run_pure (a : α) (s : Session) : (pure a : Action α).run s = .ok (a, s) := rfl

/-- An action that succeeds, followed by another. -/
theorem run_bind {x : Action α} {f : α → Action β} {a : α} (h : x.run s = .ok (a, s')) :
    (x >>= f).run s = (f a).run s' := by
  rw [StateT.run_bind, h]
  rfl

/-- An action that fails, followed by another. -/
theorem run_bind_of_error {x : Action α} {f : α → Action β} {fault : Fault}
    (h : x.run s = .error fault) : (x >>= f).run s = .error fault := by
  rw [StateT.run_bind, h]
  rfl

/-- If an action followed by another succeeds, both do. -/
theorem of_run_bind {x : Action α} {f : α → Action β} {b : β}
    (h : (x >>= f).run s = .ok (b, s')) :
    ∃ a s₁, x.run s = .ok (a, s₁) ∧ (f a).run s₁ = .ok (b, s') := by
  rw [StateT.run_bind] at h
  cases hx : x.run s with
  | error fault =>
      rw [hx] at h
      cases h
  | ok r =>
      rw [hx] at h
      exact ⟨r.1, r.2, rfl, h⟩

/-- If an effect with a state of its own followed by another succeeds, both do. -/
theorem of_runs_bind {σ : Type} {x : StateT σ Action α} {f : α → StateT σ Action β} {b : β}
    {d d' : σ} (h : ((x >>= f).run d).run s = .ok ((b, d'), s')) :
    ∃ a d₁ s₁, (x.run d).run s = .ok ((a, d₁), s₁) ∧
      ((f a).run d₁).run s₁ = .ok ((b, d'), s') := by
  rw [StateT.run_bind] at h
  obtain ⟨⟨a, d₁⟩, s₁, hx, hf⟩ := of_run_bind h
  exact ⟨a, d₁, s₁, hx, hf⟩

/-- A computation that passes a check succeeds. -/
theorem exists_of_any_toOption {ε : Type} {x : Except ε α} {check : α → Bool}
    (h : x.toOption.any check = true) : ∃ a, x = .ok a ∧ check a = true := by
  cases x with
  | error e => cases h
  | ok a => exact ⟨a, rfl, h⟩

/-- What an action keeps of an element, it keeps of every element of a list. -/
theorem map_eq_of_run_mapM {γ : Type} {f : α → Action β} {g : α → γ} {g' : β → γ} {l : List α}
    {l' : List β} (hf : ∀ a b s s', (f a).run s = .ok (b, s') → g' b = g a)
    (h : (l.mapM f).run s = .ok (l', s')) : l'.map g' = l.map g := by
  induction l generalizing l' s with
  | nil =>
      cases h
      rfl
  | cons a rest ih =>
      rw [List.mapM_cons] at h
      obtain ⟨b, s₁, hb, h⟩ := of_run_bind h
      obtain ⟨bs, s₂, hbs, h⟩ := of_run_bind h
      cases h
      rw [List.map_cons, List.map_cons, hf a b _ _ hb, ih hbs]

/-- A computation does not touch the session. -/
theorem of_run_lift {x : Except Fault α} {a : α}
    (h : (liftM x : Action α).run s = .ok (a, s')) : s' = s ∧ x = .ok a := by
  cases x with
  | error fault => cases h
  | ok a =>
      cases h
      exact ⟨rfl, rfl⟩

/-- A computation that succeeds, followed by an action. -/
theorem run_lift_bind {x : Except Fault α} {f : α → Action β} {a : α} (h : x = .ok a) :
    (((liftM x : Action α)) >>= f).run s = (f a).run s := by
  subst h
  rfl

/-- An effect with a state of its own that succeeds, followed by another. -/
theorem runs_bind {σ : Type} {x : StateT σ Action α} {f : α → StateT σ Action β} {a : α} {d d' : σ}
    (h : (x.run d).run s = .ok ((a, d'), s')) :
    ((x >>= f).run d).run s = ((f a).run d').run s' := by
  rw [StateT.run_bind, run_bind h]

/-- An effect that fails, followed by another. -/
theorem runs_bind_of_error {σ : Type} {x : StateT σ Action α} {f : α → StateT σ Action β} {d : σ}
    {fault : Fault} (h : (x.run d).run s = .error fault) :
    ((x >>= f).run d).run s = .error fault := by
  rw [StateT.run_bind]
  exact run_bind_of_error h

/-- An action that succeeds, followed by an effect with a state of its own. -/
theorem runs_lift_bind {σ : Type} {x : Action α} {f : α → StateT σ Action β} {a : α} (d : σ)
    (h : x.run s = .ok (a, s')) :
    (((liftM x : StateT σ Action α) >>= f).run d).run s = ((f a).run d).run s' := by
  have hx : (((liftM x : StateT σ Action α).run d).run s) = .ok ((a, d), s') := by
    show StateT.run (x >>= fun a => (pure (a, d) : Action (α × σ))) s = _
    rw [run_bind h]
    rfl
  rw [StateT.run_bind, run_bind hx]

/-- An action that fails, followed by an effect with a state of its own. -/
theorem runs_lift_bind_of_error {σ : Type} {x : Action α} {f : α → StateT σ Action β}
    {fault : Fault} (d : σ) (h : x.run s = .error fault) :
    (((liftM x : StateT σ Action α) >>= f).run d).run s = .error fault := by
  refine runs_bind_of_error ?_
  show StateT.run (x >>= fun a => (pure (a, d) : Action (α × σ))) s = _
  exact run_bind_of_error h

theorem runs_get_bind {σ : Type} {f : σ → StateT σ Action β} (d : σ) :
    ((get >>= f : StateT σ Action β).run d).run s = ((f d).run d).run s := rfl

/-- If an action followed by an effect with a state of its own succeeds, both do. -/
theorem of_runs_lift_bind {σ : Type} {x : Action α} {f : α → StateT σ Action β} {r : β × σ} {d : σ}
    (h : (((liftM x : StateT σ Action α) >>= f).run d).run s = .ok (r, s')) :
    ∃ a s₁, x.run s = .ok (a, s₁) ∧ ((f a).run d).run s₁ = .ok (r, s') := by
  obtain ⟨a, d₁, s₁, hx, hf⟩ := of_runs_bind h
  have hx : StateT.run (x >>= fun a => (pure (a, d) : Action (α × σ))) s = .ok ((a, d₁), s₁) := hx
  obtain ⟨a', s₂, hx', hpure⟩ := of_run_bind hx
  cases hpure
  exact ⟨a, s₁, hx', hf⟩

/-- A computation does not touch a state of its own either. -/
theorem of_runs_lift {σ : Type} {x : Except Fault α} {a : α} {d d' : σ}
    (h : ((liftM x : StateT σ Action α).run d).run s = .ok ((a, d'), s')) :
    d' = d ∧ s' = s ∧ x = .ok a := by
  cases x with
  | error fault => cases h
  | ok a =>
      cases h
      exact ⟨rfl, rfl, rfl⟩

theorem run_reportAll (notes : List Note) (s : Session) :
    (reportAll notes).run s = .ok ((), s.extend [] notes) := by
  rw [← Session.applyAll_notes]
  rfl

theorem run_report (n : Note) (s : Session) :
    (report n).run s = .ok ((), s.extend [] [n]) :=
  run_reportAll [n] s

theorem run_perform (events : List Event) (s : Session) :
    (perform events).run s = .ok ((), s.applyAll events) := rfl

theorem run_onDevice (f : Device → α × Device) (s : Session) :
    (onDevice f).run s = .ok ((f s.device).1, { s with device := (f s.device).2 }) := rfl

/-! ### Results that do not depend on the session -/

/-- Wherever the action is run, it ends and gives `a`. -/
def Yields (x : Action α) (a : α) : Prop :=
  ∀ s : Session, ∃ s', x.run s = .ok (a, s')

namespace Yields

theorem pure (a : α) : Yields (Pure.pure a) a :=
  fun s => ⟨s, rfl⟩

theorem bind {x : Action α} {f : α → Action β} {a : α} {b : β} (hx : Yields x a)
    (hf : Yields (f a) b) : Yields (x >>= f) b := by
  intro s
  obtain ⟨s₁, h₁⟩ := hx s
  obtain ⟨s₂, h₂⟩ := hf s₁
  exact ⟨s₂, (run_bind h₁).trans h₂⟩

theorem perform (events : List Event) : Yields (Action.perform events) () :=
  fun s => ⟨s.applyAll events, rfl⟩

/-- One step after another. -/
theorem foldlM {step : β → α → Action β} {next : β → α → β}
    (hstep : ∀ b a, Yields (step b a) (next b a)) (l : List α) (b : β) :
    Yields (l.foldlM step b) (l.foldl next b) := by
  induction l generalizing b with
  | nil => exact pure b
  | cons a rest ih =>
      rw [List.foldlM_cons]
      exact (hstep b a).bind (ih _)

/-- There is no other result. -/
theorem eq {x : Action α} {a b : α} (hx : Yields x a) (hrun : x.run s = .ok (b, s')) : b = a := by
  obtain ⟨s₁, h⟩ := hx s
  cases h.symm.trans hrun
  rfl

end Yields

end Action

namespace Device

/-- Why the device refuses a program, if it does. -/
def refusal (d : Device) (p : Program) : Option DeviceError :=
  match (d.createProgram p).1 with
  | .ok _ => none
  | .error error => some error

/-- The device after it compiled `p`. -/
def compiled (d : Device) (p : Program) : Device :=
  { d.record (.createProgram p.label p.features) with programs := d.programs.push (some p) }

/-- A program that compiles gets the next number. -/
theorem createProgram_of_none {d : Device} {p : Program} (h : d.refusal p = none) :
    d.createProgram p = (.ok ⟨d.programs.size⟩, d.compiled p) := by
  unfold refusal createProgram at h
  unfold createProgram compiled
  by_cases hl : d.lost
  · simp [hl, record] at h
  · by_cases hr : d.rejects p
    · simp [hl, hr, record] at h
    · simp [hl, hr, record]

/-- A program that is refused is in the trace too. -/
theorem createProgram_of_some {d : Device} {p : Program} {error : DeviceError}
    (h : d.refusal p = some error) :
    d.createProgram p = (.error error, d.record (.createProgram p.label p.features)) := by
  unfold refusal createProgram at h
  unfold createProgram
  by_cases hl : d.lost
  · simp [hl, record] at h
    simp [hl, h, record]
  · by_cases hr : d.rejects p
    · simp [hl, hr, record] at h
      simp [hl, hr, h, record]
    · simp [hl, hr, record] at h

/-- Two devices that are set up alike refuse the same programs. -/
theorem refusal_congr {d d' : Device} (hl : d'.lost = d.lost) (hr : d'.rejects = d.rejects)
    (he : d'.programError = d.programError) : d'.refusal = d.refusal := by
  funext p
  simp only [refusal, createProgram, record, hl, hr, he]
  by_cases h₁ : d.lost
  · simp [h₁]
  · by_cases h₂ : d.rejects p <;> simp [h₁, h₂]

/-- A device compiles a program exactly when it is gone or does not compile it. -/
theorem refusal_eq_none_iff {d : Device} {p : Program} :
    d.refusal p = none ↔ d.lost = false ∧ d.rejects p = false := by
  simp only [refusal, createProgram, record]
  by_cases h₁ : d.lost
  · simp [h₁]
  · by_cases h₂ : d.rejects p <;> simp [h₁, h₂]

end Device

/-- More calls in the trace and more notes do not change what the compiler answers. -/
theorem Session.refusal_extend (s : Session) (calls : List Call) (notes : List Note) :
    (s.extend calls notes).device.refusal = s.device.refusal :=
  Device.refusal_congr rfl rfl rfl

end MaterialPipeline
