import MaterialPipeline.Proofs.Session.Runs

/-!
# Proofs — Session — Mirrors

Two actions side by side.  They run on devices that *answer alike*: the devices may have been used in
different ways, but have the same limits, and refuse the same programs and the same textures.  Two
actions *mirror* each other when such runs stop for the same fault, or both end, with results that
are related, and without changing what either device answers.

* `Device.AnswersLike`: devices that answer alike.
* `AlikeAnswers`: two answers, both refusals or both not.
* `Action.Mirrors`: the judgement.  It is closed under sequencing (`bind`, `bind_answer`): what comes
first need only give results that are related closely enough for what comes next.
* `Action.Mirrors.of_ok`: what the run of one says about the other.
-/

namespace MaterialPipeline

/-! ### Devices that answer alike -/

/-- The device `d'` has the limits of `d`, and refuses the same programs and the same textures, for
the same reasons. -/
structure Device.AnswersLike (d d' : Device) : Prop where
  limits : d'.limits = d.limits
  rejects : d'.rejects = d.rejects
  programError : d'.programError = d.programError
  missing : d'.missing = d.missing
  textureError : d'.textureError = d.textureError
  lost : d'.lost = d.lost

/-- Two answers that are alike: both are refusals, or neither is, and what they carry is related. -/
inductive AlikeAnswers {ε ε' α β : Type} (E : ε → ε' → Prop) (R : α → β → Prop) :
    Except ε α → Except ε' β → Prop where
  | error {e : ε} {e' : ε'} (h : E e e') : AlikeAnswers E R (.error e) (.error e')
  | ok {a : α} {b : β} (h : R a b) : AlikeAnswers E R (.ok a) (.ok b)

namespace Device.AnswersLike

variable {d d' d'' : Device}

theorem refl (d : Device) : d.AnswersLike d :=
  ⟨rfl, rfl, rfl, rfl, rfl, rfl⟩

theorem symm (h : d.AnswersLike d') : d'.AnswersLike d :=
  ⟨h.limits.symm, h.rejects.symm, h.programError.symm, h.missing.symm, h.textureError.symm,
    h.lost.symm⟩

theorem trans (h : d.AnswersLike d') (h' : d'.AnswersLike d'') : d.AnswersLike d'' :=
  ⟨h'.limits.trans h.limits, h'.rejects.trans h.rejects, h'.programError.trans h.programError,
    h'.missing.trans h.missing, h'.textureError.trans h.textureError, h'.lost.trans h.lost⟩

theorem issue (d : Device) (c : Call) : d.AnswersLike (d.issue c) := by
  cases c <;> exact ⟨rfl, rfl, rfl, rfl, rfl, rfl⟩

theorem createProgram (d : Device) (p : Program) : d.AnswersLike (d.createProgram p).2 := by
  cases h : d.refusal p with
  | none =>
      rw [createProgram_of_none h]
      exact ⟨rfl, rfl, rfl, rfl, rfl, rfl⟩
  | some error =>
      rw [createProgram_of_some h]
      exact ⟨rfl, rfl, rfl, rfl, rfl, rfl⟩

theorem createState (d : Device) (b : StateBlock) : d.AnswersLike (d.createState b).2 :=
  ⟨rfl, rfl, rfl, rfl, rfl, rfl⟩

theorem loadTexture (d : Device) (path : String) : d.AnswersLike (d.loadTexture path).2 := by
  unfold Device.loadTexture
  dsimp only
  split
  · exact ⟨rfl, rfl, rfl, rfl, rfl, rfl⟩
  · split <;> exact ⟨rfl, rfl, rfl, rfl, rfl, rfl⟩

theorem createTarget (d : Device) (t : Target) : d.AnswersLike (d.createTarget t).2 := by
  unfold Device.createTarget
  dsimp only
  split
  · exact ⟨rfl, rfl, rfl, rfl, rfl, rfl⟩
  · split <;> exact ⟨rfl, rfl, rfl, rfl, rfl, rfl⟩

/-- Devices that answer alike refuse the same programs, for the same reason. -/
theorem refusal (h : d.AnswersLike d') : d'.refusal = d.refusal :=
  refusal_congr h.lost h.rejects h.programError

/-- Devices that answer alike compile the same programs, and refuse the others for the same reason.
-/
theorem program (h : d.AnswersLike d') (p : Program) :
    AlikeAnswers Eq (fun _ _ => True) (d.createProgram p).1 (d'.createProgram p).1 := by
  have hsame := h.refusal
  cases hrefusal : d.refusal p with
  | none =>
      rw [createProgram_of_none hrefusal, createProgram_of_none (hsame ▸ hrefusal)]
      exact .ok trivial
  | some error =>
      rw [createProgram_of_some hrefusal, createProgram_of_some (hsame ▸ hrefusal)]
      exact .error rfl

/-- Devices that answer alike load the same textures, and refuse the others for the same reason. -/
theorem texture (h : d.AnswersLike d') (path : String) :
    AlikeAnswers Eq (fun _ _ => True) (d.loadTexture path).1 (d'.loadTexture path).1 := by
  by_cases hlost : d.lost
  · simp only [Device.loadTexture, record, h.lost, hlost, if_true]
    exact .error rfl
  · by_cases hmissing : d.missing.contains path
    · simp only [Device.loadTexture, record, h.lost, hlost, h.missing, h.textureError, hmissing,
        if_true]
      exact .error rfl
    · simp only [Device.loadTexture, record, h.lost, hlost, h.missing, hmissing]
      exact .ok trivial

end Device.AnswersLike

theorem Session.answersLike_extend (s : Session) (calls : List Call) (notes : List Note) :
    s.device.AnswersLike (s.extend calls notes).device :=
  ⟨rfl, rfl, rfl, rfl, rfl, rfl⟩

theorem Session.answersLike_applyAll (s : Session) (events : List Event) :
    s.device.AnswersLike (s.applyAll events).device := by
  induction events generalizing s with
  | nil => exact .refl _
  | cons e rest ih =>
      refine Device.AnswersLike.trans ?_ (ih (s.apply e))
      cases e with
      | call c => exact .issue s.device c
      | note n => exact .refl _

namespace Action

variable {α β γ δ : Type} {R : α → β → Prop} {Q : γ → δ → Prop}

/-! ### Two runs -/

/-- Two runs end alike: in the same fault, or with results that are related, on devices that answer
like `d`. -/
inductive EndAlike (d : Device) (R : α → β → Prop) :
    Except Fault (α × Session) → Except Fault (β × Session) → Prop where
  | fault (fault : Fault) : EndAlike d R (.error fault) (.error fault)
  | ok {a : α} {b : β} {s t : Session} (hs : d.AnswersLike s.device) (ht : d.AnswersLike t.device)
      (h : R a b) : EndAlike d R (.ok (a, s)) (.ok (b, t))

theorem EndAlike.of_answersLike {d d' : Device} {x : Except Fault (α × Session)}
    {y : Except Fault (β × Session)} (hd : d.AnswersLike d') (h : EndAlike d' R x y) :
    EndAlike d R x y := by
  cases h with
  | fault fault => exact .fault fault
  | ok hs ht h => exact .ok (hd.trans hs) (hd.trans ht) h

/-- On devices that answer alike, the two actions end alike. -/
def Mirrors (R : α → β → Prop) (x : Action α) (y : Action β) : Prop :=
  ∀ s t : Session, s.device.AnswersLike t.device → EndAlike s.device R (x.run s) (y.run t)

namespace Mirrors

theorem pure {a : α} {b : β} (h : R a b) : Mirrors R (Pure.pure a) (Pure.pure b) :=
  fun s _ hst => .ok (.refl s.device) hst h

theorem bind {x : Action γ} {y : Action δ} {f : γ → Action α} {g : δ → Action β}
    (hx : Mirrors Q x y) (hf : ∀ c d, Q c d → Mirrors R (f c) (g d)) :
    Mirrors R (x >>= f) (y >>= g) := by
  intro s t hst
  have hends := hx s t hst
  rw [StateT.run_bind, StateT.run_bind]
  generalize x.run s = r at hends ⊢
  generalize y.run t = r' at hends ⊢
  cases hends with
  | fault fault => exact .fault fault
  | ok hs ht h => exact .of_answersLike hs (hf _ _ h _ _ (hs.symm.trans ht))

/-- An action that answers, and what is done with the answer. -/
theorem bind_answer {ε ε' : Type} {E : ε → ε' → Prop} {x : Action (Except ε γ)}
    {y : Action (Except ε' δ)} {f : Except ε γ → Action α} {g : Except ε' δ → Action β}
    (hx : Mirrors (AlikeAnswers E Q) x y)
    (herror : ∀ e e', E e e' → Mirrors R (f (.error e)) (g (.error e')))
    (hok : ∀ c d, Q c d → Mirrors R (f (.ok c)) (g (.ok d))) :
    Mirrors R (x >>= f) (y >>= g) := by
  refine hx.bind fun r r' hr => ?_
  cases hr with
  | error h => exact herror _ _ h
  | ok h => exact hok _ _ h

/-- The same computation on both sides; what follows may use that it succeeded. -/
theorem lift_bind {e : Except Fault γ} {f : γ → Action α} {g : γ → Action β}
    (h : ∀ c, e = .ok c → Mirrors R (f c) (g c)) :
    Mirrors R ((liftM e : Action γ) >>= f) ((liftM e : Action γ) >>= g) := by
  cases e with
  | error fault => exact fun _ _ _ => .fault fault
  | ok c => exact h c rfl

/-- What is carried out on either side does not matter. -/
theorem perform (events events' : List Event) :
    Mirrors (fun _ _ => True) (Action.perform events) (Action.perform events') :=
  fun s t hst => .ok (s.answersLike_applyAll events) (hst.trans (t.answersLike_applyAll events'))
    trivial

theorem limits : Mirrors Eq Action.limits Action.limits :=
  fun s _ hst => .ok (.refl s.device) hst hst.limits.symm

/-- An operation of the device. -/
theorem onDevice {f : Device → α × Device} {g : Device → β × Device}
    (hf : ∀ d : Device, d.AnswersLike (f d).2) (hg : ∀ d : Device, d.AnswersLike (g d).2)
    (h : ∀ d d' : Device, d.AnswersLike d' → R (f d).1 (g d').1) :
    Mirrors R (Action.onDevice f) (Action.onDevice g) :=
  fun s t hst => .ok (hf s.device) (hst.trans (hg t.device)) (h s.device t.device hst)

/-- One result after another: there are as many on either side. -/
theorem mapM {ι : Type} {f : ι → Action α} {g : ι → Action β}
    (hf : ∀ i, Mirrors (fun _ _ => True) (f i) (g i)) (l : List ι) :
    Mirrors (fun as bs => as.length = bs.length) (l.mapM f) (l.mapM g) := by
  induction l with
  | nil => exact pure rfl
  | cons i rest ih =>
      rw [List.mapM_cons, List.mapM_cons]
      refine (hf i).bind fun a b _ => ih.bind fun as bs h => pure ?_
      rw [List.length_cons, List.length_cons, h]

/-! ### What one run says about the other -/

variable {x : Action α} {y : Action β} {s t s' : Session}

theorem of_ok {a : α} (hx : Mirrors R x y) (hst : s.device.AnswersLike t.device)
    (hrun : x.run s = .ok (a, s')) : ∃ b t', y.run t = .ok (b, t') ∧ R a b ∧
      s.device.AnswersLike s'.device ∧ s.device.AnswersLike t'.device := by
  have hends := hx s t hst
  rw [hrun] at hends
  generalize y.run t = r at hends ⊢
  cases hends with
  | ok hs ht h => exact ⟨_, _, rfl, h, hs, ht⟩

/-- An action that mirrors another does not change what its device answers. -/
theorem answersLike {a : α} (hx : Mirrors R x y) (hrun : x.run s = .ok (a, s')) :
    s.device.AnswersLike s'.device := by
  obtain ⟨_, _, -, -, hs, -⟩ := hx.of_ok (.refl s.device) hrun
  exact hs

end Mirrors

end Action

end MaterialPipeline
