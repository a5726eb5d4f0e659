import MaterialPipeline.Proofs.Frame.Targets

/-!
# Proofs — Frame — Offscreen

A target that is created on first use, through all that is done with it.  It is asked for when it is
used and is not there, which the device may refuse at any time; it is let go of when it is released or
gets another size.  So what is drawn into always has the present size, and no target is left behind.

* `TargetStep`: what is done with a target.
* `OffscreenTarget.Moves`: all that a step does; a target is created, one is destroyed, or neither.
* `OffscreenTarget.Lived`: the life of a target, on a device that is used for other things as well.
* `OffscreenTarget.Keeps`: what holds throughout a life.
* **`OffscreenTarget.Lived.owns_created`**: the handle is that of the one target which was created in
this life and not destroyed since.
-/

namespace MaterialPipeline

open MaterialPipeline.Action

/-- What is done with a target. -/
inductive TargetStep where
  | acquire
  | release
  | resize (width height : Nat)

namespace TargetStep

/-- Does a step.  What is acquired is left again. -/
def run (t : OffscreenTarget) : TargetStep → Action OffscreenTarget
  | acquire => do
    let (handle, t) ← t.acquire
    if let some h := handle then
      Action.perform (OffscreenTarget.leave h)
    return t
  | release => t.release
  | resize width height => t.resize width height

/-- The step lets go of the target: it is released, or gets another size. -/
def LetsGo (t : OffscreenTarget) : TargetStep → Prop
  | acquire => False
  | release => True
  | resize width height => ¬ (t.target.width = width ∧ t.target.height = height)

end TargetStep

namespace Device

variable {d d' : Device}

/-- The targets that were created on the way from one device to another. -/
def createdSince (d d' : Device) : List TargetHandle :=
  d'.createdTargets.drop d.createdTargets.length

theorem createdSince_of_size (h : d'.targets.size = d.targets.size) : d.createdSince d' = [] := by
  rw [createdSince, createdTargets_congr h, List.drop_length]

theorem createdSince_of_succ (h : d'.targets.size = d.targets.size + 1) :
    d.createdSince d' = [⟨d.targets.size⟩] := by
  rw [createdSince, createdTargets_of_succ h, List.drop_left]

/-- What was recorded of one device is recorded of the other. -/
structure Extends (d d' : Device) : Prop where
  targets : d.targets.toList <+: d'.targets.toList
  calls : d.calls.toList <+: d'.calls.toList

namespace Extends

theorem destroyed (h : d.Extends d') : d.destroyedTargets ⊆ d'.destroyedTargets :=
  (h.calls.filterMap _).subset

theorem getElem? (h : d.Extends d') {n : Nat} {t : Target} (ht : d.targets[n]? = some t) :
    d'.targets[n]? = some t := by
  rw [← Array.getElem?_toList] at ht ⊢
  obtain ⟨rest, hrest⟩ := h.targets
  rw [← hrest, List.getElem?_append_left (List.getElem?_eq_some_iff.mp ht).1, ht]

theorem created (h : d.Extends d') : d.createdTargets ⊆ d'.createdTargets := by
  have hsize : d.targets.size ≤ d'.targets.size := h.targets.length_le
  exact List.map_subset _ (List.range_subset.mpr hsize)

end Extends

end Device

theorem Session.targets_applyAll (s : Session) (events : List Event) :
    (s.applyAll events).device.targets = s.device.targets := by
  induction events generalizing s with
  | nil => rfl
  | cons e rest ih =>
      cases e with
      | note n => exact ih (s.apply (.note n))
      | call c => exact (ih (s.apply (.call c))).trans (s.device.targets_issue c)

namespace OffscreenTarget

variable {t t' : OffscreenTarget} {s s' : Session} {h : TargetHandle} {step : TargetStep}

/-! ### What a step does -/

/-- All that a step does to a target, and to the targets of the device. -/
inductive Moves (t : OffscreenTarget) (s : Session) :
    TargetStep → OffscreenTarget → Session → Prop where
  | keeps {step : TargetStep} {t' : OffscreenTarget} {s' : Session} (hhandle : t'.handle = t.handle)
      (htarget : t.handle.isSome → t'.target = t.target)
      (htargets : s'.device.targets = s.device.targets) (hspares : s.device.Spares s'.device) :
      Moves t s step t' s'
  | creates {s' : Session} (hnone : t.handle = none)
      (htargets : s'.device.targets = s.device.targets.push t.target)
      (hdestroyed : s'.device.destroyedTargets = s.device.destroyedTargets) :
      Moves t s .acquire { t with handle := some ⟨s.device.targets.size⟩ } s'
  | destroys {step : TargetStep} {t' : OffscreenTarget} {s' : Session} {h : TargetHandle}
      (hhandle : t.handle = some h) (hnone : t'.handle = none) (hstep : step.LetsGo t)
      (htargets : s'.device.targets = s.device.targets)
      (hdestroyed : s'.device.destroyedTargets = s.device.destroyedTargets ++ [h]) :
      Moves t s step t' s'

/-- A target is there, or it is asked for, and refused or created. -/
theorem run_ensure (t : OffscreenTarget) (s : Session) :
    (∃ h, t.handle = some h ∧ t.ensure.run s = .ok ((some h, t), s)) ∨
    (t.handle = none ∧ ∃ s₁ : Session, s₁.device = s.device.record (.createTarget t.target) ∧
      t.ensure.run s = .ok ((none, t), s₁)) ∨
    (t.handle = none ∧ ∃ s₁ : Session, s₁.device = { s.device.record (.createTarget t.target) with
        targets := s.device.targets.push t.target } ∧
      t.ensure.run s = .ok ((some ⟨s.device.targets.size⟩,
        { t with handle := some ⟨s.device.targets.size⟩ }), s₁)) := by
  unfold ensure
  cases ht : t.handle with
  | some h => exact .inl ⟨h, rfl, rfl⟩
  | none =>
      rcases s.device.createTarget_cases t.target with ⟨error, -, he⟩ | ⟨-, he⟩
      · have hcreate : (onDevice (·.createTarget t.target)).run s =
            .ok (.error error, { s with device := s.device.record (.createTarget t.target) }) := by
          rw [run_onDevice, he]
        refine .inr (.inl ⟨rfl, _, ?_, (run_bind hcreate).trans rfl⟩)
        rfl
      · have hcreate : (onDevice (·.createTarget t.target)).run s =
            .ok (.ok ⟨s.device.targets.size⟩, { s with
              device := { s.device.record (.createTarget t.target) with
                targets := s.device.targets.push t.target } }) := by
          rw [run_onDevice, he]
        refine .inr (.inr ⟨rfl, _, ?_, (run_bind hcreate).trans rfl⟩)
        rfl

section

variable {handle : Option TargetHandle} {t₁ : OffscreenTarget} {s₁ : Session}
  (hensure : t.ensure.run s = .ok ((handle, t₁), s₁))

include hensure

theorem run_acquire_of_ensure : t.acquire.run s =
    .ok ((handle, t₁), handle.elim s₁ fun h => s₁.applyAll (t₁.enter h)) := by
  unfold acquire
  rw [run_bind hensure]
  cases handle <;> rfl

theorem run_step_of_ensure : (TargetStep.acquire.run t).run s =
    .ok (t₁, handle.elim s₁ fun h => (s₁.applyAll (t₁.enter h)).applyAll (leave h)) := by
  unfold TargetStep.run
  rw [run_bind (run_acquire_of_ensure hensure)]
  cases handle <;> rfl

end

/-- A target that is there is destroyed. -/
theorem run_release (t : OffscreenTarget) (s : Session) :
    (t.handle = none ∧ t.release.run s = .ok (t, s)) ∨
    ∃ h, t.handle = some h ∧
      t.release.run s = .ok ({ t with handle := none }, s.apply (.call (.destroyTarget h))) := by
  unfold release
  cases ht : t.handle with
  | none =>
      obtain ⟨target, clearColor, handle⟩ := t
      cases ht
      exact .inl ⟨rfl, rfl⟩
  | some h => exact .inr ⟨h, rfl, rfl⟩

/-- Using a target that is there, up to leaving it. -/
theorem spares_bracket (t : OffscreenTarget) (h : TargetHandle) (s : Session) :
    let s' := (s.applyAll (t.enter h)).applyAll (leave h)
    s'.device.targets = s.device.targets ∧ s.device.Spares s'.device :=
  ⟨(Session.targets_applyAll _ _).trans (s.targets_applyAll _),
    (t.spares_enter h s).trans (spares_leave h _)⟩

theorem exists_moves_acquire (t : OffscreenTarget) (s : Session) :
    ∃ t' s', (TargetStep.acquire.run t).run s = .ok (t', s') ∧ t.Moves s .acquire t' s' := by
  rcases t.run_ensure s with ⟨h, -, hensure⟩ | ⟨hnone, s₁, hdevice, hensure⟩ |
      ⟨hnone, s₁, hdevice, hensure⟩
  · obtain ⟨htargets, hspares⟩ := t.spares_bracket h s
    exact ⟨_, _, run_step_of_ensure hensure, .keeps rfl (fun _ => rfl) htargets hspares⟩
  · have htargets : s₁.device.targets = s.device.targets := by rw [hdevice]; rfl
    have hspares : s.device.Spares s₁.device := .push (congrArg Array.size htargets)
      (by rw [hdevice]; rfl) (c := .createTarget t.target) rfl
    exact ⟨_, _, run_step_of_ensure hensure, .keeps rfl (fun _ => rfl) htargets hspares⟩
  · let t₁ : OffscreenTarget := { t with handle := some ⟨s.device.targets.size⟩ }
    obtain ⟨htargets, hspares⟩ := t₁.spares_bracket ⟨s.device.targets.size⟩ s₁
    have hdestroyed : s₁.device.destroyedTargets = s.device.destroyedTargets := by
      have hcalls : s₁.device.calls = s.device.calls.push (.createTarget t.target) := by
        rw [hdevice]
        rfl
      exact (Device.destroyedTargets_push hcalls).trans (List.append_nil _)
    refine ⟨_, _, run_step_of_ensure hensure, .creates hnone ?_ ?_⟩
    · exact htargets.trans (by rw [hdevice])
    · exact hspares.destroyed.trans hdestroyed

theorem exists_moves (t : OffscreenTarget) (s : Session) (step : TargetStep) :
    ∃ t' s', (step.run t).run s = .ok (t', s') ∧ t.Moves s step t' s' := by
  cases step with
  | acquire => exact t.exists_moves_acquire s
  | release =>
      rcases t.run_release s with ⟨-, hrun⟩ | ⟨h, hhandle, hrun⟩
      · exact ⟨t, s, hrun, .keeps rfl (fun _ => rfl) rfl (.refl _)⟩
      · refine ⟨_, _, hrun, .destroys hhandle rfl trivial rfl ?_⟩
        exact Device.destroyedTargets_push (Device.calls_issue _)
  | resize width height =>
      by_cases hsame : t.target.width = width ∧ t.target.height = height
      · refine ⟨t, s, ?_, .keeps rfl (fun _ => rfl) rfl (.refl _)⟩
        exact congrArg (StateT.run · s) (if_pos hsame)
      · let resized (t : OffscreenTarget) : OffscreenTarget :=
          { t with target := { t.target with width := width, height := height } }
        have hresize : t.resize width height = t.release >>= fun t => pure (resized t) :=
          if_neg hsame
        rcases t.run_release s with ⟨hnone, hrun⟩ | ⟨h, hhandle, hrun⟩
        · refine ⟨resized t, s, ?_, .keeps rfl (fun hsome => ?_) rfl (.refl _)⟩
          · exact (congrArg (StateT.run · s) hresize).trans (run_bind hrun)
          · rw [hnone] at hsome
            cases hsome
        · refine ⟨resized { t with handle := none }, s.apply (.call (.destroyTarget h)), ?_,
            .destroys hhandle rfl hsame rfl ?_⟩
          · exact (congrArg (StateT.run · s) hresize).trans (run_bind hrun)
          · exact Device.destroyedTargets_push (Device.calls_issue _)

theorem moves_of_run (hrun : (step.run t).run s = .ok (t', s')) : t.Moves s step t' s' := by
  obtain ⟨t₁, s₁, hrun', hmoves⟩ := t.exists_moves s step
  cases hrun'.symm.trans hrun
  exact hmoves

/-! ### Lives -/

/-- The life of a target: the handles that were created by it, the target now, and the session.  The
device may be used for other things as well, by those who have targets of their own; what it refuses
may change. -/
inductive Lived : List TargetHandle → OffscreenTarget → Session → Prop where
  | new {others : List TargetHandle} {s : Session} (target : Target) (clearColor : Vec4)
      (haccounts : s.device.Accounted others) : Lived [] { target, clearColor } s
  | step {created : List TargetHandle} {t t' : OffscreenTarget} {s s' : Session} {step : TargetStep}
      (h : Lived created t s) (hrun : (step.run t).run s = .ok (t', s')) :
      Lived (created ++ s.device.createdSince s'.device) t' s'
  | meanwhile {created others : List TargetHandle} {t : OffscreenTarget} {s s' : Session}
      (h : Lived created t s) (hextends : s.device.Extends s'.device)
      (haccounts : s'.device.Accounted (t.held ++ others)) : Lived created t s'

variable {created : List TargetHandle}

/-- What holds throughout a life. -/
structure Keeps (created : List TargetHandle) (t : OffscreenTarget) (s : Session) : Prop where
  accounts : ∃ others, s.device.Accounted (t.held ++ others)
  created_subset : created ⊆ s.device.createdTargets
  nodup : created.Nodup
  handle : ∀ h, t.handle = some h ↔ h ∈ created ∧ h ∉ s.device.destroyedTargets
  sized : ∀ h, t.handle = some h → s.device.targets[h.number]? = some t.target

theorem held_of_handle (hhandle : t.handle = some h) : t.held = [h] := by
  rw [held, hhandle, Option.toList_some]

theorem held_of_none (hnone : t.handle = none) : t.held = [] := by
  rw [held, hnone, Option.toList_none]

namespace Keeps

/-- What leaves the targets as they are. -/
theorem stay (hs : Keeps created t s) (hhandle : t'.handle = t.handle)
    (htarget : t.handle.isSome → t'.target = t.target)
    (htargets : s'.device.targets = s.device.targets) (hspares : s.device.Spares s'.device) :
    Keeps created t' s' where
  accounts := by
    obtain ⟨others, haccounts⟩ := hs.accounts
    refine ⟨others, ?_⟩
    rw [held, hhandle]
    exact haccounts.spares hspares
  created_subset := by
    rw [Device.createdTargets_congr hspares.created]
    exact hs.created_subset
  nodup := hs.nodup
  handle := by
    intro h
    rw [hhandle, hspares.destroyed]
    exact hs.handle h
  sized := by
    intro h hh
    rw [hhandle] at hh
    rw [htargets, htarget (Option.isSome_of_mem hh)]
    exact hs.sized h hh

/-- What creates the target, which was not there. -/
theorem create (hs : Keeps created t s) (hnone : t.handle = none)
    (htargets : s'.device.targets = s.device.targets.push t.target)
    (hdestroyed : s'.device.destroyedTargets = s.device.destroyedTargets) :
    Keeps (created ++ [⟨s.device.targets.size⟩])
      { t with handle := some ⟨s.device.targets.size⟩ } s' := by
  obtain ⟨others, haccounts⟩ := hs.accounts
  rw [held_of_none hnone, List.nil_append] at haccounts
  have hsize : s'.device.targets.size = s.device.targets.size + 1 := by
    rw [htargets, Array.size_push]
  have haccounts' := haccounts.create hsize hdestroyed
  have hnew : (⟨s.device.targets.size⟩ : TargetHandle) ∉ created := fun hmem =>
    s.device.notMem_createdTargets (hs.created_subset hmem)
  exact {
    accounts := ⟨others, haccounts'⟩
    created_subset := by
      rw [Device.createdTargets_of_succ hsize]
      exact List.append_subset.mpr ⟨List.subset_append_of_subset_left _ hs.created_subset,
        List.subset_append_right ..⟩
    nodup := List.concat_eq_append ▸ hs.nodup.concat hnew
    handle := by
      intro h
      rw [List.mem_append, List.mem_singleton]
      constructor
      · rintro ⟨⟩
        exact ⟨.inr rfl, (haccounts'.live_iff.mpr List.mem_cons_self).2⟩
      · rintro ⟨hcreated | rfl, hnot⟩
        · rw [hdestroyed] at hnot
          cases hnone.symm.trans ((hs.handle h).mpr ⟨hcreated, hnot⟩)
        · rfl
    sized := by
      rintro h ⟨⟩
      rw [htargets]
      exact Array.getElem?_push_size }

/-- What destroys the target, which was there. -/
theorem destroy (hs : Keeps created t s) (hhandle : t.handle = some h) (hnone : t'.handle = none)
    (htargets : s'.device.targets = s.device.targets)
    (hdestroyed : s'.device.destroyedTargets = s.device.destroyedTargets ++ [h]) :
    Keeps created t' s' where
  accounts := by
    obtain ⟨others, haccounts⟩ := hs.accounts
    rw [held_of_handle hhandle] at haccounts
    refine ⟨others, ?_⟩
    rw [held_of_none hnone, List.nil_append]
    exact haccounts.gone (congrArg Array.size htargets) hdestroyed
  created_subset := by
    rw [Device.createdTargets_congr (congrArg Array.size htargets)]
    exact hs.created_subset
  nodup := hs.nodup
  handle := by
    intro h'
    rw [hnone, hdestroyed, List.mem_append, List.mem_singleton, not_or]
    refine iff_of_false (Option.some_ne_none h').symm ?_
    rintro ⟨hcreated, hnot, hne⟩
    exact hne (Option.some.inj (((hs.handle h').mpr ⟨hcreated, hnot⟩).symm.trans hhandle))
  sized := by
    intro h' hh
    cases hnone.symm.trans hh

theorem move (hs : Keeps created t s) (hmoves : t.Moves s step t' s') :
    Keeps (created ++ s.device.createdSince s'.device) t' s' := by
  cases hmoves with
  | keeps hhandle htarget htargets hspares =>
      rw [Device.createdSince_of_size hspares.created, List.append_nil]
      exact hs.stay hhandle htarget htargets hspares
  | creates hnone htargets hdestroyed =>
      have hsize : s'.device.targets.size = s.device.targets.size + 1 := by
        rw [htargets, Array.size_push]
      rw [Device.createdSince_of_succ hsize]
      exact hs.create hnone htargets hdestroyed
  | destroys hhandle hnone hstep htargets hdestroyed =>
      rw [Device.createdSince_of_size (congrArg Array.size htargets), List.append_nil]
      exact hs.destroy hhandle hnone htargets hdestroyed

theorem meanwhile {others : List TargetHandle} (hs : Keeps created t s)
    (hextends : s.device.Extends s'.device)
    (haccounts : s'.device.Accounted (t.held ++ others)) : Keeps created t s' where
  accounts := ⟨others, haccounts⟩
  created_subset := List.Subset.trans hs.created_subset hextends.created
  nodup := hs.nodup
  handle := by
    intro h
    constructor
    · intro hh
      refine ⟨((hs.handle h).mp hh).1, (haccounts.live_iff.mpr ?_).2⟩
      rw [held_of_handle hh]
      exact List.mem_cons_self
    · rintro ⟨hcreated, hnot⟩
      exact (hs.handle h).mpr ⟨hcreated, fun hgone => hnot (hextends.destroyed hgone)⟩
  sized := fun h hh => hextends.getElem? (hs.sized h hh)

end Keeps

theorem Lived.keeps (h : Lived created t s) : Keeps created t s := by
  induction h with
  | @new others s target clearColor haccounts =>
      refine ⟨⟨others, haccounts⟩, List.nil_subset _, .nil, fun h => ?_, fun h hh => nomatch hh⟩
      exact iff_of_false (Option.some_ne_none h).symm fun hcreated => List.not_mem_nil hcreated.1
  | step _ hrun ih => exact ih.move (moves_of_run hrun)
  | meanwhile _ hextends haccounts ih => exact ih.meanwhile hextends haccounts

/-! ### What a target owns -/

/-- A target and what it created. -/
structure Owns (created : List TargetHandle) (t : OffscreenTarget) (s : Session) : Prop where
  /-- The handle is that of the target which was created and not destroyed since. -/
  handle : ∀ h, t.handle = some h ↔ h ∈ created ∧ h ∉ s.device.destroyedTargets
  unique : ∀ h ∈ created, ∀ h' ∈ created,
    s.device.LiveTarget h → s.device.LiveTarget h' → h = h'
  /-- It was created as the target is now, with its size. -/
  sized : ∀ h, t.handle = some h → s.device.targets[h.number]? = some t.target
  /-- Nothing is created twice, and nothing destroyed twice. -/
  once : created.Nodup ∧ s.device.destroyedTargets.Nodup
  /-- Every step comes to an end, and destroys nothing unless it lets go of the target. -/
  steps : ∀ step : TargetStep, ∃ t' s', (step.run t).run s = .ok (t', s') ∧
    ∀ h, h ∉ s.device.destroyedTargets → h ∈ s'.device.destroyedTargets →
      t.handle = some h ∧ step.LetsGo t
  /-- Nothing happens if the size stays. -/
  resize_same : (t.resize t.target.width t.target.height).run s = .ok (t, s)
  /-- A refusal changes nothing, and the target is asked for again the next time. -/
  refused : ∀ t' s', t.acquire.run s = .ok ((none, t'), s') → t' = t ∧ t.handle = none ∧
    ∀ s₁, ∃ r s₂, t'.acquire.run s₁ = .ok (r, s₂) ∧
      s₁.device.calls.toList ++ [.createTarget t.target] <+: s₂.device.calls.toList

/-- A target that is not there is asked for. -/
theorem asks_of_none (hnone : t.handle = none) (s : Session) :
    ∃ r s', t.acquire.run s = .ok (r, s') ∧
      s.device.calls.toList ++ [.createTarget t.target] <+: s'.device.calls.toList := by
  rcases t.run_ensure s with ⟨h, hsome, -⟩ | ⟨-, s₁, hdevice, hensure⟩ |
      ⟨-, s₁, hdevice, hensure⟩
  · cases hnone.symm.trans hsome
  · refine ⟨_, _, run_acquire_of_ensure hensure, ?_⟩
    show _ <+: s₁.device.calls.toList
    rw [hdevice]
    exact (Array.toList_push ..) ▸ List.prefix_rfl
  · refine ⟨_, _, run_acquire_of_ensure hensure, ?_⟩
    show _ <+: (s₁.applyAll _).device.calls.toList
    rw [Session.calls_applyAll, hdevice]
    exact (Array.toList_push ..) ▸ List.prefix_append ..

theorem eq_of_refused (hrun : t.acquire.run s = .ok ((none, t'), s')) :
    t' = t ∧ t.handle = none := by
  rcases t.run_ensure s with ⟨h, -, hensure⟩ | ⟨hnone, s₁, -, hensure⟩ | ⟨-, s₁, -, hensure⟩
  · cases (run_acquire_of_ensure hensure).symm.trans hrun
  · cases (run_acquire_of_ensure hensure).symm.trans hrun
    exact ⟨rfl, hnone⟩
  · cases (run_acquire_of_ensure hensure).symm.trans hrun

theorem Moves.letsGo (hmoves : t.Moves s step t' s') (hbefore : h ∉ s.device.destroyedTargets)
    (hafter : h ∈ s'.device.destroyedTargets) : t.handle = some h ∧ step.LetsGo t := by
  cases hmoves with
  | keeps _ _ _ hspares => exact absurd (hspares.destroyed ▸ hafter) hbefore
  | creates _ _ hdestroyed => exact absurd (hdestroyed ▸ hafter) hbefore
  | destroys hhandle _ hstep _ hdestroyed =>
      rw [hdestroyed, List.mem_append, List.mem_singleton] at hafter
      obtain rfl := hafter.resolve_left hbefore
      exact ⟨hhandle, hstep⟩

/-- **A target owns what it created and did not destroy.**  That is one target at most, of the present
size; it goes only when it is let go of, and once. -/
theorem Lived.owns_created (hlived : Lived created t s) : Owns created t s := by
  have hkeeps := hlived.keeps
  obtain ⟨others, haccounts⟩ := hkeeps.accounts
  exact {
    handle := hkeeps.handle
    unique := by
      intro h hcreated h' hcreated' hlive hlive'
      have hh := (hkeeps.handle h).mpr ⟨hcreated, hlive.2⟩
      have hh' := (hkeeps.handle h').mpr ⟨hcreated', hlive'.2⟩
      exact Option.some.inj (hh.symm.trans hh')
    sized := hkeeps.sized
    once := ⟨hkeeps.nodup, haccounts.nodup.of_append_right⟩
    steps := by
      intro step
      obtain ⟨t', s', hrun, hmoves⟩ := t.exists_moves s step
      exact ⟨t', s', hrun, fun h => hmoves.letsGo⟩
    resize_same := congrArg (StateT.run · s) (if_pos ⟨rfl, rfl⟩)
    refused := by
      intro t' s' hrun
      obtain ⟨rfl, hnone⟩ := eq_of_refused hrun
      exact ⟨rfl, hnone, asks_of_none hnone⟩ }

/-- A target that is refused at first, created, and created again in another size. -/
theorem owns_created_after_resize :
    let glow : Target := { label := "glow", width := 4, height := 2, format := .rgba8Unorm }
    ∃ (t : OffscreenTarget) (s : Session), Owns [⟨0⟩, ⟨1⟩] t s ∧ t.handle = some ⟨1⟩ ∧
      s.device.destroyedTargets = [⟨0⟩] ∧
      s.device.targets = #[glow, { glow with width := 8, height := 4 }] := by
  intro glow
  have hnew : Lived [] { target := glow } { device := { refusesTargets := true } } :=
    .new glow _ Device.accounted_default
  have hrefused := hnew.step (show (TargetStep.acquire.run _).run _ = .ok (_, _) from rfl)
  let willing : Device := { calls := #[.createTarget glow] }
  have haccounts : willing.Accounted ([] ++ []) := .refl _
  have hwilling : Lived _ _ { device := willing } :=
    hrefused.meanwhile ⟨List.prefix_rfl, List.prefix_rfl⟩ haccounts
  have hcreated := hwilling.step (show (TargetStep.acquire.run _).run _ = .ok (_, _) from rfl)
  have hresized := hcreated.step (show ((TargetStep.resize 8 4).run _).run _ = .ok (_, _) from rfl)
  have hagain := hresized.step (show (TargetStep.acquire.run _).run _ = .ok (_, _) from rfl)
  exact ⟨_, _, hagain.owns_created, rfl, rfl, rfl⟩

end OffscreenTarget

end MaterialPipeline
