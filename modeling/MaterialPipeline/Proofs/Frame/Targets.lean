import MaterialPipeline.Proofs.Device.Targets
import MaterialPipeline.Proofs.Frame.Brackets

/-!
# Proofs — Frame — Targets

Who holds the targets of a device, through the life of a pipeline and of the bins that were taken out
of it.  A target is created when its bin first draws, and is the bin's from then on: it stays on the
device until the bin lets go of it, and nothing else lets go of it for the bin.  So a bin that goes
for good while it has a target leaves the target behind, live and held by no one.

* `Action.Exchanges`: the targets that an effect takes from whoever runs it, and those that it gives
back; all others keep theirs.
* `Bin.exchanges_render`, `Bin.exchanges_deviceReset`: what a bin does is one.
* `Pipeline.TargetLife`: the life of a pipeline, with the bins that were kept and those that went.
* `Pipeline.TargetLife.settled`: the live targets are those of all these bins, each held once, and none
was destroyed twice; they are those of the bins that still exist exactly if no bin went with one.
-/

namespace MaterialPipeline

open MaterialPipeline.Action

variable {scene : Scene} {arena : FrameArena Submission} {d d' : Drawing} {s s' : Session}
  {rest : List TargetHandle}

/-! ### Exchanges -/

/-- Whoever has the targets `before` has `after`, in view of the outcome, once the effect is over;
all others keep theirs. -/
def Action.Exchanges {α : Type} (before : List TargetHandle) (after : α → List TargetHandle)
    (x : Action α) : Prop :=
  ∀ s a s' rest, x.run s = .ok (a, s') → s.device.Accounted (before ++ rest) →
    s'.device.Accounted (after a ++ rest)

namespace Action.Exchanges

variable {α β : Type} {before : List TargetHandle} {mid : α → List TargetHandle}
  {after : β → List TargetHandle}

theorem pure {b : β} (hb : after b = before) : Exchanges before after (Pure.pure b) := by
  intro s _ s' rest hrun h
  cases hrun
  rwa [hb]

theorem bind {x : Action α} {f : α → Action β} (hx : Exchanges before mid x)
    (hf : ∀ a, Exchanges (mid a) after (f a)) : Exchanges before after (x >>= f) := by
  intro s b s' rest hrun h
  obtain ⟨a, s₁, hx', hf'⟩ := of_run_bind hrun
  exact hf a _ _ _ _ hf' (hx _ _ _ _ hx' h)

/-- What is not about targets changes no accounts. -/
theorem of_spares {x : Action α}
    (hx : ∀ s a s', x.run s = .ok (a, s') → s.device.Spares s'.device) :
    Exchanges before (fun _ => before) x :=
  fun s a s' _ hrun h => h.spares (hx s a s' hrun)

/-- One after another, each with targets of its own. -/
theorem mapM {held : α → List TargetHandle} {f : α → Action β}
    (hf : ∀ a, Exchanges (held a) after (f a)) (l : List α) :
    Exchanges (l.flatMap held) (·.flatMap after) (l.mapM f) := by
  induction l with
  | nil =>
      intro s _ s' rest hrun h
      cases hrun
      exact h
  | cons a more ih =>
      intro s _ s' rest hrun h
      rw [List.mapM_cons] at hrun
      obtain ⟨b, s₁, hb, hrun⟩ := of_run_bind hrun
      obtain ⟨bs, s₂, hbs, hrun⟩ := of_run_bind hrun
      cases hrun
      rw [List.flatMap_cons, List.append_assoc] at h
      have hfirst := (hf a _ _ _ _ hb h).congr (List.perm_append_comm_assoc ..)
      have hmore := (ih _ _ _ _ hbs hfirst).congr (List.perm_append_comm_assoc ..)
      show s'.device.Accounted ((b :: bs).flatMap after ++ rest)
      rwa [List.flatMap_cons, List.append_assoc]

end Action.Exchanges

theorem Session.spares_applyAll (s : Session) (events : List Event)
    (h : ∀ c ∈ callsOf events, c.destroyedTarget? = none) :
    s.device.Spares (s.applyAll events).device := by
  induction events generalizing s with
  | nil => exact .refl _
  | cons e rest ih =>
      cases e with
      | note n => exact ih (s.apply (.note n)) h
      | call c =>
          obtain ⟨hc, hrest⟩ := List.forall_mem_cons.mp h
          exact (Device.spares_issue hc).trans (ih (s.apply (.call c)) hrest)

/-! ### Targets of their own -/

namespace OffscreenTarget

/-- What is on the device of a target. -/
def held (t : OffscreenTarget) : List TargetHandle :=
  t.handle.toList

theorem exchanges_ensure (t : OffscreenTarget) : Exchanges t.held (·.2.held) t.ensure := by
  intro s r s' rest hrun h
  unfold ensure at hrun
  cases ht : t.handle with
  | some handle =>
      rw [ht] at hrun
      cases hrun
      exact h
  | none =>
      rw [ht] at hrun
      have hnone : t.held = [] := by rw [held, ht, Option.toList_none]
      rw [hnone, List.nil_append] at h
      obtain ⟨answer, s₁, hcreate, hrun⟩ := of_run_bind hrun
      cases (run_onDevice _ s).symm.trans hcreate
      rcases s.device.createTarget_cases t.target with ⟨error, -, he⟩ | ⟨-, he⟩
      · rw [he] at hrun
        obtain ⟨_, _, hreport, hrun⟩ := of_run_bind hrun
        cases hreport
        cases hrun
        show Device.Accounted _ (t.held ++ rest)
        rw [hnone]
        exact h.spares (.push rfl rfl rfl)
      · rw [he] at hrun
        obtain ⟨_, _, hreport, hrun⟩ := of_run_bind hrun
        cases hreport
        cases hrun
        have hpush := s.device.targets.size_push t.target
        exact h.create hpush (Device.destroyedTargets_push rfl |>.trans (List.append_nil _))

/-- Binding and clearing a target, or taking it off, neither creates nor destroys one. -/
theorem spares_enter (t : OffscreenTarget) (h : TargetHandle) (s : Session) :
    s.device.Spares (s.applyAll (t.enter h)).device := by
  refine s.spares_applyAll _ (List.forall_mem_cons.mpr ⟨rfl, ?_⟩)
  exact List.forall_mem_singleton.mpr rfl

theorem spares_leave (h : TargetHandle) (s : Session) :
    s.device.Spares (s.applyAll (leave h)).device := by
  refine s.spares_applyAll _ (List.forall_mem_cons.mpr ⟨rfl, ?_⟩)
  exact List.forall_mem_singleton.mpr rfl

theorem exchanges_acquire (t : OffscreenTarget) : Exchanges t.held (·.2.held) t.acquire := by
  refine t.exchanges_ensure.bind fun (handle, t') => ?_
  cases handle with
  | none => exact .pure rfl
  | some h =>
      have henter : Exchanges t'.held (fun _ => t'.held) (perform (t'.enter h)) := by
        refine .of_spares fun s _ s' hrun => ?_
        cases hrun
        exact t'.spares_enter h s
      exact henter.bind fun _ => .pure rfl

/-- A target that is let go of is held by no one. -/
theorem exchanges_release (t : OffscreenTarget) : Exchanges t.held held t.release := by
  unfold release held
  cases ht : t.handle with
  | none => exact .pure rfl
  | some h =>
      have hdestroy : Exchanges [h] (fun _ => []) (Action.issue (.destroyTarget h)) := by
        intro s _ s' rest hrun haccounts
        cases hrun
        exact haccounts.destroy
      exact hdestroy.bind fun _ => .pure rfl

theorem exchanges_resize (t : OffscreenTarget) (width height : Nat) :
    Exchanges t.held held (t.resize width height) := by
  unfold resize
  split
  · exact .pure rfl
  · exact t.exchanges_release.bind fun _ => .pure rfl

end OffscreenTarget

/-! ### Bins -/

/-- What draws elements neither creates nor destroys targets. -/
theorem Bin.spares_renderBy {b : Bin} {rule : DrawRule}
    (hrun : ((b.renderBy arena scene rule).run d).run s = .ok (((), d'), s')) :
    s.device.Spares s'.device := by
  have hquiet {c : Call} (hc : c.isQuiet = false) : c.destroyedTarget? = none := by
    cases c <;> first | rfl | cases hc
  have hbears : Session.Bears scene fun s s' => s.device.Spares s'.device :=
    { refl := fun s => .refl s.device
      trans := Device.Spares.trans
      batch := by
        intro d s d' s' kind material objects hrun
        obtain ⟨found, library, s₁, hfound⟩ := exists_run_renderable hrun
        obtain ⟨library', -, hrun'⟩ := run_drawBatch scene kind objects hfound
        cases hrun'.symm.trans hrun
        exact (d.library.works_renderable material _ _ _ hfound).spares.trans
          (s₁.spares_applyAll _ fun c hc => hquiet (isQuiet_stroke hc))
      delegate := by
        intro d s d' s' delegate o hrun
        cases hrun
        refine s.spares_applyAll _ fun c hc => ?_
        rw [callsOf_map_call] at hc
        obtain ⟨range, -, rfl⟩ := List.mem_map.mp hc
        rfl }
  exact hbears.renderBy b arena rule _ _ _ _ hrun

namespace Bin

/-- The target that a bin has on the device, if it has one. -/
def held (b : Bin) : List TargetHandle :=
  (b.target.bind (·.handle)).toList

/-- The targets that some bins have on the device. -/
def heldBy (bins : List Bin) : List TargetHandle :=
  bins.flatMap held

theorem heldBy_append (bins bins' : List Bin) :
    heldBy (bins ++ bins') = heldBy bins ++ heldBy bins' :=
  List.flatMap_append

theorem exchanges_mapTarget {f : OffscreenTarget → Action OffscreenTarget}
    (hf : ∀ t, Exchanges t.held OffscreenTarget.held (f t)) (b : Bin) :
    Exchanges b.held held (b.mapTarget f) := by
  unfold mapTarget
  cases htarget : b.target with
  | none => exact .pure rfl
  | some t =>
      have hheld : b.held = t.held := by rw [held, htarget]; rfl
      rw [hheld]
      exact (hf t).bind fun _ => .pure rfl

theorem exchanges_deviceReset (b : Bin) : Exchanges b.held held b.deviceReset :=
  b.exchanges_mapTarget OffscreenTarget.exchanges_release

theorem exchanges_resize (b : Bin) (width height : Nat) :
    Exchanges b.held held (b.resize width height) :=
  b.exchanges_mapTarget fun t => t.exchanges_resize width height

/-- A turn of a bin: the target that it has afterwards is the one that it had before, or is new. -/
theorem exchanges_render (b : Bin) (d : Drawing) :
    Exchanges b.held (·.1.held) ((b.render arena scene).run d) := by
  rintro s ⟨b', d'⟩ s' rest hrun h
  unfold render at hrun
  cases hrule : b.rules.draws scene.pass with
  | none =>
      rw [hrule] at hrun
      cases hrun
      exact h
  | some rule =>
      rw [hrule] at hrun
      cases htarget : b.target with
      | none =>
          rw [htarget] at hrun
          obtain ⟨_, _, _, hdraw, hrun⟩ := of_runs_bind hrun
          cases hrun
          exact h.spares (spares_renderBy hdraw)
      | some t =>
          rw [htarget] at hrun
          obtain ⟨⟨handle, t'⟩, s₁, hacquire, hrun⟩ := of_runs_lift_bind hrun
          rw [held, htarget] at h
          have hacquired := t.exchanges_acquire _ _ _ _ hacquire h
          cases handle with
          | none =>
              cases hrun
              exact hacquired
          | some handle =>
              obtain ⟨_, _, s₂, hdraw, hrun⟩ := of_runs_bind hrun
              obtain ⟨_, _, hleave, hrun⟩ := of_runs_lift_bind hrun
              cases hleave
              cases hrun
              exact hacquired.spares
                ((spares_renderBy hdraw).trans (OffscreenTarget.spares_leave handle s₂))

end Bin

/-! ### Pipelines -/

namespace Pipeline

open Bin

variable {p p' : Pipeline} {library library' : Library} {o : Submission} {names : List String}
  {stats : FrameStats} {bins drawn kept gone : List Bin} {b : Bin}

theorem heldBy_map {f : Bin → Bin} (hf : ∀ b, (f b).target = b.target) (bins : List Bin) :
    heldBy (bins.map f) = heldBy bins := by
  rw [heldBy, List.flatMap_map]
  exact congrArg (bins.flatMap ·) (funext fun b => by rw [held, hf, held])

/-- Every bin in turn. -/
theorem exchanges_drawAll (bins : List Bin) (d : Drawing) :
    Exchanges (heldBy bins) (heldBy ·.1) ((drawAll arena scene bins).run d) := by
  induction bins generalizing d with
  | nil =>
      intro s _ s' rest hrun h
      cases hrun
      exact h
  | cons b more ih =>
      rintro s ⟨drawn, d'⟩ s' rest hrun h
      rw [drawAll, List.mapM_cons] at hrun
      obtain ⟨b', d₁, s₁, hb, hrun⟩ := of_runs_bind hrun
      obtain ⟨drawn', d₂, s₂, hmore, hrun⟩ := of_runs_bind hrun
      cases hrun
      rw [heldBy, List.flatMap_cons, List.append_assoc] at h
      have hfirst := (b.sort.exchanges_render d _ _ _ _ hb h).congr
        (List.perm_append_comm_assoc ..)
      have hrest := (ih d₁ _ _ _ _ hmore hfirst).congr (List.perm_append_comm_assoc ..)
      show s'.device.Accounted (heldBy (b' :: drawn') ++ rest)
      rwa [heldBy, List.flatMap_cons, List.append_assoc]

/-- A frame leaves its bins with the targets that they had, and with those that were created. -/
theorem exchanges_render (hp : p.Reachable) (library : Library) (scene : Scene) :
    Exchanges (heldBy p.bins) (heldBy ·.2.2.bins) (p.render library scene) := by
  rintro s ⟨stats, library', p'⟩ s' rest hrun h
  have hlisted := hp.inOrder.listed
  obtain ⟨drawn, hdraw, hdrawn⟩ := hlisted.drawn_of_render hrun
  have hbefore := h.congr ((hlisted.perm_drawingOrder.flatMap_right held).append_right rest)
  have hafter := exchanges_drawAll _ _ _ _ _ _ hdraw hbefore
  have hbins : (heldBy p'.bins).Perm (heldBy drawn) := by
    rw [← heldBy_map (f := clear) (fun _ => rfl) drawn, ← hdrawn]
    exact (hp.render hrun).inOrder.listed.perm_drawingOrder.symm.flatMap_right held
  exact hafter.congr (hbins.append_right rest)

theorem exchanges_deviceReset (p : Pipeline) :
    Exchanges (heldBy p.bins) (heldBy ·.bins) p.deviceReset := by
  have hreport (n : Note) : Exchanges (heldBy p.bins) (fun _ => heldBy p.bins) (report n) := by
    refine .of_spares fun s _ s' hrun => ?_
    cases hrun
    exact .refl _
  exact (hreport _).bind fun _ =>
    (Exchanges.mapM (fun b => b.clear.exchanges_deviceReset) p.bins).bind fun _ => .pure rfl

/-- Handing in an object changes what bins hold, but not their targets. -/
theorem heldBy_submit (hp : p.Reachable) (hrun : (p.submit library o).run s = .ok ((names, p'), s')) :
    heldBy p'.bins = heldBy p.bins := by
  obtain ⟨stamped, _, -, visited, _, hrouted⟩ := routed_of_submit hp.inOrder.listed hrun
  have htargets : p'.bins.map Bin.target = p.bins.map Bin.target := by
    rw [hrouted.offered]
    refine map_foldl_offerAt (fun b => ?_) visited
    rw [Bin.offer]
    split <;> rfl
  have hheld (bins : List Bin) : heldBy bins =
      (bins.map Bin.target).flatMap fun t => (t.bind (·.handle)).toList := by
    rw [List.flatMap_map]
    rfl
  rw [hheld, htargets, ← hheld]

/-- Adding a bin adds it after the others. -/
theorem of_run_add (hrun : (p.add b).run s = .ok (p', s')) :
    p'.bins = p.bins ++ [b] ∧ s'.device = s.device := by
  obtain ⟨_, _, hreport, hrun⟩ := of_run_bind hrun
  cases hreport
  cases hrun
  exact ⟨rfl, rfl⟩

/-- Of the bins, the one that is taken out is missing afterwards. -/
theorem perm_of_remove {name : String} (hfound : p.remove name = (some b, p')) :
    p.bins.Perm (b :: p'.bins) := by
  unfold Pipeline.remove at hfound
  split at hfound
  next b' hb' =>
    cases hfound
    obtain ⟨hname, before, after, hbins, hothers⟩ := List.find?_eq_some_iff_append.mp hb'
    have herase : (b :: after).eraseP (·.name == name) = after := List.eraseP_cons_of_pos hname
    show p.bins.Perm (b :: p.bins.eraseP _)
    rw [hbins, List.eraseP_append_right _ (by simpa using hothers), herase]
    exact List.perm_middle
  next => cases hfound

/-! ### The life of a pipeline and of its targets -/

/-- The life of a pipeline on a device, with the bins that were taken out of it: those that were kept,
and those that went for good.  A bin comes without a target, or as it was kept; a bin that is kept may
be resized, or let go of its target.  Taking out a bin that is not there changes nothing.  In between,
the device does other work, denies targets and ceases to. -/
inductive TargetLife : List Bin → List Bin → Pipeline → Session → Prop where
  | new : TargetLife [] [] {} {}
  | meanwhile {kept gone : List Bin} {p : Pipeline} {s s' : Session}
      (h : TargetLife kept gone p s) (hspares : s.device.Spares s'.device) :
      TargetLife kept gone p s'
  | add {kept gone : List Bin} {p p' : Pipeline} {b : Bin} {s s' : Session}
      (h : TargetLife kept gone p s) (hb : b.held = []) (hrun : (p.add b).run s = .ok (p', s')) :
      TargetLife kept gone p' s'
  | keep {kept gone : List Bin} {p p' : Pipeline} {b : Bin} {name : String} {s : Session}
      (h : TargetLife kept gone p s) (hfound : p.remove name = (some b, p')) :
      TargetLife (b :: kept) gone p' s
  | drop {kept kept' gone : List Bin} {p : Pipeline} {b : Bin} {s : Session}
      (h : TargetLife kept gone p s) (hkept : kept.Perm (b :: kept')) :
      TargetLife kept' (b :: gone) p s
  | putBack {kept kept' gone : List Bin} {p p' : Pipeline} {b : Bin} {s s' : Session}
      (h : TargetLife kept gone p s) (hkept : kept.Perm (b :: kept'))
      (hrun : (p.add b).run s = .ok (p', s')) : TargetLife kept' gone p' s'
  | resize {kept kept' gone : List Bin} {p : Pipeline} {b b' : Bin} {width height : Nat}
      {s s' : Session} (h : TargetLife kept gone p s) (hkept : kept.Perm (b :: kept'))
      (hrun : (b.resize width height).run s = .ok (b', s')) : TargetLife (b' :: kept') gone p s'
  | reset {kept kept' gone : List Bin} {p : Pipeline} {b b' : Bin} {s s' : Session}
      (h : TargetLife kept gone p s) (hkept : kept.Perm (b :: kept'))
      (hrun : b.deviceReset.run s = .ok (b', s')) : TargetLife (b' :: kept') gone p s'
  | submit {kept gone : List Bin} {p p' : Pipeline} {library : Library} {o : Submission}
      {names : List String} {s s' : Session} (h : TargetLife kept gone p s)
      (hrun : (p.submit library o).run s = .ok ((names, p'), s')) : TargetLife kept gone p' s'
  | render {kept gone : List Bin} {p p' : Pipeline} {library library' : Library} {scene : Scene}
      {stats : FrameStats} {s s' : Session} (h : TargetLife kept gone p s)
      (hrun : (p.render library scene).run s = .ok ((stats, library', p'), s')) :
      TargetLife kept gone p' s'
  | endFrame {kept gone : List Bin} {p : Pipeline} {s : Session} (h : TargetLife kept gone p s) :
      TargetLife kept gone p.endFrame.2 s
  | deviceReset {kept gone : List Bin} {p p' : Pipeline} {s s' : Session}
      (h : TargetLife kept gone p s) (hrun : p.deviceReset.run s = .ok (p', s')) :
      TargetLife kept gone p' s'

namespace TargetLife

theorem reachable (h : TargetLife kept gone p s) : p.Reachable := by
  induction h with
  | new => exact .empty
  | meanwhile _ _ ih | drop _ _ ih | resize _ _ _ ih | reset _ _ _ ih => exact ih
  | add _ _ hrun ih | putBack _ _ hrun ih => exact ih.add hrun
  | @keep _ _ _ _ _ name _ _ hfound ih =>
      have hremoved := ih.remove name
      rwa [hfound] at hremoved
  | submit _ hrun ih => exact ih.submit hrun
  | render _ hrun ih => exact ih.render hrun
  | endFrame _ ih => exact ih.endFrame
  | deviceReset _ hrun ih => exact ih.deviceReset hrun

/-- At every point of the life, every target that was created is held by one of the bins or was
destroyed. -/
theorem accounted (h : TargetLife kept gone p s) :
    s.device.Accounted (heldBy (p.bins ++ (kept ++ gone))) := by
  have hcongr {bins bins' : List Bin} {s : Session} (hperm : bins.Perm bins')
      (h : s.device.Accounted (heldBy bins)) : s.device.Accounted (heldBy bins') :=
    h.congr (hperm.symm.flatMap_right held)
  -- A bin that is kept acts by itself, wherever it stands among the others.
  have hone {kept kept' gone bins : List Bin} {b b' : Bin} {s s' : Session} {x : Action Bin}
      (hkept : kept.Perm (b :: kept')) (hx : Exchanges b.held held x)
      (hrun : x.run s = .ok (b', s')) (h : s.device.Accounted (heldBy (bins ++ (kept ++ gone)))) :
      s'.device.Accounted (heldBy (bins ++ (b' :: kept' ++ gone))) := by
    have hfirst : (bins ++ (kept ++ gone)).Perm (b :: (bins ++ (kept' ++ gone))) :=
      ((hkept.append_right gone).append_left bins).trans List.perm_middle
    exact hcongr List.perm_middle.symm (hx _ _ _ _ hrun (hcongr hfirst h))
  induction h with
  | new => exact Device.accounted_default
  | meanwhile _ hspares ih => exact ih.spares hspares
  | @add _ _ _ _ b _ _ _ hb hrun ih =>
      obtain ⟨hbins, hdevice⟩ := of_run_add hrun
      have hnone : heldBy [b] = [] := by rw [heldBy, List.flatMap_singleton, hb]
      rw [heldBy_append] at ih
      rwa [hdevice, hbins, heldBy_append, heldBy_append, hnone, List.append_nil]
  | keep _ hfound ih =>
      exact hcongr (((perm_of_remove hfound).append_right _).trans List.perm_middle.symm) ih
  | @drop kept kept' gone p b s _ hkept ih =>
      exact hcongr (((hkept.append_right gone).trans List.perm_middle.symm).append_left p.bins) ih
  | @putBack kept kept' gone p p' b s s' _ hkept hrun ih =>
      obtain ⟨hbins, hdevice⟩ := of_run_add hrun
      rw [hbins, hdevice, List.append_assoc]
      exact hcongr ((hkept.append_right gone).append_left p.bins) ih
  | @resize _ _ _ _ b _ width height _ _ _ hkept hrun ih =>
      exact hone hkept (b.exchanges_resize width height) hrun ih
  | @reset _ _ _ _ b _ _ _ _ hkept hrun ih => exact hone hkept b.exchanges_deviceReset hrun ih
  | submit h hrun ih =>
      rw [device_of_submit hrun, heldBy_append, heldBy_submit h.reachable hrun, ← heldBy_append]
      exact ih
  | render h hrun ih =>
      rw [heldBy_append] at ih ⊢
      exact exchanges_render h.reachable _ _ _ _ _ _ hrun ih
  | @endFrame _ _ p s _ ih =>
      rw [heldBy_append] at ih ⊢
      show s.device.Accounted (heldBy (p.bins.map clear) ++ _)
      rwa [heldBy_map (f := clear) fun _ => rfl]
  | deviceReset _ hrun ih =>
      rw [heldBy_append] at ih ⊢
      exact exchanges_deviceReset _ _ _ _ _ hrun ih

/-- The targets of a device are settled: it is clear who has each of them. -/
structure Settled (kept gone : List Bin) (p : Pipeline) (s : Session) : Prop where
  /-- The live targets are those of the bins, the installed, the kept and the gone. -/
  live_iff : ∀ t, s.device.LiveTarget t ↔ ∃ b ∈ p.bins ++ (kept ++ gone), t ∈ b.held
  /-- No two bins have one target. -/
  apart : (heldBy (p.bins ++ (kept ++ gone))).Nodup
  /-- What was destroyed had been created, and was destroyed once. -/
  destroyed : s.device.destroyedTargets.Nodup ∧
    s.device.destroyedTargets ⊆ s.device.createdTargets
  /-- The live targets are those of the bins that still exist, exactly if no bin went with one. -/
  existing_iff : (∀ t, s.device.LiveTarget t ↔ ∃ b ∈ p.bins ++ kept, t ∈ b.held) ↔
    ∀ b ∈ gone, b.held = []

/-- **Every target has one holder, and a bin that goes for good takes its target along.**  However
bins come and go, frames are drawn and the device denies targets, the targets that were created and
not destroyed are those of the bins, each of one bin, and none is destroyed twice.  A bin that goes
while it has a target leaves that behind, and only then is there a live target that no bin has which
still exists. -/
theorem settled (h : TargetLife kept gone p s) : Settled kept gone p s := by
  have haccounted := h.accounted
  have hlive (t : TargetHandle) :
      s.device.LiveTarget t ↔ ∃ b ∈ p.bins ++ (kept ++ gone), t ∈ b.held := by
    rw [haccounted.live_iff, heldBy, List.mem_flatMap]
  have hnodup := haccounted.nodup
  have hapart : (heldBy (p.bins ++ (kept ++ gone))).Nodup := (List.nodup_append.mp hnodup).1
  have hdisjoint : (heldBy (p.bins ++ kept)).Disjoint (heldBy gone) := by
    rw [← List.append_assoc, heldBy_append] at hapart
    exact List.disjoint_of_nodup_append hapart
  refine ⟨hlive, hapart, ⟨(List.nodup_append.mp hnodup).2.1, ?_⟩, fun hexisting b hb => ?_, ?_⟩
  · exact fun t ht => haccounted.subset (List.mem_append_right _ ht)
  · -- A target of a bin that is gone is live, so another bin would have it too.
    refine List.eq_nil_iff_forall_not_mem.mpr fun t ht => ?_
    have hmem : b ∈ p.bins ++ (kept ++ gone) :=
      List.mem_append_right _ (List.mem_append_right _ hb)
    obtain ⟨b', hb', ht'⟩ := (hexisting t).mp ((hlive t).mpr ⟨b, hmem, ht⟩)
    exact hdisjoint (List.mem_flatMap.mpr ⟨b', hb', ht'⟩) (List.mem_flatMap.mpr ⟨b, hb, ht⟩)
  · intro hgone t
    rw [hlive, ← List.append_assoc]
    constructor
    · rintro ⟨b, hb, ht⟩
      rcases List.mem_append.mp hb with hb | hb
      · exact ⟨b, hb, ht⟩
      · rw [hgone b hb] at ht
        cases ht
    · rintro ⟨b, hb, ht⟩
      exact ⟨b, List.mem_append_left _ hb, ht⟩

/-- A glow bin that draws, is taken out and goes: its target is live, and no bin has it that still
exists. -/
theorem settled_of_glow : ∃ b p s, TargetLife [] [b] p s ∧ p.bins = [] ∧ b.held = [⟨0⟩] ∧
    s.device.LiveTarget ⟨0⟩ ∧ Settled [] [b] p s := by
  let p₀ : Pipeline := reorder { bins := [.glow 4 2] }
  let library : Library :=
    { context := ⟨.builtin, {}⟩, warning := { material := .warning, format := .positionNormalUv } }
  have hcheck : ((p₀.render library {}).run {}).toOption.any (fun r =>
      let (found, p) := r.1.2.2.remove "glow"
      p.bins.isEmpty && found.any (·.held == [⟨0⟩])) = true := by
    decide +kernel
  obtain ⟨⟨⟨stats, library', p₁⟩, s⟩, hrun, hgood⟩ := exists_of_any_toOption hcheck
  have hinstalled : TargetLife [] [] p₀ ({} : Session) :=
    (TargetLife.new.add (b := .glow 4 2) rfl rfl).meanwhile (.refl _)
  have hdrawn := hinstalled.render hrun
  cases hremoved : p₁.remove "glow" with
  | mk found p =>
      rw [hremoved, Bool.and_eq_true, List.isEmpty_iff] at hgood
      obtain ⟨hnone, hfound⟩ := hgood
      cases found with
      | none => cases hfound
      | some b =>
          have hheld : b.held = [⟨0⟩] := beq_iff_eq.mp hfound
          have hgone : TargetLife [] [b] p s := (hdrawn.keep hremoved).drop (.refl _)
          have hsettled := hgone.settled
          refine ⟨b, p, s, hgone, hnone, hheld, (hsettled.live_iff ⟨0⟩).mpr ⟨b, ?_, ?_⟩, hsettled⟩
          · rw [hnone]
            exact List.mem_singleton_self b
          · rw [hheld]
            exact List.mem_singleton_self _

end TargetLife

end Pipeline

end MaterialPipeline
