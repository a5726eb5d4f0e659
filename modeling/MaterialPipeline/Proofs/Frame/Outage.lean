import MaterialPipeline.Proofs.Frame.Strokes
import MaterialPipeline.Proofs.Material.Asking
import MaterialPipeline.Proofs.Material.Outage

/-!
# Proofs — Frame — Outage

Frames on a lost device.  A bin whose target is not there draws nothing; every other bin asks for the
materials of its elements, and is given nothing.

* `Bin.Asks`, `Pipeline.asks`: the references that a frame on a lost device asks for.
* `Pipeline.Reachable.outlasted_render`: such a frame asks for these, and for nothing else.
* `Library.Outage`: any number of frames and questions while the device is lost.
* `Library.answer_after_outage`: what is built when the device is back.
-/

namespace MaterialPipeline

open MaterialPipeline.Action

variable {scene : Scene} {kind : BinKind} {material : MaterialRef} {objects : List Submission}
  {d d' : Drawing} {s s' : Session} {l : Library} {asked : Set MaterialRef}
  {arena : FrameArena Submission}

/-! ### Strokes on a lost device -/

theorem outlasted_drawBatch (hl : l.Outlasted asked d.library) (hlost : s.device.lost = true)
    (hrun : ((drawBatch scene kind material objects).run d).run s = .ok (((), d'), s')) :
    s'.device.lost = true ∧ l.Outlasted (insert material asked) d'.library := by
  obtain ⟨found, library, s₁, hfound⟩ := exists_run_renderable hrun
  obtain ⟨rfl, hlost₁, hl'⟩ := hl.ask hlost hfound
  obtain ⟨library', rfl, hrun'⟩ := run_drawBatch scene kind objects hfound
  cases hrun'.symm.trans hrun
  exact ⟨(s₁.answersLike_applyAll _).lost.trans hlost₁, hl'⟩

theorem outlasted_drawDelegate {delegate : Delegate} {o : Submission}
    (hl : l.Outlasted asked d.library) (hlost : s.device.lost = true)
    (hrun : ((drawDelegate delegate o).run d).run s = .ok (((), d'), s')) :
    s'.device.lost = true ∧ l.Outlasted asked d'.library := by
  cases hrun
  exact ⟨(s.answersLike_applyAll _).lost.trans hlost, hl⟩

namespace BinCore

variable {c : BinCore} {rule : DrawRule} {elements : List BinElement}

/-- The materials of elements that do not draw themselves. -/
def asks (c : BinCore) (arena : FrameArena Submission) (rule : DrawRule)
    (elements : List BinElement) : Set MaterialRef :=
  { r | ∃ e ∈ elements, ∃ o, arena.find e.handle = some o ∧
    (rule.mode = .each → o.delegate = none) ∧ c.materialFor o rule.hook = some r }

theorem asks_nil : c.asks arena rule [] = ∅ := by
  ext r
  simp [asks]

theorem asks_cons {e : BinElement} {o : Submission} (hfind : arena.find e.handle = some o) :
    c.asks arena rule (e :: elements) =
      { r | (rule.mode = .each → o.delegate = none) ∧ c.materialFor o rule.hook = some r } ∪
        c.asks arena rule elements := by
  ext r
  simp [asks, hfind]

/-- Elements that are taken together ask for one material. -/
theorem asks_cons_take {e : BinElement} {o : Submission} {n : Nat}
    (hfind : arena.find e.handle = some o) (heach : rule.mode ≠ .each)
    (hmaterial : c.materialFor o rule.hook = some material)
    (htaken : ∀ e ∈ elements.take n, ∃ o, arena.find e.handle = some o ∧
      c.materialFor o rule.hook = some material) :
    c.asks arena rule (e :: elements) =
      insert material (c.asks arena rule (elements.drop n)) := by
  rw [asks_cons hfind]
  ext r
  constructor
  · rintro (⟨-, hr⟩ | ⟨e', he', o', hfind', hdelegate, hr⟩)
    · exact .inl (Option.some.inj (hr.symm.trans hmaterial))
    · rw [← List.take_append_drop n elements] at he'
      rcases List.mem_append.mp he' with he' | he'
      · obtain ⟨o'', hfind'', hmaterial'⟩ := htaken e' he'
        cases hfind''.symm.trans hfind'
        exact .inl (Option.some.inj (hr.symm.trans hmaterial'))
      · exact .inr ⟨e', he', o', hfind', hdelegate, hr⟩
  · rintro (rfl | ⟨e', he', hasks⟩)
    · exact .inl ⟨fun h => absurd h heach, hmaterial⟩
    · exact .inr ⟨e', List.mem_of_mem_drop he', hasks⟩

theorem outlasted_renderRuns (batch : Bool) (heach : rule.mode ≠ .each)
    (hl : l.Outlasted asked d.library) (hlost : s.device.lost = true)
    (hrun : ((c.renderRuns arena scene rule.hook kind batch elements).run d).run s =
      .ok (((), d'), s')) :
    s'.device.lost = true ∧ l.Outlasted (c.asks arena rule elements ∪ asked) d'.library := by
  induction elements using group_induction generalizing d s asked with
  | nil =>
      rw [renderRuns] at hrun
      cases hrun
      rw [asks_nil, Set.empty_union]
      exact ⟨hlost, hl⟩
  | cons e rest ih =>
      cases hget : arena.get e.handle with
      | error fault =>
          rw [renderRuns, hget] at hrun
          cases hrun
      | ok o =>
          have hfind := FrameArena.get_eq_ok_iff.mp hget
          rw [renderRuns_cons hget] at hrun
          cases hmaterial : c.materialFor o rule.hook with
          | none =>
              rw [hmaterial] at hrun
              have hrest := ih 0 hl hlost hrun
              rw [asks_cons hfind]
              simpa [hmaterial] using hrest
          | some material =>
              rw [hmaterial] at hrun
              obtain ⟨more, _, _, hlift, hdraw⟩ := of_runs_bind hrun
              obtain ⟨rfl, rfl, hmore⟩ := of_runs_lift hlift
              obtain ⟨members, rfl, helements, hmembers, -⟩ := of_companions hmore
              obtain ⟨_, d₁, s₁, hbatch, hrest⟩ := of_runs_bind hdraw
              obtain ⟨hlost₁, hl₁⟩ := outlasted_drawBatch hl hlost hbatch
              have htaken : ∀ e ∈ rest.take (members.map Member.object).length, ∃ o,
                  arena.find e.handle = some o ∧ c.materialFor o rule.hook = some material := by
                intro e he
                rw [← helements] at he
                obtain ⟨m, hm, rfl⟩ := List.mem_map.mp he
                exact ⟨m.object, hmembers m hm⟩
              rw [asks_cons_take hfind heach hmaterial htaken, Set.insert_union, ← Set.union_insert]
              exact ih _ hl₁ hlost₁ hrest

theorem outlasted_renderEach (hmode : rule.mode = .each) (hl : l.Outlasted asked d.library)
    (hlost : s.device.lost = true)
    (hrun : ((c.renderEach arena scene rule.hook kind elements).run d).run s =
      .ok (((), d'), s')) :
    s'.device.lost = true ∧ l.Outlasted (c.asks arena rule elements ∪ asked) d'.library := by
  induction elements generalizing d s asked with
  | nil =>
      cases hrun
      rw [asks_nil, Set.empty_union]
      exact ⟨hlost, hl⟩
  | cons e rest ih =>
      rw [renderEach] at hrun
      obtain ⟨o, _, _, hlift, hthen⟩ := of_runs_bind hrun
      obtain ⟨rfl, rfl, hget⟩ := of_runs_lift hlift
      rw [asks_cons (FrameArena.get_eq_ok_iff.mp hget)]
      cases hdelegate : o.delegate with
      | some delegate =>
          rw [hdelegate] at hthen
          obtain ⟨_, d₁, s₁, hdraw, hrest⟩ := of_runs_bind hthen
          obtain ⟨hlost₁, hl₁⟩ := outlasted_drawDelegate hl hlost hdraw
          simpa [hmode] using ih hl₁ hlost₁ hrest
      | none =>
          rw [hdelegate] at hthen
          cases hmaterial : c.materialFor o rule.hook with
          | none =>
              simp only [hmaterial] at hthen
              simpa using ih hl hlost hthen
          | some material =>
              simp only [hmaterial] at hthen
              obtain ⟨_, d₁, s₁, hdraw, hrest⟩ := of_runs_bind hthen
              obtain ⟨hlost₁, hl₁⟩ := outlasted_drawBatch hl hlost hdraw
              have hrest := ih hl₁ hlost₁ hrest
              rw [Set.union_insert, ← Set.insert_union] at hrest
              simpa using hrest

end BinCore

/-! ### Bins on a lost device -/

/-- A lost device creates no target: one that is there is acquired, and no other. -/
theorem OffscreenTarget.acquire_of_lost {t t' : OffscreenTarget} {h : Option TargetHandle}
    (hlost : s.device.lost = true) (hrun : t.acquire.run s = .ok ((h, t'), s')) :
    h = t.handle ∧ s'.device.lost = true := by
  obtain ⟨⟨handle, t₁⟩, s₁, hensure, hrun⟩ := of_run_bind hrun
  have hensured : handle = t.handle ∧ s₁.device.lost = true := by
    unfold ensure at hensure
    cases ht : t.handle with
    | some h =>
        rw [ht] at hensure
        cases hensure
        exact ⟨rfl, hlost⟩
    | none =>
        rw [ht] at hensure
        obtain ⟨answer, s₂, hcreate, hensure⟩ := of_run_bind hensure
        cases (run_onDevice _ s).symm.trans hcreate
        have hrefused : (s.device.createTarget t.target).1 = .error .lost := by
          simp [Device.createTarget, Device.record, hlost]
        rw [hrefused] at hensure
        cases hensure
        exact ⟨rfl, (Device.AnswersLike.createTarget s.device t.target).lost.trans hlost⟩
  obtain ⟨rfl, hlost₁⟩ := hensured
  cases ht : t.handle with
  | none =>
      rw [ht] at hrun
      cases hrun
      exact ⟨rfl, hlost₁⟩
  | some h =>
      rw [ht] at hrun
      cases hrun
      exact ⟨rfl, (s₁.answersLike_applyAll _).lost.trans hlost₁⟩

namespace Bin

variable {b b' : Bin} {rule : DrawRule}

/-- The references that the bin asks for on a lost device: none if it does not draw, or if its target
is not there. -/
def asks (b : Bin) (arena : FrameArena Submission) (scene : Scene) : Set MaterialRef :=
  { r | ∃ rule, b.rules.draws scene.pass = some rule ∧ (∀ t ∈ b.target, t.handle.isSome) ∧
    r ∈ b.core.asks arena rule b.core.elements }

theorem asks_of_rule (hrule : b.rules.draws scene.pass = some rule)
    (htarget : ∀ t ∈ b.target, t.handle.isSome) :
    b.asks arena scene = b.core.asks arena rule b.core.elements := by
  ext r
  constructor
  · rintro ⟨rule', hrule', -, hr⟩
    cases hrule.symm.trans hrule'
    exact hr
  · exact fun hr => ⟨rule, hrule, htarget, hr⟩

theorem asks_sort : b.sort.asks arena scene = b.asks arena scene := by
  obtain ⟨elements, hperm, hcore⟩ := b.core_sort
  have hsame (rule : DrawRule) : b.sort.core.asks arena rule b.sort.core.elements =
      b.core.asks arena rule b.core.elements := by
    ext r
    rw [hcore]
    exact exists_congr fun e => and_congr_left' hperm.mem_iff
  ext r
  exact exists_congr fun rule => and_congr_right' (and_congr_right' (by rw [hsame]))

theorem outlasted_renderBy (hl : l.Outlasted asked d.library) (hlost : s.device.lost = true)
    (hrun : ((b.renderBy arena scene rule).run d).run s = .ok (((), d'), s')) :
    s'.device.lost = true ∧
      l.Outlasted (b.core.asks arena rule b.core.elements ∪ asked) d'.library := by
  unfold renderBy at hrun
  cases hmode : rule.mode with
  | batches =>
      rw [hmode] at hrun
      exact BinCore.outlasted_renderRuns true (by simp [hmode]) hl hlost hrun
  | singles =>
      rw [hmode] at hrun
      exact BinCore.outlasted_renderRuns false (by simp [hmode]) hl hlost hrun
  | each =>
      rw [hmode] at hrun
      exact BinCore.outlasted_renderEach hmode hl hlost hrun

theorem outlasted_render (hl : l.Outlasted asked d.library) (hlost : s.device.lost = true)
    (hrun : ((b.render arena scene).run d).run s = .ok ((b', d'), s')) :
    s'.device.lost = true ∧ l.Outlasted (b.asks arena scene ∪ asked) d'.library := by
  unfold render at hrun
  cases hrule : b.rules.draws scene.pass with
  | none =>
      rw [hrule] at hrun
      cases hrun
      have hnone : b.asks arena scene = ∅ := by
        ext r
        simp [asks, hrule]
      rw [hnone, Set.empty_union]
      exact ⟨hlost, hl⟩
  | some rule =>
      rw [hrule] at hrun
      cases htarget : b.target with
      | none =>
          rw [htarget] at hrun
          obtain ⟨_, _, _, hdraw, hrun⟩ := of_runs_bind hrun
          cases hrun
          rw [asks_of_rule hrule (by simp [htarget])]
          exact outlasted_renderBy hl hlost hdraw
      | some target =>
          rw [htarget] at hrun
          obtain ⟨⟨handle, target'⟩, s₁, hacquire, hrun⟩ := of_runs_lift_bind hrun
          obtain ⟨rfl, hlost₁⟩ := OffscreenTarget.acquire_of_lost hlost hacquire
          cases hhandle : target.handle with
          | none =>
              rw [hhandle] at hrun
              cases hrun
              have hnone : b.asks arena scene = ∅ := by
                ext r
                simp [asks, htarget, hhandle]
              rw [hnone, Set.empty_union]
              exact ⟨hlost₁, hl⟩
          | some h =>
              rw [hhandle] at hrun
              obtain ⟨_, d₂, s₂, hdraw, hrun⟩ := of_runs_bind hrun
              obtain ⟨_, s₃, hleave, hrun⟩ := of_runs_lift_bind hrun
              cases hleave
              cases hrun
              obtain ⟨hlost₂, hl₂⟩ := outlasted_renderBy hl hlost₁ hdraw
              rw [asks_of_rule hrule (by simp [htarget, hhandle])]
              exact ⟨(s₂.answersLike_applyAll _).lost.trans hlost₂, hl₂⟩

end Bin

/-! ### Frames on a lost device -/

namespace Pipeline

variable {p p' : Pipeline} {l₁ l' : Library} {stats : FrameStats} {bins drawn : List Bin}

/-- The references that a frame on a lost device asks for. -/
def asks (p : Pipeline) (scene : Scene) : Set MaterialRef :=
  { r | ∃ b ∈ p.bins, r ∈ b.asks p.arena scene }

theorem outlasted_drawAll (hl : l.Outlasted asked d.library) (hlost : s.device.lost = true)
    (hrun : ((drawAll arena scene bins).run d).run s = .ok ((drawn, d'), s')) :
    s'.device.lost = true ∧
      l.Outlasted ({ r | ∃ b ∈ bins, r ∈ b.asks arena scene } ∪ asked) d'.library := by
  induction bins generalizing d s drawn asked with
  | nil =>
      cases hrun
      simpa using ⟨hlost, hl⟩
  | cons b rest ih =>
      rw [drawAll, List.mapM_cons] at hrun
      obtain ⟨b', d₁, s₁, hb, hrun⟩ := of_runs_bind hrun
      obtain ⟨drawn', d₂, s₂, hrest, hrun⟩ := of_runs_bind hrun
      cases hrun
      obtain ⟨hlost₁, hl₁⟩ := Bin.outlasted_render hl hlost hb
      have hset : { r | ∃ b' ∈ b :: rest, r ∈ b'.asks arena scene } =
          { r | ∃ b' ∈ rest, r ∈ b'.asks arena scene } ∪ b.sort.asks arena scene := by
        ext r
        simp [Bin.asks_sort, or_comm]
      rw [hset, Set.union_assoc]
      exact ih hl₁ hlost₁ hrest

/-- **A frame on a lost device.**  It asks for the materials that its bins can draw. -/
theorem Reachable.outlasted_render (hp : p.Reachable) (hl : l.Outlasted asked l₁)
    (hlost : s.device.lost = true)
    (hrun : (p.render l₁ scene).run s = .ok ((stats, l', p'), s')) :
    l.Outlasted (p.asks scene ∪ asked) l' := by
  rw [hp.inOrder.listed.render_eq] at hrun
  obtain ⟨⟨drawn, drawing⟩, s₁, hdraw, hrun⟩ := of_run_bind hrun
  cases hrun
  have hset : p.asks scene = { r | ∃ b ∈ p.drawingOrder, r ∈ b.asks p.arena scene } := by
    ext r
    exact exists_congr fun b => and_congr_left' hp.inOrder.listed.perm_drawingOrder.mem_iff.symm
  rw [hset]
  exact (outlasted_drawAll hl hlost hdraw).2

end Pipeline

/-! ### Outages -/

namespace Library

variable {l₁ l₂ l' : Library} {r : MaterialRef} {f : Form} {b : BuiltMaterial}

/-- What is done while the device is lost: forms are asked for, and frames are drawn, by any pipeline.
-/
inductive Outage (l : Library) : Set MaterialRef → Library → Prop where
  | begins : Outage l ∅ l
  | ask {asked : Set MaterialRef} {l₁ l' : Library} {s s' : Session} {r : MaterialRef}
      {found : Option (FormPlace × Form)} (h : Outage l asked l₁) (hlost : s.device.lost = true)
      (hrun : (l₁.renderable r).run s = .ok ((found, l'), s')) : Outage l (insert r asked) l'
  | frame {asked : Set MaterialRef} {l₁ l' : Library} {s s' : Session} {p p' : Pipeline}
      {scene : Scene} {stats : FrameStats} (h : Outage l asked l₁) (hlost : s.device.lost = true)
      (hp : p.Reachable) (hrun : (p.render l₁ scene).run s = .ok ((stats, l', p'), s')) :
      Outage l (p.asks scene ∪ asked) l'

theorem Outage.outlasted (hfresh : ∀ place f, l.At place f → f.Fresh) (h : l.Outage asked l') :
    l.Outlasted asked l' := by
  induction h with
  | begins => exact .refl hfresh
  | ask _ hlost hrun ih => exact (ih.ask hlost hrun).2.2
  | frame _ hlost hp hrun ih => exact hp.outlasted_render ih hlost hrun

/-- **After an outage.**  The device is lost and everything is forgotten; then the library is used for
a while, and the device comes back.  A form that builds there is given when it is asked for, if it
was not asked for in between.  If it was, nothing is given, neither the form nor the stand-in, on
this device or on any other. -/
theorem answer_after_outage (hstep : Step l .deviceLost l₁) (houtage : l₁.Outage asked l₂)
    (hf : l₁.At (.own r) f) (hbuilds : (f.construct l₁.context).run s = .ok (.ok b, s')) :
    (r ∉ asked → ∃ l', (l₂.renderable r).run s = .ok ((some (.own r, f.withBuilt b), l'), s')) ∧
      (r ∈ asked → ∀ t, (l₂.renderable r).run t = .ok ((none, l₂), t)) := by
  have hblank : l₁ = l.blank := by
    cases hstep with
    | deviceLost hrun => exact l.yields_deviceLost.eq hrun
  have hfresh : ∀ place f, l₁.At place f → f.Fresh := by
    subst hblank
    exact fun place f hf => Form.fresh_of_blank_eq (blank_of_at_blank hf)
  have houtlasted := houtage.outlasted hfresh
  exact ⟨fun hr => houtlasted.answer_of_notMem hr hf hbuilds,
    fun hr => houtlasted.answer_of_mem hr hf⟩

/-- A stone is asked for once while the device is lost.  Although it builds when the device is back,
nothing is given for it then. -/
theorem answer_after_outage_of_rock : ∃ l l₁ l₂ r f b s', InUse l ∧ Step l .deviceLost l₁ ∧
    l₁.Outage {r} l₂ ∧ l₁.At (.own r) f ∧ (f.construct l₁.context).run {} = .ok (.ok b, s') ∧
      ∀ t, (l₂.renderable r).run t = .ok ((none, l₂), t) := by
  let m : Material := { name := "rock", stages := [.diffuse "a.png"] }
  have hwarning : BuildContext.Counts ⟨.builtin, {}⟩ .warning .positionNormalUv none :=
    BuildContext.counts_builtin rfl _ _ _
  obtain ⟨l, f, hl, hcontext, hf, rfl⟩ := exists_inUse m .positionNormalUv hwarning
  obtain ⟨_, hdeviceLost⟩ := l.yields_deviceLost {}
  have hstep : Step l .deviceLost l.blank := .deviceLost hdeviceLost
  have hregistry : l.blank.context.registry = .builtin := by
    rw [show l.blank.context = _ from hcontext]
  obtain ⟨found, l₂, s₂, hask⟩ := exists_run_renderable (r := ⟨.new 0 0, none⟩) hregistry
    (show Slot.position (.new 0 0) = .ok 0 from rfl) { device := { lost := true } }
  have houtage : l.blank.Outage {⟨.new 0 0, none⟩} l₂ := by
    have hasked := Outage.begins.ask rfl hask
    rwa [insert_empty_eq] at hasked
  have hbuilds : ((Form.construct { material := m, format := .positionNormalUv }
      ⟨.builtin, {}⟩).run {}).toOption.any (·.1.isOk) = true := by decide +kernel
  obtain ⟨⟨_ | b, s'⟩, hbuild, hok⟩ := exists_of_any_toOption hbuilds
  · cases hok
  · rw [← show l.blank.context = _ from hcontext] at hbuild
    exact ⟨l, l.blank, l₂, _, _, b, s', hl, hstep, houtage, hf.blank, hbuild,
      (answer_after_outage hstep houtage hf.blank hbuild).2 rfl⟩

end Library

end MaterialPipeline
