import MaterialPipeline.Proofs.Frame.Ending
import MaterialPipeline.Proofs.Frame.Programs
import MaterialPipeline.Proofs.Material.Tenants

/-!
# Proofs — Frame — Tenants

Whom the draws of a frame are for.  Materials come and go while objects that name them wait to be
drawn, and a cell that one material leaves is taken by the next.  In whatever order this happens, an
object is drawn with what was built for the tenant that it names, or with the stand-in, and it is not
drawn once the tenant has left.

* `Life`: a library and a pipeline on one device, step by step.
* `Life.Keeps`: what holds at every point of a life; one lemma for each step.
* `Life.hosts`: every handle still stands for its tenant, as long as no cell is used up.
* `Drawn.Serves`: whom a draw is for.
* `Life.serves_tenants`: what a frame draws, and that it ends.
-/

namespace MaterialPipeline

open MaterialPipeline.Action Library

variable {scene : Scene} {s₀ s s' : Session} {others : Multiset Object} {l l' : Library}
  {p p' : Pipeline} {tenants : List Tenant} {left ids : List Slot} {id : Slot}
  {o stamped : Submission} {names : List String} {stats : FrameStats}

/-! ### Objects that wait -/

namespace Submission

/-- The material of the object, if it has one, is one of some handles. -/
def NamesOneOf (ids : List Slot) (o : Submission) : Prop :=
  ∀ id ∈ o.material, id ∈ ids

theorem material_of_stamp (h : o.stamp l = .ok stamped) : stamped.material = o.material := by
  unfold stamp at h
  split at h
  next id hid =>
    cases hflags : l.flags id with
    | error fault =>
        rw [hflags] at h
        cases h
    | ok flags =>
        rw [hflags] at h
        cases h
        rfl
  next =>
    cases h
    rfl

/-- An object is stamped if the handle of its material names a position, stale or not. -/
theorem exists_stamp (h : ∀ id ∈ o.material, ∃ position, id.position = .ok position) :
    ∃ stamped, o.stamp l = .ok stamped := by
  unfold stamp
  cases hmaterial : o.material with
  | none => exact ⟨o, rfl⟩
  | some id =>
      obtain ⟨position, hposition⟩ := h id hmaterial
      obtain ⟨summary, hflags⟩ : ∃ summary, l.flags id = .ok summary := by
        rw [Library.flags, instance?, SlotSet.find_of_position hposition]
        exact ⟨_, rfl⟩
      refine ⟨{ o with material := some id, flags := summary }, ?_⟩
      dsimp only
      rw [hflags]
      rfl

theorem namesOneOf_of_geometry {kind : SubmissionKind} {vertices : BufferHandle}
    {indices : Option BufferHandle} {range : PrimitiveRange}
    (h : geometry kind id vertices indices range = .ok o) (hid : id ∈ ids) : o.NamesOneOf ids := by
  cases hposition : id.position with
  | error fault =>
      rw [geometry, hposition] at h
      cases h
  | ok position =>
      rw [geometry, hposition] at h
      cases h
      rintro _ ⟨⟩
      exact hid

end Submission

theorem Bin.override_offer (b : Bin) (h : FrameHandle) :
    (b.offer h o).2.core.override = b.core.override := by
  rw [Bin.offer]
  split <;> rfl

theorem Bin.override_sort {b : Bin} : b.sort.core.override = b.core.override := by
  obtain ⟨elements, -, hcore⟩ := b.core_sort
  rw [hcore]

namespace Pipeline

theorem override_of_render (hrun : (p.render l scene).run s = .ok ((stats, l', p'), s')) :
    p'.bins.map (·.core.override) = p.bins.map (·.core.override) := by
  obtain ⟨⟨bins, drawing⟩, _, hbins, hrun⟩ := of_run_bind hrun
  cases hrun
  calc (bins.map Bin.clear).map (·.core.override)
    _ = (bins.map (·.core)).map BinCore.override := by simp only [List.map_map]; rfl
    _ = (p.bins.map Bin.sort).map (·.core.override) := by
        rw [core_of_renderBins hbins, List.map_map]
        rfl
    _ = p.bins.map (·.core.override) := by
        rw [List.map_map]
        exact List.map_congr_left fun b _ => b.override_sort

end Pipeline

/-! ### A library and a pipeline -/

/-- The life of a library and a pipeline on one device: the tenants so far, the handles that were
given back, and what the two are now.  The device may be used in other ways in between.  Bins come
without elements and with no material in place of those of the objects, and an object names tenants
alone, present or not. -/
inductive Life (s₀ : Session) : List Tenant → List Slot → Library → Pipeline → Session → Prop where
  | new {registry : Registry} {config : Config} {l : Library} {s : Session}
      (hrun : (Library.new registry config).run s₀ = .ok (l, s)) : Life s₀ [] [] l {} s
  | adjusts {tenants : List Tenant} {left : List Slot} {l : Library} {p : Pipeline}
      {s s' : Session} (h : Life s₀ tenants left l p s) (ha : s.device.Adjusts s'.device) :
      Life s₀ tenants left l p s'
  | add {tenants : List Tenant} {left : List Slot} {l : Library} {p p' : Pipeline} {b : Bin}
      {s s' : Session} (h : Life s₀ tenants left l p s) (hb : b.core.elements = [])
      (hplain : b.core.override = none) (hrun : (p.add b).run s = .ok (p', s')) :
      Life s₀ tenants left l p' s'
  | create {tenants : List Tenant} {left : List Slot} {l l' : Library} {p : Pipeline}
      {m : Material} {format : VertexFormat} {id : Slot} {s s' : Session}
      (h : Life s₀ tenants left l p s) (hrun : (l.create m format).run s = .ok ((id, l'), s')) :
      Life s₀ (tenants ++ [⟨id, m, format⟩]) left l' p s'
  | destroy {tenants : List Tenant} {left : List Slot} {l l' : Library} {p : Pipeline} {id : Slot}
      {result : Except MaterialError Unit} {s s' : Session} (h : Life s₀ tenants left l p s)
      (hrun : (l.destroy id).run s = .ok ((result, l'), s')) :
      Life s₀ tenants (left ++ givenBack id result) l' p s'
  | setConfig {tenants : List Tenant} {left : List Slot} {l l' : Library} {p : Pipeline}
      {config : Config} {s s' : Session} (h : Life s₀ tenants left l p s)
      (hrun : (l.setConfig config).run s = .ok (l', s')) : Life s₀ tenants left l' p s'
  | submit {tenants : List Tenant} {left : List Slot} {l : Library} {p p' : Pipeline}
      {o : Submission} {names : List String} {s s' : Session} (h : Life s₀ tenants left l p s)
      (ho : o.NamesOneOf (tenants.map Tenant.id))
      (hrun : (p.submit l o).run s = .ok ((names, p'), s')) : Life s₀ tenants left l p' s'
  | render {tenants : List Tenant} {left : List Slot} {l l' : Library} {p p' : Pipeline}
      {scene : Scene} {stats : FrameStats} {s s' : Session} (h : Life s₀ tenants left l p s)
      (hrun : (p.render l scene).run s = .ok ((stats, l', p'), s')) : Life s₀ tenants left l' p' s'

namespace Life

/-- What holds at every point of a life. -/
structure Keeps (s₀ : Session) (ids : List Slot) (l : Library) (p : Pipeline) (s : Session) :
    Prop where
  reached : Library.Reached s₀ l s
  inUse : l.InUse
  idle : l.Idle
  lived : ∃ frame issued, Pipeline.Lived frame issued p
  plain : ∀ b ∈ p.bins, b.core.override = none
  /-- The objects of the frame name tenants. -/
  named : ∀ o ∈ p.arena.items, o.NamesOneOf ids

namespace Keeps

theorem valid (h : Keeps s₀ ids l p s) : l.instances.Valid :=
  h.inUse.inForce.valid

theorem inOrder (h : Keeps s₀ ids l p s) : p.InOrder := by
  obtain ⟨frame, issued, hlived⟩ := h.lived
  exact hlived.reachable.inOrder

theorem new {registry : Registry} {config : Config}
    (hrun : (Library.new registry config).run s₀ = .ok (l, s)) : Keeps s₀ [] l {} s where
  reached := .new hrun
  inUse := .new hrun
  idle := idle_new hrun
  lived := ⟨0, [], .empty⟩
  plain := fun _ hb => absurd hb List.not_mem_nil
  named := fun o ho => absurd ho (Array.not_mem_empty o)

theorem add {b : Bin} (h : Keeps s₀ ids l p s) (hb : b.core.elements = [])
    (hplain : b.core.override = none) (hrun : (p.add b).run s = .ok (p', s')) :
    Keeps s₀ ids l p' s' := by
  obtain ⟨frame, issued, hlived⟩ := h.lived
  have hlived' := hlived.add hb hrun
  obtain ⟨_, _, hreport, hrun⟩ := of_run_bind hrun
  cases hreport
  cases hrun
  exact { h with
    reached := h.reached.adjusts (.refl _)
    lived := ⟨frame, issued, hlived'⟩
    plain := by
      intro b' hb'
      rcases List.mem_append.mp hb' with hb' | hb'
      · exact h.plain b' hb'
      · exact List.mem_singleton.mp hb' ▸ hplain }

/-- What is done to the library alone. -/
theorem step {deed : Deed} {ids' : List Slot} (h : Keeps s₀ ids l p s) (hids : ids ⊆ ids')
    (hstep : Library.Step l deed l') (hreached : Library.Reached s₀ l' s') (hidle : l'.Idle) :
    Keeps s₀ ids' l' p s' :=
  { h with
    reached := hreached
    inUse := h.inUse.step hstep
    idle := hidle
    named := fun o ho id hid => hids (h.named o ho id hid) }

theorem submit (h : Keeps s₀ ids l p s) (ho : o.NamesOneOf ids)
    (hrun : (p.submit l o).run s = .ok ((names, p'), s')) : Keeps s₀ ids l p' s' := by
  obtain ⟨frame, issued, hlived⟩ := h.lived
  obtain ⟨stamped, hstamp, harena, visited, handle, hrouted⟩ :=
    Pipeline.routed_of_submit h.inOrder.listed hrun
  exact { h with
    reached := by
      refine h.reached.adjusts ?_
      rw [Pipeline.device_of_submit hrun]
      exact .refl _
    lived := ⟨_, _, hlived.submit hstamp hrun⟩
    plain := by
      intro b hb
      rcases hrouted.of_mem_bins hb with hb | ⟨b₀, hb₀, rfl⟩
      · exact h.plain b hb
      · exact (b₀.override_offer handle).trans (h.plain b₀ hb₀)
    named := by
      intro o' ho'
      rw [harena] at ho'
      rcases Array.mem_push.mp ho' with ho' | rfl
      · exact h.named o' ho'
      · intro id hid
        exact ho id (Submission.material_of_stamp hstamp ▸ hid) }

/-- All that a frame does to the library is asking it for forms. -/
theorem asked (h : Keeps s₀ ids l p s)
    (hrun : (p.render l scene).run s = .ok ((stats, l', p'), s')) :
    l'.InUse ∧ l'.Idle ∧ l.Retains l' := by
  obtain ⟨turns, -, -, -, hwalk⟩ := h.inOrder.listed.walk_render hrun
  refine Walk.asked (P := fun l' => l'.InUse ∧ l'.Idle ∧ l.Retains l') ?_ hwalk h.idle
    ⟨h.inUse, h.idle, .refl l⟩
  rintro l₁ r found l₂ s₁ s₂ ⟨hinUse, hidle, hretains⟩ hask
  exact ⟨hinUse.step (.ask hask), hidle.renderable hask,
    hretains.trans (retains_renderable hinUse.inForce.valid hask)⟩

theorem render (h : Keeps s₀ ids l p s)
    (hrun : (p.render l scene).run s = .ok ((stats, l', p'), s')) : Keeps s₀ ids l' p' s' := by
  obtain ⟨frame, issued, hlived⟩ := h.lived
  obtain ⟨hinUse, hidle, -⟩ := h.asked hrun
  obtain ⟨turns, -, -, -, hwalk⟩ := h.inOrder.listed.walk_render hrun
  have hend : p.Ends p' := .render hrun
  exact {
    reached := hwalk.reached h.reached
    inUse := hinUse
    idle := hidle
    lived := ⟨_, _, hlived.ends hend⟩
    plain := by
      intro b hb
      have hmem : b.core.override ∈ p'.bins.map (·.core.override) := List.mem_map_of_mem hb
      rw [Pipeline.override_of_render hrun] at hmem
      obtain ⟨b₀, hb₀, hsame⟩ := List.mem_map.mp hmem
      exact hsame ▸ h.plain b₀ hb₀
    named := by
      rw [hend.fresh.arena]
      exact fun o ho => absurd ho (Array.not_mem_empty o) }

end Keeps

theorem keeps (h : Life s₀ tenants left l p s) : Keeps s₀ (tenants.map Tenant.id) l p s := by
  induction h with
  | new hrun => exact .new hrun
  | adjusts _ ha ih => exact { ih with reached := ih.reached.adjusts ha }
  | add _ hb hplain hrun ih => exact ih.add hb hplain hrun
  | create _ hrun ih =>
      rw [List.map_append]
      exact ih.step (List.subset_append_left ..) (.create hrun) (ih.reached.create hrun)
        (ih.idle.create ih.valid hrun)
  | destroy _ hrun ih =>
      exact ih.step (List.Subset.refl _) (.destroy hrun) (ih.reached.destroy hrun)
        (ih.idle.destroy hrun)
  | setConfig _ hrun ih =>
      exact ih.step (List.Subset.refl _) (.setConfig hrun) (ih.reached.setConfig hrun)
        (ih.idle.setConfig hrun)
  | submit _ ho hrun ih => exact ih.submit ho hrun
  | render _ hrun ih => exact ih.render hrun

/-- **Handles stand for their tenants**, as long as the cells are counted in 32 bits and none of them
is taken into use more than 2³² times. -/
theorem hosts (h : Life s₀ tenants left l p s) (hroom : l.instances.cells.size < 2 ^ 32)
    (hrecycled : ∀ position, SlotSet.tenancies (tenants.map Tenant.id) position ≤ 2 ^ 32) :
    Hosts tenants left l := by
  -- The bounds held at every point before, as there are never fewer cells or tenants than there were.
  induction h with
  | new hrun => exact .new hrun
  | adjusts _ _ ih => exact ih hroom hrecycled
  | add _ _ _ _ ih => exact ih hroom hrecycled
  | @create tenants _ l _ _ m format _ _ _ h hrun ih =>
      obtain ⟨rfl, rfl⟩ := Prod.mk.inj ((l.yields_create m format).eq hrun)
      obtain ⟨_, _, -, -, -, hsize, -⟩ := SlotSet.push_cases h.keeps.valid hroom
      refine (ih (hsize.trans_lt hroom) fun position => ?_).create m format hroom hrecycled
      refine le_trans ?_ (hrecycled position)
      rw [List.map_append]
      exact SlotSet.tenancies_le_concat _
  | destroy _ hrun ih => exact (ih (size_destroy hrun ▸ hroom) hrecycled).destroy hrun
  | setConfig h hrun ih =>
      have hretains := retains_setConfig h.keeps.valid hrun
      exact (ih (SlotSet.size_of_layout hretains.layout ▸ hroom) hrecycled).retains hretains
  | submit _ _ _ ih => exact ih hroom hrecycled
  | render h hrun ih =>
      obtain ⟨-, -, hretains⟩ := h.keeps.asked hrun
      exact (ih (SlotSet.size_of_layout hretains.layout ▸ hroom) hrecycled).retains hretains

end Life

/-! ### Whom a draw is for -/

/-- A draw for an object, in a pass of `b`, by a bin that asks for `hook`.  The object names a tenant
that has not left, and the program is of what was built of the material of that tenant, for the hook,
or of the stand-in. -/
structure Drawn.Serves (tenants : List Tenant) (left : List Slot) (device : Device)
    (hook : Option Variant) (o : Submission) (b : BuiltMaterial) (p : Pass) (drawn : Drawn) :
    Prop where
  program : drawn.registers .program = some p.program
  range : drawn.range = o.range
  pass : p ∈ b.passes
  present : ∃ t ∈ tenants, o.material = some t.id ∧ t.id ∉ left
  built : (∀ t ∈ tenants, o.material = some t.id →
      Holding.Sound device ⟨t.material, t.format, hook, b⟩) ∨
    Holding.Sound device ⟨.warning, .positionNormalUv, none, b⟩

/-- Whom a draw is for, when a bin draws that asks for `hook`: an object of the frame, with the
material of its tenant, or as it draws itself. -/
def Cause.Serves (tenants : List Tenant) (left : List Slot) (arena : FrameArena Submission)
    (device : Device) (hook : Option Variant) : Cause → Drawn → Prop
  | .pass _ m b p, drawn =>
    m.object ∈ arena.items ∧ drawn.Serves tenants left device hook m.object b p
  | .self m range, drawn =>
    m.object ∈ arena.items ∧ m.object.delegate.isSome ∧ drawn.range = range

theorem BinCore.materialFor_of_plain {c : BinCore} (hc : c.override = none) (o : Submission)
    (hook : Option Variant) : c.materialFor o hook = o.material.map (⟨·, hook⟩) := by
  rw [materialFor, hc]
  rfl

/-- The objects of the strokes of a bin are objects of the frame. -/
theorem BinCore.Draws.mem_items {c : BinCore} {arena : FrameArena Submission} {rule : DrawRule}
    {elements : List BinElement} {strokes : List Stroke} (h : c.Draws arena rule elements strokes)
    {stroke : Stroke} (hstroke : stroke ∈ strokes) {m : Member} (hm : m ∈ stroke.members) :
    m.object ∈ arena.items :=
  FrameArena.mem_of_find (h.find_of_mem hstroke hm).2

/-- A bin serves the tenants of a library, if the library gave what the bin drew with. -/
theorem Bin.DrawsTo.serves {b b' : Bin} {arena : FrameArena Submission} {strokes : List Stroke}
    {device : Device} {cause : Cause} {drawn : Drawn} (h : b.DrawsTo arena scene b' strokes)
    (hplain : b.core.override = none)
    (hnamed : ∀ o ∈ arena.items, o.NamesOneOf (tenants.map Tenant.id))
    (hhosts : Hosts tenants left l) (hl : l.InUse) (hsound : ∀ h ∈ l.holdings, h.Sound device)
    (hasked : ∀ kind material members built, .batch kind material members built ∈ strokes →
      l.Gives material built)
    (hcause : cause ∈ strokes.flatMap Stroke.causes) (hruns : cause.Runs drawn) :
    ∃ rule, b.rules.draws scene.pass = some rule ∧
      cause.Serves tenants left arena device rule.hook drawn := by
  cases h with
  | resting => cases hcause
  | refused => cases hcause
  | @elements rule _ _ hrule _ hdraws =>
      refine ⟨rule, hrule, ?_⟩
      obtain ⟨stroke, hstroke, hcause⟩ := List.mem_flatMap.mp hcause
      have hsuits := hdraws.suits stroke hstroke
      cases stroke with
      | delegate m ranges =>
          obtain ⟨range, -, rfl⟩ := List.mem_map.mp hcause
          obtain ⟨-, delegate, hdelegate, -⟩ := hsuits
          exact ⟨hdraws.mem_items hstroke (List.mem_singleton_self m), hdelegate ▸ rfl, hruns⟩
      | batch kind material members built =>
          cases built with
          | none => cases hcause
          | some built =>
              obtain ⟨p, hp, hcause⟩ := List.mem_flatMap.mp hcause
              obtain ⟨m, hm, rfl⟩ := List.mem_map.mp hcause
              have hitem := hdraws.mem_items hstroke hm
              -- The reference that was asked for is the object's own, with the hook of the rule.
              have hmaterial := (hsuits.2.1 m hm).1
              rw [BinCore.materialFor_of_plain hplain] at hmaterial
              obtain ⟨id, hid, rfl⟩ := Option.map_eq_some_iff.mp hmaterial
              obtain ⟨hstays, hheld⟩ :=
                hhosts.holding_of_gives hl (hasked kind _ members _ hstroke)
              obtain ⟨t, ht, rfl⟩ := List.mem_map.mp (hnamed m.object hitem id hid)
              exact ⟨hitem, {
                program := hruns.1
                range := hruns.2
                pass := hp
                present := ⟨t, ht, hid, hstays⟩
                built := hheld.imp (fun hheld t' ht' hid' => hsound _
                  (hheld t' ht' (Option.some.inj (hid'.symm.trans hid)))) (hsound _) }⟩

/-- A frame that serves the tenants, between two states of the device: the bins take turns in the
order of drawing, and each draw of a bin is for a tenant that has not left, or of an object that
draws itself. -/
structure Pipeline.Serves (tenants : List Tenant) (left : List Slot) (p : Pipeline) (scene : Scene)
    (d d' : Device) (turns : List Turn) (calls : List Call) : Prop where
  order : turns.map Turn.before = p.drawingOrder.map Bin.sort
  strokes : ∀ t ∈ turns, t.before.DrawsTo p.arena scene t.after t.strokes
  issued : d'.calls.toList = d.calls.toList ++ calls
  draws : List.Forall₂ (fun (x : Turn × Cause) drawn =>
      ∃ rule, x.1.before.rules.draws scene.pass = some rule ∧
        x.2.Serves tenants left p.arena d' rule.hook drawn)
    (turns.flatMap fun t => (t.strokes.flatMap Stroke.causes).map (t, ·)) (d.registers.draws calls)

namespace Life

/-! ### Frames -/

theorem exists_run_submit (h : Life s₀ tenants left l p s) (hhosts : Hosts tenants left l)
    (ho : o.NamesOneOf (tenants.map Tenant.id)) :
    ∃ names p' s', (p.submit l o).run s = .ok ((names, p'), s') := by
  obtain ⟨stamped, hstamp⟩ := Submission.exists_stamp (l := l) fun id hid =>
    hhosts.exists_position (ho id hid)
  obtain ⟨_, names, p', s', hrun, -⟩ := Pipeline.routed_submit h.keeps.inOrder.listed hstamp s
  exact ⟨names, p', s', hrun⟩

theorem ends_render (h : Life s₀ tenants left l p s) (hhosts : Hosts tenants left l)
    (scene : Scene) :
    (∃ stats l' p' s', (p.render l scene).run s = .ok ((stats, l', p'), s')) ∨
      l.context.registry ≠ .builtin ∧ ¬ l.Affords ∧
        (p.render l scene).run s = .error .addOverflow := by
  have hkeeps := h.keeps
  obtain ⟨frame, issued, hlived⟩ := hkeeps.lived
  refine (hkeeps.inOrder.listed.ends_render (fun b hb hook e he => ?_) l scene s).imp_right
    fun ⟨hl, hrun⟩ => ⟨hl ∘ affords_builtin, hl, hrun⟩
  obtain ⟨o, hfind⟩ := hlived.keeps.resolvesAll hb e he
  refine ⟨o, hfind, fun material hmaterial => ?_⟩
  rw [BinCore.materialFor_of_plain (hkeeps.plain b hb)] at hmaterial
  obtain ⟨id, hid, rfl⟩ := Option.map_eq_some_iff.mp hmaterial
  exact hhosts.exists_position (hkeeps.named o (FrameArena.mem_of_find hfind) id hid)

theorem serves_of_render (h : Life s₀ tenants left l p s) (howns : s₀.device.Owns others)
    (hhosts : Hosts tenants left l)
    (hrun : (p.render l scene).run s = .ok ((stats, l', p'), s')) :
    ∃ turns calls, p.Serves tenants left scene s.device s'.device turns calls := by
  have hkeeps := h.keeps
  obtain ⟨hinUse, -, hretains⟩ := hkeeps.asked hrun
  obtain ⟨turns, hbefore, -, hturns, hwalk⟩ := hkeeps.inOrder.listed.walk_render hrun
  have hsound := ((hwalk.reached hkeeps.reached).accounts howns).sound
  -- What was given on the way is still given at the end, so the library after the frame decides.
  obtain ⟨-, htallied⟩ := hwalk.tallied howns hkeeps.reached hkeeps.idle
  obtain ⟨calls, hcalls, hruns⟩ := hwalk.runs howns hkeeps.reached hkeeps.idle
  refine ⟨turns, calls, hbefore, hturns, hcalls, ?_⟩
  obtain ⟨labels, hlabels⟩ : ∃ labels : List (Turn × Cause),
      labels = turns.flatMap fun t => (t.strokes.flatMap Stroke.causes).map (t, ·) := ⟨_, rfl⟩
  have hcauses : (turns.flatMap Turn.strokes).flatMap Stroke.causes = labels.map Prod.snd := by
    rw [hlabels, List.map_flatMap, List.flatMap_assoc]
    simp only [List.map_map, Function.comp_def, List.map_id']
  have hserves : ∀ x ∈ labels, ∀ drawn, x.2.Runs drawn →
      ∃ rule, x.1.before.rules.draws scene.pass = some rule ∧
        x.2.Serves tenants left p.arena s'.device rule.hook drawn := by
    intro x hx drawn hdrawn
    rw [hlabels] at hx
    obtain ⟨t, ht, hx⟩ := List.mem_flatMap.mp hx
    obtain ⟨cause, hcause, rfl⟩ := List.mem_map.mp hx
    have hsorted : t.before ∈ p.drawingOrder.map Bin.sort := hbefore ▸ List.mem_map_of_mem ht
    obtain ⟨b, hb, hsort⟩ := List.mem_map.mp hsorted
    have hplain : t.before.core.override = none := by
      rw [← hsort, b.override_sort]
      exact hkeeps.plain b (hkeeps.inOrder.listed.perm_drawingOrder.mem_iff.mp hb)
    have hasked : ∀ kind material members built, .batch kind material members built ∈ t.strokes →
        l'.Gives material built := fun kind material members built hmem =>
      htallied.asked kind material members built (List.mem_flatMap.mpr ⟨t, ht, hmem⟩)
    exact (hturns t ht).serves hplain hkeeps.named (hhosts.retains hretains) hinUse hsound hasked
      hcause hdrawn
  have hdraws := hruns s.device.registers
  rw [hcauses, List.forall₂_map_left_iff] at hdraws
  rw [← hlabels]
  exact ((List.forall₂_and_left ..).mpr ⟨hserves, hdraws⟩).imp fun _ drawn ⟨hx, hd⟩ => hx drawn hd

/-- **Frames serve their tenants.**  Whichever materials came and went, and in whatever order, as long
as the cells are counted in 32 bits and none of them is taken into use more than 2³² times: an object
that names a tenant, present or not, is handed in; a frame ends, unless features that are not built in
cost more than 32 bits hold; and each draw of a frame is for a tenant that has not left, with what was
built of its material or with the stand-in, or is of an object that draws itself. -/
theorem serves_tenants (howns : s₀.device.Owns others) (h : Life s₀ tenants left l p s)
    (hroom : l.instances.cells.size < 2 ^ 32)
    (hrecycled : ∀ position, SlotSet.tenancies (tenants.map Tenant.id) position ≤ 2 ^ 32) :
    (∀ o : Submission, o.NamesOneOf (tenants.map Tenant.id) →
      ∃ names p' s', (p.submit l o).run s = .ok ((names, p'), s')) ∧
    ∀ scene,
      ((∃ stats l' p' s', (p.render l scene).run s = .ok ((stats, l', p'), s')) ∨
        l.context.registry ≠ .builtin ∧ ¬ l.Affords ∧
          (p.render l scene).run s = .error .addOverflow) ∧
      ∀ stats l' p' s', (p.render l scene).run s = .ok ((stats, l', p'), s') →
        ∃ turns calls, p.Serves tenants left scene s.device s'.device turns calls := by
  have hhosts := h.hosts hroom hrecycled
  exact ⟨fun _ ho => h.exists_run_submit hhosts ho, fun scene =>
    ⟨h.ends_render hhosts scene, fun _ _ _ _ hrun => h.serves_of_render howns hhosts hrun⟩⟩

/-- Two objects wait.  The material of the first has left, and that of the second took its cell. -/
theorem serves_tenants_of_slate : ∃ (l l' : Library) (p p' : Pipeline) (s s' : Session)
    (stats : FrameStats) (turns : List Turn) (calls : List Call),
    Life {} [⟨.new 0 0, { name := "rock", stages := [{}] }, .positionNormalUv⟩,
        ⟨.new 1 0, { name := "slate", stages := [{}] }, .positionNormalUv⟩] [.new 0 0] l p s ∧
      ({} : Device).Owns 0 ∧ l.instances.cells.size = 1 ∧ p.arena.size = 2 ∧
      (p.render l {}).run s = .ok ((stats, l', p'), s') ∧ stats.draws = 1 ∧
      p.Serves [⟨.new 0 0, { name := "rock", stages := [{}] }, .positionNormalUv⟩,
        ⟨.new 1 0, { name := "slate", stages := [{}] }, .positionNormalUv⟩] [.new 0 0] {} s.device
        s'.device turns calls := by
  have hcheck : (StateT.run (do
      let l₀ ← Library.new .builtin {}
      let empty ← ({} : Pipeline).add
        (.custom "all" .added .unsorted (some ⟨.batches, none, .regular⟩))
      let rock ← l₀.create { name := "rock", stages := [{}] } .positionNormalUv
      let first ← Submission.mesh rock.1 ⟨0⟩ none (.triangles 0 3)
      let one ← empty.submit rock.2 first
      let destroyed ← rock.2.destroy rock.1
      let slate ← destroyed.2.create { name := "slate", stages := [{}] } .positionNormalUv
      let second ← Submission.mesh slate.1 ⟨0⟩ none (.triangles 0 3)
      let two ← one.2.submit slate.2 second
      let rendered ← two.2.render slate.2 {}
      return (rock.1, destroyed.1.toOption, slate.1, slate.2.instances.cells.size, two.2.arena.size,
        rendered.1.draws) : Action (Slot × Option Unit × Slot × Nat × Nat × Nat)) {}).toOption.any
          (·.1 == (.new 0 0, some (), .new 1 0, 1, 2, 1)) = true := by
    decide +kernel
  obtain ⟨⟨values, _⟩, hrun, hgood⟩ := exists_of_any_toOption hcheck
  obtain ⟨l₀, s₁, hnew, hrun⟩ := of_run_bind hrun
  obtain ⟨empty, s₂, hadd, hrun⟩ := of_run_bind hrun
  obtain ⟨⟨rock, l₁⟩, s₃, hrock, hrun⟩ := of_run_bind hrun
  obtain ⟨first, s₄, hfirst, hrun⟩ := of_run_bind hrun
  obtain ⟨⟨_, one⟩, s₅, hone, hrun⟩ := of_run_bind hrun
  obtain ⟨⟨result, l₂⟩, s₆, hdestroy, hrun⟩ := of_run_bind hrun
  obtain ⟨⟨slate, l⟩, s₇, hslate, hrun⟩ := of_run_bind hrun
  obtain ⟨second, s₈, hsecond, hrun⟩ := of_run_bind hrun
  obtain ⟨⟨_, p⟩, s, htwo, hrun⟩ := of_run_bind hrun
  obtain ⟨⟨stats, l', p'⟩, s', hrender, hrun⟩ := of_run_bind hrun
  obtain ⟨hvalues, -⟩ := Prod.mk.inj (Except.ok.inj hrun)
  have hvalues := hvalues.trans (beq_iff_eq.mp hgood)
  obtain ⟨hs₄, hfirst⟩ := of_run_lift hfirst
  obtain ⟨hs₈, hsecond⟩ := of_run_lift hsecond
  rw [hs₄] at hone
  rw [hs₈] at htwo
  simp only [Prod.mk.injEq] at hvalues
  obtain ⟨rfl, hresult, rfl, hsize, harena, hdraws⟩ := hvalues
  cases result with
  | error error => cases hresult
  | ok _ =>
      have hlife : Life {} [⟨.new 0 0, { name := "rock", stages := [{}] }, .positionNormalUv⟩,
          ⟨.new 1 0, { name := "slate", stages := [{}] }, .positionNormalUv⟩] [.new 0 0] l p s :=
        .submit (.create (.destroy (.submit (.create (.add (.new hnew) rfl rfl hadd) hrock)
          (Submission.namesOneOf_of_geometry hfirst (by simp)) hone) hdestroy) hslate)
          (Submission.namesOneOf_of_geometry hsecond (by simp)) htwo
      have hroom : l.instances.cells.size < 2 ^ 32 := hsize ▸ (by norm_num)
      obtain ⟨turns, calls, hserves⟩ :=
        ((serves_tenants Device.owns_default hlife hroom fun _ =>
          List.countP_le_length.trans (by simp)).2 {}).2 stats l' p' s' hrender
      exact ⟨l, l', p, p', s, s', stats, turns, calls, hlife, Device.owns_default, hsize, harena,
        hrender, hdraws, hserves⟩

end Life

end MaterialPipeline
