import MaterialPipeline.Proofs.Frame.Exclusive
import MaterialPipeline.Proofs.Frame.Returns
import MaterialPipeline.Proofs.Frame.Tenants
import MaterialPipeline.Proofs.Material.Lending

/-!
# Proofs — Frame — Shadow

Frames for shadows.  The bins for meshes and for terrain draw with the shadow hooks of materials, and
leave out what has none; the bin for objects lets them draw themselves; the other bins rest.  So no
program is used that was built of a material for anything but shadows, except the stand-in, where a
shadow hook failed to build.

* `Walk.continues`, `Walk.lends`, `Walk.exists_runs`: a chain of strokes on any library in use, some
passes of which may be set up.
* `Pipeline.exists_showings`: the bins in turn, each with its strokes and its calls.
* `Pipeline.Tended`: the life of a pipeline whose bins hold what they claimed.
* `Bin.BuiltIn.shadow_cases`: which built-in bins draw for shadows, and how.
* `Pipeline.Tended.shades_of_render`: what a frame for shadows draws.
-/

namespace MaterialPipeline

open MaterialPipeline.Action Library

variable {scene : Scene} {arena : FrameArena Submission} {d d₁ d' : Drawing} {s s₁ s₂ s' : Session}

/-! ### Strokes on any library in use -/

section Strokes

variable {kind : BinKind} {material : MaterialRef} {members : List Member} {strokes : List Stroke}
  {found : Option (FormPlace × Form)} {library : Library} {b : BuiltMaterial}

theorem continues_batch (hl : library.InUse)
    (hfound : (d.library.renderable material).run s = .ok ((found, library), s₁))
    (hrun : ((drawBatch scene kind material (members.map Member.object)).run d).run s =
      .ok (((), d₁), s₂)) : library.Continues d₁.library := by
  obtain ⟨library', hrewound, hrun'⟩ := run_drawBatch scene kind (members.map Member.object) hfound
  cases hrun'.symm.trans hrun
  cases found with
  | none =>
      cases hrewound
      exact .refl hl
  | some found => exact .proceed hl (at_of_renderable hfound).1 hrewound

theorem Walk.continues (h : Walk scene d s strokes d' s') (hl : d.library.InUse) :
    d.library.Continues d'.library := by
  induction h with
  | done => exact .refl hl
  | aside _ _ ih => exact ih hl
  | batch hfound hrun _ ih =>
      have hasked := Continues.ask hl hfound
      have hdrawn := hasked.trans (continues_batch hasked.inUse hfound hrun)
      exact hdrawn.trans (ih hdrawn.inUse)
  | delegate hrun _ ih =>
      rw [← (tallied_delegate hrun).1] at hl ⊢
      exact ih hl

/-- What was lent for a stroke is lent to the end of the chain. -/
theorem Walk.lends (h : Walk scene d s strokes d' s') (hl : d.library.InUse)
    (hstroke : .batch kind material members (some b) ∈ strokes) : d'.library.Lends material b := by
  induction h with
  | done => cases hstroke
  | aside _ _ ih => exact ih hl hstroke
  | batch hfound hrun hwalk ih =>
      have hasked := Continues.ask hl hfound
      have hdrawn := continues_batch hasked.inUse hfound hrun
      rcases List.mem_cons.mp hstroke with hfirst | hrest
      · injection hfirst with _ hmaterial _ hbuilt
        subst hmaterial
        have hlast := hdrawn.trans (hwalk.continues hdrawn.inUse)
        exact (lends_of_renderable hfound hbuilt.symm).remembers hlast.remembers
      · exact ih hdrawn.inUse hrest
  | delegate hrun _ ih =>
      rcases List.mem_cons.mp hstroke with hfirst | hrest
      · cases hfirst
      · exact ih ((tallied_delegate hrun).1 ▸ hl) hrest

/-- A stroke draws for its causes, or for those of the passes that are left. -/
theorem exists_runs_stroke (limits : Limits) (scene : Scene) (kind : BinKind)
    (material : MaterialRef) (members : List Member) (found : Option (FormPlace × Form)) :
    ∃ causes : List Cause,
      causes.Sublist (Stroke.causes (.batch kind material members (found.bind (·.2.built)))) ∧
      ∀ σ : Registers, List.Forall₂ Cause.Runs causes (σ.draws (callsOf
        (strokeEvents limits scene kind material (members.map Member.object) found))) := by
  cases found with
  | none => exact ⟨[], List.nil_sublist _, fun _ => .nil⟩
  | some found =>
      obtain ⟨place, form⟩ := found
      cases hb : form.built with
      | none =>
          refine ⟨[], List.nil_sublist _, fun σ => ?_⟩
          rw [strokeEvents, Form.drawEvents, hb]
          exact .nil
      | some b =>
          have hpasses : form.remainingPasses = b.passes.drop form.nextPass := by
            rw [Form.remainingPasses, hb]
            rfl
          refine ⟨(b.passes.drop form.nextPass).flatMap fun p => members.map (.pass kind · b p),
            ?_, fun σ => ?_⟩
          · rw [Option.bind_some, hb]
            exact (List.drop_sublist form.nextPass b.passes).flatMap _
          · -- Leaving a pass draws nothing.
            have hleave : σ.draws (callsOf form.leavePass) = [] := by
              refine Registers.draws_eq_nil fun range hr => ?_
              rcases form.leavePass_cases with hleave | ⟨p, hleave⟩
              · rw [hleave] at hr
                cases hr
              · rw [hleave] at hr
                cases (Form.idly_cleanup _ hr).1
            rw [strokeEvents, Form.drawEvents, hb, callsOf_append, Registers.draws_append, hleave,
              hpasses]
            exact runs_rounds b limits scene kind members _ _

/-- **Draws have causes.**  A chain of strokes issues its draws for causes of the strokes, in order,
each with the program of its pass. -/
theorem Walk.exists_runs (h : Walk scene d s strokes d' s') : ∃ causes : List Cause,
    causes.Sublist (strokes.flatMap Stroke.causes) ∧ s.device.Runs causes s'.device := by
  induction h with
  | done d s => exact ⟨[], .slnil, .of_quiet (.refl _)⟩
  | aside haside _ ih =>
      obtain ⟨causes, hsub, hruns⟩ := ih
      exact ⟨causes, hsub, (Device.Runs.of_quiet haside.quiet).trans hruns⟩
  | @batch d _ _ s s₁ _ _ kind material members found _ _ hfound hrun _ ih =>
      obtain ⟨rest, hrest, hruns⟩ := ih
      obtain ⟨_, -, hrun'⟩ := run_drawBatch scene kind (members.map Member.object) hfound
      cases hrun'.symm.trans hrun
      obtain ⟨causes, hcauses, hdraws⟩ :=
        exists_runs_stroke s₁.device.limits scene kind material members found
      have hasked : s.device.Runs [] s₁.device :=
        .of_quiet (d.library.works_renderable material _ _ _ hfound).quiet
      exact ⟨causes ++ rest, hcauses.append hrest,
        (hasked.trans ⟨_, s₁.calls_applyAll _, hdraws⟩).trans hruns⟩
  | @delegate d _ _ s _ _ member delegate _ hrun _ ih =>
      obtain ⟨rest, hrest, hruns⟩ := ih
      cases hrun
      have hcalls :=
        s.calls_applyAll ((delegate.ranges member.object.range).map fun r => .call (.draw r))
      rw [callsOf_map_call] at hcalls
      refine ⟨_, (List.Sublist.refl _).append hrest,
        Device.Runs.trans ⟨_, hcalls, fun σ => ?_⟩ hruns⟩
      rw [Registers.draws_map_draw, Stroke.causes, List.forall₂_map_left_iff,
        List.forall₂_map_right_iff, List.forall₂_same]
      exact fun _ _ => rfl

end Strokes

/-! ### Bins in turn -/

/-- What a bin shows in its turn: its calls, and what the draws among them are issued for. -/
structure Showing where
  bin : Bin
  causes : List Cause
  calls : List Call

/-- The bin draws its elements by some strokes; a bin that rests makes no calls. -/
structure Showing.Follows (arena : FrameArena Submission) (scene : Scene) (strokes : List Stroke)
    (x : Showing) : Prop where
  draws : x.bin.Draws arena scene strokes
  causes : x.causes.Sublist (strokes.flatMap Stroke.causes)
  runs : ∀ σ : Registers, List.Forall₂ Cause.Runs x.causes (σ.draws x.calls)
  resting : x.bin.rules.draws scene.pass = none → x.calls = []

theorem Bin.exists_showing {b b' : Bin}
    (hrun : ((b.render arena scene).run d).run s = .ok ((b', d'), s')) :
    ∃ strokes causes calls, Walk scene d s strokes d' s' ∧
      s'.device.calls.toList = s.device.calls.toList ++ calls ∧
      Showing.Follows arena scene strokes ⟨b, causes, calls⟩ := by
  obtain ⟨strokes, hwalk, hdraws⟩ := walk_render hrun
  obtain ⟨causes, hcauses, calls, hcalls, hruns⟩ := hwalk.exists_runs
  obtain ⟨calls', hbalanced, hbrackets⟩ := bracketed_render hrun
  have hsame : calls' = calls := List.append_cancel_left (hbalanced.calls.symm.trans hcalls)
  refine ⟨strokes, causes, calls, hwalk, hcalls, hdraws.draws, hcauses, hruns, fun hrule => ?_⟩
  subst hsame
  cases hbrackets with
  | resting => rfl
  | inPlace hsome _ _ | offscreen hsome _ _ =>
      rw [hrule] at hsome
      cases hsome

namespace Pipeline

variable {p p' : Pipeline} {l l' : Library} {stats : FrameStats} {bins drawn : List Bin}

theorem showings_of_drawAll
    (hrun : ((drawAll arena scene bins).run d).run s = .ok ((drawn, d'), s')) :
    ∃ frame : List (Showing × List Stroke), frame.map (·.1.bin) = bins.map Bin.sort ∧
      Walk scene d s (frame.flatMap Prod.snd) d' s' ∧
      s'.device.calls.toList = s.device.calls.toList ++ frame.flatMap (·.1.calls) ∧
      ∀ x ∈ frame, x.1.Follows arena scene x.2 := by
  induction bins generalizing d s drawn with
  | nil =>
      cases hrun
      exact ⟨[], rfl, .done _ _, (List.append_nil _).symm, fun _ h => absurd h List.not_mem_nil⟩
  | cons b rest ih =>
      rw [drawAll, List.mapM_cons] at hrun
      obtain ⟨b', d₁, s₁, hb, hrun⟩ := of_runs_bind hrun
      obtain ⟨drawn', d₂, s₂, hrest, hrun⟩ := of_runs_bind hrun
      cases hrun
      obtain ⟨strokes, causes, calls, hwalk, hcalls, hfollows⟩ := Bin.exists_showing hb
      obtain ⟨frame, hframe, hwalk', hcalls', hall⟩ := ih hrest
      refine ⟨(⟨b.sort, causes, calls⟩, strokes) :: frame, ?_, ?_, ?_,
        List.forall_mem_cons.mpr ⟨hfollows, hall⟩⟩
      · rw [List.map_cons, hframe, List.map_cons]
      · rw [List.flatMap_cons]
        exact hwalk.append hwalk'
      · rw [hcalls', hcalls, List.flatMap_cons, List.append_assoc]

/-- A frame is the turns of the bins, in the order of drawing. -/
theorem Listed.exists_showings (hp : p.Listed)
    (hrun : (p.render l scene).run s = .ok ((stats, l', p'), s')) :
    ∃ frame : List (Showing × List Stroke), frame.map (·.1.bin) = p.drawingOrder.map Bin.sort ∧
      Walk scene ⟨l, p.stats⟩ s (frame.flatMap Prod.snd) ⟨l', stats⟩ s' ∧
      s'.device.calls.toList = s.device.calls.toList ++ frame.flatMap (·.1.calls) ∧
      ∀ x ∈ frame, x.1.Follows p.arena scene x.2 := by
  rw [hp.render_eq] at hrun
  obtain ⟨⟨drawn, drawing⟩, s₁, hdraw, hrun⟩ := of_run_bind hrun
  cases hrun
  exact showings_of_drawAll hdraw

end Pipeline

/-! ### Bins that hold what they claimed -/

/-- The rules may claim the object, in some state of the bin. -/
def BinRules.Claims (rules : BinRules) (o : Submission) : Prop :=
  ∃ c, (rules.answer c o).isClaimed

/-- What the bin holds of the present frame is of objects that it may claim. -/
def Bin.Attests (arena : FrameArena Submission) (b : Bin) : Prop :=
  ∀ e ∈ b.core.elements, e.handle.frame = arena.frame →
    ∃ o, arena.find e.handle = some o ∧ b.rules.Claims o

namespace Bin

variable {b : Bin} {o stamped : Submission}

theorem Attests.sort (h : b.Attests arena) : b.sort.Attests arena := by
  obtain ⟨elements, hperm, hcore⟩ := b.core_sort
  intro e he
  rw [hcore] at he
  exact h e (hperm.mem_iff.mp he)

theorem Attests.alloc (h : b.Attests arena) (o : Submission) : b.Attests (arena.alloc o).2 := by
  intro e he hframe
  obtain ⟨o', ho', hclaims⟩ := h e he hframe
  exact ⟨o', FrameArena.find_alloc_of_find ho', hclaims⟩

/-- A bin claims what its rules may claim, and that is what its handle reads. -/
theorem Attests.offer (h : b.Attests arena) (o : Submission) :
    (b.offer (arena.alloc o).1 (arena.readBack o)).2.Attests (arena.alloc o).2 := by
  rw [Bin.offer]
  split
  next hclaimed =>
    intro e he hframe
    rcases List.mem_append.mp he with he | he
    · exact h.alloc o e he hframe
    · obtain rfl := List.mem_singleton.mp he
      exact ⟨_, arena.find_alloc o, b.core, hclaimed⟩
  next => exact h.alloc o

/-- An object behind an element may be claimed. -/
theorem Attests.claims (h : b.Attests arena) {e : BinElement} (he : e ∈ b.core.elements)
    (ho : arena.find e.handle = some o) : b.rules.Claims o := by
  have hframe : e.handle.frame = arena.frame := by
    by_contra hne
    rw [FrameArena.find, if_neg hne] at ho
    cases ho
  obtain ⟨o', ho', hclaims⟩ := h e he hframe
  cases ho.symm.trans ho'
  exact hclaims

end Bin

namespace Pipeline

variable {p p' : Pipeline} {l l' : Library} {stats : FrameStats}

/-- The life of a pipeline whose bins hold what they claimed.  What a bin that is added holds of the
present frame, if anything, is of objects that it may claim.  While it is installed, it keeps its rules
and does not come to hold more, but may change in any other way. -/
inductive Tended : Pipeline → Prop where
  | empty : Tended {}
  | add {p p' : Pipeline} {b : Bin} {s s' : Session} (h : Tended p) (hb : b.Attests p.arena)
      (hrun : (p.add b).run s = .ok (p', s')) : Tended p'
  | remove {p : Pipeline} (h : Tended p) (name : String) : Tended (p.remove name).2
  | modifyBin {p : Pipeline} (h : Tended p) (name : String) {f : Bin → Bin}
      (hrules : ∀ b, (f b).rules = b.rules)
      (helements : ∀ b, (f b).core.elements ⊆ b.core.elements) : Tended (p.modifyBin name f)
  | submit {p p' : Pipeline} {library : Library} {o : Submission} {names : List String}
      {s s' : Session} (h : Tended p) (hrun : (p.submit library o).run s = .ok ((names, p'), s')) :
      Tended p'
  | ends {p p' : Pipeline} (h : Tended p) (hend : p.Ends p') : Tended p'

theorem Tended.exists_arranged (h : p.Tended) : ∃ places, Arranged places p := by
  induction h with
  | empty => exact ⟨_, .empty⟩
  | add _ _ hrun ih =>
      obtain ⟨_, ih⟩ := ih
      exact ⟨_, ih.add hrun⟩
  | remove _ name ih =>
      obtain ⟨_, ih⟩ := ih
      exact ⟨_, ih.remove name⟩
  | modifyBin _ name _ _ ih =>
      obtain ⟨_, ih⟩ := ih
      exact ⟨_, ih.modifyBin name _⟩
  | submit _ hrun ih =>
      obtain ⟨_, ih⟩ := ih
      exact ⟨_, ih.submit hrun⟩
  | ends _ hend ih =>
      obtain ⟨_, ih⟩ := ih
      exact ⟨_, ih.ends hend⟩

theorem Tended.listed (h : p.Tended) : p.Listed := by
  obtain ⟨_, harranged⟩ := h.exists_arranged
  exact harranged.arrangedBy.listed

/-- Bins hold what they may claim. -/
theorem Tended.attests (h : p.Tended) : ∀ b ∈ p.bins, b.Attests p.arena := by
  induction h with
  | empty => exact fun _ h => absurd h List.not_mem_nil
  | add _ hb hrun ih =>
      obtain ⟨_, _, -, hrun⟩ := of_run_bind hrun
      cases hrun
      intro b' hb'
      rcases List.mem_append.mp hb' with hb' | hb'
      · exact ih b' hb'
      · rwa [List.mem_singleton.mp hb']
  | @remove p _ name ih =>
      unfold Pipeline.remove
      split
      · exact fun b hb => ih b (List.mem_of_mem_eraseP hb)
      · exact ih
  | @modifyBin p _ name f hrules helements ih =>
      rw [arena_modifyBin]
      intro b hb
      rcases mem_bins_modifyBin hb with hb | ⟨b₀, hb₀, rfl⟩
      · exact ih b hb
      · intro e he hframe
        rw [hrules]
        exact ih b₀ hb₀ e (helements b₀ he) hframe
  | @submit p p' _ o _ _ _ h hrun ih =>
      obtain ⟨stamped, hstamp, -⟩ := routed_of_submit h.listed hrun
      obtain ⟨harena, visited, hrouted⟩ := routed_of_stamped h.listed hstamp hrun
      rw [harena]
      intro b hb
      rcases hrouted.of_mem_bins hb with hb | ⟨b₀, hb₀, rfl⟩
      · exact (ih b hb).alloc stamped
      · exact (ih b₀ hb₀).offer stamped
  | ends _ hend _ =>
      intro b hb e he
      rw [hend.fresh.elements b hb] at he
      cases he

end Pipeline

/-! ### Frames for shadows -/

/-- What a bin draws for shadows, by its rules. -/
inductive Bin.DrawsShadows (b : Bin) : Prop where
  /-- What it holds, with the shadow hooks of the materials. -/
  | hooked (hname : b.name = "mesh" ∨ b.name = "terrain")
      (hrule : b.rules.draws .shadow = some ⟨.batches, some .shadow, .regular⟩) : DrawsShadows b
  /-- What it holds, and this draws itself. -/
  | delegates (hname : b.name = "object")
      (hrule : b.rules.draws .shadow = some ⟨.each, none, .regular⟩)
      (hclaims : ∀ o, b.rules.Claims o → o.delegate.isSome) : DrawsShadows b
  | resting (hname : b.name ∈ ["translucent", "particle", "glow", "prepass"])
      (hrule : b.rules.draws .shadow = none) : DrawsShadows b

theorem Bin.BuiltIn.drawsShadows {b : Bin} (h : b.BuiltIn) : b.DrawsShadows := by
  obtain ⟨size, b₀, hb₀, hname, hrules⟩ := h
  simp only [standard, List.mem_cons, List.not_mem_nil, or_false] at hb₀
  rcases hb₀ with rfl | rfl | rfl | rfl | rfl | rfl | rfl
  · exact .resting (hname ▸ by simp [prePass, name]) (hrules ▸ rfl)
  · exact .hooked (.inr hname) (hrules ▸ rfl)
  · exact .hooked (.inl hname) (hrules ▸ rfl)
  · refine .delegates hname (hrules ▸ rfl) ?_
    rintro o ⟨c, hclaims⟩
    rw [hrules] at hclaims
    have hclaimed : BinCore.answering (fun s => s.delegate.isSome) .added c o ≠ .skipped :=
      bne_iff_ne.mp hclaims
    exact ((BinCore.answering_ne_skipped_iff (by decide)).mp hclaimed).2
  · exact .resting (hname ▸ by simp [translucent, name]) (hrules ▸ rfl)
  · exact .resting (hname ▸ by simp [particle, name]) (hrules ▸ rfl)
  · exact .resting (hname ▸ by simp [glow, name]) (hrules ▸ rfl)

/-- The element that is drawn. -/
def Cause.member : Cause → Member
  | .pass _ m _ _ => m
  | .self m _ => m

/-- What a draw for shadows is issued for, by the bin of a name: an object that draws itself, or a
pass of the shadow hook of the object's own material, or of the stand-in where that hook failed. -/
def Cause.Shades (l l' : Library) (name : String) : Cause → Prop
  | .pass _ m b p => (name = "mesh" ∨ name = "terrain") ∧ p ∈ b.passes ∧
      ∃ id, m.object.material = some id ∧ l.Renders l' ⟨id, some .shadow⟩ b
  | .self m range => name = "object" ∧
      ∃ delegate, m.object.delegate = some delegate ∧ range ∈ delegate.ranges m.object.range

/-- What a bin shows in a frame for shadows. -/
structure Showing.Shades (arena : FrameArena Submission) (l l' : Library) (x : Showing) :
    Prop where
  /-- The draws are issued for the causes, one after another, each with the program of its pass. -/
  draws : ∀ σ : Registers, List.Forall₂ Cause.Runs x.causes (σ.draws x.calls)
  held : ∀ cause ∈ x.causes, cause.member.element ∈ x.bin.core.elements ∧
    arena.find cause.member.element.handle = some cause.member.object
  causes : ∀ cause ∈ x.causes, cause.Shades l l' x.bin.name
  /-- A mesh or terrain is not drawn if its material has no shadow hook. -/
  hookless : x.bin.name = "mesh" ∨ x.bin.name = "terrain" → ∀ e ∈ x.bin.core.elements, ∀ o id,
    arena.find e.handle = some o → o.material = some id → l.Missing ⟨id, some .shadow⟩ →
      ∀ cause ∈ x.causes, cause.member.element ≠ e
  /-- The other bins make no calls at all: they draw nothing, and do not touch their targets. -/
  resting : x.bin.name ∈ ["translucent", "particle", "glow", "prepass"] → x.calls = []

/-- The member that a cause draws is a member of the stroke. -/
theorem Stroke.member_of_mem_causes {stroke : Stroke} {cause : Cause} (h : cause ∈ stroke.causes) :
    cause.member ∈ stroke.members := by
  cases stroke with
  | delegate m ranges =>
      obtain ⟨range, -, rfl⟩ := List.mem_map.mp h
      exact List.mem_singleton_self m
  | batch kind material members built =>
      cases built with
      | none => cases h
      | some b =>
          obtain ⟨p, -, h⟩ := List.mem_flatMap.mp h
          obtain ⟨m, hm, rfl⟩ := List.mem_map.mp h
          exact hm

namespace Showing.Follows

variable {x : Showing} {strokes : List Stroke} {cause : Cause} {l l' : Library}

theorem held (h : x.Follows arena scene strokes) (hcause : cause ∈ x.causes) :
    cause.member.element ∈ x.bin.core.elements ∧
      arena.find cause.member.element.handle = some cause.member.object := by
  obtain ⟨stroke, hstroke, hcause⟩ := List.mem_flatMap.mp (h.causes.subset hcause)
  exact h.draws.find_of_mem hstroke (Stroke.member_of_mem_causes hcause)

/-- A bin draws for shadows what it may, with what it was lent. -/
theorem shades_of_mem (h : x.Follows arena scene strokes) (hscene : scene.pass = .shadow)
    (hb : x.bin.BuiltIn) (hplain : x.bin.core.override = none)
    (hattests : x.bin.Attests arena)
    (hlends : ∀ kind material members b, .batch kind material members (some b) ∈ strokes →
      l.Renders l' material b) (hcause : cause ∈ x.causes) : cause.Shades l l' x.bin.name := by
  obtain ⟨he, ho⟩ := h.held hcause
  obtain ⟨stroke, hstroke, hcause⟩ := List.mem_flatMap.mp (h.causes.subset hcause)
  cases h.draws with
  | resting => cases hstroke
  | refused => cases hstroke
  | elements hrule hdraws =>
      have hsuits := hdraws.suits stroke hstroke
      rw [hscene] at hrule
      cases hb.drawsShadows with
      | resting _ hrest => cases hrest.symm.trans hrule
      | hooked hname hhooked =>
          cases hhooked.symm.trans hrule
          cases stroke with
          | delegate m ranges => cases hsuits.1
          | batch kind material members built =>
              cases built with
              | none => cases hcause
              | some b =>
                  obtain ⟨p, hp, hcause⟩ := List.mem_flatMap.mp hcause
                  obtain ⟨m, hm, rfl⟩ := List.mem_map.mp hcause
                  -- The reference that was asked for is the object's own, with the shadow hook.
                  have hmaterial := (hsuits.2.1 m hm).1
                  rw [BinCore.materialFor_of_plain hplain] at hmaterial
                  obtain ⟨id, hid, rfl⟩ := Option.map_eq_some_iff.mp hmaterial
                  exact ⟨hname, hp, id, hid, hlends _ _ _ _ hstroke⟩
      | delegates hname heach hclaims =>
          cases heach.symm.trans hrule
          cases stroke with
          | delegate m ranges =>
              obtain ⟨range, hrange, rfl⟩ := List.mem_map.mp hcause
              obtain ⟨-, delegate, hdelegate, rfl⟩ := hsuits
              exact ⟨hname, delegate, hdelegate, hrange⟩
          | batch kind material members built =>
              -- Whatever the bin holds draws itself.
              have hnone := (hsuits.2.1 _ (Stroke.member_of_mem_causes hcause)).2 rfl
              have hsome := hclaims _ (hattests.claims he ho)
              rw [hnone] at hsome
              cases hsome

theorem shades (h : x.Follows arena scene strokes) (hscene : scene.pass = .shadow)
    (hb : x.bin.BuiltIn) (hplain : x.bin.core.override = none)
    (hattests : x.bin.Attests arena) (hl : l.Continues l')
    (hlends : ∀ kind material members b, .batch kind material members (some b) ∈ strokes →
      l'.Lends material b) : x.Shades arena l l' := by
  have hcauses : ∀ cause ∈ x.causes, cause.Shades l l' x.bin.name := fun _ hcause =>
    h.shades_of_mem hscene hb hplain hattests
      (fun kind material members b hstroke =>
        (hlends kind material members b hstroke).renders hl) hcause
  exact {
    draws := h.runs
    held := fun _ hcause => h.held hcause
    causes := hcauses
    hookless := by
      rintro hname e - o id ho hid hmissing cause hcause rfl
      cases ho.symm.trans (h.held hcause).2
      have hshades := hcauses cause hcause
      cases cause with
      | pass kind m b p =>
          obtain ⟨-, -, id', hid', hrenders⟩ := hshades
          cases hid.symm.trans hid'
          exact hrenders.not_missing hl hmissing
      | self m range =>
          rw [hshades.1] at hname
          simp at hname
    resting := by
      intro hname
      refine h.resting (hscene ▸ ?_)
      cases hb.drawsShadows with
      | resting _ hrule => exact hrule
      | hooked hother _ => rcases hother with hother | hother <;> simp [hother] at hname
      | delegates hother _ _ => simp [hother] at hname }

end Showing.Follows

namespace Pipeline

variable {p p' : Pipeline} {l l' : Library} {stats : FrameStats}

/-- **What is drawn for shadows.**  Whatever was handed in, and whatever library in use the materials
are from: in a frame for shadows over built-in bins without materials in place of the objects' own,
every draw is of an object in the object bin, as it draws itself, or of a mesh or terrain with the
shadow hook of its own material, or with the stand-in where that hook failed to build.  A mesh or
terrain whose material has no shadow hook is not drawn, and the other bins leave the device alone. -/
theorem Tended.shades_of_render (hp : p.Tended) (hbins : ∀ b ∈ p.bins, b.BuiltIn)
    (hplain : ∀ b ∈ p.bins, b.core.override = none) (hl : l.InUse) (hscene : scene.pass = .shadow)
    (hrun : (p.render l scene).run s = .ok ((stats, l', p'), s')) :
    ∃ frame : List Showing, frame.map Showing.bin = p.drawingOrder.map Bin.sort ∧
      s'.device.calls.toList = s.device.calls.toList ++ frame.flatMap Showing.calls ∧
      ∀ x ∈ frame, x.Shades p.arena l l' := by
  obtain ⟨frame, hframe, hwalk, hcalls, hfollows⟩ := hp.listed.exists_showings hrun
  refine ⟨frame.map Prod.fst, ?_, ?_, fun x hx => ?_⟩
  · rw [List.map_map]
    exact hframe
  · rw [List.flatMap_map]
    exact hcalls
  · obtain ⟨⟨x, strokes⟩, hmem, rfl⟩ := List.mem_map.mp hx
    have hsorted : x.bin ∈ p.drawingOrder.map Bin.sort :=
      hframe ▸ List.mem_map.mpr ⟨_, hmem, rfl⟩
    obtain ⟨b, hb, hsort⟩ := List.mem_map.mp hsorted
    have hb : b ∈ p.bins := hp.listed.perm_drawingOrder.mem_iff.mp hb
    refine (hfollows _ hmem).shades hscene ?_ ?_ ?_ (hwalk.continues hl) ?_
    · exact hsort ▸ (hbins b hb).sort
    · rw [← hsort, b.override_sort]
      exact hplain b hb
    · exact hsort ▸ (hp.attests b hb).sort
    · exact fun kind material members b hstroke =>
        hwalk.lends hl (List.mem_flatMap.mpr ⟨_, hmem, hstroke⟩)

/-- A mesh of a material that casts shadows. -/
theorem shades_of_render_post : ∃ (p p' : Pipeline) (l l' : Library) (s s' : Session)
    (stats : FrameStats) (frame : List Showing), p.Tended ∧ p.arena.size = 1 ∧
      (∀ b ∈ p.bins, b.BuiltIn) ∧ (∀ b ∈ p.bins, b.core.override = none) ∧ l.InUse ∧
      (p.render l { pass := .shadow }).run s = .ok ((stats, l', p'), s') ∧ stats.draws = 1 ∧
      frame.map Showing.bin = p.drawingOrder.map Bin.sort ∧
      s'.device.calls.toList = s.device.calls.toList ++ frame.flatMap Showing.calls ∧
      ∀ x ∈ frame, x.Shades p.arena l l' := by
  have hcheck : (StateT.run (do
      let l₀ ← Library.new .builtin {}
      let post ← l₀.create { name := "post", stages := [{}], castShadows := true } .positionNormalUv
      let o ← Submission.mesh post.1 ⟨0⟩ none (.triangles 0 3)
      let submitted ← (reorder { bins := [.mesh] }).submit post.2 o
      let rendered ← submitted.2.render post.2 { pass := .shadow }
      return (submitted.2.arena.size, rendered.1.draws) : Action (Nat × Nat)) {}).toOption.any
        (·.1 == (1, 1)) = true := by
    decide +kernel
  obtain ⟨⟨_, _⟩, hrun, hgood⟩ := exists_of_any_toOption hcheck
  obtain ⟨l₀, s₁, hnew, hrun⟩ := of_run_bind hrun
  obtain ⟨⟨id, l⟩, s₂, hcreate, hrun⟩ := of_run_bind hrun
  obtain ⟨o, s₃, -, hrun⟩ := of_run_bind hrun
  obtain ⟨⟨_, p⟩, s, hsubmit, hrun⟩ := of_run_bind hrun
  obtain ⟨⟨stats, l', p'⟩, s', hrender, hrun⟩ := of_run_bind hrun
  obtain ⟨hvalues, -⟩ := Prod.mk.inj (Except.ok.inj hrun)
  obtain ⟨hsize, hdraws⟩ := Prod.mk.inj (hvalues.trans (beq_iff_eq.mp hgood))
  have hinstalled : Tended (reorder { bins := [.mesh] }) :=
    .add (s := default) (b := .mesh) .empty (fun _ he => absurd he List.not_mem_nil) rfl
  have hp : p.Tended := hinstalled.submit hsubmit
  have hbins : ∀ b ∈ p.bins, b.BuiltIn ∧ b.core.override = none := by
    obtain ⟨_, -, -, visited, h, hrouted⟩ := routed_of_submit hinstalled.listed hsubmit
    have hmesh : ∀ b ∈ (reorder { bins := [.mesh] }).bins, b.BuiltIn ∧ b.core.override = none := by
      intro b hb
      obtain rfl := List.mem_singleton.mp hb
      exact ⟨⟨none, .mesh, by simp [Bin.standard], rfl, rfl⟩, rfl⟩
    intro b hb
    refine ⟨hrouted.builtIn (fun b hb => (hmesh b hb).1) b hb, ?_⟩
    rcases hrouted.of_mem_bins hb with hb | ⟨b₀, hb₀, rfl⟩
    · exact (hmesh b hb).2
    · exact (b₀.override_offer h).trans (hmesh b₀ hb₀).2
  have hl : l.InUse := .step (.new hnew) (.create hcreate)
  obtain ⟨frame, hframe, hcalls, hshades⟩ := hp.shades_of_render (fun b hb => (hbins b hb).1)
    (fun b hb => (hbins b hb).2) hl rfl hrender
  exact ⟨p, p', l, l', s, s', stats, frame, hp, hsize, fun b hb => (hbins b hb).1,
    fun b hb => (hbins b hb).2, hl, hrender, hdraws, hframe, hcalls, hshades⟩

end Pipeline

end MaterialPipeline
