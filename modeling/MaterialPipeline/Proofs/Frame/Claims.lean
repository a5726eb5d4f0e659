import MaterialPipeline.Proofs.Frame.Handles

/-!
# Proofs — Frame — Claims

What a frame counts while objects are handed in.  Each object is counted once as handed in, once for
every bin that claims it, and once as unclaimed if there is no such bin.  Bins are told apart by
their names, so a bin that is taken out within a frame would leave its claims behind.

* `Pipeline.Steady`: the life of a pipeline without that.
* `Pipeline.Counts`: what the counts say of what the bins hold.
* `Pipeline.Steady.counts`: they say so at every point of such a life.
-/

namespace MaterialPipeline.Pipeline

open MaterialPipeline.Action

variable {p p' : Pipeline} {library : Library} {o stamped : Submission} {names : List String}
  {h : FrameHandle} {visited : List Nat} {frame n : Nat} {issued handed : List Issue} {b b' : Bin}
  {s s' : Session} {name : String}

/-! ### The claims of one object -/

theorem mem_claimants : name ∈ claimants h o p.bins visited ↔
    ∃ n ∈ visited, ∃ b, p.bins[n]? = some b ∧ (b.offer h o).1.isClaimed ∧ b.name = name := by
  simp only [claimants, List.mem_filterMap, Option.bind_eq_some_iff, claimant]
  simp

namespace Routed

/-- An object goes to the bins whose names are answered. -/
theorem getElem?_bins (hrouted : Routed p h o visited names p')
    (hnames : (p.bins.map Bin.name).Nodup) (hb : p.bins[n]? = some b) :
    ∃ b', p'.bins[n]? = some b' ∧ b'.name = b.name ∧
      b'.core.elements = b.core.elements ++
        if b.name ∈ names then [⟨h, o.sortKey, o.secondaryKey, o.distanceSquared⟩] else [] := by
  have hclaims : b.name ∈ names ↔ n ∈ visited ∧ (b.offer h o).1.isClaimed := by
    rw [hrouted.claimedBy, mem_claimants]
    constructor
    · rintro ⟨m, hm, b', hb', hclaimed, hname⟩
      -- Names tell bins apart.
      have hmn : m = n := by
        have hm' : m < (p.bins.map Bin.name).length := by
          rw [List.length_map]
          exact (List.getElem?_eq_some_iff.mp hb').1
        refine (List.getElem?_inj hm' hnames).mp ?_
        rw [List.getElem?_map, List.getElem?_map, hb', hb]
        exact congrArg some hname
      subst hmn
      cases hb'.symm.trans hb
      exact ⟨hm, hclaimed⟩
    · rintro ⟨hn, hclaimed⟩
      exact ⟨n, hn, b, hb, hclaimed, rfl⟩
  have hother := hrouted.others n
  rw [hb] at hother
  by_cases hn : n ∈ visited
  · rw [if_pos hn] at hother
    refine ⟨_, hother, name_offer b, ?_⟩
    by_cases hclaimed : (b.offer h o).1.isClaimed
    · rw [if_pos (hclaims.mpr ⟨hn, hclaimed⟩)]
      have hclaimed : (b.rules.answer b.core o).isClaimed := hclaimed
      simp only [Bin.offer, hclaimed, if_true]
      rfl
    · rw [if_neg fun hname => hclaimed (hclaims.mp hname).2, List.append_nil]
      have hclaimed : ¬ (b.rules.answer b.core o).isClaimed := hclaimed
      simp only [Bin.offer, hclaimed]
      rfl
  · rw [if_neg hn] at hother
    refine ⟨b, hother, rfl, ?_⟩
    rw [if_neg fun hname => hn (hclaims.mp hname).1, List.append_nil]

theorem map_name (hrouted : Routed p h o visited names p') :
    p'.bins.map Bin.name = p.bins.map Bin.name := by
  refine List.ext_getElem? fun n => ?_
  rw [List.getElem?_map, List.getElem?_map, hrouted.others n]
  split
  · cases p.bins[n]? with
    | none => rfl
    | some b => exact congrArg some (name_offer b)
  · rfl

/-- No bin claims an object for another. -/
theorem nodup_names (hrouted : Routed p h o visited names p') (hp : p.InOrder)
    (hnames : (p.bins.map Bin.name).Nodup) : names.Nodup := by
  rw [hrouted.claimedBy]
  refine (hp.adding.nodup.sublist hrouted.inOrder.sublist).filterMap fun m n name hm hn => ?_
  have hname {k : Nat} (hk : name ∈ p.bins[k]?.bind (claimant h o)) :
      (p.bins.map Bin.name)[k]? = some name := by
    obtain ⟨b, hb, hclaim⟩ := Option.bind_eq_some_iff.mp hk
    unfold claimant at hclaim
    split at hclaim
    · rw [List.getElem?_map, hb]
      exact hclaim
    · cases hclaim
  have hbound := (List.getElem?_eq_some_iff.mp (hname hm)).1
  exact (List.getElem?_inj hbound hnames).mp ((hname hm).trans (hname hn).symm)

/-- The names that are answered are those of bins. -/
theorem mem_names (hrouted : Routed p h o visited names p') (hname : name ∈ names) :
    name ∈ p.bins.map Bin.name := by
  rw [hrouted.claimedBy, mem_claimants] at hname
  obtain ⟨n, -, b, hb, -, rfl⟩ := hname
  exact List.mem_map_of_mem (List.mem_of_getElem? hb)

theorem names_eq_nil_iff (hrouted : Routed p h o visited names p') (hp : p.InOrder) :
    names = [] ↔ ∀ b ∈ p.bins, (b.offer h o).1 = .skipped := by
  rw [hrouted.claimedBy]
  constructor
  · intro hnil
    have hskipped : ∀ n ∈ visited, ∀ b, p.bins[n]? = some b → (b.offer h o).1 = .skipped := by
      intro n hn b hb
      refine isClaimed_eq_false_iff.mp (Bool.eq_false_iff.mpr fun hclaimed => ?_)
      have hmem := mem_claimants.mpr ⟨n, hn, b, hb, hclaimed, rfl⟩
      exact absurd (hnil ▸ hmem) List.not_mem_nil
    rcases hrouted.ends with hall | ⟨n, hn, hstop⟩
    · intro b hb
      obtain ⟨n, hn⟩ := List.mem_iff_getElem?.mp hb
      have hvisited : n ∈ visited := by
        rw [hall]
        exact hp.adding.mem_iff.mpr (List.getElem?_eq_some_iff.mp hn).1
      exact hskipped n hvisited b hn
    · obtain ⟨b, hb, hanswer⟩ := Option.map_eq_some_iff.mp hstop
      have hskip := hskipped n (List.mem_of_mem_getLast? hn) b hb
      rw [hanswer] at hskip
      cases hskip
  · intro hskipped
    refine List.eq_nil_iff_forall_not_mem.mpr fun name hname => ?_
    obtain ⟨n, -, b, hb, hclaimed, -⟩ := mem_claimants.mp hname
    rw [hskipped b (List.mem_of_getElem? hb)] at hclaimed
    cases hclaimed

end Routed

/-- Handing in draws nothing. -/
theorem drawn_of_submit (hp : p.InOrder)
    (hrun : (p.submit library o).run s = .ok ((names, p'), s')) :
    p'.stats.draws = p.stats.draws ∧ p'.stats.setups = p.stats.setups := by
  obtain ⟨stamped, _, hlift, -⟩ := of_run_bind hrun
  obtain ⟨-, hstamp⟩ := of_run_lift hlift
  obtain ⟨_, hrun'⟩ := run_submit s hstamp (route_eq hp.adding.nodup
    (fun n hn => hp.adding.mem_iff.mp hn) { p.stats with submitted := p.stats.submitted + 1 })
  cases hrun'.symm.trans hrun
  dsimp only
  rw [foldl_claim_eq]
  split <;> exact ⟨rfl, rfl⟩

/-! ### The claims of a frame -/

/-- The life of a pipeline whose bins have names of their own and are not taken out within a
frame. -/
inductive Steady : Nat → List Issue → Pipeline → Prop where
  | empty : Steady 0 [] {}
  | add {frame : Nat} {issued : List Issue} {p p' : Pipeline} {b : Bin} {s s' : Session}
      (h : Steady frame issued p) (hb : b.core.elements = [])
      (hname : b.name ∉ p.bins.map Bin.name) (hrun : (p.add b).run s = .ok (p', s')) :
      Steady frame issued p'
  | remove {frame : Nat} {issued : List Issue} {p : Pipeline} (h : Steady frame issued p)
      (hnone : issuedIn frame issued = []) (name : String) :
      Steady frame issued (p.remove name).2
  | submit {frame : Nat} {issued : List Issue} {p p' : Pipeline} {library : Library}
      {o stamped : Submission} {names : List String} {s s' : Session} (h : Steady frame issued p)
      (hstamp : o.stamp library = .ok stamped)
      (hrun : (p.submit library o).run s = .ok ((names, p'), s')) :
      Steady frame (issued ++ [issue frame p.arena stamped names]) p'
  | ends {frame : Nat} {issued : List Issue} {p p' : Pipeline} (h : Steady frame issued p)
      (hend : p.Ends p') : Steady (frame + 1) issued p'

theorem Steady.lived (h : Steady frame issued p) : Lived frame issued p := by
  induction h with
  | empty => exact .empty
  | add _ hb _ hrun ih => exact ih.add hb hrun
  | remove _ _ name ih => exact ih.remove name
  | submit _ hstamp hrun ih => exact ih.submit hstamp hrun
  | ends _ hend ih => exact ih.ends hend

/-- The objects that a bin of the name `name` claimed. -/
def claimedBy (name : String) (handed : List Issue) : List Issue :=
  handed.filter (name ∈ ·.claimedBy)

theorem claimedBy_issue (name : String) (handed : List Issue) (frame : Nat)
    (arena : FrameArena Submission) (o : Submission) (names : List String) :
    claimedBy name (handed ++ [issue frame arena o names]) =
      claimedBy name handed ++ if name ∈ names then [issue frame arena o names] else [] := by
  by_cases h : name ∈ names <;> simp [claimedBy, issue, h]

/-- What the counts say, when the objects `handed` have been handed in. -/
structure Counts (handed : List Issue) (p : Pipeline) : Prop where
  names : (p.bins.map Bin.name).Nodup
  claimants : ∀ i ∈ handed, ∀ name ∈ i.claimedBy, name ∈ p.bins.map Bin.name
  held : ∀ b ∈ p.bins, b.core.elements = (claimedBy b.name handed).map Issue.element
  submitted : p.stats.submitted = handed.length
  claims : ∀ name, p.stats.claimsFor name = (claimedBy name handed).length
  unclaimed : p.stats.unclaimed = (handed.filter (·.claimedBy.isEmpty)).length
  drawn : p.stats.draws = 0 ∧ p.stats.setups = 0

namespace Counts

/-- At the start of a frame. -/
theorem fresh (hnames : (p.bins.map Bin.name).Nodup) (hbins : ∀ b ∈ p.bins, b.core.elements = [])
    (hstats : p.stats = {}) : Counts [] p where
  names := hnames
  claimants := fun _ h => absurd h List.not_mem_nil
  held := hbins
  submitted := by rw [hstats]; rfl
  claims := fun _ => by rw [hstats]; rfl
  unclaimed := by rw [hstats]; rfl
  drawn := by rw [hstats]; exact ⟨rfl, rfl⟩

/-- A bin of another name has no claims yet. -/
theorem add (h : Counts handed p) (hb : b.core.elements = [])
    (hname : b.name ∉ p.bins.map Bin.name) (hbins : p'.bins = p.bins ++ [b])
    (hstats : p'.stats = p.stats) : Counts handed p' where
  names := by
    rw [hbins, List.map_append, List.nodup_append]
    refine ⟨h.names, List.nodup_singleton _, fun name hmem other hother => ?_⟩
    obtain rfl := List.mem_singleton.mp hother
    exact fun heq => hname (heq ▸ hmem)
  claimants := by
    intro i hi name hclaimed
    rw [hbins, List.map_append]
    exact List.mem_append_left _ (h.claimants i hi name hclaimed)
  held := by
    intro b' hb'
    rw [hbins] at hb'
    rcases List.mem_append.mp hb' with hb' | hb'
    · exact h.held b' hb'
    · obtain rfl := List.mem_singleton.mp hb'
      have hnone : claimedBy b'.name handed = [] := by
        refine List.filter_eq_nil_iff.mpr fun i hi hclaimed => ?_
        exact hname (h.claimants i hi _ (of_decide_eq_true hclaimed))
      rw [hb, hnone]
      rfl
  submitted := hstats ▸ h.submitted
  claims := hstats ▸ h.claims
  unclaimed := hstats ▸ h.unclaimed
  drawn := hstats ▸ h.drawn

/-- A bin may go while nothing was handed in. -/
theorem remove (h : Counts [] p) (hbins : p'.bins.Sublist p.bins) (hstats : p'.stats = p.stats) :
    Counts [] p' where
  names := h.names.sublist (hbins.map _)
  claimants := fun _ h => absurd h List.not_mem_nil
  held := fun b hb => h.held b (hbins.subset hb)
  submitted := hstats ▸ h.submitted
  claims := hstats ▸ h.claims
  unclaimed := hstats ▸ h.unclaimed
  drawn := hstats ▸ h.drawn

/-- Handing in: the object is counted for every bin that holds it now. -/
theorem submit (h : Counts handed p) (hp : p.InOrder) (hstamp : o.stamp library = .ok stamped)
    (hrun : (p.submit library o).run s = .ok ((names, p'), s')) (frame : Nat) :
    Counts (handed ++ [issue frame p.arena stamped names]) p' := by
  obtain ⟨-, visited, hrouted⟩ := routed_of_stamped hp.listed hstamp hrun
  exact {
    names := hrouted.map_name ▸ h.names
    claimants := by
      intro i hi name hclaimed
      rw [hrouted.map_name]
      rcases List.mem_append.mp hi with hi | hi
      · exact h.claimants i hi name hclaimed
      · obtain rfl := List.mem_singleton.mp hi
        exact hrouted.mem_names hclaimed
    held := by
      intro b' hb'
      obtain ⟨n, hn⟩ := List.mem_iff_getElem?.mp hb'
      have hbound : n < p.bins.length := by
        have hlength := congrArg List.length hrouted.map_name
        rw [List.length_map, List.length_map] at hlength
        exact hlength ▸ (List.getElem?_eq_some_iff.mp hn).1
      obtain ⟨b'', hn', hname, helements⟩ :=
        hrouted.getElem?_bins h.names (List.getElem?_eq_getElem hbound)
      cases hn'.symm.trans hn
      rw [helements, hname, h.held _ (List.getElem_mem hbound), claimedBy_issue, List.map_append]
      refine congrArg _ ?_
      split <;> rfl
    submitted := by rw [hrouted.submitted, h.submitted, List.length_append]; rfl
    claims := by
      intro name
      have hcount : names.count name = if name ∈ names then 1 else 0 :=
        (hrouted.nodup_names hp h.names).count
      rw [hrouted.claims, h.claims, claimedBy_issue, List.length_append, hcount]
      refine congrArg _ ?_
      split <;> rfl
    unclaimed := by
      rw [hrouted.unclaimed, h.unclaimed, List.filter_append, List.length_append]
      refine congrArg _ ?_
      by_cases hnil : names = []
      · rw [if_pos ((hrouted.names_eq_nil_iff hp).mp hnil), hnil]
        rfl
      · rw [if_neg fun hskipped => hnil ((hrouted.names_eq_nil_iff hp).mpr hskipped)]
        simp [issue, hnil]
    drawn := by
      obtain ⟨hdraws, hsetups⟩ := drawn_of_submit hp hrun
      exact ⟨hdraws.trans h.drawn.1, hsetups.trans h.drawn.2⟩ }

end Counts

/-- **What the counts say.**  At every point of the life of a pipeline whose bins stay within a
frame, they count what was handed in, what each bin holds, and what no bin claimed. -/
theorem Steady.counts (h : Steady frame issued p) : Counts (issuedIn frame issued) p := by
  induction h with
  | empty => exact .fresh .nil (fun _ hb => absurd hb List.not_mem_nil) rfl
  | add _ hb hname hrun ih =>
      obtain ⟨_, _, -, hrun⟩ := of_run_bind hrun
      cases hrun
      exact ih.add hb hname rfl rfl
  | @remove frame issued p _ hnone name ih =>
      rw [hnone] at ih ⊢
      unfold Pipeline.remove
      split
      · exact ih.remove List.eraseP_sublist rfl
      · exact ih
  | @submit frame issued p p' library o stamped names s s' h hstamp hrun ih =>
      rw [issuedIn_issue]
      exact ih.submit h.lived.reachable.inOrder hstamp hrun frame
  | ends h hend ih =>
      rw [issuedIn_succ fun i hi => (h.lived.keeps.past i hi).1]
      exact .fresh (hend.fresh.names ▸ ih.names) hend.fresh.elements hend.fresh.stats

end MaterialPipeline.Pipeline
