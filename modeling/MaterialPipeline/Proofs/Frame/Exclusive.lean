import MaterialPipeline.Proofs.Frame.Claims

/-!
# Proofs — Frame — Exclusive

Which other bins hold an object that the translucent bin takes.  It stops the object, so whatever is
offered the object after it holds nothing of it; but the opaque bins stand at the same place in the
order of adding, so those that were added before it are asked first.  The mesh bin and the pre-pass
bin leave to it what lets light through.  The terrain bin and the object bin do not ask.

* `Routed.getElem?_eq`: what is at a position after an object was handed in.
* `Routed.mem_visited_iff`: where an object stops, it was offered to that bin and to those before.
* `Excludes`: what the opaque bins do with an object that the translucent bin takes.
* `Reachable.excludes_of_submit`: they do so at every point of the life of a pipeline.
-/

namespace MaterialPipeline

open MaterialPipeline.Action

variable {b b₀ : Bin} {h : FrameHandle} {o : Submission}

theorem BinCore.answering_ne_skipped_iff {claims : Submission → Bool} {answer : Claim}
    {c : BinCore} (hanswer : answer ≠ .skipped) :
    answering claims answer c o ≠ .skipped ↔ c.accepts o = true ∧ claims o = true := by
  rw [answering, ← Bool.and_eq_true]
  split
  next hclaims => exact iff_of_true hanswer hclaims
  next hclaims => exact iff_of_false (fun hne => hne rfl) hclaims

namespace Bin

/-- The bin with one more object. -/
def holding (b : Bin) (h : FrameHandle) (o : Submission) : Bin :=
  { b with core := b.core.push h o }

theorem holding_ne : b.holding h o ≠ b := by
  intro he
  have hlength := congrArg (fun b : Bin => b.core.elements.length) he
  simp only [holding, BinCore.push, List.length_append, List.length_singleton] at hlength
  omega

/-- The bin has the rules of another and its place in the order of adding. -/
structure AddsLike (b b₀ : Bin) : Prop where
  rules : b.rules = b₀.rules
  addOrder : b.core.addOrder = b₀.core.addOrder

theorem AddsLike.refl (b : Bin) : b.AddsLike b :=
  ⟨rfl, rfl⟩

theorem AddsLike.addKey_eq (hlike : b.AddsLike b₀) : Pipeline.addKey b = Pipeline.addKey b₀ := by
  rw [Pipeline.addKey, hlike.addOrder, Pipeline.addKey]

end Bin

namespace Pipeline

variable {p p' : Pipeline} {library : Library} {stamped : Submission} {names : List String}
  {visited : List Nat} {n t : Nat} {s s' : Session}

/-! ### Handing in, bin by bin -/

namespace Routed

/-- A bin holds the object if it is offered the object and does not pass it over. -/
theorem getElem?_eq (hrouted : Routed p h o visited names p') (hb : p.bins[n]? = some b) :
    p'.bins[n]? =
      some (if n ∈ visited ∧ b.rules.answer b.core o ≠ .skipped then b.holding h o else b) := by
  rw [hrouted.others, hb]
  by_cases hn : n ∈ visited
  · rw [if_pos hn, Option.map_some]
    by_cases hanswer : b.rules.answer b.core o = .skipped
    · rw [if_neg fun hholds => hholds.2 hanswer]
      simp only [Bin.offer, hanswer]
      rfl
    · rw [if_pos ⟨hn, hanswer⟩]
      simp only [Bin.offer, Claim.isClaimed, bne_iff_ne, ne_eq, hanswer, not_false_eq_true, if_true]
      rfl
  · rw [if_neg hn, if_neg fun hholds => hn hholds.1]

/-- The names that are answered are those of bins that hold the object. -/
theorem exists_of_mem_names (hrouted : Routed p h o visited names p') {name : String}
    (hname : name ∈ names) :
    ∃ (n : Nat) (b : Bin), p.bins[n]? = some b ∧ b.name = name ∧
      p'.bins[n]? = some (b.holding h o) := by
  rw [hrouted.claimedBy, mem_claimants] at hname
  obtain ⟨n, hn, b, hb, hclaimed, hname⟩ := hname
  refine ⟨n, b, hb, hname, ?_⟩
  have hanswer : b.rules.answer b.core o ≠ .skipped := fun hanswer => by
    rw [Bin.offer, hanswer] at hclaimed
    cases hclaimed
  rw [hrouted.getElem?_eq hb, if_pos ⟨hn, hanswer⟩]

/-- An object that stops was offered to the bins up to the one that stops it. -/
theorem mem_visited_iff (hrouted : Routed p h o visited names p') (hp : p.InOrder)
    (ht : t ∈ visited) (hstop : answerAt h o p.bins t = some .stopped) :
    n ∈ visited ↔ n = t ∨ Precedes addKey p.bins n t := by
  have hlast : visited = visited.dropLast ++ [t] := by
    have hconcat := List.dropLast_concat_getLast (List.ne_nil_of_mem ht)
    rw [← hconcat] at ht
    rcases List.mem_append.mp ht with hfront | hend
    · exact absurd hstop (hrouted.goesOn t hfront)
    · rw [List.mem_singleton.mp hend, hconcat]
  obtain ⟨rest, horder⟩ := hrouted.inOrder
  have hpairs := hp.adding.pairwise
  rw [← horder, hlast, List.append_assoc, List.pairwise_append] at hpairs
  obtain ⟨-, hrest, hfront⟩ := hpairs
  rw [List.singleton_append] at hrest hfront
  constructor
  · intro hn
    rw [hlast, List.mem_append, List.mem_singleton] at hn
    exact hn.symm.imp_right fun hn => hfront n hn t List.mem_cons_self
  · rintro (rfl | hbefore)
    · exact ht
    · -- What comes after the bin that stops the object does not come before it.
      have hlt : n < p.bins.length := by
        obtain ⟨_, _, hb, -⟩ := hbefore
        exact (List.getElem?_eq_some_iff.mp hb).1
      have hn := hp.adding.mem_iff.mpr hlt
      rw [← horder] at hn
      refine (List.mem_append.mp hn).resolve_right fun hn => ?_
      exact hbefore.asymm ((List.pairwise_cons.mp hrest).1 n hn)

end Routed

theorem precedes_iff_of_addKey_eq {b b' : Bin} (hb : p.bins[n]? = some b)
    (hb' : p.bins[t]? = some b') (hkey : addKey b = addKey b') :
    Precedes addKey p.bins n t ↔ n < t := by
  constructor
  · rintro ⟨_, _, ha, ha', horder⟩
    cases ha.symm.trans hb
    cases ha'.symm.trans hb'
    omega
  · exact fun hlt => ⟨b, b', hb, hb', .inr ⟨hkey, hlt⟩⟩

/-! ### Opaque bins beside the translucent one -/

/-- What the opaque bins do with an object that the translucent bin at the position `t` takes.  A
mesh bin and a pre-pass bin stay as they are.  A terrain bin and an object bin hold the object too,
if they may and were added before. -/
structure Excludes (p p' : Pipeline) (h : FrameHandle) (o : Submission) (t : Nat) : Prop where
  mesh : ∀ (n : Nat) (b : Bin), p.bins[n]? = some b → b.AddsLike .mesh → p'.bins[n]? = some b
  prePass : ∀ (n : Nat) (b : Bin) width height, p.bins[n]? = some b →
    b.AddsLike (.prePass width height) → p'.bins[n]? = some b
  terrain : ∀ (n : Nat) (b : Bin), p.bins[n]? = some b → b.AddsLike .terrain → p'.bins[n]? =
    some (if b.core.accepts o ∧ o.material.isSome ∧ n < t then b.holding h o else b)
  object : ∀ (n : Nat) (b : Bin), p.bins[n]? = some b → b.AddsLike .object → p'.bins[n]? =
    some (if b.core.accepts o ∧ o.delegate.isSome ∧ n < t then b.holding h o else b)

namespace Routed

variable {claims : Submission → Bool} {b' : Bin}

/-- A bin that stops what it claims stops the object that it takes. -/
theorem stops_of_takes (hrouted : Routed p h o visited names p') (hb : p.bins[t]? = some b)
    (hanswer : b.rules.answer = BinCore.answering claims .stopped)
    (htakes : p'.bins[t]? = some (b.holding h o)) :
    t ∈ visited ∧ answerAt h o p.bins t = some .stopped ∧ claims o = true := by
  have hholds : t ∈ visited ∧ b.rules.answer b.core o ≠ .skipped := by
    by_contra hnot
    rw [hrouted.getElem?_eq hb, if_neg hnot] at htakes
    exact Bin.holding_ne (Option.some.inj htakes).symm
  obtain ⟨ht, hclaims⟩ := hholds
  rw [hanswer, BinCore.answering_ne_skipped_iff Claim.noConfusion] at hclaims
  refine ⟨ht, ?_, hclaims.2⟩
  rw [answerAt, hb, Option.map_some, Bin.offer, hanswer, BinCore.answering,
    if_pos (Bool.and_eq_true_iff.mpr hclaims)]

/-- A bin that leaves out what lets light through passes it over. -/
theorem getElem?_eq_of_translucent (hrouted : Routed p h o visited names p')
    (hb : p.bins[n]? = some b)
    (hanswer : b.rules.answer =
      BinCore.answering (fun o => claims o && !o.isTranslucent) .added)
    (htranslucent : o.isTranslucent = true) : p'.bins[n]? = some b := by
  rw [hrouted.getElem?_eq hb, if_neg]
  rintro ⟨-, hclaims⟩
  rw [hanswer, BinCore.answering_ne_skipped_iff Claim.noConfusion, htranslucent, Bool.not_true,
    Bool.and_false] at hclaims
  cases hclaims.2

/-- A bin that does not ask whether the object lets light through holds it if it comes first. -/
theorem getElem?_eq_of_stopped (hrouted : Routed p h o visited names p') (hp : p.InOrder)
    (hb : p.bins[n]? = some b) (hanswer : b.rules.answer = BinCore.answering claims .added)
    (hb' : p.bins[t]? = some b') (hkey : addKey b = addKey b') (ht : t ∈ visited)
    (hstop : answerAt h o p.bins t = some .stopped) :
    p'.bins[n]? = some (if b.core.accepts o ∧ claims o ∧ n < t then b.holding h o else b) := by
  have hne : n ≠ t := by
    rintro rfl
    rw [answerAt, hb, Option.map_some, Bin.offer, hanswer, BinCore.answering] at hstop
    split at hstop <;> cases hstop
  have hholds : (n ∈ visited ∧ b.rules.answer b.core o ≠ .skipped) ↔
      b.core.accepts o ∧ claims o ∧ n < t := by
    rw [hanswer, BinCore.answering_ne_skipped_iff Claim.noConfusion,
      hrouted.mem_visited_iff hp ht hstop, or_iff_right hne,
      precedes_iff_of_addKey_eq hb hb' hkey, and_comm, and_assoc]
  rw [hrouted.getElem?_eq hb]
  simp only [hholds]

theorem excludes (hrouted : Routed p h o visited names p') (hp : p.InOrder)
    (hb : p.bins[t]? = some b) (hlike : b.AddsLike .translucent)
    (htakes : p'.bins[t]? = some (b.holding h o)) : p.Excludes p' h o t := by
  obtain ⟨ht, hstop, hclaims⟩ := hrouted.stops_of_takes hb (by rw [hlike.rules]; rfl) htakes
  have htranslucent : o.isTranslucent = true := (Bool.and_eq_true_iff.mp hclaims).1
  have hkey {b' : Bin} (hlike' : b'.AddsLike .terrain ∨ b'.AddsLike .object) : addKey b' = addKey b :=
    (hlike'.elim Bin.AddsLike.addKey_eq Bin.AddsLike.addKey_eq).trans hlike.addKey_eq.symm
  exact {
    mesh := fun n b' hb' hlike' =>
      hrouted.getElem?_eq_of_translucent hb' (by rw [hlike'.rules]; rfl) htranslucent
    prePass := fun n b' width height hb' hlike' =>
      hrouted.getElem?_eq_of_translucent hb' (by rw [hlike'.rules]; rfl) htranslucent
    terrain := fun n b' hb' hlike' => hrouted.getElem?_eq_of_stopped hp hb'
      (by rw [hlike'.rules]; rfl) hb (hkey (.inl hlike')) ht hstop
    object := fun n b' hb' hlike' => hrouted.getElem?_eq_of_stopped hp hb'
      (by rw [hlike'.rules]; rfl) hb (hkey (.inr hlike')) ht hstop }

end Routed

/-- **What the translucent bin takes.**  Whatever the other bins are and in whichever order bins
were added, no mesh bin and no pre-pass bin holds an object that the translucent bin takes.  A
terrain bin or an object bin holds it exactly if that bin may claim it and was added before.  The
object is the one that was handed in, as long as objects can be counted in 32 bits. -/
theorem Reachable.excludes_of_submit (hp : p.Reachable)
    (hrun : (p.submit library o).run s = .ok ((names, p'), s')) :
    ∃ stamped offered, o.stamp library = .ok stamped ∧ offered = p.arena.readBack stamped ∧
      (p.arena.size < 2 ^ 32 → offered = stamped) ∧ ∀ (t : Nat) (b : Bin), p.bins[t]? = some b →
        b.AddsLike .translucent →
        p'.bins[t]? = some (b.holding (p.arena.alloc stamped).1 offered) →
        p.Excludes p' (p.arena.alloc stamped).1 offered t := by
  obtain ⟨stamped, hstamp, -⟩ := routed_of_submit hp.inOrder.listed hrun
  obtain ⟨-, visited, hrouted⟩ := routed_of_stamped hp.inOrder.listed hstamp hrun
  exact ⟨stamped, _, hstamp, rfl, fun hsize => FrameArena.readBack_of_lt hsize stamped,
    fun t b hb hlike htakes => hrouted.excludes hp.inOrder hb hlike htakes⟩

/-- A terrain bin, and a translucent bin added after it. -/
def terrainFirst : Pipeline where
  bins := [.terrain, .translucent]
  renderOrder := [0, 1]
  addOrder := [0, 1]

theorem reachable_terrainFirst : terrainFirst.Reachable := by
  have hp : (reorder { bins := [.terrain, .translucent] }).Reachable :=
    .add (b := .translucent) (s := default) (.add (b := .terrain) (s := default) .empty rfl) rfl
  have hadding : OrderedBy addKey [.terrain, .translucent] [0, 1] :=
    ⟨.refl _, List.pairwise_pair.mpr ⟨.terrain, .translucent, rfl, rfl, .inr ⟨rfl, by decide⟩⟩⟩
  have hdrawing : OrderedBy renderKey [.terrain, .translucent] [0, 1] := by
    refine ⟨.refl _, List.pairwise_pair.mpr ⟨.terrain, .translucent, rfl, rfl, .inl ?_⟩⟩
    decide +kernel
  rw [reorder] at hp
  rwa [show orderBy [.terrain, .translucent] BinCore.addOrder = [0, 1] from
      hp.inOrder.adding.unique hadding,
    show orderBy [.terrain, .translucent] BinCore.renderOrder = [0, 1] from
      hp.inOrder.drawing.unique hdrawing] at hp

/-- A translucent block of terrain is held by both bins. -/
theorem excludes_of_submit_glass : ∃ (p' : Pipeline) (library : Library) (o stamped : Submission)
    (names : List String) (h : FrameHandle) (s s' : Session),
    terrainFirst.Reachable ∧ (terrainFirst.submit library o).run s = .ok ((names, p'), s') ∧
      o.stamp library = .ok stamped ∧ p'.bins[0]? = some (Bin.terrain.holding h stamped) ∧
      p'.bins[1]? = some (Bin.translucent.holding h stamped) ∧
      terrainFirst.Excludes p' h stamped 1 := by
  have hcheck : (StateT.run (do
      let l₀ ← Library.new .builtin {}
      let created ← l₀.create { name := "glass", stages := [{}], translucent := true }
        .positionNormalUv
      let o ← Submission.terrain created.1 ⟨0⟩ none (.triangles 0 3)
      let handed ← terrainFirst.submit created.2 o
      return handed.1 : Action (List String)) {}).toOption.any
        (·.1 == ["terrain", "translucent"]) = true := by
    decide +kernel
  obtain ⟨⟨_, _⟩, hrun, hgood⟩ := exists_of_any_toOption hcheck
  obtain ⟨l₀, _, -, hrun⟩ := of_run_bind hrun
  obtain ⟨⟨id, library⟩, _, -, hrun⟩ := of_run_bind hrun
  obtain ⟨o, s, -, hrun⟩ := of_run_bind hrun
  obtain ⟨⟨names, p'⟩, s', hsubmit, hrun⟩ := of_run_bind hrun
  obtain ⟨rfl, -⟩ := Prod.mk.inj (Except.ok.inj hrun)
  obtain ⟨stamped, offered, hstamp, hoffered, hsame, hexcludes⟩ :=
    reachable_terrainFirst.excludes_of_submit hsubmit
  obtain ⟨-, visited, hrouted⟩ :=
    routed_of_stamped reachable_terrainFirst.inOrder.listed hstamp hsubmit
  obtain ⟨h, hh⟩ : ∃ h, h = (terrainFirst.arena.alloc stamped).1 := ⟨_, rfl⟩
  rw [← hh, ← hoffered] at hrouted
  rw [← hh] at hexcludes
  obtain rfl : stamped = offered := (hsame (by decide)).symm
  have hnames : names = ["terrain", "translucent"] := beq_iff_eq.mp hgood
  have hterrain : p'.bins[0]? = some (Bin.terrain.holding h stamped) := by
    have hmem : "terrain" ∈ names := hnames ▸ List.mem_cons_self
    obtain ⟨n, b, hb, hname, hholds⟩ := hrouted.exists_of_mem_names hmem
    match n, hb with
    | 0, rfl => exact hholds
    | 1, rfl => exact absurd hname (by decide)
  have htranslucent : p'.bins[1]? = some (Bin.translucent.holding h stamped) := by
    have hmem : "translucent" ∈ names := hnames ▸ List.mem_cons_of_mem _ List.mem_cons_self
    obtain ⟨n, b, hb, hname, hholds⟩ := hrouted.exists_of_mem_names hmem
    match n, hb with
    | 0, rfl => exact absurd hname (by decide)
    | 1, rfl => exact hholds
  exact ⟨p', library, o, stamped, names, h, s, s', reachable_terrainFirst, hsubmit, hstamp,
    hterrain, htranslucent, hexcludes 1 _ rfl (.refl _) htranslucent⟩

end Pipeline

end MaterialPipeline
