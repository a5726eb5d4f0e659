import MaterialPipeline.Proofs.Pass.Retry
import Mathlib.Data.List.Infix

/-!
# Proofs — Pass — Outcome

What building one pass comes to, in terms of the layers and of what the compiler answers.

* `Descent`: the numbers of layers that are tried go from all layers down to one, half of each taken
  away to get the next.
* `FirstAccepted`, `FailsWith`: when a pass is built, and what the error is otherwise.
* `Outcome`: these, with every compile call and every note that the tries leave behind.
* `buildPass_outcome`: building a pass has such an outcome, whatever the device compiles.

A block without features is never measured or compiled, although it costs nothing and its program
may well compile: it ends the tries (`firstToCompile_without_features`).
-/

namespace MaterialPipeline

/-- The members of `l` go from `n` down to one, and half of each is taken away to get the next. -/
structure Descent (n : Nat) (l : List Nat) : Prop where
  head : l.head? = some n
  last : l.getLast? = some 1
  halves : l.IsChain fun k next => next = k - k / 2
  descends : l.Pairwise (· > ·)
  length : l.length = Nat.clog 2 n + 1

theorem descent_halvings {n : Nat} (h : 1 ≤ n) : Descent n (halvings n) where
  head := head?_halvings h
  last := getLast?_halvings h
  halves := halves_halvings n
  descends := pairwise_halvings n
  length := length_halvings h

/-- Of two splittings of one list at a member, one comes first unless they are the same. -/
theorem mem_or_eq_or_mem_of_split {α : Type} {a b c d : List α} {x y : α}
    (h : a ++ x :: b = c ++ y :: d) : x ∈ c ∨ x = y ∨ y ∈ a := by
  rcases List.append_eq_append_iff.mp h with ⟨l, rfl, e⟩ | ⟨l, rfl, e⟩
  · cases l with
    | nil => exact .inr (.inl (List.cons.inj e).1)
    | cons z l =>
        obtain ⟨rfl, -⟩ := List.cons.inj e
        exact .inl (List.mem_append_right a List.mem_cons_self)
  · cases l with
    | nil => exact .inr (.inl (List.cons.inj e).1.symm)
    | cons z l =>
        obtain ⟨rfl, -⟩ := List.cons.inj e
        exact .inr (.inr (List.mem_append_right c List.mem_cons_self))

namespace Packer

/-- `count` is the first of the halvings whose block has features and compiles within the budget,
and every block before it has features. -/
def FirstAccepted (p : Packer) (refusal : Program → Option DeviceError) (index : Nat)
    (layers : List Layer) (count : Nat) : Prop :=
  ∃ larger smaller, halvings layers.length = larger ++ count :: smaller ∧
    p.Accepts refusal index (layers.take count) ∧
    ∀ k ∈ larger, ¬ p.Accepts refusal index (layers.take k) ∧
      (Layer.union (layers.take k)).isEmpty = false

/-- `count` is the first of the halvings whose block compiles within the budget, features or not,
and every block before it has features. -/
def FirstToCompile (p : Packer) (refusal : Program → Option DeviceError) (index : Nat)
    (layers : List Layer) (count : Nat) : Prop :=
  ∃ larger smaller, halvings layers.length = larger ++ count :: smaller ∧
    p.Compiles refusal index (layers.take count) ∧
    ∀ k ∈ larger, ¬ p.Compiles refusal index (layers.take k) ∧
      (Layer.union (layers.take k)).isEmpty = false

/-- The error of a pass of which no try was accepted.  The first layer is always to blame. -/
inductive FailsWith (p : Packer) (refusal : Program → Option DeviceError) (index : Nat)
    (first : Layer) (layers : List Layer) (tried : List Nat) : BuildError → Prop where
  | empty {k : Nat} (hk : k ∈ tried) (h : (Layer.union (layers.take k)).isEmpty = true) :
      FailsWith p refusal index first layers tried (.emptyFeatures first.stage)
  | overflow {cost : Cost} (hne : ∀ k ∈ tried, (Layer.union (layers.take k)).isEmpty = false)
      (hcost : p.registry.measure (Layer.union [first]) = .ok cost)
      (hover : cost.fits p.limits = false) :
      FailsWith p refusal index first layers tried
        (.overflow first.stage cost.textures cost.interpolators)
  | compile {cost : Cost} {error : DeviceError}
      (hne : ∀ k ∈ tried, (Layer.union (layers.take k)).isEmpty = false)
      (hcost : p.registry.measure (Layer.union [first]) = .ok cost)
      (hfits : cost.fits p.limits = true)
      (hrefused : refusal (p.program index [first]) = some error) :
      FailsWith p refusal index first layers tried (.compile first.stage error)

/-- The numbers of layers, out of `tried`, whose blocks have features within the budget. -/
def affordable (p : Packer) (layers : List Layer) (tried : List Nat) : List Nat :=
  tried.filter fun k => (Layer.union (layers.take k)).isEmpty = false ∧
    (p.cost (layers.take k)).fits p.limits

/-- What building a pass over the first layers of `layers` comes to, from the session `s` to `s'`:
`tried` are the numbers of layers that were tried. -/
structure Outcome (p : Packer) (s s' : Session) (first : Layer) (layers : List Layer)
    (index : Nat) (tried : List Nat) (result : Except BuildError (Pass × Nat)) : Prop where
  /-- The tries go down the halvings without a gap. -/
  tried_prefix : tried <+: halvings layers.length
  /-- Every try but the last is rejected. -/
  rejected : ∀ k ∈ tried.dropLast, p.Rejects s.device.refusal index (layers.take k)
  /-- When a pass is built, and over how many layers. -/
  built : ∀ count, (∃ pass, result = .ok (pass, count)) ↔
    p.FirstAccepted s.device.refusal index layers count
  /-- What the error is otherwise. -/
  failed : ∀ error, result = .error error →
    p.FailsWith s.device.refusal index first layers tried error
  /-- There is always a layer to blame. -/
  blames : result ≠ .error .noLayers
  /-- Only blocks within the budget are compiled, each once. -/
  compiled : ∃ created, (∀ c ∈ created, c.name ≠ "CreateShader") ∧
    s'.device.calls.toList = s.device.calls.toList ++
      (p.affordable layers tried).map (fun k => p.compileCall index (layers.take k)) ++ created
  /-- No more programs are compiled than there are halvings. -/
  compiled_le : (p.affordable layers tried).length ≤ Nat.clog 2 layers.length + 1
  /-- The tries report their rejections, and creating the states of a pass reports after them. -/
  notes : ∃ stateNotes, s'.notes.toList = s.notes.toList ++
      tried.flatMap (fun k => p.tryNotes s.device.refusal first index (layers.take k)) ++
        stateNotes ∧
    (∀ error, result = .error error → stateNotes = []) ∧
    ∀ pass count, result = .ok (pass, count) →
      stateNotes = (p.stateLayers index (layers.take count)).flatMap (·.resolveNotes)
  /-- A rejection is one note: a warning over one layer, where it is fatal, else for debugging. -/
  reports : ∀ k ∈ tried, p.Rejects s.device.refusal index (layers.take k) →
    ∃ note, p.tryNotes s.device.refusal first index (layers.take k) = [note] ∧
      (1 < k → note.level = .debug) ∧ (k = 1 → note.level = .warn ∧ ∃ error, result = .error error)
  /-- Nothing else is reported by the tries. -/
  quiet : ∀ k ∈ tried, ¬ p.Rejects s.device.refusal index (layers.take k) →
    p.tryNotes s.device.refusal first index (layers.take k) = []

section

variable {p : Packer} {refusal : Program → Option DeviceError} {s : Session} {first : Layer}
  {layers block : List Layer} {index last : Nat} {rejected : List Nat}

/-! ### Notes and calls of a try -/

theorem level_overflowNote (count : Nat) (cost : Cost) :
    (p.overflowNote first count index cost).level = if count = 1 then .warn else .debug := by
  unfold overflowNote
  split <;> rfl

theorem level_compileNote (count : Nat) (error : DeviceError) :
    (p.compileNote first count index error).level = if count = 1 then .warn else .debug := by
  unfold compileNote
  split <;> rfl

/-- A rejection is one note, and a warning only over one layer. -/
theorem tryNotes_of_rejects (first : Layer) (h : p.Rejects refusal index block) :
    ∃ note, p.tryNotes refusal first index block = [note] ∧
      note.level = if block.length = 1 then .warn else .debug := by
  obtain ⟨hempty, haccepted⟩ := rejects_iff.mp h
  unfold tryNotes
  cases hv : p.verdict refusal index block with
  | empty => exact absurd hv hempty
  | accepted => exact absurd hv haccepted
  | overflow => exact ⟨_, rfl, level_overflowNote _ _⟩
  | refused error => exact ⟨_, rfl, level_compileNote _ _⟩

theorem tryNotes_of_not_rejects (h : ¬ p.Rejects refusal index block) :
    p.tryNotes refusal first index block = [] := by
  unfold tryNotes
  cases hv : p.verdict refusal index block with
  | empty => rfl
  | accepted => rfl
  | overflow => exact absurd (rejects_iff.mpr ⟨by simp [hv], by simp [hv]⟩) h
  | refused error => exact absurd (rejects_iff.mpr ⟨by simp [hv], by simp [hv]⟩) h

/-- The compile calls of several tries are those of the blocks within the budget. -/
theorem flatMap_tryCalls (tried : List Nat) :
    (tried.flatMap fun k => p.tryCalls index (layers.take k)) =
      (p.affordable layers tried).map fun k => p.compileCall index (layers.take k) := by
  induction tried with
  | nil => rfl
  | cons k tried ih =>
      rw [List.flatMap_cons, ih, affordable, affordable, List.filter_cons, tryCalls]
      split
      next h => simp [h]
      next h => simp [h]

/-- The calls that create the states of the pass over a block. -/
def stateCalls (p : Packer) (s : Session) (index : Nat) (block : List Layer) : List Call :=
  (List.range' s.device.states.size (p.stateLayers index block).length).map
    fun n => .createState ⟨n⟩

/-- After an accepted try, the calls are one compilation and the creation of the states. -/
theorem calls_built : (p.built s index block).device.calls.toList =
    s.device.calls.toList ++ [p.compileCall index block] ++ p.stateCalls s index block := by
  simp [built, Session.withStates, Device.compiled, Device.record, compileCall, stateCalls]

theorem notes_built : (p.built s index block).notes.toList =
    s.notes.toList ++ (p.stateLayers index block).flatMap (·.resolveNotes) := by
  simp [built, Session.withStates]

theorem tryCalls_of_accepts (h : p.Accepts refusal index block) :
    p.tryCalls index block = [p.compileCall index block] :=
  if_pos ⟨h.1, h.2.1⟩

/-! ### The last try -/

/-- The block of the last try is accepted exactly when it is the first that is. -/
theorem Stop.firstAccepted_iff (h : p.Stop refusal index layers rejected last) {count : Nat} :
    p.FirstAccepted refusal index layers count ↔
      p.Accepts refusal index (layers.take last) ∧ count = last := by
  obtain ⟨smaller, hsplit⟩ := h.tried
  rw [List.append_assoc, List.singleton_append] at hsplit
  constructor
  · rintro ⟨larger, smaller', hsplit', haccepts, hlarger⟩
    rcases mem_or_eq_or_mem_of_split (hsplit.trans hsplit') with hmem | rfl | hmem
    · -- The last try settles the pass without accepting, so it is over one layer, and none follows.
      obtain ⟨hnot, hne⟩ := hlarger last hmem
      have hone : last = 1 := h.settles.resolve_right fun hr => hr ⟨hne, fun hc => hnot ⟨hne, hc⟩⟩
      have hp := pairwise_halvings layers.length
      rw [hsplit', List.pairwise_append] at hp
      have hlt := hp.2.2 last hmem count List.mem_cons_self
      have hbounds := bounds_of_mem_halvings (n := layers.length) (k := count) (by simp [hsplit'])
      omega
    · exact ⟨haccepts, rfl⟩
    · exact absurd haccepts.2 (h.rejects count hmem).2
  · rintro ⟨haccepts, rfl⟩
    refine ⟨rejected, smaller, hsplit.symm, haccepts, fun k hk => ?_⟩
    have hr := h.rejects k hk
    exact ⟨fun ha => hr.2 ha.2, hr.1⟩

/-- Every block that is tried has features, if the last one has. -/
theorem Stop.nonempty (h : p.Stop refusal index layers rejected last)
    (hlast : (Layer.union (layers.take last)).isEmpty = false) :
    ∀ k ∈ rejected ++ [last], (Layer.union (layers.take k)).isEmpty = false := by
  intro k hk
  rcases List.mem_append.mp hk with hk | hk
  · exact (h.rejects k hk).1
  · exact List.mem_singleton.mp hk ▸ hlast

/-- If the last try does not accept its block, the error is as it should be. -/
theorem Stop.failsWith {others : List Layer} (hl : layers = first :: others)
    (hb : ∀ k, (p.cost (layers.take k)).Bounded)
    (h : p.Stop s.device.refusal index layers rejected last) {error : BuildError}
    (he : p.settled s first index (layers.take last) = .error error) :
    p.FailsWith s.device.refusal index first layers (rejected ++ [last]) error := by
  have htake : layers.take 1 = [first] := by rw [hl]; rfl
  have hmeasure : p.registry.measure (Layer.union [first]) = .ok (p.cost [first]) :=
    Registry.measure_of_bounded (htake ▸ hb 1)
  unfold settled at he
  cases hv : p.verdict s.device.refusal index (layers.take last) with
  | empty =>
      rw [hv] at he
      cases he
      exact .empty (k := last) (by simp) (verdict_eq_empty_iff.mp hv)
  | accepted =>
      rw [hv] at he
      cases he
  | overflow =>
      have hr : p.Rejects s.device.refusal index (layers.take last) :=
        rejects_iff.mpr ⟨by simp [hv], by simp [hv]⟩
      obtain rfl : last = 1 := h.settles.resolve_right (not_not_intro hr)
      rw [hv, htake] at he
      rw [htake] at hv
      cases he
      exact .overflow (h.nonempty hr.1) hmeasure (fits_of_verdict_overflow hv)
  | refused error =>
      have hr : p.Rejects s.device.refusal index (layers.take last) :=
        rejects_iff.mpr ⟨by simp [hv], by simp [hv]⟩
      obtain rfl : last = 1 := h.settles.resolve_right (not_not_intro hr)
      rw [hv] at he
      rw [htake] at hv
      cases he
      obtain ⟨hfits, hrefused⟩ := refusal_of_verdict_refused hv
      exact .compile (h.nonempty hr.1) hmeasure hfits hrefused

/-! ### What is left behind -/

/-- The calls of the tries up to the last, and then those that create the states of a pass. -/
theorem calls_after : ∃ created, (∀ c ∈ created, c.name ≠ "CreateShader") ∧
    (p.after (p.afterRejected s first index layers rejected) first index
        (layers.take last)).device.calls.toList =
      s.device.calls.toList ++
        (p.affordable layers (rejected ++ [last])).map
          (fun k => p.compileCall index (layers.take k)) ++ created := by
  have htries : (rejected ++ [last]).flatMap (fun k => p.tryCalls index (layers.take k)) =
      rejected.flatMap (fun k => p.tryCalls index (layers.take k)) ++
        p.tryCalls index (layers.take last) := by simp
  rw [← flatMap_tryCalls, htries]
  by_cases ha : p.Accepts s.device.refusal index (layers.take last)
  · refine ⟨p.stateCalls s index (layers.take last), fun c hc => ?_, ?_⟩
    · obtain ⟨n, -, rfl⟩ := List.mem_map.mp hc
      simp [Call.name]
    · rw [after_of_accepts (by rwa [afterRejected, Session.refusal_extend]), calls_built,
        tryCalls_of_accepts ha, afterRejected]
      simp [Session.extend, stateCalls]
  · refine ⟨[], by simp, ?_⟩
    rw [after_of_not_accepts (by rwa [afterRejected, Session.refusal_extend]), afterRejected,
      Session.extend_extend]
    simp [Session.extend]

/-- The notes of the tries up to the last, and then those on the states of a pass. -/
theorem notes_after : ∃ stateNotes,
    (p.after (p.afterRejected s first index layers rejected) first index
        (layers.take last)).notes.toList =
      s.notes.toList ++ (rejected ++ [last]).flatMap
        (fun k => p.tryNotes s.device.refusal first index (layers.take k)) ++ stateNotes ∧
    (¬ p.Accepts s.device.refusal index (layers.take last) → stateNotes = []) ∧
    (p.Accepts s.device.refusal index (layers.take last) →
      stateNotes = (p.stateLayers index (layers.take last)).flatMap (·.resolveNotes)) := by
  by_cases ha : p.Accepts s.device.refusal index (layers.take last)
  · refine ⟨_, ?_, fun h => absurd ha h, fun _ => rfl⟩
    rw [after_of_accepts (by rwa [afterRejected, Session.refusal_extend]), notes_built,
      List.flatMap_append, List.flatMap_singleton, tryNotes_of_not_rejects fun h => h.2 ha.2,
      afterRejected]
    simp [Session.extend]
  · refine ⟨[], ?_, fun _ => rfl, fun h => absurd h ha⟩
    rw [after_of_not_accepts (by rwa [afterRejected, Session.refusal_extend]), afterRejected,
      Session.refusal_extend, Session.extend_extend]
    simp [Session.extend]

/-- No more blocks are within the budget than there are halvings. -/
theorem length_affordable_le {tried : List Nat} (hpos : 1 ≤ layers.length)
    (htried : tried <+: halvings layers.length) :
    (p.affordable layers tried).length ≤ Nat.clog 2 layers.length + 1 := by
  calc (p.affordable layers tried).length
      ≤ tried.length := List.length_filter_le _ _
    _ ≤ (halvings layers.length).length := htried.length_le
    _ = Nat.clog 2 layers.length + 1 := length_halvings hpos

/-- A rejection is one note.  Over one layer it is a warning, and the last try. -/
theorem Stop.reports (h : p.Stop refusal index layers rejected last) (first : Layer) {k : Nat}
    (hk : k ∈ rejected ++ [last]) (hr : p.Rejects refusal index (layers.take k)) :
    ∃ note, p.tryNotes refusal first index (layers.take k) = [note] ∧
      (1 < k → note.level = .debug) ∧
      (k = 1 → note.level = .warn ∧ ¬ p.Accepts refusal index (layers.take last)) := by
  have hle : k ≤ layers.length := (bounds_of_mem_halvings (h.tried.subset hk)).2
  obtain ⟨note, hnote, hlevel⟩ := tryNotes_of_rejects first hr
  rw [List.length_take_of_le hle] at hlevel
  refine ⟨note, hnote, fun hlt => hlevel.trans (if_neg (by omega)), fun hone => ?_⟩
  -- No try over several layers is over one, so this is the last.
  have hlast : k = last := by
    rcases List.mem_append.mp hk with hk | hk
    · exact absurd (h.one_lt hk) (by omega)
    · exact List.mem_singleton.mp hk
  exact ⟨hlevel.trans (if_pos hone), fun ha => (hlast ▸ hr).2 ha.2⟩

end

/-- **What building a pass comes to.**  From any layers but none, on any device, the numbers of
layers tried go down the halvings, and the pass is built over the first block of them that has
features and compiles within the budget, or fails as `FailsWith` says. -/
theorem buildPass_outcome (p : Packer) (first : Layer) (others : List Layer) (index : Nat)
    (s : Session) (hb : ∀ block, block <+: first :: others → (p.cost block).Bounded) :
    Descent (first :: others).length (halvings (first :: others).length) ∧
      ∃ tried result s', (p.buildPass (first :: others) index).run s = .ok (result, s') ∧
        p.Outcome s s' first (first :: others) index tried result := by
  set layers := first :: others with hl
  have hb' : ∀ k, (p.cost (layers.take k)).Bounded := fun k => hb _ (List.take_prefix k layers)
  have hpos : 1 ≤ layers.length := by simp [hl]
  obtain ⟨rejected, last, h⟩ := p.exists_stop s.device.refusal index layers (by simp [hl])
  refine ⟨descent_halvings hpos, rejected ++ [last], _, _, run_buildPass hl hb' h, ?_⟩
  set s₁ := p.afterRejected s first index layers rejected with hs₁
  have hrefusal : s₁.device.refusal = s.device.refusal := Session.refusal_extend _ _ _
  have hlength : (layers.take last).length = last :=
    List.length_take_of_le (bounds_of_mem_halvings (h.tried.subset (by simp))).2
  have hok (count : Nat) : (∃ pass, p.settled s₁ first index (layers.take last) =
      .ok (pass, count)) ↔ p.FirstAccepted s.device.refusal index layers count := by
    rw [settled_afterRejected_eq_ok_iff, h.firstAccepted_iff, hlength]
  have hfail (error : BuildError)
      (he : p.settled s₁ first index (layers.take last) = .error error) :
      p.FailsWith s.device.refusal index first layers (rejected ++ [last]) error := by
    rw [← hrefusal] at h ⊢
    exact h.failsWith hl hb' he
  obtain ⟨stateNotes, hnotes, hnone, hsome⟩ :=
    @notes_after p s first layers index last rejected
  exact {
    tried_prefix := h.tried
    rejected := fun k hk => h.rejects k (by simpa using hk)
    built := hok
    failed := hfail
    blames := fun e => by cases hfail _ e
    compiled := calls_after
    compiled_le := length_affordable_le hpos h.tried
    notes := by
      refine ⟨stateNotes, hnotes, fun error he => hnone fun ha => ?_, fun pass count he => ?_⟩
      · obtain ⟨pass, hpass⟩ := (hok last).mpr (h.firstAccepted_iff.mpr ⟨ha, rfl⟩)
        rw [he] at hpass
        cases hpass
      · obtain ⟨ha, rfl⟩ := h.firstAccepted_iff.mp ((hok count).mp ⟨pass, he⟩)
        exact hsome ha
    reports := fun k hk hr => by
      obtain ⟨note, hnote, hdebug, hwarn⟩ := h.reports first hk hr
      refine ⟨note, hnote, hdebug, fun hone => ⟨(hwarn hone).1, ?_⟩⟩
      exact settled_of_not_accepts first (hrefusal ▸ (hwarn hone).2)
    quiet := fun k _ hr => tryNotes_of_not_rejects hr }

/-- The simplest packer tries the maps of two stages as it should. -/
theorem buildPass_outcome_two_stages :
    let p : Packer := ⟨.builtin, .positionNormalUv, {}, "rock", .ofMaterial .warning⟩
    let first : Layer := ⟨0, .ofList [⟨.diffuseMap, some 0⟩], .wrapLinear⟩
    let second : Layer := ⟨1, .ofList [⟨.diffuseMap, some 1⟩], .wrapLinear⟩
    (∀ block, block <+: [first, second] → (p.cost block).Bounded) ∧
      Descent 2 (halvings 2) ∧ ∃ tried result s',
        (p.buildPass [first, second] 0).run {} = .ok (result, s') ∧
          p.Outcome {} s' first [first, second] 0 tried result := by
  intro p first second
  have hbounded : ∀ block ∈ [first, second].inits, (p.cost block).Bounded := by decide +kernel
  have hb : ∀ block, block <+: [first, second] → (p.cost block).Bounded := fun block h =>
    hbounded block ((List.mem_inits _ _).mpr h)
  exact ⟨hb, buildPass_outcome p first [second] 0 {} hb⟩

/-- Two stages without features cost nothing, and their program compiles, but no pass is built. -/
theorem firstToCompile_without_features :
    let p : Packer := ⟨.builtin, .positionNormalUv, {}, "rock", .ofMaterial .warning⟩
    let layers : List Layer := [⟨0, .empty, .wrapLinear⟩, ⟨1, .empty, .wrapLinear⟩]
    let s : Session := {}
    p.FirstToCompile s.device.refusal 0 layers 2 ∧
      (p.buildPass layers 0).run s = .ok (.error (.emptyFeatures 0), s) := by
  intro p layers s
  have hlist : halvings layers.length = [2, 1] := by
    rw [show layers.length = 2 from rfl, halvings_of_two_le (by decide), halvings_one]
  have hcompiles : p.Compiles s.device.refusal 0 (layers.take 2) :=
    ⟨by decide +kernel, Device.refusal_eq_none_iff.mpr ⟨rfl, rfl⟩⟩
  refine ⟨⟨[], [1], hlist, hcompiles, by simp⟩, ?_⟩
  rw [buildPass, hlist]
  rfl

end Packer

end MaterialPipeline
