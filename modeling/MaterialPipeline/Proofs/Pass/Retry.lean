import MaterialPipeline.Proofs.Pass.Attempt
import MaterialPipeline.Proofs.Pass.Halving

/-!
# Proofs — Pass — Retry

A pass is tried with fewer and fewer layers.  The tries go down the halvings; every try but the last
is rejected, which only adds to the trace and to the notes, and the last is either not rejected or
over one layer alone (`Stop`, `run_buildPass`).  What the last try comes to is what the pass comes
to (`Packer.settled`).
-/

namespace MaterialPipeline.Packer

/-- How the last try of a pass, over a block with the first layer `first`, settles it. -/
def settled (p : Packer) (s : Session) (first : Layer) (index : Nat) (block : List Layer) :
    Except BuildError (Pass × Nat) :=
  match p.verdict s.device.refusal index block with
  | .empty => .error (.emptyFeatures first.stage)
  | .overflow =>
    .error (.overflow first.stage (p.cost block).textures (p.cost block).interpolators)
  | .refused error => .error (.compile first.stage error)
  | .accepted => .ok (p.passOver s index block, block.length)

/-- The tries over the first layers of `layers` are rejected for each number in `rejected`, and
the try over `last` of them settles the pass. -/
structure Stop (p : Packer) (refusal : Program → Option DeviceError) (index : Nat)
    (layers : List Layer) (rejected : List Nat) (last : Nat) : Prop where
  tried : rejected ++ [last] <+: halvings layers.length
  rejects : ∀ k ∈ rejected, p.Rejects refusal index (layers.take k)
  settles : last = 1 ∨ ¬ p.Rejects refusal index (layers.take last)

/-- The session after rejected tries over the first layers of `layers`. -/
def afterRejected (p : Packer) (s : Session) (first : Layer) (index : Nat) (layers : List Layer)
    (rejected : List Nat) : Session :=
  s.extend (rejected.flatMap fun k => p.tryCalls index (layers.take k))
    (rejected.flatMap fun k => p.tryNotes s.device.refusal first index (layers.take k))

section

variable {p : Packer} {refusal : Program → Option DeviceError} {first : Layer} {index : Nat}
  {layers block : List Layer} {s : Session}

/-! ### One try -/

/-- A rejected try over several layers asks for fewer. -/
theorem outcome_of_rejects (h : p.Rejects s.device.refusal index block) (hk : 1 < block.length) :
    p.outcome s first index block = .retry := by
  have hne : block.length ≠ 1 := Nat.ne_of_gt hk
  obtain ⟨hempty, haccepted⟩ := rejects_iff.mp h
  unfold outcome
  cases hv : p.verdict s.device.refusal index block with
  | empty => exact absurd hv hempty
  | overflow => exact if_neg hne
  | refused error => exact if_neg hne
  | accepted => exact absurd hv haccepted

theorem after_of_not_accepts (h : ¬ p.Accepts s.device.refusal index block) :
    p.after s first index block =
      s.extend (p.tryCalls index block) (p.tryNotes s.device.refusal first index block) := by
  unfold after
  split
  next e => exact absurd (verdict_eq_accepted_iff.mp e) h
  next => rfl

theorem after_of_accepts (h : p.Accepts s.device.refusal index block) :
    p.after s first index block = p.built s index block := by
  rw [after, verdict_eq_accepted_iff.mpr h]

theorem settled_of_accepts (h : p.Accepts s.device.refusal index block) :
    p.settled s first index block = .ok (p.passOver s index block, block.length) := by
  rw [settled, verdict_eq_accepted_iff.mpr h]

theorem settled_of_not_accepts (first : Layer) (h : ¬ p.Accepts s.device.refusal index block) :
    ∃ error, p.settled s first index block = .error error := by
  unfold settled
  split
  next e => exact ⟨_, rfl⟩
  next e => exact ⟨_, rfl⟩
  next e => exact ⟨_, rfl⟩
  next e => exact absurd (verdict_eq_accepted_iff.mp e) h

/-- Rejections of other numbers of layers before it do not change how a try settles a pass. -/
theorem settled_afterRejected_eq_ok_iff {rejected : List Nat} {count : Nat} :
    (∃ pass, p.settled (p.afterRejected s first index layers rejected) first index block =
      .ok (pass, count)) ↔ p.Accepts s.device.refusal index block ∧ count = block.length := by
  have hrefusal : (p.afterRejected s first index layers rejected).device.refusal =
      s.device.refusal := Session.refusal_extend _ _ _
  constructor
  · rintro ⟨pass, h⟩
    by_cases ha : p.Accepts s.device.refusal index block
    · rw [settled_of_accepts (hrefusal ▸ ha)] at h
      cases h
      exact ⟨ha, rfl⟩
    · obtain ⟨error, he⟩ := settled_of_not_accepts first (hrefusal ▸ ha)
      rw [he] at h
      cases h
  · rintro ⟨ha, rfl⟩
    exact ⟨_, settled_of_accepts (hrefusal ▸ ha)⟩

/-! ### The tries in turn -/

/-- Somewhere the tries stop, at the latest with one layer. -/
theorem exists_stop (p : Packer) (refusal : Program → Option DeviceError) (index : Nat)
    (layers : List Layer) (h : layers ≠ []) :
    ∃ rejected last, p.Stop refusal index layers rejected last := by
  classical
  have hpos : 1 ≤ layers.length := List.length_pos_iff.mpr h
  -- The tries stop at the first number that is one or is not rejected.
  let stops (k : Nat) : Bool := decide (k = 1 ∨ ¬ p.Rejects refusal index (layers.take k))
  have hsome : ((halvings layers.length).find? stops).isSome := by
    obtain ⟨larger, hl, -⟩ := eq_append_one_halvings hpos
    simp [hl, stops]
  obtain ⟨last, hlast⟩ := Option.isSome_iff_exists.mp hsome
  obtain ⟨hstop, rejected, smaller, hsplit, hrejected⟩ := List.find?_eq_some_iff_append.mp hlast
  refine ⟨rejected, last, ⟨smaller, by simp [hsplit]⟩, fun k hk => ?_, by simpa [stops] using hstop⟩
  have hnot := hrejected k hk
  simp only [stops, Bool.not_eq_true', decide_eq_false_iff_not, not_or, not_not] at hnot
  exact hnot.2

variable {rejected : List Nat} {last : Nat}

/-- Every rejected try is over several layers. -/
theorem Stop.one_lt (h : p.Stop refusal index layers rejected last) {k : Nat}
    (hk : k ∈ rejected) : 1 < k := by
  have hp := (pairwise_halvings layers.length).sublist h.tried.sublist
  have hlt := (List.pairwise_append.mp hp).2.2 k hk last (List.mem_singleton_self last)
  have hlast := (bounds_of_mem_halvings (h.tried.subset (by simp : last ∈ rejected ++ [last]))).1
  omega

/-- The tries that are rejected, followed by any others. -/
theorem run_tryCounts_append (hb : ∀ k, (p.cost (layers.take k)).Bounded) :
    ∀ (rejected rest : List Nat) (s : Session),
      (∀ k ∈ rejected, 1 < k ∧ k ≤ layers.length ∧
        p.Rejects s.device.refusal index (layers.take k)) →
      (p.tryCounts first layers index (rejected ++ rest)).run s =
        (p.tryCounts first layers index rest).run (p.afterRejected s first index layers rejected)
  | [], rest, s, _ => by
      rw [afterRejected, List.flatMap_nil, List.flatMap_nil, Session.extend_nil, List.nil_append]
  | k :: rejected, rest, s, h => by
      obtain ⟨hk, hle, hrejects⟩ := h k List.mem_cons_self
      have hlength : (layers.take k).length = k := List.length_take_of_le hle
      have hrun := run_attempt (fun _ => hb k) s first index
      rw [outcome_of_rejects hrejects (by omega),
        after_of_not_accepts fun h => hrejects.2 h.2] at hrun
      have htail := run_tryCounts_append hb rejected rest
        (s.extend (p.tryCalls index (layers.take k))
          (p.tryNotes s.device.refusal first index (layers.take k)))
        fun j hj => by
          rw [Session.refusal_extend]
          exact h j (List.mem_cons_of_mem k hj)
      rw [List.cons_append, tryCounts, Action.run_bind hrun, htail, afterRejected, afterRejected,
        Session.refusal_extend, Session.extend_extend, List.flatMap_cons, List.flatMap_cons]

/-- The try that settles the pass, whatever numbers come after it. -/
theorem run_tryCounts_cons {k : Nat} (hb : (p.cost (layers.take k)).Bounded)
    (hk : k ≤ layers.length)
    (h : k = 1 ∨ ¬ p.Rejects s.device.refusal index (layers.take k)) (rest : List Nat) :
    (p.tryCounts first layers index (k :: rest)).run s =
      .ok (p.settled s first index (layers.take k), p.after s first index (layers.take k)) := by
  have hlength : (layers.take k).length = k := List.length_take_of_le hk
  have hone (hr : p.Rejects s.device.refusal index (layers.take k)) : k = 1 :=
    h.resolve_right (not_not_intro hr)
  rw [tryCounts, Action.run_bind (run_attempt (fun _ => hb) s first index)]
  unfold outcome settled
  cases hv : p.verdict s.device.refusal index (layers.take k) with
  | empty => rfl
  | accepted => simp only [hlength, Action.run_pure]
  | overflow =>
      have hlast := hone (rejects_iff.mpr ⟨by simp [hv], by simp [hv]⟩)
      simp only [hlength, if_pos hlast, Action.run_pure]
  | refused error =>
      have hlast := hone (rejects_iff.mpr ⟨by simp [hv], by simp [hv]⟩)
      simp only [hlength, if_pos hlast, Action.run_pure]

/-- Building a pass: some tries are rejected, and the next one settles it. -/
theorem run_buildPass {others : List Layer} (hl : layers = first :: others)
    (hb : ∀ k, (p.cost (layers.take k)).Bounded)
    (h : p.Stop s.device.refusal index layers rejected last) :
    (p.buildPass layers index).run s =
      .ok (p.settled (p.afterRejected s first index layers rejected) first index
          (layers.take last),
        p.after (p.afterRejected s first index layers rejected) first index
          (layers.take last)) := by
  obtain ⟨smaller, hsplit⟩ := h.tried
  have hbounds : ∀ k ∈ rejected ++ [last], 1 ≤ k ∧ k ≤ layers.length := fun k hk =>
    bounds_of_mem_halvings (h.tried.subset hk)
  have hbuild : p.buildPass layers index =
      p.tryCounts first layers index (rejected ++ last :: smaller) := by
    rw [← List.singleton_append, ← List.append_assoc, hsplit, hl]
    rfl
  rw [hbuild, run_tryCounts_append hb rejected _ s fun k hk =>
    ⟨h.one_lt hk, (hbounds k (List.mem_append_left _ hk)).2, h.rejects k hk⟩]
  refine run_tryCounts_cons (hb last) (hbounds last (by simp)).2 ?_ smaller
  rw [afterRejected, Session.refusal_extend]
  exact h.settles

end

end MaterialPipeline.Packer
