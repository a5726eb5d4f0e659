import MaterialPipeline.Proofs.Feature.Reads

/-!
# Proofs — Feature — Algebra

The laws of the operations on sets of features.  A set that some steps have left has contents
(`LazyFeatureSet.Has`), each operation on it is the operation on these, and sets of equal contents
are equal as values (`Has.same_iff`); so the laws are those of the algebra of sets.

* `MergeLaws`, `ExcludeLaws`: union, and exclusion by number.
* `Tells`: a change says whether it changed anything.
* `Tallies`: counting and asking, against what a look finds.
* `SetStep.laws_run`: these hold of the sets after any steps that use each number for one type,
whose order is a number.
-/

namespace MaterialPipeline

/-- What is left of some features without the types of others. -/
def Feature.apart (c d : Set Feature) : Set Feature :=
  { f ∈ c | ∀ g ∈ d, g.type.id ≠ f.type.id }

namespace LazyFeatureSet

/-! ### Laws -/

/-- Union has the laws of a union, up to equality as values. -/
structure MergeLaws (a b c : LazyFeatureSet) : Prop where
  mem : ∀ f, f ∈ (a.merge b).read.1 ↔ f ∈ a.read.1 ∨ f ∈ b.read.1
  comm : ((a.merge b).same (b.merge a)).1 = true
  assoc : (((a.merge b).merge c).same (a.merge (b.merge c))).1 = true
  idem : ((a.merge a).same a).1 = true
  merge_empty : ((a.merge empty).same a).1 = true
  empty_merge : ((empty.merge a).same a).1 = true

/-- Exclusion goes by number, whatever the stage, and passes over unions on either side, up to
equality as values. -/
structure ExcludeLaws (a b c : LazyFeatureSet) : Prop where
  mem : ∀ f, f ∈ (a.exclude b).read.1 ↔ f ∈ a.read.1 ∧ ∀ g ∈ b.read.1, g.type.id ≠ f.type.id
  merge_exclude : (((a.merge b).exclude c).same ((a.exclude c).merge (b.exclude c))).1 = true
  exclude_exclude : (((a.exclude b).exclude c).same (a.exclude (b.merge c))).1 = true

/-- A change that leaves the features `p` says whether it changed the set. -/
structure Tells (s : LazyFeatureSet) (change : Bool × LazyFeatureSet) (p : Feature → Prop) :
    Prop where
  mem : ∀ f, f ∈ change.2.read.1 ↔ p f
  contents : change.1 = true ↔ change.2.read.1 ≠ s.read.1
  value : change.1 = !(change.2.same s).1

/-- Counting and asking answer as a look at the set does. -/
structure Tallies (s : LazyFeatureSet) : Prop where
  size : s.size = s.read.1.length
  isEmpty : s.isEmpty = s.read.1.isEmpty
  count : ∀ id, s.count id = s.read.1.countP (·.type.id == id)
  has : ∀ id, s.has id = s.read.1.any (·.type.id == id)
  hasAt : ∀ id stage, s.hasAt id stage = s.read.1.any (·.ident == (id, stage))

/-! ### Contents -/

/-- The set has some features, whose numbers stand for one type each, and whose orders are
numbers. -/
structure Has (typeOf : FeatureId → FeatureType) (s : LazyFeatureSet) (c : Set Feature) : Prop where
  stands : ∃ t, s.Holds t ∧ t.Consists typeOf c
  numbers : ∀ f ∈ c, f.type.order.isNaN = false

variable {typeOf : FeatureId → FeatureType} {s a b : LazyFeatureSet} {t : FeatureSet}
  {c d e : Set Feature} {f : Feature}

/-- A look finds the features as they came, in another order. -/
theorem Holds.read_perm (h : s.Holds t) : s.read.1.Perm s.features := by
  rw [h.read_fst, ← h.inOrder_eq]
  exact List.mergeSort_perm _ _

theorem Holds.tallies_read (h : s.Holds t) : s.Tallies where
  size := h.read_perm.length_eq.symm
  isEmpty := by
    rw [Bool.eq_iff_iff, LazyFeatureSet.isEmpty, List.isEmpty_iff, List.isEmpty_iff]
    exact ⟨fun e => (e ▸ h.read_perm).eq_nil, fun e => (e ▸ h.read_perm.symm).eq_nil⟩
  count _ := (h.read_perm.countP_eq _).symm
  has _ := h.read_perm.any_eq.symm
  hasAt _ _ := h.read_perm.any_eq.symm

namespace Has

theorem empty : LazyFeatureSet.empty.Has typeOf ∅ where
  stands := ⟨_, holds_empty, .empty⟩
  numbers _ h := absurd h (Set.notMem_empty _)

theorem mem_read (h : s.Has typeOf c) : f ∈ s.read.1 ↔ f ∈ c := by
  obtain ⟨⟨t, hholds, hconsists⟩, -⟩ := h
  rw [hholds.read_fst, hconsists.mem]

/-- Sets are equal as values if their contents are. -/
theorem same_iff (ha : a.Has typeOf c) (hb : b.Has typeOf d) : (a.same b).1 = true ↔ c = d := by
  obtain ⟨⟨t, hholds, hconsists⟩, hnumbers⟩ := ha
  obtain ⟨⟨u, hholds', hconsists'⟩, -⟩ := hb
  rw [hholds.same_fst hholds', hconsists.same_iff hconsists', and_iff_left hnumbers]

/-- Sets look the same if their contents are. -/
theorem read_eq_iff (ha : a.Has typeOf c) (hb : b.Has typeOf d) : a.read.1 = b.read.1 ↔ c = d := by
  refine ⟨fun e => Set.ext fun f => by rw [← ha.mem_read, ← hb.mem_read, e], ?_⟩
  rintro rfl
  obtain ⟨⟨t, hholds, hconsists⟩, -⟩ := ha
  obtain ⟨⟨u, hholds', hconsists'⟩, -⟩ := hb
  have hsame : t = u := FeatureSet.eq_of_mem_iff fun f => by
    rw [hconsists.mem, hconsists'.mem]
  rw [hholds.read_fst, hholds'.read_fst, hsame]

/-! ### Operations -/

theorem add (h : s.Has typeOf c) (htype : f.type = typeOf f.type.id)
    (hnumber : f.type.order.isNaN = false) : (s.add f).2.Has typeOf (insert f c) := by
  obtain ⟨⟨t, hholds, hconsists⟩, hnumbers⟩ := h
  exact ⟨⟨_, hholds.add f, hconsists.insert htype⟩, Set.forall_mem_insert.mpr ⟨hnumber, hnumbers⟩⟩

theorem retain (h : s.Has typeOf c) {keep : Feature → Bool} {p : Feature → Prop}
    (hkeep : ∀ f, keep f = true ↔ p f) : (s.retain keep).2.Has typeOf { f ∈ c | p f } := by
  obtain ⟨⟨t, hholds, hconsists⟩, hnumbers⟩ := h
  exact ⟨⟨_, hholds.retain keep, hconsists.filter hkeep⟩, fun f hf => hnumbers f hf.1⟩

theorem merge (ha : a.Has typeOf c) (hb : b.Has typeOf d) : (a.merge b).Has typeOf (c ∪ d) := by
  obtain ⟨⟨t, hholds, hconsists⟩, hnumbers⟩ := ha
  obtain ⟨⟨u, hholds', hconsists'⟩, hnumbers'⟩ := hb
  exact ⟨⟨_, hholds.merge hholds', hconsists.merge hconsists'⟩,
    fun f hf => hf.elim (hnumbers f) (hnumbers' f)⟩

theorem exclude (ha : a.Has typeOf c) (hb : b.Has typeOf d) :
    (a.exclude b).Has typeOf (Feature.apart c d) := by
  obtain ⟨⟨t, hholds, hconsists⟩, hnumbers⟩ := ha
  obtain ⟨⟨u, hholds', hconsists'⟩, -⟩ := hb
  exact ⟨⟨_, hholds.exclude hholds', hconsists.exclude hconsists'⟩, fun f hf => hnumbers f hf.1⟩

/-! ### The laws hold -/

theorem mergeLaws {x : LazyFeatureSet} (ha : a.Has typeOf c) (hb : b.Has typeOf d)
    (hx : x.Has typeOf e) : MergeLaws a b x where
  mem f := by rw [(ha.merge hb).mem_read, ha.mem_read, hb.mem_read, Set.mem_union]
  comm := ((ha.merge hb).same_iff (hb.merge ha)).mpr (Set.union_comm c d)
  assoc := (((ha.merge hb).merge hx).same_iff (ha.merge (hb.merge hx))).mpr (Set.union_assoc c d e)
  idem := ((ha.merge ha).same_iff ha).mpr (Set.union_self c)
  merge_empty := ((ha.merge .empty).same_iff ha).mpr (Set.union_empty c)
  empty_merge := ((empty.merge ha).same_iff ha).mpr (Set.empty_union c)

end Has

/-- Exclusion from a union is exclusion from each part. -/
theorem apart_union (c d e : Set Feature) :
    Feature.apart (c ∪ d) e = Feature.apart c e ∪ Feature.apart d e :=
  Set.ext fun _ => or_and_right

/-- Exclusion of a union is exclusion of one part after the other. -/
theorem apart_apart (c d e : Set Feature) :
    Feature.apart (Feature.apart c d) e = Feature.apart c (d ∪ e) := by
  ext f
  simp only [Feature.apart, Set.mem_ofPred_eq, Set.mem_union, or_imp, forall_and, and_assoc]

namespace Has

theorem excludeLaws {x : LazyFeatureSet} (ha : a.Has typeOf c) (hb : b.Has typeOf d)
    (hx : x.Has typeOf e) : ExcludeLaws a b x where
  mem f := by
    simp only [(ha.exclude hb).mem_read, ha.mem_read, hb.mem_read]
    rfl
  merge_exclude :=
    (((ha.merge hb).exclude hx).same_iff ((ha.exclude hx).merge (hb.exclude hx))).mpr
      (apart_union c d e)
  exclude_exclude :=
    (((ha.exclude hb).exclude hx).same_iff (ha.exclude (hb.merge hx))).mpr (apart_apart c d e)

/-- What a change answers, against the contents before and after. -/
theorem tells {change : Bool × LazyFeatureSet} {p : Feature → Prop} (h : s.Has typeOf c)
    (hchange : change.2.Has typeOf d) (hp : ∀ f, f ∈ d ↔ p f) (htold : change.1 = true ↔ d ≠ c) :
    s.Tells change p where
  mem f := hchange.mem_read.trans (hp f)
  contents := htold.trans (not_congr (hchange.read_eq_iff h)).symm
  value := by
    rw [Bool.eq_iff_iff, htold, Bool.not_eq_true', Bool.eq_false_iff, ne_eq, ne_eq,
      hchange.same_iff h]

theorem tells_add (h : s.Has typeOf c) (htype : f.type = typeOf f.type.id)
    (hnumber : f.type.order.isNaN = false) :
    s.Tells (s.add f) fun g => g = f ∨ g ∈ s.read.1 := by
  refine h.tells (h.add htype hnumber) (fun g => or_congr_right h.mem_read.symm) ?_
  obtain ⟨⟨t, hholds, hconsists⟩, -⟩ := h
  have hpresent : s.hasAt f.type.id f.stage = true ↔ f ∈ c := by
    rw [hholds.hasAt, ← hconsists.mem]
    exact ⟨hconsists.mem_of_hasAt htype, FeatureSet.hasAt_of_mem⟩
  have htold : (s.add f).1 = true ↔ ¬ s.hasAt f.type.id f.stage = true := by
    unfold LazyFeatureSet.add
    split
    next hat => exact iff_of_false Bool.false_ne_true (not_not_intro hat)
    next hat => exact iff_of_true rfl hat
  rw [htold, hpresent, ne_eq, Set.insert_eq_self]

theorem tells_retain (h : s.Has typeOf c) {keep : Feature → Bool} {p : Feature → Prop}
    (hkeep : ∀ f, keep f = true ↔ p f) :
    s.Tells (s.retain keep) fun f => f ∈ s.read.1 ∧ p f := by
  refine h.tells (h.retain hkeep) (fun f => and_congr_left' h.mem_read.symm) ?_
  obtain ⟨⟨t, hholds, hconsists⟩, -⟩ := h
  have htold : (s.retain keep).1 = true ↔ ¬ ∀ f ∈ s.features, keep f = true := by
    rw [← List.length_filter_eq_length_iff]
    exact bne_iff_ne
  have hmem (f : Feature) : f ∈ s.features ↔ f ∈ c := (hholds.mem f).trans (hconsists.mem f)
  simp only [htold, hmem, hkeep, ne_eq, Set.sep_eq_self_iff_mem_true]

end Has

end LazyFeatureSet

/-! ### After any steps -/

namespace SetStep

open Function (update)
open LazyFeatureSet

variable {typeOf : FeatureId → FeatureType} {steps : List SetStep}

/-- The orders of the types that the steps use are numbers. -/
def Numbers (steps : List SetStep) : Prop :=
  ∀ n f, add n f ∈ steps → f.type.order.isNaN = false

/-- What holds of the features that were there and of one that is added holds after a step. -/
theorem forall_mem_change {p : Feature → Prop} {contents : Nat → Set Feature} {step : SetStep}
    (h : ∀ n, ∀ f ∈ contents n, p f) (hadd : ∀ n f, add n f = step → p f) (m : Nat) :
    ∀ f ∈ change contents step m, p f := by
  have hupdate (n : Nat) {c : Set Feature} (hc : ∀ f ∈ c, p f) :
      ∀ f ∈ update contents n c m, p f := by
    by_cases hm : m = n
    · subst hm
      rwa [Function.update_self]
    · rw [Function.update_of_ne hm]
      exact h m
  cases step with
  | add n f => exact hupdate n (Set.forall_mem_insert.mpr ⟨hadd n f rfl, h n⟩)
  | remove n | removeAt n | exclude n | filter n => exact hupdate n fun f hf => h n f hf.1
  | merge n other => exact hupdate n fun f hf => hf.elim (h n f) (h other f)
  | clear n => exact hupdate n fun f hf => absurd hf (Set.notMem_empty f)
  | read | names | stagesOf | same => exact h m

theorem numbers_contents (h : Numbers steps) (n : Nat) :
    ∀ f ∈ contents steps n, f.type.order.isNaN = false := by
  have hempty (n : Nat) : ∀ f ∈ (∅ : Set Feature), f.type.order.isNaN = false :=
    fun f hf => absurd hf (Set.notMem_empty f)
  refine List.foldlRecOn (motive := fun c => ∀ n, ∀ f ∈ c n, f.type.order.isNaN = false) steps
    change hempty (fun contents hcontents step hstep => ?_) n
  exact forall_mem_change hcontents fun n f e => h n f (e ▸ hstep)

/-- After any steps, the sets have their contents. -/
theorem has_run (htypes : Types typeOf steps) (hnumbers : Numbers steps) (n : Nat) :
    (run steps n).Has typeOf (contents steps n) where
  stands := ⟨_, holds_run steps n, consists_settled htypes n⟩
  numbers := numbers_contents hnumbers n

/-- **The algebra of sets of features.**  After any steps that use each number for one type, whose
order is a number, sets are equal as values if they look the same; union is a union, exclusion goes
by number and passes over unions; each change says whether it changed the set; and counting and
asking agree with what a look finds. -/
theorem laws_run (htypes : Types typeOf steps) (hnumbers : Numbers steps) :
    let set := run steps
    (∀ a b, ((set a).same (set b)).1 = true ↔ (set a).read.1 = (set b).read.1) ∧
      (∀ a b c, MergeLaws (set a) (set b) (set c)) ∧
      (∀ a b c, ExcludeLaws (set a) (set b) (set c)) ∧
      (∀ n f, f.type = typeOf f.type.id → f.type.order.isNaN = false →
        (set n).Tells ((set n).add f) fun g => g = f ∨ g ∈ (set n).read.1) ∧
      (∀ n id, (set n).Tells ((set n).remove id) fun g => g ∈ (set n).read.1 ∧ g.type.id ≠ id) ∧
      (∀ n id stage, (set n).Tells ((set n).removeAt id stage) fun g =>
        g ∈ (set n).read.1 ∧ g.ident ≠ (id, stage)) ∧
      ∀ n, (set n).Tallies := by
  intro set
  have hhas := has_run htypes hnumbers
  refine ⟨fun a b => ?_, fun a b c => (hhas a).mergeLaws (hhas b) (hhas c),
    fun a b c => (hhas a).excludeLaws (hhas b) (hhas c), fun n f => (hhas n).tells_add,
    fun n id => (hhas n).tells_retain fun _ => bne_iff_ne,
    fun n id stage => (hhas n).tells_retain fun _ => bne_iff_ne,
    fun n => (holds_run steps n).tallies_read⟩
  rw [(hhas a).same_iff (hhas b), (hhas a).read_eq_iff (hhas b)]

/-- Two sets that share a normal map, and one that excludes normal maps. -/
theorem laws_run_of_normal_maps :
    let diffuse : Feature := ⟨.diffuseMap, some 0⟩
    let normal (stage : Option Nat) : Feature := ⟨.normalMap, stage⟩
    let typeOf (id : FeatureId) : FeatureType := if id = 3 then .diffuseMap else .normalMap
    let steps : List SetStep :=
      [add 0 diffuse, add 0 (normal (some 0)), add 1 (normal (some 1)), read 0,
        add 1 (normal (some 0)), add 2 (normal none)]
    let set := run steps
    Types typeOf steps ∧ Numbers steps ∧
      (((set 0).merge (set 1)).same ((set 1).merge (set 0))).1 = true ∧
      ((((set 0).merge (set 1)).exclude (set 2)).same
        (((set 0).exclude (set 2)).merge ((set 1).exclude (set 2)))).1 = true ∧
      ((set 0).add (normal (some 0))).1 = false ∧
      (((set 0).add (normal (some 0))).2.same (set 0)).1 = true ∧
      ((set 0).remove 7).1 = true ∧ (((set 0).remove 7).2.same (set 0)).1 = false := by
  intro diffuse normal typeOf steps set
  have hone (n : Nat) (f : Feature) (h : add n f ∈ steps) :
      f = diffuse ∨ ∃ stage, f = normal stage := by
    simp only [steps, List.mem_cons, List.not_mem_nil, or_false, add.injEq, reduceCtorEq,
      false_or] at h
    grind
  have htypes : Types typeOf steps := by
    intro n f h
    obtain rfl | ⟨stage, rfl⟩ := hone n f h <;> rfl
  have hnumbers : Numbers steps := by
    intro n f h
    obtain rfl | ⟨stage, rfl⟩ := hone n f h
    · decide +kernel
    · exact (by decide +kernel : FeatureType.normalMap.order.isNaN = false)
  obtain ⟨-, hmerge, hexclude, hadd, hremove, -⟩ := laws_run htypes hnumbers
  have hpresent : ((set 0).add (normal (some 0))).1 = false := rfl
  have hgone : ((set 0).remove 7).1 = true := rfl
  refine ⟨htypes, hnumbers, (hmerge 0 1 2).comm, (hexclude 0 1 2).merge_exclude, hpresent, ?_,
    hgone, ?_⟩
  · have hvalue := (hadd 0 (normal (some 0)) rfl (by decide +kernel)).value
    rw [hpresent] at hvalue
    simpa using hvalue
  · have hvalue := (hremove 0 7).value
    rw [hgone] at hvalue
    simpa using hvalue

end SetStep

end MaterialPipeline
