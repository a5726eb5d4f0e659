import MaterialPipeline.Feature.Catalogue
import MaterialPipeline.Proofs.Feature.Lazy
import Mathlib.Data.List.Forall2
import Mathlib.Data.Set.Insert
import Mathlib.Logic.Function.Basic

/-!
# Proofs — Feature — Reads

What is seen of sets of features while they change.  Sets are numbered; a step changes one of them,
or looks at one or two, which fills in the order that they know.

* `SetStep.run`: the sets after some steps.
* `SetStep.settled`: the sets that these stand for, which are always in order (`holds_run`).
* `SetStep.contents`: what is in them, by the algebra of sets.  If a number is used for one type
only, it is what the settled sets have (`consists_settled`).
* `SetStep.reads_contents`: whatever is read after any steps is the contents, in pipeline order.
-/

namespace MaterialPipeline

/-! ### Contents -/

/-- The set has exactly some features, each of the one type that its number stands for. -/
structure FeatureSet.Consists (typeOf : FeatureId → FeatureType) (t : FeatureSet)
    (contents : Set Feature) : Prop where
  mem : ∀ f, f ∈ t.entries ↔ f ∈ contents
  type : ∀ f ∈ contents, f.type = typeOf f.type.id

namespace FeatureSet.Consists

variable {t u : FeatureSet} {typeOf : FeatureId → FeatureType} {c d : Set Feature} {f g : Feature}

/-- Where a number stands for one type, features are known by number and stage. -/
theorem eq_of_ident_eq (hf : f.type = typeOf f.type.id) (hg : g.type = typeOf g.type.id)
    (h : f.ident = g.ident) : f = g := by
  obtain ⟨t, stage⟩ := f
  obtain ⟨u, stage'⟩ := g
  obtain ⟨hid, rfl⟩ := Prod.mk.inj h
  obtain rfl : t = u := hf.trans ((congrArg typeOf hid).trans hg.symm)
  rfl

theorem empty : FeatureSet.empty.Consists typeOf ∅ where
  mem _ := iff_of_false List.not_mem_nil (Set.notMem_empty _)
  type _ h := absurd h (Set.notMem_empty _)

/-- A feature is there already if one of its number and stage is. -/
theorem mem_of_hasAt (h : t.Consists typeOf c) (hf : f.type = typeOf f.type.id)
    (hat : t.hasAt f.type.id f.stage = true) : f ∈ t.entries := by
  obtain ⟨g, hg, e⟩ := hasAt_iff.mp hat
  exact eq_of_ident_eq (h.type g ((h.mem g).mp hg)) hf e ▸ hg

theorem insert (h : t.Consists typeOf c) (hf : f.type = typeOf f.type.id) :
    (t.insert f).Consists typeOf (Insert.insert f c) where
  mem g := by
    rw [mem_insert_iff, Set.mem_insert_iff, ← h.mem, or_comm]
    refine ⟨fun hg => hg.imp_left And.left, fun hg => ?_⟩
    rcases hg with rfl | hg
    · by_cases hat : t.hasAt g.type.id g.stage = true
      · exact .inr (h.mem_of_hasAt hf hat)
      · exact .inl ⟨rfl, Bool.eq_false_iff.mpr hat⟩
    · exact .inr hg
  type := Set.forall_mem_insert.mpr ⟨hf, h.type⟩

theorem merge (h : t.Consists typeOf c) (h' : u.Consists typeOf d) :
    (t.merge u).Consists typeOf (c ∪ d) where
  mem f := by
    rw [mem_merge_iff, Set.mem_union, ← h.mem, ← h'.mem]
    refine ⟨fun hf => hf.imp_right And.left, fun hf => ?_⟩
    rcases hf with hf | hf
    · exact .inl hf
    · by_cases hat : t.hasAt f.type.id f.stage = true
      · exact .inl (h.mem_of_hasAt (h'.type f ((h'.mem f).mp hf)) hat)
      · exact .inr ⟨hf, Bool.eq_false_iff.mpr hat⟩
  type f hf := hf.elim (h.type f) (h'.type f)

theorem filter (h : t.Consists typeOf c) {keep : Feature → Bool} {p : Feature → Prop}
    (hkeep : ∀ f, keep f = true ↔ p f) : (t.filter keep).Consists typeOf { f ∈ c | p f } where
  mem f := by
    rw [FeatureSet.filter, List.mem_filter, h.mem, hkeep]
    rfl
  type f hf := h.type f hf.1

theorem exclude (h : t.Consists typeOf c) (h' : u.Consists typeOf d) :
    (t.exclude u).Consists typeOf { f ∈ c | ∀ g ∈ d, g.type.id ≠ f.type.id } := by
  refine h.filter fun f => ?_
  simp only [Bool.not_eq_true', Bool.eq_false_iff, ne_eq, has, List.any_eq_true, h'.mem,
    beq_iff_eq, not_exists, not_and]

/-- Features are equal as values if they are one feature, and its order is a number. -/
theorem same_feature_iff (hf : f.type = typeOf f.type.id) (hg : g.type = typeOf g.type.id) :
    f.same g = true ↔ f.type.order.isNaN = false ∧ f = g := by
  constructor
  · intro h
    simp only [Feature.same, FeatureType.same, Single.same, Bool.and_eq_true, beq_iff_eq,
      Bool.not_eq_true'] at h
    obtain ⟨⟨⟨⟨⟨hid, -⟩, -⟩, ⟨hnumber, -⟩, -⟩, -⟩, hstage⟩ := h
    exact ⟨hnumber, eq_of_ident_eq hf hg (Prod.ext hid hstage)⟩
  · rintro ⟨hnumber, rfl⟩
    simp only [Feature.same, FeatureType.same, Single.same, hnumber, beq_self_eq_true,
      Bool.not_false, Bool.and_self]

/-- Sets are equal as values if their contents are, and every order in them is a number. -/
theorem same_iff (h : t.Consists typeOf c) (h' : u.Consists typeOf d) :
    t.same u = true ↔ c = d ∧ ∀ f ∈ c, f.type.order.isNaN = false := by
  have hpairs : t.same u = true ↔
      List.Forall₂ (fun f g => f.type.order.isNaN = false ∧ f = g) t.entries u.entries := by
    rw [same, Bool.and_eq_true, beq_iff_eq, List.all_eq_true, List.forall₂_iff_zip]
    refine and_congr_right fun _ => ⟨fun hall f g hmem => ?_, fun hall pair hmem => ?_⟩
    all_goals
      obtain ⟨hf, hg⟩ := List.of_mem_zip hmem
      have hiff := same_feature_iff (h.type _ ((h.mem _).mp hf)) (h'.type _ ((h'.mem _).mp hg))
    · exact hiff.mp (hall _ hmem)
    · exact hiff.mpr (hall hmem)
  rw [hpairs, List.forall₂_and_left, List.forall₂_eq_eq_eq, and_comm]
  refine and_congr ⟨fun e => ?_, fun e => ?_⟩ (forall_congr' fun f => by rw [h.mem])
  · exact Set.ext fun f => by rw [← h.mem, ← h'.mem, e]
  · exact congrArg entries (eq_of_mem_iff fun f => by rw [h.mem, h'.mem, e])

/-- The stages of a number are those that features of the number serve. -/
theorem mem_stagesOf (h : t.Consists typeOf c) {id : FeatureId} {stage : Option Nat} :
    stage ∈ t.stagesOf id ↔ ∃ f ∈ c, f.ident = (id, stage) := by
  simp only [FeatureSet.mem_stagesOf, hasAt_iff, h.mem]

/-- The stages of a number ascend, since its type is always in the same place. -/
theorem pairwise_stagesOf (h : t.Consists typeOf c) (id : FeatureId) :
    (t.stagesOf id).Pairwise fun a b => Feature.stageRank a < Feature.stageRank b := by
  rw [stagesOf, List.pairwise_map, List.pairwise_filter]
  refine t.ascending.imp_of_mem fun {f g} hf hg hlt hfid hgid => ?_
  rw [beq_iff_eq] at hfid hgid
  have htype : f.type = g.type := by
    rw [h.type f ((h.mem f).mp hf), h.type g ((h.mem g).mp hg), hfid, hgid]
  rw [Feature.key_lt_iff_type, htype] at hlt
  exact (hlt.resolve_left (List.lt_irrefl _)).2

end FeatureSet.Consists

/-! ### Steps -/

/-- A change of a set, or a look at it. -/
inductive SetStep where
  | add (n : Nat) (f : Feature)
  | remove (n : Nat) (id : FeatureId)
  | removeAt (n : Nat) (id : FeatureId) (stage : Option Nat)
  | merge (n other : Nat)
  | exclude (n other : Nat)
  | filter (n : Nat) (keep : Feature → Bool)
  | clear (n : Nat)
  | read (n : Nat)
  | names (n : Nat)
  | stagesOf (n : Nat) (id : FeatureId)
  | same (n other : Nat)

namespace SetStep

open Function (update)

/-- The sets after one step. -/
def next (sets : Nat → LazyFeatureSet) : SetStep → Nat → LazyFeatureSet
  | add n f => update sets n ((sets n).add f).2
  | remove n id => update sets n ((sets n).remove id).2
  | removeAt n id stage => update sets n ((sets n).removeAt id stage).2
  | merge n other => update sets n ((sets n).merge (sets other))
  | exclude n other => update sets n ((sets n).exclude (sets other))
  | filter n keep => update sets n ((sets n).filter keep)
  | clear n => update sets n .empty
  | read n => update sets n (sets n).read.2
  | names n => update sets n (sets n).names.2
  | stagesOf n id => update sets n ((sets n).stagesOf id).2
  | same n other =>
    update (update sets other ((sets n).same (sets other)).2.2) n ((sets n).same (sets other)).2.1

/-- The sets after some steps. -/
def run (steps : List SetStep) : Nat → LazyFeatureSet :=
  steps.foldl next fun _ => .empty

/-- What one step makes of sets that are always in order. -/
def settle (sets : Nat → FeatureSet) : SetStep → Nat → FeatureSet
  | add n f => update sets n ((sets n).insert f)
  | remove n id => update sets n ((sets n).remove id)
  | removeAt n id stage => update sets n ((sets n).removeAt id stage)
  | merge n other => update sets n ((sets n).merge (sets other))
  | exclude n other => update sets n ((sets n).exclude (sets other))
  | filter n keep => update sets n ((sets n).filter keep)
  | clear n => update sets n .empty
  | read _ | names _ | stagesOf _ _ | same _ _ => sets

/-- The sets that stand behind those after some steps. -/
def settled (steps : List SetStep) : Nat → FeatureSet :=
  steps.foldl settle fun _ => .empty

/-- What one step makes of contents. -/
def change (contents : Nat → Set Feature) : SetStep → Nat → Set Feature
  | add n f => update contents n (insert f (contents n))
  | remove n id => update contents n { f ∈ contents n | f.type.id ≠ id }
  | removeAt n id stage => update contents n { f ∈ contents n | f.ident ≠ (id, stage) }
  | merge n other => update contents n (contents n ∪ contents other)
  | exclude n other =>
    update contents n { f ∈ contents n | ∀ g ∈ contents other, g.type.id ≠ f.type.id }
  | filter n keep => update contents n { f ∈ contents n | keep f = true }
  | clear n => update contents n ∅
  | read _ | names _ | stagesOf _ _ | same _ _ => contents

/-- What is in the sets after some steps. -/
def contents (steps : List SetStep) : Nat → Set Feature :=
  steps.foldl change fun _ => ∅

/-- The steps use each number for one type. -/
def Types (typeOf : FeatureId → FeatureType) (steps : List SetStep) : Prop :=
  ∀ n f, add n f ∈ steps → f.type = typeOf f.type.id

/-- Families that are related stay related where both change at one number. -/
theorem relate_update {α β : Type} {r : α → β → Prop} {f : Nat → α} {g : Nat → β}
    (h : ∀ n, r (f n) (g n)) {a : α} {b : β} {n : Nat} (hab : r a b) (m : Nat) :
    r (update f n a m) (update g n b m) := by
  by_cases hm : m = n
  · subst hm
    rwa [Function.update_self, Function.update_self]
  · rw [Function.update_of_ne hm, Function.update_of_ne hm]
    exact h m

/-! ### What the sets stand for -/

section Standing

variable {sets : Nat → LazyFeatureSet} {settled : Nat → FeatureSet}

/-- A look at one set. -/
theorem holds_update_read (h : ∀ n, (sets n).Holds (settled n)) {s : LazyFeatureSet} {n : Nat}
    (hs : s.Holds (settled n)) (m : Nat) : (update sets n s m).Holds (settled m) := by
  have hupdate := relate_update (n := n) h hs m
  rwa [Function.update_eq_self] at hupdate

/-- A step on sets is the same step on those that they stand for. -/
theorem holds_next (h : ∀ n, (sets n).Holds (settled n)) (step : SetStep) (m : Nat) :
    (next sets step m).Holds (settle settled step m) := by
  cases step with
  | add n f => exact relate_update h ((h n).add f) m
  | remove n id => exact relate_update h ((h n).retain _) m
  | removeAt n id stage => exact relate_update h ((h n).retain _) m
  | merge n other => exact relate_update h ((h n).merge (h other)) m
  | exclude n other => exact relate_update h ((h n).exclude (h other)) m
  | filter n keep => exact relate_update h ((h n).retain keep) m
  | clear n => exact relate_update h LazyFeatureSet.holds_empty m
  | read n | names n | stagesOf n id => exact holds_update_read h (h n).read_snd m
  | same n other =>
      exact holds_update_read (holds_update_read h (h other).read_snd) (h n).read_snd m

end Standing

/-- After any steps, sets stand for the settled ones, whether or not they know their order. -/
theorem holds_run (steps : List SetStep) : ∀ n, (run steps n).Holds (settled steps n) := by
  refine List.foldl_rel (r := fun (sets : Nat → LazyFeatureSet) (settled : Nat → FeatureSet) =>
    ∀ n, (sets n).Holds (settled n)) (fun _ => LazyFeatureSet.holds_empty) ?_
  intro step _ sets settled h
  exact holds_next h step

/-! ### What is in the sets -/

variable {typeOf : FeatureId → FeatureType}

/-- A step on settled sets is the same step on their contents. -/
theorem consists_settle {settled : Nat → FeatureSet} {contents : Nat → Set Feature}
    (h : ∀ n, (settled n).Consists typeOf (contents n)) {step : SetStep}
    (htype : ∀ n f, add n f = step → f.type = typeOf f.type.id) (m : Nat) :
    (settle settled step m).Consists typeOf (change contents step m) := by
  cases step with
  | add n f => exact relate_update h ((h n).insert (htype n f rfl)) m
  | remove n id => exact relate_update h ((h n).filter fun _ => bne_iff_ne) m
  | removeAt n id stage => exact relate_update h ((h n).filter fun _ => bne_iff_ne) m
  | merge n other => exact relate_update h ((h n).merge (h other)) m
  | exclude n other => exact relate_update h ((h n).exclude (h other)) m
  | filter n keep => exact relate_update h ((h n).filter fun _ => Iff.rfl) m
  | clear n => exact relate_update h .empty m
  | read | names | stagesOf | same => exact h m

/-- Settled sets have the contents, if the steps use each number for one type. -/
theorem consists_settled {steps : List SetStep} (htypes : Types typeOf steps) :
    ∀ n, (settled steps n).Consists typeOf (contents steps n) := by
  refine List.foldl_rel (r := fun (settled : Nat → FeatureSet) (contents : Nat → Set Feature) =>
    ∀ n, (settled n).Consists typeOf (contents n)) (fun _ => .empty) ?_
  intro step hmem settled contents h
  exact consists_settle h fun n f hstep => htypes n f (hstep ▸ hmem)

/-! ### What is read -/

/-- The list has exactly some features, each once, in pipeline order. -/
structure Lists (l : List Feature) (contents : Set Feature) : Prop where
  mem : ∀ f, f ∈ l ↔ f ∈ contents
  nodup : l.Nodup
  before : l.Pairwise Feature.Before

theorem lists_entries {t : FeatureSet} {c : Set Feature} (h : t.Consists typeOf c) :
    Lists t.entries c where
  mem := h.mem
  nodup := t.nodup_entries
  before := t.ascending.imp Feature.key_lt_iff.mp

/-- Settled sets of equal contents are equal, whatever steps came before. -/
theorem settled_eq_of_contents_eq {typeOf' : FeatureId → FeatureType} {steps steps' : List SetStep}
    {n m : Nat} (htypes : Types typeOf steps) (htypes' : Types typeOf' steps')
    (h : contents steps' m = contents steps n) : settled steps' m = settled steps n :=
  FeatureSet.eq_of_mem_iff fun f => by
    rw [(consists_settled htypes' m).mem, (consists_settled htypes n).mem, h]

/-- Whatever changes and looks came before, a look at a set finds exactly its contents, in pipeline
order.  So sets of equal contents look the same. -/
theorem reads_contents {steps : List SetStep} (htypes : Types typeOf steps) (n : Nat) :
    Lists (run steps n).read.1 (contents steps n) ∧
      (run steps n).names.1 = (run steps n).read.1.map Feature.name ∧
      (∀ id, (∀ stage, stage ∈ ((run steps n).stagesOf id).1 ↔
          ∃ f ∈ contents steps n, f.ident = (id, stage)) ∧
        ((run steps n).stagesOf id).1.Pairwise fun a b =>
          Feature.stageRank a < Feature.stageRank b) ∧
      (∀ other, ((run steps n).same (run steps other)).1 = true ↔
        contents steps n = contents steps other ∧
          ∀ f ∈ contents steps n, f.type.order.isNaN = false) ∧
      ∀ typeOf' steps' m, Types typeOf' steps' → contents steps' m = contents steps n →
        (run steps' m).read.1 = (run steps n).read.1 ∧
          (run steps' m).names.1 = (run steps n).names.1 ∧
          ∀ id, ((run steps' m).stagesOf id).1 = ((run steps n).stagesOf id).1 := by
  have hholds := holds_run steps n
  have hconsists := consists_settled htypes n
  refine ⟨?entries, rfl, fun id => ?stages, fun other => ?same, ?canonical⟩
  case entries => exact hholds.read_fst ▸ lists_entries hconsists
  case stages =>
    rw [hholds.stagesOf_fst]
    exact ⟨fun _ => hconsists.mem_stagesOf, hconsists.pairwise_stagesOf id⟩
  case same =>
    rw [hholds.same_fst (holds_run steps other)]
    exact hconsists.same_iff (consists_settled htypes other)
  case canonical =>
    intro typeOf' steps' m htypes' hcontents
    have hholds' := holds_run steps' m
    rw [settled_eq_of_contents_eq htypes htypes' hcontents] at hholds'
    exact ⟨hholds'.read_fst.trans hholds.read_fst.symm,
      hholds'.names_fst.trans hholds.names_fst.symm,
      fun id => (hholds'.stagesOf_fst id).trans (hholds.stagesOf_fst id).symm⟩

/-- Sets that are looked at on the way, and that come to have the same features in another order. -/
theorem reads_contents_of_fog :
    let fog : Feature := ⟨.fog, none⟩
    let normal (stage : Nat) : Feature := ⟨.normalMap, some stage⟩
    let typeOf (id : FeatureId) : FeatureType := if id = 16 then .fog else .normalMap
    let steps : List SetStep :=
      [add 0 fog, read 0, add 0 (normal 2), names 0, add 0 (normal 0),
        add 1 (normal 0), add 1 (normal 1), add 1 fog, read 1, removeAt 1 7 (some 1),
        add 1 (normal 2)]
    Types typeOf steps ∧ contents steps 0 = {normal 0, normal 2, fog} ∧
      contents steps 1 = contents steps 0 ∧
      Lists (run steps 0).read.1 {normal 0, normal 2, fog} ∧
      (run steps 1).names.1 = (run steps 0).names.1 ∧
      ((run steps 0).same (run steps 1)).1 = true := by
  intro fog normal typeOf steps
  have htypes : Types typeOf steps := by
    intro n f h
    have hone : f = fog ∨ ∃ stage, f = normal stage := by
      simp only [steps, List.mem_cons, List.not_mem_nil, or_false, add.injEq, reduceCtorEq,
        false_or] at h
      grind
    obtain rfl | ⟨stage, rfl⟩ := hone <;> rfl
  have hfirst : contents steps 0 = {normal 0, normal 2, fog} := by
    ext f
    simp [steps, contents, change]
  have hsecond : contents steps 1 = contents steps 0 := by
    have hfog : fog.ident ≠ (7, some 1) := by decide
    have hzero : (normal 0).ident ≠ (7, some 1) := by decide
    rw [hfirst]
    ext f
    simp only [steps, contents, change, List.foldl_cons, List.foldl_nil, Function.update_self,
      Function.update_of_ne Nat.one_ne_zero, Set.mem_insert_iff, Set.mem_ofPred_eq,
      Set.mem_empty_iff_false, Set.mem_singleton_iff, or_false, ne_eq]
    constructor
    · rintro (rfl | ⟨rfl | rfl | rfl, hstay⟩)
      · exact .inr (.inl rfl)
      · exact .inr (.inr rfl)
      · exact absurd rfl hstay
      · exact .inl rfl
    · rintro (rfl | rfl | rfl)
      · exact .inr ⟨.inr (.inr rfl), hzero⟩
      · exact .inl rfl
      · exact .inr ⟨.inl rfl, hfog⟩
  have hnumbers : ∀ f ∈ contents steps 0, f.type.order.isNaN = false := by
    rw [hfirst]
    rintro f (rfl | rfl | rfl) <;> decide +kernel
  obtain ⟨hread, -, -, hsame, hcanonical⟩ := reads_contents htypes 0
  exact ⟨htypes, hfirst, hsecond, hfirst ▸ hread, (hcanonical typeOf steps 1 htypes hsecond).2.1,
    (hsame 1).mpr ⟨hsecond.symm, hnumbers⟩⟩

end SetStep

end MaterialPipeline
