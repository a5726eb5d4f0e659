import MaterialPipeline.Feature.Lazy
import MaterialPipeline.Proofs.Feature.Union

/-!
# Proofs — Feature — Lazy

A set that is sorted when it is looked at stands for one that is always sorted
(`LazyFeatureSet.Holds`): it has the same entries, and the order that it knows, if any, is theirs.

* `Feature.Before`: the pipeline order, spelled out.
* `Ascending.mergeSort`: sorting puts things into pipeline order.
* `LazyFeatureSet.Holds.inOrder_eq`: sorting gives the entries of the set that is stood for.
* `LazyFeatureSet.Holds.read_fst`, `LazyFeatureSet.Holds.same_fst`: so does looking, whether or not
the order was known.
* `LazyFeatureSet.Holds.add`, `LazyFeatureSet.Holds.retain`, `LazyFeatureSet.Holds.merge`,
`LazyFeatureSet.Holds.exclude`: a change on one side is the same change on the other.
-/

namespace MaterialPipeline

/-! ### The pipeline order -/

theorem FeatureGroup.rank_injective {a b : FeatureGroup} (h : a.rank = b.rank) : a = b := by
  cases a <;> cases b <;> first | rfl | cases h

namespace Feature

variable {f g : Feature}

/-- By group, then by the order in the group, then by number, and then by stage. -/
inductive Before (f g : Feature) : Prop
  | group (h : f.type.group.rank < g.type.group.rank)
  | order (hgroup : f.type.group = g.type.group)
      (h : f.type.order.totalKey < g.type.order.totalKey)
  | id (hgroup : f.type.group = g.type.group)
      (horder : f.type.order.totalKey = g.type.order.totalKey) (h : f.type.id < g.type.id)
  | stage (hgroup : f.type.group = g.type.group)
      (horder : f.type.order.totalKey = g.type.order.totalKey) (hid : f.type.id = g.type.id)
      (h : stageRank f.stage < stageRank g.stage)

theorem key_lt_iff : f.key < g.key ↔ f.Before g := by
  simp only [key, List.cons_lt_cons_iff, List.not_lt_nil, Int.ofNat_lt, Int.natCast_inj, and_false,
    or_false]
  constructor
  · rintro (h | ⟨hgroup, h | ⟨horder, h | ⟨hid, h⟩⟩⟩)
    · exact .group h
    · exact .order (FeatureGroup.rank_injective hgroup) h
    · exact .id (FeatureGroup.rank_injective hgroup) horder h
    · exact .stage (FeatureGroup.rank_injective hgroup) horder hid h
  · rintro (h | ⟨hgroup, h⟩ | ⟨hgroup, horder, h⟩ | ⟨hgroup, horder, hid, h⟩)
    · exact .inl h
    · exact .inr ⟨congrArg _ hgroup, .inl h⟩
    · exact .inr ⟨congrArg _ hgroup, .inr ⟨horder, .inl h⟩⟩
    · exact .inr ⟨congrArg _ hgroup, .inr ⟨horder, .inr ⟨hid, h⟩⟩⟩

/-- The stage decides between entries of one place. -/
theorem key_lt_iff_type : f.key < g.key ↔
    f.type.key < g.type.key ∨ f.type.key = g.type.key ∧ stageRank f.stage < stageRank g.stage := by
  simp only [key, FeatureType.key, List.cons_lt_cons_iff, List.not_lt_nil, Int.ofNat_lt,
    Int.natCast_inj, and_false, or_false, List.cons.injEq, and_true]
  tauto

/-- The comparison finds what does not come after. -/
theorem isLE_pipelineCompare : (f.pipelineCompare g).isLE = true ↔ ¬ g.key < f.key := by
  rw [key_lt_iff_type, pipelineCompare, FeatureType.pipelineCompare]
  split
  next hlt =>
    refine iff_of_true rfl ?_
    rintro (hgt | ⟨heq, -⟩)
    · exact List.lt_irrefl _ (List.lt_trans hlt hgt)
    · exact List.lt_irrefl _ (heq ▸ hlt)
  next hnlt =>
    split
    next hgt => exact iff_of_false Bool.false_ne_true fun h => h (.inl hgt)
    next hngt =>
      have heq : g.type.key = f.type.key :=
        List.le_antisymm (List.not_lt.mp hnlt) (List.not_lt.mp hngt)
      rw [or_iff_right hngt, and_iff_right heq, Nat.not_lt]
      exact Nat.isLE_compare

end Feature

/-- Sorting by a comparison that finds what does not come after gives a strictly ascending list, if
no two elements have one key. -/
theorem Ascending.mergeSort {α : Type} {key : α → List Int} {compare : α → α → Ordering}
    (hcompare : ∀ a b, (compare a b).isLE = true ↔ ¬ key b < key a) {l : List α}
    (hne : l.Pairwise fun a b => key a ≠ key b) :
    Ascending key (l.mergeSort fun a b => (compare a b).isLE) := by
  have hle : (l.mergeSort fun a b => (compare a b).isLE).Pairwise
      fun a b => (compare a b).isLE = true := by
    refine List.pairwise_mergeSort (fun a b c hab hbc => ?_) (fun a b => ?_) l
    · rw [hcompare, List.not_lt] at hab hbc ⊢
      exact List.le_trans hab hbc
    · rw [Bool.or_eq_true, hcompare, hcompare, ← not_and_or]
      exact fun h => List.lt_irrefl _ (List.lt_trans h.1 h.2)
  have hne := (List.mergeSort_perm l fun a b => (compare a b).isLE).symm.pairwise hne Ne.symm
  exact (hle.and hne).imp fun ⟨hle, hne⟩ =>
    lt_of_not_lt_of_ne ((hcompare _ _).mp hle) hne.symm

namespace LazyFeatureSet

variable {s a b : LazyFeatureSet} {t u v : FeatureSet} {f g : Feature} {id : FeatureId}
  {stage : Option Nat} {l : List Feature}

/-- Entries in pipeline order, as looking finds them. -/
def inOrder (l : List Feature) : List Feature :=
  l.mergeSort fun a b => (a.pipelineCompare b).isLE

/-- Sorted entries, no two of which are of one type and one stage, ascend strictly. -/
theorem ascending_inOrder (h : l.Pairwise fun a b => a.ident ≠ b.ident) :
    Ascending Feature.key (inOrder l) := by
  have hcompare (a b : Feature) : (a.pipelineCompare b).isLE = true ↔ ¬ b.key < a.key :=
    Feature.isLE_pipelineCompare
  exact Ascending.mergeSort hcompare (h.imp fun hne e => hne (Feature.ident_eq_of_key_eq e))

/-! ### What a set stands for -/

/-- The set stands for one that is in pipeline order. -/
structure Holds (s : LazyFeatureSet) (t : FeatureSet) : Prop where
  mem : ∀ f, f ∈ s.features ↔ f ∈ t.entries
  distinct : s.features.Pairwise fun a b => a.ident ≠ b.ident
  sorted : ∀ l, s.sorted = some l → l = t.entries

theorem holds_empty : empty.Holds .empty where
  mem _ := Iff.rfl
  distinct := List.Pairwise.nil
  sorted _ h := nomatch h

namespace Holds

/-- Sorting gives the entries of the set that is stood for. -/
theorem inOrder_eq (h : s.Holds t) : inOrder s.features = t.entries := by
  have hperm := List.mergeSort_perm s.features fun a b => (a.pipelineCompare b).isLE
  let sorted : FeatureSet :=
    { entries := inOrder s.features
      ascending := ascending_inOrder h.distinct
      distinct := hperm.symm.pairwise h.distinct Ne.symm }
  have heq : sorted = t := FeatureSet.eq_of_mem_iff fun f => List.mem_mergeSort.trans (h.mem f)
  exact congrArg FeatureSet.entries heq

/-! ### Looking -/

theorem hasAt (h : s.Holds t) (id : FeatureId) (stage : Option Nat) :
    s.hasAt id stage = t.hasAt id stage := by
  rw [Bool.eq_iff_iff]
  simp only [LazyFeatureSet.hasAt, FeatureSet.hasAt, List.any_eq_true, h.mem]

theorem has (h : s.Holds t) (id : FeatureId) : s.has id = t.has id := by
  rw [Bool.eq_iff_iff]
  simp only [LazyFeatureSet.has, FeatureSet.has, List.any_eq_true, h.mem]

/-- Looking gives the entries, whether or not their order was known. -/
theorem read_fst (h : s.Holds t) : s.read.1 = t.entries := by
  unfold read
  split
  next hsorted => exact h.sorted _ hsorted
  next => exact h.inOrder_eq

/-- Looking changes what is known, and nothing else. -/
theorem read_snd (h : s.Holds t) : s.read.2.Holds t := by
  unfold read
  split
  · exact h
  · exact ⟨h.mem, h.distinct, fun _ e => Option.some.inj e ▸ h.inOrder_eq⟩

theorem names_fst (h : s.Holds t) : s.names.1 = t.names :=
  congrArg (List.map Feature.name) h.read_fst

theorem stagesOf_fst (h : s.Holds t) (id : FeatureId) : (s.stagesOf id).1 = t.stagesOf id := by
  rw [stagesOf, h.read_fst, FeatureSet.stagesOf]

theorem same_fst (ha : a.Holds t) (hb : b.Holds u) : (a.same b).1 = t.same u := by
  rw [same, ha.read_fst, hb.read_fst, FeatureSet.same, FeatureSet.size, FeatureSet.size]

/-! ### Changing -/

theorem isEmpty (h : s.Holds t) : s.isEmpty = t.isEmpty := by
  rw [Bool.eq_iff_iff]
  simp only [LazyFeatureSet.isEmpty, FeatureSet.isEmpty, List.isEmpty_iff,
    List.eq_nil_iff_forall_not_mem, h.mem]

theorem add (h : s.Holds t) (f : Feature) : (s.add f).2.Holds (t.insert f) := by
  unfold LazyFeatureSet.add
  rw [h.hasAt]
  cases hat : t.hasAt f.type.id f.stage with
  | true =>
      rw [show t.insert f = t from dif_pos hat]
      exact h
  | false =>
      refine ⟨fun g => ?_, ?_, fun _ e => nomatch e⟩
      · rw [if_neg Bool.false_ne_true, FeatureSet.mem_insert_iff, and_iff_left hat, ← h.mem,
          List.mem_append, List.mem_singleton]
      · refine List.pairwise_append.mpr ⟨h.distinct, List.pairwise_singleton _ _, ?_⟩
        intro g hg _ hf e
        obtain rfl := List.mem_singleton.mp hf
        have hpresent := FeatureSet.hasAt_iff.mpr ⟨g, (h.mem g).mp hg, e⟩
        exact absurd hpresent (Bool.eq_false_iff.mp hat)

/-- The order stays known if nothing goes. -/
theorem retain (h : s.Holds t) (keep : Feature → Bool) :
    (s.retain keep).2.Holds (t.filter keep) := by
  refine ⟨fun f => ?_, h.distinct.filter keep, fun l hl => ?_⟩
  · rw [FeatureSet.filter, List.mem_filter, ← h.mem]
    exact List.mem_filter
  · have hknown : (if ((s.features.filter keep).length != s.features.length) = true then none
        else s.sorted) = some l := hl
    split at hknown
    · cases hknown
    next hsame =>
      have hlength : (s.features.filter keep).length = s.features.length := by simpa using hsame
      have hall := List.length_filter_eq_length_iff.mp hlength
      rw [h.sorted l hknown]
      exact (List.filter_eq_self.mpr fun f hf => hall f ((h.mem f).mpr hf)).symm

/-- A union takes the entries of the other set in as they came. -/
theorem merge (ha : a.Holds t) (hb : b.Holds u) : (a.merge b).Holds (t.merge u) := by
  have hfold : (a.merge b).Holds (b.features.foldl FeatureSet.insert t) :=
    List.foldl_rel ha fun f _ _ _ h => h.add f
  have hunion : b.features.foldl FeatureSet.insert t = t.merge u := by
    refine FeatureSet.eq_of_mem_iff fun f => ?_
    rw [FeatureSet.mem_foldl_insert_iff hb.distinct, FeatureSet.mem_merge_iff, hb.mem]
  exact hunion ▸ hfold

theorem exclude (ha : a.Holds t) (hb : b.Holds u) : (a.exclude b).Holds (t.exclude u) := by
  have hretain := ha.retain fun f => !b.has f.type.id
  simp only [hb.has] at hretain
  unfold LazyFeatureSet.exclude
  rw [hb.isEmpty]
  split
  next hempty =>
    have hkeep : t.exclude u = t := FeatureSet.ext <| List.filter_eq_self.mpr fun f _ => by
      rw [FeatureSet.has, FeatureSet.isEmpty_iff.mp hempty]
      rfl
    exact hkeep.symm ▸ ha
  next =>
    simp only [hb.has]
    exact hretain

end Holds

end LazyFeatureSet

end MaterialPipeline
