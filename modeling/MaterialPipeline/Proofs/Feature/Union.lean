import MaterialPipeline.Feature.Set
import Mathlib.Algebra.GroupWithZero.Nat
import Mathlib.Data.List.Nodup

/-!
# Proofs — Feature — Union

What the entries of a union are.  An entry is known by the number of its type and by its stage;
`hasAt` is the view that the lemmas below speak of.

* `hasAt_mergeAll`: a union has an entry exactly when one of the sets has it.
* `mem_mergeAll`: every entry of a union comes from one of the sets, as it stood there.
* `isEmpty_mergeAll`: a union is empty exactly when every set is.
* `size_mergeAll_le`: a union is no larger than the sets together.
* `Ascending.eq_of_mem_iff`, `eq_of_mem_iff`: two sets with the same entries are equal.
* `mergeAll_flatten`: a union of unions is a union.
-/

namespace MaterialPipeline

/-- Lists that ascend strictly are equal if they have the same elements. -/
theorem Ascending.eq_of_mem_iff {α : Type} {key : α → List Int} {l l' : List α}
    (h : Ascending key l) (h' : Ascending key l') (hmem : ∀ a, a ∈ l ↔ a ∈ l') : l = l' := by
  have hnodup {l : List α} (h : Ascending key l) : l.Nodup := by
    refine List.nodup_iff_pairwise_ne.mpr (List.Pairwise.imp (fun {a b} hlt => ?_) h)
    exact fun e => List.lt_irrefl _ (e ▸ hlt)
  have hperm : l.Perm l' := (List.perm_ext_iff_of_nodup (hnodup h) (hnodup h')).mpr hmem
  refine hperm.eq_of_pairwise (fun a b _ _ hab hba => ?_) h h'
  exact absurd (List.lt_trans hab hba) (List.lt_irrefl _)

namespace FeatureSet

variable {s a b : FeatureSet} {f g : Feature} {id : FeatureId} {stage : Option Nat}

/-! ### Looking -/

theorem hasAt_iff : s.hasAt id stage = true ↔ ∃ f ∈ s.entries, f.ident = (id, stage) := by
  simp only [hasAt, List.any_eq_true, beq_iff_eq]

theorem hasAt_of_mem (h : f ∈ s.entries) : s.hasAt f.type.id f.stage = true :=
  hasAt_iff.mpr ⟨f, h, rfl⟩

theorem has_iff : s.has id = true ↔ ∃ stage, s.hasAt id stage = true := by
  simp only [has, List.any_eq_true, beq_iff_eq, hasAt_iff]
  constructor
  · rintro ⟨f, hf, rfl⟩
    exact ⟨f.stage, f, hf, rfl⟩
  · rintro ⟨stage, f, hf, e⟩
    exact ⟨f, hf, congrArg Prod.fst e⟩

/-- The stages of a type are those that `hasAt` finds. -/
theorem mem_stagesOf : stage ∈ s.stagesOf id ↔ s.hasAt id stage = true := by
  simp only [stagesOf, List.mem_map, List.mem_filter, beq_iff_eq, hasAt_iff]
  constructor
  · rintro ⟨f, ⟨hf, rfl⟩, rfl⟩
    exact ⟨f, hf, rfl⟩
  · rintro ⟨f, hf, e⟩
    obtain ⟨rfl, rfl⟩ := Prod.mk.inj e
    exact ⟨f, ⟨hf, rfl⟩, rfl⟩

/-- No stage of a type comes twice. -/
theorem nodup_stagesOf (s : FeatureSet) (id : FeatureId) : (s.stagesOf id).Nodup := by
  rw [stagesOf, List.nodup_iff_pairwise_ne, List.pairwise_map, List.pairwise_filter]
  refine s.distinct.imp fun hne ha hb e => hne ?_
  simp only [beq_iff_eq] at ha hb
  exact Prod.ext (ha.trans hb.symm) e

theorem isEmpty_iff : s.isEmpty = true ↔ s.entries = [] :=
  List.isEmpty_iff

/-! ### Adding one entry -/

theorem mem_of_mem_insert (h : g ∈ (s.insert f).entries) : g = f ∨ g ∈ s.entries := by
  unfold insert at h
  split at h
  · exact .inr h
  · exact mem_place.mp h

theorem hasAt_insert :
    (s.insert f).hasAt id stage = true ↔ s.hasAt id stage = true ∨ f.ident = (id, stage) := by
  unfold insert
  split
  next present =>
    obtain ⟨g, hg, e⟩ := List.any_eq_true.mp present
    simp only [beq_iff_eq] at e
    exact ⟨.inl, fun h => h.elim (fun h => h) fun e' => hasAt_iff.mpr ⟨g, hg, e.trans e'⟩⟩
  next =>
    simp only [hasAt_iff, mem_place]
    constructor
    · rintro ⟨g, rfl | hg, e⟩
      · exact .inr e
      · exact .inl ⟨g, hg, e⟩
    · rintro (⟨g, hg, e⟩ | e)
      · exact ⟨g, .inr hg, e⟩
      · exact ⟨f, .inl rfl, e⟩

theorem length_place {α : Type} (key : α → List Int) (x : α) (l : List α) :
    (place key x l).length = l.length + 1 := by
  induction l with
  | nil => rfl
  | cons y rest ih =>
      simp only [place]
      split
      · rfl
      · rw [List.length_cons, ih, List.length_cons]

theorem size_insert_le : (s.insert f).size ≤ s.size + 1 := by
  unfold insert size
  split
  · exact Nat.le_succ _
  · exact Nat.le_of_eq (length_place _ _ _)

/-! ### Adding entries in turn

Both a union and a list of features are taken in one entry after another. -/

theorem mem_of_mem_foldl_insert : ∀ {l : List Feature} {s : FeatureSet},
    f ∈ (l.foldl insert s).entries → f ∈ s.entries ∨ f ∈ l
  | [], _, h => .inl h
  | g :: l, s, h => by
      rcases mem_of_mem_foldl_insert (l := l) h with h | h
      · exact (mem_of_mem_insert h).elim (fun e => .inr (e ▸ List.mem_cons_self)) .inl
      · exact .inr (List.mem_cons_of_mem g h)

theorem hasAt_foldl_insert : ∀ {l : List Feature} {s : FeatureSet},
    (l.foldl insert s).hasAt id stage = true ↔
      s.hasAt id stage = true ∨ ∃ f ∈ l, f.ident = (id, stage)
  | [], s => by simp
  | g :: l, s => by
      simp only [List.foldl_cons, hasAt_foldl_insert, hasAt_insert, or_assoc, List.mem_cons,
        or_and_right, exists_or, exists_eq_left]

theorem size_foldl_insert_le : ∀ {l : List Feature} {s : FeatureSet},
    (l.foldl insert s).size ≤ s.size + l.length
  | [], s => Nat.le_refl _
  | g :: l, s => by
      have h₁ := size_foldl_insert_le (l := l) (s := s.insert g)
      have h₂ := size_insert_le (s := s) (f := g)
      rw [List.foldl_cons, List.length_cons]
      omega

/-! ### Unions -/

theorem mem_of_mem_merge (h : f ∈ (a.merge b).entries) : f ∈ a.entries ∨ f ∈ b.entries :=
  mem_of_mem_foldl_insert h

theorem hasAt_merge : (a.merge b).hasAt id stage = true ↔
    a.hasAt id stage = true ∨ b.hasAt id stage = true := by
  rw [merge, hasAt_foldl_insert, ← hasAt_iff]

theorem size_merge_le : (a.merge b).size ≤ a.size + b.size :=
  size_foldl_insert_le

theorem hasAt_foldl_merge : ∀ {sets : List FeatureSet} {s : FeatureSet},
    (sets.foldl merge s).hasAt id stage = true ↔
      s.hasAt id stage = true ∨ ∃ a ∈ sets, a.hasAt id stage = true
  | [], s => by simp
  | b :: sets, s => by
      simp only [List.foldl_cons, hasAt_foldl_merge, hasAt_merge, or_assoc, List.mem_cons,
        or_and_right, exists_or, exists_eq_left]

/-- A union has an entry exactly when one of the sets has it. -/
theorem hasAt_mergeAll {sets : List FeatureSet} : (mergeAll sets).hasAt id stage = true ↔
    ∃ a ∈ sets, a.hasAt id stage = true := by
  rw [mergeAll, hasAt_foldl_merge]
  simp [empty, hasAt]

theorem mem_foldl_merge : ∀ (sets : List FeatureSet) {s : FeatureSet},
    f ∈ (sets.foldl merge s).entries → f ∈ s.entries ∨ ∃ a ∈ sets, f ∈ a.entries
  | [], _, h => .inl h
  | b :: sets, s, h => by
      rcases mem_foldl_merge sets h with h | ⟨a, ha, h⟩
      · exact (mem_of_mem_merge h).imp_right fun h => ⟨b, List.mem_cons_self, h⟩
      · exact .inr ⟨a, List.mem_cons_of_mem b ha, h⟩

/-- Every entry of a union comes from one of the sets. -/
theorem mem_mergeAll {sets : List FeatureSet} (h : f ∈ (mergeAll sets).entries) :
    ∃ a ∈ sets, f ∈ a.entries :=
  (mem_foldl_merge sets h).resolve_left List.not_mem_nil

/-- A union is empty exactly when every set is. -/
theorem isEmpty_mergeAll {sets : List FeatureSet} :
    (mergeAll sets).isEmpty = true ↔ ∀ a ∈ sets, a.isEmpty = true := by
  simp only [isEmpty_iff, List.eq_nil_iff_forall_not_mem]
  constructor
  · intro h a ha f hf
    obtain ⟨g, hg, -⟩ := hasAt_iff.mp (hasAt_mergeAll.mpr ⟨a, ha, hasAt_of_mem hf⟩)
    exact h g hg
  · intro h f hf
    obtain ⟨a, ha, hf⟩ := mem_mergeAll hf
    exact h a ha f hf

theorem size_foldl_merge_le : ∀ (sets : List FeatureSet) (s : FeatureSet),
    (sets.foldl merge s).size ≤ s.size + (sets.map size).sum
  | [], s => Nat.le_refl _
  | b :: sets, s => by
      have h₁ := size_foldl_merge_le sets (s.merge b)
      have h₂ := size_merge_le (a := s) (b := b)
      rw [List.foldl_cons, List.map_cons, List.sum_cons]
      omega

/-- A union is no larger than the sets together. -/
theorem size_mergeAll_le (sets : List FeatureSet) :
    (mergeAll sets).size ≤ (sets.map size).sum := by
  have h := size_foldl_merge_le sets empty
  rwa [show empty.size = 0 from rfl, Nat.zero_add] at h

/-! ### Equality -/

/-- An entry is known by its type's number and its stage. -/
theorem eq_of_ident_eq (hf : f ∈ s.entries) (hg : g ∈ s.entries) (h : f.ident = g.ident) :
    f = g := by
  have hnodup : (s.entries.map (·.ident)).Nodup := List.pairwise_map.mpr s.distinct
  exact List.inj_on_of_nodup_map hnodup hf hg h

/-- No entry comes twice. -/
theorem nodup_entries (s : FeatureSet) : s.entries.Nodup :=
  List.nodup_iff_pairwise_ne.mpr (s.distinct.imp fun hne e => hne (congrArg Feature.ident e))

/-- Two sets with the same entries are equal, as both are in pipeline order. -/
theorem eq_of_mem_iff (h : ∀ f, f ∈ a.entries ↔ f ∈ b.entries) : a = b :=
  ext (a.ascending.eq_of_mem_iff b.ascending h)

/-- The union of one set is the set. -/
theorem mergeAll_singleton (s : FeatureSet) : mergeAll [s] = s := by
  refine eq_of_mem_iff fun f => ⟨fun hf => ?_, fun hf => ?_⟩
  · obtain ⟨a, ha, hf⟩ := mem_mergeAll hf
    exact List.mem_singleton.mp ha ▸ hf
  · obtain ⟨g, hg, e⟩ := hasAt_iff.mp
      (hasAt_mergeAll.mpr ⟨s, List.mem_singleton_self s, hasAt_of_mem hf⟩)
    -- What the union has in the place of `f` comes from the set too, and so is `f`.
    obtain ⟨a, ha, hgs⟩ := mem_mergeAll hg
    rw [List.mem_singleton.mp ha] at hgs
    exact eq_of_ident_eq hgs hf e ▸ hg

/-! ### Unions of unions -/

theorem mem_insert_iff :
    g ∈ (s.insert f).entries ↔ g ∈ s.entries ∨ g = f ∧ s.hasAt f.type.id f.stage = false := by
  unfold insert hasAt
  split
  next present =>
    refine ⟨.inl, fun h => h.elim id fun ⟨_, habsent⟩ => ?_⟩
    exact absurd present (Bool.eq_false_iff.mp habsent)
  next absent =>
    rw [mem_place, or_comm]
    exact or_congr_right (iff_self_and.mpr fun _ => Bool.eq_false_iff.mpr absent)

/-- Entries that are taken in one after another stay as they are, unless the set had them before. -/
theorem mem_foldl_insert_iff : ∀ {l : List Feature} {s : FeatureSet},
    l.Pairwise (fun a b => a.ident ≠ b.ident) → (g ∈ (l.foldl insert s).entries ↔
      g ∈ s.entries ∨ g ∈ l ∧ s.hasAt g.type.id g.stage = false)
  | [], s, _ => by simp
  | f :: l, s, hl => by
      obtain ⟨hf, hl⟩ := List.pairwise_cons.mp hl
      rw [List.foldl_cons, mem_foldl_insert_iff hl, mem_insert_iff, List.mem_cons, or_and_right,
        or_assoc]
      refine or_congr_right ?_
      constructor
      · rintro (⟨rfl, habsent⟩ | ⟨hg, habsent⟩)
        · exact .inl ⟨rfl, habsent⟩
        · refine .inr ⟨hg, Bool.eq_false_iff.mpr fun hat => ?_⟩
          exact Bool.eq_false_iff.mp habsent (hasAt_insert.mpr (.inl hat))
      · rintro (⟨rfl, habsent⟩ | ⟨hg, habsent⟩)
        · exact .inl ⟨rfl, habsent⟩
        · refine .inr ⟨hg, Bool.eq_false_iff.mpr fun hat => ?_⟩
          rcases hasAt_insert.mp hat with hat | hident
          · exact Bool.eq_false_iff.mp habsent hat
          · exact hf g hg hident

theorem mem_merge_iff : f ∈ (a.merge b).entries ↔
    f ∈ a.entries ∨ f ∈ b.entries ∧ a.hasAt f.type.id f.stage = false :=
  mem_foldl_insert_iff b.distinct

theorem merge_assoc (a b c : FeatureSet) : (a.merge b).merge c = a.merge (b.merge c) := by
  have hmerge (id : FeatureId) (stage : Option Nat) : (a.merge b).hasAt id stage = false ↔
      a.hasAt id stage = false ∧ b.hasAt id stage = false := by
    simp only [Bool.eq_false_iff, ne_eq, hasAt_merge, not_or]
  refine eq_of_mem_iff fun f => ?_
  simp only [mem_merge_iff, hmerge]
  tauto

theorem empty_merge (a : FeatureSet) : empty.merge a = a := by
  refine eq_of_mem_iff fun f => ?_
  rw [mem_merge_iff]
  exact ⟨fun h => h.elim (fun hf => absurd hf List.not_mem_nil) And.left, fun h => .inr ⟨h, rfl⟩⟩

theorem foldl_merge_eq (s : FeatureSet) (sets : List FeatureSet) :
    sets.foldl merge s = s.merge (mergeAll sets) := by
  induction sets generalizing s with
  | nil => exact (eq_of_mem_iff fun f => by simp [mem_merge_iff, mergeAll, empty]).symm
  | cons a rest ih =>
      have hrest : mergeAll (a :: rest) = a.merge (mergeAll rest) := by
        rw [mergeAll, List.foldl_cons, ih, empty_merge]
      rw [List.foldl_cons, ih, hrest, merge_assoc]

theorem mergeAll_cons (a : FeatureSet) (sets : List FeatureSet) :
    mergeAll (a :: sets) = a.merge (mergeAll sets) := by
  rw [mergeAll, List.foldl_cons, foldl_merge_eq, empty_merge]

theorem mergeAll_append (sets sets' : List FeatureSet) :
    mergeAll (sets ++ sets') = (mergeAll sets).merge (mergeAll sets') := by
  rw [mergeAll, List.foldl_append, foldl_merge_eq]
  rfl

/-- The union of unions is the union of all sets. -/
theorem mergeAll_flatten (sets : List (List FeatureSet)) :
    mergeAll (sets.map mergeAll) = mergeAll sets.flatten := by
  induction sets with
  | nil => rfl
  | cons a rest ih => rw [List.map_cons, mergeAll_cons, ih, List.flatten_cons, mergeAll_append]

end FeatureSet

end MaterialPipeline
