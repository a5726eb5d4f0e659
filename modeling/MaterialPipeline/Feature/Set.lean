import MaterialPipeline.Feature.Order
import MaterialPipeline.Feature.Type

/-!
# Feature — Set

The features of one material stage or pass, in pipeline order.  Texture features serve a stage, and
carry its number; an entry is identified by the number of its type and that of its stage.

* `FeatureSet.insert`, `FeatureSet.filter`, `FeatureSet.merge`, `FeatureSet.exclude` — the algebra.
* The entries ascend strictly in the pipeline order whatever operations built the set, so two sets
  with the same entries are equal.
-/

namespace MaterialPipeline

/-- A feature type, and the stage that it serves. -/
structure Feature where
  type : FeatureType
  stage : Option Nat
  deriving DecidableEq, Repr, Inhabited

namespace Feature

/-- The place of a stage among the stages: no stage comes first. -/
def stageRank : Option Nat → Nat
  | none => 0
  | some n => n + 1

/-- The place in the pipeline: that of the type, then that of the stage. -/
def key (f : Feature) : List Int :=
  [f.type.group.rank, f.type.order.totalKey, f.type.id, stageRank f.stage]

/-- What identifies an entry of a set. -/
def ident (f : Feature) : FeatureId × Option Nat :=
  (f.type.id, f.stage)

/-- The name of an entry. -/
def name (f : Feature) : String :=
  match f.stage with
  | some stage => s!"{f.type.name}[{stage}]"
  | none => f.type.name

/-- Whether two entries are equal as values. -/
def same (a b : Feature) : Bool :=
  a.type.same b.type && a.stage == b.stage

theorem stageRank_injective {a b : Option Nat} (h : stageRank a = stageRank b) : a = b := by
  cases a <;> cases b <;> simp_all [stageRank]

theorem ident_eq_of_key_eq {a b : Feature} (h : a.key = b.key) : a.ident = b.ident := by
  simp only [key, List.cons.injEq, Int.natCast_inj] at h
  exact Prod.ext h.2.2.1 (stageRank_injective h.2.2.2.1)

end Feature

/-- Features in pipeline order. -/
structure FeatureSet where
  entries : List Feature := []
  /-- The entries ascend in the pipeline order. -/
  ascending : Ascending Feature.key entries := by exact List.Pairwise.nil
  /-- No two entries are of one type and one stage. -/
  distinct : entries.Pairwise fun a b => a.ident ≠ b.ident := by exact List.Pairwise.nil

namespace FeatureSet

/-- The set without entries. -/
def empty : FeatureSet := {}

instance : Inhabited FeatureSet := ⟨empty⟩

theorem ext {a b : FeatureSet} (h : a.entries = b.entries) : a = b := by
  cases a; cases b; cases h; rfl

instance : DecidableEq FeatureSet := fun a b =>
  decidable_of_iff (a.entries = b.entries) ⟨ext, fun h => h ▸ rfl⟩

/-! ### Looking -/

/-- Whether an entry of the type numbered `id` is present. -/
def has (s : FeatureSet) (id : FeatureId) : Bool :=
  s.entries.any (·.type.id == id)

/-- Whether the entry of the type numbered `id` and of the stage is present. -/
def hasAt (s : FeatureSet) (id : FeatureId) (stage : Option Nat) : Bool :=
  s.entries.any (·.ident == (id, stage))

/-- The number of entries of the type numbered `id`. -/
def count (s : FeatureSet) (id : FeatureId) : Nat :=
  s.entries.countP (·.type.id == id)

/-- The number of entries. -/
def size (s : FeatureSet) : Nat :=
  s.entries.length

/-- Whether there is no entry. -/
def isEmpty (s : FeatureSet) : Bool :=
  s.entries.isEmpty

/-- The stages of the entries of the type numbered `id`, ascending. -/
def stagesOf (s : FeatureSet) (id : FeatureId) : List (Option Nat) :=
  (s.entries.filter (·.type.id == id)).map (·.stage)

/-- The names of the entries, in pipeline order. -/
def names (s : FeatureSet) : List String :=
  s.entries.map (·.name)

/-- Whether two sets have equal entries, as values. -/
def same (a b : FeatureSet) : Bool :=
  a.size == b.size && (a.entries.zip b.entries).all fun (x, y) => x.same y

/-! ### Changing -/

/-- The entries that satisfy `keep`. -/
def filter (s : FeatureSet) (keep : Feature → Bool) : FeatureSet where
  entries := s.entries.filter keep
  ascending := s.ascending.filter keep
  distinct := s.distinct.filter keep

/-- Adds an entry, unless the set has one of its type and stage. -/
def insert (s : FeatureSet) (f : Feature) : FeatureSet :=
  if h : s.entries.any (·.ident == f.ident) then s else
    have fresh : ∀ b ∈ s.entries, f.ident ≠ b.ident := fun b hb e =>
      h (List.any_eq_true.2 ⟨b, hb, by simp [e]⟩)
    { entries := place Feature.key f s.entries
      ascending := s.ascending.place fun b hb e => fresh b hb (Feature.ident_eq_of_key_eq e)
      distinct := pairwise_place (fun _ _ => Ne.symm) s.distinct fresh }

/-- Adds a feature for a stage. -/
def add (s : FeatureSet) (type : FeatureType) (stage : Option Nat) : FeatureSet :=
  s.insert ⟨type, stage⟩

/-- Takes out every entry of the type numbered `id`. -/
def remove (s : FeatureSet) (id : FeatureId) : FeatureSet :=
  s.filter (·.type.id != id)

/-- Takes out the entry of the type numbered `id` and of the stage. -/
def removeAt (s : FeatureSet) (id : FeatureId) (stage : Option Nat) : FeatureSet :=
  s.filter (·.ident != (id, stage))

/-- The union; where both have an entry, that of `a` stays. -/
def merge (a b : FeatureSet) : FeatureSet :=
  b.entries.foldl insert a

/-- Takes out every type that `b` has an entry of. -/
def exclude (a b : FeatureSet) : FeatureSet :=
  a.filter fun f => !b.has f.type.id

/-- The union of several sets. -/
def mergeAll (sets : List FeatureSet) : FeatureSet :=
  sets.foldl merge empty

/-- The set with these entries. -/
def ofList (features : List Feature) : FeatureSet :=
  features.foldl insert empty

end FeatureSet

end MaterialPipeline
