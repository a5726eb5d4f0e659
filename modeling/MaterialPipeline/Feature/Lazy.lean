import MaterialPipeline.Feature.Set

/-!
# Feature — Lazy

A set of features that is put into pipeline order when it is looked at.  Entries stay as they came;
the first look at the order after a change sorts them, and what it finds is kept until the next
change.

* `LazyFeatureSet.add`, `LazyFeatureSet.retain` — the changes that all others are made of; both say
whether they changed anything.
* `LazyFeatureSet.read` — the entries in pipeline order.
* `LazyFeatureSet.toSet` — the set with these entries.
-/

namespace MaterialPipeline

/-- The pipeline order, as a comparison: that of the types, and then that of the stages. -/
def Feature.pipelineCompare (a b : Feature) : Ordering :=
  (a.type.pipelineCompare b.type).then (compare (stageRank a.stage) (stageRank b.stage))

/-- Features as they came, and their order once it is known. -/
structure LazyFeatureSet where
  features : List Feature := []
  /-- The features in pipeline order, if they were looked at since the last change. -/
  sorted : Option (List Feature) := none
  deriving DecidableEq, Repr, Inhabited

namespace LazyFeatureSet

/-- The set without entries. -/
def empty : LazyFeatureSet := {}

/-- The set with these entries. -/
def toSet (s : LazyFeatureSet) : FeatureSet :=
  .ofList s.features

/-! ### Looking -/

/-- Whether an entry of the type numbered `id` is present. -/
def has (s : LazyFeatureSet) (id : FeatureId) : Bool :=
  s.features.any (·.type.id == id)

/-- Whether the entry of the type numbered `id` and of the stage is present. -/
def hasAt (s : LazyFeatureSet) (id : FeatureId) (stage : Option Nat) : Bool :=
  s.features.any (·.ident == (id, stage))

/-- The number of entries of the type numbered `id`. -/
def count (s : LazyFeatureSet) (id : FeatureId) : Nat :=
  s.features.countP (·.type.id == id)

/-- The number of entries. -/
def size (s : LazyFeatureSet) : Nat :=
  s.features.length

/-- Whether there is no entry. -/
def isEmpty (s : LazyFeatureSet) : Bool :=
  s.features.isEmpty

/-! ### Changing -/

/-- Adds an entry, unless the set has one of its type and stage. -/
def add (s : LazyFeatureSet) (f : Feature) : Bool × LazyFeatureSet :=
  if s.hasAt f.type.id f.stage then (false, s) else (true, { features := s.features ++ [f] })

/-- Keeps the entries that satisfy `keep`.  If these are all, the order stays known. -/
def retain (s : LazyFeatureSet) (keep : Feature → Bool) : Bool × LazyFeatureSet :=
  let kept := s.features.filter keep
  let changed := kept.length != s.features.length
  (changed, { features := kept, sorted := if changed then none else s.sorted })

/-- Takes out every entry of the type numbered `id`. -/
def remove (s : LazyFeatureSet) (id : FeatureId) : Bool × LazyFeatureSet :=
  s.retain (·.type.id != id)

/-- Takes out the entry of the type numbered `id` and of the stage. -/
def removeAt (s : LazyFeatureSet) (id : FeatureId) (stage : Option Nat) : Bool × LazyFeatureSet :=
  s.retain (·.ident != (id, stage))

/-- The union; where both have an entry, that of `a` stays. -/
def merge (a b : LazyFeatureSet) : LazyFeatureSet :=
  b.features.foldl (fun s f => (s.add f).2) a

/-- Takes out every type that `b` has an entry of. -/
def exclude (a b : LazyFeatureSet) : LazyFeatureSet :=
  if b.isEmpty then a else (a.retain fun f => !b.has f.type.id).2

/-- The entries that satisfy `keep`. -/
def filter (s : LazyFeatureSet) (keep : Feature → Bool) : LazyFeatureSet :=
  (s.retain keep).2

/-! ### The order -/

/-- The entries in pipeline order, and the set that knows them. -/
def read (s : LazyFeatureSet) : List Feature × LazyFeatureSet :=
  match s.sorted with
  | some entries => (entries, s)
  | none =>
    let entries := s.features.mergeSort fun a b => (a.pipelineCompare b).isLE
    (entries, { s with sorted := some entries })

/-- The names of the entries, in pipeline order. -/
def names (s : LazyFeatureSet) : List String × LazyFeatureSet :=
  (s.read.1.map (·.name), s.read.2)

/-- The stages of the entries of the type numbered `id`, ascending. -/
def stagesOf (s : LazyFeatureSet) (id : FeatureId) : List (Option Nat) × LazyFeatureSet :=
  ((s.read.1.filter (·.type.id == id)).map (·.stage), s.read.2)

/-- Whether two sets have equal entries, as values. -/
def same (a b : LazyFeatureSet) : Bool × LazyFeatureSet × LazyFeatureSet :=
  let equal := a.read.1.length == b.read.1.length &&
    (a.read.1.zip b.read.1).all fun (x, y) => x.same y
  (equal, a.read.2, b.read.2)

end LazyFeatureSet

end MaterialPipeline
