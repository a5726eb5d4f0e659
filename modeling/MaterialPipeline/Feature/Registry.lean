import MaterialPipeline.Feature.Builtin
import MaterialPipeline.Report
import MaterialPipeline.Text.Quoted

/-!
# Feature — Registry

The generators in use, in pipeline order, at most one for each feature number.

* `Registry.register`, `Registry.unregister`, `Registry.lookup` — the table.
* `Registry.builtin` — the generators of the catalogue.
-/

namespace MaterialPipeline

/-- A feature type and its generator. -/
structure Registration where
  type : FeatureType
  generator : Generator
  deriving Inhabited

namespace Registration

/-- The place in the pipeline. -/
def key (r : Registration) : List Int :=
  r.type.key

theorem id_eq_of_key_eq {a b : Registration} (h : a.key = b.key) : a.type.id = b.type.id := by
  simp only [key, FeatureType.key, List.cons.injEq, Int.natCast_inj] at h
  exact h.2.2.1

end Registration

/-- Generators in pipeline order. -/
structure Registry where
  entries : List Registration := []
  /-- The entries ascend in the pipeline order. -/
  ascending : Ascending Registration.key entries := by exact List.Pairwise.nil
  /-- No two entries have one number. -/
  distinct : entries.Pairwise fun a b => a.type.id ≠ b.type.id := by exact List.Pairwise.nil

namespace Registry

/-- The registry without generators. -/
def empty : Registry := {}

instance : Inhabited Registry := ⟨empty⟩

/-! ### Looking -/

/-- The registration of a number. -/
def find? (r : Registry) (id : FeatureId) : Option Registration :=
  r.entries.find? (·.type.id == id)

/-- The generator of a number. -/
def lookup (r : Registry) (id : FeatureId) : Option Generator :=
  (r.find? id).map (·.generator)

/-- Whether a number is registered. -/
def contains (r : Registry) (id : FeatureId) : Bool :=
  r.entries.any (·.type.id == id)

/-- The registered numbers, in pipeline order. -/
def order (r : Registry) : List FeatureId :=
  r.entries.map (·.type.id)

/-- The number of registrations. -/
def size (r : Registry) : Nat :=
  r.entries.length

/-- Whether every built-in type is registered. -/
def hasBuiltin (r : Registry) : Bool :=
  FeatureType.catalogue.all fun t => r.contains t.id

/-- The names of the registered types, in pipeline order. -/
def names (r : Registry) : List String :=
  r.entries.map (·.type.name)

/-- The text of a registry in descriptions. -/
def describe (r : Registry) : String :=
  s!"FeatureRegistry \x7b features: {Quoted.list r.names} \x7d"

/-! ### Changing -/

/-- The registry without the number `id`. -/
def unregister (r : Registry) (id : FeatureId) : Registry where
  entries := r.entries.filter (·.type.id != id)
  ascending := r.ascending.filter _
  distinct := r.distinct.filter _

theorem mem_unregister {r : Registry} {id : FeatureId} {e : Registration} :
    e ∈ (r.unregister id).entries ↔ e ∈ r.entries ∧ e.type.id ≠ id := by
  simp [unregister]

/-- The registry with `g` as the generator of `t`, in the place of any other of that number. -/
def register (r : Registry) (t : FeatureType) (g : Generator) : Registry :=
  have fresh : ∀ b ∈ (r.unregister t.id).entries, t.id ≠ b.type.id := fun _ hb =>
    (mem_unregister.1 hb).2.symm
  { entries := place Registration.key ⟨t, g⟩ (r.unregister t.id).entries
    ascending := (r.unregister t.id).ascending.place fun b hb e =>
      fresh b hb (Registration.id_eq_of_key_eq e)
    distinct := pairwise_place (fun _ _ => Ne.symm) (r.unregister t.id).distinct fresh }

/-- What registering `t` reports. -/
def registerNotes (r : Registry) (t : FeatureType) : List Note :=
  if r.contains t.id then [.debug s!"Replaced generator for feature '{t.name}'"] else []

/-- The registry of the catalogue. -/
def builtin : Registry :=
  Generator.builtin.foldl (fun r (t, g) => r.register t g) empty

end Registry

end MaterialPipeline
