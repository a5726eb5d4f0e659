import MaterialPipeline.Feature.Registry

/-!
# Feature — Table

A registry as a table with a slot for each number.  The table grows when a number beyond it is
registered.  Its types are put into pipeline order when they are looked at; the first look after a
change sorts them, and what it finds is kept until the next change.

* `RegistryTable.register`, `RegistryTable.unregister` — the changes; both give the generator that
they take out of a slot.
* `RegistryTable.order`, `RegistryTable.visit` — the numbers and the registrations, in pipeline
order.
-/

namespace MaterialPipeline

/-- Registrations by number, and their order once it is known. -/
structure RegistryTable where
  slots : List (Option Registration) := []
  /-- The numbers in pipeline order, if they were looked at since the last change. -/
  sorted : Option (List FeatureId) := none
  deriving Inhabited

namespace RegistryTable

/-- The table without generators. -/
def empty : RegistryTable := {}

/-! ### Looking -/

/-- The registration in the slot of a number. -/
def find? (t : RegistryTable) (id : FeatureId) : Option Registration :=
  t.slots[id]?.join

/-- The generator of a number. -/
def lookup (t : RegistryTable) (id : FeatureId) : Option Generator :=
  (t.find? id).map (·.generator)

/-- The type of a number. -/
def type? (t : RegistryTable) (id : FeatureId) : Option FeatureType :=
  (t.find? id).map (·.type)

/-- Whether a number is registered. -/
def contains (t : RegistryTable) (id : FeatureId) : Bool :=
  (t.find? id).isSome

/-- The registrations, by number. -/
def registrations (t : RegistryTable) : List Registration :=
  t.slots.filterMap id

/-- The number of registrations. -/
def size (t : RegistryTable) : Nat :=
  t.registrations.length

/-- Whether there is no registration. -/
def isEmpty (t : RegistryTable) : Bool :=
  t.size == 0

/-- What an entry of the type numbered `id` costs within `set`, if it has a generator. -/
def costOf (t : RegistryTable) (set : FeatureSet) (id : FeatureId) (stage : Option Nat) :
    Option Cost :=
  (t.lookup id).map fun g => g.cost set stage

/-- The textures of an entry of the type numbered `id`; none without a generator. -/
def texturesOf (t : RegistryTable) (id : FeatureId) (stage : Option Nat) :
    List (String × TextureSource) :=
  ((t.lookup id).map fun g => g.textures stage).getD []

/-- Whether every built-in type is registered. -/
def hasBuiltin (t : RegistryTable) : Bool :=
  FeatureType.catalogue.all fun type => t.contains type.id

/-! ### Changing -/

/-- The slots, with one for the number. -/
def grown (t : RegistryTable) (id : FeatureId) : List (Option Registration) :=
  t.slots ++ List.replicate (id + 1 - t.slots.length) none

/-- Puts `g` into the slot of `type`. -/
def register (t : RegistryTable) (type : FeatureType) (g : Generator) :
    Option Generator × RegistryTable :=
  let slots := t.grown type.id
  (slots[type.id]?.join.map (·.generator), { slots := slots.set type.id (some ⟨type, g⟩) })

/-- What registering `type` reports. -/
def registerNotes (t : RegistryTable) (type : FeatureType) : List Note :=
  if t.contains type.id then [.debug s!"Replaced generator for feature '{type.name}'"] else []

/-- Empties the slot of a number.  If it is empty, the order stays known. -/
def unregister (t : RegistryTable) (id : FeatureId) : Option Generator × RegistryTable :=
  match t.find? id with
  | some e => (some e.generator, { slots := t.slots.set id none })
  | none => (none, t)

/-- The table of these registrations, made in their order. -/
def ofList (l : List Registration) : RegistryTable :=
  l.foldl (fun t e => (t.register e.type e.generator).2) empty

/-! ### The order -/

/-- The registered numbers in pipeline order, and the table that knows them. -/
def order (t : RegistryTable) : List FeatureId × RegistryTable :=
  match t.sorted with
  | some ids => (ids, t)
  | none =>
    let types := (t.registrations.map (·.type)).mergeSort fun a b => (a.pipelineCompare b).isLE
    let ids := types.map (·.id)
    (ids, { t with sorted := some ids })

/-- The registrations in pipeline order. -/
def visit (t : RegistryTable) : List Registration × RegistryTable :=
  (t.order.1.filterMap t.find?, t.order.2)

/-- The names of the registered types, in pipeline order. -/
def names (t : RegistryTable) : List String × RegistryTable :=
  ((t.order.1.filterMap t.type?).map (·.name), t.order.2)

/-- The text of a table in descriptions. -/
def describe (t : RegistryTable) : String × RegistryTable :=
  (s!"FeatureRegistry \x7b features: {Quoted.list t.names.1} \x7d", t.names.2)

end RegistryTable

end MaterialPipeline
