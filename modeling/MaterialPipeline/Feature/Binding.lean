import MaterialPipeline.Material.Map

/-!
# Feature — Binding

Which texture each slot of a program reads.

* `bind` — gives a sampler name a slot; a name that has one keeps it.
-/

namespace MaterialPipeline

/-- Where the texture of a slot comes from. -/
inductive TextureSource where
  /-- A map that a stage of the material authors. -/
  | map (stage : Nat) (kind : MapKind)
  /-- The light map that comes with each draw. -/
  | lightMap
  deriving DecidableEq, Repr, Inhabited

/-- One texture slot. -/
structure Binding where
  slot : Nat
  /-- The name of the sampler in the program. -/
  name : String
  source : TextureSource
  deriving DecidableEq, Repr, Inhabited

namespace Binding

/-- Gives the sampler `name` the next free slot, unless it has one. -/
def bind (bindings : List Binding) (name : String) (source : TextureSource) : List Binding :=
  if bindings.any (·.name == name) then bindings
  else bindings ++ [⟨bindings.length, name, source⟩]

/-- Binds several samplers in order. -/
def bindAll (bindings : List Binding) (requests : List (String × TextureSource)) : List Binding :=
  requests.foldl (fun bs (name, source) => bind bs name source) bindings

/-- The slot of the sampler `name`. -/
def slotOf (bindings : List Binding) (name : String) : Nat :=
  ((bindings.find? (·.name == name)).map (·.slot)).getD bindings.length

end Binding

end MaterialPipeline
