/-!
# Device — Handle

Names of the objects that a device owns.  A device numbers the objects of each kind from zero, in
order of creation.

* `Handle` — a number that only goes with objects of its kind.
-/

namespace MaterialPipeline

/-- What a device owns. -/
inductive ResourceKind where
  /-- A compiled program. -/
  | program
  /-- A fixed-function state object. -/
  | state
  /-- A loaded texture. -/
  | texture
  /-- A vertex or index buffer. -/
  | buffer
  /-- An offscreen render target. -/
  | target
  deriving DecidableEq, Repr, Inhabited

/-- An object of a device. -/
structure Handle (kind : ResourceKind) where
  number : Nat
  deriving DecidableEq, Repr, Inhabited

/-- A compiled program. -/
abbrev ProgramHandle := Handle .program

/-- A fixed-function state object. -/
abbrev StateHandle := Handle .state

/-- A loaded texture. -/
abbrev TextureHandle := Handle .texture

/-- A vertex or index buffer. -/
abbrev BufferHandle := Handle .buffer

/-- An offscreen render target. -/
abbrev TargetHandle := Handle .target

end MaterialPipeline
