import MaterialPipeline.Material.Variant

/-!
# Material — Flags

What bins ask of the material of an object.
-/

namespace MaterialPipeline

/-- A summary of a material instance. -/
structure MaterialFlags where
  translucent : Bool := false
  glow : Bool := false
  prePassHook : Bool := false
  shadowHook : Bool := false
  glowHook : Bool := false
  /-- Whether the instance is gone, or failed to build. -/
  invalid : Bool := false
  deriving DecidableEq, Repr, Inhabited

namespace MaterialFlags

/-- The flags of the low six bits. -/
def ofBits (bits : Nat) : MaterialFlags :=
  ⟨bits.testBit 0, bits.testBit 1, bits.testBit 2, bits.testBit 3, bits.testBit 4,
    bits.testBit 5⟩

/-- The flags in the order of their bits. -/
def toList (f : MaterialFlags) : List (Bool × String) :=
  [(f.translucent, "TRANSLUCENT"), (f.glow, "GLOW"), (f.prePassHook, "PREPASS_HOOK"),
    (f.shadowHook, "SHADOW_HOOK"), (f.glowHook, "GLOW_HOOK"), (f.invalid, "INVALID")]

/-- The flags as bits. -/
def bits (f : MaterialFlags) : Nat :=
  f.toList.foldr (fun (on, _) rest => on.toNat + 2 * rest) 0

/-- Whether the instance has a hook for some variant. -/
def anyHook (f : MaterialFlags) : Bool :=
  f.prePassHook || f.shadowHook || f.glowHook

/-- The flags with that of a hook set. -/
def withHook (f : MaterialFlags) : Variant → MaterialFlags
  | .prePass => { f with prePassHook := true }
  | .shadow => { f with shadowHook := true }
  | .glow => { f with glowHook := true }

/-- The flag of a hook. -/
def ofHook (v : Variant) : MaterialFlags :=
  withHook {} v

/-- The text of flags in descriptions. -/
def describe (f : MaterialFlags) : String :=
  let set := f.toList.filterMap fun (on, name) => if on then some name else none
  "MatFlags(" ++ (if set.isEmpty then "0x0" else " | ".intercalate set) ++ ")"

end MaterialFlags

end MaterialPipeline
