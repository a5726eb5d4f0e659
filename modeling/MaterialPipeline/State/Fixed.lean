import MaterialPipeline.Text.Named

/-!
# State — Fixed

The vocabulary of fixed-function state: comparisons, blending, culling, filling, samplers and the
stencil test.
-/

namespace MaterialPipeline

/-- A comparison of a new value with a stored one. -/
inductive CompareFunction where
  | never | less | equal | lessEqual | greater | notEqual | greaterEqual | always
  deriving DecidableEq, Repr, Inhabited

instance : Named CompareFunction where
  table := [(.never, "Never"), (.less, "Less"), (.equal, "Equal"), (.lessEqual, "LessEqual"),
    (.greater, "Greater"), (.notEqual, "NotEqual"), (.greaterEqual, "GreaterEqual"),
    (.always, "Always")]

/-! ### Blending -/

/-- What a colour is multiplied with. -/
inductive BlendFactor where
  | zero | one
  | source | oneMinusSource | sourceAlpha | oneMinusSourceAlpha
  | target | oneMinusTarget | targetAlpha | oneMinusTargetAlpha
  | sourceAlphaSaturated | constant | oneMinusConstant
  | second | oneMinusSecond | secondAlpha | oneMinusSecondAlpha
  deriving DecidableEq, Repr, Inhabited

instance : Named BlendFactor where
  table := [(.zero, "Zero"), (.one, "One"), (.source, "Src"), (.oneMinusSource, "OneMinusSrc"),
    (.sourceAlpha, "SrcAlpha"), (.oneMinusSourceAlpha, "OneMinusSrcAlpha"), (.target, "Dst"),
    (.oneMinusTarget, "OneMinusDst"), (.targetAlpha, "DstAlpha"),
    (.oneMinusTargetAlpha, "OneMinusDstAlpha"), (.sourceAlphaSaturated, "SrcAlphaSaturated"),
    (.constant, "Constant"), (.oneMinusConstant, "OneMinusConstant"), (.second, "Src1"),
    (.oneMinusSecond, "OneMinusSrc1"), (.secondAlpha, "Src1Alpha"),
    (.oneMinusSecondAlpha, "OneMinusSrc1Alpha")]

/-- How the two products are joined. -/
inductive BlendOperation where
  | add | subtract | reverseSubtract | min | max
  deriving DecidableEq, Repr, Inhabited

instance : Named BlendOperation where
  table := [(.add, "Add"), (.subtract, "Subtract"), (.reverseSubtract, "ReverseSubtract"),
    (.min, "Min"), (.max, "Max")]

/-- A blend equation. -/
structure Blend where
  source : BlendFactor
  target : BlendFactor
  operation : BlendOperation
  deriving DecidableEq, Repr, Inhabited

namespace Blend

/-- The new colour takes the place of the old one. -/
def replace : Blend := ⟨.one, .zero, .add⟩

/-- The colours are mixed by the new alpha. -/
def alpha : Blend := ⟨.sourceAlpha, .oneMinusSourceAlpha, .add⟩

/-- The colours are added. -/
def additive : Blend := ⟨.one, .one, .add⟩

/-- The colours are multiplied. -/
def multiply : Blend := ⟨.target, .zero, .add⟩

/-- The equations that have names. -/
def presets : List (String × Blend) :=
  [("REPLACE", replace), ("ALPHA", alpha), ("ADDITIVE", additive), ("MULTIPLY", multiply)]

/-- The equation with a name. -/
def ofName? (name : String) : Option Blend :=
  presets.lookup name

/-- The three parts in short. -/
def text (b : Blend) : String :=
  s!"{Named.name b.source} {Named.name b.target} {Named.name b.operation}"

instance : ToString Blend := ⟨text⟩

/-- The three parts with their roles. -/
def describe (b : Blend) : String :=
  s!"BlendComponent \x7b src_factor: {Named.name b.source}, dst_factor: {Named.name b.target}, operation: {Named.name b.operation} \x7d"

end Blend

/-! ### Rasterisation -/

/-- Which faces are left out. -/
inductive CullMode where
  | none | front | back
  deriving DecidableEq, Repr, Inhabited

instance : Named CullMode where
  table := [(.none, "None"), (.front, "Front"), (.back, "Back")]

namespace CullMode

/-- The mode that leaves out the opposite faces. -/
def flipped : CullMode → CullMode
  | .none => .none
  | .front => .back
  | .back => .front

end CullMode

/-- What is drawn of a primitive. -/
inductive FillMode where
  | fill | line | point
  deriving DecidableEq, Repr, Inhabited

instance : Named FillMode where
  table := [(.fill, "Fill"), (.line, "Line"), (.point, "Point")]

/-! ### Samplers -/

/-- What a coordinate outside the texture reads. -/
inductive AddressMode where
  | clampToEdge | wrap | mirrorRepeat | clampToBorder
  deriving DecidableEq, Repr, Inhabited

instance : Named AddressMode where
  table := [(.clampToEdge, "C"), (.wrap, "R"), (.mirrorRepeat, "M"), (.clampToBorder, "B")]

/-- How texels are mixed. -/
inductive FilterMode where
  | nearest | linear
  deriving DecidableEq, Repr, Inhabited

instance : Named FilterMode where
  table := [(.nearest, "N"), (.linear, "L")]

/-- How one texture slot is read. -/
structure Sampler where
  addressU : AddressMode
  addressV : AddressMode
  minFilter : FilterMode
  magFilter : FilterMode
  deriving DecidableEq, Repr

namespace Sampler

/-- Repeating, with texels mixed. -/
def wrapLinear : Sampler := ⟨.wrap, .wrap, .linear, .linear⟩

/-- Held at the edge, with texels mixed. -/
def clampLinear : Sampler := ⟨.clampToEdge, .clampToEdge, .linear, .linear⟩

/-- Held at the edge, with the nearest texel taken. -/
def clampPoint : Sampler := ⟨.clampToEdge, .clampToEdge, .nearest, .nearest⟩

instance : Inhabited Sampler := ⟨wrapLinear⟩

/-- The four letters of a sampler. -/
def code (s : Sampler) : String :=
  Named.name s.addressU ++ Named.name s.addressV ++ Named.name s.minFilter ++ Named.name s.magFilter

instance : ToString Sampler := ⟨code⟩

/-- The sampler of four letters. -/
def ofCode? (text : String) : Option Sampler :=
  match text.toList.map fun c => String.singleton c with
  | [u, v, min, mag] => do
    return ⟨← Named.ofName? u, ← Named.ofName? v, ← Named.ofName? min, ← Named.ofName? mag⟩
  | _ => none

end Sampler

/-! ### Stencil -/

/-- What happens to the stencil value. -/
inductive StencilOperation where
  | keep | zero | replace | invert | incrementClamp | decrementClamp | incrementWrap | decrementWrap
  deriving DecidableEq, Repr, Inhabited

instance : Named StencilOperation where
  table := [(.keep, "Keep"), (.zero, "Zero"), (.replace, "Replace"), (.invert, "Invert"),
    (.incrementClamp, "IncrementClamp"), (.decrementClamp, "DecrementClamp"),
    (.incrementWrap, "IncrementWrap"), (.decrementWrap, "DecrementWrap")]

/-- The stencil test. -/
structure Stencil where
  compare : CompareFunction := .always
  fail : StencilOperation := .keep
  depthFail : StencilOperation := .keep
  pass : StencilOperation := .keep
  reference : Nat := 0
  readMask : Nat := 0xff
  writeMask : Nat := 0xff
  deriving DecidableEq, Repr, Inhabited

namespace Stencil

/-- The seven parts in short. -/
def text (s : Stencil) : String :=
  " ".intercalate [Named.name s.compare, Named.name s.fail, Named.name s.depthFail,
    Named.name s.pass, toString s.reference, toString s.readMask, toString s.writeMask]

instance : ToString Stencil := ⟨text⟩

end Stencil

end MaterialPipeline
