import MaterialPipeline.Text.Named

/-!
# Device — VertexFormat

What one vertex of a mesh carries.

* `VertexFormat.has`, `VertexFormat.texcoordCount` — what materials ask of a format.
* `VertexFormat.stride` — the bytes of one vertex.
-/

namespace MaterialPipeline

/-- What a vertex element means. -/
inductive VertexSemantic where
  | position
  | normal
  | tangent
  | binormal
  | color
  /-- One set of texture coordinates. -/
  | texcoord (set : Nat)
  deriving DecidableEq, Repr, Inhabited

namespace VertexSemantic

/-- The name of the element in a program's inputs. -/
def inputName : VertexSemantic → String
  | .position => "position"
  | .normal => "normal"
  | .tangent => "tangent"
  | .binormal => "binormal"
  | .color => "color"
  | .texcoord set => s!"texcoord{set}"

/-- The meanings other than texture coordinates, by name. -/
def plain : List (String × VertexSemantic) :=
  [("Position", .position), ("Normal", .normal), ("Tangent", .tangent), ("Binormal", .binormal),
    ("Color", .color)]

/-- The meaning with a name; sets of texture coordinates are numbered. -/
def ofName? (name : String) : Option VertexSemantic :=
  (plain.lookup name).or do
    texcoord (← (← name.dropPrefix? "TexCoord").toString.toNat?)

end VertexSemantic

/-- The scalar that an element is made of. -/
inductive ScalarFormat where
  | uint8 | sint8 | unorm8 | snorm8
  | uint16 | sint16 | unorm16 | snorm16 | float16
  | float32 | uint32 | sint32 | float64
  deriving DecidableEq, Repr, Inhabited

namespace ScalarFormat

/-- The bytes of one scalar. -/
def bytes : ScalarFormat → Nat
  | .uint8 | .sint8 | .unorm8 | .snorm8 => 1
  | .uint16 | .sint16 | .unorm16 | .snorm16 | .float16 => 2
  | .float32 | .uint32 | .sint32 => 4
  | .float64 => 8

/-- The numbers of scalars that an element may have. -/
def widths : ScalarFormat → List Nat
  | .uint8 | .sint8 | .unorm8 | .snorm8
  | .uint16 | .sint16 | .unorm16 | .snorm16 | .float16 => [1, 2, 4]
  | .float32 | .uint32 | .sint32 | .float64 => [1, 2, 3, 4]

end ScalarFormat

instance : Named ScalarFormat where
  table := [(.uint8, "Uint8"), (.sint8, "Sint8"), (.unorm8, "Unorm8"), (.snorm8, "Snorm8"),
    (.uint16, "Uint16"), (.sint16, "Sint16"), (.unorm16, "Unorm16"), (.snorm16, "Snorm16"),
    (.float16, "Float16"), (.float32, "Float32"), (.uint32, "Uint32"), (.sint32, "Sint32"),
    (.float64, "Float64")]

/-- How an element is stored. -/
inductive ElementFormat where
  /-- One or more scalars of one kind. -/
  | scalars (kind : ScalarFormat) (count : Nat)
  /-- Three ten-bit parts and a two-bit part in one word. -/
  | packed1010102
  /-- Four bytes in blue, green, red, alpha order. -/
  | packedBgra
  deriving DecidableEq, Repr, Inhabited

namespace ElementFormat

/-- The bytes of one element. -/
def bytes : ElementFormat → Nat
  | .scalars kind count => kind.bytes * count
  | .packed1010102 | .packedBgra => 4

/-- The ending that says how many scalars there are. -/
def widthSuffix (count : Nat) : String :=
  if count = 1 then "" else s!"x{count}"

end ElementFormat

instance : Named ElementFormat where
  table :=
    ((Named.table : List (ScalarFormat × String)).flatMap fun (kind, name) =>
      kind.widths.map fun count =>
        (ElementFormat.scalars kind count, name ++ ElementFormat.widthSuffix count))
    ++ [(.packed1010102, "Unorm10_10_10_2"), (.packedBgra, "Unorm8x4Bgra")]

/-- One element of a vertex. -/
structure VertexElement where
  semantic : VertexSemantic
  format : ElementFormat
  deriving DecidableEq, Repr, Inhabited

/-- The elements of a vertex, in order. -/
structure VertexFormat where
  elements : List VertexElement := []
  deriving DecidableEq, Repr, Inhabited

namespace VertexFormat

/-- The format with one more element. -/
def append (f : VertexFormat) (semantic : VertexSemantic) (format : ElementFormat) : VertexFormat :=
  ⟨f.elements ++ [⟨semantic, format⟩]⟩

/-- Position, normal and one set of texture coordinates. -/
def positionNormalUv : VertexFormat :=
  ⟨[⟨.position, .scalars .float32 3⟩, ⟨.normal, .scalars .float32 3⟩,
    ⟨.texcoord 0, .scalars .float32 2⟩]⟩

/-- Position, normal, one set of texture coordinates and a tangent. -/
def positionNormalTangentUv : VertexFormat :=
  positionNormalUv.append .tangent (.scalars .float32 4)

/-- Position, normal, tangent and two sets of texture coordinates. -/
def positionNormalTangentUv2 : VertexFormat :=
  positionNormalTangentUv.append (.texcoord 1) (.scalars .float32 2)

/-- Position and colour. -/
def positionColor : VertexFormat :=
  ⟨[⟨.position, .scalars .float32 3⟩, ⟨.color, .scalars .unorm8 4⟩]⟩

/-- The formats that have names. -/
def presets : List (String × VertexFormat) :=
  [("position_normal_uv", positionNormalUv),
    ("position_normal_tangent_uv", positionNormalTangentUv),
    ("position_normal_tangent_uv2", positionNormalTangentUv2), ("position_color", positionColor)]

/-- Whether some element has the meaning `semantic`. -/
def has (f : VertexFormat) (semantic : VertexSemantic) : Bool :=
  f.elements.any (·.semantic == semantic)

/-- Whether an element is a set of texture coordinates. -/
def isTexcoord (e : VertexElement) : Bool :=
  match e.semantic with
  | .texcoord _ => true
  | _ => false

/-- The number of sets of texture coordinates. -/
def texcoordCount (f : VertexFormat) : Nat :=
  f.elements.countP isTexcoord

/-- The bytes of one vertex. -/
def stride (f : VertexFormat) : Nat :=
  f.elements.foldr (fun e n => e.format.bytes + n) 0

end VertexFormat

end MaterialPipeline
