import MaterialPipeline.Number.Hex

/-!
# Geometry — Vector

Vectors of single-precision numbers.  Every operation works component by component and rounds each
result.
-/

namespace MaterialPipeline

/-- Two components. -/
structure Vec2 where
  x : Single
  y : Single
  deriving DecidableEq, Repr, Inhabited

/-- Three components. -/
structure Vec3 where
  x : Single
  y : Single
  z : Single
  deriving DecidableEq, Repr, Inhabited

/-- Four components. -/
structure Vec4 where
  x : Single
  y : Single
  z : Single
  w : Single
  deriving DecidableEq, Repr, Inhabited

namespace Vec2

def zero : Vec2 := ⟨0, 0⟩
def one : Vec2 := ⟨1, 1⟩

/-- The components in order. -/
def toList (v : Vec2) : List Single := [v.x, v.y]

/-- The vector times a number. -/
def scale (v : Vec2) (k : Single) : Vec2 := ⟨v.x * k, v.y * k⟩

/-- The vector with a third component. -/
def extend (v : Vec2) (z : Single) : Vec3 := ⟨v.x, v.y, z⟩

instance : ToString Vec2 := ⟨fun v => " ".intercalate (v.toList.map Single.hex)⟩

end Vec2

namespace Vec3

def zero : Vec3 := ⟨0, 0, 0⟩

/-- The components in order. -/
def toList (v : Vec3) : List Single := [v.x, v.y, v.z]

/-- The vector with a fourth component. -/
def extend (v : Vec3) (w : Single) : Vec4 := ⟨v.x, v.y, v.z, w⟩

instance : Neg Vec3 := ⟨fun v => ⟨-v.x, -v.y, -v.z⟩⟩

/-- The square of the distance between two points. -/
def distanceSquared (a b : Vec3) : Single :=
  let dx := a.x - b.x
  let dy := a.y - b.y
  let dz := a.z - b.z
  (dx * dx + dy * dy) + dz * dz

instance : ToString Vec3 := ⟨fun v => " ".intercalate (v.toList.map Single.hex)⟩

end Vec3

namespace Vec4

def one : Vec4 := ⟨1, 1, 1, 1⟩

/-- The components in order. -/
def toList (v : Vec4) : List Single := [v.x, v.y, v.z, v.w]

/-- Applies `f` to the components of two vectors. -/
def map₂ (f : Single → Single → Single) (a b : Vec4) : Vec4 :=
  ⟨f a.x b.x, f a.y b.y, f a.z b.z, f a.w b.w⟩

instance : Add Vec4 := ⟨map₂ (· + ·)⟩
instance : Sub Vec4 := ⟨map₂ (· - ·)⟩
instance : Mul Vec4 := ⟨map₂ (· * ·)⟩

/-- The vector times a number. -/
def scale (v : Vec4) (k : Single) : Vec4 := ⟨v.x * k, v.y * k, v.z * k, v.w * k⟩

/-- The first three components. -/
def truncate (v : Vec4) : Vec3 := ⟨v.x, v.y, v.z⟩

/-- Whether two vectors have the same values. -/
def same (a b : Vec4) : Bool :=
  a.x.same b.x && a.y.same b.y && a.z.same b.z && a.w.same b.w

instance : ToString Vec4 := ⟨fun v => " ".intercalate (v.toList.map Single.hex)⟩

end Vec4

end MaterialPipeline
