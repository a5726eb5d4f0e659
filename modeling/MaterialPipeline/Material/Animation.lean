import MaterialPipeline.Geometry.Matrix
import MaterialPipeline.Text.Named

/-!
# Material — Animation

Moving texture coordinates: scaling and turning about a pivot, scrolling, and waves.

* `Wave.value` — a wave at a phase.
* `Animation.matrix` — the texture matrix at a time.
-/

namespace MaterialPipeline

/-- The shape of a wave. -/
inductive Wave where
  | sine | triangle | square
  deriving DecidableEq, Repr, Inhabited

instance : Named Wave where
  table := [(.sine, "Sin"), (.triangle, "Triangle"), (.square, "Square")]

namespace Wave

/-- The wave at `phase` cycles, between minus one and one. -/
def value (wave : Wave) (phase : Single) : Single :=
  let t := phase.wrapOne
  match wave with
  | .sine => (t * Single.fullTurn).sin
  | .triangle => if t.lt 0.5 then 4 * t - 1 else 3 - 4 * t
  | .square => if t.lt 0.5 then 1 else -1

end Wave

/-- Which movements a stage uses. -/
structure AnimationFlags where
  scroll : Bool := false
  rotate : Bool := false
  wave : Bool := false
  scale : Bool := false
  deriving DecidableEq, Repr, Inhabited

namespace AnimationFlags

/-- The flags of the low four bits. -/
def ofBits (bits : Nat) : AnimationFlags :=
  ⟨bits.testBit 0, bits.testBit 1, bits.testBit 2, bits.testBit 3⟩

/-- The flags as bits. -/
def bits (f : AnimationFlags) : Nat :=
  f.scroll.toNat + 2 * f.rotate.toNat + 4 * f.wave.toNat + 8 * f.scale.toNat

end AnimationFlags

/-- The movement of the texture coordinates of a stage. -/
structure Animation where
  flags : AnimationFlags := {}
  scrollDirection : Vec2 := .zero
  scrollSpeed : Single := 0
  /-- Degrees per second. -/
  turnSpeed : Single := 0
  pivot : Vec2 := ⟨0.5, 0.5⟩
  wave : Wave := .sine
  frequency : Single := 0
  amplitude : Single := 0
  deriving DecidableEq, Repr, Inhabited

namespace Animation

/-- Whether anything moves. -/
def isActive (a : Animation) : Bool :=
  a.flags.bits != 0

/-- The transform `inner` about the pivot, on top of `m`. -/
def aboutPivot (a : Animation) (inner m : Mat4) : Mat4 :=
  let pivot := a.pivot.extend 0
  .translation pivot * inner * .translation (-pivot) * m

/-- The texture matrix at `time` seconds: scale, then turn, then scroll, then wave. -/
def matrix (a : Animation) (time : Single) : Mat4 :=
  let wave := a.wave.value (time * a.frequency)
  let m := Mat4.identity
  let m :=
    if a.flags.scale then
      let k := 1 + wave * a.amplitude
      a.aboutPivot (.scaling ⟨k, k, 1⟩) m
    else m
  let m :=
    if a.flags.rotate then a.aboutPivot (.rotationZ (a.turnSpeed * time).toRadians) m else m
  let m :=
    if a.flags.scroll then
      .translation (((a.scrollDirection.scale a.scrollSpeed).scale time).extend 0) * m
    else m
  if a.flags.wave then .translation ⟨wave * a.amplitude, 0, 0⟩ * m else m

end Animation

end MaterialPipeline
