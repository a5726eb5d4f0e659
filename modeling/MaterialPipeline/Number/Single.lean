/-!
# Number — Single

Single-precision numbers, kept as their bit patterns: a sign, eight bits of exponent and 23 of
fraction.  Equality of patterns is decidable and tells every value apart, the two zeros and the
not-a-numbers included.

* `Single.ofRatio` — the number nearest to a fraction, a tie going to the even pattern.
* `Single.totalKey` — the total order, from the negative not-a-numbers up to the positive ones.
* `Single.same`, `Single.lt` — comparison by value.
* Arithmetic rounds after every operation.
-/

namespace MaterialPipeline

/-- A single-precision number. -/
structure Single where
  /-- The bit pattern. -/
  bits : UInt32
  deriving DecidableEq, Repr, Inhabited, Hashable

namespace Single

/-! ### Patterns -/

/-- The bit of the sign. -/
def signBit : Nat := 0x80000000

/-- The bit above the fraction: how many patterns share an exponent. -/
def hiddenBit : Nat := 0x800000

/-- The pattern without its sign. -/
def magnitude (x : Single) : Nat :=
  x.bits.toNat % signBit

/-- Whether the sign is negative. -/
def isNegative (x : Single) : Bool :=
  signBit ≤ x.bits.toNat

/-- The pattern of infinity. -/
def infinityMagnitude : Nat := 0x7f800000

/-- Whether `x` is no number. -/
def isNaN (x : Single) : Bool :=
  infinityMagnitude < x.magnitude

/-- Whether `x` is a number other than the infinities. -/
def isFinite (x : Single) : Bool :=
  x.magnitude < infinityMagnitude

/-- A finite magnitude `m` as significand and exponent: its value is the significand times two to
the exponent less 149. -/
def decompose (m : Nat) : Nat × Nat :=
  if m < hiddenBit then (m, 0) else (m % hiddenBit + hiddenBit, m / hiddenBit - 1)

/-! ### Rounding -/

/-- The whole number nearest to `num / den`, a tie going to the even one. -/
def roundDiv (num den : Nat) : Nat :=
  let q := num / den
  let twice := 2 * (num % den)
  if twice < den then q else if den < twice then q + 1 else q + q % 2

/-- The exponent at which `num / den` has 24 bits, counted from the least one. -/
def scaleOf (num den : Nat) : Nat :=
  let guess := Nat.log2 num + 149 - Nat.log2 den - 23
  let below (e : Nat) : Bool := num <<< 149 < den <<< (e + 24)
  if guess ≥ 1 && below (guess - 1) then guess - 1 else if below guess then guess else guess + 1

/-- The non-negative number nearest to `num / den`. -/
def ofRatio (num den : Nat) : Single :=
  if num = 0 then ⟨0⟩ else
    let scale := scaleOf num den
    let significand := roundDiv (num <<< 149) (den <<< scale)
    let pattern := scale * hiddenBit + significand
    ⟨(min pattern infinityMagnitude).toUInt32⟩

instance (n : Nat) : OfNat Single n := ⟨ofRatio n 1⟩

instance : OfScientific Single where
  ofScientific mantissa negativeExponent exponent :=
    if negativeExponent then ofRatio mantissa (Nat.pow 10 exponent)
    else ofRatio (mantissa * Nat.pow 10 exponent) 1

/-! ### Order -/

/-- The place of `x` in the total order. -/
def totalKey (x : Single) : Int :=
  if x.isNegative then -(x.magnitude : Int) - 1 else x.magnitude

/-- The total order. -/
def totalLe (x y : Single) : Bool :=
  x.totalKey ≤ y.totalKey

/-- The total order, as a comparison. -/
def totalCompare (x y : Single) : Ordering :=
  compare x.totalKey y.totalKey

/-- The place of a number among the numbers; both zeros have the same. -/
def rank (x : Single) : Int :=
  if x.isNegative then -(x.magnitude : Int) else x.magnitude

/-- Whether two numbers have the same value. -/
def same (x y : Single) : Bool :=
  !x.isNaN && !y.isNaN && x.rank == y.rank

/-- Whether `x` is less than `y`. -/
def lt (x y : Single) : Bool :=
  !x.isNaN && !y.isNaN && decide (x.rank < y.rank)

/-! ### Arithmetic -/

/-- The machine number of this pattern. -/
def toFloat32 (x : Single) : Float32 :=
  .ofBits x.bits

/-- The pattern of a machine number; no number becomes the negative quiet pattern. -/
def ofFloat32 (x : Float32) : Single :=
  if x.isNaN then ⟨0xffc00000⟩ else ⟨x.toBits⟩

/-- The quiet pattern of a not-a-number. -/
def quiet (x : Single) : Single :=
  ⟨x.bits ||| 0x400000⟩

/-- An operation on two numbers; the first operand that is no number is the result. -/
def lift₂ (op : Float32 → Float32 → Float32) (x y : Single) : Single :=
  if x.isNaN then x.quiet
  else if y.isNaN then y.quiet
  else ofFloat32 (op x.toFloat32 y.toFloat32)

/-- An operation on one number. -/
def lift₁ (op : Float32 → Float32) (x : Single) : Single :=
  if x.isNaN then x.quiet else ofFloat32 (op x.toFloat32)

instance : Add Single := ⟨lift₂ (· + ·)⟩
instance : Sub Single := ⟨lift₂ (· - ·)⟩
instance : Mul Single := ⟨lift₂ (· * ·)⟩
instance : Div Single := ⟨lift₂ (· / ·)⟩
instance : Neg Single := ⟨fun x => ⟨x.bits ^^^ 0x80000000⟩⟩

/-- The sine of an angle. -/
def sin (x : Single) : Single := lift₁ Float32.sin x

/-- The cosine of an angle. -/
def cos (x : Single) : Single := lift₁ Float32.cos x

/-- The magnitude of a number. -/
def abs (x : Single) : Single := ⟨x.magnitude.toUInt32⟩

/-- The greatest whole number that is at most `x`. -/
def floor (x : Single) : Single := lift₁ Float32.floor x

/-- The remainder of `x` by one, with the sign of `x`. -/
def fraction (x : Single) : Single :=
  let m := x.abs
  let r := m - m.floor
  if x.isNegative then -r else r

/-- The remainder of `x` by one, moved up by one when negative. -/
def wrapOne (x : Single) : Single :=
  let r := x.fraction
  if r.lt 0 then r + 1 else r

/-- An angle in radians, from one in degrees. -/
def toRadians (x : Single) : Single :=
  x * ⟨0x3c8efa35⟩

/-- The full turn in radians. -/
def fullTurn : Single := ⟨0x40c90fdb⟩

end Single

end MaterialPipeline
