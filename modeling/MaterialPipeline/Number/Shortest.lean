import MaterialPipeline.Number.Single

/-!
# Number — Shortest

The shortest decimal that reads back as a number, and the texts that reports write for it.

* `Interval`, `Single.interval` — the decimals that read back as a number.
* `shortest` — the fewest digits with a decimal in the interval, the nearest such decimal.
* `DecimalStyle`, `Single.text` — where the point stands and when an exponent is written.
-/

namespace MaterialPipeline

/-- The fractions around `mid / scale` that round to it, from `lower / scale` to `upper / scale`. -/
structure Interval where
  /-- The lower end. -/
  lower : Nat
  /-- The value itself. -/
  mid : Nat
  /-- The upper end. -/
  upper : Nat
  /-- The common denominator. -/
  scale : Nat
  /-- Whether the ends round to the value. -/
  closed : Bool
  deriving DecidableEq, Repr

namespace Interval

/-- Whether `n / d` lies in the interval. -/
def holds (i : Interval) (n d : Nat) : Bool :=
  if i.closed then i.lower * d ≤ n * i.scale && n * i.scale ≤ i.upper * d
  else i.lower * d < n * i.scale && n * i.scale < i.upper * d

end Interval

/-- A decimal: `digits` times ten to `exponent`. -/
structure Decimal where
  /-- The digits. -/
  digits : Nat
  /-- The power of ten. -/
  exponent : Int
  deriving DecidableEq, Repr

namespace Decimal

/-- The decimal as a fraction. -/
def ratio (d : Decimal) : Nat × Nat :=
  match d.exponent with
  | .ofNat e => (d.digits * Nat.pow 10 e, 1)
  | .negSucc e => (d.digits, Nat.pow 10 (e + 1))

/-- How far the decimal is from the middle of `i`, in parts of the common denominator. -/
def distance (i : Interval) (d : Decimal) : Nat :=
  let (n, m) := d.ratio
  ((n * i.scale : Int) - (i.mid * m : Int)).natAbs

end Decimal

/-- The exponent of the first digit of `n / d`, for `0 < n`. -/
def leadingExponent (n d : Nat) : Int :=
  if d ≤ n then
    ((List.range 64).takeWhile fun e => d * Nat.pow 10 (e + 1) ≤ n).length
  else
    -((List.range 64).takeWhile fun e => n * Nat.pow 10 e < d).length

/-- The neighbours of the middle of `i` on the grid of ten to `exponent` that lie in `i`, the nearer
one first; of two that are equally near, the greater one. -/
def gridHits (i : Interval) (exponent : Int) : List Decimal :=
  let (n, d) : Nat × Nat := match exponent with
    | .ofNat e => (i.mid, i.scale * Nat.pow 10 e)
    | .negSucc e => (i.mid * Nat.pow 10 (e + 1), i.scale)
  let below : Decimal := ⟨n / d, exponent⟩
  let above : Decimal := ⟨n / d + 1, exponent⟩
  let ordered := if above.distance i ≤ below.distance i then [above, below] else [below, above]
  ordered.filter fun x => i.holds x.ratio.1 x.ratio.2

/-- The decimal with the fewest digits in `i`, the nearest to its middle among those. -/
def shortest (i : Interval) : Decimal :=
  let leading := leadingExponent i.mid i.scale
  ((List.range 18).findSome? fun (n : Nat) => (gridHits i (leading + 1 - (n : Int))).head?).getD ⟨0, 0⟩

namespace Single

/-- The decimals that read back as the magnitude of a finite `x` other than zero. -/
def interval (x : Single) : Interval :=
  let (significand, exponent) := decompose x.magnitude
  let lowerGap := if significand = hiddenBit && exponent ≥ 1 then 1 else 2
  let scaled (n : Nat) : Nat := n <<< exponent
  { lower := scaled (4 * significand - lowerGap)
    mid := scaled (4 * significand)
    upper := scaled (4 * significand + 2)
    scale := 1 <<< 151
    closed := significand % 2 == 0 }

end Single

/-- Where the point stands in the text of a number. -/
structure DecimalStyle where
  /-- Whether a whole number ends in `.0`. -/
  keepsPoint : Bool
  /-- The exponents of the first digit that are written without an exponent, if limited: at least
  the first and less than the second. -/
  positional : Option (Int × Int)

namespace DecimalStyle

/-- The plain text: no exponent, and no point in a whole number. -/
def plain : DecimalStyle := ⟨false, none⟩

/-- The text in descriptions of values: a point always, and an exponent from 10¹⁶ up and below
10⁻⁴. -/
def described : DecimalStyle := ⟨true, some (-4, 16)⟩

/-- Zeros. -/
def zeros (n : Nat) : String :=
  String.ofList (List.replicate n '0')

/-- A decimal written without exponent. -/
def positionalText (style : DecimalStyle) (d : Decimal) : String :=
  let digits := toString d.digits
  match d.exponent with
  | .ofNat e => digits ++ zeros e ++ if style.keepsPoint then ".0" else ""
  | .negSucc e =>
    let places := e + 1
    let padded := zeros (places + 1 - digits.length) ++ digits
    let whole := padded.length - places
    String.ofList (padded.toList.take whole) ++ "." ++ String.ofList (padded.toList.drop whole)

/-- A decimal written with one digit before the point and an exponent. -/
def exponentText (d : Decimal) : String :=
  let digits := (toString d.digits).toList
  let tail := digits.drop 1
  let exponent := d.exponent + tail.length
  String.ofList (digits.take 1) ++ (if tail.isEmpty then "" else "." ++ String.ofList tail)
    ++ "e" ++ toString exponent

/-- The text of a decimal. -/
def text (style : DecimalStyle) (d : Decimal) : String :=
  let leading : Int := d.exponent + ((toString d.digits).length - 1 : Nat)
  match style.positional with
  | some (least, limit) =>
    if least ≤ leading && leading < limit then style.positionalText d else exponentText d
  | none => style.positionalText d

end DecimalStyle

namespace Single

/-- The text of a number. -/
def text (style : DecimalStyle) (x : Single) : String :=
  let sign := if x.isNegative then "-" else ""
  if x.isNaN then "NaN"
  else if !x.isFinite then sign ++ "inf"
  else if x.magnitude = 0 then sign ++ style.positionalText ⟨0, 0⟩
  else sign ++ style.text (shortest x.interval)

end Single

end MaterialPipeline
