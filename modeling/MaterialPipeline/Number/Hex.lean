import MaterialPipeline.Number.Single

/-!
# Number — Hex

Numbers by their bit patterns, as eight hexadecimal digits.

* `Single.hex`, `Single.ofHex` — from number to digits and back; all not-a-numbers are written alike.
-/

namespace MaterialPipeline.Single

/-- The value of a hexadecimal digit. -/
def hexDigit (c : Char) : Nat :=
  if c.isDigit then c.toNat - '0'.toNat else c.toLower.toNat - 'a'.toNat + 10

/-- The number with a pattern, given by its digits. -/
def ofHex (text : String) : Single :=
  ⟨(text.toList.foldl (fun n c => 16 * n + hexDigit c) 0).toUInt32⟩

/-- The digits of the pattern. -/
def hex (x : Single) : String :=
  let digits := Nat.toDigits 16 x.bits.toNat
  if x.isNaN then "nan" else String.ofList (List.replicate (8 - digits.length) '0' ++ digits)

instance : ToString Single := ⟨hex⟩

end MaterialPipeline.Single
