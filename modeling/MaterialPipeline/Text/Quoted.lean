import MaterialPipeline.Text.Printable

/-!
# Text — Quoted

Texts in double quotes.  A quote, a backslash and what has no picture are written as escapes.
-/

namespace MaterialPipeline.Quoted

/-- The hexadecimal digits of a number. -/
def hex (n : Nat) : String :=
  String.ofList (Nat.toDigits 16 n)

/-- One character between the quotes. -/
def escape (c : Char) : String :=
  if c = '"' then "\\\""
  else if c = '\\' then "\\\\"
  else if c = '\n' then "\\n"
  else if c = '\r' then "\\r"
  else if c = '\t' then "\\t"
  else if c = '\x00' then "\\0"
  else if Printable.hasPicture c then String.singleton c
  else "\\u\x7b" ++ hex c.toNat ++ "\x7d"

/-- A text in quotes. -/
def text (s : String) : String :=
  "\"" ++ String.join (s.toList.map escape) ++ "\""

/-- A list of texts in quotes. -/
def list (l : List String) : String :=
  "[" ++ ", ".intercalate (l.map text) ++ "]"

end MaterialPipeline.Quoted
