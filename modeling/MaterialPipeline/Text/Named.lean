/-!
# Text — Named

Types with finitely many values, each of which has a name.

* `Named.name`, `Named.ofName?` — from value to name and back.
-/

namespace MaterialPipeline

/-- A type whose values have names. -/
class Named (α : Type) where
  /-- Every value with its name. -/
  table : List (α × String)

namespace Named

variable {α : Type} [Named α]

/-- Every value. -/
def all (α : Type) [Named α] : List α :=
  (table : List (α × String)).map (·.1)

/-- The name of a value. -/
def name [BEq α] (a : α) : String :=
  ((table.find? fun entry : α × String => entry.1 == a).map (·.2)).getD ""

/-- The value with a name. -/
def ofName? (text : String) : Option α :=
  (table.find? fun entry : α × String => entry.2 == text).map (·.1)

end Named

end MaterialPipeline
