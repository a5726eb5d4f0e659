import MaterialPipeline.Text.Named

/-!
# Report

What the pipeline reports about its work: notes, each with a level.
-/

namespace MaterialPipeline

/-- How much a note matters. -/
inductive Level where
  | trace | debug | info | warn | error
  deriving DecidableEq, Repr, Inhabited

instance : Named Level where
  table := [(.trace, "TRACE"), (.debug, "DEBUG"), (.info, "INFO"), (.warn, "WARN"),
    (.error, "ERROR")]

/-- One reported line. -/
structure Note where
  level : Level
  message : String
  deriving DecidableEq, Repr, Inhabited

namespace Note

def trace (message : String) : Note := ⟨.trace, message⟩
def debug (message : String) : Note := ⟨.debug, message⟩
def info (message : String) : Note := ⟨.info, message⟩
def warn (message : String) : Note := ⟨.warn, message⟩
def error (message : String) : Note := ⟨.error, message⟩

/-- The line as written. -/
def line (note : Note) : String :=
  Named.name note.level ++ " " ++ note.message

instance : ToString Note := ⟨line⟩

end Note

end MaterialPipeline
