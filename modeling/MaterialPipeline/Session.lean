import MaterialPipeline.Device
import MaterialPipeline.Fault
import MaterialPipeline.Report

/-!
# Session

What every effect of the pipeline acts on: the device and the notes reported so far.

* `Action` — an effect, which may end in a fault.
* `Event` — one command or one note; a list of events is a draw as data, and `perform` runs it.
-/

namespace MaterialPipeline

/-- The device and what was reported. -/
structure Session where
  device : Device := {}
  notes : Array Note := #[]
  deriving Inhabited

/-- An effect on a session. -/
abbrev Action := StateT Session (Except Fault)

/-- One visible effect without result. -/
inductive Event where
  /-- A call to the device. -/
  | call (c : Call)
  /-- A reported line. -/
  | note (n : Note)
  deriving DecidableEq, Repr

namespace Session

/-- Carries out one event. -/
def apply (s : Session) : Event → Session
  | .call c => { s with device := s.device.issue c }
  | .note n => { s with notes := s.notes.push n }

/-- Carries out events in order. -/
def applyAll (s : Session) (events : List Event) : Session :=
  events.foldl apply s

end Session

namespace Action

/-- Carries out events in order. -/
def perform (events : List Event) : Action Unit :=
  modify (·.applyAll events)

/-- Reports a line. -/
def report (n : Note) : Action Unit :=
  perform [.note n]

/-- Reports lines in order. -/
def reportAll (notes : List Note) : Action Unit :=
  perform (notes.map .note)

/-- Carries out a call without result. -/
def issue (c : Call) : Action Unit :=
  perform [.call c]

/-- Carries out an operation of the device. -/
def onDevice {α : Type} (f : Device → α × Device) : Action α :=
  modifyGet fun s => let (a, d) := f s.device; (a, { s with device := d })

/-- The limits of the device. -/
def limits : Action Limits :=
  return (← get).device.limits

end Action

end MaterialPipeline
