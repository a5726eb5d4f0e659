import MaterialPipeline.Storage.Slot

/-!
# Storage — SlotSet

Storage whose handles are checked on every access.  Vacating a cell advances its generation, so a
handle that outlives its element is told from the handle of whatever moves in later.

* `SlotSet.push`, `SlotSet.remove` — occupy and vacate; vacated cells are reused, last one first.
* `SlotSet.find`, `SlotSet.get` — look-up, without and with a fault on a stale handle.
* `SlotSet.entries` — the live elements with their handles, by position.
-/

namespace MaterialPipeline

/-- One cell of a slot set. -/
structure Cell (α : Type) where
  /-- How often the cell was vacated, modulo 2³². -/
  generation : UInt32
  /-- The element, while there is one. -/
  value : Option α
  deriving Repr, Inhabited

/-- Elements behind generational handles. -/
structure SlotSet (α : Type) where
  /-- The cells, by position. -/
  cells : Array (Cell α) := #[]
  /-- The vacant positions, last vacated first. -/
  free : List UInt32 := []
  /-- The number of live elements. -/
  size : Nat := 0
  deriving Repr, Inhabited

namespace SlotSet

variable {α : Type}

/-- The set without elements. -/
def empty : SlotSet α := {}

/-- Stores `a` in the cell vacated last, or in a new one. -/
def push (s : SlotSet α) (a : α) : Slot × SlotSet α :=
  match s.free with
  | position :: rest =>
    let generation := (s.cells[position.toNat]?.map (·.generation)).getD 0
    (Slot.new generation position,
      { cells := s.cells.modify position.toNat ({ · with value := some a })
        free := rest
        size := s.size + 1 })
  | [] =>
    (Slot.new 0 s.cells.size.toUInt32,
      { s with cells := s.cells.push ⟨0, some a⟩, size := s.size + 1 })

/-- The position of the live element behind `h`, with the element. -/
def locate (s : SlotSet α) (h : Slot) : Except Fault (Option (Nat × α)) := do
  let position ← h.position
  pure do
    let cell ← s.cells[position.toNat]?
    if cell.generation = h.generation then
      cell.value.map (position.toNat, ·)
    else none

/-- The element behind `h`, if the handle is live. -/
def find (s : SlotSet α) (h : Slot) : Except Fault (Option α) :=
  return (← s.locate h).map (·.2)

/-- The element behind `h`, which must be live. -/
def get (s : SlotSet α) (h : Slot) : Except Fault α := do
  match ← s.find h with
  | some a => pure a
  | none => throw (.staleSlot h.word)

/-- Whether `h` is live. -/
def contains (s : SlotSet α) (h : Slot) : Except Fault Bool :=
  return (← s.find h).isSome

/-- Replaces the element behind `h`, if the handle is live, by `f` of it. -/
def modify (s : SlotSet α) (h : Slot) (f : α → α) : Except Fault (SlotSet α) :=
  return match ← s.locate h with
  | some (position, a) =>
    { s with cells := s.cells.modify position ({ · with value := some (f a) }) }
  | none => s

/-- Puts `a` in the place of the element behind `h`, which must be live. -/
def set (s : SlotSet α) (h : Slot) (a : α) : Except Fault (SlotSet α) := do
  match ← s.locate h with
  | some _ => s.modify h fun _ => a
  | none => throw (.staleSlot h.word)

/-- Takes the element behind `h` out, if the handle is live, and makes the handle stale. -/
def remove (s : SlotSet α) (h : Slot) : Except Fault (Option α × SlotSet α) :=
  return match ← s.locate h with
  | some (position, a) =>
    (some a,
      { cells := s.cells.modify position fun cell => ⟨cell.generation + 1, none⟩
        free := position.toUInt32 :: s.free
        size := s.size - 1 })
  | none => (none, s)

/-- The live elements with their handles, by position. -/
def entries (s : SlotSet α) : List (Slot × α) :=
  s.cells.toList.zipIdx.filterMap fun (cell, position) =>
    cell.value.map (Slot.new cell.generation position.toUInt32, ·)

/-- The handles of the live elements, by position. -/
def slots (s : SlotSet α) : List Slot :=
  s.entries.map (·.1)

/-- Replaces every live element by `f` of its handle and of it. -/
def mapEntries (s : SlotSet α) (f : Slot → α → α) : SlotSet α :=
  { s with cells := s.cells.mapIdx fun position cell =>
      { cell with value := cell.value.map (f (.new cell.generation position.toUInt32)) } }

/-- Replaces every live element by `f` of it. -/
def mapValues (s : SlotSet α) (f : α → α) : SlotSet α :=
  { s with cells := s.cells.map fun cell => { cell with value := cell.value.map f } }

/-- Whether no element is live. -/
def isEmpty (s : SlotSet α) : Bool :=
  s.size == 0

end SlotSet

end MaterialPipeline
