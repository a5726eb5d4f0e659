import MaterialPipeline.Material.Variant

/-!
# Material — Hooks

What hangs on an instance, at most one for each variant.  The order of the variants is prepass,
shadow, glow.

* `HookTable` — a list of variants and values, which is put in order whenever it grows.
* `Hooks` — a place for each variant.
* `Hooks.get`, `Hooks.put`, `Hooks.entries`, `Hooks.table` — the places, and the list of them.
* `Hooks.map`, `Hooks.mapM` — each value in its place.
-/

namespace MaterialPipeline

/-! ### Lists -/

/-- The place of a variant in the order of variants. -/
def Variant.rank : Variant → Nat
  | prePass => 0
  | shadow => 1
  | glow => 2

/-- Values with their variants. -/
structure HookTable (α : Type) where
  entries : List (Variant × α) := []
  deriving Repr, Inhabited

namespace HookTable

variable {α : Type}

/-- The table without values. -/
def empty : HookTable α := {}

/-- The value of a variant. -/
def get (t : HookTable α) (v : Variant) : Option α :=
  (t.entries.find? (·.1 = v)).map (·.2)

/-- Whether a variant has a value. -/
def contains (t : HookTable α) (v : Variant) : Bool :=
  (t.get v).isSome

/-- The entries with `a` in the place of the first value of a variant. -/
def replaceFirst (v : Variant) (a : α) : List (Variant × α) → List (Variant × α)
  | [] => []
  | entry :: rest => if entry.1 = v then (v, a) :: rest else entry :: replaceFirst v a rest

/-- Inserts the value of a variant, in the place of another or else at the end, and says which value
it replaces. -/
def insert (t : HookTable α) (v : Variant) (a : α) : Option α × HookTable α :=
  match t.get v with
  | some old => (some old, ⟨replaceFirst v a t.entries⟩)
  | none => (none, ⟨(t.entries ++ [(v, a)]).mergeSort (·.1.rank ≤ ·.1.rank)⟩)

/-- Takes the value of a variant out, and says which value that was. -/
def remove (t : HookTable α) (v : Variant) : Option α × HookTable α :=
  (t.get v, ⟨t.entries.eraseP (·.1 = v)⟩)

/-- Takes every value out. -/
def clear (_ : HookTable α) : HookTable α :=
  empty

/-- The variants that have a value, in order. -/
def variants (t : HookTable α) : List Variant :=
  t.entries.map (·.1)

/-- The number of values. -/
def size (t : HookTable α) : Nat :=
  t.entries.length

end HookTable

/-! ### Places -/

/-- At most one value for each variant. -/
structure Hooks (α : Type) where
  prePass : Option α := none
  shadow : Option α := none
  glow : Option α := none
  deriving Repr, Inhabited

namespace Hooks

variable {α β : Type}

/-- The table without values. -/
def empty : Hooks α := {}

/-- The value of a variant. -/
def get (h : Hooks α) : Variant → Option α
  | .prePass => h.prePass
  | .shadow => h.shadow
  | .glow => h.glow

/-- Replaces the value of a variant, or takes it out. -/
def put (h : Hooks α) (v : Variant) (a : Option α) : Hooks α :=
  match v with
  | .prePass => { h with prePass := a }
  | .shadow => { h with shadow := a }
  | .glow => { h with glow := a }

/-- The values with their variants, in order. -/
def entries (h : Hooks α) : List (Variant × α) :=
  [Variant.prePass, .shadow, .glow].filterMap fun v => (h.get v).map (v, ·)

/-- The list of the values. -/
def table (h : Hooks α) : HookTable α :=
  ⟨h.entries⟩

/-- The variants that have a value, in order. -/
def variants (h : Hooks α) : List Variant :=
  h.entries.map (·.1)

/-- The number of values. -/
def size (h : Hooks α) : Nat :=
  h.entries.length

/-- Replaces every value by `f` of it. -/
def map (h : Hooks α) (f : α → β) : Hooks β :=
  ⟨h.prePass.map f, h.shadow.map f, h.glow.map f⟩

/-- Runs `f` on each value, in order. -/
def mapM {m : Type → Type} [Monad m] (h : Hooks α) (f : α → m β) : m (Hooks β) := do
  let on (a : Option α) : m (Option β) := match a with
    | some a => return some (← f a)
    | none => return none
  let prePass ← on h.prePass
  let shadow ← on h.shadow
  let glow ← on h.glow
  return ⟨prePass, shadow, glow⟩

end Hooks

end MaterialPipeline
