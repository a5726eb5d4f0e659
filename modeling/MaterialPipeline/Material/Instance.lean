import MaterialPipeline.Material.Flags
import MaterialPipeline.Material.Form
import MaterialPipeline.Material.Hooks

/-!
# Material — Instance

A material in use: the form that draws its colours, and a hook for each variant that is asked for.  A
hook is an instance as well, with a form for the variant, and with a place for hooks of its own; it is
marked, and nothing can be hung on what is marked.

* `Instance.fold` — an instance is gone through from the hooks of its hooks up to itself.
* `Instance.addHook`, `Instance.removeHook`, `Instance.reset` — what it owns.
* `Instance.attachHooks` — the hooks that a material wants under a configuration.
-/

namespace MaterialPipeline

/-- A material in use. -/
structure Instance where
  form : Form
  hooks : Hooks Instance := .empty

namespace Instance

/-! ### Going through -/

section

variable {α : Type} (g : Form → Hooks α → α)

mutual

/-- What an instance comes to, of its form and of what its hooks come to. -/
def fold : Instance → α
  | ⟨form, hooks⟩ => g form (foldHooks hooks)

/-- What each hook comes to. -/
def foldHooks : Hooks Instance → Hooks α
  | ⟨prePass, shadow, glow⟩ => ⟨foldHook prePass, foldHook shadow, foldHook glow⟩

/-- What a hook comes to, if there is one. -/
def foldHook : Option Instance → Option α
  | none => none
  | some i => some (fold i)

end

end

/-! ### Forms -/

/-- A fresh instance. -/
def new (m : Material) (format : VertexFormat) : Instance :=
  { form := { material := m, format := format } }

/-- The material. -/
def material (i : Instance) : Material :=
  i.form.material

/-- Whether the form of the instance is built. -/
def isBuilt (i : Instance) : Bool :=
  i.form.isBuilt

/-- Whether the form of the instance remembers no failure. -/
def isValid (i : Instance) : Bool :=
  i.form.isValid

/-- A fresh hook for the variant `v`. -/
def newHook (i : Instance) (v : Variant) : Instance :=
  { form := { material := i.form.material, format := i.form.format, variant := some v,
              isHook := true } }

/-- The instance itself, or a hook. -/
def resolve (i : Instance) : Option Variant → Option Instance
  | none => some i
  | some v => i.hooks.get v

/-- Puts an instance in the place of the instance itself, or of a hook. -/
def replace (i : Instance) (v : Option Variant) (j : Instance) : Instance :=
  match v with
  | none => j
  | some v => { i with hooks := i.hooks.put v ((i.hooks.get v).map fun _ => j) }

/-- The form of the instance itself, or that of a hook. -/
def formOf (i : Instance) (v : Option Variant) : Option Form :=
  (i.resolve v).map (·.form)

/-- Puts a form in the place of the form of the instance, or of a hook. -/
def setForm (i : Instance) (v : Option Variant) (f : Form) : Instance :=
  match v with
  | none => { i with form := f }
  | some v => { i with hooks := i.hooks.put v ((i.hooks.get v).map fun j => { j with form := f }) }

/-- Destroys what the forms have built: that of the instance, and then all those of its hooks. -/
def destruction : Instance → List Event :=
  fold fun form hooks => form.destruction ++ hooks.entries.flatMap (·.2)

/-- Forgets what the forms have built, and any failure. -/
def reset : Instance → Action Instance :=
  fold fun form hooks => do
    let form ← form.reset
    let hooks ← hooks.mapM id
    return { form := form, hooks := hooks }

/-! ### Hooks -/

/-- Destroys what a hook has built, if there is one. -/
def hookDestruction (hook : Option Instance) : List Event :=
  (hook.map destruction).getD []

/-- Hangs a fresh hook for `v` on the instance, in the place of another. -/
def putHook (i : Instance) (v : Variant) : Action Instance := do
  Action.perform (hookDestruction (i.hooks.get v))
  return { i with hooks := i.hooks.put v (some (i.newHook v)) }

/-- Hangs a fresh hook for `v` on the instance, unless the instance is a hook itself. -/
def addHook (i : Instance) (v : Variant) : Action (Except MaterialError Unit × Instance) := do
  if i.form.isHook then return (.error .hookOnHook, i)
  else return (.ok (), ← i.putHook v)

/-- Takes the hook for `v` off. -/
def removeHook (i : Instance) (v : Variant) : Action Instance := do
  Action.perform (hookDestruction (i.hooks.get v))
  return { i with hooks := i.hooks.put v none }

/-- Takes every hook off. -/
def clearHooks (i : Instance) : Action Instance := do
  Action.perform (i.hooks.entries.flatMap fun (_, j) => j.destruction)
  return { i with hooks := .empty }

/-- Whether a material wants a hook for `v`: for glow if it glows, ahead of colour if that is enabled
and it is opaque, and for shadows if it casts them. -/
def wants (config : Config) (m : Material) : Variant → Bool
  | .glow => m.hasGlow
  | .prePass => config.prepassEnabled && !m.translucent
  | .shadow => m.castShadows

/-- Brings one hook in line with the configuration; a wanted hook that is there stays. -/
def attachHook (config : Config) (i : Instance) (v : Variant) : Action Instance := do
  if !wants config i.material v then i.removeHook v
  else if (i.hooks.get v).isNone then
    let (result, i) ← i.addHook v
    if let .error error := result then
      let kind := Named.name v
      Action.report
        (.warn s!"Cannot attach {kind} hook to '{i.material.name}': {error.message}")
    return i
  else return i

/-- Brings every hook in line with the configuration. -/
def attachHooks (config : Config) (i : Instance) : Action Instance :=
  [Variant.glow, .prePass, .shadow].foldlM (attachHook config) i

/-- The summary of the instance. -/
def flags (i : Instance) : MaterialFlags :=
  i.hooks.variants.foldl MaterialFlags.withHook
    { translucent := i.material.translucent, glow := i.material.hasGlow,
      invalid := !i.form.isValid }

end Instance

end MaterialPipeline
