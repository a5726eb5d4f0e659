import MaterialPipeline.Session

/-!
# Frame — Target

An offscreen target that a bin draws into, created on first use.

* `OffscreenTarget.acquire` — creates the target if need be, binds it and clears it.
* `OffscreenTarget.leave` — unbinds it, and makes it ready to be read.
-/

namespace MaterialPipeline

/-- A target that is created on first use. -/
structure OffscreenTarget where
  target : Target
  clearColor : Vec4 := ⟨0, 0, 0, 0⟩
  /-- The target on the device, once it is created. -/
  handle : Option TargetHandle := none
  deriving DecidableEq

namespace OffscreenTarget

/-- The target on the device, created if need be. -/
def ensure (t : OffscreenTarget) : Action (Option TargetHandle × OffscreenTarget) := do
  match t.handle with
  | some h => return (some h, t)
  | none =>
    match ← Action.onDevice (·.createTarget t.target) with
    | .ok h =>
      Action.report (.debug
        s!"Created render target '{t.target.label}' ({t.target.width}x{t.target.height})")
      return (some h, { t with handle := some h })
    | .error error =>
      Action.report (.warn s!"Render target '{t.target.label}' unavailable: {error.message}")
      return (none, t)

/-- Binds and clears a target. -/
def enter (t : OffscreenTarget) (h : TargetHandle) : List Event :=
  [.call (.pushTarget h), .call (.clear clearAll t.clearColor 1 0)]

/-- Unbinds a target, and makes it ready to be read. -/
def leave (h : TargetHandle) : List Event :=
  [.call .popTarget, .call (.resolveTarget h)]

/-- Creates the target if need be, binds it and clears it.  A refusal leaves it as it is. -/
def acquire (t : OffscreenTarget) : Action (Option TargetHandle × OffscreenTarget) := do
  let (handle, t) ← t.ensure
  if let some h := handle then
    Action.perform (t.enter h)
  return (handle, t)

/-- Destroys the target; the next use creates it again. -/
def release (t : OffscreenTarget) : Action OffscreenTarget := do
  if let some h := t.handle then
    Action.issue (.destroyTarget h)
  return { t with handle := none }

/-- Changes the size; a target of another size is destroyed. -/
def resize (t : OffscreenTarget) (width height : Nat) : Action OffscreenTarget := do
  if t.target.width = width ∧ t.target.height = height then return t
  else
    let t ← t.release
    return { t with target := { t.target with width := width, height := height } }

end OffscreenTarget

end MaterialPipeline
