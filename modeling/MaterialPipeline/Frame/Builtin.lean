import MaterialPipeline.Frame.Bin

/-!
# Frame — Builtin

The bins of the pipeline.

* `Bin.prePass`, `Bin.terrain`, `Bin.mesh`, `Bin.object`, `Bin.translucent`, `Bin.particle`,
  `Bin.glow` — in the order in which they draw.
-/

namespace MaterialPipeline.Bin

/-- Draws in every frame; in a shadow frame, with the shadow hooks. -/
def drawsOpaque (pass : ScenePass) : Option DrawRule :=
  some ⟨.batches, if pass = .shadow then some .shadow else none, .regular⟩

/-- Draws in every frame but a shadow frame. -/
def drawsTranslucent (pass : ScenePass) : Option DrawRule :=
  if pass = .shadow then none else some ⟨.each, none, .translucent⟩

/-- Draws in a colour frame, with the hooks for `hook`. -/
def drawsHooked (hook : Variant) (kind : BinKind) (pass : ScenePass) : Option DrawRule :=
  if pass = .diffuse then some ⟨.batches, some hook, kind⟩ else none

/-- Opaque meshes, those of one material together. -/
def mesh : Bin where
  core := { name := "mesh", renderOrder := 0.5, addOrder := 1, kinds := [.mesh] }
  rules := {
    answer := BinCore.answering (fun s => s.material.isSome && !s.isTranslucent) .added
    sorting := .keys
    draws := drawsOpaque }

/-- Opaque objects that draw themselves. -/
def object : Bin where
  core := { name := "object", renderOrder := 0.6, addOrder := 1, kinds := [.object] }
  rules := {
    answer := BinCore.answering (fun s => s.delegate.isSome) .added
    sorting := .keys
    draws := fun _ => some ⟨.each, none, .regular⟩ }

/-- Terrain, that of one material together. -/
def terrain : Bin where
  core := { name := "terrain", renderOrder := 0.4, addOrder := 1, kinds := [.terrain] }
  rules := {
    answer := BinCore.answering (fun s => s.material.isSome) .added
    sorting := .keys
    draws := drawsOpaque }

/-- What lets light through, the farthest first.  No other bin sees what this one claims. -/
def translucent : Bin where
  core := { name := "translucent", renderOrder := 1, addOrder := 1, kinds := [] }
  rules := {
    answer := BinCore.answering
      (fun s => s.isTranslucent && !(s.kind == .objectTranslucent && s.delegate.isNone)) .stopped
    sorting := .backToFront
    draws := drawsTranslucent }

/-- Particles, the farthest first, into a target of their own if a size is given. -/
def particle (size : Option (Nat × Nat)) : Bin where
  core := { name := "particle", renderOrder := 1.2, addOrder := 0.9, kinds := [.particle] }
  rules := {
    answer := BinCore.answering (fun s => s.material.isSome) .stopped
    sorting := .backToFront
    draws := drawsTranslucent }
  target := size.map fun (width, height) =>
    { target := { label := "particles", width := width, height := height,
                  format := .rgba16Float } }

/-- Depth and normals of opaque geometry, the nearest first, into a target of their own. -/
def prePass (width height : Nat) : Bin where
  core := { name := "prepass", renderOrder := 0.01, addOrder := 0.01, kinds := [.mesh, .terrain] }
  rules := {
    answer := BinCore.answering (fun s => s.flags.prePassHook && !s.isTranslucent) .added
    sorting := .frontToBack
    draws := drawsHooked .prePass .prePass }
  target := some {
    target := { label := "prepass", width := width, height := height, format := .rgba16Float,
                withDepth := true }
    clearColor := ⟨0, 0, 1, 1⟩ }

/-- What glows, into a target of its own. -/
def glow (width height : Nat) : Bin where
  core := { name := "glow", renderOrder := 1.5, addOrder := 1, kinds := [] }
  rules := {
    answer := BinCore.answering (fun s => s.flags.glowHook) .added
    sorting := .keys
    draws := drawsHooked .glow .glow }
  target := some {
    target := { label := "glow", width := width, height := height, format := .rgba8Unorm,
                withDepth := true } }

/-- Every built-in bin, for targets of a size; without one, particles draw where the frame does. -/
def standard (size : Option (Nat × Nat)) : List Bin :=
  let (width, height) := size.getD (0, 0)
  [prePass width height, terrain, mesh, object, translucent, particle size, glow width height]

/-- The built-in bin of a name, for targets of a size. -/
def standard? (name : String) (size : Option (Nat × Nat)) : Option Bin :=
  (standard size).find? (·.name == name)

/-- A bin of other rules: it claims what it may, and answers, sorts and draws as given. -/
def custom (name : String) (answer : Claim) (sorting : SortRule) (draws : Option DrawRule) :
    Bin where
  core := { name := name, renderOrder := 1, addOrder := 1, kinds := [] }
  rules := {
    answer := BinCore.answering (fun _ => true) answer
    sorting := sorting
    draws := fun _ => draws }

end MaterialPipeline.Bin
