import MaterialPipeline.Text.Named

/-!
# Material — Map

The texture maps that a material stage may author.
-/

namespace MaterialPipeline

/-- A kind of texture map. -/
inductive MapKind where
  | diffuse | overlay | detail | normal | specular | cube | tone
  deriving DecidableEq, Repr, Inhabited

instance : Named MapKind where
  table := [(.diffuse, "Diffuse"), (.overlay, "Overlay"), (.detail, "Detail"),
    (.normal, "Normal"), (.specular, "Specular"), (.cube, "Cube"), (.tone, "ToneMap")]

end MaterialPipeline
