import MaterialPipeline.Proofs.Feature.Sharing
import MaterialPipeline.Proofs.Program.Agreement

/-!
# Proofs — Feature — Constants

What the built-in programs declare as constants, as data.  A constant has a name of its own, which
holds the number of a stage if it belongs to one, and a type.

* `Constant`: the constants (`name_injective`).
* `Constant.neededBy`: which of them an entry declares (`uniforms_builtin`).
* `Registry.exists_constant`: a program declares constants that its entries need, and nothing else.
-/

namespace MaterialPipeline

/-- A constant of a program. -/
inductive Constant where
  | modelview
  /-- Where an object stands; the built-in programs read it without declaring it. -/
  | world
  /-- The texture matrix of a stage. -/
  | matrix (stage : Option Nat)
  /-- The eye, seen from an object. -/
  | eyeObject
  | eyeWorld
  | fogRange
  | fogColor
  | visibility
  | lightPosition
  | lightColor
  | ambient
  | alphaReference
  | color (stage : Option Nat)
  | detailScale (stage : Option Nat)
  | parallaxScale (stage : Option Nat)
  | specularColor
  | specularPower
  | glow
  deriving DecidableEq

namespace Constant

variable {id : FeatureId} {stage : Option Nat} {k : Constant}

/-- The name without a number. -/
def base : Constant → String
  | modelview => "modelview"
  | world => "objTrans"
  | matrix _ => "texMat"
  | eyeObject => "eyePosObj"
  | eyeWorld => "eyePosWorld"
  | fogRange => "fogData"
  | fogColor => "fogColor"
  | visibility => "visibility"
  | lightPosition => "inLightPos"
  | lightColor => "inLightColor"
  | ambient => "ambient"
  | alphaReference => "alphaTestValue"
  | color _ => "diffuseMaterialColor"
  | detailScale _ => "detailScale"
  | parallaxScale _ => "parallaxInfo"
  | specularColor => "specularColor"
  | specularPower => "specularPower"
  | glow => "glowMul"

/-- The number in the name. -/
def number : Constant → Option Nat
  | matrix stage | color stage | detailScale stage | parallaxScale stage => stage
  | _ => none

/-- The name in programs. -/
def name (k : Constant) : String :=
  Scope.indexedName k.number k.base

/-- The type in programs. -/
def type : Constant → UniformType
  | modelview | world | matrix _ => .float4x4
  | eyeObject | eyeWorld | fogRange => .float3
  | fogColor | lightPosition | lightColor | ambient | color _ | specularColor => .float4
  | detailScale _ => .float2
  | visibility | alphaReference | parallaxScale _ | specularPower | glow => .float

/-- The declaration. -/
def uniform (k : Constant) : Uniform :=
  ⟨k.name, k.type⟩

theorem plain_base (k : Constant) : Scope.Plain k.base := by
  cases k <;> (simp only [base]; decide +kernel)

theorem name_injective {k l : Constant} (h : k.name = l.name) : k = l := by
  obtain ⟨hbase, hnumber⟩ := Scope.indexedName_inj k.plain_base l.plain_base h
  cases k <;> cases l <;> first
    | rfl
    | (simp only [base, String.reduceEq] at hbase; done)
    | (simp only [number] at hnumber; rw [hnumber])

/-- The types whose entries declare the constant. -/
def types : Constant → List FeatureId
  | modelview => [FeatureType.vertTransform.id]
  | world => []
  | matrix _ => [FeatureType.texAnim.id]
  | eyeObject | parallaxScale _ => [FeatureType.parallax.id]
  | eyeWorld => [FeatureType.pixSpecular.id, FeatureType.cubeMap.id]
  | fogRange | fogColor => [FeatureType.fog.id]
  | visibility => [FeatureType.visibility.id]
  | lightPosition | lightColor | ambient => [FeatureType.rtLighting.id]
  | alphaReference => [FeatureType.alphaTest.id]
  | color _ => [FeatureType.diffuseColor.id]
  | detailScale _ => [FeatureType.detailMap.id]
  | specularColor | specularPower => [FeatureType.pixSpecular.id]
  | glow => [FeatureType.glowMask.id]

/-- Every constant that an entry of the stage may declare. -/
def all (stage : Option Nat) : List Constant :=
  [modelview, matrix stage, eyeObject, parallaxScale stage, detailScale stage, color stage,
    alphaReference, lightPosition, lightColor, ambient, specularColor, specularPower, eyeWorld,
    fogRange, fogColor, visibility, glow]

/-- What an entry of the type numbered `id` declares. -/
def neededBy (id : FeatureId) (stage : Option Nat) : List Constant :=
  (all stage).filter fun k => id ∈ k.types

theorem mem_neededBy : k ∈ neededBy id stage ↔ k ∈ all stage ∧ id ∈ k.types := by
  rw [neededBy, List.mem_filter, decide_eq_true_eq]

end Constant

namespace Generator

/-- The constants that a generator declares, first in the vertex half. -/
def uniforms (g : Generator) (c : Scope) : List Uniform :=
  (g.vertex c).filterMap (·.uniform?) ++ (g.pixel c).filterMap (·.uniform?)

theorem uniforms_coordVertex (c : Scope) (id : FeatureId) :
    (coordVertex c id).filterMap (·.uniform?) = [] := by
  unfold coordVertex
  split
  · rfl
  · split <;> rfl

/-- A map declares the constants of its pixel half. -/
theorem uniforms_of_map {g : Generator} {id : FeatureId} (hvertex : g.vertex = (coordVertex · id))
    (hpixel : ∀ c, (g.pixel c).filterMap (·.uniform?) =
      (Constant.neededBy id c.stage).map Constant.uniform) (c : Scope) :
    g.uniforms c = (Constant.neededBy id c.stage).map Constant.uniform := by
  rw [uniforms, hvertex, uniforms_coordVertex, hpixel, List.nil_append]

theorem uniforms_parallax (c : Scope) : parallax.uniforms c =
    (Constant.neededBy FeatureType.parallax.id c.stage).map Constant.uniform := by
  rw [uniforms, parallax, List.filterMap_append, uniforms_coordVertex]
  rfl

theorem uniforms_normalMap (c : Scope) : normalMap.uniforms c =
    (Constant.neededBy FeatureType.normalMap.id c.stage).map Constant.uniform := by
  rw [uniforms, normalMap, List.filterMap_append, uniforms_coordVertex]
  split <;> rfl

theorem uniforms_rtLighting (c : Scope) : rtLighting.uniforms c =
    (Constant.neededBy FeatureType.rtLighting.id c.stage).map Constant.uniform := by
  simp only [uniforms, rtLighting]
  split <;> rfl

/-- The built-in generators declare what their entries need. -/
theorem uniforms_builtin : ∀ p ∈ builtin, ∀ c, p.2.uniforms c =
    (Constant.neededBy p.1.id c.stage).map Constant.uniform := by
  simp only [builtin, List.forall_mem_cons, List.not_mem_nil, false_imp_iff, implies_true, and_true]
  exact ⟨fun _ => rfl, fun _ => rfl, uniforms_parallax, uniforms_of_map rfl fun _ => rfl,
    uniforms_of_map rfl fun _ => rfl, uniforms_of_map rfl fun _ => rfl, fun _ => rfl,
    uniforms_normalMap, uniforms_of_map rfl fun _ => rfl, fun _ => rfl, fun _ => rfl,
    fun _ => rfl, fun _ => rfl, uniforms_rtLighting, fun _ => rfl, fun _ => rfl, fun _ => rfl,
    fun _ => rfl, fun _ => rfl, fun _ => rfl, fun _ => rfl, fun _ => rfl, fun _ => rfl,
    fun _ => rfl⟩

end Generator

/-- A constant of a program is one that an entry of its set needs. -/
theorem Registry.exists_constant {format : VertexFormat} {label : String} {set : FeatureSet}
    {u : Uniform} (hu : u ∈ (builtin.assemble format label set).uniforms) :
    ∃ k id stage, set.hasAt id stage = true ∧ k ∈ Constant.neededBy id stage ∧ u = k.uniform := by
  obtain ⟨half, emission, hemission, hu⟩ := builtin.mem_uniforms_assemble format label set hu
  obtain ⟨⟨e, stage⟩, hvisit, hemission⟩ := List.mem_flatMap.mp hemission
  obtain ⟨he, hat⟩ := mem_visits.mp hvisit
  have hmem : u ∈ e.generator.uniforms ⟨set, stage, format⟩ := by
    cases half with
    | vertex => exact List.mem_append_left _ (List.mem_filterMap.mpr ⟨emission, hemission, hu⟩)
    | pixel => exact List.mem_append_right _ (List.mem_filterMap.mpr ⟨emission, hemission, hu⟩)
  rw [entries_builtin] at he
  obtain ⟨⟨type, generator⟩, hp, rfl⟩ := List.mem_map.mp he
  rw [Generator.uniforms_builtin _ hp] at hmem
  obtain ⟨k, hk, rfl⟩ := List.mem_map.mp hmem
  exact ⟨k, type.id, stage, hat, hk, rfl⟩

end MaterialPipeline
