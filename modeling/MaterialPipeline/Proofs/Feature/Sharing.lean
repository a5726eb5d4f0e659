import MaterialPipeline.Feature.Builtin
import MaterialPipeline.Proofs.Feature.Numbered
import MaterialPipeline.Proofs.Feature.Union
import Mathlib.Data.List.Nodup

/-!
# Proofs — Feature — Sharing

What the built-in features share, as data.  A varying or a texture is needed by some entries of a
set, and one of them pays for it.

* `Varying`, `TextureSource`: the things that are shared, each with a name of its own
  (`name_injective`, `samplerName_injective`).
* `neededBy`, `payer`: which entries need a thing, and which one pays.  The payer always is in the
  set and needs the thing itself (`payer_spec`).
* `FeatureSet.Placed`: the entries of texture features carry a stage, and no others do.
* `FeatureSet.Reads`: a set reads a texture.

The entries that need a thing depend on the entry alone, but who pays depends on the whole set.
-/

namespace MaterialPipeline

/-! ### Stages -/

namespace FeatureType

/-- The types that serve one stage of a material. -/
def staged : List FeatureId :=
  [texAnim.id, parallax.id, diffuseMap.id, overlayMap.id, detailMap.id, diffuseColor.id,
    normalMap.id, specularMap.id, toneMap.id, cubeMap.id]

/-- Whether an entry of the type numbered `id` may carry the stage: only those that serve a stage
do, and they always do. -/
def Suits (id : FeatureId) (stage : Option Nat) : Prop :=
  stage.isSome = true ↔ id ∈ staged

end FeatureType

/-- Every entry carries a stage if its type serves one, and else none. -/
def FeatureSet.Placed (set : FeatureSet) : Prop :=
  ∀ id stage, set.hasAt id stage = true → FeatureType.Suits id stage

namespace FeatureType.Suits

variable {id : FeatureId} {stage : Option Nat}

theorem none (h : id ∉ staged) : Suits id .none :=
  ⟨fun hsome => absurd hsome Bool.false_ne_true, fun hid => absurd hid h⟩

theorem some (h : id ∈ staged) (n : Nat) : Suits id (.some n) :=
  ⟨fun _ => h, fun _ => rfl⟩

theorem eq_none (h : Suits id stage) (hid : id ∉ staged) : stage = .none :=
  Option.not_isSome_iff_eq_none.mp fun hsome => hid (h.mp hsome)

theorem eq_some (h : Suits id stage) (hid : id ∈ staged) : ∃ n, stage = .some n :=
  Option.isSome_iff_exists.mp (h.mpr hid)

end FeatureType.Suits

variable {set : FeatureSet} {id : FeatureId} {stage : Option Nat}

/-- The first type of a stage out of several, if one of them is there. -/
theorem exists_find?_hasAt {ids : List FeatureId} (hid : id ∈ ids)
    (h : set.hasAt id stage = true) :
    ∃ first, ids.find? (set.hasAt · stage) = some first ∧ first ∈ ids ∧
      set.hasAt first stage = true := by
  have hsome : (ids.find? (set.hasAt · stage)).isSome = true :=
    List.find?_isSome.mpr ⟨id, hid, h⟩
  obtain ⟨first, hfirst⟩ := Option.isSome_iff_exists.mp hsome
  have hpresent := List.find?_some hfirst
  exact ⟨first, hfirst, List.mem_of_find?_eq_some hfirst, hpresent⟩

/-- The first stage of a type, if it has one. -/
theorem exists_head?_stagesOf (h : set.hasAt id stage = true) :
    ∃ first, (set.stagesOf id).head? = some first ∧ set.hasAt id first = true := by
  have hne := List.ne_nil_of_mem (FeatureSet.mem_stagesOf.mpr h)
  exact ⟨_, List.head?_eq_some_head hne, FeatureSet.mem_stagesOf.mp (List.head_mem hne)⟩

/-! ### Varyings -/

/-- A value that runs from the vertex to the pixel half. -/
inductive Varying where
  /-- The texture coordinate of a stage. -/
  | coord (stage : Option Nat)
  /-- The direction to the eye, for parallax. -/
  | eye
  /-- A row of the tangent frame, for normal maps. -/
  | frame (row : Fin 3)
  | vertexColor
  /-- The coordinate of the light map and of tone maps. -/
  | lightCoord
  | position
  | normal
  /-- The direction of reflection of a stage. -/
  | reflection (stage : Option Nat)
  | normalDepth
  | depth
  deriving DecidableEq

namespace Varying

/-- The name without a number. -/
def base : Varying → String
  | coord _ => "texCoord"
  | eye => "eyeTangent"
  | frame _ => "tangentFrame"
  | vertexColor => "vertColor"
  | lightCoord => "lmCoord"
  | position => "wsPosition"
  | normal => "wsNormal"
  | reflection _ => "reflectVec"
  | normalDepth => "vsNormalDepth"
  | depth => "depth"

/-- The number in the name. -/
def number : Varying → Option Nat
  | coord stage | reflection stage => stage
  | frame row => some row
  | _ => none

/-- The name in programs. -/
def name (v : Varying) : String :=
  Scope.indexedName v.number v.base

theorem plain_base (v : Varying) : Scope.Plain v.base := by
  cases v <;> (simp only [base]; decide +kernel)

theorem name_injective {v w : Varying} (h : v.name = w.name) : v = w := by
  obtain ⟨hbase, hnumber⟩ := Scope.indexedName_inj v.plain_base w.plain_base h
  cases v <;> cases w <;> first
    | rfl
    | (simp only [base, String.reduceEq] at hbase; done)
    | (simp only [number, Option.some.injEq, Fin.val_inj] at hnumber; rw [hnumber])

/-- The types whose entries need the value. -/
def types : Varying → List FeatureId
  | coord _ => Generator.coordTypes
  | eye => [FeatureType.parallax.id]
  | frame _ => [FeatureType.normalMap.id]
  | vertexColor => [FeatureType.vertLit.id]
  | lightCoord => [FeatureType.lightMap.id, FeatureType.toneMap.id]
  | position | normal => [FeatureType.rtLighting.id]
  | reflection _ => [FeatureType.cubeMap.id]
  | normalDepth => [FeatureType.prePassConditioner.id]
  | depth => [FeatureType.depthOut.id]

/-- Every value that an entry of the stage may need. -/
def all (stage : Option Nat) : List Varying :=
  [coord stage, eye, frame 0, frame 1, frame 2, vertexColor, lightCoord, position, normal,
    reflection stage, normalDepth, depth]

/-- What an entry of the type numbered `id` needs. -/
def neededBy (id : FeatureId) (stage : Option Nat) : List Varying :=
  (all stage).filter fun v => id ∈ v.types

/-- The entry that pays for a value within a set. -/
def payer (set : FeatureSet) : Varying → Option (FeatureId × Option Nat)
  | coord stage => (Generator.coordTypes.find? (set.hasAt · stage)).map (·, stage)
  | eye => (set.stagesOf FeatureType.parallax.id).head?.map (FeatureType.parallax.id, ·)
  | frame _ => (set.stagesOf FeatureType.normalMap.id).head?.map (FeatureType.normalMap.id, ·)
  | vertexColor => some (FeatureType.vertLit.id, none)
  | lightCoord =>
    if set.has FeatureType.lightMap.id then some (FeatureType.lightMap.id, none)
    else (set.stagesOf FeatureType.toneMap.id).head?.map (FeatureType.toneMap.id, ·)
  | position | normal => some (FeatureType.rtLighting.id, none)
  | reflection stage => some (FeatureType.cubeMap.id, stage)
  | normalDepth => some (FeatureType.prePassConditioner.id, none)
  | depth => some (FeatureType.depthOut.id, none)

theorem mem_neededBy {v : Varying} : v ∈ neededBy id stage ↔ v ∈ all stage ∧ id ∈ v.types := by
  rw [neededBy, List.mem_filter, decide_eq_true_eq]

theorem nodup_neededBy (id : FeatureId) (stage : Option Nat) : (neededBy id stage).Nodup := by
  refine List.Nodup.filter _ ?_
  simp [all]

/-- The payer is in the set, and needs the value itself. -/
theorem payer_spec {v : Varying} (hset : set.Placed) (h : set.hasAt id stage = true)
    (hv : v ∈ neededBy id stage) :
    ∃ w : FeatureId × Option Nat,
      v.payer set = some w ∧ set.hasAt w.1 w.2 = true ∧ v ∈ neededBy w.1 w.2 := by
  obtain ⟨hall, htypes⟩ := mem_neededBy.mp hv
  have hsuits := hset id stage h
  cases v with
  | coord own =>
      obtain rfl : own = stage := by simpa [all] using hall
      obtain ⟨first, hfind, hmem, hfirst⟩ := exists_find?_hasAt htypes h
      refine ⟨(first, own), ?_, hfirst, mem_neededBy.mpr ⟨hall, hmem⟩⟩
      rw [types] at hfind
      rw [payer, hfind, Option.map_some]
  | reflection own =>
      obtain rfl : own = stage := by simpa [all] using hall
      obtain rfl := List.mem_singleton.mp htypes
      exact ⟨_, rfl, h, hv⟩
  | eye =>
      -- The payer is the first stage of the type, wherever the entry itself stands.
      obtain rfl := List.mem_singleton.mp htypes
      obtain ⟨first, hhead, hfirst⟩ := exists_head?_stagesOf h
      refine ⟨(_, first), ?_, hfirst, mem_neededBy.mpr ⟨by simp [all], htypes⟩⟩
      rw [payer, hhead, Option.map_some]
  | frame row =>
      obtain rfl := List.mem_singleton.mp htypes
      obtain ⟨first, hhead, hfirst⟩ := exists_head?_stagesOf h
      refine ⟨(_, first), ?_, hfirst, mem_neededBy.mpr ⟨by simpa [all] using hall, htypes⟩⟩
      rw [payer, hhead, Option.map_some]
  | lightCoord =>
      by_cases hmap : set.has FeatureType.lightMap.id
      · -- The light map is there, so it pays, whichever entry asks.
        obtain ⟨own, hown⟩ := FeatureSet.has_iff.mp hmap
        obtain rfl := (hset _ own hown).eq_none (by decide)
        refine ⟨_, if_pos hmap, hown, mem_neededBy.mpr ⟨by simp [all], List.mem_cons_self⟩⟩
      · have hid : id ≠ FeatureType.lightMap.id := fun e =>
          hmap (FeatureSet.has_iff.mpr ⟨stage, e ▸ h⟩)
        obtain rfl := List.mem_singleton.mp ((List.mem_cons.mp htypes).resolve_left hid)
        obtain ⟨first, hhead, hfirst⟩ := exists_head?_stagesOf h
        refine ⟨(_, first), ?_, hfirst, mem_neededBy.mpr ⟨by simp [all], htypes⟩⟩
        rw [payer, if_neg hmap, hhead, Option.map_some]
  | vertexColor | position | normal | normalDepth | depth =>
      obtain rfl := List.mem_singleton.mp htypes
      obtain rfl := hsuits.eq_none (by decide)
      exact ⟨_, rfl, h, hv⟩

end Varying

/-! ### Textures -/

namespace TextureSource

/-- The name of the sampler without a number. -/
def base : TextureSource → String
  | .map _ .diffuse => "diffuseMap"
  | .map _ .overlay => "overlayMap"
  | .map _ .detail => "detailMap"
  | .map _ .normal => "bumpMap"
  | .map _ .specular => "specularMap"
  | .map _ .cube => "cubeMap"
  | .map _ .tone => "toneMap"
  | .lightMap => "lightMap"

/-- The number in the name of the sampler. -/
def number : TextureSource → Option Nat
  | .map stage _ => some stage
  | .lightMap => none

/-- The name of the sampler. -/
def samplerName (t : TextureSource) : String :=
  Scope.indexedName t.number t.base

theorem plain_base (t : TextureSource) : Scope.Plain t.base := by
  cases t with
  | map stage kind => cases kind <;> (simp only [base]; decide +kernel)
  | lightMap => simp only [base]; decide +kernel

theorem samplerName_injective {t u : TextureSource} (h : t.samplerName = u.samplerName) :
    t = u := by
  obtain ⟨hbase, hnumber⟩ := Scope.indexedName_inj t.plain_base u.plain_base h
  cases t with
  | lightMap =>
      cases u with
      | lightMap => rfl
      | map => cases hnumber
  | map m kind =>
      cases u with
      | lightMap => cases hnumber
      | map n kind' =>
          cases hnumber
          cases kind <;> cases kind' <;> first
            | rfl
            | (simp only [base, String.reduceEq] at hbase)

/-- The types whose entries read the texture. -/
def types : TextureSource → List FeatureId
  | .map _ .diffuse => [FeatureType.diffuseMap.id]
  | .map _ .overlay => [FeatureType.overlayMap.id]
  | .map _ .detail => [FeatureType.detailMap.id]
  | .map _ .normal => [FeatureType.parallax.id, FeatureType.normalMap.id]
  | .map _ .specular => [FeatureType.specularMap.id]
  | .map _ .cube => [FeatureType.cubeMap.id]
  | .map _ .tone => [FeatureType.toneMap.id]
  | .lightMap => [FeatureType.lightMap.id]

/-- Every texture that an entry of the stage may read. -/
def all (stage : Option Nat) : List TextureSource :=
  .lightMap :: [MapKind.diffuse, .overlay, .detail, .normal, .specular, .cube, .tone].map
    (.map (stage.getD 0))

/-- What an entry of the type numbered `id` reads. -/
def neededBy (id : FeatureId) (stage : Option Nat) : List TextureSource :=
  (all stage).filter fun t => id ∈ t.types

/-- The entry that pays for a texture within a set. -/
def payer (set : FeatureSet) (t : TextureSource) : Option (FeatureId × Option Nat) :=
  (t.types.find? (set.hasAt · t.number)).map (·, t.number)

theorem mem_neededBy {t : TextureSource} :
    t ∈ neededBy id stage ↔ t ∈ all stage ∧ id ∈ t.types := by
  rw [neededBy, List.mem_filter, decide_eq_true_eq]

theorem nodup_neededBy (id : FeatureId) (stage : Option Nat) : (neededBy id stage).Nodup := by
  refine List.Nodup.filter _ ?_
  simp [all]

/-- An entry that may carry its stage has the number of what it reads. -/
theorem number_eq {t : TextureSource} (hsuits : FeatureType.Suits id stage)
    (ht : t ∈ neededBy id stage) : t.number = stage := by
  obtain ⟨hall, htypes⟩ := mem_neededBy.mp ht
  rcases List.mem_cons.mp hall with rfl | hmap
  · obtain rfl := List.mem_singleton.mp htypes
    exact (hsuits.eq_none (by decide)).symm
  · obtain ⟨kind, -, rfl⟩ := List.mem_map.mp hmap
    have hstaged : id ∈ FeatureType.staged := by
      have hsub : ∀ id ∈ (TextureSource.map 0 kind).types, id ∈ FeatureType.staged := by
        cases kind <;> decide
      exact hsub id (by cases kind <;> exact htypes)
    obtain ⟨n, rfl⟩ := hsuits.eq_some hstaged
    rfl

/-- The payer is in the set, and reads the texture itself. -/
theorem payer_spec {t : TextureSource} (hset : set.Placed) (h : set.hasAt id stage = true)
    (ht : t ∈ neededBy id stage) :
    ∃ w : FeatureId × Option Nat,
      t.payer set = some w ∧ set.hasAt w.1 w.2 = true ∧ t ∈ neededBy w.1 w.2 := by
  obtain ⟨hall, htypes⟩ := mem_neededBy.mp ht
  have hnumber := number_eq (hset id stage h) ht
  obtain ⟨first, hfind, hmem, hfirst⟩ := exists_find?_hasAt htypes h
  refine ⟨(first, stage), ?_, hfirst, mem_neededBy.mpr ⟨hall, hmem⟩⟩
  rw [payer, hnumber, hfind, Option.map_some]

end TextureSource

/-- Some entry of the set reads the texture. -/
def FeatureSet.Reads (set : FeatureSet) (t : TextureSource) : Prop :=
  ∃ id stage, set.hasAt id stage = true ∧ t ∈ TextureSource.neededBy id stage

/-- A set with fewer entries reads fewer textures. -/
theorem FeatureSet.Reads.mono {a b : FeatureSet} {t : TextureSource} (ht : a.Reads t)
    (h : ∀ id stage, a.hasAt id stage = true → b.hasAt id stage = true) : b.Reads t := by
  obtain ⟨id, stage, hat, ht⟩ := ht
  exact ⟨id, stage, h id stage hat, ht⟩

/-- A union reads what one of the sets reads. -/
theorem FeatureSet.reads_mergeAll {sets : List FeatureSet} {t : TextureSource} :
    (mergeAll sets).Reads t ↔ ∃ a ∈ sets, a.Reads t := by
  simp only [Reads, hasAt_mergeAll]
  constructor
  · rintro ⟨id, stage, ⟨a, ha, hat⟩, ht⟩
    exact ⟨a, ha, id, stage, hat, ht⟩
  · rintro ⟨a, ha, id, stage, hat, ht⟩
    exact ⟨id, stage, ⟨a, ha, hat⟩, ht⟩

end MaterialPipeline
