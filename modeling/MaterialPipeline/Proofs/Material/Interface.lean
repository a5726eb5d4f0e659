import MaterialPipeline.Proofs.Material.Without
import MaterialPipeline.Proofs.Program.Coordinates
import MaterialPipeline.Proofs.Program.Scoped

/-!
# Proofs — Material — Interface

What the two halves of a program, and the values that are set from outside, know each other by.

* `Constant.name`, `TextureSource.samplerName`, `Varying.name`: no name of one kind is a name of
another (`Varying.not_notable`, `TextureSource.not_notable`, `Varying.name_ne_samplerName`).
* `Generator.matrix_mem_coordText`: which texture matrix moves a coordinate.
* `Draft.Consistent`: names are declared once, samplers stand in their slots, and what is declared
to run between the halves is computed, the coordinates by one line each.
* `Material.consistent_layers`: the programs of materials are consistent.
-/

namespace MaterialPipeline

open Words

/-! ### Names of different kinds -/

/-- No sampler has the name of a constant. -/
theorem TextureSource.not_notable (t : TextureSource) : ¬ Constant.Notable t.samplerName := by
  have hbase : t.base ≠ "let" ∧ t.base ∉ Constant.bases := by
    cases t with
    | lightMap => simp only [base]; decide
    | map stage kind => cases kind <;> (simp only [base]; decide)
  exact Constant.not_notable_indexedName t.plain_base hbase.1 hbase.2 t.number

namespace Varying

/-- The names of varyings, without numbers. -/
def bases : List String :=
  (all none).map base

theorem base_mem_bases (v : Varying) : v.base ∈ bases := by
  cases v <;> simp [bases, all, base]

/-- No varying has the name of a constant. -/
theorem not_notable (v : Varying) : ¬ Constant.Notable v.name := by
  have hall : ∀ base ∈ bases, base ≠ "let" ∧ base ∉ Constant.bases := by decide
  obtain ⟨hlet, hbase⟩ := hall v.base v.base_mem_bases
  exact Constant.not_notable_indexedName v.plain_base hlet hbase v.number

/-- No varying has the name of a sampler. -/
theorem name_ne_samplerName (v : Varying) (t : TextureSource) : v.name ≠ t.samplerName := by
  intro h
  have hbase := (Scope.indexedName_inj v.plain_base t.plain_base h).1
  have hforeign : t.base ∉ bases := by
    cases t with
    | lightMap => simp only [TextureSource.base]; decide
    | map stage kind => cases kind <;> (simp only [TextureSource.base]; decide)
  exact hforeign (hbase ▸ v.base_mem_bases)

end Varying

/-- Of the texture matrices, a line that computes a coordinate names that of its stage if it moves
the coordinate, and else none. -/
theorem Generator.matrix_mem_coordText {stage other : Option Nat} {moves : Bool} :
    (Constant.matrix other).name ∈ identifiers (coordText stage moves) ↔
      moves = true ∧ other = stage := by
  have hcoord : (Constant.matrix other).name ≠ (Varying.coord stage).name := fun h =>
    (Varying.coord stage).not_notable (.inr ⟨_, h⟩)
  have hforeign : ∀ word ∈ ["vec4", "f32", "uv0", "xy"], (Constant.matrix other).name ≠ word := by
    have hcheck : ["vec4", "f32", "uv0", "xy"].all Constant.foreign = true := by decide
    exact fun word hword h =>
      Constant.not_notable_of_foreign (List.all_eq_true.mp hcheck word hword) (.inr ⟨_, h⟩)
  rw [identifiers_coordText, List.mem_cons, or_iff_right hcoord]
  cases moves with
  | false =>
      refine iff_of_false (fun h => ?_) fun h => Bool.false_ne_true h.1
      exact hforeign "uv0" (by simp) (List.mem_singleton.mp h)
  | true =>
      rw [if_pos rfl, List.mem_cons, or_iff_left fun h => hforeign _ h rfl, and_iff_right rfl]
      constructor
      · intro h
        exact Constant.matrix.inj (Constant.name_injective (l := .matrix stage) h)
      · rintro rfl
        rfl

/-! ### Consistent programs -/

/-- The names that a program declares are known by one thing each, and what it declares to run
between its halves is computed. -/
structure Draft.Consistent (d : Draft) (set : FeatureSet) : Prop where
  /-- No two constants, samplers and varyings have one name. -/
  nodup : (d.uniforms.map (·.name) ++ d.samplers.map (·.name) ++ d.varyings.map (·.name)).Nodup
  slots : d.samplers.map (·.slot) = List.range d.samplers.length
  computes : ∀ v ∈ d.varyings, d.Computes v.name
  /-- One line computes the coordinate of a stage; it names the texture matrix of the stage if the
  motion of the stage is in the set, and no texture matrix else. -/
  coord : ∀ stage, (Varying.coord stage).name ∈ d.varyings.map (·.name) →
    ∃ line, d.assignments (Varying.coord stage).name = [line] ∧
      line = Generator.coordText stage (set.hasAt FeatureType.texAnim.id stage) ∧
      ∀ other, (Constant.matrix other).name ∈ identifiers line ↔
        set.hasAt FeatureType.texAnim.id stage = true ∧ other = stage
  /-- The texture matrices that lines can name are declared. -/
  matrix : ∀ stage, set.hasAt FeatureType.texAnim.id stage = true →
    (Constant.matrix stage).uniform ∈ d.uniforms

namespace Registry

variable {set : FeatureSet} {name : String} (format : VertexFormat)

/-- The samplers of a program stand in the slots of their order, each under a name of its own, which
is that of a texture. -/
theorem samplers_draft (hset : set.Placed) :
    let samplers := (builtin.draft format set).samplers
    samplers.map (·.slot) = List.range samplers.length ∧ (samplers.map (·.name)).Nodup ∧
      ∀ name ∈ samplers.map (·.name), ∃ t : TextureSource, t.samplerName = name := by
  intro samplers
  have hslots : Draft.slots samplers = (keepNames [] (builtin.samplerNames format set)).zipIdx :=
    builtin.slots_samplers_assemble format "" set
  have hnames : samplers.map (·.name) = keepNames [] (builtin.samplerNames format set) := by
    rw [← List.zipIdx_map_fst 0 (keepNames [] _), ← hslots, Draft.slots, List.map_map]
    rfl
  refine ⟨?_, hnames ▸ nodup_keepNames List.nodup_nil, fun name hname => ?_⟩
  · calc samplers.map (·.slot)
        = (Draft.slots samplers).map Prod.snd := by rw [Draft.slots, List.map_map]; rfl
      _ = List.range' 0 (samplers.map (·.name)).length := by
          rw [hslots, List.zipIdx_map_snd, hnames]
      _ = List.range samplers.length := by rw [List.length_map, List.range_eq_range']
  · rw [hnames, mem_keepNames, samplerNames_eq format hset, mem_requestNames_builtin] at hname
    obtain ⟨t, -, h⟩ := hname.resolve_left List.not_mem_nil
    exact ⟨t, h⟩

/-- A program declares the varyings that its entries need. -/
theorem mem_varyings_draft (hset : set.Placed) :
    name ∈ (builtin.draft format set).varyings.map (·.name) ↔
      ∃ v : Varying, (∃ id stage, set.hasAt id stage = true ∧ v ∈ Varying.neededBy id stage) ∧
        v.name = name := by
  rw [map_name_varyings_draft, mem_keepNames, mem_varyingNames_builtin format hset,
    or_iff_right List.not_mem_nil]

/-- Constants, samplers and varyings have different names. -/
theorem nodup_names_draft (hset : set.Placed) :
    let d := builtin.draft format set
    (d.uniforms.map (·.name) ++ d.samplers.map (·.name) ++ d.varyings.map (·.name)).Nodup := by
  intro d
  obtain ⟨-, hsamplers, htexture⟩ := samplers_draft format hset
  have hconstant : ∀ name ∈ d.uniforms.map (·.name), Constant.Notable name := by
    refine List.forall_mem_map.mpr fun u hu => ?_
    have hu : u ∈ (builtin.assemble format "" set).uniforms := hu
    obtain ⟨k, -, -, -, -, rfl⟩ := exists_constant hu
    exact .inr ⟨k, rfl⟩
  have hvaryings : (d.varyings.map (·.name)).Nodup := by
    rw [map_name_varyings_draft]
    exact nodup_keepNames List.nodup_nil
  refine List.nodup_append.mpr ⟨List.nodup_append.mpr
    ⟨builtin.nodup_uniforms_assemble format "" set, hsamplers, ?_⟩, hvaryings, ?_⟩
  · intro name hname other hother e
    obtain ⟨t, rfl⟩ := htexture other hother
    exact t.not_notable (e ▸ hconstant name hname)
  · intro name hname other hother e
    obtain ⟨v, -, rfl⟩ := (mem_varyings_draft format hset).mp hother
    rcases List.mem_append.mp hname with hname | hname
    · exact v.not_notable (e ▸ hconstant name hname)
    · obtain ⟨t, rfl⟩ := htexture name hname
      exact v.name_ne_samplerName t e.symm

/-- A coordinate is declared for the maps of its stage alone. -/
theorem any_coordTypes_of_declared (hset : set.Placed) {stage : Option Nat}
    (h : (Varying.coord stage).name ∈ (builtin.draft format set).varyings.map (·.name)) :
    Generator.coordTypes.any (set.hasAt · stage) = true := by
  obtain ⟨v, ⟨id, own, hat, hv⟩, hname⟩ := (mem_varyings_draft format hset).mp h
  obtain rfl := Varying.name_injective hname
  obtain ⟨hall, htypes⟩ := Varying.mem_neededBy.mp hv
  obtain rfl : stage = own := by simpa [Varying.all] using hall
  exact List.any_eq_true.mpr ⟨id, htypes, hat⟩

/-- The program of a set whose entries stand at their stages is consistent. -/
theorem consistent_draft (hset : set.Placed) : (builtin.draft format set).Consistent set where
  nodup := nodup_names_draft format hset
  slots := (samplers_draft format hset).1
  computes u hu := by
    obtain ⟨v, ⟨id, stage, hat, hv⟩, hname⟩ :=
      (mem_varyings_draft format hset).mp (List.mem_map_of_mem hu)
    exact hname ▸ assigned_draft format hset hat hv
  coord stage h := by
    refine ⟨_, ?_, rfl, fun other => Generator.matrix_mem_coordText⟩
    rw [assignments_coord, if_pos (any_coordTypes_of_declared format hset h)]
  matrix stage hat := uniform_mem_assemble format "" hat
    (Constant.mem_neededBy.mpr ⟨by simp [Constant.all], List.mem_cons_self⟩)

end Registry

namespace Material

/-- **The programs of materials are consistent.**  For layers of a valid material that come one
after another, whatever they are drawn for: the constants, samplers and varyings of their program
have names of their own, the samplers are numbered in order, the vertex body computes every
varying, and it computes the coordinate of a stage once, by the texture matrix of the stage exactly
if the motion of the stage is in the set. -/
theorem consistent_layers (m : Material) (config : Config) (format : VertexFormat)
    (variant : Option Variant) (label : String) (hvalid : m.validate = .ok ()) :
    ∃ layers, m.layers config format variant = .ok layers ∧
      ∀ block, block <:+: layers →
        let set := FeatureSet.mergeAll (block.map (·.features))
        let draft := Registry.builtin.draft format set
        let program := Registry.builtin.assemble format label set
        program.uniforms = draft.uniforms ∧ program.samplers = draft.samplers ∧
          program.interpolators = draft.varyings.length ∧
          program.vertexSource =
            String.join (draft.uniforms.map Draft.uniformText ++
              draft.varyings.map Draft.varyingText) ++
              "fn vs_main() \x7b\n" ++ draft.vertexBody ++ "\x7d\n" ∧
          draft.Consistent set := by
  have hlayers : ∃ layers, m.layers config format variant = .ok layers := by
    rw [layers, hvalid]
    exact ⟨_, rfl⟩
  obtain ⟨layers, hlayers⟩ := hlayers
  refine ⟨layers, hlayers, fun block hblock => ?_⟩
  exact ⟨rfl, rfl, rfl, Draft.vertexSource_eq _,
    Registry.consistent_draft format (placed_mergeAll hlayers hblock.subset)⟩

/-- Moving bricks, and a stage that stays, drawn together. -/
theorem consistent_layers_of_bricks :
    let bricks : Stage :=
      { diffuseMap := some "bricks.png", normalMap := some "mortar.png",
        animation := { flags := { scroll := true } } }
    let m : Material := { name := "wall", stages := [bricks, .diffuse "moss.png"] }
    m.validate = .ok () ∧
      ∃ layers, m.layers {} .positionNormalTangentUv none = .ok layers ∧ layers <:+: layers ∧
        let set := FeatureSet.mergeAll (layers.map (·.features))
        let draft := Registry.builtin.draft .positionNormalTangentUv set
        draft.Consistent set ∧
          draft.samplers.map (fun s => (s.name, s.slot)) =
            [("diffuseMap0", 0), ("diffuseMap1", 1), ("bumpMap0", 2)] ∧
          draft.assignments "texCoord0" = [Generator.coordText (some 0) true] ∧
          draft.assignments "texCoord1" = [Generator.coordText (some 1) false] := by
  intro bricks m
  have hvalid : m.validate = .ok () := rfl
  obtain ⟨layers, hlayers, hblocks⟩ :=
    consistent_layers m {} .positionNormalTangentUv none "wall:0" hvalid
  obtain ⟨-, -, -, -, hconsistent⟩ := hblocks layers List.infix_rfl
  have hfound : ∃ found, m.layers {} .positionNormalTangentUv none = .ok found ∧
      let set := FeatureSet.mergeAll (found.map (·.features))
      let draft := Registry.builtin.draft .positionNormalTangentUv set
      draft.samplers.map (fun s => (s.name, s.slot)) =
          [("diffuseMap0", 0), ("diffuseMap1", 1), ("bumpMap0", 2)] ∧
        (Varying.coord (some 0)).name ∈ draft.varyings.map (·.name) ∧
        (Varying.coord (some 1)).name ∈ draft.varyings.map (·.name) ∧
        set.hasAt FeatureType.texAnim.id (some 0) = true ∧
        set.hasAt FeatureType.texAnim.id (some 1) = false :=
    ⟨_, rfl, by decide +kernel⟩
  obtain ⟨found, hfound, hsamplers, hfirst, hsecond, hmoves, hstays⟩ := hfound
  obtain rfl := Except.ok.inj (hfound.symm.trans hlayers)
  refine ⟨hvalid, found, hlayers, List.infix_rfl, hconsistent, hsamplers, ?_, ?_⟩
  · obtain ⟨line, hline, rfl, -⟩ := hconsistent.coord (some 0) hfirst
    exact hline.trans (by rw [hmoves])
  · obtain ⟨line, hline, rfl, -⟩ := hconsistent.coord (some 1) hsecond
    exact hline.trans (by rw [hstays])

end Material

end MaterialPipeline
