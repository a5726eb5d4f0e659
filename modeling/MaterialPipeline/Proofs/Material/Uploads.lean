import MaterialPipeline.Proofs.Feature.Constants
import MaterialPipeline.Proofs.Frame.Rounds
import MaterialPipeline.Proofs.Material.Builds
import MaterialPipeline.Proofs.Material.Layers

/-!
# Proofs — Material — Uploads

What preparing a pass uploads.  The values come from three lists that name constants by hand, some
of them for each stage of the pass, and go to the device if the program declares them.  The lists
name no constant twice (`nodup_offered`), give each the type that it has in programs
(`signature_offeredValues`), and leave none out that a built-in program may declare for those stages
(`mem_offered`).  So the uploads are the declarations (`BuiltMaterial.uploads_of_run_build`).
-/

namespace MaterialPipeline

open MaterialPipeline.Action

/-! ### Uploads among calls -/

namespace Call

/-- What a call uploads: for which program, under which name, and how many bytes. -/
def upload? : Call → Option (ProgramHandle × String × Nat)
  | setConstant h name value => some (h, name, value.bytes)
  | _ => none

end Call

/-- What some events upload. -/
def uploadsOf (events : List Event) : List (ProgramHandle × String × Nat) :=
  (callsOf events).filterMap Call.upload?

theorem ConstantValue.bytes_eq (v : ConstantValue) : v.bytes = v.type.bytes := by
  cases v <;> rfl

namespace Constants

variable {c : Constants} {program : ProgramHandle} {values : List (String × ConstantValue)}
  {uniforms : List Uniform}

theorem uploadAll_append (a b : List (String × ConstantValue)) :
    c.uploadAll program (a ++ b) = c.uploadAll program a ++ c.uploadAll program b :=
  List.flatMap_append

/-- The values that are declared with their types are uploaded, with the bytes of their types. -/
theorem uploadsOf_uploadAll : uploadsOf (c.uploadAll program values) =
    ((signature values).filter fun x => c.type? x.1 = some x.2).map
      fun x => (program, x.1, x.2.bytes) := by
  rw [uploadsOf, callsOf_uploadAll, List.filterMap_map, signature, List.filter_map, List.map_map,
    ← List.filterMap_eq_map]
  refine List.filterMap_congr fun x _ => ?_
  simp only [Function.comp_apply, Call.upload?, ConstantValue.bytes_eq]

/-- If values have the types that are declared, none is refused. -/
theorem isCall_of_mem_uploadAll
    (htypes : ∀ x ∈ signature values, ∀ type, c.type? x.1 = some type → type = x.2) {e : Event}
    (he : e ∈ c.uploadAll program values) : ∃ call, e = .call call := by
  obtain ⟨⟨name, value⟩, hx, he⟩ := List.mem_flatMap.mp he
  have hx : (name, value.type) ∈ signature values := List.mem_map_of_mem hx
  have he : e ∈ c.upload program name value := he
  unfold upload at he
  cases htype : c.type? name with
  | none =>
      rw [htype] at he
      cases he
  | some type =>
      rw [htype] at he
      dsimp only at he
      rw [if_pos (htypes _ hx type htype)] at he
      exact ⟨_, List.mem_singleton.mp he⟩

/-- A declaration under a new name comes last. -/
theorem declare_of_forall_ne {declared : List Uniform} {u : Uniform}
    (h : ∀ v ∈ declared, v.name ≠ u.name) : declare declared u = declared ++ [u] := by
  induction declared with
  | nil => rfl
  | cons v declared ih =>
      obtain ⟨hne, hrest⟩ := List.forall_mem_cons.mp h
      rw [declare, if_neg hne, ih hrest]
      rfl

theorem foldl_declare {declared : List Uniform}
    (h : ((declared ++ uniforms).map (·.name)).Nodup) :
    uniforms.foldl declare declared = declared ++ uniforms := by
  induction uniforms generalizing declared with
  | nil => exact (List.append_nil _).symm
  | cons u rest ih =>
      have hnew : ∀ v ∈ declared, v.name ≠ u.name := by
        intro v hv
        rw [List.map_append, List.nodup_append] at h
        exact h.2.2 v.name (List.mem_map_of_mem hv) u.name (List.mem_map_of_mem List.mem_cons_self)
      rw [List.foldl_cons, declare_of_forall_ne hnew, ih (by rwa [List.append_assoc]),
        List.append_assoc]
      rfl

/-- Declarations under names of their own are taken over. -/
theorem type?_ofUniforms (h : (uniforms.map (·.name)).Nodup) {name : String} {type : UniformType} :
    (ofUniforms uniforms).type? name = some type ↔ ⟨name, type⟩ ∈ uniforms := by
  have hentries : (ofUniforms uniforms).entries = uniforms := foldl_declare h
  rw [type?, hentries, Option.map_eq_some_iff]
  constructor
  · rintro ⟨u, hfind, rfl⟩
    have hname : u.name = name := by simpa using List.find?_some hfind
    exact hname ▸ List.mem_of_find?_eq_some hfind
  · intro hmem
    have hsome : (uniforms.find? (·.name == name)).isSome :=
      List.find?_isSome.mpr ⟨_, hmem, beq_self_eq_true name⟩
    obtain ⟨u, hfind⟩ := Option.isSome_iff_exists.mp hsome
    have hname : u.name = name := by simpa using List.find?_some hfind
    have hu := List.inj_on_of_nodup_map h (List.mem_of_find?_eq_some hfind) hmem hname
    exact ⟨u, hfind, hu ▸ rfl⟩

end Constants

/-! ### What is offered -/

namespace Constant

/-- The name and the type. -/
def signature (k : Constant) : String × UniformType :=
  (k.name, k.type)

/-- The constants of one stage. -/
def ofStage (n : Nat) : List Constant :=
  [color (some n), detailScale (some n), parallaxScale (some n)]

/-- The constants that depend on where an object stands, and on where the eye does if asked for. -/
def transforms (eye : Bool) : List Constant :=
  [modelview, world] ++ if eye then [eyeObject] else []

/-- The constants of the scene. -/
def shared : List Constant :=
  [eyeWorld, fogRange, fogColor, visibility, lightPosition, lightColor, ambient, alphaReference]

/-- The constants that a pass takes from its first stage, if it has one. -/
def lead (stages : List Nat) : List Constant :=
  if stages.isEmpty then [] else [specularColor, specularPower, glow]

/-- The constants that values are offered for, in order. -/
def offered (stages moving : List Nat) (eye : Bool) : List Constant :=
  moving.map (fun n => matrix (some n)) ++
    (transforms eye ++ (shared ++ (stages.flatMap ofStage ++ lead stages)))

/-- The part of what is offered that a constant is in. -/
def part : Constant → Nat
  | matrix _ => 0
  | modelview | world | eyeObject => 1
  | color _ | detailScale _ | parallaxScale _ => 3
  | specularColor | specularPower | glow => 4
  | _ => 2

/-- No constant comes twice, and none from the parts before the one numbered `n`. -/
def From (n : Nat) (constants : List Constant) : Prop :=
  constants.Nodup ∧ ∀ k ∈ constants, n ≤ k.part

theorem From.append {n : Nat} {constants rest : List Constant} (hnodup : constants.Nodup)
    (hpart : ∀ k ∈ constants, k.part = n) (hrest : From (n + 1) rest) :
    From n (constants ++ rest) := by
  refine ⟨List.nodup_append.mpr ⟨hnodup, hrest.1, ?_⟩, ?_⟩
  · rintro k hk l hl rfl
    have hlater := hrest.2 k hl
    rw [hpart k hk] at hlater
    exact Nat.not_succ_le_self n hlater
  · exact List.forall_mem_append.mpr
      ⟨fun k hk => (hpart k hk).ge, fun k hk => (Nat.le_succ n).trans (hrest.2 k hk)⟩

/-- No constant is offered a value twice. -/
theorem nodup_offered {stages moving : List Nat} (eye : Bool) (hstages : stages.Nodup)
    (hmoving : moving.Nodup) : (offered stages moving eye).Nodup := by
  have hmatrices : (moving.map fun n => matrix (some n)).Nodup := by
    refine hmoving.map fun m n h => ?_
    cases h
    rfl
  have hofStage : (stages.flatMap ofStage).Nodup := by
    refine List.nodup_flatMap.mpr ⟨fun n _ => by simp [ofStage], ?_⟩
    refine hstages.imp fun hne k hk hk' => hne ?_
    simp only [ofStage, List.mem_cons, List.not_mem_nil, or_false] at hk hk'
    rcases hk with rfl | rfl | rfl <;> simpa using hk'
  have hlead : From 4 (lead stages) := by
    unfold lead From
    cases stages.isEmpty <;> decide
  have hlast : From 3 (stages.flatMap ofStage ++ lead stages) := by
    refine .append hofStage (fun k hk => ?_) hlead
    obtain ⟨n, -, hk⟩ := List.mem_flatMap.mp hk
    simp only [ofStage, List.mem_cons, List.not_mem_nil, or_false] at hk
    rcases hk with rfl | rfl | rfl <;> rfl
  have hscene : From 2 (shared ++ (stages.flatMap ofStage ++ lead stages)) :=
    .append (by decide) (by decide) hlast
  have hobject :
      From 1 (transforms eye ++ (shared ++ (stages.flatMap ofStage ++ lead stages))) := by
    refine .append ?_ ?_ hscene <;> cases eye <;> decide
  exact (From.append hmatrices (List.forall_mem_map.mpr fun _ _ => rfl) hobject).1

end Constant

namespace BuiltMaterial

variable {b : BuiltMaterial} {scene : Scene} {world : Mat4} {draw : DrawContext} {p : Pass}

/-- The values that are offered when a pass is prepared, in order. -/
def offeredValues (b : BuiltMaterial) (scene : Scene) (world : Mat4) (draw : DrawContext)
    (p : Pass) : List (String × ConstantValue) :=
  b.animationValues scene p ++ (transformValues scene world p ++ (b.sharedValues scene draw ++
    ((b.stagesOf p).flatMap (fun (n, s) => stageValues n s) ++
      ((b.stagesOf p).head?.map fun (_, s) => leadValues s).getD [])))

/-- The numbers of the stages of a pass. -/
def numbersOf (b : BuiltMaterial) (p : Pass) : List Nat :=
  (b.stagesOf p).map (·.1)

/-- The numbers of the stages of a pass that move. -/
def movingOf (b : BuiltMaterial) (p : Pass) : List Nat :=
  ((b.stagesOf p).filter (·.2.animation.isActive)).map (·.1)

theorem signature_animationValues : signature (b.animationValues scene p) =
    (b.movingOf p).map fun n => (Constant.matrix (some n)).signature := by
  have hvalues : b.animationValues scene p = (b.stagesOf p).filterMap fun (n, stage) =>
      if stage.animation.isActive then
        some (s!"texMat{n}", .mat4 (stage.animation.matrix scene.time))
      else none := by
    rw [animationValues, stagesOf, List.filterMap_filterMap]
    refine List.filterMap_congr fun n _ => ?_
    cases b.material.stages[n]? <;> rfl
  rw [hvalues, movingOf]
  induction b.stagesOf p with
  | nil => rfl
  | cons x rest ih =>
      obtain ⟨n, stage⟩ := x
      by_cases hactive : stage.animation.isActive
      · simp only [List.filterMap_cons, List.filter_cons, hactive, if_true]
        exact congrArg (_ :: ·) ih
      · simp only [List.filterMap_cons, List.filter_cons, hactive]
        exact ih

theorem signature_transformValues : signature (transformValues scene world p) =
    (Constant.transforms (p.constants.has "eyePosObj")).map Constant.signature := by
  unfold transformValues Constant.transforms
  cases p.constants.has "eyePosObj" <;> rfl

theorem signature_stageValues : signature ((b.stagesOf p).flatMap fun (n, s) => stageValues n s) =
    ((b.numbersOf p).flatMap Constant.ofStage).map Constant.signature := by
  rw [signature, numbersOf, List.flatMap_map, List.map_flatMap, List.map_flatMap]
  rfl

theorem signature_leadValues :
    signature (((b.stagesOf p).head?.map fun (_, s) => leadValues s).getD []) =
      (Constant.lead (b.numbersOf p)).map Constant.signature := by
  rw [numbersOf]
  cases b.stagesOf p <;> rfl

/-- The values have the names and types of constants. -/
theorem signature_offeredValues : signature (b.offeredValues scene world draw p) =
    (Constant.offered (b.numbersOf p) (b.movingOf p) (p.constants.has "eyePosObj")).map
      Constant.signature := by
  rw [offeredValues, Constant.offered, signature_append, signature_append, signature_append,
    signature_append, signature_animationValues, signature_transformValues, signature_stageValues,
    signature_leadValues, List.map_append, List.map_append, List.map_append, List.map_append,
    List.map_map]
  rfl

/-- What a pass is prepared with. -/
theorem prepare_eq (limits : Limits) :
    b.setup limits scene draw p ++ transforms scene world p ++ b.sceneInfo scene draw p =
      [.call (.setProgram p.program), .call (.setState (p.state (b.conditions limits scene draw)))]
        ++ p.constants.uploadAll p.program (b.offeredValues scene world draw p) := by
  simp only [setup, transforms, sceneInfo, offeredValues, Constants.uploadAll_append,
    List.append_assoc]

/-! ### What is declared -/

theorem numbersOf_sublist : List.Sublist (b.numbersOf p) p.stages := by
  unfold numbersOf stagesOf
  induction p.stages with
  | nil => exact List.Sublist.slnil
  | cons n rest ih =>
      cases hstage : b.material.stages[n]? with
      | none =>
          rw [List.filterMap_cons_none (by rw [hstage]; rfl)]
          exact ih.cons n
      | some stage =>
          rw [List.filterMap_cons_some (by rw [hstage]; rfl)]
          exact ih.cons_cons n

theorem movingOf_sublist : List.Sublist (b.movingOf p) (b.numbersOf p) :=
  List.filter_sublist.map _

theorem mem_stagesOf {n : Nat} {stage : Stage} (hn : n ∈ p.stages)
    (hstage : b.material.stages[n]? = some stage) : (n, stage) ∈ b.stagesOf p :=
  List.mem_filterMap.mpr ⟨n, hn, by rw [hstage]; rfl⟩

section Offered

variable {m : Material} {config : Config} {format : VertexFormat} {variant : Option Variant}
  {layers block : List Layer}

/-- A layer of a pass is among the stages of the pass. -/
theorem exists_mem_stagesOf (h : b.material.layers config format variant = .ok layers)
    (hblock : block ⊆ layers) (hstages : p.stages = block.map (·.stage)) {l : Layer}
    (hl : l ∈ block) : ∃ s, (l.stage, s) ∈ b.stagesOf p := by
  obtain ⟨-, s, hstage, -⟩ := Material.stage_of_mem_layers h (hblock hl)
  exact ⟨s, mem_stagesOf (hstages ▸ List.mem_map_of_mem hl) hstage⟩

/-- A constant of an entry that carries a stage belongs to a stage of the pass, which moves if the
entry is there to move its texture coordinates. -/
theorem mem_numbersOf (h : b.material.layers config format variant = .ok layers)
    (hblock : block ⊆ layers) (hstages : p.stages = block.map (·.stage)) {id : FeatureId} {n : Nat}
    (hat : (Layer.union block).hasAt id (some n) = true) :
    n ∈ b.numbersOf p ∧ (id = FeatureType.texAnim.id → n ∈ b.movingOf p) := by
  obtain ⟨l, hl, rfl, s, hstage, -, hrequested⟩ := Material.exists_layer_of_hasAt h hblock hat
  have hmem := mem_stagesOf (hstages ▸ List.mem_map_of_mem hl) hstage
  refine ⟨List.mem_map_of_mem hmem, fun hid => ?_⟩
  obtain ⟨-, ⟨t, ht, htype⟩ | htone⟩ := Material.of_hasAt_requested hrequested
  · have hactive := Stage.isActive_of_mem_textureTypes ht (htype.trans hid)
    exact List.mem_map_of_mem (List.mem_filter.mpr ⟨hmem, hactive⟩)
  · exact absurd (hid.symm.trans htone) (by decide)

/-- What the entries of a pass declare is offered, the eye only if it is declared. -/
theorem mem_offered (h : b.material.layers config format variant = .ok layers)
    (hblock : block ⊆ layers) (hne : block ≠ []) (hstages : p.stages = block.map (·.stage))
    {id : FeatureId} {stage : Option Nat} {k : Constant}
    (hat : (Layer.union block).hasAt id stage = true) (hk : k ∈ Constant.neededBy id stage)
    {eye : Bool} (heye : k = .eyeObject → eye = true) :
    k ∈ Constant.offered (b.numbersOf p) (b.movingOf p) eye := by
  obtain ⟨hall, htypes⟩ := Constant.mem_neededBy.mp hk
  have hsuits := Material.placed_mergeAll h hblock id stage hat
  unfold Constant.offered
  simp only [List.mem_append]
  cases k with
  | world => cases htypes
  | matrix own =>
      obtain rfl : own = stage := by simpa [Constant.all] using hall
      obtain rfl := List.mem_singleton.mp htypes
      obtain ⟨n, rfl⟩ := hsuits.eq_some (by decide)
      exact .inl (List.mem_map_of_mem ((mem_numbersOf h hblock hstages hat).2 rfl))
  | color own | detailScale own | parallaxScale own =>
      obtain rfl : own = stage := by simpa [Constant.all] using hall
      obtain rfl := List.mem_singleton.mp htypes
      obtain ⟨n, rfl⟩ := hsuits.eq_some (by decide)
      refine .inr (.inr (.inr (.inl (List.mem_flatMap.mpr ⟨n, ?_, by simp [Constant.ofStage]⟩))))
      exact (mem_numbersOf h hblock hstages hat).1
  | modelview => exact .inr (.inl List.mem_cons_self)
  | eyeObject =>
      rw [heye rfl]
      exact .inr (.inl (by decide))
  | specularColor | specularPower | glow =>
      obtain ⟨l, hl⟩ := List.exists_mem_of_ne_nil block hne
      obtain ⟨s, hs⟩ := exists_mem_stagesOf h hblock hstages hl
      have hnumbers : b.numbersOf p ≠ [] := List.ne_nil_of_mem (List.mem_map_of_mem hs)
      have hempty : (b.numbersOf p).isEmpty = false := List.isEmpty_eq_false_iff.mpr hnumbers
      refine .inr (.inr (.inr (.inr ?_)))
      rw [Constant.lead, hempty]
      decide
  | eyeWorld | fogRange | fogColor | visibility | lightPosition | lightColor | ambient
  | alphaReference => exact .inr (.inr (.inl (by decide)))

end Offered

/-- Uploading the values of a pass, for a program whose declarations are among the constants that
they are for. -/
theorem perm_uploads {uniforms : List Uniform} (scene : Scene) (world : Mat4) (draw : DrawContext)
    (hnodup : (uniforms.map (·.name)).Nodup) (hconstants : p.constants = .ofUniforms uniforms)
    (hstages : p.stages.Nodup)
    (hoffered : ∀ u ∈ uniforms, ∃ k ∈ Constant.offered (b.numbersOf p) (b.movingOf p)
      (p.constants.has "eyePosObj"), u = k.uniform) :
    (uploadsOf (p.constants.uploadAll p.program (b.offeredValues scene world draw p))).Perm
        (uniforms.map fun u => (p.program, u.name, u.type.bytes)) ∧
      ∀ e ∈ p.constants.uploadAll p.program (b.offeredValues scene world draw p),
        ∃ call, e = .call call := by
  have htype {name : String} {type : UniformType} :
      p.constants.type? name = some type ↔ ⟨name, type⟩ ∈ uniforms := by
    rw [hconstants]
    exact Constants.type?_ofUniforms hnodup
  obtain ⟨offered, hlist⟩ : ∃ offered, offered = Constant.offered (b.numbersOf p) (b.movingOf p)
    (p.constants.has "eyePosObj") := ⟨_, rfl⟩
  have hsignature : signature (b.offeredValues scene world draw p) =
      offered.map Constant.signature := hlist ▸ signature_offeredValues
  have hnumbers : (b.numbersOf p).Nodup := hstages.sublist numbersOf_sublist
  have honce : offered.Nodup :=
    hlist ▸ Constant.nodup_offered _ hnumbers (hnumbers.sublist movingOf_sublist)
  constructor
  · have huploads : uploadsOf (p.constants.uploadAll p.program
        (b.offeredValues scene world draw p)) =
        ((offered.filter fun k => k.uniform ∈ uniforms).map Constant.uniform).map
          fun u => (p.program, u.name, u.type.bytes) := by
      rw [Constants.uploadsOf_uploadAll, hsignature, List.filter_map, List.map_map, List.map_map]
      refine congrArg (List.map _) (List.filter_congr fun k _ => ?_)
      exact decide_eq_decide.mpr htype
    rw [huploads]
    refine List.Perm.map _ ((List.perm_ext_iff_of_nodup ?_ (.of_map _ hnodup)).mpr fun u => ?_)
    · refine (honce.filter _).map fun k l hkl => ?_
      exact Constant.name_injective (congrArg Uniform.name hkl)
    · rw [List.mem_map]
      constructor
      · rintro ⟨k, hk, rfl⟩
        exact of_decide_eq_true (List.mem_filter.mp hk).2
      · intro hu
        obtain ⟨k, hk, rfl⟩ := hoffered u hu
        exact ⟨k, List.mem_filter.mpr ⟨hlist ▸ hk, decide_eq_true hu⟩, rfl⟩
  · intro e he
    refine Constants.isCall_of_mem_uploadAll (fun x hx type hdeclared => ?_) he
    rw [hsignature] at hx
    obtain ⟨k, -, rfl⟩ := List.mem_map.mp hx
    -- A name is that of one constant alone, which has one type.
    obtain ⟨l, -, hl⟩ := hoffered _ (htype.mp hdeclared)
    obtain rfl := Constant.name_injective (congrArg Uniform.name hl)
    exact congrArg Uniform.type hl

/-- **The uploads are the declarations.**  With the built-in features, whatever is drawn in whatever
scene, preparing a pass of a built material uploads each constant that the program of the pass
declares once, with the bytes of its type, and no other; and no value is refused. -/
theorem uploads_of_run_build {context : BuildContext} {m : Material} {format : VertexFormat}
    {variant : Option Variant} {s s' : Session} (hcontext : context.registry = .builtin)
    (hrun : (build context m format variant).run s = .ok (.ok b, s')) (hp : p ∈ b.passes) :
    ∃ program, s'.device.program? p.program = some program ∧
      (program.uniforms.map (·.name)).Nodup ∧
      ∀ limits scene world draw,
        let events := b.setup limits scene draw p ++ transforms scene world p ++
          b.sceneInfo scene draw p
        (uploadsOf events).Perm
            (program.uniforms.map fun u => (p.program, u.name, u.type.bytes)) ∧
          ∀ note, .note note ∉ events := by
  obtain ⟨rfl, ⟨layers, device, hlayers, hpasses⟩, -⟩ := of_run_build hrun
  obtain ⟨block, hne, hblock, hstands⟩ := hpasses p hp
  obtain ⟨index, hprogram, hconstants⟩ := hstands.program
  have hnodup := context.registry.nodup_uniforms_assemble format
    s!"{label b.material variant}:{index}" (Layer.union block)
  have hstages : p.stages.Nodup := by
    rw [hstands.stages]
    exact (Material.nodup_stages hlayers).sublist (hblock.sublist.map _)
  refine ⟨_, hprogram, hnodup, fun limits scene world draw => ?_⟩
  have hoffered : ∀ u ∈ ((packer context b.material format variant device).program index
      block).uniforms, ∃ k ∈ Constant.offered (b.numbersOf p) (b.movingOf p)
        (p.constants.has "eyePosObj"), u = k.uniform := by
    intro u hu
    have hdeclared : p.constants.type? u.name = some u.type := by
      rw [hconstants]
      exact (Constants.type?_ofUniforms hnodup).mpr hu
    have hu : u ∈ (context.registry.assemble format s!"{label b.material variant}:{index}"
      (Layer.union block)).uniforms := hu
    rw [hcontext] at hu
    obtain ⟨k, id, stage, hat, hk, rfl⟩ := Registry.exists_constant hu
    refine ⟨k, mem_offered hlayers hblock.subset hne hstands.stages hat hk ?_, rfl⟩
    rintro rfl
    exact Option.isSome_of_eq_some hdeclared
  obtain ⟨hperm, hcalls⟩ :=
    perm_uploads scene world draw hnodup hconstants hstages hoffered
  intro events
  have hevents : events = _ := prepare_eq limits
  rw [hevents]
  refine ⟨hperm, fun note hnote => ?_⟩
  rcases List.mem_append.mp hnote with hnote | hnote
  · rcases List.mem_pair.mp hnote with hnote | hnote <;> cases hnote
  · obtain ⟨call, hcall⟩ := hcalls _ hnote
    cases hcall

/-- A stage that scrolls under a height map, and a lit one. -/
theorem uploads_of_run_build_two_stages :
    let context : BuildContext := ⟨.builtin, {}⟩
    let rough : Stage := {
      diffuseMap := some "a.png", normalMap := some "b.png", parallaxScale := 1
      animation := { flags := { scroll := true } } }
    let m : Material := { name := "rock", stages := [rough, .diffuse "c.png"] }
    ∃ b s' p, context.registry = .builtin ∧
      (build context m .positionNormalTangentUv none).run {} = .ok (.ok b, s') ∧ p ∈ b.passes ∧
      p.stages = [0, 1] ∧ p.constants.has "texMat0" = true ∧
      ∃ program, s'.device.program? p.program = some program ∧
        (program.uniforms.map (·.name)).Nodup ∧
        ∀ limits scene world draw,
          let events := b.setup limits scene draw p ++ transforms scene world p ++
            b.sceneInfo scene draw p
          (uploadsOf events).Perm
              (program.uniforms.map fun u => (p.program, u.name, u.type.bytes)) ∧
            ∀ note, .note note ∉ events := by
  intro context rough m
  have hcheck : ((build context m .positionNormalTangentUv none).run {}).toOption.any
      (fun r => r.1.toOption.any fun b => b.passes.any fun p =>
        p.stages == [0, 1] && p.constants.has "texMat0") = true := by
    decide +kernel
  obtain ⟨⟨result, s'⟩, hrun, hgood⟩ := exists_of_any_toOption hcheck
  cases result with
  | error error => cases hgood
  | ok b =>
      obtain ⟨p, hp, hpass⟩ := List.any_eq_true.mp hgood
      obtain ⟨hstages, hdeclared⟩ := Bool.and_eq_true_iff.mp hpass
      exact ⟨b, s', p, rfl, hrun, hp, beq_iff_eq.mp hstages, hdeclared,
        uploads_of_run_build rfl hrun hp⟩

end BuiltMaterial

end MaterialPipeline
