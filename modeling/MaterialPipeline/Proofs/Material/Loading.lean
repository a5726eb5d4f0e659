import MaterialPipeline.Proofs.Device.Registers
import MaterialPipeline.Proofs.Material.Easing
import MaterialPipeline.Proofs.Material.Membership
import MaterialPipeline.Proofs.Material.Works

/-!
# Proofs — Material — Loading

Which textures a build loads, in which order, and what the slots of its passes then read.  A path may
be authored for several maps and stages, and read by several passes; it is loaded where it is first
asked for, and never again.

* `Firsts`: of some requests, the first one for each path.
* `Tried`: what becomes of requests that are made one after another.
* `BuiltMaterial.run_loadTextures`: loading textures makes the first request for each path.
* `BuiltMaterial.authored_of_mem_bindings`: a slot reads a map that is authored.
* `BuiltMaterial.loads_of_pack`: the textures of a build.
-/

namespace MaterialPipeline

open MaterialPipeline.Action

variable {s s' : Session} {path : String} {wanted asked : List (Nat × String)}

/-! ### First requests -/

/-- The first request for each path that was not seen before. -/
def firstRequests (seen : List String) : List (Nat × String) → List (Nat × String)
  | [] => []
  | request :: rest =>
    if request.2 ∈ seen then firstRequests seen rest
    else request :: firstRequests (seen ++ [request.2]) rest

/-- Of some requests, the first one for each path, in order. -/
structure Firsts (wanted asked : List (Nat × String)) : Prop where
  sublist : asked.Sublist wanted
  nodup : (asked.map (·.2)).Nodup
  first : ∀ path, asked.find? (·.2 == path) = wanted.find? (·.2 == path)

theorem notMem_seen_of_mem_firstRequests {seen : List String} {request : Nat × String}
    (h : request ∈ firstRequests seen wanted) : request.2 ∉ seen := by
  induction wanted generalizing seen with
  | nil => cases h
  | cons head rest ih =>
      rw [firstRequests] at h
      split at h
      · exact ih h
      next hseen =>
        rcases List.mem_cons.mp h with rfl | h
        · exact hseen
        · exact fun hmem => ih h (List.mem_append_left _ hmem)

theorem firstRequests_sublist (seen : List String) (wanted : List (Nat × String)) :
    (firstRequests seen wanted).Sublist wanted := by
  induction wanted generalizing seen with
  | nil => exact .slnil
  | cons head rest ih =>
      rw [firstRequests]
      split
      · exact (ih seen).cons head
      · exact (ih _).cons_cons head

theorem nodup_firstRequests (seen : List String) (wanted : List (Nat × String)) :
    ((firstRequests seen wanted).map (·.2)).Nodup := by
  induction wanted generalizing seen with
  | nil => exact .nil
  | cons head rest ih =>
      rw [firstRequests]
      split
      · exact ih seen
      · refine List.nodup_cons.mpr ⟨fun hmem => ?_, ih _⟩
        obtain ⟨request, hrequest, hpath⟩ := List.mem_map.mp hmem
        refine notMem_seen_of_mem_firstRequests hrequest ?_
        rw [hpath]
        exact List.mem_append_right seen (List.mem_singleton_self _)

theorem find?_firstRequests {seen : List String} (hpath : path ∉ seen)
    (wanted : List (Nat × String)) :
    (firstRequests seen wanted).find? (·.2 == path) = wanted.find? (·.2 == path) := by
  induction wanted generalizing seen with
  | nil => rfl
  | cons head rest ih =>
      rw [firstRequests]
      cases hhead : head.2 == path with
      | true =>
          rw [if_neg (eq_of_beq hhead ▸ hpath)]
          simp only [List.find?_cons, hhead]
      | false =>
          have hne : head.2 ≠ path := fun h => by simp [h] at hhead
          split
          · simp only [List.find?_cons, hhead]
            exact ih hpath
          · simp only [List.find?_cons, hhead]
            refine ih fun hmem => ?_
            rcases List.mem_append.mp hmem with hmem | hmem
            · exact hpath hmem
            · exact hne (List.mem_singleton.mp hmem).symm

theorem firsts_firstRequests (wanted : List (Nat × String)) :
    Firsts wanted (firstRequests [] wanted) where
  sublist := firstRequests_sublist [] wanted
  nodup := nodup_firstRequests [] wanted
  first _ := find?_firstRequests List.not_mem_nil wanted

/-! ### Requests that are made -/

/-- What becomes of requests that are made one after another: all are granted, or one is refused, and
those after it are not made. -/
inductive Tried (refuse : String → Option DeviceError) (asked : List (Nat × String)) :
    Except MaterialError Unit → List String → Prop where
  | all (h : ∀ request ∈ asked, refuse request.2 = none) :
      Tried refuse asked (.ok ()) (asked.map (·.2))
  | stopped {before after : List (Nat × String)} {stage : Nat} {path : String}
      {error : DeviceError} (hsplit : asked = before ++ (stage, path) :: after)
      (h : ∀ request ∈ before, refuse request.2 = none) (herror : refuse path = some error) :
      Tried refuse asked (.error (.textureLoad stage path error)) (before.map (·.2) ++ [path])

namespace Tried

variable {refuse : String → Option DeviceError} {outcome : Except MaterialError Unit}
  {tried : List String} {stage : Nat}

theorem nil : Tried refuse [] (.ok ()) [] :=
  .all fun _ h => absurd h List.not_mem_nil

theorem refused {error : DeviceError} (h : refuse path = some error)
    (rest : List (Nat × String)) :
    Tried refuse ((stage, path) :: rest) (.error (.textureLoad stage path error)) [path] := by
  have hsplit : (stage, path) :: rest = [] ++ (stage, path) :: rest := rfl
  have hstopped := stopped hsplit (fun _ h => absurd h List.not_mem_nil) h
  exact hstopped

theorem granted (h : refuse path = none) (hrest : Tried refuse asked outcome tried) :
    Tried refuse ((stage, path) :: asked) outcome (path :: tried) := by
  cases hrest with
  | all hall => exact .all (List.forall_mem_cons.mpr ⟨h, hall⟩)
  | stopped hsplit hbefore herror =>
      have hstopped := stopped (congrArg ((stage, path) :: ·) hsplit)
        (List.forall_mem_cons.mpr ⟨h, hbefore⟩) herror
      exact hstopped

end Tried

/-! ### Loading on a device -/

/-- The path of a texture that is to be loaded. -/
def Call.loaded? : Call → Option String
  | loadTexture path => some path
  | _ => none

namespace Device

/-- The paths that were given to the device to load, in order. -/
def loads (d : Device) : List String :=
  d.calls.toList.filterMap Call.loaded?

/-- Why the device does not load a path, if it does not. -/
def withholds (d : Device) (path : String) : Option DeviceError :=
  match (d.loadTexture path).1 with
  | .ok _ => none
  | .error error => some error

/-- Nothing was given to the device to load, and it loads what it did. -/
structure LoadsAlike (d d' : Device) : Prop where
  loads : d'.loads = d.loads
  withholds : d'.withholds = d.withholds

instance : IsPreorder Device LoadsAlike where
  refl _ := ⟨rfl, rfl⟩
  trans _ _ _ h h' := ⟨h'.loads.trans h.loads, h'.withholds.trans h.withholds⟩

variable {d d' : Device}

theorem loads_push {c : Call} (h : d'.calls = d.calls.push c) :
    d'.loads = d.loads ++ c.loaded?.toList := by
  rw [loads, h, Array.toList_push, List.filterMap_append]
  cases hc : c.loaded? <;> simp [loads, hc]

theorem withholds_congr (hlost : d'.lost = d.lost) (hmissing : d'.missing = d.missing)
    (herror : d'.textureError = d.textureError) : d'.withholds = d.withholds := by
  funext path
  simp only [withholds, loadTexture, record, hlost, hmissing, herror]
  by_cases h₁ : d.lost
  · simp [h₁]
  · by_cases h₂ : d.missing.contains path <;> simp only [h₁, h₂, if_true] <;> rfl

theorem LoadsAlike.one {c : Call} (hcalls : d'.calls = d.calls.push c) (hc : c.loaded? = none)
    (hlost : d'.lost = d.lost) (hmissing : d'.missing = d.missing)
    (herror : d'.textureError = d.textureError) : d.LoadsAlike d' where
  loads := by rw [loads_push hcalls, hc, Option.toList_none, List.append_nil]
  withholds := withholds_congr hlost hmissing herror

theorem bearsPacking_loadsAlike : BearsPacking LoadsAlike where
  createProgram d p := by
    rcases createProgram_cases d p with ⟨error, he⟩ | he <;> rw [he] <;>
      exact .one rfl rfl rfl rfl rfl
  createState d b := .one rfl rfl rfl rfl rfl
  destroy d o := by cases o <;> exact .one rfl rfl rfl rfl rfl

theorem loads_loadTexture (d : Device) (path : String) :
    (d.loadTexture path).2.loads = d.loads ++ [path] ∧
      (d.loadTexture path).2.withholds = d.withholds := by
  rcases loadTexture_cases d path with ⟨error, he⟩ | he <;> rw [he] <;>
    exact ⟨loads_push (c := .loadTexture path) rfl, withholds_congr rfl rfl rfl⟩

end Device

namespace BuiltMaterial

/-- **Loading textures.**  Of what is not loaded yet, the first request for each path is made. -/
theorem run_loadTextures (loaded : List (String × TextureHandle))
    (wanted : List (Nat × String)) (s : Session) :
    ∃ result s' tried, (loadTextures loaded wanted).run s = .ok (result, s') ∧
      Tried s.device.withholds (firstRequests (loaded.map (·.1)) wanted)
        ((result.mapError (·.1)).map fun _ => ()) tried ∧
      s'.device.loads = s.device.loads ++ tried := by
  induction wanted generalizing loaded s with
  | nil => exact ⟨_, _, _, rfl, .nil, (List.append_nil _).symm⟩
  | cons request rest ih =>
      obtain ⟨stage, path⟩ := request
      have hseen : loaded.any (·.1 == path) = true ↔ path ∈ loaded.map (·.1) := by
        simp [List.any_eq_true]
      rw [loadTextures, firstRequests]
      simp only [hseen]
      split
      · exact ih loaded s
      · obtain ⟨hloads, hwithholds⟩ := s.device.loads_loadTexture path
        rw [run_bind (run_onDevice _ s)]
        cases hanswer : (s.device.loadTexture path).1 with
        | error error =>
            have hrefused : s.device.withholds path = some error := by
              rw [Device.withholds, hanswer]
            exact ⟨_, _, _, rfl, .refused hrefused _, hloads⟩
        | ok h =>
            have hgranted : s.device.withholds path = none := by
              rw [Device.withholds, hanswer]
            obtain ⟨result, s', tried, hrun, htried, hlater⟩ := ih (loaded ++ [(path, h)])
              { s with device := (s.device.loadTexture path).2 }
            rw [List.map_append] at htried
            refine ⟨result, s', _, hrun, .granted hgranted (hwithholds ▸ htried), ?_⟩
            rw [hlater, hloads, List.append_assoc]
            rfl

/-! ### Builds in two parts -/

variable {context : BuildContext} {m : Material} {format : VertexFormat} {variant : Option Variant}
  {b : BuiltMaterial} {passes : List Pass}

/-- The first part of a build: its passes. -/
def pack (context : BuildContext) (m : Material) (format : VertexFormat)
    (variant : Option Variant) : Action (Except MaterialError (List Pass)) := do
  match m.layers context.config format variant with
  | .error error => return .error error
  | .ok layers =>
    Action.reportAll (m.layerNotes format variant)
    let device ← Action.limits
    Action.reportAll (context.config.limitNotes device)
    match ← (packer context m format variant device).buildPasses layers with
    | .error error => return .error (.passBuild error)
    | .ok passes => return .ok passes

/-- The second part of a build: the textures of the passes. -/
def furnish (m : Material) (variant : Option Variant) (passes : List Pass) :
    Action (Except MaterialError BuiltMaterial) := do
  match ← loadTextures [] (requests m passes) with
  | .error (error, loaded) =>
    Action.perform (destruction ⟨m, variant, passes, loaded⟩)
    return .error error
  | .ok textures =>
    Action.report (.trace
      s!"Built '{label m variant}' with {passes.length} passes and {textures.length} textures")
    return .ok ⟨m, variant, passes, textures⟩

/-- A build packs the passes and then loads their textures. -/
theorem build_eq (context : BuildContext) (m : Material) (format : VertexFormat)
    (variant : Option Variant) : build context m format variant = (do
      match ← pack context m format variant with
      | .error error => return .error error
      | .ok passes => furnish m variant passes) := by
  unfold build pack
  cases m.layers context.config format variant with
  | error error => rfl
  | ok layers =>
      simp only [bind_assoc]
      refine congrArg _ (funext fun _ => congrArg _ (funext fun device =>
        congrArg _ (funext fun _ => congrArg _ (funext fun result => ?_))))
      cases result <;> rfl

/-- Nothing is loaded for the passes. -/
theorem along_pack (context : BuildContext) (m : Material) (format : VertexFormat)
    (variant : Option Variant) : Along Device.LoadsAlike (pack context m format variant) := by
  unfold pack
  split
  · exact .pure _
  · refine (Along.reportAll _).bind fun _ => Along.limits.bind fun device =>
      (Along.reportAll _).bind fun _ =>
        (Packer.along_buildPasses _ Device.bearsPacking_loadsAlike _).bind ?_
    rintro (error | passes) <;> exact .pure _

theorem run_furnish (m : Material) (variant : Option Variant) (passes : List Pass) (s : Session) :
    ∃ result s' tried, (furnish m variant passes).run s = .ok (result, s') ∧
      Tried s.device.withholds (firstRequests [] (requests m passes)) (result.map fun _ => ())
        tried ∧
      s'.device.loads = s.device.loads ++ tried ∧ ∀ b, result = .ok b → b.passes = passes := by
  obtain ⟨result, s₁, tried, hload, htried, hloads⟩ := run_loadTextures [] (requests m passes) s
  unfold furnish
  rw [run_bind hload]
  cases result with
  | error failed =>
      obtain ⟨error, loaded⟩ := failed
      have hdestroyed : Along Device.LoadsAlike
          (perform (destruction ⟨m, variant, passes, loaded⟩)) := by
        rw [destruction_eq]
        exact .endings Device.bearsPacking_loadsAlike.destroy _
      have halike := hdestroyed _ _ _ (run_perform _ s₁)
      refine ⟨.error error, _, tried, by rw [run_bind (run_perform _ s₁)]; rfl, htried,
        halike.loads.trans hloads, fun b hb => nomatch hb⟩
  | ok textures =>
      have hreported (note : Note) : (s₁.extend [] [note]).device = s₁.device := by
        simp [Session.extend]
      refine ⟨.ok ⟨m, variant, passes, textures⟩, _, tried, by rw [run_bind (run_report _ s₁)]; rfl,
        htried, by rw [hreported, hloads], fun b hb => ?_⟩
      cases hb
      rfl

/-! ### What the slots read -/

end BuiltMaterial

/-- What reads a map of a stage is asked for only if the map is authored. -/
theorem Material.map_ne_none {m : Material} {format : VertexFormat} {n : Nat} {st : Stage}
    {f : Feature} {kind : MapKind} (hasks : m.Asks format n st f) (hstage : f.stage = some n)
    (htype : f.type.id ∈ (TextureSource.map n kind).types) : st.map kind ≠ none := by
  obtain ⟨t, stage⟩ := f
  obtain rfl : stage = some n := hstage
  have hid {u : FeatureType} (hu : u ∈ FeatureType.catalogue) (h : t.id = u.id) : t = u :=
    FeatureType.eq_of_id_eq hasks.mem_catalogue hu h
  cases kind with
  | diffuse | overlay | detail | specular | cube =>
      obtain rfl := hid (by decide) (List.mem_singleton.mp htype)
      cases hasks with
      | shows h => cases h; assumption
      | lit h => cases h
  | normal =>
      rcases List.mem_pair.mp htype with h | h
      all_goals
        obtain rfl := hid (by decide) h
        cases hasks with
        | shows h => cases h with | _ h => exact h.1
        | lit h => cases h
  | tone =>
      obtain rfl := hid (by decide) (List.mem_singleton.mp htype)
      cases hasks with
      | shows h => cases h
      | lit h => cases h with | toneMap _ _ _ h => exact h.1

/-- With the built-in features, a map that a slot reads is authored. -/
theorem Packer.exists_path_of_mem_bindings {p : Packer} {m : Material} {config : Config}
    {format : VertexFormat} {variant : Option Variant} {layers block : List Layer}
    (hp : p.registry = .builtin) (h : m.layers config format variant = .ok layers)
    (hblock : block ⊆ layers) {binding : Binding} (hb : binding ∈ p.bindings block) {n : Nat}
    {kind : MapKind} (hsource : binding.source = .map n kind) :
    ∃ path, m.path? (.map n kind) = some path := by
  rw [bindings, hp] at hb
  obtain ⟨id, stage, hat, hreads⟩ := Registry.exists_binding_iff.mp ⟨binding, hb, hsource⟩
  obtain rfl : some n = stage :=
    TextureSource.number_eq (Material.placed_mergeAll h hblock _ _ hat) hreads
  obtain ⟨l, hl, rfl, st, hst, -, hrequested⟩ := Material.exists_layer_of_hasAt h hblock hat
  have hsmall : l.stage < 256 := (Material.stage_of_mem_layers h (hblock hl)).1.trans (by decide)
  obtain ⟨f, hf, hident⟩ := FeatureSet.hasAt_iff.mp hrequested
  obtain ⟨rfl, hstage⟩ := Prod.mk.inj hident
  have hasks := Material.mem_requested.mp hf
  rw [Nat.mod_eq_of_lt hsmall] at hasks
  obtain ⟨path, hpath⟩ := Option.ne_none_iff_exists'.mp
    (Material.map_ne_none hasks hstage (TextureSource.mem_neededBy.mp hreads).2)
  refine ⟨path, ?_⟩
  rw [Material.path?, hst]
  exact hpath

/-- The texture is what the slot of a binding should have: the one loaded from the path that the
stage authors, or the light map of the draw. -/
def Binding.Serves (device : Device) (b : BuiltMaterial) (draw : DrawContext) (binding : Binding)
    (texture : Option TextureHandle) : Prop :=
  match binding.source with
  | .map n kind => ∃ stage path h, b.material.stages[n]? = some stage ∧
      stage.map kind = some path ∧ b.texture? path = some h ∧
      device.texturePath? h = some path ∧ texture = some h
  | .lightMap => texture = draw.lightMap

namespace BuiltMaterial

variable {context : BuildContext} {m : Material} {format : VertexFormat} {variant : Option Variant}
  {b : BuiltMaterial} {p : Pass} {passes : List Pass} {binding : Binding}

/-- Binding the textures of a pass fills each slot with what its binding reads. -/
theorem run_textureStages {σ : Registers} (hslots : (p.bindings.map (·.slot)).Nodup)
    (hb : binding ∈ p.bindings) (draw : DrawContext) :
    σ.run (callsOf (b.textureStages draw p)) (.texture binding.slot) =
      some (b.boundTexture draw binding) := by
  rw [textureStages, callsOf_map_call]
  refine Registers.run_eq_some (Registers.writes_map.mpr ⟨binding, hb, rfl⟩) fun c hc w hw => ?_
  obtain ⟨binding', hb', rfl⟩ := List.mem_map.mp hc
  have hslot := Register.texture.inj (congrArg Sigma.fst (Option.some.inj hw))
  obtain rfl := List.inj_on_of_nodup_map hslots hb' hb hslot
  cases hw
  rfl

/-- What a slot of a built material reads is as it should be. -/
theorem serves_boundTexture (hr : context.registry = .builtin)
    (hrun : (build context m format variant).run s = .ok (.ok b, s')) (hp : p ∈ b.passes)
    (hb : binding ∈ p.bindings) (draw : DrawContext) :
    binding.Serves s'.device b draw (b.boundTexture draw binding) := by
  have hfurnished := furnished_of_run_build hrun
  obtain ⟨rfl, ⟨layers, device, hlayers, hpasses⟩, -⟩ := of_run_build hrun
  obtain ⟨block, -, hblock, hstands⟩ := hpasses p hp
  unfold Binding.Serves
  cases hsource : binding.source with
  | lightMap => simp only [boundTexture, hsource]
  | map n kind =>
      obtain ⟨path, hpath⟩ := Packer.exists_path_of_mem_bindings hr hlayers hblock.subset
        (hstands.bindings ▸ hb) hsource
      obtain ⟨number, hnumber⟩ := exists_pathOf_iff.mpr (hsource ▸ hpath)
      obtain ⟨h, htexture, hloaded⟩ := hfurnished.textures p hp binding hb number path hnumber
      obtain ⟨stage, hstage, hmap⟩ := Option.bind_eq_some_iff.mp hpath
      refine ⟨stage, path, h, hstage, hmap, htexture, hloaded, ?_⟩
      simp only [boundTexture, hsource, hnumber, Option.bind_some, htexture]

/-- **The textures of a build.**  With the built-in features, a build whose passes are packed asks for
each path that a pass reads once, in the order in which the paths are first read, until one is
refused; and it fails for that reason, or not at all.  If it does not fail, every slot of every pass
then reads a texture that was loaded from the path of its own map, or the light map of the draw. -/
theorem loads_of_pack {s₁ : Session} (hr : context.registry = .builtin)
    (hpack : (pack context m format variant).run s = .ok (.ok passes, s₁)) :
    let asked := firstRequests [] (requests m passes)
    Firsts (requests m passes) asked ∧
      ∃ result s' tried, (build context m format variant).run s = .ok (result, s') ∧
        Tried s.device.withholds asked (result.map fun _ => ()) tried ∧
        s'.device.loads = s.device.loads ++ tried ∧
        ∀ b, result = .ok b → b.passes = passes ∧ b.material = m ∧
          ∀ p ∈ passes, ∀ draw, ∀ binding ∈ p.bindings, ∀ σ : Registers,
            ∃ texture, binding.Serves s'.device b draw texture ∧
              σ.run (callsOf (b.textureStages draw p)) (.texture binding.slot) = some texture := by
  refine ⟨firsts_firstRequests _, ?_⟩
  obtain ⟨result, s', tried, hfurnish, htried, hloads, hpasses⟩ := run_furnish m variant passes s₁
  have halike := along_pack context m format variant _ _ _ hpack
  have hrun : (build context m format variant).run s = .ok (result, s') := by
    rw [build_eq, run_bind hpack]
    exact hfurnish
  refine ⟨result, s', tried, hrun, halike.withholds ▸ htried, halike.loads ▸ hloads,
    fun b hb => ?_⟩
  subst hb
  obtain rfl := hpasses b rfl
  refine ⟨rfl, (of_run_build hrun).1, fun p hp draw binding hbinding σ =>
    ⟨b.boundTexture draw binding, serves_boundTexture hr hrun hp hbinding draw,
      run_textureStages ?_ hbinding draw⟩⟩
  exact (furnished_of_run_build hrun).slots p hp

/-- Two stages share a map, and the map of the third one is missing. -/
theorem loads_of_pack_tiles :
    let context : BuildContext := ⟨.builtin, {}⟩
    let m : Material := {
      name := "tiles"
      stages := [.diffuse "tile.png",
        { diffuseMap := some "tile.png", detailMap := some "grain.png" }, .diffuse "rust.png"] }
    let s : Session := { device := { missing := ["rust.png"] } }
    let asked := [(0, "tile.png"), (2, "rust.png"), (1, "grain.png")]
    ∃ passes s₁, context.registry = .builtin ∧
      (pack context m .positionNormalTangentUv none).run s = .ok (.ok passes, s₁) ∧
      (requests m passes).length = 4 ∧ Firsts (requests m passes) asked ∧
      ∃ result s' tried,
        (build context m .positionNormalTangentUv none).run s = .ok (result, s') ∧
        Tried s.device.withholds asked (result.map fun _ => ()) tried ∧
        s'.device.loads = tried := by
  intro context m s asked
  have hcheck : ((pack context m .positionNormalTangentUv none).run s).toOption.any (fun r =>
      r.1.toOption.any fun passes => (requests m passes).length == 4 &&
        firstRequests [] (requests m passes) == asked) = true := by
    decide +kernel
  obtain ⟨⟨packed, s₁⟩, hpack, hgood⟩ := exists_of_any_toOption hcheck
  cases packed with
  | error error => cases hgood
  | ok passes =>
      obtain ⟨hlength, hasked⟩ := Bool.and_eq_true_iff.mp hgood
      obtain ⟨hfirsts, result, s', tried, hrun, htried, hloads, -⟩ := loads_of_pack rfl hpack
      rw [beq_iff_eq.mp hasked] at hfirsts htried
      exact ⟨passes, s₁, rfl, hpack, beq_iff_eq.mp hlength, hfirsts, result, s', tried, hrun,
        htried, hloads⟩

end BuiltMaterial

end MaterialPipeline
