import MaterialPipeline.Program.Assembly

/-!
# Proofs — Program — Declared

What a program declares, by name.  A declaration is kept under the first of its contributions, so
the declared names are those contributed, each once, in the order in which they first come
(`keepNames`).  Samplers and bindings get their slots in that order.

* `interpolators_assemble`: the number of declared varyings.
* `nodup_uniforms_assemble`, `mem_uniforms_assemble`: the constants of a program have names of their
own, and each is as some entry declares it.
* `slots_samplers_assemble`, `slots_bindings`: the names and slots of the samplers of a program and
  of its bindings.
-/

namespace MaterialPipeline

/-! ### Names, each kept once -/

/-- A name at the end of several, unless it is one of them. -/
def keepName (names : List String) (name : String) : List String :=
  if name ∈ names then names else names ++ [name]

/-- Several names at the end of others, each kept once. -/
def keepNames (names more : List String) : List String :=
  more.foldl keepName names

variable {names more : List String} {name : String}

theorem mem_keepName {x : String} : x ∈ keepName names name ↔ x ∈ names ∨ x = name := by
  unfold keepName
  split
  next h => exact ⟨.inl, fun hx => hx.elim (fun hx => hx) fun e => e ▸ h⟩
  next => rw [List.mem_append, List.mem_singleton]

theorem nodup_keepName (h : names.Nodup) : (keepName names name).Nodup := by
  unfold keepName
  split
  · exact h
  next hnot =>
    refine List.nodup_append.mpr ⟨h, by simp, fun x hx y hy e => hnot ?_⟩
    rwa [← List.mem_singleton.mp hy, ← e]

theorem mem_keepNames {x : String} : x ∈ keepNames names more ↔ x ∈ names ∨ x ∈ more := by
  induction more generalizing names with
  | nil => simp [keepNames]
  | cons name more ih =>
      rw [keepNames, List.foldl_cons, ← keepNames, ih, mem_keepName, List.mem_cons, or_assoc]

theorem nodup_keepNames (h : names.Nodup) : (keepNames names more).Nodup := by
  induction more generalizing names with
  | nil => exact h
  | cons name more ih => exact ih (nodup_keepName h)

theorem keepNames_append (names a b : List String) :
    keepNames names (a ++ b) = keepNames (keepNames names a) b :=
  List.foldl_append

/-- Things in the slots of their order, known by names, stay so when one more is added unless its
name is taken. -/
theorem map_slot_keep {α : Type} (slot : α → String × Nat) {declared : List α} {x : α}
    (h : declared.map slot = names.zipIdx) (hx : slot x = (name, declared.length)) :
    (if declared.any (fun a => (slot a).1 == name) then declared else declared ++ [x]).map slot =
      (keepName names name).zipIdx := by
  have hnames : declared.map (fun a => (slot a).1) = names := by
    rw [← List.zipIdx_map_fst 0 names, ← h, List.map_map]
    rfl
  have hlength : declared.length = names.length := by rw [← hnames, List.length_map]
  have hany : declared.any (fun a => (slot a).1 == name) = true ↔ name ∈ names := by
    simp only [← hnames, List.any_eq_true, beq_iff_eq, List.mem_map]
  unfold keepName
  simp only [hany]
  split
  · exact h
  · rw [List.map_append, h, List.map_singleton, hx, hlength, List.zipIdx_append, Nat.zero_add]
    rfl

/-! ### Contributions -/

namespace Emission

/-- The name of a declared varying. -/
def varying? : Emission → Option String
  | .varying name _ => some name
  | _ => none

/-- A declared constant. -/
def uniform? : Emission → Option Uniform
  | .uniform name type => some ⟨name, type⟩
  | _ => none

/-- The name of a declared sampler. -/
def sampler? : Emission → Option String
  | .sampler name => some name
  | _ => none

/-- A line of code. -/
def line? : Emission → Option String
  | .line text => some text
  | _ => none

end Emission

namespace Draft

variable (half : ShaderStage)

theorem map_name_declare (declared : List Uniform) (name : String) (type : UniformType) :
    (declare declared name type).map (·.name) = keepName (declared.map (·.name)) name := by
  have h : declared.any (·.name == name) = true ↔ name ∈ declared.map (·.name) := by
    simp only [List.any_eq_true, beq_iff_eq, List.mem_map]
  unfold declare keepName
  simp only [h]
  split
  · rfl
  · rw [List.map_append]
    rfl

/-- The varyings of a program have the names contributed, each once. -/
theorem map_name_varyings (emissions : List Emission) (d : Draft) :
    (d.emitAll half emissions).varyings.map (·.name) =
      keepNames (d.varyings.map (·.name)) (emissions.filterMap (·.varying?)) := by
  induction emissions generalizing d with
  | nil => rfl
  | cons e emissions ih =>
      rw [emitAll, List.foldl_cons, ← emitAll, ih]
      cases e with
      | varying name type =>
          rw [emit, map_name_declare]
          rfl
      | line text => cases half <;> rfl
      | uniform | sampler => rfl

/-- The constants of a program have names of their own. -/
theorem nodup_uniforms {emissions : List Emission} {d : Draft}
    (h : (d.uniforms.map (·.name)).Nodup) :
    ((d.emitAll half emissions).uniforms.map (·.name)).Nodup := by
  induction emissions generalizing d with
  | nil => exact h
  | cons e emissions ih =>
      rw [emitAll, List.foldl_cons, ← emitAll]
      refine ih ?_
      cases e with
      | uniform name type =>
          rw [emit, map_name_declare]
          exact nodup_keepName h
      | line text => cases half <;> exact h
      | sampler | varying => exact h

/-- A constant of a program is as it is contributed. -/
theorem mem_uniforms {emissions : List Emission} {d : Draft} {u : Uniform}
    (h : u ∈ (d.emitAll half emissions).uniforms) :
    u ∈ d.uniforms ∨ ∃ e ∈ emissions, e.uniform? = some u := by
  induction emissions generalizing d with
  | nil => exact .inl h
  | cons e emissions ih =>
      rw [emitAll, List.foldl_cons, ← emitAll] at h
      rcases ih h with h | ⟨e', he', hu⟩
      · cases e with
        | uniform name type =>
            have h : u ∈ declare d.uniforms name type := h
            unfold declare at h
            split at h
            · exact .inl h
            · rcases List.mem_append.mp h with h | h
              · exact .inl h
              · rw [List.mem_singleton.mp h]
                exact .inr ⟨_, List.mem_cons_self, rfl⟩
        | line text => cases half <;> exact .inl h
        | sampler | varying => exact .inl h
      · exact .inr ⟨e', List.mem_cons_of_mem e he', hu⟩

/-- The names and slots of several samplers. -/
def slots (samplers : List SamplerSlot) : List (String × Nat) :=
  samplers.map fun s => (s.name, s.slot)

/-- Samplers in the slots of their order stay so. -/
theorem slots_declareSampler {declared : List SamplerSlot} (name : String)
    (h : slots declared = names.zipIdx) :
    slots (declareSampler declared name) = (keepName names name).zipIdx :=
  map_slot_keep (fun s : SamplerSlot => (s.name, s.slot)) h rfl

/-- The samplers of a program have the names contributed, each once, in the slots of their order. -/
theorem slots_samplers (emissions : List Emission) {d : Draft}
    (h : slots d.samplers = names.zipIdx) :
    slots (d.emitAll half emissions).samplers =
      (keepNames names (emissions.filterMap (·.sampler?))).zipIdx := by
  induction emissions generalizing d names with
  | nil => exact h
  | cons e emissions ih =>
      rw [emitAll, List.foldl_cons, ← emitAll]
      cases e with
      | sampler name => exact ih (slots_declareSampler name h)
      | line text => cases half <;> exact ih h
      | uniform | varying => exact ih h

end Draft

namespace Binding

/-- The names and slots of several bindings. -/
def slots (bindings : List Binding) : List (String × Nat) :=
  bindings.map fun b => (b.name, b.slot)

/-- Bindings in the slots of their order stay so. -/
theorem slots_bind {bindings : List Binding} (name : String) (source : TextureSource)
    (h : slots bindings = names.zipIdx) :
    slots (bind bindings name source) = (keepName names name).zipIdx :=
  map_slot_keep (fun b : Binding => (b.name, b.slot)) h rfl

/-- The bindings have the names requested, each once, in the slots of their order. -/
theorem slots_bindAll (requests : List (String × TextureSource)) {bindings : List Binding}
    (h : slots bindings = names.zipIdx) :
    slots (bindAll bindings requests) = (keepNames names (requests.map (·.1))).zipIdx := by
  induction requests generalizing bindings names with
  | nil => exact h
  | cons r requests ih => exact ih (slots_bind r.1 r.2 h)

end Binding

/-! ### The program of a set -/

namespace Registry

/-- The names of the varyings that `set` contributes, first to the vertex half. -/
def varyingNames (r : Registry) (format : VertexFormat) (set : FeatureSet) : List String :=
  (r.emissions format set .vertex ++ r.emissions format set .pixel).filterMap (·.varying?)

/-- The names of the samplers that `set` contributes, first to the vertex half. -/
def samplerNames (r : Registry) (format : VertexFormat) (set : FeatureSet) : List String :=
  (r.emissions format set .vertex ++ r.emissions format set .pixel).filterMap (·.sampler?)

/-- The names of the samplers that `set` requests textures for. -/
def requestNames (r : Registry) (set : FeatureSet) : List String :=
  (r.visits set).flatMap fun visit => (visit.1.generator.textures visit.2).map (·.1)

variable (r : Registry) (format : VertexFormat) (label : String) (set : FeatureSet)

/-- The varyings of a program have the names contributed, each once. -/
theorem map_name_varyings_draft : (r.draft format set).varyings.map (·.name) =
    keepNames [] (r.varyingNames format set) := by
  rw [draft, Draft.map_name_varyings, Draft.map_name_varyings, varyingNames,
    List.filterMap_append, keepNames_append]
  rfl

/-- A program has as many interpolators as varyings are contributed, each counted once. -/
theorem interpolators_assemble :
    (r.assemble format label set).interpolators =
      (keepNames [] (r.varyingNames format set)).length := by
  rw [← map_name_varyings_draft, List.length_map]
  rfl

/-- The constants of a program have names of their own. -/
theorem nodup_uniforms_assemble :
    ((r.assemble format label set).uniforms.map (·.name)).Nodup :=
  Draft.nodup_uniforms .pixel (Draft.nodup_uniforms .vertex List.nodup_nil)

/-- A constant of a program is as one of the entries declares it, in one half or the other. -/
theorem mem_uniforms_assemble {u : Uniform} (h : u ∈ (r.assemble format label set).uniforms) :
    ∃ half, ∃ e ∈ r.emissions format set half, e.uniform? = some u := by
  rcases Draft.mem_uniforms .pixel h with h | h
  · rcases Draft.mem_uniforms .vertex h with h | h
    · cases h
    · exact ⟨.vertex, h⟩
  · exact ⟨.pixel, h⟩

/-- The samplers of a program, by name and slot. -/
theorem slots_samplers_assemble :
    Draft.slots (r.assemble format label set).samplers =
      (keepNames [] (r.samplerNames format set)).zipIdx := by
  have hempty : Draft.slots Draft.empty.samplers = ([] : List String).zipIdx := rfl
  have h := Draft.slots_samplers .pixel (r.emissions format set .pixel)
    (Draft.slots_samplers .vertex (r.emissions format set .vertex) hempty)
  rw [← keepNames_append, ← List.filterMap_append] at h
  exact h

/-- The bindings, by name and slot. -/
theorem slots_bindings :
    Binding.slots (r.bindings set) = (keepNames [] (r.requestNames set)).zipIdx := by
  have hempty : Binding.slots [] = ([] : List String).zipIdx := rfl
  rw [bindings, Binding.slots_bindAll _ hempty, List.map_flatMap]
  rfl

end Registry

end MaterialPipeline
