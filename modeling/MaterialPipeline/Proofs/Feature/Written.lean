import MaterialPipeline.Proofs.Feature.Agreement

/-!
# Proofs — Feature — Written

What runs between the halves of a program is computed in the vertex half: each varying by the entry
that pays for it (`writes_builtin`).
-/

namespace MaterialPipeline.Generator

variable {id : FeatureId} {g : Generator} {c : Scope}

/-- Some line assigns the name. -/
def Assigns (emissions : List Emission) (name : String) : Prop :=
  ∃ text, .line (name ++ " = " ++ text) ∈ emissions

theorem Assigns.append_left {a b : List Emission} {name : String} (h : Assigns a name) :
    Assigns (a ++ b) name :=
  h.imp fun _ hmem => List.mem_append_left b hmem

theorem Assigns.append_right {a b : List Emission} {name : String} (h : Assigns b name) :
    Assigns (a ++ b) name :=
  h.imp fun _ hmem => List.mem_append_right a hmem

/-- The line at a place of the list. -/
theorem assigns_at {emissions : List Emission} {name : String} (place : Nat) (text : String)
    (h : emissions[place]? = some (.line (name ++ " = " ++ text))) : Assigns emissions name :=
  ⟨text, List.mem_of_getElem? h⟩

/-- The entries of the type numbered `id` compute what they pay for. -/
def Writes (id : FeatureId) (g : Generator) : Prop :=
  ∀ c, ∀ v ∈ Varying.neededBy id c.stage, v.payer c.features = some (id, c.stage) →
    Assigns (g.vertex c) v.name

/-! ### Maps -/

/-- The one that claims the coordinate of a stage computes it. -/
theorem assigns_coordVertex (h : claimsCoord c.features c.stage id = true) :
    Assigns (coordVertex c id) (Varying.coord c.stage).name := by
  rw [coordVertex, h, if_neg (by decide)]
  split
  · refine ⟨"((" ++ c.indexed "texMat" ++ " * vec4<f32>(uv0, 0.0, 1.0))).xy;", ?_⟩
    refine List.mem_cons_of_mem _ (List.mem_singleton.mpr (congrArg _ ?_))
    have hopen : " = ((" = " = " ++ "((" := rfl
    simp only [toString, hopen, String.append_assoc]
    rfl
  · exact ⟨"uv0;", List.mem_cons_of_mem _ (List.mem_singleton.mpr (congrArg _
      (String.append_assoc ..)))⟩

theorem assigns_coord_of_pays
    (h : (Varying.coord c.stage).payer c.features = some (id, c.stage)) :
    Assigns (coordVertex c id) (Varying.coord c.stage).name :=
  assigns_coordVertex (payer_coord_iff.mp h)

/-- A map that only samples at the coordinate of its stage. -/
theorem writes_of_map (hneeds : ∀ stage, Varying.neededBy id stage = [.coord stage])
    (hvertex : g.vertex = (coordVertex · id)) : Writes id g := by
  intro c v hv hpays
  obtain rfl := List.mem_singleton.mp (hneeds c.stage ▸ hv)
  rw [hvertex]
  exact assigns_coord_of_pays hpays

theorem writes_parallax : Writes FeatureType.parallax.id parallax := by
  intro c v hv hpays
  rw [neededBy_parallax, List.mem_pair] at hv
  rcases hv with rfl | rfl
  · exact (assigns_coord_of_pays hpays).append_left
  · exact (assigns_at 2 "tangentToObj * (eyePosObj - position);" rfl).append_right

/-- The first normal map computes the rows of the tangent frame. -/
theorem writes_normalMap : Writes FeatureType.normalMap.id normalMap := by
  intro c v hv hpays
  rw [neededBy_normalMap] at hv
  rcases List.mem_cons.mp hv with rfl | hv
  · exact (assigns_coord_of_pays hpays).append_left
  · refine Assigns.append_right ?_
    simp only [List.mem_cons, List.not_mem_nil, or_false] at hv
    rcases hv with rfl | rfl | rfl <;> rw [if_pos (payer_frame_iff.mp hpays)]
    · exact assigns_at 1 "(objTrans * vec4<f32>(tangent.xyz, 0.0)).xyz;" rfl
    · exact assigns_at 3
        "(objTrans * vec4<f32>(cross(normal, tangent.xyz) * tangent.w, 0.0)).xyz;" rfl
    · exact assigns_at 5 "(objTrans * vec4<f32>(normal, 0.0)).xyz;" rfl

/-! ### Other features -/

/-- A generator that always computes the one varying that its entries need. -/
theorem writes_of_one {v : Option Nat → Varying} (place : Nat) (text : Scope → String)
    (hneeds : ∀ stage, Varying.neededBy id stage = [v stage])
    (h : ∀ c, (g.vertex c)[place]? = some (.line ((v c.stage).name ++ " = " ++ text c))) :
    Writes id g := by
  intro c w hw _
  obtain rfl := List.mem_singleton.mp (hneeds c.stage ▸ hw)
  exact assigns_at place (text c) (h c)

theorem writes_of_none (hneeds : ∀ stage, Varying.neededBy id stage = []) : Writes id g :=
  fun c _ hv _ => absurd (hneeds c.stage ▸ hv) List.not_mem_nil

theorem writes_rtLighting : Writes FeatureType.rtLighting.id rtLighting := by
  intro c v hv _
  have hneeds : Varying.neededBy FeatureType.rtLighting.id c.stage = [.position, .normal] := rfl
  rw [hneeds, List.mem_pair] at hv
  rcases hv with rfl | rfl
  · exact (assigns_at 1 "(objTrans * vec4<f32>(position, 1.0)).xyz;" rfl).append_left.append_left
  · exact (assigns_at 1 "bumpNormal;" rfl).append_right

theorem writes_cubeMap : Writes FeatureType.cubeMap.id cubeMap := by
  refine writes_of_one 2 (fun _ => "reflect(position - eyePosWorld, normal);") (fun _ => rfl)
    fun c => ?_
  rw [String.append_assoc]
  rfl

/-- **The built-in entries compute what they pay for.** -/
theorem writes_builtin : ∀ p ∈ builtin, Writes p.1.id p.2 := by
  simp only [builtin, List.forall_mem_cons, List.not_mem_nil, false_imp_iff, implies_true, and_true]
  have hnone {id : FeatureId} {g : Generator}
      (hneeds : ∀ stage, Varying.neededBy id stage = []) : Writes id g := writes_of_none hneeds
  exact ⟨hnone fun _ => rfl, hnone fun _ => rfl, writes_parallax, writes_of_map (fun _ => rfl) rfl,
    writes_of_map (fun _ => rfl) rfl, writes_of_map (fun _ => rfl) rfl, hnone fun _ => rfl,
    writes_normalMap, writes_of_map (fun _ => rfl) rfl, hnone fun _ => rfl,
    writes_of_one 1 (fun _ => "diffuse;") (fun _ => rfl) fun _ => rfl,
    writes_of_one 1 (fun _ => "uv1;") (fun _ => rfl) fun _ => rfl,
    writes_of_one 1 (fun _ => "uv1;") (fun _ => rfl) fun _ => rfl,
    writes_rtLighting, hnone fun _ => rfl,
    writes_cubeMap,
    hnone fun _ => rfl, hnone fun _ => rfl, hnone fun _ => rfl,
    writes_of_one 1 (fun _ => "vec4<f32>((modelview * vec4<f32>(normal, 0.0)).xyz, out_position.z);")
      (fun _ => rfl) fun _ => rfl,
    writes_of_one 1 (fun _ => "out_position.z / out_position.w;") (fun _ => rfl) fun _ => rfl,
    hnone fun _ => rfl, hnone fun _ => rfl, hnone fun _ => rfl⟩

end MaterialPipeline.Generator
