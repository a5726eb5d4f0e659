import MaterialPipeline.Proofs.Feature.Scoped
import MaterialPipeline.Proofs.Program.Without

/-!
# Proofs — Program — Coordinates

Where the texture coordinates of a built-in program come from.  A line of the vertex half gives a
value to the first name in it (`Words.target`).  Every map samples at the coordinate of its stage,
but the entry that claims the coordinate alone computes it.

* `Generator.coordText`: the line that computes a coordinate, moved or not.
* `Generator.computes_builtin`: all other lines give values to other names.
* `Registry.assignments_coord`: a coordinate that some map samples at is computed by one line, and
moved if the motion of its stage is in the set.
-/

namespace MaterialPipeline

open Words

/-! ### Lines as assignments -/

/-- The name that a line of the vertex half gives a value to. -/
def Words.target (line : String) : Option String :=
  (identifiers line).head?

/-- The lines of the vertex half that give a value to a name. -/
def Draft.assignments (d : Draft) (name : String) : List String :=
  d.vertexLines.filter (target · = some name)

/-- One thing for each time that a thing is in a list. -/
theorem flatMap_ite_eq {α β : Type} [DecidableEq α] (l : List α) (a : α) (b : β) :
    l.flatMap (fun x => if x = a then [b] else []) = List.replicate (l.count a) b := by
  induction l with
  | nil => rfl
  | cons x l ih =>
      rw [List.flatMap_cons, ih, List.count_cons]
      by_cases h : x = a
      · rw [if_pos h, if_pos (beq_iff_eq.mpr h), List.replicate_succ]
        rfl
      · rw [if_neg h, if_neg (fun e => h (eq_of_beq e)), List.nil_append, Nat.add_zero]

theorem flatMap_ite_of_mem {α β : Type} [DecidableEq α] {l : List α} {a : α} (hnodup : l.Nodup)
    (h : a ∈ l) (b : β) : l.flatMap (fun x => if x = a then [b] else []) = [b] := by
  rw [flatMap_ite_eq, List.count_eq_one_of_mem hnodup h, List.replicate_one]

namespace Generator

variable {id : FeatureId} {g : Generator} {c : Scope}

/-! ### The line of a coordinate -/

/-- Computes the coordinate of a stage: as the vertices have it, or moved by the matrix of the
stage. -/
def coordText (stage : Option Nat) (moves : Bool) : String :=
  let name := Scope.indexedName stage "texCoord"
  let matrix := Scope.indexedName stage "texMat"
  if moves then s!"{name} = (({matrix} * vec4<f32>(uv0, 0.0, 1.0))).xy;" else s!"{name} = uv0;"

theorem lines_coordVertex (c : Scope) (id : FeatureId) : lines (coordVertex c id) =
    if claimsCoord c.features c.stage id then
      [coordText c.stage (c.features.hasAt FeatureType.texAnim.id c.stage)] else [] := by
  unfold coordVertex
  cases claimsCoord c.features c.stage id with
  | false => rfl
  | true => cases c.features.hasAt FeatureType.texAnim.id c.stage <;> rfl

/-- A line that computes a coordinate names the matrix of the stage if it moves the coordinate. -/
theorem identifiers_coordText (stage : Option Nat) (moves : Bool) :
    identifiers (coordText stage moves) = (Varying.coord stage).name ::
      if moves then [Scope.indexedName stage "texMat", "vec4", "f32", "uv0", "xy"] else ["uv0"] := by
  have hname : identifiers (Varying.coord stage).name = [(Varying.coord stage).name] :=
    identifiers_indexedName (isWord_ofList rfl rfl) stage
  cases moves with
  | false =>
      have hline : coordText stage false = (Varying.coord stage).name ++ " = uv0;" := rfl
      rw [hline, identifiers_append (.inr (begins_ofList rfl)), hname, identifiers_ofList]
      rfl
  | true =>
      have hline : coordText stage true = (Varying.coord stage).name ++ " = ((" ++
        Scope.indexedName stage "texMat" ++ " * vec4<f32>(uv0, 0.0, 1.0))).xy;" := rfl
      rw [hline, identifiers_between (endsApart_append (by decide) (ends_ofList rfl))
        (begins_ofList rfl), identifiers_append (.inr (begins_ofList rfl)), hname,
        identifiers_indexedName (isWord_ofList rfl rfl), identifiers_ofList, identifiers_ofList]
      rfl

theorem target_coordText (stage : Option Nat) (moves : Bool) :
    target (coordText stage moves) = some (Varying.coord stage).name := by
  rw [target, identifiers_coordText, List.head?_cons]

/-- The two lines differ after the name. -/
theorem coordText_inj {stage : Option Nat} {a b : Bool} :
    coordText stage a = coordText stage b ↔ a = b := by
  have hne : coordText stage true ≠ coordText stage false := by
    intro h
    have hchars : ((Varying.coord stage).name ++ (" = ((" ++ (Scope.indexedName stage "texMat" ++
        " * vec4<f32>(uv0, 0.0, 1.0))).xy;"))).toList =
          ((Varying.coord stage).name ++ " = uv0;").toList := by
      rw [← String.append_assoc, ← String.append_assoc]
      exact congrArg String.toList h
    simp only [String.toList_append] at hchars
    have hfourth : some '(' = some 'u' := congrArg (·[3]?) (List.append_cancel_left hchars)
    exact absurd hfourth (by decide)
  cases a <;> cases b <;> simp [hne, hne.symm]

/-- Only a map can claim a coordinate. -/
theorem mem_coordTypes_of_claims {set : FeatureSet} {stage : Option Nat}
    (h : claimsCoord set stage id = true) : id ∈ coordTypes :=
  List.mem_of_find?_eq_some (beq_iff_eq.mp h)

theorem lines_coordVertex_of_not_mem (h : id ∉ coordTypes) (c : Scope) :
    lines (coordVertex c id) = [] := by
  rw [lines_coordVertex, if_neg fun hclaims => h (mem_coordTypes_of_claims hclaims)]

/-! ### Other lines -/

/-- A line that computes no coordinate. -/
def OffCoord (line : String) : Prop :=
  ∀ stage, target line ≠ some (Varying.coord stage).name

theorem offCoord_of_plain {line : String} (base : String) (number : Option Nat)
    (hplain : Scope.Plain base) (hbase : base ≠ "texCoord")
    (h : target line = some (Scope.indexedName number base)) : OffCoord line := by
  intro stage e
  have hname := Option.some.inj (h.symm.trans e)
  exact hbase (Scope.indexedName_inj hplain (Varying.coord stage).plain_base hname).1

/-- A line that begins with a name, which is written out. -/
theorem offCoord_of_literal (text : List Char) {base : List Char}
    (hbase : (identifiersOf text).head? = some (String.ofList base))
    (hcheck : base.all (fun c => !c.isDigit) = true ∧ base ≠ "texCoord".toList) :
    OffCoord (String.ofList text) := by
  refine offCoord_of_plain (String.ofList base) none ?_ ?_ ?_
  · rw [Scope.Plain, String.toList_ofList]
    exact hcheck.1
  · exact fun e => hcheck.2 (by rw [← e, String.toList_ofList])
  · rw [target, identifiers_ofList, hbase]
    rfl

/-- The vertex half of a generator computes the coordinate if it is to, and no other. -/
def Computes (id : FeatureId) (g : Generator) : Prop :=
  ∀ c, ∃ rest, lines (g.vertex c) = lines (coordVertex c id) ++ rest ∧ ∀ line ∈ rest, OffCoord line

theorem computes_of_coordVertex (h : g.vertex = (coordVertex · id)) : Computes id g := by
  intro c
  refine ⟨[], ?_, fun _ h => absurd h List.not_mem_nil⟩
  rw [h, List.append_nil]

theorem computes_of_not_mem (hid : id ∉ coordTypes)
    (h : ∀ c, ∀ line ∈ lines (g.vertex c), OffCoord line) : Computes id g := by
  intro c
  refine ⟨lines (g.vertex c), ?_, h c⟩
  rw [lines_coordVertex_of_not_mem hid, List.nil_append]

theorem computes_of_line (hid : id ∉ coordTypes) (text : String) (htext : OffCoord text)
    (h : ∀ c, lines (g.vertex c) = [text]) : Computes id g :=
  computes_of_not_mem hid fun c _ hline => List.mem_singleton.mp (h c ▸ hline) ▸ htext

theorem computes_of_nil (hid : id ∉ coordTypes) (h : ∀ c, lines (g.vertex c) = []) :
    Computes id g :=
  computes_of_not_mem hid fun c _ hline => absurd (h c ▸ hline) List.not_mem_nil

theorem computes_parallax : Computes FeatureType.parallax.id parallax := fun c =>
  ⟨["eyeTangent = tangentToObj * (eyePosObj - position);"], List.filterMap_append,
    List.forall_mem_singleton.mpr (offCoord_of_literal _ rfl (by decide))⟩

theorem computes_normalMap : Computes FeatureType.normalMap.id normalMap := by
  have hrow (n : Nat) (source : String) :
      OffCoord (Scope.indexedName (some n) "tangentFrame" ++ " = (objTrans * vec4<f32>(" ++
        source ++ ", 0.0)).xyz;") :=
    offCoord_of_plain _ (some n) (by decide) (by decide)
      (congrArg List.head? (identifiers_frame n source))
  intro c
  refine ⟨_, List.filterMap_append, ?_⟩
  split
  · exact List.forall_mem_cons.mpr ⟨hrow 0 "tangent.xyz", List.forall_mem_cons.mpr
      ⟨hrow 1 "cross(normal, tangent.xyz) * tangent.w",
        List.forall_mem_singleton.mpr (hrow 2 "normal")⟩⟩
  · exact fun _ h => absurd h List.not_mem_nil

theorem computes_rtLighting : Computes FeatureType.rtLighting.id rtLighting := by
  have hposition : OffCoord "wsPosition = (objTrans * vec4<f32>(position, 1.0)).xyz;" :=
    offCoord_of_literal _ rfl (by decide)
  have hbump : OffCoord "bumpNormal = normalize((objTrans * vec4<f32>(normal, 0.0)).xyz);" :=
    offCoord_of_literal _ rfl (by decide)
  have hnormal : OffCoord "wsNormal = bumpNormal;" := offCoord_of_literal _ rfl (by decide)
  refine computes_of_not_mem (by decide) fun c => ?_
  have hlines : lines (rtLighting.vertex c) =
      ["wsPosition = (objTrans * vec4<f32>(position, 1.0)).xyz;"] ++
        (if c.features.has FeatureType.normalMap.id then []
          else ["bumpNormal = normalize((objTrans * vec4<f32>(normal, 0.0)).xyz);"]) ++
        ["wsNormal = bumpNormal;"] := by
    simp only [rtLighting, lines, List.filterMap_append]
    split <;> rfl
  rw [hlines]
  split <;> simp [hposition, hbump, hnormal]

theorem computes_cubeMap : Computes FeatureType.cubeMap.id cubeMap := by
  refine computes_of_not_mem (by decide) fun c => List.forall_mem_singleton.mpr ?_
  refine offCoord_of_plain "reflectVec" c.stage (by decide) (by decide) ?_
  exact congrArg List.head?
    ((List.flatMap_singleton identifiers _).symm.trans (words_cubeMap_vertex c))

/-- No built-in generator computes a coordinate that it does not claim. -/
theorem computes_builtin : ∀ p ∈ builtin, Computes p.1.id p.2 := by
  simp only [builtin, List.forall_mem_cons, List.not_mem_nil, false_imp_iff, implies_true, and_true]
  have hmap {id : FeatureId} {g : Generator} (h : g.vertex = (coordVertex · id)) : Computes id g :=
    computes_of_coordVertex h
  have hnone {id : FeatureId} {g : Generator} (hid : id ∉ coordTypes)
      (h : ∀ c, lines (g.vertex c) = []) : Computes id g := computes_of_nil hid h
  exact ⟨computes_of_line (by decide) _ (offCoord_of_literal _ rfl (by decide)) fun _ => rfl,
    hnone (by decide) fun _ => rfl, computes_parallax, hmap rfl, hmap rfl, hmap rfl,
    hnone (by decide) fun _ => rfl, computes_normalMap, hmap rfl, hnone (by decide) fun _ => rfl,
    computes_of_line (by decide) _ (offCoord_of_literal _ rfl (by decide)) fun _ => rfl,
    computes_of_line (by decide) _ (offCoord_of_literal _ rfl (by decide)) fun _ => rfl,
    computes_of_line (by decide) _ (offCoord_of_literal _ rfl (by decide)) fun _ => rfl,
    computes_rtLighting, hnone (by decide) fun _ => rfl, computes_cubeMap,
    hnone (by decide) fun _ => rfl, hnone (by decide) fun _ => rfl, hnone (by decide) fun _ => rfl,
    computes_of_line (by decide) _ (offCoord_of_literal _ rfl (by decide)) fun _ => rfl,
    computes_of_line (by decide) _ (offCoord_of_literal _ rfl (by decide)) fun _ => rfl,
    hnone (by decide) fun _ => rfl, hnone (by decide) fun _ => rfl, hnone (by decide) fun _ => rfl⟩

end Generator

namespace Registry

variable {set : FeatureSet} {stage : Option Nat} (format : VertexFormat)

/-! ### Coordinates of a program -/

/-- Of the lines of an entry, that of the coordinate of a stage is the one that it claims. -/
theorem filter_lines_vertex {e : Registration} (he : e ∈ builtin.entries) (own : Option Nat) :
    (Generator.lines (e.generator.vertex ⟨set, own, format⟩)).filter
        (target · = some (Varying.coord stage).name) =
      if own = stage ∧ Generator.claimsCoord set stage e.type.id = true then
        [Generator.coordText stage (set.hasAt FeatureType.texAnim.id stage)] else [] := by
  obtain ⟨rest, hlines, hrest⟩ :=
    Generator.computes_builtin _ (mem_builtin_of_mem_entries he) ⟨set, own, format⟩
  have hoff : rest.filter (target · = some (Varying.coord stage).name) = [] :=
    List.filter_eq_nil_iff.mpr fun line hline => by simpa using hrest line hline stage
  rw [hlines, List.filter_append, hoff, List.append_nil, Generator.lines_coordVertex]
  dsimp only
  by_cases hclaims : Generator.claimsCoord set own e.type.id = true
  · rw [if_pos hclaims]
    by_cases hown : own = stage
    · subst hown
      rw [if_pos ⟨rfl, hclaims⟩]
      exact List.filter_eq_self.mpr (List.forall_mem_singleton.mpr
        (decide_eq_true (Generator.target_coordText own _)))
    · rw [if_neg fun h => hown h.1]
      refine List.filter_eq_nil_iff.mpr (List.forall_mem_singleton.mpr ?_)
      rw [decide_eq_true_eq, Generator.target_coordText]
      exact fun h => hown (Varying.coord.inj (Varying.name_injective (Option.some.inj h)))
  · rw [if_neg hclaims, if_neg]
    · rfl
    · rintro ⟨rfl, h⟩
      exact hclaims h

/-- **A coordinate is computed once.**  If a map samples at the coordinate of a stage, one line of
the vertex half computes it, and moves it if the motion of the stage is in the set.  If none does,
no line does. -/
theorem assignments_coord (set : FeatureSet) (stage : Option Nat) :
    (builtin.draft format set).assignments (Varying.coord stage).name =
      if Generator.coordTypes.any (set.hasAt · stage) then
        [Generator.coordText stage (set.hasAt FeatureType.texAnim.id stage)] else [] := by
  have hregistered : ∀ id ∈ Generator.coordTypes, id ∈ builtin.order := by decide
  rw [Draft.assignments, vertexLines_draft, List.filter_flatMap]
  split
  next hany =>
    obtain ⟨id, hid, hat⟩ := List.any_eq_true.mp hany
    obtain ⟨first, hfind, hfirst, hpresent⟩ := exists_find?_hasAt hid hat
    -- One entry claims the coordinate, and it is visited once.
    have hmem : (first, stage) ∈ builtin.idents set :=
      mem_idents.mpr ⟨hregistered first hfirst, hpresent⟩
    have hclaims (id : FeatureId) : Generator.claimsCoord set stage id = true ↔ id = first := by
      rw [Generator.claimsCoord, hfind, beq_iff_eq, Option.some.injEq, eq_comm]
    have hlines := flatMap_ite_of_mem (builtin.nodup_idents set) hmem
      (Generator.coordText stage (set.hasAt FeatureType.texAnim.id stage))
    rw [idents, List.flatMap_map] at hlines
    refine Eq.trans (List.flatMap_congr fun v hv => ?_) hlines
    rw [filter_lines_vertex format (mem_visits.mp hv).1]
    refine if_congr ?_ rfl rfl
    rw [hclaims, Prod.mk.injEq, and_comm]
  next hany =>
    have hnone : Generator.coordTypes.find? (set.hasAt · stage) = none := by
      rw [List.find?_eq_none]
      exact fun id hid hat => hany (List.any_eq_true.mpr ⟨id, hid, hat⟩)
    refine List.flatMap_eq_nil_iff.mpr fun v hv => ?_
    rw [filter_lines_vertex format (mem_visits.mp hv).1, if_neg]
    rw [Generator.claimsCoord, hnone]
    exact fun h => Bool.false_ne_true h.2

end Registry

end MaterialPipeline
