import MaterialPipeline.Proofs.Feature.Without
import MaterialPipeline.Proofs.Text.Words

/-!
# Proofs — Feature — Wording

The identifiers in the lines of the built-in generators.  A line is made of texts that do not run
into each other, so its identifiers are those of the texts (`identifiers_between`).

* `words`: the identifiers of the lines of several contributions.
* `words_coordVertex`: the line that computes a coordinate.
* `words_diffuseMap`, `words_overlayMap` and others: what the generators of stages write.
-/

namespace MaterialPipeline.Generator

open Words

variable {c : Scope}

/-- The identifiers of the lines of several contributions. -/
def words (emissions : List Emission) : List String :=
  (lines emissions).flatMap identifiers

theorem words_append (a b : List Emission) : words (a ++ b) = words a ++ words b := by
  rw [words, lines, List.filterMap_append, List.flatMap_append]
  rfl

theorem identifiers_indexed {base : String} (h : IsWord base) :
    identifiers (c.indexed base) = [c.indexed base] :=
  identifiers_indexedName h c.stage

theorem identifiers_coordName : identifiers (coordName c) = [coordName c] :=
  identifiers_indexed (isWord_ofList rfl rfl)

/-- Two texts between others that do not run into them. -/
theorem identifiers_between_two {a x b y d : String} (ha : endsApart a = true) (hne : b ≠ "")
    (hbegins : beginsApart b = true) (hends : endsApart b = true) (hd : beginsApart d = true) :
    identifiers (a ++ x ++ b ++ y ++ d) =
      identifiers a ++ identifiers x ++ identifiers b ++ identifiers y ++ identifiers d := by
  rw [identifiers_between (endsApart_append hne hends) hd, identifiers_between ha hbegins]

theorem identifiers_sampleText {base : String} (h : IsWord base) :
    identifiers (sampleText c base) = ["textureSample", c.indexed base, coordName c] := by
  have e : sampleText c base = "textureSample(" ++ c.indexed base ++ ", " ++ coordName c ++ ")" :=
    rfl
  rw [e, identifiers_between_two (ends_ofList rfl) (by decide) (begins_ofList rfl)
    (ends_ofList rfl) (begins_ofList rfl), identifiers_indexed h, identifiers_coordName,
    identifiers_ofList, identifiers_ofList, identifiers_ofList]
  rfl

theorem words_of_line {emissions : List Emission} {found : List String} (text : String)
    (hlines : lines emissions = [text]) (h : identifiers text = found) :
    words emissions = found := by
  rw [words, hlines, List.flatMap_singleton, h]

theorem words_of_two_lines {emissions : List Emission} {found found' : List String}
    (text text' : String) (hlines : lines emissions = [text, text'])
    (h : identifiers text = found) (h' : identifiers text' = found') :
    words emissions = found ++ found' := by
  rw [words, hlines, List.flatMap_cons, List.flatMap_singleton, h, h']

/-- A line with a sample, between texts that do not run into it. -/
theorem words_of_sample {base : String} {a b : List Char} {emissions : List Emission}
    (hlines : lines emissions = [String.ofList a ++ sampleText c base ++ String.ofList b])
    (h : IsWord base) (ha : a.getLast?.all (!isPart ·) = true)
    (hb : b.head?.all (!isPart ·) = true) : words emissions =
      identifiersOf a ++ ["textureSample", c.indexed base, coordName c] ++ identifiersOf b := by
  refine words_of_line _ hlines ?_
  rw [identifiers_between (ends_ofList ha) (begins_ofList hb), identifiers_sampleText h,
    identifiers_ofList, identifiers_ofList]

theorem words_of_literal (text : List Char) {emissions : List Emission}
    (hlines : lines emissions = [String.ofList text]) : words emissions = identifiersOf text :=
  words_of_line _ hlines (identifiers_ofList _)

theorem words_of_two_literals (text text' : List Char) {emissions : List Emission}
    (hlines : lines emissions = [String.ofList text, String.ofList text']) :
    words emissions = identifiersOf text ++ identifiersOf text' :=
  words_of_two_lines _ _ hlines (identifiers_ofList _) (identifiers_ofList _)

theorem words_coordVertex (c : Scope) (id : FeatureId) : words (coordVertex c id) =
    if claimsCoord c.features c.stage id then
      if c.features.hasAt FeatureType.texAnim.id c.stage then
        [coordName c, c.indexed "texMat", "vec4", "f32", "uv0", "xy"]
      else [coordName c, "uv0"]
    else [] := by
  unfold coordVertex
  cases claimsCoord c.features c.stage id with
  | false => rfl
  | true =>
      rw [if_neg (by decide), if_pos rfl]
      split
      · have hmatrix : identifiers (c.indexed "texMat") = [c.indexed "texMat"] :=
          identifiers_indexed (isWord_ofList rfl rfl)
        refine words_of_line (coordName c ++ " = ((" ++ c.indexed "texMat" ++
          " * vec4<f32>(uv0, 0.0, 1.0))).xy;") rfl ?_
        rw [identifiers_between (endsApart_append (by decide) (ends_ofList rfl))
          (begins_ofList rfl), identifiers_append (.inr (begins_ofList rfl)),
          identifiers_coordName, hmatrix, identifiers_ofList, identifiers_ofList]
        rfl
      · refine words_of_line (coordName c ++ " = uv0;") rfl ?_
        rw [identifiers_append (.inr (begins_ofList rfl)), identifiers_coordName,
          identifiers_ofList]
        rfl

theorem words_diffuseMap (c : Scope) : words (diffuseMap.pixel c) =
    ["col", "textureSample", c.indexed "diffuseMap", coordName c] :=
  (words_of_sample rfl (isWord_ofList rfl rfl) rfl rfl).trans rfl

theorem words_overlayMap (c : Scope) : words (overlayMap.pixel c) =
    ["let", "overlay", "textureSample", c.indexed "overlayMap", coordName c, "col", "mix", "col",
      "overlay", "overlay", "a"] := by
  have hsample : identifiers ("let overlay = " ++ sampleText c "overlayMap" ++ ";") =
      ["let", "overlay", "textureSample", c.indexed "overlayMap", coordName c] := by
    rw [identifiers_between (ends_ofList rfl) (begins_ofList rfl),
      identifiers_sampleText (isWord_ofList rfl rfl), identifiers_ofList, identifiers_ofList]
    rfl
  exact words_of_two_lines _ "col = mix(col, overlay, overlay.a);" rfl hsample
    ((identifiers_ofList _).trans rfl)

theorem words_detailMap (c : Scope) : words (detailMap.pixel c) =
    ["col", "textureSample", c.indexed "detailMap", coordName c, c.indexed "detailScale"] := by
  refine words_of_line ("col += textureSample(" ++ c.indexed "detailMap" ++ ", " ++
    coordName c ++ " * " ++ c.indexed "detailScale" ++ ") * 2.0 - 1.0;") rfl ?_
  rw [identifiers_between (endsApart_append (by decide) (ends_ofList rfl)) (begins_ofList rfl),
    identifiers_between_two (ends_ofList rfl) (by decide) (begins_ofList rfl)
      (ends_ofList rfl) (begins_ofList rfl), identifiers_coordName,
    identifiers_indexed (isWord_ofList rfl rfl), identifiers_indexed (isWord_ofList rfl rfl),
    identifiers_ofList, identifiers_ofList, identifiers_ofList, identifiers_ofList]
  rfl

theorem words_diffuseColor (c : Scope) : words (diffuseColor.pixel c) =
    ["col", c.indexed "diffuseMaterialColor"] := by
  refine words_of_line ("col " ++
    (if c.features.hasAt FeatureType.diffuseMap.id c.stage then "*=" else "=") ++ " " ++
      c.indexed "diffuseMaterialColor" ++ ";") rfl ?_
  rw [identifiers_between (endsApart_append (by decide) (ends_ofList rfl)) (begins_ofList rfl),
    identifiers_append (.inr (begins_ofList rfl)), identifiers_append (.inl (ends_ofList rfl)),
    identifiers_indexed (isWord_ofList rfl rfl), identifiers_ofList, identifiers_ofList,
    identifiers_ofList]
  split <;> rw [identifiers_ofList] <;> rfl

theorem words_normalMap (c : Scope) : words (normalMap.pixel c) =
    ["bumpNormal", "normalize", "mat3x3", "f32", "tangentFrame0", "tangentFrame1", "tangentFrame2",
      "textureSample", c.indexed "bumpMap", coordName c, "xyz"] := by
  refine words_of_line ("bumpNormal = normalize(" ++
    "mat3x3<f32>(tangentFrame0, tangentFrame1, tangentFrame2)" ++ " * (" ++
    sampleText c "bumpMap" ++ ".xyz * 2.0 - 1.0));") rfl ?_
  rw [identifiers_between_two (ends_ofList rfl) (by decide) (begins_ofList rfl) (ends_ofList rfl)
      (begins_ofList rfl), identifiers_sampleText (isWord_ofList rfl rfl), identifiers_ofList,
    identifiers_ofList, identifiers_ofList, identifiers_ofList]
  rfl

theorem words_specularMap (c : Scope) : words (specularMap.pixel c) =
    ["specularMask", "textureSample", c.indexed "specularMap", coordName c] :=
  (words_of_sample rfl (isWord_ofList rfl rfl) rfl rfl).trans rfl

theorem words_toneMap (c : Scope) : words (toneMap.pixel c) =
    ["col", "textureSample", c.indexed "toneMap", "lmCoord"] := by
  refine words_of_line ("col *= textureSample(" ++ c.indexed "toneMap" ++ ", lmCoord);") rfl ?_
  rw [identifiers_between (ends_ofList rfl) (begins_ofList rfl),
    identifiers_indexed (isWord_ofList rfl rfl), identifiers_ofList, identifiers_ofList]
  rfl

theorem words_parallax (c : Scope) : words (parallax.pixel c) =
    [coordName c, "normalize", "eyeTangent", "xy", "textureSample", c.indexed "bumpMap",
      coordName c, "a", c.indexed "parallaxInfo"] := by
  refine words_of_line (coordName c ++ " += normalize(eyeTangent).xy * (" ++
    sampleText c "bumpMap" ++ ".a * " ++ c.indexed "parallaxInfo" ++ ");") rfl ?_
  rw [identifiers_between_two (endsApart_append (by decide) (ends_ofList rfl)) (by decide)
      (begins_ofList rfl) (ends_ofList rfl) (begins_ofList rfl),
    identifiers_append (.inr (begins_ofList rfl)), identifiers_coordName,
    identifiers_sampleText (isWord_ofList rfl rfl), identifiers_indexed (isWord_ofList rfl rfl),
    identifiers_ofList, identifiers_ofList, identifiers_ofList]
  rfl

theorem words_cubeMap_vertex (c : Scope) : words (cubeMap.vertex c) =
    [c.indexed "reflectVec", "reflect", "position", "eyePosWorld", "normal"] := by
  refine words_of_line
    (c.indexed "reflectVec" ++ " = reflect(position - eyePosWorld, normal);") rfl ?_
  rw [identifiers_append (.inr (begins_ofList rfl)), identifiers_indexed (isWord_ofList rfl rfl),
    identifiers_ofList]
  rfl

theorem words_cubeMap_pixel (c : Scope) : words (cubeMap.pixel c) =
    ["col", "mix", "col", "textureSample", c.indexed "cubeMap", c.indexed "reflectVec", "col",
      "a"] := by
  refine words_of_line ("col = mix(col, textureSample(" ++ c.indexed "cubeMap" ++ ", " ++
    c.indexed "reflectVec" ++ "), col.a);") rfl ?_
  rw [identifiers_between_two (ends_ofList rfl) (by decide) (begins_ofList rfl) (ends_ofList rfl)
      (begins_ofList rfl), identifiers_indexed (isWord_ofList rfl rfl),
    identifiers_indexed (isWord_ofList rfl rfl), identifiers_ofList, identifiers_ofList,
    identifiers_ofList]
  rfl

/-- The line of a tangent frame that is made from some source. -/
theorem identifiers_frame (n : Nat) (source : String) :
    identifiers (Scope.indexedName (some n) "tangentFrame" ++ " = (objTrans * vec4<f32>(" ++
        source ++ ", 0.0)).xyz;") =
      Scope.indexedName (some n) "tangentFrame" :: "objTrans" :: "vec4" :: "f32" ::
        (identifiers source ++ ["xyz"]) := by
  rw [identifiers_between (endsApart_append (by decide) (ends_ofList rfl)) (begins_ofList rfl),
    identifiers_append (.inr (begins_ofList rfl)),
    identifiers_indexedName (isWord_ofList rfl rfl), identifiers_ofList, identifiers_ofList,
    List.append_assoc]
  rfl

theorem words_normalMap_vertex (c : Scope) : words (normalMap.vertex c) =
    words (coordVertex c FeatureType.normalMap.id) ++
      if isFirst c.features FeatureType.normalMap.id c.stage then
        ["tangentFrame0", "objTrans", "vec4", "f32", "tangent", "xyz", "xyz", "tangentFrame1",
          "objTrans", "vec4", "f32", "cross", "normal", "tangent", "xyz", "tangent", "w", "xyz",
          "tangentFrame2", "objTrans", "vec4", "f32", "normal", "xyz"]
      else [] := by
  rw [normalMap, words_append]
  split
  · refine congrArg (words (coordVertex c FeatureType.normalMap.id) ++ ·) ?_
    rw [words_append, words_append,
      words_of_line _ rfl (identifiers_frame 0 "tangent.xyz"),
      words_of_line _ rfl (identifiers_frame 1 "cross(normal, tangent.xyz) * tangent.w"),
      words_of_line _ rfl (identifiers_frame 2 "normal"), identifiers_ofList, identifiers_ofList,
      identifiers_ofList]
    rfl
  · rfl

theorem words_rtLighting_vertex (c : Scope) : words (rtLighting.vertex c) =
    ["wsPosition", "objTrans", "vec4", "f32", "position", "xyz"] ++
      (if c.features.has FeatureType.normalMap.id then []
        else ["bumpNormal", "normalize", "objTrans", "vec4", "f32", "normal", "xyz"]) ++
      ["wsNormal", "bumpNormal"] := by
  rw [rtLighting, words_append, words_append]
  refine congrArg₂ (· ++ ·) (congrArg₂ (· ++ ·) ((words_of_literal _ rfl).trans rfl) ?_)
    ((words_of_literal _ rfl).trans rfl)
  split
  · rfl
  · exact (words_of_literal _ rfl).trans rfl

end MaterialPipeline.Generator
