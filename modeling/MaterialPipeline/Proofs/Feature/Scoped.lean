import MaterialPipeline.Proofs.Feature.Constants
import MaterialPipeline.Proofs.Feature.Wording

/-!
# Proofs — Feature — Scoped

Which constants the lines of the built-in generators name, and which locals they introduce
(`scoped_builtin`).  An entry names the constants that it declares itself, and some that it borrows
(`Constant.borrowedBy`): the texture matrix of its stage, the transform of the vertices, and where
the object stands, which no entry declares.
-/

namespace MaterialPipeline

open Words

/-! ### Notable words -/

namespace Constant

/-- The constants without a number. -/
def unnumbered : List Constant :=
  [modelview, world, eyeObject, eyeWorld, fogRange, fogColor, visibility, lightPosition, lightColor,
    ambient, alphaReference, specularColor, specularPower, glow]

/-- The names of constants, without numbers. -/
def bases : List String :=
  (unnumbered ++ [matrix none, color none, detailScale none, parallaxScale none]).map base

theorem base_mem_bases (k : Constant) : k.base ∈ bases := by
  cases k <;> simp [bases, unnumbered, base]

/-- What an entry names of the set that other entries declare, or that none declares. -/
def borrowedBy (set : FeatureSet) (id : FeatureId) (stage : Option Nat) : List Constant :=
  (if id ∈ Generator.coordTypes ∧ set.hasAt FeatureType.texAnim.id stage = true then [matrix stage]
    else []) ++
  (if id = FeatureType.prePassConditioner.id then [modelview] else []) ++
  (if id = FeatureType.normalMap.id ∨ id = FeatureType.rtLighting.id then [world] else [])

/-- A word that introduces a local, or names a constant. -/
def Notable (word : String) : Prop :=
  word = "let" ∨ ∃ k : Constant, k.name = word

/-- The bytes of a text; comparing these is cheaper than comparing characters. -/
def bytes (text : String) : List UInt8 :=
  text.toByteArray.data.toList

theorem bytes_append (a b : String) : bytes (a ++ b) = bytes a ++ bytes b := by
  simp only [bytes, String.toByteArray_append, ByteArray.data_append, Array.toList_append]

/-- Whether no constant has a name that the word could be. -/
def foreign (word : String) : Bool :=
  word != "let" && bases.all fun base => !(bytes base).isPrefixOf (bytes word)

theorem exists_name_eq (k : Constant) : ∃ digits, k.name = k.base ++ digits := by
  unfold name Scope.indexedName
  cases k.number with
  | some n => exact ⟨toString n, rfl⟩
  | none => exact ⟨"", String.append_empty.symm⟩

theorem not_notable_of_foreign {word : String} (h : foreign word = true) : ¬ Notable word := by
  obtain ⟨hlet, hbases⟩ := Bool.and_eq_true_iff.mp h
  rintro (rfl | ⟨k, rfl⟩)
  · exact absurd hlet (by decide)
  · have hprefix := List.all_eq_true.mp hbases k.base k.base_mem_bases
    obtain ⟨digits, hname⟩ := k.exists_name_eq
    rw [hname, bytes_append, List.isPrefixOf_iff_prefix.mpr (List.prefix_append _ _)] at hprefix
    cases hprefix

/-- A numbered word is named after its base. -/
theorem not_notable_indexedName {base : String} (hplain : Scope.Plain base) (hlet : base ≠ "let")
    (hbase : base ∉ bases) (number : Option Nat) :
    ¬ Notable (Scope.indexedName number base) := by
  rintro (h | ⟨k, h⟩)
  · exact hlet (Scope.indexedName_inj (n := none) hplain (by decide) h).1
  · exact hbase ((Scope.indexedName_inj k.plain_base hplain h).1 ▸ k.base_mem_bases)

theorem name_ne_let (k : Constant) : k.name ≠ "let" := by
  intro h
  have hbase := (Scope.indexedName_inj (n := none) k.plain_base (by decide) h).1
  exact absurd (hbase ▸ k.base_mem_bases) (by decide)

end Constant

namespace Words

/-- The notable ones among some words are known. -/
def Knows (known words : List String) : Prop :=
  ∀ word ∈ words, Constant.Notable word → word ∈ known

variable {known words more : List String} {word : String}

theorem Knows.nil : Knows known [] :=
  fun _ h => absurd h List.not_mem_nil

theorem Knows.cons (hword : Constant.Notable word → word ∈ known) (h : Knows known words) :
    Knows known (word :: words) :=
  List.forall_mem_cons.mpr ⟨hword, h⟩

theorem Knows.append (h : Knows known words) (hmore : Knows known more) :
    Knows known (words ++ more) :=
  List.forall_mem_append.mpr ⟨h, hmore⟩

theorem Knows.of_subset {known' : List String} (h : Knows known words) (hsub : known ⊆ known') :
    Knows known' words :=
  fun word hword hnotable => hsub (h word hword hnotable)

/-- Words that can be told by their letters. -/
theorem knows_of_foreign (known : List String)
    (h : words.all (fun w => Constant.foreign w || w ∈ known) = true) :
    Knows known words := by
  intro word hword hnotable
  have hcheck := List.all_eq_true.mp h word hword
  rcases Bool.or_eq_true_iff.mp hcheck with hforeign | hknown
  · exact absurd hnotable (Constant.not_notable_of_foreign hforeign)
  · exact of_decide_eq_true hknown

/-- Words that name some constants at most do not introduce locals. -/
theorem Knows.let_not_mem {constants : List Constant}
    (h : Knows (constants.map Constant.name) words) : "let" ∉ words := by
  intro hlet
  obtain ⟨k, -, hk⟩ := List.mem_map.mp (h _ hlet (.inl rfl))
  exact k.name_ne_let hk

/-- A word of a line: a text, or a base with the number of the stage. -/
inductive Token where
  | fixed (text : String)
  | own (base : String)
  deriving DecidableEq

namespace Token

/-- The word in the line of an entry. -/
def text (c : Scope) : Token → String
  | fixed text => text
  | own base => c.indexed base

/-- Whether the word is not notable, whatever the stage. -/
def foreign : Token → Bool
  | fixed text => Constant.foreign text
  | own base => decide (Scope.Plain base ∧ base ≠ "let" ∧ base ∉ Constant.bases)

theorem not_notable_of_foreign {token : Token} (h : token.foreign = true) (c : Scope) :
    ¬ Constant.Notable (token.text c) := by
  cases token with
  | fixed text => exact Constant.not_notable_of_foreign h
  | own base =>
      obtain ⟨hplain, hlet, hbase⟩ := of_decide_eq_true h
      exact Constant.not_notable_indexedName hplain hlet hbase c.stage

end Token

theorem knows_of_tokens (tokens declared : List Token) {c : Scope}
    (h : tokens.all (fun t => t.foreign || t ∈ declared) = true) :
    Knows (declared.map (Token.text c)) (tokens.map (Token.text c)) := by
  intro word hword hnotable
  obtain ⟨token, htoken, rfl⟩ := List.mem_map.mp hword
  rcases Bool.or_eq_true_iff.mp (List.all_eq_true.mp h token htoken) with hforeign | hdeclared
  · exact absurd hnotable (Token.not_notable_of_foreign hforeign c)
  · exact List.mem_map_of_mem (of_decide_eq_true hdeclared)

end Words

/-! ### Scopes -/

namespace Generator

variable {id : FeatureId} {g : Generator}

/-- The locals that an entry of the type numbered `id` introduces. -/
def locals (id : FeatureId) : List String :=
  if id = FeatureType.overlayMap.id then ["overlay"]
  else if id = FeatureType.rtLighting.id then ["lightDir"]
  else if id = FeatureType.pixSpecular.id then ["halfVec"]
  else if id = FeatureType.fog.id then ["fogAmount"]
  else []

theorem nodup_locals (id : FeatureId) : (locals id).Nodup := by
  unfold locals
  split_ifs <;> simp

theorem overlay_mem_locals_iff : "overlay" ∈ locals id ↔ id = FeatureType.overlayMap.id := by
  unfold locals
  split_ifs <;> simp_all

/-- Only overlays introduce their local for each stage. -/
theorem eq_of_mem_locals {a b : FeatureId} {name : String} (hname : name ≠ "overlay")
    (ha : name ∈ locals a) (hb : name ∈ locals b) : a = b ∧ a ∉ FeatureType.staged := by
  unfold locals at ha hb
  split_ifs at ha hb <;> simp_all <;> decide

/-- The names of the constants that an entry declares. -/
def declaredNames (id : FeatureId) (stage : Option Nat) : List String :=
  (Constant.neededBy id stage).map Constant.name

/-- The names of the constants that an entry borrows. -/
def borrowedNames (set : FeatureSet) (id : FeatureId) (stage : Option Nat) : List String :=
  (Constant.borrowedBy set id stage).map Constant.name

/-- The constants that the lines of an entry name are those it declares and borrows, and it
introduces its locals in the pixel half alone. -/
structure Scoped (id : FeatureId) (g : Generator) : Prop where
  vertex : ∀ c, Knows (declaredNames id c.stage ++ borrowedNames c.features id c.stage)
    (words (g.vertex c))
  pixel : ∀ c, Knows ("let" :: declaredNames id c.stage) (words (g.pixel c))
  introduces : ∀ c, introduced (words (g.pixel c)) = locals id
  /-- The lines do not run into those that follow. -/
  ends : ∀ c, (words (g.pixel c)).getLast? ≠ some "let"

/-- A generator that always writes the same lines. -/
theorem scoped_of_fixed {vertex pixel : List String} (declared borrowed : List Constant)
    (hvertex : ∀ c, words (g.vertex c) = vertex) (hpixel : ∀ c, words (g.pixel c) = pixel)
    (hdeclared : ∀ stage, Constant.neededBy id stage = declared)
    (hborrowed : ∀ set stage, Constant.borrowedBy set id stage = borrowed)
    (hchecks : vertex.all (fun w => Constant.foreign w ||
        w ∈ declared.map Constant.name ++ borrowed.map Constant.name) = true ∧
      pixel.all (fun w => Constant.foreign w ||
        w ∈ "let" :: declared.map Constant.name) = true ∧
      introduced pixel = locals id ∧ pixel.getLast? ≠ some "let") : Scoped id g where
  vertex c := by
    rw [hvertex, declaredNames, borrowedNames, hdeclared, hborrowed]
    exact knows_of_foreign _ hchecks.1
  pixel c := by
    rw [hpixel, declaredNames, hdeclared]
    exact knows_of_foreign _ hchecks.2.1
  introduces c := (congrArg introduced (hpixel c)).trans hchecks.2.2.1
  ends c := by
    rw [hpixel]
    exact hchecks.2.2.2

theorem scoped_vertTransform : Scoped FeatureType.vertTransform.id vertTransform :=
  scoped_of_fixed [.modelview] [] (fun _ => words_of_literal _ rfl) (fun _ => rfl) (fun _ => rfl)
    (fun _ _ => rfl) (by decide)

theorem scoped_alphaTest : Scoped FeatureType.alphaTest.id alphaTest :=
  scoped_of_fixed [.alphaReference] [] (fun _ => rfl) (fun _ => words_of_literal _ rfl)
    (fun _ => rfl) (fun _ _ => rfl) (by decide)

theorem scoped_vertLit : Scoped FeatureType.vertLit.id vertLit :=
  scoped_of_fixed [] [] (fun _ => words_of_literal _ rfl) (fun _ => words_of_literal _ rfl)
    (fun _ => rfl) (fun _ _ => rfl) (by decide)

theorem scoped_lightMap : Scoped FeatureType.lightMap.id lightMap :=
  scoped_of_fixed [] [] (fun _ => words_of_literal _ rfl) (fun _ => words_of_literal _ rfl)
    (fun _ => rfl) (fun _ _ => rfl) (by decide)

theorem scoped_pixSpecular : Scoped FeatureType.pixSpecular.id pixSpecular :=
  scoped_of_fixed [.specularColor, .specularPower, .eyeWorld] [] (fun _ => rfl)
    (fun _ => words_of_two_literals _ _ rfl) (fun _ => rfl) (fun _ _ => rfl) (by decide)

theorem scoped_fog : Scoped FeatureType.fog.id fog :=
  scoped_of_fixed [.fogRange, .fogColor] [] (fun _ => rfl)
    (fun _ => words_of_two_literals _ _ rfl) (fun _ => rfl) (fun _ _ => rfl) (by decide)

theorem scoped_visibility : Scoped FeatureType.visibility.id visibility :=
  scoped_of_fixed [.visibility] [] (fun _ => rfl) (fun _ => words_of_literal _ rfl) (fun _ => rfl)
    (fun _ _ => rfl) (by decide)

theorem scoped_glowMask : Scoped FeatureType.glowMask.id glowMask :=
  scoped_of_fixed [.glow] [] (fun _ => rfl) (fun _ => words_of_literal _ rfl) (fun _ => rfl)
    (fun _ _ => rfl) (by decide)

theorem scoped_prePassConditioner : Scoped FeatureType.prePassConditioner.id prePassConditioner :=
  scoped_of_fixed [] [.modelview] (fun _ => words_of_literal _ rfl)
    (fun _ => words_of_literal _ rfl) (fun _ => rfl) (fun _ _ => rfl) (by decide)

theorem scoped_depthOut : Scoped FeatureType.depthOut.id depthOut :=
  scoped_of_fixed [] [] (fun _ => words_of_literal _ rfl) (fun _ => words_of_literal _ rfl)
    (fun _ => rfl) (fun _ _ => rfl) (by decide)

theorem scoped_hdrOut : Scoped FeatureType.hdrOut.id hdrOut :=
  scoped_of_fixed [] [] (fun _ => rfl) (fun _ => words_of_literal _ rfl)
    (fun _ => rfl) (fun _ _ => rfl) (by decide)

/-- A pixel half that names some of the constants that it declares introduces no locals. -/
theorem scoped_of_declared (hlocals : locals id = [])
    (hvertex : ∀ c, Knows (declaredNames id c.stage ++ borrowedNames c.features id c.stage)
      (words (g.vertex c)))
    (hpixel : ∀ c, Knows (declaredNames id c.stage) (words (g.pixel c))) : Scoped id g where
  vertex := hvertex
  pixel c := (hpixel c).of_subset (List.subset_cons_self _ _)
  introduces c := (introduced_of_not_mem (hpixel c).let_not_mem).trans hlocals.symm
  ends c h := (hpixel c).let_not_mem (List.mem_of_getLast? h)

/-- The same, for a pixel half of known words. -/
theorem scoped_of_pixel (pixel declared : List Token)
    (hvertex : ∀ c, Knows (declaredNames id c.stage ++ borrowedNames c.features id c.stage)
      (words (g.vertex c)))
    (hpixel : ∀ c, words (g.pixel c) = pixel.map (Token.text c))
    (hdeclared : ∀ c : Scope, declaredNames id c.stage = declared.map (Token.text c))
    (hlocals : locals id = [])
    (hcheck : pixel.all (fun t => t.foreign || t ∈ declared) = true) : Scoped id g := by
  refine scoped_of_declared hlocals hvertex fun c => ?_
  rw [hpixel, hdeclared]
  exact knows_of_tokens _ _ hcheck

/-- The line that computes a coordinate names the texture matrix of the stage at most. -/
theorem knows_coordVertex (hid : id ∈ coordTypes) (c : Scope) :
    Knows (borrowedNames c.features id c.stage) (words (coordVertex c id)) := by
  rw [words_coordVertex]
  split
  · split
    next hanim =>
      have h : Knows ([Token.own "texMat"].map (Token.text c))
          ([.own "texCoord", .own "texMat", .fixed "vec4", .fixed "f32", .fixed "uv0",
            .fixed "xy"].map (Token.text c)) := knows_of_tokens _ _ (by decide)
      refine h.of_subset (List.cons_subset.mpr ⟨?_, List.nil_subset _⟩)
      rw [borrowedNames, Constant.borrowedBy, if_pos ⟨hid, hanim⟩]
      exact List.mem_cons_self
    next =>
      have h : Knows ([].map (Token.text c))
          ([Token.own "texCoord", .fixed "uv0"].map (Token.text c)) :=
        knows_of_tokens _ _ (by decide)
      exact h.of_subset (List.nil_subset _)
  · exact Knows.nil

/-- A generator that writes the same words for every set. -/
theorem scoped_of_tokens (vertex pixel declared : List Token)
    (hvertex : ∀ c, words (g.vertex c) = vertex.map (Token.text c))
    (hpixel : ∀ c, words (g.pixel c) = pixel.map (Token.text c))
    (hdeclared : ∀ c : Scope, declaredNames id c.stage = declared.map (Token.text c))
    (hlocals : locals id = [])
    (hcheck : (vertex ++ pixel).all (fun t => t.foreign || t ∈ declared) = true) :
    Scoped id g := by
  obtain ⟨hcheckVertex, hcheckPixel⟩ := Bool.and_eq_true_iff.mp (List.all_append.symm.trans hcheck)
  refine scoped_of_pixel pixel declared (fun c => ?_) hpixel hdeclared hlocals hcheckPixel
  rw [hvertex, hdeclared]
  exact (knows_of_tokens _ _ hcheckVertex).of_subset (List.subset_append_left _ _)

/-- A map of a stage, by the words of its pixel half. -/
theorem scoped_of_map (pixel declared : List Token) (hid : id ∈ coordTypes)
    (hvertex : g.vertex = (coordVertex · id))
    (hpixel : ∀ c, words (g.pixel c) = pixel.map (Token.text c))
    (hdeclared : ∀ c : Scope, declaredNames id c.stage = declared.map (Token.text c))
    (hlocals : locals id = [])
    (hcheck : pixel.all (fun t => t.foreign || t ∈ declared) = true) : Scoped id g := by
  refine scoped_of_pixel pixel declared (fun c => ?_) hpixel hdeclared hlocals hcheck
  rw [hvertex]
  exact (knows_coordVertex hid c).of_subset (List.subset_append_right _ _)

theorem scoped_diffuseMap : Scoped FeatureType.diffuseMap.id diffuseMap :=
  scoped_of_map [.fixed "col", .fixed "textureSample", .own "diffuseMap", .own "texCoord"] []
    (by decide) rfl words_diffuseMap (fun _ => rfl) rfl (by decide)

theorem scoped_detailMap : Scoped FeatureType.detailMap.id detailMap :=
  scoped_of_map
    [.fixed "col", .fixed "textureSample", .own "detailMap", .own "texCoord", .own "detailScale"]
    [.own "detailScale"] (by decide) rfl words_detailMap (fun _ => rfl) rfl (by decide)

theorem scoped_specularMap : Scoped FeatureType.specularMap.id specularMap :=
  scoped_of_map [.fixed "specularMask", .fixed "textureSample", .own "specularMap", .own "texCoord"]
    [] (by decide) rfl words_specularMap (fun _ => rfl) rfl (by decide)

/-- The overlay of a stage introduces a local without the number of the stage. -/
theorem scoped_overlayMap : Scoped FeatureType.overlayMap.id overlayMap := by
  have hrest (c : Scope) : Knows (([] : List Constant).map Constant.name)
      ["overlay", "textureSample", c.indexed "overlayMap", coordName c, "col", "mix", "col",
        "overlay", "overlay", "a"] :=
    knows_of_tokens [.fixed "overlay", .fixed "textureSample", .own "overlayMap",
      .own "texCoord", .fixed "col", .fixed "mix", .fixed "col", .fixed "overlay",
      .fixed "overlay", .fixed "a"] [] (by decide)
  refine ⟨fun c => ?_, fun c => ?_, fun c => ?_, fun c h => ?_⟩
  · exact (knows_coordVertex (by decide) c).of_subset (List.subset_append_right _ _)
  · rw [words_overlayMap]
    exact ((hrest c).of_subset (List.nil_subset _)).cons fun _ => List.mem_cons_self
  · rw [words_overlayMap, introduced, introduced_of_not_mem (hrest c).let_not_mem]
    rfl
  · rw [words_overlayMap, List.getLast?_cons_cons] at h
    exact (hrest c).let_not_mem (List.mem_of_getLast? h)

theorem scoped_diffuseColor : Scoped FeatureType.diffuseColor.id diffuseColor :=
  scoped_of_tokens [] [.fixed "col", .own "diffuseMaterialColor"] [.own "diffuseMaterialColor"]
    (fun _ => rfl) words_diffuseColor (fun _ => rfl) rfl (by decide)

theorem scoped_toneMap : Scoped FeatureType.toneMap.id toneMap :=
  scoped_of_tokens [.fixed "lmCoord", .fixed "uv1"]
    [.fixed "col", .fixed "textureSample", .own "toneMap", .fixed "lmCoord"] []
    (fun _ => (words_of_literal _ rfl).trans rfl) words_toneMap (fun _ => rfl) rfl
    (by decide)

theorem scoped_cubeMap : Scoped FeatureType.cubeMap.id cubeMap :=
  scoped_of_tokens
    [.own "reflectVec", .fixed "reflect", .fixed "position", .fixed "eyePosWorld", .fixed "normal"]
    [.fixed "col", .fixed "mix", .fixed "col", .fixed "textureSample", .own "cubeMap",
      .own "reflectVec", .fixed "col", .fixed "a"] [.fixed "eyePosWorld"]
    words_cubeMap_vertex words_cubeMap_pixel (fun _ => rfl) rfl (by decide)

theorem scoped_parallax : Scoped FeatureType.parallax.id parallax := by
  refine scoped_of_pixel [.own "texCoord", .fixed "normalize", .fixed "eyeTangent", .fixed "xy",
    .fixed "textureSample", .own "bumpMap", .own "texCoord", .fixed "a", .own "parallaxInfo"]
    [.fixed "eyePosObj", .own "parallaxInfo"] (fun c => ?_) words_parallax (fun _ => rfl) rfl
    (by decide)
  rw [parallax, words_append]
  refine ((knows_coordVertex (by decide) c).of_subset (List.subset_append_right _ _)).append ?_
  rw [words_of_literal _ rfl]
  exact (knows_of_foreign ["eyePosObj"] (by decide)).of_subset
    (List.cons_subset.mpr ⟨List.mem_cons_self, List.nil_subset _⟩)

theorem world_mem_borrowedNames (h : id = FeatureType.normalMap.id ∨ id = FeatureType.rtLighting.id)
    (set : FeatureSet) (stage : Option Nat) : "objTrans" ∈ borrowedNames set id stage := by
  rw [borrowedNames, Constant.borrowedBy, if_pos h, List.map_append]
  exact List.mem_append_right _ List.mem_cons_self

theorem scoped_normalMap : Scoped FeatureType.normalMap.id normalMap := by
  refine scoped_of_pixel [.fixed "bumpNormal", .fixed "normalize", .fixed "mat3x3", .fixed "f32",
    .fixed "tangentFrame0", .fixed "tangentFrame1", .fixed "tangentFrame2", .fixed "textureSample",
    .own "bumpMap", .own "texCoord", .fixed "xyz"] [] (fun c => ?_) words_normalMap (fun _ => rfl)
    rfl (by decide)
  rw [words_normalMap_vertex]
  refine Knows.of_subset ((knows_coordVertex (by decide) c).append ?_)
    (List.subset_append_right _ _)
  split
  · have hworld := world_mem_borrowedNames (.inl rfl) c.features c.stage
    exact (knows_of_foreign ["objTrans"] (by decide)).of_subset
      (List.cons_subset.mpr ⟨hworld, List.nil_subset _⟩)
  · exact Knows.nil

theorem scoped_rtLighting : Scoped FeatureType.rtLighting.id rtLighting := by
  have hpixel (c : Scope) : words (rtLighting.pixel c) =
      ["let", "lightDir", "normalize", "inLightPos", "xyz", "wsPosition", "col", "ambient",
        "inLightColor", "saturate", "dot", "wsNormal", "lightDir"] :=
    (words_of_two_literals _ _ rfl).trans rfl
  refine ⟨fun c => ?_, fun c => ?_, fun c => ?_, fun c => ?_⟩
  · have hworld := world_mem_borrowedNames (.inr rfl) c.features c.stage
    have hvertex : Knows ["objTrans"] (words (rtLighting.vertex c)) := by
      rw [words_rtLighting_vertex]
      split <;> exact knows_of_foreign _ (by decide)
    exact hvertex.of_subset
      (List.cons_subset.mpr ⟨List.mem_append_right _ hworld, List.nil_subset _⟩)
  · rw [hpixel]
    exact knows_of_foreign ["let", "inLightPos", "inLightColor", "ambient"] (by decide)
  · rw [hpixel]
    decide
  · rw [hpixel]
    decide

theorem scoped_texAnim : Scoped FeatureType.texAnim.id texAnim :=
  scoped_of_declared rfl (fun _ => Knows.nil) fun _ => Knows.nil

theorem scoped_marker (hlocals : locals id = []) : Scoped id marker :=
  scoped_of_declared hlocals (fun _ => Knows.nil) fun _ => Knows.nil

/-- The lines of the built-in generators name what their entries declare and borrow, and introduce
their locals. -/
theorem scoped_builtin : ∀ p ∈ builtin, Scoped p.1.id p.2 := by
  simp only [builtin, List.forall_mem_cons, List.not_mem_nil, false_imp_iff, implies_true, and_true]
  exact ⟨scoped_vertTransform, scoped_texAnim, scoped_parallax, scoped_diffuseMap,
    scoped_overlayMap, scoped_detailMap, scoped_diffuseColor, scoped_normalMap, scoped_specularMap,
    scoped_alphaTest, scoped_vertLit, scoped_lightMap, scoped_toneMap, scoped_rtLighting,
    scoped_pixSpecular, scoped_cubeMap, scoped_fog, scoped_visibility, scoped_glowMask,
    scoped_prePassConditioner, scoped_depthOut, scoped_hdrOut, scoped_marker rfl,
    scoped_marker rfl⟩

end Generator

end MaterialPipeline
