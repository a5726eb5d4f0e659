import MaterialPipeline.Proofs.Feature.Union
import MaterialPipeline.Proofs.Pass.Outcome
import Mathlib.Data.List.Sublists

/-!
# Proofs — Pass — Cover

The passes of a material cover its layers: one pass for each of some blocks of layers that, one
after another, make up all layers.

* `Session.Keeps`: the programs of one session are still there in another.
* `Covers`: what a pass over a block of layers is.
* `Packing`: the passes built so far cover the layers taken so far.  It is what one pass preserves
  (`Packing.snoc`), and so what holds when no layers are left (`run_packFrom`).
* `buildPasses_covers`: packing ends, and if it succeeds, its passes cover the layers.
-/

namespace MaterialPipeline

/-! ### Programs that stay -/

theorem Device.program?_eq_some_iff {d : Device} {h : ProgramHandle} {program : Program} :
    d.program? h = some program ↔ d.programs[h.number]? = some (some program) :=
  Option.join_eq_some_iff

/-- The programs of the session `s` are in the session `s'`, behind the same handles. -/
def Session.Keeps (s s' : Session) : Prop :=
  s.device.programs.toList <+: s'.device.programs.toList

namespace Session.Keeps

variable {s s' s'' : Session}

theorem refl (s : Session) : s.Keeps s :=
  List.prefix_rfl

theorem trans (h₁ : s.Keeps s') (h₂ : s'.Keeps s'') : s.Keeps s'' :=
  List.IsPrefix.trans h₁ h₂

theorem size_le (h : s.Keeps s') : s.device.programs.size ≤ s'.device.programs.size :=
  h.length_le

theorem program? (hk : s.Keeps s') {h : ProgramHandle} {program : Program}
    (hp : s.device.program? h = some program) : s'.device.program? h = some program := by
  obtain ⟨later, e⟩ := hk
  rw [Device.program?_eq_some_iff, ← Array.getElem?_toList] at hp ⊢
  obtain ⟨hlt, -⟩ := List.getElem?_eq_some_iff.mp hp
  rw [← e, List.getElem?_append_left hlt, hp]

end Session.Keeps

namespace Packer

variable {p : Packer} {s s' s₀ : Session} {first : Layer} {others layers block rest : List Layer}
  {index last : Nat} {rejected : List Nat} {pass : Pass} {passes : List Pass}
  {blocks : List (List Layer)}

theorem keeps_built : s.Keeps (p.built s index block) :=
  ⟨[some (p.program index block)], by simp [built, Session.withStates, Device.compiled]⟩

theorem keeps_afterRejected : s.Keeps (p.afterRejected s first index layers rejected) :=
  .refl s

theorem refusal_built : (p.built s index block).device.refusal = s.device.refusal :=
  Device.refusal_congr rfl rfl rfl

/-- The program of a pass is behind its handle as soon as the pass is built. -/
theorem program?_built :
    (p.built s index block).device.program? (p.passOver s index block).program =
      some (p.program index block) :=
  Device.program?_eq_some_iff.mpr Array.getElem?_push_size

/-! ### One pass -/

/-- The pass numbered `index` covers the layers of `block`.  It was built since the session `s`, and
its program is still there in the session `s'`. -/
structure Covers (p : Packer) (s s' : Session) (index : Nat) (block : List Layer) (pass : Pass) :
    Prop where
  nonempty : block ≠ []
  stages : pass.stages = block.map (·.stage)
  features : pass.features = .mergeAll (block.map (·.features))
  /-- The features are those of the layers. -/
  hasAt : ∀ id stage, pass.features.hasAt id stage = true ↔
    ∃ l ∈ block, l.features.hasAt id stage = true
  mem : ∀ f ∈ pass.features.entries, ∃ l ∈ block, f ∈ l.features.entries
  cost : p.registry.measure pass.features = .ok pass.cost
  fits : pass.cost.fits p.limits = true
  program : s'.device.program? pass.program =
    some (p.registry.assemble p.format s!"{p.label}:{index}" pass.features)
  fresh : s.device.programs.size ≤ pass.program.number
  bindings : pass.bindings = p.registry.bindings pass.features
  composite : pass.composite = if index = 0 then .none else .lerpAlpha

theorem covers_passOver (hne : block ≠ []) (hb : (p.cost block).Bounded)
    (ha : p.Accepts s.device.refusal index block) :
    p.Covers s (p.built s index block) index block (p.passOver s index block) where
  nonempty := hne
  stages := rfl
  features := rfl
  hasAt id stage := by simp [passOver, Layer.union, FeatureSet.hasAt_mergeAll]
  mem f hf := by
    obtain ⟨set, hset, hf⟩ := FeatureSet.mem_mergeAll hf
    obtain ⟨l, hl, rfl⟩ := List.mem_map.mp hset
    exact ⟨l, hl, hf⟩
  cost := Registry.measure_of_bounded hb
  fits := ha.2.1
  program := program?_built
  fresh := Nat.le_refl _
  bindings := rfl
  composite := rfl

/-- A pass still covers its layers later on. -/
theorem Covers.mono {s'' : Session} (h : p.Covers s s' index block pass) (hbefore : s₀.Keeps s)
    (hafter : s'.Keeps s'') : p.Covers s₀ s'' index block pass :=
  { h with
    program := hafter.program? h.program
    fresh := hbefore.size_le.trans h.fresh }

/-- Building a pass either fails, or it builds a pass over one or more of the first layers. -/
theorem run_buildPass_cases (hl : layers = first :: others)
    (hb : ∀ block, block <+: layers → (p.cost block).Bounded) (s : Session) (index : Nat) :
    (∃ error s' tried, (p.buildPass layers index).run s = .ok (.error error, s') ∧
      tried <+: halvings layers.length ∧
      p.FailsWith s.device.refusal index first layers tried error) ∨
    ∃ pass count s', (p.buildPass layers index).run s = .ok (.ok (pass, count), s') ∧
      1 ≤ count ∧ s'.device.refusal = s.device.refusal ∧ s.Keeps s' ∧
      p.Covers s s' index (layers.take count) pass := by
  have hb' : ∀ k, (p.cost (layers.take k)).Bounded := fun k => hb _ (List.take_prefix k layers)
  obtain ⟨rejected, last, h⟩ :=
    p.exists_stop s.device.refusal index layers (by simp [hl])
  have hrun := run_buildPass hl hb' h
  have hrefusal : (p.afterRejected s first index layers rejected).device.refusal =
      s.device.refusal := Session.refusal_extend _ _ _
  have hlast : last ∈ rejected ++ [last] := by simp
  obtain ⟨hone, hle⟩ := bounds_of_mem_halvings (h.tried.subset hlast)
  by_cases ha : p.Accepts s.device.refusal index (layers.take last)
  · -- The tries before the last left the programs as they were.
    right
    have hne : layers.take last ≠ [] := by simp [hl]; omega
    rw [settled_of_accepts (hrefusal ▸ ha), after_of_accepts (hrefusal ▸ ha),
      List.length_take_of_le hle] at hrun
    have hcovers := covers_passOver hne (hb' last) (hrefusal.symm ▸ ha)
    exact ⟨_, _, _, hrun, hone, refusal_built.trans hrefusal, keeps_afterRejected.trans keeps_built,
      hcovers.mono keeps_afterRejected (.refl _)⟩
  · left
    obtain ⟨error, he⟩ := settled_of_not_accepts first (hrefusal ▸ ha)
    rw [he] at hrun
    have hfails := (hrefusal ▸ h).failsWith hl hb' he
    exact ⟨error, _, _, hrun, h.tried, hrefusal ▸ hfails⟩

/-! ### All passes -/

/-- The passes cover the layers block by block.  They were built since the session `s₀`, and their
programs are still there in the session `s`. -/
structure Packing (p : Packer) (s₀ s : Session) (layers : List Layer) (passes : List Pass)
    (blocks : List (List Layer)) : Prop where
  flatten : blocks.flatten = layers
  length : blocks.length = passes.length
  covers : ∀ i block pass, blocks[i]? = some block → passes[i]? = some pass →
    p.Covers s₀ s i block pass
  keeps : s₀.Keeps s
  refusal : s.device.refusal = s₀.device.refusal

namespace Packing

theorem nil (p : Packer) (s : Session) : p.Packing s s [] [] [] where
  flatten := rfl
  length := rfl
  covers i block pass h := by cases h
  keeps := .refl s
  refusal := rfl

/-- One more pass covers the layers that come next. -/
theorem snoc (h : p.Packing s₀ s layers passes blocks) (hk : s.Keeps s')
    (hr : s'.device.refusal = s.device.refusal)
    (hc : p.Covers s s' passes.length block pass) :
    p.Packing s₀ s' (layers ++ block) (passes ++ [pass]) (blocks ++ [block]) where
  flatten := by rw [List.flatten_append, h.flatten, List.flatten_singleton]
  length := by rw [List.length_append, List.length_append, h.length]; rfl
  covers i b q hb hq := by
    rw [List.getElem?_append] at hb hq
    rw [h.length] at hb
    split at hb
    next hi =>
      rw [if_pos hi] at hq
      exact (h.covers i b q hb hq).mono (.refl s₀) hk
    next hi =>
      rw [if_neg hi] at hq
      rw [List.getElem?_singleton] at hb hq
      split at hb
      next hi' =>
        rw [if_pos hi'] at hq
        obtain rfl : i = passes.length := by omega
        cases hb
        cases hq
        exact hc.mono h.keeps (.refl s')
      next => cases hb
  keeps := h.keeps.trans hk
  refusal := hr.trans h.refusal

/-- Every layer is in a block, which a pass covers. -/
theorem exists_covers_of_layer (h : p.Packing s₀ s layers passes blocks) {l : Layer}
    (hl : l ∈ layers) : ∃ i block, ∃ pass ∈ passes, block ∈ blocks ∧ l ∈ block ∧
      p.Covers s₀ s i block pass := by
  rw [← h.flatten] at hl
  obtain ⟨block, hblock, hl⟩ := List.mem_flatten.mp hl
  obtain ⟨i, hi, rfl⟩ := List.getElem_of_mem hblock
  have hi' : i < passes.length := h.length ▸ hi
  exact ⟨i, blocks[i], passes[i], List.getElem_mem hi', hblock, hl,
    h.covers i _ _ (List.getElem?_eq_getElem hi) (List.getElem?_eq_getElem hi')⟩

/-- Every pass covers a block of layers. -/
theorem exists_covers_of_pass (h : p.Packing s₀ s layers passes blocks) (hpass : pass ∈ passes) :
    ∃ i, ∃ block ∈ blocks, p.Covers s₀ s i block pass := by
  obtain ⟨i, hi, rfl⟩ := List.getElem_of_mem hpass
  have hi' : i < blocks.length := h.length ▸ hi
  exact ⟨i, blocks[i], List.getElem_mem hi',
    h.covers i _ _ (List.getElem?_eq_getElem hi') (List.getElem?_eq_getElem hi)⟩

/-- The passes have the stages of the layers, in order. -/
theorem stages (h : p.Packing s₀ s layers passes blocks) :
    passes.flatMap (·.stages) = layers.map (·.stage) := by
  have hstages : passes.map (·.stages) = blocks.map fun block => block.map (·.stage) := by
    refine List.ext_getElem (by simp [h.length]) fun i hi hi' => ?_
    rw [List.length_map] at hi hi'
    rw [List.getElem_map, List.getElem_map]
    exact (h.covers i _ _ (List.getElem?_eq_getElem hi') (List.getElem?_eq_getElem hi)).stages
  rw [List.flatMap_def, hstages, ← h.flatten, List.map_flatten]

end Packing

/-- What packing `layers`, from the session `s₀`, comes to. -/
inductive Packed (p : Packer) (s₀ : Session) (layers : List Layer) :
    Except BuildError (List Pass) → Session → Prop where
  /-- The passes cover all layers. -/
  | all {s : Session} {passes : List Pass} {blocks : List (List Layer)}
      (h : p.Packing s₀ s layers passes blocks) : Packed p s₀ layers (.ok passes) s
  /-- No pass can be built over what comes after the layers `taken`. -/
  | stuck {s s' : Session} {taken rest : List Layer} {first : Layer} {passes : List Pass}
      {blocks : List (List Layer)} {tried : List Nat} {error : BuildError}
      (hsplit : taken ++ first :: rest = layers) (h : p.Packing s₀ s taken passes blocks)
      (htried : tried <+: halvings (first :: rest).length)
      (hfails : p.FailsWith s₀.device.refusal passes.length first (first :: rest) tried error) :
      Packed p s₀ layers (.error error) s'

theorem run_packFrom_of_error {error : BuildError}
    (h : (p.buildPass (first :: rest) passes.length).run s = .ok (.error error, s')) :
    (p.packFrom passes (first :: rest)).run s =
      .ok (.error error, s'.applyAll (passes.flatMap Pass.destruction)) := by
  rw [packFrom, Action.run_bind h, Action.run_bind (Action.run_perform _ _)]
  rfl

theorem run_packFrom_of_ok {count : Nat} (hcount : 1 ≤ count)
    (h : (p.buildPass (first :: rest) passes.length).run s = .ok (.ok (pass, count), s')) :
    (p.packFrom passes (first :: rest)).run s =
      (p.packFrom (passes ++ [pass]) ((first :: rest).drop count)).run s' := by
  obtain ⟨n, rfl⟩ := Nat.exists_eq_add_of_le' hcount
  rw [packFrom, Action.run_bind h]
  rfl

/-- Packing the layers that are left, after those that are taken, ends as it should. -/
theorem run_packFrom (hb : ∀ block, block <:+: layers → (p.cost block).Bounded)
    {taken : List Layer} (hsplit : taken ++ rest = layers)
    (h : p.Packing s₀ s taken passes blocks) :
    ∃ result s', (p.packFrom passes rest).run s = .ok (result, s') ∧
      p.Packed s₀ layers result s' := by
  -- Each pass takes a layer or more, so fewer are left.
  induction hn : rest.length using Nat.strong_induction_on
    generalizing rest taken s passes blocks with
  | _ n ih =>
      cases rest with
      | nil =>
          rw [List.append_nil] at hsplit
          subst hsplit
          exact ⟨_, _, by rw [packFrom]; rfl, .all h⟩
      | cons first others =>
          have hb' : ∀ block, block <+: first :: others → (p.cost block).Bounded :=
            fun block hprefix => hb block
              (hsplit ▸ hprefix.isInfix.trans (List.suffix_append taken _).isInfix)
          rcases run_buildPass_cases rfl hb' s passes.length with
            ⟨error, s', tried, hrun, htried, hfails⟩ |
            ⟨pass, count, s', hrun, hcount, hrefusal, hkeeps, hcovers⟩
          · exact ⟨_, _, run_packFrom_of_error hrun, .stuck hsplit h htried (h.refusal ▸ hfails)⟩
          · rw [run_packFrom_of_ok hcount hrun]
            refine ih ((first :: others).drop count).length ?_ ?_
              (h.snoc hkeeps hrefusal hcovers) rfl
            · rw [List.length_drop, ← hn, List.length_cons]
              omega
            · rw [List.append_assoc, List.take_append_drop, hsplit]

theorem run_buildPasses (hne : layers ≠ [])
    (hb : ∀ block, block <:+: layers → (p.cost block).Bounded) (s : Session) :
    ∃ result s', (p.buildPasses layers).run s = .ok (result, s') ∧ p.Packed s layers result s' := by
  have hempty : layers.isEmpty = false := by simpa using hne
  rw [buildPasses, hempty, if_neg Bool.false_ne_true]
  exact run_packFrom hb (List.nil_append layers) (.nil p s)

/-- **The passes cover the layers.**  Packing any layers but none ends, whatever the device
compiles, and if it succeeds, the passes cover the layers block by block, each within the budget. -/
theorem buildPasses_covers (p : Packer) (layers : List Layer) (s : Session) (hne : layers ≠ [])
    (hb : ∀ block, block <:+: layers → (p.cost block).Bounded) :
    ∃ result s', (p.buildPasses layers).run s = .ok (result, s') ∧
      ∀ passes, result = .ok passes →
        passes.flatMap (·.stages) = layers.map (·.stage) ∧
        ∃ blocks, p.Packing s s' layers passes blocks := by
  obtain ⟨result, s', hrun, hpacked⟩ := run_buildPasses hne hb s
  refine ⟨result, s', hrun, fun passes hok => ?_⟩
  cases hpacked with
  | all h =>
      cases hok
      exact ⟨h.stages, _, h⟩
  | stuck => cases hok

/-- Two stages are covered on a device that has a texture slot for one of them at a time. -/
theorem buildPasses_covers_two_stages :
    let p : Packer := ⟨.builtin, .positionNormalUv, ⟨2, 10, true⟩, "rock", .ofMaterial .warning⟩
    let layers : List Layer := [⟨0, .ofList [⟨.diffuseMap, some 0⟩], .wrapLinear⟩,
      ⟨1, .ofList [⟨.diffuseMap, some 1⟩], .wrapLinear⟩]
    layers ≠ [] ∧ (∀ block, block <:+: layers → (p.cost block).Bounded) ∧
      ∃ result s', (p.buildPasses layers).run {} = .ok (result, s') ∧
        ∀ passes, result = .ok passes →
          passes.flatMap (·.stages) = [0, 1] ∧ ∃ blocks, p.Packing {} s' layers passes blocks := by
  intro p layers
  have hbounded : ∀ block ∈ layers.sublists', (p.cost block).Bounded := by decide +kernel
  have hb : ∀ block, block <:+: layers → (p.cost block).Bounded := fun block h =>
    hbounded block (List.mem_sublists'.mpr h.sublist)
  exact ⟨List.cons_ne_nil _ _, hb, buildPasses_covers p layers {} (List.cons_ne_nil _ _) hb⟩

end Packer

end MaterialPipeline
