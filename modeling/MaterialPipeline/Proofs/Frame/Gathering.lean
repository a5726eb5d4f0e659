import MaterialPipeline.Proofs.Frame.Ending
import MaterialPipeline.Proofs.Frame.Tally
import MaterialPipeline.Proofs.Material.Steps
import Mathlib.Algebra.BigOperators.Group.Finset.Basic
import Mathlib.Data.Prod.Lex

/-!
# Proofs — Frame — Gathering

Meshes and terrain are drawn one material after the other.  An object sorts by the position of its
material first, and no two materials of a library are at one position.  So sorting brings the
elements of one material together, in whatever order they were handed in, and the passes of a
material are set up once for all of them.

* `SortedBy`: a list in the order of a key; equal keys keep their places.
* `Keyed`: the first keys of some elements tell their materials apart.
* `BinCore.exists_strokes_by_material`: elements that are keyed and in order are drawn in one stroke
for each material.
* `Bin.SetsUp`: the passes of each material are set up once.
* `Library.Reached.setupPass`: a step through the passes of a form that is not a part of drawing.
* `Pipeline.Lived.gathers`: passes are set up once, if none is set up when the frame begins.
-/

namespace MaterialPipeline

open MaterialPipeline.Action

/-! ### Sorting by a key -/

section SortedBy

variable {α β : Type} [LinearOrder β] {key : α → β} {l sorted : List α}

/-- `sorted` is `l` in ascending order of a key; where keys are equal, the order is that of `l`. -/
structure SortedBy (key : α → β) (l sorted : List α) : Prop where
  perm : sorted.Perm l
  ascending : sorted.Pairwise fun a b => key a ≤ key b
  stable : ∀ k, sorted.filter (key · = k) = l.filter (key · = k)

theorem sortedBy_mergeSort {le : α → α → Bool} (hle : ∀ a b, le a b = true ↔ key a ≤ key b)
    (l : List α) : SortedBy key l (l.mergeSort le) := by
  have htrans : ∀ a b c, le a b = true → le b c = true → le a c = true := by
    intro a b c hab hbc
    rw [hle] at hab hbc ⊢
    exact hab.trans hbc
  have htotal : ∀ a b, (le a b || le b a) = true := by
    intro a b
    rw [Bool.or_eq_true, hle, hle]
    exact le_total _ _
  have hperm := List.mergeSort_perm l le
  refine ⟨hperm, (List.pairwise_mergeSort htrans htotal l).imp fun h => (hle _ _).mp h, fun k => ?_⟩
  -- What has the key `k` is in order already, so sorting keeps it as it stands.
  have hordered : (l.filter (key · = k)).Pairwise fun a b => le a b = true := by
    refine List.pairwise_of_forall_mem_list fun a ha b hb => (hle a b).mpr (le_of_eq ?_)
    rw [of_decide_eq_true (List.mem_filter.mp ha).2, of_decide_eq_true (List.mem_filter.mp hb).2]
  have hsub := (List.sublist_mergeSort htrans htotal hordered List.filter_sublist).filter
    (key · = k)
  simp only [List.filter_filter, Bool.and_self] at hsub
  exact (hsub.eq_of_length (hperm.filter _).length_eq.symm).symm

/-- In ascending order, the elements with the least key come first. -/
theorem prefix_filter_of_ascending (h : l.Pairwise fun a b => key a ≤ key b) {k : β}
    (hk : ∀ a ∈ l, k ≤ key a) : l.filter (key · = k) <+: l := by
  induction l with
  | nil => exact List.prefix_rfl
  | cons a rest ih =>
      obtain ⟨ha, hrest⟩ := List.pairwise_cons.mp h
      obtain ⟨hka, hkrest⟩ := List.forall_mem_cons.mp hk
      by_cases hkey : key a = k
      · rw [List.filter_cons_of_pos (by simpa using hkey)]
        exact (List.prefix_cons_inj a).mpr (ih hrest hkrest)
      · have hnone : (a :: rest).filter (key · = k) = [] := by
          refine List.filter_eq_nil_iff.mpr fun b hb hkey' => ?_
          have hlt : k < key a := lt_of_le_of_ne hka (Ne.symm hkey)
          rcases List.mem_cons.mp hb with rfl | hb
          · exact hkey (of_decide_eq_true hkey')
          · exact (hlt.trans_le (ha b hb)).ne' (of_decide_eq_true hkey')
        rw [hnone]
        exact List.nil_prefix

/-- In ascending order, the elements with one key stand together. -/
theorem infix_filter_of_ascending (h : l.Pairwise fun a b => key a ≤ key b) (k : β) :
    l.filter (key · = k) <:+: l := by
  induction l with
  | nil => exact List.infix_rfl
  | cons a rest ih =>
      obtain ⟨ha, hrest⟩ := List.pairwise_cons.mp h
      by_cases hkey : key a = k
      · refine (prefix_filter_of_ascending h fun b hb => ?_).isInfix
        rcases List.mem_cons.mp hb with rfl | hb
        · exact hkey.ge
        · exact hkey.ge.trans (ha b hb)
      · rw [List.filter_cons_of_neg (by simpa using hkey)]
        exact List.infix_cons (ih hrest)

end SortedBy

/-! ### Elements and their materials -/

namespace BinElement

variable {arena : FrameArena Submission} {a b : BinElement}

/-- Both keys, the first one first. -/
def keys (e : BinElement) : Nat ×ₗ Nat :=
  toLex (e.key, e.secondaryKey)

/-- The material of the object of an element. -/
def material (arena : FrameArena Submission) (e : BinElement) : Option Slot :=
  (arena.find e.handle).bind (·.material)

theorem material_of_find {o : Submission} (hfind : arena.find a.handle = some o) :
    a.material arena = o.material := by
  rw [material, hfind]
  rfl

theorem keysLe_iff (a b : BinElement) : BinCore.keysLe a b = true ↔ a.keys ≤ b.keys := by
  simp [BinCore.keysLe, keys, Prod.Lex.toLex_le_toLex]

theorem key_le_of_keys_le (h : a.keys ≤ b.keys) : a.key ≤ b.key := by
  rcases Prod.Lex.toLex_le_toLex.mp h with hlt | ⟨heq, -⟩
  · exact hlt.le
  · exact heq.le

end BinElement

/-- The elements have materials, and their first keys tell these apart. -/
structure Keyed (arena : FrameArena Submission) (elements : List BinElement) : Prop where
  exists_material : ∀ e ∈ elements, ∃ o id, arena.find e.handle = some o ∧ o.material = some id
  material_eq_iff : ∀ e ∈ elements, ∀ e' ∈ elements,
    e.material arena = e'.material arena ↔ e.key = e'.key

namespace Keyed

variable {arena : FrameArena Submission} {elements elements' : List BinElement}

theorem mono (h : Keyed arena elements) (hsub : elements' ⊆ elements) : Keyed arena elements' where
  exists_material := fun e he => h.exists_material e (hsub he)
  material_eq_iff := fun e he e' he' => h.material_eq_iff e (hsub he) e' (hsub he')

/-- In order, the elements of one material stand together. -/
theorem infix_filter (h : Keyed arena elements)
    (hsorted : elements.Pairwise fun a b => a.key ≤ b.key) (id : Slot) :
    elements.filter (·.material arena = some id) <:+: elements := by
  by_cases hid : ∃ e ∈ elements, e.material arena = some id
  · obtain ⟨e, he, hmaterial⟩ := hid
    have hkey : elements.filter (·.material arena = some id) = elements.filter (·.key = e.key) := by
      refine List.filter_congr fun e' he' => decide_eq_decide.mpr ?_
      rw [← hmaterial, h.material_eq_iff e' he' e he]
    rw [hkey]
    exact infix_filter_of_ascending hsorted e.key
  · have hnone : elements.filter (·.material arena = some id) = [] :=
      List.filter_eq_nil_iff.mpr fun e he hmaterial => hid ⟨e, he, of_decide_eq_true hmaterial⟩
    rw [hnone]
    exact List.nil_infix

end Keyed

/-! ### One stroke for each material -/

namespace BinCore

variable {c : BinCore} {arena : FrameArena Submission} {scene : Scene} {hook : Option Variant}
  {kind : BinKind} {material : MaterialRef} {elements rest : List BinElement} {e : BinElement}
  {o : Submission} {id : Slot} {more : List Submission} {d d' : Drawing} {s s' : Session}

theorem materialFor_own (hown : c.override = none) (o : Submission) (hook : Option Variant) :
    c.materialFor o hook = o.material.map (⟨·, hook⟩) := by
  rw [materialFor, hown]
  rfl

theorem materialFor_eq_some_iff (hown : c.override = none) :
    c.materialFor o hook = some ⟨id, hook⟩ ↔ o.material = some id := by
  rw [materialFor_own hown, Option.map_eq_some_iff]
  constructor
  · rintro ⟨id', hid, heq⟩
    cases heq
    exact hid
  · exact fun hid => ⟨id, hid, rfl⟩

/-- The element after those that are drawn together is of another material. -/
theorem material_ne_of_sameMaterial
    (hmore : c.sameMaterial arena hook material elements = .ok more)
    (hdrop : elements.drop more.length = e :: rest) (hfind : arena.find e.handle = some o) :
    c.materialFor o hook ≠ some material := by
  induction elements generalizing more with
  | nil => cases hdrop.symm.trans List.drop_nil
  | cons e' rest' ih =>
      cases hget : arena.get e'.handle with
      | error fault =>
          rw [sameMaterial, hget] at hmore
          cases hmore
      | ok o' =>
          rw [sameMaterial_cons hget] at hmore
          split at hmore
          next =>
            cases hmore' : c.sameMaterial arena hook material rest' with
            | error fault =>
                rw [hmore'] at hmore
                cases hmore
            | ok more' =>
                rw [hmore'] at hmore
                cases hmore
                exact ih hmore' hdrop
          next hother =>
            cases hmore
            cases hdrop
            cases (FrameArena.get_eq_ok_iff.mp hget).symm.trans hfind
            exact hother

/-- In order, no element after those that are drawn together is of their material. -/
theorem material_ne_of_mem_drop (hown : c.override = none) (hkeyed : Keyed arena (e :: rest))
    (hsorted : (e :: rest).Pairwise fun a b => a.key ≤ b.key) (hid : e.material arena = some id)
    (hmore : c.sameMaterial arena hook ⟨id, hook⟩ rest = .ok more) :
    ∀ e' ∈ rest.drop more.length, e'.material arena ≠ some id := by
  intro e' he' hid'
  cases hdrop : rest.drop more.length with
  | nil =>
      rw [hdrop] at he'
      cases he'
  | cons next others =>
      have hrest {x : BinElement} (hx : x ∈ next :: others) : x ∈ rest :=
        List.mem_of_mem_drop (hdrop ▸ hx)
      have hnext := hrest List.mem_cons_self
      rw [hdrop] at he'
      obtain ⟨hhead, htail⟩ := List.pairwise_cons.mp hsorted
      have hlater : next.key ≤ e'.key := by
        rcases List.mem_cons.mp he' with rfl | hothers
        · exact le_rfl
        · have hdropped := htail.sublist (List.drop_sublist more.length rest)
          rw [hdrop] at hdropped
          exact List.rel_of_pairwise_cons hdropped hothers
      -- The key of `next` lies between two equal keys.
      have hequal : e'.key = e.key :=
        (hkeyed.material_eq_iff e' (List.mem_cons_of_mem e (hrest he')) e List.mem_cons_self).mp
          (hid'.trans hid.symm)
      have hkey : next.key = e.key := le_antisymm (hequal ▸ hlater) (hhead next hnext)
      have hsame := (hkeyed.material_eq_iff next (List.mem_cons_of_mem e hnext) e
        List.mem_cons_self).mpr hkey
      obtain ⟨o, _, hfind, -⟩ := hkeyed.exists_material next (List.mem_cons_of_mem e hnext)
      refine material_ne_of_sameMaterial hmore hdrop hfind
        ((materialFor_eq_some_iff hown).mpr ?_)
      rw [← BinElement.material_of_find hfind, hsame, hid]

/-- **One stroke for each material.**  Elements whose first keys tell the materials apart, in
ascending order, are drawn in batches with one stroke for every material. -/
theorem exists_strokes_by_material (hown : c.override = none) (hkeyed : Keyed arena elements)
    (hsorted : elements.Pairwise fun a b => a.key ≤ b.key)
    (hrun : ((c.renderRuns arena scene hook kind true elements).run d).run s =
      .ok (((), d'), s')) :
    ∃ (ids : List Slot) (strokes : List Stroke), ids.Nodup ∧
      (∀ id, id ∈ ids ↔ ∃ e ∈ elements, e.material arena = some id) ∧
      List.Forall₂ (fun id stroke => ∃ members built,
        stroke = .batch kind ⟨id, hook⟩ members built) ids strokes ∧
      Walk scene d s strokes d' s' := by
  induction elements using group_induction generalizing d s with
  | nil =>
      rw [renderRuns] at hrun
      cases hrun
      exact ⟨[], [], .nil, by simp, .nil, .done _ _⟩
  | cons e rest ih =>
      obtain ⟨o, id, hfind, hid⟩ := hkeyed.exists_material e List.mem_cons_self
      have hmaterial : c.materialFor o hook = some ⟨id, hook⟩ :=
        (materialFor_eq_some_iff hown).mpr hid
      rw [renderRuns_cons (FrameArena.get_eq_ok_iff.mpr hfind), hmaterial] at hrun
      obtain ⟨more, _, _, hlift, hdraw⟩ := of_runs_bind hrun
      obtain ⟨rfl, rfl, hmore⟩ := of_runs_lift hlift
      obtain ⟨members, rfl, helements, hmembers, -⟩ := of_companions hmore
      obtain ⟨_, d₁, s₁, hbatch, hrest⟩ := of_runs_bind hdraw
      have he : e.material arena = some id := (BinElement.material_of_find hfind).trans hid
      have hmore : c.sameMaterial arena hook ⟨id, hook⟩ rest = .ok (members.map Member.object) :=
        hmore
      obtain ⟨hhead, htail⟩ := List.pairwise_cons.mp hsorted
      obtain ⟨ids, strokes, hnodup, hids, hstrokes, hwalk⟩ := ih _
        (hkeyed.mono fun x hx => List.mem_cons_of_mem e (List.mem_of_mem_drop hx))
        (htail.sublist (List.drop_sublist ..)) hrest
      obtain ⟨built, hstroke⟩ : ∃ built,
          Walk scene _ _ [.batch kind ⟨id, hook⟩ (⟨e, o⟩ :: members) built] d₁ s₁ :=
        Walk.single hbatch
      have hlater := material_ne_of_mem_drop hown hkeyed hsorted he hmore
      refine ⟨id :: ids, _ :: strokes, List.nodup_cons.mpr ⟨fun hmem => ?_, hnodup⟩, fun id' => ?_,
        .cons ⟨_, built, rfl⟩ hstrokes, hstroke.append hwalk⟩
      · obtain ⟨e', he', hid'⟩ := (hids id).mp hmem
        exact hlater e' he' hid'
      · rw [List.mem_cons, hids, List.exists_mem_cons_iff, he]
        constructor
        · rintro (rfl | ⟨e', he', hid'⟩)
          · exact .inl rfl
          · exact .inr ⟨e', List.mem_of_mem_drop he', hid'⟩
        · rintro (hid' | ⟨e', he', hid'⟩)
          · exact .inl (Option.some.inj hid').symm
          · rw [← List.take_append_drop (members.map Member.object).length rest,
              List.mem_append, ← helements] at he'
            rcases he' with htaken | hdropped
            · obtain ⟨m, hm, rfl⟩ := List.mem_map.mp htaken
              obtain ⟨hfind', hmaterial'⟩ := hmembers m hm
              have hid := (materialFor_eq_some_iff hown).mp hmaterial'
              rw [BinElement.material_of_find hfind', hid] at hid'
              exact .inl (Option.some.inj hid').symm
            · exact .inr ⟨e', hdropped, hid'⟩

end BinCore

/-! ### Setting up once -/

/-- The number of passes of what the library gives for a reference, if it gives anything. -/
def Library.passCount (l : Library) (r : MaterialRef) : Nat :=
  match (l.renderable r).run {} with
  | .ok ((found, _), _) => (passesOf (found.bind (·.2.built))).length
  | .error _ => 0

theorem Library.Gives.passCount_eq {l : Library} {r : MaterialRef} {built : Option BuiltMaterial}
    (h : l.Gives r built) : l.passCount r = (passesOf built).length := by
  obtain ⟨found, rfl, hrun⟩ := h
  rw [passCount, hrun]

/-- The passes of strokes with one material each are those of the materials. -/
theorem map_rounds_of_strokes {kind : BinKind} {hook : Option Variant} {l : Library}
    {ids : List Slot} {strokes : List Stroke}
    (h : List.Forall₂ (fun id stroke => ∃ members built,
      stroke = .batch kind ⟨id, hook⟩ members built) ids strokes)
    (hasked : ∀ kind material members built, .batch kind material members built ∈ strokes →
      l.Gives material built) :
    strokes.map Stroke.rounds = ids.map (l.passCount ⟨·, hook⟩) ∧
      ∀ id ∈ ids, ∃ built, l.Gives ⟨id, hook⟩ built := by
  induction h with
  | nil => exact ⟨rfl, fun _ h => absurd h List.not_mem_nil⟩
  | cons hstroke _ ih =>
      obtain ⟨members, built, rfl⟩ := hstroke
      have hgives := hasked _ _ members built List.mem_cons_self
      obtain ⟨hrounds, hall⟩ := ih fun kind material members built hmem =>
        hasked kind material members built (List.mem_cons_of_mem _ hmem)
      refine ⟨?_, List.forall_mem_cons.mpr ⟨⟨built, hgives⟩, hall⟩⟩
      rw [List.map_cons, List.map_cons, hrounds, hgives.passCount_eq]
      rfl

namespace Bin

variable {b b' : Bin} {arena : FrameArena Submission} {scene : Scene} {d d' : Drawing}
  {s s' s₀ : Session} {others : Multiset Object}

/-- The hook that opaque geometry is drawn with. -/
def opaqueHook (pass : ScenePass) : Option Variant :=
  if pass = .shadow then some .shadow else none

/-- A bin for meshes or for terrain, that draws every element with its own material. -/
structure Gathers (b : Bin) : Prop where
  rules : b.rules = mesh.rules ∨ b.rules = terrain.rules
  own : b.core.override = none
  target : b.target = none

theorem Gathers.render_eq (h : b.Gathers) (arena : FrameArena Submission) (scene : Scene) :
    b.render arena scene = (do
      b.core.renderRuns arena scene (opaqueHook scene.pass) .regular true b.core.elements
      return b) := by
  have hdraws : b.rules.draws scene.pass = some ⟨.batches, opaqueHook scene.pass, .regular⟩ := by
    rcases h.rules with hrules | hrules <;> (rw [hrules]; rfl)
  rw [render, hdraws, h.target]
  rfl

theorem Gathers.core_sort (h : b.Gathers) : b.sort.core = b.core.sortByKeys := by
  have hsorting : b.rules.sorting = .keys := by
    rcases h.rules with hrules | hrules <;> (rw [hrules]; rfl)
  rw [sort, hsorting]
  rfl

theorem Gathers.sort (h : b.Gathers) : b.sort.Gathers where
  rules := h.rules
  own := by rw [h.core_sort]; exact h.own
  target := h.target

theorem gathers_mesh : mesh.Gathers :=
  ⟨.inl rfl, rfl, rfl⟩

theorem gathers_terrain : terrain.Gathers :=
  ⟨.inr rfl, rfl, rfl⟩

theorem Gathers.offer (h : b.Gathers) (handle : FrameHandle) (o : Submission) :
    (b.offer handle o).2.Gathers := by
  simp only [Bin.offer]
  split <;> exact ⟨h.rules, h.own, h.target⟩

/-- Sorting is by both keys. -/
theorem Gathers.sortedBy_sort (h : b.Gathers) :
    SortedBy BinElement.keys b.core.elements b.sort.core.elements := by
  rw [h.core_sort]
  exact sortedBy_mergeSort BinElement.keysLe_iff b.core.elements

/-- The materials of the objects that a bin claimed. -/
def materials (b : Bin) (arena : FrameArena Submission) : Finset Slot :=
  (b.core.elements.filterMap (·.material arena)).toFinset

theorem mem_materials {id : Slot} :
    id ∈ b.materials arena ↔ ∃ e ∈ b.core.elements, e.material arena = some id := by
  rw [materials, List.mem_toFinset, List.mem_filterMap]

/-- The bin sorts what it claimed and draws it, and the passes of each of the materials are set up
once: those of what the library gives for it. -/
structure SetsUp (b : Bin) (arena : FrameArena Submission) (scene : Scene) (d : Drawing)
    (s : Session) (calls : List Call) (d' : Drawing) (s' : Session) : Prop where
  run : ((b.sort.render arena scene).run d).run s = .ok ((b.sort, d'), s')
  calls_eq : s'.device.calls.toList = s.device.calls.toList ++ calls
  gives : ∀ id ∈ b.materials arena, ∃ built, d'.library.Gives ⟨id, opaqueHook scene.pass⟩ built
  programs : (programsOf calls).length =
    ∑ id ∈ b.materials arena, d'.library.passCount ⟨id, opaqueHook scene.pass⟩
  setups : d'.stats.setups = d.stats.setups +
    ∑ id ∈ b.materials arena, d'.library.passCount ⟨id, opaqueHook scene.pass⟩

theorem Gathers.setsUp (h : b.Gathers) (hkeyed : Keyed arena b.core.elements)
    (howns : s₀.device.Owns others) (hreached : Library.Reached s₀ d.library s)
    (hidle : d.library.Idle)
    (hrun : ((b.sort.render arena scene).run d).run s = .ok ((b', d'), s')) :
    ∃ calls, b.SetsUp arena scene d s calls d' s' := by
  have hsorted := h.sortedBy_sort
  have hruns := hrun
  rw [h.sort.render_eq] at hruns
  obtain ⟨_, _, _, hruns, hend⟩ := of_runs_bind hruns
  cases hend
  obtain ⟨ids, strokes, hnodup, hids, hstrokes, hwalk⟩ :=
    BinCore.exists_strokes_by_material h.sort.own (hkeyed.mono hsorted.perm.subset)
      (hsorted.ascending.imp BinElement.key_le_of_keys_le) hruns
  obtain ⟨-, htallied⟩ := hwalk.tallied howns hreached hidle
  obtain ⟨calls, hcalls, -, hprograms⟩ := htallied.calls
  obtain ⟨hrounds, hgives⟩ := map_rounds_of_strokes hstrokes htallied.asked
  have hmaterials : b.materials arena = ids.toFinset := by
    ext id
    rw [mem_materials, List.mem_toFinset, hids]
    simp only [hsorted.perm.mem_iff]
  have htotal : (strokes.map Stroke.rounds).sum =
      ∑ id ∈ b.materials arena, d'.library.passCount ⟨id, opaqueHook scene.pass⟩ := by
    rw [hrounds, hmaterials, List.sum_toFinset _ hnodup]
  refine ⟨calls, hrun, hcalls, fun id hid => ?_, hprograms.trans htotal, ?_⟩
  · rw [hmaterials, List.mem_toFinset] at hid
    exact hgives id hid
  · rw [htallied.stats, htotal]

end Bin

/-! ### Geometry -/

namespace Submission

variable {o : Submission} {id : Slot}

/-- The object was made as geometry of the material `id`, and sorts as it was made. -/
def Made (o : Submission) (id : Slot) : Prop :=
  ∃ kind vertices indices range made, geometry kind id vertices indices range = .ok made ∧
    o.material = made.material ∧ o.sortKey = made.sortKey ∧ o.secondaryKey = made.secondaryKey

/-- What was made sorts by the position of its material. -/
theorem Made.sortKey_eq (h : o.Made id) :
    o.material = some id ∧ ∃ position, id.position = .ok position ∧ o.sortKey = position.toNat := by
  obtain ⟨kind, vertices, indices, range, made, hmade, hmaterial, hkey, -⟩ := h
  unfold geometry at hmade
  cases hposition : id.position with
  | error fault =>
      rw [hposition] at hmade
      cases hmade
  | ok position =>
      rw [hposition] at hmade
      cases hmade
      exact ⟨hmaterial, position, rfl, hkey⟩

theorem stamp_of_none {l : Library} (hid : o.material = none) : o.stamp l = .ok o := by
  unfold Submission.stamp
  rw [hid]
  rfl

theorem stamp_of_some {l : Library} (hid : o.material = some id) :
    o.stamp l = (l.flags id).map ({ o with flags := · }) := by
  unfold Submission.stamp
  simp only [hid]
  cases l.flags id <;> rfl

/-- Handing in changes the summary of the material only. -/
theorem flags_of_stamp {stamped : Submission} {l : Library} (hstamp : o.stamp l = .ok stamped) :
    ∃ flags, stamped = { o with flags := flags } := by
  rcases Option.eq_none_or_eq_some o.material with hid | ⟨id, hid⟩
  · obtain rfl := Except.ok.inj ((stamp_of_none hid).symm.trans hstamp)
    exact ⟨o.flags, rfl⟩
  · have hflags := (stamp_of_some hid).symm.trans hstamp
    cases hsummary : l.flags id with
    | error fault =>
        rw [hsummary] at hflags
        cases hflags
    | ok flags =>
        rw [hsummary] at hflags
        cases hflags
        exact ⟨flags, rfl⟩

end Submission

/-! ### Between frames -/

namespace Form

/-- A step through the passes moves on, and manages no objects. -/
theorem setupPass_spec (f : Form) (limits : Limits) (scene : Scene) (kind : BinKind) :
    (∃ current, (f.setupPass limits scene { bin := kind }).2.2 = { f with current := current }) ∧
      ∀ c ∈ callsOf (f.setupPass limits scene { bin := kind }).2.1, c.isManaging = false := by
  have hleave : ∀ c ∈ callsOf f.leavePass, c.isManaging = false := by
    intro c hc
    rcases f.leavePass_cases with hnil | ⟨p, hcleanup⟩
    · rw [hnil] at hc
      cases hc
    · exact Call.isManaging_of_isQuiet (isQuiet_cleanup (hcleanup ▸ hc))
  unfold setupPass
  split
  next => exact ⟨⟨none, rfl⟩, fun c hc => absurd hc List.not_mem_nil⟩
  next b _ =>
    split
    next p _ =>
      refine ⟨⟨_, rfl⟩, fun c hc => ?_⟩
      rw [callsOf_append, List.mem_append] at hc
      rcases hc with hc | hc
      · exact hleave c hc
      · have hbound : c ∈ setupCalls b limits scene kind p ++ bindCalls b scene kind p default :=
          List.mem_append_left _ hc
        rcases mem_boundCalls hbound with
          rfl | rfl | ⟨_, _, rfl⟩ | ⟨_, _, rfl⟩ | ⟨_, _, rfl⟩ | rfl <;> rfl
    next => exact ⟨⟨none, rfl⟩, hleave⟩

end Form

/-- Stepping through the passes of a form by hand is a part of the life of the library. -/
theorem Library.Reached.setupPass {l l' : Library} {s₀ s : Session} {place : FormPlace} {f : Form}
    (h : Library.Reached s₀ l s) (limits : Limits) (scene : Scene) (kind : BinKind)
    (hf : l.At place f)
    (hset : l.setForm place (f.setupPass limits scene { bin := kind }).2.2 = .ok l') :
    Library.Reached s₀ l' (s.applyAll (f.setupPass limits scene { bin := kind }).2.1) := by
  obtain ⟨⟨current, hcurrent⟩, hmanages⟩ := f.setupPass_spec limits scene kind
  rw [hcurrent] at hset
  exact (h.proceed hf hset).adjusts (s.adjusts_applyAll _ hmanages)

theorem Library.context_create {l l' : Library} {m : Material} {format : VertexFormat} {id : Slot}
    {s s' : Session} (hrun : (l.create m format).run s = .ok ((id, l'), s')) :
    l'.context = l.context := by
  obtain ⟨_, _, -, hrun⟩ := of_run_bind hrun
  cases hrun
  rfl

theorem Library.exists_instance {l : Library} {id : Slot}
    (h : (l.instance? id).toOption.any Option.isSome = true) :
    ∃ i, l.instance? id = .ok (some i) := by
  obtain ⟨found, hfound, hsome⟩ := exists_of_any_toOption h
  obtain ⟨i, rfl⟩ := Option.isSome_iff_exists.mp hsome
  exact ⟨i, hfound⟩

/-! ### Frames -/

namespace Pipeline

variable {p : Pipeline} {b : Bin} {frame : Nat} {issued : List Issue} {l : Library} {d : Drawing}
  {s s₀ : Session} {others : Multiset Object}

/-- What a bin claimed of the objects that were handed in is geometry that sorts as it was made, of
materials that the library has. -/
def ClaimsGeometry (handed : List Issue) (l : Library) (b : Bin) : Prop :=
  ∀ issue ∈ handed, issue.element ∈ b.core.elements →
    ∃ id i, issue.object.Made id ∧ l.instance? id = .ok (some i)

/-- Handing in geometry. -/
theorem Lived.submit_geometry {p' : Pipeline} {o : Submission} {kind : SubmissionKind} {id : Slot}
    {vertices : BufferHandle} {indices : Option BufferHandle} {range : PrimitiveRange}
    {names : List String} {s' : Session} (h : Lived frame issued p)
    (hbins : ∀ b ∈ p.bins, b.Gathers)
    (hmade : Submission.geometry kind id vertices indices range = .ok o)
    (hrun : (p.submit l o).run s = .ok ((names, p'), s')) :
    ∃ issue : Issue, issue.object.Made id ∧ Lived frame (issued ++ [issue]) p' ∧
      ∀ b ∈ p'.bins, b.Gathers := by
  obtain ⟨stamped, hstamp, _, _, _, hrouted⟩ := routed_of_submit h.reachable.inOrder.listed hrun
  have hlived := h.submit hstamp hrun
  obtain ⟨flags, rfl⟩ := Submission.flags_of_stamp hstamp
  refine ⟨_, ⟨kind, vertices, indices, range, o, hmade, rfl, rfl, rfl⟩, hlived, fun b hb => ?_⟩
  rcases hrouted.of_mem_bins hb with hb | ⟨b₀, hb₀, rfl⟩
  · exact hbins b hb
  · exact (hbins b₀ hb₀).offer _ _

/-- What is behind an element that a bin holds. -/
theorem Lived.exists_claimed (h : Lived frame issued p) (hb : b ∈ p.bins)
    (hclaims : ClaimsGeometry (issuedIn frame issued) l b) {e : BinElement}
    (he : e ∈ b.core.elements) :
    ∃ o id i position, p.arena.find e.handle = some o ∧ o.material = some id ∧
      l.instance? id = .ok (some i) ∧ id.position = .ok position ∧ e.key = position.toNat := by
  obtain ⟨claimed, hclaimed, rfl⟩ := List.mem_map.mp ((h.keeps.held b hb).subset he)
  obtain ⟨issue, hissue, hsame, hoffered⟩ := h.keeps.exists_original hclaimed
  have hfind := h.keeps.reads issue hissue
  rw [hoffered] at hfind
  rw [← hsame] at he ⊢
  obtain ⟨id, i, hmade, hi⟩ := hclaims issue hissue he
  obtain ⟨hmaterial, position, hposition, hkey⟩ := hmade.sortKey_eq
  refine ⟨_, id, i, position, hfind, hmaterial, hi, hposition, ?_⟩
  rw [← hkey, ← hoffered]
  rfl

/-- Materials that a library has are told apart by their positions, and so by the keys of the objects
that are made of them. -/
theorem Lived.keyed (h : Lived frame issued p) (hb : b ∈ p.bins)
    (hclaims : ClaimsGeometry (issuedIn frame issued) l b) : Keyed p.arena b.core.elements := by
  refine ⟨fun e he => ?_, fun e he e' he' => ?_⟩
  · obtain ⟨o, id, _, _, hfind, hmaterial, -⟩ := h.exists_claimed hb hclaims he
    exact ⟨o, id, hfind, hmaterial⟩
  · obtain ⟨o, id, i, position, hfind, hmaterial, hi, hposition, hkey⟩ :=
      h.exists_claimed hb hclaims he
    obtain ⟨o', id', i', position', hfind', hmaterial', hi', hposition', hkey'⟩ :=
      h.exists_claimed hb hclaims he'
    rw [BinElement.material_of_find hfind, BinElement.material_of_find hfind', hmaterial,
      hmaterial', hkey, hkey', UInt32.toNat_inj, Option.some.injEq]
    constructor
    · rintro rfl
      exact Except.ok.inj (hposition.symm.trans hposition')
    · rintro rfl
      exact SlotSet.eq_of_find hi hi' hposition hposition'

/-- When every bin draws in turn, so does a bin that gathers. -/
theorem setsUp_of_drawAll {arena : FrameArena Submission} {scene : Scene} {bins drawn : List Bin}
    {d' : Drawing} {s' : Session} (hbin : b.Gathers) (hkeyed : Keyed arena b.core.elements)
    (howns : s₀.device.Owns others) (hb : b ∈ bins) (hreached : Library.Reached s₀ d.library s)
    (hidle : d.library.Idle)
    (hrun : ((drawAll arena scene bins).run d).run s = .ok ((drawn, d'), s')) :
    ∃ d₁ s₁ before calls after d₂ s₂, b.SetsUp arena scene d₁ s₁ calls d₂ s₂ ∧
      s'.device.calls.toList = s.device.calls.toList ++ (before ++ calls ++ after) := by
  induction bins generalizing d s drawn with
  | nil => cases hb
  | cons first rest ih =>
      rw [drawAll, List.mapM_cons] at hrun
      obtain ⟨b', d₁, s₁, hfirst, hrun⟩ := of_runs_bind hrun
      obtain ⟨drawn', d₂, s₂, hrest, hrun⟩ := of_runs_bind hrun
      cases hrun
      obtain ⟨_, hwalk, -⟩ := Bin.walk_render hfirst
      have hreached₁ := hwalk.reached hreached
      obtain ⟨hidle₁, htallied⟩ := hwalk.tallied howns hreached hidle
      rcases List.mem_cons.mp hb with rfl | hb
      · obtain ⟨_, -, -, -, hwalk'⟩ := walk_drawAll hrest
        obtain ⟨-, htallied'⟩ := hwalk'.tallied howns hreached₁ hidle₁
        obtain ⟨after, hafter, -⟩ := htallied'.calls
        obtain ⟨calls, hsetsUp⟩ := hbin.setsUp hkeyed howns hreached hidle hfirst
        refine ⟨d, s, [], calls, after, d₁, s₁, hsetsUp, ?_⟩
        rw [hafter, hsetsUp.calls_eq, List.nil_append, List.append_assoc]
      · obtain ⟨calls₁, hcalls₁, -⟩ := htallied.calls
        obtain ⟨d₃, s₃, before, calls, after, d₄, s₄, hsetsUp, hcalls⟩ :=
          ih hb hreached₁ hidle₁ hrest
        refine ⟨d₃, s₃, calls₁ ++ before, calls, after, d₄, s₄, hsetsUp, ?_⟩
        rw [hcalls, hcalls₁]
        simp only [List.append_assoc]

/-- **Material by material.**  A bin for meshes or terrain puts what it claimed in the order of both
keys, and where these are equal, in the order in which it was handed in.  Then the elements of one
material stand together, as long as the library has the materials.  If no pass is set up when the bin
begins to draw, it sets up the passes of each of them once, or stops for a form that costs too much;
and if none is when a frame begins, so it does in that frame. -/
theorem Lived.gathers (h : Lived frame issued p) (hb : b ∈ p.bins) (hbin : b.Gathers)
    (hclaims : ClaimsGeometry (issuedIn frame issued) l b) :
    SortedBy BinElement.keys b.core.elements b.sort.core.elements ∧
      (∀ id, b.sort.core.elements.filter (·.material p.arena = some id) <:+:
        b.sort.core.elements) ∧
      ∀ scene s s₀ others, s₀.device.Owns others → Library.Reached s₀ l s → l.Idle →
        (∀ stats, (∃ calls d' s', b.SetsUp p.arena scene ⟨l, stats⟩ s calls d' s') ∨
          ¬ l.Affords ∧
            ((b.sort.render p.arena scene).run ⟨l, stats⟩).run s = .error .addOverflow) ∧
        ∀ stats l' p' s', (p.render l scene).run s = .ok ((stats, l', p'), s') →
          ∃ d₁ s₁ before calls after d₂ s₂, b.SetsUp p.arena scene d₁ s₁ calls d₂ s₂ ∧
            s'.device.calls.toList = s.device.calls.toList ++ (before ++ calls ++ after) := by
  have hkeyed := h.keyed hb hclaims
  have hsorted := hbin.sortedBy_sort
  have hascending := hsorted.ascending.imp BinElement.key_le_of_keys_le
  refine ⟨hsorted, (hkeyed.mono hsorted.perm.subset).infix_filter hascending, ?_⟩
  intro scene s s₀ others howns hreached hidle
  refine ⟨fun stats => ?_, fun stats l' p' s' hrun => ?_⟩
  · have hlocates (hook : Option Variant) :
        b.sort.core.Locates p.arena hook b.sort.core.elements := by
      intro e he
      obtain ⟨o, id, i, position, hfind, hmaterial, -, hposition, -⟩ :=
        h.exists_claimed hb hclaims (hsorted.perm.mem_iff.mp he)
      refine ⟨o, hfind, fun material hdrawn => ⟨position, ?_⟩⟩
      rw [BinCore.materialFor_own hbin.sort.own, hmaterial] at hdrawn
      cases hdrawn
      exact hposition
    rcases Bin.ends_render hlocates ⟨l, stats⟩ s with ⟨b', d', s', hrun, -⟩ | hstops
    · obtain ⟨calls, hsetsUp⟩ := hbin.setsUp hkeyed howns hreached hidle hrun
      exact .inl ⟨calls, d', s', hsetsUp⟩
    · exact .inr hstops
  · have hlisted := h.reachable.inOrder.listed
    obtain ⟨drawn, hdraw, -⟩ := hlisted.drawn_of_render hrun
    exact setsUp_of_drawAll hbin hkeyed howns (hlisted.perm_drawingOrder.mem_iff.mpr hb) hreached
      hidle hdraw

/-- Meshes of two materials, handed in in turn. -/
theorem gathers_three_meshes : ∃ (issued : List Issue) (p : Pipeline) (b : Bin) (l : Library)
    (s : Session), Lived 0 issued p ∧ b ∈ p.bins ∧
      b.Gathers ∧ ClaimsGeometry (issuedIn 0 issued) l b ∧ ({} : Device).Owns 0 ∧
      Library.Reached {} l s ∧ l.Idle ∧ b.core.elements.length = 3 ∧
      (b.materials p.arena).card = 2 ∧
      SortedBy BinElement.keys b.core.elements b.sort.core.elements ∧
      ∃ calls d' s', b.SetsUp p.arena {} ⟨l, {}⟩ s calls d' s' := by
  have hcheck : (StateT.run (do
      let l₀ ← Library.new .builtin {}
      let rock ← l₀.create { name := "rock", stages := [.diffuse "a.png"] } .positionNormalUv
      let sand ← rock.2.create { name := "sand", stages := [{}] } .positionNormalUv
      let o₁ ← Submission.mesh sand.1 ⟨0⟩ none (.triangles 0 3)
      let o₂ ← Submission.mesh rock.1 ⟨0⟩ none (.triangles 0 3)
      let first ← (reorder { bins := [.mesh] }).submit sand.2 o₁
      let second ← first.2.submit sand.2 o₂
      let third ← second.2.submit sand.2 o₁
      return [rock.1, sand.1].all (fun id => (sand.2.instance? id).toOption.any Option.isSome) &&
        third.2.bins.any fun b =>
          b.core.elements.length == 3 && (b.materials third.2.arena).card == 2 : Action Bool)
        {}).toOption.any (·.1) = true := by
    decide +kernel
  obtain ⟨⟨_, _⟩, hrun, hgood⟩ := exists_of_any_toOption hcheck
  obtain ⟨l₀, s₀, hnew, hrun⟩ := of_run_bind hrun
  obtain ⟨⟨rock, l₁⟩, s₁, hrock, hrun⟩ := of_run_bind hrun
  obtain ⟨⟨sand, l⟩, s, hsand, hrun⟩ := of_run_bind hrun
  obtain ⟨o₁, _, hlift₁, hrun⟩ := of_run_bind hrun
  obtain ⟨-, hmade₁⟩ := of_run_lift hlift₁
  obtain ⟨o₂, _, hlift₂, hrun⟩ := of_run_bind hrun
  obtain ⟨-, hmade₂⟩ := of_run_lift hlift₂
  obtain ⟨⟨_, p₁⟩, _, hfirst, hrun⟩ := of_run_bind hrun
  obtain ⟨⟨_, p₂⟩, _, hsecond, hrun⟩ := of_run_bind hrun
  obtain ⟨⟨_, p⟩, _, hthird, hrun⟩ := of_run_bind hrun
  obtain ⟨rfl, -⟩ := Prod.mk.inj (Except.ok.inj hrun)
  simp only [Bool.and_eq_true, List.all_cons, List.all_nil, List.any_eq_true, beq_iff_eq] at hgood
  obtain ⟨⟨hrockLive, hsandLive, -⟩, b, hb, hlength, hcard⟩ := hgood
  have hinstalled : Lived 0 [] (reorder { bins := [.mesh] }) :=
    .add (s := default) (b := .mesh) .empty rfl rfl
  obtain ⟨i₁, hi₁, hp₁, hbins⟩ :=
    hinstalled.submit_geometry (List.forall_mem_singleton.mpr Bin.gathers_mesh) hmade₁ hfirst
  obtain ⟨i₂, hi₂, hp₂, hbins⟩ := hp₁.submit_geometry hbins hmade₂ hsecond
  obtain ⟨i₃, hi₃, hp, hbins⟩ := hp₂.submit_geometry hbins hmade₁ hthird
  have hclaims : ClaimsGeometry (issuedIn 0 [i₁, i₂, i₃]) l b := by
    intro issue hissue _
    have hissue : issue ∈ [i₁, i₂, i₃] := List.mem_of_mem_filter hissue
    simp only [List.mem_cons, List.not_mem_nil, or_false] at hissue
    obtain ⟨rockInstance, hrockInstance⟩ := Library.exists_instance hrockLive
    obtain ⟨sandInstance, hsandInstance⟩ := Library.exists_instance hsandLive
    rcases hissue with rfl | rfl | rfl
    · exact ⟨sand, sandInstance, hi₁, hsandInstance⟩
    · exact ⟨rock, rockInstance, hi₂, hrockInstance⟩
    · exact ⟨sand, sandInstance, hi₃, hsandInstance⟩
  have hreached₁ : Library.Reached {} l₁ s₁ := .create (.new hnew) hrock
  have hidle₁ : l₁.Idle := (Library.idle_new hnew).create (Library.Reached.new hnew).valid hrock
  have hreached : Library.Reached {} l s := hreached₁.create hsand
  have hidle : l.Idle := hidle₁.create hreached₁.valid hsand
  have hregistry : l.context.registry = .builtin := by
    rw [Library.context_create hsand, Library.context_create hrock, (Library.of_run_new hnew).1]
  obtain ⟨hsorted, -, hdraws⟩ := Lived.gathers hp hb (hbins b hb) hclaims
  refine ⟨_, p, b, l, s, hp, hb, hbins b hb, hclaims, Device.owns_default, hreached, hidle,
    hlength, hcard, hsorted, ?_⟩
  rcases (hdraws {} s {} 0 Device.owns_default hreached hidle).1 {} with hsetsUp | ⟨hcosts, -⟩
  · exact hsetsUp
  · exact absurd (Library.affords_builtin hregistry) hcosts

/-- A rock whose only pass was set up before the frame: drawing goes on after that pass, so it sets
no pass up. -/
theorem not_setsUp_of_sequence : ∃ (issued : List Issue) (p : Pipeline) (b : Bin) (l : Library)
    (s : Session), Lived 0 issued p ∧ b ∈ p.bins ∧
      b.Gathers ∧ ClaimsGeometry (issuedIn 0 issued) l b ∧ ({} : Device).Owns 0 ∧
      Library.Reached {} l s ∧ (((b.sort.render p.arena {}).run ⟨l, {}⟩).run s).isOk ∧
      ¬ ∃ calls d' s', b.SetsUp p.arena {} ⟨l, {}⟩ s calls d' s' := by
  have hcheck : (StateT.run (do
      let l₀ ← Library.new .builtin {}
      let rock ← l₀.create { name := "rock", stages := [.diffuse "a.png"] } .positionNormalUv
      let asked ← rock.2.renderable ⟨rock.1, none⟩
      let l ← asked.1.elim (pure asked.2) fun found => do
        perform (found.2.setupPass {} {} { bin := .regular }).2.1
        asked.2.setForm found.1 (found.2.setupPass {} {} { bin := .regular }).2.2
      let s ← get
      let o ← Submission.mesh rock.1 ⟨0⟩ none (.triangles 0 3)
      let mesh ← (reorder { bins := [.mesh] }).submit l o
      return (l.instance? rock.1).toOption.any Option.isSome && mesh.2.bins.any fun b =>
        (((b.sort.render mesh.2.arena {}).run ⟨l, {}⟩).run s).toOption.any fun r =>
          r.1.2.stats.setups == 0 &&
            ∑ id ∈ b.materials mesh.2.arena, r.1.2.library.passCount ⟨id, none⟩ == 1 : Action Bool)
        {}).toOption.any (·.1) = true := by
    decide +kernel
  obtain ⟨⟨_, _⟩, hrun, hgood⟩ := exists_of_any_toOption hcheck
  obtain ⟨l₀, s₀, hnew, hrun⟩ := of_run_bind hrun
  obtain ⟨⟨rock, l₁⟩, s₁, hrock, hrun⟩ := of_run_bind hrun
  obtain ⟨⟨found, l₂⟩, s₂, hasked, hrun⟩ := of_run_bind hrun
  obtain ⟨l, s, hstep, hrun⟩ := of_run_bind hrun
  obtain ⟨_, _, hget, hrun⟩ := of_run_bind hrun
  obtain ⟨rfl, rfl⟩ := Prod.mk.inj (Except.ok.inj hget)
  obtain ⟨o, _, hlift, hrun⟩ := of_run_bind hrun
  obtain ⟨-, hmade⟩ := of_run_lift hlift
  obtain ⟨⟨_, p⟩, _, hmesh, hrun⟩ := of_run_bind hrun
  obtain ⟨rfl, -⟩ := Prod.mk.inj (Except.ok.inj hrun)
  simp only [Bool.and_eq_true, List.any_eq_true] at hgood
  obtain ⟨hlive, b, hb, hdrawn⟩ := hgood
  obtain ⟨⟨⟨b', d'⟩, s'⟩, hdraw, hdrawn⟩ := exists_of_any_toOption hdrawn
  simp only [Bool.and_eq_true, beq_iff_eq] at hdrawn
  obtain ⟨hsetups, hpasses⟩ := hdrawn
  have hreached₂ : Library.Reached {} l₂ s₂ := .renderable (.create (.new hnew) hrock) hasked
  have hreached : Library.Reached {} l s := by
    cases found with
    | none =>
        cases hstep
        exact hreached₂
    | some found =>
        obtain ⟨_, _, hperform, hlift⟩ := of_run_bind hstep
        cases hperform
        obtain ⟨rfl, hset⟩ := of_run_lift hlift
        exact hreached₂.setupPass {} {} .regular (Library.at_of_renderable hasked).1 hset
  have hinstalled : Lived 0 [] (reorder { bins := [.mesh] }) :=
    .add (s := default) (b := .mesh) .empty rfl rfl
  obtain ⟨issue, hissue, hp, hbins⟩ :=
    hinstalled.submit_geometry (List.forall_mem_singleton.mpr Bin.gathers_mesh) hmade hmesh
  have hclaims : ClaimsGeometry (issuedIn 0 [issue]) l b := by
    intro i hi _
    obtain rfl : i = issue := List.mem_singleton.mp (List.mem_of_mem_filter hi)
    obtain ⟨rockInstance, hrockInstance⟩ := Library.exists_instance hlive
    exact ⟨rock, rockInstance, hissue, hrockInstance⟩
  refine ⟨_, p, b, l, s, hp, hb, hbins b hb, hclaims, Device.owns_default, hreached,
    by rw [hdraw]; rfl, ?_⟩
  rintro ⟨calls, d'', s'', hsetsUp⟩
  cases hdraw.symm.trans hsetsUp.run
  have htotal := hsetsUp.setups
  rw [hsetups, Nat.zero_add, show Bin.opaqueHook ({} : Scene).pass = none from rfl,
    hpasses] at htotal
  cases htotal

/-- The condition is needed: passes that were set up before the frame are not set up again. -/
theorem not_gathers_always :
    ¬ ∀ (issued : List Issue) (p : Pipeline) (b : Bin) (l : Library) (s : Session),
      Lived 0 issued p → b ∈ p.bins → b.Gathers → ClaimsGeometry (issuedIn 0 issued) l b →
      ({} : Device).Owns 0 → Library.Reached {} l s →
      (((b.sort.render p.arena {}).run ⟨l, {}⟩).run s).isOk →
      ∃ calls d' s', b.SetsUp p.arena {} ⟨l, {}⟩ s calls d' s' := by
  intro h
  obtain ⟨issued, p, b, l, s, hp, hb, hbin, hclaims, howns, hreached, hrun, hnot⟩ :=
    not_setsUp_of_sequence
  exact hnot (h issued p b l s hp hb hbin hclaims howns hreached hrun)

end Pipeline

end MaterialPipeline
