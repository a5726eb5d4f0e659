import MaterialPipeline.Proofs.Material.Steps
import MaterialPipeline.Proofs.Material.Total

/-!
# Proofs — Material — Hooks

What hangs on the instances of a library.  A table of hooks is a list that is put in order whenever it
grows; it never has two values for a variant, so it is known by what is in it, and a place for each
variant stands for it.

* `HookTable.Ascending`: the variants of a table ascend; `HookTable.ascending_run` says that they do
after any changes.
* `HookTable.get_insert`, `HookTable.get_remove`: what a change does to any variant.
* `Hooks.Tabled`: the list of the places is a table that changes lead to, and what a table answers and
becomes is what the places do.
* `Library.Hooked`: what hangs on an instance is of its material, and is marked, and nothing hangs on
that.
* `Library.InUse.instances_hooked`: so it is in every library in use, and which hooks there are after
a material was taken into use, and after another configuration came into force.
-/

namespace MaterialPipeline

open MaterialPipeline.Action

theorem Variant.rank_injective {v w : Variant} (h : v.rank = w.rank) : v = w := by
  cases v <;> cases w <;> first | rfl | cases h

/-! ### Tables -/

namespace HookTable

variable {α : Type} {t t' : HookTable α} {v w : Variant} {a b : α} {l : List (Variant × α)}

/-- The variants ascend strictly. -/
def Ascending (t : HookTable α) : Prop :=
  t.variants.Pairwise fun v w => v.rank < w.rank

theorem Ascending.nodup (h : t.Ascending) : t.variants.Nodup :=
  h.imp fun hlt e => hlt.ne (congrArg _ e)

theorem Ascending.pairwise (h : t.Ascending) :
    t.entries.Pairwise fun x y => x.1.rank < y.1.rank := by
  rwa [Ascending, variants, List.pairwise_map] at h

theorem find?_eq_none_iff : (l.find? (·.1 = v)) = none ↔ v ∉ l.map (·.1) := by
  simp only [List.find?_eq_none, decide_eq_true_eq, List.mem_map, not_exists, not_and]

/-- In a list with one value for a variant, that is the value found. -/
theorem find?_eq_some_iff (h : (l.map (·.1)).Nodup) :
    l.find? (·.1 = v) = some (v, a) ↔ (v, a) ∈ l := by
  refine ⟨List.mem_of_find?_eq_some, fun hmem => ?_⟩
  cases hfind : l.find? (·.1 = v) with
  | none => exact absurd (List.mem_map_of_mem hmem) (find?_eq_none_iff.mp hfind)
  | some entry =>
      have hv : entry.1 = v := by simpa using List.find?_some hfind
      rw [List.inj_on_of_nodup_map h (List.mem_of_find?_eq_some hfind) hmem hv]

theorem get_eq_some_iff (h : t.Ascending) : t.get v = some a ↔ (v, a) ∈ t.entries := by
  rw [← find?_eq_some_iff h.nodup, get, Option.map_eq_some_iff]
  constructor
  · rintro ⟨⟨w, a⟩, hfind, rfl⟩
    have hw : w = v := by simpa using List.find?_some hfind
    rw [hfind, hw]
  · exact fun hfind => ⟨_, hfind, rfl⟩

theorem get_eq_none_iff : t.get v = none ↔ v ∉ t.variants := by
  rw [get, Option.map_eq_none_iff, find?_eq_none_iff]
  rfl

/-- Two tables with the same values are equal. -/
theorem Ascending.eq_of_get (h : t.Ascending) (h' : t'.Ascending)
    (hget : ∀ v, t.get v = t'.get v) : t = t' := by
  have hmem (x : Variant × α) : x ∈ t.entries ↔ x ∈ t'.entries := by
    rw [← get_eq_some_iff h, ← get_eq_some_iff h', hget]
  have hperm : t.entries.Perm t'.entries :=
    (List.perm_ext_iff_of_nodup h.nodup.of_map h'.nodup.of_map).mpr hmem
  have heq : t.entries = t'.entries :=
    hperm.eq_of_pairwise (fun x y _ _ hxy hyx => absurd hyx hxy.not_gt) h.pairwise h'.pairwise
  cases t
  cases t'
  exact congrArg mk heq

/-! ### Changes -/

theorem map_fst_replaceFirst (v : Variant) (a : α) (l : List (Variant × α)) :
    (replaceFirst v a l).map (·.1) = l.map (·.1) := by
  induction l with
  | nil => rfl
  | cons entry rest ih =>
      rw [replaceFirst]
      split
      next hv => rw [List.map_cons, List.map_cons, hv]
      next => rw [List.map_cons, List.map_cons, ih]

theorem find?_replaceFirst (hv : v ∈ l.map (·.1)) :
    (replaceFirst v a l).find? (·.1 = w) = if w = v then some (v, a) else l.find? (·.1 = w) := by
  induction l with
  | nil => cases hv
  | cons entry rest ih =>
      rw [replaceFirst]
      by_cases hentry : entry.1 = v
      · rw [if_pos hentry]
        by_cases hw : w = v
        · simp [hw]
        · simp [hw, hentry, Ne.symm hw]
      · rw [if_neg hentry, List.find?_cons, List.find?_cons,
          ih ((List.mem_cons.mp hv).resolve_left (Ne.symm hentry))]
        by_cases hw : w = v
        · simp [hw, hentry]
        · simp [hw]

/-- A list with one value for each variant is in order after sorting. -/
theorem ascending_mergeSort (h : (l.map (·.1)).Nodup) :
    Ascending ⟨l.mergeSort fun x y => x.1.rank ≤ y.1.rank⟩ := by
  have hle : (l.mergeSort fun x y => x.1.rank ≤ y.1.rank).Pairwise
      fun x y => decide (x.1.rank ≤ y.1.rank) = true := by
    refine List.pairwise_mergeSort (fun x y z hxy hyz => ?_) (fun x y => ?_) l
    · rw [decide_eq_true_iff] at hxy hyz ⊢
      exact hxy.trans hyz
    · rw [Bool.or_eq_true, decide_eq_true_iff, decide_eq_true_iff]
      exact Nat.le_total _ _
  have hne := (List.mergeSort_perm l fun x y => x.1.rank ≤ y.1.rank).symm.pairwise
    (List.pairwise_map.mp h) Ne.symm
  refine List.pairwise_map.mpr ((hle.and hne).imp fun ⟨hle, hne⟩ => ?_)
  exact lt_of_le_of_ne (decide_eq_true_iff.mp hle) fun e => hne (Variant.rank_injective e)

/-- Inserting says which value it replaces. -/
theorem fst_insert (t : HookTable α) (v : Variant) (a : α) : (t.insert v a).1 = t.get v := by
  unfold insert
  split
  next old hold => exact hold.symm
  next hnone => exact hnone.symm

theorem ascending_insert (h : t.Ascending) (v : Variant) (a : α) : (t.insert v a).2.Ascending := by
  unfold insert
  cases hget : t.get v with
  | some old =>
      show List.Pairwise _ ((replaceFirst v a t.entries).map (·.1))
      rw [map_fst_replaceFirst]
      exact h
  | none =>
      refine ascending_mergeSort ?_
      rw [List.map_append, List.map_singleton, ← List.concat_eq_append]
      exact h.nodup.concat (get_eq_none_iff.mp hget)

/-- Inserting changes one variant. -/
theorem get_insert (h : t.Ascending) (v : Variant) (a : α) (w : Variant) :
    (t.insert v a).2.get w = if w = v then some a else t.get w := by
  have hascending := ascending_insert h v a
  unfold insert at hascending ⊢
  cases hget : t.get v with
  | some old =>
      have hv : v ∈ t.variants := by
        by_contra hv
        cases (get_eq_none_iff.mpr hv).symm.trans hget
      show ((replaceFirst v a t.entries).find? (·.1 = w)).map (·.2) = _
      rw [find?_replaceFirst hv]
      split <;> rfl
  | none =>
      rw [hget] at hascending
      refine Option.ext fun b => ?_
      rw [get_eq_some_iff hascending]
      show (w, b) ∈ List.mergeSort _ _ ↔ _
      rw [List.mem_mergeSort, List.mem_append, ← get_eq_some_iff h, List.mem_singleton]
      by_cases hw : w = v
      · subst hw
        simp [hget, eq_comm]
      · simp [hw]

theorem eraseP_eq_filter (h : (l.map (·.1)).Nodup) :
    l.eraseP (·.1 = v) = l.filter (·.1 ≠ v) := by
  induction l with
  | nil => rfl
  | cons entry rest ih =>
      obtain ⟨hentry, hrest⟩ := List.nodup_cons.mp h
      by_cases hv : entry.1 = v
      · have hkept : rest.filter (·.1 ≠ v) = rest := by
          rw [List.filter_eq_self]
          intro x hx
          have hne : x.1 ≠ v := fun e => hentry (List.mem_map.mpr ⟨x, hx, e.trans hv.symm⟩)
          exact decide_eq_true hne
        rw [List.eraseP_cons_of_pos (by simpa using hv), List.filter_cons_of_neg (by simpa using hv),
          hkept]
      · simp [hv, ih hrest]

theorem ascending_remove (h : t.Ascending) (v : Variant) : (t.remove v).2.Ascending :=
  h.sublist (List.eraseP_sublist.map _)

/-- Removing changes one variant. -/
theorem get_remove (h : t.Ascending) (v w : Variant) :
    (t.remove v).2.get w = if w = v then none else t.get w := by
  refine Option.ext fun b => ?_
  rw [get_eq_some_iff (ascending_remove h v)]
  show (w, b) ∈ t.entries.eraseP _ ↔ _
  rw [eraseP_eq_filter h.nodup, List.mem_filter, ← get_eq_some_iff h]
  by_cases hw : w = v <;> simp [hw]

/-- A change of a table. -/
inductive Change (α : Type) where
  | insert (v : Variant) (a : α)
  | remove (v : Variant)
  | clear

/-- The table after a change. -/
def change (t : HookTable α) : Change α → HookTable α
  | .insert v a => (t.insert v a).2
  | .remove v => (t.remove v).2
  | .clear => t.clear

/-- **Tables stay in order.**  After any changes, the variants of a table ascend strictly. -/
theorem ascending_run (changes : List (Change α)) :
    (changes.foldl change (empty : HookTable α)).Ascending := by
  have hrun (changes : List (Change α)) (t : HookTable α) (h : t.Ascending) :
      (changes.foldl change t).Ascending := by
    induction changes generalizing t with
    | nil => exact h
    | cons c rest ih =>
        refine ih _ ?_
        cases c with
        | insert v a => exact ascending_insert h v a
        | remove v => exact ascending_remove h v
        | clear => exact .nil
  exact hrun changes empty .nil

end HookTable

/-! ### Places -/

namespace Hooks

variable {α : Type} {h : Hooks α} {v w : Variant} {a : α}

theorem ascending_table (h : Hooks α) : h.table.Ascending := by
  obtain ⟨prePass, shadow, glow⟩ := h
  cases prePass <;> cases shadow <;> cases glow <;>
    simp [HookTable.Ascending, table, HookTable.variants, entries, get, Variant.rank]

theorem get_table (h : Hooks α) (v : Variant) : h.table.get v = h.get v := by
  obtain ⟨prePass, shadow, glow⟩ := h
  cases v <;> cases prePass <;> cases shadow <;> cases glow <;> rfl

theorem mem_table : (v, a) ∈ h.table.entries ↔ h.get v = some a := by
  rw [← HookTable.get_eq_some_iff (ascending_table h), get_table]

theorem mem_variants_table : v ∈ h.table.variants ↔ (h.get v).isSome := by
  rw [← get_table, Option.isSome_iff_ne_none, ne_eq, HookTable.get_eq_none_iff, not_not]

/-- Putting a value into a place is inserting it. -/
theorem table_put_some (h : Hooks α) (v : Variant) (a : α) :
    (h.put v (some a)).table = (h.table.insert v a).2 := by
  have hascending := ascending_table h
  refine (ascending_table _).eq_of_get (HookTable.ascending_insert hascending v a) fun w => ?_
  rw [get_table, HookTable.get_insert hascending, get_put, get_table]

/-- Emptying a place is removing its value. -/
theorem table_put_none (h : Hooks α) (v : Variant) :
    (h.put v none).table = (h.table.remove v).2 := by
  have hascending := ascending_table h
  refine (ascending_table _).eq_of_get (HookTable.ascending_remove hascending v) fun w => ?_
  rw [get_table, HookTable.get_remove hascending, get_put, get_table]

/-- The change of a table that a change of a place is. -/
def changeAt (v : Variant) : Option α → HookTable.Change α
  | some a => .insert v a
  | none => .remove v

theorem table_put (h : Hooks α) (v : Variant) (a : Option α) :
    (h.put v a).table = h.table.change (changeAt v a) := by
  cases a with
  | some a => exact table_put_some h v a
  | none => exact table_put_none h v

/-- The list of the places is a table that changes lead to; and what such a table answers and becomes
is what the places answer and become. -/
structure Tabled (h : Hooks α) : Prop where
  reached : ∃ changes : List (HookTable.Change α),
    h.table = changes.foldl HookTable.change HookTable.empty
  get : ∀ v, h.table.get v = h.get v
  insert : ∀ v a, h.table.insert v a = (h.get v, (h.put v (some a)).table)
  remove : ∀ v, h.table.remove v = (h.get v, (h.put v none).table)
  clear : h.table.clear = (empty : Hooks α).table

/-- **Places for a table.** -/
theorem tabled (h : Hooks α) : h.Tabled where
  reached := by
    refine ⟨[changeAt .prePass h.prePass, changeAt .shadow h.shadow, changeAt .glow h.glow], ?_⟩
    calc h.table
        = (((empty.put .prePass h.prePass).put .shadow h.shadow).put .glow h.glow).table := rfl
      _ = _ := by rw [table_put, table_put, table_put]; rfl
  get := get_table h
  insert v a := Prod.ext ((HookTable.fst_insert _ v a).trans (get_table h v)) (table_put_some h v a).symm
  remove v := Prod.ext (get_table h v) (table_put_none h v).symm
  clear := rfl

theorem variants_table (h : Hooks α) :
    h.table.variants = [.prePass, .shadow, .glow].filter fun v => (h.get v).isSome := by
  obtain ⟨prePass, shadow, glow⟩ := h
  cases prePass <;> cases shadow <;> cases glow <;> rfl

theorem variants_map (h : Hooks α) (f : α → α) :
    (h.map f).table.variants = h.table.variants := by
  obtain ⟨prePass, shadow, glow⟩ := h
  cases prePass <;> cases shadow <;> cases glow <;> rfl

end Hooks

/-! ### What is wanted -/

namespace Instance

variable {i j : Instance} {config : Config} {v : Variant}

/-- The hooks of an instance are those that its material wants under a configuration. -/
structure Wears (config : Config) (i : Instance) : Prop where
  glow : .glow ∈ i.hooks.table.variants ↔ ∃ stage ∈ i.material.stages, stage.glow = true
  prePass : .prePass ∈ i.hooks.table.variants ↔
    config.prepassEnabled = true ∧ i.material.translucent = false
  shadow : .shadow ∈ i.hooks.table.variants ↔ i.material.castShadows = true

theorem Shaped.isSome_get_attached (h : i.Shaped) :
    ((i.attached config).hooks.get v).isSome ↔ wants config i.material v = true := by
  rw [get_attached, h.wanted_eq]
  split
  next hwants => simp [hwants]
  next hwants => simp [hwants]

/-- A hook that is wanted and there is kept. -/
theorem Shaped.get_attached_of_get (h : i.Shaped) (hj : i.hooks.get v = some j)
    (hwanted : ((i.attached config).hooks.get v).isSome) :
    (i.attached config).hooks.get v = some j := by
  rw [get_attached, h.wanted_eq, if_pos (h.isSome_get_attached.mp hwanted), hj]
  rfl

theorem Wears.of_isSome (h : ∀ v, (i.hooks.get v).isSome ↔ wants config i.material v = true) :
    i.Wears config where
  glow := by rw [Hooks.mem_variants_table, h, wants, Material.hasGlow, List.any_eq_true]
  prePass := by rw [Hooks.mem_variants_table, h, wants, Bool.and_eq_true, Bool.not_eq_true']
  shadow := by rw [Hooks.mem_variants_table, h, wants]

theorem Shaped.wears_attached (h : i.Shaped) (config : Config) : (i.attached config).Wears config :=
  .of_isSome fun _ => h.isSome_get_attached

theorem Wears.blank (h : i.Wears config) : i.blank.Wears config := by
  have hvariants : i.blank.hooks.table.variants = i.hooks.table.variants := by
    rw [hooks_blank]
    exact i.hooks.variants_map _
  refine ⟨?_, ?_, ?_⟩ <;> rw [hvariants, material_blank]
  · exact h.glow
  · exact h.prePass
  · exact h.shadow

/-- Nothing can be hung on a hook. -/
theorem Bare.run_addHook (h : j.Bare) (v : Variant) (s : Session) :
    (j.addHook v).run s = .ok ((.error .hookOnHook, j), s) := by
  unfold addHook
  rw [if_pos h.mark]
  rfl

theorem replace_self {v : Option Variant} (hj : i.resolve v = some j) : i.replace v j = i := by
  cases v with
  | none => exact (Option.some.inj hj).symm
  | some v =>
      have hj : i.hooks.get v = some j := hj
      rw [replace, hj, Option.map_some, ← hj, Hooks.put_get, eta]

end Instance

/-! ### Libraries -/

namespace Library

variable {l l' : Library} {id : Slot} {i j : Instance} {config : Config}

/-- What hangs on an instance is of its material, each hook for its own variant; and nothing hangs on
a hook, or can be hung on it. -/
structure Hooked (l : Library) (id : Slot) (i : Instance) : Prop where
  ascending : i.hooks.table.Ascending
  alike : ∀ v j, (v, j) ∈ i.hooks.table.entries →
    j.material = i.material ∧ j.form.format = i.form.format ∧ j.form.variant = some v ∧
      j.form.isHook = true
  bare : ∀ v j, (v, j) ∈ i.hooks.table.entries → l.resolve? ⟨id, some v⟩ = .ok (some j) ∧
    j.hooks.table.entries = [] ∧
    (∀ w s, (j.addHook w).run s = .ok ((.error .hookOnHook, j), s)) ∧
    l.replace ⟨id, some v⟩ j = .ok l

theorem hooked_of_inForce (h : l.InForce) (hi : l.instance? id = .ok (some i)) : l.Hooked id i := by
  refine ⟨Hooks.ascending_table _, fun v j hj => ?_, fun v j hj => ?_⟩
  all_goals
    have hget : i.hooks.get v = some j := Hooks.mem_table.mp hj
    have hbare : j.Bare := (h.shaped id i hi).bare v j hget
  · have hof : i.formOf (some v) = some j.form := congrArg (Option.map _) hget
    have hsubject := (h.own id i hi (some v) _ hof).1
    injection hsubject with hmaterial hrest
    injection hrest with hformat hvariant
    exact ⟨hmaterial, hformat, hvariant, hbare.mark⟩
  · have hres : i.resolve (some v) = some j := hget
    refine ⟨(resolve?_of_instance? hi).trans (congrArg _ hres), ?_, hbare.run_addHook, ?_⟩
    · rw [hbare.hooks]
      rfl
    · rw [replace_eq hi, Instance.replace_self hres]
      exact setInstance_self hi

/-- What is new in a library is one instance of a material, with the hooks that it wants; and there it
is behind its handle, as long as there are handles left. -/
structure Adds (m : Material) (format : VertexFormat) (l : Library) (id : Slot) (l' : Library) :
    Prop where
  new : ∀ id' i, l'.instance? id' = .ok (some i) → l.instance? id' = .ok (some i) ∨
    l.instance? id' = .ok none ∧ i.material = m ∧ i.form.format = format ∧
      i.Wears l.context.config
  named : l.instances.cells.size < 2 ^ 32 - 1 → ∃ i, l'.instance? id = .ok (some i) ∧
    i.material = m ∧ i.form.format = format ∧ i.Wears l.context.config

/-- Every instance gets the hooks that its material wants under a configuration, and keeps those of
them that it had; what is kept is forgotten later on. -/
structure Redresses (config : Config) (l l₁ l' : Library) : Prop where
  wears : ∀ id i, l.instance? id = .ok (some i) → ∃ i₁ i', l₁.instance? id = .ok (some i₁) ∧
    l'.instance? id = .ok (some i') ∧ i'.material = i.material ∧ i₁.Wears config ∧
    i'.Wears config ∧ ∀ v j, (v, j) ∈ i.hooks.table.entries → v ∈ i₁.hooks.table.variants →
      (v, j) ∈ i₁.hooks.table.entries
  others : ∀ id i', l'.instance? id = .ok (some i') → ∃ i, l.instance? id = .ok (some i)

/-- **Taking a material into use.** -/
theorem adds_create (hvalid : l.instances.Valid) (m : Material) (format : VertexFormat)
    (s : Session) :
    ∃ id l' s', (l.create m format).run s = .ok ((id, l'), s') ∧ l.Adds m format id l' := by
  obtain ⟨s', hrun⟩ := l.yields_create m format s
  have hwears := (Instance.Shaped.new m format).wears_attached l.context.config
  refine ⟨_, _, s', hrun, fun id' i hi => ?_, fun hroom => ?_⟩
  · rcases SlotSet.find_push hvalid ((Instance.new m format).attached l.context.config) id' with
      hsame | ⟨hnone, hsome⟩
    · exact .inl (hsame.symm.trans hi)
    · cases hsome.symm.trans hi
      exact .inr ⟨hnone, rfl, rfl, hwears⟩
  · exact ⟨_, instance?_created hvalid hroom m format, rfl, rfl, hwears⟩

theorem InForce.redresses_under (h : l.InForce) (config : Config) :
    l.Redresses config (l.under config) (l.under config).blank := by
  have hunder (id : Slot) : (l.under config).instance? id =
      (l.instance? id).map (Option.map (Instance.attached config)) :=
    SlotSet.find_mapValues _ id
  have hblank (id : Slot) : (l.under config).blank.instance? id =
      ((l.under config).instance? id).map (Option.map Instance.blank) :=
    SlotSet.find_mapValues _ id
  refine ⟨fun id i hi => ?_, fun id i' hi' => ?_⟩
  · have hi₁ : (l.under config).instance? id = .ok (some (i.attached config)) := by
      rw [hunder, hi]
      rfl
    have hi' : (l.under config).blank.instance? id = .ok (some (i.attached config).blank) := by
      rw [hblank, hi₁]
      rfl
    have hshaped := h.shaped id i hi
    have hwears := hshaped.wears_attached config
    refine ⟨_, _, hi₁, hi', Instance.material_blank _, hwears, hwears.blank, fun v j hj hv => ?_⟩
    exact Hooks.mem_table.mpr (hshaped.get_attached_of_get (Hooks.mem_table.mp hj)
      (Hooks.mem_variants_table.mp hv))
  · rw [hblank, hunder] at hi'
    cases hi : l.instance? id with
    | error fault =>
        rw [hi] at hi'
        cases hi'
    | ok found =>
        cases found with
        | none =>
            rw [hi] at hi'
            cases hi'
        | some i => exact ⟨i, rfl⟩

/-- **Another configuration.**  First every instance gets the hooks that its material wants, and then
everything is forgotten. -/
theorem InForce.redresses_setConfig (h : l.InForce) (hne : l.context.config ≠ config) (s : Session) :
    ∃ l₁ s₁ l' s',
      (mapInstances { l with context := { l.context with config := config } }
        (Instance.attachHooks config)).run s = .ok (l₁, s₁) ∧
      l₁.flush.run s₁ = .ok (l', s') ∧ (l.setConfig config).run s = .ok (l', s') ∧
      l.Redresses config l₁ l' := by
  obtain ⟨s₁, hattach⟩ := yields_mapInstances (Instance.yields_attachHooks config)
    { l with context := { l.context with config := config } } s
  obtain ⟨s', hflush⟩ := (l.under config).yields_flush s₁
  refine ⟨l.under config, s₁, (l.under config).blank, s', hattach, hflush, ?_,
    h.redresses_under config⟩
  unfold setConfig
  rw [if_neg hne, run_bind hattach]
  exact hflush

/-- **What hangs on the instances.**  A table of hooks is in order after any changes.  In every library
in use, the hooks of an instance are such a table, and what hangs on it is as it should be.  A material
that is taken into use gets the hooks that it wants, and when another configuration comes into force,
every instance has the hooks that its material wants then. -/
theorem InUse.instances_hooked (h : l.InUse) :
    (∀ changes : List (HookTable.Change Instance),
      (changes.foldl HookTable.change HookTable.empty).Ascending) ∧
      (∀ id i, l.instance? id = .ok (some i) → i.hooks.Tabled ∧ l.Hooked id i) ∧
      (∀ m format s, ∃ id l' s', (l.create m format).run s = .ok ((id, l'), s') ∧
        l.Adds m format id l') ∧
      ∀ config, l.context.config ≠ config → ∀ s, ∃ l₁ s₁ l' s',
        (mapInstances { l with context := { l.context with config := config } }
          (Instance.attachHooks config)).run s = .ok (l₁, s₁) ∧
        l₁.flush.run s₁ = .ok (l', s') ∧ (l.setConfig config).run s = .ok (l', s') ∧
        l.Redresses config l₁ l' :=
  ⟨HookTable.ascending_run, fun _ i hi => ⟨i.hooks.tabled, hooked_of_inForce h.inForce hi⟩,
    adds_create h.inForce.valid, fun _ => h.inForce.redresses_setConfig⟩

/-- A lamp wants all hooks while there is a pass ahead of colour, and two without it. -/
theorem instances_hooked_of_lamp : ∃ (l l' : Library) (i i' : Instance), l.InUse ∧
    l.instance? (.new 0 0) = .ok (some i) ∧ l.Hooked (.new 0 0) i ∧
    i.hooks.table.variants = [.prePass, .shadow, .glow] ∧
    (∃ s, (l.setConfig {}).run {} = .ok (l', s)) ∧
    l'.instance? (.new 0 0) = .ok (some i') ∧ i'.hooks.table.variants = [.shadow, .glow] := by
  let m : Material :=
    { name := "lamp", castShadows := true, stages := [{ Stage.diffuse "a.png" with glow := true }] }
  obtain ⟨l₀, s₀, hnew⟩ := exists_run_new { prepassEnabled := true } {}
  obtain ⟨-, -, hi⟩ := created_new hnew m .positionNormalUv
  have hl : InUse (l₀.created m .positionNormalUv).2 := (InUse.new hnew).created m .positionNormalUv
  have hne : (l₀.created m .positionNormalUv).2.context.config ≠ {} := by
    rw [show (l₀.created m .positionNormalUv).2.context = l₀.context from rfl, (of_run_new hnew).1]
    decide
  obtain ⟨-, hhooked, -, hset⟩ := InUse.instances_hooked hl
  obtain ⟨l₁, s₁, l', s', -, -, hrun, hdressed⟩ := hset {} hne {}
  obtain ⟨-, i', -, hi', hm, -, hwears, -⟩ := hdressed.wears _ _ hi
  refine ⟨_, l', _, i', hl, hi, (hhooked _ _ hi).2, rfl, ⟨s', hrun⟩, hi', ?_⟩
  have hm : i'.material = m := hm
  obtain ⟨hglow, hprePass, hshadow⟩ := hwears
  rw [hm] at hglow hprePass hshadow
  have hno : .prePass ∉ i'.hooks.table.variants := fun h => Bool.false_ne_true (hprePass.mp h).1
  have hshadow := hshadow.mpr rfl
  have hglow := hglow.mpr ⟨_, List.mem_singleton_self _, rfl⟩
  rw [Hooks.mem_variants_table] at hno hshadow hglow
  simp [Hooks.variants_table, hno, hshadow, hglow]

end Library

end MaterialPipeline
