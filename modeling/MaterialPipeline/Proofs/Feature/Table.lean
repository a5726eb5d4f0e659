import MaterialPipeline.Feature.Table
import MaterialPipeline.Proofs.Feature.Lazy
import Mathlib.Data.List.Induction
import Mathlib.Logic.Function.Basic

/-!
# Proofs — Feature — Table

A table that is sorted when it is looked at stands for a registry that is always in order
(`RegistryTable.Holds`): a number has the same registration in both, and the order that the table
knows, if any, is that of the registry.

* `FeatureType.Before`: the order of types, spelled out.
* `FeatureType.mergeSort_eq`: sorting finds the one strictly ascending order there is.
* `RegistryTable.Holds.order_fst`, `RegistryTable.Holds.visit_fst`: looking gives the order of the
registry, whether or not it was known.
* `RegistryTable.Holds.register`, `RegistryTable.Holds.unregister`: a change on one side is the same
change on the other.
* `RegistryStep.Lasts`: what was registered and not ended since; `RegistryStep.mem_settled` finds
exactly that in the registry behind the table.
* `RegistryStep.tells_run`: what a table tells after any steps.
-/

namespace MaterialPipeline

/-! ### The order of types -/

namespace FeatureType

variable {a b : FeatureType}

/-- By group, then by the order in the group, and then by number. -/
inductive Before (a b : FeatureType) : Prop
  | group (h : a.group.rank < b.group.rank)
  | order (hgroup : a.group = b.group) (h : a.order.totalKey < b.order.totalKey)
  | id (hgroup : a.group = b.group) (horder : a.order.totalKey = b.order.totalKey)
      (h : a.id < b.id)

theorem key_lt_iff : a.key < b.key ↔ a.Before b := by
  simp only [key, List.cons_lt_cons_iff, List.not_lt_nil, Int.ofNat_lt, Int.natCast_inj, and_false,
    or_false]
  constructor
  · rintro (h | ⟨hgroup, h | ⟨horder, h⟩⟩)
    · exact .group h
    · exact .order (FeatureGroup.rank_injective hgroup) h
    · exact .id (FeatureGroup.rank_injective hgroup) horder h
  · rintro (h | ⟨hgroup, h⟩ | ⟨hgroup, horder, h⟩)
    · exact .inl h
    · exact .inr ⟨congrArg _ hgroup, .inl h⟩
    · exact .inr ⟨congrArg _ hgroup, .inr ⟨horder, h⟩⟩

/-- The comparison finds what does not come after. -/
theorem isLE_pipelineCompare : (a.pipelineCompare b).isLE = true ↔ ¬ b.key < a.key := by
  unfold pipelineCompare
  split
  next hlt => exact iff_of_true rfl fun hgt => List.lt_irrefl _ (List.lt_trans hlt hgt)
  next =>
    split
    next hgt => exact iff_of_false Bool.false_ne_true fun h => h hgt
    next hngt => exact iff_of_true rfl hngt

/-- Sorting finds the one order in which types ascend strictly, if there is one. -/
theorem mergeSort_eq {l sorted : List FeatureType} (hperm : l.Perm sorted)
    (hsorted : Ascending key sorted) :
    (l.mergeSort fun a b => (a.pipelineCompare b).isLE) = sorted := by
  have hne : sorted.Pairwise fun a b => a.key ≠ b.key := by
    refine List.Pairwise.imp (fun {a b} hlt => ?_) hsorted
    exact fun e => List.lt_irrefl _ (e ▸ hlt)
  have hcompare (a b : FeatureType) : (a.pipelineCompare b).isLE = true ↔ ¬ b.key < a.key :=
    isLE_pipelineCompare
  have hascending := Ascending.mergeSort hcompare (hperm.symm.pairwise hne Ne.symm)
  exact hascending.eq_of_mem_iff hsorted fun _ => List.mem_mergeSort.trans hperm.mem_iff

end FeatureType

/-! ### Registries -/

open Function (update)

namespace Registry

variable {r : Registry} {type : FeatureType} {g : Generator} {id : FeatureId} {e e' : Registration}

/-- Registrations are known by number. -/
theorem eq_of_id_eq (he : e ∈ r.entries) (he' : e' ∈ r.entries) (h : e.type.id = e'.type.id) :
    e = e' := by
  have hnodup : (r.entries.map (·.type.id)).Nodup := List.pairwise_map.mpr r.distinct
  exact List.inj_on_of_nodup_map hnodup he he' h

theorem find?_eq_some : r.find? id = some e ↔ e ∈ r.entries ∧ e.type.id = id := by
  constructor
  · intro h
    exact ⟨List.mem_of_find?_eq_some h, by simpa using List.find?_some h⟩
  · rintro ⟨he, rfl⟩
    cases hfind : r.find? e.type.id with
    | none => simpa using List.find?_eq_none.mp hfind e he
    | some e' =>
        have hid : e'.type.id = e.type.id := by simpa using List.find?_some hfind
        exact congrArg some (eq_of_id_eq (List.mem_of_find?_eq_some hfind) he hid)

theorem find?_of_mem (he : e ∈ r.entries) : r.find? e.type.id = some e :=
  find?_eq_some.mpr ⟨he, rfl⟩

theorem mem_register : e ∈ (r.register type g).entries ↔
    e = ⟨type, g⟩ ∨ e ∈ r.entries ∧ e.type.id ≠ type.id :=
  mem_place.trans (or_congr_right mem_unregister)

theorem find?_register (r : Registry) (type : FeatureType) (g : Generator) :
    (r.register type g).find? = update r.find? type.id (some ⟨type, g⟩) := by
  funext id
  refine Option.ext fun e => ?_
  rw [find?_eq_some, mem_register]
  by_cases hid : id = type.id
  · subst hid
    rw [Function.update_self, Option.some_inj]
    constructor
    · rintro ⟨rfl | ⟨-, hne⟩, hid⟩
      · rfl
      · exact absurd hid hne
    · rintro rfl
      exact ⟨.inl rfl, rfl⟩
  · rw [Function.update_of_ne hid, find?_eq_some]
    constructor
    · rintro ⟨rfl | ⟨he, -⟩, rfl⟩
      · exact absurd rfl hid
      · exact ⟨he, rfl⟩
    · rintro ⟨he, rfl⟩
      exact ⟨.inr ⟨he, hid⟩, rfl⟩

theorem find?_unregister (r : Registry) (id : FeatureId) :
    (r.unregister id).find? = update r.find? id none := by
  funext id'
  refine Option.ext fun e => ?_
  rw [find?_eq_some, mem_unregister]
  by_cases hid : id' = id
  · subst hid
    rw [Function.update_self]
    exact iff_of_false (fun h => h.1.2 h.2) (fun h => nomatch h)
  · rw [Function.update_of_ne hid, find?_eq_some]
    constructor
    · rintro ⟨⟨he, -⟩, h⟩
      exact ⟨he, h⟩
    · rintro ⟨he, rfl⟩
      exact ⟨⟨he, hid⟩, rfl⟩

theorem contains_iff : r.contains id = true ↔ ∃ e ∈ r.entries, e.type.id = id := by
  simp only [contains, List.any_eq_true, beq_iff_eq]

/-- Taking out a number that is not registered changes nothing. -/
theorem entries_unregister_of_find?_eq_none (h : r.find? id = none) :
    (r.unregister id).entries = r.entries := by
  refine List.filter_eq_self.mpr fun e he => ?_
  simpa using List.find?_eq_none.mp h e he

end Registry

/-! ### What a table stands for -/

namespace RegistryTable

variable {t : RegistryTable} {r : Registry} {type : FeatureType} {g : Generator} {id : FeatureId}
  {e : Registration}

/-- The slots of a table that has grown hold what they held. -/
theorem join_getElem?_grown (t : RegistryTable) (id id' : FeatureId) :
    (t.grown id)[id']?.join = t.find? id' := by
  rw [grown, find?, List.getElem?_append, List.getElem?_replicate]
  split
  next => rfl
  next hlen =>
    rw [List.getElem?_eq_none (Nat.not_lt.mp hlen)]
    split <;> rfl

theorem lt_length_grown (t : RegistryTable) (id : Nat) : id < (t.grown id).length := by
  rw [grown, List.length_append, List.length_replicate]
  omega

theorem find?_register (t : RegistryTable) (type : FeatureType) (g : Generator) :
    (t.register type g).2.find? = update t.find? type.id (some ⟨type, g⟩) := by
  funext id
  change ((t.grown type.id).set type.id (some ⟨type, g⟩))[id]?.join = _
  by_cases hid : id = type.id
  · subst hid
    rw [Function.update_self, List.getElem?_set_self (t.lt_length_grown _), Option.join_some]
  · rw [Function.update_of_ne hid, List.getElem?_set_ne (Ne.symm hid), join_getElem?_grown]

theorem find?_unregister (t : RegistryTable) (id : FeatureId) :
    (t.unregister id).2.find? = update t.find? id none := by
  funext id'
  unfold unregister
  split
  next e he =>
    change (t.slots.set id none)[id']?.join = _
    by_cases hid : id' = id
    · subst hid
      rw [Function.update_self, List.getElem?_set_self']
      cases t.slots[id']? <;> rfl
    · rw [Function.update_of_ne hid, List.getElem?_set_ne (Ne.symm hid), find?]
  next hnone => rw [← hnone, Function.update_eq_self]

/-- What registering gives is the generator that was there. -/
theorem register_fst (t : RegistryTable) (type : FeatureType) (g : Generator) :
    (t.register type g).1 = t.lookup type.id :=
  congrArg (Option.map _) (t.join_getElem?_grown type.id type.id)

/-- What unregistering gives is the generator that was there. -/
theorem unregister_fst (t : RegistryTable) (id : FeatureId) :
    (t.unregister id).1 = t.lookup id := by
  unfold unregister lookup
  split
  next he => rw [he, Option.map_some]
  next hnone => rw [hnone, Option.map_none]

/-- The table stands for a registry that is in pipeline order. -/
structure Holds (t : RegistryTable) (r : Registry) : Prop where
  find : ∀ id, t.find? id = r.find? id
  sorted : ∀ ids, t.sorted = some ids → ids = r.order

theorem holds_empty : empty.Holds .empty where
  find _ := rfl
  sorted _ h := nomatch h

namespace Holds

/-- The slot of a number has a registration of that number. -/
theorem id_of_find? (h : t.Holds r) (he : t.find? id = some e) : e.type.id = id :=
  (Registry.find?_eq_some.mp (h.find id ▸ he)).2

theorem mem_registrations (h : t.Holds r) : e ∈ t.registrations ↔ e ∈ r.entries := by
  rw [registrations, List.mem_filterMap]
  constructor
  · rintro ⟨_, hslot, rfl⟩
    obtain ⟨id, hid⟩ := List.mem_iff_getElem?.mp hslot
    have hfind : t.find? id = some e := by rw [find?, hid, Option.join_some]
    exact (Registry.find?_eq_some.mp (h.find id ▸ hfind)).1
  · intro he
    have hfind := (h.find _).trans (Registry.find?_of_mem he)
    exact ⟨some e, List.mem_of_getElem? (Option.join_eq_some_iff.mp hfind), rfl⟩

/-- No two registrations have one number, as each is in the slot of its number. -/
theorem distinct_registrations (h : t.Holds r) :
    t.registrations.Pairwise fun a b => a.type.id ≠ b.type.id := by
  refine List.pairwise_filterMap.mpr (List.pairwise_iff_getElem.mpr ?_)
  intro i j hi hj hlt a ha b hb hid
  have hfind {k : Nat} {e : Registration} (hk : k < t.slots.length)
      (he : t.slots[k] = some e) : t.find? k = some e := by
    rw [find?, List.getElem?_eq_getElem hk, he, Option.join_some]
  have hia := h.id_of_find? (hfind hi ha)
  have hjb := h.id_of_find? (hfind hj hb)
  exact absurd (hia.symm.trans (hid.trans hjb)) (Nat.ne_of_lt hlt)

theorem perm_registrations (h : t.Holds r) : t.registrations.Perm r.entries := by
  have hnodup {l : List Registration} (hl : l.Pairwise fun a b => a.type.id ≠ b.type.id) :
      l.Nodup :=
    List.nodup_iff_pairwise_ne.mpr (hl.imp fun hne e => hne (congrArg (·.type.id) e))
  exact (List.perm_ext_iff_of_nodup (hnodup h.distinct_registrations) (hnodup r.distinct)).mpr
    fun _ => h.mem_registrations

/-! ### Looking -/

/-- Looking gives the order of the registry, whether or not it was known. -/
theorem order_fst (h : t.Holds r) : t.order.1 = r.order := by
  unfold order
  split
  next ids hsorted => exact h.sorted ids hsorted
  next =>
    have hascending : Ascending FeatureType.key (r.entries.map (·.type)) :=
      List.pairwise_map.mpr r.ascending
    dsimp only
    rw [FeatureType.mergeSort_eq (h.perm_registrations.map _) hascending, List.map_map]
    rfl

/-- Looking changes what is known, and nothing else. -/
theorem order_snd (h : t.Holds r) : t.order.2.Holds r := by
  have hfst := h.order_fst
  unfold order at hfst ⊢
  split at hfst
  · exact h
  · exact ⟨h.find, fun _ e => Option.some.inj e ▸ hfst⟩

/-- The traversal finds each registration of the registry. -/
theorem visit_fst (h : t.Holds r) : t.visit.1 = r.entries := by
  have hfind : ∀ e ∈ r.entries, t.find? e.type.id = some e := fun e he =>
    (h.find _).trans (Registry.find?_of_mem he)
  rw [visit, h.order_fst, Registry.order, List.filterMap_map]
  exact (List.filterMap_congr hfind).trans List.filterMap_some

theorem names_fst (h : t.Holds r) : t.names.1 = r.names := by
  have htype : ∀ e ∈ r.entries, t.type? e.type.id = some e.type := fun e he => by
    rw [type?, h.find, Registry.find?_of_mem he, Option.map_some]
  rw [names, h.order_fst, Registry.order, List.filterMap_map, Registry.names]
  change (r.entries.filterMap fun e => t.type? e.type.id).map _ = _
  rw [List.filterMap_congr htype, List.filterMap_eq_map', List.map_map]
  rfl

theorem describe_fst (h : t.Holds r) : t.describe.1 = r.describe :=
  congrArg (fun names => s!"FeatureRegistry \x7b features: {Quoted.list names} \x7d") h.names_fst

theorem size (h : t.Holds r) : t.size = r.size :=
  h.perm_registrations.length_eq

theorem contains (h : t.Holds r) (id : FeatureId) : t.contains id = r.contains id := by
  rw [Bool.eq_iff_iff, RegistryTable.contains, h.find, Option.isSome_iff_exists,
    Registry.contains_iff]
  simp only [Registry.find?_eq_some]

theorem hasBuiltin (h : t.Holds r) : t.hasBuiltin = r.hasBuiltin := by
  simp only [RegistryTable.hasBuiltin, Registry.hasBuiltin, h.contains]

theorem registerNotes (h : t.Holds r) (type : FeatureType) :
    t.registerNotes type = r.registerNotes type := by
  rw [RegistryTable.registerNotes, Registry.registerNotes, h.contains]

/-! ### Changing -/

theorem register (h : t.Holds r) (type : FeatureType) (g : Generator) :
    (t.register type g).2.Holds (r.register type g) where
  find id := by rw [find?_register, Registry.find?_register, funext h.find]
  sorted _ e := nomatch e

/-- The order stays known if there was nothing to take out. -/
theorem unregister (h : t.Holds r) (id : FeatureId) :
    (t.unregister id).2.Holds (r.unregister id) where
  find id' := by rw [find?_unregister, Registry.find?_unregister, funext h.find]
  sorted ids hids := by
    unfold RegistryTable.unregister at hids
    split at hids
    · cases hids
    next hnone =>
      rw [h.sorted ids hids, Registry.order, Registry.order,
        Registry.entries_unregister_of_find?_eq_none (h.find id ▸ hnone)]

end Holds

/-! ### What a table tells -/

/-- The table tells of some registrations, in the order of the list, and of no others. -/
structure Tells (t : RegistryTable) (l : List Registration) : Prop where
  visit : t.visit.1 = l
  order : t.order.1 = l.map (·.type.id)
  names : t.names.1 = l.map (·.type.name)
  describe : t.describe.1 =
    s!"FeatureRegistry \x7b features: {Quoted.list (l.map (·.type.name))} \x7d"
  size : t.size = l.length
  isEmpty : t.isEmpty = true ↔ l = []
  lookup : ∀ id g, t.lookup id = some g ↔ ∃ e ∈ l, e.type.id = id ∧ e.generator = g
  type? : ∀ id type, t.type? id = some type ↔ ∃ e ∈ l, e.type.id = id ∧ e.type = type
  contains : ∀ id, t.contains id = true ↔ ∃ e ∈ l, e.type.id = id
  hasBuiltin : t.hasBuiltin = true ↔
    ∀ type ∈ FeatureType.catalogue, ∃ e ∈ l, e.type.id = type.id
  /-- Registering gives the generator that it replaces, if there is one, and reports it. -/
  register : ∀ type g old, (t.register type g).1 = some old ↔
    ∃ e ∈ l, e.type.id = type.id ∧ e.generator = old
  registerNotes : ∀ type, t.registerNotes type ≠ [] ↔ ∃ e ∈ l, e.type.id = type.id
  /-- Unregistering gives the generator that it takes out, if there is one. -/
  unregister : ∀ id old, (t.unregister id).1 = some old ↔
    ∃ e ∈ l, e.type.id = id ∧ e.generator = old

/-- A table tells of the registrations of the registry that it stands for. -/
theorem Holds.tells (h : t.Holds r) : t.Tells r.entries := by
  have hmap {β : Type} (f : Registration → β) (id : FeatureId) (b : β) :
      (t.find? id).map f = some b ↔ ∃ e ∈ r.entries, e.type.id = id ∧ f e = b := by
    simp only [h.find, Option.map_eq_some_iff, Registry.find?_eq_some, and_assoc]
  have hcontains (id : FeatureId) : t.contains id = true ↔ ∃ e ∈ r.entries, e.type.id = id := by
    rw [h.contains, Registry.contains_iff]
  constructor
  case visit => exact h.visit_fst
  case order => exact h.order_fst
  case names => exact h.names_fst
  case describe => exact h.describe_fst
  case size => exact h.size
  case isEmpty => rw [isEmpty, h.size, Registry.size, beq_iff_eq, List.length_eq_zero_iff]
  case lookup => exact hmap (·.generator)
  case type? => exact hmap (·.type)
  case contains => exact hcontains
  case hasBuiltin =>
    rw [h.hasBuiltin, Registry.hasBuiltin]
    simp only [List.all_eq_true, Registry.contains_iff]
  case register =>
    intro type g old
    rw [register_fst]
    exact hmap (·.generator) type.id old
  case registerNotes =>
    intro type
    rw [h.registerNotes, ← Registry.contains_iff, Registry.registerNotes]
    split <;> simp [*]
  case unregister =>
    intro id old
    rw [unregister_fst]
    exact hmap (·.generator) id old

end RegistryTable

/-! ### Steps -/

/-- A change of a table, or a look at its order. -/
inductive RegistryStep where
  | register (type : FeatureType) (g : Generator)
  | unregister (id : FeatureId)
  | clear
  | order
  | visit
  | describe

namespace RegistryStep

variable {steps : List RegistryStep} {step : RegistryStep} {r : Registry} {e : Registration}

/-- The table after one step. -/
def next (t : RegistryTable) : RegistryStep → RegistryTable
  | register type g => (t.register type g).2
  | unregister id => (t.unregister id).2
  | clear => .empty
  | order => t.order.2
  | visit => t.visit.2
  | describe => t.describe.2

/-- The table after some steps. -/
def run (steps : List RegistryStep) : RegistryTable :=
  steps.foldl next .empty

/-- What one step makes of a registry that is always in order. -/
def settle (r : Registry) : RegistryStep → Registry
  | register type g => r.register type g
  | unregister id => r.unregister id
  | clear => .empty
  | order | visit | describe => r

/-- The registry that stands behind the table after some steps. -/
def settled (steps : List RegistryStep) : Registry :=
  steps.foldl settle .empty

/-- The step ends what was registered under a number. -/
def Ends : RegistryStep → FeatureId → Prop
  | register type _, id => type.id = id
  | unregister gone, id => gone = id
  | clear, _ => True
  | order, _ | visit, _ | describe, _ => False

/-- The registration was made in one of the steps, and no later step ended it. -/
def Lasts (steps : List RegistryStep) (e : Registration) : Prop :=
  ∃ before after, steps = before ++ register e.type e.generator :: after ∧
    ∀ step ∈ after, ¬ step.Ends e.type.id

/-- What lasts is what the last step made, and what lasted before if that step did not end it. -/
theorem lasts_concat : Lasts (steps ++ [step]) e ↔
    step = register e.type e.generator ∨ Lasts steps e ∧ ¬ step.Ends e.type.id := by
  constructor
  · rintro ⟨before, after, heq, hafter⟩
    rcases List.eq_nil_or_concat' after with rfl | ⟨after, last, rfl⟩
    · exact .inl (List.singleton_inj.mp (List.append_inj' heq rfl).2)
    · rw [← List.cons_append, ← List.append_assoc] at heq
      obtain ⟨rfl, hlast⟩ := List.append_inj' heq rfl
      obtain rfl := List.singleton_inj.mp hlast
      rw [List.forall_mem_append, List.forall_mem_singleton] at hafter
      exact .inr ⟨⟨before, after, rfl, hafter.1⟩, hafter.2⟩
  · rintro (rfl | ⟨⟨before, after, rfl, hafter⟩, hstep⟩)
    · exact ⟨steps, [], rfl, List.forall_mem_nil _⟩
    · refine ⟨before, after ++ [step], List.append_assoc .., ?_⟩
      exact List.forall_mem_append.mpr ⟨hafter, List.forall_mem_singleton.mpr hstep⟩

theorem register_eq_register_iff {a : Registration} :
    register a.type a.generator = register e.type e.generator ↔ e = a := by
  obtain ⟨type, g⟩ := a
  obtain ⟨type', g'⟩ := e
  rw [register.injEq, Registration.mk.injEq, eq_comm, eq_comm (a := g)]

theorem mem_settle : e ∈ (settle r step).entries ↔
    step = register e.type e.generator ∨ e ∈ r.entries ∧ ¬ step.Ends e.type.id := by
  cases step with
  | register type g =>
      have heq : register type g = register e.type e.generator ↔ e = ⟨type, g⟩ :=
        register_eq_register_iff (a := ⟨type, g⟩)
      rw [settle, Registry.mem_register, heq]
      exact or_congr_right (and_congr_right' ne_comm)
  | unregister id =>
      rw [settle, Registry.mem_unregister, or_iff_right (by rintro ⟨⟩)]
      exact and_congr_right' ne_comm
  | clear =>
      refine iff_of_false List.not_mem_nil ?_
      rintro (h | ⟨-, h⟩)
      · cases h
      · exact h trivial
  | order | visit | describe =>
      rw [settle, or_iff_right (by rintro ⟨⟩)]
      exact (and_iff_left not_false).symm

/-- The settled registry has what lasts. -/
theorem mem_settled (steps : List RegistryStep) (e : Registration) :
    e ∈ (settled steps).entries ↔ Lasts steps e := by
  induction steps using List.reverseRec with
  | nil =>
      refine iff_of_false List.not_mem_nil ?_
      rintro ⟨before, after, heq, -⟩
      simp at heq
  | append_singleton steps step ih =>
      rw [lasts_concat, ← ih, settled, List.foldl_concat]
      exact mem_settle

/-- A step on a table is the same step on the registry that it stands for. -/
theorem holds_next {t : RegistryTable} (h : t.Holds r) (step : RegistryStep) :
    (next t step).Holds (settle r step) := by
  cases step with
  | register type g => exact h.register type g
  | unregister id => exact h.unregister id
  | clear => exact RegistryTable.holds_empty
  | order | visit | describe => exact h.order_snd

/-- After any steps, the table stands for the settled registry, whether or not it knows its
order. -/
theorem holds_run (steps : List RegistryStep) : (run steps).Holds (settled steps) :=
  List.foldl_rel RegistryTable.holds_empty fun step _ _ _ h => holds_next h step

/-- Registrations of different numbers all last. -/
theorem lasts_register_iff {l : List Registration}
    (hdistinct : l.Pairwise fun a b => a.type.id ≠ b.type.id) :
    Lasts (l.map fun e => register e.type e.generator) e ↔ e ∈ l := by
  induction l using List.reverseRec with
  | nil =>
      refine iff_of_false ?_ List.not_mem_nil
      rintro ⟨before, after, heq, -⟩
      simp at heq
  | append_singleton l last ih =>
      obtain ⟨hl, -, hlast⟩ := List.pairwise_append.mp hdistinct
      have hne : e ∈ l → ¬ (register last.type last.generator).Ends e.type.id := fun he h =>
        hlast e he last List.mem_cons_self h.symm
      rw [List.map_append, List.map_singleton, lasts_concat, ih hl,
        register_eq_register_iff, List.mem_append, List.mem_singleton, and_iff_left_of_imp hne,
        or_comm]

/-- A table that is made of a registry stands for it. -/
theorem holds_ofList (r : Registry) : (RegistryTable.ofList r.entries).Holds r := by
  let steps := r.entries.map fun e => register e.type e.generator
  have hrun : run steps = RegistryTable.ofList r.entries := List.foldl_map
  have hentries : (settled steps).entries = r.entries :=
    (settled steps).ascending.eq_of_mem_iff r.ascending fun e =>
      (mem_settled steps e).trans (lasts_register_iff r.distinct)
  have hholds := holds_run steps
  rw [hrun] at hholds
  exact
    { find := fun id => (hholds.find id).trans (by rw [Registry.find?, hentries, Registry.find?])
      sorted := fun ids hids =>
        (hholds.sorted ids hids).trans (by rw [Registry.order, hentries, Registry.order]) }

/-- **A table tells of what lasts.**  After any steps, with looks at the order among them, the
traversal finds the registrations that were made and not ended since, each once and strictly
ascending in the pipeline; and everything else that the table is asked, or gives when it changes,
agrees with the traversal. -/
theorem tells_run (steps : List RegistryStep) :
    let found := (run steps).visit.1
    (∀ e, e ∈ found ↔ Lasts steps e) ∧
      found.Pairwise (fun a b => a.type.Before b.type) ∧
      (found.map (·.type.id)).Nodup ∧
      (run steps).Tells found := by
  intro found
  have hholds := holds_run steps
  have hfound : found = (settled steps).entries := hholds.visit_fst
  rw [hfound]
  refine ⟨mem_settled steps, ?_, List.pairwise_map.mpr (settled steps).distinct, hholds.tells⟩
  exact List.Pairwise.imp FeatureType.key_lt_iff.mp (settled steps).ascending

end RegistryStep

end MaterialPipeline
