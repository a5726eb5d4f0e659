import MaterialPipeline.Proofs.Material.Configured
import MaterialPipeline.Proofs.Storage.Turnover

/-!
# Proofs — Material — Tenants

Whom a handle stands for.  Every material that is taken into use is a *tenant*, and stays so in the
records when it has left; its handle is never given to another.

* `Library.Retains`: every instance stays in its cell, and stands for what it stood for.  Asking for a
form and setting a configuration do this.
* `Library.Hosts`: the tenants so far, and who has left.  `Library.Hosts.create`,
`Library.Hosts.destroy` and `Library.Hosts.retains` keep it.
* `Library.InUse.holding_of_gives`: what is given for a handle was built of its instance, or is the
stand-in.
-/

namespace MaterialPipeline.Library

open MaterialPipeline.Action

variable {l l' : Library} {s s' : Session} {r : MaterialRef} {id : Slot} {i : Instance}
  {place : FormPlace} {f : Form} {found : Option (FormPlace × Form)}

/-! ### Instances that stay -/

/-- Every instance stays in its cell, and stands for what it stood for. -/
structure Retains (l l' : Library) : Prop where
  layout : l'.instances.layout = l.instances.layout
  subject : ∀ id i, l.instance? id = .ok (some i) →
    ∃ i', l'.instance? id = .ok (some i') ∧ i'.form.subject = i.form.subject

theorem Retains.refl (l : Library) : l.Retains l :=
  ⟨rfl, fun _ i hi => ⟨i, hi, rfl⟩⟩

theorem Retains.trans {l₁ : Library} (h : l.Retains l₁) (h' : l₁.Retains l') : l.Retains l' := by
  refine ⟨h'.layout.trans h.layout, fun id i hi => ?_⟩
  obtain ⟨i₁, hi₁, hsubject⟩ := h.subject id i hi
  obtain ⟨i', hi', hsubject'⟩ := h'.subject id i₁ hi₁
  exact ⟨i', hi', hsubject'.trans hsubject⟩

theorem layout_setInstance (h : l.setInstance id i = .ok l') :
    l'.instances.layout = l.instances.layout := by
  unfold setInstance at h
  cases hm : l.instances.modify id fun _ => i with
  | error fault =>
      rw [hm] at h
      cases h
  | ok instances =>
      rw [hm] at h
      cases h
      exact SlotSet.layout_modify hm

theorem layout_setForm (hf : l.At place f) {f' : Form} (hset : l.setForm place f' = .ok l') :
    l'.instances.layout = l.instances.layout := by
  cases place with
  | warning =>
      cases hset
      rfl
  | own r =>
      obtain ⟨i, hi, -⟩ := form?_eq_some hf
      rw [setForm_own hi] at hset
      exact layout_setInstance hset

theorem layout_renderable (hrun : (l.renderable r).run s = .ok ((found, l'), s')) :
    l'.instances.layout = l.instances.layout := by
  obtain ⟨-, -, rfl, -⟩ | ⟨f, f', hf, -, hset, -⟩ | ⟨f, f', _, l₁, _, w, hf, -, hset, -, rfl, -⟩ :=
    renderable_cases hrun
  · rfl
  · exact layout_setForm hf hset
  · show l₁.instances.layout = _
    exact layout_setForm hf hset

theorem layout_configured (l : Library) (config : Config) :
    (l.configured config).instances.layout = l.instances.layout := by
  unfold configured
  split
  · rfl
  · exact (SlotSet.layout_mapValues ..).trans (SlotSet.layout_mapValues ..)

/-- Nothing comes of it if the handle is stale; otherwise the instance is taken out. -/
theorem destroy_cases {result : Except MaterialError Unit}
    (hrun : (l.destroy id).run s = .ok ((result, l'), s')) :
    result = .error .unknownInstance ∧ l' = l ∨
      ∃ i instances, l.instances.remove id = .ok (some i, instances) ∧ result = .ok () ∧
        l' = { l with instances := instances } := by
  obtain ⟨⟨removed, instances⟩, _, hremove, hrun⟩ := of_run_bind hrun
  cases removed with
  | none =>
      cases hrun
      exact .inl ⟨rfl, rfl⟩
  | some i =>
      obtain ⟨_, _, -, hrun⟩ := of_run_bind hrun
      cases hrun
      exact .inr ⟨i, instances, (of_run_lift hremove).2, rfl, rfl⟩

theorem size_destroy {result : Except MaterialError Unit}
    (hrun : (l.destroy id).run s = .ok ((result, l'), s')) :
    l'.instances.cells.size = l.instances.cells.size := by
  obtain ⟨-, rfl⟩ | ⟨i, instances, hremove, -, rfl⟩ := destroy_cases hrun
  · rfl
  · exact SlotSet.size_remove hremove

/-- An instance that stays in its cell stands for what it stood for. -/
theorem Follows.retains {deed : Deed} (h : Follows deed l l')
    (hlayout : l'.instances.layout = l.instances.layout) : l.Retains l' := by
  refine ⟨hlayout, fun id i hi => ?_⟩
  have halike := h.own id
  have hsome : (l'.instance? id).map Option.isSome = (l.instance? id).map Option.isSome :=
    SlotSet.isSome_find_of_layout hlayout id
  rw [hi] at halike hsome
  generalize l'.instance? id = x at halike hsome
  cases halike with
  | ok hchange =>
      cases hchange with
      | same => exact ⟨i, rfl, rfl⟩
      | leaves _ => cases hsome
      | becomes hbecomes => exact ⟨_, rfl, hbecomes.subject⟩

theorem retains_renderable (hvalid : l.instances.Valid)
    (hrun : (l.renderable r).run s = .ok ((found, l'), s')) : l.Retains l' :=
  (follows_ask hvalid hrun).retains (layout_renderable hrun)

theorem retains_setConfig {config : Config} (hvalid : l.instances.Valid)
    (hrun : (l.setConfig config).run s = .ok (l', s')) : l.Retains l' := by
  refine ((Step.setConfig hrun).follows hvalid).retains ?_
  rw [(l.yields_setConfig config).eq hrun]
  exact l.layout_configured config

/-! ### Libraries at rest -/

theorem Idle.destroy {result : Except MaterialError Unit} (hl : l.Idle)
    (hrun : (l.destroy id).run s = .ok ((result, l'), s')) : l'.Idle := by
  obtain ⟨-, rfl⟩ | ⟨i, instances, hremove, -, rfl⟩ := destroy_cases hrun
  · exact hl
  · obtain ⟨n, hlocate⟩ := SlotSet.locate_of_remove hremove
    obtain ⟨rest, hvalues, -, instances', hremove', hrest⟩ := SlotSet.values_of_locate hlocate
    cases hremove.symm.trans hremove'
    refine ⟨hl.warning, fun j hj => hl.instances j ?_⟩
    rw [hvalues]
    exact Multiset.mem_cons_of_mem (hrest ▸ hj)

/-- Nothing is set up of what is forgotten. -/
theorem idle_blank (l : Library) : l.blank.Idle := by
  refine ⟨rfl, fun i hi => ?_⟩
  obtain ⟨i₀, -, rfl⟩ := Multiset.mem_map.mp (SlotSet.values_mapValues .. ▸ hi)
  intro v f hf
  rw [Instance.formOf_blank] at hf
  obtain ⟨f₀, -, rfl⟩ := Option.map_eq_some_iff.mp hf
  rfl

theorem Idle.setConfig {config : Config} (hl : l.Idle)
    (hrun : (l.setConfig config).run s = .ok (l', s')) : l'.Idle := by
  rw [(l.yields_setConfig config).eq hrun]
  unfold configured
  split
  · exact hl
  · exact idle_blank _

/-! ### Tenants -/

/-- A material that was taken into use, and its handle. -/
structure Tenant where
  id : Slot
  material : Material
  format : VertexFormat

/-- The handles that are given back when a material is taken out of use, with this result. -/
def givenBack (id : Slot) : Except MaterialError Unit → List Slot
  | .ok () => [id]
  | .error _ => []

/-- The tenants of a library since it was new, and the handles that were given back.  Each of the
others finds the instance of its tenant. -/
structure Hosts (tenants : List Tenant) (left : List Slot) (l : Library) : Prop where
  numbered : l.instances.Numbered (tenants.map Tenant.id)
  known : left ⊆ tenants.map Tenant.id
  present : ∀ t ∈ tenants, t.id ∉ left → ∃ i, l.instance? t.id = .ok (some i) ∧
    i.form.subject = (t.material, t.format, none)
  gone : ∀ id ∈ left, l.instance? id = .ok none

namespace Hosts

variable {tenants : List Tenant} {left : List Slot}

theorem new {registry : Registry} {config : Config}
    (hrun : (Library.new registry config).run s = .ok (l, s')) : Hosts [] [] l where
  numbered := (of_run_new hrun).2.1 ▸ SlotSet.numbered_empty
  known := List.nil_subset _
  present := fun _ ht => absurd ht List.not_mem_nil
  gone := fun _ hid => absurd hid List.not_mem_nil

theorem retains (h : Hosts tenants left l) (hretains : l.Retains l') : Hosts tenants left l' where
  numbered := h.numbered.of_layout hretains.layout
  known := h.known
  present := by
    intro t ht hstays
    obtain ⟨i, hi, hsubject⟩ := h.present t ht hstays
    obtain ⟨i', hi', hsubject'⟩ := hretains.subject t.id i hi
    exact ⟨i', hi', hsubject'.trans hsubject⟩
  gone := fun id hid => SlotSet.find_none_of_layout hretains.layout (h.gone id hid)

/-- A new tenant is given a handle that nobody had. -/
theorem create (h : Hosts tenants left l) (m : Material) (format : VertexFormat)
    (hroom : (l.created m format).2.instances.cells.size < 2 ^ 32)
    (hcount : ∀ position, SlotSet.tenancies
      ((tenants ++ [Tenant.mk (l.created m format).1 m format]).map Tenant.id) position ≤ 2 ^ 32) :
    Hosts (tenants ++ [⟨(l.created m format).1, m, format⟩]) left (l.created m format).2 := by
  rw [List.map_append] at hcount
  -- As the handle is new, neither a tenant that is there nor one that left is touched.
  have hfresh : (l.created m format).1 ∉ tenants.map Tenant.id := h.numbered.fresh hroom hcount
  have hothers : ∀ id, id ≠ (l.created m format).1 →
      (l.created m format).2.instance? id = l.instance? id := fun id hid =>
    SlotSet.find_push_of_ne h.numbered.valid hroom hid
  have hnew : (l.created m format).2.instance? (l.created m format).1 =
      .ok (some ((Instance.new m format).attached l.context.config)) :=
    SlotSet.find_pushed h.numbered.valid hroom
  exact {
    numbered := by
      rw [List.map_append]
      exact h.numbered.push hroom
    known := by
      rw [List.map_append]
      exact List.Subset.trans h.known (List.subset_append_left ..)
    present := by
      intro t ht hstays
      rcases List.mem_append.mp ht with ht | ht
      · have hne : t.id ≠ (l.created m format).1 := fun he =>
          hfresh (he ▸ List.mem_map_of_mem ht)
        rw [hothers t.id hne]
        exact h.present t ht hstays
      · obtain rfl := List.mem_singleton.mp ht
        exact ⟨_, hnew, rfl⟩
    gone := by
      intro id hid
      have hne : id ≠ (l.created m format).1 := fun he => hfresh (he ▸ h.known hid)
      rw [hothers id hne]
      exact h.gone id hid }

/-- A tenant that leaves gives the handle back. -/
theorem destroy (h : Hosts tenants left l) {result : Except MaterialError Unit}
    (hrun : (l.destroy id).run s = .ok ((result, l'), s')) :
    Hosts tenants (left ++ givenBack id result) l' := by
  obtain ⟨rfl, rfl⟩ | ⟨i, instances, hremove, rfl, rfl⟩ := destroy_cases hrun
  · rw [givenBack, List.append_nil]
    exact h
  · obtain ⟨hsome, hnone⟩ := SlotSet.find_of_remove hremove
    have hothers : ∀ id', id' ≠ id → instances.find id' = l.instances.find id' := fun _ hid =>
      SlotSet.find_remove_of_ne hremove hid
    exact {
      numbered := h.numbered.remove hremove
      known := by
        refine List.append_subset.mpr ⟨h.known, ?_⟩
        exact List.cons_subset.mpr ⟨h.numbered.mem_of_find hsome, List.nil_subset _⟩
      present := by
        intro t ht hstays
        rw [List.mem_append, not_or] at hstays
        have hne : t.id ≠ id := fun he => hstays.2 (he ▸ List.mem_singleton_self t.id)
        obtain ⟨i', hi', hsubject⟩ := h.present t ht hstays.1
        exact ⟨i', (hothers t.id hne).trans hi', hsubject⟩
      gone := by
        intro id' hid'
        by_cases he : id' = id
        · exact he ▸ hnone
        · have hid' := (List.mem_append.mp hid').resolve_right (he ∘ List.mem_singleton.mp)
          exact (hothers id' he).trans (h.gone id' hid') }

end Hosts

/-! ### What is given -/

/-- **What is given for a handle** is built of its instance, for the hook that is asked for, or is the
stand-in; and there is an instance. -/
theorem InUse.holding_of_gives {b : BuiltMaterial} (hl : l.InUse) (h : l.Gives r (some b)) :
    ∃ i, l.instance? r.id = .ok (some i) ∧
      (⟨i.form.material, i.form.format, r.hook, b⟩ ∈ l.holdings ∨
        ⟨.warning, .positionNormalUv, none, b⟩ ∈ l.holdings) := by
  obtain ⟨found, hb, hgiven⟩ := h
  obtain ⟨⟨place, f⟩, rfl, hb⟩ := Option.bind_eq_some_iff.mp hb
  have hb : f.built = some b := hb
  have hrun := hgiven {}
  have hat := (at_of_renderable hrun).1
  have hheld : ⟨f.material, f.format, f.variant, b⟩ ∈ l.holdings := by
    obtain ⟨rest, hholdings, -⟩ := holdings_split_at hat
    rw [hholdings, Form.holdings, hb]
    exact Multiset.mem_add.mpr (.inl (Multiset.mem_singleton_self _))
  have hinstance : ∃ f₀, l.At (.own r) f₀ ∧ (place = .own r ∨ place = .warning) := by
    obtain ⟨-, hfound, -⟩ | ⟨f₀, f₁, hf₀, -, -, hfound⟩ |
      ⟨f₀, f₁, _, l₁, ready, w, hf₀, -, -, -, -, hfound⟩ := renderable_cases hrun
    · cases hfound
    · cases hfound
      exact ⟨f₀, hf₀, .inl rfl⟩
    · cases ready with
      | false => cases hfound
      | true =>
          cases hfound
          exact ⟨f₀, hf₀, .inr rfl⟩
  obtain ⟨f₀, hf₀, hplace⟩ := hinstance
  obtain ⟨i, hi, -⟩ := form?_eq_some hf₀
  refine ⟨i, hi, ?_⟩
  have hsubject := hl.inForce.subject_at hat
  rcases hplace with rfl | rfl
  · left
    injection hsubject.unique (.own hi) with hmaterial hsame
    injection hsame with hformat hvariant
    rwa [hmaterial, hformat, hvariant]
  · right
    injection hsubject.unique .warning with hmaterial hsame
    injection hsame with hformat hvariant
    rwa [hmaterial, hformat, hvariant]

namespace Hosts

variable {tenants : List Tenant} {left : List Slot}

/-- Handles of tenants, stale or not, name positions. -/
theorem exists_position (h : Hosts tenants left l) (hid : id ∈ tenants.map Tenant.id) :
    ∃ position, id.position = .ok position := by
  obtain ⟨position, hposition, -⟩ := h.numbered.handles id hid
  exact ⟨position, hposition⟩

/-- What is given for a tenant is built of its material, or is the stand-in, and the tenant has not
left. -/
theorem holding_of_gives (h : Hosts tenants left l) {b : BuiltMaterial} (hl : l.InUse)
    (hgives : l.Gives r (some b)) : r.id ∉ left ∧
      ((∀ t ∈ tenants, t.id = r.id → ⟨t.material, t.format, r.hook, b⟩ ∈ l.holdings) ∨
        ⟨.warning, .positionNormalUv, none, b⟩ ∈ l.holdings) := by
  obtain ⟨i, hi, hheld⟩ := hl.holding_of_gives hgives
  have hstays : r.id ∉ left := fun hleft => nomatch hi.symm.trans (h.gone r.id hleft)
  refine ⟨hstays, hheld.imp_left fun hheld t ht hid => ?_⟩
  obtain ⟨i', hi', hsubject⟩ := h.present t ht (hid ▸ hstays)
  cases hi.symm.trans (hid ▸ hi')
  injection hsubject with hmaterial hsame
  injection hsame with hformat
  rwa [hmaterial, hformat] at hheld

end Hosts

end MaterialPipeline.Library
