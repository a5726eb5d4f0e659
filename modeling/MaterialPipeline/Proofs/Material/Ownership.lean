import MaterialPipeline.Proofs.Device.Registers
import MaterialPipeline.Proofs.Material.Renderable
import MaterialPipeline.Proofs.Material.Total

/-!
# Proofs — Material — Ownership

Who owns what on the device, through the whole life of a library.

* `Library.Reached`: the libraries that come of the operations of a library, on a device that may
  be used to draw in between, and may change its mind about what it allows.
* `Library.Reached.owns`: what is live on the device is what the forms of the library hold, each
  object once, and nothing was ever let go of that was not live.
-/

namespace MaterialPipeline

open MaterialPipeline.Action

/-! ### The device between operations -/

/-- Whether a call makes or lets go of a program, a state object or a texture. -/
def Call.isManaging : Call → Bool
  | createProgram .. | destroyProgram _ | createState _ | destroyState _ | loadTexture _
  | releaseTexture _ => true
  | _ => false

/-- The device is used in other ways: it draws and has targets, or its limits change, or what it
refuses, or whether it is gone. -/
structure Device.Adjusts (d d' : Device) : Prop where
  programs : d'.programs = d.programs
  states : d'.states = d.states
  textures : d'.textures = d.textures
  calls : ∃ calls, d'.calls.toList = d.calls.toList ++ calls ∧ ∀ c ∈ calls, c.isManaging = false

/-- The device managed objects, and was set up in other ways in between. -/
inductive Device.Evolves (d : Device) : Device → Prop where
  | refl : Evolves d d
  | manages {d' d'' : Device} (h : Evolves d d') (hm : d'.Manages d'') : Evolves d d''
  | adjusts {d' d'' : Device} (h : Evolves d d') (ha : d'.Adjusts d'') : Evolves d d''

namespace Device

variable {d d' d'' : Device} {held : Multiset Object}

theorem Adjusts.refl (d : Device) : d.Adjusts d :=
  ⟨rfl, rfl, rfl, [], (List.append_nil _).symm, fun _ hc => absurd hc List.not_mem_nil⟩

theorem Adjusts.trans (h : d.Adjusts d') (h' : d'.Adjusts d'') : d.Adjusts d'' := by
  obtain ⟨calls, hcalls, hother⟩ := h.calls
  obtain ⟨calls', hcalls', hother'⟩ := h'.calls
  refine ⟨h'.programs.trans h.programs, h'.states.trans h.states, h'.textures.trans h.textures,
    calls ++ calls', ?_, fun c hc => ?_⟩
  · rw [hcalls', hcalls, List.append_assoc]
  · exact (List.mem_append.mp hc).elim (hother c) (hother' c)

theorem adjusts_issue {c : Call} (hc : c.isManaging = false) : d.Adjusts (d.issue c) := by
  refine ⟨?_, ?_, ?_, [c], by rw [calls_issue, Array.toList_push], by simpa using hc⟩ <;>
    cases c <;> first | rfl | cases hc

theorem Adjusts.count_ending_eq (ha : d.Adjusts d') (o : Object) :
    d'.calls.count o.ending = d.calls.count o.ending := by
  obtain ⟨calls, hcalls, hother⟩ := ha.calls
  have hnone : o.ending ∉ calls := by
    intro ho
    have hending := hother _ ho
    cases o <;> cases hending
  rw [← Array.count_toList, hcalls, List.count_append, List.count_eq_zero.mpr hnone, Nat.add_zero,
    Array.count_toList]

theorem Owns.adjusts (h : d.Owns held) (ha : d.Adjusts d') : d'.Owns held := by
  refine h.congr (fun o => ?_) fun o => ?_
  · cases o with
    | program h => rw [Created, Created, ha.programs]
    | state h => rw [Created, Created, ha.states]
    | texture h => rw [Created, Created, ha.textures]
  · rw [← Array.count_pos_iff, ← Array.count_pos_iff, ha.count_ending_eq]

theorem Evolves.count_ending_le (h : d.Evolves d') (o : Object) :
    d'.calls.count o.ending ≤ max 1 (d.calls.count o.ending) := by
  induction h with
  | refl => exact Nat.le_max_right ..
  | manages _ hm ih =>
      exact (hm.count_ending_le o).trans (max_le (Nat.le_max_left ..) ih)
  | adjusts _ ha ih => rwa [ha.count_ending_eq]

theorem Adjusts.grows (ha : d.Adjusts d') : d.Grows d' :=
  ⟨by rw [ha.states], by rw [ha.textures]⟩

end Device

theorem Session.adjusts_applyAll (s : Session) (events : List Event)
    (h : ∀ c ∈ callsOf events, c.isManaging = false) :
    s.device.Adjusts (s.applyAll events).device := by
  induction events generalizing s with
  | nil =>
      exact ⟨rfl, rfl, rfl, [], (List.append_nil _).symm, fun _ hc => absurd hc List.not_mem_nil⟩
  | cons e rest ih =>
      cases e with
      | note n => exact ih (s.apply (.note n)) h
      | call c =>
          obtain ⟨hc, hrest⟩ := List.forall_mem_cons.mp h
          exact (Device.adjusts_issue hc).trans (ih (s.apply (.call c)) hrest)

namespace Library

variable {l l' : Library} {s s' s₀ : Session} {id : Slot} {i : Instance}

/-! ### The cells of a library -/

theorem alike_setInstance (h : l.setInstance id i = .ok l') : l.instances.Alike l'.instances := by
  unfold setInstance at h
  cases hm : l.instances.modify id fun _ => i with
  | error fault =>
      rw [hm] at h
      cases h
  | ok instances =>
      rw [hm] at h
      cases h
      exact SlotSet.alike_modify hm

theorem alike_setForm {place : FormPlace} {f : Form} (h : l.setForm place f = .ok l') :
    l.instances.Alike l'.instances := by
  cases place with
  | warning =>
      cases h
      exact .refl _
  | own r =>
      cases hi : l.instance? r.id with
      | error fault =>
          rw [setForm, hi] at h
          cases h
      | ok found =>
          cases found with
          | none =>
              rw [setForm, hi] at h
              cases h
              exact .refl _
          | some i =>
              rw [setForm_own hi] at h
              exact alike_setInstance h

theorem occupied_of_mapCells {f : Instance → Action Instance} {cells cells' : List (Cell Instance)}
    (h : (mapCells f cells).run s = .ok (cells', s')) :
    cells'.map (·.value.isSome) = cells.map (·.value.isSome) := by
  induction cells generalizing cells' s with
  | nil =>
      cases h
      rfl
  | cons cell cells ih =>
      rw [mapCells] at h
      obtain ⟨generation, value⟩ := cell
      cases value with
      | none =>
          obtain ⟨value, s₁, hvalue, h⟩ := of_run_bind h
          cases hvalue
          obtain ⟨rest, s₂, hrest, h⟩ := of_run_bind h
          cases h
          rw [List.map_cons, List.map_cons, ih hrest]
      | some i =>
          obtain ⟨value, s₁, hvalue, h⟩ := of_run_bind h
          obtain ⟨rest, s₂, hrest, h⟩ := of_run_bind h
          rw [map_eq_pure_bind] at hvalue
          obtain ⟨i', _, -, hvalue⟩ := of_run_bind hvalue
          cases hvalue
          cases h
          rw [List.map_cons, List.map_cons, ih hrest]
          rfl

theorem alike_mapInstances {f : Instance → Action Instance}
    (h : (l.mapInstances f).run s = .ok (l', s')) : l.instances.Alike l'.instances := by
  obtain ⟨cells, _, hcells, h⟩ := of_run_bind h
  cases h
  exact ⟨rfl, occupied_of_mapCells hcells⟩

theorem alike_reset (h : l.reset.run s = .ok (l', s')) : l.instances.Alike l'.instances := by
  obtain ⟨l₁, _, hl₁, h⟩ := of_run_bind h
  obtain ⟨warning, _, -, h⟩ := of_run_bind h
  cases h
  have halike : l.instances.Alike l₁.instances := alike_mapInstances hl₁
  exact halike

theorem alike_flush (h : l.flush.run s = .ok (l', s')) : l.instances.Alike l'.instances := by
  obtain ⟨l₁, _, hl₁, h⟩ := of_run_bind h
  obtain ⟨_, _, -, h⟩ := of_run_bind h
  cases h
  exact alike_reset hl₁

theorem alike_deviceLost (h : l.deviceLost.run s = .ok (l', s')) :
    l.instances.Alike l'.instances := by
  obtain ⟨_, _, -, h⟩ := of_run_bind h
  exact alike_reset h

theorem alike_setConfig {config : Config} (h : (l.setConfig config).run s = .ok (l', s')) :
    l.instances.Alike l'.instances := by
  unfold setConfig at h
  split at h
  · cases h
    exact .refl _
  · obtain ⟨l₁, _, hl₁, h⟩ := of_run_bind h
    exact (alike_mapInstances hl₁).trans (alike_flush h)

theorem alike_addHook {v : Variant} {r : Except MaterialError Unit}
    (h : (l.addHook id v).run s = .ok ((r, l'), s')) : l.instances.Alike l'.instances := by
  obtain ⟨found, _, hfound, h⟩ := of_run_bind h
  cases found with
  | none =>
      cases h
      exact .refl _
  | some i =>
      obtain ⟨_, _, -, h⟩ := of_run_bind h
      obtain ⟨l₁, _, hl₁, h⟩ := of_run_bind h
      cases h
      exact alike_setInstance (of_run_lift hl₁).2

theorem alike_build {r : Except MaterialError Unit}
    (h : (l.build id).run s = .ok ((r, l'), s')) : l.instances.Alike l'.instances := by
  obtain ⟨found, _, hfound, h⟩ := of_run_bind h
  cases found with
  | none =>
      cases h
      exact .refl _
  | some i =>
      obtain ⟨⟨result, form⟩, _, -, h⟩ := of_run_bind h
      cases result with
      | error error =>
          obtain ⟨l₁, _, hl₁, h⟩ := of_run_bind h
          cases h
          exact alike_setInstance (of_run_lift hl₁).2
      | ok _ =>
          obtain ⟨_, _, -, h⟩ := of_run_bind h
          obtain ⟨l₁, _, hl₁, h⟩ := of_run_bind h
          cases h
          exact alike_setInstance (of_run_lift hl₁).2

theorem alike_renderable {r : MaterialRef} {found : Option (FormPlace × Form)}
    (h : (l.renderable r).run s = .ok ((found, l'), s')) : l.instances.Alike l'.instances := by
  obtain ⟨form, _, hform, h⟩ := of_run_bind h
  cases form with
  | none =>
      cases h
      exact .refl _
  | some f =>
      obtain ⟨⟨ready, f'⟩, _, -, h⟩ := of_run_bind h
      obtain ⟨l₁, _, hl₁, h⟩ := of_run_bind h
      have halike := alike_setForm (of_run_lift hl₁).2
      cases ready with
      | true =>
          cases h
          exact halike
      | false =>
          obtain ⟨_, _, -, h⟩ := of_run_bind h
          cases h
          exact halike

/-! ### The life of a library -/

/-- The libraries that come of a new one by its operations, from the session `s₀`, while passes of
its forms are set up, and the device is used in other ways, in between. -/
inductive Reached (s₀ : Session) : Library → Session → Prop where
  | new {registry : Registry} {config : Config} {l : Library} {s : Session}
      (hrun : (new registry config).run s₀ = .ok (l, s)) : Reached s₀ l s
  | create {l l' : Library} {s s' : Session} {m : Material} {format : VertexFormat} {id : Slot}
      (h : Reached s₀ l s) (hrun : (l.create m format).run s = .ok ((id, l'), s')) :
      Reached s₀ l' s'
  | addHook {l l' : Library} {s s' : Session} {id : Slot} {v : Variant}
      {r : Except MaterialError Unit} (h : Reached s₀ l s)
      (hrun : (l.addHook id v).run s = .ok ((r, l'), s')) : Reached s₀ l' s'
  | build {l l' : Library} {s s' : Session} {id : Slot} {r : Except MaterialError Unit}
      (h : Reached s₀ l s) (hrun : (l.build id).run s = .ok ((r, l'), s')) : Reached s₀ l' s'
  | renderable {l l' : Library} {s s' : Session} {r : MaterialRef}
      {found : Option (FormPlace × Form)} (h : Reached s₀ l s)
      (hrun : (l.renderable r).run s = .ok ((found, l'), s')) : Reached s₀ l' s'
  | setConfig {l l' : Library} {s s' : Session} {config : Config} (h : Reached s₀ l s)
      (hrun : (l.setConfig config).run s = .ok (l', s')) : Reached s₀ l' s'
  | flush {l l' : Library} {s s' : Session} (h : Reached s₀ l s)
      (hrun : l.flush.run s = .ok (l', s')) : Reached s₀ l' s'
  | deviceLost {l l' : Library} {s s' : Session} (h : Reached s₀ l s)
      (hrun : l.deviceLost.run s = .ok (l', s')) : Reached s₀ l' s'
  | destroy {l l' : Library} {s s' : Session} {id : Slot} {r : Except MaterialError Unit}
      (h : Reached s₀ l s) (hrun : (l.destroy id).run s = .ok ((r, l'), s')) : Reached s₀ l' s'
  | proceed {l l' : Library} {s : Session} {place : FormPlace} {f : Form} {current : Option Nat}
      (h : Reached s₀ l s) (hf : l.At place f)
      (hset : l.setForm place { f with current := current } = .ok l') : Reached s₀ l' s
  | adjusts {l : Library} {s s' : Session} (h : Reached s₀ l s)
      (ha : s.device.Adjusts s'.device) : Reached s₀ l s'

theorem Reached.valid (h : Reached s₀ l s) : l.instances.Valid := by
  induction h with
  | new hrun =>
      obtain ⟨⟨result, form⟩, _, -, hrun⟩ := of_run_bind hrun
      cases result with
      | ok _ =>
          cases hrun
          exact SlotSet.valid_empty
      | error error =>
          obtain ⟨_, _, -, hrun⟩ := of_run_bind hrun
          cases hrun
          exact SlotSet.valid_empty
  | create _ hrun ih =>
      obtain ⟨fresh, _, -, hrun⟩ := of_run_bind hrun
      cases hrun
      exact ih.push fresh
  | destroy _ hrun ih =>
      obtain ⟨⟨removed, instances⟩, _, hremove, hrun⟩ := of_run_bind hrun
      have hvalid := ih.remove (of_run_lift hremove).2
      cases removed with
      | none =>
          cases hrun
          exact ih
      | some i =>
          obtain ⟨_, _, -, hrun⟩ := of_run_bind hrun
          cases hrun
          exact hvalid
  | addHook _ hrun ih => exact (alike_addHook hrun).valid ih
  | build _ hrun ih => exact (alike_build hrun).valid ih
  | renderable _ hrun ih => exact (alike_renderable hrun).valid ih
  | setConfig _ hrun ih => exact (alike_setConfig hrun).valid ih
  | flush _ hrun ih => exact (alike_flush hrun).valid ih
  | deviceLost _ hrun ih => exact (alike_deviceLost hrun).valid ih
  | proceed _ _ hset ih => exact (alike_setForm hset).valid ih
  | adjusts _ _ ih => exact ih

/-- What holds between a library and its device at any time: its forms, and `others`, hold what is
live, each object once; every form that is built holds what a build returned. -/
structure Accounts (start : Device) (others : Multiset Object) (l : Library) (d : Device) :
    Prop where
  evolves : start.Evolves d
  owns : d.Owns (l.holdings.bind Holding.objects + others)
  sound : ∀ h ∈ l.holdings, h.Sound d

/-- What an operation trades, keeps the accounts in order. -/
theorem Accounts.trades {start : Device} {others : Multiset Object} {α : Type} {x : Action α}
    {a : α} {after : α → Multiset Holding}
    (hx : ∀ start, Trades (Device.Books start others) x l.holdings after)
    (hafter : after a = l'.holdings) (h : Accounts start others l s.device)
    (hrun : x.run s = .ok (a, s')) : Accounts start others l' s'.device := by
  have hbooks := (hx s.device).run 0 hrun ⟨.refl, by rw [add_zero]; exact h.owns, by
    rw [add_zero]; exact h.sound⟩
  rw [add_zero, hafter] at hbooks
  exact ⟨h.evolves.manages hbooks.managed, hbooks.owns, hbooks.sound⟩

theorem Reached.accounts {others : Multiset Object} (h₀ : s₀.device.Owns others)
    (h : Reached s₀ l s) : Accounts s₀.device others l s.device := by
  induction h with
  | @new registry config l s hrun =>
      have htrades : Trades (Device.Books s₀.device others) (Library.new registry config) 0
        holdings := trades_new _ _
      have hbooks := htrades.run 0 hrun
        ⟨.refl, by rwa [add_zero, Multiset.zero_bind, zero_add], fun h hh =>
          absurd hh (Multiset.notMem_zero h)⟩
      rw [add_zero] at hbooks
      exact ⟨.manages .refl hbooks.managed, hbooks.owns, hbooks.sound⟩
  | create h hrun ih => exact ih.trades (fun _ => trades_create h.valid _ _) rfl hrun
  | addHook _ hrun ih => exact ih.trades (fun _ => trades_addHook _ _ _) rfl hrun
  | build _ hrun ih => exact ih.trades (fun _ => trades_build _ _) rfl hrun
  | renderable _ hrun ih => exact ih.trades (fun _ => trades_renderable _ _) rfl hrun
  | setConfig _ hrun ih => exact ih.trades (fun _ => trades_setConfig _ _) rfl hrun
  | flush _ hrun ih => exact ih.trades (fun _ => trades_flush _) rfl hrun
  | deviceLost _ hrun ih => exact ih.trades (fun _ => trades_deviceLost _) rfl hrun
  | destroy _ hrun ih => exact ih.trades (fun _ => trades_destroy _ _) rfl hrun
  | @proceed l l' _ _ f _ _ hf hset ih =>
      -- A form holds the same, whatever pass is set up.
      obtain ⟨rest, hl, hput⟩ := holdings_split_at hf
      obtain ⟨l₁, hl₁, hholdings⟩ := hput _
      cases hl₁.symm.trans hset
      have hsame : l'.holdings = l.holdings := hholdings.trans hl.symm
      exact ⟨ih.evolves, hsame ▸ ih.owns, hsame ▸ ih.sound⟩
  | adjusts _ ha ih =>
      exact ⟨ih.evolves.adjusts ha, ih.owns.adjusts ha, fun h hh => (ih.sound h hh).mono ha.grows⟩

/-- Asking for a form manages objects, and does nothing else to the device. -/
theorem Reached.manages_renderable {others : Multiset Object} {r : MaterialRef}
    {found : Option (FormPlace × Form)} (h₀ : s₀.device.Owns others) (h : Reached s₀ l s)
    (hrun : (l.renderable r).run s = .ok ((found, l'), s')) : s.device.Manages s'.device := by
  have haccounts := h.accounts h₀
  have htrades : Trades (Device.Books s.device others) (l.renderable r) l.holdings
      fun r => r.2.holdings := trades_renderable l r
  have hbooks := htrades.run 0 hrun
    ⟨.refl, by rw [add_zero]; exact haccounts.owns, by rw [add_zero]; exact haccounts.sound⟩
  exact hbooks.managed

/-- **What is live is what is held.**  At any time, the programs, state objects and textures that
are live on the device, besides the `others` that were there before the library, are those of the
built materials that its forms hold, each object held once.  Nothing was let go of that was not
live, or twice, and a build that fails leaves no object behind. -/
theorem Reached.owns_held {others : Multiset Object} (h₀ : s₀.device.Owns others)
    (h : Reached s₀ l s) :
    (l.holdings.bind Holding.objects + others).Nodup ∧
      (∀ o, s.device.Live o ↔ o ∈ l.holdings.bind Holding.objects + others) ∧
      s₀.device.Evolves s.device ∧
      (∀ o : Object, s.device.calls.count o.ending ≤ max 1 (s₀.device.calls.count o.ending)) ∧
      ∀ context m format variant error s',
        (BuiltMaterial.build context m format variant).run s = .ok (.error error, s') →
          s.device.Manages s'.device ∧ ∀ o, s'.device.Live o ↔ s.device.Live o := by
  have haccounts := h.accounts h₀
  refine ⟨haccounts.owns.nodup, haccounts.owns.live_iff, haccounts.evolves,
    haccounts.evolves.count_ending_le, ?_⟩
  intro context m format variant error s' hrun
  have htrades : Trades s.device.Ledger (BuiltMaterial.build context m format variant) 0
      BuiltMaterial.result := BuiltMaterial.trades_build context m format variant
  have hledger := htrades.run
    (l.holdings.bind Holding.objects + others) hrun ⟨.refl, by rw [zero_add]; exact haccounts.owns⟩
  refine ⟨hledger.1, fun o => ?_⟩
  rw [hledger.2.live_iff, haccounts.owns.live_iff]
  exact Multiset.mem_add.trans (or_iff_right (Multiset.notMem_zero o))

/-- A device starts without objects, and may be gone after a library was made on it. -/
theorem owns_held_of_lost_device : ∃ l s, ({} : Device).Owns 0 ∧ Reached {} l s ∧
    s.device.lost = true ∧ (l.holdings.bind Holding.objects + 0).Nodup ∧
      ∀ o, s.device.Live o ↔ o ∈ l.holdings.bind Holding.objects + 0 := by
  obtain ⟨l, s, hnew⟩ := exists_run_new {} {}
  have hempty := Device.owns_default
  have hlost : Reached {} l { s with device := { s.device with lost := true } } :=
    .adjusts (.new hnew) ⟨rfl, rfl, rfl, [], (List.append_nil _).symm, fun _ hc =>
      absurd hc List.not_mem_nil⟩
  have howns := hlost.owns_held hempty
  exact ⟨l, _, hempty, hlost, rfl, howns.1, howns.2.1⟩

end Library

end MaterialPipeline
