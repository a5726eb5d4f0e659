import MaterialPipeline.Material.Library
import MaterialPipeline.Proofs.Material.Holdings
import MaterialPipeline.Proofs.Storage.Slots

/-!
# Proofs — Material — Stock

What a library holds on the device: the holdings of the stand-in and of every instance.  Each
operation of the library trades what the library holds for what the new library holds.  -/

namespace MaterialPipeline.Library

open MaterialPipeline.Action

variable {start : Device} {others : Multiset Object} {l l' : Library} {id : Slot} {i : Instance}

/-- What a library holds. -/
def holdings (l : Library) : Multiset Holding :=
  l.warning.holdings + l.instances.values.bind Instance.holdings

/-! ### One instance, one form -/

/-- One instance among the others. -/
theorem holdings_split (hi : l.instance? id = .ok (some i)) : ∃ rest,
    l.holdings = i.holdings + rest ∧
      ∀ i', ∃ l', l.setInstance id i' = .ok l' ∧ l'.holdings = i'.holdings + rest := by
  obtain ⟨n, hlocate⟩ := SlotSet.locate_of_find hi
  obtain ⟨rest, hvalues, hmodify, -⟩ := SlotSet.values_of_locate hlocate
  refine ⟨l.warning.holdings + rest.bind Instance.holdings, ?_, fun i' => ?_⟩
  · rw [holdings, hvalues, Multiset.cons_bind]
    exact add_left_comm ..
  · obtain ⟨instances, hset, hvalues'⟩ := hmodify fun _ => i'
    refine ⟨{ l with instances := instances }, ?_, ?_⟩
    · rw [setInstance, hset]
      rfl
    · rw [holdings, hvalues', Multiset.cons_bind]
      exact add_left_comm ..

theorem form?_eq_some {r : MaterialRef} {f : Form} (hf : l.form? r = .ok (some f)) :
    ∃ i, l.instance? r.id = .ok (some i) ∧ i.formOf r.hook = some f := by
  unfold form? at hf
  cases hi : l.instance? r.id with
  | error fault =>
      rw [hi] at hf
      cases hf
  | ok i =>
      rw [hi] at hf
      injection hf with hf
      obtain ⟨i, rfl, hf⟩ := Option.bind_eq_some_iff.mp hf
      exact ⟨i, rfl, hf⟩

theorem setForm_own {r : MaterialRef} (hi : l.instance? r.id = .ok (some i)) (f : Form) :
    l.setForm (.own r) f = l.setInstance r.id (i.setForm r.hook f) := by
  rw [setForm, hi]
  rfl

/-- One form among the others. -/
theorem holdings_split_form {r : MaterialRef} {f : Form} (hf : l.form? r = .ok (some f)) : ∃ rest,
    l.holdings = f.holdings + rest ∧
      ∀ f', ∃ l', l.setForm (.own r) f' = .ok l' ∧ l'.holdings = f'.holdings + rest := by
  obtain ⟨i, hi, hof⟩ := form?_eq_some hf
  obtain ⟨rest, hl, hset⟩ := holdings_split hi
  obtain ⟨rest', hi', hset'⟩ := i.holdings_split r.hook hof
  refine ⟨rest' + rest, by rw [hl, hi', add_assoc], fun f' => ?_⟩
  obtain ⟨l', hl', hholdings⟩ := hset (i.setForm r.hook f')
  exact ⟨l', by rw [setForm_own hi, hl'], by rw [hholdings, hset', add_assoc]⟩

/-- A library that is put back together, and what follows. -/
theorem trades_put {α : Type} {e : Except Fault Library} {held : Multiset Holding}
    {k : Library → Action α} {done : α → Multiset Holding}
    (he : ∃ l', e = .ok l' ∧ l'.holdings = held)
    (hk : ∀ l', Trades (Device.Books start others) (k l') l'.holdings done) :
    Trades (Device.Books start others) ((liftM e : Action Library) >>= k) held done := by
  obtain ⟨l', hl', hheld⟩ := he
  refine .lift_bind fun l'' hl'' => ?_
  cases hl'.symm.trans hl''
  exact hheld ▸ hk l'

/-! ### Operations on one instance -/

theorem trades_create (hl : l.instances.Valid) (m : Material) (format : VertexFormat) :
    Trades (Device.Books start others) (l.create m format) l.holdings fun r => r.2.holdings := by
  refine Trades.bind (((Instance.trades_attachHooks _ (.new m format)).frame l.holdings).of_eq
    (zero_add _).symm fun _ => rfl) fun fresh => .pure ?_
  show l.warning.holdings + (l.instances.push fresh).2.values.bind Instance.holdings = _
  rw [SlotSet.values_push hl, Multiset.cons_bind]
  exact add_left_comm ..

theorem trades_destroy (l : Library) (id : Slot) :
    Trades (Device.Books start others) (l.destroy id) l.holdings fun r => r.2.holdings := by
  refine .lift_bind fun (removed, instances) hremove => ?_
  cases removed with
  | none => exact .pure rfl
  | some i =>
      obtain ⟨n, hlocate⟩ := SlotSet.locate_of_remove hremove
      obtain ⟨rest, hvalues, -, instances', hremove', hvalues'⟩ := SlotSet.values_of_locate hlocate
      cases hremove'.symm.trans hremove
      refine Trades.bind ((i.trades_destruction.frame
        (l.warning.holdings + rest.bind Instance.holdings)).of_eq ?_ fun _ => rfl)
        fun _ => .pure ?_
      · rw [holdings, hvalues, Multiset.cons_bind]
        exact add_left_comm ..
      · rw [holdings, hvalues', zero_add]

theorem trades_addHook (l : Library) (id : Slot) (v : Variant) :
    Trades (Device.Books start others) (l.addHook id v) l.holdings fun r => r.2.holdings := by
  refine .lift_bind fun found hfound => ?_
  cases found with
  | none => exact .pure rfl
  | some i =>
      obtain ⟨rest, hl, hset⟩ := holdings_split hfound
      refine Trades.bind (((i.trades_addHook v).frame rest).of_eq hl fun _ => rfl)
        fun (result, i') => ?_
      exact trades_put (hset i') fun l' => .pure rfl

theorem trades_buildHooks (context : BuildContext) (i : Instance) (variants : List Variant) :
    Trades (Device.Books start others) (buildHooks context i variants) i.holdings
      fun r => r.2.holdings := by
  induction variants generalizing i with
  | nil => exact .pure rfl
  | cons v variants ih =>
      rw [buildHooks]
      split
      · exact ih i
      next j hj =>
        have hf : i.formOf (some v) = some j.form := congrArg (Option.map _) hj
        obtain ⟨rest, hi, hset⟩ := i.holdings_split (some v) hf
        refine Trades.bind (((j.form.trades_build context).frame rest).of_eq hi fun _ => rfl)
          fun (result, f') => ?_
        simp only [← hset f']
        cases result with
        | ok _ => exact ih _
        | error error => exact .pure rfl

theorem trades_build (l : Library) (id : Slot) :
    Trades (Device.Books start others) (l.build id) l.holdings fun r => r.2.holdings := by
  refine .lift_bind fun found hfound => ?_
  cases found with
  | none => exact .pure rfl
  | some i =>
      obtain ⟨rest, hl, hset⟩ := holdings_split hfound
      obtain ⟨hooks, hi, hform⟩ := i.holdings_split none rfl
      refine Trades.bind (((i.form.trades_build l.context).frame (hooks + rest)).of_eq
        (by rw [hl, hi, add_assoc]) fun _ => rfl) ?_
      rintro ⟨result, form⟩
      rw [← add_assoc, ← hform form]
      cases result with
      | error error => exact trades_put (hset (i.setForm none form)) fun l' => .pure rfl
      | ok _ =>
          refine Trades.bind ((trades_buildHooks l.context (i.setForm none form) _).frame rest) ?_
          rintro ⟨result, i'⟩
          exact trades_put (hset i') fun l' => .pure rfl

theorem trades_renderable (l : Library) (r : MaterialRef) :
    Trades (Device.Books start others) (l.renderable r) l.holdings fun r => r.2.holdings := by
  refine .lift_bind fun found hfound => ?_
  cases found with
  | none => exact .pure rfl
  | some f =>
      obtain ⟨rest, hl, hset⟩ := holdings_split_form hfound
      refine Trades.bind (((f.trades_ensureBuilt l.context).frame rest).of_eq hl fun _ => rfl)
        fun (ready, f') => ?_
      refine trades_put (hset f') fun l' => ?_
      split
      · exact .pure rfl
      · refine Trades.bind ((l'.warning.trades_ensureBuilt l'.context).frame
          (l'.instances.values.bind Instance.holdings)) fun (ready, warning) => .pure rfl

/-! ### Operations on all instances -/

/-- What the instances in some cells hold. -/
def cellHoldings (cells : List (Cell Instance)) : Multiset Holding :=
  (SlotSet.occupants cells.toArray).bind Instance.holdings

theorem cellHoldings_cons (cell : Cell Instance) (cells : List (Cell Instance)) :
    cellHoldings (cell :: cells) =
      (SlotSet.single cell.value).bind Instance.holdings + cellHoldings cells := by
  rw [cellHoldings, cellHoldings, ← Multiset.add_bind]
  obtain ⟨generation, value⟩ := cell
  cases value with
  | none => exact congrArg (Multiset.bind · _) (zero_add _).symm
  | some i => rfl

theorem trades_mapCells {f : Instance → Action Instance}
    (hf : ∀ i : Instance, Trades (Device.Books start others) (f i) i.holdings Instance.holdings)
    (cells : List (Cell Instance)) :
    Trades (Device.Books start others) (mapCells f cells) (cellHoldings cells) cellHoldings := by
  induction cells with
  | nil => exact .pure rfl
  | cons cell cells ih =>
      rw [mapCells, cellHoldings_cons]
      obtain ⟨generation, value⟩ := cell
      have hrest (value : Option Instance) : Trades (Device.Books start others)
          (do return ⟨generation, value⟩ :: (← mapCells f cells))
          ((SlotSet.single value).bind Instance.holdings + cellHoldings cells) cellHoldings := by
        refine Trades.bind ((ih.frame ((SlotSet.single value).bind Instance.holdings)).of_eq
          (add_comm ..) fun _ => rfl) fun cells' => .pure ?_
        rw [cellHoldings_cons, add_comm]
      cases value with
      | none => exact (Trades.pure rfl).bind hrest
      | some i =>
          have hone (i : Instance) :
              (SlotSet.single (some i)).bind Instance.holdings = i.holdings :=
            Multiset.singleton_bind ..
          have hmap : Trades (Device.Books start others) (some <$> f i)
              ((SlotSet.single (some i)).bind Instance.holdings)
              fun value => (SlotSet.single value).bind Instance.holdings := by
            rw [hone, map_eq_pure_bind]
            exact (hf i).bind fun i' => .pure (hone i')
          exact (hmap.frame (cellHoldings cells)).bind hrest

theorem trades_mapInstances {f : Instance → Action Instance}
    (hf : ∀ i : Instance, Trades (Device.Books start others) (f i) i.holdings Instance.holdings)
    (l : Library) :
    Trades (Device.Books start others) (l.mapInstances f) l.holdings holdings := by
  refine Trades.bind (((trades_mapCells hf l.instances.cells.toList).frame
    l.warning.holdings).of_eq (add_comm ..) fun _ => rfl) fun cells => .pure (add_comm ..)

theorem trades_reset (l : Library) :
    Trades (Device.Books start others) l.reset l.holdings holdings := by
  refine (trades_mapInstances Instance.trades_reset l).bind fun l' => ?_
  exact Trades.bind (l'.warning.trades_reset.frame (l'.instances.values.bind Instance.holdings))
    fun warning => .pure rfl

theorem trades_flush (l : Library) :
    Trades (Device.Books start others) l.flush l.holdings holdings :=
  (trades_reset l).bind fun _ => (Trades.report _).bind fun _ => .pure rfl

theorem trades_setConfig (l : Library) (config : Config) :
    Trades (Device.Books start others) (l.setConfig config) l.holdings holdings := by
  unfold setConfig
  split
  · exact .pure rfl
  · refine Trades.bind (trades_mapInstances (Instance.trades_attachHooks config)
      { l with context := { l.context with config := config } }) fun l' => trades_flush l'

theorem trades_deviceLost (l : Library) :
    Trades (Device.Books start others) l.deviceLost l.holdings holdings :=
  (Trades.report _).bind fun _ => trades_reset l

theorem trades_new (registry : Registry) (config : Config) :
    Trades (Device.Books start others) (new registry config) 0 holdings := by
  refine Trades.bind (Form.trades_build _ _) fun (result, form) => ?_
  have hl (context : BuildContext) :
      holdings { context := context, warning := form } = form.holdings := add_zero _
  cases result with
  | ok _ => exact .pure (hl _)
  | error error => exact (Trades.report _).bind fun _ => .pure (hl _)

end MaterialPipeline.Library
