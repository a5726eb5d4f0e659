import MaterialPipeline.Proofs.Material.Instance
import MaterialPipeline.Proofs.Material.Owned
import Mathlib.Data.Multiset.Bind

/-!
# Proofs — Material — Holdings

What forms and instances hold on the device.  From here on the things held are whole built
materials, each with what it was built from, instead of single objects.

* `Holding`: a built material, with the form that holds it.
* `Device.Books`: the holdings on a device; their objects are live, each once, and each holding is
  what some build returned.
* `Form.trades_build`, `Form.trades_reset`, `Instance.trades_reset` and others: what goes in as the
  holdings of a form or an instance comes out as the holdings of the new one.
-/

namespace MaterialPipeline

open MaterialPipeline.Action

/-! ### The device grows -/

/-- State objects and textures keep their numbers. -/
structure Device.Grows (d d' : Device) : Prop where
  states : d.states.toList <+: d'.states.toList
  textures : d.textures.toList <+: d'.textures.toList

namespace Device

variable {d d' d'' : Device}

theorem Grows.refl (d : Device) : d.Grows d :=
  ⟨List.prefix_rfl, List.prefix_rfl⟩

theorem Grows.trans (h : d.Grows d') (h' : d'.Grows d'') : d.Grows d'' :=
  ⟨h.states.trans h'.states, h.textures.trans h'.textures⟩

theorem grows_issue (d : Device) (c : Call) : d.Grows (d.issue c) := by
  cases c <;> exact ⟨List.prefix_rfl, List.prefix_rfl⟩

theorem Manages.grows (h : d.Manages d') : d.Grows d' := by
  induction h with
  | refl => exact .refl d
  | @createProgram d' _ p ih =>
      refine ih.trans ?_
      rcases createProgram_cases d' p with ⟨error, he⟩ | he <;> rw [he] <;>
        exact ⟨List.prefix_rfl, List.prefix_rfl⟩
  | createState _ b ih =>
      exact ih.trans ⟨by simp [Device.createState], List.prefix_rfl⟩
  | @loadTexture d' _ path ih =>
      refine ih.trans ?_
      rcases loadTexture_cases d' path with ⟨error, he⟩ | he <;> rw [he]
      · exact ⟨List.prefix_rfl, List.prefix_rfl⟩
      · exact ⟨List.prefix_rfl, by simp [loaded]⟩
  | destroy _ _ ih => exact ih.trans (grows_issue _ _)

end Device

/-! ### Holdings -/

/-- A built material, with what it was built from. -/
structure Holding where
  material : Material
  format : VertexFormat
  variant : Option Variant
  built : BuiltMaterial

namespace Holding

/-- The objects of a holding. -/
def objects (h : Holding) : Multiset Object :=
  h.built.objects

/-- A build returned the holding, on a device that grew to be `d`. -/
def Sound (d : Device) (h : Holding) : Prop :=
  ∃ context s s', (BuiltMaterial.build context h.material h.format h.variant).run s =
    .ok (.ok h.built, s') ∧ s'.device.Grows d

theorem Sound.mono {d d' : Device} {h : Holding} (hs : h.Sound d) (hd : d.Grows d') :
    h.Sound d' := by
  obtain ⟨context, s, s', hrun, hgrows⟩ := hs
  exact ⟨context, s, s', hrun, hgrows.trans hd⟩

end Holding

/-- The holdings on the device `d`, next to other objects; the device only managed objects since it
was `start`. -/
structure Device.Books (start : Device) (others : Multiset Object) (d : Device)
    (held : Multiset Holding) : Prop where
  managed : start.Manages d
  owns : d.Owns (held.bind Holding.objects + others)
  sound : ∀ h ∈ held, h.Sound d

variable {start : Device} {others : Multiset Object}

/-- What trades single objects alone, leaves the books in order, if new holdings are sound. -/
theorem Action.Trades.books {α : Type} {x : Action α} {before : Multiset Holding}
    {after : α → Multiset Holding}
    (hx : ∀ start, Trades (Device.Ledger start) x (before.bind Holding.objects)
      fun a => (after a).bind Holding.objects)
    (hsound : ∀ s a s' h, x.run s = .ok (a, s') → h ∈ after a → h ∈ before ∨ h.Sound s'.device) :
    Trades (Device.Books start others) x before after where
  oblivious := (hx start).oblivious
  run := by
    intro s a s' rest hrun hI
    have howns := hI.owns
    rw [Multiset.add_bind, add_assoc] at howns
    have hmanaged := (hx s.device).run _ hrun ⟨.refl, howns⟩
    refine ⟨hI.managed.trans hmanaged.1, ?_, ?_⟩
    · rw [Multiset.add_bind, add_assoc]
      exact hmanaged.2
    · intro h hh
      rcases Multiset.mem_add.mp hh with hh | hh
      · rcases hsound s a s' h hrun hh with hbefore | hs
        · exact (hI.sound h (Multiset.mem_add.mpr (.inl hbefore))).mono hmanaged.1.grows
        · exact hs
      · exact (hI.sound h (Multiset.mem_add.mpr (.inr hh))).mono hmanaged.1.grows

/-! ### Forms -/

namespace Form

/-- What a form holds. -/
def holdings (f : Form) : Multiset Holding :=
  match f.built with
  | some b => {⟨f.material, f.format, f.variant, b⟩}
  | none => 0

theorem trades_destruction (f : Form) :
    Trades (Device.Books start others) (perform f.destruction) f.holdings fun _ => 0 := by
  rw [destruction, holdings]
  cases f.built with
  | none => exact .reportAll []
  | some b =>
      refine .books (fun start => ?_) fun _ _ _ _ _ hh => absurd hh (Multiset.notMem_zero _)
      rw [Multiset.singleton_bind, Multiset.zero_bind, Option.map_some, Option.getD_some,
        BuiltMaterial.destruction_eq]
      exact trades_endings _

theorem trades_reset (f : Form) :
    Trades (Device.Books start others) f.reset f.holdings holdings :=
  (trades_destruction f).bind fun _ => .pure rfl

/-- What a form holds of a build. -/
def holdingsOfBuild (f : Form) : Except MaterialError BuiltMaterial → Multiset Holding
  | .ok b => {⟨f.material, f.format, f.variant, b⟩}
  | .error _ => 0

theorem trades_build (f : Form) (context : BuildContext) :
    Trades (Device.Books start others) (f.build context) f.holdings fun r => r.2.holdings := by
  have hbuild : Trades (Device.Books start others)
      (BuiltMaterial.build context f.material f.format f.variant) 0 f.holdingsOfBuild := by
    refine .books (fun start => (BuiltMaterial.trades_build ..).of_eq rfl ?_) ?_
    · rintro (error | b)
      · rfl
      · exact Multiset.singleton_bind ..
    · rintro s (error | b) s' h hrun hh
      · exact absurd hh (Multiset.notMem_zero _)
      · obtain rfl := Multiset.mem_singleton.mp hh
        exact .inr ⟨context, s, s', hrun, .refl _⟩
  refine (trades_destruction f).bind fun _ => hbuild.bind ?_
  rintro (error | b)
  · exact (Trades.report _).bind fun _ => .pure rfl
  · exact .pure rfl

theorem trades_ensureBuilt (f : Form) (context : BuildContext) :
    Trades (Device.Books start others) (f.ensureBuilt context) f.holdings
      fun r => r.2.holdings := by
  unfold ensureBuilt
  split
  · exact .pure rfl
  · split
    · exact .pure rfl
    · exact (trades_build f context).bind fun _ => .pure rfl

end Form

/-! ### Hooks -/

namespace Hooks

/-- What hooks hold together. -/
def total (h : Hooks (Multiset Holding)) : Multiset Holding :=
  h.prePass.getD 0 + h.shadow.getD 0 + h.glow.getD 0

end Hooks

/-- What an instance holds: what its form does, and what its hooks do. -/
def Instance.holdings : Instance → Multiset Holding :=
  Instance.fold fun form hooks => form.holdings + hooks.total

namespace Hooks

variable {h : Hooks Instance}

/-- What an instance holds, if there is one. -/
def holdingsOf (j : Option Instance) : Multiset Holding :=
  (j.map Instance.holdings).getD 0

/-- What hooks hold. -/
def holdings (h : Hooks Instance) : Multiset Holding :=
  (h.map Instance.holdings).total

/-- One hook among the others. -/
theorem holdings_split (h : Hooks Instance) (v : Variant) : ∃ others,
    h.holdings = holdingsOf (h.get v) + others ∧
      ∀ j, (h.put v j).holdings = holdingsOf j + others := by
  cases v with
  | prePass =>
      exact ⟨holdingsOf h.shadow + holdingsOf h.glow, add_assoc _ _ _, fun _ => add_assoc _ _ _⟩
  | shadow =>
      refine ⟨holdingsOf h.prePass + holdingsOf h.glow, ?_, fun j => ?_⟩ <;>
        simp only [holdings, holdingsOf, total, map, get, put] <;> abel
  | glow =>
      exact ⟨holdingsOf h.prePass + holdingsOf h.shadow, add_comm _ _, fun _ => add_comm _ _⟩

/-- The hooks are gone through in order. -/
theorem trades_destructions (hone : ∀ v j, h.get v = some j →
      Trades (Device.Books start others) (perform j.destruction) j.holdings fun _ => 0) :
    Trades (Device.Books start others) (perform (h.entries.flatMap fun (_, j) => j.destruction))
      h.holdings fun _ => 0 := by
  rw [flatMap_entries]
  have hone (v : Variant) : Trades (Device.Books start others)
      (perform (((h.get v).map Instance.destruction).getD [])) (holdingsOf (h.get v))
      fun _ => 0 := by
    cases hget : h.get v with
    | none => exact .reportAll []
    | some j => exact hone v j hget
  have hprePass := (hone .prePass).frame (holdingsOf h.shadow + holdingsOf h.glow)
  have hshadow := (hone .shadow).frame (holdingsOf h.glow)
  simp only [zero_add] at hprePass hshadow
  exact (((hprePass.of_eq (add_assoc ..) fun _ => rfl).perform_append hshadow).perform_append
    (hone .glow))

theorem trades_mapM {g : Instance → Action Instance} (hone : ∀ v j, h.get v = some j →
      Trades (Device.Books start others) (g j) j.holdings Instance.holdings) :
    Trades (Device.Books start others) (h.mapM g) h.holdings holdings := by
  have hone (v : Variant) : Trades (Device.Books start others) ((h.get v).mapM g)
      (holdingsOf (h.get v)) holdingsOf := by
    cases hget : h.get v with
    | none => exact .pure rfl
    | some j => exact Trades.bind (f := fun j => pure (some j)) (hone v j hget) fun _ => .pure rfl
  rw [mapM_eq]
  refine Trades.bind (((hone .prePass).frame (holdingsOf h.shadow + holdingsOf h.glow)).of_eq
    (add_assoc ..) fun _ => rfl) fun prePass => ?_
  refine Trades.bind (((hone .shadow).frame (holdingsOf prePass + holdingsOf h.glow)).of_eq
    (add_left_comm ..) fun _ => rfl) fun shadow => ?_
  refine Trades.bind (((hone .glow).frame (holdingsOf prePass + holdingsOf shadow)).of_eq
    ?_ fun _ => rfl) fun glow => ?_
  · abel
  · exact .pure (add_comm ..)

end Hooks

/-! ### Instances -/

namespace Instance

variable {i : Instance}

theorem holdings_eq (i : Instance) : i.holdings = i.form.holdings + i.hooks.holdings :=
  fold_eq _ i

/-- One form among the others. -/
theorem holdings_split (i : Instance) (v : Option Variant) {f : Form} (hf : i.formOf v = some f) :
    ∃ others, i.holdings = f.holdings + others ∧
      ∀ f', (i.setForm v f').holdings = f'.holdings + others := by
  cases v with
  | none =>
      cases hf
      exact ⟨i.hooks.holdings, i.holdings_eq, fun _ => holdings_eq _⟩
  | some v =>
      obtain ⟨others, hget, hput⟩ := i.hooks.holdings_split v
      obtain ⟨j, hj, rfl⟩ := Option.map_eq_some_iff.mp hf
      have hj : i.hooks.get v = some j := hj
      rw [hj] at hget
      have hget : i.hooks.holdings = j.holdings + others := hget
      refine ⟨i.form.holdings + (j.hooks.holdings + others), ?_, fun f' => ?_⟩
      · rw [holdings_eq, hget, holdings_eq, add_assoc]
        exact add_left_comm _ _ _
      · have hhook : Hooks.holdingsOf (some { j with form := f' }) =
            f'.holdings + j.hooks.holdings := holdings_eq _
        rw [holdings_eq, setForm, hj, Option.map_some, hput, hhook, add_assoc]
        exact add_left_comm _ _ _

/-- Everything that an instance has built is destroyed. -/
theorem trades_destruction (i : Instance) :
    Trades (Device.Books start others) (perform i.destruction) i.holdings fun _ => 0 := by
  induction i using Instance.induction with
  | step i ih =>
      have hown : Trades (Device.Books start others) (perform i.form.destruction) i.form.holdings
          fun _ => 0 := i.form.trades_destruction
      have hform := hown.frame i.hooks.holdings
      simp only [zero_add] at hform
      rw [destruction_eq, holdings_eq]
      exact hform.perform_append (Hooks.trades_destructions ih)

theorem trades_reset (i : Instance) :
    Trades (Device.Books start others) i.reset i.holdings holdings := by
  induction i using Instance.induction with
  | step i ih =>
      rw [reset_eq, holdings_eq]
      refine Trades.bind (i.form.trades_reset.frame i.hooks.holdings) fun form => ?_
      refine Trades.bind (((Hooks.trades_mapM ih).frame form.holdings).of_eq
        (add_comm ..) fun _ => rfl) fun hooks => .pure ?_
      rw [holdings_eq]
      exact add_comm ..

/-- A hook that holds nothing, or none, takes the place of a hook. -/
theorem trades_replaceHook (i : Instance) (v : Variant) {j : Option Instance}
    (hj : Hooks.holdingsOf j = 0) :
    Trades (Device.Books start others) (do
      perform (hookDestruction (i.hooks.get v))
      return { i with hooks := i.hooks.put v j }) i.holdings holdings := by
  obtain ⟨rest, hget, hput⟩ := i.hooks.holdings_split v
  have hgone : Trades (Device.Books start others) (perform (hookDestruction (i.hooks.get v)))
      (Hooks.holdingsOf (i.hooks.get v)) fun _ => 0 := by
    cases i.hooks.get v with
    | none => exact .reportAll []
    | some j => exact j.trades_destruction
  refine Trades.bind ((hgone.frame (i.form.holdings + rest)).of_eq ?_ fun _ => rfl)
    fun _ => .pure ?_
  · rw [holdings_eq, hget]
    exact add_left_comm ..
  · rw [holdings_eq, hput, hj, zero_add, zero_add]

theorem trades_putHook (i : Instance) (v : Variant) :
    Trades (Device.Books start others) (i.putHook v) i.holdings holdings :=
  i.trades_replaceHook v (holdings_eq _)

theorem trades_removeHook (i : Instance) (v : Variant) :
    Trades (Device.Books start others) (i.removeHook v) i.holdings holdings :=
  i.trades_replaceHook v rfl

theorem trades_addHook (i : Instance) (v : Variant) :
    Trades (Device.Books start others) (i.addHook v) i.holdings fun r => r.2.holdings := by
  unfold addHook
  split
  · exact .pure rfl
  · exact (i.trades_putHook v).bind fun _ => .pure rfl

theorem trades_attachHooks (config : Config) (i : Instance) :
    Trades (Device.Books start others) (i.attachHooks config) i.holdings holdings := by
  refine .foldlM (fun i v => ?_) _ _
  unfold attachHook
  split
  · exact i.trades_removeHook v
  · split
    · refine (i.trades_addHook v).bind ?_
      rintro ⟨error | _, i'⟩
      · exact (Trades.report _).bind fun _ => .pure rfl
      · exact .pure rfl
    · exact .pure rfl

end Instance

end MaterialPipeline
