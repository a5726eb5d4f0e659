import MaterialPipeline.Proofs.Device.Objects
import Mathlib.Data.List.Basic
import Mathlib.Logic.Function.Basic

/-!
# Proofs — Device — Registers

What is bound on a device while it draws: the program, the state object, a texture in each slot, the
buffers, and the constants of every program.  A call binds one of these, draws, or does neither.

* `Registers.run`: what is bound after some calls.
* `Registers.draws`: the draws among some calls, each with what was bound at the time.
* `Registers.run_append_of_writes`: calls that bind everything anew that was bound by the calls
before them leave no trace of those.
* `Device.Quiet`: something happened on a device, but nothing was bound or drawn.
-/

namespace MaterialPipeline

/-! ### Calls among events -/

/-- The call of an event, if it is one. -/
def Event.call? : Event → Option Call
  | call c => some c
  | note _ => none

/-- The calls among events. -/
def callsOf (events : List Event) : List Call :=
  events.filterMap Event.call?

theorem callsOf_append (a b : List Event) : callsOf (a ++ b) = callsOf a ++ callsOf b :=
  List.filterMap_append

theorem callsOf_map_call {α : Type} (f : α → Call) (l : List α) :
    callsOf (l.map fun a => .call (f a)) = l.map f := by
  rw [callsOf, List.filterMap_map]
  show l.filterMap (some ∘ f) = l.map f
  rw [List.filterMap_eq_map]

theorem Session.calls_applyAll (s : Session) (events : List Event) :
    (s.applyAll events).device.calls.toList = s.device.calls.toList ++ callsOf events := by
  induction events generalizing s with
  | nil => exact (List.append_nil _).symm
  | cons e rest ih =>
      refine (ih (s.apply e)).trans ?_
      cases e with
      | note n => rfl
      | call c =>
          rw [show (s.apply (.call c)).device.calls = s.device.calls.push c from
            Device.calls_issue c, Array.toList_push, List.append_assoc]
          rfl

/-! ### What calls bind -/

/-- Something that a call binds. -/
inductive Register where
  | program
  | state
  | texture (slot : Nat)
  | vertices
  | indices
  | constant (h : ProgramHandle) (name : String)
  deriving DecidableEq

/-- What may be bound there; textures and index buffers may be taken off. -/
@[reducible]
def Register.Value : Register → Type
  | program => ProgramHandle
  | state => StateHandle
  | texture _ => Option TextureHandle
  | vertices => BufferHandle
  | indices => Option BufferHandle
  | constant _ _ => ConstantValue

namespace Call

/-- What a call binds, and where. -/
def write? : Call → Option ((r : Register) × r.Value)
  | setProgram h => some ⟨.program, h⟩
  | setConstant h name value => some ⟨.constant h name, value⟩
  | setState h => some ⟨.state, h⟩
  | setTexture slot h => some ⟨.texture slot, h⟩
  | setVertexBuffer h => some ⟨.vertices, h⟩
  | setIndexBuffer h => some ⟨.indices, h⟩
  | _ => none

/-- Whether a call binds nothing and draws nothing. -/
def isQuiet (c : Call) : Bool :=
  match c with
  | draw _ => false
  | c => c.write?.isNone

end Call

/-- What is bound, where something was bound at all. -/
def Registers : Type :=
  (r : Register) → Option r.Value

/-- A draw, with what is bound. -/
structure Drawn where
  registers : Registers
  range : PrimitiveRange

namespace Registers

variable {σ σ' : Registers} {a b : List Call} {r : Register}

/-- Nothing was bound yet. -/
def unset : Registers :=
  fun _ => none

/-- What is bound after a call. -/
def after (σ : Registers) (c : Call) : Registers :=
  match c.write? with
  | some w => Function.update σ w.1 (some w.2)
  | none => σ

/-- What is bound after calls. -/
def run (σ : Registers) (calls : List Call) : Registers :=
  calls.foldl after σ

/-- The draws among calls. -/
def draws (σ : Registers) : List Call → List Drawn
  | [] => []
  | .draw range :: rest => ⟨σ, range⟩ :: draws σ rest
  | c :: rest => draws (σ.after c) rest

theorem run_append (σ : Registers) (a b : List Call) : σ.run (a ++ b) = (σ.run a).run b :=
  List.foldl_append

theorem draws_cons (σ : Registers) (c : Call) (rest : List Call) :
    σ.draws (c :: rest) = σ.draws [c] ++ (σ.after c).draws rest := by
  cases c <;> rfl

theorem draws_append (σ : Registers) (a b : List Call) :
    σ.draws (a ++ b) = σ.draws a ++ (σ.run a).draws b := by
  induction a generalizing σ with
  | nil => rfl
  | cons c rest ih =>
      rw [List.cons_append, draws_cons, ih, ← List.append_assoc, ← draws_cons]
      rfl

/-! ### Calls that bind nothing -/

theorem after_of_isQuiet {c : Call} (hc : c.isQuiet = true) : σ.after c = σ := by
  cases c <;> first | rfl | cases hc

theorem run_of_isQuiet (ha : ∀ c ∈ a, c.isQuiet = true) : σ.run a = σ := by
  induction a with
  | nil => rfl
  | cons c rest ih =>
      rw [run, List.foldl_cons, after_of_isQuiet (ha c List.mem_cons_self)]
      exact ih fun c hc => ha c (List.mem_cons_of_mem _ hc)

theorem draws_eq_nil (ha : ∀ range, .draw range ∉ a) : σ.draws a = [] := by
  induction a generalizing σ with
  | nil => rfl
  | cons c rest ih =>
      have hone : σ.draws [c] = [] := by
        cases c with
        | draw range => exact absurd List.mem_cons_self (ha range)
        | _ => rfl
      rw [draws_cons, hone]
      exact ih fun range hr => ha range (List.mem_cons_of_mem _ hr)

theorem draws_of_isQuiet (ha : ∀ c ∈ a, c.isQuiet = true) : σ.draws a = [] :=
  draws_eq_nil fun _ hr => Bool.noConfusion (ha _ hr)

theorem draws_map_draw (ranges : List PrimitiveRange) :
    σ.draws (ranges.map Call.draw) = ranges.map (⟨σ, ·⟩) := by
  induction ranges with
  | nil => rfl
  | cons range rest ih => exact congrArg (_ :: ·) ih

theorem run_map_draw (ranges : List PrimitiveRange) : σ.run (ranges.map Call.draw) = σ := by
  induction ranges with
  | nil => rfl
  | cons range rest ih => exact ih

/-! ### Calls that bind something -/

/-- One of the calls binds the register. -/
def Writes (calls : List Call) (r : Register) : Prop :=
  ∃ c ∈ calls, ∃ v, c.write? = some ⟨r, v⟩

theorem writes_append : Writes (a ++ b) r ↔ Writes a r ∨ Writes b r := by
  simp only [Writes, List.mem_append, or_and_right, exists_or]

theorem not_writes_nil : ¬ Writes [] r :=
  fun ⟨_, hc, _⟩ => List.not_mem_nil hc

theorem writes_singleton {c : Call} : Writes [c] r ↔ c.write?.map (·.1) = some r := by
  constructor
  · rintro ⟨c', hc', v, hv⟩
    rw [← List.mem_singleton.mp hc', hv]
    rfl
  · intro h
    obtain ⟨⟨r', v⟩, hv, rfl⟩ := Option.map_eq_some_iff.mp h
    exact ⟨c, List.mem_singleton_self c, v, hv⟩

theorem writes_map {α : Type} {f : α → Call} {l : List α} :
    Writes (l.map f) r ↔ ∃ x ∈ l, (f x).write?.map (·.1) = some r := by
  induction l with
  | nil => simp [not_writes_nil]
  | cons x rest ih =>
      rw [List.map_cons, ← List.singleton_append, writes_append, ih, writes_singleton]
      simp

theorem after_of_not_writes {c : Call} (hc : ¬ Writes [c] r) : σ.after c r = σ r := by
  unfold after
  cases hw : c.write? with
  | none => rfl
  | some w =>
      refine Function.update_of_ne ?_ _ _
      rintro rfl
      exact hc ⟨c, List.mem_singleton_self c, w.2, hw⟩

theorem after_of_write {c : Call} {v : r.Value} (hc : c.write? = some ⟨r, v⟩) :
    σ.after c r = some v := by
  unfold after
  rw [hc]
  exact Function.update_self ..

theorem run_of_not_writes (ha : ¬ Writes a r) : σ.run a r = σ r := by
  induction a generalizing σ with
  | nil => rfl
  | cons c rest ih =>
      rw [← List.singleton_append, writes_append, not_or] at ha
      exact (ih ha.2).trans (after_of_not_writes ha.1)

/-- A register that is bound has what one of the calls binds there. -/
theorem run_of_writes (ha : Writes a r) :
    ∃ c ∈ a, ∃ v, c.write? = some ⟨r, v⟩ ∧ σ.run a r = some v := by
  induction a generalizing σ with
  | nil => exact absurd ha not_writes_nil
  | cons c rest ih =>
      -- The last call that binds it decides.
      by_cases hrest : Writes rest r
      · obtain ⟨c', hc', v, hv, hrun⟩ := ih (σ := σ.after c) hrest
        exact ⟨c', List.mem_cons_of_mem _ hc', v, hv, hrun⟩
      · rw [← List.singleton_append, writes_append] at ha
        obtain ⟨c', hc', v, hv⟩ := ha.resolve_right hrest
        obtain rfl := List.mem_singleton.mp hc'
        exact ⟨c', List.mem_cons_self, v, hv, (run_of_not_writes hrest).trans (after_of_write hv)⟩

/-- A register is bound to a value if all calls that bind it agree on the value. -/
theorem run_eq_some {v : r.Value} (ha : Writes a r)
    (hv : ∀ c ∈ a, ∀ w, c.write? = some ⟨r, w⟩ → w = v) : σ.run a r = some v := by
  obtain ⟨c, hc, w, hw, hrun⟩ := run_of_writes (σ := σ) ha
  rw [hrun, hv c hc w hw]

/-- A register that is bound, or was bound alike, is bound alike. -/
theorem run_congr (h : Writes a r ∨ σ r = σ' r) : σ.run a r = σ'.run a r := by
  induction a generalizing σ σ' with
  | nil =>
      rcases h with ⟨c, hc, -⟩ | h
      · exact absurd hc List.not_mem_nil
      · exact h
  | cons c rest ih =>
      refine ih ?_
      -- A later call may bind it; else it is bound alike after this one.
      by_cases hrest : Writes rest r
      · exact .inl hrest
      · right
        by_cases hc : Writes [c] r
        · obtain ⟨c', hc', v, hv⟩ := hc
          obtain rfl := List.mem_singleton.mp hc'
          rw [after_of_write hv, after_of_write hv]
        · rw [after_of_not_writes hc, after_of_not_writes hc]
          refine h.resolve_left fun hw => ?_
          rw [← List.singleton_append, writes_append] at hw
          exact hw.elim hc hrest

/-- Calls that bind what the calls before them bound leave no trace of those. -/
theorem run_append_of_writes (h : ∀ r, Writes a r → Writes b r) : σ.run (a ++ b) = σ.run b := by
  funext r
  rw [run_append]
  refine run_congr ?_
  by_cases ha : Writes a r
  · exact .inl (h r ha)
  · exact .inr (run_of_not_writes ha)

/-! ### Textures -/

/-- No texture is bound. -/
def Clear (σ : Registers) : Prop :=
  ∀ slot, (σ (.texture slot)).join = none

theorem clear_unset : unset.Clear :=
  fun _ => rfl

end Registers

namespace Device

variable {d d' d'' : Device}

/-- What is bound on a device. -/
def registers (d : Device) : Registers :=
  Registers.unset.run d.calls.toList

theorem registers_of_calls {calls : List Call} (h : d'.calls.toList = d.calls.toList ++ calls) :
    d'.registers = d.registers.run calls := by
  rw [registers, h, Registers.run_append]
  rfl

/-- Something happened on the device that binds nothing and draws nothing. -/
structure Quiet (d d' : Device) : Prop where
  limits : d'.limits = d.limits
  calls : ∃ calls, d'.calls.toList = d.calls.toList ++ calls ∧ ∀ c ∈ calls, c.isQuiet = true

namespace Quiet

theorem refl (d : Device) : d.Quiet d :=
  ⟨rfl, [], (List.append_nil _).symm, fun _ hc => absurd hc List.not_mem_nil⟩

theorem trans (h : d.Quiet d') (h' : d'.Quiet d'') : d.Quiet d'' := by
  obtain ⟨calls, hcalls, hquiet⟩ := h.calls
  obtain ⟨calls', hcalls', hquiet'⟩ := h'.calls
  refine ⟨h'.limits.trans h.limits, calls ++ calls', ?_, fun c hc => ?_⟩
  · rw [hcalls', hcalls, List.append_assoc]
  · exact (List.mem_append.mp hc).elim (hquiet c) (hquiet' c)

theorem one {c : Call} (hlimits : d'.limits = d.limits) (hcalls : d'.calls = d.calls.push c)
    (hc : c.isQuiet = true) : d.Quiet d' :=
  ⟨hlimits, [c], by rw [hcalls, Array.toList_push], by simpa using hc⟩

theorem registers_eq (h : d.Quiet d') : d'.registers = d.registers := by
  obtain ⟨calls, hcalls, hquiet⟩ := h.calls
  rw [registers_of_calls hcalls, Registers.run_of_isQuiet hquiet]

end Quiet

theorem limits_issue (d : Device) (c : Call) : (d.issue c).limits = d.limits := by
  cases c <;> rfl

/-- Objects are created and let go of quietly. -/
theorem Works.quiet (h : d.Works d') : d.Quiet d' := by
  induction h with
  | refl => exact .refl d
  | @createProgram d' _ p ih =>
      refine ih.trans ?_
      rcases createProgram_cases d' p with ⟨error, he⟩ | he <;> rw [he] <;> exact .one rfl rfl rfl
  | createState _ b ih => exact ih.trans (.one rfl rfl rfl)
  | @loadTexture d' _ path ih =>
      refine ih.trans ?_
      rcases loadTexture_cases d' path with ⟨error, he⟩ | he <;> rw [he] <;> exact .one rfl rfl rfl
  | @destroy d' _ o ih =>
      exact ih.trans (.one (limits_issue ..) (calls_issue _) (by cases o <;> rfl))

theorem Manages.quiet (h : d.Manages d') : d.Quiet d' :=
  h.works.quiet

end Device

end MaterialPipeline
