import MaterialPipeline.Proofs.Session.Runs
import Mathlib.Algebra.BigOperators.Group.Multiset.Basic

/-!
# Proofs — Device — Objects

The objects that a device keeps until it is told to let go of them: programs, state objects and
textures.  The trace says which were let go of.

* `Device.Live`: created, and not let go of.
* `Device.Owns`: a multiset of objects is all that is live, each object once.
* `Device.Manages`: what happened between two devices, as a chain of operations: objects were
  created, and only live ones were let go of.
* `Device.Works`: the same, with nothing said of what is live.
-/

namespace MaterialPipeline

/-- An object on a device. -/
inductive Object where
  | program (h : ProgramHandle)
  | state (h : StateHandle)
  | texture (h : TextureHandle)
  deriving DecidableEq

/-- The call that lets go of an object. -/
def Object.ending : Object → Call
  | program h => .destroyProgram h
  | state h => .destroyState h
  | texture h => .releaseTexture h

namespace Object

theorem ending_ne_createProgram (o : Object) (label : String) (features : List String) :
    o.ending ≠ .createProgram label features := by
  cases o <;> exact Call.noConfusion

theorem ending_ne_createState (o : Object) (h : StateHandle) : o.ending ≠ .createState h := by
  cases o <;> exact Call.noConfusion

theorem ending_ne_loadTexture (o : Object) (path : String) : o.ending ≠ .loadTexture path := by
  cases o <;> exact Call.noConfusion

theorem ending_injective : Function.Injective ending := by
  intro o o' h
  cases o <;> cases o' <;> cases h <;> rfl

end Object

namespace Device

variable {d d' d'' : Device} {o o' : Object} {held held' : Multiset Object}

/-- The object was created, and may be gone. -/
def Created (d : Device) : Object → Prop
  | .program h => h.number < d.programs.size
  | .state h => h.number < d.states.size
  | .texture h => h.number < d.textures.size

/-- The object was created and not let go of. -/
def Live (d : Device) (o : Object) : Prop :=
  d.Created o ∧ o.ending ∉ d.calls

/-- The live objects are those of `held`, and none is held twice. -/
structure Owns (d : Device) (held : Multiset Object) : Prop where
  nodup : held.Nodup
  live_iff : ∀ o, d.Live o ↔ o ∈ held
  /-- Nothing was let go of before it was created. -/
  traced : ∀ o, o.ending ∈ d.calls → d.Created o

/-- A new device has no objects. -/
theorem owns_default : ({} : Device).Owns 0 := by
  refine ⟨Multiset.nodup_zero,
    fun o => ⟨fun ho => ?_, fun ho => absurd ho (Multiset.notMem_zero o)⟩,
    fun o ho => absurd ho (Array.not_mem_empty _)⟩
  cases o <;> exact absurd ho.1 (Nat.not_lt_zero _)

namespace Owns

/-- Calls that let go of nothing change nothing. -/
theorem congr (h : d.Owns held) (hcreated : ∀ o, d'.Created o ↔ d.Created o)
    (hcalls : ∀ o : Object, o.ending ∈ d'.calls ↔ o.ending ∈ d.calls) : d'.Owns held where
  nodup := h.nodup
  live_iff := fun o => by rw [Live, hcreated, hcalls]; exact h.live_iff o
  traced := fun o ho => (hcreated o).mpr (h.traced o ((hcalls o).mp ho))

/-- A new object is held by whoever asked for it. -/
theorem create (h : d.Owns held) (hnew : ¬ d.Created o)
    (hcreated : ∀ o', d'.Created o' ↔ o' = o ∨ d.Created o')
    (hcalls : ∀ o' : Object, o'.ending ∈ d'.calls ↔ o'.ending ∈ d.calls) :
    d'.Owns (o ::ₘ held) where
  nodup := Multiset.nodup_cons.mpr ⟨fun ho => hnew ((h.live_iff o).mpr ho).1, h.nodup⟩
  live_iff := by
    intro o'
    rw [Live, hcreated, hcalls, Multiset.mem_cons, ← h.live_iff, Live]
    constructor
    · rintro ⟨rfl | hc, hgone⟩
      · exact .inl rfl
      · exact .inr ⟨hc, hgone⟩
    · rintro (rfl | ⟨hc, hgone⟩)
      -- A call that let go of the new object would have come before it was created.
      · exact ⟨.inl rfl, fun hgone => hnew (h.traced _ hgone)⟩
      · exact ⟨.inr hc, hgone⟩
  traced := fun o' ho => (hcreated o').mpr (.inr (h.traced o' ((hcalls o').mp ho)))

/-- An object that is held may be let go of. -/
theorem destroy (h : d.Owns (o ::ₘ held)) (hcreated : ∀ o', d'.Created o' ↔ d.Created o')
    (hcalls : d'.calls = d.calls.push o.ending) : d'.Owns held where
  nodup := (Multiset.nodup_cons.mp h.nodup).2
  live_iff := by
    intro o'
    have hne : o' ∈ held → o' ≠ o :=
      fun ho' => ne_of_mem_of_not_mem ho' (Multiset.nodup_cons.mp h.nodup).1
    have hlive := h.live_iff o'
    rw [Live, Multiset.mem_cons] at hlive
    rw [Live, hcreated, hcalls, Array.mem_push, not_or, Object.ending_injective.eq_iff]
    constructor
    · rintro ⟨hc, hgone, ho⟩
      exact (hlive.mp ⟨hc, hgone⟩).resolve_left ho
    · intro ho'
      exact ⟨(hlive.mpr (.inr ho')).1, (hlive.mpr (.inr ho')).2, hne ho'⟩
  traced := by
    intro o' ho'
    rw [hcalls, Array.mem_push] at ho'
    rw [hcreated]
    rcases ho' with ho' | ho'
    · exact h.traced o' ho'
    · rw [Object.ending_injective ho']
      exact ((h.live_iff o).mpr (Multiset.mem_cons_self o held)).1

end Owns

/-! ### The operations -/

/-- The object that an attempt made, if it succeeded. -/
def made {kind : ResourceKind} (object : Handle kind → Object) :
    Except DeviceError (Handle kind) → Multiset Object
  | .ok h => {object h}
  | .error _ => 0

theorem created_issue (c : Call) : (d.issue c).Created o ↔ d.Created o := by
  cases c <;> cases o <;> simp [issue, record, Created]

theorem calls_issue (c : Call) : (d.issue c).calls = d.calls.push c := by
  cases c <;> rfl

theorem created_record (c : Call) : (d.record c).Created o ↔ d.Created o := by
  cases o <;> rfl

theorem mem_calls_record {c : Call} (hc : ∀ o : Object, o.ending ≠ c) :
    o.ending ∈ (d.record c).calls ↔ o.ending ∈ d.calls := by
  rw [record, Array.mem_push, or_iff_left (hc o)]

theorem Owns.record (h : d.Owns held) {c : Call} (hc : ∀ o : Object, o.ending ≠ c) :
    (d.record c).Owns held :=
  h.congr (fun _ => created_record c) fun _ => mem_calls_record hc

theorem createProgram_cases (d : Device) (p : Program) :
    (∃ error, d.createProgram p = (.error error, d.record (.createProgram p.label p.features))) ∨
      d.createProgram p = (.ok ⟨d.programs.size⟩, d.compiled p) := by
  cases h : d.refusal p with
  | some error => exact .inl ⟨error, createProgram_of_some h⟩
  | none => exact .inr (createProgram_of_none h)

/-- The device after it loaded a texture. -/
def loaded (d : Device) (path : String) : Device :=
  { d.record (.loadTexture path) with textures := d.textures.push path }

theorem loadTexture_cases (d : Device) (path : String) :
    (∃ error, d.loadTexture path = (.error error, d.record (.loadTexture path))) ∨
      d.loadTexture path = (.ok ⟨d.textures.size⟩, d.loaded path) := by
  by_cases hl : d.lost
  · exact .inl ⟨.lost, if_pos hl⟩
  · by_cases hm : d.missing.contains path
    · exact .inl ⟨d.textureError path, (if_neg hl).trans (if_pos hm)⟩
    · exact .inr ((if_neg hl).trans (if_neg hm))

/-- A device loads the textures that it has, unless it is gone. -/
theorem loadTexture_eq_ok_iff {path : String} :
    d.loadTexture path = (.ok ⟨d.textures.size⟩, d.loaded path) ↔
      d.lost = false ∧ path ∉ d.missing := by
  unfold loadTexture
  by_cases hl : d.lost <;> by_cases hm : path ∈ d.missing <;> simp [hl, hm, loaded, record]

theorem Owns.createProgram (h : d.Owns held) (p : Program) :
    (d.createProgram p).2.Owns (made .program (d.createProgram p).1 + held) := by
  have hcall (o : Object) := o.ending_ne_createProgram p.label p.features
  rcases createProgram_cases d p with ⟨error, he⟩ | he <;> rw [he]
  · rw [made, zero_add]
    exact h.record hcall
  · refine h.create (o := .program ⟨d.programs.size⟩) (Nat.lt_irrefl _) ?_
      fun _ => mem_calls_record hcall
    rintro (⟨⟨n⟩⟩ | _ | _)
    · simpa [Created, compiled] using Nat.lt_succ_iff_lt_or_eq.trans or_comm
    · simp [Created, compiled, Device.record]
    · simp [Created, compiled, Device.record]

theorem Owns.createState (h : d.Owns held) (b : StateBlock) :
    (d.createState b).2.Owns (.state (d.createState b).1 ::ₘ held) := by
  refine h.create (o := .state ⟨d.states.size⟩) (Nat.lt_irrefl _) ?_
    fun _ => mem_calls_record fun o => o.ending_ne_createState _
  rintro (_ | ⟨⟨n⟩⟩ | _)
  · simp [Created, Device.createState, Device.record]
  · simpa [Created, Device.createState] using Nat.lt_succ_iff_lt_or_eq.trans or_comm
  · simp [Created, Device.createState, Device.record]

theorem Owns.loadTexture (h : d.Owns held) (path : String) :
    (d.loadTexture path).2.Owns (made .texture (d.loadTexture path).1 + held) := by
  have hcall (o : Object) := o.ending_ne_loadTexture path
  rcases loadTexture_cases d path with ⟨error, he⟩ | he <;> rw [he]
  · rw [made, zero_add]
    exact h.record hcall
  · refine h.create (o := .texture ⟨d.textures.size⟩) (Nat.lt_irrefl _) ?_
      fun _ => mem_calls_record hcall
    rintro (_ | _ | ⟨⟨n⟩⟩)
    · simp [Created, loaded, Device.record]
    · simp [Created, loaded, Device.record]
    · simpa [Created, loaded] using Nat.lt_succ_iff_lt_or_eq.trans or_comm

theorem Owns.issue_ending (h : d.Owns (o ::ₘ held)) : (d.issue o.ending).Owns held :=
  h.destroy (fun _ => created_issue _) (calls_issue _)

/-! ### Managing objects -/

/-- What happens on the way from one device to another: objects are created, as far as the device
allows, and live objects are let go of. -/
inductive Manages (d : Device) : Device → Prop where
  | refl : Manages d d
  | createProgram {d' : Device} (h : Manages d d') (p : Program) : Manages d (d'.createProgram p).2
  | createState {d' : Device} (h : Manages d d') (b : StateBlock) : Manages d (d'.createState b).2
  | loadTexture {d' : Device} (h : Manages d d') (path : String) : Manages d (d'.loadTexture path).2
  | destroy {d' : Device} (h : Manages d d') {o : Object} (ho : d'.Live o) :
      Manages d (d'.issue o.ending)

theorem Manages.trans (h : d.Manages d') (h' : d'.Manages d'') : d.Manages d'' := by
  induction h' with
  | refl => exact h
  | createProgram _ p ih => exact ih.createProgram p
  | createState _ b ih => exact ih.createState b
  | loadTexture _ path ih => exact ih.loadTexture path
  | destroy _ ho ih => exact ih.destroy ho

/-- Objects were created on the device, as far as it allows, or let go of. -/
inductive Works (d : Device) : Device → Prop where
  | refl : Works d d
  | createProgram {d' : Device} (h : Works d d') (p : Program) : Works d (d'.createProgram p).2
  | createState {d' : Device} (h : Works d d') (b : StateBlock) : Works d (d'.createState b).2
  | loadTexture {d' : Device} (h : Works d d') (path : String) : Works d (d'.loadTexture path).2
  | destroy {d' : Device} (h : Works d d') (o : Object) : Works d (d'.issue o.ending)

theorem Works.trans (h : d.Works d') (h' : d'.Works d'') : d.Works d'' := by
  induction h' with
  | refl => exact h
  | createProgram _ p ih => exact ih.createProgram p
  | createState _ b ih => exact ih.createState b
  | loadTexture _ path ih => exact ih.loadTexture path
  | destroy _ o ih => exact ih.destroy o

theorem Manages.works (h : d.Manages d') : d.Works d' := by
  induction h with
  | refl => exact .refl
  | createProgram _ p ih => exact ih.createProgram p
  | createState _ b ih => exact ih.createState b
  | loadTexture _ path ih => exact ih.loadTexture path
  | destroy _ _ ih => exact ih.destroy _

theorem count_record {c : Call} (hc : ∀ o : Object, o.ending ≠ c) :
    (d.record c).calls.count o.ending = d.calls.count o.ending := by
  rw [record, Array.count_push, if_neg (by simpa using (hc o).symm), Nat.add_zero]

/-- No object is let go of twice. -/
theorem Manages.count_ending_le (h : d.Manages d') (o : Object) :
    d'.calls.count o.ending ≤ max 1 (d.calls.count o.ending) := by
  induction h with
  | refl => exact Nat.le_max_right ..
  | @createProgram d' _ p ih =>
      have hcall (o : Object) := o.ending_ne_createProgram p.label p.features
      rcases createProgram_cases d' p with ⟨error, he⟩ | he <;> rw [he]
      · exact (count_record hcall).trans_le ih
      · exact (count_record hcall).trans_le ih
  | @createState d' _ b ih =>
      exact (count_record fun o => o.ending_ne_createState _).trans_le ih
  | @loadTexture d' _ path ih =>
      have hcall (o : Object) := o.ending_ne_loadTexture path
      rcases loadTexture_cases d' path with ⟨error, he⟩ | he <;> rw [he]
      · exact (count_record hcall).trans_le ih
      · exact (count_record hcall).trans_le ih
  | @destroy d' _ o' ho ih =>
      rw [calls_issue, Array.count_push]
      by_cases he : o' = o
      · subst he
        rw [Array.count_eq_zero.mpr ho.2, zero_add]
        split
        · exact Nat.le_max_left ..
        · exact Nat.zero_le _
      · rw [if_neg (by simpa using fun hc => he (Object.ending_injective hc)), Nat.add_zero]
        exact ih

end Device

end MaterialPipeline
