import MaterialPipeline.Storage.FrameArena
import Mathlib.Algebra.GroupWithZero.Nat
import Mathlib.Data.List.Nodup

/-!
# Proofs — Storage — Frames

A frame arena as a list: what was issued since the last reset, in order, each handle with what was
last stored under it.  The handles of earlier frames name the same positions; it is the count of the
frames that tells them apart.

* `FrameArena.mem_entries`: what is listed is what the handles find.
* `FrameArena.Lived`: the life of an arena, with what was issued in it.
* `FrameArena.Keeps`: what holds throughout a life, whatever the counters.
* **`FrameArena.Lived.tells_current`**: while the counters last, the arena is that list, and nothing
from before a reset is there after it.
-/

namespace MaterialPipeline

theorem toNat_toUInt32 {n : Nat} (hn : n < 2 ^ 32) : n.toUInt32.toNat = n :=
  UInt32.toNat_ofNat_of_lt' hn

namespace FrameArena

variable {α : Type} {a a' : FrameArena α} {h h' : FrameHandle} {x y : α} {n : Nat}

theorem get_eq_ok_iff : a.get h = .ok x ↔ a.find h = some x := by
  unfold get
  cases a.find h <;> simp

theorem mem_of_find (hx : a.find h = some x) : x ∈ a.items := by
  unfold find at hx
  split at hx
  · exact Array.mem_of_getElem? hx
  · cases hx

/-- What is stored stays when more is stored. -/
theorem find_alloc_of_find (hx : a.find h = some x) : (a.alloc y).2.find h = some x := by
  unfold find at hx
  split at hx
  next hframe =>
    obtain ⟨hlt, -⟩ := Array.getElem?_eq_some_iff.mp hx
    show (if h.frame = a.frame then (a.items.push y)[h.index.toNat]? else none) = some x
    rw [if_pos hframe, Array.getElem?_push_lt hlt]
    exact (Array.getElem?_eq_getElem hlt).symm.trans hx
  next => cases hx

/-- What is stored is found, as long as the positions can be counted in 32 bits. -/
theorem find_alloc_self (hsize : a.size < 2 ^ 32) :
    (a.alloc x).2.find (a.alloc x).1 = some x := by
  have hindex : a.items.size.toUInt32.toNat = a.items.size := toNat_toUInt32 hsize
  show (if a.frame = a.frame then (a.items.push x)[a.items.size.toUInt32.toNat]? else none) = _
  rw [if_pos rfl, hindex]
  exact Array.getElem?_push_size

/-- What the handle of `x` reads once `x` is stored. -/
def readBack (a : FrameArena α) (x : α) : α :=
  ((a.alloc x).2.find (a.alloc x).1).getD x

/-- Whatever is stored, its handle reads something: positions wrap around, but not past the end. -/
theorem find_alloc (a : FrameArena α) (x : α) :
    (a.alloc x).2.find (a.alloc x).1 = some (a.readBack x) := by
  have hbound : a.items.size.toUInt32.toNat < (a.items.push x).size := by
    have hmod : a.items.size.toUInt32.toNat ≤ a.items.size := Nat.mod_le ..
    rw [Array.size_push]
    omega
  have hfind : (a.alloc x).2.find (a.alloc x).1 =
      some (a.items.push x)[a.items.size.toUInt32.toNat] :=
    (if_pos rfl).trans (Array.getElem?_eq_getElem hbound)
  rw [readBack, hfind]
  rfl

theorem get_alloc (a : FrameArena α) (x : α) :
    (a.alloc x).2.get (a.alloc x).1 = .ok (a.readBack x) :=
  get_eq_ok_iff.mpr (a.find_alloc x)

/-- As long as the positions can be counted in 32 bits, the handle reads what was stored. -/
theorem readBack_of_lt (hsize : a.size < 2 ^ 32) (x : α) : a.readBack x = x := by
  rw [readBack, find_alloc_self hsize]
  rfl

/-! ### Entries -/

theorem getElem?_entries (a : FrameArena α) (n : Nat) :
    a.entries[n]? = a.items[n]?.map fun x => (⟨a.frame, n.toUInt32⟩, x) := by
  rw [entries, List.getElem?_map, List.getElem?_zipIdx, Array.getElem?_toList, Option.map_map,
    Nat.zero_add]
  rfl

theorem length_entries (a : FrameArena α) : a.entries.length = a.size := by
  rw [entries, List.length_map, List.length_zipIdx, Array.length_toList, size]

theorem frame_of_mem_entries {e : FrameHandle × α} (he : e ∈ a.entries) : e.1.frame = a.frame := by
  obtain ⟨_, -, rfl⟩ := List.mem_map.mp he
  rfl

theorem toNat_toUInt32_of_lt_size (hsize : a.size ≤ 2 ^ 32) (hn : n < a.items.size) :
    n.toUInt32.toNat = n :=
  toNat_toUInt32 (Nat.lt_of_lt_of_le hn hsize)

/-- The entries are what the handles find. -/
theorem mem_entries (hsize : a.size ≤ 2 ^ 32) : (h, x) ∈ a.entries ↔ a.find h = some x := by
  rw [List.mem_iff_getElem?]
  simp only [getElem?_entries, Option.map_eq_some_iff, Prod.mk.injEq, exists_eq_right_right, find]
  constructor
  · rintro ⟨n, hx, rfl⟩
    have hn := toNat_toUInt32_of_lt_size hsize (Array.getElem?_eq_some_iff.mp hx).1
    rw [if_pos rfl, hn, hx]
  · intro hx
    split at hx
    next hframe =>
      refine ⟨h.index.toNat, hx, ?_⟩
      rw [← hframe, Nat.toUInt32, UInt32.ofNat_toNat]
    next => cases hx

theorem nodup_handles (hsize : a.size ≤ 2 ^ 32) : (a.entries.map Prod.fst).Nodup := by
  refine List.nodup_iff_getElem?_ne_getElem?.mpr fun m n hmn hn hsame => ?_
  rw [List.length_map, length_entries] at hn
  have hm : m < a.items.size := Nat.lt_trans hmn hn
  simp only [List.getElem?_map, getElem?_entries, Array.getElem?_eq_getElem hm,
    Array.getElem?_eq_getElem hn, Option.map_some, Option.some.injEq, FrameHandle.mk.injEq,
    true_and] at hsame
  have hindex := congrArg UInt32.toNat hsame
  rw [toNat_toUInt32_of_lt_size hsize hm, toNat_toUInt32_of_lt_size hsize hn] at hindex
  exact Nat.ne_of_lt hmn hindex

theorem entries_alloc (a : FrameArena α) (x : α) :
    (a.alloc x).2.entries = a.entries ++ [((a.alloc x).1, x)] := by
  rw [alloc, entries, Array.toList_push, List.zipIdx_append, List.map_append, entries,
    Array.length_toList, Nat.zero_add]
  rfl

/-- What is listed, after a value was put in the place of another. -/
def store (h : FrameHandle) (x : α) (current : List (FrameHandle × α)) : List (FrameHandle × α) :=
  current.map fun e => if e.1 = h then (h, x) else e

theorem size_replace (a : FrameArena α) (h : FrameHandle) (x : α) : (a.replace h x).size = a.size := by
  unfold replace
  split
  · exact Array.size_setIfInBounds
  · rfl

theorem frame_replace (a : FrameArena α) (h : FrameHandle) (x : α) :
    (a.replace h x).frame = a.frame := by
  unfold replace
  split <;> rfl

theorem store_of_notMem {current : List (FrameHandle × α)} (hnot : h ∉ current.map Prod.fst) :
    store h x current = current := by
  refine (List.map_congr_left fun e he => if_neg ?_).trans (List.map_id current)
  rintro rfl
  exact hnot (List.mem_map_of_mem he)

theorem entries_replace (hsize : a.size ≤ 2 ^ 32) :
    (a.replace h x).entries = store h x a.entries := by
  by_cases hframe : h.frame = a.frame
  · refine List.ext_getElem? fun n => ?_
    rw [store, List.getElem?_map, getElem?_entries, getElem?_entries, frame_replace, replace,
      if_pos hframe, Array.getElem?_setIfInBounds]
    cases hn : a.items[n]? with
    | none =>
        have hle := Array.getElem?_eq_none_iff.mp hn
        split
        next hsame => rw [if_neg (by omega)]; rfl
        next => rfl
    | some y =>
        have hlt := (Array.getElem?_eq_some_iff.mp hn).1
        have hindex := toNat_toUInt32_of_lt_size hsize hlt
        show _ = some (if (⟨a.frame, n.toUInt32⟩ : FrameHandle) = h then (h, x) else _)
        split
        next hsame =>
          subst hsame
          rw [← hframe, Nat.toUInt32, UInt32.ofNat_toNat, if_pos rfl, if_pos hlt]
          rfl
        next hother =>
          rw [if_neg]
          · rfl
          · rintro rfl
            exact hother hindex
  · have hnot : h ∉ a.entries.map Prod.fst := fun hmem => by
      obtain ⟨e, he, rfl⟩ := List.mem_map.mp hmem
      exact hframe (frame_of_mem_entries he)
    rw [replace, if_neg hframe, store_of_notMem hnot]

/-! ### Lives -/

/-- The life of an arena: how many values each completed frame held, the handles that were issued in
those, what was issued in the present frame, each handle with what was last stored under it, and the
arena now.  Looking changes nothing. -/
inductive Lived : List Nat → List FrameHandle → List (FrameHandle × α) → FrameArena α → Prop where
  | empty : Lived [] [] [] .empty
  | alloc {lengths : List Nat} {past : List FrameHandle} {current : List (FrameHandle × α)}
      {a : FrameArena α} (h : Lived lengths past current a) (x : α) :
      Lived lengths past (current ++ [((a.alloc x).1, x)]) (a.alloc x).2
  | replace {lengths : List Nat} {past : List FrameHandle} {current : List (FrameHandle × α)}
      {a : FrameArena α} (h : Lived lengths past current a) (handle : FrameHandle) (x : α) :
      Lived lengths past (store handle x current) (a.replace handle x)
  | set {lengths : List Nat} {past : List FrameHandle} {current : List (FrameHandle × α)}
      {a a' : FrameArena α} {handle : FrameHandle} {x : α} (h : Lived lengths past current a)
      (hrun : a.set handle x = .ok a') : Lived lengths past (store handle x current) a'
  | reset {lengths : List Nat} {past : List FrameHandle} {current : List (FrameHandle × α)}
      {a : FrameArena α} (h : Lived lengths past current a) :
      Lived (lengths ++ [a.size]) (past ++ current.map Prod.fst) [] a.reset

variable {lengths : List Nat} {past : List FrameHandle} {current : List (FrameHandle × α)}

/-- What holds throughout a life: the arena counts the frames, and lists what was issued in the
present one. -/
structure Keeps (lengths : List Nat) (past : List FrameHandle) (current : List (FrameHandle × α))
    (a : FrameArena α) : Prop where
  clock : a.frame = lengths.length.toUInt32
  highWater : a.highWater = lengths.foldl max 0
  past : ∀ h ∈ past, ∃ frame < lengths.length, h.frame = frame.toUInt32
  frames : ∀ e ∈ current, e.1.frame = a.frame
  size : a.size = current.length
  entries : current.length ≤ 2 ^ 32 → a.entries = current

namespace Keeps

theorem empty : Keeps [] [] [] (empty : FrameArena α) where
  clock := rfl
  highWater := rfl
  past := fun _ h => absurd h List.not_mem_nil
  frames := fun _ h => absurd h List.not_mem_nil
  size := rfl
  entries := fun _ => rfl

theorem alloc (hs : Keeps lengths past current a) (x : α) :
    Keeps lengths past (current ++ [((a.alloc x).1, x)]) (a.alloc x).2 where
  clock := hs.clock
  highWater := hs.highWater
  past := hs.past
  frames := by
    intro e he
    rcases List.mem_append.mp he with he | he
    · exact hs.frames e he
    · rw [List.mem_singleton.mp he]
      rfl
  size := by
    rw [List.length_append, List.length_singleton, ← hs.size]
    exact Array.size_push ..
  entries := by
    intro hlength
    rw [List.length_append] at hlength
    rw [entries_alloc, hs.entries (Nat.le_of_succ_le hlength)]

theorem replace (hs : Keeps lengths past current a) (h : FrameHandle) (x : α) :
    Keeps lengths past (store h x current) (a.replace h x) where
  clock := by rw [frame_replace, hs.clock]
  highWater := by rw [← hs.highWater]; unfold FrameArena.replace; split <;> rfl
  past := hs.past
  frames := by
    intro e he
    obtain ⟨e', he', rfl⟩ := List.mem_map.mp he
    rw [frame_replace, ← hs.frames e' he']
    split
    next hsame => rw [hsame]
    next => rfl
  size := by rw [size_replace, hs.size, store, List.length_map]
  entries := by
    intro hlength
    rw [store, List.length_map] at hlength
    rw [entries_replace (hs.size ▸ hlength), hs.entries hlength]

theorem set {a' : FrameArena α} (hs : Keeps lengths past current a) (hrun : a.set h x = .ok a') :
    Keeps lengths past (store h x current) a' := by
  unfold FrameArena.set at hrun
  cases hget : a.get h with
  | error fault =>
      rw [hget] at hrun
      cases hrun
  | ok _ =>
      rw [hget] at hrun
      cases hrun
      exact hs.replace h x

theorem reset (hs : Keeps lengths past current a) :
    Keeps (lengths ++ [a.size]) (past ++ current.map Prod.fst) [] a.reset where
  clock := by
    rw [List.length_append, List.length_singleton, FrameArena.reset, hs.clock]
    exact (UInt32.ofNat_add lengths.length 1).symm
  highWater := by rw [List.foldl_append, ← hs.highWater]; rfl
  past := by
    intro h hh
    rw [List.length_append, List.length_singleton]
    rcases List.mem_append.mp hh with hh | hh
    · obtain ⟨frame, hlt, hframe⟩ := hs.past h hh
      exact ⟨frame, Nat.lt_succ_of_lt hlt, hframe⟩
    · obtain ⟨e, he, rfl⟩ := List.mem_map.mp hh
      exact ⟨lengths.length, Nat.lt_succ_self _, (hs.frames e he).trans hs.clock⟩
  frames := fun _ h => absurd h List.not_mem_nil
  size := rfl
  entries := fun _ => rfl

/-- A handle of an earlier frame is told from those of the present one. -/
theorem frame_ne_of_past (hs : Keeps lengths past current a) (hlengths : lengths.length < 2 ^ 32)
    (hh : h ∈ past) : h.frame ≠ a.frame := by
  obtain ⟨frame, hlt, hframe⟩ := hs.past h hh
  intro hsame
  have hclock := congrArg UInt32.toNat (hframe.symm.trans (hsame.trans hs.clock))
  rw [toNat_toUInt32 (Nat.lt_trans hlt hlengths), toNat_toUInt32 hlengths] at hclock
  exact Nat.ne_of_lt hlt hclock

end Keeps

theorem Lived.keeps (h : Lived lengths past current a) : Keeps lengths past current a := by
  induction h with
  | empty => exact .empty
  | alloc _ x ih => exact ih.alloc x
  | replace _ handle x ih => exact ih.replace handle x
  | set _ hrun ih => exact ih.set hrun
  | reset _ ih => exact ih.reset

/-- Nothing is there under a handle, and nothing is done through it. -/
structure Misses (a : FrameArena α) (h : FrameHandle) : Prop where
  find : a.find h = none
  isLive : a.isLive h = false
  get : a.get h = .error (.staleFrame h.frame a.frame)
  replace : ∀ x, a.replace h x = a
  set : ∀ x, a.set h x = .error (.staleFrame h.frame a.frame)

theorem isLive_eq_isSome_find (a : FrameArena α) (h : FrameHandle) :
    a.isLive h = (a.find h).isSome := by
  unfold isLive find
  by_cases hframe : h.frame = a.frame
  · rw [if_pos hframe, hframe, beq_self_eq_true, Bool.true_and, Bool.eq_iff_iff, decide_eq_true_iff,
      Option.isSome_iff_exists]
    exact ⟨fun hlt => ⟨_, Array.getElem?_eq_getElem hlt⟩,
      fun ⟨_, hx⟩ => (Array.getElem?_eq_some_iff.mp hx).1⟩
  · rw [if_neg hframe, beq_false_of_ne hframe]
    rfl

theorem misses_of_find (hfind : a.find h = none) : a.Misses h where
  find := hfind
  isLive := by rw [isLive_eq_isSome_find, hfind]; rfl
  get := by rw [get, hfind]
  replace := by
    intro x
    unfold find at hfind
    unfold replace
    split
    next hframe =>
      rw [if_pos hframe, Array.getElem?_eq_none_iff] at hfind
      rw [Array.setIfInBounds_eq_of_size_le hfind]
    next => rfl
  set := by
    intro x
    rw [set, get, hfind]
    rfl

/-- What an arena lists and what its handles find, in the present frame and from the earlier ones. -/
structure Tells (lengths : List Nat) (past : List FrameHandle) (current : List (FrameHandle × α))
    (a : FrameArena α) : Prop where
  /-- A handle finds what was last stored under it in this frame, and nothing else does. -/
  find : ∀ h x, a.find h = some x ↔ (h, x) ∈ current
  get : ∀ h x, a.get h = .ok x ↔ (h, x) ∈ current
  isLive : ∀ h, a.isLive h = true ↔ h ∈ current.map Prod.fst
  set : ∀ h ∈ current.map Prod.fst, ∀ x, a.set h x = .ok (a.replace h x)
  misses : ∀ h ∉ current.map Prod.fst, a.Misses h
  distinct : (current.map Prod.fst).Nodup
  past : ∀ h ∈ past, a.Misses h
  entries : a.entries = current
  size : a.size = current.length
  /-- The most values that a completed frame held. -/
  highWater : a.highWater = lengths.max?.getD 0

/-- **An arena tells what was issued since the last reset**, as long as the frames, and the values of
the present one, can be counted in 32 bits. -/
theorem Lived.tells_current (h : Lived lengths past current a) (hlengths : lengths.length < 2 ^ 32)
    (hcurrent : current.length < 2 ^ 32) : Tells lengths past current a := by
  have hkeeps := h.keeps
  have hsize : a.size ≤ 2 ^ 32 := hkeeps.size ▸ Nat.le_of_lt hcurrent
  have hentries := hkeeps.entries (Nat.le_of_lt hcurrent)
  have hfind (h : FrameHandle) (x : α) : a.find h = some x ↔ (h, x) ∈ current := by
    rw [← mem_entries hsize, hentries]
  have hfound (h : FrameHandle) : (a.find h).isSome ↔ h ∈ current.map Prod.fst := by
    rw [Option.isSome_iff_exists, List.mem_map]
    simp [hfind]
  exact {
    find := hfind
    get := fun h x => get_eq_ok_iff.trans (hfind h x)
    isLive := fun h => by rw [isLive_eq_isSome_find, hfound]
    set := by
      intro h hh x
      obtain ⟨y, hy⟩ := Option.isSome_iff_exists.mp ((hfound h).mpr hh)
      rw [FrameArena.set, get_eq_ok_iff.mpr hy]
      rfl
    misses := fun h hh => misses_of_find (Option.not_isSome_iff_eq_none.mp (mt (hfound h).mp hh))
    distinct := hentries ▸ nodup_handles hsize
    past := by
      intro h hh
      refine misses_of_find ?_
      rw [find, if_neg (hkeeps.frame_ne_of_past hlengths hh)]
    entries := hentries
    size := hkeeps.size
    highWater := by rw [hkeeps.highWater, List.foldl_max, Nat.zero_max] }

/-- Two values in the first frame, the second written to, and one in the next frame, at the position
of the first. -/
theorem tells_current_after_reset :
    let first := (((empty : FrameArena Nat).alloc 10).2.alloc 20).2.replace ⟨0, 1⟩ 21
    let second := (first.reset.alloc 30).2
    first.entries = [(⟨0, 0⟩, 10), (⟨0, 1⟩, 21)] ∧ first.get ⟨0, 1⟩ = .ok 21 ∧
      second.entries = [(⟨1, 0⟩, 30)] ∧ second.Misses ⟨0, 0⟩ ∧ second.highWater = 2 := by
  intro first second
  have hfirst : Lived [] [] [(⟨0, 0⟩, 10), (⟨0, 1⟩, 21)] first :=
    ((Lived.empty.alloc 10).alloc 20).replace ⟨0, 1⟩ 21
  have hsecond : Lived [2] [⟨0, 0⟩, ⟨0, 1⟩] [(⟨1, 0⟩, 30)] second := hfirst.reset.alloc 30
  have htells := hfirst.tells_current (by decide) (by decide)
  have htells' := hsecond.tells_current (by decide) (by decide)
  exact ⟨htells.entries, (htells.get _ _).mpr (by decide), htells'.entries,
    htells'.past _ (by decide), htells'.highWater⟩

end FrameArena

end MaterialPipeline
