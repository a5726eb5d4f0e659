import MaterialPipeline.Pipeline
import MaterialPipeline.Proofs.Frame.Order
import MaterialPipeline.Proofs.Session.Runs

/-!
# Proofs — Frame — Routing

Where an object goes.  Routing offers it to one bin after another and changes the bins on the way;
no bin changes how another answers, so where the object goes can be read off the bins as they were.

* `Pipeline.visits`: the positions that are offered the object.
* `Pipeline.claimants`: the names of the bins that claim it.
* `Pipeline.route_eq`: routing in terms of both.
* `Pipeline.Listed`: both orders of a pipeline list every bin once, in whatever order.
* `Pipeline.InOrder`: both orders of a pipeline are those of its bins.
-/

namespace MaterialPipeline

/-! ### Counting claims -/

namespace FrameStats

theorem find?_countUp (name other : String) (claims : List (String × Nat)) :
    (((countUp name claims).find? (·.1 == other)).map (·.2)).getD 0 =
      ((claims.find? (·.1 == other)).map (·.2)).getD 0 + if name = other then 1 else 0 := by
  induction claims with
  | nil => by_cases h : name = other <;> simp [countUp, h]
  | cons c rest ih =>
      obtain ⟨first, n⟩ := c
      rw [countUp]
      by_cases hname : first = name
      · subst hname
        by_cases hother : first = other <;> simp [hother]
      · by_cases hother : first = other
        · have hne : ¬ name = other := fun e => hname (hother.trans e.symm)
          rw [if_neg hname, if_neg hne]
          simp [hother]
        · simpa [hname, hother] using ih

theorem claimsFor_claim (s : FrameStats) (name other : String) :
    (s.claim name).claimsFor other = s.claimsFor other + if name = other then 1 else 0 :=
  find?_countUp name other s.claims

end FrameStats

namespace Pipeline

variable {h : FrameHandle} {o : Submission} {order : List Nat} {bins : List Bin} {n : Nat}

/-! ### Visits -/

/-- The positions of `order` up to the first that answers `stopped`. -/
def visits (answer : Nat → Option Claim) : List Nat → List Nat
  | [] => []
  | n :: rest => n :: if answer n = some .stopped then [] else visits answer rest

section Visits

variable {answer answer' : Nat → Option Claim}

theorem visits_isPrefix : ∀ order, visits answer order <+: order
  | [] => List.prefix_rfl
  | n :: rest => by
      rw [visits]
      split
      · exact ⟨rest, rfl⟩
      · exact List.cons_prefix_cons.mpr ⟨rfl, visits_isPrefix rest⟩

theorem visits_congr (he : ∀ n ∈ order, answer n = answer' n) :
    visits answer order = visits answer' order := by
  induction order with
  | nil => rfl
  | cons n rest ih =>
      rw [visits, visits, he n List.mem_cons_self,
        ih fun m hm => he m (List.mem_cons_of_mem n hm)]

/-- Only the last position that is visited may stop the object. -/
theorem answer_ne_stopped_of_mem_dropLast (hn : n ∈ (visits answer order).dropLast) :
    answer n ≠ some .stopped := by
  induction order with
  | nil => simp [visits] at hn
  | cons m rest ih =>
      rw [visits] at hn
      split at hn
      · simp at hn
      next hm =>
        cases hv : visits answer rest with
        | nil => simp [hv] at hn
        | cons k ks =>
            rw [hv, List.dropLast_cons_cons, List.mem_cons] at hn
            rcases hn with rfl | hn
            · exact hm
            · exact ih (hv ▸ hn)

/-- The visits end at a position that stops the object, or at the last one. -/
theorem visits_eq_or_getLast? : ∀ order, visits answer order = order ∨
    ∃ n ∈ (visits answer order).getLast?, answer n = some .stopped
  | [] => .inl rfl
  | n :: rest => by
      rw [visits]
      split
      next hn => exact .inr ⟨n, rfl, hn⟩
      next hn =>
        refine (visits_eq_or_getLast? rest).imp (congrArg _) fun ⟨m, hm, hstop⟩ => ⟨m, ?_, hstop⟩
        obtain ⟨init, he⟩ := List.getLast?_eq_some_iff.mp hm
        rw [he, ← List.cons_append, List.getLast?_concat]
        rfl

end Visits

/-! ### Routing -/

/-- How the bin at a position answers. -/
def answerAt (h : FrameHandle) (o : Submission) (bins : List Bin) (n : Nat) : Option Claim :=
  bins[n]?.map fun b => (b.offer h o).1

/-- The name of a bin, if it claims the object. -/
def claimant (h : FrameHandle) (o : Submission) (b : Bin) : Option String :=
  if (b.offer h o).1.isClaimed then some b.name else none

/-- The names of the bins at some positions that claim the object. -/
def claimants (h : FrameHandle) (o : Submission) (bins : List Bin) (positions : List Nat) :
    List String :=
  positions.filterMap fun n => bins[n]?.bind (claimant h o)

/-- Offering the object to one bin does not change how the others answer. -/
theorem visits_set (b : Bin) (hn : n ∉ order) :
    visits (answerAt h o (bins.set n b)) order = visits (answerAt h o bins) order :=
  visits_congr fun m hm => by
    rw [answerAt, answerAt, List.getElem?_set_ne (ne_of_mem_of_not_mem hm hn).symm]

theorem claimants_set (b : Bin) (hn : n ∉ order) :
    claimants h o (bins.set n b) order = claimants h o bins order :=
  List.filterMap_congr fun m hm => by
    rw [List.getElem?_set_ne (ne_of_mem_of_not_mem hm hn).symm]

/-- Offers the object to the bin at a position. -/
def offerAt (h : FrameHandle) (o : Submission) (bins : List Bin) (n : Nat) : List Bin :=
  bins.modify n fun b => (b.offer h o).2

theorem name_offer (b : Bin) : (b.offer h o).2.name = b.name := by
  simp only [Bin.offer]
  split <;> rfl

/-- An object is offered to the bins visited, in order, and each claim is counted. -/
theorem route_eq (horder : order.Nodup) (hbins : ∀ n ∈ order, n < bins.length)
    (stats : FrameStats) :
    route h o order bins stats =
      (claimants h o bins (visits (answerAt h o bins) order),
        (visits (answerAt h o bins) order).foldl (offerAt h o) bins,
        (claimants h o bins (visits (answerAt h o bins) order)).foldl FrameStats.claim stats) := by
  induction order generalizing bins stats with
  | nil => rfl
  | cons n rest ih =>
      obtain ⟨hn, hrest⟩ := List.nodup_cons.mp horder
      obtain ⟨b, hb⟩ : ∃ b, bins[n]? = some b :=
        ⟨_, List.getElem?_eq_getElem (hbins n List.mem_cons_self)⟩
      have hoffer : offerAt h o bins n = bins.set n (b.offer h o).2 := by
        rw [offerAt, List.modify_eq_set_getElem?, hb]
        rfl
      have hnotmem : n ∉ visits (answerAt h o bins) rest :=
        fun hv => hn ((visits_isPrefix rest).subset hv)
      have hlength : ∀ m ∈ rest, m < (bins.set n (b.offer h o).2).length := by
        intro m hm
        rw [List.length_set]
        exact hbins m (List.mem_cons_of_mem n hm)
      have ih := ih hrest hlength
      simp only [visits_set _ hn, claimants_set _ hnotmem] at ih
      have hanswer : answerAt h o bins n = some (b.offer h o).1 := by rw [answerAt, hb]; rfl
      have hclaimants (positions : List Nat) : claimants h o bins (n :: positions) =
          (if (b.offer h o).1.isClaimed then [b.name] else []) ++ claimants h o bins positions := by
        simp only [claimants, List.filterMap_cons, hb, Option.bind_some, claimant]
        cases (b.offer h o).1.isClaimed <;> rfl
      simp only [route, hb, visits, hanswer, hclaimants, List.foldl_cons, hoffer, ih]
      cases hclaim : (b.offer h o).1 with
      | skipped => rfl
      | stopped => simp only [name_offer]; rfl
      | added => simp only [name_offer]; rfl

theorem getElem?_foldl_offerAt {visited : List Nat} (hv : visited.Nodup) :
    (visited.foldl (offerAt h o) bins)[n]? =
      if n ∈ visited then bins[n]?.map fun b => (b.offer h o).2 else bins[n]? := by
  induction visited generalizing bins with
  | nil => rfl
  | cons m rest ih =>
      obtain ⟨hm, hrest⟩ := List.nodup_cons.mp hv
      rw [List.foldl_cons, ih hrest, offerAt, List.getElem?_modify]
      by_cases hmn : m = n
      · subst hmn
        simp [hm]
      · simp [hmn, Ne.symm hmn]

theorem claimsFor_foldl_claim (names : List String) (stats : FrameStats) (name : String) :
    (names.foldl FrameStats.claim stats).claimsFor name =
      stats.claimsFor name + names.count name := by
  induction names generalizing stats with
  | nil => rfl
  | cons other rest ih =>
      rw [List.foldl_cons, ih, FrameStats.claimsFor_claim, List.count_cons]
      simp only [beq_iff_eq]
      omega

theorem foldl_claim_eq (names : List String) (stats : FrameStats) :
    names.foldl FrameStats.claim stats =
      { stats with claims := (names.foldl FrameStats.claim stats).claims } := by
  induction names generalizing stats with
  | nil => rfl
  | cons other rest ih => rw [List.foldl_cons, ih]; rfl

theorem isClaimed_eq_false_iff {c : Claim} : c.isClaimed = false ↔ c = .skipped := by
  cases c <;> decide

/-- No bin claims the object exactly if all of them pass it over. -/
theorem claimants_visits_eq_nil_iff :
    claimants h o bins (visits (answerAt h o bins) order) = [] ↔
      ∀ n ∈ order, ∀ b, bins[n]? = some b → (b.offer h o).1 = .skipped := by
  have hnil (positions : List Nat) : claimants h o bins positions = [] ↔
      ∀ n ∈ positions, ∀ b, bins[n]? = some b → (b.offer h o).1 = .skipped := by
    simp only [claimants, List.filterMap_eq_nil_iff, Option.bind_eq_none_iff, claimant,
      ← isClaimed_eq_false_iff]
    simp
  rw [hnil]
  refine ⟨fun hskip => ?_, fun hskip n hn => hskip n ((visits_isPrefix order).subset hn)⟩
  have hends : visits (answerAt h o bins) order = order ∨ _ := visits_eq_or_getLast? order
  rcases hends with he | ⟨n, hn, hstop⟩
  · exact he ▸ hskip
  · -- The bin that stopped the object would have claimed it.
    obtain ⟨b, hb, hanswer⟩ := Option.map_eq_some_iff.mp hstop
    have := hskip n (List.mem_of_mem_getLast? hn) b hb
    rw [hanswer] at this
    cases this

/-! ### The orders -/

/-- The key by which bins are offered objects. -/
def addKey (b : Bin) : Int :=
  b.core.addOrder.totalKey

/-- The key by which bins draw. -/
def renderKey (b : Bin) : Int :=
  b.core.renderOrder.totalKey

/-- Both orders list every bin once. -/
structure Listed (p : Pipeline) : Prop where
  adding : Positions p.bins p.addOrder
  drawing : Positions p.bins p.renderOrder

/-- Both orders are those of the bins. -/
structure InOrder (p : Pipeline) : Prop where
  adding : OrderedBy addKey p.bins p.addOrder
  drawing : OrderedBy renderKey p.bins p.renderOrder

theorem InOrder.listed {p : Pipeline} (hp : p.InOrder) : p.Listed :=
  ⟨hp.adding.positions, hp.drawing.positions⟩

theorem inOrder_reorder (p : Pipeline) : p.reorder.InOrder where
  adding := orderedBy_stableOrder addKey p.bins
  drawing := orderedBy_stableOrder renderKey p.bins

/-- The places that a bin declares. -/
def declared (b : Bin) : Single × Single :=
  (b.core.renderOrder, b.core.addOrder)

/-- The bins of `p'` declare the places that those of `p` do, and the orders are those of `p`. -/
structure KeepsPlaces (p p' : Pipeline) : Prop where
  bins : p'.bins.map declared = p.bins.map declared
  adding : p'.addOrder = p.addOrder
  drawing : p'.renderOrder = p.renderOrder

/-- Bins that declare the same places stay in order. -/
theorem InOrder.congr {p p' : Pipeline} (hp : p.InOrder) (h : p.KeepsPlaces p') : p'.InOrder := by
  have hkey (key : Single × Single → Int) :
      p'.bins.map (key ∘ declared) = p.bins.map (key ∘ declared) := by
    rw [← List.map_map, h.bins, List.map_map]
  exact ⟨h.adding ▸ hp.adding.congr (hkey (·.2.totalKey)),
    h.drawing ▸ hp.drawing.congr (hkey (·.1.totalKey))⟩

theorem declared_offer (b : Bin) : declared (b.offer h o).2 = declared b := by
  simp only [Bin.offer]
  split <;> rfl

end Pipeline

end MaterialPipeline
