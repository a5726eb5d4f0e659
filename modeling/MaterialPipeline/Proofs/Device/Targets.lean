import MaterialPipeline.Proofs.Device.Objects

/-!
# Proofs — Device — Targets

The offscreen targets of a device, by the trace: which were created, which were destroyed, and who
holds the rest.

* `Device.LiveTarget`: created and not destroyed.
* `Device.Spares`: nothing that happened between two devices created or destroyed a target.
* `Device.Accounted`: every target that was created is held or was destroyed, each once; one lemma for
each way a target comes or goes.
* `Device.Accounted.live_iff`: what is held is what is live.
-/

namespace MaterialPipeline

/-- The target that a call destroys, if it destroys one. -/
def Call.destroyedTarget? : Call → Option TargetHandle
  | destroyTarget t => some t
  | _ => none

namespace Device

variable {d d' d'' : Device} {t : TargetHandle} {held held' : List TargetHandle}

/-- The targets that were created. -/
def createdTargets (d : Device) : List TargetHandle :=
  (List.range d.targets.size).map (⟨·⟩)

/-- The targets that were destroyed, as often as they were. -/
def destroyedTargets (d : Device) : List TargetHandle :=
  d.calls.toList.filterMap Call.destroyedTarget?

/-- The target was created and not destroyed. -/
def LiveTarget (d : Device) (t : TargetHandle) : Prop :=
  t ∈ d.createdTargets ∧ t ∉ d.destroyedTargets

theorem nodup_createdTargets (d : Device) : d.createdTargets.Nodup :=
  List.nodup_range.map fun _ _ h => congrArg Handle.number h

theorem createdTargets_congr (h : d'.targets.size = d.targets.size) :
    d'.createdTargets = d.createdTargets := by
  rw [createdTargets, h, createdTargets]

theorem createdTargets_of_succ (h : d'.targets.size = d.targets.size + 1) :
    d'.createdTargets = d.createdTargets ++ [⟨d.targets.size⟩] := by
  rw [createdTargets, h, List.range_succ, List.map_append, createdTargets, List.map_singleton]

/-- The number of the next target is new. -/
theorem notMem_createdTargets (d : Device) :
    (⟨d.targets.size⟩ : TargetHandle) ∉ d.createdTargets := by
  intro hmem
  obtain ⟨n, hn, heq⟩ := List.mem_map.mp hmem
  cases heq
  exact List.not_mem_range_self hn

theorem targets_issue (d : Device) (c : Call) : (d.issue c).targets = d.targets := by
  cases c <;> rfl

theorem destroyedTargets_push {c : Call} (h : d'.calls = d.calls.push c) :
    d'.destroyedTargets = d.destroyedTargets ++ c.destroyedTarget?.toList := by
  rw [destroyedTargets, h, Array.toList_push, List.filterMap_append, destroyedTargets]
  cases hc : c.destroyedTarget? with
  | none => rw [List.filterMap_cons_none hc]; rfl
  | some t => rw [List.filterMap_cons_some hc]; rfl

/-! ### Nothing about targets -/

/-- No target is created or destroyed on the way from one device to another. -/
structure Spares (d d' : Device) : Prop where
  created : d'.targets.size = d.targets.size
  destroyed : d'.destroyedTargets = d.destroyedTargets

namespace Spares

theorem refl (d : Device) : d.Spares d :=
  ⟨rfl, rfl⟩

theorem trans (h : d.Spares d') (h' : d'.Spares d'') : d.Spares d'' :=
  ⟨h'.created.trans h.created, h'.destroyed.trans h.destroyed⟩

theorem push {c : Call} (hcreated : d'.targets.size = d.targets.size)
    (hcalls : d'.calls = d.calls.push c) (hc : c.destroyedTarget? = none) : d.Spares d' := by
  refine ⟨hcreated, ?_⟩
  rw [destroyedTargets_push hcalls, hc, Option.toList_none, List.append_nil]

end Spares

theorem spares_issue {c : Call} (hc : c.destroyedTarget? = none) : d.Spares (d.issue c) :=
  .push (congrArg Array.size (d.targets_issue c)) (calls_issue c) hc

/-- Objects of materials are not targets. -/
theorem Works.spares (h : d.Works d') : d.Spares d' := by
  induction h with
  | refl => exact .refl d
  | @createProgram d' _ p ih =>
      refine ih.trans ?_
      rcases createProgram_cases d' p with ⟨error, he⟩ | he <;> rw [he] <;> exact .push rfl rfl rfl
  | createState _ b ih => exact ih.trans (.push rfl rfl rfl)
  | @loadTexture d' _ path ih =>
      refine ih.trans ?_
      rcases loadTexture_cases d' path with ⟨error, he⟩ | he <;> rw [he] <;> exact .push rfl rfl rfl
  | destroy _ o ih => exact ih.trans (spares_issue (by cases o <;> rfl))

/-! ### Accounts of targets -/

/-- Every target that was created is held or was destroyed, and only one of these, and once. -/
def Accounted (d : Device) (held : List TargetHandle) : Prop :=
  (held ++ d.destroyedTargets).Perm d.createdTargets

/-- A new device has no targets. -/
theorem accounted_default : ({} : Device).Accounted [] :=
  .refl _

namespace Accounted

theorem congr (h : d.Accounted held) (hheld : held'.Perm held) : d.Accounted held' :=
  (hheld.append_right _).trans h

theorem spares (h : d.Accounted held) (hd : d.Spares d') : d'.Accounted held := by
  rw [Accounted, hd.destroyed, createdTargets_congr hd.created]
  exact h

/-- A new target is held by whoever asked for it. -/
theorem create (h : d.Accounted held) (hcreated : d'.targets.size = d.targets.size + 1)
    (hdestroyed : d'.destroyedTargets = d.destroyedTargets) :
    d'.Accounted (⟨d.targets.size⟩ :: held) := by
  rw [Accounted, hdestroyed, createdTargets_of_succ hcreated]
  exact (h.cons _).trans (List.perm_append_singleton ..).symm

/-- A target that is held may go. -/
theorem gone (h : d.Accounted (t :: held)) (hcreated : d'.targets.size = d.targets.size)
    (hdestroyed : d'.destroyedTargets = d.destroyedTargets ++ [t]) : d'.Accounted held := by
  rw [Accounted, hdestroyed, createdTargets_congr hcreated, ← List.append_assoc]
  exact (List.perm_append_singleton ..).trans h

theorem destroy (h : d.Accounted (t :: held)) : (d.issue (.destroyTarget t)).Accounted held :=
  h.gone rfl (destroyedTargets_push (calls_issue _))

theorem nodup (h : d.Accounted held) : (held ++ d.destroyedTargets).Nodup :=
  h.nodup_iff.mpr d.nodup_createdTargets

/-- What is held is what is live. -/
theorem live_iff (h : d.Accounted held) : d.LiveTarget t ↔ t ∈ held := by
  rw [LiveTarget, ← h.mem_iff, List.mem_append]
  constructor
  · rintro ⟨hheld | hgone, hlive⟩
    · exact hheld
    · exact absurd hgone hlive
  · intro hheld
    exact ⟨.inl hheld, List.disjoint_of_nodup_append h.nodup hheld⟩

end Accounted

end Device

end MaterialPipeline
