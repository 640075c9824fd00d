import GpuReservation.Proofs.SweepVictims
import GpuReservation.Proofs.TerminationWarnings

/-!
# Warnings planned from the warnings written

A plan for headroom goes by the deadline a pod carries.  Of the pods as they are once a plan was
carried out, the next one says the same, unless the deadline of a boundary was written short of its
fraction of a second.
-/

namespace GpuReservation.Proofs

open GpuReservation.Library GpuReservation.Model

/-- The view with another deadline read off the pod. -/
def retime (read : Uid → Option Instant) (v : PodRuntimeView) : PodRuntimeView :=
  { v with terminationWarningAt := read v.uid }

section Retime

variable (s : ControllerState) (capacity : Dict String Nat) (pods : List PodRuntimeView)
  (now boundary : Instant) (read : Uid → Option Instant)

lemma freeCapacityByClass_retime :
    freeCapacityByClass capacity (pods.map (retime read)) = freeCapacityByClass capacity pods := by
  unfold freeCapacityByClass
  simp only [List.filter_map, List.map_map]
  rfl

lemma chainedGpus_retime (rid : Nat) :
    s.chainedGpus (pods.map (retime read)) now rid = s.chainedGpus pods now rid := by
  unfold ControllerState.chainedGpus
  rw [List.filter_map, List.map_map]
  rfl

lemma boundaryDemand_retime :
    s.boundaryDemand boundary (pods.map (retime read)) now = s.boundaryDemand boundary pods now := by
  have hneed : ∀ r, s.need (pods.map (retime read)) now r = s.need pods now r := fun r => by
    rw [ControllerState.need, chainedGpus_retime, ControllerState.need]
  have hadd : s.addDemand (pods.map (retime read)) now = s.addDemand pods now := by
    funext demand r
    simp only [ControllerState.addDemand, hneed]
  rw [ControllerState.boundaryDemand, hadd, ControllerState.boundaryDemand]

lemma guaranteeEndByUid_retime :
    s.guaranteeEndByUid (pods.map (retime read)) now = s.guaranteeEndByUid pods now := by
  unfold ControllerState.guaranteeEndByUid
  rw [List.filter_map, List.map_map]
  rfl

lemma preemptable_retime (gpuClass : String) :
    s.preemptable gpuClass (pods.map (retime read)) now =
      (s.preemptable gpuClass pods now).map (retime read) := by
  unfold ControllerState.preemptable
  rw [List.filter_map]
  rfl

lemma forecastKills_retime :
    (forecastAt s capacity (pods.map (retime read)) now boundary).killsNeededByClass =
      (forecastAt s capacity pods now boundary).killsNeededByClass := by
  unfold forecastAt ControllerState.forecastBoundaryNeed
  dsimp only
  rw [boundaryDemand_retime, freeCapacityByClass_retime]

lemma forecastEligible_retime (gpuClass : String) :
    ((forecastAt s capacity (pods.map (retime read)) now boundary).eligibleByClass.get? gpuClass).getD [] =
      (((forecastAt s capacity pods now boundary).eligibleByClass.get? gpuClass).getD []).map
        (retime read) := by
  unfold forecastAt ControllerState.forecastBoundaryNeed
  dsimp only
  rw [guaranteeEndByUid_retime, Dict.get?_foldl_collect, Dict.get?_foldl_collect]
  simp only [List.filter_map, List.map_map]
  rfl

lemma forecastPool_retime (gpuClass : String) :
    ((forecastAt s capacity (pods.map (retime read)) now boundary).poolGpusByClass.get? gpuClass).getD 0 =
      ((forecastAt s capacity pods now boundary).poolGpusByClass.get? gpuClass).getD 0 := by
  rw [forecast_poolGpus, forecast_poolGpus, forecastEligible_retime, List.map_map]
  rfl

/-- A warning of the retimed view. -/
def retimeWarning (w : TerminationWarning) : TerminationWarning := { w with view := retime read w.view }

@[simp] lemma retimeWarning_terminateAt (w : TerminationWarning) :
    (retimeWarning read w).terminateAt = w.terminateAt := rfl

lemma warnedOf_retime (lead : Int) (guaranteeEndByUid : Dict Uid (Option Instant)) (uid : Uid)
    (e : String × Nat) :
    warnedOf (forecastAt s capacity (pods.map (retime read)) now boundary) boundary lead
        guaranteeEndByUid uid e =
      (warnedOf (forecastAt s capacity pods now boundary) boundary lead guaranteeEndByUid uid e).map
        (retimeWarning read) := by
  unfold warnedOf
  rw [forecastPool_retime, forecastEligible_retime, List.findSome?_map]
  split
  · rfl
  · rw [List.map_findSome?]
    congr 1
    funext p
    have hsame : (retime read p).uid = p.uid := rfl
    rw [Function.comp_apply, Function.comp_apply, hsame]
    by_cases huid : p.uid = uid
    · rw [if_pos huid, if_pos huid]
      rfl
    · rw [if_neg huid, if_neg huid]
      rfl

lemma warningAt_retime (lead : Int) (uid : Uid) :
    warningAt s capacity (pods.map (retime read)) now lead uid boundary =
      (warningAt s capacity pods now lead uid boundary).map (retimeWarning read) := by
  unfold warningAt
  rw [forecastKills_retime, guaranteeEndByUid_retime, List.map_findSome?]
  congr 1
  funext e
  exact warnedOf_retime s capacity pods now boundary read lead _ uid e

/-- The boundary warnings go by nothing that was read off the annotations. -/
lemma planTerminationWarnings_retime (boundaries : List Instant) (lead : Int) (uid : Uid) :
    (s.planTerminationWarnings boundaries capacity (pods.map (retime read)) now lead).get? uid =
      ((s.planTerminationWarnings boundaries capacity pods now lead).get? uid).map
        (retimeWarning read) := by
  rw [get?_planTerminationWarnings, get?_planTerminationWarnings, List.map_findSome?]
  congr 1
  funext b
  exact warningAt_retime s capacity pods now b read lead uid

lemma headroomShortfall_retime (percent : Nat) :
    ControllerState.headroomShortfallByClass capacity (pods.map (retime read)) percent =
      ControllerState.headroomShortfallByClass capacity pods percent := by
  unfold ControllerState.headroomShortfallByClass
  rw [freeCapacityByClass_retime]

end Retime

section Headroom

variable {s : ControllerState} {capacity : Dict String Nat} {pods : List PodRuntimeView}
  {now : Instant} {percent : Nat} {notice : Int} {p : PodRuntimeView}

/-- The class of the pod is short of headroom, and the pod may be taken for it. -/
def HeadroomRisk (s : ControllerState) (capacity : Dict String Nat) (pods : List PodRuntimeView)
    (now : Instant) (percent : Nat) (p : PodRuntimeView) : Prop :=
  p.gpuClass ∈ ControllerState.headroomShortfallByClass capacity pods percent ∧
    p ∈ s.preemptable p.gpuClass pods now

/-- The warning of a pod, in a class which is so many GPUs short. -/
def headroomWarning (s : ControllerState) (pods : List PodRuntimeView) (now : Instant) (notice : Int)
    (p : PodRuntimeView) (short : Nat) : TerminationWarning where
  view := p
  terminateAt := p.terminationWarningAt.getD (now + notice)
  risk := ControllerState.riskOf short ((s.preemptable p.gpuClass pods now).map (·.gpuCount)).sum

lemma get?_warnHeadroomClass_of_ne (warnings : Dict Uid TerminationWarning) {e : String × Nat}
    (hpool : ∀ v ∈ s.preemptable e.1 pods now, v.uid ≠ p.uid) :
    (s.warnHeadroomClass pods now notice warnings e).get? p.uid = warnings.get? p.uid := by
  unfold ControllerState.warnHeadroomClass
  dsimp only
  split
  · rfl
  · refine List.foldlRecOn (motive := fun d : Dict Uid TerminationWarning =>
      d.get? p.uid = warnings.get? p.uid) _ _ rfl fun d hd v hv => ?_
    rw [Dict.get?_set_of_ne _ _ (hpool v hv).symm, hd]

lemma get?_warnHeadroomClass_of_mem (hpods : (pods.map (·.uid)).Nodup)
    (hpool : p ∈ s.preemptable p.gpuClass pods now) (warnings : Dict Uid TerminationWarning) (n : Nat) :
    (s.warnHeadroomClass pods now notice warnings (p.gpuClass, n)).get? p.uid =
      some (headroomWarning s pods now notice p n) := by
  have hgpus : ((s.preemptable p.gpuClass pods now).map (·.gpuCount)).sum ≠ 0 := by
    have hcount : 0 < p.gpuCount := (mem_preemptable hpool).2.2.2.2.2.2.1
    have hle : p.gpuCount ≤ ((s.preemptable p.gpuClass pods now).map (·.gpuCount)).sum :=
      List.le_sum_of_mem (List.mem_map_of_mem hpool)
    omega
  unfold ControllerState.warnHeadroomClass
  dsimp only
  rw [if_neg hgpus]
  refine foldl_of_mem (P := fun d : Dict Uid TerminationWarning =>
    d.get? p.uid = some (headroomWarning s pods now notice p n)) hpool
    (fun d => Dict.get?_set_self _ _ _) (fun v hv d hd => ?_) warnings
  by_cases huid : v.uid = p.uid
  · obtain rfl := view_of_uid hpods (mem_preemptable hv).1 (mem_preemptable hpool).1 huid
    exact Dict.get?_set_self _ _ _
  · rw [Dict.get?_set_of_ne _ _ (Ne.symm huid), hd]

/-- A pod is warned for headroom exactly if it is at risk for it. -/
lemma get?_planHeadroomWarnings (hpods : (pods.map (·.uid)).Nodup) (hp : p ∈ pods) :
    (s.planHeadroomWarnings capacity pods now percent notice).get? p.uid =
      if p ∈ s.preemptable p.gpuClass pods now then
        ((ControllerState.headroomShortfallByClass capacity pods percent).get? p.gpuClass).map
          (headroomWarning s pods now notice p)
      else none := by
  have hother : ∀ gpuClass, gpuClass ≠ p.gpuClass ∨ p ∉ s.preemptable p.gpuClass pods now →
      ∀ v ∈ s.preemptable gpuClass pods now, v.uid ≠ p.uid := by
    rintro gpuClass hnot v hv huid
    obtain rfl := view_of_uid hpods (mem_preemptable hv).1 hp huid
    have hclass := (mem_preemptable hv).2.1
    rcases hnot with hne | hnot
    · exact hne hclass.symm
    · exact hnot (hclass ▸ hv)
  unfold ControllerState.planHeadroomWarnings
  split
  · rename_i hpool
    have hstep : ∀ (d : Dict Uid TerminationWarning) (e : String × Nat),
        (s.warnHeadroomClass pods now notice d e).get? p.uid =
          if e.1 = p.gpuClass then some (headroomWarning s pods now notice p e.2) else d.get? p.uid := by
      rintro d ⟨gpuClass, n⟩
      split
      · rename_i hclass
        dsimp only at hclass
        subst hclass
        exact get?_warnHeadroomClass_of_mem hpods hpool d n
      · rename_i hne
        exact get?_warnHeadroomClass_of_ne d (hother gpuClass (.inl hne))
    refine (Dict.foldl_entries_of_key (fun d : Dict Uid TerminationWarning => d.get? p.uid) p.gpuClass
      (fun n => some (headroomWarning s pods now notice p n)) hstep _ ∅).trans ?_
    cases (ControllerState.headroomShortfallByClass capacity pods percent).get? p.gpuClass <;> rfl
  · rename_i hnot
    refine List.foldlRecOn (motive := fun d : Dict Uid TerminationWarning => d.get? p.uid = none) _ _ rfl
      fun d hd e _ => ?_
    rw [get?_warnHeadroomClass_of_ne d (hother e.1 (.inr hnot)), hd]

end Headroom

section Merged

variable (config : Config) (s : ControllerState) (boundaries : List Instant)
  (capacity : Dict String Nat) (pods : List PodRuntimeView) (now : Instant)

/-- Of the warning there is and another one, the sooner. -/
def soonerOf (existing : Option TerminationWarning) (w : TerminationWarning) : TerminationWarning :=
  match existing with
  | none => w
  | some b => if w.terminateAt < b.terminateAt then w else b

lemma get?_mergeWarning (warnPlan : Dict Uid TerminationWarning) (e : Uid × TerminationWarning)
    (uid : Uid) : (ControllerState.mergeWarning warnPlan e).get? uid =
      if e.1 = uid then some (soonerOf (warnPlan.get? uid) e.2) else warnPlan.get? uid := by
  unfold ControllerState.mergeWarning soonerOf
  by_cases huid : e.1 = uid
  · subst huid
    rw [if_pos rfl]
    cases hget : warnPlan.get? e.1 with
    | none => exact Dict.get?_set_self _ _ _
    | some b =>
      dsimp only
      split
      · exact Dict.get?_set_self _ _ _
      · exact hget
  · rw [if_neg huid]
    cases warnPlan.get? e.1 with
    | none => exact Dict.get?_set_of_ne _ _ (Ne.symm huid)
    | some b =>
      dsimp only
      split
      · exact Dict.get?_set_of_ne _ _ (Ne.symm huid)
      · rfl

/-- What the boundaries warn the pod of. -/
def boundaryWarning (uid : Uid) : Option TerminationWarning :=
  (s.planTerminationWarnings boundaries capacity pods now
    (minutes config.preemptionLeadMinutes)).get? uid

/-- How many GPUs the class of the pod is short of headroom, where the pod is at risk for it. -/
def headroomShort (p : PodRuntimeView) : Option Nat :=
  if 0 < config.headroomTargetPercent ∧ p ∈ s.preemptable p.gpuClass pods now then
    (ControllerState.headroomShortfallByClass capacity pods config.headroomTargetPercent).get? p.gpuClass
  else none

def noticeOf (p : PodRuntimeView) (short : Nat) : TerminationWarning :=
  headroomWarning s pods now (minutes config.headroomNoticeMinutes) p short

@[simp] lemma noticeOf_boundary (p : PodRuntimeView) (short : Nat) :
    (noticeOf config s pods now p short).boundary = none := rfl

/-- A pod is warned of its boundary, or for headroom where that is sooner. -/
lemma get?_planWarnings (hwarns : config.terminationWarningEnabled = true)
    (hpods : (pods.map (·.uid)).Nodup) {p : PodRuntimeView} (hp : p ∈ pods) :
    (s.planWarnings config boundaries capacity pods now).get? p.uid =
      (headroomShort config s capacity pods now p).elim
        (boundaryWarning config s boundaries capacity pods now p.uid)
        fun n => some (soonerOf (boundaryWarning config s boundaries capacity pods now p.uid)
          (noticeOf config s pods now p n)) := by
  unfold ControllerState.planWarnings headroomShort
  rw [if_pos hwarns]
  dsimp only
  by_cases hheadroom : 0 < config.headroomTargetPercent
  · rw [if_pos hheadroom, Dict.get?_foldl_entries ControllerState.mergeWarning
      (fun existing w => some (soonerOf existing w)) get?_mergeWarning]
    simp only [hheadroom, true_and]
    rw [get?_planHeadroomWarnings hpods hp]
    split
    · cases (ControllerState.headroomShortfallByClass capacity pods
        config.headroomTargetPercent).get? p.gpuClass <;> rfl
    · rfl
  · rw [if_neg hheadroom, if_neg fun h => hheadroom h.1]
    rfl

end Merged

/-- What the texts of a warning show of it. -/
def shown (w : TerminationWarning) : Int × ℚ × Option Instant :=
  (w.terminateAt / seconds 1, w.risk, w.boundary)

section Second

variable (config : Config) (s : ControllerState) (boundaries : List Instant)
  (capacity : Dict String Nat) (pods : List PodRuntimeView) (now : Instant)

/-- The deadlines which are written go by the plan. -/
def writtenBy (plan : Dict Uid TerminationWarning) (uid : Uid) : Option Instant :=
  (plan.get? uid).map fun w => utcIso w.terminateAt

/-- The soonest boundary which puts the pod at risk. -/
structure SoonestRisk (b : Instant) (p : PodRuntimeView) : Prop where
  mem : b ∈ boundaries
  risk : atRisk s capacity pods now b p
  soonest : ∀ b' ∈ boundaries, atRisk s capacity pods now b' p → b ≤ b'

/-- When the pod may be taken for the boundary. -/
def killAt (b : Instant) (p : PodRuntimeView) : Instant :=
  ControllerState.killStart b (minutes config.preemptionLeadMinutes)
    (s.guaranteeEnd p.reservationId now)

/-- When the pod may be taken for headroom. -/
def noticeAt (p : PodRuntimeView) : Instant :=
  p.terminationWarningAt.getD (now + minutes config.headroomNoticeMinutes)

/-- The pod may be taken for headroom, of which there is a target. -/
def AtHeadroomRisk (p : PodRuntimeView) : Prop :=
  0 < config.headroomTargetPercent ∧ HeadroomRisk s capacity pods now config.headroomTargetPercent p

/-- The pod is at risk at a boundary and for headroom, for headroom no sooner, and the deadline of the
boundary has a fraction of a second. -/
def Overtaken (p : PodRuntimeView) : Prop :=
  config.terminationWarningEnabled = true ∧ AtHeadroomRisk config s capacity pods now p ∧
    ∃ b, SoonestRisk s boundaries capacity pods now b p ∧
      killAt config s now b p ≤ noticeAt config now p ∧
      utcIso (killAt config s now b p) ≠ killAt config s now b p

/-- When the pod is the first to be taken, and for which boundary if it is for one. -/
inductive EndangeredAt (p : PodRuntimeView) : Instant → Option Instant → Prop
  | boundary {b : Instant} (soonest : SoonestRisk s boundaries capacity pods now b p)
      (first : AtHeadroomRisk config s capacity pods now p →
        killAt config s now b p ≤ noticeAt config now p) :
      EndangeredAt p (killAt config s now b p) (some b)
  | headroom (due : AtHeadroomRisk config s capacity pods now p)
      (first : ∀ b, SoonestRisk s boundaries capacity pods now b p →
        noticeAt config now p < killAt config s now b p) :
      EndangeredAt p (noticeAt config now p) none

variable {config s boundaries capacity pods now} {p : PodRuntimeView} {read : Uid → Option Instant}

lemma retime_mem_iff (hpods : (pods.map (·.uid)).Nodup) (hp : p ∈ pods) {l : List PodRuntimeView}
    (hl : l ⊆ pods) : retime read p ∈ l.map (retime read) ↔ p ∈ l := by
  constructor
  · intro hmem
    obtain ⟨q, hq, heq⟩ := List.mem_map.mp hmem
    have huid : (retime read q).uid = (retime read p).uid := congrArg PodRuntimeView.uid heq
    exact view_of_uid hpods (hl hq) hp huid ▸ hq
  · exact List.mem_map_of_mem

lemma headroomShort_retime (hpods : (pods.map (·.uid)).Nodup) (hp : p ∈ pods) :
    headroomShort config s capacity (pods.map (retime read)) now (retime read p) =
      headroomShort config s capacity pods now p := by
  have hmem : retime read p ∈ s.preemptable (retime read p).gpuClass (pods.map (retime read)) now ↔
      p ∈ s.preemptable p.gpuClass pods now := by
    rw [preemptable_retime]
    exact retime_mem_iff hpods hp List.filter_sublist.subset
  unfold headroomShort
  rw [headroomShortfall_retime]
  simp only [hmem]
  rfl

lemma noticeOf_retime (n : Nat) : noticeOf config s (pods.map (retime read)) now (retime read p) n =
    { view := retime read p
      terminateAt := (read p.uid).getD (now + minutes config.headroomNoticeMinutes)
      risk := (noticeOf config s pods now p n).risk } := by
  unfold noticeOf headroomWarning
  rw [preemptable_retime, List.map_map]
  rfl

/-- What the second pass warns the pod of, in terms of what the first one saw. -/
lemma get?_planWarnings_again (hwarns : config.terminationWarningEnabled = true)
    (hpods : (pods.map (·.uid)).Nodup) (hp : p ∈ pods) :
    (s.planWarnings config boundaries capacity (pods.map (retime read)) now).get? p.uid =
      (headroomShort config s capacity pods now p).elim
        ((boundaryWarning config s boundaries capacity pods now p.uid).map (retimeWarning read))
        fun n => some (soonerOf
          ((boundaryWarning config s boundaries capacity pods now p.uid).map (retimeWarning read))
          { view := retime read p
            terminateAt := (read p.uid).getD (now + minutes config.headroomNoticeMinutes)
            risk := (noticeOf config s pods now p n).risk }) := by
  have hpods' : ((pods.map (retime read)).map (·.uid)).Nodup := by
    rw [List.map_map]
    exact hpods
  have hboundary : boundaryWarning config s boundaries capacity (pods.map (retime read)) now p.uid =
      (boundaryWarning config s boundaries capacity pods now p.uid).map (retimeWarning read) :=
    planTerminationWarnings_retime s capacity pods now read boundaries _ p.uid
  have hplan := get?_planWarnings config s boundaries capacity (pods.map (retime read)) now hwarns hpods'
    (List.mem_map_of_mem (f := retime read) hp)
  change (s.planWarnings config boundaries capacity (pods.map (retime read)) now).get? p.uid = _ at hplan
  rw [hplan, headroomShort_retime hpods hp]
  cases headroomShort config s capacity pods now p with
  | none => exact hboundary
  | some n => exact congrArg some (congrArg₂ soonerOf hboundary (noticeOf_retime n))

lemma boundaryWarning_spec (hpods : (pods.map (·.uid)).Nodup) (hp : p ∈ pods) {w : TerminationWarning}
    (hw : boundaryWarning config s boundaries capacity pods now p.uid = some w) :
    ∃ b, SoonestRisk s boundaries capacity pods now b p ∧ w.terminateAt = killAt config s now b p ∧
      w.boundary = some b := by
  have hview : w.view = p := by
    have hfound := hw
    rw [boundaryWarning, get?_planTerminationWarnings] at hfound
    obtain ⟨b, -, hwarning⟩ := List.exists_of_findSome?_eq_some hfound
    obtain ⟨hmem, huid, -⟩ := warningAt_spec hpods hwarning
    exact view_of_uid hpods hmem hp huid
  obtain ⟨-, b, hb, hrisk, hsoonest, hat, hboundary⟩ := planTerminationWarnings_spec hpods hw
  rw [hview] at hrisk hsoonest hat
  exact ⟨b, ⟨hb, hrisk, hsoonest⟩, hat, hboundary⟩

lemma SoonestRisk.unique {b b' : Instant} (hb : SoonestRisk s boundaries capacity pods now b p)
    (hb' : SoonestRisk s boundaries capacity pods now b' p) : b' = b :=
  le_antisymm (hb'.soonest b hb.mem hb.risk) (hb.soonest b' hb'.mem hb'.risk)

variable (config) in
/-- A pod is warned of the soonest boundary which puts it at risk. -/
lemma boundaryWarning_of_soonest (hpods : (pods.map (·.uid)).Nodup) (hp : p ∈ pods) {b : Instant}
    (hb : SoonestRisk s boundaries capacity pods now b p) :
    ∃ w, boundaryWarning config s boundaries capacity pods now p.uid = some w ∧
      w.terminateAt = killAt config s now b p ∧ w.boundary = some b := by
  obtain ⟨w, hwarned, -⟩ := planTerminationWarnings_warns hpods hp ⟨b, hb.mem, hb.risk⟩
    (minutes config.preemptionLeadMinutes)
  have hw : boundaryWarning config s boundaries capacity pods now p.uid = some w := hwarned
  obtain ⟨b', hb', hat, hboundary⟩ := boundaryWarning_spec hpods hp hw
  obtain rfl := hb.unique hb'
  exact ⟨w, hw, hat, hboundary⟩

lemma headroomShort_isSome : (headroomShort config s capacity pods now p).isSome ↔
    AtHeadroomRisk config s capacity pods now p := by
  unfold headroomShort AtHeadroomRisk HeadroomRisk
  rw [Dict.mem_iff_get?, ← Option.isSome_iff_exists]
  split
  · rename_i h
    simp [h]
  · rename_i h
    simp only [Option.isSome_none, Bool.false_eq_true, false_iff]
    exact fun hdue => h ⟨hdue.1, hdue.2.2⟩

lemma noticeOf_terminateAt (n : Nat) :
    (noticeOf config s pods now p n).terminateAt = noticeAt config now p := rfl

/-- The boundary warning and the one for headroom of a pod which is overtaken. -/
lemma overtaken_iff (hwarns : config.terminationWarningEnabled = true)
    (hpods : (pods.map (·.uid)).Nodup) (hp : p ∈ pods) :
    Overtaken config s boundaries capacity pods now p ↔
      ∃ n w, headroomShort config s capacity pods now p = some n ∧
        boundaryWarning config s boundaries capacity pods now p.uid = some w ∧
          ¬ (noticeOf config s pods now p n).terminateAt < w.terminateAt ∧
            utcIso w.terminateAt ≠ w.terminateAt := by
  constructor
  · rintro ⟨-, hdue, b, hb, hle, hfraction⟩
    obtain ⟨n, hn⟩ := Option.isSome_iff_exists.mp (headroomShort_isSome.mpr hdue)
    obtain ⟨w, hw, hat, -⟩ := boundaryWarning_of_soonest config hpods hp hb
    rw [← hat] at hle hfraction
    exact ⟨n, w, hn, hw, not_lt.mpr hle, hfraction⟩
  · rintro ⟨n, w, hshort, hw, hle, hfraction⟩
    obtain ⟨b, hb, hat, -⟩ := boundaryWarning_spec hpods hp hw
    rw [hat] at hle hfraction
    exact ⟨hwarns, headroomShort_isSome.mp (hshort ▸ rfl), b, hb, not_lt.mp hle, hfraction⟩

variable (config s boundaries capacity now) in
/-- A pod is warned exactly of what endangers it first. -/
lemma planWarnings_iff_endangeredAt (hwarns : config.terminationWarningEnabled = true)
    (hpods : (pods.map (·.uid)).Nodup) (hp : p ∈ pods) (t : Instant) (boundary : Option Instant) :
    (∃ w, (s.planWarnings config boundaries capacity pods now).get? p.uid = some w ∧
        w.terminateAt = t ∧ w.boundary = boundary) ↔
      EndangeredAt config s boundaries capacity pods now p t boundary := by
  have hdue : (headroomShort config s capacity pods now p).isSome ↔
      AtHeadroomRisk config s capacity pods now p := headroomShort_isSome
  rw [get?_planWarnings config s boundaries capacity pods now hwarns hpods hp]
  constructor
  · rintro ⟨w, hw, rfl, rfl⟩
    cases hshort : headroomShort config s capacity pods now p with
    | none =>
      rw [hshort] at hw hdue
      have hwarned : boundaryWarning config s boundaries capacity pods now p.uid = some w := hw
      obtain ⟨b, hb, hat, hboundary⟩ := boundaryWarning_spec hpods hp hwarned
      rw [hat, hboundary]
      exact .boundary hb fun h => absurd (hdue.mpr h) Bool.false_ne_true
    | some n =>
      rw [hshort] at hw hdue
      obtain rfl := Option.some.inj hw
      cases hwarned : boundaryWarning config s boundaries capacity pods now p.uid with
      | none =>
        refine .headroom (hdue.mp rfl) fun b hb => ?_
        obtain ⟨w', hw', -⟩ := boundaryWarning_of_soonest config hpods hp hb
        cases hwarned.symm.trans hw'
      | some w' =>
        obtain ⟨b, hb, hat, hboundary⟩ := boundaryWarning_spec hpods hp hwarned
        unfold soonerOf
        dsimp only
        split
        · rename_i hsooner
          refine .headroom (hdue.mp rfl) fun b' hb' => ?_
          obtain rfl := hb.unique hb'
          exact hat ▸ hsooner
        · rename_i hlater
          rw [hat] at hlater
          rw [hat, hboundary]
          exact .boundary hb fun _ => not_lt.mp hlater
  · rintro (⟨hb, hfirst⟩ | ⟨hheadroom, hfirst⟩)
    · obtain ⟨w, hw, hat, hboundary⟩ := boundaryWarning_of_soonest config hpods hp hb
      refine ⟨w, ?_, hat, hboundary⟩
      cases hshort : headroomShort config s capacity pods now p with
      | none => exact hw
      | some n =>
        rw [hshort] at hdue
        rw [Option.elim_some, hw, soonerOf, if_neg]
        rw [noticeOf_terminateAt, hat]
        exact not_lt.mpr (hfirst (hdue.mp rfl))
    · obtain ⟨n, hn⟩ := Option.isSome_iff_exists.mp (hdue.mpr hheadroom)
      refine ⟨noticeOf config s pods now p n, ?_, rfl, rfl⟩
      rw [hn, Option.elim_some]
      cases hwarned : boundaryWarning config s boundaries capacity pods now p.uid with
      | none => rfl
      | some w =>
        obtain ⟨b, hb, hat, -⟩ := boundaryWarning_spec hpods hp hwarned
        rw [soonerOf, if_pos]
        rw [noticeOf_terminateAt, hat]
        exact hfirst b hb

/-- A pod which is not overtaken is told the same once more. -/
lemma shown_planWarnings_again (hwarns : config.terminationWarningEnabled = true)
    (hpods : (pods.map (·.uid)).Nodup) (hp : p ∈ pods)
    (hread : read = writtenBy (s.planWarnings config boundaries capacity pods now))
    (hsafe : ¬ Overtaken config s boundaries capacity pods now p) :
    ((s.planWarnings config boundaries capacity (pods.map (retime read)) now).get? p.uid).map shown =
      ((s.planWarnings config boundaries capacity pods now).get? p.uid).map shown := by
  have hfirst := get?_planWarnings config s boundaries capacity pods now hwarns hpods hp
  have hwritten : read p.uid =
      ((s.planWarnings config boundaries capacity pods now).get? p.uid).map fun w =>
        utcIso w.terminateAt := by
    rw [hread]
    rfl
  rw [get?_planWarnings_again hwarns hpods hp, hwritten, hfirst]
  cases hshort : headroomShort config s capacity pods now p with
  | none =>
    rw [Option.elim_none, Option.elim_none, Option.map_map]
    rfl
  | some n =>
    cases hb : boundaryWarning config s boundaries capacity pods now p.uid with
    | none => simp [soonerOf, shown, utcIso_ediv]
    | some w =>
      by_cases hsooner : (noticeOf config s pods now p n).terminateAt < w.terminateAt
      · have hsooner' : utcIso (noticeOf config s pods now p n).terminateAt < w.terminateAt :=
          lt_of_le_of_lt (utcIso_le _) hsooner
        simp [soonerOf, hsooner, hsooner', shown, utcIso_ediv]
      · have hwhole : utcIso w.terminateAt = w.terminateAt := by
          by_contra hfraction
          exact hsafe ((overtaken_iff hwarns hpods hp).mpr ⟨n, w, hshort, hb, hsooner, hfraction⟩)
        simp [soonerOf, hsooner, hwhole, retimeWarning, shown]

/-- A pod which is overtaken was told of its boundary, and is told of headroom next, at the same
second. -/
lemma planWarnings_overtaken (hpods : (pods.map (·.uid)).Nodup) (hp : p ∈ pods)
    (hread : read = writtenBy (s.planWarnings config boundaries capacity pods now))
    (hover : Overtaken config s boundaries capacity pods now p) :
    ∃ w w', (s.planWarnings config boundaries capacity pods now).get? p.uid = some w ∧
      (s.planWarnings config boundaries capacity (pods.map (retime read)) now).get? p.uid = some w' ∧
        w.boundary ≠ none ∧ w'.boundary = none ∧
          w'.terminateAt / seconds 1 = w.terminateAt / seconds 1 := by
  have hwarns := hover.1
  obtain ⟨n, w, hshort, hb, hsooner, hfraction⟩ := (overtaken_iff hwarns hpods hp).mp hover
  have hfirst := get?_planWarnings config s boundaries capacity pods now hwarns hpods hp
  rw [hshort, hb] at hfirst
  simp only [Option.elim_some, soonerOf, hsooner, if_false] at hfirst
  have hwritten : read p.uid = some (utcIso w.terminateAt) := by
    rw [hread, writtenBy, hfirst]
    rfl
  have hsecond :
      (s.planWarnings config boundaries capacity (pods.map (retime read)) now).get? p.uid = _ :=
    get?_planWarnings_again hwarns hpods hp
  have hearlier : utcIso w.terminateAt < w.terminateAt := lt_of_le_of_ne (utcIso_le _) hfraction
  rw [hshort, hb, hwritten] at hsecond
  simp only [Option.elim_some, soonerOf, Option.map_some, Option.getD_some, retimeWarning, hearlier,
    if_true] at hsecond
  obtain ⟨b, -, -, hboundary⟩ := boundaryWarning_spec hpods hp hb
  refine ⟨w, _, hfirst, hsecond, ?_, rfl, utcIso_ediv _⟩
  rw [hboundary]
  exact Option.some_ne_none b

end Second

end GpuReservation.Proofs
