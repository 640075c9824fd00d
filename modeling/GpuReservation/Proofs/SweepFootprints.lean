import GpuReservation.Model.Preemption
import GpuReservation.Proofs.Footprints

/-!
# What the parts of the sweep keep within
-/

namespace GpuReservation.Proofs

open GpuReservation.Library GpuReservation.Model

/-- A merge moves pods, and drops the leases they leave or parks their cancels. -/
def OnlyMerges (s s' : ControllerState) : Prop :=
  ∃ occupancy reservations cancels, s' = { s with
    occupancy := occupancy
    reservations := reservations
    pendingOndemandMergeCancels := cancels }

/-- Calls about one pod, and cancels of superseded leases. -/
def Request.merges : Request → Prop
  | .cancelReservation _ reason => reason = .superseded
  | q => Request.onePod q

def MergesOnly {α : Type} (p : Ctl α) : Prop := p.Within OnlyMerges Request.merges fun _ => True

/-- What the selection calls for. -/
def Request.choosesVictims : Request → Prop
  | .shuffle _ | .selectPreemptionVictims _ _ => True
  | _ => False

/-- A part which only chooses. -/
def ChoosesOnly {α : Type} (p : Ctl α) : Prop :=
  p.Within (fun s s' => s' = s) Request.choosesVictims fun _ => True

/-- Calls about a pod which is killed. -/
def Request.announces : Request → Prop
  | .readPod _ _ | .emitPodEvent _ _ _ _ | .reportOverstay _ _ _ _ _ => True
  | _ => False

def Request.preempts (victim : PodRuntimeView) : Request → Prop
  | .deletePod judged ns name => judged = victim.uid ∧ ns = victim.ns ∧ name = victim.name
  | q => Request.announces q

/-- A part which only kills the victim, and forgets where it was recorded. -/
def PreemptsOnly {α : Type} (victim : PodRuntimeView) (p : Ctl α) : Prop :=
  p.Within OnlyRelinks (Request.preempts victim) fun _ => True

/-- The state, but for the marks of the sweep. -/
def OnlyMarks (s s' : ControllerState) : Prop :=
  ∃ fired last, s' = { s with preemptionFired := fired, headroomLastEval := last }

/-- A part which only plans. -/
def PlansOnly {α : Type} (p : Ctl α) : Prop :=
  p.Within OnlyMarks Request.choosesVictims fun _ => True

section Merge

lemma OnlyRelinks.merges {s s' : ControllerState} (h : OnlyRelinks s s') : OnlyMerges s s' := by
  obtain ⟨occupancy, rfl⟩ := h
  exact ⟨occupancy, _, _, rfl⟩

lemma onePod_merges {q : Request} (h : Request.onePod q) : Request.merges q := by
  cases q <;> first | exact h | exact h.elim

lemma RelinksOnly.merges {α : Type} {p : Ctl α} (h : RelinksOnly p) : MergesOnly p :=
  h.mono (fun _ _ => OnlyRelinks.merges) (fun _ => onePod_merges) fun _ _ => trivial

lemma get_merges : MergesOnly (Prog.get : Ctl ControllerState) := get_relinks.merges

lemma cancelMergedLease_merges (leaseId : Nat) : MergesOnly (cancelMergedLease leaseId) := by
  refine .seq get_merges fun s => ?_
  dsimp only
  split
  · refine .seq (.ask rfl) fun cancelled => ?_
    split
    · exact .modify fun s => ⟨_, _, _, rfl⟩
    · exact .modify fun s => ⟨_, _, _, rfl⟩
  · exact .modify fun s => ⟨_, _, _, rfl⟩

lemma retireLease_merges (leaseId : Option Nat) : MergesOnly (retireLease leaseId) := by
  cases leaseId with
  | none => exact .pure trivial
  | some id => exact cancelMergedLease_merges id

variable (config : Config) (now : Instant)

lemma mergeOndemandIntoBookings_merges (pods : List PodRuntimeView) :
    MergesOnly (mergeOndemandIntoBookings config pods now) := by
  refine .seq get_merges fun s => ?_
  split
  · refine .foldlM (fun planned _ pods => ?_) pods
    refine .seq (relinkPod_relinks now planned.1 planned.2 .merge).merges fun landed => ?_
    split
    · exact .seq (retireLease_merges _) fun _ => .pure trivial
    · exact .pure trivial
  · exact .pure trivial

end Merge

section Plan

variable (config : Config) (now : Instant)

lemma call_chooses {q : Request} (h : Request.choosesVictims q) : ChoosesOnly (call q) := .ask h

lemma get_chooses : ChoosesOnly (Prog.get : Ctl ControllerState) := .get fun _ => rfl

lemma selectVictimsLocally_chooses (need : BoundaryPreemptionNeed) :
    ChoosesOnly (selectVictimsLocally need) := by
  refine .foldlM (fun e _ selected => ?_) ∅
  exact .seq (call_chooses trivial) fun _ => .pure trivial

lemma selectVictims_chooses (need : BoundaryPreemptionNeed) :
    ChoosesOnly (selectVictims config need) := by
  unfold selectVictims
  split
  · refine .seq (call_chooses trivial) fun uids => ?_
    split
    · exact .pure trivial
    · exact selectVictimsLocally_chooses need
  · exact selectVictimsLocally_chooses need

lemma victimsOf_chooses (need : BoundaryPreemptionNeed) (boundary : Option Instant) :
    ChoosesOnly (victimsOf config now need boundary) := by
  unfold victimsOf
  split
  · exact .pure trivial
  · exact .seq (selectVictims_chooses config need) fun _ => .seq get_chooses fun _ => .pure trivial

lemma ChoosesOnly.plans {α : Type} {p : Ctl α} (h : ChoosesOnly p) : PlansOnly p :=
  h.mono (fun _ _ heq => ⟨_, _, heq⟩) (fun _ hq => hq) fun _ _ => trivial

lemma planBoundary_onlyPlans (capacity : Dict String Nat) (pods : List PodRuntimeView)
    (toKill : List (PodRuntimeView × PodEvent)) (boundary : Instant) :
    PlansOnly (planBoundary config now capacity pods toKill boundary) := by
  refine .seq get_chooses.plans fun s => ?_
  split
  · exact .pure trivial
  · exact .seq (.modify fun s => ⟨_, _, rfl⟩) fun _ =>
      .seq (victimsOf_chooses config now _ _).plans fun _ => .pure trivial

lemma planHeadroom_onlyPlans (capacity : Dict String Nat) (pods : List PodRuntimeView)
    (toKill : List (PodRuntimeView × PodEvent)) :
    PlansOnly (planHeadroom config now capacity pods toKill) :=
  .seq (.modify fun _ => ⟨_, _, rfl⟩) fun _ => .seq get_chooses.plans fun _ =>
    .seq (victimsOf_chooses config now _ none).plans fun _ => .pure trivial

end Plan

section Kill

variable (config : Config) (now : Instant)

/-- A part which tells a pod's owner that it is killed, and changes nothing. -/
def AnnouncesOnly {α : Type} (p : Ctl α) : Prop :=
  p.Within (fun s s' => s' = s) Request.announces fun _ => True

lemma call_announces {q : Request} (h : Request.announces q) : AnnouncesOnly (call q) := .ask h

lemma reportOverstayIfAny_announces (pod : Pod) :
    AnnouncesOnly (reportOverstayIfAny config pod now) := by
  refine .seq (.get fun _ => rfl) fun s => ?_
  split
  · split
    · exact .pure trivial
    · split
      · exact .pure trivial
      · exact call_announces trivial
  · exact .pure trivial

lemma announcePreemption_announces (victim : PodRuntimeView) (event : PodEvent) :
    AnnouncesOnly (announcePreemption config now victim event) := by
  refine .seq (call_announces trivial) fun pod => ?_
  cases pod with
  | none => exact .pure trivial
  | some p => exact .seq (call_announces trivial) fun _ => reportOverstayIfAny_announces config now p

lemma announces_preempts {victim : PodRuntimeView} {q : Request} (h : Request.announces q) :
    Request.preempts victim q := by
  cases q <;> first | exact h | exact h.elim

lemma AnnouncesOnly.preempts {α : Type} {victim : PodRuntimeView} {p : Ctl α}
    (h : AnnouncesOnly p) : PreemptsOnly victim p :=
  h.mono (fun s _ heq => ⟨s.occupancy, heq⟩) (fun _ => announces_preempts) fun _ _ => trivial

lemma deleteJudgedPod_preempts (victim : PodRuntimeView) :
    PreemptsOnly victim (deleteJudgedPod victim.uid victim.ns victim.name) := by
  refine .seq (.ask ⟨rfl, rfl, rfl⟩) fun deleted => ?_
  split
  · exact .modify fun s => releasePod_eq s victim.uid
  · exact .pure trivial

lemma preemptPod_preempts (victim : PodRuntimeView × PodEvent) :
    PreemptsOnly victim.1 (preemptPod config now victim) :=
  .seq (announcePreemption_announces config now victim.1 victim.2).preempts fun _ =>
    deleteJudgedPod_preempts victim.1

end Kill

end GpuReservation.Proofs
