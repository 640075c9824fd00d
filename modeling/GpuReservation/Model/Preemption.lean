import GpuReservation.Model.Relinking
import GpuReservation.Model.Watch

/-!
# The preemption sweep

Kills which free capacity at a slot boundary, and kills which keep headroom free.
-/

namespace GpuReservation.Model

open GpuReservation.Library

def freeCapacityByClass (capacityByClass : Dict String Nat) (pods : List PodRuntimeView) :
    Dict String Int :=
  capacityByClass.mapValues fun gpuClass (capacity : Nat) =>
    capacity - ((pods.filter fun p =>
      p.nodeResident && !p.terminating && !p.nodeExcluded && p.gpuClass = gpuClass).map
        (·.gpuCount)).sum

/-- What a reclaim needs: GPUs by class, and the pods which may be killed for them. -/
structure BoundaryPreemptionNeed where
  killsNeededByClass : Dict String Nat
  candidatesByClass : Dict String (List PodRuntimeView)

namespace ControllerState

variable (s : ControllerState)

/-- The pods of a class which may be killed: those past their guarantee. -/
def preemptable (gpuClass : String) (pods : List PodRuntimeView) (now : Instant) :
    List PodRuntimeView :=
  pods.filter fun p =>
    p.gpuClass = gpuClass && p.reservationId.isSome && p.nodeResident && !p.nodeExcluded &&
      !p.terminating && 0 < p.gpuCount && s.pastGuarantee p now

/-- The classes which are short, by how much, with the pods which may be killed for them. -/
def needOf (wanted : Dict String Nat) (free : Dict String Int)
    (pool : String → List PodRuntimeView) : BoundaryPreemptionNeed :=
  let short := (wanted.mapValues fun gpuClass (want : Nat) =>
    (want - (free.get? gpuClass).getD 0).toNat).filter fun _ n => n ≠ 0
  { killsNeededByClass := short
    candidatesByClass := short.mapValues fun gpuClass _ => pool gpuClass }

def planBoundaryCandidates (boundary : Instant) (capacityByClass : Dict String Nat)
    (pods : List PodRuntimeView) (now : Instant) : BoundaryPreemptionNeed :=
  needOf (s.boundaryDemand boundary pods now) (freeCapacityByClass capacityByClass pods)
    fun gpuClass => s.preemptable gpuClass pods now

/-- `ceil(capacity * target_percent / 100)`. -/
def headroomTarget (capacity targetPercent : Nat) : Nat := (capacity * targetPercent + 99) / 100

def planHeadroomCandidates (capacityByClass : Dict String Nat) (pods : List PodRuntimeView)
    (now : Instant) (targetPercent : Nat) (requireElapsedNotice : Bool) : BoundaryPreemptionNeed :=
  needOf (capacityByClass.mapValues fun _ capacity => headroomTarget capacity targetPercent)
    (freeCapacityByClass capacityByClass pods) fun gpuClass =>
      (s.preemptable gpuClass pods now).filter fun p =>
        !requireElapsedNotice || p.terminationWarningAt.any (· ≤ now)

def upcomingBoundaries (now : Instant) (lead : Int) : List Instant :=
  (((s.reservations.filter fun r =>
    r.kind = .booking && now - lead < slotStart r && slotStart r ≤ now + lead).map
      slotStart).dedup).insertionSort (· ≤ ·)

def forecastBoundaries (now horizonEnd : Instant) : List Instant :=
  (((s.reservations.filter fun r =>
    r.kind = .booking && r.id ∉ s.noshowReservationIds && now < slotStart r &&
      slotStart r ≤ horizonEnd).map slotStart).dedup).insertionSort (· ≤ ·)

def prunePreemptionMarks (now : Instant) (lead : Int) : ControllerState :=
  { s with preemptionFired := s.preemptionFired.filter fun b _ => now - lead < b }

/-- The phase of a boundary: `true` is "B", at the boundary. -/
def firedAt (boundary : Instant) (phase : Bool) : Bool :=
  phase ∈ (s.preemptionFired.get? boundary).getD ∅

def markFired (boundary : Instant) (phase : Bool) : ControllerState :=
  { s with
    preemptionFired := s.preemptionFired.set boundary
      (insert phase ((s.preemptionFired.get? boundary).getD ∅)) }

lemma firedAt_markFired (b b' : Instant) (phase phase' : Bool) :
    (s.markFired b phase).firedAt b' phase' =
      (decide (b' = b ∧ phase' = phase) || s.firedAt b' phase') := by
  simp only [firedAt, markFired, Dict.get?_set]
  by_cases hb : b' = b
  · subst hb
    simp
  · simp [hb]

def headroomDue (config : Config) (now : Instant) : Bool :=
  0 < config.headroomTargetPercent &&
    s.headroomLastEval.all fun last => seconds config.headroomCheckInterval ≤ now - last

/-- Nothing to kill, to warn about, to clear or to check again. -/
def sweepIdle (config : Config) (now : Instant) : Bool :=
  let lead := minutes config.preemptionLeadMinutes
  (s.upcomingBoundaries now lead).isEmpty &&
    !(config.terminationWarningEnabled &&
      (!(s.forecastBoundaries now (now + minutes config.terminationWarningLeadMinutes)).isEmpty ||
        s.terminationWarningsOutstanding)) &&
    !s.headroomDue config now

end ControllerState

/-- One class's victims, from the candidates in the order given. -/
def pickUntil (killsNeeded : Nat) : List PodRuntimeView → Nat → List PodRuntimeView
  | [], _ => []
  | p :: l, killed =>
    if killsNeeded ≤ killed then [] else p :: pickUntil killsNeeded l (killed + p.gpuCount)

def selectVictimsLocally (need : BoundaryPreemptionNeed) :
    Ctl (Dict String (List PodRuntimeView)) :=
  need.killsNeededByClass.entries.foldlM
    (fun selected e => do
      let eligible ← call (.shuffle ((need.candidatesByClass.get? e.1).getD []))
      return selected.set e.1 (pickUntil e.2 eligible 0))
    ∅

/-- The class and the view a uid stands for among the candidates. -/
def candidateOfUid (need : BoundaryPreemptionNeed) (uid : Uid) : Option (String × PodRuntimeView) :=
  (Dict.ofList (need.candidatesByClass.entries.flatMap fun e =>
    e.2.map fun p => (p.uid, (e.1, p)))).get? uid

/-- The candidates the app chose, by class: what was not offered is left out. -/
def mapSelectedVictims (need : BoundaryPreemptionNeed) (uids : List Uid) :
    Dict String (List PodRuntimeView) :=
  (uids.eraseDups.filterMap (candidateOfUid need)).foldl
    (fun selected e => selected.set e.1 ((selected.get? e.1).getD [] ++ [e.2])) ∅

def preemptionCandidates (need : BoundaryPreemptionNeed) : List PreemptionCandidate :=
  need.candidatesByClass.entries.flatMap fun e => e.2.map fun p =>
    { podUid := p.uid, ns := p.ns, podName := p.name, gpuClass := e.1, gpuCount := p.gpuCount,
      reservationId := p.reservationId }

def selectVictims (config : Config) (need : BoundaryPreemptionNeed) :
    Ctl (Dict String (List PodRuntimeView)) :=
  if config.preemptionDelegateSelection then do
    let uids ← call
      (.selectPreemptionVictims need.killsNeededByClass (preemptionCandidates need))
    match uids with
    | some chosen => return mapSelectedVictims need chosen
    | none => selectVictimsLocally need
  else selectVictimsLocally need

/-- The victims of `build_preemption_plan`. -/
def planVictims (need : BoundaryPreemptionNeed) (selected : Dict String (List PodRuntimeView)) :
    List PodRuntimeView :=
  need.killsNeededByClass.keys.flatMap fun gpuClass => (selected.get? gpuClass).getD []

/-- What a plan leaves uncovered of each class's need. -/
def unmetByClass (need : BoundaryPreemptionNeed)
    (selected : Dict String (List PodRuntimeView)) : Dict String Nat :=
  (need.killsNeededByClass.mapValues fun gpuClass (killsNeeded : Nat) =>
    killsNeeded - (((selected.get? gpuClass).getD []).map (·.gpuCount)).sum).filter fun _ n => n ≠ 0

structure PreemptionPlan where
  victims : List PodRuntimeView
  unmetByClass : Dict String Nat

def buildPreemptionPlan (need : BoundaryPreemptionNeed)
    (selected : Dict String (List PodRuntimeView)) : PreemptionPlan where
  victims := planVictims need selected
  unmetByClass := unmetByClass need selected

section Kill

variable (config : Config) (now : Instant)

/-- The victims of one reclaim, each with the Event its owner is sent. -/
def victimsOf (need : BoundaryPreemptionNeed) (boundary : Option Instant) :
    Ctl (List (PodRuntimeView × PodEvent)) := do
  if need.killsNeededByClass.entries = [] then return []
  else
    let selected ← selectVictims config need
    let s ← Prog.get
    return (planVictims need selected).map fun v =>
      (v, .preempted boundary (s.guaranteeEnd v.reservationId now))

/-- The pods which are not yet to be killed. -/
def notDoomed (pods : List PodRuntimeView) (toKill : List (PodRuntimeView × PodEvent)) :
    List PodRuntimeView :=
  pods.filter fun p => p.uid ∉ toKill.map (·.1.uid)

def planBoundary (capacity : Dict String Nat) (pods : List PodRuntimeView)
    (toKill : List (PodRuntimeView × PodEvent)) (boundary : Instant) :
    Ctl (List (PodRuntimeView × PodEvent)) := do
  let s ← Prog.get
  if s.firedAt boundary (boundary ≤ now) then return toKill
  else
    Prog.modify fun s => s.markFired boundary (boundary ≤ now)
    let victims ← victimsOf config now
      (s.planBoundaryCandidates boundary capacity (notDoomed pods toKill) now) (some boundary)
    return toKill ++ victims

def planHeadroom (capacity : Dict String Nat) (pods : List PodRuntimeView)
    (toKill : List (PodRuntimeView × PodEvent)) : Ctl (List (PodRuntimeView × PodEvent)) := do
  Prog.modify fun s => { s with headroomLastEval := some now }
  let s ← Prog.get
  let victims ← victimsOf config now
    (s.planHeadroomCandidates capacity (notDoomed pods toKill) now config.headroomTargetPercent
      config.terminationWarningEnabled) none
  return toKill ++ victims

/-- The owner is told and the overstay reported, where the pod can be read. -/
def announcePreemption (victim : PodRuntimeView) (event : PodEvent) : Ctl Unit := do
  let pod ← call (.readPod victim.ns victim.name)
  match pod with
  | none => return ()
  | some p => do
    let _ ← call (.emitPodEvent p.uid victim.ns victim.name event)
    reportOverstayIfAny config p now

/-- Deletes the pod under the name of the judged one; a failed delete leaves occupancy alone. -/
def deleteJudgedPod (judged : Uid) (ns name : String) : Ctl Unit := do
  let deleted ← call (.deletePod judged ns name)
  if deleted then Prog.modify fun s => s.releasePod judged else return ()

def preemptPod (victim : PodRuntimeView × PodEvent) : Ctl Unit := do
  announcePreemption config now victim.1 victim.2
  deleteJudgedPod victim.1.uid victim.1.ns victim.1.name

/-- What the sweep does under the reservation lock, from snapshots taken before it; the uids of the
pods it killed. -/
def sweepUnderLock (boundaries : List Instant) (headroomDue : Bool) (snapshot : List Pod)
    (nodes : NodeSnapshot) : Ctl (List Uid) := do
  let capacity := gpuCapacityByClass nodes.inventory
  let pods ← mergeOndemandIntoBookings config (snapshot.map (podView (some nodes.inventory))) now
  let pods ← adoptPods config pods now .overstay
  let toKill ← boundaries.foldlM (planBoundary config now capacity pods) []
  let toKill ← if headroomDue then planHeadroom config now capacity pods toKill else pure toKill
  toKill.forM (preemptPod config now)
  return toKill.map (·.1.uid)

end Kill

/-- The snapshots are taken before the lock; without either of them nothing is killed. -/
def sweepClusters (config : Config) (now : Instant) (boundaries : List Instant)
    (headroomDue : Bool) : Ctl Unit := do
  let snapshot ← snapshotToleratedPods
  match snapshot with
  | none => return ()
  | some pods => do
    let nodes ← call .snapshotNodes
    match nodes with
    | none => return ()
    | some n => do
      let doomed ← withReservationLock (sweepUnderLock config now boundaries headroomDue pods n)
      if config.terminationWarningEnabled then
        let outstanding ← call (.reconcileWarnings doomed)
        Prog.modify fun s => { s with terminationWarningsOutstanding := outstanding }
      else return ()

def runPreemptionSweep (config : Config) : Ctl Unit := do
  let now ← call .now
  let lead := minutes config.preemptionLeadMinutes
  Prog.modify fun s => s.prunePreemptionMarks now lead
  let s ← Prog.get
  if s.sweepIdle config now then return ()
  else sweepClusters config now (s.upcomingBoundaries now lead) (s.headroomDue config now)

end GpuReservation.Model
