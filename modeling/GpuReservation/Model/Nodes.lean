import GpuReservation.Model.Bookkeeping
import GpuReservation.Model.World
import Mathlib.Data.Finset.Card

/-!
# Room on the nodes

The per-node accounting of `controller.py` and the arithmetic of guards 4 and 5.
-/

namespace GpuReservation.Model

open GpuReservation.Library

/-- `placement_nodes`; `none` where the placement narrows nothing, or cannot be judged. -/
def placementNodes (placement : Option NodePlacement) (classNodes : Option (List String))
    (nodeLabels : Dict String (Dict String String)) : Option (Finset String) :=
  match placement, classNodes with
  | some p, some nodes =>
    if nodes.any (· ∉ nodeLabels) then none
    else
      let allowed := p.matchingNodes nodes nodeLabels
      if allowed.card = nodes.length then none else some allowed
  | _, _ => none

/-- An empty node name is no node. -/
def gpuPodRecord (pod : Pod) : Option GpuPod :=
  if pod.terminating ∨ pod.gpuCount < 1 ∨ pod.gpuClass = "" then none
  else
    let record : GpuPod :=
      { ns := pod.ns, name := pod.name, gpuClass := pod.gpuClass, gpuCount := pod.gpuCount,
        nodeName := pod.nodeName.filter (· ≠ ""), placement := pod.placement,
        reservationId := pod.bookingReference }
    match record.nodeName with
    | some _ =>
      if pod.phase = .running ∨ (pod.phase = .pending ∧ ¬ pod.scheduledFalse) then some record
      else none
    | none => if pod.phase = .pending then some record else none

/-- GPUs of a class the pods bound to a node occupy there. -/
def boundGpus (pods : List GpuPod) (gpuClass node : String) : Nat :=
  ((pods.filter fun p => p.gpuClass = gpuClass && p.nodeName = some node).map (·.gpuCount)).sum

def nodeFreeFromPods (capacityByNodeClass : Dict String (Dict String Nat)) (pods : List GpuPod) :
    Dict String (Dict String Int) :=
  capacityByNodeClass.mapValues fun gpuClass nodes =>
    nodes.mapValues fun node (capacity : Nat) => (capacity - boundGpus pods gpuClass node : Int)

def capacityFreesUp (previous current : Option GpuPod) : Bool :=
  match previous with
  | none => false
  | some p =>
    if current = some p then false
    else match p.nodeName with
      | none => current.all (·.nodeName.isSome)
      | some node => current.all (·.nodeName ≠ some node)

/-- The free GPUs with those of one pod taken off the node it occupies. -/
def takeOff (free : Dict String (Dict String Int)) (p : PodRuntimeView) :
    Dict String (Dict String Int) :=
  match p.nodeName.filter (· ≠ "") with
  | none => free
  | some node =>
    if !p.nodeResident || p.terminating then free
    else match free.get? p.gpuClass with
      | none => free
      | some perNode =>
        match perNode.get? node with
        | none => free
        | some n => free.set p.gpuClass (perNode.set node (n - p.gpuCount))

def freeGpusByNodeClass (capacityByNodeClass : Dict String (Dict String Nat))
    (pods : List PodRuntimeView) : Dict String (Dict String Int) :=
  pods.foldl takeOff
    (capacityByNodeClass.mapValues fun _ nodes => nodes.mapValues fun _ (capacity : Nat) =>
      (capacity : Int))

/-- The largest of some numbers, and 0 where there are none. -/
def maxOr0 (l : List Int) : Int := l.max?.getD 0

def largestNodeFreeByClass (freeByNodeClass : Dict String (Dict String Int)) : Dict String Int :=
  freeByNodeClass.mapValues fun _ nodes => maxOr0 nodes.values

def gpuCapacityByClass (inventory : Dict String (Dict String Nat)) : Dict String Nat :=
  inventory.mapValues fun _ nodes => nodes.total

def nodeCountsByClass (inventory : Dict String (Dict String Nat)) (knownClasses : List String) :
    Dict String Nat :=
  inventory.entries.foldl (fun d e => d.set e.1 e.2.entries.length)
    (knownClasses.foldl (fun d c => d.set c 0) ∅)

/-- The classes of which the app counts more GPUs than there are. -/
def overcommitted (appSide physical : Dict String Nat) : Finset String :=
  (appSide.keys.filter fun label =>
    (physical.get? label).getD 0 < (appSide.get? label).getD 0).toFinset

/-- `placement_stall_reason`, as to whether there is one. -/
def placementStalls (gpuCount : Nat) (classFreeByNode : Dict String Int)
    (placementNodes : Option (Finset String)) : Bool :=
  match placementNodes with
  | none => false
  | some nodes =>
    if nodes = ∅ then true
    else if (nodes.filter fun n => (gpuCount : Int) ≤ (classFreeByNode.get? n).getD 0) ≠ ∅ then false
    else classFreeByNode.entries.any fun e => (gpuCount : Int) ≤ e.2 && e.1 ∉ nodes

namespace ControllerState

variable (s : ControllerState)

/-- Only the classes the inventory knows are derived anew. -/
def deriveNodeFree (classes : List String) : ControllerState :=
  let targets := s.nodeInventory.filter fun c _ => c ∈ classes
  let free := nodeFreeFromPods targets s.gpuPods.values
  { s with
    nodeFreeByNodeClass := free.entries.foldl (fun d e => d.set e.1 e.2) s.nodeFreeByNodeClass
    nodeFreeByClass :=
      free.entries.foldl (fun d e => d.set e.1 (maxOr0 e.2.values)) s.nodeFreeByClass }

def setGpuPod (uid : Uid) (record : Option GpuPod) (now : Instant) : ControllerState :=
  let previous := s.gpuPods.get? uid
  let noted := { s with
    gpuPods := match record with
      | none => s.gpuPods.erase uid
      | some r => s.gpuPods.set uid r
    gpuPodChanges := s.gpuPodChanges.set uid (now, record) }
  if previous = record then noted
  else noted.deriveNodeFree
    ((previous.map (·.gpuClass)).toList ++ (record.map (·.gpuClass)).toList)

def keepChange (takenAt : Instant) (merged : Dict Uid GpuPod)
    (change : Uid × Instant × Option GpuPod) : Dict Uid GpuPod :=
  if change.2.1 < takenAt then merged
  else match change.2.2 with
    | none => merged.erase change.1
    | some r => merged.set change.1 r

def rebuildGpuPods (pods : Dict Uid GpuPod) (takenAt : Instant) : ControllerState :=
  { s with
    gpuPods := s.gpuPodChanges.entries.foldl (keepChange takenAt) pods
    gpuPodChanges := s.gpuPodChanges.filter fun _ change => takenAt ≤ change.1 }.deriveNodeFree
      s.nodeInventory.keys

def installNodeInventory (nodes : NodeSnapshot) : ControllerState :=
  let free := nodeFreeFromPods nodes.inventory s.gpuPods.values
  { s with
    nodeInventory := nodes.inventory
    nodeLabels := nodes.labels
    nodeFreeByNodeClass := free
    nodeFreeByClass := free.mapValues fun _ perNode => maxOr0 perNode.values }

/-- The maps are what the inventory and the pods make them. -/
def nodeMapsDerived : Prop :=
  s.nodeFreeByNodeClass = nodeFreeFromPods s.nodeInventory s.gpuPods.values ∧
    s.nodeFreeByClass = largestNodeFreeByClass s.nodeFreeByNodeClass

def claimOverlaps (gpuClass : String) (allowed : Option (Finset String)) (p : GpuPod) : Bool :=
  match placementNodes p.placement ((s.nodeFreeByNodeClass.get? gpuClass).map Dict.keys)
      s.nodeLabels, allowed with
  | some theirs, some nodes => theirs ∩ nodes ≠ ∅
  | some theirs, none => theirs ≠ ∅
  | none, some nodes => nodes ≠ ∅
  | none, none => true

def nodeClaims (gpuClass : String) (allowed : Option (Finset String)) (excludeUid : Uid) : Nat :=
  ((s.gpuPods.entries.filter fun e =>
    e.1 ≠ excludeUid && e.2.nodeName = none && e.2.gpuClass = gpuClass &&
      s.claimOverlaps gpuClass allowed e.2).map fun e => e.2.gpuCount).sum

/-- GPUs committed at one instant by the reservations of a class. -/
def committedAt (rows : List ReservationResponse) (t : Instant) : Nat :=
  ((rows.filter fun r => slotOpen r t).map (·.gpuCount)).sum

/-- The rows guard 4 counts over a window. -/
def committedRows (label : String) (start stop : Instant) : List ReservationResponse :=
  s.reservations.filter fun r =>
    (r.kind = .booking || r.kind = .onDemand) && r.id ∉ s.noshowReservationIds &&
      slotStart r < stop && start < slotEnd r && s.effectiveLabel r = some label

/-- `peak_committed_gpus`, the peak itself. -/
def peakCommittedGpus (label : String) (start stop : Instant) : Nat :=
  let rows := s.committedRows label start stop
  ((start :: (rows.map slotStart).filter fun t => start < t).map (committedAt rows)).foldl max 0

/-- `peak_committed_gpus`: the peak, and the first instant at which it occurs. -/
def peakCommittedGpusAt (label : String) (start stop : Instant) : Nat × Instant :=
  let rows := s.committedRows label start stop
  ((start :: (rows.map slotStart).filter fun t => start < t).dedup.insertionSort (· ≤ ·)).foldl
    (fun best t => if best.1 < committedAt rows t then (committedAt rows t, t) else best) (0, start)

/-- The arithmetic of guard 5 for one ask. -/
structure NodeFit where
  largestFree : Int
  claimed : Nat
  narrowing : Option NodePlacement

def NodeFit.fits (f : NodeFit) (gpus : Nat) : Bool := (gpus : Int) ≤ f.largestFree - f.claimed

/-- `none` where guard 5 does not apply, or has nothing to go on. -/
def nodeFit (uid : Uid) (c : OnDemandCandidate) (placement : Option NodePlacement) :
    Option NodeFit :=
  let classFree := s.nodeFreeByNodeClass.get? c.gpuClassLabel
  match placementNodes placement (classFree.map Dict.keys) s.nodeLabels with
  | some allowed =>
    some { largestFree :=
             maxOr0 ((classFree.getD ∅).entries.filterMap fun e =>
               if e.1 ∈ allowed then some e.2 else none)
           claimed := s.nodeClaims c.gpuClassLabel (some allowed) uid
           narrowing := placement }
  | none =>
    if 2 ≤ c.gpuRequested ∨ c.bestEffort then
      (s.nodeFreeByClass.get? c.gpuClassLabel).map fun known =>
        { largestFree := known
          claimed := s.nodeClaims c.gpuClassLabel none uid
          narrowing := none }
    else none

/-- A candidate guard 5 holds which would now fit. -/
def nodeFitWakes (gpuClass : String) (candidate : Uid × Ref) : Bool :=
  let c := s.candidate candidate.2
  c.heldByNodeFit && c.gpuClassLabel = gpuClass &&
    (s.nodeFit candidate.1 c c.placement).all fun fit => fit.fits c.gpuRequested

def wake (now : Instant) (c : OnDemandCandidate) : OnDemandCandidate :=
  { c with heldByNodeFit := false, nextAttemptAt := min c.nextAttemptAt now }

def wokenByRoom (gpuClass : String) : List (Uid × Ref) :=
  s.ondemandCandidates.entries.filter (s.nodeFitWakes gpuClass)

def retryNodeFitHolds (gpuClass : String) (now : Instant) : ControllerState :=
  (s.wokenByRoom gpuClass).foldl (fun s e => s.modifyCandidate e.2 (wake now)) s

/-- What pod `uid` now holds is recorded; candidates it made room for become due. -/
def noteGpuPod (uid : Uid) (record : Option GpuPod) (now : Instant) : ControllerState :=
  if capacityFreesUp (s.gpuPods.get? uid) record then
    (s.setGpuPod uid record now).retryNodeFitHolds
      (((s.gpuPods.get? uid).map (·.gpuClass)).getD "") now
  else s.setGpuPod uid record now

/-- Whether `noteGpuPod` made a candidate due. -/
def gpuPodMakesRoom (uid : Uid) (record : Option GpuPod) (now : Instant) : Bool :=
  capacityFreesUp (s.gpuPods.get? uid) record &&
    (s.setGpuPod uid record now).wokenByRoom (((s.gpuPods.get? uid).map (·.gpuClass)).getD "") ≠ []

/-- A holder stuck pending which its own placement does not excuse. -/
def stuckHolder (nodesKnown : Bool) (pod : Pod) : Bool :=
  pod.phase = .pending && pod.scheduledFalse && pod.gpuClass ≠ "" &&
    match nodesKnown, s.nodeFreeByNodeClass.get? pod.gpuClass, pod.placement with
    | true, some classFree, some placement =>
      !placementStalls pod.gpuCount classFree
        (placementNodes (some placement) (some classFree.keys) s.nodeLabels)
    | _, _, _ => true

def refreshNodeFeasibility (config : Config) (snapshot : List Pod) (takenAt : Instant)
    (nodes : Option NodeSnapshot) : ControllerState :=
  let rebuilt := s.rebuildGpuPods
    (Dict.ofList (snapshot.filterMap fun p => (gpuPodRecord p).map fun record => (p.uid, record)))
    takenAt
  let installed := match nodes with
    | none => rebuilt
    | some n => rebuilt.installNodeInventory n
  if config.ondemandLeaseEnabled then
    let judged := { installed with
      stuckHolderGpuClasses :=
        ((snapshot.filter (installed.stuckHolder nodes.isSome)).map (·.gpuClass)).toFinset }
    match nodes with
    | none => judged
    | some n =>
      { judged with
        classNodeCounts := nodeCountsByClass n.inventory judged.gpuClassIds.keys
        overcommittedGpuClasses :=
          overcommitted judged.gpuClassCapacity (gpuCapacityByClass n.inventory)
        physicalGpuCapacity := gpuCapacityByClass n.inventory }
  else installed

end ControllerState

/-- What changes the maps of the nodes. -/
inductive NodeUpdate
  | install (nodes : NodeSnapshot)
  | rebuild (pods : Dict Uid GpuPod) (takenAt : Instant)
  | set (uid : Uid) (record : Option GpuPod) (now : Instant)

def ControllerState.updateNodes (s : ControllerState) : NodeUpdate → ControllerState
  | .install nodes => s.installNodeInventory nodes
  | .rebuild pods takenAt => s.rebuildGpuPods pods takenAt
  | .set uid record now => s.setGpuPod uid record now

end GpuReservation.Model
