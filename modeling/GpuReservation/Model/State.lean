import GpuReservation.Library.Heap
import GpuReservation.Model.Pod
import Mathlib.Data.Finset.Basic

/-!
# The state of the controller

The records and the shared state of `controller.py`.  Queue entries and candidates are objects
which several tasks hold at once, so the maps hold references to them.
-/

namespace GpuReservation.Model

open GpuReservation.Library

/-- The settings of `config.py` which the modelled paths read. -/
structure Config where
  ondemandLeaseEnabled : Bool := true
  podAdoptionEnabled : Bool := true
  ondemandMergeEnabled : Bool := true
  terminationWarningEnabled : Bool := true
  terminationWarningLeadMinutes : Nat := 30
  ondemandDenialEventEnabled : Bool := true
  ondemandDenialEventRepeatMinutes : Nat := 30
  ondemandPauseEventEnabled : Bool := true
  podProblemEventEnabled : Bool := true
  reservationWaitEventEnabled : Bool := true
  preemptionDelegateSelection : Bool := true
  preemptionLeadMinutes : Nat := 15
  ondemandDelegateAdmission : Bool := true
  ondemandHorizonMinutes : Nat := 30
  ondemandLeaseBufferMinutes : Nat := 10
  ondemandOvercommitFit : Bool := true
  schedulingGateName : Option String := none
  bestEffortEnabled : Bool := false
  defaultMinRuntimeSeconds : Nat := 0
  noshowTimeoutMinutes : Nat := 15
  noshowGraceMinutes : Nat := 30
  headroomTargetPercent : Nat := 0
  headroomNoticeMinutes : Nat := 15
  headroomCheckInterval : Nat := 600
  overstayReportEnabled : Bool := false
  deriving DecidableEq, Repr, Inhabited

/-- Why a pending pod does not qualify for on-demand admission. -/
inductive Ineligibility
  | notEnabled
  | ignored (problem : AnnotationProblem)
  | noMinRuntime
  | noGroupLabel (annotationUnused : Bool)
  | noUsageGroup
  deriving DecidableEq, Repr, Inhabited

structure QueueEntry where
  podUid : Uid
  podName : String
  podNamespace : String
  gpuClassLabel : String
  gpuRequested : Nat
  reservation : ReservationResponse
  nextAttemptAt : Instant
  groupLabel : Option String := none
  ondemandIneligibility : List Ineligibility := []
  deriving DecidableEq, Repr, Inhabited

structure OnDemandCandidate where
  podUid : Uid
  podName : String
  podNamespace : String
  gpuClassLabel : String
  gpuRequested : Nat
  minRuntimeSeconds : Nat
  podCreatedAt : Instant
  nextAttemptAt : Instant
  groupLabel : Option String := none
  usageGroup : Option String := none
  usageGroupSource : Option String := none
  awaitingScheduleSignal : Bool := false
  heldByOvercommit : Bool := false
  heldByNodeFit : Bool := false
  placement : Option NodePlacement := none
  awaitingCapacity : Bool := false
  bestEffort : Bool := false
  leaseErrorCount : Nat := 0
  deriving DecidableEq, Repr, Inhabited

structure GpuPod where
  ns : String
  name : String
  gpuClass : String
  gpuCount : Nat
  nodeName : Option String := none
  placement : Option NodePlacement := none
  reservationId : Option Nat := none
  deriving DecidableEq, Repr, Inhabited

structure PodRuntimeView where
  uid : Uid
  ns : String
  name : String
  gpuClass : String
  gpuCount : Nat
  reservationId : Option Nat
  nodeResident : Bool
  terminating : Bool
  groupLabel : Option String := none
  nodeName : Option String := none
  terminationWarningAt : Option Instant := none
  nodeExcluded : Bool := false
  deriving DecidableEq, Repr, Inhabited

inductive PendingTopic
  | hold
  | annotations
  deriving DecidableEq, Repr, Inhabited

/-- The key of a status Event: its reason, with what its text is rendered from. -/
inductive StatusKey
  | onDemandAdmissionPaused (guard : Nat) (gpuClass : String)
  | unknownGpuClass (gpuClass : String) (known : List String)
  | noMatchingNode (gpuClass : String) (placement : NodePlacement) (nodes : Nat)
      (otherClasses : List String)
  | waitingForNode (gpuClass : String) (placement : NodePlacement) (gpus : Nat)
  | onDemandLeaseDenied (structural : Bool) (detail : String)
  | onDemandLeaseRejected (gpus : Nat) (gpuClass ns : String)
      (usageGroup usageGroupSource groupLabel detail : Option String) (otherGroups : List String)
  | waitingForCapacity (gpuClass : String)
  | reservationTooSmall (reservation : ReservationResponse) (gpus : Nat)
      (ondemandIneligibility : List Ineligibility)
  | waitingForReservation (reservation : ReservationResponse) (ondemandIneligibility : List Ineligibility)
  | reservationFull (reservation : ReservationResponse) (gpus free : Nat) (names : List String)
      (others : Nat) (ondemandIneligibility : List Ineligibility)
  | noGpuRequest (gpuClass : String)
  | noReservation (ns gpuClass : String) (groupLabel : Option String)
      (reasons : List Ineligibility) (otherGroups otherClasses : List String)
  | annotationIgnored (problems : List AnnotationProblem)
  deriving DecidableEq, Repr, Inhabited

structure PendingStatus where
  key : StatusKey
  at_ : Instant
  deriving DecidableEq, Repr, Inhabited

structure ControllerState where
  reservations : List ReservationResponse := []
  gpuClassLabels : Dict Nat String := ∅
  gpuClassIds : Dict String Nat := ∅
  gpuClassCapacity : Dict String Nat := ∅
  gpuClassesKnown : Bool := false
  reservationsKnown : Bool := false
  overcommittedGpuClasses : Finset String := ∅
  physicalGpuCapacity : Dict String Nat := ∅
  requiredGroupLabel : Option String := none
  /-- Every queue entry made so far. -/
  entries : Heap QueueEntry := ∅
  taskQueue : Dict Uid Ref := ∅
  /-- Every on-demand candidate made so far. -/
  candidates : Heap OnDemandCandidate := ∅
  ondemandCandidates : Dict Uid Ref := ∅
  pendingStatus : Dict Uid (Dict PendingTopic PendingStatus) := ∅
  occupancy : Dict Nat (Dict Uid Nat) := ∅
  holderNames : Dict Uid (String × String) := ∅
  stuckHolderGpuClasses : Finset String := ∅
  nodeFreeByClass : Dict String Int := ∅
  classNodeCounts : Dict String Nat := ∅
  nodeFreeByNodeClass : Dict String (Dict String Int) := ∅
  nodeLabels : Dict String (Dict String String) := ∅
  nodeInventory : Dict String (Dict String Nat) := ∅
  gpuPods : Dict Uid GpuPod := ∅
  gpuPodChanges : Dict Uid (Instant × Option GpuPod) := ∅
  noshowDeadlines : Dict Nat Instant := ∅
  noshowReservationIds : Finset Nat := ∅
  pendingNoshowCancels : Finset Nat := ∅
  pendingOndemandMergeCancels : Finset Nat := ∅
  claimedReservationIds : Finset Nat := ∅
  /-- The phases already evaluated at each boundary; phase "B" is `true`. -/
  preemptionFired : Dict Instant (Finset Bool) := ∅
  headroomLastEval : Option Instant := none
  terminationWarningsOutstanding : Bool := true
  /-- `ondemand_admission_lock` is held. -/
  ondemandAdmissionLocked : Bool := false
  ondemandRerunRequested : Bool := false
  deriving DecidableEq, Inhabited

end GpuReservation.Model
