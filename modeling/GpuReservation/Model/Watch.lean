import GpuReservation.Model.OnDemand

/-!
# The pod watch

What `pod_watch_loop` does with one event of a pod of a GPU class.
-/

namespace GpuReservation.Model

open GpuReservation.Library

inductive EventType
  | added
  | modified
  | deleted
  deriving DecidableEq, Repr

def reportOverstayIfAny (config : Config) (pod : Pod) (now : Instant) : Ctl Unit := do
  let s ← Prog.get
  match config.overstayReportEnabled, pod.bookingReference with
  | true, some reservationId =>
    match (s.guaranteeEnd (some reservationId) now).or pod.guaranteedUntil with
    | none => return ()
    | some start =>
      if now ≤ start then return ()
      else call (.reportOverstay reservationId pod.uid pod.gpuCount start now)
  | _, _ => return ()

/-- Cancels the reservation where it is an active lease; `true` where that was accepted. -/
def teardownLease (reservationId : Nat) : Ctl Bool := do
  let s ← Prog.get
  match findReservation s.reservations reservationId with
  | none => return false
  | some res =>
    if res.status ≠ .active ∨ res.kind ≠ .onDemand then return false
    else
      let cancelled ← call (.cancelReservation reservationId .podTerminated)
      if cancelled then
        Prog.modify fun s => s.dropReservation reservationId
        return true
      else return false

def teardownOndemandLease (pod : Pod) : Ctl Bool :=
  match pod.bookingReference with
  | none => return false
  | some reservationId => withReservationLock (teardownLease reservationId)

namespace ControllerState

variable (s : ControllerState)

/-- The pod is tracked on no path, and nothing it was told is remembered. -/
def forgetPod (uid : Uid) : ControllerState :=
  ((s.dequeuePod uid).removeOndemandCandidate uid).forgetPendingStatus uid

/-- The pod carries the toleration: it is recorded under its booking reference. -/
def keepWarm (pod : Pod) (now : Instant) : ControllerState :=
  let seen := (s.forgetPod pod.uid).markPodSeenForNoshow pod.ns pod.gpuClass pod.bookingReference
    pod.groupLabel now
  match pod.bookingReference with
  | none => seen
  | some bookingId =>
    (seen.recordPlacement bookingId pod.uid pod.gpuCount).nameHolder pod.uid pod.ns pod.name

/-- Why a pending pod does not qualify for on-demand admission. -/
def ondemandIneligibility (config : Config) (pod : Pod) (minRuntime : Option Nat)
    (bestEffort : Bool) (problems : List AnnotationProblem) : List Ineligibility :=
  if ¬ config.ondemandLeaseEnabled then [.notEnabled]
  else
    let runtimeProblems := problems.filter fun p => p.annotation = minRuntimeAnnotation
    (if minRuntime = none ∧ ¬ bestEffort then
      (if runtimeProblems = [] then [.noMinRuntime] else runtimeProblems.map .ignored) ++
        (problems.filter fun p => p.annotation = runtimeGuaranteeAnnotation).map .ignored
    else []) ++
    (if pod.usageGroup = none then
      [if s.requiredGroupLabel.isSome then .noGroupLabel pod.hasUsageGroupAnnotation
        else .noUsageGroup]
    else [])

end ControllerState

section Handler

variable (config : Config) (passes : Nat)

/-- What pod `uid` now holds is recorded; `true` where a candidate became due. -/
def noteGpuPodNow (uid : Uid) (record : Option GpuPod) : Ctl Bool := do
  let now ← call .now
  let s ← Prog.get
  Prog.modify fun s => s.noteGpuPod uid record now
  return s.gpuPodMakesRoom uid record now

def admitIf (wanted : Bool) : Ctl Unit :=
  if wanted then runOndemandAdmission config passes else return ()

/-- A pod which is deleted or terminal: its slot is free. -/
def podEnded (pod : Pod) : Ctl Unit := do
  Prog.modify fun s => s.forgetPod pod.uid
  let s ← Prog.get
  Prog.modify fun s => s.releasePod pod.uid
  let nodeFreed ← noteGpuPodNow pod.uid none
  let now ← call .now
  reportOverstayIfAny config pod now
  let leaseReleased ← teardownOndemandLease pod
  retryWaiters config (s.placeOf pod.uid)
  admitIf config passes (leaseReleased || nodeFreed)

/-- A pod which carries the toleration. -/
def podTolerated (pod : Pod) : Ctl Unit := do
  let now ← call .now
  Prog.modify fun s => s.keepWarm pod now
  let nodeFreed ← noteGpuPodNow pod.uid (gpuPodRecord pod)
  admitIf config passes nodeFreed

/-- A pod which asks for no GPU is on no path. -/
def podWithoutGpus (eventType : EventType) (pod : Pod) (now : Instant) : Ctl Unit := do
  Prog.modify fun s => (s.removeOndemandCandidate pod.uid).dequeuePod pod.uid
  tellPod config pod.uid now pod.ns pod.name
    (config.podProblemEventEnabled && eventType = .added && pod.phase = .pending)
    (.noGpuRequest pod.gpuClass)

/-- The pod leaves the candidates for the queue of a booking. -/
def queuePod (pod : Pod) (reservation : ReservationResponse) : Ctl Unit := do
  let enqueuedAt ← call .now
  Prog.modify fun s =>
    (s.removeOndemandCandidate pod.uid).enqueuePod pod.uid pod.name pod.ns pod.gpuClass
      pod.gpuCount pod.groupLabel reservation enqueuedAt

def podAdmittable (eventType : EventType) (pod : Pod) (reservation : ReservationResponse) :
    Ctl Unit := do
  queuePod pod reservation
  if eventType = .added then followUp config pod.uid else return ()

def emitAnnotationNotice (pod : Pod) (problems : List AnnotationProblem) (now : Instant) :
    Ctl Unit :=
  if config.podProblemEventEnabled ∧ problems ≠ [] then
    postPendingStatus config pod.uid pod.ns pod.name .annotations (.annotationIgnored problems) now
  else return ()

/-- The candidate a pod becomes. -/
def candidateOf (pod : Pod) (minRuntime : Option Nat) (bestEffort : Bool) (now : Instant) :
    OnDemandCandidate where
  podUid := pod.uid
  podName := pod.name
  podNamespace := pod.ns
  gpuClassLabel := pod.gpuClass
  gpuRequested := pod.gpuCount
  minRuntimeSeconds := minRuntime.getD 0
  podCreatedAt := pod.createdAt.getD now
  nextAttemptAt := now
  groupLabel := pod.groupLabel
  usageGroup := pod.usageGroup
  usageGroupSource := pod.usageGroupSource
  bestEffort := bestEffort

def podEligible (eventType : EventType) (pod : Pod) (minRuntime : Option Nat) (bestEffort : Bool)
    (problems : List AnnotationProblem) (now : Instant) : Ctl Unit :=
  match eventType with
  | .added => do
    let addedAt ← call .now
    Prog.modify fun s =>
      (s.dequeuePod pod.uid).addOndemandCandidate
        { candidateOf pod minRuntime bestEffort now with nextAttemptAt := addedAt }
    emitAnnotationNotice config pod problems now
    runOndemandAdmission config passes
  | _ => do
    let s ← Prog.get
    match s.ondemandCandidates.get? pod.uid with
    | none => return ()
    | some ref =>
      if (s.candidate ref).awaitingScheduleSignal ∧
          (isGpuGatedPending pod tolerationKey).isSome then
        let verdictAt ← call .now
        updateCandidate ref fun c =>
          { c with awaitingScheduleSignal := false, nextAttemptAt := verdictAt }
        runOndemandAdmission config passes
      else return ()

/-- A pod which waits for the window of a booking, however far off. -/
def podWaits (eventType : EventType) (pod : Pod) (reservation : ReservationResponse)
    (reasons : List Ineligibility) (now : Instant) : Ctl Unit := do
  queuePod pod reservation
  let s ← Prog.get
  match s.taskQueue.get? pod.uid, eventType with
  | some ref, .added => do
    Prog.modify fun s => s.modifyEntry ref fun e => { e with ondemandIneligibility := reasons }
    tellQueuedStatus config pod.uid ref now
  | _, _ => return ()

/-- A pod which nothing will admit as it stands. -/
def podLeftPending (pod : Pod) (reasons : List Ineligibility) (now : Instant) : Ctl Unit := do
  let s ← Prog.get
  if pod.phase ≠ .pending then return ()
  else if s.gpuClassesKnown ∧ pod.gpuClass ∉ s.gpuClassIds then
    emitUnknownClassEvent config pod.uid now pod.ns pod.name pod.gpuClass
  else
    tellPod config pod.uid now pod.ns pod.name
      (s.reservationsKnown && config.podProblemEventEnabled && reasons ≠ [])
      (.noReservation pod.ns pod.gpuClass pod.groupLabel reasons
        (s.nearMissGroups pod.ns pod.gpuClass pod.groupLabel now)
        (s.nearMissClasses pod.ns pod.gpuClass now))

/-- A pod which no booking admits now. -/
def podUnreserved (eventType : EventType) (pod : Pod) (now : Instant) : Ctl Unit := do
  let bestEffort := config.bestEffortEnabled && pod.declinesGuarantee
  let minRuntime := pod.minRuntimeSeconds.or
    (if config.defaultMinRuntimeSeconds = 0 then none else some config.defaultMinRuntimeSeconds)
  let problems := if eventType = .added then
      pod.annotationProblems.filter fun p => !(bestEffort && p.annotation = minRuntimeAnnotation)
    else []
  if config.ondemandLeaseEnabled ∧ pod.phase = .pending ∧ (minRuntime.isSome ∨ bestEffort) ∧
      pod.usageGroup.isSome then
    podEligible config passes eventType pod minRuntime bestEffort problems now
  else
    let matchedAt ← call .now
    let s ← Prog.get
    let reasons := s.ondemandIneligibility config pod minRuntime bestEffort problems
    match s.findBestReservation pod.ns pod.gpuClass pod.groupLabel (some pod.gpuCount) matchedAt with
    | some anyMatch =>
      podWaits config eventType pod anyMatch (if config.ondemandLeaseEnabled then reasons else [])
        now
    | none => if eventType = .added then podLeftPending config pod reasons now else return ()

/-- A pod which is there, not terminal, and does not carry the toleration. -/
def podPending (eventType : EventType) (pod : Pod) : Ctl Unit := do
  let now ← call .now
  let s ← Prog.get
  if pod.gpuCount < 1 then podWithoutGpus config eventType pod now
  else
    match s.findAdmittableReservation pod.ns pod.gpuClass pod.gpuCount now
        (minutes config.ondemandHorizonMinutes) pod.groupLabel with
    | some admittable => podAdmittable config eventType pod admittable
    | none => podUnreserved config passes eventType pod now

def watchEvent (eventType : EventType) (pod : Pod) : Ctl Unit :=
  if pod.gpuClass = "" then return ()
  else if eventType = .deleted ∨ pod.phase.isTerminal then podEnded config passes pod
  else if podHasToleration pod tolerationKey pod.gpuClass "NoSchedule" then
    podTolerated config passes pod
  else podPending config passes eventType pod

end Handler

end GpuReservation.Model
