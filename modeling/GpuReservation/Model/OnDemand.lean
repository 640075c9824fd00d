import GpuReservation.Model.Admission
import Mathlib.Data.List.Sort

/-!
# On-demand admission

A candidate is vetted, offered to the app, and admitted under the lease the app grants it.
-/

namespace GpuReservation.Model

open GpuReservation.Library

/-- `ERROR_RETRY_CAP_SECONDS`. -/
def errorRetryCapSeconds : Int := 1800

def errorRetryAt (now : Instant) (failures : Nat) : Ctl Instant := do
  let base ← call (.randint 120 300)
  return now + seconds (min (base * 2 ^ (failures - 1)) errorRetryCapSeconds)

def denialRetryAt (now : Instant) (notBefore : Option Instant) : Ctl Instant := do
  let retryAt ← jitteredRetryAt now
  return match notBefore with
    | none => retryAt
    | some t => max retryAt (min t (now + seconds errorRetryCapSeconds))

def updateCandidate (ref : Ref) (f : OnDemandCandidate → OnDemandCandidate) : Ctl Unit :=
  Prog.modify fun s => s.modifyCandidate ref f

/-- The next attempt of the candidate is at `at_`. -/
def scheduleAt (ref : Ref) (at_ : Instant) : Ctl Unit :=
  updateCandidate ref fun c => { c with nextAttemptAt := at_ }

section Events

variable (config : Config) (uid : Uid) (ref : Ref) (now : Instant)

/-- Puts a status Event on a pod. -/
def tellPod (ns name : String) (enabled : Bool) (key : StatusKey) : Ctl Unit :=
  if enabled then postPendingStatus config uid ns name .hold key now else return ()

/-- Puts a status Event on the pod of a candidate. -/
def tellCandidate (enabled : Bool) (key : StatusKey) : Ctl Unit := do
  let s ← Prog.get
  let c := s.candidate ref
  tellPod config uid now c.podNamespace c.podName enabled key

def emitLeaseDenialEvent (detail : Option String) (structural : Bool) : Ctl Unit :=
  match detail with
  | none => return ()
  | some text =>
    tellCandidate config uid ref now (config.ondemandDenialEventEnabled && text ≠ "")
      (.onDemandLeaseDenied structural text)

def emitLeaseRejectedEvent (detail : Option String) : Ctl Unit := do
  let s ← Prog.get
  let c := s.candidate ref
  tellCandidate config uid ref now config.ondemandDenialEventEnabled
    (.onDemandLeaseRejected c.gpuRequested c.gpuClassLabel c.podNamespace c.usageGroup
      c.usageGroupSource c.groupLabel detail
      (s.nearMissGroups c.podNamespace c.gpuClassLabel c.groupLabel now))

def emitUnknownClassEvent (ns name gpuClass : String) : Ctl Unit := do
  let s ← Prog.get
  tellPod config uid now ns name (s.gpuClassesKnown && config.podProblemEventEnabled)
    (.unknownGpuClass gpuClass s.gpuClassIds.keys.mergeSort)

def emitAdmissionPausedEvent (guardNumber : Nat) : Ctl Unit := do
  let s ← Prog.get
  tellCandidate config uid ref now config.ondemandPauseEventEnabled
    (.onDemandAdmissionPaused guardNumber (s.candidate ref).gpuClassLabel)

def emitPlacementEvent (key : StatusKey) : Ctl Unit :=
  tellCandidate config uid ref now config.podProblemEventEnabled key

def emitCapacityWaitEvent : Ctl Unit := do
  let s ← Prog.get
  tellCandidate config uid ref now config.ondemandDenialEventEnabled
    (.waitingForCapacity (s.candidate ref).gpuClassLabel)

end Events

/-- What guards 4 and 5 read about one candidate, kept so that it can be judged again. -/
structure FitInputs where
  placement : Option NodePlacement
  durationSeconds : Nat
  deriving DecidableEq, Repr

/-- Guard 4: the app counts more GPUs of the class than there are. -/
def ControllerState.overcommitHolds (s : ControllerState) (config : Config) (c : OnDemandCandidate)
    (durationSeconds : Nat) (now : Instant) : Bool :=
  !c.bestEffort && c.gpuClassLabel ∈ s.overcommittedGpuClasses &&
    (!config.ondemandOvercommitFit ||
      (s.physicalGpuCapacity.get? c.gpuClassLabel).getD 0 <
        s.peakCommittedGpus c.gpuClassLabel now (now + seconds durationSeconds) + c.gpuRequested)

/-- Guard 5: no node the ask may use has the room. -/
def ControllerState.nodeFitHolds (s : ControllerState) (uid : Uid) (c : OnDemandCandidate)
    (placement : Option NodePlacement) : Option NodeFit :=
  (s.nodeFit uid c placement).filter fun fit => !fit.fits c.gpuRequested

def tellWaitingForNode (config : Config) (uid : Uid) (ref : Ref) (now : Instant)
    (narrowing : Option NodePlacement) : Ctl Unit := do
  let s ← Prog.get
  let c := s.candidate ref
  match narrowing with
  | none => return ()
  | some placement =>
    emitPlacementEvent config uid ref now (.waitingForNode c.gpuClassLabel placement c.gpuRequested)

/-- Guards 4 and 5; `true` where the candidate is held. -/
def holdOnFit (config : Config) (uid : Uid) (ref : Ref) (fit : FitInputs) (now : Instant) :
    Ctl Bool := do
  let s ← Prog.get
  let c := s.candidate ref
  if s.overcommitHolds config c fit.durationSeconds now then
    updateCandidate ref fun c =>
      { c with heldByOvercommit := true, nextAttemptAt := shortRetryAt now }
    emitAdmissionPausedEvent config uid ref now 4
    return true
  else
    match s.nodeFitHolds uid c fit.placement with
    | none => return false
    | some nodeFit =>
      updateCandidate ref fun c =>
        { c with nextAttemptAt := shortRetryAt now, heldByNodeFit := true }
      tellWaitingForNode config uid ref now nodeFit.narrowing
      return true

/-- Guard 1, the pod's own half: its placement allows no node of its class. -/
def ControllerState.noMatchingNode (s : ControllerState) (gpuClass : String)
    (placement : Option NodePlacement) : Option StatusKey :=
  let nodes := (s.nodeFreeByNodeClass.get? gpuClass).map Dict.keys
  match placement with
  | none => none
  | some p =>
    if placementNodes placement nodes s.nodeLabels = some ∅ then
      some (.noMatchingNode gpuClass p (nodes.getD []).length
        ((s.nodeFreeByNodeClass.entries.filter fun e =>
          e.1 ≠ gpuClass && p.matchingNodes e.2.keys s.nodeLabels ≠ ∅).map Prod.fst).mergeSort)
    else none

inductive Preflight
  | remove
  | retry
  | ready (ask : OnDemandAdmissionCandidate) (fit : FitInputs)

section Preflight

variable (config : Config) (uid : Uid) (ref : Ref)

/-- The entry is tried where its window is open and it is due. -/
def fastPath (entryRef : Ref) (now : Instant) : Ctl Unit := do
  let s ← Prog.get
  let e := s.entry entryRef
  if slotOpen e.reservation now ∧ e.nextAttemptAt ≤ now then
    let done ← tryApplyToleration uid entryRef config.schedulingGateName
    if done then Prog.modify fun s => s.dequeuePod uid else return ()
  else return ()

/-- A pod which was just queued is tried at once, or told what it waits for. -/
def followUp : Ctl Unit := do
  let s ← Prog.get
  match s.taskQueue.get? uid with
  | none => return ()
  | some entryRef => do
    let now ← call .now
    fastPath config uid entryRef now
    let s ← Prog.get
    if uid ∈ s.taskQueue then tellQueuedStatus config uid entryRef now else return ()

/-- A booking admits the pod: it goes to the reserved queue, and is tried there at once. -/
def reroute (reservation : ReservationResponse) : Ctl Preflight := do
  let enqueuedAt ← call .now
  Prog.modify fun s =>
    let c := s.candidate ref
    s.enqueuePod uid c.podName c.podNamespace c.gpuClassLabel c.gpuRequested c.groupLabel
      reservation enqueuedAt
  followUp config uid
  return .remove

/-- Held until `at_`, with its owner told why. -/
def holdCandidate (at_ : Instant) (tell : Ctl Unit) : Ctl Preflight := do
  scheduleAt ref at_
  tell
  return .retry

/-- Guards 4 and 5, and the ask. -/
def preflightFit (now : Instant) (pod : Pod) (gpuClassId : Nat) : Ctl Preflight := do
  let s ← Prog.get
  let c := s.candidate ref
  let duration :=
    if c.bestEffort then 0 else c.minRuntimeSeconds + config.ondemandLeaseBufferMinutes * 60
  let fit : FitInputs := { placement := pod.placement, durationSeconds := duration }
  let held ← holdOnFit config uid ref fit now
  if held then return .retry
  else
    return .ready
      { podUid := uid, podCreatedAt := c.podCreatedAt, username := c.podNamespace,
        groupName := c.usageGroup, gpuClassId := gpuClassId, gpuCount := c.gpuRequested,
        durationSeconds := duration, bestEffort := c.bestEffort } fit

/-- Guards 1b and 3, and the pod's own placement. -/
def preflightNodes (now : Instant) (pod : Pod) (gpuClassId : Nat) : Ctl Preflight := do
  let s ← Prog.get
  let c := s.candidate ref
  if s.classNodeCounts.get? c.gpuClassLabel = some 0 then
    holdCandidate ref (shortRetryAt now) (emitAdmissionPausedEvent config uid ref now 1)
  else
    updateCandidate ref fun c => { c with placement := pod.placement }
    match s.noMatchingNode c.gpuClassLabel pod.placement with
    | some key => do
      let retryAt ← jitteredRetryAt now
      holdCandidate ref retryAt (emitPlacementEvent config uid ref now key)
    | none =>
      if c.gpuClassLabel ∈ s.stuckHolderGpuClasses then
        holdCandidate ref (shortRetryAt now) (emitAdmissionPausedEvent config uid ref now 3)
      else preflightFit config uid ref now pod gpuClassId

/-- Guard 1a: is the pod pending for something a lease could fix? -/
def preflightGate (now : Instant) (pod : Pod) (gpuClassId : Nat) : Ctl Preflight := do
  let gated := isGpuGatedPending pod tolerationKey
  updateCandidate ref fun c => { c with awaitingScheduleSignal := gated.isNone }
  match gated with
  | some false => return .remove
  | none => holdCandidate ref (shortRetryAt now) (return ())
  | some true => preflightNodes config uid ref now pod gpuClassId

/-- The pod has been read: a booking that admits it comes before a lease. -/
def preflightPod (now : Instant) (pod : Pod) : Ctl Preflight := do
  let s ← Prog.get
  let c := s.candidate ref
  if pod.phase.isTerminal ∨ pod.phase = .unknown then return .remove
  else
    match s.findAdmittableReservation c.podNamespace c.gpuClassLabel c.gpuRequested now
        (minutes config.ondemandHorizonMinutes) c.groupLabel with
    | some admittable => reroute config uid ref admittable
    | none =>
      match s.gpuClassIds.get? c.gpuClassLabel with
      | none => do
        let retryAt ← jitteredRetryAt now
        holdCandidate ref retryAt
          (emitUnknownClassEvent config uid now c.podNamespace c.podName c.gpuClassLabel)
      | some gpuClassId => preflightGate config uid ref now pod gpuClassId

/-- `_preflight_with_fit`. -/
def preflightWithFit : Ctl Preflight := do
  let now ← call .now
  updateCandidate ref fun c => { c with heldByOvercommit := false, heldByNodeFit := false }
  let s ← Prog.get
  let c := s.candidate ref
  let freshPod ← call (.readPod c.podNamespace c.podName)
  match freshPod with
  | none => do
    let retryAt ← jitteredRetryAt now
    holdCandidate ref retryAt (return ())
  | some pod => preflightPod config uid ref now pod

end Preflight

section Grant

variable (config : Config) (uid : Uid) (ref : Ref)

/-- `_schedule_after_denial`. -/
def scheduleAfterDenial (attempt : LeaseAttempt) (now : Instant) : Ctl Unit := do
  if attempt.structural then
    updateCandidate ref fun c => { c with leaseErrorCount := c.leaseErrorCount + 1 }
    let s ← Prog.get
    let retryAt ← errorRetryAt now (s.candidate ref).leaseErrorCount
    updateCandidate ref fun c => { c with nextAttemptAt := retryAt, awaitingCapacity := false }
  else
    let retryAt ← denialRetryAt now attempt.notBefore
    updateCandidate ref fun c =>
      { c with
        leaseErrorCount := 0
        nextAttemptAt := retryAt
        awaitingCapacity := attempt.code.any (· ∈ capacityDenialCodes) }

/-- The create was not granted. -/
def handleRefusal (attempt : LeaseAttempt) (now : Instant) : Ctl Unit := do
  updateCandidate ref fun c => { c with awaitingCapacity := false }
  if attempt.status = some leaseDeniedStatus then
    scheduleAfterDenial ref attempt now
    emitLeaseDenialEvent config uid ref now attempt.detail attempt.structural
  else if attempt.retryable then
    let retryAt ← jitteredRetryAt now
    updateCandidate ref fun c => { c with leaseErrorCount := 0, nextAttemptAt := retryAt }
  else
    updateCandidate ref fun c => { c with leaseErrorCount := c.leaseErrorCount + 1 }
    let s ← Prog.get
    let retryAt ← errorRetryAt now (s.candidate ref).leaseErrorCount
    scheduleAt ref retryAt
    if attempt.status = some leaseNotFoundStatus then
      emitLeaseRejectedEvent config uid ref now attempt.detail
    else return ()

def OnDemandAdmissionCandidate.request (ask : OnDemandAdmissionCandidate) (uid : Uid)
    (bestEffort : Bool) : ReservationRequest where
  username := ask.username
  groupName := ask.groupName
  gpuClassId := ask.gpuClassId
  gpuCount := ask.gpuCount
  durationSeconds := if bestEffort then none else some ask.durationSeconds
  idempotencyKey := uid

/-- The entry a grant is admitted with; it never stands on the queue. -/
def OnDemandCandidate.entryUnder (c : OnDemandCandidate) (uid : Uid) (lease : ReservationResponse)
    (now : Instant) : QueueEntry where
  podUid := uid
  podName := c.podName
  podNamespace := c.podNamespace
  gpuClassLabel := c.gpuClassLabel
  gpuRequested := c.gpuRequested
  reservation := lease
  nextAttemptAt := now
  groupLabel := c.groupLabel

/-- The lease is known, and an entry is made under it. -/
def ControllerState.upsertLease (s : ControllerState) (lease : ReservationResponse)
    (e : QueueEntry) : ControllerState :=
  { s with reservations := applyPushToActive s.reservations [lease] }.allocEntry e

/-- The compensating cancel: its answer is not looked at. -/
def compensate (lease : ReservationResponse) : Ctl Unit := do
  let _ ← call (.cancelReservation lease.id .controllerRevoked)
  Prog.modify fun s => s.dropReservation lease.id

/-- What the reservation lock is held for: the upsert, the admission and, where that did not land,
the compensating cancel. -/
def admitUnderLease (lease : ReservationResponse) (now : Instant) : Ctl Bool := do
  let s ← Prog.get
  Prog.modify fun s => s.upsertLease lease ((s.candidate ref).entryUnder uid lease now)
  let admittedQueue ← tryApplyToleration uid s.entries.next config.schedulingGateName
  let s ← Prog.get
  if s.recordedOn lease.id uid then return admittedQueue
  else
    compensate lease
    return admittedQueue

/-- `true`: the candidate is done with. -/
def grantAndAdmit (ask : OnDemandAdmissionCandidate) : Ctl Bool := do
  let now ← call .now
  let s ← Prog.get
  let attempt ← call (.createReservation (ask.request uid (s.candidate ref).bestEffort))
  match attempt.reservation with
  | none => do
    handleRefusal config uid ref attempt now
    return false
  | some lease => do
    updateCandidate ref fun c => { c with leaseErrorCount := 0, awaitingCapacity := false }
    let admittedQueue ← withReservationLock (admitUnderLease config uid ref lease now)
    if admittedQueue then return true
    else
      let retryAt ← jitteredRetryAt now
      scheduleAt ref retryAt
      return false

/-- What the app said of a candidate it did not grant. -/
def handleWithheld (verdict : Option AdmissionWithheld) (now : Instant) : Ctl Unit := do
  match verdict.filter fun v => v.code.isSome && !v.outranked with
  | some v => do
    scheduleAfterDenial ref v.asDenial now
    emitLeaseDenialEvent config uid ref now v.asDenial.detail v.asDenial.structural
  | none => do
    let retryAt ← jitteredRetryAt now
    updateCandidate ref fun c =>
      { c with leaseErrorCount := 0, awaitingCapacity := true, nextAttemptAt := retryAt }
    emitCapacityWaitEvent config uid ref now

end Grant

/-- `_DETAIL_MAX_CHARS`. -/
def detailMaxChars : Nat := 200

def clipDetail (text : String) : String :=
  if detailMaxChars < text.length then String.ofList (text.toList.take detailMaxChars) ++ "…"
  else text

/-- A candidate preflight found ready; `due`: its retry time had come. -/
structure Ready where
  uid : Uid
  ref : Ref
  ask : OnDemandAdmissionCandidate
  fit : FitInputs
  due : Bool

/-- The app's granted uids, in its order: those it was offered, each once. -/
def mapGrantedUids (ready : List Ready) (granted : List Uid) : List Uid :=
  granted.foldl
    (fun result uid =>
      if (ready.map (·.uid)).contains uid && !result.contains uid then result ++ [uid] else result)
    []

section Batch

variable (config : Config)

/-- One candidate of the batch is vetted where it is due, or waits for capacity. -/
def preflightOne (now : Instant) (ready : List Ready) (candidate : Uid × Ref) :
    Ctl (List Ready) := do
  let s ← Prog.get
  let c := s.candidate candidate.2
  if c.nextAttemptAt ≤ now ∨ (c.awaitingCapacity ∧ config.ondemandDelegateAdmission) then
    let status ← preflightWithFit config candidate.1 candidate.2
    match status with
    | .ready ask fit =>
      return ready ++ [⟨candidate.1, candidate.2, ask, fit, c.nextAttemptAt ≤ now⟩]
    | .remove => do
      updateCandidate candidate.2 fun c => { c with awaitingCapacity := false }
      Prog.modify fun s => s.removeOndemandCandidate candidate.1
      return ready
    | .retry => do
      updateCandidate candidate.2 fun c => { c with awaitingCapacity := false }
      return ready
  else return ready

/-- One granted candidate is judged again and granted; it leaves when it is done with. -/
def grantOne (r : Ready) : Ctl Unit := do
  let now ← call .now
  let held ← holdOnFit config r.uid r.ref r.fit now
  if held then updateCandidate r.ref fun c => { c with awaitingCapacity := false }
  else
    let done ← grantAndAdmit config r.uid r.ref r.ask
    if done then Prog.modify fun s => s.removeOndemandCandidate r.uid else return ()

def grantEach (ready : List Ready) (granted : List Uid) : Ctl Unit :=
  (granted.filterMap fun uid => ready.find? (·.uid = uid)).forM (grantOne config)

/-- Those the app was offered and did not grant. -/
def withholdEach (ready : List Ready) (granted : List Uid) (withheld : Dict Uid AdmissionWithheld) :
    Ctl Unit := do
  let deferredAt ← call .now
  (ready.filter fun r => r.uid ∉ granted).forM fun r =>
    handleWithheld config r.uid r.ref (withheld.get? r.uid) deferredAt

def admitBatch (ready : List Ready) : Ctl Unit := do
  let due := (ready.filter (·.due)).map (·.uid)
  if config.ondemandDelegateAdmission then
    let selection ← call (.selectOndemandAdmissions (ready.map (·.ask)))
    match selection with
    | some answered => do
      let granted := mapGrantedUids ready answered.granted
      grantEach config ready granted
      withholdEach config ready granted answered.withheld
    | none => grantEach config ready due
  else grantEach config ready due

/-- The candidates, oldest pod first. -/
def ControllerState.candidatesByAge (s : ControllerState) : List (Uid × Ref) :=
  s.ondemandCandidates.entries.insertionSort fun a b =>
    (s.candidate a.2).podCreatedAt ≤ (s.candidate b.2).podCreatedAt

def runOndemandAdmissionOnce : Ctl Unit := do
  let now ← call .now
  let s ← Prog.get
  let ready ← s.candidatesByAge.foldlM (preflightOne config now) []
  if ready.isEmpty then return () else admitBatch config ready

/-- Up to `n` passes: another one follows where it was asked for meanwhile. -/
def runPasses : Nat → Ctl Unit
  | 0 => return ()
  | n + 1 => do
    Prog.modify fun s => { s with ondemandRerunRequested := false }
    runOndemandAdmissionOnce config
    let s ← Prog.get
    if s.ondemandRerunRequested then runPasses n else return ()

/-- One batch runs at a time; a trigger meanwhile asks it to run again. -/
def runOndemandAdmission (passes : Nat) : Ctl Unit := do
  let s ← Prog.get
  if ¬ config.ondemandLeaseEnabled then return ()
  else if s.ondemandAdmissionLocked then
    Prog.modify fun s => { s with ondemandRerunRequested := true }
  else
    Prog.modify fun s => { s with ondemandAdmissionLocked := true }
    runPasses config passes
    Prog.modify fun s => { s with ondemandAdmissionLocked := false }

end Batch

end GpuReservation.Model
