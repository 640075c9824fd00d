import GpuReservation.Model.Nodes

/-!
# Admitting a pod under a reservation

`_try_apply_toleration` and what surrounds it: the retry clock of an entry, the Events which tell
the owner of a queued pod what it waits for, and the retry of the pods waiting on a reservation.
-/

namespace GpuReservation.Model

open GpuReservation.Library

/-- A random delay of two to five minutes. -/
def jitteredRetryAt (now : Instant) : Ctl Instant := do
  let delay ← call (.randint 120 300)
  return now + seconds delay

/-- `SHORT_RETRY_SECONDS` from now. -/
def shortRetryAt (now : Instant) : Instant := now + seconds 30

/-- `async with state.reservation_lock`. -/
def withReservationLock {α : Type} (body : Ctl α) : Ctl α := do
  call .acquireReservationLock
  let a ← body
  call .releaseReservationLock
  return a

/-- The next attempt of the entry is put off. -/
def postponeEntry (ref : Ref) : Ctl Unit := do
  let now ← call .now
  let at_ ← jitteredRetryAt now
  Prog.modify fun s => s.modifyEntry ref fun e => { e with nextAttemptAt := at_ }

namespace ControllerState

def nameHolder (s : ControllerState) (uid : Uid) (ns name : String) : ControllerState :=
  { s with holderNames := s.holderNames.set uid (ns, name) }

/-- A pod just admitted is a claim on its class's nodes, unless the watch tracks it already, or it
is bound, or was released meanwhile. -/
def noteAdmitted (s : ControllerState) (uid : Uid) (e : QueueEntry) (pod : Pod) (now : Instant) :
    ControllerState :=
  if ¬ s.recordedOn e.reservation.id uid ∨ uid ∈ s.gpuPods ∨ pod.nodeName.isSome then s
  else s.setGpuPod uid
    (some { ns := e.podNamespace, name := e.podName, gpuClass := e.gpuClassLabel,
            gpuCount := e.gpuRequested, placement := pod.placement,
            reservationId := some e.reservation.id }) now

/-- The record `_try_apply_toleration` makes before its first await. -/
def reserveFor (s : ControllerState) (uid : Uid) (e : QueueEntry) : ControllerState :=
  (s.recordPlacement e.reservation.id uid e.gpuRequested).nameHolder uid e.podNamespace e.podName

/-- What a pod on the reserved queue waits on; `none` where only the queue's cadence holds it. -/
def queuedStatus (s : ControllerState) (e : QueueEntry) (now : Instant) : Option StatusKey :=
  let r := e.reservation
  if r.gpuCount < e.gpuRequested then
    if s.reservationsKnown then
      some (.reservationTooSmall r e.gpuRequested e.ondemandIneligibility)
    else none
  else if now < slotStart r then some (.waitingForReservation r e.ondemandIneligibility)
  else if s.available r (some e.podUid) < e.gpuRequested then
    let holders := s.reservationHolders r.id e.podNamespace (some e.podUid)
    some (.reservationFull r e.gpuRequested (s.available r (some e.podUid)) (holders.1.take 3)
      (holders.1.length - 3 + holders.2) e.ondemandIneligibility)
  else none

end ControllerState

/-- Annotates the pod with its guarantee and tells its owner; a failure stops neither. -/
def recordGuarantee (uid : Uid) (ns name : String) (guaranteedUntil : Instant)
    (reservation : ReservationResponse) (firstAdmission : Bool) : Ctl Unit := do
  let annotated ← call
    (.annotateRuntimeGuarantee ns name guaranteedUntil reservation firstAdmission)
  if annotated then
    let _ ← call
      (.emitPodEvent uid ns name (.runtimeGuaranteed guaranteedUntil reservation.kind))
    return ()
  else return ()

def enforceSchedulingGateRemoval (ns name : String) (pod : Pod) (gateName : Option String) :
    Ctl Unit :=
  match gateName with
  | none => return ()
  | some gate =>
    if gate ∈ pod.schedulingGates then do
      let _ ← call (.removeSchedulingGate ns name gate)
      return ()
    else return ()

/-- The optimistic record is taken back, and the entry retried later. -/
def rollBack (uid : Uid) (ref : Ref) : Ctl Bool := do
  Prog.modify fun s => s.releasePod uid
  postponeEntry ref
  return false

def concludeAdmission (uid : Uid) (ref : Ref) (pod : Pod) : Ctl Bool := do
  let now ← call .now
  Prog.modify fun s => s.noteAdmitted uid (s.entry ref) pod now
  return true

/-- What follows a patch which landed. -/
def stampAdmission (uid : Uid) (ref : Ref) (pod : Pod) (gateName : Option String) : Ctl Bool := do
  let now ← call .now
  let s ← Prog.get
  let e := s.entry ref
  recordGuarantee pod.uid e.podNamespace e.podName (s.computeGuaranteedUntil now e.reservation)
    e.reservation true
  enforceSchedulingGateRemoval e.podNamespace e.podName pod gateName
  concludeAdmission uid ref pod

/-- The pod has been read; it is patched unless it is terminal or carries the toleration.  `e` is the
entry as the attempt found it: only its reservation and its clock ever change. -/
def patchFreshPod (uid : Uid) (ref : Ref) (gateName : Option String) (e : QueueEntry) (pod : Pod) :
    Ctl Bool := do
  if pod.phase.isTerminal then
    Prog.modify fun s => s.releasePod uid
    return true
  else if podHasToleration pod tolerationKey e.gpuClassLabel "NoSchedule" then
    concludeAdmission uid ref pod
  else
    let landed ← call (.applyToleration uid e.podNamespace e.podName pod tolerationKey
      e.gpuClassLabel e.reservation.id)
    if landed then stampAdmission uid ref pod gateName else rollBack uid ref

/-- `true`: the entry is done with; `false`: it stays, its next attempt put off. -/
def tryApplyToleration (uid : Uid) (ref : Ref) (gateName : Option String) : Ctl Bool := do
  let s ← Prog.get
  let e := s.entry ref
  if s.available e.reservation (some uid) < e.gpuRequested then
    postponeEntry ref
    return false
  else
    Prog.modify fun s => s.reserveFor uid e
    let freshPod ← call (.readPod e.podNamespace e.podName)
    match freshPod with
    | none => rollBack uid ref
    | some pod => patchFreshPod uid ref gateName e pod

/-- Puts a status Event on a pending pod, unless it would repeat the last one too soon. -/
def postPendingStatus (config : Config) (uid : Uid) (ns name : String) (topic : PendingTopic)
    (key : StatusKey) (now : Instant) : Ctl Unit := do
  let s ← Prog.get
  if s.pendingStatusDue uid topic key now (minutes config.ondemandDenialEventRepeatMinutes) then
    let emitted ← call (.emitPodEvent uid ns name (.status key))
    if emitted then Prog.modify fun s => s.recordPendingStatus uid topic key now else return ()
  else return ()

def tellQueuedStatus (config : Config) (uid : Uid) (ref : Ref) (now : Instant) : Ctl Unit := do
  let s ← Prog.get
  let e := s.entry ref
  match s.queuedStatus e now with
  | none => return ()
  | some key =>
    if config.reservationWaitEventEnabled then
      postPendingStatus config uid e.podNamespace e.podName .hold key now
    else return ()

/-- A waiter of the reservation just released which may be tried now. -/
def ControllerState.waitsOn (s : ControllerState) (reservationId : Nat) (now : Instant)
    (queued : Uid × Ref) : Bool :=
  let e := s.entry queued.2
  e.reservation.id = reservationId && s.taskQueue.get? queued.1 = some queued.2 &&
    slotOpen e.reservation now && !s.recordedOn reservationId queued.1

/-- One waiter is tried, and leaves the queue when it is done with. -/
def retryWaiter (config : Config) (reservationId : Nat) (now : Instant) (queued : Uid × Ref) :
    Ctl Unit := do
  let s ← Prog.get
  if s.waitsOn reservationId now queued then
    let done ← tryApplyToleration queued.1 queued.2 config.schedulingGateName
    if done then Prog.modify fun s => s.dequeuePod queued.1 else return ()
  else return ()

/-- A pod holding the reservation has just gone: the pods waiting on it are tried. -/
def retryWaiters (config : Config) (reservationId : Option Nat) : Ctl Unit :=
  match reservationId with
  | none => return ()
  | some rid => do
    let now ← call .now
    let s ← Prog.get
    s.taskQueue.entries.forM (retryWaiter config rid now)

end GpuReservation.Model
