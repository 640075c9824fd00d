import GpuReservation.Model.Reconcile

/-!
# The tick of the queue processor

What `_run_queue_tick` does: the bookkeeping is rebuilt from one snapshot of the cluster, running
pods are moved to the bookings of their owners, and the queued pods and the candidates are tried.
-/

namespace GpuReservation.Model

open GpuReservation.Library

/-- `_PENDING_STATUS_RETENTION`. -/
def pendingStatusRetention : Int := minutes 120

/-- The live pods of a snapshot which carry a reference, each with it. -/
def liveHolders (snapshot : List Pod) : List (Nat × Pod) :=
  (snapshot.filter fun p => p.phase = .running || p.phase = .pending).filterMap fun p =>
    p.bookingReference.map fun rid => (rid, p)

namespace ControllerState

variable (s : ControllerState)

/-- Occupancy, the names of the holders and the claimed reservations, rebuilt from a snapshot. -/
def observeHolders (snapshot : List Pod) (now : Instant) : ControllerState :=
  let holders := liveHolders snapshot
  let placed := s.reconcileOccupancy (holders.map fun h => (h.1, h.2.uid, h.2.gpuCount))
  let named := { placed with
    holderNames := Dict.ofList (holders.map fun (h : Nat × Pod) => (h.2.uid, (h.2.ns, h.2.name))) }
  named.refreshClaimedReservations (holders.map Prod.fst) now

/-- A reservation open now with room, where the one the entry waits on is not. -/
def betterReservation (uid : Uid) (e : QueueEntry) (now : Instant) : Option ReservationResponse :=
  if slotOpen e.reservation now ∧ e.gpuRequested ≤ s.available e.reservation (some uid) then none
  else
    (s.findAdmittableReservation e.podNamespace e.gpuClassLabel e.gpuRequested now 0
      e.groupLabel).filter fun better => better.id ≠ e.reservation.id

end ControllerState

section Tick

variable (config : Config) (now : Instant)

/-- The entry to go on with: a new one where a better reservation was found. -/
def requeueForBetter (uid : Uid) (ref : Ref) : Ctl Ref := do
  let s ← Prog.get
  let e := s.entry ref
  match s.betterReservation uid e now with
  | none => return ref
  | some better => do
    let enqueuedAt ← call .now
    Prog.modify fun s =>
      s.enqueuePod uid e.podName e.podNamespace e.gpuClassLabel e.gpuRequested e.groupLabel better
        enqueuedAt
    let s ← Prog.get
    let newRef := (s.taskQueue.get? uid).getD ref
    Prog.modify fun s => s.modifyEntry newRef fun e => { e with nextAttemptAt := now }
    return newRef

/-- The attempt of the tick on an entry; the pods to remove from the queue grow by the pod where
it is done with. -/
def tickAttempt (toRemove : List Uid) (uid : Uid) (ref : Ref) : Ctl (List Uid) := do
  let s ← Prog.get
  let e := s.entry ref
  if slotEnd e.reservation < now then return toRemove ++ [uid]
  else if now < slotStart e.reservation ∨ now < e.nextAttemptAt then
    tellQueuedStatus config uid ref now
    return toRemove
  else
    let done ← tryApplyToleration uid ref config.schedulingGateName
    if done then return toRemove ++ [uid]
    else
      let s ← Prog.get
      if s.taskQueue.get? uid = some ref then
        tellQueuedStatus config uid ref now
        return toRemove
      else return toRemove

/-- An entry the watch has taken away or replaced meanwhile is skipped. -/
def tickEntry (toRemove : List Uid) (queued : Uid × Ref) : Ctl (List Uid) := do
  let s ← Prog.get
  if s.taskQueue.get? queued.1 = some queued.2 then
    let ref ← requeueForBetter now queued.1 queued.2
    tickAttempt config now toRemove queued.1 ref
  else return toRemove

/-- The reserved path. -/
def tickQueue : Ctl Unit := do
  let s ← Prog.get
  let toRemove ← s.taskQueue.entries.foldlM (tickEntry config now) []
  Prog.modify fun s => toRemove.foldl ControllerState.dequeuePod s

/-- Merges, then adoptions, from one list of views. -/
def relinkSnapshot (snapshot : List Pod) : Ctl Unit := do
  let views ← mergeOndemandIntoBookings config (snapshot.map (podView none)) now
  let _ ← adoptPods config views now .overstay
  return ()

/-- What the tick does with its snapshot before the queue is tried: the standing annotations, then
the pods to move.  The plan of the annotations is made under the lock. -/
def tickSnapshot (snapshot : List Pod) : Ctl Unit := do
  cancelPendingNoshows snapshot
  withReservationLock (return ())
  call (.annotateStanding (snapshot.map (·.uid)))
  if config.ondemandMergeEnabled ∨ config.podAdoptionEnabled then
    withReservationLock (relinkSnapshot config now snapshot)
  else return ()

/-- The node inventory; `none` where it is not wanted, or cannot be had. -/
def tickInventory : Ctl (Option NodeSnapshot) :=
  if config.ondemandLeaseEnabled then call .snapshotNodes else return none

/-- The guards of on-demand admission, from the snapshot and one node inventory. -/
def tickNodes (snapshot : List Pod) : Ctl Unit := do
  let nodes ← tickInventory config
  Prog.modify fun s => s.refreshNodeFeasibility config snapshot now nodes

/-- What is done only where the snapshot was had. -/
def withSnapshot (snapshot : Option (List Pod)) (body : List Pod → Ctl Unit) : Ctl Unit :=
  match snapshot with
  | none => return ()
  | some pods => body pods

end Tick

/-- `_run_queue_tick`; without a snapshot the previous bookkeeping stands. -/
def runQueueTick (config : Config) (passes : Nat) : Ctl Unit := do
  let now ← call .now
  let snapshot ← snapshotToleratedPods
  withSnapshot snapshot fun pods => Prog.modify fun s => s.observeHolders pods now
  Prog.modify fun s => s.checkNoshowDeadlines now
  withSnapshot snapshot (tickSnapshot config now)
  drainPendingMergeCancels
  withSnapshot snapshot (tickNodes config now)
  tickQueue config now
  runOndemandAdmission config passes
  Prog.modify fun s => s.prunePendingStatus
    (now - max pendingStatusRetention (3 * minutes config.ondemandDenialEventRepeatMinutes))

end GpuReservation.Model
