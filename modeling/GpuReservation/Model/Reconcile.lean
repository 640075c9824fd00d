import GpuReservation.Model.Preemption

/-!
# Applying the reservations of the app

The periodic fetch, the inbound push, and the evictions that follow a cancellation or a change of
owner.
-/

namespace GpuReservation.Model

open GpuReservation.Library

structure GpuClassMaps where
  labels : Dict Nat String
  ids : Dict String Nat
  capacity : Dict String Nat
  complete : Bool := false

namespace GpuClassMaps

def empty : GpuClassMaps := ⟨∅, ∅, ∅, false⟩

/-- A class the app knows, with its label. -/
def add (maps : GpuClassMaps) (gpuClass : GpuClassDetail) (label : String) : GpuClassMaps :=
  { maps with
    labels := maps.labels.set gpuClass.id label
    ids := maps.ids.set label gpuClass.id
    capacity := match gpuClass.auditGpus with
      | none => maps.capacity
      | some n => maps.capacity.set label n }

def addLabelled (maps : GpuClassMaps) (gpuClass : GpuClassDetail) : GpuClassMaps :=
  match gpuClass.labelValue.filter (· ≠ "") with
  | none => maps
  | some label => maps.add gpuClass label

end GpuClassMaps

def ControllerState.classMaps (s : ControllerState) : GpuClassMaps :=
  ⟨s.gpuClassLabels, s.gpuClassIds, s.gpuClassCapacity, s.gpuClassesKnown⟩

/-- A class the bulk list did not cover. -/
def resolveGpuClass (maps : GpuClassMaps) (classId : Nat) : Ctl GpuClassMaps :=
  if classId ∈ maps.labels then return maps
  else do
    let gpuClass ← call (.fetchGpuClass classId)
    return match gpuClass with
      | none => maps
      | some c => maps.addLabelled { c with id := classId }

def resolveGpuClassMaps (classIds : List Nat) (prior : GpuClassMaps) : Ctl GpuClassMaps := do
  let gpuClasses ← call .fetchGpuClasses
  let maps := match gpuClasses with
    | none => prior
    | some classes => classes.foldl GpuClassMaps.addLabelled { GpuClassMaps.empty with complete := true }
  classIds.dedup.foldlM resolveGpuClass maps

/-- A pod to evict, with the Event its owner is sent. -/
structure PodEviction where
  pod : Pod
  event : PodEvent
  deriving DecidableEq

/-- The pods of one cancelled reservation: those which cannot be moved are to be evicted. -/
def planCancelledReservation (config : Config) (now : Instant) (podSnapshot : List Pod)
    (evictions : List PodEviction) (cancelled : ReservationResponse) : Ctl (List PodEviction) := do
  let podsForRes := podSnapshot.filter fun p => p.bookingReference = some cancelled.id
  if podsForRes ≠ [] ∧ config.podAdoptionEnabled then
    let views ← adoptPods config (podsForRes.map (podView none)) now .replaced
    let adopted := (views.filter fun v => v.reservationId ≠ some cancelled.id).map (·.uid)
    return evictions ++ (podsForRes.filter fun p => p.uid ∉ adopted).map fun p =>
      ⟨p, .reservationCancelled cancelled.id⟩
  else return evictions ++ podsForRes.map fun p => ⟨p, .reservationCancelled cancelled.id⟩

def planOwnerChanges (ownerChanges : List (ReservationResponse × String)) (podSnapshot : List Pod) :
    List PodEviction :=
  ownerChanges.flatMap fun change =>
    (podSnapshot.filter fun p => p.bookingReference = some change.1.id && p.ns = change.2).map
      fun p => ⟨p, .reservationReassigned (change.1.user.map (·.username))⟩

namespace ControllerState

/-- The reservations and the class maps are replaced, and the queue follows. -/
def installReservations (s : ControllerState) (active : List ReservationResponse)
    (maps : GpuClassMaps) (now : Instant) : ControllerState :=
  { s with
    reservations := active
    gpuClassLabels := maps.labels
    gpuClassIds := maps.ids
    gpuClassCapacity := maps.capacity
    gpuClassesKnown := maps.complete }.reconcileQueue now

end ControllerState

/-- The `limit` of `fetch_reservations`. -/
def pageLimit : Nat := 200

/-- The rows of `fetch_reservations`, from what its requests are answered in turn: a page which is
not full is the last.  `none` where a request fails. -/
def fetchPages : List (Option (List ReservationResponse)) → Option (List ReservationResponse)
  | [] => none
  | none :: _ => none
  | some page :: pages =>
    if page.length < pageLimit then some page else (fetchPages pages).map fun rows => page ++ rows

/-- The pods to evict, once the reservations have been replaced. -/
def reconcileAfterReservationChange (config : Config) (active cancelled : List ReservationResponse)
    (ownerChanges : List (ReservationResponse × String)) (now : Instant) (maps : GpuClassMaps) :
    Ctl (List PodEviction) := do
  let reconciledAt ← call .now
  Prog.modify fun s => s.installReservations active maps reconciledAt
  if cancelled = [] ∧ ownerChanges = [] then return []
  else
    let snapshot ← snapshotToleratedPods
    let podSnapshot := snapshot.getD []
    let evictions ← cancelled.foldlM (planCancelledReservation config now podSnapshot) []
    return evictions ++ planOwnerChanges ownerChanges podSnapshot

/-- The owner is told, and the pod deleted, with the lock released. -/
def executeEviction (eviction : PodEviction) : Ctl Unit := do
  let pod ← call (.readPod eviction.pod.ns eviction.pod.name)
  announce pod
  deleteJudgedPod eviction.pod.uid eviction.pod.ns eviction.pod.name
where
  announce : Option Pod → Ctl Unit
    | none => return ()
    | some p => do
      let _ ← call (.emitPodEvent p.uid eviction.pod.ns eviction.pod.name eviction.event)
      return ()

/-- What a fetch does under the reservation lock. -/
def applyFetched (config : Config) (fetched : List ReservationResponse) (now : Instant)
    (maps : GpuClassMaps) : Ctl (List PodEviction) := do
  let s ← Prog.get
  let evictions ← reconcileAfterReservationChange config
    (fetched.filter (·.status = .active) ++ s.preserveLocalOndemandLeases fetched now)
    (s.detectCancelledInWindow fetched now) (s.detectOwnerChangedInWindow fetched now) now maps
  Prog.modify fun s => { s with reservationsKnown := true }
  return evictions

def trackNoshows (config : Config) (now : Instant) : Ctl Unit :=
  Prog.modify fun s =>
    s.reconcileNoshow.updateNoshowTracking now config.noshowTimeoutMinutes config.noshowGraceMinutes

/-- One cycle of the fetch loop. -/
def refreshReservations (config : Config) : Ctl Unit := do
  let fetched ← call .fetchReservations
  match fetched with
  | none => return ()
  | some rows => do
    let s ← Prog.get
    let maps ← resolveGpuClassMaps ((rows.filter (·.status = .active)).map (·.gpuClassId)) s.classMaps
    let now ← call .now
    let evictions ← withReservationLock (applyFetched config rows now maps)
    evictions.forM executeEviction
    let trackedAt ← call .now
    trackNoshows config trackedAt

/-- What a push does under the reservation lock. -/
def applyPushed (config : Config) (pushed : List ReservationResponse) (now : Instant)
    (maps : GpuClassMaps) : Ctl (List PodEviction) := do
  let s ← Prog.get
  let evictions ← reconcileAfterReservationChange config (applyPushToActive s.reservations pushed)
    (s.detectCancelledInWindow pushed now) (s.detectOwnerChangedInWindow pushed now) now maps
  trackNoshows config now
  return evictions

def pushReservations (config : Config) (pushed : List ReservationResponse) : Ctl Unit := do
  let now ← call .now
  let s ← Prog.get
  let maps ← resolveGpuClassMaps (pushed.map (·.gpuClassId)) s.classMaps
  let evictions ← withReservationLock (applyPushed config pushed now maps)
  evictions.forM executeEviction

/-- What changes the list of reservations. -/
inductive ReservationUpdate
  | fetched (pages : List (Option (List ReservationResponse))) (now : Instant) (maps : GpuClassMaps)
  | pushed (records : List ReservationResponse) (now : Instant) (maps : GpuClassMaps)
  | granted (lease : ReservationResponse) (entry : QueueEntry)
  | cancelled (id : Nat)

/-- A fetch of which a request fails changes nothing. -/
def ControllerState.updateReservations (s : ControllerState) : ReservationUpdate → ControllerState
  | .fetched pages now maps =>
    match fetchPages pages with
    | none => s
    | some rows =>
      s.installReservations
        (rows.filter (·.status = .active) ++ s.preserveLocalOndemandLeases rows now) maps now
  | .pushed records now maps => s.installReservations (applyPushToActive s.reservations records) maps now
  | .granted lease entry => s.upsertLease lease entry
  | .cancelled id => s.dropReservation id

/-- One declared no-show is cancelled in the app, unless a pod holds it after all. -/
def cancelNoshow (occupied : List Nat) (rid : Nat) : Ctl Unit :=
  if rid ∈ occupied then return ()
  else do
    let cancelled ← call (.cancelReservation rid .noShow)
    if cancelled then
      Prog.modify fun s =>
        { s.dropReservation rid with pendingNoshowCancels := s.pendingNoshowCancels.erase rid }
    else return ()

/-- The reservations live pods of the snapshot hold, in the order of the snapshot. -/
def heldReservations (snapshot : List Pod) : List Nat :=
  (snapshot.filter fun p => p.phase = .running || p.phase = .pending).filterMap (·.bookingReference)

def cancelPendingNoshows (snapshot : List Pod) : Ctl Unit := do
  let s ← Prog.get
  if s.pendingNoshowCancels = ∅ then return ()
  else withReservationLock (do
    let s ← Prog.get
    s.pendingNoshowCancels.sort.forM (cancelNoshow (heldReservations snapshot)))

end GpuReservation.Model
