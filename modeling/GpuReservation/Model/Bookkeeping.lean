import GpuReservation.Model.Matching

/-!
# The bookkeeping of the controller

Occupancy, the reserved queue, the on-demand candidates, no-show tracking, and what the owners of
pending pods were told: the methods of `ControllerState` which change it.
-/

namespace GpuReservation.Model

open GpuReservation.Library

namespace ControllerState

variable (s : ControllerState)

section Occupancy

def recordPlacement (reservationId : Nat) (podUid : Uid) (gpuCount : Nat) : ControllerState :=
  { s with
    occupancy := s.occupancy.set reservationId ((s.bucket reservationId).set podUid gpuCount) }

/-- The first reservation, in the order of the map, on which the pod is recorded. -/
def placeOf (podUid : Uid) : Option Nat :=
  (s.occupancy.entries.find? fun e => podUid ∈ e.2).map Prod.fst

/-- `podUid not in self.occupancy.get(reservation_id, {})`, negated. -/
def recordedOn (reservationId : Nat) (podUid : Uid) : Bool := podUid ∈ s.bucket reservationId

/-- The pod leaves the first bucket it is found in; a bucket left empty goes with it. -/
def releasePod (podUid : Uid) : ControllerState :=
  match s.placeOf podUid with
  | none => s
  | some rid =>
    { s with
      occupancy :=
        if ((s.bucket rid).erase podUid).entries = [] then s.occupancy.erase rid
        else s.occupancy.set rid ((s.bucket rid).erase podUid) }

def relinkOccupancy (podUid : Uid) (newReservationId gpuCount : Nat) : ControllerState :=
  (s.releasePod podUid).recordPlacement newReservationId podUid gpuCount

def addPlacement (occupancy : Dict Nat (Dict Uid Nat)) (placement : Nat × Uid × Nat) :
    Dict Nat (Dict Uid Nat) :=
  occupancy.set placement.1
    (((occupancy.get? placement.1).getD ∅).set placement.2.1 placement.2.2)

def reconcileOccupancy (placements : List (Nat × Uid × Nat)) : ControllerState :=
  { s with occupancy := placements.foldl addPlacement ∅ }

/-- The names of the pods of `ns` on a reservation, sorted, and how many others there are. -/
def reservationHolders (reservationId : Nat) (ns : String) (excludeUid : Option Uid) :
    List String × Nat :=
  let others := (s.bucket reservationId).keys.filter fun uid => some uid ≠ excludeUid
  let named := others.filterMap fun uid => (s.holderNames.get? uid).bind fun holder =>
    if holder.1 = ns then some holder.2 else none
  (named.mergeSort, others.length - named.length)

end Occupancy

section Queue

def entry (ref : Ref) : QueueEntry := s.entries.read ref

def modifyEntry (ref : Ref) (f : QueueEntry → QueueEntry) : ControllerState :=
  { s with entries := s.entries.modify ref f }

/-- A new entry, not yet on the queue. -/
def allocEntry (e : QueueEntry) : ControllerState := { s with entries := s.entries.alloc e }

/-- A new entry, on the queue in place of the one the pod had. -/
def queueEntry (podUid : Uid) (e : QueueEntry) : ControllerState :=
  { s with
    entries := s.entries.alloc e
    taskQueue := s.taskQueue.set podUid s.entries.next }

def queuedFor (podUid : Uid) (reservationId : Nat) : Bool :=
  (s.taskQueue.get? podUid).any fun ref => (s.entry ref).reservation.id = reservationId

def enqueuePod (podUid : Uid) (podName podNamespace gpuClassLabel : String) (gpuRequested : Nat)
    (groupLabel : Option String) (reservation : ReservationResponse) (now : Instant) :
    ControllerState :=
  let cleared := { s with noshowDeadlines := s.noshowDeadlines.erase reservation.id }
  if s.queuedFor podUid reservation.id then cleared
  else cleared.queueEntry podUid
    { podUid, podName, podNamespace, gpuClassLabel, gpuRequested, reservation,
      nextAttemptAt := now, groupLabel,
      ondemandIneligibility :=
        ((s.taskQueue.get? podUid).map fun ref => (s.entry ref).ondemandIneligibility).getD [] }

def dequeuePod (podUid : Uid) : ControllerState :=
  { s with taskQueue := s.taskQueue.erase podUid }

/-- The entry, with the freshly loaded reservation of its id. -/
def repoint (byId : Dict Nat ReservationResponse) (e : QueueEntry) : QueueEntry :=
  { e with reservation := (byId.get? e.reservation.id).getD e.reservation }

/-- A pod whose reservation left the list is queued for another one that matches, if any. -/
def requeueStale (now : Instant) (queued : Uid × Ref) : ControllerState :=
  let e := s.entry queued.2
  match s.findBestReservation e.podNamespace e.gpuClassLabel e.groupLabel (some e.gpuRequested)
      now with
  | none => s.dequeuePod queued.1
  | some fresh =>
    (s.dequeuePod queued.1).queueEntry queued.1
      { e with reservation := fresh, nextAttemptAt := now }

def reconcileQueue (now : Instant) : ControllerState :=
  let byId := Dict.ofList (s.reservations.map fun r => (r.id, r))
  let stale := s.taskQueue.entries.filter fun queued =>
    (s.entry queued.2).reservation.id ∉ byId
  let repointed := { s with
    entries := s.taskQueue.values.foldl (fun h ref => h.modify ref (repoint byId)) s.entries }
  stale.foldl (fun s queued => s.requeueStale now queued) repointed

end Queue

section Candidates

def candidate (ref : Ref) : OnDemandCandidate := s.candidates.read ref

def modifyCandidate (ref : Ref) (f : OnDemandCandidate → OnDemandCandidate) : ControllerState :=
  { s with candidates := s.candidates.modify ref f }

/-- A pod already placed, or already registered, is left as it is. -/
def addOndemandCandidate (c : OnDemandCandidate) : ControllerState :=
  if (s.placeOf c.podUid).isSome ∨ c.podUid ∈ s.ondemandCandidates then s
  else { s with
    candidates := s.candidates.alloc c
    ondemandCandidates := s.ondemandCandidates.set c.podUid s.candidates.next }

def removeOndemandCandidate (podUid : Uid) : ControllerState :=
  { s with ondemandCandidates := s.ondemandCandidates.erase podUid }

end Candidates

section PendingStatus

def pendingStatusDue (podUid : Uid) (topic : PendingTopic) (key : StatusKey) (now : Instant)
    (repeatAfter : Int) : Bool :=
  match ((s.pendingStatus.get? podUid).getD ∅).get? topic with
  | none => true
  | some told => told.key ≠ key || repeatAfter ≤ now - told.at_

def recordPendingStatus (podUid : Uid) (topic : PendingTopic) (key : StatusKey) (now : Instant) :
    ControllerState :=
  { s with
    pendingStatus := s.pendingStatus.set podUid
      (((s.pendingStatus.get? podUid).getD ∅).set topic ⟨key, now⟩) }

def forgetPendingStatus (podUid : Uid) : ControllerState :=
  { s with pendingStatus := s.pendingStatus.erase podUid }

def prunePendingStatus (cutoff : Instant) : ControllerState :=
  { s with
    pendingStatus := s.pendingStatus.keys.foldl
      (fun d uid =>
        if uid ∈ s.ondemandCandidates ∨ uid ∈ s.taskQueue then d
        else if ((s.pendingStatus.get? uid).getD ∅).values.all (·.at_ < cutoff) then d.erase uid
        else d)
      s.pendingStatus }

end PendingStatus

section NoShow

def clearDeadlines (ids : Finset Nat) : Dict Nat Instant :=
  s.noshowDeadlines.filter fun rid _ => rid ∉ ids

def armNoshow (now : Instant) (timeoutMinutes graceMinutes : Nat)
    (deadlines : Dict Nat Instant) (r : ReservationResponse) : Dict Nat Instant :=
  if r.kind ≠ .booking ∨ r.user = none ∨ r.id ∈ deadlines ∨ r.id ∈ s.noshowReservationIds ∨
      r.id ∈ s.claimedReservationIds ∨ slotEnd r ≤ now then deadlines
  else deadlines.set r.id
    (if now < slotStart r then slotStart r + minutes timeoutMinutes else now + minutes graceMinutes)

def updateNoshowTracking (now : Instant) (timeoutMinutes graceMinutes : Nat) : ControllerState :=
  { s with
    noshowDeadlines :=
      s.reservations.foldl (s.armNoshow now timeoutMinutes graceMinutes) s.noshowDeadlines }

def activeIds : Finset Nat := (s.reservations.map (·.id)).toFinset

def reconcileNoshow : ControllerState :=
  { s with
    noshowDeadlines := s.noshowDeadlines.filter fun rid _ => rid ∈ s.activeIds
    noshowReservationIds := s.noshowReservationIds.filter (· ∈ s.activeIds)
    pendingNoshowCancels := s.pendingNoshowCancels.filter (· ∈ s.activeIds) }

/-- One expired deadline: it goes, and declares a no-show unless the window is over. -/
def expireDeadline (now : Instant) (rid : Nat) : ControllerState :=
  let dropped := { s with noshowDeadlines := s.noshowDeadlines.erase rid }
  if (findReservation s.reservations rid).any fun r => slotEnd r ≤ now then dropped
  else { dropped with
    noshowReservationIds := insert rid s.noshowReservationIds
    pendingNoshowCancels := insert rid s.pendingNoshowCancels }

def checkNoshowDeadlines (now : Instant) : ControllerState :=
  ((s.noshowDeadlines.entries.filter fun e =>
      e.2 ≤ now && e.1 ∉ s.claimedReservationIds).map Prod.fst).foldl
    (fun s rid => s.expireDeadline now rid) s

def markPodSeenForNoshow (ns gpuClassLabel : String) (bookingReservationId : Option Nat)
    (groupLabel : Option String) (now : Instant) : ControllerState :=
  match bookingReservationId with
  | some rid =>
    match findReservation s.reservations rid with
    | none => s
    | some r =>
      if r.kind ≠ .booking ∨ r.user = none then s
      else { s with noshowDeadlines := s.clearDeadlines (s.reservationsClaimedBy rid now) }
  | none =>
    match (s.reservations.filter fun r =>
        r.kind = .booking && ownedBy r ns && s.gpuClassLabels.get? r.gpuClassId = some gpuClassLabel
          && s.groupOk r groupLabel && r.id ∈ s.noshowDeadlines).argmin slotStart with
    | none => s
    | some best => { s with noshowDeadlines := s.noshowDeadlines.erase best.id }

def claimedBy (holderReservationIds : List Nat) (now : Instant) : Finset Nat :=
  holderReservationIds.foldl (fun claimed rid => claimed ∪ s.reservationsClaimedBy rid now) ∅

def refreshClaimedReservations (holderReservationIds : List Nat) (now : Instant) :
    ControllerState :=
  { s with
    claimedReservationIds := s.claimedBy holderReservationIds now
    noshowDeadlines := s.clearDeadlines (s.claimedBy holderReservationIds now) }

end NoShow

section Changes

/-- The reservations with one id taken out. -/
def dropReservation (id : Nat) : ControllerState :=
  { s with reservations := s.reservations.filter fun r => r.id ≠ id }

def detectCancelledInWindow (allReservations : List ReservationResponse) (now : Instant) :
    List ReservationResponse :=
  allReservations.filter fun r =>
    r.status = .cancelled && now < slotEnd r && r.id ∉ s.noshowReservationIds && r.id ∈ s.activeIds

/-- The reservation stored last under an id, as a dictionary of them by id keeps it. -/
def storedReservation (id : Nat) : Option ReservationResponse :=
  (Dict.ofList (s.reservations.map fun r => (r.id, r))).get? id

/-- An in-progress booking whose owner changed, with the name of the owner it had. -/
def ownerChange (now : Instant) (r : ReservationResponse) : Option (ReservationResponse × String) :=
  if r.status = .active ∧ r.kind = .booking ∧ r.user.isSome ∧ slotOpen r now then
    (s.storedReservation r.id).bind fun prior =>
      prior.user.bind fun user =>
        prior.userId.bind fun userId => if some userId = r.userId then none else some (r, user.username)
  else none

def detectOwnerChangedInWindow (incoming : List ReservationResponse) (now : Instant) :
    List (ReservationResponse × String) :=
  incoming.filterMap (s.ownerChange now)

def preserveLocalOndemandLeases (fetched : List ReservationResponse) (now : Instant) :
    List ReservationResponse :=
  s.reservations.filter fun r =>
    r.kind = .onDemand && r.status = .active && r.id ∉ (fetched.map (·.id)).toFinset &&
      now < slotEnd r

/-- The owner's live bookings, with the label of their class. -/
def liveBookings (ns : String) (now : Instant) : List (ReservationResponse × String) :=
  (s.reservations.filter fun r =>
    r.kind = .booking && ownedBy r ns && now < slotEnd r && r.id ∉ s.noshowReservationIds).filterMap
      fun r => (s.effectiveLabel r).map fun label => (r, label)

/-- The usage groups of the owner's live bookings of the class which the pod's group misses. -/
def nearMissGroups (ns gpuClassLabel : String) (groupLabel : Option String) (now : Instant) :
    List String :=
  (((s.liveBookings ns now).filter fun e =>
    e.2 = gpuClassLabel && !s.groupOk e.1 groupLabel).filterMap
      fun e => e.1.group.map (·.name)).dedup.mergeSort

/-- The other classes the owner has live bookings of. -/
def nearMissClasses (ns gpuClassLabel : String) (now : Instant) : List String :=
  (((s.liveBookings ns now).filter fun e => e.2 ≠ gpuClassLabel).map Prod.snd).dedup.mergeSort

end Changes

end ControllerState

end GpuReservation.Model
