import GpuReservation.Model.Matching

/-!
# Planning re-links and preemption

The pure planners of `controller.py`: adoptions, merges, and the demand of a slot boundary.
-/

namespace GpuReservation.Model

open GpuReservation.Library

namespace ControllerState

variable (s : ControllerState)

def pastGuarantee (view : PodRuntimeView) (now : Instant) : Bool :=
  match s.guaranteeEnd view.reservationId now with
  | none => true
  | some e => e ≤ now

/-- The pods a re-link may move: admitted by the controller, and holding GPUs on a node. -/
def relinkable (p : PodRuntimeView) : Bool :=
  p.reservationId.isSome && p.nodeResident && !p.terminating && 0 < p.gpuCount

/-- One turn of a planning pass: the tally of what it has assigned is charged to the booking the
pod is given. -/
def planRelink (eligible : PodRuntimeView → Bool) (now : Instant)
    (acc : List (PodRuntimeView × ReservationResponse) × Dict Nat Nat) (p : PodRuntimeView) :
    List (PodRuntimeView × ReservationResponse) × Dict Nat Nat :=
  if relinkable p && eligible p then
    match s.findOpenBookingFor p.ns p.gpuClass now p.gpuCount acc.2 p.groupLabel with
    | none => acc
    | some res =>
      if some res.id = p.reservationId then acc
      else (acc.1 ++ [(p, res)], acc.2.set res.id ((acc.2.get? res.id).getD 0 + p.gpuCount))
  else acc

def planRelinks (eligible : PodRuntimeView → Bool) (pods : List PodRuntimeView) (now : Instant) :
    List (PodRuntimeView × ReservationResponse) :=
  (pods.foldl (s.planRelink eligible now) ([], ∅)).1

def planPodAdoptions (pods : List PodRuntimeView) (now : Instant) :
    List (PodRuntimeView × ReservationResponse) :=
  s.planRelinks (fun p => s.pastGuarantee p now) pods now

/-- The reservation `p` runs under is an on-demand lease. -/
def onLease (p : PodRuntimeView) : Bool :=
  (p.reservationId.bind (findReservation s.reservations)).any (·.kind = .onDemand)

def planOndemandMerges (pods : List PodRuntimeView) (now : Instant) :
    List (PodRuntimeView × ReservationResponse) :=
  s.planRelinks s.onLease pods now

/-- The pods whose GPUs `boundary_demand` credits to the reservations they are claimed by. -/
def holdsReservation (p : PodRuntimeView) : Bool :=
  p.nodeResident && !p.terminating && p.reservationId.isSome

/-- `chained_gpus.get(rid, 0)`. -/
def chainedGpus (pods : List PodRuntimeView) (now : Instant) (rid : Nat) : Nat :=
  ((pods.filter fun p => holdsReservation p && p.reservationId.any fun id =>
    rid ∈ s.reservationsClaimedBy id now).map (·.gpuCount)).sum

/-- The bookings that ask for GPUs at `boundary`. -/
def startsAt (boundary : Instant) (r : ReservationResponse) : Bool :=
  r.kind = .booking && r.user.isSome && slotStart r = boundary && r.id ∉ s.noshowReservationIds

def need (pods : List PodRuntimeView) (now : Instant) (r : ReservationResponse) : Nat :=
  s.available r none - s.chainedGpus pods now r.id

def addDemand (pods : List PodRuntimeView) (now : Instant) (demand : Dict String Nat)
    (r : ReservationResponse) : Dict String Nat :=
  match s.effectiveLabel r with
  | none => demand
  | some label =>
    if s.need pods now r = 0 then demand
    else demand.set label ((demand.get? label).getD 0 + s.need pods now r)

def boundaryDemand (boundary : Instant) (pods : List PodRuntimeView) (now : Instant) :
    Dict String Nat :=
  (s.reservations.filter (s.startsAt boundary)).foldl (s.addDemand pods now) ∅

end ControllerState

end GpuReservation.Model
