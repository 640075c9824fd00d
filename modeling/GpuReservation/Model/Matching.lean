import GpuReservation.Library.BackToBack
import GpuReservation.Model.State
import Mathlib.Data.Prod.Lex

/-!
# Matching pods to reservations, and the runtime guarantee
-/

namespace GpuReservation.Model

open GpuReservation.Library

namespace ControllerState

variable (s : ControllerState)

/-- The bucket of a reservation in the occupancy map; empty when it has none. -/
def bucket (rid : Nat) : Dict Uid Nat := (s.occupancy.get? rid).getD ∅

/-- GPUs recorded on a reservation, leaving one pod out. -/
def usedExcept (rid : Nat) (excludeUid : Option Uid) : Nat :=
  (((s.bucket rid).entries.filter fun e => some e.1 ≠ excludeUid).map Prod.snd).sum

/-- `max(0, gpu_count - used)`, the subtraction of naturals being that already. -/
def available (r : ReservationResponse) (excludeUid : Option Uid) : Nat :=
  r.gpuCount - s.usedExcept r.id excludeUid

def effectiveLabel (r : ReservationResponse) : Option String :=
  match s.gpuClassLabels.get? r.gpuClassId with
  | some cached => some cached
  | none => r.gpuClass.labelValue

def groupOk (r : ReservationResponse) (groupLabel : Option String) : Bool :=
  match s.requiredGroupLabel with
  | none => true
  | some _ => match r.group with
    | none => false
    | some g => some g.name = groupLabel

/-- `r.user is not None and r.user.username == namespace`. -/
def ownedBy (r : ReservationResponse) (ns : String) : Bool := r.user.any (·.username = ns)

/-- What `find_best_reservation` and `find_admittable_reservation` both ask of a booking. -/
def matchesPod (ns gpuClassLabel : String) (groupLabel : Option String) (now : Instant)
    (r : ReservationResponse) : Bool :=
  r.kind = .booking && ownedBy r ns && s.gpuClassLabels.get? r.gpuClassId = some gpuClassLabel &&
    s.groupOk r groupLabel && now < slotEnd r && r.id ∉ s.noshowReservationIds

def findBestReservation (ns gpuClassLabel : String) (groupLabel : Option String)
    (gpuRequested : Option Nat) (now : Instant) : Option ReservationResponse :=
  let candidates := s.reservations.filter (s.matchesPod ns gpuClassLabel groupLabel now)
  let bigEnough := match gpuRequested with
    | none => []
    | some gpus => candidates.filter fun r => gpus ≤ r.gpuCount
  (if bigEnough = [] then candidates else bigEnough).argmin slotStart

def findAdmittableReservation (ns gpuClassLabel : String) (gpuRequested : Nat) (now : Instant)
    (horizon : Int) (groupLabel : Option String) : Option ReservationResponse :=
  (s.reservations.filter fun r =>
    s.matchesPod ns gpuClassLabel groupLabel now r && slotStart r ≤ now + horizon &&
      gpuRequested ≤ s.available r none).argmin slotStart

/-- The spare budget of a booking, net of what the pass has assigned already. -/
def spare (extraUsed : Dict Nat Nat) (r : ReservationResponse) : Int :=
  (s.available r none : Int) - ((extraUsed.get? r.id).getD 0 : Nat)

def openBookingFor (ns gpuClassLabel : String) (now : Instant) (gpuRequested : Nat)
    (extraUsed : Dict Nat Nat) (groupLabel : Option String) (r : ReservationResponse) : Bool :=
  r.kind = .booking && ownedBy r ns && s.effectiveLabel r = some gpuClassLabel &&
    s.groupOk r groupLabel && slotOpen r now && r.id ∉ s.noshowReservationIds &&
    (gpuRequested : Int) ≤ s.spare extraUsed r

def findOpenBookingFor (ns gpuClassLabel : String) (now : Instant) (gpuRequested : Nat)
    (extraUsed : Dict Nat Nat) (groupLabel : Option String) : Option ReservationResponse :=
  (s.reservations.filter
    (s.openBookingFor ns gpuClassLabel now gpuRequested extraUsed groupLabel)).argmax
      fun r => toLex (slotEnd r, toLex (s.spare extraUsed r, r.id))

/-- What `_chain_for` asks of a booking before looking at the clock. -/
def chainable (reservation : ReservationResponse) (ns gpuClassLabel : String)
    (r : ReservationResponse) : Bool :=
  r.id ≠ reservation.id && r.kind = .booking && ownedBy r ns &&
    s.effectiveLabel r = some gpuClassLabel && r.gpuCount = reservation.gpuCount &&
    (s.requiredGroupLabel = none || r.groupId = reservation.groupId)

def chainCandidates (reservation : ReservationResponse) (ns gpuClassLabel : String)
    (now : Instant) : List ReservationResponse :=
  (s.reservations.filter fun r =>
    s.chainable reservation ns gpuClassLabel r && now < slotEnd r &&
      r.id ∉ s.noshowReservationIds).insertionSort fun a b => slotStart a ≤ slotStart b

def chainFor (reservation : ReservationResponse) (now : Instant) : List ReservationResponse :=
  match reservation.user, s.effectiveLabel reservation with
  | some user, some gpuClassLabel =>
    let candidates := s.chainCandidates reservation user.username gpuClassLabel now
    walk (·.id) slotStart slotEnd candidates candidates.length [] (slotEnd reservation)
  | _, _ => []

def computeGuaranteedUntil (now : Instant) (currentReservation : ReservationResponse) : Instant :=
  runEnd slotEnd (slotEnd currentReservation) (s.chainFor currentReservation now)

def guaranteeEnd (reservationId : Option Nat) (now : Instant) : Option Instant :=
  match reservationId with
  | none => none
  | some id => (findReservation s.reservations id).map (s.computeGuaranteedUntil now)

def reservationsClaimedBy (reservationId : Nat) (now : Instant) : Finset Nat :=
  match findReservation s.reservations reservationId with
  | some res =>
    if res.kind = .booking ∧ res.user.isSome then
      {reservationId} ∪ ((s.chainFor res now).map (·.id)).toFinset
    else {reservationId}
  | none => {reservationId}

end ControllerState

end GpuReservation.Model
