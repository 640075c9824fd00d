import GpuReservation.Library.Dict
import Mathlib.Data.List.MinMax

/-!
# Reservations, as the reservation app returns them

`schemas.py` and the window helpers at the top of `controller.py`.  Instants are counted in
microseconds.
-/

namespace GpuReservation.Model

open GpuReservation.Library

abbrev Instant := Int

/-- The computable order, whatever else of Mathlib is imported. -/
instance : LinearOrder Instant := Int.instLinearOrder

instance : Preorder Instant := Int.instLinearOrder.toPreorder

def seconds (n : Int) : Int := n * 1000000

def minutes (n : Int) : Int := seconds (n * 60)

structure UserBrief where
  id : Nat
  username : String
  deriving DecidableEq, Repr, Inhabited

structure GroupBrief where
  id : Nat
  name : String
  deriving DecidableEq, Repr, Inhabited

structure GpuClassBrief where
  id : Nat
  name : String
  labelValue : Option String := none
  deriving DecidableEq, Repr, Inhabited

/-- A status the controller does not compare with is kept as the text it is. -/
inductive Status
  | active
  | cancelled
  | other (text : String)
  deriving DecidableEq, Repr, Inhabited

inductive Kind
  | booking
  | onDemand
  | bestEffort
  | other (text : String)
  deriving DecidableEq, Repr, Inhabited

/-- The fields of `ReservationResponse` which the controller's decisions read. -/
structure ReservationResponse where
  id : Nat
  userId : Option Nat := none
  user : Option UserBrief := none
  groupId : Option Nat := none
  group : Option GroupBrief := none
  gpuClassId : Nat
  gpuClass : GpuClassBrief
  startUtc : Instant
  endUtc : Instant
  gpuCount : Nat
  status : Status := .active
  kind : Kind := .booking
  deriving DecidableEq, Repr, Inhabited

def slotStart (r : ReservationResponse) : Instant := r.startUtc

def slotEnd (r : ReservationResponse) : Instant := r.endUtc

/-- The window of `r` is open at `now`: half-open, as on every admission path. -/
def slotOpen (r : ReservationResponse) (now : Instant) : Prop := slotStart r ≤ now ∧ now < slotEnd r

instance (r : ReservationResponse) (now : Instant) : Decidable (slotOpen r now) :=
  inferInstanceAs (Decidable (_ ∧ _))

/-- `next((r for r in reservations if r.id == id), None)`. -/
def findReservation (reservations : List ReservationResponse) (id : Nat) :
    Option ReservationResponse :=
  reservations.find? fun r => r.id = id

def pushStep (byId : Dict Nat ReservationResponse) (r : ReservationResponse) :
    Dict Nat ReservationResponse :=
  if r.status = .active then byId.set r.id r else byId.erase r.id

def applyPushToActive (current pushed : List ReservationResponse) : List ReservationResponse :=
  (pushed.foldl pushStep (Dict.ofList (current.map fun r => (r.id, r)))).values

lemma findReservation_mem {reservations : List ReservationResponse} {id : Nat}
    {r : ReservationResponse} (h : findReservation reservations id = some r) :
    r ∈ reservations ∧ r.id = id :=
  ⟨List.mem_of_find?_eq_some h, by simpa using List.find?_some h⟩

lemma mem_applyPushToActive_of_active (current : List ReservationResponse)
    {lease : ReservationResponse} (h : lease.status = .active) :
    lease ∈ applyPushToActive current [lease] := by
  rw [applyPushToActive, Dict.mem_values_iff]
  exact ⟨lease.id, by simp [pushStep, h]⟩

end GpuReservation.Model
