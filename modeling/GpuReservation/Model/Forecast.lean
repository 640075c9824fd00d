import GpuReservation.Model.Preemption

/-!
# The forecast of preemption

What a future slot boundary is going to take, as users and the termination warnings are told.
-/

namespace GpuReservation.Model

open GpuReservation.Library

/-- The shortfall of a future boundary, and the pods at risk. -/
structure ForecastBoundaryNeed where
  boundary : Instant
  demandByClass : Dict String Nat
  killsNeededByClass : Dict String Nat
  eligibleByClass : Dict String (List PodRuntimeView)
  poolGpusByClass : Dict String Nat

namespace ControllerState

variable (s : ControllerState)

/-- `guarantee_end_by_uid`: one chain walk for each admitted pod. -/
def guaranteeEndByUid (pods : List PodRuntimeView) (now : Instant) :
    Dict Uid (Option Instant) :=
  Dict.ofList ((pods.filter (·.reservationId.isSome)).map fun p =>
    (p.uid, s.guaranteeEnd p.reservationId now))

/-- A pod whose guarantee is over at the boundary, as far as is known now. -/
def eligibleAt (boundary : Instant) (guaranteeEndByUid : Dict Uid (Option Instant))
    (p : PodRuntimeView) : Bool :=
  p.reservationId.isSome && p.nodeResident && !p.nodeExcluded && !p.terminating &&
    0 < p.gpuCount && match (guaranteeEndByUid.get? p.uid).join with
      | none => true
      | some e => e ≤ boundary

def forecastBoundaryNeed (boundary : Instant) (freeByClass : Dict String Int)
    (pods : List PodRuntimeView) (now : Instant)
    (guaranteeEndByUid : Dict Uid (Option Instant)) : ForecastBoundaryNeed :=
  let demand := s.boundaryDemand boundary pods now
  let eligible := ((pods.filter (eligibleAt boundary guaranteeEndByUid)).map fun p =>
    (p.gpuClass, p)).foldl
      (fun byClass e => byClass.set e.1 ((byClass.get? e.1).getD [] ++ [e.2])) ∅
  { boundary := boundary
    demandByClass := demand
    killsNeededByClass := (demand.mapValues fun gpuClass (need : Nat) =>
      (need - (freeByClass.get? gpuClass).getD 0).toNat).filter fun _ kills => 0 < kills
    eligibleByClass := eligible
    poolGpusByClass := eligible.mapValues fun _ pool => (pool.map (·.gpuCount)).sum }

end ControllerState

end GpuReservation.Model
