import GpuReservation.Proofs.RelinkBudget

/-!
# What a re-link pass plans
-/

namespace GpuReservation.Proofs

open GpuReservation.Library GpuReservation.Model

/-- Each pod is planned once at most, and only onto a booking it may be moved to; and no booking is
planned more GPUs than it had available. -/
structure PlansWithinBudget (s : ControllerState) (pods : List PodRuntimeView) (now : Instant)
    (planned : List (PodRuntimeView × ReservationResponse)) : Prop where
  given : ∀ q ∈ planned, q.1 ∈ pods
  once : (planned.map (·.1.uid)).Nodup
  target : ∀ q ∈ planned, RelinkTarget s now q.1 q.2
  budget : ∀ r ∈ s.reservations, plannedGpus r.id planned ≤ s.available r none

variable {s : ControllerState} {pods : List PodRuntimeView}

lemma onlyOfItsId (hids : (s.reservations.map (·.id)).Nodup) {r : ReservationResponse}
    (hr : r ∈ s.reservations) : OnlyOfItsId s r :=
  fun _ hres hid => List.inj_on_of_nodup_map hids hres hr hid

lemma planRelinks_withinBudget (hids : (s.reservations.map (·.id)).Nodup)
    (hpods : (pods.map (·.uid)).Nodup) (eligible : PodRuntimeView → Bool) (now : Instant) :
    PlansWithinBudget s pods now (s.planRelinks eligible pods now) := by
  have hsub := planRelinks_sublist (s := s) eligible pods now
  refine ⟨fun q hq => hsub.subset (List.mem_map_of_mem hq), ?_, fun q hq => ?_, fun r hr => ?_⟩
  · have hnodup := hpods.sublist (hsub.map (·.uid))
    rwa [List.map_map] at hnodup
  · exact (mem_planRelinks s hq).2.2.2
  · exact plannedGpus_le (onlyOfItsId hids hr) eligible pods now

theorem relinkPlans_withinBudget (s : ControllerState) (pods : List PodRuntimeView) (now : Instant)
    (hids : (s.reservations.map (·.id)).Nodup) (hpods : (pods.map (·.uid)).Nodup) :
    PlansWithinBudget s pods now (s.planPodAdoptions pods now) ∧
      PlansWithinBudget s pods now (s.planOndemandMerges pods now) :=
  ⟨planRelinks_withinBudget hids hpods _ now, planRelinks_withinBudget hids hpods _ now⟩

/-- A pod of the owner whose reservation is gone. -/
def strayPod (uid : Uid) (reservationId : Nat) : PodRuntimeView where
  uid := uid
  ns := "alice"
  name := uid
  gpuClass := "h100"
  gpuCount := 1
  reservationId := some reservationId
  nodeResident := true
  terminating := false

/-- Two pods past their guarantee, and two open bookings of one GPU each: each is given one. -/
example : ((({ reservations := [hourBooking 1 0 20, hourBooking 2 5 20] } :
    ControllerState).planPodAdoptions [strayPod "a" 7, strayPod "b" 8] 10).map
      fun q => (q.1.uid, q.2.id)) = [("a", 2), ("b", 1)] := by
  decide

theorem relinkPlans_withinBudget_twoPods :
    PlansWithinBudget { reservations := [hourBooking 1 0 20, hourBooking 2 5 20] }
        [strayPod "a" 7, strayPod "b" 8] 10
        (ControllerState.planPodAdoptions { reservations := [hourBooking 1 0 20, hourBooking 2 5 20] }
          [strayPod "a" 7, strayPod "b" 8] 10) ∧
      PlansWithinBudget { reservations := [hourBooking 1 0 20, hourBooking 2 5 20] }
        [strayPod "a" 7, strayPod "b" 8] 10
        (ControllerState.planOndemandMerges { reservations := [hourBooking 1 0 20, hourBooking 2 5 20] }
          [strayPod "a" 7, strayPod "b" 8] 10) :=
  relinkPlans_withinBudget { reservations := [hourBooking 1 0 20, hourBooking 2 5 20] }
    [strayPod "a" 7, strayPod "b" 8] 10 (by decide) (by decide)

end GpuReservation.Proofs
