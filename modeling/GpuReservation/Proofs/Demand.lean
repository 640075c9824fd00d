import GpuReservation.Model.Planning
import GpuReservation.Proofs.GuaranteeStability
import GpuReservation.Proofs.Occupancy
import Mathlib.Algebra.Order.Group.Nat

/-!
# The demand of a slot boundary, against the pods which already serve it
-/

namespace GpuReservation.Proofs

open GpuReservation.Library GpuReservation.Model

variable (s : ControllerState)

/-- The occupancy map records every pod of the list with its GPUs under its booking reference, and
nothing else; the pods are distinct, hold their GPUs on a node, and none is on its way out. -/
structure OccupancyAgrees (pods : List PodRuntimeView) : Prop where
  distinct : (pods.map (·.uid)).Nodup
  resident : ∀ p ∈ pods, p.nodeResident = true ∧ p.terminating = false
  recorded : ∀ rid uid gpus, (s.bucket rid).get? uid = some gpus ↔
    ∃ p ∈ pods, p.uid = uid ∧ p.reservationId = some rid ∧ p.gpuCount = gpus

/-- The pod was admitted under `r` itself. -/
def bookedUnder (r : ReservationResponse) (p : PodRuntimeView) : Prop := p.reservationId = some r.id

/-- The pod serves `r`: booked under it, or under a user's booking whose chain reaches it. -/
def serves (now : Instant) (r : ReservationResponse) (p : PodRuntimeView) : Prop :=
  bookedUnder r p ∨ ∃ res, p.reservationId.bind (findReservation s.reservations) = some res ∧
    res.kind = .booking ∧ res.user.isSome ∧ r.id ∈ (s.chainFor res now).map (·.id)

instance (r : ReservationResponse) (p : PodRuntimeView) : Decidable (bookedUnder r p) :=
  inferInstanceAs (Decidable (_ = _))

instance (now : Instant) (r : ReservationResponse) (p : PodRuntimeView) :
    Decidable (serves s now r p) :=
  match h : p.reservationId.bind (findReservation s.reservations) with
  | none => decidable_of_iff (bookedUnder r p) (by simp [serves, h])
  | some res => decidable_of_iff (bookedUnder r p ∨ (res.kind = .booking ∧ res.user.isSome ∧
      r.id ∈ (s.chainFor res now).map (·.id))) (by simp [serves, h])

/-- The GPUs of the pods booked under `r`. -/
def bookedGpus (pods : List PodRuntimeView) (r : ReservationResponse) : Nat :=
  ((pods.filter fun p => bookedUnder r p).map (·.gpuCount)).sum

/-- The GPUs of the pods which serve `r`, each pod once. -/
def servingGpus (pods : List PodRuntimeView) (now : Instant) (r : ReservationResponse) : Nat :=
  ((pods.filter fun p => serves s now r p).map (·.gpuCount)).sum

/-- The bookings of class `label` which ask for GPUs at `boundary`. -/
def demanding (boundary : Instant) (label : String) : List ReservationResponse :=
  s.reservations.filter fun r => s.startsAt boundary r && s.effectiveLabel r = some label

lemma foldl_addDemand (pods : List PodRuntimeView) (now : Instant) (label : String)
    (l : List ReservationResponse) (demand : Dict String Nat) :
    ((l.foldl (s.addDemand pods now) demand).get? label).getD 0 =
      (demand.get? label).getD 0 +
        ((l.filter fun r => s.effectiveLabel r = some label).map (s.need pods now)).sum := by
  induction l generalizing demand with
  | nil => simp
  | cons r l ih =>
    rw [List.foldl_cons, ih, ControllerState.addDemand]
    cases hl : s.effectiveLabel r with
    | none => simp [hl]
    | some label' =>
      by_cases hneed : s.need pods now r = 0
      · by_cases heq : label' = label <;> simp [hl, hneed, heq]
      · by_cases heq : label' = label
        · subst heq
          simp [hl, hneed, Nat.add_assoc]
        · have hne : label ≠ label' := fun h => heq h.symm
          simp [hl, hneed, heq, Dict.get?_set_of_ne _ _ hne]

/-- What the code computes for a class is the sum of the needs of its bookings. -/
theorem boundaryDemand_get (boundary : Instant) (pods : List PodRuntimeView) (now : Instant)
    (label : String) :
    ((s.boundaryDemand boundary pods now).get? label).getD 0 =
      ((demanding s boundary label).map (s.need pods now)).sum := by
  rw [ControllerState.boundaryDemand, foldl_addDemand, demanding, List.filter_filter]
  simp [Bool.and_comm]

/-- The demand of a class at a boundary. -/
def demandOf (boundary : Instant) (pods : List PodRuntimeView) (now : Instant)
    (gpuClass : String) : Nat :=
  ((s.boundaryDemand boundary pods now).get? gpuClass).getD 0

section Positive

variable (now : Instant) (pods : List PodRuntimeView)

lemma demandOf_eq (boundary : Instant) (gpuClass : String) :
    demandOf s boundary pods now gpuClass =
      ((demanding s boundary gpuClass).map (s.need pods now)).sum :=
  boundaryDemand_get s boundary pods now gpuClass

lemma addDemand_pos {demand : Dict String Nat} {gpuClass : String}
    (h : ∀ n, demand.get? gpuClass = some n → 0 < n) (r : ReservationResponse) {n : Nat}
    (hn : (s.addDemand pods now demand r).get? gpuClass = some n) : 0 < n := by
  rw [ControllerState.addDemand] at hn
  cases hl : s.effectiveLabel r with
  | none => exact h n (by simpa [hl] using hn)
  | some label =>
    by_cases hneed : s.need pods now r = 0
    · exact h n (by simpa [hl, hneed] using hn)
    · by_cases heq : gpuClass = label
      · have hsum : (demand.get? label).getD 0 + s.need pods now r = n := by
          simpa [hl, hneed, heq] using hn
        omega
      · exact h n (by simpa [hl, hneed, Dict.get?_set_of_ne _ _ heq] using hn)

/-- Only a class which is asked for has a demand. -/
lemma boundaryDemand_pos {boundary : Instant} {gpuClass : String} {n : Nat}
    (hn : (s.boundaryDemand boundary pods now).get? gpuClass = some n) : 0 < n := by
  rw [ControllerState.boundaryDemand] at hn
  have hfold : ∀ (l : List ReservationResponse) (demand : Dict String Nat),
      (∀ n, demand.get? gpuClass = some n → 0 < n) →
      ∀ n, (l.foldl (s.addDemand pods now) demand).get? gpuClass = some n → 0 < n := by
    intro l
    induction l with
    | nil => exact fun _ h => h
    | cons r l ih => exact fun demand h => ih _ fun n hn => addDemand_pos s now pods h r hn
  exact hfold _ ∅ (by simp) n hn

end Positive

lemma serves_iff_claimed {now : Instant} {r : ReservationResponse} {p : PodRuntimeView} {id : Nat}
    (hid : p.reservationId = some id) :
    serves s now r p ↔ r.id ∈ s.reservationsClaimedBy id now := by
  have hbooked : bookedUnder r p ↔ r.id = id := by
    rw [bookedUnder, hid, Option.some.injEq, eq_comm]
  rw [serves, hid, Option.bind_some, hbooked, ControllerState.reservationsClaimedBy]
  cases hfind : findReservation s.reservations id with
  | none => simp
  | some res =>
    by_cases hres : res.kind = .booking ∧ res.user.isSome
    · simp [hres]
    · simp only [hres, if_false, Finset.mem_singleton, Option.some.injEq]
      refine or_iff_left ?_
      rintro ⟨res', rfl, hk, hu, -⟩
      exact hres ⟨hk, hu⟩

variable {s} {pods : List PodRuntimeView}

lemma chainedGpus_eq_servingGpus (h : OccupancyAgrees s pods) (now : Instant)
    (r : ReservationResponse) : s.chainedGpus pods now r.id = servingGpus s pods now r := by
  rw [ControllerState.chainedGpus, servingGpus]
  congr 2
  refine List.filter_congr fun p hp => ?_
  obtain ⟨hres, hterm⟩ := h.resident p hp
  rw [Bool.eq_iff_iff]
  cases hid : p.reservationId with
  | none => simp [ControllerState.holdsReservation, hid, serves, bookedUnder]
  | some id =>
    simp [ControllerState.holdsReservation, hid, hres, hterm, serves_iff_claimed s hid]

lemma usedExcept_eq_bookedGpus (h : OccupancyAgrees s pods) (r : ReservationResponse) :
    s.usedExcept r.id none = bookedGpus pods r := by
  have hperm : (s.bucket r.id).entries.Perm
      ((pods.filter fun p => bookedUnder r p).map fun p => (p.uid, p.gpuCount)) := by
    rw [List.perm_ext_iff_of_nodup (.of_map _ (s.bucket r.id).nodup)]
    · rintro ⟨uid, gpus⟩
      rw [← Dict.get?_eq_some_iff, h.recorded]
      simp only [List.mem_map, List.mem_filter, Prod.mk.injEq, decide_eq_true_eq]
      exact ⟨fun ⟨p, hp, hu, hr, hg⟩ => ⟨p, ⟨hp, hr⟩, hu, hg⟩,
        fun ⟨p, ⟨hp, hr⟩, hu, hg⟩ => ⟨p, hp, hu, hr, hg⟩⟩
    · refine .of_map Prod.fst ?_
      rw [List.map_map]
      exact h.distinct.sublist (List.filter_sublist.map _)
  rw [usedExcept_none, Dict.total, Dict.values, bookedGpus, (hperm.map Prod.snd).sum_eq,
    List.map_map]
  rfl

/-- A pod booked under `r` is taken off twice: it is in the occupancy and it claims `r`. -/
lemma need_eq (h : OccupancyAgrees s pods) (now : Instant) (r : ReservationResponse) :
    s.need pods now r = r.gpuCount - bookedGpus pods r - servingGpus s pods now r := by
  rw [ControllerState.need, ControllerState.available, usedExcept_eq_bookedGpus h,
    chainedGpus_eq_servingGpus h]

lemma sum_map_eq_sum_map_iff {α : Type*} {f g : α → Nat} (hle : ∀ a, f a ≤ g a) (l : List α) :
    (l.map f).sum = (l.map g).sum ↔ ∀ a ∈ l, f a = g a := by
  induction l with
  | nil => simp
  | cons a l ih =>
    have hsum : (l.map f).sum ≤ (l.map g).sum := List.sum_le_sum fun b _ => hle b
    have ha := hle a
    rw [List.map_cons, List.sum_cons, List.map_cons, List.sum_cons, List.forall_mem_cons, ← ih]
    omega

/-- The demand of a class counts every pod once exactly when each of its bookings has no pod booked
under it yet, or has all its GPUs served. -/
theorem boundaryDemand_counts_once_iff (h : OccupancyAgrees s pods)
    (boundary now : Instant) (label : String) :
    ((s.boundaryDemand boundary pods now).get? label).getD 0 =
        ((demanding s boundary label).map fun r => r.gpuCount - servingGpus s pods now r).sum ↔
      ∀ r ∈ demanding s boundary label,
        bookedGpus pods r = 0 ∨ r.gpuCount ≤ servingGpus s pods now r := by
  have hle : ∀ r, s.need pods now r ≤ r.gpuCount - servingGpus s pods now r := by
    intro r
    rw [need_eq h]
    omega
  rw [boundaryDemand_get, sum_map_eq_sum_map_iff hle]
  refine forall₂_congr fun r _ => ?_
  rw [need_eq h]
  omega

/-- A booking of four GPUs which opens at 10, one of its pods already admitted. -/
def partlyServed : ControllerState where
  reservations := [{ hourBooking 1 10 20 with gpuCount := 4 }]
  occupancy := Dict.ofList [(1, Dict.ofList [("pod-a", 1)])]

def servingPod : PodRuntimeView where
  uid := "pod-a"
  ns := "alice"
  name := "train"
  gpuClass := "h100"
  gpuCount := 1
  reservationId := some 1
  nodeResident := true
  terminating := false

lemma partlyServed_agrees : OccupancyAgrees partlyServed [servingPod] where
  distinct := by decide
  resident := by decide
  recorded := by
    intro rid uid gpus
    by_cases hrid : rid = 1
    · have hb : partlyServed.bucket 1 = Dict.ofList [("pod-a", 1)] := by decide
      by_cases huid : uid = "pod-a"
      · simp [hrid, hb, huid, Dict.ofList, servingPod]
      · have hne : "pod-a" ≠ uid := fun h => huid h.symm
        simp [hrid, hb, Dict.ofList, servingPod, Dict.get?_set_of_ne _ _ huid, hne]
    · have hb : partlyServed.bucket rid = ∅ := by
        simp [ControllerState.bucket, partlyServed, Dict.ofList, Dict.get?_set_of_ne _ _ hrid]
      have hne : 1 ≠ rid := fun h => hrid h.symm
      simp [hb, servingPod, hne]

/-- One of the four GPUs is supplied, and the demand is two. -/
theorem boundaryDemand_counts_twice :
    ¬ ∀ (s : ControllerState) (pods : List PodRuntimeView), OccupancyAgrees s pods →
      ∀ (boundary now : Instant) (label : String), now ≤ boundary →
        ((s.boundaryDemand boundary pods now).get? label).getD 0 =
          ((demanding s boundary label).map fun r => r.gpuCount - servingGpus s pods now r).sum := by
  intro h
  have h3 := h partlyServed [servingPod] partlyServed_agrees 10 10 "h100" le_rfl
  exact absurd h3 (by decide)

theorem boundaryDemand_counts_once_iff_partlyServed :
    ((partlyServed.boundaryDemand 10 [servingPod] 10).get? "h100").getD 0 =
        ((demanding partlyServed 10 "h100").map fun r =>
          r.gpuCount - servingGpus partlyServed [servingPod] 10 r).sum ↔
      ∀ r ∈ demanding partlyServed 10 "h100",
        bookedGpus [servingPod] r = 0 ∨ r.gpuCount ≤ servingGpus partlyServed [servingPod] 10 r :=
  boundaryDemand_counts_once_iff partlyServed_agrees 10 10 "h100"

end GpuReservation.Proofs
