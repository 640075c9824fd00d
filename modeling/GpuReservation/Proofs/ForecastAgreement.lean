import GpuReservation.Model.Forecast
import GpuReservation.Proofs.RelinkGuarantee
import GpuReservation.Proofs.Victims

/-!
# The forecast of a boundary and the sweep at the boundary

The forecast reads the chains of windows as of now, the sweep as of the boundary, when links of
them have ended.
-/

namespace GpuReservation.Proofs

open GpuReservation.Library GpuReservation.Model

variable (s : ControllerState) (capacity : Dict String Nat) (pods : List PodRuntimeView)
  (now boundary : Instant)

/-- What `now` forecasts for the boundary. -/
def forecastAt : ForecastBoundaryNeed :=
  s.forecastBoundaryNeed boundary (freeCapacityByClass capacity pods) pods now
    (s.guaranteeEndByUid pods now)

/-- What the sweep plans at the boundary itself. -/
def sweptAt : BoundaryPreemptionNeed := s.planBoundaryCandidates boundary capacity pods boundary

/-- A class reported short has the sweep's demand, shortfall and victims; one not reported short is
not short for the sweep. -/
structure AgreesOn (gpuClass : String) : Prop where
  demand : gpuClass ∈ (forecastAt s capacity pods now boundary).killsNeededByClass →
    (forecastAt s capacity pods now boundary).demandByClass.get? gpuClass =
      (s.boundaryDemand boundary pods boundary).get? gpuClass
  shortfall : gpuClass ∈ (forecastAt s capacity pods now boundary).killsNeededByClass →
    (forecastAt s capacity pods now boundary).killsNeededByClass.get? gpuClass =
      (sweptAt s capacity pods boundary).killsNeededByClass.get? gpuClass
  victims : gpuClass ∈ (forecastAt s capacity pods now boundary).killsNeededByClass → ∀ p,
    p ∈ ((forecastAt s capacity pods now boundary).eligibleByClass.get? gpuClass).getD [] ↔
      p ∈ offeredVictims (sweptAt s capacity pods boundary) gpuClass
  short : gpuClass ∉ (forecastAt s capacity pods now boundary).killsNeededByClass →
    gpuClass ∉ (sweptAt s capacity pods boundary).killsNeededByClass

/-- The pods of a class whose death frees GPUs, whatever the time. -/
def killable (gpuClass : String) (p : PodRuntimeView) : Prop :=
  p.gpuClass = gpuClass ∧ p.reservationId.isSome ∧ p.nodeResident = true ∧ p.nodeExcluded = false ∧
    p.terminating = false ∧ 0 < p.gpuCount

/-- The guarantee, as it is known at `now`, is over by the boundary. -/
def overBy (p : PodRuntimeView) : Prop :=
  ∀ e, s.guaranteeEnd p.reservationId now = some e → e ≤ boundary

section Victims

variable {s capacity pods now boundary}

lemma pastGuarantee_iff {p : PodRuntimeView} :
    s.pastGuarantee p boundary = true ↔ overBy s boundary boundary p := by
  rw [ControllerState.pastGuarantee, overBy]
  cases s.guaranteeEnd p.reservationId boundary <;> simp

lemma mem_preemptable_iff {gpuClass : String} {p : PodRuntimeView} :
    p ∈ s.preemptable gpuClass pods boundary ↔
      p ∈ pods ∧ killable gpuClass p ∧ overBy s boundary boundary p := by
  rw [← pastGuarantee_iff, ControllerState.preemptable, List.mem_filter, killable]
  simp only [Bool.and_eq_true, decide_eq_true_eq, Bool.not_eq_true']
  tauto

/-- What the forecast looks up of a pod is its guarantee. -/
lemma get?_guaranteeEndByUid (hpods : (pods.map (·.uid)).Nodup) {p : PodRuntimeView} (hp : p ∈ pods)
    (hadmitted : p.reservationId.isSome) :
    (s.guaranteeEndByUid pods now).get? p.uid = some (s.guaranteeEnd p.reservationId now) := by
  unfold ControllerState.guaranteeEndByUid
  rw [Dict.get?_ofList_filter_map hpods hp, if_pos hadmitted]

lemma eligibleAt_iff (hpods : (pods.map (·.uid)).Nodup) {p : PodRuntimeView} (hp : p ∈ pods) :
    ControllerState.eligibleAt boundary (s.guaranteeEndByUid pods now) p = true ↔
      killable p.gpuClass p ∧ overBy s now boundary p := by
  rw [ControllerState.eligibleAt, killable, overBy]
  by_cases hadmitted : p.reservationId.isSome = true
  · rw [get?_guaranteeEndByUid hpods hp hadmitted]
    cases s.guaranteeEnd p.reservationId now <;> simp [hadmitted, and_assoc]
  · simp [hadmitted]

lemma mem_forecast_eligible (hpods : (pods.map (·.uid)).Nodup) {gpuClass : String}
    {p : PodRuntimeView} :
    p ∈ ((forecastAt s capacity pods now boundary).eligibleByClass.get? gpuClass).getD [] ↔
      p ∈ pods ∧ killable gpuClass p ∧ overBy s now boundary p := by
  rw [forecastAt, ControllerState.forecastBoundaryNeed]
  dsimp only
  rw [Dict.get?_foldl_collect, List.filter_map, List.map_map]
  simp only [List.mem_map, List.mem_filter, Function.comp_apply, decide_eq_true_eq,
    exists_eq_right]
  constructor
  · rintro ⟨⟨hp, heligible⟩, rfl⟩
    exact ⟨hp, (eligibleAt_iff hpods hp).mp heligible⟩
  · rintro ⟨hp, hkill, hover⟩
    obtain rfl := hkill.1
    exact ⟨⟨hp, (eligibleAt_iff hpods hp).mpr ⟨hkill, hover⟩⟩, rfl⟩

lemma forecast_poolGpus (gpuClass : String) :
    ((forecastAt s capacity pods now boundary).poolGpusByClass.get? gpuClass).getD 0 =
      ((((forecastAt s capacity pods now boundary).eligibleByClass.get? gpuClass).getD []).map
        (·.gpuCount)).sum := by
  change (((forecastAt s capacity pods now boundary).eligibleByClass.mapValues _).get? _).getD 0 = _
  rw [Dict.get?_mapValues]
  cases (forecastAt s capacity pods now boundary).eligibleByClass.get? gpuClass <;> rfl

/-- The pool has GPUs exactly if it has a pod. -/
lemma forecast_poolGpus_pos_iff (hpods : (pods.map (·.uid)).Nodup) (gpuClass : String) :
    0 < ((forecastAt s capacity pods now boundary).poolGpusByClass.get? gpuClass).getD 0 ↔
      ∃ p ∈ pods, killable gpuClass p ∧ overBy s now boundary p := by
  rw [forecast_poolGpus]
  constructor
  · intro hpos
    have hne : ((forecastAt s capacity pods now boundary).eligibleByClass.get? gpuClass).getD [] ≠ [] := by
      intro hnil
      rw [hnil] at hpos
      exact absurd hpos (lt_irrefl 0)
    obtain ⟨p, hp⟩ := List.exists_mem_of_ne_nil _ hne
    exact ⟨p, (mem_forecast_eligible hpods).mp hp⟩
  · rintro ⟨p, heligible⟩
    have hcount : 0 < p.gpuCount := heligible.2.1.2.2.2.2.2
    exact Nat.lt_of_lt_of_le hcount
      (List.le_sum_of_mem (List.mem_map_of_mem ((mem_forecast_eligible hpods).mpr heligible)))

end Victims

section Demand

variable {s capacity pods now boundary}

lemma forecast_kills (gpuClass : String) :
    (forecastAt s capacity pods now boundary).killsNeededByClass.get? gpuClass =
      if demandOf s boundary pods now gpuClass ≤ (freeOf capacity pods gpuClass).toNat then none
      else some (demandOf s boundary pods now gpuClass - freeOf capacity pods gpuClass).toNat := by
  rw [forecastAt, ControllerState.forecastBoundaryNeed]
  simp only [Dict.get?_filter, Dict.get?_mapValues, Nat.pos_iff_ne_zero]
  exact shortfall_eq (fun n => boundaryDemand_pos s now pods) _

/-- With the time a chain loses links and gains none. -/
lemma reservationsClaimedBy_later (hle : now ≤ boundary) (id : Nat) :
    s.reservationsClaimedBy id boundary ⊆ s.reservationsClaimedBy id now := by
  rw [ControllerState.reservationsClaimedBy, ControllerState.reservationsClaimedBy]
  cases findReservation s.reservations id with
  | none => exact Finset.Subset.refl _
  | some res =>
    dsimp only
    split
    · refine Finset.union_subset_union_right fun rid hrid => ?_
      rw [List.mem_toFinset] at hrid ⊢
      rw [chainFor_later s res hle] at hrid
      exact ((List.takeWhile_prefix _).map _).subset hrid
    · exact Finset.Subset.refl _

/-- The pod's GPUs are credited to the booking. -/
def credits (s : ControllerState) (t : Instant) (rid : Nat) (p : PodRuntimeView) : Bool :=
  ControllerState.holdsReservation p &&
    p.reservationId.any fun id => rid ∈ s.reservationsClaimedBy id t

lemma credits_later (hle : now ≤ boundary) {rid : Nat} {p : PodRuntimeView}
    (h : credits s boundary rid p = true) : credits s now rid p = true := by
  rw [credits, Bool.and_eq_true, Option.any_eq_true] at h ⊢
  obtain ⟨hholds, id, hid, hmem⟩ := h
  exact ⟨hholds, id, hid, decide_eq_true
    (reservationsClaimedBy_later hle id (of_decide_eq_true hmem))⟩

/-- Two filters, one within the other, sum to the same if they differ in zeros only. -/
lemma sum_filter_eq_iff {α : Type} {q q' : α → Bool} (hqq' : ∀ a, q' a = true → q a = true)
    (f : α → Nat) (l : List α) :
    ((l.filter q').map f).sum ≤ ((l.filter q).map f).sum ∧
      (((l.filter q').map f).sum = ((l.filter q).map f).sum ↔
        ∀ a ∈ l, q a = true → 0 < f a → q' a = true) := by
  induction l with
  | nil => simp
  | cons a l ih =>
    obtain ⟨hle, hiff⟩ := ih
    rw [List.forall_mem_cons, ← hiff]
    by_cases hq' : q' a = true
    · simp only [List.filter_cons, hq', hqq' a hq', if_true, List.map_cons, List.sum_cons]
      exact ⟨by omega, by simp⟩
    · by_cases hq : q a = true
      · simp only [List.filter_cons, hq', hq, if_true, List.map_cons, List.sum_cons]
        refine ⟨by simp; omega, ?_⟩
        simp
        omega
      · simp [hq, hq', hle]

variable (s pods) in
lemma chainedGpus_later (hle : now ≤ boundary) (rid : Nat) :
    s.chainedGpus pods boundary rid ≤ s.chainedGpus pods now rid ∧
      (s.chainedGpus pods boundary rid = s.chainedGpus pods now rid ↔
        ∀ p ∈ pods, credits s now rid p = true → 0 < p.gpuCount →
          credits s boundary rid p = true) := by
  have hlater : ∀ p, credits s boundary rid p = true → credits s now rid p = true :=
    fun p => credits_later hle
  exact sum_filter_eq_iff hlater (fun p : PodRuntimeView => p.gpuCount) pods

variable (s pods now boundary) in
/-- Every pod whose GPUs are credited to the booking now is credited to it at the boundary, or the
others are enough for all of it. -/
def KeepsCredits (r : ReservationResponse) : Prop :=
  s.available r none ≤ s.chainedGpus pods boundary r.id ∨
    ∀ p ∈ pods, credits s now r.id p = true → 0 < p.gpuCount → credits s boundary r.id p = true

lemma need_later (hle : now ≤ boundary) (r : ReservationResponse) :
    s.need pods now r ≤ s.need pods boundary r ∧
      (s.need pods now r = s.need pods boundary r ↔ KeepsCredits s pods now boundary r) := by
  obtain ⟨hless, hiff⟩ := chainedGpus_later s pods hle r.id
  rw [KeepsCredits, ← hiff, ControllerState.need, ControllerState.need]
  exact ⟨by omega, by omega⟩

variable (s pods) in
lemma demandOf_later (hle : now ≤ boundary) (gpuClass : String) :
    demandOf s boundary pods now gpuClass ≤ demandOf s boundary pods boundary gpuClass ∧
      (demandOf s boundary pods now gpuClass = demandOf s boundary pods boundary gpuClass ↔
        ∀ r ∈ demanding s boundary gpuClass, KeepsCredits s pods now boundary r) := by
  rw [demandOf_eq, demandOf_eq, sum_map_eq_sum_map_iff fun r => (need_later hle r).1]
  exact ⟨List.sum_le_sum fun r _ => (need_later hle r).1,
    forall₂_congr fun r _ => (need_later hle r).2⟩

/-- A link of the pod's chain which has ended by the boundary is where the sweep sees the guarantee
end. -/
lemma overBy_boundary_iff (hle : now ≤ boundary) (p : PodRuntimeView) :
    overBy s boundary boundary p ↔
      match endedLink s p.reservationId now boundary with
      | none => overBy s now boundary p
      | some r => slotStart r ≤ boundary := by
  rw [overBy, overBy]
  cases hid : p.reservationId with
  | none => simp [endedLink, ControllerState.guaranteeEnd]
  | some id =>
    cases hfind : findReservation s.reservations id with
    | none => simp [endedLink, ControllerState.guaranteeEnd, hfind]
    | some res =>
      have hlink : endedLink s (some id) now boundary =
          (s.chainFor res now).find? fun r => slotEnd r ≤ boundary := by
        simp [endedLink, hfind]
      simp only [ControllerState.guaranteeEnd, hfind, Option.map_some, Option.some.injEq,
        forall_eq', hlink, computeGuaranteedUntil_later s res hle]
      cases (s.chainFor res now).find? fun r => slotEnd r ≤ boundary <;> rfl

end Demand

/-- No chain through which a booking of the class which starts at the boundary is served, or a pod
of the class protected, is cut by then where that makes a difference. -/
structure ChainsReach (gpuClass : String) : Prop where
  credits : ∀ r ∈ demanding s boundary gpuClass, KeepsCredits s pods now boundary r
  guarantees : ∀ p ∈ pods, killable gpuClass p → ∀ r,
    endedLink s p.reservationId now boundary = some r →
      (overBy s now boundary p ↔ slotStart r ≤ boundary)

section Agreement

variable {s capacity pods now boundary} {gpuClass : String}

lemma overBy_agrees_iff (hle : now ≤ boundary) {p : PodRuntimeView} :
    (overBy s now boundary p ↔ overBy s boundary boundary p) ↔ ∀ r,
      endedLink s p.reservationId now boundary = some r →
        (overBy s now boundary p ↔ slotStart r ≤ boundary) := by
  rw [overBy_boundary_iff hle p]
  cases endedLink s p.reservationId now boundary <;> simp

/-- Numbers of which none is zero. -/
lemma eq_of_getD_eq {a b : Option Nat} (ha : ∀ n, a = some n → 0 < n) (hb : ∀ n, b = some n → 0 < n)
    (h : a.getD 0 = b.getD 0) : a = b := by
  cases a with
  | none =>
    cases b with
    | none => rfl
    | some n =>
      have hn := hb n rfl
      rw [Option.getD_none, Option.getD_some] at h
      omega
  | some m =>
    have hm := ha m rfl
    cases b with
    | none =>
      rw [Option.getD_none, Option.getD_some] at h
      omega
    | some n => exact congrArg some h

/-- The forecast agrees with the sweep on a class exactly if the class is not short at the boundary
or the two read the same demand and the same guarantees. -/
lemma agreesOn_iff_same (hpods : (pods.map (·.uid)).Nodup) (hle : now ≤ boundary) :
    AgreesOn s capacity pods now boundary gpuClass ↔
      demandOf s boundary pods boundary gpuClass ≤ (freeOf capacity pods gpuClass).toNat ∨
        (demandOf s boundary pods now gpuClass = demandOf s boundary pods boundary gpuClass ∧
          ∀ p ∈ pods, killable gpuClass p →
            (overBy s now boundary p ↔ overBy s boundary boundary p)) := by
  have hmono := (demandOf_later s pods hle gpuClass).1
  have hforecast : gpuClass ∈ (forecastAt s capacity pods now boundary).killsNeededByClass ↔
      ¬ demandOf s boundary pods now gpuClass ≤ (freeOf capacity pods gpuClass).toNat := by
    rw [Dict.mem_iff_get?, forecast_kills]
    split <;> simp_all
  have hsweep : gpuClass ∈ (sweptAt s capacity pods boundary).killsNeededByClass ↔
      ¬ demandOf s boundary pods boundary gpuClass ≤ (freeOf capacity pods gpuClass).toNat := by
    rw [Dict.mem_iff_get?, sweptAt, killsNeeded_eq]
    split <;> simp_all
  have hoffered : gpuClass ∈ (sweptAt s capacity pods boundary).killsNeededByClass →
      offeredVictims (sweptAt s capacity pods boundary) gpuClass =
        s.preemptable gpuClass pods boundary :=
    fun hshort => (offeredVictims_needOf _ _ _ gpuClass).trans (if_pos hshort)
  constructor
  · intro h
    by_cases henough : demandOf s boundary pods boundary gpuClass ≤
        (freeOf capacity pods gpuClass).toNat
    · exact .inl henough
    have hswept := hsweep.mpr henough
    have hshort : gpuClass ∈ (forecastAt s capacity pods now boundary).killsNeededByClass :=
      not_not.mp fun hnot => h.short hnot hswept
    have hdemand : (s.boundaryDemand boundary pods now).get? gpuClass =
        (s.boundaryDemand boundary pods boundary).get? gpuClass := h.demand hshort
    refine .inr ⟨by rw [demandOf, demandOf, hdemand], fun p hp hkill => ?_⟩
    have hvictims := h.victims hshort p
    rw [mem_forecast_eligible hpods, hoffered hswept, mem_preemptable_iff] at hvictims
    simpa only [hp, hkill, true_and] using hvictims
  · rintro (henough | ⟨hdemand, hover⟩)
    · have hnot : gpuClass ∉ (forecastAt s capacity pods now boundary).killsNeededByClass := by
        rw [hforecast, not_not]
        exact hmono.trans henough
      refine ⟨fun h => absurd h hnot, fun h => absurd h hnot, fun h => absurd h hnot, fun _ => ?_⟩
      rw [hsweep, not_not]
      exact henough
    · refine ⟨fun _ => ?_, fun _ => ?_, fun hshort p => ?_, fun hnot => ?_⟩
      · exact eq_of_getD_eq (fun n => boundaryDemand_pos s now pods)
          (fun n => boundaryDemand_pos s boundary pods) hdemand
      · rw [forecast_kills, sweptAt, killsNeeded_eq, hdemand]
      · have hswept : gpuClass ∈ (sweptAt s capacity pods boundary).killsNeededByClass := by
          rw [hsweep, ← hdemand]
          exact hforecast.mp hshort
        rw [mem_forecast_eligible hpods, hoffered hswept, mem_preemptable_iff]
        exact and_congr_right fun hp => and_congr_right fun hkill => hover p hp hkill
      · rw [hsweep, ← hdemand, ← hforecast]
        exact hnot

/-- The forecast agrees with the sweep on a class exactly if the class has enough free GPUs for its
bookings as the sweep credits them, or no chain that matters to the class is cut by the
boundary. -/
theorem forecastBoundaryNeed_agrees_iff (s : ControllerState) (capacity : Dict String Nat)
    (pods : List PodRuntimeView) (hpods : (pods.map (·.uid)).Nodup) (now boundary : Instant)
    (hle : now ≤ boundary) (gpuClass : String) :
    AgreesOn s capacity pods now boundary gpuClass ↔
      ((demanding s boundary gpuClass).map (s.need pods boundary)).sum ≤
          (freeOf capacity pods gpuClass).toNat ∨
        ChainsReach s pods now boundary gpuClass := by
  rw [agreesOn_iff_same hpods hle, (demandOf_later s pods hle gpuClass).2, demandOf_eq]
  refine or_congr_right ⟨fun h => ⟨h.1, fun p hp hkill => ?_⟩, fun h => ⟨h.1, fun p hp hkill => ?_⟩⟩
  · exact (overBy_agrees_iff hle).mp (h.2 p hp hkill)
  · exact (overBy_agrees_iff hle).mpr (h.2 p hp hkill)

end Agreement

/-- The pod of the first of three bookings back to back, on the only GPU. -/
def chainedPod : PodRuntimeView where
  uid := "pod-a"
  ns := "alice"
  name := "train"
  gpuClass := "h100"
  gpuCount := 1
  reservationId := some 1
  nodeResident := true
  terminating := false

/-- While the middle booking runs, nothing is forecast for the start of the third.  When it starts,
the middle one has ended: the sweep finds the class short, and the pod the only victim. -/
theorem forecastBoundaryNeed_not_agrees :
    ¬ ∀ (s : ControllerState) (capacity : Dict String Nat) (pods : List PodRuntimeView),
      (pods.map (·.uid)).Nodup → ∀ now horizonEnd, ∀ boundary ∈ s.forecastBoundaries now horizonEnd,
        ∀ gpuClass, AgreesOn s capacity pods now boundary gpuClass := by
  intro h
  have hagrees := h threeHours (Dict.ofList [("h100", 1)]) [chainedPod] (by decide) 15 30 20
    (by decide) "h100"
  exact hagrees.short (by decide) (by decide)

/-- Before the second booking of the three starts, its start is forecast as it will be. -/
theorem forecastBoundaryNeed_agrees_iff_firstLink :
    AgreesOn threeHours (Dict.ofList [("h100", 1)]) [chainedPod] 5 10 "h100" :=
  (forecastBoundaryNeed_agrees_iff threeHours (Dict.ofList [("h100", 1)]) [chainedPod] (by decide) 5
    10 (by decide) "h100").mpr (.inl (by decide))

end GpuReservation.Proofs
