import GpuReservation.Model.Warnings
import GpuReservation.Proofs.ForecastAgreement

/-!
# When a boundary warning is late

A pod is warned of the soonest boundary which puts it at risk as far as is known now.  The sweep
looks at each boundary again for a while after it has opened, and follows the chains anew.
-/

namespace GpuReservation.Proofs

open GpuReservation.Library GpuReservation.Model

variable (s : ControllerState) (capacity : Dict String Nat) (pods : List PodRuntimeView)

/-- The class has fewer GPUs free than its bookings at the boundary need, as `t` credits them. -/
def shortAt (boundary t : Instant) (gpuClass : String) : Prop :=
  (freeOf capacity pods gpuClass).toNat < demandOf s boundary pods t gpuClass

instance (boundary t : Instant) (gpuClass : String) :
    Decidable (shortAt s capacity pods boundary t gpuClass) :=
  inferInstanceAs (Decidable (_ < _))

/-- As far as `now` knows, the boundary puts the pod at risk. -/
def atRisk (now boundary : Instant) (p : PodRuntimeView) : Prop :=
  killable p.gpuClass p ∧ overBy s now boundary p ∧ shortAt s capacity pods boundary now p.gpuClass

/-- A sweep at `t` which looks at the boundary may take the pod. -/
def mayTake (t boundary : Instant) (p : PodRuntimeView) : Prop :=
  killable p.gpuClass p ∧ overBy s t t p ∧ shortAt s capacity pods boundary t p.gpuClass

variable {s capacity pods} {now boundary : Instant} {p : PodRuntimeView}

lemma mem_offeredVictims_iff {t : Instant} {gpuClass : String} :
    p ∈ offeredVictims (s.planBoundaryCandidates boundary capacity pods t) gpuClass ↔
      p ∈ pods ∧ p.gpuClass = gpuClass ∧ mayTake s capacity pods t boundary p := by
  have hshort : gpuClass ∈
      (s.planBoundaryCandidates boundary capacity pods t).killsNeededByClass ↔
        shortAt s capacity pods boundary t gpuClass := by
    rw [Dict.mem_iff_get?, killsNeeded_eq, shortAt]
    split <;> simp_all
  have hoffered : offeredVictims (s.planBoundaryCandidates boundary capacity pods t) gpuClass =
      if gpuClass ∈ (s.planBoundaryCandidates boundary capacity pods t).killsNeededByClass then
        s.preemptable gpuClass pods t else [] := offeredVictims_needOf _ _ _ gpuClass
  rw [hoffered]
  by_cases h : gpuClass ∈ (s.planBoundaryCandidates boundary capacity pods t).killsNeededByClass
  · rw [if_pos h, mem_preemptable_iff, mayTake]
    constructor
    · rintro ⟨hp, hkill, hover⟩
      obtain rfl := hkill.1
      exact ⟨hp, rfl, hkill, hover, hshort.mp h⟩
    · rintro ⟨hp, rfl, hkill, hover, -⟩
      exact ⟨hp, hkill, hover⟩
  · rw [if_neg h]
    constructor
    · exact fun hmem => absurd hmem List.not_mem_nil
    · rintro ⟨-, rfl, -, -, hs⟩
      exact absurd (hshort.mpr hs) h

section Warned

/-- What the boundary itself warns the pod of. -/
def warnedOf (need : ForecastBoundaryNeed) (boundary : Instant) (lead : Int)
    (guaranteeEndByUid : Dict Uid (Option Instant)) (uid : Uid) (e : String × Nat) :
    Option TerminationWarning :=
  if (need.poolGpusByClass.get? e.1).getD 0 = 0 then none
  else ((need.eligibleByClass.get? e.1).getD []).findSome? fun p =>
    if p.uid = uid then
      some
        { view := p
          terminateAt := ControllerState.killStart boundary lead (guaranteeEndByUid.get? p.uid).join
          risk := ControllerState.riskOf e.2 ((need.poolGpusByClass.get? e.1).getD 0)
          boundary := some boundary }
    else none

lemma get?_warnClass (need : ForecastBoundaryNeed) (boundary : Instant) (lead : Int)
    (guaranteeEndByUid : Dict Uid (Option Instant)) (uid : Uid)
    (warnings : Dict Uid TerminationWarning) (e : String × Nat) :
    (ControllerState.warnClass boundary lead guaranteeEndByUid need warnings e).get? uid =
      (warnings.get? uid).or (warnedOf need boundary lead guaranteeEndByUid uid e) := by
  unfold ControllerState.warnClass warnedOf
  dsimp only
  split
  · exact Option.or_none.symm
  · refine Dict.get?_foldl_or (fun warnings p => ?_) _ _
    split
    · rename_i hmem
      obtain ⟨w, hw⟩ := Dict.mem_iff_get?.mp hmem
      split
      · rename_i huid
        rw [← huid, hw]
        rfl
      · exact Option.or_none.symm
    · rename_i hmem
      rw [Dict.get?_set]
      split
      · rename_i huid
        rw [huid, Dict.get?_eq_none_iff.mpr hmem, if_pos rfl]
        rfl
      · rename_i huid
        rw [if_neg fun h => huid h.symm, Option.or_none]

variable (s capacity pods now) in
/-- The warning the boundary gives rise to by itself. -/
def warningAt (lead : Int) (uid : Uid) (boundary : Instant) : Option TerminationWarning :=
  (forecastAt s capacity pods now boundary).killsNeededByClass.entries.findSome?
    (warnedOf (forecastAt s capacity pods now boundary) boundary lead (s.guaranteeEndByUid pods now)
      uid)

lemma get?_planTerminationWarnings (boundaries : List Instant) (lead : Int) (uid : Uid) :
    (s.planTerminationWarnings boundaries capacity pods now lead).get? uid =
      (boundaries.insertionSort (· ≤ ·)).findSome? (warningAt s capacity pods now lead uid) := by
  unfold ControllerState.planTerminationWarnings
  rw [Dict.get?_foldl_or (f := warningAt s capacity pods now lead uid), Dict.get?_empty]
  · exact Option.none_or
  · intro warnings boundary
    exact Dict.get?_foldl_or (get?_warnClass _ boundary lead _ uid) _ _

lemma warningAt_spec (hpods : (pods.map (·.uid)).Nodup) {lead : Int} {uid : Uid}
    {w : TerminationWarning} (h : warningAt s capacity pods now lead uid boundary = some w) :
    w.view ∈ pods ∧ w.view.uid = uid ∧ atRisk s capacity pods now boundary w.view ∧
      w.terminateAt =
        ControllerState.killStart boundary lead (s.guaranteeEnd w.view.reservationId now) ∧
      w.boundary = some boundary := by
  obtain ⟨e, he, hwarned⟩ := List.exists_of_findSome?_eq_some h
  unfold warnedOf at hwarned
  split at hwarned
  · cases hwarned
  · obtain ⟨p, hp, hw⟩ := List.exists_of_findSome?_eq_some hwarned
    split at hw
    · rename_i huid
      cases hw
      obtain ⟨hmem, hkill, hover⟩ := (mem_forecast_eligible hpods).mp hp
      have hkills := Dict.get?_eq_some_iff.mpr he
      rw [forecast_kills] at hkills
      split at hkills
      · cases hkills
      · rename_i hshort
        refine ⟨hmem, huid, ⟨hkill.1.symm ▸ hkill, hover, ?_⟩, ?_, rfl⟩
        · rw [shortAt, hkill.1]
          exact Nat.lt_of_not_le hshort
        · rw [get?_guaranteeEndByUid hpods hmem hkill.2.1]
          rfl
    · cases hw

lemma warningAt_isSome (hpods : (pods.map (·.uid)).Nodup) (hp : p ∈ pods)
    (hrisk : atRisk s capacity pods now boundary p) (lead : Int) :
    (warningAt s capacity pods now lead p.uid boundary).isSome := by
  obtain ⟨hkill, hover, hshort⟩ := hrisk
  have hkills : (forecastAt s capacity pods now boundary).killsNeededByClass.get? p.gpuClass =
      some (demandOf s boundary pods now p.gpuClass - freeOf capacity pods p.gpuClass).toNat :=
    (forecast_kills p.gpuClass).trans (if_neg (Nat.not_le_of_lt hshort))
  have heligible : p ∈
      ((forecastAt s capacity pods now boundary).eligibleByClass.get? p.gpuClass).getD [] :=
    (mem_forecast_eligible hpods).mpr ⟨hp, hkill, hover⟩
  have hne : ((forecastAt s capacity pods now boundary).poolGpusByClass.get? p.gpuClass).getD 0 ≠ 0 :=
    Nat.ne_of_gt ((forecast_poolGpus_pos_iff hpods p.gpuClass).mpr ⟨p, hp, hkill, hover⟩)
  unfold warningAt
  rw [List.findSome?_isSome_iff]
  refine ⟨_, Dict.get?_eq_some_iff.mp hkills, ?_⟩
  unfold warnedOf
  rw [if_neg hne, List.findSome?_isSome_iff]
  exact ⟨p, heligible, by rw [if_pos rfl]; rfl⟩

/-- A pod is warned of the soonest boundary which puts it at risk. -/
theorem planTerminationWarnings_spec (hpods : (pods.map (·.uid)).Nodup)
    {boundaries : List Instant} {lead : Int} {uid : Uid} {w : TerminationWarning}
    (h : (s.planTerminationWarnings boundaries capacity pods now lead).get? uid = some w) :
    w.view ∈ pods ∧ ∃ b ∈ boundaries, atRisk s capacity pods now b w.view ∧
      (∀ b' ∈ boundaries, atRisk s capacity pods now b' w.view → b ≤ b') ∧
      w.terminateAt = ControllerState.killStart b lead (s.guaranteeEnd w.view.reservationId now) ∧
      w.boundary = some b := by
  rw [get?_planTerminationWarnings] at h
  obtain ⟨l₁, b, l₂, hsplit, hwarning, hbefore⟩ := List.findSome?_eq_some_iff.mp h
  obtain ⟨hmem, rfl, hrisk, hat, hboundary⟩ := warningAt_spec hpods hwarning
  have hsorted : (l₁ ++ b :: l₂).Pairwise (· ≤ ·) :=
    hsplit ▸ List.pairwise_insertionSort (· ≤ ·) boundaries
  have hperm : ∀ x, x ∈ l₁ ++ b :: l₂ ↔ x ∈ boundaries :=
    fun x => hsplit ▸ List.mem_insertionSort (· ≤ ·)
  refine ⟨hmem, b, (hperm b).mp (by simp), hrisk, fun b' hb' hrisk' => ?_, hat, hboundary⟩
  cases List.mem_append.mp ((hperm b').mpr hb') with
  | inl hearlier =>
    have hsome := warningAt_isSome hpods hmem hrisk' lead
    rw [hbefore b' hearlier] at hsome
    cases hsome
  | inr hlater =>
    have htail := List.pairwise_cons.mp (List.pairwise_append.mp hsorted).2.1
    cases List.mem_cons.mp hlater with
    | inl heq => exact le_of_eq heq.symm
    | inr hmem' => exact htail.1 b' hmem'

lemma planTerminationWarnings_warns (hpods : (pods.map (·.uid)).Nodup) {boundaries : List Instant}
    (hp : p ∈ pods) (hrisk : ∃ b ∈ boundaries, atRisk s capacity pods now b p) (lead : Int) :
    ∃ w, (s.planTerminationWarnings boundaries capacity pods now lead).get? p.uid = some w ∧
      w.view = p := by
  obtain ⟨b, hb, hrisk⟩ := hrisk
  have hsome : ((boundaries.insertionSort (· ≤ ·)).findSome?
      (warningAt s capacity pods now lead p.uid)).isSome := by
    rw [List.findSome?_isSome_iff]
    exact ⟨b, (List.mem_insertionSort (· ≤ ·)).mpr hb, warningAt_isSome hpods hp hrisk lead⟩
  obtain ⟨w, hw⟩ := Option.isSome_iff_exists.mp hsome
  obtain ⟨b', -, hwarning⟩ := List.exists_of_findSome?_eq_some hw
  obtain ⟨hmem, huid, -⟩ := warningAt_spec hpods hwarning
  refine ⟨w, (get?_planTerminationWarnings boundaries lead p.uid).trans hw, ?_⟩
  exact List.inj_on_of_nodup_map hpods hmem hp huid

end Warned

lemma killStart_le_iff {boundary t : Instant} {lead : Int} {guaranteeEnd : Option Instant} :
    ControllerState.killStart boundary lead guaranteeEnd ≤ t ↔
      boundary ≤ t + lead ∧ ∀ e, guaranteeEnd = some e → e ≤ t := by
  have hopened : boundary - lead ≤ t ↔ boundary ≤ t + lead := sub_le_iff_le_add
  unfold ControllerState.killStart
  cases guaranteeEnd with
  | none => simp
  | some e =>
    simp only [Option.some.injEq, forall_eq']
    split
    · rename_i hlt
      exact ⟨fun h => ⟨hopened.mp (le_trans (le_of_lt hlt) h), h⟩, fun h => h.2⟩
    · rename_i hle
      exact ⟨fun h => ⟨hopened.mp h, le_trans (not_lt.mp hle) h⟩, fun h => hopened.mpr h.1⟩

section

variable (s : ControllerState) (config : Config) (capacity : Dict String Nat)
  (pods : List PodRuntimeView) (now : Instant)

/-- No sweep from `now` on may take a warned pod before the instant it is warned of. -/
def NotLate : Prop :=
  ∀ uid w, (s.planTerminationWarnings (s.warnBoundaries config now) capacity pods now
      (minutes config.preemptionLeadMinutes)).get? uid = some w →
    ∀ t, now ≤ t → t < w.terminateAt →
      ∀ b ∈ s.upcomingBoundaries t (minutes config.preemptionLeadMinutes), ∀ gpuClass,
        w.view ∉ offeredVictims (s.planBoundaryCandidates b capacity pods t) gpuClass

/-- No boundary which puts the pod at risk as far as `now` knows has come within the lead by `t`. -/
def NoneBefore (p : PodRuntimeView) (t : Instant) : Prop :=
  ∀ b ∈ s.warnBoundaries config now, atRisk s capacity pods now b p →
    t + minutes config.preemptionLeadMinutes < b

/-- What keeps it from `now` that a sweep at `t` may take the pod at the boundary. -/
inductive Unforeseen (p : PodRuntimeView) (t boundary : Instant) : Prop
  /-- A link of its chain which has ended since cut short the guarantee it has now. -/
  | cut (r : ReservationResponse) (e : Instant) (hlink : endedLink s p.reservationId now t = some r)
      (hguarantee : s.guaranteeEnd p.reservationId now = some e) (hearly : t < e)
  /-- Its guarantee ended within the lead after the boundary had opened, and it is warned of a later one. -/
  | endedAfter (e : Instant) (hguarantee : s.guaranteeEnd p.reservationId now = some e)
      (hafter : boundary < e) (hended : e ≤ t) (hnone : NoneBefore s config capacity pods now p t)
  /-- The class is short since a booking lost what it was credited with, and the pod is warned of a later
  boundary. -/
  | shortSince (hshort : ¬ shortAt s capacity pods boundary now p.gpuClass)
      (hnone : NoneBefore s config capacity pods now p t)

/-- Nothing a sweep may take a warned pod for is kept from `now`. -/
def AllForeseen : Prop :=
  ∀ p ∈ pods, (∃ b ∈ s.warnBoundaries config now, atRisk s capacity pods now b p) →
    ∀ t, now ≤ t → ∀ b ∈ s.upcomingBoundaries t (minutes config.preemptionLeadMinutes),
      mayTake s capacity pods t b p → ¬ Unforeseen s config capacity pods now p t b

end

section Horizon

variable {config : Config} {t : Instant}

lemma exists_startsAt_of_shortAt {gpuClass : String} (h : shortAt s capacity pods boundary now gpuClass) :
    ∃ r ∈ s.reservations, s.startsAt boundary r := by
  have hpos : demandOf s boundary pods now gpuClass ≠ 0 := Nat.ne_of_gt (Nat.zero_lt_of_lt h)
  rw [demandOf_eq] at hpos
  cases hdemanding : demanding s boundary gpuClass with
  | nil => simp [hdemanding] at hpos
  | cons r l =>
    have hr : r ∈ demanding s boundary gpuClass := hdemanding ▸ List.mem_cons_self
    obtain ⟨hmem, hstarts⟩ := List.mem_filter.mp hr
    exact ⟨r, hmem, (Bool.and_eq_true_iff.mp hstarts).1⟩

lemma mem_forecastBoundaries {horizonEnd b : Instant} : b ∈ s.forecastBoundaries now horizonEnd ↔
    ∃ r ∈ s.reservations, r.kind = .booking ∧ r.id ∉ s.noshowReservationIds ∧ slotStart r = b ∧ now < b ∧
      b ≤ horizonEnd := by
  unfold ControllerState.forecastBoundaries
  rw [List.mem_insertionSort, List.mem_dedup, List.mem_map]
  simp only [List.mem_filter, Bool.and_eq_true, decide_eq_true_eq]
  constructor
  · rintro ⟨r, ⟨hr, ⟨⟨hkind, hshow⟩, hlt⟩, hle⟩, rfl⟩
    exact ⟨r, hr, hkind, hshow, rfl, hlt, hle⟩
  · rintro ⟨r, hr, hkind, hshow, rfl, hlt, hle⟩
    exact ⟨r, ⟨hr, ⟨⟨hkind, hshow⟩, hlt⟩, hle⟩, rfl⟩

lemma mem_warnBoundaries {b : Instant} : b ∈ s.warnBoundaries config now ↔
    config.terminationWarningEnabled ∧ (b ∈ s.upcomingBoundaries now (minutes config.preemptionLeadMinutes) ∨
      b ∈ s.forecastBoundaries now (now + minutes config.terminationWarningLeadMinutes)) := by
  unfold ControllerState.warnBoundaries
  split
  · rw [List.mem_insertionSort, List.mem_dedup, List.mem_append]
    exact ⟨fun h => ⟨‹_›, h⟩, fun h => h.2⟩
  · exact ⟨fun h => absurd h List.not_mem_nil, fun h => absurd h.1 ‹_›⟩

/-- A boundary which comes into view later, and at which the class is short already, is looked at now if a
later one is. -/
lemma mem_warnBoundaries_of_lt {b b₀ : Instant} {gpuClass : String} (ht : now ≤ t)
    (hb : b ∈ s.upcomingBoundaries t (minutes config.preemptionLeadMinutes))
    (hshort : shortAt s capacity pods b now gpuClass) (hb₀ : b₀ ∈ s.warnBoundaries config now)
    (hlt : b < b₀) : b ∈ s.warnBoundaries config now := by
  obtain ⟨henabled, hseen⟩ := mem_warnBoundaries.mp hb₀
  obtain ⟨r, hr, hkind, hafter, -, hstart⟩ := mem_upcomingBoundaries.mp hb
  refine mem_warnBoundaries.mpr ⟨henabled, ?_⟩
  have hafter' : now - minutes config.preemptionLeadMinutes < b :=
    lt_of_le_of_lt (sub_le_sub_right ht _) hafter
  by_cases hnear : b ≤ now + minutes config.preemptionLeadMinutes
  · exact .inl (mem_upcomingBoundaries.mpr ⟨r, hr, hkind, hafter', hnear, hstart⟩)
  · rcases hseen with hseen | hseen
    · obtain ⟨-, -, -, -, hnear₀, -⟩ := mem_upcomingBoundaries.mp hseen
      exact absurd (le_trans (le_of_lt hlt) hnear₀) hnear
    · obtain ⟨-, -, -, -, -, -, hfar₀⟩ := mem_forecastBoundaries.mp hseen
      obtain ⟨r', hr', hstarts⟩ := exists_startsAt_of_shortAt hshort
      simp only [ControllerState.startsAt, Bool.and_eq_true, decide_eq_true_eq] at hstarts
      obtain ⟨⟨⟨hkind', -⟩, hstart'⟩, hshow⟩ := hstarts
      refine .inr (mem_forecastBoundaries.mpr
        ⟨r', hr', hkind', hshow, hstart', ?_, le_trans (le_of_lt hlt) hfar₀⟩)
      by_contra hpast
      have hnow : now < now :=
        calc now < b + minutes config.preemptionLeadMinutes := sub_lt_iff_lt_add.mp hafter'
          _ ≤ now + minutes config.preemptionLeadMinutes := add_le_add_left (le_of_not_gt hpast) _
          _ < b := lt_of_not_ge hnear
          _ ≤ now := le_of_not_gt hpast
      exact lt_irrefl now hnow

end Horizon

/-- The warnings of `now` are not late exactly if nothing a sweep takes a warned pod for later is kept from
`now`: no ended link cuts its guarantee short, no guarantee ends after the boundary and no credit is lost
before the boundary it is warned of comes within the lead. -/
theorem planTerminationWarnings_notLate_iff (s : ControllerState) (config : Config)
    (capacity : Dict String Nat) (pods : List PodRuntimeView) (hpods : (pods.map (·.uid)).Nodup)
    (now : Instant) :
    NotLate s config capacity pods now ↔ AllForeseen s config capacity pods now := by
  constructor
  · intro h p hp hrisk t ht b hb htaken hunforeseen
    obtain ⟨w, hw, hview⟩ := planTerminationWarnings_warns hpods hp hrisk
      (minutes config.preemptionLeadMinutes)
    subst hview
    obtain ⟨-, b₀, hb₀, hrisk₀, -, hat, -⟩ := planTerminationWarnings_spec hpods hw
    have hstarted : w.terminateAt ≤ t := by
      by_contra hearly
      exact h w.view.uid w hw t ht (lt_of_not_ge hearly) b hb w.view.gpuClass
        (mem_offeredVictims_iff.mpr ⟨hp, rfl, htaken⟩)
    rw [hat, killStart_le_iff] at hstarted
    cases hunforeseen with
    | cut r e _ hguarantee hearly => exact absurd (hstarted.2 e hguarantee) (not_le_of_gt hearly)
    | endedAfter e _ _ _ hnone => exact absurd hstarted.1 (not_le_of_gt (hnone b₀ hb₀ hrisk₀))
    | shortSince _ hnone => exact absurd hstarted.1 (not_le_of_gt (hnone b₀ hb₀ hrisk₀))
  · intro h uid w hw t ht hearly b hb gpuClass hoffered
    obtain ⟨hp, -, htaken⟩ := mem_offeredVictims_iff.mp hoffered
    obtain ⟨-, b₀, hb₀, hrisk₀, hsoonest, hat, -⟩ := planTerminationWarnings_spec hpods hw
    have hseen := h w.view hp ⟨b₀, hb₀, hrisk₀⟩ t ht b hb htaken
    have hover : overBy s now t w.view := by
      have hthen := (overBy_boundary_iff ht w.view).mp htaken.2.1
      cases hlink : endedLink s w.view.reservationId now t with
      | none =>
        rw [hlink] at hthen
        exact hthen
      | some r =>
        intro e hguarantee
        by_contra hlate
        exact hseen (.cut r e hlink hguarantee (lt_of_not_ge hlate))
    have hlater : t + minutes config.preemptionLeadMinutes < b₀ := by
      by_contra hopened
      have hstarted : w.terminateAt ≤ t := by
        rw [hat, killStart_le_iff]
        exact ⟨le_of_not_gt hopened, hover⟩
      exact absurd hstarted (not_le_of_gt hearly)
    have hnone : NoneBefore s config capacity pods now w.view t :=
      fun b₁ hb₁ hrisk₁ => lt_of_lt_of_le hlater (hsoonest b₁ hb₁ hrisk₁)
    by_cases hshort : shortAt s capacity pods b now w.view.gpuClass
    · obtain ⟨-, -, -, -, hopened, -⟩ := mem_upcomingBoundaries.mp hb
      have hmem : b ∈ s.warnBoundaries config now :=
        mem_warnBoundaries_of_lt ht hb hshort hb₀ (lt_of_le_of_lt hopened hlater)
      -- were the guarantee over by the boundary, the pod would be warned of that one
      have hnotOver : ¬ overBy s now b w.view := fun hoverThen =>
        absurd (hnone b hmem ⟨htaken.1, hoverThen, hshort⟩) (not_lt_of_ge hopened)
      unfold overBy at hnotOver
      push Not at hnotOver
      obtain ⟨e, hguarantee, hafter⟩ := hnotOver
      exact hseen (.endedAfter e hguarantee hafter (hover e hguarantee) hnone)
    · exact hseen (.shortSince hshort hnone)

/-- A pod of a booking which ends five minutes after another one opened, on the only GPU. -/
def overstayingPod : PodRuntimeView where
  uid := "pod-a"
  ns := "alice"
  name := "train"
  gpuClass := "h100"
  gpuCount := 1
  reservationId := some 1
  nodeResident := true
  terminating := false

/-- Bookings of others open at 0 and at 30 minutes. -/
def openedBefore : ControllerState where
  reservations := [hourBooking 1 (minutes (-55)) (minutes 5),
    { hourBooking 2 (minutes 0) (minutes 30) with user := some ⟨2, "bob"⟩ },
    { hourBooking 3 (minutes 30) (minutes 60) with user := some ⟨2, "bob"⟩ }]

/-- At one minute the pod is warned of the fifteenth, when the kill window of the second booking
begins.  A sweep at six minutes, which still looks at the boundary at 0, may take it. -/
theorem planTerminationWarnings_late :
    ¬ ∀ (s : ControllerState) (config : Config) (capacity : Dict String Nat)
      (pods : List PodRuntimeView), (pods.map (·.uid)).Nodup → ∀ now,
        NotLate s config capacity pods now := by
  intro h
  have hlate := h openedBefore {} (Dict.ofList [("h100", 1)]) [overstayingPod] (by decide) (minutes 1)
    "pod-a" { view := overstayingPod, terminateAt := minutes 15, risk := 1, boundary := minutes 30 }
    (by decide +kernel) (minutes 6) (by decide) (by decide) (minutes 0) (by decide +kernel) "h100"
  exact hlate (by decide +kernel)

/-- The one booking ahead, and a pod whose own reservation is over. -/
def oneAhead : ControllerState where
  reservations := [hourBooking 3 (minutes 30) (minutes 60)]

/-- A pod which is taken for the only booking there is was warned of it in time. -/
theorem planTerminationWarnings_notLate_oneAhead :
    NotLate oneAhead {} (Dict.ofList [("h100", 1)]) [overstayingPod] (minutes 1) := by
  refine (planTerminationWarnings_notLate_iff oneAhead {} (Dict.ofList [("h100", 1)])
    [overstayingPod] (by decide) (minutes 1)).mpr fun p hp _ t _ b hb _ hunforeseen => ?_
  obtain rfl := List.mem_singleton.mp hp
  cases hunforeseen with
  | cut r e hlink => cases hlink
  | endedAfter e hguarantee => cases hguarantee
  | shortSince hshort =>
    obtain ⟨r, hr, -, -, -, rfl⟩ := mem_upcomingBoundaries.mp hb
    obtain rfl := List.mem_singleton.mp hr
    exact hshort (by decide +kernel)

end GpuReservation.Proofs
