import GpuReservation.Model.RiskForecast
import GpuReservation.Proofs.TerminationWarnings
import Mathlib.Order.Interval.Set.Basic

/-!
# The forecast risk of a pod

The risk of a bucket combines the risks of the boundaries whose kill window meets it.  It is a
probability and spares the guarantees; but pods on excluded nodes, which no boundary takes, are shown a
risk as well.
-/

namespace GpuReservation.Proofs

open GpuReservation.Library GpuReservation.Model

section Combined

/-- The product of numbers of the unit interval is one of them, and less than one exactly if one of
them is. -/
lemma prod_of_mem_unit {l : List ℚ} (h : ∀ x ∈ l, 0 ≤ x ∧ x ≤ 1) :
    0 ≤ l.prod ∧ l.prod ≤ 1 ∧ (l.prod < 1 ↔ ∃ x ∈ l, x < 1) := by
  induction l with
  | nil => simp
  | cons x l ih =>
    obtain ⟨⟨hx0, hx1⟩, hl⟩ := List.forall_mem_cons.mp h
    obtain ⟨h0, h1, hlt⟩ := ih hl
    rw [List.prod_cons, List.exists_mem_cons_iff, ← hlt]
    refine ⟨mul_nonneg hx0 h0, mul_le_one₀ hx1 h0 h1, fun hmul => ?_, fun hor => ?_⟩
    · by_contra hnot
      rw [not_or, not_lt, not_lt] at hnot
      rw [le_antisymm hx1 hnot.1, le_antisymm h1 hnot.2, one_mul] at hmul
      exact lt_irrefl 1 hmul
    · rcases hor with hx | hprod
      · exact mul_lt_one_of_nonneg_of_lt_one_left hx0 hx h1
      · exact mul_lt_one_of_nonneg_of_lt_one_right hx1 h0 hprod

variable (risks : List ℚ)

lemma foldl_survival (a : ℚ) : risks.foldl (fun survival r => survival * (1 - min 1 (max 0 r))) a =
    a * (risks.map fun r => 1 - min 1 (max 0 r)).prod := by
  induction risks generalizing a with
  | nil => simp
  | cons r risks ih =>
    rw [List.foldl_cons, ih, List.map_cons, List.prod_cons, mul_assoc]

lemma combineRisks_unit : 0 ≤ combineRisks risks ∧ combineRisks risks ≤ 1 :=
  ⟨le_min zero_le_one (le_max_left _ _), min_le_left _ _⟩

/-- There is a risk exactly if one of the parts is a risk. -/
lemma combineRisks_pos_iff : 0 < combineRisks risks ↔ ∃ r ∈ risks, 0 < r := by
  have hunit : ∀ x ∈ risks.map fun r => 1 - min 1 (max 0 r), 0 ≤ x ∧ x ≤ 1 := by
    intro x hx
    obtain ⟨r, -, rfl⟩ := List.mem_map.mp hx
    have h0 : (0 : ℚ) ≤ min 1 (max 0 r) := le_min zero_le_one (le_max_left _ _)
    have h1 : min 1 (max 0 r) ≤ 1 := min_le_left _ _
    exact ⟨sub_nonneg.mpr h1, sub_le_self 1 h0⟩
  obtain ⟨-, -, hlt⟩ := prod_of_mem_unit hunit
  unfold combineRisks
  rw [foldl_survival, one_mul, lt_min_iff, lt_max_iff, sub_pos, hlt]
  simp

end Combined

section Buckets

variable {start end_ : Instant} {buckets : List Bucket}

lemma mem_overlappingBucketIndices {i : Nat} : i ∈ overlappingBucketIndices start end_ buckets ↔
    ∃ b, buckets[i]? = some b ∧ start < b.end_ ∧ b.start ≤ end_ := by
  unfold overlappingBucketIndices
  simp only [List.mem_map, List.mem_filter, Prod.exists, exists_eq_right, List.mem_zipIdx_iff_getElem?,
    Bool.and_eq_true, decide_eq_true_eq]

/-- A list beside what comes of each of its members at its place. -/
lemma mem_zip_map_zipIdx {α β : Type*} {l : List α} {f : α × Nat → β} {x : α × β} :
    x ∈ l.zip (l.zipIdx.map f) ↔ ∃ i : Nat, l[i]? = some x.1 ∧ x.2 = f (x.1, i) := by
  rw [List.mem_iff_getElem?]
  refine exists_congr fun i => ?_
  rw [List.getElem?_zip_eq_some, List.getElem?_map, List.getElem?_zipIdx]
  refine and_congr_right fun hi => ?_
  rw [hi]
  simp [eq_comm]

/-- The instants of the bucket. -/
def span (b : Bucket) : Set Instant := Set.Ico b.start b.end_

/-- When the boundary may take the pod: at most `lead` ahead, and not before the guarantee ends. -/
def killWindow (boundary : Instant) (lead : Int) (guaranteeEnd : Option Instant) : Set Instant :=
  Set.Icc (guaranteeEnd.elim (boundary - lead) (max (boundary - lead))) boundary

lemma killStart_eq (boundary : Instant) (lead : Int) (guaranteeEnd : Option Instant) :
    ControllerState.killStart boundary lead guaranteeEnd =
      guaranteeEnd.elim (boundary - lead) (max (boundary - lead)) := by
  unfold ControllerState.killStart
  cases guaranteeEnd with
  | none => rfl
  | some e =>
    dsimp only [Option.elim_some]
    split
    · rename_i hlt
      exact (max_eq_right (le_of_lt hlt)).symm
    · rename_i hle
      exact (max_eq_left (not_lt.mp hle)).symm

lemma meets_iff {b : Bucket} (h : start ≤ end_) :
    (Set.Icc start end_ ∩ span b).Nonempty ↔ start < b.end_ ∧ b.start ≤ end_ := by
  constructor
  · rintro ⟨t, ⟨hstart, hend⟩, hfrom, hto⟩
    exact ⟨lt_of_le_of_lt hstart hto, le_trans hfrom hend⟩
  · rintro ⟨hstart, hend⟩
    exact ⟨max start b.start, ⟨le_max_left _ _, max_le h hend⟩, le_max_right _ _,
      max_lt hstart b.start_lt_end⟩

lemma killWindow_meets_iff {boundary : Instant} {lead : Int} {guaranteeEnd : Option Instant} {b : Bucket}
    (hlead : 0 ≤ lead) (hover : ∀ e, guaranteeEnd = some e → e ≤ boundary) :
    (killWindow boundary lead guaranteeEnd ∩ span b).Nonempty ↔
      ControllerState.killStart boundary lead guaranteeEnd < b.end_ ∧ b.start ≤ boundary := by
  have hle : ControllerState.killStart boundary lead guaranteeEnd ≤ boundary :=
    killStart_le_iff.mpr ⟨le_add_of_nonneg_right hlead, hover⟩
  rw [← meets_iff hle, killStart_eq]
  rfl

end Buckets

section Forecast

variable (s : ControllerState) (capacity : Dict String Nat) (pods : List PodRuntimeView)
  (now : Instant) (lead : Int)

/-- The boundary comes to a risk of the pod in the bucket. -/
structure RisksPod (p : PodRuntimeView) (bucket : Bucket) (b : Instant) : Prop where
  gpus : 0 < p.gpuCount
  ended : overBy s now b p
  short : shortAt s capacity pods b now p.gpuClass
  pool : ∃ q ∈ pods, killable p.gpuClass q ∧ overBy s now b q
  meets : (killWindow b lead (s.guaranteeEnd p.reservationId now) ∩ span bucket).Nonempty

variable {s capacity pods now lead} {p : PodRuntimeView}

lemma killsNeeded_pos_iff (b : Instant) (gpuClass : String) :
    0 < ((forecastAt s capacity pods now b).killsNeededByClass.get? gpuClass).getD 0 ↔
      shortAt s capacity pods b now gpuClass := by
  rw [forecast_kills, shortAt]
  split
  · rename_i henough
    exact iff_of_false (lt_irrefl 0) (not_lt.mpr henough)
  · rename_i hshort
    rw [Option.getD_some]
    omega

lemma boundaryRisk_pos_iff (hpods : (pods.map (·.uid)).Nodup) (b : Instant) :
    (∃ r, boundaryRisk p (s.guaranteeEnd p.reservationId now) (forecastAt s capacity pods now b) =
        some r ∧ 0 < r) ↔
      0 < p.gpuCount ∧ shortAt s capacity pods b now p.gpuClass ∧ overBy s now b p ∧
        ∃ q ∈ pods, killable p.gpuClass q ∧ overBy s now b q := by
  have hover : (s.guaranteeEnd p.reservationId now).any (b < ·) = false ↔ overBy s now b p := by
    rw [overBy]
    cases s.guaranteeEnd p.reservationId now <;> simp
  have hpool : 0 < ((forecastAt s capacity pods now b).poolGpusByClass.get? p.gpuClass).getD 0 ↔
      ∃ q ∈ pods, killable p.gpuClass q ∧ overBy s now b q := forecast_poolGpus_pos_iff hpods p.gpuClass
  have hboundary : (forecastAt s capacity pods now b).boundary = b := rfl
  rw [← killsNeeded_pos_iff, ← hover, ← hpool]
  unfold boundaryRisk
  rw [hboundary]
  dsimp only
  split
  · rename_i hnone
    constructor
    · rintro ⟨r, hr, -⟩
      cases hr
    · rintro ⟨hgpus, hkills, hge, hpool⟩
      simp only [Bool.or_eq_true, decide_eq_true_eq, hge, Bool.false_eq_true, or_false] at hnone
      omega
  · rename_i hsome
    simp only [Bool.or_eq_true, decide_eq_true_eq, not_or, Bool.not_eq_true] at hsome
    obtain ⟨⟨⟨hgpus, hkills⟩, hge⟩, hpool⟩ := hsome
    refine iff_of_true ⟨_, rfl, ?_⟩ ⟨Nat.pos_of_ne_zero hgpus, Nat.pos_of_ne_zero hkills, hge,
      Nat.pos_of_ne_zero hpool⟩
    exact lt_min one_pos (div_pos (Nat.cast_pos.mpr (Nat.pos_of_ne_zero hkills))
      (Nat.cast_pos.mpr (Nat.pos_of_ne_zero hpool)))

/-- A bucket shows a risk exactly if one of the boundaries comes to a risk in it. -/
lemma risk_pos_iff (hpods : (pods.map (·.uid)).Nodup) (hlead : 0 ≤ lead) {boundaries : List Instant}
    {buckets : List Bucket} {bucket : Bucket} {i : Nat} (hi : buckets[i]? = some bucket) :
    0 < combineRisks (riskParts (boundaries.map (forecastAt s capacity pods now)) lead buckets p
        (s.guaranteeEnd p.reservationId now) i) ↔
      ∃ b ∈ boundaries, RisksPod s capacity pods now lead p bucket b := by
  rw [combineRisks_pos_iff]
  unfold riskParts
  simp only [List.mem_filterMap, List.mem_filter, List.mem_map, decide_eq_true_eq]
  constructor
  · rintro ⟨r, ⟨_, ⟨⟨b, hb, rfl⟩, hwindow⟩, hr⟩, hpos⟩
    obtain ⟨hgpus, hshort, hover, hpool⟩ := (boundaryRisk_pos_iff hpods b).mp ⟨r, hr, hpos⟩
    obtain ⟨bucket', hbucket, hmeets⟩ := mem_overlappingBucketIndices.mp hwindow
    cases hi.symm.trans hbucket
    exact ⟨b, hb, hgpus, hover, hshort, hpool, (killWindow_meets_iff hlead hover).mpr hmeets⟩
  · rintro ⟨b, hb, h⟩
    obtain ⟨r, hr, hpos⟩ := (boundaryRisk_pos_iff hpods b).mpr ⟨h.gpus, h.short, h.ended, h.pool⟩
    have hwindow := mem_overlappingBucketIndices.mpr
      ⟨bucket, hi, (killWindow_meets_iff hlead h.ended).mp h.meets⟩
    exact ⟨r, ⟨_, ⟨⟨b, hb, rfl⟩, hwindow⟩, hr⟩, hpos⟩

/-- A bucket which the guarantee covers has no instant of a kill window. -/
lemma not_meets_of_guaranteed {b : Instant} {ge : Option Instant} {bucket : Bucket}
    (h : bucketState ge bucket = .guaranteed) : ¬ (killWindow b lead ge ∩ span bucket).Nonempty := by
  rintro ⟨t, ⟨hstart, -⟩, -, hend⟩
  unfold bucketState at h
  cases ge with
  | none => cases h
  | some e =>
    dsimp only at h
    split at h
    · cases h
    · split at h
      · rename_i hcovered
        exact absurd (lt_of_le_of_lt (le_trans (le_max_right _ _) hstart) hend) (not_lt.mpr hcovered)
      · cases h

end Forecast

section Honest

variable (s : ControllerState) (capacity : Dict String Nat) (pods : List PodRuntimeView)
  (now : Instant) (lead : Int) (buckets : List Bucket) (horizonEnd : Instant)

/-- What a bucket of a pod promises. -/
structure HonestRisk (bucket : Bucket) (p : PodRuntimeView) (r : PodBucketRisk) : Prop where
  probability : 0 ≤ r.risk ∧ r.risk ≤ 1
  guaranteed : r.state = .guaranteed → r.risk = 0
  candidate : 0 < r.risk → ∃ b ∈ s.forecastBoundaries now (horizonEnd + lead),
    p ∈ ((forecastAt s capacity pods now b).eligibleByClass.get? p.gpuClass).getD [] ∧
      p.gpuClass ∈ (forecastAt s capacity pods now b).killsNeededByClass ∧
        (killWindow b lead (s.guaranteeEnd p.reservationId now) ∩ span bucket).Nonempty

/-- Every bucket of every pod of the forecast keeps its promise. -/
def HonestForecast (pending : List OnDemandCandidate) : Prop :=
  ∀ f ∈ (s.forecastOver buckets horizonEnd capacity pods pending now lead).pods,
    ∀ x ∈ buckets.zip f.buckets, HonestRisk s capacity pods now lead horizonEnd x.1 f.view x.2

/-- A running pod of an excluded node, whose class is short at a boundary with other pods to take
when the pod's own guarantee is over. -/
structure ExcludedAtRisk (p : PodRuntimeView) (bucket : Bucket) (b : Instant) : Prop where
  excluded : p.nodeExcluded = true
  admitted : p.reservationId.isSome
  resident : p.nodeResident = true
  running : p.terminating = false
  risks : RisksPod s capacity pods now lead p bucket b

variable {s capacity pods now lead buckets horizonEnd} {p : PodRuntimeView}

/-- A pod which a boundary may take is on a counted node. -/
lemma candidate_iff (hpods : (pods.map (·.uid)).Nodup) (hp : p ∈ pods) (hadmitted : p.reservationId.isSome)
    (hresident : p.nodeResident = true) (hrunning : p.terminating = false) {bucket : Bucket}
    {b : Instant} (h : RisksPod s capacity pods now lead p bucket b) :
    p ∈ ((forecastAt s capacity pods now b).eligibleByClass.get? p.gpuClass).getD [] ↔
      p.nodeExcluded = false := by
  rw [mem_forecast_eligible hpods]
  constructor
  · rintro ⟨-, hkill, -⟩
    exact hkill.2.2.2.1
  · exact fun hcounted =>
      ⟨hp, ⟨rfl, hadmitted, hresident, hcounted, hrunning, h.gpus⟩, h.ended⟩

lemma honestRisk_iff (hpods : (pods.map (·.uid)).Nodup) (hlead : 0 ≤ lead) (hp : p ∈ pods)
    (hadmitted : p.reservationId.isSome) (hresident : p.nodeResident = true)
    (hrunning : p.terminating = false) {bucket : Bucket} {i : Nat} (hi : buckets[i]? = some bucket) :
    HonestRisk s capacity pods now lead horizonEnd bucket p
        { risk := combineRisks (riskParts ((s.forecastBoundaries now (horizonEnd + lead)).map
            (forecastAt s capacity pods now)) lead buckets p (s.guaranteeEnd p.reservationId now) i)
          state := bucketState (s.guaranteeEnd p.reservationId now) bucket } ↔
      ∀ b ∈ s.forecastBoundaries now (horizonEnd + lead),
        ¬ ExcludedAtRisk s capacity pods now lead p bucket b := by
  have hpos : 0 < combineRisks (riskParts ((s.forecastBoundaries now (horizonEnd + lead)).map
        (forecastAt s capacity pods now)) lead buckets p (s.guaranteeEnd p.reservationId now) i) ↔
      ∃ b ∈ s.forecastBoundaries now (horizonEnd + lead),
        RisksPod s capacity pods now lead p bucket b := risk_pos_iff hpods hlead hi
  constructor
  · intro h b hb hexcluded
    obtain ⟨b', -, heligible, -⟩ := h.candidate (hpos.mpr ⟨b, hb, hexcluded.risks⟩)
    have hcounted := ((mem_forecast_eligible hpods).mp heligible).2.1.2.2.2.1
    exact Bool.false_ne_true (hcounted.symm.trans hexcluded.excluded)
  · intro h
    refine ⟨combineRisks_unit _, fun hguaranteed => ?_, fun hrisk => ?_⟩
    · refine le_antisymm (not_lt.mp fun hrisk => ?_) (combineRisks_unit _).1
      obtain ⟨b, -, hrisks⟩ := hpos.mp hrisk
      exact not_meets_of_guaranteed hguaranteed hrisks.meets
    · obtain ⟨b, hb, hrisks⟩ := hpos.mp hrisk
      have hcounted : p.nodeExcluded = false := by
        by_contra hexcluded
        exact h b hb ⟨by simpa using hexcluded, hadmitted, hresident, hrunning, hrisks⟩
      have hshort : p.gpuClass ∈ (forecastAt s capacity pods now b).killsNeededByClass := by
        have hkills := (killsNeeded_pos_iff b p.gpuClass).mpr hrisks.short
        rw [Dict.mem_iff_get?]
        cases hget : (forecastAt s capacity pods now b).killsNeededByClass.get? p.gpuClass with
        | none => exact absurd hkills (by simp [hget])
        | some n => exact ⟨n, rfl⟩
      exact ⟨b, hb, (candidate_iff hpods hp hadmitted hresident hrunning hrisks).mpr hcounted, hshort,
        hrisks.meets⟩

end Honest

/-- The forecast keeps its promises exactly if it has no risk to show for a pod of an excluded node. -/
theorem forecastOver_honest_iff (s : ControllerState) (capacity : Dict String Nat)
    (pods : List PodRuntimeView) (hpods : (pods.map (·.uid)).Nodup) (pending : List OnDemandCandidate)
    (now : Instant) (lead : Int) (hlead : 0 < lead) (buckets : List Bucket) (horizonEnd : Instant) :
    HonestForecast s capacity pods now lead buckets horizonEnd pending ↔
      ∀ p ∈ pods, ∀ bucket ∈ buckets, ∀ b ∈ s.forecastBoundaries now (horizonEnd + lead),
        ¬ ExcludedAtRisk s capacity pods now lead p bucket b := by
  have hguarantee : ∀ p ∈ pods, p.reservationId.isSome →
      ((s.guaranteeEndByUid pods now).get? p.uid).join = s.guaranteeEnd p.reservationId now := by
    intro p hp hadmitted
    rw [get?_guaranteeEndByUid hpods hp hadmitted]
    rfl
  constructor
  · intro h p hp bucket hbucket b hb hexcluded
    obtain ⟨i, hi⟩ := List.mem_iff_getElem?.mp hbucket
    have hadmitted := hexcluded.admitted
    have hmem : podForecast ((s.forecastBoundaries now (horizonEnd + lead)).map
        (forecastAt s capacity pods now)) lead buckets p (s.guaranteeEnd p.reservationId now) ∈
          (s.forecastOver buckets horizonEnd capacity pods pending now lead).pods := by
      rw [← hguarantee p hp hadmitted]
      refine List.mem_map_of_mem (List.mem_filter.mpr ⟨hp, ?_⟩)
      rw [hadmitted, hexcluded.resident, hexcluded.running]
      rfl
    have hhonest := (honestRisk_iff hpods (le_of_lt hlead) hp hadmitted hexcluded.resident
      hexcluded.running hi).mp (h _ hmem (bucket, _) ?_)
    · exact hhonest b hb hexcluded
    · exact mem_zip_map_zipIdx.mpr ⟨i, hi, rfl⟩
  · intro h f hf x hx
    obtain ⟨p, hadmitted, rfl⟩ := List.mem_map.mp hf
    obtain ⟨hp, hruns⟩ := List.mem_filter.mp hadmitted
    rw [Bool.and_eq_true, Bool.and_eq_true, Bool.not_eq_true'] at hruns
    obtain ⟨⟨hreserved, hresident⟩, hrunning⟩ := hruns
    obtain ⟨i, hi, hrisk⟩ := mem_zip_map_zipIdx.mp hx
    rw [hrisk, hguarantee p hp hreserved]
    exact (honestRisk_iff hpods (le_of_lt hlead) hp hreserved hresident hrunning hi).mpr
      (h p hp x.1 (List.mem_of_getElem? hi))

/-- Where all nodes are counted, the forecast keeps its promises. -/
theorem forecastOver_honest_counted : HonestForecast oneAhead (Dict.ofList [("h100", 1)])
    [overstayingPod] (minutes 1) (minutes 15) (forecastBuckets (minutes 1) forecastBucketCount)
    (minutes 180) [] := by
  refine (forecastOver_honest_iff oneAhead (Dict.ofList [("h100", 1)]) [overstayingPod] (by decide) []
    (minutes 1) (minutes 15) (by decide) (forecastBuckets (minutes 1) forecastBucketCount)
    (minutes 180)).mpr fun p hp _ _ _ _ hexcluded => ?_
  obtain rfl := List.mem_singleton.mp hp
  cases hexcluded.excluded

/-- Another pod whose reservation is over, on a node the snapshot leaves out. -/
def excludedPod : PodRuntimeView := { overstayingPod with uid := "pod-b", nodeExcluded := true }

/-- The booking ahead is going to take the pod of the counted node, and its risk is shown for the other
one as well. -/
theorem forecastOver_not_honest : ¬ ∀ (s : ControllerState) (capacity : Dict String Nat)
    (pods : List PodRuntimeView), (pods.map (·.uid)).Nodup → ∀ pending now lead, 0 < lead →
      ∀ buckets horizonEnd, HonestForecast s capacity pods now lead buckets horizonEnd pending := by
  intro h
  have hhonest := h oneAhead (Dict.ofList [("h100", 1)]) [overstayingPod, excludedPod] (by decide) []
    (minutes 1) (minutes 15) (by decide) (forecastBuckets (minutes 1) forecastBucketCount) (minutes 180)
    { view := excludedPod, guaranteeEnd := none,
      buckets := [⟨1, .overstay⟩, ⟨0, .overstay⟩, ⟨0, .overstay⟩] } (by decide +kernel)
    (⟨minutes 1, minutes 60, by decide⟩, ⟨1, .overstay⟩) (by decide +kernel)
  obtain ⟨b, -, heligible, -⟩ := hhonest.candidate one_pos
  have hcounted := ((mem_forecast_eligible (by decide)).mp heligible).2.1.2.2.2.1
  cases hcounted

end GpuReservation.Proofs
