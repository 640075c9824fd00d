import GpuReservation.Library.Machine
import GpuReservation.Model.QueueTick
import GpuReservation.Proofs.Occupancy

/-!
# A pod is recorded on one reservation at most

The runs of the changes the tasks of the controller make to the occupancy map.
-/

namespace GpuReservation.Proofs

open GpuReservation.Library GpuReservation.Model

/-- A change of the occupancy map, as its callers make it. -/
inductive OccupancyOp
  /-- An admission attempt records its pod, where there is room. -/
  | attempt (uid : Uid) (e : QueueEntry)
  /-- An attempt is taken back, or a pod is gone, terminal or deleted. -/
  | release (uid : Uid)
  /-- The watch sees a pod which carries the toleration. -/
  | tolerated (pod : Pod) (now : Instant)
  /-- A merge or an adoption has landed. -/
  | relink (view : PodRuntimeView) (res : ReservationResponse)
  /-- The queue tick rebuilds the map from a snapshot. -/
  | rebuild (snapshot : List Pod) (now : Instant)

def OccupancyOp.apply (s : ControllerState) : OccupancyOp → ControllerState
  | .attempt uid e =>
    if s.available e.reservation (some uid) < e.gpuRequested then s else s.reserveFor uid e
  | .release uid => s.releasePod uid
  | .tolerated pod now => s.keepWarm pod now
  | .relink view res => s.relinkOccupancy view.uid res.id view.gpuCount
  | .rebuild snapshot now => s.observeHolders snapshot now

/-- A snapshot is a LIST of the cluster: no pod is in it twice. -/
def OccupancyOp.issued : OccupancyOp → Prop
  | .rebuild snapshot _ => (snapshot.map (·.uid)).Nodup
  | _ => True

/-- The record the change makes while it leaves the pod's others alone. -/
def OccupancyOp.records (s : ControllerState) : OccupancyOp → Option (Uid × Nat)
  | .attempt uid e =>
    if s.available e.reservation (some uid) < e.gpuRequested then none
    else some (uid, e.reservation.id)
  | .tolerated pod _ => pod.bookingReference.map fun rid => (pod.uid, rid)
  | _ => none

/-- A pod is recorded where it is recorded already, or is recorded nowhere. -/
def recordsInPlace (s : ControllerState) (op : OccupancyOp) : Prop :=
  ∀ uid rid, op.records s = some (uid, rid) → ∀ rid', uid ∈ s.bucket rid' → rid' = rid

structure OccupancyUnique (s : ControllerState) : Prop where
  one : ∀ uid rid rid', uid ∈ s.bucket rid → uid ∈ s.bucket rid' → rid = rid'
  tidy : ∀ rid d, s.occupancy.get? rid = some d → d.entries ≠ []
  released : ∀ uid rid, uid ∉ (s.releasePod uid).bucket rid

section Unique

variable {s s' : ControllerState}

/-- A release finds the one record there is. -/
lemma not_mem_bucket_releasePod
    (hone : ∀ uid rid rid', uid ∈ s.bucket rid → uid ∈ s.bucket rid' → rid = rid') (uid : Uid)
    (rid : Nat) : uid ∉ (s.releasePod uid).bucket rid := by
  rw [bucket_releasePod]
  split
  · rw [Dict.mem_erase]
    exact fun h => h.1 rfl
  · rename_i hplace
    intro hmem
    cases hp : s.placeOf uid with
    | none => exact (placeOf_eq_none_iff s).mp hp rid hmem
    | some place =>
      have hrid : place = rid := hone uid place rid (mem_bucket_of_placeOf s hp) hmem
      exact hplace (hrid ▸ hp)

lemma occupancyUnique_of (hone : ∀ uid rid rid', uid ∈ s.bucket rid → uid ∈ s.bucket rid' → rid = rid')
    (htidy : ∀ rid d, s.occupancy.get? rid = some d → d.entries ≠ []) : OccupancyUnique s :=
  ⟨hone, htidy, not_mem_bucket_releasePod hone⟩

/-- Only the occupancy map matters. -/
lemma OccupancyUnique.congr (h : s'.occupancy = s.occupancy) (hs : OccupancyUnique s) :
    OccupancyUnique s' := by
  refine occupancyUnique_of (fun uid rid rid' => ?_) (fun rid d => ?_)
  · rw [ControllerState.bucket, ControllerState.bucket, h]
    exact hs.one uid rid rid'
  · rw [h]
    exact hs.tidy rid d

lemma occupancyUnique_congr (h : s'.occupancy = s.occupancy) :
    OccupancyUnique s' ↔ OccupancyUnique s :=
  ⟨.congr h.symm, .congr h⟩

lemma occupancyUnique_of_empty (h : s.occupancy = ∅) : OccupancyUnique s := by
  refine occupancyUnique_of (fun uid rid rid' hmem => ?_) (fun rid d hd => ?_)
  · rw [ControllerState.bucket, h] at hmem
    cases hmem
  · rw [h] at hd
    cases hd

/-- A record keeps the pods apart exactly where it is made in place. -/
lemma occupancyUnique_recordPlacement (hs : OccupancyUnique s) (rid : Nat) (uid : Uid) (gpus : Nat) :
    OccupancyUnique (s.recordPlacement rid uid gpus) ↔ ∀ rid', uid ∈ s.bucket rid' → rid' = rid := by
  constructor
  · intro h rid' hmem
    by_contra hne
    refine hne (h.one uid rid' rid ?_ ?_)
    · rw [bucket_recordPlacement, if_neg hne]
      exact hmem
    · rw [bucket_recordPlacement, if_pos rfl]
      exact Dict.mem_set.mpr (.inl rfl)
  · intro h
    -- where a pod is recorded now, it was recorded before, or it is this one
    have hwas : ∀ u r, u ∈ (s.recordPlacement rid uid gpus).bucket r →
        u = uid ∧ r = rid ∨ u ∈ s.bucket r := by
      intro u r hmem
      rw [bucket_recordPlacement] at hmem
      split at hmem
      · rename_i hr
        rcases Dict.mem_set.mp hmem with hu | hu
        · exact .inl ⟨hu, hr⟩
        · exact .inr (hr ▸ hu)
      · exact .inr hmem
    refine occupancyUnique_of (fun u r₁ r₂ h₁ h₂ => ?_) (fun r d hd => ?_)
    · rcases hwas u r₁ h₁ with ⟨rfl, rfl⟩ | hold₁
      · rcases hwas u r₂ h₂ with ⟨-, rfl⟩ | hold₂
        · rfl
        · exact (h r₂ hold₂).symm
      · rcases hwas u r₂ h₂ with ⟨rfl, rfl⟩ | hold₂
        · exact h r₁ hold₁
        · exact hs.one u r₁ r₂ hold₁ hold₂
    · change (s.occupancy.set rid ((s.bucket rid).set uid gpus)).get? r = some d at hd
      rw [Dict.get?_set] at hd
      split at hd
      · cases hd
        intro hempty
        have hmem : uid ∈ (s.bucket rid).set uid gpus := Dict.mem_set.mpr (.inl rfl)
        rw [eq_empty_of_entries hempty] at hmem
        cases hmem
      · exact hs.tidy r d hd

lemma mem_bucket_of_releasePod {uid u : Uid} {rid : Nat} (h : u ∈ (s.releasePod uid).bucket rid) :
    u ∈ s.bucket rid := by
  obtain ⟨g, hg⟩ := Dict.mem_iff_get?.mp h
  exact Dict.mem_iff_get?.mpr ⟨g, bucket_releasePod_get?_sub s hg⟩

lemma occupancyUnique_releasePod (hs : OccupancyUnique s) (uid : Uid) :
    OccupancyUnique (s.releasePod uid) := by
  refine occupancyUnique_of (fun u rid rid' h h' =>
    hs.one u rid rid' (mem_bucket_of_releasePod h) (mem_bucket_of_releasePod h')) (fun rid d hd => ?_)
  rw [ControllerState.releasePod] at hd
  split at hd
  · exact hs.tidy rid d hd
  · rename_i place hplace
    dsimp only at hd
    split at hd
    · rw [Dict.get?_erase] at hd
      split at hd
      · cases hd
      · exact hs.tidy rid d hd
    · rename_i hleft
      rw [Dict.get?_set] at hd
      split at hd
      · cases hd
        exact hleft
      · exact hs.tidy rid d hd

lemma occupancyUnique_relinkOccupancy (hs : OccupancyUnique s) (uid : Uid) (rid gpus : Nat) :
    OccupancyUnique (s.relinkOccupancy uid rid gpus) :=
  (occupancyUnique_recordPlacement (occupancyUnique_releasePod hs uid) rid uid gpus).mpr
    fun rid' hmem => absurd hmem (hs.released uid rid')

/-- The map is rebuilt record by record. -/
lemma reconcileOccupancy_eq (placements : List (Nat × Uid × Nat)) :
    s.reconcileOccupancy placements =
      placements.foldl (fun s p => s.recordPlacement p.1 p.2.1 p.2.2) { s with occupancy := ∅ } := by
  have hfold : ∀ (l : List (Nat × Uid × Nat)) (d : Dict Nat (Dict Uid Nat)),
      ({ s with occupancy := l.foldl ControllerState.addPlacement d } : ControllerState) =
        l.foldl (fun s p => s.recordPlacement p.1 p.2.1 p.2.2) { s with occupancy := d } := by
    intro l
    induction l with
    | nil => exact fun d => rfl
    | cons p l ih => exact fun d => ih (ControllerState.addPlacement d p)
  exact hfold placements ∅

lemma occupancyUnique_records {l : List (Nat × Uid × Nat)} (hl : (l.map fun p => p.2.1).Nodup)
    (hs : OccupancyUnique s) (hnew : ∀ uid ∈ l.map (fun p => p.2.1), ∀ rid, uid ∉ s.bucket rid) :
    OccupancyUnique (l.foldl (fun s p => s.recordPlacement p.1 p.2.1 p.2.2) s) := by
  induction l generalizing s with
  | nil => exact hs
  | cons p l ih =>
    obtain ⟨hp, hl⟩ := List.nodup_cons.mp hl
    refine ih hl ?_ fun uid huid rid hmem => ?_
    · exact (occupancyUnique_recordPlacement hs p.1 p.2.1 p.2.2).mpr fun rid' hmem =>
        absurd hmem (hnew p.2.1 List.mem_cons_self rid')
    · have hne : uid ≠ p.2.1 := by
        rintro rfl
        exact hp huid
      have hold : uid ∉ s.bucket rid := hnew uid (List.mem_cons_of_mem _ huid) rid
      rw [bucket_recordPlacement] at hmem
      split at hmem
      · rename_i hrid
        rcases Dict.mem_set.mp hmem with h | h
        · exact hne h
        · exact hold (hrid ▸ h)
      · exact hold hmem

lemma occupancyUnique_reconcileOccupancy {l : List (Nat × Uid × Nat)}
    (hl : (l.map fun p => p.2.1).Nodup) : OccupancyUnique (s.reconcileOccupancy l) := by
  rw [reconcileOccupancy_eq]
  refine occupancyUnique_records hl (occupancyUnique_of_empty rfl) fun uid _ rid hmem => ?_
  cases hmem

lemma markPodSeenForNoshow_occupancy (s : ControllerState) (ns label : String) (rid : Option Nat)
    (group : Option String) (now : Instant) :
    (s.markPodSeenForNoshow ns label rid group now).occupancy = s.occupancy := by
  unfold ControllerState.markPodSeenForNoshow
  split
  · split
    · rfl
    · split <;> rfl
  · split <;> rfl

lemma keepWarm_occupancy (s : ControllerState) (pod : Pod) (now : Instant) :
    (s.keepWarm pod now).occupancy =
      match pod.bookingReference with
      | none => s.occupancy
      | some rid => (s.recordPlacement rid pod.uid pod.gpuCount).occupancy := by
  have hseen := markPodSeenForNoshow_occupancy (s.forgetPod pod.uid) pod.ns pod.gpuClass
    pod.bookingReference pod.groupLabel now
  rw [ControllerState.keepWarm]
  cases hb : pod.bookingReference with
  | none => rw [hb] at hseen; exact hseen
  | some rid =>
    rw [hb] at hseen
    change Dict.set _ rid (Dict.set _ pod.uid pod.gpuCount) =
      s.occupancy.set rid ((s.bucket rid).set pod.uid pod.gpuCount)
    rw [ControllerState.bucket, hseen]
    rfl

lemma liveHolders_uids_sublist (snapshot : List Pod) :
    ((liveHolders snapshot).map fun h => h.2.uid).Sublist (snapshot.map (·.uid)) := by
  have hpairs : ∀ l : List Pod, ((l.filterMap fun p => p.bookingReference.map fun rid =>
      (rid, p)).map fun h => h.2.uid).Sublist (l.map (·.uid)) := by
    intro l
    induction l with
    | nil => exact .slnil
    | cons p l ih =>
      cases hb : p.bookingReference with
      | none => simpa [hb] using ih.cons _
      | some rid => simpa [hb] using ih
  exact (hpairs _).trans (List.filter_sublist.map _)

/-- A change keeps the pods apart exactly where what it records is recorded in place. -/
theorem occupancyUnique_apply (s : ControllerState) (op : OccupancyOp) (hs : OccupancyUnique s)
    (hop : op.issued) : OccupancyUnique (op.apply s) ↔ recordsInPlace s op := by
  cases op with
  | attempt uid e =>
    rw [recordsInPlace, OccupancyOp.apply, OccupancyOp.records]
    split
    · exact iff_of_true hs fun _ _ h => by cases h
    · have hsame : (s.reserveFor uid e).occupancy =
          (s.recordPlacement e.reservation.id uid e.gpuRequested).occupancy := rfl
      rw [occupancyUnique_congr hsame, occupancyUnique_recordPlacement hs]
      exact ⟨fun h _ _ heq => by cases heq; exact h, fun h => h _ _ rfl⟩
  | release uid => exact iff_of_true (occupancyUnique_releasePod hs uid) fun _ _ h => by cases h
  | tolerated pod now =>
    rw [recordsInPlace, OccupancyOp.apply, OccupancyOp.records]
    have hkeep := keepWarm_occupancy s pod now
    cases hb : pod.bookingReference with
    | none =>
      rw [hb] at hkeep
      exact iff_of_true (.congr hkeep hs) fun _ _ h => by cases h
    | some rid =>
      rw [hb] at hkeep
      rw [occupancyUnique_congr hkeep, occupancyUnique_recordPlacement hs]
      exact ⟨fun h _ _ heq => by cases heq; exact h, fun h => h _ _ rfl⟩
  | relink view res =>
    exact iff_of_true (occupancyUnique_relinkOccupancy hs _ _ _) fun _ _ h => by cases h
  | rebuild snapshot now =>
    refine iff_of_true (.congr (s := s.reconcileOccupancy _) rfl
      (occupancyUnique_reconcileOccupancy ?_)) fun _ _ h => by cases h
    rw [List.map_map]
    exact hop.sublist (liveHolders_uids_sublist snapshot)

end Unique

/-- From an empty map on, each pod is recorded on one reservation at most, no bucket is empty and a
release leaves no record of its pod, exactly where every record of the run is made in place. -/
theorem occupancyUnique_throughout_iff (s : ControllerState) (ops : List OccupancyOp)
    (hstart : s.occupancy = ∅) (hissued : ∀ op ∈ ops, op.issued) :
    throughout OccupancyOp.apply OccupancyUnique s ops ↔
      respects OccupancyOp.apply recordsInPlace s ops := by
  exact throughout_iff_respects (D := fun _ op => op.issued) occupancyUnique_apply
    (occupancyUnique_of_empty hstart) (respects_of_forall fun op hop _ => hissued op hop)

/-- A pod which runs under lease 1. -/
def leasedPod : Pod where
  uid := "A"
  ns := "ns"
  name := "a"
  gpuClass := "c"
  gpuCount := 1
  phase := .running
  bookingReference := some 1

def leasedView : PodRuntimeView where
  uid := "A"
  ns := "ns"
  name := "a"
  gpuClass := "c"
  gpuCount := 1
  reservationId := some 1
  nodeResident := true
  terminating := false

def openBooking : ReservationResponse where
  id := 2
  gpuClassId := 1
  gpuClass := { id := 1, name := "c" }
  startUtc := 0
  endUtc := 100
  gpuCount := 1

/-- The watch sees the pod, and a merge moves it. -/
def mergedPod : List OccupancyOp := [.tolerated leasedPod 0, .relink leasedView openBooking]

theorem occupancyUnique_throughout_iff_mergedPod :
    throughout OccupancyOp.apply OccupancyUnique {} mergedPod := by
  refine (occupancyUnique_throughout_iff {} mergedPod rfl ?_).mpr ⟨?_, ?_, trivial⟩
  · simp [mergedPod, OccupancyOp.issued]
  · rintro uid rid - rid' hmem
    cases hmem
  · intro uid rid h
    cases h

/-- An event from before the merge, handled after it, records the pod a second time. -/
theorem occupancyUnique_not_throughout :
    ¬ ∀ (s : ControllerState) (ops : List OccupancyOp), s.occupancy = ∅ →
      (∀ op ∈ ops, op.issued) → throughout OccupancyOp.apply OccupancyUnique s ops := by
  intro h
  have hrun := h {} (mergedPod ++ [.tolerated leasedPod 1]) rfl
    (by simp [mergedPod, OccupancyOp.issued])
  have htwice := (throughout_last hrun).one "A" 1 2 (by decide +kernel) (by decide +kernel)
  exact absurd htwice (by decide)

end GpuReservation.Proofs
