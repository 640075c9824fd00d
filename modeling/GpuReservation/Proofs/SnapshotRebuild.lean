import GpuReservation.Proofs.NodeMaps

/-!
# A snapshot of the pods does not undo what came after it

Snapshots and changes of single pods interleave: a change is remembered until a snapshot is taken
which must have seen it.
-/

namespace GpuReservation.Proofs

open GpuReservation.Library GpuReservation.Model

/-- The change an update makes to the record of pod `uid`, if it makes one; else the one before. -/
def noteChange (uid : Uid) (last : Option (Instant × Option GpuPod)) :
    NodeUpdate → Option (Instant × Option GpuPod)
  | .set changed record now => if changed = uid then some (now, record) else last
  | _ => last

/-- The last change of pod `uid` in a history. -/
def lastChange (uid : Uid) (us : List NodeUpdate) : Option (Instant × Option GpuPod) :=
  us.foldl (noteChange uid) none

def snapshotTime : NodeUpdate → Option Instant
  | .rebuild _ takenAt => some takenAt
  | _ => none

/-- The times the snapshots of a history were taken at. -/
def snapshotTimes (us : List NodeUpdate) : List Instant := us.filterMap snapshotTime

section Merge

/-- What is held after a rebuild, from what is remembered and what the snapshot has. -/
def mergedRecord (takenAt : Instant) (listed : Option GpuPod) :
    Option (Instant × Option GpuPod) → Option GpuPod
  | none => listed
  | some change => if change.1 < takenAt then listed else change.2

lemma get?_keepChange (takenAt : Instant) (merged : Dict Uid GpuPod)
    (change : Uid × Instant × Option GpuPod) (uid : Uid) :
    (ControllerState.keepChange takenAt merged change).get? uid =
      if change.1 = uid then mergedRecord takenAt (merged.get? uid) (some change.2)
      else merged.get? uid := by
  obtain ⟨changed, now, record⟩ := change
  rw [ControllerState.keepChange, mergedRecord]
  dsimp only
  by_cases hold : now < takenAt
  · simp [hold]
  · cases record with
    | none =>
      rw [if_neg hold, if_neg hold, Dict.get?_erase]
      simp only [eq_comm]
    | some r =>
      rw [if_neg hold, if_neg hold, Dict.get?_set]
      simp only [eq_comm]

/-- Each pod has one change at most which is remembered. -/
lemma get?_foldl_keepChange (changes : Dict Uid (Instant × Option GpuPod)) (takenAt : Instant)
    (pods : Dict Uid GpuPod) (uid : Uid) :
    (changes.entries.foldl (ControllerState.keepChange takenAt) pods).get? uid =
      mergedRecord takenAt (pods.get? uid) (changes.get? uid) := by
  rw [Dict.get?_foldl_entries (ControllerState.keepChange takenAt)
    (fun listed change => mergedRecord takenAt listed (some change)) (get?_keepChange takenAt)]
  cases changes.get? uid <;> rfl

end Merge

/-- What is remembered is the last change; one which was forgotten is older than a snapshot. -/
structure ChangesKept (us : List NodeUpdate) (s : ControllerState) : Prop where
  kept : ∀ uid change, s.gpuPodChanges.get? uid = some change → lastChange uid us = some change
  pruned : ∀ uid change, lastChange uid us = some change → s.gpuPodChanges.get? uid = none →
    ∃ takenAt ∈ snapshotTimes us, change.1 < takenAt

lemma lastChange_snoc (uid : Uid) (us : List NodeUpdate) (u : NodeUpdate) :
    lastChange uid (us ++ [u]) = noteChange uid (lastChange uid us) u := by
  rw [lastChange, List.foldl_append]
  rfl

lemma snapshotTimes_snoc (us : List NodeUpdate) (u : NodeUpdate) :
    snapshotTimes (us ++ [u]) = snapshotTimes us ++ (snapshotTime u).toList := by
  rw [snapshotTimes, List.filterMap_append, snapshotTimes]
  cases h : snapshotTime u <;> simp [h]

lemma changesKept_updateNodes {us : List NodeUpdate} {s : ControllerState} (h : ChangesKept us s)
    (u : NodeUpdate) : ChangesKept (us ++ [u]) (s.updateNodes u) := by
  cases u with
  | install nodes =>
    refine ⟨fun uid change hget => ?_, fun uid change hlast hget => ?_⟩
    · rw [lastChange_snoc]
      exact h.kept uid change hget
    · rw [lastChange_snoc] at hlast
      rw [snapshotTimes_snoc]
      obtain ⟨takenAt, htaken, hlt⟩ := h.pruned uid change hlast hget
      exact ⟨takenAt, List.mem_append_left _ htaken, hlt⟩
  | rebuild pods takenAt =>
    have hchanges : ∀ uid, (s.updateNodes (.rebuild pods takenAt)).gpuPodChanges.get? uid =
        (s.gpuPodChanges.get? uid).filter fun change => takenAt ≤ change.1 := by
      intro uid
      exact Dict.get?_filter (fun _ (change : Instant × Option GpuPod) => decide (takenAt ≤ change.1))
        s.gpuPodChanges uid
    refine ⟨fun uid change hget => ?_, fun uid change hlast hget => ?_⟩
    · rw [hchanges, Option.filter_eq_some_iff] at hget
      rw [lastChange_snoc]
      exact h.kept uid change hget.1
    · rw [lastChange_snoc] at hlast
      rw [hchanges, Option.filter_eq_none_iff] at hget
      rw [snapshotTimes_snoc]
      by_cases hforgotten : s.gpuPodChanges.get? uid = none
      · obtain ⟨earlier, hearlier, hlt⟩ := h.pruned uid change hlast hforgotten
        exact ⟨earlier, List.mem_append_left _ hearlier, hlt⟩
      · obtain ⟨kept, hkept⟩ := Option.ne_none_iff_exists'.mp hforgotten
        have hsame : kept = change := Option.some_inj.mp ((h.kept uid kept hkept).symm.trans hlast)
        subst hsame
        have hold := hget kept hkept
        exact ⟨takenAt, List.mem_append_right _ (List.mem_singleton.mpr rfl), by simpa using hold⟩
  | set changed record now =>
    have hchanges : (s.updateNodes (.set changed record now)).gpuPodChanges =
        s.gpuPodChanges.set changed (now, record) := by
      obtain ⟨noted, rfl, hset⟩ := setGpuPod_cases s changed record now
      rw [ControllerState.updateNodes, hset]
      split <;> rfl
    refine ⟨fun uid change hget => ?_, fun uid change hlast hget => ?_⟩
    · rw [hchanges, Dict.get?_set] at hget
      rw [lastChange_snoc, noteChange]
      by_cases huid : uid = changed
      · rw [if_pos huid] at hget
        rw [if_pos huid.symm]
        exact hget
      · rw [if_neg huid] at hget
        rw [if_neg fun he => huid he.symm]
        exact h.kept uid change hget
    · rw [hchanges, Dict.get?_set] at hget
      by_cases huid : uid = changed
      · rw [if_pos huid] at hget
        cases hget
      · rw [if_neg huid] at hget
        rw [lastChange_snoc, noteChange, if_neg fun he => huid he.symm] at hlast
        rw [snapshotTimes_snoc]
        obtain ⟨takenAt, htaken, hlt⟩ := h.pruned uid change hlast hget
        exact ⟨takenAt, List.mem_append_left _ htaken, hlt⟩

/-- Throughout a history what is remembered is the history's. -/
lemma changesKept_history (us : List NodeUpdate) :
    ChangesKept us (us.foldl ControllerState.updateNodes {}) := by
  induction us using List.reverseRecOn with
  | nil =>
    refine ⟨fun uid change h => ?_, fun uid change h => ?_⟩
    · cases h
    · cases h
  | append_singleton us u ih =>
    rw [List.foldl_append]
    exact changesKept_updateNodes ih u

/-- After a rebuild every pod whose last change is not older than the snapshot holds that change,
and every other what the snapshot has of it. -/
theorem rebuildGpuPods_keepsLater (us : List NodeUpdate) (pods : Dict Uid GpuPod)
    (takenAt : Instant) (hsorted : (snapshotTimes us ++ [takenAt]).Pairwise (· ≤ ·)) (uid : Uid) :
    (∀ now record, lastChange uid us = some (now, record) → takenAt ≤ now →
      ((us.foldl ControllerState.updateNodes {}).updateNodes
        (.rebuild pods takenAt)).gpuPods.get? uid = record) ∧
    ((∀ now record, lastChange uid us = some (now, record) → now < takenAt) →
      ((us.foldl ControllerState.updateNodes {}).updateNodes
        (.rebuild pods takenAt)).gpuPods.get? uid = pods.get? uid) := by
  have hkept := changesKept_history us
  generalize us.foldl ControllerState.updateNodes {} = s at hkept ⊢
  have hmerged : (s.updateNodes (.rebuild pods takenAt)).gpuPods.get? uid =
      mergedRecord takenAt (pods.get? uid) (s.gpuPodChanges.get? uid) :=
    get?_foldl_keepChange s.gpuPodChanges takenAt pods uid
  rw [List.pairwise_append] at hsorted
  have hlatest : ∀ earlier ∈ snapshotTimes us, earlier ≤ takenAt :=
    fun earlier hearlier => hsorted.2.2 earlier hearlier takenAt (List.mem_singleton.mpr rfl)
  rw [hmerged]
  constructor
  · intro now record hlast hlater
    cases hchange : s.gpuPodChanges.get? uid with
    | none =>
      obtain ⟨earlier, hearlier, hlt⟩ := hkept.pruned uid _ hlast hchange
      exact absurd (hlt.trans_le ((hlatest earlier hearlier).trans hlater)) (lt_irrefl now)
    | some change =>
      have hsame : change = (now, record) :=
        Option.some_inj.mp ((hkept.kept uid change hchange).symm.trans hlast)
      rw [hsame, mergedRecord, if_neg (not_lt.mpr hlater)]
  · intro hearlier
    cases hchange : s.gpuPodChanges.get? uid with
    | none => rfl
    | some change => rw [mergedRecord, if_pos (hearlier _ _ (hkept.kept uid change hchange))]

/-- A pod is admitted, and another one deleted while the LIST of the second snapshot is under way. -/
def deletedMeanwhile : List NodeUpdate :=
  [.rebuild ∅ 3, .set "A" (some { ns := "ns", name := "a", gpuClass := "c", gpuCount := 1 }) 4,
    .set "B" none 7]

/-- The snapshot still has the pod which was deleted. -/
theorem rebuildGpuPods_keepsLater_deletedMeanwhile :
    ((deletedMeanwhile.foldl ControllerState.updateNodes {}).updateNodes (.rebuild
      (Dict.ofList [("B", { ns := "ns", name := "b", gpuClass := "c", gpuCount := 2 })])
      6)).gpuPods.get? "B" = none :=
  (rebuildGpuPods_keepsLater deletedMeanwhile _ 6 (by decide) "B").1 7 none rfl (by decide)

end GpuReservation.Proofs
