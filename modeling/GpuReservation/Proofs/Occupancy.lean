import GpuReservation.Model.Bookkeeping

/-!
# The buckets of the occupancy map
-/

namespace GpuReservation.Proofs

open GpuReservation.Library GpuReservation.Model

variable (s : ControllerState)

lemma bucket_recordPlacement (rid : Nat) (uid : Uid) (gpus rid' : Nat) :
    (s.recordPlacement rid uid gpus).bucket rid' =
      if rid' = rid then (s.bucket rid).set uid gpus else s.bucket rid' := by
  rw [ControllerState.bucket, ControllerState.recordPlacement, Dict.get?_set]
  by_cases h : rid' = rid
  · rw [if_pos h, if_pos h, Option.getD_some]
  · rw [if_neg h, if_neg h, ControllerState.bucket]

lemma mem_bucket_of_placeOf {uid : Uid} {rid : Nat} (h : s.placeOf uid = some rid) :
    uid ∈ s.bucket rid := by
  obtain ⟨e, he, rfl⟩ := Option.map_eq_some_iff.mp h
  have hmem : s.occupancy.get? e.1 = some e.2 :=
    Dict.get?_eq_some_iff.mpr (List.mem_of_find?_eq_some he)
  rw [ControllerState.bucket, hmem]
  simpa using List.find?_some he

lemma placeOf_eq_none_iff {uid : Uid} : s.placeOf uid = none ↔ ∀ rid, uid ∉ s.bucket rid := by
  rw [ControllerState.placeOf, Option.map_eq_none_iff, List.find?_eq_none]
  constructor
  · intro h rid hmem
    cases hb : s.occupancy.get? rid with
    | none =>
      rw [ControllerState.bucket, hb] at hmem
      cases hmem
    | some d =>
      rw [ControllerState.bucket, hb] at hmem
      exact h _ (Dict.get?_eq_some_iff.mp hb) (by simpa using hmem)
  · intro h e he
    have hb : s.bucket e.1 = e.2 := by
      rw [ControllerState.bucket, Dict.get?_eq_some_iff.mpr he, Option.getD_some]
    simpa [hb] using h e.1

lemma eq_empty_of_entries {κ υ : Type*} {d : Dict κ υ} (h : d.entries = []) : d = ∅ := by
  cases d
  cases h
  rfl

/-- A bucket which is put back, or dropped where it is empty, is read as itself. -/
lemma getD_putBack (occupancy : Dict Nat (Dict Uid Nat)) (place : Nat) (b : Dict Uid Nat)
    (rid : Nat) :
    ((if b.entries = [] then occupancy.erase place else occupancy.set place b).get? rid).getD ∅ =
      if rid = place then b else (occupancy.get? rid).getD ∅ := by
  by_cases hr : rid = place
  · subst hr
    by_cases hb : b.entries = []
    · rw [if_pos hb, if_pos rfl, Dict.get?_erase_self, Option.getD_none, eq_empty_of_entries hb]
    · rw [if_neg hb, if_pos rfl, Dict.get?_set_self, Option.getD_some]
  · by_cases hb : b.entries = []
    · rw [if_pos hb, if_neg hr, Dict.get?_erase_of_ne _ hr]
    · rw [if_neg hb, if_neg hr, Dict.get?_set_of_ne _ _ hr]

lemma bucket_releasePod (uid : Uid) (rid : Nat) :
    (s.releasePod uid).bucket rid =
      if s.placeOf uid = some rid then (s.bucket rid).erase uid else s.bucket rid := by
  rw [ControllerState.releasePod]
  cases hp : s.placeOf uid with
  | none => simp
  | some place =>
    rw [ControllerState.bucket, getD_putBack]
    by_cases hr : rid = place
    · rw [if_pos hr, if_pos (congrArg some hr.symm), hr]
    · rw [if_neg hr, if_neg fun h => hr (Option.some.inj h).symm, ControllerState.bucket]

lemma bucket_releasePod_get?_of_ne {uid u : Uid} (h : u ≠ uid) (rid : Nat) :
    ((s.releasePod uid).bucket rid).get? u = (s.bucket rid).get? u := by
  rw [bucket_releasePod]
  split
  · exact Dict.get?_erase_of_ne _ h
  · rfl

/-- A release takes records away, and changes none. -/
lemma bucket_releasePod_get?_sub {uid u : Uid} {rid g : Nat}
    (h : ((s.releasePod uid).bucket rid).get? u = some g) : (s.bucket rid).get? u = some g := by
  rw [bucket_releasePod] at h
  split at h
  · rw [Dict.get?_erase] at h
    split at h
    · cases h
    · exact h
  · exact h

lemma total_bucket_releasePod_le (uid : Uid) (rid : Nat) :
    ((s.releasePod uid).bucket rid).total ≤ (s.bucket rid).total := by
  rw [bucket_releasePod]
  split
  · have := Dict.total_erase (s.bucket rid) uid
    omega
  · exact le_rfl

lemma usedExcept_none (rid : Nat) : s.usedExcept rid none = (s.bucket rid).total := by
  have hall : (s.bucket rid).entries.filter (fun e => some e.1 ≠ (none : Option Uid)) =
      (s.bucket rid).entries := by simp
  rw [ControllerState.usedExcept, hall]
  rfl

/-- The GPUs recorded on a reservation are those of one pod and those of the others. -/
lemma usedExcept_add (rid : Nat) (uid : Uid) :
    s.usedExcept rid (some uid) + ((s.bucket rid).get? uid).getD 0 = (s.bucket rid).total := by
  have herase := Dict.total_erase (s.bucket rid) uid
  have hused : s.usedExcept rid (some uid) = ((s.bucket rid).erase uid).total := by
    rw [ControllerState.usedExcept, Dict.total, Dict.values, Dict.erase]
    congr 3
    funext e
    simp
  rw [hused]
  exact herase

/-- Recording a pod which fits keeps a reservation within its GPUs. -/
lemma total_recordPlacement_le {r : ReservationResponse} {uid : Uid} {gpus : Nat}
    (hfit : gpus ≤ s.available r (some uid)) (hwithin : (s.bucket r.id).total ≤ r.gpuCount) :
    ((s.recordPlacement r.id uid gpus).bucket r.id).total ≤ r.gpuCount := by
  have hset := Dict.total_set (s.bucket r.id) uid gpus
  have hused := usedExcept_add s r.id uid
  rw [bucket_recordPlacement, if_pos rfl]
  rw [ControllerState.available] at hfit
  omega

end GpuReservation.Proofs
