import GpuReservation.Library.Machine
import GpuReservation.Model.Reconcile

/-!
# The tracking of no-shows

Runs of the operations which arm deadlines, declare no-shows, claim windows and cancel what was
declared, with any reservations supplied at any point.
-/

namespace GpuReservation.Proofs

open GpuReservation.Library GpuReservation.Model

inductive NoShowOp
  /-- A fetch or a push replaces the reservations. -/
  | install (active : List ReservationResponse) (maps : GpuClassMaps) (now : Instant)
  | reconcile
  | track (now : Instant) (timeoutMinutes graceMinutes : Nat)
  | check (now : Instant)
  | seen (ns gpuClassLabel : String) (bookingReservationId : Option Nat)
      (groupLabel : Option String) (now : Instant)
  | claim (holderReservationIds : List Nat) (now : Instant)
  | enqueue (podUid : Uid) (podName podNamespace gpuClassLabel : String) (gpuRequested : Nat)
      (groupLabel : Option String) (reservation : ReservationResponse) (now : Instant)
  | dequeue (podUid : Uid)
  /-- The app has accepted the cancel of a pending no-show. -/
  | cancelled (rid : Nat)

def NoShowOp.apply (s : ControllerState) : NoShowOp → ControllerState
  | .install active maps now => s.installReservations active maps now
  | .reconcile => s.reconcileNoshow
  | .track now timeoutMinutes graceMinutes => s.updateNoshowTracking now timeoutMinutes graceMinutes
  | .check now => s.checkNoshowDeadlines now
  | .seen ns gpuClassLabel bookingReservationId groupLabel now =>
    s.markPodSeenForNoshow ns gpuClassLabel bookingReservationId groupLabel now
  | .claim holderReservationIds now => s.refreshClaimedReservations holderReservationIds now
  | .enqueue podUid podName podNamespace gpuClassLabel gpuRequested groupLabel reservation now =>
    s.enqueuePod podUid podName podNamespace gpuClassLabel gpuRequested groupLabel reservation now
  | .dequeue podUid => s.dequeuePod podUid
  | .cancelled rid =>
    { s.dropReservation rid with pendingNoshowCancels := s.pendingNoshowCancels.erase rid }

/-- What is armed is neither declared nor claimed, and what is to be cancelled is declared. -/
structure NoShowWf (s : ControllerState) : Prop where
  undeclared : ∀ rid, rid ∈ s.noshowDeadlines → rid ∉ s.noshowReservationIds
  unclaimed : ∀ rid, rid ∈ s.noshowDeadlines → rid ∉ s.claimedReservationIds
  pending : s.pendingNoshowCancels ⊆ s.noshowReservationIds

section Frames

variable (s : ControllerState)

lemma requeueStale_eq (now : Instant) (queued : Uid × Ref) :
    ∃ entries queue, s.requeueStale now queued = { s with entries := entries, taskQueue := queue } := by
  unfold ControllerState.requeueStale
  dsimp only
  split <;> exact ⟨_, _, rfl⟩

/-- The queue follows the reservations; nothing else does. -/
lemma reconcileQueue_eq (now : Instant) :
    ∃ entries queue, s.reconcileQueue now = { s with entries := entries, taskQueue := queue } := by
  have hfold : ∀ (l : List (Uid × Ref)) (t : ControllerState),
      (∃ entries queue, t = { s with entries := entries, taskQueue := queue }) →
        ∃ entries queue, l.foldl (fun s queued => s.requeueStale now queued) t =
          { s with entries := entries, taskQueue := queue } := by
    intro l
    induction l with
    | nil => exact fun _ h => h
    | cons queued l ih =>
      rintro t ⟨entries, queue, rfl⟩
      obtain ⟨entries', queue', h⟩ := requeueStale_eq
        { s with entries := entries, taskQueue := queue } now queued
      exact ih _ ⟨entries', queue', h⟩
  exact hfold _ _ ⟨_, _, rfl⟩

lemma installReservations_eq (active : List ReservationResponse) (maps : GpuClassMaps)
    (now : Instant) :
    ∃ entries queue, s.installReservations active maps now =
      { s with
        reservations := active
        gpuClassLabels := maps.labels
        gpuClassIds := maps.ids
        gpuClassCapacity := maps.capacity
        gpuClassesKnown := maps.complete
        entries := entries
        taskQueue := queue } := by
  obtain ⟨entries, queue, h⟩ := reconcileQueue_eq
    { s with
      reservations := active
      gpuClassLabels := maps.labels
      gpuClassIds := maps.ids
      gpuClassCapacity := maps.capacity
      gpuClassesKnown := maps.complete } now
  exact ⟨entries, queue, h⟩

/-- A pod which is seen clears deadlines. -/
lemma markPodSeenForNoshow_eq (ns gpuClassLabel : String) (rid : Option Nat)
    (group : Option String) (now : Instant) :
    ∃ deadlines, s.markPodSeenForNoshow ns gpuClassLabel rid group now =
        { s with noshowDeadlines := deadlines } ∧
      ∀ r d, deadlines.get? r = some d → s.noshowDeadlines.get? r = some d := by
  unfold ControllerState.markPodSeenForNoshow
  split
  · split
    · exact ⟨_, rfl, fun _ _ h => h⟩
    · split
      · exact ⟨_, rfl, fun _ _ h => h⟩
      · exact ⟨_, rfl, fun _ _ h => Dict.get?_of_get?_filter h⟩
  · split
    · exact ⟨_, rfl, fun _ _ h => h⟩
    · exact ⟨_, rfl, fun _ _ h => Dict.get?_of_get?_erase h⟩

/-- A pod which is queued clears the deadline of what it waits for. -/
lemma enqueuePod_eq (podUid : Uid) (podName podNamespace gpuClassLabel : String)
    (gpuRequested : Nat) (groupLabel : Option String) (reservation : ReservationResponse)
    (now : Instant) :
    ∃ entries queue, s.enqueuePod podUid podName podNamespace gpuClassLabel gpuRequested groupLabel
        reservation now =
      { s with
        noshowDeadlines := s.noshowDeadlines.erase reservation.id
        entries := entries
        taskQueue := queue } := by
  unfold ControllerState.enqueuePod
  dsimp only
  split <;> exact ⟨_, _, rfl⟩

end Frames

/-- A refresh gives the reservation a deadline, unless it has one. -/
structure Armable (s : ControllerState) (now : Instant) (r : ReservationResponse) : Prop where
  booking : r.kind = .booking
  owned : r.user ≠ none
  undeclared : r.id ∉ s.noshowReservationIds
  unclaimed : r.id ∉ s.claimedReservationIds
  unended : now < slotEnd r

/-- The deadline it gives. -/
def noshowDeadline (r : ReservationResponse) (now : Instant) (timeoutMinutes graceMinutes : Nat) :
    Instant :=
  if now < slotStart r then slotStart r + minutes timeoutMinutes else now + minutes graceMinutes

section Wf

variable {s : ControllerState}

lemma get?_armNoshow {now d : Instant} {timeoutMinutes graceMinutes rid : Nat}
    {deadlines : Dict Nat Instant} {r : ReservationResponse}
    (h : (s.armNoshow now timeoutMinutes graceMinutes deadlines r).get? rid = some d) :
    deadlines.get? rid = some d ∨ r.id = rid ∧ Armable s now r ∧
      d = noshowDeadline r now timeoutMinutes graceMinutes := by
  rw [ControllerState.armNoshow] at h
  split at h
  · exact .inl h
  · rename_i hskip
    simp only [not_or, not_not, not_le] at hskip
    obtain ⟨hkind, huser, -, hdeclared, hclaimed, hend⟩ := hskip
    rw [Dict.get?_set] at h
    split at h
    · rename_i hrid
      cases h
      exact .inr ⟨hrid.symm, ⟨hkind, huser, hdeclared, hclaimed, hend⟩, rfl⟩
    · exact .inl h

/-- A deadline after a refresh was there before it, or is one the refresh gives. -/
lemma get?_updateNoshowTracking {now d : Instant} {timeoutMinutes graceMinutes rid : Nat}
    (h : (s.updateNoshowTracking now timeoutMinutes graceMinutes).noshowDeadlines.get? rid = some d) :
    s.noshowDeadlines.get? rid = some d ∨ ∃ r ∈ s.reservations, r.id = rid ∧ Armable s now r ∧
      d = noshowDeadline r now timeoutMinutes graceMinutes := by
  have hfold : ∀ (l : List ReservationResponse) (deadlines : Dict Nat Instant),
      (l.foldl (s.armNoshow now timeoutMinutes graceMinutes) deadlines).get? rid = some d →
        deadlines.get? rid = some d ∨ ∃ r ∈ l, r.id = rid ∧ Armable s now r ∧
          d = noshowDeadline r now timeoutMinutes graceMinutes := by
    intro l
    induction l with
    | nil => exact fun _ h => .inl h
    | cons r l ih =>
      intro deadlines h
      rcases ih _ h with hold | ⟨r', hr', hnew⟩
      · rcases get?_armNoshow hold with hold | hnew
        · exact .inl hold
        · exact .inr ⟨r, List.mem_cons_self, hnew⟩
      · exact .inr ⟨r', List.mem_cons_of_mem r hr', hnew⟩
  exact hfold _ _ h

/-- A check drops deadlines, and declares, and queues for cancelling, only what was due. -/
lemma checkNoshowDeadlines_eq (s : ControllerState) (now : Instant) :
    ∃ deadlines declared pending, s.checkNoshowDeadlines now =
        { s with
          noshowDeadlines := deadlines
          noshowReservationIds := declared
          pendingNoshowCancels := pending } ∧
      (∀ rid d, deadlines.get? rid = some d → s.noshowDeadlines.get? rid = some d) ∧
      (∀ rid ∈ declared, rid ∈ s.noshowReservationIds ∨
        ∃ d ≤ now, s.noshowDeadlines.get? rid = some d) ∧
      ∀ rid ∈ pending, rid ∈ s.pendingNoshowCancels ∨
        ∃ d ≤ now, s.noshowDeadlines.get? rid = some d := by
  have hfold : ∀ (l : List Nat) (t : ControllerState),
      ∃ deadlines declared pending, l.foldl (fun s rid => s.expireDeadline now rid) t =
          { t with
            noshowDeadlines := deadlines
            noshowReservationIds := declared
            pendingNoshowCancels := pending } ∧
        (∀ rid d, deadlines.get? rid = some d → t.noshowDeadlines.get? rid = some d) ∧
        (∀ rid ∈ declared, rid ∈ t.noshowReservationIds ∨ rid ∈ l) ∧
        ∀ rid ∈ pending, rid ∈ t.pendingNoshowCancels ∨ rid ∈ l := by
    intro l
    induction l with
    | nil => exact fun t => ⟨_, _, _, rfl, fun _ _ h => h, fun _ h => .inl h, fun _ h => .inl h⟩
    | cons r l ih =>
      intro t
      obtain ⟨deadlines, declared, pending, h, hd, hn, hp⟩ := ih (t.expireDeadline now r)
      rw [List.foldl_cons, h]
      unfold ControllerState.expireDeadline at hd hn hp ⊢
      dsimp only at hd hn hp ⊢
      split at hd
      · rename_i hended
        rw [if_pos hended] at hn hp ⊢
        exact ⟨_, _, _, rfl, fun rid d hrid => Dict.get?_of_get?_erase (hd rid d hrid),
          fun rid hrid => (hn rid hrid).imp_right (List.mem_cons_of_mem r),
          fun rid hrid => (hp rid hrid).imp_right (List.mem_cons_of_mem r)⟩
      · rename_i hrunning
        rw [if_neg hrunning] at hn hp ⊢
        refine ⟨_, _, _, rfl, fun rid d hrid => Dict.get?_of_get?_erase (hd rid d hrid),
          fun rid hrid => ?_, fun rid hrid => ?_⟩
        · rcases hn rid hrid with hmem | hmem
          · rcases Finset.mem_insert.mp hmem with rfl | hmem
            · exact .inr List.mem_cons_self
            · exact .inl hmem
          · exact .inr (List.mem_cons_of_mem r hmem)
        · rcases hp rid hrid with hmem | hmem
          · rcases Finset.mem_insert.mp hmem with rfl | hmem
            · exact .inr List.mem_cons_self
            · exact .inl hmem
          · exact .inr (List.mem_cons_of_mem r hmem)
  obtain ⟨deadlines, declared, pending, h, hd, hn, hp⟩ := hfold
    ((s.noshowDeadlines.entries.filter fun e =>
      e.2 ≤ now && e.1 ∉ s.claimedReservationIds).map Prod.fst) s
  have hdue : ∀ rid ∈ (s.noshowDeadlines.entries.filter fun e =>
      e.2 ≤ now && e.1 ∉ s.claimedReservationIds).map Prod.fst,
      ∃ d ≤ now, s.noshowDeadlines.get? rid = some d := by
    intro rid hrid
    obtain ⟨e, he, rfl⟩ := List.mem_map.mp hrid
    obtain ⟨hmem, hle⟩ := List.mem_filter.mp he
    rw [Bool.and_eq_true, decide_eq_true_eq] at hle
    exact ⟨e.2, hle.1, Dict.get?_eq_some_iff.mpr hmem⟩
  exact ⟨deadlines, declared, pending, h, hd, fun rid hrid => (hn rid hrid).imp_right (hdue rid),
    fun rid hrid => (hp rid hrid).imp_right (hdue rid)⟩

/-- Clearing deadlines, and changing what the tracking does not read. -/
lemma NoShowWf.cleared {s' : ControllerState} (hs : NoShowWf s)
    (hdeadlines : ∀ rid, rid ∈ s'.noshowDeadlines → rid ∈ s.noshowDeadlines)
    (hclaimed : s'.claimedReservationIds = s.claimedReservationIds)
    (hdeclared : s'.noshowReservationIds = s.noshowReservationIds)
    (hpending : s'.pendingNoshowCancels ⊆ s.pendingNoshowCancels) : NoShowWf s' := by
  refine ⟨fun rid h => ?_, fun rid h => ?_, ?_⟩
  · rw [hdeclared]
    exact hs.undeclared rid (hdeadlines rid h)
  · rw [hclaimed]
    exact hs.unclaimed rid (hdeadlines rid h)
  · rw [hdeclared]
    exact hpending.trans hs.pending

lemma noShowWf_reconcileNoshow (hs : NoShowWf s) : NoShowWf s.reconcileNoshow := by
  refine ⟨fun rid h hdeclared => ?_, fun rid h => ?_, fun rid h => ?_⟩
  · obtain ⟨d, hd, -⟩ := Dict.mem_filter.mp h
    exact hs.undeclared rid (Dict.mem_iff_get?.mpr ⟨d, hd⟩) (Finset.mem_filter.mp hdeclared).1
  · obtain ⟨d, hd, -⟩ := Dict.mem_filter.mp h
    exact hs.unclaimed rid (Dict.mem_iff_get?.mpr ⟨d, hd⟩)
  · obtain ⟨hpending, hactive⟩ := Finset.mem_filter.mp h
    exact Finset.mem_filter.mpr ⟨hs.pending hpending, hactive⟩

lemma noShowWf_updateNoshowTracking (hs : NoShowWf s) (now : Instant)
    (timeoutMinutes graceMinutes : Nat) :
    NoShowWf (s.updateNoshowTracking now timeoutMinutes graceMinutes) := by
  refine ⟨fun rid h => ?_, fun rid h => ?_, hs.pending⟩
  · obtain ⟨d, hd⟩ := Dict.mem_iff_get?.mp h
    rcases get?_updateNoshowTracking hd with hold | ⟨r, -, rfl, harm, -⟩
    · exact hs.undeclared rid (Dict.mem_iff_get?.mpr ⟨d, hold⟩)
    · exact harm.undeclared
  · obtain ⟨d, hd⟩ := Dict.mem_iff_get?.mp h
    rcases get?_updateNoshowTracking hd with hold | ⟨r, -, rfl, harm, -⟩
    · exact hs.unclaimed rid (Dict.mem_iff_get?.mpr ⟨d, hold⟩)
    · exact harm.unclaimed

lemma noShowWf_expireDeadline (hs : NoShowWf s) (now : Instant) (rid : Nat) :
    NoShowWf (s.expireDeadline now rid) := by
  rw [ControllerState.expireDeadline]
  dsimp only
  split
  · exact hs.cleared (fun r h => (Dict.mem_erase.mp h).2) rfl rfl (Finset.Subset.refl _)
  · refine ⟨fun r h => ?_, fun r h => hs.unclaimed r (Dict.mem_erase.mp h).2, ?_⟩
    · obtain ⟨hne, h⟩ := Dict.mem_erase.mp h
      exact fun hmem => (Finset.mem_insert.mp hmem).elim hne (hs.undeclared r h)
    · exact Finset.insert_subset_insert rid hs.pending

lemma noShowWf_checkNoshowDeadlines (hs : NoShowWf s) (now : Instant) :
    NoShowWf (s.checkNoshowDeadlines now) := by
  have hfold : ∀ (l : List Nat) (t : ControllerState), NoShowWf t →
      NoShowWf (l.foldl (fun s rid => s.expireDeadline now rid) t) := by
    intro l
    induction l with
    | nil => exact fun _ h => h
    | cons rid l ih => exact fun t h => ih _ (noShowWf_expireDeadline h now rid)
  exact hfold _ s hs

theorem noShowWf_apply (op : NoShowOp) (hs : NoShowWf s) : NoShowWf (op.apply s) := by
  cases op with
  | install active maps now =>
    obtain ⟨_, _, h⟩ := installReservations_eq s active maps now
    rw [NoShowOp.apply, h]
    exact hs.cleared (fun _ h => h) rfl rfl (Finset.Subset.refl _)
  | reconcile => exact noShowWf_reconcileNoshow hs
  | track now timeoutMinutes graceMinutes => exact noShowWf_updateNoshowTracking hs now _ _
  | check now => exact noShowWf_checkNoshowDeadlines hs now
  | seen ns label rid group now =>
    obtain ⟨deadlines, h, hsub⟩ := markPodSeenForNoshow_eq s ns label rid group now
    rw [NoShowOp.apply, h]
    refine hs.cleared (fun r hr => ?_) rfl rfl (Finset.Subset.refl _)
    obtain ⟨d, hd⟩ := Dict.mem_iff_get?.mp hr
    exact Dict.mem_iff_get?.mpr ⟨d, hsub r d hd⟩
  | claim holders now =>
    refine ⟨fun rid h => ?_, fun rid h => ?_, hs.pending⟩
    · obtain ⟨d, hd, -⟩ := Dict.mem_filter.mp h
      exact hs.undeclared rid (Dict.mem_iff_get?.mpr ⟨d, hd⟩)
    · obtain ⟨d, -, hunclaimed⟩ := Dict.mem_filter.mp h
      exact of_decide_eq_true hunclaimed
  | enqueue uid name ns label gpus group reservation now =>
    obtain ⟨_, _, h⟩ := enqueuePod_eq s uid name ns label gpus group reservation now
    rw [NoShowOp.apply, h]
    exact hs.cleared (fun r hr => (Dict.mem_erase.mp hr).2) rfl rfl (Finset.Subset.refl _)
  | dequeue uid => exact hs.cleared (fun _ h => h) rfl rfl (Finset.Subset.refl _)
  | cancelled rid => exact hs.cleared (fun _ h => h) rfl rfl (Finset.erase_subset _ _)

lemma declared_checkNoshowDeadlines (s : ControllerState) (now : Instant) :
    s.noshowReservationIds ⊆ (s.checkNoshowDeadlines now).noshowReservationIds := by
  have hfold : ∀ (l : List Nat) (t : ControllerState), t.noshowReservationIds ⊆
      (l.foldl (fun s rid => s.expireDeadline now rid) t).noshowReservationIds := by
    intro l
    induction l with
    | nil => exact fun _ => Finset.Subset.refl _
    | cons rid l ih =>
      intro t
      refine Finset.Subset.trans ?_ (ih (t.expireDeadline now rid))
      unfold ControllerState.expireDeadline
      dsimp only
      split
      · exact Finset.Subset.refl _
      · exact Finset.subset_insert _ _
  exact hfold _ s

/-- A declared no-show stays one while its reservation stays in the list. -/
lemma declared_apply (op : NoShowOp) {rid : Nat} (hdeclared : rid ∈ s.noshowReservationIds)
    (hactive : rid ∈ (op.apply s).activeIds) : rid ∈ (op.apply s).noshowReservationIds := by
  cases op with
  | install active maps now =>
    obtain ⟨_, _, h⟩ := installReservations_eq s active maps now
    rw [NoShowOp.apply, h]
    exact hdeclared
  | reconcile => exact Finset.mem_filter.mpr ⟨hdeclared, hactive⟩
  | check now => exact declared_checkNoshowDeadlines s now hdeclared
  | seen ns label rid' group now =>
    obtain ⟨_, h, -⟩ := markPodSeenForNoshow_eq s ns label rid' group now
    rw [NoShowOp.apply, h]
    exact hdeclared
  | enqueue uid name ns label gpus group reservation now =>
    obtain ⟨_, _, h⟩ := enqueuePod_eq s uid name ns label gpus group reservation now
    rw [NoShowOp.apply, h]
    exact hdeclared
  | _ => exact hdeclared

end Wf

/-- No deadlines, declared no-shows or pending cancels, as the controller starts. -/
structure NoShowFresh (s : ControllerState) : Prop where
  deadlines : s.noshowDeadlines = ∅
  declared : s.noshowReservationIds = ∅
  pending : s.pendingNoshowCancels = ∅

lemma NoShowFresh.wf {s : ControllerState} (h : NoShowFresh s) : NoShowWf s := by
  refine ⟨fun rid hrid => ?_, fun rid hrid => ?_, ?_⟩
  · rw [h.deadlines] at hrid
    cases hrid
  · rw [h.deadlines] at hrid
    cases hrid
  · rw [h.pending]
    exact Finset.empty_subset _

/-- In every state of every run what is armed is neither declared nor claimed and what is to be
cancelled is declared; and from where a no-show is declared, it has no deadline for as long as its
reservation stays in the list. -/
theorem noShowWf_throughout (s : ControllerState) (hstart : NoShowFresh s) (ops : List NoShowOp) :
    throughout NoShowOp.apply NoShowWf s ops ∧
      ∀ before after, ops = before ++ after → ∀ rid,
        rid ∈ (before.foldl NoShowOp.apply s).noshowReservationIds →
          throughout NoShowOp.apply (fun s => rid ∈ s.activeIds)
            (before.foldl NoShowOp.apply s) after →
          throughout NoShowOp.apply (fun s => rid ∉ s.noshowDeadlines)
            (before.foldl NoShowOp.apply s) after := by
  have hwf : throughout NoShowOp.apply NoShowWf s ops :=
    throughout_of_respects (C := fun _ _ => True) (fun _ op h _ => noShowWf_apply op h) hstart.wf
      (respects_of_forall fun _ _ _ => trivial)
  refine ⟨hwf, ?_⟩
  rintro before after rfl rid hdeclared hactive
  have hfrom : NoShowWf (before.foldl NoShowOp.apply s) := throughout_head (throughout_append.mp hwf).2
  refine throughout_mono (P := fun s => NoShowWf s ∧ rid ∈ s.noshowReservationIds)
    (fun s h hrid => h.1.undeclared rid hrid h.2) ?_
  generalize before.foldl NoShowOp.apply s = t at *
  clear hwf
  induction after generalizing t with
  | nil => exact ⟨hfrom, hdeclared⟩
  | cons op after ih =>
    have hstays : rid ∈ (op.apply t).activeIds :=
      throughout_head (P := fun t : ControllerState => rid ∈ t.activeIds) hactive.2
    exact ⟨⟨hfrom, hdeclared⟩,
      ih _ (declared_apply op hdeclared hstays) hactive.2 (noShowWf_apply op hfrom)⟩

/-- A booking of two hours which nobody shows up for. -/
def abandonedBooking : ReservationResponse where
  id := 1
  userId := some 1
  user := some { id := 1, username := "ns" }
  gpuClassId := 1
  gpuClass := { id := 1, name := "c" }
  startUtc := 0
  endUtc := minutes 120
  gpuCount := 1

/-- It is armed when it is fetched, and declared once its deadline is over. -/
def abandonedRun : List NoShowOp :=
  [.install [abandonedBooking] .empty 0, .track 0 15 30, .check (minutes 30)]

/-- Another refresh gives it no deadline again. -/
theorem noShowWf_throughout_abandoned :
    throughout NoShowOp.apply (fun s => 1 ∉ s.noshowDeadlines)
      (abandonedRun.foldl NoShowOp.apply {}) [.reconcile, .track (minutes 31) 15 30] :=
  (noShowWf_throughout {} ⟨rfl, rfl, rfl⟩ _).2 abandonedRun _ rfl 1 (by decide +kernel)
    (by decide +kernel)

end GpuReservation.Proofs
