import GpuReservation.Proofs.PlannedEvictions
import GpuReservation.Proofs.Reports

/-!
# Cancellations whose pods were not evicted

A fetch, or a push, which cannot list the pods to evict, or cannot delete one of them, and what a
later one finds to evict of the same cancelled reservation.
-/

namespace GpuReservation.Proofs

open GpuReservation.Library GpuReservation.Model

namespace Report

/-- It reports the reservation as active, the last of the records of a push being the one which
counts. -/
def listsActive (id : Nat) : Report → Prop
  | fetched rows => ∃ r ∈ rows, r.id = id ∧ r.status = .active
  | pushed records => ∃ r ∈ finalRecord records id, r.status = .active

def reportsCancelled (r : ReservationResponse) (rep : Report) : Prop :=
  r ∈ rep.records ∧ r.status = .cancelled

end Report

section Lists

variable {rep : Report} {r : ReservationResponse} {now : Instant} {current : List ReservationResponse}

/-- Of a reservation which is reported, the report alone decides. -/
lemma mem_installed_iff (hr : r ∈ rep.records) :
    r.id ∈ (rep.installed now current).map (·.id) ↔ rep.listsActive r.id := by
  cases rep with
  | fetched rows =>
    constructor
    · intro h
      obtain ⟨r', hr', hid⟩ := List.mem_map.mp h
      rcases List.mem_append.mp hr' with hlisted | hkept
      · obtain ⟨hmem, hactive⟩ := List.mem_filter.mp hlisted
        exact ⟨r', hmem, hid, of_decide_eq_true hactive⟩
      · -- a lease which is kept is not listed
        have hunlisted := (List.mem_filter.mp hkept).2
        simp only [unlistedLease, Bool.and_eq_true, decide_eq_true_eq, List.mem_toFinset] at hunlisted
        exact absurd (List.mem_map.mpr ⟨r, hr, hid.symm⟩) hunlisted.1.2
    · rintro ⟨r', hmem, hid, hactive⟩
      refine List.mem_map.mpr ⟨r', List.mem_append_left _ ?_, hid⟩
      exact List.mem_filter.mpr ⟨hmem, decide_eq_true hactive⟩
  | pushed records =>
    obtain ⟨last, hlast⟩ := Option.isSome_iff_exists.mp (finalRecord_isSome hr)
    have hid : last.id = r.id := (finalRecord_id hlast).2
    constructor
    · intro h
      obtain ⟨r', hr', hid'⟩ := List.mem_map.mp h
      have hnamed : finalRecord records r'.id = some last := hid' ▸ hlast
      exact ⟨last, hlast, ((mem_applyPushToActive_of_named hnamed).mp hr').2⟩
    · rintro ⟨last', hlast', hactive⟩
      have hnamed : finalRecord records last'.id = some last' := by
        rw [(finalRecord_id hlast').2]
        exact hlast'
      refine List.mem_map.mpr ⟨last', ?_, (finalRecord_id hlast').2⟩
      exact (mem_applyPushToActive_of_named hnamed).mpr ⟨rfl, hactive⟩

end Lists

section Execution

variable {ans : ∀ q, Answer q → Prop} {config : Config} {now : Instant} {maps : GpuClassMaps}
  {s s' : ControllerState} {tr : List (Sigma Answer)} {rep : Report}
  {evictions : List PodEviction}

/-- A report plans from a listing. -/
lemma apply_exec (h : (rep.apply config now maps).Exec ans s tr evictions s') :
    ∃ l : Option (List Pod), (s.detectCancelledInWindow rep.records now = [] ∧
        s.detectOwnerChangedInWindow rep.records now = [] ∨ ans .listPods l) ∧
      PlansFor (s.detectCancelledInWindow rep.records now)
        (s.detectOwnerChangedInWindow rep.records now) (toleratedPods l) evictions tr := by
  cases rep with
  | fetched rows =>
    rw [Report.apply, applyFetched, Prog.exec_get_bind, Prog.exec_bind] at h
    obtain ⟨tr₁, tr₂, planned, s₁, rfl, hreconcile, h⟩ := h
    rw [Prog.exec_modify_bind] at h
    obtain ⟨rfl, rfl, -⟩ := h
    rw [List.append_nil]
    exact reconcileAfterReservationChange_exec hreconcile
  | pushed records => exact applyPushed_exec h

end Execution

/-- A fetch, or a push, which reports the reservation as cancelled while its window is open, and in
which the pods are not listed, or one is not deleted. -/
structure FailsToEvict (config : Config) (r : ReservationResponse) (rep : Report)
    (s s' : ControllerState) : Prop where
  reports : rep.reportsCancelled r
  ran : ∃ tr, (rep.program config).Exec canAnswer s tr () s' ∧
    (∀ now, (⟨.now, now⟩ : Sigma Answer) ∈ tr → now < slotEnd r) ∧
    ((⟨.listPods, none⟩ : Sigma Answer) ∈ tr ∨
      ∃ uid ns name, (⟨.deletePod uid ns name, false⟩ : Sigma Answer) ∈ tr)

/-- What may be answered while the cluster lists these pods. -/
def listingAnswer (pods : List Pod) (q : Request) (a : Answer q) : Prop :=
  canAnswer q a ∧ match q, a with
    | .listPods, listed => listed = some pods
    | _, _ => True

/-- The report plans, while the window is open, to evict every pod which is still under the
reservation, or it moves the pod. -/
def PlansEveryPod (config : Config) (r : ReservationResponse) (rep : Report) (s : ControllerState) :
    Prop :=
  ∀ now maps pods tr evictions s', now < slotEnd r →
    (rep.apply config now maps).Exec (listingAnswer pods) s tr evictions s' →
    ∀ p ∈ toleratedPods (some pods), p.bookingReference = some r.id →
      ⟨p, .reservationCancelled r.id⟩ ∈ evictions ∨ MovedFrom r.id p.uid tr

section Later

variable {config : Config} {r : ReservationResponse} {rep : Report} {s : ControllerState}

lemma unpatchedAnswer_listing (p : Pod) (q : Request) :
    listingAnswer [p] q (unpatchedAnswer p q) := by
  refine ⟨unpatchedAnswer_canAnswer p q, ?_⟩
  cases q with
  | listPods => rfl
  | _ => trivial

/-- A reservation which is held is planned for. -/
lemma plansEveryPod_of_held (hr : rep.reportsCancelled r) (hheld : r.id ∈ s.activeIds)
    (hshow : r.id ∉ s.noshowReservationIds) : PlansEveryPod config r rep s := by
  intro now maps pods tr evictions s' hopen hexec p hp href
  have hfound : r ∈ s.detectCancelledInWindow rep.records now :=
    mem_detectCancelledInWindow.mpr ⟨hr.1, hr.2, hopen, hshow, hheld⟩
  obtain ⟨l, hlisted, hplans⟩ := apply_exec hexec
  obtain rfl : l = some pods :=
    (hlisted.resolve_left fun hnone => List.ne_nil_of_mem hfound hnone.1).2
  exact hplans.cancels r hfound p hp href

/-- Only a reservation which is held is planned for. -/
lemma held_of_plansEveryPod (h : PlansEveryPod config r rep s) :
    r.id ∈ s.activeIds ∧ r.id ∉ s.noshowReservationIds := by
  have hopen : slotEnd r - 1 < slotEnd r := Int.sub_lt_self _ Int.one_pos
  have hexec := Prog.exec_runWith_eq (unpatchedAnswer (podUnder r.id ""))
    (rep.apply config (slotEnd r - 1) .empty) s
  have hplanned := h _ _ [podUnder r.id ""] _ _ _ hopen
    (Prog.exec_mono (fun q a ha => ha ▸ unpatchedAnswer_listing _ q) hexec) _ List.mem_cons_self rfl
  obtain ⟨l, -, hplans⟩ := apply_exec hexec
  have hevicted := hplanned.resolve_right (not_movedFrom_of_unpatched hexec _ _)
  rcases hplans.planned _ hevicted with ⟨c, hc, -, hevent⟩ | ⟨change, -, -, hevent⟩
  · have hid : r.id = c.id := PodEvent.reservationCancelled.inj hevent
    obtain ⟨-, -, -, hshow, hheld⟩ := mem_detectCancelledInWindow.mp hc
    exact ⟨hid ▸ hheld, hid ▸ hshow⟩
  · cases hevent

/-- After a report has been dealt with, the reservation is held where the report lists it. -/
lemma mem_activeIds_of_failsToEvict {s' : ControllerState} (h : FailsToEvict config r rep s s') :
    r.id ∈ s'.activeIds ↔ rep.listsActive r.id := by
  obtain ⟨tr, hexec, -⟩ := h.ran
  obtain ⟨now, -, -, -, -, hinstalled, -⟩ := program_installs hexec
  rw [ControllerState.activeIds, List.mem_toFinset, hinstalled]
  exact mem_installed_iff h.reports.1

end Later

def cancelledBooking : ReservationResponse := { runningBooking with status := .cancelled }

def holdingBooking : ControllerState :=
  { reservations := [runningBooking], reservationsKnown := true }

/-- What is answered where every call to the cluster and to the app fails. -/
def refusedAnswer : ∀ q, Answer q := worldAnswer {} empty_unlocked { outcome := .refused }

/-- A push of the cancellation. -/
def cancelledPush : List (Sigma Answer) × Unit × ControllerState :=
  ((Report.pushed [cancelledBooking]).program {}).runWith refusedAnswer holdingBooking

lemma cancelledPush_failsToEvict :
    FailsToEvict {} cancelledBooking (.pushed [cancelledBooking]) holdingBooking cancelledPush.2.2 := by
  have hexec := Prog.exec_runWith_eq refusedAnswer ((Report.pushed [cancelledBooking]).program {})
    holdingBooking
  refine ⟨⟨List.mem_cons_self, rfl⟩, cancelledPush.1, ?_, fun now hnow => ?_, .inl ?_⟩
  · refine Prog.exec_mono (fun q a h => ?_) hexec
    exact h ▸ worldAnswer_canAnswer {} empty_unlocked { outcome := .refused } q
  · obtain rfl : now = 0 := Prog.exec_answered hexec _ hnow
    decide +kernel
  · exact List.mem_of_getElem? (i := 5) rfl

end GpuReservation.Proofs
