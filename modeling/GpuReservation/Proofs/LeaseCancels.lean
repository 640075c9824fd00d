import GpuReservation.Proofs.RelinkBudget
import GpuReservation.Proofs.ReservationLock
import GpuReservation.Proofs.WorldHistory

/-!
# What the controller cancels

A user's booking is cancelled as a no-show only.  Every other cancel is of a lease, in every run of the system: of
one which is held as active when the app is asked, or of the one which the app granted to the same task.
-/

namespace GpuReservation.Proofs

open GpuReservation.Library GpuReservation.Model

/-- The reservation is held as an active on-demand lease. -/
def activeLease (rid : Nat) (s : ControllerState) : Bool :=
  (findReservation s.reservations rid).any fun r => r.status = .active && r.kind = .onDemand

/-- What a cancel for the reason is sent for by task `i`. -/
def CancelOf (i rid : Nat) (σ : Snap ControllerState World) : CancelReason → Prop
  | .noShow => True
  | .controllerRevoked => (i, rid) ∈ σ.world.grants
  | .superseded | .podTerminated => activeLease rid σ.shared

instance (i rid : Nat) (σ : Snap ControllerState World) (reason : CancelReason) :
    Decidable (CancelOf i rid σ reason) := by
  cases reason <;> unfold CancelOf <;> infer_instance

/-- The cancel of a lease which the call makes. -/
def leaseCancelOf : Request → Option (Nat × CancelReason)
  | .cancelReservation _ .noShow => none
  | .cancelReservation rid reason => some (rid, reason)
  | _ => none

lemma leaseCancelOf_of_onePod {q : Request} (h : Request.onePod q) : leaseCancelOf q = none ∧ lockUse q = .other := by
  cases q <;> first | exact ⟨rfl, rfl⟩ | exact h.elim

section Grants

variable (w : World)

lemma grants_patchPod (ns name : String) (tolerations : List Toleration) (reference : Nat) :
    (w.patchPod ns name tolerations reference).grants = w.grants := by
  rw [World.patchPod]
  split <;> rfl

lemma grants_terminatePod (ns name : String) : (w.terminatePod ns name).grants = w.grants := by
  rw [World.terminatePod]
  split <;> rfl

lemma grants_create (req : ReservationRequest) (ch : Choice) : (w.create req ch).2.grants = w.grants := by
  rw [World.create]
  split
  · rfl
  · split <;> rfl

lemma grants_noteGrant (task : Nat) (a : LeaseAttempt) :
    (w.noteGrant task a).grants = w.grants ++ (a.reservation.map fun lease => (task, lease.id)).toList := by
  rw [World.noteGrant]
  cases a.reservation with
  | none => exact (List.append_nil w.grants).symm
  | some lease => rfl

/-- What was granted stays granted. -/
lemma answer_grants {task : Nat} {q : Request} {ch : Choice} {w w' : World} {a : Answer q}
    (h : answer task q ch w = some (a, w')) : w.grants ⊆ w'.grants := by
  cases q with
  | acquireReservationLock =>
    simp only [answer] at h
    split at h
    · cases h
      exact fun _ hg => hg
    · cases h
  | releaseReservationLock =>
    cases h
    split <;> exact fun _ hg => hg
  | applyToleration judged ns name pod key value reference =>
    simp only [answer] at h
    split at h <;> cases h
    · exact fun _ hg => hg
    · rw [grants_patchPod]
      exact fun _ hg => hg
  | deletePod judged ns name =>
    simp only [answer] at h
    split at h <;> cases h
    · exact fun _ hg => hg
    · rw [grants_terminatePod]
      exact fun _ hg => hg
  | createReservation req =>
    simp only [answer] at h
    split at h <;> cases h
    · exact fun _ hg => hg
    · rw [grants_create]
      exact fun _ hg => hg
    · rw [grants_noteGrant, grants_create]
      exact List.subset_append_left _ _
  | cancelReservation id reason =>
    simp only [answer] at h
    split at h <;> cases h <;> exact fun _ hg => hg
  | _ =>
    cases h
    exact fun _ hg => hg

/-- The app's grant is noted as it is answered. -/
lemma mem_grants_of_create {task : Nat} {req : ReservationRequest} {ch : Choice} {w w' : World}
    {attempt : LeaseAttempt} {lease : ReservationResponse}
    (h : answer task (.createReservation req) ch w = some (attempt, w'))
    (hlease : attempt.reservation = some lease) : (task, lease.id) ∈ w'.grants := by
  simp only [answer] at h
  split at h <;> cases h
  · cases hlease
  · cases hlease
  · rw [grants_noteGrant, hlease]
    simp

lemma outside_grants (e : WorldEvent) (w : World) : (e.effect w).grants = w.grants := by
  cases e <;> simp only [WorldEvent.effect] <;> (try split) <;> rfl

end Grants

/-- A task relies on the lock while it holds it, and on the reservations; and each cancel it has carried out is
for its reason. -/
def cancelContract (i : Nat) : Contract ControllerState World Request Choice where
  rely σ σ' := (σ.world.lockOwner = some i →
    σ'.world.lockOwner = some i ∧ SameReservations σ.shared σ'.shared) ∧ σ.world.grants ⊆ σ'.world.grants
  guar σ σ' := σ.world.grants ⊆ σ'.world.grants
  issued _ _ := True
  served q σ := ∀ rid reason, leaseCancelOf q = some (rid, reason) → CancelOf i rid σ reason
  assumed _ _ _ := True
  ended _ := True
  rely_refl σ := ⟨fun h => ⟨h, .refl σ.shared⟩, fun _ hg => hg⟩
  rely_trans h₁ h₂ :=
    ⟨fun h => ⟨(h₂.1 (h₁.1 h).1).1, (h₁.1 h).2.trans (h₂.1 (h₁.1 h).1).2⟩, fun _ hg => h₂.2 (h₁.2 hg)⟩
  guar_refl _ _ hg := hg
  guar_trans h₁ h₂ _ hg := h₂ (h₁ hg)

section Rules

variable {i : Nat} {α β : Type}

/-- A part which has no cancel carried out but for its reason, from a state with `P` on. -/
abbrev Rightly (i : Nat) (P : Snap ControllerState World → Prop) (p : Ctl α)
    (R : α → Snap ControllerState World → Prop) : Prop :=
  Triple runtime (fun _ => True) (cancelContract i) i P p R

/-- The task holds the lock. -/
def locks (i : Nat) (σ : Snap ControllerState World) : Prop := σ.world.lockOwner = some i

def anywhere (_ : Snap ControllerState World) : Prop := True

/-- A part which cancels no lease. -/
def CancelsNoLease (p : Ctl α) : Prop :=
  p.Within (fun _ _ => True) (fun q => leaseCancelOf q = none) fun _ => True

/-- A part which cancels no lease and leaves the lock alone. -/
def LocklessNoLease (p : Ctl α) : Prop :=
  p.Within (fun _ _ => True) (fun q => leaseCancelOf q = none ∧ lockUse q = .other) fun _ => True

lemma locks_stable : Stable (cancelContract i) (locks i) := fun _ _ hrely h => (hrely.1 h).1

lemma anywhere_stable : Stable (cancelContract i) anywhere := fun _ _ _ _ => trivial

lemma CancelsNoLease.rightly {p : Ctl α} (h : CancelsNoLease p) :
    Rightly i anywhere p fun _ => anywhere := by
  refine (Triple.of_within h anywhere_stable ?_ ?_ fun q c w hq => answer_of_sync i hq c w).mono
    (fun _ _ h => h) fun _ _ _ => trivial
  · exact fun _ _ _ _ _ => ⟨fun _ hg => hg, trivial, trivial⟩
  · intro q hq σ _ _
    refine ⟨trivial, fun rid reason hcancel => ?_, fun c a w _ hw => ⟨answer_grants hw, trivial, trivial⟩⟩
    rw [hq] at hcancel
    cases hcancel

lemma LocklessNoLease.rightly {p : Ctl α} (h : LocklessNoLease p) :
    Rightly i (locks i) p fun _ => locks i := by
  refine (Triple.of_within h locks_stable ?_ ?_ fun q c w hq => answer_of_sync i hq c w).mono
    (fun _ _ h => h) fun _ _ h => h.2
  · exact fun σ s' _ _ hlock => ⟨fun _ hg => hg, trivial, hlock⟩
  · rintro q ⟨hq, huse⟩ σ - hlock
    refine ⟨trivial, fun rid reason hcancel => ?_, fun c a w _ hw => ⟨answer_grants hw, trivial, ?_⟩⟩
    · rw [hq] at hcancel
      cases hcancel
    · exact (answer_lockOwner huse hw).trans hlock

lemma RelinksOnly.locklessNoLease {p : Ctl α} (h : RelinksOnly p) : LocklessNoLease p :=
  h.mono (fun _ _ _ => trivial) (fun _ => leaseCancelOf_of_onePod) fun _ _ => trivial

lemma AdmitsOnly.cancelsNoLease {uid : Uid} {p : Ctl α} (h : AdmitsOnly uid p) : CancelsNoLease p :=
  h.mono (fun _ _ _ => trivial) (fun _ hq => (leaseCancelOf_of_onePod hq).1) fun _ _ => trivial

lemma AdmitsOnly.locklessNoLease {uid : Uid} {p : Ctl α} (h : AdmitsOnly uid p) : LocklessNoLease p :=
  h.mono (fun _ _ _ => trivial) (fun _ => leaseCancelOf_of_onePod) fun _ _ => trivial

/-- A lease is cancelled which was found active with the lock held, and is active still. -/
lemma cancelActive_rightly {rid : Nat} {reason : CancelReason}
    (hreason : reason = .superseded ∨ reason = .podTerminated) :
    Rightly i (fun σ => locks i σ ∧ activeLease rid σ.shared) (call (.cancelReservation rid reason))
      fun _ => locks i := by
  have hstable : Stable (cancelContract i) fun σ => locks i σ ∧ activeLease rid σ.shared := by
    rintro σ σ' hrely ⟨hlock, hactive⟩
    obtain ⟨hlock', hsame⟩ := hrely.1 hlock
    refine ⟨hlock', ?_⟩
    rw [activeLease, hsame.reservations]
    exact hactive
  refine .ask rfl hstable (fun _ => locks_stable) (fun _ _ _ => trivial) fun σ _ h => ⟨?_, ?_⟩
  · intro rid' reason' hcancel
    rcases hreason with rfl | rfl <;> cases hcancel <;> exact h.2
  · intro c a w _ hw
    have hanswer : answer i (.cancelReservation rid reason) c σ.world = some (a, w) := hw
    exact ⟨answer_grants hanswer, trivial, (answer_lockOwner rfl hanswer).trans h.1⟩

/-- A part which runs with the lock held. -/
lemma locked_rightly {body : Ctl α} (h : Rightly i (locks i) body fun _ _ => True) :
    Rightly i anywhere (withReservationLock body) fun _ => anywhere := by
  refine .bind (R := fun _ => locks i) ?_ fun _ => .bind h fun a => .bind (R := fun _ => anywhere) ?_ fun _ =>
    .pure fun _ _ _ => trivial
  · refine .ask rfl anywhere_stable (fun _ => locks_stable) (fun _ _ _ => trivial) fun σ _ _ => ⟨?_, ?_⟩
    · intro rid reason hcancel
      cases hcancel
    · intro c a w _ hw
      have hanswer : answer i .acquireReservationLock c σ.world = some (a, w) := hw
      exact ⟨answer_grants hanswer, trivial, (reservationLock.acquires rfl hw).2⟩
  · have hrelease : CancelsNoLease (call .releaseReservationLock) := Prog.Within.ask rfl
    exact hrelease.rightly.pre fun _ _ _ => trivial

end Rules

/-! The parts which cancel no lease. -/

section Quiet

variable (config : Config) (now : Instant)

lemma get_cancelsNoLease : CancelsNoLease (Prog.get : Ctl ControllerState) := .get fun _ => trivial

lemma modify_cancelsNoLease (f : ControllerState → ControllerState) : CancelsNoLease (Prog.modify f) :=
  .modify fun _ => trivial

lemma call_cancelsNoLease {q : Request} (h : leaseCancelOf q = none) : CancelsNoLease (call q) := .ask h

lemma locked_cancelsNoLease {α : Type} {body : Ctl α} (h : CancelsNoLease body) :
    CancelsNoLease (withReservationLock body) :=
  .seq (call_cancelsNoLease rfl) fun _ => .seq h fun _ => .seq (call_cancelsNoLease rfl) fun _ => .pure trivial

lemma TellsOnly.cancelsNoLease {α : Type} {p : Ctl α} (h : TellsOnly p) : CancelsNoLease p :=
  (h.admits "").cancelsNoLease

lemma updateCandidate_cancelsNoLease (ref : Ref) {f : OnDemandCandidate → OnDemandCandidate}
    (hf : ∀ c, askOf (f c) = askOf c) : CancelsNoLease (updateCandidate ref f) :=
  (updateCandidate_tells ref hf).cancelsNoLease

lemma withholdEach_cancelsNoLease (ready : List Ready) (granted : List Uid)
    (withheld : Dict Uid AdmissionWithheld) : CancelsNoLease (withholdEach config ready granted withheld) :=
  .seq (call_cancelsNoLease rfl) fun deferredAt => .forM fun r _ =>
    (handleWithheld_tells config r.uid r.ref deferredAt _).cancelsNoLease

lemma preflightOne_cancelsNoLease (ready : List Ready) (candidate : Uid × Ref) :
    CancelsNoLease (preflightOne config now ready candidate) := by
  refine .seq get_cancelsNoLease fun s => ?_
  dsimp only
  split
  · refine .seq (preflightWithFit_admits candidate.1 candidate.2 config).cancelsNoLease fun status => ?_
    cases status with
    | ready ask fit => exact .pure trivial
    | remove =>
      exact .seq (updateCandidate_cancelsNoLease candidate.2 fun _ => rfl) fun _ =>
        .seq (modify_cancelsNoLease _) fun _ => .pure trivial
    | retry => exact .seq (updateCandidate_cancelsNoLease candidate.2 fun _ => rfl) fun _ => .pure trivial
  · exact .pure trivial

lemma requeueForBetter_cancelsNoLease (uid : Uid) (ref : Ref) :
    CancelsNoLease (requeueForBetter now uid ref) := by
  refine .seq get_cancelsNoLease fun s => ?_
  dsimp only
  split
  · exact .pure trivial
  · exact .seq (call_cancelsNoLease rfl) fun _ => .seq (modify_cancelsNoLease _) fun _ => .seq get_cancelsNoLease fun s =>
      .seq (modify_cancelsNoLease _) fun _ => .pure trivial

lemma tickAttempt_cancelsNoLease (toRemove : List Uid) (uid : Uid) (ref : Ref) :
    CancelsNoLease (tickAttempt config now toRemove uid ref) := by
  have htell : CancelsNoLease (do
      tellQueuedStatus config uid ref now
      return toRemove) :=
    .seq (tellQueuedStatus_admits uid ref config now).cancelsNoLease fun _ => .pure trivial
  refine .seq get_cancelsNoLease fun s => ?_
  dsimp only
  split
  · exact .pure trivial
  · split
    · exact htell
    · refine .seq (tryApplyToleration_admits uid ref _).cancelsNoLease fun done => ?_
      split
      · exact .pure trivial
      · refine .seq get_cancelsNoLease fun s => ?_
        split
        · exact htell
        · exact .pure trivial

lemma tickQueue_cancelsNoLease : CancelsNoLease (tickQueue config now) := by
  refine .seq get_cancelsNoLease fun _ => .seq (.foldlM (fun queued _ toRemove => ?_) []) fun _ =>
    modify_cancelsNoLease _
  refine .seq get_cancelsNoLease fun s => ?_
  split
  · exact .seq (requeueForBetter_cancelsNoLease now queued.1 queued.2) fun ref =>
      tickAttempt_cancelsNoLease config now toRemove queued.1 ref
  · exact .pure trivial

lemma tickNodes_cancelsNoLease (snapshot : List Pod) : CancelsNoLease (tickNodes config now snapshot) := by
  refine .seq ?_ fun nodes => modify_cancelsNoLease _
  rw [tickInventory]
  split
  · exact call_cancelsNoLease rfl
  · exact .pure trivial

/-- The cancels of the no-shows are of no lease. -/
lemma cancelPendingNoshows_cancelsNoLease (snapshot : List Pod) :
    CancelsNoLease (cancelPendingNoshows snapshot) := by
  refine .seq get_cancelsNoLease fun s => ?_
  split
  · exact .pure trivial
  · refine locked_cancelsNoLease (.seq get_cancelsNoLease fun s => .forM fun rid _ => ?_)
    rw [cancelNoshow]
    split
    · exact .pure trivial
    · refine .seq (call_cancelsNoLease rfl) fun cancelled => ?_
      split
      · exact modify_cancelsNoLease _
      · exact .pure trivial

lemma snapshotToleratedPods_cancelsNoLease : CancelsNoLease snapshotToleratedPods :=
  .seq (call_cancelsNoLease rfl) fun _ => .pure trivial

lemma retryWaiters_cancelsNoLease (rid : Option Nat) : CancelsNoLease (retryWaiters config rid) := by
  cases rid with
  | none => exact .pure trivial
  | some rid =>
    refine .seq (call_cancelsNoLease rfl) fun now => .seq get_cancelsNoLease fun s => .forM fun queued _ => ?_
    refine .seq get_cancelsNoLease fun s => ?_
    split
    · refine .seq (tryApplyToleration_admits queued.1 queued.2 _).cancelsNoLease fun done => ?_
      split
      · exact modify_cancelsNoLease _
      · exact .pure trivial
    · exact .pure trivial

lemma noteGpuPodNow_cancelsNoLease (uid : Uid) (record : Option GpuPod) :
    CancelsNoLease (noteGpuPodNow uid record) :=
  .seq (call_cancelsNoLease rfl) fun _ => .seq get_cancelsNoLease fun _ => .seq (modify_cancelsNoLease _) fun _ =>
    .pure trivial

lemma queuePod_cancelsNoLease (pod : Pod) (reservation : ReservationResponse) :
    CancelsNoLease (queuePod pod reservation) :=
  .seq (call_cancelsNoLease rfl) fun _ => modify_cancelsNoLease _

lemma podAdmittable_cancelsNoLease (eventType : EventType) (pod : Pod) (reservation : ReservationResponse) :
    CancelsNoLease (podAdmittable config eventType pod reservation) := by
  refine .seq (queuePod_cancelsNoLease pod reservation) fun _ => ?_
  split
  · exact (followUp_admits pod.uid config).cancelsNoLease
  · exact .pure trivial

lemma emitAnnotationNotice_cancelsNoLease (pod : Pod) (problems : List AnnotationProblem) :
    CancelsNoLease (emitAnnotationNotice config pod problems now) := by
  rw [emitAnnotationNotice]
  split
  · exact (postPendingStatus_tells config pod.uid pod.ns pod.name _ _ now).cancelsNoLease
  · exact .pure trivial

lemma podWaits_cancelsNoLease (eventType : EventType) (pod : Pod) (reservation : ReservationResponse)
    (reasons : List Ineligibility) : CancelsNoLease (podWaits config eventType pod reservation reasons now) := by
  refine .seq (queuePod_cancelsNoLease pod reservation) fun _ => .seq get_cancelsNoLease fun s => ?_
  split
  · exact .seq (modify_cancelsNoLease _) fun _ => (tellQueuedStatus_admits pod.uid _ config now).cancelsNoLease
  · exact .pure trivial

lemma podLeftPending_cancelsNoLease (pod : Pod) (reasons : List Ineligibility) :
    CancelsNoLease (podLeftPending config pod reasons now) := by
  refine .seq get_cancelsNoLease fun s => ?_
  split
  · exact .pure trivial
  · split
    · exact (emitUnknownClassEvent_tells config pod.uid now _ _ _).cancelsNoLease
    · exact (tellPod_tells config pod.uid now _ _ _ _).cancelsNoLease

lemma resolveGpuClassMaps_cancelsNoLease (classIds : List Nat) (prior : GpuClassMaps) :
    CancelsNoLease (resolveGpuClassMaps classIds prior) := by
  refine .seq (call_cancelsNoLease rfl) fun gpuClasses => .foldlM (fun classId _ maps => ?_) _
  rw [resolveGpuClass]
  split
  · exact .pure trivial
  · exact .seq (call_cancelsNoLease rfl) fun _ => .pure trivial

lemma reconcileAfterReservationChange_cancelsNoLease (active cancelled : List ReservationResponse)
    (ownerChanges : List (ReservationResponse × String)) (maps : GpuClassMaps) :
    CancelsNoLease
      (reconcileAfterReservationChange config active cancelled ownerChanges now maps) := by
  refine .seq (call_cancelsNoLease rfl) fun _ => .seq (modify_cancelsNoLease _) fun _ => ?_
  split
  · exact .pure trivial
  · refine .seq (.seq (call_cancelsNoLease rfl) fun _ => .pure trivial) fun snapshot =>
      .seq (.foldlM (fun r _ evictions => ?_) _) fun _ => .pure trivial
    rw [planCancelledReservation]
    dsimp only
    split
    · refine .seq ((adoptPods_relinks now config _ .replaced).mono (fun _ _ _ => trivial) ?_ fun _ _ => trivial)
        fun _ => .pure trivial
      exact fun _ hq => (leaseCancelOf_of_onePod hq).1
    · exact .pure trivial

lemma executeEviction_cancelsNoLease (eviction : PodEviction) : CancelsNoLease (executeEviction eviction) := by
  refine .seq (call_cancelsNoLease rfl) fun pod => .seq ?_ fun _ => .seq (call_cancelsNoLease rfl) fun deleted => ?_
  · cases pod with
    | none => exact .pure trivial
    | some p => exact .seq (call_cancelsNoLease rfl) fun _ => .pure trivial
  · split
    · exact modify_cancelsNoLease _
    · exact .pure trivial

lemma refreshReservations_cancelsNoLease : CancelsNoLease (refreshReservations config) := by
  refine .seq (call_cancelsNoLease rfl) fun fetched => ?_
  split
  · exact .pure trivial
  · refine .seq get_cancelsNoLease fun s => .seq (resolveGpuClassMaps_cancelsNoLease _ _) fun maps =>
      .seq (call_cancelsNoLease rfl) fun now => .seq (locked_cancelsNoLease ?_) fun evictions =>
      .seq (.forM fun e _ => executeEviction_cancelsNoLease e) fun _ =>
      .seq (call_cancelsNoLease rfl) fun trackedAt => modify_cancelsNoLease _
    exact .seq get_cancelsNoLease fun s =>
      .seq (reconcileAfterReservationChange_cancelsNoLease config now _ _ _ maps) fun _ =>
        .seq (modify_cancelsNoLease _) fun _ => .pure trivial

lemma pushReservations_cancelsNoLease (pushed : List ReservationResponse) :
    CancelsNoLease (pushReservations config pushed) := by
  refine .seq (call_cancelsNoLease rfl) fun now => .seq get_cancelsNoLease fun s =>
    .seq (resolveGpuClassMaps_cancelsNoLease _ _) fun maps =>
      .seq (locked_cancelsNoLease ?_) fun evictions => .forM fun e _ => executeEviction_cancelsNoLease e
  exact .seq get_cancelsNoLease fun s =>
    .seq (reconcileAfterReservationChange_cancelsNoLease config now _ _ _ maps) fun _ =>
      .seq (modify_cancelsNoLease _) fun _ => .pure trivial

end Quiet

/-! The parts which cancel leases. -/

section Cancelling

variable {i : Nat} (config : Config) (now : Instant)

lemma modify_locks (f : ControllerState → ControllerState) :
    Rightly i (locks i) (Prog.modify f) fun _ => locks i :=
  LocklessNoLease.rightly (.modify fun _ => trivial)

lemma cancelMergedLease_rightly (leaseId : Nat) :
    Rightly i (locks i) (cancelMergedLease leaseId) fun _ => locks i := by
  refine .get_bind fun s => ?_
  dsimp only
  split
  · rename_i hactive
    refine .bind ((cancelActive_rightly (.inl rfl)).pre ?_) fun cancelled => ?_
    · rintro σ - ⟨rfl, hlock⟩
      exact ⟨hlock, hactive⟩
    · split <;> exact modify_locks _
  · exact (modify_locks _).pre fun _ _ h => h.2

lemma retireLease_rightly (leaseId : Option Nat) :
    Rightly i (locks i) (retireLease leaseId) fun _ => locks i := by
  cases leaseId with
  | none => exact .pure fun _ _ h => h
  | some id => exact cancelMergedLease_rightly id

lemma mergePod_rightly (pods : List PodRuntimeView) (planned : PodRuntimeView × ReservationResponse) :
    Rightly i (locks i) (mergePod now pods planned) fun _ => locks i := by
  refine .bind (relinkPod_relinks now planned.1 planned.2 .merge).locklessNoLease.rightly fun landed => ?_
  split
  · exact .bind (retireLease_rightly planned.1.reservationId) fun _ => .pure fun _ _ h => h
  · exact .pure fun _ _ h => h

lemma mergeOndemandIntoBookings_rightly (pods : List PodRuntimeView) :
    Rightly i (locks i) (mergeOndemandIntoBookings config pods now) fun _ => locks i := by
  refine .get_bind fun s => .pre (P := locks i) ?_ fun _ _ h => h.2
  split
  · exact Triple.foldlM (J := fun _ _ => locks i) (fun planned _ pods => mergePod_rightly now pods planned) _ pods
  · exact .pure fun _ _ h => h

lemma adoptPods_rightly (pods : List PodRuntimeView) (cause : RelinkCause) :
    Rightly i (locks i) (adoptPods config pods now cause) fun _ => locks i :=
  (adoptPods_relinks now config pods cause).locklessNoLease.rightly

lemma tickSnapshot_rightly (snapshot : List Pod) :
    Rightly i anywhere (tickSnapshot config now snapshot) fun _ => anywhere := by
  refine .bind (cancelPendingNoshows_cancelsNoLease snapshot).rightly fun _ =>
    .bind (locked_rightly (.pure fun _ _ _ => trivial)) fun _ =>
    .bind (call_cancelsNoLease rfl).rightly fun _ => ?_
  split
  · refine locked_rightly (.bind (mergeOndemandIntoBookings_rightly config now _) fun views => ?_)
    exact .bind (adoptPods_rightly config now views .overstay) fun _ => .pure fun _ _ _ => trivial
  · exact .pure fun _ _ h => h

lemma drainPendingMergeCancels_rightly : Rightly i anywhere drainPendingMergeCancels fun _ => anywhere := by
  refine .bind get_cancelsNoLease.rightly fun s => ?_
  split
  · exact .pure fun _ _ h => h
  · refine locked_rightly (.get_bind fun s => .pre (P := locks i) ?_ fun _ _ h => h.2)
    exact (Triple.forM_keep (fun id => cancelMergedLease_rightly id) _).mono (fun _ _ h => h)
      fun _ _ _ => trivial

lemma withSnapshot_rightly {snapshot : Option (List Pod)} {body : List Pod → Ctl Unit}
    (h : ∀ pods, Rightly i anywhere (body pods) fun _ => anywhere) :
    Rightly i anywhere (withSnapshot snapshot body) fun _ => anywhere := by
  cases snapshot with
  | none => exact .pure fun _ _ h => h
  | some pods => exact h pods

/-- The compensating cancel is of the lease which the app has granted to this task. -/
lemma admitUnderLease_rightly (uid : Uid) (ref : Ref) (lease : ReservationResponse) :
    Rightly i (fun σ => locks i σ ∧ (i, lease.id) ∈ σ.world.grants)
      (admitUnderLease config uid ref lease now) fun _ _ => True := by
  have hgranted : Lasting (cancelContract i) fun σ => (i, lease.id) ∈ σ.world.grants :=
    ⟨fun σ σ' hrely h => hrely.2 h, fun σ σ' hguar h => hguar h⟩
  have hquiet : ∀ {α : Type} {p : Ctl α}, CancelsNoLease p →
      Rightly i (fun σ => (i, lease.id) ∈ σ.world.grants) p fun _ σ => (i, lease.id) ∈ σ.world.grants :=
    fun hp => (hp.rightly.frame hgranted).mono (fun _ _ h => ⟨trivial, h⟩) fun _ _ h => h.2
  refine .pre (P := fun σ => (i, lease.id) ∈ σ.world.grants) ?_ fun _ _ h => h.2
  refine .bind (hquiet get_cancelsNoLease) fun s => .bind (hquiet (modify_cancelsNoLease _)) fun _ =>
    .bind (hquiet (tryApplyToleration_admits uid _ _).cancelsNoLease) fun admitted =>
    .bind (hquiet get_cancelsNoLease) fun s => ?_
  split
  · exact .pure fun _ _ _ => trivial
  · refine .bind (R := fun _ => anywhere) (.bind (R := fun _ => anywhere) ?_ fun _ => ?_) fun _ =>
      .pure fun _ _ _ => trivial
    · refine .ask rfl hgranted.1 (fun _ => anywhere_stable) (fun _ _ _ => trivial) fun σ _ h => ⟨?_, ?_⟩
      · intro rid reason hcancel
        cases hcancel
        exact h
      · intro c a w _ hw
        have hanswer : answer i (.cancelReservation lease.id .controllerRevoked) c σ.world = some (a, w) := hw
        exact ⟨answer_grants hanswer, trivial, trivial⟩
    · exact (modify_cancelsNoLease _).rightly

lemma grantAndAdmit_rightly (uid : Uid) (ref : Ref) (ask : OnDemandAdmissionCandidate) :
    Rightly i anywhere (grantAndAdmit config uid ref ask) fun _ => anywhere := by
  refine .bind (call_cancelsNoLease rfl).rightly fun now => .bind get_cancelsNoLease.rightly fun s => ?_
  refine .bind (R := fun attempt σ => ∀ lease, attempt.reservation = some lease →
    (i, lease.id) ∈ σ.world.grants) ?_ fun attempt => ?_
  · refine .ask rfl anywhere_stable (fun _ σ σ' hrely h lease hlease => hrely.2 (h lease hlease))
      (fun _ _ _ => trivial) fun σ _ _ => ⟨?_, ?_⟩
    · intro rid reason hcancel
      cases hcancel
    · intro c attempt w _ hw
      have hanswer : answer i (.createReservation (ask.request uid (s.candidate ref).bestEffort)) c σ.world =
          some (attempt, w) := hw
      exact ⟨answer_grants hanswer, trivial, fun lease hlease => mem_grants_of_create hanswer hlease⟩
  · cases hattempt : attempt.reservation with
    | none =>
      refine .pre (P := anywhere) ?_ fun _ _ _ => trivial
      exact .bind (handleRefusal_tells config uid ref now attempt).cancelsNoLease.rightly fun _ =>
        .pure fun _ _ h => h
    | some lease =>
      have hgranted : Lasting (cancelContract i) fun σ => (i, lease.id) ∈ σ.world.grants :=
        ⟨fun σ σ' hrely h => hrely.2 h, fun σ σ' hguar h => hguar h⟩
      refine .pre (P := fun σ => anywhere σ ∧ (i, lease.id) ∈ σ.world.grants) ?_
        fun _ _ h => ⟨trivial, h lease rfl⟩
      have hupdate : CancelsNoLease (updateCandidate ref fun c =>
          { c with leaseErrorCount := 0, awaitingCapacity := false }) :=
        updateCandidate_cancelsNoLease ref fun _ => rfl
      refine .bind (hupdate.rightly.frame hgranted) fun _ => .bind (R := fun _ => anywhere) ?_ fun admitted => ?_
      · -- the grant still stands when the lock is had
        refine .bind (R := fun _ σ => locks i σ ∧ (i, lease.id) ∈ σ.world.grants) ?_ fun _ =>
          .bind (admitUnderLease_rightly config now uid ref lease) fun admitted =>
          .bind ((call_cancelsNoLease rfl).rightly.pre fun _ _ _ => trivial) fun _ => .pure fun _ _ h => h
        refine .ask rfl (fun σ σ' hrely h => ⟨trivial, hrely.2 h.2⟩)
          (fun _ σ σ' hrely h => ⟨(hrely.1 h.1).1, hrely.2 h.2⟩) (fun _ _ _ => trivial) fun σ _ h => ⟨?_, ?_⟩
        · intro rid reason hcancel
          cases hcancel
        · intro c a w _ hw
          have hanswer : answer i .acquireReservationLock c σ.world = some (a, w) := hw
          exact ⟨answer_grants hanswer, trivial, (reservationLock.acquires rfl hw).2,
            answer_grants hanswer h.2⟩
      · split
        · exact .pure fun _ _ h => h
        · exact .bind (jitteredRetryAt_tells now).cancelsNoLease.rightly fun _ =>
            .bind (updateCandidate_cancelsNoLease ref fun _ => rfl).rightly fun _ => .pure fun _ _ h => h

lemma grantOne_rightly (r : Ready) : Rightly i anywhere (grantOne config r) fun _ => anywhere := by
  refine .bind (call_cancelsNoLease rfl).rightly fun now =>
    .bind (holdOnFit_tells config r.uid r.ref now r.fit).cancelsNoLease.rightly fun held => ?_
  split
  · exact (updateCandidate_cancelsNoLease r.ref fun _ => rfl).rightly
  · refine .bind (grantAndAdmit_rightly config r.uid r.ref r.ask) fun done => ?_
    split
    · exact (modify_cancelsNoLease _).rightly
    · exact .pure fun _ _ h => h

lemma admitBatch_rightly (ready : List Ready) :
    Rightly i anywhere (admitBatch config ready) fun _ => anywhere := by
  have hgrants : ∀ granted, Rightly i anywhere (grantEach config ready granted) fun _ => anywhere :=
    fun granted => Triple.forM_keep (grantOne_rightly config) _
  rw [admitBatch]
  split
  · refine .bind (call_cancelsNoLease rfl).rightly fun selection => ?_
    cases selection with
    | none => exact hgrants _
    | some answered =>
      exact .bind (hgrants _) fun _ => (withholdEach_cancelsNoLease config ready _ _).rightly
  · exact hgrants _

lemma runOndemandAdmissionOnce_rightly :
    Rightly i anywhere (runOndemandAdmissionOnce config) fun _ => anywhere := by
  refine .bind (call_cancelsNoLease rfl).rightly fun now => .bind get_cancelsNoLease.rightly fun s => ?_
  have hpreflights : CancelsNoLease (s.candidatesByAge.foldlM (preflightOne config now) []) :=
    .foldlM (fun candidate _ ready => preflightOne_cancelsNoLease config now ready candidate) []
  refine .bind hpreflights.rightly fun ready => ?_
  split
  · exact .pure fun _ _ h => h
  · exact admitBatch_rightly config ready

lemma runPasses_rightly (n : Nat) : Rightly i anywhere (runPasses config n) fun _ => anywhere := by
  induction n with
  | zero => exact .pure fun _ _ h => h
  | succ n ih =>
    refine .bind (modify_cancelsNoLease _).rightly fun _ =>
      .bind (runOndemandAdmissionOnce_rightly config) fun _ => .bind get_cancelsNoLease.rightly fun s => ?_
    split
    · exact ih
    · exact .pure fun _ _ h => h

lemma runOndemandAdmission_rightly (passes : Nat) :
    Rightly i anywhere (runOndemandAdmission config passes) fun _ => anywhere := by
  refine .bind get_cancelsNoLease.rightly fun s => ?_
  split
  · exact .pure fun _ _ h => h
  · split
    · exact (modify_cancelsNoLease _).rightly
    · exact .bind (modify_cancelsNoLease _).rightly fun _ => .bind (runPasses_rightly config passes) fun _ =>
        (modify_cancelsNoLease _).rightly

lemma runQueueTick_rightly (passes : Nat) :
    Rightly i anywhere (runQueueTick config passes) fun _ => anywhere :=
  .bind (call_cancelsNoLease rfl).rightly fun now =>
    .bind snapshotToleratedPods_cancelsNoLease.rightly fun _ =>
    .bind (withSnapshot_rightly fun _ => (modify_cancelsNoLease _).rightly) fun _ =>
    .bind (modify_cancelsNoLease _).rightly fun _ =>
    .bind (withSnapshot_rightly fun pods => tickSnapshot_rightly config now pods) fun _ =>
    .bind drainPendingMergeCancels_rightly fun _ =>
    .bind (withSnapshot_rightly fun pods => (tickNodes_cancelsNoLease config now pods).rightly) fun _ =>
    .bind (tickQueue_cancelsNoLease config now).rightly fun _ =>
    .bind (runOndemandAdmission_rightly config passes) fun _ => (modify_cancelsNoLease _).rightly

lemma PreemptsOnly.locklessNoLease {α : Type} {victim : PodRuntimeView} {p : Ctl α} (h : PreemptsOnly victim p) :
    LocklessNoLease p := by
  refine h.mono (fun _ _ _ => trivial) (fun q hq => ?_) fun _ _ => trivial
  cases q <;> first | exact ⟨rfl, rfl⟩ | exact hq.elim

lemma PlansOnly.locklessNoLease {α : Type} {p : Ctl α} (h : PlansOnly p) : LocklessNoLease p := by
  refine h.mono (fun _ _ _ => trivial) (fun q hq => ?_) fun _ _ => trivial
  cases q <;> first | exact ⟨rfl, rfl⟩ | exact hq.elim

lemma sweepUnderLock_rightly (boundaries : List Instant) (headroomDue : Bool) (snapshot : List Pod)
    (nodes : NodeSnapshot) :
    Rightly i (locks i) (sweepUnderLock config now boundaries headroomDue snapshot nodes) fun _ => locks i := by
  have hkill : ∀ toKill : List (PodRuntimeView × PodEvent), Rightly i (locks i) (do
      toKill.forM (preemptPod config now)
      return toKill.map (·.1.uid)) fun _ => locks i := fun toKill =>
    .bind (Triple.forM_keep (fun v => (preemptPod_preempts config now v).locklessNoLease.rightly) toKill)
      fun _ => .pure fun _ _ h => h
  refine .bind (mergeOndemandIntoBookings_rightly config now _) fun views =>
    .bind (adoptPods_rightly config now views .overstay) fun pods =>
    .bind (R := fun _ => locks i) (Triple.foldlM (J := fun _ _ => locks i) (fun b _ toKill =>
      (planBoundary_onlyPlans config now _ pods toKill b).locklessNoLease.rightly) _ []) fun toKill => ?_
  dsimp only
  split
  · exact .bind (planHeadroom_onlyPlans config now _ pods toKill).locklessNoLease.rightly hkill
  · exact .bind (.pure fun _ _ h => h) hkill

lemma runPreemptionSweep_rightly : Rightly i anywhere (runPreemptionSweep config) fun _ => anywhere := by
  refine .bind (call_cancelsNoLease rfl).rightly fun now => .bind (modify_cancelsNoLease _).rightly fun _ =>
    .bind get_cancelsNoLease.rightly fun s => ?_
  split
  · exact .pure fun _ _ h => h
  · refine .bind snapshotToleratedPods_cancelsNoLease.rightly fun snapshot => ?_
    split
    · exact .pure fun _ _ h => h
    · refine .bind (call_cancelsNoLease rfl).rightly fun nodes => ?_
      split
      · exact .pure fun _ _ h => h
      · refine .bind (locked_rightly ((sweepUnderLock_rightly config now _ _ _ _).mono (fun _ _ h => h)
          fun _ _ _ => trivial)) fun doomed => ?_
        split
        · exact .bind (call_cancelsNoLease rfl).rightly fun _ => (modify_cancelsNoLease _).rightly
        · exact .pure fun _ _ h => h

/-- The lease of an ended pod is looked up and cancelled under the lock. -/
lemma teardownOndemandLease_rightly (pod : Pod) :
    Rightly i anywhere (teardownOndemandLease pod) fun _ => anywhere := by
  rw [teardownOndemandLease]
  split
  · exact .pure fun _ _ h => h
  · rename_i reservationId href
    refine locked_rightly (.get_bind fun s => ?_)
    split
    · exact .pure fun _ _ _ => trivial
    · rename_i res hfind
      split
      · exact .pure fun _ _ _ => trivial
      · rename_i hlease
        obtain ⟨hstatus, hkind⟩ := not_or.mp hlease
        refine .bind ((cancelActive_rightly (.inr rfl)).pre ?_) fun cancelled => ?_
        · rintro σ - ⟨rfl, hlock⟩
          refine ⟨hlock, ?_⟩
          rw [activeLease, hfind]
          simp [not_not.mp hstatus, not_not.mp hkind]
        · split
          · exact .bind (modify_locks _) fun _ => .pure fun _ _ _ => trivial
          · exact .pure fun _ _ _ => trivial

variable (passes : Nat)

lemma admitIf_rightly (wanted : Bool) : Rightly i anywhere (admitIf config passes wanted) fun _ => anywhere := by
  rw [admitIf]
  split
  · exact runOndemandAdmission_rightly config passes
  · exact .pure fun _ _ h => h

lemma podEnded_rightly (pod : Pod) : Rightly i anywhere (podEnded config passes pod) fun _ => anywhere := by
  have hreport : ∀ now, CancelsNoLease (reportOverstayIfAny config pod now) := fun now =>
    (reportOverstayIfAny_announces config now pod).mono (fun _ _ _ => trivial)
      (fun q hq => by cases q <;> first | rfl | exact hq.elim) fun _ _ => trivial
  exact .bind (modify_cancelsNoLease _).rightly fun _ => .bind get_cancelsNoLease.rightly fun s =>
    .bind (modify_cancelsNoLease _).rightly fun _ => .bind (noteGpuPodNow_cancelsNoLease pod.uid none).rightly fun _ =>
    .bind (call_cancelsNoLease rfl).rightly fun now => .bind (hreport now).rightly fun _ =>
    .bind (teardownOndemandLease_rightly pod) fun _ => .bind (retryWaiters_cancelsNoLease config _).rightly fun _ =>
      admitIf_rightly config passes _

lemma podTolerated_rightly (pod : Pod) : Rightly i anywhere (podTolerated config passes pod) fun _ => anywhere :=
  .bind (call_cancelsNoLease rfl).rightly fun _ => .bind (modify_cancelsNoLease _).rightly fun _ =>
    .bind (noteGpuPodNow_cancelsNoLease pod.uid _).rightly fun _ => admitIf_rightly config passes _

lemma podEligible_rightly (eventType : EventType) (pod : Pod) (minRuntime : Option Nat) (bestEffort : Bool)
    (problems : List AnnotationProblem) :
    Rightly i anywhere (podEligible config passes eventType pod minRuntime bestEffort problems now)
      fun _ => anywhere := by
  cases eventType with
  | added =>
    exact .bind (call_cancelsNoLease rfl).rightly fun _ => .bind (modify_cancelsNoLease _).rightly fun _ =>
      .bind (emitAnnotationNotice_cancelsNoLease config now pod problems).rightly fun _ =>
        runOndemandAdmission_rightly config passes
  | _ =>
    refine .bind get_cancelsNoLease.rightly fun s => ?_
    split
    · exact .pure fun _ _ h => h
    · refine .ite (.bind (call_cancelsNoLease rfl).rightly fun _ => .bind (CancelsNoLease.rightly ?_) fun _ =>
        runOndemandAdmission_rightly config passes) (.pure fun _ _ h => h)
      exact updateCandidate_cancelsNoLease _ fun _ => rfl

lemma podUnreserved_rightly (eventType : EventType) (pod : Pod) :
    Rightly i anywhere (podUnreserved config passes eventType pod now) fun _ => anywhere := by
  refine .ite ?_ ?_
  · exact podEligible_rightly config now passes eventType pod _ _ _
  · refine .bind (call_cancelsNoLease rfl).rightly fun _ => .bind get_cancelsNoLease.rightly fun s => ?_
    dsimp only
    split
    · exact (podWaits_cancelsNoLease config now eventType pod _ _).rightly
    · split
      · exact (podLeftPending_cancelsNoLease config now pod _).rightly
      · exact .pure fun _ _ h => h

lemma watchEvent_rightly (eventType : EventType) (pod : Pod) :
    Rightly i anywhere (watchEvent config passes eventType pod) fun _ => anywhere := by
  rw [watchEvent]
  split
  · exact .pure fun _ _ h => h
  · split
    · exact podEnded_rightly config passes pod
    · split
      · exact podTolerated_rightly config passes pod
      · refine .bind (call_cancelsNoLease rfl).rightly fun now => .bind get_cancelsNoLease.rightly fun s => ?_
        split
        · exact .bind (modify_cancelsNoLease _).rightly fun _ =>
            (tellPod_tells config pod.uid now _ _ _ _).cancelsNoLease.rightly
        · split
          · exact (podAdmittable_cancelsNoLease config eventType pod _).rightly
          · exact podUnreserved_rightly config now passes eventType pod

/-- Every task has its cancels carried out for their reasons. -/
lemma program_rightly (job : Job) : Rightly i anywhere (job.program config) fun _ => anywhere := by
  cases job with
  | fetch => exact (refreshReservations_cancelsNoLease config).rightly
  | push pushed => exact (pushReservations_cancelsNoLease config pushed).rightly
  | watch eventType pod passes => exact watchEvent_rightly config passes eventType pod
  | queueTick passes => exact runQueueTick_rightly config passes
  | sweep => exact runPreemptionSweep_rightly config
  | admissionPass => exact runOndemandAdmissionOnce_rightly config
  | grant uid ref ask => exact .bind (grantAndAdmit_rightly config uid ref ask) fun _ => .pure fun _ _ h => h

end Cancelling

/-! The whole system. -/

/-- A cancel which the app is asked for in this step is for its reason. -/
def cancelsForReason (p : System) (m : SystemMove) : Prop :=
  ∀ i c l rid reason k, m = .serve i c →
    p.tasks[i]? = some (l, .waiting (.cancelReservation rid reason) k) → CancelOf i rid p.snap reason

/-- The tasks share the lock in order, and each can go on. -/
def cancelsInOrder (p : System) : Prop :=
  LockInOrder p ∧ poolOk runtime (fun _ => True) (fun _ i => cancelContract i) p

lemma cancelsInOrder_step (config : Config) {p : System} (hp : cancelsInOrder p) (m : SystemMove) :
    cancelsInOrder (systemStep config p m) ∧ cancelsForReason p m := by
  obtain ⟨hlock, hok⟩ := hp
  obtain ⟨hlock', hstep⟩ := lockInOrder_step config hlock m
  have hgrants : p.snap.world.grants ⊆ (systemStep config p m).snap.world.grants := by
    refine step_world (R := fun w w' => w.grants ⊆ w'.grants) (fun _ _ hg => hg)
      (fun _ _ _ => List.Subset.trans) (fun i q c a w w' hw => ?_) (fun e σ => ?_) p m
    · exact answer_grants (q := q) hw
    · rw [outside, outside_grants]
      exact fun _ hg => hg
  have hrely : othersRely (fun _ i => cancelContract i) p m (systemStep config p m).snap :=
    fun i l t _ _ htask => ⟨fun hheld => hstep.undisturbed hheld htask, hgrants⟩
  refine ⟨⟨hlock', poolOk_step hok (fun job _ => ?_) (fun _ _ _ _ _ _ _ => hrely) (fun _ _ _ _ _ _ _ => trivial)
    fun e he => ⟨trivial, ?_⟩⟩, ?_⟩
  · exact taskOk_ready anywhere_stable (program_rightly config job) trivial
  · subst he
    exact hrely
  · rintro i c l rid reason k rfl hi
    have hserved := poolOk_served hok hi
    cases reason with
    | noShow => trivial
    | _ => exact hserved rid _ rfl

/-- In every run of the system, a booking of a user is cancelled as a no-show only.  A cancel sent because a lease
was merged away, or its pod has ended, finds it held as an active lease when the app is asked; and one which takes
a grant back is of what the app has granted to the same task. -/
theorem cancels_forReason (config : Config) (s : ControllerState) (w : World) (hlock : w.lockOwner = none)
    (ms : List SystemMove) :
    runMeets runtime (Job.program config) outside cancelsForReason ⟨⟨s, w⟩, []⟩ ms := by
  have hstart : cancelsInOrder ⟨⟨s, w⟩, []⟩ := by
    refine ⟨lockInOrder_start hlock, trivial, fun i l t hi => ?_⟩
    cases hi
  have hstep : ∀ p m, cancelsInOrder p → True → cancelsInOrder (systemStep config p m) ∧ cancelsForReason p m :=
    fun p m hp _ => cancelsInOrder_step config hp m
  exact runMeets_of_step hstep hstart (runMeets_of_forall (fun _ _ => trivial) _ ms)

/-- The pod of a lease, on its way out. -/
def leavingPod : Pod where
  uid := "pod-a"
  ns := "alice"
  name := "train"
  gpuClass := "h100"
  gpuCount := 1
  phase := .running
  bookingReference := some 1

/-- Its deletion is seen, and its lease cancelled. -/
def leaseEnds : List SystemMove :=
  [.spawn (.watch .deleted leavingPod 1), .run 0 [], .serve 0 {}, .run 0 [], .serve 0 {}, .run 0 [],
    .serve 0 {}, .run 0 []]

theorem cancels_forReason_leaseEnds :
    1 ∈ (systemRun {} ⟨⟨{ reservations := leaseAndBooking 1 }, {}⟩, []⟩ leaseEnds).snap.world.cancelled ∧
      runMeets runtime (Job.program {}) outside cancelsForReason
        ⟨⟨{ reservations := leaseAndBooking 1 }, {}⟩, []⟩ leaseEnds :=
  ⟨by decide +kernel, cancels_forReason {} _ _ rfl leaseEnds⟩

end GpuReservation.Proofs
