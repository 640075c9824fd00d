import GpuReservation.Library.Lock
import GpuReservation.Model.System
import GpuReservation.Proofs.NoShow
import GpuReservation.Proofs.SweepFootprints

/-!
# What the reservation lock guards

No task of the controller changes its reservations, or the classes they are of, unless it holds the
reservation lock.
-/

namespace GpuReservation.Proofs

open GpuReservation.Library GpuReservation.Model

def lockUse : Request → LockUse
  | .acquireReservationLock => .acquires
  | .releaseReservationLock => .releases
  | _ => .other

/-- The reservations, and the classes they are of, are what they were. -/
structure SameReservations (s s' : ControllerState) : Prop where
  reservations : s'.reservations = s.reservations
  labels : s'.gpuClassLabels = s.gpuClassLabels
  ids : s'.gpuClassIds = s.gpuClassIds

/-- The reservation the call cancels as a no-show. -/
def noshowCancelOf : Request → Option Nat
  | .cancelReservation rid .noShow => some rid
  | _ => none

def noNoshowCancel (q : Request) : Prop := noshowCancelOf q = none

def anyCall (_ : Request) : Prop := True

/-- A part which changes the reservations only with the lock held, and makes only calls allowed. -/
def Orderly {α : Type} (allowed : Request → Prop) (p : Ctl α) : Prop :=
  p.Guarded lockUse SameReservations allowed false

/-- A part which leaves the lock alone. -/
def LockFree {α : Type} (allowed : Request → Prop) (p : Ctl α) : Prop :=
  p.Within (fun _ _ => True) (fun q => allowed q ∧ lockUse q = .other) fun _ => True

namespace SameReservations

variable {s s' s'' : ControllerState}

lemma refl (s : ControllerState) : SameReservations s s := ⟨rfl, rfl, rfl⟩

lemma trans (h : SameReservations s s') (h' : SameReservations s' s'') : SameReservations s s'' :=
  ⟨h'.reservations.trans h.reservations, h'.labels.trans h.labels, h'.ids.trans h.ids⟩

lemma of_admits {uid : Uid} (h : OnlyAdmits uid s s') : SameReservations s s' := by
  rw [h.rest]
  exact ⟨rfl, rfl, rfl⟩

lemma of_relinks (h : OnlyRelinks s s') : SameReservations s s' := by
  obtain ⟨occupancy, rfl⟩ := h
  exact ⟨rfl, rfl, rfl⟩

lemma foldl {γ : Type} {f : ControllerState → γ → ControllerState}
    (hf : ∀ s x, SameReservations s (f s x)) (l : List γ) (s : ControllerState) :
    SameReservations s (l.foldl f s) := by
  induction l generalizing s with
  | nil => exact refl s
  | cons x l ih => exact (hf s x).trans (ih (f s x))

end SameReservations

section Changes

variable (s : ControllerState) (now : Instant)

lemma setGpuPod_same (uid : Uid) (record : Option GpuPod) :
    SameReservations s (s.setGpuPod uid record now) := by
  obtain ⟨_, _, _, _, h⟩ := setGpuPod_eq s uid record now
  rw [h]
  exact ⟨rfl, rfl, rfl⟩

lemma noteGpuPod_same (uid : Uid) (record : Option GpuPod) :
    SameReservations s (s.noteGpuPod uid record now) := by
  rw [ControllerState.noteGpuPod]
  split
  · have hwoken : ∀ s (e : Uid × Ref), SameReservations s
        (s.modifyCandidate e.2 (ControllerState.wake now)) := fun _ _ => ⟨rfl, rfl, rfl⟩
    exact (setGpuPod_same s now uid record).trans (.foldl hwoken _ _)
  · exact setGpuPod_same s now uid record

lemma markPodSeenForNoshow_same (ns label : String) (rid : Option Nat) (group : Option String) :
    SameReservations s (s.markPodSeenForNoshow ns label rid group now) := by
  cases rid with
  | some rid =>
    rw [ControllerState.markPodSeenForNoshow]
    split
    · exact .refl s
    · split
      · exact .refl s
      · exact ⟨rfl, rfl, rfl⟩
  | none =>
    rw [ControllerState.markPodSeenForNoshow]
    split
    · exact .refl s
    · exact ⟨rfl, rfl, rfl⟩

lemma keepWarm_same (pod : Pod) : SameReservations s (s.keepWarm pod now) := by
  have hseen := (SameReservations.mk rfl rfl rfl : SameReservations s (s.forgetPod pod.uid)).trans
    (markPodSeenForNoshow_same _ now pod.ns pod.gpuClass pod.bookingReference pod.groupLabel)
  rw [ControllerState.keepWarm]
  split
  · exact hseen
  · exact hseen.trans ⟨rfl, rfl, rfl⟩

lemma releasePod_same (uid : Uid) : SameReservations s (s.releasePod uid) := by
  obtain ⟨_, h⟩ := releasePod_eq s uid
  rw [h]
  exact ⟨rfl, rfl, rfl⟩

lemma addOndemandCandidate_same (c : OnDemandCandidate) :
    SameReservations s (s.addOndemandCandidate c) := by
  rw [ControllerState.addOndemandCandidate]
  split
  · exact .refl s
  · exact ⟨rfl, rfl, rfl⟩

lemma enqueuePod_same (uid : Uid) (podName podNamespace gpuClassLabel : String) (gpuRequested : Nat)
    (groupLabel : Option String) (reservation : ReservationResponse) :
    SameReservations s (s.enqueuePod uid podName podNamespace gpuClassLabel gpuRequested groupLabel
      reservation now) :=
  .of_admits (onlyAdmits_enqueuePod uid s podName podNamespace gpuClassLabel gpuRequested groupLabel
    reservation now)

lemma checkNoshowDeadlines_same : SameReservations s (s.checkNoshowDeadlines now) := by
  obtain ⟨_, _, _, h, -⟩ := checkNoshowDeadlines_eq s now
  rw [h]
  exact ⟨rfl, rfl, rfl⟩

lemma refreshNodeFeasibility_same (config : Config) (snapshot : List Pod)
    (nodes : Option NodeSnapshot) :
    SameReservations s (s.refreshNodeFeasibility config snapshot now nodes) := by
  unfold ControllerState.refreshNodeFeasibility
  cases nodes <;> dsimp only <;> split <;> exact ⟨rfl, rfl, rfl⟩

end Changes

section Parts

variable {α β : Type} {allowed : Request → Prop}

namespace Orderly

lemma any {p : Ctl α} (h : Orderly allowed p) : Orderly anyCall p :=
  h.mono (fun _ _ hk => hk) fun _ _ => trivial

lemma pure (a : α) : Orderly allowed (Pure.pure a) := Prog.Guarded.pure a

lemma seq {p : Ctl α} {f : α → Ctl β} (hp : Orderly allowed p) (hf : ∀ a, Orderly allowed (f a)) :
    Orderly allowed (p >>= f) := Prog.Guarded.bind hp hf

lemma modify {f : ControllerState → ControllerState} (h : ∀ s, SameReservations s (f s)) :
    Orderly allowed (Prog.modify f : Ctl Unit) := ⟨fun _ => h, fun _ => rfl⟩

lemma get : Orderly allowed (Prog.get : Ctl ControllerState) := ⟨fun _ => .refl, fun _ => rfl⟩

lemma call {q : Request} (hq : allowed q) (huse : lockUse q = .other) :
    Orderly allowed (Model.call q) := by
  refine ⟨hq, ?_⟩
  rw [huse]
  exact fun _ => rfl

lemma ite {φ : Prop} [Decidable φ] {p q : Ctl α} (hp : Orderly allowed p) (hq : Orderly allowed q) :
    Orderly allowed (if φ then p else q) := by
  split
  · exact hp
  · exact hq

lemma forM {γ : Type} {body : γ → Ctl Unit} (h : ∀ x, Orderly allowed (body x)) (l : List γ) :
    Orderly allowed (l.forM body) := Prog.Guarded.forM fun x _ => h x

lemma foldlM {γ δ : Type} {body : δ → γ → Ctl δ} (h : ∀ d x, Orderly allowed (body d x))
    (l : List γ) (d : δ) : Orderly allowed (l.foldlM body d) :=
  Prog.Guarded.foldlM (fun x _ d => h d x) d

end Orderly

namespace LockFree

lemma pure (a : α) : LockFree allowed (Pure.pure a) := Prog.Within.pure trivial

lemma seq {p : Ctl α} {f : α → Ctl β} (hp : LockFree allowed p)
    (hf : ∀ a, LockFree allowed (f a)) : LockFree allowed (p >>= f) := Prog.Within.seq hp hf

lemma get : LockFree allowed (Prog.get : Ctl ControllerState) := Prog.Within.get fun _ => trivial

lemma modify (f : ControllerState → ControllerState) : LockFree allowed (Prog.modify f : Ctl Unit) :=
  Prog.Within.modify fun _ => trivial

lemma call {q : Request} (hq : allowed q) (huse : lockUse q = .other) :
    LockFree allowed (Model.call q) := Prog.Within.ask ⟨hq, huse⟩

lemma forM {γ : Type} {body : γ → Ctl Unit} (h : ∀ x, LockFree allowed (body x)) (l : List γ) :
    LockFree allowed (l.forM body) := Prog.Within.forM fun x _ => h x

lemma foldlM {γ δ : Type} {body : δ → γ → Ctl δ} (h : ∀ d x, LockFree allowed (body d x))
    (l : List γ) (d : δ) : LockFree allowed (l.foldlM body d) :=
  Prog.Within.foldlM (fun x _ d => h d x) d

lemma any {p : Ctl α} (h : LockFree allowed p) : LockFree anyCall p :=
  h.mono (fun _ _ hk => hk) (fun _ hq => ⟨trivial, hq.2⟩) fun _ _ => trivial

/-- What is done with the lock held may change the reservations. -/
lemma locked {p : Ctl α} (h : LockFree allowed p) (ha : allowed .acquireReservationLock)
    (hr : allowed .releaseReservationLock) : Orderly allowed (withReservationLock p) :=
  Prog.Guarded.locked ha hr rfl rfl h

end LockFree

lemma onePod_free {q : Request} (h : Request.onePod q) : noNoshowCancel q ∧ lockUse q = .other := by
  cases q <;> first | exact ⟨rfl, rfl⟩ | exact h.elim

lemma AdmitsOnly.orderly {uid : Uid} {p : Ctl α} (h : AdmitsOnly uid p) : Orderly noNoshowCancel p :=
  .of_within (h.mono (fun _ _ => .of_admits) (fun _ => onePod_free) fun _ h => h)

lemma TellsOnly.orderly {p : Ctl α} (h : TellsOnly p) : Orderly noNoshowCancel p :=
  AdmitsOnly.orderly (h.admits "")

lemma RelinksOnly.orderly {p : Ctl α} (h : RelinksOnly p) : Orderly noNoshowCancel p :=
  .of_within (h.mono (fun _ _ => .of_relinks) (fun _ => onePod_free) fun _ h => h)

lemma AdmitsOnly.lockFree {uid : Uid} {p : Ctl α} (h : AdmitsOnly uid p) :
    LockFree noNoshowCancel p :=
  h.mono (fun _ _ _ => trivial) (fun _ => onePod_free) fun _ _ => trivial

lemma RelinksOnly.lockFree {p : Ctl α} (h : RelinksOnly p) : LockFree noNoshowCancel p :=
  h.mono (fun _ _ _ => trivial) (fun _ => onePod_free) fun _ _ => trivial

/-- A merge cancels superseded leases only. -/
lemma MergesOnly.lockFree {p : Ctl α} (h : MergesOnly p) : LockFree noNoshowCancel p := by
  refine h.mono (fun _ _ _ => trivial) (fun q hq => ?_) fun _ _ => trivial
  cases q with
  | cancelReservation id reason =>
    obtain rfl : reason = .superseded := hq
    exact ⟨rfl, rfl⟩
  | _ => first | exact ⟨rfl, rfl⟩ | exact hq.elim

lemma PlansOnly.lockFree {p : Ctl α} (h : PlansOnly p) : LockFree noNoshowCancel p := by
  refine h.mono (fun _ _ _ => trivial) (fun q hq => ?_) fun _ _ => trivial
  cases q <;> first | exact ⟨rfl, rfl⟩ | exact hq.elim

lemma announces_free {q : Request} (h : Request.announces q) : noNoshowCancel q ∧ lockUse q = .other := by
  cases q <;> first | exact ⟨rfl, rfl⟩ | exact h.elim

lemma preempts_free {victim : PodRuntimeView} {q : Request} (h : Request.preempts victim q) :
    noNoshowCancel q ∧ lockUse q = .other := by
  cases q <;> first | exact ⟨rfl, rfl⟩ | exact h.elim

lemma AnnouncesOnly.orderly {p : Ctl α} (h : AnnouncesOnly p) : Orderly noNoshowCancel p :=
  .of_within (h.mono (fun s s' (heq : s' = s) => heq ▸ .refl s) (fun _ => announces_free) fun _ h => h)

lemma PreemptsOnly.orderly {victim : PodRuntimeView} {p : Ctl α} (h : PreemptsOnly victim p) :
    Orderly noNoshowCancel p :=
  .of_within (h.mono (fun _ _ => .of_relinks) (fun _ => preempts_free) fun _ h => h)

lemma PreemptsOnly.lockFree {victim : PodRuntimeView} {p : Ctl α} (h : PreemptsOnly victim p) :
    LockFree noNoshowCancel p :=
  h.mono (fun _ _ _ => trivial) (fun _ => preempts_free) fun _ _ => trivial

lemma updateCandidate_orderly (ref : Ref) {f : OnDemandCandidate → OnDemandCandidate}
    (hf : ∀ c, askOf (f c) = askOf c) : Orderly noNoshowCancel (updateCandidate ref f) :=
  (updateCandidate_tells ref hf).orderly

lemma drainPendingMergeCancels_orderly : Orderly noNoshowCancel drainPendingMergeCancels := by
  refine .seq .get fun s => ?_
  split
  · exact .pure ()
  · exact LockFree.locked (.seq .get fun s => .forM (fun id => (cancelMergedLease_merges id).lockFree) _)
      rfl rfl

section Admission

variable (config : Config)

lemma admitUnderLease_lockFree (uid : Uid) (ref : Ref) (lease : ReservationResponse)
    (now : Instant) : LockFree noNoshowCancel (admitUnderLease config uid ref lease now) := by
  refine .seq .get fun s => .seq (.modify _) fun _ =>
    .seq (tryApplyToleration_admits uid _ _).lockFree fun admitted => .seq .get fun s => ?_
  split
  · exact .pure _
  · exact .seq (.seq (.call rfl rfl) fun _ => .modify _) fun _ => .pure _

lemma grantAndAdmit_orderly (uid : Uid) (ref : Ref) (ask : OnDemandAdmissionCandidate) :
    Orderly noNoshowCancel (grantAndAdmit config uid ref ask) := by
  refine .seq (.call rfl rfl) fun now => .seq .get fun s => .seq (.call rfl rfl) fun attempt => ?_
  split
  · exact .seq (handleRefusal_tells config uid ref now attempt).orderly fun _ => .pure _
  · refine .seq (updateCandidate_orderly ref fun _ => rfl) fun _ =>
      .seq (LockFree.locked (admitUnderLease_lockFree config uid ref _ now) rfl rfl) fun admitted => ?_
    split
    · exact .pure _
    · exact .seq (jitteredRetryAt_tells now).orderly fun _ =>
        .seq (updateCandidate_orderly ref fun _ => rfl) fun _ => .pure _

lemma grantOne_orderly (r : Ready) : Orderly noNoshowCancel (grantOne config r) := by
  refine .seq (.call rfl rfl) fun now =>
    .seq (holdOnFit_tells config r.uid r.ref now r.fit).orderly fun held => ?_
  split
  · exact updateCandidate_orderly r.ref fun _ => rfl
  · refine .seq (grantAndAdmit_orderly config r.uid r.ref r.ask) fun done => ?_
    split
    · exact .modify fun _ => ⟨rfl, rfl, rfl⟩
    · exact .pure _

lemma grantEach_orderly (ready : List Ready) (granted : List Uid) :
    Orderly noNoshowCancel (grantEach config ready granted) :=
  .forM (grantOne_orderly config) _

lemma withholdEach_orderly (ready : List Ready) (granted : List Uid)
    (withheld : Dict Uid AdmissionWithheld) :
    Orderly noNoshowCancel (withholdEach config ready granted withheld) :=
  .seq (.call rfl rfl) fun deferredAt =>
    .forM (fun (r : Ready) => (handleWithheld_tells config r.uid r.ref deferredAt _).orderly) _

lemma admitBatch_orderly (ready : List Ready) :
    Orderly noNoshowCancel (admitBatch config ready) := by
  rw [admitBatch]
  split
  · refine .seq (.call rfl rfl) fun selection => ?_
    cases selection with
    | none => exact grantEach_orderly config ready _
    | some answered =>
      exact .seq (grantEach_orderly config ready _) fun _ => withholdEach_orderly config ready _ _
  · exact grantEach_orderly config ready _

lemma preflightOne_orderly (now : Instant) (ready : List Ready) (candidate : Uid × Ref) :
    Orderly noNoshowCancel (preflightOne config now ready candidate) := by
  refine .seq .get fun s => ?_
  dsimp only
  split
  · refine .seq (preflightWithFit_admits candidate.1 candidate.2 config).orderly fun status => ?_
    cases status with
    | ready ask fit => exact .pure _
    | remove =>
      exact .seq (updateCandidate_orderly candidate.2 fun _ => rfl) fun _ =>
        .seq (.modify fun _ => ⟨rfl, rfl, rfl⟩) fun _ => .pure _
    | retry => exact .seq (updateCandidate_orderly candidate.2 fun _ => rfl) fun _ => .pure _
  · exact .pure _

lemma runOndemandAdmissionOnce_orderly :
    Orderly noNoshowCancel (runOndemandAdmissionOnce config) := by
  refine .seq (.call rfl rfl) fun now => .seq .get fun s =>
    .seq (.foldlM (preflightOne_orderly config now) _ []) fun ready => ?_
  split
  · exact .pure _
  · exact admitBatch_orderly config ready

lemma runPasses_orderly (n : Nat) : Orderly noNoshowCancel (runPasses config n) := by
  induction n with
  | zero => exact .pure _
  | succ n ih =>
    refine .seq (.modify fun _ => ⟨rfl, rfl, rfl⟩) fun _ =>
      .seq (runOndemandAdmissionOnce_orderly config) fun _ => .seq .get fun s => ?_
    split
    · exact ih
    · exact .pure _

lemma runOndemandAdmission_orderly (passes : Nat) :
    Orderly noNoshowCancel (runOndemandAdmission config passes) := by
  refine .seq .get fun s => ?_
  split
  · exact .pure _
  · split
    · exact .modify fun _ => ⟨rfl, rfl, rfl⟩
    · exact .seq (.modify fun _ => ⟨rfl, rfl, rfl⟩) fun _ =>
        .seq (runPasses_orderly config passes) fun _ => .modify fun _ => ⟨rfl, rfl, rfl⟩

end Admission

section Tick

variable (config : Config) (now : Instant)

lemma requeueForBetter_orderly (uid : Uid) (ref : Ref) :
    Orderly noNoshowCancel (requeueForBetter now uid ref) := by
  refine .seq .get fun s => ?_
  dsimp only
  split
  · exact .pure _
  · exact .seq (.call rfl rfl) fun _ =>
      .seq (.modify fun s => enqueuePod_same s _ _ _ _ _ _ _ _) fun _ => .seq .get fun s =>
        .seq (.modify fun _ => ⟨rfl, rfl, rfl⟩) fun _ => .pure _

lemma tickAttempt_orderly (toRemove : List Uid) (uid : Uid) (ref : Ref) :
    Orderly noNoshowCancel (tickAttempt config now toRemove uid ref) := by
  refine .seq .get fun s => ?_
  dsimp only
  split
  · exact .pure _
  · split
    · exact .seq (tellQueuedStatus_admits uid ref config now).orderly fun _ => .pure _
    · refine .seq (tryApplyToleration_admits uid ref _).orderly fun done => ?_
      split
      · exact .pure _
      · refine .seq .get fun s => ?_
        split
        · exact .seq (tellQueuedStatus_admits uid ref config now).orderly fun _ => .pure _
        · exact .pure _

lemma tickQueue_orderly : Orderly noNoshowCancel (tickQueue config now) := by
  have hdequeue : ∀ s (uid : Uid), SameReservations s (s.dequeuePod uid) :=
    fun _ _ => ⟨rfl, rfl, rfl⟩
  refine .seq .get fun _ => .seq (.foldlM (fun toRemove queued => ?_) _ []) fun toRemove =>
    .modify fun s => .foldl hdequeue toRemove s
  refine .seq .get fun s => ?_
  split
  · exact .seq (requeueForBetter_orderly now queued.1 queued.2) fun ref =>
      tickAttempt_orderly config now toRemove queued.1 ref
  · exact .pure _

lemma relinkSnapshot_lockFree (snapshot : List Pod) :
    LockFree noNoshowCancel (relinkSnapshot config now snapshot) :=
  .seq (mergeOndemandIntoBookings_merges config now _).lockFree fun views =>
    .seq (adoptPods_relinks now config views .overstay).lockFree fun _ => .pure _

/-- What a tick does between the cancels of no-shows and the drain of the merge cancels. -/
lemma relinkUnderLock_orderly (snapshot : List Pod) : Orderly noNoshowCancel (do
    withReservationLock (return ())
    call (.annotateStanding (snapshot.map (·.uid)))
    if config.ondemandMergeEnabled ∨ config.podAdoptionEnabled then
      withReservationLock (relinkSnapshot config now snapshot)
    else return ()) := by
  refine .seq (LockFree.locked (.pure _) rfl rfl) fun _ => .seq (.call rfl rfl) fun _ => ?_
  split
  · exact LockFree.locked (relinkSnapshot_lockFree config now snapshot) rfl rfl
  · exact .pure _

lemma tickNodes_orderly (snapshot : List Pod) :
    Orderly noNoshowCancel (tickNodes config now snapshot) := by
  refine .seq ?_ fun nodes => .modify fun s => refreshNodeFeasibility_same s now config snapshot nodes
  rw [tickInventory]
  split
  · exact .call rfl rfl
  · exact .pure _

lemma withSnapshot_orderly {snapshot : Option (List Pod)} {body : List Pod → Ctl Unit}
    (h : ∀ pods, Orderly allowed (body pods)) : Orderly allowed (withSnapshot snapshot body) := by
  cases snapshot with
  | none => exact .pure _
  | some pods => exact h pods

/-- What a tick does once the no-shows are cancelled and the pods moved. -/
lemma tickRest_orderly (snapshot : Option (List Pod)) (passes : Nat) : Orderly noNoshowCancel (do
    drainPendingMergeCancels
    withSnapshot snapshot (tickNodes config now)
    tickQueue config now
    runOndemandAdmission config passes
    Prog.modify fun s => s.prunePendingStatus
      (now - max pendingStatusRetention (3 * minutes config.ondemandDenialEventRepeatMinutes))) :=
  .seq drainPendingMergeCancels_orderly fun _ =>
    .seq (withSnapshot_orderly (tickNodes_orderly config now)) fun _ =>
    .seq (tickQueue_orderly config now) fun _ =>
    .seq (runOndemandAdmission_orderly config passes) fun _ => .modify fun _ => ⟨rfl, rfl, rfl⟩

lemma cancelPendingNoshows_orderly (snapshot : List Pod) :
    Orderly anyCall (cancelPendingNoshows snapshot) := by
  refine .seq .get fun s => ?_
  split
  · exact .pure _
  · refine LockFree.locked (.seq .get fun s => .forM (fun rid => ?_) _) trivial trivial
    rw [cancelNoshow]
    split
    · exact .pure _
    · refine .seq (.call trivial rfl) fun cancelled => ?_
      split
      · exact .modify _
      · exact .pure _

lemma snapshotToleratedPods_orderly : Orderly noNoshowCancel snapshotToleratedPods :=
  .seq (.call rfl rfl) fun _ => .pure _

lemma observeHolders_orderly (snapshot : Option (List Pod)) :
    Orderly noNoshowCancel
      (withSnapshot snapshot fun pods => Prog.modify fun s => s.observeHolders pods now) :=
  withSnapshot_orderly fun _ => .modify fun _ => ⟨rfl, rfl, rfl⟩

lemma runQueueTick_orderly (passes : Nat) : Orderly anyCall (runQueueTick config passes) := by
  refine .seq (.call trivial rfl) fun now => .seq snapshotToleratedPods_orderly.any fun snapshot =>
    .seq (observeHolders_orderly now snapshot).any fun _ =>
    .seq (.modify fun s => checkNoshowDeadlines_same s now) fun _ =>
    .seq (withSnapshot_orderly fun pods => ?_) fun _ =>
      (tickRest_orderly config now snapshot passes).any
  exact .seq (cancelPendingNoshows_orderly pods) fun _ => (relinkUnderLock_orderly config now pods).any

end Tick

section Watch

variable (config : Config) (passes : Nat)

lemma teardownOndemandLease_orderly (pod : Pod) :
    Orderly noNoshowCancel (teardownOndemandLease pod) := by
  rw [teardownOndemandLease]
  split
  · exact .pure _
  · refine LockFree.locked (.seq .get fun s => ?_) rfl rfl
    split
    · exact .pure _
    · split
      · exact .pure _
      · refine .seq (.call rfl rfl) fun cancelled => ?_
        split
        · exact .seq (.modify _) fun _ => .pure _
        · exact .pure _

lemma retryWaiters_orderly (rid : Option Nat) :
    Orderly noNoshowCancel (retryWaiters config rid) := by
  cases rid with
  | none => exact .pure _
  | some rid =>
    refine .seq (.call rfl rfl) fun now => .seq .get fun s => .forM (fun queued => ?_) _
    refine .seq .get fun s => ?_
    split
    · refine .seq (tryApplyToleration_admits queued.1 queued.2 _).orderly fun done => ?_
      split
      · exact .modify fun _ => ⟨rfl, rfl, rfl⟩
      · exact .pure _
    · exact .pure _

lemma noteGpuPodNow_orderly (uid : Uid) (record : Option GpuPod) :
    Orderly noNoshowCancel (noteGpuPodNow uid record) :=
  .seq (.call rfl rfl) fun now => .seq .get fun _ =>
    .seq (.modify fun s => noteGpuPod_same s now uid record) fun _ => .pure _

lemma admitIf_orderly (wanted : Bool) : Orderly noNoshowCancel (admitIf config passes wanted) := by
  rw [admitIf]
  split
  · exact runOndemandAdmission_orderly config passes
  · exact .pure _

lemma podEnded_orderly (pod : Pod) : Orderly noNoshowCancel (podEnded config passes pod) :=
  .seq (.modify fun _ => ⟨rfl, rfl, rfl⟩) fun _ => .seq .get fun _ =>
    .seq (.modify fun s => releasePod_same s pod.uid) fun _ =>
    .seq (noteGpuPodNow_orderly pod.uid none) fun _ => .seq (.call rfl rfl) fun now =>
    .seq (reportOverstayIfAny_announces config now pod).orderly fun _ =>
    .seq (teardownOndemandLease_orderly pod) fun _ => .seq (retryWaiters_orderly config _) fun _ =>
      admitIf_orderly config passes _

lemma podTolerated_orderly (pod : Pod) : Orderly noNoshowCancel (podTolerated config passes pod) :=
  .seq (.call rfl rfl) fun now => .seq (.modify fun s => keepWarm_same s now pod) fun _ =>
    .seq (noteGpuPodNow_orderly pod.uid _) fun _ => admitIf_orderly config passes _

lemma queuePod_orderly (pod : Pod) (reservation : ReservationResponse) :
    Orderly noNoshowCancel (queuePod pod reservation) :=
  .seq (.call rfl rfl) fun now => .modify fun s =>
    (SameReservations.mk rfl rfl rfl : SameReservations s (s.removeOndemandCandidate pod.uid)).trans
      (enqueuePod_same _ now _ _ _ _ _ _ _)

lemma podAdmittable_orderly (eventType : EventType) (pod : Pod) (reservation : ReservationResponse) :
    Orderly noNoshowCancel (podAdmittable config eventType pod reservation) := by
  refine .seq (queuePod_orderly pod reservation) fun _ => ?_
  split
  · exact (followUp_admits pod.uid config).orderly
  · exact .pure _

lemma emitAnnotationNotice_orderly (pod : Pod) (problems : List AnnotationProblem) (now : Instant) :
    Orderly noNoshowCancel (emitAnnotationNotice config pod problems now) := by
  rw [emitAnnotationNotice]
  split
  · exact (postPendingStatus_tells config pod.uid pod.ns pod.name _ _ now).orderly
  · exact .pure _

lemma podEligible_orderly (eventType : EventType) (pod : Pod) (minRuntime : Option Nat)
    (bestEffort : Bool) (problems : List AnnotationProblem) (now : Instant) :
    Orderly noNoshowCancel
      (podEligible config passes eventType pod minRuntime bestEffort problems now) := by
  cases eventType with
  | added =>
    refine .seq (.call rfl rfl) fun addedAt => .seq (.modify fun s => ?_) fun _ =>
      .seq (emitAnnotationNotice_orderly config pod problems now) fun _ =>
        runOndemandAdmission_orderly config passes
    exact (SameReservations.mk rfl rfl rfl : SameReservations s (s.dequeuePod pod.uid)).trans
      (addOndemandCandidate_same _ _)
  | _ =>
    refine .seq .get fun s => ?_
    split
    · exact .pure _
    · exact .ite (.seq (.call rfl rfl) fun _ => .seq (updateCandidate_orderly _ fun _ => rfl) fun _ =>
        runOndemandAdmission_orderly config passes) (.pure _)

lemma podWaits_orderly (eventType : EventType) (pod : Pod) (reservation : ReservationResponse)
    (reasons : List Ineligibility) (now : Instant) :
    Orderly noNoshowCancel (podWaits config eventType pod reservation reasons now) := by
  refine .seq (queuePod_orderly pod reservation) fun _ => .seq .get fun s => ?_
  split
  · exact .seq (.modify fun _ => ⟨rfl, rfl, rfl⟩) fun _ =>
      (tellQueuedStatus_admits pod.uid _ config now).orderly
  · exact .pure _

lemma podLeftPending_orderly (pod : Pod) (reasons : List Ineligibility) (now : Instant) :
    Orderly noNoshowCancel (podLeftPending config pod reasons now) := by
  refine .seq .get fun s => ?_
  split
  · exact .pure _
  · split
    · exact (emitUnknownClassEvent_tells config pod.uid now _ _ _).orderly
    · exact (tellPod_tells config pod.uid now _ _ _ _).orderly

lemma podUnreserved_orderly (eventType : EventType) (pod : Pod) (now : Instant) :
    Orderly noNoshowCancel (podUnreserved config passes eventType pod now) := by
  refine .ite ?_ ?_
  · exact podEligible_orderly config passes eventType pod _ _ _ now
  · refine .seq (.call rfl rfl) fun matchedAt => .seq .get fun s => ?_
    dsimp only
    split
    · exact podWaits_orderly config eventType pod _ _ now
    · split
      · exact podLeftPending_orderly config pod _ now
      · exact .pure _

lemma podPending_orderly (eventType : EventType) (pod : Pod) :
    Orderly noNoshowCancel (podPending config passes eventType pod) := by
  refine .seq (.call rfl rfl) fun now => .seq .get fun s => ?_
  split
  · exact .seq (.modify fun _ => ⟨rfl, rfl, rfl⟩) fun _ =>
      (tellPod_tells config pod.uid now _ _ _ _).orderly
  · split
    · exact podAdmittable_orderly config eventType pod _
    · exact podUnreserved_orderly config passes eventType pod now

lemma watchEvent_orderly (eventType : EventType) (pod : Pod) :
    Orderly noNoshowCancel (watchEvent config passes eventType pod) := by
  rw [watchEvent]
  split
  · exact .pure _
  · split
    · exact podEnded_orderly config passes pod
    · split
      · exact podTolerated_orderly config passes pod
      · exact podPending_orderly config passes eventType pod

end Watch

section Sweep

variable (config : Config) (now : Instant)

lemma sweepUnderLock_lockFree (boundaries : List Instant) (headroomDue : Bool)
    (snapshot : List Pod) (nodes : NodeSnapshot) :
    LockFree noNoshowCancel (sweepUnderLock config now boundaries headroomDue snapshot nodes) := by
  have hkill : ∀ toKill : List (PodRuntimeView × PodEvent), LockFree noNoshowCancel (do
      toKill.forM (preemptPod config now)
      return toKill.map (·.1.uid)) :=
    fun toKill => .seq (.forM (fun v => (preemptPod_preempts config now v).lockFree) toKill)
      fun _ => .pure _
  refine .seq (mergeOndemandIntoBookings_merges config now _).lockFree fun views =>
    .seq (adoptPods_relinks now config views .overstay).lockFree fun pods =>
    .seq (.foldlM (fun toKill b => (planBoundary_onlyPlans config now _ pods toKill b).lockFree) _ [])
      fun toKill => ?_
  dsimp only
  split
  · exact .seq (planHeadroom_onlyPlans config now _ pods toKill).lockFree hkill
  · exact .seq (.pure _) hkill

lemma runPreemptionSweep_orderly : Orderly noNoshowCancel (runPreemptionSweep config) := by
  refine .seq (.call rfl rfl) fun now => .seq (.modify fun _ => ⟨rfl, rfl, rfl⟩) fun _ =>
    .seq .get fun s => ?_
  split
  · exact .pure _
  · refine .seq snapshotToleratedPods_orderly fun snapshot => ?_
    split
    · exact .pure _
    · refine .seq (.call rfl rfl) fun nodes => ?_
      split
      · exact .pure _
      · refine .seq (LockFree.locked (sweepUnderLock_lockFree config now _ _ _ _) rfl rfl)
          fun doomed => ?_
        split
        · exact .seq (.call rfl rfl) fun _ => .modify fun _ => ⟨rfl, rfl, rfl⟩
        · exact .pure _

end Sweep

section Reconcile

variable (config : Config) (now : Instant)

lemma resolveGpuClassMaps_orderly (classIds : List Nat) (prior : GpuClassMaps) :
    Orderly noNoshowCancel (resolveGpuClassMaps classIds prior) := by
  refine .seq (.call rfl rfl) fun gpuClasses => .foldlM (fun maps classId => ?_) _ _
  rw [resolveGpuClass]
  split
  · exact .pure _
  · exact .seq (.call rfl rfl) fun _ => .pure _

lemma reconcileAfterReservationChange_lockFree (active cancelled : List ReservationResponse)
    (ownerChanges : List (ReservationResponse × String)) (maps : GpuClassMaps) :
    LockFree noNoshowCancel
      (reconcileAfterReservationChange config active cancelled ownerChanges now maps) := by
  refine .seq (.call rfl rfl) fun _ => .seq (.modify _) fun _ => ?_
  split
  · exact .pure _
  · refine .seq (.seq (.call rfl rfl) fun _ => .pure _) fun snapshot =>
      .seq (.foldlM (fun evictions r => ?_) _ []) fun _ => .pure _
    rw [planCancelledReservation]
    dsimp only
    split
    · exact .seq (adoptPods_relinks now config _ .replaced).lockFree fun _ => .pure _
    · exact .pure _

lemma executeEviction_orderly (eviction : PodEviction) :
    Orderly noNoshowCancel (executeEviction eviction) := by
  refine .seq (.call rfl rfl) fun pod => .seq ?_ fun _ =>
    (deleteJudgedPod_preempts (podView none eviction.pod)).orderly
  cases pod with
  | none => exact .pure _
  | some p => exact .seq (.call rfl rfl) fun _ => .pure _

lemma trackNoshows_eq (s : ControllerState) :
    SameReservations s (s.reconcileNoshow.updateNoshowTracking now config.noshowTimeoutMinutes
      config.noshowGraceMinutes) := ⟨rfl, rfl, rfl⟩

lemma refreshReservations_orderly : Orderly noNoshowCancel (refreshReservations config) := by
  refine .seq (.call rfl rfl) fun fetched => ?_
  split
  · exact .pure _
  · refine .seq .get fun s => .seq (resolveGpuClassMaps_orderly _ _) fun maps =>
      .seq (.call rfl rfl) fun now => .seq (LockFree.locked ?_ rfl rfl) fun evictions =>
      .seq (.forM executeEviction_orderly _) fun _ => .seq (.call rfl rfl) fun trackedAt =>
        .modify (trackNoshows_eq config trackedAt)
    exact .seq .get fun s => .seq (reconcileAfterReservationChange_lockFree config now _ _ _ maps)
      fun _ => .seq (.modify _) fun _ => .pure _

lemma pushReservations_orderly (pushed : List ReservationResponse) :
    Orderly noNoshowCancel (pushReservations config pushed) := by
  refine .seq (.call rfl rfl) fun now => .seq .get fun s =>
    .seq (resolveGpuClassMaps_orderly _ _) fun maps => .seq (LockFree.locked ?_ rfl rfl)
      fun evictions => .forM executeEviction_orderly _
  exact .seq .get fun s => .seq (reconcileAfterReservationChange_lockFree config now _ _ _ maps)
    fun _ => .seq (.modify _) fun _ => .pure _

end Reconcile

/-- Every task changes the reservations with the lock held only. -/
theorem program_orderly (config : Config) (job : Job) : Orderly anyCall (job.program config) := by
  cases job with
  | fetch => exact (refreshReservations_orderly config).any
  | push pushed => exact (pushReservations_orderly config pushed).any
  | watch eventType pod passes => exact (watchEvent_orderly config passes eventType pod).any
  | queueTick passes => exact runQueueTick_orderly config passes
  | sweep => exact (runPreemptionSweep_orderly config).any
  | admissionPass => exact (runOndemandAdmissionOnce_orderly config).any
  | grant uid ref ask =>
    exact .seq (grantAndAdmit_orderly config uid ref ask).any fun _ => .pure _

end Parts

/-! The whole system. -/

section LockOwner

variable (w : World)

lemma lockOwner_patchPod (ns name : String) (tolerations : List Toleration) (reference : Nat) :
    (w.patchPod ns name tolerations reference).lockOwner = w.lockOwner := by
  rw [World.patchPod]
  split <;> rfl

lemma lockOwner_terminatePod (ns name : String) :
    (w.terminatePod ns name).lockOwner = w.lockOwner := by
  rw [World.terminatePod]
  split <;> rfl

lemma lockOwner_create (req : ReservationRequest) (ch : Choice) :
    (w.create req ch).2.lockOwner = w.lockOwner := by
  rw [World.create]
  split
  · rfl
  · split <;> rfl

lemma lockOwner_noteGrant (task : Nat) (a : LeaseAttempt) :
    (w.noteGrant task a).lockOwner = w.lockOwner := by
  rw [World.noteGrant]
  split <;> rfl

end LockOwner

/-- A call which is not on the lock leaves it alone. -/
lemma answer_lockOwner {task : Nat} {q : Request} {ch : Choice} {w w' : World} {a : Answer q}
    (hq : lockUse q = .other) (h : answer task q ch w = some (a, w')) :
    w'.lockOwner = w.lockOwner := by
  cases q with
  | acquireReservationLock => cases hq
  | releaseReservationLock => cases hq
  | applyToleration _ ns name pod key value reference =>
    simp only [answer] at h
    split at h <;> cases h
    · rfl
    · exact lockOwner_patchPod w ns name _ reference
  | deletePod _ ns name =>
    simp only [answer] at h
    split at h <;> cases h
    · rfl
    · exact lockOwner_terminatePod w ns name
  | createReservation req =>
    simp only [answer] at h
    split at h <;> cases h
    · rfl
    · exact lockOwner_create w req ch
    · rw [lockOwner_noteGrant, lockOwner_create]
  | cancelReservation id reason =>
    simp only [answer] at h
    split at h <;> cases h <;> rfl
  | _ =>
    cases h
    rfl

lemma reservationLock : LockRuntime runtime lockUse World.lockOwner where
  yields q hq := by cases q <;> first | rfl | cases hq
  acquires {i q c a w w'} hq hans := by
    cases q <;> cases hq
    simp only [runtime, answer] at hans
    split at hans
    · cases hans
      exact ⟨‹_›, rfl⟩
    · cases hans
  releases {i q c a w w'} hq hans hheld := by
    cases q <;> cases hq
    simp only [runtime, answer, hheld] at hans
    cases hans
    rfl
  other hq hans := answer_lockOwner hq hans

lemma outside_lockOwner (e : WorldEvent) (w : World) : (e.effect w).lockOwner = w.lockOwner := by
  cases e <;> simp only [WorldEvent.effect] <;> (try split) <;> rfl

/-- The tasks share the lock in order. -/
def LockInOrder (p : System) : Prop :=
  LockOrder lockUse SameReservations anyCall World.lockOwner p

/-- Before any task there is. -/
lemma lockInOrder_start {s : ControllerState} {w : World} (hlock : w.lockOwner = none) :
    LockInOrder ⟨⟨s, w⟩, []⟩ := by
  refine ⟨fun i hi => ?_, fun i l t hi => ?_⟩
  · change w.lockOwner = some i at hi
    rw [hlock] at hi
    cases hi
  · cases hi

/-- Nobody but the holder of the reservation lock changes the reservations. -/
theorem lockInOrder_step (config : Config) {p : System} (hp : LockInOrder p) (m : SystemMove) :
    LockInOrder (systemStep config p m) ∧
      LockStep SameReservations World.lockOwner p (systemStep config p m) m := by
  have hevent : ∀ e σ, (outside e σ).world.lockOwner = σ.world.lockOwner ∧
      (outside e σ).shared = σ.shared := fun e σ => ⟨outside_lockOwner e σ.world, rfl⟩
  exact lockOrder_step reservationLock .refl (fun _ _ _ => .trans) hevent (program_orderly config)
    hp m

end GpuReservation.Proofs
