import GpuReservation.Library.Within
import GpuReservation.Model.OnDemand
import GpuReservation.Model.Relinking
import GpuReservation.Proofs.Frames
import GpuReservation.Proofs.Occupancy

/-!
# What the parts of on-demand admission keep within
-/

namespace GpuReservation.Proofs

open GpuReservation.Library GpuReservation.Model

/-- What a candidate asks for, and for which pod. -/
def askOf (c : OnDemandCandidate) : Uid × String × String × String × Nat :=
  (c.podUid, c.podNamespace, c.podName, c.gpuClassLabel, c.gpuRequested)

/-- The candidates' asks are what they were. -/
structure SameAsks (s s' : ControllerState) : Prop where
  next : s'.candidates.next = s.candidates.next
  asks : ∀ ref, askOf (s'.candidate ref) = askOf (s.candidate ref)

lemma SameAsks.refl (s : ControllerState) : SameAsks s s := ⟨rfl, fun _ => rfl⟩

/-- Nothing changes but how a candidate stands, and what was told. -/
structure OnlyTells (s s' : ControllerState) : Prop extends SameAsks s s' where
  rest : s' = { s with candidates := s'.candidates, pendingStatus := s'.pendingStatus }

/-- Calls which tell the time and what to wait, and tell a pod's owner. -/
def Request.tells : Request → Prop
  | .now | .randint _ _ | .emitPodEvent _ _ _ _ => True
  | _ => False

/-- A part which only tells. -/
def TellsOnly {α : Type} (p : Ctl α) : Prop := p.Within OnlyTells Request.tells fun _ => True

lemma OnlyTells.refl (s : ControllerState) : OnlyTells s s := ⟨.refl s, rfl⟩

lemma OnlyTells.trans {s s' s'' : ControllerState} (h : OnlyTells s s') (h' : OnlyTells s' s'') :
    OnlyTells s s'' :=
  ⟨⟨h'.next.trans h.next, fun ref => (h'.asks ref).trans (h.asks ref)⟩,
    h'.rest.trans (by rw [h.rest])⟩

lemma onlyTells_modifyCandidate (s : ControllerState) (ref : Ref)
    {f : OnDemandCandidate → OnDemandCandidate}
    (hf : ∀ c, askOf (f c) = askOf c) :
    OnlyTells s (s.modifyCandidate ref f) :=
  ⟨⟨Heap.next_modify _ _ _, Heap.read_modify_field _ hf s.candidates ref⟩, rfl⟩

lemma updateCandidate_tells (ref : Ref) {f : OnDemandCandidate → OnDemandCandidate}
    (hf : ∀ c, askOf (f c) = askOf c) :
    TellsOnly (updateCandidate ref f) :=
  .modify fun s => onlyTells_modifyCandidate s ref hf

lemma get_tells : TellsOnly (Prog.get : Ctl ControllerState) := .get OnlyTells.refl

lemma jitteredRetryAt_tells (now : Instant) : TellsOnly (jitteredRetryAt now) :=
  .seq (.ask trivial) fun _ => .pure trivial

lemma errorRetryAt_tells (now : Instant) (failures : Nat) :
    TellsOnly (errorRetryAt now failures) :=
  .seq (.ask trivial) fun _ => .pure trivial

lemma denialRetryAt_tells (now : Instant) (notBefore : Option Instant) :
    TellsOnly (denialRetryAt now notBefore) :=
  .seq (jitteredRetryAt_tells now) fun _ => .pure trivial

lemma postPendingStatus_tells (config : Config) (uid : Uid) (ns name : String)
    (topic : PendingTopic) (key : StatusKey) (now : Instant) :
    TellsOnly (postPendingStatus config uid ns name topic key now) := by
  refine .seq get_tells fun s => ?_
  split
  · refine .seq (.ask trivial) fun emitted => ?_
    split
    · exact .modify fun s => ⟨⟨rfl, fun _ => rfl⟩, rfl⟩
    · exact .pure trivial
  · exact .pure trivial

section Tell

variable (config : Config) (uid : Uid) (ref : Ref) (now : Instant)

lemma tellPod_tells (ns name : String) (enabled : Bool) (key : StatusKey) :
    TellsOnly (tellPod config uid now ns name enabled key) := by
  rw [tellPod]
  split
  · exact postPendingStatus_tells config uid ns name _ key now
  · exact .pure trivial

lemma tellCandidate_tells (enabled : Bool) (key : StatusKey) :
    TellsOnly (tellCandidate config uid ref now enabled key) :=
  .seq get_tells fun _ => tellPod_tells config uid now _ _ enabled key

lemma emitLeaseDenialEvent_tells (detail : Option String) (structural : Bool) :
    TellsOnly (emitLeaseDenialEvent config uid ref now detail structural) := by
  cases detail with
  | none => exact .pure trivial
  | some text => exact tellCandidate_tells config uid ref now _ _

lemma emitLeaseRejectedEvent_tells (detail : Option String) :
    TellsOnly (emitLeaseRejectedEvent config uid ref now detail) :=
  .seq get_tells fun _ => tellCandidate_tells config uid ref now _ _

lemma emitUnknownClassEvent_tells (ns name gpuClass : String) :
    TellsOnly (emitUnknownClassEvent config uid now ns name gpuClass) :=
  .seq get_tells fun _ => tellPod_tells config uid now _ _ _ _

lemma emitAdmissionPausedEvent_tells (guardNumber : Nat) :
    TellsOnly (emitAdmissionPausedEvent config uid ref now guardNumber) :=
  .seq get_tells fun _ => tellCandidate_tells config uid ref now _ _

lemma emitCapacityWaitEvent_tells :
    TellsOnly (emitCapacityWaitEvent config uid ref now) :=
  .seq get_tells fun _ => tellCandidate_tells config uid ref now _ _

lemma tellWaitingForNode_tells (narrowing : Option NodePlacement) :
    TellsOnly (tellWaitingForNode config uid ref now narrowing) := by
  refine .seq get_tells fun s => ?_
  cases narrowing with
  | none => exact .pure trivial
  | some placement => exact tellCandidate_tells config uid ref now _ _

lemma holdOnFit_tells (fit : FitInputs) :
    TellsOnly (holdOnFit config uid ref fit now) := by
  refine .seq get_tells fun s => ?_
  dsimp only
  split
  · exact .seq (updateCandidate_tells ref fun _ => rfl) fun _ =>
      .seq (emitAdmissionPausedEvent_tells config uid ref now 4) fun _ => .pure trivial
  · split
    · exact .pure trivial
    · exact .seq (updateCandidate_tells ref fun _ => rfl) fun _ =>
        .seq (tellWaitingForNode_tells config uid ref now _) fun _ => .pure trivial

lemma holdCandidate_tells (at_ : Instant) {tell : Ctl Unit}
    (htell : TellsOnly tell) :
    TellsOnly (holdCandidate ref at_ tell) :=
  .seq (updateCandidate_tells ref fun _ => rfl) fun _ => .seq htell fun _ => .pure trivial

lemma preflightFit_tells (pod : Pod) (gpuClassId : Nat) :
    TellsOnly (preflightFit config uid ref now pod gpuClassId) := by
  refine .seq get_tells fun s => ?_
  refine .seq (holdOnFit_tells config uid ref now _) fun held => ?_
  split
  · exact .pure trivial
  · exact .pure trivial

lemma preflightNodes_tells (pod : Pod) (gpuClassId : Nat) :
    TellsOnly (preflightNodes config uid ref now pod gpuClassId) := by
  refine .seq get_tells fun s => ?_
  dsimp only
  split
  · exact holdCandidate_tells ref _ (emitAdmissionPausedEvent_tells config uid ref now 1)
  · refine .seq (updateCandidate_tells ref fun _ => rfl) fun _ => ?_
    split
    · exact .seq (jitteredRetryAt_tells now) fun retryAt =>
        holdCandidate_tells ref retryAt (tellCandidate_tells config uid ref now _ _)
    · split
      · exact holdCandidate_tells ref _ (emitAdmissionPausedEvent_tells config uid ref now 3)
      · exact preflightFit_tells config uid ref now pod gpuClassId

lemma preflightGate_tells (pod : Pod) (gpuClassId : Nat) :
    TellsOnly (preflightGate config uid ref now pod gpuClassId) := by
  refine .seq (updateCandidate_tells ref fun _ => rfl) fun _ => ?_
  split
  · exact .pure trivial
  · exact holdCandidate_tells ref _ (.pure trivial)
  · exact preflightNodes_tells config uid ref now pod gpuClassId

lemma scheduleAfterDenial_tells (attempt : LeaseAttempt) :
    TellsOnly (scheduleAfterDenial ref attempt now) := by
  rw [scheduleAfterDenial]
  split
  · exact .seq (updateCandidate_tells ref fun _ => rfl) fun _ => .seq get_tells fun _ =>
      .seq (errorRetryAt_tells now _) fun _ => updateCandidate_tells ref fun _ => rfl
  · exact .seq (denialRetryAt_tells now _) fun _ => updateCandidate_tells ref fun _ => rfl

lemma handleRefusal_tells (attempt : LeaseAttempt) :
    TellsOnly (handleRefusal config uid ref attempt now) := by
  refine .seq (updateCandidate_tells ref fun _ => rfl) fun _ => ?_
  split
  · exact .seq (scheduleAfterDenial_tells ref now attempt) fun _ =>
      emitLeaseDenialEvent_tells config uid ref now _ _
  · split
    · exact .seq (jitteredRetryAt_tells now) fun _ => updateCandidate_tells ref fun _ => rfl
    · refine .seq (updateCandidate_tells ref fun _ => rfl) fun _ => .seq get_tells fun _ =>
        .seq (errorRetryAt_tells now _) fun _ =>
          .seq (updateCandidate_tells ref fun _ => rfl) fun _ => ?_
      split
      · exact emitLeaseRejectedEvent_tells config uid ref now _
      · exact .pure trivial

lemma handleWithheld_tells (verdict : Option AdmissionWithheld) :
    TellsOnly (handleWithheld config uid ref verdict now) := by
  rw [handleWithheld]
  split
  · exact .seq (scheduleAfterDenial_tells ref now _) fun _ =>
      emitLeaseDenialEvent_tells config uid ref now _ _
  · exact .seq (jitteredRetryAt_tells now) fun _ =>
      .seq (updateCandidate_tells ref fun _ => rfl) fun _ =>
        emitCapacityWaitEvent_tells config uid ref now

end Tell

/-- The same request for the same booking; only the entry's clock may differ. -/
def SameEntry (e e' : QueueEntry) : Prop := { e' with nextAttemptAt := e.nextAttemptAt } = e

/-- What an attempt on a pod, or its way to the queue, changes: the pod's own record and place on
the queue, its clock, and what was told. -/
structure OnlyAdmits (uid : Uid) (s s' : ControllerState) : Prop extends SameAsks s s' where
  occupancy : ∀ rid u, u ≠ uid → (s'.bucket rid).get? u = (s.bucket rid).get? u
  queue : ∀ u, u ≠ uid → s'.taskQueue.get? u = s.taskQueue.get? u
  entries : ∀ ref e, s.entries.get? ref = some e →
    ∃ e', s'.entries.get? ref = some e' ∧ SameEntry e e'
  rest : s' = { s with
    candidates := s'.candidates, pendingStatus := s'.pendingStatus, occupancy := s'.occupancy
    taskQueue := s'.taskQueue, entries := s'.entries, holderNames := s'.holderNames
    noshowDeadlines := s'.noshowDeadlines, gpuPods := s'.gpuPods
    gpuPodChanges := s'.gpuPodChanges, nodeFreeByNodeClass := s'.nodeFreeByNodeClass
    nodeFreeByClass := s'.nodeFreeByClass }

/-- Calls about one pod. -/
def Request.onePod : Request → Prop
  | .now | .randint _ _ | .emitPodEvent _ _ _ _ | .readPod _ _ | .applyToleration _ _ _ _ _ _ _
  | .removeSchedulingGate _ _ _ | .annotateRuntimeGuarantee _ _ _ _ _ => True
  | _ => False

/-- Calls which tell a pod of its admission, and do not admit it. -/
def Request.stamps : Request → Prop
  | .now | .randint _ _ | .emitPodEvent _ _ _ _ | .removeSchedulingGate _ _ _
  | .annotateRuntimeGuarantee _ _ _ _ _ => True
  | _ => False

/-- A part of an attempt which patches nothing. -/
def StampsOnly {α : Type} (uid : Uid) (p : Ctl α) : Prop :=
  p.Within (OnlyAdmits uid) Request.stamps fun _ => True

/-- A part which only admits the pod. -/
def AdmitsOnly {α : Type} (uid : Uid) (p : Ctl α) : Prop :=
  p.Within (OnlyAdmits uid) Request.onePod fun _ => True

section Admit

variable (uid : Uid)

lemma sameEntries_refl (s : ControllerState) (ref : Ref) (e : QueueEntry)
    (he : s.entries.get? ref = some e) : ∃ e', s.entries.get? ref = some e' ∧ SameEntry e e' :=
  ⟨e, he, rfl⟩

lemma OnlyTells.admits {s s' : ControllerState} (h : OnlyTells s s') : OnlyAdmits uid s s' := by
  have hrest := h.rest
  refine ⟨h.toSameAsks, ?_, ?_, ?_, ?_⟩
  · intro rid u _
    rw [hrest]
    rfl
  · intro u _
    rw [hrest]
  · intro ref e he
    rw [hrest]
    exact ⟨e, he, rfl⟩
  · rw [hrest]

lemma tells_stamps {q : Request} (h : Request.tells q) : Request.stamps q := by
  cases q <;> trivial

lemma stamps_onePod {q : Request} (h : Request.stamps q) : Request.onePod q := by
  cases q <;> trivial

lemma tells_onePod {q : Request} (h : Request.tells q) : Request.onePod q :=
  stamps_onePod (tells_stamps h)

lemma TellsOnly.stamps {α : Type} {p : Ctl α} (h : TellsOnly p) : StampsOnly uid p :=
  h.mono (fun _ _ => OnlyTells.admits uid) (fun _ => tells_stamps) fun _ _ => trivial

variable {uid} in
lemma StampsOnly.admits {α : Type} {p : Ctl α} (h : StampsOnly uid p) : AdmitsOnly uid p :=
  h.mono (fun _ _ hk => hk) (fun _ => stamps_onePod) fun _ _ => trivial

lemma TellsOnly.admits {α : Type} {p : Ctl α} (h : TellsOnly p) : AdmitsOnly uid p :=
  (h.stamps uid).admits

lemma get_admits : AdmitsOnly uid (Prog.get : Ctl ControllerState) := get_tells.admits uid

lemma onlyAdmits_modifyEntry (s : ControllerState) (ref : Ref) (at_ : Instant) :
    OnlyAdmits uid s (s.modifyEntry ref fun e => { e with nextAttemptAt := at_ }) := by
  refine ⟨⟨rfl, fun _ => rfl⟩, fun _ _ _ => rfl, fun _ _ => rfl, fun ref' e he => ?_, rfl⟩
  change ∃ e', (s.entries.modify ref _).get? ref' = some e' ∧ _
  rw [Heap.get?_modify, he]
  split
  · exact ⟨_, rfl, rfl⟩
  · exact ⟨e, rfl, rfl⟩

lemma onlyAdmits_releasePod (s : ControllerState) : OnlyAdmits uid s (s.releasePod uid) := by
  obtain ⟨occupancy, h⟩ := releasePod_eq s uid
  refine ⟨?_, fun rid u hu => bucket_releasePod_get?_of_ne s hu rid, ?_, ?_, ?_⟩
  · rw [h]
    exact ⟨rfl, fun _ => rfl⟩
  · intro u _
    rw [h]
  · rw [h]
    exact sameEntries_refl s
  · rw [h]

lemma onlyAdmits_reserveFor (s : ControllerState) (e : QueueEntry) :
    OnlyAdmits uid s (s.reserveFor uid e) := by
  refine ⟨⟨rfl, fun _ => rfl⟩, fun rid u hu => ?_, fun _ _ => rfl, sameEntries_refl s, rfl⟩
  change ((s.recordPlacement e.reservation.id uid e.gpuRequested).bucket rid).get? u = _
  rw [bucket_recordPlacement]
  split
  · rename_i hrid
    rw [Dict.get?_set_of_ne _ _ hu, hrid]
  · rfl

lemma onlyAdmits_noteAdmitted (s : ControllerState) (e : QueueEntry) (pod : Pod) (now : Instant) :
    OnlyAdmits uid s (s.noteAdmitted uid e pod now) := by
  obtain ⟨pods, changes, byNode, byClass, h⟩ := noteAdmitted_eq s uid e pod now
  rw [h]
  exact ⟨⟨rfl, fun _ => rfl⟩, fun _ _ _ => rfl, fun _ _ => rfl, sameEntries_refl s, rfl⟩

lemma onlyAdmits_dequeuePod (s : ControllerState) : OnlyAdmits uid s (s.dequeuePod uid) :=
  ⟨⟨rfl, fun _ => rfl⟩, fun _ _ _ => rfl, fun _ hu => Dict.get?_erase_of_ne _ hu,
    sameEntries_refl s, rfl⟩

lemma onlyAdmits_enqueuePod (s : ControllerState) (podName podNamespace gpuClassLabel : String)
    (gpuRequested : Nat) (groupLabel : Option String) (reservation : ReservationResponse)
    (now : Instant) :
    OnlyAdmits uid s (s.enqueuePod uid podName podNamespace gpuClassLabel gpuRequested groupLabel
      reservation now) := by
  rw [ControllerState.enqueuePod]
  split
  · exact ⟨⟨rfl, fun _ => rfl⟩, fun _ _ _ => rfl, fun _ _ => rfl, sameEntries_refl s, rfl⟩
  · exact ⟨⟨rfl, fun _ => rfl⟩, fun _ _ _ => rfl, fun _ hu => Dict.get?_set_of_ne _ _ hu,
      fun _ e he => ⟨e, Heap.get?_alloc_of_some he _, rfl⟩, rfl⟩

variable (ref : Ref)

lemma updateCandidate_admits {f : OnDemandCandidate → OnDemandCandidate}
    (hf : ∀ c, askOf (f c) = askOf c) :
    AdmitsOnly uid (updateCandidate ref f) :=
  (updateCandidate_tells ref hf).admits uid

section Stamp

variable {keeps : ControllerState → ControllerState → Prop}

/-- The guarantee is told; nothing the controller holds changes. -/
lemma recordGuarantee_stamps (u : Uid) (ns name : String) (guaranteedUntil : Instant)
    (reservation : ReservationResponse) (firstAdmission : Bool) :
    (recordGuarantee u ns name guaranteedUntil reservation firstAdmission).Within keeps
      Request.stamps fun _ => True := by
  refine .seq (.ask trivial) fun annotated => ?_
  split
  · exact .seq (.ask trivial) fun _ => .pure trivial
  · exact .pure trivial

lemma enforceSchedulingGateRemoval_stamps (ns name : String) (pod : Pod)
    (gateName : Option String) :
    (enforceSchedulingGateRemoval ns name pod gateName).Within keeps Request.stamps
      fun _ => True := by
  cases gateName with
  | none => exact .pure trivial
  | some gate =>
    rw [enforceSchedulingGateRemoval]
    split
    · exact .seq (.ask trivial) fun _ => .pure trivial
    · exact .pure trivial

lemma stamps_within_onePod {α : Type} {p : Ctl α} {post : α → Prop}
    (h : p.Within keeps Request.stamps post) : p.Within keeps Request.onePod fun _ => True :=
  h.mono (fun _ _ hk => hk) (fun _ => stamps_onePod) fun _ _ => trivial

section Note

variable {uid} (hnote : ∀ s e pod now, keeps s (s.noteAdmitted uid e pod now))
include hnote

lemma concludeAdmission_within (pod : Pod) :
    (concludeAdmission uid ref pod).Within keeps Request.stamps fun done => done = true :=
  .seq (.ask trivial) fun now => .seq (.modify fun s => hnote s _ pod now) fun _ => .pure rfl

/-- What follows a patch which landed changes what the pod is noted to hold, and nothing else. -/
lemma stampAdmission_within (hrefl : ∀ s, keeps s s) (pod : Pod) (gateName : Option String) :
    (stampAdmission uid ref pod gateName).Within keeps Request.stamps fun done => done = true :=
  .seq (.ask trivial) fun _ => .seq (.get hrefl) fun _ =>
    .seq (recordGuarantee_stamps _ _ _ _ _ _) fun _ =>
      .seq (enforceSchedulingGateRemoval_stamps _ _ _ _) fun _ =>
        concludeAdmission_within ref hnote pod

end Note

section Retry

variable {ref} (hpostpone : ∀ s at_, keeps s (s.modifyEntry ref fun e => { e with nextAttemptAt := at_ }))
include hpostpone

lemma postponeEntry_within :
    (postponeEntry ref).Within keeps Request.stamps fun _ => True := by
  have hjitter : ∀ now, (jitteredRetryAt now).Within keeps Request.stamps fun _ => True :=
    fun now => .seq (.ask trivial) fun _ => .pure trivial
  exact .seq (.ask trivial) fun now => .seq (hjitter now) fun at_ =>
    .modify fun s => hpostpone s at_

variable {uid} (hrelease : ∀ s : ControllerState, keeps s (s.releasePod uid))
include hrelease

lemma rollBack_within : (rollBack uid ref).Within keeps Request.stamps fun _ => True :=
  .seq (.modify hrelease) fun _ => .seq (postponeEntry_within hpostpone) fun _ => .pure trivial

variable (hrefl : ∀ s, keeps s s)
  (hnote : ∀ s e pod now, keeps s (s.noteAdmitted uid e pod now))
include hrefl hnote

lemma patchFreshPod_within (gateName : Option String) (e : QueueEntry) (pod : Pod) :
    (patchFreshPod uid ref gateName e pod).Within keeps Request.onePod fun _ => True := by
  rw [patchFreshPod]
  split
  · exact .seq (.modify hrelease) fun _ => .pure trivial
  · split
    · exact stamps_within_onePod (concludeAdmission_within ref hnote pod)
    · refine .seq (.ask trivial) fun landed => ?_
      split
      · exact stamps_within_onePod (stampAdmission_within ref hnote hrefl pod gateName)
      · exact stamps_within_onePod (rollBack_within hpostpone hrelease)

/-- An attempt keeps what its record, the release of it, a later retry and the note of an
admission keep. -/
theorem tryApplyToleration_within (hreserve : ∀ s e, keeps s (s.reserveFor uid e))
    (gateName : Option String) :
    (tryApplyToleration uid ref gateName).Within keeps Request.onePod fun _ => True := by
  refine .seq (.get hrefl) fun s => ?_
  dsimp only
  split
  · exact .seq (stamps_within_onePod (postponeEntry_within hpostpone)) fun _ => .pure trivial
  · refine .seq (.modify fun s' => hreserve s' _) fun _ => .seq (.ask trivial) fun freshPod => ?_
    cases freshPod with
    | none => exact stamps_within_onePod (rollBack_within hpostpone hrelease)
    | some pod => exact patchFreshPod_within hpostpone hrelease hrefl hnote gateName _ pod

end Retry

end Stamp

lemma postponeEntry_stamps : StampsOnly uid (postponeEntry ref) :=
  postponeEntry_within fun s at_ => onlyAdmits_modifyEntry uid s ref at_

lemma rollBack_stamps : StampsOnly uid (rollBack uid ref) :=
  rollBack_within (fun s at_ => onlyAdmits_modifyEntry uid s ref at_) (onlyAdmits_releasePod uid)

lemma concludeAdmission_stamps (pod : Pod) : StampsOnly uid (concludeAdmission uid ref pod) :=
  (concludeAdmission_within ref (onlyAdmits_noteAdmitted uid) pod).weaken

lemma stampAdmission_stamps (pod : Pod) (gateName : Option String) :
    StampsOnly uid (stampAdmission uid ref pod gateName) :=
  (stampAdmission_within ref (onlyAdmits_noteAdmitted uid)
    (fun s => (OnlyTells.refl s).admits uid) pod gateName).weaken

theorem tryApplyToleration_admits (gateName : Option String) :
    AdmitsOnly uid (tryApplyToleration uid ref gateName) :=
  tryApplyToleration_within (fun s at_ => onlyAdmits_modifyEntry uid s ref at_)
    (onlyAdmits_releasePod uid) (fun s => (OnlyTells.refl s).admits uid)
    (onlyAdmits_noteAdmitted uid) (onlyAdmits_reserveFor uid) gateName

lemma tellQueuedStatus_admits (config : Config) (now : Instant) :
    AdmitsOnly uid (tellQueuedStatus config uid ref now) := by
  refine .seq (get_admits uid) fun s => ?_
  dsimp only
  split
  · exact .pure trivial
  · split
    · exact (postPendingStatus_tells config uid _ _ _ _ now).admits uid
    · exact .pure trivial

/-- A pod which is rerouted is not ready. -/
def Preflight.isReady : Preflight → Bool
  | .ready _ _ => true
  | _ => false

lemma fastPath_admits (config : Config) (now : Instant) :
    AdmitsOnly uid (fastPath config uid ref now) := by
  refine .seq (get_admits uid) fun s => ?_
  dsimp only
  split
  · refine .seq (tryApplyToleration_admits uid _ _) fun done => ?_
    split
    · exact .modify fun s => onlyAdmits_dequeuePod uid s
    · exact .pure trivial
  · exact .pure trivial

lemma followUp_admits (config : Config) : AdmitsOnly uid (followUp config uid) := by
  refine .seq (get_admits uid) fun s => ?_
  split
  · exact .pure trivial
  · refine .seq (.ask trivial) fun now => .seq (fastPath_admits uid _ config now) fun _ =>
      .seq (get_admits uid) fun s => ?_
    split
    · exact tellQueuedStatus_admits uid _ config now
    · exact .pure trivial

theorem reroute_admits (config : Config) (reservation : ReservationResponse) :
    (reroute config uid ref reservation).Within (OnlyAdmits uid) Request.onePod
      fun status => Preflight.isReady status = false :=
  .seq (.ask trivial) fun _ =>
    .seq (.modify fun s => onlyAdmits_enqueuePod uid s _ _ _ _ _ _ _) fun _ =>
      .seq (followUp_admits uid config) fun _ => .pure rfl

lemma preflightPod_admits (config : Config) (now : Instant) (pod : Pod) :
    AdmitsOnly uid (preflightPod config uid ref now pod) := by
  refine .seq (get_admits uid) fun s => ?_
  dsimp only
  split
  · exact .pure trivial
  · split
    · exact (reroute_admits uid ref config _).weaken
    · split
      · exact .seq ((jitteredRetryAt_tells now).admits uid) fun retryAt =>
          (holdCandidate_tells ref retryAt (emitUnknownClassEvent_tells config uid now _ _ _)).admits uid
      · exact (preflightGate_tells config uid ref now pod _).admits uid

lemma preflightWithFit_admits (config : Config) :
    AdmitsOnly uid (preflightWithFit config uid ref) := by
  refine .seq (.ask trivial) fun now =>
    .seq (updateCandidate_admits uid ref fun _ => rfl) fun _ =>
      .seq (get_admits uid) fun s => .seq (.ask trivial) fun freshPod => ?_
  cases freshPod with
  | none =>
    exact .seq ((jitteredRetryAt_tells now).admits uid) fun retryAt =>
      (holdCandidate_tells ref retryAt (.pure trivial)).admits uid
  | some pod => exact preflightPod_admits uid ref config now pod

end Admit

/-- A move of a pod changes what it is recorded under. -/
def OnlyRelinks (s s' : ControllerState) : Prop := ∃ occupancy, s' = { s with occupancy := occupancy }

/-- A part which only moves pods to other bookings. -/
def RelinksOnly {α : Type} (p : Ctl α) : Prop :=
  p.Within OnlyRelinks Request.onePod fun _ => True

section Relink

lemma get_relinks : RelinksOnly (Prog.get : Ctl ControllerState) := .get fun s => ⟨s.occupancy, rfl⟩

lemma relinkOccupancy_eq (s : ControllerState) (uid : Uid) (rid gpus : Nat) :
    OnlyRelinks s (s.relinkOccupancy uid rid gpus) := by
  obtain ⟨_, h⟩ := releasePod_eq s uid
  rw [ControllerState.relinkOccupancy, h]
  exact ⟨_, rfl⟩

variable (now : Instant)

lemma relinkPod_relinks (view : PodRuntimeView) (res : ReservationResponse) (cause : RelinkCause) :
    RelinksOnly (relinkPod view res now cause) := by
  refine .seq (.ask trivial) fun freshPod => ?_
  cases freshPod with
  | none => exact .pure trivial
  | some pod =>
    dsimp only
    split
    · exact .pure trivial
    · refine .seq (.ask trivial) fun landed => ?_
      split
      · refine .seq (.seq (.modify fun s => relinkOccupancy_eq s _ _ _) fun _ =>
          .seq get_relinks fun s => ?_) fun _ => .pure trivial
        exact .seq ((recordGuarantee_stamps pod.uid _ _ _ _ _).mono (fun _ _ h => h)
            (fun _ => stamps_onePod) fun _ _ => trivial) fun _ =>
          .seq (.ask trivial) fun _ => .pure trivial
      · exact .pure trivial

lemma adoptPods_relinks (config : Config) (pods : List PodRuntimeView) (cause : RelinkCause) :
    RelinksOnly (adoptPods config pods now cause) := by
  refine .seq get_relinks fun s => ?_
  split
  · refine .foldlM (fun planned _ pods => ?_) pods
    exact .seq (relinkPod_relinks now planned.1 planned.2 cause) fun _ => .pure trivial
  · exact .pure trivial

end Relink

end GpuReservation.Proofs
