import GpuReservation.Proofs.PodNames

/-!
# Admission goes by the names of the pods

The admission passes, the queue and the watch.
-/

namespace GpuReservation.Proofs

open GpuReservation.Library GpuReservation.Model

variable {i : Nat} {P : Snap ControllerState World → Prop}

section Preflight

variable (config : Config) (uid : Uid) (ref : Ref)

lemma preflightPod_byName (now : Instant) (pod : Pod) :
    ByName i (CandidateNamed uid ref) (preflightPod config uid ref now pod) fun _ _ => True := by
  refine .get_bind fun s => .pre (P := CandidateNamed uid ref) ?_ fun _ _ h => h.2
  dsimp only
  split
  · exact .pure fun _ _ _ => trivial
  · split
    · exact reroute_byName config uid ref _
    · split
      · exact NamesOnly.byName (.seq (jitteredRetryAt_tells now).names fun retryAt =>
          (holdCandidate_tells ref retryAt (emitUnknownClassEvent_tells config uid now _ _ _)).names)
      · exact (preflightGate_tells config uid ref now pod _).names.byName

lemma preflightWithFit_byName :
    ByName i (CandidateNamed uid ref) (preflightWithFit config uid ref) fun _ _ => True := by
  refine .bind ((call_names rfl).keeps lasting_candidateNamed) fun now =>
    .bind (updateCandidate_keeps ref (fun _ => rfl) lasting_candidateNamed) fun _ =>
    .bind (get_names.keeps lasting_candidateNamed) fun s =>
    .bind ((call_names rfl).keeps lasting_candidateNamed) fun freshPod => ?_
  cases freshPod with
  | none =>
    exact NamesOnly.byName (.seq (jitteredRetryAt_tells now).names fun retryAt =>
      (holdCandidate_tells ref retryAt (.pure trivial)).names)
  | some pod => exact preflightPod_byName config uid ref now pod

end Preflight

section Grant

variable (config : Config) (uid : Uid) (ref : Ref)

/-- The entry a grant makes goes by the name of its candidate. -/
lemma admitUnderLease_byName (lease : ReservationResponse) (now : Instant) :
    ByName i (CandidateNamed uid ref) (admitUnderLease config uid ref lease now)
      fun _ _ => True := by
  refine .get_bind fun s => .modify_bind (M := EntryNamed uid s.entries.next) ?_ ?_
  · rintro σ hright ⟨rfl, h⟩
    have hsame := upsertLease_names σ.shared lease ((σ.shared.candidate ref).entryUnder uid lease now)
    exact ⟨hsame.kept, hsame.namesRight hright, _, Heap.get?_alloc_next σ.shared.entries _,
      createdAs_candidate h⟩
  · refine .bind (tryApplyToleration_byName uid _ _) fun admitted => NamesOnly.byName ?_
    refine .seq get_names fun s => ?_
    split
    · exact .pure trivial
    · exact .seq (.seq (.ask rfl) fun _ => .modify fun _ => .of_eq rfl rfl rfl rfl) fun _ =>
        .pure trivial

lemma grantAndAdmit_byName (ask : OnDemandAdmissionCandidate) :
    ByName i (CandidateNamed uid ref) (grantAndAdmit config uid ref ask) fun _ _ => True := by
  refine .bind ((call_names rfl).keeps lasting_candidateNamed) fun now =>
    .bind (get_names.keeps lasting_candidateNamed) fun s =>
    .bind ((call_names rfl).keeps lasting_candidateNamed) fun attempt => ?_
  split
  · exact NamesOnly.byName
      (.seq (handleRefusal_tells config uid ref now attempt).names fun _ => .pure trivial)
  · refine .bind (updateCandidate_keeps ref (fun _ => rfl) lasting_candidateNamed) fun _ =>
      .bind (locked_byName lasting_candidateNamed
        (admitUnderLease_byName config uid ref _ now) fun _ => lasting_true) fun admitted => ?_
    split
    · exact .pure fun _ _ h => h
    · exact NamesOnly.byName (.seq (jitteredRetryAt_tells now).names fun _ =>
        .seq (updateCandidate_names ref fun _ => rfl) fun _ => .pure trivial)

lemma grantOne_byName (r : Ready) :
    ByName i (CandidateNamed r.uid r.ref) (grantOne config r) fun _ _ => True := by
  refine .bind ((call_names rfl).keeps lasting_candidateNamed) fun now =>
    .bind ((holdOnFit_tells config r.uid r.ref now r.fit).names.keeps lasting_candidateNamed)
      fun held => ?_
  split
  · exact NamesOnly.byName (updateCandidate_names r.ref fun _ => rfl)
  · refine .bind (grantAndAdmit_byName config r.uid r.ref r.ask) fun done => ?_
    split
    · exact NamesOnly.byName (.modify fun s => removeOndemandCandidate_names s r.uid)
    · exact .pure fun _ _ h => h

end Grant

section Passes

variable (config : Config)

/-- Those found ready go by the names of their pods. -/
def ReadyNamed (ready : List Ready) (σ : Snap ControllerState World) : Prop :=
  ∀ r ∈ ready, CandidateNamed r.uid r.ref σ

lemma lasting_readyNamed (ready : List Ready) : Lasting namesContract (ReadyNamed ready) :=
  .forall fun _ => lasting_candidateNamed

lemma preflightOne_byName (now : Instant) (candidate : Uid × Ref) (ready : List Ready) :
    ByName i (fun σ => CandidateNamed candidate.1 candidate.2 σ ∧ ReadyNamed ready σ)
      (preflightOne config now ready candidate) ReadyNamed := by
  have hboth : Lasting namesContract fun σ =>
      CandidateNamed candidate.1 candidate.2 σ ∧ ReadyNamed ready σ :=
    lasting_candidateNamed.and (lasting_readyNamed ready)
  refine .bind (get_names.keeps hboth) fun s => ?_
  dsimp only
  split
  · refine .bind (R := fun _ σ => CandidateNamed candidate.1 candidate.2 σ ∧ ReadyNamed ready σ)
      (((preflightWithFit_byName config candidate.1 candidate.2).frame hboth).mono
        (fun _ _ h => ⟨h.1, h⟩) fun _ _ h => h.2) fun status => ?_
    have hkeep : ∀ {p : Ctl Unit}, NamesOnly p → ByName i (fun σ =>
        CandidateNamed candidate.1 candidate.2 σ ∧ ReadyNamed ready σ)
        (do p; return ready) ReadyNamed :=
      fun hp => .bind (hp.keeps hboth) fun _ => .pure fun _ _ h => h.2
    cases status with
    | ready ask fit =>
      refine .pure fun σ _ h r hr => ?_
      rcases List.mem_append.mp hr with hr | hr
      · exact h.2 r hr
      · obtain rfl := List.mem_singleton.mp hr
        exact h.1
    | remove =>
      exact .bind (updateCandidate_keeps candidate.2 (fun _ => rfl) hboth) fun _ =>
        hkeep (.modify fun s => removeOndemandCandidate_names s candidate.1)
    | retry => exact hkeep (updateCandidate_names candidate.2 fun _ => rfl)
  · exact .pure fun _ _ h => h.2

lemma grantEach_byName (ready : List Ready) (granted : List Uid) :
    ByName i (ReadyNamed ready) (grantEach config ready granted) fun _ _ => True := by
  refine .pre (Triple.forM_lasting (fun _ => lasting_candidateNamed) (grantOne_byName config) _)
    fun σ _ h r hr => ?_
  obtain ⟨uid, -, hfind⟩ := List.mem_filterMap.mp hr
  exact h r (List.mem_of_find?_eq_some hfind)

lemma withholdEach_names (ready : List Ready) (granted : List Uid)
    (withheld : Dict Uid AdmissionWithheld) :
    NamesOnly (withholdEach config ready granted withheld) :=
  .seq (.ask rfl) fun deferredAt =>
    .forM fun r _ => (handleWithheld_tells config r.uid r.ref deferredAt _).names

lemma admitBatch_byName (ready : List Ready) :
    ByName i (ReadyNamed ready) (admitBatch config ready) fun _ _ => True := by
  rw [admitBatch]
  split
  · refine .bind ((call_names rfl).keeps (lasting_readyNamed ready)) fun selection => ?_
    cases selection with
    | none => exact grantEach_byName config ready _
    | some answered =>
      exact .bind (grantEach_byName config ready _) fun _ =>
        (withholdEach_names config ready _ _).byName
  · exact grantEach_byName config ready _

lemma mem_candidatesByAge {s : ControllerState} {candidate : Uid × Ref}
    (h : candidate ∈ s.candidatesByAge) :
    s.ondemandCandidates.get? candidate.1 = some candidate.2 :=
  Dict.get?_eq_some_iff.mpr ((List.mem_insertionSort _).mp h)

lemma runOndemandAdmissionOnce_byName :
    ByName i P (runOndemandAdmissionOnce config) fun _ _ => True := by
  refine .bind (call_names rfl).byName fun now => .get_bind fun s =>
    .bind (R := ReadyNamed) (.pre (Triple.foldlM_lasting (fun _ => lasting_candidateNamed)
      (preflightOne_byName config now) s.candidatesByAge []) ?_) fun ready => ?_
  · rintro σ hright ⟨rfl, -⟩
    exact ⟨fun candidate hmem => hright.candidates _ _ (mem_candidatesByAge hmem), by simp [ReadyNamed]⟩
  · split
    · exact .pure fun _ _ _ => trivial
    · exact admitBatch_byName config ready

lemma runPasses_byName (n : Nat) : ByName i P (runPasses config n) fun _ _ => True := by
  induction n generalizing P with
  | zero => exact .pure fun _ _ _ => trivial
  | succ n ih =>
    have hrerun : NamesOnly (Prog.modify fun s => { s with ondemandRerunRequested := false }) :=
      .modify fun _ => .of_eq rfl rfl rfl rfl
    refine .bind hrerun.byName fun _ => .bind (runOndemandAdmissionOnce_byName config) fun _ =>
      .bind get_names.byName fun s => ?_
    split
    · exact ih
    · exact .pure fun _ _ h => h

lemma runOndemandAdmission_byName (passes : Nat) :
    ByName i P (runOndemandAdmission config passes) fun _ _ => True := by
  have hlock : ∀ locked, NamesOnly
      (Prog.modify fun s => { s with ondemandAdmissionLocked := locked }) :=
    fun _ => .modify fun _ => .of_eq rfl rfl rfl rfl
  refine .bind get_names.byName fun s => ?_
  split
  · exact .pure fun _ _ h => h
  · split
    · exact NamesOnly.byName (.modify fun _ => .of_eq rfl rfl rfl rfl)
    · exact .bind (hlock true).byName fun _ => .bind (runPasses_byName config passes) fun _ =>
        (hlock false).byName

end Passes

section Queue

variable (config : Config) (now : Instant)

/-- The entry to go on with goes by the name of the same pod. -/
lemma requeueForBetter_byName (uid : Uid) (ref : Ref) :
    ByName i (EntryNamed uid ref) (requeueForBetter now uid ref) (EntryNamed uid) := by
  refine .get_bind fun s => ?_
  dsimp only
  split
  · exact .pure fun _ _ h => h.2
  · refine .bind (R := fun _ σ => CreatedAs uid (s.entry ref).podNamespace (s.entry ref).podName σ ∧
      EntryNamed uid ref σ) (.pre ((call_names rfl).keeps (lasting_createdAs.and lasting_entryNamed))
      ?_) fun enqueuedAt => .modify_bind (M := EntryNamed uid ref) ?_ (.get_bind fun s' => ?_)
    · rintro σ - ⟨rfl, h⟩
      exact ⟨createdAs_entry h, h⟩
    · intro σ hright h
      obtain ⟨hkept, hright'⟩ := namesRight_enqueuePod uid hright h.1 _ _ _ _ _
      exact ⟨hkept, hright', h.2.kept hkept⟩
    · refine .pre (P := EntryNamed uid ((s'.taskQueue.get? uid).getD ref)) ?_ ?_
      · have hdue : NamesOnly (Prog.modify fun s => s.modifyEntry ((s'.taskQueue.get? uid).getD ref)
            fun e => { e with nextAttemptAt := now }) :=
          .modify fun s => modifyEntry_names s _ fun _ => rfl
        exact .bind (hdue.keeps lasting_entryNamed) fun _ => .pure fun _ _ h => h
      · rintro σ hright ⟨rfl, h⟩
        cases hq : σ.shared.taskQueue.get? uid with
        | none => exact h
        | some newRef => exact hright.queue uid newRef hq

lemma tickAttempt_byName (toRemove : List Uid) (uid : Uid) (ref : Ref) :
    ByName i (EntryNamed uid ref) (tickAttempt config now toRemove uid ref) fun _ _ => True := by
  refine .bind (get_names.keeps lasting_entryNamed) fun s => ?_
  dsimp only
  split
  · exact .pure fun _ _ _ => trivial
  · split
    · exact NamesOnly.byName
        (.seq (tellQueuedStatus_names config uid ref now) fun _ => .pure trivial)
    · refine .bind (tryApplyToleration_byName uid ref _) fun done => ?_
      split
      · exact .pure fun _ _ h => h
      · refine NamesOnly.byName (.seq get_names fun s => ?_)
        split
        · exact .seq (tellQueuedStatus_names config uid ref now) fun _ => .pure trivial
        · exact .pure trivial

lemma tickEntry_byName (toRemove : List Uid) (queued : Uid × Ref) :
    ByName i P (tickEntry config now toRemove queued) fun _ _ => True := by
  refine .get_bind fun s => ?_
  split
  · rename_i hq
    refine .pre (P := EntryNamed queued.1 queued.2) ?_ ?_
    · exact .bind (requeueForBetter_byName now queued.1 queued.2) fun ref =>
        tickAttempt_byName config now toRemove queued.1 ref
    · rintro σ hright ⟨rfl, -⟩
      exact hright.queue queued.1 queued.2 hq
  · exact .pure fun _ _ _ => trivial

lemma tickQueue_byName : ByName i P (tickQueue config now) fun _ _ => True := by
  refine .bind get_names.byName fun s => .bind (Triple.foldlM (J := fun _ _ _ => True)
    (fun queued _ toRemove => tickEntry_byName config now toRemove queued) _ []) fun toRemove => ?_
  exact NamesOnly.byName (.modify fun s => .foldl dequeuePod_names toRemove s)

end Queue

section Watch

variable (config : Config) (passes : Nat)

lemma retryWaiter_byName (rid : Nat) (now : Instant) (queued : Uid × Ref) :
    ByName i P (retryWaiter config rid now queued) fun _ _ => True := by
  refine .get_bind fun s => ?_
  split
  · rename_i hwaits
    refine .pre (P := EntryNamed queued.1 queued.2)
      (tryAndDequeue_byName config queued.1 queued.2) ?_
    rintro σ hright ⟨rfl, -⟩
    simp only [ControllerState.waitsOn, Bool.and_eq_true, decide_eq_true_eq] at hwaits
    exact hright.queue queued.1 queued.2 hwaits.1.1.2
  · exact .pure fun _ _ _ => trivial

lemma retryWaiters_byName (rid : Option Nat) :
    ByName i P (retryWaiters config rid) fun _ _ => True := by
  cases rid with
  | none => exact .pure fun _ _ _ => trivial
  | some rid =>
    exact .bind (call_names rfl).byName fun now => .bind get_names.byName fun s =>
      Triple.forM_keep (fun queued => retryWaiter_byName config rid now queued) _

lemma noteGpuPodNow_names (uid : Uid) (record : Option GpuPod) :
    NamesOnly (noteGpuPodNow uid record) :=
  .seq (.ask rfl) fun now => .seq get_names fun _ =>
    .seq (.modify fun s => noteGpuPod_names s now uid record) fun _ => .pure trivial

lemma admitIf_byName (wanted : Bool) : ByName i P (admitIf config passes wanted) fun _ _ => True := by
  rw [admitIf]
  split
  · exact runOndemandAdmission_byName config passes
  · exact .pure fun _ _ _ => trivial

lemma reportOverstayIfAny_names (pod : Pod) (now : Instant) :
    NamesOnly (reportOverstayIfAny config pod now) := by
  refine .seq get_names fun s => ?_
  split
  · split
    · exact .pure trivial
    · split
      · exact .pure trivial
      · exact ⟨rfl, fun _ => trivial⟩
  · exact .pure trivial

lemma withReservationLock_names {α : Type} {body : Ctl α} (h : NamesOnly body) :
    NamesOnly (withReservationLock body) :=
  .seq (call_names rfl) fun _ => .seq h fun _ => .seq (call_names rfl) fun _ => .pure trivial

lemma teardownOndemandLease_names (pod : Pod) : NamesOnly (teardownOndemandLease pod) := by
  rw [teardownOndemandLease]
  split
  · exact .pure trivial
  · refine withReservationLock_names (.seq get_names fun s => ?_)
    split
    · exact .pure trivial
    · split
      · exact .pure trivial
      · refine .seq (.ask rfl) fun cancelled => ?_
        split
        · exact .seq (.modify fun _ => .of_eq rfl rfl rfl rfl) fun _ => .pure trivial
        · exact .pure trivial

lemma podEnded_byName (pod : Pod) : ByName i P (podEnded config passes pod) fun _ _ => True := by
  have hforget : NamesOnly (Prog.modify fun s => s.forgetPod pod.uid) :=
    .modify fun s => forgetPod_names s pod.uid
  have hrelease : NamesOnly (Prog.modify fun s => s.releasePod pod.uid) :=
    .modify fun s => releasePod_names s pod.uid
  exact .bind hforget.byName fun _ => .bind get_names.byName fun _ =>
    .bind hrelease.byName fun _ => .bind (noteGpuPodNow_names pod.uid none).byName fun _ =>
    .bind (call_names rfl).byName fun now => .bind (reportOverstayIfAny_names config pod now).byName
      fun _ => .bind (teardownOndemandLease_names pod).byName fun _ =>
    .bind (retryWaiters_byName config _) fun _ => admitIf_byName config passes _

lemma podTolerated_byName (pod : Pod) :
    ByName i P (podTolerated config passes pod) fun _ _ => True := by
  have hwarm : ∀ now, NamesOnly (Prog.modify fun s => s.keepWarm pod now) :=
    fun now => .modify fun s => keepWarm_names s now pod
  exact .bind (call_names rfl).byName fun now => .bind (hwarm now).byName fun _ =>
    .bind (noteGpuPodNow_names pod.uid _).byName fun _ => admitIf_byName config passes _

/-- The pod of a watch event was created under the name it has. -/
def PodNamed (pod : Pod) (σ : Snap ControllerState World) : Prop :=
  CreatedAs pod.uid pod.ns pod.name σ

lemma lasting_podNamed (pod : Pod) : Lasting namesContract (PodNamed pod) := lasting_createdAs

variable (eventType : EventType) (pod : Pod)

lemma queuePod_byName (reservation : ReservationResponse) :
    ByName i (PodNamed pod) (queuePod pod reservation) fun _ _ => True := by
  refine .bind ((call_names rfl).keeps (lasting_podNamed pod)) fun enqueuedAt => .modify ?_
  intro σ hright h
  have hleave := removeOndemandCandidate_names σ.shared pod.uid
  obtain ⟨hkept, hright'⟩ :=
    namesRight_enqueuePod pod.uid (hleave.namesRight hright) h _ _ _ _ _
  exact ⟨hleave.kept.trans hkept, hright', trivial⟩

lemma podAdmittable_byName (reservation : ReservationResponse) :
    ByName i (PodNamed pod) (podAdmittable config eventType pod reservation) fun _ _ => True := by
  refine .bind (queuePod_byName pod reservation) fun _ => ?_
  split
  · exact followUp_byName config pod.uid
  · exact .pure fun _ _ h => h

lemma emitAnnotationNotice_names (problems : List AnnotationProblem) (now : Instant) :
    NamesOnly (emitAnnotationNotice config pod problems now) := by
  rw [emitAnnotationNotice]
  split
  · exact (postPendingStatus_tells config pod.uid pod.ns pod.name _ _ now).names
  · exact .pure trivial

/-- A pod is registered under the name it was created under. -/
lemma namesRight_addOndemandCandidate {s : ControllerState} {w : World} (h : NamesRight ⟨s, w⟩)
    {c : OnDemandCandidate} (hc : CreatedAs c.podUid c.podNamespace c.podName ⟨s, w⟩) :
    NamesKept ⟨s, w⟩ ⟨s.addOndemandCandidate c, w⟩ ∧ NamesRight ⟨s.addOndemandCandidate c, w⟩ := by
  rw [ControllerState.addOndemandCandidate]
  split
  · exact ⟨.refl _, h⟩
  · refine ⟨⟨fun _ _ hk => hk, .refl _, .alloc s.candidates c⟩, h.cluster, h.queue,
      fun u r hget => ?_⟩
    change (s.ondemandCandidates.set c.podUid s.candidates.next).get? u = some r at hget
    rw [Dict.get?_set] at hget
    split at hget
    · rename_i hu
      cases hget
      exact ⟨c, Heap.get?_alloc_next s.candidates c, hu ▸ hc⟩
    · obtain ⟨c', hc', hcreated⟩ := h.candidates u r hget
      exact ⟨c', Heap.get?_alloc_of_some hc' _, hcreated⟩

lemma podEligible_byName (minRuntime : Option Nat) (bestEffort : Bool)
    (problems : List AnnotationProblem) (now : Instant) :
    ByName i (PodNamed pod)
      (podEligible config passes eventType pod minRuntime bestEffort problems now)
      fun _ _ => True := by
  cases eventType with
  | added =>
    refine .bind ((call_names rfl).keeps (lasting_podNamed pod)) fun addedAt =>
      .modify_bind (M := fun _ => True) ?_
        (.bind (emitAnnotationNotice_names config pod problems now).byName fun _ =>
          runOndemandAdmission_byName config passes)
    intro σ hright h
    have hleave := dequeuePod_names σ.shared pod.uid
    obtain ⟨hkept, hright'⟩ := namesRight_addOndemandCandidate (hleave.namesRight hright)
      (c := { candidateOf pod minRuntime bestEffort now with nextAttemptAt := addedAt }) h
    exact ⟨hleave.kept.trans hkept, hright', trivial⟩
  | _ =>
    refine .bind get_names.byName fun s => ?_
    split
    · exact .pure fun _ _ h => h
    · split
      · exact .bind (call_names rfl).byName fun _ =>
          .bind (updateCandidate_keeps _ (fun _ => rfl) lasting_true) fun _ =>
            runOndemandAdmission_byName config passes
      · exact .pure fun _ _ h => h

lemma podWaits_byName (reservation : ReservationResponse) (reasons : List Ineligibility)
    (now : Instant) :
    ByName i (PodNamed pod) (podWaits config eventType pod reservation reasons now)
      fun _ _ => True := by
  refine .bind (queuePod_byName pod reservation) fun _ => NamesOnly.byName (.seq get_names fun s => ?_)
  split
  · exact .seq (.modify fun s => modifyEntry_names s _ fun _ => rfl) fun _ =>
      tellQueuedStatus_names config pod.uid _ now
  · exact .pure trivial

lemma podLeftPending_names (reasons : List Ineligibility) (now : Instant) :
    NamesOnly (podLeftPending config pod reasons now) := by
  refine .seq get_names fun s => ?_
  split
  · exact .pure trivial
  · split
    · exact (emitUnknownClassEvent_tells config pod.uid now _ _ _).names
    · exact (tellPod_tells config pod.uid now _ _ _ _).names

lemma podUnreserved_byName (now : Instant) :
    ByName i (PodNamed pod) (podUnreserved config passes eventType pod now) fun _ _ => True := by
  refine .ite ?_ ?_
  · exact podEligible_byName config passes eventType pod _ _ _ now
  · refine .bind ((call_names rfl).keeps (lasting_podNamed pod)) fun matchedAt =>
      .bind (get_names.keeps (lasting_podNamed pod)) fun s => ?_
    dsimp only
    split
    · exact podWaits_byName config eventType pod _ _ now
    · split
      · exact (podLeftPending_names config pod _ now).byName
      · exact .pure fun _ _ _ => trivial

lemma podPending_byName :
    ByName i (PodNamed pod) (podPending config passes eventType pod) fun _ _ => True := by
  refine .bind ((call_names rfl).keeps (lasting_podNamed pod)) fun now =>
    .bind (get_names.keeps (lasting_podNamed pod)) fun s => ?_
  split
  · exact NamesOnly.byName (.seq (.modify fun s => (removeOndemandCandidate_names s pod.uid).trans
      (dequeuePod_names _ pod.uid)) fun _ => (tellPod_tells config pod.uid now _ _ _ _).names)
  · split
    · exact podAdmittable_byName config eventType pod _
    · exact podUnreserved_byName config passes eventType pod now

theorem watchEvent_byName :
    ByName i (PodNamed pod) (watchEvent config passes eventType pod) fun _ _ => True := by
  rw [watchEvent]
  split
  · exact .pure fun _ _ _ => trivial
  · split
    · exact podEnded_byName config passes pod
    · split
      · exact podTolerated_byName config passes pod
      · exact podPending_byName config passes eventType pod

end Watch

end GpuReservation.Proofs
