import GpuReservation.Model.System
import GpuReservation.Proofs.Footprints
import GpuReservation.Proofs.WorldHistory

/-!
# Leases are asked for pods which still wait for one

One admission pass, among any other tasks.
-/

namespace GpuReservation.Proofs

open GpuReservation.Library GpuReservation.Model

/-- The pod is registered for a lease, and recorded on no reservation. -/
def waiting (uid : Uid) (s : ControllerState) : Prop :=
  uid ∈ s.ondemandCandidates ∧ s.placeOf uid = none

instance (uid : Uid) (s : ControllerState) : Decidable (waiting uid s) :=
  inferInstanceAs (Decidable (_ ∧ _))

/-- The call asks the app for a lease for the pod. -/
def asksFor (uid : Uid) : Request → Bool
  | .createReservation req => req.idempotencyKey = uid
  | _ => false

variable {uid : Uid}

lemma waiting_of_tells {s s' : ControllerState} (h : OnlyTells s s') (hw : waiting uid s) :
    waiting uid s' := by
  rw [h.rest]
  exact hw

lemma waiting_of_admits {s s' : ControllerState} {u : Uid} (hne : uid ≠ u) (h : OnlyAdmits u s s')
    (hw : waiting uid s) : waiting uid s' := by
  refine ⟨?_, ?_⟩
  · rw [h.rest]
    exact hw.1
  · rw [placeOf_eq_none_iff]
    intro rid hmem
    obtain ⟨g, hg⟩ := Dict.mem_iff_get?.mp hmem
    rw [h.occupancy rid uid hne] at hg
    exact (placeOf_eq_none_iff s).mp hw.2 rid (Dict.mem_iff_get?.mpr ⟨g, hg⟩)

lemma not_asksFor_of_onePod {q : Request} (h : Request.onePod q) : ¬ asksFor uid q := by
  cases q <;> first | exact Bool.false_ne_true | exact fun _ => h

/-- The others leave a waiting pod waiting; a lease is asked for a pod which waits. -/
def passContract (uid : Uid) : Contract ControllerState World Request Choice where
  rely σ σ' := waiting uid σ.shared → waiting uid σ'.shared
  guar _ _ := True
  issued q σ := asksFor uid q → waiting uid σ.shared
  served _ _ := True
  assumed _ _ _ := True
  ended _ := True
  rely_refl _ := id
  rely_trans h₁ h₂ := h₂ ∘ h₁
  guar_refl _ := trivial
  guar_trans _ _ := trivial

section Pass

variable {i : Nat} {α : Type}

/-- As long as `φ` holds of what is still to be done, the pod waits. -/
def whileAsked (uid : Uid) (φ : Prop) (σ : Snap ControllerState World) : Prop :=
  φ → waiting uid σ.shared

lemma whileAsked_stable (φ : Prop) : Stable (passContract uid) (whileAsked uid φ) :=
  fun _ _ hr h hφ => hr (h hφ)

lemma pass_within {φ : Prop} {keeps : ControllerState → ControllerState → Prop}
    {allowed : Request → Prop} {post : α → Prop} {p : Ctl α} (hp : p.Within keeps allowed post)
    (hallowed : ∀ q, allowed q → ¬ asksFor uid q)
    (hkeeps : φ → ∀ s s', keeps s s' → waiting uid s → waiting uid s') :
    Triple runtime (fun _ => True) (passContract uid) i (whileAsked uid φ) p
      fun a σ => post a ∧ whileAsked uid φ σ := by
  refine .of_within hp (whileAsked_stable φ) ?_ ?_ fun q c w hq => answer_of_sync i hq c w
  · intro σ c' hk _ hw
    exact ⟨trivial, trivial, fun hφ => hkeeps hφ _ _ hk (hw hφ)⟩
  · intro q hq σ _ hw
    exact ⟨fun hask => absurd hask (hallowed q hq), trivial,
      fun c a w _ _ => ⟨trivial, trivial, hw⟩⟩

lemma pass_tells {φ : Prop} {p : Ctl α} (hp : TellsOnly p) :
    Triple runtime (fun _ => True) (passContract uid) i (whileAsked uid φ) p
      fun _ => whileAsked uid φ :=
  (pass_within hp (fun _ hq => not_asksFor_of_onePod (tells_onePod hq))
    fun _ _ _ => waiting_of_tells).mono (fun _ _ h => h) fun _ _ h => h.2

lemma pass_admits {φ : Prop} {u : Uid} {p : Ctl α} (hφ : φ → uid ≠ u) (hp : AdmitsOnly u p) :
    Triple runtime (fun _ => True) (passContract uid) i (whileAsked uid φ) p
      fun _ => whileAsked uid φ :=
  (pass_within hp (fun _ => not_asksFor_of_onePod) fun h _ _ => waiting_of_admits (hφ h)).mono
    (fun _ _ h => h) fun _ _ h => h.2

lemma pass_call {φ : Prop} (q : Request) (hq : Request.onePod q) :
    Triple runtime (fun _ => True) (passContract uid) i (whileAsked uid φ) (call q)
      fun _ => whileAsked uid φ := by
  have hcall : (call q).Within OnlyTells Request.onePod fun _ => True := .ask hq
  exact (pass_within hcall (fun _ => not_asksFor_of_onePod) fun _ _ _ => waiting_of_tells).mono
    (fun _ _ h => h) fun _ _ h => h.2

/-- A pod which preflight finds ready still waits. -/
lemma preflightWithFit_pass {φ : Prop} (config : Config) (u : Uid) (ref : Ref) :
    Triple runtime (fun _ => True) (passContract uid) i (whileAsked uid φ)
      (preflightWithFit config u ref)
      fun status => whileAsked uid (φ ∧ (uid ≠ u ∨ Preflight.isReady status)) := by
  have hkeep : ∀ {p : Ctl Preflight}, TellsOnly p →
      Triple runtime (fun _ => True) (passContract uid) i (whileAsked uid φ) p
        fun status => whileAsked uid (φ ∧ (uid ≠ u ∨ Preflight.isReady status)) :=
    fun hp => (pass_tells hp).mono (fun _ _ h => h) fun _ _ h hφ => h hφ.1
  by_cases hne : uid = u
  · subst hne
    refine .bind (pass_call .now trivial) fun now => ?_
    refine .bind (pass_tells (updateCandidate_tells ref fun _ => rfl)) fun _ => ?_
    refine .bind (pass_tells get_tells) fun s => ?_
    refine .bind (pass_call (.readPod _ _) trivial) fun freshPod => ?_
    cases freshPod with
    | none =>
      exact hkeep (.seq (jitteredRetryAt_tells now) fun _ => holdCandidate_tells ref _ (.pure trivial))
    | some pod =>
      refine .bind (pass_tells get_tells) fun s => ?_
      dsimp only
      split
      · exact hkeep (.pure trivial)
      · split
        · -- a pod which was rerouted is not ready
          refine .mono (pass_within (reroute_admits uid ref config _)
            (fun _ => not_asksFor_of_onePod) False.elim) (fun _ _ _ => False.elim)
            fun status _ h hφ => ?_
          rw [h.1] at hφ
          exact absurd hφ.2 (by simp)
        · split
          · exact hkeep (.seq (jitteredRetryAt_tells now) fun _ =>
              holdCandidate_tells ref _ (emitUnknownClassEvent_tells config uid now _ _ _))
          · exact hkeep (preflightGate_tells config uid ref now pod _)
  · exact (pass_admits (fun _ => hne) (preflightWithFit_admits u ref config)).mono
      (fun _ _ h => h) fun status σ h hφ => h hφ.1

end Pass

section Batch

variable {i : Nat} (config : Config)

/-- The pods still to be vetted and those found ready are all different, and the pod waits if it is
one of them. -/
def vetting (uid : Uid) (l : List (Uid × Ref)) (ready : List Ready)
    (σ : Snap ControllerState World) : Prop :=
  (ready.map (·.uid) ++ l.map Prod.fst).Nodup ∧
    whileAsked uid (uid ∈ ready.map (·.uid) ++ l.map Prod.fst) σ

lemma waiting_of_remove {s : ControllerState} {u : Uid} (hne : uid ≠ u) (hw : waiting uid s) :
    waiting uid (s.removeOndemandCandidate u) :=
  ⟨Dict.mem_erase.mpr ⟨hne, hw.1⟩, hw.2⟩

lemma preflightOne_pass (now : Instant) (x : Uid × Ref) (l : List (Uid × Ref))
    (ready : List Ready) :
    Triple runtime (fun _ => True) (passContract uid) i (vetting uid (x :: l) ready)
      (preflightOne config now ready x) (vetting uid l) := by
  obtain ⟨u, ref⟩ := x
  refine .assume fun hnodup => ?_
  rw [List.map_cons] at hnodup ⊢
  obtain ⟨hu, hrest⟩ := List.nodup_cons.mp (List.nodup_middle.mp hnodup)
  -- the pods left, once `u` has been dealt with
  have hleft : uid ∈ ready.map (·.uid) ++ l.map Prod.fst →
      uid ∈ ready.map (·.uid) ++ u :: l.map Prod.fst ∧ uid ≠ u := fun h =>
    ⟨List.perm_middle.mem_iff.mpr (List.mem_cons_of_mem u h), fun he => hu (he ▸ h)⟩
  refine .bind (pass_tells get_tells) fun s => ?_
  dsimp only
  split
  · refine .bind (preflightWithFit_pass config u ref) fun status => ?_
    cases status with
    | ready ask fit =>
      refine .pure fun σ _ h => ⟨?_, fun huid => h ⟨?_, .inr rfl⟩⟩
      · simpa using hnodup
      · simpa using huid
    | remove =>
      refine .bind (pass_tells (updateCandidate_tells ref fun _ => rfl)) fun _ => ?_
      refine .bind (R := fun _ => whileAsked uid (uid ∈ ready.map (·.uid) ++ l.map Prod.fst))
        (.modify fun σ _ h => ⟨trivial, trivial, fun huid => ?_⟩) fun _ =>
          .pure fun σ _ h => ⟨hrest, h⟩
      obtain ⟨hmem, hne⟩ := hleft huid
      exact waiting_of_remove hne (h ⟨hmem, .inl hne⟩)
    | retry =>
      refine .bind (pass_tells (updateCandidate_tells ref fun _ => rfl)) fun _ =>
        .pure fun σ _ h => ⟨hrest, fun huid => ?_⟩
      obtain ⟨hmem, hne⟩ := hleft huid
      exact h ⟨hmem, .inl hne⟩
  · exact .pure fun σ _ h => ⟨hrest, fun huid => h (hleft huid).1⟩

/-- The grants still to come are of different pods, and the pod waits if it is one of them. -/
def granting (uid : Uid) (l : List Ready) (σ : Snap ControllerState World) : Prop :=
  (l.map (·.uid)).Nodup ∧ whileAsked uid (uid ∈ l.map (·.uid)) σ

/-- A part of a grant to pod `u` which asks for no lease. -/
def AdmitsUnderLease {α : Type} (uid u : Uid) (p : Ctl α) : Prop :=
  p.Within (fun s s' => uid ≠ u → waiting uid s → waiting uid s') (fun q => ¬ asksFor uid q)
    fun _ => True

lemma withReservationLock_within (u : Uid) (ref : Ref) (lease : ReservationResponse)
    (now : Instant) :
    AdmitsUnderLease uid u (withReservationLock (admitUnderLease config u ref lease now)) := by
  have hget : AdmitsUnderLease uid u (Prog.get : Ctl ControllerState) := .get fun _ _ h => h
  have hask : ∀ q, ¬ asksFor uid q → AdmitsUnderLease uid u (call q) := fun q hq => .ask hq
  refine .seq (hask .acquireReservationLock Bool.false_ne_true) fun _ => .seq ?_ fun _ =>
    .seq (hask .releaseReservationLock Bool.false_ne_true) fun _ => .pure trivial
  refine .seq hget fun s => .seq (.modify fun _ _ h => h) fun _ => .seq ?_ fun admitted => ?_
  · exact (tryApplyToleration_admits u s.entries.next config.schedulingGateName).mono
      (fun _ _ h hne => waiting_of_admits hne h) (fun _ => not_asksFor_of_onePod) fun _ _ => trivial
  · refine .seq hget fun s => ?_
    split
    · exact .pure trivial
    · exact .seq (.seq (hask (.cancelReservation _ _) Bool.false_ne_true) fun _ => .modify fun _ _ h => h)
        fun _ => .pure trivial

lemma grantAndAdmit_pass {φ : Prop} (u : Uid) (ref : Ref) (ask : OnDemandAdmissionCandidate) :
    Triple runtime (fun _ => True) (passContract uid) i (whileAsked uid (φ ∨ uid = u))
      (grantAndAdmit config u ref ask) fun _ => whileAsked uid (φ ∧ uid ≠ u) := by
  refine .bind (pass_call .now trivial) fun now => ?_
  refine .bind (pass_tells get_tells) fun s => ?_
  refine .bind (R := fun _ => whileAsked uid (φ ∧ uid ≠ u))
    (.ask rfl (whileAsked_stable _) (fun _ => whileAsked_stable _) ?_ ?_) fun attempt => ?_
  · exact fun σ _ h hask => h (.inr (of_decide_eq_true hask).symm)
  · exact fun σ _ h => ⟨trivial, fun _ _ _ _ _ => ⟨trivial, trivial, fun hφ => h (.inl hφ.1)⟩⟩
  · split
    · exact .bind (pass_tells (handleRefusal_tells config u ref now attempt)) fun _ =>
        .pure fun _ _ h => h
    · refine .bind (pass_tells (updateCandidate_tells ref fun _ => rfl)) fun _ => ?_
      refine .bind ((pass_within (withReservationLock_within config u ref _ now) (fun _ h => h)
        fun hφ s s' hk => hk hφ.2).mono (fun _ _ h => h) fun _ _ h => h.2) fun admitted => ?_
      split
      · exact .pure fun _ _ h => h
      · exact .bind (pass_tells (jitteredRetryAt_tells now)) fun retryAt =>
          .bind (pass_tells (updateCandidate_tells ref fun _ => rfl)) fun _ => .pure fun _ _ h => h

lemma grantOne_pass (r : Ready) (l : List Ready) :
    Triple runtime (fun _ => True) (passContract uid) i (granting uid (r :: l))
      (grantOne config r) fun _ => granting uid l := by
  refine .assume fun hnodup => ?_
  obtain ⟨hr, hrest⟩ := List.nodup_cons.mp hnodup
  have hend : ∀ σ, whileAsked uid (uid ∈ l.map (·.uid) ∧ uid ≠ r.uid) σ → granting uid l σ :=
    fun σ h => ⟨hrest, fun huid => h ⟨huid, fun he => hr (by subst he; exact huid)⟩⟩
  refine .pre (P := whileAsked uid (uid ∈ l.map (·.uid) ∨ uid = r.uid)) ?_ fun σ _ h huid =>
    h (by rw [List.map_cons, List.mem_cons]; exact huid.symm)
  refine .bind (pass_call .now trivial) fun now => ?_
  refine .bind (pass_tells (holdOnFit_tells config r.uid r.ref now r.fit)) fun held => ?_
  split
  · exact .mono (pass_tells (updateCandidate_tells r.ref fun _ => rfl)) (fun _ _ h => h)
      fun _ σ h => hend σ fun hφ => h (.inl hφ.1)
  · refine .bind (grantAndAdmit_pass config r.uid r.ref r.ask) fun done => ?_
    split
    · refine .modify fun σ _ h => ⟨trivial, trivial, hend _ fun hφ => ?_⟩
      exact waiting_of_remove hφ.2 (h hφ)
    · exact .pure fun σ _ h => hend σ h

/-- Those among the granted who were found ready, in the order of the grants. -/
lemma map_uid_granted (ready : List Ready) (granted : List Uid) :
    (granted.filterMap fun u => ready.find? (·.uid = u)).map (·.uid) =
      granted.filter fun u => u ∈ ready.map (·.uid) := by
  induction granted with
  | nil => rfl
  | cons u granted ih =>
    rw [List.filterMap_cons, List.filter_cons]
    cases hfind : ready.find? (·.uid = u) with
    | none =>
      have hu : u ∉ ready.map (·.uid) := by
        intro hmem
        obtain ⟨r, hr, rfl⟩ := List.mem_map.mp hmem
        exact absurd (List.find?_eq_none.mp hfind r hr) (by simp)
      rw [if_neg (by simpa using hu)]
      exact ih
    | some r =>
      have hr : r.uid = u := by simpa using List.find?_some hfind
      have hu : u ∈ ready.map (·.uid) :=
        hr ▸ List.mem_map_of_mem (List.mem_of_find?_eq_some hfind)
      rw [if_pos (by simpa using hu), List.map_cons, hr, ih]

/-- Where their uids are distinct, those are the ones found ready whose uids are granted. -/
lemma mem_granted {ready : List Ready} (hdistinct : (ready.map (·.uid)).Nodup) {granted : List Uid}
    {r : Ready} : r ∈ (granted.filterMap fun u => ready.find? (·.uid = u)) ↔
      r ∈ ready ∧ r.uid ∈ granted := by
  rw [List.mem_filterMap]
  constructor
  · rintro ⟨u, hu, hfind⟩
    have hr : r.uid = u := by simpa using List.find?_some hfind
    exact ⟨List.mem_of_find?_eq_some hfind, hr ▸ hu⟩
  · rintro ⟨hr, hu⟩
    refine ⟨r.uid, hu, ?_⟩
    cases hfind : ready.find? (·.uid = r.uid) with
    | none => exact absurd (List.find?_eq_none.mp hfind r hr) (by simp)
    | some r' =>
      have hr' : r'.uid = r.uid := by simpa using List.find?_some hfind
      rw [List.inj_on_of_nodup_map hdistinct (List.mem_of_find?_eq_some hfind) hr hr']

/-- Those granted, each once, are among those found ready. -/
lemma granted_nodup (ready : List Ready) {granted : List Uid} (hgranted : granted.Nodup) :
    ((granted.filterMap fun u => ready.find? (·.uid = u)).map (·.uid)).Nodup ∧
      ∀ u ∈ (granted.filterMap fun u => ready.find? (·.uid = u)).map (·.uid),
        u ∈ ready.map (·.uid) := by
  rw [map_uid_granted]
  exact ⟨hgranted.filter _, fun u hu => by simpa using (List.mem_filter.mp hu).2⟩

lemma grantEach_pass (ready : List Ready) (granted : List Uid) (hgranted : granted.Nodup) :
    Triple runtime (fun _ => True) (passContract uid) i
      (whileAsked uid (uid ∈ ready.map (·.uid))) (grantEach config ready granted)
      fun _ => whileAsked uid False := by
  obtain ⟨hnodup, hsub⟩ := granted_nodup ready hgranted
  refine (Triple.forM (grantOne_pass config) _).mono (fun σ _ h => ⟨hnodup, fun huid => h ?_⟩)
    fun _ _ _ => False.elim
  exact hsub uid huid

lemma withholdEach_tells (ready : List Ready) (granted : List Uid)
    (withheld : Dict Uid AdmissionWithheld) : TellsOnly (withholdEach config ready granted withheld) :=
  .seq (.ask trivial) fun deferredAt =>
    .forM fun r _ => handleWithheld_tells config r.uid r.ref deferredAt _

lemma mapGrantedUids_nodup (ready : List Ready) (granted : List Uid) :
    (mapGrantedUids ready granted).Nodup := by
  rw [mapGrantedUids]
  refine List.foldlRecOn granted _ List.nodup_nil fun result hresult u _ => ?_
  split
  · rename_i h
    simp only [Bool.and_eq_true, Bool.not_eq_true', List.contains_eq_mem, decide_eq_false_iff_not] at h
    exact List.nodup_append'.mpr ⟨hresult, List.nodup_singleton u, by simpa using h.2⟩
  · exact hresult

lemma admitBatch_pass (ready : List Ready) :
    Triple runtime (fun _ => True) (passContract uid) i (vetting uid [] ready)
      (admitBatch config ready) fun _ _ => True := by
  refine .assume fun hnodup => ?_
  rw [List.map_nil, List.append_nil] at hnodup ⊢
  have hdue : ((ready.filter (·.due)).map (·.uid)).Nodup :=
    hnodup.sublist (List.filter_sublist.map _)
  have hend : ∀ granted : List Uid, granted.Nodup → Triple runtime (fun _ => True)
      (passContract uid) i (whileAsked uid (uid ∈ ready.map (·.uid)))
      (grantEach config ready granted) fun _ _ => True := fun granted hgranted =>
    (grantEach_pass config ready granted hgranted).mono (fun _ _ h => h) fun _ _ _ => trivial
  rw [admitBatch]
  split
  · refine .bind (R := fun _ => whileAsked uid (uid ∈ ready.map (·.uid))) ?_ fun selection => ?_
    · exact .ask rfl (whileAsked_stable _) (fun _ => whileAsked_stable _)
        (fun _ _ _ hask => (Bool.false_ne_true hask).elim)
        fun _ _ h => ⟨trivial, fun _ _ _ _ _ => ⟨trivial, trivial, h⟩⟩
    · cases selection with
      | none => exact hend _ hdue
      | some answered =>
        exact .bind (grantEach_pass config ready _ (mapGrantedUids_nodup ready _)) fun _ =>
          (pass_tells (withholdEach_tells config ready _ _)).mono (fun _ _ h => h)
            fun _ _ _ => trivial
  · exact hend _ hdue

lemma candidatesByAge_keys (s : ControllerState) :
    (s.candidatesByAge.map Prod.fst).Perm s.ondemandCandidates.keys :=
  (List.perm_insertionSort _ s.ondemandCandidates.entries).map Prod.fst

/-- The pod, if it is registered, is recorded on no reservation. -/
def unrecorded (uid : Uid) (σ : Snap ControllerState World) : Prop :=
  uid ∈ σ.shared.ondemandCandidates → σ.shared.placeOf uid = none

theorem runOndemandAdmissionOnce_pass :
    Triple runtime (fun _ => True) (passContract uid) i (unrecorded uid)
      (runOndemandAdmissionOnce config) fun _ _ => True := by
  refine .bind (R := fun _ => unrecorded uid) (.ask_sync rfl fun σ _ h c =>
    ⟨_, _, rfl, trivial, trivial, h⟩) fun now => ?_
  refine .get_bind fun s => ?_
  refine .bind (R := vetting uid []) (.pre (P := vetting uid s.candidatesByAge [])
    (Triple.foldlM (preflightOne_pass config now) _ []) ?_) fun ready => ?_
  · rintro σ _ ⟨rfl, h⟩
    have hperm := candidatesByAge_keys σ.shared
    refine ⟨hperm.nodup_iff.mpr σ.shared.ondemandCandidates.nodup, fun huid => ?_⟩
    have hmem : uid ∈ σ.shared.ondemandCandidates := hperm.mem_iff.mp huid
    exact ⟨hmem, h hmem⟩
  · split
    · exact .pure fun _ _ _ => trivial
    · exact admitBatch_pass config ready

end Batch

section Run

variable {L : Type} (body : L → Ctl Unit) (uid : Uid) (i : Nat)

/-- A step of another task of the pass, or of the world, leaves the pod waiting. -/
def leavesWaiting (p : Pool ControllerState World Request Answer L)
    (m : Move L Choice WorldEvent) : Prop :=
  m.task? ≠ some i → waiting uid p.snap.shared →
    waiting uid (step runtime body outside p m).snap.shared

/-- The pod waits wherever the step asks the app for a lease for it. -/
def asksWaiting (p : Pool ControllerState World Request Answer L)
    (m : Move L Choice WorldEvent) : Prop :=
  (issuedCall runtime i body outside p m).any (asksFor uid) →
    waiting uid (step runtime body outside p m).snap.shared

instance (p : Pool ControllerState World Request Answer L) (m : Move L Choice WorldEvent) :
    Decidable (leavesWaiting body uid i p m) :=
  inferInstanceAs (Decidable (_ → _ → _))

instance (p : Pool ControllerState World Request Answer L) (m : Move L Choice WorldEvent) :
    Decidable (asksWaiting body uid i p m) :=
  inferInstanceAs (Decidable (_ → _))

/-- A pass asks for leases only for pods which wait for one at that instant, through any
interleaving in which the other tasks do not stop a waiting pod from waiting. -/
theorem admissionPass_asksWaiting (config : Config) (l : L)
    (p : Pool ControllerState World Request Answer L) (cs : List Choice)
    (ms : List (Move L Choice WorldEvent))
    (hi : p.tasks[i]? = some (l, .ready (runOndemandAdmissionOnce config)))
    (hstart : uid ∈ p.snap.shared.ondemandCandidates → p.snap.shared.placeOf uid = none)
    (hrun : runMeets runtime body outside (leavesWaiting body uid i) p (.run i cs :: ms)) :
    runMeets runtime body outside (asksWaiting body uid i) p (.run i cs :: ms) := by
  have hmeets : runMeets runtime body outside
      (focusMeets runtime (fun _ => True) (passContract uid) i body outside) p (.run i cs :: ms) :=
    runMeets_mono (fun p m h => ⟨fun hm => ⟨h hm, trivial⟩, fun _ _ _ => trivial⟩) hrun
  refine runMeets_mono (fun p m h hask => ?_)
    (focus_runFrom hi (runOndemandAdmissionOnce_pass config) trivial hstart hmeets)
  obtain ⟨q, hq, hasks⟩ := (Option.any_eq_true _ _).mp hask
  exact h.1 q hq hasks

end Run

/-- A pod kept pending by the taint of its class. -/
def taintedPod : Pod where
  uid := "A"
  ns := "ns"
  name := "a"
  gpuClass := "c"
  gpuCount := 1
  minRuntimeSeconds := some 3600
  usageGroup := some "g"
  podScheduled := some
    { statusFalse := true, unschedulable := true, message := some { untoleratedTaint := true } }

def taintedCandidate : OnDemandCandidate where
  podUid := "A"
  podName := "a"
  podNamespace := "ns"
  gpuClassLabel := "c"
  gpuRequested := 1
  minRuntimeSeconds := 3600
  podCreatedAt := 0
  nextAttemptAt := 0
  usageGroup := some "g"

/-- One candidate, and an admission pass about to begin. -/
def oneCandidate : System where
  snap :=
    { shared :=
        { gpuClassIds := Dict.ofList [("c", 1)]
          candidates := ⟨[taintedCandidate]⟩
          ondemandCandidates := Dict.ofList [("A", 0)] }
      world :=
        { pods := Dict.ofList [(("ns", "a"), taintedPod)]
          created := Dict.ofList [("A", ("ns", "a"))] } }
  tasks := [(.admissionPass, .ready (runOndemandAdmissionOnce {}))]

/-- The pod is read, and the app offered the candidate. -/
def offered : List SystemMove :=
  [.serve 0 {}, .run 0 [], .serve 0 { selection := { granted := ["A"] } }]

theorem admissionPass_asksWaiting_oneCandidate :
    runMeets runtime (Job.program {}) outside (asksWaiting (Job.program {}) "A" 0) oneCandidate
      (.run 0 [] :: (offered ++ [.run 0 []])) :=
  admissionPass_asksWaiting (Job.program {}) "A" 0 {} .admissionPass oneCandidate [] _ rfl
    (fun _ => by decide +kernel) (by decide +kernel)

/-- The pass does ask for the lease. -/
example : issuedCall runtime 0 (Job.program {}) outside
      (systemRun {} oneCandidate (.run 0 [] :: offered)) (.run 0 []) =
    some (.createReservation ⟨"ns", some "g", 1, 1, some 4200, "A"⟩) := by
  rfl

/-- The pod is deleted while the app ranks the candidates. -/
theorem admissionPass_not_asksWaiting :
    ¬ ∀ (config : Config) (uid : Uid) (i : Nat) (l : Job) (p : System) (cs : List Choice)
      (ms : List SystemMove),
      p.tasks[i]? = some (l, .ready (runOndemandAdmissionOnce config)) →
        (uid ∈ p.snap.shared.ondemandCandidates → p.snap.shared.placeOf uid = none) →
          runMeets runtime (Job.program config) outside (asksWaiting (Job.program config) uid i) p
            (.run i cs :: ms) := by
  intro h
  have hruns := h {} "A" 0 .admissionPass oneCandidate []
    ([.serve 0 {}, .run 0 [], .event (.podGone "ns" "a"), .spawn (.watch .deleted taintedPod 1),
      .run 1 [], .serve 0 { selection := { granted := ["A"] } }, .run 0 []]) rfl
    (fun _ => by decide +kernel)
  revert hruns
  decide +kernel

end GpuReservation.Proofs
