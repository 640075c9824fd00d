import GpuReservation.Proofs.SweepVictims
import GpuReservation.Proofs.UniqueReservations

/-!
# What a push plans to evict

The pods of the reservations a push reports as cancelled, or as those of another owner, against the
reservations the push leaves.
-/

namespace GpuReservation.Proofs

open GpuReservation.Library GpuReservation.Model

/-- A patch landed which put the pod under another reservation. -/
def MovedFrom (id : Nat) (uid : Uid) (tr : List (Sigma Answer)) : Prop :=
  ∃ ns name pod key value reference, reference ≠ id ∧
    (⟨.applyToleration uid ns name pod key value reference, true⟩ : Sigma Answer) ∈ tr

lemma MovedFrom.mono {id : Nat} {uid : Uid} {tr tr' : List (Sigma Answer)} (hsub : tr ⊆ tr')
    (h : MovedFrom id uid tr) : MovedFrom id uid tr' := by
  obtain ⟨ns, name, pod, key, value, reference, hne, hmem⟩ := h
  exact ⟨ns, name, pod, key, value, reference, hne, hsub hmem⟩

/-- The pods of a listing which carry the toleration. -/
def toleratedPods (listed : Option (List Pod)) : List Pod :=
  (listed.getD []).filter fun p => podHasAnyReservationToleration p tolerationKey

section Plans

variable {ans : ∀ q, Answer q → Prop} {config : Config} {now : Instant} {s s' : ControllerState}
  {tr : List (Sigma Answer)}

lemma mem_or_eq_of_mem_replace {α : Type} [BEq α] {l : List α} {a b x : α}
    (h : x ∈ l.replace a b) : x ∈ l ∨ x = b := by
  induction l with
  | nil => cases h
  | cons y l ih =>
    rw [List.replace_cons] at h
    split at h
    · rcases List.mem_cons.mp h with rfl | h
      · exact .inr rfl
      · exact .inl (List.mem_cons_of_mem y h)
    · rcases List.mem_cons.mp h with rfl | h
      · exact .inl List.mem_cons_self
      · exact (ih h).imp_left (List.mem_cons_of_mem y)

/-- A pod is moved by the patch which says so. -/
lemma relinkPod_exec {view : PodRuntimeView} {res : ReservationResponse} {cause : RelinkCause}
    (h : (relinkPod view res now cause).Exec ans s tr true s') :
    ∃ ns name pod key value,
      (⟨.applyToleration view.uid ns name pod key value res.id, true⟩ : Sigma Answer) ∈ tr := by
  rw [relinkPod, Prog.exec_ask_bind] at h
  obtain ⟨freshPod, tr₁, -, rfl, h⟩ := h
  cases freshPod with
  | none =>
    obtain ⟨-, hfalse, -⟩ := h
    cases hfalse
  | some pod =>
    dsimp only at h
    split at h
    · obtain ⟨-, hfalse, -⟩ := h
      cases hfalse
    · rw [Prog.exec_ask_bind] at h
      obtain ⟨landed, tr₂, -, rfl, h⟩ := h
      cases landed with
      | true => exact ⟨_, _, _, _, _, List.mem_cons_of_mem _ List.mem_cons_self⟩
      | false =>
        obtain ⟨-, hfalse, -⟩ := h
        cases hfalse

/-- The view of a pod after adoption: as it was, or of a pod which was moved. -/
def viewOrMoved (views : List PodRuntimeView) (tr : List (Sigma Answer)) (v : PodRuntimeView) :
    Prop :=
  v ∈ views ∨ ∃ ns name pod key value reference, v.reservationId = some reference ∧
    (⟨.applyToleration v.uid ns name pod key value reference, true⟩ : Sigma Answer) ∈ tr

lemma viewOrMoved.mono {views : List PodRuntimeView} {tr tr' : List (Sigma Answer)}
    {v : PodRuntimeView} (hsub : tr ⊆ tr') (h : viewOrMoved views tr v) : viewOrMoved views tr' v := by
  refine h.imp_right ?_
  rintro ⟨ns, name, pod, key, value, reference, href, hmem⟩
  exact ⟨ns, name, pod, key, value, reference, href, hsub hmem⟩

lemma adoptPods_moved {views views' : List PodRuntimeView} {cause : RelinkCause}
    (h : (adoptPods config views now cause).Exec ans s tr views' s') :
    ∀ v ∈ views', viewOrMoved views tr v := by
  rw [adoptPods, Prog.exec_get_bind] at h
  split at h
  · refine Prog.exec_foldlM (fun _ d _ tr => ∀ v ∈ d, viewOrMoved views tr v) ?_
      (fun v hv => .inl hv) h
    intro planned l d c tr tr' d' c' hd hbody
    rw [adoptPod, Prog.exec_bind] at hbody
    obtain ⟨tr₁, tr₂, landed, c₁, rfl, hrelink, rfl, rfl, -⟩ := hbody
    have hkept : ∀ v ∈ d, viewOrMoved views (tr ++ (tr₁ ++ [])) v := fun v hv =>
      (hd v hv).mono (List.subset_append_left _ _)
    intro v hv
    cases landed with
    | false => exact hkept v hv
    | true =>
      rcases mem_or_eq_of_mem_replace hv with hv | rfl
      · exact hkept v hv
      · obtain ⟨ns, name, pod, key, value, hmem⟩ := relinkPod_exec hrelink
        refine .inr ⟨ns, name, pod, key, value, planned.2.id, rfl, ?_⟩
        exact List.mem_append_right _ (List.mem_append_left _ hmem)
  · obtain ⟨-, rfl, -⟩ := h
    exact fun v hv => .inl hv

/-- Every pod of one cancelled reservation is to be evicted, or was moved. -/
lemma planCancelledReservation_exec {snapshot : List Pod} {evictions evictions' : List PodEviction}
    {cancelled : ReservationResponse}
    (h : (planCancelledReservation config now snapshot evictions cancelled).Exec ans s tr evictions'
      s') :
    ∃ planned, evictions' = evictions ++ planned ∧
      (∀ e ∈ planned, e.pod.bookingReference = some cancelled.id ∧
        e.event = .reservationCancelled cancelled.id) ∧
      ∀ p ∈ snapshot, p.bookingReference = some cancelled.id →
        ⟨p, .reservationCancelled cancelled.id⟩ ∈ planned ∨ MovedFrom cancelled.id p.uid tr := by
  rw [planCancelledReservation] at h
  dsimp only at h
  have hofRes : ∀ p ∈ snapshot, p.bookingReference = some cancelled.id →
      p ∈ snapshot.filter fun p => p.bookingReference = some cancelled.id :=
    fun p hp href => List.mem_filter.mpr ⟨hp, decide_eq_true href⟩
  split at h
  · rw [Prog.exec_bind] at h
    obtain ⟨tr₁, tr₂, views, s₁, rfl, hadopt, rfl, rfl, -⟩ := h
    refine ⟨_, rfl, ?_, fun p hp href => ?_⟩
    · intro e he
      obtain ⟨p, hp, rfl⟩ := List.mem_map.mp he
      exact ⟨of_decide_eq_true (List.mem_filter.mp (List.mem_filter.mp hp).1).2, rfl⟩
    · by_cases hadopted : p.uid ∈
          (views.filter fun v => v.reservationId ≠ some cancelled.id).map (·.uid)
      · obtain ⟨v, hv, huid⟩ := List.mem_map.mp hadopted
        obtain ⟨hv, hne⟩ := List.mem_filter.mp hv
        rcases adoptPods_moved hadopt v hv with hold | ⟨ns, name, pod, key, value, reference, href', hmem⟩
        · -- a view which is as it was is of the cancelled reservation
          obtain ⟨q, hq, rfl⟩ := List.mem_map.mp hold
          exact absurd (of_decide_eq_true (List.mem_filter.mp hq).2) (of_decide_eq_true hne)
        · refine .inr ⟨ns, name, pod, key, value, reference, ?_, ?_⟩
          · rintro rfl
            exact of_decide_eq_true hne href'
          · rw [← huid, List.append_nil]
            exact hmem
      · refine .inl (List.mem_map.mpr ⟨p, List.mem_filter.mpr ⟨hofRes p hp href, ?_⟩, rfl⟩)
        exact decide_eq_true hadopted
  · obtain ⟨rfl, rfl, -⟩ := h
    refine ⟨_, rfl, ?_, fun p hp href => .inl (List.mem_map_of_mem (hofRes p hp href))⟩
    intro e he
    obtain ⟨p, hp, rfl⟩ := List.mem_map.mp he
    exact ⟨of_decide_eq_true (List.mem_filter.mp hp).2, rfl⟩

/-- What is planned for the reservations found cancelled, or reassigned, from a snapshot. -/
structure PlansFor (cancelled : List ReservationResponse)
    (ownerChanges : List (ReservationResponse × String)) (snapshot : List Pod)
    (evictions : List PodEviction) (tr : List (Sigma Answer)) : Prop where
  planned : ∀ e ∈ evictions,
    (∃ c ∈ cancelled, e.pod.bookingReference = some c.id ∧ e.event = .reservationCancelled c.id) ∨
      ∃ change ∈ ownerChanges, e.pod.bookingReference = some change.1.id ∧
        e.event = .reservationReassigned (change.1.user.map (·.username))
  cancels : ∀ c ∈ cancelled, ∀ p ∈ snapshot, p.bookingReference = some c.id →
    ⟨p, .reservationCancelled c.id⟩ ∈ evictions ∨ MovedFrom c.id p.uid tr
  reassigns : ∀ change ∈ ownerChanges, ∀ p ∈ snapshot, p.bookingReference = some change.1.id →
    p.ns = change.2 → ⟨p, .reservationReassigned (change.1.user.map (·.username))⟩ ∈ evictions

/-- The cancelled reservations are those in `l` and those which have been planned for. -/
structure PlannedSoFar (cancelled : List ReservationResponse) (snapshot : List Pod)
    (l : List ReservationResponse) (evictions : List PodEviction) (tr : List (Sigma Answer)) :
    Prop where
  rest : l ⊆ cancelled
  planned : ∀ e ∈ evictions, ∃ c ∈ cancelled, e.pod.bookingReference = some c.id ∧
    e.event = .reservationCancelled c.id
  cancels : ∀ c ∈ cancelled, c ∈ l ∨ ∀ p ∈ snapshot, p.bookingReference = some c.id →
    ⟨p, .reservationCancelled c.id⟩ ∈ evictions ∨ MovedFrom c.id p.uid tr

lemma plannedSoFar_step {snapshot : List Pod} {cancelled l : List ReservationResponse}
    {x : ReservationResponse} {evictions evictions' : List PodEviction} {tr' : List (Sigma Answer)}
    (hinv : PlannedSoFar cancelled snapshot (x :: l) evictions tr)
    (hbody : (planCancelledReservation config now snapshot evictions x).Exec ans s tr' evictions' s') :
    PlannedSoFar cancelled snapshot l evictions' (tr ++ tr') := by
  obtain ⟨planned, rfl, hnew, hall⟩ := planCancelledReservation_exec hbody
  refine ⟨fun r hr => hinv.rest (List.mem_cons_of_mem x hr), fun e he => ?_, fun r hr => ?_⟩
  · rcases List.mem_append.mp he with he | he
    · exact hinv.planned e he
    · exact ⟨x, hinv.rest List.mem_cons_self, hnew e he⟩
  · have hdone : (∀ p ∈ snapshot, p.bookingReference = some r.id →
        ⟨p, .reservationCancelled r.id⟩ ∈ evictions ∨ MovedFrom r.id p.uid tr) →
        ∀ p ∈ snapshot, p.bookingReference = some r.id →
          ⟨p, .reservationCancelled r.id⟩ ∈ evictions ++ planned ∨ MovedFrom r.id p.uid (tr ++ tr') :=
      fun hdone p hp href => (hdone p hp href).imp (List.mem_append_left _)
        (MovedFrom.mono (List.subset_append_left _ _))
    rcases hinv.cancels r hr with hmem | hbefore
    · rcases List.mem_cons.mp hmem with rfl | hmem
      · refine .inr fun p hp href => ?_
        exact (hall p hp href).imp (List.mem_append_right _)
          (MovedFrom.mono (List.subset_append_right _ _))
      · exact .inl hmem
    · exact .inr (hdone hbefore)

/-- The loop over the cancelled reservations. -/
lemma foldlM_planCancelledReservation_exec {snapshot : List Pod}
    {cancelled : List ReservationResponse} {evictions : List PodEviction}
    (h : (cancelled.foldlM (planCancelledReservation config now snapshot) []).Exec ans s tr evictions
      s') : PlannedSoFar cancelled snapshot [] evictions tr :=
  Prog.exec_foldlM (fun l d _ tr => PlannedSoFar cancelled snapshot l d tr)
    (fun _ _ _ _ _ _ _ _ hinv hbody => plannedSoFar_step hinv hbody)
    ⟨fun _ hr => hr, fun _ he => absurd he List.not_mem_nil, fun _ hr => .inl hr⟩ h

lemma snapshotToleratedPods_exec {snapshot : Option (List Pod)}
    (h : snapshotToleratedPods.Exec ans s tr snapshot s') :
    ∃ listed, ans .listPods listed ∧ snapshot.getD [] = toleratedPods listed := by
  rw [snapshotToleratedPods, Prog.exec_ask_bind] at h
  obtain ⟨listed, tr', hlisted, -, -, rfl, -⟩ := h
  refine ⟨listed, hlisted, ?_⟩
  cases listed <;> rfl

lemma mem_planOwnerChanges {ownerChanges : List (ReservationResponse × String)} {snapshot : List Pod}
    {e : PodEviction} :
    e ∈ planOwnerChanges ownerChanges snapshot ↔
      ∃ change ∈ ownerChanges, ∃ p ∈ snapshot, p.bookingReference = some change.1.id ∧
        p.ns = change.2 ∧ e = ⟨p, .reservationReassigned (change.1.user.map (·.username))⟩ := by
  simp only [planOwnerChanges, List.mem_flatMap, List.mem_map, List.mem_filter, Bool.and_eq_true,
    decide_eq_true_eq]
  constructor
  · rintro ⟨change, hchange, p, ⟨hp, href, hns⟩, rfl⟩
    exact ⟨change, hchange, p, hp, href, hns, rfl⟩
  · rintro ⟨change, hchange, p, hp, href, hns, rfl⟩
    exact ⟨change, hchange, p, ⟨hp, href, hns⟩, rfl⟩

/-- A reconcile plans from a listing, which it only asks for where there is something to plan. -/
lemma reconcileAfterReservationChange_exec {active cancelled : List ReservationResponse}
    {ownerChanges : List (ReservationResponse × String)} {maps : GpuClassMaps}
    {evictions : List PodEviction}
    (h : (reconcileAfterReservationChange config active cancelled ownerChanges now maps).Exec ans s
      tr evictions s') :
    ∃ l : Option (List Pod), (cancelled = [] ∧ ownerChanges = [] ∨ ans .listPods l) ∧
      PlansFor cancelled ownerChanges (toleratedPods l) evictions tr := by
  rw [reconcileAfterReservationChange, Prog.exec_ask_bind] at h
  obtain ⟨reconciledAt, tr₁, -, rfl, h⟩ := h
  rw [Prog.exec_modify_bind] at h
  split at h
  · rename_i hnothing
    obtain ⟨rfl, rfl⟩ := hnothing
    obtain ⟨-, rfl, -⟩ := h
    refine ⟨none, .inl ⟨rfl, rfl⟩, ?_⟩
    exact ⟨fun _ he => absurd he List.not_mem_nil, fun _ hc => absurd hc List.not_mem_nil,
      fun _ hchange => absurd hchange List.not_mem_nil⟩
  · rw [Prog.exec_bind] at h
    obtain ⟨tr₂, tr₃, snapshot, s₂, rfl, hsnapshot, h⟩ := h
    obtain ⟨listed, hlisted, hpods⟩ := snapshotToleratedPods_exec hsnapshot
    dsimp only at h
    rw [hpods, Prog.exec_bind] at h
    obtain ⟨tr₅, tr₆, planned, s₃, rfl, hplan, -, rfl, -⟩ := h
    have hsofar := foldlM_planCancelledReservation_exec hplan
    refine ⟨listed, .inr hlisted, fun e he => ?_, fun c hc p hp href => ?_,
      fun change hchange p hp href hns => ?_⟩
    · rcases List.mem_append.mp he with he | he
      · exact .inl (hsofar.planned e he)
      · obtain ⟨change, hchange, p, -, href, -, rfl⟩ := mem_planOwnerChanges.mp he
        exact .inr ⟨change, hchange, href, rfl⟩
    · have hdone := (hsofar.cancels c hc).resolve_left List.not_mem_nil p hp href
      refine hdone.imp (fun he => List.mem_append_left _ he) fun hm => ?_
      exact hm.mono fun e he => List.mem_cons_of_mem _
        (List.mem_append_right _ (List.mem_append_left _ he))
    · exact List.mem_append_right _
        (mem_planOwnerChanges.mpr ⟨change, hchange, p, hp, href, hns, rfl⟩)

end Plans

/-- A record of a push which takes the reservation away from its pods: it is cancelled, while its
window is open. -/
def CancelsOpen (s : ControllerState) (now : Instant) (r : ReservationResponse) : Prop :=
  r.status = .cancelled ∧ now < slotEnd r ∧ r.id ∉ s.noshowReservationIds ∧ r.id ∈ s.activeIds

/-- A record of a push which gives the reservation, as it is stored, to another owner. -/
def ReassignsOpen (s : ControllerState) (now : Instant) (r prior : ReservationResponse) : Prop :=
  r.status = .active ∧ r.kind = .booking ∧ r.user.isSome ∧ slotOpen r now ∧
    s.storedReservation r.id = some prior ∧ prior.user.isSome ∧ prior.userId.isSome ∧
    prior.userId ≠ r.userId

/-- The last record of each id agrees with every record which takes the reservation away. -/
structure LastRecordAgrees (s : ControllerState) (pushed : List ReservationResponse)
    (now : Instant) : Prop where
  cancels : ∀ r ∈ pushed, CancelsOpen s now r → ∀ last ∈ finalRecord pushed r.id,
    last.status ≠ .active
  reassigns : ∀ r ∈ pushed, ∀ prior, ReassignsOpen s now r prior → ∀ last ∈ finalRecord pushed r.id,
    last.status = .active ∧ last.userId ≠ prior.userId

/-- What a push plans to evict as cancelled is not active after it, and what it plans to evict as
another owner's has another owner after it. -/
def EvictsByFinalRecord (config : Config) (s : ControllerState) (pushed : List ReservationResponse)
    (now : Instant) (maps : GpuClassMaps) : Prop :=
  ∀ tr evictions s', (applyPushed config pushed now maps).Exec canAnswer s tr evictions s' →
    ∀ e ∈ evictions,
      (∀ id, e.event = .reservationCancelled id →
        id ∉ (applyPushToActive s.reservations pushed).map (·.id)) ∧
      ∀ owner id prior, e.event = .reservationReassigned owner → e.pod.bookingReference = some id →
        s.storedReservation id = some prior →
        ∃ r ∈ applyPushToActive s.reservations pushed, r.id = id ∧ r.userId ≠ prior.userId

section Detect

variable {s : ControllerState} {pushed : List ReservationResponse} {now : Instant}

lemma mem_detectCancelledInWindow {r : ReservationResponse} :
    r ∈ s.detectCancelledInWindow pushed now ↔ r ∈ pushed ∧ CancelsOpen s now r := by
  simp only [ControllerState.detectCancelledInWindow, List.mem_filter, CancelsOpen, Bool.and_eq_true,
    decide_eq_true_eq, and_assoc]

lemma ownerChange_eq_some_iff {r r' : ReservationResponse} {username : String} :
    s.ownerChange now r = some (r', username) ↔
      r' = r ∧ ∃ prior, ReassignsOpen s now r prior ∧ prior.user.map (·.username) = some username := by
  unfold ControllerState.ownerChange ReassignsOpen
  split
  · rename_i hopen
    obtain ⟨hactive, hkind, huser, hwindow⟩ := hopen
    cases hstored : s.storedReservation r.id with
    | none => simp
    | some prior =>
      cases hprior : prior.user with
      | none => simp [hprior]
      | some user =>
        cases hid : prior.userId with
        | none => simp [hprior, hid]
        | some userId =>
          by_cases hsame : some userId = r.userId
          · refine iff_of_false ?_ ?_
            · simp only [Option.bind_some, hprior, hid, if_pos hsame]
              exact nofun
            · rintro ⟨-, prior', ⟨-, -, -, -, hsome, -, -, hne⟩, -⟩
              rw [← Option.some_inj.mp hsome, hid] at hne
              exact hne hsame
          · simp only [Option.bind_some, hprior, hid, if_neg hsame, Option.some_inj, Prod.mk.injEq]
            constructor
            · rintro ⟨rfl, rfl⟩
              exact ⟨rfl, prior, ⟨hactive, hkind, huser, hwindow, rfl, by rw [hprior]; rfl,
                by rw [hid]; rfl, by rw [hid]; exact hsame⟩, by rw [hprior]; rfl⟩
            · rintro ⟨rfl, prior', ⟨-, -, -, -, rfl, -, -, -⟩, hname⟩
              rw [hprior, Option.map_some, Option.some_inj] at hname
              exact ⟨rfl, hname⟩
  · rename_i hclosed
    constructor
    · exact nofun
    · rintro ⟨-, prior, ⟨hactive, hkind, huser, hwindow, -⟩, -⟩
      exact absurd ⟨hactive, hkind, huser, hwindow⟩ hclosed

lemma mem_detectOwnerChangedInWindow {r : ReservationResponse} {username : String} :
    (r, username) ∈ s.detectOwnerChangedInWindow pushed now ↔
      r ∈ pushed ∧ ∃ prior, ReassignsOpen s now r prior ∧
        prior.user.map (·.username) = some username := by
  rw [ControllerState.detectOwnerChangedInWindow, List.mem_filterMap]
  constructor
  · rintro ⟨r', hr', h⟩
    obtain ⟨rfl, hprior⟩ := ownerChange_eq_some_iff.mp h
    exact ⟨hr', hprior⟩
  · rintro ⟨hr, hprior⟩
    exact ⟨r, hr, ownerChange_eq_some_iff.mpr ⟨rfl, hprior⟩⟩

end Detect

section Push

variable {config : Config} {s s' : ControllerState} {pushed : List ReservationResponse}
  {now : Instant} {maps : GpuClassMaps} {tr : List (Sigma Answer)} {evictions : List PodEviction}

/-- What a push plans is what its reconcile plans. -/
lemma applyPushed_exec {ans : ∀ q, Answer q → Prop}
    (h : (applyPushed config pushed now maps).Exec ans s tr evictions s') :
    ∃ l : Option (List Pod), (s.detectCancelledInWindow pushed now = [] ∧
        s.detectOwnerChangedInWindow pushed now = [] ∨ ans .listPods l) ∧
      PlansFor (s.detectCancelledInWindow pushed now) (s.detectOwnerChangedInWindow pushed now)
        (toleratedPods l) evictions tr := by
  rw [applyPushed, Prog.exec_get_bind, Prog.exec_bind] at h
  obtain ⟨tr₁, tr₂, planned, s₁, rfl, hreconcile, h⟩ := h
  rw [Prog.exec_bind] at h
  obtain ⟨tr₃, tr₄, _, s₂, rfl, htrack, rfl, rfl, -⟩ := h
  obtain ⟨rfl, -⟩ := Prog.exec_modify.mp htrack
  simpa using reconcileAfterReservationChange_exec hreconcile

/-- Where the last records agree, what is planned is right. -/
lemma evictsByFinalRecord_of_agrees (hagrees : LastRecordAgrees s pushed now) :
    EvictsByFinalRecord config s pushed now maps := by
  intro tr evictions s' hexec e he
  obtain ⟨l, -, hplans⟩ := applyPushed_exec hexec
  rcases hplans.planned e he with ⟨c, hc, -, hevent⟩ | ⟨change, hchange, href, hevent⟩
  · refine ⟨fun id hid hactive => ?_, fun owner id prior hother => ?_⟩
    · rw [hevent, PodEvent.reservationCancelled.injEq] at hid
      subst hid
      obtain ⟨hmem, hopen⟩ := mem_detectCancelledInWindow.mp hc
      obtain ⟨last, hlast⟩ := Option.isSome_iff_exists.mp (finalRecord_isSome hmem)
      obtain ⟨r, hr, hrid⟩ := List.mem_map.mp hactive
      have hsame : finalRecord pushed r.id = some last := hrid ▸ hlast
      exact hagrees.cancels c hmem hopen last hlast ((mem_applyPushToActive_of_named hsame).mp hr).2
    · rw [hevent] at hother
      cases hother
  · refine ⟨fun id hid => ?_, fun owner id prior _ hid hstored => ?_⟩
    · rw [hevent] at hid
      cases hid
    · rw [href, Option.some_inj] at hid
      subst hid
      obtain ⟨hmem, prior', hopen, -⟩ := mem_detectOwnerChangedInWindow.mp hchange
      obtain ⟨last, hlast⟩ := Option.isSome_iff_exists.mp (finalRecord_isSome hmem)
      obtain ⟨hactive, howner⟩ := hagrees.reassigns change.1 hmem prior' hopen last hlast
      obtain ⟨-, -, -, -, hstored', -⟩ := hopen
      rw [hstored, Option.some_inj] at hstored'
      subst hstored'
      have hid : last.id = change.1.id := (finalRecord_id hlast).2
      have hnamed : finalRecord pushed last.id = some last := hid ▸ hlast
      exact ⟨last, (mem_applyPushToActive_of_named hnamed).mpr ⟨rfl, hactive⟩, hid, howner⟩

end Push

/-- A pod of a user under a reservation, which is to be found in a listing. -/
def podUnder (id : Nat) (username : String) : Pod where
  uid := "P"
  ns := username
  name := "p"
  gpuClass := "c"
  gpuCount := 1
  tolerations := [{ key := some tolerationKey, value := some "c", effect := some "NoSchedule" }]
  bookingReference := some id

/-- A world with one pod, in which no patch lands. -/
def onePodWorld (p : Pod) : World := { pods := Dict.ofList [((p.ns, p.name), p)] }

def unpatchedAnswer (p : Pod) : ∀ q, Answer q
  | .applyToleration _ _ _ _ _ _ _ => false
  | q => worldAnswer (onePodWorld p) rfl {} q

lemma unpatchedAnswer_canAnswer (p : Pod) (q : Request) : canAnswer q (unpatchedAnswer p q) := by
  cases q with
  | applyToleration judged ns name pod key value reference =>
    refine ⟨0, { outcome := .refused }, {}, {}, ?_⟩
    rw [answer, if_pos (.inr rfl)]
    rfl
  | _ => exact worldAnswer_canAnswer (onePodWorld p) rfl {} _

/-- Where nothing is patched, no pod is moved. -/
lemma not_movedFrom_of_unpatched {α : Type} {q : Ctl α} {p : Pod} {s s' : ControllerState} {a : α}
    {tr : List (Sigma Answer)} (h : q.Exec (fun q a => a = unpatchedAnswer p q) s tr a s') (id : Nat)
    (uid : Uid) : ¬ MovedFrom id uid tr := by
  rintro ⟨ns, name, pod, key, value, reference, -, hmem⟩
  have hanswer := Prog.exec_answered h _ hmem
  cases hanswer

lemma toleratedPods_podUnder (id : Nat) (username : String) :
    toleratedPods (some [podUnder id username]) = [podUnder id username] := rfl

section Push

variable {config : Config} {s s' : ControllerState} {pushed : List ReservationResponse}
  {now : Instant} {maps : GpuClassMaps}

variable (config maps) in
/-- What a push finds to evict, it evicts in some cluster. -/
lemma exists_applyPushed_plans (id : Nat) (username : String)
    (hfinds : ¬ (s.detectCancelledInWindow pushed now = [] ∧
      s.detectOwnerChangedInWindow pushed now = [])) :
    ∃ tr evictions s', (applyPushed config pushed now maps).Exec canAnswer s tr evictions s' ∧
      (∀ c ∈ s.detectCancelledInWindow pushed now, c.id = id →
        ⟨podUnder id username, .reservationCancelled id⟩ ∈ evictions) ∧
      ∀ change ∈ s.detectOwnerChangedInWindow pushed now, change.1.id = id → change.2 = username →
        ⟨podUnder id username, .reservationReassigned (change.1.user.map (·.username))⟩ ∈
          evictions := by
  have hexec := Prog.exec_runWith_eq (unpatchedAnswer (podUnder id username))
    (applyPushed config pushed now maps) s
  obtain ⟨l, hlisted, hplans⟩ := applyPushed_exec hexec
  obtain rfl : l = some [podUnder id username] := hlisted.resolve_left hfinds
  rw [toleratedPods_podUnder] at hplans
  refine ⟨_, _, _, Prog.exec_mono (fun q a h => h ▸ unpatchedAnswer_canAnswer _ q) hexec, ?_, ?_⟩
  · rintro c hc rfl
    have hplanned := hplans.cancels c hc _ List.mem_cons_self rfl
    exact hplanned.resolve_right (not_movedFrom_of_unpatched hexec _ _)
  · rintro change hchange rfl rfl
    exact hplans.reassigns change hchange _ List.mem_cons_self rfl rfl

/-- What is planned is right only where the last records agree. -/
lemma agrees_of_evictsByFinalRecord (h : EvictsByFinalRecord config s pushed now maps) :
    LastRecordAgrees s pushed now where
  cancels := by
    intro r hr hopen last hlast hactive
    have hfound : r ∈ s.detectCancelledInWindow pushed now :=
      mem_detectCancelledInWindow.mpr ⟨hr, hopen⟩
    obtain ⟨tr, evictions, s', hexec, hcancels, -⟩ := exists_applyPushed_plans config maps r.id ""
      fun hnone => List.ne_nil_of_mem hfound hnone.1
    have hgone := (h tr evictions s' hexec _ (hcancels r hfound rfl)).1 r.id rfl
    have hid : last.id = r.id := (finalRecord_id hlast).2
    refine hgone (List.mem_map.mpr ⟨last, ?_, hid⟩)
    have hnamed : finalRecord pushed last.id = some last := hid ▸ hlast
    exact (mem_applyPushToActive_of_named hnamed).mpr ⟨rfl, hactive⟩
  reassigns := by
    intro r hr prior hopen last hlast
    obtain ⟨user, huser⟩ := Option.isSome_iff_exists.mp hopen.2.2.2.2.2.1
    have hfound : (r, user.username) ∈ s.detectOwnerChangedInWindow pushed now :=
      mem_detectOwnerChangedInWindow.mpr ⟨hr, prior, hopen, by rw [huser, Option.map_some]⟩
    obtain ⟨tr, evictions, s', hexec, -, hreassigns⟩ := exists_applyPushed_plans config maps r.id
      user.username fun hnone => List.ne_nil_of_mem hfound hnone.2
    obtain ⟨r', hr', hid, howner⟩ := (h tr evictions s' hexec _ (hreassigns _ hfound rfl rfl)).2 _
      r.id prior rfl rfl hopen.2.2.2.2.1
    have hnamed : finalRecord pushed r'.id = some last := hid.symm ▸ hlast
    obtain ⟨rfl, hactive⟩ := (mem_applyPushToActive_of_named hnamed).mp hr'
    exact ⟨hactive, howner⟩

end Push

/-- What a push plans to evict is as the reservations after it say, exactly if the last record of
each id agrees with the records before it which take the reservation away. -/
theorem applyPushed_evictsByFinalRecord_iff (config : Config) (s : ControllerState)
    (pushed : List ReservationResponse) (now : Instant) (maps : GpuClassMaps) :
    EvictsByFinalRecord config s pushed now maps ↔ LastRecordAgrees s pushed now :=
  ⟨agrees_of_evictsByFinalRecord, evictsByFinalRecord_of_agrees⟩

/-- A booking which is running. -/
def runningBooking : ReservationResponse where
  id := 1
  userId := some 1
  user := some { id := 1, username := "alice" }
  gpuClassId := 1
  gpuClass := { id := 1, name := "c", labelValue := some "c" }
  startUtc := 0
  endUtc := minutes 60
  gpuCount := 1

/-- It is cancelled, and then it is active again. -/
def cancelledAndBack : List ReservationResponse :=
  [{ runningBooking with status := .cancelled }, runningBooking]

theorem applyPushed_evictsByFinalRecord_false :
    ¬ ∀ config s pushed now maps, EvictsByFinalRecord config s pushed now maps := by
  intro h
  have hagrees := agrees_of_evictsByFinalRecord (h {}
    { reservations := [runningBooking], reservationsKnown := true } cancelledAndBack 0 .empty)
  exact hagrees.cancels { runningBooking with status := .cancelled } List.mem_cons_self
    ⟨rfl, by decide +kernel, Finset.notMem_empty _, by decide +kernel⟩ runningBooking rfl rfl

end GpuReservation.Proofs
