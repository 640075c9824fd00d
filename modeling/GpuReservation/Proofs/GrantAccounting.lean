import GpuReservation.Library.Exec
import GpuReservation.Proofs.LiveLeases

/-!
# What becomes of a lease

One grant, which nothing else disturbs, from any state of the controller and of the cluster: the
calls are answered, or fail, in every way they may.
-/

namespace GpuReservation.Proofs

open GpuReservation.Library GpuReservation.Model

/-- The pod of the name carries the reference. -/
def carriesRef (key : String × String) (rid : Nat) (w : World) : Bool :=
  (w.pods.get? key).any fun p => p.bookingReference = some rid

/-- The pod carries the lease; or the app has accepted a cancel of it, or the controller has it down
for another one, and nothing is recorded on it. -/
def leaseAccounted (key : String × String) (rid : Nat) (σ : Snap ControllerState World) : Prop :=
  carriesRef key rid σ.world ∨
    ((rid ∈ σ.world.cancelled ∨ rid ∈ σ.shared.pendingOndemandMergeCancels) ∧
      σ.shared.bucket rid = ∅)

instance (key : String × String) (rid : Nat) (σ : Snap ControllerState World) :
    Decidable (leaseAccounted key rid σ) :=
  inferInstanceAs (Decidable (_ ∨ _))

/-- How an attempt to admit a pod ends. -/
inductive AttemptEnd
  | noRoom
  | unread
  | terminal
  | tolerated
  | patched (outcome : Outcome)

/-- The end of an attempt under the lease: from the records, and the pods, it begins with, and from
the answers to the read and to the patch. -/
def attemptEnd (lease : ReservationResponse) (uid : Uid) (gpus : Nat) (label : String)
    (key : String × String) (σ : Snap ControllerState World) (cs : List Choice) : AttemptEnd :=
  if σ.shared.available lease (some uid) < gpus then .noRoom
  else
    match if (cs.headD default).outcome.replied then σ.world.pods.get? key else none with
    | none => .unread
    | some pod =>
      if pod.phase.isTerminal then .terminal
      else if podHasToleration pod tolerationKey label "NoSchedule" then .tolerated
      else .patched (cs.tail.headD default).outcome

def patchLands : AttemptEnd → Bool
  | .patched .done => true
  | .patched .replyLost => true
  | _ => false

/-- What the attempt leaves recorded on the lease.  A release takes back the first record there is of
the pod, which may be one of another reservation. -/
def leftOnLease (s : ControllerState) (rid : Nat) (uid : Uid) (gpus : Nat) :
    AttemptEnd → Dict Uid Nat
  | .noRoom => s.bucket rid
  | .tolerated => (s.recordPlacement rid uid gpus).bucket rid
  | .patched .done => (s.recordPlacement rid uid gpus).bucket rid
  | _ => ((s.recordPlacement rid uid gpus).releasePod uid).bucket rid

/-- The answer to the compensating cancel which follows. -/
def cancelAnswer (cs : List Choice) : AttemptEnd → Outcome
  | .noRoom => (cs.tail.tail.headD default).outcome
  | .unread => (cs.tail.tail.tail.headD default).outcome
  | .patched _ => (cs.tail.tail.tail.tail.headD default).outcome
  | _ => (cs.tail.headD default).outcome

section Attempt

variable {s s' : ControllerState} {uid : Uid} {rid : Nat} {gpus : Nat}

/-- What the parts of an attempt which patch nothing leave of the world. -/
def SameLeases (w w' : World) : Prop := w'.pods = w.pods ∧ w'.cancelled = w.cancelled

lemma stamps_sameLeases (i : Nat) {q : Request} (hq : Request.stamps q) (c : Choice) (w : World) :
    ∃ a w', runtime.answer i q c w = some (a, w') ∧ SameLeases w w' := by
  cases q <;> first | exact hq.elim | exact ⟨_, _, rfl, rfl, rfl⟩

/-- What a part which only stamps an admission leaves alone. -/
lemma play_stamps {α : Type} {p : Ctl α} {keeps : ControllerState → ControllerState → Prop}
    (hrefl : ∀ s, keeps s s) (htrans : ∀ s₁ s₂ s₃, keeps s₁ s₂ → keeps s₂ s₃ → keeps s₁ s₃)
    (hp : p.Within keeps Request.stamps fun _ => True) (i : Nat) (cs : List Choice)
    (σ : Snap ControllerState World) :
    ∃ a cs' σ', p.play runtime i cs σ = some (a, cs', σ') ∧ keeps σ.shared σ'.shared ∧
      SameLeases σ.world σ'.world := by
  obtain ⟨a, cs', σ', hplay, -, hkeeps, hsame⟩ := Prog.play_within hrefl htrans
    (fun w => ⟨rfl, rfl⟩) (fun w₁ w₂ w₃ h h' => ⟨h'.1.trans h.1, h'.2.trans h.2⟩)
    (fun q hq c w => stamps_sameLeases i hq c w) hp cs σ
  exact ⟨a, cs', σ', hplay, hkeeps, hsame⟩

/-- What an attempt which ended so leaves behind. -/
structure AttemptLeaves (rid : Nat) (uid : Uid) (gpus : Nat) (key : String × String)
    (ending : AttemptEnd) (cs : List Choice) (σ : Snap ControllerState World) (cs' : List Choice)
    (σ' : Snap ControllerState World) : Prop where
  left : σ'.shared.bucket rid = leftOnLease σ.shared rid uid gpus ending
  answered : uid ∉ leftOnLease σ.shared rid uid gpus ending →
    (cs'.headD default).outcome = cancelAnswer cs ending
  carries : carriesRef key rid σ'.world = (patchLands ending || carriesRef key rid σ.world)
  cancelled : σ'.world.cancelled = σ.world.cancelled
  parked : σ'.shared.pendingOndemandMergeCancels = σ.shared.pendingOndemandMergeCancels

variable {lease : ReservationResponse} {key : String × String} {cs cs' : List Choice}
  {σ σ' : Snap ControllerState World}

/-- The occupancy a pod which is let go of leaves depends on the occupancy alone. -/
lemma bucket_releasePod_congr (h : s'.occupancy = s.occupancy) :
    (s'.releasePod uid).bucket rid = (s.releasePod uid).bucket rid := by
  rw [bucket_releasePod, bucket_releasePod, ControllerState.placeOf, ControllerState.placeOf,
    ControllerState.bucket, ControllerState.bucket, h]

/-- A patch which is carried out gives the pod its reference. -/
lemma carriesRef_patchPod {w : World} {pod : Pod} {ns name : String}
    (hpod : w.pods.get? (ns, name) = some pod) (tolerations : List Toleration) (rid : Nat) :
    carriesRef (ns, name) rid (w.patchPod ns name tolerations rid) = true := by
  simp [carriesRef, World.patchPod, hpod]

lemma cancelled_patchPod (w : World) (ns name : String) (tolerations : List Toleration) (rid : Nat) :
    (w.patchPod ns name tolerations rid).cancelled = w.cancelled := by
  rw [World.patchPod]
  split <;> rfl

lemma releasePod_parked (s : ControllerState) (uid : Uid) :
    (s.releasePod uid).pendingOndemandMergeCancels = s.pendingOndemandMergeCancels := by
  obtain ⟨_, h⟩ := releasePod_eq s uid
  rw [h]

/-- The occupancy, and what is parked, are what they were. -/
def SameRecords (s s' : ControllerState) : Prop :=
  s'.occupancy = s.occupancy ∧ s'.pendingOndemandMergeCancels = s.pendingOndemandMergeCancels

lemma noteAdmitted_sameRecords (s : ControllerState) (e : QueueEntry) (pod : Pod) (now : Instant) :
    SameRecords s (s.noteAdmitted uid e pod now) := by
  obtain ⟨_, _, _, _, h⟩ := noteAdmitted_eq s uid e pod now
  rw [h]
  exact ⟨rfl, rfl⟩

/-- A part which stamps an admission with the record made. -/
lemma attemptLeaves_stamped {α : Type} {p : Ctl α} {post : α → Prop} {e : QueueEntry}
    {ending : AttemptEnd} (i : Nat) (σ₁ : Snap ControllerState World)
    (hp : p.Within SameRecords Request.stamps post)
    (hending : leftOnLease σ.shared e.reservation.id uid e.gpuRequested ending =
      (σ.shared.recordPlacement e.reservation.id uid e.gpuRequested).bucket e.reservation.id)
    (hshared : σ₁.shared = σ.shared.reserveFor uid e)
    (hcarries : carriesRef key e.reservation.id σ₁.world =
      (patchLands ending || carriesRef key e.reservation.id σ.world))
    (hcancelled : σ₁.world.cancelled = σ.world.cancelled) (cs₁ : List Choice) :
    ∃ done cs' σ', p.play runtime i cs₁ σ₁ = some (done, cs', σ') ∧
      AttemptLeaves e.reservation.id uid e.gpuRequested key ending cs σ cs' σ' := by
  obtain ⟨done, cs', σ', hplay, ⟨hocc, hparked⟩, hpods, hcan⟩ := play_stamps
    (fun s => ⟨rfl, rfl⟩) (fun _ _ _ h h' => ⟨h'.1.trans h.1, h'.2.trans h.2⟩) hp.weaken i cs₁ σ₁
  have hrecorded : uid ∈ leftOnLease σ.shared e.reservation.id uid e.gpuRequested ending := by
    rw [hending, bucket_recordPlacement, if_pos rfl, Dict.mem_set]
    exact .inl rfl
  refine ⟨done, cs', σ', hplay, ?_, fun hnot => absurd hrecorded hnot, ?_, hcan.trans hcancelled, ?_⟩
  · rw [hending, ControllerState.bucket, hocc, hshared]
    rfl
  · rw [← hcarries, carriesRef, carriesRef, hpods]
  · rw [hparked, hshared]
    rfl

/-- The patch of a pod which is there, as it is answered. -/
lemma answer_patch (i : Nat) {w : World} {pod : Pod} {ns name : String}
    (hpod : w.pods.get? (ns, name) = some pod) (u : Uid) (label : String) (rid : Nat) (c : Choice) :
    runtime.answer i (.applyToleration u ns name pod tolerationKey label rid) c w =
      if c.outcome = .refused then some (false, w)
      else some (c.outcome.replied,
        w.patchPod ns name (patchedTolerations pod tolerationKey label) rid) := by
  have hmem : (ns, name) ∈ w.pods := Dict.mem_iff_get?.mpr ⟨pod, hpod⟩
  change (if (ns, name) ∉ w.pods ∨ c.outcome = .refused then _ else _) = _
  simp only [hmem, not_true, false_or]

lemma patchFreshPod_leaves (i : Nat) (ref : Ref) (gateName : Option String) {e : QueueEntry}
    {pod : Pod} {σ₁ : Snap ControllerState World} (hshared : σ₁.shared = σ.shared.reserveFor uid e)
    (hworld : σ₁.world = σ.world)
    (hpod : σ.world.pods.get? (e.podNamespace, e.podName) = some pod) :
    ∃ done cs' σ', (patchFreshPod uid ref gateName e pod).play runtime i cs.tail σ₁ =
        some (done, cs', σ') ∧
      AttemptLeaves e.reservation.id uid e.gpuRequested (e.podNamespace, e.podName)
        (if pod.phase.isTerminal then .terminal
          else if podHasToleration pod tolerationKey e.gpuClassLabel "NoSchedule" then .tolerated
          else .patched (cs.tail.headD default).outcome) cs σ cs' σ' := by
  have hreleased : (σ₁.shared.releasePod uid).bucket e.reservation.id =
      ((σ.shared.recordPlacement e.reservation.id uid e.gpuRequested).releasePod uid).bucket
        e.reservation.id := by
    refine bucket_releasePod_congr ?_
    rw [hshared]
    rfl
  have hparked : (σ₁.shared.releasePod uid).pendingOndemandMergeCancels =
      σ.shared.pendingOndemandMergeCancels := by
    rw [releasePod_parked, hshared]
    rfl
  rw [patchFreshPod]
  split
  · refine ⟨true, cs.tail, _, rfl, hreleased, fun _ => rfl, ?_, ?_, hparked⟩
    · rw [hworld]
      rfl
    · rw [hworld]
  · split
    · refine attemptLeaves_stamped i σ₁
        (concludeAdmission_within ref noteAdmitted_sameRecords pod) rfl hshared ?_ ?_ _
      · rw [hworld]
        rfl
      · rw [hworld]
    · have hans := answer_patch i (hworld ▸ hpod : σ₁.world.pods.get? _ = some pod) uid
        e.gpuClassLabel e.reservation.id (cs.tail.headD default)
      have hpatched := carriesRef_patchPod (hworld ▸ hpod : σ₁.world.pods.get? _ = some pod)
        (patchedTolerations pod tolerationKey e.gpuClassLabel) e.reservation.id
      have hcan : (σ₁.world.patchPod e.podNamespace e.podName
          (patchedTolerations pod tolerationKey e.gpuClassLabel) e.reservation.id).cancelled =
            σ.world.cancelled := by
        rw [cancelled_patchPod, hworld]
      cases houtcome : (cs.tail.headD default).outcome with
      | refused =>
        rw [houtcome, if_pos rfl] at hans
        rw [Prog.play_ask_bind hans]
        refine ⟨false, cs.tail.tail.tail.tail, _, rfl, hreleased, fun _ => rfl, ?_, ?_, hparked⟩
        · change carriesRef _ e.reservation.id σ₁.world = _
          rw [hworld]
          rfl
        · change σ₁.world.cancelled = _
          rw [hworld]
      | replyLost =>
        rw [houtcome, if_neg Outcome.noConfusion] at hans
        rw [Prog.play_ask_bind hans]
        exact ⟨false, cs.tail.tail.tail.tail, _, rfl, hreleased, fun _ => rfl, hpatched, hcan, hparked⟩
      | done =>
        rw [houtcome, if_neg Outcome.noConfusion] at hans
        rw [Prog.play_ask_bind hans]
        exact attemptLeaves_stamped i ⟨σ₁.shared, σ₁.world.patchPod e.podNamespace e.podName
          (patchedTolerations pod tolerationKey e.gpuClassLabel) e.reservation.id⟩
          (stampAdmission_within ref noteAdmitted_sameRecords (fun _ => ⟨rfl, rfl⟩) pod gateName) rfl
          hshared hpatched hcan _

variable (uid) in
/-- One attempt, of whatever entry. -/
lemma tryApplyToleration_leaves (i : Nat) (ref : Ref) (gateName : Option String) {e : QueueEntry}
    (he : σ.shared.entry ref = e) (cs : List Choice) :
    ∃ done cs' σ', (tryApplyToleration uid ref gateName).play runtime i cs σ = some (done, cs', σ') ∧
      AttemptLeaves e.reservation.id uid e.gpuRequested (e.podNamespace, e.podName)
        (attemptEnd e.reservation uid e.gpuRequested e.gpuClassLabel (e.podNamespace, e.podName) σ
          cs) cs σ cs' σ' := by
  rw [tryApplyToleration, Prog.play_get_bind]
  dsimp only
  rw [he, attemptEnd]
  split
  · exact ⟨false, cs.tail.tail, _, rfl, rfl, fun _ => rfl, rfl, rfl, rfl⟩
  · rw [Prog.play_modify_bind]
    have hans : runtime.answer i (.readPod e.podNamespace e.podName) (cs.headD default)
        ({ σ with shared := σ.shared.reserveFor uid e } : Snap ControllerState World).world =
        some (if (cs.headD default).outcome.replied then
          σ.world.pods.get? (e.podNamespace, e.podName) else none, σ.world) := rfl
    rw [Prog.play_ask_bind hans]
    cases hread : (if (cs.headD default).outcome.replied then
        σ.world.pods.get? (e.podNamespace, e.podName) else none) with
    | none =>
      exact ⟨false, cs.tail.tail.tail, _, rfl, bucket_releasePod_congr rfl, fun _ => rfl, rfl, rfl,
        releasePod_parked _ uid⟩
    | some pod =>
      have hpod : σ.world.pods.get? (e.podNamespace, e.podName) = some pod := by
        split at hread
        · exact hread
        · cases hread
      exact patchFreshPod_leaves i ref gateName rfl rfl hpod

/-- The app has cancelled the lease, or accepts the cancel now; or the controller has it down for a
retried one. -/
def takenBack (rid : Nat) (σ : Snap ControllerState World) (cancel : Outcome) : Prop :=
  (rid ∈ σ.world.cancelled ∨ cancel ≠ .refused) ∨ rid ∈ σ.shared.pendingOndemandMergeCancels

/-- The pod carries the lease, or the patch lands; or nothing is left on the lease, and it is taken
back. -/
def leaseSettled (rid : Nat) (uid : Uid) (gpus : Nat) (key : String × String) (ending : AttemptEnd)
    (cs : List Choice) (σ : Snap ControllerState World) : Prop :=
  carriesRef key rid σ.world ∨ patchLands ending ∨
    (takenBack rid σ (cancelAnswer cs ending) ∧ leftOnLease σ.shared rid uid gpus ending = ∅)

/-- With the pod recorded on it, the lease is accounted for where the pod carries it. -/
lemma leaseAccounted_recorded {ending : AttemptEnd}
    (h : AttemptLeaves rid uid gpus key ending cs σ cs' σ') (hrec : uid ∈ σ'.shared.bucket rid) :
    leaseAccounted key rid σ' ↔ leaseSettled rid uid gpus key ending cs σ := by
  have hfull : σ'.shared.bucket rid ≠ ∅ := by
    intro hempty
    rw [hempty] at hrec
    cases hrec
  have hleft : leftOnLease σ.shared rid uid gpus ending ≠ ∅ := h.left ▸ hfull
  simp only [leaseAccounted, leaseSettled, hfull, hleft, and_false, or_false, h.carries,
    Bool.or_eq_true]
  exact or_comm

variable (lease) in
/-- What the compensating cancel leaves. -/
lemma compensate_accounts {ending : AttemptEnd} (i : Nat)
    (h : AttemptLeaves lease.id uid gpus key ending cs σ cs' σ')
    (hrec : uid ∉ σ'.shared.bucket lease.id) :
    ∃ cs₁ σ₁, (compensate lease).play runtime i cs' σ' = some ((), cs₁, σ₁) ∧
      (leaseAccounted key lease.id σ₁ ↔ leaseSettled lease.id uid gpus key ending cs σ) := by
  have hcancel := h.answered (h.left ▸ hrec)
  -- the bucket, and what is parked, are not touched
  have hsettled : ∀ w : World, w.pods = σ'.world.pods →
      (lease.id ∈ w.cancelled ↔ lease.id ∈ σ'.world.cancelled ∨ cancelAnswer cs ending ≠ .refused) →
      (leaseAccounted key lease.id ⟨σ'.shared.dropReservation lease.id, w⟩ ↔
        leaseSettled lease.id uid gpus key ending cs σ) := by
    intro w hpods hcancelled
    have hbucket : (σ'.shared.dropReservation lease.id).bucket lease.id =
        leftOnLease σ.shared lease.id uid gpus ending := h.left
    have hcarries : carriesRef key lease.id w =
        (patchLands ending || carriesRef key lease.id σ.world) := by
      rw [← h.carries, carriesRef, carriesRef, hpods]
    simp only [leaseAccounted, leaseSettled, takenBack, hbucket, hcarries, hcancelled, h.cancelled,
      Bool.or_eq_true, ← h.parked]
    rw [or_comm (a := patchLands ending = true), or_assoc]
    rfl
  have hans : runtime.answer i (.cancelReservation lease.id .controllerRevoked) (cs'.headD default)
      σ'.world = if (cs'.headD default).outcome = .refused then some (false, σ'.world)
        else some ((cs'.headD default).outcome.replied, σ'.world.cancel lease.id) := rfl
  by_cases hrefused : (cs'.headD default).outcome = .refused
  · rw [if_pos hrefused] at hans
    rw [compensate, Prog.play_ask_bind hans]
    refine ⟨cs'.tail, _, rfl, hsettled σ'.world rfl ?_⟩
    rw [← hcancel, hrefused]
    simp
  · rw [if_neg hrefused] at hans
    rw [compensate, Prog.play_ask_bind hans]
    refine ⟨cs'.tail, _, rfl, hsettled (σ'.world.cancel lease.id) rfl ?_⟩
    rw [← hcancel]
    exact iff_of_true (Finset.mem_insert_self _ _) (.inr hrefused)

/-- The lease of candidate `c`, granted from `σ`, is settled. -/
def grantSettled (lease : ReservationResponse) (uid : Uid) (c : OnDemandCandidate) (cs : List Choice)
    (σ : Snap ControllerState World) : Prop :=
  leaseSettled lease.id uid c.gpuRequested (c.podNamespace, c.podName)
    (attemptEnd lease uid c.gpuRequested c.gpuClassLabel (c.podNamespace, c.podName) σ cs) cs σ

lemma leftOnLease_congr (h : s'.occupancy = s.occupancy) (ending : AttemptEnd) :
    leftOnLease s' rid uid gpus ending = leftOnLease s rid uid gpus ending := by
  have hbucket : s'.bucket rid = s.bucket rid := by
    rw [ControllerState.bucket, ControllerState.bucket, h]
  have hrecord : (s'.recordPlacement rid uid gpus).occupancy =
      (s.recordPlacement rid uid gpus).occupancy := by
    rw [ControllerState.recordPlacement, ControllerState.recordPlacement, h, hbucket]
  have hrecorded : (s'.recordPlacement rid uid gpus).bucket rid =
      (s.recordPlacement rid uid gpus).bucket rid := by
    rw [ControllerState.bucket, ControllerState.bucket, hrecord]
  have hreleased : ((s'.recordPlacement rid uid gpus).releasePod uid).bucket rid =
      ((s.recordPlacement rid uid gpus).releasePod uid).bucket rid := bucket_releasePod_congr hrecord
  cases ending with
  | noRoom => exact hbucket
  | tolerated => exact hrecorded
  | unread => exact hreleased
  | terminal => exact hreleased
  | patched outcome =>
    cases outcome with
    | done => exact hrecorded
    | refused => exact hreleased
    | replyLost => exact hreleased

/-- Whether a grant is settled depends on the records, and on the pods and the cancels. -/
lemma grantSettled_same {c : OnDemandCandidate} (hrecords : SameRecords σ.shared σ'.shared)
    (hleases : SameLeases σ.world σ'.world) :
    grantSettled lease uid c cs σ' ↔ grantSettled lease uid c cs σ := by
  obtain ⟨hocc, hparked⟩ := hrecords
  obtain ⟨hpods, hcancelled⟩ := hleases
  have havailable : σ'.shared.available lease (some uid) = σ.shared.available lease (some uid) := by
    rw [ControllerState.available, ControllerState.available, ControllerState.usedExcept,
      ControllerState.usedExcept, ControllerState.bucket, ControllerState.bucket, hocc]
  rw [grantSettled, grantSettled, attemptEnd, havailable, hpods]
  rw [leaseSettled, leaseSettled, leftOnLease_congr hocc, takenBack, takenBack, hparked, hcancelled,
    carriesRef, carriesRef, hpods]
  rfl

variable (uid lease) in
lemma admitUnderLease_accounts (config : Config) (i : Nat) (ref : Ref) (now : Instant)
    (cs : List Choice) :
    ∃ done cs' σ', (admitUnderLease config uid ref lease now).play runtime i cs σ =
        some (done, cs', σ') ∧
      (leaseAccounted ((σ.shared.candidate ref).podNamespace, (σ.shared.candidate ref).podName)
          lease.id σ' ↔
        grantSettled lease uid (σ.shared.candidate ref) cs σ) := by
  let e := (σ.shared.candidate ref).entryUnder uid lease now
  let σ₁ : Snap ControllerState World := ⟨σ.shared.upsertLease lease e, σ.world⟩
  have hentry : σ₁.shared.entry σ.shared.entries.next = e :=
    congrArg (fun e => e.getD default) (Heap.get?_alloc_next σ.shared.entries _)
  obtain ⟨done, cs', σ', hplay, hleaves⟩ := tryApplyToleration_leaves uid i σ.shared.entries.next
    config.schedulingGateName hentry cs
  have hsame : grantSettled lease uid (σ.shared.candidate ref) cs σ₁ ↔
      grantSettled lease uid (σ.shared.candidate ref) cs σ := grantSettled_same ⟨rfl, rfl⟩ ⟨rfl, rfl⟩
  rw [admitUnderLease, Prog.play_get_bind, Prog.play_modify_bind, Prog.play_bind, hplay, ← hsame]
  simp only [Option.bind_some, Prog.play_get_bind]
  by_cases hrec : σ'.shared.recordedOn lease.id uid
  · rw [if_pos hrec]
    exact ⟨done, cs', σ', rfl, leaseAccounted_recorded hleaves (of_decide_eq_true hrec)⟩
  · rw [if_neg hrec, Prog.play_bind]
    obtain ⟨cs₁, σ₂, hcompensate, hsettled⟩ := compensate_accounts lease i hleaves
      fun hmem => hrec (decide_eq_true hmem)
    rw [hcompensate]
    exact ⟨done, cs₁, σ₂, rfl, hsettled⟩

/-- Of a candidate it is what it asks for that counts. -/
lemma grantSettled_congr {c c' : OnDemandCandidate} (h : askOf c' = askOf c) :
    grantSettled lease uid c' cs σ ↔ grantSettled lease uid c cs σ := by
  simp only [askOf, Prod.mk.injEq] at h
  obtain ⟨-, hns, hname, hlabel, hgpus⟩ := h
  rw [grantSettled, grantSettled, hns, hname, hlabel, hgpus]

end Attempt

/-- The lease a create is answered with. -/
def leaseIssued (req : ReservationRequest) (clock create : Choice) (w : World) :
    Option ReservationResponse :=
  if create.outcome = .done then
    ({ w with clock := w.clock + clock.elapsed }.create req create).1.reservation
  else none

lemma create_sameLeases (w : World) (req : ReservationRequest) (c : Choice) :
    SameLeases w (w.create req c).2 ∧ (w.create req c).2.lockOwner = w.lockOwner := by
  rw [World.create]
  split
  · exact ⟨⟨rfl, rfl⟩, rfl⟩
  · split <;> exact ⟨⟨rfl, rfl⟩, rfl⟩

lemma answer_create_done (i : Nat) (req : ReservationRequest) {ch : Choice} (w : World)
    (h : ch.outcome = .done) :
    runtime.answer i (.createReservation req) ch w =
      some ((w.create req ch).1, (w.create req ch).2.noteGrant i (w.create req ch).1) := by
  cases ch
  cases h
  rfl

/-- The app answers a create with a lease. -/
lemma answer_create (i : Nat) {req : ReservationRequest} {clock create : Choice} {w : World}
    {lease : ReservationResponse} (h : leaseIssued req clock create w = some lease) :
    ∃ attempt w', runtime.answer i (.createReservation req) create
        { w with clock := w.clock + clock.elapsed } = some (attempt, w') ∧
      attempt.reservation = some lease ∧ SameLeases w w' ∧ w'.lockOwner = w.lockOwner := by
  rw [leaseIssued] at h
  split at h
  · let w₀ : World := { w with clock := w.clock + clock.elapsed }
    obtain ⟨⟨hpods, hcancelled⟩, hlock⟩ := create_sameLeases w₀ req create
    refine ⟨_, _, answer_create_done i req w₀ ‹create.outcome = .done›, h, ?_⟩
    rw [World.noteGrant, h]
    exact ⟨⟨hpods, hcancelled⟩, hlock⟩
  · cases h

/-- What a part does which holds the lock meanwhile. -/
lemma play_withReservationLock {α : Type} {p : Ctl α} {i : Nat} {lock : Choice} {cs cs' : List Choice}
    {σ σ' : Snap ControllerState World} {a : α} {r : α × List Choice × Snap ControllerState World}
    (h : (withReservationLock p).play runtime i (lock :: cs) σ = some r)
    (hp : p.play runtime i cs ⟨σ.shared, { σ.world with lockOwner := some i }⟩ = some (a, cs', σ')) :
    r.1 = a ∧ SameRecords σ'.shared r.2.2.shared ∧ SameLeases σ'.world r.2.2.world := by
  have hacquire : runtime.answer i .acquireReservationLock lock σ.world =
      if σ.world.lockOwner = none then some ((), { σ.world with lockOwner := some i }) else none := rfl
  rw [withReservationLock] at h
  by_cases hfree : σ.world.lockOwner = none
  · rw [if_pos hfree] at hacquire
    rw [Prog.play_ask_bind hacquire, List.tail_cons, Prog.play_bind, hp, Option.bind_some,
      Prog.play_ask_bind rfl] at h
    cases h
    refine ⟨rfl, ⟨rfl, rfl⟩, ?_⟩
    dsimp only
    split <;> exact ⟨rfl, rfl⟩
  · rw [if_neg hfree] at hacquire
    rw [Prog.play_ask_bind_none hacquire] at h
    cases h

/-- The next attempt of a candidate is put off. -/
lemma play_retry {now : Instant} {ref : Ref} {i : Nat} {cs : List Choice}
    {σ : Snap ControllerState World} {r : Bool × List Choice × Snap ControllerState World}
    (h : (do
      let retryAt ← jitteredRetryAt now
      scheduleAt ref retryAt
      return false : Ctl Bool).play runtime i cs σ = some r) :
    SameRecords σ.shared r.2.2.shared ∧ SameLeases σ.world r.2.2.world := by
  cases h
  exact ⟨⟨rfl, rfl⟩, ⟨rfl, rfl⟩⟩

lemma leaseAccounted_same {key : String × String} {rid : Nat} {σ σ' : Snap ControllerState World}
    (hrecords : SameRecords σ.shared σ'.shared) (hleases : SameLeases σ.world σ'.world) :
    leaseAccounted key rid σ' ↔ leaseAccounted key rid σ := by
  rw [leaseAccounted, leaseAccounted, carriesRef, carriesRef, ControllerState.bucket,
    ControllerState.bucket, hrecords.1, hrecords.2, hleases.1, hleases.2]

/-- A grant returns with its lease accounted for exactly where the lease is settled. -/
theorem grantAndAdmit_accounts (config : Config) (uid : Uid) (ref : Ref)
    (ask : OnDemandAdmissionCandidate) (i : Nat) (clock create lock : Choice) (cs : List Choice)
    (σ : Snap ControllerState World) (lease : ReservationResponse)
    (hissued : leaseIssued (ask.request uid (σ.shared.candidate ref).bestEffort) clock create σ.world =
      some lease)
    (r : Bool × List Choice × Snap ControllerState World)
    (hreturns : (grantAndAdmit config uid ref ask).play runtime i (clock :: create :: lock :: cs) σ =
      some r) :
    leaseAccounted ((σ.shared.candidate ref).podNamespace, (σ.shared.candidate ref).podName) lease.id
        r.2.2 ↔
      grantSettled lease uid (σ.shared.candidate ref) cs σ := by
  obtain ⟨attempt, w, hcreate, hlease, ⟨hpods, hcancelled⟩, hlock⟩ := answer_create i hissued
  let c := σ.shared.candidate ref
  let resetErrors : OnDemandCandidate → OnDemandCandidate := fun c =>
    { c with leaseErrorCount := 0, awaitingCapacity := false }
  let s₁ : ControllerState := σ.shared.modifyCandidate ref resetErrors
  let σ₁ : Snap ControllerState World := ⟨s₁, { w with lockOwner := some i }⟩
  have htells : OnlyTells σ.shared (σ.shared.modifyCandidate ref resetErrors) :=
    onlyTells_modifyCandidate σ.shared ref fun _ => rfl
  have hask : askOf (s₁.candidate ref) = askOf c := htells.asks ref
  have hkey : ((s₁.candidate ref).podNamespace, (s₁.candidate ref).podName) =
      (c.podNamespace, c.podName) := by
    simp only [askOf, Prod.mk.injEq] at hask
    rw [hask.2.1, hask.2.2.1]
  have hsettled : grantSettled lease uid (s₁.candidate ref) cs σ₁ ↔ grantSettled lease uid c cs σ :=
    (grantSettled_congr hask).trans (grantSettled_same ⟨rfl, rfl⟩ ⟨hpods, hcancelled⟩)
  have hplays : (grantAndAdmit config uid ref ask).play runtime i (clock :: create :: lock :: cs) σ =
      (withReservationLock (admitUnderLease config uid ref lease (σ.world.clock + clock.elapsed)) >>=
        fun admittedQueue => if admittedQueue then return true else do
          let retryAt ← jitteredRetryAt (σ.world.clock + clock.elapsed)
          scheduleAt ref retryAt
          return false).play runtime i (lock :: cs) ⟨s₁, w⟩ := by
    rw [grantAndAdmit, Prog.play_ask_bind rfl, Prog.play_get_bind, Prog.play_ask_bind hcreate]
    dsimp only
    rw [hlease]
    rfl
  rw [hplays, Prog.play_bind, Option.bind_eq_some_iff] at hreturns
  obtain ⟨⟨admittedQueue, cs₁, σ₂⟩, hlocked, hrest⟩ := hreturns
  obtain ⟨done, cs', σ', hadmit, haccounts⟩ := admitUnderLease_accounts uid lease config i ref
    (σ.world.clock + clock.elapsed) cs (σ := σ₁)
  obtain ⟨-, hrecords, hleases⟩ := play_withReservationLock hlocked hadmit
  rw [← hsettled, ← hkey, ← haccounts, ← leaseAccounted_same hrecords hleases]
  dsimp only at hrest
  split at hrest
  · cases hrest
    rfl
  · obtain ⟨hrecords', hleases'⟩ := play_retry hrest
    exact leaseAccounted_same hrecords' hleases'

/-- What becomes of the lease of a grant made alone becomes of it in a run of the system. -/
theorem grant_isRun (config : Config) {uid : Uid} {ref : Ref} {ask : OnDemandAdmissionCandidate}
    {i : Nat} {cs : List Choice} (p : System)
    (hi : p.tasks[i]? = some (.grant uid ref ask, .ready (Job.program config (.grant uid ref ask))))
    {r : Bool × List Choice × Snap ControllerState World}
    (hreturns : (grantAndAdmit config uid ref ask).play runtime i cs p.snap = some r) :
    ∃ ds ms, (systemRun config p (.run i ds :: ms)).snap = r.2.2 := by
  have hprogram : (Job.program config (.grant uid ref ask)).play runtime i cs p.snap =
      some ((), r.2) := by
    rw [Job.program, Prog.play_bind, hreturns]
    rfl
  obtain ⟨ds, ms, hrun⟩ := Prog.play_isRun (Job.program config) outside p hi hprogram
  exact ⟨ds, ms, by rw [systemRun, hrun]; rfl⟩

/-- The reply to the patch is lost: the pod carries the lease. -/
theorem grantAndAdmit_accounts_replyLost :
    ∃ r, (grantAndAdmit {} "A" 0 leaseAsk).play runtime 0 [{}, {}, {}, {}, { outcome := .replyLost }]
        grantable = some r ∧ leaseAccounted ("ns", "a") 0 r.2.2 := by
  have hreturns : ((grantAndAdmit {} "A" 0 leaseAsk).play runtime 0
      [{}, {}, {}, {}, { outcome := .replyLost }] grantable).isSome := by decide +kernel
  have haccounts := grantAndAdmit_accounts {} "A" 0 leaseAsk 0 {} {} {}
    [{}, { outcome := .replyLost }] grantable
    (({} : World).newLease (leaseAsk.request "A" false) {}) (by decide +kernel) _
    (Option.some_get hreturns).symm
  exact ⟨_, (Option.some_get hreturns).symm, haccounts.mpr (.inr (.inl (by decide +kernel)))⟩

/-- The pod cannot be read, and the compensating cancel is refused. -/
theorem grantAndAdmit_not_accounts :
    ¬ ∀ (config : Config) (uid : Uid) (ref : Ref) (ask : OnDemandAdmissionCandidate) (i : Nat)
      (clock create lock : Choice) (cs : List Choice) (σ : Snap ControllerState World)
      (lease : ReservationResponse),
      leaseIssued (ask.request uid (σ.shared.candidate ref).bestEffort) clock create σ.world =
        some lease →
        ((grantAndAdmit config uid ref ask).play runtime i (clock :: create :: lock :: cs) σ).all
          fun r => leaseAccounted ((σ.shared.candidate ref).podNamespace,
            (σ.shared.candidate ref).podName) lease.id r.2.2 := by
  intro h
  have hleaks := h {} "A" 0 leaseAsk 0 {} {} {}
    [{ outcome := .refused }, {}, {}, { outcome := .refused }] grantable
    (({} : World).newLease (leaseAsk.request "A" false) {}) (by decide +kernel)
  revert hleaks
  decide +kernel

end GpuReservation.Proofs
