import GpuReservation.Proofs.FailedAttempts

/-!
# The pods waiting on a reservation

A pod holding the reservation has gone, and the pods waiting on it are tried one after another.
-/

namespace GpuReservation.Proofs

open GpuReservation.Library GpuReservation.Model

/-- What the turns of the waiters leave alone: requests, the places in the queue they do not give
up, and the records on the reservation. -/
structure WaitersLeave (rid : Nat) (s s' : ControllerState) : Prop where
  entries : ∀ ref, SameEntry (s.entry ref) (s'.entry ref)
  queue : ∀ uid ref, s'.taskQueue.get? uid = some ref → s.taskQueue.get? uid = some ref
  recorded : ∀ uid, uid ∈ s.bucket rid → uid ∈ s'.bucket rid
  used : (s.bucket rid).total ≤ (s'.bucket rid).total

namespace WaitersLeave

variable {rid : Nat} {s s₁ s₂ s₃ : ControllerState}

lemma refl (s : ControllerState) : WaitersLeave rid s s :=
  ⟨fun _ => rfl, fun _ _ h => h, fun _ h => h, le_rfl⟩

lemma trans (h : WaitersLeave rid s₁ s₂) (h' : WaitersLeave rid s₂ s₃) : WaitersLeave rid s₁ s₃ where
  entries ref := by
    have h₁ := h.entries ref
    have h₂ := h'.entries ref
    unfold SameEntry at h₁ h₂ ⊢
    rw [← h₁, ← h₂]
  queue uid ref hget := h.queue uid ref (h'.queue uid ref hget)
  recorded uid hmem := h'.recorded uid (h.recorded uid hmem)
  used := h.used.trans h'.used

end WaitersLeave

lemma SameEntry.reservation {e e' : QueueEntry} (h : SameEntry e e') :
    e'.reservation = e.reservation := by
  unfold SameEntry at h
  rw [← h]

lemma SameEntry.gpuRequested {e e' : QueueEntry} (h : SameEntry e e') :
    e'.gpuRequested = e.gpuRequested := by
  unfold SameEntry at h
  rw [← h]

lemma PutOff.sameEntry {s s' : ControllerState} {ref : Ref} {tr : List (Sigma Answer)}
    (h : PutOff ref tr s s') (ref' : Ref) : SameEntry (s.entry ref') (s'.entry ref') := by
  obtain ⟨t, delay, -, -, -, hentries⟩ := h
  unfold SameEntry ControllerState.entry
  rw [hentries]
  exact Heap.read_modify_field
    (fun e : QueueEntry => { e with nextAttemptAt := (s.entries.read ref').nextAttemptAt })
    (f := fun e => { e with nextAttemptAt := t + seconds delay }) (fun _ => rfl) s.entries ref ref'

section Turn

variable {s s' : ControllerState} {uid : Uid} {ref : Ref} {gateName : Option String}
  {tr : List (Sigma Answer)} {done : Bool}

/-- What an attempt on a waiter leaves: it is recorded, or the reservation is as it was. -/
structure WaiterTried (uid : Uid) (ref : Ref) (s : ControllerState) (tr : List (Sigma Answer))
    (done : Bool) (s' : ControllerState) : Prop where
  entries : ∀ ref', SameEntry (s.entry ref') (s'.entry ref')
  queue : s'.taskQueue = s.taskQueue
  bucket : s'.bucket (s.entry ref).reservation.id = s.bucket (s.entry ref).reservation.id ∨
    (s.entry ref).gpuRequested ≤ s.available (s.entry ref).reservation (some uid) ∧
      s'.bucket (s.entry ref).reservation.id =
        (s.bucket (s.entry ref).reservation.id).set uid (s.entry ref).gpuRequested
  left : done = false →
    s.available (s.entry ref).reservation (some uid) < (s.entry ref).gpuRequested ∨
      ∃ c ∈ tr, attemptCallFailed c
  landed : (∃ c ∈ tr, patchLanded c) → done = true ∧ uid ∈ s'.bucket (s.entry ref).reservation.id

/-- Once a waiter is recorded, a release takes that record away, or leaves the reservation alone. -/
lemma bucket_release_reserveFor (huntracked : uid ∉ s.bucket (s.entry ref).reservation.id) :
    ((s.reserveFor uid (s.entry ref)).releasePod uid).bucket (s.entry ref).reservation.id =
        s.bucket (s.entry ref).reservation.id ∨
      ((s.reserveFor uid (s.entry ref)).releasePod uid).bucket (s.entry ref).reservation.id =
        (s.bucket (s.entry ref).reservation.id).set uid (s.entry ref).gpuRequested := by
  have hbucket : (s.reserveFor uid (s.entry ref)).bucket (s.entry ref).reservation.id =
      (s.bucket (s.entry ref).reservation.id).set uid (s.entry ref).gpuRequested :=
    (bucket_recordPlacement s _ uid _ _).trans (if_pos rfl)
  rw [bucket_releasePod, hbucket]
  split
  · exact .inl (Dict.erase_set_of_not_mem huntracked _)
  · exact .inr rfl

lemma TakenBack.bucket (h : TakenBack uid ref tr s s') (rid : Nat) :
    s'.bucket rid = (s.releasePod uid).bucket rid := by
  unfold ControllerState.bucket
  rw [h.state]

lemma TakenBack.taskQueue (h : TakenBack uid ref tr s s') : s'.taskQueue = s.taskQueue := by
  obtain ⟨_, hrelease⟩ := releasePod_eq s uid
  rw [h.state, hrelease]

/-- An attempt on a pod which is not recorded on the reservation it waits for. -/
theorem tryApplyToleration_waiter (huntracked : uid ∉ s.bucket (s.entry ref).reservation.id)
    (h : (tryApplyToleration uid ref gateName).Exec canAnswer s tr done s') :
    WaiterTried uid ref s tr done s' := by
  cases tryApplyToleration_outcome h with
  | full hroom hquiet hoff hrest =>
    refine ⟨hoff.sameEntry, ?_, .inl ?_, fun _ => .inl hroom, ?_⟩
    · rw [hrest]
    · rw [hrest]
      rfl
    · rintro ⟨c, hc, hlanded⟩
      exact absurd hlanded (hquiet c hc).2
  | failed hroom hfail hunpatched hback =>
    refine ⟨hback.putOff.sameEntry, hback.taskQueue, ?_, fun _ => .inr hfail, ?_⟩
    · rw [hback.bucket]
      exact (bucket_release_reserveFor huntracked).imp_right fun hset => ⟨hroom, hset⟩
    · rintro ⟨c, hc, hlanded⟩
      exact absurd hlanded (hunpatched c hc)
  | dropped hroom hquiet =>
    obtain ⟨_, hrelease⟩ := releasePod_eq (s.reserveFor uid (s.entry ref)) uid
    refine ⟨?_, ?_, ?_, nofun, ?_⟩
    · intro ref'
      rw [entry_releasePod]
      rfl
    · rw [hrelease]
      rfl
    · exact (bucket_release_reserveFor huntracked).imp_right fun hset => ⟨hroom, hset⟩
    · rintro ⟨c, hc, hlanded⟩
      exact absurd hlanded (hquiet c hc).2
  | admitted hroom hquiet hnoted =>
    have hbucket : s'.bucket (s.entry ref).reservation.id =
        (s.bucket (s.entry ref).reservation.id).set uid (s.entry ref).gpuRequested := by
      rw [ControllerState.bucket, hnoted.occupancy]
      exact (bucket_recordPlacement s _ uid _ _).trans (if_pos rfl)
    refine ⟨?_, hnoted.taskQueue, .inr ⟨hroom, hbucket⟩, nofun, fun _ => ⟨rfl, ?_⟩⟩
    · intro ref'
      unfold ControllerState.entry
      rw [hnoted.entries]
      rfl
    · rw [hbucket]
      exact Dict.mem_set.mpr (.inl rfl)

variable {config : Config} {rid : Nat} {now : Instant}

lemma waitsOn_iff : s.waitsOn rid now (uid, ref) = true ↔
    (s.entry ref).reservation.id = rid ∧ s.taskQueue.get? uid = some ref ∧
      slotOpen (s.entry ref).reservation now ∧ uid ∉ s.bucket rid := by
  simp only [ControllerState.waitsOn, ControllerState.recordedOn, Bool.and_eq_true,
    decide_eq_true_eq, Bool.not_eq_true', decide_eq_false_iff_not, and_assoc]

/-- A turn of the loop which tries its waiter. -/
structure WaiterTurn (rid : Nat) (uid : Uid) (ref : Ref) (s : ControllerState)
    (tr : List (Sigma Answer)) (s' : ControllerState) : Prop where
  entries : ∀ ref', SameEntry (s.entry ref') (s'.entry ref')
  queue : ∀ u ref', s'.taskQueue.get? u = some ref' → s.taskQueue.get? u = some ref'
  bucket : s'.bucket rid = s.bucket rid ∨
    (s.entry ref).gpuRequested ≤ s.available (s.entry ref).reservation (some uid) ∧
      s'.bucket rid = (s.bucket rid).set uid (s.entry ref).gpuRequested
  left : uid ∈ s'.taskQueue →
    s.available (s.entry ref).reservation (some uid) < (s.entry ref).gpuRequested ∨
      ∃ c ∈ tr, attemptCallFailed c
  landed : (∃ c ∈ tr, patchLanded c) → uid ∉ s'.taskQueue ∧ uid ∈ s'.bucket rid

lemma retryWaiter_turn {u : Unit} (hwaits : s.waitsOn rid now (uid, ref) = true)
    (h : (retryWaiter config rid now (uid, ref)).Exec canAnswer s tr u s') :
    WaiterTurn rid uid ref s tr s' := by
  obtain ⟨rfl, -, -, huntracked⟩ := waitsOn_iff.mp hwaits
  unfold retryWaiter at h
  rw [Prog.exec_get_bind, if_pos hwaits, Prog.exec_bind] at h
  obtain ⟨tr₁, tr₂, done, s₁, rfl, hattempt, h⟩ := h
  have htried := tryApplyToleration_waiter huntracked hattempt
  cases done with
  | true =>
    obtain ⟨rfl, rfl⟩ := Prog.exec_modify.mp h
    rw [List.append_nil]
    have hgone : uid ∉ (s₁.dequeuePod uid).taskQueue := fun hmem => (Dict.mem_erase.mp hmem).1 rfl
    refine ⟨htried.entries, fun u ref' hget => ?_, htried.bucket, fun hmem => absurd hmem hgone,
      fun hlanded => ⟨hgone, (htried.landed hlanded).2⟩⟩
    rw [← htried.queue]
    exact Dict.get?_of_get?_erase hget
  | false =>
    obtain ⟨rfl, -, rfl⟩ := h
    rw [List.append_nil]
    refine ⟨htried.entries, fun u ref' hget => ?_, htried.bucket, fun _ => htried.left rfl,
      fun hlanded => ?_⟩
    · rwa [htried.queue] at hget
    · cases (htried.landed hlanded).1

/-- A waiter which is not to be tried now is passed over. -/
lemma retryWaiter_passes {u : Unit} (hwaits : s.waitsOn rid now (uid, ref) = false)
    (h : (retryWaiter config rid now (uid, ref)).Exec canAnswer s tr u s') : s' = s := by
  unfold retryWaiter at h
  rw [Prog.exec_get_bind, if_neg (by rw [hwaits]; exact Bool.false_ne_true)] at h
  obtain ⟨-, -, rfl⟩ := h
  rfl

lemma WaiterTurn.used (h : WaiterTurn rid uid ref s tr s') (huntracked : uid ∉ s.bucket rid) :
    (s.bucket rid).total ≤ (s'.bucket rid).total ∧
      (uid ∈ s'.bucket rid →
        (s'.bucket rid).total = (s.bucket rid).total + (s.entry ref).gpuRequested) := by
  cases h.bucket with
  | inl hsame =>
    rw [hsame]
    exact ⟨le_rfl, fun hmem => absurd hmem huntracked⟩
  | inr hset =>
    have htotal := Dict.total_set (s.bucket rid) uid (s.entry ref).gpuRequested
    rw [Dict.get?_eq_none_iff.mpr huntracked, Option.getD_none] at htotal
    rw [hset.2]
    exact ⟨by omega, fun _ => by omega⟩

lemma retryWaiter_leaves {u : Unit} (h : (retryWaiter config rid now (uid, ref)).Exec canAnswer s tr u s') :
    WaitersLeave rid s s' := by
  cases hwaits : s.waitsOn rid now (uid, ref) with
  | false =>
    obtain rfl := retryWaiter_passes hwaits h
    exact .refl s'
  | true =>
    have hturn := retryWaiter_turn hwaits h
    have huntracked := (waitsOn_iff.mp hwaits).2.2.2
    refine ⟨hturn.entries, hturn.queue, fun v hmem => ?_, (hturn.used huntracked).1⟩
    cases hturn.bucket with
    | inl hsame => rwa [hsame]
    | inr hset =>
      rw [hset.2]
      exact Dict.mem_set.mpr (.inr hmem)

end Turn

lemma available_none (s : ControllerState) (r : ReservationResponse) :
    s.available r none = r.gpuCount - (s.bucket r.id).total := by
  rw [ControllerState.available, usedExcept_none]

/-- A pod which is not recorded has nothing to be left out. -/
lemma available_of_untracked {s : ControllerState} {r : ReservationResponse} {uid : Uid}
    (h : uid ∉ s.bucket r.id) : s.available r (some uid) = s.available r none := by
  have hused := usedExcept_add s r.id uid
  rw [Dict.get?_eq_none_iff.mpr h, Option.getD_none, Nat.add_zero] at hused
  rw [available_none, ControllerState.available, hused]

abbrev RetryTurn : Type := Prog.Turn (Uid × Ref) ControllerState Answer

section Loop

variable {config : Config} {rid : Nat} {now : Instant} {s s' : ControllerState}
  {queued : List (Uid × Ref)} {turns : List RetryTurn}

/-- The turn admits its waiter: the pod leaves the queue with its GPUs recorded. -/
def admitsWaiter (rid : Nat) (now : Instant) (t : RetryTurn) : Prop :=
  t.before.waitsOn rid now t.item = true ∧ t.item.1 ∉ t.after.taskQueue ∧
    t.item.1 ∈ t.after.bucket rid

instance (rid : Nat) (now : Instant) : DecidablePred (admitsWaiter rid now) :=
  fun _ => inferInstanceAs (Decidable (_ ∧ _))

def waiterGpus (t : RetryTurn) : Nat := (t.before.entry t.item.2).gpuRequested

lemma turns_leave (h : Prog.Turns canAnswer (retryWaiter config rid now) queued s turns s') :
    WaitersLeave rid s s' := by
  induction h with
  | nil s => exact .refl s
  | cons hturn hrest ih => exact (retryWaiter_leaves hturn).trans ih

/-- A waiter left in the queue is one which does not fit what is left, or whose attempt failed: what
is left only shrinks after its turn. -/
theorem turns_leaveNone (h : Prog.Turns canAnswer (retryWaiter config rid now) queued s turns s')
    {uid : Uid} {ref : Ref} (hqueued : (uid, ref) ∈ queued)
    (hstill : s'.taskQueue.get? uid = some ref) (hid : (s'.entry ref).reservation.id = rid)
    (hopen : slotOpen (s'.entry ref).reservation now) (huntracked : uid ∉ s'.bucket rid) :
    s'.available (s'.entry ref).reservation none < (s'.entry ref).gpuRequested ∨
      ∃ t ∈ turns, t.item = (uid, ref) ∧ ∃ c ∈ t.trace, attemptCallFailed c := by
  induction h with
  | nil s => cases hqueued
  | @cons x l s s₁ s' tr turns hturn hrest ih =>
    rcases List.mem_cons.mp hqueued with rfl | hqueued
    · have hfirst := retryWaiter_leaves hturn
      have hlater := turns_leave hrest
      have hsame := (hfirst.trans hlater).entries ref
      have hbefore : uid ∉ s.bucket rid := fun hmem =>
        huntracked (hlater.recorded uid (hfirst.recorded uid hmem))
      have hwaits : s.waitsOn rid now (uid, ref) = true := by
        rw [waitsOn_iff, ← hsame.reservation]
        exact ⟨hid, (hfirst.trans hlater).queue uid ref hstill, hopen, hbefore⟩
      have htried := retryWaiter_turn hwaits hturn
      cases htried.left (Dict.mem_iff_get?.mpr ⟨ref, hlater.queue uid ref hstill⟩) with
      | inl hroom =>
        left
        have hused := hfirst.used.trans hlater.used
        rw [← hsame.reservation, ← hsame.gpuRequested,
          available_of_untracked (by rw [hid]; exact hbefore), available_none, hid] at hroom
        rw [available_none, hid]
        omega
      | inr hfailed => exact .inr ⟨_, List.mem_cons_self, rfl, hfailed⟩
    · refine (ih hqueued hstill hid hopen huntracked).imp_right ?_
      rintro ⟨t, ht, hrest⟩
      exact ⟨t, List.mem_cons_of_mem _ ht, hrest⟩

/-- The copies of the reservation on the queue are of one with no more GPUs. -/
def QueuedFor (r : ReservationResponse) (s : ControllerState) : Prop :=
  ∀ uid ref, s.taskQueue.get? uid = some ref → (s.entry ref).reservation.id = r.id →
    (s.entry ref).reservation.gpuCount ≤ r.gpuCount

lemma WaitersLeave.queuedFor {r : ReservationResponse} (h : WaitersLeave rid s s')
    (hs : QueuedFor r s) : QueuedFor r s' := by
  intro uid ref hget hid
  have hsame := (h.entries ref).reservation
  rw [hsame] at hid ⊢
  exact hs uid ref (h.queue uid ref hget) hid

/-- What the waiters are admitted with fits what was left when the loop began. -/
theorem turns_withinBudget {r : ReservationResponse}
    (h : Prog.Turns canAnswer (retryWaiter config r.id now) queued s turns s')
    (hqueue : QueuedFor r s) :
    ((turns.filter (admitsWaiter r.id now)).map waiterGpus).sum ≤ s.available r none := by
  induction h with
  | nil s => exact Nat.zero_le _
  | @cons x l s s₁ s' tr turns hturn hrest ih =>
    obtain ⟨uid, ref⟩ := x
    have hleaves := retryWaiter_leaves hturn
    have hrest := ih (hleaves.queuedFor hqueue)
    rw [available_none] at hrest ⊢
    have hused := hleaves.used
    by_cases hadmits : admitsWaiter r.id now ⟨(uid, ref), s, tr, s₁⟩
    · rw [List.filter_cons_of_pos (by simpa using hadmits), List.map_cons, List.sum_cons]
      obtain ⟨hwaits, -, hmem⟩ : s.waitsOn r.id now (uid, ref) = true ∧ uid ∉ s₁.taskQueue ∧
        uid ∈ s₁.bucket r.id := hadmits
      obtain ⟨hid, hget, -, huntracked⟩ := waitsOn_iff.mp hwaits
      have htried := retryWaiter_turn hwaits hturn
      have hrecorded := (htried.used huntracked).2 hmem
      have hfits : (s.entry ref).gpuRequested ≤
          (s.entry ref).reservation.gpuCount - (s.bucket r.id).total := by
        cases htried.bucket with
        | inl hsame =>
          rw [hsame] at hmem
          exact absurd hmem huntracked
        | inr hset =>
          have hroom := hset.1
          rwa [available_of_untracked (by rw [hid]; exact huntracked), available_none, hid] at hroom
      have hcopy := hqueue uid ref hget hid
      change (s.entry ref).gpuRequested + _ ≤ _
      omega
    · rw [List.filter_cons_of_neg (by simpa using hadmits)]
      omega

/-- A waiter whose patch landed is one the turn admits. -/
lemma admitsWaiter_of_landed
    (h : Prog.Turns canAnswer (retryWaiter config rid now) queued s turns s') :
    ∀ t ∈ turns, (∃ c ∈ t.trace, patchLanded c) → admitsWaiter rid now t := by
  induction h with
  | nil s =>
    intro t ht
    cases ht
  | @cons x l s s₁ s' tr turns hturn hrest ih =>
    refine List.forall_mem_cons.mpr ⟨fun hlanded => ?_, ih⟩
    obtain ⟨uid, ref⟩ := x
    cases hwaits : s.waitsOn rid now (uid, ref) with
    | false =>
      unfold retryWaiter at hturn
      rw [Prog.exec_get_bind, if_neg (by rw [hwaits]; exact Bool.false_ne_true)] at hturn
      obtain ⟨rfl, -, -⟩ := hturn
      obtain ⟨c, hc, -⟩ := hlanded
      cases hc
    | true => exact ⟨hwaits, (retryWaiter_turn hwaits hturn).landed hlanded⟩

/-- The waiters of `r` have been tried: no pod is left which fits what is left and whose attempt went
well, and the pods admitted fit what was left before. -/
structure WaitersSettled (config : Config) (r : ReservationResponse) (now : Instant)
    (turns : List RetryTurn) (s : ControllerState) (tr : List (Sigma Answer)) (s' : ControllerState) :
    Prop where
  calls : tr = ⟨.now, now⟩ :: turns.flatMap Prog.Turn.trace
  ran : Prog.Turns canAnswer (retryWaiter config r.id now) s.taskQueue.entries s turns s'
  left : ∀ uid ref, s'.taskQueue.get? uid = some ref → (s'.entry ref).reservation.id = r.id →
    slotOpen (s'.entry ref).reservation now → uid ∉ s'.bucket r.id →
    s'.available (s'.entry ref).reservation none < (s'.entry ref).gpuRequested ∨
      ∃ t ∈ turns, t.item = (uid, ref) ∧ ∃ c ∈ t.trace, attemptCallFailed c
  landed : ∀ t ∈ turns, (∃ c ∈ t.trace, patchLanded c) → admitsWaiter r.id now t
  budget : QueuedFor r s →
    ((turns.filter (admitsWaiter r.id now)).map waiterGpus).sum ≤ s.available r none

theorem retryWaiters_settle {r : ReservationResponse} {tr : List (Sigma Answer)} {u : Unit}
    (h : (retryWaiters config (some r.id)).Exec canAnswer s tr u s') :
    ∃ now turns, WaitersSettled config r now turns s tr s' := by
  unfold retryWaiters at h
  dsimp only at h
  rw [Prog.exec_ask_bind] at h
  obtain ⟨now, tr', -, rfl, h⟩ := h
  rw [Prog.exec_get_bind] at h
  obtain ⟨turns, hturns, rfl⟩ := Prog.exec_forM h
  refine ⟨now, turns, rfl, hturns, fun uid ref hstill => ?_, admitsWaiter_of_landed hturns,
    turns_withinBudget hturns⟩
  have hqueued := (turns_leave hturns).queue uid ref hstill
  exact turns_leaveNone hturns (Dict.get?_eq_some_iff.mp hqueued) hstill

end Loop

/-- Two pods wait for the two GPUs of a booking: one which leaves a GPU over, and one which needs
both. -/
def twoQueued : ControllerState :=
  queuedOnce.queueEntry "v"
    { queuedOnce.entry 0 with podUid := "v", podName := "q", gpuRequested := 2 }

def oneWaiterWorld : World :=
  { pods := Dict.ofList [(("alice", "p"),
      { uid := "u", ns := "alice", name := "p", gpuClass := "h100", gpuCount := 1 })] }

theorem retryWaiters_settle_two :
    let r := (queuedOnce.entry 0).reservation
    let run := (retryWaiters {} (some r.id)).runWith (worldAnswer oneWaiterWorld rfl {}) twoQueued
    ∃ now turns, WaitersSettled {} r now turns twoQueued run.1 run.2.2 :=
  retryWaiters_settle
    (Prog.exec_runWith (worldAnswer_canAnswer oneWaiterWorld rfl {}) _ twoQueued)

end GpuReservation.Proofs
