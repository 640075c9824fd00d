import GpuReservation.Library.Amid
import GpuReservation.Model.System
import GpuReservation.Proofs.SweepVictims
import GpuReservation.Proofs.WorldHistory

/-!
# What the tick removes from the queue

The tick judges the entries of its copy of the queue one after another, awaits in between, and
removes by uid the pods it was done with at the end.
-/

namespace GpuReservation.Proofs

open GpuReservation.Library GpuReservation.Model

/-- The pod is given no entry on the queue which it did not have before. -/
def NotRequeued (uid : Uid) (s s' : ControllerState) : Prop :=
  ∀ ref, s'.taskQueue.get? uid = some ref → s.taskQueue.get? uid = some ref

lemma NotRequeued.refl (uid : Uid) (s : ControllerState) : NotRequeued uid s s := fun _ h => h

lemma NotRequeued.trans {uid : Uid} {s₁ s₂ s₃ : ControllerState} (h : NotRequeued uid s₁ s₂)
    (h' : NotRequeued uid s₂ s₃) : NotRequeued uid s₁ s₃ := fun ref hget => h ref (h' ref hget)

def SameQueue (s s' : ControllerState) : Prop := s'.taskQueue = s.taskQueue

/-- A part which leaves the queue as it is. -/
def LeavesQueue {α : Type} (p : Ctl α) : Prop := p.Within SameQueue Request.onePod fun _ => True

lemma tryApplyToleration_leavesQueue (uid : Uid) (ref : Ref) (gateName : Option String) :
    LeavesQueue (tryApplyToleration uid ref gateName) := by
  have hsame : ∀ s : ControllerState, SameQueue s s := fun _ => rfl
  have hrelease : ∀ s : ControllerState, SameQueue s (s.releasePod uid) := by
    intro s
    obtain ⟨_, h⟩ := releasePod_eq s uid
    rw [h]
    rfl
  have hnote : ∀ (s : ControllerState) e pod now, SameQueue s (s.noteAdmitted uid e pod now) := by
    intro s e pod now
    obtain ⟨_, _, _, _, h⟩ := noteAdmitted_eq s uid e pod now
    rw [h]
    rfl
  exact tryApplyToleration_within (fun s _ => hsame s) hrelease hsame hnote (fun s _ => hsame s)
    gateName

lemma TellsOnly.leavesQueue {α : Type} {p : Ctl α} (h : TellsOnly p) : LeavesQueue p :=
  h.mono (fun _ _ hk => by rw [hk.rest]; rfl) (fun _ => tells_onePod) fun _ _ => trivial

lemma tellQueuedStatus_tells (config : Config) (uid : Uid) (ref : Ref) (now : Instant) :
    TellsOnly (tellQueuedStatus config uid ref now) := by
  refine .seq get_tells fun s => ?_
  dsimp only
  split
  · exact .pure trivial
  · split
    · exact postPendingStatus_tells config uid _ _ _ _ now
    · exact .pure trivial

section Among

variable {ans : ∀ q, Answer q → Prop} {config : Config} {now : Instant} {uid : Uid} {ref : Ref}
  {s s' : ControllerState} {log : List (Await ControllerState Answer)}

/-- Where the others queue the pod for nothing, a part which leaves the queue does not either. -/
lemma LeavesQueue.notRequeued {α : Type} {p : Ctl α} {a : α} (hp : LeavesQueue p)
    (h : p.Amid yields ans s log a s') (u : Uid)
    (hothers : ∀ e ∈ log, NotRequeued u e.before e.after) : NotRequeued u s s' :=
  (Prog.amid_of_within (.refl u) (fun _ _ _ => .trans) (fun _ _ hk _ hr => hk ▸ hr) hp h hothers).1

/-- The entry the tick goes on with: the one it found, or the one it has just made. -/
def attemptedRef (now : Instant) (s : ControllerState) (queued : Uid × Ref) : Ref :=
  if (s.betterReservation queued.1 (s.entry queued.2) now).isSome then s.entries.next
  else queued.2

lemma betterReservation_ne {e : QueueEntry} {better : ReservationResponse}
    (h : s.betterReservation uid e now = some better) : better.id ≠ e.reservation.id := by
  unfold ControllerState.betterReservation at h
  split at h
  · cases h
  · simpa using (Option.filter_eq_some_iff.mp h).2

/-- A pod which waits on another reservation is given an entry of its own. -/
lemma enqueuePod_fresh (hget : s.taskQueue.get? uid = some ref) {better : ReservationResponse}
    (hne : better.id ≠ (s.entry ref).reservation.id) (name ns gpuClass : String) (gpus : Nat)
    (group : Option String) (at_ : Instant) :
    s.enqueuePod uid name ns gpuClass gpus group better at_ =
      { s with noshowDeadlines := s.noshowDeadlines.erase better.id }.queueEntry uid
        { podUid := uid, podName := name, podNamespace := ns, gpuClassLabel := gpuClass
          gpuRequested := gpus, reservation := better, nextAttemptAt := at_, groupLabel := group
          ondemandIneligibility := (s.entry ref).ondemandIneligibility } := by
  have hqueued : s.queuedFor uid better.id = false := by
    rw [ControllerState.queuedFor, hget]
    exact decide_eq_false hne.symm
  rw [ControllerState.enqueuePod]
  simp only [hqueued, Bool.false_eq_true, if_false, hget]
  rfl

/-- Where the pod waits on another reservation, an entry under `better` takes the place of its own. -/
def requeuedAt (now : Instant) (s : ControllerState) (uid : Uid) (ref : Ref)
    (better : ReservationResponse) : ControllerState :=
  { s with noshowDeadlines := s.noshowDeadlines.erase better.id }.queueEntry uid
    { s.entry ref with podUid := uid, reservation := better, nextAttemptAt := now }

/-- Going on with a better reservation takes no time in which others could run. -/
lemma requeueForBetter_amid {ref' : Ref} (hget : s.taskQueue.get? uid = some ref)
    (h : (requeueForBetter now uid ref).Amid yields ans s log ref' s') :
    (s.betterReservation uid (s.entry ref) now = none ∧ log = [] ∧ ref' = ref ∧ s' = s) ∨
      ∃ better at_, s.betterReservation uid (s.entry ref) now = some better ∧
        log = [⟨⟨.now, at_⟩, s, s⟩] ∧ ref' = s.entries.next ∧
        s' = requeuedAt now s uid ref better := by
  rw [requeueForBetter, Prog.amid_get_bind] at h
  dsimp only at h
  cases hbetter : s.betterReservation uid (s.entry ref) now with
  | none =>
    rw [hbetter] at h
    obtain ⟨rfl, rfl, rfl⟩ := h
    exact .inl ⟨rfl, rfl, rfl, rfl⟩
  | some better =>
    rw [hbetter] at h
    dsimp only at h
    obtain ⟨at_, c₁, log', -, hsync, rfl, hrest⟩ := (Prog.amid_ask_bind _).mp h
    obtain rfl := hsync rfl
    rw [Prog.amid_modify_bind, Prog.amid_get_bind, Prog.amid_modify_bind,
      enqueuePod_fresh hget (betterReservation_ne hbetter)] at hrest
    obtain ⟨rfl, rfl, rfl⟩ := hrest
    have hnext : ((c₁.taskQueue.set uid c₁.entries.next).get? uid).getD ref = c₁.entries.next := by
      rw [Dict.get?_set_self]
      rfl
    refine .inr ⟨better, at_, rfl, rfl, hnext, ?_⟩
    rw [ControllerState.modifyEntry, ControllerState.queueEntry, requeuedAt,
      ControllerState.queueEntry]
    dsimp only
    rw [hnext, Heap.modify_alloc_next]

/-- The queue is changed at most at the pod, whose entry is then the one the tick goes on with. -/
lemma requeueForBetter_queue {ref' : Ref} (hget : s.taskQueue.get? uid = some ref)
    (h : (requeueForBetter now uid ref).Amid yields ans s log ref' s') :
    ref' = attemptedRef now s (uid, ref) ∧ s'.taskQueue.get? uid = some ref' ∧
      ∀ u, u ≠ uid → s'.taskQueue.get? u = s.taskQueue.get? u := by
  unfold attemptedRef
  rcases requeueForBetter_amid hget h with ⟨hbetter, -, rfl, rfl⟩ | ⟨better, _, hbetter, -, rfl, rfl⟩
  · exact ⟨by simp only [hbetter]; rfl, hget, fun _ _ => rfl⟩
  · exact ⟨by simp only [hbetter]; rfl, Dict.get?_set_self _ _ _,
      fun u hu => Dict.get?_set_of_ne _ _ hu⟩

variable {toRemove toRemove' : List Uid}

lemma tickAttempt_leavesQueue (config : Config) (now : Instant) (toRemove : List Uid) (uid : Uid)
    (ref : Ref) : LeavesQueue (tickAttempt config now toRemove uid ref) := by
  have hget : LeavesQueue (Prog.get : Ctl ControllerState) := get_tells.leavesQueue
  have htell : LeavesQueue (tellQueuedStatus config uid ref now) :=
    (tellQueuedStatus_tells config uid ref now).leavesQueue
  refine .seq hget fun s => ?_
  dsimp only
  split
  · exact .pure trivial
  · split
    · exact .seq htell fun _ => .pure trivial
    · refine .seq (tryApplyToleration_leavesQueue uid ref _) fun done => ?_
      split
      · exact .pure trivial
      · refine .seq hget fun s => ?_
        split
        · exact .seq htell fun _ => .pure trivial
        · exact .pure trivial

/-- The entry is past its window, or an attempt was made on it which was done with it. -/
def DoneWith (ans : ∀ q, Answer q → Prop) (config : Config) (now : Instant) (uid : Uid) (ref : Ref)
    (s : ControllerState) (log : List (Await ControllerState Answer)) (s' : ControllerState) : Prop :=
  slotEnd (s.entry ref).reservation < now ∨
    (tryApplyToleration uid ref config.schedulingGateName).Amid yields ans s log true s'

/-- The pods to remove grow by a pod which is done with, and by no other. -/
lemma tickAttempt_amid
    (h : (tickAttempt config now toRemove uid ref).Amid yields ans s log toRemove' s') :
    toRemove' = toRemove ∨
      toRemove' = toRemove ++ [uid] ∧ DoneWith ans config now uid ref s log s' := by
  rw [tickAttempt, Prog.amid_get_bind] at h
  dsimp only at h
  split at h
  · rename_i hpast
    obtain ⟨-, rfl, -⟩ := h
    exact .inr ⟨rfl, .inl hpast⟩
  · split at h
    · rw [Prog.amid_bind] at h
      obtain ⟨_, _, _, _, -, -, -, rfl, -⟩ := h
      exact .inl rfl
    · rw [Prog.amid_bind] at h
      obtain ⟨log₁, log₂, done, s₁, rfl, htry, h⟩ := h
      cases done with
      | true =>
        obtain ⟨rfl, rfl, rfl⟩ := h
        rw [List.append_nil]
        exact .inr ⟨rfl, .inr htry⟩
      | false =>
        rw [if_neg Bool.false_ne_true, Prog.amid_get_bind] at h
        split at h
        · rw [Prog.amid_bind] at h
          obtain ⟨_, _, _, _, -, -, -, rfl, -⟩ := h
          exact .inl rfl
        · obtain ⟨-, rfl, -⟩ := h
          exact .inl rfl

/-- The round went on with an entry it found on the queue, or made, and was done with that. -/
structure JudgedDone (ans : ∀ q, Answer q → Prop) (config : Config) (now : Instant)
    (t : Round (Uid × Ref) (List Uid) ControllerState Answer) : Prop where
  queued : t.before.taskQueue.get? t.item.1 = some t.item.2
  done : ∃ log₁ log₂ s₁, t.log = log₁ ++ log₂ ∧
    (requeueForBetter now t.item.1 t.item.2).Amid yields ans t.before log₁
      (attemptedRef now t.before t.item) s₁ ∧
    DoneWith ans config now t.item.1 (attemptedRef now t.before t.item) s₁ log₂ t.after

/-- One round: the pod is added to those to remove only where the entry it had is done with, and
no pod's place on the queue changes but through the others, and the round's own better entry. -/
lemma tickEntry_amid {queued : Uid × Ref}
    (h : (tickEntry config now toRemove queued).Amid yields ans s log toRemove' s') :
    (toRemove' = toRemove ∨ toRemove' = toRemove ++ [queued.1] ∧
      JudgedDone ans config now ⟨queued, toRemove, s, log, toRemove', s'⟩ ∧
      ((∀ e ∈ log, NotRequeued queued.1 e.before e.after) →
        ∀ ref, s'.taskQueue.get? queued.1 = some ref → ref = attemptedRef now s queued)) ∧
    ∀ u, u ≠ queued.1 → (∀ e ∈ log, NotRequeued u e.before e.after) → NotRequeued u s s' := by
  rw [tickEntry, Prog.amid_get_bind] at h
  split at h
  · rename_i hget
    rw [Prog.amid_bind] at h
    obtain ⟨log₁, log₂, ref, s₁, rfl, hfirst, h⟩ := h
    obtain ⟨rfl, hown, hothers⟩ := requeueForBetter_queue hget hfirst
    have hlast : ∀ u, (∀ e ∈ log₁ ++ log₂, NotRequeued u e.before e.after) → NotRequeued u s₁ s' :=
      fun u hu => (tickAttempt_leavesQueue config now _ _ _).notRequeued h u
        fun e he => hu e (List.mem_append_right _ he)
    refine ⟨(tickAttempt_amid h).imp_right fun hdone => ⟨hdone.1, ⟨hget, _, _, _, rfl, hfirst,
      hdone.2⟩, fun hu r hr => ?_⟩, fun u hne hu => ?_⟩
    · exact Option.some.inj ((hlast _ hu r hr).symm.trans hown)
    · have hkept : NotRequeued u s s₁ := fun r hr => (hothers u hne).symm.trans hr
      exact hkept.trans (hlast u hu)
  · obtain ⟨-, rfl, rfl⟩ := h
    exact ⟨.inl rfl, fun u _ _ => .refl u s'⟩

/-- The rounds of the other pods queue the pod for nothing, where the others do not. -/
lemma rounds_notRequeued {l : List (Uid × Ref)}
    {rounds : List (Round (Uid × Ref) (List Uid) ControllerState Answer)}
    (h : Rounds yields ans (tickEntry config now) l toRemove s rounds toRemove' s')
    (hne : uid ∉ l.map Prod.fst)
    (hothers : ∀ e ∈ rounds.flatMap Round.log, NotRequeued uid e.before e.after) :
    NotRequeued uid s s' := by
  induction h with
  | nil d c => exact .refl uid c
  | cons h hrest ih =>
    rw [List.flatMap_cons] at hothers
    rw [List.map_cons, List.mem_cons, not_or] at hne
    have hfirst := (tickEntry_amid h).2 uid hne.1 fun e he => hothers e (List.mem_append_left _ he)
    exact hfirst.trans (ih hne.2 fun e he => hothers e (List.mem_append_right _ he))

/-- A pod to remove was judged in some round, and still has the entry judged where nobody has
queued it again from that round on. -/
lemma rounds_judged {l : List (Uid × Ref)}
    {rounds : List (Round (Uid × Ref) (List Uid) ControllerState Answer)}
    (h : Rounds yields ans (tickEntry config now) l toRemove s rounds toRemove' s')
    (hnodup : (l.map Prod.fst).Nodup) (huid : uid ∈ toRemove') (hnew : uid ∉ toRemove) :
    ∃ earlier t later, rounds = earlier ++ t :: later ∧ t.item.1 = uid ∧
      JudgedDone ans config now t ∧
      ((∀ e ∈ t.log ++ later.flatMap Round.log, NotRequeued uid e.before e.after) →
        ∀ ref, s'.taskQueue.get? uid = some ref → ref = attemptedRef now t.before t.item) := by
  induction h with
  | nil d c => exact absurd huid hnew
  | @cons x l d d₁ d' c c₁ c' log rounds h hrest ih =>
    rw [List.map_cons, List.nodup_cons] at hnodup
    by_cases hmem : uid ∈ d₁
    · rcases (tickEntry_amid h).1 with rfl | ⟨rfl, hjudged, hown⟩
      · exact absurd hmem hnew
      · obtain rfl : uid = x.1 := by
          rcases List.mem_append.mp hmem with hmem | hmem
          · exact absurd hmem hnew
          · exact List.mem_singleton.mp hmem
        refine ⟨[], _, rounds, rfl, rfl, hjudged, fun hothers ref href => ?_⟩
        have hlater := rounds_notRequeued hrest hnodup.1
          fun e he => hothers e (List.mem_append_right _ he)
        exact hown (fun e he => hothers e (List.mem_append_left _ he)) ref (hlater ref href)
    · obtain ⟨earlier, t, later, rfl, hjudged⟩ := ih hnodup.2 huid hmem
      exact ⟨_ :: earlier, t, later, rfl, hjudged⟩

lemma taskQueue_foldl_dequeuePod (l : List Uid) (s : ControllerState) (u : Uid) :
    (l.foldl ControllerState.dequeuePod s).taskQueue.get? u =
      if u ∈ l then none else s.taskQueue.get? u := by
  induction l generalizing s with
  | nil => rfl
  | cons v l ih =>
    rw [List.foldl_cons, ih, ControllerState.dequeuePod, Dict.get?_erase]
    by_cases hl : u ∈ l
    · rw [if_pos hl, if_pos (List.mem_cons_of_mem v hl)]
    · by_cases huv : u = v
      · rw [if_neg hl, if_pos huv, huv, if_pos List.mem_cons_self]
      · rw [if_neg hl, if_neg huv, if_neg (by simp [huv, hl])]

end Among

/-- One run of the reserved loop among others: its rounds, the pods it was done with, and the
state it removes them from. -/
structure ReservedLoop (ans : ∀ q, Answer q → Prop) (config : Config) (now : Instant)
    (s : ControllerState) (log : List (Await ControllerState Answer)) (s' : ControllerState) where
  rounds : List (Round (Uid × Ref) (List Uid) ControllerState Answer)
  toRemove : List Uid
  atEnd : ControllerState
  ran : Rounds yields ans (tickEntry config now) s.taskQueue.entries [] s rounds toRemove atEnd
  log_eq : log = rounds.flatMap Round.log
  left : s' = toRemove.foldl ControllerState.dequeuePod atEnd

namespace ReservedLoop

variable {ans : ∀ q, Answer q → Prop} {config : Config} {now : Instant} {s s' : ControllerState}
  {log : List (Await ControllerState Answer)} (L : ReservedLoop ans config now s log s')

/-- From the round which was done with a pod on, the others do not queue that pod again. -/
def NotRequeuedLater : Prop :=
  ∀ earlier t later, L.rounds = earlier ++ t :: later → JudgedDone ans config now t →
    ∀ e ∈ t.log ++ later.flatMap Round.log, NotRequeued t.item.1 e.before e.after

/-- Every entry the loop takes off the queue is the one a round of it was done with. -/
def RemovesJudged : Prop :=
  ∀ uid ref, L.atEnd.taskQueue.get? uid = some ref → s'.taskQueue.get? uid ≠ some ref →
    ∃ t ∈ L.rounds, JudgedDone ans config now t ∧ t.item.1 = uid ∧
      ref = attemptedRef now t.before t.item

lemma removesJudged (hlater : L.NotRequeuedLater) : L.RemovesJudged := by
  intro uid ref hbefore hafter
  have huid : uid ∈ L.toRemove := by
    by_contra hnot
    rw [L.left, taskQueue_foldl_dequeuePod, if_neg hnot] at hafter
    exact hafter hbefore
  obtain ⟨earlier, t, later, hrounds, rfl, hjudged, hown⟩ :=
    rounds_judged L.ran s.taskQueue.nodup huid List.not_mem_nil
  refine ⟨t, ?_, hjudged, rfl, hown (hlater earlier t later hrounds hjudged) ref hbefore⟩
  rw [hrounds]
  exact List.mem_append_right _ List.mem_cons_self

end ReservedLoop

lemma tickQueue_reservedLoop {ans : ∀ q, Answer q → Prop} {config : Config} {now : Instant}
    {s s' : ControllerState} {log : List (Await ControllerState Answer)}
    (h : (tickQueue config now).Amid yields ans s log () s') :
    Nonempty (ReservedLoop ans config now s log s') := by
  rw [tickQueue, Prog.amid_get_bind, Prog.amid_bind] at h
  obtain ⟨log₁, log₂, toRemove, atEnd, rfl, hloop, hend⟩ := h
  obtain ⟨rounds, hrounds, rfl⟩ := Prog.amid_foldlM hloop
  rw [Prog.amid_modify] at hend
  obtain ⟨rfl, rfl⟩ := hend
  exact ⟨⟨rounds, toRemove, atEnd, hrounds, List.append_nil _, rfl⟩⟩

/-- What the tick does before it comes to the queue; it goes on with the instant it began at. -/
def tickUpToQueue (config : Config) : Ctl Instant := do
  let now ← call .now
  let snapshot ← snapshotToleratedPods
  withSnapshot snapshot fun pods => Prog.modify fun s => s.observeHolders pods now
  Prog.modify fun s => s.checkNoshowDeadlines now
  withSnapshot snapshot (tickSnapshot config now)
  drainPendingMergeCancels
  withSnapshot snapshot (tickNodes config now)
  return now

/-- What the tick does after the queue. -/
def tickAfterQueue (config : Config) (passes : Nat) (now : Instant) : Ctl Unit := do
  runOndemandAdmission config passes
  Prog.modify fun s => s.prunePendingStatus
    (now - max pendingStatusRetention (3 * minutes config.ondemandDenialEventRepeatMinutes))

lemma runQueueTick_eq (config : Config) (passes : Nat) :
    runQueueTick config passes = (do
      let now ← tickUpToQueue config
      tickQueue config now
      tickAfterQueue config passes now) := by
  simp only [runQueueTick, tickUpToQueue, tickAfterQueue, bind_assoc, pure_bind]

/-- The reserved loop of the tick, the one which goes through the queue, removes no entry but those it was
done with, where from then on nobody queues their pods again.  What the admission pass after it takes off the
queue, a pod which it had rerouted there and which was admitted at once, is not of the loop. -/
theorem runQueueTick_removesJudged (ans : ∀ q, Answer q → Prop) (config : Config) (passes : Nat)
    (s s' : ControllerState) (log : List (Await ControllerState Answer))
    (h : (runQueueTick config passes).Amid yields ans s log () s') :
    ∃ now before after log₁ log₂ log₃, log = log₁ ++ log₂ ++ log₃ ∧
      (tickUpToQueue config).Amid yields ans s log₁ now before ∧
      (tickQueue config now).Amid yields ans before log₂ () after ∧
      (tickAfterQueue config passes now).Amid yields ans after log₃ () s' ∧
      Nonempty (ReservedLoop ans config now before log₂ after) ∧
      ∀ L : ReservedLoop ans config now before log₂ after, L.NotRequeuedLater → L.RemovesJudged := by
  rw [runQueueTick_eq, Prog.amid_bind] at h
  obtain ⟨log₁, _, now, before, rfl, hfirst, h⟩ := h
  rw [Prog.amid_bind] at h
  obtain ⟨log₂, log₃, _, after, rfl, hqueue, hlast⟩ := h
  exact ⟨now, before, after, log₁, log₂, log₃, (List.append_assoc _ _ _).symm, hfirst, hqueue,
    hlast, tickQueue_reservedLoop hqueue, fun L hlater => L.removesJudged hlater⟩

/-- A job which ends in a run of the controller, a tick or another, is executed among the others. -/
theorem systemRun_completes {R : ControllerState → ControllerState → Prop} (hrefl : ∀ s, R s s)
    (htrans : ∀ s₁ s₂ s₃, R s₁ s₂ → R s₂ s₃ → R s₁ s₃) {config : Config} {p : System} {i : Nat}
    {l : Job} {t : Task ControllerState Request Answer} {ms : List SystemMove}
    (hi : p.tasks[i]? = some (l, t))
    (hothers : OthersKeep runtime (Job.program config) outside i R p ms)
    (hend : (systemRun config p ms).tasks[i]? = some (l, .finished)) :
    t.Completes runtime i R p.snap.shared (systemRun config p ms).snap.shared :=
  amid_of_moves hrefl htrans (fun _ c w hq => answer_of_sync i hq c w) hi hothers hend

/-- What the world answers is an execution, whatever the others do. -/
lemma amid_worldAnswer {α : Type} (w : World) (hw : w.lockOwner = none) (ch : Choice)
    (others : Request → ControllerState → ControllerState) (p : Ctl α) (s : ControllerState) :
    p.Amid yields canAnswer s (p.runAmid yields (worldAnswer w hw ch) others s).1
      (p.runAmid yields (worldAnswer w hw ch) others s).2.1
      (p.runAmid yields (worldAnswer w hw ch) others s).2.2 :=
  Prog.amid_runAmid (worldAnswer_canAnswer w hw ch) others p s

section RequeuedMeanwhile

def ownedBooking (id : Nat) (owner : String) (start stop : Instant) : ReservationResponse where
  id := id
  user := some { id := id, username := owner }
  gpuClassId := 1
  gpuClass := { id := 1, name := "class" }
  startUtc := start
  endUtc := stop
  gpuCount := 1

def queuedUnder (uid ns : String) (r : ReservationResponse) : QueueEntry where
  podUid := uid
  podName := uid
  podNamespace := ns
  gpuClassLabel := "c"
  gpuRequested := 1
  reservation := r
  nextAttemptAt := 0

/-- The booking of one pod has ended, and the next one of its owner starts in ten minutes; another
pod is due under an open booking. -/
def lapsedAndDue : ControllerState where
  reservations := [ownedBooking 2 "u" (minutes 10) (minutes 60), ownedBooking 3 "v" 0 (minutes 60)]
  gpuClassLabels := Dict.ofList [(1, "c")]
  entries := ⟨[queuedUnder "U" "u" (ownedBooking 1 "u" 0 50),
    queuedUnder "V" "v" (ownedBooking 3 "v" 0 (minutes 60))]⟩
  taskQueue := Dict.ofList [("U", 0), ("V", 1)]

def lapsedPod : Pod where
  uid := "U"
  ns := "u"
  name := "U"
  gpuClass := "c"
  gpuCount := 1

lemma emptyLater_unlocked : ({ clock := 100 } : World).lockOwner = none := rfl

/-- Every call which can fail does, at a clock which stands still. -/
def refusedAt : ∀ q, Answer q := worldAnswer { clock := 100 } emptyLater_unlocked { outcome := .refused }

lemma amid_refusedAt {α : Type} (others : Request → ControllerState → ControllerState) (p : Ctl α)
    (s : ControllerState) :
    p.Amid yields canAnswer s (p.runAmid yields refusedAt others s).1
      (p.runAmid yields refusedAt others s).2.1 (p.runAmid yields refusedAt others s).2.2 :=
  amid_worldAnswer _ rfl _ others p s

/-- The others let the watch handle an event of the pod whose booking has ended, while the attempt
on the other pod awaits its read. -/
def watchMeanwhile : Request → ControllerState → ControllerState
  | .readPod _ _, s => ((watchEvent {} 1 .modified lapsedPod).runWith refusedAt s).2.2
  | _, s => s

/-- The rounds of the tick's loop: the first pod is past its window, the second is tried. -/
def lapsedRound : Round (Uid × Ref) (List Uid) ControllerState Answer :=
  ⟨("U", 0), [], lapsedAndDue, [], ["U"], lapsedAndDue⟩

def dueRound : Round (Uid × Ref) (List Uid) ControllerState Answer :=
  let ran := (tickEntry {} 100 ["U"] ("V", 1)).runAmid yields refusedAt watchMeanwhile lapsedAndDue
  ⟨("V", 1), ["U"], lapsedAndDue, ran.1, ran.2.1, ran.2.2⟩

lemma lapsedAndDue_ran : Rounds yields canAnswer (tickEntry {} 100) lapsedAndDue.taskQueue.entries []
    lapsedAndDue [lapsedRound, dueRound] ["U"] dueRound.after := by
  have hacc : dueRound.acc' = ["U"] := by decide +kernel
  have hfirst : (tickEntry {} 100 [] ("U", 0)).Amid yields canAnswer lapsedAndDue [] ["U"]
      lapsedAndDue := amid_refusedAt watchMeanwhile (tickEntry {} 100 [] ("U", 0)) lapsedAndDue
  have hsecond := amid_refusedAt watchMeanwhile (tickEntry {} 100 ["U"] ("V", 1)) lapsedAndDue
  rw [← hacc]
  exact .cons hfirst (.cons hsecond (.nil _ _))

def requeuedLoop : ReservedLoop canAnswer {} 100 lapsedAndDue (lapsedRound.log ++ dueRound.log)
    (["U"].foldl ControllerState.dequeuePod dueRound.after) where
  rounds := [lapsedRound, dueRound]
  toRemove := ["U"]
  atEnd := dueRound.after
  ran := lapsedAndDue_ran
  log_eq := by simp
  left := rfl

/-- The watch queues the pod for its next booking while the tick awaits a read for another pod, and
the tick removes that entry, which it never judged. -/
theorem reservedLoop_removesUnjudged :
    ¬ ∀ (config : Config) (now : Instant) (s s' : ControllerState)
      (log : List (Await ControllerState Answer)) (L : ReservedLoop canAnswer config now s log s'),
      L.RemovesJudged := by
  intro h
  have hgone : (["U"].foldl ControllerState.dequeuePod dueRound.after).taskQueue.get? "U" ≠
      some 2 := by
    rw [taskQueue_foldl_dequeuePod, if_pos List.mem_cons_self]
    decide
  obtain ⟨t, ht, -, huid, href⟩ := h {} 100 _ _ _ requeuedLoop "U" 2 (by decide +kernel) hgone
  rcases List.mem_cons.mp ht with rfl | ht
  · exact absurd href (by decide +kernel)
  · obtain rfl := List.mem_singleton.mp ht
    exact absurd huid (by decide)

/-- The same among the tasks of the controller. -/
def tickAndWatch : System where
  snap := { shared := lapsedAndDue, world := { clock := 100 } }
  tasks := [(.queueTick 1, .ready (runQueueTick {} 1)),
    (.watch .modified lapsedPod 1, .ready (watchEvent {} 1 .modified lapsedPod))]

/-- The tick has gone on to the read for the second pod, and the watch has handled its event. -/
def requeuedMeanwhile : System :=
  systemRun {} tickAndWatch [.run 0 [], .serve 0 { outcome := .refused }, .run 0 [], .run 1 []]

example : requeuedMeanwhile.snap.shared.taskQueue.get? "U" = some 2 ∧
    (systemRun {} requeuedMeanwhile
      [.serve 0 { outcome := .refused }, .run 0 []]).snap.shared.taskQueue.get? "U" = none := by
  decide +kernel

theorem runQueueTick_removesJudged_refused :
    ∃ log s', (runQueueTick {} 1).Amid yields canAnswer lapsedAndDue log () s' ∧
      ∃ now before after log₁ log₂ log₃, log = log₁ ++ log₂ ++ log₃ ∧
        (tickUpToQueue {}).Amid yields canAnswer lapsedAndDue log₁ now before ∧
        (tickQueue {} now).Amid yields canAnswer before log₂ () after ∧
        (tickAfterQueue {} 1 now).Amid yields canAnswer after log₃ () s' ∧
        Nonempty (ReservedLoop canAnswer {} now before log₂ after) ∧
        ∀ L : ReservedLoop canAnswer {} now before log₂ after,
          L.NotRequeuedLater → L.RemovesJudged := by
  have h := amid_refusedAt (fun _ s => s) (runQueueTick {} 1) lapsedAndDue
  exact ⟨_, _, h, runQueueTick_removesJudged canAnswer {} 1 _ _ _ h⟩

end RequeuedMeanwhile

end GpuReservation.Proofs
