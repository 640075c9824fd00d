import GpuReservation.Library.Machine
import GpuReservation.Model.OwnedLock
import GpuReservation.Model.World

/-!
# The owner of the reservation lock

Whatever tasks come to the lock, wait, are cancelled and leave, the owner field names the one task that is in
the block, and nobody when there is none.
-/

namespace GpuReservation.Proofs

open GpuReservation.Library GpuReservation.Model

variable {τ : Type} [DecidableEq τ]

/-- Whether a task waits, and if it does, whether it was cancelled. -/
def waits : LockStage → Option Bool
  | .waiting cancelled => some cancelled
  | _ => none

/-- The queue holds the tasks that wait, and the owner is the task inside. -/
structure OwnerKept (s : LockTasks τ) : Prop where
  queued : s.lock.lock.WellQueued
  asked : ∀ t, s.lock.lock.asked t = waits (s.stage t)
  owner : ∀ t, s.lock.owner = some t ↔ s.stage t = .inside
  locked : s.lock.lock.locked = s.lock.owner.isSome

namespace OwnerKept

variable {s : LockTasks τ} {t : τ}

lemma start : OwnerKept ({} : LockTasks τ) := by
  refine ⟨⟨?_, ?_, ?_, ?_, ?_⟩, ?_, ?_, ?_⟩ <;> simp [FairLock.asked, FairLock.waiter, waits]

lemma waits_update (stage : τ → LockStage) (t u : τ) (x : LockStage) :
    waits (Function.update stage t x u) = if u = t then waits x else waits (stage u) := by
  rw [Function.update_apply]
  split <;> rfl

lemma enter (h : OwnerKept s) (hp : s.Possible (.enter t)) : OwnerKept (s.step (.enter t)) := by
  have hasked : s.lock.lock.asked t = none := by
    rw [h.asked]
    cases hp with
    | inl hout => rw [hout]; rfl
    | inr hin => rw [hin]; rfl
  have hqueue := FairLock.asked_eq_none.mp hasked
  unfold LockTasks.step LockTasks.arrive OwnedLock.aenter
  dsimp only
  by_cases howner : s.lock.owner = some t
  · rw [if_pos howner]
    exact h
  rw [if_neg howner]
  have hout : s.stage t = .outside := hp.resolve_right fun hin => howner ((h.owner t).mpr hin)
  by_cases hnow : (s.lock.lock.acquire t).1 = true
  · rw [if_pos hnow]
    obtain ⟨hfree, hacquire⟩ := FairLock.acquire_fst hnow
    have hnone : s.lock.owner = none := by
      have hlocked := h.locked
      rw [hfree] at hlocked
      simpa using hlocked.symm
    refine ⟨h.queued.acquire hqueue, fun u => ?_, fun u => ?_, ?_⟩
    · dsimp only
      rw [hacquire, waits_update]
      split
      · rename_i hu
        rw [hu]
        exact hasked
      · exact h.asked u
    · by_cases hu : u = t
      · simp [hu]
      · have hother := h.owner u
        rw [hnone] at hother
        simpa [hu, Ne.symm hu] using hother
    · rw [hacquire]
      rfl
  · rw [if_neg hnow]
    rw [Bool.not_eq_true] at hnow
    refine ⟨h.queued.acquire hqueue, fun u => ?_, fun u => ?_, ?_⟩
    · dsimp only
      rw [FairLock.acquire_asked hnow hasked, waits_update]
      split
      · rfl
      · exact h.asked u
    · by_cases hu : u = t
      · simp [hu, howner]
      · simpa [hu] using h.owner u
    · rw [FairLock.acquire_waits hnow]
      exact h.locked

lemma cancel (h : OwnerKept s) : OwnerKept (s.step (.cancel t)) := by
  cases hstage : s.stage t with
  | outside =>
    simp only [LockTasks.step, hstage]
    exact h
  | inside =>
    simp only [LockTasks.step, hstage]
    exact h
  | waiting c =>
    simp only [LockTasks.step, hstage]
    refine ⟨h.queued.cancel t, fun u => ?_, fun u => ?_, h.locked⟩
    · dsimp only
      rw [FairLock.cancel_asked, h.asked, waits_update]
      split
      · rename_i hu
        rw [hu, hstage]
        rfl
      · rfl
    · by_cases hu : u = t
      · have hother := h.owner t
        rw [hstage] at hother
        simpa [hu] using hother
      · simpa [hu] using h.owner u

/-- A task that goes on either takes the lock, which is free, or leaves the queue and nothing else. -/
lemma resume_cases (h : OwnerKept s) {w : LockWaiter τ} (hw : s.lock.lock.waiter t = some w)
    (hdone : w.future ≠ .pending) :
    s.stage t = .waiting w.isCancelled ∧
      ((w.isCancelled = false ∧ s.lock.owner = none ∧
          s.step (.resume t) = { lock := { lock := (s.lock.lock.resume w).2, owner := some t }
                                 stage := Function.update s.stage t .inside } ∧
          (s.lock.lock.resume w).2.locked = true) ∨
        (w.isCancelled = true ∧
          s.step (.resume t) = { lock := { s.lock with lock := (s.lock.lock.resume w).2 }
                                 stage := Function.update s.stage t .outside } ∧
          (s.lock.lock.resume w).2.locked = s.lock.lock.locked)) := by
  obtain ⟨hmem, rfl⟩ := FairLock.mem_of_waiter hw
  have hstage : s.stage w.task = .waiting w.isCancelled := by
    have hasked := h.asked w.task
    rw [FairLock.asked, hw, Option.map_some] at hasked
    cases hs : s.stage w.task with
    | waiting c =>
      rw [hs] at hasked
      rw [Option.some.inj hasked]
    | outside =>
      rw [hs] at hasked
      exact absurd hasked (Option.some_ne_none _)
    | inside =>
      rw [hs] at hasked
      exact absurd hasked (Option.some_ne_none _)
  refine ⟨hstage, ?_⟩
  by_cases hcancel : w.isCancelled = true
  · refine .inr ⟨hcancel, ?_, ?_⟩
    · unfold LockTasks.step LockTasks.arrive OwnedLock.resumeEnter
      simp [hw, FairLock.resume, hcancel]
    · unfold FairLock.resume
      simp only [hcancel, if_true]
      split
      · rfl
      · rw [FairLock.wakeUpFirst_locked]
        rfl
  · rw [Bool.not_eq_true] at hcancel
    obtain ⟨-, hfree⟩ := h.queued.free_of_woken hmem hdone hcancel
    refine .inl ⟨hcancel, ?_, ?_, ?_⟩
    · have hlocked := h.locked
      rw [hfree] at hlocked
      simpa using hlocked.symm
    · unfold LockTasks.step LockTasks.arrive OwnedLock.resumeEnter
      simp [hw, FairLock.resume, hcancel]
    · simp [FairLock.resume, hcancel]

lemma resume (h : OwnerKept s) (hp : s.Possible (.resume t)) : OwnerKept (s.step (.resume t)) := by
  obtain ⟨w, hw, hdone⟩ := hp
  have hqueued := h.queued.resume (FairLock.mem_of_waiter hw).1 hdone
  obtain ⟨hstage, ⟨-, hnone, hstep, hlocked⟩ | ⟨-, hstep, hlocked⟩⟩ := h.resume_cases hw hdone
  all_goals
    rw [hstep]
    have hasked : ∀ u, (s.lock.lock.resume w).2.asked u =
        if u = t then none else waits (s.stage u) := by
      intro u
      rw [FairLock.resume_asked, (FairLock.mem_of_waiter hw).2, h.asked]
  · refine ⟨hqueued, fun u => ?_, fun u => ?_, hlocked⟩
    · rw [hasked, waits_update]
      rfl
    · by_cases hu : u = t
      · simp [hu]
      · have hother := h.owner u
        rw [hnone] at hother
        simpa [hu, Ne.symm hu] using hother
  · refine ⟨hqueued, fun u => ?_, fun u => ?_, hlocked.trans h.locked⟩
    · rw [hasked, waits_update]
      rfl
    · by_cases hu : u = t
      · have hother := h.owner t
        rw [hstage] at hother
        simpa [hu] using hother
      · simpa [hu] using h.owner u

lemma exit (h : OwnerKept s) (hp : s.Possible (.exit t)) : OwnerKept (s.step (.exit t)) := by
  have howner : s.lock.owner = some t := (h.owner t).mpr hp
  have hlocked : s.lock.lock.locked = true := by rw [h.locked, howner]; rfl
  refine ⟨h.queued.release, fun u => ?_, fun u => ?_, ?_⟩
  · unfold LockTasks.step OwnedLock.aexit
    dsimp only
    rw [FairLock.release_asked, h.asked, waits_update]
    split
    · rename_i hu
      rw [hu, hp]
      rfl
    · rfl
  · unfold LockTasks.step OwnedLock.aexit
    by_cases hu : u = t
    · simp [hu]
    · have hother := h.owner u
      rw [howner] at hother
      simpa [hu, Ne.symm hu] using hother
  · unfold LockTasks.step OwnedLock.aexit FairLock.release
    rw [if_pos hlocked]
    dsimp only
    rw [FairLock.wakeUpFirst_locked]
    rfl

lemma step (h : OwnerKept s) (m : LockMove τ) (hp : s.Possible m) : OwnerKept (s.step m) := by
  cases m with
  | enter t => exact h.enter hp
  | cancel t => exact h.cancel
  | resume t => exact h.resume hp
  | exit t => exact h.exit hp

end OwnerKept

/-- What a cancelled waiter leaves when it goes on: it is out, and the lock is as it was, with the wakeup
handed on. -/
structure LeavesNothing (s s' : LockTasks τ) (t : τ) : Prop where
  out : s'.stage t = .outside
  notOwner : s'.lock.owner ≠ some t
  owner : s'.lock.owner = s.lock.owner
  locked : s'.lock.lock.locked = s.lock.lock.locked
  unqueued : ∀ w ∈ s'.lock.lock.waiters, w.task ≠ t
  handedOn : s'.lock.lock.locked = false → ∀ w ∈ s'.lock.lock.waiters.head?, w.future ≠ .pending

/-- The lock and its owner field agree with where the tasks are. -/
structure LockExact (s : LockTasks τ) : Prop where
  alone : ∀ t u, s.stage t = .inside → s.stage u = .inside → t = u
  locked : s.lock.lock.locked = true ↔ ∃ t, s.stage t = .inside
  held : ∀ current, s.lock.heldByCurrentTask current = true ↔
    ∃ t, current = some t ∧ s.stage t = .inside
  required : ∀ who current, s.lock.requireReservationLock who current = .ok () ↔
    ∃ t, current = some t ∧ s.stage t = .inside
  reentry : ∀ t, s.stage t = .inside →
    s.lock.aenter t = (.lockContractError reentryText, s.lock) ∧ s.step (.enter t) = s
  released : ∀ t, s.stage t = .inside → s.lock.aexit.1 = true
  cancelled : ∀ t, s.stage t = .waiting true →
    s.Possible (.resume t) ∧ LeavesNothing s (s.step (.resume t)) t

lemma OwnerKept.exact {s : LockTasks τ} (h : OwnerKept s) : LockExact s := by
  have hheld : ∀ current, s.lock.heldByCurrentTask current = true ↔
      ∃ t, current = some t ∧ s.stage t = .inside := by
    intro current
    unfold OwnedLock.heldByCurrentTask
    cases current with
    | none => simp
    | some t =>
      have howner := h.owner t
      rw [eq_comm] at howner
      simp [howner]
  refine ⟨fun t u ht hu => ?_, ?_, hheld, fun who current => ?_, fun t ht => ?_, fun t ht => ?_,
    fun t ht => ?_⟩
  · have ht := (h.owner t).mpr ht
    have hu := (h.owner u).mpr hu
    exact Option.some.inj (ht.symm.trans hu)
  · rw [h.locked, Option.isSome_iff_exists]
    exact exists_congr h.owner
  · rw [← hheld]
    unfold OwnedLock.requireReservationLock
    cases s.lock.heldByCurrentTask current <;> simp
  · have hraise : s.lock.aenter t = (.lockContractError reentryText, s.lock) := by
      unfold OwnedLock.aenter
      rw [if_pos ((h.owner t).mpr ht)]
    refine ⟨hraise, ?_⟩
    change s.arrive t (s.lock.aenter t) = s
    rw [hraise]
    rfl
  · have hlocked : s.lock.lock.locked = true := by
      rw [h.locked, (h.owner t).mpr ht]
      rfl
    unfold OwnedLock.aexit FairLock.release
    rw [if_pos hlocked]
  · have hasked := h.asked t
    rw [ht, FairLock.asked, waits, Option.map_eq_some_iff] at hasked
    obtain ⟨w, hw, hcancel⟩ := hasked
    have hdone := h.queued.done w (FairLock.mem_of_waiter hw).1 hcancel
    have hp : s.Possible (.resume t) := ⟨w, hw, hdone⟩
    have hkept := h.resume hp
    refine ⟨hp, ?_⟩
    obtain ⟨-, ⟨hnot, -⟩ | ⟨-, hstep, hlocked⟩⟩ := h.resume_cases hw hdone
    · rw [hcancel] at hnot
      exact Bool.noConfusion hnot
    · have hout : (s.step (.resume t)).stage t = .outside := by simp [hstep]
      refine ⟨hout, fun howner => ?_, by rw [hstep], by rw [hstep, hlocked], ?_, hkept.queued.handedOn⟩
      · rw [hkept.owner, hout] at howner
        exact LockStage.noConfusion howner
      · rw [← FairLock.asked_eq_none, hkept.asked, hout]
        rfl

/-- The lock of the world goes along: a move takes it, releases it, or leaves its owner alone. -/
lemma answer_of_move {s : LockTasks Nat} (h : OwnerKept s) {m : LockMove Nat} (hp : s.Possible m)
    {w : World} (hw : w.lockOwner = s.lock.owner) (ch : Choice) :
    (s.step m).lock.owner = s.lock.owner ∨ ∃ task,
      answer task .acquireReservationLock ch w =
          some ((), { w with lockOwner := (s.step m).lock.owner }) ∨
        answer task .releaseReservationLock ch w =
          some ((), { w with lockOwner := (s.step m).lock.owner }) := by
  have htake : ∀ t, s.lock.owner = none → (s.step m).lock.owner = some t →
      answer t .acquireReservationLock ch w =
        some ((), { w with lockOwner := (s.step m).lock.owner }) := by
    intro t hfree howner
    change (if w.lockOwner = none then some ((), { w with lockOwner := some t }) else none) = _
    rw [if_pos (hw.trans hfree), howner]
  cases m with
  | enter t =>
    by_cases hraise : s.lock.owner = some t
    · left
      have hstep := (h.exact.reentry t ((h.owner t).mp hraise)).2
      rw [hstep]
    by_cases hnow : (s.lock.lock.acquire t).1 = true
    · refine .inr ⟨t, .inl (htake t ?_ ?_)⟩
      · have hlocked := h.locked
        rw [(FairLock.acquire_fst hnow).1] at hlocked
        simpa using hlocked.symm
      · simp [LockTasks.step, LockTasks.arrive, OwnedLock.aenter, hraise, hnow]
    · left
      simp [LockTasks.step, LockTasks.arrive, OwnedLock.aenter, hraise, hnow]
  | cancel t =>
    left
    cases hstage : s.stage t <;> simp [LockTasks.step, hstage]
  | resume t =>
    obtain ⟨v, hv, hdone⟩ := hp
    obtain ⟨-, ⟨-, hfree, hstep, -⟩ | ⟨-, hstep, -⟩⟩ := h.resume_cases hv hdone
    · exact .inr ⟨t, .inl (htake t hfree (by rw [hstep]))⟩
    · left
      rw [hstep]
  | exit t =>
    refine .inr ⟨t, .inr ?_⟩
    change some ((), if w.lockOwner = some t then { w with lockOwner := none } else w) = _
    rw [if_pos (hw.trans ((h.owner t).mpr hp))]
    rfl

/-- The lock is exact in every state of every run. -/
theorem ownedLock_exact (moves : List (LockMove τ))
    (hmoves : respects LockTasks.step LockTasks.Possible {} moves) :
    throughout LockTasks.step (LockExact (τ := τ)) {} moves :=
  throughout_mono (fun _ => OwnerKept.exact)
    (throughout_of_respects (fun _ m h hp => OwnerKept.step h m hp) OwnerKept.start hmoves)

/-- A task waits, is cancelled while the lock is released, and the next one is woken in its place. -/
theorem ownedLock_exact_handedOn : throughout LockTasks.step (LockExact (τ := Nat)) {}
    [.enter 1, .enter 1, .enter 2, .enter 3, .cancel 2, .exit 1, .resume 2, .resume 3] :=
  ownedLock_exact _ (by decide)

end GpuReservation.Proofs
