import Mathlib.Data.List.Nodup

/-!
# A fair lock

The lock of an event loop, as `asyncio.Lock` is made: who finds it taken waits on a future, in a queue.  A
release wakes the first of the queue, and a waiter which is cancelled hands the wakeup on.
-/

namespace GpuReservation.Library

inductive FutureState
  | pending
  | result
  | cancelled
  deriving DecidableEq, Repr

/-- A future in the queue, with the task which awaits it, and whether the task is to be cancelled as soon as
it goes on. -/
structure LockWaiter (τ : Type*) where
  task : τ
  future : FutureState := .pending
  mustCancel : Bool := false

namespace LockWaiter

variable {τ : Type*}

/-- Whether the task will go on with a cancellation. -/
def isCancelled (w : LockWaiter τ) : Bool := w.future = .cancelled || w.mustCancel

/-- `Task.cancel`: the future is cancelled if it still can be, else the task when it goes on. -/
def cancel (w : LockWaiter τ) : LockWaiter τ :=
  if w.future = .pending then { w with future := .cancelled } else { w with mustCancel := true }

@[simp] lemma cancel_task (w : LockWaiter τ) : w.cancel.task = w.task := by
  unfold cancel
  split <;> rfl

@[simp] lemma cancel_isCancelled (w : LockWaiter τ) : w.cancel.isCancelled = true := by
  unfold cancel
  split <;> simp [isCancelled]

lemma cancel_future_result (w : LockWaiter τ) : w.cancel.future = .result ↔ w.future = .result := by
  unfold cancel
  split <;> simp_all

lemma cancel_future_pending (w : LockWaiter τ) : w.cancel.future ≠ .pending := by
  unfold cancel
  split <;> simp_all

end LockWaiter

structure FairLock (τ : Type*) where
  locked : Bool := false
  waiters : List (LockWaiter τ) := []

namespace FairLock

variable {τ : Type*}

/-- The first of the queue is woken, unless it is to go on already. -/
def wakeUpFirst (l : FairLock τ) : FairLock τ :=
  match l.waiters with
  | [] => l
  | w :: ws =>
    if w.future = .pending then { l with waiters := { w with future := .result } :: ws } else l

/-- Whether the lock is taken at once; else the task is in the queue. -/
def acquire (l : FairLock τ) (t : τ) : Bool × FairLock τ :=
  if !l.locked && l.waiters.all fun w => w.future = .cancelled then (true, { l with locked := true })
  else (false, { l with waiters := l.waiters ++ [{ task := t }] })

/-- Whether there was anything to release. -/
def release (l : FairLock τ) : Bool × FairLock τ :=
  if l.locked then (true, wakeUpFirst { l with locked := false }) else (false, l)

variable [DecidableEq τ]

def waiter (l : FairLock τ) (t : τ) : Option (LockWaiter τ) := l.waiters.find? fun w => w.task = t

def remove (l : FairLock τ) (t : τ) : FairLock τ :=
  { l with waiters := l.waiters.filter fun w => w.task ≠ t }

/-- A task in the queue is cancelled. -/
def cancel (l : FairLock τ) (t : τ) : FairLock τ :=
  { l with waiters := l.waiters.map fun w => if w.task = t then w.cancel else w }

/-- A task whose future is done goes on: whether it has the lock now, or was cancelled. -/
def resume (l : FairLock τ) (w : LockWaiter τ) : Bool × FairLock τ :=
  let rest := l.remove w.task
  if w.isCancelled then (false, if rest.locked then rest else rest.wakeUpFirst)
  else (true, { rest with locked := true })

/-- Whether a task is in the queue, and if it is, whether it was cancelled. -/
def asked (l : FairLock τ) (t : τ) : Option Bool := (l.waiter t).map LockWaiter.isCancelled

/-- At most one is woken, the first; nobody while the lock is taken, and if it is free the first is to
go on.  So is who was cancelled. -/
structure WellQueued (l : FairLock τ) : Prop where
  nodup : (l.waiters.map LockWaiter.task).Nodup
  tail : ∀ w ∈ l.waiters.tail, w.future ≠ .result
  taken : l.locked = true → ∀ w ∈ l.waiters, w.future ≠ .result
  handedOn : l.locked = false → ∀ w ∈ l.waiters.head?, w.future ≠ .pending
  done : ∀ w ∈ l.waiters, w.isCancelled = true → w.future ≠ .pending

section WakeUpFirst

omit [DecidableEq τ] in
@[simp] lemma wakeUpFirst_locked (l : FairLock τ) : l.wakeUpFirst.locked = l.locked := by
  unfold wakeUpFirst
  split
  · rfl
  · split <;> rfl

@[simp] lemma wakeUpFirst_asked (l : FairLock τ) (t : τ) : l.wakeUpFirst.asked t = l.asked t := by
  obtain ⟨locked, waiters⟩ := l
  cases waiters with
  | nil => rfl
  | cons w ws =>
    by_cases hw : w.future = .pending
    · by_cases ht : w.task = t
      · simp [wakeUpFirst, asked, waiter, LockWaiter.isCancelled, hw, ht]
      · simp [wakeUpFirst, asked, waiter, hw, ht]
    · simp [wakeUpFirst, hw]

omit [DecidableEq τ] in
lemma wellQueued_wakeUpFirst {l : FairLock τ} (hnodup : (l.waiters.map LockWaiter.task).Nodup)
    (htail : ∀ w ∈ l.waiters.tail, w.future ≠ .result)
    (hdone : ∀ w ∈ l.waiters, w.isCancelled = true → w.future ≠ .pending)
    (hlocked : l.locked = false) : l.wakeUpFirst.WellQueued := by
  obtain ⟨locked, waiters⟩ := l
  obtain rfl : locked = false := hlocked
  cases waiters with
  | nil => exact ⟨hnodup, htail, by simp [wakeUpFirst], by simp [wakeUpFirst], hdone⟩
  | cons w ws =>
    by_cases hw : w.future = .pending
    · constructor <;> simp_all [wakeUpFirst]
    · constructor <;> simp_all [wakeUpFirst]

end WakeUpFirst

section Operations

variable {l : FairLock τ} {t : τ}

omit [DecidableEq τ] in
lemma mem_tail_filter {p : LockWaiter τ → Bool} {ws : List (LockWaiter τ)} {w : LockWaiter τ}
    (h : w ∈ (ws.filter p).tail) : w ∈ ws.tail := by
  cases ws with
  | nil => exact h
  | cons v ws =>
    rw [List.filter_cons] at h
    split at h
    · exact List.mem_of_mem_filter h
    · exact List.mem_of_mem_filter (List.mem_of_mem_tail h)

lemma waiter_eq_none : l.waiter t = none ↔ ∀ w ∈ l.waiters, w.task ≠ t := by
  simp [waiter]

lemma asked_eq_none : l.asked t = none ↔ ∀ w ∈ l.waiters, w.task ≠ t := by
  rw [asked, Option.map_eq_none_iff, waiter_eq_none]

lemma mem_of_waiter {w : LockWaiter τ} (h : l.waiter t = some w) : w ∈ l.waiters ∧ w.task = t :=
  ⟨List.mem_of_find?_eq_some h, by simpa using List.find?_some h⟩

omit [DecidableEq τ] in
/-- Of the tasks in the queue only the one which is first may have been woken. -/
lemma WellQueued.eq_of_result (h : l.WellQueued) {v w : LockWaiter τ} (hv : v ∈ l.waiters)
    (hw : w ∈ l.waiters) (hvr : v.future = .result) (hwr : w.future = .result) : v = w := by
  cases hl : l.waiters with
  | nil =>
    rw [hl] at hv
    exact absurd hv List.not_mem_nil
  | cons x xs =>
    have htail := h.tail
    rw [hl] at hv hw htail
    have hfirst : ∀ y ∈ x :: xs, y.future = .result → y = x := fun y hy hr =>
      (List.mem_cons.mp hy).resolve_right fun hy => htail y hy hr
    rw [hfirst v hv hvr, hfirst w hw hwr]

omit [DecidableEq τ] in
lemma acquire_fst (h : (l.acquire t).1 = true) :
    l.locked = false ∧ l.acquire t = (true, { l with locked := true }) := by
  unfold acquire at h ⊢
  split at h
  · rename_i hfree
    rw [if_pos hfree]
    simp only [Bool.and_eq_true, Bool.not_eq_true'] at hfree
    exact ⟨hfree.1, rfl⟩
  · exact Bool.noConfusion h

omit [DecidableEq τ] in
lemma acquire_waits (h : (l.acquire t).1 = false) :
    l.acquire t = (false, { l with waiters := l.waiters ++ [{ task := t }] }) := by
  unfold acquire at h ⊢
  split at h
  · exact Bool.noConfusion h
  · rename_i htaken
    rw [if_neg htaken]

omit [DecidableEq τ] in
lemma WellQueued.acquire (h : l.WellQueued) (ht : ∀ w ∈ l.waiters, w.task ≠ t) :
    (l.acquire t).2.WellQueued := by
  unfold FairLock.acquire
  split
  · rename_i hfree
    simp only [Bool.and_eq_true, Bool.not_eq_true', List.all_eq_true, decide_eq_true_eq] at hfree
    refine ⟨h.nodup, h.tail, fun _ w hw => ?_, fun hf => Bool.noConfusion hf, h.done⟩
    rw [hfree.2 w hw]
    decide
  · rename_i htaken
    constructor
    · rw [List.map_append, List.nodup_append]
      refine ⟨h.nodup, by simp, ?_⟩
      simpa using ht
    · intro w hw
      dsimp only at hw
      cases hl : l.waiters with
      | nil => simp [hl] at hw
      | cons v ws =>
        have htail := h.tail
        rw [hl] at hw htail
        rcases List.mem_append.mp hw with hw | hw
        · exact htail w hw
        · rw [List.mem_singleton.mp hw]
          exact nofun
    · intro hlocked w hw
      rcases List.mem_append.mp hw with hw | hw
      · exact h.taken hlocked w hw
      · rw [List.mem_singleton.mp hw]
        exact nofun
    · intro hlocked w hw
      dsimp only at hlocked hw
      cases hl : l.waiters with
      | nil => simp [hlocked, hl] at htaken
      | cons v ws =>
        rw [hl] at hw
        exact h.handedOn hlocked w (by rwa [hl])
    · intro w hw hcancel
      rcases List.mem_append.mp hw with hw | hw
      · exact h.done w hw hcancel
      · rw [List.mem_singleton.mp hw] at hcancel
        exact absurd hcancel (by simp [LockWaiter.isCancelled])

lemma acquire_asked (h : (l.acquire t).1 = false) (ht : l.asked t = none) (u : τ) :
    (l.acquire t).2.asked u = if u = t then some false else l.asked u := by
  rw [acquire_waits h]
  by_cases hu : u = t
  · rw [if_pos hu, hu]
    have hnone : l.waiters.find? (fun w => w.task = t) = none := by
      simpa [asked, waiter] using ht
    simp [asked, waiter, hnone, LockWaiter.isCancelled]
  · simp [asked, waiter, List.find?_append, hu, Ne.symm hu]

lemma WellQueued.cancel (h : l.WellQueued) (t : τ) : (l.cancel t).WellQueued := by
  have htask : ∀ w : LockWaiter τ, (if w.task = t then w.cancel else w).task = w.task := by
    intro w
    split <;> simp
  have hresult : ∀ w : LockWaiter τ, w.future ≠ .result →
      (if w.task = t then w.cancel else w).future ≠ .result := by
    intro w hw
    split
    · rwa [Ne, LockWaiter.cancel_future_result]
    · exact hw
  unfold FairLock.cancel
  constructor
  · have hmap : (l.waiters.map fun w => if w.task = t then w.cancel else w).map LockWaiter.task =
        l.waiters.map LockWaiter.task := by
      rw [List.map_map]
      exact List.map_congr_left fun w _ => htask w
    rw [hmap]
    exact h.nodup
  · rw [← List.map_tail]
    exact List.forall_mem_map.mpr fun w hw => hresult w (h.tail w hw)
  · exact fun hlocked => List.forall_mem_map.mpr fun w hw => hresult w (h.taken hlocked w hw)
  · intro hlocked w hw
    rw [List.head?_map, Option.mem_def, Option.map_eq_some_iff] at hw
    obtain ⟨v, hv, rfl⟩ := hw
    split
    · exact LockWaiter.cancel_future_pending v
    · exact h.handedOn hlocked v hv
  · refine List.forall_mem_map.mpr fun w hw hcancel => ?_
    split at hcancel
    · rename_i hwt
      rw [if_pos hwt]
      exact LockWaiter.cancel_future_pending w
    · rename_i hwt
      rw [if_neg hwt]
      exact h.done w hw hcancel

lemma cancel_asked (l : FairLock τ) (t u : τ) :
    (l.cancel t).asked u = if u = t then (l.asked u).map fun _ => true else l.asked u := by
  obtain ⟨locked, waiters⟩ := l
  unfold asked waiter cancel
  dsimp only
  induction waiters with
  | nil => simp
  | cons w ws ih =>
    by_cases hw : w.task = u
    · by_cases hu : u = t
      · simp [hw, hu]
      · simp [hw, hu]
    · have hcancel : (if w.task = t then w.cancel else w).task = w.task := by
        split <;> simp
      rw [List.map_cons, List.find?_cons_of_neg (by simpa [hcancel] using hw),
        List.find?_cons_of_neg (by simpa using hw)]
      exact ih

lemma remove_asked (l : FairLock τ) (t u : τ) :
    (l.remove t).asked u = if u = t then none else l.asked u := by
  obtain ⟨locked, waiters⟩ := l
  unfold asked waiter remove
  dsimp only
  induction waiters with
  | nil => simp
  | cons w ws ih =>
    by_cases hwt : w.task = t
    · by_cases hu : u = t
      · simp_all
      · simp_all [Ne.symm hu]
    · by_cases hw : w.task = u
      · simp_all
      · simp_all

omit [DecidableEq τ] in
/-- Who is woken finds the lock free. -/
lemma WellQueued.free_of_woken (h : l.WellQueued) {w : LockWaiter τ} (hw : w ∈ l.waiters)
    (hdone : w.future ≠ .pending) (hcancel : w.isCancelled = false) :
    w.future = .result ∧ l.locked = false := by
  have hresult : w.future = .result := by
    cases hf : w.future with
    | pending => exact absurd hf hdone
    | result => rfl
    | cancelled => simp [LockWaiter.isCancelled, hf] at hcancel
  refine ⟨hresult, ?_⟩
  rw [Bool.eq_false_iff]
  exact fun hlocked => h.taken hlocked w hw hresult

lemma WellQueued.resume (h : l.WellQueued) {w : LockWaiter τ} (hw : w ∈ l.waiters)
    (hdone : w.future ≠ .pending) : (l.resume w).2.WellQueued := by
  have hnodup : ((l.remove w.task).waiters.map LockWaiter.task).Nodup :=
    h.nodup.sublist (List.filter_sublist.map LockWaiter.task)
  have htail : ∀ v ∈ (l.remove w.task).waiters.tail, v.future ≠ .result :=
    fun v hv => h.tail v (mem_tail_filter hv)
  have hmem : ∀ v ∈ (l.remove w.task).waiters, v ∈ l.waiters ∧ v.task ≠ w.task := by
    intro v hv
    simpa using List.mem_filter.mp hv
  unfold FairLock.resume
  dsimp only
  split
  · by_cases hlocked : (l.remove w.task).locked = true
    · rw [if_pos hlocked]
      exact ⟨hnodup, htail, fun _ v hv => h.taken hlocked v (hmem v hv).1,
        fun hfree => absurd hlocked (by rw [hfree]; decide), fun v hv => h.done v (hmem v hv).1⟩
    · rw [if_neg hlocked]
      exact wellQueued_wakeUpFirst hnodup htail (fun v hv => h.done v (hmem v hv).1)
        (Bool.eq_false_iff.mpr hlocked)
  · rename_i hcancel
    obtain ⟨hresult, -⟩ := h.free_of_woken hw hdone (Bool.eq_false_iff.mpr hcancel)
    refine ⟨hnodup, htail, fun _ v hv hvr => ?_, fun hfree => Bool.noConfusion hfree,
      fun v hv => h.done v (hmem v hv).1⟩
    obtain ⟨hv, hne⟩ := hmem v hv
    exact hne (congrArg LockWaiter.task (h.eq_of_result hv hw hvr hresult))

lemma resume_asked (l : FairLock τ) (w : LockWaiter τ) (u : τ) :
    (l.resume w).2.asked u = if u = w.task then none else l.asked u := by
  unfold resume
  dsimp only
  split
  · split
    · exact remove_asked l w.task u
    · rw [wakeUpFirst_asked]
      exact remove_asked l w.task u
  · exact remove_asked l w.task u

omit [DecidableEq τ] in
lemma WellQueued.release (h : l.WellQueued) : l.release.2.WellQueued := by
  unfold FairLock.release
  split
  · exact wellQueued_wakeUpFirst h.nodup h.tail h.done rfl
  · exact h

lemma release_asked (l : FairLock τ) (u : τ) : l.release.2.asked u = l.asked u := by
  unfold release
  split
  · rw [wakeUpFirst_asked]
    rfl
  · rfl

end Operations

end FairLock

end GpuReservation.Library
