import GpuReservation.Library.FairLock
import Mathlib.Logic.Function.Basic

/-!
# The reservation lock

`_OwnedLock`: an `asyncio.Lock` which knows the task that holds it, and the tasks which take it with
`async with`.
-/

namespace GpuReservation.Model

open GpuReservation.Library

structure OwnedLock (τ : Type) where
  lock : FairLock τ := {}
  owner : Option τ := none

/-- How `__aenter__` goes. -/
inductive Entry
  | entered
  | waits
  | lockContractError (text : String)
  | cancelledError
  deriving DecidableEq

def reentryText : String :=
  "reservation_lock is not reentrant: this task already holds it. " ++
  "A helper documented 'caller must hold the lock' must not take it " ++
  "itself — see require_reservation_lock."

namespace OwnedLock

variable {τ : Type} [DecidableEq τ]

/-- `__aenter__`, as far as it goes at once. -/
def aenter (l : OwnedLock τ) (task : τ) : Entry × OwnedLock τ :=
  if l.owner = some task then (.lockContractError reentryText, l)
  else if (l.lock.acquire task).1 then
    (.entered, { lock := (l.lock.acquire task).2, owner := some task })
  else (.waits, { l with lock := (l.lock.acquire task).2 })

/-- What is left of `__aenter__` once the future of the task is done. -/
def resumeEnter (l : OwnedLock τ) (w : LockWaiter τ) : Entry × OwnedLock τ :=
  if (l.lock.resume w).1 then (.entered, { lock := (l.lock.resume w).2, owner := some w.task })
  else (.cancelledError, { l with lock := (l.lock.resume w).2 })

/-- `__aexit__`, on every way out of the block; `false` where the release raises. -/
def aexit (l : OwnedLock τ) : Bool × OwnedLock τ :=
  (l.lock.release.1, { lock := l.lock.release.2, owner := none })

/-- `current` is None where no task runs. -/
def heldByCurrentTask (l : OwnedLock τ) (current : Option τ) : Bool :=
  current.isSome && current = l.owner

def requireReservationLock (l : OwnedLock τ) (who : String) (current : Option τ) :
    Except String Unit :=
  if !l.heldByCurrentTask current then
    .error (who ++ " requires reservation_lock, but the calling task does not hold it")
  else .ok ()

end OwnedLock

/-- Where a task is: waiting in `__aenter__`, and whether it was cancelled there, or in the block. -/
inductive LockStage
  | outside
  | waiting (cancelled : Bool)
  | inside
  deriving DecidableEq

/-- The tasks which share the lock. -/
structure LockTasks (τ : Type) where
  lock : OwnedLock τ := {}
  stage : τ → LockStage := fun _ => .outside

/-- What happens to one of the tasks. -/
inductive LockMove (τ : Type)
  /-- It comes to an `async with`, maybe of the block it is in. -/
  | enter (t : τ)
  | cancel (t : τ)
  /-- The event loop goes on with a task that waited. -/
  | resume (t : τ)
  /-- It leaves the block, at its end, with an exception or cancelled. -/
  | exit (t : τ)

namespace LockTasks

variable {τ : Type} [DecidableEq τ]

/-- An exception of an inner `async with` leaves the task in the outer block. -/
def arrive (s : LockTasks τ) (t : τ) (e : Entry × OwnedLock τ) : LockTasks τ where
  lock := e.2
  stage :=
    match e.1 with
    | .entered => Function.update s.stage t .inside
    | .waits => Function.update s.stage t (.waiting false)
    | .lockContractError _ => s.stage
    | .cancelledError => Function.update s.stage t .outside

/-- What a task can do: one that waits does nothing else, and goes on only once its future is done. -/
def Possible (s : LockTasks τ) : LockMove τ → Prop
  | .enter t => s.stage t = .outside ∨ s.stage t = .inside
  | .cancel _ => True
  | .resume t => ∃ w ∈ s.lock.lock.waiter t, w.future ≠ .pending
  | .exit t => s.stage t = .inside

instance (s : LockTasks τ) (m : LockMove τ) : Decidable (s.Possible m) :=
  match m with
  | .enter _ => inferInstanceAs (Decidable (_ ∨ _))
  | .cancel _ => inferInstanceAs (Decidable True)
  | .resume t => inferInstanceAs (Decidable (∃ w ∈ s.lock.lock.waiter t, w.future ≠ .pending))
  | .exit _ => inferInstanceAs (Decidable (_ = _))

def step (s : LockTasks τ) : LockMove τ → LockTasks τ
  | .enter t => s.arrive t (s.lock.aenter t)
  | .cancel t =>
    match s.stage t with
    | .waiting _ =>
      { lock := { s.lock with lock := s.lock.lock.cancel t }
        stage := Function.update s.stage t (.waiting true) }
    -- elsewhere a cancellation is an exception of the body, which leaves by `exit`
    | _ => s
  | .resume t =>
    match s.lock.lock.waiter t with
    | some w => s.arrive t (s.lock.resumeEnter w)
    | none => s
  | .exit t => { lock := s.lock.aexit.2, stage := Function.update s.stage t .outside }

end LockTasks

end GpuReservation.Model
