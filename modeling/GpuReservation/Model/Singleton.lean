import GpuReservation.Library.Async
import GpuReservation.Library.Versioned
import GpuReservation.Model.Reservation

/-!
# The singleton lease

`k8s_client.py` from `LeaseOutcome` on, and the lease guard of `main.py`: instances of the
controller, each with its own identity, share one Lease object of the API server.
-/

namespace GpuReservation.Model

open GpuReservation.Library

structure V1LeaseSpec where
  holderIdentity : Option String := none
  leaseDurationSeconds : Option Int := none
  acquireTime : Option Instant := none
  renewTime : Option Instant := none
  leaseTransitions : Option Int := none
  deriving DecidableEq, Repr

/-- What of a Lease is read and written: its `metadata.resource_version` and its spec. -/
structure V1Lease where
  resourceVersion : Option Nat := none
  spec : V1LeaseSpec
  deriving DecidableEq, Repr

/-- An exception of the client: its `status` where the API server answered, and its text. -/
structure ApiFailure where
  status : Option Nat := none
  text : String
  deriving DecidableEq, Repr

inductive LeaseStatus
  | acquired
  | heldByOther
  | lost
  | error
  deriving DecidableEq, Repr

inductive LeaseMode
  | created
  | reacquired
  | takeover
  | renewed
  deriving DecidableEq, Repr

structure LeaseOutcome where
  status : LeaseStatus
  holder : Option String := none
  ageS : Option Int := none
  mode : Option LeaseMode := none
  err : Option String := none
  deriving DecidableEq, Repr

/-- Seconds since the lease was last renewed, cut off towards zero. -/
def leaseAgeSeconds (lease : V1LeaseSpec) (now : Instant) : Option Int :=
  lease.renewTime.map fun renewed => (now - renewed).tdiv 1000000

/-- `lease.spec.lease_duration_seconds or duration_s`. -/
def leaseExpiry (lease : V1LeaseSpec) (durationS : Int) : Int :=
  match lease.leaseDurationSeconds with
  | none => durationS
  | some n => if n = 0 then durationS else n

/-- `age is None or age > expiry`. -/
def leaseExpired (lease : V1LeaseSpec) (durationS : Int) (now : Instant) : Bool :=
  match leaseAgeSeconds lease now with
  | none => true
  | some age => leaseExpiry lease durationS < age

def leaseBody (holder : String) (durationS : Int) (now : Instant) (acquire : Bool)
    (transitions : Int) : V1LeaseSpec where
  holderIdentity := some holder
  leaseDurationSeconds := some durationS
  acquireTime := if acquire then some now else none
  renewTime := some now
  leaseTransitions := some transitions

/-- What an instance asks for: the time, to sleep, and the calls of the coordination API. -/
inductive LeaseRequest
  | utcNow
  | sleep
  | readNamespacedLease
  | write (u : Update V1LeaseSpec)
  deriving DecidableEq

/-- What a call may come back with: each of the calls may raise. -/
def LeaseAnswer : LeaseRequest → Type
  | .utcNow => Instant
  | .sleep => Unit
  | .readNamespacedLease => Except ApiFailure V1Lease
  | .write _ => Except ApiFailure Unit

/-- The stamp of the last call of each instance which succeeded. -/
structure LeaseBook where
  renewedAt : String → Option Instant := fun _ => none

def LeaseBook.record (b : LeaseBook) (holder : String) (now : Instant) : LeaseBook where
  renewedAt := Function.update b.renewedAt holder (some now)

abbrev LeaseProg := Prog LeaseBook LeaseRequest LeaseAnswer

def utcNow : LeaseProg Instant := Prog.ask LeaseRequest.utcNow

def leaseSleep : LeaseProg Unit := Prog.ask LeaseRequest.sleep

def readNamespacedLease : LeaseProg (Except ApiFailure V1Lease) :=
  Prog.ask LeaseRequest.readNamespacedLease

def createNamespacedLease (body : V1LeaseSpec) : LeaseProg (Except ApiFailure Unit) :=
  Prog.ask (LeaseRequest.write (.create body))

def replaceNamespacedLease (resourceVersion : Option Nat) (body : V1LeaseSpec) :
    LeaseProg (Except ApiFailure Unit) :=
  Prog.ask (LeaseRequest.write (.replace resourceVersion body))

def LeaseOutcome.failed (exc : ApiFailure) : LeaseOutcome where
  status := .error
  err := some exc.text

def acquireSingletonLease (now : Instant) (holder : String) (durationS : Int) :
    LeaseProg LeaseOutcome := do
  match ← readNamespacedLease with
  | .error exc =>
    if exc.status ≠ some 404 then
      return .failed exc
    match ← createNamespacedLease (leaseBody holder durationS now true 0) with
    | .error exc => return .failed exc
    | .ok _ => return { status := .acquired, holder := some holder, mode := some .created }
  | .ok lease =>
    let current := lease.spec.holderIdentity
    let age := leaseAgeSeconds lease.spec now
    let transitions := lease.spec.leaseTransitions.getD 0
    if current = some holder then
      match ← replaceNamespacedLease lease.resourceVersion
          (leaseBody holder durationS now true transitions) with
      | .error exc => return .failed exc
      | .ok _ => return { status := .acquired, holder := some holder, mode := some .reacquired }
    else if leaseExpired lease.spec durationS now then
      match ← replaceNamespacedLease lease.resourceVersion
          (leaseBody holder durationS now true (transitions + 1)) with
      | .error exc => return .failed exc
      | .ok _ =>
        return { status := .acquired, holder := some holder, mode := some .takeover, ageS := age }
    else
      return { status := .heldByOther, holder := current, ageS := age }

def renewSingletonLease (now : Instant) (holder : String) (durationS : Int) :
    LeaseProg LeaseOutcome := do
  match ← readNamespacedLease with
  | .error exc => return .failed exc
  | .ok lease =>
    let current := lease.spec.holderIdentity
    if current ≠ none ∧ current ≠ some holder ∧ leaseExpired lease.spec durationS now = false then
      return { status := .lost, holder := current, ageS := leaseAgeSeconds lease.spec now }
    let transitions := lease.spec.leaseTransitions.getD 0
    match ← replaceNamespacedLease lease.resourceVersion
        (leaseBody holder durationS now false transitions) with
    | .error exc => return .failed exc
    | .ok _ => return { status := .acquired, holder := some holder, mode := some .renewed }

inductive LeaseCall
  | acquire
  | renew
  deriving DecidableEq, Repr

def LeaseCall.program (now : Instant) (holder : String) (durationS : Int) :
    LeaseCall → LeaseProg LeaseOutcome
  | .acquire => acquireSingletonLease now holder durationS
  | .renew => renewSingletonLease now holder durationS

/-- One call of an instance.  Both functions take the time before anything else. -/
def leaseCall (holder : String) (durationS : Int) (call : LeaseCall) : LeaseProg LeaseOutcome := do
  let now ← utcNow
  let outcome ← call.program now holder durationS
  if outcome.status = .acquired then
    Prog.modify fun book => book.record holder now
  return outcome

/-- Whether the lease is held; nothing where another instance holds it, and startup is aborted. -/
def claimSingletonLease (holder : String) (durationS : Int) : LeaseProg (Option Bool) := do
  let outcome ← leaseCall holder durationS .acquire
  match outcome.status with
  | .heldByOther => return none
  | .error => return some false
  | _ => return some true

/-- `lease_guard_loop`, for so many rounds.  It returns where it terminates the process. -/
def leaseGuardLoop (holder : String) (durationS : Int) : Nat → Bool → LeaseProg Unit
  | 0, _ => return ()
  | rounds + 1, held => do
    let _ ← leaseSleep
    let outcome ← leaseCall holder durationS (if held then .renew else .acquire)
    match outcome.status with
    | .lost => return ()
    | .heldByOther => return ()
    | .error => leaseGuardLoop holder durationS rounds held
    | .acquired => leaseGuardLoop holder durationS rounds true

/-- What an instance does: any calls one after another, or what the controller does. -/
inductive InstanceLife
  | calls (calls : List LeaseCall)
  | guarding (rounds : Nat)
  deriving DecidableEq, Repr

structure Instance where
  holder : String
  life : InstanceLife
  deriving DecidableEq, Repr

def Instance.program (durationS : Int) (a : Instance) : LeaseProg Unit :=
  match a.life with
  | .calls calls => calls.forM fun call => do
    let _ ← leaseCall a.holder durationS call
    return ()
  | .guarding rounds => do
    match ← claimSingletonLease a.holder durationS with
    | none => return ()
    | some held => leaseGuardLoop a.holder durationS rounds held

/-- The API server, the clock, and the writes which may still arrive. -/
structure Coordination where
  clock : Instant
  lease : Versioned V1LeaseSpec
  inFlight : List (Update V1LeaseSpec) := []

/-- What becomes of a call: it is answered, or it raises without having been carried out, after it
was carried out, or while the write is still on its way. -/
inductive Delivery
  | answered
  | refused (exc : ApiFailure)
  | unanswered (exc : ApiFailure)
  | delayed (exc : ApiFailure)
  deriving DecidableEq

instance : Inhabited Delivery := ⟨.answered⟩

/-- What the server answers a write it does not accept: a create of what exists, and a replace
without a version, of nothing, or at a version which is not the latest. -/
def rejection (c : Versioned V1LeaseSpec) : Update V1LeaseSpec → ApiFailure
  | .create _ => { status := some 409, text := "AlreadyExists" }
  | .replace none _ => { status := some 422, text := "Invalid" }
  | .replace (some _) _ =>
    if c.value.isNone then { status := some 404, text := "NotFound" }
    else { status := some 409, text := "Conflict" }

def Coordination.write (w : Coordination) (u : Update V1LeaseSpec) : Coordination :=
  { w with lease := w.lease.update u }

/-- A write which was given up arrives. -/
def Coordination.arrive (w : Coordination) (i : Nat) : Coordination :=
  match w.inFlight[i]? with
  | none => w
  | some u => w.write u

def leaseRead (c : Versioned V1LeaseSpec) : Except ApiFailure V1Lease :=
  match c.value with
  | none => .error { status := some 404, text := "NotFound" }
  | some spec => .ok { resourceVersion := some c.version, spec := spec }

def leaseAnswer : (q : LeaseRequest) → Delivery → Coordination → LeaseAnswer q × Coordination
  | .utcNow, _, w => (w.clock, w)
  | .sleep, _, w => ((), w)
  | .readNamespacedLease, .answered, w => (leaseRead w.lease, w)
  | .readNamespacedLease, .refused exc, w => (.error exc, w)
  | .readNamespacedLease, .unanswered exc, w => (.error exc, w)
  | .readNamespacedLease, .delayed exc, w => (.error exc, w)
  | .write u, .answered, w =>
    (if w.lease.accepts u then .ok () else .error (rejection w.lease u), w.write u)
  | .write _, .refused exc, w => (.error exc, w)
  | .write u, .unanswered exc, w => (.error exc, w.write u)
  | .write u, .delayed exc, w => (.error exc, { w with inFlight := u :: w.inFlight })

/-- The clock is read on the spot; everything else suspends the instance. -/
def leaseRuntime : Runtime LeaseRequest LeaseAnswer Coordination Delivery where
  yields q := q ≠ .utcNow
  answer _ q ch w := some (leaseAnswer q ch w)

/-- Time passes, or a write arrives late, not necessarily for the last time. -/
inductive LeaseEvent
  | tick (microseconds : Nat)
  | arrives (index : Nat)
  deriving DecidableEq

def leaseOutside (e : LeaseEvent) (σ : Snap LeaseBook Coordination) : Snap LeaseBook Coordination :=
  match e with
  | .tick n => { σ with world := { σ.world with clock := σ.world.clock + n } }
  | .arrives i => { σ with world := σ.world.arrive i }

abbrev Instances := Pool LeaseBook Coordination LeaseRequest LeaseAnswer Instance

abbrev InstanceMove := Move Instance Delivery LeaseEvent

end GpuReservation.Model
