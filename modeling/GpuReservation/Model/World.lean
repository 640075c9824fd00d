import GpuReservation.Library.Async
import GpuReservation.Model.State

/-!
# The cluster and the reservation app

What the controller calls, and what it may be answered: the pods of the cluster, the rows of the
app, the clock, and the lock on the reservations.
-/

namespace GpuReservation.Model

open GpuReservation.Library

/-- `LEASE_DENIED_STATUS`. -/
def leaseDeniedStatus : Nat := 409

/-- `LEASE_NOT_FOUND_STATUS`. -/
def leaseNotFoundStatus : Nat := 404

structure LeaseAttempt where
  reservation : Option ReservationResponse := none
  status : Option Nat := none
  detail : Option String := none
  code : Option String := none
  appRetryable : Option Bool := none
  notBefore : Option Instant := none
  deriving DecidableEq, Repr

namespace LeaseAttempt

def granted (a : LeaseAttempt) : Bool := a.reservation.isSome

def structural (a : LeaseAttempt) : Bool :=
  a.status = some leaseDeniedStatus && a.appRetryable = some false

def retryable (a : LeaseAttempt) : Bool :=
  match a.status with
  | none => true
  | some n => !a.structural && (n = leaseDeniedStatus || 500 ≤ n)

end LeaseAttempt

/-- `OUTRANKED_CODE`. -/
def outrankedCode : String := "outranked"

/-- `CAPACITY_DENIAL_CODES`. -/
def capacityDenialCodes : List String := ["capacity_physical", "capacity_cohort", "capacity_group"]

structure AdmissionWithheld where
  detail : Option String := none
  code : Option String := none
  appRetryable : Option Bool := none
  notBefore : Option Instant := none
  deriving DecidableEq, Repr

def AdmissionWithheld.outranked (v : AdmissionWithheld) : Bool := v.code = some outrankedCode

def AdmissionWithheld.asDenial (v : AdmissionWithheld) : LeaseAttempt where
  status := some leaseDeniedStatus
  detail := v.detail
  code := v.code
  appRetryable := v.appRetryable
  notBefore := v.notBefore

structure AdmissionSelection where
  granted : List Uid
  withheld : Dict Uid AdmissionWithheld := ∅
  deriving DecidableEq

structure OnDemandAdmissionCandidate where
  podUid : Uid
  podCreatedAt : Instant
  username : String
  groupName : Option String
  gpuClassId : Nat
  gpuCount : Nat
  durationSeconds : Nat
  bestEffort : Bool
  deriving DecidableEq, Repr

/-- `OnDemandReservationRequest`, or `BestEffortReservationRequest` where there is no duration. -/
structure ReservationRequest where
  username : String
  groupName : Option String
  gpuClassId : Nat
  gpuCount : Nat
  durationSeconds : Option Nat
  idempotencyKey : String
  deriving DecidableEq, Repr

structure PreemptionCandidate where
  podUid : Uid
  ns : String
  podName : String
  gpuClass : String
  gpuCount : Nat
  reservationId : Option Nat
  deriving DecidableEq, Repr

inductive CancelReason
  | noShow
  | controllerRevoked
  | superseded
  | podTerminated
  deriving DecidableEq, Repr

inductive RelinkCause
  | overstay
  | replaced
  | merge
  deriving DecidableEq, Repr

/-- An Event on a pod: its reason, with what its message is rendered from. -/
inductive PodEvent
  | runtimeGuaranteed (guaranteedUntil : Instant) (kind : Kind)
  | status (key : StatusKey)
  | preempted (boundary : Option Instant) (guaranteeEnd : Option Instant)
  | reservationCancelled (reservationId : Nat)
  | reservationReassigned (newOwner : Option String)
  | overstayRelinked (reservationId : Nat) (guaranteedUntil : Instant)
  | reservationRelinked (reservationId : Nat) (guaranteedUntil : Instant)
      (previous : Option Nat) (cause : RelinkCause)
  deriving DecidableEq, Repr

structure GpuClassDetail where
  id : Nat
  labelValue : Option String := none
  auditGpus : Option Nat := none
  deriving DecidableEq, Repr

structure NodeSnapshot where
  inventory : Dict String (Dict String Nat) := ∅
  labels : Dict String (Dict String String) := ∅
  deriving DecidableEq

/-- A call out of the controller.  A call which patches or deletes a pod names it by namespace and
name alone: `judged`, the uid the decision was about, is not sent. -/
inductive Request
  | now
  | randint (lo hi : Int)
  | shuffle (pods : List PodRuntimeView)
  | acquireReservationLock
  | releaseReservationLock
  | readPod (ns name : String)
  | applyToleration (judged : Uid) (ns name : String) (pod : Pod) (tolKey tolValue : String)
      (bookingReference : Nat)
  | removeSchedulingGate (ns name gate : String)
  | annotateRuntimeGuarantee (ns name : String) (guaranteedUntil : Instant)
      (reservation : ReservationResponse) (firstAdmission : Bool)
  | emitPodEvent (uid : Uid) (ns name : String) (event : PodEvent)
  /-- The guarantee-status and reservation-fact annotations of the pods are brought up to date. -/
  | annotateStanding (pods : List Uid)
  /-- The termination warnings are, those of the pods being deleted left out. -/
  | reconcileWarnings (doomed : List Uid)
  | annotateTerminationWarning (judged : Uid) (ns name : String) (terminateAt : Instant)
      (risk message : String)
  | clearTerminationWarning (judged : Uid) (ns name : String)
  | deletePod (judged : Uid) (ns name : String)
  | listPods
  | snapshotNodes
  | createReservation (req : ReservationRequest)
  | cancelReservation (reservationId : Nat) (reason : CancelReason)
  | selectOndemandAdmissions (candidates : List OnDemandAdmissionCandidate)
  | selectPreemptionVictims (neededByClass : Dict String Nat)
      (candidates : List PreemptionCandidate)
  | reportOverstay (reservationId : Nat) (podUid : Uid) (gpuCount : Nat) (start stop : Instant)
  | fetchReservations
  | fetchGpuClasses
  | fetchGpuClass (id : Nat)

/-- What a call answers; `false`, or `none`, is an exception, or the failure the client returns. -/
@[reducible] def Answer : Request → Type
  | .now => Instant
  | .randint _ _ => Int
  | .shuffle _ => List PodRuntimeView
  | .acquireReservationLock => Unit
  | .releaseReservationLock => Unit
  | .readPod _ _ => Option Pod
  | .applyToleration _ _ _ _ _ _ _ => Bool
  | .removeSchedulingGate _ _ _ => Bool
  | .annotateRuntimeGuarantee _ _ _ _ _ => Bool
  | .emitPodEvent _ _ _ _ => Bool
  | .annotateStanding _ => Unit
  | .reconcileWarnings _ => Bool
  | .annotateTerminationWarning _ _ _ _ _ _ => Bool
  | .clearTerminationWarning _ _ _ => Bool
  | .deletePod _ _ _ => Bool
  | .listPods => Option (List Pod)
  | .snapshotNodes => Option NodeSnapshot
  | .createReservation _ => LeaseAttempt
  | .cancelReservation _ _ => Bool
  | .selectOndemandAdmissions _ => Option AdmissionSelection
  | .selectPreemptionVictims _ _ => Option (List Uid)
  | .reportOverstay _ _ _ _ _ => Unit
  | .fetchReservations => Option (List ReservationResponse)
  | .fetchGpuClasses => Option (List GpuClassDetail)
  | .fetchGpuClass _ => Option GpuClassDetail

/-- A program of the controller. -/
abbrev Ctl (α : Type) : Type := Prog ControllerState Request Answer α

/-- Makes a call and awaits its answer. -/
abbrev call (q : Request) : Ctl (Answer q) := Prog.ask q

/-- How a call went: it was carried out, it failed without effect, or it was carried out and the
reply was lost. -/
inductive Outcome
  | done
  | refused
  | replyLost
  deriving DecidableEq, Repr

def Outcome.replied (o : Outcome) : Bool := o = .done

/-- Everything about an answer which the modelled state does not decide. -/
structure Choice where
  outcome : Outcome := .done
  elapsed : Nat := 0
  number : Nat := 0
  order : List Nat := []
  grants : Bool := true
  /-- The owner, group and class of a new lease, as the app fills them in. -/
  row : ReservationResponse := default
  denial : LeaseAttempt := {}
  uids : List Uid := []
  selection : AdmissionSelection := { granted := [] }
  listing : List Nat := []
  nodes : NodeSnapshot := {}
  gpuClasses : List GpuClassDetail := []

instance : Inhabited Choice := ⟨{}⟩

structure World where
  clock : Instant := 0
  /-- The pods of the cluster, by namespace and name. -/
  pods : Dict (String × String) Pod := ∅
  /-- The namespace and name of every pod there has been, in the order they were created. -/
  created : Dict Uid (String × String) := ∅
  /-- The reference of the last toleration patch which landed on each pod. -/
  landed : Dict Uid Nat := ∅
  /-- The reservations of the app, those cancelled included. -/
  rows : Dict Nat ReservationResponse := ∅
  /-- The reservation made for each idempotency key. -/
  keys : Dict String Nat := ∅
  nextRow : Nat := 0
  /-- The leases the app has answered creates with: the task which asked, and the reservation. -/
  grants : List (Nat × Nat) := []
  /-- The reservations a cancel of which the app has accepted. -/
  cancelled : Finset Nat := ∅
  lockOwner : Option Nat := none
  deriving DecidableEq

instance : Inhabited World := ⟨{}⟩

namespace World

variable (w : World)

/-- A pod, after the patch of `apply_toleration`. -/
def patchPod (ns name : String) (tolerations : List Toleration) (bookingReference : Nat) : World :=
  match w.pods.get? (ns, name) with
  | none => w
  | some p =>
    { w with
      pods := w.pods.set (ns, name)
        { p with tolerations := tolerations, bookingReference := some bookingReference }
      landed := w.landed.set p.uid bookingReference }

/-- A deleted pod terminates, and is gone some time after. -/
def terminatePod (ns name : String) : World :=
  match w.pods.get? (ns, name) with
  | none => w
  | some p => { w with pods := w.pods.set (ns, name) { p with terminating := true } }

/-- A new lease for `req`, anchored at the app's own now. -/
def newLease (req : ReservationRequest) (ch : Choice) : ReservationResponse :=
  { ch.row with
    id := w.nextRow
    gpuClassId := req.gpuClassId
    gpuCount := req.gpuCount
    startUtc := w.clock
    endUtc := w.clock + seconds (req.durationSeconds.getD 0)
    status := .active
    kind := if req.durationSeconds.isSome then .onDemand else .bestEffort }

def issueLease (req : ReservationRequest) (ch : Choice) : World :=
  { w with
    rows := w.rows.set w.nextRow (w.newLease req ch)
    keys := w.keys.set req.idempotencyKey w.nextRow
    nextRow := w.nextRow + 1 }

/-- The reservation the app has for an idempotency key, in its current status. -/
def rowOfKey (key : String) : Option ReservationResponse := (w.keys.get? key).bind w.rows.get?

/-- The app's answer to a create: a repeated key returns the original reservation as it is now. -/
def create (req : ReservationRequest) (ch : Choice) : LeaseAttempt × World :=
  match w.rowOfKey req.idempotencyKey with
  | some row => ({ reservation := some row, status := some 200 }, w)
  | none =>
    if ch.grants then
      ({ reservation := some (w.newLease req ch), status := some 201 }, w.issueLease req ch)
    else ({ ch.denial with reservation := none }, w)

def noteGrant (task : Nat) (a : LeaseAttempt) : World :=
  match a.reservation with
  | none => w
  | some lease => { w with grants := w.grants ++ [(task, lease.id)] }

/-- Cancelling a reservation which is gone is answered as done. -/
def cancel (reservationId : Nat) : World :=
  { w with
    rows := match w.rows.get? reservationId with
      | none => w.rows
      | some r => w.rows.set reservationId { r with status := .cancelled }
    cancelled := insert reservationId w.cancelled }

end World

/-- `l`, in the order `order` names where that is an order of all of it. -/
def reorder {α : Type} [DecidableEq α] (l : List α) (order : List Nat) : List α :=
  if (order.filterMap (l[·]?)).Perm l then order.filterMap (l[·]?) else l

/-- The number a choice of `n` stands for among those from `lo` to `hi`. -/
def pickNumber (lo hi : Int) (n : Nat) : Int := lo + (n : Int) % (hi - lo + 1)

def yields : Request → Bool
  | .now | .randint _ _ | .shuffle _ | .releaseReservationLock => false
  | _ => true

/-- How the world answers the call of a task. -/
def answer (task : Nat) : (q : Request) → Choice → World → Option (Answer q × World)
  | .now, ch, w => some (w.clock + ch.elapsed, { w with clock := w.clock + ch.elapsed })
  | .randint lo hi, ch, w => some (pickNumber lo hi ch.number, w)
  | .shuffle pods, ch, w => some (reorder pods ch.order, w)
  | .acquireReservationLock, _, w =>
    if w.lockOwner = none then some ((), { w with lockOwner := some task }) else none
  | .releaseReservationLock, _, w =>
    some ((), if w.lockOwner = some task then { w with lockOwner := none } else w)
  | .readPod ns name, ch, w =>
    some (if ch.outcome.replied then w.pods.get? (ns, name) else none, w)
  | .applyToleration _ ns name pod tolKey tolValue reference, ch, w =>
    if (ns, name) ∉ w.pods ∨ ch.outcome = .refused then some (false, w)
    else some (ch.outcome.replied,
      w.patchPod ns name (patchedTolerations pod tolKey tolValue) reference)
  | .removeSchedulingGate _ _ _, ch, w => some (ch.outcome.replied, w)
  | .annotateRuntimeGuarantee _ _ _ _ _, ch, w => some (ch.outcome.replied, w)
  | .emitPodEvent _ _ _ _, ch, w => some (ch.outcome.replied, w)
  | .annotateStanding _, _, w => some ((), w)
  | .reconcileWarnings _, ch, w => some (ch.outcome.replied, w)
  | .annotateTerminationWarning _ _ _ _ _ _, ch, w => some (ch.outcome.replied, w)
  | .clearTerminationWarning _ _ _, ch, w => some (ch.outcome.replied, w)
  | .deletePod _ ns name, ch, w =>
    if ch.outcome = .refused then some (false, w)
    else some (ch.outcome.replied, w.terminatePod ns name)
  | .listPods, ch, w => some (if ch.outcome.replied then some w.pods.values else none, w)
  | .snapshotNodes, ch, w => some (if ch.outcome.replied then some ch.nodes else none, w)
  | .createReservation req, ch, w =>
    match ch.outcome with
    | .refused => some ({}, w)
    | .replyLost => some ({}, (w.create req ch).2)
    | .done => some ((w.create req ch).1, (w.create req ch).2.noteGrant task (w.create req ch).1)
  | .cancelReservation id _, ch, w =>
    if ch.outcome = .refused then some (false, w) else some (ch.outcome.replied, w.cancel id)
  | .selectOndemandAdmissions _, ch, w =>
    some (if ch.outcome.replied then some ch.selection else none, w)
  | .selectPreemptionVictims _ _, ch, w =>
    some (if ch.outcome.replied then some ch.uids else none, w)
  | .reportOverstay _ _ _ _ _, _, w => some ((), w)
  | .fetchReservations, ch, w =>
    some (if ch.outcome.replied then some (ch.listing.filterMap w.rows.get?) else none, w)
  | .fetchGpuClasses, ch, w => some (if ch.outcome.replied then some ch.gpuClasses else none, w)
  | .fetchGpuClass id, ch, w =>
    some (if ch.outcome.replied then ch.gpuClasses.find? (·.id = id) else none, w)

def runtime : Runtime Request Answer World Choice := ⟨yields, answer⟩

/-- A call waits only for the lock. -/
lemma answer_isSome {q : Request} {w : World} (hq : q = .acquireReservationLock → w.lockOwner = none)
    (task : Nat) (ch : Choice) : (answer task q ch w).isSome := by
  cases q with
  | acquireReservationLock => simp [answer, hq rfl]
  | applyToleration judged ns name pod key value reference =>
    rw [answer]
    split <;> rfl
  | deletePod judged ns name =>
    rw [answer]
    split <;> rfl
  | cancelReservation id reason =>
    rw [answer]
    split <;> rfl
  | createReservation req =>
    rw [answer]
    split <;> rfl
  | _ => rfl

/-- What happens to the cluster and to the app without the controller. -/
inductive WorldEvent
  | elapse (n : Nat)
  /-- A pod is created: its uid is new, and no pod of its name is there. -/
  | podCreated (pod : Pod)
  | podChanged (ns name : String) (phase : Phase) (terminating : Bool) (nodeName : Option String)
      (podScheduled : Option PodScheduled)
  | podGone (ns name : String)
  /-- A reservation is made, moved, reassigned or cancelled in the app. -/
  | rowChanged (row : ReservationResponse)

/-- A terminal phase, a deletion and a binding are final. -/
def Pod.changed (p : Pod) (phase : Phase) (terminating : Bool) (nodeName : Option String)
    (podScheduled : Option PodScheduled) : Pod :=
  { p with
    phase := if p.phase.isTerminal then p.phase else phase
    terminating := p.terminating || terminating
    nodeName := p.nodeName.or nodeName
    podScheduled := podScheduled }

def WorldEvent.effect : WorldEvent → World → World
  | .elapse n, w => { w with clock := w.clock + n }
  | .podCreated pod, w =>
    if pod.uid ∈ w.created ∨ (pod.ns, pod.name) ∈ w.pods then w
    else { w with
      pods := w.pods.set (pod.ns, pod.name) pod
      created := w.created.set pod.uid (pod.ns, pod.name) }
  | .podChanged ns name phase terminating nodeName podScheduled, w =>
    match w.pods.get? (ns, name) with
    | none => w
    | some p => { w with
        pods := w.pods.set (ns, name) (p.changed phase terminating nodeName podScheduled) }
  | .podGone ns name, w => { w with pods := w.pods.erase (ns, name) }
  | .rowChanged row, w =>
    { w with rows := w.rows.set row.id row, nextRow := max w.nextRow (row.id + 1) }

/-- What happens outside changes nothing the controller holds. -/
def outside (e : WorldEvent) (σ : Snap ControllerState World) : Snap ControllerState World :=
  { σ with world := e.effect σ.world }

end GpuReservation.Model
