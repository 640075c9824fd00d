import GpuReservation.Library.EventLog
import GpuReservation.Model.Watch

/-!
# The pod event stream

`PodWatcher`: the thread which lists the pods and watches them, the API server it asks, and the queue its
events go through.
-/

namespace GpuReservation.Model

open GpuReservation.Library

/-- A pod as the API server sends it. -/
structure PodObject where
  pod : Pod
  /-- `metadata.resource_version`. -/
  resourceVersion : Nat
  deriving DecidableEq

abbrev WatchEvent := EventType × PodObject

/-- The API server's events of the pods which the label selector takes in, by resource version. -/
abbrev PodLog := EventLog (EventType × Pod)

/-- The event as the stream yields it. -/
def yielded (e : Nat × EventType × Pod) : WatchEvent := (e.2.1, { pod := e.2.2, resourceVersion := e.1 })

/-- The pods there are once an event has happened. -/
def afterEvent (pods : List PodObject) (e : WatchEvent) : List PodObject :=
  let others := pods.filter fun p => p.pod.uid ≠ e.2.pod.uid
  if e.1 = .deleted then others else others ++ [e.2]

/-- The state at a version. -/
def podsAt (api : PodLog) (version : Nat) : List PodObject :=
  ((api.upTo version).map yielded).foldl afterEvent []

/-- The arguments of the constructor. -/
structure PodWatcher where
  resyncInterval : Nat := 600
  queueMaxsize : Nat := 4096
  retryDelay : Nat := 5

/-- The bounded queue, and the events dropped from it. -/
structure EventQueue where
  items : List WatchEvent := []
  dropped : Nat := 0

/-- `_offer`. -/
def PodWatcher.offer (w : PodWatcher) (queue : EventQueue) (item : WatchEvent) : EventQueue :=
  if 0 < w.queueMaxsize ∧ w.queueMaxsize ≤ queue.items.length then
    { items := queue.items.tail ++ [item], dropped := queue.dropped + 1 }
  else { queue with items := queue.items ++ [item] }

inductive WatchError
  | apiException (status : Nat)
  | other
  deriving DecidableEq

inductive RelistReason
  | start
  | resync
  | expired
  | error
  deriving DecidableEq

/-- One open `w.stream`. -/
structure WatchStream where
  /-- How far the server has come. -/
  cursor : Nat
  progressed : Bool := false
  /-- An item in place of an event was undecodable. -/
  undecodable : Bool := false
  deriving DecidableEq

inductive WatchStage
  /-- At the `while`. -/
  | top
  | streaming (stream : WatchStream)
  /-- In `stop_event.wait`, at most until the instant. -/
  | sleeping (wakeAt : Nat)
  | returned
  deriving DecidableEq

namespace WatchStage

def stream : WatchStage → Option WatchStream
  | .streaming stream => some stream
  | _ => none

def wakeAt : WatchStage → Option Nat
  | .sleeping wakeAt => some wakeAt
  | _ => none

end WatchStage

/-- The variables of `_run_watch`, and where it is. -/
structure WatchThread where
  failCount : Nat := 0
  /-- None: the next cycle must LIST. -/
  rv : Option Nat := none
  relistReason : RelistReason := .start
  lastList : Nat := 0
  stage : WatchStage := .top

/-- The thread, the server and the event loop. -/
structure PodWatch where
  api : PodLog := EventLog.empty
  /-- `time.monotonic()`. -/
  clock : Nat := 0
  stopEvent : Bool := false
  thread : WatchThread := {}
  /-- The calls of `_offer` which the event loop has yet to make. -/
  scheduled : List WatchEvent := []
  queue : EventQueue := {}
  /-- What the consumer has taken. -/
  taken : List WatchEvent := []
  /-- The last LIST: its pods, and its version. -/
  listed : Option (List PodObject × Nat) := none
  /-- What was offered before the last LIST, and what since. -/
  earlier : List WatchEvent := []
  offered : List WatchEvent := []

/-- What the LIST of a cycle comes back with, where the cycle makes one. -/
inductive ListOutcome
  | listed (pods : List PodObject) (version : Nat)
  | raises (e : WatchError)

/-- What the stream yields next. -/
inductive StreamItem
  | event
  /-- Not a dict, in place of the next event. -/
  | undecodable
  | bookmark (version : Option Nat)
  | closed
  | raises (e : WatchError)

inductive WatchMove
  /-- A pod changes; other objects take `gap` versions before it. -/
  | happens (type : EventType) (pod : Pod) (gap : Nat)
  /-- Other objects take versions. -/
  | elsewhere (n : Nat)
  | elapse (n : Nat)
  /-- The consumer stops. -/
  | stop
  /-- The event loop makes a call of `_offer`. -/
  | runOffer
  /-- The consumer takes an event. -/
  | take
  | cycle (outcome : ListOutcome)
  | item (i : StreamItem)
  | wake

namespace PodWatch

variable (w : PodWatcher) (s : PodWatch)

def goTo (stage : WatchStage) : PodWatch := { s with thread := { s.thread with stage } }

/-- `loop.call_soon_threadsafe(self._offer, …)`. -/
def callOffer (item : WatchEvent) : PodWatch :=
  { s with scheduled := s.scheduled ++ [item], offered := s.offered ++ [item] }

/-- The two `except` clauses. -/
def except (e : WatchError) : PodWatch :=
  if e = .apiException 410 then
    { s with thread := { s.thread with rv := none, relistReason := .expired, stage := .top } }
  else
    { s with
      thread :=
        { s.thread with
          failCount := s.thread.failCount + 1
          rv := none
          relistReason := .error
          stage := .sleeping (s.clock + w.retryDelay) } }

def resyncDue : Bool := s.thread.rv.isSome && w.resyncInterval ≤ s.clock - s.thread.lastList

/-- The LIST, and the watch from its version. -/
def list (outcome : ListOutcome) : PodWatch :=
  let s := { s with thread.relistReason := if s.resyncDue w then .resync else s.thread.relistReason }
  match outcome with
  | .raises e => s.except w e
  | .listed pods version =>
    { s with
      scheduled := s.scheduled ++ pods.map fun p => (.added, p)
      listed := some (pods, version)
      earlier := s.earlier ++ s.offered
      offered := pods.map fun p => (.added, p)
      thread :=
        { s.thread with
          rv := some version
          lastList := s.clock
          stage := .streaming { cursor := version } } }

/-- The `while`, and a cycle as far as the open stream. -/
def cycle (outcome : ListOutcome) : PodWatch :=
  if s.stopEvent then s.goTo .returned
  else
    match s.thread.rv with
    | none => s.list w outcome
    | some rv => if s.resyncDue w then s.list w outcome else s.goTo (.streaming { cursor := rv })

/-- The stream demonstrably works: the failure counter is reset. -/
def progress (stream : WatchStream) : PodWatch :=
  { s with
    thread :=
      { s.thread with
        failCount := if stream.progressed then s.thread.failCount else 0
        stage := .streaming { stream with progressed := true } } }

/-- One turn of the `for` over the stream, or what ends it. -/
def onItem (stream : WatchStream) : StreamItem → PodWatch
  | .closed => { s with thread := { s.thread with failCount := 0, stage := .top } }
  | .raises e => s.except w e
  | .undecodable =>
    if s.stopEvent then s.goTo .returned
    else
      match s.api.next stream.cursor with
      | none => s
      | some e => s.goTo (.streaming { stream with cursor := e.1, undecodable := true })
  | .bookmark version =>
    if s.stopEvent then s.goTo .returned
    else
      match version with
      | none => s.progress stream
      | some rv =>
        { s with thread := { s.thread with rv := some rv } }.progress { stream with cursor := rv }
  | .event =>
    if s.stopEvent then s.goTo .returned
    else
      match s.api.next stream.cursor with
      | none => s
      | some e =>
        { s with thread := { s.thread with rv := some e.1 } }.progress { stream with cursor := e.1 }
          |>.callOffer (yielded e)

def step : WatchMove → PodWatch
  | .happens type pod gap => { s with api := s.api.append gap (type, pod) }
  | .elsewhere n => { s with api := s.api.skip n }
  | .elapse n => { s with clock := s.clock + n }
  | .stop => { s with stopEvent := true }
  | .runOffer =>
    match s.scheduled with
    | [] => s
    | item :: rest => { s with scheduled := rest, queue := w.offer s.queue item }
  | .take =>
    match s.queue.items with
    | [] => s
    | item :: rest =>
      { s with queue := { s.queue with items := rest }, taken := s.taken ++ [item] }
  | .cycle outcome => s.cycle w outcome
  | .item i =>
    match s.thread.stage.stream with
    | none => s
    | some stream => s.onItem w stream i
  | .wake => s.goTo (if s.stopEvent then .returned else .top)

/-- A LIST returns the state at its version. -/
def ListsState : ListOutcome → Prop
  | .listed pods version => version ≤ s.api.head ∧ pods.Perm (podsAt s.api version)
  | .raises _ => True

/-- What a stream can yield: the later events in order, bookmarks whose version skips none of them, and
its end. -/
def Yields (stream : WatchStream) : StreamItem → Prop
  | .event | .undecodable => (s.api.next stream.cursor).isSome
  | .bookmark (some version) =>
    stream.cursor ≤ version ∧ version ≤ s.api.head ∧ s.api.between stream.cursor version = []
  | .bookmark none | .closed | .raises _ => True

def Possible : WatchMove → Prop
  | .happens .. | .elsewhere _ | .elapse _ | .stop | .runOffer | .take => True
  | .cycle outcome => s.thread.stage = .top ∧ s.ListsState outcome
  | .item i => ∃ stream ∈ s.thread.stage.stream, s.Yields stream i
  | .wake => ∃ wakeAt ∈ s.thread.stage.wakeAt, s.stopEvent = true ∨ wakeAt ≤ s.clock

instance (outcome : ListOutcome) : Decidable (s.ListsState outcome) :=
  match outcome with
  | .listed _ _ => inferInstanceAs (Decidable (_ ∧ List.Perm _ _))
  | .raises _ => inferInstanceAs (Decidable True)

instance (stream : WatchStream) (i : StreamItem) : Decidable (s.Yields stream i) :=
  match i with
  | .event => inferInstanceAs (Decidable (_ = true))
  | .undecodable => inferInstanceAs (Decidable (_ = true))
  | .bookmark (some _) => inferInstanceAs (Decidable (_ ∧ _ ∧ _ = []))
  | .bookmark none => inferInstanceAs (Decidable True)
  | .closed => inferInstanceAs (Decidable True)
  | .raises _ => inferInstanceAs (Decidable True)

instance (m : WatchMove) : Decidable (s.Possible m) :=
  match m with
  | .happens .. => inferInstanceAs (Decidable True)
  | .elsewhere _ => inferInstanceAs (Decidable True)
  | .elapse _ => inferInstanceAs (Decidable True)
  | .stop => inferInstanceAs (Decidable True)
  | .runOffer => inferInstanceAs (Decidable True)
  | .take => inferInstanceAs (Decidable True)
  | .cycle outcome => inferInstanceAs (Decidable (_ ∧ s.ListsState outcome))
  | .item i => inferInstanceAs (Decidable (∃ stream ∈ s.thread.stage.stream, s.Yields stream i))
  | .wake => inferInstanceAs (Decidable (∃ wakeAt ∈ s.thread.stage.wakeAt, _ ∨ wakeAt ≤ s.clock))

end PodWatch

end GpuReservation.Model
