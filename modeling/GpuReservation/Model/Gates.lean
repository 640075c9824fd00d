import GpuReservation.Model.Reconcile
import GpuReservation.Library.Standing
import GpuReservation.Library.SortedEntries
import Mathlib.Data.Finset.Sort
import Mathlib.Data.Prod.Lex

/-!
# The gates on on-demand admission

The comparison of the capacities, which pauses on-demand admission on a class, and the warnings which restate
every gate for as long as it stands.
-/

namespace GpuReservation.Model

open GpuReservation.Library

/-- A class of which the app and the cluster count differently. -/
structure CapacityDiff where
  label : String
  appSide : Nat
  physical : Nat
  deriving DecidableEq, Repr

def CapacityDiff.overcommitted (diff : CapacityDiff) : Bool := diff.physical < diff.appSide

/-- The classes of which the counts differ, and those paused; a count which is missing is 0. -/
def reconcileCapacity (appSide physical : Dict String Nat) : List CapacityDiff × Finset String :=
  ((appSide.keys ∪ physical.keys).insertionSort (· ≤ ·)).foldl
    (fun found label =>
      let a := (appSide.get? label).getD 0
      let p := (physical.get? label).getD 0
      if a = p then found
      else
        let diff : CapacityDiff := ⟨label, a, p⟩
        (found.1 ++ [diff],
          if label ∈ appSide ∧ diff.overcommitted then insert label found.2 else found.2))
    ([], ∅)

namespace ControllerState

variable (s : ControllerState)

def refreshOvercommitPause (physical : Dict String Nat) : List CapacityDiff × ControllerState :=
  let reconciled := reconcileCapacity s.gpuClassCapacity physical
  (reconciled.1,
    { s with overcommittedGpuClasses := reconciled.2, physicalGpuCapacity := physical })

/-- What is reported, and the state after; `none` where the nodes could not be listed. -/
def runCapacityAudit : Option (Dict String Nat) → List CapacityDiff × ControllerState
  | none => ([], s)
  | some physical => s.refreshOvercommitPause physical

/-- How many of the pending candidates of a class are counted. -/
def waiting (label : String) (counted : OnDemandCandidate → Bool) : Nat :=
  ((s.ondemandCandidates.values.map s.candidate).filter fun c =>
    c.gpuClassLabel = label && counted c).length

end ControllerState

structure OnDemandGate where
  label : String
  guard : Nat
  reason : String
  since : Instant
  waiting : Nat
  appGpus : Option Nat := none
  physGpus : Option Nat := none
  stuckPods : List String := []
  deriving DecidableEq, Repr

def OnDemandGate.key (gate : OnDemandGate) : String × Nat := (gate.label, gate.guard)

/-- The state, with what only the warnings read of it. -/
structure GateState where
  controller : ControllerState := {}
  stuckHolderPods : Dict String (List String) := ∅
  ondemandGateSince : Dict (String × Nat) Instant := ∅

namespace GateState

variable (g : GateState)

/-- `_refresh_node_feasibility`, with the pods by which guard 3 judged. -/
def refreshNodeFeasibility (config : Config) (snapshot : List Pod) (takenAt : Instant)
    (nodes : Option NodeSnapshot) : GateState :=
  let refreshed := g.controller.refreshNodeFeasibility config snapshot takenAt nodes
  let stuck := snapshot.filter (refreshed.stuckHolder nodes.isSome)
  { g with
    controller := refreshed
    stuckHolderPods :=
      if config.ondemandLeaseEnabled then
        Dict.ofList ((stuck.map (·.gpuClass)).dedup.map fun gpuClass =>
          (gpuClass, (stuck.filter (·.gpuClass = gpuClass)).map fun p => p.ns ++ "." ++ p.name))
      else g.stuckHolderPods }

/-- Guard 1b: no node of the class can be scheduled on. -/
def noNodeGates (now : Instant) : List OnDemandGate :=
  g.controller.classNodeCounts.entries.filterMap fun e =>
    if e.2 = 0 then
      some { label := e.1, guard := 1, reason := "no_class_nodes", since := now,
             waiting := g.controller.waiting e.1 fun _ => true }
    else none

/-- Guard 3: pods admitted to the class are stuck. -/
def stuckHolderGates (now : Instant) : List OnDemandGate :=
  (g.controller.stuckHolderGpuClasses.sort (· ≤ ·)).map fun label =>
    { label := label, guard := 3, reason := "stuck_holder_interlock", since := now,
      waiting := g.controller.waiting label fun _ => true,
      stuckPods := ((g.stuckHolderPods.get? label).getD []).insertionSort (· ≤ ·) }

/-- Guard 4: the app counts more GPUs of the class than there are. -/
def overcommitGates (now : Instant) (overcommitFit : Bool) : List OnDemandGate :=
  (g.controller.overcommittedGpuClasses.sort (· ≤ ·)).filterMap fun label =>
    let appGpus := g.controller.gpuClassCapacity.get? label
    let physGpus := g.controller.physicalGpuCapacity.get? label
    if ¬ overcommitFit then
      some { label := label, guard := 4, reason := "class_overcommitted", since := now,
             waiting := g.controller.waiting label fun c => !c.bestEffort, appGpus, physGpus }
    else
      let held := g.controller.waiting label fun c => c.heldByOvercommit
      if held ≠ 0 then
        some { label := label, guard := 4, reason := "overcommit_no_fit", since := now,
               waiting := held, appGpus, physGpus }
      else none

/-- The gates in force, dated `now`, in the order they are come upon. -/
def gatesInForce (now : Instant) (overcommitFit : Bool) : List OnDemandGate :=
  g.noNodeGates now ++ g.stuckHolderGates now ++ g.overcommitGates now overcommitFit

/-- `add` of `plan_ondemand_gates`: a gate which is seen for the first time is dated as it comes. -/
def addGate (planned : Dict (String × Nat) Instant × List OnDemandGate) (gate : OnDemandGate) :
    Dict (String × Nat) Instant × List OnDemandGate :=
  let since := if gate.key ∈ planned.1 then planned.1 else planned.1.set gate.key gate.since
  (since, planned.2 ++ [{ gate with since := (since.get? gate.key).getD gate.since }])

/-- What is warned of; a gate no longer in force is struck out. -/
def planOndemandGates (now : Instant) (overcommitFit : Bool) : List OnDemandGate × GateState :=
  let planned := (g.gatesInForce now overcommitFit).foldl addGate (g.ondemandGateSince, [])
  let live := planned.2.map (·.key)
  (planned.2.insertionSort fun a b => toLex a.key ≤ toLex b.key,
    { g with ondemandGateSince := planned.1.filter fun key _ => key ∈ live })

end GateState

/-- Guard 4 is put to a candidate, for the duration of its ask. -/
def ControllerState.judgeOvercommit (s : ControllerState) (config : Config) (ref : Ref)
    (durationSeconds : Nat) (now : Instant) : ControllerState :=
  if s.overcommitHolds config (s.candidate ref) durationSeconds now then
    s.modifyCandidate ref fun c => { c with heldByOvercommit := true, nextAttemptAt := shortRetryAt now }
  else s

/-- The candidates of `nexts`, each held by guard 4 just when it was; a new one is not. -/
def keepHolds : List OnDemandCandidate → List OnDemandCandidate → List OnDemandCandidate
  | olds, [] => olds
  | [], next :: nexts => { next with heldByOvercommit := false } :: keepHolds [] nexts
  | old :: olds, next :: nexts =>
    { next with heldByOvercommit := old.heldByOvercommit } :: keepHolds olds nexts

/-- What the gates go by comes about through these. -/
inductive GateMove
  /-- A fetch or a push. -/
  | installed (active : List ReservationResponse) (maps : GpuClassMaps) (now : Instant)
  | audited (physical : Option (Dict String Nat))
  /-- At startup, and at every tick of the queue. -/
  | refreshed (config : Config) (snapshot : List Pod) (takenAt : Instant)
      (nodes : Option NodeSnapshot)
  | warned (now : Instant) (overcommitFit : Bool)
  /-- A preflight of the candidate has read the time. -/
  | preflight (ref : Ref)
  /-- In its preflight, or once more before its grant. -/
  | judged (config : Config) (ref : Ref) (durationSeconds : Nat) (now : Instant)
  /-- The rest of the program, which assigns none of the fields the gates go by. -/
  | elsewhere (next : ControllerState)

def GateState.apply (g : GateState) : GateMove → GateState
  | .installed active maps now =>
    { g with controller := g.controller.installReservations active maps now }
  | .audited physical => { g with controller := (g.controller.runCapacityAudit physical).2 }
  | .refreshed config snapshot takenAt nodes => g.refreshNodeFeasibility config snapshot takenAt nodes
  | .warned now overcommitFit => (g.planOndemandGates now overcommitFit).2
  | .preflight ref =>
    { g with
      controller := g.controller.modifyCandidate ref fun c =>
        { c with heldByOvercommit := false, heldByNodeFit := false } }
  | .judged config ref durationSeconds now =>
    { g with controller := g.controller.judgeOvercommit config ref durationSeconds now }
  | .elsewhere next =>
    { g with
      controller := { next with
        candidates := ⟨keepHolds g.controller.candidates.cells next.candidates.cells⟩
        gpuClassIds := g.controller.gpuClassIds
        gpuClassCapacity := g.controller.gpuClassCapacity
        overcommittedGpuClasses := g.controller.overcommittedGpuClasses
        physicalGpuCapacity := g.controller.physicalGpuCapacity
        stuckHolderGpuClasses := g.controller.stuckHolderGpuClasses
        classNodeCounts := g.controller.classNodeCounts } }

def gateRun (moves : List GateMove) : GateState := moves.foldl GateState.apply {}

end GpuReservation.Model
