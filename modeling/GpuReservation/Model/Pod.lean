import GpuReservation.Model.Reservation
import Mathlib.Data.Finset.Dedup

/-!
# Pods, as `k8s_client.py` reads them

A booking reference is kept as the reservation id it encodes: `make_booking_reference` and
`parse_booking_reference` are a round trip, and a text which does not parse reads as none.
-/

namespace GpuReservation.Model

open GpuReservation.Library

abbrev Uid := String

inductive Phase
  | pending
  | running
  | succeeded
  | failed
  | unknown
  /-- No phase reported yet. -/
  | absent
  deriving DecidableEq, Repr, Inhabited

/-- `TERMINAL_PHASES`. -/
def Phase.isTerminal (p : Phase) : Bool := p = .succeeded || p = .failed

structure Toleration where
  key : Option String
  operator : Option String := none
  value : Option String := none
  effect : Option String := none
  tolerationSeconds : Option Int := none
  deriving DecidableEq, Repr, Inhabited

/-- What guard 1 reads off a `PodScheduled` message: the resources it names as insufficient, the
trailing punctuation stripped, whether it counts an untolerated taint, and the taint keys named. -/
structure UnschedulableMessage where
  insufficient : List String := []
  untoleratedTaint : Bool := false
  namedTaints : List String := []
  deriving DecidableEq, Repr, Inhabited

/-- The `PodScheduled` condition: `message` is absent where the text is empty. -/
structure PodScheduled where
  statusFalse : Bool
  unschedulable : Bool := false
  message : Option UnschedulableMessage := none
  deriving DecidableEq, Repr, Inhabited

inductive Operator
  | inSet
  | notInSet
  | labelExists
  | doesNotExist
  | gt
  | lt
  deriving DecidableEq, Repr, Inhabited

structure NodeRequirement where
  key : String
  operator : Operator
  values : List String := []
  deriving DecidableEq, Repr, Inhabited

/-- `_GO_INT_RE` and `int()` together: an optional sign and one or more decimal digits. -/
def goInt? (s : String) : Option Int :=
  let digits? (cs : List Char) : Option Nat :=
    if cs ≠ [] ∧ cs.all (fun c => '0' ≤ c ∧ c ≤ '9') then
      some (cs.foldl (fun n c => 10 * n + (c.toNat - '0'.toNat)) 0)
    else none
  match s.toList with
  | '-' :: cs => (digits? cs).map fun n => -(n : Int)
  | '+' :: cs => (digits? cs).map fun n => (n : Int)
  | cs => (digits? cs).map fun n => (n : Int)

def NodeRequirement.matches (r : NodeRequirement) (value : Option String) : Bool :=
  match r.operator with
  | .inSet => value.any (· ∈ r.values)
  | .notInSet => value.all (· ∉ r.values)
  | .labelExists => value.isSome
  | .doesNotExist => value.isNone
  | .gt =>
    match value.bind goInt?, r.values with
    | some label, [v] => (goInt? v).any fun bound => label > bound
    | _, _ => false
  | .lt =>
    match value.bind goInt?, r.values with
    | some label, [v] => (goInt? v).any fun bound => label < bound
    | _, _ => false

structure NodeSelectorTerm where
  matchExpressions : List NodeRequirement := []
  matchFields : List NodeRequirement := []
  deriving DecidableEq, Repr, Inhabited

/-- An empty term matches no node. -/
def NodeSelectorTerm.matches (t : NodeSelectorTerm) (nodeName : String)
    (labels : Dict String String) : Bool :=
  (t.matchExpressions ≠ [] || t.matchFields ≠ []) &&
    t.matchExpressions.all (fun r => r.matches (labels.get? r.key)) &&
    t.matchFields.all fun r => r.matches (some nodeName)

structure NodePlacement where
  nodeSelector : List (String × String) := []
  affinityTerms : Option (List NodeSelectorTerm) := none
  deriving DecidableEq, Repr, Inhabited

def NodePlacement.matches (p : NodePlacement) (nodeName : String)
    (labels : Dict String String) : Bool :=
  p.nodeSelector.all (fun kv => labels.get? kv.1 = some kv.2) &&
    match p.affinityTerms with
    | none => true
    | some terms => terms.any fun t => t.matches nodeName labels

def NodePlacement.matchingNodes (p : NodePlacement) (nodeNames : List String)
    (labelsByNode : Dict String (Dict String String)) : Finset String :=
  (nodeNames.filter fun n => p.matches n ((labelsByNode.get? n).getD ∅)).toFinset

/-- A job-input annotation which is ignored, its value as written. -/
structure AnnotationProblem where
  annotation : String
  value : String
  reason : String
  deriving DecidableEq, Repr, Inhabited

/-- One pod object, with what the controller reads of it. -/
structure Pod where
  uid : Uid
  ns : String
  name : String
  gpuClass : String
  gpuCount : Nat
  phase : Phase := .pending
  /-- `metadata.deletionTimestamp` is set. -/
  terminating : Bool := false
  nodeName : Option String := none
  tolerations : List Toleration := []
  bookingReference : Option Nat := none
  podScheduled : Option PodScheduled := none
  /-- The value of the `REQUIRED_GROUP_LABEL` label, the default group standing in. -/
  groupLabel : Option String := none
  placement : Option NodePlacement := none
  createdAt : Option Instant := none
  schedulingGates : List String := []
  /-- `galends/minimum-runtime-seconds`, where it reads as a positive number. -/
  minRuntimeSeconds : Option Nat := none
  /-- `galends/runtime-guarantee` is `none`. -/
  declinesGuarantee : Bool := false
  /-- The group a lease ask would carry: the pod's own, the default group standing in. -/
  usageGroup : Option String := none
  usageGroupSource : Option String := none
  /-- `galends/termination-warning-at`, parsed. -/
  terminationWarningAt : Option Instant := none
  /-- Its text is not one which `utc_iso` writes. -/
  terminationWarningForeign : Bool := false
  terminationWarningRisk : Option String := none
  terminationWarningMessage : Option String := none
  /-- `galends/guaranteed-until`, parsed. -/
  guaranteedUntil : Option Instant := none
  annotationProblems : List AnnotationProblem := []
  hasUsageGroupAnnotation : Bool := false
  deriving DecidableEq, Repr, Inhabited

/-- `MIN_RUNTIME_ANNOTATION`. -/
def minRuntimeAnnotation : String := "galends/minimum-runtime-seconds"

/-- `RUNTIME_GUARANTEE_ANNOTATION`. -/
def runtimeGuaranteeAnnotation : String := "galends/runtime-guarantee"

/-- `TOLERATION_KEY`. -/
def tolerationKey : String := "gpu-class-reservation"

def podHasToleration (pod : Pod) (key value effect : String) : Bool :=
  pod.tolerations.any fun t => t.key = some key && t.value = some value && t.effect = some effect

def podHasAnyReservationToleration (pod : Pod) (key : String) : Bool :=
  pod.tolerations.any fun t => t.key = some key

def Pod.scheduledFalse (pod : Pod) : Bool := pod.podScheduled.any (·.statusFalse)

/-- Guard 1a.  `none` is "no verdict yet". -/
def isGpuGatedPending (pod : Pod) (taintKey : String) : Option Bool :=
  if pod.phase ≠ .pending then none
  else match pod.podScheduled with
    | none => none
    | some c =>
      if ¬ c.statusFalse ∨ ¬ c.unschedulable then none
      else match c.message with
        | none => none
        | some m =>
          if m.insufficient.any (· ≠ "nvidia.com/gpu") then some false
          else if m.insufficient.contains "nvidia.com/gpu" then some true
          else if ¬ m.untoleratedTaint then some false
          else if m.namedTaints ≠ [] ∧ taintKey ∉ m.namedTaints then some false
          else some true

/-- The tolerations `apply_toleration` writes: those of the pod it was given, and one for the
class. -/
def patchedTolerations (pod : Pod) (tolKey tolValue : String) : List Toleration :=
  pod.tolerations ++
    [{ key := some tolKey, operator := some "Equal", value := some tolValue,
       effect := some "NoSchedule" }]

end GpuReservation.Model
