import GpuReservation.Model.Pod
import Mathlib.Data.List.Sort

/-!
# Node placement

How a pod's node selector and required node affinity are read off its spec, and how `matches` evaluates
them where `int()` may raise.
-/

namespace GpuReservation.Model

open GpuReservation.Library

/-- An entry of `matchExpressions` or `matchFields`, as the client library returns it. -/
structure RawRequirement where
  key : Option String := none
  operator : Option String := none
  values : Option (List String) := none
  deriving DecidableEq

structure RawTerm where
  matchExpressions : Option (List RawRequirement) := none
  matchFields : Option (List RawRequirement) := none
  deriving DecidableEq

/-- What `get_pod_node_placement` reads of a pod spec; `required` is the list of terms of the required
node affinity, if the pod has one. -/
structure PlacementSpec where
  nodeSelector : Option (Dict String String) := none
  required : Option (Option (List RawTerm)) := none
  deriving DecidableEq

def Operator.text : Operator → String
  | .inSet => "In"
  | .notInSet => "NotIn"
  | .labelExists => "Exists"
  | .doesNotExist => "DoesNotExist"
  | .gt => "Gt"
  | .lt => "Lt"

/-- `_LABEL_OPERATORS`. -/
def labelOperators : List Operator := [.inSet, .notInSet, .labelExists, .doesNotExist, .gt, .lt]

/-- `_FIELD_OPERATORS`. -/
def fieldOperators : List Operator := [.inSet, .notInSet]

/-- `_NODE_NAME_FIELD`. -/
def nodeNameField : String := "metadata.name"

/-- One entry of the list; `none` where it cannot be evaluated. -/
def nodeRequirement (operators : List Operator) (key : Option String) (r : RawRequirement) :
    Option NodeRequirement :=
  match r.operator.bind (fun text => operators.find? fun op => op.text = text), r.key with
  | some operator, some reqKey =>
    if reqKey = "" || key.any (reqKey ≠ ·) then none
    else some { key := reqKey, operator, values := r.values.getD [] }
  | _, _ => none

def nodeRequirements (raw : Option (List RawRequirement)) (operators : List Operator)
    (key : Option String := none) : Option (List NodeRequirement) :=
  (raw.getD []).mapM (nodeRequirement operators key)

def nodeSelectorTerm (term : RawTerm) : Option NodeSelectorTerm :=
  match nodeRequirements term.matchExpressions labelOperators,
    nodeRequirements term.matchFields fieldOperators (some nodeNameField) with
  | some expressions, some fields => some { matchExpressions := expressions, matchFields := fields }
  | _, _ => none

/-- The pairs of a selector in the order of the keys, which are distinct. -/
def sortedItems (selector : Dict String String) : List (String × String) :=
  selector.entries.insertionSort fun a b => a.1 ≤ b.1

def getPodNodePlacement (spec : PlacementSpec) : Option NodePlacement :=
  let selector := spec.nodeSelector.getD ∅
  if selector.entries = [] && spec.required.isNone then none
  else
    match spec.required with
    | none => some { nodeSelector := sortedItems selector }
    | some terms =>
      ((terms.getD []).mapM nodeSelectorTerm).map fun digested =>
        { nodeSelector := sortedItems selector, affinityTerms := some digested }

/-- So many decimal digits `int()` takes at most. -/
def maxStrDigits : Nat := 4300

/-- `int()` raises: the sign does not count, leading zeros do. -/
def tooLong (s : String) : Bool :=
  maxStrDigits < (s.toList.filter fun c => '0' ≤ c ∧ c ≤ '9').length

/-- `Gt` and `Lt`; `none` where `int()` raises. -/
def compareInts (compare : Int → Int → Bool) (value : Option String) (values : List String) :
    Option Bool :=
  match value, values with
  | some v, [b] =>
    match goInt? v, goInt? b with
    | some label, some bound => if tooLong v || tooLong b then none else some (compare label bound)
    | _, _ => some false
  | _, _ => some false

/-- `NodeRequirement.matches`, and whether it returns. -/
def NodeRequirement.matches? (r : NodeRequirement) (value : Option String) : Option Bool :=
  match r.operator with
  | .gt => compareInts (fun label bound => label > bound) value r.values
  | .lt => compareInts (fun label bound => label < bound) value r.values
  | _ => some (r.matches value)

def NodeSelectorTerm.matches? (t : NodeSelectorTerm) (nodeName : String)
    (labels : Dict String String) : Option Bool :=
  if t.matchExpressions = [] && t.matchFields = [] then some false
  else do
    if ← t.matchExpressions.allM fun r => r.matches? (labels.get? r.key) then
      t.matchFields.allM fun r => r.matches? (some nodeName)
    else some false

def NodePlacement.matches? (p : NodePlacement) (nodeName : String) (labels : Dict String String) :
    Option Bool :=
  if p.nodeSelector.any (fun kv => labels.get? kv.1 ≠ some kv.2) then some false
  else
    match p.affinityTerms with
    | none => some true
    | some terms => terms.anyM fun t => t.matches? nodeName labels

end GpuReservation.Model
