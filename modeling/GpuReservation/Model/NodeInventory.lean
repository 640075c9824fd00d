import GpuReservation.Model.Manifests

/-!
# The nodes, as the API server lists them

`snapshot_node_gpu_inventory`: the GPUs of each class, node by node, and the labels of the nodes counted.
-/

namespace GpuReservation.Model

open GpuReservation.Library

structure V1Taint where
  key : String
  value : Option String := none
  deriving DecidableEq

structure V1NodeCondition where
  type : Option String
  status : Option String
  deriving DecidableEq

structure V1Node where
  name : String
  labels : Option (Dict String String) := none
  annotations : Option (Dict String String) := none
  deletionTimestamp : Option Instant := none
  unschedulable : Option Bool := none
  taints : Option (List V1Taint) := none
  conditions : Option (List V1NodeCondition) := none
  allocatable : Option (Dict String String) := none
  deriving DecidableEq

/-- `FORCE_NODE_CAPACITY`. -/
def forceNodeCapacity : String := "galends/force-node-capacity"

/-- `node_exclusion_reason`: a node without a `Ready` condition is kept. -/
def nodeExclusionReason (node : V1Node) : Option String :=
  if node.unschedulable = some true then some "cordoned"
  else if node.deletionTimestamp.isSome then some "deleting"
  else match (node.conditions.getD []).find? (·.type = some "Ready") with
    | none => none
    | some condition => if condition.status = some "True" then none else some "not_ready"

/-- The classes a node is tainted for, each once. -/
def nodeClasses (taintKey : String) (node : V1Node) : List String :=
  (((node.taints.getD []).filter (·.key = taintKey)).filterMap fun t => t.value.filter (· ≠ "")).dedup

/-- The GPUs of each class, node by node, and the labels of the nodes. -/
structure NodeGpuInventory where
  inventory : Dict String (Dict String Int) := ∅
  labels : Dict String (Dict String String) := ∅

/-- The same in naturals, which the planners and the node accounting count in. -/
def NodeGpuInventory.inNaturals (nodes : NodeGpuInventory) : NodeSnapshot where
  inventory := nodes.inventory.mapValues fun _ perNode => perNode.mapValues fun _ gpus => gpus.toNat
  labels := nodes.labels

section Inventory

variable (rules : TextRules) (taintKey : String)

/-- `get_node_forced_gpu_capacity`: zero is a capacity, a negative number is none. -/
def getNodeForcedGpuCapacity (node : V1Node) : Option Int :=
  match (node.annotations.getD ∅).get? forceNodeCapacity with
  | none => none
  | some raw =>
    let text := stripBlanks rules.chars.blank raw.toList
    if text = [] then none
    else match rules.chars.int? maxStrDigits text with
      | none => none
      | some value => if value < 0 then none else some value

/-- The GPUs the kubelet reports; a text which is no number counts nothing. -/
def allocatableGpus (node : V1Node) : Int :=
  (rules.int? (((node.allocatable.getD ∅).get? "nvidia.com/gpu").getD "0")).getD 0

def nodeGpus (node : V1Node) : Int := (getNodeForcedGpuCapacity rules node).getD (allocatableGpus rules node)

/-- One node of the LIST. -/
def recordNode (acc : NodeGpuInventory) (node : V1Node) : NodeGpuInventory :=
  let classes := nodeClasses taintKey node
  if classes = [] then acc
  else if (nodeExclusionReason node).isSome then acc
  else
    { inventory := classes.foldl (fun inventory gpuClass =>
        inventory.set gpuClass (((inventory.get? gpuClass).getD ∅).set node.name (nodeGpus rules node)))
        acc.inventory
      labels := acc.labels.set node.name (node.labels.getD ∅) }

def snapshotNodeGpuInventory (nodes : List V1Node) : NodeGpuInventory :=
  nodes.foldl (recordNode rules taintKey) {}

def snapshotNodeGpuCapacity (nodes : List V1Node) : Dict String Int :=
  (snapshotNodeGpuInventory rules taintKey nodes).inventory.mapValues fun _ perNode => perNode.values.sum

end Inventory

end GpuReservation.Model
