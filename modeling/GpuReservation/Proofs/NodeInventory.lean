import GpuReservation.Model.NodeInventory
import GpuReservation.Proofs.Manifests
import GpuReservation.Proofs.NodeFit

/-!
# What the node inventory counts

The inventory of a LIST holds for each class the nodes which are tainted for it and not excluded, each with
the GPUs an operator forced on it or else the kubelet reports.  The labels are those of exactly these nodes,
so the accounting of guard 5 never meets a node whose labels it does not know.
-/

namespace GpuReservation.Proofs

open Library Model

/-- Some keys, each met once, are given what is computed of what they held. -/
lemma get?_foldl_update {κ υ : Type*} [DecidableEq κ] (f : Option υ → υ) {keys : List κ}
    (hkeys : keys.Nodup) (d : Dict κ υ) (k : κ) :
    (keys.foldl (fun d k => d.set k (f (d.get? k))) d).get? k =
      if k ∈ keys then some (f (d.get? k)) else d.get? k := by
  induction keys generalizing d with
  | nil => rfl
  | cons k' keys ih =>
    obtain ⟨hnot, hkeys⟩ := List.nodup_cons.mp hkeys
    rw [List.foldl_cons, ih hkeys, Dict.get?_set]
    by_cases hk : k = k'
    · subst hk
      simp [hnot]
    · simp [hk]

section Inventory

variable (rules : TextRules) (taintKey : String)

/-- The node is counted for the class. -/
def countsNode (gpuClass : String) (node : V1Node) : Bool :=
  gpuClass ∈ nodeClasses taintKey node && (nodeExclusionReason node).isNone

/-- The node is counted for some class. -/
def recordsNode (node : V1Node) : Bool :=
  nodeClasses taintKey node ≠ [] && (nodeExclusionReason node).isNone

lemma nodup_nodeClasses (node : V1Node) : (nodeClasses taintKey node).Nodup := List.nodup_dedup _

/-- What one node adds to a class. -/
lemma get?_recordNode (acc : NodeGpuInventory) (node : V1Node) (gpuClass : String) :
    (recordNode rules taintKey acc node).inventory.get? gpuClass =
      if countsNode taintKey gpuClass node then
        some (((acc.inventory.get? gpuClass).getD ∅).set node.name (nodeGpus rules node))
      else acc.inventory.get? gpuClass := by
  unfold recordNode countsNode
  dsimp only
  split
  · rename_i hclasses
    simp [hclasses]
  · split
    · rename_i hexcluded
      simp [← Option.not_isSome, hexcluded]
    · rename_i hexcluded
      have hupdate := get?_foldl_update
        (fun held : Option (Dict String Int) => (held.getD ∅).set node.name (nodeGpus rules node))
        (nodup_nodeClasses taintKey node) acc.inventory gpuClass
      refine hupdate.trans (if_congr ?_ rfl rfl)
      simp [← Option.not_isSome, hexcluded]

/-- The nodes of a class, in the order they were listed. -/
lemma get?_inventory (nodes : List V1Node) (gpuClass : String) :
    (snapshotNodeGpuInventory rules taintKey nodes).inventory.get? gpuClass =
      if nodes.filter (countsNode taintKey gpuClass) = [] then none
      else some (Dict.ofList ((nodes.filter (countsNode taintKey gpuClass)).map fun node =>
        (node.name, nodeGpus rules node))) := by
  induction nodes using List.reverseRecOn with
  | nil => rfl
  | append_singleton nodes node ih =>
    rw [snapshotNodeGpuInventory, List.foldl_append, List.foldl_cons, List.foldl_nil, get?_recordNode,
      ← snapshotNodeGpuInventory, ih, List.filter_append]
    by_cases hcounted : countsNode taintKey gpuClass node
    · have hofList : ∀ l : List (String × Int), ∀ e, Dict.ofList (l ++ [e]) = (Dict.ofList l).set e.1 e.2 := by
        intro l e
        simp [Dict.ofList]
      have hne : nodes.filter (countsNode taintKey gpuClass) ++ [node] ≠ [] :=
        List.append_ne_nil_of_right_ne_nil _ (List.cons_ne_nil node [])
      rw [if_pos hcounted, List.filter_cons_of_pos hcounted, List.filter_nil, if_neg hne,
        List.map_append, List.map_singleton, hofList]
      split
      · rename_i hnone
        rw [hnone]
        rfl
      · rfl
    · rw [if_neg hcounted, List.filter_cons_of_neg hcounted, List.filter_nil, List.append_nil]

lemma labels_snapshot (nodes : List V1Node) :
    (snapshotNodeGpuInventory rules taintKey nodes).labels =
      Dict.ofList ((nodes.filter (recordsNode taintKey)).map fun node => (node.name, node.labels.getD ∅)) := by
  induction nodes using List.reverseRecOn with
  | nil => rfl
  | append_singleton nodes node ih =>
    have hstep : ∀ acc : NodeGpuInventory, (recordNode rules taintKey acc node).labels =
        if recordsNode taintKey node then acc.labels.set node.name (node.labels.getD ∅) else acc.labels := by
      intro acc
      unfold recordNode recordsNode
      dsimp only
      split
      · rename_i hclasses
        simp [hclasses]
      · rename_i hclasses
        split
        · rename_i hexcluded
          simp [← Option.not_isSome, hexcluded]
        · rename_i hexcluded
          simp [← Option.not_isSome, hexcluded, hclasses]
    rw [snapshotNodeGpuInventory, List.foldl_append, List.foldl_cons, List.foldl_nil, hstep,
      ← snapshotNodeGpuInventory, ih, List.filter_append]
    by_cases hrecorded : recordsNode taintKey node
    · rw [if_pos hrecorded, List.filter_cons_of_pos hrecorded]
      simp [Dict.ofList]
    · rw [if_neg hrecorded, List.filter_cons_of_neg hrecorded, List.filter_nil, List.append_nil]

/-! The nodes of a LIST have names of their own. -/

variable {nodes : List V1Node} (hnames : (nodes.map (·.name)).Nodup)

include hnames

lemma get?_ofList_nodes {υ : Type} (p : V1Node → Bool) (f : V1Node → υ) {name : String} {v : υ} :
    (Dict.ofList ((nodes.filter p).map fun node => (node.name, f node))).get? name = some v ↔
      ∃ node ∈ nodes, node.name = name ∧ p node ∧ f node = v := by
  constructor
  · intro h
    obtain ⟨node, hnode, heq⟩ := List.mem_map.mp (Dict.mem_of_get?_ofList h)
    obtain ⟨hmem, hp⟩ := List.mem_filter.mp hnode
    cases heq
    exact ⟨node, hmem, rfl, hp, rfl⟩
  · rintro ⟨node, hmem, rfl, hp, rfl⟩
    rw [Dict.get?_ofList_filter_map hnames hmem p f, if_pos hp]

lemma inventory_eq_some_iff {gpuClass name : String} {gpus : Int} :
    ((snapshotNodeGpuInventory rules taintKey nodes).inventory.get? gpuClass).bind (·.get? name) =
        some gpus ↔
      ∃ node ∈ nodes, node.name = name ∧ countsNode taintKey gpuClass node ∧
        nodeGpus rules node = gpus := by
  rw [get?_inventory]
  split
  · rename_i hnone
    rw [List.filter_eq_nil_iff] at hnone
    simp only [Option.bind_none, reduceCtorEq, false_iff]
    rintro ⟨node, hmem, -, hcounted, -⟩
    exact hnone node hmem hcounted
  · exact get?_ofList_nodes hnames _ _

lemma labels_eq_some_iff {name : String} {labels : Dict String String} :
    (snapshotNodeGpuInventory rules taintKey nodes).labels.get? name = some labels ↔
      ∃ node ∈ nodes, node.name = name ∧ recordsNode taintKey node ∧ node.labels.getD ∅ = labels := by
  rw [labels_snapshot]
  exact get?_ofList_nodes hnames _ _

/-- The capacity of a class is the sum over the nodes counted for it. -/
lemma get?_capacity (gpuClass : String) :
    (snapshotNodeGpuCapacity rules taintKey nodes).get? gpuClass =
      if nodes.filter (countsNode taintKey gpuClass) = [] then none
      else some ((nodes.filter (countsNode taintKey gpuClass)).map (nodeGpus rules)).sum := by
  rw [snapshotNodeGpuCapacity, Dict.get?_mapValues, get?_inventory]
  split
  · rfl
  · have hkeys : (((nodes.filter (countsNode taintKey gpuClass)).map fun node =>
        (node.name, nodeGpus rules node)).map Prod.fst).Nodup := by
      rw [List.map_map]
      exact hnames.sublist (List.filter_sublist.map _)
    have hdict := Dict.ofList_entries ⟨_, hkeys⟩
    rw [Option.map_some, hdict, Dict.values, List.map_map]
    rfl

/-- Counts of which none is negative add up alike in naturals. -/
lemma gpuCapacityByClass_inNaturals (hgpus : ∀ node ∈ nodes, 0 ≤ nodeGpus rules node) :
    gpuCapacityByClass (snapshotNodeGpuInventory rules taintKey nodes).inNaturals.inventory =
      (snapshotNodeGpuCapacity rules taintKey nodes).mapValues fun _ gpus => gpus.toNat := by
  have hsum : ∀ l : List Int, (∀ n ∈ l, 0 ≤ n) → (l.map Int.toNat).sum = l.sum.toNat := by
    intro l hl
    induction l with
    | nil => rfl
    | cons n l ih =>
      have htail := List.sum_nonneg fun m hm => hl m (List.mem_cons_of_mem n hm)
      rw [List.map_cons, List.sum_cons, List.sum_cons, ih fun m hm => hl m (List.mem_cons_of_mem n hm),
        Int.toNat_add (hl n List.mem_cons_self) htail]
  rw [gpuCapacityByClass, NodeGpuInventory.inNaturals, snapshotNodeGpuCapacity, Dict.mapValues_mapValues,
    Dict.mapValues_mapValues]
  refine Dict.mapValues_congr fun gpuClass perNode hclass => ?_
  have hvalues : ((perNode.mapValues fun (_ : String) (gpus : Int) => gpus.toNat).values) =
      perNode.values.map Int.toNat := by
    simp [Dict.values, Dict.mapValues, Function.comp_def]
  rw [Dict.total, hvalues]
  refine hsum _ fun gpus hmem => ?_
  obtain ⟨name, hname⟩ := Dict.mem_values_iff.mp hmem
  have hcounted : ((snapshotNodeGpuInventory rules taintKey nodes).inventory.get? gpuClass).bind
      (·.get? name) = some gpus := by rw [hclass, Option.bind_some, hname]
  obtain ⟨node, hnode, -, -, rfl⟩ := (inventory_eq_some_iff rules taintKey hnames).mp hcounted
  exact hgpus node hnode

end Inventory

/-- What a LIST of nodes is counted as: for each class the nodes tainted for it and not excluded, each with
the GPUs forced on it or else reported; the labels are those of these nodes, and the capacity of a class is
what its nodes add up to, in naturals too where no node reports less than nothing. -/
theorem nodeInventory_counts (rules : TextRules) (taintKey : String) (nodes : List V1Node)
    (hnames : (nodes.map (·.name)).Nodup) :
    let snapshot := snapshotNodeGpuInventory rules taintKey nodes
    (∀ gpuClass name gpus,
      (snapshot.inventory.get? gpuClass).bind (·.get? name) = some gpus ↔
        ∃ node ∈ nodes, node.name = name ∧ gpuClass ∈ nodeClasses taintKey node ∧
          nodeExclusionReason node = none ∧
          (getNodeForcedGpuCapacity rules node).getD (allocatableGpus rules node) = gpus) ∧
      (∀ name, name ∈ snapshot.labels ↔
        ∃ gpuClass gpus, (snapshot.inventory.get? gpuClass).bind (·.get? name) = some gpus) ∧
      ((∀ node ∈ nodes, 0 ≤ nodeGpus rules node) →
        gpuCapacityByClass snapshot.inNaturals.inventory =
          (snapshotNodeGpuCapacity rules taintKey nodes).mapValues fun _ gpus => gpus.toNat) ∧
      ∀ gpuClass, ((snapshotNodeGpuCapacity rules taintKey nodes).get? gpuClass).getD 0 =
        ((nodes.filter fun node => gpuClass ∈ nodeClasses taintKey node &&
          (nodeExclusionReason node).isNone).map (nodeGpus rules)).sum := by
  intro snapshot
  refine ⟨fun gpuClass name gpus => ?_, fun name => ?_,
    gpuCapacityByClass_inNaturals rules taintKey hnames, fun gpuClass => ?_⟩
  · rw [inventory_eq_some_iff rules taintKey hnames]
    simp only [countsNode, nodeGpus, Bool.and_eq_true, decide_eq_true_eq, Option.isNone_iff_eq_none,
      and_assoc]
  · rw [Dict.mem_iff_get?]
    simp only [snapshot, labels_eq_some_iff rules taintKey hnames, inventory_eq_some_iff rules taintKey hnames]
    constructor
    · rintro ⟨labels, node, hmem, hname, hrecorded, -⟩
      rw [recordsNode, Bool.and_eq_true, decide_eq_true_iff] at hrecorded
      obtain ⟨gpuClass, hclass⟩ := List.exists_mem_of_ne_nil _ hrecorded.1
      refine ⟨gpuClass, _, node, hmem, hname, ?_, rfl⟩
      rw [countsNode, Bool.and_eq_true, decide_eq_true_iff]
      exact ⟨hclass, hrecorded.2⟩
    · rintro ⟨gpuClass, gpus, node, hmem, hname, hcounted, -⟩
      rw [countsNode, Bool.and_eq_true, decide_eq_true_iff] at hcounted
      refine ⟨_, node, hmem, hname, ?_, rfl⟩
      rw [recordsNode, Bool.and_eq_true, decide_eq_true_iff]
      exact ⟨List.ne_nil_of_mem hcounted.1, hcounted.2⟩
  · rw [get?_capacity rules taintKey hnames]
    change _ = ((nodes.filter (countsNode taintKey gpuClass)).map (nodeGpus rules)).sum
    split
    · rename_i hnone
      rw [hnone]
      rfl
    · rfl

section Run

/-- What changes the accounting of the nodes: a LIST of them, a snapshot of the pods, or one pod. -/
inductive NodeMove
  | listed (nodes : List V1Node)
  | rebuilt (pods : Dict Uid GpuPod) (takenAt : Instant)
  | noted (uid : Uid) (record : Option GpuPod) (now : Instant)

variable (rules : TextRules) (taintKey : String)

def NodeMove.update : NodeMove → NodeUpdate
  | listed nodes => .install (snapshotNodeGpuInventory rules taintKey nodes).inNaturals
  | rebuilt pods takenAt => .rebuild pods takenAt
  | noted uid record now => .set uid record now

def nodeRun (moves : List NodeMove) : ControllerState :=
  (moves.map (NodeMove.update rules taintKey)).foldl ControllerState.updateNodes {}

/-- The nodes of the last LIST. -/
def lastListed (moves : List NodeMove) : List V1Node :=
  (moves.reverse.findSome? fun | .listed nodes => some nodes | _ => none).getD []

lemma nodeRun_concat (moves : List NodeMove) (move : NodeMove) : nodeRun rules taintKey (moves ++ [move]) =
    (nodeRun rules taintKey moves).updateNodes (move.update rules taintKey) := by
  rw [nodeRun, List.map_append, List.foldl_append]
  rfl

lemma lastListed_concat (moves : List NodeMove) (move : NodeMove) : lastListed (moves ++ [move]) =
    match move with
    | .listed nodes => nodes
    | _ => lastListed moves := by
  rw [lastListed, List.reverse_append, List.reverse_singleton, List.singleton_append, List.findSome?_cons]
  cases move <;> rfl

lemma inventory_setGpuPod (s : ControllerState) (uid : Uid) (record : Option GpuPod) (now : Instant) :
    (s.setGpuPod uid record now).nodeInventory = s.nodeInventory ∧
      (s.setGpuPod uid record now).nodeLabels = s.nodeLabels := by
  obtain ⟨noted, rfl, hset⟩ := setGpuPod_cases s uid record now
  rw [hset]
  split <;> exact ⟨rfl, rfl⟩

/-- The maps are those of the last LIST, whatever became of the pods since. -/
lemma nodeRun_maps (moves : List NodeMove) : (nodeRun rules taintKey moves).nodeMapsDerived ∧
    (nodeRun rules taintKey moves).nodeInventory =
      (snapshotNodeGpuInventory rules taintKey (lastListed moves)).inNaturals.inventory ∧
    (nodeRun rules taintKey moves).nodeLabels =
      (snapshotNodeGpuInventory rules taintKey (lastListed moves)).labels := by
  induction moves using List.reverseRecOn with
  | nil => exact ⟨⟨rfl, rfl⟩, rfl, rfl⟩
  | append_singleton moves move ih =>
    rw [nodeRun_concat, lastListed_concat]
    refine ⟨nodeMapsDerived_updateNodes ih.1 _, ?_⟩
    cases move with
    | listed nodes => exact ⟨rfl, rfl⟩
    | rebuilt pods takenAt => exact ih.2
    | noted uid record now =>
      obtain ⟨hinventory, hlabels⟩ := inventory_setGpuPod (nodeRun rules taintKey moves) uid record now
      exact ⟨hinventory.trans ih.2.1, hlabels.trans ih.2.2⟩

/-- After any run of LISTs and of changes to the pods, the accounting knows just the nodes which the last
LIST has placeable GPUs on, each in every class it is tainted for.  On each it counts free what an operator
forced or the kubelet reported less what the recorded pods of the class hold there; and it knows the labels
of each. -/
theorem nodeRun_accounts (moves : List NodeMove)
    (hnames : ((lastListed moves).map (·.name)).Nodup)
    (hgpus : ∀ node ∈ lastListed moves, 0 ≤ nodeGpus rules node) :
    let s := nodeRun rules taintKey moves
    (∀ gpuClass name free, (classNodes s gpuClass).get? name = some free ↔
      ∃ node ∈ lastListed moves, node.name = name ∧ gpuClass ∈ nodeClasses taintKey node ∧
        nodeExclusionReason node = none ∧
        free = nodeGpus rules node - boundGpus s.gpuPods.values gpuClass name) ∧
      labelsKnown s := by
  intro s
  obtain ⟨⟨hfree, -⟩, hinventory, hlabels⟩ := nodeRun_maps rules taintKey moves
  have hnodes : ∀ gpuClass name free, (classNodes s gpuClass).get? name = some free ↔
      ∃ node ∈ lastListed moves, node.name = name ∧ gpuClass ∈ nodeClasses taintKey node ∧
        nodeExclusionReason node = none ∧
        free = nodeGpus rules node - boundGpus s.gpuPods.values gpuClass name := by
    intro gpuClass name free
    have hclass : (classNodes s gpuClass).get? name =
        (((snapshotNodeGpuInventory rules taintKey (lastListed moves)).inventory.get? gpuClass).bind
          (·.get? name)).map fun gpus : Int =>
            (gpus.toNat : Int) - boundGpus s.gpuPods.values gpuClass name := by
      rw [classNodes, hfree, nodeFreeFromPods, Dict.get?_mapValues, hinventory,
        NodeGpuInventory.inNaturals, Dict.get?_mapValues]
      cases (snapshotNodeGpuInventory rules taintKey (lastListed moves)).inventory.get? gpuClass with
      | none => rfl
      | some perNode =>
        rw [Option.map_some, Option.map_some, Option.getD_some, Option.bind_some,
          Dict.mapValues_mapValues]
        exact Dict.get?_mapValues _ perNode name
    rw [hclass, Option.map_eq_some_iff]
    simp only [inventory_eq_some_iff rules taintKey hnames, countsNode, Bool.and_eq_true,
      decide_eq_true_eq, Option.isNone_iff_eq_none]
    constructor
    · rintro ⟨gpus, ⟨node, hmem, hname, ⟨hclass, hkept⟩, rfl⟩, rfl⟩
      exact ⟨node, hmem, hname, hclass, hkept, by rw [Int.toNat_of_nonneg (hgpus node hmem)]⟩
    · rintro ⟨node, hmem, hname, hclass, hkept, rfl⟩
      exact ⟨_, ⟨node, hmem, hname, ⟨hclass, hkept⟩, rfl⟩, by rw [Int.toNat_of_nonneg (hgpus node hmem)]⟩
  refine ⟨hnodes, fun gpuClass name hname => ?_⟩
  obtain ⟨free, hget⟩ := Dict.mem_iff_get?.mp hname
  obtain ⟨node, hnode, hname, hclass, hkept, -⟩ := (hnodes gpuClass name free).mp hget
  have hrecorded : recordsNode taintKey node := by
    rw [recordsNode, hkept, Bool.and_eq_true, decide_eq_true_iff]
    exact ⟨List.ne_nil_of_mem hclass, rfl⟩
  rw [hlabels, Dict.mem_iff_get?]
  exact ⟨_, (labels_eq_some_iff rules taintKey hnames).mpr ⟨node, hnode, hname, hrecorded, rfl⟩⟩

end Run

/-- Two nodes of a class, one of them with its GPUs masked, and one which is cordoned. -/
def threeNodes : List V1Node :=
  let taints := some [{ key := "gpu-class-reservation", value := some "h100" }]
  [{ name := "n1", taints, allocatable := some (Dict.ofList [("nvidia.com/gpu", "8")]) },
   { name := "n2", taints, allocatable := some (Dict.ofList [("nvidia.com/gpu", "8")]),
     annotations := some (Dict.ofList [("galends/force-node-capacity", " 0 ")]) },
   { name := "n3", taints, allocatable := some (Dict.ofList [("nvidia.com/gpu", "8")]),
     unschedulable := some true }]

theorem nodeInventory_counts_threeNodes :
    ((snapshotNodeGpuCapacity plainRules tolerationKey threeNodes).get? "h100").getD 0 = 8 ∧
      ("n3" ∈ (snapshotNodeGpuInventory plainRules tolerationKey threeNodes).labels ↔ False) := by
  have hcounts := nodeInventory_counts plainRules tolerationKey threeNodes (by decide)
  refine ⟨(hcounts.2.2.2 "h100").trans (by decide), (hcounts.2.1 "n3").trans ?_⟩
  constructor
  · rintro ⟨gpuClass, gpus, h⟩
    obtain ⟨node, hnode, hname, -, hkept, -⟩ := (hcounts.1 gpuClass "n3" gpus).mp h
    simp only [threeNodes, List.mem_cons, List.not_mem_nil, or_false] at hnode
    rcases hnode with rfl | rfl | rfl
    · exact absurd hname (by decide)
    · exact absurd hname (by decide)
    · cases hkept
  · exact False.elim

/-- A pod of two GPUs is bound to the first node. -/
theorem nodeRun_accounts_twoBound :
    let s := nodeRun plainRules tolerationKey [.listed threeNodes, .noted "A" (some
      { ns := "ns", name := "a", gpuClass := "h100", gpuCount := 2, nodeName := some "n1" }) 0]
    (classNodes s "h100").get? "n1" = some 6 := by
  have haccounts := nodeRun_accounts plainRules tolerationKey [.listed threeNodes, .noted "A" (some
      { ns := "ns", name := "a", gpuClass := "h100", gpuCount := 2, nodeName := some "n1" }) 0]
    (by decide) (by decide)
  exact (haccounts.1 "h100" "n1" 6).mpr ⟨_, List.mem_cons_self, rfl, by decide, by decide, by decide⟩

end GpuReservation.Proofs
