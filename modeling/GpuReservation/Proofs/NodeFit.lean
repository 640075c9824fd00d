import GpuReservation.Proofs.NodeMaps
import GpuReservation.Model.OnDemand

/-!
# An ask which passes guard 5 finds a node

The claims of the pods which were admitted and are not bound yet may be bound to whatever nodes
their own placements allow.
-/

namespace GpuReservation.Proofs

open GpuReservation.Library GpuReservation.Model

/-- The nodes of a class, with the GPUs free on each. -/
def classNodes (s : ControllerState) (gpuClass : String) : Dict String Int :=
  (s.nodeFreeByNodeClass.get? gpuClass).getD ∅

/-- A pod of the class with this placement may be bound to the node. -/
def allowsNode (s : ControllerState) (gpuClass : String) (placement : Option NodePlacement)
    (node : String) : Prop :=
  node ∈ classNodes s gpuClass ∧
    ∀ p ∈ placement, p.matches node ((s.nodeLabels.get? node).getD ∅)

/-- The pods other than `uid` which are admitted and not bound are bound to nodes they allow; some
may stay unbound. -/
def bindsClaims (s : ControllerState) (uid : Uid) (bind : Uid → Option String) : Prop :=
  ∀ u p node, u ≠ uid → s.gpuPods.get? u = some p → p.nodeName = none → bind u = some node →
    allowsNode s p.gpuClass p.placement node

/-- The GPUs which are bound to a node so. -/
def boundTo (s : ControllerState) (uid : Uid) (bind : Uid → Option String) (node : String) : Nat :=
  s.gpuPods.sumBy fun u p =>
    if u ≠ uid ∧ p.nodeName = none ∧ bind u = some node then p.gpuCount else 0

/-- No node is in two classes. -/
def classesDisjoint (s : ControllerState) : Prop :=
  ∀ c c' node, node ∈ classNodes s c → node ∈ classNodes s c' → c = c'

/-- The labels of all nodes are known. -/
def labelsKnown (s : ControllerState) : Prop := ∀ c, ∀ node ∈ classNodes s c, node ∈ s.nodeLabels

section Placement

variable {placement : Option NodePlacement} {nodes : List String}
  {labels : Dict String (Dict String String)}

lemma mem_matchingNodes (p : NodePlacement) (node : String) :
    node ∈ p.matchingNodes nodes labels ↔
      node ∈ nodes ∧ p.matches node ((labels.get? node).getD ∅) := by
  rw [NodePlacement.matchingNodes, List.mem_toFinset, List.mem_filter]

/-- A placement which narrows the nodes allows those it is judged to. -/
lemma mem_placementNodes {allowed : Finset String}
    (h : placementNodes placement (some nodes) labels = some allowed) (node : String) :
    node ∈ allowed ↔
      node ∈ nodes ∧ ∀ p ∈ placement, p.matches node ((labels.get? node).getD ∅) := by
  cases placement with
  | none => cases h
  | some p =>
    rw [placementNodes] at h
    split at h
    · cases h
    · dsimp only at h
      split at h
      · cases h
      · rw [← Option.some_inj.mp h, mem_matchingNodes]
        simp

/-- A placement which narrows nothing allows every node. -/
lemma matches_of_placementNodes_none (hnodup : nodes.Nodup) (hlabels : ∀ node ∈ nodes, node ∈ labels)
    (h : placementNodes placement (some nodes) labels = none) {node : String} (hnode : node ∈ nodes) :
    ∀ p ∈ placement, p.matches node ((labels.get? node).getD ∅) := by
  rintro p rfl
  have hknown : ¬ nodes.any (fun n => decide (n ∉ labels)) = true := by
    rw [List.any_eq_true]
    rintro ⟨n, hn, hunknown⟩
    exact of_decide_eq_true hunknown (hlabels n hn)
  rw [placementNodes, if_neg hknown] at h
  dsimp only at h
  split at h
  · rename_i hcard
    rw [NodePlacement.matchingNodes, List.toFinset_card_of_nodup (hnodup.filter _),
      List.length_filter_eq_length_iff] at hcard
    exact hcard node hnode
  · cases h

end Placement

/-- The largest of some numbers is one of them, unless there are none. -/
lemma maxOr0_mem {l : List Int} (h : 0 < maxOr0 l) : maxOr0 l ∈ l := by
  rw [maxOr0] at h ⊢
  cases hmax : l.max? with
  | none =>
    rw [hmax] at h
    exact absurd h (lt_irrefl 0)
  | some m => exact List.max?_mem hmax

section Fit

variable {s : ControllerState}

lemma classNodes_of_some {gpuClass : String} {nodes : Dict String Int}
    (h : s.nodeFreeByNodeClass.get? gpuClass = some nodes) : classNodes s gpuClass = nodes := by
  rw [classNodes, h, Option.getD_some]

/-- A claim which may be bound to a node the ask may use counts against the ask. -/
lemma claimOverlaps_of_allowsNode {gpuClass node : String} {nodes : Dict String Int}
    (hnodes : s.nodeFreeByNodeClass.get? gpuClass = some nodes) {p : GpuPod}
    (hp : allowsNode s gpuClass p.placement node) {allowed : Option (Finset String)}
    (hallowed : ∀ names ∈ allowed, node ∈ names) :
    s.claimOverlaps gpuClass allowed p := by
  have hmem : node ∈ nodes.keys := by
    rw [← classNodes_of_some hnodes]
    exact hp.1
  unfold ControllerState.claimOverlaps
  rw [hnodes, Option.map_some]
  cases htheirs : placementNodes p.placement (some nodes.keys) s.nodeLabels with
  | none =>
    cases allowed with
    | none => rfl
    | some names =>
      have hne : names ≠ ∅ := Finset.ne_empty_of_mem (hallowed names rfl)
      simpa using hne
  | some theirs =>
    have hnode : node ∈ theirs := (mem_placementNodes htheirs node).mpr ⟨hmem, hp.2⟩
    cases allowed with
    | none =>
      have hne : theirs ≠ ∅ := Finset.ne_empty_of_mem hnode
      simpa using hne
    | some names =>
      have hne : theirs ∩ names ≠ ∅ :=
        Finset.ne_empty_of_mem (Finset.mem_inter.mpr ⟨hnode, hallowed names rfl⟩)
      simpa using hne

/-- The claims against an ask, claim by claim. -/
lemma nodeClaims_eq_sumBy (gpuClass : String) (allowed : Option (Finset String)) (uid : Uid) :
    s.nodeClaims gpuClass allowed uid = s.gpuPods.sumBy fun u p =>
      if u ≠ uid ∧ p.nodeName = none ∧ p.gpuClass = gpuClass ∧ s.claimOverlaps gpuClass allowed p
      then p.gpuCount else 0 := by
  rw [ControllerState.nodeClaims, Dict.sumBy, sum_map_filter]
  simp only [Bool.and_eq_true, decide_eq_true_eq, and_assoc]

/-- Whatever is bound to a node the ask may use was counted against it. -/
lemma boundTo_le_nodeClaims (hclasses : classesDisjoint s) {gpuClass node : String} {nodes : Dict String Int}
    (hnodes : s.nodeFreeByNodeClass.get? gpuClass = some nodes) (hnode : node ∈ nodes)
    {allowed : Option (Finset String)} (hallowed : ∀ names ∈ allowed, node ∈ names) {uid : Uid}
    {bind : Uid → Option String} (hbind : bindsClaims s uid bind) :
    boundTo s uid bind node ≤ s.nodeClaims gpuClass allowed uid := by
  rw [boundTo, nodeClaims_eq_sumBy]
  refine Dict.sumBy_le_sumBy fun u p hu => ?_
  by_cases hbound : u ≠ uid ∧ p.nodeName = none ∧ bind u = some node
  · have hallows : allowsNode s p.gpuClass p.placement node :=
      hbind u p node hbound.1 hu hbound.2.1 hbound.2.2
    have hclass : p.gpuClass = gpuClass :=
      hclasses _ _ node hallows.1 (by rw [classNodes_of_some hnodes]; exact hnode)
    have hcounted : s.claimOverlaps gpuClass allowed p :=
      claimOverlaps_of_allowsNode hnodes (hclass ▸ hallows) hallowed
    rw [if_pos hbound, if_pos ⟨hbound.1, hbound.2.1, hclass, hcounted⟩]
  · rw [if_neg hbound]
    exact Nat.zero_le _

/-- What guard 5 measures: the largest opening is on a node the ask may use, and the claims are those
against the nodes it may use. -/
lemma nodeFit_measures (hderived : s.nodeMapsDerived) (hlabels : labelsKnown s) {uid : Uid}
    {c : OnDemandCandidate} {placement : Option NodePlacement} {fit : ControllerState.NodeFit}
    (hfit : s.nodeFit uid c placement = some fit) (hopen : 0 < fit.largestFree) :
    ∃ nodes node allowed, s.nodeFreeByNodeClass.get? c.gpuClassLabel = some nodes ∧
      nodes.get? node = some fit.largestFree ∧ allowsNode s c.gpuClassLabel placement node ∧
      (∀ names ∈ allowed, node ∈ names) ∧ fit.claimed = s.nodeClaims c.gpuClassLabel allowed uid := by
  unfold ControllerState.nodeFit at hfit
  dsimp only at hfit
  have hlargest : s.nodeFreeByClass.get? c.gpuClassLabel =
      (s.nodeFreeByNodeClass.get? c.gpuClassLabel).map fun nodes => maxOr0 nodes.values := by
    rw [hderived.2]
    exact Dict.get?_mapValues _ _ _
  cases hnodes : s.nodeFreeByNodeClass.get? c.gpuClassLabel with
  | none =>
    -- nothing is known of the class
    have hnone : placementNodes placement none s.nodeLabels = none := by cases placement <;> rfl
    rw [hnodes, Option.map_none, hnone] at hfit
    rw [hnodes, Option.map_none] at hlargest
    rw [hlargest] at hfit
    dsimp only at hfit
    split at hfit <;> cases hfit
  | some nodes =>
    rw [hnodes, Option.map_some] at hfit
    cases hallowed : placementNodes placement (some nodes.keys) s.nodeLabels with
    | some allowed =>
      rw [hallowed] at hfit
      obtain rfl := Option.some_inj.mp hfit
      obtain ⟨e, he, hfree⟩ := List.mem_filterMap.mp (maxOr0_mem hopen)
      split at hfree
      · rename_i hmem
        have hget : nodes.get? e.1 = some e.2 := Dict.get?_eq_some_iff.mpr he
        refine ⟨nodes, e.1, some allowed, rfl, hget.trans hfree, ⟨?_, ?_⟩, ?_, rfl⟩
        · rw [classNodes_of_some hnodes]
          exact Dict.mem_iff_get?.mpr ⟨e.2, hget⟩
        · exact ((mem_placementNodes hallowed e.1).mp hmem).2
        · intro names hnames
          cases hnames
          exact hmem
      · cases hfree
    | none =>
      rw [hnodes, Option.map_some] at hlargest
      rw [hallowed, hlargest] at hfit
      dsimp only at hfit
      split at hfit
      · obtain rfl := Option.some_inj.mp hfit
        obtain ⟨node, hnode⟩ := Dict.mem_values_iff.mp (maxOr0_mem hopen)
        have hmem : node ∈ nodes := Dict.mem_iff_get?.mpr ⟨_, hnode⟩
        refine ⟨nodes, node, none, rfl, hnode, ⟨?_, ?_⟩, ?_, rfl⟩
        · rw [classNodes_of_some hnodes]
          exact hmem
        · refine matches_of_placementNodes_none nodes.nodup (fun n hn => ?_) hallowed hmem
          exact hlabels c.gpuClassLabel n (by rw [classNodes_of_some hnodes]; exact hn)
        · intro names hnames
          cases hnames
      · cases hfit

end Fit

/-- However the claims are bound, an ask which guard 5 applies to and lets through is left a node it
allows with the GPUs it asks for. -/
theorem nodeFit_leavesRoom (s : ControllerState) (hderived : s.nodeMapsDerived)
    (hclasses : classesDisjoint s) (hlabels : labelsKnown s) (uid : Uid) (c : OnDemandCandidate)
    (placement : Option NodePlacement) (hasks : 1 ≤ c.gpuRequested)
    (happlies : (s.nodeFit uid c placement).isSome) (hpasses : s.nodeFitHolds uid c placement = none)
    (bind : Uid → Option String) (hbind : bindsClaims s uid bind) :
    ∃ node free, (classNodes s c.gpuClassLabel).get? node = some free ∧
      allowsNode s c.gpuClassLabel placement node ∧
      (c.gpuRequested : Int) ≤ free - boundTo s uid bind node := by
  obtain ⟨fit, hfit⟩ := Option.isSome_iff_exists.mp happlies
  have hfits : (c.gpuRequested : Int) ≤ fit.largestFree - fit.claimed := by
    rw [ControllerState.nodeFitHolds, hfit, Option.filter_eq_none_iff] at hpasses
    have hfits := hpasses fit rfl
    simpa [ControllerState.NodeFit.fits] using hfits
  have hopen : 0 < fit.largestFree := by omega
  obtain ⟨nodes, node, allowed, hnodes, hfree, hallows, hallowed, hclaimed⟩ :=
    nodeFit_measures hderived hlabels hfit hopen
  have hbound : boundTo s uid bind node ≤ s.nodeClaims c.gpuClassLabel allowed uid :=
    boundTo_le_nodeClaims hclasses hnodes (Dict.mem_iff_get?.mpr ⟨_, hfree⟩) hallowed hbind
  refine ⟨node, fit.largestFree, ?_, hallows, ?_⟩
  · rw [classNodes_of_some hnodes]
    exact hfree
  · omega

/-- A claim of four GPUs, which either node may get. -/
def oneClaim : ControllerState :=
  [NodeUpdate.install twoNodes,
    .set "P" (some { ns := "ns", name := "p", gpuClass := "c", gpuCount := 4 }) 0].foldl
      ControllerState.updateNodes {}

def fourGpuAsk : OnDemandCandidate where
  podUid := "A"
  podName := "a"
  podNamespace := "ns"
  gpuClassLabel := "c"
  gpuRequested := 4
  minRuntimeSeconds := 3600
  podCreatedAt := 0
  nextAttemptAt := 0

/-- The claim is bound to the larger node. -/
theorem nodeFit_leavesRoom_oneClaim :
    ∃ node free, (classNodes oneClaim "c").get? node = some free ∧
      allowsNode oneClaim "c" none node ∧
      (4 : Int) ≤ free - boundTo oneClaim "A" (fun _ => some "n2") node := by
  have hfree : oneClaim.nodeFreeByNodeClass =
      Dict.ofList [("c", Dict.ofList [("n1", 4), ("n2", 8)])] := by decide +kernel
  have hone : ∀ c node, node ∈ classNodes oneClaim c → c = "c" := by
    intro c node hnode
    by_contra hc
    rw [classNodes, hfree, Dict.ofList, List.foldl_cons, List.foldl_nil,
      Dict.get?_set_of_ne _ _ hc] at hnode
    cases hnode
  refine nodeFit_leavesRoom oneClaim ⟨by decide +kernel, by decide +kernel⟩ ?_ ?_ "A" fourGpuAsk none
    (by decide) (by decide +kernel) (by decide +kernel) (fun _ => some "n2") ?_
  · intro c c' node hc hc'
    exact (hone c node hc).trans (hone c' node hc').symm
  · intro c node hnode
    obtain rfl := hone c node hnode
    have hknown : ∀ n ∈ (classNodes oneClaim "c").keys, n ∈ oneClaim.nodeLabels := by decide +kernel
    exact hknown node hnode
  · intro u p node _ hu _ hbound
    obtain rfl := Option.some_inj.mp hbound
    have hp : ∀ q ∈ oneClaim.gpuPods.values, q.gpuClass = "c" ∧ q.placement = none := by
      decide +kernel
    obtain ⟨hclass, hplacement⟩ := hp p (Dict.mem_values_iff.mpr ⟨u, hu⟩)
    have hn2 : "n2" ∈ classNodes oneClaim "c" := by decide +kernel
    rw [hclass, hplacement]
    exact ⟨hn2, fun q hq => by cases hq⟩

end GpuReservation.Proofs
