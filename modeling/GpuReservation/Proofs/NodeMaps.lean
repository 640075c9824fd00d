import GpuReservation.Library.Machine
import GpuReservation.Proofs.Frames
import GpuReservation.Model.Relinking

/-!
# The maps of the nodes are what they would be computed to be

The maps of free GPUs follow every change of a pod and every snapshot; the two computations which
start from a list of pods agree.
-/

namespace GpuReservation.Proofs

open GpuReservation.Library GpuReservation.Model

/-- What the record of a pod takes of a node of a class. -/
def boundAt (gpuClass node : String) (p : GpuPod) : Nat :=
  if p.gpuClass = gpuClass ∧ p.nodeName = some node then p.gpuCount else 0

lemma boundGpus_eq_sum (pods : List GpuPod) (gpuClass node : String) :
    boundGpus pods gpuClass node = (pods.map (boundAt gpuClass node)).sum := by
  rw [boundGpus, sum_map_filter]
  simp only [Bool.and_eq_true, decide_eq_true_eq]
  rfl

lemma boundGpus_values (pods : Dict Uid GpuPod) (gpuClass node : String) :
    boundGpus pods.values gpuClass node = pods.sumBy fun _ p => boundAt gpuClass node p := by
  rw [boundGpus_eq_sum, Dict.values, List.map_map]
  rfl

/-- The nodes of a class, with what the pods leave free. -/
def classFree (pods : List GpuPod) (gpuClass : String) (nodes : Dict String Nat) :
    Dict String Int :=
  nodes.mapValues fun node (capacity : Nat) => (capacity - boundGpus pods gpuClass node : Int)

lemma classFree_congr {pods pods' : List GpuPod} {gpuClass : String}
    (h : ∀ node, boundGpus pods gpuClass node = boundGpus pods' gpuClass node)
    (nodes : Dict String Nat) : classFree pods gpuClass nodes = classFree pods' gpuClass nodes := by
  simp only [classFree, h]

lemma largestNodeFreeByClass_eq (inventory : Dict String (Dict String Nat)) (pods : List GpuPod) :
    largestNodeFreeByClass (nodeFreeFromPods inventory pods) =
      inventory.mapValues fun gpuClass nodes => maxOr0 (classFree pods gpuClass nodes).values :=
  Dict.mapValues_mapValues _ _ inventory

section Update

variable {s : ControllerState}

/-- The classes outside `classes` keep what the pods take of them. -/
lemma deriveNodeFree_derived {pods : List GpuPod} {classes : List String}
    (hfree : s.nodeFreeByNodeClass = nodeFreeFromPods s.nodeInventory pods)
    (hlargest : s.nodeFreeByClass = largestNodeFreeByClass s.nodeFreeByNodeClass)
    (hsame : ∀ gpuClass ∈ s.nodeInventory, gpuClass ∉ classes → ∀ node,
      boundGpus pods gpuClass node = boundGpus s.gpuPods.values gpuClass node) :
    (s.deriveNodeFree classes).nodeMapsDerived := by
  have hclass : ∀ gpuClass ∈ s.nodeInventory, decide (gpuClass ∈ classes) = false →
      ∀ nodes, classFree pods gpuClass nodes = classFree s.gpuPods.values gpuClass nodes :=
    fun gpuClass hmem hc => classFree_congr (hsame gpuClass hmem (of_decide_eq_false hc))
  have hbyNode : (s.deriveNodeFree classes).nodeFreeByNodeClass =
      nodeFreeFromPods s.nodeInventory s.gpuPods.values := by
    rw [ControllerState.deriveNodeFree, hfree]
    exact Dict.foldl_set_mapValues_filter s.nodeInventory hclass
  refine ⟨hbyNode, ?_⟩
  rw [hbyNode, largestNodeFreeByClass_eq]
  rw [hfree, largestNodeFreeByClass_eq] at hlargest
  rw [ControllerState.deriveNodeFree, hlargest]
  have hupdate := Dict.foldl_set_mapValues_filter
    (f := fun gpuClass nodes => maxOr0 (classFree pods gpuClass nodes).values)
    (g := fun gpuClass nodes => maxOr0 (classFree s.gpuPods.values gpuClass nodes).values)
    s.nodeInventory fun gpuClass hmem hc nodes => congrArg (fun free => maxOr0 free.values)
      (hclass gpuClass hmem hc nodes)
  rw [← hupdate]
  simp only [nodeFreeFromPods, Dict.mapValues, List.foldl_map]
  rfl

lemma nodeMapsDerived_install (nodes : NodeSnapshot) :
    (s.installNodeInventory nodes).nodeMapsDerived := ⟨rfl, rfl⟩

lemma nodeMapsDerived_rebuild (h : s.nodeMapsDerived) (pods : Dict Uid GpuPod) (takenAt : Instant) :
    (s.rebuildGpuPods pods takenAt).nodeMapsDerived := by
  refine deriveNodeFree_derived h.1 h.2 fun gpuClass hmem hc => ?_
  exact absurd hmem hc

/-- The records, with the one of pod `uid` put in place or taken out. -/
def recordIn (pods : Dict Uid GpuPod) (uid : Uid) : Option GpuPod → Dict Uid GpuPod
  | none => pods.erase uid
  | some record => pods.set uid record

lemma sumBy_recordIn (f : Uid → GpuPod → Nat) (pods : Dict Uid GpuPod) (uid : Uid)
    (record : Option GpuPod) :
    (recordIn pods uid record).sumBy f + ((pods.get? uid).map (f uid)).getD 0 =
      pods.sumBy f + (record.map (f uid)).getD 0 := by
  cases record with
  | none => exact Dict.sumBy_erase f pods uid
  | some r => exact Dict.sumBy_set f pods uid r

variable (s) in
/-- The record is put in place, and the maps are derived anew where it differs. -/
lemma setGpuPod_cases (uid : Uid) (record : Option GpuPod) (now : Instant) :
    ∃ noted : ControllerState, noted = { s with
        gpuPods := recordIn s.gpuPods uid record
        gpuPodChanges := s.gpuPodChanges.set uid (now, record) } ∧
      s.setGpuPod uid record now =
        if s.gpuPods.get? uid = record then noted
        else noted.deriveNodeFree
          (((s.gpuPods.get? uid).map (·.gpuClass)).toList ++ (record.map (·.gpuClass)).toList) := by
  refine ⟨_, rfl, ?_⟩
  unfold ControllerState.setGpuPod
  cases record <;> rfl

lemma nodeMapsDerived_set (h : s.nodeMapsDerived) (uid : Uid) (record : Option GpuPod)
    (now : Instant) : (s.setGpuPod uid record now).nodeMapsDerived := by
  obtain ⟨noted, hnoted, hset⟩ := setGpuPod_cases s uid record now
  have hpods : noted.gpuPods = recordIn s.gpuPods uid record := by rw [hnoted]
  have hbound : ∀ gpuClass node, boundGpus noted.gpuPods.values gpuClass node +
      ((s.gpuPods.get? uid).map (boundAt gpuClass node)).getD 0 =
        boundGpus s.gpuPods.values gpuClass node + (record.map (boundAt gpuClass node)).getD 0 := by
    intro gpuClass node
    rw [boundGpus_values, boundGpus_values, hpods]
    exact sumBy_recordIn (fun _ p => boundAt gpuClass node p) s.gpuPods uid record
  have hfree : noted.nodeFreeByNodeClass = nodeFreeFromPods noted.nodeInventory s.gpuPods.values := by
    rw [hnoted]
    exact h.1
  have hlargest : noted.nodeFreeByClass = largestNodeFreeByClass noted.nodeFreeByNodeClass := by
    rw [hnoted]
    exact h.2
  rw [hset]
  by_cases hrecord : s.gpuPods.get? uid = record
  · rw [if_pos hrecord]
    refine ⟨hfree.trans ?_, hlargest⟩
    have hsame : ∀ gpuClass node, boundGpus s.gpuPods.values gpuClass node =
        boundGpus noted.gpuPods.values gpuClass node := by
      intro gpuClass node
      have hboth := hbound gpuClass node
      rw [hrecord] at hboth
      omega
    simp only [nodeFreeFromPods, hsame]
  · rw [if_neg hrecord]
    refine deriveNodeFree_derived hfree hlargest fun gpuClass _ hclass node => ?_
    -- neither record is of the class
    have hother : ∀ r : Option GpuPod, gpuClass ∉ (r.map (·.gpuClass)).toList →
        (r.map (boundAt gpuClass node)).getD 0 = 0 := by
      intro r hr
      cases r with
      | none => rfl
      | some p =>
        have hne : ¬ p.gpuClass = gpuClass := fun he => hr (by simp [he])
        simp [boundAt, hne]
    rw [List.mem_append, not_or] at hclass
    have hboth := hbound gpuClass node
    rw [hother _ hclass.1, hother _ hclass.2] at hboth
    exact hboth.symm

lemma nodeMapsDerived_updateNodes (h : s.nodeMapsDerived) (u : NodeUpdate) :
    (s.updateNodes u).nodeMapsDerived := by
  cases u with
  | install nodes => exact nodeMapsDerived_install nodes
  | rebuild pods takenAt => exact nodeMapsDerived_rebuild h pods takenAt
  | set uid record now => exact nodeMapsDerived_set h uid record now

end Update

section Snapshot

/-- What a pod of a snapshot takes of a node of a class. -/
def takenAt (gpuClass node : String) (p : PodRuntimeView) : Nat :=
  if p.nodeResident ∧ ¬ p.terminating ∧ p.gpuClass = gpuClass ∧
      p.nodeName.filter (· ≠ "") = some node then p.gpuCount
  else 0

/-- What is free, with what is taken of each node off. -/
def lessTaken (taken : String → String → Nat) (free : Dict String (Dict String Int)) :
    Dict String (Dict String Int) :=
  free.mapValues fun gpuClass nodes => nodes.mapValues fun node n => n - (taken gpuClass node : Int)

lemma lessTaken_eq_self {taken : String → String → Nat} {free : Dict String (Dict String Int)}
    (h : ∀ gpuClass nodes, free.get? gpuClass = some nodes → ∀ node ∈ nodes,
      taken gpuClass node = 0) : lessTaken taken free = free := by
  refine Dict.mapValues_eq_self fun gpuClass nodes hnodes =>
    Dict.mapValues_eq_self fun node n hn => ?_
  rw [h gpuClass nodes hnodes node (Dict.mem_iff_get?.mpr ⟨n, hn⟩)]
  exact Int.sub_zero n

/-- The pod is taken off its node and off no other. -/
lemma takeOff_eq (free : Dict String (Dict String Int)) (p : PodRuntimeView) :
    takeOff free p = lessTaken (fun gpuClass node => takenAt gpuClass node p) free := by
  rw [takeOff]
  cases hnode : p.nodeName.filter (· ≠ "") with
  | none =>
    refine (lessTaken_eq_self fun gpuClass nodes _ node _ => ?_).symm
    rw [takenAt, hnode, if_neg]
    rintro ⟨-, -, -, h⟩
    cases h
  | some node =>
    dsimp only
    split
    · rename_i hskip
      refine (lessTaken_eq_self fun gpuClass nodes _ node' _ => ?_).symm
      rw [takenAt, if_neg]
      rintro ⟨hresident, hterminating, -⟩
      simp [hresident, hterminating] at hskip
    · rename_i hholds
      have htaken : takenAt p.gpuClass node p = p.gpuCount := by
        have hresident : p.nodeResident = true ∧ p.terminating = false := by simpa using hholds
        rw [takenAt, if_pos ⟨hresident.1, by simp [hresident.2], rfl, hnode⟩]
      have hother : ∀ gpuClass node', ¬ (gpuClass = p.gpuClass ∧ node' = node) →
          takenAt gpuClass node' p = 0 := by
        intro gpuClass node' hne
        rw [takenAt, if_neg]
        rintro ⟨-, -, rfl, hnode'⟩
        exact hne ⟨rfl, Option.some_inj.mp (hnode'.symm.trans hnode)⟩
      cases hclass : free.get? p.gpuClass with
      | none =>
        refine (lessTaken_eq_self fun gpuClass nodes hnodes node' _ => hother _ _ ?_).symm
        rintro ⟨rfl, -⟩
        rw [hclass] at hnodes
        cases hnodes
      | some perNode =>
        dsimp only
        cases hn : perNode.get? node with
        | none =>
          refine (lessTaken_eq_self fun gpuClass nodes hnodes node' hmem => hother _ _ ?_).symm
          rintro ⟨rfl, rfl⟩
          rw [hclass, Option.some_inj] at hnodes
          exact Dict.get?_eq_none_iff.mp (hnodes ▸ hn) hmem
        | some n =>
          have hmem : p.gpuClass ∈ free := Dict.mem_iff_get?.mpr ⟨perNode, hclass⟩
          have hmem' : node ∈ perNode := Dict.mem_iff_get?.mpr ⟨n, hn⟩
          dsimp only
          rw [Dict.set_eq_mapValues hmem, Dict.set_eq_mapValues hmem', lessTaken]
          refine Dict.mapValues_congr fun gpuClass nodes hnodes => ?_
          split
          · rename_i hc
            subst hc
            rw [hclass, Option.some_inj] at hnodes
            subst hnodes
            refine Dict.mapValues_congr fun node' n' hn' => ?_
            split
            · rename_i he
              subst he
              rw [hn, Option.some_inj] at hn'
              rw [htaken, hn']
            · rename_i hne
              rw [hother _ _ fun h => hne h.2]
              exact (Int.sub_zero n').symm
          · rename_i hc
            refine (Dict.mapValues_eq_self fun node' n' _ => ?_).symm
            rw [hother _ _ fun h => hc h.1]
            exact Int.sub_zero n'

lemma lessTaken_lessTaken (taken taken' : String → String → Nat)
    (free : Dict String (Dict String Int)) :
    lessTaken taken' (lessTaken taken free) =
      lessTaken (fun gpuClass node => taken gpuClass node + taken' gpuClass node) free := by
  rw [lessTaken, lessTaken, Dict.mapValues_mapValues, lessTaken]
  refine Dict.mapValues_congr fun gpuClass nodes _ => ?_
  rw [Dict.mapValues_mapValues]
  refine Dict.mapValues_congr fun node n _ => ?_
  omega

/-- All the pods are taken off, one after another. -/
lemma foldl_takeOff (pods : List PodRuntimeView) (free : Dict String (Dict String Int)) :
    pods.foldl takeOff free =
      lessTaken (fun gpuClass node => (pods.map (takenAt gpuClass node)).sum) free := by
  induction pods generalizing free with
  | nil => exact (lessTaken_eq_self fun _ _ _ _ _ => rfl).symm
  | cons p pods ih =>
    rw [List.foldl_cons, takeOff_eq, ih, lessTaken_lessTaken]
    rfl

/-- The record of a pod takes what its view does. -/
lemma boundAt_gpuPodRecord {p : Pod} (hlabel : p.gpuClass ≠ "")
    (inventory : Option (Dict String (Dict String Nat))) (gpuClass node : String) :
    ((gpuPodRecord p).map (boundAt gpuClass node)).getD 0 =
      takenAt gpuClass node (podView inventory p) := by
  have hview : takenAt gpuClass node (podView inventory p) =
      if (p.phase = .running ∨ (p.phase = .pending ∧ ¬ p.scheduledFalse)) ∧ ¬ p.terminating ∧
        p.gpuClass = gpuClass ∧ p.nodeName.filter (· ≠ "") = some node then p.gpuCount else 0 := by
    simp [takenAt, podView]
  rw [hview, gpuPodRecord]
  split
  · rename_i hnothing
    split
    · rename_i htakes
      rcases hnothing with hterminating | hcount | hclass
      · exact absurd hterminating htakes.2.1
      · exact (Nat.lt_one_iff.mp hcount).symm
      · exact absurd hclass hlabel
    · rfl
  · rename_i hholds
    rw [not_or, not_or] at hholds
    dsimp only
    cases hnode : p.nodeName.filter (· ≠ "") with
    | none =>
      simp only [reduceCtorEq, and_false, if_false]
      split <;> simp [boundAt]
    | some node' =>
      dsimp only
      by_cases hphase : p.phase = .running ∨ (p.phase = .pending ∧ ¬ p.scheduledFalse)
      · have htakes : ((p.phase = .running ∨ (p.phase = .pending ∧ ¬ p.scheduledFalse)) ∧
            ¬ p.terminating ∧ p.gpuClass = gpuClass ∧ some node' = some node) ↔
              (p.gpuClass = gpuClass ∧ some node' = some node) :=
          ⟨fun h => h.2.2, fun h => ⟨hphase, hholds.1, h⟩⟩
        rw [if_pos hphase, Option.map_some, Option.getD_some, boundAt]
        simp only [htakes]
      · rw [if_neg hphase, if_neg fun h => hphase h.1]
        rfl

lemma boundGpus_records (inventory : Option (Dict String (Dict String Nat))) {pods : List Pod}
    (hlabels : ∀ p ∈ pods, p.gpuClass ≠ "") (gpuClass node : String) :
    boundGpus (pods.filterMap gpuPodRecord) gpuClass node =
      ((pods.map (podView inventory)).map (takenAt gpuClass node)).sum := by
  rw [boundGpus_eq_sum]
  induction pods with
  | nil => rfl
  | cons p pods ih =>
    have hp := boundAt_gpuPodRecord (hlabels p List.mem_cons_self) inventory gpuClass node
    have hpods := ih fun p' hp' => hlabels p' (List.mem_cons_of_mem p hp')
    rw [List.filterMap_cons, List.map_cons, List.map_cons, List.sum_cons, ← hp, ← hpods]
    cases gpuPodRecord p <;> simp

/-- Both computations agree on the pods of a snapshot. -/
lemma nodeFreeFromPods_records (inventory : Option (Dict String (Dict String Nat)))
    (capacity : Dict String (Dict String Nat)) {pods : List Pod}
    (hlabels : ∀ p ∈ pods, p.gpuClass ≠ "") :
    nodeFreeFromPods capacity (pods.filterMap gpuPodRecord) =
      freeGpusByNodeClass capacity (pods.map (podView inventory)) := by
  have hbound := boundGpus_records inventory hlabels
  rw [freeGpusByNodeClass, foldl_takeOff, lessTaken, Dict.mapValues_mapValues]
  simp only [Dict.mapValues_mapValues, nodeFreeFromPods, hbound]

end Snapshot

/-- The maps are the recomputed ones after every change, and the recomputation agrees with the one
which starts from the views of the pods. -/
theorem nodeMaps_recomputed (us : List NodeUpdate) :
    throughout ControllerState.updateNodes ControllerState.nodeMapsDerived {} us ∧
      ∀ (inventory : Option (Dict String (Dict String Nat)))
        (capacity : Dict String (Dict String Nat)) (pods : List Pod),
        (∀ p ∈ pods, p.gpuClass ≠ "") →
          nodeFreeFromPods capacity (pods.filterMap gpuPodRecord) =
            freeGpusByNodeClass capacity (pods.map (podView inventory)) := by
  refine ⟨?_, fun inventory capacity pods => nodeFreeFromPods_records inventory capacity⟩
  have hstep : ∀ (s : ControllerState) (u : NodeUpdate), s.nodeMapsDerived → True →
      (s.updateNodes u).nodeMapsDerived := fun s u h _ => nodeMapsDerived_updateNodes h u
  exact throughout_of_respects (C := fun _ _ => True) hstep ⟨rfl, rfl⟩
    (respects_of_forall fun _ _ _ => trivial)

/-- Two nodes of a class. -/
def twoNodes : NodeSnapshot where
  inventory := Dict.ofList [("c", Dict.ofList [("n1", 4), ("n2", 8)])]
  labels := Dict.ofList [("n1", Dict.ofList [("rack", "a")]), ("n2", Dict.ofList [("rack", "b")])]

/-- A pod which runs, one which terminates and one which is not bound. -/
def threePods : List Pod :=
  [{ uid := "A", ns := "ns", name := "a", gpuClass := "c", gpuCount := 3, phase := .running,
     nodeName := some "n1" },
   { uid := "B", ns := "ns", name := "b", gpuClass := "c", gpuCount := 2, phase := .running,
     nodeName := some "n2", terminating := true },
   { uid := "C", ns := "ns", name := "c", gpuClass := "c", gpuCount := 2 }]

theorem nodeMaps_recomputed_threePods :
    nodeFreeFromPods twoNodes.inventory (threePods.filterMap gpuPodRecord) =
      freeGpusByNodeClass twoNodes.inventory (threePods.map (podView none)) :=
  (nodeMaps_recomputed []).2 none twoNodes.inventory threePods (by decide +kernel)

/-- Of the three only the first takes anything of a node. -/
example : freeGpusByNodeClass twoNodes.inventory (threePods.map (podView none)) =
    Dict.ofList [("c", Dict.ofList [("n1", 1), ("n2", 8)])] := by
  decide +kernel

end GpuReservation.Proofs
