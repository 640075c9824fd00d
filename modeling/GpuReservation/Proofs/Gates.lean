import GpuReservation.Model.Gates
import GpuReservation.Proofs.NoShow
import GpuReservation.Proofs.NodeMaps

/-!
# What the gates go by

The comparison of the capacities, and the classes it pauses, over every run of what changes them.
-/

namespace GpuReservation.Proofs

open GpuReservation.Library
open GpuReservation.Model
open GpuReservation.Model.ControllerState

section Comparison

variable (appSide physical : Dict String Nat)

/-- What is found of one class. -/
def diffOf (label : String) : CapacityDiff :=
  ⟨label, (appSide.get? label).getD 0, (physical.get? label).getD 0⟩

lemma foldl_reconcile (labels : List String) (found : List CapacityDiff × Finset String) :
    labels.foldl
      (fun found label =>
        let a := (appSide.get? label).getD 0
        let p := (physical.get? label).getD 0
        if a = p then found
        else
          let diff : CapacityDiff := ⟨label, a, p⟩
          (found.1 ++ [diff],
            if label ∈ appSide ∧ diff.overcommitted then insert label found.2 else found.2)) found =
      (found.1 ++ ((labels.map (diffOf appSide physical)).filter fun d => d.appSide ≠ d.physical),
        found.2 ∪ (labels.filter fun label =>
          (physical.get? label).getD 0 < (appSide.get? label).getD 0).toFinset) := by
  induction labels generalizing found with
  | nil => simp
  | cons label labels ih =>
    rw [List.foldl_cons, ih]
    by_cases heq : (appSide.get? label).getD 0 = (physical.get? label).getD 0
    · simp [heq, diffOf]
    · have hmem : (physical.get? label).getD 0 < (appSide.get? label).getD 0 → label ∈ appSide := by
        intro hlt
        rw [Dict.mem_iff_get?]
        cases hget : appSide.get? label with
        | none => simp [hget] at hlt
        | some a => exact ⟨a, rfl⟩
      by_cases hlt : (physical.get? label).getD 0 < (appSide.get? label).getD 0
      · simp [heq, hlt, hmem hlt, diffOf, CapacityDiff.overcommitted]
      · simp [heq, hlt, diffOf, CapacityDiff.overcommitted]

/-- The classes compared, in their order. -/
lemma pairwise_labels : ((appSide.keys ∪ physical.keys).insertionSort (· ≤ ·)).Pairwise (· < ·) := by
  have hnodup : ((appSide.keys ∪ physical.keys).map id).Nodup := by
    rw [List.map_id]
    exact physical.nodup.union _
  exact pairwise_insertionSort_lt hnodup

lemma mem_labels (label : String) :
    label ∈ (appSide.keys ∪ physical.keys).insertionSort (· ≤ ·) ↔ label ∈ appSide ∨ label ∈ physical := by
  rw [List.mem_insertionSort, List.mem_union_iff]
  rfl

lemma mem_of_ne {label : String} (h : (appSide.get? label).getD 0 ≠ (physical.get? label).getD 0) :
    label ∈ appSide ∨ label ∈ physical := by
  by_contra hnot
  rw [not_or] at hnot
  rw [Dict.get?_eq_none_iff.mpr hnot.1, Dict.get?_eq_none_iff.mpr hnot.2] at h
  exact h rfl

/-- The audit and the tick pause the same classes. -/
lemma reconcileCapacity_snd : (reconcileCapacity appSide physical).2 = overcommitted appSide physical := by
  ext label
  simp only [reconcileCapacity, foldl_reconcile, overcommitted, Finset.empty_union, List.mem_toFinset,
    List.mem_filter, mem_labels, decide_eq_true_eq]
  refine and_congr_left fun hlt => ⟨fun _ => ?_, Or.inl⟩
  rcases hget : appSide.get? label with _ | a
  · simp [hget] at hlt
  · exact Dict.mem_iff_get?.mpr ⟨a, hget⟩

lemma pairwise_reconcileCapacity :
    (reconcileCapacity appSide physical).1.Pairwise fun a b => a.label < b.label := by
  rw [reconcileCapacity, foldl_reconcile, List.nil_append]
  apply List.Pairwise.filter
  rw [List.pairwise_map]
  exact pairwise_labels appSide physical

lemma mem_reconcileCapacity (diff : CapacityDiff) :
    diff ∈ (reconcileCapacity appSide physical).1 ↔
      diff.appSide = (appSide.get? diff.label).getD 0 ∧
        diff.physical = (physical.get? diff.label).getD 0 ∧ diff.appSide ≠ diff.physical := by
  rw [reconcileCapacity, foldl_reconcile, List.nil_append, List.mem_filter, List.mem_map,
    decide_eq_true_iff]
  constructor
  · rintro ⟨⟨label, -, rfl⟩, hne⟩
    exact ⟨rfl, rfl, hne⟩
  · rintro ⟨happ, hphysical, hne⟩
    refine ⟨⟨diff.label, ?_, ?_⟩, hne⟩
    · rw [mem_labels]
      exact mem_of_ne appSide physical (happ ▸ hphysical ▸ hne)
    · rw [diffOf, ← happ, ← hphysical]

lemma mem_overcommitted (label : String) : label ∈ overcommitted appSide physical ↔
    ∃ counted, appSide.get? label = some counted ∧ (physical.get? label).getD 0 < counted := by
  rw [overcommitted, List.mem_toFinset, List.mem_filter, decide_eq_true_iff]
  constructor
  · rintro ⟨hmem, hlt⟩
    obtain ⟨counted, hget⟩ := Dict.mem_iff_get?.mp hmem
    exact ⟨counted, hget, by simpa [hget] using hlt⟩
  · rintro ⟨counted, hget, hlt⟩
    exact ⟨Dict.mem_iff_get?.mpr ⟨counted, hget⟩, by simpa [hget] using hlt⟩

end Comparison

section Run

/-- The physical count which the move compares with the count of the app. -/
def GateMove.physical : GateMove → Option (Dict String Nat)
  | .audited physical => physical
  | .refreshed config _ _ (some nodes) =>
    if config.ondemandLeaseEnabled then some (gpuCapacityByClass nodes.inventory) else none
  | _ => none

/-- The nodes which the move counts. -/
def GateMove.listed : GateMove → Option NodeSnapshot
  | .refreshed config _ _ nodes => if config.ondemandLeaseEnabled then nodes else none
  | _ => none

/-- The class maps installed last. -/
def installedMaps (moves : List GateMove) : GpuClassMaps :=
  ((latest (fun | .installed _ maps _ => some maps | _ => none) moves).map Prod.snd).getD
    GpuClassMaps.empty

lemma installedMaps_concat (moves : List GateMove) (move : GateMove) : installedMaps (moves ++ [move]) =
    match move with
    | .installed _ maps _ => maps
    | _ => installedMaps moves := by
  rw [installedMaps, latest_concat]
  cases move <;> rfl

lemma gateRun_concat (moves : List GateMove) (move : GateMove) :
    gateRun (moves ++ [move]) = (gateRun moves).apply move := by
  rw [gateRun, List.foldl_append]
  rfl

variable (s : ControllerState) (config : Config) (snapshot : List Pod) (takenAt : Instant)

lemma refreshNodeFeasibility_maps (nodes : Option NodeSnapshot) :
    (s.refreshNodeFeasibility config snapshot takenAt nodes).gpuClassCapacity = s.gpuClassCapacity ∧
      (s.refreshNodeFeasibility config snapshot takenAt nodes).gpuClassIds = s.gpuClassIds := by
  unfold refreshNodeFeasibility
  cases nodes <;> cases config.ondemandLeaseEnabled <;> exact ⟨rfl, rfl⟩

/-- What the guards read, where the nodes could not be listed: what they read before. -/
lemma refreshNodeFeasibility_none :
    (s.refreshNodeFeasibility config snapshot takenAt none).overcommittedGpuClasses =
        s.overcommittedGpuClasses ∧
      (s.refreshNodeFeasibility config snapshot takenAt none).physicalGpuCapacity =
        s.physicalGpuCapacity ∧
      (s.refreshNodeFeasibility config snapshot takenAt none).classNodeCounts = s.classNodeCounts := by
  unfold refreshNodeFeasibility
  cases config.ondemandLeaseEnabled <;> exact ⟨rfl, rfl, rfl⟩

/-- The tick compares as the audit does. -/
lemma refreshNodeFeasibility_some (nodes : NodeSnapshot) :
    (s.refreshNodeFeasibility config snapshot takenAt (some nodes)).overcommittedGpuClasses =
        (if config.ondemandLeaseEnabled then
          overcommitted s.gpuClassCapacity (gpuCapacityByClass nodes.inventory)
        else s.overcommittedGpuClasses) ∧
      (s.refreshNodeFeasibility config snapshot takenAt (some nodes)).physicalGpuCapacity =
        (if config.ondemandLeaseEnabled then gpuCapacityByClass nodes.inventory
        else s.physicalGpuCapacity) ∧
      (s.refreshNodeFeasibility config snapshot takenAt (some nodes)).classNodeCounts =
        (if config.ondemandLeaseEnabled then nodeCountsByClass nodes.inventory s.gpuClassIds.keys
        else s.classNodeCounts) := by
  unfold refreshNodeFeasibility
  cases config.ondemandLeaseEnabled <;> exact ⟨rfl, rfl, rfl⟩

/-- Guard 4 notes on the candidate what it finds, and nothing else. -/
lemma judgeOvercommit_eq (ref : Ref) (durationSeconds : Nat) (now : Instant) :
    ∃ candidates, s.judgeOvercommit config ref durationSeconds now = { s with candidates := candidates } := by
  rw [judgeOvercommit]
  split
  · exact ⟨_, rfl⟩
  · exact ⟨s.candidates, rfl⟩

lemma maps_gateRun (moves : List GateMove) :
    (gateRun moves).controller.gpuClassCapacity = (installedMaps moves).capacity ∧
      (gateRun moves).controller.gpuClassIds = (installedMaps moves).ids := by
  induction moves using List.reverseRecOn with
  | nil => exact ⟨rfl, rfl⟩
  | append_singleton moves move ih =>
    rw [gateRun_concat, installedMaps_concat]
    cases move with
    | installed active maps now =>
      obtain ⟨entries, queue, h⟩ := installReservations_eq (gateRun moves).controller active maps now
      rw [GateState.apply, h]
      exact ⟨rfl, rfl⟩
    | audited physical => cases physical <;> exact ih
    | refreshed config snapshot takenAt nodes =>
      obtain ⟨hcapacity, hids⟩ :=
        refreshNodeFeasibility_maps (gateRun moves).controller config snapshot takenAt nodes
      exact ⟨hcapacity.trans ih.1, hids.trans ih.2⟩
    | warned now overcommitFit => exact ih
    | preflight ref => exact ih
    | judged config ref durationSeconds now =>
      obtain ⟨candidates, h⟩ := judgeOvercommit_eq (gateRun moves).controller config ref durationSeconds now
      rw [GateState.apply, h]
      exact ih
    | elsewhere next => exact ih

/-- What the pauses go by is what was counted last, and what the app counted then. -/
lemma pauses_gateRun (moves : List GateMove) :
    (gateRun moves).controller.overcommittedGpuClasses =
        ((latest GateMove.physical moves).map fun seen =>
          overcommitted (installedMaps seen.1).capacity seen.2).getD ∅ ∧
      (gateRun moves).controller.physicalGpuCapacity =
        ((latest GateMove.physical moves).map Prod.snd).getD ∅ := by
  induction moves using List.reverseRecOn with
  | nil => exact ⟨rfl, rfl⟩
  | append_singleton moves move ih =>
    obtain ⟨hcapacity, -⟩ := maps_gateRun moves
    rw [gateRun_concat, latest_concat]
    cases move with
    | installed active maps now =>
      obtain ⟨entries, queue, h⟩ := installReservations_eq (gateRun moves).controller active maps now
      rw [GateState.apply, h]
      exact ih
    | audited physical =>
      cases physical with
      | none => exact ih
      | some physical =>
        refine ⟨?_, rfl⟩
        exact (reconcileCapacity_snd _ _).trans (by rw [hcapacity]; rfl)
    | refreshed config snapshot takenAt nodes =>
      cases nodes with
      | none =>
        obtain ⟨hpaused, hphysical, -⟩ :=
          refreshNodeFeasibility_none (gateRun moves).controller config snapshot takenAt
        exact ⟨hpaused.trans ih.1, hphysical.trans ih.2⟩
      | some nodes =>
        obtain ⟨hpaused, hphysical, -⟩ :=
          refreshNodeFeasibility_some (gateRun moves).controller config snapshot takenAt nodes
        by_cases henabled : config.ondemandLeaseEnabled
        · simp only [henabled, if_true] at hpaused hphysical
          simp only [GateMove.physical, henabled, if_true, Option.map_some, Option.getD_some]
          exact ⟨hpaused.trans (by rw [hcapacity]), hphysical⟩
        · simp only [henabled] at hpaused hphysical
          simp only [GateMove.physical, henabled]
          exact ⟨hpaused.trans ih.1, hphysical.trans ih.2⟩
    | warned now overcommitFit => exact ih
    | preflight ref => exact ih
    | judged config ref durationSeconds now =>
      obtain ⟨candidates, h⟩ := judgeOvercommit_eq (gateRun moves).controller config ref durationSeconds now
      rw [GateState.apply, h]
      exact ih
    | elsewhere next => exact ih

lemma counts_gateRun (moves : List GateMove) :
    (gateRun moves).controller.classNodeCounts =
      ((latest GateMove.listed moves).map fun seen =>
        nodeCountsByClass seen.2.inventory (installedMaps seen.1).ids.keys).getD ∅ := by
  induction moves using List.reverseRecOn with
  | nil => rfl
  | append_singleton moves move ih =>
    obtain ⟨-, hids⟩ := maps_gateRun moves
    rw [gateRun_concat, latest_concat]
    cases move with
    | installed active maps now =>
      obtain ⟨entries, queue, h⟩ := installReservations_eq (gateRun moves).controller active maps now
      rw [GateState.apply, h]
      exact ih
    | audited physical => cases physical <;> exact ih
    | refreshed config snapshot takenAt nodes =>
      cases nodes with
      | none =>
        obtain ⟨-, -, hcounts⟩ :=
          refreshNodeFeasibility_none (gateRun moves).controller config snapshot takenAt
        simp only [GateMove.listed, ite_self]
        exact hcounts.trans ih
      | some nodes =>
        obtain ⟨-, -, hcounts⟩ :=
          refreshNodeFeasibility_some (gateRun moves).controller config snapshot takenAt nodes
        by_cases henabled : config.ondemandLeaseEnabled
        · simp only [henabled, if_true] at hcounts
          simp only [GateMove.listed, henabled, if_true, Option.map_some, Option.getD_some]
          exact hcounts.trans (by rw [hids])
        · simp only [henabled] at hcounts
          simp only [GateMove.listed, henabled]
          exact hcounts.trans ih
    | warned now overcommitFit => exact ih
    | preflight ref => exact ih
    | judged config ref durationSeconds now =>
      obtain ⟨candidates, h⟩ := judgeOvercommit_eq (gateRun moves).controller config ref durationSeconds now
      rw [GateState.apply, h]
      exact ih
    | elsewhere next => exact ih

lemma get?_nodeCountsByClass (inventory : Dict String (Dict String Nat)) (known : List String)
    (label : String) : (nodeCountsByClass inventory known).get? label =
      ((inventory.get? label).map fun nodes => some nodes.entries.length).getD
        (if label ∈ known then some 0 else none) := by
  have hknown : ∀ d : Dict String Nat, (known.foldl (fun d c => d.set c 0) d).get? label =
      if label ∈ known then some 0 else d.get? label := by
    induction known with
    | nil => simp
    | cons c known ih =>
      intro d
      rw [List.foldl_cons, ih, Dict.get?_set]
      by_cases hc : label = c <;> simp [hc]
  have hstep : ∀ (d : Dict String Nat) (e : String × Dict String Nat),
      (d.set e.1 e.2.entries.length).get? label =
        if e.1 = label then some e.2.entries.length else d.get? label := by
    intro d e
    rw [Dict.get?_set]
    simp only [eq_comm]
  have hlisted := Dict.foldl_entries_of_key (fun d : Dict String Nat => d.get? label) label
    (fun nodes : Dict String Nat => some nodes.entries.length) hstep inventory
    (known.foldl (fun d c => d.set c 0) ∅)
  rw [hknown, Dict.get?_empty] at hlisted
  exact hlisted

/-- A class is known to have no node where it is known, or listed, and no node of it is. -/
lemma nodeCounts_eq_zero (inventory : Dict String (Dict String Nat)) (known : List String)
    (label : String) : (nodeCountsByClass inventory known).get? label = some 0 ↔
      (label ∈ known ∨ label ∈ inventory) ∧
        ∀ name, (inventory.get? label).bind (·.get? name) = none := by
  rw [get?_nodeCountsByClass, Dict.mem_iff_get?]
  cases inventory.get? label with
  | none => by_cases hknown : label ∈ known <;> simp [hknown]
  | some nodes =>
    have hempty : nodes.entries.length = 0 ↔ ∀ name, nodes.get? name = none := by
      rw [List.length_eq_zero_iff]
      constructor
      · intro hnil name
        simp [Dict.get?, hnil]
      · intro hnone
        rw [List.eq_nil_iff_forall_not_mem]
        rintro ⟨name, gpus⟩ hmem
        rw [← Dict.get?_eq_some_iff, hnone name] at hmem
        cases hmem
    simpa using hempty

end Run

end GpuReservation.Proofs
