import GpuReservation.Proofs.OvercommitHolds

/-!
# What the gates say

The warnings of the gates, over every run of what changes what they go by.
-/

namespace GpuReservation.Proofs

open GpuReservation.Library
open GpuReservation.Model
open GpuReservation.Model.ControllerState

section Warnings

variable (g : GateState) (now : Instant) (overcommitFit : Bool)

lemma mem_noNodeGates {gate : OnDemandGate} : gate ∈ g.noNodeGates now ↔
    ∃ label, g.controller.classNodeCounts.get? label = some 0 ∧
      gate = { label := label, guard := 1, reason := "no_class_nodes", since := now,
               waiting := g.controller.waiting label fun _ => true } := by
  simp only [GateState.noNodeGates, List.mem_filterMap, Dict.get?_eq_some_iff]
  constructor
  · rintro ⟨⟨label, nodes⟩, hmem, h⟩
    by_cases hzero : nodes = 0
    · rw [if_pos hzero] at h
      cases h
      exact ⟨label, hzero ▸ hmem, rfl⟩
    · rw [if_neg hzero] at h
      cases h
  · rintro ⟨label, hmem, rfl⟩
    exact ⟨(label, 0), hmem, rfl⟩

lemma mem_stuckHolderGates {gate : OnDemandGate} : gate ∈ g.stuckHolderGates now ↔
    ∃ label ∈ g.controller.stuckHolderGpuClasses,
      gate = { label := label, guard := 3, reason := "stuck_holder_interlock", since := now,
               waiting := g.controller.waiting label fun _ => true,
               stuckPods := ((g.stuckHolderPods.get? label).getD []).insertionSort (· ≤ ·) } := by
  simp only [GateState.stuckHolderGates, List.mem_map, Finset.mem_sort, eq_comm]

/-- Whom guard 4 is counted as holding. -/
def countedByOvercommit : Bool → OnDemandCandidate → Bool
  | true => fun c => c.heldByOvercommit
  | false => fun c => !c.bestEffort

lemma mem_overcommitGates {gate : OnDemandGate} :
    gate ∈ g.overcommitGates now overcommitFit ↔
      ∃ label ∈ g.controller.overcommittedGpuClasses,
        (overcommitFit → g.controller.waiting label (countedByOvercommit overcommitFit) ≠ 0) ∧
        gate = { label := label, guard := 4,
                 reason := if overcommitFit then "overcommit_no_fit" else "class_overcommitted",
                 since := now,
                 waiting := g.controller.waiting label (countedByOvercommit overcommitFit),
                 appGpus := g.controller.gpuClassCapacity.get? label,
                 physGpus := g.controller.physicalGpuCapacity.get? label } := by
  simp only [GateState.overcommitGates, List.mem_filterMap, Finset.mem_sort]
  refine exists_congr fun label => and_congr_right fun _ => ?_
  cases overcommitFit with
  | false =>
    change some _ = some gate ↔ (false = true → _) ∧ _
    rw [Option.some.injEq]
    exact ⟨fun h => ⟨fun hfit => absurd hfit Bool.false_ne_true, h.symm⟩, fun h => h.2.symm⟩
  | true =>
    change (if g.controller.waiting label (countedByOvercommit true) ≠ 0 then some _ else none) =
      some gate ↔ (true = true → _) ∧ _
    by_cases hheld : g.controller.waiting label (countedByOvercommit true) ≠ 0
    · rw [if_pos hheld, Option.some.injEq]
      exact ⟨fun h => ⟨fun _ => hheld, h.symm⟩, fun h => h.2.symm⟩
    · rw [if_neg hheld]
      exact ⟨fun h => absurd h.symm (Option.some_ne_none gate), fun h => absurd (h.1 rfl) hheld⟩

lemma mem_gatesInForce {gate : OnDemandGate} : gate ∈ g.gatesInForce now overcommitFit ↔
    gate ∈ g.noNodeGates now ∨ gate ∈ g.stuckHolderGates now ∨
      gate ∈ g.overcommitGates now overcommitFit := by
  rw [GateState.gatesInForce, List.mem_append, List.mem_append, or_assoc]

lemma since_of_mem_gatesInForce {gate : OnDemandGate} (h : gate ∈ g.gatesInForce now overcommitFit) :
    gate.since = now := by
  rw [mem_gatesInForce, mem_noNodeGates, mem_stuckHolderGates, mem_overcommitGates] at h
  rcases h with ⟨label, -, rfl⟩ | ⟨label, -, rfl⟩ | ⟨label, -, -, rfl⟩ <;> rfl

lemma nodup_keys {α : Type} {l : List α} {name : α → String} {f : α → Option OnDemandGate} (number : Nat)
    (hl : (l.map name).Nodup) (hf : ∀ a gate, f a = some gate → gate.key = (name a, number)) :
    ((l.filterMap f).map (·.key)).Nodup := by
  induction l with
  | nil => exact List.nodup_nil
  | cons a l ih =>
    obtain ⟨hfirst, hl⟩ := List.nodup_cons.mp hl
    cases hgate : f a with
    | none =>
      rw [List.filterMap_cons_none hgate]
      exact ih hl
    | some gate =>
      rw [List.filterMap_cons_some hgate, List.map_cons, List.nodup_cons]
      refine ⟨fun hmem => hfirst ?_, ih hl⟩
      obtain ⟨gate', hgate', hkey⟩ := List.mem_map.mp hmem
      obtain ⟨a', ha', hfa'⟩ := List.mem_filterMap.mp hgate'
      rw [hf a gate hgate, hf a' gate' hfa'] at hkey
      exact List.mem_map.mpr ⟨a', ha', congrArg Prod.fst hkey⟩

/-- No gate is come upon twice. -/
lemma nodup_gatesInForce : ((g.gatesInForce now overcommitFit).map (·.key)).Nodup := by
  have hone : ((g.noNodeGates now).map (·.key)).Nodup := by
    refine nodup_keys 1 g.controller.classNodeCounts.nodup ?_
    intro e gate h
    split at h <;> cases h
    rfl
  have hthree : ((g.stuckHolderGates now).map (·.key)).Nodup := by
    have hkeys : (g.stuckHolderGates now).map (·.key) =
        (g.controller.stuckHolderGpuClasses.sort (· ≤ ·)).map fun label => (label, 3) := by
      rw [GateState.stuckHolderGates, List.map_map]
      rfl
    rw [hkeys]
    exact (Finset.sort_nodup _ _).map fun _ _ h => congrArg Prod.fst h
  have hfour : ((g.overcommitGates now overcommitFit).map (·.key)).Nodup := by
    have hlabels : ((g.controller.overcommittedGpuClasses.sort (· ≤ ·)).map id).Nodup := by
      rw [List.map_id]
      exact Finset.sort_nodup _ _
    refine nodup_keys 4 hlabels ?_
    intro label gate h
    simp only at h
    split at h
    · cases h
      rfl
    · split at h <;> cases h
      rfl
  have hguardOne : ∀ key ∈ (g.noNodeGates now).map (·.key), key.2 = 1 := by
    simp only [List.mem_map, mem_noNodeGates]
    rintro _ ⟨_, ⟨label, -, rfl⟩, rfl⟩
    rfl
  have hguardThree : ∀ key ∈ (g.stuckHolderGates now).map (·.key), key.2 = 3 := by
    simp only [List.mem_map, mem_stuckHolderGates]
    rintro _ ⟨_, ⟨label, -, rfl⟩, rfl⟩
    rfl
  have hguardFour : ∀ key ∈ (g.overcommitGates now overcommitFit).map (·.key), key.2 = 4 := by
    simp only [List.mem_map, mem_overcommitGates]
    rintro _ ⟨_, ⟨label, -, -, rfl⟩, rfl⟩
    rfl
  rw [GateState.gatesInForce, List.map_append, List.map_append]
  apply (hone.append hthree ?_).append hfour
  · intro key hkey hkey'
    have hsecond := hguardFour key hkey'
    rcases List.mem_append.mp hkey with h | h
    · have hfirst := hguardOne key h
      omega
    · have hfirst := hguardThree key h
      omega
  · intro key hkey hkey'
    have hfirst := hguardOne key hkey
    have hsecond := hguardThree key hkey'
    omega

/-- A gate keeps the time it was dated with before. -/
lemma foldl_addGate {gates : List OnDemandGate} (hgates : ∀ gate ∈ gates, gate.since = now)
    (planned : Dict (String × Nat) Instant × List OnDemandGate) :
    gates.foldl GateState.addGate planned =
      ((gates.map (·.key)).foldl (fun d k => if k ∈ d then d else d.set k now) planned.1,
        planned.2 ++ gates.map fun gate =>
          { gate with since := (planned.1.get? gate.key).getD now }) := by
  induction gates generalizing planned with
  | nil => simp
  | cons gate gates ih =>
    have hsince : gate.since = now := hgates gate List.mem_cons_self
    have hdated : ∀ k, ((if gate.key ∈ planned.1 then planned.1
        else planned.1.set gate.key now).get? k).getD now = (planned.1.get? k).getD now := by
      intro k
      rw [get?_setDefault]
      by_cases hk : k = gate.key <;> simp [hk]
    rw [List.foldl_cons, ih fun gate' hgate' => hgates gate' (List.mem_cons_of_mem gate hgate')]
    simp only [GateState.addGate, hsince, hdated, List.map_cons, List.foldl_cons, List.append_assoc,
      List.singleton_append]

lemma planOndemandGates_fst : (g.planOndemandGates now overcommitFit).1 =
    ((g.gatesInForce now overcommitFit).map fun gate =>
      { gate with since := (g.ondemandGateSince.get? gate.key).getD now }).insertionSort
        fun a b => toLex a.key ≤ toLex b.key := by
  rw [GateState.planOndemandGates,
    foldl_addGate now fun _ h => since_of_mem_gatesInForce g now overcommitFit h]
  rfl

/-- What is kept of the dates is what one more pass notes. -/
lemma get?_planOndemandGates (key : String × Nat) :
    (g.planOndemandGates now overcommitFit).2.ondemandGateSince.get? key =
      if key ∈ (g.gatesInForce now overcommitFit).map (·.key) then
        some ((g.ondemandGateSince.get? key).getD now)
      else none := by
  have hkeys : ((g.gatesInForce now overcommitFit).map fun gate =>
      { gate with since := (g.ondemandGateSince.get? gate.key).getD now }).map (·.key) =
        (g.gatesInForce now overcommitFit).map (·.key) := by
    rw [List.map_map]
    rfl
  rw [GateState.planOndemandGates,
    foldl_addGate now fun _ h => since_of_mem_gatesInForce g now overcommitFit h]
  simp only [List.nil_append, hkeys, Dict.get?_filter, get?_foldl_setDefault]
  by_cases hkey : key ∈ (g.gatesInForce now overcommitFit).map (·.key)
  · simp [hkey]
  · cases g.ondemandGateSince.get? key <;> simp [hkey]

lemma mem_planOndemandGates {gate : OnDemandGate} :
    gate ∈ (g.planOndemandGates now overcommitFit).1 ↔
      ∃ found ∈ g.gatesInForce now overcommitFit,
        { found with since := (g.ondemandGateSince.get? found.key).getD now } = gate := by
  rw [planOndemandGates_fst, List.mem_insertionSort, List.mem_map]

lemma mem_keys_planOndemandGates (key : String × Nat) :
    key ∈ (g.planOndemandGates now overcommitFit).1.map (·.key) ↔
      key ∈ (g.gatesInForce now overcommitFit).map (·.key) := by
  simp only [List.mem_map, mem_planOndemandGates]
  constructor
  · rintro ⟨_, ⟨found, hfound, rfl⟩, rfl⟩
    exact ⟨found, hfound, rfl⟩
  · rintro ⟨found, hfound, rfl⟩
    exact ⟨_, ⟨found, hfound, rfl⟩, rfl⟩

end Warnings

section Reports

/-- What was warned of, pass by pass. -/
def warnings (moves : List GateMove) : List (Instant × List (String × Nat)) :=
  (moves.foldl (fun (seen : GateState × List (Instant × List (String × Nat))) move =>
    (seen.1.apply move, seen.2 ++ match move with
      | .warned now overcommitFit =>
        [(now, (seen.1.planOndemandGates now overcommitFit).1.map (·.key))]
      | _ => [])) ({}, [])).2

lemma warnings_concat (moves : List GateMove) (move : GateMove) : warnings (moves ++ [move]) =
    warnings moves ++ match move with
      | .warned now overcommitFit =>
        [(now, ((gateRun moves).planOndemandGates now overcommitFit).1.map (·.key))]
      | _ => [] := by
  have hstate : ∀ seen : GateState × List (Instant × List (String × Nat)),
      (moves.foldl (fun (seen : GateState × List (Instant × List (String × Nat))) move =>
        (seen.1.apply move, seen.2 ++ match move with
          | .warned now overcommitFit =>
            [(now, (seen.1.planOndemandGates now overcommitFit).1.map (·.key))]
          | _ => [])) seen).1 = moves.foldl GateState.apply seen.1 := by
    induction moves with
    | nil => exact fun seen => rfl
    | cons m moves ih => exact fun seen => ih _
  rw [warnings, List.foldl_append, List.foldl_cons, List.foldl_nil, hstate]
  rfl

lemma gateSince_apply (g : GateState) (move : GateMove)
    (h : ∀ now overcommitFit, move ≠ .warned now overcommitFit) :
    (g.apply move).ondemandGateSince = g.ondemandGateSince := by
  cases move with
  | warned now overcommitFit => exact absurd rfl (h now overcommitFit)
  | _ => rfl

/-- The dates which are kept are those of the stretches of warnings. -/
lemma get?_gateSince (moves : List GateMove) (key : String × Nat) :
    (gateRun moves).ondemandGateSince.get? key = (Library.standing (warnings moves)).get? key := by
  induction moves using List.reverseRecOn with
  | nil => rfl
  | append_singleton moves move ih =>
    rw [gateRun_concat, warnings_concat]
    cases move with
    | warned now overcommitFit =>
      rw [standing_concat, get?_stampStanding, ← ih, GateState.apply, get?_planOndemandGates]
      have hsame := mem_keys_planOndemandGates (gateRun moves) now overcommitFit key
      by_cases hkey : key ∈ ((gateRun moves).gatesInForce now overcommitFit).map (·.key)
      · rw [if_pos hkey, if_pos (hsame.mpr hkey)]
      · rw [if_neg hkey, if_neg (hsame.not.mpr hkey)]
    | _ =>
      rw [gateSince_apply _ _ (by simp), ih, List.append_nil]

/-- After the run, the guard of this number holds the candidate back: its class has no node or is stuck, or
guard 4 stops the class, or found that the ask of the candidate does not fit. -/
def HeldBack (moves : List GateMove) (config : Config) (durationSeconds : Nat) (now : Instant) (ref : Ref) :
    Nat → Prop
  | 1 => (gateRun moves).controller.classNodeCounts.get?
      ((gateRun moves).controller.candidate ref).gpuClassLabel = some 0
  | 3 => ((gateRun moves).controller.candidate ref).gpuClassLabel ∈
      (gateRun moves).controller.stuckHolderGpuClasses
  | 4 => if config.ondemandOvercommitFit then OvercommitHeld moves ref
      else (gateRun moves).controller.overcommitHolds config ((gateRun moves).controller.candidate ref)
        durationSeconds now
  | _ => False

/-- The pending candidates of a class. -/
def pendingOf (s : ControllerState) (label : String) : List Ref :=
  s.ondemandCandidates.values.filter fun ref => (s.candidate ref).gpuClassLabel = label

section Counting

variable (s : ControllerState) (label : String) (counted : OnDemandCandidate → Bool)

lemma waiting_eq : s.waiting label counted =
    ((pendingOf s label).filter fun ref => counted (s.candidate ref)).length := by
  rw [ControllerState.waiting, List.filter_map, List.length_map, pendingOf, List.filter_filter]
  refine congrArg List.length (List.filter_congr fun ref _ => ?_)
  exact Bool.and_comm _ _

lemma waiting_ne_zero : s.waiting label counted ≠ 0 ↔ ∃ ref ∈ pendingOf s label, counted (s.candidate ref) := by
  rw [waiting_eq, Nat.ne_zero_iff_zero_lt, List.length_pos_iff_exists_mem]
  simp only [List.mem_filter]

open Classical in
lemma waiting_eq_of_iff {held : Ref → Prop}
    (h : ∀ ref ∈ pendingOf s label, counted (s.candidate ref) = true ↔ held ref) :
    s.waiting label counted = ((pendingOf s label).filter fun ref => decide (held ref)).length := by
  rw [waiting_eq]
  refine congrArg List.length (List.filter_congr fun ref href => ?_)
  exact Bool.eq_iff_iff.mpr ((h ref href).trans decide_eq_true_iff.symm)

lemma label_of_mem_pendingOf {ref : Ref} (h : ref ∈ pendingOf s label) :
    (s.candidate ref).gpuClassLabel = label :=
  of_decide_eq_true (List.mem_filter.mp h).2

end Counting

variable (moves : List GateMove) (now : Instant)

lemma counted_iff_overcommitHeld (ref : Ref) :
    countedByOvercommit true ((gateRun moves).controller.candidate ref) = true ↔ OvercommitHeld moves ref := by
  rw [← notedHeld_gateRun, ← heldByOvercommit_candidate]
  rfl

lemma exists_gateInForce (overcommitFit : Bool) (label : String) (number : Nat) :
    (∃ gate ∈ (gateRun moves).gatesInForce now overcommitFit, gate.key = (label, number)) ↔
      number = 1 ∧ (gateRun moves).controller.classNodeCounts.get? label = some 0 ∨
        number = 3 ∧ label ∈ (gateRun moves).controller.stuckHolderGpuClasses ∨
        number = 4 ∧ label ∈ (gateRun moves).controller.overcommittedGpuClasses ∧
          (overcommitFit →
            ∃ ref ∈ pendingOf (gateRun moves).controller label, OvercommitHeld moves ref) := by
  have hheld : overcommitFit →
      ((gateRun moves).controller.waiting label (countedByOvercommit overcommitFit) ≠ 0 ↔
        ∃ ref ∈ pendingOf (gateRun moves).controller label, OvercommitHeld moves ref) := by
    rintro rfl
    simp only [waiting_ne_zero, counted_iff_overcommitHeld]
  simp only [mem_gatesInForce, mem_noNodeGates, mem_stuckHolderGates, mem_overcommitGates]
  constructor
  · rintro ⟨gate, ⟨_, hzero, rfl⟩ | ⟨_, hstuck, rfl⟩ | ⟨_, hover, hcounted, rfl⟩, hkey⟩ <;> cases hkey
    · exact .inl ⟨rfl, hzero⟩
    · exact .inr (.inl ⟨rfl, hstuck⟩)
    · exact .inr (.inr ⟨rfl, hover, fun hfit => (hheld hfit).mp (hcounted hfit)⟩)
  · rintro (⟨rfl, hzero⟩ | ⟨rfl, hstuck⟩ | ⟨rfl, hover, hcounted⟩)
    · exact ⟨_, .inl ⟨label, hzero, rfl⟩, rfl⟩
    · exact ⟨_, .inr (.inl ⟨label, hstuck, rfl⟩), rfl⟩
    · exact ⟨_, .inr (.inr ⟨label, hover, fun hfit => (hheld hfit).mpr (hcounted hfit), rfl⟩), rfl⟩

open Classical in
/-- A gate counts whom it holds back. -/
lemma waiting_gateInForce {config : Config} {gate : OnDemandGate}
    (h : gate ∈ (gateRun moves).gatesInForce now config.ondemandOvercommitFit) (durationSeconds : Nat) :
    gate.waiting = ((pendingOf (gateRun moves).controller gate.label).filter fun ref =>
      decide (HeldBack moves config durationSeconds now ref gate.guard)).length := by
  rw [mem_gatesInForce, mem_noNodeGates, mem_stuckHolderGates, mem_overcommitGates] at h
  rcases h with ⟨label, hzero, rfl⟩ | ⟨label, hstuck, rfl⟩ | ⟨label, hover, -, rfl⟩ <;>
    refine waiting_eq_of_iff _ _ _ fun ref href => ?_ <;>
    have hlabel := label_of_mem_pendingOf _ _ href
  · simp [HeldBack, hlabel, hzero]
  · simp [HeldBack, hlabel, hstuck]
  · cases hfit : config.ondemandOvercommitFit with
    | true =>
      rw [HeldBack, hfit]
      exact counted_iff_overcommitHeld moves ref
    | false => simp [HeldBack, countedByOvercommit, overcommitHolds, hfit, hlabel, hover]

open Classical in
/-- After any run, a pass warns of each gate once and in order: of guards 1b and 3 for the classes at which
the preflight stops, of guard 4 for those which are paused, where it is judged by the ask only while it
holds one.  Each is dated with the first of the warnings since which it stands without a break, and counts
the candidates of the class which are held back by it: where guard 4 is judged by the ask, those of which it
found in the run that they do not fit, and of which no preflight has started since. -/
theorem gates_over_a_run (moves : List GateMove) (config : Config) (durationSeconds : Nat) (now : Instant) :
    let s := (gateRun moves).controller
    let gates := ((gateRun moves).planOndemandGates now config.ondemandOvercommitFit).1
    gates.Pairwise (fun a b => toLex a.key < toLex b.key) ∧
      (∀ label number, (∃ gate ∈ gates, gate.key = (label, number)) ↔
        number = 1 ∧ s.classNodeCounts.get? label = some 0 ∨
          number = 3 ∧ label ∈ s.stuckHolderGpuClasses ∨
          number = 4 ∧ label ∈ s.overcommittedGpuClasses ∧
            (config.ondemandOvercommitFit → ∃ ref ∈ pendingOf s label, OvercommitHeld moves ref)) ∧
      ∀ gate ∈ gates,
        some gate.since = ((unbroken gate.key
          (warnings (moves ++ [.warned now config.ondemandOvercommitFit]))).head?.map Prod.fst) ∧
        gate.waiting = ((pendingOf s gate.label).filter fun ref =>
          decide (HeldBack moves config durationSeconds now ref gate.guard)).length := by
  intro s gates
  have hkeys := mem_keys_planOndemandGates (gateRun moves) now config.ondemandOvercommitFit
  refine ⟨?_, fun label number => ?_, fun gate hgate => ⟨?_, ?_⟩⟩
  · have hnodup := nodup_gatesInForce (gateRun moves) now config.ondemandOvercommitFit
    simp only [gates, planOndemandGates_fst]
    apply pairwise_insertionSort_lt
    have hlex := hnodup.map toLex.injective
    rw [List.map_map] at hlex ⊢
    exact hlex
  · rw [← exists_gateInForce]
    simpa only [List.mem_map] using hkeys (label, number)
  · have hnoted := get?_gateSince (moves ++ [.warned now config.ondemandOvercommitFit]) gate.key
    rw [gateRun_concat, GateState.apply, get?_planOndemandGates, get?_standing,
      if_pos ((hkeys _).mp (List.mem_map_of_mem hgate))] at hnoted
    obtain ⟨found, hfound, rfl⟩ := (mem_planOndemandGates _ _ _).mp hgate
    exact hnoted
  · obtain ⟨found, hfound, rfl⟩ := (mem_planOndemandGates _ _ _).mp hgate
    exact waiting_gateInForce moves now hfound durationSeconds

end Reports

end GpuReservation.Proofs
