import GpuReservation.Proofs.RelinkGuarantee
import GpuReservation.Proofs.SweepVictims

/-!
# GPUs left free for several boundaries

The boundaries of a sweep are planned one after the other, each against what is free once the pods
doomed before are gone.
-/

namespace GpuReservation.Proofs

open GpuReservation.Library GpuReservation.Model

lemma gpusOf_append (pods pods' : List PodRuntimeView) :
    gpusOf (pods ++ pods') = gpusOf pods + gpusOf pods' := by
  simp [gpusOf]

lemma gpusOf_perm {pods pods' : List PodRuntimeView} (h : pods.Perm pods') :
    gpusOf pods = gpusOf pods' :=
  (h.map _).sum_eq

lemma gpusOf_sublist {pods pods' : List PodRuntimeView} (h : pods.Sublist pods') :
    gpusOf pods ≤ gpusOf pods' :=
  (h.map _).sum_le_sum fun _ _ => Nat.zero_le _

section Pick

variable (n : Nat) (l l' : List PodRuntimeView) (killed : Nat)

variable {n l killed} in
/-- Candidates with enough GPUs come before the others: nothing else is picked. -/
lemma pickUntil_append (h : n ≤ killed + gpusOf l) : pickUntil n (l ++ l') killed <+: l := by
  induction l generalizing killed with
  | nil =>
    have hn : n ≤ killed := by simpa [gpusOf] using h
    cases l' with
    | nil => exact List.prefix_rfl
    | cons p l' =>
      rw [List.nil_append, pickUntil, if_pos hn]
  | cons p l ih =>
    rw [List.cons_append, pickUntil]
    split
    · exact List.nil_prefix
    · refine List.cons_prefix_cons.mpr ⟨rfl, ih ?_⟩
      simp only [gpusOf, List.map_cons, List.sum_cons] at h ⊢
      omega

end Pick

/-- The pods which are counted against the capacity of their class. -/
def counted (gpuClass : String) (pods : List PodRuntimeView) : List PodRuntimeView :=
  pods.filter fun p => p.nodeResident && !p.terminating && !p.nodeExcluded && p.gpuClass = gpuClass

/-- The pods of a class among those to be killed. -/
def chosenOf (gpuClass : String) (toKill : List (PodRuntimeView × PodEvent)) : List PodRuntimeView :=
  (toKill.map Prod.fst).filter fun p => p.gpuClass = gpuClass

lemma freeOf_of_get? {capacity : Dict String Nat} {gpuClass : String} {n : Nat}
    (h : capacity.get? gpuClass = some n) (pods : List PodRuntimeView) :
    freeOf capacity pods gpuClass = n - gpusOf (counted gpuClass pods) := by
  rw [freeOf, freeCapacityByClass, Dict.get?_mapValues, h]
  rfl

lemma freeOf_of_not_mem {capacity : Dict String Nat} {gpuClass : String} (h : gpuClass ∉ capacity)
    (pods : List PodRuntimeView) : freeOf capacity pods gpuClass = 0 := by
  rw [freeOf, freeCapacityByClass, Dict.get?_mapValues, Dict.get?_eq_none_iff.mpr h]
  rfl

lemma freeOf_sublist {pods pods' : List PodRuntimeView} (h : pods.Sublist pods')
    (capacity : Dict String Nat) (gpuClass : String) :
    freeOf capacity pods' gpuClass ≤ freeOf capacity pods gpuClass := by
  by_cases hclass : gpuClass ∈ capacity
  · obtain ⟨n, hn⟩ := Dict.mem_iff_get?.mp hclass
    have hgpus : gpusOf (counted gpuClass pods) ≤ gpusOf (counted gpuClass pods') :=
      gpusOf_sublist (h.filter _)
    rw [freeOf_of_get? hn, freeOf_of_get? hn]
    omega
  · rw [freeOf_of_not_mem hclass, freeOf_of_not_mem hclass]

lemma chosenOf_append (gpuClass : String) (toKill victims : List (PodRuntimeView × PodEvent)) :
    chosenOf gpuClass (toKill ++ victims) = chosenOf gpuClass toKill ++ chosenOf gpuClass victims := by
  rw [chosenOf, List.map_append, List.filter_append]
  rfl

section Free

variable {config : Config} {now : Instant} {capacity : Dict String Nat} {pods : List PodRuntimeView}
  {s : ControllerState} {boundaries : List Instant} {headroomDue : Bool}
  {toKill : List (PodRuntimeView × PodEvent)}

lemma ChosenSoundly.preemptable
    (h : ChosenSoundly config now capacity pods s boundaries headroomDue toKill)
    {v : PodRuntimeView × PodEvent} (hv : v ∈ toKill) :
    v.1 ∈ s.preemptable v.1.gpuClass pods now := by
  obtain ⟨_, -, hsound⟩ := h.sound v hv
  refine List.mem_filter.mpr ⟨hsound.mem, ?_⟩
  simp [hsound.admitted, hsound.resident, hsound.placed, hsound.living, hsound.gpus, hsound.past]

lemma mem_chosenOf {gpuClass : String} {p : PodRuntimeView} :
    p ∈ chosenOf gpuClass toKill ↔ p.gpuClass = gpuClass ∧ ∃ v ∈ toKill, v.1 = p := by
  simp only [chosenOf, List.mem_filter, List.mem_map, decide_eq_true_eq]
  exact and_comm

lemma ChosenSoundly.chosenOf_subset
    (h : ChosenSoundly config now capacity pods s boundaries headroomDue toKill)
    (gpuClass : String) : chosenOf gpuClass toKill ⊆ s.preemptable gpuClass pods now := by
  intro p hp
  obtain ⟨rfl, v, hv, rfl⟩ := mem_chosenOf.mp hp
  exact h.preemptable hv

lemma ChosenSoundly.nodup_chosenOf
    (h : ChosenSoundly config now capacity pods s boundaries headroomDue toKill)
    (gpuClass : String) : (chosenOf gpuClass toKill).Nodup := by
  have hnodup : ((toKill.map Prod.fst).map (·.uid)).Nodup := by
    rw [List.map_map]
    exact h.once
  exact hnodup.of_map.sublist List.filter_sublist

/-- Of a candidate, its uid tells whether it is chosen. -/
lemma ChosenSoundly.mem_chosenOf_iff (hpods : (pods.map (·.uid)).Nodup)
    (h : ChosenSoundly config now capacity pods s boundaries headroomDue toKill)
    {p : PodRuntimeView} (hp : p ∈ pods) :
    p ∈ chosenOf p.gpuClass toKill ↔ p.uid ∈ toKill.map (·.1.uid) := by
  rw [mem_chosenOf, List.mem_map]
  constructor
  · rintro ⟨-, v, hv, rfl⟩
    exact ⟨v, hv, rfl⟩
  · rintro ⟨v, hv, huid⟩
    have hmem : v.1 ∈ pods := (mem_preemptable (h.preemptable hv)).1
    exact ⟨rfl, v, hv, view_of_uid hpods hmem hp huid⟩

/-- The pods still to be killed, and those chosen, are those counted. -/
lemma ChosenSoundly.gpusOf_counted (hpods : (pods.map (·.uid)).Nodup)
    (h : ChosenSoundly config now capacity pods s boundaries headroomDue toKill)
    (gpuClass : String) :
    gpusOf (counted gpuClass pods) =
      gpusOf (chosenOf gpuClass toKill) + gpusOf (counted gpuClass (notDoomed pods toKill)) := by
  have hsplit : ((counted gpuClass pods).filter (fun p => p.uid ∈ toKill.map (·.1.uid)) ++
      (counted gpuClass pods).filter (fun p => !decide (p.uid ∈ toKill.map (·.1.uid)))).Perm
        (counted gpuClass pods) := List.filter_append_perm _ _
  have hrest : (counted gpuClass pods).filter (fun p => !decide (p.uid ∈ toKill.map (·.1.uid))) =
      counted gpuClass (notDoomed pods toKill) := by
    rw [counted, counted, notDoomed, List.filter_comm]
    congr 2
    funext p
    simp
  have hdoomed : ((counted gpuClass pods).filter fun p => p.uid ∈ toKill.map (·.1.uid)).Perm
      (chosenOf gpuClass toKill) := by
    have hnodup : (counted gpuClass pods).Nodup := hpods.of_map.sublist List.filter_sublist
    rw [List.perm_ext_iff_of_nodup (hnodup.sublist List.filter_sublist) (h.nodup_chosenOf gpuClass)]
    intro p
    constructor
    · intro hp
      obtain ⟨hcounted, huid⟩ := List.mem_filter.mp hp
      obtain ⟨hmem, hkeep⟩ := List.mem_filter.mp hcounted
      have hclass : p.gpuClass = gpuClass := by simp_all
      rw [← hclass, h.mem_chosenOf_iff hpods hmem]
      exact of_decide_eq_true huid
    · intro hp
      obtain ⟨hmem, hclass, -, hres, hplaced, hliving, -, -⟩ :=
        mem_preemptable (h.chosenOf_subset gpuClass hp)
      refine List.mem_filter.mpr ⟨List.mem_filter.mpr ⟨hmem, ?_⟩, ?_⟩
      · simp [hres, hplaced, hliving, hclass]
      · rw [decide_eq_true_eq, ← h.mem_chosenOf_iff hpods hmem, hclass]
        exact hp
  rw [← gpusOf_perm hsplit, gpusOf_append, hrest, gpusOf_perm hdoomed]

lemma ChosenSoundly.freeOf_notDoomed (hpods : (pods.map (·.uid)).Nodup)
    (h : ChosenSoundly config now capacity pods s boundaries headroomDue toKill)
    {gpuClass : String} (hclass : gpuClass ∈ capacity) :
    freeOf capacity (notDoomed pods toKill) gpuClass =
      freeOf capacity pods gpuClass + gpusOf (chosenOf gpuClass toKill) := by
  obtain ⟨n, hn⟩ := Dict.mem_iff_get?.mp hclass
  have hcounted := h.gpusOf_counted hpods gpuClass
  rw [freeOf_of_get? hn, freeOf_of_get? hn]
  omega

variable (capacity) in
lemma ChosenSoundly.freeOf_notDoomed_le (hpods : (pods.map (·.uid)).Nodup)
    (h : ChosenSoundly config now capacity pods s boundaries headroomDue toKill)
    (gpuClass : String) :
    freeOf capacity (notDoomed pods toKill) gpuClass ≤
      freeOf capacity pods gpuClass + gpusOf (chosenOf gpuClass toKill) := by
  by_cases hclass : gpuClass ∈ capacity
  · rw [h.freeOf_notDoomed hpods hclass]
  · rw [freeOf_of_not_mem hclass, freeOf_of_not_mem hclass]
    omega

end Free

section Demand

variable (s : ControllerState) (now : Instant) (pods : List PodRuntimeView)
  (toKill : List (PodRuntimeView × PodEvent))

/-- A doomed pod serves no booking any more. -/
lemma need_le_notDoomed (r : ReservationResponse) :
    s.need pods now r ≤ s.need (notDoomed pods toKill) now r := by
  have hserve : s.chainedGpus (notDoomed pods toKill) now r.id ≤ s.chainedGpus pods now r.id :=
    gpusOf_sublist (List.filter_sublist.filter _)
  rw [ControllerState.need, ControllerState.need]
  omega

lemma demandOf_le_notDoomed (boundary : Instant) (gpuClass : String) :
    demandOf s boundary pods now gpuClass ≤
      demandOf s boundary (notDoomed pods toKill) now gpuClass := by
  rw [demandOf_eq, demandOf_eq]
  exact List.sum_le_sum fun r _ => need_le_notDoomed s now pods toKill r

variable {s now pods} in
/-- A pod past its guarantee claims no booking but its own. -/
lemma reservationsClaimedBy_of_pastGuarantee {p : PodRuntimeView} {id : Nat}
    (hid : p.reservationId = some id) (hpast : s.pastGuarantee p now = true) :
    s.reservationsClaimedBy id now = {id} := by
  rw [ControllerState.reservationsClaimedBy]
  cases hfind : findReservation s.reservations id with
  | none => rfl
  | some res =>
    have hend : s.computeGuaranteedUntil now res ≤ now := by
      simpa [ControllerState.pastGuarantee, ControllerState.guaranteeEnd, hid, hfind] using hpast
    have hchain : s.chainFor res now = [] := by
      rw [List.eq_nil_iff_forall_not_mem]
      intro w hw
      have hne : s.chainFor res now ≠ [] := List.ne_nil_of_mem hw
      have hlast : now < s.computeGuaranteedUntil now res := by
        rw [ControllerState.computeGuaranteedUntil, runEnd, List.getLast?_eq_some_getLast hne]
        exact (mem_chainFor s (List.getLast_mem hne)).2
      exact absurd hend (not_le.mpr hlast)
    by_cases hres : res.kind = .booking ∧ res.user.isSome
    · simp [hres, hchain]
    · simp only [hres, if_false]

/-- No pod which may be killed was admitted under a booking which starts at one of the
boundaries. -/
def NoVictimServes (boundaries : List Instant) : Prop :=
  ∀ p ∈ pods, s.pastGuarantee p now = true → ∀ b ∈ boundaries, ∀ r ∈ s.reservations,
    s.startsAt b r = true → p.reservationId ≠ some r.id

variable {s now pods toKill} in
/-- The demand does not depend on doomed pods which serve none of its bookings. -/
lemma demandOf_notDoomed (hpods : (pods.map (·.uid)).Nodup) {boundaries : List Instant}
    (hserve : NoVictimServes s now pods boundaries)
    (hpast : ∀ v ∈ toKill, v.1 ∈ pods ∧ s.pastGuarantee v.1 now = true) {b : Instant}
    (hb : b ∈ boundaries) (gpuClass : String) :
    demandOf s b (notDoomed pods toKill) now gpuClass = demandOf s b pods now gpuClass := by
  rw [demandOf_eq, demandOf_eq]
  congr 1
  refine List.map_congr_left fun r hr => ?_
  obtain ⟨hmem, hstarts⟩ := List.mem_filter.mp hr
  obtain ⟨hstarts, -⟩ := (Bool.and_eq_true _ _).mp hstarts
  rw [ControllerState.need, ControllerState.need, ControllerState.chainedGpus,
    ControllerState.chainedGpus, notDoomed, List.filter_filter]
  congr 3
  refine List.filter_congr fun p hp => ?_
  -- a doomed pod claims its own booking only, which is not this one
  have hdoomed : p.uid ∈ toKill.map (·.1.uid) →
      (p.reservationId.any fun id => r.id ∈ s.reservationsClaimedBy id now) = false := by
    intro huid
    obtain ⟨v, hv, huid⟩ := List.mem_map.mp huid
    obtain ⟨hvmem, hvpast⟩ := hpast v hv
    obtain rfl : v.1 = p := view_of_uid hpods hvmem hp huid
    cases hid : v.1.reservationId with
    | none => rfl
    | some id =>
      have hne : r.id ≠ id := by
        intro heq
        exact hserve v.1 hp hvpast b hb r hmem hstarts (by rw [hid, heq])
      simp [reservationsClaimedBy_of_pastGuarantee hid hvpast, hne]
  by_cases huid : p.uid ∈ toKill.map (·.1.uid)
  · rw [hdoomed huid]
    simp
  · simp [huid]

end Demand

section Stage

lemma filter_flatMap_class {f : String → List PodRuntimeView}
    (hclass : ∀ k, ∀ v ∈ f k, v.gpuClass = k) {keys : List String} (hkeys : keys.Nodup)
    (gpuClass : String) :
    (keys.flatMap f).filter (fun p => p.gpuClass = gpuClass) =
      if gpuClass ∈ keys then f gpuClass else [] := by
  induction keys with
  | nil => rfl
  | cons k keys ih =>
    obtain ⟨hk, hkeys⟩ := List.nodup_cons.mp hkeys
    rw [List.flatMap_cons, List.filter_append, ih hkeys]
    by_cases heq : k = gpuClass
    · subst heq
      have hall : (f k).filter (fun p => p.gpuClass = k) = f k :=
        List.filter_eq_self.mpr fun v hv => decide_eq_true (hclass k v hv)
      simp [hall, hk]
    · have hnone : (f k).filter (fun p => p.gpuClass = gpuClass) = [] :=
        List.filter_eq_nil_iff.mpr fun v hv => by simp [hclass k v hv, heq]
      simp [hnone, Ne.symm heq]

variable (ans : ∀ q, Answer q → Prop) (s : ControllerState) (now : Instant)
  (capacity : Dict String Nat) (pods : List PodRuntimeView)

/-- The pods which one boundary adds to those to be killed, class by class. -/
def PlansBoundary (boundary : Instant) (toKill victims : List (PodRuntimeView × PodEvent)) : Prop :=
  ∀ gpuClass, match (s.planBoundaryCandidates boundary capacity (notDoomed pods toKill)
      now).killsNeededByClass.get? gpuClass with
    | none => chosenOf gpuClass victims = []
    | some n => ∃ l : List PodRuntimeView,
        ans (.shuffle (s.preemptable gpuClass (notDoomed pods toKill) now)) l ∧
          chosenOf gpuClass victims = pickUntil n l 0

variable {ans s now capacity pods} {config : Config} {s₁ s₂ : ControllerState}
  {tr : List (Sigma Answer)} {toKill toKill' victims : List (PodRuntimeView × PodEvent)}
  {boundary : Instant}

lemma victimsOf_pickedBy (hlocal : config.preemptionDelegateSelection = false)
    {need : BoundaryPreemptionNeed} {at_ : Option Instant}
    (h : (victimsOf config now need at_).Exec ans s₁ tr victims s₂) :
    s₂ = s₁ ∧ ∃ selected, PickedBy ans need selected ∧
      victims.map Prod.fst = planVictims need selected := by
  rw [victimsOf] at h
  split at h
  · rename_i hnone
    obtain ⟨-, rfl, rfl⟩ := h
    refine ⟨rfl, ∅, fun gpuClass => ?_, ?_⟩
    · rw [Dict.get?, hnone]
      rfl
    · rw [planVictims, Dict.keys, hnone]
      rfl
  · rw [Prog.exec_bind] at h
    obtain ⟨tr₁, tr₂, selected, c, rfl, hselect, -, rfl, rfl⟩ := h
    rw [selectVictims, hlocal] at hselect
    obtain ⟨hs, -, hpicked⟩ := selectVictimsLocally_pickedBy hselect
    exact ⟨hs, selected, hpicked, by simp [Function.comp_def]⟩

lemma planBoundary_plans (hlocal : config.preemptionDelegateSelection = false)
    (hans : ∀ q a, ans q a → canAnswer q a) (hmarks : OnlyMarks s s₁)
    (hfired : s₁.firedAt boundary (boundary ≤ now) = false)
    (h : (planBoundary config now capacity pods toKill boundary).Exec ans s₁ tr toKill' s₂) :
    s₂ = s₁.markFired boundary (boundary ≤ now) ∧ ∃ victims, toKill' = toKill ++ victims ∧
      PlansBoundary ans s now capacity pods boundary toKill victims := by
  rw [planBoundary, Prog.exec_get_bind, hfired] at h
  rw [if_neg Bool.false_ne_true, Prog.exec_modify_bind, Prog.exec_bind] at h
  obtain ⟨tr₁, tr₂, victims, c, rfl, hvictims, rfl, rfl, rfl⟩ := h
  obtain ⟨fired, last, rfl⟩ := hmarks
  obtain ⟨rfl, selected, hpicked, hplan⟩ := victimsOf_pickedBy hlocal hvictims
  refine ⟨rfl, victims, rfl, fun gpuClass => ?_⟩
  -- the marks of the sweep do not enter the plan
  change PickedBy ans (s.planBoundaryCandidates boundary capacity (notDoomed pods toKill) now)
    selected at hpicked
  change victims.map Prod.fst = planVictims
    (s.planBoundaryCandidates boundary capacity (notDoomed pods toKill) now) selected at hplan
  have hclass : ∀ k, ∀ v ∈ (selected.get? k).getD [], v.gpuClass = k := by
    intro k v hv
    have hk := hpicked.locally hans k
    split at hk
    · rw [hk] at hv
      exact absurd hv List.not_mem_nil
    · obtain ⟨l, hperm, hsel⟩ := hk
      rw [hsel, Option.getD_some] at hv
      have hoffered := hperm.subset ((pickUntil_front _ l 0).subset hv)
      exact (mem_preemptable ((needFrom_boundary boundary _ k).subset hoffered)).2.1
  have hchosen : chosenOf gpuClass victims =
      if gpuClass ∈ (s.planBoundaryCandidates boundary capacity (notDoomed pods toKill)
        now).killsNeededByClass then (selected.get? gpuClass).getD [] else [] := by
    rw [chosenOf, hplan, planVictims]
    exact filter_flatMap_class hclass (Dict.nodup _) gpuClass
  have hpick := hpicked gpuClass
  cases hn : (s.planBoundaryCandidates boundary capacity (notDoomed pods toKill)
      now).killsNeededByClass.get? gpuClass with
  | none =>
    change chosenOf gpuClass victims = []
    rw [hchosen, if_neg (Dict.get?_eq_none_iff.mp hn)]
  | some n =>
    have hmem : gpuClass ∈ (s.planBoundaryCandidates boundary capacity (notDoomed pods toKill)
        now).killsNeededByClass := Dict.mem_iff_get?.mpr ⟨n, hn⟩
    rw [hn] at hpick
    obtain ⟨l, hl, hsel⟩ := hpick
    have hoffered : offeredVictims
        (s.planBoundaryCandidates boundary capacity (notDoomed pods toKill) now) gpuClass =
          s.preemptable gpuClass (notDoomed pods toKill) now :=
      (offeredVictims_needOf _ _ _ gpuClass).trans (if_pos hmem)
    refine ⟨l, ?_, ?_⟩
    · rw [← hoffered]
      exact hl
    · rw [hchosen, if_pos hmem, hsel, Option.getD_some]

variable (s now) in
/-- The boundaries whose current phase is not evaluated yet. -/
def evaluated (boundaries : List Instant) : List Instant :=
  boundaries.filter fun b => !s.firedAt b (b ≤ now)

/-- What the planning of every boundary keeps, in order, the whole planning has. -/
lemma planBoundaries_run {J : List Instant → List (PodRuntimeView × PodEvent) → Prop}
    (hlocal : config.preemptionDelegateSelection = false) (hans : ∀ q a, ans q a → canAnswer q a)
    (hpods : (pods.map (·.uid)).Nodup) {boundaries : List Instant} (hnodup : boundaries.Nodup)
    (hnil : J [] [])
    (hstep : ∀ done b toKill victims, b ∈ evaluated s now boundaries →
      ChosenSoundly config now capacity pods s boundaries false toKill →
      PlansBoundary ans s now capacity pods b toKill victims → J done toKill →
      J (done ++ [b]) (toKill ++ victims))
    (h : (boundaries.foldlM (planBoundary config now capacity pods) []).Exec ans s tr toKill s₂) :
    ChosenSoundly config now capacity pods s boundaries false toKill ∧
      J (evaluated s now boundaries) toKill := by
  have hstart : ChosenSoundly config now capacity pods s boundaries false [] :=
    ⟨List.nodup_nil, by simp⟩
  -- the marks of the boundaries still to come are those the sweep began with
  have hloop := Prog.exec_foldlM
    (fun (l : List Instant) toKill c _ => OnlyMarks s c ∧
      ChosenSoundly config now capacity pods s boundaries false toKill ∧
      (∀ b ∈ l, ∀ phase, c.firedAt b phase = s.firedAt b phase) ∧
      ∃ done, boundaries = done ++ l ∧ J (evaluated s now done) toKill)
    ?_ ⟨⟨_, _, rfl⟩, hstart, fun _ _ _ => rfl, [], rfl, hnil⟩ h
  · obtain ⟨-, hchosen, -, done, hdone, hJ⟩ := hloop
    rw [List.append_nil] at hdone
    subst hdone
    exact ⟨hchosen, hJ⟩
  · rintro b l toKill c tr tr' toKill' c' ⟨hmarks, hchosen, hfired, done, hdone, hJ⟩ hbody
    have hmem : b ∈ boundaries := by simp [hdone]
    obtain ⟨hmarks', -, hchosen'⟩ := planBoundary_exec hans hpods hmem hmarks hchosen hbody
    have hsnoc : evaluated s now (done ++ [b]) =
        evaluated s now done ++ if s.firedAt b (b ≤ now) then [] else [b] := by
      rw [evaluated, List.filter_append]
      cases hb : s.firedAt b (b ≤ now) <;> simp [evaluated, hb]
    by_cases hb : s.firedAt b (b ≤ now) = true
    · rw [planBoundary, Prog.exec_get_bind, hfired b List.mem_cons_self, if_pos hb] at hbody
      obtain ⟨-, rfl, rfl⟩ := hbody
      refine ⟨hmarks, hchosen, fun b' hb' => hfired b' (List.mem_cons_of_mem b hb'), done ++ [b],
        by simp [hdone], ?_⟩
      rw [hsnoc, if_pos hb, List.append_nil]
      exact hJ
    · have hunfired : c.firedAt b (b ≤ now) = false := by
        rw [hfired b List.mem_cons_self]
        exact Bool.not_eq_true _ |>.mp hb
      obtain ⟨rfl, victims, rfl, hplans⟩ := planBoundary_plans hlocal hans hmarks hunfired hbody
      refine ⟨hmarks', hchosen', fun b' hb' phase => ?_, done ++ [b], by simp [hdone], ?_⟩
      · have hne : b' ≠ b := by
          rintro rfl
          rw [hdone, List.nodup_append'] at hnodup
          exact (List.nodup_cons.mp hnodup.2.1).1 hb'
        rw [ControllerState.firedAt_markFired, decide_eq_false fun h => hne h.1, Bool.false_or]
        exact hfired b' (List.mem_cons_of_mem b hb') phase
      · rw [hsnoc, if_neg hb]
        refine hstep _ b toKill victims ?_ hchosen hplans hJ
        exact List.mem_filter.mpr ⟨hmem, by simpa using hb⟩

end Stage

section Together

variable (s : ControllerState) (now : Instant) (capacity : Dict String Nat)
  (pods : List PodRuntimeView) (boundaries : List Instant) (gpuClass : String)

/-- The needs of the bookings of a class which start at one of the boundaries and are open at the
last, all together. -/
def jointNeed : Nat :=
  ((boundaries.flatMap fun b => (demanding s b gpuClass).filter fun r =>
    boundaries.getLast?.any fun last => slotOpen r last).map (s.need pods now)).sum

/-- Every candidate of the class is chosen, or the free GPUs are enough for the bookings of all the
boundaries together. -/
def CoveredTogether (toKill : List (PodRuntimeView × PodEvent)) : Prop :=
  (∀ p ∈ s.preemptable gpuClass pods now, p.uid ∈ toKill.map (·.1.uid)) ∨
    jointNeed s now pods boundaries gpuClass ≤
      (freeOf capacity (notDoomed pods toKill) gpuClass).toNat

instance (toKill : List (PodRuntimeView × PodEvent)) :
    Decidable (CoveredTogether s now capacity pods boundaries gpuClass toKill) :=
  inferInstanceAs (Decidable (_ ∨ _))

/-- Candidates whose GPUs are enough for each of the boundaries alone are enough for all of them
together, unless they are all the candidates. -/
def CoverAloneCoversTogether : Prop :=
  ∀ chosen : List PodRuntimeView, chosen.Nodup → chosen ⊆ s.preemptable gpuClass pods now →
    (∀ b ∈ boundaries, demandOf s b pods now gpuClass ≤
      (freeOf capacity pods gpuClass + gpusOf chosen).toNat) →
    s.preemptable gpuClass pods now ⊆ chosen ∨ jointNeed s now pods boundaries gpuClass ≤
      (freeOf capacity (pods.filter (· ∉ chosen)) gpuClass).toNat

variable {s now capacity pods boundaries gpuClass} {config : Config} {all : List Instant}
  {ans : ∀ q, Answer q → Prop} {toKill victims : List (PodRuntimeView × PodEvent)}

lemma ChosenSoundly.freeOf_chosenOf (hpods : (pods.map (·.uid)).Nodup)
    (h : ChosenSoundly config now capacity pods s all false toKill) (gpuClass : String) :
    freeOf capacity (pods.filter (· ∉ chosenOf gpuClass toKill)) gpuClass =
      freeOf capacity (notDoomed pods toKill) gpuClass := by
  have hcounted : counted gpuClass (pods.filter (· ∉ chosenOf gpuClass toKill)) =
      counted gpuClass (notDoomed pods toKill) := by
    rw [counted, counted, notDoomed, List.filter_filter, List.filter_filter]
    refine List.filter_congr fun p hp => ?_
    by_cases hclass : p.gpuClass = gpuClass
    · subst hclass
      simp only [h.mem_chosenOf_iff hpods hp]
    · simp [hclass]
  by_cases hclass : gpuClass ∈ capacity
  · obtain ⟨n, hn⟩ := Dict.mem_iff_get?.mp hclass
    rw [freeOf_of_get? hn, freeOf_of_get? hn, hcounted]
  · rw [freeOf_of_not_mem hclass, freeOf_of_not_mem hclass]

/-- A boundary, once planned, is covered by what is free and chosen then, or takes every candidate. -/
lemma covered_step (hans : ∀ q a, ans q a → canAnswer q a) (hpods : (pods.map (·.uid)).Nodup)
    {done : List Instant} {b : Instant}
    (hchosen : ChosenSoundly config now capacity pods s all false toKill)
    (hplans : PlansBoundary ans s now capacity pods b toKill victims)
    (h : s.preemptable gpuClass pods now ⊆ chosenOf gpuClass toKill ∨ ∀ b ∈ done,
      demandOf s b pods now gpuClass ≤
        (freeOf capacity pods gpuClass + gpusOf (chosenOf gpuClass toKill)).toNat) :
    s.preemptable gpuClass pods now ⊆ chosenOf gpuClass (toKill ++ victims) ∨ ∀ b' ∈ done ++ [b],
      demandOf s b' pods now gpuClass ≤
        (freeOf capacity pods gpuClass + gpusOf (chosenOf gpuClass (toKill ++ victims))).toNat := by
  rw [chosenOf_append, gpusOf_append]
  rcases h with hall | hcovered
  · exact .inl (List.subset_append_of_subset_left _ hall)
  have hdemand := demandOf_le_notDoomed s now pods toKill b gpuClass
  have hfree := hchosen.freeOf_notDoomed_le capacity hpods gpuClass
  have hshort := killsNeeded_spec s now (notDoomed pods toKill) capacity b gpuClass
  have hpicked := hplans gpuClass
  -- the boundaries before this one stay covered
  have hsnoc : demandOf s b pods now gpuClass ≤ (freeOf capacity pods gpuClass +
      (gpusOf (chosenOf gpuClass toKill) + gpusOf (chosenOf gpuClass victims) : Nat)).toNat →
      ∀ b' ∈ done ++ [b], demandOf s b' pods now gpuClass ≤ (freeOf capacity pods gpuClass +
        (gpusOf (chosenOf gpuClass toKill) + gpusOf (chosenOf gpuClass victims) : Nat)).toNat := by
    intro hb b' hb'
    rcases List.mem_append.mp hb' with hb' | hb'
    · have hold := hcovered b' hb'
      omega
    · rw [List.mem_singleton.mp hb']
      exact hb
  cases hn : (s.planBoundaryCandidates b capacity (notDoomed pods toKill)
      now).killsNeededByClass.get? gpuClass with
  | none =>
    rw [hn] at hshort
    have hcover : demandOf s b (notDoomed pods toKill) now gpuClass ≤
        (freeOf capacity (notDoomed pods toKill) gpuClass).toNat := hshort
    exact .inr (hsnoc (by omega))
  | some n =>
    rw [hn] at hshort hpicked
    obtain ⟨hpos, hn⟩ := hshort
    obtain ⟨l, hl, hpick⟩ := hpicked
    rcases pickUntil_enough n l 0 with hevery | henough
    · refine .inl fun p hp => ?_
      obtain ⟨hmem, hclass, -⟩ := mem_preemptable hp
      by_cases huid : p.uid ∈ toKill.map (·.1.uid)
      · have hin := (hchosen.mem_chosenOf_iff hpods hmem).mpr huid
        exact List.mem_append_left _ (hclass ▸ hin)
      · refine List.mem_append_right _ ?_
        rw [hpick, hevery]
        refine (canAnswer_shuffle (hans _ _ hl)).symm.subset ?_
        refine List.mem_filter.mpr ⟨List.mem_filter.mpr ⟨hmem, by simpa using huid⟩, ?_⟩
        exact (List.mem_filter.mp hp).2
    · rw [← hpick] at henough
      exact .inr (hsnoc (by omega))

/-- The shuffles which put the preferred candidates first, in their order, where these are all. -/
def ShufflesTo (preferred : List PodRuntimeView) (q : Request) (a : Answer q) : Prop :=
  canAnswer q a ∧ match q, a with
    | .shuffle l, l' => (preferred.filter (· ∈ l)).Perm l → l' = preferred.filter (· ∈ l)
    | _, _ => True

lemma reorder_idxOf {l l' : List PodRuntimeView} (h : l'.Perm l) :
    reorder l (l'.map (l.idxOf ·)) = l' := by
  have hfind : (l'.map (l.idxOf ·)).filterMap (l[·]?) = l' := by
    rw [List.filterMap_map]
    have hall : ∀ p ∈ l', ((l[·]?) ∘ (l.idxOf ·)) p = some p := by
      intro p hp
      change l[l.idxOf p]? = some p
      have hlt : l.idxOf p < l.length := List.idxOf_lt_length_of_mem (h.subset hp)
      rw [List.getElem?_eq_getElem hlt, List.getElem_idxOf hlt]
    exact (List.filterMap_congr hall).trans List.filterMap_some
  rw [reorder, hfind, if_pos h]

/-- The controller can be answered so. -/
lemma exists_shufflesTo (preferred : List PodRuntimeView) (q : Request) :
    ∃ a, ShufflesTo preferred q a := by
  by_cases hq : ∃ l, q = .shuffle l ∧ (preferred.filter (· ∈ l)).Perm l
  · obtain ⟨l, rfl, hperm⟩ := hq
    refine ⟨preferred.filter (· ∈ l), ⟨0, { order := (preferred.filter (· ∈ l)).map (l.idxOf ·) },
      {}, {}, ?_⟩, fun _ => rfl⟩
    rw [answer, reorder_idxOf hperm]
  · refine ⟨worldAnswer {} rfl {} q, worldAnswer_canAnswer {} rfl {} q, ?_⟩
    cases q with
    | shuffle l => exact fun hperm => absurd ⟨l, rfl, hperm⟩ hq
    | _ => trivial

section Preferred

variable {α : Type} [DecidableEq α] {front left pool l : List α}

/-- The pool with the preferred ones before the others, once the front is gone. -/
lemma filter_preferred (hnodup : (front ++ left).Nodup) (hsub : front ++ left ⊆ pool)
    (hmem : ∀ p, p ∈ l ↔ p ∈ pool ∧ p ∉ front) :
    (front ++ left ++ pool.filter (· ∉ front ++ left)).filter (· ∈ l) =
      left ++ pool.filter (· ∉ front ++ left) := by
  have hfront : front.filter (· ∈ l) = [] := by
    refine List.filter_eq_nil_iff.mpr fun p hp => ?_
    simp [hmem, hp]
  have hleft : left.filter (· ∈ l) = left := by
    refine List.filter_eq_self.mpr fun p hp => decide_eq_true ((hmem p).mpr ⟨?_, fun hin => ?_⟩)
    · exact hsub (List.mem_append_right _ hp)
    · exact (List.nodup_append'.mp hnodup).2.2 hin hp
  have hrest : (pool.filter (· ∉ front ++ left)).filter (· ∈ l) =
      pool.filter (· ∉ front ++ left) := by
    refine List.filter_eq_self.mpr fun p hp => decide_eq_true ((hmem p).mpr ?_)
    obtain ⟨hpool, hp⟩ := List.mem_filter.mp hp
    exact ⟨hpool, fun hin => of_decide_eq_true hp (List.mem_append_left _ hin)⟩
  rw [List.filter_append, List.filter_append, hfront, hleft, hrest, List.nil_append]

lemma perm_preferred (hnodup : (front ++ left).Nodup) (hpool : pool.Nodup)
    (hsub : front ++ left ⊆ pool) (hl : l.Nodup) (hmem : ∀ p, p ∈ l ↔ p ∈ pool ∧ p ∉ front) :
    (left ++ pool.filter (· ∉ front ++ left)).Perm l := by
  obtain ⟨-, hleft, hdisjoint⟩ := List.nodup_append'.mp hnodup
  have hboth : (left ++ pool.filter (· ∉ front ++ left)).Nodup := by
    refine List.nodup_append'.mpr ⟨hleft, hpool.sublist List.filter_sublist, fun p hp hrest => ?_⟩
    exact of_decide_eq_true (List.mem_filter.mp hrest).2 (List.mem_append_right _ hp)
  refine (List.perm_ext_iff_of_nodup hboth hl).mpr fun p => ?_
  rw [hmem]
  constructor
  · intro hp
    rcases List.mem_append.mp hp with hp | hp
    · exact ⟨hsub (List.mem_append_right _ hp), fun hin => hdisjoint hin hp⟩
    · obtain ⟨hin, hp⟩ := List.mem_filter.mp hp
      exact ⟨hin, fun hfront => of_decide_eq_true hp (List.mem_append_left _ hfront)⟩
  · rintro ⟨hin, hfront⟩
    by_cases hp : p ∈ left
    · exact List.mem_append_left _ hp
    · refine List.mem_append_right _ (List.mem_filter.mpr ⟨hin, decide_eq_true fun h => ?_⟩)
      exact (List.mem_append.mp h).elim hfront hp

end Preferred

/-- With the chosen pods preferred, no other candidate of the class is killed. -/
lemma chosenOf_prefix_step {chosen : List PodRuntimeView} {b : Instant}
    (hpods : (pods.map (·.uid)).Nodup) (hnodup : chosen.Nodup)
    (hsub : chosen ⊆ s.preemptable gpuClass pods now) (hclass : gpuClass ∈ capacity)
    (hserve : NoVictimServes s now pods boundaries) (hb : b ∈ boundaries)
    (hcover : demandOf s b pods now gpuClass ≤
      (freeOf capacity pods gpuClass + gpusOf chosen).toNat)
    (hchosen : ChosenSoundly config now capacity pods s all false toKill)
    (hplans : PlansBoundary (ShufflesTo (chosen ++
      (s.preemptable gpuClass pods now).filter (· ∉ chosen))) s now capacity pods b toKill victims)
    (h : chosenOf gpuClass toKill <+: chosen) :
    chosenOf gpuClass (toKill ++ victims) <+: chosen := by
  rw [chosenOf_append]
  have hpicked := hplans gpuClass
  have hshort := killsNeeded_spec s now (notDoomed pods toKill) capacity b gpuClass
  cases hn : (s.planBoundaryCandidates b capacity (notDoomed pods toKill)
      now).killsNeededByClass.get? gpuClass with
  | none =>
    rw [hn] at hpicked
    have hnone : chosenOf gpuClass victims = [] := hpicked
    rw [hnone, List.append_nil]
    exact h
  | some n =>
    rw [hn] at hshort hpicked
    obtain ⟨hpos, hn⟩ := hshort
    obtain ⟨l, ⟨-, hl⟩, hpick⟩ := hpicked
    obtain ⟨left, hleft⟩ := h
    have hdemand : demandOf s b (notDoomed pods toKill) now gpuClass =
        demandOf s b pods now gpuClass := by
      refine demandOf_notDoomed hpods hserve (fun v hv => ?_) hb gpuClass
      obtain ⟨hmem, -, -, -, -, -, -, hpast⟩ := mem_preemptable (hchosen.preemptable hv)
      exact ⟨hmem, hpast⟩
    have hfree := hchosen.freeOf_notDoomed hpods hclass
    have hgpus : gpusOf chosen = gpusOf (chosenOf gpuClass toKill) + gpusOf left := by
      rw [← hleft, gpusOf_append]
    have henough : n ≤ 0 + gpusOf left := by omega
    have hmem : ∀ p, p ∈ s.preemptable gpuClass (notDoomed pods toKill) now ↔
        p ∈ s.preemptable gpuClass pods now ∧ p ∉ chosenOf gpuClass toKill := by
      intro p
      rw [ControllerState.preemptable, ControllerState.preemptable, notDoomed, List.mem_filter,
        List.mem_filter, List.mem_filter]
      constructor
      · rintro ⟨⟨hp, huid⟩, hkeep⟩
        have hpc : p.gpuClass = gpuClass := by simp_all
        subst hpc
        refine ⟨⟨hp, hkeep⟩, fun hin => ?_⟩
        exact of_decide_eq_true huid ((hchosen.mem_chosenOf_iff hpods hp).mp hin)
      · rintro ⟨⟨hp, hkeep⟩, hin⟩
        have hpc : p.gpuClass = gpuClass := by simp_all
        subst hpc
        refine ⟨⟨hp, decide_eq_true fun huid => hin ?_⟩, hkeep⟩
        exact (hchosen.mem_chosenOf_iff hpods hp).mpr huid
    have hpool : (s.preemptable gpuClass pods now).Nodup := hpods.of_map.sublist List.filter_sublist
    have hleftover : (s.preemptable gpuClass (notDoomed pods toKill) now).Nodup :=
      (nodup_notDoomed hpods toKill).of_map.sublist List.filter_sublist
    subst hleft
    have horder := filter_preferred hnodup hsub hmem
    have hperm := perm_preferred hnodup hpool hsub hleftover hmem
    rw [hl (horder ▸ hperm), horder] at hpick
    rw [hpick]
    exact (List.prefix_append_right_inj _).mpr (pickUntil_append _ henough)

end Together

section Sweep

variable (config : Config) (s : ControllerState) (now : Instant) (capacity : Dict String Nat)
  (pods : List PodRuntimeView) (gpuClass : String)

/-- The boundaries one sweep has in scope, in ascending order. -/
def sweepBoundaries : List Instant :=
  s.upcomingBoundaries now (minutes config.preemptionLeadMinutes)

/-- However the candidates are shuffled, one planning over the boundaries in scope covers those it
evaluates together. -/
def EveryPlanCovers : Prop :=
  ∀ tr toKill s', ((sweepBoundaries config s now).foldlM
      (planBoundary config now capacity pods) []).Exec canAnswer s tr toKill s' →
    CoveredTogether s now capacity pods (evaluated s now (sweepBoundaries config s now)) gpuClass
      toKill

lemma nodup_sweepBoundaries : (sweepBoundaries config s now).Nodup :=
  (List.perm_insertionSort _ _).nodup_iff.mpr (List.nodup_dedup _)

variable {config s now capacity pods gpuClass}

lemma everyPlanCovers_of_cover (hlocal : config.preemptionDelegateSelection = false)
    (hpods : (pods.map (·.uid)).Nodup)
    (h : CoverAloneCoversTogether s now capacity pods
      (evaluated s now (sweepBoundaries config s now)) gpuClass) :
    EveryPlanCovers config s now capacity pods gpuClass := by
  intro tr toKill s' hrun
  obtain ⟨hchosen, hcovered⟩ := planBoundaries_run (J := fun done toKill =>
      s.preemptable gpuClass pods now ⊆ chosenOf gpuClass toKill ∨ ∀ b ∈ done,
        demandOf s b pods now gpuClass ≤
          (freeOf capacity pods gpuClass + gpusOf (chosenOf gpuClass toKill)).toNat)
    hlocal (fun _ _ => id) hpods (nodup_sweepBoundaries config s now)
    (.inr fun _ hb => absurd hb List.not_mem_nil)
    (fun done b toKill victims _ hchosen hplans hJ => covered_step (fun _ _ => id) hpods hchosen
      hplans hJ) hrun
  have huids : s.preemptable gpuClass pods now ⊆ chosenOf gpuClass toKill →
      ∀ p ∈ s.preemptable gpuClass pods now, p.uid ∈ toKill.map (·.1.uid) := by
    intro hall p hp
    obtain ⟨-, v, hv, rfl⟩ := mem_chosenOf.mp (hall hp)
    exact List.mem_map_of_mem (f := fun v : PodRuntimeView × PodEvent => v.1.uid) hv
  rcases hcovered with hall | hcovered
  · exact .inl (huids hall)
  · rcases h _ (hchosen.nodup_chosenOf gpuClass) (hchosen.chosenOf_subset gpuClass) hcovered with
      hall | hjoint
    · exact .inl (huids hall)
    · rw [hchosen.freeOf_chosenOf hpods] at hjoint
      exact .inr hjoint

lemma cover_of_everyPlanCovers (hlocal : config.preemptionDelegateSelection = false)
    (hpods : (pods.map (·.uid)).Nodup) (hclass : gpuClass ∈ capacity)
    (hserve : NoVictimServes s now pods (evaluated s now (sweepBoundaries config s now)))
    (h : EveryPlanCovers config s now capacity pods gpuClass) :
    CoverAloneCoversTogether s now capacity pods
      (evaluated s now (sweepBoundaries config s now)) gpuClass := by
  intro chosen hnodup hsub hcover
  choose oracle horacle using
    exists_shufflesTo (chosen ++ (s.preemptable gpuClass pods now).filter (· ∉ chosen))
  have hrun := Prog.exec_runWith horacle
    ((sweepBoundaries config s now).foldlM (planBoundary config now capacity pods) []) s
  obtain ⟨hchosen, hfront⟩ := planBoundaries_run
    (J := fun _ toKill => chosenOf gpuClass toKill <+: chosen) hlocal (fun _ _ hq => hq.1) hpods
    (nodup_sweepBoundaries config s now) List.nil_prefix
    (fun done b toKill victims hb hchosen hplans hJ => chosenOf_prefix_step hpods hnodup hsub hclass
      hserve hb (hcover b hb) hchosen hplans hJ) hrun
  rcases h _ _ _ (Prog.exec_mono (fun _ _ hq => hq.1) hrun) with hall | hjoint
  · refine .inl fun p hp => hfront.subset ?_
    obtain ⟨hmem, hpc, -⟩ := mem_preemptable hp
    rw [← hpc, hchosen.mem_chosenOf_iff hpods hmem]
    exact hall p hp
  · rw [← hchosen.freeOf_chosenOf hpods] at hjoint
    have hfewer : (pods.filter (· ∉ chosen)).Sublist
        (pods.filter (· ∉ chosenOf gpuClass (Prog.runWith oracle ((sweepBoundaries config s
          now).foldlM (planBoundary config now capacity pods) []) s).2.1)) := by
      refine List.monotone_filter_right _ fun p hp => ?_
      rw [decide_eq_true_eq] at hp ⊢
      exact fun hin => hp (hfront.subset hin)
    have hfree := freeOf_sublist hfewer capacity gpuClass
    exact .inr (hjoint.trans (Int.toNat_le_toNat hfree))

/-- One planning covers the boundaries it evaluates together if every choice of candidates which
covers each of them alone does; and, no pod which may be killed serving one of their bookings, only
then. -/
theorem planBoundaries_coverTogether (config : Config)
    (hlocal : config.preemptionDelegateSelection = false) (s : ControllerState) (now : Instant)
    (capacity : Dict String Nat) (pods : List PodRuntimeView) (hpods : (pods.map (·.uid)).Nodup)
    (gpuClass : String) :
    (CoverAloneCoversTogether s now capacity pods
        (evaluated s now (sweepBoundaries config s now)) gpuClass →
      EveryPlanCovers config s now capacity pods gpuClass) ∧
    (gpuClass ∈ capacity →
      NoVictimServes s now pods (evaluated s now (sweepBoundaries config s now)) →
      EveryPlanCovers config s now capacity pods gpuClass →
      CoverAloneCoversTogether s now capacity pods
        (evaluated s now (sweepBoundaries config s now)) gpuClass) :=
  ⟨everyPlanCovers_of_cover hlocal hpods, cover_of_everyPlanCovers hlocal hpods⟩

end Sweep

/-- Two bookings, the one beginning in five minutes, the other in ten. -/
def bookedTwice : ControllerState where
  reservations := [hourBooking 1 (minutes 5) (minutes 65), hourBooking 2 (minutes 10) (minutes 70)]

/-- A pod of a window which is over. -/
def overstaying (uid : Uid) : PodRuntimeView where
  uid := uid
  ns := "alice"
  name := uid
  gpuClass := "h100"
  gpuCount := 1
  reservationId := some 9
  nodeResident := true
  terminating := false

def twoGpus : Dict String Nat := Dict.ofList [("h100", 2)]

def localSelection : Config := { preemptionDelegateSelection := false }

/-- Both GPUs are held by overstaying pods.  The one killed for the first booking is free for the
second too, and the other lives. -/
theorem planBoundaries_share :
    ¬ ∀ (config : Config) (s : ControllerState) (now : Instant) (capacity : Dict String Nat)
      (pods : List PodRuntimeView) (gpuClass : String),
      config.preemptionDelegateSelection = false → (pods.map (·.uid)).Nodup →
        EveryPlanCovers config s now capacity pods gpuClass := by
  intro h
  have hrun : ((sweepBoundaries localSelection bookedTwice 0).foldlM
      (planBoundary localSelection 0 twoGpus [overstaying "A", overstaying "B"]) []).Exec canAnswer
        bookedTwice _ _ _ :=
    Prog.exec_runWith (worldAnswer_canAnswer {} rfl {}) _ bookedTwice
  have hcovered := h localSelection bookedTwice 0 twoGpus [overstaying "A", overstaying "B"] "h100"
    rfl (by decide) _ _ _ hrun
  exact absurd hcovered (by decide +kernel)

/-- One pod which holds both GPUs. -/
def overstayingTwice : PodRuntimeView := { overstaying "A" with gpuCount := 2 }

lemma overstayingTwice_covers : CoverAloneCoversTogether bookedTwice 0 twoGpus [overstayingTwice]
    (evaluated bookedTwice 0 (sweepBoundaries localSelection bookedTwice 0)) "h100" := by
  intro chosen hnodup hsub hcover
  have hpool : bookedTwice.preemptable "h100" [overstayingTwice] 0 = [overstayingTwice] := by
    decide +kernel
  rw [hpool] at hsub ⊢
  by_cases hmem : overstayingTwice ∈ chosen
  · exact .inl (by simpa using hmem)
  · have hnil : chosen = [] := by
      refine List.eq_nil_iff_forall_not_mem.mpr fun p hp => hmem ?_
      rw [← List.mem_singleton.mp (hsub hp)]
      exact hp
    have hfirst := hcover (minutes 5) (by decide +kernel)
    rw [hnil] at hfirst
    exact absurd hfirst (by decide +kernel)

theorem planBoundaries_coverTogether_overstayingTwice :
    EveryPlanCovers localSelection bookedTwice 0 twoGpus [overstayingTwice] "h100" :=
  (planBoundaries_coverTogether localSelection rfl bookedTwice 0 twoGpus [overstayingTwice]
    (by decide) "h100").1 overstayingTwice_covers

end GpuReservation.Proofs
