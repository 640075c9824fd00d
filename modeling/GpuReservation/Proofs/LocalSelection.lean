import GpuReservation.Proofs.SweepVictims

/-!
# The local choice of victims

One class's victims are taken from the front of its shuffled candidates, until there are enough.
-/

namespace GpuReservation.Proofs

open GpuReservation.Library GpuReservation.Model

/-- What is chosen for a class which is short by `killsNeeded`, its candidates being shuffled. -/
structure PickedExactly (candidates shuffled : List PodRuntimeView) (killsNeeded : Nat)
    (picked : List PodRuntimeView) : Prop where
  order : shuffled.Perm candidates
  front : picked <+: shuffled
  enough : killsNeeded ≤ gpusOf picked ∨ picked = shuffled
  candidates : picked ⊆ candidates
  once : (picked.map (·.uid)).Nodup
  needed : ∀ l, l <+: picked → l ≠ picked → gpusOf l < killsNeeded

/-- A class which is short, with the call which shuffles its candidates: from the front of the answer it is given
exactly what it needs, as far as its candidates go. -/
def ServedFrom (need : BoundaryPreemptionNeed) (selected : Dict String (List PodRuntimeView))
    (short : String × Nat) (call : Sigma Answer) : Prop :=
  ∃ shuffled picked : List PodRuntimeView, call = ⟨.shuffle (offeredVictims need short.1), shuffled⟩ ∧
    selected.get? short.1 = some picked ∧
    PickedExactly (offeredVictims need short.1) shuffled short.2 picked ∧
    ((buildPreemptionPlan need selected).unmetByClass.get? short.1).getD 0 = short.2 - gpusOf picked

/-- The short classes are served one after the other, each by one shuffle; the plan has these victims and no
others, and what they leave uncovered. -/
structure PlannedExactly (need : BoundaryPreemptionNeed) (tr : List (Sigma Answer))
    (selected : Dict String (List PodRuntimeView)) : Prop where
  served : List.Forall₂ (ServedFrom need selected) need.killsNeededByClass.entries tr
  others : ∀ gpuClass, need.killsNeededByClass.get? gpuClass = none →
    selected.get? gpuClass = none ∧
      (buildPreemptionPlan need selected).unmetByClass.get? gpuClass = none
  victims : ∀ v, v ∈ (buildPreemptionPlan need selected).victims ↔
    ∃ gpuClass picked, selected.get? gpuClass = some picked ∧ v ∈ picked
  unmet : ∀ gpuClass n, (buildPreemptionPlan need selected).unmetByClass.get? gpuClass = some n → 0 < n

/-- Fewer would not have been enough. -/
lemma pickUntil_needed {killsNeeded : Nat} {l front : List PodRuntimeView} {killed : Nat}
    (hfront : front <+: pickUntil killsNeeded l killed)
    (hproper : front ≠ pickUntil killsNeeded l killed) : killed + gpusOf front < killsNeeded := by
  induction l generalizing killed front with
  | nil => exact absurd (List.prefix_nil.mp hfront) hproper
  | cons p l ih =>
    rw [pickUntil] at hfront hproper
    split at hfront
    · rename_i henough
      rw [if_pos henough] at hproper
      exact absurd (List.prefix_nil.mp hfront) hproper
    · rename_i hshort
      rw [if_neg hshort] at hproper
      cases front with
      | nil => exact Nat.lt_of_not_le hshort
      | cons q front =>
        obtain ⟨rfl, hfront⟩ := List.cons_prefix_cons.mp hfront
        have hrest := ih hfront fun heq => hproper (by rw [heq])
        rw [gpusOf_cons, ← Nat.add_assoc]
        exact hrest

lemma pickUntil_exactly {candidates shuffled : List PodRuntimeView}
    (hperm : shuffled.Perm candidates) (honce : (candidates.map (·.uid)).Nodup) (n : Nat) :
    PickedExactly candidates shuffled n (pickUntil n shuffled 0) := by
  have hfront := pickUntil_front n shuffled 0
  have henough := (pickUntil_enough n shuffled 0).symm
  rw [Nat.zero_add] at henough
  refine ⟨hperm, hfront, henough, fun v hv => hperm.subset (hfront.subset hv), ?_, ?_⟩
  · exact ((hperm.map _).nodup_iff.mpr honce).sublist (hfront.sublist.map _)
  · intro l hl hne
    have hneeded := pickUntil_needed hl hne
    rwa [Nat.zero_add] at hneeded

lemma get?_unmetByClass (need : BoundaryPreemptionNeed)
    (selected : Dict String (List PodRuntimeView)) (gpuClass : String) :
    (buildPreemptionPlan need selected).unmetByClass.get? gpuClass =
      ((need.killsNeededByClass.get? gpuClass).map fun (n : Nat) =>
        n - gpusOf ((selected.get? gpuClass).getD [])).filter fun n => n ≠ 0 := by
  rw [buildPreemptionPlan, unmetByClass, Dict.get?_filter, Dict.get?_mapValues]
  rfl

/-- What is left uncovered of a class is what was picked for it falls short by. -/
lemma unmet_of_selected {need : BoundaryPreemptionNeed} {selected : Dict String (List PodRuntimeView)}
    {gpuClass : String} {n : Nat} {picked : List PodRuntimeView}
    (hn : need.killsNeededByClass.get? gpuClass = some n) (hsel : selected.get? gpuClass = some picked) :
    ((buildPreemptionPlan need selected).unmetByClass.get? gpuClass).getD 0 = n - gpusOf picked := by
  rw [get?_unmetByClass, hn, hsel, Option.map_some, Option.getD_some]
  by_cases hmet : n - gpusOf picked = 0
  · simp [Option.filter, hmet]
  · simp [Option.filter, hmet]

/-- The victims of the plan are those selected, where nothing is selected for the other classes. -/
lemma mem_victims_iff {need : BoundaryPreemptionNeed} {selected : Dict String (List PodRuntimeView)}
    (hrest : ∀ g, need.killsNeededByClass.get? g = none → selected.get? g = none) {v : PodRuntimeView} :
    v ∈ (buildPreemptionPlan need selected).victims ↔
      ∃ gpuClass picked, selected.get? gpuClass = some picked ∧ v ∈ picked := by
  change v ∈ planVictims need selected ↔ _
  rw [planVictims, List.mem_flatMap]
  constructor
  · rintro ⟨gpuClass, hg, hv⟩
    cases hsel : selected.get? gpuClass with
    | none =>
      rw [hsel] at hv
      exact absurd hv List.not_mem_nil
    | some picked =>
      rw [hsel] at hv
      exact ⟨gpuClass, picked, hsel, hv⟩
  · rintro ⟨gpuClass, picked, hsel, hv⟩
    refine ⟨gpuClass, ?_, by rw [hsel]; exact hv⟩
    by_contra hg
    have hnone := hrest gpuClass (Dict.get?_eq_none_iff.mpr hg)
    rw [hsel] at hnone
    cases hnone

/-- Whatever order the candidates are shuffled into. -/
theorem selectVictimsLocally_plannedExactly (need : BoundaryPreemptionNeed)
    (hpools : ∀ g, ((offeredVictims need g).map (·.uid)).Nodup) (s s' : ControllerState)
    (tr : List (Sigma Answer)) (selected : Dict String (List PodRuntimeView))
    (h : (selectVictimsLocally need).Exec canAnswer s tr selected s') :
    PlannedExactly need tr selected := by
  obtain ⟨-, hshuffled, hrest⟩ := selectVictimsLocally_shuffled h
  refine ⟨?_, fun gpuClass hn => ⟨hrest gpuClass hn, ?_⟩, fun v => mem_victims_iff hrest, fun gpuClass n hn => ?_⟩
  · have hanswered := Prog.exec_answered h
    rw [List.forall₂_iff_get] at hshuffled ⊢
    refine ⟨hshuffled.1, fun k hk hk' => ?_⟩
    obtain ⟨shuffled, hcall, hsel⟩ := hshuffled.2 k hk hk'
    have hans := hanswered _ (List.get_mem tr ⟨k, hk'⟩)
    rw [hcall] at hans
    have hn := Dict.get?_eq_some_iff.mpr (List.get_mem need.killsNeededByClass.entries ⟨k, hk⟩)
    exact ⟨shuffled, _, hcall, hsel, pickUntil_exactly (canAnswer_shuffle hans) (hpools _) _,
      unmet_of_selected hn hsel⟩
  · rw [get?_unmetByClass, hn]
    rfl
  · rw [get?_unmetByClass] at hn
    obtain ⟨-, hpos⟩ := Option.filter_eq_some_iff.mp hn
    exact Nat.pos_of_ne_zero (of_decide_eq_true hpos)

/-- Three pods of two, one and four GPUs; three GPUs are needed. -/
def boundaryOfThree : BoundaryPreemptionNeed where
  killsNeededByClass := Dict.ofList [("h100", 3)]
  candidatesByClass := Dict.ofList [("h100",
    [{ uid := "a", ns := "n", name := "a", gpuClass := "h100", gpuCount := 2,
       reservationId := some 1, nodeResident := true, terminating := false },
     { uid := "b", ns := "n", name := "b", gpuClass := "h100", gpuCount := 1,
       reservationId := some 2, nodeResident := true, terminating := false },
     { uid := "c", ns := "n", name := "c", gpuClass := "h100", gpuCount := 4,
       reservationId := some 3, nodeResident := true, terminating := false }])]

lemma boundaryOfThree_distinct (g : String) : ((offeredVictims boundaryOfThree g).map (·.uid)).Nodup := by
  by_cases hg : g = "h100"
  · subst hg
    decide +kernel
  · have hnone : offeredVictims boundaryOfThree g = [] := by
      rw [offeredVictims, boundaryOfThree, Dict.get?_eq_none_iff.mpr]
      · rfl
      · intro hmem
        obtain ⟨v, hv⟩ := Dict.mem_iff_get?.mp hmem
        have hin := Dict.mem_of_get?_ofList hv
        rw [List.mem_singleton] at hin
        exact hg (Prod.mk.inj hin).1
    rw [hnone]
    exact List.nodup_nil

/-- Shuffled into the order of the last, the second and the first: the last is enough. -/
theorem selectVictimsLocally_plannedExactly_threePods :
    PlannedExactly boundaryOfThree
      ((selectVictimsLocally boundaryOfThree).runWith
        (worldAnswer {} empty_unlocked { order := [2, 1, 0] }) ({} : ControllerState)).1
      ((selectVictimsLocally boundaryOfThree).runWith
        (worldAnswer {} empty_unlocked { order := [2, 1, 0] }) ({} : ControllerState)).2.1 :=
  selectVictimsLocally_plannedExactly boundaryOfThree boundaryOfThree_distinct {} _ _ _
    (Prog.exec_runWith (worldAnswer_canAnswer {} empty_unlocked { order := [2, 1, 0] }) _
      ({} : ControllerState))

end GpuReservation.Proofs
