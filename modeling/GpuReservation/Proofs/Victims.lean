import GpuReservation.Library.Exec
import GpuReservation.Proofs.Demand
import GpuReservation.Proofs.SweepFootprints

/-!
# The choice of victims

Whatever the app answers, and whatever order the candidates are shuffled into, victims are
candidates, and none is chosen twice.
-/

namespace GpuReservation.Proofs

open GpuReservation.Library GpuReservation.Model

/-- An answer the world can give. -/
def canAnswer (q : Request) (a : Answer q) : Prop :=
  ∃ task ch w w', answer task q ch w = some (a, w')

lemma reorder_perm {α : Type} [DecidableEq α] (l : List α) (order : List Nat) :
    (reorder l order).Perm l := by
  rw [reorder]
  split
  · assumption
  · exact .refl l

lemma canAnswer_shuffle {pods l : List PodRuntimeView} (h : canAnswer (.shuffle pods) l) :
    l.Perm pods := by
  obtain ⟨task, ch, w, w', hans⟩ := h
  cases hans
  exact reorder_perm pods ch.order

/-- The pods offered as victims of a class. -/
def offeredVictims (need : BoundaryPreemptionNeed) (gpuClass : String) : List PodRuntimeView :=
  (need.candidatesByClass.get? gpuClass).getD []

lemma get?_killsNeeded_needOf (wanted : Dict String Nat) (free : Dict String Int)
    (pool : String → List PodRuntimeView) (gpuClass : String) :
    (ControllerState.needOf wanted free pool).killsNeededByClass.get? gpuClass =
      ((wanted.get? gpuClass).map fun (want : Nat) =>
        (want - (free.get? gpuClass).getD 0).toNat).filter fun n => n ≠ 0 := by
  rw [ControllerState.needOf]
  simp only [Dict.get?_filter, Dict.get?_mapValues]

lemma offeredVictims_needOf (wanted : Dict String Nat) (free : Dict String Int)
    (pool : String → List PodRuntimeView) (gpuClass : String) :
    offeredVictims (ControllerState.needOf wanted free pool) gpuClass =
      if gpuClass ∈ (ControllerState.needOf wanted free pool).killsNeededByClass then pool gpuClass
      else [] := by
  rw [offeredVictims, ControllerState.needOf]
  simp only [Dict.get?_mapValues]
  split
  · rename_i h
    obtain ⟨n, hn⟩ := Dict.mem_iff_get?.mp h
    rw [hn]
    rfl
  · rename_i h
    rw [Dict.get?_eq_none_iff.mpr h]
    rfl

/-- A boundary is in scope from the lead before it opens until the lead after. -/
lemma mem_upcomingBoundaries {s : ControllerState} {now : Instant} {lead : Int} {b : Instant} :
    b ∈ s.upcomingBoundaries now lead ↔ ∃ r ∈ s.reservations, r.kind = .booking ∧
      now - lead < b ∧ b ≤ now + lead ∧ slotStart r = b := by
  unfold ControllerState.upcomingBoundaries
  rw [List.mem_insertionSort, List.mem_dedup, List.mem_map]
  simp only [List.mem_filter, Bool.and_eq_true, decide_eq_true_eq]
  constructor
  · rintro ⟨r, ⟨hr, ⟨hkind, hafter⟩, hbefore⟩, rfl⟩
    exact ⟨r, hr, hkind, hafter, hbefore, rfl⟩
  · rintro ⟨r, hr, hkind, hafter, hbefore, rfl⟩
    exact ⟨r, ⟨hr, ⟨hkind, hafter⟩, hbefore⟩, rfl⟩

/-- The GPUs of a class which are free, as the sweep counts them. -/
def freeOf (capacity : Dict String Nat) (pods : List PodRuntimeView) (gpuClass : String) : Int :=
  ((freeCapacityByClass capacity pods).get? gpuClass).getD 0

/-- A class which is asked for is short by what is not free. -/
lemma shortfall_eq {demand : Dict String Nat} {gpuClass : String}
    (hpos : ∀ n, demand.get? gpuClass = some n → 0 < n) (free : Int) :
    ((demand.get? gpuClass).map fun (want : Nat) => (want - free).toNat).filter (fun n => n ≠ 0) =
      if (demand.get? gpuClass).getD 0 ≤ free.toNat then none
      else some ((demand.get? gpuClass).getD 0 - free).toNat := by
  cases hd : demand.get? gpuClass with
  | none => simp
  | some want =>
    have hwant := hpos want hd
    by_cases hshort : ((want : Int) - free).toNat = 0
    · have hle : want ≤ free.toNat := by omega
      simp [hshort, hle]
    · have hlt : ¬ want ≤ free.toNat := by omega
      simp [hshort, hlt]

/-- The shortfall of a class at a boundary. -/
lemma killsNeeded_eq (s : ControllerState) (now : Instant) (pods : List PodRuntimeView)
    (capacity : Dict String Nat) (boundary : Instant) (gpuClass : String) :
    (s.planBoundaryCandidates boundary capacity pods now).killsNeededByClass.get? gpuClass =
      if demandOf s boundary pods now gpuClass ≤ (freeOf capacity pods gpuClass).toNat then none
      else some (demandOf s boundary pods now gpuClass - freeOf capacity pods gpuClass).toNat := by
  rw [ControllerState.planBoundaryCandidates, get?_killsNeeded_needOf]
  exact shortfall_eq (fun n => boundaryDemand_pos s now pods) _

lemma killsNeeded_spec (s : ControllerState) (now : Instant) (pods : List PodRuntimeView)
    (capacity : Dict String Nat) (boundary : Instant) (gpuClass : String) :
    match (s.planBoundaryCandidates boundary capacity pods now).killsNeededByClass.get? gpuClass with
    | none => demandOf s boundary pods now gpuClass ≤ (freeOf capacity pods gpuClass).toNat
    | some n => 0 < demandOf s boundary pods now gpuClass ∧
        (n : Int) = demandOf s boundary pods now gpuClass - freeOf capacity pods gpuClass := by
  rw [killsNeeded_eq]
  by_cases hle : demandOf s boundary pods now gpuClass ≤ (freeOf capacity pods gpuClass).toNat
  · rw [if_pos hle]
    exact hle
  · rw [if_neg hle]
    exact ⟨by omega, by omega⟩

/-- What is selected for a class is offered for it, and no pod twice. -/
def SelectedFrom (need : BoundaryPreemptionNeed) (selected : Dict String (List PodRuntimeView)) :
    Prop :=
  ∀ gpuClass, ((selected.get? gpuClass).getD []) ⊆ offeredVictims need gpuClass ∧
    (((selected.get? gpuClass).getD []).map (·.uid)).Nodup

lemma pickUntil_front (killsNeeded : Nat) (l : List PodRuntimeView) (killed : Nat) :
    pickUntil killsNeeded l killed <+: l := by
  induction l generalizing killed with
  | nil => exact List.prefix_rfl
  | cons p l ih =>
    rw [pickUntil]
    split
    · exact List.nil_prefix
    · exact List.cons_prefix_cons.mpr ⟨rfl, ih _⟩

def gpusOf (pods : List PodRuntimeView) : Nat := (pods.map (·.gpuCount)).sum

@[simp] lemma gpusOf_cons (p : PodRuntimeView) (l : List PodRuntimeView) :
    gpusOf (p :: l) = p.gpuCount + gpusOf l := rfl

/-- All are picked, or enough. -/
lemma pickUntil_enough (n : Nat) (l : List PodRuntimeView) (killed : Nat) :
    pickUntil n l killed = l ∨ n ≤ killed + gpusOf (pickUntil n l killed) := by
  induction l generalizing killed with
  | nil => exact .inl rfl
  | cons p l ih =>
    rw [pickUntil]
    split
    · rename_i henough
      exact .inr (by omega)
    · rcases ih (killed + p.gpuCount) with hall | henough
      · exact .inl (by rw [hall])
      · refine .inr ?_
        rw [gpusOf_cons]
        omega

lemma nodup_eraseDups {α : Type} [DecidableEq α] (l : List α) : l.eraseDups.Nodup := by
  match l with
  | [] => exact List.nodup_nil
  | a :: l =>
    rw [List.eraseDups_cons, List.nodup_cons]
    refine ⟨fun ha => ?_, nodup_eraseDups _⟩
    simp [List.mem_eraseDups] at ha
termination_by l.length
decreasing_by simpa using List.length_filter_le (fun b => !b == a) l |>.trans_lt (Nat.lt_succ_self _)

/-- What is found for the elements of a list, each telling which it was found for. -/
lemma map_filterMap_sublist {α β : Type} {f : α → Option β} {g : β → α}
    (h : ∀ a b, f a = some b → g b = a) (l : List α) : ((l.filterMap f).map g).Sublist l := by
  induction l with
  | nil => exact List.nil_sublist _
  | cons a l ih =>
    cases hf : f a with
    | none =>
      rw [List.filterMap_cons_none hf]
      exact ih.cons a
    | some b =>
      rw [List.filterMap_cons_some hf, List.map_cons, h a b hf]
      exact ih.cons_cons a

section Select

variable {need : BoundaryPreemptionNeed}

lemma candidateOfUid_offered {uid : Uid} {e : String × PodRuntimeView}
    (h : candidateOfUid need uid = some e) : e.2 ∈ offeredVictims need e.1 ∧ e.2.uid = uid := by
  have hmem := Dict.mem_of_get?_ofList h
  obtain ⟨c, hc, hpair⟩ := List.mem_flatMap.mp hmem
  obtain ⟨p, hp, he⟩ := List.mem_map.mp hpair
  obtain ⟨rfl, rfl⟩ := Prod.mk.inj he
  have hclass : need.candidatesByClass.get? c.1 = some c.2 := Dict.get?_eq_some_iff.mpr hc
  refine ⟨?_, rfl⟩
  rw [offeredVictims, hclass]
  exact hp

lemma mapSelectedVictims_from (uids : List Uid) : SelectedFrom need (mapSelectedVictims need uids) := by
  intro gpuClass
  rw [mapSelectedVictims, Dict.get?_foldl_collect]
  constructor
  · intro v hv
    obtain ⟨e, he, rfl⟩ := List.mem_map.mp hv
    obtain ⟨he, hclass⟩ := List.mem_filter.mp he
    obtain ⟨uid, -, hcand⟩ := List.mem_filterMap.mp he
    have hclass : e.1 = gpuClass := by simpa using hclass
    rw [← hclass]
    exact (candidateOfUid_offered hcand).1
  · rw [List.map_map]
    have hall : ((uids.eraseDups.filterMap (candidateOfUid need)).map fun e => e.2.uid).Nodup :=
      (nodup_eraseDups uids).sublist
        (map_filterMap_sublist (fun uid e he => (candidateOfUid_offered he).2) uids.eraseDups)
    exact hall.sublist (List.filter_sublist.map _)

/-- One class of the local selection: its candidates in some order, taken until there are enough. -/
def PickedLocally (need : BoundaryPreemptionNeed) (selected : Dict String (List PodRuntimeView)) :
    Prop :=
  ∀ gpuClass, match need.killsNeededByClass.get? gpuClass with
    | none => selected.get? gpuClass = none
    | some n => ∃ l : List PodRuntimeView, l.Perm (offeredVictims need gpuClass) ∧
        selected.get? gpuClass = some (pickUntil n l 0)

variable {ans : ∀ q, Answer q → Prop} {s s' : ControllerState} {tr : List (Sigma Answer)}
  {selected : Dict String (List PodRuntimeView)}

variable (ans) in
/-- One class of the local selection, its candidates in the order they were shuffled into. -/
def PickedBy (need : BoundaryPreemptionNeed) (selected : Dict String (List PodRuntimeView)) : Prop :=
  ∀ gpuClass, match need.killsNeededByClass.get? gpuClass with
    | none => selected.get? gpuClass = none
    | some n => ∃ l : List PodRuntimeView, ans (.shuffle (offeredVictims need gpuClass)) l ∧
        selected.get? gpuClass = some (pickUntil n l 0)

/-- A class that is short with the call which shuffles its candidates, and what is picked in the order answered. -/
def ShuffledFor (need : BoundaryPreemptionNeed) (selected : Dict String (List PodRuntimeView))
    (short : String × Nat) (call : Sigma Answer) : Prop :=
  ∃ shuffled : List PodRuntimeView, call = ⟨.shuffle (offeredVictims need short.1), shuffled⟩ ∧
    selected.get? short.1 = some (pickUntil short.2 shuffled 0)

/-- The classes that are short are shuffled one after the other, and nothing else is selected. -/
lemma selectVictimsLocally_shuffled (h : (selectVictimsLocally need).Exec ans s tr selected s') :
    s' = s ∧ List.Forall₂ (ShuffledFor need selected) need.killsNeededByClass.entries tr ∧
      ∀ g, need.killsNeededByClass.get? g = none → selected.get? g = none := by
  -- nothing is selected yet for the classes still to come
  have hloop := Prog.exec_foldlM
    (fun (l : List (String × Nat)) (d : Dict String (List PodRuntimeView)) c tr =>
      c = s ∧ ∃ done, need.killsNeededByClass.entries = done ++ l ∧
        List.Forall₂ (ShuffledFor need d) done tr ∧ ∀ g, g ∉ done.map Prod.fst → d.get? g = none)
    ?_ ⟨rfl, [], rfl, .nil, fun _ _ => rfl⟩ h
  · obtain ⟨hs, done, hdone, hshuffled, hrest⟩ := hloop
    rw [List.append_nil] at hdone
    rw [hdone]
    refine ⟨hs, hshuffled, fun g hg => hrest g ?_⟩
    rw [← hdone]
    exact Dict.get?_eq_none_iff.mp hg
  · rintro e l d c tr tr' d' c' ⟨hc, done, hdone, hshuffled, hrest⟩ hbody
    obtain ⟨shuffled, tr'', -, rfl, rfl, rfl, rfl⟩ := hbody
    have hnew : e.1 ∉ done.map Prod.fst := by
      have hnodup := need.killsNeededByClass.nodup
      rw [hdone, List.map_append, List.nodup_append'] at hnodup
      exact fun hmem => hnodup.2.2 hmem (by simp)
    refine ⟨hc, done ++ [e], by simp [hdone], ?_, ?_⟩
    · refine List.rel_append ?_ (.cons ⟨shuffled, rfl, Dict.get?_set_self d _ _⟩ .nil)
      have hold : ∀ short ∈ done, short.1 ≠ e.1 := fun short hshort heq =>
        hnew (heq ▸ List.mem_map_of_mem (f := Prod.fst) hshort)
      refine ((List.forall₂_and_left _ _).mpr ⟨hold, hshuffled⟩).imp ?_
      rintro short call ⟨hne, shuffled', hcall, hselected⟩
      exact ⟨shuffled', hcall, by rw [Dict.get?_set_of_ne d _ hne, hselected]⟩
    · intro g hg
      rw [List.map_append, List.mem_append, not_or] at hg
      rw [Dict.get?_set_of_ne d _ (by simpa using hg.2)]
      exact hrest g hg.1

lemma selectVictimsLocally_pickedBy (h : (selectVictimsLocally need).Exec ans s tr selected s') :
    s' = s ∧ (∀ e ∈ tr, Request.choosesVictims e.1) ∧ PickedBy ans need selected := by
  obtain ⟨hs, hshuffled, hrest⟩ := selectVictimsLocally_shuffled h
  have hanswered := Prog.exec_answered h
  rw [List.forall₂_iff_get] at hshuffled
  obtain ⟨hlength, hshuffled⟩ := hshuffled
  refine ⟨hs, fun call hcall => ?_, fun gpuClass => ?_⟩
  · obtain ⟨k, hk, rfl⟩ := List.getElem_of_mem hcall
    obtain ⟨shuffled, hcall, -⟩ := hshuffled k (hlength ▸ hk) hk
    rw [List.get_eq_getElem] at hcall
    rw [hcall]
    trivial
  · cases hn : need.killsNeededByClass.get? gpuClass with
    | none => exact hrest gpuClass hn
    | some n =>
      obtain ⟨k, hk, hentry⟩ := List.getElem_of_mem (Dict.get?_eq_some_iff.mp hn)
      obtain ⟨shuffled, hcall, hselected⟩ := hshuffled k hk (hlength ▸ hk)
      have hshort : need.killsNeededByClass.entries.get ⟨k, hk⟩ = (gpuClass, n) := hentry
      rw [hshort] at hcall hselected
      have hans := hanswered _ (List.get_mem tr ⟨k, hlength ▸ hk⟩)
      rw [hcall] at hans
      exact ⟨shuffled, hans, hselected⟩

lemma PickedBy.locally (hans : ∀ q a, ans q a → canAnswer q a) (h : PickedBy ans need selected) :
    PickedLocally need selected := by
  intro gpuClass
  have hclass := h gpuClass
  split at hclass
  · exact hclass
  · obtain ⟨l, hl, hsel⟩ := hclass
    exact ⟨l, canAnswer_shuffle (hans _ _ hl), hsel⟩

lemma selectVictimsLocally_exec (hans : ∀ q a, ans q a → canAnswer q a)
    (h : (selectVictimsLocally need).Exec ans s tr selected s') :
    s' = s ∧ (∀ e ∈ tr, Request.choosesVictims e.1) ∧ PickedLocally need selected := by
  obtain ⟨hs, hcalls, hpicked⟩ := selectVictimsLocally_pickedBy h
  exact ⟨hs, hcalls, hpicked.locally hans⟩

lemma PickedLocally.from (hoffered : ∀ g, ((offeredVictims need g).map (·.uid)).Nodup)
    (h : PickedLocally need selected) : SelectedFrom need selected := by
  intro gpuClass
  have hclass := h gpuClass
  split at hclass
  · rw [hclass]
    simp
  · obtain ⟨l, hperm, hsel⟩ := hclass
    rw [hsel, Option.getD_some]
    have hfront := pickUntil_front ‹Nat› l 0
    have hnodup : (l.map (·.uid)).Nodup := (hperm.map _).nodup_iff.mpr (hoffered gpuClass)
    exact ⟨fun v hv => hperm.subset (hfront.subset hv), hnodup.sublist (hfront.sublist.map _)⟩

lemma selectVictims_exec (config : Config) (hans : ∀ q a, ans q a → canAnswer q a)
    (hoffered : ∀ g, ((offeredVictims need g).map (·.uid)).Nodup)
    (h : (selectVictims config need).Exec ans s tr selected s') :
    s' = s ∧ (∀ e ∈ tr, Request.choosesVictims e.1) ∧ SelectedFrom need selected := by
  have hlocal : ∀ {tr}, (selectVictimsLocally need).Exec ans s tr selected s' →
      s' = s ∧ (∀ e ∈ tr, Request.choosesVictims e.1) ∧ SelectedFrom need selected := by
    intro tr h
    obtain ⟨hs, hcalls, hpicked⟩ := selectVictimsLocally_exec hans h
    exact ⟨hs, hcalls, hpicked.from hoffered⟩
  rw [selectVictims] at h
  split at h
  · obtain ⟨uids, tr', -, rfl, h⟩ := h
    cases uids with
    | some chosen =>
      obtain ⟨rfl, rfl, rfl⟩ := h
      refine ⟨rfl, fun e he => ?_, mapSelectedVictims_from chosen⟩
      cases List.mem_singleton.mp he
      trivial
    | none =>
      obtain ⟨hs, hcalls, hfrom⟩ := hlocal h
      refine ⟨hs, fun e he => ?_, hfrom⟩
      rcases List.mem_cons.mp he with rfl | he
      · trivial
      · exact hcalls e he
  · exact hlocal h

/-- Views of distinct pods are told apart by their uids. -/
lemma view_of_uid {views : List PodRuntimeView} (hviews : (views.map (·.uid)).Nodup)
    {v v' : PodRuntimeView} (hv : v ∈ views) (hv' : v' ∈ views) (huid : v.uid = v'.uid) : v = v' :=
  List.inj_on_of_nodup_map hviews hv hv' huid

/-- The victims planned are offered ones of classes which are short, and no pod twice. -/
lemma planVictims_offered {views : List PodRuntimeView} (hviews : (views.map (·.uid)).Nodup)
    (hoffered : ∀ g, ∀ v ∈ offeredVictims need g, v.gpuClass = g ∧ v ∈ views)
    (hfrom : SelectedFrom need selected) :
    ((planVictims need selected).map (·.uid)).Nodup ∧ ∀ v ∈ planVictims need selected,
      v.gpuClass ∈ need.killsNeededByClass ∧ v ∈ offeredVictims need v.gpuClass := by
  constructor
  · rw [planVictims, List.map_flatMap, List.nodup_flatMap]
    refine ⟨fun g _ => (hfrom g).2, need.killsNeededByClass.nodup.imp fun {g g'} hne => ?_⟩
    refine List.disjoint_left.mpr fun uid hu hu' => ?_
    obtain ⟨v, hv, rfl⟩ := List.mem_map.mp hu
    obtain ⟨v', hv', huid⟩ := List.mem_map.mp hu'
    obtain ⟨hclass, hmem⟩ := hoffered g v ((hfrom g).1 hv)
    obtain ⟨hclass', hmem'⟩ := hoffered g' v' ((hfrom g').1 hv')
    have hsame : v' = v := view_of_uid hviews hmem' hmem huid
    exact hne (hclass.symm.trans (hsame ▸ hclass'))
  · intro v hv
    obtain ⟨g, hg, hv⟩ := List.mem_flatMap.mp hv
    have hin := (hfrom g).1 hv
    have hclass := (hoffered g v hin).1
    exact ⟨hclass ▸ hg, hclass ▸ hin⟩

end Select

end GpuReservation.Proofs
