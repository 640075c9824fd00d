import GpuReservation.Proofs.NodeFit

/-!
# A candidate guard 5 holds is woken when it fits

A change of what one pod holds either leaves no class more room, or has the held candidates of its
class judged again.
-/

namespace GpuReservation.Proofs

open GpuReservation.Library GpuReservation.Model

/-- The largest of numbers which are no smaller is no smaller. -/
lemma maxOr0_map_le {α : Type} {l : List α} {f g : α → Int} (h : ∀ a ∈ l, f a ≤ g a) :
    maxOr0 (l.map f) ≤ maxOr0 (l.map g) := by
  rw [maxOr0, maxOr0]
  cases hf : (l.map f).max? with
  | none =>
    rw [List.max?_eq_none_iff, List.map_eq_nil_iff] at hf
    subst hf
    exact le_refl _
  | some m =>
    obtain ⟨hm, -⟩ := List.max?_eq_some_iff.mp hf
    obtain ⟨a, ha, rfl⟩ := List.mem_map.mp hm
    cases hg : (l.map g).max? with
    | none =>
      rw [List.max?_eq_none_iff, List.map_eq_nil_iff] at hg
      subst hg
      cases ha
    | some n =>
      obtain ⟨-, hmax⟩ := List.max?_eq_some_iff.mp hg
      exact (h a ha).trans (hmax (g a) (List.mem_map_of_mem ha))

/-- What a claim may take of the nodes of a class an ask may use. -/
def claimAt (s : ControllerState) (gpuClass : String) (allowed : Option (Finset String))
    (p : GpuPod) : Nat :=
  if p.nodeName = none ∧ p.gpuClass = gpuClass ∧ s.claimOverlaps gpuClass allowed p then p.gpuCount
  else 0

/-- A class has no more room than before, for whatever pod. -/
structure NoMoreRoom (gpuClass : String) (s s' : ControllerState) : Prop where
  inventory : s'.nodeInventory = s.nodeInventory
  labels : s'.nodeLabels = s.nodeLabels
  bound : ∀ node, boundGpus s.gpuPods.values gpuClass node ≤ boundGpus s'.gpuPods.values gpuClass node
  claims : ∀ allowed uid, s.nodeClaims gpuClass allowed uid ≤ s'.nodeClaims gpuClass allowed uid

section Room

variable {s s' : ControllerState} {gpuClass : String}

lemma get?_nodeFreeByNodeClass (hderived : s.nodeMapsDerived) (gpuClass : String) :
    s.nodeFreeByNodeClass.get? gpuClass =
      (s.nodeInventory.get? gpuClass).map (classFree s.gpuPods.values gpuClass) := by
  rw [hderived.1, nodeFreeFromPods, Dict.get?_mapValues]
  rfl

lemma get?_nodeFreeByClass (hderived : s.nodeMapsDerived) (gpuClass : String) :
    s.nodeFreeByClass.get? gpuClass =
      (s.nodeInventory.get? gpuClass).map fun nodes =>
        maxOr0 (classFree s.gpuPods.values gpuClass nodes).values := by
  rw [hderived.2, hderived.1, largestNodeFreeByClass_eq, Dict.get?_mapValues]

/-- The nodes of a class do not depend on the pods. -/
lemma classKeys (hderived : s.nodeMapsDerived) (gpuClass : String) :
    (s.nodeFreeByNodeClass.get? gpuClass).map Dict.keys =
      (s.nodeInventory.get? gpuClass).map Dict.keys := by
  rw [get?_nodeFreeByNodeClass hderived, Option.map_map]
  cases s.nodeInventory.get? gpuClass with
  | none => rfl
  | some nodes => exact congrArg some (Dict.keys_mapValues _ nodes)

/-- The largest opening on the nodes of a class which satisfy `p`. -/
def largestOpening (s : ControllerState) (gpuClass : String) (nodes : Dict String Nat)
    (p : String → Bool) : Int :=
  maxOr0 ((nodes.entries.filter fun e => p e.1).map fun e =>
    (e.2 : Int) - boundGpus s.gpuPods.values gpuClass e.1)

lemma largestOpening_all (nodes : Dict String Nat) :
    maxOr0 (classFree s.gpuPods.values gpuClass nodes).values =
      largestOpening s gpuClass nodes fun _ => true := by
  rw [largestOpening, List.filter_true, classFree, Dict.values, Dict.mapValues, List.map_map]
  rfl

lemma largestOpening_allowed (nodes : Dict String Nat) (allowed : Finset String) :
    maxOr0 ((classFree s.gpuPods.values gpuClass nodes).entries.filterMap fun e =>
      if e.1 ∈ allowed then some e.2 else none) =
        largestOpening s gpuClass nodes fun node => node ∈ allowed := by
  rw [largestOpening, classFree, Dict.mapValues, List.filterMap_map]
  congr 1
  induction nodes.entries with
  | nil => rfl
  | cons e l ih =>
    by_cases he : e.1 ∈ allowed
    · rw [List.filterMap_cons, ih, List.filter_cons_of_pos (by simpa using he)]
      simp [he]
    · rw [List.filterMap_cons, ih, List.filter_cons_of_neg (by simpa using he)]
      simp [he]

lemma NoMoreRoom.largestOpening_le (h : NoMoreRoom gpuClass s s') (nodes : Dict String Nat)
    (p : String → Bool) : largestOpening s' gpuClass nodes p ≤ largestOpening s gpuClass nodes p := by
  refine maxOr0_map_le fun e _ => ?_
  have hbound := h.bound e.1
  omega

/-- Where there is no more room, guard 5 applies to the same asks and finds no more room for them. -/
lemma NoMoreRoom.nodeFit (hderived : s.nodeMapsDerived) (hderived' : s'.nodeMapsDerived)
    {c : OnDemandCandidate} (h : NoMoreRoom c.gpuClassLabel s s') {uid : Uid}
    {placement : Option NodePlacement} {fit : ControllerState.NodeFit}
    (hfit : s.nodeFit uid c placement = some fit) :
    ∃ fit', s'.nodeFit uid c placement = some fit' ∧ fit'.largestFree ≤ fit.largestFree ∧
      fit.claimed ≤ fit'.claimed := by
  unfold ControllerState.nodeFit at hfit ⊢
  dsimp only at hfit ⊢
  rw [classKeys hderived, get?_nodeFreeByClass hderived, get?_nodeFreeByNodeClass hderived] at hfit
  rw [classKeys hderived', get?_nodeFreeByClass hderived', get?_nodeFreeByNodeClass hderived',
    h.inventory, h.labels]
  cases hnodes : s.nodeInventory.get? c.gpuClassLabel with
  | none =>
    -- nothing is known of the class
    rw [hnodes, Option.map_none, Option.map_none] at hfit
    have hnone : placementNodes placement none s.nodeLabels = none := by cases placement <;> rfl
    rw [hnone] at hfit
    dsimp only at hfit
    split at hfit <;> cases hfit
  | some nodes =>
    rw [hnodes, Option.map_some, Option.map_some, Option.map_some] at hfit
    rw [Option.map_some, Option.map_some, Option.map_some]
    cases hallowed : placementNodes placement (some nodes.keys) s.nodeLabels with
    | some allowed =>
      rw [hallowed] at hfit
      dsimp only at hfit ⊢
      obtain rfl := Option.some_inj.mp hfit
      refine ⟨_, rfl, ?_, h.claims (some allowed) uid⟩
      dsimp only
      rw [Option.getD_some, Option.getD_some, largestOpening_allowed, largestOpening_allowed]
      exact h.largestOpening_le nodes _
    | none =>
      rw [hallowed] at hfit
      dsimp only at hfit ⊢
      split at hfit
      · rename_i happlies
        obtain rfl := Option.some_inj.mp hfit
        refine ⟨_, if_pos happlies, ?_, h.claims none uid⟩
        dsimp only
        rw [largestOpening_all, largestOpening_all]
        exact h.largestOpening_le nodes _
      · cases hfit

/-- Where there is no more room, an ask which did not fit does not fit. -/
lemma NoMoreRoom.holds (hderived : s.nodeMapsDerived) (hderived' : s'.nodeMapsDerived)
    {c : OnDemandCandidate} (h : NoMoreRoom c.gpuClassLabel s s') {uid : Uid}
    {placement : Option NodePlacement} (hholds : (s.nodeFitHolds uid c placement).isSome) :
    (s'.nodeFitHolds uid c placement).isSome := by
  obtain ⟨fit, hfit⟩ := Option.isSome_iff_exists.mp hholds
  obtain ⟨hfit, hfull⟩ := Option.filter_eq_some_iff.mp hfit
  obtain ⟨fit', hfit', hless, hmore⟩ := h.nodeFit hderived hderived' hfit
  have hfull' : (!fit'.fits c.gpuRequested) = true := by
    simp only [ControllerState.NodeFit.fits, Bool.not_eq_true', decide_eq_false_iff_not] at hfull ⊢
    omega
  rw [ControllerState.nodeFitHolds, hfit', Option.isSome_filter]
  exact hfull'

end Room

section Record

variable {s : ControllerState}

variable (s) in
/-- What a change of the record of one pod leaves alone. -/
lemma setGpuPod_frame (uid : Uid) (record : Option GpuPod) (now : Instant) :
    (s.setGpuPod uid record now).gpuPods = recordIn s.gpuPods uid record ∧
      (s.setGpuPod uid record now).nodeInventory = s.nodeInventory ∧
      (s.setGpuPod uid record now).nodeLabels = s.nodeLabels ∧
      (s.setGpuPod uid record now).candidates = s.candidates ∧
      (s.setGpuPod uid record now).ondemandCandidates = s.ondemandCandidates := by
  obtain ⟨noted, rfl, hset⟩ := setGpuPod_cases s uid record now
  rw [hset]
  split <;> exact ⟨rfl, rfl, rfl, rfl, rfl⟩

lemma claimOverlaps_congr {s' : ControllerState} (hderived : s.nodeMapsDerived)
    (hderived' : s'.nodeMapsDerived) (hinventory : s'.nodeInventory = s.nodeInventory)
    (hlabels : s'.nodeLabels = s.nodeLabels) (gpuClass : String) (allowed : Option (Finset String))
    (p : GpuPod) : s'.claimOverlaps gpuClass allowed p = s.claimOverlaps gpuClass allowed p := by
  unfold ControllerState.claimOverlaps
  rw [classKeys hderived, classKeys hderived', hinventory, hlabels]

lemma nodeClaims_eq_sumBy_claimAt (gpuClass : String) (allowed : Option (Finset String))
    (uid : Uid) :
    s.nodeClaims gpuClass allowed uid =
      s.gpuPods.sumBy fun u p => if u ≠ uid then claimAt s gpuClass allowed p else 0 := by
  rw [nodeClaims_eq_sumBy]
  simp only [claimAt, ite_and]

/-- A record which takes no less than the one before leaves no more room. -/
lemma noMoreRoom_set (hderived : s.nodeMapsDerived) {uid : Uid} {record : Option GpuPod}
    {gpuClass : String}
    (hbound : ∀ node, ((s.gpuPods.get? uid).map (boundAt gpuClass node)).getD 0 ≤
      (record.map (boundAt gpuClass node)).getD 0)
    (hclaims : ∀ allowed, ((s.gpuPods.get? uid).map (claimAt s gpuClass allowed)).getD 0 ≤
      (record.map (claimAt s gpuClass allowed)).getD 0) (now : Instant) :
    NoMoreRoom gpuClass s (s.setGpuPod uid record now) := by
  obtain ⟨hpods, hinventory, hlabels, -, -⟩ := setGpuPod_frame s uid record now
  have hderived' : (s.setGpuPod uid record now).nodeMapsDerived :=
    nodeMapsDerived_set hderived uid record now
  refine ⟨hinventory, hlabels, fun node => ?_, fun allowed excluded => ?_⟩
  · have htaken := sumBy_recordIn (fun _ p => boundAt gpuClass node p) s.gpuPods uid record
    have hless : ((s.gpuPods.get? uid).map fun p => boundAt gpuClass node p).getD 0 ≤
        (record.map fun p => boundAt gpuClass node p).getD 0 := hbound node
    rw [boundGpus_values, boundGpus_values, hpods]
    omega
  · have hsame : ∀ p, claimAt (s.setGpuPod uid record now) gpuClass allowed p =
        claimAt s gpuClass allowed p := fun p => by
      rw [claimAt, claimOverlaps_congr hderived hderived' hinventory hlabels, claimAt]
    have hclaimed := sumBy_recordIn
      (fun u p => if u ≠ excluded then claimAt s gpuClass allowed p else 0) s.gpuPods uid record
    rw [nodeClaims_eq_sumBy_claimAt, nodeClaims_eq_sumBy_claimAt, hpods]
    simp only [hsame]
    by_cases hu : uid ≠ excluded
    · have hless : ((s.gpuPods.get? uid).map fun p => claimAt s gpuClass allowed p).getD 0 ≤
          (record.map fun p => claimAt s gpuClass allowed p).getD 0 := hclaims allowed
      simp only [if_pos hu] at hclaimed
      omega
    · have hnothing : ∀ r : Option GpuPod, (r.map fun _ => 0).getD 0 = 0 := fun r => by
        cases r <;> rfl
      simp only [if_neg hu, hnothing] at hclaimed
      omega

/-- The other moves leave a pod where it is. -/
lemma nodeName_of_not_capacityFreesUp {previous : GpuPod} {current : Option GpuPod}
    (h : capacityFreesUp (some previous) current = false) :
    ∃ q, current = some q ∧ q.nodeName = previous.nodeName := by
  cases current with
  | none =>
    rw [capacityFreesUp, if_neg nofun] at h
    cases hnode : previous.nodeName <;> simp [hnode] at h
  | some q =>
    refine ⟨q, rfl, ?_⟩
    by_cases hq : some q = some previous
    · rw [Option.some_inj.mp hq]
    · rw [capacityFreesUp, if_neg hq] at h
      cases hnode : previous.nodeName <;> simpa [hnode] using h

/-- A record of the same class, count and placement. -/
def sameAsk (p q : GpuPod) : Prop :=
  q.gpuClass = p.gpuClass ∧ q.gpuCount = p.gpuCount ∧ q.placement = p.placement

/-- A change which cannot free capacity leaves no class more room. -/
lemma noMoreRoom_of_not_capacityFreesUp (hderived : s.nodeMapsDerived) {uid : Uid}
    {record : Option GpuPod}
    (hsame : ∀ p ∈ s.gpuPods.get? uid, ∀ q ∈ record, sameAsk p q)
    (h : capacityFreesUp (s.gpuPods.get? uid) record = false) (gpuClass : String) (now : Instant) :
    NoMoreRoom gpuClass s (s.setGpuPod uid record now) := by
  cases hprevious : s.gpuPods.get? uid with
  | none =>
    refine noMoreRoom_set hderived (fun node => ?_) (fun allowed => ?_) now
    · rw [hprevious]
      exact Nat.zero_le _
    · rw [hprevious]
      exact Nat.zero_le _
  | some p =>
    rw [hprevious] at h hsame
    obtain ⟨q, rfl, hnode⟩ := nodeName_of_not_capacityFreesUp h
    obtain ⟨hclass, hcount, hplacement⟩ := hsame p rfl q rfl
    refine noMoreRoom_set hderived (fun node => ?_) (fun allowed => ?_) now
    · rw [hprevious, Option.map_some, Option.map_some, boundAt, boundAt, hclass, hcount, hnode]
    · have hoverlaps : s.claimOverlaps gpuClass allowed q = s.claimOverlaps gpuClass allowed p := by
        unfold ControllerState.claimOverlaps
        rw [hplacement]
      rw [hprevious, Option.map_some, Option.map_some, claimAt, claimAt, hclass, hcount, hnode,
        hoverlaps]

/-- A change of a pod of another class leaves a class no more room. -/
lemma noMoreRoom_of_ne (hderived : s.nodeMapsDerived) {uid : Uid} {record : Option GpuPod}
    {p : GpuPod} (hprevious : s.gpuPods.get? uid = some p) {gpuClass : String}
    (hclass : p.gpuClass ≠ gpuClass) (now : Instant) :
    NoMoreRoom gpuClass s (s.setGpuPod uid record now) := by
  refine noMoreRoom_set hderived (fun node => ?_) (fun allowed => ?_) now
  · rw [hprevious, Option.map_some, boundAt, if_neg fun h => hclass h.1]
    exact Nat.zero_le _
  · rw [hprevious, Option.map_some, claimAt, if_neg fun h => hclass h.2.1]
    exact Nat.zero_le _

end Record

section Wake

variable {s : ControllerState}

lemma wake_wake (now : Instant) (c : OnDemandCandidate) :
    ControllerState.wake now (ControllerState.wake now c) = ControllerState.wake now c := by
  simp [ControllerState.wake]

lemma foldl_modifyCandidate (f : OnDemandCandidate → OnDemandCandidate) (l : List (Uid × Ref))
    (s : ControllerState) :
    l.foldl (fun s e => s.modifyCandidate e.2 f) s =
      { s with candidates := (l.map Prod.snd).foldl (fun h r => h.modify r f) s.candidates } := by
  induction l generalizing s with
  | nil => rfl
  | cons e l ih => exact ih (s.modifyCandidate e.2 f)

/-- Only the candidates which are woken change. -/
lemma candidate_retryNodeFitHolds (gpuClass : String) (now : Instant) (ref : Ref) :
    (s.retryNodeFitHolds gpuClass now).candidate ref =
      if ref ∈ (s.wokenByRoom gpuClass).map Prod.snd then ControllerState.wake now (s.candidate ref)
      else s.candidate ref := by
  have hcandidates : (s.retryNodeFitHolds gpuClass now).candidates =
      ((s.wokenByRoom gpuClass).map Prod.snd).foldl
        (fun h r => h.modify r (ControllerState.wake now)) s.candidates := by
    rw [ControllerState.retryNodeFitHolds, foldl_modifyCandidate]
  have hget := Heap.get?_foldl_modify (wake_wake now) ((s.wokenByRoom gpuClass).map Prod.snd)
    s.candidates ref
  rw [← hcandidates] at hget
  rw [ControllerState.candidate, Heap.read, hget, ControllerState.candidate, Heap.read]
  split
  · rename_i hwoken
    obtain ⟨e, he, rfl⟩ := List.mem_map.mp hwoken
    -- a candidate which is held has been made
    have hheld : (s.candidate e.2).heldByNodeFit := by
      have hwakes := (List.mem_filter.mp he).2
      simp only [ControllerState.nodeFitWakes, Bool.and_eq_true] at hwakes
      exact hwakes.1.1
    cases hcell : s.candidates.get? e.2 with
    | none =>
      rw [ControllerState.candidate, Heap.read, hcell] at hheld
      cases hheld
    | some c => rfl
  · rfl

/-- Guard 5 holds a candidate of the class. -/
def heldAsk (s : ControllerState) (gpuClass : String) (e : Uid × Ref) : Prop :=
  (s.candidate e.2).heldByNodeFit ∧ (s.candidate e.2).gpuClassLabel = gpuClass

/-- A candidate as it was last read fits. -/
def fitsNow (s : ControllerState) (e : Uid × Ref) : Prop :=
  s.nodeFitHolds e.1 (s.candidate e.2) (s.candidate e.2).placement = none

lemma mem_wokenByRoom {gpuClass : String} {e : Uid × Ref} :
    e ∈ s.wokenByRoom gpuClass ↔
      e ∈ s.ondemandCandidates.entries ∧ heldAsk s gpuClass e ∧ fitsNow s e := by
  rw [ControllerState.wokenByRoom, List.mem_filter, heldAsk, fitsNow, ControllerState.nodeFitHolds,
    ControllerState.nodeFitWakes]
  cases s.nodeFit e.1 (s.candidate e.2) (s.candidate e.2).placement with
  | none => simp
  | some fit =>
    rw [Option.filter_some]
    cases hfits : fit.fits (s.candidate e.2).gpuRequested <;> simp [hfits]

lemma ondemandCandidates_retryNodeFitHolds (gpuClass : String) (now : Instant) :
    (s.retryNodeFitHolds gpuClass now).ondemandCandidates = s.ondemandCandidates := by
  rw [ControllerState.retryNodeFitHolds, foldl_modifyCandidate]

/-- What is judged of a candidate is not changed by waking some. -/
lemma fitsNow_retryNodeFitHolds (gpuClass : String) (now : Instant) (e : Uid × Ref) :
    fitsNow (s.retryNodeFitHolds gpuClass now) e ↔ fitsNow s e := by
  have hnodes : ∀ c placement, (s.retryNodeFitHolds gpuClass now).nodeFitHolds e.1 c placement =
      s.nodeFitHolds e.1 c placement := fun c placement => by
    rw [ControllerState.retryNodeFitHolds, foldl_modifyCandidate]
    rfl
  rw [fitsNow, fitsNow, hnodes, candidate_retryNodeFitHolds]
  split <;> exact Iff.rfl

lemma heldAsk_retryNodeFitHolds (gpuClass gpuClass' : String) (now : Instant) (e : Uid × Ref) :
    heldAsk (s.retryNodeFitHolds gpuClass now) gpuClass' e ↔
      heldAsk s gpuClass' e ∧ e.2 ∉ (s.wokenByRoom gpuClass).map Prod.snd := by
  rw [heldAsk, heldAsk, candidate_retryNodeFitHolds]
  split
  · rename_i hwoken
    exact ⟨fun h => absurd h.1 Bool.false_ne_true, fun h => absurd hwoken h.2⟩
  · rename_i hnot
    exact ⟨fun h => ⟨h, hnot⟩, fun h => h.1⟩

end Wake

/-- No candidate of a class which fits stays held, and those which were released are due. -/
structure WakesFitting (s s' : ControllerState) (gpuClass : String) (now : Instant) : Prop where
  held : ∀ e ∈ s'.ondemandCandidates.entries, heldAsk s' gpuClass e → ¬ fitsNow s' e
  released : ∀ e ∈ s.ondemandCandidates.entries, heldAsk s gpuClass e → fitsNow s' e →
    ¬ heldAsk s' gpuClass e ∧ (s'.candidate e.2).nextAttemptAt ≤ now

section Note

variable {s : ControllerState}

/-- After `setGpuPod` alone, where a class has no more room. -/
lemma not_fitsNow_set (hderived : s.nodeMapsDerived) {gpuClass : String} {uid : Uid}
    {record : Option GpuPod} {now : Instant}
    (h : NoMoreRoom gpuClass s (s.setGpuPod uid record now)) {e : Uid × Ref}
    (he : heldAsk s gpuClass e) (hfull : ¬ fitsNow s e) : ¬ fitsNow (s.setGpuPod uid record now) e := by
  obtain ⟨-, -, -, hcandidates, -⟩ := setGpuPod_frame s uid record now
  have hc : (s.setGpuPod uid record now).candidate e.2 = s.candidate e.2 := by
    rw [ControllerState.candidate, hcandidates, ControllerState.candidate]
  rw [fitsNow, ← Option.isNone_iff_eq_none, Bool.not_eq_true, Option.isNone_eq_false_iff] at hfull ⊢
  rw [hc]
  rw [← he.2] at h
  exact h.holds hderived (nodeMapsDerived_set hderived uid record now) hfull

/-- The state in which the change has been recorded, and nothing more. -/
lemma wakesFitting_set (hderived : s.nodeMapsDerived) {gpuClass : String} {uid : Uid}
    {record : Option GpuPod} {now : Instant}
    (h : NoMoreRoom gpuClass s (s.setGpuPod uid record now))
    (hfull : ∀ e ∈ s.ondemandCandidates.entries, heldAsk s gpuClass e → ¬ fitsNow s e) :
    WakesFitting s (s.setGpuPod uid record now) gpuClass now := by
  obtain ⟨-, -, -, hcandidates, hondemand⟩ := setGpuPod_frame s uid record now
  have hheld : ∀ e, heldAsk (s.setGpuPod uid record now) gpuClass e ↔ heldAsk s gpuClass e := by
    intro e
    rw [heldAsk, ControllerState.candidate, hcandidates]
    exact Iff.rfl
  constructor
  · intro e he hh
    rw [hondemand] at he
    rw [hheld] at hh
    exact not_fitsNow_set hderived h hh (hfull e he hh)
  · intro e he hh hfits
    exact absurd hfits (not_fitsNow_set hderived h hh (hfull e he hh))

variable (s) in
/-- A change which cannot free capacity is recorded; one which may has the candidates of the class of
its pod judged again. -/
lemma noteGpuPod_cases (uid : Uid) (record : Option GpuPod) (now : Instant) :
    (capacityFreesUp (s.gpuPods.get? uid) record = false ∧
        s.noteGpuPod uid record now = s.setGpuPod uid record now ∧
        s.gpuPodMakesRoom uid record now = false) ∨
      ∃ p, s.gpuPods.get? uid = some p ∧ capacityFreesUp (s.gpuPods.get? uid) record = true ∧
        s.noteGpuPod uid record now =
          (s.setGpuPod uid record now).retryNodeFitHolds p.gpuClass now ∧
        (s.gpuPodMakesRoom uid record now = true ↔
          (s.setGpuPod uid record now).wokenByRoom p.gpuClass ≠ []) := by
  cases hfrees : capacityFreesUp (s.gpuPods.get? uid) record with
  | false =>
    refine .inl ⟨rfl, ?_, ?_⟩
    · rw [ControllerState.noteGpuPod, hfrees]
      exact if_neg Bool.false_ne_true
    · rw [ControllerState.gpuPodMakesRoom, hfrees, Bool.false_and]
  | true =>
    cases hprevious : s.gpuPods.get? uid with
    | none =>
      rw [hprevious] at hfrees
      cases hfrees
    | some p =>
      refine .inr ⟨p, rfl, rfl, ?_, ?_⟩
      · rw [ControllerState.noteGpuPod, if_pos hfrees, hprevious]
        rfl
      · rw [ControllerState.gpuPodMakesRoom, hfrees, hprevious, Bool.true_and, decide_eq_true_iff]
        rfl

variable (s) in
lemma candidate_setGpuPod (uid : Uid) (record : Option GpuPod) (now : Instant) (ref : Ref) :
    (s.setGpuPod uid record now).candidate ref = s.candidate ref := by
  obtain ⟨-, -, -, hcandidates, -⟩ := setGpuPod_frame s uid record now
  rw [ControllerState.candidate, hcandidates, ControllerState.candidate]

/-- The candidates of the pod's own class are judged again. -/
lemma wakesFitting_retry {gpuClass : String} {uid : Uid} {record : Option GpuPod} {now : Instant} :
    WakesFitting s ((s.setGpuPod uid record now).retryNodeFitHolds gpuClass now) gpuClass now := by
  obtain ⟨-, -, -, -, hondemand⟩ := setGpuPod_frame s uid record now
  constructor
  · intro e he hh hfits
    rw [ondemandCandidates_retryNodeFitHolds] at he
    rw [heldAsk_retryNodeFitHolds] at hh
    rw [fitsNow_retryNodeFitHolds] at hfits
    have hwoken : e ∈ (s.setGpuPod uid record now).wokenByRoom gpuClass :=
      mem_wokenByRoom.mpr ⟨he, hh.1, hfits⟩
    exact hh.2 (List.mem_map_of_mem hwoken)
  · intro e he hh hfits
    rw [fitsNow_retryNodeFitHolds] at hfits
    have hh' : heldAsk (s.setGpuPod uid record now) gpuClass e := by
      rw [heldAsk, candidate_setGpuPod]
      exact hh
    have hwoken : e ∈ (s.setGpuPod uid record now).wokenByRoom gpuClass :=
      mem_wokenByRoom.mpr ⟨hondemand ▸ he, hh', hfits⟩
    have href : e.2 ∈ ((s.setGpuPod uid record now).wokenByRoom gpuClass).map Prod.snd :=
      List.mem_map_of_mem hwoken
    refine ⟨fun h => ?_, ?_⟩
    · rw [heldAsk_retryNodeFitHolds] at h
      exact h.2 href
    · rw [candidate_retryNodeFitHolds, if_pos href]
      exact min_le_right _ _

/-- The candidates of another class are not, and need not be. -/
lemma wakesFitting_other (hderived : s.nodeMapsDerived) {gpuClass : String} {uid : Uid}
    {record : Option GpuPod} {now : Instant} {p : GpuPod} (hprevious : s.gpuPods.get? uid = some p)
    (hclass : p.gpuClass ≠ gpuClass)
    (hfull : ∀ e ∈ s.ondemandCandidates.entries, heldAsk s gpuClass e → ¬ fitsNow s e) :
    WakesFitting s ((s.setGpuPod uid record now).retryNodeFitHolds p.gpuClass now) gpuClass now := by
  have hset : WakesFitting s (s.setGpuPod uid record now) gpuClass now :=
    wakesFitting_set hderived (noMoreRoom_of_ne hderived hprevious hclass now) hfull
  constructor
  · intro e he hh hfits
    rw [ondemandCandidates_retryNodeFitHolds] at he
    rw [heldAsk_retryNodeFitHolds] at hh
    rw [fitsNow_retryNodeFitHolds] at hfits
    exact hset.held e he hh.1 hfits
  · intro e he hh hfits
    rw [fitsNow_retryNodeFitHolds] at hfits
    obtain ⟨-, -, -, -, hondemand⟩ := setGpuPod_frame s uid record now
    have hh' : heldAsk (s.setGpuPod uid record now) gpuClass e := by
      rw [heldAsk, candidate_setGpuPod]
      exact hh
    exact absurd hh' (hset.released e he hh hfits).1

variable (s) in
/-- A wakeup is reported where a candidate was released. -/
lemma gpuPodMakesRoom_iff (uid : Uid) (record : Option GpuPod) (now : Instant) :
    s.gpuPodMakesRoom uid record now ↔
      ∃ e ∈ s.ondemandCandidates.entries, (s.candidate e.2).heldByNodeFit ∧
        ¬ ((s.noteGpuPod uid record now).candidate e.2).heldByNodeFit := by
  obtain ⟨-, -, -, -, hondemand⟩ := setGpuPod_frame s uid record now
  rcases noteGpuPod_cases s uid record now with ⟨-, hnote, hroom⟩ | ⟨p, -, -, hnote, hroom⟩
  · rw [hnote, hroom]
    refine ⟨nofun, fun ⟨e, _, hheld, hreleased⟩ => ?_⟩
    rw [candidate_setGpuPod] at hreleased
    exact absurd hheld hreleased
  · rw [hnote, hroom]
    constructor
    · intro hwoken
      obtain ⟨e, he⟩ := List.exists_mem_of_ne_nil _ hwoken
      obtain ⟨hmem, hheld, -⟩ := mem_wokenByRoom.mp he
      have hc : (s.setGpuPod uid record now).candidate e.2 = s.candidate e.2 :=
        candidate_setGpuPod s uid record now e.2
      refine ⟨e, hondemand ▸ hmem, hc ▸ hheld.1, ?_⟩
      rw [candidate_retryNodeFitHolds, if_pos (List.mem_map_of_mem he)]
      exact Bool.false_ne_true
    · rintro ⟨e, -, hheld, hreleased⟩ hnone
      rw [candidate_retryNodeFitHolds, hnone, List.map_nil, if_neg List.not_mem_nil,
        candidate_setGpuPod] at hreleased
      exact hreleased hheld

end Note

/-- A pod takes the larger node, and a candidate which asks for all of it is held. -/
def fullNode : ControllerState :=
  { [NodeUpdate.install twoNodes,
      .set "P" (some { ns := "ns", name := "p", gpuClass := "c", gpuCount := 8,
                       nodeName := some "n2" }) 0].foldl ControllerState.updateNodes {} with
    candidates := ⟨[{ fourGpuAsk with gpuRequested := 8, heldByNodeFit := true, nextAttemptAt := 60 }]⟩
    ondemandCandidates := Dict.ofList [("A", 0)] }

end GpuReservation.Proofs
