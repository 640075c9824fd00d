import GpuReservation.Library.Runs
import GpuReservation.Model.Warnings
import GpuReservation.Proofs.SweepFootprints
import GpuReservation.Proofs.SweepVictims
import Mathlib.Data.List.Chain

/-!
# The notice of the headroom kills

Sweeps one after the other, the warnings of each being what the next one reads off the pods.  Who is
taken for headroom was told so by an earlier sweep, and while a class stays short of headroom the
deadline told does not move away.
-/

namespace GpuReservation.Proofs

open GpuReservation.Library GpuReservation.Model

/-- The views tell the deadlines the pods of the snapshot carry. -/
def ViewsOf (snapshot : List Pod) (views : List PodRuntimeView) : Prop :=
  ∀ v ∈ views, ∃ p ∈ snapshot, v.uid = p.uid ∧ v.terminationWarningAt = p.terminationWarningAt

section Views

variable {ans : ∀ q, Answer q → Prop} {snapshot : List Pod} {views : List PodRuntimeView}

lemma viewsOf_podView (inventory : Option (Dict String (Dict String Nat))) (snapshot : List Pod) :
    ViewsOf snapshot (snapshot.map (podView inventory)) := by
  intro v hv
  obtain ⟨p, hp, rfl⟩ := List.mem_map.mp hv
  exact ⟨p, hp, rfl, rfl⟩

lemma ViewsOf.replace (h : ViewsOf snapshot views) (view : PodRuntimeView) (res : ReservationResponse) :
    ViewsOf snapshot (views.replace view (view.relinked res)) := by
  induction views with
  | nil => exact h
  | cons v views ih =>
    obtain ⟨hv, hviews⟩ := List.forall_mem_cons.mp h
    rw [List.replace_cons]
    split
    · rename_i heq
      rw [← eq_of_beq heq] at hv
      exact List.forall_mem_cons.mpr ⟨hv, hviews⟩
    · exact List.forall_mem_cons.mpr ⟨hv, ih hviews⟩

variable (config : Config) (now : Instant)

lemma mergeOndemandIntoBookings_viewsOf (h : ViewsOf snapshot views) :
    (mergeOndemandIntoBookings config views now).Returns ans (ViewsOf snapshot) := by
  refine .seq fun s => ?_
  split
  · refine .foldlM (fun planned _ d hd => ?_) h
    refine .seq fun landed => ?_
    split
    · exact .seq fun _ => .pure (hd.replace _ _)
    · exact .pure hd
  · exact .pure h

lemma adoptPods_viewsOf (h : ViewsOf snapshot views) (cause : RelinkCause) :
    (adoptPods config views now cause).Returns ans (ViewsOf snapshot) := by
  refine .seq fun s => ?_
  split
  · refine .foldlM (fun planned _ d hd => .seq fun landed => .pure ?_) h
    split
    · exact hd.replace _ _
    · exact hd
  · exact .pure h

end Views

section Chosen

variable {ans : ∀ q, Answer q → Prop} (hans : ∀ q a, ans q a → canAnswer q a)
  (config : Config) (now : Instant) {need : BoundaryPreemptionNeed}

/-- What is selected was offered. -/
def Offered (need : BoundaryPreemptionNeed) (selected : Dict String (List PodRuntimeView)) : Prop :=
  ∀ gpuClass, (selected.get? gpuClass).getD [] ⊆ offeredVictims need gpuClass

include hans in
lemma selectVictimsLocally_offered : (selectVictimsLocally need).Returns ans (Offered need) := by
  refine .foldlM (fun e _ selected hselected => ?_) fun _ => List.nil_subset _
  have hshuffle : (call (.shuffle (offeredVictims need e.1))).Returns ans
      (· ⊆ offeredVictims need e.1) :=
    .ask fun l hl => (canAnswer_shuffle (hans _ _ hl)).subset
  refine hshuffle.bind fun l hl => .pure fun gpuClass => ?_
  rw [Dict.get?_set]
  split
  · rename_i hclass
    rw [hclass]
    exact fun v hv => hl ((pickUntil_front _ _ _).subset hv)
  · exact hselected gpuClass

include hans in
lemma selectVictims_offered : (selectVictims config need).Returns ans (Offered need) := by
  unfold selectVictims
  split
  · refine .seq fun uids => ?_
    split
    · exact .pure fun gpuClass => (mapSelectedVictims_from _ gpuClass).1
    · exact selectVictimsLocally_offered hans
  · exact selectVictimsLocally_offered hans

include hans in
/-- The victims of one reclaim were offered, and are told its cause. -/
lemma victimsOf_offered (boundary : Option Instant) :
    (victimsOf config now need boundary).Returns ans fun victims => ∀ e ∈ victims,
      (∃ until_, e.2 = .preempted boundary until_) ∧ ∃ gpuClass, e.1 ∈ offeredVictims need gpuClass := by
  unfold victimsOf
  split
  · exact .pure fun _ he => absurd he List.not_mem_nil
  · refine .bind (selectVictims_offered hans config) fun selected hselected => .seq fun s => .pure ?_
    intro e he
    obtain ⟨v, hv, rfl⟩ := List.mem_map.mp he
    obtain ⟨gpuClass, -, hv⟩ := List.mem_flatMap.mp hv
    exact ⟨⟨_, rfl⟩, gpuClass, hselected gpuClass hv⟩

/-- Those to be killed for headroom are among the views, their deadlines having passed. -/
def NoticeElapsed (now : Instant) (views : List PodRuntimeView)
    (toKill : List (PodRuntimeView × PodEvent)) : Prop :=
  ∀ e ∈ toKill, (∃ until_, e.2 = .preempted none until_) →
    e.1 ∈ views ∧ ∃ d, e.1.terminationWarningAt = some d ∧ d ≤ now

variable {views : List PodRuntimeView} {toKill : List (PodRuntimeView × PodEvent)}

lemma NoticeElapsed.append {victims : List (PodRuntimeView × PodEvent)}
    (h : NoticeElapsed now views toKill) (h' : NoticeElapsed now views victims) :
    NoticeElapsed now views (toKill ++ victims) := by
  intro e he
  exact (List.mem_append.mp he).elim (h e) (h' e)

include hans in
lemma planBoundary_noticeElapsed (capacity : Dict String Nat) (h : NoticeElapsed now views toKill)
    (boundary : Instant) :
    (planBoundary config now capacity views toKill boundary).Returns ans (NoticeElapsed now views) := by
  refine .seq fun s => ?_
  split
  · exact .pure h
  · refine .seq fun _ => .bind (victimsOf_offered hans config now (some boundary)) fun victims hv =>
      .pure (h.append now fun e he hheadroom => ?_)
    obtain ⟨until_, hnone⟩ := hheadroom
    obtain ⟨⟨_, hsome⟩, -⟩ := hv e he
    cases hnone.symm.trans hsome

include hans in
lemma planHeadroom_noticeElapsed (capacity : Dict String Nat) (h : NoticeElapsed now views toKill)
    (hwarns : config.terminationWarningEnabled = true) :
    (planHeadroom config now capacity views toKill).Returns ans (NoticeElapsed now views) := by
  refine .seq fun _ => .seq fun s => .bind (victimsOf_offered hans config now none) fun victims hv =>
    .pure (h.append now fun e he _ => ?_)
  obtain ⟨-, gpuClass, hoffered⟩ := hv e he
  rw [ControllerState.planHeadroomCandidates, offeredVictims_needOf, hwarns] at hoffered
  split at hoffered
  · obtain ⟨hpool, hnotice⟩ := List.mem_filter.mp hoffered
    have hmem := (List.mem_filter.mp (mem_preemptable hpool).1).1
    rw [Bool.not_true, Bool.false_or, Option.any_eq_true] at hnotice
    obtain ⟨d, hd, hle⟩ := hnotice
    exact ⟨hmem, d, hd, of_decide_eq_true hle⟩
  · exact absurd hoffered List.not_mem_nil

/-- What a sweep has planned when it plans its warnings. -/
structure PlannedSoundly (config : Config) (now : Instant) (plan : SweepPlan) : Prop where
  views : ViewsOf plan.snapshot plan.pods
  noticed : NoticeElapsed now plan.pods plan.toKill
  warned : ∃ boundaries, plan.warnPlan =
    plan.state.planWarnings config boundaries plan.capacity plan.podsAfter now

include hans in
lemma planUnderLock_soundly (hwarns : config.terminationWarningEnabled = true)
    (boundaries warnBoundaries : List Instant) (headroomDue : Bool) (snapshot : List Pod)
    (nodes : NodeSnapshot) :
    (planUnderLock config now boundaries warnBoundaries headroomDue snapshot nodes).Returns ans
      (PlannedSoundly config now) := by
  refine .bind (mergeOndemandIntoBookings_viewsOf config now (viewsOf_podView _ snapshot))
    fun merged hmerged => .bind (adoptPods_viewsOf config now hmerged .overstay) fun views hviews => ?_
  refine .bind (.foldlM (fun b _ toKill h => planBoundary_noticeElapsed hans config now _ h b)
    fun _ he => absurd he List.not_mem_nil) fun toKill hnotice => ?_
  have hrest : ∀ toKill, NoticeElapsed now views toKill → (do
      let s ← Prog.get
      return {
        snapshot := snapshot
        capacity := gpuCapacityByClass nodes.inventory
        pods := views
        toKill := toKill
        state := s
        warnPlan := s.planWarnings config warnBoundaries (gpuCapacityByClass nodes.inventory)
          (notDoomed views toKill) now } : Ctl SweepPlan).Returns ans (PlannedSoundly config now) :=
    fun toKill h => .seq fun s => .pure ⟨hviews, h, warnBoundaries, rfl⟩
  dsimp only
  split
  · exact .bind (planHeadroom_noticeElapsed hans config now _ hnotice hwarns) hrest
  · exact hrest toKill hnotice

include hans in
lemma planSweep_soundly (hwarns : config.terminationWarningEnabled = true) :
    (planSweep config now).Returns ans fun plan => ∀ p, plan = some p → PlannedSoundly config now p := by
  have hnone : ∀ p, (none : Option SweepPlan) = some p → PlannedSoundly config now p := nofun
  refine .seq fun _ => .seq fun s => ?_
  split
  · exact .pure hnone
  · refine .seq fun snapshot => ?_
    split
    · exact .pure hnone
    · refine .seq fun nodes => ?_
      split
      · exact .pure hnone
      · refine .seq fun _ => .bind (planUnderLock_soundly hans config now hwarns _ _ _ _ _)
          fun plan hplan => .pure ?_
        rintro _ ⟨⟩
        exact hplan

end Chosen

/-- The pod is warned, of the instant at the latest. -/
def WarnedBy (d : Instant) (uid : Uid) (warnings : Dict Uid TerminationWarning) : Prop :=
  ∃ w, warnings.get? uid = some w ∧ w.terminateAt ≤ d

section Warned

variable {s : ControllerState} {config : Config} {capacity : Dict String Nat}
  {pods : List PodRuntimeView} {now d : Instant} {uid : Uid}

/-- The views of the pod carry the deadline. -/
def Carries (d : Instant) (uid : Uid) (pods : List PodRuntimeView) : Prop :=
  ∀ v ∈ pods, v.uid = uid → v.terminationWarningAt = some d

lemma WarnedBy.set {warnings : Dict Uid TerminationWarning} (h : WarnedBy d uid warnings)
    {u : Uid} {w : TerminationWarning} (hw : u = uid → w.terminateAt ≤ d) :
    WarnedBy d uid (warnings.set u w) := by
  by_cases hu : u = uid
  · exact ⟨w, by rw [hu, Dict.get?_set_self], hw hu⟩
  · obtain ⟨w', hw', hle⟩ := h
    exact ⟨w', by rw [Dict.get?_set_of_ne _ _ (Ne.symm hu), hw'], hle⟩

/-- A pod which carries a deadline keeps it for headroom. -/
lemma warnHeadroomClass_keeps (hcarries : Carries d uid pods) {notice : Int}
    {warnings : Dict Uid TerminationWarning} (h : WarnedBy d uid warnings) (e : String × Nat) :
    WarnedBy d uid (s.warnHeadroomClass pods now notice warnings e) := by
  unfold ControllerState.warnHeadroomClass
  dsimp only
  split
  · exact h
  · refine List.foldlRecOn _ _ h fun warnings hwarned v hv => hwarned.set fun huid => ?_
    dsimp only
    rw [hcarries v (mem_preemptable hv).1 huid]
    exact le_refl d

lemma warnHeadroomClass_warns (hcarries : Carries d uid pods) {notice : Int} {gpuClass : String}
    (hpool : ∃ v ∈ s.preemptable gpuClass pods now, v.uid = uid) (n : Nat)
    (warnings : Dict Uid TerminationWarning) :
    WarnedBy d uid (s.warnHeadroomClass pods now notice warnings (gpuClass, n)) := by
  obtain ⟨v, hv, huid⟩ := hpool
  have hdeadline : ∀ u ∈ s.preemptable gpuClass pods now, u.uid = uid →
      u.terminationWarningAt.getD (now + notice) ≤ d := by
    intro u hu huid
    rw [hcarries u (mem_preemptable hu).1 huid]
    exact le_refl d
  have hgpus : ((s.preemptable gpuClass pods now).map (·.gpuCount)).sum ≠ 0 := by
    have hcount : 0 < v.gpuCount := (mem_preemptable hv).2.2.2.2.2.2.1
    have hle : v.gpuCount ≤ ((s.preemptable gpuClass pods now).map (·.gpuCount)).sum :=
      List.le_sum_of_mem (List.mem_map_of_mem hv)
    omega
  unfold ControllerState.warnHeadroomClass
  dsimp only
  rw [if_neg hgpus]
  refine foldl_of_mem hv (fun warnings => ?_) (fun u hu warnings h => h.set (hdeadline u hu)) warnings
  exact ⟨_, by rw [huid, Dict.get?_set_self], hdeadline v hv huid⟩

lemma planHeadroomWarnings_warns (hcarries : Carries d uid pods) {percent : Nat} {notice : Int}
    {gpuClass : String}
    (hshort : gpuClass ∈ ControllerState.headroomShortfallByClass capacity pods percent)
    (hpool : ∃ v ∈ s.preemptable gpuClass pods now, v.uid = uid) :
    WarnedBy d uid (s.planHeadroomWarnings capacity pods now percent notice) := by
  obtain ⟨n, hn⟩ := Dict.mem_iff_get?.mp hshort
  exact foldl_of_mem (Dict.get?_eq_some_iff.mp hn) (warnHeadroomClass_warns hcarries hpool n)
    (fun e _ _ h => warnHeadroomClass_keeps hcarries h e) ∅

lemma WarnedBy.merge {warnPlan : Dict Uid TerminationWarning} (h : WarnedBy d uid warnPlan)
    (e : Uid × TerminationWarning) : WarnedBy d uid (ControllerState.mergeWarning warnPlan e) := by
  unfold ControllerState.mergeWarning
  split
  · rename_i hnone
    refine h.set fun huid => ?_
    obtain ⟨w, hw, -⟩ := h
    cases hnone.symm.trans (huid ▸ hw)
  · rename_i existing hexisting
    split
    · rename_i hsooner
      refine h.set fun huid => ?_
      obtain ⟨w, hw, hle⟩ := h
      cases hexisting.symm.trans (huid ▸ hw)
      exact le_trans (le_of_lt hsooner) hle
    · exact h

lemma mergeWarning_warns (warnPlan : Dict Uid TerminationWarning) {w : TerminationWarning}
    (hw : w.terminateAt ≤ d) : WarnedBy d uid (ControllerState.mergeWarning warnPlan (uid, w)) := by
  unfold ControllerState.mergeWarning
  dsimp only
  split
  · exact ⟨w, Dict.get?_set_self _ _ _, hw⟩
  · rename_i existing hexisting
    split
    · exact ⟨w, Dict.get?_set_self _ _ _, hw⟩
    · rename_i hlater
      exact ⟨existing, hexisting, le_trans (not_lt.mp hlater) hw⟩

/-- In a class which is short of headroom, whoever carries a deadline is warned of it or of a sooner
one. -/
theorem planWarnings_warns (hwarns : config.terminationWarningEnabled = true)
    (hheadroom : 0 < config.headroomTargetPercent) (hcarries : Carries d uid pods) {gpuClass : String}
    (hshort : gpuClass ∈
      ControllerState.headroomShortfallByClass capacity pods config.headroomTargetPercent)
    (hpool : ∃ v ∈ s.preemptable gpuClass pods now, v.uid = uid) (boundaries : List Instant) :
    WarnedBy d uid (s.planWarnings config boundaries capacity pods now) := by
  unfold ControllerState.planWarnings
  rw [if_pos hwarns]
  dsimp only
  rw [if_pos hheadroom]
  have hplanned : WarnedBy d uid (s.planHeadroomWarnings capacity pods now config.headroomTargetPercent
      (minutes config.headroomNoticeMinutes)) := planHeadroomWarnings_warns hcarries hshort hpool
  obtain ⟨w, hw, hle⟩ := hplanned
  exact foldl_of_mem (Dict.get?_eq_some_iff.mp hw) (fun warnPlan => mergeWarning_warns warnPlan hle)
    (fun e _ _ h => h.merge e) _

end Warned

/-- The deadlines the pods carry. -/
abbrev Marks : Type := Uid → Option Instant

/-- What the pods carry once a patch was answered: one which failed may have been carried out all the
same. -/
def Patched (marks : Marks) (uid : Uid) (value : Option Instant) (answered : Bool) (marks' : Marks) :
    Prop :=
  marks' = Function.update marks uid value ∨ answered = false ∧ marks' = marks

def Stamped (marks : Marks) : Event ControllerState Answer → Marks → Prop
  | .answered ⟨.annotateTerminationWarning uid _ _ terminateAt _ _, written⟩, marks' =>
    Patched marks uid (some (utcIso terminateAt)) written marks'
  | .answered ⟨.clearTerminationWarning uid _ _, cleared⟩, marks' => Patched marks uid none cleared marks'
  | _, marks' => marks' = marks

/-- What the pods carry after a run. -/
def Marked : Marks → List (Event ControllerState Answer) → Marks → Prop
  | marks, [], marks' => marks' = marks
  | marks, e :: tr, marks' => ∃ marks₁, Stamped marks e marks₁ ∧ Marked marks₁ tr marks'

/-- A call which neither deletes a pod nor touches its warning. -/
def Request.leavesWarned : Request → Prop
  | .deletePod _ _ _ | .annotateTerminationWarning _ _ _ _ _ _ | .clearTerminationWarning _ _ _ => False
  | _ => True

/-- A call which does to the pods what the plan says. -/
def Request.follows (plan : SweepPlan) : Request → Prop
  | .deletePod uid _ _ => uid ∈ plan.doomed
  | .annotateTerminationWarning uid _ _ terminateAt _ _ =>
    uid ∉ plan.doomed ∧ ∃ w, plan.warnPlan.get? uid = some w ∧ w.terminateAt = terminateAt
  | .clearTerminationWarning uid _ _ => uid ∉ plan.doomed ∧ plan.warnPlan.get? uid = none
  | _ => True

section Calls

variable {α : Type}

def LeavesWarned (p : Ctl α) : Prop := p.Within (fun _ _ => True) Request.leavesWarned fun _ => True

lemma MergesOnly.leavesWarned {p : Ctl α} (h : MergesOnly p) : LeavesWarned p := by
  refine h.mono (fun _ _ _ => trivial) (fun q hq => ?_) fun _ _ => trivial
  cases q <;> trivial

lemma PlansOnly.leavesWarned {p : Ctl α} (h : PlansOnly p) : LeavesWarned p := by
  refine h.mono (fun _ _ _ => trivial) (fun q hq => ?_) fun _ _ => trivial
  cases q <;> trivial

lemma call_leavesWarned {q : Request} (h : Request.leavesWarned q) : LeavesWarned (call q) := .ask h

lemma get_leavesWarned : LeavesWarned (Prog.get : Ctl ControllerState) := .get fun _ => trivial

lemma leavesWarned_follows {q : Request} (h : Request.leavesWarned q) (plan : SweepPlan) :
    Request.follows plan q := by
  cases q <;> trivial

variable (config : Config) (now : Instant)

lemma planSweep_leavesWarned : LeavesWarned (planSweep config now) := by
  refine .seq (.modify fun _ => trivial) fun _ => .seq get_leavesWarned fun s => ?_
  split
  · exact .pure trivial
  · refine .seq (.seq (call_leavesWarned trivial) fun _ => .pure trivial) fun snapshot => ?_
    split
    · exact .pure trivial
    · refine .seq (call_leavesWarned trivial) fun nodes => ?_
      split
      · exact .pure trivial
      · refine .seq (call_leavesWarned trivial) fun _ => .seq ?_ fun _ => .pure trivial
        refine .seq (mergeOndemandIntoBookings_merges config now _).leavesWarned fun pods =>
          .seq (adoptPods_relinks now config pods .overstay).merges.leavesWarned fun views =>
            .seq (.foldlM (fun b _ toKill =>
              (planBoundary_onlyPlans config now _ views toKill b).leavesWarned) []) fun toKill => ?_
        dsimp only
        split
        · exact .seq (planHeadroom_onlyPlans config now _ views toKill).leavesWarned fun _ =>
            .seq get_leavesWarned fun _ => .pure trivial
        · exact .seq (.pure trivial) fun _ => .seq get_leavesWarned fun _ => .pure trivial

/-- A part which does to the pods what the plan says. -/
def Follows (plan : SweepPlan) (p : Ctl α) : Prop :=
  p.Within (fun _ _ => True) (Request.follows plan) fun _ => True

lemma preemptPod_follows {plan : SweepPlan} {victim : PodRuntimeView × PodEvent}
    (h : victim ∈ plan.toKill) : Follows plan (preemptPod config now victim) := by
  refine (preemptPod_preempts config now victim).mono (fun _ _ _ => trivial) (fun q hq => ?_)
    fun _ _ => trivial
  cases q with
  | deletePod judged ns name =>
    obtain ⟨rfl, -, -⟩ := hq
    exact List.mem_map_of_mem h
  | _ => trivial

lemma applyTerminationWarning_follows (texts : WarningTexts) (plan : SweepPlan) (outstanding : Bool)
    (p : Pod) :
    Follows plan (applyTerminationWarning texts plan.warnPlan plan.doomed outstanding p) := by
  unfold applyTerminationWarning
  split
  · exact .pure trivial
  · rename_i hlives
    split
    · rename_i desired hdesired
      split
      · exact .pure trivial
      · split
        · exact .pure trivial
        · exact .seq (.ask ⟨hlives, desired, hdesired, rfl⟩) fun _ => .pure trivial
    · rename_i hnone
      split
      · exact .seq (.ask ⟨hlives, hnone⟩) fun _ => .pure trivial
      · exact .pure trivial

lemma carryOutPlan_follows (texts : WarningTexts) (plan : SweepPlan) :
    Follows plan (carryOutPlan config now texts plan) := by
  refine .seq (.forM fun victim hvictim => preemptPod_follows config now hvictim) fun _ =>
    .seq (.ask trivial) fun _ => ?_
  split
  · refine .seq (.foldlM (fun p _ outstanding => ?_) _) fun _ => .modify fun _ => trivial
    exact applyTerminationWarning_follows texts plan outstanding p
  · exact .pure trivial

end Calls

/-- Under the lock, a sweep first plans and then kills whom the plan dooms. -/
theorem sweepUnderLock_exec_iff (config : Config) (now : Instant)
    (boundaries warnBoundaries : List Instant) (headroomDue : Bool) (snapshot : List Pod)
    (nodes : NodeSnapshot) {ans : ∀ q, Answer q → Prop} {s s' : ControllerState}
    {tr : List (Sigma Answer)} {doomed : List Uid} :
    (sweepUnderLock config now boundaries headroomDue snapshot nodes).Exec ans s tr doomed s' ↔
      (do
        let plan ← planUnderLock config now boundaries warnBoundaries headroomDue snapshot nodes
        plan.toKill.forM (preemptPod config now)
        return plan.doomed : Ctl (List Uid)).Exec ans s tr doomed s' := by
  unfold sweepUnderLock planUnderLock
  simp only [bind_assoc]
  refine Prog.exec_bind_congr fun views s tr => Prog.exec_bind_congr fun views s tr =>
    Prog.exec_bind_congr fun toKill s tr => ?_
  cases headroomDue
  · exact Iff.rfl
  · rw [if_pos rfl, if_pos rfl, bind_assoc]
    exact Prog.exec_bind_congr fun _ _ _ => Iff.rfl
/-- Whatever the other tasks do at an await. -/
def anything (_ _ : ControllerState) : Prop := True

section Sweeping

variable (config : Config) (texts : WarningTexts)

/-- A run of a sweep, with the plan it came to. -/
def Sweeping (now : Instant) (s : ControllerState) (tr : List (Event ControllerState Answer))
    (s' : ControllerState) : Option SweepPlan → Prop
  | none => (planSweep config now).Ran anything canAnswer s tr s'
  | some plan => ∃ head s₁ tail,
    (planSweep config now).Ends anything canAnswer s head (some plan) s₁ ∧ tr = head ++ tail ∧
      (carryOutPlan config now texts plan).Ran anything canAnswer s₁ tail s'

/-- Each run of a sweep, also one which breaks off, comes to a plan or to none. -/
theorem ran_warnedSweep {now : Instant} {s s' : ControllerState}
    {tr : List (Event ControllerState Answer)}
    (h : (warnedSweep config now texts).Ran anything canAnswer s tr s') :
    ∃ plan, Sweeping config texts now s tr s' plan := by
  rcases Prog.ran_bind_cases h with hhead | ⟨plan, head, s₁, tail, hends, rfl, hrest⟩
  · exact ⟨none, hhead⟩
  · cases plan with
    | none =>
      obtain ⟨rfl, rfl⟩ := hrest
      rw [List.append_nil]
      exact ⟨none, hends.ran⟩
    | some plan => exact ⟨some plan, head, s₁, tail, hends, rfl, hrest⟩

/-- A sweep with the deadlines which the pods carried before and after it, those before it being what
its snapshot shows. -/
structure Sweep where
  now : Instant
  before : Marks
  after : Marks
  plan : Option SweepPlan
  trace : List (Event ControllerState Answer)
  begins : ControllerState
  ends : ControllerState
  sweeps : Sweeping config texts now begins trace ends plan
  reads : ∀ p, plan = some p → ∀ pod ∈ p.snapshot, pod.terminationWarningAt = before pod.uid
  stamps : Marked before trace after

end Sweeping

namespace Sweep

variable {config : Config} {texts : WarningTexts} (x : Sweep config texts)

def Deletes (uid : Uid) : Prop :=
  ∃ ns name deleted, .answered ⟨.deletePod uid ns name, deleted⟩ ∈ x.trace

def Warns (uid : Uid) : Prop :=
  ∃ ns name terminateAt risk message written,
    .answered ⟨.annotateTerminationWarning uid ns name terminateAt risk message, written⟩ ∈ x.trace

/-- The pod may be taken for headroom, in a class which among the pods is short of it. -/
def InShortPool (config : Config) (plan : SweepPlan) (now : Instant) (pods : List PodRuntimeView)
    (uid : Uid) : Prop :=
  ∃ gpuClass, gpuClass ∈
      ControllerState.headroomShortfallByClass plan.capacity pods config.headroomTargetPercent ∧
    ∃ v ∈ plan.state.preemptable gpuClass pods now, v.uid = uid

/-- So it stands when the sweep begins to kill. -/
def ShortBefore (uid : Uid) : Prop :=
  ∀ plan, x.plan = some plan → InShortPool config plan x.now plan.pods uid

/-- So it stands once the kills of the sweep itself are counted. -/
def ShortAfter (uid : Uid) : Prop :=
  ∀ plan, x.plan = some plan → InShortPool config plan x.now plan.podsAfter uid

end Sweep

section Promise

variable {config : Config} {texts : WarningTexts}

/-- Each sweep finds the pods as the one before left them. -/
def Consecutive (x y : Sweep config texts) : Prop := x.after = y.before ∧ x.now ≤ y.now

/-- The promise of the notice, for a pod which is short of headroom as told: over any part of the run
throughout which it is, its deadline does not move later.  Who is taken for headroom carried, before
the sweep which takes it, a deadline which has passed; and no sweep both warns a pod and deletes it. -/
structure HonoursNotice (short : Sweep config texts → Uid → Prop) (run : List (Sweep config texts)) :
    Prop where
  neverLater : ∀ part, part <:+: run → ∀ uid, (∀ x ∈ part, short x uid) →
    ∀ first ∈ part.head?, ∀ last ∈ part.getLast?, ∀ d, first.before uid = some d →
      ∃ d', last.after uid = some d' ∧ d' ≤ d
  noticed : ∀ x ∈ run, ∀ plan, x.plan = some plan → ∀ e ∈ plan.toKill,
    (∃ until_, e.2 = .preempted none until_) → ∃ d, x.before e.1.uid = some d ∧ d ≤ x.now
  planned : ∀ x ∈ run, ∀ uid, x.Deletes uid → ∃ plan, x.plan = some plan ∧ uid ∈ plan.doomed
  apart : ∀ x ∈ run, ∀ uid, x.Warns uid → ¬ x.Deletes uid

variable {plan : SweepPlan} {marks marks' : Marks} {tr : List (Event ControllerState Answer)}
  {d : Instant} {uid : Uid}

/-- The pod carries the deadline or a sooner one. -/
def CarriesBy (d : Instant) (uid : Uid) (marks : Marks) : Prop := ∃ d', marks uid = some d' ∧ d' ≤ d

lemma Patched.carriesBy {u : Uid} {value : Option Instant} {answered : Bool}
    (h : Patched marks u value answered marks')
    (hvalue : u = uid → ∃ d', value = some d' ∧ d' ≤ d) (hmarks : CarriesBy d uid marks) :
    CarriesBy d uid marks' := by
  rcases h with rfl | ⟨-, rfl⟩
  · by_cases hu : u = uid
    · subst hu
      rw [CarriesBy, Function.update_self]
      exact hvalue rfl
    · rwa [CarriesBy, Function.update_of_ne (Ne.symm hu)]
  · exact hmarks

lemma Stamped.carriesBy {e : Event ControllerState Answer} (h : Stamped marks e marks')
    (hfollows : ∀ c, e = .answered c → Request.follows plan c.1)
    (hwarned : WarnedBy d uid plan.warnPlan) (hmarks : CarriesBy d uid marks) :
    CarriesBy d uid marks' := by
  obtain ⟨w, hw, hle⟩ := hwarned
  cases e with
  | own s s' =>
    obtain rfl : marks' = marks := h
    exact hmarks
  | answered c =>
    have hcall := hfollows c rfl
    obtain ⟨q, a⟩ := c
    cases q with
    | annotateTerminationWarning u ns name terminateAt risk message =>
      obtain ⟨-, w', hw', rfl⟩ := hcall
      refine Patched.carriesBy h (fun hu => ⟨_, rfl, ?_⟩) hmarks
      cases hw.symm.trans (hu ▸ hw')
      exact le_trans (utcIso_le _) hle
    | clearTerminationWarning u ns name =>
      refine Patched.carriesBy h (fun hu => ?_) hmarks
      cases hw.symm.trans (hu ▸ hcall.2)
    | _ =>
      obtain rfl : marks' = marks := h
      exact hmarks

lemma Marked.carriesBy (h : Marked marks tr marks')
    (hfollows : ∀ c, .answered c ∈ tr → Request.follows plan c.1)
    (hwarned : WarnedBy d uid plan.warnPlan) (hmarks : CarriesBy d uid marks) :
    CarriesBy d uid marks' := by
  induction tr generalizing marks with
  | nil =>
    obtain rfl : marks' = marks := h
    exact hmarks
  | cons e tr ih =>
    obtain ⟨marks₁, hstamped, hrest⟩ := h
    have hfirst : ∀ c, e = .answered c → Request.follows plan c.1 :=
      fun c hc => hfollows c (List.mem_cons.mpr (.inl hc.symm))
    exact ih hrest (fun c hc => hfollows c (List.mem_cons_of_mem e hc))
      (hstamped.carriesBy hfirst hwarned hmarks)

lemma Marked.eq_of_leavesWarned (h : Marked marks tr marks')
    (hleaves : ∀ c, .answered c ∈ tr → Request.leavesWarned c.1) : marks' = marks := by
  induction tr generalizing marks with
  | nil => exact h
  | cons e tr ih =>
    obtain ⟨marks₁, hstamped, hrest⟩ := h
    have hsame : marks₁ = marks := by
      cases e with
      | own s s' => exact hstamped
      | answered c =>
        have hcall := hleaves c List.mem_cons_self
        obtain ⟨q, a⟩ := c
        cases q <;> first | exact hstamped | exact hcall.elim
    exact (ih hrest fun c hc => hleaves c (List.mem_cons_of_mem e hc)).trans hsame

variable {x : Sweep config texts}

lemma Sweep.calls_of_none (h : x.plan = none) :
    ∀ c, .answered c ∈ x.trace → Request.leavesWarned c.1 := by
  have hran := x.sweeps
  rw [h] at hran
  exact (Prog.ran_within (planSweep_leavesWarned config x.now) hran).2

lemma Sweep.calls_of_some (h : x.plan = some plan) :
    ∀ c, .answered c ∈ x.trace → Request.follows plan c.1 := by
  have hran := x.sweeps
  rw [h] at hran
  obtain ⟨head, s₁, tail, hhead, htrace, htail⟩ := hran
  intro c hc
  rw [htrace] at hc
  rcases List.mem_append.mp hc with hc | hc
  · exact leavesWarned_follows
      ((Prog.ran_within (planSweep_leavesWarned config x.now) hhead.ran).2 c hc) plan
  · exact (Prog.ran_within (carryOutPlan_follows config x.now texts plan) htail).2 c hc

lemma Sweep.plannedSoundly (hwarns : config.terminationWarningEnabled = true)
    (h : x.plan = some plan) : PlannedSoundly config x.now plan := by
  have hran := x.sweeps
  rw [h] at hran
  obtain ⟨head, s₁, tail, hhead, -, -⟩ := hran
  exact (planSweep_soundly (fun _ _ h => h) config x.now hwarns).ends hhead plan rfl

/-- The views of the plan carry what the pods carried before the sweep. -/
lemma Sweep.carries (hwarns : config.terminationWarningEnabled = true) (h : x.plan = some plan)
    {v : PodRuntimeView} (hv : v ∈ plan.pods) : v.terminationWarningAt = x.before v.uid := by
  obtain ⟨p, hp, huid, hat⟩ := (x.plannedSoundly hwarns h).views v hv
  rw [hat, huid]
  exact x.reads plan h p hp

/-- One sweep: as long as the pod is in the pool of a class which stays short, its deadline does not
move later. -/
lemma Sweep.carriesBy (hwarns : config.terminationWarningEnabled = true)
    (hheadroom : 0 < config.headroomTargetPercent) (hshort : x.ShortAfter uid)
    (hbefore : CarriesBy d uid x.before) : CarriesBy d uid x.after := by
  cases hplan : x.plan with
  | none =>
    rw [x.stamps.eq_of_leavesWarned (x.calls_of_none hplan)]
    exact hbefore
  | some plan =>
    obtain ⟨d', hd', hle⟩ := hbefore
    have hcarries : Carries d' uid plan.podsAfter := by
      rintro v hv rfl
      exact (x.carries hwarns hplan (List.mem_filter.mp hv).1).trans hd'
    obtain ⟨boundaries, hwarnPlan⟩ := (x.plannedSoundly hwarns hplan).warned
    obtain ⟨gpuClass, hclass, hpool⟩ := hshort plan hplan
    have hwarned : WarnedBy d' uid plan.warnPlan := by
      rw [hwarnPlan]
      exact planWarnings_warns hwarns hheadroom hcarries hclass hpool boundaries
    obtain ⟨d'', hd'', hle'⟩ :=
      x.stamps.carriesBy (x.calls_of_some hplan) hwarned ⟨d', hd', le_refl d'⟩
    exact ⟨d'', hd'', le_trans hle' hle⟩

/-- Over sweeps one after the other. -/
lemma carriesBy_run (hwarns : config.terminationWarningEnabled = true)
    (hheadroom : 0 < config.headroomTargetPercent) {part : List (Sweep config texts)}
    (hpart : part.IsChain Consecutive) (hshort : ∀ x ∈ part, x.ShortAfter uid)
    {first last : Sweep config texts} (hfirst : first ∈ part.head?) (hlast : last ∈ part.getLast?)
    (hbefore : CarriesBy d uid first.before) : CarriesBy d uid last.after := by
  induction part generalizing first with
  | nil => cases hfirst
  | cons x part ih =>
    cases hfirst
    obtain ⟨hx, hrest⟩ := List.forall_mem_cons.mp hshort
    have hafter := Sweep.carriesBy hwarns hheadroom hx hbefore
    cases part with
    | nil =>
      cases hlast
      exact hafter
    | cons y part =>
      obtain ⟨hnext, hchain⟩ := List.isChain_cons_cons.mp hpart
      rw [hnext.1] at hafter
      exact ih hchain hrest rfl hlast hafter

/-- Every sweep takes for headroom only whom an earlier one told so. -/
lemma Sweep.noticed (hwarns : config.terminationWarningEnabled = true) (h : x.plan = some plan)
    {e : PodRuntimeView × PodEvent} (he : e ∈ plan.toKill)
    (hheadroom : ∃ until_, e.2 = .preempted none until_) :
    ∃ d, x.before e.1.uid = some d ∧ d ≤ x.now := by
  obtain ⟨hmem, d, hd, hle⟩ := (x.plannedSoundly hwarns h).noticed e he hheadroom
  exact ⟨d, (x.carries hwarns h hmem).symm.trans hd, hle⟩

lemma Sweep.doomed_of_deletes (h : x.Deletes uid) : ∃ plan, x.plan = some plan ∧ uid ∈ plan.doomed := by
  obtain ⟨ns, name, deleted, hmem⟩ := h
  cases hplan : x.plan with
  | none => exact (x.calls_of_none hplan _ hmem).elim
  | some plan => exact ⟨plan, rfl, x.calls_of_some hplan _ hmem⟩

lemma Sweep.not_deletes_of_warns (h : x.Warns uid) : ¬ x.Deletes uid := by
  rintro hdeletes
  obtain ⟨plan, hplan, hdoomed⟩ := x.doomed_of_deletes hdeletes
  obtain ⟨ns, name, terminateAt, risk, message, written, hmem⟩ := h
  exact (x.calls_of_some hplan _ hmem).1 hdoomed

end Promise

/-- The notice of headroom is honoured, where a class counts as short if it is so with the kills of the
sweep counted. -/
theorem sweeps_honourNotice (config : Config) (texts : WarningTexts)
    (hwarns : config.terminationWarningEnabled = true) (hheadroom : 0 < config.headroomTargetPercent)
    (run : List (Sweep config texts)) (hrun : run.IsChain Consecutive) :
    HonoursNotice Sweep.ShortAfter run where
  neverLater part hpart uid hshort first hfirst last hlast d hd := by
    obtain ⟨front, rest, rfl⟩ := hpart
    exact carriesBy_run hwarns hheadroom hrun.left_of_append.right_of_append hshort hfirst hlast
      ⟨d, hd, le_refl d⟩
  noticed x _ plan hplan e he hheadroom := x.noticed hwarns hplan he hheadroom
  planned x _ _ hdeletes := x.doomed_of_deletes hdeletes
  apart x _ _ hwarned := x.not_deletes_of_warns hwarned

section Oracle

variable (config : Config) (texts : WarningTexts) (oracle : ∀ q, Answer q) (now : Instant)
  (s : ControllerState)

/-- The deadlines after a run whose failed patches were not carried out. -/
def stampOf (marks : Marks) : Event ControllerState Answer → Marks
  | .answered ⟨.annotateTerminationWarning uid _ _ terminateAt _ _, true⟩ =>
    Function.update marks uid (some (utcIso terminateAt))
  | .answered ⟨.clearTerminationWarning uid _ _, true⟩ => Function.update marks uid none
  | _ => marks

lemma stamped_stampOf (marks : Marks) (e : Event ControllerState Answer) :
    Stamped marks e (stampOf marks e) := by
  cases e with
  | own s s' => rfl
  | answered c =>
    obtain ⟨q, a⟩ := c
    cases q with
    | annotateTerminationWarning uid ns name terminateAt risk message =>
      cases a
      · exact .inr ⟨rfl, rfl⟩
      · exact .inl rfl
    | clearTerminationWarning uid ns name =>
      cases a
      · exact .inr ⟨rfl, rfl⟩
      · exact .inl rfl
    | _ => rfl

lemma marked_stampOf (marks : Marks) (tr : List (Event ControllerState Answer)) :
    Marked marks tr (tr.foldl stampOf marks) := by
  induction tr generalizing marks with
  | nil => rfl
  | cons e tr ih => exact ⟨_, stamped_stampOf marks e, ih _⟩

/-- The sweep whose calls are answered by the oracle: what it comes to, and its run. -/
def planBy : Option SweepPlan := (planSweep config now).outcome oracle s

def runBy : List (Event ControllerState Answer) × ControllerState :=
  match planBy config oracle now s with
  | none => (planSweep config now).events oracle s
  | some plan =>
    (((planSweep config now).events oracle s).1 ++
        ((carryOutPlan config now texts plan).events oracle ((planSweep config now).events oracle s).2).1,
      ((carryOutPlan config now texts plan).events oracle ((planSweep config now).events oracle s).2).2)

variable {oracle}

lemma sweeping_runBy (horacle : ∀ q, canAnswer q (oracle q)) :
    Sweeping config texts now s (runBy config texts oracle now s).1 (runBy config texts oracle now s).2
      (planBy config oracle now s) := by
  have hhead : (planSweep config now).Ends anything canAnswer s ((planSweep config now).events oracle s).1
      ((planSweep config now).outcome oracle s) ((planSweep config now).events oracle s).2 :=
    Prog.ends_events (fun _ => trivial) horacle (planSweep config now) s
  unfold runBy
  cases hplan : planBy config oracle now s with
  | none => exact hhead.ran
  | some plan =>
    rw [← planBy, hplan] at hhead
    exact ⟨_, _, _, hhead, rfl, Prog.ran_events (fun _ => trivial) horacle _ _⟩

/-- So does the sweep which begins with the deadlines. -/
def sweepBy (horacle : ∀ q, canAnswer q (oracle q)) (before : Marks)
    (reads : ∀ p, planBy config oracle now s = some p → ∀ pod ∈ p.snapshot,
      pod.terminationWarningAt = before pod.uid) : Sweep config texts where
  now := now
  before := before
  after := (runBy config texts oracle now s).1.foldl stampOf before
  plan := planBy config oracle now s
  trace := (runBy config texts oracle now s).1
  begins := s
  ends := (runBy config texts oracle now s).2
  sweeps := sweeping_runBy config texts now s horacle
  reads := reads
  stamps := marked_stampOf before _

end Oracle

/-- Half of a class is to be kept free. -/
def halfFree : Config := { headroomTargetPercent := 50, preemptionDelegateSelection := false }

def noTexts : WarningTexts := ⟨fun _ => "", fun _ _ _ => some ""⟩

/-- A pod past its guarantee on one of two GPUs, with the deadline it carries. -/
def overstayerNamed (name : String) (terminationWarningAt : Option Instant) : Pod :=
  { overstayer with uid := name, name := name, terminationWarningAt := terminationWarningAt }

def twoOverstayers (p q : Pod) : World where
  pods := Dict.ofList [((p.ns, p.name), p), ((q.ns, q.name), q)]

def twoGpuNodes : Choice := { nodes := { inventory := Dict.ofList [("c", Dict.ofList [("node", 2)])] } }

/-- The notice of "Q" has elapsed, that of "P" runs on. -/
def elapsedOfTwo : Marks := fun uid =>
  if uid = "P" then some (minutes 10) else if uid = "Q" then some 0 else none

def takesOne (q : Request) : Answer q :=
  worldAnswer (twoOverstayers (overstayerNamed "P" (some (minutes 10))) (overstayerNamed "Q" (some 0)))
    rfl twoGpuNodes q

def takesNone (q : Request) : Answer q :=
  worldAnswer (twoOverstayers (overstayerNamed "P" none) (overstayerNamed "R" none)) rfl twoGpuNodes q

lemma forall_of_all {α : Type*} {o : Option α} {f : α → Bool} (h : o.all f = true) :
    ∀ a, o = some a → f a = true := by
  rintro a rfl
  exact h

/-- The pods of the snapshot carry the deadlines. -/
def readsAll (marks : Marks) (plan : SweepPlan) : Bool :=
  plan.snapshot.all fun pod => pod.terminationWarningAt = marks pod.uid

lemma reads_of_readsAll {o : Option SweepPlan} {marks : Marks} (h : o.all (readsAll marks) = true) :
    ∀ p, o = some p → ∀ pod ∈ p.snapshot, pod.terminationWarningAt = marks pod.uid :=
  fun p hp pod hpod => of_decide_eq_true (List.all_eq_true.mp (forall_of_all h p hp) pod hpod)

/-- "Q" is taken, and the class is no longer short. -/
def firstOfTwo : Sweep halfFree noTexts :=
  sweepBy halfFree noTexts (minutes 1) {} (worldAnswer_canAnswer _ rfl _ : ∀ q, canAnswer q (takesOne q))
    elapsedOfTwo (reads_of_readsAll (by decide +kernel))

/-- A new pod has the GPU, and the class is short again. -/
def secondOfTwo : Sweep halfFree noTexts :=
  sweepBy halfFree noTexts (minutes 2) firstOfTwo.ends
    (worldAnswer_canAnswer _ rfl _ : ∀ q, canAnswer q (takesNone q)) firstOfTwo.after
    (reads_of_readsAll (by decide +kernel))

lemma consecutive_twoSweeps : [firstOfTwo, secondOfTwo].IsChain Consecutive :=
  List.isChain_pair.mpr ⟨rfl, by decide⟩

theorem sweeps_honourNotice_twoSweeps :
    HonoursNotice Sweep.ShortAfter [firstOfTwo, secondOfTwo] :=
  sweeps_honourNotice halfFree noTexts rfl (by decide) [firstOfTwo, secondOfTwo] consecutive_twoSweeps

/-- The class "c" is short before the kills, with "P" in its pool. -/
def shortOfC (now : Instant) (plan : SweepPlan) : Bool :=
  "c" ∈ ControllerState.headroomShortfallByClass plan.capacity plan.pods 50 &&
    (plan.state.preemptable "c" plan.pods now).any fun v => v.uid = "P"

lemma shortBefore_of_shortOfC {x : Sweep halfFree noTexts} (h : x.plan.all (shortOfC x.now) = true) :
    x.ShortBefore "P" := by
  intro plan hplan
  obtain ⟨hshort, hpool⟩ := (Bool.and_eq_true _ _).mp (forall_of_all h plan hplan)
  obtain ⟨v, hv, huid⟩ := List.any_eq_true.mp hpool
  exact ⟨"c", of_decide_eq_true hshort, v, hv, of_decide_eq_true huid⟩

/-- Where a class counts as short if it is so before the kills of the sweep, the deadline of "P" moves:
the kill ends its warning, and the next one is of a later instant. -/
theorem sweeps_not_honourNotice : ¬ ∀ (config : Config) (texts : WarningTexts),
    config.terminationWarningEnabled = true → 0 < config.headroomTargetPercent →
      ∀ run : List (Sweep config texts), run.IsChain Consecutive →
        HonoursNotice Sweep.ShortBefore run := by
  intro h
  have hfirst : firstOfTwo.ShortBefore "P" := shortBefore_of_shortOfC (by decide +kernel)
  have hsecond : secondOfTwo.ShortBefore "P" := shortBefore_of_shortOfC (by decide +kernel)
  have hshort : ∀ x ∈ [firstOfTwo, secondOfTwo], x.ShortBefore "P" := by
    simp [hfirst, hsecond]
  have hlater := (h halfFree noTexts rfl (by decide) [firstOfTwo, secondOfTwo] consecutive_twoSweeps)
    |>.neverLater _ List.infix_rfl "P" hshort firstOfTwo rfl secondOfTwo rfl (minutes 10) rfl
  obtain ⟨d, hd, hle⟩ := hlater
  have hafter : secondOfTwo.after "P" = some (minutes 17) := by decide +kernel
  cases hafter.symm.trans hd
  exact absurd hle (by decide)

end GpuReservation.Proofs
