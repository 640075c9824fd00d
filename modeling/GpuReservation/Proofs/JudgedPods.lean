import GpuReservation.Proofs.NamedAdmission
import GpuReservation.Proofs.RelinkBudget
import GpuReservation.Proofs.SweepVictims

/-!
# Calls land on the pods they were decided for

A patch or a deletion gives the name its pod was created under, whoever stands under that name by
then.
-/

namespace GpuReservation.Proofs

open GpuReservation.Library GpuReservation.Model

variable {i : Nat} {P : Snap ControllerState World → Prop}

def ViewsNamed (views : List PodRuntimeView) (σ : Snap ControllerState World) : Prop :=
  ∀ v ∈ views, CreatedAs v.uid v.ns v.name σ

def PodsNamed (pods : List Pod) (σ : Snap ControllerState World) : Prop :=
  ∀ pod ∈ pods, PodNamed pod σ

lemma lasting_viewsNamed (views : List PodRuntimeView) : Lasting namesContract (ViewsNamed views) :=
  .forall fun _ => lasting_createdAs

lemma lasting_podsNamed (pods : List Pod) : Lasting namesContract (PodsNamed pods) :=
  .forall lasting_podNamed

lemma viewsNamed_podView {pods : List Pod} {σ : Snap ControllerState World}
    (inventory : Option (Dict String (Dict String Nat))) (h : PodsNamed pods σ) :
    ViewsNamed (pods.map (podView inventory)) σ := by
  intro v hv
  obtain ⟨pod, hpod, rfl⟩ := List.mem_map.mp hv
  exact h pod hpod

/-- The pods of a LIST have the names they were created under. -/
lemma snapshotToleratedPods_byName : ByName i P snapshotToleratedPods
    fun snapshot σ => ∀ pods, snapshot = some pods → PodsNamed pods σ := by
  have hlasting : ∀ listed : Option (List Pod),
      Lasting namesContract fun σ => ∀ pods, listed = some pods → PodsNamed pods σ :=
    fun listed => .forall lasting_podsNamed
  refine .bind (R := fun listed σ => ∀ pods, listed = some pods → PodsNamed pods σ)
    (.pre (P := fun _ => True) ?_ fun _ _ _ => trivial) fun listed => .pure fun σ _ h pods hpods => ?_
  · refine .ask rfl lasting_true.1 (fun listed => (hlasting listed).1) (fun _ _ _ => trivial)
      fun σ hright _ => ⟨fun _ _ _ hq => (by cases hq), fun c listed w _ hw => ?_⟩
    have hans : answer i .listPods c σ.world = some (listed, w) := hw
    obtain ⟨hkept, hright'⟩ := namesRight_answer hright hans
    rw [answer, Option.some.injEq, Prod.mk.injEq] at hans
    obtain ⟨hlisted, rfl⟩ := hans
    refine ⟨hkept, hright', fun pods hpods pod hpod => ?_⟩
    obtain rfl : σ.world.pods.values = pods := by
      rw [hpods] at hlisted
      split at hlisted
      · exact Option.some.inj hlisted
      · cases hlisted
    obtain ⟨k, hk⟩ := Dict.mem_values_iff.mp hpod
    obtain ⟨rfl, hcreated⟩ := hright.cluster.named k pod hk
    exact hcreated
  · obtain ⟨all, rfl, rfl⟩ := Option.map_eq_some_iff.mp hpods
    exact fun pod hpod => h all rfl pod (List.mem_filter.mp hpod).1

section Relink

variable (config : Config) (now : Instant)

lemma recordGuarantee_names (uid : Uid) (ns name : String) (guaranteedUntil : Instant)
    (reservation : ReservationResponse) (firstAdmission : Bool) :
    NamesOnly (recordGuarantee uid ns name guaranteedUntil reservation firstAdmission) :=
  (recordGuarantee_stamps uid ns name guaranteedUntil reservation firstAdmission).mono
    (fun _ _ h => h) (fun _ => stamps_judgedPod) fun _ h => h

lemma relinkPod_byName (view : PodRuntimeView) (res : ReservationResponse) (cause : RelinkCause) :
    ByName i (CreatedAs view.uid view.ns view.name) (relinkPod view res now cause)
      fun _ _ => True := by
  refine .bind ((call_names rfl).keeps lasting_createdAs) fun freshPod => ?_
  cases freshPod with
  | none => exact .pure fun _ _ _ => trivial
  | some pod =>
    dsimp only
    split
    · exact .pure fun _ _ _ => trivial
    · refine .bind (judged_call rfl rfl) fun landed => ?_
      split
      · exact NamesOnly.byName (.seq (.seq (.modify fun s => relinkOccupancy_names s _ _ _) fun _ =>
          .seq get_names fun s => .seq (recordGuarantee_names _ _ _ _ _ _) fun _ =>
          .seq (call_names rfl) fun _ => .pure trivial) fun _ => .pure trivial)
      · exact .pure fun _ _ _ => trivial

lemma viewsNamed_replace {views : List PodRuntimeView} {view : PodRuntimeView}
    {res : ReservationResponse} {σ : Snap ControllerState World}
    (hview : CreatedAs view.uid view.ns view.name σ) (h : ViewsNamed views σ) :
    ViewsNamed (views.replace view (view.relinked res)) σ := by
  induction views with
  | nil => exact h
  | cons v views ih =>
    have hrest : ViewsNamed views σ := fun v hv => h v (List.mem_cons_of_mem _ hv)
    intro u hu
    rw [List.replace_cons] at hu
    split at hu
    · rcases List.mem_cons.mp hu with rfl | hu
      · exact hview
      · exact hrest u hu
    · rcases List.mem_cons.mp hu with rfl | hu
      · exact h u List.mem_cons_self
      · exact ih hrest u hu

/-- The views of a pass: those it was made from, the moved ones renewed. -/
lemma relinkPass_byName {body : List PodRuntimeView → PodRuntimeView × ReservationResponse →
      Ctl (List PodRuntimeView)} {planned : List (PodRuntimeView × ReservationResponse)}
    {views : List PodRuntimeView} (hplanned : (planned.map Prod.fst).Sublist views)
    (hbody : ∀ x d, ByName i (fun σ => CreatedAs x.1.uid x.1.ns x.1.name σ ∧ ViewsNamed d σ)
      (body d x) ViewsNamed) :
    ByName i (ViewsNamed views) (planned.foldlM body views) ViewsNamed := by
  refine .pre (Triple.foldlM_lasting (fun _ => lasting_createdAs) hbody planned views)
    fun σ _ h => ⟨fun x hx => ?_, h⟩
  exact h x.1 (hplanned.subset (List.mem_map_of_mem hx))

lemma adoptPods_byName (views : List PodRuntimeView) (cause : RelinkCause) :
    ByName i (ViewsNamed views) (adoptPods config views now cause) ViewsNamed := by
  refine .bind (get_names.keeps (lasting_viewsNamed views)) fun s => ?_
  split
  · refine relinkPass_byName (planRelinks_sublist _ views now) fun planned d => ?_
    have hboth : Lasting namesContract fun σ =>
        CreatedAs planned.1.uid planned.1.ns planned.1.name σ ∧ ViewsNamed d σ :=
      lasting_createdAs.and (lasting_viewsNamed d)
    refine .bind (R := fun _ σ => CreatedAs planned.1.uid planned.1.ns planned.1.name σ ∧
      ViewsNamed d σ) (((relinkPod_byName now planned.1 planned.2 cause).frame hboth).mono
        (fun _ _ h => ⟨h.1, h⟩) fun _ _ h => h.2) fun landed => .pure fun σ _ h => ?_
    split
    · exact viewsNamed_replace h.1 h.2
    · exact h.2
  · exact .pure fun _ _ h => h

lemma cancelMergedLease_names (leaseId : Nat) : NamesOnly (cancelMergedLease leaseId) := by
  refine .seq get_names fun s => ?_
  dsimp only
  split
  · refine .seq (call_names rfl) fun cancelled => ?_
    split <;> exact .modify fun _ => .of_eq rfl rfl rfl rfl
  · exact .modify fun _ => .of_eq rfl rfl rfl rfl

lemma retireLease_names (leaseId : Option Nat) : NamesOnly (retireLease leaseId) := by
  cases leaseId with
  | none => exact .pure trivial
  | some id => exact cancelMergedLease_names id

lemma mergeOndemandIntoBookings_byName (views : List PodRuntimeView) :
    ByName i (ViewsNamed views) (mergeOndemandIntoBookings config views now) ViewsNamed := by
  refine .bind (get_names.keeps (lasting_viewsNamed views)) fun s => ?_
  split
  · refine relinkPass_byName (planRelinks_sublist _ views now) fun planned d => ?_
    have hboth : Lasting namesContract fun σ =>
        CreatedAs planned.1.uid planned.1.ns planned.1.name σ ∧ ViewsNamed d σ :=
      lasting_createdAs.and (lasting_viewsNamed d)
    refine .bind (R := fun _ σ => CreatedAs planned.1.uid planned.1.ns planned.1.name σ ∧
      ViewsNamed d σ) (((relinkPod_byName now planned.1 planned.2 .merge).frame hboth).mono
        (fun _ _ h => ⟨h.1, h⟩) fun _ _ h => h.2) fun landed => ?_
    split
    · exact .bind ((retireLease_names planned.1.reservationId).keeps hboth) fun _ =>
        .pure fun _ _ h => viewsNamed_replace h.1 h.2
    · exact .pure fun _ _ h => h.2
  · exact .pure fun _ _ h => h

end Relink

section Tick

variable (config : Config)

lemma relinkSnapshot_byName (now : Instant) (snapshot : List Pod) :
    ByName i (PodsNamed snapshot) (relinkSnapshot config now snapshot) fun _ _ => True :=
  .bind (.pre (mergeOndemandIntoBookings_byName config now _) fun _ _ => viewsNamed_podView none)
    fun views => .bind (adoptPods_byName config now views .overstay) fun _ => .pure fun _ _ _ => trivial

lemma cancelPendingNoshows_names (snapshot : List Pod) : NamesOnly (cancelPendingNoshows snapshot) := by
  refine .seq get_names fun s => ?_
  split
  · exact .pure trivial
  · refine withReservationLock_names (.seq get_names fun s => .forM fun rid _ => ?_)
    rw [cancelNoshow]
    split
    · exact .pure trivial
    · refine .seq (call_names rfl) fun cancelled => ?_
      split
      · exact .modify fun _ => .of_eq rfl rfl rfl rfl
      · exact .pure trivial

lemma tickSnapshot_byName (now : Instant) (snapshot : List Pod) :
    ByName i (PodsNamed snapshot) (tickSnapshot config now snapshot) fun _ _ => True := by
  have hlasting := lasting_podsNamed snapshot
  refine .bind ((cancelPendingNoshows_names snapshot).keeps hlasting) fun _ =>
    .bind ((withReservationLock_names (.pure trivial)).keeps hlasting) fun _ =>
    .bind ((call_names rfl).keeps hlasting) fun _ => ?_
  split
  · exact locked_byName hlasting (relinkSnapshot_byName config now snapshot) fun _ => lasting_true
  · exact .pure fun _ _ _ => trivial

lemma drainPendingMergeCancels_names : NamesOnly drainPendingMergeCancels := by
  refine .seq get_names fun s => ?_
  split
  · exact .pure trivial
  · exact withReservationLock_names
      (.seq get_names fun s => .forM fun leaseId _ => cancelMergedLease_names leaseId)

lemma tickNodes_names (now : Instant) (snapshot : List Pod) :
    NamesOnly (tickNodes config now snapshot) := by
  refine .seq ?_ fun nodes => .modify fun s => refreshNodeFeasibility_names s now config snapshot nodes
  rw [tickInventory]
  split
  · exact call_names rfl
  · exact .pure trivial

lemma withSnapshot_names {snapshot : Option (List Pod)} {body : List Pod → Ctl Unit}
    (h : ∀ pods, NamesOnly (body pods)) : NamesOnly (withSnapshot snapshot body) := by
  cases snapshot with
  | none => exact .pure trivial
  | some pods => exact h pods

theorem runQueueTick_byName (passes : Nat) :
    ByName i P (runQueueTick config passes) fun _ _ => True := by
  refine .bind (call_names rfl).byName fun now => .bind snapshotToleratedPods_byName fun snapshot => ?_
  have hlasting : Lasting namesContract fun σ => ∀ pods, snapshot = some pods → PodsNamed pods σ :=
    .forall lasting_podsNamed
  have hobserve : NamesOnly
      (withSnapshot snapshot fun pods => Prog.modify fun s => s.observeHolders pods now) :=
    withSnapshot_names fun pods => .modify fun _ => .of_eq rfl rfl rfl rfl
  have hcheck : NamesOnly (Prog.modify fun s => s.checkNoshowDeadlines now) :=
    .modify fun s => checkNoshowDeadlines_names s now
  refine .bind (hobserve.keeps hlasting) fun _ => .bind (hcheck.keeps hlasting) fun _ =>
    .bind (R := fun _ _ => True) ?_ fun _ =>
    .bind drainPendingMergeCancels_names.byName fun _ =>
    .bind (withSnapshot_names (tickNodes_names config now)).byName fun _ =>
    .bind (tickQueue_byName config now) fun _ =>
    .bind (runOndemandAdmission_byName config passes) fun _ =>
      NamesOnly.byName (.modify fun _ => .of_eq rfl rfl rfl rfl)
  cases snapshot with
  | none => exact .pure fun _ _ _ => trivial
  | some pods => exact .pre (tickSnapshot_byName config now pods) fun _ _ h => h pods rfl

end Tick

section Sweep

variable (config : Config) (now : Instant)

/-- The candidates of a need have the names they were created under. -/
def NeedNamed (need : BoundaryPreemptionNeed) (σ : Snap ControllerState World) : Prop :=
  ∀ g, ViewsNamed (offeredVictims need g) σ

def SelectedNamed (selected : Dict String (List PodRuntimeView)) (σ : Snap ControllerState World) :
    Prop :=
  ∀ g, ViewsNamed ((selected.get? g).getD []) σ

/-- So have those to be killed. -/
def DoomedNamed (toKill : List (PodRuntimeView × PodEvent)) (σ : Snap ControllerState World) :
    Prop :=
  ∀ v ∈ toKill, CreatedAs v.1.uid v.1.ns v.1.name σ

lemma lasting_needNamed (need : BoundaryPreemptionNeed) :
    Lasting namesContract (NeedNamed need) := .all fun _ => lasting_viewsNamed _

lemma lasting_selectedNamed (selected : Dict String (List PodRuntimeView)) :
    Lasting namesContract (SelectedNamed selected) := .all fun _ => lasting_viewsNamed _

lemma lasting_doomedNamed (toKill : List (PodRuntimeView × PodEvent)) :
    Lasting namesContract (DoomedNamed toKill) := .forall fun _ => lasting_createdAs

/-- One class of the local selection. -/
lemma shuffle_byName (need : BoundaryPreemptionNeed) (g : String) :
    ByName i (NeedNamed need) (call (.shuffle (offeredVictims need g)))
      fun l => ViewsNamed l := by
  refine .ask_sync rfl fun σ hright h c => ⟨_, _, rfl, .refl σ, hright, fun v hv => ?_⟩
  exact h g v ((reorder_perm _ c.order).subset hv)

lemma selectVictimsLocally_byName (need : BoundaryPreemptionNeed) :
    ByName i (NeedNamed need) (selectVictimsLocally need) SelectedNamed := by
  refine (Triple.foldlM_lasting (F := fun _ _ => True) (fun _ => lasting_true)
    (G := fun selected σ => SelectedNamed selected σ ∧ NeedNamed need σ) (fun e selected => ?_)
    need.killsNeededByClass.entries ∅).mono (fun σ _ h => ⟨fun _ _ => trivial, fun _ _ => nofun, h⟩)
    fun _ _ h => h.1
  have hboth := (lasting_selectedNamed selected).and (lasting_needNamed need)
  refine .bind (((shuffle_byName need e.1).frame hboth).pre fun σ _ h => ⟨h.2.2, h.2⟩) fun eligible =>
    .pure fun σ _ h => ⟨fun g v hv => ?_, h.2.2⟩
  rw [Dict.get?_set] at hv
  split at hv
  · exact h.1 v ((pickUntil_front _ _ _).subset hv)
  · exact h.2.1 g v hv

lemma selectVictims_byName (need : BoundaryPreemptionNeed) :
    ByName i (NeedNamed need) (selectVictims config need) SelectedNamed := by
  rw [selectVictims]
  split
  · refine .bind ((call_names rfl).keeps (lasting_needNamed need)) fun uids => ?_
    cases uids with
    | none => exact selectVictimsLocally_byName need
    | some chosen =>
      exact .pure fun σ _ h g v hv => h g v ((mapSelectedVictims_from chosen g).1 hv)
  · exact selectVictimsLocally_byName need

lemma victimsOf_byName (need : BoundaryPreemptionNeed) (boundary : Option Instant) :
    ByName i (NeedNamed need) (victimsOf config now need boundary) DoomedNamed := by
  rw [victimsOf]
  split
  · exact .pure fun _ _ _ v hv => (by cases hv)
  · refine .bind (selectVictims_byName config need) fun selected =>
      .bind (get_names.keeps (lasting_selectedNamed selected)) fun s => .pure fun σ _ h v hv => ?_
    obtain ⟨victim, hvictim, rfl⟩ := List.mem_map.mp hv
    obtain ⟨g, -, hvictim⟩ := List.mem_flatMap.mp hvictim
    exact h g victim hvictim

lemma needNamed_of_from {s : ControllerState} {pods : List PodRuntimeView}
    {toKill : List (PodRuntimeView × PodEvent)} {need : BoundaryPreemptionNeed}
    {σ : Snap ControllerState World} (hneed : NeedFrom s now (notDoomed pods toKill) need)
    (h : ViewsNamed pods σ) : NeedNamed need σ := by
  intro g v hv
  have hpre := mem_preemptable ((hneed g).subset hv)
  exact h v (List.mem_filter.mp hpre.1).1

variable (capacity : Dict String Nat) (pods : List PodRuntimeView)

/-- What a reclaim adds to those to be killed. -/
lemma reclaim_byName (toKill : List (PodRuntimeView × PodEvent)) {need : BoundaryPreemptionNeed}
    {s : ControllerState} (hneed : NeedFrom s now (notDoomed pods toKill) need)
    (boundary : Option Instant) :
    ByName i (fun σ => DoomedNamed toKill σ ∧ ViewsNamed pods σ) (do
      let victims ← victimsOf config now need boundary
      return toKill ++ victims) fun toKill σ => DoomedNamed toKill σ ∧ ViewsNamed pods σ := by
  have hboth := (lasting_doomedNamed toKill).and (lasting_viewsNamed pods)
  refine .bind (((victimsOf_byName config now need boundary).frame hboth).pre
    fun σ _ h => ⟨needNamed_of_from now hneed h.2, h⟩) fun victims => .pure fun σ _ h => ⟨?_, h.2.2⟩
  intro v hv
  rcases List.mem_append.mp hv with hv | hv
  · exact h.2.1 v hv
  · exact h.1 v hv

lemma planBoundary_byName (toKill : List (PodRuntimeView × PodEvent)) (boundary : Instant) :
    ByName i (fun σ => DoomedNamed toKill σ ∧ ViewsNamed pods σ)
      (planBoundary config now capacity pods toKill boundary)
      fun toKill σ => DoomedNamed toKill σ ∧ ViewsNamed pods σ := by
  have hboth := (lasting_doomedNamed toKill).and (lasting_viewsNamed pods)
  refine .bind (get_names.keeps hboth) fun s => ?_
  split
  · exact .pure fun _ _ h => h
  · have hmark : NamesOnly (Prog.modify fun s => s.markFired boundary (boundary ≤ now)) :=
      .modify fun _ => .of_eq rfl rfl rfl rfl
    exact .bind (hmark.keeps hboth) fun _ =>
      reclaim_byName config now pods toKill (needFrom_boundary boundary _) _

lemma planHeadroom_byName (toKill : List (PodRuntimeView × PodEvent)) :
    ByName i (fun σ => DoomedNamed toKill σ ∧ ViewsNamed pods σ)
      (planHeadroom config now capacity pods toKill)
      fun toKill σ => DoomedNamed toKill σ ∧ ViewsNamed pods σ := by
  have hboth := (lasting_doomedNamed toKill).and (lasting_viewsNamed pods)
  have hmark : NamesOnly (Prog.modify fun s => { s with headroomLastEval := some now }) :=
    .modify fun _ => .of_eq rfl rfl rfl rfl
  exact .bind (hmark.keeps hboth) fun _ => .bind (get_names.keeps hboth) fun s =>
    reclaim_byName config now pods toKill (needFrom_headroom _ _ _) none

lemma deleteJudgedPod_byName (judged : Uid) (ns name : String) :
    ByName i (CreatedAs judged ns name) (deleteJudgedPod judged ns name) fun _ _ => True := by
  refine .bind (judged_call rfl rfl) fun deleted => ?_
  split
  · exact NamesOnly.byName (.modify fun s => releasePod_names s judged)
  · exact .pure fun _ _ _ => trivial

lemma announcePreemption_names (victim : PodRuntimeView) (event : PodEvent) :
    NamesOnly (announcePreemption config now victim event) := by
  refine .seq (call_names rfl) fun pod => ?_
  cases pod with
  | none => exact .pure trivial
  | some p =>
    exact .seq (call_names rfl) fun _ => reportOverstayIfAny_names config p now

lemma preemptPod_byName (victim : PodRuntimeView × PodEvent) :
    ByName i (fun σ => CreatedAs victim.1.uid victim.1.ns victim.1.name σ)
      (preemptPod config now victim) fun _ _ => True :=
  .bind ((announcePreemption_names config now victim.1 victim.2).keeps lasting_createdAs) fun _ =>
    deleteJudgedPod_byName victim.1.uid victim.1.ns victim.1.name

lemma sweepUnderLock_byName (boundaries : List Instant) (headroomDue : Bool) (snapshot : List Pod)
    (nodes : NodeSnapshot) :
    ByName i (PodsNamed snapshot)
      (sweepUnderLock config now boundaries headroomDue snapshot nodes) fun _ _ => True := by
  have hkill : ∀ toKill : List (PodRuntimeView × PodEvent), ByName i (DoomedNamed toKill) (do
      toKill.forM (preemptPod config now)
      return toKill.map (·.1.uid)) fun _ _ => True :=
    fun toKill => .bind (Triple.forM_lasting (fun _ => lasting_createdAs)
      (preemptPod_byName config now) toKill) fun _ => .pure fun _ _ h => h
  refine .bind (.pre (mergeOndemandIntoBookings_byName config now _)
      fun _ _ => viewsNamed_podView (some nodes.inventory)) fun views =>
    .bind (adoptPods_byName config now views .overstay) fun pods =>
    .bind (R := fun toKill σ => DoomedNamed toKill σ ∧ ViewsNamed pods σ) ?_ fun toKill => ?_
  · exact .pre (Triple.foldlM_lasting (F := fun _ _ => True) (fun _ => lasting_true)
      (fun boundary toKill => .pre (planBoundary_byName config now _ pods toKill boundary)
        fun _ _ h => h.2) boundaries []) fun σ _ h => ⟨fun _ _ => trivial, fun _ hv => (by cases hv), h⟩
  · dsimp only
    split
    · exact .bind (planHeadroom_byName config now _ pods toKill) fun toKill =>
        .pre (hkill toKill) fun _ _ h => h.1
    · exact .bind (R := DoomedNamed) (.pure fun _ _ h => h.1) hkill

theorem runPreemptionSweep_byName :
    ByName i P (runPreemptionSweep config) fun _ _ => True := by
  refine .bind (call_names rfl).byName fun now => ?_
  have hprune : NamesOnly (Prog.modify fun s =>
      s.prunePreemptionMarks now (minutes config.preemptionLeadMinutes)) :=
    .modify fun _ => .of_eq rfl rfl rfl rfl
  refine .bind hprune.byName fun _ => .bind get_names.byName fun s => ?_
  split
  · exact .pure fun _ _ h => h
  · refine .bind snapshotToleratedPods_byName fun snapshot => ?_
    cases snapshot with
    | none => exact .pure fun _ _ _ => trivial
    | some pods =>
      refine .pre (P := PodsNamed pods) ?_ fun _ _ h => h pods rfl
      refine .bind ((call_names rfl).keeps (lasting_podsNamed pods)) fun nodes => ?_
      cases nodes with
      | none => exact .pure fun _ _ _ => trivial
      | some n =>
        refine .bind (locked_byName (lasting_podsNamed pods)
          (sweepUnderLock_byName config now _ _ pods n) fun _ => lasting_true) fun doomed => ?_
        refine NamesOnly.byName ?_
        split
        · exact .seq (call_names rfl) fun _ => .modify fun _ => .of_eq rfl rfl rfl rfl
        · exact .pure trivial

end Sweep

section Reconcile

variable (config : Config)

/-- The pods to evict have the names they were created under. -/
def EvictionsNamed (evictions : List PodEviction) (σ : Snap ControllerState World) : Prop :=
  ∀ e ∈ evictions, PodNamed e.pod σ

lemma lasting_evictionsNamed (evictions : List PodEviction) :
    Lasting namesContract (EvictionsNamed evictions) := .forall fun e => lasting_podNamed e.pod

lemma executeEviction_byName (eviction : PodEviction) :
    ByName i (PodNamed eviction.pod) (executeEviction eviction) fun _ _ => True := by
  refine .bind ((call_names rfl).keeps (lasting_podNamed eviction.pod)) fun pod =>
    .bind (R := fun _ => PodNamed eviction.pod) ?_ fun _ =>
      deleteJudgedPod_byName eviction.pod.uid eviction.pod.ns eviction.pod.name
  refine NamesOnly.keeps ?_ (lasting_podNamed eviction.pod)
  cases pod with
  | none => exact .pure trivial
  | some p => exact .seq (call_names rfl) fun _ => .pure trivial

lemma executeEvictions_byName (evictions : List PodEviction) :
    ByName i (EvictionsNamed evictions) (evictions.forM executeEviction) fun _ _ => True :=
  Triple.forM_lasting (fun e => lasting_podNamed e.pod) executeEviction_byName evictions

/-- Pods of the snapshot are evicted. -/
lemma evictionsNamed_append {evictions : List PodEviction} {podSnapshot pods : List Pod}
    {event : PodEvent} {σ : Snap ControllerState World} (hpods : ∀ p ∈ pods, p ∈ podSnapshot)
    (h : EvictionsNamed evictions σ ∧ PodsNamed podSnapshot σ) :
    EvictionsNamed (evictions ++ pods.map fun p => ⟨p, event⟩) σ := by
  intro e he
  rcases List.mem_append.mp he with he | he
  · exact h.1 e he
  · obtain ⟨p, hp, rfl⟩ := List.mem_map.mp he
    exact h.2 p (hpods p hp)

lemma planCancelledReservation_byName (now : Instant) (podSnapshot : List Pod)
    (evictions : List PodEviction) (cancelled : ReservationResponse) :
    ByName i (fun σ => EvictionsNamed evictions σ ∧ PodsNamed podSnapshot σ)
      (planCancelledReservation config now podSnapshot evictions cancelled)
      fun evictions σ => EvictionsNamed evictions σ ∧ PodsNamed podSnapshot σ := by
  have hboth := (lasting_evictionsNamed evictions).and (lasting_podsNamed podSnapshot)
  have hsub : ∀ p ∈ podSnapshot.filter fun p => p.bookingReference = some cancelled.id,
      p ∈ podSnapshot := fun p hp => (List.mem_filter.mp hp).1
  rw [planCancelledReservation]
  dsimp only
  split
  · refine .bind (((adoptPods_byName config now _ .replaced).frame hboth).pre fun σ _ h =>
      ⟨viewsNamed_podView none fun p hp => h.2 p (hsub p hp), h⟩) fun views =>
      .pure fun σ _ h => ⟨evictionsNamed_append (fun p hp => hsub p (List.mem_filter.mp hp).1) h.2,
        h.2.2⟩
  · exact .pure fun σ _ h => ⟨evictionsNamed_append hsub h, h.2⟩

lemma reconcileAfterReservationChange_byName (active cancelled : List ReservationResponse)
    (ownerChanges : List (ReservationResponse × String)) (now : Instant) (maps : GpuClassMaps) :
    ByName i P (reconcileAfterReservationChange config active cancelled ownerChanges now maps)
      EvictionsNamed := by
  refine .bind (call_names rfl).byName fun reconciledAt => ?_
  have hinstall : NamesOnly
      (Prog.modify fun s => s.installReservations active maps reconciledAt) :=
    .modify fun s => installReservations_names s reconciledAt active maps
  refine .bind hinstall.byName fun _ => ?_
  split
  · exact .pure fun _ _ _ _ he => (by cases he)
  · refine .bind snapshotToleratedPods_byName fun snapshot =>
      .bind (R := fun evictions σ => EvictionsNamed evictions σ ∧ PodsNamed (snapshot.getD []) σ)
        (.pre (Triple.foldlM_lasting (F := fun _ _ => True) (fun _ => lasting_true)
          (fun r evictions => .pre
            (planCancelledReservation_byName config now (snapshot.getD []) evictions r)
            fun _ _ h => h.2) cancelled []) fun σ _ h => ⟨fun _ _ => trivial, ?_, ?_⟩)
        fun evictions => .pure fun σ _ h e he => ?_
    · exact fun e he => (by cases he)
    · cases snapshot with
      | none => exact fun p hp => (by cases hp)
      | some pods => exact h pods rfl
    · rcases List.mem_append.mp he with he | he
      · exact h.1 e he
      · obtain ⟨change, -, he⟩ := List.mem_flatMap.mp he
        obtain ⟨p, hp, rfl⟩ := List.mem_map.mp he
        exact h.2 p (List.mem_filter.mp hp).1

lemma resolveGpuClassMaps_names (classIds : List Nat) (prior : GpuClassMaps) :
    NamesOnly (resolveGpuClassMaps classIds prior) := by
  refine .seq (call_names rfl) fun gpuClasses => .foldlM (fun classId _ maps => ?_) _
  rw [resolveGpuClass]
  split
  · exact .pure trivial
  · exact .seq (call_names rfl) fun _ => .pure trivial

lemma trackNoshows_names (now : Instant) : NamesOnly (trackNoshows config now) :=
  .modify fun _ => .of_eq rfl rfl rfl rfl

theorem refreshReservations_byName :
    ByName i P (refreshReservations config) fun _ _ => True := by
  refine .bind (call_names rfl).byName fun fetched => ?_
  cases fetched with
  | none => exact .pure fun _ _ _ => trivial
  | some rows =>
    refine .bind get_names.byName fun s => .bind (resolveGpuClassMaps_names _ _).byName fun maps =>
      .bind (call_names rfl).byName fun now =>
      .bind (R := EvictionsNamed) (locked_byName lasting_true ?_ lasting_evictionsNamed)
        fun evictions => .bind (executeEvictions_byName evictions) fun _ =>
      .bind (call_names rfl).byName fun trackedAt => (trackNoshows_names config trackedAt).byName
    have hknown : NamesOnly (Prog.modify fun s => { s with reservationsKnown := true }) :=
      .modify fun _ => .of_eq rfl rfl rfl rfl
    exact .bind get_names.byName fun s =>
      .bind (reconcileAfterReservationChange_byName config _ _ _ now maps) fun evictions =>
        .bind (hknown.keeps (lasting_evictionsNamed evictions)) fun _ => .pure fun _ _ h => h

theorem pushReservations_byName (pushed : List ReservationResponse) :
    ByName i P (pushReservations config pushed) fun _ _ => True := by
  refine .bind (call_names rfl).byName fun now => .bind get_names.byName fun s =>
    .bind (resolveGpuClassMaps_names _ _).byName fun maps =>
    .bind (R := EvictionsNamed) (locked_byName lasting_true ?_ lasting_evictionsNamed)
      executeEvictions_byName
  exact .bind get_names.byName fun s =>
    .bind (reconcileAfterReservationChange_byName config _ _ _ now maps) fun evictions =>
      .bind ((trackNoshows_names config now).keeps (lasting_evictionsNamed evictions)) fun _ =>
        .pure fun _ _ h => h

end Reconcile

/-! Whole runs. -/

/-- A watch event is of a pod under the name it was created under, a grant of a registered
candidate. -/
def startsRight (p : System) : SystemMove → Prop
  | .spawn (.watch _ pod _) => PodNamed pod p.snap
  | .spawn (.grant uid ref _) => p.snap.shared.ondemandCandidates.get? uid = some ref
  | _ => True

/-- The pod for which the call that the step carries out was decided, and the name it gives. -/
def judgedCall (p : System) (m : SystemMove) : Option (Uid × String × String) :=
  (servedTo p m).bind fun call => judgedPod call.2.1

/-- What the step patches or deletes, if anything, is the pod for which that was decided. -/
def landsOnJudged (p : System) (m : SystemMove) : Bool :=
  (judgedCall p m).all fun judged =>
    (p.snap.world.pods.get? judged.2).all fun pod => pod.uid = judged.1

/-- It gives the name under which that pod was created, and lands on that pod unless it is gone. -/
def landsUnlessGone (p : System) (m : SystemMove) : Prop :=
  ∀ judged ns name, judgedCall p m = some (judged, ns, name) →
    p.snap.world.created.get? judged = some (ns, name) ∧
      ∀ pod, p.snap.world.pods.get? (ns, name) = some pod →
        pod.uid = judged ∨ ∀ pod' ∈ p.snap.world.pods.values, pod'.uid ≠ judged

lemma program_byName (config : Config) {job : Job} {p : System} (hright : NamesRight p.snap)
    (hstart : startsRight p (.spawn job)) :
    taskOk runtime NamesRight namesContract i (.ready (job.program config)) p.snap := by
  have hany : ∀ {prog : Ctl Unit}, ByName i (fun _ => True) prog (fun _ _ => True) →
      taskOk runtime NamesRight namesContract i (.ready prog) p.snap :=
    fun h => taskOk_ready lasting_true.1 h trivial
  cases job with
  | fetch => exact hany (refreshReservations_byName config)
  | push pushed => exact hany (pushReservations_byName config pushed)
  | watch eventType pod passes =>
    exact taskOk_ready (lasting_podNamed pod).1 (watchEvent_byName config passes eventType pod) hstart
  | queueTick passes => exact hany (runQueueTick_byName config passes)
  | sweep => exact hany (runPreemptionSweep_byName config)
  | admissionPass => exact hany (runOndemandAdmissionOnce_byName config)
  | grant uid ref ask =>
    exact taskOk_ready lasting_candidateNamed.1
      (.bind (grantAndAdmit_byName config uid ref ask) fun _ => .pure fun _ _ h => h)
      (hright.candidates uid ref hstart)

/-- Every task can go on by the names of the pods. -/
def goesByName (p : System) : Prop := poolOk runtime NamesRight (fun _ _ => namesContract) p

lemma landsUnlessGone_of_goesByName {p : System} (hp : goesByName p) (m : SystemMove) :
    landsUnlessGone p m := by
  intro judged ns name hcall
  obtain ⟨⟨job, q, c⟩, hserved, hjudged⟩ := Option.bind_eq_some_iff.mp hcall
  obtain ⟨i, k, -, hi⟩ := servedTo_some hserved
  have hcreated : p.snap.world.created.get? judged = some (ns, name) :=
    poolOk_served hp hi judged ns name hjudged
  refine ⟨hcreated, fun pod hpod => ?_⟩
  by_contra! hother
  obtain ⟨hne, pod', hpod', huid⟩ := hother
  obtain ⟨k', hk'⟩ := Dict.mem_values_iff.mp hpod'
  -- the judged pod stands under the name it was created under
  have hname := (hp.1.cluster.named k' pod' hk').2
  rw [huid, hcreated, Option.some.injEq] at hname
  rw [← hname, hpod, Option.some.injEq] at hk'
  exact hne (hk' ▸ huid)

lemma goesByName_step (config : Config) {p : System} {m : SystemMove} (hp : goesByName p)
    (hm : startsRight p m) : goesByName (systemStep config p m) := by
  refine poolOk_step hp ?_ (fun _ _ _ _ _ hguar _ _ _ _ _ _ _ => hguar)
    (fun _ _ _ _ _ _ _ => trivial) fun e _ => ?_
  · rintro job rfl
    exact program_byName config hp.1 hm
  · obtain ⟨hkept, hright⟩ :=
      namesRight_world hp.1 (effect_clusterWf e hp.1.cluster) (effect_later e p.snap.world)
    exact ⟨hright, fun _ _ _ _ _ _ => hkept⟩

/-- In every run, each patch and each deletion gives the name its pod was created under, and lands
on that pod unless it is gone. -/
theorem judgedPods_hit (config : Config) (s : ControllerState) (w : World)
    (hnames : NamesRight ⟨s, w⟩) (ms : List SystemMove)
    (hms : runMeets runtime (Job.program config) outside startsRight ⟨⟨s, w⟩, []⟩ ms) :
    runMeets runtime (Job.program config) outside landsUnlessGone ⟨⟨s, w⟩, []⟩ ms := by
  have hstart : goesByName ⟨⟨s, w⟩, []⟩ := ⟨hnames, fun _ _ _ hi => (by cases hi)⟩
  refine runMeets_of_step (fun p m hp hm => ?_) hstart hms
  exact ⟨goesByName_step config hp hm, landsUnlessGone_of_goesByName hp m⟩

/-- A pod which its owner's booking admits at once. -/
def bookedPod : Pod where
  uid := "pod-a"
  ns := "alice"
  name := "train"
  gpuClass := "h100"
  gpuCount := 1

def bookedAlice : ControllerState where
  reservations := [hourBooking 1 0 100]
  gpuClassLabels := Dict.ofList [(7, "h100")]

def clusterOfOne : World where
  pods := Dict.ofList [(("alice", "train"), bookedPod)]
  created := Dict.ofList [("pod-a", ("alice", "train"))]

/-- While the patch is under way the pod goes, and another is created under its name. -/
def nameReused : List SystemMove :=
  [.spawn (.watch .added bookedPod 1), .run 0 [], .serve 0 {}, .run 0 [],
    .event (.podGone "alice" "train"), .event (.podCreated { bookedPod with uid := "pod-b" }),
    .serve 0 {}]

lemma clusterOfOne_names : NamesRight ⟨bookedAlice, clusterOfOne⟩ := by
  refine ⟨⟨fun k p hp => ?_, nofun⟩, nofun, nofun⟩
  obtain ⟨rfl, rfl⟩ : k = ("alice", "train") ∧ p = bookedPod := by
    simpa using Dict.mem_of_get?_ofList hp
  exact ⟨rfl, rfl⟩

theorem judgedPods_hit_nameReused :
    runMeets runtime (Job.program {}) outside landsUnlessGone ⟨⟨bookedAlice, clusterOfOne⟩, []⟩
      nameReused :=
  judgedPods_hit {} bookedAlice clusterOfOne clusterOfOne_names nameReused
    ⟨rfl, trivial, trivial, trivial, trivial, trivial, trivial, trivial⟩

/-- The pod created meanwhile is admitted for its predecessor. -/
theorem judgedPods_missed :
    ¬ ∀ (config : Config) (s : ControllerState) (w : World) (ms : List SystemMove),
      NamesRight ⟨s, w⟩ →
        runMeets runtime (Job.program config) outside startsRight ⟨⟨s, w⟩, []⟩ ms →
          runMeets runtime (Job.program config) outside (fun p m => landsOnJudged p m)
            ⟨⟨s, w⟩, []⟩ ms := by
  intro h
  have hruns := h {} bookedAlice clusterOfOne nameReused clusterOfOne_names
    ⟨rfl, trivial, trivial, trivial, trivial, trivial, trivial, trivial⟩
  revert hruns
  decide +kernel

end GpuReservation.Proofs
