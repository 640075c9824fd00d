import GpuReservation.Proofs.Victims

/-!
# The victims of a whole sweep

One sweep from beginning to end, the controller's state left alone by the other tasks, whatever
its calls are answered.
-/

namespace GpuReservation.Proofs

open GpuReservation.Library GpuReservation.Model

/-- An answer the sweep can be given: the pods of a LIST have distinct uids. -/
def sweepAnswer (q : Request) (a : Answer q) : Prop :=
  canAnswer q a ∧ match q, a with
    | .listPods, some pods => (pods.map (·.uid)).Nodup
    | _, _ => True

/-- The pod a call deletes. -/
def deletedPod : Sigma Answer → Option (Uid × String × String)
  | ⟨.deletePod judged ns name, _⟩ => some (judged, ns, name)
  | _ => none

/-- The pods a sweep deletes, in order. -/
def deletedPods (tr : List (Sigma Answer)) : List (Uid × String × String) := tr.filterMap deletedPod

section Views

variable {ans : ∀ q, Answer q → Prop} {s s' : ControllerState} {tr : List (Sigma Answer)}
  (config : Config) (now : Instant)

lemma map_uid_replace (views : List PodRuntimeView) (view : PodRuntimeView)
    (res : ReservationResponse) :
    (views.replace view (view.relinked res)).map (·.uid) = views.map (·.uid) := by
  induction views with
  | nil => rfl
  | cons v views ih =>
    rw [List.replace_cons]
    split
    · rename_i h
      rw [← eq_of_beq h]
      rfl
    · rw [List.map_cons, List.map_cons, ih]

lemma adoptPods_exec {views views' : List PodRuntimeView} {cause : RelinkCause}
    (h : (adoptPods config views now cause).Exec ans s tr views' s') :
    views'.map (·.uid) = views.map (·.uid) := by
  rw [adoptPods, Prog.exec_get_bind] at h
  split at h
  · refine Prog.exec_foldlM (fun _ d _ _ => d.map (·.uid) = views.map (·.uid)) ?_ rfl h
    intro planned l d c tr tr' d' c' hd hbody
    rw [adoptPod, Prog.exec_bind] at hbody
    obtain ⟨_, _, landed, _, -, -, -, rfl, -⟩ := hbody
    split
    · rw [map_uid_replace, hd]
    · exact hd
  · obtain ⟨-, rfl, -⟩ := h
    rfl

lemma mergeOndemandIntoBookings_exec {views views' : List PodRuntimeView}
    (h : (mergeOndemandIntoBookings config views now).Exec ans s tr views' s') :
    views'.map (·.uid) = views.map (·.uid) := by
  rw [mergeOndemandIntoBookings, Prog.exec_get_bind] at h
  split at h
  · refine Prog.exec_foldlM (fun _ d _ _ => d.map (·.uid) = views.map (·.uid)) ?_ rfl h
    intro planned l d c tr tr' d' c' hd hbody
    rw [mergePod, Prog.exec_bind] at hbody
    obtain ⟨_, _, landed, _, -, -, hbody⟩ := hbody
    split at hbody
    · rw [Prog.exec_bind] at hbody
      obtain ⟨_, _, _, _, -, -, -, rfl, -⟩ := hbody
      rw [map_uid_replace, hd]
    · obtain ⟨-, rfl, -⟩ := hbody
      exact hd
  · obtain ⟨-, rfl, -⟩ := h
    rfl

end Views

section Choose

variable (config : Config) (now : Instant) (capacity : Dict String Nat)
  (views : List PodRuntimeView) (s : ControllerState)

/-- The class is short at the boundary, or of headroom, once the doomed pods are gone. -/
def shortOf (boundaries : List Instant) (headroomDue : Bool)
    (doomed : List (PodRuntimeView × PodEvent)) (gpuClass : String) : Prop :=
  (∃ b ∈ boundaries, gpuClass ∈
    (s.planBoundaryCandidates b capacity (notDoomed views doomed) now).killsNeededByClass) ∨
  (headroomDue = true ∧ gpuClass ∈
    (s.planHeadroomCandidates capacity (notDoomed views doomed) now config.headroomTargetPercent
      config.terminationWarningEnabled).killsNeededByClass)

/-- A pod which may be killed: one of the views, past its guarantee, whose GPUs its class is short
of. -/
structure SoundVictim (boundaries : List Instant) (headroomDue : Bool)
    (doomed : List (PodRuntimeView × PodEvent)) (v : PodRuntimeView) : Prop where
  mem : v ∈ views
  admitted : v.reservationId.isSome
  resident : v.nodeResident = true
  placed : v.nodeExcluded = false
  living : v.terminating = false
  gpus : 0 < v.gpuCount
  past : s.pastGuarantee v now = true
  short : shortOf config now capacity views s boundaries headroomDue doomed v.gpuClass

/-- What the planning keeps of the pods to kill. -/
structure ChosenSoundly (boundaries : List Instant) (headroomDue : Bool)
    (toKill : List (PodRuntimeView × PodEvent)) : Prop where
  once : (toKill.map (·.1.uid)).Nodup
  sound : ∀ v ∈ toKill, ∃ doomed, doomed <+: toKill ∧
    SoundVictim config now capacity views s boundaries headroomDue doomed v.1

variable {config now capacity views s} {boundaries : List Instant} {headroomDue : Bool}
  {ans : ∀ q, Answer q → Prop} {s₁ s₂ : ControllerState} {tr : List (Sigma Answer)}

lemma mem_preemptable {gpuClass : String} {pods : List PodRuntimeView} {v : PodRuntimeView}
    (h : v ∈ s.preemptable gpuClass pods now) :
    v ∈ pods ∧ v.gpuClass = gpuClass ∧ v.reservationId.isSome ∧ v.nodeResident = true ∧
      v.nodeExcluded = false ∧ v.terminating = false ∧ 0 < v.gpuCount ∧
      s.pastGuarantee v now = true := by
  obtain ⟨hmem, hkeep⟩ := List.mem_filter.mp h
  simp only [Bool.and_eq_true, decide_eq_true_eq, Bool.not_eq_true'] at hkeep
  tauto

/-- The need is the state's own, the candidates being preemptable pods still to be killed. -/
def NeedFrom (s : ControllerState) (now : Instant) (pods : List PodRuntimeView)
    (need : BoundaryPreemptionNeed) : Prop :=
  ∀ g, (offeredVictims need g).Sublist (s.preemptable g pods now)

lemma needFrom_boundary (b : Instant) (pods : List PodRuntimeView) :
    NeedFrom s now pods (s.planBoundaryCandidates b capacity pods now) := by
  intro g
  rw [ControllerState.planBoundaryCandidates, offeredVictims_needOf]
  split
  · exact .refl _
  · exact List.nil_sublist _

lemma needFrom_headroom (pods : List PodRuntimeView) (percent : Nat) (notice : Bool) :
    NeedFrom s now pods (s.planHeadroomCandidates capacity pods now percent notice) := by
  intro g
  rw [ControllerState.planHeadroomCandidates, offeredVictims_needOf]
  split
  · exact List.filter_sublist
  · exact List.nil_sublist _

/-- The victims of one reclaim are candidates of classes which are short, and no pod twice. -/
lemma victimsOf_exec {pods : List PodRuntimeView} {victims : List (PodRuntimeView × PodEvent)}
    {need : BoundaryPreemptionNeed} {boundary : Option Instant}
    (hans : ∀ q a, ans q a → canAnswer q a) (hpods : (pods.map (·.uid)).Nodup)
    (hneed : NeedFrom s now pods need)
    (h : (victimsOf config now need boundary).Exec ans s₁ tr victims s₂) :
    s₂ = s₁ ∧ (∀ e ∈ tr, Request.choosesVictims e.1) ∧ (victims.map (·.1.uid)).Nodup ∧
      ∀ v ∈ victims, v.1.gpuClass ∈ need.killsNeededByClass ∧
        v.1 ∈ s.preemptable v.1.gpuClass pods now := by
  rw [victimsOf] at h
  split at h
  · obtain ⟨rfl, rfl, rfl⟩ := h
    simp
  · rw [Prog.exec_bind] at h
    obtain ⟨tr₁, tr₂, selected, c, rfl, hselect, rfl, rfl, rfl⟩ := h
    have hoffered : ∀ g, ∀ v ∈ offeredVictims need g, v.gpuClass = g ∧ v ∈ pods := by
      intro g v hv
      obtain ⟨hmem, hclass, -⟩ := mem_preemptable ((hneed g).subset hv)
      exact ⟨hclass, hmem⟩
    have hnodup : ∀ g, ((offeredVictims need g).map (·.uid)).Nodup := fun g =>
      hpods.sublist (((hneed g).trans List.filter_sublist).map _)
    obtain ⟨hs, hcalls, hfrom⟩ := selectVictims_exec config hans hnodup hselect
    obtain ⟨honce, hvictims⟩ := planVictims_offered hpods hoffered hfrom
    refine ⟨hs, by simpa using hcalls, by simpa [Function.comp_def] using honce, fun v hv => ?_⟩
    obtain ⟨victim, hvictim, rfl⟩ := List.mem_map.mp hv
    obtain ⟨hshort, hin⟩ := hvictims victim hvictim
    exact ⟨hshort, (hneed _).subset hin⟩

lemma ChosenSoundly.append {toKill victims : List (PodRuntimeView × PodEvent)}
    (hchosen : ChosenSoundly config now capacity views s boundaries headroomDue toKill)
    (honce : (victims.map (·.1.uid)).Nodup)
    (hvictims : ∀ v ∈ victims,
      shortOf config now capacity views s boundaries headroomDue toKill v.1.gpuClass ∧
        v.1 ∈ s.preemptable v.1.gpuClass (notDoomed views toKill) now) :
    ChosenSoundly config now capacity views s boundaries headroomDue (toKill ++ victims) := by
  refine ⟨?_, fun v hv => ?_⟩
  · rw [List.map_append, List.nodup_append']
    refine ⟨hchosen.once, honce, List.disjoint_right.mpr fun uid huid => ?_⟩
    obtain ⟨v, hv, rfl⟩ := List.mem_map.mp huid
    have hmem := (mem_preemptable (hvictims v hv).2).1
    simpa using (List.mem_filter.mp hmem).2
  · rcases List.mem_append.mp hv with hv | hv
    · obtain ⟨doomed, hfront, hsound⟩ := hchosen.sound v hv
      exact ⟨doomed, hfront.trans (List.prefix_append _ _), hsound⟩
    · obtain ⟨hshort, hpre⟩ := hvictims v hv
      obtain ⟨hmem, -, hadm, hres, hplaced, hliving, hgpus, hpast⟩ := mem_preemptable hpre
      exact ⟨toKill, List.prefix_append _ _, (List.mem_filter.mp hmem).1, hadm, hres, hplaced,
        hliving, hgpus, hpast, hshort⟩

lemma nodup_notDoomed (hviews : (views.map (·.uid)).Nodup)
    (toKill : List (PodRuntimeView × PodEvent)) :
    ((notDoomed views toKill).map (·.uid)).Nodup :=
  hviews.sublist (List.filter_sublist.map _)

lemma planBoundary_exec {toKill toKill' : List (PodRuntimeView × PodEvent)} {b : Instant}
    (hans : ∀ q a, ans q a → canAnswer q a) (hviews : (views.map (·.uid)).Nodup)
    (hb : b ∈ boundaries) (hmarks : OnlyMarks s s₁)
    (hchosen : ChosenSoundly config now capacity views s boundaries headroomDue toKill)
    (h : (planBoundary config now capacity views toKill b).Exec ans s₁ tr toKill' s₂) :
    OnlyMarks s s₂ ∧ (∀ e ∈ tr, Request.choosesVictims e.1) ∧
      ChosenSoundly config now capacity views s boundaries headroomDue toKill' := by
  rw [planBoundary, Prog.exec_get_bind] at h
  split at h
  · obtain ⟨rfl, rfl, rfl⟩ := h
    exact ⟨hmarks, by simp, hchosen⟩
  · rw [Prog.exec_modify_bind, Prog.exec_bind] at h
    obtain ⟨tr₁, tr₂, victims, c, rfl, hvictims, rfl, rfl, rfl⟩ := h
    obtain ⟨fired, last, rfl⟩ := hmarks
    have hneed : NeedFrom s now (notDoomed views toKill)
        (s.planBoundaryCandidates b capacity (notDoomed views toKill) now) :=
      needFrom_boundary b _
    obtain ⟨rfl, hcalls, honce, hsound⟩ :=
      victimsOf_exec hans (nodup_notDoomed hviews toKill) hneed hvictims
    refine ⟨⟨_, _, rfl⟩, by simpa using hcalls, hchosen.append honce fun v hv => ?_⟩
    obtain ⟨hshort, hpre⟩ := hsound v hv
    exact ⟨.inl ⟨b, hb, hshort⟩, hpre⟩

lemma planHeadroom_exec {toKill toKill' : List (PodRuntimeView × PodEvent)}
    (hans : ∀ q a, ans q a → canAnswer q a) (hviews : (views.map (·.uid)).Nodup)
    (hdue : headroomDue = true) (hmarks : OnlyMarks s s₁)
    (hchosen : ChosenSoundly config now capacity views s boundaries headroomDue toKill)
    (h : (planHeadroom config now capacity views toKill).Exec ans s₁ tr toKill' s₂) :
    OnlyMarks s s₂ ∧ (∀ e ∈ tr, Request.choosesVictims e.1) ∧
      ChosenSoundly config now capacity views s boundaries headroomDue toKill' := by
  rw [planHeadroom, Prog.exec_modify_bind, Prog.exec_get_bind, Prog.exec_bind] at h
  obtain ⟨tr₁, tr₂, victims, c, rfl, hvictims, rfl, rfl, rfl⟩ := h
  obtain ⟨fired, last, rfl⟩ := hmarks
  have hneed : NeedFrom s now (notDoomed views toKill)
      (s.planHeadroomCandidates capacity (notDoomed views toKill) now config.headroomTargetPercent
        config.terminationWarningEnabled) :=
    needFrom_headroom _ _ _
  obtain ⟨rfl, hcalls, honce, hsound⟩ :=
    victimsOf_exec hans (nodup_notDoomed hviews toKill) hneed hvictims
  refine ⟨⟨_, _, rfl⟩, by simpa using hcalls, hchosen.append honce fun v hv => ?_⟩
  obtain ⟨hshort, hpre⟩ := hsound v hv
  exact ⟨.inr ⟨hdue, hshort⟩, hpre⟩

end Choose

section Kill

variable {α : Type} {ans : ∀ q, Answer q → Prop} {s s' : ControllerState} {tr : List (Sigma Answer)}

/-- A call which deletes no pod. -/
def Request.sparesPods : Request → Prop
  | .deletePod _ _ _ => False
  | _ => True

/-- A part which deletes no pod. -/
def SparesPods (p : Ctl α) : Prop :=
  p.Within (fun _ _ => True) Request.sparesPods fun _ => True

lemma deletedPods_eq_nil (h : ∀ e ∈ tr, Request.sparesPods e.1) : deletedPods tr = [] := by
  refine List.filterMap_eq_nil_iff.mpr fun e he => ?_
  have hspares := h e he
  obtain ⟨q, a⟩ := e
  cases q <;> first | rfl | exact hspares.elim

lemma SparesPods.exec {p : Ctl α} {a : α} (hp : SparesPods p) (h : p.Exec ans s tr a s') :
    deletedPods tr = [] :=
  deletedPods_eq_nil (Prog.exec_of_within (fun _ => trivial) (fun _ _ _ _ _ => trivial) hp h).2.1

lemma deletedPods_append (tr tr' : List (Sigma Answer)) :
    deletedPods (tr ++ tr') = deletedPods tr ++ deletedPods tr' :=
  List.filterMap_append

lemma MergesOnly.sparesPods {p : Ctl α} (h : MergesOnly p) : SparesPods p := by
  refine h.mono (fun _ _ _ => trivial) (fun q hq => ?_) fun _ _ => trivial
  cases q <;> trivial

lemma AnnouncesOnly.sparesPods {p : Ctl α} (h : AnnouncesOnly p) : SparesPods p := by
  refine h.mono (fun _ _ _ => trivial) (fun q hq => ?_) fun _ _ => trivial
  cases q <;> trivial

lemma choosesVictims_sparesPods {q : Request} (h : Request.choosesVictims q) :
    Request.sparesPods q := by
  cases q <;> trivial

variable (config : Config) (now : Instant)

lemma preemptPod_exec {victim : PodRuntimeView × PodEvent} {a : Unit}
    (h : (preemptPod config now victim).Exec ans s tr a s') :
    deletedPods tr = [(victim.1.uid, victim.1.ns, victim.1.name)] := by
  rw [preemptPod, Prog.exec_bind] at h
  obtain ⟨tr₁, tr₂, _, c, rfl, hannounce, hdelete⟩ := h
  rw [deletedPods_append, (announcePreemption_announces config now _ _).sparesPods.exec hannounce,
    List.nil_append]
  rw [deleteJudgedPod, Prog.exec_ask_bind] at hdelete
  obtain ⟨deleted, tr', -, rfl, hrelease⟩ := hdelete
  have hnone : deletedPods tr' = [] := by
    split at hrelease
    · rw [Prog.exec_modify] at hrelease
      rw [hrelease.1]
      rfl
    · obtain ⟨rfl, -, -⟩ := hrelease
      rfl
  change (victim.1.uid, victim.1.ns, victim.1.name) :: deletedPods tr' = _
  rw [hnone]

/-- The kills are the deletions, in order. -/
lemma forM_preemptPod_exec {toKill : List (PodRuntimeView × PodEvent)} {a : Unit}
    (h : (toKill.forM (preemptPod config now)).Exec ans s tr a s') :
    deletedPods tr = toKill.map fun v => (v.1.uid, v.1.ns, v.1.name) := by
  induction toKill generalizing s tr with
  | nil =>
    obtain ⟨rfl, -, -⟩ := h
    rfl
  | cons v toKill ih =>
    change ((preemptPod config now v) >>= fun _ => toKill.forM (preemptPod config now)).Exec
      ans s tr a s' at h
    rw [Prog.exec_bind] at h
    obtain ⟨tr₁, tr₂, _, c, rfl, hkill, hrest⟩ := h
    rw [deletedPods_append, preemptPod_exec config now hkill, ih hrest]
    rfl

end Kill

section Sweep

variable {config : Config} {now : Instant} {s s' : ControllerState} {tr : List (Sigma Answer)}

lemma sweepAnswer_canAnswer (q : Request) (a : Answer q) (h : sweepAnswer q a) : canAnswer q a := h.1

/-- The deletions of a sweep, once it has the lock. -/
lemma sweepUnderLock_exec {boundaries : List Instant} {headroomDue : Bool} {snapshot : List Pod}
    {nodes : NodeSnapshot} {doomed : List Uid} (hsnapshot : (snapshot.map (·.uid)).Nodup)
    (h : (sweepUnderLock config now boundaries headroomDue snapshot nodes).Exec sweepAnswer s tr
      doomed s') :
    ∃ tr₁ tr₂ tr₃ merged views s₁ s₂, tr = tr₁ ++ tr₂ ++ tr₃ ∧
      (mergeOndemandIntoBookings config (snapshot.map (podView (some nodes.inventory))) now).Exec
        sweepAnswer s tr₁ merged s₁ ∧
      (adoptPods config merged now .overstay).Exec sweepAnswer s₁ tr₂ views s₂ ∧
      ∃ toKill, ChosenSoundly config now (gpuCapacityByClass nodes.inventory) views s₂ boundaries
          headroomDue toKill ∧
        deletedPods tr = toKill.map fun v => (v.1.uid, v.1.ns, v.1.name) := by
  rw [sweepUnderLock] at h
  dsimp only at h
  rw [Prog.exec_bind] at h
  obtain ⟨tr₁, _, merged, s₁, rfl, hmerge, h⟩ := h
  rw [Prog.exec_bind] at h
  obtain ⟨tr₂, _, views, s₂, rfl, hadopt, h⟩ := h
  rw [Prog.exec_bind] at h
  obtain ⟨tr₃, trLast, toKill₁, s₃, rfl, hboundaries, h⟩ := h
  have hviews : (views.map (·.uid)).Nodup := by
    rw [adoptPods_exec config now hadopt, mergeOndemandIntoBookings_exec config now hmerge,
      List.map_map]
    exact hsnapshot
  have hstart : ChosenSoundly config now (gpuCapacityByClass nodes.inventory) views s₂ boundaries
      headroomDue [] := ⟨List.nodup_nil, by simp⟩
  -- the boundaries still to come are some of those of the sweep
  obtain ⟨hmarks, hcalls, hchosen, -⟩ := Prog.exec_foldlM
    (fun (l : List Instant) toKill c tr => OnlyMarks s₂ c ∧
      (∀ e ∈ tr, Request.choosesVictims e.1) ∧ ChosenSoundly config now
        (gpuCapacityByClass nodes.inventory) views s₂ boundaries headroomDue toKill ∧
      l ⊆ boundaries)
    (fun b l toKill c tr tr' toKill' c' hinv hbody => by
      obtain ⟨hmarks, hcalls, hchosen, hsub⟩ := hinv
      obtain ⟨hmarks', hcalls', hchosen'⟩ := planBoundary_exec sweepAnswer_canAnswer hviews
        (hsub List.mem_cons_self) hmarks hchosen hbody
      refine ⟨hmarks', fun e he => ?_, hchosen', fun b' hb' => hsub (List.mem_cons_of_mem b hb')⟩
      exact (List.mem_append.mp he).elim (hcalls e) (hcalls' e))
    ⟨⟨_, _, rfl⟩, by simp, hstart, fun _ h => h⟩ hboundaries
  obtain ⟨tr₄, tr₅, toKill, s₄, rfl, hcalls', hchosen', hkill⟩ : ∃ tr₄ tr₅ toKill s₄,
      trLast = tr₄ ++ tr₅ ∧ (∀ e ∈ tr₄, Request.choosesVictims e.1) ∧
      ChosenSoundly config now (gpuCapacityByClass nodes.inventory) views s₂ boundaries headroomDue
        toKill ∧
      (do
        toKill.forM (preemptPod config now)
        return toKill.map (·.1.uid) : Ctl (List Uid)).Exec sweepAnswer s₄ tr₅ doomed s' := by
    split at h
    · rename_i hdue
      rw [Prog.exec_bind] at h
      obtain ⟨tr₄, tr₅, toKill, s₄, rfl, hheadroom, hkill⟩ := h
      obtain ⟨-, hcalls', hchosen'⟩ :=
        planHeadroom_exec sweepAnswer_canAnswer hviews hdue hmarks hchosen hheadroom
      exact ⟨tr₄, tr₅, toKill, s₄, rfl, hcalls', hchosen', hkill⟩
    · exact ⟨[], trLast, toKill₁, s₃, rfl, by simp, hchosen, h⟩
  rw [Prog.exec_bind] at hkill
  obtain ⟨tr₆, _, _, s₅, rfl, hkill, rfl, -, -⟩ := hkill
  refine ⟨tr₁, tr₂, tr₃ ++ (tr₄ ++ (tr₆ ++ [])), merged, views, s₁, s₂, by simp, hmerge, hadopt,
    toKill, hchosen', ?_⟩
  have hplanning : deletedPods (tr₃ ++ tr₄) = [] := by
    refine deletedPods_eq_nil fun e he => choosesVictims_sparesPods ?_
    exact (List.mem_append.mp he).elim (hcalls e) (hcalls' e)
  rw [deletedPods_append] at hplanning
  obtain ⟨hthird, hfourth⟩ := List.append_eq_nil_iff.mp hplanning
  rw [deletedPods_append, deletedPods_append, deletedPods_append, deletedPods_append,
    (mergeOndemandIntoBookings_merges config now _).sparesPods.exec hmerge,
    (adoptPods_relinks now config merged .overstay).merges.sparesPods.exec hadopt, hthird, hfourth,
    deletedPods_append, forM_preemptPod_exec config now hkill]
  simp [deletedPods]

variable (config s tr) in
/-- The sweep which began at `s` read the clock, the pods and the nodes, took the lock, and merged
and adopted pods; what it deleted after that may be killed in the views it then had. -/
def SweptSoundly : Prop :=
  ∃ (now : Instant) (listed : List Pod) (nodes : NodeSnapshot) (tr₁ tr₂ tr₃ : List (Sigma Answer))
    (merged views : List PodRuntimeView) (s₁ s₂ : ControllerState),
    tr = [⟨.now, now⟩, ⟨.listPods, some listed⟩, ⟨.snapshotNodes, some nodes⟩,
      ⟨.acquireReservationLock, ()⟩] ++ (tr₁ ++ tr₂ ++ tr₃) ∧
    (mergeOndemandIntoBookings config ((listed.filter fun p =>
      podHasAnyReservationToleration p tolerationKey).map (podView (some nodes.inventory)))
      now).Exec sweepAnswer (s.prunePreemptionMarks now (minutes config.preemptionLeadMinutes)) tr₁
        merged s₁ ∧
    (adoptPods config merged now .overstay).Exec sweepAnswer s₁ tr₂ views s₂ ∧
    ∀ d ∈ deletedPods tr, ∃ v doomed, d = (v.uid, v.ns, v.name) ∧
      doomed.map (fun k => (k.1.uid, k.1.ns, k.1.name)) <+: deletedPods tr ∧
      SoundVictim config now (gpuCapacityByClass nodes.inventory) views s₂
        (s.upcomingBoundaries now (minutes config.preemptionLeadMinutes)) (s.headroomDue config now)
        doomed v

/-- Every pod one sweep deletes is, in the views after the sweep's own merges and adoptions, one
which may be killed; and no uid is deleted twice. -/
theorem runPreemptionSweep_sound (config : Config) (s s' : ControllerState)
    (tr : List (Sigma Answer)) (h : (runPreemptionSweep config).Exec sweepAnswer s tr () s') :
    ((deletedPods tr).map Prod.fst).Nodup ∧ (deletedPods tr = [] ∨ SweptSoundly config s tr) := by
  rw [runPreemptionSweep, Prog.exec_ask_bind] at h
  obtain ⟨now, tr', -, rfl, h⟩ := h
  rw [Prog.exec_modify_bind, Prog.exec_get_bind] at h
  split at h
  · obtain ⟨rfl, -, -⟩ := h
    exact ⟨List.nodup_nil, .inl rfl⟩
  rw [sweepClusters, snapshotToleratedPods, Prog.exec_bind] at h
  obtain ⟨_, tr', snapshot, _, rfl, ⟨listed, _, hlisted, rfl, rfl, rfl, rfl⟩, h⟩ := h
  cases listed with
  | none =>
    obtain ⟨rfl, -, -⟩ := h
    exact ⟨List.nodup_nil, .inl rfl⟩
  | some listed =>
    obtain ⟨nodes, tr', -, rfl, h⟩ := h
    cases nodes with
    | none =>
      obtain ⟨rfl, -, -⟩ := h
      exact ⟨List.nodup_nil, .inl rfl⟩
    | some nodes =>
      change (withReservationLock _ >>= fun doomed => _).Exec _ _ _ _ _ at h
      rw [Prog.exec_bind] at h
      obtain ⟨_, trLast, doomed, s₃, rfl, hlock, hwarn⟩ := h
      rw [withReservationLock, Prog.exec_ask_bind] at hlock
      obtain ⟨_, tr', -, rfl, hlock⟩ := hlock
      rw [Prog.exec_bind] at hlock
      obtain ⟨_, trRelease, _, s₄, rfl, hsweep, hrelease⟩ := hlock
      have hsnapshot : ((listed.filter fun p =>
          podHasAnyReservationToleration p tolerationKey).map (·.uid)).Nodup :=
        hlisted.2.sublist (List.filter_sublist.map _)
      obtain ⟨tr₁, tr₂, tr₃, merged, views, s₁, s₂, rfl, hmerge, hadopt, toKill, hchosen, hdeleted⟩ :=
        sweepUnderLock_exec hsnapshot hsweep
      have hreleased : deletedPods trRelease = [] := by
        refine SparesPods.exec (p := call .releaseReservationLock >>= fun _ => pure _) ?_ hrelease
        exact .seq (.ask trivial) fun _ => .pure trivial
      have hwarned : deletedPods trLast = [] := by
        refine SparesPods.exec ?_ hwarn
        split
        · exact .seq (.ask trivial) fun _ => .modify fun _ => trivial
        · exact .pure trivial
      have htrace : ⟨.now, now⟩ :: ([⟨.listPods, some listed⟩] ++ ⟨.snapshotNodes, some nodes⟩ ::
          (⟨.acquireReservationLock, ()⟩ :: (tr₁ ++ tr₂ ++ tr₃ ++ trRelease) ++ trLast)) =
          ([⟨.now, now⟩, ⟨.listPods, some listed⟩, ⟨.snapshotNodes, some nodes⟩,
            ⟨.acquireReservationLock, ()⟩] : List (Sigma Answer)) ++
              (tr₁ ++ tr₂ ++ (tr₃ ++ trRelease ++ trLast)) := by
        simp
      have hall : deletedPods (([⟨.now, now⟩, ⟨.listPods, some listed⟩, ⟨.snapshotNodes, some nodes⟩,
          ⟨.acquireReservationLock, ()⟩] : List (Sigma Answer)) ++
            (tr₁ ++ tr₂ ++ (tr₃ ++ trRelease ++ trLast))) =
              toKill.map fun v => (v.1.uid, v.1.ns, v.1.name) := by
        simp only [deletedPods_append, hreleased, hwarned, List.append_nil] at hdeleted ⊢
        exact hdeleted
      have hfront : ∀ doomed, doomed <+: toKill →
          doomed.map (fun k => (k.1.uid, k.1.ns, k.1.name)) <+:
            toKill.map fun k => (k.1.uid, k.1.ns, k.1.name) :=
        fun doomed hdoomed => hdoomed.map _
      change ((deletedPods (⟨.now, now⟩ :: ([⟨.listPods, some listed⟩] ++ _))).map _).Nodup ∧ _
      rw [htrace, hall]
      refine ⟨by simpa [Function.comp_def] using hchosen.once, .inr ⟨now, listed, nodes, tr₁, tr₂,
        tr₃ ++ trRelease ++ trLast, merged, views, s₁, s₂, rfl, hmerge, hadopt, fun d hd => ?_⟩⟩
      rw [hall] at hd ⊢
      obtain ⟨v, hv, rfl⟩ := List.mem_map.mp hd
      obtain ⟨doomed, hdoomed, hsound⟩ := hchosen.sound v hv
      exact ⟨v.1, doomed, rfl, hfront doomed hdoomed, hsound⟩

end Sweep

/-- The answers of a world in which the lock is free. -/
def worldAnswer (w : World) (hw : w.lockOwner = none) (ch : Choice) (q : Request) : Answer q :=
  ((answer 0 q ch w).get (answer_isSome (fun _ => hw) 0 ch)).1

lemma worldAnswer_canAnswer (w : World) (hw : w.lockOwner = none) (ch : Choice) (q : Request) :
    canAnswer q (worldAnswer w hw ch q) :=
  ⟨0, ch, w, _, (Option.some_get (answer_isSome (fun _ => hw) 0 ch)).symm⟩

lemma empty_unlocked : ({} : World).lockOwner = none := rfl

lemma worldAnswer_sweep {w : World} (hw : w.lockOwner = none) (ch : Choice)
    (huids : (w.pods.values.map (·.uid)).Nodup) (q : Request) :
    sweepAnswer q (worldAnswer w hw ch q) := by
  refine ⟨worldAnswer_canAnswer w hw ch q, ?_⟩
  cases q with
  | listPods =>
    have hlisted : worldAnswer w hw ch .listPods =
      if ch.outcome.replied then some w.pods.values else none := rfl
    cases hpods : worldAnswer w hw ch .listPods with
    | none => trivial
    | some pods =>
      rw [hpods] at hlisted
      split at hlisted
      · cases hlisted
        exact huids
      · cases hlisted
  | _ => trivial

/-- A pod whose window is over. -/
def overstayer : Pod where
  uid := "V"
  ns := "alice"
  name := "v"
  gpuClass := "c"
  gpuCount := 1
  phase := .running
  nodeName := some "node"
  tolerations := [{ key := some tolerationKey, value := some "c", effect := some "NoSchedule" }]
  bookingReference := some 9

/-- Its GPU is the only one. -/
def oneGpuWorld : World where
  clock := 1
  pods := Dict.ofList [(("alice", "v"), overstayer)]

def oneGpuNodes : Choice := { nodes := { inventory := Dict.ofList [("c", Dict.ofList [("node", 1)])] } }

/-- A booking of the GPU is about to begin. -/
def bookedSoon : ControllerState where
  reservations := [{ id := 1, userId := some 1, user := some { id := 1, username := "bob" }
                     gpuClassId := 1, gpuClass := { id := 1, name := "c", labelValue := some "c" }
                     startUtc := minutes 5, endUtc := minutes 65, gpuCount := 1 }]

def sweptCalls : List (Sigma Answer) :=
  ((runPreemptionSweep { preemptionDelegateSelection := false }).runWith
    (worldAnswer oneGpuWorld rfl oneGpuNodes) bookedSoon).1

theorem runPreemptionSweep_sound_bookedSoon :
    ((deletedPods sweptCalls).map Prod.fst).Nodup ∧ (deletedPods sweptCalls = [] ∨
      SweptSoundly { preemptionDelegateSelection := false } bookedSoon sweptCalls) :=
  runPreemptionSweep_sound { preemptionDelegateSelection := false } bookedSoon _ sweptCalls
    (Prog.exec_runWith (worldAnswer_sweep rfl oneGpuNodes (by decide +kernel)) _ bookedSoon)

/-- The overstaying pod is deleted. -/
example : deletedPods sweptCalls = [("V", "alice", "v")] := by decide +kernel

end GpuReservation.Proofs
