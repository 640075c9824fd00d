import GpuReservation.Library.Fallible
import GpuReservation.Proofs.ReplannedWarnings
import GpuReservation.Proofs.StampReconcilers

/-!
# When the reconcilers come to rest

A second pass of the reconcilers plans from what the first one wrote.  It finds nothing to patch, unless a
warning was overtaken, or the first one met an instant which could not be read or written.
-/

namespace GpuReservation.Proofs

open GpuReservation.Library GpuReservation.Model

section Texts

variable {display : Int → Option String} {t t' : Instant}

lemma terminationWarningMessage_congr (hat : t' / seconds 1 = t / seconds 1) (risk : String)
    (boundary : Option Instant) :
    terminationWarningMessage display t' risk boundary =
      terminationWarningMessage display t risk boundary := by
  have hdisplay : localDisplay display t' = localDisplay display t := congrArg display hat
  unfold terminationWarningMessage
  rw [hdisplay]

/-- The message is written exactly if the local time of each instant in it is there to be shown. -/
lemma terminationWarningMessage_isSome_iff {risk : String} {boundary : Option Instant} :
    (terminationWarningMessage display t risk boundary).isSome ↔
      (localDisplay display t).isSome ∧ ∀ b, boundary = some b → (localDisplay display b).isSome := by
  unfold terminationWarningMessage
  cases boundary with
  | none => cases localDisplay display t <;> simp [warningCause]
  | some b => cases hb : localDisplay display b <;> cases localDisplay display t <;> simp [warningCause, hb]

/-- The message says what the pod is at risk for. -/
lemma terminationWarningMessage_ne (hat : t' / seconds 1 = t / seconds 1) {risk message : String}
    (risk' : String) {b : Instant}
    (h : terminationWarningMessage display t risk (some b) = some message) :
    ∃ message', terminationWarningMessage display t' risk' none = some message' ∧
      message' ≠ message := by
  have hdisplay : localDisplay display t' = localDisplay display t := congrArg display hat
  -- The texts differ behind the deadline; what comes before is the same and need not be read.
  have hparts : ∃ before after : String, ∀ t risk boundary,
      terminationWarningMessage display t risk boundary =
        (warningCause display boundary).bind fun why =>
          (localDisplay display t).bind fun deadline =>
            some (before ++ deadline ++ " " ++ why ++ " (risk " ++ risk ++ after) :=
    ⟨_, _, fun _ _ _ => rfl⟩
  obtain ⟨before, after, htext⟩ := hparts
  rw [htext] at h ⊢
  obtain ⟨why, hwhy, h⟩ := Option.bind_eq_some_iff.mp h
  obtain ⟨start, -, rfl⟩ := Option.map_eq_some_iff.mp hwhy
  obtain ⟨deadline, hdeadline, h⟩ := Option.bind_eq_some_iff.mp h
  rw [hdisplay, hdeadline]
  refine ⟨_, rfl, fun heq => ?_⟩
  have hlist := congrArg String.toList (heq.trans (Option.some.inj h).symm)
  simp [String.toList_append] at hlist

/-- What there is to tell of a deadline is in the calendar, and in that of the local time. -/
structure Displayed (display : Int → Option String) (t : Instant) (boundary : Option Instant) : Prop where
  deadline : IsDatetime t
  localDeadline : (localDisplay display t).isSome
  localBoundary : ∀ b, boundary = some b → (localDisplay display b).isSome

variable {risk : ℚ → String} {w w' : TerminationWarning}

lemma messageOf_isSome_iff : (∃ message, (warningTexts risk display).messageOf w = some message) ↔
    Displayed display w.terminateAt w.boundary := by
  rw [← Option.isSome_iff_exists, WarningTexts.messageOf]
  by_cases hdated : IsDatetime w.terminateAt
  · rw [if_pos hdated]
    refine terminationWarningMessage_isSome_iff.trans ?_
    exact ⟨fun h => ⟨hdated, h.1, h.2⟩, fun h => ⟨h.localDeadline, h.localBoundary⟩⟩
  · rw [if_neg hdated]
    exact ⟨fun h => absurd h Bool.false_ne_true, fun h => absurd h.deadline hdated⟩

/-- The second is what tells whether an instant is in the calendar. -/
lemma isDatetime_congr (hat : t' / seconds 1 = t / seconds 1) : IsDatetime t' ↔ IsDatetime t := by
  unfold IsDatetime
  rw [hat]

variable (display risk) in
/-- Two warnings which show the same are written the same. -/
lemma texts_of_shown (h : shown w' = shown w) : utcText w'.terminateAt = utcText w.terminateAt ∧
    (warningTexts risk display).risk w'.risk = (warningTexts risk display).risk w.risk ∧
      (warningTexts risk display).messageOf w' = (warningTexts risk display).messageOf w := by
  have hat : w'.terminateAt / seconds 1 = w.terminateAt / seconds 1 := congrArg Prod.fst h
  have hrisk : w'.risk = w.risk := congrArg (·.2.1) h
  have hboundary : w'.boundary = w.boundary := congrArg (·.2.2) h
  refine ⟨congrArg TimeText.utc hat, by rw [hrisk], ?_⟩
  unfold WarningTexts.messageOf
  rw [hrisk, hboundary]
  exact if_congr (isDatetime_congr hat) (terminationWarningMessage_congr hat _ _) rfl

/-- At the same second a warning for headroom is not written as one for a boundary. -/
lemma messageOf_ne (hboundary : w.boundary ≠ none) (hnone : w'.boundary = none)
    (hat : w'.terminateAt / seconds 1 = w.terminateAt / seconds 1) {message : String}
    (h : (warningTexts risk display).messageOf w = some message) :
    ∃ message', (warningTexts risk display).messageOf w' = some message' ∧ message' ≠ message := by
  obtain ⟨b, hb⟩ := Option.ne_none_iff_exists'.mp hboundary
  unfold WarningTexts.messageOf at h ⊢
  rw [hb] at h
  rw [hnone, if_congr (isDatetime_congr hat) rfl rfl]
  split at h
  · rename_i hdated
    rw [if_pos hdated]
    exact terminationWarningMessage_ne hat _ h
  · cases h

end Texts

/-- The reservation which is held under the id; of several rows of one id, the last. -/
def rowOf (s : ControllerState) (id : Nat) : Option ReservationResponse :=
  (Dict.ofList (s.reservations.map fun r => (r.id, r))).get? id

section Replanned

variable {s : ControllerState} {pods : List PodRuntimeView} {p : PodRuntimeView} {now : Instant}

/-- The status of a pod is planned from the pod alone. -/
lemma get?_planGuaranteeStatus (hpods : (pods.map (·.uid)).Nodup) (hp : p ∈ pods) :
    (s.planGuaranteeStatus pods now).get? p.uid = (s.planGuaranteeStatus [p] now).get? p.uid := by
  have hone : ([p].map (·.uid)).Nodup := List.nodup_singleton _
  unfold ControllerState.planGuaranteeStatus
  rw [Dict.get?_ofList_filter_map hpods hp, Dict.get?_ofList_filter_map hone (List.mem_singleton_self p)]

/-- The end which is written of a guarantee is that of the pod's, while it lasts. -/
lemma guaranteedUntil_planned_iff (hpods : (pods.map (·.uid)).Nodup) (hp : p ∈ pods) (t : Instant) :
    (∃ g, (s.planGuaranteeStatus pods now).get? p.uid = some g ∧ g.guaranteedUntil = some t) ↔
      s.guaranteeEnd p.reservationId now = some t ∧ now < t := by
  unfold ControllerState.planGuaranteeStatus
  rw [Dict.get?_ofList_filter_map hpods hp]
  cases hid : p.reservationId with
  | none => simp [ControllerState.guaranteeEnd]
  | some id =>
    rw [Option.isSome_some, if_pos rfl]
    cases s.guaranteeEnd (some id) now with
    | none => simp
    | some e =>
      by_cases he : now < e
      · simp only [he, if_true, Option.some.injEq, exists_eq_left']
        exact ⟨fun h => ⟨h, h ▸ he⟩, And.left⟩
      · simp only [he, if_false, Option.some.injEq, exists_eq_left']
        exact ⟨fun h => absurd h.symm (Option.some_ne_none t), fun h => absurd h.2 (h.1 ▸ he)⟩

lemma planGuaranteeStatus_singleton {p' : PodRuntimeView} (huid : p.uid = p'.uid)
    (hid : p.reservationId = p'.reservationId) :
    s.planGuaranteeStatus [p] now = s.planGuaranteeStatus [p'] now := by
  unfold ControllerState.planGuaranteeStatus
  rw [List.filter_singleton, List.filter_singleton, hid]
  cases p'.reservationId.isSome with
  | false => rfl
  | true => rw [cond_true, cond_true, List.map_singleton, List.map_singleton, huid, hid]

/-- The facts of a reservation are planned from any of its pods. -/
lemma get?_planReservationFacts {id : Nat} (hp : p ∈ pods) (hid : p.reservationId = some id) :
    (s.planReservationFacts pods).get? id = rowOf s id := by
  have hmem : ∀ r, (id, r) ∈ ((pods.filterMap (·.reservationId)).filterMap fun id =>
      (rowOf s id).map (id, ·)) ↔ rowOf s id = some r := by
    intro r
    simp only [List.mem_filterMap, Option.map_eq_some_iff, Prod.mk.injEq]
    constructor
    · rintro ⟨id', -, r', hr', rfl, rfl⟩
      exact hr'
    · exact fun hr => ⟨id, ⟨p, hp, hid⟩, r, hr, rfl, rfl⟩
  change (Dict.ofList ((pods.filterMap (·.reservationId)).filterMap fun id =>
    (rowOf s id).map (id, ·))).get? id = _
  cases hget : rowOf s id with
  | none =>
    refine Option.eq_none_iff_forall_ne_some.mpr fun r hr => ?_
    have hfound := (hmem r).mp (Dict.mem_of_get?_ofList hr)
    rw [hget] at hfound
    cases hfound
  | some r =>
    refine Dict.get?_ofList_of_unique ((hmem r).mpr hget) fun r' hr' => ?_
    exact Option.some.inj (((hmem r').mp hr').symm.trans hget)

end Replanned

section Settling

variable (config : Config) (s : ControllerState) (boundaries : List Instant)
  (inventory : Dict String (Dict String Nat)) (now : Instant) (doomed : List Uid)

/-- The pods which outlive the pass. -/
def survivors (snapshot : List StampedPod) : List StampedPod := snapshot.filter (·.pod.uid ∉ doomed)

def warnedViews (snapshot : List StampedPod) : List PodRuntimeView :=
  snapshot.map fun p => podView (some inventory) p.read

/-- The pass gets its plans and is carried out, and leaves every pod as planned; the next one has nothing to
patch. -/
def Settles (texts : WarningTexts) (snapshot : List StampedPod) : Prop :=
  ∃ plans after, planStamps config s boundaries inventory now doomed snapshot = .ok plans ∧
    plans.pass texts doomed snapshot = .ok after ∧ (∀ q ∈ after, AsPlanned plans texts q) ∧
    ∃ again, planStamps config s boundaries inventory now [] after = .ok again ∧
      again.pass texts [] after = .ok after ∧ ∀ q ∈ after, again.patches texts q = []

/-- The deadline which the pod carries, if any, is in the calendar. -/
def Readable (p : StampedPod) : Prop :=
  readStamp p.stamps.terminationWarningAt ≠ .error .dateOutOfRange

instance (p : StampedPod) : Decidable (Readable p) := inferInstanceAs (Decidable (_ ≠ _))

/-- The window of the pod's reservation, if it is held, is in the calendar. -/
def WindowDated (p : StampedPod) : Prop :=
  ∀ r, p.pod.bookingReference.bind (rowOf s) = some r → IsDatetime (slotStart r) ∧ IsDatetime (slotEnd r)

/-- The pod can be told how long it is guaranteed, and what endangers it. -/
structure Tellable (display : Int → Option String) (views : List PodRuntimeView) (p : StampedPod) :
    Prop where
  guarantee : ∀ e, s.guaranteeEnd p.pod.bookingReference now = some e → now < e → IsDatetime e
  danger : config.terminationWarningEnabled = true → ∀ t boundary,
    EndangeredAt config s boundaries (gpuCapacityByClass inventory) views now (podView (some inventory) p.read)
      t boundary → Displayed display t boundary

/-- The plans of a pass whose pods can all be read. -/
def readPlans (snapshot : List StampedPod) : StampPlans where
  statusPlan := s.planGuaranteeStatus (snapshot.map fun p => podView none p.read) now
  factsPlan := s.planReservationFacts (snapshot.map fun p => podView none p.read)
  warnPlan := s.planWarnings config boundaries (gpuCapacityByClass inventory)
    (warnedViews inventory (survivors doomed snapshot)) now

variable {config s boundaries inventory now doomed} {texts : WarningTexts} {snapshot : List StampedPod}
  {p : StampedPod}

lemma view_eq {nodes : Option (Dict String (Dict String Nat))} (h : Readable p) :
    p.view nodes = .ok (podView nodes p.read) := by
  unfold Readable at h
  cases hread : readStamp p.stamps.terminationWarningAt with
  | error e =>
    cases e
    exact absurd hread h
  | ok warnedAt =>
    simp only [StampedPod.view, StampedPod.read, podView, hread, ok_bind, pure_eq_ok,
      Except.toOption, Option.join_some]
    rfl

/-- A pass gets its plans exactly if it can read every pod. -/
lemma planStamps_eq (h : ∀ p ∈ snapshot, Readable p) :
    planStamps config s boundaries inventory now doomed snapshot =
      .ok (readPlans config s boundaries inventory now doomed snapshot) := by
  unfold planStamps
  rw [mapM_eq_ok_map fun p hp => view_eq (h p hp), mapM_eq_ok_map fun p hp => view_eq (h p hp)]
  simp only [ok_bind, pure_eq_ok, readPlans, warnedViews, survivors, List.filter_map]
  rfl

lemma readable_of_planStamps {plans : StampPlans}
    (h : planStamps config s boundaries inventory now doomed snapshot = .ok plans) :
    ∀ p ∈ snapshot, Readable p := by
  intro p hp hraises
  obtain ⟨views, hviews, -⟩ := bind_eq_ok_iff.mp h
  obtain ⟨view, hview⟩ := exists_ok_of_mapM hviews hp
  rw [StampedPod.view, hraises] at hview
  cases hview

@[simp] lemma survivors_nil : survivors [] snapshot = snapshot := by
  unfold survivors
  simp

lemma replanStamps_warnPlan : (readPlans config s boundaries inventory now [] snapshot).warnPlan =
    s.planWarnings config boundaries (gpuCapacityByClass inventory) (warnedViews inventory snapshot)
      now := by
  rw [readPlans, survivors_nil]

/-- The next pass sees the deadlines which this one wrote. -/
lemma podView_stamp (plans : StampPlans) (hwhole : WarnedWhole p.stamps)
    (hwritable : Writable plans texts p) :
    podView (some inventory) (plans.stamp texts p).read =
      retime (writtenBy plans.warnPlan) (podView (some inventory) p.read) := by
  have hat : (readStamp (plans.stamp texts p).stamps.terminationWarningAt).toOption.join =
      (plans.warnPlan.get? p.pod.uid).map fun w => utcIso w.terminateAt := by
    obtain ⟨-, -, hwarned, hcleared⟩ := asPlanned_stamp plans texts p hwhole hwritable
    cases hplan : plans.warnPlan.get? p.pod.uid with
    | none =>
      rw [(hcleared hplan).1]
      rfl
    | some w =>
      obtain ⟨message, -, hcarried⟩ := hwarned w hplan
      rw [hcarried.deadline, Option.map_some, utcIso_eq]
      rfl
  unfold retime writtenBy
  change _ = { podView (some inventory) p.read with
    terminationWarningAt :=
      (plans.warnPlan.get? p.pod.uid).map fun w : TerminationWarning => utcIso w.terminateAt }
  rw [← hat]
  rfl

lemma warnedViews_nodup (hpods : (snapshot.map (·.pod.uid)).Nodup) :
    ((warnedViews inventory (survivors doomed snapshot)).map (·.uid)).Nodup := by
  unfold warnedViews survivors
  rw [List.map_map]
  exact hpods.sublist (List.filter_sublist.map _)

variable (texts) in
lemma warnedViews_stamped (plans : StampPlans) (hwhole : ∀ p ∈ snapshot, WarnedWhole p.stamps)
    (hwritable : ∀ p ∈ survivors doomed snapshot, Writable plans texts p) :
    warnedViews inventory (stampedSnapshot plans texts doomed snapshot) =
      (warnedViews inventory (survivors doomed snapshot)).map (retime (writtenBy plans.warnPlan)) := by
  unfold warnedViews stampedSnapshot
  rw [List.map_map, List.map_map]
  exact List.map_congr_left fun p hp =>
    podView_stamp plans (hwhole p (List.mem_filter.mp hp).1) (hwritable p hp)

/-- What a pass has written can be read. -/
lemma readable_stamped (plans : StampPlans) (hwhole : ∀ p ∈ snapshot, WarnedWhole p.stamps)
    (hwritable : ∀ p ∈ survivors doomed snapshot, Writable plans texts p) :
    ∀ q ∈ stampedSnapshot plans texts doomed snapshot, Readable q := by
  intro q hq
  obtain ⟨p, hp, rfl⟩ := List.mem_map.mp hq
  obtain ⟨-, -, hwarned, hcleared⟩ := asPlanned_stamp plans texts p
    (hwhole p (List.mem_filter.mp hp).1) (hwritable p hp)
  unfold Readable
  cases hplan : plans.warnPlan.get? p.pod.uid with
  | none =>
    rw [(hcleared hplan).1]
    simp [readStamp]
  | some w =>
    obtain ⟨message, -, hcarried⟩ := hwarned w hplan
    rw [hcarried.deadline]
    simp [readStamp, utcText, parseUtcIso]

lemma uids_stamped (plans : StampPlans) (hpods : (snapshot.map (·.pod.uid)).Nodup) :
    ((stampedSnapshot plans texts doomed snapshot).map (·.pod.uid)).Nodup := by
  unfold stampedSnapshot
  rw [List.map_map]
  exact hpods.sublist (List.filter_sublist.map _)

lemma statusPlan_again (plans : StampPlans) (hpods : (snapshot.map (·.pod.uid)).Nodup)
    (hp : p ∈ survivors doomed snapshot) :
    (readPlans config s boundaries inventory now []
        (stampedSnapshot plans texts doomed snapshot)).statusPlan.get? p.pod.uid =
      (readPlans config s boundaries inventory now doomed snapshot).statusPlan.get? p.pod.uid := by
  have hnow : (s.planGuaranteeStatus (snapshot.map fun p => podView none p.read) now).get? p.pod.uid =
      (s.planGuaranteeStatus [podView none p.read] now).get? p.pod.uid := by
    refine get?_planGuaranteeStatus (p := podView none p.read) ?_ ?_
    · rw [List.map_map]
      exact hpods
    · exact List.mem_map_of_mem (List.mem_filter.mp hp).1
  have hagain : (s.planGuaranteeStatus ((stampedSnapshot plans texts doomed snapshot).map fun p =>
      podView none p.read) now).get? p.pod.uid =
        (s.planGuaranteeStatus [podView none (plans.stamp texts p).read] now).get? p.pod.uid := by
    refine get?_planGuaranteeStatus (p := podView none (plans.stamp texts p).read) ?_ ?_
    · rw [List.map_map]
      exact uids_stamped plans hpods
    · exact List.mem_map_of_mem (List.mem_map_of_mem hp)
  have hsame : s.planGuaranteeStatus [podView none (plans.stamp texts p).read] now =
      s.planGuaranteeStatus [podView none p.read] now := planGuaranteeStatus_singleton rfl rfl
  rw [hsame] at hagain
  exact hagain.trans hnow.symm

/-- The facts of a pod of the snapshot are planned from the row of its reservation. -/
lemma factsPlan_eq (hp : p ∈ snapshot) :
    p.pod.bookingReference.bind
        (readPlans config s boundaries inventory now doomed snapshot).factsPlan.get? =
      p.pod.bookingReference.bind (rowOf s) := by
  cases hid : p.pod.bookingReference with
  | none => rfl
  | some id =>
    have hview : podView none p.read ∈ snapshot.map fun p => podView none p.read :=
      List.mem_map_of_mem hp
    exact get?_planReservationFacts hview hid

/-- The pass gets past the facts exactly if every window which it writes is in the calendar. -/
lemma pass_eq_ok_iff {after : List StampedPod} :
    (readPlans config s boundaries inventory now doomed snapshot).pass texts doomed snapshot = .ok after ↔
      (∀ p ∈ snapshot, WindowDated s p) ∧
        after = stampedSnapshot (readPlans config s boundaries inventory now doomed snapshot) texts doomed
          snapshot := by
  have hcheck : ∀ p ∈ snapshot,
      checkFacts (readPlans config s boundaries inventory now doomed snapshot).factsPlan p = .ok () ↔
        WindowDated s p := by
    intro p hp
    rw [checkFacts, factsPlan_eq hp, WindowDated]
    cases p.pod.bookingReference.bind (rowOf s) with
    | none => simp
    | some res =>
      by_cases hdated : IsDatetime (slotStart res) ∧ IsDatetime (slotEnd res)
      · simp [hdated]
      · simp [hdated, throw, throwThe, MonadExceptOf.throw]
  unfold StampPlans.pass
  rw [bind_eq_ok_iff]
  constructor
  · rintro ⟨⟨⟩, hchecked, hafter⟩
    exact ⟨fun p hp => (hcheck p hp).mp (forM_eq_ok_iff.mp hchecked p hp), (Except.ok.inj hafter).symm⟩
  · rintro ⟨hdated, rfl⟩
    exact ⟨(), forM_eq_ok_iff.mpr fun p hp => (hcheck p hp).mpr (hdated p hp), rfl⟩

/-- What is planned for a pod can be written exactly if there is no instant in it which cannot. -/
lemma writable_iff_tellable {risk : ℚ → String} {display : Int → Option String}
    (hpods : (snapshot.map (·.pod.uid)).Nodup) (hp : p ∈ survivors doomed snapshot) :
    Writable (readPlans config s boundaries inventory now doomed snapshot) (warningTexts risk display) p ↔
      Tellable config s boundaries inventory now display
        (warnedViews inventory (survivors doomed snapshot)) p := by
  have hstatus : ∀ t, (∃ g,
      (readPlans config s boundaries inventory now doomed snapshot).statusPlan.get? p.pod.uid = some g ∧
        g.guaranteedUntil = some t) ↔ s.guaranteeEnd p.pod.bookingReference now = some t ∧ now < t := by
    refine guaranteedUntil_planned_iff (p := podView none p.read) ?_ ?_
    · rw [List.map_map]
      exact hpods
    · exact List.mem_map_of_mem (List.mem_filter.mp hp).1
  have hwarned : (∀ w, (readPlans config s boundaries inventory now doomed snapshot).warnPlan.get? p.pod.uid =
      some w → Displayed display w.terminateAt w.boundary) ↔
        (config.terminationWarningEnabled = true → ∀ t boundary,
          EndangeredAt config s boundaries (gpuCapacityByClass inventory)
            (warnedViews inventory (survivors doomed snapshot)) now (podView (some inventory) p.read) t
              boundary → Displayed display t boundary) := by
    by_cases hwarns : config.terminationWarningEnabled = true
    · have hview : podView (some inventory) p.read ∈ warnedViews inventory (survivors doomed snapshot) :=
        List.mem_map_of_mem hp
      have hendangered := planWarnings_iff_endangeredAt config s boundaries (gpuCapacityByClass inventory)
        now hwarns (warnedViews_nodup hpods) hview
      constructor
      · intro h _ t boundary hat
        obtain ⟨w, hw, rfl, rfl⟩ := (hendangered t boundary).mpr hat
        exact h w hw
      · exact fun h w hw => h hwarns _ _ ((hendangered _ _).mp ⟨w, hw, rfl, rfl⟩)
    · have hnone : (readPlans config s boundaries inventory now doomed snapshot).warnPlan = ∅ := by
        unfold readPlans ControllerState.planWarnings
        exact if_neg hwarns
      rw [hnone]
      exact ⟨fun _ h => absurd h hwarns, fun _ w hw => by cases hw⟩
  constructor
  · intro h
    refine ⟨fun e he hlasts => ?_, hwarned.mp fun w hw => messageOf_isSome_iff.mp (h.warned w hw)⟩
    obtain ⟨g, hg, ht⟩ := (hstatus e).mpr ⟨he, hlasts⟩
    exact h.status g hg e ht
  · intro h
    refine ⟨fun g hg t ht => ?_, fun w hw => messageOf_isSome_iff.mpr (hwarned.mpr h.danger w hw)⟩
    obtain ⟨he, hlasts⟩ := (hstatus t).mp ⟨g, hg, ht⟩
    exact h.guarantee t he hlasts

section Again

variable {risk : ℚ → String} {display : Int → Option String} (plans : StampPlans)
  (hplans : plans = readPlans config s boundaries inventory now doomed snapshot)
  (hpods : (snapshot.map (·.pod.uid)).Nodup) (hwhole : ∀ p ∈ snapshot, WarnedWhole p.stamps)
  (hwritable : ∀ p ∈ survivors doomed snapshot, Writable plans (warningTexts risk display) p)
  (hp : p ∈ survivors doomed snapshot)

include hplans hpods hwhole hwritable hp

/-- What a pod is told by the next pass shows what it was told, unless it is overtaken. -/
lemma shown_replanned
    (hsafe : ¬ Overtaken config s boundaries (gpuCapacityByClass inventory)
      (warnedViews inventory (survivors doomed snapshot)) now (podView (some inventory) p.read)) :
    ((readPlans config s boundaries inventory now []
        (stampedSnapshot plans (warningTexts risk display) doomed snapshot)).warnPlan.get?
          p.pod.uid).map shown = (plans.warnPlan.get? p.pod.uid).map shown := by
  rw [replanStamps_warnPlan, warnedViews_stamped _ plans hwhole hwritable, hplans]
  dsimp only [readPlans]
  by_cases hwarns : config.terminationWarningEnabled = true
  · exact shown_planWarnings_again hwarns (warnedViews_nodup hpods) (List.mem_map_of_mem hp) rfl hsafe
  · unfold ControllerState.planWarnings
    rw [if_neg hwarns, if_neg hwarns]

/-- A pod which is overtaken is patched again. -/
lemma patches_of_overtaken
    (hover : Overtaken config s boundaries (gpuCapacityByClass inventory)
      (warnedViews inventory (survivors doomed snapshot)) now (podView (some inventory) p.read)) :
    (readPlans config s boundaries inventory now []
        (stampedSnapshot plans (warningTexts risk display) doomed snapshot)).patches
      (warningTexts risk display) (plans.stamp (warningTexts risk display) p) ≠ [] := by
  obtain ⟨w, w', hfirst, hsecond, hboundary, hnone, hat⟩ :=
    planWarnings_overtaken (warnedViews_nodup hpods) (List.mem_map_of_mem hp) rfl hover
  have hplanned : plans.warnPlan.get? p.pod.uid = some w := by
    rw [hplans]
    exact hfirst
  have hreplanned : (readPlans config s boundaries inventory now []
      (stampedSnapshot plans (warningTexts risk display) doomed snapshot)).warnPlan.get? p.pod.uid =
        some w' := by
    rw [replanStamps_warnPlan, warnedViews_stamped _ plans hwhole hwritable, hplans]
    exact hsecond
  have hstamped := hwhole p (List.mem_filter.mp hp).1
  obtain ⟨message, hmessage, hcarried⟩ :=
    (asPlanned_stamp plans (warningTexts risk display) p hstamped (hwritable p hp)).warned w hplanned
  obtain ⟨message', hmessage', hne⟩ := messageOf_ne hboundary hnone hat hmessage
  intro hquiet
  have hagain := (terminationWarningPatch_eq_none_iff
    (warnedWhole_stamp plans (warningTexts risk display) p hstamped (hwritable p hp))).mp
      (patches_eq_nil.mp hquiet).2.2
  have hcarried' := hagain.1 w' hreplanned message' hmessage'
  exact hne (Option.some.inj (hcarried'.message.symm.trans hcarried.message))

/-- A pod which is not overtaken carries what the next pass plans for it. -/
lemma asPlanned_replanned
    (hsafe : ¬ Overtaken config s boundaries (gpuCapacityByClass inventory)
      (warnedViews inventory (survivors doomed snapshot)) now (podView (some inventory) p.read)) :
    AsPlanned (readPlans config s boundaries inventory now []
        (stampedSnapshot plans (warningTexts risk display) doomed snapshot)) (warningTexts risk display)
      (plans.stamp (warningTexts risk display) p) := by
  obtain ⟨hstatus, hfacts, hwarned, hcleared⟩ := asPlanned_stamp plans (warningTexts risk display) p
    (hwhole p (List.mem_filter.mp hp).1) (hwritable p hp)
  have hshown := shown_replanned plans hplans hpods hwhole hwritable hp hsafe
  refine ⟨fun g hg => hstatus g ?_, fun res hres => hfacts res ?_, fun w' hw' => ?_,
    fun hnone => hcleared ?_⟩
  · rw [hplans] at hg ⊢
    exact (statusPlan_again _ hpods hp).symm.trans hg
  · have hrow := (factsPlan_eq (List.mem_map_of_mem hp)).symm.trans hres
    rw [hplans]
    exact (factsPlan_eq (List.mem_filter.mp hp).1).trans hrow
  · have hget := congrArg (Option.map shown) hw'
    change _ = some (shown w') at hget
    obtain ⟨w, hw, heq⟩ := Option.map_eq_some_iff.mp (hshown.symm.trans hget)
    obtain ⟨hat, hrisk, hmessage⟩ := texts_of_shown display risk heq.symm
    obtain ⟨message, hwritten, hcarried⟩ := hwarned w hw
    refine ⟨message, hmessage.trans hwritten, ?_, ?_, hcarried.message⟩
    · rw [hat]
      exact hcarried.deadline
    · rw [hrisk]
      exact hcarried.risk
  · have hget := congrArg (Option.map shown) hnone
    exact Option.map_eq_none_iff.mp (hshown.symm.trans hget)

end Again

/-- Where nothing is patched, the pods stay as they are. -/
lemma stampedSnapshot_quiet {plans : StampPlans} (h : ∀ p ∈ snapshot, plans.patches texts p = []) :
    stampedSnapshot plans texts [] snapshot = snapshot := by
  have hall : survivors [] snapshot = snapshot := survivors_nil
  unfold survivors at hall
  rw [stampedSnapshot, hall]
  refine (List.map_congr_left fun p hp => ?_).trans (List.map_id snapshot)
  rw [StampPlans.stamp, h p hp]
  rfl

/-- What the reconcilers come to rest over was written, and is not overtaken. -/
lemma Settles.tellable {risk : ℚ → String} {display : Int → Option String}
    (hpods : (snapshot.map (·.pod.uid)).Nodup) (hwhole : ∀ p ∈ snapshot, WarnedWhole p.stamps)
    (h : Settles config s boundaries inventory now doomed (warningTexts risk display) snapshot) :
    (∀ p ∈ snapshot, Readable p ∧ WindowDated s p) ∧ ∀ p ∈ survivors doomed snapshot,
      Tellable config s boundaries inventory now display
        (warnedViews inventory (survivors doomed snapshot)) p ∧
      ¬ Overtaken config s boundaries (gpuCapacityByClass inventory)
        (warnedViews inventory (survivors doomed snapshot)) now (podView (some inventory) p.read) := by
  obtain ⟨plans, after, hplans, hpass, hplanned, again, hagain, -, hquiet⟩ := h
  have hreadable := readable_of_planStamps hplans
  obtain rfl := Except.ok.inj (hplans.symm.trans (planStamps_eq hreadable))
  obtain ⟨hdated, rfl⟩ := pass_eq_ok_iff.mp hpass
  obtain rfl := Except.ok.inj (hagain.symm.trans (planStamps_eq (readable_of_planStamps hagain)))
  have hwritable : ∀ p ∈ survivors doomed snapshot, Writable (readPlans config s boundaries inventory now
      doomed snapshot) (warningTexts risk display) p := by
    intro p hp
    have hwritten := (hplanned _ (List.mem_map_of_mem hp)).writable
    exact ⟨hwritten.status, hwritten.warned⟩
  refine ⟨fun p hp => ⟨hreadable p hp, hdated p hp⟩, fun p hp =>
    ⟨(writable_iff_tellable hpods hp).mp (hwritable p hp), fun hover => ?_⟩⟩
  exact patches_of_overtaken _ rfl hpods hwhole hwritable hp hover (hquiet _ (List.mem_map_of_mem hp))

/-- The reconcilers are at rest after one pass exactly if the pass can read every pod and write its window,
can tell every pod it leaves how it stands, and leaves none overtaken. -/
theorem reconcilers_settle_iff (config : Config) (s : ControllerState) (boundaries : List Instant)
    (inventory : Dict String (Dict String Nat)) (now : Instant) (doomed : List Uid) (risk : ℚ → String)
    (display : Int → Option String) (snapshot : List StampedPod)
    (hpods : (snapshot.map (·.pod.uid)).Nodup) (hwhole : ∀ p ∈ snapshot, WarnedWhole p.stamps) :
    Settles config s boundaries inventory now doomed (warningTexts risk display) snapshot ↔
      (∀ p ∈ snapshot, Readable p ∧ WindowDated s p) ∧ ∀ p ∈ survivors doomed snapshot,
        Tellable config s boundaries inventory now display
          (warnedViews inventory (survivors doomed snapshot)) p ∧
        ¬ Overtaken config s boundaries (gpuCapacityByClass inventory)
          (warnedViews inventory (survivors doomed snapshot)) now (podView (some inventory) p.read) := by
  refine ⟨fun h => h.tellable hpods hwhole, fun ⟨hpass, hsafe⟩ => ?_⟩
  have hreadable : ∀ p ∈ snapshot, Readable p := fun p hp => (hpass p hp).1
  have hwritable : ∀ p ∈ survivors doomed snapshot, Writable (readPlans config s boundaries inventory now
      doomed snapshot) (warningTexts risk display) p := fun p hp =>
    (writable_iff_tellable hpods hp).mpr (hsafe p hp).1
  have hquiet : ∀ q ∈ stampedSnapshot (readPlans config s boundaries inventory now doomed snapshot)
      (warningTexts risk display) doomed snapshot, (readPlans config s boundaries inventory now []
        (stampedSnapshot (readPlans config s boundaries inventory now doomed snapshot)
          (warningTexts risk display) doomed snapshot)).patches (warningTexts risk display) q = [] := by
    intro q hq
    obtain ⟨p, hp, rfl⟩ := List.mem_map.mp hq
    have hagain := asPlanned_replanned _ rfl hpods hwhole hwritable hp (hsafe p hp).2
    exact (patches_eq_nil_iff (warnedWhole_stamp _ _ p (hwhole p (List.mem_filter.mp hp).1)
      (hwritable p hp)) hagain.writable).mpr hagain
  refine ⟨_, _, planStamps_eq hreadable, pass_eq_ok_iff.mpr ⟨fun p hp => (hpass p hp).2, rfl⟩,
    fun q hq => ?_, _, planStamps_eq (readable_stamped _ hwhole hwritable),
    pass_eq_ok_iff.mpr ⟨fun q hq => ?_, (stampedSnapshot_quiet hquiet).symm⟩, hquiet⟩
  · obtain ⟨p, hp, rfl⟩ := List.mem_map.mp hq
    exact asPlanned_stamp _ _ p (hwhole p (List.mem_filter.mp hp).1) (hwritable p hp)
  · obtain ⟨p, hp, rfl⟩ := List.mem_map.mp hq
    exact (hpass p (List.mem_filter.mp hp).1).2

end Settling

/-- A pod whose lease was over at `stop`, on the only GPU. -/
def endedLeasePod : StampedPod where
  pod :=
    { uid := "pod-a"
      ns := "alice"
      name := "train"
      gpuClass := "h100"
      gpuCount := 1
      phase := .running
      nodeName := some "n1"
      bookingReference := some 1 }
  stamps := {}

/-- The lease, and a booking of somebody else's from half an hour on. -/
def leaseThenBooking (stop : Instant) : ControllerState where
  reservations := [hourBooking 1 0 stop,
    { hourBooking 2 (minutes 30) (minutes 60) with user := some ⟨2, "bob"⟩ }]

def onlyGpu : Dict String (Dict String Nat) := Dict.ofList [("h100", Dict.ofList [("n1", 1)])]

/-- A local time which can always be shown. -/
def plainDisplay (second : Int) : Option String := some (toString second)

/-- The lease was over at a whole second: the next pass has nothing to do. -/
theorem reconcilers_settle_wholeSecond : Settles { headroomTargetPercent := 10 }
    (leaseThenBooking (minutes 20)) [minutes 30] onlyGpu (minutes 21) []
    (warningTexts toString plainDisplay) [endedLeasePod] := by
  have hend : (leaseThenBooking (minutes 20)).guaranteeEnd (some 1) (minutes 21) = some (minutes 20) := by
    decide +kernel
  refine (reconcilers_settle_iff { headroomTargetPercent := 10 } (leaseThenBooking (minutes 20))
    [minutes 30] onlyGpu (minutes 21) [] toString plainDisplay [endedLeasePod] (by decide)
    (by decide)).mpr ⟨fun p hp => ?_, fun p hp => ?_⟩
  · obtain rfl := List.mem_singleton.mp hp
    refine ⟨by decide, fun r hr => ?_⟩
    obtain rfl := Option.some.inj ((rfl : _ = some (hourBooking 1 0 (minutes 20))).symm.trans hr)
    exact ⟨by decide, by decide⟩
  · obtain rfl := List.mem_singleton.mp hp
    refine ⟨⟨fun e he hlasts => ?_, fun _ t boundary hat => ?_⟩, fun hover => ?_⟩
    · obtain rfl := Option.some.inj (hend.symm.trans he)
      exact absurd hlasts (by decide)
    · cases hat with
      | boundary hb =>
        obtain rfl := List.mem_singleton.mp hb.mem
        exact ⟨by decide +kernel, rfl, fun _ _ => rfl⟩
      | headroom => exact ⟨by decide, rfl, fun _ _ => rfl⟩
    · obtain ⟨-, -, b, hb, -, hfraction⟩ := hover
      obtain rfl := List.mem_singleton.mp hb.mem
      exact hfraction (by decide +kernel)

/-- An offset takes the deadline out of the calendar: nothing is planned for any pod. -/
example : planStamps {} {} [] ∅ 0 [] [{ endedLeasePod with stamps :=
    { terminationWarningAt := some (.foreign "0001-01-01T00:00:00+14:00" (.error .dateOutOfRange)) } }] =
    .error .dateOutOfRange := rfl

/-- The lease was over half a second later: the pod is told of the booking, and next of headroom. -/
theorem reconcilers_not_settle : ¬ ∀ (config : Config) (s : ControllerState)
    (boundaries : List Instant) (inventory : Dict String (Dict String Nat)) (now : Instant)
    (doomed : List Uid) (risk : ℚ → String) (display : Int → Option String) (snapshot : List StampedPod),
      (snapshot.map (·.pod.uid)).Nodup → (∀ p ∈ snapshot, WarnedWhole p.stamps) →
        Settles config s boundaries inventory now doomed (warningTexts risk display) snapshot := by
  intro h
  have hsettles := h { headroomTargetPercent := 10 } (leaseThenBooking (minutes 20 + 500000))
    [minutes 30] onlyGpu (minutes 21) [] toString plainDisplay [endedLeasePod] (by decide) (by decide)
  refine ((hsettles.tellable (by decide) (by decide)).2 endedLeasePod
    (List.mem_singleton_self endedLeasePod)).2 ⟨rfl, ⟨by decide, by decide +kernel, by decide +kernel⟩,
      minutes 30, ⟨List.mem_singleton_self _, ⟨?_, ?_, by decide +kernel⟩, fun b' hb' _ => ?_⟩,
      by decide +kernel, by decide +kernel⟩
  · exact ⟨rfl, rfl, rfl, rfl, rfl, by decide⟩
  · intro e he
    have hend : (leaseThenBooking (minutes 20 + 500000)).guaranteeEnd (some 1) (minutes 21) =
        some (minutes 20 + 500000) := by decide +kernel
    obtain rfl := Option.some.inj (hend.symm.trans he)
    decide
  · exact (List.mem_singleton.mp hb').ge

end GpuReservation.Proofs
