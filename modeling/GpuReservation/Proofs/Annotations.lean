import GpuReservation.Model.Annotations
import GpuReservation.Proofs.Manifests
import GpuReservation.Proofs.SettledStamps

/-!
# The texts of the annotations

What is written on a pod, text by text, is what the stamps of the model say, and the reconcilers which
compare texts plan what the reconcilers which compare stamps plan.  So a pass which was carried out leaves
the next one nothing to write, and over any run of writes the annotations can be read back.
-/

namespace GpuReservation.Proofs

open Library Model

/-- The instants a patch writes. -/
def patchInstants : Patch → List Instant
  | .guaranteeStatus _ guaranteedUntil => guaranteedUntil.toList
  | .reservationFacts facts => [facts.startUtc, facts.endUtc]
  | .terminationWarning terminateAt _ _ => [terminateAt]
  | .clearTerminationWarning => []

section Simulation

variable {rules : TextRules} {settings : ReadSettings}

lemma timeText_utcIsoText (rules : TextRules) {t : Instant} (h : IsDatetime t) :
    rules.timeText (utcIsoText t) = utcText t := timeText_isoText h

lemma timeText_eq_utcText_iff (rules : TextRules) (text : Option String) {t : Instant}
    (h : IsDatetime t) :
    text.map rules.timeText = some (utcText t) ↔ text = some (utcIsoText t) := by
  rw [← timeText_utcIsoText rules h]
  cases text with
  | none => simp
  | some text => simp [timeText_inj]

attribute [local simp] guaranteeStatusKey guaranteedUntilKey reservationKindKey reservationStartKey
  reservationEndKey reservationGpuCountKey gpuClassNameKey terminationWarningAtKey
  terminationWarningRiskKey terminationWarningMessageKey

lemma nodup_entries (patch : Patch) : (patch.entries.map Prod.fst).Nodup := by
  cases patch with
  | guaranteeStatus status guaranteedUntil => cases guaranteedUntil <;> simp [Patch.entries]
  | reservationFacts facts => simp [Patch.entries, factAnnotations]
  | terminationWarning terminateAt risk message => simp [Patch.entries]
  | clearTerminationWarning => simp [Patch.entries]

lemma get?_body (patch : Patch) (key : String) :
    patch.body.get? key = (patch.entries.find? (·.1 = key)).map Prod.snd :=
  Dict.get?_ofList (nodup_entries patch) key

/-- What a patch leaves on the pod, read as stamps, is what the patch makes of the stamps. -/
lemma stampsOf_merge {patch : Patch} (h : ∀ t ∈ patchInstants patch, IsDatetime t)
    (d : Dict String String) :
    stampsOf rules (d.merge patch.body) = (stampsOf rules d).patched patch := by
  have htext : ∀ t ∈ patchInstants patch, rules.timeText (utcIsoText t) = utcText t := fun t ht =>
    timeText_utcIsoText rules (h t ht)
  cases patch with
  | guaranteeStatus status guaranteedUntil =>
    cases guaranteedUntil with
    | none => simp [stampsOf, PodStamps.patched, Dict.get?_merge, get?_body, Patch.entries]
    | some t =>
      simp [stampsOf, PodStamps.patched, Dict.get?_merge, get?_body, Patch.entries,
        htext t (by simp [patchInstants])]
  | reservationFacts facts =>
    simp [stampsOf, PodStamps.patched, Dict.get?_merge, get?_body, Patch.entries, factAnnotations,
      htext facts.startUtc (by simp [patchInstants]), htext facts.endUtc (by simp [patchInstants])]
  | terminationWarning terminateAt risk message =>
    simp [stampsOf, PodStamps.patched, Dict.get?_merge, get?_body, Patch.entries,
      htext terminateAt (by simp [patchInstants])]
  | clearTerminationWarning =>
    simp [stampsOf, PodStamps.patched, Dict.get?_merge, get?_body, Patch.entries]

/-- The instants of the plans are ones a `datetime` can hold. -/
structure DatedPlans (plans : StampPlans) : Prop where
  status : ∀ uid g t, plans.statusPlan.get? uid = some g → g.guaranteedUntil = some t → IsDatetime t
  facts : ∀ id res, plans.factsPlan.get? id = some res →
    IsDatetime (slotStart res) ∧ IsDatetime (slotEnd res)
  warned : ∀ uid w, plans.warnPlan.get? uid = some w → IsDatetime w.terminateAt

variable {plans : StampPlans} (hplans : DatedPlans plans) (texts : WarningTexts) (pod : V1Pod)

include hplans

lemma guaranteeStatusWrite_eq : guaranteeStatusWrite plans.statusPlan (toleratedPodInfo rules settings pod) =
    guaranteeStatusPatch plans.statusPlan (stampedPodOf rules settings pod) := by
  have huid : (toleratedPodInfo rules settings pod).uid = (stampedPodOf rules settings pod).pod.uid := rfl
  rw [guaranteeStatusWrite, guaranteeStatusPatch, huid]
  cases hdesired : plans.statusPlan.get? (stampedPodOf rules settings pod).pod.uid with
  | none => rfl
  | some desired =>
    cases ht : desired.guaranteedUntil with
    | none => simp only [ht]; rfl
    | some t =>
      have huntil := timeText_eq_utcText_iff rules
        (pod.annotations.get? guaranteedUntilKey) (hplans.status _ desired t hdesired ht)
      simp only [ht]
      refine if_congr Iff.rfl rfl (if_congr ?_ rfl rfl)
      rw [Bool.and_eq_true, decide_eq_true_iff, decide_eq_true_iff]
      exact and_congr_right fun _ => huntil.symm

lemma reservationFactsWrite_eq :
    reservationFactsWrite plans.factsPlan (toleratedPodInfo rules settings pod) =
      reservationFactsPatch plans.factsPlan (stampedPodOf rules settings pod) := by
  have hreference : (toleratedPodInfo rules settings pod).reservationId.bind Int.toNat? =
      (stampedPodOf rules settings pod).pod.bookingReference := rfl
  rw [reservationFactsWrite, reservationFactsPatch, hreference]
  cases hres : (stampedPodOf rules settings pod).pod.bookingReference.bind plans.factsPlan.get? with
  | none => rfl
  | some res =>
    obtain ⟨id, -, hid⟩ := Option.bind_eq_some_iff.mp hres
    obtain ⟨hstart, hend⟩ := hplans.facts id res hid
    have hstarted := timeText_eq_utcText_iff rules (pod.annotations.get? reservationStartKey) hstart
    have hended := timeText_eq_utcText_iff rules (pod.annotations.get? reservationEndKey) hend
    simp only [carried_eq, factStamps, toleratedPodInfo, stampedPodOf, stampsOf, reservationFacts,
      Prod.mk.injEq, hstarted, hended]

lemma terminationWarningWrite_eq :
    terminationWarningWrite texts plans.warnPlan (toleratedPodInfo rules settings pod) =
      terminationWarningPatch texts plans.warnPlan (stampedPodOf rules settings pod) := by
  have huid : (toleratedPodInfo rules settings pod).uid = (stampedPodOf rules settings pod).pod.uid := rfl
  rw [terminationWarningWrite, terminationWarningPatch, huid]
  cases hdesired : plans.warnPlan.get? (stampedPodOf rules settings pod).pod.uid with
  | none =>
    refine if_congr ?_ rfl rfl
    simp only [carriesWarning_read, toleratedPodInfo, stampedPodOf, stampsOf, Option.isSome_map]
  | some desired =>
    have hat := timeText_eq_utcText_iff rules
      (pod.annotations.get? terminationWarningAtKey) (hplans.warned _ desired hdesired)
    dsimp only
    cases texts.messageOf desired with
    | none => rfl
    | some message =>
      refine if_congr ?_ rfl rfl
      rw [unchanged_read_iff]
      exact ⟨fun h => ⟨hat.mpr h.1, h.2.1, h.2.2⟩, fun h => ⟨hat.mp h.deadline, h.risk, h.message⟩⟩

/-- The reconcilers plan from the texts what they plan from the stamps. -/
lemma writes_eq : plans.writes texts (toleratedPodInfo rules settings pod) =
    plans.patches texts (stampedPodOf rules settings pod) := by
  rw [StampPlans.writes, StampPlans.patches, guaranteeStatusWrite_eq hplans, reservationFactsWrite_eq hplans,
    terminationWarningWrite_eq hplans]

lemma isDatetime_of_mem_patches {p : StampedPod} {patch : Patch} (h : patch ∈ plans.patches texts p) :
    ∀ t ∈ patchInstants patch, IsDatetime t := by
  simp only [StampPlans.patches, List.mem_append, Option.mem_toList] at h
  rcases h with (h | h) | h
  · obtain ⟨g, -, hdated, rfl⟩ := guaranteeStatusPatch_eq_some h
    exact fun t ht => hdated t (Option.mem_toList.mp ht)
  · obtain ⟨res, hres, rfl⟩ := reservationFactsPatch_eq_some h
    obtain ⟨id, -, hid⟩ := Option.bind_eq_some_iff.mp hres
    simpa [patchInstants, reservationFacts] using hplans.facts id res hid
  · rcases terminationWarningPatch_eq_some h with ⟨w, message, hw, -, rfl⟩ | ⟨-, rfl⟩
    · simpa [patchInstants] using hplans.warned _ w hw
    · simp [patchInstants]

end Simulation

section Settling

/-- The keys of the stamps. -/
def stampKeys : List String :=
  [guaranteeStatusKey, guaranteedUntilKey, reservationKindKey, reservationStartKey, reservationEndKey,
    reservationGpuCountKey, gpuClassNameKey, terminationWarningAtKey, terminationWarningRiskKey,
    terminationWarningMessageKey]

lemma get?_body_of_not_mem {key : String} (h : key ∉ stampKeys) (patch : Patch) :
    patch.body.get? key = none := by
  have hkeys : ∀ e ∈ patch.entries, e.1 ∈ stampKeys := by
    cases patch with
    | guaranteeStatus status guaranteedUntil =>
      cases guaranteedUntil <;> simp [Patch.entries, stampKeys]
    | reservationFacts facts => simp [Patch.entries, factAnnotations, stampKeys]
    | terminationWarning terminateAt risk message => simp [Patch.entries, stampKeys]
    | clearTerminationWarning => simp [Patch.entries, stampKeys]
  rw [get?_body, Option.map_eq_none_iff, List.find?_eq_none]
  intro e he heq
  exact h (of_decide_eq_true heq ▸ hkeys e he)

variable {rules : TextRules} {settings : ReadSettings}

lemma stampsOf_foldl_merge {patches : List Patch}
    (h : ∀ patch ∈ patches, ∀ t ∈ patchInstants patch, IsDatetime t) (d : Dict String String) :
    stampsOf rules ((patches.map Patch.body).foldl Dict.merge d) =
      patches.foldl PodStamps.patched (stampsOf rules d) := by
  induction patches generalizing d with
  | nil => rfl
  | cons patch patches ih =>
    rw [List.map_cons, List.foldl_cons, List.foldl_cons,
      ih (fun patch hpatch => h patch (List.mem_cons_of_mem _ hpatch)),
      stampsOf_merge (h patch List.mem_cons_self)]

variable {plans : StampPlans} {texts : WarningTexts}

/-- The reconcilers go by the uid, the reservation and the stamps. -/
lemma patches_congr {p p' : StampedPod} (huid : p.pod.uid = p'.pod.uid)
    (hreference : p.pod.bookingReference = p'.pod.bookingReference) (hstamps : p.stamps = p'.stamps) :
    plans.patches texts p = plans.patches texts p' := by
  have hwarning : terminationWarningPatch texts plans.warnPlan p =
      terminationWarningPatch texts plans.warnPlan p' := by
    rw [terminationWarningPatch, terminationWarningPatch, huid]
    cases plans.warnPlan.get? p'.pod.uid with
    | none =>
      refine if_congr ?_ rfl rfl
      rw [carriesWarning_read, carriesWarning_read, hstamps]
    | some desired =>
      have hunchanged : ∀ message, texts.unchanged p.read desired message =
          texts.unchanged p'.read desired message := fun message => by
        rw [Bool.eq_iff_iff, unchanged_read_iff, unchanged_read_iff, hstamps]
      simp only [hunchanged]
  rw [StampPlans.patches, StampPlans.patches, hwarning, guaranteeStatusPatch, guaranteeStatusPatch,
    reservationFactsPatch, reservationFactsPatch, huid, hreference, hstamps]

/-- Whatever was carried before, nothing is left to patch after a pass. -/
lemma patches_stamp (p : StampedPod) : plans.patches texts (plans.stamp texts p) = [] := by
  have hstatus : guaranteeStatusPatch plans.statusPlan (plans.stamp texts p) = none :=
    guaranteeStatusPatch_eq_none_iff.mpr fun _ hg hdated => status_applied plans texts p hg hdated
  have hfacts : reservationFactsPatch plans.factsPlan (plans.stamp texts p) = none :=
    reservationFactsPatch_eq_none_iff.mpr fun _ hres => facts_applied plans texts p hres
  exact patches_eq_nil.mpr ⟨hstatus, hfacts, terminationWarningPatch_stamp plans texts p⟩

/-- One pass of the reconcilers over the texts of a pod: what it writes reads as the stamps of the model's
pass, it touches no other annotation, and once it was carried out the same plans call for no write. -/
theorem reconciled_texts (rules : TextRules) (settings : ReadSettings) (plans : StampPlans)
    (texts : WarningTexts) (hplans : DatedPlans plans) (pod : V1Pod) :
    let written := plans.writes texts (toleratedPodInfo rules settings pod)
    let after := pod.annotated (written.map Patch.body)
    stampsOf rules after.annotations = (plans.stamp texts (stampedPodOf rules settings pod)).stamps ∧
      (∀ key, key ∉ stampKeys → after.annotations.get? key = pod.annotations.get? key) ∧
      plans.writes texts (toleratedPodInfo rules settings after) = [] := by
  intro written after
  have hwritten : written = plans.patches texts (stampedPodOf rules settings pod) :=
    writes_eq hplans texts pod
  have hstamps : stampsOf rules after.annotations =
      (plans.stamp texts (stampedPodOf rules settings pod)).stamps := by
    have hdated : ∀ patch ∈ written, _ := fun patch hpatch =>
      isDatetime_of_mem_patches hplans texts (hwritten ▸ hpatch)
    exact (stampsOf_foldl_merge hdated pod.annotations).trans (hwritten ▸ rfl)
  have hframe : ∀ key, key ∉ stampKeys → after.annotations.get? key = pod.annotations.get? key := by
    intro key hkey
    refine Dict.get?_foldl_merge_of_not_mem (fun patch hpatch => ?_) pod.annotations
    obtain ⟨patch, -, rfl⟩ := List.mem_map.mp hpatch
    exact Dict.get?_eq_none_iff.mp (get?_body_of_not_mem hkey patch)
  refine ⟨hstamps, hframe, ?_⟩
  have hreference : (stampedPodOf rules settings after).pod.bookingReference =
      (stampedPodOf rules settings pod).pod.bookingReference := by
    change reservationIdOf rules (after.annotations.get? bookingReferenceKey) = _
    rw [hframe bookingReferenceKey (by decide)]
    rfl
  rw [writes_eq hplans texts after, ← patches_stamp (stampedPodOf rules settings pod)]
  exact patches_congr rfl hreference hstamps

/-- A plan for one pod: its guarantee runs for another hour, and it may be deleted an hour later. -/
def hourPlans : StampPlans where
  statusPlan := Dict.ofList [("u1", ⟨guaranteedStatus, some (seconds 3600)⟩)]
  factsPlan := Dict.ofList [(42, hourBooking 42 0 (seconds 3600))]
  warnPlan := Dict.ofList [("u1",
    { view := podView none endedLeasePod.pod, terminateAt := seconds 7200, risk := 1 })]

lemma datedPlans_hourPlans : DatedPlans hourPlans where
  status uid g t hg ht := by
    obtain ⟨rfl, rfl⟩ := Prod.mk.inj (List.mem_singleton.mp (Dict.mem_of_get?_ofList hg))
    cases ht
    exact (by decide : inCalendar (seconds 3600 / seconds 1))
  facts id res h := by
    obtain ⟨rfl, rfl⟩ := Prod.mk.inj (List.mem_singleton.mp (Dict.mem_of_get?_ofList h))
    exact ⟨(by decide : inCalendar (0 / seconds 1)), (by decide : inCalendar (seconds 3600 / seconds 1))⟩
  warned uid w h := by
    obtain ⟨rfl, rfl⟩ := Prod.mk.inj (List.mem_singleton.mp (Dict.mem_of_get?_ofList h))
    exact (by decide : inCalendar (seconds 7200 / seconds 1))

theorem reconciled_texts_hour :
    let texts := warningTexts (fun _ => "1.00") fun _ => some "02:00"
    let carried := Dict.ofList [(bookingReferenceKey, "res-42"), (terminationWarningAtKey, "soon")]
    let pod : V1Pod :=
      { metadata := { ns := "alice", name := "job", uid := "u1", annotations := some carried } }
    let after := pod.annotated
      ((hourPlans.writes texts (toleratedPodInfo plainRules {} pod)).map Patch.body)
    (hourPlans.writes texts (toleratedPodInfo plainRules {} pod)).length = 3 ∧
      after.annotations.get? bookingReferenceKey = some "res-42" ∧
      (stampsOf plainRules after.annotations).terminationWarningAt = some (.utc 7200) ∧
      hourPlans.writes texts (toleratedPodInfo plainRules {} after) = [] := by
  intro texts carried pod after
  obtain ⟨-, hframe, hquiet⟩ := reconciled_texts plainRules {} hourPlans texts datedPlans_hourPlans pod
  exact ⟨by decide +kernel, hframe bookingReferenceKey (by decide), by decide +kernel, hquiet⟩

end Settling

section Run

/-- A write of the annotations of a pod, by the controller or by the pod's owner. -/
inductive AnnotationWrite
  | booked (reservationId : Int) (bookingReference : String)
  | guaranteed (now guaranteedUntil : Instant) (reservation : ReservationResponse) (firstAdmission : Bool)
  | stamped (patch : Patch)
  | edited (edit : AnnotationPatch)

namespace AnnotationWrite

def body : AnnotationWrite → AnnotationPatch
  | booked _ bookingReference => bookingReferenceBody bookingReference
  | guaranteed now guaranteedUntil reservation firstAdmission =>
    Dict.ofList (runtimeGuaranteeEntries (guaranteeSeconds now guaranteedUntil reservation) guaranteedUntil
      (reservationFacts reservation) (if firstAdmission then some now else none))
  | stamped patch => patch.body
  | edited edit => edit

end AnnotationWrite

/-- The keys the controller writes. -/
def controllerKeys : List String := stampKeys ++ [bookingReferenceKey, runtimeLimitKey, admittedAtKey]

def timeKeys : List String :=
  [guaranteedUntilKey, reservationStartKey, reservationEndKey, terminationWarningAtKey, admittedAtKey]

def warningKeys : List String :=
  [terminationWarningAtKey, terminationWarningRiskKey, terminationWarningMessageKey]

def factKeys : List String :=
  [reservationKindKey, reservationStartKey, reservationEndKey, reservationGpuCountKey, gpuClassNameKey]

/-- The reconcilers call for the patch, by what they planned from some snapshot. -/
def CalledFor (patch : Patch) : Prop :=
  ∃ config s boundaries inventory now doomed snapshot plans,
    planStamps config s boundaries inventory now doomed snapshot = .ok plans ∧ DatedPlans plans ∧
      ∃ texts p, patch ∈ plans.patches texts p

/-- References and instants are such as there are, the patches of the reconcilers are theirs, and the owner
leaves the keys of the controller alone. -/
def AnnotationWrite.Sound : AnnotationWrite → Prop
  | booked reservationId bookingReference => makeBookingReference reservationId = some bookingReference
  | guaranteed now guaranteedUntil reservation _ =>
    IsDatetime now ∧ IsDatetime guaranteedUntil ∧ IsDatetime (slotStart reservation) ∧
      IsDatetime (slotEnd reservation)
  | stamped patch => CalledFor patch
  | edited edit => ∀ key ∈ controllerKeys, edit.get? key = none

/-- A guarantee is planned with its end. -/
lemma status_of_planGuaranteeStatus {s : ControllerState} {views : List PodRuntimeView} {now : Instant}
    {uid : Uid} {g : GuaranteeStatus} (h : (s.planGuaranteeStatus views now).get? uid = some g) :
    (g.status = guaranteedStatus ∧ g.guaranteedUntil.isSome) ∨ g.status = overstayStatus := by
  obtain ⟨p, -, hp⟩ := List.mem_map.mp (Dict.mem_of_get?_ofList h)
  obtain ⟨-, rfl⟩ := Prod.mk.inj hp
  split
  · exact .inr rfl
  · split
    · exact .inl ⟨rfl, rfl⟩
    · exact .inr rfl

/-- What a patch of the reconcilers says: its instants are dates, and a guarantee comes with its end. -/
lemma CalledFor.sound {patch : Patch} (h : CalledFor patch) : (∀ t ∈ patchInstants patch, IsDatetime t) ∧
    ∀ status guaranteedUntil, patch = .guaranteeStatus status guaranteedUntil →
      (status = guaranteedStatus ∧ guaranteedUntil.isSome) ∨ status = overstayStatus := by
  obtain ⟨config, s, boundaries, inventory, now, doomed, snapshot, plans, hplans, hdated, texts, p, hp⟩ := h
  refine ⟨isDatetime_of_mem_patches hdated texts hp, ?_⟩
  rintro status guaranteedUntil rfl
  rw [planStamps_eq (readable_of_planStamps hplans)] at hplans
  obtain rfl := Except.ok.inj hplans
  simp only [StampPlans.patches, List.mem_append, Option.mem_toList] at hp
  rcases hp with (hp | hp) | hp
  · obtain ⟨g, hg, -, heq⟩ := guaranteeStatusPatch_eq_some hp
    cases heq
    exact status_of_planGuaranteeStatus hg
  · obtain ⟨res, -, heq⟩ := reservationFactsPatch_eq_some hp
    cases heq
  · rcases terminationWarningPatch_eq_some hp with ⟨w, message, -, -, heq⟩ | ⟨-, heq⟩ <;> cases heq

/-- The annotations of the controller can be read back, and stand together as they were written. -/
structure ReadsBack (d : Dict String String) : Prop where
  booked : ∀ text, d.get? bookingReferenceKey = some text →
    ∃ id, makeBookingReference id = some text
  times : ∀ key ∈ timeKeys, ∀ text, d.get? key = some text → ∃ t, IsDatetime t ∧ text = utcIsoText t
  warning : d.Whole warningKeys
  facts : d.Whole factKeys
  status : ∀ status, d.get? guaranteeStatusKey = some status →
    status = overstayStatus ∨ (status = guaranteedStatus ∧ (d.get? guaranteedUntilKey).isSome)
  admitted : (d.get? admittedAtKey).isSome → ∀ key ∈ factKeys, (d.get? key).isSome

/-- What one write may come to. -/
structure SoundBody (body : AnnotationPatch) : Prop where
  booked : ∀ v, body.get? bookingReferenceKey = some v →
    ∃ id text, makeBookingReference id = some text ∧ v = some text
  times : ∀ key ∈ timeKeys, ∀ v, body.get? key = some (some v) → ∃ t, IsDatetime t ∧ v = utcIsoText t
  warning : Dict.WritesWhole warningKeys body
  facts : (∀ key ∈ factKeys, body.get? key = none) ∨ ∀ key ∈ factKeys, ∃ v, body.get? key = some (some v)
  kept : body.get? guaranteedUntilKey ≠ some none
  status : ∀ v, body.get? guaranteeStatusKey = some v → v = some overstayStatus ∨
    (v = some guaranteedStatus ∧ ∃ text, body.get? guaranteedUntilKey = some (some text))
  admitted : body.get? admittedAtKey = none ∨ ∀ key ∈ factKeys, ∃ v, body.get? key = some (some v)

lemma readsBack_merge {d : Dict String String} {body : AnnotationPatch} (hd : ReadsBack d)
    (hbody : SoundBody body) : ReadsBack (d.merge body) := by
  have hfacts : ∀ key ∈ factKeys, (d.get? key).isSome → ((d.merge body).get? key).isSome := by
    intro key hkey hpresent
    rw [Dict.get?_merge]
    rcases hbody.facts with hnone | hsome
    · rw [hnone key hkey]
      exact hpresent
    · obtain ⟨v, hv⟩ := hsome key hkey
      rw [hv]
      rfl
  constructor
  · intro text htext
    rcases Dict.get?_merge_eq_some_iff.mp htext with h | ⟨-, h⟩
    · obtain ⟨id, made, hmade, hv⟩ := hbody.booked _ h
      exact ⟨id, Option.some_inj.mp hv ▸ hmade⟩
    · exact hd.booked text h
  · intro key hkey text htext
    rcases Dict.get?_merge_eq_some_iff.mp htext with h | ⟨-, h⟩
    · exact hbody.times key hkey text h
    · exact hd.times key hkey text h
  · exact Dict.whole_merge hd.warning hbody.warning
  · exact Dict.whole_merge hd.facts (hbody.facts.imp_right .inl)
  · intro status hstatus
    rcases Dict.get?_merge_eq_some_iff.mp hstatus with h | ⟨-, h⟩
    · rcases hbody.status _ h with hover | ⟨hguaranteed, text, huntil⟩
      · exact .inl (Option.some_inj.mp hover)
      · refine .inr ⟨Option.some_inj.mp hguaranteed, ?_⟩
        rw [Dict.get?_merge, huntil]
        rfl
    · rcases hd.status status h with hover | ⟨hguaranteed, huntil⟩
      · exact .inl hover
      · refine .inr ⟨hguaranteed, ?_⟩
        rw [Dict.get?_merge]
        cases hwritten : body.get? guaranteedUntilKey with
        | none => exact huntil
        | some v =>
          cases v with
          | none => exact absurd hwritten hbody.kept
          | some text => rfl
  · intro hadmitted key hkey
    rcases hbody.admitted with hnone | hsome
    · rw [Dict.get?_merge, hnone] at hadmitted
      exact hfacts key hkey (hd.admitted hadmitted key hkey)
    · obtain ⟨v, hv⟩ := hsome key hkey
      rw [Dict.get?_merge, hv]
      rfl

attribute [local simp] guaranteeStatusKey guaranteedUntilKey reservationKindKey reservationStartKey
  reservationEndKey reservationGpuCountKey gpuClassNameKey terminationWarningAtKey
  terminationWarningRiskKey terminationWarningMessageKey bookingReferenceKey runtimeLimitKey admittedAtKey
  timeKeys warningKeys factKeys

lemma times_ofList {l : List (String × Option String)}
    (h : ∀ e ∈ l, e.1 ∈ timeKeys → ∀ v, e.2 = some v → ∃ t, IsDatetime t ∧ v = utcIsoText t) :
    ∀ key ∈ timeKeys, ∀ v, (Dict.ofList l).get? key = some (some v) → ∃ t, IsDatetime t ∧ v = utcIsoText t :=
  fun key hkey v hv => h (key, some v) (Dict.mem_of_get?_ofList hv) hkey v rfl

lemma soundBody_booked {id : Int} {reference : String} (h : makeBookingReference id = some reference) :
    SoundBody (bookingReferenceBody reference) := by
  have hget : ∀ key, (bookingReferenceBody reference).get? key =
      ([(bookingReferenceKey, some reference)].find? (·.1 = key)).map Prod.snd :=
    Dict.get?_ofList (List.nodup_singleton _)
  have hother : ∀ key, bookingReferenceKey ≠ key → (bookingReferenceBody reference).get? key = none := by
    intro key hkey
    rw [hget, Option.map_eq_none_iff, List.find?_eq_none]
    rintro e he heq
    rw [List.mem_singleton.mp he] at heq
    exact hkey (of_decide_eq_true heq)
  refine ⟨fun v hv => ⟨id, reference, h, ?_⟩, times_ofList (by simp), .inl fun key hkey => hother key ?_,
    .inl fun key hkey => hother key ?_, ?_, ?_, .inl (hother _ (by simp))⟩
  · rw [hget] at hv
    simpa [eq_comm] using hv
  · rintro rfl
    simp at hkey
  · rintro rfl
    simp at hkey
  · rw [hother _ (by simp)]
    simp
  · rw [hother _ (by simp)]
    simp

lemma soundBody_guaranteed {now guaranteedUntil : Instant} {reservation : ReservationResponse}
    {firstAdmission : Bool}
    (h : (AnnotationWrite.guaranteed now guaranteedUntil reservation firstAdmission).Sound) :
    SoundBody (AnnotationWrite.guaranteed now guaranteedUntil reservation firstAdmission).body := by
  obtain ⟨hnow, huntil, hstart, hend⟩ := h
  have hnodup : ((runtimeGuaranteeEntries (guaranteeSeconds now guaranteedUntil reservation)
      guaranteedUntil (reservationFacts reservation)
      (if firstAdmission then some now else none)).map Prod.fst).Nodup := by
    cases firstAdmission <;> simp [runtimeGuaranteeEntries, factAnnotations]
  have hget := Dict.get?_ofList hnodup
  have hfacts : ∀ key ∈ factKeys, ∃ v, (Dict.ofList (runtimeGuaranteeEntries
      (guaranteeSeconds now guaranteedUntil reservation) guaranteedUntil (reservationFacts reservation)
      (if firstAdmission then some now else none))).get? key = some (some v) := by
    simp only [hget]
    cases firstAdmission <;> simp [runtimeGuaranteeEntries, factAnnotations]
  unfold AnnotationWrite.body
  refine ⟨?_, times_ofList ?_, .inl ?_, .inr hfacts, ?_, ?_, .inr hfacts⟩
  · simp only [hget]
    cases firstAdmission <;> simp [runtimeGuaranteeEntries, factAnnotations]
  · have hdated : ∀ t, IsDatetime t → ∃ t', IsDatetime t' ∧ utcIsoText t = utcIsoText t' :=
      fun t ht => ⟨t, ht, rfl⟩
    cases firstAdmission <;>
      simp [runtimeGuaranteeEntries, factAnnotations, reservationFacts, hdated _ hnow, hdated _ huntil,
        hdated _ hstart, hdated _ hend]
  · simp only [hget]
    cases firstAdmission <;> simp [runtimeGuaranteeEntries, factAnnotations]
  · simp only [hget]
    cases firstAdmission <;> simp [runtimeGuaranteeEntries, factAnnotations]
  · simp only [hget]
    cases firstAdmission <;> simp [runtimeGuaranteeEntries, factAnnotations]

lemma soundBody_stamped {patch : Patch} (h : (AnnotationWrite.stamped patch).Sound) :
    SoundBody patch.body := by
  obtain ⟨hdated, hstatus⟩ := CalledFor.sound h
  have htext : ∀ t ∈ patchInstants patch, ∃ t', IsDatetime t' ∧ utcIsoText t = utcIsoText t' :=
    fun t ht => ⟨t, hdated t ht, rfl⟩
  constructor
  case times =>
    refine times_ofList ?_
    rcases patch with ⟨status, _ | t⟩ | facts | ⟨terminateAt, risk, message⟩ | _
    · simp [Patch.entries]
    · simp [Patch.entries, htext t (by simp [patchInstants])]
    · simp [Patch.entries, factAnnotations, htext facts.startUtc (by simp [patchInstants]),
        htext facts.endUtc (by simp [patchInstants])]
    · simp [Patch.entries, htext terminateAt (by simp [patchInstants])]
    · simp [Patch.entries]
  case status =>
    simp only [get?_body]
    rcases patch with ⟨status, guaranteedUntil⟩ | facts | ⟨terminateAt, risk, message⟩ | _
    · cases guaranteedUntil with
      | none =>
        rcases hstatus status none rfl with ⟨-, hnone⟩ | rfl
        · cases hnone
        · simp [Patch.entries]
      | some t => rcases hstatus status (some t) rfl with ⟨rfl, -⟩ | rfl <;> simp [Patch.entries]
    · simp [Patch.entries, factAnnotations]
    · simp [Patch.entries]
    · simp [Patch.entries]
  all_goals
    simp only [Dict.WritesWhole, get?_body]
    rcases patch with ⟨status, _ | t⟩ | facts | ⟨terminateAt, risk, message⟩ | _ <;>
      simp [Patch.entries, factAnnotations]

lemma readsBack_congr {d d' : Dict String String} (h : ∀ key ∈ controllerKeys, d.get? key = d'.get? key)
    (hd : ReadsBack d) : ReadsBack d' := by
  have hkeys : ∀ {keys : List String}, keys ⊆ controllerKeys → d.Whole keys → d'.Whole keys := by
    intro keys hsub hwhole
    refine hwhole.imp (fun hall key hkey => ?_) fun hnone key hkey => ?_
    · rw [← h key (hsub hkey)]
      exact hall key hkey
    · rw [← h key (hsub hkey)]
      exact hnone key hkey
  constructor
  · rw [← h bookingReferenceKey (by decide)]
    exact hd.booked
  · intro key hkey
    have hsub : timeKeys ⊆ controllerKeys := by decide
    rw [← h key (hsub hkey)]
    exact hd.times key hkey
  · exact hkeys (by decide) hd.warning
  · exact hkeys (by decide) hd.facts
  · rw [← h guaranteeStatusKey (by decide), ← h guaranteedUntilKey (by decide)]
    exact hd.status
  · rw [← h admittedAtKey (by decide)]
    intro hadmitted key hkey
    have hsub : factKeys ⊆ controllerKeys := by decide
    rw [← h key (hsub hkey)]
    exact hd.admitted hadmitted key hkey

/-- One write: a patch which the API server refused, or which was never sent, changes nothing. -/
def carryOut (d : Dict String String) (w : AnnotationWrite × Bool) : Dict String String :=
  if w.2 then d.merge w.1.body else d

/-- The annotations after a run of writes. -/
def annotationRun (d : Dict String String) (writes : List (AnnotationWrite × Bool)) : Dict String String :=
  writes.foldl carryOut d

lemma readsBack_carryOut {d : Dict String String} (hd : ReadsBack d) {w : AnnotationWrite × Bool}
    (hw : w.1.Sound) : ReadsBack (carryOut d w) := by
  obtain ⟨write, carried⟩ := w
  cases carried with
  | false => exact hd
  | true =>
    cases write with
    | booked reservationId reference => exact readsBack_merge hd (soundBody_booked hw)
    | guaranteed now guaranteedUntil reservation firstAdmission =>
      exact readsBack_merge hd (soundBody_guaranteed hw)
    | stamped patch => exact readsBack_merge hd (soundBody_stamped hw)
    | edited edit =>
      refine readsBack_congr (fun key hkey => ?_) hd
      rw [carryOut, if_pos rfl, AnnotationWrite.body, Dict.get?_merge, hw key hkey, Option.getD_none]

/-- The edits of the owner. -/
def ownerEdit : AnnotationWrite × Bool → Option AnnotationPatch
  | (.edited edit, true) => some edit
  | _ => none

/-- The id a write puts the pod under. -/
def bookedId : AnnotationWrite × Bool → Option Int
  | (.booked reservationId _, true) => some reservationId
  | _ => none

lemma get?_body_of_not_controller {w : AnnotationWrite} {key : String} (hkey : key ∉ controllerKeys)
    (h : ∀ edit, w ≠ .edited edit) : w.body.get? key = none := by
  have hne : ∀ key' ∈ controllerKeys, key' ≠ key := fun key' hmem heq => hkey (heq ▸ hmem)
  cases w with
  | booked reservationId reference =>
    rw [AnnotationWrite.body, bookingReferenceBody, Dict.get?_ofList (by simp), Option.map_eq_none_iff,
      List.find?_eq_none]
    rintro e he heq
    rw [List.mem_singleton.mp he] at heq
    exact hne bookingReferenceKey (by decide) (of_decide_eq_true heq)
  | guaranteed now guaranteedUntil reservation firstAdmission =>
    refine Option.eq_none_iff_forall_ne_some.mpr fun v hv => ?_
    have hmem := List.mem_map_of_mem (f := Prod.fst) (Dict.mem_of_get?_ofList hv)
    have hall : (runtimeGuaranteeEntries (guaranteeSeconds now guaranteedUntil reservation)
        guaranteedUntil (reservationFacts reservation)
        (if firstAdmission then some now else none)).map Prod.fst ⊆ controllerKeys := by
      cases firstAdmission <;> simp [runtimeGuaranteeEntries, factAnnotations, controllerKeys, stampKeys]
    exact hkey (hall hmem)
  | stamped patch => exact get?_body_of_not_mem (fun h => hkey (List.mem_append_left _ h)) patch
  | edited edit => exact absurd rfl (h edit)

lemma annotationRun_concat (d : Dict String String) (writes : List (AnnotationWrite × Bool))
    (w : AnnotationWrite × Bool) :
    annotationRun d (writes ++ [w]) = carryOut (annotationRun d writes) w := by
  rw [annotationRun, List.foldl_append]
  rfl

lemma readsBack_annotationRun {d : Dict String String} (hd : ReadsBack d)
    {writes : List (AnnotationWrite × Bool)} (hwrites : ∀ w ∈ writes, w.1.Sound) :
    ReadsBack (annotationRun d writes) :=
  List.foldlRecOn writes carryOut hd fun _ hd w hw => readsBack_carryOut hd (hwrites w hw)

/-- The keys of the owner are the owner's. -/
lemma get?_annotationRun_owner (d : Dict String String) (writes : List (AnnotationWrite × Bool))
    {key : String} (hkey : key ∉ controllerKeys) : (annotationRun d writes).get? key =
      ((writes.filterMap ownerEdit).foldl Dict.merge d).get? key := by
  induction writes using List.reverseRecOn with
  | nil => rfl
  | append_singleton writes w ih =>
    obtain ⟨write, carried⟩ := w
    rw [annotationRun_concat, List.filterMap_append, List.foldl_append]
    cases carried with
    | false => cases write <;> exact ih
    | true =>
      have hstep : ∀ d : Dict String String, (carryOut d (write, true)).get? key =
          (write.body.get? key).getD (d.get? key) := fun d => Dict.get?_merge d write.body key
      rw [hstep, ih]
      cases write with
      | edited edit => exact (Dict.get?_merge _ edit key).symm
      | _ =>
        rw [get?_body_of_not_controller hkey (by simp)]
        rfl

lemma get?_bookingReference_of_not_booked {w : AnnotationWrite} (hw : w.Sound)
    (h : ∀ reservationId reference, w ≠ .booked reservationId reference) : w.body.get? bookingReferenceKey = none := by
  cases w with
  | booked reservationId reference => exact absurd rfl (h reservationId reference)
  | guaranteed now guaranteedUntil reservation firstAdmission =>
    refine Option.eq_none_iff_forall_ne_some.mpr fun v hv => ?_
    have hmem := List.mem_map_of_mem (f := Prod.fst) (Dict.mem_of_get?_ofList hv)
    cases firstAdmission <;> simp [runtimeGuaranteeEntries, factAnnotations] at hmem
  | stamped patch => exact get?_body_of_not_mem (by decide) patch
  | edited edit => exact hw bookingReferenceKey (by decide)

/-- The pod reads as one of the reservation it was last put under. -/
lemma parse_annotationRun {rules : TextRules} (d : Dict String String)
    {writes : List (AnnotationWrite × Bool)} (hwrites : ∀ w ∈ writes, w.1.Sound) :
    parseBookingReference rules ((annotationRun d writes).get? bookingReferenceKey) =
      (writes.reverse.findSome? bookedId).or
        (parseBookingReference rules (d.get? bookingReferenceKey)) := by
  induction writes using List.reverseRecOn with
  | nil => rfl
  | append_singleton writes w ih =>
    have ih := ih fun w hw => hwrites w (List.mem_append_left _ hw)
    have hsound : w.1.Sound := hwrites w (by simp)
    obtain ⟨write, carried⟩ := w
    rw [annotationRun_concat, List.reverse_append, List.reverse_singleton, List.singleton_append,
      List.findSome?_cons]
    cases carried with
    | false => cases write <;> exact ih
    | true =>
      have hstep : (carryOut (annotationRun d writes) (write, true)).get? bookingReferenceKey =
          (write.body.get? bookingReferenceKey).getD ((annotationRun d writes).get? bookingReferenceKey) :=
        Dict.get?_merge _ write.body _
      rw [hstep]
      cases write with
      | booked reservationId reference =>
        have hwritten : (AnnotationWrite.booked reservationId reference).body.get? bookingReferenceKey =
            some (some reference) := by
          rw [AnnotationWrite.body, bookingReferenceBody, Dict.get?_ofList (by simp)]
          simp
        rw [hwritten, Option.getD_some, parse_of_make hsound]
        rfl
      | _ =>
        rw [get?_bookingReference_of_not_booked hsound (by simp), Option.getD_none, ih]
        rfl

/-- Over any run of writes, in any order and each carried out or not, the annotations of the controller can
be read back and stand together as they were written.  What the owner wrote is as the owner left it, and
the pod is read as one of the reservation it was last put under. -/
theorem annotations_over_a_run (rules : TextRules) (d : Dict String String) (hd : ReadsBack d)
    (writes : List (AnnotationWrite × Bool)) (hwrites : ∀ w ∈ writes, w.1.Sound) :
    ReadsBack (annotationRun d writes) ∧
      (∀ key, key ∉ controllerKeys → (annotationRun d writes).get? key =
        ((writes.filterMap ownerEdit).foldl Dict.merge d).get? key) ∧
      parseBookingReference rules ((annotationRun d writes).get? bookingReferenceKey) =
        (writes.reverse.findSome? bookedId).or (parseBookingReference rules (d.get? bookingReferenceKey)) :=
  ⟨readsBack_annotationRun hd hwrites, fun _ hkey => get?_annotationRun_owner d writes hkey,
    parse_annotationRun d hwrites⟩

/-- The plans for a pod whose reservation is gone. -/
def gonePlans : StampPlans := readPlans {} {} [] ∅ 0 [] [endedLeasePod]

lemma calledFor_gonePlans {patch : Patch} {p : StampedPod}
    (h : patch ∈ gonePlans.patches (warningTexts (fun _ => "") fun _ => some "") p) : CalledFor patch := by
  have hstatus : gonePlans.statusPlan = Dict.ofList [("pod-a", ⟨overstayStatus, none⟩)] := by decide
  have hfacts : gonePlans.factsPlan = ∅ := by decide
  have hwarned : gonePlans.warnPlan = ∅ := by decide
  refine ⟨{}, {}, [], ∅, 0, [], [endedLeasePod], gonePlans, planStamps_eq (by decide), ⟨?_, ?_, ?_⟩,
    _, p, h⟩
  · intro uid g t hg ht
    rw [hstatus] at hg
    obtain ⟨-, rfl⟩ := Prod.mk.inj (List.mem_singleton.mp (Dict.mem_of_get?_ofList hg))
    cases ht
  · intro id res h
    rw [hfacts] at h
    cases h
  · intro uid w h
    rw [hwarned] at h
    cases h

/-- A pod of no annotation is put under one reservation and then under another, the second record lost. -/
theorem annotations_over_a_run_rebooked :
    let writes : List (AnnotationWrite × Bool) :=
      [(.booked 42 "res-42", true), (.stamped (.guaranteeStatus overstayStatus none), true),
        (.booked 7 "res-7", true), (.stamped .clearTerminationWarning, false)]
    parseBookingReference plainRules ((annotationRun ∅ writes).get? bookingReferenceKey) = some 7 := by
  intro writes
  have hempty : ReadsBack ∅ :=
    ⟨by simp, by simp, .inr (by simp), .inr (by simp), by simp, by simp⟩
  have hpow : ∀ limit n : Nat, 2 ≤ limit → n < 10 ^ 2 → n < 10 ^ limit := fun _ _ hlimit hn =>
    hn.trans_le (Nat.pow_le_pow_right (Nat.succ_pos 9) hlimit)
  have hsmall := fun n => hpow maxStrDigits n (by decide)
  have hsound : ∀ w ∈ writes, w.1.Sound := by
    simp only [writes, List.mem_cons, List.not_mem_nil, or_false, forall_eq_or_imp, forall_eq]
    exact ⟨makeBookingReference_eq_some_iff.mpr ⟨hsmall 42 (by decide), by decide⟩,
      calledFor_gonePlans (p := endedLeasePod) (by decide),
      makeBookingReference_eq_some_iff.mpr ⟨hsmall 7 (by decide), by decide⟩,
      calledFor_gonePlans
        (p := { endedLeasePod with stamps := { terminationWarningRisk := some "0.50" } }) (by decide)⟩
  exact (annotations_over_a_run plainRules ∅ hempty writes hsound).2.2

end Run

end GpuReservation.Proofs
