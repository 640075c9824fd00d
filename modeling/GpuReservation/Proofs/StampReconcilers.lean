import GpuReservation.Model.Stamps

/-!
# One pass of the reconcilers

A pod is patched exactly if it does not carry what is planned for it, and one pass leaves it with the stamps
that were planned, where these can be written.
-/

namespace GpuReservation.Proofs

open GpuReservation.Library GpuReservation.Model

/-- The annotations of a warning are all there, or none is. -/
def WarnedWhole (stamps : PodStamps) : Prop :=
  (stamps.terminationWarningAt.isSome ∧ stamps.terminationWarningRisk.isSome ∧
      stamps.terminationWarningMessage.isSome) ∨
    (stamps.terminationWarningAt = none ∧ stamps.terminationWarningRisk = none ∧
      stamps.terminationWarningMessage = none)

instance (stamps : PodStamps) : Decidable (WarnedWhole stamps) := inferInstanceAs (Decidable (_ ∨ _))

/-- The pod carries the warning, with this message. -/
structure WarnedAs (texts : WarningTexts) (stamps : PodStamps) (w : TerminationWarning) (message : String) :
    Prop where
  deadline : stamps.terminationWarningAt = some (utcText w.terminateAt)
  risk : stamps.terminationWarningRisk = some (texts.risk w.risk)
  message : stamps.terminationWarningMessage = some message

/-- The end of the guarantee, where there is one, can be written. -/
def DatedStatus (g : GuaranteeStatus) : Prop := ∀ t, g.guaranteedUntil = some t → IsDatetime t

/-- The pod carries the status. -/
structure StatusAs (stamps : PodStamps) (g : GuaranteeStatus) : Prop where
  status : stamps.guaranteeStatus = some g.status
  guaranteedUntil : ∀ t, g.guaranteedUntil = some t → stamps.guaranteedUntil = some (utcText t)

/-- The pod carries what is planned for it, and no warning where none is planned. -/
structure AsPlanned (plans : StampPlans) (texts : WarningTexts) (p : StampedPod) : Prop where
  status : ∀ g, plans.statusPlan.get? p.pod.uid = some g → DatedStatus g ∧ StatusAs p.stamps g
  facts : ∀ res, p.pod.bookingReference.bind plans.factsPlan.get? = some res →
    (reservationFacts res).carried p.stamps = true
  warned : ∀ w, plans.warnPlan.get? p.pod.uid = some w →
    ∃ message, texts.messageOf w = some message ∧ WarnedAs texts p.stamps w message
  cleared : plans.warnPlan.get? p.pod.uid = none →
    p.stamps.terminationWarningAt = none ∧ p.stamps.terminationWarningRisk = none ∧
      p.stamps.terminationWarningMessage = none

/-- What is planned for the pod can be written. -/
structure Writable (plans : StampPlans) (texts : WarningTexts) (p : StampedPod) : Prop where
  status : ∀ g, plans.statusPlan.get? p.pod.uid = some g → DatedStatus g
  warned : ∀ w, plans.warnPlan.get? p.pod.uid = some w → ∃ message, texts.messageOf w = some message

lemma AsPlanned.writable {plans : StampPlans} {texts : WarningTexts} {p : StampedPod}
    (h : AsPlanned plans texts p) : Writable plans texts p := by
  refine ⟨fun g hg => (h.status g hg).1, fun w hw => ?_⟩
  obtain ⟨message, hmessage, -⟩ := h.warned w hw
  exact ⟨message, hmessage⟩

section Quiet

variable {plans : StampPlans} {texts : WarningTexts} {p : StampedPod}

lemma seconds_inj {m n : Int} : seconds m = seconds n ↔ m = n := by
  unfold seconds
  exact mul_left_inj' (by decide)

@[simp] lemma readStamp_none : readStamp none = .ok none := rfl

@[simp] lemma readStamp_utc (second : Int) :
    readStamp (some (.utc second)) = .ok (some (seconds second)) := rfl

/-- A pod which was read carries the warning as it would be written exactly if its texts are those. -/
lemma unchanged_read_iff {w : TerminationWarning} {message : String} :
    texts.unchanged p.read w message = true ↔ WarnedAs texts p.stamps w message := by
  have hat : (!p.read.terminationWarningForeign &&
      decide (p.read.terminationWarningAt = some (utcIso w.terminateAt))) = true ↔
        p.stamps.terminationWarningAt = some (utcText w.terminateAt) := by
    unfold StampedPod.read
    cases p.stamps.terminationWarningAt with
    | none => simp [Except.toOption]
    | some text =>
      cases text with
      | utc second => simp [Except.toOption, utcText, utcIso_eq, seconds_inj]
      | foreign text reads => simp [utcText]
  unfold WarningTexts.unchanged
  rw [Bool.and_eq_true, Bool.and_eq_true, hat, decide_eq_true_eq, decide_eq_true_eq]
  exact ⟨fun ⟨⟨hdeadline, hrisk⟩, hmessage⟩ => ⟨hdeadline, hrisk, hmessage⟩,
    fun h => ⟨⟨h.deadline, h.risk⟩, h.message⟩⟩

lemma carriesWarning_read : p.read.carriesWarning = true ↔
    p.stamps.terminationWarningAt.isSome ∨ p.stamps.terminationWarningRisk.isSome := by
  unfold Pod.carriesWarning StampedPod.read
  cases p.stamps.terminationWarningAt with
  | none => simp [Except.toOption]
  | some text => cases text <;> simp [Except.toOption]

lemma guaranteeStatusPatch_eq_none_iff {plan : Dict Uid GuaranteeStatus} :
    guaranteeStatusPatch plan p = none ↔
      ∀ g, plan.get? p.pod.uid = some g → DatedStatus g → StatusAs p.stamps g := by
  have hcarried : ∀ g, StatusAs p.stamps g ↔ p.stamps.guaranteeStatus = some g.status ∧
      ∀ t, g.guaranteedUntil = some t → p.stamps.guaranteedUntil = some (utcText t) := fun g =>
    ⟨fun h => ⟨h.status, h.guaranteedUntil⟩, fun h => ⟨h.1, h.2⟩⟩
  unfold guaranteeStatusPatch DatedStatus
  cases plan.get? p.pod.uid with
  | none => simp
  | some g =>
    cases hu : g.guaranteedUntil with
    | none => simp [hu, hcarried]
    | some t => by_cases hdated : IsDatetime t <;> simp [hu, hcarried, hdated]

lemma reservationFactsPatch_eq_none_iff {plan : Dict Nat ReservationResponse} :
    reservationFactsPatch plan p = none ↔ ∀ res, p.pod.bookingReference.bind plan.get? = some res →
      (reservationFacts res).carried p.stamps = true := by
  unfold reservationFactsPatch
  cases p.pod.bookingReference.bind plan.get? <;> simp

lemma terminationWarningPatch_eq_none_iff {plan : Dict Uid TerminationWarning}
    (hwhole : WarnedWhole p.stamps) :
    terminationWarningPatch texts plan p = none ↔
      (∀ w, plan.get? p.pod.uid = some w → ∀ message, texts.messageOf w = some message →
        WarnedAs texts p.stamps w message) ∧
        (plan.get? p.pod.uid = none → p.stamps.terminationWarningAt = none ∧
          p.stamps.terminationWarningRisk = none ∧ p.stamps.terminationWarningMessage = none) := by
  unfold terminationWarningPatch
  cases plan.get? p.pod.uid with
  | some w =>
    cases hmessage : texts.messageOf w with
    | none => simp [hmessage]
    | some message => simp [hmessage, ← unchanged_read_iff]
  | none =>
    have hcarries := carriesWarning_read (p := p)
    rcases hwhole with ⟨hat, -, -⟩ | ⟨hat, hrisk, hmessage⟩
    · have hat' : p.stamps.terminationWarningAt ≠ none := Option.isSome_iff_ne_none.mp hat
      simp [hcarries.mpr (.inl hat), hat']
    · have hnone : p.read.carriesWarning = false := by
        rw [← Bool.not_eq_true, hcarries, hat, hrisk]
        simp
      simp [hnone, hat, hrisk, hmessage]

lemma guaranteeStatusPatch_eq_some {plan : Dict Uid GuaranteeStatus} {patch : Patch}
    (h : guaranteeStatusPatch plan p = some patch) : ∃ g, plan.get? p.pod.uid = some g ∧ DatedStatus g ∧
      patch = .guaranteeStatus g.status g.guaranteedUntil := by
  unfold guaranteeStatusPatch at h
  cases hg : plan.get? p.pod.uid with
  | none =>
    rw [hg] at h
    cases h
  | some g =>
    rw [hg] at h
    dsimp only at h
    refine ⟨g, rfl, ?_⟩
    split at h
    · rename_i t ht
      split at h
      · cases h
      · rename_i hdated
        split at h
        · cases h
        · cases h
          exact ⟨fun t' ht' => Option.some.inj (ht.symm.trans ht') ▸ not_not.mp hdated, by rw [ht]⟩
    · rename_i hnone
      split at h
      · cases h
      · cases h
        exact ⟨fun t ht => absurd (hnone.symm.trans ht) (Option.some_ne_none t).symm, by rw [hnone]⟩

lemma reservationFactsPatch_eq_some {plan : Dict Nat ReservationResponse} {patch : Patch}
    (h : reservationFactsPatch plan p = some patch) : ∃ res,
      p.pod.bookingReference.bind plan.get? = some res ∧
        patch = .reservationFacts (reservationFacts res) := by
  unfold reservationFactsPatch at h
  cases hres : p.pod.bookingReference.bind plan.get? with
  | none =>
    rw [hres] at h
    cases h
  | some res =>
    rw [hres] at h
    dsimp only at h
    split at h <;> cases h
    exact ⟨res, rfl, rfl⟩

lemma terminationWarningPatch_eq_some {plan : Dict Uid TerminationWarning} {patch : Patch}
    (h : terminationWarningPatch texts plan p = some patch) :
    (∃ w message, plan.get? p.pod.uid = some w ∧ texts.messageOf w = some message ∧
        patch = .terminationWarning w.terminateAt (texts.risk w.risk) message) ∨
      (plan.get? p.pod.uid = none ∧ patch = .clearTerminationWarning) := by
  unfold terminationWarningPatch at h
  cases hw : plan.get? p.pod.uid with
  | none =>
    rw [hw] at h
    dsimp only at h
    split at h <;> cases h
    exact .inr ⟨rfl, rfl⟩
  | some w =>
    rw [hw] at h
    dsimp only at h
    cases hmessage : texts.messageOf w with
    | none =>
      rw [hmessage] at h
      cases h
    | some message =>
      rw [hmessage] at h
      dsimp only at h
      split at h <;> cases h
      exact .inl ⟨w, message, rfl, hmessage, rfl⟩

lemma patches_eq_nil : plans.patches texts p = [] ↔
    guaranteeStatusPatch plans.statusPlan p = none ∧ reservationFactsPatch plans.factsPlan p = none ∧
      terminationWarningPatch texts plans.warnPlan p = none := by
  have hnil : ∀ o : Option Patch, o.toList = [] ↔ o = none := fun o => by cases o <;> simp
  unfold StampPlans.patches
  rw [List.append_eq_nil_iff, List.append_eq_nil_iff, hnil, hnil, hnil, and_assoc]

/-- A pod is not patched exactly if it carries what is planned. -/
lemma patches_eq_nil_iff (hwhole : WarnedWhole p.stamps) (hwritable : Writable plans texts p) :
    plans.patches texts p = [] ↔ AsPlanned plans texts p := by
  rw [patches_eq_nil, guaranteeStatusPatch_eq_none_iff, reservationFactsPatch_eq_none_iff,
    terminationWarningPatch_eq_none_iff hwhole]
  constructor
  · rintro ⟨hstatus, hfacts, hwarned, hcleared⟩
    refine ⟨fun g hg => ⟨hwritable.status g hg, hstatus g hg (hwritable.status g hg)⟩, hfacts,
      fun w hw => ?_, hcleared⟩
    obtain ⟨message, hmessage⟩ := hwritable.warned w hw
    exact ⟨message, hmessage, hwarned w hw message hmessage⟩
  · rintro ⟨hstatus, hfacts, hwarned, hcleared⟩
    refine ⟨fun g hg _ => (hstatus g hg).2, hfacts, fun w hw message hmessage => ?_, hcleared⟩
    obtain ⟨message', hmessage', hcarried⟩ := hwarned w hw
    cases hmessage.symm.trans hmessage'
    exact hcarried

/-- A patch of a pod's warning as it is carried out; whether some pod may still carry a warning. -/
def carryOutWarning (outstanding : Bool) (p : Pod) : Option Patch → Ctl Bool
  | some (.terminationWarning terminateAt risk message) => do
    let written ← call (.annotateTerminationWarning p.uid p.ns p.name terminateAt risk message)
    return outstanding || !written
  | some .clearTerminationWarning => do
    let cleared ← call (.clearTerminationWarning p.uid p.ns p.name)
    return outstanding || !cleared
  | _ => return outstanding

/-- The sweep patches the pods it does not doom, and those only; where a message cannot be written, some pod
may still carry another. -/
lemma applyTerminationWarning_read {plan : Dict Uid TerminationWarning} {doomed : List Uid}
    (h : p.pod.uid ∉ doomed) (outstanding : Bool) :
    applyTerminationWarning texts plan doomed outstanding p.read =
      carryOutWarning (outstanding || (plan.get? p.pod.uid).any fun w => (texts.messageOf w).isNone) p.read
        (terminationWarningPatch texts plan p) := by
  have hread : p.read.uid ∉ doomed := h
  unfold applyTerminationWarning terminationWarningPatch
  rw [if_neg hread]
  have hget : plan.get? p.read.uid = plan.get? p.pod.uid := rfl
  rw [hget]
  cases plan.get? p.pod.uid with
  | none =>
    rw [Option.any_none, Bool.or_false]
    dsimp only
    split <;> rfl
  | some w =>
    rw [Option.any_some]
    dsimp only
    cases texts.messageOf w with
    | none =>
      rw [Option.isNone_none, Bool.or_true]
      rfl
    | some message =>
      rw [Option.isNone_some, Bool.or_false]
      dsimp only
      split <;> rfl

end Quiet

section Stamped

/-- The stamps once a reconciler is done with the pod. -/
def applied (stamps : PodStamps) (patch : Option Patch) : PodStamps :=
  patch.toList.foldl PodStamps.patched stamps

/-- The stamps that one of the reconcilers writes; the others leave them as they are. -/
def standing (stamps : PodStamps) : Option String × Option TimeText :=
  (stamps.guaranteeStatus, stamps.guaranteedUntil)

def factStamps (stamps : PodStamps) :
    Option String × Option TimeText × Option TimeText × Option String × Option String :=
  (stamps.reservationKind, stamps.reservationStart, stamps.reservationEnd,
    stamps.reservationGpuCount, stamps.gpuClassName)

def warningStamps (stamps : PodStamps) : Option TimeText × Option String × Option String :=
  (stamps.terminationWarningAt, stamps.terminationWarningRisk, stamps.terminationWarningMessage)

variable (plans : StampPlans) (texts : WarningTexts) (p : StampedPod)

lemma stamp_stamps : (plans.stamp texts p).stamps =
    applied (applied (applied p.stamps (guaranteeStatusPatch plans.statusPlan p))
      (reservationFactsPatch plans.factsPlan p)) (terminationWarningPatch texts plans.warnPlan p) := by
  unfold StampPlans.stamp StampPlans.patches applied
  rw [List.foldl_append, List.foldl_append]

lemma factStamps_applied_guaranteeStatus (stamps : PodStamps) (plan : Dict Uid GuaranteeStatus) :
    factStamps (applied stamps (guaranteeStatusPatch plan p)) = factStamps stamps := by
  unfold guaranteeStatusPatch
  repeat' split
  all_goals rfl

lemma warningStamps_applied_guaranteeStatus (stamps : PodStamps) (plan : Dict Uid GuaranteeStatus) :
    warningStamps (applied stamps (guaranteeStatusPatch plan p)) = warningStamps stamps := by
  unfold guaranteeStatusPatch
  repeat' split
  all_goals rfl

lemma standing_applied_reservationFacts (stamps : PodStamps) (plan : Dict Nat ReservationResponse) :
    standing (applied stamps (reservationFactsPatch plan p)) = standing stamps := by
  unfold reservationFactsPatch
  repeat' split
  all_goals rfl

lemma warningStamps_applied_reservationFacts (stamps : PodStamps) (plan : Dict Nat ReservationResponse) :
    warningStamps (applied stamps (reservationFactsPatch plan p)) = warningStamps stamps := by
  unfold reservationFactsPatch
  repeat' split
  all_goals rfl

lemma standing_applied_terminationWarning (stamps : PodStamps) (plan : Dict Uid TerminationWarning) :
    standing (applied stamps (terminationWarningPatch texts plan p)) = standing stamps := by
  unfold terminationWarningPatch
  repeat' split
  all_goals rfl

lemma factStamps_applied_terminationWarning (stamps : PodStamps) (plan : Dict Uid TerminationWarning) :
    factStamps (applied stamps (terminationWarningPatch texts plan p)) = factStamps stamps := by
  unfold terminationWarningPatch
  repeat' split
  all_goals rfl

/-- The status reconciler leaves the status which is planned, where it can be written. -/
lemma status_applied {g : GuaranteeStatus} (hg : plans.statusPlan.get? p.pod.uid = some g)
    (hdated : DatedStatus g) : StatusAs (plans.stamp texts p).stamps g := by
  have hstanding : standing (plans.stamp texts p).stamps =
      standing (applied p.stamps (guaranteeStatusPatch plans.statusPlan p)) := by
    rw [stamp_stamps, standing_applied_terminationWarning, standing_applied_reservationFacts]
  obtain ⟨hstatus, huntil⟩ := Prod.mk.inj hstanding
  suffices h : StatusAs (applied p.stamps (guaranteeStatusPatch plans.statusPlan p)) g from
    ⟨hstatus.trans h.status, fun t ht => huntil.trans (h.guaranteedUntil t ht)⟩
  cases hpatch : guaranteeStatusPatch plans.statusPlan p with
  | none => exact guaranteeStatusPatch_eq_none_iff.mp hpatch g hg hdated
  | some patch =>
    obtain ⟨g', hg', -, rfl⟩ := guaranteeStatusPatch_eq_some hpatch
    obtain rfl := Option.some.inj (hg.symm.trans hg')
    cases ht : g.guaranteedUntil with
    | none => exact ⟨rfl, fun t ht' => absurd (ht.symm.trans ht') (Option.some_ne_none t).symm⟩
    | some t => exact ⟨rfl, fun t' ht' => by rw [Option.some.inj (ht'.symm.trans ht)]; rfl⟩

lemma carried_eq (facts : ReservationFacts) (stamps : PodStamps) :
    facts.carried stamps = true ↔ factStamps stamps = (some facts.kind, some (utcText facts.startUtc),
      some (utcText facts.endUtc), some (toString facts.gpuCount), some facts.gpuClassName) := by
  simp [ReservationFacts.carried, factStamps, and_assoc]

/-- The facts reconciler leaves the facts which are planned. -/
lemma facts_applied {res : ReservationResponse}
    (hres : p.pod.bookingReference.bind plans.factsPlan.get? = some res) :
    (reservationFacts res).carried (plans.stamp texts p).stamps = true := by
  rw [carried_eq, stamp_stamps, factStamps_applied_terminationWarning]
  cases hpatch : reservationFactsPatch plans.factsPlan p with
  | none =>
    have hcarried := reservationFactsPatch_eq_none_iff.mp hpatch res hres
    rw [carried_eq] at hcarried
    exact (factStamps_applied_guaranteeStatus p p.stamps plans.statusPlan).trans hcarried
  | some patch =>
    obtain ⟨res', hres', rfl⟩ := reservationFactsPatch_eq_some hpatch
    obtain rfl := Option.some.inj (hres.symm.trans hres')
    rfl

lemma warningStamps_stamp : warningStamps (plans.stamp texts p).stamps =
    warningStamps (applied p.stamps (terminationWarningPatch texts plans.warnPlan p)) := by
  have hbefore : ∀ stamps, warningStamps stamps = warningStamps p.stamps →
      ∀ patch, terminationWarningPatch texts plans.warnPlan p = patch →
        warningStamps (applied stamps patch) = warningStamps (applied p.stamps patch) := by
    intro stamps hsame patch hpatch
    cases patch with
    | none => exact hsame
    | some patch =>
      rcases terminationWarningPatch_eq_some hpatch with ⟨w, message, -, -, rfl⟩ | ⟨-, rfl⟩ <;> rfl
  rw [stamp_stamps]
  refine hbefore _ ?_ _ rfl
  rw [warningStamps_applied_reservationFacts, warningStamps_applied_guaranteeStatus]

/-- Whatever was carried before, the warning reconciler leaves nothing to patch. -/
lemma terminationWarningPatch_stamp :
    terminationWarningPatch texts plans.warnPlan (plans.stamp texts p) = none := by
  have hstamp := warningStamps_stamp plans texts p
  simp only [warningStamps, Prod.mk.injEq] at hstamp
  have huid : (plans.stamp texts p).pod.uid = p.pod.uid := rfl
  rw [terminationWarningPatch, huid]
  rw [terminationWarningPatch] at hstamp
  cases hplan : plans.warnPlan.get? p.pod.uid with
  | none =>
    rw [hplan] at hstamp
    refine if_neg ?_
    rw [carriesWarning_read, hstamp.1, hstamp.2.1]
    dsimp only
    by_cases hcarries : p.read.carriesWarning
    · rw [if_pos hcarries]
      simp [applied, PodStamps.patched]
    · rw [if_neg hcarries]
      rwa [carriesWarning_read] at hcarries
  | some desired =>
    rw [hplan] at hstamp
    dsimp only at hstamp ⊢
    cases hmessage : texts.messageOf desired with
    | none => rfl
    | some message =>
      rw [hmessage] at hstamp
      dsimp only at hstamp ⊢
      refine if_pos (unchanged_read_iff.mpr ?_)
      by_cases hsame : texts.unchanged p.read desired message
      · rw [if_pos hsame] at hstamp
        have hcarried := unchanged_read_iff.mp hsame
        exact ⟨hstamp.1.trans hcarried.deadline, hstamp.2.1.trans hcarried.risk,
          hstamp.2.2.trans hcarried.message⟩
      · rw [if_neg hsame] at hstamp
        exact ⟨hstamp.1, hstamp.2.1, hstamp.2.2⟩

/-- The stamps of a warning. -/
def writtenWarning (w : TerminationWarning) : Option TimeText × Option String × Option String :=
  (some (utcText w.terminateAt), some (texts.risk w.risk), texts.messageOf w)

/-- The warning reconciler leaves the warning which is planned, and otherwise none. -/
lemma warning_applied (hwhole : WarnedWhole p.stamps) (hwritable : Writable plans texts p) :
    warningStamps (plans.stamp texts p).stamps =
      (plans.warnPlan.get? p.pod.uid).elim (none, none, none) (writtenWarning texts) := by
  rw [warningStamps_stamp]
  cases hpatch : terminationWarningPatch texts plans.warnPlan p with
  | none =>
    obtain ⟨hwarned, hcleared⟩ := (terminationWarningPatch_eq_none_iff hwhole).mp hpatch
    cases hplan : plans.warnPlan.get? p.pod.uid with
    | none =>
      obtain ⟨hat, hrisk, hmessage⟩ := hcleared hplan
      simp [applied, warningStamps, hat, hrisk, hmessage]
    | some w =>
      obtain ⟨message, hmessage⟩ := hwritable.warned w hplan
      obtain ⟨hat, hrisk, hcarried⟩ := hwarned w hplan message hmessage
      simp [applied, warningStamps, writtenWarning, hat, hrisk, hcarried, hmessage]
  | some patch =>
    rcases terminationWarningPatch_eq_some hpatch with ⟨w, message, hplan, hmessage, rfl⟩ | ⟨hplan, rfl⟩
    · simp [applied, PodStamps.patched, warningStamps, writtenWarning, hplan, hmessage]
    · simp [applied, PodStamps.patched, warningStamps, hplan]

/-- After the pass the pod carries what was planned. -/
lemma asPlanned_stamp (hwhole : WarnedWhole p.stamps) (hwritable : Writable plans texts p) :
    AsPlanned plans texts (plans.stamp texts p) := by
  have hwarning := warning_applied plans texts p hwhole hwritable
  refine ⟨fun g hg => ⟨hwritable.status g hg, status_applied plans texts p hg (hwritable.status g hg)⟩,
    fun res hres => facts_applied plans texts p hres, fun w hw => ?_, fun hnone => ?_⟩
  · change plans.warnPlan.get? p.pod.uid = some w at hw
    obtain ⟨message, hmessage⟩ := hwritable.warned w hw
    rw [hw, Option.elim_some, writtenWarning, hmessage] at hwarning
    obtain ⟨hat, hrest⟩ := Prod.mk.inj hwarning
    obtain ⟨hrisk, hwritten⟩ := Prod.mk.inj hrest
    exact ⟨message, hmessage, hat, hrisk, hwritten⟩
  · change plans.warnPlan.get? p.pod.uid = none at hnone
    rw [hnone] at hwarning
    simpa [warningStamps] using hwarning

lemma warnedWhole_stamp (hwhole : WarnedWhole p.stamps) (hwritable : Writable plans texts p) :
    WarnedWhole (plans.stamp texts p).stamps := by
  obtain ⟨-, -, hwarned, hcleared⟩ := asPlanned_stamp plans texts p hwhole hwritable
  cases hplan : plans.warnPlan.get? (plans.stamp texts p).pod.uid with
  | none => exact .inr (hcleared hplan)
  | some w =>
    obtain ⟨message, -, hat, hrisk, hmessage⟩ := hwarned w hplan
    refine .inl ?_
    rw [hat, hrisk, hmessage]
    exact ⟨rfl, rfl, rfl⟩

end Stamped

end GpuReservation.Proofs
