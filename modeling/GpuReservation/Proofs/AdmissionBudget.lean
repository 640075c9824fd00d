import GpuReservation.Library.RelyGuarantee
import GpuReservation.Proofs.Frames
import GpuReservation.Proofs.Occupancy
import GpuReservation.Proofs.WorldHistory

/-!
# The budget of a reservation under concurrent admission

Any number of attempts to admit pods under one reservation, with releases of pods which are gone.
-/

namespace GpuReservation.Proofs

open GpuReservation.Library GpuReservation.Model

inductive AdmissionTask
  | attempt (uid : Uid) (ref : Ref) (gateName : Option String)
  | release (uid : Uid)
  deriving DecidableEq

def admissionTask : AdmissionTask → Ctl Unit
  | .attempt uid ref gateName => do
    let _ ← tryApplyToleration uid ref gateName
    return ()
  | .release uid => Prog.modify fun s => s.releasePod uid

abbrev AdmissionPool := Pool ControllerState World Request Answer AdmissionTask

abbrev AdmissionMove := Move AdmissionTask Choice WorldEvent

def admissionStep : AdmissionPool → AdmissionMove → AdmissionPool :=
  step runtime admissionTask outside

def admissionRun : AdmissionPool → List AdmissionMove → AdmissionPool :=
  runMoves runtime admissionTask outside

section Statement

variable (r : ReservationResponse) (gpus : Uid → Nat)

/-- A live pod whose toleration patch landed under the reservation. -/
def admittedUnder (w : World) (p : Pod) : Bool :=
  !p.phase.isTerminal && w.landed.get? p.uid = some r.id

def admittedGpus (w : World) : Nat :=
  ((w.pods.values.filter (admittedUnder r w)).map (·.gpuCount)).sum

/-- What is recorded on the reservation is within it. -/
structure RecordsRight (σ : Snap ControllerState World) : Prop where
  cluster : ClusterWf σ.world
  counts : ∀ k p, σ.world.pods.get? k = some p → p.gpuCount = gpus p.uid
  recorded : ∀ uid g, (σ.shared.bucket r.id).get? uid = some g → g = gpus uid
  within : (σ.shared.bucket r.id).total ≤ r.gpuCount

/-- Each pod admitted under the reservation is recorded on it too. -/
structure OccupancyRight (σ : Snap ControllerState World) : Prop extends
    RecordsRight r gpus σ where
  held : ∀ k p, σ.world.pods.get? k = some p → admittedUnder r σ.world p →
    p.uid ∈ σ.shared.bucket r.id

def entryFor (uid : Uid) (ref : Ref) (s : ControllerState) : Bool :=
  (s.entry ref).reservation = r && (s.entry ref).gpuRequested = gpus uid

/-- The steps the reservation is subject to: attempts with an entry for it, releases of pods which
are gone. -/
def admissionLawful (p : AdmissionPool) : AdmissionMove → Bool
  | .spawn (.attempt uid ref _) => entryFor r gpus uid ref p.snap.shared
  | .run i _ =>
    match p.tasks[i]? with
    | some (.release uid, _) => Gone p.snap.world uid
    | _ => true
  | .event (.podCreated pod) => pod.gpuCount = gpus pod.uid
  | _ => true

def AdmissionTask.attempts (uid : Uid) : AdmissionTask → Bool
  | .attempt u _ _ => u = uid
  | .release _ => false

/-- Another attempt on the pod is in flight. -/
def otherAttempt (p : AdmissionPool) (i : Nat) (uid : Uid) : Bool :=
  p.tasks.zipIdx.any fun t => t.2 ≠ i && t.1.1.attempts uid && !t.1.2.isFinished

/-- An attempt does not take back the record of a pod which is admitted, or on which another
attempt is in flight; and a patch lands on the pod it was made for. -/
def admissionUndisturbed (p : AdmissionPool) : AdmissionMove → Bool
  | .run i cs =>
    match p.tasks[i]? with
    | some (.attempt uid _ _, _) =>
      uid ∉ p.snap.shared.bucket r.id ||
        uid ∈ (admissionStep p (.run i cs)).snap.shared.bucket r.id ||
        decide (Gone p.snap.world uid) ||
        (!p.snap.world.pods.values.any (fun q => q.uid = uid && admittedUnder r p.snap.world q) &&
          !otherAttempt p i uid)
    | _ => true
  | .serve i _ =>
    match p.tasks[i]? with
    | some (_, .waiting (.applyToleration judged ns name _ _ _ _) _) =>
      (p.snap.world.pods.get? (ns, name)).all (·.uid = judged)
    | _ => true
  | _ => true

end Statement

section Invariant

variable {r : ReservationResponse} {gpus : Uid → Nat}

lemma nodup_uids {w : World} (hw : ClusterWf w) : (w.pods.values.map (·.uid)).Nodup := by
  rw [Dict.values, List.map_map]
  refine List.Nodup.map_on ?_ w.pods.nodup.of_map
  rintro ⟨k, p⟩ hp ⟨k', p'⟩ hp' huid
  have hk := Dict.get?_eq_some_iff.mpr hp
  have hk' := Dict.get?_eq_some_iff.mpr hp'
  obtain rfl := hw.uid_inj hk hk' huid
  rw [hk, Option.some.injEq] at hk'
  rw [hk']

/-- Pods which are all recorded with their GPUs ask for no more than is recorded. -/
theorem admittedGpus_le {σ : Snap ControllerState World} (h : OccupancyRight r gpus σ) :
    admittedGpus r σ.world ≤ r.gpuCount := by
  have hsum : admittedGpus r σ.world =
      (((σ.world.pods.values.filter (admittedUnder r σ.world)).map (·.uid)).map gpus).sum := by
    rw [admittedGpus, List.map_map]
    congr 1
    refine List.map_congr_left fun p hp => ?_
    obtain ⟨k, hk⟩ := Dict.mem_values_iff.mp (List.mem_filter.mp hp).1
    exact h.counts k p hk
  rw [hsum]
  refine le_trans (Dict.sum_le_total (d := σ.shared.bucket r.id) ?_ ?_) h.within
  · exact (nodup_uids h.cluster).sublist (List.filter_sublist.map _)
  · intro uid hu
    obtain ⟨p, hp, rfl⟩ := List.mem_map.mp hu
    obtain ⟨hmem, hadm⟩ := List.mem_filter.mp hp
    obtain ⟨k, hk⟩ := Dict.mem_values_iff.mp hmem
    obtain ⟨g, hg⟩ := Dict.mem_iff_get?.mp (h.held k p hk hadm)
    rw [hg, h.recorded _ _ hg]

/-- The pod is recorded, or is gone. -/
def Held (r : ReservationResponse) (uid : Uid) (σ : Snap ControllerState World) : Prop :=
  uid ∈ σ.shared.bucket r.id ∨ Gone σ.world uid

def AdmissionTask.uid : AdmissionTask → Uid
  | .attempt uid _ _ => uid
  | .release uid => uid

/-- What a step of an attempt on a pod, or of its release, leaves alone. -/
structure AdmissionGuar (r : ReservationResponse) (gpus : Uid → Nat) (uid : Uid)
    (σ σ' : Snap ControllerState World) : Prop where
  entries : ∀ u ref, entryFor r gpus u ref σ.shared → entryFor r gpus u ref σ'.shared
  others : ∀ u, u ≠ uid → u ∈ σ.shared.bucket r.id → u ∈ σ'.shared.bucket r.id
  later : Later σ.world σ'.world

lemma AdmissionGuar.refl (uid : Uid) (σ : Snap ControllerState World) :
    AdmissionGuar r gpus uid σ σ :=
  ⟨fun _ _ h => h, fun _ _ h => h, .refl _⟩

lemma AdmissionGuar.trans {uid : Uid} {σ₁ σ₂ σ₃ : Snap ControllerState World}
    (h₁ : AdmissionGuar r gpus uid σ₁ σ₂) (h₂ : AdmissionGuar r gpus uid σ₂ σ₃) :
    AdmissionGuar r gpus uid σ₁ σ₃ :=
  ⟨fun u ref h => h₂.entries u ref (h₁.entries u ref h),
    fun u hu h => h₂.others u hu (h₁.others u hu h), h₁.later.trans h₂.later⟩

/-- A patch is sent for a pod which is recorded, or gone. -/
def sentHeld (r : ReservationResponse) (q : Request) (σ : Snap ControllerState World) : Prop :=
  match q with
  | .applyToleration judged _ _ _ _ _ _ => Held r judged σ
  | _ => True

variable (r gpus) in
/-- An attempt relies on its entry and on its record; a release relies on nothing. -/
def budgetContract (l : AdmissionTask) (_ : Nat) :
    Contract ControllerState World Request Choice where
  rely σ σ' := ∀ uid, l.attempts uid →
    (∀ ref, entryFor r gpus uid ref σ.shared → entryFor r gpus uid ref σ'.shared) ∧
      (Held r uid σ → Held r uid σ')
  guar := AdmissionGuar r gpus l.uid
  issued _ _ := True
  served := sentHeld r
  assumed _ _ _ := True
  ended _ := True
  rely_refl _ := fun _ _ => ⟨fun _ h => h, fun h => h⟩
  rely_trans h₁ h₂ := fun uid hu =>
    ⟨fun ref h => (h₂ uid hu).1 ref ((h₁ uid hu).1 ref h), fun h => (h₂ uid hu).2 ((h₁ uid hu).2 h)⟩
  guar_refl := .refl l.uid
  guar_trans := .trans

lemma RecordsRight.answer {σ : Snap ControllerState World} (h : RecordsRight r gpus σ) {task : Nat}
    {q : Request} {ch : Choice} {a : Answer q} {w : World}
    (hans : answer task q ch σ.world = some (a, w)) :
    RecordsRight r gpus { σ with world := w } := by
  refine ⟨answer_clusterWf hans h.cluster, fun k p' hp' => ?_, h.recorded, h.within⟩
  obtain ⟨p, hp, hs⟩ := answer_pods hans hp'
  rw [hs.gpuCount, hs.uid]
  exact h.counts k p hp

lemma Held.answer {σ : Snap ControllerState World} {uid : Uid} (h : Held r uid σ) {task : Nat}
    {q : Request} {ch : Choice} {a : Answer q} {w : World}
    (hans : Model.answer task q ch σ.world = some (a, w)) : Held r uid { σ with world := w } :=
  h.imp_right fun hg => (answer_later hans).gone uid hg

section Attempt

variable {uid : Uid} {ref : Ref} {gateName : Option String} {i : Nat}

/-- Where an attempt stands: it has its entry, and, once it has recorded the pod, the record. -/
def attempting (r : ReservationResponse) (gpus : Uid → Nat) (uid : Uid) (ref : Ref)
    (recorded : Prop) (σ : Snap ControllerState World) : Prop :=
  entryFor r gpus uid ref σ.shared ∧ (recorded → Held r uid σ)

lemma attempting_stable (recorded : Prop) :
    Stable (budgetContract r gpus (.attempt uid ref gateName) i)
      (attempting r gpus uid ref recorded) := by
  intro σ σ' hr h
  obtain ⟨hentry, hheld⟩ := hr uid (by simp [AdmissionTask.attempts])
  exact ⟨hentry ref h.1, fun hrec => hheld (h.2 hrec)⟩

/-- A call, whatever its answer, leaves an attempt where it stands. -/
lemma attempt_call {recorded : Prop} (q : Request)
    (hq : ∀ σ, attempting r gpus uid ref recorded σ → sentHeld r q σ) :
    Triple runtime (RecordsRight r gpus) (budgetContract r gpus (.attempt uid ref gateName) i) i
      (attempting r gpus uid ref recorded) (call q)
      fun _ => attempting r gpus uid ref recorded := by
  have hstep : ∀ σ, RecordsRight r gpus σ → attempting r gpus uid ref recorded σ →
      ∀ c a w, answer i q c σ.world = some (a, w) →
        AdmissionGuar r gpus uid σ { σ with world := w } ∧
          RecordsRight r gpus { σ with world := w } ∧
            attempting r gpus uid ref recorded { σ with world := w } := by
    intro σ hI hP c a w hans
    exact ⟨⟨fun _ _ h => h, fun _ _ h => h, answer_later hans⟩, hI.answer hans,
      hP.1, fun hrec => (hP.2 hrec).answer hans⟩
  by_cases hy : yields q
  · exact .ask hy (attempting_stable recorded) (fun _ => attempting_stable recorded)
      (fun _ _ _ => trivial) fun σ hI hP => ⟨hq σ hP, fun c a w _ => hstep σ hI hP c a w⟩
  · have hsync : runtime.yields q = false := eq_false_of_ne_true hy
    refine .ask_sync hsync fun σ hI hP c => ?_
    obtain ⟨a, w, hans⟩ := answer_of_sync i (eq_false_of_ne_true hy) c σ.world
    exact ⟨a, w, hans, hstep σ hI hP c a w hans⟩

/-- A change which concerns neither the entries nor the occupancy. -/
lemma attempt_modify {recorded : Prop} {f : ControllerState → ControllerState}
    (hentry : ∀ s u ref, entryFor r gpus u ref s → entryFor r gpus u ref (f s))
    (hbucket : ∀ s, (f s).bucket r.id = s.bucket r.id) :
    Triple runtime (RecordsRight r gpus) (budgetContract r gpus (.attempt uid ref gateName) i) i
      (attempting r gpus uid ref recorded) (Prog.modify f)
      fun _ => attempting r gpus uid ref recorded := by
  refine .modify fun σ hI hP => ⟨⟨fun u ref => hentry σ.shared u ref, fun u _ hu => ?_, .refl _⟩,
    ⟨hI.cluster, hI.counts, ?_, ?_⟩, hentry _ _ _ hP.1, fun hrec => (hP.2 hrec).imp_left fun hu => ?_⟩
  · exact (hbucket σ.shared).symm ▸ hu
  · simpa only [hbucket] using hI.recorded
  · simpa only [hbucket] using hI.within
  · exact (hbucket σ.shared).symm ▸ hu

/-- A release leaves the other pods' records, and all the entries. -/
lemma release_keeps {σ : Snap ControllerState World} (h : RecordsRight r gpus σ) (uid : Uid) :
    AdmissionGuar r gpus uid σ { σ with shared := σ.shared.releasePod uid } ∧
      RecordsRight r gpus { σ with shared := σ.shared.releasePod uid } := by
  refine ⟨⟨fun u ref hu => ?_, fun u hne hu => ?_, .refl _⟩, h.cluster, h.counts,
    fun u g hg => h.recorded u g (bucket_releasePod_get?_sub _ hg),
    (total_bucket_releasePod_le _ uid r.id).trans h.within⟩
  · simpa only [entryFor, entry_releasePod] using hu
  · rw [Dict.mem_iff_get?] at hu ⊢
    rw [bucket_releasePod_get?_of_ne _ hne]
    exact hu

lemma attempt_release {recorded : Prop} :
    Triple runtime (RecordsRight r gpus) (budgetContract r gpus (.attempt uid ref gateName) i) i
      (attempting r gpus uid ref recorded) (Prog.modify fun s => s.releasePod uid)
      fun _ => attempting r gpus uid ref False := by
  refine .modify fun σ hI hP => ?_
  obtain ⟨hg, hI'⟩ := release_keeps hI uid
  exact ⟨hg, hI', hg.entries uid ref hP.1, False.elim⟩

lemma postponeEntry_attempt {recorded : Prop} :
    Triple runtime (RecordsRight r gpus) (budgetContract r gpus (.attempt uid ref gateName) i) i
      (attempting r gpus uid ref recorded) (postponeEntry ref)
      fun _ => attempting r gpus uid ref recorded := by
  refine .bind (attempt_call .now fun _ _ => trivial) fun now => ?_
  refine .bind (R := fun _ => attempting r gpus uid ref recorded) ?_ fun at_ =>
    attempt_modify (fun s u ref' hu => ?_) fun s => rfl
  · exact .bind (attempt_call (.randint 120 300) fun _ _ => trivial) fun delay =>
      .pure fun _ _ hP => hP
  · have hres := entry_modifyEntry_field s (·.reservation) (f := fun e =>
      { e with nextAttemptAt := at_ }) (fun _ => rfl) ref ref'
    have hgpus := entry_modifyEntry_field s (·.gpuRequested) (f := fun e =>
      { e with nextAttemptAt := at_ }) (fun _ => rfl) ref ref'
    simp only [entryFor, hres, hgpus] at hu ⊢
    exact hu

lemma rollBack_attempt {recorded : Prop} :
    Triple runtime (RecordsRight r gpus) (budgetContract r gpus (.attempt uid ref gateName) i) i
      (attempting r gpus uid ref recorded) (rollBack uid ref)
      fun _ => attempting r gpus uid ref False :=
  .bind attempt_release fun _ => .bind postponeEntry_attempt fun _ => .pure fun _ _ hP => hP

lemma concludeAdmission_attempt {recorded : Prop} (pod : Pod) :
    Triple runtime (RecordsRight r gpus) (budgetContract r gpus (.attempt uid ref gateName) i) i
      (attempting r gpus uid ref recorded) (concludeAdmission uid ref pod)
      fun _ => attempting r gpus uid ref recorded := by
  refine .bind (attempt_call .now fun _ _ => trivial) fun now =>
    .bind (attempt_modify (fun s u ref' hu => ?_) fun s => ?_) fun _ => .pure fun _ _ hP => hP
  · simpa only [entryFor, entry_noteAdmitted] using hu
  · exact bucket_noteAdmitted s uid _ pod now r.id

lemma recordGuarantee_attempt {recorded : Prop} (u : Uid) (ns name : String)
    (guaranteedUntil : Instant) (reservation : ReservationResponse) (firstAdmission : Bool) :
    Triple runtime (RecordsRight r gpus) (budgetContract r gpus (.attempt uid ref gateName) i) i
      (attempting r gpus uid ref recorded)
      (recordGuarantee u ns name guaranteedUntil reservation firstAdmission)
      fun _ => attempting r gpus uid ref recorded := by
  refine .bind (attempt_call _ fun _ _ => trivial) fun annotated => ?_
  split
  · exact .bind (attempt_call _ fun _ _ => trivial) fun _ => .pure fun _ _ hP => hP
  · exact .pure fun _ _ hP => hP

lemma enforceSchedulingGateRemoval_attempt {recorded : Prop} (ns name : String) (pod : Pod)
    (gate : Option String) :
    Triple runtime (RecordsRight r gpus) (budgetContract r gpus (.attempt uid ref gateName) i) i
      (attempting r gpus uid ref recorded) (enforceSchedulingGateRemoval ns name pod gate)
      fun _ => attempting r gpus uid ref recorded := by
  cases gate with
  | none => exact .pure fun _ _ hP => hP
  | some gate =>
    rw [enforceSchedulingGateRemoval]
    split
    · exact .bind (attempt_call _ fun _ _ => trivial) fun _ => .pure fun _ _ hP => hP
    · exact .pure fun _ _ hP => hP

lemma stampAdmission_attempt {recorded : Prop} (pod : Pod) :
    Triple runtime (RecordsRight r gpus) (budgetContract r gpus (.attempt uid ref gateName) i) i
      (attempting r gpus uid ref recorded) (stampAdmission uid ref pod gateName)
      fun _ => attempting r gpus uid ref recorded := by
  refine .bind (attempt_call .now fun _ _ => trivial) fun now => .get_bind fun s => ?_
  refine .pre ?_ fun _ _ hP => hP.2
  exact .bind (recordGuarantee_attempt _ _ _ _ _ _) fun _ =>
    .bind (enforceSchedulingGateRemoval_attempt _ _ _ _) fun _ => concludeAdmission_attempt pod

/-- A pod which is recorded may be patched; where the patch fails it is no longer recorded. -/
lemma patchFreshPod_attempt (e : QueueEntry) (pod : Pod) :
    Triple runtime (RecordsRight r gpus) (budgetContract r gpus (.attempt uid ref gateName) i) i
      (attempting r gpus uid ref True)
      (patchFreshPod uid ref gateName e pod)
      fun _ => attempting r gpus uid ref False := by
  have hweaken : ∀ σ, attempting r gpus uid ref True σ → attempting r gpus uid ref False σ :=
    fun σ h => ⟨h.1, False.elim⟩
  rw [patchFreshPod]
  split
  · exact .bind attempt_release fun _ => .pure fun _ _ hP => hP
  · split
    · exact (concludeAdmission_attempt pod).mono (fun _ _ hP => hP) fun _ σ => hweaken σ
    · refine .bind (attempt_call _ fun σ hσ => hσ.2 trivial) fun landed => ?_
      split
      · exact (stampAdmission_attempt pod).mono (fun _ _ hP => hP) fun _ σ => hweaken σ
      · exact rollBack_attempt

/-- The record an attempt makes keeps the reservation within its budget. -/
lemma reserveFor_keeps {σ : Snap ControllerState World} (h : RecordsRight r gpus σ)
    (hentry : entryFor r gpus uid ref σ.shared)
    (hfit : ¬ σ.shared.available (σ.shared.entry ref).reservation (some uid) <
      (σ.shared.entry ref).gpuRequested) :
    AdmissionGuar r gpus uid σ
        { σ with shared := σ.shared.reserveFor uid (σ.shared.entry ref) } ∧
      RecordsRight r gpus { σ with shared := σ.shared.reserveFor uid (σ.shared.entry ref) } ∧
        attempting r gpus uid ref True
          { σ with shared := σ.shared.reserveFor uid (σ.shared.entry ref) } := by
  have hr : (σ.shared.entry ref).reservation = r ∧ (σ.shared.entry ref).gpuRequested = gpus uid := by
    simpa [entryFor] using hentry
  rw [hr.1, hr.2, not_lt] at hfit
  have hbucket : (σ.shared.reserveFor uid (σ.shared.entry ref)).bucket r.id =
      (σ.shared.bucket r.id).set uid (gpus uid) := by
    have := bucket_recordPlacement σ.shared r.id uid (gpus uid) r.id
    rw [if_pos rfl] at this
    rw [← this, ControllerState.reserveFor, hr.1, hr.2]
    rfl
  refine ⟨⟨fun u ref' hu => hu, fun u hne hu => ?_, .refl _⟩,
    ⟨h.cluster, h.counts, fun u g hg => ?_, ?_⟩, hentry, fun _ => .inl ?_⟩
  · exact hbucket ▸ Dict.mem_set.mpr (.inr hu)
  · change (ControllerState.bucket _ r.id).get? u = some g at hg
    rw [hbucket, Dict.get?_set] at hg
    split at hg
    · rename_i hu
      cases hg
      exact hu ▸ rfl
    · exact h.recorded u g hg
  · have hle := total_recordPlacement_le σ.shared hfit h.within
    rw [bucket_recordPlacement, if_pos rfl] at hle
    exact hbucket ▸ hle
  · exact hbucket ▸ Dict.mem_set.mpr (.inl rfl)

theorem tryApplyToleration_attempt :
    Triple runtime (RecordsRight r gpus) (budgetContract r gpus (.attempt uid ref gateName) i) i
      (attempting r gpus uid ref False) (tryApplyToleration uid ref gateName)
      fun _ => attempting r gpus uid ref False := by
  refine .get_bind fun s => ?_
  dsimp only
  split
  · exact .bind (R := fun _ => attempting r gpus uid ref False)
      (postponeEntry_attempt.pre fun _ _ hP => hP.2) fun _ => .pure fun _ _ hP => hP
  · rename_i hfit
    refine .modify_bind (M := attempting r gpus uid ref True) ?_ ?_
    · rintro σ hI ⟨rfl, hP⟩
      exact reserveFor_keeps hI hP.1 hfit
    · refine .bind (attempt_call _ fun _ _ => trivial) fun freshPod => ?_
      cases freshPod with
      | none => exact rollBack_attempt
      | some pod => exact patchFreshPod_attempt _ pod

end Attempt

lemma admissionTask_ok {σ : Snap ControllerState World} {l : AdmissionTask} (i : Nat)
    (hl : ∀ uid ref gateName, l = .attempt uid ref gateName → entryFor r gpus uid ref σ.shared) :
    taskOk runtime (RecordsRight r gpus) (budgetContract r gpus l i) i
      (.ready (admissionTask l)) σ := by
  cases l with
  | attempt uid ref gateName =>
    refine taskOk_ready (P := attempting r gpus uid ref False) (attempting_stable False) ?_
      ⟨hl uid ref gateName rfl, False.elim⟩
    exact .bind tryApplyToleration_attempt fun _ => .pure fun _ _ _ => trivial
  | release uid =>
    refine taskOk_ready (P := fun _ => True) (fun _ _ _ _ => trivial) ?_ trivial
    refine .modify fun σ hI _ => ?_
    obtain ⟨hg, hI'⟩ := release_keeps hI uid
    exact ⟨hg, hI', trivial⟩

/-- Tasks in order, and every admitted pod recorded. -/
structure BudgetKept (r : ReservationResponse) (gpus : Uid → Nat) (p : AdmissionPool) : Prop where
  ok : poolOk runtime (RecordsRight r gpus) (budgetContract r gpus) p
  held : ∀ k q, p.snap.world.pods.get? k = some q → admittedUnder r p.snap.world q →
    q.uid ∈ p.snap.shared.bucket r.id

lemma not_gone_of_admitted {w : World} {k : String × String} {q : Pod} (hq : w.pods.get? k = some q)
    (hadm : admittedUnder r w q) : ¬ Gone w q.uid := by
  intro hgone
  have hterm := hgone.2 q (Dict.mem_values_iff.mpr ⟨k, hq⟩) rfl
  simp [admittedUnder, hterm] at hadm

section Step

variable {p : AdmissionPool}

/-- A record which a step takes away is that of a pod which is gone, or of one which is not
admitted and on which no other attempt is in flight. -/
lemma run_takesBack {i : Nat} {cs : List Choice}
    (hp : poolOk runtime (RecordsRight r gpus) (budgetContract r gpus) p)
    (hlawful : admissionLawful r gpus p (.run i cs))
    (hundisturbed : admissionUndisturbed r p (.run i cs)) {uid : Uid}
    (huid : uid ∈ p.snap.shared.bucket r.id) :
    uid ∈ (admissionStep p (.run i cs)).snap.shared.bucket r.id ∨ Gone p.snap.world uid ∨
      (p.snap.world.pods.values.any (fun q => q.uid = uid && admittedUnder r p.snap.world q) =
        false ∧ otherAttempt p i uid = false) := by
  cases hi : p.tasks[i]? with
  | none =>
    refine .inl ?_
    simpa only [admissionStep, step, hi] using huid
  | some lt =>
    obtain ⟨l, t⟩ := lt
    have hguar : AdmissionGuar r gpus l.uid p.snap (admissionStep p (.run i cs)).snap :=
      poolOk_guar hp hi rfl fun _ _ _ h => by cases h
    by_cases hne : uid = l.uid
    · cases l with
      | release u =>
        simp only [admissionLawful, hi, decide_eq_true_eq] at hlawful
        exact .inr (.inl (hne ▸ hlawful))
      | attempt u ref gateName =>
        subst hne
        simp only [admissionUndisturbed, hi] at hundisturbed
        simpa [huid, or_assoc] using hundisturbed
    · exact .inl (hguar.others uid hne huid)

lemma run_held {i : Nat} {cs : List Choice} (hp : BudgetKept r gpus p)
    (hlawful : admissionLawful r gpus p (.run i cs))
    (hundisturbed : admissionUndisturbed r p (.run i cs)) :
    ∀ k q, (admissionStep p (.run i cs)).snap.world.pods.get? k = some q →
      admittedUnder r (admissionStep p (.run i cs)).snap.world q →
        q.uid ∈ (admissionStep p (.run i cs)).snap.shared.bucket r.id := by
  intro k q hq hadm
  have hsame : SameCluster p.snap.world (admissionStep p (.run i cs)).snap.world :=
    step_run_cluster p i cs
  rw [hsame.pods] at hq
  rw [admittedUnder, hsame.landed] at hadm
  rcases run_takesBack hp.ok hlawful hundisturbed (hp.held k q hq hadm) with h | hgone | ⟨hnone, -⟩
  · exact h
  · exact absurd hgone (not_gone_of_admitted hq hadm)
  · rw [List.any_eq_false] at hnone
    exact absurd (by simpa [admittedUnder] using hadm)
      (hnone q (Dict.mem_values_iff.mpr ⟨k, hq⟩))

/-- A patch lands on a pod which is recorded. -/
lemma serve_held {i : Nat} {c : Choice} (hp : BudgetKept r gpus p)
    (hundisturbed : admissionUndisturbed r p (.serve i c)) :
    ∀ k q, (admissionStep p (.serve i c)).snap.world.pods.get? k = some q →
      admittedUnder r (admissionStep p (.serve i c)).snap.world q →
        q.uid ∈ (admissionStep p (.serve i c)).snap.shared.bucket r.id := by
  rw [admissionStep]
  rcases step_serve_cases admissionTask p i c with
    hstep | ⟨l, request, cont, a, w, hi, hans, hstep⟩
  · rw [hstep]
    exact hp.held
  · rw [hstep]
    intro k q hq hadm
    change w.pods.get? k = some q at hq
    change admittedUnder r w q = true at hadm
    change q.uid ∈ p.snap.shared.bucket r.id
    rcases answer_cluster hans with hsame |
      ⟨judged, ns, name, pod, key, value, ref, tols, rfl, rfl⟩ | ⟨judged, ns, name, rfl, rfl⟩
    · rw [hsame.pods] at hq
      rw [admittedUnder, hsame.landed] at hadm
      exact hp.held k q hq hadm
    · rcases patchPod_cases p.snap.world ns name tols ref with heq | ⟨p₀, hp₀, heq⟩
      · rw [heq] at hq hadm
        exact hp.held k q hq hadm
      · rw [heq] at hq hadm
        rw [Dict.get?_set] at hq
        split at hq
        · cases hq
          have huid : p₀.uid = judged := by
            simpa [admissionUndisturbed, hi, hp₀] using hundisturbed
          have hsent : Held r judged p.snap := poolOk_served hp.ok hi
          rcases huid ▸ hsent with hmem | hgone
          · exact hmem
          · have hterm := hgone.2 p₀ (Dict.mem_values_iff.mpr ⟨_, hp₀⟩) rfl
            simp [admittedUnder, hterm] at hadm
        · rename_i hk
          have hne : q.uid ≠ p₀.uid := fun h => hk (hp.ok.1.cluster.uid_inj hq hp₀ h)
          rw [admittedUnder, Dict.get?_set_of_ne _ _ hne] at hadm
          exact hp.held k q hq hadm
    · rcases terminatePod_cases p.snap.world ns name with heq | ⟨p₀, hp₀, heq⟩
      · rw [heq] at hq hadm
        exact hp.held k q hq hadm
      · rw [heq] at hq hadm
        rw [Dict.get?_set] at hq
        split at hq
        · rename_i hk
          cases hq
          exact hp.held k p₀ (hk ▸ hp₀) hadm
        · exact hp.held k q hq hadm

lemma event_held {e : WorldEvent} (hp : BudgetKept r gpus p) :
    ∀ k q, (e.effect p.snap.world).pods.get? k = some q →
      admittedUnder r (e.effect p.snap.world) q → q.uid ∈ p.snap.shared.bucket r.id := by
  intro k q hq hadm
  rcases effect_cluster e p.snap.world with hsame | ⟨pod, -, hnew, -, heq⟩ |
    ⟨k₀, p₀, p₁, hp₀, hs, heq⟩ | ⟨k₀, heq⟩
  · rw [hsame.pods] at hq
    rw [admittedUnder, hsame.landed] at hadm
    exact hp.held k q hq hadm
  · rw [heq] at hq hadm
    rw [Dict.get?_set] at hq
    split at hq
    · cases hq
      -- a new uid has had no patch
      have hlanded : p.snap.world.landed.get? q.uid = none :=
        Dict.get?_eq_none_iff.mpr fun h => hnew (hp.ok.1.cluster.landed _ h)
      simp [admittedUnder, hlanded] at hadm
    · exact hp.held k q hq hadm
  · rw [heq] at hq hadm
    rw [Dict.get?_set] at hq
    split at hq
    · rename_i hk
      cases hq
      have hadm₀ : admittedUnder r p.snap.world p₀ := by
        simp only [admittedUnder, Bool.and_eq_true, Bool.not_eq_true', decide_eq_true_eq,
          hs.uid] at hadm ⊢
        exact ⟨eq_false_of_ne_true fun hterm => by simp [hs.phase hterm] at hadm, hadm.2⟩
      exact hs.uid ▸ hp.held k p₀ (hk ▸ hp₀) hadm₀
    · exact hp.held k q hq hadm
  · rw [heq] at hq hadm
    rw [Dict.get?_erase] at hq
    split at hq
    · cases hq
    · exact hp.held k q hq hadm

/-- What an attempt stands on is left to it by the steps of the other tasks. -/
lemma othersRely_run {i : Nat} {cs : List Choice} {l : AdmissionTask}
    {t : Task ControllerState Request Answer} (hp : BudgetKept r gpus p)
    (hlawful : admissionLawful r gpus p (.run i cs))
    (hundisturbed : admissionUndisturbed r p (.run i cs)) (hi : p.tasks[i]? = some (l, t)) :
    othersRely (budgetContract r gpus) p (.run i cs : AdmissionMove)
      (admissionStep p (.run i cs)).snap := by
  have hguar : AdmissionGuar r gpus l.uid p.snap (admissionStep p (.run i cs)).snap :=
    poolOk_guar hp.ok hi rfl fun _ _ _ h => by cases h
  intro j l' t' hj hfin hij uid huid
  refine ⟨fun ref => hguar.entries uid ref, ?_⟩
  rintro (hmem | hgone)
  · rcases run_takesBack hp.ok hlawful hundisturbed hmem with h | hgone | ⟨-, hother⟩
    · exact .inl h
    · exact .inr (hguar.later.gone uid hgone)
    · rw [otherAttempt, List.any_eq_false] at hother
      have hne : j ≠ i := fun h => hij (by rw [Move.task?, h])
      have hfin' : t'.isFinished = false := by
        cases t' <;> first | rfl | exact absurd rfl hfin
      have := hother (((l', t'), j)) (List.mem_zipIdx_iff_getElem?.mpr hj)
      simp [hne, huid, hfin'] at this
  · exact .inr (hguar.later.gone uid hgone)

lemma RecordsRight.effect {e : WorldEvent} (h : RecordsRight r gpus p.snap)
    (hlawful : admissionLawful r gpus p (.event e)) : RecordsRight r gpus (outside e p.snap) := by
  refine ⟨effect_clusterWf e h.cluster, fun k q hq => ?_, h.recorded, h.within⟩
  change (e.effect p.snap.world).pods.get? k = some q at hq
  rcases effect_cluster e p.snap.world with hsame | ⟨pod, rfl, -, -, heq⟩ |
    ⟨k₀, p₀, p₁, hp₀, hs, heq⟩ | ⟨k₀, heq⟩
  · exact h.counts k q (hsame.pods ▸ hq)
  · rw [heq, Dict.get?_set] at hq
    split at hq
    · cases hq
      simpa [admissionLawful] using hlawful
    · exact h.counts k q hq
  · rw [heq, Dict.get?_set] at hq
    split at hq
    · cases hq
      rw [hs.gpuCount, hs.uid]
      exact h.counts k₀ p₀ hp₀
    · exact h.counts k q hq
  · rw [heq, Dict.get?_erase] at hq
    split at hq
    · cases hq
    · exact h.counts k q hq

/-- One step of a run keeps the budget. -/
theorem admissionStep_budgetKept {m : AdmissionMove} (hp : BudgetKept r gpus p)
    (hlawful : admissionLawful r gpus p m) (hundisturbed : admissionUndisturbed r p m) :
    BudgetKept r gpus (admissionStep p m) := by
  refine ⟨poolOk_step hp.ok ?_ ?_ (fun _ _ _ _ _ _ _ => trivial) ?_, ?_⟩
  · rintro l rfl
    refine admissionTask_ok _ fun uid ref gateName hl => ?_
    subst hl
    exact hlawful
  · intro j l t hm hj hguar _
    cases m with
    | spawn l' => cases hm
    | event e => cases hm
    | run i cs =>
      cases hm
      exact othersRely_run hp hlawful hundisturbed hj
    | serve i c =>
      cases hm
      intro j' l' t' hj' hfin hij uid huid
      rcases step_serve_cases admissionTask p j c with
        hstep | ⟨l₀, request, cont, a, w, hi, hans, hstep⟩
      · rw [hstep]
        exact (budgetContract r gpus l' j').rely_refl _ uid huid
      · rw [hstep]
        exact ⟨fun _ h => h, fun h => h.answer hans⟩
  · rintro e rfl
    refine ⟨hp.ok.1.effect hlawful, fun j l t hj hfin hij uid huid => ⟨fun _ h => h, ?_⟩⟩
    exact fun h => h.imp_right fun hgone => (effect_later e _).gone uid hgone
  · cases m with
    | spawn l => exact hp.held
    | run i cs => exact run_held hp hlawful hundisturbed
    | serve i c => exact serve_held hp hundisturbed
    | event e => exact event_held hp

end Step

end Invariant

/-- From a state in which the reservation's record covers the pods admitted under it, the live pods
whose patch landed under the reservation stay within its GPUs, through any interleaving of
attempts and releases which takes no record back from under a pod. -/
theorem admittedGpus_within_budget (r : ReservationResponse) (gpus : Uid → Nat) (p : AdmissionPool)
    (ms : List AdmissionMove) (hidle : p.tasks = []) (hstart : OccupancyRight r gpus p.snap)
    (hrun : runMeets runtime admissionTask outside
      (fun p m => admissionLawful r gpus p m ∧ admissionUndisturbed r p m) p ms) :
    admittedGpus r (admissionRun p ms).snap.world ≤ r.gpuCount := by
  have hinit : BudgetKept r gpus p :=
    ⟨⟨hstart.toRecordsRight, fun i l t hi => by rw [hidle] at hi; cases hi⟩, hstart.held⟩
  have hend : BudgetKept r gpus (admissionRun p ms) :=
    runMoves_keeps (fun _ _ hp hm => admissionStep_budgetKept hp hm.1 hm.2) hinit hrun
  exact admittedGpus_le ⟨hend.ok.1, hend.held⟩

/-- One GPU, and two pods which each want it. -/
def oneGpu : ReservationResponse where
  id := 1
  gpuClassId := 1
  gpuClass := { id := 1, name := "a" }
  startUtc := 0
  endUtc := 100
  gpuCount := 1

def waiterEntry (uid : Uid) : QueueEntry where
  podUid := uid
  podName := uid
  podNamespace := "ns"
  gpuClassLabel := "a"
  gpuRequested := 1
  reservation := oneGpu
  nextAttemptAt := 0

def waiterPod (uid : Uid) : Pod where
  uid := uid
  ns := "ns"
  name := uid
  gpuClass := "a"
  gpuCount := 1

/-- The two entries are there, and nothing else. -/
def twoWaiters : AdmissionPool where
  snap := { shared := { entries := ⟨[waiterEntry "A", waiterEntry "B"]⟩ }, world := {} }
  tasks := []

lemma twoWaiters_right : OccupancyRight oneGpu (fun _ => 1) twoWaiters.snap where
  cluster := clusterWf_empty
  counts := fun k p hp => by cases hp
  recorded := fun uid g hg => by cases hg
  within := by decide
  held := fun k p hp => by cases hp

/-- The pods are created, and the first of them is read by an attempt on it. -/
def firstAttempt : List AdmissionMove :=
  [.event (.podCreated (waiterPod "A")), .event (.podCreated (waiterPod "B")),
    .spawn (.attempt "A" 0 none), .run 0 [], .serve 0 {}]

theorem admittedGpus_within_budget_firstAttempt :
    admittedGpus oneGpu
      (admissionRun twoWaiters (firstAttempt ++ [.run 0 [], .serve 0 {}])).snap.world ≤ 1 :=
  admittedGpus_within_budget oneGpu (fun _ => 1) twoWaiters _ rfl twoWaiters_right
    (by decide +kernel)

/-- A second attempt on the first pod fails to read it once the first attempt has patched it. -/
def overlappingAttempts : List AdmissionMove :=
  firstAttempt ++
    [.spawn (.attempt "A" 0 none), .run 1 [], .run 0 [], .serve 0 {},
      .serve 1 { outcome := .refused }, .run 1 [],
      .spawn (.attempt "B" 1 none), .run 2 [], .serve 2 {}, .run 2 [], .serve 2 {}]

/-- What the second attempt takes back is the first one's record: both pods get the GPU. -/
theorem admittedGpus_over_budget :
    ¬ ∀ (r : ReservationResponse) (gpus : Uid → Nat) (p : AdmissionPool) (ms : List AdmissionMove),
      p.tasks = [] → OccupancyRight r gpus p.snap →
        (p.snap.shared.bucket r.id).total = admittedGpus r p.snap.world →
          runMeets runtime admissionTask outside
            (fun p m => (admissionLawful r gpus p m : Prop)) p ms →
              admittedGpus r (admissionRun p ms).snap.world ≤ r.gpuCount := by
  intro h
  have hover : admittedGpus oneGpu (admissionRun twoWaiters overlappingAttempts).snap.world = 2 := by
    decide +kernel
  have hle := h oneGpu (fun _ => 1) twoWaiters overlappingAttempts rfl twoWaiters_right
    (by decide) (by decide +kernel)
  rw [hover] at hle
  exact absurd hle (by decide)

end GpuReservation.Proofs
