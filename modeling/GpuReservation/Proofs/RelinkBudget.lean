import GpuReservation.Proofs.AdmissionBudget
import GpuReservation.Proofs.Footprints
import GpuReservation.Proofs.RelinkGuarantee
import Mathlib.Algebra.Order.Group.Nat

/-!
# The budget of a booking under a re-link pass

A pass plans all its re-links at once and makes them one by one, each after two calls.
-/

namespace GpuReservation.Proofs

open GpuReservation.Library GpuReservation.Model

section Plan

variable (s : ControllerState)

/-- The GPUs a plan assigns to a booking. -/
def plannedGpus (rid : Nat) (planned : List (PodRuntimeView × ReservationResponse)) : Nat :=
  ((planned.filter fun q => q.2.id = rid).map fun q => q.1.gpuCount).sum

/-- No other reservation goes by the id of this one. -/
def OnlyOfItsId (r : ReservationResponse) : Prop := ∀ res ∈ s.reservations, res.id = r.id → res = r

instance (r : ReservationResponse) : Decidable (OnlyOfItsId s r) :=
  inferInstanceAs (Decidable (∀ res ∈ s.reservations, res.id = r.id → res = r))

lemma plannedGpus_snoc (rid : Nat) (planned : List (PodRuntimeView × ReservationResponse))
    (p : PodRuntimeView) (res : ReservationResponse) :
    plannedGpus rid (planned ++ [(p, res)]) =
      plannedGpus rid planned + if res.id = rid then p.gpuCount else 0 := by
  by_cases hres : res.id = rid <;> simp [plannedGpus, hres]

variable {s} {r : ReservationResponse}

/-- A booking which is given a pod has room for it beside those it was given before. -/
lemma findOpenBookingFor_fits {ns label : String} {now : Instant} {gpus : Nat}
    {extra : Dict Nat Nat} {group : Option String} {res : ReservationResponse}
    (h : s.findOpenBookingFor ns label now gpus extra group = some res) :
    gpus + (extra.get? res.id).getD 0 ≤ s.available res none := by
  obtain ⟨-, hopen⟩ := findOpenBookingFor_spec s h
  rw [ControllerState.openBookingFor, Bool.and_eq_true] at hopen
  have hspare : (gpus : Int) ≤ s.spare extra res := of_decide_eq_true hopen.2
  rw [ControllerState.spare] at hspare
  omega

/-- The tally is what was assigned, and fits. -/
structure Tallied (s : ControllerState) (r : ReservationResponse)
    (acc : List (PodRuntimeView × ReservationResponse) × Dict Nat Nat) : Prop where
  counts : (acc.2.get? r.id).getD 0 = plannedGpus r.id acc.1
  fits : plannedGpus r.id acc.1 ≤ s.available r none

lemma tallied_planRelink (honly : OnlyOfItsId s r) (eligible : PodRuntimeView → Bool)
    (now : Instant) {acc : List (PodRuntimeView × ReservationResponse) × Dict Nat Nat}
    (h : Tallied s r acc) (p : PodRuntimeView) :
    Tallied s r (s.planRelink eligible now acc p) := by
  rw [ControllerState.planRelink]
  split
  · split
    · exact h
    · rename_i res hfind
      split
      · exact h
      · have hfits := findOpenBookingFor_fits hfind
        have hmem := (findOpenBookingFor_spec s hfind).1
        have hcounts := h.counts
        by_cases hid : res.id = r.id
        · obtain rfl := honly res hmem hid
          refine ⟨?_, ?_⟩
          · rw [Dict.get?_set_self, Option.getD_some, plannedGpus_snoc, if_pos rfl, hcounts]
          · rw [plannedGpus_snoc, if_pos rfl]
            omega
        · refine ⟨?_, ?_⟩
          · rw [Dict.get?_set_of_ne _ _ (Ne.symm hid), plannedGpus_snoc, if_neg hid, hcounts]
            rfl
          · rw [plannedGpus_snoc, if_neg hid]
            exact h.fits
  · exact h

lemma tallied_foldl (honly : OnlyOfItsId s r) (eligible : PodRuntimeView → Bool) (pods : List PodRuntimeView)
    (now : Instant) {acc : List (PodRuntimeView × ReservationResponse) × Dict Nat Nat} (h : Tallied s r acc) :
    Tallied s r (pods.foldl (s.planRelink eligible now) acc) := by
  induction pods generalizing acc with
  | nil => exact h
  | cons p pods ih => exact ih (tallied_planRelink honly eligible now h p)

/-- A plan gives a booking no more than it has to spare. -/
theorem plannedGpus_le (honly : OnlyOfItsId s r) (eligible : PodRuntimeView → Bool)
    (pods : List PodRuntimeView) (now : Instant) :
    plannedGpus r.id (s.planRelinks eligible pods now) ≤ s.available r none := by
  have hnone : Tallied s r ([], ∅) := ⟨by simp [plannedGpus], by simp [plannedGpus]⟩
  exact (tallied_foldl honly eligible pods now hnone).fits

/-- The pods of a plan are some of those it was made from, in their order. -/
lemma planRelinks_sublist (eligible : PodRuntimeView → Bool) (pods : List PodRuntimeView)
    (now : Instant) : ((s.planRelinks eligible pods now).map Prod.fst).Sublist pods := by
  have hfold : ∀ acc, ∃ l : List PodRuntimeView, l.Sublist pods ∧
      (pods.foldl (s.planRelink eligible now) acc).1.map Prod.fst = acc.1.map Prod.fst ++ l := by
    intro acc
    induction pods generalizing acc with
    | nil => exact ⟨[], .refl _, by simp⟩
    | cons p pods ih =>
      obtain ⟨l, hl, heq⟩ := ih (s.planRelink eligible now acc p)
      rw [List.foldl_cons, heq]
      rcases planRelink_cases s eligible now acc p with hsame | ⟨res, hsnoc, -⟩
      · exact ⟨l, hl.cons p, by rw [hsame]⟩
      · exact ⟨p :: l, hl.cons_cons p, by simp [hsnoc]⟩
  obtain ⟨l, hl, heq⟩ := hfold ([], ∅)
  rw [ControllerState.planRelinks, heq]
  exact hl

end Plan

/-- What the records of a booking still leave to record of the pods planned for it. -/
def stillPromised (planned : List (PodRuntimeView × ReservationResponse)) (r : ReservationResponse)
    (records : Dict Uid Nat) : Nat :=
  ((planned.filter fun q => q.2.id = r.id).map fun q =>
    q.1.gpuCount - (records.get? q.1.uid).getD 0).sum

/-- What will be recorded on a booking once every pod planned for it is recorded there. -/
def promisedGpus (planned : List (PodRuntimeView × ReservationResponse)) (r : ReservationResponse)
    (s : ControllerState) : Nat :=
  (s.bucket r.id).total + stillPromised planned r (s.bucket r.id)

section Promise

variable {s : ControllerState} {r : ReservationResponse}
  {planned : List (PodRuntimeView × ReservationResponse)}

lemma total_le_promisedGpus (planned : List (PodRuntimeView × ReservationResponse))
    (r : ReservationResponse) (s : ControllerState) :
    (s.bucket r.id).total ≤ promisedGpus planned r s :=
  Nat.le_add_right _ _

/-- At first a plan is within the budget, if what is recorded is. -/
lemma promisedGpus_le (hstart : (s.bucket r.id).total ≤ r.gpuCount)
    (hplan : plannedGpus r.id planned ≤ s.available r none) :
    promisedGpus planned r s ≤ r.gpuCount := by
  have hterms : stillPromised planned r (s.bucket r.id) ≤ plannedGpus r.id planned :=
    List.sum_le_sum fun q _ => Nat.sub_le _ _
  rw [ControllerState.available, usedExcept_none] at hplan
  rw [promisedGpus]
  omega

/-- A sum in which one term alone changes. -/
lemma sum_map_update {α κ : Type} {key : α → κ} {f f' : α → Nat} {a : α} {l : List α}
    (hnodup : (l.map key).Nodup) (ha : a ∈ l) (hrest : ∀ b ∈ l, key b ≠ key a → f' b = f b) :
    (l.map f').sum + f a = (l.map f).sum + f' a := by
  induction l with
  | nil => cases ha
  | cons b l ih =>
    obtain ⟨hb, hnodup⟩ := List.nodup_cons.mp hnodup
    simp only [List.map_cons, List.sum_cons]
    rcases List.mem_cons.mp ha with rfl | ha
    · have hsame : l.map f' = l.map f := by
        refine List.map_congr_left fun b' hb' => hrest b' (List.mem_cons_of_mem _ hb') fun heq => ?_
        exact hb (heq ▸ List.mem_map_of_mem hb')
      rw [hsame]
      omega
    · have hne : key b ≠ key a := fun heq => hb (heq ▸ List.mem_map_of_mem ha)
      have hhead := hrest b List.mem_cons_self hne
      have htail := ih hnodup ha fun b' hb' => hrest b' (List.mem_cons_of_mem _ hb')
      omega

/-- Recording a planned pod takes its GPUs from what is promised. -/
lemma promised_of_record {q : PodRuntimeView × ReservationResponse}
    (hnodup : (planned.map (·.1.uid)).Nodup) (hq : q ∈ planned) (hid : q.2.id = r.id)
    {b b' : Dict Uid Nat} (hothers : ∀ u, u ≠ q.1.uid → b'.get? u = b.get? u)
    (hrecord : b'.get? q.1.uid = some q.1.gpuCount)
    (htotal : b'.total + (b.get? q.1.uid).getD 0 = b.total + q.1.gpuCount) :
    b'.total + stillPromised planned r b' ≤ b.total + stillPromised planned r b := by
  have hmem : q ∈ planned.filter fun q => q.2.id = r.id :=
    List.mem_filter.mpr ⟨hq, by simpa using hid⟩
  have hsub : ((planned.filter fun q => q.2.id = r.id).map (·.1.uid)).Nodup :=
    hnodup.sublist (List.filter_sublist.map _)
  have hrest : ∀ q' ∈ planned.filter fun q => q.2.id = r.id, q'.1.uid ≠ q.1.uid →
      q'.1.gpuCount - (b'.get? q'.1.uid).getD 0 = q'.1.gpuCount - (b.get? q'.1.uid).getD 0 := by
    intro q' _ hne
    rw [hothers _ hne]
  have hsum := sum_map_update hsub hmem hrest
  rw [hrecord, Option.getD_some, Nat.sub_self, Nat.add_zero] at hsum
  rw [stillPromised, stillPromised]
  omega

/-- A release takes a record from a booking, or leaves its records alone. -/
lemma relinked_records (s : ControllerState) (uid : Uid) (rid gpus : Nat) :
    (∀ u, u ≠ uid → ((s.relinkOccupancy uid rid gpus).bucket rid).get? u = (s.bucket rid).get? u) ∧
      ((s.relinkOccupancy uid rid gpus).bucket rid).get? uid = some gpus ∧
      ((s.relinkOccupancy uid rid gpus).bucket rid).total + ((s.bucket rid).get? uid).getD 0 =
        (s.bucket rid).total + gpus := by
  have hrelink : (s.relinkOccupancy uid rid gpus).bucket rid =
      ((s.releasePod uid).bucket rid).set uid gpus := by
    rw [ControllerState.relinkOccupancy, bucket_recordPlacement, if_pos rfl]
  rw [hrelink]
  refine ⟨fun u hne => ?_, Dict.get?_set_self _ _ _, ?_⟩
  · rw [Dict.get?_set_of_ne _ _ hne, bucket_releasePod_get?_of_ne s hne]
  · have hset := Dict.total_set ((s.releasePod uid).bucket rid) uid gpus
    have herase := Dict.total_erase (s.bucket rid) uid
    rw [bucket_releasePod] at hset ⊢
    split at hset
    · rename_i hplace
      rw [if_pos hplace]
      rw [Dict.get?_erase_self, Option.getD_none] at hset
      omega
    · rename_i hplace
      rw [if_neg hplace]
      omega

/-- Re-linking a planned pod raises what is promised on no booking. -/
theorem promisedGpus_relink {q : PodRuntimeView × ReservationResponse}
    (hnodup : (planned.map (·.1.uid)).Nodup) (hq : q ∈ planned) (s : ControllerState) :
    promisedGpus planned r (s.relinkOccupancy q.1.uid q.2.id q.1.gpuCount) ≤
      promisedGpus planned r s := by
  by_cases hid : q.2.id = r.id
  · obtain ⟨hothers, hrecord, htotal⟩ := relinked_records s q.1.uid q.2.id q.1.gpuCount
    rw [hid] at hothers hrecord htotal ⊢
    exact promised_of_record hnodup hq hid hothers hrecord htotal
  · -- the booking may lose a record of the pod, which is not planned for it
    have hbucket : (s.relinkOccupancy q.1.uid q.2.id q.1.gpuCount).bucket r.id =
        (s.releasePod q.1.uid).bucket r.id := by
      rw [ControllerState.relinkOccupancy, bucket_recordPlacement, if_neg (Ne.symm hid)]
    have hsame : stillPromised planned r ((s.releasePod q.1.uid).bucket r.id) =
        stillPromised planned r (s.bucket r.id) := by
      rw [stillPromised, stillPromised]
      congr 1
      refine List.map_congr_left fun q' hq' => ?_
      obtain ⟨hmem, hid'⟩ := List.mem_filter.mp hq'
      have hne : q'.1.uid ≠ q.1.uid := by
        intro huid
        obtain rfl := List.inj_on_of_nodup_map hnodup hmem hq huid
        exact hid (of_decide_eq_true hid')
      rw [bucket_releasePod_get?_of_ne s hne]
    have htotal := total_bucket_releasePod_le s q.1.uid r.id
    rw [promisedGpus, promisedGpus, hbucket, hsame]
    omega

end Promise

/-- A merge pass or an adoption pass. -/
inductive RelinkPass
  | merge
  | adoption (cause : RelinkCause)

namespace RelinkPass

def program (config : Config) (pods : List PodRuntimeView) (now : Instant) :
    RelinkPass → Ctl (List PodRuntimeView)
  | merge => mergeOndemandIntoBookings config pods now
  | adoption cause => adoptPods config pods now cause

/-- What the pass plans. -/
def planned (config : Config) (s : ControllerState) (pods : List PodRuntimeView) (now : Instant) :
    RelinkPass → List (PodRuntimeView × ReservationResponse)
  | merge => if config.ondemandMergeEnabled then s.planOndemandMerges pods now else []
  | adoption _ => if config.podAdoptionEnabled then s.planPodAdoptions pods now else []

variable {s : ControllerState} {r : ReservationResponse} (config : Config) (pass : RelinkPass)
  {pods : List PodRuntimeView} (now : Instant)

lemma plannedGpus_le (honly : OnlyOfItsId s r) :
    plannedGpus r.id (pass.planned config s pods now) ≤ s.available r none := by
  cases pass with
  | merge =>
    rw [planned]
    split
    · exact Proofs.plannedGpus_le honly _ pods now
    · exact Nat.zero_le _
  | adoption cause =>
    rw [planned]
    split
    · exact Proofs.plannedGpus_le honly _ pods now
    · exact Nat.zero_le _

lemma nodup_planned (hpods : (pods.map (·.uid)).Nodup) :
    ((pass.planned config s pods now).map (·.1.uid)).Nodup := by
  have hsub : ((pass.planned config s pods now).map Prod.fst).Sublist pods := by
    cases pass with
    | merge =>
      rw [planned]
      split
      · exact planRelinks_sublist _ pods now
      · exact List.nil_sublist _
    | adoption cause =>
      rw [planned]
      split
      · exact planRelinks_sublist _ pods now
      · exact List.nil_sublist _
  have hnodup := hpods.sublist (hsub.map (·.uid))
  rwa [List.map_map] at hnodup

end RelinkPass

section Pass

variable {L : Type} (planned : List (PodRuntimeView × ReservationResponse)) (r : ReservationResponse)

/-- A change which promises no more of the booking. -/
def KeepsRoom (s s' : ControllerState) : Prop := promisedGpus planned r s' ≤ promisedGpus planned r s

/-- A part whose changes promise no more of the booking. -/
def InRoom {α : Type} (p : Ctl α) : Prop :=
  p.Within (KeepsRoom planned r) (fun _ => True) fun _ => True

variable {planned r}

lemma get_inRoom : InRoom planned r (Prog.get : Ctl ControllerState) := .get fun _ => le_rfl

/-- A change of something else. -/
lemma modify_inRoom {f : ControllerState → ControllerState}
    (hf : ∀ s, (f s).occupancy = s.occupancy) : InRoom planned r (Prog.modify f) := by
  refine .modify fun s => ?_
  have hbucket : (f s).bucket r.id = s.bucket r.id := by
    rw [ControllerState.bucket, ControllerState.bucket, hf]
  rw [KeepsRoom, promisedGpus, promisedGpus, hbucket]

lemma recordGuarantee_inRoom (uid : Uid) (ns name : String) (guaranteedUntil : Instant)
    (reservation : ReservationResponse) (firstAdmission : Bool) :
    InRoom planned r (recordGuarantee uid ns name guaranteedUntil reservation firstAdmission) := by
  refine .seq (.ask trivial) fun annotated => ?_
  split
  · exact .seq (.ask trivial) fun _ => .pure trivial
  · exact .pure trivial

lemma relinkPod_inRoom (hnodup : (planned.map (·.1.uid)).Nodup)
    {q : PodRuntimeView × ReservationResponse} (hq : q ∈ planned) (now : Instant)
    (cause : RelinkCause) : InRoom planned r (relinkPod q.1 q.2 now cause) := by
  have hrelink : InRoom planned r
      (Prog.modify fun s => s.relinkOccupancy q.1.uid q.2.id q.1.gpuCount) :=
    .modify fun s => promisedGpus_relink hnodup hq s
  refine .seq (.ask trivial) fun freshPod => ?_
  cases freshPod with
  | none => exact .pure trivial
  | some pod =>
    dsimp only
    split
    · exact .pure trivial
    · refine .seq (.ask trivial) fun landed => ?_
      split
      · refine .seq (.seq hrelink fun _ => .seq get_inRoom fun s => ?_) fun _ => .pure trivial
        exact .seq (recordGuarantee_inRoom pod.uid _ _ _ _ _) fun _ =>
          .seq (.ask trivial) fun _ => .pure trivial
      · exact .pure trivial

lemma cancelMergedLease_inRoom (leaseId : Nat) : InRoom planned r (cancelMergedLease leaseId) := by
  refine .seq get_inRoom fun s => ?_
  dsimp only
  split
  · refine .seq (.ask trivial) fun cancelled => ?_
    split <;> exact modify_inRoom fun _ => rfl
  · exact modify_inRoom fun _ => rfl

lemma retireLease_inRoom (leaseId : Option Nat) : InRoom planned r (retireLease leaseId) := by
  cases leaseId with
  | none => exact .pure trivial
  | some id => exact cancelMergedLease_inRoom id

lemma adoptPod_inRoom (hnodup : (planned.map (·.1.uid)).Nodup)
    {q : PodRuntimeView × ReservationResponse} (hq : q ∈ planned) (now : Instant)
    (cause : RelinkCause) (pods : List PodRuntimeView) :
    InRoom planned r (adoptPod now cause pods q) :=
  .seq (relinkPod_inRoom hnodup hq now cause) fun _ => .pure trivial

lemma mergePod_inRoom (hnodup : (planned.map (·.1.uid)).Nodup)
    {q : PodRuntimeView × ReservationResponse} (hq : q ∈ planned) (now : Instant)
    (pods : List PodRuntimeView) : InRoom planned r (mergePod now pods q) := by
  refine .seq (relinkPod_inRoom hnodup hq now .merge) fun landed => ?_
  split
  · exact .seq (retireLease_inRoom q.1.reservationId) fun _ => .pure trivial
  · exact .pure trivial

variable (planned r) in
def hasRoom (σ : Snap ControllerState World) : Prop :=
  promisedGpus planned r σ.shared ≤ r.gpuCount

/-- A pass relies on nothing but the room there is. -/
def anyRely : Contract ControllerState World Request Choice where
  rely _ _ := True
  guar _ _ := True
  issued _ _ := True
  served _ _ := True
  assumed _ _ _ := True
  ended _ := True
  rely_refl _ := trivial
  rely_trans _ _ := trivial
  guar_refl _ := trivial
  guar_trans _ _ := trivial

lemma InRoom.triple {α : Type} {p : Ctl α} (h : InRoom planned r p) (i : Nat) :
    Triple runtime (hasRoom planned r) anyRely i (fun _ => True) p fun _ _ => True := by
  refine (Triple.of_within h (fun _ _ _ _ => trivial) ?_ ?_ fun q c w hq =>
    answer_of_sync i hq c w).mono (fun _ _ h => h) fun _ _ _ => trivial
  · intro σ s' hkeeps hroom _
    exact ⟨trivial, hkeeps.trans hroom, trivial⟩
  · intro q _ σ hroom _
    exact ⟨trivial, trivial, fun c a w _ _ => ⟨trivial, hroom, trivial⟩⟩

/-- A pass, from the moment it plans. -/
lemma relinkPass_hasRoom (pass : RelinkPass) (config : Config) {pods : List PodRuntimeView}
    (hpods : (pods.map (·.uid)).Nodup) (now : Instant) (s : ControllerState) (i : Nat) :
    Triple runtime (hasRoom (pass.planned config s pods now) r) anyRely i (fun σ => σ.shared = s)
      (pass.program config pods now) fun _ _ => True := by
  have hnodup : ((pass.planned config s pods now).map (·.1.uid)).Nodup :=
    pass.nodup_planned config now hpods
  cases pass with
  | merge =>
    refine .get_bind fun c => ?_
    refine (Triple.assume (φ := c = s) (P := fun _ => True) fun hc => ?_).pre
      fun σ _ h => ⟨h.1.symm.trans h.2, trivial⟩
    subst hc
    split
    · rename_i henabled
      rw [RelinkPass.planned, if_pos henabled] at hnodup ⊢
      exact InRoom.triple (.foldlM (fun q hq pods => mergePod_inRoom hnodup hq now pods) pods) i
    · exact .pure fun _ _ _ => trivial
  | adoption cause =>
    refine .get_bind fun c => ?_
    refine (Triple.assume (φ := c = s) (P := fun _ => True) fun hc => ?_).pre
      fun σ _ h => ⟨h.1.symm.trans h.2, trivial⟩
    subst hc
    split
    · rename_i henabled
      rw [RelinkPass.planned, if_pos henabled] at hnodup ⊢
      exact InRoom.triple (.foldlM (fun q hq pods => adoptPod_inRoom hnodup hq now cause pods) pods) i
    · exact .pure fun _ _ _ => trivial

end Pass

/-- The step does not promise more of the booking, or leaves what is promised within it. -/
def leavesRoom (planned : List (PodRuntimeView × ReservationResponse)) (r : ReservationResponse)
    (s s' : ControllerState) : Prop :=
  promisedGpus planned r s' ≤ promisedGpus planned r s ∨ promisedGpus planned r s' ≤ r.gpuCount

instance (planned : List (PodRuntimeView × ReservationResponse)) (r : ReservationResponse)
    (s s' : ControllerState) : Decidable (leavesRoom planned r s s') :=
  inferInstanceAs (Decidable (_ ∨ _))

section Run

variable {L : Type} (body : L → Ctl Unit) (config : Config) (pass : RelinkPass)
  (pods : List PodRuntimeView) (now : Instant) (r : ReservationResponse) (i : Nat)

/-- While the pass re-links, the steps of the other tasks leave room for what it has planned. -/
def othersLeaveRoom (p : Pool ControllerState World Request Answer L)
    (ms : List (Move L Choice WorldEvent)) : Prop :=
  runMeets runtime body outside (fun q m => m.task? ≠ some i →
    leavesRoom (pass.planned config p.snap.shared pods now) r q.snap.shared
      (step runtime body outside q m).snap.shared) p ms

instance (p : Pool ControllerState World Request Answer L) (ms : List (Move L Choice WorldEvent)) :
    Decidable (othersLeaveRoom body config pass pods now r i p ms) :=
  inferInstanceAs (Decidable (runMeets ..))

/-- A booking whose records are within its GPUs when a pass plans has them within its GPUs at every
later point of a run in which the other tasks leave room for the pass. -/
theorem relinkPass_withinBudget (l : L) (p : Pool ControllerState World Request Answer L)
    (cs : List Choice) (ms : List (Move L Choice WorldEvent))
    (hi : p.tasks[i]? = some (l, .ready (do
      let _ ← pass.program config pods now
      return ())))
    (hpods : (pods.map (·.uid)).Nodup) (honly : OnlyOfItsId p.snap.shared r)
    (hstart : (p.snap.shared.bucket r.id).total ≤ r.gpuCount)
    (hrun : othersLeaveRoom body config pass pods now r i p (.run i cs :: ms)) :
    ((runMoves runtime body outside p (.run i cs :: ms)).snap.shared.bucket r.id).total ≤
      r.gpuCount := by
  have hroom : hasRoom (pass.planned config p.snap.shared pods now) r p.snap :=
    promisedGpus_le hstart (pass.plannedGpus_le config now honly)
  have hpass : Triple runtime (hasRoom (pass.planned config p.snap.shared pods now) r) anyRely i
      (fun σ => σ.shared = p.snap.shared) (do
        let _ ← pass.program config pods now
        return ()) fun _ _ => True :=
    .bind (relinkPass_hasRoom pass config hpods now p.snap.shared i) fun _ =>
      .pure fun _ _ _ => trivial
  have hfirst : focusOk runtime (hasRoom (pass.planned config p.snap.shared pods now) r) anyRely i
      (step runtime body outside p (.run i cs)) :=
    (focusOk_runs hi cs (hpass p.snap p.snap trivial hroom rfl)).1
  have hend : focusOk runtime (hasRoom (pass.planned config p.snap.shared pods now) r) anyRely i
      (runMoves runtime body outside (step runtime body outside p (.run i cs)) ms) := by
    refine runMoves_keeps (fun q m hq hm => ?_) hfirst hrun.2
    refine (focusOk_step hq ⟨fun hother => ⟨trivial, ?_⟩, fun _ _ _ => trivial⟩).1
    exact (hm hother).elim (fun hless => hless.trans hq.1) id
  exact (total_le_promisedGpus _ r _).trans hend.1

end Run

inductive RelinkTask
  | pass
  | attempt (uid : Uid) (ref : Ref) (gateName : Option String)
  deriving DecidableEq

/-- A pass, and attempts to admit pods as the watch and the waiters make them. -/
def relinkTask (config : Config) (pass : RelinkPass) (pods : List PodRuntimeView) (now : Instant) :
    RelinkTask → Ctl Unit
  | .pass => do
    let _ ← pass.program config pods now
    return ()
  | .attempt uid ref gateName => do
    let _ ← tryApplyToleration uid ref gateName
    return ()

/-- The lease of the running pod, and the booking which is to take it over. -/
def leaseAndBooking (gpus : Nat) : List ReservationResponse :=
  [{ hourBooking 1 0 100 with kind := .onDemand }, { hourBooking 2 0 100 with gpuCount := gpus }]

/-- Another pod of the owner waits for the booking. -/
def mergeAhead (gpus : Nat) : ControllerState where
  reservations := leaseAndBooking gpus
  gpuClassLabels := Dict.ofList [(7, "h100")]
  entries := ⟨[{ podUid := "pod-b", podName := "other", podNamespace := "alice"
                 gpuClassLabel := "h100", gpuRequested := 1, nextAttemptAt := 0
                 reservation := { hourBooking 2 0 100 with gpuCount := gpus } }]⟩
  occupancy := Dict.ofList [(1, Dict.ofList [("pod-a", 1)])]

def mergePool (gpus : Nat) : Pool ControllerState World Request Answer RelinkTask where
  snap :=
    { shared := mergeAhead gpus
      world := { pods := Dict.ofList [(("alice", "train"),
        { uid := "pod-a", ns := "alice", name := "train", gpuClass := "h100", gpuCount := 1,
          phase := .running, nodeName := some "node", bookingReference := some 1 })] } }
  tasks := [(.pass, .ready (relinkTask {} .merge [leasePod] 3 .pass))]

/-- The attempt records the other pod after the pass has planned; then the pass goes on to its
end. -/
def attemptDuringPass : List (Move RelinkTask Choice WorldEvent) :=
  [.spawn (.attempt "pod-b" 0 none), .run 1 [], .serve 0 {}, .run 0 [], .serve 0 {}, .run 0 [],
    .serve 0 {}, .run 0 [], .serve 0 {}, .run 0 [], .serve 0 {}, .run 0 [], .serve 0 {}, .run 0 []]

/-- Two GPUs take both pods. -/
theorem relinkPass_withinBudget_twoGpus :
    ((runMoves runtime (relinkTask {} .merge [leasePod] 3) outside (mergePool 2)
      (.run 0 [] :: attemptDuringPass)).snap.shared.bucket 2).total ≤ 2 :=
  relinkPass_withinBudget (relinkTask {} .merge [leasePod] 3) {} .merge [leasePod] 3
    { hourBooking 2 0 100 with gpuCount := 2 } 0 .pass (mergePool 2) [] attemptDuringPass rfl
    (by decide) (by decide +kernel) (by decide +kernel) (by decide +kernel)

/-- One GPU is given to both: the pass records its pod though the other has been recorded since it
planned. -/
theorem relinkPass_over_budget :
    ¬ ∀ (config : Config) (pass : RelinkPass) (pods : List PodRuntimeView) (now : Instant)
      (p : Pool ControllerState World Request Answer RelinkTask) (r : ReservationResponse)
      (ms : List (Move RelinkTask Choice WorldEvent)),
      p.tasks = [(.pass, .ready (relinkTask config pass pods now .pass))] →
      (pods.map (·.uid)).Nodup → OnlyOfItsId p.snap.shared r →
      (p.snap.shared.bucket r.id).total ≤ r.gpuCount →
      .spawn .pass ∉ ms →
      (runMoves runtime (relinkTask config pass pods now) outside p ms).tasks[0]?.any
          (·.2.isFinished) →
        ((runMoves runtime (relinkTask config pass pods now) outside p ms).snap.shared.bucket
          r.id).total ≤ r.gpuCount := by
  intro h
  have hwithin := h {} .merge [leasePod] 3 (mergePool 1) (hourBooking 2 0 100)
    (.run 0 [] :: attemptDuringPass) rfl (by decide) (by decide +kernel) (by decide +kernel)
    (by simp [attemptDuringPass]) (by decide +kernel)
  exact absurd hwithin (by decide +kernel)

end GpuReservation.Proofs
