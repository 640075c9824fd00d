import GpuReservation.Library.Exec
import GpuReservation.Proofs.Footprints
import GpuReservation.Proofs.SweepVictims

/-!
# What a failed admission attempt leaves

The attempt records its pod before its first await, and on failure takes back whatever is recorded
for the pod.
-/

namespace GpuReservation.Proofs

open GpuReservation.Library GpuReservation.Model

section Release

variable (s : ControllerState) (uid : Uid) (rid gpus : Nat)

/-- A record of the pod on the reservation is the one a release finds, and stands by itself. -/
structure Undoable : Prop where
  untracked : uid ∉ s.bucket rid
  first : ∀ b ∈ s.occupancy.entries.takeWhile fun b => b.1 ≠ rid, uid ∉ b.2
  tidy : s.occupancy.get? rid ≠ some ∅

/-- The reservation a release takes the pod from, once it is recorded. -/
lemma placeOf_recordPlacement :
    (s.recordPlacement rid uid gpus).placeOf uid =
      some ((((s.occupancy.entries.takeWhile fun b => b.1 ≠ rid).find? fun b => uid ∈ b.2).map
        Prod.fst).getD rid) := by
  have hholds : (fun b : Nat × Dict Uid Nat => decide (uid ∈ b.2))
      (rid, (s.bucket rid).set uid gpus) = true :=
    decide_eq_true (Dict.mem_set.mpr (.inl rfl))
  unfold ControllerState.placeOf ControllerState.recordPlacement
  dsimp only
  rw [Dict.find?_entries_set hholds]
  cases (s.occupancy.entries.takeWhile fun b => b.1 ≠ rid).find? fun b => uid ∈ b.2 with
  | none => rfl
  | some b => rfl

variable {s uid rid}

lemma placeOf_recordPlacement_iff :
    (s.recordPlacement rid uid gpus).placeOf uid = some rid ↔
      ∀ b ∈ s.occupancy.entries.takeWhile fun b => b.1 ≠ rid, uid ∉ b.2 := by
  rw [placeOf_recordPlacement]
  cases hfind : (s.occupancy.entries.takeWhile fun b => b.1 ≠ rid).find? fun b => uid ∈ b.2 with
  | none =>
    have hnone := List.find?_eq_none.mp hfind
    exact iff_of_true rfl fun b hb => by simpa using hnone b hb
  | some b =>
    have hb := List.mem_of_find?_eq_some hfind
    have hmem : uid ∈ b.2 := by simpa using List.find?_some hfind
    have hne : b.1 ≠ rid := by simpa using List.mem_takeWhile_imp hb
    exact iff_of_false (fun h => hne (Option.some.inj h)) fun h => h b hb hmem

/-- A record made where there was none, and released again, leaves the bucket as it was. -/
lemma occupancy_undone (hplace : (s.recordPlacement rid uid gpus).placeOf uid = some rid)
    (huntracked : uid ∉ s.bucket rid) :
    ((s.recordPlacement rid uid gpus).releasePod uid).occupancy =
      if (s.bucket rid).entries = [] then
        (s.occupancy.set rid ((s.bucket rid).set uid gpus)).erase rid
      else s.occupancy.set rid (s.bucket rid) := by
  have hbucket : ((s.recordPlacement rid uid gpus).bucket rid).erase uid = s.bucket rid := by
    rw [bucket_recordPlacement, if_pos rfl, Dict.erase_set_of_not_mem huntracked]
  unfold ControllerState.releasePod
  rw [hplace]
  dsimp only
  rw [hbucket]
  split
  · rfl
  · exact Dict.set_set _ _ _ _

/-- The record an attempt makes is undone by a release exactly where the release finds it first and
it stands by itself. -/
theorem occupancy_undone_iff :
    ((s.recordPlacement rid uid gpus).releasePod uid).occupancy = s.occupancy ↔
      Undoable s uid rid := by
  constructor
  · intro h
    have hbucket : ∀ r, ((s.recordPlacement rid uid gpus).releasePod uid).bucket r = s.bucket r := by
      intro r
      unfold ControllerState.bucket
      rw [h]
    obtain ⟨place, hplace⟩ : ∃ place, (s.recordPlacement rid uid gpus).placeOf uid = some place :=
      ⟨_, placeOf_recordPlacement s uid rid gpus⟩
    have hgone : uid ∉ s.bucket place := by
      have herased := hbucket place
      rw [bucket_releasePod, if_pos hplace] at herased
      rw [← herased, Dict.mem_erase]
      exact fun hmem => hmem.1 rfl
    have hrid : place = rid := by
      by_contra hne
      have hmem := mem_bucket_of_placeOf _ hplace
      rw [bucket_recordPlacement, if_neg hne] at hmem
      exact hgone hmem
    subst hrid
    refine ⟨hgone, (placeOf_recordPlacement_iff gpus).mp hplace, fun hempty => ?_⟩
    -- an empty bucket is dropped with the record
    have hentries : (s.bucket place).entries = [] := by
      unfold ControllerState.bucket
      rw [hempty]
      rfl
    rw [occupancy_undone gpus hplace hgone, if_pos hentries] at h
    rw [← h, Dict.get?_erase_self] at hempty
    cases hempty
  · intro h
    rw [occupancy_undone gpus ((placeOf_recordPlacement_iff gpus).mpr h.first) h.untracked]
    cases hget : s.occupancy.get? rid with
    | none =>
      have hentries : (s.bucket rid).entries = [] := by
        unfold ControllerState.bucket
        rw [hget]
        rfl
      rw [if_pos hentries, Dict.erase_set_of_not_mem (Dict.get?_eq_none_iff.mp hget)]
    | some d =>
      have hbucket : s.bucket rid = d := by
        unfold ControllerState.bucket
        rw [hget, Option.getD_some]
      have hentries : (s.bucket rid).entries ≠ [] := by
        rw [hbucket]
        intro hempty
        exact h.tidy (hget.trans (congrArg some (eq_empty_of_entries hempty)))
      rw [if_neg hentries, hbucket, Dict.set_of_get? hget]

end Release

/-- The pod could not be read, or could not be patched. -/
def attemptCallFailed : Sigma Answer → Prop
  | ⟨.readPod _ _, pod⟩ => pod = none
  | ⟨.applyToleration _ _ _ _ _ _ _, landed⟩ => landed = false
  | _ => False

/-- The toleration was patched onto the pod. -/
def patchLanded : Sigma Answer → Prop
  | ⟨.applyToleration _ _ _ _ _ _ _, landed⟩ => landed = true
  | _ => False

section Attempt

variable {s s' : ControllerState} {uid : Uid} {ref : Ref} {gateName : Option String}
  {tr : List (Sigma Answer)} {done : Bool}

/-- What surrounds the two calls counts neither as their failure nor as a patch. -/
lemma quiet_of_stamps {c : Sigma Answer} (h : Request.stamps c.1) :
    ¬attemptCallFailed c ∧ ¬patchLanded c := by
  obtain ⟨q, a⟩ := c
  cases q <;> first | exact ⟨id, id⟩ | exact h.elim

lemma quiet_of_stampsOnly {α : Type} {p : Ctl α} {a : α} (hp : StampsOnly uid p)
    (h : p.Exec canAnswer s tr a s') : ∀ c ∈ tr, ¬attemptCallFailed c ∧ ¬patchLanded c := by
  have hwithin : p.Within (fun _ _ => True) Request.stamps fun _ => True :=
    hp.mono (fun _ _ _ => trivial) (fun _ hq => hq) fun _ _ => trivial
  obtain ⟨-, hcalls, -⟩ := Prog.exec_of_within (fun _ => trivial) (fun _ _ _ _ _ => trivial) hwithin h
  exact fun c hc => quiet_of_stamps (hcalls c hc)

/-- The entry's next attempt is two to five minutes away. -/
def PutOff (ref : Ref) (tr : List (Sigma Answer)) (s s' : ControllerState) : Prop :=
  ∃ (t : Instant) (delay : Int), ⟨.now, t⟩ ∈ tr ∧ 120 ≤ delay ∧ delay ≤ 300 ∧
    s'.entries = s.entries.modify ref fun e => { e with nextAttemptAt := t + seconds delay }

lemma PutOff.cons (h : PutOff ref tr s s') (c : Sigma Answer) : PutOff ref (c :: tr) s s' := by
  obtain ⟨t, delay, ht, hrest⟩ := h
  exact ⟨t, delay, List.mem_cons_of_mem c ht, hrest⟩

lemma canAnswer_randint {lo hi n : Int} (hle : lo ≤ hi) (h : canAnswer (.randint lo hi) n) :
    lo ≤ n ∧ n ≤ hi := by
  obtain ⟨task, ch, w, w', hans⟩ := h
  cases hans
  have hpos : 0 < hi - lo + 1 := by omega
  have hlow := Int.emod_nonneg (ch.number : Int) hpos.ne'
  have hhigh := Int.emod_lt_of_pos (ch.number : Int) hpos
  unfold pickNumber
  omega

lemma postponeEntry_exec {u : Unit} (h : (postponeEntry ref).Exec canAnswer s tr u s') :
    PutOff ref tr s s' ∧ s' = { s with entries := s'.entries } := by
  obtain ⟨t, tr₁, -, rfl, h⟩ := h
  obtain ⟨delay, tr₂, hdelay, rfl, h⟩ := h
  obtain ⟨rfl, -, rfl⟩ := h
  obtain ⟨hlow, hhigh⟩ := canAnswer_randint (by decide) hdelay
  exact ⟨⟨t, delay, List.mem_cons_self, hlow, hhigh, rfl⟩, rfl⟩

/-- What an attempt which is taken back leaves. -/
structure TakenBack (uid : Uid) (ref : Ref) (tr : List (Sigma Answer)) (s s' : ControllerState) :
    Prop where
  state : s' = { s.releasePod uid with entries := s'.entries }
  putOff : PutOff ref tr s s'

lemma rollBack_exec (h : (rollBack uid ref).Exec canAnswer s tr done s') :
    TakenBack uid ref tr s s' := by
  unfold rollBack at h
  rw [Prog.exec_modify_bind, Prog.exec_bind] at h
  obtain ⟨tr₁, tr₂, _, s₁, rfl, hpost, rfl, rfl, rfl⟩ := h
  obtain ⟨hoff, hrest⟩ := postponeEntry_exec hpost
  obtain ⟨occupancy, hrelease⟩ := releasePod_eq s uid
  rw [List.append_nil]
  refine ⟨hrest, ?_⟩
  unfold PutOff at hoff ⊢
  rw [hrelease] at hoff
  exact hoff

lemma rollBack_done (h : (rollBack uid ref).Exec canAnswer s tr done s') : done = false := by
  unfold rollBack at h
  rw [Prog.exec_modify_bind, Prog.exec_bind] at h
  obtain ⟨_, _, _, _, -, -, -, hdone, -⟩ := h
  exact hdone

/-- The records, the queue and its entries are the same. -/
structure OnlyNotes (s s' : ControllerState) : Prop where
  occupancy : s'.occupancy = s.occupancy
  taskQueue : s'.taskQueue = s.taskQueue
  entries : s'.entries = s.entries

lemma OnlyNotes.refl (s : ControllerState) : OnlyNotes s s := ⟨rfl, rfl, rfl⟩

lemma OnlyNotes.trans {s₁ s₂ s₃ : ControllerState} (h : OnlyNotes s₁ s₂) (h' : OnlyNotes s₂ s₃) :
    OnlyNotes s₁ s₃ :=
  ⟨h'.occupancy.trans h.occupancy, h'.taskQueue.trans h.taskQueue, h'.entries.trans h.entries⟩

lemma onlyNotes_noteAdmitted (s : ControllerState) (e : QueueEntry) (pod : Pod) (now : Instant) :
    OnlyNotes s (s.noteAdmitted uid e pod now) := by
  obtain ⟨_, _, _, _, h⟩ := noteAdmitted_eq s uid e pod now
  rw [h]
  exact ⟨rfl, rfl, rfl⟩

/-- How an attempt ends, and what it leaves. -/
inductive AttemptOutcome (uid : Uid) (ref : Ref) (s : ControllerState) (tr : List (Sigma Answer)) :
    Bool → ControllerState → Prop
  | full {s' : ControllerState}
      (hroom : s.available (s.entry ref).reservation (some uid) < (s.entry ref).gpuRequested)
      (hquiet : ∀ c ∈ tr, ¬attemptCallFailed c ∧ ¬patchLanded c)
      (hoff : PutOff ref tr s s') (hrest : s' = { s with entries := s'.entries }) :
      AttemptOutcome uid ref s tr false s'
  | failed {s' : ControllerState}
      (hroom : (s.entry ref).gpuRequested ≤ s.available (s.entry ref).reservation (some uid))
      (hfail : ∃ c ∈ tr, attemptCallFailed c) (hunpatched : ∀ c ∈ tr, ¬patchLanded c)
      (hback : TakenBack uid ref tr (s.reserveFor uid (s.entry ref)) s') :
      AttemptOutcome uid ref s tr false s'
  | dropped
      (hroom : (s.entry ref).gpuRequested ≤ s.available (s.entry ref).reservation (some uid))
      (hquiet : ∀ c ∈ tr, ¬attemptCallFailed c ∧ ¬patchLanded c) :
      AttemptOutcome uid ref s tr true ((s.reserveFor uid (s.entry ref)).releasePod uid)
  | admitted {s' : ControllerState}
      (hroom : (s.entry ref).gpuRequested ≤ s.available (s.entry ref).reservation (some uid))
      (hquiet : ∀ c ∈ tr, ¬attemptCallFailed c)
      (hnoted : OnlyNotes (s.reserveFor uid (s.entry ref)) s') :
      AttemptOutcome uid ref s tr true s'

theorem tryApplyToleration_outcome
    (h : (tryApplyToleration uid ref gateName).Exec canAnswer s tr done s') :
    AttemptOutcome uid ref s tr done s' := by
  unfold tryApplyToleration at h
  rw [Prog.exec_get_bind] at h
  dsimp only at h
  split at h
  · rename_i hroom
    rw [Prog.exec_bind] at h
    obtain ⟨tr₁, _, _, _, rfl, hpost, rfl, rfl, rfl⟩ := h
    rw [List.append_nil]
    obtain ⟨hoff, hrest⟩ := postponeEntry_exec hpost
    exact .full hroom (quiet_of_stampsOnly (postponeEntry_stamps uid ref) hpost) hoff hrest
  · rename_i hroom
    have hroom := Nat.le_of_not_lt hroom
    rw [Prog.exec_modify_bind, Prog.exec_ask_bind] at h
    obtain ⟨freshPod, tr₁, -, rfl, h⟩ := h
    cases freshPod with
    | none =>
      obtain rfl := rollBack_done h
      have hback := rollBack_exec h
      have hquiet := quiet_of_stampsOnly (rollBack_stamps uid ref) h
      exact .failed hroom ⟨_, List.mem_cons_self, rfl⟩
        (List.forall_mem_cons.mpr ⟨id, fun c hc => (hquiet c hc).2⟩)
        ⟨hback.state, hback.putOff.cons _⟩
    | some pod =>
      unfold patchFreshPod at h
      dsimp only at h
      split at h
      · obtain ⟨rfl, rfl, rfl⟩ := h
        exact .dropped hroom (List.forall_mem_singleton.mpr ⟨nofun, id⟩)
      · split at h
        · have hquiet := quiet_of_stampsOnly (concludeAdmission_stamps uid ref pod) h
          obtain ⟨hnoted, -, rfl⟩ := Prog.exec_of_within OnlyNotes.refl
            (fun _ _ _ => OnlyNotes.trans)
            (concludeAdmission_within ref onlyNotes_noteAdmitted pod) h
          exact .admitted hroom
            (List.forall_mem_cons.mpr ⟨nofun, fun c hc => (hquiet c hc).1⟩) hnoted
        · rw [Prog.exec_ask_bind] at h
          obtain ⟨landed, tr₂, -, rfl, h⟩ := h
          cases landed with
          | true =>
            have hquiet := quiet_of_stampsOnly (stampAdmission_stamps uid ref pod gateName) h
            obtain ⟨hnoted, -, rfl⟩ := Prog.exec_of_within OnlyNotes.refl
              (fun _ _ _ => OnlyNotes.trans)
              (stampAdmission_within ref onlyNotes_noteAdmitted OnlyNotes.refl pod gateName) h
            exact .admitted hroom (List.forall_mem_cons.mpr ⟨nofun,
              List.forall_mem_cons.mpr ⟨nofun, fun c hc => (hquiet c hc).1⟩⟩) hnoted
          | false =>
            obtain rfl := rollBack_done h
            have hback := rollBack_exec h
            have hquiet := quiet_of_stampsOnly (rollBack_stamps uid ref) h
            exact .failed hroom ⟨_, .tail _ List.mem_cons_self, rfl⟩
              (List.forall_mem_cons.mpr ⟨id,
                List.forall_mem_cons.mpr ⟨nofun, fun c hc => (hquiet c hc).2⟩⟩)
              ⟨hback.state, (hback.putOff.cons _).cons _⟩

/-- A failed attempt ends in its record being taken back. -/
lemma tryApplyToleration_failed (h : (tryApplyToleration uid ref gateName).Exec canAnswer s tr done s')
    (hfail : ∃ c ∈ tr, attemptCallFailed c) :
    TakenBack uid ref tr (s.reserveFor uid (s.entry ref)) s' := by
  obtain ⟨c, hc, hfailed⟩ := hfail
  cases tryApplyToleration_outcome h with
  | full _ hquiet => exact absurd hfailed (hquiet c hc).1
  | failed _ _ _ hback => exact hback
  | dropped _ hquiet => exact absurd hfailed (hquiet c hc).1
  | admitted _ hquiet => exact absurd hfailed (hquiet c hc)

/-- The state is what it was, but for the entry's next attempt and a name nobody looks up. -/
structure LeftAsItWas (ref : Ref) (tr : List (Sigma Answer)) (s s' : ControllerState) : Prop where
  occupancy : s'.occupancy = s.occupancy
  taskQueue : s'.taskQueue = s.taskQueue
  gpuPods : s'.gpuPods = s.gpuPods
  others : s' = { s with entries := s'.entries, holderNames := s'.holderNames }
  putOff : PutOff ref tr s s'

lemma occupancy_releasePod_reserveFor (s : ControllerState) (uid : Uid) (e : QueueEntry) :
    ((s.reserveFor uid e).releasePod uid).occupancy =
      ((s.recordPlacement e.reservation.id uid e.gpuRequested).releasePod uid).occupancy := by
  unfold ControllerState.reserveFor ControllerState.nameHolder ControllerState.releasePod
    ControllerState.placeOf
  dsimp only
  split <;> rfl

/-- A failed attempt leaves the state as it was exactly where its record can be undone. -/
theorem failedAttempt_leaves_iff
    (h : (tryApplyToleration uid ref gateName).Exec canAnswer s tr done s')
    (hfail : ∃ c ∈ tr, attemptCallFailed c) :
    LeftAsItWas ref tr s s' ↔ Undoable s uid (s.entry ref).reservation.id := by
  have hback := tryApplyToleration_failed h hfail
  have hoccupancy : s'.occupancy = ((s.recordPlacement (s.entry ref).reservation.id uid
      (s.entry ref).gpuRequested).releasePod uid).occupancy := by
    rw [hback.state]
    exact occupancy_releasePod_reserveFor s uid (s.entry ref)
  constructor
  · intro hleft
    exact (occupancy_undone_iff _).mp (hoccupancy.symm.trans hleft.occupancy)
  · intro hundoable
    have hsame := hoccupancy.trans ((occupancy_undone_iff _).mpr hundoable)
    obtain ⟨occupancy, hrelease⟩ := releasePod_eq (s.reserveFor uid (s.entry ref)) uid
    have hstate := hback.state
    rw [hrelease] at hstate
    have hothers : s' = { s with entries := s'.entries, holderNames := s'.holderNames } := by
      rw [hstate] at hsame ⊢
      cases hsame
      rfl
    refine ⟨hsame, ?_, ?_, hothers, hback.putOff⟩
    · rw [hothers]
    · rw [hothers]

end Attempt

/-- A pod queued for an open booking of two GPUs. -/
def queuedOnce : ControllerState :=
  let booking : ReservationResponse :=
    { id := 1, gpuClassId := 3, gpuClass := { id := 3, name := "H100" }, startUtc := 0,
      endUtc := seconds 3600, gpuCount := 2 }
  ({} : ControllerState).queueEntry "u"
    { podUid := "u", podName := "p", podNamespace := "alice", gpuClassLabel := "h100",
      gpuRequested := 1, reservation := booking, nextAttemptAt := 0 }

/-- The attempt on it while the cluster cannot be reached. -/
def unreadAttempt (s : ControllerState) : List (Sigma Answer) × Bool × ControllerState :=
  (tryApplyToleration "u" 0 none).runWith (worldAnswer {} empty_unlocked { outcome := .refused }) s

lemma unreadAttempt_exec (s : ControllerState) :
    (tryApplyToleration "u" 0 none).Exec canAnswer s (unreadAttempt s).1 (unreadAttempt s).2.1
      (unreadAttempt s).2.2 :=
  Prog.exec_runWith (worldAnswer_canAnswer {} rfl { outcome := .refused }) _ s

/-- A pod recorded nowhere: nothing is left behind. -/
theorem failedAttempt_untracked :
    LeftAsItWas 0 (unreadAttempt queuedOnce).1 queuedOnce (unreadAttempt queuedOnce).2.2 :=
  (failedAttempt_leaves_iff (unreadAttempt_exec queuedOnce)
    ⟨⟨.readPod "alice" "p", none⟩, .head _, rfl⟩).mpr ⟨by decide, by decide, by decide⟩

/-- A pod which the last snapshot has recorded on the booking already: its record is lost. -/
theorem failedAttempt_forgets :
    let s := queuedOnce.recordPlacement 1 "u" 1
    (tryApplyToleration "u" 0 none).Exec canAnswer s (unreadAttempt s).1 (unreadAttempt s).2.1
        (unreadAttempt s).2.2 ∧
      (∃ c ∈ (unreadAttempt s).1, attemptCallFailed c) ∧
      ¬LeftAsItWas 0 (unreadAttempt s).1 s (unreadAttempt s).2.2 := by
  refine ⟨unreadAttempt_exec _, ⟨⟨.readPod "alice" "p", none⟩, .head _, rfl⟩, fun h => ?_⟩
  exact absurd h.occupancy (by decide)

end GpuReservation.Proofs
