import GpuReservation.Proofs.TickRemovals

/-!
# Pods which are gone

What the tick and an admission pass do with a pod whose read fails: one which is no longer in the
cluster is not told from one which could not be read just now.
-/

namespace GpuReservation.Proofs

open GpuReservation.Library GpuReservation.Model

def Request.reads : Request → Prop
  | .readPod _ _ => True
  | _ => False

/-- Some read of a pod failed: it is gone, or could not be read. -/
def ReadFailed (log : List (Await ControllerState Answer)) : Prop :=
  ∃ e ∈ log, ∃ ns name, e.call = ⟨.readPod ns name, none⟩

/-- A part which reads no pod. -/
def ReadsNothing {α : Type} (p : Ctl α) : Prop :=
  p.Within (fun _ _ => True) (fun q => ¬Request.reads q) fun _ => True

lemma not_readFailed_nil : ¬ReadFailed [] := by
  rintro ⟨e, he, -⟩
  cases he

lemma readFailed_append {log₁ log₂ : List (Await ControllerState Answer)} :
    ReadFailed (log₁ ++ log₂) ↔ ReadFailed log₁ ∨ ReadFailed log₂ := by
  simp only [ReadFailed, List.mem_append, or_and_right, exists_or]

lemma readFailed_cons {e : Await ControllerState Answer} {log : List (Await ControllerState Answer)}
    (he : ∀ ns name, e.call ≠ ⟨.readPod ns name, none⟩) : ReadFailed (e :: log) ↔ ReadFailed log := by
  constructor
  · rintro ⟨e', he', ns, name, hcall⟩
    rcases List.mem_cons.mp he' with rfl | he'
    · exact absurd hcall (he ns name)
    · exact ⟨e', he', ns, name, hcall⟩
  · rintro ⟨e', he', hcall⟩
    exact ⟨e', List.mem_cons_of_mem e he', hcall⟩

lemma stamps_reads {q : Request} (h : Request.stamps q) : ¬Request.reads q := by
  intro hreads
  cases q <;> trivial

section Attempt

variable {ans : ∀ q, Answer q → Prop} {s s' : ControllerState}
  {log : List (Await ControllerState Answer)} {config : Config} {now : Instant} {uid : Uid}
  {ref : Ref}

lemma ReadsNothing.not_readFailed {α : Type} {p : Ctl α} {a : α} (hp : ReadsNothing p)
    (h : p.Amid yields ans s log a s') : ¬ReadFailed log := by
  rintro ⟨e, he, ns, name, hcall⟩
  apply Prog.amid_calls hp h e he
  rw [hcall]
  trivial

lemma StampsOnly.readsNothing {α : Type} {p : Ctl α} (h : StampsOnly uid p) : ReadsNothing p :=
  h.mono (fun _ _ _ => trivial) (fun _ => stamps_reads) fun _ _ => trivial

lemma TellsOnly.readsNothing {α : Type} {p : Ctl α} (h : TellsOnly p) : ReadsNothing p :=
  (h.stamps "").readsNothing

lemma patchFreshPod_readsNothing (uid : Uid) (ref : Ref) (gateName : Option String) (e : QueueEntry)
    (pod : Pod) : ReadsNothing (patchFreshPod uid ref gateName e pod) := by
  rw [patchFreshPod]
  split
  · exact .seq (.modify fun _ => trivial) fun _ => .pure trivial
  · split
    · exact (concludeAdmission_stamps uid ref pod).readsNothing
    · refine .seq (.ask id) fun landed => ?_
      split
      · exact (stampAdmission_stamps uid ref pod gateName).readsNothing
      · exact (rollBack_stamps uid ref).readsNothing

lemma rollBack_amid {done : Bool} (h : (rollBack uid ref).Amid yields ans s log done s') :
    done = false := by
  have hpost : (rollBack uid ref).Within (fun _ _ => True) (fun _ => True) fun done => done = false :=
    .seq (.modify fun _ => trivial) fun _ =>
      .seq ((postponeEntry_stamps uid ref).mono (fun _ _ _ => trivial) (fun _ _ => trivial)
        fun _ _ => trivial) fun _ => .pure rfl
  exact (Prog.amid_of_within (R := fun _ _ => True) (fun _ => trivial) (fun _ _ _ _ _ => trivial)
    (fun _ _ _ => trivial) hpost h fun _ _ => trivial).2

/-- An attempt on a pod which is gone is not done with it: it is put off. -/
lemma tryApplyToleration_readFailed {gateName : Option String} {done : Bool}
    (h : (tryApplyToleration uid ref gateName).Amid yields ans s log done s')
    (hread : ReadFailed log) : done = false := by
  rw [tryApplyToleration, Prog.amid_get_bind] at h
  dsimp only at h
  split at h
  · obtain ⟨_, _, _, _, -, -, -, rfl, -⟩ := (Prog.amid_bind _ _).mp h
    rfl
  · rw [Prog.amid_modify_bind] at h
    obtain ⟨pod, c₁, log', -, -, rfl, hrest⟩ := (Prog.amid_ask_bind _).mp h
    cases pod with
    | none => exact rollBack_amid hrest
    | some pod =>
      rw [readFailed_cons (fun ns name hcall => by cases hcall)] at hread
      exact absurd hread ((patchFreshPod_readsNothing _ _ _ _ _).not_readFailed hrest)

lemma tickAttempt_readFailed {toRemove toRemove' : List Uid}
    (h : (tickAttempt config now toRemove uid ref).Amid yields ans s log toRemove' s')
    (hread : ReadFailed log) : toRemove' = toRemove := by
  have htell := (tellQueuedStatus_tells config uid ref now).readsNothing
  rw [tickAttempt, Prog.amid_get_bind] at h
  dsimp only at h
  split at h
  · obtain ⟨rfl, -, -⟩ := h
    exact absurd hread not_readFailed_nil
  · split at h
    · obtain ⟨_, _, _, _, -, -, -, rfl, -⟩ := (Prog.amid_bind _ _).mp h
      rfl
    · obtain ⟨log₁, log₂, done, s₁, rfl, htry, hrest⟩ := (Prog.amid_bind _ _).mp h
      cases done with
      | true =>
        obtain ⟨rfl, -, -⟩ := hrest
        rw [List.append_nil] at hread
        exact absurd (tryApplyToleration_readFailed htry hread) Bool.true_eq_false_eq_False
      | false =>
        rw [if_neg Bool.false_ne_true, Prog.amid_get_bind] at hrest
        split at hrest
        · obtain ⟨_, _, _, _, -, -, -, rfl, -⟩ := (Prog.amid_bind _ _).mp hrest
          rfl
        · obtain ⟨-, rfl, -⟩ := hrest
          rfl

/-- A round whose read fails adds nothing to the pods to remove. -/
lemma tickEntry_readFailed {queued : Uid × Ref} {toRemove toRemove' : List Uid}
    (h : (tickEntry config now toRemove queued).Amid yields ans s log toRemove' s')
    (hread : ReadFailed log) : toRemove' = toRemove := by
  rw [tickEntry, Prog.amid_get_bind] at h
  split at h
  · rename_i hget
    obtain ⟨log₁, log₂, ref', s₁, rfl, hfirst, hattempt⟩ := (Prog.amid_bind _ _).mp h
    refine tickAttempt_readFailed hattempt ((readFailed_append.mp hread).resolve_left ?_)
    rcases requeueForBetter_amid hget hfirst with ⟨-, rfl, -, -⟩ | ⟨_, _, -, rfl, -, -⟩
    · exact not_readFailed_nil
    · rw [readFailed_cons (fun ns name hcall => by cases hcall)]
      exact not_readFailed_nil
  · obtain ⟨rfl, -, -⟩ := h
    exact absurd hread not_readFailed_nil

/-- The rounds add no pods to those to remove but their own. -/
lemma rounds_add {l : List (Uid × Ref)} {toRemove toRemove' : List Uid}
    {rounds : List (Round (Uid × Ref) (List Uid) ControllerState Answer)}
    (h : Rounds yields ans (tickEntry config now) l toRemove s rounds toRemove' s')
    (huid : uid ∈ toRemove') : uid ∈ toRemove ∨ uid ∈ l.map Prod.fst := by
  induction h with
  | nil d c => exact .inl huid
  | cons h hrest ih =>
    rw [List.map_cons, List.mem_cons]
    rcases ih huid with huid | huid
    · rcases (tickEntry_amid h).1 with rfl | ⟨rfl, -⟩
      · exact .inl huid
      · exact (List.mem_append.mp huid).imp_right fun huid => .inl (List.mem_singleton.mp huid)
    · exact .inr (.inr huid)

/-- A pod whose read fails in its round is not removed by the loop. -/
lemma rounds_readFailed {l : List (Uid × Ref)} {toRemove toRemove' : List Uid}
    {rounds : List (Round (Uid × Ref) (List Uid) ControllerState Answer)}
    (h : Rounds yields ans (tickEntry config now) l toRemove s rounds toRemove' s')
    (hnodup : (l.map Prod.fst).Nodup)
    {t : Round (Uid × Ref) (List Uid) ControllerState Answer} (ht : t ∈ rounds)
    (hread : ReadFailed t.log) (hnew : t.item.1 ∉ toRemove) : t.item.1 ∉ toRemove' := by
  induction h with
  | nil d c => cases ht
  | @cons x l d d₁ d' c c₁ c' log rounds h hrest ih =>
    rw [List.map_cons, List.nodup_cons] at hnodup
    rcases List.mem_cons.mp ht with rfl | hlater
    · obtain rfl : d₁ = d := tickEntry_readFailed h hread
      intro hmem
      exact (rounds_add hrest hmem).elim hnew hnodup.1
    · refine ih hnodup.2 hlater fun hmem => ?_
      rcases (tickEntry_amid h).1 with rfl | ⟨rfl, -⟩
      · exact hnew hmem
      · obtain heq : t.item.1 = x.1 := by
          rcases List.mem_append.mp hmem with hmem | hmem
          · exact absurd hmem hnew
          · exact List.mem_singleton.mp hmem
        rw [← heq, ← hrest.items] at hnodup
        exact hnodup.1 (List.mem_map_of_mem (List.mem_map_of_mem hlater))

/-- The pod has the entry on the queue it had. -/
def SamePlace (uid : Uid) (s s' : ControllerState) : Prop :=
  s'.taskQueue.get? uid = s.taskQueue.get? uid

/-- On the fast path too, a pod which is gone stays queued. -/
lemma fastPath_readFailed (h : (fastPath config uid ref now).Amid yields ans s log () s')
    (hread : ReadFailed log) (hothers : ∀ e ∈ log, SamePlace uid e.before e.after) :
    SamePlace uid s s' := by
  rw [fastPath, Prog.amid_get_bind] at h
  dsimp only at h
  split at h
  · obtain ⟨log₁, log₂, done, s₁, rfl, htry, hrest⟩ := (Prog.amid_bind _ _).mp h
    have hkept : SamePlace uid s s₁ :=
      (Prog.amid_of_within (R := SamePlace uid) (fun _ => rfl) (fun _ _ _ h h' => h'.trans h)
        (fun _ _ hk => congrArg (Dict.get? · uid) hk) (tryApplyToleration_leavesQueue uid ref _) htry
        fun e he => hothers e (List.mem_append_left _ he)).1
    cases done with
    | true =>
      rw [if_pos rfl, Prog.amid_modify] at hrest
      obtain ⟨rfl, -⟩ := hrest
      rw [List.append_nil] at hread
      exact absurd (tryApplyToleration_readFailed htry hread) Bool.true_eq_false_eq_False
    | false =>
      obtain ⟨-, -, rfl⟩ := hrest
      exact hkept
  · obtain ⟨rfl, -, -⟩ := h
    exact absurd hread not_readFailed_nil

end Attempt

/-! The candidates of an admission pass. -/

/-- The pod is the candidate it was, or none as it was none. -/
def SameCandidate (uid : Uid) (s s' : ControllerState) : Prop :=
  s'.ondemandCandidates.get? uid = s.ondemandCandidates.get? uid

/-- A part which neither registers nor removes the pod. -/
def LeavesCandidate {α : Type} (uid : Uid) (p : Ctl α) : Prop :=
  p.Within (SameCandidate uid) (fun _ => True) fun _ => True

section Leaves

variable (uid : Uid)

lemma sameCandidate_refl (s : ControllerState) : SameCandidate uid s s := rfl

lemma get_leaves : LeavesCandidate uid (Prog.get : Ctl ControllerState) :=
  .get (sameCandidate_refl uid)

lemma call_leaves (q : Request) : LeavesCandidate uid (call q) := .ask trivial

lemma TellsOnly.leavesCandidate {α : Type} {p : Ctl α} (h : TellsOnly p) : LeavesCandidate uid p :=
  h.mono (fun _ _ hk => by rw [hk.rest]; rfl) (fun _ _ => trivial) fun _ _ => trivial

lemma AdmitsOnly.leavesCandidate {α : Type} {v : Uid} {p : Ctl α} (h : AdmitsOnly v p) :
    LeavesCandidate uid p :=
  h.mono (fun _ _ hk => by rw [hk.rest]; rfl) (fun _ _ => trivial) fun _ _ => trivial

lemma updateCandidate_leaves (ref : Ref) (f : OnDemandCandidate → OnDemandCandidate) :
    LeavesCandidate uid (updateCandidate ref f) :=
  .modify fun _ => rfl

lemma withReservationLock_leaves {α : Type} {body : Ctl α} (h : LeavesCandidate uid body) :
    LeavesCandidate uid (withReservationLock body) :=
  .seq (call_leaves uid _) fun _ => .seq h fun _ => .seq (call_leaves uid _) fun _ => .pure trivial

lemma compensate_leaves (lease : ReservationResponse) : LeavesCandidate uid (compensate lease) :=
  .seq (call_leaves uid _) fun _ => .modify fun _ => rfl

variable {uid}

lemma removeOndemandCandidate_leaves {v : Uid} (hv : uid ≠ v) :
    LeavesCandidate uid (Prog.modify fun s => s.removeOndemandCandidate v) :=
  .modify fun _ => Dict.get?_erase_of_ne _ hv

lemma admitUnderLease_leaves (config : Config) (v : Uid) (ref : Ref) (lease : ReservationResponse)
    (now : Instant) : LeavesCandidate uid (admitUnderLease config v ref lease now) := by
  refine .seq (get_leaves uid) fun s => .seq (.modify fun _ => rfl) fun _ =>
    .seq ((tryApplyToleration_admits v _ _).leavesCandidate uid) fun admitted =>
      .seq (get_leaves uid) fun s => ?_
  split
  · exact .pure trivial
  · exact .seq (compensate_leaves uid lease) fun _ => .pure trivial

lemma grantAndAdmit_leaves (config : Config) (v : Uid) (ref : Ref)
    (ask : OnDemandAdmissionCandidate) : LeavesCandidate uid (grantAndAdmit config v ref ask) := by
  refine .seq (call_leaves uid _) fun now => .seq (get_leaves uid) fun s =>
    .seq (call_leaves uid _) fun attempt => ?_
  split
  · exact .seq ((handleRefusal_tells config v ref now attempt).leavesCandidate uid) fun _ =>
      .pure trivial
  · refine .seq (updateCandidate_leaves uid ref _) fun _ =>
      .seq (withReservationLock_leaves uid (admitUnderLease_leaves config v ref _ now))
        fun admitted => ?_
    split
    · exact .pure trivial
    · exact .seq ((jitteredRetryAt_tells now).leavesCandidate uid) fun at_ =>
        .seq (updateCandidate_leaves uid ref _) fun _ => .pure trivial

lemma grantOne_leaves (config : Config) {r : Ready} (hr : uid ≠ r.uid) :
    LeavesCandidate uid (grantOne config r) := by
  refine .seq (call_leaves uid _) fun now =>
    .seq ((holdOnFit_tells config r.uid r.ref now r.fit).leavesCandidate uid) fun held => ?_
  split
  · exact updateCandidate_leaves uid r.ref _
  · refine .seq (grantAndAdmit_leaves config r.uid r.ref r.ask) fun done => ?_
    split
    · exact removeOndemandCandidate_leaves hr
    · exact .pure trivial

lemma grantEach_leaves (config : Config) {ready : List Ready} (hready : ∀ r ∈ ready, uid ≠ r.uid)
    (granted : List Uid) : LeavesCandidate uid (grantEach config ready granted) := by
  refine .forM fun r hr => grantOne_leaves config (hready r ?_)
  obtain ⟨v, -, hfind⟩ := List.mem_filterMap.mp hr
  exact List.mem_of_find?_eq_some hfind

lemma admitBatch_leaves (config : Config) {ready : List Ready} (hready : ∀ r ∈ ready, uid ≠ r.uid) :
    LeavesCandidate uid (admitBatch config ready) := by
  unfold admitBatch
  dsimp only
  split
  · refine .seq (call_leaves uid _) fun selection => ?_
    split
    · refine .seq (grantEach_leaves config hready _) fun _ => .seq (call_leaves uid _) fun at_ => ?_
      exact .forM fun r _ => (handleWithheld_tells config r.uid r.ref at_ _).leavesCandidate uid
    · exact grantEach_leaves config hready _
  · exact grantEach_leaves config hready _

lemma preflightOne_leaves (config : Config) (now : Instant) (ready : List Ready)
    {candidate : Uid × Ref} (hne : uid ≠ candidate.1) :
    LeavesCandidate uid (preflightOne config now ready candidate) := by
  refine .seq (get_leaves uid) fun s => ?_
  dsimp only
  split
  · refine .seq ((preflightWithFit_admits candidate.1 candidate.2 config).leavesCandidate uid)
      fun verdict => ?_
    split
    · exact .pure trivial
    · exact .seq (updateCandidate_leaves uid _ _) fun _ =>
        .seq (removeOndemandCandidate_leaves hne) fun _ => .pure trivial
    · exact .seq (updateCandidate_leaves uid _ _) fun _ => .pure trivial
  · exact .pure trivial

end Leaves

section Pass

variable {ans : ∀ q, Answer q → Prop} {s s' : ControllerState}
  {log : List (Await ControllerState Answer)} {config : Config} {now : Instant} {uid : Uid}
  {ref : Ref} {ready ready' : List Ready} {candidate : Uid × Ref}

lemma LeavesCandidate.sameCandidate {α : Type} {p : Ctl α} {a : α} (hp : LeavesCandidate uid p)
    (h : p.Amid yields ans s log a s') (hothers : ∀ e ∈ log, SameCandidate uid e.before e.after) :
    SameCandidate uid s s' :=
  (Prog.amid_of_within (sameCandidate_refl uid) (fun _ _ _ h h' => h'.trans h) (fun _ _ hk => hk)
    hp h hothers).1

/-- The second call of the vetting of a candidate, the read of its pod, failed. -/
def PreflightReadFailed (log : List (Await ControllerState Answer)) : Prop :=
  ∃ first second rest ns name, log = first :: second :: rest ∧ second.call = ⟨.readPod ns name, none⟩

/-- A candidate whose pod is gone is put off, as one whose pod could not be read. -/
lemma preflightWithFit_readFailed {verdict : Preflight}
    (h : (preflightWithFit config uid ref).Amid yields ans s log verdict s')
    {rest : List (Await ControllerState Answer)} (hread : PreflightReadFailed (log ++ rest)) :
    verdict = .retry := by
  rw [preflightWithFit] at h
  obtain ⟨now, c₁, log₁, -, -, rfl, hnow⟩ := (Prog.amid_ask_bind _).mp h
  rw [updateCandidate, Prog.amid_modify_bind, Prog.amid_get_bind] at hnow
  obtain ⟨pod, c₂, log₂, -, -, rfl, hpod⟩ := (Prog.amid_ask_bind _).mp hnow
  obtain ⟨_, _, _, ns, name, hlog, hcall⟩ := hread
  obtain ⟨-, hlog⟩ := List.cons.inj hlog
  obtain ⟨rfl, -⟩ := List.cons.inj hlog
  cases hcall
  obtain ⟨_, _, _, _, -, -, hhold⟩ := (Prog.amid_bind _ _).mp hpod
  rw [holdCandidate, scheduleAt, updateCandidate, Prog.amid_modify_bind] at hhold
  obtain ⟨_, _, _, _, -, -, -, rfl, -⟩ := (Prog.amid_bind _ _).mp hhold
  rfl

/-- A candidate whose read fails is not offered to the app, and stays registered. -/
lemma preflightOne_readFailed
    (h : (preflightOne config now ready candidate).Amid yields ans s log ready' s')
    (hread : PreflightReadFailed log)
    (hothers : ∀ e ∈ log, SameCandidate candidate.1 e.before e.after) :
    ready' = ready ∧ SameCandidate candidate.1 s s' := by
  have hvet := (preflightWithFit_admits candidate.1 candidate.2 config).leavesCandidate candidate.1
  rw [preflightOne, Prog.amid_get_bind] at h
  dsimp only at h
  split at h
  · obtain ⟨log₁, log₂, verdict, s₁, rfl, hfirst, hrest⟩ := (Prog.amid_bind _ _).mp h
    have hkept := hvet.sameCandidate hfirst fun e he => hothers e (List.mem_append_left _ he)
    obtain rfl := preflightWithFit_readFailed hfirst hread
    obtain ⟨rfl, rfl, rfl⟩ := hrest
    exact ⟨rfl, hkept⟩
  · obtain ⟨rfl, -, -⟩ := h
    obtain ⟨_, _, _, _, _, hnil, -⟩ := hread
    cases hnil

/-- A round adds at most its own candidate to those ready. -/
lemma preflightOne_adds
    (h : (preflightOne config now ready candidate).Amid yields ans s log ready' s') {r : Ready}
    (hr : r ∈ ready') : r ∈ ready ∨ r.uid = candidate.1 := by
  rw [preflightOne, Prog.amid_get_bind] at h
  dsimp only at h
  split at h
  · obtain ⟨log₁, log₂, verdict, s₁, rfl, hfirst, hrest⟩ := (Prog.amid_bind _ _).mp h
    cases verdict with
    | ready ask fit =>
      obtain ⟨-, rfl, -⟩ := hrest
      rcases List.mem_append.mp hr with hr | hr
      · exact .inl hr
      · rw [List.mem_singleton.mp hr]
        exact .inr rfl
    | remove =>
      obtain ⟨-, rfl, -⟩ := hrest
      exact .inl hr
    | retry =>
      obtain ⟨-, rfl, -⟩ := hrest
      exact .inl hr
  · obtain ⟨-, rfl, -⟩ := h
    exact .inl hr

/-- A pod the candidates of the rounds are not is left registered by them, and is not made ready. -/
lemma vetted_others {l : List (Uid × Ref)}
    {rounds : List (Round (Uid × Ref) (List Ready) ControllerState Answer)}
    (h : Rounds yields ans (preflightOne config now) l ready s rounds ready' s')
    (hne : uid ∉ l.map Prod.fst)
    (hothers : ∀ e ∈ rounds.flatMap Round.log, SameCandidate uid e.before e.after)
    (hready : ∀ r ∈ ready, uid ≠ r.uid) :
    SameCandidate uid s s' ∧ ∀ r ∈ ready', uid ≠ r.uid := by
  induction h with
  | nil d c => exact ⟨rfl, hready⟩
  | @cons x l d d₁ d' c c₁ c' log rounds h hrest ih =>
    rw [List.flatMap_cons] at hothers
    rw [List.map_cons, List.mem_cons, not_or] at hne
    have hkept := (preflightOne_leaves config now d hne.1).sameCandidate h
      fun e he => hothers e (List.mem_append_left _ he)
    have hadded : ∀ r ∈ d₁, uid ≠ r.uid := by
      intro r hr
      rcases preflightOne_adds h hr with hr | hr
      · exact hready r hr
      · rw [hr]
        exact hne.1
    obtain ⟨hlater, hnew⟩ := ih hne.2 (fun e he => hothers e (List.mem_append_right _ he)) hadded
    exact ⟨hlater.trans hkept, hnew⟩

/-- A candidate whose read fails in its round is registered when the rounds are over, and not ready. -/
lemma vetted_readFailed {l : List (Uid × Ref)}
    {rounds : List (Round (Uid × Ref) (List Ready) ControllerState Answer)}
    (h : Rounds yields ans (preflightOne config now) l ready s rounds ready' s')
    (hnodup : (l.map Prod.fst).Nodup)
    {t : Round (Uid × Ref) (List Ready) ControllerState Answer} (ht : t ∈ rounds)
    (hread : PreflightReadFailed t.log)
    (hothers : ∀ e ∈ rounds.flatMap Round.log, SameCandidate t.item.1 e.before e.after)
    (hready : ∀ r ∈ ready, t.item.1 ≠ r.uid) :
    SameCandidate t.item.1 s s' ∧ ∀ r ∈ ready', t.item.1 ≠ r.uid := by
  induction h with
  | nil d c => cases ht
  | @cons x l d d₁ d' c c₁ c' log rounds h hrest ih =>
    rw [List.map_cons, List.nodup_cons] at hnodup
    rw [List.flatMap_cons] at hothers
    rcases List.mem_cons.mp ht with rfl | hlater
    · obtain ⟨rfl, hkept⟩ := preflightOne_readFailed h hread
        fun e he => hothers e (List.mem_append_left _ he)
      obtain ⟨hrest, hnew⟩ := vetted_others hrest hnodup.1
        (fun e he => hothers e (List.mem_append_right _ he)) hready
      exact ⟨hrest.trans hkept, hnew⟩
    · have hne : t.item.1 ≠ x.1 := by
        intro heq
        rw [← heq, ← hrest.items] at hnodup
        exact hnodup.1 (List.mem_map_of_mem (List.mem_map_of_mem hlater))
      have hkept := (preflightOne_leaves config now d hne).sameCandidate h
        fun e he => hothers e (List.mem_append_left _ he)
      have hadded : ∀ r ∈ d₁, t.item.1 ≠ r.uid := by
        intro r hr
        rcases preflightOne_adds h hr with hr | hr
        · exact hready r hr
        · rw [hr]
          exact hne
      obtain ⟨hafter, hnew⟩ := ih hnodup.2 hlater
        (fun e he => hothers e (List.mem_append_right _ he)) hadded
      exact ⟨hafter.trans hkept, hnew⟩

lemma compensate_readsNothing (lease : ReservationResponse) : ReadsNothing (compensate lease) :=
  .seq (.ask id) fun _ => .modify fun _ => trivial

lemma admitUnderLease_readFailed {lease : ReservationResponse} {admitted : Bool}
    (h : (admitUnderLease config uid ref lease now).Amid yields ans s log admitted s')
    (hread : ReadFailed log) : admitted = false := by
  rw [admitUnderLease, Prog.amid_get_bind, Prog.amid_modify_bind] at h
  obtain ⟨log₁, log₂, done, s₁, rfl, htry, hrest⟩ := (Prog.amid_bind _ _).mp h
  rw [Prog.amid_get_bind] at hrest
  have hsame : admitted = done ∧ ¬ReadFailed log₂ := by
    split at hrest
    · obtain ⟨rfl, rfl, -⟩ := hrest
      exact ⟨rfl, not_readFailed_nil⟩
    · obtain ⟨_, _, _, _, rfl, hcancel, rfl, rfl, -⟩ := (Prog.amid_bind _ _).mp hrest
      rw [List.append_nil]
      exact ⟨rfl, (compensate_readsNothing lease).not_readFailed hcancel⟩
  rw [hsame.1]
  exact tryApplyToleration_readFailed htry ((readFailed_append.mp hread).resolve_right hsame.2)

/-- Under a fresh lease too, an attempt on a pod which is gone is not done with it. -/
lemma grantAndAdmit_readFailed {ask : OnDemandAdmissionCandidate} {done : Bool}
    (h : (grantAndAdmit config uid ref ask).Amid yields ans s log done s')
    (hread : ReadFailed log) : done = false := by
  rw [grantAndAdmit] at h
  obtain ⟨now, c₁, log₁, -, -, rfl, hnow⟩ := (Prog.amid_ask_bind _).mp h
  rw [Prog.amid_get_bind] at hnow
  obtain ⟨attempt, c₂, log₂, -, -, rfl, hattempt⟩ := (Prog.amid_ask_bind _).mp hnow
  rw [readFailed_cons (fun ns name hcall => by cases hcall),
    readFailed_cons (fun ns name hcall => by cases hcall)] at hread
  split at hattempt
  · obtain ⟨_, _, _, _, -, -, -, rfl, -⟩ := (Prog.amid_bind _ _).mp hattempt
    rfl
  · rename_i lease _
    rw [updateCandidate, Prog.amid_modify_bind] at hattempt
    obtain ⟨log₃, log₄, admitted, s₁, rfl, hlocked, hrest⟩ := (Prog.amid_bind _ _).mp hattempt
    cases admitted with
    | false =>
      rw [if_neg Bool.false_ne_true] at hrest
      obtain ⟨_, _, _, _, -, -, hlast⟩ := (Prog.amid_bind _ _).mp hrest
      obtain ⟨_, _, _, _, -, -, -, rfl, -⟩ := (Prog.amid_bind _ _).mp hlast
      rfl
    | true =>
      obtain ⟨rfl, -, -⟩ := hrest
      rw [List.append_nil] at hread
      rw [withReservationLock] at hlocked
      obtain ⟨_, c₃, log₅, -, -, rfl, hbody⟩ := (Prog.amid_ask_bind _).mp hlocked
      obtain ⟨log₆, log₇, admitted, s₂, rfl, hadmit, hrelease⟩ := (Prog.amid_bind _ _).mp hbody
      obtain ⟨_, c₄, log₈, -, -, rfl, hdone⟩ := (Prog.amid_ask_bind _).mp hrelease
      obtain ⟨rfl, rfl, -⟩ := hdone
      rw [readFailed_cons (fun ns name hcall => by cases hcall), readFailed_append,
        readFailed_cons (fun ns name hcall => by cases hcall)] at hread
      exact absurd (admitUnderLease_readFailed hadmit (hread.resolve_right not_readFailed_nil))
        Bool.true_eq_false_eq_False

/-- A granted candidate whose pod is gone stays registered. -/
lemma grantOne_readFailed {r : Ready} (h : (grantOne config r).Amid yields ans s log () s')
    (hread : ReadFailed log) (hothers : ∀ e ∈ log, SameCandidate r.uid e.before e.after) :
    SameCandidate r.uid s s' := by
  rw [grantOne] at h
  obtain ⟨now, c₁, log₁, -, hsync, rfl, hnow⟩ := (Prog.amid_ask_bind _).mp h
  obtain rfl := hsync rfl
  rw [readFailed_cons (fun ns name hcall => by cases hcall)] at hread
  have hothers := (List.forall_mem_cons.mp hothers).2
  obtain ⟨log₂, log₃, held, s₁, rfl, hjudge, hrest⟩ := (Prog.amid_bind _ _).mp hnow
  have htells := holdOnFit_tells config r.uid r.ref now r.fit
  have hjudged : SameCandidate r.uid c₁ s₁ := (htells.leavesCandidate r.uid).sameCandidate hjudge
    fun e he => hothers e (List.mem_append_left _ he)
  cases held with
  | true =>
    have hlast := ((updateCandidate_leaves r.uid r.ref _).sameCandidate hrest)
      fun e he => hothers e (List.mem_append_right _ he)
    exact hlast.trans hjudged
  | false =>
    rw [if_neg Bool.false_ne_true] at hrest
    obtain ⟨log₄, log₅, done, s₂, rfl, hgrant, hend⟩ := (Prog.amid_bind _ _).mp hrest
    have hgranted : SameCandidate r.uid s₁ s₂ :=
      (grantAndAdmit_leaves config r.uid r.ref r.ask).sameCandidate hgrant
        fun e he => hothers e (List.mem_append_right _ (List.mem_append_left _ he))
    have hnone : ¬ReadFailed log₅ := by
      cases done with
      | true =>
        rw [if_pos rfl, Prog.amid_modify] at hend
        rw [hend.1]
        exact not_readFailed_nil
      | false =>
        obtain ⟨rfl, -, -⟩ := hend
        exact not_readFailed_nil
    have hfailed := ((readFailed_append.mp hread).resolve_left
      (htells.readsNothing.not_readFailed hjudge))
    obtain rfl := grantAndAdmit_readFailed hgrant ((readFailed_append.mp hfailed).resolve_right hnone)
    obtain ⟨-, -, rfl⟩ := hend
    exact hgranted.trans hjudged

end Pass

/-- One admission pass among others: the instant it began at, the rounds in which it vetted the
candidates, those it found ready, and what it then did with them. -/
structure AdmissionPass (ans : ∀ q, Answer q → Prop) (config : Config) (s : ControllerState)
    (log : List (Await ControllerState Answer)) (s' : ControllerState) where
  now : Instant
  rounds : List (Round (Uid × Ref) (List Ready) ControllerState Answer)
  ready : List Ready
  vetted : ControllerState
  batchLog : List (Await ControllerState Answer)
  ran : Rounds yields ans (preflightOne config now) s.candidatesByAge [] s rounds ready vetted
  batch : (if ready.isEmpty then pure () else admitBatch config ready).Amid yields ans vetted batchLog
    () s'
  log_eq : log = ⟨⟨.now, now⟩, s, s⟩ :: (rounds.flatMap Round.log ++ batchLog)

/-- A candidate the pass found gone is a candidate still when the pass is over. -/
lemma AdmissionPass.readFailed {ans : ∀ q, Answer q → Prop} {config : Config}
    {s s' : ControllerState} {log : List (Await ControllerState Answer)}
    (P : AdmissionPass ans config s log s')
    {t : Round (Uid × Ref) (List Ready) ControllerState Answer} (ht : t ∈ P.rounds)
    (hread : PreflightReadFailed t.log)
    (hothers : ∀ e ∈ log, SameCandidate t.item.1 e.before e.after) : SameCandidate t.item.1 s s' := by
  rw [P.log_eq] at hothers
  have hlog := (List.forall_mem_cons.mp hothers).2
  have hperm := (List.perm_insertionSort (fun a b : Uid × Ref =>
    (s.candidate a.2).podCreatedAt ≤ (s.candidate b.2).podCreatedAt) s.ondemandCandidates.entries).map
      Prod.fst
  obtain ⟨hkept, hnew⟩ := vetted_readFailed P.ran (hperm.nodup_iff.mpr s.ondemandCandidates.nodup) ht
    hread (fun e he => hlog e (List.mem_append_left _ he)) fun r hr => absurd hr List.not_mem_nil
  have hbatch : LeavesCandidate t.item.1
      (if P.ready.isEmpty then pure () else admitBatch config P.ready) := by
    split
    · exact .pure trivial
    · exact admitBatch_leaves config hnew
  exact (hbatch.sameCandidate P.batch fun e he => hlog e (List.mem_append_right _ he)).trans hkept

/-- What no attempt on a pod which is gone does: the tick does not remove its entry, nor does the
preflight which reroutes it; and it is left a candidate by the pass which vets it, and by the grant
which admits it. -/
structure GonePodsKept (config : Config) : Prop where
  tick : ∀ ans now s s' log (L : ReservedLoop ans config now s log s'), ∀ t ∈ L.rounds,
    ReadFailed t.log → t.item.1 ∉ L.toRemove
  rerouted : ∀ ans uid ref now s s' log, (fastPath config uid ref now).Amid yields ans s log () s' →
    ReadFailed log → (∀ e ∈ log, SamePlace uid e.before e.after) → SamePlace uid s s'
  vetted : ∀ ans s s' log (P : AdmissionPass ans config s log s'), ∀ t ∈ P.rounds,
    PreflightReadFailed t.log → (∀ e ∈ log, SameCandidate t.item.1 e.before e.after) →
      SameCandidate t.item.1 s s'
  granted : ∀ ans r s s' log, (grantOne config r).Amid yields ans s log () s' → ReadFailed log →
    (∀ e ∈ log, SameCandidate r.uid e.before e.after) → SameCandidate r.uid s s'

/-- A pod which is no longer in the cluster is dropped by no attempt. -/
theorem gonePods_kept (config : Config) : GonePodsKept config where
  tick _ _ s _ _ L _ ht hread :=
    rounds_readFailed L.ran s.taskQueue.nodup ht hread List.not_mem_nil
  rerouted _ _ _ _ _ _ _ h hread hothers := fastPath_readFailed h hread hothers
  vetted _ _ _ _ P _ ht hread hothers := P.readFailed ht hread hothers
  granted _ _ _ _ _ h hread hothers := grantOne_readFailed h hread hothers

/-- A pod is due under an open booking. -/
def dueAlone : ControllerState where
  reservations := [ownedBooking 3 "v" 0 (minutes 60)]
  gpuClassLabels := Dict.ofList [(1, "c")]
  entries := ⟨[queuedUnder "V" "v" (ownedBooking 3 "v" 0 (minutes 60))]⟩
  taskQueue := Dict.ofList [("V", 0)]

/-- The cluster has no pods: the read is answered that there is none. -/
def emptyClusterAt : ∀ q, Answer q := worldAnswer { clock := 100 } emptyLater_unlocked {}

def goneRound : Round (Uid × Ref) (List Uid) ControllerState Answer :=
  let ran := (tickEntry {} 100 [] ("V", 0)).runAmid yields emptyClusterAt (fun _ s => s) dueAlone
  ⟨("V", 0), [], dueAlone, ran.1, ran.2.1, ran.2.2⟩

def goneLoop : ReservedLoop canAnswer {} 100 dueAlone goneRound.log goneRound.after where
  rounds := [goneRound]
  toRemove := goneRound.acc'
  atEnd := goneRound.after
  ran := .cons (amid_worldAnswer { clock := 100 } emptyLater_unlocked {} (fun _ s => s)
    (tickEntry {} 100 [] ("V", 0)) dueAlone) (.nil _ _)
  log_eq := by simp
  left := by
    have hnone : goneRound.acc' = [] := by decide +kernel
    rw [hnone]
    rfl

/-- The tick reads a pod which is gone, and keeps its entry for the next tick. -/
theorem gonePod_notRemoved :
    ¬ ∀ (config : Config) (now : Instant) (s s' : ControllerState)
      (log : List (Await ControllerState Answer)) (L : ReservedLoop canAnswer config now s log s'),
      ∀ t ∈ L.rounds, ReadFailed t.log → t.item.1 ∈ L.toRemove := by
  intro h
  have hread : ReadFailed goneRound.log := ⟨_, List.mem_cons_self, "v", "V", rfl⟩
  have hmem := h {} 100 _ _ _ goneLoop goneRound List.mem_cons_self hread
  exact absurd hmem (by decide +kernel)

example : goneRound.after.taskQueue.get? "V" = some 0 := by decide +kernel

end GpuReservation.Proofs
