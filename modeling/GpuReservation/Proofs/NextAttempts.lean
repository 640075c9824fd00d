import GpuReservation.Library.Exec
import GpuReservation.Proofs.FailedAttempts

/-!
# How the next attempt is set

Every way out of a judgement on a candidate of the on-demand list either puts its next attempt within
reach of the instant it was judged at, whatever time the app names, or leaves its next attempt as it was.
-/

namespace GpuReservation.Proofs

open GpuReservation.Library GpuReservation.Model

/-- Later than `t`, and at most the retry cap later. -/
def InReach (t at_ : Instant) : Prop := t < at_ ∧ at_ ≤ t + seconds errorRetryCapSeconds

/-- `random.randint` keeps to its bounds. -/
def RandintBounds (ans : ∀ q, Answer q → Prop) : Prop :=
  ∀ lo hi (n : Int), lo ≤ hi → ans (.randint lo hi) n → lo ≤ n ∧ n ≤ hi

/-- The candidates are left alone. -/
def SameCandidates (s s' : ControllerState) : Prop :=
  s'.candidates = s.candidates ∧ s'.ondemandCandidates = s.ondemandCandidates

def SparesCandidates {α : Type} (p : Ctl α) : Prop :=
  p.Within SameCandidates (fun _ => True) fun _ => True

/-- No other candidate than this one is touched, and none is registered or taken off. -/
structure Touches (ref : Ref) (s s' : ControllerState) : Prop where
  dict : s'.ondemandCandidates = s.ondemandCandidates
  others : ∀ r, r ≠ ref → s'.candidates.get? r = s.candidates.get? r
  own : (s.candidates.get? ref).isSome → (s'.candidates.get? ref).isSome

def nextAttempt (s : ControllerState) (ref : Ref) : Option Instant :=
  (s.candidates.get? ref).map (·.nextAttemptAt)

/-- And it is to be tried when it was. -/
structure KeepsAttempt (ref : Ref) (s s' : ControllerState) : Prop extends Touches ref s s' where
  kept : nextAttempt s' ref = nextAttempt s ref

/-- A part which does not say when the candidate is tried again. -/
def AttemptKept {α : Type} (ref : Ref) (p : Ctl α) : Prop :=
  p.Within (KeepsAttempt ref) (fun _ => True) fun _ => True

/-- What a judgement at `t` does to the candidate; where it `decided` to keep it for another try, the next
attempt is within reach, and else it is when it was. -/
structure Judged (ref : Ref) (t : Instant) (decided : Prop) (s s' : ControllerState) : Prop
    extends Touches ref s s' where
  scheduled : decided → (s.candidates.get? ref).isSome →
    ∃ c, s'.candidates.get? ref = some c ∧ InReach t c.nextAttemptAt
  kept : ¬ decided → nextAttempt s' ref = nextAttempt s ref

section Frames

lemma SameCandidates.refl (s : ControllerState) : SameCandidates s s := ⟨rfl, rfl⟩

lemma SameCandidates.trans {s s' s'' : ControllerState} (h : SameCandidates s s')
    (h' : SameCandidates s' s'') : SameCandidates s s'' :=
  ⟨h'.1.trans h.1, h'.2.trans h.2⟩

variable {ref : Ref} {s s' s'' : ControllerState}

lemma SameCandidates.touches (h : SameCandidates s s') : Touches ref s s' :=
  ⟨h.2, fun r _ => by rw [h.1], fun hsome => by rw [h.1]; exact hsome⟩

lemma Touches.refl (s : ControllerState) : Touches ref s s := (SameCandidates.refl s).touches

lemma Touches.trans (h : Touches ref s s') (h' : Touches ref s' s'') : Touches ref s s'' :=
  ⟨h'.dict.trans h.dict, fun r hr => (h'.others r hr).trans (h.others r hr),
    fun hsome => h'.own (h.own hsome)⟩

lemma SameCandidates.keepsAttempt (h : SameCandidates s s') : KeepsAttempt ref s s' :=
  ⟨h.touches, by rw [nextAttempt, nextAttempt, h.1]⟩

lemma KeepsAttempt.refl (s : ControllerState) : KeepsAttempt ref s s :=
  (SameCandidates.refl s).keepsAttempt

lemma KeepsAttempt.trans (h : KeepsAttempt ref s s') (h' : KeepsAttempt ref s' s'') :
    KeepsAttempt ref s s'' :=
  ⟨h.toTouches.trans h'.toTouches, h'.kept.trans h.kept⟩

lemma SparesCandidates.attemptKept {α : Type} {p : Ctl α} (h : SparesCandidates p) :
    AttemptKept ref p :=
  h.mono (fun _ _ => SameCandidates.keepsAttempt) (fun _ h => h) fun _ h => h

lemma touches_modifyCandidate (s : ControllerState) (f : OnDemandCandidate → OnDemandCandidate) :
    Touches ref s (s.modifyCandidate ref f) := by
  refine ⟨rfl, fun r hr => ?_, fun hsome => ?_⟩
  · exact (Heap.get?_modify s.candidates ref f r).trans (if_neg hr.symm)
  · have hget : (s.modifyCandidate ref f).candidates.get? ref = (s.candidates.get? ref).map f :=
      (Heap.get?_modify s.candidates ref f ref).trans (if_pos rfl)
    rw [hget, Option.isSome_map]
    exact hsome

lemma updateCandidate_keepsAttempt {f : OnDemandCandidate → OnDemandCandidate}
    (hf : ∀ c, (f c).nextAttemptAt = c.nextAttemptAt) : AttemptKept ref (updateCandidate ref f) := by
  refine .modify fun s => ⟨touches_modifyCandidate s f, ?_⟩
  have hget : (s.modifyCandidate ref f).candidates.get? ref = (s.candidates.get? ref).map f :=
    (Heap.get?_modify s.candidates ref f ref).trans (if_pos rfl)
  rw [nextAttempt, nextAttempt, hget, Option.map_map]
  exact congrArg (Option.map · (s.candidates.get? ref)) (funext hf)

end Frames

section Leaves

lemma read_spares : SparesCandidates (Prog.get : Ctl ControllerState) := .get SameCandidates.refl

lemma await_spares (q : Request) : SparesCandidates (call q) := .ask trivial

lemma postPendingStatus_spares (config : Config) (uid : Uid) (ns name : String)
    (topic : PendingTopic) (key : StatusKey) (now : Instant) :
    SparesCandidates (postPendingStatus config uid ns name topic key now) := by
  refine .seq read_spares fun s => ?_
  split
  · refine .seq (await_spares _) fun emitted => ?_
    split
    · exact .modify fun s => .refl s
    · exact .pure trivial
  · exact .pure trivial

variable (config : Config) (uid : Uid) (ref : Ref) (now : Instant)

lemma tellPod_spares (ns name : String) (enabled : Bool) (key : StatusKey) :
    SparesCandidates (tellPod config uid now ns name enabled key) := by
  rw [tellPod]
  split
  · exact postPendingStatus_spares config uid ns name _ key now
  · exact .pure trivial

lemma tellCandidate_spares (enabled : Bool) (key : StatusKey) :
    SparesCandidates (tellCandidate config uid ref now enabled key) :=
  .seq read_spares fun _ => tellPod_spares config uid now _ _ enabled key

lemma emitLeaseDenialEvent_spares (detail : Option String) (structural : Bool) :
    SparesCandidates (emitLeaseDenialEvent config uid ref now detail structural) := by
  cases detail with
  | none => exact .pure trivial
  | some text => exact tellCandidate_spares config uid ref now _ _

lemma emitLeaseRejectedEvent_spares (detail : Option String) :
    SparesCandidates (emitLeaseRejectedEvent config uid ref now detail) :=
  .seq read_spares fun _ => tellCandidate_spares config uid ref now _ _

lemma emitUnknownClassEvent_spares (ns name gpuClass : String) :
    SparesCandidates (emitUnknownClassEvent config uid now ns name gpuClass) :=
  .seq read_spares fun _ => tellPod_spares config uid now _ _ _ _

lemma emitAdmissionPausedEvent_spares (guardNumber : Nat) :
    SparesCandidates (emitAdmissionPausedEvent config uid ref now guardNumber) :=
  .seq read_spares fun _ => tellCandidate_spares config uid ref now _ _

lemma emitCapacityWaitEvent_spares :
    SparesCandidates (emitCapacityWaitEvent config uid ref now) :=
  .seq read_spares fun _ => tellCandidate_spares config uid ref now _ _

lemma tellWaitingForNode_spares (narrowing : Option NodePlacement) :
    SparesCandidates (tellWaitingForNode config uid ref now narrowing) := by
  refine .seq read_spares fun s => ?_
  cases narrowing with
  | none => exact .pure trivial
  | some placement => exact tellCandidate_spares config uid ref now _ _

lemma sameCandidates_releasePod (s : ControllerState) : SameCandidates s (s.releasePod uid) := by
  obtain ⟨occupancy, h⟩ := releasePod_eq s uid
  rw [h]
  exact .refl s

lemma sameCandidates_noteAdmitted (s : ControllerState) (e : QueueEntry) (pod : Pod)
    (now : Instant) : SameCandidates s (s.noteAdmitted uid e pod now) := by
  obtain ⟨_, _, _, _, h⟩ := noteAdmitted_eq s uid e pod now
  rw [h]
  exact .refl s

lemma tryApplyToleration_spares (gateName : Option String) :
    SparesCandidates (tryApplyToleration uid ref gateName) :=
  (tryApplyToleration_within (fun s _ => SameCandidates.refl s) (sameCandidates_releasePod uid)
    SameCandidates.refl (sameCandidates_noteAdmitted uid) (fun s _ => .refl s) gateName).mono
    (fun _ _ h => h) (fun _ _ => trivial) fun _ h => h

lemma sameCandidates_enqueuePod (s : ControllerState) (podName podNamespace gpuClassLabel : String)
    (gpuRequested : Nat) (groupLabel : Option String) (reservation : ReservationResponse)
    (now : Instant) : SameCandidates s (s.enqueuePod uid podName podNamespace gpuClassLabel
      gpuRequested groupLabel reservation now) := by
  rw [ControllerState.enqueuePod]
  split
  · exact .refl s
  · exact .refl s

lemma tellQueuedStatus_spares (ref : Ref) :
    SparesCandidates (tellQueuedStatus config uid ref now) := by
  refine .seq read_spares fun s => ?_
  dsimp only
  split
  · exact .pure trivial
  · split
    · exact postPendingStatus_spares config uid _ _ _ _ now
    · exact .pure trivial

lemma fastPath_spares (ref : Ref) : SparesCandidates (fastPath config uid ref now) := by
  refine .seq read_spares fun s => ?_
  dsimp only
  split
  · refine .seq (tryApplyToleration_spares uid ref _) fun done => ?_
    split
    · exact .modify fun s => .refl s
    · exact .pure trivial
  · exact .pure trivial

lemma reroute_spares (reservation : ReservationResponse) :
    (reroute config uid ref reservation).Within SameCandidates (fun _ => True)
      fun status => status = .remove := by
  refine .seq (await_spares .now) fun enqueuedAt =>
    .seq (.modify fun s => sameCandidates_enqueuePod uid s _ _ _ _ _ _ _) fun _ =>
      .seq (.seq read_spares fun s => ?_) fun _ => .pure rfl
  split
  · exact .pure trivial
  · refine .seq (await_spares .now) fun now => .seq (fastPath_spares config uid now _) fun _ =>
      .seq read_spares fun s => ?_
    split
    · exact tellQueuedStatus_spares config uid now _
    · exact .pure trivial

lemma admitUnderLease_spares (lease : ReservationResponse) :
    SparesCandidates (withReservationLock (admitUnderLease config uid ref lease now)) := by
  refine .seq (await_spares .acquireReservationLock) fun _ => .seq ?_ fun _ =>
    .seq (await_spares .releaseReservationLock) fun _ => .pure trivial
  refine .seq read_spares fun s => .seq (.modify fun s => .refl s) fun _ =>
    .seq (tryApplyToleration_spares uid _ _) fun admitted => .seq read_spares fun s => ?_
  split
  · exact .pure trivial
  · exact .seq (.seq (await_spares _) fun _ => .modify fun s => .refl s) fun _ => .pure trivial

end Leaves

section Decides

/-- A judgement at `t`: where it returns what `decided` says, the candidate keeps its place and its
next attempt is within reach. -/
def Decides {α : Type} (ans : ∀ q, Answer q → Prop) (ref : Ref) (t : Instant)
    (decided : α → Prop) (p : Ctl α) : Prop :=
  ∀ s tr a s', p.Exec ans s tr a s' → Judged ref t (decided a) s s'

variable {α β : Type} {ans : ∀ q, Answer q → Prop} {ref : Ref} {t : Instant} {decided : α → Prop}

namespace Decides

/-- A part which keeps the next attempt, and is not what decides. -/
lemma of_keeps {p : Ctl α} {post : α → Prop}
    (hp : p.Within (KeepsAttempt ref) (fun _ => True) post) (hpost : ∀ a, post a → ¬ decided a) :
    Decides ans ref t decided p := by
  intro s tr a s' h
  obtain ⟨hkeeps, -, ha⟩ :=
    Prog.exec_of_within KeepsAttempt.refl (fun _ _ _ => KeepsAttempt.trans) hp h
  exact ⟨hkeeps.toTouches, fun hd => absurd hd (hpost a ha), fun _ => hkeeps.kept⟩

/-- What comes before the decision keeps the next attempt. -/
lemma after {p : Ctl β} {f : β → Ctl α} (hp : AttemptKept ref p)
    (hf : ∀ b, Decides ans ref t decided (f b)) : Decides ans ref t decided (p >>= f) := by
  intro s tr a s' h
  rw [Prog.exec_bind] at h
  obtain ⟨tr₁, tr₂, b, s₁, rfl, hfirst, hrest⟩ := h
  obtain ⟨hkeeps, -, -⟩ :=
    Prog.exec_of_within KeepsAttempt.refl (fun _ _ _ => KeepsAttempt.trans) hp hfirst
  have hlast := hf b s₁ tr₂ a s' hrest
  exact ⟨hkeeps.toTouches.trans hlast.toTouches, fun hd hsome => hlast.scheduled hd (hkeeps.own hsome),
    fun hd => (hlast.kept hd).trans hkeeps.kept⟩

/-- The decision is made: the next attempt is set within reach, and left alone afterwards. -/
lemma schedule {f : OnDemandCandidate → OnDemandCandidate} {p : Ctl α}
    (hreach : ∀ c, InReach t (f c).nextAttemptAt)
    (hp : p.Within SameCandidates (fun _ => True) decided) :
    Decides ans ref t decided (updateCandidate ref f >>= fun _ => p) := by
  intro s tr a s' h
  rw [updateCandidate, Prog.exec_modify_bind] at h
  obtain ⟨hsame, -, hdecided⟩ :=
    Prog.exec_of_within SameCandidates.refl (fun _ _ _ => SameCandidates.trans) hp h
  refine ⟨(touches_modifyCandidate s f).trans hsame.touches, fun _ hsome => ?_,
    fun hd => absurd hdecided hd⟩
  obtain ⟨c, hc⟩ := Option.isSome_iff_exists.mp hsome
  have hset : (s.modifyCandidate ref f).candidates.get? ref = some (f c) := by
    refine (Heap.get?_modify s.candidates ref f ref).trans ?_
    rw [if_pos rfl, hc]
    rfl
  exact ⟨f c, by rw [hsame.1, hset], hreach c⟩

lemma schedule_last {f : OnDemandCandidate → OnDemandCandidate} {decided : Unit → Prop}
    (hreach : ∀ c, InReach t (f c).nextAttemptAt) (hd : decided ()) :
    Decides ans ref t decided (updateCandidate ref f) := by
  have h : Decides ans ref t decided (updateCandidate ref f >>= fun _ => pure ()) :=
    .schedule hreach (.pure hd)
  rwa [bind_pure_unit] at h

/-- What comes after the decision leaves the candidates alone, and says what was decided. -/
lemma andThen {p : Ctl β} {d : β → Prop} {f : β → Ctl α} (hp : Decides ans ref t d p)
    (hf : ∀ b, (f b).Within SameCandidates (fun _ => True) fun a => decided a ↔ d b) :
    Decides ans ref t decided (p >>= f) := by
  intro s tr a s' h
  rw [Prog.exec_bind] at h
  obtain ⟨tr₁, tr₂, b, s₁, rfl, hfirst, hrest⟩ := h
  have hjudged := hp s tr₁ b s₁ hfirst
  obtain ⟨hsame, -, ha⟩ :=
    Prog.exec_of_within SameCandidates.refl (fun _ _ _ => SameCandidates.trans) (hf b) hrest
  refine ⟨hjudged.toTouches.trans hsame.touches, fun hd hsome => ?_, fun hd => ?_⟩
  · rw [hsame.1]
    exact hjudged.scheduled (ha.mp hd) hsome
  · rw [nextAttempt, hsame.1]
    exact hjudged.kept (mt ha.mpr hd)

/-- A call, whatever it is answered. -/
lemma ask {q : Request} {f : Answer q → Ctl α} (hf : ∀ x, ans q x → Decides ans ref t decided (f x)) :
    Decides ans ref t decided (call q >>= f) := by
  intro s tr a s' h
  obtain ⟨x, tr', hx, rfl, hrest⟩ := (Prog.exec_ask_bind _).mp h
  exact hf x hx s tr' a s' hrest

lemma get {f : ControllerState → Ctl α} (hf : ∀ s, Decides ans ref t decided (f s)) :
    Decides ans ref t decided (Prog.get >>= f) :=
  fun s tr a s' h => hf s s tr a s' h

end Decides

lemma inReach_delay {n : Int} (hpos : 0 < n) (hcap : n ≤ errorRetryCapSeconds) :
    InReach t (t + seconds n) := by
  have hlow : 0 < seconds n := by
    unfold seconds
    omega
  have hhigh : seconds n ≤ seconds errorRetryCapSeconds := by
    unfold seconds
    omega
  exact ⟨Int.lt_add_of_pos_right t hlow, Int.add_le_add_left hhigh t⟩

/-- A short retry is within reach. -/
lemma inReach_short (t : Instant) : InReach t (shortRetryAt t) :=
  inReach_delay (by decide) (by decide)

variable (hrandint : RandintBounds ans)
include hrandint

namespace Decides

lemma jittered {f : Instant → Ctl α} (hf : ∀ at_, InReach t at_ → Decides ans ref t decided (f at_)) :
    Decides ans ref t decided (jitteredRetryAt t >>= f) := by
  rw [jitteredRetryAt, bind_assoc]
  refine .ask fun n hn => ?_
  obtain ⟨hlo, hhi⟩ := hrandint 120 300 n (by decide) hn
  refine hf _ (inReach_delay (by omega) ?_)
  unfold errorRetryCapSeconds
  omega

/-- However many times it has failed, and whatever the doubled delay would be. -/
lemma error {f : Instant → Ctl α} (failures : Nat)
    (hf : ∀ at_, InReach t at_ → Decides ans ref t decided (f at_)) :
    Decides ans ref t decided (errorRetryAt t failures >>= f) := by
  rw [errorRetryAt, bind_assoc]
  refine .ask fun n hn => hf _ (inReach_delay ?_ (min_le_right _ _))
  obtain ⟨hlo, hhi⟩ := hrandint 120 300 n (by decide) hn
  have hpow : (0 : Int) < 2 ^ (failures - 1) := Int.pow_pos (by decide)
  exact lt_min (Int.mul_pos (by omega) hpow) (by decide)

/-- Whatever time the app names, past or far off. -/
lemma denial {f : Instant → Ctl α} (notBefore : Option Instant)
    (hf : ∀ at_, InReach t at_ → Decides ans ref t decided (f at_)) :
    Decides ans ref t decided (denialRetryAt t notBefore >>= f) := by
  rw [denialRetryAt, bind_assoc]
  refine .jittered hrandint fun at_ hat => ?_
  cases notBefore with
  | none => exact hf at_ hat
  | some named =>
    exact hf _ ⟨lt_of_lt_of_le hat.1 (le_max_left _ _), max_le hat.2 (min_le_right _ _)⟩

end Decides

end Decides

section Judgements

variable {ans : ∀ q, Answer q → Prop} (config : Config) (uid : Uid) (ref : Ref) (now : Instant)

lemma Decides.none {α : Type} {a : α} {decided : α → Prop} (h : ¬ decided a) :
    Decides ans ref now decided (return a) :=
  @Decides.of_keeps _ _ _ _ _ _ (fun b => ¬ decided b) h fun _ hb => hb

lemma holdOnFit_decides (fit : FitInputs) :
    Decides ans ref now (· = true) (holdOnFit config uid ref fit now) := by
  refine .get fun s => ?_
  dsimp only
  split
  · exact .schedule (fun _ => inReach_short now) (.seq
      (emitAdmissionPausedEvent_spares config uid ref now 4) fun _ => .pure rfl)
  · split
    · exact .none ref now Bool.false_ne_true
    · exact .schedule (fun _ => inReach_short now) (.seq
        (tellWaitingForNode_spares config uid ref now _) fun _ => .pure rfl)

/-- The candidate is kept for another try. -/
def Preflight.retries : Preflight → Prop
  | .retry => True
  | _ => False

lemma holdCandidate_decides {at_ : Instant} (hat : InReach now at_) {tell : Ctl Unit}
    (htell : SparesCandidates tell) :
    Decides ans ref now Preflight.retries (holdCandidate ref at_ tell) :=
  .schedule (fun _ => hat) (.seq htell fun _ => .pure trivial)

lemma preflightFit_decides (pod : Pod) (gpuClassId : Nat) :
    Decides ans ref now Preflight.retries (preflightFit config uid ref now pod gpuClassId) := by
  refine .get fun s => .andThen (holdOnFit_decides config uid ref now _) fun held => ?_
  split
  · exact .pure ⟨fun _ => ‹_›, fun _ => trivial⟩
  · exact .pure ⟨False.elim, fun h => absurd h ‹_›⟩

variable (hrandint : RandintBounds ans)
include hrandint

lemma preflightNodes_decides (pod : Pod) (gpuClassId : Nat) :
    Decides ans ref now Preflight.retries (preflightNodes config uid ref now pod gpuClassId) := by
  refine .get fun s => ?_
  dsimp only
  split
  · exact holdCandidate_decides ref now (inReach_short now)
      (emitAdmissionPausedEvent_spares config uid ref now 1)
  · refine .after (updateCandidate_keepsAttempt fun _ => rfl) fun _ => ?_
    split
    · exact .jittered hrandint fun at_ hat => holdCandidate_decides ref now hat
        (tellCandidate_spares config uid ref now _ _)
    · split
      · exact holdCandidate_decides ref now (inReach_short now)
          (emitAdmissionPausedEvent_spares config uid ref now 3)
      · exact preflightFit_decides config uid ref now pod gpuClassId

lemma preflightGate_decides (pod : Pod) (gpuClassId : Nat) :
    Decides ans ref now Preflight.retries (preflightGate config uid ref now pod gpuClassId) := by
  refine .after (updateCandidate_keepsAttempt fun _ => rfl) fun _ => ?_
  split
  · exact .none ref now False.elim
  · exact holdCandidate_decides ref now (inReach_short now) (.pure trivial)
  · exact preflightNodes_decides config uid ref now hrandint pod gpuClassId

lemma preflightPod_decides (pod : Pod) :
    Decides ans ref now Preflight.retries (preflightPod config uid ref now pod) := by
  refine .get fun s => ?_
  dsimp only
  split
  · exact .none ref now False.elim
  · split
    · refine .of_keeps ((reroute_spares config uid ref _).mono
        (fun _ _ => SameCandidates.keepsAttempt) (fun _ h => h) fun _ h => h) fun status hstatus => ?_
      rw [hstatus]
      exact False.elim
    · split
      · exact .jittered hrandint fun at_ hat => holdCandidate_decides ref now hat
          (emitUnknownClassEvent_spares config uid now _ _ _)
      · exact preflightGate_decides config uid ref now hrandint pod _

lemma scheduleAfterDenial_decides (attempt : LeaseAttempt) :
    Decides ans ref now (fun _ => True) (scheduleAfterDenial ref attempt now) := by
  rw [scheduleAfterDenial]
  split
  · exact .after (updateCandidate_keepsAttempt fun _ => rfl) fun _ => .get fun s =>
      .error hrandint _ fun at_ hat => .schedule_last (fun _ => hat) trivial
  · exact .denial hrandint _ fun at_ hat => .schedule_last (fun _ => hat) trivial

lemma handleRefusal_decides (attempt : LeaseAttempt) :
    Decides ans ref now (fun _ => True) (handleRefusal config uid ref attempt now) := by
  refine .after (updateCandidate_keepsAttempt fun _ => rfl) fun _ => ?_
  split
  · exact .andThen (scheduleAfterDenial_decides ref now hrandint attempt) fun _ =>
      (emitLeaseDenialEvent_spares config uid ref now _ _).mono (fun _ _ h => h) (fun _ h => h)
        fun _ _ => Iff.rfl
  · split
    · exact .jittered hrandint fun at_ hat => .schedule_last (fun _ => hat) trivial
    · refine .after (updateCandidate_keepsAttempt fun _ => rfl) fun _ => .get fun s =>
        .error hrandint _ fun at_ hat => .schedule (fun _ => hat) ?_
      split
      · exact emitLeaseRejectedEvent_spares config uid ref now _
      · exact .pure trivial

/-- A preflight judges at the instant it reads first. -/
lemma preflightWithFit_judged {s s' : ControllerState} {tr : List (Sigma Answer)}
    {status : Preflight} (h : (preflightWithFit config uid ref).Exec ans s tr status s') :
    ∃ t tr', tr = ⟨.now, t⟩ :: tr' ∧ Judged ref t (Preflight.retries status) s s' := by
  obtain ⟨t, tr', -, rfl, hrest⟩ := (Prog.exec_ask_bind _).mp h
  refine ⟨t, tr', rfl, (?_ : Decides ans ref t Preflight.retries _) s tr' status s' hrest⟩
  refine .after (updateCandidate_keepsAttempt fun _ => rfl) fun _ => .get fun s => .ask fun freshPod _ => ?_
  cases freshPod with
  | none => exact .jittered hrandint fun at_ hat => holdCandidate_decides ref t hat (.pure trivial)
  | some pod => exact preflightPod_decides config uid ref t hrandint pod

/-- So does a grant, which leaves the candidate to be tried again where it is not done with. -/
lemma grantAndAdmit_judged (ask : OnDemandAdmissionCandidate) {s s' : ControllerState}
    {tr : List (Sigma Answer)} {done : Bool}
    (h : (grantAndAdmit config uid ref ask).Exec ans s tr done s') :
    ∃ t tr', tr = ⟨.now, t⟩ :: tr' ∧ Judged ref t (done = false) s s' := by
  obtain ⟨t, tr', -, rfl, hrest⟩ := (Prog.exec_ask_bind _).mp h
  refine ⟨t, tr', rfl, (?_ : Decides ans ref t (· = false) _) s tr' done s' hrest⟩
  refine .get fun s => .ask fun attempt _ => ?_
  split
  · exact .andThen (handleRefusal_decides config uid ref t hrandint attempt) fun _ =>
      .pure ⟨fun _ => trivial, fun _ => rfl⟩
  · refine .after (updateCandidate_keepsAttempt fun _ => rfl) fun _ =>
      .after (admitUnderLease_spares config uid ref t _).attemptKept fun admitted => ?_
    split
    · exact .none ref t fun h => Bool.false_ne_true h.symm
    · exact .jittered hrandint fun at_ hat => .schedule (fun _ => hat) (.pure rfl)

end Judgements

lemma canAnswer_randintBounds : RandintBounds canAnswer :=
  fun _ _ _ hle h => canAnswer_randint hle h

end GpuReservation.Proofs
