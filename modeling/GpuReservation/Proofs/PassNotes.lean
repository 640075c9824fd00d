import GpuReservation.Library.Raising
import GpuReservation.Proofs.Client
import GpuReservation.Proofs.NextAttempts

/-!
# A pass which notes what it does

The admission pass, writing down which candidate it judges, creates for and withholds, and when.  A create or a
selection whose answer the client cannot read to its end raises, and the pass ends there.
-/

namespace GpuReservation.Proofs

open GpuReservation.Library GpuReservation.Model

/-- What a call comes to: the client reads the reply to a create or to a selection, and nothing else raises. -/
def clientOutcome (rules : WireRules) (ans : ∀ q, Answer q → Prop) : ∀ q, Except Raised (Answer q) → Prop
  | .createReservation _, x => ∃ answered, postReservationCreate rules answered = x
  | .selectOndemandAdmissions _, x => ∃ answered, selectOndemandAdmissions rules answered = x
  | q, .ok a => ans q a
  | _, .error _ => False

/-- The calls whose replies the client reads. -/
def Request.readByClient : Request → Bool
  | .createReservation _ | .selectOndemandAdmissions _ => true
  | _ => false

/-- What is done with a candidate. -/
inductive Treatment
  | vetted
  /-- Guards 4 and 5, once more before the grant. -/
  | judged
  | created
  | withheld (ref : Ref) (verdict : Option AdmissionWithheld) (before after : ControllerState)

/-- And with which, and as of what instant. -/
structure Handling where
  uid : Uid
  at_ : Instant
  treatment : Treatment

abbrev NotedCtl (α : Type) : Type := Prog (ControllerState × List Handling) Request Answer α

def notedCall (q : Request) : NotedCtl (Answer q) := Prog.ask q

/-- The instant read off the clock is noted. -/
def noteInstant (uid : Uid) (treatment : Treatment) : ∀ q, Answer q → List Handling → List Handling
  | .now, t, notes => notes ++ [⟨uid, t, treatment⟩]
  | _, _, notes => notes

section Withhold

variable (config : Config) (uid : Uid) (ref : Ref) (verdict : Option AdmissionWithheld) (now : Instant)

/-- How a candidate stands which was withheld. -/
def withheldSchedule : Ctl Unit := do
  match verdict.filter fun v => v.code.isSome && !v.outranked with
  | some v => scheduleAfterDenial ref v.asDenial now
  | none => do
    let retryAt ← jitteredRetryAt now
    updateCandidate ref fun c =>
      { c with leaseErrorCount := 0, awaitingCapacity := true, nextAttemptAt := retryAt }

/-- And what its owner is told. -/
def withheldTelling : Ctl Unit :=
  match verdict.filter fun v => v.code.isSome && !v.outranked with
  | some v => emitLeaseDenialEvent config uid ref now v.asDenial.detail v.asDenial.structural
  | none => emitCapacityWaitEvent config uid ref now

lemma handleWithheld_eq : handleWithheld config uid ref verdict now =
    withheldSchedule ref verdict now >>= fun _ => withheldTelling config uid ref verdict now := by
  unfold handleWithheld withheldSchedule withheldTelling
  cases verdict.filter fun v => v.code.isSome && !v.outranked with
  | some v => rfl
  | none => exact (bind_assoc _ _ _).symm

lemma withheldSchedule_within : (withheldSchedule ref verdict now).Within (fun _ _ => True)
    (fun q => Request.readByClient q = false ∧ yields q = false) fun _ => True := by
  have hjitter : (jitteredRetryAt now).Within (fun _ _ => True)
      (fun q => Request.readByClient q = false ∧ yields q = false) fun _ => True :=
    .seq (.ask ⟨rfl, rfl⟩) fun _ => .pure trivial
  rw [withheldSchedule]
  split
  · rw [scheduleAfterDenial]
    split
    · exact .seq (.modify fun _ => trivial) fun _ => .seq (.get fun _ => trivial) fun s =>
        .seq (.seq (.ask ⟨rfl, rfl⟩) fun _ => .pure trivial) fun _ => .modify fun _ => trivial
    · exact .seq (.seq hjitter fun _ => .pure trivial) fun _ => .modify fun _ => trivial
  · exact .seq hjitter fun _ => .modify fun _ => trivial

lemma withheldTelling_tells : TellsOnly (withheldTelling config uid ref verdict now) := by
  rw [withheldTelling]
  split
  · exact emitLeaseDenialEvent_tells config uid ref now _ _
  · exact emitCapacityWaitEvent_tells config uid ref now

lemma withheldTelling_spares : SparesCandidates (withheldTelling config uid ref verdict now) := by
  rw [withheldTelling]
  split
  · exact emitLeaseDenialEvent_spares config uid ref now _ _
  · exact emitCapacityWaitEvent_spares config uid ref now

/-- A candidate which was withheld is kept for another try. -/
lemma withheldSchedule_decides {ans : ∀ q, Answer q → Prop} (hrandint : RandintBounds ans) :
    Decides ans ref now (fun _ => True) (withheldSchedule ref verdict now) := by
  rw [withheldSchedule]
  split
  · exact scheduleAfterDenial_decides ref now hrandint _
  · exact .jittered hrandint fun at_ hat => .schedule_last (fun _ => hat) trivial

end Withhold

section Noted

variable (config : Config)

def preflightOneNoted (now : Instant) (ready : List Ready) (candidate : Uid × Ref) :
    NotedCtl (List Ready) := do
  let x ← Prog.get
  let c := x.1.candidate candidate.2
  if c.nextAttemptAt ≤ now ∨ (c.awaitingCapacity ∧ config.ondemandDelegateAdmission) then
    let status ← Prog.noteFirst (noteInstant candidate.1 .vetted)
      (preflightWithFit config candidate.1 candidate.2)
    match status with
    | .ready ask fit =>
      return ready ++ [⟨candidate.1, candidate.2, ask, fit, c.nextAttemptAt ≤ now⟩]
    | .remove => do
      Prog.noteless (updateCandidate candidate.2 fun c => { c with awaitingCapacity := false })
      Prog.noteless (Prog.modify fun s => s.removeOndemandCandidate candidate.1)
      return ready
    | .retry => do
      Prog.noteless (updateCandidate candidate.2 fun c => { c with awaitingCapacity := false })
      return ready
  else return ready

def grantOneNoted (r : Ready) : NotedCtl Unit := do
  let now ← notedCall .now
  Prog.note fun notes => notes ++ [⟨r.uid, now, .judged⟩]
  let held ← Prog.noteless (holdOnFit config r.uid r.ref r.fit now)
  if held then
    Prog.noteless (updateCandidate r.ref fun c => { c with awaitingCapacity := false })
  else
    let done ← Prog.noteFirst (noteInstant r.uid .created) (grantAndAdmit config r.uid r.ref r.ask)
    if done then Prog.noteless (Prog.modify fun s => s.removeOndemandCandidate r.uid) else return ()

def grantEachNoted (ready : List Ready) (granted : List Uid) : NotedCtl Unit :=
  (granted.filterMap fun uid => ready.find? (·.uid = uid)).forM (grantOneNoted config)

def handleWithheldNoted (uid : Uid) (ref : Ref) (verdict : Option AdmissionWithheld) (now : Instant) :
    NotedCtl Unit := do
  let x ← Prog.get
  Prog.noteless (withheldSchedule ref verdict now)
  Prog.noteSeen fun after notes => notes ++ [⟨uid, now, .withheld ref verdict x.1 after⟩]
  Prog.noteless (withheldTelling config uid ref verdict now)

def withholdEachNoted (ready : List Ready) (granted : List Uid)
    (withheld : Dict Uid AdmissionWithheld) : NotedCtl Unit := do
  let deferredAt ← notedCall .now
  (ready.filter fun r => r.uid ∉ granted).forM fun r =>
    handleWithheldNoted config r.uid r.ref (withheld.get? r.uid) deferredAt

/-- `admitBatch`, with notes. -/
def admitBatchNoted (ready : List Ready) : NotedCtl Unit := do
  let due := (ready.filter (·.due)).map (·.uid)
  if config.ondemandDelegateAdmission then
    let selection ← notedCall (.selectOndemandAdmissions (ready.map (·.ask)))
    match selection with
    | some answered => do
      let granted := mapGrantedUids ready answered.granted
      grantEachNoted config ready granted
      withholdEachNoted config ready granted answered.withheld
    | none => grantEachNoted config ready due
  else grantEachNoted config ready due

/-- `runOndemandAdmissionOnce`, with notes. -/
def runOndemandAdmissionOnceNoted : NotedCtl Unit := do
  let now ← notedCall .now
  let x ← Prog.get
  let ready ← x.1.candidatesByAge.foldlM (preflightOneNoted config now) []
  if ready.isEmpty then return () else admitBatchNoted config ready

end Noted

section Shadows

open Prog (Shadows)

variable (config : Config)

lemma preflightOne_shadows (now : Instant) (ready : List Ready) (candidate : Uid × Ref) :
    Shadows (preflightOneNoted config now ready candidate) (preflightOne config now ready candidate) := by
  refine .get_bind fun x => ?_
  dsimp only
  split
  · refine .bind (.noteFirst _ _) fun status => ?_
    cases status with
    | ready ask fit => exact .ret _
    | remove => exact .bind (.noteless _) fun _ => .bind (.noteless _) fun _ => .ret _
    | retry => exact .bind (.noteless _) fun _ => .ret _
  · exact .ret _

lemma grantOne_shadows (r : Ready) : Shadows (grantOneNoted config r) (grantOne config r) := by
  refine .ask_bind fun now => .note_bind _ (.bind (.noteless _) fun held => ?_)
  split
  · exact .noteless _
  · refine .bind (.noteFirst _ _) fun done => ?_
    split
    · exact .noteless _
    · exact .ret _

lemma grantEach_shadows (ready : List Ready) (granted : List Uid) :
    Shadows (grantEachNoted config ready granted) (grantEach config ready granted) :=
  .forM (grantOne_shadows config) _

lemma handleWithheld_shadows (uid : Uid) (ref : Ref) (verdict : Option AdmissionWithheld) (now : Instant) :
    Shadows (handleWithheldNoted config uid ref verdict now) (handleWithheld config uid ref verdict now) := by
  rw [handleWithheld_eq]
  exact .note (fun _ => rfl) fun x => .bind (.noteless _) fun _ => .noteSeen_bind _ (.noteless _)

lemma admitBatch_shadows (ready : List Ready) :
    Shadows (admitBatchNoted config ready) (admitBatch config ready) := by
  rw [admitBatchNoted, admitBatch]
  split
  · refine .ask_bind fun selection => ?_
    cases selection with
    | none => exact grantEach_shadows config ready _
    | some answered =>
      exact .bind (grantEach_shadows config ready _) fun _ => .ask_bind fun deferredAt =>
        .forM (fun (r : Ready) => handleWithheld_shadows config r.uid r.ref _ deferredAt) _
  · exact grantEach_shadows config ready _

/-- The notes are all that is added. -/
theorem runOndemandAdmissionOnce_shadows :
    Shadows (runOndemandAdmissionOnceNoted config) (runOndemandAdmissionOnce config) := by
  refine .ask_bind fun now => .get_bind fun x =>
    .bind (.foldlM (preflightOne_shadows config now) _ []) fun ready => ?_
  split
  · exact .ret ()
  · exact admitBatch_shadows config ready

end Shadows

/-- A call which the client need not read a reply for. -/
def Request.quiet (q : Request) : Prop := Request.readByClient q = false

/-- A part which cannot raise. -/
def Quiet {α : Type} (p : Ctl α) : Prop := p.Within (fun _ _ => True) Request.quiet fun _ => True

section Quiet

variable {rules : WireRules} {ans : ∀ q, Answer q → Prop}

lemma not_raises_of_quiet {q : Request} (hq : Request.quiet q) (e : Raised) :
    ¬ clientOutcome rules ans q (.error e) := by
  cases q <;> first | exact id | exact absurd hq Bool.true_eq_false.mp

lemma clientOutcome_ok {q : Request} (hq : Request.quiet q) {a : Answer q}
    (h : clientOutcome rules ans q (.ok a)) : ans q a := by
  cases q <;> first | exact h | exact absurd hq Bool.true_eq_false.mp

lemma ok_clientOutcome {q : Request} (hq : Request.quiet q) {a : Answer q} (h : ans q a) :
    clientOutcome rules ans q (.ok a) := by
  cases q <;> first | exact h | exact absurd hq Bool.true_eq_false.mp

lemma quiet_of_onePod {q : Request} (h : Request.onePod q) : Request.quiet q := by
  cases q <;> first | rfl | exact h.elim

lemma TellsOnly.quiet {α : Type} {p : Ctl α} (h : TellsOnly p) : Quiet p :=
  h.mono (fun _ _ _ => trivial) (fun _ hq => quiet_of_onePod (tells_onePod hq)) fun _ h => h

lemma AdmitsOnly.quiet {α : Type} {uid : Uid} {p : Ctl α} (h : AdmitsOnly uid p) : Quiet p :=
  h.mono (fun _ _ _ => trivial) (fun _ => quiet_of_onePod) fun _ h => h

lemma withReservationLock_quiet (config : Config) (uid : Uid) (ref : Ref) (lease : ReservationResponse)
    (now : Instant) : Quiet (withReservationLock (admitUnderLease config uid ref lease now)) := by
  refine .seq (.ask rfl) fun _ => .seq ?_ fun _ => .seq (.ask rfl) fun _ => .pure trivial
  refine .seq (.get fun _ => trivial) fun s => .seq (.modify fun _ => trivial) fun _ =>
    .seq (tryApplyToleration_admits uid s.entries.next config.schedulingGateName).quiet fun admitted =>
      .seq (.get fun _ => trivial) fun s => ?_
  split
  · exact .pure trivial
  · exact .seq (.seq (.ask rfl) fun _ => .modify fun _ => trivial) fun _ => .pure trivial

end Quiet

/-- The pod a create is for. -/
def createdFor : Request → Option Uid
  | .createReservation req => some req.idempotencyKey
  | _ => none

/-- The pods of the creates, in order. -/
def creates (tr : List (Tried Raised Answer)) : List Uid := tr.filterMap fun e => createdFor e.1

/-- Those of the creates which raise. -/
def raisedCreates (tr : List (Tried Raised Answer)) : List Uid :=
  tr.filterMap fun e =>
    match e.2 with
    | .ok _ => none
    | .error _ => createdFor e.1

/-- The pods which the selections are asked about, and what each comes to. -/
def selections (tr : List (Tried Raised Answer)) : List (List Uid × Except Raised (Option AdmissionSelection)) :=
  tr.filterMap fun
    | ⟨.selectOndemandAdmissions asks, x⟩ => some (asks.map (·.podUid), x)
    | _ => none

section Turns

variable {rules : WireRules} {ans : ∀ q, Answer q → Prop} {others : Request → ControllerState → ControllerState → Prop}
  {s s' : ControllerState} {tr : List (Tried Raised Answer)}

lemma creates_append (tr tr' : List (Tried Raised Answer)) : creates (tr ++ tr') = creates tr ++ creates tr' :=
  List.filterMap_append

lemma raisedCreates_append (tr tr' : List (Tried Raised Answer)) :
    raisedCreates (tr ++ tr') = raisedCreates tr ++ raisedCreates tr' :=
  List.filterMap_append

lemma selections_append (tr tr' : List (Tried Raised Answer)) :
    selections (tr ++ tr') = selections tr ++ selections tr' :=
  List.filterMap_append

/-- A quiet part comes to its end, makes no create and asks for no selection. -/
lemma Quiet.comesTo {α : Type} {p : Ctl α} (hp : Quiet p) {b : Except Raised α}
    (h : p.ComesTo others (clientOutcome rules ans) s tr b s') :
    (∃ a, b = .ok a) ∧ creates tr = [] ∧ raisedCreates tr = [] ∧ selections tr = [] := by
  obtain ⟨-, hcalls, -⟩ := Prog.comesTo_of_within (fun _ => trivial) (fun _ _ _ _ _ => trivial)
    (fun _ _ _ _ => trivial) hp h
  obtain ⟨a, hb, -⟩ := Prog.comesTo_ok_of_within (fun q hq e => not_raises_of_quiet hq e) hp h
  have hnone : ∀ e ∈ tr, createdFor e.1 = none := by
    intro e he
    have hquiet := hcalls e he
    cases hcall : e.1 with
    | createReservation req =>
      rw [hcall] at hquiet
      exact absurd hquiet Bool.true_eq_false.mp
    | _ => rfl
  refine ⟨⟨a, hb⟩, List.filterMap_eq_nil_iff.mpr hnone, List.filterMap_eq_nil_iff.mpr fun e he => ?_,
    List.filterMap_eq_nil_iff.mpr fun e he => ?_⟩
  · split
    · rfl
    · exact hnone e he
  · split
    · exact absurd (hcalls _ he) Bool.true_eq_false.mp
    · rfl

/-- What a grant does once the create is answered. -/
def grantRest (config : Config) (uid : Uid) (ref : Ref) (now : Instant) (attempt : LeaseAttempt) : Ctl Bool :=
  match attempt.reservation with
  | none => do
    handleRefusal config uid ref attempt now
    return false
  | some lease => do
    updateCandidate ref fun c => { c with leaseErrorCount := 0, awaitingCapacity := false }
    let admittedQueue ← withReservationLock (admitUnderLease config uid ref lease now)
    if admittedQueue then return true
    else
      let retryAt ← jitteredRetryAt now
      scheduleAt ref retryAt
      return false

lemma grantAndAdmit_eq (config : Config) (uid : Uid) (ref : Ref) (ask : OnDemandAdmissionCandidate) :
    grantAndAdmit config uid ref ask = call .now >>= fun now => Prog.get >>= fun s =>
      call (.createReservation (ask.request uid (s.candidate ref).bestEffort)) >>=
        grantRest config uid ref now := rfl

lemma grantRest_quiet (config : Config) (uid : Uid) (ref : Ref) (now : Instant) (attempt : LeaseAttempt) :
    Quiet (grantRest config uid ref now attempt) := by
  rw [grantRest]
  split
  · exact .seq (handleRefusal_tells config uid ref now attempt).quiet fun _ => .pure trivial
  · refine .seq (.modify fun _ => trivial) fun _ =>
      .seq (withReservationLock_quiet config uid ref _ now) fun admitted => ?_
    split
    · exact .pure trivial
    · exact .seq (jitteredRetryAt_tells now).quiet fun _ => .seq (.modify fun _ => trivial) fun _ => .pure trivial

/-- A grant makes one create, for its own pod, and ends with it where it raises. -/
lemma grantAndAdmit_comesTo {config : Config} {uid : Uid} {ref : Ref} {ask : OnDemandAdmissionCandidate}
    {b : Except Raised Bool}
    (h : (grantAndAdmit config uid ref ask).ComesTo others (clientOutcome rules ans) s tr b s') :
    creates tr = [uid] ∧ selections tr = [] ∧ (((∃ done, b = .ok done) ∧ raisedCreates tr = []) ∨
      raisedCreates tr = [uid] ∧ (∃ e, b = .error e) ∧ ∃ q s₁, others .now s s₁ ∧ others q s₁ s') := by
  rw [grantAndAdmit_eq, call, Prog.comesTo_ask_bind] at h
  rcases h with ⟨now, s₁, tr₁, -, hnow, rfl, h⟩ | ⟨e, he, -⟩
  swap
  · exact False.elim he
  rw [Prog.comesTo_get_bind, call, Prog.comesTo_ask_bind] at h
  rcases h with ⟨attempt, s₂, tr₂, -, -, rfl, h⟩ | ⟨e, -, hcreate, rfl, rfl⟩
  · obtain ⟨hdone, hcreates, hraised, hselections⟩ := (grantRest_quiet config uid ref now attempt).comesTo h
    refine ⟨?_, hselections, .inl ⟨hdone, hraised⟩⟩
    change uid :: creates tr₂ = [uid]
    rw [hcreates]
  · exact ⟨rfl, rfl, .inr ⟨rfl, ⟨e, rfl⟩, _, s₁, hnow, hcreate⟩⟩

variable {config : Config} {notes notes' : List Handling}

/-- The candidate does not wait for capacity. -/
def unmarked (s : ControllerState) (ref : Ref) : ControllerState :=
  s.modifyCandidate ref fun c => { c with awaitingCapacity := false }

section

variable (config : Config) (rules : WireRules) (ans : ∀ q, Answer q → Prop)
  (others : Request → ControllerState → ControllerState → Prop)

/-- A turn of the grant loop as of `t`: its calls, its notes, how it ends, and the state it leaves. -/
inductive GrantTurn (r : Ready) (t : Instant) (s : ControllerState) :
    List (Tried Raised Answer) → List Handling → Except Raised Unit → ControllerState → Prop
  | held {tr : List (Tried Raised Answer)} {s₁ : ControllerState}
      (h : (holdOnFit config r.uid r.ref r.fit t).ComesTo others (clientOutcome rules ans) s tr (.ok true) s₁) :
      GrantTurn r t s tr [⟨r.uid, t, .judged⟩] (.ok ()) (unmarked s₁ r.ref)
  | tried {tr tr' : List (Tried Raised Answer)} {s₁ s₂ : ControllerState} {at_ : Instant} {done : Bool}
      (hfit : (holdOnFit config r.uid r.ref r.fit t).ComesTo others (clientOutcome rules ans) s tr (.ok false) s₁)
      (h : (grantAndAdmit config r.uid r.ref r.ask).ComesTo others (clientOutcome rules ans) s₁
        (⟨.now, .ok at_⟩ :: tr') (.ok done) s₂) :
      GrantTurn r t s (tr ++ ⟨.now, .ok at_⟩ :: tr') [⟨r.uid, t, .judged⟩, ⟨r.uid, at_, .created⟩] (.ok ())
        (if done then s₂.removeOndemandCandidate r.uid else s₂)
  | raised {tr tr' : List (Tried Raised Answer)} {s₁ s₂ : ControllerState} {at_ : Instant} {e : Raised}
      (hfit : (holdOnFit config r.uid r.ref r.fit t).ComesTo others (clientOutcome rules ans) s tr (.ok false) s₁)
      (h : (grantAndAdmit config r.uid r.ref r.ask).ComesTo others (clientOutcome rules ans) s₁
        (⟨.now, .ok at_⟩ :: tr') (.error e) s₂) :
      GrantTurn r t s (tr ++ ⟨.now, .ok at_⟩ :: tr') [⟨r.uid, t, .judged⟩, ⟨r.uid, at_, .created⟩] (.error e) s₂

end

/-- What is done first is noted. -/
lemma comesTo_noteInstant {α : Type} {uid : Uid} {w : Treatment} {k : Instant → Ctl α} {b : Except Raised α}
    (h : (Prog.noteFirst (noteInstant uid w) (call .now >>= k)).ComesTo (Prog.besideNotesAt others)
      (clientOutcome rules ans) (s, notes) tr b (s', notes')) :
    (call .now >>= k).ComesTo others (clientOutcome rules ans) s tr b s' ∧
      ∃ t tr', tr = ⟨.now, .ok t⟩ :: tr' ∧ notes' = notes ++ [⟨uid, t, w⟩] := by
  obtain ⟨hk, ⟨t, tr', rfl, rfl⟩ | ⟨e, he, -⟩⟩ := Prog.comesTo_noteFirst_ask_bind h
  · exact ⟨hk, t, tr', rfl, rfl⟩
  · exact False.elim he

lemma grantOneNoted_turn {r : Ready} {b : Except Raised Unit}
    (h : (grantOneNoted config r).ComesTo (Prog.besideNotesAt others) (clientOutcome rules ans) (s, notes) tr b
      (s', notes')) :
    ∃ t s₁ tr' added, ans .now t ∧ others .now s s₁ ∧ tr = ⟨.now, .ok t⟩ :: tr' ∧ notes' = notes ++ added ∧
      GrantTurn config rules ans others r t s₁ tr' added b s' := by
  rw [grantOneNoted, notedCall, Prog.comesTo_ask_bind] at h
  rcases h with ⟨t, ⟨s₁, _⟩, tr', ht, ⟨hnow, rfl⟩, rfl, h⟩ | ⟨e, he, -⟩
  swap
  · exact False.elim he
  refine ⟨t, s₁, tr', ?_⟩
  rw [Prog.comesTo_note_bind, Prog.comesTo_bind] at h
  rcases h with ⟨tr₁, tr₂, held, ⟨s₂, _⟩, rfl, hnoted, h⟩ | ⟨e, hnoted, -⟩
  swap
  · obtain ⟨hfit, -⟩ := Prog.comesTo_noteless.mp hnoted
    obtain ⟨⟨_, herror⟩, -⟩ := (holdOnFit_tells config r.uid r.ref t r.fit).quiet.comesTo hfit
    cases herror
  obtain ⟨hfit, rfl⟩ := Prog.comesTo_noteless.mp hnoted
  split at h
  · rename_i hheld
    obtain ⟨⟨rfl, rfl, rfl⟩, rfl⟩ := Prog.comesTo_noteless.mp h
    rw [hheld] at hfit
    rw [List.append_nil]
    exact ⟨_, ht, hnow, rfl, rfl, .held hfit⟩
  · rename_i hheld
    rw [eq_false_of_ne_true hheld] at hfit
    rw [Prog.comesTo_bind] at h
    rcases h with ⟨tr₃, tr₄, done, ⟨s₃, _⟩, rfl, hcreate, h⟩ | ⟨e, hcreate, rfl⟩
    · obtain ⟨hgrant, at_, tr₅, rfl, rfl⟩ := comesTo_noteInstant hcreate
      have hturn := GrantTurn.tried hfit hgrant
      split at h
      · rename_i hdone
        obtain ⟨⟨rfl, rfl, rfl⟩, rfl⟩ := Prog.comesTo_noteless.mp h
        rw [if_pos hdone] at hturn
        rw [List.append_nil, List.append_assoc]
        exact ⟨_, ht, hnow, rfl, rfl, hturn⟩
      · rename_i hdone
        obtain ⟨rfl, rfl, heq⟩ := h
        cases heq
        rw [if_neg hdone] at hturn
        rw [List.append_nil, List.append_assoc]
        exact ⟨_, ht, hnow, rfl, rfl, hturn⟩
    · obtain ⟨hgrant, at_, tr₅, rfl, rfl⟩ := comesTo_noteInstant hcreate
      rw [List.append_assoc]
      exact ⟨_, ht, hnow, rfl, rfl, .raised hfit hgrant⟩

/-- One candidate is withheld: how it stands is settled at once, and its owner is told after. -/
lemma handleWithheldNoted_turn {uid : Uid} {ref : Ref} {verdict : Option AdmissionWithheld} {t : Instant}
    {b : Except Raised Unit}
    (h : (handleWithheldNoted config uid ref verdict t).ComesTo (Prog.besideNotesAt others)
      (clientOutcome rules ans) (s, notes) tr b (s', notes')) :
    b = .ok () ∧ (creates tr = [] ∧ raisedCreates tr = [] ∧ selections tr = []) ∧ ∃ s₁ tr₁ tr₂, tr = tr₁ ++ tr₂ ∧
      notes' = notes ++ [⟨uid, t, .withheld ref verdict s s₁⟩] ∧
      (withheldSchedule ref verdict t).ComesTo others (clientOutcome rules ans) s tr₁ (.ok ()) s₁ ∧
      (withheldTelling config uid ref verdict t).ComesTo others (clientOutcome rules ans) s₁ tr₂ (.ok ()) s' := by
  have hquiet : Quiet (withheldSchedule ref verdict t) :=
    (withheldSchedule_within ref verdict t).mono (fun _ _ h => h) (fun _ hq => hq.1) fun _ h => h
  rw [handleWithheldNoted, Prog.comesTo_get_bind, Prog.comesTo_bind] at h
  rcases h with ⟨tr₁, tr₂, _, ⟨s₁, _⟩, rfl, hset, h⟩ | ⟨e, hset, -⟩
  swap
  · obtain ⟨hset, -⟩ := Prog.comesTo_noteless.mp hset
    obtain ⟨⟨_, herror⟩, -⟩ := hquiet.comesTo hset
    cases herror
  obtain ⟨hsettled, rfl⟩ := Prog.comesTo_noteless.mp hset
  rw [Prog.comesTo_noteSeen_bind] at h
  obtain ⟨htold, rfl⟩ := Prog.comesTo_noteless.mp h
  obtain ⟨-, hset₁, hset₂, hset₃⟩ := hquiet.comesTo hsettled
  obtain ⟨⟨_, rfl⟩, htold₁, htold₂, htold₃⟩ := (withheldTelling_tells config uid ref verdict t).quiet.comesTo htold
  refine ⟨rfl, ⟨?_, ?_, ?_⟩, s₁, tr₁, tr₂, rfl, rfl, hsettled, htold⟩
  · rw [creates_append, hset₁, htold₁, List.append_nil]
  · rw [raisedCreates_append, hset₂, htold₂, List.append_nil]
  · rw [selections_append, hset₃, htold₃, List.append_nil]

end Turns

end GpuReservation.Proofs
