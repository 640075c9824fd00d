import GpuReservation.Proofs.ReservationLock
import GpuReservation.Proofs.WaitingCandidates

/-!
# A grant admits its pod under a live lease

The grants of one system, any number of them and of any pods, among all its other tasks.
-/

namespace GpuReservation.Proofs

open GpuReservation.Library GpuReservation.Model

/-- The reference a toleration patch writes. -/
def patchOf : Request → Option Nat
  | .applyToleration _ _ _ _ _ _ reference => some reference
  | _ => none

/-- The lease is active, and among the reservations. -/
def leaseHeld (rid : Nat) (s : ControllerState) : Bool :=
  s.reservations.any fun r => r.id = rid && r.status = .active

/-- A create of a grant is answered with a reservation which is no longer active. -/
def repeatsDead (p : System) (m : SystemMove) : Bool :=
  match servedTo p m with
  | some (.grant _ _ _, .createReservation req, c) =>
    c.outcome = .done && (p.snap.world.rowOfKey req.idempotencyKey).any (·.status ≠ .active)
  | _ => false

/-- A patch of a grant lands, if it does, under a live lease. -/
def patchesLive (p : System) (m : SystemMove) : Bool :=
  match servedTo p m with
  | some (.grant _ _ _, q, _) => (patchOf q).all fun rid => leaseHeld rid p.snap.shared
  | _ => true

/-- While a grant holds the lock it relies on it, and on the reservations; and it patches under a
live lease only. -/
def leaseContract (i : Nat) : Contract ControllerState World Request Choice where
  rely σ σ' := σ.world.lockOwner = some i →
    σ'.world.lockOwner = some i ∧ SameReservations σ.shared σ'.shared
  guar _ _ := True
  issued _ _ := True
  served q σ := ∀ rid, patchOf q = some rid → leaseHeld rid σ.shared
  assumed q c σ := ∀ req row, q = .createReservation req → c.outcome = .done →
    σ.world.rowOfKey req.idempotencyKey = some row → row.status = .active
  ended _ := True
  rely_refl σ h := ⟨h, .refl σ.shared⟩
  rely_trans h₁ h₂ h :=
    ⟨(h₂ (h₁ h).1).1, (h₁ h).2.trans (h₂ (h₁ h).1).2⟩
  guar_refl _ := trivial
  guar_trans _ _ := trivial

section Grant

variable {i : Nat} {lease : ReservationResponse} {α : Type}

/-- The grant holds the lock, and its lease is among the reservations. -/
def holdsLease (i : Nat) (lease : ReservationResponse) (σ : Snap ControllerState World) : Prop :=
  σ.world.lockOwner = some i ∧ lease.status = .active ∧ lease ∈ σ.shared.reservations

lemma holdsLease_stable : Stable (leaseContract i) (holdsLease i lease) := by
  rintro σ σ' hrely ⟨hlock, hactive, hmem⟩
  obtain ⟨hlock', hsame⟩ := hrely hlock
  exact ⟨hlock', hactive, hsame.reservations ▸ hmem⟩

lemma leaseHeld_of_holds {σ : Snap ControllerState World} (h : holdsLease i lease σ) :
    leaseHeld lease.id σ.shared := by
  rw [leaseHeld, List.any_eq_true]
  exact ⟨lease, h.2.2, by simp [h.2.1]⟩

/-- A part which patches nothing and leaves the lock and the reservations alone. -/
def PatchesNothing (p : Ctl α) : Prop :=
  p.Within SameReservations (fun q => patchOf q = none ∧ lockUse q = .other) fun _ => True

lemma StampsOnly.patchesNothing {uid : Uid} {p : Ctl α} (h : StampsOnly uid p) :
    PatchesNothing p :=
  h.mono (fun _ _ => .of_admits)
    (fun q hq => by cases q <;> first | exact ⟨rfl, rfl⟩ | exact hq.elim) fun _ h => h

lemma PatchesNothing.holds {p : Ctl α} (h : PatchesNothing p) :
    Triple runtime (fun _ => True) (leaseContract i) i (holdsLease i lease) p
      fun _ => holdsLease i lease := by
  refine (Triple.of_within h holdsLease_stable ?_ ?_ fun q c w hq => answer_of_sync i hq c w).mono
    (fun _ _ h => h) fun _ _ h => h.2
  · rintro σ s' hsame - ⟨hlock, hactive, hmem⟩
    exact ⟨trivial, trivial, hlock, hactive, hsame.reservations ▸ hmem⟩
  · rintro q ⟨hpatch, huse⟩ σ - ⟨hlock, hactive, hmem⟩
    refine ⟨trivial, fun rid hrid => ?_, fun c a w _ hw => ?_⟩
    · rw [hpatch] at hrid
      cases hrid
    · exact ⟨trivial, trivial, (answer_lockOwner huse hw).trans hlock, hactive, hmem⟩

/-- A call which suspends the grant, with the lease held. -/
lemma holds_ask {q : Request} (hy : yields q = true) (huse : lockUse q = .other)
    (hpatch : ∀ rid, patchOf q = some rid → rid = lease.id) :
    Triple runtime (fun _ => True) (leaseContract i) i (holdsLease i lease) (call q)
      fun _ => holdsLease i lease := by
  refine .ask hy holdsLease_stable (fun _ => holdsLease_stable) (fun _ _ _ => trivial)
    fun σ _ h => ⟨fun rid hrid => ?_, fun c a w _ hw => ?_⟩
  · rw [hpatch rid hrid]
    exact leaseHeld_of_holds h
  · exact ⟨trivial, trivial, (answer_lockOwner huse hw).trans h.1, h.2⟩

lemma patchFreshPod_holds (uid : Uid) (ref : Ref) (gateName : Option String) {e : QueueEntry}
    (he : e.reservation = lease) (pod : Pod) :
    Triple runtime (fun _ => True) (leaseContract i) i (holdsLease i lease)
      (patchFreshPod uid ref gateName e pod) fun _ => holdsLease i lease := by
  rw [patchFreshPod]
  split
  · exact PatchesNothing.holds
      (.seq (.modify fun s => releasePod_same s uid) fun _ => .pure trivial)
  · split
    · exact (concludeAdmission_stamps uid ref pod).patchesNothing.holds
    · refine .bind (holds_ask rfl rfl fun rid h => ?_) fun landed => ?_
      · rw [← Option.some.inj h, he]
      · split
        · exact (stampAdmission_stamps uid ref pod gateName).patchesNothing.holds
        · exact (rollBack_stamps uid ref).patchesNothing.holds

/-- An attempt whose entry is for the lease. -/
lemma tryApplyToleration_holds (uid : Uid) (ref : Ref) (gateName : Option String) :
    Triple runtime (fun _ => True) (leaseContract i) i
      (fun σ => (σ.shared.entry ref).reservation = lease ∧ holdsLease i lease σ)
      (tryApplyToleration uid ref gateName) fun _ => holdsLease i lease := by
  refine .get_bind fun s => ?_
  refine .pre (P := fun σ => (s.entry ref).reservation = lease ∧ holdsLease i lease σ) ?_ ?_
  swap
  · rintro σ - ⟨rfl, h⟩
    exact h
  refine .assume fun hentry => ?_
  dsimp only
  split
  · exact (StampsOnly.patchesNothing
      (.seq (postponeEntry_stamps uid ref) fun _ => .pure trivial)).holds
  · refine .bind (PatchesNothing.holds (.modify fun _ => ⟨rfl, rfl, rfl⟩)) fun _ =>
      .bind (holds_ask rfl rfl fun _ h => by cases h) fun freshPod => ?_
    cases freshPod with
    | none => exact (rollBack_stamps uid ref).patchesNothing.holds
    | some pod => exact patchFreshPod_holds uid ref gateName hentry pod

/-- A part of a grant which neither holds the lock nor patches. -/
lemma patchesNothing_anywhere {p : Ctl α} (keeps : ControllerState → ControllerState → Prop)
    (h : p.Within keeps (fun q => patchOf q = none ∧ ∀ req, q ≠ .createReservation req)
      fun _ => True) :
    Triple runtime (fun _ => True) (leaseContract i) i (fun _ => True) p fun _ _ => True := by
  refine (Triple.of_within h (fun _ _ _ _ => trivial) ?_ ?_ fun q c w hq => answer_of_sync i hq c w).mono
    (fun _ _ h => h) fun _ _ _ => trivial
  · exact fun _ _ _ _ _ => ⟨trivial, trivial, trivial⟩
  · rintro q ⟨hpatch, -⟩ σ - -
    refine ⟨trivial, fun rid hrid => ?_, fun _ _ _ _ _ => ⟨trivial, trivial, trivial⟩⟩
    rw [hpatch] at hrid
    cases hrid

lemma TellsOnly.anywhere {p : Ctl α} (h : TellsOnly p) :
    Triple runtime (fun _ => True) (leaseContract i) i (fun _ => True) p fun _ _ => True :=
  patchesNothing_anywhere OnlyTells (h.mono (fun _ _ hk => hk)
    (fun q hq => by cases q <;> first | exact hq.elim | exact ⟨rfl, fun _ h => by cases h⟩)
    fun _ h => h)

lemma updateCandidate_anywhere (ref : Ref) {f : OnDemandCandidate → OnDemandCandidate}
    (hf : ∀ c, askOf (f c) = askOf c) :
    Triple runtime (fun _ => True) (leaseContract i) i (fun _ => True) (updateCandidate ref f)
      fun _ _ => True :=
  (updateCandidate_tells ref hf).anywhere

/-- The lease a create is answered with is active, where the app has no other row for its key. -/
lemma grantedLease_active {req : ReservationRequest} {c : Choice} {w w' : World}
    {attempt : LeaseAttempt}
    (hrow : ∀ row, c.outcome = .done → w.rowOfKey req.idempotencyKey = some row →
      row.status = .active)
    (hw : answer i (.createReservation req) c w = some (attempt, w'))
    (hlease : attempt.reservation = some lease) : lease.status = .active := by
  simp only [answer] at hw
  split at hw
  · cases hw
    cases hlease
  · cases hw
    cases hlease
  · rename_i hdone
    cases hw
    rw [World.create] at hlease
    split at hlease
    · rename_i row hget
      cases hlease
      exact hrow lease hdone hget
    · split at hlease
      · cases hlease
        rfl
      · cases hlease

variable (config : Config)

lemma admitUnderLease_patches (uid : Uid) (ref : Ref) (now : Instant)
    (hactive : lease.status = .active) :
    Triple runtime (fun _ => True) (leaseContract i) i (fun σ => σ.world.lockOwner = some i)
      (admitUnderLease config uid ref lease now) fun _ _ => True := by
  refine .get_bind fun s => .modify_bind (M := fun σ =>
    (σ.shared.entry s.entries.next).reservation = lease ∧ holdsLease i lease σ) ?_ ?_
  · rintro σ - ⟨rfl, hlock⟩
    refine ⟨trivial, trivial, ?_, hlock, hactive, mem_applyPushToActive_of_active _ hactive⟩
    have hentry : (σ.shared.upsertLease lease ((σ.shared.candidate ref).entryUnder uid lease now)).entry
        σ.shared.entries.next = (σ.shared.candidate ref).entryUnder uid lease now :=
      congrArg (fun e => e.getD default) (Heap.get?_alloc_next σ.shared.entries _)
    rw [hentry]
    rfl
  · refine .bind (tryApplyToleration_holds uid _ _) fun admitted => .get_bind fun s => ?_
    refine .pre (P := fun _ => True) ?_ fun _ _ _ => trivial
    split
    · exact .pure fun _ _ _ => trivial
    · refine patchesNothing_anywhere (fun _ _ => True) ?_
      refine .seq (.seq (.ask ⟨rfl, fun _ h => by cases h⟩) fun _ => .modify fun _ => trivial)
        fun _ => .pure trivial

lemma grantAndAdmit_patches (uid : Uid) (ref : Ref) (ask : OnDemandAdmissionCandidate) :
    Triple runtime (fun _ => True) (leaseContract i) i (fun _ => True)
      (grantAndAdmit config uid ref ask) fun _ _ => True := by
  refine .bind (patchesNothing_anywhere (fun _ _ => True)
    (.ask ⟨rfl, fun _ h => by cases h⟩)) fun now => ?_
  refine .bind get_tells.anywhere fun s => ?_
  refine .bind (R := fun attempt _ => ∀ lease, attempt.reservation = some lease →
    lease.status = .active) ?_ fun attempt => ?_
  · refine .ask rfl (fun _ _ _ _ => trivial) (fun _ _ _ _ h => h) (fun _ _ _ => trivial) ?_
    intro σ _ _
    refine ⟨fun rid hrid => ?_, fun c attempt w hassumed hw => ⟨trivial, trivial, ?_⟩⟩
    · cases hrid
    · exact fun lease hlease => grantedLease_active (fun row => hassumed _ row rfl) hw hlease
  · cases hattempt : attempt.reservation with
    | none =>
      refine .pre (P := fun _ => True) ?_ fun _ _ _ => trivial
      exact .bind (handleRefusal_tells config uid ref now attempt).anywhere fun _ =>
        .pure fun _ _ _ => trivial
    | some lease =>
      refine .pre (P := fun _ => lease.status = .active ∧ True) (.assume fun hactive => ?_)
        fun _ _ h => ⟨h lease rfl, trivial⟩
      refine .bind (updateCandidate_anywhere ref fun _ => rfl) fun _ =>
        .bind (R := fun _ _ => True) ?_ fun admitted => ?_
      · refine .bind (R := fun _ σ => σ.world.lockOwner = some i) ?_ fun _ =>
          .bind (admitUnderLease_patches config uid ref now hactive) fun admitted => ?_
        · refine .ask rfl (fun _ _ _ _ => trivial) (fun _ σ σ' hrely h => (hrely h).1)
            (fun _ _ _ => trivial) ?_
          intro σ _ _
          refine ⟨fun rid hrid => ?_, fun c a w _ hw => ?_⟩
          · cases hrid
          · exact ⟨trivial, trivial, (reservationLock.acquires rfl hw).2⟩
        · exact patchesNothing_anywhere (fun _ _ => True)
            ⟨⟨rfl, fun _ h => by cases h⟩, fun _ => trivial⟩
      · split
        · exact .pure fun _ _ _ => trivial
        · exact .bind (jitteredRetryAt_tells now).anywhere fun _ =>
            .bind (updateCandidate_anywhere ref fun _ => rfl) fun _ =>
              .pure fun _ _ _ => trivial

end Grant

/-- Something is asked of the grants only. -/
def grantContract : Job → Nat → Contract ControllerState World Request Choice
  | .grant _ _ _, i => leaseContract i
  | _, _ => .free

lemma program_grantContract (config : Config) (job : Job) (i : Nat)
    (σ : Snap ControllerState World) :
    taskOk runtime (fun _ => True) (grantContract job i) i (.ready (job.program config)) σ := by
  cases job with
  | grant uid ref ask =>
    exact taskOk_ready (P := fun _ => True) (fun _ _ _ h => h)
      (.bind (grantAndAdmit_patches config uid ref ask) fun _ => .pure fun _ _ _ => trivial) trivial
  | _ => exact taskOk_free (fun q c w hq => answer_of_sync i hq c w) _ σ

/-- The tasks share the lock in order, and every grant can go on. -/
def grantsInOrder (p : System) : Prop :=
  LockInOrder p ∧ poolOk runtime (fun _ => True) grantContract p

lemma grantsInOrder_step (config : Config) {p : System} (hp : grantsInOrder p) {m : SystemMove}
    (hm : repeatsDead p m = false) :
    grantsInOrder (systemStep config p m) ∧ patchesLive p m := by
  obtain ⟨hlock, hok⟩ := hp
  obtain ⟨hlock', hstep⟩ := lockInOrder_step config hlock m
  have hrely : othersRely grantContract p m (systemStep config p m).snap := by
    intro i job t _ _ htask
    cases job with
    | grant _ _ _ => exact fun hheld => hstep.undisturbed hheld htask
    | _ => trivial
  refine ⟨⟨hlock', poolOk_step hok (fun job _ => program_grantContract config job _ p.snap)
    (fun _ _ _ _ _ _ _ => hrely) ?_ fun e he => ⟨trivial, ?_⟩⟩, ?_⟩
  · intro i c job q k hserve hi
    cases job with
    | grant uid ref ask =>
      rintro req row rfl hdone hrow
      by_contra hdead
      have hserved : servedTo p m = some (.grant uid ref ask, .createReservation req, c) := by
        rw [hserve, servedTo, hi]
      rw [repeatsDead, hserved] at hm
      simp [hdone, hrow, hdead] at hm
    | _ => trivial
  · subst he
    exact hrely
  · cases hserved : servedTo p m with
    | none => simp [patchesLive, hserved]
    | some call =>
      obtain ⟨job, q, c⟩ := call
      cases job with
      | grant uid ref ask =>
        obtain ⟨i, k, -, hi⟩ := servedTo_some hserved
        have hq : (grantContract (.grant uid ref ask) i).served q p.snap := poolOk_served hok hi
        simp only [patchesLive, hserved, Option.all_eq_true]
        exact hq
      | _ => simp [patchesLive, hserved]

/-- Every grant patches its pod under a live lease, in every run in which no create of a grant is
answered with a reservation which is no longer active. -/
theorem grantPatches_live (config : Config) (s : ControllerState) (w : World)
    (hlock : w.lockOwner = none) (ms : List SystemMove)
    (hms : runMeets runtime (Job.program config) outside (fun p m => repeatsDead p m = false)
      ⟨⟨s, w⟩, []⟩ ms) :
    runMeets runtime (Job.program config) outside (fun p m => patchesLive p m) ⟨⟨s, w⟩, []⟩ ms := by
  have hstart : grantsInOrder ⟨⟨s, w⟩, []⟩ := by
    refine ⟨lockInOrder_start hlock, trivial, fun i job t hi => ?_⟩
    cases hi
  have hstep : ∀ p m, grantsInOrder p → repeatsDead p m = false →
      grantsInOrder (systemStep config p m) ∧ patchesLive p m :=
    fun p m hp hm => grantsInOrder_step config hp hm
  exact runMeets_of_step hstep hstart hms

/-- A candidate the app grants, its pod kept pending by the taint of its class. -/
def grantable : Snap ControllerState World where
  shared := { candidates := ⟨[taintedCandidate]⟩, ondemandCandidates := Dict.ofList [("A", 0)] }
  world :=
    { pods := Dict.ofList [(("ns", "a"), taintedPod)]
      created := Dict.ofList [("A", ("ns", "a"))] }

def leaseAsk : OnDemandAdmissionCandidate where
  podUid := "A"
  podCreatedAt := 0
  username := "ns"
  groupName := some "g"
  gpuClassId := 1
  gpuCount := 1
  durationSeconds := 4200
  bestEffort := false

/-- A grant of the candidate to task `i`, whose read of the pod goes as told. -/
def grantUntilRead (i : Nat) (read : Outcome) : List SystemMove :=
  [.spawn (.grant "A" 0 leaseAsk), .run i [], .serve i {}, .run i [], .serve i {}, .run i [],
    .serve i { outcome := read }, .run i []]

/-- The one attempt is made, and its patch lands. -/
theorem grantPatches_live_oneAttempt :
    runMeets runtime (Job.program {}) outside (fun p m => patchesLive p m)
      ⟨⟨grantable.shared, grantable.world⟩, []⟩ (grantUntilRead 0 .done ++ [.serve 0 {}]) :=
  grantPatches_live {} grantable.shared grantable.world rfl _ (by decide +kernel)

/-- The attempt does patch its pod. -/
example : ((servedTo (systemRun {} ⟨grantable, []⟩ (grantUntilRead 0 .done))
    (.serve 0 {} : SystemMove)).bind fun served => patchOf served.2.1) = some 0 := by
  decide +kernel

/-- The read of the first attempt fails, its lease is cancelled, and the second attempt is answered
with that lease again. -/
theorem grantPatches_not_live :
    ¬ ∀ (config : Config) (s : ControllerState) (w : World), w.lockOwner = none →
      ∀ ms : List SystemMove,
        runMeets runtime (Job.program config) outside (fun p m => patchesLive p m) ⟨⟨s, w⟩, []⟩ ms := by
  intro h
  have hruns := h {} grantable.shared grantable.world rfl
    (grantUntilRead 0 .refused ++ [.serve 0 {}, .run 0 []] ++ grantUntilRead 1 .done ++
      [.serve 1 {}])
  revert hruns
  decide +kernel

end GpuReservation.Proofs
