import GpuReservation.Library.RelyGuarantee
import GpuReservation.Model.Singleton

/-!
# The singleton lease is held by one

A write is conditional on the version which was read, and its stamp was taken before the read.  So
what a takeover found expired has expired when it is carried out, and a lease is replaced by its
own holder only with a later stamp.
-/

namespace GpuReservation.Proofs

open GpuReservation.Library GpuReservation.Model

variable {durationS : Int} {start : Nat} {w w' : Coordination} {holder : String} {r n : Instant}

/-- The recorded renew time is within the lease duration. -/
def within (durationS : Int) (r now : Instant) : Prop := (now - r).tdiv 1000000 ≤ durationS

instance (durationS : Int) (r now : Instant) : Decidable (within durationS r now) :=
  inferInstanceAs (Decidable (_ ≤ _))

lemma within_mono {r' now now' : Instant} (hnow : now ≤ now') (hr : r ≤ r')
    (h : within durationS r now') : within durationS r' now := by
  have hle : now - r' ≤ now' - r := Int.sub_le_sub hnow hr
  exact le_trans (Int.tdiv_le_tdiv (by decide) hle) h

lemma leaseExpired_mono {spec : V1LeaseSpec} {now now' : Instant} (hnow : now ≤ now')
    (h : leaseExpired spec durationS now = true) : leaseExpired spec durationS now' = true := by
  unfold leaseExpired leaseAgeSeconds at *
  cases hr : spec.renewTime with
  | none => rfl
  | some renewed =>
    rw [hr] at h
    have hage : (now - renewed).tdiv 1000000 ≤ (now' - renewed).tdiv 1000000 :=
      Int.tdiv_le_tdiv (by decide) (Int.sub_le_sub_right hnow renewed)
    simp only [Option.map_some, decide_eq_true_eq] at h ⊢
    omega

lemma leaseExpired_iff {spec : V1LeaseSpec} {now : Instant}
    (hduration : spec.leaseDurationSeconds = some durationS) (hr : spec.renewTime = some r) :
    leaseExpired spec durationS now = true ↔ ¬within durationS r now := by
  unfold leaseExpired leaseAgeSeconds leaseExpiry within
  rw [hduration, hr]
  simp

section

variable (durationS : Int) (start : Nat)

/-- The lease is held by the instance, and was renewed at the time or later. -/
def HeldSince (w : Coordination) (holder : String) (r : Instant) : Prop :=
  start < w.lease.version ∧ ∃ spec r', w.lease.value = some spec ∧
    spec.holderIdentity = some holder ∧ spec.leaseDurationSeconds = some durationS ∧
      spec.renewTime = some r' ∧ r ≤ r'

/-- As long as the time of the success is within the duration, the lease is held since then. -/
def Granted (w : Coordination) (holder : String) (r : Instant) : Prop :=
  within durationS r w.clock → HeldSince durationS start w holder r

/-- Every write of the instance was stamped no later than this. -/
structure StampedBy (w : Coordination) (holder : String) (n : Instant) : Prop where
  past : n ≤ w.clock
  inFlight : ∀ u ∈ w.inFlight, u.value.holderIdentity = some holder →
    ∀ r, u.value.renewTime = some r → r ≤ n
  lease : start < w.lease.version → ∀ spec, w.lease.value = some spec →
    spec.holderIdentity = some holder → ∀ r, spec.renewTime = some r → r ≤ n

/-- A write stamped then by the instance may replace the lease: it is its own, and not renewed
later, or it has expired. -/
def MayReplace (w : Coordination) (holder : String) (n : Instant) (spec : V1LeaseSpec) : Prop :=
  (spec.holderIdentity = some holder → start < w.lease.version →
    ∀ r, spec.renewTime = some r → r ≤ n) ∧
  ∀ other, spec.holderIdentity = some other → other ≠ holder →
    leaseExpired spec durationS w.clock = true

structure SafeWrite (w : Coordination) (holder : String) (n : Instant) (u : Update V1LeaseSpec) :
    Prop where
  owned : u.value.holderIdentity = some holder
  duration : u.value.leaseDurationSeconds = some durationS
  stamp : u.value.renewTime = some n
  past : n ≤ w.clock
  notAhead : u.NotAhead w.lease.version
  replaces : w.lease.Fits u → ∀ spec, w.lease.value = some spec →
    MayReplace durationS start w holder n spec

/-- What holds of the instance's writes and of its grants still holds. -/
structure Keeps (holder : String) (w w' : Coordination) : Prop where
  evolves : w.lease.Evolves w'.lease
  clock : w.clock ≤ w'.clock
  stamped : ∀ n, StampedBy start w holder n → StampedBy start w' holder n
  granted : ∀ r, Granted durationS start w holder r → Granted durationS start w' holder r

/-- What holds between the steps of the instances. -/
structure LeaseRight (σ : Snap LeaseBook Coordination) : Prop where
  later : start ≤ σ.world.lease.version
  inFlight : ∀ u ∈ σ.world.inFlight, ∃ holder n, SafeWrite durationS start σ.world holder n u
  stamped : start < σ.world.lease.version → ∀ spec, σ.world.lease.value = some spec →
    ∀ r, spec.renewTime = some r → r ≤ σ.world.clock
  recorded : ∀ holder r, σ.shared.renewedAt holder = some r →
    Granted durationS start σ.world holder r

end

lemma Keeps.refl : Keeps durationS start holder w w where
  evolves := .refl _
  clock := le_refl _
  stamped _ h := h
  granted _ h := h

lemma Keeps.trans {w'' : Coordination} (h : Keeps durationS start holder w w')
    (h' : Keeps durationS start holder w' w'') : Keeps durationS start holder w w'' where
  evolves := h.evolves.trans h'.evolves
  clock := le_trans h.clock h'.clock
  stamped n hn := h'.stamped n (h.stamped n hn)
  granted r hr := h'.granted r (h.granted r hr)

lemma SafeWrite.keeps {u : Update V1LeaseSpec} (hevolves : w.lease.Evolves w'.lease)
    (hclock : w.clock ≤ w'.clock) (h : SafeWrite durationS start w holder n u) :
    SafeWrite durationS start w' holder n u where
  owned := h.owned
  duration := h.duration
  stamp := h.stamp
  past := le_trans h.past hclock
  notAhead m v hu := le_trans (h.notAhead m v hu) hevolves.version_le
  replaces hfits spec hspec := by
    have hsame : w'.lease = w.lease := Versioned.eq_of_fits hevolves h.notAhead hfits
    rw [hsame] at hfits hspec
    obtain ⟨hown, hother⟩ := h.replaces hfits spec hspec
    refine ⟨hsame ▸ hown, fun other hholder hne => ?_⟩
    exact leaseExpired_mono hclock (hother other hholder hne)

/-- The lease an instance holds within the duration is replaced by its own writes only. -/
lemma SafeWrite.granted {u : Update V1LeaseSpec} (h : SafeWrite durationS start w holder n u)
    {other : String} (hr : Granted durationS start w other r) :
    Granted durationS start (w.write u) other r := by
  cases haccepts : w.lease.accepts u with
  | false =>
    have hsame : w.write u = w := by
      unfold Coordination.write
      rw [Versioned.update_rejected haccepts]
    rw [hsame]
    exact hr
  | true =>
    intro hwithin
    obtain ⟨hversion, spec, r', hspec, hholder, hduration, hrenew, hle⟩ := hr hwithin
    obtain ⟨hown, hother⟩ := h.replaces (Versioned.fits_of_accepts haccepts) spec hspec
    have hlease : (w.write u).lease = ⟨some u.value, w.lease.version + 1⟩ :=
      Versioned.update_accepted haccepts
    by_cases hsame : other = holder
    · subst hsame
      have hstamp : r' ≤ n := hown hholder hversion r' hrenew
      refine ⟨?_, u.value, n, ?_, h.owned, h.duration, h.stamp, le_trans hle hstamp⟩
      · rw [hlease]
        exact Nat.lt_succ_of_lt hversion
      · rw [hlease]
    · have hexpired : leaseExpired spec durationS w.clock = true := hother other hholder hsame
      have hlive : within durationS r' w.clock := within_mono (le_refl _) hle hwithin
      exact absurd hlive ((leaseExpired_iff hduration hrenew).mp hexpired)

/-- A write of another instance, or one which was stamped before, leaves an instance its grants. -/
lemma SafeWrite.keeps_write {u : Update V1LeaseSpec} (h : SafeWrite durationS start w holder n u)
    {other : String}
    (hstamp : other = holder → ∀ m, StampedBy start w other m → n ≤ m) :
    Keeps durationS start other w (w.write u) where
  evolves := Versioned.update_evolves w.lease u
  clock := le_refl _
  granted r hr := h.granted hr
  stamped m hm := by
    refine ⟨hm.past, hm.inFlight, ?_⟩
    cases haccepts : w.lease.accepts u with
    | false =>
      have hsame : (w.write u).lease = w.lease := Versioned.update_rejected haccepts
      rw [hsame]
      exact hm.lease
    | true =>
      have hlease : (w.write u).lease = ⟨some u.value, w.lease.version + 1⟩ :=
        Versioned.update_accepted haccepts
      rw [hlease]
      intro _ spec hspec hholder r hr
      cases hspec
      have hother : other = holder := by
        rw [h.owned] at hholder
        exact (Option.some.inj hholder).symm
      rw [h.stamp] at hr
      cases hr
      exact hstamp hother m hm

lemma LeaseRight.write {σ : Snap LeaseBook Coordination} (hσ : LeaseRight durationS start σ)
    {u : Update V1LeaseSpec} (h : SafeWrite durationS start σ.world holder n u) :
    LeaseRight durationS start { σ with world := σ.world.write u } where
  later := le_trans hσ.later (Versioned.update_evolves _ u).version_le
  inFlight v hv := by
    obtain ⟨other, m, hsafe⟩ := hσ.inFlight v hv
    exact ⟨other, m, hsafe.keeps (Versioned.update_evolves _ u) (le_refl _)⟩
  stamped := by
    cases haccepts : σ.world.lease.accepts u with
    | false =>
      have hsame : (σ.world.write u).lease = σ.world.lease := Versioned.update_rejected haccepts
      dsimp only
      rw [hsame]
      exact hσ.stamped
    | true =>
      have hlease : (σ.world.write u).lease = ⟨some u.value, σ.world.lease.version + 1⟩ :=
        Versioned.update_accepted haccepts
      dsimp only
      rw [hlease]
      intro _ spec hspec r hr
      cases hspec
      rw [h.stamp] at hr
      cases hr
      exact h.past
  recorded other r hr := h.granted (hσ.recorded other r hr)

/-- What was read is what is there, unless the version has gone on. -/
def ReadAt (lease : V1Lease) (w : Coordination) : Prop :=
  ∃ v, lease.resourceVersion = some v ∧ v ≤ w.lease.version ∧
    (w.lease.version ≤ v → w.lease.value = some lease.spec)

lemma ReadAt.keeps {lease : V1Lease} (hevolves : w.lease.Evolves w'.lease) (h : ReadAt lease w) :
    ReadAt lease w' := by
  obtain ⟨v, hv, hle, hspec⟩ := h
  refine ⟨v, hv, le_trans hle hevolves.version_le, fun hlatest => ?_⟩
  have hsame : w'.lease = w.lease := hevolves.eq_of_version (le_trans hlatest hle)
  rw [hsame] at hlatest ⊢
  exact hspec hlatest

lemma leaseRead_readAt {lease : V1Lease} (h : leaseRead w.lease = .ok lease) : ReadAt lease w := by
  unfold leaseRead at h
  cases hv : w.lease.value with
  | none =>
    rw [hv] at h
    cases h
  | some spec =>
    rw [hv] at h
    cases h
    exact ⟨w.lease.version, rfl, le_refl _, fun _ => hv⟩

/-- A lease which was read after the stamp was taken may be replaced if it was its own, nobody's,
or had expired at the stamp. -/
lemma safeWrite_replace {lease : V1Lease} (hread : ReadAt lease w)
    (hstamp : StampedBy start w holder n) (acquire : Bool) (transitions : Int)
    (hfree : ∀ other, lease.spec.holderIdentity = some other → other ≠ holder →
      leaseExpired lease.spec durationS n = true) :
    SafeWrite durationS start w holder n
      (.replace lease.resourceVersion (leaseBody holder durationS n acquire transitions)) := by
  obtain ⟨v, hv, hle, hspec⟩ := hread
  refine ⟨rfl, rfl, rfl, hstamp.past, fun m body hu => ?_, fun hfits spec hvalue => ?_⟩
  · rw [hv] at hu
    cases hu
    exact hle
  · have hlatest : v = w.lease.version := Option.some.inj (hv.symm.trans hfits)
    rw [hspec hlatest.ge] at hvalue
    cases hvalue
    refine ⟨fun hown hversion r hr => ?_, fun other hother hne => ?_⟩
    · exact hstamp.lease hversion lease.spec (hspec hlatest.ge) hown r hr
    · exact leaseExpired_mono hstamp.past (hfree other hother hne)

lemma safeWrite_create (hstamp : StampedBy start w holder n) (acquire : Bool) :
    SafeWrite durationS start w holder n (.create (leaseBody holder durationS n acquire 0)) := by
  refine ⟨rfl, rfl, rfl, hstamp.past, fun m body hu => ?_, fun hfits spec hvalue => ?_⟩
  · cases hu
  have hnone : w.lease.value = none := hfits
  rw [hnone] at hvalue
  cases hvalue

section

variable (durationS : Int) (start : Nat)

/-- An instance relies on the others to leave it its writes and its grants, and makes safe writes
only. -/
def singletonContract (a : Instance) :
    Contract LeaseBook Coordination LeaseRequest Delivery where
  rely σ σ' := Keeps durationS start a.holder σ.world σ'.world
  guar σ σ' := ∀ other, other ≠ a.holder → Keeps durationS start other σ.world σ'.world
  issued _ _ := True
  served q σ := ∀ u, q = .write u → ∃ n, SafeWrite durationS start σ.world a.holder n u
  assumed _ _ _ := True
  ended _ := True
  rely_refl _ := .refl
  rely_trans h h' := h.trans h'
  guar_refl _ _ _ := .refl
  guar_trans h h' other hne := (h other hne).trans (h' other hne)

variable (a : Instance) (i : Nat)

/-- The rule of the instance. -/
abbrev LeaseTriple {α : Type} (P : Coordination → Prop) (p : LeaseProg α)
    (R : α → Coordination → Prop) : Prop :=
  Triple leaseRuntime (LeaseRight durationS start) (singletonContract durationS start a) i
    (fun σ => P σ.world) p fun x σ => R x σ.world

end

variable {a : Instance} {i : Nat}

lemma utcNow_stamped : LeaseTriple durationS start a i (fun _ => True) utcNow
    fun now w => StampedBy start w a.holder now := by
  refine .ask_sync rfl fun σ hσ _ ch => ?_
  refine ⟨σ.world.clock, σ.world, rfl, fun _ _ => .refl, hσ, le_refl _, fun u hu _ r hr => ?_, ?_⟩
  · obtain ⟨other, m, hsafe⟩ := hσ.inFlight u hu
    rw [hsafe.stamp] at hr
    cases hr
    exact hsafe.past
  · exact fun hversion spec hspec _ r hr => hσ.stamped hversion spec hspec r hr

lemma read_readAt : LeaseTriple durationS start a i (fun w => StampedBy start w a.holder n)
    readNamespacedLease fun ans w =>
      (∀ lease, ans = .ok lease → ReadAt lease w) ∧ StampedBy start w a.holder n := by
  refine .ask rfl (fun σ σ' hrely h => hrely.stamped n h) ?_ (fun _ _ _ => trivial) ?_
  · intro ans σ σ' hrely h
    exact ⟨fun lease hok => (h.1 lease hok).keeps hrely.evolves, hrely.stamped n h.2⟩
  · intro σ hσ hstamp
    refine ⟨fun u hu => ?_, fun ch ans w _ hans => ?_⟩
    · cases hu
    have hw : w = σ.world := by
      cases ch <;> exact (Prod.mk.inj (Option.some.inj hans)).2.symm
    subst hw
    refine ⟨fun _ _ => .refl, hσ, fun lease hok => ?_, hstamp⟩
    subst hok
    cases ch with
    | answered => exact leaseRead_readAt (Prod.mk.inj (Option.some.inj hans)).1
    | _ => cases (Prod.mk.inj (Option.some.inj hans)).1

/-- A write which succeeds grants the lease from its stamp on. -/
lemma write_granted (u : Update V1LeaseSpec) :
    LeaseTriple durationS start a i (fun w => SafeWrite durationS start w a.holder n u)
      (Prog.ask (LeaseRequest.write u) : LeaseProg (Except ApiFailure Unit)) fun ans w =>
        ans = .ok () → Granted durationS start w a.holder n := by
  refine .ask rfl (fun σ σ' hrely h => h.keeps hrely.evolves hrely.clock) ?_
    (fun _ _ _ => trivial) ?_
  · exact fun ans σ σ' hrely h hok => hrely.granted n (h hok)
  intro σ hσ hsafe
  refine ⟨fun v hv => ?_, fun ch ans w _ hans => ?_⟩
  · cases hv
    exact ⟨n, hsafe⟩
  · have hwrite : ∀ other, other ≠ a.holder →
        Keeps durationS start other σ.world (σ.world.write u) :=
      fun other hne => hsafe.keeps_write fun hother => absurd hother hne
    cases ch with
    | answered =>
      obtain ⟨rfl, rfl⟩ := Prod.mk.inj (Option.some.inj hans)
      refine ⟨hwrite, hσ.write hsafe, fun hok _ => ?_⟩
      cases haccepts : σ.world.lease.accepts u with
      | false =>
        rw [haccepts] at hok
        cases hok
      | true =>
        have hlease : (σ.world.write u).lease = ⟨some u.value, σ.world.lease.version + 1⟩ :=
          Versioned.update_accepted haccepts
        refine ⟨?_, u.value, n, ?_, hsafe.owned, hsafe.duration, hsafe.stamp, le_refl _⟩
        · rw [hlease]
          exact Nat.lt_succ_of_le hσ.later
        · rw [hlease]
    | refused exc =>
      obtain ⟨rfl, rfl⟩ := Prod.mk.inj (Option.some.inj hans)
      exact ⟨fun _ _ => .refl, hσ, fun hok => by cases hok⟩
    | unanswered exc =>
      obtain ⟨rfl, rfl⟩ := Prod.mk.inj (Option.some.inj hans)
      exact ⟨hwrite, hσ.write hsafe, fun hok => by cases hok⟩
    | delayed exc =>
      obtain ⟨rfl, rfl⟩ := Prod.mk.inj (Option.some.inj hans)
      refine ⟨fun other hne => ?_, ?_, fun hok => by cases hok⟩
      · refine ⟨.refl _, le_refl _, fun m hm => ⟨hm.past, fun v hv hown r hr => ?_, hm.lease⟩,
          fun r hr => hr⟩
        cases List.mem_cons.mp hv with
        | inl heq =>
          rw [heq, hsafe.owned] at hown
          exact absurd (Option.some.inj hown).symm hne
        | inr hmem => exact hm.inFlight v hmem hown r hr
      · have hsame : σ.world.lease.Evolves σ.world.lease := .refl _
        refine ⟨hσ.later, fun v hv => ?_, hσ.stamped, hσ.recorded⟩
        cases List.mem_cons.mp hv with
        | inl heq =>
          subst heq
          exact ⟨a.holder, n, SafeWrite.keeps hsame (le_refl _) hsafe⟩
        | inr hmem =>
          obtain ⟨other, m, hother⟩ := hσ.inFlight v hmem
          exact ⟨other, m, SafeWrite.keeps hsame (le_refl _) hother⟩

/-- A call which ends with a write succeeds only if the write did. -/
lemma write_settles (u : Update V1LeaseSpec) {f : Except ApiFailure Unit → LeaseProg LeaseOutcome}
    {out : LeaseOutcome} (hfailed : ∀ exc, f (.error exc) = pure (.failed exc))
    (hdone : f (.ok ()) = pure out) :
    LeaseTriple durationS start a i (fun w => SafeWrite durationS start w a.holder n u)
      ((Prog.ask (LeaseRequest.write u) : LeaseProg (Except ApiFailure Unit)) >>= f) fun out w =>
        out.status = .acquired → Granted durationS start w a.holder n := by
  refine (write_granted u).bind fun ans => ?_
  cases ans with
  | error exc =>
    rw [hfailed]
    exact .pure fun σ _ _ hacquired => by cases hacquired
  | ok x =>
    rw [hdone]
    exact .pure fun σ _ hgranted _ => hgranted rfl

lemma acquireSingletonLease_granted :
    LeaseTriple durationS start a i (fun w => StampedBy start w a.holder n)
      (acquireSingletonLease n a.holder durationS) fun out w =>
        out.status = .acquired → Granted durationS start w a.holder n := by
  unfold acquireSingletonLease
  refine read_readAt.bind fun ans => ?_
  cases ans with
  | error exc =>
    dsimp only
    refine .ite (.pure fun _ _ _ hacquired => by cases hacquired) ?_
    refine (write_settles _ (fun _ => rfl) rfl).pre fun σ _ h => ?_
    exact safeWrite_create h.2 true
  | ok lease =>
    dsimp only
    split
    · rename_i hown
      refine (write_settles _ (fun _ => rfl) rfl).pre fun σ _ h => ?_
      refine safeWrite_replace (h.1 lease rfl) h.2 true _ fun other hother hne => ?_
      exact absurd (Option.some.inj (hother.symm.trans hown)) hne
    · split
      · rename_i hexpired
        refine (write_settles _ (fun _ => rfl) rfl).pre fun σ _ h => ?_
        exact safeWrite_replace (h.1 lease rfl) h.2 true _ fun _ _ _ => hexpired
      · exact .pure fun _ _ _ hacquired => by cases hacquired

lemma renewSingletonLease_granted :
    LeaseTriple durationS start a i (fun w => StampedBy start w a.holder n)
      (renewSingletonLease n a.holder durationS) fun out w =>
        out.status = .acquired → Granted durationS start w a.holder n := by
  unfold renewSingletonLease
  refine read_readAt.bind fun ans => ?_
  cases ans with
  | error exc => exact .pure fun _ _ _ hacquired => by cases hacquired
  | ok lease =>
    dsimp only
    split
    · exact .pure fun _ _ _ hacquired => by cases hacquired
    · rename_i hfree
      refine (write_settles _ (fun _ => rfl) rfl).pre fun σ _ h => ?_
      refine safeWrite_replace (h.1 lease rfl) h.2 false _ fun other hother hne => ?_
      by_contra hlive
      refine hfree ⟨?_, ?_, eq_false_of_ne_true hlive⟩
      · rw [hother]
        exact Option.some_ne_none other
      · rw [hother]
        exact fun h => hne (Option.some.inj h)

/-- What an instance records as its last success was granted. -/
lemma record_right {now : Instant} :
    LeaseTriple durationS start a i (fun w => Granted durationS start w a.holder now)
      (Prog.modify fun book => book.record a.holder now) fun _ _ => True := by
  refine .modify fun σ hσ hgranted => ?_
  refine ⟨fun _ _ => .refl, ⟨hσ.later, hσ.inFlight, hσ.stamped, ?_⟩, trivial⟩
  intro holder r hr
  change Function.update σ.shared.renewedAt a.holder (some now) holder = some r at hr
  rw [Function.update_apply] at hr
  split at hr
  · rename_i hholder
    cases hr
    exact hholder ▸ hgranted
  · exact hσ.recorded holder r hr

lemma leaseCall_right (call : LeaseCall) :
    LeaseTriple durationS start a i (fun _ => True) (leaseCall a.holder durationS call)
      fun _ _ => True := by
  unfold leaseCall
  refine utcNow_stamped.bind fun now => ?_
  have hcall : LeaseTriple durationS start a i (fun w => StampedBy start w a.holder now)
      (call.program now a.holder durationS) fun out w =>
        out.status = .acquired → Granted durationS start w a.holder now := by
    cases call with
    | acquire => exact acquireSingletonLease_granted
    | renew => exact renewSingletonLease_granted
  refine hcall.bind fun out => ?_
  split
  · rename_i hacquired
    exact (record_right.pre fun σ _ h => h hacquired).bind fun _ => .pure fun _ _ _ => trivial
  · exact .pure fun _ _ _ => trivial

lemma leaseGuardLoop_right (rounds : Nat) (held : Bool) :
    LeaseTriple durationS start a i (fun _ => True) (leaseGuardLoop a.holder durationS rounds held)
      fun _ _ => True := by
  induction rounds generalizing held with
  | zero => exact .pure fun _ _ _ => trivial
  | succ rounds ih =>
    have hsleep : LeaseTriple durationS start a i (fun _ => True) leaseSleep fun _ _ => True := by
      refine .ask rfl (fun _ _ _ h => h) (fun _ _ _ _ h => h) (fun _ _ _ => trivial) ?_
      intro σ hσ _
      refine ⟨fun u hu => ?_, fun ch x w _ hans => ?_⟩
      · cases hu
      obtain ⟨-, rfl⟩ := Prod.mk.inj (Option.some.inj hans)
      exact ⟨fun _ _ => .refl, hσ, trivial⟩
    unfold leaseGuardLoop
    refine hsleep.bind fun _ => (leaseCall_right _).bind fun out => ?_
    split
    · exact .pure fun _ _ _ => trivial
    · exact .pure fun _ _ _ => trivial
    · exact ih held
    · exact ih true

lemma program_right (a : Instance) (i : Nat) :
    LeaseTriple durationS start a i (fun _ => True) (a.program durationS) fun _ _ => True := by
  unfold Instance.program
  split
  · refine .forM_keep (fun call => ?_) _
    exact (leaseCall_right call).bind fun _ => .pure fun _ _ _ => trivial
  · unfold claimSingletonLease
    refine Triple.bind (R := fun _ _ => True) ((leaseCall_right .acquire).bind fun out => ?_)
      fun held => ?_
    · split
      all_goals exact .pure fun _ _ _ => trivial
    · split
      · exact .pure fun _ _ _ => trivial
      · exact leaseGuardLoop_right _ _

/-! All of them together. -/

/-- An instance which is started has an identity no other instance has. -/
def startsDistinct (p : Instances) : InstanceMove → Prop
  | .spawn a => ∀ b ∈ p.labels, b.holder ≠ a.holder
  | _ => True

instance (p : Instances) (m : InstanceMove) : Decidable (startsDistinct p m) := by
  unfold startsDistinct
  cases m <;> infer_instance

def instanceStep (durationS : Int) : Instances → InstanceMove → Instances :=
  step leaseRuntime (Instance.program durationS) leaseOutside

def instanceRun (durationS : Int) : Instances → List InstanceMove → Instances :=
  runMoves leaseRuntime (Instance.program durationS) leaseOutside

/-- The write which the step carries out. -/
def carriedOut (p : Instances) (m : InstanceMove) : Option (Update V1LeaseSpec) :=
  match servedTo p m, m with
  | some (_, .write u, .answered), _ => some u
  | some (_, .write u, .unanswered _), _ => some u
  | none, .event (.arrives i) => p.snap.world.inFlight[i]?
  | _, _ => none

/-- A call succeeds only by a write which is accepted, and a write is accepted only where no other
holder's lease is unexpired. -/
def replacesNoOther (durationS : Int) (p : Instances) (m : InstanceMove) : Prop :=
  ∀ u, carriedOut p m = some u → p.snap.world.lease.accepts u = true →
    ∀ spec other, p.snap.world.lease.value = some spec → spec.holderIdentity = some other →
      u.value.holderIdentity ≠ some other →
        leaseExpired spec durationS p.snap.world.clock = true

/-- The identities are distinct, and every instance can go on. -/
structure InstancesRight (durationS : Int) (start : Nat) (p : Instances) : Prop where
  distinct : (p.labels.map Instance.holder).Nodup
  ok : poolOk leaseRuntime (LeaseRight durationS start)
    (fun a _ => singletonContract durationS start a) p

lemma InstancesRight.holder_ne {p : Instances} (hp : InstancesRight durationS start p) {i j : Nat}
    {a b : Instance} {t t' : Task LeaseBook LeaseRequest LeaseAnswer}
    (hi : p.tasks[i]? = some (a, t)) (hj : p.tasks[j]? = some (b, t')) (hij : i ≠ j) :
    a.holder ≠ b.holder := by
  intro heq
  have hai : (p.labels.map Instance.holder)[i]? = some a.holder := by
    unfold Pool.labels
    rw [List.getElem?_map, List.getElem?_map, hi]
    rfl
  have hbj : (p.labels.map Instance.holder)[j]? = some b.holder := by
    unfold Pool.labels
    rw [List.getElem?_map, List.getElem?_map, hj]
    rfl
  have hlt : i < (p.labels.map Instance.holder).length := (List.getElem?_eq_some_iff.mp hai).1
  exact hij ((List.getElem?_inj hlt hp.distinct).mp (by rw [hai, hbj, heq]))

lemma LeaseRight.outside {σ : Snap LeaseBook Coordination} (hσ : LeaseRight durationS start σ)
    (e : LeaseEvent) : LeaseRight durationS start (leaseOutside e σ) ∧
      ∀ other, Keeps durationS start other σ.world (leaseOutside e σ).world := by
  cases e with
  | tick k =>
    have hclock : σ.world.clock ≤ σ.world.clock + (k : Int) :=
      Int.le_add_of_nonneg_right (Int.natCast_nonneg k)
    have hsame : σ.world.lease.Evolves σ.world.lease := .refl _
    have hgranted : ∀ other r, Granted durationS start σ.world other r →
        Granted durationS start (leaseOutside (.tick k) σ).world other r :=
      fun other r hr hwithin => hr (within_mono hclock (le_refl _) hwithin)
    refine ⟨⟨hσ.later, fun u hu => ?_, fun hversion spec hspec r hr => ?_, fun other r hr => ?_⟩,
      fun other => ⟨hsame, hclock, fun m hm => ?_, hgranted other⟩⟩
    · obtain ⟨holder, m, hsafe⟩ := hσ.inFlight u hu
      exact ⟨holder, m, SafeWrite.keeps hsame hclock hsafe⟩
    · exact le_trans (hσ.stamped hversion spec hspec r hr) hclock
    · exact hgranted other r (hσ.recorded other r hr)
    · exact ⟨le_trans hm.past hclock, hm.inFlight, hm.lease⟩
  | arrives k =>
    change LeaseRight durationS start { σ with world := σ.world.arrive k } ∧
      ∀ other, Keeps durationS start other σ.world (σ.world.arrive k)
    unfold Coordination.arrive
    cases hu : σ.world.inFlight[k]? with
    | none => exact ⟨hσ, fun _ => .refl⟩
    | some u =>
      have hmem : u ∈ σ.world.inFlight := List.mem_of_getElem? hu
      obtain ⟨holder, m, hsafe⟩ := hσ.inFlight u hmem
      refine ⟨hσ.write hsafe, fun other => hsafe.keeps_write fun hother m' hm' => ?_⟩
      exact hm'.inFlight u hmem (hother ▸ hsafe.owned) m hsafe.stamp

lemma instancesRight_step {p : Instances} (hp : InstancesRight durationS start p)
    {m : InstanceMove} (hm : startsDistinct p m) :
    InstancesRight durationS start (instanceStep durationS p m) ∧ replacesNoOther durationS p m := by
  have hothers : ∀ e, m = .event e → LeaseRight durationS start (leaseOutside e p.snap) ∧
      othersRely (fun a _ => singletonContract durationS start a) p m (leaseOutside e p.snap) := by
    intro e he
    obtain ⟨hright, hkeeps⟩ := hp.ok.1.outside e
    exact ⟨hright, fun i a t _ _ _ => hkeeps a.holder⟩
  refine ⟨⟨?_, poolOk_step hp.ok (fun a _ => ?_) ?_ (fun _ _ _ _ _ _ _ => trivial) hothers⟩, ?_⟩
  · unfold instanceStep
    rw [step_labels]
    cases m with
    | spawn a =>
      rw [List.map_append]
      refine List.Nodup.append hp.distinct (List.nodup_singleton _) ?_
      refine List.disjoint_singleton.mpr fun hmem => ?_
      obtain ⟨b, hb, hholder⟩ := List.mem_map.mp hmem
      exact hm b hb hholder
    | _ =>
      rw [Move.spawned]
      · exact (List.append_nil p.labels).symm ▸ hp.distinct
      · exact fun _ h => by cases h
  · exact taskOk_ready (P := fun _ => True) (fun _ _ _ h => h) (program_right a _) trivial
  · intro j a t hj hi hguar _ i b t' hi' _ hij
    refine hguar b.holder (hp.holder_ne hi' hi fun heq => ?_)
    exact hij (heq ▸ hj)
  · intro u hu haccepts spec other hspec hholder hne
    have hsafe : ∃ holder n, SafeWrite durationS start p.snap.world holder n u := by
      rw [carriedOut.eq_def] at hu
      split at hu
      · rename_i hserved
        cases hu
        obtain ⟨i, k, -, hi⟩ := servedTo_some hserved
        obtain ⟨n, hn⟩ := poolOk_served hp.ok hi u rfl
        exact ⟨_, n, hn⟩
      · rename_i hserved
        cases hu
        obtain ⟨i, k, -, hi⟩ := servedTo_some hserved
        obtain ⟨n, hn⟩ := poolOk_served hp.ok hi u rfl
        exact ⟨_, n, hn⟩
      · exact hp.ok.1.inFlight u (List.mem_of_getElem? hu)
      · cases hu
    obtain ⟨holder, n, hsafe⟩ := hsafe
    have hfree := (hsafe.replaces (Versioned.fits_of_accepts haccepts) spec hspec).2
    refine hfree other hholder fun heq => hne ?_
    rw [hsafe.owned, heq]

/-- A last success within the duration is of the instance which holds the lease, and of no other. -/
structure SingletonHeld (durationS : Int) (p : Instances) : Prop where
  holds : ∀ holder r, p.snap.shared.renewedAt holder = some r →
    within durationS r p.snap.world.clock →
      ∃ spec, p.snap.world.lease.value = some spec ∧ spec.holderIdentity = some holder
  exclusive : ∀ holder r other r', p.snap.shared.renewedAt holder = some r →
    p.snap.shared.renewedAt other = some r' → within durationS r p.snap.world.clock →
      within durationS r' p.snap.world.clock → holder = other

lemma InstancesRight.held {p : Instances} (hp : InstancesRight durationS start p) :
    SingletonHeld durationS p := by
  have holds : ∀ holder r, p.snap.shared.renewedAt holder = some r →
      within durationS r p.snap.world.clock →
        ∃ spec, p.snap.world.lease.value = some spec ∧ spec.holderIdentity = some holder := by
    intro holder r hr hwithin
    obtain ⟨-, spec, r', hspec, hholder, -⟩ := hp.ok.1.recorded holder r hr hwithin
    exact ⟨spec, hspec, hholder⟩
  refine ⟨holds, fun holder r other r' hr hr' hwithin hwithin' => ?_⟩
  obtain ⟨spec, hspec, hholder⟩ := holds holder r hr hwithin
  obtain ⟨spec', hspec', hother⟩ := holds other r' hr' hwithin'
  rw [hspec] at hspec'
  cases hspec'
  exact Option.some.inj (hholder.symm.trans hother)

/-- No instance has started. -/
def noInstances (clock : Instant) (lease : Versioned V1LeaseSpec) : Instances :=
  ⟨⟨{}, { clock := clock, lease := lease }⟩, []⟩

/-- In every run of instances with distinct identities, whatever becomes of their calls and
whatever lease they find, at most one has a last success within the duration, and no write is
accepted over the lease of another which has not expired. -/
theorem singletonLease_exclusive (durationS : Int) (clock : Instant)
    (lease : Versioned V1LeaseSpec) (ms : List InstanceMove)
    (hms : runMeets leaseRuntime (Instance.program durationS) leaseOutside startsDistinct
      (noInstances clock lease) ms) :
    SingletonHeld durationS (instanceRun durationS (noInstances clock lease) ms) ∧
      runMeets leaseRuntime (Instance.program durationS) leaseOutside (replacesNoOther durationS)
        (noInstances clock lease) ms := by
  have hstart : InstancesRight durationS lease.version (noInstances clock lease) := by
    refine ⟨List.nodup_nil, ⟨le_refl _, ?_, ?_, ?_⟩, ?_⟩
    · exact fun u hu => absurd hu List.not_mem_nil
    · exact fun hversion => absurd hversion (lt_irrefl _)
    · exact fun holder r hr => by cases hr
    · exact fun i a t hi => by cases hi
  have hstep : ∀ p m, InstancesRight durationS lease.version p → startsDistinct p m →
      InstancesRight durationS lease.version (instanceStep durationS p m) ∧
        replacesNoOther durationS p m := fun p m hp hm => instancesRight_step hp hm
  refine ⟨?_, runMeets_of_step hstep hstart hms⟩
  exact (runMoves_keeps (fun p m hp hm => (hstep p m hp hm).1) hstart hms).held

/-- The first instance creates the lease, and begins to renew it; it is not heard of for longer than
the duration; the second takes the lease over before the renewal is written. -/
def takenOver : List InstanceMove :=
  [.spawn ⟨"a", .calls [.acquire, .renew]⟩, .spawn ⟨"b", .guarding 1⟩,
    .run 0 [], .serve 0 .answered, .run 0 [], .serve 0 .answered, .run 0 [], .serve 0 .answered,
    .run 0 [], .event (.tick 61000000),
    .run 1 [], .serve 1 .answered, .run 1 [], .serve 1 .answered, .run 1 [],
    .serve 0 .answered, .run 0 []]

/-- The renewal fails, and the second instance is the one which holds the lease. -/
theorem singletonLease_exclusive_takenOver :
    SingletonHeld 60 (instanceRun 60 (noInstances 0 ⟨none, 0⟩) takenOver) ∧
      runMeets leaseRuntime (Instance.program 60) leaseOutside (replacesNoOther 60)
        (noInstances 0 ⟨none, 0⟩) takenOver :=
  singletonLease_exclusive 60 0 ⟨none, 0⟩ takenOver (by decide +kernel)

example : (instanceRun 60 (noInstances 0 ⟨none, 0⟩) takenOver).snap =
    ⟨⟨Function.update (Function.update (fun _ => none) "a" (some 0)) "b" (some 61000000)⟩,
      ⟨61000000, ⟨some (leaseBody "b" 60 61000000 true 1), 2⟩, []⟩⟩ := rfl

end GpuReservation.Proofs
