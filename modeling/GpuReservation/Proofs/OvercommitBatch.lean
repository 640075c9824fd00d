import GpuReservation.Library.Calendar
import GpuReservation.Proofs.Footprints
import GpuReservation.Proofs.Victims

/-!
# A batch of grants on an overcommitted class

Each ask is judged against a calendar which has the leases granted before it.
-/

namespace GpuReservation.Proofs

open GpuReservation.Library GpuReservation.Model

/-- A reservation which commits GPUs of the class. -/
def commits (s : ControllerState) (label : String) (r : ReservationResponse) : Bool :=
  (r.kind = .booking || r.kind = .onDemand) && r.id ∉ s.noshowReservationIds &&
    s.effectiveLabel r = some label

/-- GPUs of the class which are committed at an instant. -/
def committedGpus (s : ControllerState) (label : String) (t : Instant) : Nat :=
  ControllerState.committedAt (s.reservations.filter (commits s label)) t

/-- GPUs of the class there are. -/
def physicalGpus (s : ControllerState) (label : String) : Nat :=
  (s.physicalGpuCapacity.get? label).getD 0

/-- What guard 4 reads is the same. -/
structure SameCalendar (s s' : ControllerState) : Prop where
  reservations : s'.reservations = s.reservations
  noshow : s'.noshowReservationIds = s.noshowReservationIds
  labels : s'.gpuClassLabels = s.gpuClassLabels
  physical : s'.physicalGpuCapacity = s.physicalGpuCapacity
  overcommitted : s'.overcommittedGpuClasses = s.overcommittedGpuClasses

/-- An ask, and the instant it is judged at. -/
structure Judgment where
  uid : Uid
  ref : Ref
  fit : FitInputs
  now : Instant

namespace Judgment

variable (config : Config) (j : Judgment)

/-- The ask is judged. -/
def gives (held : Bool) (s s' : ControllerState) : Prop :=
  ∃ tr, (holdOnFit config j.uid j.ref j.fit j.now).Exec canAnswer s tr held s'

/-- The lease which an ask is granted. -/
structure grants (s : ControllerState) (lease : ReservationResponse) : Prop where
  guaranteed : (s.candidate j.ref).bestEffort = false
  start : slotStart lease = j.now
  stop : slotEnd lease = j.now + seconds j.fit.durationSeconds
  count : lease.gpuCount = (s.candidate j.ref).gpuRequested
  label : s.effectiveLabel lease = some (s.candidate j.ref).gpuClassLabel

end Judgment

/-- Asks are judged one after another, and a lease which is granted is added before the next is
judged; what else happens leaves the calendar alone. -/
inductive Batch (config : Config) : ControllerState → ControllerState → Prop
  | idle {s s' : ControllerState} (h : SameCalendar s s') : Batch config s s'
  | held {s s₁ s₂ s' : ControllerState} (j : Judgment) (h : SameCalendar s s₁)
      (hjudged : j.gives config true s₁ s₂) (hrest : Batch config s₂ s') : Batch config s s'
  | granted {s s₁ s₂ s₃ s' : ControllerState} (j : Judgment) (lease : ReservationResponse)
      (e : QueueEntry) (h : SameCalendar s s₁) (hjudged : j.gives config false s₁ s₂)
      (hlease : j.grants s₁ lease) (hgrant : SameCalendar s₂ s₃)
      (hrest : Batch config (s₃.upsertLease lease e) s') : Batch config s s'

section Calendar

variable {s s' : ControllerState}

lemma SameCalendar.effectiveLabel (h : SameCalendar s s') (r : ReservationResponse) :
    s'.effectiveLabel r = s.effectiveLabel r := by
  rw [ControllerState.effectiveLabel, h.labels, ControllerState.effectiveLabel]

lemma SameCalendar.commits (h : SameCalendar s s') (label : String) :
    commits s' label = Proofs.commits s label := by
  funext r
  rw [Proofs.commits, h.noshow, h.effectiveLabel, Proofs.commits]

lemma SameCalendar.committedGpus (h : SameCalendar s s') (label : String) (t : Instant) :
    committedGpus s' label t = Proofs.committedGpus s label t := by
  rw [Proofs.committedGpus, h.reservations, h.commits, Proofs.committedGpus]

lemma SameCalendar.physicalGpus (h : SameCalendar s s') (label : String) :
    physicalGpus s' label = Proofs.physicalGpus s label := by
  rw [Proofs.physicalGpus, h.physical, Proofs.physicalGpus]

lemma SameCalendar.of_onlyTells (h : OnlyTells s s') : SameCalendar s s' := by
  rw [h.rest]
  exact ⟨rfl, rfl, rfl, rfl, rfl⟩

lemma committedAt_eq_load (rows : List ReservationResponse) (t : Instant) :
    ControllerState.committedAt rows t = load slotStart slotEnd (·.gpuCount) rows t := rfl

/-- In a window the rows counted over it are the only ones which are open. -/
lemma committedAt_committedRows (label : String) {start stop t : Instant} (hstart : start ≤ t)
    (hstop : t < stop) :
    ControllerState.committedAt (s.committedRows label start stop) t = committedGpus s label t := by
  rw [committedGpus, ControllerState.committedAt, ControllerState.committedAt,
    ControllerState.committedRows, List.filter_filter, List.filter_filter]
  congr 2
  refine List.filter_congr fun r _ => ?_
  by_cases hopen : slotOpen r t
  · have hwindow : slotStart r < stop ∧ start < slotEnd r :=
      ⟨hopen.1.trans_lt hstop, hstart.trans_lt hopen.2⟩
    simp [hopen, hwindow, commits]
  · simp [hopen]

/-- No instant of a window has more committed than the peak over it. -/
lemma committedGpus_le_peak (label : String) {start stop t : Instant} (hstart : start ≤ t)
    (hstop : t < stop) : committedGpus s label t ≤ s.peakCommittedGpus label start stop := by
  rw [← committedAt_committedRows label hstart hstop, committedAt_eq_load]
  exact load_le_peakLoad _ hstart

/-- An ask passes where neither guard holds it; nothing is done then, and nothing awaited. -/
lemma holdOnFit_passes {config : Config} {uid : Uid} {ref : Ref} {fit : FitInputs} {now : Instant}
    {tr : List (Sigma Answer)} :
    (holdOnFit config uid ref fit now).Exec canAnswer s tr false s' ↔
      tr = [] ∧ s' = s ∧
        s.overcommitHolds config (s.candidate ref) fit.durationSeconds now = false ∧
        s.nodeFitHolds uid (s.candidate ref) fit.placement = none := by
  rw [holdOnFit, Prog.exec_get_bind]
  dsimp only
  by_cases hfour : s.overcommitHolds config (s.candidate ref) fit.durationSeconds now
  · rw [if_pos hfour]
    refine ⟨fun h => ?_, fun h => by rw [hfour] at h; cases h.2.2.1⟩
    obtain ⟨_, _, _, _, -, -, h⟩ := (Prog.exec_bind _ _).mp h
    obtain ⟨_, _, _, _, -, -, -, h, -⟩ := (Prog.exec_bind _ _).mp h
    cases h
  · rw [if_neg hfour]
    cases hfive : s.nodeFitHolds uid (s.candidate ref) fit.placement with
    | none =>
      refine ⟨fun h => ?_, fun h => ⟨h.1, rfl, h.2.1⟩⟩
      obtain ⟨htr, -, hs⟩ := h
      exact ⟨htr, hs, Bool.eq_false_iff.mpr hfour, rfl⟩
    | some nodeFit =>
      refine ⟨fun h => ?_, fun h => by cases h.2.2.2⟩
      obtain ⟨_, _, _, _, -, -, h⟩ := (Prog.exec_bind _ _).mp h
      obtain ⟨_, _, _, _, -, -, -, h, -⟩ := (Prog.exec_bind _ _).mp h
      cases h

/-- Guard 4 lets a guaranteed ask through where it fits beside the peak. -/
lemma fits_of_not_overcommitHolds {config : Config} (hfit : config.ondemandOvercommitFit)
    {c : OnDemandCandidate} (hguaranteed : c.bestEffort = false)
    (hclass : c.gpuClassLabel ∈ s.overcommittedGpuClasses) {durationSeconds : Nat} {now : Instant}
    (h : s.overcommitHolds config c durationSeconds now = false) :
    s.peakCommittedGpus c.gpuClassLabel now (now + seconds durationSeconds) + c.gpuRequested ≤
      physicalGpus s c.gpuClassLabel := by
  rw [ControllerState.overcommitHolds, hguaranteed, hfit] at h
  simpa [hclass, physicalGpus] using h

end Calendar

section Grant

variable {s : ControllerState}

/-- What a reservation commits of a class at an instant. -/
def share (s : ControllerState) (label : String) (t : Instant) (r : ReservationResponse) : Nat :=
  if commits s label r ∧ slotOpen r t then r.gpuCount else 0

lemma committedGpus_eq_sum (label : String) (t : Instant) :
    committedGpus s label t = (s.reservations.map (share s label t)).sum := by
  rw [committedGpus, ControllerState.committedAt, List.filter_filter, sum_map_filter]
  simp only [Bool.and_eq_true, decide_eq_true_eq, and_comm (a := slotOpen _ t)]
  rfl

/-- One row which is added counts once; a row which it replaces no longer does. -/
lemma sum_applyPushToActive_le (f : ReservationResponse → Nat)
    (current : List ReservationResponse) (lease : ReservationResponse) :
    ((applyPushToActive current [lease]).map f).sum ≤ (current.map f).sum + f lease := by
  have hvalues : ((applyPushToActive current [lease]).map f).sum =
      (pushStep (Dict.ofList (current.map fun r => (r.id, r))) lease).sumBy fun _ r => f r := by
    rw [applyPushToActive, Dict.values, List.map_map]
    rfl
  have hstored := Dict.sumBy_ofList_le (fun _ r => f r) (current.map fun r => (r.id, r))
  rw [List.map_map] at hstored
  have hstored : (Dict.ofList (current.map fun r => (r.id, r))).sumBy (fun _ r => f r) ≤
      (current.map f).sum := hstored
  rw [hvalues, pushStep]
  split
  · have hset := Dict.sumBy_set (fun _ r => f r) (Dict.ofList (current.map fun r => (r.id, r)))
      lease.id lease
    omega
  · have herase := Dict.sumBy_erase (fun _ r => f r)
      (Dict.ofList (current.map fun r => (r.id, r))) lease.id
    omega

lemma committedGpus_upsertLease (lease : ReservationResponse) (e : QueueEntry) (label : String)
    (t : Instant) :
    committedGpus (s.upsertLease lease e) label t ≤
      committedGpus s label t + share s label t lease := by
  rw [committedGpus_eq_sum, committedGpus_eq_sum]
  exact sum_applyPushToActive_le (share s label t) s.reservations lease

/-- A lease which passed is committed within the physical capacity, wherever it is open. -/
lemma committedGpus_granted {config : Config} (hfit : config.ondemandOvercommitFit) {j : Judgment}
    {lease : ReservationResponse} (hlease : j.grants s lease) {s' : ControllerState}
    (hjudged : j.gives config false s s') {label : String}
    (hlabel : label ∈ s.overcommittedGpuClasses) (t : Instant) :
    committedGpus s label t + share s label t lease ≤
      max (physicalGpus s label) (committedGpus s label t) := by
  rw [share]
  split
  · rename_i hopen
    obtain ⟨hcommits, hstart, hstop⟩ := hopen
    have hclass : (s.candidate j.ref).gpuClassLabel = label := by
      rw [commits, hlease.label, Bool.and_eq_true] at hcommits
      exact Option.some_inj.mp (of_decide_eq_true hcommits.2)
    obtain ⟨tr, hexec⟩ := hjudged
    obtain ⟨-, -, hfour, -⟩ := holdOnFit_passes.mp hexec
    have hpasses := fits_of_not_overcommitHolds hfit hlease.guaranteed (hclass ▸ hlabel) hfour
    have hpeak := committedGpus_le_peak (s := s) (s.candidate j.ref).gpuClassLabel
      (hlease.start ▸ hstart) (hlease.stop ▸ hstop)
    rw [hclass] at hpasses hpeak
    rw [hlease.count]
    exact (le_max_left _ _).trans' (by omega)
  · exact le_max_right _ _

end Grant

/-- After a batch, no instant has more GPUs of an overcommitted class committed than there are,
unless it had before. -/
theorem batch_withinPhysical {config : Config} (hfit : config.ondemandOvercommitFit)
    {s s' : ControllerState} (hbatch : Batch config s s') {label : String}
    (hlabel : label ∈ s.overcommittedGpuClasses) (t : Instant) :
    committedGpus s' label t ≤ max (physicalGpus s label) (committedGpus s label t) := by
  induction hbatch with
  | idle h =>
    rw [h.committedGpus]
    exact le_max_right _ _
  | @held s s₁ s₂ s' j h hjudged _ ih =>
    obtain ⟨tr, hexec⟩ := hjudged
    have htells := (Prog.exec_of_within OnlyTells.refl (fun _ _ _ => OnlyTells.trans)
      (holdOnFit_tells config j.uid j.ref j.now j.fit) hexec).1
    have h₂ : SameCalendar s₁ s₂ := .of_onlyTells htells
    have hrest := ih (by rw [h₂.overcommitted, h.overcommitted]; exact hlabel)
    rwa [h₂.committedGpus, h₂.physicalGpus, h.committedGpus, h.physicalGpus] at hrest
  | @granted s s₁ s₂ s₃ s' j lease e h hjudged hlease hgrant _ ih =>
    have hpassed := hjudged
    obtain ⟨tr, hexec⟩ := hjudged
    obtain ⟨-, rfl, -, -⟩ := holdOnFit_passes.mp hexec
    have hrest := ih (by
      rw [ControllerState.upsertLease, ControllerState.allocEntry, hgrant.overcommitted,
        h.overcommitted]
      exact hlabel)
    have hadded := committedGpus_upsertLease (s := s₃) lease e label t
    have hgranted := committedGpus_granted hfit hlease hpassed (h.overcommitted ▸ hlabel) t
    have hphysical : physicalGpus (s₃.upsertLease lease e) label = physicalGpus s₃ label := rfl
    have hshare : share s₃ label t lease = share s₂ label t lease := by
      rw [share, hgrant.commits, share]
    rw [hgrant.committedGpus, hshare] at hadded
    rw [hphysical, hgrant.physicalGpus, h.physicalGpus] at hrest
    rw [h.committedGpus, h.physicalGpus] at hgranted
    rw [h.committedGpus] at hadded
    exact hrest.trans (max_le (le_max_left _ _) (hadded.trans hgranted))

/-- Four GPUs of a class of which two are booked from the half hour on, and an ask for two. -/
def halfBooked : ControllerState where
  reservations :=
    [{ id := 1, gpuClassId := 1, gpuClass := { id := 1, name := "c" }, startUtc := minutes 30,
       endUtc := minutes 90, gpuCount := 2 }]
  gpuClassLabels := Dict.ofList [(1, "c")]
  overcommittedGpuClasses := {"c"}
  physicalGpuCapacity := Dict.ofList [("c", 4)]
  candidates :=
    ⟨[{ podUid := "A", podName := "a", podNamespace := "ns", gpuClassLabel := "c", gpuRequested := 2,
        minRuntimeSeconds := 3600, podCreatedAt := 0, nextAttemptAt := 0 }]⟩
  ondemandCandidates := Dict.ofList [("A", 0)]

def hourAsk : Judgment where
  uid := "A"
  ref := 0
  fit := { placement := none, durationSeconds := 3600 }
  now := 0

def hourLease : ReservationResponse where
  id := 2
  gpuClassId := 1
  gpuClass := { id := 1, name := "c" }
  startUtc := 0
  endUtc := minutes 60
  gpuCount := 2
  kind := .onDemand

/-- The lease overlaps the booking, beside which it fits. -/
theorem batch_withinPhysical_overlap :
    committedGpus (halfBooked.upsertLease hourLease default) "c" (minutes 45) ≤ max 4 2 := by
  have hsame : ∀ s, SameCalendar s s := fun s => ⟨rfl, rfl, rfl, rfl, rfl⟩
  have hjudged : hourAsk.gives {} false halfBooked halfBooked :=
    ⟨[], holdOnFit_passes.mpr ⟨rfl, rfl, by decide +kernel, by decide +kernel⟩⟩
  have hbatch : Batch {} halfBooked (halfBooked.upsertLease hourLease default) :=
    .granted hourAsk hourLease default (hsame _) hjudged
      ⟨by decide +kernel, rfl, by decide +kernel, by decide +kernel, by decide +kernel⟩ (hsame _)
      (.idle (hsame _))
  have hwithin := batch_withinPhysical rfl hbatch (by decide : "c" ∈ halfBooked.overcommittedGpuClasses)
    (minutes 45)
  have hphysical : physicalGpus halfBooked "c" = 4 := by decide +kernel
  have hbefore : committedGpus halfBooked "c" (minutes 45) = 2 := by decide +kernel
  rwa [hphysical, hbefore] at hwithin

end GpuReservation.Proofs
