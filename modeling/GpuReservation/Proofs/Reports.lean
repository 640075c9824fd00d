import GpuReservation.Library.Exec
import GpuReservation.Proofs.FetchedReservations
import GpuReservation.Proofs.UniqueReservations

/-!
# Fetches and pushes

What a fetch and a push have in common: the records they report, what they make of the reservations
and of the class maps, and that nothing else they do changes either.
-/

namespace GpuReservation.Proofs

open GpuReservation.Library GpuReservation.Model

/-- A fetch, or a push, with the records it reports. -/
inductive Report
  | fetched (rows : List ReservationResponse)
  | pushed (records : List ReservationResponse)

namespace Report

variable (config : Config) (now : Instant) (maps : GpuClassMaps)

def records : Report → List ReservationResponse
  | fetched rows => rows
  | pushed records => records

/-- The classes which are asked for one by one where the bulk list leaves them out. -/
def classIds : Report → List Nat
  | fetched rows => (rows.filter (·.status = .active)).map (·.gpuClassId)
  | pushed records => records.map (·.gpuClassId)

/-- What is done about the report. -/
def program : Report → Ctl Unit
  | fetched rows => refreshFetched config (some rows)
  | pushed records => pushReservations config records

/-- What is done of it under the reservation lock. -/
def apply : Report → Ctl (List PodEviction)
  | fetched rows => applyFetched config rows now maps
  | pushed records => applyPushed config records now maps

/-- The reservations it leaves. -/
def installed (current : List ReservationResponse) : Report → List ReservationResponse
  | fetched rows => afterFetch rows now current
  | pushed records => applyPushToActive current records

end Report

section Execution

variable {α : Type} {ans : ∀ q, Answer q → Prop} {config : Config} {now : Instant}
  {maps : GpuClassMaps} {s s' : ControllerState} {tr : List (Sigma Answer)} {rep : Report}
  {evictions : List PodEviction}

lemma KeepsAppData.exec {p : Ctl α} (hp : KeepsAppData p) {a : α} (h : p.Exec ans s tr a s') :
    s'.reservations = s.reservations ∧ s'.classMaps = s.classMaps := by
  refine (Prog.exec_of_within ?_ ?_ hp h).1
  · exact fun s => ⟨rfl, rfl⟩
  · intro s₁ s₂ s₃ hfirst hsecond
    exact ⟨hsecond.1.trans hfirst.1, hsecond.2.trans hfirst.2⟩

lemma classMaps_installReservations (active : List ReservationResponse) :
    (s.installReservations active maps now).classMaps = maps := by
  obtain ⟨_, _, h⟩ := installReservations_eq s active maps now
  rw [h]
  rfl

/-- A reconcile leaves the reservations and the class maps it is given. -/
lemma reconcileAfterReservationChange_installs {active cancelled : List ReservationResponse}
    {ownerChanges : List (ReservationResponse × String)}
    (h : (reconcileAfterReservationChange config active cancelled ownerChanges now maps).Exec ans s
      tr evictions s') : s'.reservations = active ∧ s'.classMaps = maps := by
  rw [reconcileAfterReservationChange, Prog.exec_ask_bind] at h
  obtain ⟨reconciledAt, tr', -, -, h⟩ := h
  rw [Prog.exec_modify_bind] at h
  have hkept : s'.reservations = (s.installReservations active maps reconciledAt).reservations ∧
      s'.classMaps = (s.installReservations active maps reconciledAt).classMaps := by
    split at h
    · obtain ⟨-, -, rfl⟩ := h
      exact ⟨rfl, rfl⟩
    · exact KeepsAppData.exec (.seq snapshotToleratedPods_keeps fun snapshot =>
        .seq (.foldlM (fun cancelled _ evictions =>
          planCancelledReservation_keeps config now _ evictions cancelled) []) fun _ => .pure trivial) h
  rwa [reservations_installReservations, classMaps_installReservations] at hkept

lemma apply_installs (h : (rep.apply config now maps).Exec ans s tr evictions s') :
    s'.reservations = rep.installed now s.reservations ∧ s'.classMaps = maps := by
  cases rep with
  | fetched rows =>
    rw [Report.apply, applyFetched, Prog.exec_get_bind, Prog.exec_bind] at h
    obtain ⟨_, _, planned, s₁, -, hreconcile, h⟩ := h
    have hrest : KeepsAppData (do
        Prog.modify fun s => { s with reservationsKnown := true }
        return planned) := .seq (modify_keeps fun _ => ⟨rfl, rfl⟩) fun _ => .pure trivial
    rw [(hrest.exec h).1, (hrest.exec h).2, Report.installed, ← afterFetch_eq]
    exact reconcileAfterReservationChange_installs hreconcile
  | pushed records =>
    rw [Report.apply, applyPushed, Prog.exec_get_bind, Prog.exec_bind] at h
    obtain ⟨_, _, planned, s₁, -, hreconcile, h⟩ := h
    have hrest : KeepsAppData (do
        trackNoshows config now
        return planned) := .seq (trackNoshows_keeps config now) fun _ => .pure trivial
    rw [(hrest.exec h).1, (hrest.exec h).2, Report.installed]
    exact reconcileAfterReservationChange_installs hreconcile

variable (rep) in
lemma withReservationLock_apply_installs
    (h : (withReservationLock (rep.apply config now maps)).Exec ans s tr evictions s') :
    s'.reservations = rep.installed now s.reservations ∧ s'.classMaps = maps := by
  rw [withReservationLock, Prog.exec_ask_bind] at h
  obtain ⟨_, _, -, -, h⟩ := h
  rw [Prog.exec_bind] at h
  obtain ⟨_, _, planned, s₁, -, happly, h⟩ := h
  have hrest : KeepsAppData (do
      call .releaseReservationLock
      return planned) := .seq (call_keeps _) fun _ => .pure trivial
  rw [(hrest.exec h).1, (hrest.exec h).2]
  exact apply_installs happly

lemma resolveGpuClassMaps_exec_eq {classIds : List Nat} {prior : GpuClassMaps}
    (h : (resolveGpuClassMaps classIds prior).Exec ans s tr maps s') : s' = s := by
  refine (Prog.exec_of_within ?_ ?_ (resolveGpuClassMaps_asks classIds prior) h).1
  · exact fun s => rfl
  · intro s₁ s₂ s₃ hfirst hsecond
    exact hsecond.trans hfirst

/-- The class maps are resolved, and what the report leaves is installed with them. -/
lemma program_installs {u : Unit} (h : (rep.program config).Exec ans s tr u s') :
    ∃ now tr' maps, ans .now now ∧
      (resolveGpuClassMaps rep.classIds s.classMaps).Exec ans s tr' maps s ∧
      s'.reservations = rep.installed now s.reservations ∧ s'.classMaps = maps := by
  cases rep with
  | fetched rows =>
    rw [Report.program, refreshFetched, Prog.exec_get_bind, Prog.exec_bind] at h
    obtain ⟨tr', _, maps, s₁, -, hmaps, h⟩ := h
    obtain rfl : s₁ = s := resolveGpuClassMaps_exec_eq hmaps
    rw [Prog.exec_ask_bind] at h
    obtain ⟨now, _, hnow, -, h⟩ := h
    rw [Prog.exec_bind] at h
    obtain ⟨_, _, evictions, s₂, -, happly, h⟩ := h
    have hrest : KeepsAppData (do
        evictions.forM executeEviction
        let trackedAt ← call .now
        trackNoshows config trackedAt) :=
      .seq (.forM fun eviction _ => executeEviction_keeps eviction) fun _ =>
        .seq (call_keeps _) fun trackedAt => trackNoshows_keeps config trackedAt
    refine ⟨now, tr', maps, hnow, hmaps, ?_⟩
    rw [(hrest.exec h).1, (hrest.exec h).2]
    exact withReservationLock_apply_installs (.fetched rows) happly
  | pushed records =>
    rw [Report.program, pushReservations, Prog.exec_ask_bind] at h
    obtain ⟨now, _, hnow, -, h⟩ := h
    rw [Prog.exec_get_bind, Prog.exec_bind] at h
    obtain ⟨tr', _, maps, s₁, -, hmaps, h⟩ := h
    obtain rfl : s₁ = s := resolveGpuClassMaps_exec_eq hmaps
    rw [Prog.exec_bind] at h
    obtain ⟨_, _, evictions, s₂, -, happly, h⟩ := h
    have hrest : KeepsAppData (evictions.forM executeEviction) :=
      .forM fun eviction _ => executeEviction_keeps eviction
    refine ⟨now, tr', maps, hnow, hmaps, ?_⟩
    rw [(hrest.exec h).1, (hrest.exec h).2]
    exact withReservationLock_apply_installs (.pushed records) happly

end Execution

end GpuReservation.Proofs
