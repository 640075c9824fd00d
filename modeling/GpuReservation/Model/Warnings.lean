import GpuReservation.Library.Gregorian
import GpuReservation.Model.Forecast
import Mathlib.Algebra.Order.Field.Rat

/-!
# Termination warnings

Which pods a sweep warns, and of when: those at risk at a boundary ahead, and those at risk because
a class is short of headroom.  The sweep is here once more, its warnings patched pod by pod where
`runPreemptionSweep` has one call for them all.
-/

namespace GpuReservation.Model

open GpuReservation.Library

structure TerminationWarning where
  view : PodRuntimeView
  terminateAt : Instant
  risk : ℚ
  boundary : Option Instant := none
  deriving DecidableEq, Repr

namespace ControllerState

variable (s : ControllerState)

/-- The boundaries the sweep looks ahead to: those of its own window, and those further on. -/
def warnBoundaries (config : Config) (now : Instant) : List Instant :=
  if config.terminationWarningEnabled then
    ((s.upcomingBoundaries now (minutes config.preemptionLeadMinutes) ++
      s.forecastBoundaries now (now + minutes config.terminationWarningLeadMinutes)).dedup).insertionSort
        (· ≤ ·)
  else []

/-- The start of the kill window, and not before the guarantee as it is known now ends. -/
def killStart (boundary : Instant) (lead : Int) (guaranteeEnd : Option Instant) : Instant :=
  match guaranteeEnd with
  | none => boundary - lead
  | some e => if boundary - lead < e then e else boundary - lead

/-- `min(1.0, short / pool_gpus)`, the quotient exact. -/
def riskOf (short poolGpus : Nat) : ℚ := min 1 ((short : ℚ) / poolGpus)

/-- The pods at risk in one class at a boundary.  One which was warned of a sooner boundary keeps
that warning. -/
def warnClass (boundary : Instant) (lead : Int) (guaranteeEndByUid : Dict Uid (Option Instant))
    (need : ForecastBoundaryNeed) (warnings : Dict Uid TerminationWarning)
    (e : String × Nat) : Dict Uid TerminationWarning :=
  let poolGpus := (need.poolGpusByClass.get? e.1).getD 0
  if poolGpus = 0 then warnings
  else ((need.eligibleByClass.get? e.1).getD []).foldl
    (fun warnings p =>
      if p.uid ∈ warnings then warnings
      else warnings.set p.uid
        { view := p
          terminateAt := killStart boundary lead (guaranteeEndByUid.get? p.uid).join
          risk := riskOf e.2 poolGpus
          boundary := some boundary })
    warnings

def warnBoundary (freeByClass : Dict String Int) (pods : List PodRuntimeView) (now : Instant)
    (lead : Int) (guaranteeEndByUid : Dict Uid (Option Instant))
    (warnings : Dict Uid TerminationWarning) (boundary : Instant) : Dict Uid TerminationWarning :=
  let need := s.forecastBoundaryNeed boundary freeByClass pods now guaranteeEndByUid
  need.killsNeededByClass.entries.foldl (warnClass boundary lead guaranteeEndByUid need) warnings

def planTerminationWarnings (boundaries : List Instant) (capacityByClass : Dict String Nat)
    (pods : List PodRuntimeView) (now : Instant) (lead : Int) : Dict Uid TerminationWarning :=
  (boundaries.insertionSort (· ≤ ·)).foldl
    (s.warnBoundary (freeCapacityByClass capacityByClass pods) pods now lead
      (s.guaranteeEndByUid pods now))
    ∅

/-- The classes which have less free than the target, and how much less. -/
def headroomShortfallByClass (capacityByClass : Dict String Nat) (pods : List PodRuntimeView)
    (targetPercent : Nat) : Dict String Nat :=
  (capacityByClass.mapValues fun gpuClass (capacity : Nat) =>
    (headroomTarget capacity targetPercent -
      ((freeCapacityByClass capacityByClass pods).get? gpuClass).getD 0).toNat).filter fun _ n => n ≠ 0

/-- The whole pool of a short class is warned.  A pod which carries a deadline keeps it. -/
def warnHeadroomClass (pods : List PodRuntimeView) (now : Instant) (notice : Int)
    (warnings : Dict Uid TerminationWarning) (e : String × Nat) : Dict Uid TerminationWarning :=
  let pool := s.preemptable e.1 pods now
  let poolGpus := (pool.map (·.gpuCount)).sum
  if poolGpus = 0 then warnings
  else pool.foldl
    (fun warnings p => warnings.set p.uid
      { view := p
        terminateAt := p.terminationWarningAt.getD (now + notice)
        risk := riskOf e.2 poolGpus })
    warnings

def planHeadroomWarnings (capacityByClass : Dict String Nat) (pods : List PodRuntimeView)
    (now : Instant) (targetPercent : Nat) (notice : Int) : Dict Uid TerminationWarning :=
  (headroomShortfallByClass capacityByClass pods targetPercent).entries.foldl
    (s.warnHeadroomClass pods now notice) ∅

/-- Of two warnings the sooner is kept. -/
def mergeWarning (warnPlan : Dict Uid TerminationWarning) (e : Uid × TerminationWarning) :
    Dict Uid TerminationWarning :=
  match warnPlan.get? e.1 with
  | none => warnPlan.set e.1 e.2
  | some existing =>
    if e.2.terminateAt < existing.terminateAt then warnPlan.set e.1 e.2 else warnPlan

/-- The warnings of a sweep, for the pods which survive it. -/
def planWarnings (config : Config) (boundaries : List Instant) (capacityByClass : Dict String Nat)
    (pods : List PodRuntimeView) (now : Instant) : Dict Uid TerminationWarning :=
  if config.terminationWarningEnabled then
    let warnPlan := s.planTerminationWarnings boundaries capacityByClass pods now
      (minutes config.preemptionLeadMinutes)
    if 0 < config.headroomTargetPercent then
      (s.planHeadroomWarnings capacityByClass pods now config.headroomTargetPercent
        (minutes config.headroomNoticeMinutes)).entries.foldl mergeWarning warnPlan
    else warnPlan
  else ∅

end ControllerState

/-- The instant `utc_iso` writes: whole seconds. -/
def utcIso (t : Instant) : Instant := t - t % seconds 1

lemma utcIso_le (t : Instant) : utcIso t ≤ t := Int.sub_le_self t (Int.emod_nonneg t (by decide))

lemma utcIso_eq (t : Instant) : utcIso t = seconds (t / seconds 1) := by
  have hdiv : seconds 1 * (t / seconds 1) + t % seconds 1 = t := Int.mul_ediv_add_emod t (seconds 1)
  have hsub : t - t % seconds 1 = seconds 1 * (t / seconds 1) := sub_eq_of_eq_add hdiv.symm
  rw [utcIso, hsub, Int.mul_comm]
  rfl

lemma utcIso_ediv (t : Instant) : utcIso t / seconds 1 = t / seconds 1 := by
  rw [utcIso_eq]
  exact Int.mul_ediv_cancel _ (by decide)

/-- The instant is one a `datetime` in UTC can hold: `utc_iso` raises of any other. -/
def IsDatetime (t : Instant) : Prop := inCalendar (t / seconds 1)

instance (t : Instant) : Decidable (IsDatetime t) := inferInstanceAs (Decidable (inCalendar _))

/-- How a risk and a message are written; an instant in it may have no local time to be shown in. -/
structure WarningTexts where
  risk : ℚ → String
  message : Instant → String → Option Instant → Option String

/-- The pod carries a warning, or part of one. -/
def Pod.carriesWarning (p : Pod) : Bool :=
  p.terminationWarningAt.isSome || p.terminationWarningForeign || p.terminationWarningRisk.isSome

section Apply

variable (texts : WarningTexts)

/-- The message, which is written after the deadline: `none` where either raises. -/
def WarningTexts.messageOf (w : TerminationWarning) : Option String :=
  if IsDatetime w.terminateAt then texts.message w.terminateAt (texts.risk w.risk) w.boundary else none

/-- The pod carries the warning as it would be written. -/
def WarningTexts.unchanged (p : Pod) (w : TerminationWarning) (message : String) : Bool :=
  !p.terminationWarningForeign && p.terminationWarningAt = some (utcIso w.terminateAt) &&
    p.terminationWarningRisk = some (texts.risk w.risk) &&
    p.terminationWarningMessage = some message

/-- One pod of the snapshot; whether some pod may still carry a warning. -/
def applyTerminationWarning (warnPlan : Dict Uid TerminationWarning) (doomed : List Uid)
    (outstanding : Bool) (p : Pod) : Ctl Bool :=
  if p.uid ∈ doomed then return outstanding || p.carriesWarning
  else match warnPlan.get? p.uid with
    | some desired =>
      match texts.messageOf desired with
      -- the error is caught, and the pod left as it is
      | none => return true
      | some message =>
        if texts.unchanged p desired message then return outstanding
        else do
          let written ← call (.annotateTerminationWarning p.uid p.ns p.name desired.terminateAt
            (texts.risk desired.risk) message)
          return outstanding || !written
    | none =>
      if p.carriesWarning then do
        let cleared ← call (.clearTerminationWarning p.uid p.ns p.name)
        return outstanding || !cleared
      else return outstanding

def applyTerminationWarnings (snapshot : List Pod) (warnPlan : Dict Uid TerminationWarning)
    (doomed : List Uid) : Ctl Bool :=
  snapshot.foldlM (applyTerminationWarning texts warnPlan doomed) (!warnPlan.entries.isEmpty)

end Apply

/-- What a sweep has decided once it is done planning, and what from. -/
structure SweepPlan where
  snapshot : List Pod
  capacity : Dict String Nat
  /-- The views of the snapshot, those of merged and adopted pods renewed. -/
  pods : List PodRuntimeView
  toKill : List (PodRuntimeView × PodEvent)
  /-- The state the warnings are planned from. -/
  state : ControllerState
  warnPlan : Dict Uid TerminationWarning

def SweepPlan.doomed (plan : SweepPlan) : List Uid := plan.toKill.map (·.1.uid)

/-- `pods_after`. -/
def SweepPlan.podsAfter (plan : SweepPlan) : List PodRuntimeView := notDoomed plan.pods plan.toKill

section Sweep

variable (config : Config) (now : Instant)

/-- Merges, adoptions and all that is planned, under the reservation lock. -/
def planUnderLock (boundaries warnBoundaries : List Instant) (headroomDue : Bool)
    (snapshot : List Pod) (nodes : NodeSnapshot) : Ctl SweepPlan := do
  let capacity := gpuCapacityByClass nodes.inventory
  let pods ← mergeOndemandIntoBookings config (snapshot.map (podView (some nodes.inventory))) now
  let pods ← adoptPods config pods now .overstay
  let toKill ← boundaries.foldlM (planBoundary config now capacity pods) []
  let toKill ← if headroomDue then planHeadroom config now capacity pods toKill else pure toKill
  let s ← Prog.get
  return {
    snapshot := snapshot
    capacity := capacity
    pods := pods
    toKill := toKill
    state := s
    warnPlan := s.planWarnings config warnBoundaries capacity (notDoomed pods toKill) now }

/-- The sweep up to where it is done planning; `none` where it has nothing to do, or no snapshot. -/
def planSweep : Ctl (Option SweepPlan) := do
  let lead := minutes config.preemptionLeadMinutes
  Prog.modify fun s => s.prunePreemptionMarks now lead
  let s ← Prog.get
  if s.sweepIdle config now then return none
  else do
    let snapshot ← snapshotToleratedPods
    match snapshot with
    | none => return none
    | some pods => do
      let nodes ← call .snapshotNodes
      match nodes with
      | none => return none
      | some n => do
        call .acquireReservationLock
        let plan ← planUnderLock config now (s.upcomingBoundaries now lead)
          (s.warnBoundaries config now) (s.headroomDue config now) pods n
        return some plan

/-- The kills are still under the lock, the warnings no longer. -/
def carryOutPlan (texts : WarningTexts) (plan : SweepPlan) : Ctl Unit := do
  plan.toKill.forM (preemptPod config now)
  call .releaseReservationLock
  if config.terminationWarningEnabled then
    let outstanding ← applyTerminationWarnings texts plan.snapshot plan.warnPlan plan.doomed
    Prog.modify fun s => { s with terminationWarningsOutstanding := outstanding }
  else return ()

def warnedSweep (texts : WarningTexts) : Ctl Unit := do
  let plan ← planSweep config now
  match plan with
  | none => return ()
  | some plan => carryOutPlan config now texts plan

end Sweep

end GpuReservation.Model
