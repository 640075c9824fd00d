import GpuReservation.Model.Warnings
import Mathlib.Data.List.Sort

/-!
# The forecast of the preemption risk

The risk of every admitted pod in each of the hours ahead, as users are shown it, with the figures of
the classes beside it.
-/

namespace GpuReservation.Model

open GpuReservation.Library

/-- A bucket of the forecast, with its start and without its end. -/
structure Bucket where
  start : Instant
  end_ : Instant
  start_lt_end : start < end_
  deriving DecidableEq, Repr

def forecastBucketCount : Nat := 3

lemma lt_sub_emod_add (t : Int) {n : Int} (hn : 0 < n) : t < t - t % n + n := by
  have hlt := Int.emod_lt_of_pos t hn
  omega

lemma add_mul_lt (t : Int) {n : Int} (hn : 0 < n) (i : Int) : t + i * n < t + (i + 1) * n := by
  rw [add_mul, one_mul]
  omega

/-- The rest of the current hour, and full hours after it. -/
def forecastBuckets (now : Instant) (count : Nat) : List Bucket :=
  let hour := minutes 60
  let firstEnd := now - now % hour + hour
  ⟨now, firstEnd, lt_sub_emod_add now (by decide)⟩ ::
    (List.range (count - 1)).map fun (i : Nat) =>
      ⟨firstEnd + i * hour, firstEnd + (i + 1) * hour, add_mul_lt firstEnd (by decide : 0 < hour) i⟩

def overlappingBucketIndices (intervalStart intervalEnd : Instant) (buckets : List Bucket) : List Nat :=
  (buckets.zipIdx.filter fun x => intervalStart < x.1.end_ && x.1.start ≤ intervalEnd).map (·.2)

/-- `1 − Π(1 − r)`, exact. -/
def combineRisks (risks : List ℚ) : ℚ :=
  let survival := risks.foldl (fun survival r => survival * (1 - min 1 (max 0 r))) 1
  min 1 (max 0 (1 - survival))

structure ForecastBucketSummary where
  bucket : Bucket
  capacityByClass : Dict String Nat
  freeByClass : Dict String Int
  demandByClass : Dict String Nat
  shortfallByClass : Dict String Nat
  eligiblePoolGpusByClass : Dict String Nat
  pendingJitGpusByClass : Dict String Nat

inductive BucketState
  | guaranteed
  | overstay
  | mixed
  deriving DecidableEq, Repr

structure PodBucketRisk where
  risk : ℚ
  state : BucketState
  deriving DecidableEq, Repr

/-- One entry of `buckets` for each bucket of the forecast. -/
structure PodForecast where
  view : PodRuntimeView
  guaranteeEnd : Option Instant
  buckets : List PodBucketRisk
  deriving DecidableEq, Repr

structure PreemptionForecast where
  generatedAt : Instant
  leadMinutes : Int
  buckets : List ForecastBucketSummary
  pods : List PodForecast

/-- The figures of a bucket, from the boundaries whose kill window meets it. -/
def bucketSummary (classes : List String) (capacityByClass : Dict String Nat)
    (freeByClass : Dict String Int) (pendingByClass : Dict String Nat)
    (needs : List ForecastBoundaryNeed) (lead : Int) (buckets : List Bucket) (i : Nat) (b : Bucket) :
    ForecastBucketSummary :=
  let attributed := needs.filter fun need =>
    i ∈ overlappingBucketIndices (need.boundary - lead) need.boundary buckets
  let gather := fun {υ : Type} (f : String → υ) => Dict.ofList (classes.map fun c => (c, f c))
  { bucket := b
    capacityByClass := gather fun c => (capacityByClass.get? c).getD 0
    freeByClass := gather fun c => (freeByClass.get? c).getD 0
    demandByClass := gather fun c =>
      (attributed.map fun need => (need.demandByClass.get? c).getD 0).sum
    shortfallByClass := gather fun c =>
      (attributed.map fun need => (need.killsNeededByClass.get? c).getD 0).sum
    eligiblePoolGpusByClass := gather fun c =>
      (attributed.map fun need => (need.poolGpusByClass.get? c).getD 0).foldl max 0
    pendingJitGpusByClass := gather fun c =>
      if i = 0 then (pendingByClass.get? c).getD 0 else 0 }

/-- The pod's risk from one boundary, if there is any. -/
def boundaryRisk (p : PodRuntimeView) (ge : Option Instant) (need : ForecastBoundaryNeed) : Option ℚ :=
  let kills := (need.killsNeededByClass.get? p.gpuClass).getD 0
  let poolGpus := (need.poolGpusByClass.get? p.gpuClass).getD 0
  if p.gpuCount = 0 || kills = 0 || ge.any (need.boundary < ·) || poolGpus = 0 then none
  else some (ControllerState.riskOf kills poolGpus)

/-- What bucket `i` gets of the pod's risks: those whose kill window, not begun before the guarantee
ends, meets it. -/
def riskParts (needs : List ForecastBoundaryNeed) (lead : Int) (buckets : List Bucket)
    (p : PodRuntimeView) (ge : Option Instant) (i : Nat) : List ℚ :=
  (needs.filter fun need =>
    i ∈ overlappingBucketIndices (ControllerState.killStart need.boundary lead ge)
      need.boundary buckets).filterMap
      (boundaryRisk p ge)

def bucketState (ge : Option Instant) (b : Bucket) : BucketState :=
  match ge with
  | none => .overstay
  | some e => if e ≤ b.start then .overstay else if b.end_ ≤ e then .guaranteed else .mixed

def podForecast (needs : List ForecastBoundaryNeed) (lead : Int) (buckets : List Bucket)
    (p : PodRuntimeView) (ge : Option Instant) : PodForecast where
  view := p
  guaranteeEnd := ge
  buckets := buckets.zipIdx.map fun x =>
    { risk := combineRisks (riskParts needs lead buckets p ge x.2), state := bucketState ge x.1 }

namespace ControllerState

variable (s : ControllerState)

/-- The forecast over any buckets and up to any horizon. -/
def forecastOver (buckets : List Bucket) (horizonEnd : Instant) (capacityByClass : Dict String Nat)
    (pods : List PodRuntimeView) (pending : List OnDemandCandidate) (now : Instant) (lead : Int) :
    PreemptionForecast :=
  let free := freeCapacityByClass capacityByClass pods
  let admitted := pods.filter fun p => p.reservationId.isSome && p.nodeResident && !p.terminating
  let guaranteeEndByUid := s.guaranteeEndByUid pods now
  let needs := (s.forecastBoundaries now (horizonEnd + lead)).map fun b =>
    s.forecastBoundaryNeed b free pods now guaranteeEndByUid
  let pendingByClass := pending.foldl (fun (byClass : Dict String Nat) c =>
    byClass.set c.gpuClassLabel ((byClass.get? c.gpuClassLabel).getD 0 + c.gpuRequested)) ∅
  let classes := (capacityByClass.keys ++ admitted.map (·.gpuClass) ++ pendingByClass.keys ++
    needs.flatMap fun need => need.demandByClass.keys).dedup.insertionSort (· ≤ ·)
  { generatedAt := now
    leadMinutes := lead / minutes 1
    buckets := buckets.zipIdx.map fun x =>
      bucketSummary classes capacityByClass free pendingByClass needs lead buckets x.2 x.1
    pods := admitted.map fun p =>
      podForecast needs lead buckets p (guaranteeEndByUid.get? p.uid).join }

def forecastPreemptionRisk (capacityByClass : Dict String Nat) (pods : List PodRuntimeView)
    (pending : List OnDemandCandidate) (now : Instant) (lead : Int) : PreemptionForecast :=
  let buckets := forecastBuckets now forecastBucketCount
  s.forecastOver buckets ((buckets.getLast?.map (·.end_)).getD now) capacityByClass pods pending now lead

end ControllerState

end GpuReservation.Model
