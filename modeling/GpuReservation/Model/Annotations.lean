import GpuReservation.Library.MergePatch
import GpuReservation.Model.Manifests

/-!
# The annotations of a pod, as they are written

The bodies of the patches of `k8s_client.py`, and the three reconcilers of `main.py` over the texts of a
snapshot.
-/

namespace GpuReservation.Model

open GpuReservation.Library

abbrev AnnotationPatch := MergePatch String String

/-- The five keys of the facts. -/
def factAnnotations (facts : ReservationFacts) : List (String × Option String) :=
  [(reservationKindKey, some facts.kind), (reservationStartKey, some (utcIsoText facts.startUtc)),
    (reservationEndKey, some (utcIsoText facts.endUtc)),
    (reservationGpuCountKey, some (toString facts.gpuCount)), (gpuClassNameKey, some facts.gpuClassName)]

/-- `apply_toleration`, the annotation. -/
def bookingReferenceBody (bookingReference : String) : AnnotationPatch :=
  Dict.ofList [(bookingReferenceKey, some bookingReference)]

/-- `GUARANTEE_STATUS_GUARANTEED`. -/
def guaranteedStatus : String := "guaranteed"

/-- `GUARANTEE_STATUS_OVERSTAY`. -/
def overstayStatus : String := "overstay"

/-- `annotate_runtime_guarantee`. -/
def runtimeGuaranteeEntries (limit : Int) (guaranteedUntil : Instant) (facts : ReservationFacts)
    (admittedAt : Option Instant) : List (String × Option String) :=
  [(runtimeLimitKey, some limit.repr), (guaranteedUntilKey, some (utcIsoText guaranteedUntil)),
    (guaranteeStatusKey, some guaranteedStatus)] ++ factAnnotations facts ++
    (admittedAt.map fun t => (admittedAtKey, some (utcIsoText t))).toList

/-- `_record_guarantee`: the seconds of a guarantee, at least one unless there is none. -/
def guaranteeSeconds (now guaranteedUntil : Instant) (reservation : ReservationResponse) : Int :=
  if reservation.kind = .bestEffort then 0 else max 1 ((guaranteedUntil - now).tdiv (seconds 1))

/-- What a patch of the reconcilers names, and writes there. -/
def Patch.entries : Patch → List (String × Option String)
  | .guaranteeStatus status none => [(guaranteeStatusKey, some status)]
  | .guaranteeStatus status (some t) =>
    [(guaranteeStatusKey, some status), (guaranteedUntilKey, some (utcIsoText t))]
  | .reservationFacts facts => factAnnotations facts
  | .terminationWarning terminateAt risk message =>
    [(terminationWarningAtKey, some (utcIsoText terminateAt)), (terminationWarningRiskKey, some risk),
      (terminationWarningMessageKey, some message)]
  | .clearTerminationWarning =>
    [(terminationWarningAtKey, none), (terminationWarningRiskKey, none),
      (terminationWarningMessageKey, none)]

def Patch.body (patch : Patch) : AnnotationPatch := Dict.ofList patch.entries

/-! ## The reconcilers, text by text -/

/-- `_apply_guarantee_status`, for one pod. -/
def guaranteeStatusWrite (statusPlan : Dict Uid GuaranteeStatus) (p : ToleratedPodInfo) : Option Patch :=
  match statusPlan.get? p.uid with
  | none => none
  | some desired =>
    match desired.guaranteedUntil with
    | some t =>
      if ¬ IsDatetime t then none
      else if p.guaranteeStatus = some desired.status ∧ p.guaranteedUntil = some (utcIsoText t) then none
      else some (.guaranteeStatus desired.status (some t))
    | none =>
      if p.guaranteeStatus = some desired.status then none
      else some (.guaranteeStatus desired.status none)

/-- `_apply_reservation_facts`, for one pod. -/
def reservationFactsWrite (factsPlan : Dict Nat ReservationResponse) (p : ToleratedPodInfo) :
    Option Patch :=
  match (p.reservationId.bind Int.toNat?).bind factsPlan.get? with
  | none => none
  | some res =>
    let facts := reservationFacts res
    if (p.reservationKind, p.reservationStart, p.reservationEnd, p.reservationGpuCount, p.gpuClassName) =
        (some facts.kind, some (utcIsoText facts.startUtc), some (utcIsoText facts.endUtc),
          some (toString facts.gpuCount), some facts.gpuClassName) then none
    else some (.reservationFacts facts)

/-- `_apply_termination_warnings`, for one pod which is not doomed. -/
def terminationWarningWrite (texts : WarningTexts) (warnPlan : Dict Uid TerminationWarning)
    (p : ToleratedPodInfo) : Option Patch :=
  match warnPlan.get? p.uid with
  | some desired =>
    match texts.messageOf desired with
    | none => none
    | some message =>
      if p.terminationWarningAt = some (utcIsoText desired.terminateAt) ∧
          p.terminationWarningRisk = some (texts.risk desired.risk) ∧
          p.terminationWarningMessage = some message then none
      else some (.terminationWarning desired.terminateAt (texts.risk desired.risk) message)
  | none =>
    if p.terminationWarningAt.isSome ∨ p.terminationWarningRisk.isSome then
      some .clearTerminationWarning
    else none

def StampPlans.writes (plans : StampPlans) (texts : WarningTexts) (p : ToleratedPodInfo) : List Patch :=
  (guaranteeStatusWrite plans.statusPlan p).toList ++ (reservationFactsWrite plans.factsPlan p).toList ++
    (terminationWarningWrite texts plans.warnPlan p).toList

/-- The pod object once the patches were carried out. -/
def V1Pod.annotated (pod : V1Pod) (patches : List AnnotationPatch) : V1Pod :=
  { pod with metadata := { pod.metadata with
      annotations := some (patches.foldl Dict.merge pod.annotations) } }

end GpuReservation.Model
