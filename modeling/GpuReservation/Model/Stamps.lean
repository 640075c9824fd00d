import GpuReservation.Model.Warnings

/-!
# The stamps of the pods

The annotations which tell a pod's owner where it stands, as they are written on the pod, and the three
reconcilers which bring them up to date.  Each compares what it wants with what the pod carries, and
patches the pod only where the two differ.
-/

namespace GpuReservation.Model

open GpuReservation.Library

/-- What `astimezone` raises where an instant is beyond the calendar. -/
inductive OverflowError
  | dateOutOfRange
  deriving DecidableEq, Repr

/-- A timestamp as it is written: the time of the clock, and the offset where one is given. -/
structure DateTimeText where
  wall : Instant
  offset : Option Int
  deriving DecidableEq, Repr

/-- The text of a timestamp annotation: what `utc_iso` writes of a whole second, or anything else,
with what it reads as. -/
inductive TimeText
  | utc (second : Int)
  | foreign (text : String) (reads : Except OverflowError (Option Instant))
  deriving DecidableEq

/-- `utc_iso`, the text itself. -/
def utcText (t : Instant) : TimeText := .utc (t / seconds 1)

/-- `_parse_utc_iso`: a `ValueError` is caught, an `OverflowError` is not. -/
def parseUtcIso : TimeText → Except OverflowError (Option Instant)
  | .utc second => .ok (some (seconds second))
  | .foreign _ reads => reads

/-- What the annotations of a pod say; `none` where one is absent. -/
structure PodStamps where
  terminationWarningAt : Option TimeText := none
  terminationWarningRisk : Option String := none
  terminationWarningMessage : Option String := none
  guaranteeStatus : Option String := none
  guaranteedUntil : Option TimeText := none
  reservationKind : Option String := none
  reservationStart : Option TimeText := none
  reservationEnd : Option TimeText := none
  reservationGpuCount : Option String := none
  gpuClassName : Option String := none
  deriving DecidableEq

/-- A pod of a snapshot, with its annotations. -/
structure StampedPod where
  pod : Pod
  stamps : PodStamps
  deriving DecidableEq

/-- `_parse_utc_iso` of an annotation which may be absent. -/
def readStamp : Option TimeText → Except OverflowError (Option Instant)
  | none => .ok none
  | some text => parseUtcIso text

/-- The pod as the sweep reads it, where it can. -/
def StampedPod.read (p : StampedPod) : Pod :=
  { p.pod with
    terminationWarningAt := (readStamp p.stamps.terminationWarningAt).toOption.join
    terminationWarningForeign := p.stamps.terminationWarningAt.any fun text =>
      text matches .foreign _ _
    terminationWarningRisk := p.stamps.terminationWarningRisk
    terminationWarningMessage := p.stamps.terminationWarningMessage }

/-- `_pod_view`. -/
def StampedPod.view (inventory : Option (Dict String (Dict String Nat))) (p : StampedPod) :
    Except OverflowError PodRuntimeView := do
  let warnedAt ← readStamp p.stamps.terminationWarningAt
  return { podView inventory p.pod with terminationWarningAt := warnedAt }

structure ReservationFacts where
  kind : String
  startUtc : Instant
  endUtc : Instant
  gpuCount : Nat
  gpuClassName : String
  deriving DecidableEq, Repr

def Kind.text : Kind → String
  | .booking => "booking"
  | .onDemand => "on_demand"
  | .bestEffort => "best_effort"
  | .other text => text

/-- `_reservation_facts`. -/
def reservationFacts (r : ReservationResponse) : ReservationFacts where
  kind := r.kind.text
  startUtc := slotStart r
  endUtc := slotEnd r
  gpuCount := r.gpuCount
  gpuClassName := r.gpuClass.name

structure GuaranteeStatus where
  status : String
  guaranteedUntil : Option Instant
  deriving DecidableEq, Repr

namespace ControllerState

variable (s : ControllerState)

def planGuaranteeStatus (pods : List PodRuntimeView) (now : Instant) : Dict Uid GuaranteeStatus :=
  Dict.ofList ((pods.filter (·.reservationId.isSome)).map fun p =>
    (p.uid, match s.guaranteeEnd p.reservationId now with
      | none => ⟨"overstay", none⟩
      | some e => if now < e then ⟨"guaranteed", some e⟩ else ⟨"overstay", none⟩))

/-- The reservations of the pods by their ids: of several rows of one id, the last. -/
def planReservationFacts (pods : List PodRuntimeView) : Dict Nat ReservationResponse :=
  let byId := Dict.ofList (s.reservations.map fun r => (r.id, r))
  Dict.ofList ((pods.filterMap (·.reservationId)).filterMap fun id => (byId.get? id).map (id, ·))

end ControllerState

/-- A patch of a pod's annotations. -/
inductive Patch
  | guaranteeStatus (status : String) (guaranteedUntil : Option Instant)
  | reservationFacts (facts : ReservationFacts)
  | terminationWarning (terminateAt : Instant) (risk message : String)
  | clearTerminationWarning
  deriving DecidableEq, Repr

/-- The stamps once the patch was carried out. -/
def PodStamps.patched (stamps : PodStamps) : Patch → PodStamps
  | .guaranteeStatus status none => { stamps with guaranteeStatus := some status }
  | .guaranteeStatus status (some t) =>
    { stamps with guaranteeStatus := some status, guaranteedUntil := some (utcText t) }
  | .reservationFacts facts =>
    { stamps with
      reservationKind := some facts.kind
      reservationStart := some (utcText facts.startUtc)
      reservationEnd := some (utcText facts.endUtc)
      reservationGpuCount := some (toString facts.gpuCount)
      gpuClassName := some facts.gpuClassName }
  | .terminationWarning terminateAt risk message =>
    { stamps with
      terminationWarningAt := some (utcText terminateAt)
      terminationWarningRisk := some risk
      terminationWarningMessage := some message }
  | .clearTerminationWarning =>
    { stamps with
      terminationWarningAt := none
      terminationWarningRisk := none
      terminationWarningMessage := none }

/-- `_apply_guarantee_status`, for one pod. -/
def guaranteeStatusPatch (statusPlan : Dict Uid GuaranteeStatus) (p : StampedPod) : Option Patch :=
  match statusPlan.get? p.pod.uid with
  | none => none
  | some desired =>
    match desired.guaranteedUntil with
    | some t =>
      -- what `utc_iso` raises is caught, and the pod left as it is
      if ¬ IsDatetime t then none
      else if p.stamps.guaranteeStatus = some desired.status && p.stamps.guaranteedUntil = some (utcText t) then
        none
      else some (.guaranteeStatus desired.status (some t))
    | none =>
      if p.stamps.guaranteeStatus = some desired.status then none
      else some (.guaranteeStatus desired.status none)

/-- The facts as they are written. -/
def ReservationFacts.carried (facts : ReservationFacts) (stamps : PodStamps) : Bool :=
  stamps.reservationKind = some facts.kind && stamps.reservationStart = some (utcText facts.startUtc) &&
    stamps.reservationEnd = some (utcText facts.endUtc) &&
    stamps.reservationGpuCount = some (toString facts.gpuCount) &&
    stamps.gpuClassName = some facts.gpuClassName

/-- `_apply_reservation_facts`, for one pod. -/
def reservationFactsPatch (factsPlan : Dict Nat ReservationResponse) (p : StampedPod) : Option Patch :=
  match p.pod.bookingReference.bind factsPlan.get? with
  | none => none
  | some res =>
    if (reservationFacts res).carried p.stamps then none
    else some (.reservationFacts (reservationFacts res))

/-- What `_apply_reservation_facts` raises for one pod: `utc_iso` of the facts stands outside its `try`. -/
def checkFacts (factsPlan : Dict Nat ReservationResponse) (p : StampedPod) : Except OverflowError Unit :=
  match p.pod.bookingReference.bind factsPlan.get? with
  | none => return ()
  | some res =>
    if IsDatetime (slotStart res) ∧ IsDatetime (slotEnd res) then return () else throw .dateOutOfRange

/-- What `applyTerminationWarning` calls for, for a pod which is not doomed. -/
def terminationWarningPatch (texts : WarningTexts) (warnPlan : Dict Uid TerminationWarning)
    (p : StampedPod) : Option Patch :=
  match warnPlan.get? p.pod.uid with
  | some desired =>
    match texts.messageOf desired with
    | none => none
    | some message =>
      if texts.unchanged p.read desired message then none
      else some (.terminationWarning desired.terminateAt (texts.risk desired.risk) message)
  | none => if p.read.carriesWarning then some .clearTerminationWarning else none

/-- `local_display`, which shows whole seconds; `none` where the local time leaves the calendar, which raises
an `OverflowError`. -/
def localDisplay (display : Int → Option String) (t : Instant) : Option String := display (t / seconds 1)

/-- What a pod is at risk for. -/
def warningCause (display : Int → Option String) : Option Instant → Option String
  | none => some "to keep GPUs free for on-demand jobs"
  | some b => (localDisplay display b).map ("to free GPUs for a reservation starting at " ++ ·)

/-- `_termination_warning_message`. -/
def terminationWarningMessage (display : Int → Option String) (terminateAt : Instant) (risk : String)
    (boundary : Option Instant) : Option String := do
  let why ← warningCause display boundary
  let deadline ← localDisplay display terminateAt
  return "At risk of preemption: this pod is at or nearing the end of its GPU runtime guarantee and may be " ++
    "terminated as early as " ++ deadline ++ " " ++ why ++ " (risk " ++ risk ++
    "). Extend or re-book the reservation to retain capacity."

/-- The texts of the warnings, for a way to write the risk and one to show a second. -/
def warningTexts (risk : ℚ → String) (display : Int → Option String) : WarningTexts where
  risk := risk
  message := terminationWarningMessage display

/-- What the reconcilers go by. -/
structure StampPlans where
  statusPlan : Dict Uid GuaranteeStatus
  factsPlan : Dict Nat ReservationResponse
  warnPlan : Dict Uid TerminationWarning

/-- What a pass plans from its snapshot, the pods it dooms left out of the warnings. -/
def planStamps (config : Config) (s : ControllerState) (boundaries : List Instant)
    (inventory : Dict String (Dict String Nat)) (now : Instant) (doomed : List Uid)
    (snapshot : List StampedPod) : Except OverflowError StampPlans := do
  let views ← snapshot.mapM (·.view none)
  let warned ← snapshot.mapM (·.view (some inventory))
  return { statusPlan := s.planGuaranteeStatus views now
           factsPlan := s.planReservationFacts views
           warnPlan := s.planWarnings config boundaries (gpuCapacityByClass inventory)
             (warned.filter (·.uid ∉ doomed)) now }

/-- The patches of one pod which is not doomed. -/
def StampPlans.patches (plans : StampPlans) (texts : WarningTexts) (p : StampedPod) : List Patch :=
  (guaranteeStatusPatch plans.statusPlan p).toList ++ (reservationFactsPatch plans.factsPlan p).toList ++
    (terminationWarningPatch texts plans.warnPlan p).toList

/-- The pod once all its patches were carried out. -/
def StampPlans.stamp (plans : StampPlans) (texts : WarningTexts) (p : StampedPod) : StampedPod :=
  { p with stamps := (plans.patches texts p).foldl PodStamps.patched p.stamps }

/-- The snapshot after a pass: the doomed pods are gone. -/
def stampedSnapshot (plans : StampPlans) (texts : WarningTexts) (doomed : List Uid)
    (snapshot : List StampedPod) : List StampedPod :=
  (snapshot.filter (·.pod.uid ∉ doomed)).map (plans.stamp texts)

/-- A pass of the three reconcilers, every patch carried out. -/
def StampPlans.pass (plans : StampPlans) (texts : WarningTexts) (doomed : List Uid)
    (snapshot : List StampedPod) : Except OverflowError (List StampedPod) := do
  snapshot.forM (checkFacts plans.factsPlan)
  return stampedSnapshot plans texts doomed snapshot

end GpuReservation.Model
