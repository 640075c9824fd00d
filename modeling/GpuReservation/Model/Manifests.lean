import GpuReservation.Library.Gregorian
import GpuReservation.Library.Numerals
import GpuReservation.Library.SortedEntries
import GpuReservation.Library.TextSearch
import GpuReservation.Model.NodePlacement
import GpuReservation.Model.Nodes
import GpuReservation.Model.Stamps

/-!
# Pod objects, as the API server returns them

What `k8s_client.py` reads off a pod object, text by text, and the pod of the other modules it stands for.
-/

namespace GpuReservation.Model

open GpuReservation.Library

/-! ## Texts -/

/-- The text `utc_iso` writes of a second. -/
def isoText (second : Int) : String := String.ofList (isoChars second)

/-- `utc_iso`. -/
def utcIsoText (t : Instant) : String := isoText (t / seconds 1)

/-- `astimezone(timezone.utc)`; what gives no offset is taken for local time. -/
def DateTimeText.astimezone (localOffset : Instant → Int) (t : DateTimeText) :
    Except OverflowError Instant :=
  let utc := t.wall - t.offset.getD (localOffset t.wall)
  if inCalendar (utc / seconds 1) then .ok utc else .error .dateOutOfRange

/-- What the language makes of characters and of timestamps. -/
structure TextRules where
  chars : CharTable
  /-- `datetime.fromisoformat`, `Z` written `+00:00`; `none` where it raises a `ValueError`. -/
  fromIsoFormat : String → Option DateTimeText
  localOffset : Instant → Int
  fromIsoFormat_isoText : ∀ second, inCalendar second →
    fromIsoFormat (isoText second) = some ⟨seconds second, some 0⟩

section Texts

variable (rules : TextRules)

/-- `int()` of a text. -/
def TextRules.int? (text : String) : Option Int := rules.chars.int? maxStrDigits text.toList

/-- `_parse_utc_iso` of a text which is there. -/
def TextRules.parseUtcIso (value : String) : Except OverflowError (Option Instant) :=
  if value = "" then .ok none
  else match rules.fromIsoFormat value with
    | none => .ok none
    | some t => (t.astimezone rules.localOffset).map some

/-- `_parse_utc_iso` of an annotation. -/
def TextRules.readStamp : Option String → Except OverflowError (Option Instant)
  | none => .ok none
  | some value => rules.parseUtcIso value

/-- A text of a timestamp annotation, sorted. -/
def TextRules.timeText (text : String) : TimeText :=
  match readIso text.toList with
  | some second => .utc second
  | none => .foreign text (rules.parseUtcIso text)

/-- `value or default`, a text being false where it is empty. -/
def orElse (value default : Option String) : Option String := (value.filter (· ≠ "")).or default

end Texts

/-! ## Objects -/

structure ObjectMeta where
  ns : String
  name : String
  uid : Uid
  labels : Option (Dict String String) := none
  annotations : Option (Dict String String) := none
  creationTimestamp : Option Instant := none
  deletionTimestamp : Option Instant := none
  deriving DecidableEq

structure V1Container where
  /-- `resources.requests`, where both are there. -/
  requests : Option (Dict String String) := none
  deriving DecidableEq

structure V1PodCondition where
  type : String
  status : String
  reason : Option String := none
  message : Option String := none
  deriving DecidableEq

structure V1PodSpec where
  containers : Option (List V1Container) := none
  tolerations : Option (List Toleration) := none
  nodeName : Option String := none
  /-- The names of the gates. -/
  schedulingGates : Option (List String) := none
  placement : PlacementSpec := {}
  deriving DecidableEq

structure V1PodStatus where
  phase : Option Phase := none
  conditions : Option (List V1PodCondition) := none
  deriving DecidableEq

structure V1Pod where
  metadata : ObjectMeta
  spec : V1PodSpec := {}
  status : Option V1PodStatus := none
  deriving DecidableEq

namespace V1Pod

variable (pod : V1Pod)

def annotations : Dict String String := pod.metadata.annotations.getD ∅

def labels : Dict String String := pod.metadata.labels.getD ∅

end V1Pod

/-! ## Annotation keys -/

/-- `GALENDS_PREFIX`. -/
def galendsPrefix : String := "galends/"

/-- `USAGE_GROUP_ANNOTATION`. -/
def usageGroupAnnotation : String := "galends/usage-group"

def bookingReferenceKey : String := "galends/booking-reference"

def guaranteedUntilKey : String := "galends/guaranteed-until"

def runtimeLimitKey : String := "galends/pod-runtime-limit-seconds"

/-- `RESERVATION_KIND`. -/
def reservationKindKey : String := "galends/reservation-kind"

/-- `RESERVATION_START`. -/
def reservationStartKey : String := "galends/reservation-start"

/-- `RESERVATION_END`. -/
def reservationEndKey : String := "galends/reservation-end"

/-- `RESERVATION_GPU_COUNT`. -/
def reservationGpuCountKey : String := "galends/reservation-gpu-count"

/-- `GPU_CLASS_NAME`. -/
def gpuClassNameKey : String := "galends/gpu-class-name"

/-- `ADMITTED_AT`. -/
def admittedAtKey : String := "galends/admitted-at"

/-- `TERMINATION_WARNING_AT`. -/
def terminationWarningAtKey : String := "galends/termination-warning-at"

/-- `TERMINATION_WARNING_RISK`. -/
def terminationWarningRiskKey : String := "galends/termination-warning-risk"

/-- `TERMINATION_WARNING_MESSAGE`. -/
def terminationWarningMessageKey : String := "galends/termination-warning-message"

/-- `GUARANTEE_STATUS`. -/
def guaranteeStatusKey : String := "galends/guarantee-status"

/-! ## The readers of `k8s_client.py` -/

/-- `None` where the text of the id cannot be made: it would have too many digits. -/
def makeBookingReference (reservationId : Int) : Option String :=
  if reservationId.natAbs < 10 ^ maxStrDigits then some ("res-" ++ reservationId.repr) else none

def getPodPhase (pod : V1Pod) : Phase := (pod.status.bind (·.phase)).getD .absent

/-- The first `PodScheduled` condition. -/
def scheduledCondition (pod : V1Pod) : Option V1PodCondition :=
  ((pod.status.bind (·.conditions)).getD []).find? (·.type = "PodScheduled")

def scheduledFalse (pod : V1Pod) : Bool := (scheduledCondition pod).any (·.status = "False")

def v1PodHasToleration (pod : V1Pod) (key value effect : String) : Bool :=
  (pod.spec.tolerations.getD []).any fun t =>
    t.key = some key && t.value = some value && t.effect = some effect

/-- `_pod_has_any_reservation_toleration`. -/
def v1PodHasAnyReservationToleration (pod : V1Pod) (key : String) : Bool :=
  (pod.spec.tolerations.getD []).any (·.key = some key)

def getPodUsageGroup (pod : V1Pod) : Option String := orElse (pod.annotations.get? usageGroupAnnotation) none

/-- `RUNTIME_GUARANTEE_VALUES`. -/
def runtimeGuaranteeValues : List String := ["none"]

/-- `GALENDS_ANNOTATION_MAX_KEYS`. -/
def galendsAnnotationMaxKeys : Nat := 32

/-- `GALENDS_ANNOTATION_MAX_VALUE`. -/
def galendsAnnotationMaxValue : Nat := 1024

/-- `get_pod_galends_annotations`, in the order of the keys. -/
def getPodGalendsAnnotations (pod : V1Pod) : List (String × String) :=
  let selected := pod.annotations.filter fun key _ => galendsPrefix.toList.isPrefixOf key.toList
  let kept := selected.sortedEntries.take galendsAnnotationMaxKeys
  kept.map fun e => (e.1, String.ofList (e.2.toList.take galendsAnnotationMaxValue))

section Readers

variable (rules : TextRules)

/-- The GPUs a container requests; a text which is no number counts nothing. -/
def containerGpus (c : V1Container) : Int :=
  (((c.requests.getD ∅).get? "nvidia.com/gpu").bind rules.int?).getD 0

def getPodGpuCount (pod : V1Pod) : Int := ((pod.spec.containers.getD []).map (containerGpus rules)).sum

/-- `_parse_min_runtime`. -/
def parseMinRuntime : Option String → Option Int × Option String
  | none => (none, none)
  | some raw =>
    match rules.int? raw with
    | none => (none, some "not_an_integer")
    | some value => if value ≤ 0 then (none, some "not_positive") else (some value, none)

/-- `str.strip().lower()`, as far as it tells the ASCII texts apart. -/
def stripLower (raw : String) : String :=
  String.ofList ((stripBlanks rules.chars.blank raw.toList).map Char.toLower)

/-- `_parse_runtime_guarantee`. -/
def parseRuntimeGuarantee : Option String → Option String × Option String
  | none => (none, none)
  | some raw =>
    if stripLower rules raw ∈ runtimeGuaranteeValues then (some (stripLower rules raw), none)
    else (none, some "unrecognised_value")

def getPodMinRuntimeSeconds (pod : V1Pod) : Option Int :=
  (parseMinRuntime rules (pod.annotations.get? minRuntimeAnnotation)).1

def getPodRuntimeGuaranteeRequest (pod : V1Pod) : Option String :=
  (parseRuntimeGuarantee rules (pod.annotations.get? runtimeGuaranteeAnnotation)).1

def getPodAnnotationProblems (bestEffortEnabled : Bool) (pod : V1Pod) : List AnnotationProblem :=
  let minRuntime := pod.annotations.get? minRuntimeAnnotation
  let guarantee := pod.annotations.get? runtimeGuaranteeAnnotation
  ((parseMinRuntime rules minRuntime).2.map fun reason =>
    AnnotationProblem.mk minRuntimeAnnotation (minRuntime.getD "None") reason).toList ++
  match guarantee with
  | none => []
  | some raw =>
    let reason := if bestEffortEnabled then (parseRuntimeGuarantee rules (some raw)).2
      else some "not_enabled"
    (reason.map fun reason => AnnotationProblem.mk runtimeGuaranteeAnnotation raw reason).toList

def parseBookingReference : Option String → Option Int
  | none => none
  | some reference =>
    if reference = "" || ¬ "res-".toList.isPrefixOf reference.toList then none
    else rules.chars.int? maxStrDigits (reference.toList.drop "res-".length)

/-- `str.rstrip` of the punctuation the scheduler appends. -/
def stripPunctuation (found : List Char) : List Char :=
  found.rdropWhile fun c => c ∈ ['.', ',', ';', ')']

/-- `_INSUFFICIENT_RE.finditer`. -/
def insufficientResources (message : List Char) : List String :=
  (findAfter "Insufficient ".toList (fun c => !rules.chars.blank c) 0 message).map fun found =>
    String.ofList (stripPunctuation found)

/-- `_NAMED_TAINT_RE.finditer`. -/
def namedTaints (message : List Char) : List String :=
  (findAfter "untolerated taint \x7b".toList (fun c => c ∉ ['}', '=', ':']) 0 message).map fun found =>
    String.ofList (stripBlanks rules.chars.blank found)

/-- `is_gpu_gated_pending`. -/
def v1IsGpuGatedPending (pod : V1Pod) (taintKey : String) : Option Bool :=
  if getPodPhase pod ≠ .pending then none
  else match scheduledCondition pod with
    | none => none
    | some scheduled =>
      if scheduled.status ≠ "False" then none
      else if scheduled.reason ≠ some "Unschedulable" then none
      else
        let message := (scheduled.message.getD "").toList
        if message = [] then none
        else if (insufficientResources rules message).any (· ≠ "nvidia.com/gpu") then some false
        else if "Insufficient nvidia.com/gpu".toList <:+: message then some true
        else if ¬ "untolerated taint".toList <:+: message then some false
        else
          let named := namedTaints rules message
          if named ≠ [] ∧ taintKey ∉ named then some false else some true

end Readers

/-! ## What the controller makes of a pod object -/

/-- The settings which a pod object is read by. -/
structure ReadSettings where
  requiredGroupLabel : Option String := none
  defaultUsageGroup : Option String := none
  bestEffortEnabled : Bool := false
  deriving DecidableEq, Repr

/-- The label which names the group of a pod, where the feature is on. -/
def ReadSettings.groupKey (settings : ReadSettings) : Option String :=
  settings.requiredGroupLabel.filter (· ≠ "")

/-- `group_label`, the default standing in. -/
def groupLabelOf (settings : ReadSettings) (pod : V1Pod) : Option String :=
  settings.groupKey.bind fun key => orElse (pod.labels.get? key) settings.defaultUsageGroup

/-- The group a pod names itself. -/
def ownGroup (settings : ReadSettings) (pod : V1Pod) : Option String :=
  match settings.groupKey with
  | some key => pod.labels.get? key
  | none => getPodUsageGroup pod

/-- `usage_group`. -/
def usageGroupOf (settings : ReadSettings) (pod : V1Pod) : Option String :=
  match settings.groupKey with
  | some _ => groupLabelOf settings pod
  | none => orElse (getPodUsageGroup pod) settings.defaultUsageGroup

/-- `usage_group_source`. -/
def usageGroupSourceOf (settings : ReadSettings) (pod : V1Pod) : Option String :=
  if (orElse (ownGroup settings pod) none).isSome then
    some (if settings.groupKey.isSome then "label" else "annotation")
  else if (orElse (usageGroupOf settings pod) none).isSome then some "default"
  else none

section Abstraction

variable (rules : TextRules) (settings : ReadSettings)

def stampsOf (annotations : Dict String String) : PodStamps where
  terminationWarningAt := (annotations.get? terminationWarningAtKey).map rules.timeText
  terminationWarningRisk := annotations.get? terminationWarningRiskKey
  terminationWarningMessage := annotations.get? terminationWarningMessageKey
  guaranteeStatus := annotations.get? guaranteeStatusKey
  guaranteedUntil := (annotations.get? guaranteedUntilKey).map rules.timeText
  reservationKind := annotations.get? reservationKindKey
  reservationStart := (annotations.get? reservationStartKey).map rules.timeText
  reservationEnd := (annotations.get? reservationEndKey).map rules.timeText
  reservationGpuCount := annotations.get? reservationGpuCountKey
  gpuClassName := annotations.get? gpuClassNameKey

/-- The reservation id of a reference; ids are not negative. -/
def reservationIdOf (reference : Option String) : Option Nat :=
  (parseBookingReference rules reference).bind Int.toNat?

/-- What guard 1a goes by of a message. -/
def messageOf (message : List Char) : UnschedulableMessage where
  insufficient := insufficientResources rules message
  untoleratedTaint := "untolerated taint".toList <:+: message
  namedTaints := namedTaints rules message

def podScheduledOf (scheduled : V1PodCondition) : PodScheduled where
  statusFalse := scheduled.status = "False"
  unschedulable := scheduled.reason = some "Unschedulable"
  message :=
    let message := (scheduled.message.getD "").toList
    if message = [] then none else some (messageOf rules message)

/-- The pod a pod object stands for.  A deadline beyond the calendar is none: what reads it raises. -/
def podOf (pod : V1Pod) : Pod where
  uid := pod.metadata.uid
  ns := pod.metadata.ns
  name := pod.metadata.name
  gpuClass := (pod.labels.get? "gpu-class").getD ""
  gpuCount := (getPodGpuCount rules pod).toNat
  phase := getPodPhase pod
  terminating := pod.metadata.deletionTimestamp.isSome
  nodeName := pod.spec.nodeName
  tolerations := pod.spec.tolerations.getD []
  bookingReference := reservationIdOf rules (pod.annotations.get? bookingReferenceKey)
  podScheduled := (scheduledCondition pod).map (podScheduledOf rules)
  groupLabel := groupLabelOf settings pod
  placement := getPodNodePlacement pod.spec.placement
  createdAt := pod.metadata.creationTimestamp
  schedulingGates := pod.spec.schedulingGates.getD []
  minRuntimeSeconds := (getPodMinRuntimeSeconds rules pod).map Int.toNat
  declinesGuarantee := getPodRuntimeGuaranteeRequest rules pod = some "none"
  usageGroup := usageGroupOf settings pod
  usageGroupSource := usageGroupSourceOf settings pod
  terminationWarningAt :=
    (rules.readStamp (pod.annotations.get? terminationWarningAtKey)).toOption.join
  terminationWarningForeign := (pod.annotations.get? terminationWarningAtKey).any fun text =>
    rules.timeText text matches .foreign _ _
  terminationWarningRisk := pod.annotations.get? terminationWarningRiskKey
  terminationWarningMessage := pod.annotations.get? terminationWarningMessageKey
  guaranteedUntil := (rules.readStamp (pod.annotations.get? guaranteedUntilKey)).toOption.join
  annotationProblems := getPodAnnotationProblems rules settings.bestEffortEnabled pod
  hasUsageGroupAnnotation := (getPodUsageGroup pod).isSome

def stampedPodOf (pod : V1Pod) : StampedPod := ⟨podOf rules settings pod, stampsOf rules pod.annotations⟩

structure ToleratedPodInfo where
  ns : String
  name : String
  uid : Uid
  gpuClass : String
  bookingReference : Option String
  reservationId : Option Int
  gpuCount : Int
  phase : Phase
  scheduledFalse : Bool
  deletionTimestamp : Option Instant
  groupLabel : Option String
  nodeName : Option String
  terminationWarningAt : Option String
  terminationWarningRisk : Option String
  terminationWarningMessage : Option String
  guaranteeStatus : Option String
  guaranteedUntil : Option String
  reservationKind : Option String
  reservationStart : Option String
  reservationEnd : Option String
  reservationGpuCount : Option String
  gpuClassName : Option String
  placement : Option NodePlacement
  deriving DecidableEq

def toleratedPodInfo (pod : V1Pod) : ToleratedPodInfo where
  ns := pod.metadata.ns
  name := pod.metadata.name
  uid := pod.metadata.uid
  gpuClass := (pod.labels.get? "gpu-class").getD ""
  bookingReference := pod.annotations.get? bookingReferenceKey
  reservationId := parseBookingReference rules (pod.annotations.get? bookingReferenceKey)
  gpuCount := getPodGpuCount rules pod
  phase := getPodPhase pod
  scheduledFalse := scheduledFalse pod
  deletionTimestamp := pod.metadata.deletionTimestamp
  groupLabel := groupLabelOf settings pod
  nodeName := pod.spec.nodeName
  terminationWarningAt := pod.annotations.get? terminationWarningAtKey
  terminationWarningRisk := pod.annotations.get? terminationWarningRiskKey
  terminationWarningMessage := pod.annotations.get? terminationWarningMessageKey
  guaranteeStatus := pod.annotations.get? guaranteeStatusKey
  guaranteedUntil := pod.annotations.get? guaranteedUntilKey
  reservationKind := pod.annotations.get? reservationKindKey
  reservationStart := pod.annotations.get? reservationStartKey
  reservationEnd := pod.annotations.get? reservationEndKey
  reservationGpuCount := pod.annotations.get? reservationGpuCountKey
  gpuClassName := pod.annotations.get? gpuClassNameKey
  placement := getPodNodePlacement pod.spec.placement

/-- `snapshot_tolerated_pods`, of the pods the LIST returned. -/
def tolerated (pods : List V1Pod) : List ToleratedPodInfo :=
  (pods.filter fun pod => v1PodHasAnyReservationToleration pod tolerationKey).map
    (toleratedPodInfo rules settings)

/-- `_pod_view`. -/
def ToleratedPodInfo.view (inventory : Option (Dict String (Dict String Nat))) (p : ToleratedPodInfo) :
    Except OverflowError PodRuntimeView := do
  let warnedAt ← rules.readStamp p.terminationWarningAt
  return {
    uid := p.uid
    ns := p.ns
    name := p.name
    gpuClass := p.gpuClass
    gpuCount := p.gpuCount.toNat
    reservationId := p.reservationId.bind Int.toNat?
    nodeResident := p.phase = .running || (p.phase = .pending && !p.scheduledFalse)
    terminating := p.deletionTimestamp.isSome
    groupLabel := p.groupLabel
    nodeName := p.nodeName
    terminationWarningAt := warnedAt
    nodeExcluded := match inventory, p.nodeName with
      | some nodes, some node => node ∉ (nodes.get? p.gpuClass).getD ∅
      | _, _ => false }

/-- `gpu_pod_record`, of what it is given. -/
def gpuPodRecordOf (ns name gpuClass : String) (gpuCount : Int) (phase : Phase) (scheduledFalse : Bool)
    (terminating : Bool) (nodeName : Option String) (placement : Option NodePlacement)
    (reservationId : Option Int) : Option GpuPod :=
  if terminating ∨ gpuCount < 1 ∨ gpuClass = "" then none
  else
    let record : GpuPod :=
      { ns, name, gpuClass, gpuCount := gpuCount.toNat, nodeName := nodeName.filter (· ≠ ""), placement,
        reservationId := reservationId.bind Int.toNat? }
    match record.nodeName with
    | some _ =>
      if phase = .running ∨ (phase = .pending ∧ ¬ scheduledFalse) then some record else none
    | none => if phase = .pending then some record else none

/-- `_gpu_pod_of_snapshot`. -/
def ToleratedPodInfo.gpuPod (p : ToleratedPodInfo) : Option GpuPod :=
  gpuPodRecordOf p.ns p.name p.gpuClass p.gpuCount p.phase p.scheduledFalse p.deletionTimestamp.isSome
    p.nodeName p.placement p.reservationId

/-- `_gpu_pod_of_watched`. -/
def gpuPodOfWatched (pod : V1Pod) (gpuClassLabel : String) : Option GpuPod :=
  gpuPodRecordOf pod.metadata.ns pod.metadata.name gpuClassLabel (getPodGpuCount rules pod)
    (getPodPhase pod) (scheduledFalse pod) pod.metadata.deletionTimestamp.isSome pod.spec.nodeName
    (getPodNodePlacement pod.spec.placement)
    (parseBookingReference rules (pod.annotations.get? bookingReferenceKey))

end Abstraction

end GpuReservation.Model
