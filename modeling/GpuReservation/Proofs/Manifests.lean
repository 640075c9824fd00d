import GpuReservation.Library.Fallible
import GpuReservation.Model.Manifests
import GpuReservation.Model.Watch
import Mathlib.Data.String.Basic

/-!
# Pod objects and the pods they stand for

What the snapshot, the watch and the guards read off a pod object is what they read off the pod it stands
for.  A reference is read back as it was written, and what is forwarded of the annotations is bounded.
-/

namespace GpuReservation.Proofs

open Library Model

section Texts

variable {rules : TextRules}

lemma readIso_isoText {second : Int} (h : inCalendar second) :
    readIso (isoText second).toList = some second := by
  rw [isoText, String.toList_ofList]
  exact readIso_eq_some_iff.mpr ⟨h, rfl⟩

lemma isoText_ne_empty (second : Int) : isoText second ≠ "" := by
  intro h
  have hchars := congrArg String.toList h
  simp [isoText, isoChars, dateChars, twoDigits] at hchars

lemma timeText_isoText {second : Int} (h : inCalendar second) :
    rules.timeText (isoText second) = .utc second := by
  rw [TextRules.timeText, readIso_isoText h]

lemma timeText_eq_utc_iff {text : String} {second : Int} :
    rules.timeText text = .utc second ↔ inCalendar second ∧ text = isoText second := by
  constructor
  · intro h
    rw [TextRules.timeText] at h
    split at h
    · rename_i found hread
      cases h
      obtain ⟨hcal, hchars⟩ := readIso_eq_some_iff.mp hread
      exact ⟨hcal, by rw [isoText, ← hchars, String.ofList_toList]⟩
    · cases h
  · rintro ⟨hcal, rfl⟩
    exact timeText_isoText hcal

/-- What a text reads as does not depend on how it was sorted. -/
lemma parseUtcIso_timeText (text : String) :
    parseUtcIso (rules.timeText text) = rules.parseUtcIso text := by
  rw [TextRules.timeText]
  split
  · rename_i second hread
    obtain ⟨hcal, hchars⟩ := readIso_eq_some_iff.mp hread
    have htext : text = isoText second := by rw [isoText, ← hchars, String.ofList_toList]
    have hwhole : (seconds second - (some (0 : Int)).getD (rules.localOffset (seconds second))) /
        seconds 1 = second := by
      rw [Option.getD_some, sub_zero]
      exact Int.mul_ediv_cancel second (by decide)
    rw [htext, TextRules.parseUtcIso, if_neg (isoText_ne_empty second),
      rules.fromIsoFormat_isoText second hcal]
    dsimp only [DateTimeText.astimezone]
    rw [hwhole, if_pos hcal, Option.getD_some, sub_zero, map_ok]
    rfl
  · rfl

lemma readStamp_timeText (text : Option String) :
    Model.readStamp (text.map rules.timeText) = rules.readStamp text := by
  cases text with
  | none => rfl
  | some text => exact parseUtcIso_timeText text

lemma timeText_inj {text text' : String} :
    rules.timeText text = rules.timeText text' ↔ text = text' := by
  constructor
  · intro h
    cases hsorted : rules.timeText text with
    | utc second =>
      have htext := (timeText_eq_utc_iff.mp hsorted).2
      have htext' := (timeText_eq_utc_iff.mp (h ▸ hsorted)).2
      rw [htext, htext']
    | «foreign» shown reads =>
      have hshown : ∀ text, rules.timeText text = .foreign shown reads → text = shown := by
        intro text hsorted
        rw [TextRules.timeText] at hsorted
        split at hsorted <;> cases hsorted
        rfl
      rw [hshown text hsorted, hshown text' (h ▸ hsorted)]
  · rintro rfl
    rfl

end Texts

/-- The rules of ASCII, and of the timestamps which `utc_iso` writes or which give an offset. -/
def plainRules : TextRules where
  chars := CharTable.ascii
  fromIsoFormat text :=
    match readIso text.toList with
    | some second => some ⟨seconds second, some 0⟩
    | none => (readIsoOffset text.toList).map fun (second, offset) =>
        ⟨seconds second, some (seconds offset)⟩
  localOffset _ := 0
  fromIsoFormat_isoText second h := by rw [readIso_isoText h]

section Reading

variable {rules : TextRules} {settings : ReadSettings}

lemma scheduledFalse_podOf (pod : V1Pod) :
    (podOf rules settings pod).scheduledFalse = scheduledFalse pod := by
  simp only [Pod.scheduledFalse, podOf, scheduledFalse, Option.any_map]
  rfl

lemma podHasAnyReservationToleration_podOf (pod : V1Pod) (key : String) :
    podHasAnyReservationToleration (podOf rules settings pod) key =
      v1PodHasAnyReservationToleration pod key := rfl

lemma podHasToleration_podOf (pod : V1Pod) (key value effect : String) :
    podHasToleration (podOf rules settings pod) key value effect =
      v1PodHasToleration pod key value effect := rfl

/-- The deadline which the pod object carries, if any, is in the calendar. -/
def DeadlineReadable (rules : TextRules) (pod : V1Pod) : Prop :=
  rules.readStamp (pod.annotations.get? terminationWarningAtKey) ≠ .error .dateOutOfRange

instance (rules : TextRules) (pod : V1Pod) : Decidable (DeadlineReadable rules pod) :=
  inferInstanceAs (Decidable (_ ≠ _))

lemma view_toleratedPodInfo (inventory : Option (Dict String (Dict String Nat))) (pod : V1Pod) :
    (toleratedPodInfo rules settings pod).view rules inventory =
      if DeadlineReadable rules pod then .ok (podView inventory (podOf rules settings pod))
      else .error .dateOutOfRange := by
  have hread : (toleratedPodInfo rules settings pod).terminationWarningAt =
      pod.annotations.get? terminationWarningAtKey := rfl
  cases hat : rules.readStamp (pod.annotations.get? terminationWarningAtKey) with
  | error e =>
    cases e
    have hraises : ¬ DeadlineReadable rules pod := fun h => h hat
    unfold ToleratedPodInfo.view
    rw [if_neg hraises, hread, hat, error_bind]
  | ok warnedAt =>
    have hreadable : DeadlineReadable rules pod := by
      unfold DeadlineReadable
      rw [hat]
      exact nofun
    have hdeadline : (podOf rules settings pod).terminationWarningAt = warnedAt := by
      simp only [podOf, hat, Except.toOption, Option.join_some]
    unfold ToleratedPodInfo.view
    rw [if_pos hreadable, hread, hat, ok_bind, pure_eq_ok]
    simp only [podView, scheduledFalse_podOf, hdeadline]
    rfl

lemma gpuPodRecord_podOf (pod : V1Pod) : gpuPodRecord (podOf rules settings pod) =
    gpuPodOfWatched rules pod ((pod.labels.get? "gpu-class").getD "") := by
  have hcount : (podOf rules settings pod).gpuCount < 1 ↔ getPodGpuCount rules pod < 1 := by
    simp only [podOf]
    omega
  simp only [gpuPodRecord, gpuPodOfWatched, gpuPodRecordOf, hcount, scheduledFalse_podOf]
  rfl

lemma gpuPod_toleratedPodInfo (pod : V1Pod) : (toleratedPodInfo rules settings pod).gpuPod =
    gpuPodOfWatched rules pod ((pod.labels.get? "gpu-class").getD "") := rfl

lemma read_stampedPodOf (pod : V1Pod) :
    (stampedPodOf rules settings pod).read = podOf rules settings pod := by
  have hread : ∀ (p : Pod) (warnedAt : Option Instant) (foreign : Bool),
      warnedAt = p.terminationWarningAt → foreign = p.terminationWarningForeign →
      { p with terminationWarningAt := warnedAt, terminationWarningForeign := foreign } = p := by
    rintro p _ _ rfl rfl
    rfl
  apply hread (podOf rules settings pod)
  · change (Model.readStamp ((pod.annotations.get? terminationWarningAtKey).map
      rules.timeText)).toOption.join =
        (rules.readStamp (pod.annotations.get? terminationWarningAtKey)).toOption.join
    rw [readStamp_timeText]
  · exact Option.any_map ..

end Reading

section Guard

variable {rules : TextRules}

lemma stripPunctuation_prefix (found : List Char) : stripPunctuation found <+: found :=
  List.rdropWhile_prefix _ _

/-- A shortage which is named is found, and what is found is named. -/
lemma named_iff_mem_text {message : List Char}
    (h : ¬ (insufficientResources rules message).any (· ≠ "nvidia.com/gpu")) :
    (insufficientResources rules message).contains "nvidia.com/gpu" ↔
      "Insufficient nvidia.com/gpu".toList <:+: message := by
  have hall : ∀ found ∈ insufficientResources rules message, found = "nvidia.com/gpu" := by
    simpa using h
  rw [List.contains_iff_mem]
  constructor
  · intro hmem
    obtain ⟨found, hfound, hname⟩ := List.mem_map.mp hmem
    have hpre : "nvidia.com/gpu".toList <+: found := by
      rw [← hname, String.toList_ofList]
      exact stripPunctuation_prefix found
    obtain ⟨rest, rfl⟩ := hpre
    have hinfix := (infix_of_mem_findAfter hfound).1
    rw [← List.append_assoc] at hinfix
    exact (List.infix_append' [] _ rest).trans hinfix
  · intro hinfix
    have hblank : (!rules.chars.blank 'n') = true := by
      rw [rules.chars.graphic_not_blank 'n' (by decide) (by decide)]
      rfl
    have hstart : "Insufficient ".toList ++ ['n'] <:+: message := by
      refine List.IsInfix.trans ?_ hinfix
      exact List.IsPrefix.isInfix ⟨"vidia.com/gpu".toList, by decide⟩
    have hne : insufficientResources rules message ≠ [] := by
      rw [insufficientResources, ne_eq, List.map_eq_nil_iff]
      exact findAfter_ne_nil hblank hstart
    obtain ⟨found, hfound⟩ := List.exists_mem_of_ne_nil _ hne
    exact hall found hfound ▸ hfound

lemma podScheduledOf_message (rules : TextRules) (scheduled : V1PodCondition) :
    (podScheduledOf rules scheduled).message =
      if (scheduled.message.getD "").toList = [] then none
      else some (messageOf rules (scheduled.message.getD "").toList) := rfl

/-- What the verdict goes by once the text is there. -/
lemma verdict_messageOf (message : List Char) (taintKey : String) :
    (if (messageOf rules message).insufficient.any (· ≠ "nvidia.com/gpu") then some false
      else if (messageOf rules message).insufficient.contains "nvidia.com/gpu" then some true
      else if ¬ (messageOf rules message).untoleratedTaint then some false
      else if (messageOf rules message).namedTaints ≠ [] ∧
          taintKey ∉ (messageOf rules message).namedTaints then some false
      else some true) =
    if (insufficientResources rules message).any (· ≠ "nvidia.com/gpu") then some false
      else if "Insufficient nvidia.com/gpu".toList <:+: message then some true
      else if ¬ "untolerated taint".toList <:+: message then some false
      else if namedTaints rules message ≠ [] ∧ taintKey ∉ namedTaints rules message then some false
      else some true := by
  have htaint : (messageOf rules message).untoleratedTaint = true ↔
      "untolerated taint".toList <:+: message := decide_eq_true_iff
  change (if (insufficientResources rules message).any (· ≠ "nvidia.com/gpu") then some false
    else if (insufficientResources rules message).contains "nvidia.com/gpu" then some true
    else if ¬ (messageOf rules message).untoleratedTaint then some false
    else if namedTaints rules message ≠ [] ∧ taintKey ∉ namedTaints rules message then some false
    else some true) = _
  by_cases hother : (insufficientResources rules message).any (· ≠ "nvidia.com/gpu")
  · rw [if_pos hother, if_pos hother]
  · rw [if_neg hother, if_neg hother, if_congr htaint.not rfl rfl,
      if_congr (named_iff_mem_text hother) rfl rfl]

/-- Guard 1a says of the pod what it says of the object. -/
lemma isGpuGatedPending_podOf {settings : ReadSettings} (pod : V1Pod) (taintKey : String) :
    isGpuGatedPending (podOf rules settings pod) taintKey = v1IsGpuGatedPending rules pod taintKey := by
  have hphase : (podOf rules settings pod).phase = getPodPhase pod := rfl
  have hscheduled : (podOf rules settings pod).podScheduled =
      (scheduledCondition pod).map (podScheduledOf rules) := rfl
  rw [isGpuGatedPending, v1IsGpuGatedPending, hphase, hscheduled]
  by_cases hpending : getPodPhase pod = .pending
  · rw [if_neg (not_not.mpr hpending), if_neg (not_not.mpr hpending)]
    cases scheduledCondition pod with
    | none => rfl
    | some scheduled =>
      have hmessages := podScheduledOf_message rules scheduled
      rw [Option.map_some]
      dsimp only
      by_cases hstatus : scheduled.status = "False"
      · by_cases hreason : scheduled.reason = some "Unschedulable"
        · have hruled : ¬ (¬ (podScheduledOf rules scheduled).statusFalse = true ∨
              ¬ (podScheduledOf rules scheduled).unschedulable = true) := by
            simp [podScheduledOf, hstatus, hreason]
          rw [if_neg hruled, if_neg (not_not.mpr hstatus), if_neg (not_not.mpr hreason), hmessages]
          by_cases hmessage : (scheduled.message.getD "").toList = []
          · rw [if_pos hmessage, if_pos hmessage]
          · rw [if_neg hmessage, if_neg hmessage]
            exact verdict_messageOf _ taintKey
        · have hruled : ¬ (podScheduledOf rules scheduled).statusFalse = true ∨
              ¬ (podScheduledOf rules scheduled).unschedulable = true := by
            right
            simpa [podScheduledOf] using hreason
          rw [if_pos hruled, if_neg (not_not.mpr hstatus), if_pos hreason]
      · have hruled : ¬ (podScheduledOf rules scheduled).statusFalse = true ∨
            ¬ (podScheduledOf rules scheduled).unschedulable = true := by
          left
          simpa [podScheduledOf] using hstatus
        rw [if_pos hruled, if_pos hstatus]
  · rw [if_pos hpending, if_pos hpending]

end Guard

section Agreement

variable (rules : TextRules) (settings : ReadSettings)

/-- The pods a snapshot stands for. -/
def admittedPods (pods : List V1Pod) : List Pod :=
  (pods.map (podOf rules settings)).filter fun p => podHasAnyReservationToleration p tolerationKey

lemma map_tolerated {β : Type} (f : ToleratedPodInfo → β) (g : Pod → β)
    (h : ∀ pod, f (toleratedPodInfo rules settings pod) = g (podOf rules settings pod))
    (pods : List V1Pod) :
    (tolerated rules settings pods).map f = (admittedPods rules settings pods).map g := by
  have hkept : (fun p => podHasAnyReservationToleration p tolerationKey) ∘ podOf rules settings =
      fun pod => v1PodHasAnyReservationToleration pod tolerationKey := by
    funext pod
    exact podHasAnyReservationToleration_podOf pod tolerationKey
  rw [tolerated, admittedPods, List.filter_map, hkept, List.map_map, List.map_map]
  exact List.map_congr_left fun pod _ => h pod

/-- A pod the watch takes for an admitted one is in the snapshot. -/
lemma mem_tolerated_of_hasToleration {pods : List V1Pod} {pod : V1Pod} (hpod : pod ∈ pods)
    {value effect : String} (h : v1PodHasToleration pod tolerationKey value effect) :
    toleratedPodInfo rules settings pod ∈ tolerated rules settings pods := by
  apply List.mem_map_of_mem
  rw [List.mem_filter]
  refine ⟨hpod, ?_⟩
  obtain ⟨t, ht, hkey⟩ := List.any_eq_true.mp h
  simp only [Bool.and_eq_true, decide_eq_true_eq] at hkey
  exact List.any_eq_true.mpr ⟨t, ht, decide_eq_true hkey.1.1⟩

/-- A LIST is read exactly if no pod of it carries a deadline beyond the calendar. -/
lemma mapM_view_tolerated (pods : List V1Pod) (inventory : Option (Dict String (Dict String Nat))) :
    (tolerated rules settings pods).mapM (·.view rules inventory) =
      if ∀ pod ∈ pods, v1PodHasAnyReservationToleration pod tolerationKey →
          DeadlineReadable rules pod then
        .ok ((admittedPods rules settings pods).map (podView inventory))
      else .error .dateOutOfRange := by
  have hadmitted : (tolerated rules settings pods).mapM (·.view rules inventory) =
      (pods.filter fun pod => v1PodHasAnyReservationToleration pod tolerationKey).mapM fun pod =>
        (toleratedPodInfo rules settings pod).view rules inventory := by
    rw [tolerated, List.mapM_map]
    rfl
  rw [hadmitted]
  split
  · rename_i hreadable
    have hviews : ∀ pod ∈ (pods.filter fun pod => v1PodHasAnyReservationToleration pod tolerationKey),
        (toleratedPodInfo rules settings pod).view rules inventory =
          .ok (podView inventory (podOf rules settings pod)) := by
      intro pod hpod
      obtain ⟨hpod, htol⟩ := List.mem_filter.mp hpod
      rw [view_toleratedPodInfo, if_pos (hreadable pod hpod htol)]
    rw [mapM_eq_ok_map hviews, admittedPods, List.filter_map, List.map_map]
    rfl
  · rename_i hraises
    push Not at hraises
    obtain ⟨pod, hpod, htol, hdeadline⟩ := hraises
    cases hread : (pods.filter fun pod => v1PodHasAnyReservationToleration pod tolerationKey).mapM
        fun pod => (toleratedPodInfo rules settings pod).view rules inventory with
    | error e => cases e; rfl
    | ok views =>
      obtain ⟨view, hview⟩ := exists_ok_of_mapM hread (List.mem_filter.mpr ⟨hpod, htol⟩)
      rw [view_toleratedPodInfo, if_neg hdeadline] at hview
      cases hview

example : plainRules.parseUtcIso "0001-01-01T00:00:00+14:00" = .error .dateOutOfRange := by
  decide +kernel

end Agreement

section Reference

variable {rules : TextRules}

lemma makeBookingReference_eq_some_iff {id : Int} {reference : String} :
    makeBookingReference id = some reference ↔
      id.natAbs < 10 ^ maxStrDigits ∧ reference = "res-" ++ id.repr := by
  rw [makeBookingReference]
  split <;> simp_all [eq_comm]

lemma parse_of_make {id : Int} {reference : String} (h : makeBookingReference id = some reference) :
    parseBookingReference rules (some reference) = some id := by
  obtain ⟨hid, rfl⟩ := makeBookingReference_eq_some_iff.mp h
  have hchars : ("res-" ++ id.repr).toList = "res-".toList ++ id.repr.toList := String.toList_append
  have hne : "res-" ++ id.repr ≠ "" := by
    intro h
    simp [h] at hchars
  have hpre : "res-".toList.isPrefixOf ("res-" ++ id.repr).toList := by
    rw [List.isPrefixOf_iff_prefix, hchars]
    exact List.prefix_append _ _
  have hdrop : ("res-" ++ id.repr).toList.drop "res-".length = id.repr.toList := by
    rw [hchars]
    exact List.drop_left
  simp only [parseBookingReference, hne, hpre, hdrop, decide_false, not_true_eq_false, Bool.or_self,
    Bool.false_eq_true, if_false]
  rw [CharTable.int?_int_repr (by decide) id, if_pos hid]

lemma natAbs_lt_of_parse {text : String} {id : Int}
    (h : parseBookingReference rules (some text) = some id) : id.natAbs < 10 ^ maxStrDigits := by
  simp only [parseBookingReference] at h
  split at h
  · cases h
  · exact CharTable.natAbs_lt_of_int? h

/-- A reference which is made is read back as the id it was made for.  Those which are made are those of
the ids that can be read at all. -/
theorem parseBookingReference_make (id : Int) :
    (∀ reference, makeBookingReference id = some reference →
      parseBookingReference rules (some reference) = some id) ∧
    ((∃ reference, makeBookingReference id = some reference) ↔
      ∃ text, parseBookingReference rules (some text) = some id) := by
  refine ⟨fun reference h => parse_of_make h, fun ⟨reference, h⟩ => ⟨reference, parse_of_make h⟩, ?_⟩
  rintro ⟨text, htext⟩
  exact ⟨_, makeBookingReference_eq_some_iff.mpr ⟨natAbs_lt_of_parse htext, rfl⟩⟩

end Reference

section Annotations

variable (pod : V1Pod)

/-- The annotations of the namespace. -/
def galendsAnnotations : Dict String String :=
  pod.annotations.filter fun key _ => galendsPrefix.toList.isPrefixOf key.toList

lemma get?_galendsAnnotations {key text : String} : (galendsAnnotations pod).get? key = some text ↔
    pod.annotations.get? key = some text ∧ galendsPrefix.toList <+: key.toList := by
  rw [galendsAnnotations, Dict.get?_filter, Option.filter_eq_some_iff, List.isPrefixOf_iff_prefix]

/-- So many keys of the namespace come before one. -/
lemma countP_before (key : String) :
    (galendsAnnotations pod).sortedEntries.countP (fun e => e.1 < key) =
      (pod.annotations.keys.filter fun k => galendsPrefix.toList <+: k.toList ∧ k < key).length := by
  have hperm : (galendsAnnotations pod).sortedEntries.Perm (galendsAnnotations pod).entries :=
    List.perm_insertionSort _ _
  have hpre : ∀ k : String, (galendsPrefix.toList.isPrefixOf k.toList) =
      decide (galendsPrefix.toList <+: k.toList) := by
    intro k
    rw [Bool.eq_iff_iff, decide_eq_true_iff]
    exact List.isPrefixOf_iff_prefix
  rw [hperm.countP_eq, galendsAnnotations, Dict.filter, List.countP_filter, Dict.keys,
    ← List.countP_eq_length_filter, List.countP_map]
  refine List.countP_congr fun e _ => ?_
  simp only [Function.comp_apply, hpre, Bool.decide_and, Bool.and_comm]

/-- What is forwarded of the annotations: of the keys of the namespace the first in order, each text cut to
size.  The order in which the annotations were written makes no difference. -/
theorem mem_getPodGalendsAnnotations (pod : V1Pod) :
    (getPodGalendsAnnotations pod).Pairwise (fun a b => a.1 < b.1) ∧
      (getPodGalendsAnnotations pod).length ≤ galendsAnnotationMaxKeys ∧
      ∀ key value, (key, value) ∈ getPodGalendsAnnotations pod ↔
        galendsPrefix.toList <+: key.toList ∧
        (∃ text, pod.annotations.get? key = some text ∧
          value.toList = text.toList.take galendsAnnotationMaxValue) ∧
        (pod.annotations.keys.filter fun k =>
          galendsPrefix.toList <+: k.toList ∧ k < key).length < galendsAnnotationMaxKeys := by
  have hsorted := (galendsAnnotations pod).pairwise_sortedEntries
  refine ⟨List.pairwise_map.mpr (hsorted.sublist (List.take_sublist _ _)), ?_, fun key value => ?_⟩
  · rw [getPodGalendsAnnotations, List.length_map]
    exact List.length_take_le _ _
  · have hkept : ∀ text, (key, text) ∈
        (galendsAnnotations pod).sortedEntries.take galendsAnnotationMaxKeys ↔
        (pod.annotations.get? key = some text ∧ galendsPrefix.toList <+: key.toList) ∧
        (pod.annotations.keys.filter fun k =>
          galendsPrefix.toList <+: k.toList ∧ k < key).length < galendsAnnotationMaxKeys := by
      intro text
      rw [mem_take_iff_countP hsorted, Dict.mem_sortedEntries,
        get?_galendsAnnotations, countP_before]
    constructor
    · intro h
      obtain ⟨⟨_, text⟩, htext, heq⟩ := List.mem_map.mp h
      cases heq
      obtain ⟨⟨hget, hpre⟩, hcount⟩ := (hkept text).mp htext
      exact ⟨hpre, ⟨text, hget, String.toList_ofList⟩, hcount⟩
    · rintro ⟨hpre, ⟨text, hget, hvalue⟩, hcount⟩
      refine List.mem_map.mpr ⟨(key, text), (hkept text).mpr ⟨⟨hget, hpre⟩, hcount⟩, ?_⟩
      rw [← hvalue, String.ofList_toList]

end Annotations

section Reasons

variable {rules : TextRules}

lemma parseMinRuntime_fst {raw : Option String} {value : Int}
    (h : (parseMinRuntime rules raw).1 = some value) :
    0 < value ∧ (parseMinRuntime rules raw).2 = none := by
  cases raw with
  | none => cases h
  | some raw =>
    rw [parseMinRuntime] at h ⊢
    split at h
    · cases h
    · split at h
      · cases h
      · rename_i hpos
        cases h
        exact ⟨by omega, by rw [if_neg hpos]⟩

/-- A text which is there is read, or there is a reason why not. -/
lemma parseMinRuntime_none {raw : Option String} (h : (parseMinRuntime rules raw).1 = none) :
    raw = none ∨ ((parseMinRuntime rules raw).2).isSome := by
  cases raw with
  | none => exact .inl rfl
  | some raw =>
    right
    rw [parseMinRuntime] at h ⊢
    split at h
    · rfl
    · split at h
      · rename_i hneg
        rw [if_pos hneg]
        rfl
      · cases h

lemma parseRuntimeGuarantee_snd {raw : String}
    (h : (parseRuntimeGuarantee rules (some raw)).1 = some "none") :
    (parseRuntimeGuarantee rules (some raw)).2 = none := by
  rw [parseRuntimeGuarantee] at h ⊢
  split at h
  · rename_i hmem
    rw [if_pos hmem]
  · cases h

/-- The problems which are told are those of annotations the pod carries, and none of one that is gone by. -/
lemma mem_getPodAnnotationProblems {bestEffortEnabled : Bool} {pod : V1Pod} {q : AnnotationProblem}
    (h : q ∈ getPodAnnotationProblems rules bestEffortEnabled pod) :
    pod.annotations.get? q.annotation = some q.value ∧
      (q.annotation = minRuntimeAnnotation ∧ getPodMinRuntimeSeconds rules pod = none ∨
        q.annotation = runtimeGuaranteeAnnotation ∧
          (bestEffortEnabled → getPodRuntimeGuaranteeRequest rules pod ≠ some "none")) := by
  rcases List.mem_append.mp h with h | h
  · obtain ⟨reason, hreason, rfl⟩ := by simpa only [Option.mem_toList, Option.map_eq_some_iff] using h
    have hvalue : getPodMinRuntimeSeconds rules pod = none := by
      rw [Option.eq_none_iff_forall_ne_some]
      intro value hvalue
      rw [(parseMinRuntime_fst hvalue).2] at hreason
      cases hreason
    refine ⟨?_, .inl ⟨rfl, hvalue⟩⟩
    cases hraw : pod.annotations.get? minRuntimeAnnotation with
    | none => simp [hraw, parseMinRuntime] at hreason
    | some raw => rfl
  · cases hraw : pod.annotations.get? runtimeGuaranteeAnnotation with
    | none => simp [hraw] at h
    | some raw =>
      simp only [hraw] at h
      obtain ⟨reason, hreason, rfl⟩ := by
        simpa only [Option.mem_toList, Option.map_eq_some_iff] using h
      refine ⟨hraw, .inr ⟨rfl, fun henabled hnone => ?_⟩⟩
      rw [getPodRuntimeGuaranteeRequest, hraw] at hnone
      rw [if_pos henabled, parseRuntimeGuarantee_snd hnone] at hreason
      cases hreason

variable (config : Config)

/-- The pod declines a guarantee, and may. -/
def declines (pod : Pod) : Bool := config.bestEffortEnabled && pod.declinesGuarantee

/-- The runtime a lease would be sized by. -/
def writtenRuntime (pod : Pod) : Option Nat :=
  pod.minRuntimeSeconds.or
    (if config.defaultMinRuntimeSeconds = 0 then none else some config.defaultMinRuntimeSeconds)

/-- The problems told at first sight. -/
def toldProblems (pod : Pod) : List AnnotationProblem :=
  pod.annotationProblems.filter fun p => !(declines config pod && p.annotation = minRuntimeAnnotation)

def qualifies (pod : Pod) : Prop :=
  config.ondemandLeaseEnabled ∧ ((writtenRuntime config pod).isSome ∨ declines config pod) ∧
    pod.usageGroup.isSome

/-- What an event of a new pod without a reservation comes to. -/
lemma podUnreserved_added (passes : Nat) (pod : Pod) (now : Instant) :
    podUnreserved config passes .added pod now =
      if config.ondemandLeaseEnabled ∧ pod.phase = .pending ∧
          ((writtenRuntime config pod).isSome ∨ declines config pod) ∧ pod.usageGroup.isSome then
        podEligible config passes .added pod (writtenRuntime config pod) (declines config pod)
          (toldProblems config pod) now
      else (do
        let matchedAt ← call .now
        let s ← Prog.get
        let reasons := s.ondemandIneligibility config pod (writtenRuntime config pod)
          (declines config pod) (toldProblems config pod)
        match s.findBestReservation pod.ns pod.gpuClass pod.groupLabel (some pod.gpuCount) matchedAt with
        | some anyMatch =>
          podWaits config .added pod anyMatch (if config.ondemandLeaseEnabled then reasons else []) now
        | none => podLeftPending config pod reasons now) := rfl

variable (s : ControllerState)

/-- The reasons a pod is given. -/
def reasonsOf (pod : Pod) : List Ineligibility :=
  s.ondemandIneligibility config pod (writtenRuntime config pod) (declines config pod)
    (toldProblems config pod)

lemma reasonsOf_eq_nil_iff (pod : Pod) : reasonsOf config s pod = [] ↔ qualifies config pod := by
  rw [reasonsOf, ControllerState.ondemandIneligibility, qualifies]
  by_cases henabled : config.ondemandLeaseEnabled = true
  · have hruntime : ∀ told : List AnnotationProblem,
        ((if told = [] then [Ineligibility.noMinRuntime] else told.map .ignored) = []) ↔ False := by
      intro told
      split <;> simp_all
    rw [if_neg (not_not.mpr henabled), List.append_eq_nil_iff]
    simp only [ite_eq_right_iff, List.append_eq_nil_iff, hruntime, false_and, imp_false, henabled,
      true_and, List.cons_ne_nil, not_and_or, not_not, ← Option.isSome_iff_ne_none]
  · simp [henabled]

/-- A reason about a runtime or an annotation is given where no runtime is known, and none is declined. -/
lemma mem_reasonsOf {pod : Pod} {reason : Ineligibility} (h : reason ∈ reasonsOf config s pod)
    (hreason : reason = .noMinRuntime ∨ ∃ q, reason = .ignored q) :
    writtenRuntime config pod = none ∧ declines config pod = false ∧
      (reason = .noMinRuntime → ∀ q ∈ toldProblems config pod, q.annotation ≠ minRuntimeAnnotation) ∧
      ∀ q, reason = .ignored q → q ∈ toldProblems config pod := by
  rw [reasonsOf, ControllerState.ondemandIneligibility] at h
  split at h
  · rcases hreason with rfl | ⟨q, rfl⟩ <;> simp at h
  · rcases List.mem_append.mp h with h | h
    · split at h
      · rename_i hmissing
        have hdeclines : declines config pod = false := by simpa using hmissing.2
        refine ⟨hmissing.1, hdeclines, ?_, ?_⟩
        · rintro rfl q hq hkey
          have hne : ((toldProblems config pod).filter fun p => p.annotation = minRuntimeAnnotation) ≠ [] := by
            apply List.ne_nil_of_mem (a := q)
            simpa [hkey] using hq
          rw [List.mem_append, if_neg hne] at h
          simp at h
        · rintro q rfl
          rcases List.mem_append.mp h with h | h
          · split at h
            · simp at h
            · obtain ⟨q', hq', heq⟩ := List.mem_map.mp h
              cases heq
              exact List.mem_of_mem_filter hq'
          · obtain ⟨q', hq', heq⟩ := List.mem_map.mp h
            cases heq
            exact List.mem_of_mem_filter hq'
      · simp at h
    · split at h
      · split at h <;> rcases hreason with rfl | ⟨q, rfl⟩ <;> simp at h
      · simp at h

lemma writtenRuntime_eq_none {rules : TextRules} {settings : ReadSettings} {v : V1Pod}
    (h : writtenRuntime config (podOf rules settings v) = none) :
    getPodMinRuntimeSeconds rules v = none := by
  have hown : (podOf rules settings v).minRuntimeSeconds = none := (Option.or_eq_none_iff.mp h).1
  exact Option.map_eq_none_iff.mp hown

/-- Whatever a new pod without a reservation is told of its annotations is so.  It is given no reason just
when it qualifies; a runtime it wrote is never called missing, and a text is only said to be ignored where
it stands on the pod and is not gone by. -/
theorem reasons_of_annotations (rules : TextRules) (settings : ReadSettings) (v : V1Pod) :
    let pod := podOf rules { settings with bestEffortEnabled := config.bestEffortEnabled } v
    (reasonsOf config s pod = [] ↔ qualifies config pod) ∧
      (.noMinRuntime ∈ reasonsOf config s pod → v.annotations.get? minRuntimeAnnotation = none) ∧
      ∀ q, .ignored q ∈ reasonsOf config s pod →
        v.annotations.get? q.annotation = some q.value ∧ declines config pod = false ∧
          (q.annotation = minRuntimeAnnotation ∧ getPodMinRuntimeSeconds rules v = none ∨
            q.annotation = runtimeGuaranteeAnnotation) := by
  intro pod
  refine ⟨reasonsOf_eq_nil_iff config s pod, fun h => ?_, fun q h => ?_⟩
  · obtain ⟨hruntime, hdeclines, htold, -⟩ := mem_reasonsOf config s h (.inl rfl)
    have hread := writtenRuntime_eq_none config hruntime
    rcases parseMinRuntime_none hread with hraw | hreason
    · exact hraw
    · obtain ⟨reason, hreason⟩ := Option.isSome_iff_exists.mp hreason
      have hproblem : AnnotationProblem.mk minRuntimeAnnotation
          ((v.annotations.get? minRuntimeAnnotation).getD "None") reason ∈ toldProblems config pod := by
        rw [toldProblems, List.mem_filter, hdeclines]
        refine ⟨List.mem_append_left _ ?_, rfl⟩
        rw [hreason]
        exact List.mem_singleton_self _
      exact absurd rfl (htold rfl _ hproblem)
  · obtain ⟨-, hdeclines, -, htold⟩ := mem_reasonsOf config s h (.inr ⟨q, rfl⟩)
    have hq : q ∈ pod.annotationProblems := List.mem_of_mem_filter (htold q rfl)
    obtain ⟨hget, hwhich⟩ := mem_getPodAnnotationProblems hq
    exact ⟨hget, hdeclines, hwhich.imp_right And.left⟩

end Reasons

end GpuReservation.Proofs
