import GpuReservation.Library.Fallible
import GpuReservation.Model.Client
import GpuReservation.Proofs.Manifests
import Mathlib.Data.List.DropRight
import Mathlib.Data.String.Basic

/-!
# What the client makes of an answer

Which answers raise, how a refusal is classified, that a withheld candidate is told what the create would have
told it, and that the pages of the reservations are read as one list.
-/

namespace GpuReservation.Proofs

open GpuReservation.Library
open GpuReservation.Model

variable {rules : WireRules}

section Raising

/-- The text is of a time which has an offset and lies outside the calendar. -/
def overflows (rules : WireRules) (raw : String) : Prop :=
  ∃ wall offset, rules.fromIsoFormat (zuluReplaced raw) = some ⟨wall, some offset⟩ ∧
    ¬ (dateTimeMin ≤ wall - offset ∧ wall - offset ≤ dateTimeMax)

/-- The body has a `not_before` which cannot be put in UTC. -/
def overflowing (rules : WireRules) (body : Json) : Prop :=
  ∃ raw, (body.field "not_before").str? = some raw ∧ overflows rules raw

lemma toUtc_error_iff {t : DateTimeText} {e : Raised} : t.toUtc = .error e ↔
    e = .overflow ∧ ∃ offset, t.offset = some offset ∧
      ¬ (dateTimeMin ≤ t.wall - offset ∧ t.wall - offset ≤ dateTimeMax) := by
  obtain ⟨wall, _ | offset⟩ := t
  · simp [DateTimeText.toUtc]
  · by_cases hrange : dateTimeMin ≤ wall - offset ∧ wall - offset ≤ dateTimeMax
    · have hread : (⟨wall, some offset⟩ : DateTimeText).toUtc = .ok (wall - offset) := if_pos hrange
      rw [hread]
      refine ⟨fun h => (by cases h), ?_⟩
      rintro ⟨-, found, hfound, hout⟩
      cases hfound
      exact absurd hrange hout
    · have hraised : (⟨wall, some offset⟩ : DateTimeText).toUtc = .error .overflow := if_neg hrange
      rw [hraised, Except.error.injEq]
      exact ⟨fun h => ⟨h.symm, offset, rfl, hrange⟩, fun h => h.1.symm⟩

lemma readNotBefore_error_iff {raw : Option String} {e : Raised} :
    readNotBefore rules raw = .error e ↔ e = .overflow ∧ ∃ text, raw = some text ∧ overflows rules text := by
  cases raw with
  | none => simp [readNotBefore]
  | some raw =>
    simp only [readNotBefore, overflows, Option.some.injEq, exists_eq_left']
    cases hread : rules.fromIsoFormat (zuluReplaced raw) with
    | none => simp
    | some t =>
      rw [map_eq_error_iff, toUtc_error_iff]
      obtain ⟨wall, offset⟩ := t
      simp

lemma envelopeFields_error_iff {body : Json} {e : Raised} :
    envelopeFields rules body = .error e ↔ e = .overflow ∧ overflowing rules body := by
  cases body with
  | obj fields => rw [envelopeFields, map_eq_error_iff, readNotBefore_error_iff]; rfl
  | _ => simp [envelopeFields, overflowing, Json.field, Json.str?]

end Raising

section Create

lemma clipDetail_eq_empty {text : String} : clipDetail text = "" ↔ text = "" := by
  unfold clipDetail
  split
  · rename_i hlong
    constructor
    · intro h
      simpa using congrArg String.length h
    · rintro rfl
      exact absurd hlong (by decide)
  · rfl

lemma length_clipDetail (text : String) : (clipDetail text).length ≤ detailMaxChars + 1 := by
  unfold clipDetail
  split
  · have hmark : "…".length = 1 := rfl
    simp only [String.length_append, String.length_ofList, List.length_take, hmark]
    omega
  · omega

lemma denialEnvelope_eq (response : HttpResponse) :
    denialEnvelope rules response = envelopeFields rules (response.json.getD .null) := by
  unfold denialEnvelope
  cases response.json <;> rfl

lemma post_refused {response : HttpResponse} (h : response.isSuccess = false) :
    postReservationCreate rules (some response) = refusedAttempt rules response := by
  simp [postReservationCreate, requested, HttpResponse.raiseForStatus, h]

lemma post_accepted {response : HttpResponse} (h : response.isSuccess) :
    postReservationCreate rules (some response) =
      .ok (((response.json.bind rules.reservation).map fun r =>
        { reservation := some r, status := some response.status }).getD {}) := by
  simp only [postReservationCreate, requested, HttpResponse.raiseForStatus, h, if_true, ok_bind,
    HttpResponse.jsonBody]
  cases response.json with
  | none => rfl
  | some body =>
    simp only [ok_bind, validated, Option.bind_some]
    cases rules.reservation body <;> rfl

/-- What a refusal is told as. -/
def toldDetail (rules : WireRules) (response : HttpResponse) : Option String :=
  if responseDetail rules response = noResponseBody then none
  else some (responseDetail rules response)

lemma refusedAttempt_eq (response : HttpResponse) : refusedAttempt rules response =
    if response.status = leaseDeniedStatus then
      (envelopeFields rules (response.json.getD .null)).map fun envelope =>
        { status := some response.status, detail := toldDetail rules response, code := envelope.1,
          appRetryable := envelope.2.1, notBefore := envelope.2.2 }
    else .ok { status := some response.status, detail := toldDetail rules response } := by
  rw [refusedAttempt]
  split
  · rw [denialEnvelope_eq]
    cases envelopeFields rules (response.json.getD .null) <;> rfl
  · rfl

lemma toldDetail_some {response : HttpResponse} {text : String}
    (h : toldDetail rules response = some text) :
    text ≠ "" ∧ text ≠ noResponseBody ∧ text.length ≤ detailMaxChars + 1 := by
  rw [toldDetail] at h
  split at h
  · cases h
  · rename_i hne
    cases h
    have hclipped : responseDetail rules response = clipDetail (responseText rules response) ∧
        clipDetail (responseText rules response) ≠ "" := by
      by_cases hempty : clipDetail (responseText rules response) = ""
      · exact absurd (if_pos hempty) hne
      · exact ⟨if_neg hempty, hempty⟩
    refine ⟨hclipped.1 ▸ hclipped.2, hne, ?_⟩
    rw [hclipped.1]
    exact length_clipDetail _

lemma not_success_denied {response : HttpResponse} (h : response.status = leaseDeniedStatus) :
    response.isSuccess = false := by
  simp [HttpResponse.isSuccess, h, leaseDeniedStatus]

lemma status_of_success {response : HttpResponse} (h : response.isSuccess) :
    response.status ≠ leaseDeniedStatus ∧ response.status < 500 := by
  simp only [HttpResponse.isSuccess, Bool.and_eq_true, decide_eq_true_eq] at h
  simp only [leaseDeniedStatus]
  omega

/-- The flag of an envelope is the body's. -/
lemma flag_of_envelope {body : Json} {envelope : Option String × Option Bool × Option Instant}
    (h : envelopeFields rules body = .ok envelope) :
    envelope.2.1 = (body.field "retryable").bool? := by
  cases body with
  | obj fields =>
    simp only [envelopeFields] at h
    cases hread : readNotBefore rules (Json.get fields "not_before").str? with
    | error e => simp [hread] at h
    | ok notBefore =>
      rw [hread, map_ok] at h
      cases h
      rfl
  | _ =>
    cases h
    rfl

lemma refusedAttempt_error_iff {response : HttpResponse} {e : Raised} :
    refusedAttempt rules response = .error e ↔
      e = .overflow ∧ response.status = leaseDeniedStatus ∧
        overflowing rules (response.json.getD .null) := by
  rw [refusedAttempt_eq]
  split
  · rename_i hdenied
    rw [map_eq_error_iff, envelopeFields_error_iff]
    simp [hdenied]
  · rename_i hdenied
    simp [hdenied]

/-- What a refusal is classified as. -/
lemma refusedAttempt_ok {response : HttpResponse} {attempt : LeaseAttempt}
    (h : refusedAttempt rules response = .ok attempt) :
    attempt.reservation = none ∧ attempt.status = some response.status ∧
      attempt.detail = toldDetail rules response ∧
      (response.status = leaseDeniedStatus →
        attempt.appRetryable = ((response.json.getD .null).field "retryable").bool?) := by
  rw [refusedAttempt_eq] at h
  split at h
  · cases henvelope : envelopeFields rules (response.json.getD .null) with
    | error e => simp [henvelope] at h
    | ok envelope =>
      rw [henvelope, map_ok] at h
      cases h
      exact ⟨rfl, rfl, rfl, fun _ => flag_of_envelope henvelope⟩
  · rename_i hdenied
    cases h
    exact ⟨rfl, rfl, rfl, fun h => absurd h hdenied⟩

/-- A create, by what it is answered.  It raises only where a refusal has a `not_before` which lies outside
the calendar.  Else it is granted just by an accepted request whose body is a reservation; it is called
structural just where a 409 says that it is not to be retried, and given up besides only at another status
below 500; and what it quotes is some text of the app's, cut to size. -/
theorem create_classified (answered : Option HttpResponse) :
    (∀ e, postReservationCreate rules answered = .error e ↔
      e = .overflow ∧ ∃ response, answered = some response ∧ response.status = leaseDeniedStatus ∧
        overflowing rules (response.json.getD .null)) ∧
      ∀ attempt, postReservationCreate rules answered = .ok attempt →
        (∀ r, attempt.reservation = some r ↔ ∃ response, answered = some response ∧
          response.isSuccess ∧ response.json.bind rules.reservation = some r) ∧
        (attempt.structural ↔ ∃ response, answered = some response ∧
          response.status = leaseDeniedStatus ∧
          ((response.json.getD .null).field "retryable").bool? = some false) ∧
        (attempt.retryable = false ↔ attempt.granted ∨ attempt.structural ∨
          ∃ response, answered = some response ∧ response.isSuccess = false ∧
            response.status ≠ leaseDeniedStatus ∧ response.status < 500) ∧
        (∀ text, attempt.detail = some text →
          text ≠ "" ∧ text ≠ noResponseBody ∧ text.length ≤ detailMaxChars + 1) := by
  cases answered with
  | none =>
    refine ⟨fun e => ?_, fun attempt h => ?_⟩
    · simp [postReservationCreate, requested]
    · cases h
      simp [LeaseAttempt.structural, LeaseAttempt.retryable, LeaseAttempt.granted]
  | some response =>
    simp only [Option.some.injEq, exists_eq_left']
    cases hsuccess : response.isSuccess with
    | true =>
      obtain ⟨hdenied, hlow⟩ := status_of_success hsuccess
      rw [post_accepted hsuccess]
      refine ⟨fun e => by simp [hdenied], fun attempt h => ?_⟩
      cases hvalid : response.json.bind rules.reservation with
      | none =>
        rw [hvalid] at h
        cases h
        simp [LeaseAttempt.structural, LeaseAttempt.retryable, LeaseAttempt.granted, hdenied]
      | some r =>
        rw [hvalid] at h
        cases h
        simp [LeaseAttempt.structural, LeaseAttempt.retryable, LeaseAttempt.granted, hdenied, hlow]
    | false =>
      rw [post_refused hsuccess]
      refine ⟨fun e => refusedAttempt_error_iff, fun attempt h => ?_⟩
      obtain ⟨hreservation, hstatus, hdetail, hflag⟩ := refusedAttempt_ok h
      by_cases hdenied : response.status = leaseDeniedStatus
      · simp only [LeaseAttempt.structural, LeaseAttempt.retryable, LeaseAttempt.granted, hreservation,
          hstatus, hdenied, hflag hdenied, hdetail]
        refine ⟨by simp, by simp, by simp, fun text htext => toldDetail_some htext⟩
      · simp only [LeaseAttempt.structural, LeaseAttempt.retryable, LeaseAttempt.granted, hreservation,
          hstatus, hdetail]
        refine ⟨by simp, by simp [hdenied], by simp [hdenied], fun text htext => toldDetail_some htext⟩

end Create

section Withheld

lemma clipDetail_eq_noResponseBody {text : String} :
    clipDetail text = noResponseBody ↔ text = noResponseBody := by
  unfold clipDetail
  split
  · rename_i hlong
    have hlength : noResponseBody.length = 7 := rfl
    constructor
    · intro h
      have hclipped := congrArg String.length h
      simp only [String.length_append, String.length_ofList, List.length_take,
        String.length_toList, hlength] at hclipped
      simp only [detailMaxChars] at hlong hclipped
      omega
    · rintro rfl
      simp only [hlength, detailMaxChars] at hlong
      omega
  · rfl

/-- What is told is what there is to quote, cut to size; the placeholder is not. -/
lemma toldDetail_eq (response : HttpResponse) : toldDetail rules response =
    if responseText rules response = "" ∨ responseText rules response = noResponseBody then none
    else some (clipDetail (responseText rules response)) := by
  rw [toldDetail, responseDetail]
  by_cases hempty : responseText rules response = ""
  · simp [hempty, clipDetail_eq_empty]
  · have hclipped : clipDetail (responseText rules response) ≠ "" := clipDetail_eq_empty.not.mpr hempty
    simp only [hclipped, if_false, clipDetail_eq_noResponseBody, hempty, false_or]

lemma withheldVerdict_map (entry : Json) : (withheldVerdict rules entry).map AdmissionWithheld.asDenial =
    (envelopeFields rules entry).map fun envelope =>
      { status := some leaseDeniedStatus,
        detail := ((entry.field "detail").str?.filter (· ≠ "")).map clipDetail, code := envelope.1,
        appRetryable := envelope.2.1, notBefore := envelope.2.2 } := by
  rw [withheldVerdict]
  cases envelopeFields rules entry <;> rfl

/-- A withheld candidate is told what the create would have told it: of one envelope, an entry of the
`withheld` list and the body of a 409 are read alike, exceptions included, but for the detail.  That is the
same just where it is a text other than the placeholder, or where there is nothing to quote. -/
theorem withheld_readAlike (rules : WireRules) (entry : Json) (text : String) :
    let response : HttpResponse := { status := leaseDeniedStatus, text := text, json := some entry }
    let created := postReservationCreate rules (some response)
    let withheld := (withheldVerdict rules entry).map AdmissionWithheld.asDenial
    created.map (fun attempt => { attempt with detail := none }) =
        withheld.map (fun attempt => { attempt with detail := none }) ∧
      (created = withheld ↔ overflowing rules entry ∨
        match entry.field "detail" with
        | .str detail => detail ≠ noResponseBody
        | _ => responseText rules response = "" ∨ responseText rules response = noResponseBody) := by
  intro response created withheld
  have hcreated : created = (envelopeFields rules entry).map fun envelope =>
      { status := some leaseDeniedStatus, detail := toldDetail rules response, code := envelope.1,
        appRetryable := envelope.2.1, notBefore := envelope.2.2 } := by
    simp only [created, post_refused (not_success_denied (rfl : response.status = leaseDeniedStatus)),
      refusedAttempt_eq]
    rfl
  have hwithheld : withheld = _ := withheldVerdict_map entry
  rw [hcreated, hwithheld]
  cases henvelope : envelopeFields rules entry with
  | error e =>
    obtain ⟨-, hover⟩ := envelopeFields_error_iff.mp henvelope
    simp [hover]
  | ok envelope =>
    have hover : ¬ overflowing rules entry := by
      intro h
      rw [envelopeFields_error_iff.mpr ⟨rfl, h⟩] at henvelope
      cases henvelope
    refine ⟨rfl, ?_⟩
    simp only [map_ok, Except.ok.injEq, LeaseAttempt.mk.injEq, true_and, and_true, hover, false_or,
      toldDetail_eq]
    have hbody : (response.json.getD .null).field "detail" = entry.field "detail" := rfl
    cases hdetail : entry.field "detail" with
    | str detail =>
      have hquoted : responseText rules response = detail := by
        rw [responseText, hbody, hdetail]
        rfl
      by_cases hempty : detail = ""
      · subst hempty
        simp [hquoted, Json.str?, noResponseBody]
      · by_cases hplaceholder : detail = noResponseBody
        · simp [hquoted, Json.str?, hplaceholder, noResponseBody]
        · simp [hquoted, Json.str?, hplaceholder, hempty]
    | _ => simp [Json.str?, or_iff_not_imp_left]

/-- What an object in the selection's `withheld` list gives where it can be read: a field which is absent, or is
not of its type, is `none`. -/
structure WithheldEntry where
  podUid : Option String := none
  detail : Option String := none
  code : Option String := none
  retryable : Option Bool := none
  notBefore : Option Instant := none
  deriving DecidableEq, Repr

def WithheldEntry.verdict (e : WithheldEntry) : AdmissionWithheld where
  detail := (e.detail.filter (· ≠ "")).map clipDetail
  code := e.code.filter (· ≠ "")
  appRetryable := e.retryable
  notBefore := e.notBefore

/-- The pod the entry is about; an empty uid names none. -/
def WithheldEntry.named (e : WithheldEntry) : Option Uid := e.podUid.filter (· ≠ "")

/-- An entry which names no pod is dropped; of those which name one, the first stays. -/
def noteWithheld (withheld : Dict Uid AdmissionWithheld) (e : WithheldEntry) :
    Dict Uid AdmissionWithheld :=
  match e.named with
  | none => withheld
  | some uid => if uid ∈ withheld then withheld else withheld.set uid e.verdict

/-- What `_withheld_entries` makes of entries which can be read; what is not an object is `none`. -/
def withheldEntries (entries : List (Option WithheldEntry)) : Dict Uid AdmissionWithheld :=
  (entries.filterMap id).foldl noteWithheld ∅

/-- What an entry says of a pod. -/
def verdictOn (uid : Uid) (e : WithheldEntry) : Option AdmissionWithheld :=
  if e.named = some uid then some e.verdict else none

/-- The verdict on a pod is the one of the first entry which names it. -/
lemma get?_withheldEntries (entries : List (Option WithheldEntry)) (uid : Uid) :
    (withheldEntries entries).get? uid = (entries.filterMap id).findSome? (verdictOn uid) := by
  have hstep : ∀ (withheld : Dict Uid AdmissionWithheld) (e : WithheldEntry),
      (noteWithheld withheld e).get? uid = (withheld.get? uid).or (verdictOn uid e) := by
    intro withheld e
    unfold noteWithheld verdictOn
    cases hnamed : e.named with
    | none => exact Option.or_none.symm
    | some named =>
      dsimp only
      by_cases hmem : named ∈ withheld
      · rw [if_pos hmem]
        by_cases hu : named = uid
        · obtain ⟨v, hv⟩ := Dict.mem_iff_get?.mp hmem
          rw [← hu, hv]
          rfl
        · rw [if_neg fun h => hu (Option.some.inj h)]
          exact Option.or_none.symm
      · rw [if_neg hmem, Dict.get?_set]
        by_cases hu : uid = named
        · rw [if_pos hu, if_pos (congrArg some hu.symm), hu, Dict.get?_eq_none_iff.mpr hmem]
          rfl
        · rw [if_neg hu, if_neg fun h => hu (Option.some.inj h).symm]
          exact Option.or_none.symm
  rw [withheldEntries, Dict.get?_foldl_or hstep]
  rfl

/-- An entry of the `withheld` list, as it is read; what is no object is nothing. -/
def entryOf (rules : WireRules) : Json → Option WithheldEntry
  | .obj fields => some
    { podUid := (Json.get fields "pod_uid").str?
      detail := (Json.get fields "detail").str?
      code := (Json.get fields "code").str?
      retryable := (Json.get fields "retryable").bool?
      notBefore := match readNotBefore rules (Json.get fields "not_before").str? with
        | .ok notBefore => notBefore
        | .error _ => none }
  | _ => none

lemma withheldUid_eq (rules : WireRules) (entry : Json) : withheldUid entry = (entryOf rules entry).bind (·.named) := by
  cases entry <;> rfl

/-- The verdict of an entry which can be read. -/
lemma withheldVerdict_ok {entry : Json} {e : WithheldEntry} (hentry : entryOf rules entry = some e)
    (hover : ¬ overflowing rules entry) : withheldVerdict rules entry = .ok e.verdict := by
  cases entry with
  | obj fields =>
    cases hentry
    cases hread : readNotBefore rules (Json.get fields "not_before").str? with
    | error raised =>
      exact absurd (readNotBefore_error_iff.mp hread).2 hover
    | ok notBefore =>
      simp only [withheldVerdict, envelopeFields, hread, map_ok, ok_bind, WithheldEntry.verdict]
      rfl
  | _ => cases hentry

lemma withheldVerdict_error {entry : Json} (hover : overflowing rules entry) :
    withheldVerdict rules entry = .error .overflow := by
  rw [withheldVerdict, envelopeFields_error_iff.mpr ⟨rfl, hover⟩]
  rfl

open Classical in
/-- A round of the loop either notes the entry or raises. -/
lemma readWithheld_eq (withheld : Dict Uid AdmissionWithheld) (entry : Json) :
    readWithheld rules withheld entry =
      if (withheldUid entry).isSome ∧ overflowing rules entry then .error .overflow
      else .ok (((entryOf rules entry).map (noteWithheld withheld)).getD withheld) := by
  rw [readWithheld]
  cases hentry : entryOf rules entry with
  | none =>
    have huid : withheldUid entry = none := by rw [withheldUid_eq rules, hentry]; rfl
    simp [huid]
  | some e =>
    have huid : withheldUid entry = e.named := by rw [withheldUid_eq rules, hentry]; rfl
    rw [huid, Option.map_some, Option.getD_some, noteWithheld]
    cases hnamed : e.named with
    | none => simp
    | some uid =>
      by_cases hover : overflowing rules entry
      · simp [hover, withheldVerdict_error hover]
      · simp only [hover, and_false, if_false, withheldVerdict_ok hentry hover, ok_bind, pure_eq_ok]

lemma readWithheldEntries_from (rules : WireRules) (entries : List Json) (withheld : Dict Uid AdmissionWithheld) :
    (∀ e, entries.foldlM (readWithheld rules) withheld = .error e ↔
      e = .overflow ∧ ∃ entry ∈ entries, (withheldUid entry).isSome ∧ overflowing rules entry) ∧
      ∀ read, entries.foldlM (readWithheld rules) withheld = .ok read →
        read = (entries.filterMap (entryOf rules)).foldl noteWithheld withheld := by
  induction entries generalizing withheld with
  | nil =>
    refine ⟨fun e => ?_, fun read h => ?_⟩
    · simp [List.foldlM_nil]
    · cases h
      rfl
  | cons entry entries ih =>
    rw [List.foldlM_cons, readWithheld_eq]
    by_cases hraises : (withheldUid entry).isSome ∧ overflowing rules entry
    · rw [if_pos hraises, error_bind]
      refine ⟨fun e => ?_, fun read h => by cases h⟩
      rw [Except.error.injEq]
      exact ⟨fun h => ⟨h.symm, entry, List.mem_cons_self, hraises⟩, fun h => h.1.symm⟩
    · rw [if_neg hraises, ok_bind]
      obtain ⟨hraised, hread⟩ := ih (((entryOf rules entry).map (noteWithheld withheld)).getD withheld)
      refine ⟨fun e => ?_, fun read h => ?_⟩
      · rw [hraised]
        simp only [List.mem_cons, exists_eq_or_imp, or_iff_right hraises]
      · rw [hread read h]
        cases hentry : entryOf rules entry with
        | none => rw [List.filterMap_cons_none hentry]; rfl
        | some e => rw [List.filterMap_cons_some hentry]; rfl

/-- The answer to an admission batch, where it is one. -/
def selectionOf (answered : Option HttpResponse) : Option (List Uid × List Json) :=
  (answered.filter (·.isSuccess)).bind fun response => response.json.bind ondemandAdmission?

lemma selectOndemandAdmissions_eq (answered : Option HttpResponse) :
    selectOndemandAdmissions rules answered =
      match selectionOf answered with
      | none => .ok none
      | some (granted, entries) =>
        (readWithheldEntries rules entries).map fun withheld =>
          some { granted := granted, withheld := withheld } := by
  cases answered with
  | none => rfl
  | some response =>
    rw [selectOndemandAdmissions, selectionOf]
    cases hsuccess : response.isSuccess with
    | false => simp [requested, HttpResponse.raiseForStatus, hsuccess, orNone, Option.filter]
    | true =>
      simp only [requested, HttpResponse.raiseForStatus, hsuccess, if_true, ok_bind, HttpResponse.jsonBody,
        Option.filter_some_pos hsuccess, Option.bind_some]
      cases response.json with
      | none => rfl
      | some body =>
        simp only [ok_bind, validated, Option.bind_some]
        cases ondemandAdmission? body with
        | none => rfl
        | some parsed =>
          simp only [ok_bind]
          cases hread : readWithheldEntries rules parsed.2 with
          | ok withheld => rfl
          | error e =>
            obtain ⟨rfl, -⟩ := ((readWithheldEntries_from rules parsed.2 ∅).1 e).mp hread
            rfl

lemma findSome?_verdictOn (rules : WireRules) (uid : Uid) (entries : List Json) :
    (entries.filterMap (entryOf rules)).findSome? (verdictOn uid) =
      ((entries.find? fun entry => withheldUid entry = some uid).bind (entryOf rules)).map
        WithheldEntry.verdict := by
  induction entries with
  | nil => rfl
  | cons entry entries ih =>
    have huid := withheldUid_eq rules entry
    cases hentry : entryOf rules entry with
    | none =>
      rw [hentry] at huid
      rw [List.filterMap_cons_none hentry, ih, List.find?_cons_of_neg (by simp [huid])]
    | some e =>
      rw [hentry, Option.bind_some] at huid
      rw [List.filterMap_cons_some hentry, List.findSome?_cons, verdictOn]
      by_cases hnamed : e.named = some uid
      · simp [hnamed, huid, hentry]
      · simp [hnamed, huid, ih]

/-- The app's answer to a batch is respected to the word, or there is none.  A reply which is no selection
counts as no answer; of a selection the grants are taken as they come, an entry which cannot be read is passed
over, and each pod is told what the first entry which names it says.  Only a `not_before` outside the
calendar, in an entry which names a pod, takes the grants with it. -/
theorem selection_read (rules : WireRules) (answered : Option HttpResponse) :
    (∀ e, selectOndemandAdmissions rules answered = .error e ↔
      e = .overflow ∧ ∃ parsed, selectionOf answered = some parsed ∧
        ∃ entry ∈ parsed.2, (withheldUid entry).isSome ∧ overflowing rules entry) ∧
      (selectOndemandAdmissions rules answered = .ok none ↔ selectionOf answered = none) ∧
      ∀ selection, selectOndemandAdmissions rules answered = .ok (some selection) →
        ∃ entries, selectionOf answered = some (selection.granted, entries) ∧
          selection.withheld = withheldEntries (entries.map (entryOf rules)) ∧
          ∀ uid, selection.withheld.get? uid =
            ((entries.find? fun entry => withheldUid entry = some uid).bind (entryOf rules)).map
              WithheldEntry.verdict := by
  rw [selectOndemandAdmissions_eq]
  cases hanswer : selectionOf answered with
  | none => simp
  | some parsed =>
    obtain ⟨granted, entries⟩ := parsed
    obtain ⟨hraised, hread⟩ := readWithheldEntries_from rules entries ∅
    simp only [Option.some.injEq, exists_eq_left', reduceCtorEq, iff_false]
    refine ⟨fun e => ?_, fun h => ?_, fun selection h => ?_⟩
    · rw [map_eq_error_iff, readWithheldEntries, hraised]
    · cases hwithheld : readWithheldEntries rules entries <;> simp [hwithheld] at h
    · cases hwithheld : readWithheldEntries rules entries with
      | error e => simp [hwithheld] at h
      | ok withheld =>
        rw [hwithheld, map_ok] at h
        cases h
        have hentries : withheld = withheldEntries (entries.map (entryOf rules)) := by
          rw [hread withheld hwithheld, withheldEntries, List.filterMap_map]
          rfl
        refine ⟨entries, rfl, hentries, fun uid => ?_⟩
        simp only [hentries]
        rw [get?_withheldEntries, List.filterMap_map]
        exact findSome?_verdictOn rules uid entries

end Withheld

section Lists

/-- What a reply is read from, where it is accepted. -/
def acceptedBody (answered : Option HttpResponse) : Option Json :=
  (answered.filter (·.isSuccess)).bind (·.json)

/-- `null`, a truth value or a number cannot be gone through. -/
def Json.scalar : Json → Bool
  | .null | .bool _ | .number _ => true
  | _ => false

/-- A body is taken for a list where it is one of valid elements; an empty object or text is taken for an
empty one. -/
def listOf {α : Type} (schema : Json → Option α) (body : Json) (found : List α) : Prop :=
  (∃ items, body = .arr items ∧ List.Forall₂ (fun item a => schema item = some a) items found) ∨
    found = [] ∧ (body = .obj [] ∨ body = .str "")

lemma validated_eq_ok_iff {α : Type} {schema : Json → Option α} {body : Json} {a : α} :
    validated schema body = .ok a ↔ schema body = some a := by
  unfold validated
  cases schema body <;> simp

lemma validated_error {α : Type} {schema : Json → Option α} {body : Json} {e : Raised}
    (h : validated schema body = .error e) : e = .validation := by
  unfold validated at h
  cases hbody : schema body <;> rw [hbody] at h <;> cases h
  rfl

/-- The elements of a body, read by a schema which takes no text. -/
lemma iterate_mapM {α : Type} {schema : Json → Option α} (hstr : ∀ s, schema (.str s) = none)
    (body : Json) (found : List α) :
    (body.iterate >>= fun items => items.mapM (validated schema)) = .ok found ↔
      listOf schema body found := by
  have htexts : ∀ texts : List String, (texts.map Json.str).mapM (validated schema) = .ok found ↔
      found = [] ∧ texts = [] := by
    intro texts
    cases texts with
    | nil =>
      rw [List.map_nil, List.mapM_nil, pure_eq_ok, Except.ok.injEq]
      simp [eq_comm]
    | cons text texts => simp [validated, hstr]
  cases body with
  | arr items =>
    simp only [Json.iterate, ok_bind, mapM_eq_ok_iff, validated_eq_ok_iff, listOf]
    simp
  | obj fields =>
    have hkeys : fields.map (fun f => Json.str f.1) = (fields.map Prod.fst).map .str := by
      rw [List.map_map]
      rfl
    simp only [Json.iterate, ok_bind, hkeys, htexts, listOf]
    simp
  | str s =>
    have hchars : (s.toList.map fun c => Json.str (String.singleton c)) =
        (s.toList.map String.singleton).map .str := by
      rw [List.map_map]
      rfl
    simp only [Json.iterate, ok_bind, hchars, htexts, listOf]
    simp
  | _ => simp [Json.iterate, listOf]

lemma iterate_mapM_error {α : Type} {schema : Json → Option α} {body : Json} {e : Raised}
    (h : (body.iterate >>= fun items => items.mapM (validated schema)) = .error e) :
    e = .validation ∨ e = .type ∧ Json.scalar body := by
  rcases bind_eq_error_iff.mp h with hiterate | ⟨items, -, hitems⟩
  · right
    cases body <;> simp_all [Json.iterate, Json.scalar]
  · left
    obtain ⟨item, -, hitem⟩ := exists_of_mapM_error hitems
    exact validated_error hitem

/-- A reply is read only where it is accepted and its body is JSON. -/
lemma reply_bind {α : Type} (answered : Option HttpResponse) (read : Json → Except Raised α) :
    ((requested answered >>= fun response => response.raiseForStatus >>= fun response =>
        response.jsonBody >>= read) = match acceptedBody answered with
      | some body => read body
      | none => match answered with
        | none => .error .request
        | some response =>
          if response.isSuccess then .error .value else .error (.httpStatus response)) := by
  cases answered with
  | none => rfl
  | some response =>
    cases hsuccess : response.isSuccess with
    | false =>
      simp [requested, HttpResponse.raiseForStatus, hsuccess, acceptedBody, Option.filter]
    | true =>
      simp only [requested, HttpResponse.raiseForStatus, hsuccess, if_true, ok_bind, HttpResponse.jsonBody,
        acceptedBody, Option.filter_some_pos hsuccess, Option.bind_some]
      cases response.json <;> rfl

lemma orNone_reply {α : Type} (answered : Option HttpResponse) (read : Json → Except Raised α) :
    orNone (requested answered >>= fun response => response.raiseForStatus >>= fun response =>
        response.jsonBody >>= read) =
      match acceptedBody answered with
      | some body => orNone (read body)
      | none => .ok none := by
  rw [reply_bind]
  cases acceptedBody answered with
  | some body => rfl
  | none =>
    cases answered with
    | none => rfl
    | some response =>
      dsimp only
      split <;> rfl

lemma orNone_eq_some_iff {α : Type} {x : Except Raised α} {a : α} :
    orNone x = .ok (some a) ↔ x = .ok a := by
  cases x with
  | ok a' => simp [orNone]
  | error e => cases e <;> simp [orNone]

lemma orNone_validated {α : Type} (schema : Json → Option α) (body : Json) :
    orNone (validated schema body) = .ok (schema body) := by
  unfold validated
  cases schema body <;> rfl

/-- What degrades to `None`.  The detail of one class and the choice of the victims never raise, and are
just what an accepted body says.  The list of the classes raises where a body of 200 cannot be gone through,
as `null` cannot; else it is what the body lists, which of an empty object or text is nothing. -/
theorem client_degrades (rules : WireRules) (answered : Option HttpResponse) :
    fetchGpuClass rules answered = .ok ((acceptedBody answered).bind rules.gpuClass) ∧
      selectPreemptionVictims answered = .ok ((acceptedBody answered).bind preemptionSelection?) ∧
      (∀ classes, fetchGpuClasses rules answered = .ok (some classes) ↔
        ∃ body, acceptedBody answered = some body ∧ listOf rules.gpuClass body classes) ∧
      ∀ e, fetchGpuClasses rules answered = .error e ↔
        e = .type ∧ ∃ body, acceptedBody answered = some body ∧ Json.scalar body := by
  refine ⟨?_, ?_, fun classes => ?_, fun e => ?_⟩
  · rw [fetchGpuClass, orNone_reply]
    cases acceptedBody answered with
    | none => rfl
    | some body => exact orNone_validated rules.gpuClass body
  · rw [selectPreemptionVictims, orNone_reply]
    cases acceptedBody answered with
    | none => rfl
    | some body => exact orNone_validated preemptionSelection? body
  · rw [fetchGpuClasses, orNone_reply]
    cases acceptedBody answered with
    | none => simp
    | some body =>
      simp only [orNone_eq_some_iff, Option.some.injEq, exists_eq_left']
      exact iterate_mapM (fun _ => rfl) body classes
  · rw [fetchGpuClasses, orNone_reply]
    cases acceptedBody answered with
    | none => simp
    | some body =>
      simp only [Option.some.injEq, exists_eq_left']
      constructor
      · intro h
        cases hread : (body.iterate >>= fun items => items.mapM (validated rules.gpuClass)) with
        | ok classes =>
          rw [hread] at h
          cases h
        | error raised =>
          rw [hread] at h
          rcases iterate_mapM_error hread with rfl | ⟨rfl, hscalar⟩
          · cases h
          · cases h
            exact ⟨rfl, hscalar⟩
      · rintro ⟨rfl, hscalar⟩
        cases body <;> first | rfl | cases hscalar

/-- The rules of ASCII and of the timestamps with an offset; a class of the app by its id, label and count. -/
def plainWire : WireRules where
  blank := CharTable.ascii.blank
  repr
    | .bool b => if b then "True" else "False"
    | .number text => text
    | _ => "None"
  fromIsoFormat := plainRules.fromIsoFormat
  reservationFields _ := none
  gpuClassFields fields := do
    let id ← match Json.get fields "id" with
      | .number text => (CharTable.ascii.int? maxStrDigits text.toList).bind Int.toNat?
      | _ => none
    let _ ← (Json.get fields "name").str?
    let auditGpus := match Json.get fields "total_gpus" with
      | .number text => (CharTable.ascii.int? maxStrDigits text.toList).bind Int.toNat?
      | _ => none
    return { id, labelValue := (Json.get fields "label_value").str?, auditGpus }

/-- The list of the classes is read; a `null` in its place raises. -/
example :
    fetchGpuClasses plainWire (some { status := 200, json := some (.arr [.obj [("id", .number "7"),
      ("name", .str "H100"), ("label_value", .str "h100"), ("total_gpus", .number "16")]]) }) =
      .ok (some [{ id := 7, labelValue := some "h100", auditGpus := some 16 }]) ∧
    fetchGpuClasses plainWire (some { status := 200, json := some .null }) = .error .type :=
  ⟨by rfl, rfl⟩

/-- A refusal whose `not_before` is beyond the calendar in UTC raises. -/
example : postReservationCreate plainWire (some { status := 409, json := some (.obj
    [("not_before", .str "9999-12-31T23:59:59-14:00")]) }) = .error .overflow := by rfl

end Lists

section Pages

/-- The app, which answers a page of the rows it has from `offset` on. -/
def servePages (items : List Json) (offset : Nat) : Option HttpResponse :=
  some { status := 200, json := some (.arr ((items.drop offset).take pageLimit)) }

lemma fetchPage_servePages (rules : WireRules) (items : List Json) (offset : Nat) :
    fetchPage rules (servePages items offset) =
      ((items.drop offset).take pageLimit).mapM (validated rules.reservation) := by
  rw [fetchPage, reply_bind]
  rfl

/-- The rows from `offset` on, in as many requests as it takes. -/
lemma fetchReservations_from (rules : WireRules) (items : List Json) (fuel offset : Nat)
    (hfuel : (items.drop offset).length / pageLimit < fuel) :
    fetchReservations rules (servePages items) fuel offset =
      some ((items.drop offset).mapM (validated rules.reservation)) := by
  induction fuel generalizing offset with
  | zero => exact absurd hfuel (Nat.not_lt_zero _)
  | succ fuel ih =>
    have hsplit : items.drop offset =
        (items.drop offset).take pageLimit ++ items.drop (offset + pageLimit) := by
      rw [← List.drop_drop, List.take_append_drop]
    rw [fetchReservations, fetchPage_servePages]
    cases hpage : ((items.drop offset).take pageLimit).mapM (validated rules.reservation) with
    | error e =>
      rw [hsplit, mapM_append_eq, hpage]
      rfl
    | ok page =>
      have hlength := length_of_mapM hpage
      rw [List.length_take] at hlength
      dsimp only
      split
      · rename_i hshort
        have hall : (items.drop offset).take pageLimit = items.drop offset :=
          List.take_of_length_le (by omega)
        rw [← hall, hpage]
      · rename_i hfull
        have hrest : (items.drop (offset + pageLimit)).length / pageLimit < fuel := by
          have hpages : (items.drop (offset + pageLimit)).length + pageLimit =
              (items.drop offset).length := by
            rw [List.length_drop, List.length_drop] at *
            omega
          rw [← hpages, Nat.add_div_right _ (by decide : 0 < pageLimit)] at hfuel
          omega
        rw [ih (offset + pageLimit) hrest]
        conv_rhs => rw [hsplit, mapM_append_eq, hpage, ok_bind]
        rfl

lemma fetchReservations_pages (rules : WireRules) (serve : Nat → Option HttpResponse) (fuel offset : Nat) :
    (fetchReservations rules serve fuel offset).bind Except.toOption =
      fetchPages ((List.range fuel).map fun i =>
        (fetchPage rules (serve (offset + i * pageLimit))).toOption) := by
  induction fuel generalizing offset with
  | zero => rfl
  | succ fuel ih =>
    have hnext : ∀ i, offset + pageLimit + i * pageLimit = offset + (i + 1) * pageLimit := by
      intro i
      rw [Nat.add_mul]
      omega
    rw [fetchReservations, List.range_succ_eq_map, List.map_cons, List.map_map, Nat.zero_mul, Nat.add_zero]
    cases hpage : fetchPage rules (serve offset) with
    | error e => rfl
    | ok page =>
      have hread : (Except.ok page : Except Raised _).toOption = some page := rfl
      rw [hread, fetchPages]
      dsimp only
      split
      · rfl
      · have hrest := ih (offset + pageLimit)
        simp only [hnext] at hrest
        rw [Function.comp_def]
        simp only [Nat.succ_eq_add_one]
        rw [← hrest]
        cases fetchReservations rules serve fuel (offset + pageLimit) with
        | none => rfl
        | some rest => cases rest <;> rfl

/-- The pages are read as one list.  Whatever the app serves, the rows which are fetched are those of its
pages up to the first which is not full, and none where a page cannot be read.  Of an app whose rows stand
still, one request more than it has full pages suffices, and what comes of it is what reading all its rows
at once would have come to. -/
theorem fetchReservations_read (rules : WireRules) :
    (∀ serve fuel, (fetchReservations rules serve fuel 0).bind Except.toOption =
      fetchPages ((List.range fuel).map fun i =>
        (fetchPage rules (serve (i * pageLimit))).toOption)) ∧
      ∀ items more, fetchReservations rules (servePages items)
          (items.length / pageLimit + 1 + more) 0 =
        some (items.mapM (validated rules.reservation)) := by
  constructor
  · intro serve fuel
    rw [fetchReservations_pages]
    simp only [Nat.zero_add]
  · intro items more
    have hrows := fetchReservations_from rules items (items.length / pageLimit + 1 + more) 0
    rw [List.drop_zero] at hrows
    exact hrows (by omega)

end Pages

end GpuReservation.Proofs
