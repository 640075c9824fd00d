import GpuReservation.Library.Numerals
import GpuReservation.Model.OnDemand
import GpuReservation.Model.Reconcile
import GpuReservation.Model.Stamps

/-!
# The client of the reservation app

How `reservation_client.py` reads what the app answers: the status and the body of a response, where each
exception is caught, and what escapes.
-/

namespace GpuReservation.Model

open GpuReservation.Library

/-- A parsed body.  The keys of an object are distinct. -/
inductive Json
  | null
  | bool (b : Bool)
  | number (text : String)
  | str (s : String)
  | arr (items : List Json)
  | obj (fields : List (String × Json))

namespace Json

/-- `payload.get(key)`: a field which is absent is `None`. -/
def get (fields : List (String × Json)) (key : String) : Json :=
  ((fields.find? fun f => f.1 = key).map Prod.snd).getD .null

def str? : Json → Option String
  | .str s => some s
  | _ => none

def bool? : Json → Option Bool
  | .bool b => some b
  | _ => none

/-- A field of a body which may be no object. -/
def field (key : String) : Json → Json
  | .obj fields => get fields key
  | _ => .null

end Json

structure HttpResponse where
  status : Nat
  text : String := ""
  /-- `response.json()`; `none` where the body is no JSON. -/
  json : Option Json := none

/-- What may be raised on the way. -/
inductive Raised
  | httpStatus (response : HttpResponse)
  | request
  | validation
  | value
  | type
  | overflow

/-- What the language and the schemas make of texts and bodies. -/
structure WireRules where
  blank : Char → Bool
  /-- `str()` of what is no text. -/
  repr : Json → String
  /-- `datetime.fromisoformat`; `none` where it raises. -/
  fromIsoFormat : String → Option DateTimeText
  /-- The fields of a `ReservationResponse`; `none` where they are not valid. -/
  reservationFields : List (String × Json) → Option ReservationResponse
  /-- The fields of a `GpuClassDetail`. -/
  gpuClassFields : List (String × Json) → Option GpuClassDetail

/-- `model_validate`: a model is made of an object, and of nothing else. -/
def modelValidate {α : Type} (fields? : List (String × Json) → Option α) : Json → Option α
  | .obj fields => fields? fields
  | _ => none

def WireRules.reservation (rules : WireRules) : Json → Option ReservationResponse :=
  modelValidate rules.reservationFields

def WireRules.gpuClass (rules : WireRules) : Json → Option GpuClassDetail :=
  modelValidate rules.gpuClassFields

/-- `datetime.min` and `datetime.max`. -/
def dateTimeMin : Instant := seconds (-62135596800)

def dateTimeMax : Instant := seconds 253402300800 - 1

/-- `astimezone(timezone.utc)`, or `replace` where no offset is given. -/
def DateTimeText.toUtc (t : DateTimeText) : Except Raised Instant :=
  match t.offset with
  | none => .ok t.wall
  | some offset =>
    if dateTimeMin ≤ t.wall - offset ∧ t.wall - offset ≤ dateTimeMax then .ok (t.wall - offset)
    else .error .overflow

/-- `_NO_RESPONSE_BODY`. -/
def noResponseBody : String := "no body"

namespace HttpResponse

variable (response : HttpResponse)

def isSuccess : Bool := 200 ≤ response.status && response.status < 300

def raiseForStatus : Except Raised HttpResponse :=
  if response.isSuccess then .ok response else .error (.httpStatus response)

def jsonBody : Except Raised Json :=
  match response.json with
  | none => .error .value
  | some body => .ok body

end HttpResponse

/-- A request which is answered; `none` where none is. -/
def requested : Option HttpResponse → Except Raised HttpResponse
  | none => .error .request
  | some response => .ok response

section Reading

variable (rules : WireRules)

/-- `str()`. -/
def pyStr : Json → String
  | .str s => s
  | value => rules.repr value

/-- What there is to quote of a response: its `detail`, or else its body. -/
def responseText (response : HttpResponse) : String :=
  match (response.json.getD .null).field "detail" with
  | .null => String.ofList (stripBlanks rules.blank response.text.toList)
  | detail => pyStr rules detail

/-- `_response_detail`. -/
def responseDetail (response : HttpResponse) : String :=
  let clipped := clipDetail (responseText rules response)
  if clipped = "" then noResponseBody else clipped

/-- `raw.replace("Z", "+00:00")`. -/
def zuluReplaced (raw : String) : String :=
  String.ofList (raw.toList.flatMap fun c => if c = 'Z' then "+00:00".toList else [c])

/-- `not_before`, where it is a text which can be read. -/
def readNotBefore : Option String → Except Raised (Option Instant)
  | none => .ok none
  | some raw =>
    match rules.fromIsoFormat (zuluReplaced raw) with
    | none => .ok none
    | some t => t.toUtc.map some

/-- `_envelope_fields`. -/
def envelopeFields : Json → Except Raised (Option String × Option Bool × Option Instant)
  | .obj fields =>
    let code := (Json.get fields "code").str?.filter (· ≠ "")
    let retryable := (Json.get fields "retryable").bool?
    (readNotBefore rules (Json.get fields "not_before").str?).map fun notBefore =>
      (code, retryable, notBefore)
  | _ => .ok (none, none, none)

/-- `_denial_envelope`. -/
def denialEnvelope (response : HttpResponse) :
    Except Raised (Option String × Option Bool × Option Instant) :=
  match response.json with
  | none => .ok (none, none, none)
  | some payload => envelopeFields rules payload

/-- The refusal of a create, by its status. -/
def refusedAttempt (response : HttpResponse) : Except Raised LeaseAttempt := do
  let detail := responseDetail rules response
  let told := if detail = noResponseBody then none else some detail
  if response.status = leaseDeniedStatus then
    let envelope ← denialEnvelope rules response
    return { status := some response.status, detail := told, code := envelope.1,
             appRetryable := envelope.2.1, notBefore := envelope.2.2 }
  else return { status := some response.status, detail := told }

/-- What a schema makes of a body. -/
def validated {α : Type} (schema : Json → Option α) (body : Json) : Except Raised α :=
  match schema body with
  | none => .error .validation
  | some a => .ok a

/-- `_post_reservation_create`. -/
def postReservationCreate (answered : Option HttpResponse) : Except Raised LeaseAttempt :=
  let attempt : Except Raised LeaseAttempt := do
    let response ← requested answered
    let response ← response.raiseForStatus
    let body ← response.jsonBody
    let reservation ← validated rules.reservation body
    return { reservation := some reservation, status := some response.status }
  match attempt with
  | .error (.httpStatus response) => refusedAttempt rules response
  | .error .request | .error .validation | .error .value => .ok {}
  | outcome => outcome

/-- What a call comes to which degrades to `None`. -/
def orNone {α : Type} : Except Raised α → Except Raised (Option α)
  | .ok a => .ok (some a)
  | .error (.httpStatus _) | .error .request | .error .validation | .error .value => .ok none
  | .error e => .error e

def fetchGpuClass (answered : Option HttpResponse) : Except Raised (Option GpuClassDetail) :=
  orNone do
    let response ← requested answered
    let response ← response.raiseForStatus
    let body ← response.jsonBody
    validated rules.gpuClass body

/-- `iter()`: an object is gone through by its keys, and a text by its characters. -/
def Json.iterate : Json → Except Raised (List Json)
  | .arr items => .ok items
  | .obj fields => .ok (fields.map fun f => .str f.1)
  | .str s => .ok (s.toList.map fun c => .str (String.singleton c))
  | _ => .error .type

def fetchGpuClasses (answered : Option HttpResponse) : Except Raised (Option (List GpuClassDetail)) :=
  orNone do
    let response ← requested answered
    let response ← response.raiseForStatus
    let body ← response.jsonBody
    let items ← body.iterate
    items.mapM (validated rules.gpuClass)

/-- A page of `fetch_reservations`, which catches nothing. -/
def fetchPage (answered : Option HttpResponse) : Except Raised (List ReservationResponse) := do
  let response ← requested answered
  let response ← response.raiseForStatus
  let body ← response.jsonBody
  let items ← body.iterate
  items.mapM (validated rules.reservation)

/-- The rows from `offset` on, by at most `fuel` requests; `none` where these do not reach the last page. -/
def fetchReservations (serve : Nat → Option HttpResponse) (fuel offset : Nat) :
    Option (Except Raised (List ReservationResponse)) :=
  match fuel with
  | 0 => none
  | fuel + 1 =>
    match fetchPage rules (serve offset) with
    | .error e => some (.error e)
    | .ok page =>
      if page.length < pageLimit then some (.ok page)
      else (fetchReservations serve fuel (offset + pageLimit)).map fun rest =>
        rest.map fun rows => page ++ rows

end Reading

/-- `list[str]`. -/
def texts? : Json → Option (List String)
  | .arr items => items.mapM Json.str?
  | _ => none

/-- `PreemptionSelectionResponse`. -/
def preemptionSelection? : Json → Option (List Uid)
  | .obj fields => texts? (Json.get fields "victim_pod_uids")
  | _ => none

def selectPreemptionVictims (answered : Option HttpResponse) : Except Raised (Option (List Uid)) :=
  orNone do
    let response ← requested answered
    let response ← response.raiseForStatus
    let body ← response.jsonBody
    validated preemptionSelection? body

/-- `OnDemandAdmissionResponse`; an absent `withheld` is empty. -/
def ondemandAdmission? : Json → Option (List Uid × List Json)
  | .obj fields => do
    let granted ← texts? (Json.get fields "granted_pod_uids")
    let withheld ← match (fields.find? fun f => f.1 = "withheld").map Prod.snd with
      | none => some []
      | some (.arr entries) => some entries
      | some _ => none
    return (granted, withheld)
  | _ => none

section Withheld

variable (rules : WireRules)

/-- The uid which an entry of the `withheld` list names. -/
def withheldUid : Json → Option Uid
  | .obj fields => (Json.get fields "pod_uid").str?.filter (· ≠ "")
  | _ => none

/-- What an entry which names a pod says. -/
def withheldVerdict (entry : Json) : Except Raised AdmissionWithheld := do
  let envelope ← envelopeFields rules entry
  let detail := (entry.field "detail").str?.filter (· ≠ "")
  return { detail := detail.map clipDetail, code := envelope.1, appRetryable := envelope.2.1,
           notBefore := envelope.2.2 }

/-- A round of the loop of `_withheld_entries`. -/
def readWithheld (withheld : Dict Uid AdmissionWithheld) (entry : Json) :
    Except Raised (Dict Uid AdmissionWithheld) :=
  match withheldUid entry with
  | none => .ok withheld
  | some uid => do
    let verdict ← withheldVerdict rules entry
    return if uid ∈ withheld then withheld else withheld.set uid verdict

def readWithheldEntries (entries : List Json) : Except Raised (Dict Uid AdmissionWithheld) :=
  entries.foldlM (readWithheld rules) ∅

def selectOndemandAdmissions (answered : Option HttpResponse) :
    Except Raised (Option AdmissionSelection) :=
  orNone do
    let response ← requested answered
    let response ← response.raiseForStatus
    let body ← response.jsonBody
    let parsed ← validated ondemandAdmission? body
    let withheld ← readWithheldEntries rules parsed.2
    return { granted := parsed.1, withheld := withheld }

end Withheld

/-- `cancel_reservation`: what is gone is as good as cancelled. -/
def cancelReservation (answered : Option HttpResponse) : Bool :=
  match answered with
  | none => false
  | some response => response.status = 404 || response.isSuccess

/-- `report_overstay`. -/
def reportOverstay (answered : Option HttpResponse) : Bool := answered.any (·.isSuccess)

end GpuReservation.Model
