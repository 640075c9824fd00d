import Mathlib.Data.List.Basic
import Mathlib.Data.String.Basic

/-!
# Trace ids

The ids which `trace.py` puts on log lines and on requests to the app, and the scopes which bind them.
-/

namespace GpuReservation.Model

/-- A header of the app's requests, and of the controller's. -/
def traceHeader : String := "X-Client-Trace"

/-- The id when no unit of work is in scope. -/
def noTrace : String := "-"

def isTraceChar (c : Char) : Bool :=
  ('A' ≤ c && c ≤ 'Z') || ('a' ≤ c && c ≤ 'z') || ('0' ≤ c && c ≤ '9') || c = '_' || c = '-'

/-- `$`: the end of the string, or a line feed which is its last character. -/
def atDollar (rest : List Char) : Bool := rest = [] || rest = ['\n']

/-- `_TRACE_RE.match`: so many characters of the class, then `$`. -/
def traceRe (raw : String) : Bool :=
  (List.range' 1 36).any fun n =>
    (raw.toList.take n).length = n && (raw.toList.take n).all isTraceChar &&
      atDollar (raw.toList.drop n)

def adopt (raw : Option String) : Option String := raw.filter fun id => id ≠ "" && traceRe id

/-- What `secrets.token_hex` returns: two hexadecimal digits a byte. -/
structure TokenHex (nbytes : Nat) where
  text : String
  length_eq : text.toList.length = 2 * nbytes
  hex : ∀ c ∈ text.toList, ('0' ≤ c ∧ c ≤ '9') ∨ ('a' ≤ c ∧ c ≤ 'f')

def suffixBytes : Nat := 5

/-- The characters of a prefix which stay; the separator of the id is not one. -/
def isPrefixChar (c : Char) : Bool := isTraceChar c && c ≠ '-'

def newId (tracePrefix : String) (suffix : TokenHex suffixBytes) : String :=
  let cleaned := (tracePrefix.toList.filter isPrefixChar).take (36 - suffix.text.length - 1)
  (if cleaned = [] then "work" else String.ofList cleaned) ++ "-" ++ suffix.text

def outboundHeaders (current : String) : List (String × String) :=
  if current ≠ noTrace then [(traceHeader, current)] else []

/-- What a task does, as far as trace ids go. -/
inductive TracedWork
  | done
  | raise
  /-- A log line, or a request to the app. -/
  | note (rest : TracedWork)
  | scope (tracePrefix : String) (inbound : Option String) (suffix : TokenHex suffixBytes)
      (body rest : TracedWork)
  /-- What the body raises is caught. -/
  | attempt (body rest : TracedWork)
  /-- A task is created, with a copy of the context. -/
  | task (body rest : TracedWork)

/-- What is seen of the trace ids. -/
inductive TraceSight
  | noted (inScope : Bool) (current : String) (headers : List (String × String))
  | left (previous current : String)
  deriving DecidableEq

namespace TracedWork

/-- Whether an exception leaves the work. -/
def raises : TracedWork → Bool
  | .done => false
  | .raise => true
  | .note rest => rest.raises
  | .scope _ _ _ body rest => body.raises || rest.raises
  | .attempt _ rest => rest.raises
  | .task _ rest => rest.raises

/-- What is seen while the work is done, and the value of `_req_trace` after it. -/
def run (inScope : Bool) : TracedWork → String → List TraceSight × String
  | .done, reqTrace => ([], reqTrace)
  | .raise, reqTrace => ([], reqTrace)
  | .note rest, reqTrace =>
    let after := rest.run inScope reqTrace
    (.noted inScope reqTrace (outboundHeaders reqTrace) :: after.1, after.2)
  | .scope tracePrefix inbound suffix body rest, reqTrace =>
    let traceId := (adopt inbound).getD (newId tracePrefix suffix)
    let token := reqTrace
    let inner := body.run true traceId
    -- the reset is in a `finally`
    let sights := .noted true traceId (outboundHeaders traceId) :: inner.1 ++ [.left reqTrace token]
    if body.raises then (sights, token)
    else
      let after := rest.run inScope token
      (sights ++ after.1, after.2)
  | .attempt body rest, reqTrace =>
    let inner := body.run inScope reqTrace
    let after := rest.run inScope inner.2
    (inner.1 ++ after.1, after.2)
  | .task body rest, reqTrace =>
    let child := body.run inScope reqTrace
    let after := rest.run inScope reqTrace
    (child.1 ++ after.1, after.2)

end TracedWork

end GpuReservation.Model
