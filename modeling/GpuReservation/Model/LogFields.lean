import GpuReservation.Library.Fields
import Mathlib.Data.List.DropRight
import Mathlib.Data.List.Sort
import Mathlib.Data.String.Basic

/-!
# Log fields

How `log_fields.py` renders the fields of a log line.
-/

namespace GpuReservation.Model

open GpuReservation.Library

/-- What a field may hold; `shown` is anything else, by the text `_render` makes of it. -/
inductive FieldValue
  | absent
  | text (value : String)
  | truth (value : Bool)
  | items (values : List FieldValue)
  | bag (values : List FieldValue)
  | shown (rendered : String)

section Scrub

variable (isprintable : Char → Bool)

def scrub (value : String) (maxlen : Option Nat := none) : String :=
  let cleaned := value.toList.filter isprintable
  match maxlen with
  | none => String.ofList cleaned
  | some n => String.ofList (cleaned.take n)

end Scrub

mutual

/-- `_render`; a set is sorted. -/
def FieldValue.render : FieldValue → String
  | .absent => "None"
  | .text value => value
  | .truth value => if value then "true" else "false"
  | .items values => ",".intercalate (FieldValue.renderEach values)
  | .bag values => ",".intercalate ((FieldValue.renderEach values).insertionSort (· ≤ ·))
  | .shown rendered => rendered

def FieldValue.renderEach : List FieldValue → List String
  | [] => []
  | value :: values => value.render :: FieldValue.renderEach values

end

/-- The characters which `_KEY_OK` leaves alone. -/
def keyOk (c : Char) : Bool :=
  ('A' ≤ c && c ≤ 'Z') || ('a' ≤ c && c ≤ 'z') || ('0' ≤ c && c ≤ '9') || c = '_' || c = '.'

/-- The trailing underscores are stripped, and what does not belong in a key is replaced by one. -/
def normalKey (key : String) : String :=
  String.ofList ((key.toList.rdropWhile (· = '_')).map fun c => if keyOk c then c else '_')

/-- `_NEEDS_QUOTING`. -/
def needsQuoting (value : String) : Bool := value.toList.any (· ∈ [' ', '=', '"'])

/-- Backslashes first, then quotes. -/
def escapeQuotes (value : String) : String :=
  String.ofList (replaceSymbol '"' ['\\', '"'] (replaceSymbol '\\' ['\\', '\\'] value.toList))

section Kv

variable (isprintable : Char → Bool)

/-- One field, if it is on the line at all. -/
def kvPart (field : String × FieldValue) : Option String :=
  match field.2 with
  | .absent => none
  | value =>
    let key := normalKey field.1
    let rendered := value.render
    if rendered = "" then none
    else
      let scrubbed := scrub isprintable rendered
      if scrubbed = "" then some (key ++ "=\"\"")
      else if needsQuoting scrubbed then some (key ++ "=\"" ++ escapeQuotes scrubbed ++ "\"")
      else some (key ++ "=" ++ scrubbed)

def kv (fields : List (String × FieldValue)) : String :=
  " ".intercalate (fields.filterMap (kvPart isprintable))

end Kv

end GpuReservation.Model
