import GpuReservation.Library.Alone
import GpuReservation.Model.Relinking

/-!
# Tolerations, patch by patch

The body of the patch of `apply_toleration`, and the admissions, adoptions and merges which send it.
-/

namespace GpuReservation.Model

open GpuReservation.Library

/-- A value of a JSON object, as far as tolerations have them. -/
inductive PatchValue
  | null
  | text (s : String)
  | number (n : Int)
  deriving DecidableEq

/-- A value or None. -/
def PatchValue.ofText : Option String → PatchValue
  | none => .null
  | some s => .text s

abbrev PatchEntry := List (String × PatchValue)

/-- An existing toleration as a plain dict: three keys always, two only where they are set. -/
def tolerationEntry (t : Toleration) : PatchEntry :=
  [("key", PatchValue.ofText t.key), ("operator", .ofText t.operator), ("effect", .ofText t.effect)] ++
    (match t.value with
      | none => []
      | some value => [("value", .text value)]) ++
    match t.tolerationSeconds with
    | none => []
    | some n => [("tolerationSeconds", .number n)]

def newTolerationEntry (tolKey tolValue : String) : PatchEntry :=
  [("key", .text tolKey), ("operator", .text "Equal"), ("value", .text tolValue),
    ("effect", .text "NoSchedule")]

/-- The body of the patch. -/
structure TolerationPatch where
  bookingReference : Nat
  tolerations : List PatchEntry

def tolerationPatch (pod : Pod) (tolKey tolValue : String) (bookingReference : Nat) :
    TolerationPatch where
  bookingReference := bookingReference
  tolerations := pod.tolerations.map tolerationEntry ++ [newTolerationEntry tolKey tolValue]

/-- The text under a key; null and absent are the same to the API server. -/
def PatchEntry.text (e : PatchEntry) (key : String) : Option String :=
  match e.lookup key with
  | some (.text s) => some s
  | _ => none

def PatchEntry.number (e : PatchEntry) (key : String) : Option Int :=
  match e.lookup key with
  | some (.number n) => some n
  | _ => none

/-- The toleration the API server stores for an entry. -/
def PatchEntry.toleration (e : PatchEntry) : Toleration where
  key := e.text "key"
  operator := e.text "operator"
  value := e.text "value"
  effect := e.text "effect"
  tolerationSeconds := e.number "tolerationSeconds"

/-- What is done to one pod: the programs which patch it, each with the task and the state it starts
in and what the world makes of its calls, and what else happens while the pod is there. -/
inductive LinkMove (ns name gpuClass : String)
  | admission (task : Nat) (s : ControllerState) (choices : List Choice) (uid : Uid) (ref : Ref)
      (gateName : Option String) (target : (s.entry ref).podNamespace = ns ∧
        (s.entry ref).podName = name ∧ (s.entry ref).gpuClassLabel = gpuClass)
  | adoption (task : Nat) (s : ControllerState) (choices : List Choice) (now : Instant)
      (cause : RelinkCause) (pods : List PodRuntimeView) (view : PodRuntimeView)
      (res : ReservationResponse)
      (target : view.ns = ns ∧ view.name = name ∧ view.gpuClass = gpuClass)
  | merge (task : Nat) (s : ControllerState) (choices : List Choice) (now : Instant)
      (pods : List PodRuntimeView) (view : PodRuntimeView) (res : ReservationResponse)
      (target : view.ns = ns ∧ view.name = name ∧ view.gpuClass = gpuClass)
  | other (e : WorldEvent) (stays : e ≠ .podGone ns name)

/-- The world after a program which had it to itself. -/
def World.after {α : Type} (w : World) (task : Nat) (s : ControllerState) (choices : List Choice)
    (program : Ctl α) : World :=
  match program.alone runtime task choices ⟨s, w⟩ with
  | some r => r.2.2.world
  | none => w

def LinkMove.step {ns name gpuClass : String} (w : World) : LinkMove ns name gpuClass → World
  | .admission task s choices uid ref gateName _ =>
    w.after task s choices (tryApplyToleration uid ref gateName)
  | .adoption task s choices now cause pods view res _ =>
    w.after task s choices (adoptPod now cause pods (view, res))
  | .merge task s choices now pods view res _ =>
    w.after task s choices (mergePod now pods (view, res))
  | .other e _ => e.effect w

end GpuReservation.Model
