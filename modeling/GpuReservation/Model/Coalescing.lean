import GpuReservation.Model.OnDemand

/-!
# Triggers of on-demand admission

`_run_ondemand_admission`, from one suspension to the next.  A pass awaits, and may raise; a call
holds `ondemand_admission_lock` while it runs passes.
-/

namespace GpuReservation.Model

open GpuReservation.Library

namespace ControllerState

variable (s : ControllerState)

/-- What a call does before its first pass; `true` where it starts one. -/
def admissionTriggered (config : Config) : ControllerState × Bool :=
  if ¬ config.ondemandLeaseEnabled then (s, false)
  else if s.ondemandAdmissionLocked then ({ s with ondemandRerunRequested := true }, false)
  else ({ s with ondemandAdmissionLocked := true, ondemandRerunRequested := false }, true)

/-- What the call does once its pass has returned; `true` where it starts another one. -/
def admissionPassReturned : ControllerState × Bool :=
  if s.ondemandRerunRequested then ({ s with ondemandRerunRequested := false }, true)
  else ({ s with ondemandAdmissionLocked := false }, false)

/-- The exception leaves through `async with`. -/
def admissionPassRaised : ControllerState := { s with ondemandAdmissionLocked := false }

/-- Nothing but the calls themselves changes the lock and the flag. -/
def changedElsewhere (s' : ControllerState) : ControllerState :=
  { s' with
    ondemandAdmissionLocked := s.ondemandAdmissionLocked
    ondemandRerunRequested := s.ondemandRerunRequested }

end ControllerState

/-- Where one call of `_run_ondemand_admission` stands. -/
inductive AdmissionCall
  /-- In a pass, which started at the step `since`. -/
  | inPass (since : Nat)
  | returned
  | raised
  deriving DecidableEq, Repr

inductive AdmissionEvent
  | trigger
  | passReturns (call : Nat)
  | passRaises (call : Nat)
  /-- While every call awaits, the rest of the controller goes on. -/
  | elsewhere (s : ControllerState)

/-- The calls made so far, with the steps at which they were made and their passes ran. -/
structure AdmissionRun where
  state : ControllerState := {}
  calls : List AdmissionCall := []
  clock : Nat := 0
  triggers : List Nat := []
  /-- The passes which returned, by the steps they started and ended at. -/
  passes : List (Nat × Nat) := []
  raises : List Nat := []

namespace AdmissionRun

variable (config : Config) (r : AdmissionRun)

/-- What an event does, at the step `clock`. -/
def handle : AdmissionEvent → AdmissionRun
  | .trigger =>
    let (state, starts) := r.state.admissionTriggered config
    { r with
      state
      calls := r.calls ++ [if starts then .inPass r.clock else .returned]
      triggers := r.triggers ++ [r.clock] }
  | .passReturns call =>
    match r.calls[call]? with
    | some (.inPass since) =>
      let (state, again) := r.state.admissionPassReturned
      { r with
        state
        calls := r.calls.set call (if again then .inPass r.clock else .returned)
        passes := r.passes ++ [(since, r.clock)] }
    | _ => r
  | .passRaises call =>
    match r.calls[call]? with
    | some (.inPass _) =>
      { r with
        state := r.state.admissionPassRaised
        calls := r.calls.set call .raised
        raises := r.raises ++ [r.clock] }
    | _ => r
  | .elsewhere s => { r with state := r.state.changedElsewhere s }

def step (e : AdmissionEvent) : AdmissionRun :=
  { r.handle config e with clock := r.clock + 1 }

def run (events : List AdmissionEvent) : AdmissionRun := events.foldl (step config) {}

end AdmissionRun

end GpuReservation.Model
