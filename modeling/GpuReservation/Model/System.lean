import GpuReservation.Model.QueueTick

/-!
# The tasks of the controller
-/

namespace GpuReservation.Model

open GpuReservation.Library

/-- One cycle of a background loop, one inbound push, or one watch event. -/
inductive Job
  | fetch
  | push (pushed : List ReservationResponse)
  | watch (eventType : EventType) (pod : Pod) (passes : Nat)
  | queueTick (passes : Nat)
  | sweep
  /-- One admission pass, as the queue tick and the watch run it. -/
  | admissionPass
  /-- One granted candidate, as an admission pass treats it. -/
  | grant (uid : Uid) (ref : Ref) (ask : OnDemandAdmissionCandidate)

def Job.program (config : Config) : Job → Ctl Unit
  | .fetch => refreshReservations config
  | .push pushed => pushReservations config pushed
  | .watch eventType pod passes => watchEvent config passes eventType pod
  | .queueTick passes => runQueueTick config passes
  | .sweep => runPreemptionSweep config
  | .admissionPass => runOndemandAdmissionOnce config
  | .grant uid ref ask => do
    let _ ← grantAndAdmit config uid ref ask
    return ()

abbrev System := Pool ControllerState World Request Answer Job

abbrev SystemMove := Move Job Choice WorldEvent

def systemStep (config : Config) : System → SystemMove → System :=
  step runtime (Job.program config) outside

def systemRun (config : Config) : System → List SystemMove → System :=
  runMoves runtime (Job.program config) outside

end GpuReservation.Model
