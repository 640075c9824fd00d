import GpuReservation.Model.Admission
import GpuReservation.Model.Planning
import Mathlib.Data.Finset.Sort

/-!
# Moving running pods to the bookings of their owners

Adoption of pods past their guarantee, and the merge of a lease's pod into an open booking.
-/

namespace GpuReservation.Model

open GpuReservation.Library

/-- A pod of the cluster, as the planners see it; `inventory` is the one capacity comes from. -/
def podView (inventory : Option (Dict String (Dict String Nat))) (p : Pod) : PodRuntimeView where
  uid := p.uid
  ns := p.ns
  name := p.name
  gpuClass := p.gpuClass
  gpuCount := p.gpuCount
  reservationId := p.bookingReference
  nodeResident := p.phase = .running || (p.phase = .pending && !p.scheduledFalse)
  terminating := p.terminating
  groupLabel := p.groupLabel
  nodeName := p.nodeName
  terminationWarningAt := p.terminationWarningAt
  nodeExcluded := match inventory, p.nodeName with
    | some nodes, some node => node ∉ (nodes.get? p.gpuClass).getD ∅
    | _, _ => false

/-- `snapshot_tolerated_pods`; `none` where the LIST fails. -/
def snapshotToleratedPods : Ctl (Option (List Pod)) := do
  let listed ← call .listPods
  return listed.map fun pods => pods.filter fun p => podHasAnyReservationToleration p tolerationKey

/-- The view of a pod which was moved. -/
def PodRuntimeView.relinked (view : PodRuntimeView) (res : ReservationResponse) : PodRuntimeView :=
  { view with reservationId := some res.id }

/-- What the owner of a moved pod is told. -/
def relinkEvent (view : PodRuntimeView) (res : ReservationResponse) (guaranteedUntil : Instant)
    (cause : RelinkCause) : PodEvent :=
  match cause with
  | .overstay => .overstayRelinked res.id guaranteedUntil
  | _ => .reservationRelinked res.id guaranteedUntil view.reservationId cause

/-- The patch landed: occupancy moves with the pod. -/
def concludeRelink (view : PodRuntimeView) (res : ReservationResponse) (now : Instant)
    (cause : RelinkCause) (pod : Pod) : Ctl Unit := do
  Prog.modify fun s => s.relinkOccupancy view.uid res.id view.gpuCount
  let s ← Prog.get
  let guaranteedUntil := s.computeGuaranteedUntil now res
  recordGuarantee pod.uid view.ns view.name guaranteedUntil res false
  let _ ← call
    (.emitPodEvent pod.uid view.ns view.name (relinkEvent view res guaranteedUntil cause))
  return ()

/-- The pod's booking reference is rewritten; `true` where that landed. -/
def relinkPod (view : PodRuntimeView) (res : ReservationResponse) (now : Instant)
    (cause : RelinkCause) : Ctl Bool := do
  let freshPod ← call (.readPod view.ns view.name)
  match freshPod with
  | none => return false
  | some pod =>
    if pod.phase.isTerminal then return false
    else
      let landed ← call (.applyToleration view.uid view.ns view.name pod tolerationKey view.gpuClass
        res.id)
      if landed then
        concludeRelink view res now cause pod
        return true
      else return false

def adoptPod (now : Instant) (cause : RelinkCause) (pods : List PodRuntimeView)
    (planned : PodRuntimeView × ReservationResponse) : Ctl (List PodRuntimeView) := do
  let landed ← relinkPod planned.1 planned.2 now cause
  return if landed then pods.replace planned.1 (planned.1.relinked planned.2) else pods

/-- `_adopt_pods`: the views, those of adopted pods renewed. -/
def adoptPods (config : Config) (pods : List PodRuntimeView) (now : Instant) (cause : RelinkCause) :
    Ctl (List PodRuntimeView) := do
  let s ← Prog.get
  if config.podAdoptionEnabled then
    (s.planPodAdoptions pods now).foldlM (adoptPod now cause) pods
  else return pods

/-- Cancels a lease whose pod was merged away, or parks it for a retry. -/
def cancelMergedLease (leaseId : Nat) : Ctl Unit := do
  let s ← Prog.get
  let active := (findReservation s.reservations leaseId).any fun r =>
    r.status = .active && r.kind = .onDemand
  if active then
    let cancelled ← call (.cancelReservation leaseId .superseded)
    if cancelled then
      Prog.modify fun s =>
        { s.dropReservation leaseId with
          pendingOndemandMergeCancels := s.pendingOndemandMergeCancels.erase leaseId }
    else
      Prog.modify fun s =>
        { s with pendingOndemandMergeCancels := insert leaseId s.pendingOndemandMergeCancels }
  else
    Prog.modify fun s =>
      { s with pendingOndemandMergeCancels := s.pendingOndemandMergeCancels.erase leaseId }

def retireLease (leaseId : Option Nat) : Ctl Unit :=
  match leaseId with
  | none => return ()
  | some id => cancelMergedLease id

def mergePod (now : Instant) (pods : List PodRuntimeView)
    (planned : PodRuntimeView × ReservationResponse) : Ctl (List PodRuntimeView) := do
  let landed ← relinkPod planned.1 planned.2 now .merge
  if landed then
    retireLease planned.1.reservationId
    return pods.replace planned.1 (planned.1.relinked planned.2)
  else return pods

/-- `_merge_ondemand_into_bookings`. -/
def mergeOndemandIntoBookings (config : Config) (pods : List PodRuntimeView) (now : Instant) :
    Ctl (List PodRuntimeView) := do
  let s ← Prog.get
  if config.ondemandMergeEnabled then
    (s.planOndemandMerges pods now).foldlM (mergePod now) pods
  else return pods

def drainPendingMergeCancels : Ctl Unit := do
  let s ← Prog.get
  if s.pendingOndemandMergeCancels = ∅ then return ()
  else withReservationLock (do
    let s ← Prog.get
    s.pendingOndemandMergeCancels.sort.forM cancelMergedLease)

end GpuReservation.Model
