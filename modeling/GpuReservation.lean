import GpuReservation.Library.Alone
import GpuReservation.Library.Amid
import GpuReservation.Library.Async
import GpuReservation.Library.BackToBack
import GpuReservation.Library.Calendar
import GpuReservation.Library.Dict
import GpuReservation.Library.EventLog
import GpuReservation.Library.Exec
import GpuReservation.Library.FairLock
import GpuReservation.Library.Fallible
import GpuReservation.Library.Fields
import GpuReservation.Library.Gregorian
import GpuReservation.Library.Heap
import GpuReservation.Library.InTurn
import GpuReservation.Library.Lock
import GpuReservation.Library.Machine
import GpuReservation.Library.MergePatch
import GpuReservation.Library.Notes
import GpuReservation.Library.Numerals
import GpuReservation.Library.OneShot
import GpuReservation.Library.Raising
import GpuReservation.Library.RelyGuarantee
import GpuReservation.Library.Runs
import GpuReservation.Library.SortedEntries
import GpuReservation.Library.Standing
import GpuReservation.Library.TextSearch
import GpuReservation.Library.Versioned
import GpuReservation.Library.Within
import GpuReservation.Model.Admission
import GpuReservation.Model.Annotations
import GpuReservation.Model.Bookkeeping
import GpuReservation.Model.Client
import GpuReservation.Model.Coalescing
import GpuReservation.Model.Forecast
import GpuReservation.Model.Gates
import GpuReservation.Model.LogFields
import GpuReservation.Model.Manifests
import GpuReservation.Model.Matching
import GpuReservation.Model.NodeInventory
import GpuReservation.Model.NodePlacement
import GpuReservation.Model.Nodes
import GpuReservation.Model.OnDemand
import GpuReservation.Model.OwnedLock
import GpuReservation.Model.Planning
import GpuReservation.Model.Pod
import GpuReservation.Model.PodWatcher
import GpuReservation.Model.Preemption
import GpuReservation.Model.QueueTick
import GpuReservation.Model.Reconcile
import GpuReservation.Model.Relinking
import GpuReservation.Model.Reservation
import GpuReservation.Model.RiskForecast
import GpuReservation.Model.Singleton
import GpuReservation.Model.Stamps
import GpuReservation.Model.State
import GpuReservation.Model.System
import GpuReservation.Model.Tolerations
import GpuReservation.Model.Trace
import GpuReservation.Model.Warnings
import GpuReservation.Model.Watch
import GpuReservation.Model.World
import GpuReservation.Proofs.AdmissionBudget
import GpuReservation.Proofs.AdmissionCoalescing
import GpuReservation.Proofs.AdmissionWindow
import GpuReservation.Proofs.Annotations
import GpuReservation.Proofs.BatchAnswer
import GpuReservation.Proofs.BookingOwners
import GpuReservation.Proofs.BoundaryMarks
import GpuReservation.Proofs.ClassLabels
import GpuReservation.Proofs.Client
import GpuReservation.Proofs.Demand
import GpuReservation.Proofs.FailedAttempts
import GpuReservation.Proofs.FetchedReservations
import GpuReservation.Proofs.Footprints
import GpuReservation.Proofs.ForecastAgreement
import GpuReservation.Proofs.ForgottenCancellations
import GpuReservation.Proofs.Frames
import GpuReservation.Proofs.GateWarnings
import GpuReservation.Proofs.Gates
import GpuReservation.Proofs.GonePods
import GpuReservation.Proofs.GrantAccounting
import GpuReservation.Proofs.GuaranteeChain
import GpuReservation.Proofs.GuaranteeStability
import GpuReservation.Proofs.HeadroomNotice
import GpuReservation.Proofs.JudgedPods
import GpuReservation.Proofs.LeaseCancels
import GpuReservation.Proofs.LiveLeases
import GpuReservation.Proofs.LocalSelection
import GpuReservation.Proofs.LogFields
import GpuReservation.Proofs.Manifests
import GpuReservation.Proofs.NamedAdmission
import GpuReservation.Proofs.NextAttempts
import GpuReservation.Proofs.NoShow
import GpuReservation.Proofs.NoShowCancels
import GpuReservation.Proofs.NoShowGrace
import GpuReservation.Proofs.NoShowQueue
import GpuReservation.Proofs.NodeFit
import GpuReservation.Proofs.NodeFitWakeups
import GpuReservation.Proofs.NodeInventory
import GpuReservation.Proofs.NodeMaps
import GpuReservation.Proofs.NodePlacement
import GpuReservation.Proofs.Occupancy
import GpuReservation.Proofs.OccupancyUniqueness
import GpuReservation.Proofs.OpenBookings
import GpuReservation.Proofs.OvercommitBatch
import GpuReservation.Proofs.OvercommitHolds
import GpuReservation.Proofs.OwnedLock
import GpuReservation.Proofs.PassNotes
import GpuReservation.Proofs.PassSteps
import GpuReservation.Proofs.PeakCommitted
import GpuReservation.Proofs.PendingThrottle
import GpuReservation.Proofs.PlannedEvictions
import GpuReservation.Proofs.PlannedRelinks
import GpuReservation.Proofs.PodNames
import GpuReservation.Proofs.PodWatcher
import GpuReservation.Proofs.PushComposition
import GpuReservation.Proofs.RelinkBudget
import GpuReservation.Proofs.RelinkFixpoint
import GpuReservation.Proofs.RelinkGuarantee
import GpuReservation.Proofs.ReplannedWarnings
import GpuReservation.Proofs.Reports
import GpuReservation.Proofs.ReservationLock
import GpuReservation.Proofs.RetryTimes
import GpuReservation.Proofs.RiskForecast
import GpuReservation.Proofs.SettledStamps
import GpuReservation.Proofs.SharedBoundaries
import GpuReservation.Proofs.SingletonLease
import GpuReservation.Proofs.SnapshotRebuild
import GpuReservation.Proofs.StampReconcilers
import GpuReservation.Proofs.SweepFootprints
import GpuReservation.Proofs.SweepVictims
import GpuReservation.Proofs.TerminationWarnings
import GpuReservation.Proofs.TickRemovals
import GpuReservation.Proofs.Tolerations
import GpuReservation.Proofs.Trace
import GpuReservation.Proofs.UniqueReservations
import GpuReservation.Proofs.Victims
import GpuReservation.Proofs.Waiters
import GpuReservation.Proofs.WaitingCandidates
import GpuReservation.Proofs.WorldHistory
