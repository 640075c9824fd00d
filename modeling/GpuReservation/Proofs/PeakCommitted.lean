import GpuReservation.Proofs.OvercommitBatch

/-!
# The peak of what reservations commit
-/

namespace GpuReservation.Proofs

open GpuReservation.Library GpuReservation.Model

/-- Of all instants of the window none has more of the class committed, and it is the first one which
has as much. -/
structure PeakOver (s : ControllerState) (label : String) (start stop : Instant)
    (peak : Nat × Instant) : Prop where
  within : start ≤ peak.2 ∧ peak.2 < stop
  met : committedGpus s label peak.2 = peak.1
  most : ∀ t, start ≤ t → t < stop → committedGpus s label t ≤ peak.1
  first : ∀ t, start ≤ t → t < stop → committedGpus s label t = peak.1 → peak.2 ≤ t

lemma peakCommittedGpusAt_eq (s : ControllerState) (label : String) (start stop : Instant) :
    s.peakCommittedGpusAt label start stop =
      firstPeak slotStart slotEnd (·.gpuCount) (s.committedRows label start stop) start := rfl

/-- The rows which are looked at start before the window ends. -/
lemma peakCommittedGpusAt_lt (s : ControllerState) (label : String) {start stop : Instant}
    (h : start < stop) : (s.peakCommittedGpusAt label start stop).2 < stop := by
  obtain ⟨-, -, -, hin⟩ := firstPeak_spec slotStart slotEnd (fun r => r.gpuCount)
    (s.committedRows label start stop) start
  rw [peakCommittedGpusAt_eq]
  rcases List.mem_cons.mp hin with heq | hin
  · rw [heq]
    exact h
  · obtain ⟨r, hr, heq⟩ := List.mem_map.mp (List.mem_filter.mp hin).1
    have hkeep := (List.mem_filter.mp hr).2
    simp only [Bool.and_eq_true, decide_eq_true_eq] at hkeep
    rw [← heq]
    exact hkeep.1.1.2

theorem peakCommittedGpusAt_peakOver (s : ControllerState) (label : String) {start stop : Instant}
    (h : start < stop) : PeakOver s label start stop (s.peakCommittedGpusAt label start stop) := by
  have hload : ∀ t, start ≤ t → t < stop → committedGpus s label t =
      load slotStart slotEnd (·.gpuCount) (s.committedRows label start stop) t := by
    intro t hstart hstop
    rw [← committedAt_committedRows label hstart hstop, committedAt_eq_load]
  have hbefore := peakCommittedGpusAt_lt s label h
  obtain ⟨hmost, hat, hfirst, hin⟩ := firstPeak_spec slotStart slotEnd (fun r => r.gpuCount)
    (s.committedRows label start stop) start
  rw [← peakCommittedGpusAt_eq] at hmost hat hfirst hin
  have hafter : start ≤ (s.peakCommittedGpusAt label start stop).2 := by
    rcases List.mem_cons.mp hin with heq | hin
    · exact le_of_eq heq.symm
    · exact (of_decide_eq_true (List.mem_filter.mp hin).2).le
  refine ⟨⟨hafter, hbefore⟩, ?_, fun t hstart hstop => ?_, fun t hstart hstop heq => ?_⟩
  · rw [hload _ hafter hbefore]
    exact hat
  · rw [hload t hstart hstop]
    exact hmost t hstart
  · rw [hload t hstart hstop] at heq
    exact hfirst t hstart heq

/-- Two bookings overlap from 15 to 20, a third one starts as the first one ends, and an empty one
counts for nothing. -/
def overlapping : ControllerState where
  reservations := [hourBooking 1 0 20, hourBooking 2 15 30, hourBooking 3 20 30, hourBooking 4 5 5]

theorem peakCommittedGpusAt_peakOver_overlapping :
    PeakOver overlapping "h100" 10 30 (2, 15) :=
  peakCommittedGpusAt_peakOver overlapping "h100" (show (10 : Instant) < 30 by decide)

end GpuReservation.Proofs
