import GpuReservation.Model.Matching

/-!
# The two matchers of open bookings

The queue asks `find_admittable_reservation`, the re-link planners `find_open_booking_for`.  With no
horizon and nothing planned yet they read the class of a booking differently, and nothing else.
-/

namespace GpuReservation.Proofs

open GpuReservation.Library GpuReservation.Model

variable (s : ControllerState) (ns gpuClassLabel : String) (groupLabel : Option String)
  (gpuRequested : Nat) (now : Instant)

/-- A booking the pod could start under now, were it of its class. -/
def openForPod (r : ReservationResponse) : Bool :=
  r.kind = .booking && ControllerState.ownedBy r ns && s.groupOk r groupLabel && slotOpen r now &&
    r.id ∉ s.noshowReservationIds && gpuRequested ≤ s.available r none

/-- The label of the class is in the cache. -/
def labelCached (r : ReservationResponse) : Bool :=
  s.gpuClassLabels.get? r.gpuClassId = some gpuClassLabel

/-- The class is missing from the cache, and the record itself carries the label. -/
def labelEmbedded (r : ReservationResponse) : Bool :=
  s.gpuClassLabels.get? r.gpuClassId = none && r.gpuClass.labelValue = some gpuClassLabel

lemma effectiveLabel_iff (r : ReservationResponse) :
    s.effectiveLabel r = some gpuClassLabel ↔
      labelCached s gpuClassLabel r = true ∨ labelEmbedded s gpuClassLabel r = true := by
  unfold ControllerState.effectiveLabel labelCached labelEmbedded
  cases s.gpuClassLabels.get? r.gpuClassId with
  | none => simp
  | some cached => simp

lemma findAdmittableReservation_isSome :
    (s.findAdmittableReservation ns gpuClassLabel gpuRequested now 0 groupLabel).isSome ↔
      ∃ r ∈ s.reservations, openForPod s ns groupLabel gpuRequested now r ∧
        labelCached s gpuClassLabel r := by
  unfold ControllerState.findAdmittableReservation
  rw [Option.isSome_iff_ne_none, Ne, List.argmin_eq_none, ← Ne,
    ← List.length_pos_iff_ne_nil, List.length_pos_iff_exists_mem]
  refine exists_congr fun r => ?_
  rw [List.mem_filter]
  refine and_congr_right fun _ => ?_
  simp only [ControllerState.matchesPod, openForPod, labelCached, add_zero, Bool.and_eq_true,
    decide_eq_true_eq]
  unfold slotOpen
  tauto

/-- With nothing planned, the spare budget is what is available. -/
lemma le_spare_iff (r : ReservationResponse) :
    (gpuRequested : Int) ≤ s.spare ∅ r ↔ gpuRequested ≤ s.available r none := by
  unfold ControllerState.spare
  rw [Dict.get?_empty, Option.getD_none]
  omega

lemma findOpenBookingFor_isSome :
    (s.findOpenBookingFor ns gpuClassLabel now gpuRequested ∅ groupLabel).isSome ↔
      ∃ r ∈ s.reservations, openForPod s ns groupLabel gpuRequested now r ∧
        s.effectiveLabel r = some gpuClassLabel := by
  unfold ControllerState.findOpenBookingFor
  rw [Option.isSome_iff_ne_none, Ne, List.argmax_eq_none, ← Ne,
    ← List.length_pos_iff_ne_nil, List.length_pos_iff_exists_mem]
  refine exists_congr fun r => ?_
  rw [List.mem_filter]
  refine and_congr_right fun _ => ?_
  simp only [ControllerState.openBookingFor, openForPod, le_spare_iff, Bool.and_eq_true,
    decide_eq_true_eq]
  tauto

/-- What the queue would admit under, the planners could link to. -/
theorem findOpenBookingFor_of_admittable
    (h : (s.findAdmittableReservation ns gpuClassLabel gpuRequested now 0 groupLabel).isSome) :
    (s.findOpenBookingFor ns gpuClassLabel now gpuRequested ∅ groupLabel).isSome := by
  obtain ⟨r, hr, hopen, hcached⟩ := (findAdmittableReservation_isSome s ns gpuClassLabel groupLabel
    gpuRequested now).mp h
  apply (findOpenBookingFor_isSome s ns gpuClassLabel groupLabel gpuRequested now).mpr
  exact ⟨r, hr, hopen, (effectiveLabel_iff s gpuClassLabel r).mpr (.inl hcached)⟩

/-- The two matchers disagree exactly where all the bookings with room are of classes missing from
the cache. -/
theorem openMatchers_agree_iff :
    ((s.findAdmittableReservation ns gpuClassLabel gpuRequested now 0 groupLabel).isSome ↔
      (s.findOpenBookingFor ns gpuClassLabel now gpuRequested ∅ groupLabel).isSome) ↔
    ((∃ r ∈ s.reservations, openForPod s ns groupLabel gpuRequested now r ∧
        labelEmbedded s gpuClassLabel r) →
      ∃ r ∈ s.reservations, openForPod s ns groupLabel gpuRequested now r ∧
        labelCached s gpuClassLabel r) := by
  rw [findAdmittableReservation_isSome, findOpenBookingFor_isSome]
  constructor
  · rintro hagree ⟨r, hr, hopen, hembedded⟩
    exact hagree.mpr ⟨r, hr, hopen, (effectiveLabel_iff s gpuClassLabel r).mpr (.inr hembedded)⟩
  · intro hcond
    constructor
    · rintro ⟨r, hr, hopen, hcached⟩
      exact ⟨r, hr, hopen, (effectiveLabel_iff s gpuClassLabel r).mpr (.inl hcached)⟩
    · rintro ⟨r, hr, hopen, hlabel⟩
      cases (effectiveLabel_iff s gpuClassLabel r).mp hlabel with
      | inl hcached => exact ⟨r, hr, hopen, hcached⟩
      | inr hembedded => exact hcond ⟨r, hr, hopen, hembedded⟩

/-- An open booking of two GPUs which a push has left without its class in the cache. -/
theorem openMatchers_uncached :
    let booking : ReservationResponse :=
      { id := 1, user := some ⟨7, "alice"⟩, gpuClassId := 3,
        gpuClass := { id := 3, name := "H100", labelValue := some "h100" },
        startUtc := 0, endUtc := seconds 3600, gpuCount := 2 }
    let s : ControllerState := { reservations := [booking] }
    ¬((s.findAdmittableReservation "alice" "h100" 1 (seconds 60) 0 none).isSome ↔
      (s.findOpenBookingFor "alice" "h100" (seconds 60) 1 ∅ none).isSome) := by
  decide

end GpuReservation.Proofs
