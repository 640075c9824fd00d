import GpuReservation.Proofs.GuaranteeStability

/-!
# How far a guarantee reaches

The chain follows one booking after another and never turns back, so where bookings overlap it may
miss a longer way.
-/

namespace GpuReservation.Proofs

open GpuReservation.Library GpuReservation.Model

section

variable (s : ControllerState)

lemma mem_chainFor {res r : ReservationResponse} {now : Instant} (h : r ∈ s.chainFor res now) :
    r ∈ s.reservations ∧ now < slotEnd r := by
  cases hu : res.user with
  | none => simp [ControllerState.chainFor, hu] at h
  | some user =>
    cases hl : s.effectiveLabel res with
    | none => simp [ControllerState.chainFor, hu, hl] at h
    | some label =>
      rw [chainFor_eq_walk s hu hl now le_rfl] at h
      obtain ⟨hmem, hend⟩ := List.mem_filter.mp (walk_mem h)
      exact ⟨(List.mem_filter.mp hmem).1, by simpa using hend⟩

/-- The window of a reservation with those of the bookings chained to it. -/
def guaranteeRun (res : ReservationResponse) (now : Instant) : List ReservationResponse :=
  res :: s.chainFor res now

lemma guaranteeRun_abut (res : ReservationResponse) (now : Instant) :
    Abut slotStart slotEnd (guaranteeRun s res now) := by
  cases hu : res.user with
  | none => simpa [guaranteeRun, ControllerState.chainFor, hu] using .singleton res
  | some user =>
    cases hl : s.effectiveLabel res with
    | none => simpa [guaranteeRun, ControllerState.chainFor, hu, hl] using .singleton res
    | some label =>
      rw [guaranteeRun, chainFor_eq_walk s hu hl now le_rfl]
      exact walk_abut

variable (res : ReservationResponse) (now : Instant)

/-- A booking which may extend the guarantee of `res`. -/
structure Qualifies (r : ReservationResponse) : Prop where
  listed : r ∈ s.reservations
  other : r.id ≠ res.id
  booking : r.kind = .booking
  owner : ∃ user, res.user = some user ∧ ControllerState.ownedBy r user.username
  gpuClass : ∃ label, s.effectiveLabel res = some label ∧ s.effectiveLabel r = some label
  gpus : r.gpuCount = res.gpuCount
  group : s.requiredGroupLabel = none ∨ r.groupId = res.groupId
  live : now < slotEnd r
  expected : r.id ∉ s.noshowReservationIds

/-- A sequence of distinct qualifying bookings, each starting where the one before it ends. -/
structure Extends (run : List ReservationResponse) : Prop where
  qualify : ∀ r ∈ run, Qualifies s res now r
  distinct : run.Nodup
  abut : Abut slotStart slotEnd (res :: run)

/-- Where a sequence which follows `res` ends. -/
def reached (run : List ReservationResponse) : Instant := runEnd slotEnd (slotEnd res) run

/-- No qualifying booking runs backwards. -/
def RunsForward : Prop := ∀ r, Qualifies s res now r → slotStart r ≤ slotEnd r

/-- An id is of one reservation. -/
def IdsTellApart : Prop := ∀ r ∈ s.reservations, ∀ r' ∈ s.reservations, r.id = r'.id → r = r'

/-- Qualifying bookings which start together, neither of them empty, end together. -/
def TiesAgree : Prop := ∀ r r', Qualifies s res now r → Qualifies s res now r' →
  slotStart r = slotStart r' → slotStart r < slotEnd r → slotStart r' < slotEnd r' →
    slotEnd r = slotEnd r'

/-- The chain is the walk which takes, from the end of `res` on, the longest qualifying booking not
yet taken which starts where the last one ended, until there is none; the guarantee is its end.
That is the latest end there is where qualifying bookings which start together end together. -/
structure FollowsLongest : Prop where
  chain : Extends s res now (s.chainFor res now)
  once : ((s.chainFor res now).map (·.id)).Nodup
  longest : ∀ l₁ r l₂, s.chainFor res now = l₁ ++ r :: l₂ → ∀ q, Qualifies s res now q →
    q.id ∉ l₁.map (·.id) → slotStart q = slotStart r → slotEnd q ≤ slotEnd r
  stuck : ∀ q, Qualifies s res now q → slotStart q = s.computeGuaranteedUntil now res →
    q.id ∈ (s.chainFor res now).map (·.id)
  reaches : s.computeGuaranteedUntil now res = reached res (s.chainFor res now)
  latest : RunsForward s res now → IdsTellApart s → TiesAgree s res now → ∀ run,
    Extends s res now run → reached res run ≤ s.computeGuaranteedUntil now res

variable {s res now}

/-- What the walk goes over. -/
def liveFollowers (s : ControllerState) (res : ReservationResponse) (ns label : String)
    (now : Instant) : List ReservationResponse :=
  (followers s res ns label).filter fun r => now < slotEnd r

lemma mem_liveFollowers {user : UserBrief} {label : String} (hu : res.user = some user)
    (hl : s.effectiveLabel res = some label) {r : ReservationResponse} :
    r ∈ liveFollowers s res user.username label now ↔ Qualifies s res now r := by
  simp only [liveFollowers, followers, ControllerState.chainable, List.mem_filter, Bool.and_eq_true,
    Bool.or_eq_true, decide_eq_true_eq]
  constructor
  · rintro ⟨⟨hr, ⟨⟨⟨⟨⟨hid, hkind⟩, hown⟩, hlabel⟩, hgpus⟩, hgroup⟩, hexp⟩, hlive⟩
    exact ⟨hr, hid, hkind, ⟨user, hu, hown⟩, ⟨label, hl, hlabel⟩, hgpus, hgroup, hlive, hexp⟩
  · rintro ⟨hr, hid, hkind, ⟨user', hu', hown⟩, ⟨label', hl', hlabel⟩, hgpus, hgroup, hlive, hexp⟩
    obtain rfl := Option.some.inj (hu'.symm.trans hu)
    obtain rfl := Option.some.inj (hl'.symm.trans hl)
    exact ⟨⟨hr, ⟨⟨⟨⟨⟨hid, hkind⟩, hown⟩, hlabel⟩, hgpus⟩, hgroup⟩, hexp⟩, hlive⟩

/-- Nothing qualifies where the owner or the class of `res` is not known. -/
lemma chainFor_eq_nil (h : res.user = none ∨ s.effectiveLabel res = none) :
    s.chainFor res now = [] ∧ ∀ r, ¬Qualifies s res now r := by
  constructor
  · unfold ControllerState.chainFor
    rcases h with h | h
    · rw [h]
    · rw [h]
      cases res.user <;> rfl
  · intro r hr
    obtain ⟨user, hu, -⟩ := hr.owner
    obtain ⟨label, hl, -⟩ := hr.gpuClass
    rcases h with h | h
    · exact absurd (h.symm.trans hu) (by simp)
    · exact absurd (h.symm.trans hl) (by simp)

lemma chainFor_followsLongest_of {user : UserBrief} {label : String} (hu : res.user = some user)
    (hl : s.effectiveLabel res = some label) : FollowsLongest s res now := by
  have hwalk := chainFor_eq_walk s hu hl now le_rfl
  have hmem : ∀ r, r ∈ liveFollowers s res user.username label now ↔ Qualifies s res now r :=
    fun r => mem_liveFollowers hu hl
  have hids : ((s.chainFor res now).map (·.id)).Nodup := by
    rw [hwalk]
    exact walk_fresh.1
  have hfuel : ((liveFollowers s res user.username label now).filter
      fun r => r.id ∉ ([] : List Nat)).length ≤
        (liveFollowers s res user.username label now).length := List.length_filter_le _ _
  refine ⟨⟨fun r hr => ?_, hids.of_map _, guaranteeRun_abut s res now⟩, hids, ?_, ?_, rfl, ?_⟩
  · rw [hwalk] at hr
    exact (hmem r).mp (walk_mem hr)
  · intro l₁ r l₂ hsplit q hq hnew hstart
    rw [hwalk] at hsplit
    exact walk_longest hsplit ((hmem q).mpr hq) List.not_mem_nil hnew hstart
  · intro q hq hstart
    rw [ControllerState.computeGuaranteedUntil, hwalk] at hstart
    rw [hwalk]
    exact (walk_stuck hfuel ((hmem q).mpr hq) hstart).resolve_left List.not_mem_nil
  · intro hforward hapart hties run hrun
    rw [ControllerState.computeGuaranteedUntil, hwalk]
    refine runEnd_le_walk (fun r hr => hforward r ((hmem r).mp hr)) (fun a ha b hb hid => ?_)
      (fun a ha b hb => hties a b ((hmem a).mp ha) ((hmem b).mp hb)) hfuel
      (fun q _ hin => absurd hin List.not_mem_nil) (fun q _ hin => absurd hin List.not_mem_nil)
      (fun r hr => (hmem r).mpr (hrun.qualify r hr)) fun l₁ r l₂ hsplit => ?_
    · exact hapart a ((hmem a).mp ha).listed b ((hmem b).mp hb).listed hid
    · have habut := hrun.abut
      rw [hsplit] at habut
      exact habut.start_eq

end

lemma chainFor_followsLongest (s : ControllerState) (res : ReservationResponse) (now : Instant) :
    FollowsLongest s res now := by
  have hnone : res.user = none ∨ s.effectiveLabel res = none → FollowsLongest s res now := by
    intro h
    obtain ⟨hnil, hno⟩ := chainFor_eq_nil (s := s) h
    refine ⟨⟨fun r hr => ?_, ?_, guaranteeRun_abut s res now⟩, ?_, ?_, ?_, rfl, ?_⟩
    · rw [hnil] at hr
      exact absurd hr List.not_mem_nil
    · rw [hnil]
      exact List.nodup_nil
    · rw [hnil]
      exact List.nodup_nil
    · exact fun _ _ _ _ q hq => absurd hq (hno q)
    · exact fun q hq => absurd hq (hno q)
    · intro _ _ _ run hrun
      have hempty : run = [] := List.eq_nil_iff_forall_not_mem.mpr fun r hr =>
        hno r (hrun.qualify r hr)
      rw [ControllerState.computeGuaranteedUntil, hnil, hempty]
      exact le_refl _
  cases hu : res.user with
  | none => exact hnone (.inl hu)
  | some user =>
    cases hl : s.effectiveLabel res with
    | none => exact hnone (.inr hl)
    | some label => exact chainFor_followsLongest_of hu hl

theorem computeGuaranteedUntil_followsLongest (s : ControllerState) (res : ReservationResponse)
    (now : Instant) : FollowsLongest s res now :=
  chainFor_followsLongest s res now

/-- A long booking and a short one start as the first one ends, and another one as the short one
ends. -/
def forkedBookings : ControllerState where
  reservations := [hourBooking 1 0 10, hourBooking 2 10 20, hourBooking 3 10 15, hourBooking 4 15 100]

/-- By way of the short booking the owner has the GPU until 100; the chain takes the long one, and
ends at 20. -/
theorem computeGuaranteedUntil_not_latest :
    ¬ ∀ (s : ControllerState) (res : ReservationResponse) (now : Instant),
      (∀ r ∈ s.reservations, slotStart r ≤ slotEnd r) → (s.reservations.map (·.id)).Nodup →
        ∀ run, Extends s res now run → reached res run ≤ s.computeGuaranteedUntil now res := by
  intro h
  have hrun : Extends forkedBookings (hourBooking 1 0 10) 0
      [hourBooking 3 10 15, hourBooking 4 15 100] := by
    refine ⟨fun r hr => (@mem_liveFollowers _ _ _ ⟨1, "alice"⟩ "h100" rfl rfl _).mp ?_,
      by decide, by unfold Abut; decide⟩
    rcases List.mem_cons.mp hr with rfl | hr
    · decide
    · obtain rfl := List.mem_singleton.mp hr
      decide
  have hle := h forkedBookings (hourBooking 1 0 10) 0 (by decide) (by decide) _ hrun
  exact absurd hle (by decide)

/-- Bookings which follow one another one by one are all covered. -/
example : threeHours.computeGuaranteedUntil 0 (hourBooking 1 0 10) = 30 := by decide

end GpuReservation.Proofs
