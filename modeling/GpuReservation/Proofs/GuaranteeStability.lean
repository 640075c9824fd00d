import GpuReservation.Model.Matching

/-!
# The guarantee as time passes

With the reservations unchanged, a chain recomputed later is the earlier chain cut at the first
of its links that has ended since.
-/

namespace GpuReservation.Proofs

open GpuReservation.Library GpuReservation.Model

variable (s : ControllerState)

/-- The bookings which could follow `res`, whatever the time. -/
def followers (res : ReservationResponse) (ns gpuClassLabel : String) : List ReservationResponse :=
  s.reservations.filter fun r => s.chainable res ns gpuClassLabel r && r.id ∉ s.noshowReservationIds

lemma chainCandidates_eq (res : ReservationResponse) (ns gpuClassLabel : String) (now : Instant) :
    s.chainCandidates res ns gpuClassLabel now =
      ((followers s res ns gpuClassLabel).filter fun r => now < slotEnd r).insertionSort
        fun a b => slotStart a ≤ slotStart b := by
  rw [ControllerState.chainCandidates, followers, List.filter_filter]
  congr 2
  funext r
  simp only [Bool.and_comm, Bool.and_left_comm]

lemma chainFor_eq_walk {res : ReservationResponse} {user : UserBrief} {label : String}
    (hu : res.user = some user) (hl : s.effectiveLabel res = some label) (now : Instant) {n : Nat}
    (hn : ((followers s res user.username label).filter fun r => now < slotEnd r).length ≤ n) :
    s.chainFor res now =
      walk (·.id) slotStart slotEnd
        ((followers s res user.username label).filter fun r => now < slotEnd r) n []
        (slotEnd res) := by
  rw [ControllerState.chainFor]
  simp only [hu, hl]
  rw [chainCandidates_eq, walk_insertionSort, List.length_insertionSort, walk_complete hn]

/-- The chain at a later instant is the earlier one, up to the first link which has ended. -/
theorem chainFor_later (res : ReservationResponse) {now₁ now₂ : Instant} (h : now₁ ≤ now₂) :
    s.chainFor res now₂ = (s.chainFor res now₁).takeWhile fun r => now₂ < slotEnd r := by
  cases hu : res.user with
  | none => simp [ControllerState.chainFor, hu]
  | some user =>
    cases hl : s.effectiveLabel res with
    | none => simp [ControllerState.chainFor, hu, hl]
    | some label =>
      have hlive : ((followers s res user.username label).filter fun r => now₂ < slotEnd r) =
          ((followers s res user.username label).filter fun r => now₁ < slotEnd r).filter
            fun r => now₂ < slotEnd r := by
        rw [List.filter_filter]
        congr 1
        funext r
        by_cases h₂ : now₂ < slotEnd r
        · simp [h₂, h.trans_lt h₂]
        · simp [h₂]
      rw [chainFor_eq_walk s hu hl now₁ le_rfl, chainFor_eq_walk s hu hl now₂
        (n := ((followers s res user.username label).filter fun r => now₁ < slotEnd r).length)
        (by rw [hlive]; exact List.length_filter_le _ _), hlive, walk_filter_lt]

/-- Each link of a chain starts where the one before it ends. -/
lemma chainFor_abuts {res r : ReservationResponse} {now : Instant}
    {l₁ l₂ : List ReservationResponse} (h : s.chainFor res now = l₁ ++ r :: l₂) :
    slotStart r = runEnd slotEnd (slotEnd res) l₁ := by
  cases hu : res.user with
  | none => simp [ControllerState.chainFor, hu] at h
  | some user =>
    cases hl : s.effectiveLabel res with
    | none => simp [ControllerState.chainFor, hu, hl] at h
    | some label =>
      rw [chainFor_eq_walk s hu hl now le_rfl] at h
      exact walk_chain h

/-- The first link of the chain followed at `now₁` which has ended by `now₂`. -/
def endedLink (id : Option Nat) (now₁ now₂ : Instant) : Option ReservationResponse :=
  (id.bind (findReservation s.reservations)).bind fun res =>
    (s.chainFor res now₁).find? fun r => slotEnd r ≤ now₂

lemma computeGuaranteedUntil_later (res : ReservationResponse) {now₁ now₂ : Instant}
    (h : now₁ ≤ now₂) :
    s.computeGuaranteedUntil now₂ res =
      match (s.chainFor res now₁).find? fun r => slotEnd r ≤ now₂ with
      | none => s.computeGuaranteedUntil now₁ res
      | some r => slotStart r := by
  rw [ControllerState.computeGuaranteedUntil, ControllerState.computeGuaranteedUntil,
    chainFor_later s res h]
  cases hf : (s.chainFor res now₁).find? fun r => slotEnd r ≤ now₂ with
  | none =>
    have hall : ∀ r ∈ s.chainFor res now₁, now₂ < slotEnd r := by
      simpa using List.find?_eq_none.mp hf
    rw [List.takeWhile_eq_self_iff.mpr (by simpa using hall)]
  | some r =>
    obtain ⟨hr, l₁, l₂, hsplit, hl₁⟩ := List.find?_eq_some_iff_append.mp hf
    have hcut : (s.chainFor res now₁).takeWhile (fun r => decide (now₂ < slotEnd r)) = l₁ := by
      rw [hsplit, List.takeWhile_append_of_pos (by simpa using hl₁), List.takeWhile_cons_of_neg,
        List.append_nil]
      simpa using hr
    rw [hcut]
    exact (chainFor_abuts s hsplit).symm

/-- The guarantee at `now₂` is what it was at `now₁` exactly when no link of its chain has ended in
between (a link which has ended does no harm only where it is a window running backwards from the
end of the chain). -/
theorem guaranteeEnd_stable_iff (id : Option Nat) {now₁ now₂ e : Instant} (hle : now₁ ≤ now₂)
    (he : s.guaranteeEnd id now₁ = some e) :
    s.guaranteeEnd id now₂ = some e ↔ ∀ r, endedLink s id now₁ now₂ = some r → slotStart r = e := by
  cases id with
  | none => simp [ControllerState.guaranteeEnd] at he
  | some id =>
    simp only [ControllerState.guaranteeEnd, Option.map_eq_some_iff] at he ⊢
    obtain ⟨res, hres, he⟩ := he
    have hlink : endedLink s (some id) now₁ now₂ =
        (s.chainFor res now₁).find? fun r => slotEnd r ≤ now₂ := by
      simp [endedLink, hres]
    simp only [hlink, hres, Option.some.injEq, exists_eq_left', computeGuaranteedUntil_later s res hle]
    cases (s.chainFor res now₁).find? fun r => slotEnd r ≤ now₂ with
    | none => simpa using he
    | some r => simp

/-- A booking of one owner, class and group, with its window. -/
def hourBooking (id : Nat) (start stop : Instant) : ReservationResponse where
  id := id
  userId := some 1
  user := some ⟨1, "alice"⟩
  gpuClassId := 7
  gpuClass := ⟨7, "H100", some "h100"⟩
  startUtc := start
  endUtc := stop
  gpuCount := 1

/-- Three bookings back to back. -/
def threeHours : ControllerState where
  reservations := [hourBooking 1 0 10, hourBooking 2 10 20, hourBooking 3 20 30]

/-- While the middle booking runs the guarantee of the first reaches the end of the third; once the
middle one has ended it falls back to the first one's own end, although the third is running. -/
theorem guaranteeEnd_not_stable :
    ¬ ∀ (s : ControllerState) (id : Option Nat) (now₁ now₂ e : Instant), now₁ ≤ now₂ →
      s.guaranteeEnd id now₁ = some e → now₂ < e → s.guaranteeEnd id now₂ = some e := by
  intro h
  have h30 : threeHours.guaranteeEnd (some 1) 0 = some 30 := by decide
  have h10 : threeHours.guaranteeEnd (some 1) 20 = some 10 := by decide
  have h20 := h threeHours (some 1) 0 20 30 (by decide) h30 (by decide)
  rw [h10] at h20
  exact absurd h20 (by decide)

theorem guaranteeEnd_stable_iff_threeHours :
    threeHours.guaranteeEnd (some 1) 19 = some 30 ↔
      ∀ r, endedLink threeHours (some 1) 0 19 = some r → slotStart r = 30 :=
  guaranteeEnd_stable_iff threeHours (some 1) (by decide) (by decide)

end GpuReservation.Proofs
