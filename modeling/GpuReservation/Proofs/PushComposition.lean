import GpuReservation.Proofs.GuaranteeStability
import GpuReservation.Proofs.UniqueReservations

/-!
# One push after another
-/

namespace GpuReservation.Proofs

open GpuReservation.Library GpuReservation.Model

/-- What the records of a push make of the reservations. -/
structure Pushed (current pushed result : List ReservationResponse) : Prop where
  once : (result.map (·.id)).Nodup
  last : ∀ before r after, pushed = before ++ r :: after → r.id ∉ after.map (·.id) →
    ∀ r', r' ∈ result ∧ r'.id = r.id ↔ r' = r ∧ r.status = .active
  rest : result.filter (fun r => r.id ∉ pushed.map (·.id)) =
    current.filter fun r => r.id ∉ pushed.map (·.id)

variable {current pushed : List ReservationResponse}

lemma KeyedById.pairs {d : Dict Nat ReservationResponse} (h : KeyedById d) :
    (d.values.map fun r => (r.id, r)) = d.entries := by
  rw [Dict.values, List.map_map]
  refine (List.map_congr_left fun e he => ?_).trans (List.map_id _)
  exact Prod.ext (h e.1 e.2 (Dict.get?_eq_some_iff.mpr he)) rfl

/-- The reservations held after a push, by id, are those the push left. -/
lemma ofList_applyPushToActive (current pushed : List ReservationResponse) :
    Dict.ofList ((applyPushToActive current pushed).map fun r => (r.id, r)) =
      pushed.foldl pushStep (Dict.ofList (current.map fun r => (r.id, r))) := by
  rw [applyPushToActive, (keyedById_foldl (keyedById_ofList current) pushed).pairs,
    Dict.ofList_entries]

lemma applyPushToActive_append (current pushed₁ pushed₂ : List ReservationResponse) :
    applyPushToActive (applyPushToActive current pushed₁) pushed₂ =
      applyPushToActive current (pushed₁ ++ pushed₂) := by
  rw [applyPushToActive, ofList_applyPushToActive, ← List.foldl_append, ← applyPushToActive]

lemma filter_entries_foldl_pushStep {p : Nat → Bool} (d : Dict Nat ReservationResponse)
    (hp : ∀ r ∈ pushed, p r.id = false) :
    (pushed.foldl pushStep d).entries.filter (fun e => p e.1) = d.entries.filter fun e => p e.1 := by
  induction pushed generalizing d with
  | nil => rfl
  | cons r pushed ih =>
    have hr := hp r List.mem_cons_self
    rw [List.foldl_cons, ih _ fun r' hr' => hp r' (List.mem_cons_of_mem r hr'), pushStep]
    split
    · exact Dict.filter_entries_set hr d r
    · exact Dict.filter_entries_erase hr d

/-- Reservations under distinct ids are held as they come. -/
lemma values_ofList (hids : (current.map (·.id)).Nodup) :
    (Dict.ofList (current.map fun r => (r.id, r))).entries = current.map fun r => (r.id, r) := by
  have hkeys : ((current.map fun r => (r.id, r)).map Prod.fst).Nodup := by
    rw [List.map_map]
    exact hids
  exact congrArg Dict.entries (Dict.ofList_entries ⟨current.map fun r => (r.id, r), hkeys⟩)

lemma filter_applyPushToActive {p : Nat → Bool} (hids : (current.map (·.id)).Nodup)
    (hp : ∀ r ∈ pushed, p r.id = false) :
    (applyPushToActive current pushed).filter (fun r => p r.id) = current.filter fun r => p r.id := by
  have hkeyed := keyedById_foldl (keyedById_ofList current) pushed
  have hentries := filter_entries_foldl_pushStep
    (Dict.ofList (current.map fun r => (r.id, r))) hp
  rw [values_ofList hids, ← hkeyed.pairs, List.filter_map, List.filter_map] at hentries
  have hvalues := congrArg (List.map Prod.snd) hentries
  simpa [Function.comp_def, applyPushToActive] using hvalues

lemma pushed_applyPushToActive (hids : (current.map (·.id)).Nodup)
    (pushed : List ReservationResponse) :
    Pushed current pushed (applyPushToActive current pushed) := by
  refine ⟨nodup_applyPushToActive current pushed, fun before r after hsplit hlast r' => ?_, ?_⟩
  · have hfinal : finalRecord pushed r.id = some r := by
      have hnone : after.filter (fun r' => r'.id = r.id) = [] := by
        refine List.filter_eq_nil_iff.mpr fun r' hr' hid => hlast ?_
        exact of_decide_eq_true hid ▸ List.mem_map_of_mem (f := fun r => r.id) hr'
      rw [finalRecord, hsplit, List.filter_append, List.filter_cons_of_pos (by simp),
        hnone, List.getLast?_concat]
    constructor
    · rintro ⟨hmem, hid⟩
      exact (mem_applyPushToActive_of_named (hid ▸ hfinal)).mp hmem
    · rintro ⟨rfl, hactive⟩
      exact ⟨(mem_applyPushToActive_of_named hfinal).mpr ⟨rfl, hactive⟩, rfl⟩
  · exact filter_applyPushToActive (p := fun id => id ∉ pushed.map (·.id)) hids fun r hr =>
      decide_eq_false fun hnot => hnot (List.mem_map_of_mem hr)

/-- Two pushes leave what the one with the records of both would. -/
theorem applyPushToActive_composes (current pushed₁ pushed₂ : List ReservationResponse)
    (hids : (current.map (·.id)).Nodup) :
    applyPushToActive (applyPushToActive current pushed₁) pushed₂ =
        applyPushToActive current (pushed₁ ++ pushed₂) ∧
      Pushed current (pushed₁ ++ pushed₂)
        (applyPushToActive (applyPushToActive current pushed₁) pushed₂) := by
  have happend := applyPushToActive_append current pushed₁ pushed₂
  refine ⟨happend, ?_⟩
  rw [happend]
  exact pushed_applyPushToActive hids (pushed₁ ++ pushed₂)

/-- One reservation is cancelled and comes back last, one stays and one is cancelled for good. -/
theorem applyPushToActive_composes_cameBack :
    applyPushToActive (applyPushToActive [hourBooking 1 0 10, hourBooking 2 0 10, hourBooking 3 0 10]
        [{ hourBooking 1 0 10 with status := .cancelled }])
        [hourBooking 1 0 20, { hourBooking 3 0 10 with status := .cancelled }] =
      [hourBooking 2 0 10, hourBooking 1 0 20] := by
  have h := (applyPushToActive_composes
    [hourBooking 1 0 10, hourBooking 2 0 10, hourBooking 3 0 10]
    [{ hourBooking 1 0 10 with status := .cancelled }]
    [hourBooking 1 0 20, { hourBooking 3 0 10 with status := .cancelled }] (by decide)).1
  rw [h]
  decide

end GpuReservation.Proofs
