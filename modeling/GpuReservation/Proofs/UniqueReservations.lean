import GpuReservation.Library.Machine
import GpuReservation.Proofs.NoShow

/-!
# Each reservation is held once

What a push makes of the reservations, id by id, and when every id is held at most once.
-/

namespace GpuReservation.Proofs

open GpuReservation.Library GpuReservation.Model

section Push

/-- Reservations stand under their own ids. -/
def KeyedById (d : Dict Nat ReservationResponse) : Prop := ∀ id r, d.get? id = some r → r.id = id

lemma keyedById_ofList (l : List ReservationResponse) :
    KeyedById (Dict.ofList (l.map fun r => (r.id, r))) := by
  intro id r h
  obtain ⟨r', -, he⟩ := List.mem_map.mp (Dict.mem_of_get?_ofList h)
  obtain ⟨rfl, rfl⟩ := Prod.mk.inj he
  rfl

lemma keyedById_pushStep {d : Dict Nat ReservationResponse} (hd : KeyedById d)
    (r : ReservationResponse) : KeyedById (pushStep d r) := by
  intro id r' h
  rw [pushStep] at h
  split at h
  · rw [Dict.get?_set] at h
    split at h
    · rename_i hid
      rw [← Option.some_inj.mp h, hid]
    · exact hd id r' h
  · exact hd id r' (Dict.get?_of_get?_erase h)

lemma keyedById_foldl {d : Dict Nat ReservationResponse} (hd : KeyedById d)
    (pushed : List ReservationResponse) : KeyedById (pushed.foldl pushStep d) := by
  induction pushed generalizing d with
  | nil => exact hd
  | cons r pushed ih => exact ih (keyedById_pushStep hd r)

lemma KeyedById.map_values {d : Dict Nat ReservationResponse} (hd : KeyedById d) :
    d.values.map (·.id) = d.keys := by
  rw [Dict.values, List.map_map, Dict.keys]
  refine List.map_congr_left fun e he => ?_
  exact hd e.1 e.2 (Dict.get?_eq_some_iff.mpr he)

/-- A push leaves every id once, however often it names it. -/
lemma nodup_applyPushToActive (current pushed : List ReservationResponse) :
    ((applyPushToActive current pushed).map (·.id)).Nodup := by
  rw [applyPushToActive, (keyedById_foldl (keyedById_ofList current) pushed).map_values]
  exact Dict.nodup _

/-- The last record of a push which names the id. -/
def finalRecord (pushed : List ReservationResponse) (id : Nat) : Option ReservationResponse :=
  (pushed.filter fun r => r.id = id).getLast?

lemma finalRecord_snoc (pushed : List ReservationResponse) (r : ReservationResponse) (id : Nat) :
    finalRecord (pushed ++ [r]) id = if r.id = id then some r else finalRecord pushed id := by
  rw [finalRecord, List.filter_append]
  by_cases hid : r.id = id
  · rw [if_pos hid, List.filter_cons_of_pos (by simpa using hid), List.filter_nil,
      List.getLast?_concat]
  · rw [if_neg hid, List.filter_cons_of_neg (by simpa using hid), List.filter_nil, List.append_nil,
      finalRecord]

lemma finalRecord_isSome {pushed : List ReservationResponse} {r : ReservationResponse}
    (h : r ∈ pushed) : (finalRecord pushed r.id).isSome := by
  rw [finalRecord, List.getLast?_isSome]
  exact List.ne_nil_of_mem (List.mem_filter.mpr ⟨h, decide_eq_true rfl⟩)

lemma finalRecord_id {pushed : List ReservationResponse} {id : Nat} {r : ReservationResponse}
    (h : finalRecord pushed id = some r) : r ∈ pushed ∧ r.id = id := by
  have hmem := List.mem_filter.mp (List.mem_of_getLast? h)
  exact ⟨hmem.1, of_decide_eq_true hmem.2⟩

/-- What is held under an id after a push which names it is what its last record says. -/
lemma get?_foldl_pushStep (d : Dict Nat ReservationResponse) (pushed : List ReservationResponse)
    (id : Nat) :
    (pushed.foldl pushStep d).get? id =
      ((finalRecord pushed id).map fun r => if r.status = .active then some r else none).getD
        (d.get? id) := by
  induction pushed using List.reverseRecOn with
  | nil => rfl
  | append_singleton pushed r ih =>
    rw [List.foldl_append, List.foldl_cons, List.foldl_nil, finalRecord_snoc, pushStep]
    by_cases hid : r.id = id
    · subst hid
      rw [if_pos rfl, Option.map_some, Option.getD_some]
      split <;> simp
    · rw [if_neg hid, ← ih]
      split
      · exact Dict.get?_set_of_ne _ _ (Ne.symm hid)
      · exact Dict.get?_erase_of_ne _ (Ne.symm hid)

lemma mem_applyPushToActive {current pushed : List ReservationResponse} {r : ReservationResponse} :
    r ∈ applyPushToActive current pushed ↔
      (pushed.foldl pushStep (Dict.ofList (current.map fun r => (r.id, r)))).get? r.id = some r := by
  rw [applyPushToActive, Dict.mem_values_iff]
  constructor
  · rintro ⟨id, h⟩
    have hid : r.id = id := keyedById_foldl (keyedById_ofList current) pushed id r h
    rwa [hid]
  · intro h
    exact ⟨r.id, h⟩

/-- A record which a push names is held after it exactly if it is the last and active. -/
lemma mem_applyPushToActive_of_named {current pushed : List ReservationResponse}
    {r last : ReservationResponse} (h : finalRecord pushed r.id = some last) :
    r ∈ applyPushToActive current pushed ↔ r = last ∧ last.status = .active := by
  rw [mem_applyPushToActive, get?_foldl_pushStep, h, Option.map_some, Option.getD_some]
  split
  · rename_i hactive
    rw [Option.some_inj]
    exact ⟨fun he => ⟨he.symm, hactive⟩, fun he => he.1.symm⟩
  · rename_i hnot
    exact ⟨nofun, fun he => absurd he.2 hnot⟩

end Push

section Updates

variable {s : ControllerState}

/-- The pages a fetch is answered: up to the first which is not full. -/
def pagesRead : List (Option (List ReservationResponse)) → List (List ReservationResponse)
  | some page :: pages => if page.length < pageLimit then [page] else page :: pagesRead pages
  | _ => []

lemma fetchPages_eq {pages : List (Option (List ReservationResponse))}
    {rows : List ReservationResponse} (h : fetchPages pages = some rows) :
    rows = (pagesRead pages).flatten := by
  induction pages generalizing rows with
  | nil => cases h
  | cons page pages ih =>
    cases page with
    | none => cases h
    | some page =>
      rw [fetchPages] at h
      rw [pagesRead]
      split at h
      · rename_i hlast
        rw [if_pos hlast, ← Option.some_inj.mp h, List.flatten_singleton]
      · rename_i hfull
        obtain ⟨rest, hrest, rfl⟩ := Option.map_eq_some_iff.mp h
        rw [if_neg hfull, List.flatten_cons, ih hrest]

/-- Every id is held once at most. -/
def HeldOnce (s : ControllerState) : Prop := (s.reservations.map (·.id)).Nodup

instance : DecidablePred HeldOnce := fun _ => inferInstanceAs (Decidable (List.Nodup _))

/-- The pages of a fetch whose requests are all answered repeat no active id. -/
def RepeatsNone (_ : ControllerState) : ReservationUpdate → Prop
  | .fetched pages _ _ => (fetchPages pages).isSome →
      (((pagesRead pages).flatten.filter (·.status = .active)).map (·.id)).Nodup
  | _ => True

lemma nodup_afterFetch_iff (hs : HeldOnce s) (rows : List ReservationResponse) (now : Instant) :
    ((rows.filter (·.status = .active) ++ s.preserveLocalOndemandLeases rows now).map (·.id)).Nodup ↔
      ((rows.filter (·.status = .active)).map (·.id)).Nodup := by
  rw [List.map_append, List.nodup_append]
  refine ⟨fun h => h.1, fun h => ⟨h, hs.sublist (List.filter_sublist.map _), ?_⟩⟩
  rintro id hfetched id' hkept rfl
  obtain ⟨r, hr, rfl⟩ := List.mem_map.mp hfetched
  obtain ⟨r', hr', hid⟩ := List.mem_map.mp hkept
  -- a lease which is kept is not listed
  have hunlisted := (List.mem_filter.mp hr').2
  simp only [Bool.and_eq_true, decide_eq_true_eq, List.mem_toFinset] at hunlisted
  exact hunlisted.1.2 (hid ▸ List.mem_map_of_mem (List.mem_filter.mp hr).1)

lemma reservations_installReservations (active : List ReservationResponse) (maps : GpuClassMaps)
    (now : Instant) : (s.installReservations active maps now).reservations = active := by
  obtain ⟨_, _, h⟩ := installReservations_eq s active maps now
  rw [h]

/-- One change of the reservations. -/
lemma heldOnce_updateReservations_iff (hs : HeldOnce s) (u : ReservationUpdate) :
    HeldOnce (s.updateReservations u) ↔ RepeatsNone s u := by
  cases u with
  | fetched pages now maps =>
    rw [RepeatsNone, ControllerState.updateReservations]
    cases hrows : fetchPages pages with
    | none => exact iff_of_true hs nofun
    | some rows =>
      dsimp only
      rw [HeldOnce, reservations_installReservations, nodup_afterFetch_iff hs, fetchPages_eq hrows]
      exact ⟨fun h _ => h, fun h => h rfl⟩
  | pushed records now maps =>
    refine iff_of_true ?_ trivial
    rw [HeldOnce, ControllerState.updateReservations, reservations_installReservations]
    exact nodup_applyPushToActive _ _
  | granted lease entry => exact iff_of_true (nodup_applyPushToActive _ _) trivial
  | cancelled id => exact iff_of_true (hs.sublist (List.filter_sublist.map _)) trivial

end Updates

/-- From the start of the controller on, however the reservations are fetched, pushed, granted and
cancelled, every id is held once exactly if no fetch was answered one active id twice. -/
theorem reservationIds_unique_iff (us : List ReservationUpdate) :
    throughout ControllerState.updateReservations HeldOnce {} us ↔
      respects ControllerState.updateReservations RepeatsNone {} us :=
  throughout_iff_respects (D := fun _ _ => True) (fun _ u hs _ => heldOnce_updateReservations_iff hs u)
    List.nodup_nil (respects_of_forall fun _ _ _ => trivial)

/-- A full page of bookings, and a second page which repeats the last of them. -/
def shiftedPages : List (Option (List ReservationResponse)) :=
  [some ((List.range pageLimit).map numbered), some [numbered (pageLimit - 1)]]
where
  numbered (id : Nat) : ReservationResponse :=
    { id, gpuClassId := 1, gpuClass := { id := 1, name := "c" }, startUtc := 0, endUtc := minutes 60,
      gpuCount := 1 }

theorem reservationIds_not_unique :
    ¬ ∀ us, throughout ControllerState.updateReservations HeldOnce {} us := by
  intro h
  have hrun := (h [.fetched shiftedPages 0 .empty]).2
  have htwice : ¬ HeldOnce
      (({} : ControllerState).updateReservations (.fetched shiftedPages 0 .empty)) := by
    decide +kernel
  exact htwice hrun

end GpuReservation.Proofs
