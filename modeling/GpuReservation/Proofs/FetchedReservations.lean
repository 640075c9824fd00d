import GpuReservation.Model.System
import GpuReservation.Proofs.Footprints
import GpuReservation.Proofs.NoShow
import GpuReservation.Proofs.WorldHistory

/-!
# What a fetch leaves of the reservations

A fetch replaces the reservations by what its GET was answered and the leases which that answer
leaves out.  The GET is answered before the fetch asks for the lock, so the reservations may have
changed meanwhile.
-/

namespace GpuReservation.Proofs

open GpuReservation.Library GpuReservation.Model

section Lists

variable (rows : List ReservationResponse) (now : Instant)

/-- The leases a fetch keeps although its answer leaves them out. -/
def unlistedLease (r : ReservationResponse) : Bool :=
  r.kind = .onDemand && r.status = .active && r.id ∉ (rows.map (·.id)).toFinset && now < slotEnd r

/-- The reservations after a fetch which was answered with `rows`. -/
def afterFetch (current : List ReservationResponse) : List ReservationResponse :=
  rows.filter (·.status = .active) ++ current.filter (unlistedLease rows now)

lemma afterFetch_eq (s : ControllerState) :
    rows.filter (·.status = .active) ++ s.preserveLocalOndemandLeases rows now =
      afterFetch rows now s.reservations := rfl

lemma filter_unlistedLease_rows :
    (rows.filter (·.status = .active)).filter (unlistedLease rows now) = [] := by
  refine List.filter_eq_nil_iff.mpr fun r hr => ?_
  have hmem : r ∈ rows := (List.mem_filter.mp hr).1
  simp only [unlistedLease, Bool.and_eq_true, decide_eq_true_eq, List.mem_toFinset, not_and, and_imp]
  intro _ _ hlisted
  exact absurd (List.mem_map_of_mem hmem) hlisted

lemma afterFetch_afterFetch (now' : Instant) (current : List ReservationResponse) :
    afterFetch rows now' (afterFetch rows now current) = afterFetch rows (max now now') current := by
  have hboth : ∀ r, (unlistedLease rows now' r && unlistedLease rows now r) =
      unlistedLease rows (max now now') r := by
    intro r
    rw [Bool.eq_iff_iff]
    simp only [unlistedLease, Bool.and_eq_true, decide_eq_true_eq, max_lt_iff]
    tauto
  rw [afterFetch, afterFetch, List.filter_append, filter_unlistedLease_rows, List.nil_append,
    List.filter_filter, afterFetch]
  simp only [hboth]

/-- What a fetch keeps of one reservation, as it is held when the list is replaced: the answer
lists it exactly so, or it is a lease the answer leaves out; one which is held no more is not
listed as active. -/
def survivesFetch (id : Nat) : Option ReservationResponse → Prop
  | none => findReservation (rows.filter (·.status = .active)) id = none
  | some r => findReservation (rows.filter (·.status = .active)) id = some r ∨ unlistedLease rows now r

instance (id : Nat) : ∀ held, Decidable (survivesFetch rows now id held)
  | none => inferInstanceAs (Decidable (_ = none))
  | some r => inferInstanceAs (Decidable (_ = some r ∨ _))

variable {rows now}

lemma findReservation_append (l l' : List ReservationResponse) (id : Nat) :
    findReservation (l ++ l') id = (findReservation l id).or (findReservation l' id) :=
  List.find?_append

lemma findReservation_filter_none {l : List ReservationResponse} {id : Nat}
    (keep : ReservationResponse → Bool) (h : findReservation l id = none) :
    findReservation (l.filter keep) id = none := by
  have habsent : ∀ r ∈ l, ¬ decide (r.id = id) = true := List.find?_eq_none.mp h
  exact List.find?_eq_none.mpr fun r hr => habsent r (List.mem_filter.mp hr).1

/-- The one found is the one found among those kept, exactly if it is kept. -/
lemma findReservation_filter_iff {l : List ReservationResponse} {id : Nat} {r : ReservationResponse}
    (keep : ReservationResponse → Bool) (h : findReservation l id = some r) :
    findReservation (l.filter keep) id = some r ↔ keep r = true := by
  constructor
  · intro hfound
    exact (List.mem_filter.mp (findReservation_mem hfound).1).2
  · intro hkeep
    obtain ⟨hid, before, after, rfl, hbefore⟩ := List.find?_eq_some_iff_append.mp h
    refine List.find?_eq_some_iff_append.mpr
      ⟨hid, before.filter keep, after.filter keep, ?_, fun a ha => hbefore a (List.mem_filter.mp ha).1⟩
    rw [List.filter_append, List.filter_cons_of_pos hkeep]

lemma not_listed_of_unlisted {r : ReservationResponse} (h : unlistedLease rows now r = true) :
    findReservation (rows.filter (·.status = .active)) r.id = none := by
  simp only [unlistedLease, Bool.and_eq_true, decide_eq_true_eq, List.mem_toFinset] at h
  refine List.find?_eq_none.mpr fun r' hr' hid => h.1.2 ?_
  have hsame : r'.id = r.id := by simpa using hid
  rw [← hsame]
  exact List.mem_map_of_mem (List.mem_filter.mp hr').1

lemma findReservation_afterFetch_iff (current : List ReservationResponse) (id : Nat) :
    findReservation (afterFetch rows now current) id = findReservation current id ↔
      survivesFetch rows now id (findReservation current id) := by
  rw [afterFetch, findReservation_append]
  cases hheld : findReservation current id with
  | none =>
    rw [findReservation_filter_none _ hheld, Option.or_none]
    rfl
  | some r =>
    have hid : r.id = id := (findReservation_mem hheld).2
    have hkept := findReservation_filter_iff (unlistedLease rows now) hheld
    cases hlisted : findReservation (rows.filter (·.status = .active)) id with
    | some r' =>
      have hnot : ¬ unlistedLease rows now r = true := by
        intro h
        have hnone := not_listed_of_unlisted h
        rw [hid, hlisted] at hnone
        cases hnone
      rw [Option.some_or, survivesFetch, hlisted]
      simp [hnot]
    | none =>
      rw [Option.none_or, hkept, survivesFetch, hlisted]
      simp

end Lists

section Program

variable {α : Type}

/-- A part which leaves the reservations as they are. -/
def KeepsReservations (p : Ctl α) : Prop :=
  p.Within (fun s s' => s'.reservations = s.reservations) (fun _ => True) fun _ => True

/-- A part which leaves all that the app has told: the reservations, and the class maps. -/
def KeepsAppData (p : Ctl α) : Prop :=
  p.Within (fun s s' => s'.reservations = s.reservations ∧ s'.classMaps = s.classMaps)
    (fun _ => True) fun _ => True

lemma KeepsAppData.keeps {p : Ctl α} (h : KeepsAppData p) : KeepsReservations p :=
  h.mono (fun _ _ hsame => hsame.1) (fun _ _ => trivial) fun _ _ => trivial

lemma get_keeps : KeepsAppData (Prog.get : Ctl ControllerState) := .get fun _ => ⟨rfl, rfl⟩

lemma call_keeps (q : Request) : KeepsAppData (call q) := .ask trivial

lemma modify_keeps {f : ControllerState → ControllerState}
    (h : ∀ s, (f s).reservations = s.reservations ∧ (f s).classMaps = s.classMaps) :
    KeepsAppData (Prog.modify f : Ctl Unit) :=
  .modify h

lemma appData_releasePod (s : ControllerState) (uid : Uid) :
    (s.releasePod uid).reservations = s.reservations ∧ (s.releasePod uid).classMaps = s.classMaps := by
  obtain ⟨_, h⟩ := releasePod_eq s uid
  rw [h]
  exact ⟨rfl, rfl⟩

lemma RelinksOnly.keeps {p : Ctl α} (h : RelinksOnly p) : KeepsAppData p := by
  refine h.mono ?_ (fun _ _ => trivial) fun _ _ => trivial
  rintro s s' ⟨_, rfl⟩
  exact ⟨rfl, rfl⟩

section Parts

variable (config : Config) (now : Instant)

/-- The classes are asked for, and nothing is changed. -/
lemma resolveGpuClassMaps_asks (classIds : List Nat) (prior : GpuClassMaps) :
    (resolveGpuClassMaps classIds prior).Within (fun s s' => s' = s) (fun _ => True) fun _ => True := by
  refine .seq (.ask trivial) fun gpuClasses => .foldlM (fun classId _ maps => ?_) _
  rw [resolveGpuClass]
  split
  · exact .pure trivial
  · exact .seq (.ask trivial) fun _ => .pure trivial

lemma resolveGpuClassMaps_keeps (classIds : List Nat) (prior : GpuClassMaps) :
    KeepsAppData (resolveGpuClassMaps classIds prior) := by
  refine (resolveGpuClassMaps_asks classIds prior).mono ?_ (fun _ h => h) fun _ h => h
  rintro s _ rfl
  exact ⟨rfl, rfl⟩

lemma snapshotToleratedPods_keeps : KeepsAppData snapshotToleratedPods :=
  .seq (call_keeps _) fun _ => .pure trivial

lemma planCancelledReservation_keeps (podSnapshot : List Pod) (evictions : List PodEviction)
    (cancelled : ReservationResponse) :
    KeepsAppData (planCancelledReservation config now podSnapshot evictions cancelled) := by
  rw [planCancelledReservation]
  dsimp only
  split
  · exact .seq (adoptPods_relinks now config _ .replaced).keeps fun _ => .pure trivial
  · exact .pure trivial

lemma executeEviction_keeps (eviction : PodEviction) :
    KeepsAppData (executeEviction eviction) := by
  refine .seq (call_keeps _) fun pod => .seq ?_ fun _ => ?_
  · cases pod with
    | none => exact .pure trivial
    | some p => exact .seq (call_keeps _) fun _ => .pure trivial
  · refine .seq (call_keeps _) fun deleted => ?_
    split
    · exact modify_keeps fun s => appData_releasePod s _
    · exact .pure trivial

lemma trackNoshows_keeps : KeepsAppData (trackNoshows config now) :=
  modify_keeps fun _ => ⟨rfl, rfl⟩

/-- A fetch, once its GET is answered. -/
def refreshFetched (fetched : Option (List ReservationResponse)) : Ctl Unit :=
  match fetched with
  | none => return ()
  | some rows => do
    let s ← Prog.get
    let maps ← resolveGpuClassMaps ((rows.filter (·.status = .active)).map (·.gpuClassId)) s.classMaps
    let now ← call .now
    let evictions ← withReservationLock (applyFetched config rows now maps)
    evictions.forM executeEviction
    let trackedAt ← call .now
    trackNoshows config trackedAt

lemma refreshReservations_eq :
    refreshReservations config = call .fetchReservations >>= refreshFetched config := rfl

end Parts

/-- Each step leaves the reservations, or replaces them as the fetch does, by an instant read since
the GET was answered. -/
def fetching (fetched : Option (List ReservationResponse)) (asked : Instant) :
    Contract ControllerState World Request Choice where
  rely σ σ' := σ.world.clock ≤ σ'.world.clock
  guar σ σ' := σ.world.clock ≤ σ'.world.clock ∧
    (σ'.shared.reservations = σ.shared.reservations ∨ ∃ rows now, fetched = some rows ∧
      asked ≤ now ∧ now ≤ σ'.world.clock ∧
        σ'.shared.reservations = afterFetch rows now σ.shared.reservations)
  issued _ _ := True
  served _ _ := True
  assumed _ _ _ := True
  ended _ := True
  rely_refl _ := le_rfl
  rely_trans := le_trans
  guar_refl _ := ⟨le_rfl, .inl rfl⟩
  guar_trans := by
    rintro σ₁ σ₂ σ₃ ⟨htime, hfirst⟩ ⟨htime', hsecond⟩
    refine ⟨htime.trans htime', ?_⟩
    rcases hsecond with hsame | ⟨rows, now', rfl, hasked', hnow', hreplaced⟩
    · rw [hsame]
      refine hfirst.imp_right ?_
      rintro ⟨rows, now, hrows, hasked, hnow, h⟩
      exact ⟨rows, now, hrows, hasked, hnow.trans htime', h⟩
    · rcases hfirst with hsame | ⟨_, now, hrows, hasked, hnow, h⟩
      · exact .inr ⟨rows, now', rfl, hasked', hnow', hsame ▸ hreplaced⟩
      · cases hrows
        refine .inr ⟨rows, max now now', rfl, hasked.trans (le_max_left _ _),
          max_le (hnow.trans htime') hnow', ?_⟩
        rw [hreplaced, h, afterFetch_afterFetch]

section Focal

variable {fetched : Option (List ReservationResponse)} {rows : List ReservationResponse}
  {asked : Instant} {i : Nat}

/-- The clock has passed an instant. -/
def since (t : Instant) (σ : Snap ControllerState World) : Prop := t ≤ σ.world.clock

lemma since_stable (t : Instant) : Stable (fetching fetched asked) (since t) :=
  fun _ _ hrely h => le_trans h hrely

lemma KeepsAppData.fetching {p : Ctl α} (h : KeepsAppData p) (t : Instant) :
    Triple runtime (fun _ => True) (fetching fetched asked) i (since t) p fun _ => since t := by
  refine (Triple.of_within h.keeps (since_stable t) ?_ ?_ fun q c w hq => answer_of_sync i hq c w).mono
    (fun _ _ h => h) fun _ _ h => h.2
  · intro σ s' hkeeps _ ht
    exact ⟨⟨le_rfl, .inl hkeeps⟩, trivial, ht⟩
  · intro q _ σ _ ht
    refine ⟨trivial, trivial, fun c a w _ hw => ?_⟩
    have htime : σ.world.clock ≤ w.clock := (answer_later hw).clock
    exact ⟨⟨htime, .inl rfl⟩, trivial, ht.trans htime⟩

/-- The clock is read on the spot. -/
lemma now_fetching (t : Instant) :
    Triple runtime (fun _ => True) (fetching fetched asked) i (since t) (call .now)
      fun now σ => t ≤ now ∧ since now σ := by
  refine .ask_sync rfl fun σ _ ht c => ⟨_, _, rfl, ?_, trivial, ?_⟩
  · exact ⟨Int.le_add_of_nonneg_right (Int.natCast_nonneg _), .inl rfl⟩
  · exact ⟨ht.trans (Int.le_add_of_nonneg_right (Int.natCast_nonneg _)), le_rfl⟩

variable (config : Config)

/-- The reservations are replaced before the first suspension after they were read. -/
lemma applyFetched_fetching {now : Instant} (hnow : asked ≤ now) (maps : GpuClassMaps) :
    Triple runtime (fun _ => True) (fetching (some rows) asked) i (since now)
      (applyFetched config rows now maps) fun _ => since now := by
  refine .get_bind fun s => ?_
  have hrest : ∀ evictions : List PodEviction, KeepsAppData (do
      Prog.modify fun s => { s with reservationsKnown := true }
      return evictions) := fun _ => .seq (modify_keeps fun _ => ⟨rfl, rfl⟩) fun _ => .pure trivial
  refine .bind (R := fun _ => since now) ?_ fun evictions => (hrest evictions).fetching now
  rw [reconcileAfterReservationChange]
  refine .bind (R := fun _ σ => σ.shared = s ∧ since now σ) ?_ fun reconciledAt =>
    .modify_bind (M := since now) ?_ ?_
  · refine .ask_sync rfl fun σ _ h c => ⟨_, _, rfl, ?_, trivial, h.1, ?_⟩
    · exact ⟨Int.le_add_of_nonneg_right (Int.natCast_nonneg _), .inl rfl⟩
    · exact h.2.trans (Int.le_add_of_nonneg_right (Int.natCast_nonneg _))
  · rintro σ - ⟨rfl, ht⟩
    obtain ⟨_, _, hinstall⟩ := installReservations_eq σ.shared
      (rows.filter (·.status = .active) ++ σ.shared.preserveLocalOndemandLeases rows now) maps
      reconciledAt
    refine ⟨⟨le_rfl, .inr ⟨rows, now, rfl, hnow, ht, ?_⟩⟩, trivial, ht⟩
    rw [hinstall, ← afterFetch_eq]
  · split
    · exact .pure fun _ _ h => h
    · exact KeepsAppData.fetching (.seq snapshotToleratedPods_keeps fun snapshot =>
        .seq (.foldlM (fun cancelled _ evictions =>
          planCancelledReservation_keeps config now _ evictions cancelled) []) fun _ =>
            .pure trivial) now

lemma refreshFetched_fetching (fetched : Option (List ReservationResponse)) :
    Triple runtime (fun _ => True) (fetching fetched asked) i (since asked)
      (refreshFetched config fetched) fun _ _ => True := by
  cases fetched with
  | none => exact .pure fun _ _ _ => trivial
  | some rows =>
    refine .bind (KeepsAppData.fetching get_keeps asked) fun s =>
      .bind (KeepsAppData.fetching (resolveGpuClassMaps_keeps _ _) asked) fun maps =>
      .bind (now_fetching asked) fun now => .assume fun hnow => ?_
    have hlocked : Triple runtime (fun _ => True) (fetching (some rows) asked) i (since now)
        (withReservationLock (applyFetched config rows now maps)) fun _ => since now :=
      .bind (KeepsAppData.fetching (call_keeps _) now) fun _ =>
        .bind (applyFetched_fetching config hnow maps) fun evictions =>
          KeepsAppData.fetching (.seq (call_keeps _) fun _ => .pure trivial) now
    have hrest : ∀ evictions : List PodEviction, KeepsAppData (do
        evictions.forM executeEviction
        let trackedAt ← call .now
        trackNoshows config trackedAt) := fun evictions =>
      .seq (.forM fun eviction _ => executeEviction_keeps eviction) fun _ =>
        .seq (call_keeps _) fun trackedAt => trackNoshows_keeps config trackedAt
    exact (hlocked.bind fun evictions => (hrest evictions).fetching now).mono (fun _ _ h => h)
      fun _ _ _ => trivial

end Focal

end Program

section Run

variable {L : Type} (body : L → Ctl Unit)

/-- A step of the run changes the reservation. -/
def changedIn (id : Nat) :
    Pool ControllerState World Request Answer L → List (Move L Choice WorldEvent) → Prop
  | _, [] => False
  | p, m :: ms =>
    findReservation (step runtime body outside p m).snap.shared.reservations id ≠
        findReservation p.snap.shared.reservations id ∨
      changedIn id (step runtime body outside p m) ms

instance changedIn.decidable (id : Nat) : ∀ p ms, Decidable (changedIn body id p ms)
  | _, [] => isFalse not_false
  | p, m :: ms =>
    letI := changedIn.decidable id (step runtime body outside p m) ms
    inferInstanceAs (Decidable (_ ≠ _ ∨ _))

/-- Every reservation changed in the run is after the step what it was before it. -/
def keepsChanges (p : Pool ControllerState World Request Answer L)
    (ms : List (Move L Choice WorldEvent)) (m : Move L Choice WorldEvent) : Prop :=
  ∀ id, changedIn body id p ms →
    findReservation (step runtime body outside (runMoves runtime body outside p ms)
        m).snap.shared.reservations id =
      findReservation (runMoves runtime body outside p ms).snap.shared.reservations id

/-- Every reservation changed in the run would survive a fetch. -/
def changesSurvive (rows : List ReservationResponse) (now : Instant)
    (p : Pool ControllerState World Request Answer L) (ms : List (Move L Choice WorldEvent)) : Prop :=
  ∀ id, changedIn body id p ms → survivesFetch rows now id
    (findReservation (runMoves runtime body outside p ms).snap.shared.reservations id)

variable {body}

lemma fetching_relies {fetched : Option (List ReservationResponse)} {asked : Instant} {i : Nat}
    (p : Pool ControllerState World Request Answer L) (m : Move L Choice WorldEvent) :
    focusMeets runtime (fun _ => True) (fetching fetched asked) i body outside p m := by
  have hlater : Later p.snap.world (step runtime body outside p m).snap.world :=
    step_world Later.refl (fun _ _ _ => Later.trans) (fun _ _ _ _ _ _ => answer_later)
      (fun e σ => effect_later e σ.world) p m
  exact ⟨fun _ => ⟨hlater.clock, trivial⟩, fun _ _ _ => trivial⟩

/-- A fetch among any other tasks, from its start on.  The step in which it replaces the
reservations leaves every change made since its GET was answered in effect exactly if each
reservation changed survives. -/
theorem refreshReservations_keepsChanges_iff (body : L → Ctl Unit) (config : Config) (i : Nat) (l : L)
    (p asked held : Pool ControllerState World Request Answer L) (cs : List Choice) (c : Choice)
    (before ms : List (Move L Choice WorldEvent)) (m : Move L Choice WorldEvent)
    (hi : p.tasks[i]? = some (l, .ready (refreshReservations config)))
    (hbefore : ∀ m ∈ before, m.task? ≠ some i)
    (hasked : asked = runMoves runtime body outside p (.run i cs :: before))
    (hheld : held = runMoves runtime body outside asked (.serve i c :: ms))
    (hm : m.task? = some i)
    (hreplaced : (step runtime body outside held m).snap.shared.reservations ≠
      held.snap.shared.reservations) :
    ∃ rows now, answer i .fetchReservations c asked.snap.world =
        some (some rows, asked.snap.world) ∧
      asked.snap.world.clock ≤ now ∧ now ≤ (step runtime body outside held m).snap.world.clock ∧
      (keepsChanges body asked (.serve i c :: ms) m ↔
        changesSurvive body rows now asked (.serve i c :: ms)) := by
  subst hasked hheld
  set asked := runMoves runtime body outside p (.run i cs :: before)
  set held := runMoves runtime body outside asked (.serve i c :: ms)
  have hlt : i < p.tasks.length := (List.getElem?_eq_some_iff.mp hi).1
  have hget : (step runtime body outside p (.run i cs)).tasks[i]? =
      some (l, .waiting .fetchReservations (refreshFetched config)) := by
    simp only [step, hi, Pool.setTask]
    rw [List.getElem?_set_self hlt]
    rfl
  have hwaits : asked.tasks[i]? = some (l, .waiting .fetchReservations (refreshFetched config)) :=
    runMoves_task_other (p := step runtime body outside p (.run i cs)) hget hbefore
  obtain ⟨fetched, hans⟩ : ∃ fetched, answer i .fetchReservations c asked.snap.world =
      some (fetched, asked.snap.world) := ⟨_, rfl⟩
  have hserved : step runtime body outside asked (.serve i c) =
      asked.setTask i l (.ready (refreshFetched config fetched)) asked.snap := by
    simp only [step, hwaits, runtime, hans]
  have hltAsked : i < asked.tasks.length := (List.getElem?_eq_some_iff.mp hwaits).1
  have hstart : focusOk runtime (fun _ => True) (fetching fetched asked.snap.world.clock) i
      (step runtime body outside asked (.serve i c)) := by
    refine ⟨trivial, l, .ready (refreshFetched config fetched), ?_, ?_⟩
    · rw [hserved, Pool.setTask, List.getElem?_set_self hltAsked]
    · rw [hserved]
      exact taskOk_ready (since_stable _) (refreshFetched_fetching config fetched) le_rfl
  have hheld : focusOk runtime (fun _ => True) (fetching fetched asked.snap.world.clock) i held :=
    focus_runMoves (p := step runtime body outside asked (.serve i c)) hstart
      (runMeets_of_forall fetching_relies _ ms)
  have hguar : (fetching fetched asked.snap.world.clock).guar held.snap
      (step runtime body outside held m).snap :=
    focusOk_guar hheld hm fun _ _ _ => trivial
  obtain ⟨-, hsame | ⟨rows, now, rfl, hasked, hnow, hlist⟩⟩ := hguar
  · exact absurd hsame hreplaced
  · refine ⟨rows, now, hans, hasked, hnow, forall_congr' fun id => imp_congr_right fun _ => ?_⟩
    rw [hlist]
    exact findReservation_afterFetch_iff _ id

end Run

/-- A booking which the app lists no more is held; a fetch and a push are about to begin. -/
def fetchAndPush : System where
  snap :=
    { shared := { reservations := [{ abandonedBooking with id := 2 }] }
      world := { clock := 1 } }
  tasks := [(.fetch, .ready (refreshReservations {})),
    (.push [abandonedBooking], .ready (pushReservations {} [abandonedBooking]))]

/-- The booking is made in the app. -/
def bookingMade : SystemMove := .event (.rowChanged abandonedBooking)

/-- The push is carried out. -/
def pushApplied : List SystemMove :=
  [.run 1 [], .serve 1 {}, .run 1 [], .serve 1 {}, .run 1 [], .serve 1 {}, .run 1 []]

/-- The GET is answered once the booking was made. -/
def askedOnceMade : System := systemRun {} fetchAndPush [.run 0 [], bookingMade]

/-- The push is applied while the fetch goes on. -/
def fetchLocked : List SystemMove :=
  [.serve 0 { listing := [1] }] ++ pushApplied ++
    [.run 0 [], .serve 0 {}, .run 0 [], .serve 0 {}, .run 0 [], .serve 0 {}]

lemma fetchLocked_replaces :
    (systemStep {} (systemRun {} askedOnceMade fetchLocked) (.run 0 [])).snap.shared.reservations ≠
      (systemRun {} askedOnceMade fetchLocked).snap.shared.reservations := by
  decide +kernel

theorem refreshReservations_keepsChanges_iff_listed :
    ∃ rows now, answer 0 .fetchReservations { listing := [1] } askedOnceMade.snap.world =
        some (some rows, askedOnceMade.snap.world) ∧
      askedOnceMade.snap.world.clock ≤ now ∧
      now ≤ (systemStep {} (systemRun {} askedOnceMade fetchLocked) (.run 0 [])).snap.world.clock ∧
      (keepsChanges (Job.program {}) askedOnceMade fetchLocked (.run 0 []) ↔
        changesSurvive (Job.program {}) rows now askedOnceMade fetchLocked) :=
  refreshReservations_keepsChanges_iff (Job.program {}) {} 0 .fetch fetchAndPush askedOnceMade
    (systemRun {} askedOnceMade fetchLocked) [] { listing := [1] } [bookingMade] _ (.run 0 []) rfl
    (by decide +kernel) rfl rfl rfl fetchLocked_replaces

/-- The booking is made and pushed after the GET was answered. -/
theorem refreshReservations_not_keepsChanges :
    ¬ ∀ (config : Config) (i : Nat) (l : Job) (p : System) (cs : List Choice) (c : Choice)
      (before ms : List SystemMove) (m : SystemMove),
      p.tasks[i]? = some (l, .ready (refreshReservations config)) →
        (∀ m ∈ before, m.task? ≠ some i) → m.task? = some i →
          keepsChanges (Job.program config)
            (runMoves runtime (Job.program config) outside p (.run i cs :: before))
            (.serve i c :: ms) m := by
  intro h
  have hkept := h {} 0 .fetch fetchAndPush [] {} []
    (bookingMade :: pushApplied ++ [.run 0 [], .serve 0 {}, .run 0 [], .serve 0 {}]) (.run 0 []) rfl
    (fun _ hm => absurd hm List.not_mem_nil) rfl 1 (by decide +kernel)
  revert hkept
  decide +kernel

end GpuReservation.Proofs
