import GpuReservation.Proofs.NoShow

/-!
# A booking a queued pod waits for is not declared a no-show
-/

namespace GpuReservation.Proofs

open GpuReservation.Library GpuReservation.Model

/-- A queued pod waits for the reservation, and asks for no more than all its GPUs. -/
def awaited (s : ControllerState) (rid : Nat) : Prop :=
  ∃ uid ref, s.taskQueue.get? uid = some ref ∧ (s.entry ref).reservation.id = rid ∧
    (s.entry ref).gpuRequested ≤ (s.entry ref).reservation.gpuCount

/-- No awaited reservation becomes a no-show by a check. -/
def checkSpares (s : ControllerState) (op : NoShowOp) : Prop :=
  ∀ now, op = .check now → ∀ rid, awaited s rid →
    rid ∈ (op.apply s).noshowReservationIds → rid ∈ s.noshowReservationIds

/-- A refresh arms no reservation a queued pod waits for, and leaves no pod waiting for one which is
armed already. -/
def refreshSpares (s : ControllerState) : NoShowOp → Prop
  | .install active maps now => ∀ rid, awaited (s.installReservations active maps now) rid →
      rid ∉ s.noshowDeadlines
  | .track now _ _ => ∀ r ∈ s.reservations, awaited s r.id → ¬ Armable s now r
  | _ => True

/-- The queue holds references to entries which have been made. -/
def queueRefs (s : ControllerState) : Prop :=
  ∀ uid ref, s.taskQueue.get? uid = some ref → ref < s.entries.next

/-- What a queued pod waits for has no deadline. -/
structure AwaitedUnarmed (s : ControllerState) : Prop where
  refs : queueRefs s
  unarmed : ∀ rid, awaited s rid → rid ∉ s.noshowDeadlines

section Step

variable {s : ControllerState}

lemma awaited_congr {s' : ControllerState} (hqueue : s'.taskQueue = s.taskQueue)
    (hentries : s'.entries = s.entries) {rid : Nat} : awaited s' rid ↔ awaited s rid := by
  rw [awaited, awaited, hqueue]
  simp only [ControllerState.entry, hentries]

/-- Deadlines are cleared, and the queue is left alone. -/
lemma AwaitedUnarmed.cleared {s' : ControllerState} (hs : AwaitedUnarmed s)
    (hqueue : s'.taskQueue = s.taskQueue) (hentries : s'.entries = s.entries)
    (hdeadlines : ∀ rid d, s'.noshowDeadlines.get? rid = some d →
      s.noshowDeadlines.get? rid = some d) : AwaitedUnarmed s' := by
  refine ⟨fun uid ref h => ?_, fun rid hrid harmed => ?_⟩
  · rw [hqueue] at h
    rw [hentries]
    exact hs.refs uid ref h
  · obtain ⟨d, hd⟩ := Dict.mem_iff_get?.mp harmed
    exact hs.unarmed rid ((awaited_congr hqueue hentries).mp hrid)
      (Dict.mem_iff_get?.mpr ⟨d, hdeadlines rid d hd⟩)

lemma queueRefs_dequeuePod (hs : queueRefs s) (uid : Uid) : queueRefs (s.dequeuePod uid) :=
  fun u ref h => hs u ref (Dict.get?_of_get?_erase h)

lemma queueRefs_queueEntry (hs : queueRefs s) (uid : Uid) (e : QueueEntry) :
    queueRefs (s.queueEntry uid e) := by
  intro u ref h
  change (s.taskQueue.set uid s.entries.next).get? u = some ref at h
  change ref < (s.entries.alloc e).next
  rw [Heap.next_alloc]
  rw [Dict.get?_set] at h
  split at h
  · cases h
    exact Nat.lt_succ_self _
  · exact Nat.lt_succ_of_lt (hs u ref h)

lemma awaitedUnarmed_dequeuePod (hs : AwaitedUnarmed s) (uid : Uid) :
    AwaitedUnarmed (s.dequeuePod uid) := by
  refine ⟨queueRefs_dequeuePod hs.refs uid, ?_⟩
  rintro rid ⟨u, ref, h, hwaits⟩
  exact hs.unarmed rid ⟨u, ref, Dict.get?_of_get?_erase h, hwaits⟩

/-- The entry is new, and what it waits for has no deadline. -/
lemma awaitedUnarmed_queueEntry (hs : AwaitedUnarmed s) (uid : Uid) (e : QueueEntry)
    (hnew : e.reservation.id ∉ s.noshowDeadlines) : AwaitedUnarmed (s.queueEntry uid e) := by
  refine ⟨queueRefs_queueEntry hs.refs uid e, ?_⟩
  rintro rid ⟨u, ref, h, hrid, hfits⟩
  change (s.taskQueue.set uid s.entries.next).get? u = some ref at h
  change ((s.entries.alloc e).read ref).reservation.id = rid at hrid
  change ((s.entries.alloc e).read ref).gpuRequested ≤
    ((s.entries.alloc e).read ref).reservation.gpuCount at hfits
  rw [Dict.get?_set] at h
  split at h
  · cases h
    rw [Heap.read_alloc_next] at hrid
    exact hrid ▸ hnew
  · rw [Heap.read_alloc_of_lt (hs.refs u ref h)] at hrid hfits
    exact hs.unarmed rid ⟨u, ref, h, hrid, hfits⟩

lemma awaitedUnarmed_enqueuePod (hs : AwaitedUnarmed s) (uid : Uid) (name ns label : String)
    (gpus : Nat) (group : Option String) (reservation : ReservationResponse) (now : Instant) :
    AwaitedUnarmed (s.enqueuePod uid name ns label gpus group reservation now) := by
  have hcleared : AwaitedUnarmed
      { s with noshowDeadlines := s.noshowDeadlines.erase reservation.id } :=
    hs.cleared rfl rfl fun _ _ h => Dict.get?_of_get?_erase h
  unfold ControllerState.enqueuePod
  dsimp only
  split
  · exact hcleared
  · exact awaitedUnarmed_queueEntry hcleared uid _ fun h => (Dict.mem_erase.mp h).1 rfl

lemma requeueStale_cases (s : ControllerState) (now : Instant) (queued : Uid × Ref) :
    s.requeueStale now queued = s.dequeuePod queued.1 ∨
      ∃ e, s.requeueStale now queued = (s.dequeuePod queued.1).queueEntry queued.1 e := by
  unfold ControllerState.requeueStale
  dsimp only
  split
  · exact .inl rfl
  · exact .inr ⟨_, rfl⟩

lemma queueRefs_installReservations (hs : queueRefs s) (active : List ReservationResponse)
    (maps : GpuClassMaps) (now : Instant) : queueRefs (s.installReservations active maps now) := by
  have hstale : ∀ (l : List (Uid × Ref)) (t : ControllerState), queueRefs t →
      queueRefs (l.foldl (fun s queued => s.requeueStale now queued) t) := by
    intro l
    induction l with
    | nil => exact fun _ h => h
    | cons queued l ih =>
      intro t ht
      have hout := queueRefs_dequeuePod ht queued.1
      refine ih (t.requeueStale now queued) ?_
      rcases requeueStale_cases t now queued with h | ⟨e, h⟩
      · rw [h]
        exact hout
      · rw [h]
        exact queueRefs_queueEntry hout queued.1 e
  have hrepoint : ∀ (byId : Dict Nat ReservationResponse) (refs : List Ref) (h : Heap QueueEntry),
      (refs.foldl (fun h ref => h.modify ref (ControllerState.repoint byId)) h).next = h.next := by
    intro byId refs
    induction refs with
    | nil => exact fun _ => rfl
    | cons ref refs ih => exact fun h => (ih _).trans (Heap.next_modify h ref _)
  refine hstale _ _ fun uid ref h => ?_
  rw [hrepoint]
  exact hs uid ref h

/-- One operation arms nothing a queued pod waits for, and declares nothing a queued pod waits for. -/
theorem awaitedUnarmed_apply (s : ControllerState) (op : NoShowOp) (hs : AwaitedUnarmed s)
    (hop : refreshSpares s op) : AwaitedUnarmed (op.apply s) ∧ checkSpares s op := by
  cases op with
  | install active maps now =>
    refine ⟨⟨queueRefs_installReservations hs.refs active maps now, fun rid hrid => ?_⟩,
      fun _ h => by cases h⟩
    obtain ⟨_, _, h⟩ := installReservations_eq s active maps now
    have hunarmed := hop rid hrid
    rw [NoShowOp.apply, h]
    exact hunarmed
  | reconcile =>
    exact ⟨hs.cleared rfl rfl fun _ _ h => Dict.get?_of_get?_filter h, fun _ h => by cases h⟩
  | track now timeoutMinutes graceMinutes =>
    refine ⟨⟨hs.refs, fun rid hrid harmed => ?_⟩, fun _ h => by cases h⟩
    obtain ⟨d, hd⟩ := Dict.mem_iff_get?.mp harmed
    rcases get?_updateNoshowTracking hd with hold | ⟨r, hr, rfl, harm, -⟩
    · exact hs.unarmed rid hrid (Dict.mem_iff_get?.mpr ⟨d, hold⟩)
    · exact hop r hr hrid harm
  | check now =>
    obtain ⟨deadlines, declared, pending, h, hd, hn, -⟩ := checkNoshowDeadlines_eq s now
    refine ⟨?_, ?_⟩
    · rw [NoShowOp.apply, h]
      exact hs.cleared rfl rfl hd
    · intro now' hnow rid hrid hdeclared
      rw [NoShowOp.apply, h] at hdeclared
      rcases hn rid hdeclared with hold | ⟨d, -, harmed⟩
      · exact hold
      · exact absurd (Dict.mem_iff_get?.mpr ⟨d, harmed⟩) (hs.unarmed rid hrid)
  | seen ns label rid group now =>
    obtain ⟨deadlines, h, hsub⟩ := markPodSeenForNoshow_eq s ns label rid group now
    rw [NoShowOp.apply, h]
    exact ⟨hs.cleared rfl rfl hsub, fun _ h => by cases h⟩
  | claim holders now =>
    exact ⟨hs.cleared rfl rfl fun _ _ h => Dict.get?_of_get?_filter h, fun _ h => by cases h⟩
  | enqueue uid name ns label gpus group reservation now =>
    exact ⟨awaitedUnarmed_enqueuePod hs uid name ns label gpus group reservation now,
      fun _ h => by cases h⟩
  | dequeue uid => exact ⟨awaitedUnarmed_dequeuePod hs uid, fun _ h => by cases h⟩
  | cancelled rid => exact ⟨hs.cleared rfl rfl fun _ _ h => h, fun _ h => by cases h⟩

end Step

/-- From an empty queue on, no check declares a reservation which a queued pod waits for, in every
run whose refreshes neither arm what a queued pod waits for nor have it wait for what is armed. -/
theorem check_sparesAwaited (s : ControllerState) (ops : List NoShowOp) (hstart : s.taskQueue = ∅)
    (hrun : respects NoShowOp.apply refreshSpares s ops) :
    respects NoShowOp.apply checkSpares s ops := by
  refine respects_of_respects awaitedUnarmed_apply ⟨fun uid ref h => ?_, ?_⟩ hrun
  · rw [hstart] at h
    cases h
  · rintro rid ⟨uid, ref, h, -⟩
    rw [hstart] at h
    cases h

/-- The booking begins in an hour. -/
def comingBooking : ReservationResponse := { abandonedBooking with startUtc := minutes 60 }

/-- It is fetched and armed, and a pod is queued for it. -/
def queuedForComing : List NoShowOp :=
  [.install [comingBooking] .empty 0, .track 0 15 30,
    .enqueue "A" "a" "ns" "c" 1 none comingBooking 1]

theorem check_sparesAwaited_queuedForComing :
    respects NoShowOp.apply checkSpares {} (queuedForComing ++ [.check (minutes 75)]) := by
  refine check_sparesAwaited {} _ rfl ⟨?_, ?_, trivial, trivial, trivial⟩
  · rintro rid ⟨uid, ref, h, -⟩
    cases h
  · rintro r - ⟨uid, ref, h, -⟩
    cases h

/-- The next fetch arms the booking again. -/
theorem check_not_sparesAwaited :
    ¬ ∀ (s : ControllerState) (ops : List NoShowOp), s.taskQueue = ∅ →
      respects NoShowOp.apply checkSpares s ops := by
  intro h
  have hrun := h {} (queuedForComing ++ [.reconcile, .track 2 15 30, .check (minutes 75)]) rfl
  have hcheck := hrun.2.2.2.2.2.1 (minutes 75) rfl 1
    ⟨"A", 0, by decide +kernel, by decide +kernel, by decide +kernel⟩ (by decide +kernel)
  revert hcheck
  decide +kernel

end GpuReservation.Proofs
