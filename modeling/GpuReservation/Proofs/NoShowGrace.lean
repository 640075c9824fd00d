import GpuReservation.Model.QueueTick
import GpuReservation.Proofs.Frames
import GpuReservation.Proofs.NoShow

/-!
# A vacated booking keeps its grace

Runs of fetches, watch events and queue ticks, the ticks one after another, each step at a reading
of the clock.
-/

namespace GpuReservation.Proofs

open GpuReservation.Library GpuReservation.Model

/-- The controller, with the queue tick under way: its time, its snapshot, and the pending cancels
it goes through. -/
structure TickState where
  state : ControllerState := {}
  clock : Instant := 0
  tickAt : Instant := 0
  snapshot : Option (List Pod) := none
  toCancel : List Nat := []

inductive TickOp
  /-- A fetch replaces the reservations. -/
  | fetched (active : List ReservationResponse) (maps : GpuClassMaps) (now : Instant)
  /-- The fetch then brings the tracking of no-shows up to date. -/
  | tracked (now : Instant)
  /-- The watch sees a pod which carries the toleration. -/
  | tolerated (pod : Pod) (now : Instant)
  /-- The watch queues a pod for a reservation. -/
  | queued (pod : Pod) (reservation : ReservationResponse) (now : Instant)
  /-- The watch sees a pod end, and its lease, if it had one, is cancelled. -/
  | ended (pod : Pod) (lease : Option Nat) (now : Instant)
  /-- A queue tick begins. -/
  | tick (now : Instant)
  /-- The tick has its snapshot, or could not have it. -/
  | observed (snapshot : Option (List Pod)) (now : Instant)
  /-- The tick takes the lock, and goes through what is pending then. -/
  | cancels (now : Instant)
  /-- The tick comes to a pending cancel, which the app accepts or not. -/
  | cancel (rid : Nat) (accepted : Bool) (now : Instant)

def TickOp.now : TickOp → Instant
  | .fetched _ _ now | .tracked now | .tolerated _ now | .queued _ _ now | .ended _ _ now
  | .tick now | .observed _ now | .cancels now | .cancel _ _ now => now

def TickOp.observes : TickOp → Bool
  | .observed _ _ => true
  | _ => false

/-- The time at which a fetch brings the tracking up to date. -/
def TickOp.tracksAt : TickOp → Option Instant
  | .tracked now => some now
  | _ => none

/-- The snapshot is there, and no live pod of it holds the reservation. -/
def TickState.unheld (σ : TickState) (rid : Nat) : Bool :=
  σ.snapshot.any fun pods => rid ∉ heldReservations pods

/-- The tick sends a cancel of the reservation, as a no-show. -/
def TickState.sends (σ : TickState) (rid : Nat) : TickOp → Bool
  | .cancel rid' _ _ => rid' = rid && rid ∈ σ.toCancel && σ.unheld rid
  | _ => false

/-- The bookkeeping of a tick, from its snapshot. -/
def observeTick (s : ControllerState) (snapshot : Option (List Pod)) (now : Instant) :
    ControllerState :=
  (match snapshot with
    | none => s
    | some pods => s.observeHolders pods now).checkNoshowDeadlines now

section Run

variable (timeoutMinutes graceMinutes : Nat)

/-- What the operation does to the controller. -/
def TickOp.change (σ : TickState) : TickOp → ControllerState
  | .fetched active maps now => σ.state.installReservations active maps now
  | .tracked now => σ.state.reconcileNoshow.updateNoshowTracking now timeoutMinutes graceMinutes
  | .tolerated pod now => σ.state.keepWarm pod now
  | .queued pod reservation now =>
    (σ.state.removeOndemandCandidate pod.uid).enqueuePod pod.uid pod.name pod.ns pod.gpuClass
      pod.gpuCount pod.groupLabel reservation now
  | .ended pod lease _ =>
    let released := (σ.state.forgetPod pod.uid).releasePod pod.uid
    match lease with
    | none => released
    | some id => released.dropReservation id
  | .tick _ => σ.state
  | .observed snapshot _ => observeTick σ.state snapshot σ.tickAt
  | .cancels _ => σ.state
  | .cancel rid accepted now =>
    if σ.sends rid (.cancel rid accepted now) && accepted then
      NoShowOp.apply σ.state (.cancelled rid)
    else σ.state

def TickOp.apply (σ : TickState) (op : TickOp) : TickState where
  state := op.change timeoutMinutes graceMinutes σ
  clock := op.now
  tickAt := match op with
    | .tick now => now
    | _ => σ.tickAt
  snapshot := match op with
    | .tick _ => none
    | .observed snapshot _ => snapshot
    | _ => σ.snapshot
  toCancel := match op with
    | .tick _ => []
    | .cancels _ => σ.state.pendingNoshowCancels.sort
    | _ => σ.toCancel

/-- The clock does not go back, and a tick has its snapshot before it goes through what is
pending. -/
def inOrder (σ : TickState) (op : TickOp) : Prop :=
  σ.clock ≤ op.now ∧ (op.observes → σ.toCancel = [])

instance (σ : TickState) (op : TickOp) : Decidable (inOrder σ op) :=
  inferInstanceAs (Decidable (_ ∧ (_ → _)))

variable (u : Instant) (rid : Nat)

/-- No cancel of the reservation is sent by a tick before the grace from `u` on is over. -/
def sparesGrace (σ : TickState) (op : TickOp) : Prop :=
  σ.sends rid op → u + minutes graceMinutes ≤ σ.tickAt

/-- A fetch does not list the reservation with a start still to come, unless its timeout then ends
after the grace. -/
def keepsStart (σ : TickState) (op : TickOp) : Prop :=
  ∀ now ∈ op.tracksAt, ∀ r ∈ σ.state.reservations, r.id = rid → now < slotStart r →
    u + minutes graceMinutes ≤ slotStart r + minutes timeoutMinutes

instance (σ : TickState) (op : TickOp) : Decidable (sparesGrace graceMinutes u rid σ op) :=
  inferInstanceAs (Decidable (_ → _))

instance (σ : TickState) (op : TickOp) :
    Decidable (keepsStart timeoutMinutes graceMinutes u rid σ op) :=
  inferInstanceAs (Decidable (∀ now ∈ op.tracksAt, _))

/-- The reservation has no deadline within the grace, and is up for cancelling only after it. -/
structure InGrace (σ : TickState) : Prop where
  clock : u ≤ σ.clock
  tick : σ.tickAt ≤ σ.clock
  deadline : ∀ d, σ.state.noshowDeadlines.get? rid = some d → u + minutes graceMinutes ≤ d
  pending : rid ∈ σ.state.pendingNoshowCancels → u + minutes graceMinutes ≤ σ.tickAt
  toCancel : rid ∈ σ.toCancel → u + minutes graceMinutes ≤ σ.tickAt

end Run

section Step

variable {timeoutMinutes graceMinutes : Nat} {u : Instant} {rid : Nat} {σ : TickState}

lemma keepWarm_noshow (s : ControllerState) (pod : Pod) (now : Instant) :
    (s.keepWarm pod now).pendingNoshowCancels = s.pendingNoshowCancels ∧
      ∀ r d, (s.keepWarm pod now).noshowDeadlines.get? r = some d →
        s.noshowDeadlines.get? r = some d := by
  have hforget : (s.forgetPod pod.uid).pendingNoshowCancels = s.pendingNoshowCancels ∧
      (s.forgetPod pod.uid).noshowDeadlines = s.noshowDeadlines := ⟨rfl, rfl⟩
  obtain ⟨deadlines, h, hsub⟩ := markPodSeenForNoshow_eq (s.forgetPod pod.uid) pod.ns pod.gpuClass
    pod.bookingReference pod.groupLabel now
  rw [hforget.2] at hsub
  rw [ControllerState.keepWarm, h, ← hforget.1]
  generalize s.forgetPod pod.uid = t
  cases pod.bookingReference with
  | none => exact ⟨rfl, hsub⟩
  | some id => exact ⟨rfl, hsub⟩

/-- The operation gives no deadline, puts nothing up for cancelling, and moves the clock on. -/
lemma InGrace.kept (h : InGrace graceMinutes u rid σ) {op : TickOp} (htime : σ.clock ≤ op.now)
    (hpending : (op.change timeoutMinutes graceMinutes σ).pendingNoshowCancels ⊆
      σ.state.pendingNoshowCancels)
    (hdeadline : ∀ d, (op.change timeoutMinutes graceMinutes σ).noshowDeadlines.get? rid = some d →
      σ.state.noshowDeadlines.get? rid = some d)
    (htick : (op.apply timeoutMinutes graceMinutes σ).tickAt = σ.tickAt)
    (hcancel : (op.apply timeoutMinutes graceMinutes σ).toCancel = σ.toCancel) :
    InGrace graceMinutes u rid (op.apply timeoutMinutes graceMinutes σ) where
  clock := h.clock.trans htime
  tick := htick ▸ h.tick.trans htime
  deadline d hd := h.deadline d (hdeadline d hd)
  pending hmem := htick ▸ h.pending (hpending hmem)
  toCancel hmem := htick ▸ h.toCancel (hcancel ▸ hmem)

/-- What the tick declares was due: its deadline had been reached. -/
lemma observeTick_noshow (s : ControllerState) (snapshot : Option (List Pod)) (now : Instant) :
    (∀ r d, (observeTick s snapshot now).noshowDeadlines.get? r = some d →
        s.noshowDeadlines.get? r = some d) ∧
      ∀ r ∈ (observeTick s snapshot now).pendingNoshowCancels,
        r ∈ s.pendingNoshowCancels ∨ ∃ d ≤ now, s.noshowDeadlines.get? r = some d := by
  cases snapshot with
  | none =>
    obtain ⟨_, _, _, heq, hd, -, hp⟩ := checkNoshowDeadlines_eq s now
    rw [observeTick, heq]
    exact ⟨hd, hp⟩
  | some pods =>
    -- the holders clear deadlines first
    have hcleared : ∀ r d, (s.observeHolders pods now).noshowDeadlines.get? r = some d →
        s.noshowDeadlines.get? r = some d := fun _ _ h => Dict.get?_of_get?_filter h
    obtain ⟨_, _, _, heq, hd, -, hp⟩ := checkNoshowDeadlines_eq (s.observeHolders pods now) now
    rw [observeTick, heq]
    refine ⟨fun r d h => hcleared r d (hd r d h), fun r hr => (hp r hr).imp_right ?_⟩
    rintro ⟨d, hle, h⟩
    exact ⟨d, hle, hcleared r d h⟩

/-- One operation keeps the grace, and sends no cancel within it. -/
theorem inGrace_apply (op : TickOp) (h : InGrace graceMinutes u rid σ)
    (hop : inOrder σ op ∧ keepsStart timeoutMinutes graceMinutes u rid σ op) :
    InGrace graceMinutes u rid (op.apply timeoutMinutes graceMinutes σ) ∧
      sparesGrace graceMinutes u rid σ op := by
  obtain ⟨⟨htime, -⟩, hstart⟩ := hop
  cases op with
  | fetched active maps now =>
    obtain ⟨_, _, heq⟩ := installReservations_eq σ.state active maps now
    refine ⟨h.kept htime ?_ ?_ rfl rfl, fun hs => by cases hs⟩
    · rw [TickOp.change, heq]
    · rw [TickOp.change, heq]
      exact fun _ hd => hd
  | tracked now =>
    refine ⟨⟨h.clock.trans htime, h.tick.trans htime, fun d hd => ?_, fun hmem => ?_, h.toCancel⟩,
      fun hs => by cases hs⟩
    · rcases get?_updateNoshowTracking hd with hold | ⟨r, hr, hrid, -, rfl⟩
      · exact h.deadline d (Dict.get?_of_get?_filter hold)
      · rw [noshowDeadline]
        split
        · rename_i hbefore
          exact hstart now rfl r hr hrid hbefore
        · exact Int.add_le_add_right (h.clock.trans htime) _
    · exact h.pending (Finset.mem_filter.mp hmem).1
  | tolerated pod now =>
    obtain ⟨hp, hd⟩ := keepWarm_noshow σ.state pod now
    have hpending : (σ.state.keepWarm pod now).pendingNoshowCancels ⊆ σ.state.pendingNoshowCancels := by
      rw [hp]
    exact ⟨h.kept htime hpending (hd rid) rfl rfl, fun hs => by cases hs⟩
  | queued pod reservation now =>
    obtain ⟨_, _, heq⟩ := enqueuePod_eq (σ.state.removeOndemandCandidate pod.uid) pod.uid pod.name
      pod.ns pod.gpuClass pod.gpuCount pod.groupLabel reservation now
    refine ⟨h.kept htime ?_ ?_ rfl rfl, fun hs => by cases hs⟩
    · rw [TickOp.change, heq]
      exact Finset.Subset.refl _
    · rw [TickOp.change, heq]
      exact fun _ hd => Dict.get?_of_get?_erase hd
  | ended pod lease now =>
    obtain ⟨_, heq⟩ := releasePod_eq (σ.state.forgetPod pod.uid) pod.uid
    refine ⟨h.kept htime ?_ ?_ rfl rfl, fun hs => by cases hs⟩
    · cases lease <;> rw [TickOp.change, heq] <;> exact Finset.Subset.refl _
    · cases lease <;> rw [TickOp.change, heq] <;> exact fun _ hd => hd
  | tick now =>
    have hlater : σ.tickAt ≤ now := h.tick.trans htime
    exact ⟨⟨h.clock.trans htime, le_rfl, h.deadline, fun hmem => (h.pending hmem).trans hlater,
      fun hmem => by cases hmem⟩, fun hs => by cases hs⟩
  | observed snapshot now =>
    obtain ⟨hd, hp⟩ := observeTick_noshow σ.state snapshot σ.tickAt
    refine ⟨⟨h.clock.trans htime, h.tick.trans htime, fun d hrid => h.deadline d (hd rid d hrid),
      fun hmem => ?_, h.toCancel⟩, fun hs => by cases hs⟩
    rcases hp rid hmem with hold | ⟨d, hle, hdue⟩
    · exact h.pending hold
    · exact (h.deadline d hdue).trans hle
  | cancels now =>
    refine ⟨⟨h.clock.trans htime, h.tick.trans htime, h.deadline, h.pending, fun hmem => ?_⟩,
      fun hs => by cases hs⟩
    exact h.pending ((Finset.mem_sort _).mp hmem)
  | cancel rid' accepted now =>
    refine ⟨h.kept htime ?_ ?_ rfl rfl, fun hs => h.toCancel ?_⟩
    · rw [TickOp.change]
      split
      · exact Finset.erase_subset _ _
      · exact Finset.Subset.refl _
    · rw [TickOp.change]
      split <;> exact fun _ hd => hd
    · simp only [TickState.sends, Bool.and_eq_true, decide_eq_true_eq] at hs
      exact hs.1.2

lemma liveHolders_fst (pods : List Pod) : (liveHolders pods).map Prod.fst = heldReservations pods := by
  rw [liveHolders, heldReservations, List.map_filterMap]
  simp only [Option.map_map, Function.comp_def, Option.map_id']

/-- A holder claims at least what it holds. -/
lemma mem_claimedBy {s : ControllerState} {holders : List Nat} {now : Instant}
    (h : rid ∈ holders) : rid ∈ s.claimedBy holders now := by
  have hself : rid ∈ s.reservationsClaimedBy rid now := by
    unfold ControllerState.reservationsClaimedBy
    split
    · split <;> simp
    · simp
  have hfold : ∀ (l : List Nat) (claimed : Finset Nat), rid ∈ claimed ∨ rid ∈ l →
      rid ∈ l.foldl (fun claimed r => claimed ∪ s.reservationsClaimedBy r now) claimed := by
    intro l
    induction l with
    | nil => exact fun claimed h => h.resolve_right (by simp)
    | cons r l ih =>
      intro claimed h
      refine ih _ ?_
      rcases h with h | h
      · exact .inl (Finset.mem_union_left _ h)
      · rcases List.mem_cons.mp h with rfl | h
        · exact .inl (Finset.mem_union_right _ hself)
        · exact .inr h
  exact hfold holders ∅ (.inr h)

/-- A tick which sees a live pod under a reservation not up for cancelling begins its grace. -/
lemma inGrace_of_seen (pods : List Pod) (now : Instant) (htick : σ.tickAt ≤ σ.clock)
    (htime : σ.clock ≤ now) (hseen : rid ∈ heldReservations pods)
    (hpending : rid ∉ σ.state.pendingNoshowCancels) (hidle : rid ∉ σ.toCancel) :
    InGrace graceMinutes σ.tickAt rid
      (TickOp.apply timeoutMinutes graceMinutes σ (.observed (some pods) now)) := by
  have hclaimed : rid ∈ σ.state.claimedBy ((liveHolders pods).map Prod.fst) σ.tickAt :=
    mem_claimedBy (liveHolders_fst pods ▸ hseen)
  have hcleared : ∀ d, (σ.state.observeHolders pods σ.tickAt).noshowDeadlines.get? rid ≠ some d := by
    intro d h
    change (Dict.filter _ σ.state.noshowDeadlines).get? rid = some d at h
    rw [Dict.get?_filter, Option.filter_eq_some_iff] at h
    exact of_decide_eq_true h.2 hclaimed
  obtain ⟨_, _, _, heq, hd, -, hp⟩ :=
    checkNoshowDeadlines_eq (σ.state.observeHolders pods σ.tickAt) σ.tickAt
  refine ⟨htick.trans htime, htick.trans htime, fun d h => ?_, fun hmem => ?_, fun hmem => ?_⟩
  · change ((σ.state.observeHolders pods σ.tickAt).checkNoshowDeadlines σ.tickAt).noshowDeadlines.get?
      rid = some d at h
    rw [heq] at h
    exact absurd (hd rid d h) (hcleared d)
  · change rid ∈ ((σ.state.observeHolders pods σ.tickAt).checkNoshowDeadlines
      σ.tickAt).pendingNoshowCancels at hmem
    rw [heq] at hmem
    rcases hp rid hmem with hold | ⟨d, -, h⟩
    · exact absurd hold hpending
    · exact absurd h (hcleared d)
  · exact absurd hmem hidle

lemma tickAt_le_clock_apply (op : TickOp) (h : σ.tickAt ≤ σ.clock) (hop : inOrder σ op) :
    (op.apply timeoutMinutes graceMinutes σ).tickAt ≤
      (op.apply timeoutMinutes graceMinutes σ).clock := by
  cases op with
  | tick now => exact le_rfl
  | _ => exact h.trans hop.1

end Step

/-- Once a tick has seen a live pod under a reservation not up for cancelling, no tick cancels the
reservation as a no-show before the grace from that tick on is over, in every run whose fetches
keep the start of the reservation. -/
theorem noshowCancel_sparesGrace (timeoutMinutes graceMinutes : Nat) (σ₀ : TickState)
    (before after : List TickOp) (pods : List Pod) (now : Instant) (rid : Nat)
    (hclock : σ₀.tickAt ≤ σ₀.clock)
    (hrun : respects (TickOp.apply timeoutMinutes graceMinutes) inOrder σ₀
      (before ++ .observed (some pods) now :: after))
    (hseen : rid ∈ heldReservations pods) :
    let σ := before.foldl (TickOp.apply timeoutMinutes graceMinutes) σ₀
    let σ' := TickOp.apply timeoutMinutes graceMinutes σ (.observed (some pods) now)
    rid ∉ σ.state.pendingNoshowCancels →
      respects (TickOp.apply timeoutMinutes graceMinutes)
        (keepsStart timeoutMinutes graceMinutes σ.tickAt rid) σ' after →
      respects (TickOp.apply timeoutMinutes graceMinutes)
        (sparesGrace graceMinutes σ.tickAt rid) σ' after := by
  intro σ σ' hpending hstart
  obtain ⟨hbefore, hobserved, hafter⟩ := respects_append.mp hrun
  have hticks : throughout (TickOp.apply timeoutMinutes graceMinutes)
      (fun σ => σ.tickAt ≤ σ.clock) σ₀ before :=
    throughout_of_respects (fun _ op => tickAt_le_clock_apply op) hclock hbefore
  have htick : σ.tickAt ≤ σ.clock := throughout_last hticks
  have hgrace : InGrace graceMinutes σ.tickAt rid σ' :=
    inGrace_of_seen pods now htick hobserved.1 hseen hpending
      (by rw [hobserved.2 rfl]; exact List.not_mem_nil)
  exact respects_of_respects (fun σ op => inGrace_apply op) hgrace
    (respects_and.mpr ⟨hafter, hstart⟩)

/-- A live pod under the booking nobody had shown up for. -/
def lateHolder : Pod where
  uid := "A"
  ns := "ns"
  name := "a"
  gpuClass := "c"
  gpuCount := 1
  phase := .running
  bookingReference := some 1

/-- A queue tick with its snapshot. -/
def tickOf (at_ : Instant) (pods : List Pod) : List TickOp :=
  [.tick at_, .observed (some pods) at_, .cancels at_]

/-- The booking is fetched in its window. -/
def fetchedLate : List TickOp := [.fetched [abandonedBooking] .empty 0, .tracked 0]

/-- A tick has begun at ten minutes. -/
def lateTick : TickState :=
  (fetchedLate ++ [TickOp.tick (minutes 10)]).foldl (TickOp.apply 15 30) {}

/-- It sees the pod, which is gone at the next; the booking is armed again, and cancelled. -/
def goneLater : List TickOp :=
  .cancels (minutes 10) :: tickOf (minutes 12) [] ++ .tracked (minutes 13) ::
    tickOf (minutes 43) [] ++ [.cancel 1 true (minutes 43)]

lemma goneLater_inOrder : respects (TickOp.apply 15 30) inOrder {}
    (fetchedLate ++ [.tick (minutes 10)] ++
      .observed (some [lateHolder]) (minutes 10) :: goneLater) := by
  decide +kernel

lemma goneLater_keepsStart :
    respects (TickOp.apply 15 30) (keepsStart 15 30 lateTick.tickAt 1)
      (TickOp.apply 15 30 lateTick (.observed (some [lateHolder]) (minutes 10))) goneLater := by
  decide +kernel

theorem noshowCancel_sparesGrace_lateHolder :
    respects (TickOp.apply 15 30) (sparesGrace 30 lateTick.tickAt 1)
      (TickOp.apply 15 30 lateTick (.observed (some [lateHolder]) (minutes 10))) goneLater := by
  have hspares := noshowCancel_sparesGrace 15 30 {} (fetchedLate ++ [.tick (minutes 10)]) goneLater
    [lateHolder] (minutes 10) 1 (by decide) goneLater_inOrder (by decide)
  exact hspares (by decide +kernel) goneLater_keepsStart

/-- The booking is declared at half past, the cancel fails, a pod comes and goes, and the cancel is
sent again. -/
theorem noshowCancel_not_sparesGrace :
    ¬ ∀ (timeoutMinutes graceMinutes : Nat) (σ₀ : TickState) (before after : List TickOp)
      (pods : List Pod) (now : Instant) (rid : Nat), σ₀.tickAt ≤ σ₀.clock →
      respects (TickOp.apply timeoutMinutes graceMinutes) inOrder σ₀
        (before ++ .observed (some pods) now :: after) →
      rid ∈ heldReservations pods →
      respects (TickOp.apply timeoutMinutes graceMinutes)
        (sparesGrace graceMinutes
          (before.foldl (TickOp.apply timeoutMinutes graceMinutes) σ₀).tickAt rid)
        (TickOp.apply timeoutMinutes graceMinutes
          (before.foldl (TickOp.apply timeoutMinutes graceMinutes) σ₀) (.observed (some pods) now))
        after := by
  intro h
  have hrun := h 15 30 {}
    (fetchedLate ++ tickOf (minutes 31) [] ++ [.cancel 1 false (minutes 31), .tick (minutes 32)])
    (.cancels (minutes 32) :: tickOf (minutes 33) [] ++ [.cancel 1 true (minutes 33)])
    [lateHolder] (minutes 32) 1 (by decide) (by decide +kernel) (by decide)
  revert hrun
  decide +kernel

end GpuReservation.Proofs
