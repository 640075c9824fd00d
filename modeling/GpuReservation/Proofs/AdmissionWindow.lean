import GpuReservation.Proofs.TickRemovals
import GpuReservation.Proofs.Waiters

/-!
# The window of an attempt

When the four paths which admit a pod under a booking make an attempt: the tick, the watch, the
preflight of a candidate, and the retry of the waiters.
-/

namespace GpuReservation.Proofs

open GpuReservation.Library GpuReservation.Model

/-- The first thing an attempt asks for: the pod, or the delay of the next attempt where the
reservation is full. -/
def Request.attempts : Request → Prop
  | .readPod _ _ | .randint _ _ => True
  | _ => False

/-- Some call of the execution is one of an attempt. -/
def Attempted (log : List (Await ControllerState Answer)) : Prop :=
  ∃ e ∈ log, Request.attempts e.call.1

/-- A part which makes no attempt. -/
def NoAttempt {α : Type} (p : Ctl α) : Prop :=
  p.Within (fun _ _ => True) (fun q => ¬Request.attempts q) fun _ => True

lemma not_attempted_nil : ¬Attempted [] := by
  rintro ⟨e, he, -⟩
  cases he

lemma attempted_append {log₁ log₂ : List (Await ControllerState Answer)} :
    Attempted (log₁ ++ log₂) ↔ Attempted log₁ ∨ Attempted log₂ := by
  simp only [Attempted, List.mem_append, or_and_right, exists_or]

lemma attempted_cons {e : Await ControllerState Answer} {log : List (Await ControllerState Answer)} :
    Attempted (e :: log) ↔ Request.attempts e.call.1 ∨ Attempted log := by
  simp only [Attempted, List.mem_cons, exists_eq_or_imp]

section

variable {ans : ∀ q, Answer q → Prop} {s s' : ControllerState}
  {log : List (Await ControllerState Answer)} {config : Config} {now : Instant} {uid : Uid}
  {ref : Ref}

lemma NoAttempt.not_attempted {α : Type} {p : Ctl α} {a : α} (hp : NoAttempt p)
    (h : p.Amid yields ans s log a s') : ¬Attempted log := by
  rintro ⟨e, he, hattempts⟩
  exact Prog.amid_calls hp h e he hattempts

lemma noAttempt_get : NoAttempt (Prog.get : Ctl ControllerState) := .get fun _ => trivial

lemma tellQueuedStatus_noAttempt (config : Config) (uid : Uid) (ref : Ref) (now : Instant) :
    NoAttempt (tellQueuedStatus config uid ref now) := by
  refine .seq noAttempt_get fun s => ?_
  dsimp only
  split
  · exact .pure trivial
  · split
    · refine .seq noAttempt_get fun s => ?_
      split
      · refine .seq (.ask id) fun emitted => ?_
        split
        · exact .modify fun _ => trivial
        · exact .pure trivial
      · exact .pure trivial
    · exact .pure trivial

/-- An attempt asks for something, whatever becomes of it. -/
lemma tryApplyToleration_attempted {gateName : Option String} {done : Bool}
    (h : (tryApplyToleration uid ref gateName).Amid yields ans s log done s') : Attempted log := by
  rw [tryApplyToleration, Prog.amid_get_bind] at h
  dsimp only at h
  split at h
  · rw [postponeEntry, bind_assoc] at h
    obtain ⟨now, _, _, -, -, rfl, hdelay⟩ := (Prog.amid_ask_bind _).mp h
    rw [bind_assoc, jitteredRetryAt, bind_assoc] at hdelay
    obtain ⟨delay, _, _, -, -, rfl, -⟩ := (Prog.amid_ask_bind _).mp hdelay
    exact attempted_cons.mpr (.inr (attempted_cons.mpr (.inl trivial)))
  · rw [Prog.amid_modify_bind] at h
    obtain ⟨pod, _, _, -, -, rfl, -⟩ := (Prog.amid_ask_bind _).mp h
    exact attempted_cons.mpr (.inl trivial)

/-- The fast path of the watch and of the preflight: an attempt exactly where the window is open and
the entry is due. -/
lemma fastPath_attempted_iff (h : (fastPath config uid ref now).Amid yields ans s log () s') :
    Attempted log ↔ slotOpen (s.entry ref).reservation now ∧ (s.entry ref).nextAttemptAt ≤ now := by
  rw [fastPath, Prog.amid_get_bind] at h
  dsimp only at h
  split at h
  · rename_i hdue
    rw [Prog.amid_bind] at h
    obtain ⟨_, _, _, _, rfl, htry, -⟩ := h
    exact iff_of_true (attempted_append.mpr (.inl (tryApplyToleration_attempted htry))) hdue
  · rename_i hnot
    obtain ⟨rfl, -, -⟩ := h
    exact iff_of_false not_attempted_nil hnot

lemma retryWaiter_attempted_iff {rid : Nat}
    (h : (retryWaiter config rid now (uid, ref)).Amid yields ans s log () s') :
    Attempted log ↔ s.waitsOn rid now (uid, ref) = true := by
  rw [retryWaiter, Prog.amid_get_bind] at h
  split at h
  · rename_i hwaits
    rw [Prog.amid_bind] at h
    obtain ⟨_, _, _, _, rfl, htry, -⟩ := h
    exact iff_of_true (attempted_append.mpr (.inl (tryApplyToleration_attempted htry))) hwaits
  · rename_i hnot
    obtain ⟨rfl, -, -⟩ := h
    exact iff_of_false not_attempted_nil hnot

/-- The tick tests the window from both ends in its own words: it attempts up to and at the end. -/
lemma tickAttempt_attempted_iff {toRemove toRemove' : List Uid}
    (h : (tickAttempt config now toRemove uid ref).Amid yields ans s log toRemove' s') :
    Attempted log ↔ slotStart (s.entry ref).reservation ≤ now ∧
      now ≤ slotEnd (s.entry ref).reservation ∧ (s.entry ref).nextAttemptAt ≤ now := by
  rw [tickAttempt, Prog.amid_get_bind] at h
  dsimp only at h
  split at h
  · rename_i hpast
    obtain ⟨rfl, -, -⟩ := h
    exact iff_of_false not_attempted_nil fun hin => absurd hin.2.1 (not_le.mpr hpast)
  · rename_i hpast
    split at h
    · rename_i hwait
      rw [Prog.amid_bind] at h
      obtain ⟨_, _, _, _, rfl, htell, rfl, -, -⟩ := h
      rw [List.append_nil]
      refine iff_of_false ((tellQueuedStatus_noAttempt _ _ _ _).not_attempted htell) fun hin => ?_
      rcases hwait with hwait | hwait
      · exact absurd hin.1 (not_le.mpr hwait)
      · exact absurd hin.2.2 (not_le.mpr hwait)
    · rename_i hready
      rw [not_or] at hready
      rw [Prog.amid_bind] at h
      obtain ⟨_, _, _, _, rfl, htry, -⟩ := h
      exact iff_of_true (attempted_append.mpr (.inl (tryApplyToleration_attempted htry)))
        ⟨not_lt.mp hready.1, not_lt.mp hpast, not_lt.mp hready.2⟩

/-- A better reservation is open: it is looked for with the half-open test. -/
lemma betterReservation_open {e : QueueEntry} {better : ReservationResponse}
    (h : s.betterReservation uid e now = some better) : slotOpen better now := by
  unfold ControllerState.betterReservation at h
  split at h
  · cases h
  · obtain ⟨hfind, -⟩ := Option.filter_eq_some_iff.mp h
    unfold ControllerState.findAdmittableReservation at hfind
    have hmem := (List.mem_filter.mp (List.argmin_mem hfind)).2
    simp only [ControllerState.matchesPod, Bool.and_eq_true, decide_eq_true_eq, add_zero] at hmem
    exact ⟨hmem.1.2, hmem.1.1.1.2⟩

/-- The reservation the tick judges the entry by. -/
def judgedReservation (now : Instant) (s : ControllerState) (uid : Uid) (ref : Ref) :
    ReservationResponse :=
  (s.betterReservation uid (s.entry ref) now).getD (s.entry ref).reservation

/-- The entry the tick goes on with waits on that reservation, and a new one is due at once. -/
lemma requeueForBetter_judges {ref' : Ref} (hget : s.taskQueue.get? uid = some ref)
    (h : (requeueForBetter now uid ref).Amid yields ans s log ref' s') :
    ¬Attempted log ∧ (s'.entry ref').reservation = judgedReservation now s uid ref ∧
      ((s'.entry ref').nextAttemptAt ≤ now ↔
        (s.betterReservation uid (s.entry ref) now).isSome ∨ (s.entry ref).nextAttemptAt ≤ now) := by
  unfold judgedReservation
  rcases requeueForBetter_amid hget h with ⟨hbetter, rfl, rfl, rfl⟩ |
    ⟨better, at_, hbetter, rfl, rfl, rfl⟩
  · rw [hbetter]
    exact ⟨not_attempted_nil, rfl, (or_iff_right Bool.false_ne_true).symm⟩
  · have hentry : (requeuedAt now s uid ref better).entry s.entries.next =
        { s.entry ref with podUid := uid, reservation := better, nextAttemptAt := now } :=
      Heap.read_alloc_next _ _
    rw [hbetter, hentry]
    refine ⟨?_, rfl, iff_of_true le_rfl (.inl rfl)⟩
    rw [attempted_cons]
    exact not_or.mpr ⟨id, not_attempted_nil⟩

/-- When a round of the tick makes an attempt. -/
lemma tickEntry_attempted_iff {toRemove toRemove' : List Uid}
    (h : (tickEntry config now toRemove (uid, ref)).Amid yields ans s log toRemove' s') :
    Attempted log ↔ s.taskQueue.get? uid = some ref ∧
      slotStart (judgedReservation now s uid ref) ≤ now ∧
      now ≤ slotEnd (judgedReservation now s uid ref) ∧
      ((s.betterReservation uid (s.entry ref) now).isSome ∨ (s.entry ref).nextAttemptAt ≤ now) := by
  rw [tickEntry, Prog.amid_get_bind] at h
  split at h
  · rename_i hget
    rw [Prog.amid_bind] at h
    obtain ⟨log₁, log₂, ref', s₁, rfl, hfirst, hattempt⟩ := h
    obtain ⟨hquiet, hjudged, hdue⟩ := requeueForBetter_judges hget hfirst
    rw [attempted_append, tickAttempt_attempted_iff hattempt, hjudged, hdue]
    exact ⟨fun hin => ⟨hget, hin.resolve_left hquiet⟩, fun hin => .inr hin.2⟩
  · rename_i hget
    obtain ⟨rfl, -, -⟩ := h
    exact iff_of_false not_attempted_nil fun hin => hget hin.1

/-- The first call is for the instant the entry of the pod is judged at, and the entry is open then. -/
def TriedInWindow (uid : Uid) (log : List (Await ControllerState Answer)) : Prop :=
  ∃ e t ref rest, log = e :: rest ∧ e.call = ⟨.now, t⟩ ∧
    e.before.taskQueue.get? uid = some ref ∧ slotOpen (e.before.entry ref).reservation t

/-- What the watch and the preflight both do with a pod they have just queued. -/
lemma followUp_inWindow (h : (followUp config uid).Amid yields ans s log () s')
    (hattempted : Attempted log) : TriedInWindow uid log := by
  rw [followUp, Prog.amid_get_bind] at h
  cases hget : s.taskQueue.get? uid with
  | none =>
    rw [hget] at h
    obtain ⟨rfl, -, -⟩ := h
    exact absurd hattempted not_attempted_nil
  | some ref =>
    rw [hget] at h
    dsimp only at h
    obtain ⟨t, c₁, log', -, hsync, rfl, hrest⟩ := (Prog.amid_ask_bind _).mp h
    obtain rfl := hsync rfl
    rw [Prog.amid_bind] at hrest
    obtain ⟨log₁, log₂, _, s₁, rfl, hfast, htell⟩ := hrest
    refine ⟨_, t, ref, _, rfl, rfl, hget, ?_⟩
    rw [attempted_cons, attempted_append] at hattempted
    rcases hattempted with hnow | hattempted | htold
    · exact hnow.elim
    · exact ((fastPath_attempted_iff hfast).mp hattempted).1
    · rw [Prog.amid_get_bind] at htell
      split at htell
      · exact absurd htold ((tellQueuedStatus_noAttempt _ _ _ _).not_attempted htell)
      · obtain ⟨rfl, -, -⟩ := htell
        exact absurd htold not_attempted_nil

end

/-- The paths which admit a pod under a booking: a round of the tick, what the watch does with a
pod a booking takes, what the preflight does with a candidate one takes, and one waiter's retry. -/
inductive AdmissionPath
  | tick (now : Instant) (toRemove : List Uid) (uid : Uid) (ref : Ref)
  | watch (eventType : EventType) (pod : Pod) (reservation : ReservationResponse)
  | preflight (uid : Uid) (candidate : Ref) (reservation : ReservationResponse)
  | waiter (reservationId : Nat) (now : Instant) (uid : Uid) (ref : Ref)

namespace AdmissionPath

def program (config : Config) : AdmissionPath → Ctl Unit
  | tick now toRemove uid ref => do
    let _ ← tickEntry config now toRemove (uid, ref)
    return ()
  | watch eventType pod reservation => podAdmittable config eventType pod reservation
  | preflight uid candidate reservation => do
    let _ ← reroute config uid candidate reservation
    return ()
  | waiter reservationId now uid ref => retryWaiter config reservationId now (uid, ref)

/-- The window of the reservation the path judges is open at the instant it judges it.  The watch and
the preflight queue the pod first, which is their first call, and read the clock again. -/
def InWindow (s : ControllerState) (log : List (Await ControllerState Answer)) : AdmissionPath → Prop
  | tick now _ uid ref => slotOpen (judgedReservation now s uid ref) now
  | watch _ pod _ => TriedInWindow pod.uid log.tail
  | preflight uid _ _ => TriedInWindow uid log.tail
  | waiter _ now _ ref => slotOpen (s.entry ref).reservation now

/-- The tick comes, at the very end of its window, to an entry which is due. -/
def AtEnd (s : ControllerState) : AdmissionPath → Prop
  | tick now _ uid ref => s.taskQueue.get? uid = some ref ∧
      s.betterReservation uid (s.entry ref) now = none ∧ (s.entry ref).nextAttemptAt ≤ now ∧
      slotStart (s.entry ref).reservation ≤ now ∧ now = slotEnd (s.entry ref).reservation
  | _ => False

section

variable {ans : ∀ q, Answer q → Prop} {s s' : ControllerState}
  {log : List (Await ControllerState Answer)} {config : Config} {now : Instant} {uid : Uid}
  {ref : Ref}

/-- Away from the very end of the window, the tick attempts within it. -/
lemma tick_inWindow {toRemove toRemove' : List Uid}
    (h : (tickEntry config now toRemove (uid, ref)).Amid yields ans s log toRemove' s')
    (hattempted : Attempted log) (hend : ¬(tick now toRemove uid ref).AtEnd s) :
    slotOpen (judgedReservation now s uid ref) now := by
  obtain ⟨hget, hstart, hstop, hdue⟩ := (tickEntry_attempted_iff h).mp hattempted
  unfold judgedReservation at hstart hstop ⊢
  cases hbetter : s.betterReservation uid (s.entry ref) now with
  | some better => exact betterReservation_open hbetter
  | none =>
    rw [hbetter] at hstart hstop hdue
    refine ⟨hstart, lt_of_le_of_ne hstop fun heq => hend ⟨hget, hbetter, ?_, hstart, heq⟩⟩
    exact hdue.resolve_left Bool.false_ne_true

lemma watch_inWindow {eventType : EventType} {pod : Pod} {reservation : ReservationResponse}
    (h : (podAdmittable config eventType pod reservation).Amid yields ans s log () s')
    (hattempted : Attempted log) : TriedInWindow pod.uid log.tail := by
  rw [podAdmittable, queuePod, bind_assoc] at h
  obtain ⟨at_, c₁, log', -, -, rfl, hrest⟩ := (Prog.amid_ask_bind _).mp h
  rw [Prog.amid_modify_bind] at hrest
  have hattempted : Attempted log' := (attempted_cons.mp hattempted).resolve_left id
  split at hrest
  · exact followUp_inWindow hrest hattempted
  · obtain ⟨rfl, -, -⟩ := hrest
    exact absurd hattempted not_attempted_nil

lemma preflight_inWindow {reservation : ReservationResponse} {verdict : Preflight}
    (h : (reroute config uid ref reservation).Amid yields ans s log verdict s')
    (hattempted : Attempted log) : TriedInWindow uid log.tail := by
  rw [reroute] at h
  obtain ⟨at_, c₁, log', -, -, rfl, hrest⟩ := (Prog.amid_ask_bind _).mp h
  rw [Prog.amid_modify_bind, Prog.amid_bind] at hrest
  obtain ⟨log₁, _, _, _, rfl, hfollow, rfl, -, -⟩ := hrest
  rw [List.append_nil] at hattempted ⊢
  exact followUp_inWindow hfollow ((attempted_cons.mp hattempted).resolve_left id)

end

/-- Every path attempts only within the half-open window, but for a tick at the very end of it. -/
theorem inWindow_iff (config : Config) (path : AdmissionPath) (s : ControllerState) :
    (∀ log s', (path.program config).Amid yields canAnswer s log () s' → Attempted log →
      path.InWindow s log) ↔ ¬path.AtEnd s := by
  constructor
  · intro h hend
    cases path with
    | watch eventType pod reservation => exact hend
    | preflight uid candidate reservation => exact hend
    | waiter reservationId now uid ref => exact hend
    | tick now toRemove uid ref =>
      obtain ⟨hget, hbetter, hdue, hstart, hstop⟩ := hend
      have hran := amid_refusedAt (fun _ s => s) ((tick now toRemove uid ref).program config) s
      obtain ⟨_, _, _, _, hlog, hentry, rfl, -, -⟩ := (Prog.amid_bind _ _).mp hran
      rw [List.append_nil] at hlog
      have hjudged : judgedReservation now s uid ref = (s.entry ref).reservation := by
        rw [judgedReservation, hbetter]
        rfl
      have hattempted := (tickEntry_attempted_iff hentry).mpr
        ⟨hget, hjudged ▸ hstart, hjudged ▸ hstop.le, .inr hdue⟩
      rw [← hlog] at hattempted
      have hopen : slotOpen (judgedReservation now s uid ref) now := h _ _ hran hattempted
      rw [hjudged] at hopen
      exact absurd hstop (ne_of_lt hopen.2)
  · intro hend log s' h hattempted
    cases path with
    | tick now toRemove uid ref =>
      obtain ⟨_, _, _, _, rfl, hentry, rfl, -, -⟩ := (Prog.amid_bind _ _).mp h
      rw [List.append_nil] at hattempted
      exact tick_inWindow hentry hattempted hend
    | watch eventType pod reservation => exact watch_inWindow h hattempted
    | preflight uid candidate reservation =>
      obtain ⟨_, _, _, _, rfl, hreroute, rfl, -, -⟩ := (Prog.amid_bind _ _).mp h
      rw [List.append_nil] at hattempted ⊢
      exact preflight_inWindow hreroute hattempted
    | waiter reservationId now uid ref =>
      exact (waitsOn_iff.mp ((retryWaiter_attempted_iff h).mp hattempted)).2.2.1

end AdmissionPath

/-- A pod is due under a booking which ends now. -/
def dueAtEnd : ControllerState where
  reservations := [ownedBooking 1 "u" 0 100]
  gpuClassLabels := Dict.ofList [(1, "c")]
  entries := ⟨[queuedUnder "U" "u" (ownedBooking 1 "u" 0 100)]⟩
  taskQueue := Dict.ofList [("U", 0)]

/-- The pod is there. -/
def atEndWorld : World where
  clock := 100
  pods := Dict.ofList [(("u", "U"), lapsedPod)]

/-- The tick patches the pod at the very end of its booking, when it is over. -/
theorem tick_admitsAtEnd :
    ¬ ∀ (config : Config) (path : AdmissionPath) (s : ControllerState)
      (log : List (Await ControllerState Answer)) (s' : ControllerState),
      (path.program config).Amid yields canAnswer s log () s' → Attempted log →
        path.InWindow s log := by
  intro h
  have hran := amid_worldAnswer atEndWorld rfl {} (fun _ s => s)
    ((AdmissionPath.tick 100 [] "U" 0).program {}) dueAtEnd
  obtain ⟨_, _, _, _, hlog, hentry, rfl, -, -⟩ := (Prog.amid_bind _ _).mp hran
  have hattempted := (tickEntry_attempted_iff hentry).mpr (by decide +kernel)
  rw [List.append_nil] at hlog
  rw [← hlog] at hattempted
  have hopen : slotOpen (judgedReservation 100 dueAtEnd "U" 0) 100 := h _ _ _ _ _ hran hattempted
  exact absurd hopen (by decide +kernel)

example : ((tickEntry {} 100 [] ("U", 0)).runAmid yields (worldAnswer atEndWorld rfl {})
    (fun _ s => s) dueAtEnd).2.1 = ["U"] := by
  decide +kernel

end GpuReservation.Proofs
