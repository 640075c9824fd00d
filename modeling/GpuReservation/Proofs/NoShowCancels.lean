import GpuReservation.Proofs.ReservationLock
import GpuReservation.Proofs.WorldHistory

/-!
# The cancels of no-shows

One queue tick, from the answer to its LIST on, among any other tasks.
-/

namespace GpuReservation.Proofs

open GpuReservation.Library GpuReservation.Model

/-- A part which cancels nothing as a no-show. -/
def NoNoshowCancel {α : Type} (p : Ctl α) : Prop :=
  p.Within (fun _ _ => True) (fun q => noshowCancelOf q = none) fun _ => True

lemma Orderly.noCancel {α : Type} {p : Ctl α} (h : Orderly noNoshowCancel p) : NoNoshowCancel p :=
  Prog.Guarded.within h

section Tick

variable (config : Config) (now : Instant)

/-- The tick, once its LIST is answered. -/
def tickAfterList (passes : Nat) (listed : Option (List Pod)) : Ctl Unit := do
  let snapshot := listed.map fun pods =>
    pods.filter fun p => podHasAnyReservationToleration p tolerationKey
  withSnapshot snapshot fun pods => Prog.modify fun s => s.observeHolders pods now
  Prog.modify fun s => s.checkNoshowDeadlines now
  withSnapshot snapshot (tickSnapshot config now)
  drainPendingMergeCancels
  withSnapshot snapshot (tickNodes config now)
  tickQueue config now
  runOndemandAdmission config passes
  Prog.modify fun s => s.prunePendingStatus
    (now - max pendingStatusRetention (3 * minutes config.ondemandDenialEventRepeatMinutes))

/-- The first step of a tick takes it to its LIST. -/
lemma advance_runQueueTick (passes i : Nat) (cs : List Choice)
    (σ : Snap ControllerState World) : ∃ now : Instant,
      (advance runtime i (runQueueTick config passes) cs σ).1 =
        .waiting .listPods (tickAfterList config now passes) :=
  ⟨_, rfl⟩

end Tick

/-! What the tick relies on, for one reservation. -/

/-- A live pod of the cluster carries the reservation. -/
def carried (rid : Nat) (w : World) : Bool :=
  w.pods.values.any fun p =>
    (p.phase = .running || p.phase = .pending) && p.bookingReference = some rid

/-- The live pods which carry the reservation are all tolerated, as the LIST of the tick takes it. -/
def carriersTolerated (rid : Nat) (w : World) : Bool :=
  w.pods.values.all fun p =>
    !((p.phase = .running || p.phase = .pending) && p.bookingReference = some rid) ||
      podHasAnyReservationToleration p tolerationKey

/-- The LIST of the tick. -/
def isList : Request → Bool
  | .listPods => true
  | _ => false

/-- Others put no live pod on the reservation, and the cancel of it as a no-show is issued where
none carries it. -/
def idleCancel (rid : Nat) : Contract ControllerState World Request Choice where
  rely σ σ' := carried rid σ'.world → carried rid σ.world
  guar _ _ := True
  issued q σ := noshowCancelOf q = some rid → ¬ carried rid σ.world
  served _ _ := True
  assumed q _ σ := isList q → carriersTolerated rid σ.world
  ended _ := True
  rely_refl _ h := h
  rely_trans h₁ h₂ h := h₁ (h₂ h)
  guar_refl _ := trivial
  guar_trans _ _ := trivial

section Focal

variable {rid i : Nat} {α : Type}

/-- What cancels nothing as a no-show needs nothing of the others. -/
lemma NoNoshowCancel.idle {p : Ctl α} (h : NoNoshowCancel p) :
    Triple runtime (fun _ => True) (idleCancel rid) i (fun _ => True) p fun _ _ => True := by
  refine (Triple.of_within h (fun _ _ _ _ => trivial) ?_ ?_ fun q c w hq => answer_of_sync i hq c w).mono
    (fun _ _ _ => trivial) fun _ _ _ => trivial
  · exact fun _ _ _ _ _ => ⟨trivial, trivial, trivial⟩
  · intro q hq σ _ _
    refine ⟨fun hrid => ?_, trivial, fun _ _ _ _ _ => ⟨trivial, trivial, trivial⟩⟩
    rw [hq] at hrid
    cases hrid

/-- Where the snapshot shows no holder of the reservation, no live pod carries it. -/
def snapshotRight (rid : Nat) (occupied : List Nat) (σ : Snap ControllerState World) : Prop :=
  rid ∉ occupied → ¬ carried rid σ.world

variable {occupied : List Nat}

lemma snapshotRight_stable : Stable (idleCancel rid) (snapshotRight rid occupied) :=
  fun _ _ hrely h hrid hcarried => h hrid (hrely hcarried)

lemma snapshotRight_modify (f : ControllerState → ControllerState) :
    Triple runtime (fun _ => True) (idleCancel rid) i (snapshotRight rid occupied)
      (Prog.modify f) fun _ => snapshotRight rid occupied :=
  .modify fun _ _ h => ⟨trivial, trivial, h⟩

lemma cancelNoshow_idle (id : Nat) :
    Triple runtime (fun _ => True) (idleCancel rid) i (snapshotRight rid occupied)
      (cancelNoshow occupied id) fun _ => snapshotRight rid occupied := by
  rw [cancelNoshow]
  split
  · exact .pure fun _ _ h => h
  · rename_i hid
    refine .bind (R := fun _ => snapshotRight rid occupied) (.ask rfl snapshotRight_stable
      (fun _ => snapshotRight_stable) ?_ ?_) fun cancelled => ?_
    · rintro σ - h hrid
      cases hrid
      exact h hid
    · intro σ _ h
      refine ⟨trivial, fun c a w _ hw => ⟨trivial, trivial, fun hrid => ?_⟩⟩
      -- a cancel changes no pod
      have hpods : w.pods = σ.world.pods := by
        simp only [runtime, answer] at hw
        split at hw <;> cases hw <;> rfl
      rw [carried, hpods]
      exact h hrid
    · split
      · exact snapshotRight_modify _
      · exact .pure fun _ _ h => h

lemma cancelPendingNoshows_idle (snapshot : List Pod) :
    Triple runtime (fun _ => True) (idleCancel rid) i
      (snapshotRight rid (heldReservations snapshot)) (cancelPendingNoshows snapshot)
      fun _ _ => True := by
  refine .get_bind fun s => ?_
  split
  · exact .pure fun _ _ _ => trivial
  · refine .bind (R := fun _ => snapshotRight rid (heldReservations snapshot)) ?_ fun _ => ?_
    · refine .pre (P := snapshotRight rid (heldReservations snapshot)) (.ask rfl snapshotRight_stable
        (fun _ => snapshotRight_stable) ?_ ?_) fun σ _ h => h.2
      · rintro σ - - hrid
        cases hrid
      · intro σ _ h
        refine ⟨trivial, fun c a w _ hw => ⟨trivial, trivial, ?_⟩⟩
        simp only [runtime, answer] at hw
        split at hw
        · cases hw
          exact h
        · cases hw
    · refine .bind (R := fun _ _ => True) (.get_bind fun s => ?_) fun _ =>
        NoNoshowCancel.idle ⟨rfl, fun _ => trivial⟩
      have hloop : Triple runtime (fun _ => True) (idleCancel rid) i
          (snapshotRight rid (heldReservations snapshot))
          (s.pendingNoshowCancels.sort.forM (cancelNoshow (heldReservations snapshot)))
          fun _ => snapshotRight rid (heldReservations snapshot) :=
        .forM_keep cancelNoshow_idle _
      exact hloop.mono (fun σ _ h => h.2) fun _ _ _ => trivial

variable (config : Config) (now : Instant)

lemma tickSnapshot_idle (snapshot : List Pod) :
    Triple runtime (fun _ => True) (idleCancel rid) i
      (snapshotRight rid (heldReservations snapshot)) (tickSnapshot config now snapshot)
      fun _ _ => True := by
  exact .bind (R := fun _ _ => True) (cancelPendingNoshows_idle snapshot) fun _ =>
    (relinkUnderLock_orderly config now snapshot).noCancel.idle

/-- The pods the tick goes on with show every holder of the reservation. -/
def listedRight (rid : Nat) (listed : Option (List Pod)) (σ : Snap ControllerState World) : Prop :=
  ∀ pods, listed = some pods → snapshotRight rid
    (heldReservations (pods.filter fun p => podHasAnyReservationToleration p tolerationKey)) σ

lemma listedRight_stable (listed : Option (List Pod)) :
    Stable (idleCancel rid) (listedRight rid listed) :=
  fun σ σ' hrely h pods hpods => snapshotRight_stable σ σ' hrely (h pods hpods)

lemma tickAfterList_idle (passes : Nat) (listed : Option (List Pod)) :
    Triple runtime (fun _ => True) (idleCancel rid) i (listedRight rid listed)
      (tickAfterList config now passes listed) fun _ _ => True := by
  have hcheck : NoNoshowCancel
      (Prog.modify fun s : ControllerState => s.checkNoshowDeadlines now) :=
    .modify fun _ => trivial
  cases listed with
  | none =>
    exact (NoNoshowCancel.idle (.seq (.pure trivial) fun _ => .seq hcheck fun _ =>
      .seq (.pure trivial) fun _ => (tickRest_orderly config now none passes).noCancel)).pre
        fun _ _ _ => trivial
  | some pods =>
    refine .pre (P := snapshotRight rid (heldReservations
      (pods.filter fun p => podHasAnyReservationToleration p tolerationKey))) ?_
      fun σ _ h => h pods rfl
    exact .bind (snapshotRight_modify _) fun _ => .bind (snapshotRight_modify _) fun _ =>
      .bind (tickSnapshot_idle config now _) fun _ =>
        (tickRest_orderly config now _ passes).noCancel.idle

/-- What the LIST answers shows every holder of the reservation. -/
lemma listPods_shows {i : Nat} {c : Choice} {listed : Option (List Pod)} {s : ControllerState} {w w' : World}
    (htolerated : carriersTolerated rid w) (hw : runtime.answer i .listPods c w = some (listed, w')) :
    w' = w ∧ listedRight rid listed ⟨s, w'⟩ := by
  cases hw
  refine ⟨rfl, fun pods hpods hrid hcarried => hrid ?_⟩
  split at hpods
  · cases hpods
    obtain ⟨p, hp, hlive⟩ := List.any_eq_true.mp hcarried
    have hshown : podHasAnyReservationToleration p tolerationKey = true := by
      simpa [hlive] using List.all_eq_true.mp htolerated p hp
    obtain ⟨hphase, hcarries⟩ : (p.phase = .running ∨ p.phase = .pending) ∧
        p.bookingReference = some rid := by simpa using hlive
    simp only [heldReservations, List.mem_filterMap, List.mem_filter]
    exact ⟨p, ⟨⟨hp, hshown⟩, by simpa using hphase⟩, hcarries⟩
  · cases hpods

lemma tick_focusOk {L : Type} {p : Pool ControllerState World Request Answer L} {l : L}
    {passes : Nat} (hi : p.tasks[i]? = some (l, .waiting .listPods (tickAfterList config now passes))) :
    focusOk runtime (fun _ => True) (idleCancel rid) i p := by
  refine ⟨trivial, l, _, hi, fun σ₁ _ _ => ⟨trivial, fun c listed w has hw =>
    ⟨trivial, trivial, fun σ₂ hrely _ => ?_⟩⟩⟩
  obtain ⟨rfl, hshown⟩ := listPods_shows (s := σ₁.shared) (has rfl) hw
  refine wp_mono (fun _ _ _ _ => ⟨trivial, trivial, trivial⟩)
    (tickAfterList_idle config now passes listed σ₂ σ₂ trivial trivial ?_)
  exact listedRight_stable listed _ σ₂ hrely hshown

end Focal

section Run

variable {L : Type} (body : L → Ctl Unit) (rid i : Nat)

/-- Others put no live pod on the reservation; and where the tick lists the pods, the list shows
those which carry it. -/
def leavesIdle (p : Pool ControllerState World Request Answer L) (m : Move L Choice WorldEvent) :
    Prop :=
  (m.task? ≠ some i → carried rid (step runtime body outside p m).snap.world →
    carried rid p.snap.world) ∧
  ((servedCall i p m).any (fun call => isList call.1) → carriersTolerated rid p.snap.world)

/-- Where the step has the task cancel the reservation as a no-show, no live pod carries it. -/
def cancelsIdle (p : Pool ControllerState World Request Answer L) (m : Move L Choice WorldEvent) :
    Prop :=
  (issuedCall runtime i body outside p m).bind noshowCancelOf = some rid →
    ¬ carried rid (step runtime body outside p m).snap.world

instance (p : Pool ControllerState World Request Answer L) (m : Move L Choice WorldEvent) :
    Decidable (leavesIdle body rid i p m) :=
  inferInstanceAs (Decidable ((m.task? ≠ some i → _ → _) ∧ (_ → _)))

instance (p : Pool ControllerState World Request Answer L) (m : Move L Choice WorldEvent) :
    Decidable (cancelsIdle body rid i p m) :=
  inferInstanceAs (Decidable (_ = _ → ¬ _))

variable {body rid i}

lemma leavesIdle_meets {p : Pool ControllerState World Request Answer L}
    {m : Move L Choice WorldEvent} (h : leavesIdle body rid i p m) :
    focusMeets runtime (fun _ => True) (idleCancel rid) i body outside p m := by
  refine ⟨fun hm => ⟨h.1 hm, trivial⟩, ?_⟩
  intro q c hserved hlist
  exact h.2 (by rw [hserved]; exact hlist)

lemma cancelsIdle_of_none {p : Pool ControllerState World Request Answer L}
    {m : Move L Choice WorldEvent} (h : issuedCall runtime i body outside p m = none) :
    cancelsIdle body rid i p m := by
  rw [cancelsIdle, h]
  intro hcancel
  cases hcancel

lemma cancelsIdle_of_ensures {p : Pool ControllerState World Request Answer L}
    {m : Move L Choice WorldEvent}
    (h : focusEnsures runtime (idleCancel rid) i body outside p m) : cancelsIdle body rid i p m := by
  intro hcancel
  obtain ⟨q, hq, hrid⟩ := Option.bind_eq_some_iff.mp hcancel
  exact h.1 q hq hrid

/-- A queue tick among any other tasks, from its start on.  Where from the answer to its LIST on
no other step puts a live pod on the reservation, the tick cancels it as a no-show only while no
live pod carries it. -/
theorem runQueueTick_cancelsIdle (body : L → Ctl Unit) (config : Config) (passes rid i : Nat) (l : L)
    (p : Pool ControllerState World Request Answer L) (cs : List Choice) (c : Choice)
    (before ms : List (Move L Choice WorldEvent))
    (hi : p.tasks[i]? = some (l, .ready (runQueueTick config passes)))
    (hbefore : ∀ m ∈ before, m.task? ≠ some i)
    (hms : runMeets runtime body outside (leavesIdle body rid i)
      (runMoves runtime body outside p (.run i cs :: before)) (.serve i c :: ms)) :
    runMeets runtime body outside (cancelsIdle body rid i) p
      (.run i cs :: before ++ .serve i c :: ms) := by
  have hlt : i < p.tasks.length := (List.getElem?_eq_some_iff.mp hi).1
  obtain ⟨now, hadvance⟩ := advance_runQueueTick config passes i cs p.snap
  have hlist : (step runtime body outside p (.run i cs)).tasks[i]? =
      some (l, .waiting .listPods (tickAfterList config now passes)) := by
    simp only [step, hi, Pool.setTask]
    rw [List.getElem?_set_self hlt, hadvance]
  have hfirst : cancelsIdle body rid i p (.run i cs) := by
    rw [cancelsIdle, issuedCall, hi, hlist]
    intro hcancel
    cases hcancel
  refine runMeets_append.mpr ⟨⟨hfirst, ?_⟩, ?_⟩
  · exact runMeets_mono (fun _ _ => cancelsIdle_of_none) (issuesNothing_others hlist hbefore)
  · have hwaits : (runMoves runtime body outside p (.run i cs :: before)).tasks[i]? =
        some (l, .waiting .listPods (tickAfterList config now passes)) :=
      runMoves_task_other (p := step runtime body outside p (.run i cs)) hlist hbefore
    exact runMeets_mono (fun _ _ => cancelsIdle_of_ensures)
      (focus_run (tick_focusOk config now hwaits) (runMeets_mono (fun _ _ => leavesIdle_meets) hms))

end Run

/-- It carries the booking, and is done. -/
def leavingHolder : Pod where
  uid := "B"
  ns := "ns"
  name := "b"
  gpuClass := "c"
  gpuCount := 1
  phase := .succeeded
  bookingReference := some 1
  tolerations := [{ key := some tolerationKey, value := some "c", effect := some "NoSchedule" }]

def waitingPod : Pod where
  uid := "A"
  ns := "ns"
  name := "a"
  gpuClass := "c"
  gpuCount := 1

/-- The booking was declared a no-show, and its cancel is pending; a pod is queued for it behind
one which has just gone. -/
def declaredBooking : System where
  snap :=
    { shared :=
        { reservations := [abandonedBooking]
          noshowReservationIds := {1}
          pendingNoshowCancels := {1}
          entries := ⟨[{ podUid := "A", podName := "a", podNamespace := "ns", gpuClassLabel := "c",
                         gpuRequested := 1, reservation := abandonedBooking, nextAttemptAt := 0 }]⟩
          taskQueue := Dict.ofList [("A", 0)]
          occupancy := Dict.ofList [(1, Dict.ofList [("B", 1)])] }
      world :=
        { clock := 1
          pods := Dict.ofList [(("ns", "a"), waitingPod)]
          created := Dict.ofList [("A", ("ns", "a")), ("B", ("ns", "b"))]
          rows := Dict.ofList [(1, abandonedBooking)] } }
  tasks := [(.queueTick 1, .ready (runQueueTick {} 1)),
    (.watch .deleted leavingHolder 1, .ready (watchEvent {} 1 .deleted leavingHolder))]

/-- The tick goes on, once its LIST is answered, up to the cancel. -/
def tickToCancel : List SystemMove := [.run 0 [], .serve 0 {}, .run 0 []]

lemma declaredBooking_leavesIdle :
    runMeets runtime (Job.program {}) outside (leavesIdle (Job.program {}) 1 0)
      (runMoves runtime (Job.program {}) outside declaredBooking (.run 0 [] :: []))
      (.serve 0 {} :: tickToCancel) := by
  decide +kernel

theorem runQueueTick_cancelsIdle_declared :
    runMeets runtime (Job.program {}) outside (cancelsIdle (Job.program {}) 1 0) declaredBooking
      (.run 0 [] :: [] ++ .serve 0 {} :: tickToCancel) :=
  runQueueTick_cancelsIdle (Job.program {}) {} 1 1 0 (.queueTick 1) declaredBooking [] {} []
    tickToCancel rfl (fun _ hm => absurd hm List.not_mem_nil) declaredBooking_leavesIdle

/-- The tick does cancel the booking. -/
example : (issuedCall runtime 0 (Job.program {}) outside
      (systemRun {} declaredBooking [.run 0 [], .serve 0 {}, .run 0 [], .serve 0 {}])
      (.run 0 [])).bind noshowCancelOf = some 1 := by
  decide +kernel

/-- The watch has sent the patch of the waiting pod. -/
def patchSent : List SystemMove :=
  [.run 1 [], .serve 1 {}, .run 1 [], .serve 1 {}, .run 1 []]

/-- The patch lands while the tick waits for the lock. -/
theorem runQueueTick_not_cancelsIdle :
    ¬ ∀ (config : Config) (passes rid i : Nat) (l : Job) (p : System) (cs : List Choice)
      (ms : List SystemMove), p.tasks[i]? = some (l, .ready (runQueueTick config passes)) →
        runMeets runtime (Job.program config) outside (cancelsIdle (Job.program config) rid i) p
          (.run i cs :: ms) := by
  intro h
  have hruns := h {} 1 1 0 (.queueTick 1) declaredBooking []
    (patchSent ++ [.serve 0 {}, .run 0 [], .serve 1 {}, .serve 0 {}, .run 0 []]) rfl
  revert hruns
  decide +kernel

end GpuReservation.Proofs
