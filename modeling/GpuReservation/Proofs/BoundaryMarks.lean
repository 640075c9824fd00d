import GpuReservation.Library.OneShot
import GpuReservation.Proofs.SweepVictims

/-!
# The marks of evaluated boundaries

Each phase of a boundary is evaluated once, however the sweeps are timed and wherever they fail.
-/

namespace GpuReservation.Proofs

open GpuReservation.Library GpuReservation.Model

/-- The sweep, from the instant it judges by on. -/
def sweepAt (config : Config) (now : Instant) : Ctl Unit := do
  let lead := minutes config.preemptionLeadMinutes
  Prog.modify fun s => s.prunePreemptionMarks now lead
  let s ← Prog.get
  if s.sweepIdle config now then return ()
  else sweepClusters config now (s.upcomingBoundaries now lead) (s.headroomDue config now)

lemma runPreemptionSweep_eq (config : Config) :
    runPreemptionSweep config = call .now >>= sweepAt config := rfl

/-! The sweep with its planning of victims as a parameter, over the state of the controller and what stands beside
it. -/

section Planned

variable {D : Type} (embed : (α : Type) → Ctl α → Prog D Request Answer α)
  (victims : BoundaryPreemptionNeed → Option Instant → Prog D Request Answer (List (PodRuntimeView × PodEvent)))
  (config : Config) (now : Instant)

def lockedWith {α : Type} (body : Prog D Request Answer α) : Prog D Request Answer α := do
  embed _ (call .acquireReservationLock)
  let a ← body
  embed _ (call .releaseReservationLock)
  return a

def planBoundaryWith (capacity : Dict String Nat) (pods : List PodRuntimeView)
    (toKill : List (PodRuntimeView × PodEvent)) (boundary : Instant) :
    Prog D Request Answer (List (PodRuntimeView × PodEvent)) := do
  let s ← embed _ Prog.get
  if s.firedAt boundary (boundary ≤ now) then return toKill
  else
    embed _ (Prog.modify fun s => s.markFired boundary (boundary ≤ now))
    let chosen ← victims (s.planBoundaryCandidates boundary capacity (notDoomed pods toKill) now) (some boundary)
    return toKill ++ chosen

def planHeadroomWith (capacity : Dict String Nat) (pods : List PodRuntimeView)
    (toKill : List (PodRuntimeView × PodEvent)) : Prog D Request Answer (List (PodRuntimeView × PodEvent)) := do
  embed _ (Prog.modify fun s => { s with headroomLastEval := some now })
  let s ← embed _ Prog.get
  let chosen ← victims (s.planHeadroomCandidates capacity (notDoomed pods toKill) now
    config.headroomTargetPercent config.terminationWarningEnabled) none
  return toKill ++ chosen

def sweepUnderLockWith (boundaries : List Instant) (headroomDue : Bool) (snapshot : List Pod)
    (nodes : NodeSnapshot) : Prog D Request Answer (List Uid) := do
  let capacity := gpuCapacityByClass nodes.inventory
  let pods ← embed _ (mergeOndemandIntoBookings config (snapshot.map (podView (some nodes.inventory))) now)
  let pods ← embed _ (adoptPods config pods now .overstay)
  let toKill ← boundaries.foldlM (planBoundaryWith embed victims now capacity pods) []
  let toKill ← if headroomDue then planHeadroomWith embed victims config now capacity pods toKill
    else pure toKill
  embed _ (toKill.forM (preemptPod config now))
  return toKill.map (·.1.uid)

def sweepClustersWith (boundaries : List Instant) (headroomDue : Bool) : Prog D Request Answer Unit := do
  let snapshot ← embed _ snapshotToleratedPods
  match snapshot with
  | none => return ()
  | some pods => do
    let nodes ← embed _ (call .snapshotNodes)
    match nodes with
    | none => return ()
    | some n => do
      let doomed ← lockedWith embed (sweepUnderLockWith embed victims config now boundaries headroomDue pods n)
      if config.terminationWarningEnabled then
        let outstanding ← embed _ (call (.reconcileWarnings doomed))
        embed _ (Prog.modify fun s => { s with terminationWarningsOutstanding := outstanding })
      else return ()

def sweepWith : Prog D Request Answer Unit := do
  let lead := minutes config.preemptionLeadMinutes
  embed _ (Prog.modify fun s => s.prunePreemptionMarks now lead)
  let s ← embed _ Prog.get
  if s.sweepIdle config now then return ()
  else sweepClustersWith embed victims config now (s.upcomingBoundaries now lead) (s.headroomDue config now)

end Planned

lemma sweepWith_plain (config : Config) (now : Instant) :
    sweepWith (fun _ p => p) (victimsOf config now) config now = sweepAt config now := rfl

/-- The state, and the boundaries with the phases whose victims were planned so far. -/
abbrev Noted := ControllerState × List (Instant × Bool)

/-- The planning of victims, each boundary with its phase being noted as often as it is planned. -/
def notedVictims (config : Config) (now : Instant) (need : BoundaryPreemptionNeed) (boundary : Option Instant) :
    Prog Noted Request Answer (List (PodRuntimeView × PodEvent)) := do
  Prog.note fun planned => planned ++ (boundary.map fun b => (b, decide (b ≤ now))).toList
  Prog.noteless (victimsOf config now need boundary)

/-- The sweep, which notes the boundaries it plans. -/
def sweepNoted (config : Config) (now : Instant) : Prog Noted Request Answer Unit :=
  sweepWith (fun _ => Prog.noteless) (notedVictims config now) config now

/-- The marks of the boundaries and phases; a boundary is considered as long as it is alive. -/
def boundaryMarks (lead : Int) : OneShot ControllerState (Instant × Bool) Instant where
  marked k s := s.firedAt k.1 k.2
  alive k now := now - lead < k.1
  antitone := by
    intro k t t' hle halive
    have : t - lead ≤ t' - lead := Int.sub_le_sub_right hle lead
    exact lt_of_le_of_lt this halive

def SameMarks (s s' : ControllerState) : Prop := s'.preemptionFired = s.preemptionFired

/-- At `now` the marks of the boundaries still considered are kept. -/
abbrev KeepsMarks (now : Instant) (lead : Int) : ControllerState → ControllerState → Prop :=
  (boundaryMarks lead).Keeps now

/-- A part which neither marks nor forgets. -/
def LeavesMarks {α : Type} (p : Ctl α) : Prop :=
  p.Within SameMarks (fun _ => True) fun _ => True

/-- A part of the sweep at `now`. -/
def MarksWithin {α : Type} (now : Instant) (lead : Int) (p : Ctl α) : Prop :=
  p.Within (KeepsMarks now lead) (fun _ => True) fun _ => True

section

variable {now : Instant} {lead : Int} {s s' : ControllerState} {b : Instant} {phase : Bool}

lemma SameMarks.firedAt (h : SameMarks s s') (b : Instant) (phase : Bool) :
    s'.firedAt b phase = s.firedAt b phase := by
  unfold ControllerState.firedAt
  rw [h]

lemma SameMarks.keeps (h : SameMarks s s') : KeepsMarks now lead s s' := fun k _ hmarked =>
  (h.firedAt k.1 k.2).trans hmarked

lemma LeavesMarks.within {α : Type} {p : Ctl α} (h : LeavesMarks p) : MarksWithin now lead p :=
  h.mono (fun _ _ hk => hk.keeps) (fun _ _ => trivial) fun _ _ => trivial

lemma firedAt_prunePreemptionMarks (s : ControllerState) (now : Instant) (lead : Int) (b : Instant)
    (phase : Bool) :
    (s.prunePreemptionMarks now lead).firedAt b phase =
      (decide (now - lead < b) && s.firedAt b phase) := by
  simp only [ControllerState.firedAt, ControllerState.prunePreemptionMarks, Dict.get?_filter]
  by_cases hb : now - lead < b
  · cases hget : s.preemptionFired.get? b with
    | none => simp [hb]
    | some phases => simp [hb, Option.filter]
  · simp [hb]

lemma prunePreemptionMarks_keeps (s : ControllerState) :
    KeepsMarks now lead s (s.prunePreemptionMarks now lead) := by
  rintro ⟨b, phase⟩ halive hmarked
  change s.firedAt b phase = true at hmarked
  change (s.prunePreemptionMarks now lead).firedAt b phase = true
  rw [firedAt_prunePreemptionMarks, hmarked, Bool.and_true, decide_eq_true_eq]
  exact halive

lemma markFired_keeps (s : ControllerState) (b : Instant) (phase : Bool) :
    KeepsMarks now lead s (s.markFired b phase) := by
  rintro ⟨b', phase'⟩ - hmarked
  change s.firedAt b' phase' = true at hmarked
  change (s.markFired b phase).firedAt b' phase' = true
  rw [ControllerState.firedAt_markFired, hmarked, Bool.or_true]

lemma firedAt_markFired_self (s : ControllerState) (b : Instant) (phase : Bool) :
    (s.markFired b phase).firedAt b phase = true := by
  rw [ControllerState.firedAt_markFired]
  simp

end

/-! The parts of the sweep. -/

lemma get_leavesMarks : LeavesMarks (Prog.get : Ctl ControllerState) := .get fun _ => rfl

lemma call_leavesMarks (q : Request) : LeavesMarks (call q) := .ask trivial

lemma MergesOnly.leavesMarks {α : Type} {p : Ctl α} (h : MergesOnly p) : LeavesMarks p := by
  refine h.mono (fun s s' hk => ?_) (fun _ _ => trivial) fun _ _ => trivial
  obtain ⟨_, _, _, rfl⟩ := hk
  rfl

lemma ChoosesOnly.leavesMarks {α : Type} {p : Ctl α} (h : ChoosesOnly p) : LeavesMarks p :=
  h.mono (fun _ _ heq => by rw [heq]; rfl) (fun _ _ => trivial) fun _ _ => trivial

lemma PreemptsOnly.leavesMarks {α : Type} {victim : PodRuntimeView} {p : Ctl α}
    (h : PreemptsOnly victim p) : LeavesMarks p := by
  refine h.mono (fun s s' hk => ?_) (fun _ _ => trivial) fun _ _ => trivial
  obtain ⟨_, rfl⟩ := hk
  rfl

section Noted

variable (config : Config) (now : Instant) {lead : Int} {α β : Type}

lemma sweepNoted_shadows : (sweepNoted config now).Shadows (sweepAt config now) := by
  have hvictims : ∀ need b, (notedVictims config now need b).Shadows (victimsOf config now need b) :=
    fun need b => .note_bind _ (.noteless _)
  have hboundary : ∀ capacity pods toKill b,
      (planBoundaryWith (fun _ => Prog.noteless) (notedVictims config now) now capacity pods toKill b).Shadows
        (planBoundary config now capacity pods toKill b) := by
    intro capacity pods toKill b
    refine .bind (.noteless _) fun s => ?_
    dsimp only
    split
    · exact .ret _
    · exact .bind (.noteless _) fun _ => .bind (hvictims _ _) fun _ => .ret _
  have hlocked : ∀ boundaries due snapshot nodes,
      (sweepUnderLockWith (fun _ => Prog.noteless) (notedVictims config now) config now boundaries due snapshot
        nodes).Shadows (sweepUnderLock config now boundaries due snapshot nodes) := by
    intro boundaries due snapshot nodes
    refine .bind (.noteless _) fun pods => .bind (.noteless _) fun pods =>
      .bind (.foldlM (fun toKill b => hboundary _ pods toKill b) boundaries []) fun toKill => ?_
    have hkills : ∀ toKill : List (PodRuntimeView × PodEvent), Prog.Shadows (L := List (Instant × Bool)) (do
        Prog.noteless (toKill.forM (preemptPod config now))
        return toKill.map (·.1.uid)) (do
        toKill.forM (preemptPod config now)
        return toKill.map (·.1.uid)) := fun toKill => .bind (.noteless _) fun _ => .ret _
    dsimp only
    split
    · exact .bind (.bind (.noteless _) fun _ => .bind (.noteless _) fun _ =>
        .bind (hvictims _ _) fun _ => .ret _) hkills
    · exact .bind (.ret _) hkills
  refine .bind (.noteless _) fun _ => .bind (.noteless _) fun s => ?_
  split
  · exact .ret _
  · refine .bind (.noteless _) fun snapshot => ?_
    cases snapshot with
    | none => exact .ret _
    | some pods =>
      refine .bind (.noteless _) fun nodes => ?_
      cases nodes with
      | none => exact .ret _
      | some nodes =>
        refine .bind (.bind (.noteless _) fun _ => .bind (hlocked _ _ _ _) fun _ =>
          .bind (.noteless _) fun _ => .ret _) fun doomed => ?_
        dsimp only
        split
        · exact .bind (.noteless _) fun _ => .noteless _
        · exact .ret _

/-- Wherever the part may break off, what was planned was planned once, and is marked. -/
def Upheld (now : Instant) (lead : Int) (p : Prog Noted Request Answer α) : Prop :=
  ∀ (ans : ∀ q, Answer q → Prop) (x : Noted), (boundaryMarks lead).Spent now x →
    p.Upholds (besideNotes SameMarks) ans ((boundaryMarks lead).Spent now)
      (fun _ => (boundaryMarks lead).Spent now) x

lemma sameMarks_keeps (lead : Int) (t : Instant) (s s' : ControllerState) (h : SameMarks s s') :
    (boundaryMarks lead).Keeps t s s' := h.keeps

variable {now} in
lemma MarksWithin.upheld {p : Ctl α} (h : MarksWithin now lead p) : Upheld now lead (Prog.noteless p) := by
  intro ans x hx
  refine (Prog.Upholds.of_within (Prog.noteless_within h) (fun y y' hk hy => ?_)
    (fun y y' ho hy => hy.of_others (sameMarks_keeps lead) ho) hx).mono fun a y hy => hy.2
  obtain ⟨s, planned⟩ := y
  obtain ⟨s', planned'⟩ := y'
  obtain ⟨hkeeps, rfl⟩ := hk
  exact hy.keeps hkeeps

variable {now} in
lemma Upheld.pure (a : α) : Upheld now lead (Pure.pure a) := fun _ _ hx => hx

variable {now} in
lemma Upheld.bind {p : Prog Noted Request Answer α} {f : α → Prog Noted Request Answer β}
    (h : Upheld now lead p) (hf : ∀ a, Upheld now lead (f a)) : Upheld now lead (p >>= f) :=
  fun ans x hx => (h ans x hx).bind fun a y hy => hf a ans y hy

lemma notedVictims_none_upheld (need : BoundaryPreemptionNeed) :
    Upheld now lead (notedVictims config now need none) := by
  intro ans x hx
  obtain ⟨s, planned⟩ := x
  have hrest : Upheld now lead (Prog.noteless (victimsOf config now need none)) :=
    (victimsOf_chooses config now need none).leavesMarks.within.upheld
  refine ⟨hx, ?_⟩
  have hsame : planned ++ ((none : Option Instant).map fun b => (b, decide (b ≤ now))).toList = planned :=
    List.append_nil planned
  dsimp only
  rw [hsame]
  exact hrest ans _ hx

/-- A boundary whose mark is not set is marked, and planned. -/
lemma planBoundary_upheld (capacity : Dict String Nat) (pods : List PodRuntimeView)
    (toKill : List (PodRuntimeView × PodEvent)) {boundary : Instant} (halive : now - lead < boundary) :
    Upheld now lead (planBoundaryWith (fun _ => Prog.noteless) (notedVictims config now) now capacity pods toKill
      boundary) := by
  intro ans x hx
  obtain ⟨s, planned⟩ := x
  refine ⟨hx, ?_⟩
  change Prog.Upholds _ _ _ (if s.firedAt boundary (boundary ≤ now) = true then _ else _) _ (s, planned)
  split
  · exact hx
  · rename_i hfired
    have hfresh := hx.fresh (k := (boundary, decide (boundary ≤ now))) halive (eq_false_of_ne_true hfired)
    have hmarked := hx.keeps (markFired_keeps s boundary (boundary ≤ now))
    refine ⟨hx, ?_⟩
    have hplan : ∀ need, (notedVictims config now need (some boundary)).Upholds (besideNotes SameMarks) ans
        ((boundaryMarks lead).Spent now) (fun _ => (boundaryMarks lead).Spent now)
        (s.markFired boundary (boundary ≤ now), planned) := by
      intro need
      refine ⟨hmarked, ?_⟩
      exact (victimsOf_chooses config now need (some boundary)).leavesMarks.within.upheld ans _
        (hmarked.note hfresh (firedAt_markFired_self s boundary _))
    exact (hplan _).bind fun chosen y hy => hy

lemma planHeadroom_upheld (capacity : Dict String Nat) (pods : List PodRuntimeView)
    (toKill : List (PodRuntimeView × PodEvent)) :
    Upheld now lead (planHeadroomWith (fun _ => Prog.noteless) (notedVictims config now) config now capacity pods
      toKill) := by
  have hmark : LeavesMarks (Prog.modify fun s : ControllerState => { s with headroomLastEval := some now }) :=
    .modify fun _ => rfl
  exact .bind hmark.within.upheld fun _ => .bind get_leavesMarks.within.upheld fun _ =>
    .bind (notedVictims_none_upheld config now _) fun _ => .pure _

lemma sweepUnderLock_upheld {boundaries : List Instant} (halive : ∀ b ∈ boundaries, now - lead < b)
    (headroomDue : Bool) (snapshot : List Pod) (nodes : NodeSnapshot) :
    Upheld now lead (sweepUnderLockWith (fun _ => Prog.noteless) (notedVictims config now) config now boundaries
      headroomDue snapshot nodes) := by
  refine .bind (mergeOndemandIntoBookings_merges config now _).leavesMarks.within.upheld fun pods =>
    .bind (adoptPods_relinks now config pods .overstay).merges.leavesMarks.within.upheld fun pods =>
      .bind ?_ fun toKill => ?_
  · intro ans x hx
    exact .foldlM (fun b hb toKill y hy => planBoundary_upheld config now _ pods toKill (halive b hb) ans y hy) hx
  · have hkills : ∀ toKill : List (PodRuntimeView × PodEvent), Upheld now lead (do
        Prog.noteless (toKill.forM (preemptPod config now))
        return toKill.map (·.1.uid)) := fun toKill =>
      .bind (MarksWithin.upheld (.forM fun victim _ => (preemptPod_preempts config now victim).leavesMarks.within))
        fun _ => .pure _
    dsimp only
    split
    · exact .bind (planHeadroom_upheld config now _ pods toKill) hkills
    · exact .bind (.pure toKill) hkills

/-! The parts of the sweep without notes. -/

lemma planBoundary_marks (capacity : Dict String Nat) (pods : List PodRuntimeView)
    (toKill : List (PodRuntimeView × PodEvent)) (boundary : Instant) :
    MarksWithin now lead (planBoundary config now capacity pods toKill boundary) := by
  refine .seq get_leavesMarks.within fun s => ?_
  split
  · exact .pure trivial
  · exact .seq (.modify fun s => markFired_keeps s _ _) fun _ =>
      .seq (victimsOf_chooses config now _ _).leavesMarks.within fun _ => .pure trivial

lemma sweepUnderLock_marks (boundaries : List Instant) (headroomDue : Bool) (snapshot : List Pod)
    (nodes : NodeSnapshot) :
    MarksWithin now lead (sweepUnderLock config now boundaries headroomDue snapshot nodes) := by
  have hkills : ∀ toKill : List (PodRuntimeView × PodEvent), MarksWithin now lead (do
      toKill.forM (preemptPod config now)
      return toKill.map (·.1.uid)) := fun toKill =>
    .seq (.forM fun victim _ => (preemptPod_preempts config now victim).leavesMarks.within) fun _ =>
      .pure trivial
  refine .seq (mergeOndemandIntoBookings_merges config now _).leavesMarks.within fun pods =>
    .seq (adoptPods_relinks now config pods .overstay).merges.leavesMarks.within fun pods =>
      .seq (.foldlM (fun b _ toKill => planBoundary_marks config now _ pods toKill b) []) fun toKill => ?_
  dsimp only
  split
  · have hheadroom : LeavesMarks (planHeadroom config now (gpuCapacityByClass nodes.inventory) pods toKill) :=
      .seq (.modify fun _ => rfl) fun _ => .seq get_leavesMarks fun _ =>
        .seq (victimsOf_chooses config now _ none).leavesMarks fun _ => .pure trivial
    exact .seq hheadroom.within hkills
  · exact .seq (.pure trivial) hkills

lemma sweepAt_marks : MarksWithin now (minutes config.preemptionLeadMinutes) (sweepAt config now) := by
  refine .seq (.modify prunePreemptionMarks_keeps) fun _ => .seq get_leavesMarks.within fun s => ?_
  split
  · exact .pure trivial
  · refine .seq (.seq (call_leavesMarks _).within fun _ => .pure trivial) fun snapshot => ?_
    split
    · exact .pure trivial
    · refine .seq (call_leavesMarks _).within fun nodes => ?_
      split
      · exact .pure trivial
      · refine .seq (.seq (call_leavesMarks _).within fun _ => .seq (sweepUnderLock_marks config now _ _ _ _)
          fun _ => .seq (call_leavesMarks _).within fun _ => .pure trivial) fun doomed => ?_
        split
        · refine .seq (call_leavesMarks _).within fun _ => .modify fun s => ?_
          exact SameMarks.keeps rfl
        · exact .pure trivial

lemma upcomingBoundaries_alive {s : ControllerState} {b : Instant}
    (hb : b ∈ s.upcomingBoundaries now lead) : now - lead < b := by
  obtain ⟨_, _, _, hafter, _⟩ := mem_upcomingBoundaries.mp hb
  exact hafter

lemma sweepNoted_upheld : Upheld now (minutes config.preemptionLeadMinutes) (sweepNoted config now) := by
  have hprune : MarksWithin now (minutes config.preemptionLeadMinutes)
      (Prog.modify fun s => s.prunePreemptionMarks now (minutes config.preemptionLeadMinutes)) :=
    .modify prunePreemptionMarks_keeps
  have hcall : ∀ q, Upheld now (minutes config.preemptionLeadMinutes) (Prog.noteless (call q)) := fun q =>
    (call_leavesMarks q).within.upheld
  refine .bind hprune.upheld fun _ => ?_
  intro ans x hx
  obtain ⟨s, planned⟩ := x
  refine ⟨hx, ?_⟩
  change Prog.Upholds _ _ _ (if s.sweepIdle config now = true then _ else _) _ (s, planned)
  split
  · exact hx
  · suffices hclusters : Upheld now (minutes config.preemptionLeadMinutes)
        (sweepClustersWith (fun _ => Prog.noteless) (notedVictims config now) config now
          (s.upcomingBoundaries now (minutes config.preemptionLeadMinutes)) (s.headroomDue config now)) from
      hclusters ans _ hx
    refine .bind ?_ fun snapshot => ?_
    · have hlist : LeavesMarks snapshotToleratedPods := .seq (call_leavesMarks _) fun _ => .pure trivial
      exact hlist.within.upheld
    · cases snapshot with
      | none => exact .pure ()
      | some pods =>
        refine .bind (hcall _) fun nodes => ?_
        cases nodes with
        | none => exact .pure ()
        | some nodes =>
          refine .bind (.bind (hcall _) fun _ => .bind (sweepUnderLock_upheld config now
            (fun b hb => upcomingBoundaries_alive now hb) _ _ _) fun _ => .bind (hcall _) fun _ => .pure _)
              fun doomed => ?_
          dsimp only
          split
          · refine .bind (hcall _) fun _ => MarksWithin.upheld (.modify fun s => ?_)
            exact SameMarks.keeps rfl
          · exact .pure ()

/-- Both snapshots were had. -/
def SnapshotsTaken (calls : List (Sigma Answer)) : Prop :=
  (∃ pods, (⟨.listPods, some pods⟩ : Sigma Answer) ∈ calls) ∧
    ∃ nodes, (⟨.snapshotNodes, some nodes⟩ : Sigma Answer) ∈ calls

/-- Nothing was planned and no mark was set. -/
structure Unused (x x' : Noted) : Prop where
  planned : x'.2 = x.2
  marks : ∀ b phase, x'.1.firedAt b phase = true → x.1.firedAt b phase = true

lemma Unused.trans {x y z : Noted} (h : Unused x y) (h' : Unused y z) : Unused x z :=
  ⟨h'.planned.trans h.planned, fun b phase hz => h.marks b phase (h'.marks b phase hz)⟩

lemma unused_of_others {x y : Noted} (h : besideNotes SameMarks x y) : Unused x y :=
  ⟨h.2, fun b phase hy => (h.1.firedAt b phase).symm.trans hy⟩

lemma unused_of_prune (x : Noted) (lead : Int) :
    Unused x (x.1.prunePreemptionMarks now lead, x.2) := by
  refine ⟨rfl, fun b phase hmarked => ?_⟩
  rw [firedAt_prunePreemptionMarks, Bool.and_eq_true] at hmarked
  exact hmarked.2

/-- Nothing is planned or marked before both snapshots are had. -/
lemma sweepNoted_unused {ans : ∀ q, Answer q → Prop} {x x' : Noted} {tr : List (Event Noted Answer)}
    (h : (sweepNoted config now).Ran (besideNotes SameMarks) ans x tr x')
    (hnot : ¬SnapshotsTaken (callsOf tr)) : Unused x x' := by
  have hpruned := unused_of_prune now x (minutes config.preemptionLeadMinutes)
  rcases h with ⟨-, rfl⟩ | ⟨tr₁, rfl, ⟨-, rfl⟩ | ⟨tr₂, rfl, h⟩⟩
  · exact ⟨rfl, fun _ _ h => h⟩
  · exact hpruned
  · change Prog.Ran _ _ (if ControllerState.sweepIdle _ config now = true then _ else _) _ _ _ at h
    split at h
    · obtain ⟨-, rfl⟩ := h
      exact hpruned
    · rcases h with ⟨-, hothers⟩ | ⟨listed, y, tr₃, -, hy, rfl, h⟩
      · exact hpruned.trans (unused_of_others hothers)
      · have hlisted := hpruned.trans (unused_of_others hy)
        cases listed with
        | none =>
          obtain ⟨-, rfl⟩ := h
          exact hlisted
        | some pods =>
          rcases h with ⟨-, hothers⟩ | ⟨nodes, z, tr₄, -, hz, rfl, h⟩
          · exact hlisted.trans (unused_of_others hothers)
          · cases nodes with
            | none =>
              obtain ⟨-, rfl⟩ := h
              exact hlisted.trans (unused_of_others hz)
            | some nodes =>
              refine absurd ⟨⟨pods, ?_⟩, nodes, ?_⟩ hnot
              · simp
              · simp

end Noted

/-- Over any sweeps at instants which do not go back, broken off anywhere, the victims of each boundary are planned
at most once in each phase; a sweep which does not have both snapshots plans none and sets no mark; and a mark which
was forgotten is of a boundary which no later sweep considers, whatever the reservations are then.  The sweeps may
all be noted. -/
structure OncePerPhase (config : Config) : Prop where
  noted : ∀ ans t₀ s₀ t s tr, Repeated SameMarks ans (sweepAt config) t₀ s₀ t s tr → ∃ tr' planned,
    Repeated (besideNotes SameMarks) ans (sweepNoted config) t₀ (s₀, []) t (s, planned) tr' ∧
      callsOf tr' = callsOf tr
  once : ∀ ans t₀ s₀ t s planned tr,
    Repeated (besideNotes SameMarks) ans (sweepNoted config) t₀ (s₀, []) t (s, planned) tr →
      ∀ b phase, planned.count (b, phase) ≤ 1
  unused : ∀ ans now x tr x', (sweepNoted config now).Ran (besideNotes SameMarks) ans x tr x' →
    ¬SnapshotsTaken (callsOf tr) → Unused x x'
  forgotten : ∀ ans now s tr s', (sweepAt config now).Ran SameMarks ans s tr s' → ∀ c c' b phase,
    .own c c' ∈ tr → c.firedAt b phase = true → c'.firedAt b phase = false →
      ∀ later (sLater : ControllerState), now ≤ later →
        b ∉ sLater.upcomingBoundaries later (minutes config.preemptionLeadMinutes)

theorem sweeps_oncePerPhase (config : Config) : OncePerPhase config where
  noted _ _ _ _ _ _ h := h.noted (fun now => sweepNoted_shadows config now) []
  once _ _ _ _ _ _ _ h b phase := by
    have hspent := OneShot.spent_of_repeated (sameMarks_keeps (minutes config.preemptionLeadMinutes))
      (fun now x hx => sweepNoted_upheld config now _ x hx) h
    exact List.nodup_iff_count_le_one.mp hspent.once (b, phase)
  unused _ now _ _ _ h hnot := sweepNoted_unused config now h hnot
  forgotten _ now _ _ _ h c c' b phase hmem hold hnew later sLater hle hb := by
    have hkeeps := (Prog.ran_within (sweepAt_marks config now) h).1 c c' hmem
    have halive := (boundaryMarks _).antitone (b, phase) now later hle (upcomingBoundaries_alive later hb)
    exact Bool.false_ne_true (hnew.symm.trans (hkeeps (b, phase) halive hold))

/-- A booking starts in ten minutes. -/
def startsSoon : ControllerState where
  reservations := [
    { id := 1, gpuClassId := 1, gpuClass := { id := 1, name := "c" }, startUtc := minutes 10,
      endUtc := minutes 60, gpuCount := 1 }]

/-- A sweep of an empty cluster, which nobody disturbs. -/
def quietSweep (now : Instant) (x : Noted) : List (Event Noted Answer) × Noted :=
  (sweepNoted {} now).events (worldAnswer {} empty_unlocked {}) x

/-- Another sweep. -/
lemma quietSweep_next {t₀ t : Instant} {x₀ x : Noted} {tr : List (Event Noted Answer)}
    (h : Repeated (besideNotes SameMarks) canAnswer (sweepNoted {}) t₀ x₀ t x tr) (later : Instant)
    (hle : t ≤ later) :
    Repeated (besideNotes SameMarks) canAnswer (sweepNoted {}) t₀ x₀ later (quietSweep later x).2
      (tr ++ (quietSweep later x).1) :=
  .next h hle ⟨rfl, rfl⟩ (Prog.ran_events (fun _ => ⟨rfl, rfl⟩) (worldAnswer_canAnswer {} empty_unlocked {}) _ x)

/-- Sweeps at the start, a minute later and as the booking starts. -/
def threeSweeps : Noted := (quietSweep (minutes 10) (quietSweep (minutes 1) (quietSweep 0 (startsSoon, [])).2).2).2

/-- The victims of the booking are planned once before it opens, and once when it is open. -/
theorem sweeps_oncePerPhase_startsSoon :
    threeSweeps.2 = [(minutes 10, false), (minutes 10, true)] ∧ ∀ b phase, threeSweeps.2.count (b, phase) ≤ 1 := by
  refine ⟨by decide +kernel, ?_⟩
  have hnone : Repeated (besideNotes SameMarks) canAnswer (sweepNoted {}) 0 (startsSoon, []) 0 (startsSoon, []) [] :=
    .none
  have hfirst := quietSweep_next hnone 0 (le_refl 0)
  have hthird := quietSweep_next (quietSweep_next hfirst (minutes 1) (by decide)) (minutes 10) (by decide)
  change Repeated _ _ _ _ _ _ threeSweeps _ at hthird
  generalize threeSweeps = x at hthird ⊢
  obtain ⟨s, planned⟩ := x
  exact (sweeps_oncePerPhase {}).once canAnswer 0 startsSoon (minutes 10) s planned _ hthird

end GpuReservation.Proofs
