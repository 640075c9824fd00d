import GpuReservation.Library.Amid
import GpuReservation.Proofs.Gates
import GpuReservation.Proofs.NextAttempts

/-!
# Whom guard 4 holds

A candidate is noted as held by guard 4 from where the guard finds that its ask does not fit until its next
preflight starts.  The preflight and the judgement before the grant are made up of these moves, whatever
the others do while they wait.
-/

namespace GpuReservation.Proofs

open GpuReservation.Library
open GpuReservation.Model
open GpuReservation.Model.ControllerState

/-- The candidate is noted as held by guard 4. -/
def notedHeld (s : ControllerState) (ref : Ref) : Bool :=
  (s.candidates.get? ref).any (·.heldByOvercommit)

/-- The move has guard 4 find that the ask of the candidate does not fit. -/
def FoundUnfit (ref : Ref) (before : List GateMove) : GateMove → Prop
  | .judged config ref' durationSeconds now =>
    ref' = ref ∧ ∃ c, (gateRun before).controller.candidates.get? ref = some c ∧
      (gateRun before).controller.overcommitHolds config c durationSeconds now
  | _ => False

/-- In the run, guard 4 found that the ask of the candidate does not fit, and no preflight of it has started
since. -/
def OvercommitHeld (moves : List GateMove) (ref : Ref) : Prop :=
  SetSince (FoundUnfit ref) (fun move => move = .preflight ref) moves

section Noted

variable {s s' : ControllerState} {ref ref' : Ref}

lemma heldByOvercommit_candidate (s : ControllerState) (ref : Ref) :
    (s.candidate ref).heldByOvercommit = notedHeld s ref := by
  rw [ControllerState.candidate, Heap.read, notedHeld]
  cases s.candidates.get? ref <;> rfl

lemma notedHeld_of_candidates (h : s'.candidates = s.candidates) : notedHeld s' ref = notedHeld s ref := by
  rw [notedHeld, notedHeld, h]

lemma notedHeld_modifyCandidate (f : OnDemandCandidate → OnDemandCandidate) :
    notedHeld (s.modifyCandidate ref f) ref' =
      if ref = ref' then (s.candidates.get? ref').any fun c => (f c).heldByOvercommit
      else notedHeld s ref' := by
  rw [notedHeld, modifyCandidate, Heap.get?_modify]
  split
  · cases s.candidates.get? ref' <;> rfl
  · rfl

/-- Whoever was not there before is not held. -/
lemma any_keepHolds (olds nexts : List OnDemandCandidate) (ref : Ref) :
    ((keepHolds olds nexts)[ref]?).any (·.heldByOvercommit) = (olds[ref]?).any (·.heldByOvercommit) := by
  induction olds, nexts using keepHolds.induct generalizing ref with
  | case1 olds => rw [keepHolds]
  | case2 next nexts ih =>
    rw [keepHolds]
    cases ref with
    | zero => rfl
    | succ ref => exact (ih ref).trans (by simp)
  | case3 old olds next nexts ih =>
    rw [keepHolds]
    cases ref with
    | zero => rfl
    | succ ref => exact ih ref

lemma keepHolds_eq {olds nexts : List OnDemandCandidate}
    (h : nexts.map (·.heldByOvercommit) = olds.map (·.heldByOvercommit)) : keepHolds olds nexts = nexts := by
  induction olds, nexts using keepHolds.induct with
  | case1 olds =>
    rw [keepHolds, List.map_eq_nil_iff.mp h.symm]
  | case2 next nexts ih => cases h
  | case3 old olds next nexts ih =>
    obtain ⟨hfirst, hrest⟩ := List.cons_eq_cons.mp h
    have hheld : old.heldByOvercommit = next.heldByOvercommit := hfirst.symm
    rw [keepHolds, ih hrest, hheld]

/-- Only guard 4 and the preflight say whom guard 4 holds. -/
lemma notedHeld_apply (g : GateState) {move : GateMove} (hpreflight : ∀ r, move ≠ .preflight r)
    (hjudged : ∀ config r durationSeconds now, move ≠ .judged config r durationSeconds now) :
    notedHeld (g.apply move).controller ref = notedHeld g.controller ref := by
  cases move with
  | installed active maps now =>
    obtain ⟨entries, queue, h⟩ := installReservations_eq g.controller active maps now
    rw [GateState.apply, h]
    rfl
  | audited physical => cases physical <;> rfl
  | refreshed config snapshot takenAt nodes =>
    apply notedHeld_of_candidates
    change (g.controller.refreshNodeFeasibility config snapshot takenAt nodes).candidates = _
    unfold refreshNodeFeasibility
    cases nodes <;> cases config.ondemandLeaseEnabled <;> rfl
  | warned now overcommitFit => rfl
  | preflight r => exact absurd rfl (hpreflight r)
  | judged config r durationSeconds now => exact absurd rfl (hjudged config r durationSeconds now)
  | elsewhere next => exact any_keepHolds g.controller.candidates.cells next.candidates.cells ref

lemma notedHeld_judgeOvercommit (config : Config) (durationSeconds : Nat) (now : Instant) :
    notedHeld (s.judgeOvercommit config ref durationSeconds now) ref' = true ↔
      (ref = ref' ∧ ∃ c, s.candidates.get? ref' = some c ∧
        s.overcommitHolds config c durationSeconds now) ∨ notedHeld s ref' = true := by
  rw [judgeOvercommit]
  by_cases hholds : s.overcommitHolds config (s.candidate ref) durationSeconds now
  · rw [if_pos hholds, notedHeld_modifyCandidate]
    by_cases href : ref = ref'
    · subst href
      rw [if_pos rfl]
      cases hget : s.candidates.get? ref with
      | none => simp [notedHeld, hget]
      | some c =>
        have hread : s.candidate ref = c := Heap.read_eq_of_get? hget
        rw [hread] at hholds
        simp [hholds]
    · simp [href]
  · rw [if_neg hholds]
    refine ⟨.inr, fun h => h.resolve_left ?_⟩
    rintro ⟨rfl, c, hget, hc⟩
    have hread : s.candidate ref = c := Heap.read_eq_of_get? hget
    exact hholds (hread ▸ hc)

lemma notedHeld_step (moves : List GateMove) (move : GateMove) :
    notedHeld (gateRun (moves ++ [move])).controller ref = true ↔
      FoundUnfit ref moves move ∨
        notedHeld (gateRun moves).controller ref = true ∧ ¬ move = .preflight ref := by
  rw [gateRun_concat]
  cases move with
  | preflight r =>
    rw [GateState.apply, notedHeld_modifyCandidate]
    by_cases hr : r = ref
    · subst hr
      cases (gateRun moves).controller.candidates.get? r <;> simp [FoundUnfit]
    · simp [FoundUnfit, hr]
  | judged config r durationSeconds now =>
    rw [GateState.apply, notedHeld_judgeOvercommit]
    exact or_congr Iff.rfl (by simp)
  | _ =>
    rw [notedHeld_apply _ (by simp) (by simp)]
    simp [FoundUnfit]

/-- The note on a candidate says what became of it in the run. -/
theorem notedHeld_gateRun (moves : List GateMove) (ref : Ref) :
    notedHeld (gateRun moves).controller ref = true ↔ OvercommitHeld moves ref :=
  @setSince_of_step _ _ _ (fun moves => notedHeld (gateRun moves).controller ref = true)
    Bool.false_ne_true notedHeld_step moves

end Noted

section Programs

/-- What the gates go by is left as it was. -/
structure SameGates (s s' : ControllerState) : Prop where
  holds : s'.candidates.cells.map (·.heldByOvercommit) = s.candidates.cells.map (·.heldByOvercommit)
  rest : s' = { s' with
    gpuClassIds := s.gpuClassIds
    gpuClassCapacity := s.gpuClassCapacity
    overcommittedGpuClasses := s.overcommittedGpuClasses
    physicalGpuCapacity := s.physicalGpuCapacity
    stuckHolderGpuClasses := s.stuckHolderGpuClasses
    classNodeCounts := s.classNodeCounts }

/-- These moves of the gates take the one state to the other. -/
def ByMoves (allowed : GateMove → Prop) (s s' : ControllerState) : Prop :=
  ∃ moves : List GateMove, (∀ move ∈ moves, allowed move) ∧
    ∀ g : GateState, moves.foldl GateState.apply { g with controller := s } = { g with controller := s' }

/-- Guard 4 judges the candidate, and the gates are left alone otherwise. -/
def Judging (config : Config) (ref : Ref) : GateMove → Prop
  | .judged config' ref' _ _ => config' = config ∧ ref' = ref
  | .elsewhere _ => True
  | _ => False

/-- Between its calls the part only has guard 4 judge the candidate, whatever the others do meanwhile. -/
def JudgesBetween {α : Type} (ans : ∀ q, Answer q → Prop) (config : Config) (ref : Ref) (p : Ctl α) : Prop :=
  ∀ s log a s', p.Amid yields ans s log a s' → Prog.EachStretch (ByMoves (Judging config ref)) s log s'

section Frames

variable {allowed : GateMove → Prop} {s s' : ControllerState} {uid : Uid}

lemma ByMoves.refl (s : ControllerState) : ByMoves allowed s s := ⟨[], by simp, fun _ => rfl⟩

lemma ByMoves.trans (s s' s'' : ControllerState) (h : ByMoves allowed s s') (h' : ByMoves allowed s' s'') :
    ByMoves allowed s s'' := by
  obtain ⟨moves, hmoves, heq⟩ := h
  obtain ⟨moves', hmoves', heq'⟩ := h'
  refine ⟨moves ++ moves', fun move hmove => ?_, fun g => ?_⟩
  · rcases List.mem_append.mp hmove with hmove | hmove
    · exact hmoves move hmove
    · exact hmoves' move hmove
  · rw [List.foldl_append, heq, heq']

lemma ByMoves.single (move : GateMove) (hmove : allowed move)
    (h : ∀ g : GateState, GateState.apply { g with controller := s } move = { g with controller := s' }) :
    ByMoves allowed s s' :=
  ⟨[move], by simpa using hmove, h⟩

lemma SameGates.byMoves {config : Config} {ref : Ref} (h : SameGates s s') :
    ByMoves (Judging config ref) s s' := by
  refine .single (.elsewhere s') trivial fun g => ?_
  have hcells : keepHolds s.candidates.cells s'.candidates.cells = s'.candidates.cells := keepHolds_eq h.holds
  rw [GateState.apply, hcells, ← h.rest]

lemma OnlyAdmits.sameGates (h : OnlyAdmits uid s s')
    (hholds : s'.candidates.cells.map (·.heldByOvercommit) = s.candidates.cells.map (·.heldByOvercommit)) :
    SameGates s s' :=
  ⟨hholds, by rw [h.rest]⟩

lemma sameGates_of_admits {α : Type} {p : Ctl α} (hp : AdmitsOnly uid p) (hspares : SparesCandidates p) :
    p.Within SameGates (fun _ => True) fun _ => True :=
  (hp.and hspares).mono (fun _ _ h => h.1.sameGates (by rw [h.2.1])) (fun _ _ => trivial) fun _ _ => trivial

lemma sameGates_of_tells {α : Type} {p : Ctl α} (hp : TellsOnly p) (hspares : SparesCandidates p) :
    p.Within SameGates (fun _ => True) fun _ => True :=
  sameGates_of_admits (hp.admits "") hspares

lemma updateCandidate_sameGates (ref : Ref) {f : OnDemandCandidate → OnDemandCandidate}
    (hf : ∀ c, (f c).heldByOvercommit = c.heldByOvercommit) :
    (updateCandidate ref f).Within SameGates (fun _ => True) fun _ => True := by
  refine .modify fun s => ⟨?_, rfl⟩
  apply List.ext_getElem?
  intro r
  have hget := Heap.get?_modify s.candidates ref f r
  rw [List.getElem?_map, List.getElem?_map]
  change ((s.candidates.modify ref f).get? r).map _ = (s.candidates.get? r).map _
  rw [hget]
  split
  · rw [Option.map_map]
    exact congrArg (Option.map · (s.candidates.get? r)) (funext hf)
  · rfl

end Frames

variable {ans : ∀ q, Answer q → Prop} {α β : Type} {config : Config} {ref : Ref}

namespace JudgesBetween

lemma of_sameGates {p : Ctl α} (hp : p.Within SameGates (fun _ => True) fun _ => True) :
    JudgesBetween ans config ref p := by
  intro s log a s' h
  have hmoves : p.Within (ByMoves (Judging config ref)) (fun _ => True) fun _ => True :=
    hp.mono (fun _ _ => SameGates.byMoves) (fun _ h => h) fun _ h => h
  exact Prog.eachStretch_of_within ByMoves.trans ByMoves.refl hmoves h

lemma bind {p : Ctl α} {f : α → Ctl β} (hp : JudgesBetween ans config ref p)
    (hf : ∀ a, JudgesBetween ans config ref (f a)) : JudgesBetween ans config ref (p >>= f) := by
  intro s log b s' h
  obtain ⟨log₁, log₂, a, s₁, rfl, hfirst, hrest⟩ := (Prog.amid_bind p f).mp h
  exact Prog.eachStretch_append ByMoves.trans (hp s log₁ a s₁ hfirst) (hf a s₁ log₂ b s' hrest)

lemma get {f : ControllerState → Ctl β} (hf : ∀ s, JudgesBetween ans config ref (f s)) :
    JudgesBetween ans config ref (Prog.get >>= f) :=
  fun s log b s' h => hf s s log b s' h

lemma ret {a : α} : JudgesBetween ans config ref (pure a) :=
  .of_sameGates (.pure trivial)

end JudgesBetween

variable (ans) (config : Config) (uid : Uid) (ref : Ref) (now : Instant)

/-- Before a grant the ask is put to guard 4 once more. -/
lemma holdOnFit_judges (fit : FitInputs) : JudgesBetween ans config ref (holdOnFit config uid ref fit now) := by
  intro s log held s' h
  rw [holdOnFit, Prog.amid_get_bind] at h
  dsimp only at h
  by_cases hholds : s.overcommitHolds config (s.candidate ref) fit.durationSeconds now
  · rw [if_pos hholds, updateCandidate, Prog.amid_modify_bind] at h
    have htold : JudgesBetween ans config ref
        (emitAdmissionPausedEvent config uid ref now 4 >>= fun _ => pure true) :=
      .bind (.of_sameGates (sameGates_of_tells (emitAdmissionPausedEvent_tells config uid ref now 4)
        (emitAdmissionPausedEvent_spares config uid ref now 4))) fun _ => .ret
    refine Prog.eachStretch_after ByMoves.trans (.single (.judged config ref fit.durationSeconds now)
      ⟨rfl, rfl⟩ fun g => ?_) (htold _ log held s' h)
    rw [GateState.apply, judgeOvercommit, if_pos hholds]
  · rw [if_neg hholds] at h
    revert h
    refine (?_ : JudgesBetween ans config ref _) s log held s'
    split
    · exact .ret
    · refine .bind (.of_sameGates (updateCandidate_sameGates ref fun _ => rfl)) fun _ => .bind ?_ fun _ => .ret
      exact .of_sameGates (sameGates_of_tells (tellWaitingForNode_tells config uid ref now _)
        (tellWaitingForNode_spares config uid ref now _))

lemma holdCandidate_judges (at_ : Instant) {tell : Ctl Unit} (htells : TellsOnly tell)
    (hspares : SparesCandidates tell) : JudgesBetween ans config ref (holdCandidate ref at_ tell) :=
  .bind (.of_sameGates (updateCandidate_sameGates ref fun _ => rfl)) fun _ =>
    .bind (.of_sameGates (sameGates_of_tells htells hspares)) fun _ => .ret

lemma jitteredRetryAt_judges : JudgesBetween ans config ref (jitteredRetryAt now) :=
  .of_sameGates (sameGates_of_tells (jitteredRetryAt_tells now) (.seq (await_spares _) fun _ => .pure trivial))

lemma preflightFit_judges (pod : Pod) (gpuClassId : Nat) :
    JudgesBetween ans config ref (preflightFit config uid ref now pod gpuClassId) := by
  refine .get fun s => .bind (holdOnFit_judges ans config uid ref now _) fun held => ?_
  split
  · exact .ret
  · exact .ret

lemma preflightNodes_judges (pod : Pod) (gpuClassId : Nat) :
    JudgesBetween ans config ref (preflightNodes config uid ref now pod gpuClassId) := by
  refine .get fun s => ?_
  dsimp only
  split
  · exact holdCandidate_judges ans config ref _ (emitAdmissionPausedEvent_tells config uid ref now 1)
      (emitAdmissionPausedEvent_spares config uid ref now 1)
  · refine .bind (.of_sameGates (updateCandidate_sameGates ref fun _ => rfl)) fun _ => ?_
    split
    · exact .bind (jitteredRetryAt_judges ans config ref now) fun at_ => holdCandidate_judges ans config ref at_
        (tellCandidate_tells config uid ref now _ _) (tellCandidate_spares config uid ref now _ _)
    · split
      · exact holdCandidate_judges ans config ref _ (emitAdmissionPausedEvent_tells config uid ref now 3)
          (emitAdmissionPausedEvent_spares config uid ref now 3)
      · exact preflightFit_judges ans config uid ref now pod gpuClassId

lemma preflightGate_judges (pod : Pod) (gpuClassId : Nat) :
    JudgesBetween ans config ref (preflightGate config uid ref now pod gpuClassId) := by
  refine .bind (.of_sameGates (updateCandidate_sameGates ref fun _ => rfl)) fun _ => ?_
  split
  · exact .ret
  · exact holdCandidate_judges ans config ref _ (.pure trivial) (.pure trivial)
  · exact preflightNodes_judges ans config uid ref now pod gpuClassId

lemma preflightPod_judges (pod : Pod) :
    JudgesBetween ans config ref (preflightPod config uid ref now pod) := by
  refine .get fun s => ?_
  dsimp only
  split
  · exact .ret
  · split
    · exact .of_sameGates (sameGates_of_admits (reroute_admits uid ref config _).weaken
        (reroute_spares config uid ref _).weaken)
    · split
      · exact .bind (jitteredRetryAt_judges ans config ref now) fun at_ => holdCandidate_judges ans config ref at_
          (emitUnknownClassEvent_tells config uid now _ _ _) (emitUnknownClassEvent_spares config uid now _ _ _)
      · exact preflightGate_judges ans config uid ref now pod _

/-- Once it has read the time, a preflight takes the note off the candidate, and has only guard 4 put it back. -/
theorem preflightWithFit_judges {s s' : ControllerState} {log : List (Await ControllerState Answer)}
    {status : Preflight} (h : (preflightWithFit config uid ref).Amid yields ans s log status s') :
    ∃ t s₁ s₂ log', log = ⟨⟨.now, t⟩, s, s₁⟩ :: log' ∧
      (∀ g : GateState, GateState.apply { g with controller := s₁ } (.preflight ref) =
        { g with controller := s₂ }) ∧
      Prog.EachStretch (ByMoves (Judging config ref)) s₂ log' s' := by
  rw [preflightWithFit, Prog.amid_ask_bind] at h
  obtain ⟨t, s₁, log', -, -, rfl, h⟩ := h
  rw [updateCandidate, Prog.amid_modify_bind] at h
  refine ⟨t, s₁, s₁.modifyCandidate ref fun c =>
    { c with heldByOvercommit := false, heldByNodeFit := false }, log', rfl, fun g => rfl, ?_⟩
  revert h
  refine (?_ : JudgesBetween ans config ref _) _ log' status s'
  refine .get fun s => .bind (.of_sameGates (.ask trivial)) fun freshPod => ?_
  cases freshPod with
  | none =>
    exact .bind (jitteredRetryAt_judges ans config ref t) fun at_ =>
      holdCandidate_judges ans config ref at_ (.pure trivial) (.pure trivial)
  | some pod => exact preflightPod_judges ans config uid ref t pod

end Programs

end GpuReservation.Proofs
