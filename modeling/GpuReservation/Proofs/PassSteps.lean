import GpuReservation.Proofs.PassNotes

/-!
# The parts of a pass, one candidate after another

What the preflight, the grant and the withholding of one candidate do to it, and that they leave the others alone;
and from it what the loops over them do.
-/

namespace GpuReservation.Proofs

open GpuReservation.Library GpuReservation.Model

/-- The instant the pod was judged at last. -/
def lastJudged (notes : List Handling) (uid : Uid) : Option Instant :=
  (notes.reverse.find? fun h => h.uid = uid).map (·.at_)

/-- The candidate is off the list, or its next attempt is within reach of its last judgement. -/
def Settled (uid : Uid) (ref : Ref) (x : ControllerState × List Handling) : Prop :=
  uid ∉ x.1.ondemandCandidates ∨
    ∃ t c, lastJudged x.2 uid = some t ∧ x.1.candidates.get? ref = some c ∧ InReach t c.nextAttemptAt

/-- Every pod on the list has a candidate of its own. -/
def OwnCandidates (s : ControllerState) : Prop :=
  ∀ uid ref, s.ondemandCandidates.get? uid = some ref →
    ∃ c, s.candidates.get? ref = some c ∧ c.podUid = uid

/-- A candidate is registered under its own pod: the one place where the list grows. -/
lemma OwnCandidates.addOndemandCandidate {s : ControllerState} (h : OwnCandidates s)
    (c : OnDemandCandidate) : OwnCandidates (s.addOndemandCandidate c) := by
  rw [ControllerState.addOndemandCandidate]
  split
  · exact h
  · intro uid ref hget
    change (s.ondemandCandidates.set c.podUid s.candidates.next).get? uid = some ref at hget
    rw [Dict.get?_set] at hget
    split at hget
    · rename_i hu
      cases hget
      exact ⟨c, Heap.get?_alloc_next s.candidates c, hu.symm⟩
    · obtain ⟨c', hc', huid⟩ := h uid ref hget
      exact ⟨c', Heap.get?_alloc_of_some hc' _, huid⟩

/-- The candidate is on the list, and its next attempt has come. -/
def StillDue (now : Instant) (uid : Uid) (ref : Ref) (s : ControllerState) : Prop :=
  uid ∈ s.ondemandCandidates ∧ ∃ c, s.candidates.get? ref = some c ∧ c.nextAttemptAt ≤ now

/-- And it has been judged. -/
def Left (ans : ∀ q, Answer q → Prop) (now : Instant) (uid : Uid) (ref : Ref)
    (x : ControllerState × List Handling) : Prop :=
  StillDue now uid ref x.1 ∧ ∃ t, ans .now t ∧ lastJudged x.2 uid = some t

/-- Part of a pass from `s₀` on, which judges or takes off none but the given pods. -/
structure Steps (s₀ : ControllerState) (uids : List Uid) (x x' : ControllerState × List Handling) : Prop where
  known : ∀ ref, (x.1.candidates.get? ref).isSome → (x'.1.candidates.get? ref).isSome
  others : ∀ uid ref, s₀.ondemandCandidates.get? uid = some ref → uid ∉ uids →
    x'.1.candidates.get? ref = x.1.candidates.get? ref ∧
      (uid ∈ x'.1.ondemandCandidates ↔ uid ∈ x.1.ondemandCandidates) ∧ lastJudged x'.2 uid = lastJudged x.2 uid

section Steps

variable {ans : ∀ q, Answer q → Prop} {s₀ s s' : ControllerState} {x x' x'' : ControllerState × List Handling}
  {notes : List Handling} {uids : List Uid} {uid : Uid} {ref : Ref} {now t : Instant} {w : Treatment}

lemma lastJudged_append_self (notes : List Handling) (uid : Uid) (t : Instant) (w : Treatment) :
    lastJudged (notes ++ [⟨uid, t, w⟩]) uid = some t := by
  simp [lastJudged]

lemma lastJudged_append_of_ne (notes : List Handling) {u : Uid} (h : u ≠ uid) (t : Instant) (w : Treatment) :
    lastJudged (notes ++ [⟨u, t, w⟩]) uid = lastJudged notes uid := by
  simp [lastJudged, h]

lemma OwnCandidates.ref_ne (hown : OwnCandidates s₀) {u : Uid} {r : Ref}
    (hu : s₀.ondemandCandidates.get? u = some r)
    (huid : s₀.ondemandCandidates.get? uid = some ref) (hne : u ≠ uid) : r ≠ ref := by
  rintro rfl
  obtain ⟨c, hc, rfl⟩ := hown u r hu
  obtain ⟨c', hc', rfl⟩ := hown uid r huid
  cases hc.symm.trans hc'
  exact hne rfl

lemma Settled.of_steps (h : Steps s₀ uids x x') (hreg : s₀.ondemandCandidates.get? uid = some ref)
    (hnot : uid ∉ uids) (hs : Settled uid ref x) : Settled uid ref x' := by
  obtain ⟨hsame, hdict, hlast⟩ := h.others uid ref hreg hnot
  rcases hs with hgone | ⟨t, c, ht, hc, hreach⟩
  · exact .inl fun hmem => hgone (hdict.mp hmem)
  · exact .inr ⟨t, c, hlast.trans ht, hsame.trans hc, hreach⟩

lemma StillDue.of_steps (h : Steps s₀ uids x x') (hreg : s₀.ondemandCandidates.get? uid = some ref)
    (hnot : uid ∉ uids) (hs : StillDue now uid ref x.1) : StillDue now uid ref x'.1 := by
  obtain ⟨hsame, hdict, -⟩ := h.others uid ref hreg hnot
  obtain ⟨hmem, c, hc, hdue⟩ := hs
  exact ⟨hdict.mpr hmem, c, hsame.trans hc, hdue⟩

lemma Left.of_steps (h : Steps s₀ uids x x') (hreg : s₀.ondemandCandidates.get? uid = some ref)
    (hnot : uid ∉ uids) (hs : Left ans now uid ref x) : Left ans now uid ref x' := by
  obtain ⟨hdue, t, ht, hjudged⟩ := hs
  obtain ⟨-, -, hlast⟩ := h.others uid ref hreg hnot
  exact ⟨hdue.of_steps h hreg hnot, t, ht, hlast.trans hjudged⟩

/-- Where the clock does not go back, a candidate which is left due is not settled. -/
lemma Left.not_settled (hclock : ∀ t, ans .now t → now ≤ t) (h : Left ans now uid ref x) : ¬ Settled uid ref x := by
  obtain ⟨⟨hmem, c, hc, hdue⟩, t, ht, hjudged⟩ := h
  rintro (hgone | ⟨t', c', ht', hc', hreach⟩)
  · exact hgone hmem
  · cases hjudged.symm.trans ht'
    cases hc.symm.trans hc'
    exact absurd hreach.1 (not_lt.mpr (hdue.trans (hclock t ht)))

namespace Steps

lemma refl : Steps s₀ uids x x :=
  ⟨fun _ hsome => hsome, fun _ _ _ _ => ⟨rfl, Iff.rfl, rfl⟩⟩

lemma trans {uids' : List Uid} (h : Steps s₀ uids x x') (h' : Steps s₀ uids' x' x'') :
    Steps s₀ (uids ++ uids') x x'' := by
  refine ⟨fun ref hsome => h'.known ref (h.known ref hsome), fun uid ref hreg hnot => ?_⟩
  obtain ⟨hnot₁, hnot₂⟩ := not_or.mp (fun hmem => hnot (List.mem_append.mpr hmem))
  obtain ⟨hsame, hdict, hlast⟩ := h.others uid ref hreg hnot₁
  obtain ⟨hsame', hdict', hlast'⟩ := h'.others uid ref hreg hnot₂
  exact ⟨hsame'.trans hsame, hdict'.trans hdict, hlast'.trans hlast⟩

lemma widen {uids' : List Uid} (h : Steps s₀ uids x x') (hsub : ∀ uid ∈ uids, uid ∈ uids') :
    Steps s₀ uids' x x' :=
  ⟨h.known, fun uid ref hreg hnot => h.others uid ref hreg fun hmem => hnot (hsub uid hmem)⟩

variable (hown : OwnCandidates s₀) (hreg : s₀.ondemandCandidates.get? uid = some ref)
include hown hreg

/-- What touches one candidate, and notes nothing, is a step about it. -/
lemma of_touches (h : Touches ref s s') : Steps s₀ [uid] (s, notes) (s', notes) := by
  refine ⟨fun r hsome => ?_, fun u r hu hnot => ?_⟩
  · by_cases hr : r = ref
    · rw [hr] at hsome ⊢
      exact h.own hsome
    · change (s'.candidates.get? r).isSome
      rw [h.others r hr]
      exact hsome
  · have hne : u ≠ uid := fun h => hnot (List.mem_singleton.mpr h)
    refine ⟨h.others r (hown.ref_ne hu hreg hne), ?_, rfl⟩
    change u ∈ s'.ondemandCandidates ↔ _
    rw [h.dict]

/-- A judgement is a step about its candidate. -/
lemma judged (h : Touches ref s s') : Steps s₀ [uid] (s, notes) (s', notes ++ [⟨uid, t, w⟩]) := by
  have hsame : Steps s₀ [uid] (s, notes) (s', notes) := of_touches hown hreg h
  obtain ⟨hknown, hothers⟩ := hsame
  refine ⟨hknown, fun u r hu hnot => ?_⟩
  have hne : u ≠ uid := fun h => hnot (List.mem_singleton.mpr h)
  obtain ⟨hsame, hdict, -⟩ := hothers u r hu hnot
  exact ⟨hsame, hdict, lastJudged_append_of_ne notes hne.symm t w⟩

lemma unmarked : Steps s₀ [uid] (s, notes) (unmarked s ref, notes) :=
  of_touches hown hreg (touches_modifyCandidate s _)

omit hown hreg in
lemma removed : Steps s₀ [uid] (s, notes) (s.removeOndemandCandidate uid, notes) := by
  refine ⟨fun _ hsome => hsome, fun u _ _ hnot => ⟨rfl, ?_, rfl⟩⟩
  have hne : u ≠ uid := fun h => hnot (List.mem_singleton.mpr h)
  exact Dict.mem_erase.trans (and_iff_right hne)

end Steps

lemma Settled.of_judged (hsome : (s.candidates.get? ref).isSome) (hj : Judged ref t True s s') :
    Settled uid ref (s', notes ++ [⟨uid, t, w⟩]) := by
  obtain ⟨c, hc, hreach⟩ := hj.scheduled trivial hsome
  exact .inr ⟨t, c, lastJudged_append_self notes uid t w, hc, hreach⟩

lemma Settled.removed : Settled uid ref (s.removeOndemandCandidate uid, notes) :=
  .inl fun hmem => (Dict.mem_erase.mp hmem).1 rfl

/-- Noting that a candidate waits for no capacity leaves its next attempt alone. -/
lemma Settled.unmarked (h : Settled uid ref (s, notes)) : Settled uid ref (unmarked s ref, notes) := by
  rcases h with hgone | ⟨t, c, ht, hc, hreach⟩
  · exact .inl hgone
  · refine .inr ⟨t, { c with awaitingCapacity := false }, ht, ?_, hreach⟩
    refine (Heap.get?_modify s.candidates ref _ ref).trans ?_
    rw [if_pos rfl]
    exact congrArg (Option.map _) hc

/-- A judgement which does not schedule the candidate leaves it due. -/
lemma StillDue.of_judged (h : StillDue now uid ref s) (hj : Judged ref t False s s') : StillDue now uid ref s' := by
  obtain ⟨hmem, c, hc, hdue⟩ := h
  have hkept := hj.kept id
  rw [nextAttempt, nextAttempt, hc, Option.map_some, Option.map_eq_some_iff] at hkept
  obtain ⟨c', hc', hnext⟩ := hkept
  refine ⟨?_, c', hc', hnext.trans_le hdue⟩
  rw [hj.dict]
  exact hmem

end Steps

section Turns

variable {rules : WireRules} {ans : ∀ q, Answer q → Prop} {config : Config} {s₀ s s' : ControllerState}
  {notes notes' : List Handling} {tr : List (Tried Raised Answer)} {now t : Instant}

/-- What a part does alone which does not raise, it does in an execution. -/
lemma exec_of_undisturbed {α : Type} {p : Ctl α} {a : α}
    (h : p.ComesTo Prog.undisturbed (clientOutcome rules ans) s tr (.ok a) s') :
    ∃ tr', p.Exec (fun q a => clientOutcome rules ans q (.ok a)) s tr' a s' ∧
      tr = tr'.map fun e => ⟨e.1, .ok e.2⟩ :=
  Prog.exec_of_comesTo h

lemma RandintBounds.client (h : RandintBounds ans) : RandintBounds fun q a => clientOutcome rules ans q (.ok a) :=
  fun lo hi n hle hn => h lo hi n hle hn

/-- The instant read first is the one which the trace begins with. -/
lemma eq_of_nowFirst {t' : Instant} {tr' : List (Tried Raised Answer)} {tr₂ : List (Sigma Answer)}
    (h : (⟨.now, .ok t⟩ :: tr' : List (Tried Raised Answer)) =
      ((⟨.now, t'⟩ :: tr₂ : List (Sigma Answer)).map fun e => ⟨e.1, .ok e.2⟩)) : t' = t := by
  rw [List.map_cons] at h
  cases (List.cons.inj h).1
  rfl

/-- A grant judges at the instant it reads first. -/
lemma grantAndAdmit_judgedAt (hrandint : RandintBounds ans) {uid : Uid} {ref : Ref}
    {ask : OnDemandAdmissionCandidate} {tr' : List (Tried Raised Answer)} {done : Bool}
    (h : (grantAndAdmit config uid ref ask).ComesTo Prog.undisturbed (clientOutcome rules ans) s
      (⟨.now, .ok t⟩ :: tr') (.ok done) s') : Judged ref t (done = false) s s' := by
  obtain ⟨tr₁, hexec, htr⟩ := exec_of_undisturbed h
  obtain ⟨t', tr₂, rfl, hjudged⟩ := grantAndAdmit_judged config uid ref hrandint.client ask hexec
  exact eq_of_nowFirst htr ▸ hjudged

/-- And so does a preflight. -/
lemma preflightWithFit_judgedAt (hrandint : RandintBounds ans) {uid : Uid} {ref : Ref}
    {tr' : List (Tried Raised Answer)} {status : Preflight}
    (h : (preflightWithFit config uid ref).ComesTo Prog.undisturbed (clientOutcome rules ans) s
      (⟨.now, .ok t⟩ :: tr') (.ok status) s') : Judged ref t (Preflight.retries status) s s' := by
  obtain ⟨tr₁, hexec, htr⟩ := exec_of_undisturbed h
  obtain ⟨t', tr₂, rfl, hjudged⟩ := preflightWithFit_judged config uid ref hrandint.client hexec
  exact eq_of_nowFirst htr ▸ hjudged

lemma Judged.congr {ref : Ref} {p q : Prop} (h : Judged ref t p s s') (hpq : p ↔ q) : Judged ref t q s s' :=
  ⟨h.toTouches, fun hq => h.scheduled (hpq.mpr hq), fun hq => h.kept (mt hpq.mp hq)⟩

/-- One granted candidate is done with, or its next attempt is set; unless its create raises, which leaves it as it
was. -/
lemma GrantTurn.steps (notes : List Handling) (now : Instant) (hrandint : RandintBounds ans) (hown : OwnCandidates s₀) {r : Ready}
    (hreg : s₀.ondemandCandidates.get? r.uid = some r.ref) (hsome : (s.candidates.get? r.ref).isSome)
    {added : List Handling} {b : Except Raised Unit}
    (h : GrantTurn config rules ans Prog.undisturbed r t s tr added b s') :
    Steps s₀ [r.uid] (s, notes) (s', notes ++ added) ∧ selections tr = [] ∧
      ((b = .ok () ∧ raisedCreates tr = [] ∧ Settled r.uid r.ref (s', notes ++ added)) ∨
        (∃ e, b = .error e) ∧ raisedCreates tr = [r.uid] ∧
          (StillDue now r.uid r.ref s → Left ans now r.uid r.ref (s', notes ++ added))) := by
  have hquiet := (holdOnFit_tells config r.uid r.ref t r.fit).quiet
  have hjudges : ∀ {tr held s₁}, (holdOnFit config r.uid r.ref r.fit t).ComesTo Prog.undisturbed
      (clientOutcome rules ans) s tr (.ok held) s₁ → Judged r.ref t (held = true) s s₁ := by
    intro tr held s₁ hfit
    obtain ⟨tr', hexec, -⟩ := exec_of_undisturbed hfit
    exact holdOnFit_decides config r.uid r.ref t r.fit s tr' held s₁ hexec
  cases h with
  | held hfit =>
    obtain ⟨-, -, hraised, hselections⟩ := hquiet.comesTo hfit
    have hjudged := (hjudges hfit).congr (iff_of_true rfl trivial)
    refine ⟨((Steps.judged hown hreg hjudged.toTouches).trans (.unmarked hown hreg)).widen (by simp),
      hselections, .inl ⟨rfl, hraised, ?_⟩⟩
    exact (Settled.of_judged hsome hjudged).unmarked
  | @tried tr₁ tr₂ s₁ s₂ at_ done hfit h =>
    obtain ⟨-, -, hraised, hselections⟩ := hquiet.comesTo hfit
    obtain ⟨-, hselections', ⟨-, hraised'⟩ | ⟨-, ⟨_, herror⟩, -⟩⟩ := grantAndAdmit_comesTo h
    swap
    · cases herror
    have hfirst : Steps s₀ [r.uid] (s, notes) (s₁, notes ++ [⟨r.uid, t, .judged⟩]) :=
      .judged hown hreg (hjudges hfit).toTouches
    have hjudged := grantAndAdmit_judgedAt hrandint h
    have hsecond : Steps s₀ [r.uid] (s₁, notes ++ [⟨r.uid, t, .judged⟩])
        (s₂, notes ++ [⟨r.uid, t, .judged⟩] ++ [⟨r.uid, at_, .created⟩]) :=
      .judged hown hreg hjudged.toTouches
    rw [List.append_cons notes, selections_append, hselections, hselections', raisedCreates_append, hraised, hraised',
      List.append_nil]
    refine ⟨?_, rfl, .inl ⟨rfl, rfl, ?_⟩⟩
    · cases done with
      | true => exact ((hfirst.trans hsecond).trans .removed).widen (by simp)
      | false => exact (hfirst.trans hsecond).widen (by simp)
    · cases done with
      | true => exact .removed
      | false => exact .of_judged (hfirst.known r.ref hsome) (hjudged.congr (iff_of_true rfl trivial))
  | @raised tr₁ tr₂ s₁ s₂ at_ e hfit h =>
    obtain ⟨-, -, hraised, hselections⟩ := hquiet.comesTo hfit
    obtain ⟨-, hselections', ⟨⟨_, hok⟩, -⟩ | ⟨hraised', -, q, s₃, rfl, rfl⟩⟩ := grantAndAdmit_comesTo h
    · cases hok
    have hjudged := (hjudges hfit).congr (iff_of_false Bool.false_ne_true id)
    have hfirst : Steps s₀ [r.uid] (s, notes) (s', notes ++ [⟨r.uid, t, .judged⟩]) :=
      .judged hown hreg hjudged.toTouches
    have hsecond : Steps s₀ [r.uid] (s', notes ++ [⟨r.uid, t, .judged⟩])
        (s', notes ++ [⟨r.uid, t, .judged⟩] ++ [⟨r.uid, at_, .created⟩]) :=
      .judged hown hreg (.refl s')
    have hat : ans .now at_ := Prog.comesTo_outcomes h _ List.mem_cons_self
    rw [List.append_cons notes, selections_append, hselections, hselections', raisedCreates_append, hraised, hraised',
      List.append_nil, List.nil_append]
    refine ⟨(hfirst.trans hsecond).widen (by simp), rfl, .inr ⟨⟨e, rfl⟩, rfl, fun hdue => ?_⟩⟩
    exact ⟨hdue.of_judged hjudged, at_, hat, lastJudged_append_self _ _ _ _⟩

lemma handleWithheldNoted_steps (hrandint : RandintBounds ans) (hown : OwnCandidates s₀) {r : Ready}
    {verdict : Option AdmissionWithheld} (hreg : s₀.ondemandCandidates.get? r.uid = some r.ref)
    (hsome : (s.candidates.get? r.ref).isSome) {b : Except Raised Unit}
    (h : (handleWithheldNoted config r.uid r.ref verdict t).ComesTo (Prog.besideNotesAt Prog.undisturbed)
      (clientOutcome rules ans) (s, notes) tr b (s', notes')) :
    b = .ok () ∧ (raisedCreates tr = [] ∧ selections tr = []) ∧ Steps s₀ [r.uid] (s, notes) (s', notes') ∧
      Settled r.uid r.ref (s', notes') := by
  obtain ⟨hb, ⟨-, hraised, hselections⟩, s₁, tr₁, tr₂, rfl, rfl, hset, htold⟩ := handleWithheldNoted_turn h
  obtain ⟨tr₃, hset, -⟩ := exec_of_undisturbed hset
  obtain ⟨tr₄, htold, -⟩ := exec_of_undisturbed htold
  have hjudged := withheldSchedule_decides r.ref verdict t hrandint.client s tr₃ () s₁ hset
  obtain ⟨hsame, -, -⟩ := Prog.exec_of_within SameCandidates.refl (fun _ _ _ => SameCandidates.trans)
    (withheldTelling_spares config r.uid r.ref verdict t) htold
  have hall : Judged r.ref t True s s' :=
    ⟨hjudged.toTouches.trans hsame.touches, fun _ hs => by rw [hsame.1]; exact hjudged.scheduled trivial hs,
      fun hnot => absurd trivial hnot⟩
  exact ⟨hb, ⟨hraised, hselections⟩, .judged hown hreg hall.toTouches, .of_judged hsome hall⟩

/-- What the preflight of a pod asks for, it asks for that pod. -/
def AsksOwn (uid : Uid) : Preflight → Prop
  | .ready ask _ => ask.podUid = uid
  | _ => True

section AsksOwn

variable (config : Config) (uid : Uid) (ref : Ref) (now : Instant)

/-- A part which may ask for its own pod. -/
def AsksItsOwn (p : Ctl Preflight) : Prop := p.Within (fun _ _ => True) (fun _ => True) (AsksOwn uid)

lemma holdCandidate_asksOwn (at_ : Instant) (tell : Ctl Unit) : AsksItsOwn uid (holdCandidate ref at_ tell) :=
  .seq (.modify fun _ => trivial) fun _ => .seq (.anything tell) fun _ => .pure trivial

lemma preflightFit_asksOwn (pod : Pod) (gpuClassId : Nat) :
    AsksItsOwn uid (preflightFit config uid ref now pod gpuClassId) := by
  refine .seq (.get fun _ => trivial) fun s => .seq (.anything _) fun held => ?_
  split
  · exact .pure trivial
  · exact .pure rfl

lemma preflightNodes_asksOwn (pod : Pod) (gpuClassId : Nat) :
    AsksItsOwn uid (preflightNodes config uid ref now pod gpuClassId) := by
  refine .seq (.get fun _ => trivial) fun s => ?_
  dsimp only
  split
  · exact holdCandidate_asksOwn uid ref _ _
  · refine .seq (.modify fun _ => trivial) fun _ => ?_
    split
    · exact .seq (.anything _) fun _ => holdCandidate_asksOwn uid ref _ _
    · split
      · exact holdCandidate_asksOwn uid ref _ _
      · exact preflightFit_asksOwn config uid ref now pod gpuClassId

lemma preflightPod_asksOwn (pod : Pod) : AsksItsOwn uid (preflightPod config uid ref now pod) := by
  refine .seq (.get fun _ => trivial) fun s => ?_
  dsimp only
  split
  · exact .pure trivial
  · split
    · exact .seq (.anything _) fun _ => .seq (.modify fun _ => trivial) fun _ =>
        .seq (.anything _) fun _ => .pure trivial
    · split
      · exact .seq (.anything _) fun _ => holdCandidate_asksOwn uid ref _ _
      · refine .seq (.modify fun _ => trivial) fun _ => ?_
        split
        · exact .pure trivial
        · exact holdCandidate_asksOwn uid ref _ _
        · exact preflightNodes_asksOwn config uid ref now pod _

lemma preflightWithFit_asksOwn : AsksItsOwn uid (preflightWithFit config uid ref) := by
  refine .seq (.ask trivial) fun now => .seq (.modify fun _ => trivial) fun _ =>
    .seq (.get fun _ => trivial) fun s => .seq (.ask trivial) fun freshPod => ?_
  cases freshPod with
  | none => exact .seq (.anything _) fun _ => holdCandidate_asksOwn uid ref _ _
  | some pod => exact preflightPod_asksOwn config uid ref now pod

end AsksOwn

/-- What is read of the pod is its candidate's. -/
lemma stillDue_iff {uid : Uid} {ref : Ref} (hmem : uid ∈ s.ondemandCandidates)
    (hsome : (s.candidates.get? ref).isSome) :
    StillDue now uid ref s ↔ (s.candidate ref).nextAttemptAt ≤ now := by
  obtain ⟨c, hc⟩ := Option.isSome_iff_exists.mp hsome
  rw [ControllerState.candidate, Heap.read_eq_of_get? hc]
  constructor
  · rintro ⟨-, c', hc', hdue⟩
    cases hc.symm.trans hc'
    exact hdue
  · exact fun hdue => ⟨hmem, c, hc, hdue⟩

/-- A candidate which was due is dropped, or its next attempt is set, or it is found ready. -/
lemma preflightOneNoted_steps (hrandint : RandintBounds ans) (hown : OwnCandidates s₀) {x : Uid × Ref}
    (hreg : s₀.ondemandCandidates.get? x.1 = some x.2) (hmem : x.1 ∈ s.ondemandCandidates)
    (hsome : (s.candidates.get? x.2).isSome) {ready : List Ready} {b : Except Raised (List Ready)}
    (h : (preflightOneNoted config now ready x).ComesTo (Prog.besideNotesAt Prog.undisturbed)
      (clientOutcome rules ans) (s, notes) tr b (s', notes')) :
    (raisedCreates tr = [] ∧ selections tr = []) ∧ Steps s₀ [x.1] (s, notes) (s', notes') ∧
      ((b = .ok ready ∧ (StillDue now x.1 x.2 s → Settled x.1 x.2 (s', notes'))) ∨
        ∃ r, b = .ok (ready ++ [r]) ∧ r.uid = x.1 ∧ r.ref = x.2 ∧ r.ask.podUid = r.uid ∧
          (r.due = true ↔ StillDue now x.1 x.2 s) ∧
          (StillDue now x.1 x.2 s → Left ans now x.1 x.2 (s', notes'))) := by
  have hdue : StillDue now x.1 x.2 s ↔ (s.candidate x.2).nextAttemptAt ≤ now := stillDue_iff hmem hsome
  rw [preflightOneNoted, Prog.comesTo_get_bind] at h
  dsimp only at h
  split at h
  swap
  · rename_i hwaits
    obtain ⟨rfl, rfl, heq⟩ := h
    cases heq
    exact ⟨⟨rfl, rfl⟩, .refl, .inl ⟨rfl, fun hd => absurd (.inl (hdue.mp hd)) hwaits⟩⟩
  rw [Prog.comesTo_bind] at h
  have hquiet := (preflightWithFit_admits x.1 x.2 config).quiet
  rcases h with ⟨tr₁, tr₂, status, ⟨s₁, _⟩, rfl, hvet, h⟩ | ⟨e, hvet, -⟩
  swap
  · obtain ⟨hvet, -⟩ := comesTo_noteInstant hvet
    obtain ⟨⟨_, herror⟩, -⟩ := hquiet.comesTo hvet
    cases herror
  obtain ⟨hvetted, t, tr₃, rfl, rfl⟩ := comesTo_noteInstant hvet
  obtain ⟨-, -, hraised, hselections⟩ := hquiet.comesTo hvetted
  have hjudged := preflightWithFit_judgedAt hrandint hvetted
  have ht : ans .now t := Prog.comesTo_outcomes hvetted _ List.mem_cons_self
  have hfirst : Steps s₀ [x.1] (s, notes) (s₁, notes ++ [⟨x.1, t, .vetted⟩]) :=
    .judged hown hreg hjudged.toTouches
  rw [raisedCreates_append, selections_append, hraised, hselections, List.nil_append, List.nil_append]
  cases status with
  | ready ask fit =>
    obtain ⟨rfl, rfl, heq⟩ := h
    cases heq
    obtain ⟨-, -, hask⟩ := Prog.comesTo_of_within (fun _ => trivial) (fun _ _ _ _ _ => trivial)
      (fun _ _ _ _ => trivial) (preflightWithFit_asksOwn config x.1 x.2) hvetted
    refine ⟨⟨rfl, rfl⟩, hfirst, .inr ⟨_, rfl, rfl, rfl, hask _ rfl, decide_eq_true_iff.trans hdue.symm, fun hd => ?_⟩⟩
    exact ⟨hd.of_judged hjudged, t, ht, lastJudged_append_self notes x.1 t .vetted⟩
  | remove =>
    obtain ⟨rfl, rfl, heq⟩ := h
    cases heq
    exact ⟨⟨rfl, rfl⟩, ((hfirst.trans (.unmarked hown hreg)).trans .removed).widen (by simp),
      .inl ⟨rfl, fun _ => .removed⟩⟩
  | retry =>
    obtain ⟨rfl, rfl, heq⟩ := h
    cases heq
    refine ⟨⟨rfl, rfl⟩, (hfirst.trans (.unmarked hown hreg)).widen (by simp), .inl ⟨rfl, fun _ => ?_⟩⟩
    exact (Settled.of_judged hsome hjudged).unmarked

end Turns

section Loops

variable {rules : WireRules} {ans : ∀ q, Answer q → Prop} {config : Config} {s₀ : ControllerState}
  {x x' : ControllerState × List Handling} {tr : List (Tried Raised Answer)} {now t : Instant}
  (hrandint : RandintBounds ans) (hown : OwnCandidates s₀)
include hrandint hown

/-- The candidates found ready, after the preflights of `l` have added to them. -/
structure Vetted (ans : ∀ q, Answer q → Prop) (s₀ : ControllerState) (now : Instant) (l : List (Uid × Ref))
    (s : ControllerState) (added : List Ready) (x' : ControllerState × List Handling) : Prop where
  registered : ∀ r ∈ added, (r.uid, r.ref) ∈ l
  nodup : (added.map (·.uid)).Nodup
  asks : ∀ r ∈ added, r.ask.podUid = r.uid
  due : ∀ r ∈ added, (r.due = true ↔ StillDue now r.uid r.ref s)
  left : ∀ r ∈ added, StillDue now r.uid r.ref s → Left ans now r.uid r.ref x'
  settled : ∀ y ∈ l, y.1 ∉ added.map (·.uid) → StillDue now y.1 y.2 s → Settled y.1 y.2 x'

section Vetted

omit hrandint hown

variable {l : List (Uid × Ref)} {s s' : ControllerState} {added : List Ready} {y : Uid × Ref}

lemma vetted_nil : Vetted ans s₀ now [] s [] x' := by
  have hnone : ∀ {α : Type} {p : α → Prop}, ∀ a ∈ ([] : List α), p a := fun a ha => absurd ha List.not_mem_nil
  exact ⟨hnone, List.nodup_nil, hnone, hnone, hnone, hnone⟩

/-- It may be told from any state in which the same candidates are due. -/
lemma Vetted.congr (h : Vetted ans s₀ now l s added x')
    (hsame : ∀ y ∈ l, (StillDue now y.1 y.2 s' ↔ StillDue now y.1 y.2 s)) : Vetted ans s₀ now l s' added x' :=
  { h with
    due := fun r hr => (h.due r hr).trans (hsame _ (h.registered r hr)).symm
    left := fun r hr hdue => h.left r hr ((hsame _ (h.registered r hr)).mp hdue)
    settled := fun y hy hnot hdue => h.settled y hy hnot ((hsame y hy).mp hdue) }

/-- A candidate which is not found ready is settled. -/
lemma Vetted.pass (h : Vetted ans s₀ now l s added x')
    (hsettled : StillDue now y.1 y.2 s → Settled y.1 y.2 x') : Vetted ans s₀ now (y :: l) s added x' := by
  refine { h with registered := fun r hr => List.mem_cons_of_mem y (h.registered r hr), settled := ?_ }
  intro z hz hnot hdue
  rcases List.mem_cons.mp hz with rfl | hz
  · exact hsettled hdue
  · exact h.settled z hz hnot hdue

/-- One which is found ready is not settled, and is judged where it was due. -/
lemma Vetted.found (h : Vetted ans s₀ now l s added x') (hfresh : y.1 ∉ l.map Prod.fst) {r : Ready}
    (huid : r.uid = y.1) (href : r.ref = y.2) (hask : r.ask.podUid = r.uid)
    (hdue : r.due = true ↔ StillDue now y.1 y.2 s) (hleft : StillDue now y.1 y.2 s → Left ans now y.1 y.2 x') :
    Vetted ans s₀ now (y :: l) s (r :: added) x' := by
  obtain ⟨uid, ref⟩ := y
  obtain rfl : r.uid = uid := huid
  obtain rfl : r.ref = ref := href
  have hnotAdded : r.uid ∉ added.map (·.uid) := by
    intro hmem
    obtain ⟨r', hr', heq⟩ := List.mem_map.mp hmem
    have hin : r'.uid ∈ l.map Prod.fst := List.mem_map_of_mem (f := Prod.fst) (h.registered r' hr')
    rw [heq] at hin
    exact hfresh hin
  refine ⟨?_, ?_, ?_, ?_, ?_, fun z hz hnot hd => ?_⟩
  · exact List.forall_mem_cons.mpr ⟨List.mem_cons_self, fun r' hr' => List.mem_cons_of_mem _ (h.registered r' hr')⟩
  · exact List.nodup_cons.mpr ⟨hnotAdded, h.nodup⟩
  · exact List.forall_mem_cons.mpr ⟨hask, h.asks⟩
  · exact List.forall_mem_cons.mpr ⟨hdue, h.due⟩
  · exact List.forall_mem_cons.mpr ⟨hleft, h.left⟩
  · rw [List.map_cons, List.mem_cons, not_or] at hnot
    rcases List.mem_cons.mp hz with rfl | hz
    · exact absurd rfl hnot.1
    · exact h.settled z hz hnot.2 hd

end Vetted

lemma preflights_steps {l : List (Uid × Ref)} {ready : List Ready} {b : Except Raised (List Ready)}
    (hnodup : (l.map Prod.fst).Nodup) (hreg : ∀ y ∈ l, s₀.ondemandCandidates.get? y.1 = some y.2)
    (hmem : ∀ y ∈ l, y.1 ∈ x.1.ondemandCandidates) (hsome : ∀ y ∈ l, (x.1.candidates.get? y.2).isSome)
    (h : Prog.Tour (Prog.besideNotesAt Prog.undisturbed) (clientOutcome rules ans) (preflightOneNoted config now)
      l ready x tr b x') :
    (raisedCreates tr = [] ∧ selections tr = []) ∧ Steps s₀ (l.map Prod.fst) x x' ∧
      ∃ added, b = .ok (ready ++ added) ∧ Vetted ans s₀ now l x.1 added x' := by
  induction h with
  | nil d c => exact ⟨⟨rfl, rfl⟩, .refl, [], by rw [List.append_nil], vetted_nil⟩
  | @cons y l d d₁ c c₁ c' tr tr' b h hrest ih =>
    obtain ⟨hfresh, hnodup⟩ := List.nodup_cons.mp hnodup
    have hy := hreg y List.mem_cons_self
    have hl : ∀ z ∈ l, s₀.ondemandCandidates.get? z.1 = some z.2 := fun z hz => hreg z (List.mem_cons_of_mem y hz)
    obtain ⟨⟨hraised, hselections⟩, hfirst, hturn⟩ := preflightOneNoted_steps hrandint hown hy
      (hmem y List.mem_cons_self) (hsome y List.mem_cons_self) h
    -- the candidates still to come stand as they did before this turn
    have hother : ∀ z ∈ l, z.1 ∉ [y.1] := fun z hz hmem =>
      hfresh (List.mem_singleton.mp hmem ▸ List.mem_map_of_mem hz)
    have hsame : ∀ z ∈ l, (StillDue now z.1 z.2 c.1 ↔ StillDue now z.1 z.2 c₁.1) := by
      intro z hz
      obtain ⟨hcell, hdict, -⟩ := hfirst.others z.1 z.2 (hl z hz) (hother z hz)
      rw [StillDue, StillDue, hcell, hdict]
    obtain ⟨⟨hraised', hselections'⟩, hlast, added, hb, hvetted⟩ := ih hnodup hl
      (fun z hz => (hfirst.others z.1 z.2 (hl z hz) (hother z hz)).2.1.mpr (hmem z (List.mem_cons_of_mem y hz)))
      (fun z hz => hfirst.known _ (hsome z (List.mem_cons_of_mem y hz)))
    have hvetted := hvetted.congr hsame
    rw [raisedCreates_append, selections_append, hraised, hselections, hraised', hselections']
    refine ⟨⟨rfl, rfl⟩, hfirst.trans hlast, ?_⟩
    rcases hturn with ⟨hd, hsettled⟩ | ⟨r, hd, huid, href, hask, hdue, hleft⟩
    · cases hd
      exact ⟨added, hb, hvetted.pass fun hdue => (hsettled hdue).of_steps hlast hy hfresh⟩
    · cases hd
      refine ⟨r :: added, by rw [hb, List.append_assoc]; rfl, hvetted.found hfresh huid href hask hdue fun hdue => ?_⟩
      exact (hleft hdue).of_steps hlast hy hfresh
  | @broken y l d c c' tr e h =>
    obtain ⟨-, -, ⟨hok, -⟩ | ⟨r, hok, -⟩⟩ := preflightOneNoted_steps hrandint hown (hreg y List.mem_cons_self)
      (hmem y List.mem_cons_self) (hsome y List.mem_cons_self) h
    · cases hok
    · cases hok

/-- How far the grants of `l` come: all the way, or to the one whose create raises. -/
structure GrantsEnd (ans : ∀ q, Answer q → Prop) (s₀ : ControllerState) (now : Instant) (l : List Ready)
    (x : ControllerState × List Handling) (tr : List (Tried Raised Answer)) (x' : ControllerState × List Handling)
    (r : Ready) (done rest : List Ready) : Prop where
  split : l = done ++ r :: rest
  raised : raisedCreates tr = [r.uid]
  steps : Steps s₀ ((done ++ [r]).map (·.uid)) x x'
  settled : ∀ r' ∈ done, Settled r'.uid r'.ref x'
  left : StillDue now r.uid r.ref x.1 → Left ans now r.uid r.ref x'

section

omit hrandint hown

variable {l done rest : List Ready} {r : Ready}

lemma GrantsEnd.mem (h : GrantsEnd ans s₀ now l x tr x' r done rest) : ∀ r' ∈ done ++ [r], r' ∈ l := by
  intro r' hr'
  rw [h.split, List.append_cons]
  exact List.mem_append_left rest hr'

lemma GrantsEnd.mem_raised (h : GrantsEnd ans s₀ now l x tr x' r done rest) : r ∈ l :=
  h.mem r (List.mem_append_right done (List.mem_singleton.mpr rfl))

end

lemma grants_steps (now : Instant) {l : List Ready} {b : Except Raised Unit} (hnodup : (l.map (·.uid)).Nodup)
    (hreg : ∀ r ∈ l, s₀.ondemandCandidates.get? r.uid = some r.ref)
    (hsome : ∀ r ∈ l, (x.1.candidates.get? r.ref).isSome)
    (h : Prog.Tour (Prog.besideNotesAt Prog.undisturbed) (clientOutcome rules ans) (fun _ => grantOneNoted config)
      l () x tr b x') :
    selections tr = [] ∧
      ((b = .ok () ∧ raisedCreates tr = [] ∧ Steps s₀ (l.map (·.uid)) x x' ∧
          ∀ r ∈ l, Settled r.uid r.ref x') ∨
        (∃ e, b = .error e) ∧ ∃ r done rest, GrantsEnd ans s₀ now l x tr x' r done rest) := by
  generalize hu : () = u at h
  induction h with
  | nil d c => exact ⟨rfl, .inl ⟨rfl, rfl, .refl, fun _ hr => absurd hr List.not_mem_nil⟩⟩
  | @cons r l d d₁ c c₁ c' tr tr' b h hrest ih =>
    obtain ⟨hfresh, hnodup⟩ := List.nodup_cons.mp hnodup
    have hr := hreg r List.mem_cons_self
    obtain ⟨t, s₁, tr₁, added, ht, rfl, rfl, hnotes, hturn⟩ := grantOneNoted_turn h
    obtain ⟨hfirst, hselections, ⟨-, hraised, hsettled⟩ | ⟨⟨_, herror⟩, -⟩⟩ :=
      hturn.steps c.2 now hrandint hown hr (hsome r List.mem_cons_self)
    swap
    · cases herror
    rw [← hnotes] at hfirst hsettled
    obtain ⟨hselections', hend⟩ := ih hnodup (fun r' hr' => hreg r' (List.mem_cons_of_mem r hr'))
      (fun r' hr' => hfirst.known _ (hsome r' (List.mem_cons_of_mem r hr'))) rfl
    have hraised₁ : raisedCreates (⟨.now, .ok t⟩ :: tr₁) = [] := hraised
    have hselections₁ : selections (⟨.now, .ok t⟩ :: tr₁) = [] := hselections
    rw [selections_append, raisedCreates_append, hselections₁, hselections', hraised₁, List.nil_append]
    refine ⟨rfl, ?_⟩
    rcases hend with ⟨hb, hraised', hlast, hothers⟩ | ⟨hb, r', done, rest, hend⟩
    · refine .inl ⟨hb, hraised', hfirst.trans hlast, List.forall_mem_cons.mpr ⟨?_, hothers⟩⟩
      exact hsettled.of_steps hlast hr hfresh
    · have hnot : r.uid ∉ (done ++ [r']).map (·.uid) := by
        intro hmem
        obtain ⟨r'', hr'', heq⟩ := List.mem_map.mp hmem
        exact hfresh (List.mem_map.mpr ⟨r'', hend.mem r'' hr'', heq⟩)
      have hne : r'.uid ∉ [r.uid] := fun heq =>
        hfresh (List.mem_map.mpr ⟨r', hend.mem_raised, List.mem_singleton.mp heq⟩)
      refine .inr ⟨hb, r', r :: done, rest, ⟨?_, ?_, ?_, ?_, fun hdue => hend.left ?_⟩⟩
      · rw [hend.split]
        rfl
      · rw [raisedCreates_append, hraised₁, hend.raised]
        rfl
      · exact hfirst.trans hend.steps
      · exact List.forall_mem_cons.mpr ⟨hsettled.of_steps hend.steps hr hnot, hend.settled⟩
      · exact hdue.of_steps hfirst (hreg r' (List.mem_cons_of_mem r hend.mem_raised)) hne
  | @broken r l d c c' tr e h =>
    have hr := hreg r List.mem_cons_self
    obtain ⟨t, s₁, tr₁, added, ht, rfl, rfl, hnotes, hturn⟩ := grantOneNoted_turn h
    obtain ⟨hfirst, hselections, ⟨hok, -⟩ | ⟨-, hraised, hleft⟩⟩ :=
      hturn.steps c.2 now hrandint hown hr (hsome r List.mem_cons_self)
    · cases hok
    rw [← hnotes] at hfirst hleft
    exact ⟨hselections, .inr ⟨⟨e, rfl⟩, r, [], l, rfl, hraised, hfirst, fun _ hr => absurd hr List.not_mem_nil, hleft⟩⟩

lemma withholds_steps {verdict : Uid → Option AdmissionWithheld} {l : List Ready} {b : Except Raised Unit}
    (hnodup : (l.map (·.uid)).Nodup) (hreg : ∀ r ∈ l, s₀.ondemandCandidates.get? r.uid = some r.ref)
    (hsome : ∀ r ∈ l, (x.1.candidates.get? r.ref).isSome)
    (h : Prog.Tour (Prog.besideNotesAt Prog.undisturbed) (clientOutcome rules ans)
      (fun _ r => handleWithheldNoted config r.uid r.ref (verdict r.uid) t) l () x tr b x') :
    (raisedCreates tr = [] ∧ selections tr = []) ∧ Steps s₀ (l.map (·.uid)) x x' ∧
      ∀ r ∈ l, Settled r.uid r.ref x' := by
  generalize hu : () = u at h
  induction h with
  | nil d c => exact ⟨⟨rfl, rfl⟩, .refl, fun _ hr => absurd hr List.not_mem_nil⟩
  | @cons r l d d₁ c c₁ c' tr tr' b h hrest ih =>
    obtain ⟨hfresh, hnodup⟩ := List.nodup_cons.mp hnodup
    have hr := hreg r List.mem_cons_self
    obtain ⟨-, ⟨hraised, hselections⟩, hfirst, hsettled⟩ :=
      handleWithheldNoted_steps hrandint hown hr (hsome r List.mem_cons_self) h
    obtain ⟨⟨hraised', hselections'⟩, hlast, hothers⟩ := ih hnodup
      (fun r' hr' => hreg r' (List.mem_cons_of_mem r hr'))
      (fun r' hr' => hfirst.known _ (hsome r' (List.mem_cons_of_mem r hr'))) rfl
    rw [raisedCreates_append, selections_append, hraised, hselections, hraised', hselections']
    refine ⟨⟨rfl, rfl⟩, hfirst.trans hlast, List.forall_mem_cons.mpr ⟨?_, hothers⟩⟩
    exact hsettled.of_steps hlast hr hfresh
  | @broken r l d c c' tr e h =>
    obtain ⟨hok, -⟩ := handleWithheldNoted_steps hrandint hown (hreg r List.mem_cons_self) (hsome r List.mem_cons_self) h
    cases hok

end Loops

end GpuReservation.Proofs
