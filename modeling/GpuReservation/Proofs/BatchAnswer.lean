import GpuReservation.Proofs.ForgottenCancellations
import GpuReservation.Proofs.PassNotes
import GpuReservation.Proofs.WaitingCandidates

/-!
# What a batch does with the app's answer

Those the app was offered fall into two: the ones it grants, each judged once and in its order, and the others,
each withheld once.  So it is for every answer which can be read, as long as no create raises before its time.
-/

namespace GpuReservation.Proofs

open GpuReservation.Library GpuReservation.Model

/-- What the others do is their affair, but they do it while a call yields. -/
def beside (q : Request) (s s' : ControllerState) : Prop := yields q = false → s' = s

/-- Whom the notes say to have been judged for a grant, in order. -/
def judgedUids (notes : List Handling) : List Uid :=
  notes.filterMap fun h => match h.treatment with
    | .judged => some h.uid
    | _ => none

/-- And whom to have been withheld. -/
def withheldUids (notes : List Handling) : List Uid :=
  notes.filterMap fun h => match h.treatment with
    | .withheld _ _ _ _ => some h.uid
    | _ => none

/-- What the first entry which names the pod says. -/
def verdictOf (rules : WireRules) (entries : List Json) (uid : Uid) : Option AdmissionWithheld :=
  ((entries.find? fun entry => withheldUid entry = some uid).bind (entryOf rules)).map WithheldEntry.verdict

/-- The offered ones the answer grants, each once, where they first appear. -/
def grantedOffered (ready : List Ready) (granted : List Uid) : List Uid :=
  granted.eraseDups.filter fun u => (ready.map (·.uid)).contains u

/-- One candidate of the batch is withheld: it is told what the answer says of it, stays on the list, and is tried
again within reach. -/
structure Withholds (rules : WireRules) (ready : List Ready) (entries : List Json) (h : Handling) (ref : Ref)
    (verdict : Option AdmissionWithheld) (before after : ControllerState) : Prop where
  offered : ∃ r ∈ ready, r.uid = h.uid ∧ r.ref = ref
  verdict : verdict = verdictOf rules entries h.uid
  kept : Judged ref h.at_ True before after

/-- Those judged for a grant are the offered ones the answer grants; creates are made for them alone, one at
most for each; and the other offered ones are withheld, each once. -/
structure Conforms (rules : WireRules) (ready : List Ready) (granted : List Uid) (entries : List Json)
    (tr : List (Tried Raised Answer)) (notes : List Handling) : Prop where
  judged : judgedUids notes = grantedOffered ready granted
  withheld : withheldUids notes = (ready.filter fun r => r.uid ∉ granted).map (·.uid)
  partition : (judgedUids notes ++ withheldUids notes).Perm (ready.map (·.uid))
  creates : (creates tr).Sublist (judgedUids notes)
  withholds : ∀ h ∈ notes, ∀ ref verdict before after, h.treatment = .withheld ref verdict before after →
    Withholds rules ready entries h ref verdict before after

/-- No entry which names a pod names an instant beyond the calendar. -/
def AnswerRead (rules : WireRules) (entries : List Json) : Prop :=
  ∀ entry ∈ entries, (withheldUid entry).isSome → ¬ overflowing rules entry

/-- A create which raises is the last there is to make, and nobody is left to be withheld. -/
def CreatesRead (ready : List Ready) (granted : List Uid) (tr : List (Tried Raised Answer)) : Prop :=
  ∀ uid ∈ raisedCreates tr,
    (grantedOffered ready granted).getLast? = some uid ∧ ∀ r ∈ ready, r.uid ∈ granted

section Notes

variable {rules : WireRules} {ans : ∀ q, Answer q → Prop} {others : Request → ControllerState → ControllerState → Prop}
  {config : Config} {x x' : ControllerState × List Handling} {tr : List (Tried Raised Answer)}
  {notes notes' : List Handling}

lemma judgedUids_append : judgedUids (notes ++ notes') = judgedUids notes ++ judgedUids notes' :=
  List.filterMap_append

lemma withheldUids_append : withheldUids (notes ++ notes') = withheldUids notes ++ withheldUids notes' :=
  List.filterMap_append

/-- What a turn of the grant loop notes, and what it creates. -/
lemma GrantTurn.noted {r : Ready} {t : Instant} {s s' : ControllerState} {b : Except Raised Unit}
    (h : GrantTurn config rules ans others r t s tr notes b s') :
    judgedUids notes = [r.uid] ∧ (∀ h ∈ notes, h.treatment = .judged ∨ h.treatment = .created) ∧
      (creates tr).Sublist [r.uid] ∧
      ((b = .ok () ∧ raisedCreates tr = []) ∨ (∃ e, b = .error e) ∧ raisedCreates tr = [r.uid]) := by
  have hquiet := fun t => (holdOnFit_tells config r.uid r.ref t r.fit).quiet
  cases h with
  | held hfit =>
    obtain ⟨-, hcreates, hraised, -⟩ := (hquiet t).comesTo hfit
    refine ⟨rfl, by simp, ?_, .inl ⟨rfl, hraised⟩⟩
    rw [hcreates]
    exact List.nil_sublist _
  | tried hfit h =>
    obtain ⟨-, hcreates, hraised, -⟩ := (hquiet t).comesTo hfit
    obtain ⟨hcreates', -, ⟨-, hraised'⟩ | ⟨-, ⟨_, herror⟩, -⟩⟩ := grantAndAdmit_comesTo h
    · refine ⟨rfl, by simp, ?_, .inl ⟨rfl, ?_⟩⟩
      · rw [creates_append, hcreates, hcreates']
        exact List.Sublist.refl _
      · rw [raisedCreates_append, hraised, hraised', List.append_nil]
    · cases herror
  | raised hfit h =>
    obtain ⟨-, hcreates, hraised, -⟩ := (hquiet t).comesTo hfit
    obtain ⟨hcreates', -, ⟨⟨_, hok⟩, -⟩ | ⟨hraised', -⟩⟩ := grantAndAdmit_comesTo h
    · cases hok
    · refine ⟨rfl, by simp, ?_, .inr ⟨⟨_, rfl⟩, ?_⟩⟩
      · rw [creates_append, hcreates, hcreates']
        exact List.Sublist.refl _
      · rw [raisedCreates_append, hraised, hraised', List.nil_append]

/-- How far the grant loop comes: `done` are judged, one create at most being made for each, and the loop is
through, or the create for the last of them raised. -/
structure GrantsDone (l done rest : List Ready) (tr : List (Tried Raised Answer)) (added : List Handling)
    (b : Except Raised Unit) : Prop where
  split : l = done ++ rest
  judged : judgedUids added = done.map (·.uid)
  treatments : ∀ h ∈ added, h.treatment = .judged ∨ h.treatment = .created
  creates : (creates tr).Sublist (done.map (·.uid))
  ending : (b = .ok () ∧ rest = [] ∧ raisedCreates tr = []) ∨
    (∃ e, b = .error e) ∧ ∃ uid, raisedCreates tr = [uid] ∧ (done.map (·.uid)).getLast? = some uid

lemma grants_done {l : List Ready} {b : Except Raised Unit}
    (h : Prog.Tour (Prog.besideNotesAt others) (clientOutcome rules ans) (fun _ => grantOneNoted config) l () x tr b x') :
    ∃ done rest added, x'.2 = x.2 ++ added ∧ GrantsDone l done rest tr added b := by
  generalize hu : () = u at h
  induction h with
  | nil d c =>
    have hdone : GrantsDone [] [] [] [] [] (.ok d) :=
      { split := rfl
        judged := rfl
        treatments := fun _ hmem => absurd hmem List.not_mem_nil
        creates := List.nil_sublist _
        ending := .inl ⟨rfl, rfl, rfl⟩ }
    exact ⟨[], [], [], (List.append_nil _).symm, hdone⟩
  | @cons r l d d₁ c c₁ c' tr tr' b h hrest ih =>
    obtain ⟨t, s₁, tr₁, added₁, -, -, rfl, hnotes₁, hturn⟩ := grantOneNoted_turn h
    obtain ⟨hjudged, htreatments, hcreates, ⟨-, hraised⟩ | ⟨⟨_, herror⟩, -⟩⟩ := hturn.noted
    swap
    · cases herror
    obtain ⟨done, rest, added, hnotes, hdone⟩ := ih rfl
    refine ⟨r :: done, rest, added₁ ++ added, ?_, ?_, ?_, ?_, ?_, ?_⟩
    · rw [hnotes, hnotes₁, List.append_assoc]
    · rw [hdone.split]
      rfl
    · rw [judgedUids_append, hjudged, hdone.judged]
      rfl
    · exact List.forall_mem_append.mpr ⟨htreatments, hdone.treatments⟩
    · rw [creates_append, List.map_cons]
      exact hcreates.append hdone.creates
    · have hraised₁ : raisedCreates (⟨.now, .ok t⟩ :: tr₁) = [] := hraised
      rw [raisedCreates_append, hraised₁, List.nil_append]
      rcases hdone.ending with ⟨hb, hrest, hraised'⟩ | ⟨he, uid, hraised', hlast⟩
      · exact .inl ⟨hb, hrest, hraised'⟩
      · refine .inr ⟨he, uid, hraised', ?_⟩
        rw [List.map_cons, List.getLast?_cons, hlast]
        rfl
  | @broken r l d c c' tr e h =>
    obtain ⟨t, s₁, tr₁, added₁, -, -, rfl, hnotes₁, hturn⟩ := grantOneNoted_turn h
    obtain ⟨hjudged, htreatments, hcreates, ⟨hok, -⟩ | ⟨herror, hraised⟩⟩ := hturn.noted
    · cases hok
    · exact ⟨[r], l, added₁, hnotes₁, rfl, hjudged, htreatments, hcreates, .inr ⟨⟨e, rfl⟩, r.uid, hraised, rfl⟩⟩

/-- What is noted of one who is withheld. -/
lemma handleWithheldNoted_noted (hrandint : RandintBounds ans) {uid : Uid} {ref : Ref}
    {verdict : Option AdmissionWithheld} {t : Instant} {b : Except Raised Unit} {s s' : ControllerState}
    (h : (handleWithheldNoted config uid ref verdict t).ComesTo (Prog.besideNotesAt beside)
      (clientOutcome rules ans) (s, notes) tr b (s', notes')) :
    b = .ok () ∧ creates tr = [] ∧ raisedCreates tr = [] ∧
      ∃ after, notes' = notes ++ [⟨uid, t, .withheld ref verdict s after⟩] ∧ Judged ref t True s after := by
  obtain ⟨hb, ⟨hcreates, hraised, -⟩, after, tr₁, tr₂, rfl, hnotes, hset, -⟩ := handleWithheldNoted_turn h
  refine ⟨hb, hcreates, hraised, after, hnotes, ?_⟩
  -- nobody comes between: the waiting time is drawn without a yield
  have halone := Prog.comesTo_undisturbed_of_within (fun q hq s s' ho => ho hq.2)
    (withheldSchedule_within ref verdict t) hset
  obtain ⟨tr', hexec, -⟩ := Prog.exec_of_comesTo halone
  have hbounds : RandintBounds fun q a => clientOutcome rules ans q (.ok a) :=
    fun lo hi n hle hn => hrandint lo hi n hle hn
  exact withheldSchedule_decides ref verdict t hbounds s tr' () after hexec

lemma withholds_done (hrandint : RandintBounds ans) (verdict : Uid → Option AdmissionWithheld) {t : Instant}
    {l : List Ready} {b : Except Raised Unit}
    (h : Prog.Tour (Prog.besideNotesAt beside) (clientOutcome rules ans)
      (fun _ r => handleWithheldNoted config r.uid r.ref (verdict r.uid) t) l () x tr b x') :
    creates tr = [] ∧ raisedCreates tr = [] ∧ ∃ added, x'.2 = x.2 ++ added ∧ judgedUids added = [] ∧
      withheldUids added = l.map (·.uid) ∧
      ∀ h ∈ added, ∀ ref v before after, h.treatment = .withheld ref v before after →
        (∃ r ∈ l, r.uid = h.uid ∧ r.ref = ref) ∧ v = verdict h.uid ∧ Judged ref h.at_ True before after := by
  generalize hu : () = u at h
  induction h with
  | nil d c =>
    exact ⟨rfl, rfl, [], (List.append_nil _).symm, rfl, rfl, fun _ hmem => absurd hmem List.not_mem_nil⟩
  | @cons r l d d₁ c c₁ c' tr tr' b h hrest ih =>
    obtain ⟨-, hcreates, hraised, after, hnotes, hjudged⟩ := handleWithheldNoted_noted hrandint h
    obtain ⟨hcreates', hraised', added, hnotes', hnone, hwithheld, hall⟩ := ih rfl
    refine ⟨?_, ?_, ⟨r.uid, t, .withheld r.ref (verdict r.uid) c.1 after⟩ :: added, ?_, hnone, ?_, ?_⟩
    · rw [creates_append, hcreates, hcreates', List.append_nil]
    · rw [raisedCreates_append, hraised, hraised', List.append_nil]
    · rw [hnotes', hnotes, List.append_assoc]
      rfl
    · change r.uid :: withheldUids added = _
      rw [hwithheld, List.map_cons]
    · refine List.forall_mem_cons.mpr ⟨?_, fun h hmem ref v before after htreat => ?_⟩
      · rintro ref v before after ⟨⟩
        exact ⟨⟨r, List.mem_cons_self, rfl, rfl⟩, rfl, hjudged⟩
      · obtain ⟨⟨r', hr', hmatch⟩, hrest⟩ := hall h hmem ref v before after htreat
        exact ⟨⟨r', List.mem_cons_of_mem r hr', hmatch⟩, hrest⟩
  | broken h =>
    obtain ⟨hok, -⟩ := handleWithheldNoted_noted hrandint h
    cases hok

end Notes

/-- The app's order, each uid where it first appears, those it was not offered left out. -/
lemma mapGrantedUids_eq (ready : List Ready) (granted : List Uid) :
    mapGrantedUids ready granted = grantedOffered ready granted := by
  rw [mapGrantedUids, grantedOffered]
  induction granted using List.reverseRecOn with
  | nil => rfl
  | append_singleton granted u ih =>
    rw [List.foldl_append, List.foldl_cons, List.foldl_nil, ih, List.eraseDups_append,
      List.filter_append]
    by_cases hoffered : (ready.map (·.uid)).contains u
    · by_cases hseen : u ∈ granted
      · have hremoved : [u].removeAll granted = [] := by simp [List.cons_removeAll, hseen]
        have hmem : (granted.eraseDups.filter fun u => (ready.map (·.uid)).contains u).contains u := by
          rw [List.contains_eq_mem, decide_eq_true_iff]
          exact List.mem_filter.mpr ⟨List.mem_eraseDups.mpr hseen, hoffered⟩
        rw [hremoved, hmem, hoffered]
        exact (List.append_nil _).symm
      · have hkept : [u].removeAll granted = [u] := by simp [List.cons_removeAll, hseen]
        have hnew : (granted.eraseDups.filter fun u => (ready.map (·.uid)).contains u).contains u =
            false := by
          rw [List.contains_eq_mem, decide_eq_false_iff_not]
          exact fun hmem => hseen (List.mem_eraseDups.mp (List.mem_filter.mp hmem).1)
        rw [hkept, hnew, hoffered]
        have honce : [u].eraseDups = [u] := rfl
        rw [honce, List.filter_cons_of_pos hoffered]
        rfl
    · have hnone : ([u].removeAll granted).eraseDups.filter
          (fun u => (ready.map (·.uid)).contains u) = [] := by
        refine List.filter_eq_nil_iff.mpr fun v hv => ?_
        have hvu : v = u := by
          have hmem := List.mem_eraseDups.mp hv
          simp only [List.removeAll, List.mem_filter, List.mem_singleton] at hmem
          exact hmem.1
        rw [hvu]
        exact hoffered
      have hunknown : (ready.map (·.uid)).contains u = false := eq_false_of_ne_true hoffered
      rw [hnone, List.append_nil, hunknown]
      rfl

/-- The granted ones and the others make up those who were offered. -/
lemma granted_partition {ready : List Ready} (hdistinct : (ready.map (·.uid)).Nodup)
    (granted : List Uid) :
    (((mapGrantedUids ready granted).filterMap fun u => ready.find? (·.uid = u)) ++
      ready.filter fun r => r.uid ∉ mapGrantedUids ready granted).Perm ready := by
  have hgranted := granted_nodup ready (mapGrantedUids_nodup ready granted)
  refine (List.perm_ext_iff_of_nodup ?_ hdistinct.of_map).mpr fun r => ?_
  · refine List.nodup_append'.mpr ⟨hgranted.1.of_map, hdistinct.of_map.filter _, ?_⟩
    intro r hr hother
    have hnot := (List.mem_filter.mp hother).2
    exact absurd ((mem_granted hdistinct).mp hr).2 (by simpa using hnot)
  · rw [List.mem_append, mem_granted hdistinct, List.mem_filter, decide_eq_true_iff]
    constructor
    · rintro (h | h)
      · exact h.1
      · exact h.1
    · intro hr
      by_cases hu : r.uid ∈ mapGrantedUids ready granted
      · exact .inl ⟨hr, hu⟩
      · exact .inr ⟨hr, hu⟩

/-- Of those offered, the mapped ones are the granted ones. -/
lemma mem_mapGrantedUids {ready : List Ready} {r : Ready} (hr : r ∈ ready) (granted : List Uid) :
    r.uid ∈ mapGrantedUids ready granted ↔ r.uid ∈ granted := by
  rw [mapGrantedUids_eq, grantedOffered, List.mem_filter, List.mem_eraseDups]
  refine and_iff_left ?_
  rw [List.contains_eq_mem, decide_eq_true_iff]
  exact List.mem_map_of_mem hr

lemma withheld_mapped (ready : List Ready) (granted : List Uid) :
    (ready.filter fun r => r.uid ∉ mapGrantedUids ready granted) = ready.filter fun r => r.uid ∉ granted :=
  List.filter_congr fun r hr => by rw [decide_eq_decide, mem_mapGrantedUids hr granted]

lemma judged_mapped (ready : List Ready) (granted : List Uid) :
    ((mapGrantedUids ready granted).filterMap fun u => ready.find? (·.uid = u)).map (·.uid) =
      grantedOffered ready granted := by
  rw [map_uid_granted, mapGrantedUids_eq, grantedOffered, List.filter_filter]
  refine List.filter_congr fun u _ => ?_
  rw [List.contains_eq_mem, Bool.and_self]

section Answers

variable {rules : WireRules} {ans : ∀ q, Answer q → Prop} {config : Config} {ready : List Ready}
  {granted : List Uid} {entries : List Json} {s s' : ControllerState} {tr : List (Tried Raised Answer)}
  {b : Except Raised Unit} {notes : List Handling}

/-- The selection, as the client reads it. -/
def readAnswer (rules : WireRules) (granted : List Uid) (entries : List Json) :
    Except Raised (Option AdmissionSelection) :=
  (readWithheldEntries rules entries).map fun withheld => some { granted := granted, withheld := withheld }

lemma answerRead_iff : AnswerRead rules entries ↔ ∃ withheld, readWithheldEntries rules entries = .ok withheld := by
  obtain ⟨hraised, -⟩ := readWithheldEntries_from rules entries ∅
  cases hread : readWithheldEntries rules entries with
  | ok withheld =>
    refine ⟨fun _ => ⟨withheld, rfl⟩, fun _ entry hmem hnamed hover => ?_⟩
    have herror := (hraised .overflow).mpr ⟨rfl, entry, hmem, hnamed, hover⟩
    cases hread.symm.trans herror
  | error e =>
    obtain ⟨-, entry, hmem, hnamed, hover⟩ := (hraised e).mp hread
    refine ⟨fun h => absurd hover (h entry hmem hnamed), ?_⟩
    rintro ⟨_, ⟨⟩⟩

lemma withheldEntries_verdict {withheld : Dict Uid AdmissionWithheld}
    (hread : readWithheldEntries rules entries = .ok withheld) (uid : Uid) :
    withheld.get? uid = verdictOf rules entries uid := by
  rw [(readWithheldEntries_from rules entries ∅).2 withheld hread]
  have hget := get?_withheldEntries (entries.map (entryOf rules)) uid
  rw [withheldEntries, List.filterMap_map] at hget
  exact hget.trans (findSome?_verdictOn rules uid entries)

/-- A selection which raises is the end: nobody is judged, and nobody withheld. -/
lemma admitBatchNoted_unread (hdelegate : config.ondemandDelegateAdmission) {e : Raised}
    (hread : readWithheldEntries rules entries = .error e)
    (h : (admitBatchNoted config ready).ComesTo (Prog.besideNotesAt beside) (clientOutcome rules ans) (s, [])
      (⟨.selectOndemandAdmissions (ready.map (·.ask)), readAnswer rules granted entries⟩ :: tr) b (s', notes)) :
    tr = [] ∧ notes = [] := by
  rw [admitBatchNoted, if_pos hdelegate, notedCall, Prog.comesTo_ask_bind] at h
  rcases h with ⟨selection, _, tr', -, -, htr, -⟩ | ⟨e', -, ⟨-, hnotes⟩, htr, -⟩
  · rw [readAnswer, hread] at htr
    cases htr
  · exact ⟨(List.cons.inj htr).2, hnotes⟩

/-- Where it is read, the grants are made as far as they get, and then the others are withheld. -/
lemma admitBatchNoted_read (hrandint : RandintBounds ans) (hdelegate : config.ondemandDelegateAdmission)
    {withheld : Dict Uid AdmissionWithheld} (hread : readWithheldEntries rules entries = .ok withheld)
    (h : (admitBatchNoted config ready).ComesTo (Prog.besideNotesAt beside) (clientOutcome rules ans) (s, [])
      (⟨.selectOndemandAdmissions (ready.map (·.ask)), readAnswer rules granted entries⟩ :: tr) b (s', notes)) :
    ∃ done rest tr₁ tr₂ added others b', tr = tr₁ ++ tr₂ ∧ notes = added ++ others ∧
      GrantsDone ((mapGrantedUids ready granted).filterMap fun u => ready.find? (·.uid = u)) done rest tr₁ added b' ∧
      creates tr₂ = [] ∧ raisedCreates tr₂ = [] ∧ judgedUids others = [] ∧
      (∀ h ∈ others, ∀ ref v before after, h.treatment = .withheld ref v before after →
        Withholds rules ready entries h ref v before after) ∧
      ((b' = .ok () ∧ withheldUids others = (ready.filter fun r => r.uid ∉ granted).map (·.uid)) ∨
        (∃ e, b' = .error e) ∧ others = []) := by
  have hanswer : readAnswer rules granted entries = .ok (some { granted := granted, withheld := withheld }) := by
    rw [readAnswer, hread]
    rfl
  rw [admitBatchNoted, if_pos hdelegate, notedCall, Prog.comesTo_ask_bind, hanswer] at h
  rcases h with ⟨selection, ⟨s₁, _⟩, tr', -, ⟨-, rfl⟩, htr, h⟩ | ⟨e', -, -, htr, -⟩
  swap
  · cases htr
  cases htr
  dsimp only at h
  rw [Prog.comesTo_bind] at h
  rcases h with ⟨tr₁, tr₂, _, ⟨s₂, notes₂⟩, rfl, hgrants, h⟩ | ⟨e, hgrants, rfl⟩
  · obtain ⟨done, rest, added, hadded, hdone⟩ := grants_done (Prog.comesTo_forM hgrants)
    obtain rfl : notes₂ = added := hadded
    rw [withholdEachNoted, notedCall, Prog.comesTo_ask_bind] at h
    rcases h with ⟨t, ⟨s₃, notes₃⟩, tr₃, -, ⟨-, hnotes₃⟩, rfl, h⟩ | ⟨e, he, -⟩
    swap
    · exact False.elim he
    obtain rfl : notes₃ = notes₂ := hnotes₃
    obtain ⟨hcreates, hraised, others, hnotes, hjudged, huids, hall⟩ :=
      withholds_done hrandint withheld.get? (Prog.comesTo_forM h)
    refine ⟨done, rest, tr₁, _, notes₃, others, _, rfl, hnotes, hdone, hcreates, hraised, hjudged, ?_, .inl ⟨rfl, ?_⟩⟩
    · intro h hmem ref v before after htreat
      obtain ⟨⟨r, hr, hmatch⟩, hv, hkept⟩ := hall h hmem ref v before after htreat
      exact ⟨⟨r, (List.mem_filter.mp hr).1, hmatch⟩, hv.trans (withheldEntries_verdict hread _), hkept⟩
    · rw [huids, withheld_mapped]
  · obtain ⟨done, rest, added, hadded, hdone⟩ := grants_done (Prog.comesTo_forM hgrants)
    obtain rfl : notes = added := hadded
    exact ⟨done, rest, _, [], notes, [], _, (List.append_nil _).symm, (List.append_nil _).symm, hdone, rfl, rfl,
      rfl, fun _ hmem => absurd hmem List.not_mem_nil, .inr ⟨⟨e, rfl⟩, rfl⟩⟩

/-- Two lists of different items cannot end alike, one after the other. -/
lemma eq_nil_of_getLast? {α : Type} {l l' : List α} {a : α} (hnodup : (l ++ l').Nodup)
    (hfirst : l.getLast? = some a) (hall : (l ++ l').getLast? = some a) : l' = [] := by
  by_contra hne
  rw [List.getLast?_append_of_ne_nil l hne] at hall
  exact (List.nodup_append'.mp hnodup).2.2 (List.mem_of_getLast? hfirst) (List.mem_of_getLast? hall)

lemma withheldUids_of_grants (h : ∀ h ∈ notes, h.treatment = .judged ∨ h.treatment = .created) :
    withheldUids notes = [] := by
  refine List.filterMap_eq_nil_iff.mpr fun a ha => ?_
  rcases h a ha with htreat | htreat
  · rw [htreat]
  · rw [htreat]

/-- All of the granted are judged and all of the others withheld. -/
lemma conforms_of_done (hdistinct : (ready.map (·.uid)).Nodup) {tr₁ tr₂ : List (Tried Raised Answer)}
    {added others : List Handling} {done : List Ready} {b' : Except Raised Unit}
    (hdone : GrantsDone ((mapGrantedUids ready granted).filterMap fun u => ready.find? (·.uid = u)) done [] tr₁ added b')
    (hcreates : creates tr₂ = []) (hjudged : judgedUids others = [])
    (hall : ∀ h ∈ others, ∀ ref v before after, h.treatment = .withheld ref v before after →
      Withholds rules ready entries h ref v before after)
    (hwithheld : withheldUids others = (ready.filter fun r => r.uid ∉ granted).map (·.uid)) :
    Conforms rules ready granted entries (tr₁ ++ tr₂) (added ++ others) := by
  have hsplit := hdone.split
  rw [List.append_nil] at hsplit
  have hjudgedAll : judgedUids (added ++ others) = grantedOffered ready granted := by
    rw [judgedUids_append, hdone.judged, hjudged, List.append_nil, ← hsplit, judged_mapped]
  have hwithheldAll : withheldUids (added ++ others) = (ready.filter fun r => r.uid ∉ granted).map (·.uid) := by
    rw [withheldUids_append, withheldUids_of_grants hdone.treatments, hwithheld, List.nil_append]
  refine ⟨hjudgedAll, hwithheldAll, ?_, ?_, ?_⟩
  · have hperm := (granted_partition hdistinct granted).map (·.uid)
    rwa [List.map_append, judged_mapped, withheld_mapped, ← hjudgedAll, ← hwithheldAll] at hperm
  · rw [creates_append, hcreates, List.append_nil, judgedUids_append, hdone.judged, hjudged, List.append_nil]
    exact hdone.creates
  · intro h hmem ref v before after htreat
    rcases List.mem_append.mp hmem with hmem | hmem
    · rcases hdone.treatments h hmem with h' | h'
      · cases htreat.symm.trans h'
      · cases htreat.symm.trans h'
    · exact hall h hmem ref v before after htreat

end Answers

/-- Two candidates which were found ready. -/
def offeredPods : List Ready :=
  ["A", "B"].map fun uid =>
    { uid := uid
      ref := 0
      ask := ⟨uid, 0, "u", none, 1, 1, 3600, false⟩
      fit := ⟨none, 3600⟩
      due := true }

/-- The app grants one of them twice, along with a pod it was not offered; it says of the granted one that it is
withheld, and nothing of the other. -/
def grantsTwice : Json :=
  .obj [("granted_pod_uids", .arr [.str "A", .str "X", .str "A"]),
    ("withheld", .arr [.null, .obj [("pod_uid", .str "A")]])]

/-- The app is asked, and no create reaches it. -/
def answersOnce (selection : Json) : ∀ q, Except Raised (Answer q)
  | .selectOndemandAdmissions _ =>
    selectOndemandAdmissions plainWire (some { status := 200, json := some selection })
  | .createReservation _ => postReservationCreate plainWire none
  | q => .ok (refusedAnswer q)

lemma answersOnce_outcome (selection : Json) (q : Request) :
    clientOutcome plainWire canAnswer q (answersOnce selection q) := by
  have hanswers : ∀ q, canAnswer q (refusedAnswer q) :=
    worldAnswer_canAnswer {} empty_unlocked { outcome := .refused }
  cases q with
  | selectOndemandAdmissions asks => exact ⟨_, rfl⟩
  | createReservation req => exact ⟨none, rfl⟩
  | _ => exact hanswers _

/-- The batch with that answer. -/
def grantsTwiceBatch : List (Tried Raised Answer) × Except Raised Unit × ControllerState :=
  (admitBatch { ondemandDelegateAdmission := true } offeredPods).resultWith (answersOnce grantsTwice) {}

/-- The other one is withheld until an instant which is no longer one in UTC. -/
def withheldLate : List Json :=
  [.obj [("pod_uid", .str "B"), ("code", .str "capacity_group"), ("not_before", .str "9999-12-31T23:59:59-14:00")]]

end GpuReservation.Proofs
