import GpuReservation.Proofs.BatchAnswer
import GpuReservation.Proofs.PassSteps

/-!
# Kept candidates are tried again, in good time

A pass with nobody else about judges every candidate which is due.  What it keeps it puts within reach of the
instant it was judged at last, unless a call raises whose answer it was waiting for.
-/

namespace GpuReservation.Proofs

open GpuReservation.Library GpuReservation.Model

/-- The candidate of the pod is to be tried by `now`. -/
def DueAt (s : ControllerState) (now : Instant) (uid : Uid) : Prop :=
  ∃ ref, s.ondemandCandidates.get? uid = some ref ∧ (s.candidate ref).nextAttemptAt ≤ now

/-- No due pod is kept waiting by what raises: a selection which raises is not asked about one, and a create which
raises is not for one, and comes after the creates of all the due ones the selection was asked about. -/
def NoneStranded (due : Uid → Prop) (tr : List (Tried Raised Answer)) : Prop :=
  (∀ asked e, (asked, .error e) ∈ selections tr → ∀ uid ∈ asked, ¬ due uid) ∧
    ∀ key ∈ raisedCreates tr, ¬ due key ∧ ∀ asked answered, (asked, .ok (some answered)) ∈ selections tr →
      ∀ uid ∈ asked, due uid → uid ∈ answered.granted.takeWhile (· ≠ key)

/-- Where nothing raised, nobody is stranded. -/
lemma noneStranded_of_read {due : Uid → Prop} {tr : List (Tried Raised Answer)}
    (hread : ∀ asked e, (asked, .error e) ∉ selections tr) (hraised : raisedCreates tr = []) : NoneStranded due tr := by
  rw [NoneStranded, hraised]
  exact ⟨fun asked e hmem => absurd hmem (hread asked e), fun _ hmem => absurd hmem List.not_mem_nil⟩

section Order

/-- What comes before the first place where `k` stands. -/
lemma takeWhile_ne_append {α : Type} [DecidableEq α] {l l' : List α} {k : α} (h : k ∉ l) :
    (l ++ k :: l').takeWhile (· ≠ k) = l := by
  have hall : ∀ a ∈ l, decide (a ≠ k) = true := fun a ha => decide_eq_true fun heq => h (heq ▸ ha)
  rw [List.takeWhile_append_of_pos hall, List.takeWhile_cons_of_neg (by simp), List.append_nil]

/-- The offered ones which are granted before `k` are those which come before it when each is taken once. -/
lemma mem_grantedOffered_before {ready : List Ready} {granted before after : List Uid} {k u : Uid}
    (hsplit : grantedOffered ready granted = before ++ k :: after) (hnodup : (before ++ k :: after).Nodup)
    (hoffered : u ∈ ready.map (·.uid)) : u ∈ granted.takeWhile (· ≠ k) ↔ u ∈ before := by
  have hbefore : k ∉ before := fun hmem => (List.nodup_append'.mp hnodup).2.2 hmem List.mem_cons_self
  obtain ⟨hgranted, hk⟩ : k ∈ granted.eraseDups ∧ (ready.map (·.uid)).contains k := by
    refine List.mem_filter.mp ?_
    rw [grantedOffered] at hsplit
    rw [hsplit]
    exact List.mem_append_right before List.mem_cons_self
  obtain ⟨taken, rest, rfl, htaken⟩ := List.eq_append_cons_of_mem (List.mem_eraseDups.mp hgranted)
  have hremoved : (k :: rest).removeAll taken = k :: rest.removeAll taken := by
    rw [List.cons_removeAll, if_pos (by simpa using htaken)]
  rw [grantedOffered, List.eraseDups_append, hremoved, List.eraseDups_cons, List.filter_append,
    List.filter_cons_of_pos hk] at hsplit
  have hfirst := congrArg (List.takeWhile (· ≠ k)) hsplit
  rw [takeWhile_ne_append hbefore, takeWhile_ne_append fun hmem =>
    htaken (List.mem_eraseDups.mp (List.mem_filter.mp hmem).1)] at hfirst
  rw [takeWhile_ne_append htaken, ← hfirst, List.mem_filter, List.mem_eraseDups, List.contains_eq_mem,
    decide_eq_true_iff]
  exact (and_iff_left hoffered).symm

end Order

section Batch

variable {rules : WireRules} {ans : ∀ q, Answer q → Prop} {config : Config} {s₀ : ControllerState}
  {x x' : ControllerState × List Handling} {tr : List (Tried Raised Answer)} {now : Instant}
  (hrandint : RandintBounds ans) (hown : OwnCandidates s₀)

/-- What became of the due ones among those found ready: either nothing stranded any, and they are settled, or one of
them is left due. -/
structure BatchEnd (ans : ∀ q, Answer q → Prop) (s₀ : ControllerState) (now : Instant) (due : Uid → Prop)
    (ready : List Ready) (x : ControllerState × List Handling) (tr : List (Tried Raised Answer))
    (x' : ControllerState × List Handling) : Prop where
  steps : Steps s₀ (ready.map (·.uid)) x x'
  settled : NoneStranded due tr → ∀ r ∈ ready, r.due = true → Settled r.uid r.ref x'
  left : ¬ NoneStranded due tr → ∃ r ∈ ready, r.due = true ∧ Left ans now r.uid r.ref x'

variable {ready : List Ready} {due : Uid → Prop} (hnodup : (ready.map (·.uid)).Nodup)
  (hreg : ∀ r ∈ ready, s₀.ondemandCandidates.get? r.uid = some r.ref)
  (hsome : ∀ r ∈ ready, (x.1.candidates.get? r.ref).isSome) (hdue : ∀ r ∈ ready, (r.due = true ↔ due r.uid))
  (hleft : ∀ r ∈ ready, r.due = true → Left ans now r.uid r.ref x)
include hrandint hown hnodup hreg hsome

/-- The grants to some of those found ready. -/
lemma grantEach_steps (now : Instant) {granted : List Uid} (hgranted : granted.Nodup) {b : Except Raised Unit}
    (h : (grantEachNoted config ready granted).ComesTo (Prog.besideNotesAt Prog.undisturbed)
      (clientOutcome rules ans) x tr b x') :
    selections tr = [] ∧
      ((b = .ok () ∧ raisedCreates tr = [] ∧ Steps s₀ (ready.map (·.uid)) x x' ∧
          ∀ r ∈ ready, r.uid ∈ granted → Settled r.uid r.ref x') ∨
        (∃ e, b = .error e) ∧ ∃ r done rest, r ∈ ready ∧ r.uid ∈ granted ∧ Steps s₀ (ready.map (·.uid)) x x' ∧
          GrantsEnd ans s₀ now (granted.filterMap fun u => ready.find? (·.uid = u)) x tr x' r done rest) := by
  obtain ⟨honce, hsub⟩ := granted_nodup ready hgranted
  obtain ⟨hselections, ⟨hb, hraised, hsteps, hsettled⟩ | ⟨hb, r, done, rest, hend⟩⟩ := grants_steps hrandint
    hown now honce (fun r hr => hreg r ((mem_granted hnodup).mp hr).1)
    (fun r hr => hsome r ((mem_granted hnodup).mp hr).1) (Prog.comesTo_forM h)
  · exact ⟨hselections, .inl ⟨hb, hraised, hsteps.widen hsub, fun r hr hu => hsettled r ((mem_granted hnodup).mpr ⟨hr, hu⟩)⟩⟩
  · have hr := (mem_granted hnodup).mp hend.mem_raised
    refine ⟨hselections, .inr ⟨hb, r, done, rest, hr.1, hr.2, hend.steps.widen fun u hu => ?_, hend⟩⟩
    obtain ⟨r', hr', rfl⟩ := List.mem_map.mp hu
    exact List.mem_map_of_mem ((mem_granted hnodup).mp (hend.mem r' hr')).1

include hdue hleft

/-- The grants to all of the due ones. -/
lemma grantDue_end (first : List (Tried Raised Answer)) (hfirst : raisedCreates first = [])
    (hread : ∀ asked e, (asked, .error e) ∉ selections first) {b : Except Raised Unit}
    (h : (grantEachNoted config ready ((ready.filter (·.due)).map (·.uid))).ComesTo
      (Prog.besideNotesAt Prog.undisturbed) (clientOutcome rules ans) x tr b x') :
    BatchEnd ans s₀ now due ready x (first ++ tr) x' := by
  have hmem : ∀ r ∈ ready, r.due = true → r.uid ∈ (ready.filter (·.due)).map (·.uid) :=
    fun r hr hd => List.mem_map_of_mem (List.mem_filter.mpr ⟨hr, hd⟩)
  have hnodupDue : ((ready.filter (·.due)).map (·.uid)).Nodup := hnodup.sublist (List.filter_sublist.map _)
  obtain ⟨hselections, hend⟩ := grantEach_steps hrandint hown hnodup hreg hsome now hnodupDue h
  rcases hend with ⟨-, hraised, hsteps, hsettled⟩ | ⟨-, r, done, rest, hr, hrdue, hsteps, hend⟩
  · refine ⟨hsteps, fun _ r hr hd => hsettled r hr (hmem r hr hd), fun hnot => absurd ?_ hnot⟩
    refine noneStranded_of_read (fun asked e => ?_) ?_
    · rw [selections_append, hselections, List.append_nil]
      exact hread asked e
    · rw [raisedCreates_append, hfirst, hraised]
      rfl
  · -- the one whose create raises is due, and it is left so
    obtain ⟨r', hr', heq⟩ := List.mem_map.mp hrdue
    obtain ⟨hr'ready, hr'due⟩ := List.mem_filter.mp hr'
    obtain rfl := List.inj_on_of_nodup_map hnodup hr'ready hr heq
    refine ⟨hsteps, fun hnone => ?_, fun _ => ⟨r', hr, hr'due, hend.left (hleft r' hr hr'due).1⟩⟩
    refine absurd ((hdue r' hr).mp hr'due) (hnone.2 r'.uid ?_).1
    rw [raisedCreates_append, hend.raised]
    exact List.mem_append_right _ (List.mem_singleton.mpr rfl)

omit hrandint hown hsome in
/-- The grants the app answered, up to a create which raises. -/
lemma granted_end {answered : AdmissionSelection} {first : List (Tried Raised Answer)} {r : Ready} {done rest : List Ready}
    (hselected : selections first = [(ready.map (·.uid), .ok (some answered))]) (hfirst : raisedCreates first = [])
    (hselections : selections tr = []) (hr : r ∈ ready) (hsteps : Steps s₀ (ready.map (·.uid)) x x')
    (hend : GrantsEnd ans s₀ now ((mapGrantedUids ready answered.granted).filterMap fun u => ready.find? (·.uid = u))
      x tr x' r done rest) : BatchEnd ans s₀ now due ready x (first ++ tr) x' := by
  have hmem : ∀ r' ∈ done, r' ∈ ready := fun r' hr' =>
    ((mem_granted hnodup).mp (hend.mem r' (List.mem_append_left [r] hr'))).1
  have hsplit : grantedOffered ready answered.granted = done.map (·.uid) ++ r.uid :: rest.map (·.uid) := by
    rw [← judged_mapped, hend.split, List.map_append, List.map_cons]
  have honce : (done.map (·.uid) ++ r.uid :: rest.map (·.uid)).Nodup := by
    rw [← hsplit, ← mapGrantedUids_eq]
    exact mapGrantedUids_nodup ready answered.granted
  have hbefore : ∀ r' ∈ ready, (r'.uid ∈ answered.granted.takeWhile (· ≠ r.uid) ↔ r'.uid ∈ done.map (·.uid)) :=
    fun r' hr' => mem_grantedOffered_before hsplit honce (List.mem_map_of_mem hr')
  refine ⟨hsteps, fun hnone r' hr' hd => ?_, fun hnot => by_contra fun hnobody => hnot ?_⟩
  · rw [NoneStranded, selections_append, raisedCreates_append, hselected, hfirst, hselections, hend.raised] at hnone
    obtain ⟨-, htaken⟩ := hnone.2 r.uid (List.mem_singleton.mpr rfl)
    have hd' := htaken (ready.map (·.uid)) answered (List.mem_singleton.mpr rfl) r'.uid (List.mem_map_of_mem hr')
      ((hdue r' hr').mp hd)
    obtain ⟨r'', hr'', heq⟩ := List.mem_map.mp ((hbefore r' hr').mp hd')
    obtain rfl := List.inj_on_of_nodup_map hnodup (hmem r'' hr'') hr' heq
    exact hend.settled r'' hr''
  · have hrdue : ¬ due r.uid := fun hd => by
      have hd := (hdue r hr).mpr hd
      exact hnobody ⟨r, hr, hd, hend.left (hleft r hr hd).1⟩
    rw [NoneStranded, selections_append, raisedCreates_append, hselected, hfirst, hselections, hend.raised]
    refine ⟨fun asked e hmem => ?_, List.forall_mem_singleton.mpr ⟨hrdue, fun asked answered' hmem uid huid hd => ?_⟩⟩
    · cases List.mem_singleton.mp hmem
    · cases List.mem_singleton.mp hmem
      obtain ⟨r', hr', rfl⟩ := List.mem_map.mp huid
      by_contra hlate
      have hd' := (hdue r' hr').mpr hd
      refine hnobody ⟨r', hr', hd', (hleft r' hr' hd').of_steps hend.steps (hreg r' hr') fun hin => ?_⟩
      rw [List.map_append, List.mem_append] at hin
      rcases hin with hin | hin
      · exact hlate ((hbefore r' hr').mpr hin)
      · rw [List.mem_singleton.mp hin] at hd
        exact hrdue hd

omit hdue hleft in
/-- The grants went through, and the others are withheld. -/
lemma withheld_end {answered : AdmissionSelection} {first tr₁ tr₂ : List (Tried Raised Answer)}
    {x₁ : ControllerState × List Handling} {b : Except Raised Unit}
    (hselected : selections first = [(ready.map (·.uid), .ok (some answered))]) (hfirst : raisedCreates first = [])
    (hselections : selections tr₁ = []) (hraised : raisedCreates tr₁ = [])
    (hsteps : Steps s₀ (ready.map (·.uid)) x x₁)
    (hsettled : ∀ r ∈ ready, r.uid ∈ mapGrantedUids ready answered.granted → Settled r.uid r.ref x₁)
    (h : (withholdEachNoted config ready (mapGrantedUids ready answered.granted) answered.withheld).ComesTo
      (Prog.besideNotesAt Prog.undisturbed) (clientOutcome rules ans) x₁ tr₂ b x') :
    BatchEnd ans s₀ now due ready x (first ++ (tr₁ ++ tr₂)) x' := by
  rw [withholdEachNoted, notedCall, Prog.comesTo_ask_bind] at h
  rcases h with ⟨t, x₂, tr₃, -, ⟨hs, hnotes⟩, rfl, h⟩ | ⟨e, he, -⟩
  swap
  · exact False.elim he
  obtain rfl : x₂ = x₁ := Prod.ext hs hnotes
  have hothers : ∀ r ∈ ready.filter fun r => r.uid ∉ mapGrantedUids ready answered.granted, r ∈ ready :=
    fun r hr => (List.mem_filter.mp hr).1
  obtain ⟨⟨hraised', hselections'⟩, hlast, hwithheld⟩ := withholds_steps hrandint hown
    (hnodup.sublist (List.filter_sublist.map _)) (fun r hr => hreg r (hothers r hr))
    (fun r hr => hsteps.known _ (hsome r (hothers r hr))) (Prog.comesTo_forM h)
  have hclock : selections (⟨.now, .ok t⟩ :: tr₃) = [] ∧ raisedCreates (⟨.now, .ok t⟩ :: tr₃) = [] :=
    ⟨hselections', hraised'⟩
  refine ⟨(hsteps.trans hlast).widen fun u hu => ?_, fun _ r hr _ => ?_, fun hnot => absurd ?_ hnot⟩
  · rcases List.mem_append.mp hu with hu | hu
    · exact hu
    · exact (List.filter_sublist.map _).subset hu
  · by_cases hu : r.uid ∈ mapGrantedUids ready answered.granted
    · refine (hsettled r hr hu).of_steps hlast (hreg r hr) fun hmem => ?_
      obtain ⟨r', hr', heq⟩ := List.mem_map.mp hmem
      have hnot := (List.mem_filter.mp hr').2
      rw [heq] at hnot
      exact absurd hu (by simpa using hnot)
    · exact hwithheld r (List.mem_filter.mpr ⟨hr, decide_eq_true hu⟩)
  · refine noneStranded_of_read (fun asked e hmem => ?_) ?_
    · rw [selections_append, selections_append, hselected, hselections, hclock.1] at hmem
      cases List.mem_singleton.mp hmem
    · rw [raisedCreates_append, raisedCreates_append, hfirst, hraised, hclock.2]
      rfl

/-- The app answered the selection. -/
lemma answered_end {answered : AdmissionSelection} {first : List (Tried Raised Answer)} {b : Except Raised Unit}
    (hselected : selections first = [(ready.map (·.uid), .ok (some answered))]) (hfirst : raisedCreates first = [])
    (h : (grantEachNoted config ready (mapGrantedUids ready answered.granted) >>= fun _ =>
        withholdEachNoted config ready (mapGrantedUids ready answered.granted) answered.withheld).ComesTo
      (Prog.besideNotesAt Prog.undisturbed) (clientOutcome rules ans) x tr b x') :
    BatchEnd ans s₀ now due ready x (first ++ tr) x' := by
  have hgranted := mapGrantedUids_nodup ready answered.granted
  rw [Prog.comesTo_bind] at h
  rcases h with ⟨tr₁, tr₂, _, x₁, rfl, hgrants, h⟩ | ⟨e, hgrants, rfl⟩
  · obtain ⟨hselections, ⟨-, hraised, hsteps, hsettled⟩ | ⟨⟨_, herror⟩, -⟩⟩ :=
      grantEach_steps hrandint hown hnodup hreg hsome now hgranted hgrants
    · exact withheld_end hrandint hown hnodup hreg hsome hselected hfirst hselections hraised hsteps hsettled h
    · cases herror
  · obtain ⟨hselections, ⟨hok, -⟩ | ⟨-, r, done, rest, hr, -, hsteps, hend⟩⟩ :=
      grantEach_steps hrandint hown hnodup hreg hsome now hgranted hgrants
    · cases hok
    · exact granted_end hnodup hreg hdue hleft hselected hfirst hselections hr hsteps hend

omit hrandint hown hnodup hreg hsome in
/-- The selection raises: whoever was due is left so. -/
lemma unread_end {first : List (Tried Raised Answer)} {e : Raised}
    (hselected : selections first = [(ready.map (·.uid), .error e)]) (hfirst : raisedCreates first = []) :
    BatchEnd ans s₀ now due ready x first x := by
  refine ⟨.refl, fun hnone r hr hd => ?_, fun hnot => by_contra fun hnobody => hnot ?_⟩
  · refine absurd ((hdue r hr).mp hd) (hnone.1 (ready.map (·.uid)) e ?_ r.uid (List.mem_map_of_mem hr))
    rw [hselected]
    exact List.mem_singleton.mpr rfl
  · rw [NoneStranded, hselected, hfirst]
    refine ⟨fun asked e' hmem uid huid hd => ?_, fun _ hmem => absurd hmem List.not_mem_nil⟩
    cases List.mem_singleton.mp hmem
    obtain ⟨r, hr, rfl⟩ := List.mem_map.mp huid
    have hd := (hdue r hr).mpr hd
    exact hnobody ⟨r, hr, hd, hleft r hr hd⟩

/-- A batch settles those of the ready who were due, unless something raises before their turn. -/
lemma admitBatchNoted_end (hask : ∀ r ∈ ready, r.ask.podUid = r.uid) {b : Except Raised Unit}
    (h : (admitBatchNoted config ready).ComesTo (Prog.besideNotesAt Prog.undisturbed) (clientOutcome rules ans)
      x tr b x') : BatchEnd ans s₀ now due ready x tr x' := by
  have hasked : (ready.map (·.ask)).map (·.podUid) = ready.map (·.uid) := by
    rw [List.map_map]
    exact List.map_congr_left hask
  have hselected : ∀ outcome, selections [⟨.selectOndemandAdmissions (ready.map (·.ask)), outcome⟩] =
      [(ready.map (·.uid), outcome)] := by
    intro outcome
    rw [← hasked]
    rfl
  rw [admitBatchNoted] at h
  split at h
  swap
  · exact grantDue_end hrandint hown hnodup hreg hsome hdue hleft [] rfl (fun _ _ => List.not_mem_nil) h
  rw [notedCall, Prog.comesTo_ask_bind] at h
  rcases h with ⟨selection, x₁, tr', -, ⟨hs, hnotes⟩, rfl, h⟩ | ⟨e, -, ⟨hs, hnotes⟩, rfl, -⟩
  · obtain rfl : x₁ = x := Prod.ext hs hnotes
    rw [← List.singleton_append]
    cases selection with
    | none =>
      refine grantDue_end hrandint hown hnodup hreg hsome hdue hleft _ rfl (fun asked e hmem => ?_) h
      rw [hselected] at hmem
      cases List.mem_singleton.mp hmem
    | some answered => exact answered_end hrandint hown hnodup hreg hsome hdue hleft (hselected _) rfl h
  · obtain rfl : x' = x := Prod.ext hs hnotes
    exact unread_end hdue hleft (hselected _) rfl

end Batch

section Pass

variable {rules : WireRules} {ans : ∀ q, Answer q → Prop} {config : Config} {s s' : ControllerState}
  {tr : List (Tried Raised Answer)} {b : Except Raised Unit} {notes : List Handling} {now : Instant}

lemma dueAt_iff {uid : Uid} {ref : Ref} (hreg : s.ondemandCandidates.get? uid = some ref) :
    DueAt s now uid ↔ (s.candidate ref).nextAttemptAt ≤ now := by
  constructor
  · rintro ⟨ref', hreg', hdue⟩
    cases hreg.symm.trans hreg'
    exact hdue
  · exact fun hdue => ⟨ref, hreg, hdue⟩

/-- A pass settles all who were due, or leaves one of them due. -/
lemma runOndemandAdmissionOnceNoted_end (hrandint : RandintBounds ans) (hown : OwnCandidates s)
    (h : (runOndemandAdmissionOnceNoted config).ComesTo (Prog.besideNotesAt Prog.undisturbed)
      (clientOutcome rules ans) (s, []) tr b (s', notes)) :
    ∃ now tr', tr = ⟨.now, .ok now⟩ :: tr' ∧
      (NoneStranded (DueAt s now) tr' → ∀ uid ref, s.ondemandCandidates.get? uid = some ref → DueAt s now uid →
        Settled uid ref (s', notes)) ∧
      (¬ NoneStranded (DueAt s now) tr' → ∃ uid ref, s.ondemandCandidates.get? uid = some ref ∧ DueAt s now uid ∧
        Left ans now uid ref (s', notes)) := by
  rw [runOndemandAdmissionOnceNoted, notedCall, Prog.comesTo_ask_bind] at h
  rcases h with ⟨now, x₁, tr', -, ⟨hs, hnotes⟩, rfl, h⟩ | ⟨e, he, -⟩
  swap
  · exact False.elim he
  obtain rfl : x₁ = (s, []) := Prod.ext hs hnotes
  refine ⟨now, tr', rfl, ?_⟩
  rw [Prog.comesTo_get_bind, Prog.comesTo_bind] at h
  have hkeys : (s.candidatesByAge.map Prod.fst).Nodup :=
    (candidatesByAge_keys s).nodup_iff.mpr s.ondemandCandidates.nodup
  have hmem : ∀ y, y ∈ s.candidatesByAge ↔ s.ondemandCandidates.get? y.1 = some y.2 := fun y =>
    ((List.perm_insertionSort _ _).mem_iff).trans Dict.get?_eq_some_iff.symm
  have hlisted : ∀ y ∈ s.candidatesByAge, y.1 ∈ s.ondemandCandidates := fun y hy =>
    Dict.mem_iff_get?.mpr ⟨y.2, (hmem y).mp hy⟩
  have hsome : ∀ y ∈ s.candidatesByAge, (s.candidates.get? y.2).isSome := by
    intro y hy
    obtain ⟨c, hc, -⟩ := hown y.1 y.2 ((hmem y).mp hy)
    rw [hc]
    rfl
  have hstill : ∀ uid ref, s.ondemandCandidates.get? uid = some ref →
      (StillDue now uid ref s ↔ DueAt s now uid) := fun uid ref hreg =>
    (stillDue_iff (Dict.mem_iff_get?.mpr ⟨ref, hreg⟩) (hsome (uid, ref) ((hmem (uid, ref)).mpr hreg))).trans
      (dueAt_iff hreg).symm
  rcases h with ⟨tr₁, tr₂, ready, x₁, rfl, hvet, hbatch⟩ | ⟨e, hvet, -⟩
  swap
  · obtain ⟨-, -, added, hok, -⟩ := preflights_steps hrandint hown hkeys (fun y hy => (hmem y).mp hy) hlisted hsome
      (Prog.comesTo_foldlM hvet)
    cases hok
  obtain ⟨⟨hraised, hselections⟩, hfirst, added, hok, hvetted⟩ := preflights_steps hrandint hown hkeys
    (fun y hy => (hmem y).mp hy) hlisted hsome (Prog.comesTo_foldlM hvet)
  cases hok
  rw [List.nil_append] at hbatch
  have hreg : ∀ r ∈ added, s.ondemandCandidates.get? r.uid = some r.ref :=
    fun r hr => (hmem (r.uid, r.ref)).mp (hvetted.registered r hr)
  have hdue : ∀ r ∈ added, (r.due = true ↔ DueAt s now r.uid) := fun r hr =>
    (hvetted.due r hr).trans (hstill r.uid r.ref (hreg r hr))
  -- what the batch leaves: it settles those found ready, and leaves the others as they are
  obtain ⟨hlast, hsettled, hleft⟩ : BatchEnd ans s now (DueAt s now) added x₁ tr₂ (s', notes) := by
    split at hbatch
    · rename_i hnone
      obtain ⟨rfl, -, rfl⟩ := hbatch
      rw [List.isEmpty_iff.mp hnone]
      exact ⟨.refl, fun _ r hr => absurd hr List.not_mem_nil, fun hnot =>
        absurd (noneStranded_of_read (fun _ _ => List.not_mem_nil) rfl) hnot⟩
    · exact admitBatchNoted_end hrandint hown hvetted.nodup hreg
        (fun r hr => hfirst.known _ (hsome (r.uid, r.ref) (hvetted.registered r hr))) hdue
        (fun r hr hd => hvetted.left r hr ((hvetted.due r hr).mp hd)) hvetted.asks hbatch
  have hparts : NoneStranded (DueAt s now) (tr₁ ++ tr₂) ↔ NoneStranded (DueAt s now) tr₂ := by
    rw [NoneStranded, NoneStranded, selections_append, raisedCreates_append, hselections, hraised, List.nil_append,
      List.nil_append]
  rw [hparts]
  refine ⟨fun hnone uid ref huid hd => ?_, fun hnot => ?_⟩
  · by_cases hready : uid ∈ added.map (·.uid)
    · obtain ⟨r, hr, rfl⟩ := List.mem_map.mp hready
      cases (hreg r hr).symm.trans huid
      exact hsettled hnone r hr ((hdue r hr).mpr hd)
    · have hset := hvetted.settled (uid, ref) ((hmem (uid, ref)).mpr huid) hready ((hstill uid ref huid).mpr hd)
      exact hset.of_steps hlast huid hready
  · obtain ⟨r, hr, hd, hl⟩ := hleft hnot
    exact ⟨r.uid, r.ref, hreg r hr, (hdue r hr).mp hd, hl⟩

end Pass

lemma oneCandidate_own : OwnCandidates oneCandidate.snap.shared := by
  intro uid ref h
  obtain ⟨rfl, rfl⟩ : uid = "A" ∧ ref = 0 := by
    have hmem : (uid, ref) ∈ [("A", 0)] := Dict.get?_eq_some_iff.mp h
    simpa using hmem
  exact ⟨taintedCandidate, rfl, rfl⟩

/-- A refusal, until the instant named. -/
def refusal (notBefore : String) : Option HttpResponse :=
  some { status := 409, json := some (.obj [("code", .str "capacity_group"), ("not_before", .str notBefore)]) }

/-- The pod is read, the app cannot be asked for a selection, and its create is refused. -/
def refusedUntil (notBefore : String) : ∀ q, Except Raised (Answer q)
  | .createReservation _ => postReservationCreate plainWire (refusal notBefore)
  | .selectOndemandAdmissions _ => selectOndemandAdmissions plainWire none
  | q => .ok (worldAnswer oneCandidate.snap.world rfl {} q)

lemma refusedUntil_outcome (notBefore : String) (q : Request) :
    clientOutcome plainWire canAnswer q (refusedUntil notBefore q) := by
  have hanswers : ∀ q, canAnswer q (worldAnswer oneCandidate.snap.world rfl {} q) :=
    worldAnswer_canAnswer oneCandidate.snap.world rfl {}
  cases q with
  | createReservation req => exact ⟨refusal notBefore, rfl⟩
  | selectOndemandAdmissions asks => exact ⟨none, rfl⟩
  | _ => exact hanswers _

/-- The pass over the one candidate. -/
def refusedPass (notBefore : String) : List (Tried Raised Answer) × Except Raised Unit × ControllerState :=
  (runOndemandAdmissionOnce {}).resultWith (refusedUntil notBefore) oneCandidate.snap.shared

lemma refusedPass_comesTo (notBefore : String) :
    (runOndemandAdmissionOnce {}).ComesTo Prog.undisturbed (clientOutcome plainWire canAnswer)
      oneCandidate.snap.shared (refusedPass notBefore).1 (refusedPass notBefore).2.1 (refusedPass notBefore).2.2 :=
  Prog.comesTo_resultWith (refusedUntil_outcome notBefore) Prog.undisturbed_refl _ _

/-- The pass with its notes, where the instant named is no longer one in UTC. -/
def strandingPass : List (Tried Raised Answer) × Except Raised Unit × ControllerState × List Handling :=
  (runOndemandAdmissionOnceNoted {}).resultWith (refusedUntil "9999-12-31T23:59:59-14:00")
    (oneCandidate.snap.shared, [])

end GpuReservation.Proofs
