import GpuReservation.Library.Machine
import GpuReservation.Model.Tolerations
import GpuReservation.Proofs.JudgedPods
import GpuReservation.Proofs.ReservationLock

/-!
# The tolerations of a pod that is linked and linked again

What the patch writes is the tolerations of the pod and one more.  An admission leaves a pod alone which
carries that one; an adoption or a merge puts it there once more.
-/

namespace GpuReservation.Proofs

open GpuReservation.Library GpuReservation.Model

/-! ### The body of the patch -/

/-- A toleration goes through the patch unchanged, whichever of its fields are set. -/
lemma tolerationEntry_stored (t : Toleration) : (tolerationEntry t).toleration = t := by
  obtain ⟨key, operator, value, effect, seconds⟩ := t
  cases key <;> cases operator <;> cases value <;> cases effect <;> cases seconds <;> rfl

theorem tolerationPatch_stored (pod : Pod) (tolKey tolValue : String) (bookingReference : Nat) :
    (tolerationPatch pod tolKey tolValue bookingReference).tolerations.map PatchEntry.toleration =
      patchedTolerations pod tolKey tolValue := by
  unfold tolerationPatch patchedTolerations
  rw [List.map_append, List.map_map]
  congr 1
  conv_rhs => rw [← List.map_id pod.tolerations]
  exact List.map_congr_left fun t _ => tolerationEntry_stored t

/-! ### What the programs do to the pods -/

/-- The controller's own entry for a class. -/
def classToleration (gpuClass : String) : Toleration where
  key := some tolerationKey
  operator := some "Equal"
  value := some gpuClass
  effect := some "NoSchedule"

/-- A pod after the patch. -/
def linkedPod (gpuClass : String) (bookingReference : Nat) (p : Pod) : Pod :=
  { p with
    tolerations := p.tolerations ++ [classToleration gpuClass]
    bookingReference := some bookingReference }

section Programs

variable {task : Nat} {cs : List Choice} {σ : Snap ControllerState World}

lemma answer_unjudged {q : Request} {ch : Choice} {w w' : World} {a : Answer q}
    (hq : judgedPod q = none) (h : answer task q ch w = some (a, w')) : w'.pods = w.pods := by
  rcases answer_cluster h with hsame | ⟨_, _, _, _, _, _, _, _, rfl, -⟩ | ⟨_, _, _, rfl, -⟩
  · exact hsame.pods
  · cases hq
  · cases hq

lemma alone_names {α : Type} {p : Ctl α} (hp : NamesOnly p)
    {r : α × List Choice × Snap ControllerState World} (h : p.alone runtime task cs σ = some r) : r.2.2.world.pods = σ.world.pods :=
  Prog.alone_of_within (R := fun w w' : World => w'.pods = w.pods) (fun _ => rfl)
    (fun _ _ _ hfirst hsecond => Eq.trans hsecond hfirst)
    (fun _ _ _ _ _ hq hans => answer_unjudged hq hans) hp h

lemma alone_lockFree {α : Type} {allowed : Request → Prop} {p : Ctl α} (hp : LockFree allowed p)
    (task : Nat) (cs : List Choice) (σ : Snap ControllerState World) :
    ∃ r, p.alone runtime task cs σ = some r := by
  refine Option.isSome_iff_exists.mp (Prog.alone_isSome (fun q ch w hq => ?_) hp)
  refine answer_isSome (fun hlock => ?_) task ch
  rw [hlock] at hq
  cases hq.2

/-- The pod which a re-link patches: it is read, has not ended, and the patch goes through. -/
def relinkedPod (w : World) (ns name : String) (cs : List Choice) : Option Pod :=
  if (cs.headD default).outcome.replied then
    (w.pods.get? (ns, name)).filter fun p =>
      !p.phase.isTerminal && (cs.tail.headD default).outcome ≠ .refused
  else none

/-- The pods after a patch, if there is one. -/
def patchedPods (w : World) (ns name gpuClass : String) (bookingReference : Nat) :
    Option Pod → Dict (String × String) Pod
  | none => w.pods
  | some p => w.pods.set (ns, name) (linkedPod gpuClass bookingReference p)

/-- The patch of a pod which was just read. -/
lemma answer_applyToleration (task : Nat) {judged : Uid} {ns name gpuClass : String} {reference : Nat}
    {p : Pod} {ch : Choice} {w w' : World} {landed : Bool} (hp : w.pods.get? (ns, name) = some p)
    (h : answer task (.applyToleration judged ns name p tolerationKey gpuClass reference) ch w =
      some (landed, w')) :
    w'.pods = if ch.outcome ≠ .refused then w.pods.set (ns, name) (linkedPod gpuClass reference p)
      else w.pods := by
  have hmem : (ns, name) ∈ w.pods := Dict.mem_iff_get?.mpr ⟨p, hp⟩
  rw [answer] at h
  by_cases hrefused : ch.outcome = .refused
  · rw [if_pos (.inr hrefused)] at h
    cases h
    rw [if_neg (by simpa using hrefused)]
  · rw [if_neg (by simp [hmem, hrefused])] at h
    cases h
    rw [if_pos hrefused, World.patchPod, hp]
    rfl

lemma relinkPod_alone {view : PodRuntimeView} {res : ReservationResponse} {now : Instant}
    {cause : RelinkCause} {r : Bool × List Choice × Snap ControllerState World}
    (h : (relinkPod view res now cause).alone runtime task cs σ = some r) :
    r.2.2.world.pods = patchedPods σ.world view.ns view.name view.gpuClass res.id
      (relinkedPod σ.world view.ns view.name cs) := by
  unfold relinkPod at h
  rw [Prog.alone_ask_bind] at h
  have hread : runtime.answer task (.readPod view.ns view.name) (cs.headD default) σ.world =
      some (if (cs.headD default).outcome.replied then σ.world.pods.get? (view.ns, view.name)
        else none, σ.world) := rfl
  rw [hread, Option.bind_some] at h
  unfold relinkedPod
  split at h
  · rename_i hnone
    dsimp only at hnone
    obtain rfl := Option.some.inj h
    split
    · rename_i hreplied
      rw [if_pos hreplied] at hnone
      rw [hnone]
      rfl
    · rfl
  · rename_i p hsome
    dsimp only at hsome
    have hreplied : (cs.headD default).outcome.replied = true := by
      by_contra hnot
      rw [if_neg hnot] at hsome
      cases hsome
    rw [if_pos hreplied] at hsome ⊢
    rw [hsome]
    by_cases hterminal : p.phase.isTerminal = true
    · rw [if_pos hterminal] at h
      obtain rfl := Option.some.inj h
      simp [Option.filter, hterminal, patchedPods]
    · rw [if_neg hterminal, Prog.alone_ask_bind] at h
      obtain ⟨⟨landed, w'⟩, hanswer, hrest⟩ := Option.bind_eq_some_iff.mp h
      have hpods := answer_applyToleration task hsome hanswer
      have htail : r.2.2.world.pods = w'.pods := by
        refine alone_names ?_ hrest
        split
        · exact .seq (.seq (.modify fun s => relinkOccupancy_names s _ _ _) fun _ =>
            .seq get_names fun s => .seq (recordGuarantee_names _ _ _ _ _ _) fun _ =>
            .seq (call_names rfl) fun _ => .pure trivial) fun _ => .pure trivial
        · exact .pure trivial
      rw [htail, hpods]
      generalize cs.tail.headD default = second
      by_cases hrefused : second.outcome = .refused
      · simp [Option.filter, hterminal, hrefused, patchedPods]
      · simp [Option.filter, hterminal, hrefused, patchedPods]

lemma adoptPod_after (w : World) (s : ControllerState) (now : Instant) (cause : RelinkCause)
    (pods : List PodRuntimeView) (view : PodRuntimeView) (res : ReservationResponse) :
    (w.after task s cs (adoptPod now cause pods (view, res))).pods =
      patchedPods w view.ns view.name view.gpuClass res.id (relinkedPod w view.ns view.name cs) := by
  have hfree : LockFree noNoshowCancel (adoptPod now cause pods (view, res)) :=
    .seq (relinkPod_relinks now view res cause).lockFree fun _ => .pure _
  obtain ⟨r, hr⟩ := alone_lockFree hfree task cs ⟨s, w⟩
  unfold World.after
  rw [hr]
  unfold adoptPod at hr
  rw [Prog.alone_bind] at hr
  obtain ⟨r₁, hfirst, hrest⟩ := Option.bind_eq_some_iff.mp hr
  obtain rfl := Option.some.inj hrest
  exact relinkPod_alone hfirst

lemma mergePod_after (w : World) (s : ControllerState) (now : Instant)
    (pods : List PodRuntimeView) (view : PodRuntimeView) (res : ReservationResponse) :
    (w.after task s cs (mergePod now pods (view, res))).pods =
      patchedPods w view.ns view.name view.gpuClass res.id (relinkedPod w view.ns view.name cs) := by
  have hfree : LockFree noNoshowCancel (mergePod now pods (view, res)) := by
    refine .seq (relinkPod_relinks now view res .merge).lockFree fun landed => ?_
    split
    · exact .seq (retireLease_merges _).lockFree fun _ => .pure _
    · exact .pure _
  obtain ⟨r, hr⟩ := alone_lockFree hfree task cs ⟨s, w⟩
  unfold World.after
  rw [hr]
  unfold mergePod at hr
  rw [Prog.alone_bind] at hr
  obtain ⟨r₁, hfirst, hrest⟩ := Option.bind_eq_some_iff.mp hr
  have htail : r.2.2.world.pods = r₁.2.2.world.pods := by
    refine alone_names ?_ hrest
    split
    · exact .seq (retireLease_names _) fun _ => .pure trivial
    · exact .pure trivial
  exact htail.trans (relinkPod_alone hfirst)

/-- An admission patches no pod which has the toleration. -/
lemma tryApplyToleration_alone {uid : Uid} {ref : Ref} {gateName : Option String}
    {r : Bool × List Choice × Snap ControllerState World}
    (h : (tryApplyToleration uid ref gateName).alone runtime task cs σ = some r) :
    r.2.2.world.pods = σ.world.pods ∨ ∃ p, σ.world.pods.get?
        ((σ.shared.entry ref).podNamespace, (σ.shared.entry ref).podName) = some p ∧
      podHasToleration p tolerationKey (σ.shared.entry ref).gpuClassLabel "NoSchedule" = false ∧
      r.2.2.world.pods = σ.world.pods.set
        ((σ.shared.entry ref).podNamespace, (σ.shared.entry ref).podName)
        (linkedPod (σ.shared.entry ref).gpuClassLabel (σ.shared.entry ref).reservation.id p) := by
  unfold tryApplyToleration at h
  rw [Prog.alone_get_bind] at h
  generalize σ.shared.entry ref = e at h ⊢
  dsimp only at h
  split at h
  · exact .inl (alone_names (.seq (postponeEntry_names ref) fun _ => .pure trivial) h)
  rw [Prog.alone_modify_bind, Prog.alone_ask_bind] at h
  obtain ⟨⟨freshPod, w₁⟩, hread, h⟩ := Option.bind_eq_some_iff.mp h
  have hanswer : (freshPod, w₁) = (if (cs.headD default).outcome.replied then
      σ.world.pods.get? (e.podNamespace, e.podName) else none, σ.world) :=
    (Option.some.inj hread).symm
  obtain ⟨hfresh, rfl⟩ := Prod.mk.inj hanswer
  dsimp only at h
  split at h
  · exact .inl (alone_names (σ := ⟨σ.shared.reserveFor uid e, σ.world⟩) (rollBack_names uid ref) h)
  rename_i p
  have hp : σ.world.pods.get? (e.podNamespace, e.podName) = some p := by
    by_contra hnot
    split at hfresh
    · exact hnot hfresh.symm
    · cases hfresh
  have hstamps : ∀ {q : Ctl Bool},
      q.Within SameNames Request.stamps (fun done => done = true) → NamesOnly q :=
    fun hq => hq.mono (fun _ _ h => h) (fun _ => stamps_judgedPod) fun _ _ => trivial
  unfold patchFreshPod at h
  split at h
  · exact .inl (alone_names (σ := ⟨σ.shared.reserveFor uid e, σ.world⟩)
      (.seq (.modify fun s => releasePod_names s uid) fun _ => .pure trivial) h)
  split at h
  · exact .inl (alone_names (σ := ⟨σ.shared.reserveFor uid e, σ.world⟩) (hstamps
      (concludeAdmission_within ref (fun s e pod now => noteAdmitted_names s now uid e pod) p)) h)
  rename_i hhas
  rw [Prog.alone_ask_bind] at h
  obtain ⟨⟨landed, w'⟩, hpatch, hrest⟩ := Option.bind_eq_some_iff.mp h
  have hpods := answer_applyToleration task hp hpatch
  have htail : r.2.2.world.pods = w'.pods := by
    refine alone_names ?_ hrest
    split
    · exact hstamps (stampAdmission_within ref
        (fun s e pod now => noteAdmitted_names s now uid e pod) .refl p gateName)
    · exact rollBack_names uid ref
  rw [htail, hpods]
  split
  · exact .inr ⟨p, hp, Bool.eq_false_iff.mpr hhas, rfl⟩
  · exact .inl rfl

end Programs

/-! ### Runs -/

section Runs

variable {ns name gpuClass : String}

/-- The pod is as it was but for its reference, or has the entry which it did not have. -/
def LinkRight (gpuClass : String) (p p' : Pod) : Prop :=
  p' = { p with bookingReference := p'.bookingReference } ∨
    classToleration gpuClass ∉ p.tolerations ∧
      p' = { p with
        tolerations := p.tolerations ++ [classToleration gpuClass]
        bookingReference := p'.bookingReference }

/-- The move does to the pod what it should. -/
def MoveRight (w : World) (m : LinkMove ns name gpuClass) : Prop :=
  ∀ p, w.pods.get? (ns, name) = some p → ∃ p', (m.step w).pods.get? (ns, name) = some p' ∧
    match m with
    | .other _ _ => p'.tolerations = p.tolerations
    | _ => LinkRight gpuClass p p'

/-- A re-link patches a pod which carries the entry. -/
def Repeats (w : World) : LinkMove ns name gpuClass → Prop
  | .adoption _ _ choices _ _ _ _ _ _ =>
    ∃ p, relinkedPod w ns name choices = some p ∧ classToleration gpuClass ∈ p.tolerations
  | .merge _ _ choices _ _ _ _ _ =>
    ∃ p, relinkedPod w ns name choices = some p ∧ classToleration gpuClass ∈ p.tolerations
  | _ => False

/-- The pod has the tolerations it had of its own, and at most the entry after them. -/
def TolerationsKept (ns name gpuClass : String) (own : List Toleration) (w : World) : Prop :=
  ∃ p, w.pods.get? (ns, name) = some p ∧ (p.tolerations = own ∨
    classToleration gpuClass ∉ own ∧ p.tolerations = own ++ [classToleration gpuClass])

lemma relinkedPod_get? {w : World} {cs : List Choice} {p : Pod}
    (h : relinkedPod w ns name cs = some p) : w.pods.get? (ns, name) = some p := by
  unfold relinkedPod at h
  split at h
  · exact (Option.filter_eq_some_iff.mp h).1
  · cases h

lemma linkRight_refl (p : Pod) : LinkRight gpuClass p p := .inl rfl

/-- The patch is right for a pod which does not carry the entry, and only for such a pod. -/
lemma linkRight_linkedPod {p : Pod} {reference : Nat} :
    LinkRight gpuClass p (linkedPod gpuClass reference p) ↔
      classToleration gpuClass ∉ p.tolerations := by
  constructor
  · rintro (h | h)
    · have hlen := congrArg (fun q : Pod => q.tolerations.length) h
      simp [linkedPod] at hlen
    · exact h.1
  · exact fun h => .inr ⟨h, rfl⟩

lemma classToleration_not_mem {p : Pod}
    (h : podHasToleration p tolerationKey gpuClass "NoSchedule" = false) :
    classToleration gpuClass ∉ p.tolerations := by
  intro hmem
  unfold podHasToleration at h
  rw [List.any_eq_false] at h
  exact h _ hmem (by simp [classToleration])

/-- What a re-link makes of the pod. -/
lemma relink_right_iff {w w' : World} {cs : List Choice} {p : Pod} {reference : Nat}
    (hp : w.pods.get? (ns, name) = some p)
    (hw' : w'.pods = patchedPods w ns name gpuClass reference (relinkedPod w ns name cs)) :
    (∀ q, w.pods.get? (ns, name) = some q → ∃ p', w'.pods.get? (ns, name) = some p' ∧
        LinkRight gpuClass q p') ↔
      ¬ ∃ q, relinkedPod w ns name cs = some q ∧ classToleration gpuClass ∈ q.tolerations := by
  rw [hw']
  cases hrelinked : relinkedPod w ns name cs with
  | none =>
    refine iff_of_true (fun q hq => ⟨q, hq, linkRight_refl q⟩) ?_
    rintro ⟨q, hq, -⟩
    cases hq
  | some q =>
    obtain rfl := Option.some.inj ((relinkedPod_get? hrelinked).symm.trans hp)
    unfold patchedPods
    simp only [Dict.get?_set_self, Option.some.injEq, exists_eq_left']
    constructor
    · rintro h
      exact linkRight_linkedPod.mp (h q hp)
    · intro h r hr
      obtain rfl := Option.some.inj (hp.symm.trans hr)
      exact linkRight_linkedPod.mpr h

lemma effect_tolerations {e : WorldEvent} {w : World} {p : Pod} (hstays : e ≠ .podGone ns name)
    (hp : w.pods.get? (ns, name) = some p) :
    ∃ p', (e.effect w).pods.get? (ns, name) = some p' ∧ p'.tolerations = p.tolerations := by
  cases e with
  | elapse n => exact ⟨p, hp, rfl⟩
  | rowChanged row => exact ⟨p, hp, rfl⟩
  | podCreated pod =>
    rw [WorldEvent.effect]
    split
    · exact ⟨p, hp, rfl⟩
    · rename_i hnew
      have hne : (ns, name) ≠ (pod.ns, pod.name) := by
        intro heq
        exact hnew (.inr (heq ▸ Dict.mem_iff_get?.mpr ⟨p, hp⟩))
      exact ⟨p, by dsimp only; rw [Dict.get?_set_of_ne _ _ hne, hp], rfl⟩
  | podChanged ns' name' phase terminating nodeName podScheduled =>
    rw [WorldEvent.effect]
    by_cases hk : (ns, name) = (ns', name')
    · rw [← hk, hp]
      exact ⟨_, Dict.get?_set_self _ _ _, rfl⟩
    · split
      · exact ⟨p, hp, rfl⟩
      · exact ⟨p, by dsimp only; rw [Dict.get?_set_of_ne _ _ hk, hp], rfl⟩
  | podGone ns' name' =>
    have hne : (ns, name) ≠ (ns', name') := by
      intro heq
      obtain ⟨rfl, rfl⟩ := Prod.mk.inj heq
      exact hstays rfl
    refine ⟨p, ?_, rfl⟩
    rw [WorldEvent.effect]
    dsimp only
    rw [Dict.get?_erase_of_ne _ hne, hp]

/-- A move is right unless it is a re-link which repeats the entry. -/
lemma moveRight_iff {w : World} {p : Pod} (hp : w.pods.get? (ns, name) = some p)
    (m : LinkMove ns name gpuClass) : MoveRight w m ↔ ¬ Repeats w m := by
  cases m with
  | admission task s choices uid ref gateName target =>
    refine iff_of_true (fun q hq => ?_) id
    obtain ⟨r, hr⟩ := alone_lockFree (tryApplyToleration_admits uid ref gateName).lockFree task choices ⟨s, w⟩
    obtain ⟨hns, hname, hclass⟩ := target
    have hafter : LinkMove.step w (.admission task s choices uid ref gateName ⟨hns, hname, hclass⟩) =
        r.2.2.world := by
      change w.after task s choices (tryApplyToleration uid ref gateName) = _
      unfold World.after
      rw [hr]
    rw [hafter]
    rcases tryApplyToleration_alone hr with hsame | ⟨p', hp', hhas, hset⟩
    · rw [hsame]
      exact ⟨q, hq, linkRight_refl q⟩
    · dsimp only at hp' hhas hset
      rw [hns, hname] at hp' hset
      rw [hclass] at hhas hset
      obtain rfl := Option.some.inj (hq.symm.trans hp')
      rw [hset]
      exact ⟨_, Dict.get?_set_self _ _ _, linkRight_linkedPod.mpr (classToleration_not_mem hhas)⟩
  | adoption task s choices now cause pods view res target =>
    obtain ⟨rfl, rfl, rfl⟩ := target
    exact relink_right_iff hp (adoptPod_after w s now cause pods view res)
  | merge task s choices now pods view res target =>
    obtain ⟨rfl, rfl, rfl⟩ := target
    exact relink_right_iff hp (mergePod_after w s now pods view res)
  | other e stays => exact iff_of_true (fun q hq => effect_tolerations stays hq) id

lemma TolerationsKept.step {own : List Toleration} {w : World}
    (h : TolerationsKept ns name gpuClass own w) {m : LinkMove ns name gpuClass}
    (hright : MoveRight w m) : TolerationsKept ns name gpuClass own (m.step w) := by
  obtain ⟨p, hp, hkept⟩ := h
  obtain ⟨p', hp', hmove⟩ := hright p hp
  refine ⟨p', hp', ?_⟩
  have hlink : LinkRight gpuClass p p' → p'.tolerations = own ∨
      classToleration gpuClass ∉ own ∧ p'.tolerations = own ++ [classToleration gpuClass] := by
    rintro (hsame | ⟨hnew, hadded⟩)
    · rw [hsame]
      exact hkept
    · rcases hkept with hown | ⟨-, hown⟩
      · rw [hown] at hnew hadded
        exact .inr ⟨hnew, by rw [hadded]⟩
      · rw [hown] at hnew
        exact absurd (List.mem_append_right _ List.mem_cons_self) hnew
  cases m with
  | other e stays => rwa [hmove]
  | admission | adoption | merge => exact hlink hmove

/-- The tolerations survive the links of a pod exactly if no re-link patches it while it carries the
entry. -/
theorem tolerations_kept_iff {w : World} {p : Pod} (hp : w.pods.get? (ns, name) = some p)
    (moves : List (LinkMove ns name gpuClass)) :
    (∀ (pod : Pod) (reference : Nat),
      (tolerationPatch pod tolerationKey gpuClass reference).tolerations.map PatchEntry.toleration =
        pod.tolerations ++ [classToleration gpuClass]) ∧
    ((respects LinkMove.step MoveRight w moves ∧
        throughout LinkMove.step (TolerationsKept ns name gpuClass p.tolerations) w moves) ↔
      respects LinkMove.step (fun w m => ¬ Repeats w m) w moves) := by
  refine ⟨fun pod reference => tolerationPatch_stored pod tolerationKey gpuClass reference, ?_⟩
  have hstart : TolerationsKept ns name gpuClass p.tolerations w := ⟨p, hp, .inl rfl⟩
  constructor
  · rintro ⟨hright, -⟩
    refine respects_of_respects (fun w m hkept hm => ?_) hstart hright
    obtain ⟨q, hq⟩ : ∃ q, w.pods.get? (ns, name) = some q := hkept.imp fun _ h => h.1
    exact ⟨hkept.step hm, (moveRight_iff hq m).mp hm⟩
  · intro hmoves
    have hstep : ∀ w (m : LinkMove ns name gpuClass),
        TolerationsKept ns name gpuClass p.tolerations w → ¬ Repeats w m →
          TolerationsKept ns name gpuClass p.tolerations (m.step w) ∧ MoveRight w m := by
      intro w m hkept hm
      obtain ⟨q, hq⟩ : ∃ q, w.pods.get? (ns, name) = some q := hkept.imp fun _ h => h.1
      have hright := (moveRight_iff hq m).mpr hm
      exact ⟨hkept.step hright, hright⟩
    exact ⟨respects_of_respects hstep hstart hmoves,
      throughout_of_respects (fun w m hkept hm => (hstep w m hkept hm).1) hstart hmoves⟩

/-- A running pod which carries the entry, on a cluster of its own. -/
def carryingPod : Pod where
  uid := "u"
  ns := "lab"
  name := "job"
  gpuClass := "a100"
  gpuCount := 1
  phase := .running
  tolerations := [classToleration "a100"]

def carryingWorld : World := { pods := Dict.ofList [(("lab", "job"), carryingPod)] }

/-- It is adopted by another reservation. -/
def carryingAdoption : LinkMove "lab" "job" "a100" :=
  .adoption 0 {} [] 0 .overstay [] (podView none carryingPod) default ⟨rfl, rfl, rfl⟩

theorem tolerations_kept_iff_adoption :
    (∀ (pod : Pod) (reference : Nat),
      (tolerationPatch pod tolerationKey "a100" reference).tolerations.map PatchEntry.toleration =
        pod.tolerations ++ [classToleration "a100"]) ∧
    ((respects LinkMove.step MoveRight carryingWorld [carryingAdoption] ∧
        throughout LinkMove.step (TolerationsKept "lab" "job" "a100" carryingPod.tolerations)
          carryingWorld [carryingAdoption]) ↔
      respects LinkMove.step (fun w m => ¬ Repeats w m) carryingWorld [carryingAdoption]) :=
  tolerations_kept_iff rfl [carryingAdoption]

theorem tolerations_not_kept : ¬ ∀ (ns name gpuClass : String) (w : World) (p : Pod)
    (moves : List (LinkMove ns name gpuClass)), w.pods.get? (ns, name) = some p →
      respects LinkMove.step MoveRight w moves ∧
        throughout LinkMove.step (TolerationsKept ns name gpuClass p.tolerations) w moves := by
  intro h
  obtain ⟨⟨hright, -⟩, -⟩ := h "lab" "job" "a100" carryingWorld carryingPod [carryingAdoption] rfl
  exact (moveRight_iff (p := carryingPod) rfl carryingAdoption).mp hright
    ⟨carryingPod, rfl, List.mem_cons_self⟩

end Runs

end GpuReservation.Proofs
