import GpuReservation.Model.World

/-!
# What the world keeps

Uids are never used again, a name stands for one pod at a time, a pod which is gone stays gone,
and the clock does not go back.
-/

namespace GpuReservation.Proofs

open GpuReservation.Library GpuReservation.Model

structure ClusterWf (w : World) : Prop where
  named : ∀ k p, w.pods.get? k = some p → k = (p.ns, p.name) ∧ w.created.get? p.uid = some k
  landed : ∀ uid, uid ∈ w.landed → uid ∈ w.created

lemma clusterWf_empty : ClusterWf {} where
  named := by
    intro k p hp
    cases hp
  landed := by
    intro uid hu
    cases hu

/-- No live pod has this uid, and none will. -/
def Gone (w : World) (uid : Uid) : Prop :=
  uid ∈ w.created ∧ ∀ p ∈ w.pods.values, p.uid = uid → p.phase.isTerminal

instance (w : World) (uid : Uid) : Decidable (Gone w uid) := inferInstanceAs (Decidable (_ ∧ _))

/-- `w'` is a later state of the world than `w`. -/
structure Later (w w' : World) : Prop where
  clock : w.clock ≤ w'.clock
  created : w.created.entries <+: w'.created.entries
  gone : ∀ uid, Gone w uid → Gone w' uid

lemma Later.refl (w : World) : Later w w := ⟨le_rfl, List.prefix_rfl, fun _ h => h⟩

lemma Later.trans {w₁ w₂ w₃ : World} (h₁ : Later w₁ w₂) (h₂ : Later w₂ w₃) : Later w₁ w₃ :=
  ⟨h₁.clock.trans h₂.clock, h₁.created.trans h₂.created, fun uid h => h₂.gone uid (h₁.gone uid h)⟩

/-- The uid of a pod of the cluster stands under one name only. -/
lemma ClusterWf.uid_inj {w : World} (h : ClusterWf w) {k k' : String × String} {p p' : Pod}
    (hp : w.pods.get? k = some p) (hp' : w.pods.get? k' = some p') (huid : p.uid = p'.uid) :
    k = k' := by
  have hk := (h.named k p hp).2
  have hk' := (h.named k' p' hp').2
  rw [huid, hk', Option.some.injEq] at hk
  exact hk.symm

/-- A pod is replaced by one of the same name and uid, and of the same phase or a terminal one. -/
structure Succeeds (p p' : Pod) : Prop where
  ns : p'.ns = p.ns
  name : p'.name = p.name
  uid : p'.uid = p.uid
  gpuCount : p'.gpuCount = p.gpuCount
  phase : p.phase.isTerminal → p'.phase.isTerminal

lemma ClusterWf.set_pod {w : World} (h : ClusterWf w) {k : String × String} {p p' : Pod}
    (hp : w.pods.get? k = some p) (hs : Succeeds p p') :
    ClusterWf { w with pods := w.pods.set k p' } := by
  refine ⟨fun k₁ p₁ hp₁ => ?_, h.landed⟩
  rw [Dict.get?_set] at hp₁
  by_cases hk : k₁ = k
  · rw [if_pos hk, Option.some.injEq] at hp₁
    subst hk hp₁
    rw [hs.ns, hs.name, hs.uid]
    exact h.named k₁ p hp
  · rw [if_neg hk] at hp₁
    exact h.named k₁ p₁ hp₁

lemma gone_set_pod {w : World} {k : String × String} {p p' : Pod} (hp : w.pods.get? k = some p)
    (hs : Succeeds p p') {uid : Uid} (hg : Gone w uid) :
    Gone { w with pods := w.pods.set k p' } uid := by
  refine ⟨hg.1, fun p₁ hp₁ huid => ?_⟩
  obtain ⟨k₁, hk₁⟩ := Dict.mem_values_iff.mp hp₁
  rw [Dict.get?_set] at hk₁
  by_cases hk : k₁ = k
  · rw [if_pos hk, Option.some.injEq] at hk₁
    subst hk₁
    exact hs.phase (hg.2 p (Dict.mem_values_iff.mpr ⟨k, hp⟩) (hs.uid.symm.trans huid))
  · rw [if_neg hk] at hk₁
    exact hg.2 p₁ (Dict.mem_values_iff.mpr ⟨k₁, hk₁⟩) huid

lemma patchPod_cases (w : World) (ns name : String) (tolerations : List Toleration) (ref : Nat) :
    w.patchPod ns name tolerations ref = w ∨ ∃ p, w.pods.get? (ns, name) = some p ∧
      w.patchPod ns name tolerations ref =
        { w with
          pods := w.pods.set (ns, name)
            { p with tolerations := tolerations, bookingReference := some ref }
          landed := w.landed.set p.uid ref } := by
  rw [World.patchPod]
  cases hp : w.pods.get? (ns, name) with
  | none => exact .inl rfl
  | some p => exact .inr ⟨p, rfl, rfl⟩

lemma terminatePod_cases (w : World) (ns name : String) :
    w.terminatePod ns name = w ∨ ∃ p, w.pods.get? (ns, name) = some p ∧
      w.terminatePod ns name =
        { w with pods := w.pods.set (ns, name) { p with terminating := true } } := by
  rw [World.terminatePod]
  cases hp : w.pods.get? (ns, name) with
  | none => exact .inl rfl
  | some p => exact .inr ⟨p, rfl, rfl⟩

/-- The cluster and the clock are what they were. -/
structure SameCluster (w w' : World) : Prop where
  pods : w'.pods = w.pods
  landed : w'.landed = w.landed
  created : w'.created = w.created
  clock : w.clock ≤ w'.clock

lemma SameCluster.refl (w : World) : SameCluster w w := ⟨rfl, rfl, rfl, le_rfl⟩

lemma create_sameCluster (w : World) (req : ReservationRequest) (ch : Choice) :
    SameCluster w (w.create req ch).2 := by
  rw [World.create]
  cases w.rowOfKey req.idempotencyKey with
  | some row => exact .refl w
  | none =>
    dsimp only
    split
    · exact ⟨rfl, rfl, rfl, le_rfl⟩
    · exact .refl w

lemma noteGrant_sameCluster (w : World) (task : Nat) (a : LeaseAttempt) :
    SameCluster w (w.noteGrant task a) := by
  rw [World.noteGrant]
  cases a.reservation with
  | none => exact .refl w
  | some lease => exact ⟨rfl, rfl, rfl, le_rfl⟩

/-- What an answer does to the cluster: nothing, or the patch or the deletion it answers. -/
lemma answer_cluster {task : Nat} {q : Request} {ch : Choice} {w w' : World} {a : Answer q}
    (h : answer task q ch w = some (a, w')) :
    SameCluster w w' ∨
      (∃ judged ns name pod key value ref tolerations,
        q = .applyToleration judged ns name pod key value ref ∧
          w' = w.patchPod ns name tolerations ref) ∨
      (∃ judged ns name, q = .deletePod judged ns name ∧ w' = w.terminatePod ns name) := by
  cases q with
  | applyToleration judged ns name pod key value ref =>
    rw [answer] at h
    split at h
    · cases h
      exact .inl (.refl w)
    · cases h
      exact .inr (.inl ⟨judged, ns, name, pod, key, value, ref, _, rfl, rfl⟩)
  | deletePod judged ns name =>
    rw [answer] at h
    split at h
    · cases h
      exact .inl (.refl w)
    · cases h
      exact .inr (.inr ⟨judged, ns, name, rfl, rfl⟩)
  | now =>
    cases h
    exact .inl ⟨rfl, rfl, rfl, Int.le_add_of_nonneg_right (Int.natCast_nonneg _)⟩
  | acquireReservationLock =>
    rw [answer] at h
    split at h
    · cases h
      exact .inl ⟨rfl, rfl, rfl, le_rfl⟩
    · cases h
  | releaseReservationLock =>
    cases h
    refine .inl ?_
    split
    · exact ⟨rfl, rfl, rfl, le_rfl⟩
    · exact .refl w
  | createReservation req =>
    have hcreate := create_sameCluster w req ch
    rw [answer] at h
    cases hout : ch.outcome with
    | refused =>
      rw [hout] at h
      cases h
      exact .inl (.refl w)
    | replyLost =>
      rw [hout] at h
      cases h
      exact .inl hcreate
    | done =>
      rw [hout] at h
      cases h
      have hnote := noteGrant_sameCluster (w.create req ch).2 task (w.create req ch).1
      exact .inl ⟨hnote.pods.trans hcreate.pods, hnote.landed.trans hcreate.landed,
        hnote.created.trans hcreate.created, hcreate.clock.trans hnote.clock⟩
  | cancelReservation id reason =>
    rw [answer] at h
    split at h
    · cases h
      exact .inl (.refl w)
    · cases h
      exact .inl ⟨rfl, rfl, rfl, le_rfl⟩
  | _ =>
    cases h
    exact .inl (.refl w)

/-- A call which does not suspend its caller is always answered. -/
lemma answer_of_sync (task : Nat) {q : Request} (hq : yields q = false) (ch : Choice) (w : World) :
    ∃ a w', answer task q ch w = some (a, w') := by
  cases q <;> first | exact ⟨_, _, rfl⟩ | cases hq

lemma SameCluster.trans {w₁ w₂ w₃ : World} (h₁ : SameCluster w₁ w₂) (h₂ : SameCluster w₂ w₃) :
    SameCluster w₁ w₃ :=
  ⟨h₂.pods.trans h₁.pods, h₂.landed.trans h₁.landed, h₂.created.trans h₁.created,
    h₁.clock.trans h₂.clock⟩

lemma answer_sync_cluster {task : Nat} {q : Request} {ch : Choice} {w w' : World} {a : Answer q}
    (hq : yields q = false) (h : answer task q ch w = some (a, w')) : SameCluster w w' := by
  rcases answer_cluster h with hsame | ⟨_, _, _, _, _, _, _, _, rfl, -⟩ | ⟨_, _, _, rfl, -⟩
  · exact hsame
  · cases hq
  · cases hq

lemma SameCluster.later {w w' : World} (h : SameCluster w w') : Later w w' := by
  refine ⟨h.clock, h.created ▸ List.prefix_rfl, fun uid hg => ⟨h.created ▸ hg.1, ?_⟩⟩
  rw [h.pods]
  exact hg.2

lemma patched_succeeds (p : Pod) (tolerations : List Toleration) (ref : Nat) :
    Succeeds p { p with tolerations := tolerations, bookingReference := some ref } :=
  ⟨rfl, rfl, rfl, rfl, id⟩

lemma terminated_succeeds (p : Pod) : Succeeds p { p with terminating := true } :=
  ⟨rfl, rfl, rfl, rfl, id⟩

lemma changed_succeeds (p : Pod) (phase : Phase) (terminating : Bool) (nodeName : Option String)
    (podScheduled : Option PodScheduled) :
    Succeeds p (p.changed phase terminating nodeName podScheduled) :=
  ⟨rfl, rfl, rfl, rfl, fun h => by simp [Pod.changed, h]⟩

lemma patchPod_later (w : World) (ns name : String) (tolerations : List Toleration) (ref : Nat) :
    Later w (w.patchPod ns name tolerations ref) := by
  rcases patchPod_cases w ns name tolerations ref with h | ⟨p, hp, h⟩
  · rw [h]
    exact .refl w
  · rw [h]
    exact ⟨le_rfl, List.prefix_rfl, fun uid hg => gone_set_pod hp (patched_succeeds p _ _) hg⟩

lemma terminatePod_later (w : World) (ns name : String) : Later w (w.terminatePod ns name) := by
  rcases terminatePod_cases w ns name with h | ⟨p, hp, h⟩
  · rw [h]
    exact .refl w
  · rw [h]
    exact ⟨le_rfl, List.prefix_rfl, fun uid hg => gone_set_pod hp (terminated_succeeds p) hg⟩

theorem answer_later {task : Nat} {q : Request} {ch : Choice} {w w' : World} {a : Answer q}
    (h : answer task q ch w = some (a, w')) : Later w w' := by
  rcases answer_cluster h with hsame | ⟨_, ns, name, _, _, _, ref, tols, -, rfl⟩ |
    ⟨_, ns, name, -, rfl⟩
  · exact hsame.later
  · exact patchPod_later w ns name tols ref
  · exact terminatePod_later w ns name

lemma ClusterWf.sameCluster {w w' : World} (hw : ClusterWf w) (h : SameCluster w w') :
    ClusterWf w' := by
  refine ⟨fun k p hp => ?_, fun uid hu => ?_⟩
  · rw [h.pods] at hp
    rw [h.created]
    exact hw.named k p hp
  · rw [h.landed] at hu
    rw [h.created]
    exact hw.landed uid hu

/-- A pod of the cluster has been created. -/
lemma ClusterWf.mem_created {w : World} (hw : ClusterWf w) {k : String × String} {p : Pod}
    (hp : w.pods.get? k = some p) : p.uid ∈ w.created :=
  Dict.mem_iff_get?.mpr ⟨k, (hw.named k p hp).2⟩

lemma ClusterWf.patchPod {w : World} (hw : ClusterWf w) (ns name : String)
    (tolerations : List Toleration) (ref : Nat) :
    ClusterWf (w.patchPod ns name tolerations ref) := by
  rcases patchPod_cases w ns name tolerations ref with h | ⟨p, hp, h⟩
  · rw [h]
    exact hw
  · rw [h]
    refine ⟨(hw.set_pod hp (patched_succeeds p tolerations ref)).named, fun uid hu => ?_⟩
    rcases Dict.mem_set.mp hu with rfl | hu
    · exact hw.mem_created hp
    · exact hw.landed uid hu

lemma ClusterWf.terminatePod {w : World} (hw : ClusterWf w) (ns name : String) :
    ClusterWf (w.terminatePod ns name) := by
  rcases terminatePod_cases w ns name with h | ⟨p, hp, h⟩
  · rw [h]
    exact hw
  · rw [h]
    exact hw.set_pod hp (terminated_succeeds p)

theorem answer_clusterWf {task : Nat} {q : Request} {ch : Choice} {w w' : World} {a : Answer q}
    (h : answer task q ch w = some (a, w')) (hw : ClusterWf w) : ClusterWf w' := by
  rcases answer_cluster h with hsame | ⟨_, ns, name, _, _, _, ref, tols, -, rfl⟩ |
    ⟨_, ns, name, -, rfl⟩
  · exact hw.sameCluster hsame
  · exact hw.patchPod ns name tols ref
  · exact hw.terminatePod ns name

lemma Succeeds.refl (p : Pod) : Succeeds p p := ⟨rfl, rfl, rfl, rfl, id⟩

/-- Each pod of the cluster after an answer is a pod which was there. -/
lemma answer_pods {task : Nat} {q : Request} {ch : Choice} {w w' : World} {a : Answer q}
    (h : answer task q ch w = some (a, w')) {k : String × String} {p' : Pod}
    (hp' : w'.pods.get? k = some p') : ∃ p, w.pods.get? k = some p ∧ Succeeds p p' := by
  have hset : ∀ k₀ p₀ q₀, w.pods.get? k₀ = some p₀ → Succeeds p₀ q₀ →
      (w.pods.set k₀ q₀).get? k = some p' → ∃ p, w.pods.get? k = some p ∧ Succeeds p p' := by
    intro k₀ p₀ q₀ hk₀ hs hget
    rw [Dict.get?_set] at hget
    split at hget
    · rename_i hk
      cases hget
      exact ⟨p₀, hk ▸ hk₀, hs⟩
    · exact ⟨p', hget, .refl p'⟩
  rcases answer_cluster h with hsame | ⟨_, ns, name, _, _, _, ref, tols, -, rfl⟩ |
    ⟨_, ns, name, -, rfl⟩
  · exact ⟨p', hsame.pods ▸ hp', .refl p'⟩
  · rcases patchPod_cases w ns name tols ref with heq | ⟨p, hp, heq⟩
    · exact ⟨p', by rwa [heq] at hp', .refl p'⟩
    · rw [heq] at hp'
      exact hset _ p _ hp (patched_succeeds p tols ref) hp'
  · rcases terminatePod_cases w ns name with heq | ⟨p, hp, heq⟩
    · exact ⟨p', by rwa [heq] at hp', .refl p'⟩
    · rw [heq] at hp'
      exact hset _ p _ hp (terminated_succeeds p) hp'

/-- What an event does to the cluster. -/
lemma effect_cluster (e : WorldEvent) (w : World) :
    SameCluster w (e.effect w) ∨
      (∃ pod, e = .podCreated pod ∧ pod.uid ∉ w.created ∧ (pod.ns, pod.name) ∉ w.pods ∧
        e.effect w = { w with
          pods := w.pods.set (pod.ns, pod.name) pod
          created := w.created.set pod.uid (pod.ns, pod.name) }) ∨
      (∃ k p p', w.pods.get? k = some p ∧ Succeeds p p' ∧
        e.effect w = { w with pods := w.pods.set k p' }) ∨
      (∃ k, e.effect w = { w with pods := w.pods.erase k }) := by
  cases e with
  | elapse n => exact .inl ⟨rfl, rfl, rfl, Int.le_add_of_nonneg_right (Int.natCast_nonneg _)⟩
  | podCreated pod =>
    rw [WorldEvent.effect]
    split
    · exact .inl (.refl w)
    · rename_i hnew
      rw [not_or] at hnew
      exact .inr (.inl ⟨pod, rfl, hnew.1, hnew.2, rfl⟩)
  | podChanged ns name phase terminating nodeName podScheduled =>
    rw [WorldEvent.effect]
    cases hp : w.pods.get? (ns, name) with
    | none => exact .inl (.refl w)
    | some p =>
      exact .inr (.inr (.inl ⟨_, p, _, hp, changed_succeeds p phase terminating nodeName
        podScheduled, rfl⟩))
  | podGone ns name => exact .inr (.inr (.inr ⟨(ns, name), rfl⟩))
  | rowChanged row => exact .inl ⟨rfl, rfl, rfl, le_rfl⟩

theorem effect_later (e : WorldEvent) (w : World) : Later w (e.effect w) := by
  rcases effect_cluster e w with hsame | ⟨pod, -, hnew, -, heq⟩ | ⟨k, p, p', hp, hs, heq⟩ | ⟨k, heq⟩
  · exact hsame.later
  · rw [heq]
    refine ⟨le_rfl, ?_, fun uid hg => ⟨Dict.mem_set.mpr (.inr hg.1), fun p hp huid => ?_⟩⟩
    · change w.created.entries <+: (w.created.set pod.uid (pod.ns, pod.name)).entries
      rw [Dict.entries_set_of_not_mem hnew]
      exact List.prefix_append _ _
    · obtain ⟨k, hk⟩ := Dict.mem_values_iff.mp hp
      rw [Dict.get?_set] at hk
      split at hk
      · cases hk
        exact absurd (huid ▸ hg.1) hnew
      · exact hg.2 p (Dict.mem_values_iff.mpr ⟨k, hk⟩) huid
  · rw [heq]
    exact ⟨le_rfl, List.prefix_rfl, fun uid hg => gone_set_pod hp hs hg⟩
  · rw [heq]
    refine ⟨le_rfl, List.prefix_rfl, fun uid hg => ⟨hg.1, fun p hp huid => ?_⟩⟩
    obtain ⟨k', hk'⟩ := Dict.mem_values_iff.mp hp
    rw [Dict.get?_erase] at hk'
    split at hk'
    · cases hk'
    · exact hg.2 p (Dict.mem_values_iff.mpr ⟨k', hk'⟩) huid

theorem effect_clusterWf (e : WorldEvent) {w : World} (hw : ClusterWf w) :
    ClusterWf (e.effect w) := by
  rcases effect_cluster e w with hsame | ⟨pod, -, hnew, -, heq⟩ | ⟨k, p, p', hp, hs, heq⟩ | ⟨k, heq⟩
  · exact hw.sameCluster hsame
  · rw [heq]
    refine ⟨fun k p hp => ?_, fun uid hu => Dict.mem_set.mpr (.inr (hw.landed uid hu))⟩
    rw [Dict.get?_set] at hp
    split at hp
    · rename_i hk
      cases hp
      exact ⟨hk, by simp [hk]⟩
    · have hne : p.uid ≠ pod.uid := fun h => hnew (h ▸ hw.mem_created hp)
      exact ⟨(hw.named k p hp).1, by rw [Dict.get?_set_of_ne _ _ hne]; exact (hw.named k p hp).2⟩
  · rw [heq]
    exact hw.set_pod hp hs
  · rw [heq]
    refine ⟨fun k' p hp => ?_, hw.landed⟩
    rw [Dict.get?_erase] at hp
    split at hp
    · cases hp
    · exact hw.named k' p hp

section Steps

variable {L : Type} {body : L → Ctl Unit} (p : Pool ControllerState World Request Answer L)

/-- A task which runs touches the cluster only where it suspends. -/
lemma step_run_cluster (i : Nat) (cs : List Choice) :
    SameCluster p.snap.world (step runtime body outside p (.run i cs)).snap.world := by
  rw [step]
  split
  · exact advance_world SameCluster.refl (fun _ _ _ => SameCluster.trans)
      (fun q c a w w' hq h => answer_sync_cluster hq h) _ cs p.snap
  · exact .refl _

variable (body) in
/-- Serving a call either answers it, and touches only the world, or does nothing. -/
lemma step_serve_cases (i : Nat) (c : Choice) :
    step runtime body outside p (.serve i c) = p ∨
      ∃ l q k a w, p.tasks[i]? = some (l, .waiting q k) ∧
        answer i q c p.snap.world = some (a, w) ∧
          step runtime body outside p (.serve i c) =
            p.setTask i l (.ready (k a)) { p.snap with world := w } := by
  rw [step]
  split
  · rename_i l q k hi
    split
    · rename_i a w hans
      exact .inr ⟨l, q, k, a, w, hi, hans, rfl⟩
    · exact .inl rfl
  · exact .inl rfl

end Steps

end GpuReservation.Proofs
