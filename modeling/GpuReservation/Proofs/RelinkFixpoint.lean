import GpuReservation.Proofs.OccupancyUniqueness
import GpuReservation.Proofs.PlannedEvictions
import GpuReservation.Proofs.RelinkBudget

/-!
# One pass of re-links settles

After the merges and the adoptions which a pass plans have landed, the same planners plan nothing: a pod which
was moved may stay, and one which was left is left again.
-/

namespace GpuReservation.Proofs

open GpuReservation.Library GpuReservation.Model

section Planning

variable {s c : ControllerState} {now : Instant}

/-- The planners match pods to the same reservations. -/
structure SameMatching (s c : ControllerState) : Prop where
  labels : c.gpuClassLabels = s.gpuClassLabels
  required : c.requiredGroupLabel = s.requiredGroupLabel
  noshows : c.noshowReservationIds = s.noshowReservationIds

/-- A booking whose window is running. -/
def Running (now : Instant) (r : ReservationResponse) : Prop := r.kind = .booking ∧ slotOpen r now

lemma relinkTarget_of_planned {eligible : PodRuntimeView → Bool} {pods : List PodRuntimeView}
    {q : PodRuntimeView × ReservationResponse} (h : q ∈ s.planRelinks eligible pods now) :
    ControllerState.relinkable q.1 ∧ eligible q.1 ∧ RelinkTarget s now q.1 q.2 :=
  (mem_planRelinks s h).2

/-- What a booking must meet to take a pod, room apart. -/
def suits (s : ControllerState) (now : Instant) (p : PodRuntimeView) (r : ReservationResponse) : Bool :=
  r.kind = .booking && ControllerState.ownedBy r p.ns && s.effectiveLabel r = some p.gpuClass &&
    s.groupOk r p.groupLabel && slotOpen r now && r.id ∉ s.noshowReservationIds

lemma openBookingFor_iff {extra : Dict Nat Nat} {p : PodRuntimeView} {r : ReservationResponse} :
    s.openBookingFor p.ns p.gpuClass now p.gpuCount extra p.groupLabel r ↔
      suits s now p r ∧ (p.gpuCount : Int) ≤ s.spare extra r := by
  rw [ControllerState.openBookingFor, suits, Bool.and_eq_true, decide_eq_true_eq]

lemma SameMatching.suits_eq (h : SameMatching s c) : suits c now = suits s now := by
  funext p r
  have hlabel : c.effectiveLabel r = s.effectiveLabel r := by
    rw [ControllerState.effectiveLabel, ControllerState.effectiveLabel, h.labels]
  have hgroup : c.groupOk r p.groupLabel = s.groupOk r p.groupLabel := by
    rw [ControllerState.groupOk, ControllerState.groupOk, h.required]
  rw [suits, suits, hlabel, hgroup, h.noshows]

lemma running_of_suits {p : PodRuntimeView} {r : ReservationResponse} (h : suits s now p r) :
    Running now r := by
  simp only [suits, Bool.and_eq_true, decide_eq_true_eq] at h
  exact ⟨h.1.1.1.1.1, h.1.2⟩

lemma findOpenBookingFor_eq_none_iff {extra : Dict Nat Nat} {p : PodRuntimeView} :
    s.findOpenBookingFor p.ns p.gpuClass now p.gpuCount extra p.groupLabel = none ↔
      ∀ r ∈ s.reservations, suits s now p r → s.spare extra r < p.gpuCount := by
  rw [ControllerState.findOpenBookingFor, List.argmax_eq_none, List.filter_eq_nil_iff]
  simp only [openBookingFor_iff, not_and, not_le]

/-- A plan only grows, and so does what it assigns. -/
lemma plannedGpus_mono_foldl (eligible : PodRuntimeView → Bool) (rid : Nat) (pods : List PodRuntimeView)
    (acc : List (PodRuntimeView × ReservationResponse) × Dict Nat Nat) :
    plannedGpus rid acc.1 ≤ plannedGpus rid (pods.foldl (s.planRelink eligible now) acc).1 := by
  induction pods generalizing acc with
  | nil => exact le_rfl
  | cons p pods ih =>
    rw [List.foldl_cons]
    refine le_trans ?_ (ih (s.planRelink eligible now acc p))
    rcases planRelink_cases s eligible now acc p with hsame | ⟨res, hsnoc, -⟩
    · rw [hsame]
    · rw [hsnoc, plannedGpus_snoc]
      omega

lemma mem_foldl_planRelink {eligible : PodRuntimeView → Bool} {pods : List PodRuntimeView}
    {acc : List (PodRuntimeView × ReservationResponse) × Dict Nat Nat}
    {q : PodRuntimeView × ReservationResponse} (h : q ∈ acc.1) :
    q ∈ (pods.foldl (s.planRelink eligible now) acc).1 := by
  induction pods generalizing acc with
  | nil => exact h
  | cons p pods ih =>
    rw [List.foldl_cons]
    apply ih
    rcases planRelink_cases s eligible now acc p with hsame | ⟨res, hsnoc, -⟩
    · rwa [hsame]
    · rw [hsnoc]
      exact List.mem_append_left _ h

/-- A pod which could be moved and is not planned for finds each booking that suits it too full, what the plan
assigns counted in. -/
lemma full_of_unplanned {eligible : PodRuntimeView → Bool} {pods : List PodRuntimeView} {p : PodRuntimeView}
    (hids : HeldOnce s) (hp : p ∈ pods) (hrelinkable : ControllerState.relinkable p)
    (heligible : eligible p) (hown : ∀ r ∈ s.reservations, Running now r → some r.id ≠ p.reservationId)
    (hleft : ∀ res, (p, res) ∉ s.planRelinks eligible pods now) {r : ReservationResponse}
    (hr : r ∈ s.reservations) (hsuits : suits s now p r) :
    s.available r none < p.gpuCount + plannedGpus r.id (s.planRelinks eligible pods now) := by
  have honly : OnlyOfItsId s r := fun res hres hid => List.inj_on_of_nodup_map hids hres hr hid
  obtain ⟨before, after, rfl⟩ := List.append_of_mem hp
  have hplan : s.planRelinks eligible (before ++ p :: after) now =
      (after.foldl (s.planRelink eligible now)
        (s.planRelink eligible now (before.foldl (s.planRelink eligible now) ([], ∅)) p)).1 := by
    rw [ControllerState.planRelinks, List.foldl_append, List.foldl_cons]
  rw [hplan] at hleft ⊢
  have htally : Tallied s r (before.foldl (s.planRelink eligible now) ([], ∅)) :=
    tallied_foldl honly eligible before now ⟨by simp [plannedGpus], by simp [plannedGpus]⟩
  generalize before.foldl (s.planRelink eligible now) ([], ∅) = acc at htally hleft ⊢
  have hgrown : plannedGpus r.id (s.planRelink eligible now acc p).1 ≤
      plannedGpus r.id (after.foldl (s.planRelink eligible now) (s.planRelink eligible now acc p)).1 :=
    plannedGpus_mono_foldl eligible r.id after _
  have hstep : plannedGpus r.id acc.1 ≤ plannedGpus r.id (s.planRelink eligible now acc p).1 :=
    plannedGpus_mono_foldl eligible r.id [p] acc
  -- at its turn the pod found no booking, since one it found would be planned
  have hnone : s.findOpenBookingFor p.ns p.gpuClass now p.gpuCount acc.2 p.groupLabel = none := by
    cases hfind : s.findOpenBookingFor p.ns p.gpuClass now p.gpuCount acc.2 p.groupLabel with
    | none => rfl
    | some res =>
      obtain ⟨hres, hopen⟩ := findOpenBookingFor_spec s hfind
      have hother := hown res hres (running_of_suits (openBookingFor_iff.mp hopen).1)
      refine absurd (mem_foldl_planRelink ?_) (hleft res)
      simp [ControllerState.planRelink, hrelinkable, heligible, hfind, hother]
  have hshort := findOpenBookingFor_eq_none_iff.mp hnone r hr hsuits
  rw [ControllerState.spare, htally.counts] at hshort
  omega

lemma planRelinks_eq_nil {eligible : PodRuntimeView → Bool} {pods : List PodRuntimeView}
    (h : ∀ p ∈ pods, ControllerState.relinkable p → eligible p →
      s.findOpenBookingFor p.ns p.gpuClass now p.gpuCount ∅ p.groupLabel = none) :
    s.planRelinks eligible pods now = [] := by
  have hfold : pods.foldl (s.planRelink eligible now) ([], ∅) = ([], ∅) := by
    induction pods with
    | nil => rfl
    | cons p pods ih =>
      have hturn : s.planRelink eligible now ([], ∅) p = ([], ∅) := by
        rw [ControllerState.planRelink]
        split
        · rename_i hcond
          rw [Bool.and_eq_true] at hcond
          rw [h p List.mem_cons_self hcond.1 hcond.2]
        · rfl
      rw [List.foldl_cons, hturn]
      exact ih fun q hq => h q (List.mem_cons_of_mem p hq)
  rw [ControllerState.planRelinks, hfold]

/-- Where the running bookings hold what they held and what was planned for them, and a pod which is still to be
moved was left before, nothing is planned any more. -/
theorem planRelinks_settled {eligible eligible' : PodRuntimeView → Bool} {pods views : List PodRuntimeView}
    (hids : HeldOnce s) (hsame : SameMatching s c) (hlisted : ∀ r ∈ c.reservations, r ∈ s.reservations)
    (hgrown : ∀ r ∈ s.reservations, Running now r →
      (s.bucket r.id).total + plannedGpus r.id (s.planRelinks eligible pods now) ≤ (c.bucket r.id).total)
    (hown : ∀ p, eligible p → ∀ r ∈ s.reservations, Running now r → some r.id ≠ p.reservationId)
    (hviews : ∀ v ∈ views, eligible' v →
      v ∈ pods ∧ eligible v ∧ ∀ res, (v, res) ∉ s.planRelinks eligible pods now) :
    c.planRelinks eligible' views now = [] := by
  apply planRelinks_eq_nil
  intro p hp hrelinkable heligible'
  obtain ⟨hpods, heligible, hleft⟩ := hviews p hp heligible'
  rw [findOpenBookingFor_eq_none_iff, hsame.suits_eq]
  intro r hr hsuits
  have hfull := full_of_unplanned hids hpods hrelinkable heligible (hown p heligible) hleft (hlisted r hr)
    hsuits
  have htotal := hgrown r (hlisted r hr) (running_of_suits hsuits)
  have hsome : 0 < p.gpuCount := by
    simp only [ControllerState.relinkable, Bool.and_eq_true, decide_eq_true_eq] at hrelinkable
    exact hrelinkable.2
  rw [ControllerState.available, usedExcept_none] at hfull
  rw [ControllerState.spare, ControllerState.available, usedExcept_none, Dict.get?_empty, Option.getD_none]
  omega

end Planning

section Records

variable {c : ControllerState} {views : List PodRuntimeView}

/-- A listed pod is recorded on no other reservation than the one its view names. -/
def RecordsAgree (s : ControllerState) (views : List PodRuntimeView) : Prop :=
  ∀ v ∈ views, ∀ e ∈ s.occupancy.entries, v.uid ∈ e.2 → v.reservationId = some e.1

instance (s : ControllerState) (views : List PodRuntimeView) : Decidable (RecordsAgree s views) :=
  inferInstanceAs (Decidable (∀ v ∈ views, ∀ e ∈ s.occupancy.entries, v.uid ∈ e.2 → v.reservationId = some e.1))

lemma recordsAgree_iff :
    RecordsAgree c views ↔ ∀ v ∈ views, ∀ rid, v.uid ∈ c.bucket rid → v.reservationId = some rid := by
  constructor
  · intro h v hv rid hmem
    cases hb : c.occupancy.get? rid with
    | none =>
      rw [ControllerState.bucket, hb] at hmem
      cases hmem
    | some d =>
      rw [ControllerState.bucket, hb] at hmem
      exact h v hv _ (Dict.get?_eq_some_iff.mp hb) hmem
  · intro h v hv e he hmem
    apply h v hv
    rwa [ControllerState.bucket, Dict.get?_eq_some_iff.mpr he]

lemma mem_replace_of_nodup {α : Type} [BEq α] [LawfulBEq α] {l : List α} {a b x : α} (hl : l.Nodup)
    (h : x ∈ l.replace a b) : x = b ∨ x ∈ l ∧ x ≠ a := by
  induction l with
  | nil => cases h
  | cons y l ih =>
    obtain ⟨hy, hl⟩ := List.nodup_cons.mp hl
    rw [List.replace_cons] at h
    split at h
    · rename_i heq
      obtain rfl := eq_of_beq heq
      rcases List.mem_cons.mp h with rfl | h
      · exact .inl rfl
      · exact .inr ⟨List.mem_cons_of_mem a h, fun hx => hy (hx ▸ h)⟩
    · rename_i hne
      rcases List.mem_cons.mp h with rfl | h
      · exact .inr ⟨List.mem_cons_self, fun hx => Bool.eq_false_iff.mp hne (beq_iff_eq.mpr hx.symm)⟩
      · exact (ih hl h).imp_right fun h => ⟨List.mem_cons_of_mem y h.1, h.2⟩

/-- A release which finds the pod nowhere else leaves the bucket without it. -/
lemma not_mem_released {uid : Uid} {rid : Nat}
    (hone : ∀ rid', uid ∈ c.bucket rid' → uid ∈ c.bucket rid → rid' = rid) :
    uid ∉ (c.releasePod uid).bucket rid := by
  rw [bucket_releasePod]
  split
  · rw [← Dict.get?_eq_none_iff, Dict.get?_erase_self]
  · rename_i hplace
    intro hmem
    cases hp : c.placeOf uid with
    | none => exact (placeOf_eq_none_iff c).mp hp rid hmem
    | some place =>
      obtain rfl := hone place (mem_bucket_of_placeOf c hp) hmem
      exact hplace hp

variable (h : RecordsAgree c views) {view : PodRuntimeView} (hview : view ∈ views) (res : ReservationResponse)
include h hview

lemma bucket_relink_of_ne {rid : Nat} (hrid : rid ≠ res.id) :
    view.uid ∉ (c.relinkOccupancy view.uid res.id view.gpuCount).bucket rid := by
  rw [ControllerState.relinkOccupancy, bucket_recordPlacement, if_neg hrid]
  apply not_mem_released
  intro rid' hmem' hmem
  have hat' := recordsAgree_iff.mp h view hview rid' hmem'
  have hat := recordsAgree_iff.mp h view hview rid hmem
  exact Option.some.inj (hat'.symm.trans hat)

/-- The records go with the view of the pod which is moved. -/
lemma recordsAgree_relink (hviews : (views.map (·.uid)).Nodup) :
    RecordsAgree (c.relinkOccupancy view.uid res.id view.gpuCount)
      (views.replace view (view.relinked res)) := by
  rw [recordsAgree_iff]
  intro v hv rid hmem
  rcases mem_replace_of_nodup (List.Nodup.of_map _ hviews) hv with rfl | ⟨hv, hne⟩
  · by_contra hother
    exact bucket_relink_of_ne h hview res (fun heq => hother (congrArg some heq.symm)) hmem
  · have huid : v.uid ≠ view.uid := fun heq => hne (List.inj_on_of_nodup_map hviews hv hview heq)
    have hkept : ((c.relinkOccupancy view.uid res.id view.gpuCount).bucket rid).get? v.uid =
        (c.bucket rid).get? v.uid := by
      by_cases hrid : rid = res.id
      · rw [hrid]
        exact (relinked_records c view.uid res.id view.gpuCount).1 v.uid huid
      · rw [ControllerState.relinkOccupancy, bucket_recordPlacement, if_neg hrid,
          bucket_releasePod_get?_of_ne c huid]
    rw [Dict.mem_iff_get?, hkept, ← Dict.mem_iff_get?] at hmem
    exact recordsAgree_iff.mp h v hv rid hmem

/-- A reservation which the pod does not come from gains what it is given. -/
lemma total_bucket_relink {rid : Nat} (hfrom : some rid ≠ view.reservationId) :
    ((c.relinkOccupancy view.uid res.id view.gpuCount).bucket rid).total =
      (c.bucket rid).total + if res.id = rid then view.gpuCount else 0 := by
  have hfree : view.uid ∉ c.bucket rid := fun hmem => hfrom (recordsAgree_iff.mp h view hview rid hmem).symm
  by_cases hrid : res.id = rid
  · obtain ⟨-, -, htotal⟩ := relinked_records c view.uid res.id view.gpuCount
    rw [hrid] at htotal ⊢
    rw [Dict.get?_eq_none_iff.mpr hfree] at htotal
    simpa using htotal
  · have hplace : c.placeOf view.uid ≠ some rid := fun hp => hfree (mem_bucket_of_placeOf c hp)
    rw [if_neg hrid, ControllerState.relinkOccupancy, bucket_recordPlacement, if_neg (Ne.symm hrid),
      bucket_releasePod, if_neg hplace]
    rfl

end Records

section Pass

variable {s c c' : ControllerState} {now : Instant} {pods views : List PodRuntimeView}
  {done ahead : List (PodRuntimeView × ReservationResponse)}

/-- The pods are found alive, and their patches land. -/
def landing : ∀ q, Answer q → Prop
  | .readPod _ _, found => ∃ pod, found = some pod ∧ pod.phase.isTerminal = false
  | .applyToleration .., landed => landed = true
  | _, _ => True

/-- A pass under way, which has carried out a part of its plan. -/
structure Underway (s : ControllerState) (now : Instant) (pods : List PodRuntimeView)
    (done ahead : List (PodRuntimeView × ReservationResponse)) (views : List PodRuntimeView)
    (c : ControllerState) : Prop where
  uids : views.map (·.uid) = pods.map (·.uid)
  agree : RecordsAgree c views
  listed : ∀ q ∈ ahead, q.1 ∈ views
  moved : ∀ v ∈ views, (v ∈ pods ∧ ∀ q ∈ done, q.1 ≠ v) ∨ ∃ q ∈ done, v = q.1.relinked q.2
  grown : ∀ r ∈ s.reservations, Running now r →
    (s.bucket r.id).total + plannedGpus r.id done ≤ (c.bucket r.id).total

lemma Underway.start (hagree : RecordsAgree s pods) (hlisted : ∀ q ∈ ahead, q.1 ∈ pods) :
    Underway s now pods [] ahead pods s where
  uids := rfl
  agree := hagree
  listed := hlisted
  moved v hv := .inl ⟨hv, by simp⟩
  grown r _ _ := by simp [plannedGpus]

lemma bucket_congr (h : c'.occupancy = c.occupancy) : c'.bucket = c.bucket := by
  funext rid
  rw [ControllerState.bucket, ControllerState.bucket, h]

lemma Underway.congr (h : Underway s now pods done ahead views c) (hocc : c'.occupancy = c.occupancy) :
    Underway s now pods done ahead views c' where
  uids := h.uids
  agree := by
    rw [RecordsAgree, hocc]
    exact h.agree
  listed := h.listed
  moved := h.moved
  grown := by
    rw [bucket_congr hocc]
    exact h.grown

lemma mem_replace_of_ne {α : Type} [BEq α] [LawfulBEq α] {l : List α} {a b x : α} (hx : x ∈ l)
    (hne : x ≠ a) : x ∈ l.replace a b := by
  induction l with
  | nil => cases hx
  | cons y l ih =>
    rw [List.replace_cons]
    split
    · rename_i heq
      rcases List.mem_cons.mp hx with rfl | hx
      · exact absurd (eq_of_beq heq).symm hne
      · exact List.mem_cons_of_mem b hx
    · rcases List.mem_cons.mp hx with rfl | hx
      · exact List.mem_cons_self
      · exact List.mem_cons_of_mem y (ih hx)

/-- One pod is moved, from a reservation which is not a running booking. -/
lemma Underway.step {q : PodRuntimeView × ReservationResponse}
    (h : Underway s now pods done (q :: ahead) views c) (hpods : (pods.map (·.uid)).Nodup)
    (honce : ∀ q' ∈ ahead, q'.1 ≠ q.1)
    (hfrom : ∀ r ∈ s.reservations, Running now r → some r.id ≠ q.1.reservationId) :
    Underway s now pods (done ++ [q]) ahead (views.replace q.1 (q.1.relinked q.2))
      (c.relinkOccupancy q.1.uid q.2.id q.1.gpuCount) := by
  have hq : q.1 ∈ views := h.listed q List.mem_cons_self
  have hviews : (views.map (·.uid)).Nodup := by rwa [h.uids]
  refine ⟨?_, recordsAgree_relink h.agree hq q.2 hviews, fun q' hq' => ?_, fun v hv => ?_, fun r hr hrun => ?_⟩
  · rw [map_uid_replace, h.uids]
  · exact mem_replace_of_ne (h.listed q' (List.mem_cons_of_mem q hq')) (honce q' hq')
  · rcases mem_replace_of_nodup (List.Nodup.of_map _ hviews) hv with rfl | ⟨hv, hne⟩
    · exact .inr ⟨q, by simp, rfl⟩
    · rcases h.moved v hv with ⟨hlisted, hleft⟩ | ⟨q', hq', heq⟩
      · refine .inl ⟨hlisted, fun q' hq' => ?_⟩
        rcases List.mem_append.mp hq' with hq' | hq'
        · exact hleft q' hq'
        · rw [List.mem_singleton.mp hq']
          exact hne.symm
      · exact .inr ⟨q', List.mem_append_left _ hq', heq⟩
  · have hgrown := h.grown r hr hrun
    rw [total_bucket_relink h.agree hq q.2 (hfrom r hr hrun), plannedGpus_snoc]
    omega

lemma recordGuarantee_exec {ans : ∀ q, Answer q → Prop} {tr : List (Sigma Answer)} {u : Unit} {uid : Uid}
    {ns name : String} {guaranteedUntil : Instant} {res : ReservationResponse} {first : Bool}
    (h : (recordGuarantee uid ns name guaranteedUntil res first).Exec ans c tr u c') : c' = c := by
  have hwithin : (recordGuarantee uid ns name guaranteedUntil res first).Within (fun s s' => s' = s)
      Request.stamps fun _ => True := recordGuarantee_stamps uid ns name guaranteedUntil res first
  refine (Prog.exec_of_within ?_ ?_ hwithin h).1
  · exact fun _ => rfl
  · exact fun _ _ _ hfirst hthen => hthen.trans hfirst

/-- Where the pod is found and its patch lands, the records go with it and nothing else changes. -/
lemma relinkPod_landing {view : PodRuntimeView} {res : ReservationResponse} {cause : RelinkCause}
    {tr : List (Sigma Answer)} {b : Bool} (h : (relinkPod view res now cause).Exec landing c tr b c') :
    b = true ∧ c' = c.relinkOccupancy view.uid res.id view.gpuCount := by
  rw [relinkPod, Prog.exec_ask_bind] at h
  obtain ⟨_, tr₁, ⟨pod, rfl, halive⟩, -, h⟩ := h
  simp only [halive, Bool.false_eq_true, if_false] at h
  rw [Prog.exec_ask_bind] at h
  obtain ⟨_, tr₂, rfl, -, h⟩ := h
  rw [if_pos rfl, Prog.exec_bind] at h
  obtain ⟨tr₃, tr₄, _, c₁, -, hconclude, hret⟩ := h
  rw [Prog.exec_pure] at hret
  obtain ⟨-, rfl, rfl⟩ := hret
  refine ⟨rfl, ?_⟩
  rw [concludeRelink, Prog.exec_modify_bind, Prog.exec_get_bind, Prog.exec_bind] at hconclude
  obtain ⟨tr₅, tr₆, _, c₂, -, hrecord, htell⟩ := hconclude
  rw [Prog.exec_ask_bind] at htell
  obtain ⟨_, tr₇, -, -, htell⟩ := htell
  rw [Prog.exec_pure] at htell
  obtain ⟨-, -, rfl⟩ := htell
  exact recordGuarantee_exec hrecord

end Pass

section Own

variable {s c : ControllerState} {now : Instant} {p : PodRuntimeView}

lemma findReservation_of_mem (hids : HeldOnce s) {r : ReservationResponse} (hr : r ∈ s.reservations) :
    findReservation s.reservations r.id = some r := by
  cases hfind : findReservation s.reservations r.id with
  | none =>
    have hnone := List.find?_eq_none.mp hfind r hr
    simp at hnone
  | some found =>
    have hid : found.id = r.id := by simpa using List.find?_some hfind
    rw [List.inj_on_of_nodup_map hids (List.mem_of_find?_eq_some hfind) hr hid]

/-- A pod on a lease is under no booking. -/
lemma not_running_of_onLease (hids : HeldOnce s) (h : s.onLease p) {r : ReservationResponse}
    (hr : r ∈ s.reservations) (hrun : Running now r) : some r.id ≠ p.reservationId := by
  intro hown
  rw [ControllerState.onLease, ← hown, Option.bind_some, findReservation_of_mem hids hr] at h
  simp [hrun.1] at h

/-- A pod past its guarantee is under no running booking. -/
lemma not_running_of_pastGuarantee (hids : HeldOnce s) (h : s.pastGuarantee p now)
    {r : ReservationResponse} (hr : r ∈ s.reservations) (hrun : Running now r) :
    some r.id ≠ p.reservationId := by
  intro hown
  have hend : s.guaranteeEnd p.reservationId now = some (s.computeGuaranteedUntil now r) := by
    rw [← hown, ControllerState.guaranteeEnd, findReservation_of_mem hids hr, Option.map_some]
  have hlater := lt_computeGuaranteedUntil s hrun.2
  rw [ControllerState.pastGuarantee, hend, decide_eq_true_eq] at h
  exact absurd h (not_le.mpr hlater)

/-- The bookings are kept, and no reservation is added. -/
structure KeepsBookings (s c : ControllerState) : Prop where
  sublist : c.reservations.Sublist s.reservations
  bookings : ∀ r ∈ s.reservations, r.kind = .booking → r ∈ c.reservations

lemma KeepsBookings.refl (s : ControllerState) : KeepsBookings s s := ⟨.refl _, fun _ hr _ => hr⟩

lemma KeepsBookings.trans {s c d : ControllerState} (h : KeepsBookings s c) (h' : KeepsBookings c d) :
    KeepsBookings s d :=
  ⟨h'.sublist.trans h.sublist, fun r hr hkind => h'.bookings r (h.bookings r hr hkind) hkind⟩

lemma KeepsBookings.heldOnce (h : KeepsBookings s c) (hids : HeldOnce s) : HeldOnce c :=
  List.Nodup.sublist (h.sublist.map _) hids

/-- A pod which is on a lease was on it. -/
lemma KeepsBookings.onLease (h : KeepsBookings s c) (hids : HeldOnce s) (hp : c.onLease p) : s.onLease p := by
  simp only [ControllerState.onLease, Option.any_eq_true, Option.bind_eq_some_iff] at hp ⊢
  obtain ⟨r, ⟨id, hid, hfind⟩, hkind⟩ := hp
  have hr : r ∈ s.reservations := h.sublist.subset (List.mem_of_find?_eq_some hfind)
  have heq : r.id = id := by simpa using List.find?_some hfind
  refine ⟨r, ⟨id, hid, ?_⟩, hkind⟩
  rw [← heq]
  exact findReservation_of_mem hids hr

/-- A cancelled lease is no booking. -/
lemma retireLease_exec {ans : ∀ q, Answer q → Prop} {tr : List (Sigma Answer)} {u : Unit}
    {leaseId : Option Nat} (hids : HeldOnce s) (h : (retireLease leaseId).Exec ans s tr u c) :
    KeepsBookings s c ∧ c.occupancy = s.occupancy := by
  cases leaseId with
  | none =>
    obtain ⟨-, -, rfl⟩ := h
    exact ⟨.refl _, rfl⟩
  | some id =>
    rw [retireLease, cancelMergedLease, Prog.exec_get_bind] at h
    dsimp only at h
    split at h
    · rename_i hactive
      rw [Prog.exec_ask_bind] at h
      obtain ⟨cancelled, tr', -, -, h⟩ := h
      split at h
      · rw [Prog.exec_modify] at h
        obtain ⟨-, rfl⟩ := h
        refine ⟨⟨List.filter_sublist, fun r hr hkind => ?_⟩, rfl⟩
        refine List.mem_filter.mpr ⟨hr, decide_eq_true fun hid => ?_⟩
        rw [← hid, findReservation_of_mem hids hr] at hactive
        simp [hkind] at hactive
      · rw [Prog.exec_modify] at h
        obtain ⟨-, rfl⟩ := h
        exact ⟨⟨.refl _, fun _ hr _ => hr⟩, rfl⟩
    · rw [Prog.exec_modify] at h
      obtain ⟨-, rfl⟩ := h
      exact ⟨⟨.refl _, fun _ hr _ => hr⟩, rfl⟩

end Own

section Passes

variable {s s' : ControllerState} {now : Instant} {pods views : List PodRuntimeView} {config : Config}
  {tr : List (Sigma Answer)}

lemma fst_ne_of_nodup {done ahead : List (PodRuntimeView × ReservationResponse)}
    {q q' : PodRuntimeView × ReservationResponse}
    (hnodup : ((done ++ q :: ahead).map (·.1.uid)).Nodup) (hq' : q' ∈ ahead) : q'.1 ≠ q.1 := by
  intro heq
  rw [List.map_append, List.map_cons] at hnodup
  have hnotin := (List.nodup_cons.mp hnodup.of_append_right).1
  exact hnotin (List.mem_map.mpr ⟨q', hq', congrArg _ heq⟩)

/-- A merge pass whose patches land carries out its plan, and keeps the bookings. -/
lemma mergeOndemandIntoBookings_landing (hids : HeldOnce s) (hpods : (pods.map (·.uid)).Nodup)
    (hagree : RecordsAgree s pods)
    (h : (mergeOndemandIntoBookings config pods now).Exec landing s tr views s') :
    Underway s now pods (RelinkPass.merge.planned config s pods now) [] views s' ∧ KeepsBookings s s' := by
  rw [mergeOndemandIntoBookings, Prog.exec_get_bind] at h
  rw [RelinkPass.planned]
  split at h
  · rename_i henabled
    rw [if_pos henabled]
    have hnodup := RelinkPass.merge.nodup_planned (s := s) config now hpods
    rw [RelinkPass.planned, if_pos henabled] at hnodup
    have hlisted : ∀ q ∈ s.planOndemandMerges pods now, q.1 ∈ pods := fun q hq =>
      (planRelinks_sublist _ pods now).subset (List.mem_map_of_mem hq)
    have hloop := Prog.exec_foldlM (fun l d c _ => ∃ done, s.planOndemandMerges pods now = done ++ l ∧
      Underway s now pods done l d c ∧ KeepsBookings s c) ?_
      ⟨[], rfl, .start hagree hlisted, .refl s⟩ h
    · obtain ⟨done, heq, hunder, hkeeps⟩ := hloop
      rw [List.append_nil] at heq
      rw [heq]
      exact ⟨hunder, hkeeps⟩
    · rintro q l d c _ _ d' c' ⟨done, heq, hunder, hkeeps⟩ hbody
      have hq : q ∈ s.planOndemandMerges pods now := heq ▸ List.mem_append_right _ List.mem_cons_self
      have helig := (relinkTarget_of_planned hq).2.1
      have hstep := hunder.step hpods (fun q' hq' => fst_ne_of_nodup (heq ▸ hnodup) hq')
        fun r hr hrun => not_running_of_onLease hids helig hr hrun
      rw [mergePod, Prog.exec_bind] at hbody
      obtain ⟨tr₁, tr₂, landed, c₁, -, hrelink, hbody⟩ := hbody
      obtain ⟨rfl, rfl⟩ := relinkPod_landing hrelink
      rw [if_pos rfl, Prog.exec_bind] at hbody
      obtain ⟨tr₃, tr₄, _, c₂, -, hretire, hret⟩ := hbody
      rw [Prog.exec_pure] at hret
      obtain ⟨-, rfl, rfl⟩ := hret
      obtain ⟨occupancy, hocc⟩ := relinkOccupancy_eq c q.1.uid q.2.id q.1.gpuCount
      have hmoved : KeepsBookings s (c.relinkOccupancy q.1.uid q.2.id q.1.gpuCount) := by
        rw [hocc]
        exact ⟨hkeeps.sublist, hkeeps.bookings⟩
      obtain ⟨hretired, hsame⟩ := retireLease_exec (hmoved.heldOnce hids) hretire
      refine ⟨done ++ [q], by rw [heq, List.append_assoc]; rfl, hstep.congr hsame, hmoved.trans hretired⟩
  · rename_i hdisabled
    rw [if_neg hdisabled]
    obtain ⟨-, rfl, rfl⟩ := h
    exact ⟨.start hagree (by simp), .refl _⟩

/-- So does an adoption pass, which changes records only. -/
lemma adoptPods_landing {cause : RelinkCause} (hids : HeldOnce s) (hpods : (pods.map (·.uid)).Nodup)
    (hagree : RecordsAgree s pods)
    (h : (adoptPods config pods now cause).Exec landing s tr views s') :
    Underway s now pods ((RelinkPass.adoption cause).planned config s pods now) [] views s' := by
  rw [adoptPods, Prog.exec_get_bind] at h
  rw [RelinkPass.planned]
  split at h
  · rename_i henabled
    rw [if_pos henabled]
    have hnodup := (RelinkPass.adoption cause).nodup_planned (s := s) config now hpods
    rw [RelinkPass.planned, if_pos henabled] at hnodup
    have hlisted : ∀ q ∈ s.planPodAdoptions pods now, q.1 ∈ pods := fun q hq =>
      (planRelinks_sublist _ pods now).subset (List.mem_map_of_mem hq)
    have hloop := Prog.exec_foldlM (fun l d c _ => ∃ done, s.planPodAdoptions pods now = done ++ l ∧
      Underway s now pods done l d c) ?_ ⟨[], rfl, .start hagree hlisted⟩ h
    · obtain ⟨done, heq, hunder⟩ := hloop
      rw [List.append_nil] at heq
      rwa [heq]
    · rintro q l d c _ _ d' c' ⟨done, heq, hunder⟩ hbody
      have hq : q ∈ s.planPodAdoptions pods now := heq ▸ List.mem_append_right _ List.mem_cons_self
      have helig := (relinkTarget_of_planned hq).2.1
      have hstep := hunder.step hpods (fun q' hq' => fst_ne_of_nodup (heq ▸ hnodup) hq')
        fun r hr hrun => not_running_of_pastGuarantee hids helig hr hrun
      rw [adoptPod, Prog.exec_bind] at hbody
      obtain ⟨tr₁, tr₂, landed, c₁, -, hrelink, hret⟩ := hbody
      obtain ⟨rfl, rfl⟩ := relinkPod_landing hrelink
      rw [if_pos rfl, Prog.exec_pure] at hret
      obtain ⟨-, rfl, rfl⟩ := hret
      exact ⟨done ++ [q], by rw [heq, List.append_assoc]; rfl, hstep⟩
  · rename_i hdisabled
    rw [if_neg hdisabled]
    obtain ⟨-, rfl, rfl⟩ := h
    exact .start hagree (by simp)

end Passes

section Settled

variable {s s₁ s₂ : ControllerState} {now : Instant} {pods views : List PodRuntimeView} {config : Config}

/-- The merges and then the adoptions from one list of views, as the queue tick and the sweep make them. -/
def relinkViews (config : Config) (pods : List PodRuntimeView) (now : Instant) (cause : RelinkCause) :
    Ctl (List PodRuntimeView) := do
  let views ← mergeOndemandIntoBookings config pods now
  adoptPods config views now cause

lemma relinkSnapshot_eq (config : Config) (now : Instant) (snapshot : List Pod) :
    relinkSnapshot config now snapshot =
      (do
        let _ ← relinkViews config (snapshot.map (podView none)) now .overstay
        return ()) := by
  rw [relinkSnapshot, relinkViews, bind_assoc]

lemma OnlyRelinks.trans {c₁ c₂ c₃ : ControllerState} (h : OnlyRelinks c₁ c₂) (h' : OnlyRelinks c₂ c₃) :
    OnlyRelinks c₁ c₃ := by
  obtain ⟨_, rfl⟩ := h
  obtain ⟨_, rfl⟩ := h'
  exact ⟨_, rfl⟩

lemma OnlyMerges.trans {c₁ c₂ c₃ : ControllerState} (h : OnlyMerges c₁ c₂) (h' : OnlyMerges c₂ c₃) :
    OnlyMerges c₁ c₃ := by
  obtain ⟨_, _, _, rfl⟩ := h
  obtain ⟨_, _, _, rfl⟩ := h'
  exact ⟨_, _, _, rfl⟩

lemma mem_plan_of_underway {done : List (PodRuntimeView × ReservationResponse)} {c : ControllerState}
    (h : Underway s now pods done [] views c) {v : PodRuntimeView} (hv : v ∈ views)
    (hstay : ∀ q ∈ done, v ≠ q.1.relinked q.2) : v ∈ pods ∧ ∀ res, (v, res) ∉ done := by
  rcases h.moved v hv with ⟨hlisted, hleft⟩ | ⟨q, hq, heq⟩
  · exact ⟨hlisted, fun res hmem => hleft _ hmem rfl⟩
  · exact absurd heq (hstay q hq)

/-- A merge pass whose patches land leaves nothing to merge. -/
lemma merged_settled (hids : HeldOnce s) (hmatch : SameMatching s s₁) (hkeeps : KeepsBookings s s₁)
    (hunder : Underway s now pods (RelinkPass.merge.planned config s pods now) [] views s₁) :
    RelinkPass.merge.planned config s₁ views now = [] := by
  rw [RelinkPass.planned] at hunder ⊢
  split
  · rename_i henabled
    rw [if_pos henabled] at hunder
    refine planRelinks_settled hids hmatch (fun r hr => hkeeps.sublist.subset hr) hunder.grown
      (fun p hp r hr hrun => not_running_of_onLease hids hp hr hrun) fun v hv hlease => ?_
    obtain ⟨hlisted, hleft⟩ := mem_plan_of_underway hunder hv fun q hq heq => by
      obtain ⟨-, -, htarget⟩ := relinkTarget_of_planned hq
      have hres := hkeeps.bookings q.2 htarget.listed htarget.booking
      refine not_running_of_onLease (hkeeps.heldOnce hids) hlease hres ⟨htarget.booking, htarget.opened⟩ ?_
      rw [heq]
      rfl
    exact ⟨hlisted, hkeeps.onLease hids hlease, hleft⟩
  · rfl

/-- An adoption pass whose patches land leaves nothing to adopt, and nothing to merge where there was nothing. -/
lemma adopted_settled {cause : RelinkCause} (hids : HeldOnce s₁) (hrelinks : OnlyRelinks s₁ s₂)
    (hunder : Underway s₁ now pods ((RelinkPass.adoption cause).planned config s₁ pods now) [] views s₂)
    (hmerged : RelinkPass.merge.planned config s₁ pods now = []) (pass : RelinkPass) :
    pass.planned config s₂ views now = [] := by
  obtain ⟨occupancy, rfl⟩ := hrelinks
  have hids₂ : HeldOnce { s₁ with occupancy := occupancy } := hids
  have hmatch : SameMatching s₁ { s₁ with occupancy := occupancy } := ⟨rfl, rfl, rfl⟩
  have htarget : ∀ q ∈ (RelinkPass.adoption cause).planned config s₁ pods now,
      q.2 ∈ s₁.reservations ∧ Running now q.2 := by
    intro q hq
    rw [RelinkPass.planned] at hq
    split at hq
    · obtain ⟨-, -, htarget⟩ := relinkTarget_of_planned hq
      exact ⟨htarget.listed, htarget.booking, htarget.opened⟩
    · cases hq
  cases pass with
  | merge =>
    rw [RelinkPass.planned] at hmerged ⊢
    split
    · rename_i henabled
      rw [if_pos henabled, ControllerState.planOndemandMerges] at hmerged
      have hgrown : ∀ r ∈ s₁.reservations, Running now r →
          (s₁.bucket r.id).total + plannedGpus r.id (s₁.planRelinks s₁.onLease pods now) ≤
            (ControllerState.bucket { s₁ with occupancy := occupancy } r.id).total := by
        intro r hr hrun
        rw [hmerged]
        exact (Nat.add_le_add_left (Nat.zero_le _) _).trans (hunder.grown r hr hrun)
      refine planRelinks_settled hids hmatch (fun r hr => hr) hgrown
        (fun p hp r hr hrun => not_running_of_onLease hids hp hr hrun) fun v hv hlease => ?_
      obtain ⟨hlisted, -⟩ := mem_plan_of_underway hunder hv fun q hq heq => by
        refine not_running_of_onLease hids₂ hlease (htarget q hq).1 (htarget q hq).2 ?_
        rw [heq]
        rfl
      exact ⟨hlisted, hlease, fun res hmem => by simp [hmerged] at hmem⟩
    · rfl
  | adoption cause' =>
    rw [RelinkPass.planned] at hunder htarget ⊢
    split
    · rename_i henabled
      rw [if_pos henabled] at hunder htarget
      refine planRelinks_settled hids hmatch (fun r hr => hr) hunder.grown
        (fun p hp r hr hrun => not_running_of_pastGuarantee hids hp hr hrun) fun v hv hpast => ?_
      obtain ⟨hlisted, hleft⟩ := mem_plan_of_underway hunder hv fun q hq heq => by
        refine not_running_of_pastGuarantee hids₂ hpast (htarget q hq).1 (htarget q hq).2 ?_
        rw [heq]
        rfl
      exact ⟨hlisted, hpast, hleft⟩
    · rfl

/-- A pass which plans nothing makes no call and changes nothing. -/
lemma relinkViews_idle {ans : ∀ q, Answer q → Prop} {cause : RelinkCause} {tr : List (Sigma Answer)}
    {c : ControllerState} (hidle : ∀ pass : RelinkPass, pass.planned config s pods now = [])
    (h : (relinkViews config pods now cause).Exec ans s tr views c) : tr = [] ∧ views = pods ∧ c = s := by
  rw [relinkViews, Prog.exec_bind] at h
  obtain ⟨tr₁, tr₂, views₁, c₁, rfl, hmerge, hadopt⟩ := h
  have hmerged : tr₁ = [] ∧ views₁ = pods ∧ c₁ = s := by
    have hplan := hidle .merge
    rw [RelinkPass.planned] at hplan
    rw [mergeOndemandIntoBookings, Prog.exec_get_bind] at hmerge
    split at hmerge
    · rename_i henabled
      rw [if_pos henabled] at hplan
      rwa [hplan] at hmerge
    · exact hmerge
  obtain ⟨rfl, rfl, rfl⟩ := hmerged
  have hplan := hidle (.adoption cause)
  rw [RelinkPass.planned] at hplan
  rw [adoptPods, Prog.exec_get_bind] at hadopt
  split at hadopt
  · rename_i henabled
    rw [if_pos henabled] at hplan
    rwa [hplan] at hadopt
  · exact hadopt

/-- Where the patches of a pass land it reaches what it is after at once: at the same moment neither planner
plans anything more, so the same pass from the views it leaves makes no call and changes nothing. -/
theorem relinks_settle (config : Config) {s s' : ControllerState} {pods pods' : List PodRuntimeView}
    {now : Instant} {cause : RelinkCause} {tr : List (Sigma Answer)} (hids : HeldOnce s)
    (hpods : (pods.map (·.uid)).Nodup) (hagree : RecordsAgree s pods)
    (h : (relinkViews config pods now cause).Exec landing s tr pods' s') :
    (∀ pass : RelinkPass, pass.planned config s' pods' now = []) ∧
      ∀ (ans : ∀ q, Answer q → Prop) cause' tr' pods'' s'',
        (relinkViews config pods' now cause').Exec ans s' tr' pods'' s'' →
          tr' = [] ∧ pods'' = pods' ∧ s'' = s' := by
  rw [relinkViews, Prog.exec_bind] at h
  obtain ⟨tr₁, tr₂, views₁, s₁, -, hmerge, hadopt⟩ := h
  obtain ⟨hunder₁, hkeeps⟩ := mergeOndemandIntoBookings_landing hids hpods hagree hmerge
  have hmerges : OnlyMerges s s₁ := by
    refine (Prog.exec_of_within ?_ ?_ (mergeOndemandIntoBookings_merges config now pods) hmerge).1
    · exact fun c => ⟨c.occupancy, c.reservations, c.pendingOndemandMergeCancels, rfl⟩
    · exact fun _ _ _ => OnlyMerges.trans
  have hmatch : SameMatching s s₁ := by
    obtain ⟨_, _, _, rfl⟩ := hmerges
    exact ⟨rfl, rfl, rfl⟩
  have hrelinks : OnlyRelinks s₁ s' := by
    refine (Prog.exec_of_within ?_ ?_ (adoptPods_relinks now config views₁ cause) hadopt).1
    · exact fun c => ⟨c.occupancy, rfl⟩
    · exact fun _ _ _ => OnlyRelinks.trans
  have hids₁ := hkeeps.heldOnce hids
  have hunder₂ := adoptPods_landing hids₁ (by rwa [hunder₁.uids]) hunder₁.agree hadopt
  have hsettled := adopted_settled hids₁ hrelinks hunder₂ (merged_settled hids hmatch hkeeps hunder₁)
  exact ⟨hsettled, fun ans cause' tr' pods'' s'' h' => relinkViews_idle hsettled h'⟩

/-- The pods are alive and every patch lands. -/
def landedAnswer : ∀ q, Answer q
  | .readPod ns name => some { uid := "pod", ns, name, gpuClass := "h100", gpuCount := 1, phase := .running }
  | .applyToleration .. => true
  | q => worldAnswer {} empty_unlocked {} q

lemma landedAnswer_landing (q : Request) : landing q (landedAnswer q) := by
  cases q with
  | readPod ns name => exact ⟨_, rfl, rfl⟩
  | applyToleration judged ns name pod key value reference => rfl
  | _ => trivial

/-- A pod on a lease and one whose booking is over, and a booking which takes them both. -/
def roomForBoth : ControllerState where
  reservations := [{ hourBooking 1 0 10 with kind := .onDemand }, { hourBooking 2 2 20 with gpuCount := 2 }]
  occupancy := Dict.ofList [(1, Dict.ofList [("pod-a", 1)]), (9, Dict.ofList [("pod-b", 1)])]

def bothPods : List PodRuntimeView := [leasePod, { leasePod with uid := "pod-b", reservationId := some 9 }]

/-- The pass which moves them both. -/
def bothMoved : List (Sigma Answer) × List PodRuntimeView × ControllerState :=
  (relinkViews {} bothPods 3 .overstay).runWith landedAnswer roomForBoth

theorem relinks_settle_bothMoved :
    bothMoved.2.1.map (·.reservationId) = [some 2, some 2] ∧
      ∀ pass : RelinkPass, pass.planned {} bothMoved.2.2 bothMoved.2.1 3 = [] :=
  ⟨by decide +kernel, (relinks_settle {} (by decide) (by decide) (by decide +kernel)
    (Prog.exec_runWith landedAnswer_landing (relinkViews {} bothPods 3 .overstay) roomForBoth)).1⟩

end Settled

end GpuReservation.Proofs
