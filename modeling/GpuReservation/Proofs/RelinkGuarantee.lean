import GpuReservation.Model.Planning
import GpuReservation.Proofs.GuaranteeChain
import Mathlib.Data.List.Chain

/-!
# What a re-link does to the guarantee of the pod it moves
-/

namespace GpuReservation.Proofs

open GpuReservation.Library GpuReservation.Model

variable (s : ControllerState)

lemma findOpenBookingFor_spec {ns label : String} {now : Instant} {gpus : Nat}
    {extra : Dict Nat Nat} {group : Option String} {res : ReservationResponse}
    (h : s.findOpenBookingFor ns label now gpus extra group = some res) :
    res ∈ s.reservations ∧ s.openBookingFor ns label now gpus extra group res :=
  List.mem_filter.mp (List.argmax_mem h)

/-- A booking a pod may be moved to. -/
structure RelinkTarget (now : Instant) (p : PodRuntimeView) (res : ReservationResponse) : Prop where
  listed : res ∈ s.reservations
  booking : res.kind = .booking
  owner : ∃ user, res.user = some user ∧ user.username = p.ns
  gpuClass : s.effectiveLabel res = some p.gpuClass
  group : s.requiredGroupLabel.isSome → ∃ g, res.group = some g ∧ p.groupLabel = some g.name
  opened : slotOpen res now
  expected : res.id ∉ s.noshowReservationIds
  room : p.gpuCount ≤ s.available res none
  other : some res.id ≠ p.reservationId

lemma groupOk_iff {r : ReservationResponse} {groupLabel : Option String} :
    s.groupOk r groupLabel ↔
      (s.requiredGroupLabel.isSome → ∃ g, r.group = some g ∧ groupLabel = some g.name) := by
  unfold ControllerState.groupOk
  cases s.requiredGroupLabel with
  | none => simp
  | some label =>
    cases r.group with
    | none => simp
    | some g => simp [eq_comm]

lemma relinkTarget_of_found {p : PodRuntimeView} {now : Instant} {extra : Dict Nat Nat}
    {res : ReservationResponse}
    (h : s.findOpenBookingFor p.ns p.gpuClass now p.gpuCount extra p.groupLabel = some res)
    (hother : some res.id ≠ p.reservationId) : RelinkTarget s now p res := by
  obtain ⟨hmem, hopen⟩ := findOpenBookingFor_spec s h
  simp only [ControllerState.openBookingFor, ControllerState.ownedBy, ControllerState.spare,
    Bool.and_eq_true, decide_eq_true_eq] at hopen
  obtain ⟨⟨⟨⟨⟨⟨hkind, howner⟩, hclass⟩, hgroup⟩, hopened⟩, hexpected⟩, hroom⟩ := hopen
  have hfits : p.gpuCount ≤ s.available res none := by
    have := of_decide_eq_true hroom
    omega
  refine ⟨hmem, hkind, ?_, hclass, (groupOk_iff s).mp hgroup, hopened, hexpected, hfits, hother⟩
  obtain ⟨user, huser, hname⟩ := (Option.any_eq_true _ _).mp howner
  exact ⟨user, huser, of_decide_eq_true hname⟩

/-- One turn of a pass adds at most one pair, and what it adds is a booking the pod may be moved
to. -/
lemma planRelink_cases (eligible : PodRuntimeView → Bool) (now : Instant)
    (acc : List (PodRuntimeView × ReservationResponse) × Dict Nat Nat) (q : PodRuntimeView) :
    s.planRelink eligible now acc q = acc ∨
      ∃ r, (s.planRelink eligible now acc q).1 = acc.1 ++ [(q, r)] ∧ ControllerState.relinkable q ∧
        eligible q ∧ RelinkTarget s now q r := by
  rw [ControllerState.planRelink]
  by_cases hcond : (ControllerState.relinkable q && eligible q) = true
  · rw [if_pos hcond]
    cases hfind : s.findOpenBookingFor q.ns q.gpuClass now q.gpuCount acc.2 q.groupLabel with
    | none => exact .inl rfl
    | some r =>
      by_cases hid : some r.id = q.reservationId
      · simp [hid]
      · rw [Bool.and_eq_true] at hcond
        exact .inr ⟨r, by simp [hid], hcond.1, hcond.2, relinkTarget_of_found s hfind hid⟩
  · exact .inl (if_neg hcond)

/-- What the turns of a pass add to a plan. -/
lemma foldl_planRelink_cases {eligible : PodRuntimeView → Bool} {pods : List PodRuntimeView}
    {now : Instant} {p : PodRuntimeView} {res : ReservationResponse}
    {acc : List (PodRuntimeView × ReservationResponse) × Dict Nat Nat}
    (h : (p, res) ∈ (pods.foldl (s.planRelink eligible now) acc).1) :
    (p, res) ∈ acc.1 ∨
      p ∈ pods ∧ ControllerState.relinkable p ∧ eligible p ∧ RelinkTarget s now p res := by
  induction pods generalizing acc with
  | nil => exact .inl h
  | cons q pods ih =>
    rw [List.foldl_cons] at h
    rcases ih h with hq | ⟨hmem, hadded⟩
    · rcases planRelink_cases s eligible now acc q with heq | ⟨r, heq, hadded⟩
      · exact .inl (heq ▸ hq)
      · rw [heq, List.mem_append, List.mem_singleton] at hq
        rcases hq with hq | hq
        · exact .inl hq
        · obtain ⟨rfl, rfl⟩ := Prod.mk.inj hq
          exact .inr ⟨List.mem_cons_self, hadded⟩
    · exact .inr ⟨List.mem_cons_of_mem q hmem, hadded⟩

/-- Everything a planning pass puts into its plan. -/
lemma mem_planRelinks {eligible : PodRuntimeView → Bool} {pods : List PodRuntimeView}
    {now : Instant} {p : PodRuntimeView} {res : ReservationResponse}
    (h : (p, res) ∈ s.planRelinks eligible pods now) :
    p ∈ pods ∧ ControllerState.relinkable p ∧ eligible p ∧ RelinkTarget s now p res :=
  (foldl_planRelink_cases s h).resolve_left List.not_mem_nil

/-- The guarantee of an open booking is running. -/
lemma lt_computeGuaranteedUntil {res : ReservationResponse} {now : Instant}
    (h : slotOpen res now) : now < s.computeGuaranteedUntil now res := by
  obtain ⟨w, hw, hend⟩ := exists_runEnd_eq slotEnd res (s.chainFor res now)
  rw [ControllerState.computeGuaranteedUntil, hend]
  rcases List.mem_cons.mp hw with rfl | hw
  · exact h.2
  · exact (mem_chainFor s hw).2

/-- A pair of a plan keeps the guarantee the pod had. -/
def keepsGuarantee (now : Instant) (pair : PodRuntimeView × ReservationResponse) : Prop :=
  ∀ e, s.guaranteeEnd pair.1.reservationId now = some e → e ≤ s.computeGuaranteedUntil now pair.2

/-- An adoption moves a pod whose guarantee is over to a booking whose guarantee is running. -/
lemma planPodAdoptions_keepsGuarantee {pods : List PodRuntimeView} {now : Instant}
    {pair : PodRuntimeView × ReservationResponse} (h : pair ∈ s.planPodAdoptions pods now) :
    keepsGuarantee s now pair := by
  obtain ⟨-, -, hpast, htarget⟩ := mem_planRelinks s h
  have hopen := htarget.opened
  intro e he
  have hle : e ≤ now := by simpa [ControllerState.pastGuarantee, he] using hpast
  exact hle.trans (lt_computeGuaranteedUntil s hopen).le

/-- A pod on a lease, and an open booking of its owner with room for it. -/
structure MayMerge (now : Instant) (p : PodRuntimeView) (lease booking : ReservationResponse) :
    Prop where
  relinkable : ControllerState.relinkable p
  runsUnder : p.reservationId.bind (findReservation s.reservations) = some lease
  leased : lease.kind = .onDemand
  target : RelinkTarget s now p booking

/-- Wherever the booking or one chained to it ends while the lease or one chained to that has time
left, another booking which may be chained to the booking starts. -/
def FollowedOn (now : Instant) (lease booking : ReservationResponse) : Prop :=
  ∀ l₁ v l₂, guaranteeRun s booking now = l₁ ++ v :: l₂ →
    (∃ w ∈ guaranteeRun s lease now, slotEnd v < slotEnd w) →
      ∃ q, Qualifies s booking now q ∧ slotStart q = slotEnd v ∧ q.id ∉ (l₁ ++ [v]).map (·.id)

def runsForward (run : List ReservationResponse) : Prop := ∀ w ∈ run, slotStart w ≤ slotEnd w

instance (run : List ReservationResponse) : Decidable (runsForward run) :=
  inferInstanceAs (Decidable (∀ w ∈ run, slotStart w ≤ slotEnd w))

lemma MayMerge.guaranteeEnd_eq {s : ControllerState} {now : Instant} {p : PodRuntimeView}
    {lease booking : ReservationResponse} (h : MayMerge s now p lease booking) :
    s.guaranteeEnd p.reservationId now = some (s.computeGuaranteedUntil now lease) := by
  obtain ⟨id, hid, hfind⟩ := Option.bind_eq_some_iff.mp h.runsUnder
  simp [ControllerState.guaranteeEnd, hid, hfind]

/-- A run ends where its last window does. -/
lemma guaranteeRun_last (res : ReservationResponse) (now : Instant) :
    ∃ l v, guaranteeRun s res now = l ++ [v] ∧ slotEnd v = s.computeGuaranteedUntil now res := by
  rcases List.eq_nil_or_concat (s.chainFor res now) with hnil | ⟨l, v, hlast⟩
  · exact ⟨[], res, by simp [guaranteeRun, hnil], by simp [ControllerState.computeGuaranteedUntil, hnil]⟩
  · exact ⟨res :: l, v, by simp [guaranteeRun, hlast],
      by simp [ControllerState.computeGuaranteedUntil, hlast, runEnd]⟩

lemma computeGuaranteedUntil_le_of_followedOn {now : Instant} {lease booking : ReservationResponse}
    (h : FollowedOn s now lease booking) :
    s.computeGuaranteedUntil now lease ≤ s.computeGuaranteedUntil now booking := by
  by_contra hshort
  obtain ⟨l, v, hrun, hend⟩ := guaranteeRun_last s booking now
  obtain ⟨k, w, hlease, hlast⟩ := guaranteeRun_last s lease now
  have hleft : ∃ w ∈ guaranteeRun s lease now, slotEnd v < slotEnd w := by
    refine ⟨w, by simp [hlease], ?_⟩
    rw [hend, hlast]
    exact not_le.mp hshort
  obtain ⟨q, hq, hstart, hnew⟩ := h l v [] hrun hleft
  have hin := (chainFor_followsLongest s booking now).stuck q hq (hstart.trans hend)
  rw [← hrun, guaranteeRun, List.map_cons, List.mem_cons, not_or] at hnew
  exact hnew.2 hin

/-- The window after `v` in a run is one which qualifies, starts as `v` ends and is new. -/
lemma exists_next_of_guaranteeRun {now : Instant} {res v q : ReservationResponse}
    {l₁ l₂ : List ReservationResponse} (h : guaranteeRun s res now = l₁ ++ v :: q :: l₂) :
    Qualifies s res now q ∧ slotStart q = slotEnd v ∧ q.id ∉ (l₁ ++ [v]).map (·.id) := by
  have hfollows := chainFor_followsLongest s res now
  have habut := guaranteeRun_abut s res now
  rw [h, Abut, List.isChain_iff_forall_rel_of_append_cons_cons] at habut
  have hadjacent : slotStart q = slotEnd v := habut rfl
  have hq : q ∈ s.chainFor res now := by
    cases l₁ with
    | nil => exact (List.cons.inj h).2 ▸ List.mem_cons_self
    | cons a l₁ => simp [(List.cons.inj h).2]
  have hids : ((guaranteeRun s res now).map (·.id)).Nodup := by
    refine List.nodup_cons.mpr ⟨fun hin => ?_, hfollows.once⟩
    obtain ⟨r, hr, hid⟩ := List.mem_map.mp hin
    exact (hfollows.chain.qualify r hr).other hid
  refine ⟨hfollows.chain.qualify q hq, hadjacent, fun hin => ?_⟩
  rw [h, show l₁ ++ v :: q :: l₂ = (l₁ ++ [v]) ++ q :: l₂ by simp, List.map_append,
    List.map_cons] at hids
  exact (List.nodup_append.mp hids).2.2 _ hin _ List.mem_cons_self rfl

lemma followedOn_of_le {now : Instant} {lease booking : ReservationResponse}
    (hforward : runsForward (guaranteeRun s lease now))
    (h : s.computeGuaranteedUntil now lease ≤ s.computeGuaranteedUntil now booking) :
    FollowedOn s now lease booking := by
  intro l₁ v l₂ hrun ⟨w, hw, hleft⟩
  cases l₂ with
  | nil =>
    -- the last window of the booking's run would end before the lease's guarantee
    obtain ⟨l, v', hlast, hend⟩ := guaranteeRun_last s booking now
    obtain ⟨-, hv⟩ := List.append_inj' (hlast.symm.trans hrun) rfl
    rw [List.singleton_inj] at hv
    have hle : slotEnd w ≤ s.computeGuaranteedUntil now lease :=
      stop_le_runEnd (guaranteeRun_abut s lease now) hforward w hw
    rw [← hv, hend] at hleft
    exact absurd (hleft.trans_le (hle.trans h)) (lt_irrefl _)
  | cons q l₂ => exact ⟨q, exists_next_of_guaranteeRun s hrun⟩

/-- The pairs one tick's merge pass and its adoption pass plan from a list of pods. -/
def plannedRelinks (pods : List PodRuntimeView) (now : Instant) :
    List (PodRuntimeView × ReservationResponse) :=
  s.planOndemandMerges pods now ++ s.planPodAdoptions pods now

lemma mayMerge_of_planned {pods : List PodRuntimeView} {now : Instant} {p : PodRuntimeView}
    {booking : ReservationResponse} (h : (p, booking) ∈ s.planOndemandMerges pods now) :
    ∃ lease, MayMerge s now p lease booking := by
  obtain ⟨-, hrelinkable, hlease, htarget⟩ := mem_planRelinks s h
  obtain ⟨lease, hfind, hkind⟩ := (Option.any_eq_true _ _).mp hlease
  exact ⟨lease, hrelinkable, hfind, of_decide_eq_true hkind, htarget⟩

section AnyBookingIsPlanned

variable {s} {now : Instant} {p : PodRuntimeView} {lease booking : ReservationResponse}

/-- The open bookings with room for the pod, net of what a pass has assigned. -/
def openBookings (s : ControllerState) (now : Instant) (p : PodRuntimeView)
    (extra : Dict Nat Nat) : List ReservationResponse :=
  s.reservations.filter (s.openBookingFor p.ns p.gpuClass now p.gpuCount extra p.groupLabel)

lemma MayMerge.mem_openBookings (h : MayMerge s now p lease booking) {extra : Dict Nat Nat}
    (hextra : (extra.get? booking.id).getD 0 = 0) : booking ∈ openBookings s now p extra := by
  obtain ⟨user, huser, hname⟩ := h.target.owner
  have hroom := h.target.room
  simp only [openBookings, ControllerState.openBookingFor, ControllerState.ownedBy,
    ControllerState.spare, hextra, huser, List.mem_filter, Bool.and_eq_true, decide_eq_true_eq]
  refine ⟨h.target.listed, ⟨⟨⟨⟨⟨⟨h.target.booking, by simpa using hname⟩, h.target.gpuClass⟩,
    (groupOk_iff s).mpr h.target.group⟩, h.target.opened⟩, h.target.expected⟩, by simpa using hroom⟩⟩

/-- A pod which takes all the room the first choice `c` has left. -/
def filling (s : ControllerState) (p : PodRuntimeView) (extra : Dict Nat Nat)
    (c : ReservationResponse) : PodRuntimeView :=
  { p with gpuCount := (s.spare extra c).toNat }

lemma id_injOn (hids : (s.reservations.map (·.id)).Nodup) {a b : ReservationResponse}
    (ha : a ∈ s.reservations) (hb : b ∈ s.reservations) (h : a.id = b.id) : a = b :=
  List.inj_on_of_nodup_map hids ha hb h

lemma spare_le_of_mem {extra : Dict Nat Nat} {c : ReservationResponse}
    (hc : c ∈ openBookings s now p extra) : (p.gpuCount : Int) ≤ s.spare extra c := by
  simp only [openBookings, ControllerState.openBookingFor, List.mem_filter, Bool.and_eq_true,
    decide_eq_true_eq] at hc
  exact hc.2.2

/-- Asked for all the room its first choice has, a pass chooses the same booking. -/
lemma findOpenBookingFor_filling (hids : (s.reservations.map (·.id)).Nodup) {extra : Dict Nat Nat}
    {c : ReservationResponse}
    (hc : s.findOpenBookingFor p.ns p.gpuClass now p.gpuCount extra p.groupLabel = some c) :
    s.findOpenBookingFor p.ns p.gpuClass now (s.spare extra c).toNat extra p.groupLabel =
      some c := by
  obtain ⟨hmem, hopen⟩ := findOpenBookingFor_spec s hc
  have hspare : (p.gpuCount : Int) ≤ s.spare extra c :=
    spare_le_of_mem (List.mem_filter.mpr ⟨hmem, hopen⟩)
  have hin : c ∈ openBookings s now (filling s p extra c) extra := by
    simp only [openBookings, filling, ControllerState.openBookingFor, List.mem_filter,
      Bool.and_eq_true, decide_eq_true_eq] at hopen ⊢
    exact ⟨hmem, hopen.1, by omega⟩
  cases hfind : s.findOpenBookingFor p.ns p.gpuClass now (s.spare extra c).toNat extra
      p.groupLabel with
  | none =>
    rw [ControllerState.findOpenBookingFor, List.argmax_eq_none] at hfind
    rw [openBookings, filling, hfind] at hin
    exact absurd hin List.not_mem_nil
  | some d =>
    obtain ⟨hd, hdopen⟩ := findOpenBookingFor_spec s hfind
    have hdin : d ∈ openBookings s now p extra := by
      simp only [openBookings, ControllerState.openBookingFor, List.mem_filter, Bool.and_eq_true,
        decide_eq_true_eq] at hdopen ⊢
      exact ⟨hd, hdopen.1, by omega⟩
    have hle := List.le_of_mem_argmax hdin hc
    have hge := List.le_of_mem_argmax hin hfind
    have hkeys := le_antisymm hle hge
    have hid : d.id = c.id := congrArg (fun k => (ofLex (ofLex k).2).2) hkeys
    rw [id_injOn hids hd hmem hid]

/-- Once all the room of a booking is assigned, the pod's open bookings are the others. -/
lemma openBookings_set (hids : (s.reservations.map (·.id)).Nodup) (hgpus : 0 < p.gpuCount)
    {extra : Dict Nat Nat} {c : ReservationResponse} (hc : c ∈ s.reservations)
    (hspare : (p.gpuCount : Int) ≤ s.spare extra c) :
    openBookings s now p
        (extra.set c.id ((extra.get? c.id).getD 0 + (s.spare extra c).toNat)) =
      (openBookings s now p extra).filter fun r => r.id ≠ c.id := by
  rw [openBookings, openBookings, List.filter_filter]
  refine List.filter_congr fun r hr => ?_
  by_cases hid : r.id = c.id
  · obtain rfl := id_injOn hids hr hc hid
    simp only [ControllerState.openBookingFor, ControllerState.spare, Dict.get?_set_self] at hspare ⊢
    rw [Bool.eq_iff_iff]
    simp only [Option.getD_some, Bool.and_eq_true, decide_eq_true_eq, ne_eq, not_true_eq_false,
      decide_false, Bool.false_and, iff_false, Bool.false_eq_true]
    rintro ⟨-, hroom⟩
    omega
  · have hsame : s.spare
        (extra.set c.id ((extra.get? c.id).getD 0 + (s.spare extra c).toNat)) r = s.spare extra r := by
      simp only [ControllerState.spare, Dict.get?_set_of_ne _ _ hid]
    rw [ControllerState.openBookingFor, ControllerState.openBookingFor, hsame]
    simp [hid]

/-- What is chosen is a booking, so not the lease the pod is on. -/
lemma MayMerge.ne_chosen (hids : (s.reservations.map (·.id)).Nodup) (h : MayMerge s now p lease booking)
    {extra : Dict Nat Nat} {c : ReservationResponse}
    (hfind : s.findOpenBookingFor p.ns p.gpuClass now p.gpuCount extra p.groupLabel = some c) :
    some c.id ≠ p.reservationId := by
  obtain ⟨hc, hopen⟩ := findOpenBookingFor_spec s hfind
  simp only [ControllerState.openBookingFor, Bool.and_eq_true, decide_eq_true_eq] at hopen
  intro hid
  have hlease : findReservation s.reservations c.id = some lease := by
    rw [← h.runsUnder, ← hid, Option.bind_some]
  obtain ⟨hmem, heq⟩ := findReservation_mem hlease
  have hkind := h.leased
  rw [id_injOn hids hmem hc heq, hopen.1.1.1.1.1.1] at hkind
  exact absurd hkind (by decide)

lemma MayMerge.onLease (h : MayMerge s now p lease booking) : s.onLease p := by
  simp [ControllerState.onLease, h.runsUnder, h.leased]

/-- The pod with room for it that its first choice has left is planned for that choice. -/
lemma MayMerge.planRelink_filling (hids : (s.reservations.map (·.id)).Nodup)
    (h : MayMerge s now p lease booking) {acc : List (PodRuntimeView × ReservationResponse) × Dict Nat Nat}
    {c : ReservationResponse}
    (hfind : s.findOpenBookingFor p.ns p.gpuClass now p.gpuCount acc.2 p.groupLabel = some c) :
    s.planRelink s.onLease now acc (filling s p acc.2 c) =
      (acc.1 ++ [(filling s p acc.2 c, c)],
        acc.2.set c.id ((acc.2.get? c.id).getD 0 + (s.spare acc.2 c).toNat)) := by
  have hspare := spare_le_of_mem (List.mem_filter.mpr (findOpenBookingFor_spec s hfind))
  have hrelinkable : ControllerState.relinkable (filling s p acc.2 c) := by
    have := h.relinkable
    simp only [ControllerState.relinkable, filling, Bool.and_eq_true, decide_eq_true_eq] at this ⊢
    refine ⟨this.1, ?_⟩
    change decide (0 < (s.spare acc.2 c).toNat) = true
    exact decide_eq_true (by omega)
  have hon : s.onLease (filling s p acc.2 c) := h.onLease
  rw [ControllerState.planRelink, hrelinkable, hon]
  simp [filling, findOpenBookingFor_filling hids hfind, h.ne_chosen hids hfind]

/-- Every booking a pod may be merged into is planned for it behind some other pods: those which
use up the bookings that would be chosen before it. -/
lemma exists_pods_planned (hids : (s.reservations.map (·.id)).Nodup)
    (h : MayMerge s now p lease booking) : ∃ pods, (p, booking) ∈ s.planOndemandMerges pods now := by
  have hgpus : 0 < p.gpuCount := by
    have := h.relinkable
    simp only [ControllerState.relinkable, Bool.and_eq_true, decide_eq_true_eq] at this
    exact this.2
  suffices hrun : ∀ n acc, (openBookings s now p acc.2).length = n →
      (acc.2.get? booking.id).getD 0 = 0 →
        ∃ pods : List PodRuntimeView, (p, booking) ∈ (pods.foldl (s.planRelink s.onLease now) acc).1
    from hrun _ ([], ∅) rfl rfl
  -- each round takes the first choice out of the way, until the booking is the first choice
  intro n
  induction n using Nat.strong_induction_on with
  | _ n ih =>
    intro acc hn hextra
    have hbooking := h.mem_openBookings hextra
    cases hfind : s.findOpenBookingFor p.ns p.gpuClass now p.gpuCount acc.2 p.groupLabel with
    | none =>
      rw [ControllerState.findOpenBookingFor, List.argmax_eq_none] at hfind
      rw [openBookings, hfind] at hbooking
      exact absurd hbooking List.not_mem_nil
    | some c =>
      by_cases hcb : c = booking
      · subst hcb
        refine ⟨[p], ?_⟩
        simp [ControllerState.planRelink, h.relinkable, h.onLease, hfind, h.target.other]
      · obtain ⟨hc, hopen⟩ := findOpenBookingFor_spec s hfind
        have hcin : c ∈ openBookings s now p acc.2 := List.mem_filter.mpr ⟨hc, hopen⟩
        have hne : booking.id ≠ c.id := fun hid =>
          hcb (id_injOn hids hc h.target.listed hid.symm)
        have hrest : openBookings s now p (acc.2.set c.id ((acc.2.get? c.id).getD 0 + (s.spare acc.2 c).toNat)) =
            (openBookings s now p acc.2).filter fun r => r.id ≠ c.id :=
          openBookings_set hids hgpus hc (spare_le_of_mem hcin)
        obtain ⟨pods, hpods⟩ := ih _ (by
            rw [← hn, hrest]
            exact List.length_filter_lt_length_iff_exists.mpr ⟨c, hcin, by simp⟩)
          (acc.1 ++ [(filling s p acc.2 c, c)],
            acc.2.set c.id ((acc.2.get? c.id).getD 0 + (s.spare acc.2 c).toNat)) rfl
          (by simpa [Dict.get?_set_of_ne _ _ hne] using hextra)
        refine ⟨filling s p acc.2 c :: pods, ?_⟩
        rwa [List.foldl_cons, h.planRelink_filling hids hfind]

end AnyBookingIsPlanned

/-- A lease until 10, and a booking of the same user which opened at 2 and ends at 5. -/
def leaseOutlastsBooking : ControllerState where
  reservations := [{ hourBooking 1 0 10 with kind := .onDemand }, hourBooking 2 2 5]

def leasePod : PodRuntimeView where
  uid := "pod-a"
  ns := "alice"
  name := "train"
  gpuClass := "h100"
  gpuCount := 1
  reservationId := some 1
  nodeResident := true
  terminating := false

/-- The same with a booking that lasts until 20. -/
def bookingOutlastsLease : ControllerState where
  reservations := [{ hourBooking 1 0 10 with kind := .onDemand }, hourBooking 2 2 20]

lemma bookingOutlastsLease_followedOn {p : PodRuntimeView} {lease booking : ReservationResponse}
    (h : MayMerge bookingOutlastsLease 3 p lease booking) :
    FollowedOn bookingOutlastsLease 3 lease booking := by
  have hlease : lease ∈ bookingOutlastsLease.reservations := by
    obtain ⟨id, -, hfind⟩ := Option.bind_eq_some_iff.mp h.runsUnder
    exact (findReservation_mem hfind).1
  have hbooking := h.target.listed
  simp only [bookingOutlastsLease, List.mem_cons, List.not_mem_nil, or_false] at hlease hbooking
  obtain rfl : lease = { hourBooking 1 0 10 with kind := .onDemand } :=
    hlease.resolve_right fun heq => absurd (heq ▸ h.leased) (by decide)
  obtain rfl : booking = hourBooking 2 2 20 :=
    hbooking.resolve_left fun heq => absurd (heq ▸ h.target.booking) (by decide)
  exact followedOn_of_le _ (by decide) (by decide)

end GpuReservation.Proofs
