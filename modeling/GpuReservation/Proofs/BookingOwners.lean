import GpuReservation.Library.Amid
import GpuReservation.Model.QueueTick
import GpuReservation.Proofs.Footprints
import GpuReservation.Proofs.NoShowQueue
import GpuReservation.Proofs.RelinkGuarantee
import GpuReservation.Proofs.UniqueReservations

/-!
# Whose bookings the pods are admitted under

The runs of the changes of the reservations and of the queue, with the admissions under way: a pod is
matched to a booking when it is queued, and its toleration is patched later.
-/

namespace GpuReservation.Proofs

open GpuReservation.Library GpuReservation.Model

/-- A pod to be admitted, by what a reservation is matched on, and the reservation as the queue entry
or the plan has it. -/
structure Admittee where
  ns : String
  gpuClass : String
  group : Option String
  reservation : ReservationResponse
  deriving DecidableEq

def entryAdmittee (e : QueueEntry) : Admittee :=
  ⟨e.podNamespace, e.gpuClassLabel, e.groupLabel, e.reservation⟩

def relinkAdmittee (planned : PodRuntimeView × ReservationResponse) : Admittee :=
  ⟨planned.1.ns, planned.1.gpuClass, planned.1.groupLabel, planned.2⟩

/-- The reservation is the pod owner's, and of the pod's class and group. -/
structure OwnedFor (s : ControllerState) (r : ReservationResponse) (a : Admittee) : Prop where
  owner : ControllerState.ownedBy r a.ns
  gpuClass : s.effectiveLabel r = some a.gpuClass
  group : s.groupOk r a.group

instance (s : ControllerState) (r : ReservationResponse) (a : Admittee) :
    Decidable (OwnedFor s r a) :=
  decidable_of_iff (ControllerState.ownedBy r a.ns ∧ s.effectiveLabel r = some a.gpuClass ∧
    s.groupOk r a.group) ⟨fun ⟨h₁, h₂, h₃⟩ => ⟨h₁, h₂, h₃⟩, fun h => ⟨h.1, h.2, h.3⟩⟩

/-- Whatever is held under the id of its reservation is the pod owner's. -/
def HeldFor (s : ControllerState) (a : Admittee) : Prop :=
  ∀ r ∈ s.reservations, r.id = a.reservation.id → OwnedFor s r a

instance (s : ControllerState) (a : Admittee) : Decidable (HeldFor s a) :=
  inferInstanceAs (Decidable (∀ r ∈ s.reservations, r.id = a.reservation.id → OwnedFor s r a))

/-- The pod's reservation is its owner's, whether or not it is still held; and so is what is held. -/
structure RightFor (s : ControllerState) (a : Admittee) : Prop where
  own : OwnedFor s a.reservation a
  held : HeldFor s a

/-- What is patched is a toleration for the pod's class, with a reference to the reservation. -/
def Request.patchesFor (a : Admittee) : Request → Prop
  | .applyToleration _ ns _ _ _ tolValue bookingReference =>
    ns = a.ns ∧ tolValue = a.gpuClass ∧ bookingReference = a.reservation.id
  | _ => True

section Patches

variable {ans : ∀ q, Answer q → Prop} {s s' : ControllerState}
  {log : List (Await ControllerState Answer)}

lemma stamps_patchesFor (a : Admittee) {q : Request} (h : Request.stamps q) :
    Request.patchesFor a q := by
  cases q with
  | applyToleration judged ns name pod tolKey tolValue bookingReference => exact h.elim
  | _ => trivial

lemma patchFreshPod_patches (uid : Uid) (ref : Ref) (gateName : Option String) (e : QueueEntry)
    (pod : Pod) : (patchFreshPod uid ref gateName e pod).Within (fun _ _ => True)
      (Request.patchesFor (entryAdmittee e)) fun _ => True := by
  have hstamps : ∀ {p : Ctl Bool} {post : Bool → Prop},
      p.Within (fun _ _ => True) Request.stamps post →
        p.Within (fun _ _ => True) (Request.patchesFor (entryAdmittee e)) fun _ => True :=
    fun h => h.mono (fun _ _ hk => hk) (fun _ => stamps_patchesFor _) fun _ _ => trivial
  rw [patchFreshPod]
  split
  · exact .seq (.modify fun _ => trivial) fun _ => .pure trivial
  · split
    · exact hstamps (concludeAdmission_within ref (fun _ _ _ _ => trivial) pod)
    · refine .seq (.ask ⟨rfl, rfl, rfl⟩) fun landed => ?_
      split
      · exact hstamps (stampAdmission_within ref (fun _ _ _ _ => trivial) (fun _ => trivial) pod
          gateName)
      · exact hstamps (rollBack_within (fun _ _ => trivial) fun _ => trivial)

/-- Whatever happens while its pod is read and patched, an attempt patches for the entry it found. -/
lemma tryApplyToleration_patches {uid : Uid} {ref : Ref} {gateName : Option String} {done : Bool}
    (h : (tryApplyToleration uid ref gateName).Amid yields ans s log done s') :
    ∀ e ∈ log, Request.patchesFor (entryAdmittee (s.entry ref)) e.call.1 := by
  have hcalls := (Prog.amid_get_bind _).mp h
  dsimp only at hcalls
  refine Prog.amid_calls (?_ : Prog.Within (fun _ _ => True)
    (Request.patchesFor (entryAdmittee (s.entry ref))) (fun _ => True) _) hcalls
  split
  · have hpostponed : (postponeEntry ref).Within (fun _ _ => True) Request.stamps fun _ => True :=
      postponeEntry_within fun _ _ => trivial
    exact .seq (hpostponed.mono (fun _ _ hk => hk) (fun _ => stamps_patchesFor _) fun _ _ => trivial)
      fun _ => .pure trivial
  · refine .seq (.modify fun _ => trivial) fun _ => .seq (.ask trivial) fun freshPod => ?_
    cases freshPod with
    | none =>
      have hback : (rollBack uid ref).Within (fun _ _ => True) Request.stamps fun _ => True :=
        rollBack_within (fun _ _ => trivial) fun _ => trivial
      exact hback.mono (fun _ _ hk => hk) (fun _ => stamps_patchesFor _) fun _ _ => trivial
    | some pod => exact patchFreshPod_patches uid ref gateName (s.entry ref) pod

/-- A re-link patches as it was planned. -/
lemma relinkPod_patches {planned : PodRuntimeView × ReservationResponse} {now : Instant}
    {cause : RelinkCause} {landed : Bool}
    (h : (relinkPod planned.1 planned.2 now cause).Amid yields ans s log landed s') :
    ∀ e ∈ log, Request.patchesFor (relinkAdmittee planned) e.call.1 := by
  refine Prog.amid_calls (?_ : Prog.Within (fun _ _ => True)
    (Request.patchesFor (relinkAdmittee planned)) (fun _ => True) _) h
  refine .seq (.ask trivial) fun freshPod => ?_
  cases freshPod with
  | none => exact .pure trivial
  | some pod =>
    dsimp only
    split
    · exact .pure trivial
    · refine .seq (.ask ⟨rfl, rfl, rfl⟩) fun landed => ?_
      split
      · have hstamped := fun guaranteedUntil => (recordGuarantee_stamps pod.uid planned.1.ns
          planned.1.name guaranteedUntil planned.2 false).mono (fun _ _ (_ : True) => trivial)
            (fun _ => stamps_patchesFor (relinkAdmittee planned)) fun _ _ => trivial
        exact .seq (.seq (.modify fun _ => trivial) fun _ => .seq (.get fun _ => trivial) fun s =>
          .seq (hstamped _) fun _ => .seq (.ask trivial) fun _ => .pure trivial) fun _ => .pure trivial
      · exact .pure trivial

end Patches

/-- The state of the controller, with the admissions under way: the entries whose pods are being read
or patched, and the re-links planned under the reservation lock and not made yet. -/
structure Admissions where
  state : ControllerState := {}
  attempts : List Ref := []
  relinks : List (PodRuntimeView × ReservationResponse) := []

/-- How a booking is found for a pod: a matching one, whenever it opens, or one with room which opens
within a horizon. -/
inductive Search
  | best
  | admittable (horizon : Int)

def Search.find (s : ControllerState) (ns gpuClassLabel : String) (gpus : Nat)
    (group : Option String) (now : Instant) : Search → Option ReservationResponse
  | .best => s.findBestReservation ns gpuClassLabel group (some gpus) now
  | .admittable horizon => s.findAdmittableReservation ns gpuClassLabel gpus now horizon group

/-- A change which brings no reservation in, puts no pod on the queue, and leaves the entries the
reservations they have. -/
structure AddsNothing (s s' : ControllerState) : Prop where
  reservations : s'.reservations ⊆ s.reservations
  labels : s'.gpuClassLabels = s.gpuClassLabels
  required : s'.requiredGroupLabel = s.requiredGroupLabel
  made : s.entries.next ≤ s'.entries.next
  queue : ∀ uid ref, s'.taskQueue.get? uid = some ref → s.taskQueue.get? uid = some ref
  entries : ∀ ref < s.entries.next, entryAdmittee (s'.entry ref) = entryAdmittee (s.entry ref)

inductive AdmissionOp
  /-- A fetch or a push replaces the reservations and the class maps, under the reservation lock. -/
  | install (active : List ReservationResponse) (maps : GpuClassMaps) (now : Instant)
  /-- A granted lease is added, under the lock too, and its pod is tried at once. -/
  | lease (uid : Uid) (e : QueueEntry)
  /-- The watch, the tick or an admission pass queues a pod for a booking it has just found. -/
  | enqueue (search : Search) (uid : Uid) (name ns gpuClassLabel : String) (gpus : Nat)
      (group : Option String) (foundAt enqueuedAt : Instant)
  /-- `_try_apply_toleration` begins, in the window of the booking. -/
  | attempt (uid : Uid) (now : Instant)
  /-- The pod of an attempt under way is patched. -/
  | patch (i : Nat)
  /-- An attempt ends without a patch. -/
  | giveUp (i : Nat)
  /-- A pass takes the reservation lock and plans its re-links. -/
  | plan (merge : Bool) (pods : List PodRuntimeView) (now : Instant)
  /-- The next pod of the pass is patched. -/
  | relink
  /-- The next pod of the pass is gone. -/
  | passOver
  /-- Whatever else the tasks do: reservations are cancelled, pods leave the queue, attempts are put
  off, places are recorded. -/
  | other (change : { f : ControllerState → ControllerState // ∀ s, AddsNothing s (f s) })

namespace Admissions

variable (f : Admissions)

/-- An attempt records the place of its pod before it awaits anything. -/
def tryEntry (uid : Uid) (ref : Ref) : Admissions :=
  let e := f.state.entry ref
  if f.state.available e.reservation (some uid) < e.gpuRequested then f
  else { f with state := f.state.reserveFor uid e, attempts := f.attempts ++ [ref] }

/-- What an entry is awaited for: its pod is queued by it, or being admitted by it. -/
def Awaits (ref : Ref) : Prop :=
  (∃ uid, f.state.taskQueue.get? uid = some ref) ∨ ref ∈ f.attempts

/-- Every pod which waits for a reservation, or is being admitted under one. -/
def admittees : List Admittee :=
  ((f.state.taskQueue.values ++ f.attempts).map fun ref => entryAdmittee (f.state.entry ref)) ++
    f.relinks.map relinkAdmittee

end Admissions

namespace AdmissionOp

def apply (f : Admissions) : AdmissionOp → Admissions
  | .install active maps now =>
    if f.relinks = [] then { f with state := f.state.installReservations active maps now } else f
  | .lease uid e =>
    if f.relinks = [] then
      { f with state := f.state.upsertLease e.reservation e }.tryEntry uid f.state.entries.next
    else f
  | .enqueue search uid name ns gpuClassLabel gpus group foundAt enqueuedAt =>
    match search.find f.state ns gpuClassLabel gpus group foundAt with
    | none => f
    | some r =>
      { f with
        state := f.state.enqueuePod uid name ns gpuClassLabel gpus group r enqueuedAt }
  | .attempt uid now =>
    match f.state.taskQueue.get? uid with
    | none => f
    | some ref =>
      let r := (f.state.entry ref).reservation
      if slotEnd r < now ∨ now < slotStart r then f else f.tryEntry uid ref
  | .patch i => { f with attempts := f.attempts.eraseIdx i }
  | .giveUp i => { f with attempts := f.attempts.eraseIdx i }
  | .plan merge pods now =>
    if f.relinks = [] then
      { f with
        relinks := if merge then f.state.planOndemandMerges pods now
          else f.state.planPodAdoptions pods now }
    else f
  | .relink => { f with relinks := f.relinks.tail }
  | .passOver => { f with relinks := f.relinks.tail }
  | .other change => { f with state := change.1 f.state }

/-- Whose toleration the operation patches, and under which reservation: the one which the entry has
by then, or which was planned. -/
def patches (f : Admissions) : AdmissionOp → Option Admittee
  | .patch i => f.attempts[i]?.map fun ref => entryAdmittee (f.state.entry ref)
  | .relink => f.relinks.head?.map relinkAdmittee
  | _ => none

end AdmissionOp

/-- A toleration is patched under a reservation of the pod's owner, of its class and its group. -/
def patchesOwned (f : Admissions) (op : AdmissionOp) : Prop :=
  ∀ a, op.patches f = some a → RightFor f.state a

/-- The reservations are replaced, and the class labels; the queue does not follow yet. -/
def bringIn (s : ControllerState) (reservations : List ReservationResponse)
    (labels : Dict Nat String) : ControllerState :=
  { s with reservations := reservations, gpuClassLabels := labels }

/-- The reservations held under one id are one owner's, of one class and one group. -/
def OneOwner (s : ControllerState) : Prop :=
  ∀ r ∈ s.reservations, ∀ r' ∈ s.reservations, r.id = r'.id →
    r.user = r'.user ∧ s.effectiveLabel r = s.effectiveLabel r' ∧ r.group = r'.group

instance : DecidablePred OneOwner := fun s =>
  inferInstanceAs (Decidable (∀ r ∈ s.reservations, ∀ r' ∈ s.reservations, r.id = r'.id → _))

/-- The reservations are brought in under one owner each, and where a pod waits for one, or is being
admitted under it, under the pod's owner, class and group; the class it waits for keeps its label. -/
def ownersKept (f : Admissions) (reservations : List ReservationResponse) (labels : Dict Nat String) :
    Prop :=
  OneOwner (bringIn f.state reservations labels) ∧
    ∀ a ∈ f.admittees, HeldFor (bringIn f.state reservations labels) a ∧
      (bringIn f.state reservations labels).effectiveLabel a.reservation = some a.gpuClass

instance (f : Admissions) (reservations : List ReservationResponse) (labels : Dict Nat String) :
    Decidable (ownersKept f reservations labels) := inferInstanceAs (Decidable (_ ∧ _))

/-- What a fetch or a push brings in keeps the owners, and so does a lease, which is granted to the
owner, the class and the group it was asked for. -/
def keepsOwners (f : Admissions) : AdmissionOp → Prop
  | .install active maps _ => f.relinks = [] → ownersKept f active maps.labels
  | .lease _ e => f.relinks = [] →
      ownersKept f (applyPushToActive f.state.reservations [e.reservation]) f.state.gpuClassLabels ∧
        OwnedFor f.state e.reservation (entryAdmittee e)
  | _ => True

section Matching

variable {s s' : ControllerState} {r : ReservationResponse} {a : Admittee}

lemma OwnedFor.congr (hlabels : s'.gpuClassLabels = s.gpuClassLabels)
    (hrequired : s'.requiredGroupLabel = s.requiredGroupLabel) (h : OwnedFor s r a) :
    OwnedFor s' r a := by
  refine ⟨h.owner, ?_, ?_⟩
  · rw [ControllerState.effectiveLabel, hlabels]
    exact h.gpuClass
  · rw [ControllerState.groupOk, hrequired]
    exact h.group

/-- Reservations may go; none comes. -/
lemma RightFor.mono (hsub : s'.reservations ⊆ s.reservations)
    (hlabels : s'.gpuClassLabels = s.gpuClassLabels)
    (hrequired : s'.requiredGroupLabel = s.requiredGroupLabel) (h : RightFor s a) : RightFor s' a :=
  ⟨h.own.congr hlabels hrequired, fun r hr hid => (h.held r (hsub hr) hid).congr hlabels hrequired⟩

/-- Only what is held and how it is matched matters. -/
lemma RightFor.congr (hreservations : s'.reservations = s.reservations)
    (hlabels : s'.gpuClassLabels = s.gpuClassLabels)
    (hrequired : s'.requiredGroupLabel = s.requiredGroupLabel) (h : RightFor s a) : RightFor s' a :=
  h.mono (hreservations ▸ List.Subset.refl _) hlabels hrequired

lemma RightFor.addsNothing (h : RightFor s a) (hadds : AddsNothing s s') : RightFor s' a :=
  h.mono hadds.reservations hadds.labels hadds.required

/-- What is brought in may take the reservation away; whose it was stays. -/
lemma RightFor.broughtIn {reservations : List ReservationResponse} {labels : Dict Nat String}
    (h : RightFor s a) (hheld : HeldFor (bringIn s reservations labels) a)
    (hlabel : (bringIn s reservations labels).effectiveLabel a.reservation = some a.gpuClass) :
    RightFor (bringIn s reservations labels) a :=
  ⟨⟨h.own.owner, hlabel, h.own.group⟩, hheld⟩

lemma OneOwner.mono (hsub : s'.reservations ⊆ s.reservations)
    (hlabels : s'.gpuClassLabels = s.gpuClassLabels) (h : OneOwner s) : OneOwner s' := by
  intro r hr r' hr' hid
  rw [ControllerState.effectiveLabel, ControllerState.effectiveLabel, hlabels]
  exact h r (hsub hr) r' (hsub hr') hid

/-- What is held and the pod owner's is right for the pod. -/
lemma rightFor_of_owned (hone : OneOwner s) (hr : a.reservation ∈ s.reservations)
    (howned : OwnedFor s a.reservation a) : RightFor s a := by
  refine ⟨howned, fun r' hr' hid' => ?_⟩
  obtain ⟨huser, hlabel, hgroup⟩ := hone r' hr' a.reservation hr hid'
  refine ⟨?_, hlabel.trans howned.gpuClass, ?_⟩
  · rw [ControllerState.ownedBy, huser]
    exact howned.owner
  · rw [ControllerState.groupOk, hgroup]
    exact howned.group

lemma rightFor_of_matchesPod (hone : OneOwner s) {ns label : String} {group : Option String}
    {now : Instant} (hr : r ∈ s.reservations) (hmatch : s.matchesPod ns label group now r) :
    RightFor s ⟨ns, label, group, r⟩ := by
  simp only [ControllerState.matchesPod, Bool.and_eq_true, decide_eq_true_eq] at hmatch
  obtain ⟨⟨⟨⟨⟨-, howner⟩, hclass⟩, hgroup⟩, -⟩, -⟩ := hmatch
  refine rightFor_of_owned hone hr ⟨howner, ?_, hgroup⟩
  rw [ControllerState.effectiveLabel, hclass]

lemma findBestReservation_spec {ns label : String} {group : Option String} {gpus : Option Nat}
    {now : Instant} (h : s.findBestReservation ns label group gpus now = some r) :
    r ∈ s.reservations ∧ s.matchesPod ns label group now r := by
  have hmem := List.argmin_mem h
  have hcandidate : r ∈ s.reservations.filter (s.matchesPod ns label group now) := by
    cases gpus with
    | none => exact hmem
    | some gpus =>
      dsimp only at hmem
      split at hmem
      · exact hmem
      · exact (List.mem_filter.mp hmem).1
  exact List.mem_filter.mp hcandidate

lemma Search.find_spec {search : Search} {ns label : String} {gpus : Nat} {group : Option String}
    {now : Instant} (h : search.find s ns label gpus group now = some r) :
    r ∈ s.reservations ∧ s.matchesPod ns label group now r := by
  cases search with
  | best =>
    change s.findBestReservation ns label group (some gpus) now = some r at h
    exact findBestReservation_spec h
  | admittable horizon =>
    obtain ⟨hmem, hfound⟩ := List.mem_filter.mp (List.argmin_mem h)
    simp only [Bool.and_eq_true] at hfound
    exact ⟨hmem, hfound.1.1⟩

lemma rightFor_of_planned (hone : OneOwner s) {now : Instant}
    {planned : PodRuntimeView × ReservationResponse}
    (h : RelinkTarget s now planned.1 planned.2) : RightFor s (relinkAdmittee planned) := by
  obtain ⟨user, huser, hname⟩ := h.owner
  refine rightFor_of_owned hone h.listed ⟨?_, h.gpuClass, (groupOk_iff s).mpr h.group⟩
  rw [ControllerState.ownedBy, show (relinkAdmittee planned).reservation = planned.2 from rfl, huser]
  exact decide_eq_true hname

/-- An entry re-pointed at what is held under its id. -/
lemma RightFor.repoint {e : QueueEntry} (h : RightFor s (entryAdmittee e)) : RightFor s
    (entryAdmittee (ControllerState.repoint
      (Dict.ofList (s.reservations.map fun r => (r.id, r))) e)) := by
  unfold ControllerState.repoint
  cases hget : (Dict.ofList (s.reservations.map fun r => (r.id, r))).get? e.reservation.id with
  | none => exact h
  | some fresh =>
    have hid : fresh.id = e.reservation.id := keyedById_ofList s.reservations _ fresh hget
    obtain ⟨r, hr, hpair⟩ := List.mem_map.mp (Dict.mem_of_get?_ofList hget)
    obtain rfl : r = fresh := congrArg Prod.snd hpair
    have howned := h.held r hr hid
    exact ⟨⟨howned.owner, howned.gpuClass, howned.group⟩, fun r' hr' hid' =>
      let howned' := h.held r' hr' (hid'.trans hid)
      ⟨howned'.owner, howned'.gpuClass, howned'.group⟩⟩

end Matching


/-- Whatever an entry is awaited for is its pod owner's. -/
structure EntriesRight (f : Admissions) : Prop where
  oneOwner : OneOwner f.state
  made : ∀ ref, f.Awaits ref → ref < f.state.entries.next
  right : ∀ ref, f.Awaits ref → RightFor f.state (entryAdmittee (f.state.entry ref))

section Entries

variable {f : Admissions}

lemma EntriesRight.addsNothing {s' : ControllerState} (h : EntriesRight f)
    (hadds : AddsNothing f.state s') : EntriesRight { f with state := s' } := by
  have hawaited : ∀ ref, ({ f with state := s' } : Admissions).Awaits ref → f.Awaits ref := by
    rintro ref (⟨uid, hget⟩ | htried)
    · exact .inl ⟨uid, hadds.queue uid ref hget⟩
    · exact .inr htried
  refine ⟨h.oneOwner.mono hadds.reservations hadds.labels, fun ref hawaits => ?_,
    fun ref hawaits => ?_⟩
  · exact Nat.lt_of_lt_of_le (h.made ref (hawaited ref hawaits)) hadds.made
  · rw [hadds.entries ref (h.made ref (hawaited ref hawaits))]
    exact (h.right ref (hawaited ref hawaits)).addsNothing hadds

lemma addsNothing_of_sameEntries {s s' : ControllerState} (hreservations : s'.reservations = s.reservations)
    (hlabels : s'.gpuClassLabels = s.gpuClassLabels)
    (hrequired : s'.requiredGroupLabel = s.requiredGroupLabel) (hentries : s'.entries = s.entries)
    (hqueue : ∀ uid ref, s'.taskQueue.get? uid = some ref → s.taskQueue.get? uid = some ref) :
    AddsNothing s s' :=
  ⟨hreservations ▸ List.Subset.refl _, hlabels, hrequired, hentries ▸ le_rfl, hqueue, fun ref _ =>
    congrArg (fun h : Heap QueueEntry => entryAdmittee (h.read ref)) hentries⟩

lemma addsNothing_dequeuePod (s : ControllerState) (uid : Uid) : AddsNothing s (s.dequeuePod uid) :=
  addsNothing_of_sameEntries rfl rfl rfl rfl fun _ _ => Dict.get?_of_get?_erase

lemma addsNothing_allocEntry (s : ControllerState) (e : QueueEntry) :
    AddsNothing s (s.allocEntry e) := by
  refine ⟨List.Subset.refl _, rfl, rfl, ?_, fun _ _ h => h, fun ref href => ?_⟩
  · exact (Heap.next_alloc s.entries e).ge.trans' (Nat.le_succ _)
  · exact congrArg entryAdmittee (Heap.read_alloc_of_lt href e)

/-- A pod is queued for what is right for it. -/
lemma entriesRight_queueEntry (h : EntriesRight f) (uid : Uid) (e : QueueEntry)
    (he : RightFor f.state (entryAdmittee e)) :
    EntriesRight { f with state := f.state.queueEntry uid e } := by
  have hawaited : ∀ ref, ({ f with state := f.state.queueEntry uid e } : Admissions).Awaits ref →
      ref = f.state.entries.next ∨ f.Awaits ref := by
    rintro ref (⟨u, hget⟩ | htried)
    · change (f.state.taskQueue.set uid f.state.entries.next).get? u = some ref at hget
      rw [Dict.get?_set] at hget
      split at hget
      · exact .inl (Option.some.inj hget).symm
      · exact .inr (.inl ⟨u, hget⟩)
    · exact .inr (.inr htried)
  refine ⟨h.oneOwner, fun ref hawaits => ?_, fun ref hawaits => ?_⟩
  · change ref < (f.state.entries.alloc e).next
    rw [Heap.next_alloc]
    rcases hawaited ref hawaits with rfl | hold
    · exact Nat.lt_succ_self _
    · exact Nat.lt_succ_of_lt (h.made ref hold)
  · refine RightFor.congr (s := f.state) rfl rfl rfl ?_
    change RightFor f.state (entryAdmittee ((f.state.entries.alloc e).read ref))
    rcases hawaited ref hawaits with rfl | hold
    · rw [Heap.read_alloc_next]
      exact he
    · rw [Heap.read_alloc_of_lt (h.made ref hold)]
      exact h.right ref hold

lemma entriesRight_enqueuePod (h : EntriesRight f) (uid : Uid) (name ns label : String) (gpus : Nat)
    (group : Option String) (r : ReservationResponse) (now : Instant)
    (hr : RightFor f.state ⟨ns, label, group, r⟩) :
    EntriesRight { f with state := f.state.enqueuePod uid name ns label gpus group r now } := by
  have hcleared : EntriesRight
      { f with state := { f.state with noshowDeadlines := f.state.noshowDeadlines.erase r.id } } :=
    h.addsNothing (addsNothing_of_sameEntries rfl rfl rfl rfl fun _ _ hget => hget)
  unfold ControllerState.enqueuePod
  dsimp only
  split
  · exact hcleared
  · exact entriesRight_queueEntry hcleared uid _ (hr.congr (s := f.state) rfl rfl rfl)

/-- A pod whose reservation left the list is matched again. -/
lemma entriesRight_requeueStale (h : EntriesRight f) (now : Instant) (queued : Uid × Ref) :
    EntriesRight { f with state := f.state.requeueStale now queued } := by
  have hout := h.addsNothing (addsNothing_dequeuePod f.state queued.1)
  unfold ControllerState.requeueStale
  dsimp only
  split
  · exact hout
  · rename_i fresh hfresh
    obtain ⟨hmem, hmatch⟩ := findBestReservation_spec hfresh
    have hfresh := rightFor_of_matchesPod h.oneOwner hmem hmatch
    exact entriesRight_queueEntry hout queued.1 _ (hfresh.congr (s := f.state) rfl rfl rfl)

/-- The entries are re-pointed at what is held under the ids they had. -/
lemma entriesRight_repoint (h : EntriesRight f) (refs : List Ref) :
    EntriesRight { f with state := { f.state with
      entries := refs.foldl (fun h ref => h.modify ref (ControllerState.repoint
        (Dict.ofList (f.state.reservations.map fun r => (r.id, r))))) f.state.entries } } := by
  let fresh := ControllerState.repoint (Dict.ofList (f.state.reservations.map fun r => (r.id, r)))
  have hentries : ∀ (refs : List Ref) (h : Heap QueueEntry),
      (refs.foldl (fun h ref => h.modify ref fresh) h).next = h.next ∧
        ∀ ref, RightFor f.state (entryAdmittee (h.read ref)) →
          RightFor f.state (entryAdmittee ((refs.foldl (fun h ref => h.modify ref fresh) h).read ref)) := by
    intro refs
    induction refs with
    | nil => exact fun h => ⟨rfl, fun _ hright => hright⟩
    | cons ref refs ih =>
      intro h
      obtain ⟨hnext, hread⟩ := ih (h.modify ref fresh)
      refine ⟨hnext.trans (Heap.next_modify h ref fresh), fun ref' hright => hread ref' ?_⟩
      exact Heap.read_modify_of (P := fun e => RightFor f.state (entryAdmittee e))
        (fun e he => he.repoint) h ref ref' hright
  refine ⟨h.oneOwner, fun ref hawaits => ?_, fun ref hawaits => ?_⟩
  · exact (h.made ref hawaits).trans_eq (hentries refs f.state.entries).1.symm
  · exact ((hentries refs f.state.entries).2 ref (h.right ref hawaits)).congr (s := f.state) rfl rfl rfl

lemma entriesRight_reconcileQueue (h : EntriesRight f) (now : Instant) :
    EntriesRight { f with state := f.state.reconcileQueue now } := by
  have hstale : ∀ (l : List (Uid × Ref)) (t : ControllerState), EntriesRight { f with state := t } →
      EntriesRight { f with state := l.foldl (fun s queued => s.requeueStale now queued) t } := by
    intro l
    induction l with
    | nil => exact fun _ ht => ht
    | cons queued l ih => exact fun t ht => ih _ (entriesRight_requeueStale ht now queued)
  exact hstale _ _ (entriesRight_repoint h f.state.taskQueue.values)

/-- What is brought in keeps the owners of everything which waits. -/
lemma EntriesRight.broughtIn {reservations : List ReservationResponse} {labels : Dict Nat String}
    (h : EntriesRight f) (hkept : ownersKept f reservations labels) :
    EntriesRight { f with state := bringIn f.state reservations labels } := by
  refine ⟨hkept.1, h.made, fun ref hawaits => ?_⟩
  have hmem : entryAdmittee (f.state.entry ref) ∈ f.admittees := by
    refine List.mem_append_left _ (List.mem_map.mpr ⟨ref, List.mem_append.mpr ?_, rfl⟩)
    exact hawaits.imp_left Dict.mem_values_iff.mpr
  exact (h.right ref hawaits).broughtIn (hkept.2 _ hmem).1 (hkept.2 _ hmem).2

/-- The queue follows the reservations which are brought in. -/
lemma entriesRight_install (h : EntriesRight f) {active : List ReservationResponse}
    {maps : GpuClassMaps} (now : Instant) (hkept : ownersKept f active maps.labels) :
    EntriesRight { f with state := f.state.installReservations active maps now } := by
  refine entriesRight_reconcileQueue (f := { f with state := _ })
    ((h.broughtIn hkept).addsNothing ?_) now
  exact addsNothing_of_sameEntries rfl rfl rfl rfl fun _ _ hget => hget

/-- An attempt is made by an entry whose reservation is its pod owner's. -/
lemma entriesRight_tryEntry (h : EntriesRight f) (uid : Uid) {ref : Ref}
    (hmade : ref < f.state.entries.next)
    (hright : RightFor f.state (entryAdmittee (f.state.entry ref))) :
    EntriesRight (f.tryEntry uid ref) := by
  rw [Admissions.tryEntry]
  split
  · exact h
  · have hawaited : ∀ ref' (e : QueueEntry), ({ f with
        state := f.state.reserveFor uid e, attempts := f.attempts ++ [ref] } : Admissions).Awaits ref' →
        f.Awaits ref' ∨ ref' = ref := by
      rintro ref' e (hqueued | htried)
      · exact .inl (.inl hqueued)
      · rcases List.mem_append.mp htried with hold | hnew
        · exact .inl (.inr hold)
        · exact .inr (List.mem_singleton.mp hnew)
    refine ⟨h.oneOwner, fun ref' hawaits => ?_, fun ref' hawaits => ?_⟩
    · rcases hawaited ref' _ hawaits with hold | rfl
      · exact h.made ref' hold
      · exact hmade
    · refine RightFor.congr (s := f.state) rfl rfl rfl ?_
      rcases hawaited ref' _ hawaits with hold | rfl
      · exact h.right ref' hold
      · exact hright

/-- A lease is added, and its pod is tried by an entry of its own. -/
lemma entriesRight_lease (h : EntriesRight f) (uid : Uid) {e : QueueEntry}
    (hkept : ownersKept f (applyPushToActive f.state.reservations [e.reservation])
      f.state.gpuClassLabels)
    (howned : OwnedFor f.state e.reservation (entryAdmittee e)) :
    EntriesRight (({ f with state := f.state.upsertLease e.reservation e } : Admissions).tryEntry uid
      f.state.entries.next) := by
  have hin := h.broughtIn hkept
  have hright : RightFor (bringIn f.state (applyPushToActive f.state.reservations [e.reservation])
      f.state.gpuClassLabels) (entryAdmittee e) := by
    refine ⟨howned.congr (s := f.state) rfl rfl, fun r hr hid => ?_⟩
    have hnamed : finalRecord [e.reservation] r.id = some e.reservation := by
      simp [finalRecord, hid, entryAdmittee]
    rw [((mem_applyPushToActive_of_named hnamed).mp hr).1]
    exact howned.congr (s := f.state) rfl rfl
  have hmade := hin.addsNothing (addsNothing_allocEntry _ e)
  refine entriesRight_tryEntry hmade uid ?_ ?_
  · exact (Nat.lt_succ_self _).trans_eq (Heap.next_alloc f.state.entries e).symm
  · refine RightFor.congr (s := bringIn f.state _ f.state.gpuClassLabels) rfl rfl rfl ?_
    change RightFor _ (entryAdmittee ((f.state.entries.alloc e).read f.state.entries.next))
    rw [Heap.read_alloc_next]
    exact hright

end Entries

/-- Whatever the pods wait for, and whatever they are being admitted under, is their owners'. -/
structure OwnersRight (f : Admissions) : Prop where
  entries : EntriesRight f
  relinks : ∀ planned ∈ f.relinks, RightFor f.state (relinkAdmittee planned)

section Step

variable {f : Admissions}

/-- While no re-link is planned there are only the entries. -/
lemma ownersRight_of_entries {g : Admissions} (h : EntriesRight g) (hrelinks : g.relinks = []) :
    OwnersRight g :=
  ⟨h, fun planned hplanned => by rw [hrelinks] at hplanned; cases hplanned⟩

lemma Admissions.tryEntry_relinks (f : Admissions) (uid : Uid) (ref : Ref) :
    (f.tryEntry uid ref).relinks = f.relinks := by
  rw [Admissions.tryEntry]
  split <;> rfl

lemma ownersRight_enqueue (h : OwnersRight f) (search : Search) (uid : Uid)
    (name ns gpuClassLabel : String) (gpus : Nat) (group : Option String)
    (foundAt enqueuedAt : Instant) :
    OwnersRight ((AdmissionOp.enqueue search uid name ns gpuClassLabel gpus group foundAt
      enqueuedAt).apply f) := by
  rw [AdmissionOp.apply]
  split
  · exact h
  · rename_i r hfound
    obtain ⟨hmem, hmatch⟩ := Search.find_spec hfound
    have hr := rightFor_of_matchesPod h.entries.oneOwner hmem hmatch
    refine ⟨entriesRight_enqueuePod h.entries uid name ns gpuClassLabel gpus group r enqueuedAt hr,
      fun planned hplanned => ?_⟩
    obtain ⟨_, _, heq⟩ := enqueuePod_eq f.state uid name ns gpuClassLabel gpus group r enqueuedAt
    rw [heq]
    exact (h.relinks planned hplanned).congr (s := f.state) rfl rfl rfl

/-- An attempt is made for what its pod waits for. -/
lemma ownersRight_attempt (h : OwnersRight f) (uid : Uid) (now : Instant) :
    OwnersRight ((AdmissionOp.attempt uid now).apply f) := by
  rw [AdmissionOp.apply]
  split
  · exact h
  · rename_i ref hget
    dsimp only
    split
    · exact h
    · have hawaits : f.Awaits ref := .inl ⟨uid, hget⟩
      refine ⟨entriesRight_tryEntry h.entries uid (h.entries.made ref hawaits)
        (h.entries.right ref hawaits), fun planned hplanned => ?_⟩
      rw [Admissions.tryEntry_relinks] at hplanned
      rw [Admissions.tryEntry]
      split
      · exact h.relinks planned hplanned
      · exact (h.relinks planned hplanned).congr (s := f.state) rfl rfl rfl

/-- A pass plans its re-links onto the bookings of the pods' owners. -/
lemma ownersRight_plan (h : OwnersRight f) (merge : Bool) (pods : List PodRuntimeView) (now : Instant) :
    OwnersRight ((AdmissionOp.plan merge pods now).apply f) := by
  rw [AdmissionOp.apply]
  split
  · refine ⟨⟨h.entries.oneOwner, h.entries.made, h.entries.right⟩, fun planned hplanned => ?_⟩
    change planned ∈ if merge then _ else _ at hplanned
    split at hplanned
    · exact rightFor_of_planned h.entries.oneOwner (mem_planRelinks f.state hplanned).2.2.2
    · exact rightFor_of_planned h.entries.oneOwner (mem_planRelinks f.state hplanned).2.2.2
  · exact h

lemma ownersRight_conclude (h : OwnersRight f) (i : Nat) :
    OwnersRight { f with attempts := f.attempts.eraseIdx i } := by
  have hawaited : ∀ ref, ({ f with attempts := f.attempts.eraseIdx i } : Admissions).Awaits ref →
      f.Awaits ref := fun ref => Or.imp_right List.mem_of_mem_eraseIdx
  exact ⟨⟨h.entries.oneOwner, fun ref hawaits => h.entries.made ref (hawaited ref hawaits),
    fun ref hawaits => h.entries.right ref (hawaited ref hawaits)⟩, h.relinks⟩

lemma ownersRight_goOn (h : OwnersRight f) : OwnersRight { f with relinks := f.relinks.tail } :=
  ⟨⟨h.entries.oneOwner, h.entries.made, h.entries.right⟩, fun planned hplanned =>
    h.relinks planned (List.mem_of_mem_tail hplanned)⟩

/-- What is patched has been right since it was attempted, or planned. -/
lemma patchesOwned_of_right (h : OwnersRight f) (op : AdmissionOp) : patchesOwned f op := by
  intro a ha
  cases op with
  | patch i =>
    obtain ⟨ref, href, rfl⟩ := Option.map_eq_some_iff.mp ha
    exact h.entries.right ref (.inr (List.mem_of_getElem? href))
  | relink =>
    obtain ⟨planned, hplanned, rfl⟩ := Option.map_eq_some_iff.mp ha
    exact h.relinks planned (List.mem_of_mem_head? hplanned)
  | _ => cases ha

/-- One operation which keeps the owners. -/
theorem ownersRight_apply (f : Admissions) (op : AdmissionOp) (h : OwnersRight f)
    (hop : keepsOwners f op) : OwnersRight (op.apply f) ∧ patchesOwned f op := by
  refine ⟨?_, patchesOwned_of_right h op⟩
  cases op with
  | install active maps now =>
    rw [AdmissionOp.apply]
    split
    · rename_i hnone
      exact ownersRight_of_entries (entriesRight_install h.entries now (hop hnone)) hnone
    · exact h
  | lease uid e =>
    rw [AdmissionOp.apply]
    split
    · rename_i hnone
      refine ownersRight_of_entries
        (entriesRight_lease h.entries uid (hop hnone).1 (hop hnone).2) ?_
      exact (Admissions.tryEntry_relinks _ uid _).trans hnone
    · exact h
  | enqueue search uid name ns gpuClassLabel gpus group foundAt enqueuedAt =>
    exact ownersRight_enqueue h search uid name ns gpuClassLabel gpus group foundAt enqueuedAt
  | attempt uid now => exact ownersRight_attempt h uid now
  | patch i => exact ownersRight_conclude h i
  | giveUp i => exact ownersRight_conclude h i
  | plan merge pods now => exact ownersRight_plan h merge pods now
  | relink => exact ownersRight_goOn h
  | passOver => exact ownersRight_goOn h
  | other change =>
    exact ⟨h.entries.addsNothing (change.2 f.state), fun planned hplanned =>
      (h.relinks planned hplanned).addsNothing (change.2 f.state)⟩

end Step

/-- From the start of the controller on, however the reservations are replaced and the pods queued and
tried, every toleration is patched under a reservation, a booking or a lease, which is the pod owner's,
and of the pod's class and group, though it may have left the list since the pod was tried, in every run
in which what is brought in keeps the owners of what the pods wait for. -/
theorem tolerations_ownersRight (group : Option String) (ops : List AdmissionOp)
    (hrun : respects AdmissionOp.apply keepsOwners { state := { requiredGroupLabel := group } } ops) :
    respects AdmissionOp.apply patchesOwned { state := { requiredGroupLabel := group } } ops := by
  have hnone : ∀ ref, ¬ ({ state := { requiredGroupLabel := group } } : Admissions).Awaits ref := by
    rintro ref (⟨uid, hget⟩ | htried)
    · cases hget
    · cases htried
  refine respects_of_respects ownersRight_apply ⟨⟨fun r hr => ?_, fun ref hawaits => ?_,
    fun ref hawaits => ?_⟩, fun planned hplanned => ?_⟩ hrun
  · cases hr
  · exact absurd hawaits (hnone ref)
  · exact absurd hawaits (hnone ref)
  · cases hplanned

/-- Booking 1, whose window opens at 10. -/
def bookingOwnedBy (owner : String) : ReservationResponse where
  id := 1
  user := some { id := 1, username := owner }
  gpuClassId := 1
  gpuClass := { id := 1, name := "h100" }
  startUtc := 10
  endUtc := 100
  gpuCount := 1

def h100Maps : GpuClassMaps := GpuClassMaps.empty.add { id := 1 } "h100"

/-- A pod of alice's is queued for her booking; an update of the booking comes; the window opens, and the
pod is tried; while it is read the list of the reservations is replaced. -/
def bookingUpdated (owner : String) (held : List ReservationResponse) : List AdmissionOp :=
  [.install [bookingOwnedBy "alice"] h100Maps 0, .enqueue .best "A" "a" "alice" "h100" 1 none 0 0,
    .install [bookingOwnedBy owner] h100Maps 5, .attempt "A" 10, .install held h100Maps 11, .patch 0]

/-- The booking is gone by the time the pod is patched. -/
theorem tolerations_ownersRight_bookingKept :
    respects AdmissionOp.apply patchesOwned { state := { requiredGroupLabel := none } }
      (bookingUpdated "alice" []) := by
  refine tolerations_ownersRight none _
    ⟨fun _ => ?_, trivial, fun _ => ?_, trivial, fun _ => ?_, trivial, trivial⟩
  · decide +kernel
  · decide +kernel
  · decide +kernel

/-- The booking has gone to bob, and alice's pod is admitted under it. -/
theorem tolerations_not_ownersRight :
    ¬ ∀ (group : Option String) (ops : List AdmissionOp),
      respects AdmissionOp.apply patchesOwned { state := { requiredGroupLabel := group } } ops := by
  intro h
  have hpatch := (h none (bookingUpdated "bob" [bookingOwnedBy "bob"])).2.2.2.2.2.1
  have howned := hpatch ⟨"alice", "h100", none, bookingOwnedBy "bob"⟩ (by decide +kernel)
  exact absurd howned.own.owner (by decide)

end GpuReservation.Proofs
