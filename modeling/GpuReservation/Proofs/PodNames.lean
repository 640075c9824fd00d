import GpuReservation.Model.System
import GpuReservation.Proofs.Footprints
import GpuReservation.Proofs.NoShow
import GpuReservation.Proofs.WorldHistory

/-!
# The names of the pods

A call which patches or deletes a pod names it.  Every entry and every candidate the controller
holds for a pod gives the name under which that pod was created.
-/

namespace GpuReservation.Proofs

open GpuReservation.Library GpuReservation.Model

/-- The pod a call which patches or deletes was decided for, and the name it gives. -/
def judgedPod : Request → Option (Uid × String × String)
  | .applyToleration judged ns name _ _ _ _ => some (judged, ns, name)
  | .deletePod judged ns name => some (judged, ns, name)
  | _ => none

def entryName (e : QueueEntry) : String × String := (e.podNamespace, e.podName)

def candidateName (c : OnDemandCandidate) : String × String := (c.podNamespace, c.podName)

/-- The pod was created under this name. -/
def CreatedAs (uid : Uid) (ns name : String) (σ : Snap ControllerState World) : Prop :=
  σ.world.created.get? uid = some (ns, name)

def EntryNamed (uid : Uid) (ref : Ref) (σ : Snap ControllerState World) : Prop :=
  ∃ e, σ.shared.entries.get? ref = some e ∧ σ.world.created.get? uid = some (entryName e)

def CandidateNamed (uid : Uid) (ref : Ref) (σ : Snap ControllerState World) : Prop :=
  ∃ c, σ.shared.candidates.get? ref = some c ∧ σ.world.created.get? uid = some (candidateName c)

/-- What is queued, and what is registered, goes by the names of the pods. -/
structure NamesRight (σ : Snap ControllerState World) : Prop where
  cluster : ClusterWf σ.world
  queue : ∀ uid ref, σ.shared.taskQueue.get? uid = some ref → EntryNamed uid ref σ
  candidates : ∀ uid ref, σ.shared.ondemandCandidates.get? uid = some ref →
    CandidateNamed uid ref σ

/-- No name changes. -/
structure NamesKept (σ σ' : Snap ControllerState World) : Prop where
  created : ∀ uid k, σ.world.created.get? uid = some k → σ'.world.created.get? uid = some k
  entries : σ.shared.entries.Keeps entryName σ'.shared.entries
  candidates : σ.shared.candidates.Keeps candidateName σ'.shared.candidates

/-- A change which gives no pod another name: whose entries and candidates are kept, and which
queues and registers no pod that was not. -/
structure SameNames (s s' : ControllerState) : Prop where
  entries : s.entries.Keeps entryName s'.entries
  candidates : s.candidates.Keeps candidateName s'.candidates
  queue : ∀ uid ref', s'.taskQueue.get? uid = some ref' → ∃ ref, s.taskQueue.get? uid = some ref ∧
    ∀ e, s.entries.get? ref = some e →
      ∃ e', s'.entries.get? ref' = some e' ∧ entryName e' = entryName e
  registered : ∀ uid ref, s'.ondemandCandidates.get? uid = some ref →
    s.ondemandCandidates.get? uid = some ref

section Kept

variable {σ σ' σ'' : Snap ControllerState World} {uid : Uid} {ref : Ref}

lemma NamesKept.refl (σ : Snap ControllerState World) : NamesKept σ σ :=
  ⟨fun _ _ h => h, .refl _, .refl _⟩

lemma NamesKept.trans (h : NamesKept σ σ') (h' : NamesKept σ' σ'') : NamesKept σ σ'' :=
  ⟨fun uid k hk => h'.created uid k (h.created uid k hk), h.entries.trans h'.entries,
    h.candidates.trans h'.candidates⟩

lemma EntryNamed.kept (hkept : NamesKept σ σ') (h : EntryNamed uid ref σ) :
    EntryNamed uid ref σ' := by
  obtain ⟨e, he, hname⟩ := h
  obtain ⟨e', he', hsame⟩ := hkept.entries ref e he
  exact ⟨e', he', hkept.created uid _ (hsame ▸ hname)⟩

lemma CandidateNamed.kept (hkept : NamesKept σ σ') (h : CandidateNamed uid ref σ) :
    CandidateNamed uid ref σ' := by
  obtain ⟨c, hc, hname⟩ := h
  obtain ⟨c', hc', hsame⟩ := hkept.candidates ref c hc
  exact ⟨c', hc', hkept.created uid _ (hsame ▸ hname)⟩

/-- A task which keeps the names, and patches and deletes pods by the names they were created
under. -/
def namesContract : Contract ControllerState World Request Choice where
  rely := NamesKept
  guar := NamesKept
  issued _ _ := True
  served q σ := ∀ judged ns name, judgedPod q = some (judged, ns, name) → CreatedAs judged ns name σ
  assumed _ _ _ := True
  ended _ := True
  rely_refl := .refl
  rely_trans := .trans
  guar_refl := .refl
  guar_trans := .trans

lemma lasting_of_kept {F : Snap ControllerState World → Prop}
    (h : ∀ {σ σ'}, NamesKept σ σ' → F σ → F σ') : Lasting namesContract F :=
  ⟨fun _ _ => h, fun _ _ => h⟩

lemma lasting_true : Lasting namesContract fun _ => True := lasting_of_kept fun _ h => h

lemma lasting_entryNamed : Lasting namesContract (EntryNamed uid ref) := lasting_of_kept .kept

lemma lasting_candidateNamed : Lasting namesContract (CandidateNamed uid ref) :=
  lasting_of_kept .kept

lemma lasting_createdAs {ns name : String} : Lasting namesContract (CreatedAs uid ns name) :=
  lasting_of_kept fun hkept h => hkept.created uid _ h

lemma namesRight_world {w : World} (h : NamesRight σ) (hw : ClusterWf w)
    (hlater : Later σ.world w) :
    NamesKept σ { σ with world := w } ∧ NamesRight { σ with world := w } := by
  have hkept : NamesKept σ { σ with world := w } :=
    ⟨fun uid k hk => Dict.get?_of_prefix hlater.created hk, .refl _, .refl _⟩
  exact ⟨hkept, hw, fun uid ref hq => (h.queue uid ref hq).kept hkept,
    fun uid ref hc => (h.candidates uid ref hc).kept hkept⟩

lemma namesRight_answer {task : Nat} {q : Request} {ch : Choice} {w : World} {a : Answer q}
    (h : NamesRight σ) (hw : answer task q ch σ.world = some (a, w)) :
    NamesKept σ { σ with world := w } ∧ NamesRight { σ with world := w } :=
  namesRight_world h (answer_clusterWf hw h.cluster) (answer_later hw)

end Kept

namespace SameNames

variable {s s' s'' : ControllerState}

/-- Neither the entries and the candidates nor who holds them change. -/
lemma of_eq (he : s'.entries = s.entries) (hc : s'.candidates = s.candidates)
    (hq : s'.taskQueue = s.taskQueue) (ho : s'.ondemandCandidates = s.ondemandCandidates) :
    SameNames s s' := by
  refine ⟨he ▸ .refl _, hc ▸ .refl _, fun uid ref hget => ?_, fun uid ref hget => ho ▸ hget⟩
  rw [hq] at hget
  rw [he]
  exact ⟨ref, hget, fun e he' => ⟨e, he', rfl⟩⟩

lemma refl (s : ControllerState) : SameNames s s := of_eq rfl rfl rfl rfl

lemma trans (h : SameNames s s') (h' : SameNames s' s'') : SameNames s s'' := by
  refine ⟨h.entries.trans h'.entries, h.candidates.trans h'.candidates, fun uid ref'' hget => ?_,
    fun uid ref hget => h.registered uid ref (h'.registered uid ref hget)⟩
  obtain ⟨ref', hget', hsame'⟩ := h'.queue uid ref'' hget
  obtain ⟨ref, hget, hsame⟩ := h.queue uid ref' hget'
  refine ⟨ref, hget, fun e he => ?_⟩
  obtain ⟨e', he', heq⟩ := hsame e he
  obtain ⟨e'', he'', heq'⟩ := hsame' e' he'
  exact ⟨e'', he'', heq'.trans heq⟩

lemma foldl {γ : Type} {f : ControllerState → γ → ControllerState}
    (hf : ∀ s x, SameNames s (f s x)) (l : List γ) (s : ControllerState) :
    SameNames s (l.foldl f s) := by
  induction l generalizing s with
  | nil => exact refl s
  | cons x l ih => exact (hf s x).trans (ih (f s x))

/-- Pods leave the queue and the candidates; the objects held for them are kept. -/
lemma of_leave (he : s.entries.Keeps entryName s'.entries)
    (hc : s.candidates.Keeps candidateName s'.candidates)
    (hq : ∀ uid ref, s'.taskQueue.get? uid = some ref → s.taskQueue.get? uid = some ref)
    (ho : ∀ uid ref, s'.ondemandCandidates.get? uid = some ref →
      s.ondemandCandidates.get? uid = some ref) : SameNames s s' :=
  ⟨he, hc, fun uid ref hget => ⟨ref, hq uid ref hget, fun e => he ref e⟩, ho⟩

variable {w : World}

lemma kept (h : SameNames s s') : NamesKept ⟨s, w⟩ ⟨s', w⟩ :=
  ⟨fun _ _ hk => hk, h.entries, h.candidates⟩

lemma namesRight (h : SameNames s s') (hright : NamesRight ⟨s, w⟩) : NamesRight ⟨s', w⟩ := by
  refine ⟨hright.cluster, fun uid ref' hget => ?_, fun uid ref hget => ?_⟩
  · obtain ⟨ref, hold, hsame⟩ := h.queue uid ref' hget
    obtain ⟨e, he, hname⟩ := hright.queue uid ref hold
    obtain ⟨e', he', heq⟩ := hsame e he
    exact ⟨e', he', heq ▸ hname⟩
  · exact (hright.candidates uid ref (h.registered uid ref hget)).kept h.kept

end SameNames

section Changes

variable (s : ControllerState) (now : Instant)

lemma releasePod_names (uid : Uid) : SameNames s (s.releasePod uid) := by
  obtain ⟨_, h⟩ := releasePod_eq s uid
  rw [h]
  exact .of_eq rfl rfl rfl rfl

lemma setGpuPod_names (uid : Uid) (record : Option GpuPod) :
    SameNames s (s.setGpuPod uid record now) := by
  obtain ⟨_, _, _, _, h⟩ := setGpuPod_eq s uid record now
  rw [h]
  exact .of_eq rfl rfl rfl rfl

lemma noteAdmitted_names (uid : Uid) (e : QueueEntry) (pod : Pod) :
    SameNames s (s.noteAdmitted uid e pod now) := by
  obtain ⟨_, _, _, _, h⟩ := noteAdmitted_eq s uid e pod now
  rw [h]
  exact .of_eq rfl rfl rfl rfl

lemma modifyEntry_names (ref : Ref) {f : QueueEntry → QueueEntry}
    (hf : ∀ e, entryName (f e) = entryName e) : SameNames s (s.modifyEntry ref f) :=
  .of_leave (.modify hf s.entries ref) (.refl _) (fun _ _ h => h) fun _ _ h => h

lemma modifyCandidate_names (ref : Ref) {f : OnDemandCandidate → OnDemandCandidate}
    (hf : ∀ c, candidateName (f c) = candidateName c) : SameNames s (s.modifyCandidate ref f) :=
  .of_leave (.refl _) (.modify hf s.candidates ref) (fun _ _ h => h) fun _ _ h => h

lemma dequeuePod_names (uid : Uid) : SameNames s (s.dequeuePod uid) :=
  .of_leave (.refl _) (.refl _) (fun _ _ => Dict.get?_of_get?_erase) fun _ _ h => h

lemma removeOndemandCandidate_names (uid : Uid) : SameNames s (s.removeOndemandCandidate uid) :=
  .of_leave (.refl _) (.refl _) (fun _ _ h => h) fun _ _ => Dict.get?_of_get?_erase

lemma forgetPod_names (uid : Uid) : SameNames s (s.forgetPod uid) :=
  ((dequeuePod_names s uid).trans (removeOndemandCandidate_names _ uid)).trans
    (.of_eq rfl rfl rfl rfl)

lemma noteGpuPod_names (uid : Uid) (record : Option GpuPod) :
    SameNames s (s.noteGpuPod uid record now) := by
  rw [ControllerState.noteGpuPod]
  split
  · have hwoken : ∀ s (e : Uid × Ref), SameNames s
        (s.modifyCandidate e.2 (ControllerState.wake now)) :=
      fun s e => modifyCandidate_names s e.2 fun _ => rfl
    exact (setGpuPod_names s now uid record).trans (.foldl hwoken _ _)
  · exact setGpuPod_names s now uid record

lemma markPodSeenForNoshow_names (ns label : String) (rid : Option Nat) (group : Option String) :
    SameNames s (s.markPodSeenForNoshow ns label rid group now) := by
  cases rid with
  | some rid =>
    rw [ControllerState.markPodSeenForNoshow]
    split
    · exact .refl s
    · split
      · exact .refl s
      · exact .of_eq rfl rfl rfl rfl
  | none =>
    rw [ControllerState.markPodSeenForNoshow]
    split
    · exact .refl s
    · exact .of_eq rfl rfl rfl rfl

lemma keepWarm_names (pod : Pod) : SameNames s (s.keepWarm pod now) := by
  have hseen := (forgetPod_names s pod.uid).trans
    (markPodSeenForNoshow_names _ now pod.ns pod.gpuClass pod.bookingReference pod.groupLabel)
  rw [ControllerState.keepWarm]
  split
  · exact hseen
  · exact hseen.trans (.of_eq rfl rfl rfl rfl)

lemma checkNoshowDeadlines_names : SameNames s (s.checkNoshowDeadlines now) := by
  obtain ⟨_, _, _, h, -⟩ := checkNoshowDeadlines_eq s now
  rw [h]
  exact .of_eq rfl rfl rfl rfl

lemma refreshNodeFeasibility_names (config : Config) (snapshot : List Pod)
    (nodes : Option NodeSnapshot) :
    SameNames s (s.refreshNodeFeasibility config snapshot now nodes) := by
  unfold ControllerState.refreshNodeFeasibility
  cases nodes <;> dsimp only <;> split <;> exact .of_eq rfl rfl rfl rfl

lemma relinkOccupancy_names (uid : Uid) (rid gpus : Nat) :
    SameNames s (s.relinkOccupancy uid rid gpus) := by
  obtain ⟨_, h⟩ := relinkOccupancy_eq s uid rid gpus
  rw [h]
  exact .of_eq rfl rfl rfl rfl

lemma upsertLease_names (lease : ReservationResponse) (e : QueueEntry) :
    SameNames s (s.upsertLease lease e) :=
  .of_leave (.alloc s.entries e) (.refl _) (fun _ _ h => h) fun _ _ h => h

/-- A queued pod keeps its name where it is queued again. -/
lemma requeueStale_names {queued : Uid × Ref} (hq : s.taskQueue.get? queued.1 = some queued.2) :
    SameNames s (s.requeueStale now queued) := by
  unfold ControllerState.requeueStale
  dsimp only
  split
  · exact dequeuePod_names s queued.1
  · refine ⟨.alloc s.entries _, .refl _, fun uid ref' hget => ?_, fun _ _ h => h⟩
    change ((s.taskQueue.erase queued.1).set queued.1 s.entries.next).get? uid = some ref' at hget
    rw [Dict.get?_set] at hget
    split at hget
    · rename_i huid
      cases hget
      refine ⟨queued.2, huid ▸ hq, fun e he => ⟨_, Heap.get?_alloc_next s.entries _, ?_⟩⟩
      rw [ControllerState.entry, Heap.read_eq_of_get? he]
      rfl
    · exact ⟨ref', Dict.get?_of_get?_erase hget, fun e he => ⟨e, Heap.get?_alloc_of_some he _, rfl⟩⟩

lemma requeueStale_others {queued : Uid × Ref} {uid : Uid} (huid : uid ≠ queued.1) :
    (s.requeueStale now queued).taskQueue.get? uid = s.taskQueue.get? uid := by
  unfold ControllerState.requeueStale
  dsimp only
  split
  · exact Dict.get?_erase_of_ne _ huid
  · exact (Dict.get?_set_of_ne _ _ huid).trans (Dict.get?_erase_of_ne _ huid)

lemma foldl_requeueStale_names (l : List (Uid × Ref)) (hl : (l.map Prod.fst).Nodup)
    (hq : ∀ queued ∈ l, s.taskQueue.get? queued.1 = some queued.2) :
    SameNames s (l.foldl (fun s queued => s.requeueStale now queued) s) := by
  induction l generalizing s with
  | nil => exact .refl s
  | cons queued l ih =>
    obtain ⟨hnew, hrest⟩ := List.nodup_cons.mp hl
    refine (requeueStale_names s now (hq queued List.mem_cons_self)).trans (ih _ hrest ?_)
    intro queued' hmem
    have hne : queued'.1 ≠ queued.1 := fun h => hnew (h ▸ List.mem_map_of_mem hmem)
    rw [requeueStale_others s now hne]
    exact hq queued' (List.mem_cons_of_mem queued hmem)

lemma reconcileQueue_names : SameNames s (s.reconcileQueue now) := by
  let byId := Dict.ofList (s.reservations.map fun r => (r.id, r))
  have hname : ∀ e, entryName (ControllerState.repoint byId e) = entryName e := fun _ => rfl
  have hrepoint : SameNames s { s with
      entries := s.taskQueue.values.foldl
        (fun h ref => h.modify ref (ControllerState.repoint byId)) s.entries } :=
    .of_leave (.foldl_modify hname _ s.entries) (.refl _) (fun _ _ h => h) fun _ _ h => h
  refine hrepoint.trans (foldl_requeueStale_names _ now _ ?_ fun queued hmem => ?_)
  · exact s.taskQueue.nodup.sublist (List.filter_sublist.map _)
  · exact Dict.get?_eq_some_iff.mpr (List.mem_filter.mp hmem).1

lemma installReservations_names (active : List ReservationResponse) (maps : GpuClassMaps) :
    SameNames s (s.installReservations active maps now) :=
  (SameNames.of_eq rfl rfl rfl rfl : SameNames s { s with
    reservations := active
    gpuClassLabels := maps.labels
    gpuClassIds := maps.ids
    gpuClassCapacity := maps.capacity
    gpuClassesKnown := maps.complete }).trans (reconcileQueue_names _ now)

lemma SameNames.of_tells {s s' : ControllerState} (h : OnlyTells s s') : SameNames s s' := by
  have hcandidates : s.candidates.Keeps candidateName s'.candidates := by
    intro ref c hc
    have hlt : ref < s'.candidates.next := h.next ▸ Heap.get?_lt_next hc
    obtain ⟨c', hc'⟩ : ∃ c', s'.candidates.get? ref = some c' :=
      ⟨_, List.getElem?_eq_getElem hlt⟩
    have hask := h.asks ref
    rw [ControllerState.candidate, ControllerState.candidate, Heap.read_eq_of_get? hc,
      Heap.read_eq_of_get? hc'] at hask
    refine ⟨c', hc', ?_⟩
    rw [askOf, askOf] at hask
    simp only [Prod.mk.injEq] at hask
    rw [candidateName, candidateName, hask.2.1, hask.2.2.1]
  have hrest := h.rest
  refine .of_leave ?_ hcandidates (fun uid ref hget => ?_) fun uid ref hget => ?_
  · rw [hrest]
    exact .refl _
  · rw [hrest] at hget
    exact hget
  · rw [hrest] at hget
    exact hget

end Changes

/-- A part which patches and deletes no pod, and changes no name. -/
def NamesOnly {α : Type} (p : Ctl α) : Prop :=
  p.Within SameNames (fun q => judgedPod q = none) fun _ => True

/-- From `P` on, task `i` keeps the names right, patches and deletes by them, and ends with `R`. -/
abbrev ByName (i : Nat) {α : Type} (P : Snap ControllerState World → Prop) (p : Ctl α)
    (R : α → Snap ControllerState World → Prop) : Prop :=
  Triple runtime NamesRight namesContract i P p R

section Parts

variable {i : Nat} {α : Type} {P F : Snap ControllerState World → Prop}

lemma TellsOnly.names {p : Ctl α} (h : TellsOnly p) : NamesOnly p :=
  h.mono (fun _ _ => .of_tells) (fun q hq => by cases q <;> first | rfl | exact hq.elim)
    fun _ h => h

lemma names_within {p : Ctl α} {post : α → Prop}
    (hp : p.Within SameNames (fun q => judgedPod q = none) post) (hP : Lasting namesContract P) :
    ByName i P p fun a σ => post a ∧ P σ := by
  refine .of_within hp hP.1 ?_ ?_ fun q c w hq => answer_of_sync i hq c w
  · intro σ s' hsame hright hPσ
    exact ⟨hsame.kept, hsame.namesRight hright, hP.2 σ _ hsame.kept hPσ⟩
  · intro q hq σ hright hPσ
    refine ⟨trivial, fun judged ns name hjudged => ?_, fun c a w _ hw => ?_⟩
    · rw [hq] at hjudged
      cases hjudged
    · obtain ⟨hkept, hright'⟩ := namesRight_answer hright hw
      exact ⟨hkept, hright', hP.2 σ _ hkept hPσ⟩

lemma NamesOnly.keeps {p : Ctl α} (hp : NamesOnly p) (hP : Lasting namesContract P) :
    ByName i P p fun _ => P :=
  (names_within hp hP).mono (fun _ _ h => h) fun _ _ h => h.2

/-- Such a part needs nothing. -/
lemma NamesOnly.byName {p : Ctl α} (hp : NamesOnly p) : ByName i P p fun _ _ => True :=
  (hp.keeps lasting_true).mono (fun _ _ _ => trivial) fun _ _ h => h

/-- A call which patches or deletes a pod gives the name the pod was created under. -/
lemma judged_call {q : Request} {judged : Uid} {ns name : String} (hy : yields q = true)
    (hq : judgedPod q = some (judged, ns, name)) :
    ByName i (CreatedAs judged ns name) (call q) fun _ => CreatedAs judged ns name := by
  refine .ask hy lasting_createdAs.1 (fun _ => lasting_createdAs.1) (fun _ _ _ => trivial)
    fun σ hright hcreated => ⟨fun judged' ns' name' h => ?_, fun c a w _ hw => ?_⟩
  · rw [hq] at h
    cases h
    exact hcreated
  · obtain ⟨hkept, hright'⟩ := namesRight_answer hright hw
    exact ⟨hkept, hright', hkept.created judged _ hcreated⟩

/-- The lock is taken and given back. -/
lemma locked_byName {R : α → Snap ControllerState World → Prop} {body : Ctl α}
    (hP : Lasting namesContract P) (h : ByName i P body R) (hR : ∀ a, Lasting namesContract (R a)) :
    ByName i P (withReservationLock body) R := by
  have hacquire : NamesOnly (call .acquireReservationLock) := .ask rfl
  have hrelease : NamesOnly (call .releaseReservationLock) := .ask rfl
  exact .bind (hacquire.keeps hP) fun _ => .bind h fun a =>
    .bind (hrelease.keeps (hR a)) fun _ => .pure fun _ _ h => h

lemma get_names : NamesOnly (Prog.get : Ctl ControllerState) := .get .refl

lemma call_names {q : Request} (hq : judgedPod q = none) : NamesOnly (call q) := .ask hq

lemma updateCandidate_names (ref : Ref) {f : OnDemandCandidate → OnDemandCandidate}
    (hf : ∀ c, askOf (f c) = askOf c) : NamesOnly (updateCandidate ref f) :=
  (updateCandidate_tells ref hf).names

lemma updateCandidate_keeps (ref : Ref) {f : OnDemandCandidate → OnDemandCandidate}
    (hf : ∀ c, askOf (f c) = askOf c) (hP : Lasting namesContract P) :
    ByName i P (updateCandidate ref f) fun _ => P :=
  (updateCandidate_names ref hf).keeps hP

lemma createdAs_entry {uid : Uid} {ref : Ref} {σ : Snap ControllerState World}
    (h : EntryNamed uid ref σ) :
    CreatedAs uid (σ.shared.entry ref).podNamespace (σ.shared.entry ref).podName σ := by
  obtain ⟨e, he, hname⟩ := h
  rw [ControllerState.entry, Heap.read_eq_of_get? he]
  exact hname

lemma createdAs_candidate {uid : Uid} {ref : Ref} {σ : Snap ControllerState World}
    (h : CandidateNamed uid ref σ) :
    CreatedAs uid (σ.shared.candidate ref).podNamespace (σ.shared.candidate ref).podName σ := by
  obtain ⟨c, hc, hname⟩ := h
  rw [ControllerState.candidate, Heap.read_eq_of_get? hc]
  exact hname

section Admission

variable (config : Config) (uid : Uid) (ref : Ref)

lemma postponeEntry_names : NamesOnly (postponeEntry ref) :=
  .seq (.ask rfl) fun now => .seq (jitteredRetryAt_tells now).names fun _ =>
    .modify fun s => modifyEntry_names s ref fun _ => rfl

lemma rollBack_names : NamesOnly (rollBack uid ref) :=
  .seq (.modify fun s => releasePod_names s uid) fun _ =>
    .seq (postponeEntry_names ref) fun _ => .pure trivial

lemma stamps_judgedPod {q : Request} (h : Request.stamps q) : judgedPod q = none := by
  cases q <;> first | rfl | exact h.elim

lemma patchFreshPod_byName (gateName : Option String) (e : QueueEntry) (pod : Pod) :
    ByName i (CreatedAs uid e.podNamespace e.podName) (patchFreshPod uid ref gateName e pod)
      fun _ _ => True := by
  have hstamps : ∀ {p : Ctl Bool},
      p.Within SameNames Request.stamps (fun done => done = true) → NamesOnly p :=
    fun hp => hp.mono (fun _ _ h => h) (fun _ => stamps_judgedPod) fun _ _ => trivial
  rw [patchFreshPod]
  split
  · exact NamesOnly.byName (.seq (.modify fun s => releasePod_names s uid) fun _ => .pure trivial)
  · split
    · exact (hstamps (concludeAdmission_within ref
        (fun s e pod now => noteAdmitted_names s now uid e pod) pod)).byName
    · refine .bind (judged_call rfl rfl) fun landed => ?_
      split
      · exact (hstamps (stampAdmission_within ref
          (fun s e pod now => noteAdmitted_names s now uid e pod) .refl pod gateName)).byName
      · exact (rollBack_names uid ref).byName

/-- An attempt on an entry which goes by the name of its pod. -/
lemma tryApplyToleration_byName (gateName : Option String) :
    ByName i (EntryNamed uid ref) (tryApplyToleration uid ref gateName) fun _ _ => True := by
  refine .get_bind fun s => ?_
  refine .pre (P := CreatedAs uid (s.entry ref).podNamespace (s.entry ref).podName) ?_ ?_
  swap
  · rintro σ - ⟨rfl, h⟩
    exact createdAs_entry h
  dsimp only
  split
  · exact NamesOnly.byName (.seq (postponeEntry_names ref) fun _ => .pure trivial)
  · have hreserve : NamesOnly (Prog.modify fun s' => s'.reserveFor uid (s.entry ref)) :=
      .modify fun _ => .of_eq rfl rfl rfl rfl
    refine .bind (hreserve.keeps lasting_createdAs) fun _ =>
      .bind ((call_names rfl).keeps lasting_createdAs) fun freshPod => ?_
    cases freshPod with
    | none => exact (rollBack_names uid ref).byName
    | some pod => exact patchFreshPod_byName uid ref gateName _ pod

/-- The pod is tried, and leaves the queue when it is done with. -/
lemma tryAndDequeue_byName :
    ByName i (EntryNamed uid ref) (do
      let done ← tryApplyToleration uid ref config.schedulingGateName
      if done then Prog.modify fun s => s.dequeuePod uid else return ()) fun _ _ => True := by
  refine .bind (tryApplyToleration_byName uid ref _) fun done => ?_
  split
  · exact NamesOnly.byName (.modify fun s => dequeuePod_names s uid)
  · exact .pure fun _ _ h => h

lemma fastPath_byName (now : Instant) :
    ByName i (EntryNamed uid ref) (fastPath config uid ref now) fun _ _ => True := by
  refine .get_bind fun s => .pre (P := EntryNamed uid ref) ?_ fun _ _ h => h.2
  dsimp only
  split
  · exact tryAndDequeue_byName config uid ref
  · exact .pure fun _ _ _ => trivial

lemma tellQueuedStatus_names (now : Instant) : NamesOnly (tellQueuedStatus config uid ref now) := by
  refine .seq get_names fun s => ?_
  dsimp only
  split
  · exact .pure trivial
  · split
    · exact (postPendingStatus_tells config uid _ _ _ _ now).names
    · exact .pure trivial

lemma followUp_byName : ByName i P (followUp config uid) fun _ _ => True := by
  refine .get_bind fun s => ?_
  cases hq : s.taskQueue.get? uid with
  | none => exact .pure fun _ _ _ => trivial
  | some entryRef =>
    refine .pre (P := EntryNamed uid entryRef) ?_ ?_
    swap
    · rintro σ hright ⟨rfl, -⟩
      exact hright.queue uid entryRef hq
    refine .bind ((call_names rfl).keeps lasting_entryNamed) fun now =>
      .bind (fastPath_byName config uid entryRef now) fun _ => .bind get_names.byName fun s => ?_
    split
    · exact (tellQueuedStatus_names config uid entryRef now).byName
    · exact .pure fun _ _ h => h

/-- A pod is queued under the name it was created under. -/
lemma namesRight_enqueuePod {s : ControllerState} {w : World} (h : NamesRight ⟨s, w⟩)
    {name ns : String} (hname : CreatedAs uid ns name ⟨s, w⟩) (label : String) (gpus : Nat)
    (group : Option String) (reservation : ReservationResponse) (now : Instant) :
    NamesKept ⟨s, w⟩ ⟨s.enqueuePod uid name ns label gpus group reservation now, w⟩ ∧
      NamesRight ⟨s.enqueuePod uid name ns label gpus group reservation now, w⟩ := by
  rw [ControllerState.enqueuePod]
  split
  · have hsame : SameNames s { s with noshowDeadlines := s.noshowDeadlines.erase reservation.id } :=
      .of_eq rfl rfl rfl rfl
    exact ⟨hsame.kept, hsame.namesRight h⟩
  · refine ⟨⟨fun _ _ hk => hk, .alloc s.entries _, .refl _⟩, h.cluster, fun u r hget => ?_,
      h.candidates⟩
    change (s.taskQueue.set uid s.entries.next).get? u = some r at hget
    rw [Dict.get?_set] at hget
    split at hget
    · rename_i hu
      cases hget
      exact ⟨_, Heap.get?_alloc_next s.entries _, hu ▸ hname⟩
    · obtain ⟨e, he, hcreated⟩ := h.queue u r hget
      exact ⟨e, Heap.get?_alloc_of_some he _, hcreated⟩

lemma reroute_byName (reservation : ReservationResponse) :
    ByName i (CandidateNamed uid ref) (reroute config uid ref reservation) fun _ _ => True := by
  refine .bind ((call_names rfl).keeps lasting_candidateNamed) fun enqueuedAt => ?_
  refine .modify_bind (M := fun _ => True) ?_ ?_
  · intro σ hright h
    obtain ⟨hkept, hright'⟩ := namesRight_enqueuePod uid hright (createdAs_candidate h) _ _ _ _ _
    exact ⟨hkept, hright', trivial⟩
  · exact .bind (followUp_byName config uid) fun _ => .pure fun _ _ h => h

end Admission

end Parts

end GpuReservation.Proofs
