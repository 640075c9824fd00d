import GpuReservation.Library.Machine
import GpuReservation.Model.PodWatcher

/-!
# What the watch thread offers

Since a LIST its pods, then the events of the log up to the tracked version, as long as the thread takes no
event or bookmark from a stream in which an event was undecodable.
-/

namespace GpuReservation.Proofs

open GpuReservation.Library GpuReservation.Model

/-- The pods of a LIST at one version, then the events up to another. -/
def replay (api : PodLog) (pods : List PodObject) (version v : Nat) : List WatchEvent :=
  pods.map (fun p => (.added, p)) ++ (api.between version v).map yielded

/-- Since the last LIST its pods were offered and every event up to the tracked version; with no version
tracked, up to the last that was. -/
structure GapFree (s : PodWatch) : Prop where
  fresh : s.listed = none → s.thread.rv = none ∧ s.offered = []
  since : ∀ l, s.listed = some l →
    ∃ v, l.2 ≤ v ∧ (∀ rv, s.thread.rv = some rv → v = rv) ∧ s.offered = replay s.api l.1 l.2 v

/-- An event, or a bookmark with a version. -/
def advances : WatchMove → Bool
  | .item .event | .item (.bookmark (some _)) => true
  | _ => false

/-- The version moves on by a stream in which an event was undecodable. -/
def Overtakes (s : PodWatch) (m : WatchMove) : Prop :=
  advances m = true ∧ s.stopEvent = false ∧
    ∃ stream ∈ s.thread.stage.stream, stream.undecodable = true

instance (s : PodWatch) (m : WatchMove) : Decidable (Overtakes s m) :=
  inferInstanceAs (Decidable (_ ∧ _))

lemma step_item {w : PodWatcher} {s : PodWatch} {stream : WatchStream} {i : StreamItem}
    (hst : stream ∈ s.thread.stage.stream) : s.step w (.item i) = s.onItem w stream i := by
  unfold PodWatch.step
  dsimp only
  rw [Option.mem_def.mp hst]

/-- The thread is gap-free, and the open stream is past the tracked version only by what was undecodable. -/
structure InSync (s : PodWatch) : Prop where
  fresh : s.listed = none → s.thread.rv = none ∧ s.offered = []
  since : ∀ l, s.listed = some l → l.1.Perm (podsAt s.api l.2) ∧
    ∃ v, l.2 ≤ v ∧ v ≤ s.api.head ∧ (∀ rv, s.thread.rv = some rv → v = rv) ∧
      s.offered = replay s.api l.1 l.2 v
  stream : ∀ stream, s.thread.stage.stream = some stream →
    ∃ rv, s.thread.rv = some rv ∧ rv ≤ stream.cursor ∧ stream.cursor ≤ s.api.head ∧
      (s.api.between rv stream.cursor = [] ↔ stream.undecodable = false)

namespace InSync

variable {w : PodWatcher} {s : PodWatch}

lemma gapFree (h : InSync s) : GapFree s where
  fresh := h.fresh
  since := by
    intro l hl
    obtain ⟨-, v, hv, -, hrv, hoff⟩ := h.since l hl
    exact ⟨v, hv, hrv, hoff⟩

lemma start (api : PodLog) (clock : Nat) : InSync { api, clock } where
  fresh := fun _ => ⟨rfl, rfl⟩
  since := by
    intro l hl
    cases hl
  stream := by
    intro stream hst
    cases hst

/-- Whatever a tracked version comes from, there was a LIST. -/
lemma tracked (h : InSync s) {rv : Nat} (hrv : s.thread.rv = some rv) :
    ∃ l, s.listed = some l ∧ l.1.Perm (podsAt s.api l.2) ∧ l.2 ≤ rv ∧ rv ≤ s.api.head ∧
      s.offered = replay s.api l.1 l.2 rv := by
  cases hl : s.listed with
  | none =>
    have hnone := (h.fresh hl).1
    rw [hrv] at hnone
    cases hnone
  | some l =>
    obtain ⟨hperm, v, hv, hhead, heq, hoff⟩ := h.since l hl
    obtain rfl := heq rv hrv
    exact ⟨l, rfl, hperm, hv, hhead, hoff⟩

/-! ### Growth of the log -/

/-- The log grows above its head only. -/
lemma grow (h : InSync s) {api : PodLog} (hhead : s.api.head ≤ api.head)
    (hbetween : ∀ v v', v' ≤ s.api.head → api.between v v' = s.api.between v v')
    (hupTo : ∀ v, v ≤ s.api.head → api.upTo v = s.api.upTo v) : InSync { s with api } where
  fresh := h.fresh
  since := by
    intro l hl
    obtain ⟨hperm, v, hv, hvhead, hrv, hoff⟩ := h.since l hl
    refine ⟨?_, v, hv, hvhead.trans hhead, hrv, ?_⟩
    · unfold podsAt at hperm ⊢
      rw [hupTo _ (hv.trans hvhead)]
      exact hperm
    · unfold replay at hoff ⊢
      rw [hbetween _ _ hvhead]
      exact hoff
  stream := by
    intro stream hst
    obtain ⟨rv, hrv, hle, hcursor, hsync⟩ := h.stream stream hst
    refine ⟨rv, hrv, hle, hcursor.trans hhead, ?_⟩
    rw [hbetween _ _ hcursor]
    exact hsync

lemma happens (h : InSync s) (type : EventType) (pod : Pod) (gap : Nat) :
    InSync (s.step w (.happens type pod gap)) := by
  apply h.grow
  · rw [EventLog.append_head]
    omega
  · intro v v' hv'
    exact s.api.between_append hv' gap _
  · intro v hv
    exact s.api.upTo_append hv gap _

lemma elsewhere (h : InSync s) (n : Nat) : InSync (s.step w (.elsewhere n)) := by
  apply h.grow
  · rw [EventLog.skip_head]
    omega
  · intro v v' _
    rfl
  · intro v _
    rfl

/-! ### Moves of the thread -/

/-- The thread leaves its stream, with the version it tracks or with none. -/
lemma leave (h : InSync s) {thread : WatchThread} (hstage : thread.stage.stream = none)
    (hrv : ∀ rv, thread.rv = some rv → s.thread.rv = some rv) : InSync { s with thread } where
  fresh := by
    intro hl
    refine ⟨?_, (h.fresh hl).2⟩
    cases hnew : thread.rv with
    | none => rfl
    | some rv =>
      have hold := hrv rv hnew
      rw [(h.fresh hl).1] at hold
      cases hold
  since := by
    intro l hl
    obtain ⟨hperm, v, hv, hhead, heq, hoff⟩ := h.since l hl
    exact ⟨hperm, v, hv, hhead, fun rv hnew => heq rv (hrv rv hnew), hoff⟩
  stream := by
    intro stream hst
    rw [hstage] at hst
    cases hst

lemma goTo (h : InSync s) {stage : WatchStage} (hstage : stage.stream = none) :
    InSync (s.goTo stage) :=
  h.leave hstage fun _ hrv => hrv

lemma except (h : InSync s) (e : WatchError) : InSync (s.except w e) := by
  unfold PodWatch.except
  split
  · refine h.leave rfl ?_
    intro rv hrv
    cases hrv
  · refine h.leave rfl ?_
    intro rv hrv
    cases hrv

/-- The thread goes on with a stream at a version, and has offered all up to it. -/
lemma arrive {s' : PodWatch} {stream : WatchStream} {l : List PodObject × Nat}
    (hstage : s'.thread.stage.stream = some stream) (hrv : s'.thread.rv = some stream.cursor)
    (hdecoded : stream.undecodable = false) (hlisted : s'.listed = some l)
    (hperm : l.1.Perm (podsAt s'.api l.2)) (hle : l.2 ≤ stream.cursor)
    (hhead : stream.cursor ≤ s'.api.head)
    (hoff : s'.offered = replay s'.api l.1 l.2 stream.cursor) : InSync s' where
  fresh := by
    intro hnone
    rw [hlisted] at hnone
    cases hnone
  since := by
    intro l' hl'
    rw [hlisted] at hl'
    obtain rfl := Option.some.inj hl'
    refine ⟨hperm, stream.cursor, hle, hhead, fun rv hrv' => ?_, hoff⟩
    rw [hrv] at hrv'
    exact Option.some.inj hrv'
  stream := by
    intro stream' hst
    rw [hstage] at hst
    obtain rfl := Option.some.inj hst
    refine ⟨stream.cursor, hrv, le_rfl, hhead, iff_of_true ?_ hdecoded⟩
    exact s'.api.between_self _

lemma list (h : InSync s) {outcome : ListOutcome} (hlists : s.ListsState outcome) :
    InSync (s.list w outcome) := by
  unfold PodWatch.list
  cases outcome with
  | raises e => exact InSync.except ⟨h.fresh, h.since, h.stream⟩ e
  | listed pods version =>
    obtain ⟨hhead, hperm⟩ := hlists
    have hoff : pods.map (fun p => (EventType.added, p)) = replay s.api pods version version := by
      unfold replay
      rw [EventLog.between_self, List.map_nil, List.append_nil]
    dsimp only
    exact arrive (l := (pods, version)) rfl rfl rfl rfl hperm le_rfl hhead hoff

lemma resume (h : InSync s) {rv : Nat} (hrv : s.thread.rv = some rv) :
    InSync (s.goTo (.streaming { cursor := rv })) := by
  obtain ⟨l, hl, hperm, hle, hhead, hoff⟩ := h.tracked hrv
  exact arrive rfl hrv rfl hl hperm hle hhead hoff

lemma cycle (h : InSync s) {outcome : ListOutcome} (hlists : s.ListsState outcome) :
    InSync (s.cycle w outcome) := by
  unfold PodWatch.cycle
  split
  · exact h.goTo rfl
  · cases hrv : s.thread.rv with
    | none => exact h.list hlists
    | some rv =>
      dsimp only
      split
      · exact h.list hlists
      · exact h.resume hrv

/-- An undecodable item leaves the tracked version behind the stream. -/
lemma undecodable (h : InSync s) {stream : WatchStream} (hst : s.thread.stage.stream = some stream)
    {e : Nat × EventType × Pod} (he : s.api.next stream.cursor = some e) :
    InSync (s.goTo (.streaming { stream with cursor := e.1, undecodable := true })) := by
  obtain ⟨hlt, hhead, hone⟩ := EventLog.next_spec he
  refine ⟨h.fresh, h.since, ?_⟩
  intro stream' hst'
  obtain rfl := Option.some.inj hst'
  obtain ⟨rv, hrv, hle, -, -⟩ := h.stream stream hst
  refine ⟨rv, hrv, hle.trans hlt.le, hhead, iff_of_false ?_ Bool.noConfusion⟩
  change s.api.between rv e.1 ≠ []
  rw [EventLog.between_split hle hlt.le, hone]
  simp

/-- What is offered with an event, and what a replay up to it holds besides: the events which the stream
had in between. -/
lemma offered_event (h : InSync s) {stream : WatchStream} (hst : s.thread.stage.stream = some stream)
    {e : Nat × EventType × Pod} (he : s.api.next stream.cursor = some e) {l : List PodObject × Nat}
    (hl : s.listed = some l) :
    ∃ rv, s.thread.rv = some rv ∧ l.2 ≤ e.1 ∧
      replay s.api l.1 l.2 e.1 =
        s.offered ++ (s.api.between rv stream.cursor).map yielded ++ [yielded e] := by
  obtain ⟨hlt, hhead, hone⟩ := EventLog.next_spec he
  obtain ⟨rv, hrv, hle, -, -⟩ := h.stream stream hst
  obtain ⟨l', hl', -, hle', -, hoff⟩ := h.tracked hrv
  rw [hl] at hl'
  obtain rfl := Option.some.inj hl'
  refine ⟨rv, hrv, by omega, ?_⟩
  rw [hoff, replay, replay, EventLog.between_split (hle'.trans hle) hlt.le,
    EventLog.between_split hle' hle, hone]
  simp

/-- An event is taken from a stream which is in step with the tracked version. -/
lemma event (h : InSync s) {stream : WatchStream} (hst : s.thread.stage.stream = some stream)
    (hdecoded : s.stopEvent = false → stream.undecodable = false) :
    InSync (s.onItem w stream .event) := by
  unfold PodWatch.onItem
  dsimp only
  by_cases hstop : s.stopEvent = true
  · rw [if_pos hstop]
    exact h.goTo rfl
  rw [if_neg hstop]
  rw [Bool.not_eq_true] at hstop
  cases he : s.api.next stream.cursor with
  | none => exact h
  | some e =>
    obtain ⟨rv, hrv, -, -, hsync⟩ := h.stream stream hst
    obtain ⟨l, hl, hperm, -⟩ := h.tracked hrv
    obtain ⟨rv', hrv', hle, hoff⟩ := h.offered_event hst he hl
    rw [hrv] at hrv'
    obtain rfl := Option.some.inj hrv'
    rw [hsync.mpr (hdecoded hstop), List.map_nil, List.append_nil] at hoff
    exact arrive rfl rfl (hdecoded hstop) hl hperm hle (EventLog.next_spec he).2.1 hoff.symm

lemma bookmark (h : InSync s) {stream : WatchStream} (hst : s.thread.stage.stream = some stream)
    {version : Option Nat} (hyields : s.Yields stream (.bookmark version))
    (hdecoded : s.stopEvent = false → version.isSome = true → stream.undecodable = false) :
    InSync (s.onItem w stream (.bookmark version)) := by
  unfold PodWatch.onItem
  dsimp only
  by_cases hstop : s.stopEvent = true
  · rw [if_pos hstop]
    exact h.goTo rfl
  rw [if_neg hstop]
  rw [Bool.not_eq_true] at hstop
  obtain ⟨rv, hrv, hle, hcursor, hsync⟩ := h.stream stream hst
  cases version with
  | none =>
    refine ⟨h.fresh, h.since, ?_⟩
    intro stream' hst'
    obtain rfl := Option.some.inj hst'
    exact ⟨rv, hrv, hle, hcursor, hsync⟩
  | some b =>
    obtain ⟨hb, hhead, hskip⟩ := hyields
    obtain ⟨l, hl, hperm, hle', -, hoff⟩ := h.tracked hrv
    refine arrive rfl rfl (hdecoded hstop rfl) hl hperm (hle'.trans (hle.trans hb)) hhead ?_
    change s.offered = replay s.api l.1 l.2 b
    rw [hoff, replay, replay, EventLog.between_split hle' (hle.trans hb), EventLog.between_split hle hb,
      hsync.mpr (hdecoded hstop rfl), hskip]
    simp

lemma item (h : InSync s) {stream : WatchStream} (hst : s.thread.stage.stream = some stream)
    {i : StreamItem} (hyields : s.Yields stream i) (hovertakes : ¬ Overtakes s (.item i)) :
    InSync (s.onItem w stream i) := by
  cases i with
  | closed => exact h.leave rfl fun _ hrv => hrv
  | raises e => exact h.except e
  | undecodable =>
    rw [PodWatch.onItem]
    split
    · exact h.goTo rfl
    cases he : s.api.next stream.cursor with
    | none => exact h
    | some e => exact h.undecodable hst he
  | bookmark version =>
    refine h.bookmark hst hyields fun hstop hsome => ?_
    cases version with
    | none => cases hsome
    | some b => simpa [Overtakes, advances, hstop, hst] using hovertakes
  | event =>
    refine h.event hst fun hstop => ?_
    simpa [Overtakes, advances, hstop, hst] using hovertakes

lemma step (h : InSync s) {m : WatchMove} (hm : s.Possible m) (hovertakes : ¬ Overtakes s m) :
    InSync (s.step w m) := by
  cases m with
  | happens type pod gap => exact h.happens type pod gap
  | elsewhere n => exact h.elsewhere n
  | elapse n => exact ⟨h.fresh, h.since, h.stream⟩
  | stop => exact ⟨h.fresh, h.since, h.stream⟩
  | runOffer =>
    unfold PodWatch.step
    cases s.scheduled with
    | nil => exact h
    | cons item rest => exact ⟨h.fresh, h.since, h.stream⟩
  | take =>
    unfold PodWatch.step
    cases s.queue.items with
    | nil => exact h
    | cons item rest => exact ⟨h.fresh, h.since, h.stream⟩
  | cycle outcome => exact h.cycle hm.2
  | item i =>
    obtain ⟨stream, hst, hyields⟩ := hm
    rw [step_item hst]
    exact h.item hst hyields hovertakes
  | wake =>
    apply h.goTo
    split <;> rfl

/-! ### Overtaking -/

lemma missed (h : InSync s) {stream : WatchStream} (hst : s.thread.stage.stream = some stream)
    (hundecodable : stream.undecodable = true) :
    ∃ rv, s.thread.rv = some rv ∧ rv ≤ stream.cursor ∧ s.api.between rv stream.cursor ≠ [] := by
  obtain ⟨rv, hrv, hle, -, hsync⟩ := h.stream stream hst
  refine ⟨rv, hrv, hle, ?_⟩
  rw [ne_eq, hsync, hundecodable]
  exact Bool.noConfusion

/-- An event which is taken leaves out those in between. -/
lemma not_gapFree_event (h : InSync s) {stream : WatchStream} (hst : s.thread.stage.stream = some stream)
    (hyields : s.Yields stream .event) (hstop : s.stopEvent = false)
    (hundecodable : stream.undecodable = true) : ¬ GapFree (s.onItem w stream .event) := by
  obtain ⟨e, he⟩ := Option.isSome_iff_exists.mp hyields
  obtain ⟨rv, hrv, -, hmissed⟩ := h.missed hst hundecodable
  obtain ⟨l, hl, -⟩ := h.tracked hrv
  obtain ⟨rv', hrv', -, hoff⟩ := h.offered_event hst he hl
  rw [hrv] at hrv'
  obtain rfl := Option.some.inj hrv'
  unfold PodWatch.onItem
  dsimp only
  rw [if_neg (by rw [hstop]; exact Bool.noConfusion), he]
  intro hgap
  obtain ⟨v, -, hv, hgap⟩ := hgap.since l hl
  obtain rfl := hv e.1 rfl
  have hlength : (s.offered ++ [yielded e]).length = (replay s.api l.1 l.2 e.1).length :=
    congrArg List.length hgap
  rw [hoff] at hlength
  apply hmissed
  simpa using hlength

lemma not_gapFree_bookmark (h : InSync s) {stream : WatchStream}
    (hst : s.thread.stage.stream = some stream) {b : Nat} (hyields : s.Yields stream (.bookmark (some b)))
    (hstop : s.stopEvent = false) (hundecodable : stream.undecodable = true) :
    ¬ GapFree (s.onItem w stream (.bookmark (some b))) := by
  obtain ⟨hb, -, -⟩ := hyields
  obtain ⟨rv, hrv, hle, hmissed⟩ := h.missed hst hundecodable
  obtain ⟨l, hl, -, hle', -, hoff⟩ := h.tracked hrv
  unfold PodWatch.onItem
  dsimp only
  rw [if_neg (by rw [hstop]; exact Bool.noConfusion)]
  intro hgap
  obtain ⟨v, -, hv, hgap⟩ := hgap.since l hl
  obtain rfl : b = v := (hv b rfl).symm
  have hlength : s.offered.length = (replay s.api l.1 l.2 b).length := congrArg List.length hgap
  rw [hoff, replay, replay, EventLog.between_split hle' (hle.trans hb), EventLog.between_split hle hb]
    at hlength
  have hnone : s.api.between rv stream.cursor = [] ∧ s.api.between stream.cursor b = [] := by
    simpa using hlength
  exact hmissed hnone.1

lemma not_gapFree (h : InSync s) {m : WatchMove} (hm : s.Possible m) (hovertakes : Overtakes s m) :
    ¬ GapFree (s.step w m) := by
  cases m with
  | item i =>
    obtain ⟨stream, hst, hyields⟩ := hm
    cases i with
    | event =>
      obtain ⟨-, hstop, stream', hst', hundecodable⟩ := hovertakes
      obtain rfl := Option.mem_unique hst hst'
      rw [step_item hst]
      exact h.not_gapFree_event hst hyields hstop hundecodable
    | bookmark version =>
      cases version with
      | none => cases hovertakes.1
      | some b =>
        obtain ⟨-, hstop, stream', hst', hundecodable⟩ := hovertakes
        obtain rfl := Option.mem_unique hst hst'
        rw [step_item hst]
        exact h.not_gapFree_bookmark hst hyields hstop hundecodable
    | undecodable => cases hovertakes.1
    | closed => cases hovertakes.1
    | raises e => cases hovertakes.1
  | happens type pod gap => cases hovertakes.1
  | elsewhere n => cases hovertakes.1
  | elapse n => cases hovertakes.1
  | stop => cases hovertakes.1
  | runOffer => cases hovertakes.1
  | take => cases hovertakes.1
  | cycle outcome => cases hovertakes.1
  | wake => cases hovertakes.1

end InSync

/-- In every run of the thread against a server and an event loop, what is offered since the last LIST is
gap-free throughout exactly if nothing overtakes an undecodable event. -/
theorem watch_gapFree_iff (w : PodWatcher) (api : PodLog) (clock : Nat) (moves : List WatchMove)
    (hmoves : respects (PodWatch.step w) PodWatch.Possible { api, clock } moves) :
    throughout (PodWatch.step w) GapFree { api, clock } moves ↔
      respects (PodWatch.step w) (fun s m => ¬ Overtakes s m) { api, clock } moves :=
  throughout_iff_respects_of (fun _ h => h.gapFree) (fun _ _ h hm ho => h.step hm ho)
    (fun _ _ h hm ho => h.not_gapFree hm (not_not.mp ho)) (InSync.start api clock) hmoves

def watchedPod (uid : Uid) : Pod where
  uid := uid
  ns := "lab"
  name := uid
  gpuClass := "a100"
  gpuCount := 1

/-- The deletion is undecodable, the stream closes cleanly, and the next one yields it; then the version
expires. -/
def resumedMoves : List WatchMove :=
  [.happens .added (watchedPod "u") 0,
    .cycle (.listed [{ pod := watchedPod "u", resourceVersion := 1 }] 1),
    .happens .deleted (watchedPod "u") 2, .item .undecodable, .item .closed, .cycle (.raises .other),
    .item .event, .elsewhere 3, .item (.bookmark (some 6)), .item (.raises (.apiException 410)),
    .cycle (.listed [] 7)]

theorem watch_gapFree_iff_resumed :
    respects (PodWatch.step {}) PodWatch.Possible {} resumedMoves ∧
      throughout (PodWatch.step {}) GapFree {} resumedMoves :=
  ⟨by decide, (watch_gapFree_iff {} EventLog.empty 0 resumedMoves (by decide)).mpr (by decide)⟩

/-- The deletion is undecodable, and the next event is taken from the same stream. -/
def overtakingMoves : List WatchMove :=
  [.happens .added (watchedPod "u") 0,
    .cycle (.listed [{ pod := watchedPod "u", resourceVersion := 1 }] 1),
    .happens .deleted (watchedPod "u") 0, .happens .added (watchedPod "v") 0, .item .undecodable,
    .item .event]

theorem watch_not_gapFree :
    ¬ ∀ (w : PodWatcher) (api : PodLog) (clock : Nat) (moves : List WatchMove),
      respects (PodWatch.step w) PodWatch.Possible { api, clock } moves →
        throughout (PodWatch.step w) GapFree { api, clock } moves := by
  intro h
  have hgap := throughout_last (h {} EventLog.empty 0 overtakingMoves (by decide))
  obtain ⟨v, -, hv, hoff⟩ := hgap.since _ rfl
  obtain rfl := hv 3 rfl
  exact absurd (congrArg List.length hoff) (by decide)

/-! ### What a gap-free sequence is good for -/

lemma afterEvent_perm {pods pods' : List PodObject} (h : pods.Perm pods') (e : WatchEvent) :
    (afterEvent pods e).Perm (afterEvent pods' e) := by
  unfold afterEvent
  dsimp only
  split
  · exact h.filter _
  · exact (h.filter _).append_right _

lemma foldl_afterEvent_perm {pods pods' : List PodObject} (h : pods.Perm pods') (es : List WatchEvent) :
    (es.foldl afterEvent pods).Perm (es.foldl afterEvent pods') := by
  induction es generalizing pods pods' with
  | nil => exact h
  | cons e es ih => exact ih (afterEvent_perm h e)

/-- There is at most one pod for a uid. -/
def OnePerUid (pods : List PodObject) : Prop := pods.Pairwise fun p p' => p.pod.uid ≠ p'.pod.uid

lemma OnePerUid.afterEvent {pods : List PodObject} (h : OnePerUid pods) (e : WatchEvent) :
    OnePerUid (afterEvent pods e) := by
  unfold Model.afterEvent
  dsimp only
  split
  · exact List.Pairwise.filter _ h
  · refine List.pairwise_append.mpr ⟨List.Pairwise.filter _ h, List.pairwise_singleton _ _, ?_⟩
    intro p hp p' hp'
    obtain rfl := List.mem_singleton.mp hp'
    simpa using (List.mem_filter.mp hp).2

lemma onePerUid_podsAt (api : PodLog) (version : Nat) : OnePerUid (podsAt api version) := by
  unfold podsAt
  generalize (api.upTo version).map yielded = es
  induction es using List.reverseRecOn with
  | nil => exact List.Pairwise.nil
  | append_singleton es e ih =>
    rw [List.foldl_append]
    exact ih.afterEvent e

lemma foldl_added {before pods : List PodObject} (h : OnePerUid (before ++ pods)) :
    (pods.map fun p => (EventType.added, p)).foldl afterEvent before = before ++ pods := by
  induction pods generalizing before with
  | nil => simp
  | cons p pods ih =>
    have hkept : before.filter (fun q => q.pod.uid ≠ p.pod.uid) = before := by
      rw [List.filter_eq_self]
      intro q hq
      have hne := (List.pairwise_append.mp h).2.2 q hq p List.mem_cons_self
      simpa using hne
    have hnext : afterEvent before (.added, p) = before ++ [p] := by
      unfold afterEvent
      dsimp only
      rw [hkept, if_neg (by decide)]
    rw [List.map_cons, List.foldl_cons, hnext, ih (by rwa [List.append_assoc]), List.append_assoc]
    rfl

theorem replay_rebuilds {api : PodLog} {pods : List PodObject} {version v : Nat}
    (hperm : pods.Perm (podsAt api version)) (hle : version ≤ v) :
    ((replay api pods version v).foldl afterEvent []).Perm (podsAt api v) := by
  have hone : OnePerUid ([] ++ pods) :=
    hperm.symm.pairwise (onePerUid_podsAt api version) fun h => h.symm
  unfold replay podsAt
  rw [List.foldl_append, foldl_added hone, List.nil_append, EventLog.upTo_split hle,
    List.map_append, List.foldl_append]
  exact foldl_afterEvent_perm hperm _

/-- A consumer which goes by what was offered since the last LIST has the pods of the tracked version. -/
theorem watch_rebuilds (w : PodWatcher) (api : PodLog) (clock : Nat) (moves : List WatchMove)
    (hmoves : respects (PodWatch.step w) PodWatch.Possible { api, clock } moves)
    (hovertakes : respects (PodWatch.step w) (fun s m => ¬ Overtakes s m) { api, clock } moves) :
    throughout (PodWatch.step w)
      (fun s => ∀ rv, s.thread.rv = some rv → (s.offered.foldl afterEvent []).Perm (podsAt s.api rv))
      { api, clock } moves := by
  have hsync : throughout (PodWatch.step w) InSync { api, clock } moves :=
    throughout_of_respects (fun _ _ h hm => h.step hm.1 hm.2) (InSync.start api clock)
      (respects_and.mpr ⟨hmoves, hovertakes⟩)
  refine throughout_mono (fun s h rv hrv => ?_) hsync
  obtain ⟨l, -, hperm, hle, -, hoff⟩ := h.tracked hrv
  rw [hoff]
  exact replay_rebuilds hperm hle

/-! ### The queue -/

/-- What was offered is what has gone through the queue, what is in it and what is on its way to it, in this
order; what has gone and was not taken was dropped. -/
def QueueInOrder (s : PodWatch) : Prop :=
  ∃ gone, s.earlier ++ s.offered = gone ++ s.queue.items ++ s.scheduled ∧ s.taken.Sublist gone ∧
    gone.length = s.taken.length + s.queue.dropped

namespace QueueInOrder

variable {w : PodWatcher} {s : PodWatch}

lemma frame (h : QueueInOrder s) {s' : PodWatch} (hearlier : s'.earlier = s.earlier)
    (hoffered : s'.offered = s.offered) (hqueue : s'.queue = s.queue)
    (hscheduled : s'.scheduled = s.scheduled) (htaken : s'.taken = s.taken) : QueueInOrder s' := by
  unfold QueueInOrder
  rw [hearlier, hoffered, hqueue, hscheduled, htaken]
  exact h

/-- More is offered, and scheduled. -/
lemma offer (h : QueueInOrder s) {s' : PodWatch} (items : List WatchEvent)
    (hoffered : s'.earlier ++ s'.offered = s.earlier ++ s.offered ++ items) (hqueue : s'.queue = s.queue)
    (hscheduled : s'.scheduled = s.scheduled ++ items) (htaken : s'.taken = s.taken) :
    QueueInOrder s' := by
  obtain ⟨gone, hall, hsub, hlength⟩ := h
  unfold QueueInOrder
  rw [hoffered, hqueue, hscheduled, htaken, hall]
  exact ⟨gone, by simp only [List.append_assoc], hsub, hlength⟩

lemma except (h : QueueInOrder s) (e : WatchError) : QueueInOrder (s.except w e) := by
  unfold PodWatch.except
  split <;> exact h.frame rfl rfl rfl rfl rfl

lemma list (h : QueueInOrder s) (outcome : ListOutcome) : QueueInOrder (s.list w outcome) := by
  unfold PodWatch.list
  cases outcome with
  | raises e => exact except (h.frame rfl rfl rfl rfl rfl) e
  | listed pods version => exact h.offer _ rfl rfl rfl rfl

lemma cycle (h : QueueInOrder s) (outcome : ListOutcome) : QueueInOrder (s.cycle w outcome) := by
  unfold PodWatch.cycle
  split
  · exact h.frame rfl rfl rfl rfl rfl
  · cases s.thread.rv with
    | none => exact h.list outcome
    | some rv =>
      dsimp only
      split
      · exact h.list outcome
      · exact h.frame rfl rfl rfl rfl rfl

lemma item (h : QueueInOrder s) (stream : WatchStream) (i : StreamItem) :
    QueueInOrder (s.onItem w stream i) := by
  unfold PodWatch.onItem
  cases i with
  | closed => exact h.frame rfl rfl rfl rfl rfl
  | raises e => exact h.except e
  | undecodable =>
    dsimp only
    split
    · exact h.frame rfl rfl rfl rfl rfl
    · cases s.api.next stream.cursor with
      | none => exact h
      | some e => exact h.frame rfl rfl rfl rfl rfl
  | bookmark version =>
    dsimp only
    split
    · exact h.frame rfl rfl rfl rfl rfl
    · cases version <;> exact h.frame rfl rfl rfl rfl rfl
  | event =>
    dsimp only
    split
    · exact h.frame rfl rfl rfl rfl rfl
    · cases s.api.next stream.cursor with
      | none => exact h
      | some e => exact h.offer [yielded e] (List.append_assoc _ _ _).symm rfl rfl rfl

/-- The oldest event of a full queue is gone. -/
lemma runOffer (h : QueueInOrder s) : QueueInOrder (s.step w .runOffer) := by
  unfold PodWatch.step
  cases hscheduled : s.scheduled with
  | nil => exact h
  | cons item rest =>
    obtain ⟨gone, hall, hsub, hlength⟩ := h
    rw [hscheduled] at hall
    dsimp only
    unfold PodWatcher.offer
    by_cases hfull : 0 < w.queueMaxsize ∧ w.queueMaxsize ≤ s.queue.items.length
    · rw [if_pos hfull]
      cases hitems : s.queue.items with
      | nil =>
        rw [hitems, List.length_nil] at hfull
        omega
      | cons oldest items =>
        rw [hitems] at hall
        refine ⟨gone ++ [oldest], ?_, hsub.trans (List.sublist_append_left _ _), ?_⟩
        · simpa using hall
        · simp only [List.length_append, List.length_singleton]
          omega
    · rw [if_neg hfull]
      exact ⟨gone, by simpa using hall, hsub, hlength⟩

lemma take (h : QueueInOrder s) : QueueInOrder (s.step w .take) := by
  unfold PodWatch.step
  cases hitems : s.queue.items with
  | nil => exact h
  | cons item rest =>
    obtain ⟨gone, hall, hsub, hlength⟩ := h
    rw [hitems] at hall
    refine ⟨gone ++ [item], ?_, hsub.append (List.Sublist.refl _), ?_⟩
    · simpa using hall
    · simp only [List.length_append, List.length_singleton]
      omega

lemma step (h : QueueInOrder s) (m : WatchMove) : QueueInOrder (s.step w m) := by
  cases m with
  | happens type pod gap => exact h.frame rfl rfl rfl rfl rfl
  | elsewhere n => exact h.frame rfl rfl rfl rfl rfl
  | elapse n => exact h.frame rfl rfl rfl rfl rfl
  | stop => exact h.frame rfl rfl rfl rfl rfl
  | runOffer => exact h.runOffer
  | take => exact h.take
  | cycle outcome => exact h.cycle outcome
  | item i =>
    unfold PodWatch.step
    dsimp only
    cases s.thread.stage.stream with
    | none => exact h
    | some stream => exact h.item stream i
  | wake => exact h.frame rfl rfl rfl rfl rfl

end QueueInOrder

theorem watch_queueInOrder (w : PodWatcher) (api : PodLog) (clock : Nat) (moves : List WatchMove) :
    throughout (PodWatch.step w) QueueInOrder { api, clock } moves :=
  throughout_of_respects (C := fun _ _ => True) (fun _ m h _ => h.step m)
    ⟨[], rfl, List.Sublist.refl _, rfl⟩ (respects_of_forall fun _ _ _ => trivial)

/-- As long as nothing was dropped, the consumer takes what was offered, without a gap. -/
theorem taken_prefix {s : PodWatch} (h : QueueInOrder s) (hdropped : s.queue.dropped = 0) :
    s.taken <+: s.earlier ++ s.offered := by
  obtain ⟨gone, hall, hsub, hlength⟩ := h
  rw [hdropped, Nat.add_zero] at hlength
  rw [hsub.eq_of_length hlength.symm, hall, List.append_assoc]
  exact List.prefix_append _ _

end GpuReservation.Proofs
