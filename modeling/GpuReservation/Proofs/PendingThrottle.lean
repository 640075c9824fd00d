import GpuReservation.Library.Machine
import GpuReservation.Model.QueueTick
import Mathlib.Data.List.Chain

/-!
# The throttle of the status Events

Posts of status Events by any number of tasks, with the due-test of a post, its write and its record
each in a step of its own.  Where no test is made while another post of the same account is under way,
the Events of an account are spaced; and only a post which succeeded ever suppresses another one.
-/

namespace GpuReservation.Proofs

open GpuReservation.Library GpuReservation.Model

/-- One call of `_post_pending_status`. -/
structure Post where
  uid : Uid
  ns : String
  name : String
  topic : PendingTopic
  key : StatusKey
  at_ : Instant

namespace Post

def program (config : Config) (p : Post) : Ctl Unit :=
  postPendingStatus config p.uid p.ns p.name p.topic p.key p.at_

/-- What the post does once the write of its Event came to its end. -/
def conclude (p : Post) (emitted : Bool) : Ctl Unit :=
  if emitted then Prog.modify fun s => s.recordPendingStatus p.uid p.topic p.key p.at_ else return ()

def repeatAfter (config : Config) : Int := minutes config.ondemandDenialEventRepeatMinutes

def due (config : Config) (p : Post) (s : ControllerState) : Bool :=
  s.pendingStatusDue p.uid p.topic p.key p.at_ (repeatAfter config)

/-- The pod the post tells, and the topic it tells it on. -/
def account (p : Post) : Uid × PendingTopic := (p.uid, p.topic)

end Post

/-- What else the controller does: as far as the accounts go, it forgets that of a pod, forgets the
old ones, or leaves them as they are. -/
inductive AccountEvent
  | forget (uid : Uid)
  | prune (cutoff : Instant)
  | other (f : ControllerState → ControllerState) (h : ∀ s, (f s).pendingStatus = s.pendingStatus)

def AccountEvent.effect : AccountEvent → ControllerState → ControllerState
  | .forget uid, s => s.forgetPendingStatus uid
  | .prune cutoff, s => s.prunePendingStatus cutoff
  | .other f _, s => f s

/-- How far a post has come: the write of its Event may have been answered well before the task goes
on. -/
inductive PostStage
  | begun
  | awaiting
  | answered (emitted : Bool)
  | done

/-- The posts there are, and the Events written so far. -/
structure Posting where
  shared : ControllerState
  posts : List (Post × PostStage) := []
  written : List Post := []

abbrev PostMove := Move Post Choice AccountEvent

namespace Posting

/-- The post `i` comes so far, with the state and the Events as they are then. -/
def put (m : Posting) (i : Nat) (p : Post) (phase : PostStage) (s : ControllerState)
    (written : List Post) : Posting :=
  ⟨s, m.posts.set i (p, phase), written⟩

/-- A task goes on with its post, up to where it awaits or ends. -/
def goOn (config : Config) (m : Posting) (i : Nat) : Posting :=
  match m.posts[i]? with
  | some (p, .begun) =>
    m.put i p (if p.due config m.shared then .awaiting else .done) m.shared m.written
  | some (p, .answered emitted) =>
    m.put i p .done
      (if emitted then m.shared.recordPendingStatus p.uid p.topic p.key p.at_ else m.shared) m.written
  | _ => m

/-- The write of an Event is answered. -/
def answer (m : Posting) (i : Nat) (emitted : Bool) : Posting :=
  match m.posts[i]? with
  | some (p, .awaiting) =>
    m.put i p (.answered emitted) m.shared (if emitted then m.written ++ [p] else m.written)
  | _ => m

def step (config : Config) (m : Posting) : PostMove → Posting
  | .spawn p => { m with posts := m.posts ++ [(p, .begun)] }
  | .run i _ => m.goOn config i
  | .serve i choice => m.answer i choice.outcome.replied
  | .event e => { m with shared := e.effect m.shared }

end Posting

section Pool

variable (config : Config)

def PostStage.task (p : Post) : PostStage → Task ControllerState Request Answer
  | .begun => .ready (p.program config)
  | .awaiting => .waiting (.emitPodEvent p.uid p.ns p.name (.status p.key)) p.conclude
  | .answered emitted => .ready (p.conclude emitted)
  | .done => .finished

/-- The tasks of the controller which stand so. -/
def Posting.pool (m : Posting) (w : World) : Pool ControllerState World Request Answer Post where
  snap := ⟨m.shared, w⟩
  tasks := m.posts.map fun x => (x.1, x.2.task config x.1)

lemma pool_put (m : Posting) (w : World) (i : Nat) (p : Post) (phase : PostStage) (s : ControllerState)
    (written : List Post) : (m.put i p phase s written).pool config w =
      (m.pool config w).setTask i p (phase.task config p) ⟨s, w⟩ := by
  rw [Posting.pool, Pool.setTask, Posting.put]
  simp only [Posting.pool, List.map_set]

/-- The posts are the programs of the controller, run as tasks of a pool. -/
theorem step_pool (m : Posting) (w : World) (mv : PostMove) :
    Library.step runtime (Post.program config)
      (fun e σ => { σ with shared := AccountEvent.effect e σ.shared }) (m.pool config w) mv =
      (m.step config mv).pool config w := by
  have htask : ∀ i : Nat, (m.pool config w).tasks[i]? =
      (m.posts[i]?).map fun x => (x.1, x.2.task config x.1) := fun i => List.getElem?_map
  cases mv with
  | spawn p =>
    rw [Library.step, Posting.step, Posting.pool, Posting.pool]
    simp only [List.map_append]
    rfl
  | event e => rfl
  | serve i choice =>
    rw [Library.step, Posting.step, Posting.answer, htask]
    rcases hpost : m.posts[i]? with _ | ⟨p, phase⟩
    · rfl
    · cases phase with
      | awaiting =>
        dsimp only
        rw [pool_put]
        rfl
      | _ => rfl
  | run i cs =>
    rw [Library.step, Posting.step, Posting.goOn, htask]
    rcases hpost : m.posts[i]? with _ | ⟨p, phase⟩
    · rfl
    · cases phase with
      | begun =>
        dsimp only
        rw [pool_put]
        change (m.pool config w).setTask i p (advance runtime i (p.program config) cs ⟨m.shared, w⟩).1
          (advance runtime i (p.program config) cs ⟨m.shared, w⟩).2 = _
        have hprogram : advance runtime i (p.program config) cs ⟨m.shared, w⟩ =
            advance runtime i (if p.due config m.shared then
              (.call (.emitPodEvent p.uid p.ns p.name (.status p.key)) p.conclude : Ctl Unit)
              else .ret ()) cs ⟨m.shared, w⟩ := rfl
        rw [hprogram]
        cases p.due config m.shared <;> rfl
      | answered emitted =>
        dsimp only
        rw [pool_put]
        cases emitted <;> rfl
      | _ => rfl

end Pool

/-- What an account says was told last. -/
def told (s : ControllerState) (a : Uid × PendingTopic) : Option PendingStatus :=
  ((s.pendingStatus.get? a.1).getD ∅).get? a.2

section Told

variable (s : ControllerState) (a : Uid × PendingTopic)

lemma told_record (p : Post) : told (s.recordPendingStatus p.uid p.topic p.key p.at_) a =
    if a = p.account then some ⟨p.key, p.at_⟩ else told s a := by
  change (((s.pendingStatus.set p.uid _).get? a.1).getD ∅).get? a.2 = _
  rw [Dict.get?_set]
  by_cases huid : a.1 = p.uid
  · rw [if_pos huid, Option.getD_some, Dict.get?_set]
    by_cases htopic : a.2 = p.topic
    · rw [if_pos htopic, if_pos (Prod.ext huid htopic)]
    · rw [if_neg htopic, if_neg fun h => htopic (congrArg Prod.snd h), told, huid]
  · rw [if_neg huid, if_neg fun h => huid (congrArg Prod.fst h)]
    rfl

variable {s a} in
lemma told_congr {s' : ControllerState} (h : s'.pendingStatus.get? a.1 = s.pendingStatus.get? a.1) :
    told s' a = told s a := by
  rw [told, told, h]

variable {s a} in
lemma told_eq_none (h : s.pendingStatus.get? a.1 = none) : told s a = none := by
  rw [told, h]
  rfl

/-- Whatever else the controller does, an account stays as it is or is forgotten. -/
lemma told_effect (e : AccountEvent) : told (e.effect s) a = told s a ∨ told (e.effect s) a = none := by
  have herase : ∀ (d : Dict Uid (Dict PendingTopic PendingStatus)) uid,
      (d.erase uid).get? a.1 = d.get? a.1 ∨ (d.erase uid).get? a.1 = none := by
    intro d uid
    rw [Dict.get?_erase]
    split
    · exact .inr rfl
    · exact .inl rfl
  cases e with
  | forget uid => exact (herase s.pendingStatus uid).imp told_congr told_eq_none
  | other f h => exact .inl (told_congr (congrArg (fun d => Dict.get? d a.1) (h s)))
  | prune cutoff =>
    change told (s.prunePendingStatus cutoff) a = told s a ∨ told (s.prunePendingStatus cutoff) a = none
    have hkept : (s.prunePendingStatus cutoff).pendingStatus.get? a.1 = s.pendingStatus.get? a.1 ∨
        (s.prunePendingStatus cutoff).pendingStatus.get? a.1 = none := by
      refine List.foldlRecOn (motive := fun d : Dict Uid (Dict PendingTopic PendingStatus) =>
        d.get? a.1 = s.pendingStatus.get? a.1 ∨ d.get? a.1 = none) s.pendingStatus.keys _ (.inl rfl)
        fun d hd uid _ => ?_
      split
      · exact hd
      · split
        · rcases herase d uid with h | h
          · exact hd.imp h.trans h.trans
          · exact .inr h
        · exact hd
    exact hkept.imp told_congr told_eq_none

lemma due_iff (config : Config) (p : Post) : p.due config s = true ↔
    ∀ t, told s p.account = some t → t.key = p.key → t.at_ + Post.repeatAfter config ≤ p.at_ := by
  have htold : told s p.account = ((s.pendingStatus.get? p.uid).getD ∅).get? p.topic := rfl
  rw [Post.due, ControllerState.pendingStatusDue, htold]
  split
  · rename_i hnone
    rw [hnone]
    refine iff_of_true rfl fun t ht => ?_
    cases ht
  · rename_i t hsome
    rw [hsome]
    rw [Bool.or_eq_true, decide_eq_true_iff, decide_eq_true_iff]
    constructor
    · rintro h _ ⟨⟩ hkey
      exact Int.add_le_of_le_sub_left (h.resolve_left fun hne => hne hkey)
    · intro h
      by_cases hkey : t.key = p.key
      · exact .inr (Int.le_sub_left_of_add_le (h t rfl hkey))
      · exact .inl hkey

end Told

/-- The Event of an account written last. -/
def lastWritten (written : List Post) (a : Uid × PendingTopic) : Option Post :=
  (written.filter fun p => p.account = a).getLast?

/-- Of each account, an Event which says what the one before it said is an interval later. -/
def Chained (interval : Int) (written : List Post) : Prop :=
  ∀ a, (written.filter fun p => p.account = a).IsChain
    fun p q => p.key = q.key → p.at_ + interval ≤ q.at_

/-- Two Events of an account which say the same, with none that says something else between them, are
an interval apart. -/
def Spaced (interval : Int) (written : List Post) : Prop :=
  ∀ before p between q after, written = before ++ p :: between ++ q :: after →
    p.account = q.account → p.key = q.key →
      (∀ r ∈ between, r.account = p.account → r.key = p.key) → p.at_ + interval ≤ q.at_

section Written

variable {interval : Int} {written : List Post}

lemma lastWritten_append (written : List Post) (p : Post) (a : Uid × PendingTopic) :
    lastWritten (written ++ [p]) a = if p.account = a then some p else lastWritten written a := by
  rw [lastWritten, List.filter_append]
  by_cases ha : p.account = a
  · rw [if_pos ha, List.filter_cons_of_pos (by simpa using ha), List.filter_nil,
      List.getLast?_append, List.getLast?_singleton]
    rfl
  · rw [if_neg ha, List.filter_cons_of_neg (by simpa using ha), List.filter_nil, List.append_nil]
    rfl

lemma account_of_lastWritten {a : Uid × PendingTopic} {p : Post}
    (h : lastWritten written a = some p) : p ∈ written ∧ p.account = a := by
  have hmem := List.mem_filter.mp (List.mem_of_getLast? h)
  exact ⟨hmem.1, by simpa using hmem.2⟩

lemma Chained.append (h : Chained interval written) {p : Post}
    (hp : ∀ q, lastWritten written p.account = some q → q.key = p.key → q.at_ + interval ≤ p.at_) :
    Chained interval (written ++ [p]) := by
  intro a
  rw [List.filter_append]
  by_cases ha : p.account = a
  · subst ha
    rw [List.filter_cons_of_pos (by simp), List.filter_nil]
    refine List.isChain_append.mpr ⟨h p.account, List.isChain_singleton p, fun q hq r hr => ?_⟩
    obtain rfl : p = r := by simpa using hr
    exact hp q hq
  · rw [List.filter_cons_of_neg (by simpa using ha), List.filter_nil, List.append_nil]
    exact h a

/-- Along a chain of Events which all say the same, the instants go up by an interval at each. -/
lemma le_of_isChain (hinterval : 0 ≤ interval) {p q : Post} {l : List Post}
    (h : (p :: (l ++ [q])).IsChain fun p q => p.key = q.key → p.at_ + interval ≤ q.at_)
    (hsame : ∀ r ∈ l, r.key = p.key) (hkey : p.key = q.key) : p.at_ + interval ≤ q.at_ := by
  induction l generalizing p with
  | nil => exact (List.isChain_cons_cons.mp h).1 hkey
  | cons r l ih =>
    obtain ⟨hr, hl⟩ := List.forall_mem_cons.mp hsame
    obtain ⟨hstep, hrest⟩ := List.isChain_cons_cons.mp h
    have hrq := ih hrest (fun x hx => (hl x hx).trans hr.symm) (hr.trans hkey)
    calc p.at_ + interval ≤ r.at_ := hstep hr.symm
      _ ≤ r.at_ + interval := le_add_of_nonneg_right hinterval
      _ ≤ q.at_ := hrq

lemma Chained.spaced (hinterval : 0 ≤ interval) (h : Chained interval written) :
    Spaced interval written := by
  rintro before p between q after rfl haccount hkey hsame
  have hchain := h p.account
  have hsplit : ((before ++ p :: between ++ q :: after).filter fun r => r.account = p.account) =
      before.filter (fun r => r.account = p.account) ++
        (p :: (between.filter (fun r => r.account = p.account) ++ [q]) ++
          after.filter fun r => r.account = p.account) := by
    simp [List.filter_append, haccount]
  rw [hsplit] at hchain
  have hwithin := hchain.right_of_append.left_of_append
  refine le_of_isChain hinterval hwithin (fun r hr => ?_) hkey
  obtain ⟨hmem, hr⟩ := List.mem_filter.mp hr
  exact hsame r hmem (by simpa using hr)

end Written

/-- The post was tested, and has not come to its end. -/
def PostStage.underWay : PostStage → Bool
  | .awaiting | .answered _ => true
  | .begun | .done => false

/-- A post is tested while no other one of its account is under way, and not within an interval of an
Event whose account was forgotten. -/
def TestsAlone (config : Config) (m : Posting) : PostMove → Prop
  | .run i _ => ∀ p, m.posts[i]? = some (p, .begun) →
    (∀ x ∈ m.posts, x.1.account = p.account → x.2.underWay = false) ∧
      (told m.shared p.account = none → ∀ q ∈ m.written, q.account = p.account →
        q.at_ + Post.repeatAfter config ≤ p.at_)
  | _ => True

/-- What holds throughout a run whose posts are tested so. -/
structure Throttling (config : Config) (m : Posting) : Prop where
  chained : Chained (Post.repeatAfter config) m.written
  alone : ∀ (i j : Nat) p q φ ψ, m.posts[i]? = some (p, φ) → m.posts[j]? = some (q, ψ) →
    φ.underWay = true → ψ.underWay = true → p.account = q.account → i = j
  answered : ∀ (i : Nat) p, m.posts[i]? = some (p, .answered true) →
    lastWritten m.written p.account = some p
  accounts : ∀ a p, lastWritten m.written a = some p →
    (∃ i : Nat, m.posts[i]? = some (p, .answered true)) ∨
      told m.shared a = some ⟨p.key, p.at_⟩ ∨ told m.shared a = none
  tested : ∀ (i : Nat) p, m.posts[i]? = some (p, .awaiting) → ∀ q,
    lastWritten m.written p.account = some q → q.key = p.key →
      q.at_ + Post.repeatAfter config ≤ p.at_

section Step

variable {config : Config} {m : Posting}

/-- What stands in the list of the posts once one of them has come further. -/
lemma getElem?_put {i : Nat} {p : Post} {φ φ' : PostStage} {s : ControllerState} {written : List Post}
    (hi : m.posts[i]? = some (p, φ)) (j : Nat) : (m.put i p φ' s written).posts[j]? =
      if i = j then some (p, φ') else m.posts[j]? := by
  change (m.posts.set i (p, φ'))[j]? = _
  rw [List.getElem?_set]
  split
  · rename_i hij
    subst hij
    rw [if_pos (List.getElem?_eq_some_iff.mp hi).1]
  · rfl

/-- A post comes to its end: the accounts have to say what was written last without it. -/
lemma Throttling.ends (h : Throttling config m) {i : Nat} {p : Post} {φ : PostStage}
    (hi : m.posts[i]? = some (p, φ)) (s : ControllerState)
    (haccounts : ∀ a q, lastWritten m.written a = some q →
      (∃ j : Nat, i ≠ j ∧ m.posts[j]? = some (q, .answered true)) ∨
        told s a = some ⟨q.key, q.at_⟩ ∨ told s a = none) :
    Throttling config (m.put i p .done s m.written) := by
  have hget : ∀ j, (m.put i p .done s m.written).posts[j]? =
      if i = j then some (p, .done) else m.posts[j]? := getElem?_put hi
  have hold : ∀ (j : Nat) q ψ, (m.put i p .done s m.written).posts[j]? = some (q, ψ) →
      ψ ≠ .done → m.posts[j]? = some (q, ψ) := by
    intro j q ψ hj hψ
    rw [hget j] at hj
    split at hj
    · cases hj
      exact absurd rfl hψ
    · exact hj
  have hne : ∀ ψ : PostStage, ψ.underWay = true → ψ ≠ .done := by
    rintro _ hψ rfl
    exact Bool.false_ne_true hψ
  refine ⟨h.chained, fun j k q r ψ χ hj hk hψ hχ => ?_, fun j q hj => ?_, fun a q hq => ?_,
    fun j q hj => ?_⟩
  · exact h.alone j k q r ψ χ (hold j q ψ hj (hne ψ hψ)) (hold k r χ hk (hne χ hχ)) hψ hχ
  · exact h.answered j q (hold j q _ hj (by simp))
  · refine (haccounts a q hq).imp_left fun ⟨j, hij, hj⟩ => ⟨j, ?_⟩
    rw [hget j, if_neg hij, hj]
  · exact h.tested j q (hold j q _ hj (by simp))

/-- A post which has nothing to record. -/
lemma Throttling.concludes (h : Throttling config m) {i : Nat} {p : Post} {φ : PostStage}
    (hi : m.posts[i]? = some (p, φ)) (hφ : φ ≠ .answered true) :
    Throttling config (m.put i p .done m.shared m.written) := by
  refine h.ends hi m.shared fun a q hq => (h.accounts a q hq).imp_left fun ⟨j, hj⟩ => ⟨j, ?_, hj⟩
  rintro rfl
  cases hi.symm.trans hj
  exact hφ rfl

/-- A post whose Event was written is recorded. -/
lemma Throttling.records (h : Throttling config m) {i : Nat} {p : Post}
    (hi : m.posts[i]? = some (p, .answered true)) :
    Throttling config (m.put i p .done
      (m.shared.recordPendingStatus p.uid p.topic p.key p.at_) m.written) := by
  refine h.ends hi _ fun a q hq => ?_
  rw [told_record]
  by_cases ha : a = p.account
  · subst ha
    cases (h.answered i p hi).symm.trans hq
    exact .inr (.inl (if_pos rfl))
  · rw [if_neg ha]
    refine (h.accounts a q hq).imp_left fun ⟨j, hj⟩ => ⟨j, ?_, hj⟩
    rintro rfl
    cases hi.symm.trans hj
    exact ha (account_of_lastWritten hq).2.symm

/-- A post about to begin is not under way. -/
lemma Throttling.spawns (h : Throttling config m) (p : Post) :
    Throttling config { m with posts := m.posts ++ [(p, .begun)] } := by
  have hold : ∀ (j : Nat) q ψ, (m.posts ++ [(p, PostStage.begun)])[j]? = some (q, ψ) → ψ ≠ .begun →
      m.posts[j]? = some (q, ψ) := by
    intro j q ψ hj hψ
    by_cases hlt : j < m.posts.length
    · rwa [List.getElem?_append_left hlt] at hj
    · rw [List.getElem?_append_right (Nat.le_of_not_lt hlt)] at hj
      have hmem := List.mem_of_getElem? hj
      rw [List.mem_singleton] at hmem
      cases hmem
      exact absurd rfl hψ
  have hne : ∀ ψ : PostStage, ψ.underWay = true → ψ ≠ .begun := by
    rintro _ hψ rfl
    exact Bool.false_ne_true hψ
  refine ⟨h.chained, fun j k q r ψ χ hj hk hψ hχ => ?_, fun j q hj => ?_, fun a q hq => ?_,
    fun j q hj => ?_⟩
  · exact h.alone j k q r ψ χ (hold j q ψ hj (hne ψ hψ)) (hold k r χ hk (hne χ hχ)) hψ hχ
  · exact h.answered j q (hold j q _ hj (by simp))
  · refine (h.accounts a q hq).imp_left fun ⟨j, hj⟩ => ⟨j, ?_⟩
    exact (List.getElem?_append_left (List.getElem?_eq_some_iff.mp hj).1).trans hj
  · exact h.tested j q (hold j q _ hj (by simp))

/-- A post which was tested alone awaits its write. -/
lemma Throttling.tests (h : Throttling config m) {i : Nat} {p : Post}
    (hi : m.posts[i]? = some (p, .begun)) (hdue : p.due config m.shared = true)
    (halone : ∀ x ∈ m.posts, x.1.account = p.account → x.2.underWay = false)
    (hkept : told m.shared p.account = none → ∀ q ∈ m.written, q.account = p.account →
      q.at_ + Post.repeatAfter config ≤ p.at_) :
    Throttling config (m.put i p .awaiting m.shared m.written) := by
  have hget : ∀ j, (m.put i p .awaiting m.shared m.written).posts[j]? =
      if i = j then some (p, .awaiting) else m.posts[j]? := getElem?_put hi
  have hothers : ∀ (j : Nat) q ψ, m.posts[j]? = some (q, ψ) → ψ.underWay = true →
      q.account ≠ p.account := by
    intro j q ψ hj hψ haccount
    exact Bool.false_ne_true
      ((halone (q, ψ) (List.mem_of_getElem? hj) haccount).symm.trans hψ)
  refine ⟨h.chained, fun j k q r ψ χ hj hk hψ hχ haccount => ?_, fun j q hj => ?_,
    fun a q hq => ?_, fun j q hj r hr hkey => ?_⟩
  · rw [hget j] at hj
    rw [hget k] at hk
    split at hj
    · rename_i hij
      cases hj
      split at hk
      · rename_i hik
        exact hij.symm.trans hik
      · exact absurd haccount.symm (hothers k r χ hk hχ)
    · split at hk
      · cases hk
        exact absurd haccount (hothers j q ψ hj hψ)
      · exact h.alone j k q r ψ χ hj hk hψ hχ haccount
  · rw [hget j] at hj
    split at hj
    · cases hj
    · exact h.answered j q hj
  · refine (h.accounts a q hq).imp_left fun ⟨j, hj⟩ => ⟨j, ?_⟩
    rw [hget j, if_neg, hj]
    rintro rfl
    cases hi.symm.trans hj
  · rw [hget j] at hj
    split at hj
    · cases hj
      obtain ⟨hmem, haccount⟩ := account_of_lastWritten hr
      rcases h.accounts _ r hr with ⟨k, hk⟩ | htold | hforgot
      · exact absurd haccount (hothers k r _ hk rfl)
      · exact (due_iff m.shared config p).mp hdue _ htold hkey
      · exact hkept hforgot r hmem haccount
    · exact h.tested j q hj r hr hkey

/-- The write is answered: where it succeeded, its Event is the last one of its account. -/
lemma Throttling.answers (h : Throttling config m) {i : Nat} {p : Post}
    (hi : m.posts[i]? = some (p, .awaiting)) (emitted : Bool) :
    Throttling config (m.put i p (.answered emitted) m.shared
      (if emitted then m.written ++ [p] else m.written)) := by
  have hget : ∀ j, (m.put i p (.answered emitted) m.shared
      (if emitted then m.written ++ [p] else m.written)).posts[j]? =
        if i = j then some (p, .answered emitted) else m.posts[j]? := getElem?_put hi
  have hold : ∀ (j : Nat) q ψ, (m.put i p (.answered emitted) m.shared
      (if emitted then m.written ++ [p] else m.written)).posts[j]? = some (q, ψ) →
      ψ.underWay = true → ∃ ψ', m.posts[j]? = some (q, ψ') ∧ ψ'.underWay = true := by
    intro j q ψ hj hψ
    rw [hget j] at hj
    split at hj
    · rename_i hij
      cases hj
      exact ⟨.awaiting, hij ▸ hi, rfl⟩
    · exact ⟨ψ, hj, hψ⟩
  have hother : ∀ (j : Nat) q ψ, m.posts[j]? = some (q, ψ) → ψ.underWay = true → i ≠ j →
      p.account ≠ q.account := fun j q ψ hj hψ hij haccount =>
    hij (h.alone i j p q .awaiting ψ hi hj rfl hψ haccount)
  have hlast : ∀ a, p.account ≠ a →
      lastWritten (if emitted then m.written ++ [p] else m.written) a = lastWritten m.written a := by
    intro a ha
    cases emitted
    · rfl
    · exact (lastWritten_append m.written p a).trans (if_neg ha)
  refine ⟨?_, fun j k q r ψ χ hj hk hψ hχ haccount => ?_, fun j q hj => ?_, fun a q hq => ?_,
    fun j q hj r hr hkey => ?_⟩
  · cases emitted
    · exact h.chained
    · exact h.chained.append (h.tested i p hi)
  · obtain ⟨ψ', hj', hψ'⟩ := hold j q ψ hj hψ
    obtain ⟨χ', hk', hχ'⟩ := hold k r χ hk hχ
    exact h.alone j k q r ψ' χ' hj' hk' hψ' hχ' haccount
  · rw [hget j] at hj
    split at hj
    · cases hj
      exact (lastWritten_append m.written p _).trans (if_pos rfl)
    · rename_i hij
      exact (hlast _ (hother j q _ hj rfl hij)).trans (h.answered j q hj)
  · have hkeep : ∀ j : Nat, m.posts[j]? = some (q, .answered true) → i ≠ j := by
      rintro j hj rfl
      cases hi.symm.trans hj
    by_cases ha : p.account = a
    · cases emitted
      · refine (h.accounts a q hq).imp_left fun ⟨j, hj⟩ => ⟨j, ?_⟩
        rw [hget j, if_neg (hkeep j hj), hj]
      · have hlastp : lastWritten (m.written ++ [p]) a = some p :=
          (lastWritten_append m.written p a).trans (if_pos ha)
        cases hlastp.symm.trans hq
        exact .inl ⟨i, by rw [hget i, if_pos rfl]⟩
    · refine (h.accounts a q ((hlast a ha).symm.trans hq)).imp_left fun ⟨j, hj⟩ => ⟨j, ?_⟩
      rw [hget j, if_neg (hkeep j hj), hj]
  · rw [hget j] at hj
    split at hj
    · cases hj
    · rename_i hij
      exact h.tested j q hj r ((hlast _ (hother j q _ hj rfl hij)).symm.trans hr) hkey

/-- What else the controller does. -/
lemma Throttling.lets (h : Throttling config m) (e : AccountEvent) :
    Throttling config { m with shared := e.effect m.shared } := by
  refine ⟨h.chained, h.alone, h.answered, fun a q hq => ?_, h.tested⟩
  refine (h.accounts a q hq).imp_right fun htold => ?_
  change told (e.effect m.shared) a = _ ∨ told (e.effect m.shared) a = none
  rcases told_effect m.shared a e with hsame | hnone
  · rw [hsame]
    exact htold
  · exact .inr hnone

/-- Every step of a run keeps the invariant, where its post is tested alone. -/
theorem Throttling.step (h : Throttling config m) {mv : PostMove} (halone : TestsAlone config m mv) :
    Throttling config (m.step config mv) := by
  cases mv with
  | spawn p => exact h.spawns p
  | event e => exact h.lets e
  | serve i choice =>
    rw [Posting.step, Posting.answer]
    rcases hpost : m.posts[i]? with _ | ⟨p, phase⟩
    · exact h
    · cases phase with
      | awaiting => exact h.answers hpost _
      | _ => exact h
  | run i cs =>
    rw [Posting.step, Posting.goOn]
    rcases hpost : m.posts[i]? with _ | ⟨p, phase⟩
    · exact h
    · cases phase with
      | begun =>
        obtain ⟨hothers, hkept⟩ := halone p hpost
        dsimp only
        split
        · exact h.tests hpost ‹_› hothers hkept
        · exact h.concludes hpost (by simp)
      | answered emitted =>
        cases emitted with
        | true => exact h.records hpost
        | false => exact h.concludes hpost (by simp)
      | _ => exact h

end Step

/-- A post is suppressed only where an Event which said the same was written less than an interval
before, or the account the run began with says so. -/
def SuppressedByWritten (config : Config) (s : ControllerState) (m : Posting) : PostMove → Prop
  | .run i _ => ∀ p, m.posts[i]? = some (p, .begun) → p.due config m.shared = false →
    (∃ q ∈ m.written, q.account = p.account ∧ q.key = p.key ∧
      p.at_ < q.at_ + Post.repeatAfter config) ∨
      ∃ t, told s p.account = some t ∧ t.key = p.key ∧ p.at_ < t.at_ + Post.repeatAfter config
  | _ => True

/-- What an account says comes of an Event which was written, or was said when the run began. -/
structure Accounted (s : ControllerState) (m : Posting) : Prop where
  said : ∀ a t, told m.shared a = some t →
    (∃ q ∈ m.written, q.account = a ∧ q.key = t.key ∧ q.at_ = t.at_) ∨ told s a = some t
  answered : ∀ (i : Nat) p, m.posts[i]? = some (p, .answered true) → p ∈ m.written

section Accounted

variable {config : Config} {s : ControllerState} {m : Posting}

/-- A post goes on; an account changes only where its Event was written. -/
lemma Accounted.goes (h : Accounted s m) {i : Nat} {p : Post} {φ φ' : PostStage}
    (hi : m.posts[i]? = some (p, φ)) (hφ' : φ' ≠ .answered true) {s' : ControllerState}
    (htold : ∀ a t, told s' a = some t →
      (∃ q ∈ m.written, q.account = a ∧ q.key = t.key ∧ q.at_ = t.at_) ∨ told m.shared a = some t) :
    Accounted s (m.put i p φ' s' m.written) := by
  refine ⟨fun a t ht => (htold a t ht).elim .inl (h.said a t), fun j q hj => ?_⟩
  rw [getElem?_put hi] at hj
  split at hj
  · cases hj
    exact absurd rfl hφ'
  · exact h.answered j q hj

theorem Accounted.step (h : Accounted s m) (mv : PostMove) : Accounted s (m.step config mv) := by
  cases mv with
  | spawn p =>
    refine ⟨h.said, fun j q hj => ?_⟩
    have hmem := List.mem_of_getElem? hj
    rcases List.mem_append.mp hmem with hold | hnew
    · obtain ⟨k, hk⟩ := List.mem_iff_getElem?.mp hold
      exact h.answered k q hk
    · cases List.mem_singleton.mp hnew
  | event e =>
    refine ⟨fun a t ht => h.said a t ?_, h.answered⟩
    rcases told_effect m.shared a e with hsame | hnone
    · exact hsame.symm.trans ht
    · cases hnone.symm.trans ht
  | serve i choice =>
    rw [Posting.step, Posting.answer]
    rcases hpost : m.posts[i]? with _ | ⟨p, phase⟩
    · exact h
    · cases phase with
      | awaiting =>
        have hsub : ∀ q ∈ m.written, q ∈ if choice.outcome.replied then m.written ++ [p]
            else m.written := by
          intro q hq
          split
          · exact List.mem_append_left _ hq
          · exact hq
        refine ⟨fun a t ht => (h.said a t ht).imp_left fun ⟨q, hq, hsays⟩ => ⟨q, hsub q hq, hsays⟩,
          fun j q hj => ?_⟩
        rw [getElem?_put hpost] at hj
        split at hj
        · obtain ⟨rfl, hreplied⟩ : p = q ∧ choice.outcome.replied = true := by simpa using hj
          change p ∈ if choice.outcome.replied then m.written ++ [p] else m.written
          rw [if_pos hreplied]
          exact List.mem_append_right _ List.mem_cons_self
        · exact hsub q (h.answered j q hj)
      | _ => exact h
  | run i cs =>
    rw [Posting.step, Posting.goOn]
    rcases hpost : m.posts[i]? with _ | ⟨p, phase⟩
    · exact h
    · cases phase with
      | begun =>
        refine h.goes hpost ?_ fun a t ht => .inr ht
        split <;> simp
      | answered emitted =>
        refine h.goes hpost (by simp) fun a t ht => ?_
        cases emitted with
        | true =>
          have hrecorded := (told_record m.shared a p).symm.trans ht
          split at hrecorded
          · rename_i ha
            cases hrecorded
            exact .inl ⟨p, h.answered i p hpost, ha.symm, rfl, rfl⟩
          · exact .inr hrecorded
        | false => exact .inr ht
      | _ => exact h

/-- A post which was not due repeats what its account says. -/
lemma Accounted.suppressed (h : Accounted s m) (mv : PostMove) : SuppressedByWritten config s m mv := by
  cases mv with
  | run i cs =>
    intro p hp hnot
    obtain ⟨t, ht, hkey, hsoon⟩ : ∃ t, told m.shared p.account = some t ∧ t.key = p.key ∧
        p.at_ < t.at_ + Post.repeatAfter config := by
      by_contra hnone
      refine Bool.false_ne_true (hnot.symm.trans ((due_iff m.shared config p).mpr ?_))
      intro t ht hkey
      by_contra hlt
      exact hnone ⟨t, ht, hkey, Int.not_le.mp hlt⟩
    rcases h.said _ t ht with ⟨q, hq, haccount, hqkey, hqat⟩ | hinitial
    · exact .inl ⟨q, hq, haccount, hqkey.trans hkey, by rw [hqat]; exact hsoon⟩
    · exact .inr ⟨t, hinitial, hkey, hsoon⟩
  | _ => trivial

end Accounted

/-- The promise of the throttle, for a run from `s` on: at each point of it the Events written so far
are spaced, and a post is suppressed only by an Event which was written. -/
structure Throttles (config : Config) (s : ControllerState) (ms : List PostMove) : Prop where
  spaced : throughout (Posting.step config) (fun m => Spaced (Post.repeatAfter config) m.written)
    { shared := s } ms
  suppressed : respects (Posting.step config) (SuppressedByWritten config s) { shared := s } ms

/-- The failed writes suppress nothing, however the posts interleave. -/
lemma posts_suppressed (config : Config) (s : ControllerState) (ms : List PostMove) :
    respects (Posting.step config) (SuppressedByWritten config s) { shared := s } ms :=
  respects_of_respects (P := Accounted s) (C := fun _ _ => True)
    (fun _ mv h _ => ⟨h.step mv, h.suppressed mv⟩)
    ⟨fun _ _ ht => .inr ht, fun _ _ hp => absurd hp (by simp)⟩
    (respects_of_forall fun _ _ _ => trivial)

/-- In every run whose posts are tested alone. -/
theorem posts_throttled (config : Config) (s : ControllerState) (ms : List PostMove)
    (h : respects (Posting.step config) (TestsAlone config) { shared := s } ms) : Throttles config s ms := by
  have hnone : ∀ (i : Nat) x, ([] : List (Post × PostStage))[i]? ≠ some x := by simp
  have hbegin : Throttling config { shared := s } :=
    ⟨fun _ => .nil, fun i _ _ _ _ _ hi => absurd hi (hnone i _), fun i _ hi => absurd hi (hnone i _),
      fun _ _ hlast => absurd (account_of_lastWritten hlast).1 (by simp),
      fun i _ hi => absurd hi (hnone i _)⟩
  have hinterval : 0 ≤ Post.repeatAfter config := by
    unfold Post.repeatAfter minutes seconds
    omega
  have hrun : throughout (Posting.step config) (Throttling config) { shared := s } ms :=
    throughout_of_respects (fun _ _ hm halone => hm.step halone) hbegin h
  exact ⟨throughout_mono (fun _ hm => hm.chained.spaced hinterval) hrun, posts_suppressed config s ms⟩

/-- What the owner of `p` is told while it waits for its reservation. -/
def waitingPost (at_ : Instant) : Post := ⟨"p", "ns", "pod", .hold, .waitingForCapacity "c", at_⟩

theorem posts_throttled_hourApart : Throttles {} {}
    [.spawn (waitingPost 0), .run 0 [], .serve 0 {}, .run 0 [],
      .spawn (waitingPost (minutes 61)), .run 1 [], .serve 1 {}, .run 1 []] := by
  refine posts_throttled {} {} _ ⟨trivial, fun p hp => ?_, trivial, fun p hp => ?_, trivial,
    fun p hp => ?_, trivial, fun p hp => ?_, trivial⟩
  · cases hp
    have hposts : ∀ x ∈ [(waitingPost 0, PostStage.begun)], x.2.underWay = false := by
      simp [PostStage.underWay]
    exact ⟨fun x hx _ => hposts x hx, fun _ _ hq => nomatch hq⟩
  · cases hp
  · cases hp
    have hposts : ∀ x ∈ [(waitingPost 0, PostStage.done), (waitingPost (minutes 61), PostStage.begun)],
        x.2.underWay = false := by
      simp [PostStage.underWay]
    have hwritten : ∀ q ∈ [waitingPost 0], q.at_ + Post.repeatAfter {} ≤ minutes 61 := by
      rintro q (_ | ⟨_, ⟨⟩⟩)
      decide
    exact ⟨fun x hx _ => hposts x hx, fun _ q hq _ => hwritten q hq⟩
  · cases hp

/-- Two tasks test their posts before either of them has recorded its own. -/
theorem not_forall_throttles : ¬ ∀ config s ms, Throttles config s ms := by
  intro h
  have hspaced := throughout_last (h {} {} [.spawn (waitingPost 0), .run 0 [],
    .spawn (waitingPost (seconds 1)), .run 1 [], .serve 0 {}, .serve 1 {}]).spaced
  have hsoon := hspaced [] (waitingPost 0) [] (waitingPost (seconds 1)) [] rfl rfl rfl (by simp)
  exact absurd hsoon (by decide)

end GpuReservation.Proofs
