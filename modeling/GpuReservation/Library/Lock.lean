import GpuReservation.Library.Within

/-!
# What a lock guards

Programs which change a part of the shared state only between an acquisition of the lock and the
release which follows it.  In a pool of such programs nobody but the holder changes that part.
-/

namespace GpuReservation.Library

/-- What a call is to the lock. -/
inductive LockUse
  | acquires
  | releases
  | other

/-- The call is in place where the lock is held or not, and `cont` goes on from there. -/
def LockUse.Proceeds : LockUse → Bool → (Bool → Prop) → Prop
  | acquires, false, cont => cont true
  | releases, true, cont => cont false
  | other, held, cont => cont held
  | _, _, _ => False

lemma LockUse.Proceeds.mono {use : LockUse} {held : Bool} {cont cont' : Bool → Prop}
    (h : use.Proceeds held cont) (hcont : ∀ held, cont held → cont' held) :
    use.Proceeds held cont' := by
  cases use <;> cases held <;> first | exact h.elim | exact hcont _ h

lemma LockUse.Proceeds.exists {use : LockUse} {held : Bool} {cont : Bool → Prop}
    (h : use.Proceeds held cont) : ∃ held, cont held := by
  cases use <;> cases held <;> first | exact h.elim | exact ⟨_, h⟩

variable {C W Q L Ch E : Type} {A : Q → Type} {α β : Type}

namespace Prog

section

variable (lockUse : Q → LockUse) (keeps : C → C → Prop) (allowed : Q → Prop)

/-- A program which starts with the lock held or not, stays within `keeps` wherever it does not
hold it, and ends without it. -/
def Guarded : Bool → Prog C Q A α → Prop
  | held, ret _ => held = false
  | held, sync f k => (held = false → ∀ c, keeps c (f c)) ∧ ∀ c, Guarded held (k c)
  | held, call q k => allowed q ∧ (lockUse q).Proceeds held fun held => ∀ a, Guarded held (k a)

end

namespace Guarded

variable {lockUse : Q → LockUse} {keeps keeps' : C → C → Prop} {allowed allowed' : Q → Prop}
  {held : Bool}

lemma mono {p : Prog C Q A α} (hkeeps : ∀ c c', keeps c c' → keeps' c c')
    (hallowed : ∀ q, allowed q → allowed' q) (hp : Guarded lockUse keeps allowed held p) :
    Guarded lockUse keeps' allowed' held p := by
  induction p generalizing held with
  | ret a => exact hp
  | sync f k ih => exact ⟨fun hfree c => hkeeps _ _ (hp.1 hfree c), fun c => ih c (hp.2 c)⟩
  | call q k ih => exact ⟨hallowed q hp.1, hp.2.mono fun held hk a => ih a (hk a)⟩

/-- The calls are among those allowed. -/
lemma within {p : Prog C Q A α} (hp : Guarded lockUse keeps allowed held p) :
    Within (fun _ _ => True) allowed (fun _ => True) p := by
  induction p generalizing held with
  | ret a => exact trivial
  | sync f k ih => exact fun c => ⟨trivial, ih c (hp.2 c)⟩
  | call q k ih =>
    refine ⟨hp.1, fun a => ?_⟩
    obtain ⟨held', hk⟩ := hp.2.exists
    exact ih a (hk a)

lemma bind {p : Prog C Q A α} {f : α → Prog C Q A β} (hp : Guarded lockUse keeps allowed held p)
    (hf : ∀ a, Guarded lockUse keeps allowed false (f a)) :
    Guarded lockUse keeps allowed held (p >>= f) := by
  change Guarded lockUse keeps allowed held (p.bind f)
  induction p generalizing held with
  | ret a =>
    obtain rfl : held = false := hp
    exact hf a
  | sync g k ih => exact ⟨hp.1, fun c => ih c (hp.2 c)⟩
  | call q k ih => exact ⟨hp.1, hp.2.mono fun held hk a => ih a (hk a)⟩

/-- A first part which leaves the lock alone. -/
lemma after {p : Prog C Q A α} {f : α → Prog C Q A β} {post : α → Prop}
    (hp : Within keeps' (fun q => allowed q ∧ lockUse q = .other) post p)
    (hkeeps : held = false → ∀ c c', keeps' c c' → keeps c c')
    (hf : ∀ a, post a → Guarded lockUse keeps allowed held (f a)) :
    Guarded lockUse keeps allowed held (p >>= f) := by
  change Guarded lockUse keeps allowed held (p.bind f)
  induction p with
  | ret a => exact hf a hp
  | sync g k ih => exact ⟨fun hfree c => hkeeps hfree _ _ (hp c).1, fun c => ih c (hp c).2⟩
  | call q k ih =>
    obtain ⟨⟨hq, hother⟩, hk⟩ := hp
    refine ⟨hq, ?_⟩
    rw [hother]
    exact fun a => ih a (hk a)

lemma pure (a : α) : Guarded (A := A) lockUse keeps allowed false (Pure.pure a) := rfl

lemma of_within {p : Prog C Q A α} {post : α → Prop}
    (hp : Within keeps (fun q => allowed q ∧ lockUse q = .other) post p) :
    Guarded lockUse keeps allowed false p := by
  have h : Guarded lockUse keeps allowed false (p >>= Pure.pure) :=
    after hp (fun _ _ _ hc => hc) fun a _ => pure a
  rwa [bind_pure] at h

/-- What is done with the lock held is free to change the state. -/
lemma locked {acquire release : Q} {body : Prog C Q A α} {post : α → Prop} (ha : allowed acquire)
    (hr : allowed release) (hacquire : lockUse acquire = .acquires)
    (hrelease : lockUse release = .releases)
    (hbody : Within (fun _ _ => True) (fun q => allowed q ∧ lockUse q = .other) post body) :
    Guarded lockUse keeps allowed false (Prog.ask acquire >>= fun _ => body >>= fun a =>
      Prog.ask release >>= fun _ => Pure.pure a) := by
  have hend : ∀ a, post a → Guarded lockUse keeps allowed true
      (Prog.ask (A := A) (C := C) release >>= fun _ => Pure.pure a) := by
    intro a _
    refine ⟨hr, ?_⟩
    rw [hrelease]
    exact fun _ => pure a
  have hheld : Guarded lockUse keeps allowed true
      (body >>= fun a => Prog.ask release >>= fun _ => Pure.pure a) :=
    after hbody Bool.noConfusion hend
  refine ⟨ha, ?_⟩
  rw [hacquire]
  exact fun _ => hheld

lemma forM {γ : Type} {body : γ → Prog C Q A Unit} {l : List γ}
    (h : ∀ x ∈ l, Guarded lockUse keeps allowed false (body x)) :
    Guarded lockUse keeps allowed false (l.forM body) := by
  induction l with
  | nil => exact pure ()
  | cons x l ih =>
    exact (h x List.mem_cons_self).bind fun _ => ih fun y hy => h y (List.mem_cons_of_mem x hy)

lemma foldlM {γ δ : Type} {body : δ → γ → Prog C Q A δ} {l : List γ}
    (h : ∀ x ∈ l, ∀ d, Guarded lockUse keeps allowed false (body d x)) (d : δ) :
    Guarded lockUse keeps allowed false (l.foldlM body d) := by
  induction l generalizing d with
  | nil => exact pure d
  | cons x l ih =>
    rw [List.foldlM_cons]
    exact (h x List.mem_cons_self d).bind fun d =>
      ih (fun y hy => h y (List.mem_cons_of_mem x hy)) d

end Guarded

end Prog

/-- A lock, as the runtime answers the calls on it; `owner` is the task which holds it. -/
structure LockRuntime (rt : Runtime Q A W Ch) (lockUse : Q → LockUse) (owner : W → Option Nat) :
    Prop where
  yields : ∀ q, lockUse q = .acquires → rt.yields q = true
  acquires : ∀ {i q c a w w'}, lockUse q = .acquires → rt.answer i q c w = some (a, w') →
    owner w = none ∧ owner w' = some i
  releases : ∀ {i q c a w w'}, lockUse q = .releases → rt.answer i q c w = some (a, w') →
    owner w = some i → owner w' = none
  other : ∀ {i q c a w w'}, lockUse q = .other → rt.answer i q c w = some (a, w') →
    owner w' = owner w

/-- A call answered in its place: the lock is with the others as it was, and only an acquisition
gives it to the caller. -/
lemma LockRuntime.proceeds {rt : Runtime Q A W Ch} {lockUse : Q → LockUse}
    {owner : W → Option Nat} (hrt : LockRuntime rt lockUse owner) {i : Nat} {q : Q} {c : Ch}
    {a : A q} {w w' : W} {cont : Bool → Prop}
    (h : (lockUse q).Proceeds (owner w = some i) cont) (hans : rt.answer i q c w = some (a, w')) :
    cont (owner w' = some i) ∧ (∀ j ≠ i, owner w' = some j ↔ owner w = some j) ∧
      (rt.yields q = false → owner w ≠ some i → owner w' ≠ some i) := by
  cases huse : lockUse q with
  | acquires =>
    obtain ⟨hfree, hheld⟩ := hrt.acquires huse hans
    rw [huse, hfree] at h
    refine ⟨?_, fun j hj => by simp [hfree, hheld, hj.symm], fun hy => ?_⟩
    · rw [hheld, decide_eq_true rfl]
      exact h
    · rw [hrt.yields q huse] at hy
      exact Bool.noConfusion hy
  | releases =>
    rw [huse] at h
    by_cases hheld : owner w = some i
    · have hfree : owner w' = none := hrt.releases huse hans hheld
      rw [hheld, decide_eq_true rfl] at h
      refine ⟨?_, fun j hj => by simp [hfree, hheld, hj.symm], fun _ hne => absurd hheld hne⟩
      rw [hfree]
      exact h
    · rw [decide_eq_false hheld] at h
      exact h.elim
  | other =>
    have hsame : owner w' = owner w := hrt.other huse hans
    rw [huse] at h
    refine ⟨?_, fun j _ => by rw [hsame], fun _ hne => ?_⟩
    · rw [hsame]
      exact h
    · rw [hsame]
      exact hne

/-- What a step of a pool in order does to the lock and to what it guards. -/
structure LockStep (keeps : C → C → Prop) (owner : W → Option Nat) (p p' : Pool C W Q A L)
    (m : Move L Ch E) : Prop where
  others : ∀ j, m.task? ≠ some j → (owner p'.snap.world = some j ↔ owner p.snap.world = some j)
  guarded : (∀ i, m.task? = some i → owner p.snap.world ≠ some i) →
    keeps p.snap.shared p'.snap.shared

lemma LockStep.refl {keeps : C → C → Prop} {owner : W → Option Nat} (hrefl : ∀ c, keeps c c)
    (p : Pool C W Q A L) (m : Move L Ch E) : LockStep keeps owner p p m :=
  ⟨fun _ _ => Iff.rfl, fun _ => hrefl _⟩

/-- While a task holds the lock, the others leave it the lock and what it guards. -/
lemma LockStep.undisturbed {keeps : C → C → Prop} {owner : W → Option Nat}
    {p p' : Pool C W Q A L} {m : Move L Ch E} (h : LockStep keeps owner p p' m) {i : Nat}
    (hi : owner p.snap.world = some i) (hm : m.task? ≠ some i) :
    owner p'.snap.world = some i ∧ keeps p.snap.shared p'.snap.shared := by
  refine ⟨(h.others i hm).mpr hi, h.guarded fun j hj hheld => ?_⟩
  rw [hi] at hheld
  cases hheld
  exact hm hj

section Pools

variable (lockUse : Q → LockUse) (keeps : C → C → Prop) (allowed : Q → Prop)
  (owner : W → Option Nat)

def taskGuarded (held : Bool) : Task C Q A → Prop
  | .ready p => p.Guarded lockUse keeps allowed held
  | .waiting q k => (Prog.call q k).Guarded lockUse keeps allowed held
  | .finished => held = false

/-- The holder of the lock is one of the tasks, and each has a guarded program to run, from where
it holds the lock or not. -/
structure LockOrder (p : Pool C W Q A L) : Prop where
  holder : ∀ i, owner p.snap.world = some i → i < p.tasks.length
  tasks : ∀ i l t, p.tasks[i]? = some (l, t) →
    taskGuarded lockUse keeps allowed (owner p.snap.world = some i) t

variable {lockUse keeps allowed owner} {rt : Runtime Q A W Ch}

/-- A task was replaced, and the lock is with the others as it was. -/
lemma LockOrder.setTask {p : Pool C W Q A L} (hp : LockOrder lockUse keeps allowed owner p)
    {i : Nat} {l : L} {t : Task C Q A} {σ : Snap C W} (hlt : i < p.tasks.length)
    (hothers : ∀ j ≠ i, owner σ.world = some j ↔ owner p.snap.world = some j)
    (ht : taskGuarded lockUse keeps allowed (owner σ.world = some i) t) :
    LockOrder lockUse keeps allowed owner (p.setTask i l t σ) := by
  refine ⟨fun j hj => ?_, fun j l' t' hj => ?_⟩
  · rw [Pool.setTask, List.length_set]
    by_cases hij : j = i
    · rw [hij]
      exact hlt
    · exact hp.holder j ((hothers j hij).mp hj)
  · by_cases hij : j = i
    · subst hij
      rw [Pool.setTask, List.getElem?_set_self hlt] at hj
      cases hj
      exact ht
    · rw [Pool.setTask, List.getElem?_set_ne (Ne.symm hij)] at hj
      have hsame := hp.tasks j l' t' hj
      simpa only [Pool.setTask, hothers j hij] using hsame

lemma LockOrder.spawn {p : Pool C W Q A L} (hp : LockOrder lockUse keeps allowed owner p) (l : L)
    {prog : Prog C Q A Unit} (hprog : prog.Guarded lockUse keeps allowed false) :
    LockOrder lockUse keeps allowed owner { p with tasks := p.tasks ++ [(l, .ready prog)] } := by
  refine ⟨fun i hi => ?_, fun i l' t hi => ?_⟩
  · rw [List.length_append]
    exact Nat.lt_add_right 1 (hp.holder i hi)
  · rw [List.getElem?_append] at hi
    split at hi
    · exact hp.tasks i l' t hi
    · rename_i hlt
      have hfree : owner p.snap.world ≠ some i := fun h => hlt (hp.holder i h)
      obtain ⟨_, h⟩ := List.getElem?_eq_some_iff.mp hi
      rw [List.getElem_singleton] at h
      cases h
      change taskGuarded lockUse keeps allowed (owner p.snap.world = some i) _
      rw [decide_eq_false hfree]
      exact hprog

section Step

variable [Inhabited Ch] {body : L → Prog C Q A Unit} {effect : E → Snap C W → Snap C W}
  (hrt : LockRuntime rt lockUse owner) (hrefl : ∀ c, keeps c c)
  (htrans : ∀ c₁ c₂ c₃, keeps c₁ c₂ → keeps c₂ c₃ → keeps c₁ c₃)

include hrt hrefl htrans

/-- What a task does up to its next suspension: the others hold the lock as before, and where it
does not hold it itself it changes nothing guarded. -/
lemma advance_guarded {i : Nat} {prog : Prog C Q A Unit} {σ : Snap C W} (cs : List Ch)
    (hp : prog.Guarded lockUse keeps allowed (owner σ.world = some i)) :
    taskGuarded lockUse keeps allowed (owner (advance rt i prog cs σ).2.world = some i)
        (advance rt i prog cs σ).1 ∧
      (∀ j ≠ i, owner (advance rt i prog cs σ).2.world = some j ↔ owner σ.world = some j) ∧
      (owner σ.world ≠ some i → keeps σ.shared (advance rt i prog cs σ).2.shared) := by
  induction prog generalizing cs σ with
  | ret a => exact ⟨hp, fun _ _ => Iff.rfl, fun _ => hrefl _⟩
  | sync f k ih =>
    have hnext := ih σ.shared (σ := { σ with shared := f σ.shared }) cs (hp.2 σ.shared)
    refine ⟨hnext.1, hnext.2.1, fun hfree => ?_⟩
    exact htrans _ _ _ (hp.1 (decide_eq_false hfree) σ.shared) (hnext.2.2 hfree)
  | call q k ih =>
    rw [advance]
    split
    · exact ⟨hp, fun _ _ => Iff.rfl, fun _ => hrefl _⟩
    · rename_i hy
      split
      · exact ⟨hp, fun _ _ => Iff.rfl, fun _ => hrefl _⟩
      · rename_i a w hans
        obtain ⟨hk, hothers, hfree⟩ := hrt.proceeds hp.2 hans
        have hnext := ih a (σ := { σ with world := w }) cs.tail (hk a)
        exact ⟨hnext.1, fun j hj => (hnext.2.1 j hj).trans (hothers j hj),
          fun h => hnext.2.2 (hfree (eq_false_of_ne_true hy) h)⟩

/-- In a pool of guarded programs every step keeps the order, and only the holder changes what the
lock guards. -/
theorem lockOrder_step
    (hevent : ∀ e σ, owner (effect e σ).world = owner σ.world ∧ (effect e σ).shared = σ.shared)
    (hbody : ∀ l, (body l).Guarded lockUse keeps allowed false) {p : Pool C W Q A L}
    (hp : LockOrder lockUse keeps allowed owner p) (m : Move L Ch E) :
    LockOrder lockUse keeps allowed owner (step rt body effect p m) ∧
      LockStep keeps owner p (step rt body effect p m) m := by
  cases m with
  | spawn l => exact ⟨hp.spawn l (hbody l), fun _ _ => Iff.rfl, fun _ => hrefl _⟩
  | run i cs =>
    rw [step]
    split
    · rename_i l prog hi
      have hlt : i < p.tasks.length := (List.getElem?_eq_some_iff.mp hi).1
      obtain ⟨ht, hothers, hkeeps⟩ := advance_guarded hrt hrefl htrans cs (hp.tasks i l _ hi)
      exact ⟨hp.setTask hlt hothers ht, fun j hj => hothers j fun h => hj (by rw [Move.task?, h]),
        fun h => hkeeps (h i rfl)⟩
    · exact ⟨hp, .refl hrefl p _⟩
  | serve i c =>
    rw [step]
    split
    · rename_i l q k hi
      have hlt : i < p.tasks.length := (List.getElem?_eq_some_iff.mp hi).1
      split
      · rename_i a w hans
        obtain ⟨hk, hothers, -⟩ := hrt.proceeds (hp.tasks i l _ hi).2 hans
        exact ⟨hp.setTask hlt hothers (hk a),
          fun j hj => hothers j fun h => hj (by rw [Move.task?, h]), fun _ => hrefl _⟩
      · exact ⟨hp, .refl hrefl p _⟩
    · exact ⟨hp, .refl hrefl p _⟩
  | event e =>
    obtain ⟨howner, hshared⟩ := hevent e p.snap
    refine ⟨⟨fun i hi => hp.holder i (howner ▸ hi), fun i l t hi => ?_⟩,
      fun j _ => by rw [step, howner], fun _ => ?_⟩
    · rw [step, howner]
      exact hp.tasks i l t hi
    · rw [step, hshared]
      exact hrefl _

end Step

end Pools

end GpuReservation.Library
