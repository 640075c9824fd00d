import GpuReservation.Library.Exec

/-!
# Executions among other tasks

One task of a pool, from beginning to end.  While it awaits a call which yields, the others may
change the shared state; the log of the execution says at what state each call was made, and at
what state the task went on.
-/

namespace GpuReservation.Library

variable {C Q : Type} {A : Q → Type} {α β : Type}

/-- A call: what was asked and answered, the state it was made at, and the state found after it. -/
structure Await (C : Type) {Q : Type} (A : Q → Type) where
  call : Sigma A
  before : C
  after : C

namespace Prog

section

variable (yields : Q → Bool) (ans : ∀ q, A q → Prop)

/-- The program takes the state from `c` to `c'` and returns `b`, its calls being made as the log
says; what happens at a call which yields is up to the others. -/
def Amid : Prog C Q A α → C → List (Await C A) → α → C → Prop
  | ret a, c, log, b, c' => log = [] ∧ b = a ∧ c' = c
  | sync f k, c, log, b, c' => Amid (k c) (f c) log b c'
  | call q k, c, log, b, c' =>
    ∃ x c₁ log', ans q x ∧ (yields q = false → c₁ = c) ∧ log = ⟨⟨q, x⟩, c, c₁⟩ :: log' ∧
      Amid (k x) c₁ log' b c'

end

variable {yields : Q → Bool} {ans : ∀ q, A q → Prop} {c c' : C} {log : List (Await C A)}

@[simp] lemma amid_pure {a b : α} :
    (pure a : Prog C Q A α).Amid yields ans c log b c' ↔ log = [] ∧ b = a ∧ c' = c := Iff.rfl

@[simp] lemma amid_modify {f : C → C} {b : Unit} :
    (modify f : Prog C Q A Unit).Amid yields ans c log b c' ↔ log = [] ∧ c' = f c := by
  change (log = [] ∧ b = () ∧ c' = f c) ↔ _
  simp

/-- Reading the shared state gives the state. -/
@[simp] lemma amid_get_bind (f : C → Prog C Q A β) {b : β} :
    (get >>= f).Amid yields ans c log b c' ↔ (f c).Amid yields ans c log b c' := Iff.rfl

@[simp] lemma amid_modify_bind (g : C → C) (f : Unit → Prog C Q A β) {b : β} :
    (modify g >>= f).Amid yields ans c log b c' ↔ (f ()).Amid yields ans (g c) log b c' := Iff.rfl

/-- A call, then the rest. -/
lemma amid_ask_bind {q : Q} (f : A q → Prog C Q A β) {b : β} :
    (ask q >>= f).Amid yields ans c log b c' ↔
      ∃ x c₁ log', ans q x ∧ (yields q = false → c₁ = c) ∧ log = ⟨⟨q, x⟩, c, c₁⟩ :: log' ∧
        (f x).Amid yields ans c₁ log' b c' := Iff.rfl

/-- A sequence is executed by executing its parts. -/
theorem amid_bind (p : Prog C Q A α) (f : α → Prog C Q A β) {b : β} :
    (p >>= f).Amid yields ans c log b c' ↔
      ∃ log₁ log₂ a c₁, log = log₁ ++ log₂ ∧ p.Amid yields ans c log₁ a c₁ ∧
        (f a).Amid yields ans c₁ log₂ b c' := by
  change (p.bind f).Amid yields ans c log b c' ↔ _
  induction p generalizing c log with
  | ret a =>
    constructor
    · intro h
      exact ⟨[], log, a, c, rfl, ⟨rfl, rfl, rfl⟩, h⟩
    · rintro ⟨_, _, _, _, rfl, ⟨rfl, rfl, rfl⟩, h⟩
      exact h
  | sync g k ih => exact ih c
  | call q k ih =>
    constructor
    · rintro ⟨x, c₁, log', hx, hy, rfl, h⟩
      obtain ⟨log₁, log₂, a, c₂, rfl, h₁, h₂⟩ := (ih x).mp h
      exact ⟨⟨⟨q, x⟩, c, c₁⟩ :: log₁, log₂, a, c₂, rfl, ⟨x, c₁, log₁, hx, hy, rfl, h₁⟩, h₂⟩
    · rintro ⟨_, log₂, a, c₂, rfl, ⟨x, c₁, log₁, hx, hy, rfl, h₁⟩, h₂⟩
      exact ⟨x, c₁, log₁ ++ log₂, hx, hy, rfl, (ih x).mpr ⟨log₁, log₂, a, c₂, rfl, h₁, h₂⟩⟩

/-- What a part within a bound keeps, and the others keep, holds from its beginning to its end. -/
theorem amid_of_within {keeps R : C → C → Prop} {allowed : Q → Prop} {post : α → Prop}
    (hrefl : ∀ c, R c c) (htrans : ∀ c₁ c₂ c₃, R c₁ c₂ → R c₂ c₃ → R c₁ c₃)
    (hkeeps : ∀ c c', keeps c c' → R c c') {p : Prog C Q A α} (hp : p.Within keeps allowed post)
    {b : α} (h : p.Amid yields ans c log b c') (hothers : ∀ e ∈ log, R e.before e.after) :
    R c c' ∧ post b := by
  induction p generalizing c log with
  | ret a =>
    obtain ⟨rfl, rfl, rfl⟩ := h
    exact ⟨hrefl c', hp⟩
  | sync f k ih =>
    obtain ⟨hk, hpost⟩ := ih c (hp c).2 h hothers
    exact ⟨htrans c (f c) c' (hkeeps _ _ (hp c).1) hk, hpost⟩
  | call q k ih =>
    obtain ⟨x, c₁, log', -, -, rfl, h⟩ := h
    obtain ⟨hfirst, hrest⟩ := List.forall_mem_cons.mp hothers
    obtain ⟨hk, hpost⟩ := ih x (hp.2 x) h hrest
    exact ⟨htrans c c₁ c' hfirst hk, hpost⟩

/-- A part within a bound makes the allowed calls. -/
theorem amid_calls {keeps : C → C → Prop} {allowed : Q → Prop} {post : α → Prop}
    {p : Prog C Q A α} (hp : p.Within keeps allowed post) {b : α}
    (h : p.Amid yields ans c log b c') : ∀ e ∈ log, allowed e.call.1 := by
  induction p generalizing c log with
  | ret a =>
    obtain ⟨rfl, -, -⟩ := h
    intro e he
    cases he
  | sync f k ih => exact ih c (hp c).2 h
  | call q k ih =>
    obtain ⟨x, c₁, log', -, -, rfl, h⟩ := h
    exact List.forall_mem_cons.mpr ⟨hp.1, ih x (hp.2 x) h⟩

/-- Every stretch of the execution which no call interrupts keeps to `R`. -/
def EachStretch (R : C → C → Prop) : C → List (Await C A) → C → Prop
  | c, [], c' => R c c'
  | c, e :: log, c' => R c e.before ∧ EachStretch R e.after log c'

section EachStretch

variable {R : C → C → Prop} (htrans : ∀ c₁ c₂ c₃, R c₁ c₂ → R c₂ c₃ → R c₁ c₃)
include htrans

lemma eachStretch_after {c₁ : C} (h : R c c₁) (hrest : EachStretch R c₁ log c') :
    EachStretch R c log c' := by
  cases log with
  | nil => exact htrans c c₁ c' h hrest
  | cons e log => exact ⟨htrans c c₁ e.before h hrest.1, hrest.2⟩

/-- The last stretch of the one part and the first of the next are one. -/
lemma eachStretch_append {log' : List (Await C A)} {c₁ : C} (h : EachStretch R c log c₁)
    (h' : EachStretch R c₁ log' c') : EachStretch R c (log ++ log') c' := by
  induction log generalizing c with
  | nil => exact eachStretch_after htrans h h'
  | cons e log ih => exact ⟨h.1, ih h.2⟩

theorem eachStretch_of_within (hrefl : ∀ c, R c c) {allowed : Q → Prop} {post : α → Prop}
    {p : Prog C Q A α} (hp : p.Within R allowed post) {b : α} (h : p.Amid yields ans c log b c') :
    EachStretch R c log c' := by
  induction p generalizing c log with
  | ret a =>
    obtain ⟨rfl, -, rfl⟩ := h
    exact hrefl c'
  | sync f k ih => exact eachStretch_after htrans (hp c).1 (ih c (hp c).2 h)
  | call q k ih =>
    obtain ⟨x, c₁, log', -, -, rfl, h⟩ := h
    exact ⟨hrefl c, ih x (hp.2 x) h⟩

end EachStretch

/-- The execution in which every call is answered by the oracle, and the others change the state as
given wherever they can. -/
def runAmid (yields : Q → Bool) (oracle : ∀ q, A q) (others : Q → C → C) :
    Prog C Q A α → C → List (Await C A) × α × C
  | ret a, c => ([], a, c)
  | sync f k, c => runAmid yields oracle others (k c) (f c)
  | call q k, c =>
    let c₁ := if yields q then others q c else c
    (⟨⟨q, oracle q⟩, c, c₁⟩ :: (runAmid yields oracle others (k (oracle q)) c₁).1,
      (runAmid yields oracle others (k (oracle q)) c₁).2)

lemma amid_runAmid {oracle : ∀ q, A q} (horacle : ∀ q, ans q (oracle q)) (others : Q → C → C)
    (p : Prog C Q A α) (c : C) :
    p.Amid yields ans c (p.runAmid yields oracle others c).1 (p.runAmid yields oracle others c).2.1
      (p.runAmid yields oracle others c).2.2 := by
  induction p generalizing c with
  | ret a => exact ⟨rfl, rfl, rfl⟩
  | sync f k ih => exact ih c (f c)
  | call q k ih =>
    refine ⟨oracle q, _, _, horacle q, fun hy => ?_, rfl, ih (oracle q) _⟩
    rw [hy]
    rfl

end Prog

/-! A loop which carries an accumulator. -/

/-- What a loop did with one of its items, among others. -/
structure Round (γ δ C : Type) {Q : Type} (A : Q → Type) where
  item : γ
  acc : δ
  before : C
  log : List (Await C A)
  acc' : δ
  after : C

/-- The rounds of a loop over the items follow on from one another. -/
inductive Rounds {γ δ : Type} (yields : Q → Bool) (ans : ∀ q, A q → Prop)
    (body : δ → γ → Prog C Q A δ) : List γ → δ → C → List (Round γ δ C A) → δ → C → Prop
  | nil (d : δ) (c : C) : Rounds yields ans body [] d c [] d c
  | cons {x : γ} {l : List γ} {d d₁ d' : δ} {c c₁ c' : C} {log : List (Await C A)}
      {rounds : List (Round γ δ C A)} (h : (body d x).Amid yields ans c log d₁ c₁)
      (hrest : Rounds yields ans body l d₁ c₁ rounds d' c') :
      Rounds yields ans body (x :: l) d c (⟨x, d, c, log, d₁, c₁⟩ :: rounds) d' c'

/-- There is one round for each item, in order. -/
lemma Rounds.items {γ δ : Type} {yields : Q → Bool} {ans : ∀ q, A q → Prop}
    {body : δ → γ → Prog C Q A δ} {l : List γ} {d d' : δ} {c c' : C} {rounds : List (Round γ δ C A)}
    (h : Rounds yields ans body l d c rounds d' c') : rounds.map Round.item = l := by
  induction h with
  | nil d c => rfl
  | cons h hrest ih => rw [List.map_cons, ih]

/-- A loop is executed round by round. -/
theorem Prog.amid_foldlM {γ δ : Type} {yields : Q → Bool} {ans : ∀ q, A q → Prop}
    {body : δ → γ → Prog C Q A δ} {l : List γ} {d d' : δ} {c c' : C} {log : List (Await C A)}
    (h : (l.foldlM body d).Amid yields ans c log d' c') :
    ∃ rounds, Rounds yields ans body l d c rounds d' c' ∧ log = rounds.flatMap Round.log := by
  induction l generalizing c d log with
  | nil =>
    obtain ⟨rfl, rfl, rfl⟩ := h
    exact ⟨[], .nil d' c', rfl⟩
  | cons x l ih =>
    rw [List.foldlM_cons, Prog.amid_bind] at h
    obtain ⟨log₁, log₂, d₁, c₁, rfl, h₁, h₂⟩ := h
    obtain ⟨rounds, hrounds, rfl⟩ := ih h₂
    exact ⟨⟨x, d, c, log₁, d₁, c₁⟩ :: rounds, .cons h₁ hrounds, rfl⟩

/-! A task of a pool is executed among the other tasks of the pool. -/

section Projection

variable {W L Ch E : Type} [Inhabited Ch] {rt : Runtime Q A W Ch} {body : L → Prog C Q A Unit}
  {effect : E → Snap C W → Snap C W} {i : Nat}

/-- What task `i` may be answered. -/
def Runtime.Answers (rt : Runtime Q A W Ch) (i : Nat) (q : Q) (a : A q) : Prop :=
  ∃ ch w w', rt.answer i q ch w = some (a, w')

lemma advance_finished {p : Prog C Q A Unit} {cs : List Ch} {σ : Snap C W}
    (h : (advance rt i p cs σ).1 = .finished) :
    ∃ log, p.Amid rt.yields (rt.Answers i) σ.shared log () (advance rt i p cs σ).2.shared ∧
      ∀ e ∈ log, e.after = e.before := by
  induction p generalizing cs σ with
  | ret a =>
    refine ⟨[], ⟨rfl, rfl, rfl⟩, fun e he => ?_⟩
    cases he
  | sync f k ih => exact ih σ.shared h
  | call q k ih =>
    rw [advance] at h ⊢
    split at h
    · cases h
    · rename_i hy
      rw [if_neg hy]
      cases hans : rt.answer i q (cs.headD default) σ.world with
      | none =>
        rw [hans] at h
        cases h
      | some aw =>
        rw [hans] at h
        obtain ⟨log, hlog, hquiet⟩ := ih aw.1 h
        exact ⟨⟨⟨q, aw.1⟩, σ.shared, σ.shared⟩ :: log,
          ⟨aw.1, σ.shared, log, ⟨_, _, aw.2, hans⟩, fun _ => rfl, rfl, hlog⟩,
          List.forall_mem_cons.mpr ⟨rfl, hquiet⟩⟩

/-- Up to the next suspension nobody else does anything; what follows depends on the answer. -/
lemma advance_waiting
    (hsync : ∀ q c w, rt.yields q = false → ∃ a w', rt.answer i q c w = some (a, w'))
    {p : Prog C Q A Unit} {cs : List Ch} {σ : Snap C W} {q : Q} {k : A q → Prog C Q A Unit}
    (h : (advance rt i p cs σ).1 = .waiting q k) :
    ∃ first, (∀ e ∈ first, e.after = e.before) ∧ ∀ x c₁ log c', rt.Answers i q x →
      (k x).Amid rt.yields (rt.Answers i) c₁ log () c' →
      p.Amid rt.yields (rt.Answers i) σ.shared
        (first ++ ⟨⟨q, x⟩, (advance rt i p cs σ).2.shared, c₁⟩ :: log) () c' := by
  induction p generalizing cs σ with
  | ret a => cases h
  | sync f k ih => exact ih σ.shared h
  | call q₁ k₁ ih =>
    rw [advance] at h ⊢
    split at h
    · rename_i hy
      cases h
      refine ⟨[], fun e he => ?_, fun x c₁ log c' hx hrest => ?_⟩
      · cases he
      · rw [if_pos hy]
        exact ⟨x, c₁, log, hx, fun hn => absurd (hy.symm.trans hn) (by decide), rfl, hrest⟩
    · rename_i hy
      rw [if_neg hy]
      obtain ⟨a, w, hans⟩ := hsync q₁ (cs.headD default) σ.world (eq_false_of_ne_true hy)
      rw [hans] at h ⊢
      obtain ⟨first, hquiet, hrest⟩ := ih a h
      exact ⟨⟨⟨q₁, a⟩, σ.shared, σ.shared⟩ :: first, List.forall_mem_cons.mpr ⟨rfl, hquiet⟩,
        fun x c₁ log c' hx hk => ⟨a, σ.shared, _, ⟨_, _, w, hans⟩, fun _ => rfl, rfl,
          hrest x c₁ log c' hx hk⟩⟩

lemma advance_not_ready {p p' : Prog C Q A Unit} {cs : List Ch} {σ : Snap C W} :
    (advance rt i p cs σ).1 ≠ .ready p' := by
  induction p generalizing cs σ with
  | ret a =>
    intro h
    cases h
  | sync f k ih => exact ih σ.shared
  | call q k ih =>
    intro h
    rw [advance] at h
    split at h
    · cases h
    · split at h
      · cases h
      · exact ih _ h

variable (rt i) in
/-- What is left of the task is executed, from a state the others make of `c` to one they make
`c'` of, each of their changes keeping `R`. -/
def Task.Completes (R : C → C → Prop) (c c' : C) : Task C Q A → Prop
  | .ready p => ∃ c₀ log c₁, R c c₀ ∧ p.Amid rt.yields (rt.Answers i) c₀ log () c₁ ∧ R c₁ c' ∧
      ∀ e ∈ log, R e.before e.after
  | .waiting q k => ∃ x c₀ log c₁, rt.Answers i q x ∧ R c c₀ ∧
      (k x).Amid rt.yields (rt.Answers i) c₀ log () c₁ ∧ R c₁ c' ∧ ∀ e ∈ log, R e.before e.after
  | .finished => R c c'

variable {R : C → C → Prop} (hrefl : ∀ c, R c c)
  (htrans : ∀ c₁ c₂ c₃, R c₁ c₂ → R c₂ c₃ → R c₁ c₃)

omit [Inhabited Ch] in
include htrans in
lemma Task.Completes.of_other {c c₁ c' : C} {t : Task C Q A} (hR : R c c₁)
    (h : t.Completes rt i R c₁ c') : t.Completes rt i R c c' := by
  cases t with
  | ready p =>
    obtain ⟨c₀, log, c₂, hc, h⟩ := h
    exact ⟨c₀, log, c₂, htrans _ _ _ hR hc, h⟩
  | waiting q k =>
    obtain ⟨x, c₀, log, c₂, hx, hc, h⟩ := h
    exact ⟨x, c₀, log, c₂, hx, htrans _ _ _ hR hc, h⟩
  | finished => exact htrans _ _ _ hR h

include hrefl in
/-- The task's own run up to its next suspension is the beginning of an execution. -/
lemma Task.Completes.of_advance
    (hsync : ∀ q c w, rt.yields q = false → ∃ a w', rt.answer i q c w = some (a, w'))
    {p : Prog C Q A Unit} {cs : List Ch} {σ : Snap C W} {c' : C}
    (h : (advance rt i p cs σ).1.Completes rt i R (advance rt i p cs σ).2.shared c') :
    (Task.ready p).Completes rt i R σ.shared c' := by
  have hquiet : ∀ log : List (Await C A), (∀ e ∈ log, e.after = e.before) →
      ∀ e ∈ log, R e.before e.after := fun log hlog e he => (hlog e he) ▸ hrefl e.before
  cases ht : (advance rt i p cs σ).1 with
  | ready p' => exact absurd ht advance_not_ready
  | waiting q k =>
    rw [ht] at h
    obtain ⟨x, c₀, log, c₁, hx, hc, hk, hend, hlog⟩ := h
    obtain ⟨first, hfirst, hrest⟩ := advance_waiting hsync ht
    refine ⟨σ.shared, _, c₁, hrefl _, hrest x c₀ log c₁ hx hk, hend, fun e he => ?_⟩
    rcases List.mem_append.mp he with he | he
    · exact hquiet first hfirst e he
    · rcases List.mem_cons.mp he with rfl | he
      · exact hc
      · exact hlog e he
  | finished =>
    rw [ht] at h
    obtain ⟨log, hlog, hfirst⟩ := advance_finished ht
    exact ⟨σ.shared, log, _, hrefl _, hlog, h, hquiet log hfirst⟩

/-- Every move of the run but those of task `i` keeps `R`. -/
def OthersKeep (rt : Runtime Q A W Ch) (body : L → Prog C Q A Unit)
    (effect : E → Snap C W → Snap C W) (i : Nat) (R : C → C → Prop) :
    Pool C W Q A L → List (Move L Ch E) → Prop
  | _, [] => True
  | p, m :: ms => ((∀ cs, m ≠ .run i cs) → R p.snap.shared (step rt body effect p m).snap.shared) ∧
      OthersKeep rt body effect i R (step rt body effect p m) ms

variable (hsync : ∀ q c w, rt.yields q = false → ∃ a w', rt.answer i q c w = some (a, w'))
include hrefl htrans hsync

/-- One move of the pool is the beginning of what is left of task `i`. -/
lemma Task.Completes.of_step {p : Pool C W Q A L} {l : L} {t : Task C Q A} {m : Move L Ch E} {c' : C}
    (hi : p.tasks[i]? = some (l, t))
    (hothers : (∀ cs, m ≠ .run i cs) → R p.snap.shared (step rt body effect p m).snap.shared)
    (h : ∀ t', (step rt body effect p m).tasks[i]? = some (l, t') →
      t'.Completes rt i R (step rt body effect p m).snap.shared c') :
    t.Completes rt i R p.snap.shared c' := by
  have hlt : i < p.tasks.length := (List.getElem?_eq_some_iff.mp hi).1
  have hset : ∀ t' (σ : Snap C W), (p.setTask i l t' σ).tasks[i]? = some (l, t') :=
    fun t' σ => List.getElem?_set_self hlt
  -- A move which is not one of task `i`'s own leaves the task as it is.
  have hother : (∀ cs, m ≠ .run i cs) → (step rt body effect p m).tasks[i]? = some (l, t) →
      t.Completes rt i R p.snap.shared c' := fun hm hstay =>
    (h t hstay).of_other htrans (hothers hm)
  have hskip : ∀ j l' t' (σ : Snap C W), j ≠ i → (p.setTask j l' t' σ).tasks[i]? = some (l, t) :=
    fun j l' t' σ hji => (List.getElem?_set_ne hji).trans hi
  cases m with
  | spawn l' =>
    apply hother (fun cs h => by cases h)
    exact (List.getElem?_append_left hlt).trans hi
  | event e => exact hother (fun cs h => by cases h) hi
  | run j cs =>
    by_cases hji : j = i
    · subst hji
      cases t with
      | ready prog =>
        have hstep : step rt body effect p (.run j cs) =
            p.setTask j l (advance rt j prog cs p.snap).1 (advance rt j prog cs p.snap).2 := by
          rw [step, hi]
        rw [hstep] at h
        exact .of_advance hrefl hsync (h _ (hset _ _))
      | waiting q k =>
        have hstep : step rt body effect p (.run j cs) = p := by rw [step, hi]
        rw [hstep] at h
        exact h _ hi
      | finished =>
        have hstep : step rt body effect p (.run j cs) = p := by rw [step, hi]
        rw [hstep] at h
        exact h _ hi
    · apply hother (fun cs' h => hji (Move.run.inj h).1)
      rw [step]
      split
      · exact hskip _ _ _ _ hji
      · exact hi
  | serve j ch =>
    by_cases hji : j = i
    · subst hji
      cases t with
      | waiting q k =>
        cases hans : rt.answer j q ch p.snap.world with
        | none =>
          have hstep : step rt body effect p (.serve j ch) = p := by
            rw [step, hi]
            simp only [hans]
          rw [hstep] at h
          exact h _ hi
        | some aw =>
          obtain ⟨a, w⟩ := aw
          have hstep : step rt body effect p (.serve j ch) =
              p.setTask j l (.ready (k a)) { p.snap with world := w } := by
            rw [step, hi]
            simp only [hans]
          rw [hstep] at h
          obtain ⟨c₀, log, c₁, hrest⟩ := h _ (hset _ _)
          exact ⟨a, c₀, log, c₁, ⟨ch, _, w, hans⟩, hrest⟩
      | ready prog =>
        have hstep : step rt body effect p (.serve j ch) = p := by rw [step, hi]
        rw [hstep] at h
        exact h _ hi
      | finished =>
        have hstep : step rt body effect p (.serve j ch) = p := by rw [step, hi]
        rw [hstep] at h
        exact h _ hi
    · apply hother (fun cs' h => by cases h)
      rw [step]
      split
      · split
        · exact hskip _ _ _ _ hji
        · exact hi
      · exact hi

/-- A task which ends in a run of the pool is executed among the others. -/
theorem amid_of_moves {p : Pool C W Q A L} {l : L} {t : Task C Q A} {ms : List (Move L Ch E)}
    (hi : p.tasks[i]? = some (l, t)) (hothers : OthersKeep rt body effect i R p ms)
    (hend : (runMoves rt body effect p ms).tasks[i]? = some (l, .finished)) :
    t.Completes rt i R p.snap.shared (runMoves rt body effect p ms).snap.shared := by
  induction ms generalizing p t with
  | nil =>
    obtain rfl : t = .finished := (Prod.mk.inj (Option.some.inj (hi.symm.trans hend))).2
    exact hrefl _
  | cons m ms ih =>
    refine .of_step hrefl htrans hsync hi hothers.1 fun t' ht' => ?_
    exact ih ht' hothers.2 hend

end Projection

end GpuReservation.Library
