import GpuReservation.Library.Within

/-!
# Executions of one program

A program run from beginning to end with the shared state to itself.  What its calls are answered
is bounded by a relation only.
-/

namespace GpuReservation.Library

variable {C Q : Type} {A : Q → Type} {α β : Type}

namespace Prog

/-- The program takes the state from `c` to `c'` and returns `b`, the calls of the trace being
made and answered on the way. -/
def Exec (ans : ∀ q, A q → Prop) : Prog C Q A α → C → List (Sigma A) → α → C → Prop
  | ret a, c, tr, b, c' => tr = [] ∧ b = a ∧ c' = c
  | sync f k, c, tr, b, c' => Exec ans (k c) (f c) tr b c'
  | call q k, c, tr, b, c' =>
    ∃ x tr', ans q x ∧ tr = ⟨q, x⟩ :: tr' ∧ Exec ans (k x) c tr' b c'

variable {ans : ∀ q, A q → Prop} {c c' : C} {tr : List (Sigma A)}

@[simp] lemma exec_pure {a b : α} :
    (pure a : Prog C Q A α).Exec ans c tr b c' ↔ tr = [] ∧ b = a ∧ c' = c := Iff.rfl

@[simp] lemma exec_get {b : C} :
    (get : Prog C Q A C).Exec ans c tr b c' ↔ tr = [] ∧ b = c ∧ c' = c := Iff.rfl

@[simp] lemma exec_modify {f : C → C} {b : Unit} :
    (modify f : Prog C Q A Unit).Exec ans c tr b c' ↔ tr = [] ∧ c' = f c := by
  change (tr = [] ∧ b = () ∧ c' = f c) ↔ _
  simp

@[simp] lemma exec_ask {q : Q} {b : A q} :
    (ask q : Prog C Q A (A q)).Exec ans c tr b c' ↔ tr = [⟨q, b⟩] ∧ ans q b ∧ c' = c := by
  constructor
  · rintro ⟨x, _, hx, rfl, rfl, rfl, rfl⟩
    exact ⟨rfl, hx, rfl⟩
  · rintro ⟨rfl, hb, rfl⟩
    exact ⟨b, [], hb, rfl, rfl, rfl, rfl⟩

/-- A sequence is executed by executing its parts. -/
theorem exec_bind (p : Prog C Q A α) (f : α → Prog C Q A β) {b : β} :
    (p >>= f).Exec ans c tr b c' ↔ ∃ tr₁ tr₂ a c₁, tr = tr₁ ++ tr₂ ∧ p.Exec ans c tr₁ a c₁ ∧
      (f a).Exec ans c₁ tr₂ b c' := by
  change (p.bind f).Exec ans c tr b c' ↔ _
  induction p generalizing c tr with
  | ret a =>
    constructor
    · intro h
      exact ⟨[], tr, a, c, rfl, ⟨rfl, rfl, rfl⟩, h⟩
    · rintro ⟨_, _, _, _, rfl, ⟨rfl, rfl, rfl⟩, h⟩
      exact h
  | sync g k ih => exact ih c
  | call q k ih =>
    constructor
    · rintro ⟨x, tr', hx, rfl, h⟩
      obtain ⟨tr₁, tr₂, a, c₁, rfl, h₁, h₂⟩ := (ih x).mp h
      exact ⟨⟨q, x⟩ :: tr₁, tr₂, a, c₁, rfl, ⟨x, tr₁, hx, rfl, h₁⟩, h₂⟩
    · rintro ⟨_, tr₂, a, c₁, rfl, ⟨x, tr₁, hx, rfl, h₁⟩, h₂⟩
      exact ⟨x, tr₁ ++ tr₂, hx, rfl, (ih x).mpr ⟨tr₁, tr₂, a, c₁, rfl, h₁, h₂⟩⟩

/-- Programs which go on alike run alike. -/
lemma exec_bind_congr {p : Prog C Q A α} {f g : α → Prog C Q A β} {b : β}
    (h : ∀ a c tr, (f a).Exec ans c tr b c' ↔ (g a).Exec ans c tr b c') :
    (p >>= f).Exec ans c tr b c' ↔ (p >>= g).Exec ans c tr b c' := by
  rw [exec_bind, exec_bind]
  simp only [h]

/-- Reading the shared state gives the state. -/
@[simp] lemma exec_get_bind (f : C → Prog C Q A β) {b : β} :
    (get >>= f).Exec ans c tr b c' ↔ (f c).Exec ans c tr b c' := Iff.rfl

@[simp] lemma exec_modify_bind (g : C → C) (f : Unit → Prog C Q A β) {b : β} :
    (modify g >>= f).Exec ans c tr b c' ↔ (f ()).Exec ans (g c) tr b c' := Iff.rfl

/-- A call, then the rest. -/
lemma exec_ask_bind {q : Q} (f : A q → Prog C Q A β) {b : β} :
    (ask q >>= f).Exec ans c tr b c' ↔
      ∃ x tr', ans q x ∧ tr = ⟨q, x⟩ :: tr' ∧ (f x).Exec ans c tr' b c' := Iff.rfl

section Loop

variable {γ δ : Type} {body : δ → γ → Prog C Q A δ} (inv : List γ → δ → C → List (Sigma A) → Prop)
  (hbody : ∀ x l d c tr tr' d' c', inv (x :: l) d c tr → (body d x).Exec ans c tr' d' c' →
    inv l d' c' (tr ++ tr'))
include hbody

lemma exec_foldlM_from {l : List γ} {d d' : δ} {tr' : List (Sigma A)} (hinv : inv l d c tr)
    (h : (l.foldlM body d).Exec ans c tr' d' c') : inv [] d' c' (tr ++ tr') := by
  induction l generalizing c d tr tr' with
  | nil =>
    obtain ⟨rfl, rfl, rfl⟩ := h
    simpa using hinv
  | cons x l ih =>
    rw [List.foldlM_cons, exec_bind] at h
    obtain ⟨tr₁, tr₂, d₁, c₁, rfl, h₁, h₂⟩ := h
    rw [← List.append_assoc]
    exact ih (hbody x l d c tr tr₁ d₁ c₁ hinv h₁) h₂

/-- The rule of a loop which carries an accumulator, for one execution. -/
theorem exec_foldlM {l : List γ} {d d' : δ} (hinv : inv l d c [])
    (h : (l.foldlM body d).Exec ans c tr d' c') : inv [] d' c' tr :=
  exec_foldlM_from inv hbody hinv h

end Loop

/-- What a loop did with one of its items: the state it found, its calls, and the state it left. -/
structure Turn (γ C : Type) (A : Q → Type) where
  item : γ
  before : C
  trace : List (Sigma A)
  after : C

/-- The turns of a loop over the items follow on from one another. -/
inductive Turns {γ : Type} (ans : ∀ q, A q → Prop) (body : γ → Prog C Q A Unit) :
    List γ → C → List (Turn γ C A) → C → Prop
  | nil (c : C) : Turns ans body [] c [] c
  | cons {x : γ} {l : List γ} {c c₁ c' : C} {tr : List (Sigma A)} {turns : List (Turn γ C A)}
      (h : (body x).Exec ans c tr () c₁) (hrest : Turns ans body l c₁ turns c') :
      Turns ans body (x :: l) c (⟨x, c, tr, c₁⟩ :: turns) c'

/-- A loop is executed turn by turn. -/
theorem exec_forM {γ : Type} {body : γ → Prog C Q A Unit} {l : List γ} {u : Unit}
    (h : (l.forM body).Exec ans c tr u c') :
    ∃ turns, Turns ans body l c turns c' ∧ tr = turns.flatMap Turn.trace := by
  induction l generalizing c tr with
  | nil =>
    obtain ⟨rfl, -, rfl⟩ := h
    exact ⟨[], .nil c', rfl⟩
  | cons x l ih =>
    change (body x >>= fun _ => l.forM body).Exec ans c tr u c' at h
    rw [exec_bind] at h
    obtain ⟨tr₁, tr₂, _, c₁, rfl, h₁, h₂⟩ := h
    obtain ⟨turns, hturns, rfl⟩ := ih h₂
    exact ⟨⟨x, c, tr₁, c₁⟩ :: turns, .cons h₁ hturns, rfl⟩

/-- Every call of the trace is answered as it may be. -/
theorem exec_answered {p : Prog C Q A α} {a : α} (h : p.Exec ans c tr a c') :
    ∀ e ∈ tr, ans e.1 e.2 := by
  induction p generalizing c tr with
  | ret b =>
    obtain ⟨rfl, -, -⟩ := h
    exact nofun
  | sync f k ih => exact ih c h
  | call q k ih =>
    obtain ⟨x, tr', hx, rfl, h⟩ := h
    intro e he
    rcases List.mem_cons.mp he with rfl | he
    · exact hx
    · exact ih x h e he

/-- What may be answered may be answered where more may be. -/
theorem exec_mono {ans' : ∀ q, A q → Prop} (hans : ∀ q a, ans q a → ans' q a) {p : Prog C Q A α}
    {a : α} (h : p.Exec ans c tr a c') : p.Exec ans' c tr a c' := by
  induction p generalizing c tr with
  | ret b => exact h
  | sync f k ih => exact ih c h
  | call q k ih =>
    obtain ⟨x, tr', hx, rfl, h⟩ := h
    exact ⟨x, tr', hans q x hx, rfl, ih x h⟩

/-- An execution of a program within a bound makes the allowed calls, and keeps what every change
it may make keeps. -/
theorem exec_of_within {keeps : C → C → Prop} {allowed : Q → Prop} {post : α → Prop}
    (hrefl : ∀ c, keeps c c) (htrans : ∀ c₁ c₂ c₃, keeps c₁ c₂ → keeps c₂ c₃ → keeps c₁ c₃)
    {p : Prog C Q A α} (hp : p.Within keeps allowed post) {b : α} (h : p.Exec ans c tr b c') :
    keeps c c' ∧ (∀ e ∈ tr, allowed e.1) ∧ post b := by
  induction p generalizing c tr with
  | ret a =>
    obtain ⟨rfl, rfl, rfl⟩ := h
    exact ⟨hrefl c', by simp, hp⟩
  | sync f k ih =>
    obtain ⟨hk, hrest⟩ := ih c (hp c).2 h
    exact ⟨htrans c (f c) c' (hp c).1 hk, hrest⟩
  | call q k ih =>
    obtain ⟨x, tr', -, rfl, h⟩ := h
    obtain ⟨hk, hcalls, hpost⟩ := ih x (hp.2 x) h
    refine ⟨hk, fun e he => ?_, hpost⟩
    rcases List.mem_cons.mp he with rfl | he
    · exact hp.1
    · exact hcalls e he

/-- The execution in which every call is answered by the oracle. -/
def runWith (oracle : ∀ q, A q) : Prog C Q A α → C → List (Sigma A) × α × C
  | ret a, c => ([], a, c)
  | sync f k, c => runWith oracle (k c) (f c)
  | call q k, c =>
    (⟨q, oracle q⟩ :: (runWith oracle (k (oracle q)) c).1, (runWith oracle (k (oracle q)) c).2)

/-- A program can always be executed. -/
lemma exec_runWith {oracle : ∀ q, A q} (horacle : ∀ q, ans q (oracle q)) (p : Prog C Q A α) (c : C) :
    p.Exec ans c (p.runWith oracle c).1 (p.runWith oracle c).2.1 (p.runWith oracle c).2.2 := by
  induction p generalizing c with
  | ret a => exact ⟨rfl, rfl, rfl⟩
  | sync f k ih => exact ih c (f c)
  | call q k ih => exact ⟨oracle q, _, horacle q, rfl, ih (oracle q) c⟩

lemma exec_runWith_eq (oracle : ∀ q, A q) (p : Prog C Q A α) (c : C) :
    p.Exec (fun q a => a = oracle q) c (p.runWith oracle c).1 (p.runWith oracle c).2.1
      (p.runWith oracle c).2.2 := by
  apply exec_runWith
  exact fun q => rfl

/-! The world threaded through a program which runs alone. -/

section Play

variable {W Ch L E : Type} [Inhabited Ch] (rt : Runtime Q A W Ch) (i : Nat)

/-- Task `i` runs the program with nobody else about, each call answered at once as the next choice
says; `none` where a call cannot be answered. -/
def play : Prog C Q A α → List Ch → Snap C W → Option (α × List Ch × Snap C W)
  | ret a, cs, σ => some (a, cs, σ)
  | sync f k, cs, σ => play (k σ.shared) cs { σ with shared := f σ.shared }
  | call q k, cs, σ =>
    match rt.answer i q (cs.headD default) σ.world with
    | none => none
    | some (a, w) => play (k a) cs.tail { σ with world := w }

variable {rt i}

lemma play_bind (p : Prog C Q A α) (f : α → Prog C Q A β) (cs : List Ch) (σ : Snap C W) :
    (p >>= f).play rt i cs σ = (p.play rt i cs σ).bind fun r => (f r.1).play rt i r.2.1 r.2.2 := by
  change (p.bind f).play rt i cs σ = _
  induction p generalizing cs σ with
  | ret a => rfl
  | sync g k ih => exact ih _ _ _
  | call q k ih =>
    rw [bind, play, play]
    cases hans : rt.answer i q (cs.headD default) σ.world with
    | none => rfl
    | some aw => exact ih _ _ _

@[simp] lemma play_pure (a : α) (cs : List Ch) (σ : Snap C W) :
    (pure a : Prog C Q A α).play rt i cs σ = some (a, cs, σ) := rfl

@[simp] lemma play_get_bind (f : C → Prog C Q A β) (cs : List Ch) (σ : Snap C W) :
    (get >>= f).play rt i cs σ = (f σ.shared).play rt i cs σ := rfl

@[simp] lemma play_modify_bind (g : C → C) (f : Unit → Prog C Q A β) (cs : List Ch)
    (σ : Snap C W) :
    (modify g >>= f).play rt i cs σ = (f ()).play rt i cs { σ with shared := g σ.shared } := rfl

lemma play_ask_bind {q : Q} {f : A q → Prog C Q A β} {cs : List Ch} {σ : Snap C W} {a : A q} {w : W}
    (h : rt.answer i q (cs.headD default) σ.world = some (a, w)) :
    (ask q >>= f).play rt i cs σ = (f a).play rt i cs.tail { σ with world := w } := by
  change (call q f).play rt i cs σ = _
  rw [play, h]

lemma play_ask_bind_none {q : Q} {f : A q → Prog C Q A β} {cs : List Ch} {σ : Snap C W}
    (h : rt.answer i q (cs.headD default) σ.world = none) :
    (ask q >>= f).play rt i cs σ = none := by
  change (call q f).play rt i cs σ = _
  rw [play, h]

/-- A part which stays within a bound comes to an end, and keeps what it can. -/
lemma play_within {keeps : C → C → Prop} {allowed : Q → Prop} {post : α → Prop}
    {same : W → W → Prop} (hrefl : ∀ c, keeps c c) (htrans : ∀ c₁ c₂ c₃, keeps c₁ c₂ →
      keeps c₂ c₃ → keeps c₁ c₃) (wrefl : ∀ w, same w w)
    (wtrans : ∀ w₁ w₂ w₃, same w₁ w₂ → same w₂ w₃ → same w₁ w₃)
    (hans : ∀ q, allowed q → ∀ c w, ∃ a w', rt.answer i q c w = some (a, w') ∧ same w w')
    {p : Prog C Q A α} (hp : p.Within keeps allowed post) (cs : List Ch) (σ : Snap C W) :
    ∃ a cs' σ', p.play rt i cs σ = some (a, cs', σ') ∧ post a ∧ keeps σ.shared σ'.shared ∧
      same σ.world σ'.world := by
  induction p generalizing cs σ with
  | ret a => exact ⟨a, cs, σ, rfl, hp, hrefl _, wrefl _⟩
  | sync f k ih =>
    obtain ⟨hk, hrest⟩ := hp σ.shared
    obtain ⟨a, cs', σ', hplay, hpost, hkeeps, hsame⟩ := ih _ hrest cs { σ with shared := f σ.shared }
    exact ⟨a, cs', σ', hplay, hpost, htrans _ _ _ hk hkeeps, hsame⟩
  | call q k ih =>
    obtain ⟨x, w, hx, hw⟩ := hans q hp.1 (cs.headD default) σ.world
    obtain ⟨a, cs', σ', hplay, hpost, hkeeps, hsame⟩ := ih x (hp.2 x) cs.tail { σ with world := w }
    refine ⟨a, cs', σ', ?_, hpost, hkeeps, wtrans _ _ _ hw hsame⟩
    rw [play, hx]
    exact hplay

/-- What a task does alone, it can do in a pool, when the others let it. -/
theorem play_isRun (body : L → Prog C Q A Unit) (effect : E → Snap C W → Snap C W) {l : L}
    {p : Prog C Q A Unit} {cs cs' : List Ch} {σ' : Snap C W} (pool : Pool C W Q A L)
    (hi : pool.tasks[i]? = some (l, .ready p)) (h : p.play rt i cs pool.snap = some ((), cs', σ')) :
    ∃ ds ms, runMoves rt body effect pool (.run i ds :: ms) = pool.setTask i l .finished σ' := by
  have hlt : i < pool.tasks.length := (List.getElem?_eq_some_iff.mp hi).1
  have hset : ∀ t (σ₁ : Snap C W), (pool.setTask i l t σ₁).tasks[i]? = some (l, t) :=
    fun t σ₁ => List.getElem?_set_self hlt
  have hagain : ∀ t t' (σ₁ σ₂ : Snap C W), (pool.setTask i l t σ₁).setTask i l t' σ₂ =
      pool.setTask i l t' σ₂ := by
    intro t t' σ₁ σ₂
    rw [Pool.setTask, Pool.setTask, List.set_set, Pool.setTask]
  have hrun : ∀ (pool : Pool C W Q A L) prog ds, pool.tasks[i]? = some (l, .ready prog) →
      step rt body effect pool (.run i ds) =
        pool.setTask i l (advance rt i prog ds pool.snap).1 (advance rt i prog ds pool.snap).2 := by
    intro pool prog ds hready
    rw [step, hready]
  cases p with
  | ret a =>
    cases h
    exact ⟨[], [], hrun pool _ [] hi⟩
  | sync f k =>
    obtain ⟨ds, ms, hms⟩ := play_isRun body effect
      (pool.setTask i l (.ready (k pool.snap.shared)) { pool.snap with shared := f pool.snap.shared })
      (hset _ _) h
    refine ⟨ds, ms, ?_⟩
    rw [runMoves, List.foldl_cons, hrun _ _ ds (hset _ _), hagain, hagain] at hms
    rw [runMoves, List.foldl_cons, hrun pool _ ds hi]
    exact hms
  | call q k =>
    rw [play] at h
    cases hans : rt.answer i q (cs.headD default) pool.snap.world with
    | none =>
      rw [hans] at h
      cases h
    | some aw =>
      obtain ⟨a, w⟩ := aw
      rw [hans] at h
      obtain ⟨ds, ms, hms⟩ := play_isRun body effect
        (pool.setTask i l (.ready (k a)) { pool.snap with world := w }) (hset _ _) h
      rw [hagain] at hms
      by_cases hy : rt.yields q
      · refine ⟨[], .serve i (cs.headD default) :: .run i ds :: ms, ?_⟩
        have hwait : step rt body effect pool (.run i []) =
            pool.setTask i l (.waiting q k) pool.snap := by
          rw [hrun pool _ [] hi, advance, if_pos hy]
        have hserve : step rt body effect (pool.setTask i l (.waiting q k) pool.snap)
            (.serve i (cs.headD default)) =
              pool.setTask i l (.ready (k a)) { pool.snap with world := w } := by
          have hanswer : rt.answer i q (cs.headD default)
              (pool.setTask i l (.waiting q k) pool.snap).snap.world = some (a, w) := hans
          rw [step, hset]
          simp only [hanswer]
          exact hagain _ _ _ _
        rw [runMoves, List.foldl_cons, hwait, List.foldl_cons, hserve]
        exact hms
      · refine ⟨cs.headD default :: ds, ms, ?_⟩
        rw [runMoves, List.foldl_cons, hrun _ _ ds (hset _ _), hagain] at hms
        rw [runMoves, List.foldl_cons, hrun pool _ _ hi, advance, if_neg hy, List.headD_cons, hans]
        exact hms
termination_by structural p

end Play

end Prog

end GpuReservation.Library
