import Mathlib.Data.List.Basic

/-!
# Cooperative tasks

A task runs alone until it awaits a call.  Between the moment the call is issued and the moment
the task goes on, any number of other tasks may run and the outside world may change.
-/

namespace GpuReservation.Library

/-- A program over shared state `C` which makes calls `Q` with answers `A`.  `sync` changes the
shared state and hands on what it was before the change. -/
inductive Prog (C Q : Type) (A : Q → Type) (α : Type) : Type
  | ret (a : α)
  | sync (f : C → C) (k : C → Prog C Q A α)
  | call (q : Q) (k : A q → Prog C Q A α)

namespace Prog

variable {C Q : Type} {A : Q → Type} {α β : Type}

def bind : Prog C Q A α → (α → Prog C Q A β) → Prog C Q A β
  | ret a, f => f a
  | sync g k, f => sync g fun c => (k c).bind f
  | call q k, f => call q fun a => (k a).bind f

instance : Monad (Prog C Q A) where
  pure := ret
  bind := bind

lemma bind_assoc {γ : Type} (p : Prog C Q A α) (f : α → Prog C Q A β) (g : β → Prog C Q A γ) :
    (p.bind f).bind g = p.bind fun a => (f a).bind g := by
  induction p with
  | ret a => rfl
  | sync h k ih => simp only [bind, ih]
  | call q k ih => simp only [bind, ih]

lemma bind_ret (p : Prog C Q A α) : p.bind ret = p := by
  induction p with
  | ret a => rfl
  | sync h k ih => simp only [bind, ih]
  | call q k ih => simp only [bind, ih]

instance : LawfulMonad (Prog C Q A) :=
  LawfulMonad.mk' (Prog C Q A) bind_ret (fun _ _ => rfl) bind_assoc

/-- Reads the shared state. -/
def get : Prog C Q A C := sync id ret

def modify (f : C → C) : Prog C Q A Unit := sync f fun _ => ret ()

/-- Makes a call. -/
def ask (q : Q) : Prog C Q A (A q) := call q ret

end Prog

/-- How the world answers calls.  A call which yields suspends its caller, and may find the world
unable to answer it now; the others are answered on the spot. -/
structure Runtime (Q : Type) (A : Q → Type) (W Ch : Type) where
  yields : Q → Bool
  answer : Nat → (q : Q) → Ch → W → Option (A q × W)

/-- What every task can see: the shared state, and the world outside. -/
structure Snap (C W : Type) where
  shared : C
  world : W

inductive Task (C Q : Type) (A : Q → Type) : Type
  | ready (p : Prog C Q A Unit)
  | waiting (q : Q) (k : A q → Prog C Q A Unit)
  | finished

def Task.isFinished {C Q : Type} {A : Q → Type} : Task C Q A → Bool
  | .finished => true
  | _ => false

structure Pool (C W Q : Type) (A : Q → Type) (L : Type) where
  snap : Snap C W
  tasks : List (L × Task C Q A)

/-- One step of a run: a task is started, or runs until it awaits, or has its call answered, or
something else happens. -/
inductive Move (L Ch E : Type)
  | spawn (label : L)
  | run (task : Nat) (choices : List Ch)
  | serve (task : Nat) (choice : Ch)
  | event (e : E)

section Semantics

variable {C W Q L Ch E : Type} {A : Q → Type} [Inhabited Ch] (rt : Runtime Q A W Ch)

/-- Runs a program up to its next suspension. -/
def advance (i : Nat) : Prog C Q A Unit → List Ch → Snap C W → Task C Q A × Snap C W
  | .ret _, _, σ => (.finished, σ)
  | .sync f k, cs, σ => advance i (k σ.shared) cs { σ with shared := f σ.shared }
  | .call q k, cs, σ =>
    if rt.yields q then (.waiting q k, σ)
    else match rt.answer i q (cs.headD default) σ.world with
      | none => (.waiting q k, σ)
      | some (a, w) => advance i (k a) cs.tail { σ with world := w }

def Pool.setTask (p : Pool C W Q A L) (i : Nat) (l : L) (t : Task C Q A) (σ : Snap C W) :
    Pool C W Q A L :=
  ⟨σ, p.tasks.set i (l, t)⟩

/-- A step which is not possible in `p` leaves it as it is. -/
def step (body : L → Prog C Q A Unit) (effect : E → Snap C W → Snap C W) (p : Pool C W Q A L) :
    Move L Ch E → Pool C W Q A L
  | .spawn l => { p with tasks := p.tasks ++ [(l, .ready (body l))] }
  | .run i cs =>
    match p.tasks[i]? with
    | some (l, .ready prog) =>
      p.setTask i l (advance rt i prog cs p.snap).1 (advance rt i prog cs p.snap).2
    | _ => p
  | .serve i c =>
    match p.tasks[i]? with
    | some (l, .waiting q k) =>
      match rt.answer i q c p.snap.world with
      | some (a, w) => p.setTask i l (.ready (k a)) { p.snap with world := w }
      | none => p
    | _ => p
  | .event e => { p with snap := effect e p.snap }

def runMoves (body : L → Prog C Q A Unit) (effect : E → Snap C W → Snap C W)
    (p : Pool C W Q A L) (ms : List (Move L Ch E)) : Pool C W Q A L :=
  ms.foldl (step rt body effect) p

variable {rt} {body : L → Prog C Q A Unit} {effect : E → Snap C W → Snap C W} {R : W → W → Prop}

/-- A run up to the next suspension changes the world as the calls answered on the spot do. -/
lemma advance_world (hrefl : ∀ w, R w w) (htrans : ∀ w₁ w₂ w₃, R w₁ w₂ → R w₂ w₃ → R w₁ w₃)
    {i : Nat} (hans : ∀ q c a w w', rt.yields q = false → rt.answer i q c w = some (a, w') → R w w')
    (p : Prog C Q A Unit) (cs : List Ch) (σ : Snap C W) :
    R σ.world (advance rt i p cs σ).2.world := by
  induction p generalizing cs σ with
  | ret a => exact hrefl _
  | sync f k ih => exact ih σ.shared cs { σ with shared := f σ.shared }
  | call q k ih =>
    rw [advance]
    split
    · exact hrefl _
    · rename_i hy
      split
      · exact hrefl _
      · rename_i a w hw
        exact htrans _ _ _ (hans q _ a _ w (by simpa using hy) hw) (ih a cs.tail { σ with world := w })

/-- A relation which every answer and every event keeps to relates the worlds of every step. -/
theorem step_world (hrefl : ∀ w, R w w) (htrans : ∀ w₁ w₂ w₃, R w₁ w₂ → R w₂ w₃ → R w₁ w₃)
    (hans : ∀ i q c a w w', rt.answer i q c w = some (a, w') → R w w')
    (hevent : ∀ e σ, R σ.world (effect e σ).world) (p : Pool C W Q A L) (m : Move L Ch E) :
    R p.snap.world (step rt body effect p m).snap.world := by
  cases m with
  | spawn l => exact hrefl _
  | run i cs =>
    rw [step]
    split
    · exact advance_world hrefl htrans (fun q c a w w' _ h => hans i q c a w w' h) _ cs p.snap
    · exact hrefl _
  | serve i c =>
    rw [step]
    split
    · split
      · rename_i a w hw
        exact hans i _ c a _ w hw
      · exact hrefl _
    · exact hrefl _
  | event e => exact hevent e p.snap

/-- Whose the tasks are, in the order they were started. -/
def Pool.labels (p : Pool C W Q A L) : List L := p.tasks.map Prod.fst

/-- The task the step starts. -/
def Move.spawned : Move L Ch E → List L
  | .spawn l => [l]
  | _ => []

lemma setTask_labels {p : Pool C W Q A L} {i : Nat} {l : L} {t₀ t : Task C Q A} {σ : Snap C W}
    (hi : p.tasks[i]? = some (l, t₀)) : (p.setTask i l t σ).labels = p.labels := by
  unfold Pool.labels Pool.setTask
  apply List.ext_getElem?
  intro j
  rw [List.getElem?_map, List.getElem?_map, List.getElem?_set]
  split
  · rename_i hij
    subst hij
    rw [hi, if_pos (List.getElem?_eq_some_iff.mp hi).1]
    rfl
  · rfl

theorem step_labels (p : Pool C W Q A L) (m : Move L Ch E) :
    (step rt body effect p m).labels = p.labels ++ m.spawned := by
  cases m with
  | spawn l => exact List.map_append
  | run i cs =>
    refine Eq.trans ?_ (List.append_nil _).symm
    rw [step]
    split
    · exact setTask_labels ‹_›
    · rfl
  | serve i c =>
    refine Eq.trans ?_ (List.append_nil _).symm
    rw [step]
    split
    · split
      · exact setTask_labels ‹_›
      · rfl
    · rfl
  | event e => exact (List.append_nil _).symm

end Semantics

end GpuReservation.Library
