import GpuReservation.Library.Within

/-!
# A program alone with the world

A program run from beginning to end, its calls answered by the world as it is then.
-/

namespace GpuReservation.Library

variable {C W Q Ch : Type} {A : Q → Type} {α β : Type} [Inhabited Ch]

namespace Prog

section

variable (rt : Runtime Q A W Ch) (i : Nat)

/-- What the program returns, the choices it leaves, and what it leaves of the state and the world;
`none` where the world cannot answer. -/
def alone : Prog C Q A α → List Ch → Snap C W → Option (α × List Ch × Snap C W)
  | ret a, cs, σ => some (a, cs, σ)
  | sync f k, cs, σ => alone (k σ.shared) cs { σ with shared := f σ.shared }
  | call q k, cs, σ =>
    (rt.answer i q (cs.headD default) σ.world).bind fun r =>
      alone (k r.1) cs.tail { σ with world := r.2 }

end

variable {rt : Runtime Q A W Ch} {i : Nat} {cs : List Ch} {σ : Snap C W}

lemma alone_bind (p : Prog C Q A α) (f : α → Prog C Q A β) :
    (p >>= f).alone rt i cs σ =
      (p.alone rt i cs σ).bind fun r => (f r.1).alone rt i r.2.1 r.2.2 := by
  change (p.bind f).alone rt i cs σ = _
  induction p generalizing cs σ with
  | ret a => rfl
  | sync g k ih => exact ih σ.shared
  | call q k ih =>
    change (rt.answer i q (cs.headD default) σ.world).bind _ =
      ((rt.answer i q (cs.headD default) σ.world).bind _).bind _
    rw [Option.bind_assoc]
    apply Option.bind_congr
    intro r _
    exact ih r.1

@[simp] lemma alone_pure (a : α) :
    (pure a : Prog C Q A α).alone rt i cs σ = some (a, cs, σ) := rfl

@[simp] lemma alone_get_bind (f : C → Prog C Q A β) :
    (get >>= f).alone rt i cs σ = (f σ.shared).alone rt i cs σ := rfl

@[simp] lemma alone_modify_bind (g : C → C) (f : Unit → Prog C Q A β) :
    (modify g >>= f).alone rt i cs σ =
      (f ()).alone rt i cs { σ with shared := g σ.shared } := rfl

lemma alone_ask_bind {q : Q} (f : A q → Prog C Q A β) :
    (ask q >>= f).alone rt i cs σ =
      (rt.answer i q (cs.headD default) σ.world).bind fun r =>
        (f r.1).alone rt i cs.tail { σ with world := r.2 } := rfl

/-- What the answers to the calls keep of the world, the program keeps. -/
lemma alone_of_within {keeps : C → C → Prop} {allowed : Q → Prop} {post : α → Prop}
    {R : W → W → Prop} (hrefl : ∀ w, R w w) (htrans : ∀ w₁ w₂ w₃, R w₁ w₂ → R w₂ w₃ → R w₁ w₃)
    (hanswer : ∀ q ch w a w', allowed q → rt.answer i q ch w = some (a, w') → R w w')
    {p : Prog C Q A α} (hp : p.Within keeps allowed post) {r : α × List Ch × Snap C W}
    (h : p.alone rt i cs σ = some r) : R σ.world r.2.2.world := by
  induction p generalizing cs σ with
  | ret a =>
    obtain rfl := Option.some.inj h
    exact hrefl σ.world
  | sync f k ih => exact ih σ.shared (σ := { σ with shared := f σ.shared }) (hp σ.shared).2 h
  | call q k ih =>
    obtain ⟨⟨a, w'⟩, hans, hrest⟩ := Option.bind_eq_some_iff.mp h
    exact htrans _ _ _ (hanswer q _ _ a w' hp.1 hans) (ih a (hp.2 a) hrest)

/-- A program runs to its end if the world answers whatever it asks. -/
lemma alone_isSome {keeps : C → C → Prop} {allowed : Q → Prop} {post : α → Prop}
    (hanswer : ∀ q ch w, allowed q → (rt.answer i q ch w).isSome)
    {p : Prog C Q A α} (hp : p.Within keeps allowed post) : (p.alone rt i cs σ).isSome := by
  induction p generalizing cs σ with
  | ret a => rfl
  | sync f k ih => exact ih σ.shared (hp σ.shared).2
  | call q k ih =>
    obtain ⟨r, hr⟩ := Option.isSome_iff_exists.mp (hanswer q (cs.headD default) σ.world hp.1)
    unfold alone
    rw [hr]
    exact ih r.1 (hp.2 r.1)

end Prog

end GpuReservation.Library
