import GpuReservation.Library.RelyGuarantee

/-!
# What a program keeps within

A syntactic bound on a program: what its own steps may do to the shared state, which calls it may
make, and what it may return, whatever it is answered.
-/

namespace GpuReservation.Library

variable {C W Q Ch : Type} {A : Q → Type} {α β : Type}

namespace Prog

section

variable (keeps : C → C → Prop) (allowed : Q → Prop)

def Within : (α → Prop) → Prog C Q A α → Prop
  | post, ret a => post a
  | post, sync f k => ∀ c, keeps c (f c) ∧ Within post (k c)
  | post, call q k => allowed q ∧ ∀ a, Within post (k a)

end

namespace Within

variable {keeps keeps' : C → C → Prop} {allowed allowed' : Q → Prop} {post post' : α → Prop}

lemma mono {p : Prog C Q A α} (hkeeps : ∀ c c', keeps c c' → keeps' c c')
    (hallowed : ∀ q, allowed q → allowed' q) (hpost : ∀ a, post a → post' a)
    (hp : Within keeps allowed post p) : Within keeps' allowed' post' p := by
  induction p with
  | ret a => exact hpost a hp
  | sync f k ih => exact fun c => ⟨hkeeps _ _ (hp c).1, ih c (hp c).2⟩
  | call q k ih => exact ⟨hallowed q hp.1, fun a => ih a (hp.2 a)⟩

/-- Two bounds are one. -/
lemma and {p : Prog C Q A α} (hp : Within keeps allowed post p) (hp' : Within keeps' allowed' post' p) :
    Within (fun c c' => keeps c c' ∧ keeps' c c') (fun q => allowed q ∧ allowed' q)
      (fun a => post a ∧ post' a) p := by
  induction p with
  | ret a => exact ⟨hp, hp'⟩
  | sync f k ih => exact fun c => ⟨⟨(hp c).1, (hp' c).1⟩, ih c (hp c).2 (hp' c).2⟩
  | call q k ih => exact ⟨⟨hp.1, hp'.1⟩, fun a => ih a (hp.2 a) (hp'.2 a)⟩

lemma weaken {p : Prog C Q A α} (hp : Within keeps allowed post p) :
    Within keeps allowed (fun _ => True) p :=
  hp.mono (fun _ _ h => h) (fun _ h => h) fun _ _ => trivial

lemma pure {a : α} (h : post a) : Within (A := A) keeps allowed post (Pure.pure a) := h

lemma bind {p : Prog C Q A α} {f : α → Prog C Q A β} {postβ : β → Prop}
    (hp : Within keeps allowed post p) (hf : ∀ a, post a → Within keeps allowed postβ (f a)) :
    Within keeps allowed postβ (p >>= f) := by
  change Within keeps allowed postβ (p.bind f)
  induction p with
  | ret a => exact hf a hp
  | sync g k ih => exact fun c => ⟨(hp c).1, ih c (hp c).2⟩
  | call q k ih => exact ⟨hp.1, fun a => ih a (hp.2 a)⟩

/-- Where nothing is asked of the first part's result. -/
lemma seq {p : Prog C Q A α} {f : α → Prog C Q A β} {postβ : β → Prop}
    (hp : Within keeps allowed (fun _ => True) p) (hf : ∀ a, Within keeps allowed postβ (f a)) :
    Within keeps allowed postβ (p >>= f) :=
  hp.bind fun a _ => hf a

lemma get (hrefl : ∀ c, keeps c c) :
    Within keeps allowed (fun _ => True) (Prog.get : Prog C Q A C) :=
  fun c => ⟨hrefl c, trivial⟩

lemma modify {f : C → C} (h : ∀ c, keeps c (f c)) :
    Within keeps allowed (fun _ => True) (Prog.modify f : Prog C Q A Unit) :=
  fun c => ⟨h c, trivial⟩

lemma ask {q : Q} (h : allowed q) :
    Within keeps allowed (fun _ => True) (Prog.ask q : Prog C Q A (A q)) :=
  ⟨h, fun _ => trivial⟩

/-- Nothing is asked of the part. -/
lemma anything (p : Prog C Q A α) : Within (fun _ _ => True) (fun _ => True) (fun _ => True) p := by
  induction p with
  | ret a => trivial
  | sync f k ih => exact fun c => ⟨trivial, ih c⟩
  | call q k ih => exact ⟨trivial, ih⟩

lemma forM {γ : Type} {body : γ → Prog C Q A Unit} {l : List γ}
    (h : ∀ x ∈ l, Within keeps allowed (fun _ => True) (body x)) :
    Within keeps allowed (fun _ => True) (l.forM body) := by
  induction l with
  | nil => exact trivial
  | cons x l ih =>
    exact seq (h x List.mem_cons_self) fun _ => ih fun y hy => h y (List.mem_cons_of_mem x hy)

lemma foldlM {γ δ : Type} {body : δ → γ → Prog C Q A δ} {l : List γ}
    (h : ∀ x ∈ l, ∀ d, Within keeps allowed (fun _ => True) (body d x)) (d : δ) :
    Within keeps allowed (fun _ => True) (l.foldlM body d) := by
  induction l generalizing d with
  | nil => exact trivial
  | cons x l ih =>
    rw [List.foldlM_cons]
    exact seq (h x List.mem_cons_self d) fun d =>
      ih (fun y hy => h y (List.mem_cons_of_mem x hy)) d

end Within

end Prog

variable {rt : Runtime Q A W Ch} {I : Snap C W → Prop} {ct : Contract C W Q Ch} {i : Nat}
  {P : Snap C W → Prop}

/-- A program which stays within a bound keeps what each step within the bound keeps. -/
theorem Triple.of_within {keeps : C → C → Prop} {allowed : Q → Prop} {post : α → Prop}
    {p : Prog C Q A α} (hp : p.Within keeps allowed post) (hP : Stable ct P)
    (hkeeps : ∀ σ c', keeps σ.shared c' → I σ → P σ →
      ct.guar σ { σ with shared := c' } ∧ I { σ with shared := c' } ∧ P { σ with shared := c' })
    (hcall : ∀ q, allowed q → ∀ σ, I σ → P σ → ct.issued q σ ∧ ct.served q σ ∧
      ∀ c a w, ct.assumed q c σ ∨ rt.yields q = false → rt.answer i q c σ.world = some (a, w) →
        ct.guar σ { σ with world := w } ∧ I { σ with world := w } ∧ P { σ with world := w })
    (hsync : ∀ q c w, rt.yields q = false → ∃ a w', rt.answer i q c w = some (a, w')) :
    Triple rt I ct i P p fun a σ => post a ∧ P σ := by
  induction p with
  | ret a => exact fun _ σ hg hI hPσ => ⟨hg, hI, hp, hPσ⟩
  | sync f k ih =>
    intro σ₀ σ hg hI hPσ
    obtain ⟨hg', hI', hP'⟩ := hkeeps σ (f σ.shared) (hp σ.shared).1 hI hPσ
    exact ih σ.shared (hp σ.shared).2 σ₀ _ (ct.guar_trans hg hg') hI' hP'
  | call q k ih =>
    by_cases hy : rt.yields q
    · refine Triple.bind (p := Prog.ask q) (R := fun _ => P) (.ask hy hP (fun _ => hP)
        (fun σ hI hPσ => (hcall q hp.1 σ hI hPσ).1) fun σ hI hPσ => ?_) fun a => ih a (hp.2 a)
      obtain ⟨-, hs, hans⟩ := hcall q hp.1 σ hI hPσ
      exact ⟨hs, fun c a w has hw => hans c a w (.inl has) hw⟩
    · have hy : rt.yields q = false := eq_false_of_ne_true hy
      refine Triple.bind (p := Prog.ask q) (R := fun _ => P) (.ask_sync hy fun σ hI hPσ c => ?_)
        fun a => ih a (hp.2 a)
      obtain ⟨a, w, hw⟩ := hsync q c σ.world hy
      exact ⟨a, w, hw, (hcall q hp.1 σ hI hPσ).2.2 c a w (.inr hy) hw⟩

end GpuReservation.Library
