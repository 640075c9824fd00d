import GpuReservation.Library.Within

/-!
# Runs which may break off

A run of a program together with what it did, whether or not it came to its end; and what a program
returns where it does.
-/

namespace GpuReservation.Library

variable {C Q : Type} {A : Q → Type} {α β : Type}

/-- What a run does: it changes the shared state, or has a call answered. -/
inductive Event (C : Type) {Q : Type} (A : Q → Type)
  | own (before after : C)
  | answered (call : Sigma A)

namespace Prog

section

variable (others : C → C → Prop) (ans : ∀ q, A q → Prop)

/-- The program runs from `c` up to `c'`, where it ends or breaks off; at a call the others may
change the state. -/
def Ran : Prog C Q A α → C → List (Event C A) → C → Prop
  | ret _, c, tr, c' => tr = [] ∧ c' = c
  | sync f k, c, tr, c' =>
    tr = [] ∧ c' = c ∨ ∃ tr', tr = .own c (f c) :: tr' ∧ Ran (k c) (f c) tr' c'
  | call q k, c, tr, c' =>
    tr = [] ∧ others c c' ∨ ∃ x c₁ tr', ans q x ∧ others c c₁ ∧ tr = .answered ⟨q, x⟩ :: tr' ∧
      Ran (k x) c₁ tr' c'

/-- The program runs from `c` to its end at `c'`, and returns `b`. -/
def Ends : Prog C Q A α → C → List (Event C A) → α → C → Prop
  | ret a, c, tr, b, c' => tr = [] ∧ b = a ∧ c' = c
  | sync f k, c, tr, b, c' => ∃ tr', tr = .own c (f c) :: tr' ∧ Ends (k c) (f c) tr' b c'
  | call q k, c, tr, b, c' => ∃ x c₁ tr', ans q x ∧ others c c₁ ∧ tr = .answered ⟨q, x⟩ :: tr' ∧
      Ends (k x) c₁ tr' b c'

/-- What the program returns, whatever the state is and its calls are answered. -/
def Returns (post : α → Prop) : Prog C Q A α → Prop
  | ret a => post a
  | sync _ k => ∀ c, Returns post (k c)
  | call q k => ∀ x, ans q x → Returns post (k x)

end

variable {others : C → C → Prop} {ans : ∀ q, A q → Prop} {c c' : C} {tr : List (Event C A)}

/-- The run in which every call is answered by the oracle, and nobody else does anything. -/
def events (oracle : ∀ q, A q) : Prog C Q A α → C → List (Event C A) × C
  | ret _, c => ([], c)
  | sync f k, c => (.own c (f c) :: (events oracle (k c) (f c)).1, (events oracle (k c) (f c)).2)
  | call q k, c =>
    (.answered ⟨q, oracle q⟩ :: (events oracle (k (oracle q)) c).1,
      (events oracle (k (oracle q)) c).2)

lemma ran_events (hrefl : ∀ c, others c c) {oracle : ∀ q, A q} (horacle : ∀ q, ans q (oracle q))
    (p : Prog C Q A α) (c : C) : p.Ran others ans c (p.events oracle c).1 (p.events oracle c).2 := by
  induction p generalizing c with
  | ret a => exact ⟨rfl, rfl⟩
  | sync f k ih => exact .inr ⟨_, rfl, ih c (f c)⟩
  | call q k ih => exact .inr ⟨oracle q, c, _, horacle q, hrefl c, rfl, ih (oracle q) c⟩

/-- A run of a part within a bound changes the state within it, and makes the allowed calls. -/
theorem ran_within {keeps : C → C → Prop} {allowed : Q → Prop} {post : α → Prop}
    {p : Prog C Q A α} (hp : p.Within keeps allowed post) (h : p.Ran others ans c tr c') :
    (∀ c₁ c₂, Event.own c₁ c₂ ∈ tr → keeps c₁ c₂) ∧ ∀ e, Event.answered e ∈ tr → allowed e.1 := by
  induction p generalizing c tr with
  | ret a =>
    obtain ⟨rfl, -⟩ := h
    exact ⟨fun _ _ hmem => absurd hmem List.not_mem_nil, fun _ hmem => absurd hmem List.not_mem_nil⟩
  | sync f k ih =>
    rcases h with ⟨rfl, -⟩ | ⟨tr', rfl, h⟩
    · exact ⟨fun _ _ hmem => absurd hmem List.not_mem_nil,
        fun _ hmem => absurd hmem List.not_mem_nil⟩
    · obtain ⟨hown, hcalls⟩ := ih c (hp c).2 h
      refine ⟨fun c₁ c₂ hmem => ?_, fun e hmem => ?_⟩
      · rcases List.mem_cons.mp hmem with heq | hmem
        · cases heq
          exact (hp c).1
        · exact hown c₁ c₂ hmem
      · rcases List.mem_cons.mp hmem with heq | hmem
        · cases heq
        · exact hcalls e hmem
  | call q k ih =>
    rcases h with ⟨rfl, -⟩ | ⟨x, c₁, tr', -, -, rfl, h⟩
    · exact ⟨fun _ _ hmem => absurd hmem List.not_mem_nil,
        fun _ hmem => absurd hmem List.not_mem_nil⟩
    · obtain ⟨hown, hcalls⟩ := ih x (hp.2 x) h
      refine ⟨fun c₁ c₂ hmem => ?_, fun e hmem => ?_⟩
      · rcases List.mem_cons.mp hmem with heq | hmem
        · cases heq
        · exact hown c₁ c₂ hmem
      · rcases List.mem_cons.mp hmem with heq | hmem
        · cases heq
          exact hp.1
        · exact hcalls e hmem

/-- A run of two parts breaks off in the first, or comes to its end and goes on with the second. -/
theorem ran_bind_cases {p : Prog C Q A α} {f : α → Prog C Q A β}
    (h : (p >>= f).Ran others ans c tr c') : p.Ran others ans c tr c' ∨ ∃ a tr₁ c₁ tr₂,
      p.Ends others ans c tr₁ a c₁ ∧ tr = tr₁ ++ tr₂ ∧ (f a).Ran others ans c₁ tr₂ c' := by
  change (p.bind f).Ran others ans c tr c' at h
  induction p generalizing c tr with
  | ret a => exact .inr ⟨a, [], c, tr, ⟨rfl, rfl, rfl⟩, rfl, h⟩
  | sync g k ih =>
    rcases h with h | ⟨tr', rfl, h⟩
    · exact .inl (.inl h)
    · rcases ih c h with hbroken | ⟨a, tr₁, c₁, tr₂, hends, rfl, hrest⟩
      · exact .inl (.inr ⟨tr', rfl, hbroken⟩)
      · exact .inr ⟨a, .own c (g c) :: tr₁, c₁, tr₂, ⟨tr₁, rfl, hends⟩, rfl, hrest⟩
  | call q k ih =>
    rcases h with h | ⟨x, c₀, tr', hx, hc, rfl, h⟩
    · exact .inl (.inl h)
    · rcases ih x h with hbroken | ⟨a, tr₁, c₁, tr₂, hends, rfl, hrest⟩
      · exact .inl (.inr ⟨x, c₀, tr', hx, hc, rfl, hbroken⟩)
      · exact .inr ⟨a, .answered ⟨q, x⟩ :: tr₁, c₁, tr₂, ⟨x, c₀, tr₁, hx, hc, rfl, hends⟩, rfl, hrest⟩

/-- A run to the end is a run. -/
lemma Ends.ran {p : Prog C Q A α} {a : α} (h : p.Ends others ans c tr a c') :
    p.Ran others ans c tr c' := by
  induction p generalizing c tr with
  | ret b => exact ⟨h.1, h.2.2⟩
  | sync f k ih =>
    obtain ⟨tr', rfl, h⟩ := h
    exact .inr ⟨tr', rfl, ih c h⟩
  | call q k ih =>
    obtain ⟨x, c₁, tr', hx, hc, rfl, h⟩ := h
    exact .inr ⟨x, c₁, tr', hx, hc, rfl, ih x h⟩

section

variable (others : C → C → Prop) (ans : ∀ q, A q → Prop) (inv : C → Prop)

/-- However the program runs from a state, `inv` holds wherever it may break off, and `post` where it ends. -/
def Upholds : Prog C Q A α → (α → C → Prop) → C → Prop
  | ret a, post, c => post a c
  | sync f k, post, c => inv c ∧ Upholds (k c) post (f c)
  | call q k, post, c => inv c ∧ ∀ c₁, others c c₁ → inv c₁ ∧ ∀ x, ans q x → Upholds (k x) post c₁

end

namespace Upholds

variable {inv : C → Prop} {post post' : α → C → Prop} {postβ : β → C → Prop}

theorem ran {p : Prog C Q A α} (hpost : ∀ a c, post a c → inv c) (h : p.Upholds others ans inv post c)
    (hran : p.Ran others ans c tr c') : inv c' := by
  induction p generalizing c tr with
  | ret a =>
    obtain ⟨-, rfl⟩ := hran
    exact hpost a c' h
  | sync f k ih =>
    rcases hran with ⟨-, rfl⟩ | ⟨tr', -, hran⟩
    · exact h.1
    · exact ih c h.2 hran
  | call q k ih =>
    rcases hran with ⟨-, hc⟩ | ⟨x, c₁, tr', hx, hc, -, hran⟩
    · exact (h.2 c' hc).1
    · exact ih x ((h.2 c₁ hc).2 x hx) hran

lemma bind {p : Prog C Q A α} {f : α → Prog C Q A β} (h : p.Upholds others ans inv post c)
    (hf : ∀ a c, post a c → (f a).Upholds others ans inv postβ c) :
    (p >>= f).Upholds others ans inv postβ c := by
  change (p.bind f).Upholds others ans inv postβ c
  induction p generalizing c with
  | ret a => exact hf a c h
  | sync g k ih => exact ⟨h.1, ih c h.2⟩
  | call q k ih => exact ⟨h.1, fun c₁ hc => ⟨(h.2 c₁ hc).1, fun x hx => ih x ((h.2 c₁ hc).2 x hx)⟩⟩

lemma mono {p : Prog C Q A α} (h : p.Upholds others ans inv post c) (hpost : ∀ a c, post a c → post' a c) :
    p.Upholds others ans inv post' c := by
  induction p generalizing c with
  | ret a => exact hpost a c h
  | sync f k ih => exact ⟨h.1, ih c h.2⟩
  | call q k ih => exact ⟨h.1, fun c₁ hc => ⟨(h.2 c₁ hc).1, fun x hx => ih x ((h.2 c₁ hc).2 x hx)⟩⟩

lemma foldlM {γ δ : Type} {body : δ → γ → Prog C Q A δ} {l : List γ}
    (hbody : ∀ x ∈ l, ∀ d c, inv c → (body d x).Upholds others ans inv (fun _ => inv) c) {d : δ} (hc : inv c) :
    (l.foldlM body d).Upholds others ans inv (fun _ => inv) c := by
  induction l generalizing c d with
  | nil => exact hc
  | cons x l ih =>
    rw [List.foldlM_cons]
    exact (hbody x List.mem_cons_self d c hc).bind fun d' c' hc' =>
      ih (fun y hy => hbody y (List.mem_cons_of_mem x hy)) hc'

/-- A part which stays within a bound upholds what each step within the bound keeps. -/
theorem of_within {keeps : C → C → Prop} {allowed : Q → Prop} {bound : α → Prop} {p : Prog C Q A α}
    (hp : p.Within keeps allowed bound) (hkeeps : ∀ c c', keeps c c' → inv c → inv c')
    (hothers : ∀ c c', others c c' → inv c → inv c') (hc : inv c) :
    p.Upholds others ans inv (fun a c => bound a ∧ inv c) c := by
  induction p generalizing c with
  | ret a => exact ⟨hp, hc⟩
  | sync f k ih => exact ⟨hc, ih c (hp c).2 (hkeeps _ _ (hp c).1 hc)⟩
  | call q k ih => exact ⟨hc, fun c₁ hc₁ => ⟨hothers _ _ hc₁ hc, fun x _ => ih x (hp.2 x) (hothers _ _ hc₁ hc)⟩⟩

end Upholds

/-- What the oracle's run returns. -/
def outcome (oracle : ∀ q, A q) : Prog C Q A α → C → α
  | ret a, _ => a
  | sync f k, c => outcome oracle (k c) (f c)
  | call q k, c => outcome oracle (k (oracle q)) c

lemma ends_events (hrefl : ∀ c, others c c) {oracle : ∀ q, A q} (horacle : ∀ q, ans q (oracle q))
    (p : Prog C Q A α) (c : C) :
    p.Ends others ans c (p.events oracle c).1 (p.outcome oracle c) (p.events oracle c).2 := by
  induction p generalizing c with
  | ret a => exact ⟨rfl, rfl, rfl⟩
  | sync f k ih => exact ⟨_, rfl, ih c (f c)⟩
  | call q k ih => exact ⟨oracle q, c, _, horacle q, hrefl c, rfl, ih (oracle q) c⟩

namespace Returns

variable {post post' : α → Prop} {postβ : β → Prop}

theorem ends {p : Prog C Q A α} {a : α} (hp : p.Returns ans post)
    (h : p.Ends others ans c tr a c') : post a := by
  induction p generalizing c tr with
  | ret b =>
    obtain ⟨-, rfl, -⟩ := h
    exact hp
  | sync f k ih =>
    obtain ⟨tr', -, h⟩ := h
    exact ih c (hp c) h
  | call q k ih =>
    obtain ⟨x, c₁, tr', hx, -, -, h⟩ := h
    exact ih x (hp x hx) h

lemma pure {a : α} (h : post a) : (Pure.pure a : Prog C Q A α).Returns ans post := h

lemma bind {p : Prog C Q A α} {f : α → Prog C Q A β} (hp : p.Returns ans post)
    (hf : ∀ a, post a → (f a).Returns ans postβ) : (p >>= f).Returns ans postβ := by
  change (p.bind f).Returns ans postβ
  induction p with
  | ret a => exact hf a hp
  | sync g k ih => exact fun c => ih c (hp c)
  | call q k ih => exact fun x hx => ih x (hp x hx)

/-- A program returns something. -/
lemma any (p : Prog C Q A α) : p.Returns ans fun _ => True := by
  induction p with
  | ret a => trivial
  | sync f k ih => exact fun c => ih c
  | call q k ih => exact fun x _ => ih x

/-- Where nothing is asked of the first part's result. -/
lemma seq {p : Prog C Q A α} {f : α → Prog C Q A β} (hf : ∀ a, (f a).Returns ans postβ) :
    (p >>= f).Returns ans postβ :=
  (any p).bind fun a _ => hf a

lemma ask {q : Q} {post : A q → Prop} (h : ∀ x, ans q x → post x) :
    (Prog.ask q : Prog C Q A (A q)).Returns ans post := h

/-- What each round of a loop keeps, the loop returns. -/
lemma foldlM {γ δ : Type} {inv : δ → Prop} {body : δ → γ → Prog C Q A δ} {l : List γ}
    (hbody : ∀ x ∈ l, ∀ d, inv d → (body d x).Returns ans inv) {d : δ} (hd : inv d) :
    (l.foldlM body d).Returns ans inv := by
  induction l generalizing d with
  | nil => exact hd
  | cons x l ih =>
    rw [List.foldlM_cons]
    exact (hbody x List.mem_cons_self d hd).bind fun d' hd' =>
      ih (fun y hy => hbody y (List.mem_cons_of_mem x hy)) hd'

end Returns

end Prog

end GpuReservation.Library
