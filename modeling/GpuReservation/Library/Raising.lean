import GpuReservation.Library.Exec
import GpuReservation.Library.Notes

/-!
# Executions whose calls may raise

A program which catches nothing: the first of its calls to raise ends it, and the state stays as it is found then.
-/

namespace GpuReservation.Library

variable {C Q E L : Type} {A : Q → Type} {α β : Type}

/-- A call, and what it came to. -/
abbrev Tried (E : Type) {Q : Type} (A : Q → Type) : Type := Σ q, Except E (A q)

namespace Prog

/-- The program takes the state from `c` to `c'` and returns, or a call raises; the trace has its calls, and
`others` says what becomes of the state while one is made. -/
def ComesTo (others : Q → C → C → Prop) (outcome : ∀ q, Except E (A q) → Prop) :
    Prog C Q A α → C → List (Tried E A) → Except E α → C → Prop
  | ret a, c, tr, b, c' => tr = [] ∧ b = .ok a ∧ c' = c
  | sync f k, c, tr, b, c' => ComesTo others outcome (k c) (f c) tr b c'
  | call q k, c, tr, b, c' =>
    (∃ a c₁ tr', outcome q (.ok a) ∧ others q c c₁ ∧ tr = ⟨q, .ok a⟩ :: tr' ∧
      ComesTo others outcome (k a) c₁ tr' b c') ∨
    ∃ e, outcome q (.error e) ∧ others q c c' ∧ tr = [⟨q, .error e⟩] ∧ b = .error e

variable {others : Q → C → C → Prop} {outcome : ∀ q, Except E (A q) → Prop} {c c' : C}
  {tr : List (Tried E A)}

@[simp] lemma comesTo_pure {a : α} {b : Except E α} :
    (pure a : Prog C Q A α).ComesTo others outcome c tr b c' ↔ tr = [] ∧ b = .ok a ∧ c' = c := Iff.rfl

@[simp] lemma comesTo_modify {f : C → C} {b : Except E Unit} :
    (modify f : Prog C Q A Unit).ComesTo others outcome c tr b c' ↔ tr = [] ∧ b = .ok () ∧ c' = f c := Iff.rfl

/-- Reading the shared state gives the state. -/
@[simp] lemma comesTo_get_bind (f : C → Prog C Q A β) {b : Except E β} :
    (get >>= f).ComesTo others outcome c tr b c' ↔ (f c).ComesTo others outcome c tr b c' := Iff.rfl

@[simp] lemma comesTo_modify_bind (g : C → C) (f : Unit → Prog C Q A β) {b : Except E β} :
    (modify g >>= f).ComesTo others outcome c tr b c' ↔ (f ()).ComesTo others outcome (g c) tr b c' := Iff.rfl

/-- A call, then the rest, unless it raises. -/
lemma comesTo_ask_bind {q : Q} (f : A q → Prog C Q A β) {b : Except E β} :
    (ask q >>= f).ComesTo others outcome c tr b c' ↔
      (∃ a c₁ tr', outcome q (.ok a) ∧ others q c c₁ ∧ tr = ⟨q, .ok a⟩ :: tr' ∧
        (f a).ComesTo others outcome c₁ tr' b c') ∨
      ∃ e, outcome q (.error e) ∧ others q c c' ∧ tr = [⟨q, .error e⟩] ∧ b = .error e := Iff.rfl

/-- A sequence ends in its first part, or in its second. -/
theorem comesTo_bind (p : Prog C Q A α) (f : α → Prog C Q A β) {b : Except E β} :
    (p >>= f).ComesTo others outcome c tr b c' ↔
      (∃ tr₁ tr₂ a c₁, tr = tr₁ ++ tr₂ ∧ p.ComesTo others outcome c tr₁ (.ok a) c₁ ∧
        (f a).ComesTo others outcome c₁ tr₂ b c') ∨
      ∃ e, p.ComesTo others outcome c tr (.error e) c' ∧ b = .error e := by
  change (p.bind f).ComesTo others outcome c tr b c' ↔ _
  induction p generalizing c tr with
  | ret a =>
    constructor
    · intro h
      exact .inl ⟨[], tr, a, c, rfl, ⟨rfl, rfl, rfl⟩, h⟩
    · rintro (⟨_, _, _, _, rfl, ⟨rfl, hok, rfl⟩, h⟩ | ⟨e, ⟨-, herror, -⟩, -⟩)
      · cases hok
        exact h
      · cases herror
  | sync g k ih => exact ih c
  | call q k ih =>
    constructor
    · rintro (⟨x, c₁, tr', hx, hothers, rfl, h⟩ | ⟨e, he, hothers, rfl, rfl⟩)
      · rcases (ih x).mp h with ⟨tr₁, tr₂, a, c₂, rfl, h₁, h₂⟩ | ⟨e, h₁, rfl⟩
        · exact .inl ⟨⟨q, .ok x⟩ :: tr₁, tr₂, a, c₂, rfl, .inl ⟨x, c₁, tr₁, hx, hothers, rfl, h₁⟩, h₂⟩
        · exact .inr ⟨e, .inl ⟨x, c₁, tr', hx, hothers, rfl, h₁⟩, rfl⟩
      · exact .inr ⟨e, .inr ⟨e, he, hothers, rfl, rfl⟩, rfl⟩
    · rintro (⟨_, tr₂, a, c₁, rfl, ⟨x, c₂, tr₁, hx, hothers, rfl, h₁⟩ | ⟨e, -, -, -, herror⟩, h₂⟩ |
        ⟨e, ⟨x, c₂, tr₁, hx, hothers, rfl, h₁⟩ | ⟨e', he, hothers, rfl, heq⟩, rfl⟩)
      · exact .inl ⟨x, c₂, tr₁ ++ tr₂, hx, hothers, rfl, (ih x).mpr (.inl ⟨tr₁, tr₂, a, c₁, rfl, h₁, h₂⟩)⟩
      · cases herror
      · exact .inl ⟨x, c₂, tr₁, hx, hothers, rfl, (ih x).mpr (.inr ⟨e, h₁, rfl⟩)⟩
      · cases heq
        exact .inr ⟨e, he, hothers, rfl, rfl⟩

/-- Every call of the trace came to what it may come to. -/
lemma comesTo_outcomes {p : Prog C Q A α} {b : Except E α} (h : p.ComesTo others outcome c tr b c') :
    ∀ e ∈ tr, outcome e.1 e.2 := by
  induction p generalizing c tr with
  | ret a =>
    obtain ⟨rfl, -, -⟩ := h
    exact nofun
  | sync f k ih => exact ih c h
  | call q k ih =>
    rcases h with ⟨x, c₁, tr', hx, -, rfl, h⟩ | ⟨e, he, -, rfl, -⟩
    · exact List.forall_mem_cons.mpr ⟨hx, ih x h⟩
    · exact List.forall_mem_cons.mpr ⟨he, nofun⟩

/-- What may happen may happen where more may. -/
lemma comesTo_mono {outcome' : ∀ q, Except E (A q) → Prop} {p : Prog C Q A α} {b : Except E α}
    (h : p.ComesTo others outcome c tr b c') (houtcome : ∀ e ∈ tr, outcome' e.1 e.2) :
    p.ComesTo others outcome' c tr b c' := by
  induction p generalizing c tr with
  | ret a => exact h
  | sync f k ih => exact ih c h houtcome
  | call q k ih =>
    rcases h with ⟨x, c₁, tr', -, hothers, rfl, h⟩ | ⟨e, -, hothers, rfl, rfl⟩
    · obtain ⟨hx, hrest⟩ := List.forall_mem_cons.mp houtcome
      exact .inl ⟨x, c₁, tr', hx, hothers, rfl, ih x h hrest⟩
    · exact .inr ⟨e, houtcome _ List.mem_cons_self, hothers, rfl, rfl⟩

/-- A part within a bound makes the allowed calls, keeps what its own changes and the others keep, and ends by an
exception only where an allowed call may raise. -/
theorem comesTo_of_within {keeps : C → C → Prop} {allowed : Q → Prop} {post : α → Prop}
    (hrefl : ∀ c, keeps c c) (htrans : ∀ c₁ c₂ c₃, keeps c₁ c₂ → keeps c₂ c₃ → keeps c₁ c₃)
    (hothers : ∀ q c c', others q c c' → keeps c c')
    {p : Prog C Q A α} (hp : p.Within keeps allowed post) {b : Except E α}
    (h : p.ComesTo others outcome c tr b c') :
    keeps c c' ∧ (∀ e ∈ tr, allowed e.1) ∧ ∀ a, b = .ok a → post a := by
  induction p generalizing c tr with
  | ret a =>
    obtain ⟨rfl, rfl, rfl⟩ := h
    refine ⟨hrefl c', nofun, fun a ha => ?_⟩
    cases ha
    exact hp
  | sync f k ih =>
    obtain ⟨hk, hrest⟩ := ih c (hp c).2 h
    exact ⟨htrans c (f c) c' (hp c).1 hk, hrest⟩
  | call q k ih =>
    rcases h with ⟨x, c₁, tr', -, hc, rfl, h⟩ | ⟨e, -, hc, rfl, rfl⟩
    · obtain ⟨hk, hcalls, hpost⟩ := ih x (hp.2 x) h
      exact ⟨htrans c c₁ c' (hothers q c c₁ hc) hk, List.forall_mem_cons.mpr ⟨hp.1, hcalls⟩, hpost⟩
    · exact ⟨hothers q c c' hc, List.forall_mem_cons.mpr ⟨hp.1, nofun⟩, nofun⟩

/-- A part whose calls do not raise comes to its end. -/
theorem comesTo_ok_of_within {keeps : C → C → Prop} {allowed : Q → Prop} {post : α → Prop}
    (hquiet : ∀ q, allowed q → ∀ e, ¬ outcome q (.error e)) {p : Prog C Q A α}
    (hp : p.Within keeps allowed post) {b : Except E α} (h : p.ComesTo others outcome c tr b c') :
    ∃ a, b = .ok a ∧ post a := by
  induction p generalizing c tr with
  | ret a => exact ⟨a, h.2.1, hp⟩
  | sync f k ih => exact ih c (hp c).2 h
  | call q k ih =>
    rcases h with ⟨x, c₁, tr', -, -, -, h⟩ | ⟨e, he, -⟩
    · exact ih x (hp.2 x) h
    · exact absurd he (hquiet q hp.1 e)

/-- Nobody else does anything. -/
def undisturbed (_ : Q) (c c' : C) : Prop := c' = c

lemma undisturbed_refl (q : Q) (c : C) : undisturbed q c c := rfl

/-- A part whose calls the others leave alone runs undisturbed. -/
theorem comesTo_undisturbed_of_within {keeps : C → C → Prop} {allowed : Q → Prop} {post : α → Prop}
    (hothers : ∀ q, allowed q → ∀ c c', others q c c' → c' = c) {p : Prog C Q A α}
    (hp : p.Within keeps allowed post) {b : Except E α} (h : p.ComesTo others outcome c tr b c') :
    p.ComesTo undisturbed outcome c tr b c' := by
  induction p generalizing c tr with
  | ret a => exact h
  | sync f k ih => exact ih c (hp c).2 h
  | call q k ih =>
    rcases h with ⟨x, c₁, tr', hx, hc, rfl, h⟩ | ⟨e, he, hc, rfl, rfl⟩
    · exact .inl ⟨x, c₁, tr', hx, hothers q hp.1 _ _ hc, rfl, ih x (hp.2 x) h⟩
    · exact .inr ⟨e, he, hothers q hp.1 _ _ hc, rfl, rfl⟩

/-- A program which is not disturbed, and returns, is executed. -/
theorem exec_of_comesTo {p : Prog C Q A α} {a : α} (h : p.ComesTo undisturbed outcome c tr (.ok a) c') :
    ∃ tr', p.Exec (fun q a => outcome q (.ok a)) c tr' a c' ∧ tr = tr'.map fun e => ⟨e.1, .ok e.2⟩ := by
  induction p generalizing c tr with
  | ret b =>
    obtain ⟨rfl, hb, rfl⟩ := h
    cases hb
    exact ⟨[], ⟨rfl, rfl, rfl⟩, rfl⟩
  | sync f k ih => exact ih c h
  | call q k ih =>
    rcases h with ⟨x, c₁, tr', hx, hc, rfl, h⟩ | ⟨e, -, -, -, herror⟩
    · obtain rfl : c₁ = c := hc
      obtain ⟨tr₁, h₁, rfl⟩ := ih x h
      exact ⟨⟨q, x⟩ :: tr₁, ⟨x, tr₁, hx, rfl, h₁⟩, rfl⟩
    · cases herror

/-! A loop, which ends with the first of its turns that does. -/

section Loop

variable {γ δ : Type} {body : δ → γ → Prog C Q A δ}

/-- Turn by turn: those which came to their end, and the one a call of which raised. -/
inductive Tour (others : Q → C → C → Prop) (outcome : ∀ q, Except E (A q) → Prop) (body : δ → γ → Prog C Q A δ) :
    List γ → δ → C → List (Tried E A) → Except E δ → C → Prop
  | nil (d : δ) (c : C) : Tour others outcome body [] d c [] (.ok d) c
  | cons {x : γ} {l : List γ} {d d₁ : δ} {c c₁ c' : C} {tr tr' : List (Tried E A)} {b : Except E δ}
      (h : (body d x).ComesTo others outcome c tr (.ok d₁) c₁) (hrest : Tour others outcome body l d₁ c₁ tr' b c') :
      Tour others outcome body (x :: l) d c (tr ++ tr') b c'
  | broken {x : γ} {l : List γ} {d : δ} {c c' : C} {tr : List (Tried E A)} {e : E}
      (h : (body d x).ComesTo others outcome c tr (.error e) c') :
      Tour others outcome body (x :: l) d c tr (.error e) c'

theorem comesTo_foldlM {l : List γ} {d : δ} {b : Except E δ}
    (h : (l.foldlM body d).ComesTo others outcome c tr b c') : Tour others outcome body l d c tr b c' := by
  induction l generalizing c d tr with
  | nil =>
    obtain ⟨rfl, rfl, rfl⟩ := h
    exact .nil d c'
  | cons x l ih =>
    rw [List.foldlM_cons, comesTo_bind] at h
    rcases h with ⟨tr₁, tr₂, d₁, c₁, rfl, h₁, h₂⟩ | ⟨e, h₁, rfl⟩
    · exact .cons h₁ (ih h₂)
    · exact .broken h₁

theorem comesTo_forM {body : γ → Prog C Q A Unit} {l : List γ} {b : Except E Unit}
    (h : (l.forM body).ComesTo others outcome c tr b c') :
    Tour others outcome (fun _ => body) l () c tr b c' := by
  induction l generalizing c tr with
  | nil =>
    obtain ⟨rfl, rfl, rfl⟩ := h
    exact .nil () c'
  | cons x l ih =>
    change (body x >>= fun _ => l.forM body).ComesTo others outcome c tr b c' at h
    rw [comesTo_bind] at h
    rcases h with ⟨tr₁, tr₂, _, c₁, rfl, h₁, h₂⟩ | ⟨e, h₁, rfl⟩
    · exact .cons h₁ (ih h₂)
    · exact .broken h₁

end Loop

/-! Notes change nothing. -/

/-- The answer to the first call is noted. -/
def noteFirst (f : ∀ q, A q → L → L) : Prog C Q A α → Prog (C × L) Q A α
  | ret a => ret a
  | sync g k => sync (fun x => (g x.1, x.2)) fun x => noteFirst f (k x.1)
  | call q k => call q fun a => sync (fun x => (x.1, f q a x.2)) fun _ => noteless (k a)

/-- Writes down what it sees. -/
def noteSeen (f : C → L → L) : Prog (C × L) Q A Unit := modify fun x => (x.1, f x.1 x.2)

/-- The others leave the notes alone. -/
def besideNotesAt (others : Q → C → C → Prop) (q : Q) (x y : C × L) : Prop := besideNotes (others q) x y

lemma comesTo_note_bind {others : Q → C × L → C × L → Prop} {f : L → L} {k : Unit → Prog (C × L) Q A α} {l : L}
    {x : C × L} {b : Except E α} : (note f >>= k).ComesTo others outcome (c, l) tr b x ↔
      (k ()).ComesTo others outcome (c, f l) tr b x := Iff.rfl

lemma comesTo_noteSeen_bind {others : Q → C × L → C × L → Prop} {f : C → L → L} {k : Unit → Prog (C × L) Q A α}
    {l : L} {x : C × L} {b : Except E α} : (noteSeen f >>= k).ComesTo others outcome (c, l) tr b x ↔
      (k ()).ComesTo others outcome (c, f c l) tr b x := Iff.rfl

lemma comesTo_noteless {p : Prog C Q A α} {l l' : L} {b : Except E α} :
    (noteless p).ComesTo (besideNotesAt others) outcome (c, l) tr b (c', l') ↔
      p.ComesTo others outcome c tr b c' ∧ l' = l := by
  induction p generalizing c tr with
  | ret a =>
    change tr = [] ∧ b = .ok a ∧ (c', l') = (c, l) ↔ (tr = [] ∧ b = .ok a ∧ c' = c) ∧ l' = l
    rw [Prod.mk.injEq]
    tauto
  | sync f k ih => exact ih c
  | call q k ih =>
    constructor
    · rintro (⟨x, ⟨c₁, l₁⟩, tr', hx, ⟨hc, rfl⟩, rfl, h⟩ | ⟨e, he, ⟨hc, rfl⟩, rfl, rfl⟩)
      · obtain ⟨hk, rfl⟩ := (ih x).mp h
        exact ⟨.inl ⟨x, c₁, tr', hx, hc, rfl, hk⟩, rfl⟩
      · exact ⟨.inr ⟨e, he, hc, rfl, rfl⟩, rfl⟩
    · rintro ⟨⟨x, c₁, tr', hx, hc, rfl, h⟩ | ⟨e, he, hc, rfl, rfl⟩, rfl⟩
      · exact .inl ⟨x, (c₁, l'), tr', hx, ⟨hc, rfl⟩, rfl, (ih x).mpr ⟨h, rfl⟩⟩
      · exact .inr ⟨e, he, ⟨hc, rfl⟩, rfl, rfl⟩

/-- What is noted of a program which begins with a call. -/
lemma comesTo_noteFirst_ask_bind {q : Q} {f : ∀ q, A q → L → L} {k : A q → Prog C Q A α} {l l' : L} {b : Except E α}
    (h : (noteFirst f (ask q >>= k)).ComesTo (besideNotesAt others) outcome (c, l) tr b (c', l')) :
    (ask q >>= k).ComesTo others outcome c tr b c' ∧
      ((∃ a tr', tr = ⟨q, .ok a⟩ :: tr' ∧ l' = f q a l) ∨ ∃ e, outcome q (.error e) ∧ l' = l) := by
  rcases h with ⟨a, ⟨c₁, l₁⟩, tr', ha, ⟨hc, rfl⟩, rfl, h⟩ | ⟨e, he, ⟨hc, rfl⟩, rfl, rfl⟩
  · obtain ⟨hk, rfl⟩ := comesTo_noteless.mp h
    exact ⟨.inl ⟨a, c₁, tr', ha, hc, rfl, hk⟩, .inl ⟨a, tr', rfl, rfl⟩⟩
  · exact ⟨.inr ⟨e, he, hc, rfl, rfl⟩, .inr ⟨e, he, rfl⟩⟩

namespace Shadows

lemma noteFirst (f : ∀ q, A q → L → L) (p : Prog C Q A α) : Shadows (Prog.noteFirst f p) p := by
  induction p with
  | ret a => exact .ret a
  | sync g k ih => exact .sync (fun _ => rfl) fun x => ih x.1
  | call q k ih => exact .call fun a => .note (fun _ => rfl) fun _ => .noteless (k a)

lemma get_bind {f' : C × L → Prog (C × L) Q A α} {f : C → Prog C Q A α} (h : ∀ x, Shadows (f' x) (f x.1)) :
    Shadows (Prog.get >>= f') (Prog.get >>= f) :=
  .sync (fun _ => rfl) h

lemma ask_bind {q : Q} {f' : A q → Prog (C × L) Q A α} {f : A q → Prog C Q A α} (h : ∀ a, Shadows (f' a) (f a)) :
    Shadows (Prog.ask q >>= f') (Prog.ask q >>= f) :=
  .call h

lemma noteSeen_bind (f : C → L → L) {p' : Prog (C × L) Q A α} {p : Prog C Q A α} (h : Shadows p' p) :
    Shadows (Prog.noteSeen f >>= fun _ => p') p :=
  .note (fun _ => rfl) fun _ => h

lemma forM {γ : Type} {body' : γ → Prog (C × L) Q A Unit} {body : γ → Prog C Q A Unit}
    (h : ∀ x, Shadows (body' x) (body x)) (l : List γ) : Shadows (l.forM body') (l.forM body) := by
  induction l with
  | nil => exact .ret ()
  | cons x l ih => exact (h x).bind fun _ => ih

/-- Each execution of the program can be noted. -/
theorem comesTo {p' : Prog (C × L) Q A α} {p : Prog C Q A α} {b : Except E α} (h : Shadows p' p)
    (hcomes : p.ComesTo others outcome c tr b c') (l : L) :
    ∃ l', p'.ComesTo (besideNotesAt others) outcome (c, l) tr b (c', l') := by
  induction h generalizing c tr l with
  | ret a =>
    obtain ⟨rfl, rfl, rfl⟩ := hcomes
    exact ⟨l, rfl, rfl, rfl⟩
  | @sync f' k' f k hf hk ih =>
    have hstate : f' (c, l) = (f c, (f' (c, l)).2) := Prod.ext (hf (c, l)) rfl
    obtain ⟨l', hcomes'⟩ := ih (c, l) hcomes (f' (c, l)).2
    rw [← hstate] at hcomes'
    exact ⟨l', hcomes'⟩
  | @note f' k' p hf hk ih =>
    have hstate : f' (c, l) = (c, (f' (c, l)).2) := Prod.ext (hf (c, l)) rfl
    obtain ⟨l', hcomes'⟩ := ih (c, l) hcomes (f' (c, l)).2
    rw [← hstate] at hcomes'
    exact ⟨l', hcomes'⟩
  | call hk ih =>
    rcases hcomes with ⟨x, c₁, tr₁, hx, hc, rfl, hcomes⟩ | ⟨e, he, hc, rfl, rfl⟩
    · obtain ⟨l', hcomes'⟩ := ih x hcomes l
      exact ⟨l', .inl ⟨x, (c₁, l), tr₁, hx, ⟨hc, rfl⟩, rfl, hcomes'⟩⟩
    · exact ⟨l, .inr ⟨e, he, ⟨hc, rfl⟩, rfl, rfl⟩⟩

end Shadows

/-- The execution in which the oracle says what every call comes to, and the others do nothing. -/
def resultWith (oracle : ∀ q, Except E (A q)) : Prog C Q A α → C → List (Tried E A) × Except E α × C
  | ret a, c => ([], .ok a, c)
  | sync f k, c => resultWith oracle (k c) (f c)
  | call q k, c =>
    match oracle q with
    | .ok a => (⟨q, .ok a⟩ :: (resultWith oracle (k a) c).1, (resultWith oracle (k a) c).2)
    | .error e => ([⟨q, .error e⟩], .error e, c)

lemma comesTo_resultWith {oracle : ∀ q, Except E (A q)} (horacle : ∀ q, outcome q (oracle q))
    (hothers : ∀ q c, others q c c) (p : Prog C Q A α) (c : C) :
    p.ComesTo others outcome c (p.resultWith oracle c).1 (p.resultWith oracle c).2.1 (p.resultWith oracle c).2.2 := by
  induction p generalizing c with
  | ret a => exact ⟨rfl, rfl, rfl⟩
  | sync f k ih => exact ih c (f c)
  | call q k ih =>
    have hq := horacle q
    rw [resultWith]
    cases h : oracle q with
    | ok a =>
      rw [h] at hq
      exact .inl ⟨a, c, _, hq, hothers q c, rfl, ih a c⟩
    | error e =>
      rw [h] at hq
      exact .inr ⟨e, hq, hothers q c, rfl, rfl⟩

end Prog

end GpuReservation.Library
