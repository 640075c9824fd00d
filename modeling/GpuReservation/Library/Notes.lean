import GpuReservation.Library.Runs

/-!
# Programs which take notes

A program which writes down, beside its state, what it does.  The notes change neither the state nor the calls, so
that what is proved of them is proved of the program which takes none.
-/

namespace GpuReservation.Library

variable {C L Q : Type} {A : Q → Type} {α β : Type}

/-- The call the event is the answer of. -/
def Event.call? : Event C A → Option (Sigma A)
  | .own _ _ => none
  | .answered e => some e

def callsOf (tr : List (Event C A)) : List (Sigma A) := tr.filterMap Event.call?

@[simp] lemma callsOf_own (c c' : C) (tr : List (Event C A)) : callsOf (.own c c' :: tr) = callsOf tr := rfl

@[simp] lemma callsOf_answered (e : Sigma A) (tr : List (Event C A)) :
    callsOf (.answered e :: tr) = e :: callsOf tr := rfl

@[simp] lemma callsOf_append (tr tr' : List (Event C A)) : callsOf (tr ++ tr') = callsOf tr ++ callsOf tr' :=
  List.filterMap_append

/-- The others change the state, and leave the notes alone. -/
def besideNotes (others : C → C → Prop) (x y : C × L) : Prop := others x.1 y.1 ∧ y.2 = x.2

namespace Prog

/-- The program, which takes no notes. -/
def noteless : Prog C Q A α → Prog (C × L) Q A α
  | ret a => ret a
  | sync f k => sync (fun x => (f x.1, x.2)) fun x => noteless (k x.1)
  | call q k => call q fun a => noteless (k a)

/-- Writes down. -/
def note (f : L → L) : Prog (C × L) Q A Unit := modify fun x => (x.1, f x.2)

lemma noteless_within {keeps : C → C → Prop} {allowed : Q → Prop} {post : α → Prop} {p : Prog C Q A α}
    (h : p.Within keeps allowed post) :
    (noteless (L := L) p).Within (fun x y => keeps x.1 y.1 ∧ y.2 = x.2) allowed post := by
  induction p with
  | ret a => exact h
  | sync f k ih => exact fun x => ⟨⟨(h x.1).1, rfl⟩, ih x.1 (h x.1).2⟩
  | call q k ih => exact ⟨h.1, fun a => ih a (h.2 a)⟩

/-- The one program is the other, with notes taken. -/
inductive Shadows : Prog (C × L) Q A α → Prog C Q A α → Prop
  | ret (a : α) : Shadows (.ret a) (.ret a)
  | sync {f' : C × L → C × L} {k' : C × L → Prog (C × L) Q A α} {f : C → C} {k : C → Prog C Q A α}
      (hf : ∀ x, (f' x).1 = f x.1) (hk : ∀ x, Shadows (k' x) (k x.1)) : Shadows (.sync f' k') (.sync f k)
  | note {f' : C × L → C × L} {k' : C × L → Prog (C × L) Q A α} {p : Prog C Q A α}
      (hf : ∀ x, (f' x).1 = x.1) (hk : ∀ x, Shadows (k' x) p) : Shadows (.sync f' k') p
  | call {q : Q} {k' : A q → Prog (C × L) Q A α} {k : A q → Prog C Q A α}
      (hk : ∀ a, Shadows (k' a) (k a)) : Shadows (.call q k') (.call q k)

namespace Shadows

variable {others : C → C → Prop} {ans : ∀ q, A q → Prop}

lemma bind {p' : Prog (C × L) Q A α} {p : Prog C Q A α} {f' : α → Prog (C × L) Q A β} {f : α → Prog C Q A β}
    (h : Shadows p' p) (hf : ∀ a, Shadows (f' a) (f a)) : Shadows (p' >>= f') (p >>= f) := by
  change Shadows (p'.bind f') (p.bind f)
  induction h with
  | ret a => exact hf a
  | sync hg hk ih => exact .sync hg ih
  | note hg hk ih => exact .note hg ih
  | call hk ih => exact .call ih

lemma noteless (p : Prog C Q A α) : Shadows (Prog.noteless (L := L) p) p := by
  induction p with
  | ret a => exact .ret a
  | sync f k ih => exact .sync (fun _ => rfl) fun x => ih x.1
  | call q k ih => exact .call ih

lemma note_bind (f : L → L) {p' : Prog (C × L) Q A α} {p : Prog C Q A α} (h : Shadows p' p) :
    Shadows (Prog.note f >>= fun _ => p') p :=
  .note (fun _ => rfl) fun _ => h

lemma foldlM {γ δ : Type} {body' : δ → γ → Prog (C × L) Q A δ} {body : δ → γ → Prog C Q A δ}
    (h : ∀ d x, Shadows (body' d x) (body d x)) (l : List γ) (d : δ) :
    Shadows (l.foldlM body' d) (l.foldlM body d) := by
  induction l generalizing d with
  | nil => exact .ret d
  | cons x l ih =>
    rw [List.foldlM_cons, List.foldlM_cons]
    exact (h d x).bind ih

/-- Each run of the program can be noted. -/
theorem ran {p' : Prog (C × L) Q A α} {p : Prog C Q A α} {c c' : C} {tr : List (Event C A)}
    (h : Shadows p' p) (hran : p.Ran others ans c tr c') (l : L) : ∃ tr' l',
      p'.Ran (besideNotes others) ans (c, l) tr' (c', l') ∧ callsOf tr' = callsOf tr := by
  induction h generalizing c tr l with
  | ret a =>
    obtain ⟨rfl, rfl⟩ := hran
    exact ⟨[], l, ⟨rfl, rfl⟩, rfl⟩
  | @sync f' k' f k hf hk ih =>
    rcases hran with ⟨rfl, rfl⟩ | ⟨tr₁, rfl, hran⟩
    · exact ⟨[], l, .inl ⟨rfl, rfl⟩, rfl⟩
    · have hstate : f' (c, l) = (f c, (f' (c, l)).2) := Prod.ext (hf (c, l)) rfl
      obtain ⟨tr', l', hran', hcalls⟩ := ih (c, l) hran (f' (c, l)).2
      rw [← hstate] at hran'
      exact ⟨_, l', .inr ⟨tr', rfl, hran'⟩, hcalls⟩
  | @note f' k' p hf hk ih =>
    have hstate : f' (c, l) = (c, (f' (c, l)).2) := Prod.ext (hf (c, l)) rfl
    obtain ⟨tr', l', hran', hcalls⟩ := ih (c, l) hran (f' (c, l)).2
    rw [← hstate] at hran'
    exact ⟨_, l', .inr ⟨tr', rfl, hran'⟩, hcalls⟩
  | call hk ih =>
    rcases hran with ⟨rfl, hc⟩ | ⟨x, c₁, tr₁, hx, hc, rfl, hran⟩
    · exact ⟨[], l, .inl ⟨rfl, hc, rfl⟩, rfl⟩
    · obtain ⟨tr', l', hran', hcalls⟩ := ih x hran l
      exact ⟨_, l', .inr ⟨x, (c₁, l), tr', hx, ⟨hc, rfl⟩, rfl, hran'⟩, by simp [hcalls]⟩

end Shadows

end Prog

end GpuReservation.Library
