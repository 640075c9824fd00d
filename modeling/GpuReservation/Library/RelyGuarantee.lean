import GpuReservation.Library.Async

/-!
# Rely and guarantee

A contract says what a task relies on the others not to disturb while it is suspended, what it
guarantees of each of its own steps, what must hold when it issues a call, when the call is served
and when it ends, and what it assumes of the answers.  Tasks which meet contracts compatible with
one another keep the invariant together.
-/

namespace GpuReservation.Library

structure Contract (C W Q Ch : Type) where
  rely : Snap C W → Snap C W → Prop
  guar : Snap C W → Snap C W → Prop
  issued : Q → Snap C W → Prop
  served : Q → Snap C W → Prop
  assumed : Q → Ch → Snap C W → Prop
  ended : Snap C W → Prop
  rely_refl : ∀ σ, rely σ σ
  rely_trans : ∀ {σ₁ σ₂ σ₃}, rely σ₁ σ₂ → rely σ₂ σ₃ → rely σ₁ σ₃
  guar_refl : ∀ σ, guar σ σ
  guar_trans : ∀ {σ₁ σ₂ σ₃}, guar σ₁ σ₂ → guar σ₂ σ₃ → guar σ₁ σ₃

variable {C W Q L Ch E : Type} {A : Q → Type} {α β : Type}

/-- The contract of a task of which nothing is asked, and which promises nothing. -/
def Contract.free : Contract C W Q Ch where
  rely _ _ := True
  guar _ _ := True
  issued _ _ := True
  served _ _ := True
  assumed _ _ _ := True
  ended _ := True
  rely_refl _ := trivial
  rely_trans _ _ := trivial
  guar_refl _ := trivial
  guar_trans _ _ := trivial

section Wp

variable (rt : Runtime Q A W Ch) (I : Snap C W → Prop) (ct : Contract C W Q Ch) (i : Nat)

/-- What a suspended task needs from `σ` on: its call may be served at any state it can rely on,
and the task may go on at any state it can rely on after that. -/
def awaits (q : Q) (cont : A q → Snap C W → Prop) (σ : Snap C W) : Prop :=
  ∀ σ₁, ct.rely σ σ₁ → I σ₁ → ct.served q σ₁ ∧
    ∀ c a w, ct.assumed q c σ₁ → rt.answer i q c σ₁.world = some (a, w) →
      ct.guar σ₁ { σ₁ with world := w } ∧ I { σ₁ with world := w } ∧
        ∀ σ₂, ct.rely { σ₁ with world := w } σ₂ → I σ₂ → cont a σ₂

/-- The weakest precondition of a program in the middle of a step which began at `σ₀`. -/
def wp : Prog C Q A α → (α → Snap C W → Snap C W → Prop) → Snap C W → Snap C W → Prop
  | .ret a, post, σ₀, σ => post a σ₀ σ
  | .sync f k, post, σ₀, σ => wp (k σ.shared) post σ₀ { σ with shared := f σ.shared }
  | .call q k, post, σ₀, σ =>
    if rt.yields q then
      ct.guar σ₀ σ ∧ I σ ∧ ct.issued q σ ∧
        awaits rt I ct i q (fun a σ₁ => wp (k a) post σ₁ σ₁) σ
    else ∀ c, ∃ a w, rt.answer i q c σ.world = some (a, w) ∧
      wp (k a) post σ₀ { σ with world := w }

/-- What a task leaves behind when it ends. -/
def finishes (_ : Unit) (σ₀ σ : Snap C W) : Prop := ct.guar σ₀ σ ∧ I σ ∧ ct.ended σ

/-- From a state with `P` on, each of its parts keeping the guarantee and the invariant, the
program ends with `R`. -/
def Triple (P : Snap C W → Prop) (p : Prog C Q A α) (R : α → Snap C W → Prop) : Prop :=
  ∀ σ₀ σ, ct.guar σ₀ σ → I σ → P σ →
    wp rt I ct i p (fun a σ₀ σ => ct.guar σ₀ σ ∧ I σ ∧ R a σ) σ₀ σ

/-- The others do not disturb `P`. -/
def Stable (P : Snap C W → Prop) : Prop := ∀ σ σ', ct.rely σ σ' → P σ → P σ'

variable {rt I ct i}

lemma awaits_mono {q : Q} {cont cont' : A q → Snap C W → Prop} {σ : Snap C W}
    (h : ∀ a σ₁, I σ₁ → cont a σ₁ → cont' a σ₁) (ha : awaits rt I ct i q cont σ) :
    awaits rt I ct i q cont' σ := by
  intro σ₁ hr hI
  obtain ⟨hs, hans⟩ := ha σ₁ hr hI
  refine ⟨hs, fun c a w has hw => ?_⟩
  obtain ⟨hg, hI', hc⟩ := hans c a w has hw
  exact ⟨hg, hI', fun σ₂ hr₂ hI₂ => h a σ₂ hI₂ (hc σ₂ hr₂ hI₂)⟩

lemma awaits_rely {q : Q} {cont : A q → Snap C W → Prop} {σ σ' : Snap C W}
    (hr : ct.rely σ σ') (ha : awaits rt I ct i q cont σ) : awaits rt I ct i q cont σ' :=
  fun σ₁ hr₁ hI => ha σ₁ (ct.rely_trans hr hr₁) hI

lemma wp_mono {p : Prog C Q A α} {post post' : α → Snap C W → Snap C W → Prop} {σ₀ σ : Snap C W}
    (h : ∀ a σ₀ σ, post a σ₀ σ → post' a σ₀ σ) (hp : wp rt I ct i p post σ₀ σ) :
    wp rt I ct i p post' σ₀ σ := by
  induction p generalizing σ₀ σ with
  | ret a => exact h a σ₀ σ hp
  | sync f k ih => exact ih _ hp
  | call q k ih =>
    rw [wp] at hp ⊢
    split at hp
    · rename_i hy
      obtain ⟨hg, hI, hi, ha⟩ := hp
      rw [if_pos hy]
      exact ⟨hg, hI, hi, awaits_mono (fun a σ₁ _ => ih a) ha⟩
    · rename_i hy
      rw [if_neg hy]
      intro c
      obtain ⟨a, w, hans, hk⟩ := hp c
      exact ⟨a, w, hans, ih a hk⟩

/-- A sequence is verified by verifying its first part against what the second part needs. -/
theorem wp_bind (p : Prog C Q A α) (f : α → Prog C Q A β) (post : β → Snap C W → Snap C W → Prop)
    (σ₀ σ : Snap C W) :
    wp rt I ct i (p >>= f) post σ₀ σ ↔
      wp rt I ct i p (fun a σ₀ σ => wp rt I ct i (f a) post σ₀ σ) σ₀ σ := by
  change wp rt I ct i (p.bind f) post σ₀ σ ↔ _
  induction p generalizing σ₀ σ with
  | ret a => rfl
  | sync g k ih => exact ih _ _ _
  | call q k ih =>
    rw [Prog.bind, wp, wp]
    split
    · refine and_congr_right fun _ => and_congr_right fun _ => and_congr_right fun _ => ?_
      exact ⟨awaits_mono fun a σ₁ _ h => (ih a σ₁ σ₁).mp h,
        awaits_mono fun a σ₁ _ h => (ih a σ₁ σ₁).mpr h⟩
    · exact forall_congr' fun c => exists_congr fun a => exists_congr fun w =>
        and_congr_right fun _ => ih a _ _

@[simp] lemma wp_pure (a : α) (post : α → Snap C W → Snap C W → Prop) (σ₀ σ : Snap C W) :
    wp rt I ct i (pure a : Prog C Q A α) post σ₀ σ ↔ post a σ₀ σ := Iff.rfl

@[simp] lemma wp_get (post : C → Snap C W → Snap C W → Prop) (σ₀ σ : Snap C W) :
    wp rt I ct i (Prog.get : Prog C Q A C) post σ₀ σ ↔ post σ.shared σ₀ σ := Iff.rfl

@[simp] lemma wp_modify (f : C → C) (post : Unit → Snap C W → Snap C W → Prop) (σ₀ σ : Snap C W) :
    wp rt I ct i (Prog.modify f : Prog C Q A Unit) post σ₀ σ ↔
      post () σ₀ { σ with shared := f σ.shared } := Iff.rfl

lemma wp_ask {q : Q} (hy : rt.yields q = true) (post : A q → Snap C W → Snap C W → Prop)
    (σ₀ σ : Snap C W) :
    wp rt I ct i (Prog.ask q : Prog C Q A (A q)) post σ₀ σ ↔
      ct.guar σ₀ σ ∧ I σ ∧ ct.issued q σ ∧ awaits rt I ct i q (fun a σ₁ => post a σ₁ σ₁) σ := by
  rw [Prog.ask, wp, if_pos hy]
  rfl

lemma wp_ask_sync {q : Q} (hy : rt.yields q = false) (post : A q → Snap C W → Snap C W → Prop)
    (σ₀ σ : Snap C W) :
    wp rt I ct i (Prog.ask q : Prog C Q A (A q)) post σ₀ σ ↔
      ∀ c, ∃ a w, rt.answer i q c σ.world = some (a, w) ∧ post a σ₀ { σ with world := w } := by
  rw [Prog.ask, wp, hy]
  rfl

namespace Triple

variable {P P' : Snap C W → Prop}

lemma mono {p : Prog C Q A α} {R R' : α → Snap C W → Prop} (h : Triple rt I ct i P p R)
    (hP : ∀ σ, I σ → P' σ → P σ) (hR : ∀ a σ, R a σ → R' a σ) : Triple rt I ct i P' p R' := by
  intro σ₀ σ hg hI hP'
  exact wp_mono (fun a σ₀ σ hend => ⟨hend.1, hend.2.1, hR a σ hend.2.2⟩) (h σ₀ σ hg hI (hP σ hI hP'))

lemma pre {p : Prog C Q A α} {R : α → Snap C W → Prop} (h : Triple rt I ct i P p R)
    (hP : ∀ σ, I σ → P' σ → P σ) : Triple rt I ct i P' p R := h.mono hP fun _ _ hR => hR

/-- What holds of the program alone may be assumed of it. -/
lemma assume {φ : Prop} {p : Prog C Q A α} {R : α → Snap C W → Prop}
    (h : φ → Triple rt I ct i P p R) : Triple rt I ct i (fun σ => φ ∧ P σ) p R :=
  fun σ₀ σ hg hI hP => h hP.1 σ₀ σ hg hI hP.2

lemma pure {a : α} {R : α → Snap C W → Prop} (h : ∀ σ, I σ → P σ → R a σ) :
    Triple rt I ct i P (Pure.pure a) R :=
  fun _ σ hg hI hP => ⟨hg, hI, h σ hI hP⟩

lemma bind {p : Prog C Q A α} {f : α → Prog C Q A β} {R : α → Snap C W → Prop}
    {R' : β → Snap C W → Prop} (hp : Triple rt I ct i P p R)
    (hf : ∀ a, Triple rt I ct i (R a) (f a) R') : Triple rt I ct i P (p >>= f) R' := by
  intro σ₀ σ hg hI hP
  rw [wp_bind]
  exact wp_mono (fun a σ₀ σ hend => hf a σ₀ σ hend.1 hend.2.1 hend.2.2) (hp σ₀ σ hg hI hP)

/-- Reading the shared state: from here to the next call it is the one that was read. -/
lemma get_bind {f : C → Prog C Q A α} {R : α → Snap C W → Prop}
    (hf : ∀ c, Triple rt I ct i (fun σ => σ.shared = c ∧ P σ) (f c) R) :
    Triple rt I ct i P (Prog.get >>= f) R :=
  bind (R := fun c σ => σ.shared = c ∧ P σ) (fun _ _ hg hI hP => ⟨hg, hI, rfl, hP⟩) hf

lemma modify {f : C → C} {R : Unit → Snap C W → Prop}
    (h : ∀ σ, I σ → P σ → ct.guar σ { σ with shared := f σ.shared } ∧
      I { σ with shared := f σ.shared } ∧ R () { σ with shared := f σ.shared }) :
    Triple rt I ct i P (Prog.modify f) R := by
  intro σ₀ σ hg hI hP
  obtain ⟨hg', hI', hR⟩ := h σ hI hP
  exact ⟨ct.guar_trans hg hg', hI', hR⟩

lemma modify_bind {f : C → C} {p : Unit → Prog C Q A α} {M : Snap C W → Prop}
    {R : α → Snap C W → Prop}
    (h : ∀ σ, I σ → P σ → ct.guar σ { σ with shared := f σ.shared } ∧
      I { σ with shared := f σ.shared } ∧ M { σ with shared := f σ.shared })
    (hp : Triple rt I ct i M (p ()) R) : Triple rt I ct i P (Prog.modify f >>= p) R :=
  bind (R := fun _ => M) (modify h) fun _ => hp

/-- A call which suspends the task: what it leaves must be undisturbed by the others, before it
is served and after. -/
lemma ask {q : Q} {R : A q → Snap C W → Prop} (hy : rt.yields q = true) (hP : Stable ct P)
    (hR : ∀ a, Stable ct (R a)) (hissued : ∀ σ, I σ → P σ → ct.issued q σ)
    (hserve : ∀ σ, I σ → P σ → ct.served q σ ∧ ∀ c a w, ct.assumed q c σ →
      rt.answer i q c σ.world = some (a, w) →
        ct.guar σ { σ with world := w } ∧ I { σ with world := w } ∧ R a { σ with world := w }) :
    Triple rt I ct i P (Prog.ask q) R := by
  intro σ₀ σ hg hI hPσ
  rw [wp_ask hy]
  refine ⟨hg, hI, hissued σ hI hPσ, fun σ₁ hr₁ hI₁ => ?_⟩
  obtain ⟨hs, hans⟩ := hserve σ₁ hI₁ (hP σ σ₁ hr₁ hPσ)
  refine ⟨hs, fun c a w has hw => ?_⟩
  obtain ⟨hg', hI', hRa⟩ := hans c a w has hw
  exact ⟨hg', hI', fun σ₂ hr₂ hI₂ => ⟨ct.guar_refl σ₂, hI₂, hR a _ σ₂ hr₂ hRa⟩⟩

/-- A call which is answered on the spot. -/
lemma ask_sync {q : Q} {R : A q → Snap C W → Prop} (hy : rt.yields q = false)
    (h : ∀ σ, I σ → P σ → ∀ c, ∃ a w, rt.answer i q c σ.world = some (a, w) ∧
      ct.guar σ { σ with world := w } ∧ I { σ with world := w } ∧ R a { σ with world := w }) :
    Triple rt I ct i P (Prog.ask q) R := by
  intro σ₀ σ hg hI hP
  rw [wp_ask_sync hy]
  intro c
  obtain ⟨a, w, hans, hg', hI', hR⟩ := h σ hI hP c
  exact ⟨a, w, hans, ct.guar_trans hg hg', hI', hR⟩

lemma ite {φ : Prop} [Decidable φ] {p q : Prog C Q A α} {R : α → Snap C W → Prop}
    (hp : Triple rt I ct i P p R) (hq : Triple rt I ct i P q R) :
    Triple rt I ct i P (if φ then p else q) R := by
  split
  · exact hp
  · exact hq

/-- The rule of a loop over a list: the invariant speaks of the elements still to come. -/
theorem forM {γ : Type} {body : γ → Prog C Q A Unit} {J : List γ → Snap C W → Prop}
    (hbody : ∀ x l, Triple rt I ct i (J (x :: l)) (body x) fun _ => J l) (l : List γ) :
    Triple rt I ct i (J l) (l.forM body) fun _ => J [] := by
  induction l with
  | nil => exact pure fun _ _ h => h
  | cons x l ih => exact bind (hbody x l) fun _ => ih

/-- Where the loop invariant does not speak of the list. -/
lemma forM_keep {γ : Type} {body : γ → Prog C Q A Unit}
    (hbody : ∀ x, Triple rt I ct i P (body x) fun _ => P) (l : List γ) :
    Triple rt I ct i P (l.forM body) fun _ => P := by
  induction l with
  | nil => exact pure fun _ _ h => h
  | cons x l ih => exact bind (hbody x) fun _ => ih

/-- The rule of a loop which carries an accumulator. -/
theorem foldlM {γ δ : Type} {body : δ → γ → Prog C Q A δ}
    {J : List γ → δ → Snap C W → Prop}
    (hbody : ∀ x l d, Triple rt I ct i (J (x :: l) d) (body d x) (J l)) (l : List γ) (d : δ) :
    Triple rt I ct i (J l d) (l.foldlM body d) (J []) := by
  induction l generalizing d with
  | nil => exact pure fun _ _ h => h
  | cons x l ih =>
    rw [List.foldlM_cons]
    exact bind (hbody x l d) fun d => ih d

end Triple

/-- What neither the task nor the others undo, once it holds. -/
def Lasting (ct : Contract C W Q Ch) (F : Snap C W → Prop) : Prop :=
  Stable ct F ∧ ∀ σ σ', ct.guar σ σ' → F σ → F σ'

lemma wp_frame {F : Snap C W → Prop} (hF : Lasting ct F) {p : Prog C Q A α}
    {R : α → Snap C W → Prop} {σ₀ σ₁ σ : Snap C W} (hg : ct.guar σ₀ σ₁) (hσ₁ : F σ₁)
    (hp : wp rt I ct i p (fun a σ₀ σ => ct.guar σ₀ σ ∧ I σ ∧ R a σ) σ₁ σ) :
    wp rt I ct i p (fun a σ₀ σ => ct.guar σ₀ σ ∧ I σ ∧ R a σ ∧ F σ) σ₀ σ := by
  induction p generalizing σ₀ σ₁ σ with
  | ret a =>
    obtain ⟨hg₁, hI, hR⟩ := hp
    exact ⟨ct.guar_trans hg hg₁, hI, hR, hF.2 σ₁ σ hg₁ hσ₁⟩
  | sync f k ih => exact ih _ hg hσ₁ hp
  | call q k ih =>
    rw [wp] at hp ⊢
    split at hp
    · rename_i hy
      obtain ⟨hg₁, hI, hissued, hawaits⟩ := hp
      rw [if_pos hy]
      refine ⟨ct.guar_trans hg hg₁, hI, hissued, fun σ₂ hr₂ hI₂ => ?_⟩
      obtain ⟨hserved, hans⟩ := hawaits σ₂ hr₂ hI₂
      refine ⟨hserved, fun c a w has hw => ?_⟩
      obtain ⟨hg₂, hI', hk⟩ := hans c a w has hw
      have hσ₂ : F σ₂ := hF.1 σ σ₂ hr₂ (hF.2 σ₁ σ hg₁ hσ₁)
      refine ⟨hg₂, hI', fun σ₃ hr₃ hI₃ => ?_⟩
      have hσ₃ : F σ₃ := hF.1 _ σ₃ hr₃ (hF.2 σ₂ _ hg₂ hσ₂)
      exact ih a (ct.guar_refl σ₃) hσ₃ (hk σ₃ hr₃ hI₃)
    · rename_i hy
      rw [if_neg hy]
      intro c
      obtain ⟨a, w, hw, hk⟩ := hp c
      exact ⟨a, w, hw, ih a hg hσ₁ hk⟩

/-- The frame rule: what lasts still holds when the program ends. -/
theorem Triple.frame {P F : Snap C W → Prop} (hF : Lasting ct F) {p : Prog C Q A α}
    {R : α → Snap C W → Prop} (h : Triple rt I ct i P p R) :
    Triple rt I ct i (fun σ => P σ ∧ F σ) p fun a σ => R a σ ∧ F σ := by
  intro σ₀ σ hg hI hP
  exact wp_frame hF hg hP.2 (h σ σ (ct.guar_refl σ) hI hP.1)

lemma Lasting.and {F G : Snap C W → Prop} (hF : Lasting ct F) (hG : Lasting ct G) :
    Lasting ct fun σ => F σ ∧ G σ :=
  ⟨fun σ σ' hr h => ⟨hF.1 σ σ' hr h.1, hG.1 σ σ' hr h.2⟩,
    fun σ σ' hg h => ⟨hF.2 σ σ' hg h.1, hG.2 σ σ' hg h.2⟩⟩

lemma Lasting.all {γ : Type} {F : γ → Snap C W → Prop} (hF : ∀ x, Lasting ct (F x)) :
    Lasting ct fun σ => ∀ x, F x σ :=
  ⟨fun σ σ' hr h x => (hF x).1 σ σ' hr (h x), fun σ σ' hg h x => (hF x).2 σ σ' hg (h x)⟩

lemma Lasting.imp {φ : Prop} {F : Snap C W → Prop} (hF : Lasting ct F) :
    Lasting ct fun σ => φ → F σ :=
  ⟨fun σ σ' hr h hφ => hF.1 σ σ' hr (h hφ), fun σ σ' hg h hφ => hF.2 σ σ' hg (h hφ)⟩

lemma Lasting.forall {γ : Type} {φ : γ → Prop} {F : γ → Snap C W → Prop}
    (hF : ∀ x, Lasting ct (F x)) : Lasting ct fun σ => ∀ x, φ x → F x σ :=
  .all fun x => (hF x).imp

/-- A loop whose turns each need something of their own element which lasts. -/
theorem Triple.forM_lasting {γ : Type} {F : γ → Snap C W → Prop} (hF : ∀ x, Lasting ct (F x))
    {body : γ → Prog C Q A Unit}
    (hbody : ∀ x, Triple rt I ct i (F x) (body x) fun _ _ => True) (l : List γ) :
    Triple rt I ct i (fun σ => ∀ x ∈ l, F x σ) (l.forM body) fun _ _ => True := by
  refine (Triple.forM (J := fun l σ => ∀ x ∈ l, F x σ) (fun x l => ?_) l).mono
    (fun _ _ h => h) fun _ _ _ => trivial
  have hrest : Lasting ct fun σ => ∀ y ∈ l, F y σ := .forall hF
  refine ((hbody x).frame hrest).mono (fun σ _ h => ?_) fun _ _ h => h.2
  exact ⟨h x List.mem_cons_self, fun y hy => h y (List.mem_cons_of_mem x hy)⟩

/-- The same, where the turns build up a result of which something is needed too. -/
theorem Triple.foldlM_lasting {γ δ : Type} {F : γ → Snap C W → Prop}
    (hF : ∀ x, Lasting ct (F x)) {G : δ → Snap C W → Prop} {body : δ → γ → Prog C Q A δ}
    (hbody : ∀ x d, Triple rt I ct i (fun σ => F x σ ∧ G d σ) (body d x) G) (l : List γ) (d : δ) :
    Triple rt I ct i (fun σ => (∀ x ∈ l, F x σ) ∧ G d σ) (l.foldlM body d) G := by
  refine (Triple.foldlM (J := fun l d σ => (∀ x ∈ l, F x σ) ∧ G d σ) (fun x l d => ?_) l d).mono
    (fun _ _ h => h) fun _ _ h => h.2
  have hrest : Lasting ct fun σ => ∀ y ∈ l, F y σ := .forall hF
  refine ((hbody x d).frame hrest).mono (fun σ _ h => ?_) fun _ _ h => h.symm
  exact ⟨⟨h.1 x List.mem_cons_self, h.2⟩, fun y hy => h.1 y (List.mem_cons_of_mem x hy)⟩

/-- What a task of a pool needs from the state it stands at. -/
def taskOk (rt : Runtime Q A W Ch) (I : Snap C W → Prop) (ct : Contract C W Q Ch) (i : Nat) :
    Task C Q A → Snap C W → Prop
  | .ready p, σ => ∀ σ₁, ct.rely σ σ₁ → I σ₁ → wp rt I ct i p (finishes I ct) σ₁ σ₁
  | .waiting q k, σ => awaits rt I ct i q (fun a σ₁ => wp rt I ct i (k a) (finishes I ct) σ₁ σ₁) σ
  | .finished, _ => True

/-- A task which is verified from a stable assertion may start wherever that holds. -/
lemma taskOk_ready {P : Snap C W → Prop} {p : Prog C Q A Unit} (hP : Stable ct P)
    (h : Triple rt I ct i P p fun _ => ct.ended) {σ : Snap C W} (hσ : P σ) :
    taskOk rt I ct i (.ready p) σ := by
  intro σ₁ hr hI
  exact h σ₁ σ₁ (ct.guar_refl σ₁) hI (hP σ σ₁ hr hσ)

lemma taskOk_rely {t : Task C Q A} {σ σ' : Snap C W} (hr : ct.rely σ σ')
    (ht : taskOk rt I ct i t σ) : taskOk rt I ct i t σ' := by
  cases t with
  | ready p => exact fun σ₁ hr₁ hI => ht σ₁ (ct.rely_trans hr hr₁) hI
  | waiting q k => exact awaits_rely hr ht
  | finished => trivial

/-- Whatever a task runs, it can go on where nothing is asked of it. -/
lemma taskOk_free (hsync : ∀ q c w, rt.yields q = false → ∃ a w', rt.answer i q c w = some (a, w'))
    (t : Task C Q A) (σ : Snap C W) : taskOk rt (fun _ => True) Contract.free i t σ := by
  let free : Contract C W Q Ch := Contract.free
  have hwp : ∀ (p : Prog C Q A Unit) σ₀ σ, wp rt (fun _ => True) free i p
      (finishes (fun _ => True) free) σ₀ σ := by
    intro p
    induction p with
    | ret a => exact fun _ _ => ⟨trivial, trivial, trivial⟩
    | sync f k ih => exact fun σ₀ σ => ih σ.shared σ₀ _
    | call q k ih =>
      intro σ₀ σ
      rw [wp]
      split
      · exact ⟨trivial, trivial, trivial, fun σ₁ _ _ => ⟨trivial, fun _ a _ _ _ =>
          ⟨trivial, trivial, fun σ₂ _ _ => ih a σ₂ σ₂⟩⟩⟩
      · rename_i hy
        intro c
        obtain ⟨a, w, hans⟩ := hsync q c σ.world (eq_false_of_ne_true hy)
        exact ⟨a, w, hans, ih a σ₀ _⟩
  cases t with
  | ready p => exact fun σ₁ _ _ => hwp p σ₁ σ₁
  | waiting q k => exact fun σ₁ _ _ => ⟨trivial, fun _ a _ _ _ =>
      ⟨trivial, trivial, fun σ₂ _ _ => hwp (k a) σ₂ σ₂⟩⟩
  | finished => trivial

/-- A verified program, run up to its next suspension, keeps its guarantee and the invariant, and
issues the call it suspends at, or ends, rightly. -/
theorem advance_spec [Inhabited Ch] {p : Prog C Q A Unit} (cs : List Ch) {σ₀ σ : Snap C W}
    (hp : wp rt I ct i p (finishes I ct) σ₀ σ) :
    ct.guar σ₀ (advance rt i p cs σ).2 ∧ I (advance rt i p cs σ).2 ∧
      taskOk rt I ct i (advance rt i p cs σ).1 (advance rt i p cs σ).2 ∧
      (∀ q k, (advance rt i p cs σ).1 = .waiting q k → ct.issued q (advance rt i p cs σ).2) ∧
      ((advance rt i p cs σ).1 = .finished → ct.ended (advance rt i p cs σ).2) := by
  induction p generalizing cs σ with
  | ret a =>
    obtain ⟨hg, hI, hend⟩ := hp
    refine ⟨hg, hI, trivial, ?_, fun _ => hend⟩
    intro q k h
    cases h
  | sync f k ih => exact ih _ _ hp
  | call q k ih =>
    rw [wp] at hp
    rw [advance]
    split at hp
    · rename_i hy
      rw [if_pos hy]
      obtain ⟨hg, hI, hi, ha⟩ := hp
      refine ⟨hg, hI, ha, ?_, fun h => by cases h⟩
      intro q' k' h
      cases h
      exact hi
    · rename_i hy
      rw [if_neg hy]
      obtain ⟨a, w, hans, hk⟩ := hp (cs.headD default)
      simp only [hans]
      exact ih a _ hk

end Wp

section Pools

variable (rt : Runtime Q A W Ch) (I : Snap C W → Prop) (ct : L → Nat → Contract C W Q Ch)

/-- The invariant holds, and every task can go on from here. -/
def poolOk (p : Pool C W Q A L) : Prop :=
  I p.snap ∧ ∀ i l t, p.tasks[i]? = some (l, t) → taskOk rt I (ct l i) i t p.snap

/-- The task which takes a step. -/
def Move.task? : Move L Ch E → Option Nat
  | .run i _ => some i
  | .serve i _ => some i
  | _ => none

/-- The other tasks, those which have not ended, can rely on the step from `p` to `σ`. -/
def othersRely (p : Pool C W Q A L) (m : Move L Ch E) (σ : Snap C W) : Prop :=
  ∀ i l t, p.tasks[i]? = some (l, t) → t ≠ .finished → m.task? ≠ some i → (ct l i).rely p.snap σ

variable {rt I ct} {body : L → Prog C Q A Unit} {effect : E → Snap C W → Snap C W}

/-- A call waiting to be served in a pool in order may be served there. -/
lemma poolOk_served {p : Pool C W Q A L} (hp : poolOk rt I ct p) {i : Nat} {l : L} {q : Q}
    {k : A q → Prog C Q A Unit} (hi : p.tasks[i]? = some (l, .waiting q k)) :
    (ct l i).served q p.snap :=
  (hp.2 i l _ hi p.snap ((ct l i).rely_refl _) hp.1).1

variable [Inhabited Ch]

/-- A step keeps a pool in order if what it does to the state is what the others rely on. -/
theorem poolOk_step {p : Pool C W Q A L} {m : Move L Ch E} (hp : poolOk rt I ct p)
    (hspawn : ∀ l, m = .spawn l → taskOk rt I (ct l p.tasks.length) p.tasks.length
      (.ready (body l)) p.snap)
    (htask : ∀ j l t, m.task? = some j → p.tasks[j]? = some (l, t) →
      (ct l j).guar p.snap (step rt body effect p m).snap → I (step rt body effect p m).snap →
        othersRely ct p m (step rt body effect p m).snap)
    (hserve : ∀ i c l q k, m = .serve i c → p.tasks[i]? = some (l, .waiting q k) →
      (ct l i).assumed q c p.snap)
    (hevent : ∀ e, m = .event e → I (effect e p.snap) ∧ othersRely ct p m (effect e p.snap)) :
    poolOk rt I ct (step rt body effect p m) := by
  obtain ⟨hI, ht⟩ := hp
  have hset : ∀ j l t₀ t σ, p.tasks[j]? = some (l, t₀) → m.task? = some j → I σ →
      taskOk rt I (ct l j) j t σ → othersRely ct p m σ → poolOk rt I ct (p.setTask j l t σ) := by
    intro j l t₀ t σ hj hm hIσ htσ hothers
    refine ⟨hIσ, fun i l' t' hi => ?_⟩
    rw [Pool.setTask, List.getElem?_set] at hi
    split at hi
    · rename_i hij
      subst hij
      split at hi
      · obtain ⟨rfl, rfl⟩ := Prod.mk.inj (Option.some.inj hi)
        exact htσ
      · cases hi
    · rename_i hij
      by_cases hfin : t' = .finished
      · subst hfin
        trivial
      · refine taskOk_rely (hothers i l' t' hi hfin ?_) (ht i l' t' hi)
        rw [hm]
        exact fun h => hij (Option.some.inj h)
  cases m with
  | spawn l =>
    refine ⟨hI, fun i l' t' hi => ?_⟩
    rw [step, List.getElem?_append] at hi
    split at hi
    · exact ht i l' t' hi
    · rename_i hlen
      rw [List.getElem?_singleton] at hi
      split at hi
      · have hilen : i = p.tasks.length := by omega
        obtain ⟨rfl, rfl⟩ := Prod.mk.inj (Option.some.inj hi)
        exact hilen ▸ hspawn _ rfl
      · cases hi
  | run j cs =>
    rw [step]
    split
    · rename_i l prog hj
      have hwp := ht j l _ hj p.snap ((ct l j).rely_refl _) hI
      obtain ⟨hg, hIσ, htσ, -, -⟩ := advance_spec cs hwp
      have hstep : (step rt body effect p (.run j cs)).snap = (advance rt j prog cs p.snap).2 := by
        simp [step, hj, Pool.setTask]
      exact hset j l _ _ _ hj rfl hIσ htσ
        (hstep ▸ htask j l _ rfl hj (hstep ▸ hg) (hstep ▸ hIσ))
    · exact ⟨hI, ht⟩
  | serve j c =>
    rw [step]
    split
    · rename_i l q k hj
      split
      · rename_i a w hans
        obtain ⟨-, hans'⟩ := ht j l _ hj p.snap ((ct l j).rely_refl _) hI
        obtain ⟨hg, hIσ, hk⟩ := hans' c a w (hserve j c l q k rfl hj) hans
        have hstep : (step rt body effect p (.serve j c)).snap = { p.snap with world := w } := by
          simp [step, hj, hans, Pool.setTask]
        exact hset j l _ (.ready (k a)) _ hj rfl hIσ hk
          (hstep ▸ htask j l _ rfl hj (hstep ▸ hg) (hstep ▸ hIσ))
      · exact ⟨hI, ht⟩
    · exact ⟨hI, ht⟩
  | event e =>
    obtain ⟨hIe, hothers⟩ := hevent e rfl
    refine ⟨hIe, fun i l t hi => ?_⟩
    by_cases hfin : t = .finished
    · subst hfin
      trivial
    · exact taskOk_rely (hothers i l t hi hfin (by simp [Move.task?])) (ht i l t hi)

/-- A step of a pool in order is one its task guarantees. -/
lemma poolOk_guar {p : Pool C W Q A L} (hp : poolOk rt I ct p) {m : Move L Ch E} {i : Nat} {l : L}
    {t : Task C Q A} (hi : p.tasks[i]? = some (l, t)) (hm : m.task? = some i)
    (hserve : ∀ c q k, m = .serve i c → t = .waiting q k → (ct l i).assumed q c p.snap) :
    (ct l i).guar p.snap (step rt body effect p m).snap := by
  have ht := hp.2 i l t hi
  cases m with
  | spawn l' => cases hm
  | event e => cases hm
  | run j cs =>
    cases hm
    cases t with
    | ready prog =>
      simp only [step, hi]
      exact (advance_spec cs (ht p.snap ((ct l i).rely_refl _) hp.1)).1
    | _ =>
      simp only [step, hi]
      exact (ct l i).guar_refl _
  | serve j c =>
    cases hm
    cases t with
    | waiting q k =>
      simp only [step, hi]
      split
      · rename_i a w hans
        exact ((ht p.snap ((ct l i).rely_refl _) hp.1).2 c a w (hserve c q k rfl rfl) hans).1
      · exact (ct l i).guar_refl _
    | _ =>
      simp only [step, hi]
      exact (ct l i).guar_refl _

/-- Every step of the run meets the condition at the state it is taken from. -/
def runMeets (rt : Runtime Q A W Ch) (body : L → Prog C Q A Unit)
    (effect : E → Snap C W → Snap C W) (meets : Pool C W Q A L → Move L Ch E → Prop) :
    Pool C W Q A L → List (Move L Ch E) → Prop
  | _, [] => True
  | p, m :: ms => meets p m ∧ runMeets rt body effect meets (step rt body effect p m) ms

instance runMeets.decidable (rt : Runtime Q A W Ch) (body : L → Prog C Q A Unit)
    (effect : E → Snap C W → Snap C W) (meets : Pool C W Q A L → Move L Ch E → Prop)
    [∀ p m, Decidable (meets p m)] :
    ∀ p ms, Decidable (runMeets rt body effect meets p ms)
  | _, [] => isTrue trivial
  | p, m :: ms =>
    letI := runMeets.decidable rt body effect meets (step rt body effect p m) ms
    inferInstanceAs (Decidable (meets p m ∧ _))

lemma runMeets_mono {meets meets' : Pool C W Q A L → Move L Ch E → Prop}
    (h : ∀ p m, meets p m → meets' p m) {p : Pool C W Q A L} {ms : List (Move L Ch E)}
    (hms : runMeets rt body effect meets p ms) : runMeets rt body effect meets' p ms := by
  induction ms generalizing p with
  | nil => trivial
  | cons m ms ih => exact ⟨h p m hms.1, ih hms.2⟩

lemma runMeets_of_forall {meets : Pool C W Q A L → Move L Ch E → Prop} (h : ∀ p m, meets p m)
    (p : Pool C W Q A L) (ms : List (Move L Ch E)) : runMeets rt body effect meets p ms := by
  induction ms generalizing p with
  | nil => trivial
  | cons m ms ih => exact ⟨h p m, ih _⟩

lemma runMeets_append {meets : Pool C W Q A L → Move L Ch E → Prop} {p : Pool C W Q A L}
    {ms ms' : List (Move L Ch E)} : runMeets rt body effect meets p (ms ++ ms') ↔
      runMeets rt body effect meets p ms ∧
        runMeets rt body effect meets (runMoves rt body effect p ms) ms' := by
  induction ms generalizing p with
  | nil => exact (and_iff_right trivial).symm
  | cons m ms ih =>
    rw [List.cons_append, runMeets, runMeets, ih, and_assoc, runMoves, runMoves, List.foldl_cons]

/-- What every step which meets the condition keeps holds at the end of every run whose steps
meet it. -/
theorem runMoves_keeps {Inv : Pool C W Q A L → Prop} {meets : Pool C W Q A L → Move L Ch E → Prop}
    (hstep : ∀ p m, Inv p → meets p m → Inv (step rt body effect p m))
    {p : Pool C W Q A L} {ms : List (Move L Ch E)} (hp : Inv p)
    (hms : runMeets rt body effect meets p ms) : Inv (runMoves rt body effect p ms) := by
  induction ms generalizing p with
  | nil => exact hp
  | cons m ms ih => exact ih (hstep p m hp hms.1) hms.2

/-- What every step ensures, of a state the run comes to, every step of the run ensures. -/
theorem runMeets_of_step {Inv : Pool C W Q A L → Prop}
    {meets ensures : Pool C W Q A L → Move L Ch E → Prop}
    (hstep : ∀ p m, Inv p → meets p m → Inv (step rt body effect p m) ∧ ensures p m)
    {p : Pool C W Q A L} {ms : List (Move L Ch E)} (hp : Inv p)
    (hms : runMeets rt body effect meets p ms) : runMeets rt body effect ensures p ms := by
  induction ms generalizing p with
  | nil => trivial
  | cons m ms ih =>
    obtain ⟨hinv, hens⟩ := hstep p m hp hms.1
    exact ⟨hens, ih hinv hms.2⟩

end Pools

/-! One task which meets its contract, among others of which no more is known than that it can
rely on their steps. -/

/-- The call the step serves: whose it is, and how it is answered. -/
def servedTo (p : Pool C W Q A L) : Move L Ch E → Option (L × Q × Ch)
  | .serve i c =>
    match p.tasks[i]? with
    | some (l, .waiting q _) => some (l, q, c)
    | _ => none
  | _ => none

lemma servedTo_some {p : Pool C W Q A L} {m : Move L Ch E} {l : L} {q : Q} {c : Ch}
    (h : servedTo p m = some (l, q, c)) :
    ∃ i k, m = .serve i c ∧ p.tasks[i]? = some (l, .waiting q k) := by
  rw [servedTo.eq_def] at h
  split at h
  · rename_i i c'
    split at h
    · cases h
      exact ⟨i, _, rfl, ‹_›⟩
    · cases h
  · cases h

section Focus

variable (rt : Runtime Q A W Ch) (I : Snap C W → Prop) (ct : Contract C W Q Ch) (i : Nat)
  [Inhabited Ch] (body : L → Prog C Q A Unit) (effect : E → Snap C W → Snap C W)

/-- The call the step makes task `i` await. -/
def issuedCall (p : Pool C W Q A L) (m : Move L Ch E) : Option Q :=
  match p.tasks[i]?, (step rt body effect p m).tasks[i]? with
  | some (_, .ready _), some (_, .waiting q _) => some q
  | _, _ => none

/-- The step is the last one of task `i`. -/
def endsTask (p : Pool C W Q A L) (m : Move L Ch E) : Bool :=
  match p.tasks[i]?, (step rt body effect p m).tasks[i]? with
  | some (_, .ready _), some (_, .finished) => true
  | _, _ => false

/-- The call of task `i` which the step serves, and how. -/
def servedCall (p : Pool C W Q A L) : Move L Ch E → Option (Q × Ch)
  | .serve j c => if j = i then
      match p.tasks[i]? with
      | some (_, .waiting q _) => some (q, c)
      | _ => none
    else none
  | _ => none

/-- The task can go on from here. -/
def focusOk (p : Pool C W Q A L) : Prop :=
  I p.snap ∧ ∃ l t, p.tasks[i]? = some (l, t) ∧ taskOk rt I ct i t p.snap

/-- The task can rely on the step if it is another's, and on the answer if it is its own. -/
def focusMeets (p : Pool C W Q A L) (m : Move L Ch E) : Prop :=
  (m.task? ≠ some i →
    ct.rely p.snap (step rt body effect p m).snap ∧ I (step rt body effect p m).snap) ∧
  ∀ q c, servedCall i p m = some (q, c) → ct.assumed q c p.snap

/-- What the task issues, it issues rightly; and it ends rightly. -/
def focusEnsures (p : Pool C W Q A L) (m : Move L Ch E) : Prop :=
  (∀ q, issuedCall rt i body effect p m = some q → ct.issued q (step rt body effect p m).snap) ∧
  (endsTask rt i body effect p m → ct.ended (step rt body effect p m).snap)

variable {rt I ct i body effect}

/-- What another does leaves the task where it is. -/
lemma step_task_other {p : Pool C W Q A L} {m : Move L Ch E} {l : L} {t : Task C Q A}
    (hi : p.tasks[i]? = some (l, t)) (hm : m.task? ≠ some i) :
    (step rt body effect p m).tasks[i]? = some (l, t) := by
  cases m with
  | spawn l' =>
    have hlt : i < p.tasks.length := (List.getElem?_eq_some_iff.mp hi).1
    rw [step, List.getElem?_append_left hlt]
    exact hi
  | run j cs =>
    have hj : j ≠ i := fun h => hm (by rw [Move.task?, h])
    rw [step]
    split
    · rw [Pool.setTask, List.getElem?_set_ne hj]
      exact hi
    · exact hi
  | serve j c =>
    have hj : j ≠ i := fun h => hm (by rw [Move.task?, h])
    rw [step]
    split
    · split
      · rw [Pool.setTask, List.getElem?_set_ne hj]
        exact hi
      · exact hi
    · exact hi
  | event e => exact hi

lemma issuedCall_other {p : Pool C W Q A L} {m : Move L Ch E} {l : L} {t : Task C Q A}
    (hi : p.tasks[i]? = some (l, t)) (hm : m.task? ≠ some i) :
    issuedCall rt i body effect p m = none := by
  have hsame : (step rt body effect p m).tasks[i]? = some (l, t) := step_task_other hi hm
  rw [issuedCall, hi, hsame]
  cases t <;> rfl

lemma runMoves_task_other {p : Pool C W Q A L} {ms : List (Move L Ch E)} {l : L} {t : Task C Q A}
    (hi : p.tasks[i]? = some (l, t)) (hms : ∀ m ∈ ms, m.task? ≠ some i) :
    (runMoves rt body effect p ms).tasks[i]? = some (l, t) := by
  induction ms generalizing p with
  | nil => exact hi
  | cons m ms ih =>
    exact ih (step_task_other hi (hms m List.mem_cons_self)) fun m' hm' =>
      hms m' (List.mem_cons_of_mem m hm')

/-- While only others take steps, the task issues nothing. -/
lemma issuesNothing_others {p : Pool C W Q A L} {ms : List (Move L Ch E)} {l : L} {t : Task C Q A}
    (hi : p.tasks[i]? = some (l, t)) (hms : ∀ m ∈ ms, m.task? ≠ some i) :
    runMeets rt body effect (fun p m => issuedCall rt i body effect p m = none) p ms := by
  induction ms generalizing p with
  | nil => trivial
  | cons m ms ih =>
    have hm : m.task? ≠ some i := hms m List.mem_cons_self
    exact ⟨issuedCall_other hi hm, ih (step_task_other hi hm) fun m' hm' =>
      hms m' (List.mem_cons_of_mem m hm')⟩

lemma focusOk_other {p : Pool C W Q A L} {m : Move L Ch E} (hp : focusOk rt I ct i p)
    (hm : m.task? ≠ some i) (hrely : ct.rely p.snap (step rt body effect p m).snap)
    (hI : I (step rt body effect p m).snap) :
    focusOk rt I ct i (step rt body effect p m) ∧ focusEnsures rt ct i body effect p m := by
  obtain ⟨-, l, t, hi, ht⟩ := hp
  have hsame : (step rt body effect p m).tasks[i]? = some (l, t) := step_task_other hi hm
  refine ⟨⟨hI, l, t, hsame, taskOk_rely hrely ht⟩, ?_, ?_⟩
  · intro q hq
    rw [issuedCall, hi, hsame] at hq
    cases t <;> cases hq
  · intro hend
    rw [endsTask, hi, hsame] at hend
    cases t <;> cases hend

/-- A verified program which the task is about to run. -/
lemma focusOk_runs {p : Pool C W Q A L} {l : L} {prog : Prog C Q A Unit}
    (hi : p.tasks[i]? = some (l, .ready prog)) (cs : List Ch)
    (hwp : wp rt I ct i prog (finishes I ct) p.snap p.snap) :
    focusOk rt I ct i (step rt body effect p (.run i cs)) ∧
      focusEnsures rt ct i body effect p (.run i cs) := by
  have hlt : i < p.tasks.length := (List.getElem?_eq_some_iff.mp hi).1
  have hstep : step rt body effect p (.run i cs) =
      p.setTask i l (advance rt i prog cs p.snap).1 (advance rt i prog cs p.snap).2 := by
    rw [step, hi]
  have htask : (step rt body effect p (.run i cs)).tasks[i]? =
      some (l, (advance rt i prog cs p.snap).1) := by
    rw [hstep, Pool.setTask, List.getElem?_set_self hlt]
  obtain ⟨-, hI', ht', hissued, hended⟩ := advance_spec cs hwp
  refine ⟨⟨by rw [hstep]; exact hI', l, _, htask, by rw [hstep]; exact ht'⟩, ?_, ?_⟩
  · intro q hq
    rw [issuedCall, hi, htask] at hq
    rw [hstep]
    cases hadv : (advance rt i prog cs p.snap).1 with
    | waiting q' k =>
      rw [hadv] at hq
      cases hq
      exact hissued q k hadv
    | _ =>
      rw [hadv] at hq
      cases hq
  · intro hend
    rw [endsTask, hi, htask] at hend
    rw [hstep]
    cases hadv : (advance rt i prog cs p.snap).1 with
    | finished => exact hended hadv
    | _ =>
      rw [hadv] at hend
      cases hend

lemma focusOk_self {p : Pool C W Q A L} {m : Move L Ch E} (hp : focusOk rt I ct i p)
    (hm : m.task? = some i)
    (hserve : ∀ q c, servedCall i p m = some (q, c) → ct.assumed q c p.snap) :
    focusOk rt I ct i (step rt body effect p m) ∧ focusEnsures rt ct i body effect p m := by
  obtain ⟨hI, l, t, hi, ht⟩ := hp
  have hlt : i < p.tasks.length := (List.getElem?_eq_some_iff.mp hi).1
  -- a step which does nothing
  have hidle : step rt body effect p m = p →
      focusOk rt I ct i (step rt body effect p m) ∧ focusEnsures rt ct i body effect p m := by
    intro hstep
    refine ⟨?_, ?_, ?_⟩
    · rw [hstep]
      exact ⟨hI, l, t, hi, ht⟩
    · intro q hq
      rw [issuedCall, hstep, hi] at hq
      cases t <;> cases hq
    · intro hend
      rw [endsTask, hstep, hi] at hend
      cases t <;> cases hend
  cases m with
  | spawn l' => cases hm
  | event e => cases hm
  | run j cs =>
    cases hm
    cases t with
    | ready prog => exact focusOk_runs hi cs (ht p.snap (ct.rely_refl _) hI)
    | _ => exact hidle (by rw [step, hi])
  | serve j c =>
    cases hm
    cases t with
    | waiting q k =>
      cases hans : rt.answer i q c p.snap.world with
      | none => exact hidle (by simp only [step, hi, hans])
      | some aw =>
        obtain ⟨a, w⟩ := aw
        have hstep : step rt body effect p (.serve i c) =
            p.setTask i l (.ready (k a)) { p.snap with world := w } := by
          simp only [step, hi, hans]
        have htask : (step rt body effect p (.serve i c)).tasks[i]? = some (l, .ready (k a)) := by
          rw [hstep, Pool.setTask, List.getElem?_set_self hlt]
        have has : ct.assumed q c p.snap := hserve q c (by simp [servedCall, hi])
        obtain ⟨-, hI', hk⟩ := (ht p.snap (ct.rely_refl _) hI).2 c a w has hans
        refine ⟨⟨by rw [hstep]; exact hI', l, _, htask, by rw [hstep]; exact hk⟩, ?_, ?_⟩
        · intro q' hq
          rw [issuedCall, hi, htask] at hq
          cases hq
        · intro hend
          rw [endsTask, hi, htask] at hend
          cases hend
    | _ => exact hidle (by rw [step, hi])

lemma focusOk_step {p : Pool C W Q A L} {m : Move L Ch E} (hp : focusOk rt I ct i p)
    (hm : focusMeets rt I ct i body effect p m) :
    focusOk rt I ct i (step rt body effect p m) ∧ focusEnsures rt ct i body effect p m := by
  by_cases htask : m.task? = some i
  · exact focusOk_self hp htask hm.2
  · exact focusOk_other hp htask (hm.1 htask).1 (hm.1 htask).2

/-- The task guarantees its own steps. -/
lemma focusOk_guar {p : Pool C W Q A L} {m : Move L Ch E} (hp : focusOk rt I ct i p)
    (hm : m.task? = some i) (hserve : ∀ q c, servedCall i p m = some (q, c) → ct.assumed q c p.snap) :
    ct.guar p.snap (step rt body effect p m).snap := by
  obtain ⟨hI, l, t, hi, ht⟩ := hp
  cases m with
  | spawn l' => cases hm
  | event e => cases hm
  | run j cs =>
    cases hm
    cases t with
    | ready prog =>
      simp only [step, hi]
      exact (advance_spec cs (ht p.snap (ct.rely_refl _) hI)).1
    | _ =>
      simp only [step, hi]
      exact ct.guar_refl _
  | serve j c =>
    cases hm
    cases t with
    | waiting q k =>
      have has : ct.assumed q c p.snap := hserve q c (by simp [servedCall, hi])
      simp only [step, hi]
      split
      · rename_i a w hans
        exact ((ht p.snap (ct.rely_refl _) hI).2 c a w has hans).1
      · exact ct.guar_refl _
    | _ =>
      simp only [step, hi]
      exact ct.guar_refl _

lemma focus_runMoves {p : Pool C W Q A L} {ms : List (Move L Ch E)} (hp : focusOk rt I ct i p)
    (hms : runMeets rt body effect (focusMeets rt I ct i body effect) p ms) :
    focusOk rt I ct i (runMoves rt body effect p ms) := by
  refine runMoves_keeps (fun p m hp hm => ?_) hp hms
  exact (focusOk_step hp hm).1

/-- In a run whose steps the task can rely on, whatever the task issues it issues rightly, and
where it ends it ends rightly. -/
theorem focus_run {p : Pool C W Q A L} {ms : List (Move L Ch E)} (hp : focusOk rt I ct i p)
    (hms : runMeets rt body effect (focusMeets rt I ct i body effect) p ms) :
    runMeets rt body effect (focusEnsures rt ct i body effect) p ms :=
  runMeets_of_step (fun _ _ => focusOk_step) hp hms

/-- The same from the moment the task starts: what it starts from need not be left alone before. -/
theorem focus_runFrom {P : Snap C W → Prop} {p : Pool C W Q A L} {l : L} {prog : Prog C Q A Unit}
    (hi : p.tasks[i]? = some (l, .ready prog)) (hprog : Triple rt I ct i P prog fun _ => ct.ended)
    (hI : I p.snap) (hP : P p.snap) {cs : List Ch} {ms : List (Move L Ch E)}
    (hms : runMeets rt body effect (focusMeets rt I ct i body effect) p (.run i cs :: ms)) :
    runMeets rt body effect (focusEnsures rt ct i body effect) p (.run i cs :: ms) := by
  have hwp := hprog p.snap p.snap (ct.guar_refl _) hI hP
  obtain ⟨hok, hens⟩ := focusOk_runs hi cs hwp
  exact ⟨hens, focus_run hok hms.2⟩

end Focus

end GpuReservation.Library
