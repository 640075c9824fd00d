import Mathlib.Data.List.Basic

/-!
# Tests in turn

Tests which may fail, made one after another until the answer is known.
-/

namespace GpuReservation.Library

variable {α β : Type}

lemma allM_eq_some_true (p : α → Option Bool) (l : List α) :
    l.allM p = some true ↔ ∀ a ∈ l, p a = some true := by
  induction l with
  | nil => simp [List.allM]
  | cons a l ih =>
    rw [List.allM, List.forall_mem_cons, ← ih]
    cases p a with
    | none => simp
    | some b => cases b <;> simp

/-- It fails at a test which is come to: all before it hold. -/
lemma allM_eq_none (p : α → Option Bool) (l : List α) : l.allM p = none ↔
    ∃ l₁ a l₂, l = l₁ ++ a :: l₂ ∧ p a = none ∧ ∀ b ∈ l₁, p b = some true := by
  induction l with
  | nil => simp [List.allM]
  | cons a l ih =>
    rw [List.allM]
    constructor
    · intro h
      cases hp : p a with
      | none => exact ⟨[], a, l, rfl, hp, by simp⟩
      | some b =>
        rw [hp] at h
        cases b with
        | false => simp at h
        | true =>
          obtain ⟨l₁, c, l₂, rfl, hc, hall⟩ := ih.mp h
          exact ⟨a :: l₁, c, l₂, rfl, hc, List.forall_mem_cons.mpr ⟨hp, hall⟩⟩
    · rintro ⟨l₁, c, l₂, hl, hc, hall⟩
      cases l₁ with
      | nil =>
        obtain ⟨rfl, -⟩ := List.cons.inj hl
        simp [hc]
      | cons d l₁ =>
        obtain ⟨rfl, rfl⟩ := List.cons.inj hl
        rw [List.forall_mem_cons] at hall
        rw [hall.1]
        exact ih.mpr ⟨l₁, c, l₂, rfl, hc, hall.2⟩

lemma allM_append (p : α → Option Bool) (l l' : List α) :
    (l ++ l').allM p = (l.allM p).bind fun b => if b then l'.allM p else some false := by
  induction l with
  | nil => simp [List.allM]
  | cons a l ih =>
    rw [List.cons_append, List.allM, List.allM, ih]
    cases p a with
    | none => rfl
    | some b => cases b <;> rfl

lemma allM_map (f : α → β) (p : β → Option Bool) (l : List α) :
    (l.map f).allM p = l.allM fun a => p (f a) := by
  induction l with
  | nil => rfl
  | cons a l ih => rw [List.map_cons, List.allM, List.allM, ih]

lemma exists_of_allM_eq_some_false {p : α → Option Bool} {l : List α} (h : l.allM p = some false) :
    ∃ a ∈ l, p a = some false := by
  induction l with
  | nil => simp [List.allM] at h
  | cons a l ih =>
    rw [List.allM] at h
    cases hp : p a with
    | none => simp [hp] at h
    | some b =>
      cases b with
      | false => exact ⟨a, List.mem_cons_self, hp⟩
      | true =>
        rw [hp] at h
        obtain ⟨c, hc, hfalse⟩ := ih h
        exact ⟨c, List.mem_cons_of_mem a hc, hfalse⟩

lemma anyM_eq_some_false (p : α → Option Bool) (l : List α) :
    l.anyM p = some false ↔ ∀ a ∈ l, p a = some false := by
  induction l with
  | nil => simp
  | cons a l ih =>
    rw [List.anyM_cons, List.forall_mem_cons, ← ih]
    cases p a with
    | none => simp
    | some b => cases b <;> simp

/-- It fails at a test which is come to: none before it holds. -/
lemma anyM_eq_none (p : α → Option Bool) (l : List α) : l.anyM p = none ↔
    ∃ l₁ a l₂, l = l₁ ++ a :: l₂ ∧ p a = none ∧ ∀ b ∈ l₁, p b ≠ some true := by
  induction l with
  | nil => simp
  | cons a l ih =>
    rw [List.anyM_cons]
    constructor
    · intro h
      cases hp : p a with
      | none => exact ⟨[], a, l, rfl, hp, by simp⟩
      | some b =>
        rw [hp] at h
        cases b with
        | true => simp at h
        | false =>
          obtain ⟨l₁, c, l₂, rfl, hc, hall⟩ := ih.mp h
          exact ⟨a :: l₁, c, l₂, rfl, hc, List.forall_mem_cons.mpr ⟨by simp [hp], hall⟩⟩
    · rintro ⟨l₁, c, l₂, hl, hc, hall⟩
      cases l₁ with
      | nil =>
        obtain ⟨rfl, -⟩ := List.cons.inj hl
        simp [hc]
      | cons d l₁ =>
        obtain ⟨rfl, rfl⟩ := List.cons.inj hl
        rw [List.forall_mem_cons] at hall
        have hrest := ih.mpr ⟨l₁, c, l₂, rfl, hc, hall.2⟩
        cases hp : p a with
        | none => rfl
        | some b =>
          cases b with
          | false => exact hrest
          | true => exact absurd hp hall.1

lemma exists_of_anyM_eq_some_true {p : α → Option Bool} {l : List α} (h : l.anyM p = some true) :
    ∃ a ∈ l, p a = some true := by
  induction l with
  | nil => simp at h
  | cons a l ih =>
    rw [List.anyM_cons] at h
    cases hp : p a with
    | none => simp [hp] at h
    | some b =>
      cases b with
      | true => exact ⟨a, List.mem_cons_self, hp⟩
      | false =>
        rw [hp] at h
        obtain ⟨c, hc, htrue⟩ := ih h
        exact ⟨c, List.mem_cons_of_mem a hc, htrue⟩

lemma all_of_allM {p : α → Option Bool} {q : α → Bool} (hpq : ∀ a b, p a = some b → q a = b)
    {l : List α} {b : Bool} (h : l.allM p = some b) : l.all q = b := by
  cases b with
  | true =>
    rw [List.all_eq_true]
    exact fun a ha => hpq a true ((allM_eq_some_true p l).mp h a ha)
  | false =>
    obtain ⟨a, ha, hfalse⟩ := exists_of_allM_eq_some_false h
    rw [List.all_eq_false]
    exact ⟨a, ha, by rw [hpq a false hfalse]; decide⟩

lemma any_of_anyM {p : α → Option Bool} {q : α → Bool} (hpq : ∀ a b, p a = some b → q a = b)
    {l : List α} {b : Bool} (h : l.anyM p = some b) : l.any q = b := by
  cases b with
  | true =>
    obtain ⟨a, ha, htrue⟩ := exists_of_anyM_eq_some_true h
    exact List.any_eq_true.mpr ⟨a, ha, hpq a true htrue⟩
  | false =>
    rw [List.any_eq_false]
    exact fun a ha => by rw [hpq a false ((anyM_eq_some_false p l).mp h a ha)]; decide

/-- A list is read if each of its entries is. -/
lemma mapM_eq_some_iff {f : α → Option β} {l : List α} {l' : List β} :
    l.mapM f = some l' ↔ l.map f = l'.map some := by
  induction l generalizing l' with
  | nil => cases l' <;> simp
  | cons a l ih =>
    rw [List.mapM_cons, List.map_cons]
    cases f a with
    | none => cases l' <;> simp
    | some b =>
      cases l' with
      | nil => cases l.mapM f <;> simp
      | cons c l' =>
        rw [List.map_cons, List.cons.injEq, ← ih]
        cases hl : l.mapM f <;> simp

lemma exists_of_mapM {f : α → Option β} {l : List α} {l' : List β} (h : l.mapM f = some l') {b : β}
    (hb : b ∈ l') : ∃ a ∈ l, f a = some b := by
  have hmem : some b ∈ l.map f := by
    rw [mapM_eq_some_iff.mp h]
    exact List.mem_map_of_mem hb
  exact List.mem_map.mp hmem

lemma exists_read_of_mapM {f : α → Option β} {l : List α} {l' : List β} (h : l.mapM f = some l') {a : α}
    (ha : a ∈ l) : ∃ b ∈ l', f a = some b := by
  have hmem : f a ∈ l'.map some := by
    rw [← mapM_eq_some_iff.mp h]
    exact List.mem_map_of_mem ha
  obtain ⟨b, hb, heq⟩ := List.mem_map.mp hmem
  exact ⟨b, hb, heq.symm⟩

lemma eq_nil_iff_of_mapM {f : α → Option β} {l : List α} {l' : List β} (h : l.mapM f = some l') :
    l' = [] ↔ l = [] := by
  have hlen := congrArg List.length (mapM_eq_some_iff.mp h)
  rw [List.length_map, List.length_map] at hlen
  rw [← List.length_eq_zero_iff, ← List.length_eq_zero_iff, hlen]

end GpuReservation.Library
