import Mathlib.Data.List.Forall2
import Mathlib.Data.List.Basic

/-!
# Computations which may raise

When a sequence of steps ends well, and when it ends in an exception, by the steps; and a list read element by
element, in one go or in pages.
-/

namespace GpuReservation.Library

variable {ε α β γ : Type}

lemma bind_eq_ok_iff {x : Except ε α} {f : α → Except ε β} {b : β} :
    (x >>= f) = .ok b ↔ ∃ a, x = .ok a ∧ f a = .ok b := by
  cases x with
  | error e => simp [bind, Except.bind]
  | ok a => simp [bind, Except.bind]

lemma bind_eq_error_iff {x : Except ε α} {f : α → Except ε β} {e : ε} :
    (x >>= f) = .error e ↔ x = .error e ∨ ∃ a, x = .ok a ∧ f a = .error e := by
  cases x with
  | error e' => simp [bind, Except.bind]
  | ok a => simp [bind, Except.bind]

@[simp] lemma ok_bind (a : α) (f : α → Except ε β) : ((.ok a : Except ε α) >>= f) = f a := rfl

@[simp] lemma error_bind (e : ε) (f : α → Except ε β) : ((.error e : Except ε α) >>= f) = .error e := rfl

@[simp] lemma map_ok (f : α → β) (a : α) : (Except.ok a : Except ε α).map f = .ok (f a) := rfl

@[simp] lemma map_error (f : α → β) (e : ε) : (Except.error e : Except ε α).map f = .error e := rfl

@[simp] lemma pure_eq_ok (a : α) : (pure a : Except ε α) = .ok a := rfl

lemma map_eq_error_iff {f : α → β} {x : Except ε α} {e : ε} : x.map f = .error e ↔ x = .error e := by
  cases x <;> simp

section Lists

variable {f : α → Except ε β}

lemma mapM_cons_eq (a : α) (l : List α) :
    (a :: l).mapM f = f a >>= fun b => (l.mapM f).map fun bs => b :: bs := by
  rw [List.mapM_cons]
  cases f a with
  | error e => rfl
  | ok b => cases l.mapM f <;> rfl

lemma mapM_append_eq (l l' : List α) :
    (l ++ l').mapM f = l.mapM f >>= fun bs => (l'.mapM f).map fun bs' => bs ++ bs' := by
  induction l with
  | nil =>
    simp only [List.nil_append, List.mapM_nil, pure_eq_ok, ok_bind]
    cases l'.mapM f <;> rfl
  | cons a l ih =>
    rw [List.cons_append, mapM_cons_eq, mapM_cons_eq, ih]
    cases f a with
    | error e => rfl
    | ok b =>
      cases l.mapM f with
      | error e => rfl
      | ok bs => cases l'.mapM f <;> rfl

lemma length_of_mapM {l : List α} {bs : List β} (h : l.mapM f = .ok bs) : bs.length = l.length := by
  induction l generalizing bs with
  | nil =>
    cases h
    rfl
  | cons a l ih =>
    rw [mapM_cons_eq] at h
    obtain ⟨b, -, hrest⟩ := bind_eq_ok_iff.mp h
    cases hl : l.mapM f with
    | error e => simp [hl] at hrest
    | ok bs' =>
      rw [hl, map_ok] at hrest
      cases hrest
      rw [List.length_cons, List.length_cons, ih hl]

/-- An exception is that of an element. -/
lemma exists_of_mapM_error {l : List α} {e : ε} (h : l.mapM f = .error e) : ∃ a ∈ l, f a = .error e := by
  induction l with
  | nil => cases h
  | cons a l ih =>
    rw [mapM_cons_eq] at h
    rcases bind_eq_error_iff.mp h with ha | ⟨b, -, hrest⟩
    · exact ⟨a, List.mem_cons_self, ha⟩
    · obtain ⟨a', ha', he⟩ := ih (map_eq_error_iff.mp hrest)
      exact ⟨a', List.mem_cons_of_mem a ha', he⟩

/-- Where no element raises, the list is read. -/
lemma mapM_eq_ok_map {l : List α} {g : α → β} (h : ∀ a ∈ l, f a = .ok (g a)) :
    l.mapM f = .ok (l.map g) := by
  induction l with
  | nil => rfl
  | cons a l ih =>
    rw [mapM_cons_eq, h a List.mem_cons_self, ok_bind, ih fun a' ha' => h a' (List.mem_cons_of_mem a ha'),
      map_ok, List.map_cons]

/-- What is read to its end was read element by element. -/
lemma mapM_eq_ok_iff {l : List α} {bs : List β} :
    l.mapM f = .ok bs ↔ List.Forall₂ (fun a b => f a = .ok b) l bs := by
  induction l generalizing bs with
  | nil =>
    rw [List.forall₂_nil_left_iff]
    exact ⟨fun h => by cases h; rfl, fun h => by rw [h]; rfl⟩
  | cons a l ih =>
    rw [mapM_cons_eq, bind_eq_ok_iff, List.forall₂_cons_left_iff]
    constructor
    · rintro ⟨b, hb, hrest⟩
      cases hl : l.mapM f with
      | error e => simp [hl] at hrest
      | ok bs' =>
        rw [hl, map_ok] at hrest
        cases hrest
        exact ⟨b, bs', hb, ih.mp hl, rfl⟩
    · rintro ⟨b, bs', hb, hrest, rfl⟩
      exact ⟨b, hb, by rw [ih.mpr hrest, map_ok]⟩

/-- No element of what is read raises. -/
lemma exists_ok_of_mapM {l : List α} {bs : List β} (h : l.mapM f = .ok bs) {a : α} (ha : a ∈ l) :
    ∃ b, f a = .ok b := by
  have hall := mapM_eq_ok_iff.mp h
  clear h
  induction hall with
  | nil => cases ha
  | cons hb _ ih =>
    rcases List.mem_cons.mp ha with rfl | ha
    · exact ⟨_, hb⟩
    · exact ih ha

/-- A loop of checks is gone through exactly if no element fails its check. -/
lemma forM_eq_ok_iff {check : α → Except ε Unit} {l : List α} :
    l.forM check = .ok () ↔ ∀ a ∈ l, check a = .ok () := by
  induction l with
  | nil => exact ⟨fun _ _ => (absurd · List.not_mem_nil), fun _ => rfl⟩
  | cons a l ih =>
    change (check a >>= fun _ => l.forM check) = .ok () ↔ _
    rw [bind_eq_ok_iff, List.forall_mem_cons]
    exact ⟨fun ⟨_, ha, hl⟩ => ⟨ha, ih.mp hl⟩, fun ⟨ha, hl⟩ => ⟨(), ha, ih.mpr hl⟩⟩

end Lists

end GpuReservation.Library
