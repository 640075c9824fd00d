import Mathlib.Data.List.Basic

/-!
# Objects with an identity

A heap of cells: allocation returns a new reference, and writing through one reference is seen
through every copy of it.
-/

namespace GpuReservation.Library

abbrev Ref := Nat

structure Heap (α : Type*) where
  cells : List α
  deriving DecidableEq

namespace Heap

variable {α : Type*}

instance : EmptyCollection (Heap α) := ⟨⟨[]⟩⟩

instance : Inhabited (Heap α) := ⟨∅⟩

def get? (h : Heap α) (ref : Ref) : Option α := h.cells[ref]?

def read [Inhabited α] (h : Heap α) (ref : Ref) : α := (h.get? ref).getD default

/-- The reference the next allocation returns. -/
def next (h : Heap α) : Ref := h.cells.length

def alloc (h : Heap α) (a : α) : Heap α := ⟨h.cells ++ [a]⟩

def modify (h : Heap α) (ref : Ref) (f : α → α) : Heap α := ⟨h.cells.modify ref f⟩

@[simp] lemma get?_alloc_next (h : Heap α) (a : α) : (h.alloc a).get? h.next = some a := by
  simp [get?, alloc, next]

lemma get?_alloc_of_some {h : Heap α} {ref : Ref} {b : α} (hb : h.get? ref = some b) (a : α) :
    (h.alloc a).get? ref = some b := by
  have hlt : ref < h.cells.length := (List.getElem?_eq_some_iff.mp hb).1
  simpa [get?, alloc, List.getElem?_append_left hlt] using hb

lemma get?_lt_next {h : Heap α} {ref : Ref} {b : α} (hb : h.get? ref = some b) : ref < h.next :=
  (List.getElem?_eq_some_iff.mp hb).1

lemma get?_alloc (h : Heap α) (a : α) (ref : Ref) :
    (h.alloc a).get? ref = if ref = h.next then some a else h.get? ref := by
  by_cases hr : ref = h.next
  · simp [hr]
  · rw [if_neg hr]
    rcases Nat.lt_or_gt_of_ne hr with hlt | hgt
    · simp [get?, alloc, List.getElem?_append_left hlt]
    · have hgt : h.cells.length < ref := hgt
      have hnew : (h.alloc a).get? ref = none :=
        List.getElem?_eq_none (by rw [alloc, List.length_append]; exact hgt)
      have hold : h.get? ref = none := List.getElem?_eq_none (Nat.le_of_lt hgt)
      rw [hnew, hold]

lemma get?_modify (h : Heap α) (ref : Ref) (f : α → α) (ref' : Ref) :
    (h.modify ref f).get? ref' = if ref = ref' then (h.get? ref').map f else h.get? ref' := by
  simp only [get?, modify, List.getElem?_modify]
  by_cases hr : ref = ref' <;> simp [hr]

@[simp] lemma next_modify (h : Heap α) (ref : Ref) (f : α → α) :
    (h.modify ref f).next = h.next := by
  simp [next, modify]

@[simp] lemma next_alloc (h : Heap α) (a : α) : (h.alloc a).next = h.next + 1 := by
  simp [next, alloc]

/-- A new cell, changed at once, is the changed cell made new. -/
lemma modify_alloc_next (h : Heap α) (a : α) (f : α → α) :
    (h.alloc a).modify h.next f = h.alloc (f a) := by
  simp only [alloc, modify, next, mk.injEq]
  induction h.cells with
  | nil => rfl
  | cons b cells ih =>
    rw [List.cons_append, List.length_cons, List.modify_succ_cons, ih, List.cons_append]

lemma read_eq_of_get? [Inhabited α] {h : Heap α} {ref : Ref} {a : α} (ha : h.get? ref = some a) :
    h.read ref = a := by
  rw [read, ha, Option.getD_some]

lemma read_alloc_of_lt [Inhabited α] {h : Heap α} {ref : Ref} (hr : ref < h.next) (a : α) :
    (h.alloc a).read ref = h.read ref := by
  rw [read, read, get?_alloc, if_neg (Nat.ne_of_lt hr)]

@[simp] lemma read_alloc_next [Inhabited α] (h : Heap α) (a : α) : (h.alloc a).read h.next = a := by
  rw [read, get?_alloc_next, Option.getD_some]

/-- A change which is the same made twice is made once to each cell of a list. -/
lemma get?_foldl_modify {f : α → α} (hf : ∀ a, f (f a) = f a) (l : List Ref) (h : Heap α)
    (ref : Ref) :
    (l.foldl (fun h r => h.modify r f) h).get? ref =
      if ref ∈ l then (h.get? ref).map f else h.get? ref := by
  induction l generalizing h with
  | nil => rfl
  | cons r l ih =>
    rw [List.foldl_cons, ih, get?_modify]
    by_cases hr : r = ref
    · subst hr
      cases h.get? r <;> simp [hf]
    · simp [hr, Ne.symm hr]

/-- A field which `f` leaves alone is read as it was. -/
lemma read_modify_field [Inhabited α] {β : Type*} (field : α → β) {f : α → α}
    (hf : ∀ a, field (f a) = field a) (h : Heap α) (ref ref' : Ref) :
    field ((h.modify ref f).read ref') = field (h.read ref') := by
  rw [read, read, get?_modify]
  split
  · cases h.get? ref' with
    | none => rfl
    | some a => exact hf a
  · rfl

/-- What `f` keeps true of an object stays true of what is read. -/
lemma read_modify_of [Inhabited α] {P : α → Prop} {f : α → α} (hf : ∀ a, P a → P (f a)) (h : Heap α)
    (ref ref' : Ref) (hread : P (h.read ref')) : P ((h.modify ref f).read ref') := by
  rw [read, get?_modify]
  rw [read] at hread
  split
  · cases hget : h.get? ref' with
    | none => rwa [hget] at hread
    | some a =>
      rw [hget] at hread
      exact hf a hread
  · exact hread

/-- Every object is still there, and `f` of it is what it was. -/
def Keeps {β : Type*} (f : α → β) (h h' : Heap α) : Prop :=
  ∀ ref a, h.get? ref = some a → ∃ a', h'.get? ref = some a' ∧ f a' = f a

namespace Keeps

variable {β : Type*} {f : α → β} {h h' h'' : Heap α}

lemma refl (h : Heap α) : Keeps f h h := fun _ a ha => ⟨a, ha, rfl⟩

lemma trans (h₁ : Keeps f h h') (h₂ : Keeps f h' h'') : Keeps f h h'' := by
  intro ref a ha
  obtain ⟨a', ha', heq⟩ := h₁ ref a ha
  obtain ⟨a'', ha'', heq'⟩ := h₂ ref a' ha'
  exact ⟨a'', ha'', heq'.trans heq⟩

lemma alloc (h : Heap α) (a : α) : Keeps f h (h.alloc a) :=
  fun _ b hb => ⟨b, get?_alloc_of_some hb a, rfl⟩

lemma modify {g : α → α} (hg : ∀ a, f (g a) = f a) (h : Heap α) (ref : Ref) :
    Keeps f h (h.modify ref g) := by
  intro ref' a ha
  rw [get?_modify, ha]
  split
  · exact ⟨g a, rfl, hg a⟩
  · exact ⟨a, rfl, rfl⟩

lemma foldl_modify {g : α → α} (hg : ∀ a, f (g a) = f a) (l : List Ref) (h : Heap α) :
    Keeps f h (l.foldl (fun h ref => h.modify ref g) h) := by
  induction l generalizing h with
  | nil => exact refl h
  | cons ref l ih => exact (modify hg h ref).trans (ih _)

end Keeps

end Heap

end GpuReservation.Library
