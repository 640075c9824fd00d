import Mathlib.Data.List.Basic
import Mathlib.Order.Basic

/-!
# An event log

Events in the order of their versions, and what a reader sees who goes on from a version.
-/

namespace GpuReservation.Library

structure EventLog (α : Type*) where
  entries : List (Nat × α) := []
  head : Nat := 0
  sorted : entries.Pairwise fun e e' => e.1 < e'.1
  bounded : ∀ e ∈ entries, e.1 ≤ head

namespace EventLog

variable {α : Type*}

def empty : EventLog α where
  sorted := List.Pairwise.nil
  bounded := by simp

/-- An event at a version above all others, by `gap` above the next one. -/
def append (l : EventLog α) (gap : Nat) (a : α) : EventLog α where
  entries := l.entries ++ [(l.head + 1 + gap, a)]
  head := l.head + 1 + gap
  sorted := by
    rw [List.pairwise_append]
    refine ⟨l.sorted, List.pairwise_singleton _ _, fun e he e' he' => ?_⟩
    obtain rfl := List.mem_singleton.mp he'
    have hle := l.bounded e he
    dsimp only
    omega
  bounded := by
    intro e he
    rcases List.mem_append.mp he with he | he
    · have hle := l.bounded e he
      omega
    · obtain rfl := List.mem_singleton.mp he
      exact Nat.le_refl _

/-- Versions are given to something else. -/
def skip (l : EventLog α) (n : Nat) : EventLog α where
  entries := l.entries
  head := l.head + n
  sorted := l.sorted
  bounded := fun e he => Nat.le_trans (l.bounded e he) (Nat.le_add_right _ n)

variable (l : EventLog α)

/-- The events after one version and up to another. -/
def between (v v' : Nat) : List (Nat × α) := l.entries.filter fun e => v < e.1 ∧ e.1 ≤ v'

def upTo (v : Nat) : List (Nat × α) := l.entries.filter fun e => e.1 ≤ v

/-- The first event after a version. -/
def next (v : Nat) : Option (Nat × α) := l.entries.find? fun e => v < e.1

@[simp] lemma append_head (gap : Nat) (a : α) : (l.append gap a).head = l.head + 1 + gap := rfl

@[simp] lemma skip_head (n : Nat) : (l.skip n).head = l.head + n := rfl

@[simp] lemma between_skip (n v v' : Nat) : (l.skip n).between v v' = l.between v v' := rfl

/-- What is already in the log is there for good. -/
lemma between_append {v v' : Nat} (h : v' ≤ l.head) (gap : Nat) (a : α) :
    (l.append gap a).between v v' = l.between v v' := by
  have hlater : ¬ l.head + 1 + gap ≤ v' := by omega
  simp [between, append, hlater]

@[simp] lemma upTo_skip (n v : Nat) : (l.skip n).upTo v = l.upTo v := rfl

lemma upTo_append {v : Nat} (h : v ≤ l.head) (gap : Nat) (a : α) :
    (l.append gap a).upTo v = l.upTo v := by
  have hlater : ¬ l.head + 1 + gap ≤ v := by omega
  simp [upTo, append, hlater]

lemma between_self (v : Nat) : l.between v v = [] := by
  rw [between, List.filter_eq_nil_iff]
  intro e _
  simp

variable {l}

/-- A list in order is taken apart at a version. -/
lemma filter_split {β : Type*} {r : List β} {key : β → Nat} (hr : r.Pairwise fun a b => key a < key b)
    (p : β → Bool) (v : Nat) :
    r.filter p = r.filter (fun e => p e && key e ≤ v) ++ r.filter (fun e => p e && v < key e) := by
  induction r with
  | nil => rfl
  | cons a r ih =>
    obtain ⟨hhead, hr⟩ := List.pairwise_cons.mp hr
    rw [List.filter_cons, List.filter_cons, List.filter_cons, ih hr]
    by_cases hlow : key a ≤ v
    · have hnot : ¬ v < key a := by omega
      cases hp : p a <;> simp [hlow, hnot]
    · -- from here on all are above the version
      have hnone : r.filter (fun e => p e && key e ≤ v) = [] := by
        rw [List.filter_eq_nil_iff]
        intro b hb
        have hlt := hhead b hb
        have habove : ¬ key b ≤ v := by omega
        simp [habove]
      have hhigh : v < key a := by omega
      rw [hnone]
      cases hp : p a <;> simp [hlow, hhigh]

lemma between_split {v v' v'' : Nat} (h : v ≤ v') (h' : v' ≤ v'') :
    l.between v v'' = l.between v v' ++ l.between v' v'' := by
  unfold between
  rw [filter_split l.sorted _ v']
  congr 1 <;> refine List.filter_congr fun e _ => ?_
  · rw [← Bool.decide_and, decide_eq_decide]
    omega
  · rw [← Bool.decide_and, decide_eq_decide]
    omega

lemma upTo_split {v v' : Nat} (h : v ≤ v') : l.upTo v' = l.upTo v ++ l.between v v' := by
  unfold upTo between
  rw [filter_split l.sorted _ v]
  congr 1 <;> refine List.filter_congr fun e _ => ?_
  · rw [← Bool.decide_and, decide_eq_decide]
    omega
  · rw [← Bool.decide_and, decide_eq_decide]
    omega

lemma next_spec {v : Nat} {e : Nat × α} (h : l.next v = some e) :
    v < e.1 ∧ e.1 ≤ l.head ∧ l.between v e.1 = [e] := by
  unfold next at h
  rw [List.find?_eq_some_iff_append] at h
  obtain ⟨hlt, before, after, hl, hbefore⟩ := h
  rw [decide_eq_true_eq] at hlt
  have hmem : e ∈ l.entries := by
    rw [hl]
    exact List.mem_append_right _ List.mem_cons_self
  refine ⟨hlt, l.bounded e hmem, ?_⟩
  have hsorted := l.sorted
  rw [hl, List.pairwise_append, List.pairwise_cons] at hsorted
  unfold between
  rw [hl, List.filter_append, List.filter_cons]
  have hnone : before.filter (fun d => v < d.1 ∧ d.1 ≤ e.1) = [] := by
    rw [List.filter_eq_nil_iff]
    intro d hd
    have hnot := hbefore d hd
    simp only [Bool.not_eq_true', decide_eq_false_iff_not] at hnot
    simp [hnot]
  have hlast : after.filter (fun d => v < d.1 ∧ d.1 ≤ e.1) = [] := by
    rw [List.filter_eq_nil_iff]
    intro d hd
    have hgt := hsorted.2.1.1 d hd
    simp only [decide_eq_true_eq, not_and]
    omega
  rw [hnone, hlast]
  simp [hlt]

end EventLog

end GpuReservation.Library
