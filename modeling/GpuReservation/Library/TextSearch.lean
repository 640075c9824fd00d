import Mathlib.Data.List.Infix

/-!
# What follows a marker

The search for a marker in a text, from the left and without overlap, and what stands after it.
-/

namespace GpuReservation.Library

variable {α : Type*} [DecidableEq α]

/-- What follows the marker, each time as far as `p` lets it; where nothing follows there is no match.  So
many symbols are still part of the last match. -/
def findAfter (marker : List α) (p : α → Bool) : Nat → List α → List (List α)
  | _, [] => []
  | n + 1, _ :: l => findAfter marker p n l
  | 0, a :: l =>
    let found := ((a :: l).drop marker.length).takeWhile p
    if marker <+: a :: l ∧ found ≠ [] then
      found :: findAfter marker p (marker.length + found.length - 1) l
    else findAfter marker p 0 l

variable {marker : List α} {p : α → Bool}

/-- What is found stands after the marker. -/
lemma infix_of_mem_findAfter {n : Nat} {l found : List α} (h : found ∈ findAfter marker p n l) :
    marker ++ found <:+: l ∧ found ≠ [] ∧ ∀ a ∈ found, p a := by
  induction l generalizing n with
  | nil => simp [findAfter] at h
  | cons a l ih =>
    have hlater : ∀ n, found ∈ findAfter marker p n l →
        marker ++ found <:+: a :: l ∧ found ≠ [] ∧ ∀ a ∈ found, p a := fun n hn =>
      ⟨(ih hn).1.trans (List.infix_cons (List.infix_refl l)), (ih hn).2⟩
    cases n with
    | succ n => exact hlater n h
    | zero =>
      rw [findAfter] at h
      split at h
      · rename_i hfound
        rcases List.mem_cons.mp h with rfl | h
        · refine ⟨?_, hfound.2, List.all_eq_true.mp List.all_takeWhile⟩
          obtain ⟨rest, hrest⟩ := hfound.1
          have hdrop : (a :: l).drop marker.length = rest := by
            rw [← hrest, List.drop_left]
          rw [hdrop] at hfound ⊢
          refine ⟨[], rest.dropWhile p, ?_⟩
          rw [List.nil_append, List.append_assoc, List.takeWhile_append_dropWhile, hrest]
        · exact hlater _ h
      · exact hlater 0 h

/-- A marker which something follows is not overlooked. -/
lemma findAfter_ne_nil {l : List α} {a : α} (ha : p a) (h : marker ++ [a] <:+: l) :
    findAfter marker p 0 l ≠ [] := by
  induction l with
  | nil =>
    have hnil := List.infix_nil.mp h
    simp at hnil
  | cons b l ih =>
    rw [findAfter]
    split
    · exact List.cons_ne_nil _ _
    · rename_i hnot
      rcases List.infix_cons_iff.mp h with hpre | hlater
      · refine absurd ⟨(List.prefix_append marker [a]).trans hpre, ?_⟩ hnot
        obtain ⟨rest, hrest⟩ := hpre
        have hdrop : (b :: l).drop marker.length = a :: rest := by
          rw [← hrest, List.append_assoc, List.drop_left, List.singleton_append]
        simp [hdrop, ha]
      · exact ih hlater

end GpuReservation.Library
