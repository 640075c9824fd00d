import GpuReservation.Library.Dict
import Mathlib.Data.List.Sort
import Mathlib.Data.String.Basic

/-!
# The entries of a dictionary in the order of their keys

What is listed in the order of the keys does not depend on the order in which the keys were set, and the
first so many are told by how many keys come before.
-/

namespace GpuReservation.Library

variable {κ υ : Type*} [LinearOrder κ]

/-- Of a list in strict order, the first so many. -/
lemma mem_take_iff_countP {α : Type*} {key : α → κ} {l : List α}
    (hl : l.Pairwise fun a b => key a < key b) {n : Nat} {e : α} :
    e ∈ l.take n ↔ e ∈ l ∧ l.countP (fun a => key a < key e) < n := by
  induction l generalizing n with
  | nil => simp
  | cons a l ih =>
    obtain ⟨hfirst, hl⟩ := List.pairwise_cons.mp hl
    cases n with
    | zero => simp
    | succ n =>
      rw [List.take_succ_cons, List.mem_cons, List.mem_cons, ih hl, List.countP_cons]
      by_cases he : e = a
      · have hnone : l.countP (fun b => key b < key e) = 0 := by
          rw [List.countP_eq_zero]
          intro b hb
          simpa [he] using (hfirst b hb).le
        simp [he ▸ hnone, he]
      · have hbefore : e ∈ l → key a < key e := fun hmem => hfirst e hmem
        constructor
        · rintro (h | ⟨hmem, hcount⟩)
          · exact absurd h he
          · exact ⟨.inr hmem, by simp [hbefore hmem, hcount]⟩
        · rintro ⟨h | hmem, hcount⟩
          · exact absurd h he
          · refine .inr ⟨hmem, ?_⟩
            rw [if_pos (by simpa using hbefore hmem)] at hcount
            omega

/-- What is sorted by distinct keys is in strict order. -/
lemma pairwise_insertionSort_lt {α : Type*} {key : α → κ} {l : List α} (hl : (l.map key).Nodup) :
    (l.insertionSort fun a b => key a ≤ key b).Pairwise fun a b => key a < key b := by
  have hle : (l.insertionSort fun a b => key a ≤ key b).Pairwise fun a b => key a ≤ key b :=
    letI : Std.Total fun a b => key a ≤ key b := ⟨fun a b => le_total (key a) (key b)⟩
    letI : IsTrans α fun a b => key a ≤ key b := ⟨fun a b c => le_trans⟩
    List.pairwise_insertionSort _ l
  have hperm := List.perm_insertionSort (fun a b => key a ≤ key b) l
  have hne : (l.insertionSort fun a b => key a ≤ key b).Pairwise fun a b => key a ≠ key b :=
    List.pairwise_map.mp ((hperm.map key).nodup_iff.mpr hl)
  exact hle.imp₂ (fun a b h hne => lt_of_le_of_ne h hne) hne

namespace Dict

def sortedEntries (d : Dict κ υ) : List (κ × υ) := d.entries.insertionSort fun a b => a.1 ≤ b.1

lemma mem_sortedEntries {d : Dict κ υ} {k : κ} {v : υ} :
    (k, v) ∈ d.sortedEntries ↔ d.get? k = some v := by
  rw [sortedEntries, List.mem_insertionSort, get?_eq_some_iff]

lemma pairwise_sortedEntries (d : Dict κ υ) : d.sortedEntries.Pairwise fun a b => a.1 < b.1 :=
  pairwise_insertionSort_lt d.nodup

end Dict

end GpuReservation.Library
