import GpuReservation.Library.Dict
import Mathlib.Data.List.Dedup
import Mathlib.Data.List.MinMax
import Mathlib.Data.List.Sort

/-!
# A calendar of weighted windows

Rows occupy half-open windows; the load at an instant is the weight of the rows open there.
-/

namespace GpuReservation.Library

section Calendar

variable {R T : Type*} [LinearOrder T] (start stop : R → T) (weight : R → Nat)

/-- The weight of the rows open at `t`. -/
def load (rows : List R) (t : T) : Nat :=
  ((rows.filter fun r => start r ≤ t ∧ t < stop r).map weight).sum

/-- The largest load at `first`, or where a row starts after it. -/
def peakLoad (rows : List R) (first : T) : Nat :=
  ((first :: (rows.map start).filter fun t => first < t).map (load start stop weight rows)).foldl
    max 0

variable {start stop weight}

lemma load_eq_sum (rows : List R) (t : T) :
    load start stop weight rows t =
      (rows.map fun r => if start r ≤ t ∧ t < stop r then weight r else 0).sum := by
  rw [load, sum_map_filter]
  simp only [decide_eq_true_eq]

/-- The load only rises where a row starts. -/
lemma load_le_load {rows : List R} {t t' : T} (hle : t' ≤ t)
    (hstarts : ∀ r ∈ rows, start r ≤ t → start r ≤ t') :
    load start stop weight rows t ≤ load start stop weight rows t' := by
  rw [load_eq_sum, load_eq_sum]
  refine List.sum_le_sum fun r hr => ?_
  by_cases hopen : start r ≤ t ∧ t < stop r
  · rw [if_pos hopen, if_pos ⟨hstarts r hr hopen.1, hle.trans_lt hopen.2⟩]
  · rw [if_neg hopen]
    exact Nat.zero_le _

lemma le_foldl_max {l : List Nat} {n : Nat} (h : n ∈ l) (m : Nat) : n ≤ l.foldl max m := by
  have hle : ∀ (l : List Nat) m, m ≤ l.foldl max m := by
    intro l
    induction l with
    | nil => exact fun m => le_refl m
    | cons a l ih => exact fun m => (le_max_left m a).trans (ih (max m a))
  induction l generalizing m with
  | nil => cases h
  | cons a l ih =>
    rcases List.mem_cons.mp h with rfl | h
    · exact (le_max_right m n).trans (hle l _)
    · exact ih h _

variable (start) in
/-- The last of the instants looked at which is not after `t`. -/
lemma exists_last_start (rows : List R) {first t : T} (h : first ≤ t) :
    ∃ t' ∈ first :: (rows.map start).filter fun t => first < t,
      t' ≤ t ∧ ∀ r ∈ rows, start r ≤ t → start r ≤ t' := by
  induction rows with
  | nil => exact ⟨first, List.mem_cons_self, h, nofun⟩
  | cons r rows ih =>
    obtain ⟨t', hmem, hle, hlast⟩ := ih
    by_cases hr : t' < start r ∧ start r ≤ t
    · have hfirst : first ≤ t' := by
        rcases List.mem_cons.mp hmem with rfl | hmem
        · exact le_refl _
        · exact (of_decide_eq_true (List.mem_filter.mp hmem).2).le
      refine ⟨start r, ?_, hr.2, fun r' hr' hstart => ?_⟩
      · refine List.mem_cons_of_mem _ (List.mem_filter.mpr ⟨List.mem_map_of_mem List.mem_cons_self, ?_⟩)
        exact decide_eq_true (hfirst.trans_lt hr.1)
      · rcases List.mem_cons.mp hr' with rfl | hr'
        · exact le_refl _
        · exact (hlast r' hr' hstart).trans hr.1.le
    · refine ⟨t', ?_, hle, fun r' hr' hstart => ?_⟩
      · rcases List.mem_cons.mp hmem with rfl | hmem
        · exact List.mem_cons_self
        · obtain ⟨hstart, hlt⟩ := List.mem_filter.mp hmem
          exact List.mem_cons_of_mem _
            (List.mem_filter.mpr ⟨List.mem_cons_of_mem _ hstart, hlt⟩)
      · rcases List.mem_cons.mp hr' with rfl | hr'
        · by_contra hgt
          exact hr ⟨not_le.mp hgt, hstart⟩
        · exact hlast r' hr' hstart

/-- No load from `first` on is above the peak. -/
theorem load_le_peakLoad (rows : List R) {first t : T} (h : first ≤ t) :
    load start stop weight rows t ≤ peakLoad start stop weight rows first := by
  obtain ⟨t', hmem, hle, hlast⟩ := exists_last_start start rows h
  exact (load_le_load hle hlast).trans (le_foldl_max (List.mem_map_of_mem hmem) 0)

section First

/-- One instant is looked at: a higher load than the best so far is noted. -/
def noteLoad (f : T → Nat) (best : Nat × T) (t : T) : Nat × T :=
  if best.1 < f t then (f t, t) else best

variable (start stop weight) in
/-- The peak from `first` on, with the instant at which it is met first: the instants at which the
load may rise are looked at in order. -/
def firstPeak (rows : List R) (first : T) : Nat × T :=
  ((first :: (rows.map start).filter fun t => first < t).dedup.insertionSort (· ≤ ·)).foldl
    (noteLoad (load start stop weight rows)) (0, first)

/-- What looking at instants leaves noted: the highest load, with the first instant it is met at. -/
structure Noted (f : T → Nat) (best : Nat × T) (l : List T) (noted : Nat × T) : Prop where
  le : best.1 ≤ noted.1
  keeps : noted.1 = best.1 → noted = best
  most : ∀ t ∈ l, f t ≤ noted.1
  met : noted = best ∨ noted.2 ∈ l ∧ f noted.2 = noted.1
  first : ∀ t ∈ l, f t = noted.1 → noted.2 ≤ t

lemma noted_noteLoad {f : T → Nat} {best : Nat × T} {t : T} (h : best.2 ≤ t) :
    Noted f best [t] (noteLoad f best t) := by
  unfold noteLoad
  split
  · rename_i hlt
    refine ⟨hlt.le, fun heq => absurd heq (Nat.ne_of_gt hlt), ?_, .inr ⟨List.mem_singleton_self t, rfl⟩, ?_⟩
    · intro u hu
      rw [List.mem_singleton.mp hu]
    · intro u hu _
      exact le_of_eq (List.mem_singleton.mp hu).symm
  · rename_i hle
    refine ⟨Nat.le_refl _, fun _ => rfl, ?_, .inl rfl, ?_⟩
    · intro u hu
      rw [List.mem_singleton.mp hu]
      exact Nat.le_of_not_lt hle
    · intro u hu _
      rw [List.mem_singleton.mp hu]
      exact h

/-- The instants are in order, and none is before the one noted so far. -/
lemma noted_foldl {f : T → Nat} {l : List T} (hl : l.Pairwise (· ≤ ·)) {best : Nat × T}
    (h : ∀ t ∈ l, best.2 ≤ t) : Noted f best l (l.foldl (noteLoad f) best) := by
  induction l generalizing best with
  | nil => exact ⟨Nat.le_refl _, fun _ => rfl, nofun, .inl rfl, nofun⟩
  | cons t l ih =>
    obtain ⟨hhead, htail⟩ := List.pairwise_cons.mp hl
    have hone := noted_noteLoad (f := f) (h t List.mem_cons_self)
    have hnext : ∀ u ∈ l, (noteLoad f best t).2 ≤ u := by
      intro u hu
      rcases hone.met with heq | ⟨hin, -⟩
      · rw [heq]
        exact h u (List.mem_cons_of_mem t hu)
      · rw [List.mem_singleton.mp hin]
        exact hhead u hu
    have hrest := ih htail hnext
    rw [List.foldl_cons]
    refine ⟨hone.le.trans hrest.le, fun heq => ?_, fun u hu => ?_, ?_, fun u hu heq => ?_⟩
    · have hfirst := hone.le
      have hthen := hrest.le
      have hsame := hrest.keeps (by omega)
      rw [hsame] at heq ⊢
      exact hone.keeps heq
    · rcases List.mem_cons.mp hu with rfl | hu
      · exact (hone.most u (List.mem_singleton_self u)).trans hrest.le
      · exact hrest.most u hu
    · rcases hrest.met with heq | ⟨hin, hat⟩
      · rw [heq]
        rcases hone.met with heq | ⟨hin, hat⟩
        · exact .inl heq
        · exact .inr ⟨List.mem_cons.mpr (.inl (List.mem_singleton.mp hin)), hat⟩
      · exact .inr ⟨List.mem_cons_of_mem t hin, hat⟩
    · rcases List.mem_cons.mp hu with rfl | hu
      · -- nothing after it is higher, so what was noted then stays
        have hmost := hone.most u (List.mem_singleton_self u)
        have hthen := hrest.le
        have hsame := hrest.keeps (by omega)
        rw [hsame] at heq ⊢
        exact hone.first u (List.mem_singleton_self u) heq
      · exact hrest.first u hu heq

variable (start stop weight) in
/-- The peak which is found is the highest load there is, met first at the instant found. -/
theorem firstPeak_spec (rows : List R) (first : T) :
    (∀ t, first ≤ t → load start stop weight rows t ≤ (firstPeak start stop weight rows first).1) ∧
      load start stop weight rows (firstPeak start stop weight rows first).2 =
        (firstPeak start stop weight rows first).1 ∧
      (∀ t, first ≤ t →
        load start stop weight rows t = (firstPeak start stop weight rows first).1 →
          (firstPeak start stop weight rows first).2 ≤ t) ∧
      (firstPeak start stop weight rows first).2 ∈
        first :: (rows.map start).filter fun t => first < t := by
  have hmem : ∀ t, t ∈ (first :: (rows.map start).filter fun t => first < t).dedup.insertionSort
      (· ≤ ·) ↔ t ∈ first :: (rows.map start).filter fun t => first < t := by
    intro t
    rw [List.mem_insertionSort, List.mem_dedup]
  have hafter : ∀ t ∈ (first :: (rows.map start).filter fun t => first < t).dedup.insertionSort
      (· ≤ ·), first ≤ t := by
    intro t ht
    rcases List.mem_cons.mp ((hmem t).mp ht) with rfl | ht
    · exact le_refl t
    · exact (of_decide_eq_true (List.mem_filter.mp ht).2).le
  have hnoted : Noted (load start stop weight rows) (0, first) _ (firstPeak start stop weight rows first) :=
    noted_foldl (List.pairwise_insertionSort (· ≤ ·) _) hafter
  obtain ⟨hle, -, hmost, hmet, hfirst⟩ := hnoted
  change 0 ≤ (firstPeak start stop weight rows first).1 at hle
  have hnone := hmost first ((hmem first).mpr List.mem_cons_self)
  refine ⟨fun t ht => ?_, ?_, fun t ht heq => ?_, ?_⟩
  · obtain ⟨t', hin, hbefore, hlast⟩ := exists_last_start start rows ht
    exact (load_le_load hbefore hlast).trans (hmost t' ((hmem t').mpr hin))
  · rcases hmet with heq | ⟨-, hat⟩
    · rw [heq] at hnone ⊢
      exact Nat.le_zero.mp hnone
    · exact hat
  · obtain ⟨t', hin, hbefore, hlast⟩ := exists_last_start start rows ht
    have hrises : load start stop weight rows t ≤ load start stop weight rows t' :=
      load_le_load hbefore hlast
    have hbound := hmost t' ((hmem t').mpr hin)
    change _ ≤ (firstPeak start stop weight rows first).1 at hbound
    exact (hfirst t' ((hmem t').mpr hin) (by omega)).trans hbefore
  · rcases hmet with heq | ⟨hin, -⟩
    · rw [heq]
      exact List.mem_cons_self
    · exact (hmem _).mp hin

end First

end Calendar

end GpuReservation.Library
