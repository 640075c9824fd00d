import GpuReservation.Library.Dict

/-!
# Merge patches

A patch names the keys it writes, each with a value or with none, which takes the key out.  What a run of
patches leaves under a key is what the last patch that names it says.
-/

namespace GpuReservation.Library

abbrev MergePatch (κ υ : Type*) := Dict κ (Option υ)

namespace Dict

variable {κ υ : Type*} [DecidableEq κ]

/-- One entry of a patch. -/
def mergeEntry (d : Dict κ υ) (e : κ × Option υ) : Dict κ υ :=
  match e.2 with
  | some v => d.set e.1 v
  | none => d.erase e.1

def merge (d : Dict κ υ) (patch : MergePatch κ υ) : Dict κ υ := patch.entries.foldl mergeEntry d

lemma get?_mergeEntry (d : Dict κ υ) (e : κ × Option υ) (k : κ) :
    (d.mergeEntry e).get? k = if e.1 = k then e.2 else d.get? k := by
  obtain ⟨k', v⟩ := e
  cases v with
  | some v => simp only [mergeEntry, get?_set, eq_comm]
  | none => simp only [mergeEntry, get?_erase, eq_comm]

/-- Under a key the patch names stands what it says, under any other what stood there. -/
lemma get?_merge (d : Dict κ υ) (patch : MergePatch κ υ) (k : κ) :
    (d.merge patch).get? k = (patch.get? k).getD (d.get? k) := by
  rw [merge, get?_foldl_entries mergeEntry (fun _ v => v) get?_mergeEntry, Option.map_id']

/-- The last patch which names a key decides. -/
lemma get?_foldl_merge (patches : List (MergePatch κ υ)) (d : Dict κ υ) (k : κ) :
    (patches.foldl merge d).get? k = (patches.reverse.findSome? (·.get? k)).getD (d.get? k) := by
  induction patches generalizing d with
  | nil => rfl
  | cons patch patches ih =>
    rw [List.foldl_cons, ih, get?_merge, List.reverse_cons, List.findSome?_append]
    cases patches.reverse.findSome? (·.get? k) with
    | some v => rfl
    | none => cases hk : patch.get? k <;> simp [hk]

lemma get?_foldl_merge_of_not_mem {patches : List (MergePatch κ υ)} {k : κ}
    (h : ∀ patch ∈ patches, k ∉ patch) (d : Dict κ υ) :
    (patches.foldl merge d).get? k = d.get? k := by
  rw [get?_foldl_merge, List.findSome?_eq_none_iff.mpr, Option.getD_none]
  intro patch hpatch
  exact get?_eq_none_iff.mpr (h patch (List.mem_reverse.mp hpatch))

lemma get?_ofList {l : List (κ × υ)} (hl : (l.map Prod.fst).Nodup) (k : κ) :
    (ofList l).get? k = (l.find? (·.1 = k)).map Prod.snd := by
  have hdict : ofList l = ⟨l, hl⟩ := ofList_entries ⟨l, hl⟩
  rw [hdict]
  rfl

/-- What a patch leaves was written by it, or stood there and is not named. -/
lemma get?_merge_eq_some_iff {d : Dict κ υ} {patch : MergePatch κ υ} {k : κ} {v : υ} :
    (d.merge patch).get? k = some v ↔
      patch.get? k = some (some v) ∨ (patch.get? k = none ∧ d.get? k = some v) := by
  rw [get?_merge]
  cases patch.get? k <;> simp

/-! Keys which stand together. -/

/-- All of the keys are there, or none is. -/
def Whole (keys : List κ) (d : Dict κ υ) : Prop :=
  (∀ k ∈ keys, (d.get? k).isSome) ∨ ∀ k ∈ keys, d.get? k = none

/-- All of the keys are given values, all are taken out, or none is named. -/
def WritesWhole (keys : List κ) (patch : MergePatch κ υ) : Prop :=
  (∀ k ∈ keys, patch.get? k = none) ∨ (∀ k ∈ keys, ∃ v, patch.get? k = some (some v)) ∨
    ∀ k ∈ keys, patch.get? k = some none

lemma whole_merge {keys : List κ} {d : Dict κ υ} {patch : MergePatch κ υ} (h : d.Whole keys)
    (hwrites : WritesWhole keys patch) : (d.merge patch).Whole keys := by
  simp only [Whole, get?_merge]
  rcases hwrites with hnone | hsome | hout
  · rcases h with h | h
    · exact .inl fun k hk => by rw [hnone k hk]; exact h k hk
    · exact .inr fun k hk => by rw [hnone k hk]; exact h k hk
  · refine .inl fun k hk => ?_
    obtain ⟨v, hv⟩ := hsome k hk
    rw [hv]
    rfl
  · exact .inr fun k hk => by rw [hout k hk]; rfl

end Dict

end GpuReservation.Library
