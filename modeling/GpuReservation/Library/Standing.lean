import GpuReservation.Library.Dict
import Mathlib.Data.List.DropRight

/-!
# Since when a condition stands

At each pass the conditions which stand are noted with the time, unless they are noted already, and those
which no longer stand are struck out.  What is noted of a condition is the first pass of the stretch for
which it has stood without a break.  What was observed last is found by going back over the run.  A flag stands
where it was set and has not been cleared since.
-/

namespace GpuReservation.Library

variable {κ τ : Type*} [DecidableEq κ]

/-- One pass at `t`, at which the conditions `live` stand. -/
def stampStanding (since : Dict κ τ) (live : List κ) (t : τ) : Dict κ τ :=
  (live.foldl (fun d k => if k ∈ d then d else d.set k t) since).filter fun k _ => k ∈ live

/-- The passes, each with its time and the conditions which stand at it. -/
def standing (passes : List (τ × List κ)) : Dict κ τ :=
  passes.foldl (fun since pass => stampStanding since pass.2 pass.1) ∅

/-- The passes since which the condition stands without a break. -/
def unbroken (k : κ) (passes : List (τ × List κ)) : List (τ × List κ) :=
  passes.rtakeWhile fun pass => k ∈ pass.2

lemma get?_setDefault (d : Dict κ τ) (k : κ) (t : τ) (k' : κ) :
    (if k ∈ d then d else d.set k t).get? k' =
      if k' = k then some ((d.get? k).getD t) else d.get? k' := by
  by_cases hmem : k ∈ d
  · obtain ⟨t', hget⟩ := Dict.mem_iff_get?.mp hmem
    rw [if_pos hmem, hget, Option.getD_some]
    split
    · rename_i hk
      rw [hk, hget]
    · rfl
  · rw [if_neg hmem, Dict.get?_eq_none_iff.mpr hmem, Option.getD_none, Dict.get?_set]

lemma get?_foldl_setDefault (live : List κ) (since : Dict κ τ) (t : τ) (k : κ) :
    (live.foldl (fun d k => if k ∈ d then d else d.set k t) since).get? k =
      if k ∈ live then some ((since.get? k).getD t) else since.get? k := by
  induction live generalizing since with
  | nil => simp
  | cons k' live ih =>
    rw [List.foldl_cons, ih, get?_setDefault]
    by_cases hk : k = k'
    · simp [hk]
    · simp [hk]

lemma get?_stampStanding (since : Dict κ τ) (live : List κ) (t : τ) (k : κ) :
    (stampStanding since live t).get? k =
      if k ∈ live then some ((since.get? k).getD t) else none := by
  rw [stampStanding, Dict.get?_filter, get?_foldl_setDefault]
  by_cases hk : k ∈ live
  · simp [hk]
  · cases since.get? k <;> simp [hk]

@[simp] lemma standing_nil : standing ([] : List (τ × List κ)) = ∅ := rfl

lemma standing_concat (passes : List (τ × List κ)) (pass : τ × List κ) :
    standing (passes ++ [pass]) = stampStanding (standing passes) pass.2 pass.1 := by
  simp [standing]

lemma unbroken_concat (k : κ) (passes : List (τ × List κ)) (pass : τ × List κ) :
    unbroken k (passes ++ [pass]) = if k ∈ pass.2 then unbroken k passes ++ [pass] else [] := by
  simp [unbroken, List.rtakeWhile_concat]

/-- What is noted of a condition is the first pass since which it stands. -/
lemma get?_standing (passes : List (τ × List κ)) (k : κ) :
    (standing passes).get? k = (unbroken k passes).head?.map Prod.fst := by
  induction passes using List.reverseRecOn with
  | nil => simp [unbroken]
  | append_singleton passes pass ih =>
    rw [standing_concat, get?_stampStanding, unbroken_concat, ih]
    by_cases hk : k ∈ pass.2
    · rw [if_pos hk, if_pos hk]
      cases unbroken k passes <;> simp
    · simp [hk]

section Latest

variable {α β : Type*}

/-- The last element of a run of which `f` reads something, with what comes before it; the run is given
backwards. -/
def latestOfReversed (f : α → Option β) : List α → Option (List α × β)
  | [] => none
  | a :: earlier =>
    match f a with
    | some b => some (earlier.reverse, b)
    | none => latestOfReversed f earlier

def latest (f : α → Option β) (l : List α) : Option (List α × β) := latestOfReversed f l.reverse

@[simp] lemma latest_nil (f : α → Option β) : latest f [] = none := rfl

lemma latest_concat (f : α → Option β) (l : List α) (a : α) :
    latest f (l ++ [a]) = match f a with | some b => some (l, b) | none => latest f l := by
  rw [latest, List.reverse_append, List.reverse_singleton, List.singleton_append, latestOfReversed,
    List.reverse_reverse]
  rfl

end Latest

section Flag

variable {μ : Type*} (sets : List μ → μ → Prop) (clears : μ → Prop)

/-- An event of the run sets the flag, after those before it, and none after it clears it. -/
def SetSince (events : List μ) : Prop :=
  ∃ before event after, events = before ++ event :: after ∧ sets before event ∧
    ∀ later ∈ after, ¬ clears later

lemma not_setSince_nil : ¬ SetSince sets clears [] := by
  rintro ⟨before, event, after, heq, -⟩
  simp at heq

lemma setSince_concat (events : List μ) (event : μ) : SetSince sets clears (events ++ [event]) ↔
    sets events event ∨ SetSince sets clears events ∧ ¬ clears event := by
  constructor
  · rintro ⟨before, setter, after, heq, hsets, hafter⟩
    induction after using List.reverseRecOn with
    | nil =>
      obtain ⟨rfl, hlast⟩ := List.append_inj' heq rfl
      cases hlast
      exact .inl hsets
    | append_singleton after last _ =>
      rw [← List.cons_append, ← List.append_assoc] at heq
      obtain ⟨rfl, hlast⟩ := List.append_inj' heq rfl
      cases hlast
      refine .inr ⟨⟨before, setter, after, rfl, hsets, fun later hlater => ?_⟩, ?_⟩
      · exact hafter later (List.mem_append_left _ hlater)
      · exact hafter event (List.mem_append_right _ (List.mem_singleton_self event))
  · rintro (hsets | ⟨⟨before, setter, after, rfl, hsets, hafter⟩, hkept⟩)
    · exact ⟨events, event, [], rfl, hsets, by simp⟩
    · refine ⟨before, setter, after ++ [event], by simp, hsets, fun later hlater => ?_⟩
      rcases List.mem_append.mp hlater with hlater | hlater
      · exact hafter later hlater
      · exact List.mem_singleton.mp hlater ▸ hkept

variable {sets clears}

/-- A flag which each event sets, clears or leaves alone. -/
theorem setSince_of_step {flag : List μ → Prop} (hstart : ¬ flag [])
    (hstep : ∀ events event, flag (events ++ [event]) ↔ sets events event ∨ flag events ∧ ¬ clears event)
    (events : List μ) : flag events ↔ SetSince sets clears events := by
  induction events using List.reverseRecOn with
  | nil => exact iff_of_false hstart (not_setSince_nil sets clears)
  | append_singleton events event ih => rw [hstep, setSince_concat, ih]

end Flag

end GpuReservation.Library
