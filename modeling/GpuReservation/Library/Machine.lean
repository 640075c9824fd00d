import Mathlib.Data.List.Basic

/-!
# Runs of a state machine

The operations of a run are carried out one after another.
-/

namespace GpuReservation.Library

variable {S O : Type*} (step : S → O → S)

/-- The property holds of every state of the run, the first included. -/
def throughout (P : S → Prop) : S → List O → Prop
  | s, [] => P s
  | s, o :: os => P s ∧ throughout P (step s o) os

/-- Every operation of the run meets the condition at the state it is carried out at. -/
def respects (C : S → O → Prop) : S → List O → Prop
  | _, [] => True
  | s, o :: os => C s o ∧ respects C (step s o) os

instance throughout.decidable (P : S → Prop) [DecidablePred P] :
    ∀ s os, Decidable (throughout step P s os)
  | s, [] => inferInstanceAs (Decidable (P s))
  | s, o :: os =>
    letI := throughout.decidable P (step s o) os
    inferInstanceAs (Decidable (P s ∧ _))

instance respects.decidable (C : S → O → Prop) [∀ s o, Decidable (C s o)] :
    ∀ s os, Decidable (respects step C s os)
  | _, [] => isTrue trivial
  | s, o :: os =>
    letI := respects.decidable C (step s o) os
    inferInstanceAs (Decidable (C s o ∧ _))

variable {step} {P Q : S → Prop} {C D : S → O → Prop} {s : S} {os : List O}

lemma throughout_head (h : throughout step P s os) : P s := by
  cases os with
  | nil => exact h
  | cons o os => exact h.1

lemma throughout_last (h : throughout step P s os) : P (os.foldl step s) := by
  induction os generalizing s with
  | nil => exact h
  | cons o os ih => exact ih h.2

lemma throughout_append {os' : List O} : throughout step P s (os ++ os') ↔
    throughout step P s os ∧ throughout step P (os.foldl step s) os' := by
  induction os generalizing s with
  | nil => exact ⟨fun h => ⟨(throughout_head h : P s), h⟩, fun h => h.2⟩
  | cons o os ih =>
    rw [List.cons_append, List.foldl_cons, throughout, throughout, ih, and_assoc]

lemma throughout_mono (hPQ : ∀ s, P s → Q s) (h : throughout step P s os) :
    throughout step Q s os := by
  induction os generalizing s with
  | nil => exact hPQ s h
  | cons o os ih => exact ⟨hPQ s h.1, ih h.2⟩

lemma respects_append {os' : List O} : respects step C s (os ++ os') ↔
    respects step C s os ∧ respects step C (os.foldl step s) os' := by
  induction os generalizing s with
  | nil => exact (and_iff_right trivial).symm
  | cons o os ih => rw [List.cons_append, List.foldl_cons, respects, respects, ih, and_assoc]

lemma respects_and : respects step (fun s o => C s o ∧ D s o) s os ↔
    respects step C s os ∧ respects step D s os := by
  induction os generalizing s with
  | nil => exact (and_iff_right trivial).symm
  | cons o os ih => rw [respects, respects, respects, ih, and_and_and_comm]

lemma respects_of_forall (h : ∀ o ∈ os, ∀ s, C s o) : respects step C s os := by
  induction os generalizing s with
  | nil => trivial
  | cons o os ih => exact ⟨h o List.mem_cons_self s, ih fun o' ho' => h o' (List.mem_cons_of_mem o ho')⟩

/-- What every operation which meets the condition keeps holds throughout every run whose
operations meet it. -/
theorem throughout_of_respects (hstep : ∀ s o, P s → C s o → P (step s o)) (hs : P s)
    (hos : respects step C s os) : throughout step P s os := by
  induction os generalizing s with
  | nil => exact hs
  | cons o os ih => exact ⟨hs, ih (hstep s o hs hos.1) hos.2⟩

/-- What every operation ensures, of a state the run comes to, every operation of the run ensures. -/
theorem respects_of_respects (hstep : ∀ s o, P s → C s o → P (step s o) ∧ D s o) (hs : P s)
    (hos : respects step C s os) : respects step D s os := by
  induction os generalizing s with
  | nil => trivial
  | cons o os ih =>
    obtain ⟨hnext, ho⟩ := hstep s o hs hos.1
    exact ⟨ho, ih hnext hos.2⟩

/-- Where the operations which meet the condition keep an invariant, and the others break the property it
is for, the property holds throughout a run exactly if all its operations meet the condition. -/
theorem throughout_iff_respects_of (hinv : ∀ s, P s → Q s)
    (hkeep : ∀ s o, P s → D s o → C s o → P (step s o))
    (hbreak : ∀ s o, P s → D s o → ¬ C s o → ¬ Q (step s o)) (hs : P s)
    (hos : respects step D s os) : throughout step Q s os ↔ respects step C s os := by
  induction os generalizing s with
  | nil => exact iff_of_true (hinv s hs) trivial
  | cons o os ih =>
    by_cases ho : C s o
    · exact and_congr (iff_of_true (hinv s hs) ho) (ih (hkeep s o hs hos.1 ho) hos.2)
    · refine iff_of_false ?_ fun h => ho h.1
      rintro ⟨-, hrest⟩
      exact hbreak s o hs hos.1 ho (throughout_head hrest)

/-- Where an operation keeps the property exactly if it meets the condition, the property holds
throughout a run exactly if all its operations meet it. -/
theorem throughout_iff_respects (hstep : ∀ s o, P s → D s o → (P (step s o) ↔ C s o)) (hs : P s)
    (hos : respects step D s os) : throughout step P s os ↔ respects step C s os :=
  throughout_iff_respects_of (fun _ h => h) (fun s o h ho => (hstep s o h ho).mpr)
    (fun s o h ho => mt (hstep s o h ho).mp) hs hos

end GpuReservation.Library
