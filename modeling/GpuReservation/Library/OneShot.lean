import GpuReservation.Library.Notes
import Mathlib.Data.List.Nodup
import Mathlib.Order.Basic

/-!
# One-shot marks

A program runs again and again, and may break off at any point.  It does something for a key only where the key is
alive and has no mark, and marks it before; a mark is cleared only once its key is dead.  Then it is done at most
once for each key over all the runs.
-/

namespace GpuReservation.Library

variable {C Q K : Type} {A : Q → Type} {α : Type}

/-- Runs of the program, one after another at instants which do not go back, from `c₀` at `t₀`; in
between the others may change the state. -/
inductive Repeated {T : Type} [LE T] (others : C → C → Prop) (ans : ∀ q, A q → Prop)
    (prog : T → Prog C Q A α) (t₀ : T) (c₀ : C) : T → C → List (Event C A) → Prop
  | none : Repeated others ans prog t₀ c₀ t₀ c₀ []
  | next {t t' : T} {c c₁ c' : C} {tr tr' : List (Event C A)}
      (h : Repeated others ans prog t₀ c₀ t c tr) (hle : t ≤ t') (hothers : others c c₁)
      (hran : (prog t').Ran others ans c₁ tr' c') :
      Repeated others ans prog t₀ c₀ t' c' (tr ++ tr')

/-- Runs one after another can be noted. -/
theorem Repeated.noted {T L : Type} [LE T] {others : C → C → Prop} {ans : ∀ q, A q → Prop}
    {prog : T → Prog C Q A α} {prog' : T → Prog (C × L) Q A α} (hprog : ∀ t, (prog' t).Shadows (prog t))
    {t₀ t : T} {c₀ c : C} {tr : List (Event C A)} (h : Repeated others ans prog t₀ c₀ t c tr) (l₀ : L) :
    ∃ tr' l, Repeated (besideNotes others) ans prog' t₀ (c₀, l₀) t (c, l) tr' ∧ callsOf tr' = callsOf tr := by
  induction h with
  | none => exact ⟨[], l₀, .none, rfl⟩
  | @next t t' c c₁ c' tr tr' h hle hothers hran ih =>
    obtain ⟨tr₁, l₁, hrep, hcalls⟩ := ih
    obtain ⟨tr₂, l₂, hran', hcalls'⟩ := (hprog t').ran hran l₁
    have hbeside : besideNotes others (c, l₁) (c₁, l₁) := ⟨hothers, rfl⟩
    exact ⟨tr₁ ++ tr₂, l₂, .next hrep hle hbeside hran', by simp [hcalls, hcalls']⟩

/-- Marks of keys, and the instants at which a key is alive: once dead, it stays dead. -/
structure OneShot (C K T : Type) [LE T] where
  marked : K → C → Bool
  alive : K → T → Prop
  antitone : ∀ k t t', t ≤ t' → alive k t' → alive k t

namespace OneShot

variable {T : Type} [Preorder T] (m : OneShot C K T)

/-- At `t` the marks of living keys are kept. -/
def Keeps (t : T) (c c' : C) : Prop := ∀ k, m.alive k t → m.marked k c = true → m.marked k c' = true

/-- The keys noted so far: each once, and each with its mark as long as it is alive. -/
structure Spent (t : T) (x : C × List K) : Prop where
  once : x.2.Nodup
  spent : ∀ k ∈ x.2, m.alive k t → m.marked k x.1 = true

variable {m} {t t' : T} {c c' : C} {keys : List K}

lemma Spent.later (h : m.Spent t (c, keys)) (hle : t ≤ t') : m.Spent t' (c, keys) :=
  ⟨h.once, fun k hk halive => h.spent k hk (m.antitone k t t' hle halive)⟩

lemma Spent.keeps (h : m.Spent t (c, keys)) (hkeeps : m.Keeps t c c') : m.Spent t (c', keys) :=
  ⟨h.once, fun k hk halive => hkeeps k halive (h.spent k hk halive)⟩

/-- A key which is alive and unmarked was not noted. -/
lemma Spent.fresh (h : m.Spent t (c, keys)) {k : K} (halive : m.alive k t) (hc : m.marked k c = false) :
    k ∉ keys := fun hk => Bool.false_ne_true (hc.symm.trans (h.spent k hk halive))

/-- A key is noted, which was not and is marked. -/
lemma Spent.note (h : m.Spent t (c, keys)) {k : K} (hfresh : k ∉ keys) (hc : m.marked k c = true) :
    m.Spent t (c, keys ++ [k]) := by
  refine ⟨?_, fun k' hk' halive => ?_⟩
  · rw [List.nodup_append]
    refine ⟨h.once, List.nodup_singleton k, fun a ha b hb => ?_⟩
    rw [List.mem_singleton.mp hb]
    rintro rfl
    exact hfresh ha
  · rcases List.mem_append.mp hk' with hk' | hk'
    · exact h.spent k' hk' halive
    · rw [List.mem_singleton.mp hk']
      exact hc

variable {others : C → C → Prop} {ans : ∀ q, A q → Prop}
  (hothers : ∀ t c c', others c c' → m.Keeps t c c')
include hothers

lemma Spent.of_others {x y : C × List K} (h : m.Spent t x) (hxy : besideNotes others x y) : m.Spent t y := by
  obtain ⟨c, keys⟩ := x
  obtain ⟨c', keys'⟩ := y
  obtain ⟨hc, rfl⟩ := hxy
  exact h.keeps (hothers t c c' hc)

/-- Over all the runs each key is noted at most once. -/
theorem spent_of_repeated {prog : T → Prog (C × List K) Q A α}
    (hprog : ∀ t x, m.Spent t x → (prog t).Upholds (besideNotes others) ans (m.Spent t) (fun _ => m.Spent t) x)
    {t₀ : T} {c₀ : C} {x : C × List K} {tr : List (Event (C × List K) A)}
    (h : Repeated (besideNotes others) ans prog t₀ (c₀, []) t x tr) : m.Spent t x := by
  induction h with
  | none => exact ⟨List.nodup_nil, fun k hk => absurd hk List.not_mem_nil⟩
  | next h hle hc hran ih => exact (hprog _ _ ((ih.later hle).of_others hothers hc)).ran (fun _ _ h => h) hran

end OneShot

end GpuReservation.Library
