import Mathlib.Data.Option.Basic

/-!
# A versioned value

A value which is created once and replaced only under the version it was read at.  What was read
is what is replaced, however late the update arrives and however often it is sent.
-/

namespace GpuReservation.Library

structure Versioned (V : Type) where
  value : Option V
  version : Nat
  deriving DecidableEq

inductive Update (V : Type)
  | create (v : V)
  | replace (version : Option Nat) (v : V)
  deriving DecidableEq

namespace Update

variable {V : Type}

def value : Update V → V
  | create v => v
  | replace _ v => v

/-- The version the update was made for has been there. -/
def NotAhead (u : Update V) (latest : Nat) : Prop := ∀ n v, u = replace (some n) v → n ≤ latest

end Update

namespace Versioned

variable {V : Type} {c c' c'' : Versioned V} {u : Update V}

def accepts (c : Versioned V) : Update V → Bool
  | .create _ => c.value.isNone
  | .replace n _ => c.value.isSome && n == some c.version

/-- The value after the update, which changes nothing where it is not accepted. -/
def update (c : Versioned V) (u : Update V) : Versioned V :=
  if c.accepts u then ⟨some u.value, c.version + 1⟩ else c

/-- The value still is what the update was made for. -/
def Fits (c : Versioned V) : Update V → Prop
  | .create _ => c.value = none
  | .replace n _ => n = some c.version

lemma fits_of_accepts (h : c.accepts u = true) : c.Fits u := by
  cases u with
  | create v => exact Option.isNone_iff_eq_none.mp h
  | replace n v => exact beq_iff_eq.mp (Bool.and_eq_true_iff.mp h).2

lemma update_accepted (h : c.accepts u = true) : c.update u = ⟨some u.value, c.version + 1⟩ := by
  unfold update
  rw [if_pos h]

lemma update_rejected (h : c.accepts u = false) : c.update u = c := by
  unfold update
  rw [if_neg (by rw [h]; exact Bool.false_ne_true)]

/-- Nothing happened, or there is a new value under a later version. -/
def Evolves (c c' : Versioned V) : Prop := c' = c ∨ c.version < c'.version ∧ c'.value.isSome

lemma Evolves.refl (c : Versioned V) : c.Evolves c := .inl rfl

lemma Evolves.trans (h : c.Evolves c') (h' : c'.Evolves c'') : c.Evolves c'' := by
  cases h' with
  | inl heq => exact heq ▸ h
  | inr hlater' =>
    cases h with
    | inl heq => exact heq ▸ .inr hlater'
    | inr hlater => exact .inr ⟨Nat.lt_trans hlater.1 hlater'.1, hlater'.2⟩

lemma Evolves.version_le (h : c.Evolves c') : c.version ≤ c'.version := by
  cases h with
  | inl heq => exact heq ▸ Nat.le_refl _
  | inr hlater => omega

/-- A version has one value. -/
lemma Evolves.eq_of_version (h : c.Evolves c') (hv : c'.version ≤ c.version) : c' = c := by
  cases h with
  | inl heq => exact heq
  | inr hlater => omega

theorem update_evolves (c : Versioned V) (u : Update V) : c.Evolves (c.update u) := by
  cases h : c.accepts u with
  | false => exact .inl (update_rejected h)
  | true =>
    rw [update_accepted h]
    exact .inr ⟨Nat.lt_succ_self _, rfl⟩

/-- An update which was made for what was there once is carried out only if that still is there. -/
theorem eq_of_fits (h : c.Evolves c') (hu : u.NotAhead c.version) (hfits : c'.Fits u) : c' = c := by
  cases h with
  | inl heq => exact heq
  | inr hlater =>
    cases u with
    | create v =>
      have hnone : c'.value = none := hfits
      rw [hnone] at hlater
      cases hlater.2
    | replace n v =>
      have hn : c'.version ≤ c.version := hu c'.version v (congrArg (Update.replace · v) hfits)
      omega

end Versioned

end GpuReservation.Library
