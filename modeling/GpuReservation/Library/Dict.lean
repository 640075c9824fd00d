import Mathlib.Data.List.Induction
import Mathlib.Algebra.GroupWithZero.Nat
import Mathlib.Algebra.Order.Group.Nat
import Mathlib.Data.List.Nodup
import Mathlib.Algebra.BigOperators.Group.List.Basic
import Mathlib.Algebra.Order.BigOperators.Group.List

/-!
# Insertion-ordered dictionaries

Setting a key which is present keeps its place, setting a new one appends it, and iteration
follows that order.  That the keys are distinct is part of the type.
-/

namespace GpuReservation.Library

/-- A sum over what is picked out, as a sum over all. -/
lemma sum_map_filter {α : Type*} (p : α → Bool) (f : α → Nat) (l : List α) :
    ((l.filter p).map f).sum = (l.map fun a => if p a then f a else 0).sum := by
  rw [List.sum_map_ite]
  simp

/-- A loop comes to what one of its rounds brings about and the others keep. -/
lemma foldl_of_mem {α β : Type*} {f : β → α → β} {P : β → Prop} {l : List α} {x : α} (hx : x ∈ l)
    (hbrings : ∀ b, P (f b x)) (hkeeps : ∀ y ∈ l, ∀ b, P b → P (f b y)) (b : β) : P (l.foldl f b) := by
  induction l generalizing b with
  | nil => cases hx
  | cons y l ih =>
    have hrest := fun z hz => hkeeps z (List.mem_cons_of_mem y hz)
    rw [List.foldl_cons]
    rcases List.mem_cons.mp hx with rfl | hx
    · exact List.foldlRecOn l f (hbrings b) fun b hb z hz => hrest z hz b hb
    · exact ih hx hrest _

structure Dict (κ υ : Type*) where
  entries : List (κ × υ)
  nodup : (entries.map Prod.fst).Nodup
  deriving DecidableEq

namespace Dict

variable {κ υ : Type*}

def empty : Dict κ υ := ⟨[], List.nodup_nil⟩

instance : Inhabited (Dict κ υ) := ⟨empty⟩

instance : EmptyCollection (Dict κ υ) := ⟨empty⟩

def keys (d : Dict κ υ) : List κ := d.entries.map Prod.fst

def values (d : Dict κ υ) : List υ := d.entries.map Prod.snd

variable [DecidableEq κ]

def get? (d : Dict κ υ) (k : κ) : Option υ := (d.entries.find? fun e => e.1 = k).map Prod.snd

instance : Membership κ (Dict κ υ) := ⟨fun d k => k ∈ d.keys⟩

instance (d : Dict κ υ) (k : κ) : Decidable (k ∈ d) := inferInstanceAs (Decidable (k ∈ d.keys))

def setEntries (k : κ) (v : υ) : List (κ × υ) → List (κ × υ)
  | [] => [(k, v)]
  | e :: l => if e.1 = k then (k, v) :: l else e :: setEntries k v l

lemma setEntries_keys (k : κ) (v : υ) (l : List (κ × υ)) :
    (setEntries k v l).map Prod.fst =
      if k ∈ l.map Prod.fst then l.map Prod.fst else l.map Prod.fst ++ [k] := by
  induction l with
  | nil => simp [setEntries]
  | cons e l ih =>
    by_cases he : e.1 = k
    · simp [setEntries, he]
    · rw [setEntries, if_neg he, List.map_cons, ih]
      have hne : k ≠ e.1 := fun h => he h.symm
      by_cases hk : k ∈ l.map Prod.fst
      · simp [hk]
      · simp only [hk, if_false, List.map_cons, List.mem_cons, hne, false_or, List.cons_append]

def set (d : Dict κ υ) (k : κ) (v : υ) : Dict κ υ where
  entries := setEntries k v d.entries
  nodup := by
    rw [setEntries_keys]
    split
    · exact d.nodup
    · rename_i hk
      exact List.nodup_append'.mpr ⟨d.nodup, List.nodup_singleton k, by simpa using hk⟩

def erase (d : Dict κ υ) (k : κ) : Dict κ υ where
  entries := d.entries.filter fun e => e.1 ≠ k
  nodup := d.nodup.sublist (List.filter_sublist.map _)

def filter (p : κ → υ → Bool) (d : Dict κ υ) : Dict κ υ where
  entries := d.entries.filter fun e => p e.1 e.2
  nodup := d.nodup.sublist (List.filter_sublist.map _)

omit [DecidableEq κ] in
lemma map_fst_mapEntries {ω : Type*} (f : κ → υ → ω) (l : List (κ × υ)) :
    (l.map fun e => (e.1, f e.1 e.2)).map Prod.fst = l.map Prod.fst := by
  rw [List.map_map]
  rfl

def mapValues {ω : Type*} (f : κ → υ → ω) (d : Dict κ υ) : Dict κ ω where
  entries := d.entries.map fun e => (e.1, f e.1 e.2)
  nodup := by
    rw [map_fst_mapEntries]
    exact d.nodup

/-- The dictionary of a list of pairs: a later pair of one key replaces an earlier one. -/
def ofList (l : List (κ × υ)) : Dict κ υ := l.foldl (fun d e => d.set e.1 e.2) ∅

@[simp] lemma get?_empty (k : κ) : (∅ : Dict κ υ).get? k = none := rfl

lemma get?_eq_some_iff {d : Dict κ υ} {k : κ} {v : υ} :
    d.get? k = some v ↔ (k, v) ∈ d.entries := by
  obtain ⟨l, hl⟩ := d
  induction l with
  | nil => simp [get?]
  | cons e l ih =>
    obtain ⟨hne, hl'⟩ := List.nodup_cons.mp hl
    have ih := ih hl'
    simp only [get?] at ih ⊢
    by_cases he : e.1 = k
    · have hk : (k, v) ∉ l := fun h => hne (he ▸ List.mem_map_of_mem (f := Prod.fst) h)
      rw [List.find?_cons_of_pos (by simpa using he), Option.map_some, Option.some.injEq,
        List.mem_cons, or_iff_left hk]
      constructor
      · rintro rfl
        exact Prod.ext he.symm rfl
      · rintro h
        exact (congrArg Prod.snd h).symm
    · rw [List.find?_cons_of_neg (by simpa using he), ih, List.mem_cons]
      exact (or_iff_right fun h => he (congrArg Prod.fst h).symm).symm

/-- What a longer dictionary begins with, it holds. -/
lemma get?_of_prefix {d d' : Dict κ υ} (h : d.entries <+: d'.entries) {k : κ} {v : υ}
    (hk : d.get? k = some v) : d'.get? k = some v :=
  get?_eq_some_iff.mpr (h.subset (get?_eq_some_iff.mp hk))

lemma mem_iff_get? {d : Dict κ υ} {k : κ} : k ∈ d ↔ ∃ v, d.get? k = some v := by
  simp only [get?_eq_some_iff]
  exact ⟨fun h => by obtain ⟨e, he, rfl⟩ := List.mem_map.mp h; exact ⟨e.2, he⟩,
    fun ⟨v, h⟩ => List.mem_map_of_mem (f := Prod.fst) h⟩

lemma get?_eq_none_iff {d : Dict κ υ} {k : κ} : d.get? k = none ↔ k ∉ d := by
  rw [mem_iff_get?, Option.eq_none_iff_forall_ne_some, not_exists]

lemma mem_values_iff {d : Dict κ υ} {v : υ} : v ∈ d.values ↔ ∃ k, d.get? k = some v := by
  simp [values, get?_eq_some_iff]

lemma mem_setEntries {k k' : κ} {v v' : υ} {l : List (κ × υ)} (hl : (l.map Prod.fst).Nodup) :
    (k', v') ∈ setEntries k v l ↔ if k' = k then v' = v else (k', v') ∈ l := by
  induction l with
  | nil => by_cases h : k' = k <;> simp [setEntries, h]
  | cons e l ih =>
    obtain ⟨hne, hl⟩ := List.nodup_cons.mp hl
    by_cases he : e.1 = k
    · rw [setEntries, if_pos he]
      by_cases hk : k' = k
      · subst hk
        have : (k', v') ∉ l := fun h => hne (he ▸ List.mem_map_of_mem (f := Prod.fst) h)
        simp [this]
      · have : (k', v') ≠ e := by rintro rfl; exact hk he
        simp [hk, this]
    · rw [setEntries, if_neg he, List.mem_cons, ih hl]
      by_cases hk : k' = k
      · have : (k', v') ≠ e := by rintro rfl; exact he hk
        simp [hk, hk ▸ this]
      · simp [hk]

lemma get?_set (d : Dict κ υ) (k : κ) (v : υ) (k' : κ) :
    (d.set k v).get? k' = if k' = k then some v else d.get? k' := by
  ext v'
  rw [get?_eq_some_iff, set, mem_setEntries d.nodup]
  by_cases h : k' = k
  · simp [h, eq_comm]
  · simp [h, get?_eq_some_iff]

@[simp] lemma get?_set_self (d : Dict κ υ) (k : κ) (v : υ) : (d.set k v).get? k = some v := by
  simp [get?_set]

lemma get?_set_of_ne (d : Dict κ υ) {k k' : κ} (v : υ) (h : k' ≠ k) :
    (d.set k v).get? k' = d.get? k' := by
  simp [get?_set, h]

lemma get?_erase (d : Dict κ υ) (k k' : κ) :
    (d.erase k).get? k' = if k' = k then none else d.get? k' := by
  ext v'
  rw [get?_eq_some_iff]
  by_cases h : k' = k
  · simp [erase, h]
  · simp [erase, h, get?_eq_some_iff]

@[simp] lemma get?_erase_self (d : Dict κ υ) (k : κ) : (d.erase k).get? k = none := by
  simp [get?_erase]

lemma get?_erase_of_ne (d : Dict κ υ) {k k' : κ} (h : k' ≠ k) :
    (d.erase k).get? k' = d.get? k' := by
  simp [get?_erase, h]

lemma get?_filter (p : κ → υ → Bool) (d : Dict κ υ) (k : κ) :
    (d.filter p).get? k = (d.get? k).filter (p k) := by
  ext v
  rw [get?_eq_some_iff, Option.filter_eq_some_iff, get?_eq_some_iff]
  exact List.mem_filter

lemma get?_of_get?_filter {p : κ → υ → Bool} {d : Dict κ υ} {k : κ} {v : υ}
    (h : (d.filter p).get? k = some v) : d.get? k = some v := by
  rw [get?_filter, Option.filter_eq_some_iff] at h
  exact h.1

lemma get?_of_get?_erase {d : Dict κ υ} {k k' : κ} {v : υ} (h : (d.erase k).get? k' = some v) :
    d.get? k' = some v := by
  rw [get?_erase] at h
  split at h
  · cases h
  · exact h

lemma get?_mapValues {ω : Type*} (f : κ → υ → ω) (d : Dict κ υ) (k : κ) :
    (d.mapValues f).get? k = (d.get? k).map (f k) := by
  ext v
  rw [get?_eq_some_iff, Option.map_eq_some_iff]
  simp only [get?_eq_some_iff, mapValues, List.mem_map]
  constructor
  · rintro ⟨e, he, h⟩
    obtain ⟨rfl, rfl⟩ := Prod.mk.inj h
    exact ⟨e.2, he, rfl⟩
  · rintro ⟨v', he, rfl⟩
    exact ⟨(k, v'), he, rfl⟩

/-- A dictionary of a list holds pairs of that list. -/
lemma mem_of_get?_ofList {l : List (κ × υ)} {k : κ} {v : υ} (h : (ofList l).get? k = some v) :
    (k, v) ∈ l := by
  have hfold : ∀ (l : List (κ × υ)) (d : Dict κ υ),
      (l.foldl (fun d e => d.set e.1 e.2) d).get? k = some v → (k, v) ∈ l ∨ d.get? k = some v := by
    intro l
    induction l with
    | nil => exact fun d h => .inr h
    | cons e l ih =>
      intro d h
      rcases ih _ h with hl | hd
      · exact .inl (List.mem_cons_of_mem e hl)
      · rw [get?_set] at hd
        split at hd
        · rename_i hk
          cases hd
          exact .inl (by rw [hk]; exact List.mem_cons_self)
        · exact .inr hd
  rcases hfold l ∅ h with hl | hd
  · exact hl
  · cases hd

/-- A value is held which is the only one of its key. -/
lemma get?_ofList_of_unique {l : List (κ × υ)} {k : κ} {v : υ} (h : (k, v) ∈ l)
    (hall : ∀ v', (k, v') ∈ l → v' = v) : (ofList l).get? k = some v := by
  induction l using List.reverseRecOn with
  | nil => cases h
  | append_singleton l e ih =>
    have hsnoc : ofList (l ++ [e]) = (ofList l).set e.1 e.2 := by simp [ofList]
    rw [hsnoc]
    by_cases hk : k = e.1
    · have hlast : e.2 = v := hall e.2 (by simp [hk])
      rw [hk, get?_set_self, hlast]
    · rw [get?_set_of_ne _ _ hk]
      have hmem : (k, v) ∈ l := by
        rcases List.mem_append.mp h with h | h
        · exact h
        · exact absurd (congrArg Prod.fst (List.mem_singleton.mp h)) hk
      exact ih hmem fun v' hv' => hall v' (List.mem_append_left [e] hv')

/-- Under distinct keys an element is held exactly if it was let in. -/
lemma get?_ofList_filter_map {α : Type*} {l : List α} {key : α → κ} (hl : (l.map key).Nodup) {a : α}
    (ha : a ∈ l) (p : α → Bool) (f : α → υ) :
    (ofList ((l.filter p).map fun a => (key a, f a))).get? (key a) =
      if p a then some (f a) else none := by
  have hsame : ∀ v, (key a, v) ∈ ((l.filter p).map fun a => (key a, f a)) ↔ p a = true ∧ v = f a := by
    intro v
    rw [List.mem_map]
    constructor
    · rintro ⟨b, hb, heq⟩
      obtain ⟨hmem, hp⟩ := List.mem_filter.mp hb
      obtain ⟨hkey, rfl⟩ := Prod.mk.inj heq
      obtain rfl := List.inj_on_of_nodup_map hl hmem ha hkey
      exact ⟨hp, rfl⟩
    · rintro ⟨hp, rfl⟩
      exact ⟨a, List.mem_filter.mpr ⟨ha, hp⟩, rfl⟩
  by_cases hp : p a = true
  · rw [if_pos hp]
    exact get?_ofList_of_unique ((hsame (f a)).mpr ⟨hp, rfl⟩) fun v hv => ((hsame v).mp hv).2
  · rw [if_neg hp]
    exact Option.eq_none_iff_forall_ne_some.mpr fun v hv =>
      hp ((hsame v).mp (mem_of_get?_ofList hv)).1

/-- Values collected by key, in the order they come. -/
lemma get?_foldl_collect (l : List (κ × υ)) (k : κ) :
    ((l.foldl (fun d e => d.set e.1 ((d.get? e.1).getD [] ++ [e.2])) (∅ : Dict κ (List υ))).get?
      k).getD [] = (l.filter fun e => e.1 = k).map Prod.snd := by
  have hfold : ∀ (l : List (κ × υ)) (d : Dict κ (List υ)),
      ((l.foldl (fun d e => d.set e.1 ((d.get? e.1).getD [] ++ [e.2])) d).get? k).getD [] =
        (d.get? k).getD [] ++ (l.filter fun e => e.1 = k).map Prod.snd := by
    intro l
    induction l with
    | nil => intro d; simp
    | cons e l ih =>
      intro d
      rw [List.foldl_cons, ih, get?_set]
      by_cases hk : e.1 = k
      · simp [hk]
      · have hk' : k ≠ e.1 := fun h => hk h.symm
        simp [hk, hk']
  simpa using hfold l ∅

lemma mem_set {d : Dict κ υ} {k k' : κ} {v : υ} : k' ∈ d.set k v ↔ k' = k ∨ k' ∈ d := by
  simp only [mem_iff_get?, get?_set]
  by_cases h : k' = k <;> simp [h]

lemma setEntries_of_not_mem {k : κ} {v : υ} {l : List (κ × υ)} (h : k ∉ l.map Prod.fst) :
    setEntries k v l = l ++ [(k, v)] := by
  induction l with
  | nil => rfl
  | cons e l ih =>
    rw [List.map_cons, List.mem_cons, not_or] at h
    rw [setEntries, if_neg fun he => h.1 he.symm, ih h.2, List.cons_append]

lemma entries_set_of_not_mem {d : Dict κ υ} {k : κ} (h : k ∉ d) (v : υ) :
    (d.set k v).entries = d.entries ++ [(k, v)] :=
  setEntries_of_not_mem h

lemma mem_filter {p : κ → υ → Bool} {d : Dict κ υ} {k : κ} :
    k ∈ d.filter p ↔ ∃ v, d.get? k = some v ∧ p k v := by
  simp only [mem_iff_get?, get?_filter, Option.filter_eq_some_iff]

lemma mem_erase {d : Dict κ υ} {k k' : κ} : k' ∈ d.erase k ↔ k' ≠ k ∧ k' ∈ d := by
  simp only [mem_iff_get?, get?_erase]
  by_cases h : k' = k <;> simp [h]

/-! What determines a dictionary. -/

lemma entries_eq_filterMap (d : Dict κ υ) :
    d.entries = d.keys.filterMap fun k => (d.get? k).map fun v => (k, v) := by
  have hget : ∀ e ∈ d.entries, (d.get? e.1).map (fun v => (e.1, v)) = some e := by
    intro e he
    rw [get?_eq_some_iff.mpr he]
    rfl
  rw [keys, List.filterMap_map]
  calc d.entries = d.entries.filterMap some := List.filterMap_some.symm
    _ = _ := List.filterMap_congr fun e he => (hget e he).symm

omit [DecidableEq κ] in
lemma ext_entries {d d' : Dict κ υ} (h : d.entries = d'.entries) : d = d' := by
  cases d
  cases d'
  cases h
  rfl

/-- A dictionary is its keys, in their order, and what is held under each. -/
lemma ext_get? {d d' : Dict κ υ} (hkeys : d.keys = d'.keys) (h : ∀ k, d.get? k = d'.get? k) :
    d = d' := by
  apply ext_entries
  rw [entries_eq_filterMap, entries_eq_filterMap d', hkeys]
  simp only [h]

lemma keys_set_of_mem {d : Dict κ υ} {k : κ} (h : k ∈ d) (v : υ) : (d.set k v).keys = d.keys := by
  have hmem : k ∈ d.entries.map Prod.fst := h
  rw [keys, set, setEntries_keys, if_pos hmem, keys]

/-! A key which is set, and set again or taken out. -/

lemma set_of_get? {d : Dict κ υ} {k : κ} {v : υ} (h : d.get? k = some v) : d.set k v = d := by
  refine ext_get? (keys_set_of_mem (mem_iff_get?.mpr ⟨v, h⟩) v) fun k' => ?_
  rw [get?_set]
  split
  · rename_i hk
    rw [hk, h]
  · rfl

lemma set_set (d : Dict κ υ) (k : κ) (v v' : υ) : (d.set k v).set k v' = d.set k v' := by
  have hkeys : ((d.set k v).set k v').keys = (d.set k v').keys := by
    rw [keys_set_of_mem (mem_set.mpr (.inl rfl))]
    unfold keys set
    rw [setEntries_keys, setEntries_keys]
  refine ext_get? hkeys fun k' => ?_
  rw [get?_set, get?_set, get?_set]
  split <;> rfl

lemma erase_set_of_not_mem {d : Dict κ υ} {k : κ} (h : k ∉ d) (v : υ) : (d.set k v).erase k = d := by
  have hall : ∀ e ∈ d.entries, e.1 ≠ k := by
    rintro e he rfl
    exact h (List.mem_map_of_mem he)
  apply ext_entries
  change (d.set k v).entries.filter (fun e => e.1 ≠ k) = d.entries
  rw [entries_set_of_not_mem h]
  simpa using hall

/-- The first entry of a kind is one before the key which is set, or the entry set. -/
lemma find?_entries_set {p : κ × υ → Bool} {k : κ} {v : υ} (hp : p (k, v)) (d : Dict κ υ) :
    (d.set k v).entries.find? p =
      some (((d.entries.takeWhile fun e => e.1 ≠ k).find? p).getD (k, v)) := by
  have hlist : ∀ l : List (κ × υ), (setEntries k v l).find? p =
      some (((l.takeWhile fun e => e.1 ≠ k).find? p).getD (k, v)) := by
    intro l
    induction l with
    | nil => simp [setEntries, hp]
    | cons e l ih =>
      rw [setEntries]
      by_cases he : e.1 = k
      · simp [he, hp]
      · rw [if_neg he, List.find?_cons]
        by_cases hpe : p e
        · simp [he, hpe]
        · simp [he, hpe, ih]
  exact hlist d.entries

omit [DecidableEq κ] in
@[simp] lemma keys_mapValues {ω : Type*} (f : κ → υ → ω) (d : Dict κ υ) :
    (d.mapValues f).keys = d.keys := map_fst_mapEntries f d.entries

omit [DecidableEq κ] in
lemma mapValues_mapValues {ω ω' : Type*} (f : κ → υ → ω) (g : κ → ω → ω') (d : Dict κ υ) :
    (d.mapValues f).mapValues g = d.mapValues fun k v => g k (f k v) := by
  have hentries : ((d.mapValues f).mapValues g).entries =
      (d.mapValues fun k v => g k (f k v)).entries := by
    simp [mapValues]
  generalize (d.mapValues f).mapValues g = d₁ at hentries ⊢
  generalize (d.mapValues fun k v => g k (f k v)) = d₂ at hentries ⊢
  cases d₁
  cases d₂
  cases hentries
  rfl

/-- Setting a key which is there changes what is held under it. -/
lemma set_eq_mapValues {d : Dict κ υ} {k : κ} (h : k ∈ d) (v : υ) :
    d.set k v = d.mapValues fun k' v' => if k' = k then v else v' := by
  refine ext_get? ?_ fun k' => ?_
  · rw [keys_set_of_mem h, keys_mapValues]
  · rw [get?_set, get?_mapValues]
    by_cases hk : k' = k
    · obtain ⟨v', hv'⟩ := mem_iff_get?.mp h
      simp [hk, hv']
    · simp [hk]

/-- The pairs of one dictionary are worked into another: each key is met once at most. -/
lemma get?_foldl_entries {ω : Type*} (step : Dict κ ω → κ × υ → Dict κ ω)
    (effect : Option ω → υ → Option ω)
    (hstep : ∀ d e k, (step d e).get? k = if e.1 = k then effect (d.get? k) e.2 else d.get? k)
    (d' : Dict κ υ) (d : Dict κ ω) (k : κ) :
    (d'.entries.foldl step d).get? k = ((d'.get? k).map (effect (d.get? k))).getD (d.get? k) := by
  obtain ⟨l, hl⟩ := d'
  simp only [get?]
  induction l generalizing d with
  | nil => rfl
  | cons e l ih =>
    obtain ⟨hne, hl'⟩ := List.nodup_cons.mp hl
    have hhead := hstep d e k
    simp only [get?] at hhead
    rw [List.foldl_cons, ih (step d e) hl', hhead]
    by_cases he : e.1 = k
    · have hnone : l.find? (fun e' => decide (e'.1 = k)) = none := by
        rw [List.find?_eq_none]
        intro e' he' hk
        exact hne (he.trans (of_decide_eq_true hk).symm ▸ List.mem_map_of_mem (f := Prod.fst) he')
      rw [hnone, List.find?_cons_of_pos (by simpa using he), if_pos he]
      rfl
    · rw [List.find?_cons_of_neg (by simpa using he), if_neg he]

/-- Turns of which only the one of a key matters to what is observed. -/
lemma foldl_entries_of_key {ω β : Type*} {step : β → κ × υ → β} (observe : β → ω) (k : κ) (f : υ → ω)
    (hstep : ∀ b e, observe (step b e) = if e.1 = k then f e.2 else observe b) (d : Dict κ υ) (b : β) :
    observe (d.entries.foldl step b) = ((d.get? k).map f).getD (observe b) := by
  obtain ⟨l, hl⟩ := d
  simp only [get?]
  induction l generalizing b with
  | nil => rfl
  | cons e l ih =>
    obtain ⟨hne, hl'⟩ := List.nodup_cons.mp hl
    rw [List.foldl_cons, ih (step b e) hl', hstep]
    by_cases he : e.1 = k
    · have hnone : l.find? (fun e' => decide (e'.1 = k)) = none := by
        rw [List.find?_eq_none]
        intro e' he' hk
        exact hne (he.trans (of_decide_eq_true hk).symm ▸ List.mem_map_of_mem (f := Prod.fst) he')
      rw [hnone, List.find?_cons_of_pos (by simpa using he), if_pos he]
      rfl
    · rw [List.find?_cons_of_neg (by simpa using he), if_neg he]

/-- Turns each of which gives a key its value only where it has none: the first value stays. -/
lemma get?_foldl_or {α : Type*} {step : Dict κ υ → α → Dict κ υ} {k : κ} {f : α → Option υ}
    (hstep : ∀ d a, (step d a).get? k = (d.get? k).or (f a)) (l : List α) (d : Dict κ υ) :
    (l.foldl step d).get? k = (d.get? k).or (l.findSome? f) := by
  induction l generalizing d with
  | nil => exact (Option.or_none).symm
  | cons a l ih =>
    rw [List.foldl_cons, ih, hstep, Option.or_assoc, List.findSome?_cons]
    cases f a <;> rfl

/-- The pairs of one dictionary are set in another. -/
lemma get?_foldl_set (d' d : Dict κ υ) (k : κ) :
    (d'.entries.foldl (fun d e => d.set e.1 e.2) d).get? k = (d'.get? k).or (d.get? k) := by
  have hstep : ∀ (d : Dict κ υ) (e : κ × υ) k, (d.set e.1 e.2).get? k =
      if e.1 = k then some e.2 else d.get? k := by
    intro d e k
    rw [get?_set]
    simp only [eq_comm]
  rw [get?_foldl_entries (fun d e => d.set e.1 e.2) (fun _ v => some v) hstep]
  cases d'.get? k <;> rfl

lemma keys_foldl_set {l : List (κ × υ)} {d : Dict κ υ} (h : ∀ e ∈ l, e.1 ∈ d) :
    (l.foldl (fun d e => d.set e.1 e.2) d).keys = d.keys := by
  induction l generalizing d with
  | nil => rfl
  | cons e l ih =>
    have he := keys_set_of_mem (h e List.mem_cons_self) e.2
    rw [List.foldl_cons, ih, he]
    intro e' he'
    exact mem_set.mpr (.inr (h e' (List.mem_cons_of_mem e he')))

/-- A dictionary is rebuilt from its pairs as it was. -/
lemma ofList_entries (d : Dict κ υ) : ofList d.entries = d := by
  have hfold : ∀ (l : List (κ × υ)) (d' : Dict κ υ), ((d'.entries ++ l).map Prod.fst).Nodup →
      (l.foldl (fun d e => d.set e.1 e.2) d').entries = d'.entries ++ l := by
    intro l
    induction l with
    | nil => exact fun d' _ => (List.append_nil _).symm
    | cons e l ih =>
      intro d' hnodup
      have hnew : e.1 ∉ d' := by
        intro hmem
        rw [List.map_append, List.nodup_append'] at hnodup
        exact hnodup.2.2 hmem List.mem_cons_self
      have hset : (d'.set e.1 e.2).entries = d'.entries ++ [e] := entries_set_of_not_mem hnew e.2
      have hsplit : d'.entries ++ e :: l = (d'.set e.1 e.2).entries ++ l := by
        rw [hset, List.append_assoc]
        rfl
      rw [List.foldl_cons, hsplit]
      exact ih _ (hsplit ▸ hnodup)
  exact ext_entries (hfold d.entries ∅ d.nodup)

/-- What is held under other keys stays as it is, in its order. -/
lemma filter_entries_set {p : κ → Bool} {k : κ} (hk : p k = false) (d : Dict κ υ) (v : υ) :
    (d.set k v).entries.filter (fun e => p e.1) = d.entries.filter fun e => p e.1 := by
  have hset : ∀ l : List (κ × υ), (setEntries k v l).filter (fun e => p e.1) =
      l.filter fun e => p e.1 := by
    intro l
    induction l with
    | nil => exact List.filter_cons_of_neg (by rw [hk]; exact Bool.false_ne_true)
    | cons e l ih =>
      rw [setEntries]
      split
      · rename_i he
        rw [List.filter_cons_of_neg (by rw [hk]; exact Bool.false_ne_true),
          List.filter_cons_of_neg (by rw [he, hk]; exact Bool.false_ne_true)]
      · rw [List.filter_cons, List.filter_cons, ih]
  exact hset d.entries

lemma filter_entries_erase {p : κ → Bool} {k : κ} (hk : p k = false) (d : Dict κ υ) :
    (d.erase k).entries.filter (fun e => p e.1) = d.entries.filter fun e => p e.1 := by
  change (d.entries.filter fun e => e.1 ≠ k).filter _ = _
  rw [List.filter_filter]
  refine List.filter_congr fun e _ => ?_
  by_cases he : e.1 = k
  · rw [he, hk, Bool.false_and]
  · simp [he]

omit [DecidableEq κ] in
lemma mapValues_id (d : Dict κ υ) : (d.mapValues fun _ v => v) = d := by
  have hentries : (d.mapValues fun _ v => v).entries = d.entries := by simp [mapValues]
  generalize (d.mapValues fun _ v => v) = d₁ at hentries ⊢
  cases d₁
  cases d
  cases hentries
  rfl

lemma mapValues_congr {ω : Type*} {f g : κ → υ → ω} {d : Dict κ υ}
    (h : ∀ k v, d.get? k = some v → f k v = g k v) : d.mapValues f = d.mapValues g := by
  refine ext_get? ?_ fun k => ?_
  · rw [keys_mapValues, keys_mapValues]
  · rw [get?_mapValues, get?_mapValues]
    cases hk : d.get? k with
    | none => rfl
    | some v => rw [Option.map_some, Option.map_some, h k v hk]

/-- A change of nothing that is held. -/
lemma mapValues_eq_self {f : κ → υ → υ} {d : Dict κ υ} (h : ∀ k v, d.get? k = some v → f k v = v) :
    d.mapValues f = d := (mapValues_congr h).trans d.mapValues_id

/-- Values which are computed anew for the keys where they may have changed. -/
lemma foldl_set_mapValues_filter {ω : Type*} {f g : κ → υ → ω} {p : κ → Bool} (d : Dict κ υ)
    (hsame : ∀ k ∈ d, p k = false → ∀ v, f k v = g k v) :
    (((d.filter fun k _ => p k).mapValues g).entries.foldl (fun d e => d.set e.1 e.2)
      (d.mapValues f)) = d.mapValues g := by
  refine ext_get? ?_ fun k => ?_
  · rw [keys_mapValues, keys_foldl_set, keys_mapValues]
    intro e he
    have hkey : e.1 ∈ ((d.filter fun k _ => p k).mapValues g).keys := List.mem_map_of_mem he
    rw [keys_mapValues] at hkey
    obtain ⟨v, hv, -⟩ := mem_filter.mp hkey
    rw [mem_iff_get?]
    exact ⟨f e.1 v, by rw [get?_mapValues, hv, Option.map_some]⟩
  · rw [get?_foldl_set, get?_mapValues, get?_mapValues, get?_mapValues, get?_filter]
    cases hk : d.get? k with
    | none => rfl
    | some v =>
      cases hp : p k with
      | true => simp [Option.filter_some]
      | false =>
        have hmem : k ∈ d := mem_iff_get?.mpr ⟨v, hk⟩
        simp [Option.filter_some, hsame k hmem hp v]

/-! Sums over what is held. -/

/-- The sum of a number for each pair. -/
def sumBy (f : κ → υ → Nat) (d : Dict κ υ) : Nat := (d.entries.map fun e => f e.1 e.2).sum

lemma sumBy_le_sumBy {f g : κ → υ → Nat} {d : Dict κ υ}
    (h : ∀ k v, d.get? k = some v → f k v ≤ g k v) : d.sumBy f ≤ d.sumBy g := by
  refine List.sum_le_sum fun e he => ?_
  exact h e.1 e.2 (get?_eq_some_iff.mpr he)

lemma sumBy_set (f : κ → υ → Nat) (d : Dict κ υ) (k : κ) (v : υ) :
    (d.set k v).sumBy f + ((d.get? k).map (f k)).getD 0 = d.sumBy f + f k v := by
  obtain ⟨l, hl⟩ := d
  simp only [sumBy, set, get?]
  clear hl
  induction l with
  | nil => simp [setEntries]
  | cons e l ih =>
    by_cases he : e.1 = k
    · subst he
      simp [setEntries]
      omega
    · simp only [setEntries, if_neg he, List.map_cons, List.sum_cons]
      rw [List.find?_cons_of_neg (by simpa using he)]
      omega

lemma sumBy_erase (f : κ → υ → Nat) (d : Dict κ υ) (k : κ) :
    (d.erase k).sumBy f + ((d.get? k).map (f k)).getD 0 = d.sumBy f := by
  obtain ⟨l, hl⟩ := d
  simp only [sumBy, erase, get?]
  induction l with
  | nil => simp
  | cons e l ih =>
    obtain ⟨hne, hl⟩ := List.nodup_cons.mp hl
    have ih := ih hl
    by_cases he : e.1 = k
    · have hf : l.filter (fun e => decide (e.1 ≠ k)) = l := by
        rw [List.filter_eq_self]
        intro e' he'
        have : e'.1 ≠ k := fun h => hne (he.trans h.symm ▸ List.mem_map_of_mem (f := Prod.fst) he')
        simpa using this
      subst he
      rw [List.filter_cons_of_neg (by simp), hf, List.find?_cons_of_pos (by simp)]
      simp
      omega
    · rw [List.filter_cons_of_pos (by simpa using he), List.find?_cons_of_neg (by simpa using he)]
      simp only [List.map_cons, List.sum_cons]
      omega

lemma sumBy_ofList_le (f : κ → υ → Nat) (l : List (κ × υ)) :
    (ofList l).sumBy f ≤ (l.map fun e => f e.1 e.2).sum := by
  have hfrom : ∀ (l : List (κ × υ)) (d : Dict κ υ),
      (l.foldl (fun d e => d.set e.1 e.2) d).sumBy f ≤ d.sumBy f + (l.map fun e => f e.1 e.2).sum := by
    intro l
    induction l with
    | nil => exact fun d => le_refl _
    | cons e l ih =>
      intro d
      have hrest := ih (d.set e.1 e.2)
      have hset := sumBy_set f d e.1 e.2
      rw [List.foldl_cons, List.map_cons, List.sum_cons]
      omega
  exact (hfrom l ∅).trans_eq (Nat.zero_add _)

/-- The sum of the values of a dictionary of numbers. -/
def total (d : Dict κ Nat) : Nat := d.values.sum

omit [DecidableEq κ] in
@[simp] lemma total_empty : (∅ : Dict κ Nat).total = 0 := rfl

lemma total_set (d : Dict κ Nat) (k : κ) (v : Nat) :
    (d.set k v).total + (d.get? k).getD 0 = d.total + v := by
  have h := sumBy_set (fun _ v => v) d k v
  rwa [Option.map_id'] at h

lemma total_erase (d : Dict κ Nat) (k : κ) :
    (d.erase k).total + (d.get? k).getD 0 = d.total := by
  have h := sumBy_erase (fun _ v => v) d k
  rwa [Option.map_id'] at h

/-- Numbers held under distinct keys add up to no more than all of them. -/
lemma sum_le_total {d : Dict κ Nat} {f : κ → Nat} {l : List κ} (hl : l.Nodup)
    (h : ∀ k ∈ l, d.get? k = some (f k)) : (l.map f).sum ≤ d.total := by
  induction l generalizing d with
  | nil => exact Nat.zero_le _
  | cons k l ih =>
    obtain ⟨hk, hl⟩ := List.nodup_cons.mp hl
    have hrest : ∀ k' ∈ l, (d.erase k).get? k' = some (f k') := by
      intro k' hk'
      have hne : k' ≠ k := fun he => hk (he ▸ hk')
      rw [get?_erase_of_ne d hne]
      exact h k' (List.mem_cons_of_mem k hk')
    have hd := total_erase d k
    rw [h k List.mem_cons_self, Option.getD_some] at hd
    have := ih hl hrest
    rw [List.map_cons, List.sum_cons]
    omega

end Dict

end GpuReservation.Library
