import Mathlib.Algebra.Ring.Nat
import Mathlib.Data.List.DropRight
import Mathlib.Tactic.Ring

/-!
# Whole numbers as text

What a language reads as a whole number: blanks around it are dropped, a sign may come first, digits may be
those of any script, and single underscores may stand between them.  What it writes it reads back.
-/

namespace GpuReservation.Library

/-- The characters of a language, as far as numbers need them. -/
structure CharTable where
  /-- What is stripped off a text. -/
  blank : Char → Bool
  /-- The value of a decimal digit, in whatever script. -/
  digit : Char → Option Nat
  digit_ascii : ∀ d, d < 10 → digit d.digitChar = some d
  digit_lt : ∀ c d, digit c = some d → d < 10
  graphic_not_blank : ∀ c, '!' ≤ c → c ≤ '~' → blank c = false

/-- A text without the blanks around it. -/
def stripBlanks (blank : Char → Bool) (l : List Char) : List Char :=
  (l.dropWhile blank).rdropWhile blank

section Strip

variable {blank : Char → Bool} {l : List Char}

lemma stripBlanks_of_ends (hhead : ∀ c ∈ l.head?, blank c = false)
    (hlast : ∀ c ∈ l.getLast?, blank c = false) : stripBlanks blank l = l := by
  have hdrop : l.dropWhile blank = l := by
    cases l with
    | nil => rfl
    | cons c cs => simp [hhead c rfl]
  rw [stripBlanks, hdrop, List.rdropWhile_eq_self_iff]
  intro hl
  simp [hlast _ (List.getLast?_eq_some_getLast hl)]

lemma stripBlanks_of_forall (h : ∀ c ∈ l, blank c = false) : stripBlanks blank l = l :=
  stripBlanks_of_ends (fun c hc => h c (List.mem_of_mem_head? hc))
    fun c hc => h c (List.mem_of_mem_getLast? hc)

end Strip

namespace CharTable

variable (t : CharTable)

/-- The digits of a numeral, grouped by single underscores. -/
def digits? : List Char → Option (List Nat)
  | [] => none
  | [c] => (t.digit c).map fun d => [d]
  | c :: '_' :: cs => (t.digit c).bind fun d => (digits? cs).map (d :: ·)
  | c :: cs => (t.digit c).bind fun d => (digits? cs).map (d :: ·)

/-- The sign of a numeral, and what follows it. -/
def signed : List Char → Bool × List Char
  | '-' :: cs => (true, cs)
  | '+' :: cs => (false, cs)
  | cs => (false, cs)

/-- The blanks of ASCII. -/
def asciiBlanks : List Char := [' ', '\t', '\n', '\x0b', '\x0c', '\r']

/-- What may stand around a numeral: of ASCII its blanks, beyond it what is stripped off a text. -/
def numeralBlank (c : Char) : Bool := if c.toNat < 127 then c ∈ asciiBlanks else t.blank c

/-- The number a text stands for; so many digits are read at most. -/
def int? (limit : Nat) (s : List Char) : Option Int :=
  let numeral := signed (stripBlanks t.numeralBlank s)
  (t.digits? numeral.2).bind fun ds =>
    if limit < ds.length then none
    else
      let n : Int := (ds.foldl (fun n d => 10 * n + d) 0 : Nat)
      some (if numeral.1 then -n else n)

variable {t}

lemma digit_of_isDigit {c : Char} (h : c.isDigit) : t.digit c = some (c.toNat - 48) := by
  obtain ⟨hlo, hhi⟩ : 48 ≤ c.toNat ∧ c.toNat ≤ 57 := by
    simp only [Char.isDigit, Bool.and_eq_true, decide_eq_true_eq, ge_iff_le,
      UInt32.le_iff_toNat_le] at h
    exact h
  have hlt : c.toNat - 48 < 10 := by omega
  have hc : (c.toNat - 48).digitChar = c := by
    apply Char.toNat_inj.mp
    rw [Nat.toNat_digitChar_of_lt_ten hlt]
    omega
  simpa [hc] using t.digit_ascii _ hlt

lemma digits?_of_isDigit {l : List Char} (hl : l ≠ []) (h : ∀ c ∈ l, c.isDigit) :
    t.digits? l = some (l.map fun c => c.toNat - 48) := by
  induction l with
  | nil => exact absurd rfl hl
  | cons c cs ih =>
    have hc := digit_of_isDigit (t := t) (h c List.mem_cons_self)
    have hcs : ∀ c ∈ cs, c.isDigit := fun c' hc' => h c' (List.mem_cons_of_mem c hc')
    cases cs with
    | nil => simp [digits?, hc]
    | cons c' cs =>
      have hne : c' ≠ '_' := by
        rintro rfl
        exact absurd (hcs '_' List.mem_cons_self) (by decide)
      have ih := ih (List.cons_ne_nil _ _) hcs
      rw [digits?.eq_def]
      split
      · rename_i heq
        cases heq
      · rename_i heq
        cases heq
      · rename_i heq
        cases heq
        exact absurd rfl hne
      · rename_i heq
        cases heq
        rw [hc, Option.bind_some, ih]
        rfl

lemma toNat_le_of_mem_asciiBlanks {c : Char} (h : c ∈ asciiBlanks) : c.toNat ≤ 32 := by
  simp only [asciiBlanks, List.mem_cons, List.not_mem_nil, or_false] at h
  rcases h with rfl | rfl | rfl | rfl | rfl | rfl <;> simp

lemma numeralBlank_of_graphic {c : Char} (hlow : 32 < c.toNat) (hhigh : c.toNat < 127) :
    t.numeralBlank c = false := by
  rw [numeralBlank, if_pos hhigh, decide_eq_false_iff_not]
  intro hblank
  have hle := toNat_le_of_mem_asciiBlanks hblank
  omega

lemma numeralBlank_of_isDigit {c : Char} (h : c.isDigit) : t.numeralBlank c = false := by
  simp only [Char.isDigit, Bool.and_eq_true, decide_eq_true_eq, ge_iff_le,
    UInt32.le_iff_toNat_le] at h
  have hlow : 48 ≤ c.toNat := h.1
  have hhigh : c.toNat ≤ 57 := h.2
  exact numeralBlank_of_graphic (by omega) (by omega)

lemma digits?_lt {l : List Char} {ds : List Nat} (h : t.digits? l = some ds) : ∀ d ∈ ds, d < 10 := by
  fun_induction digits? t l generalizing ds with
  | case1 => cases h
  | case2 c =>
    obtain ⟨d, hd, rfl⟩ := Option.map_eq_some_iff.mp h
    simpa using t.digit_lt c d hd
  | case3 c cs ih =>
    obtain ⟨d, hd, hrest⟩ := Option.bind_eq_some_iff.mp h
    obtain ⟨ds', hds', rfl⟩ := Option.map_eq_some_iff.mp hrest
    exact List.forall_mem_cons.mpr ⟨t.digit_lt c d hd, ih hds'⟩
  | case4 c cs _ _ ih =>
    obtain ⟨d, hd, hrest⟩ := Option.bind_eq_some_iff.mp h
    obtain ⟨ds', hds', rfl⟩ := Option.map_eq_some_iff.mp hrest
    exact List.forall_mem_cons.mpr ⟨t.digit_lt c d hd, ih hds'⟩

lemma foldl_lt_pow {ds : List Nat} (h : ∀ d ∈ ds, d < 10) (n : Nat) :
    ds.foldl (fun n d => 10 * n + d) n < (n + 1) * 10 ^ ds.length := by
  induction ds generalizing n with
  | nil => simp
  | cons d ds ih =>
    have hd : d < 10 := h d List.mem_cons_self
    calc (d :: ds).foldl (fun n d => 10 * n + d) n
        = ds.foldl (fun n d => 10 * n + d) (10 * n + d) := rfl
      _ < (10 * n + d + 1) * 10 ^ ds.length := ih (fun d hd => h d (List.mem_cons_of_mem _ hd)) _
      _ ≤ (10 * (n + 1)) * 10 ^ ds.length := Nat.mul_le_mul_right _ (by omega)
      _ = (n + 1) * 10 ^ (d :: ds).length := by rw [List.length_cons, pow_succ]; ring

/-- What is read has no more digits than may be read. -/
lemma natAbs_lt_of_int? {limit : Nat} {s : List Char} {n : Int} (h : t.int? limit s = some n) :
    n.natAbs < 10 ^ limit := by
  obtain ⟨ds, hds, hn⟩ := Option.bind_eq_some_iff.mp h
  dsimp only at hn
  split at hn
  · cases hn
  · rename_i hshort
    have hlt : ds.foldl (fun n d => 10 * n + d) 0 < 10 ^ limit := by
      have hvalue := foldl_lt_pow (digits?_lt hds) 0
      rw [Nat.zero_add, Nat.one_mul] at hvalue
      exact hvalue.trans_le (Nat.pow_le_pow_right (by decide) (not_lt.mp hshort))
    have habs := Option.some.inj hn
    split at habs <;> omega

lemma foldl_digits (l : List Char) (n : Nat) :
    (l.map fun c => c.toNat - 48).foldl (fun n d => 10 * n + d) n = Nat.ofDigitChars 10 l n := by
  rw [List.foldl_map, Nat.ofDigitChars_eq_foldl]
  rfl

lemma isDigit_toDigits {n : Nat} : ∀ c ∈ Nat.toDigits 10 n, c.isDigit := fun _ hc =>
  Nat.isDigit_of_mem_toDigits (by decide) (by decide) hc

lemma signed_of_isDigit {l : List Char} (h : ∀ c ∈ l, c.isDigit) : signed l = (false, l) := by
  rw [signed.eq_def]
  split
  · exact absurd (h '-' List.mem_cons_self) (by decide)
  · exact absurd (h '+' List.mem_cons_self) (by decide)
  · rfl

lemma length_toDigits_iff {limit n : Nat} (hlimit : 0 < limit) :
    limit < (Nat.toDigits 10 n).length ↔ ¬ n < 10 ^ limit := by
  rw [← Nat.length_toDigits_le_iff (by decide) hlimit, not_le]

/-- A natural number is read back, unless it has too many digits. -/
lemma int?_repr {limit : Nat} (hlimit : 0 < limit) (n : Nat) :
    t.int? limit n.repr.toList = if n < 10 ^ limit then some (n : Int) else none := by
  have hstrip : stripBlanks t.numeralBlank (Nat.toDigits 10 n) = Nat.toDigits 10 n :=
    stripBlanks_of_forall fun c hc => numeralBlank_of_isDigit (isDigit_toDigits c hc)
  rw [int?, Nat.toList_repr, hstrip, signed_of_isDigit isDigit_toDigits,
    digits?_of_isDigit Nat.toDigits_ne_nil isDigit_toDigits, Option.bind_some, List.length_map,
    if_congr (length_toDigits_iff hlimit) rfl rfl, ite_not, foldl_digits,
    Nat.ofDigitChars_ten_toDigits]
  rfl

/-- A negative number is read back, unless it has too many digits. -/
lemma int?_neg_repr {limit : Nat} (hlimit : 0 < limit) (n : Nat) :
    t.int? limit ('-' :: n.repr.toList) = if n < 10 ^ limit then some (-(n : Int)) else none := by
  have hstrip : stripBlanks t.numeralBlank ('-' :: Nat.toDigits 10 n) = '-' :: Nat.toDigits 10 n := by
    apply stripBlanks_of_forall
    intro c hc
    rcases List.mem_cons.mp hc with rfl | hc
    · exact numeralBlank_of_graphic (by decide) (by decide)
    · exact numeralBlank_of_isDigit (isDigit_toDigits c hc)
  rw [int?, Nat.toList_repr, hstrip, signed, digits?_of_isDigit Nat.toDigits_ne_nil isDigit_toDigits,
    Option.bind_some, List.length_map, if_congr (length_toDigits_iff hlimit) rfl rfl, ite_not,
    foldl_digits, Nat.ofDigitChars_ten_toDigits]
  rfl

/-- A whole number is read back from the text it is written as, unless it has too many digits. -/
theorem int?_int_repr {limit : Nat} (hlimit : 0 < limit) (n : Int) :
    t.int? limit n.repr.toList = if n.natAbs < 10 ^ limit then some n else none := by
  cases n with
  | ofNat n => exact int?_repr hlimit n
  | negSucc n =>
    have hrepr : (Int.negSucc n).repr.toList = '-' :: (n + 1).repr.toList := by
      simp [Int.repr]
    rw [hrepr, int?_neg_repr hlimit]
    rfl

/-- The table of ASCII: the separators of files, groups, records and units are stripped off a text too. -/
def ascii : CharTable where
  blank c := c ∈ asciiBlanks ++ ['\x1c', '\x1d', '\x1e', '\x1f']
  digit c := if '0' ≤ c ∧ c ≤ '9' then some (c.toNat - 48) else none
  digit_ascii := by decide
  digit_lt c d h := by
    split at h
    · rename_i hc
      have hhigh : c.toNat ≤ 57 := hc.2
      cases h
      omega
    · cases h
  graphic_not_blank c hlow _ := by
    have hge : 33 ≤ c.toNat := hlow
    simp only [decide_eq_false_iff_not, List.mem_append, List.mem_cons, List.not_mem_nil, or_false]
    rintro (hblank | rfl | rfl | rfl | rfl)
    · have hle := toNat_le_of_mem_asciiBlanks hblank
      omega
    all_goals revert hge; decide

/-- A separator is stripped off a text, but not off a numeral. -/
example : ascii.blank '\x1c' = true ∧ ascii.int? 4300 ['7', '\x1c'] = none ∧
    ascii.int? 4300 ['\t', '7', ' '] = some 7 := by decide

end CharTable

end GpuReservation.Library
