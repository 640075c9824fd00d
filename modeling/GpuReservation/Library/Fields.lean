import Mathlib.Data.List.Basic
import Mathlib.Data.List.Nodup

/-!
# Fields on a line

Keys and values on one line, with values in quotes where they need it, and the reader of such lines.
What is written is read back, whatever stands in the values.
-/

namespace GpuReservation.Library

/-- The marks of the grammar: between two fields, between a key and its value, around a quoted value, and
before a mark which stands for itself. -/
structure FieldMarks (α : Type*) where
  sep : α
  split : α
  quote : α
  esc : α
  esc_ne_quote : esc ≠ quote
  quote_ne_sep : quote ≠ sep
  quote_ne_split : quote ≠ split
  sep_ne_split : sep ≠ split

section Write

variable {α : Type*} [DecidableEq α]

/-- One symbol replaced throughout. -/
def replaceSymbol (a : α) (l' : List α) (l : List α) : List α :=
  l.flatMap fun c => if c = a then l' else [c]

namespace FieldMarks

variable (m : FieldMarks α)

/-- The symbols which end a field, or part it. -/
def parts (c : α) : Bool := c = m.sep || c = m.split || c = m.quote

/-- The escapes first, so that those put before the quotes are not escaped again. -/
def escape (l : List α) : List α :=
  replaceSymbol m.quote [m.esc, m.quote] (replaceSymbol m.esc [m.esc, m.esc] l)

/-- A value stands bare if it can. -/
def writeValue (v : List α) : List α :=
  if v = [] || v.any m.parts then m.quote :: (m.escape v ++ [m.quote]) else v

def writeField (f : List α × List α) : List α := f.1 ++ m.split :: m.writeValue f.2

def writeFields (fields : List (List α × List α)) : List α :=
  [m.sep].intercalate (fields.map m.writeField)

end FieldMarks

end Write

section Read

variable {α : Type*} [DecidableEq α]

/-- Where in a field the reader is, with what it has read of it. -/
inductive ReadPhase (α : Type*)
  | key (k : List α)
  | value (k : List α)
  | bare (k v : List α)
  | quoted (k v : List α)
  | escaped (k v : List α)
  | closed (k v : List α)

/-- The fields read, and the one which is being read. -/
structure Reading (α : Type*) where
  fields : List (List α × List α) := []
  phase : ReadPhase α := .key []

/-- The line ends after a value, or is empty. -/
def Reading.atEnd {α : Type*} (s : Reading α) : Option (List (List α × List α)) :=
  match s.phase with
  | .key k => if k.isEmpty && s.fields.isEmpty then some [] else none
  | .bare k v | .closed k v => some (s.fields ++ [(k, v)])
  | _ => none

namespace FieldMarks

variable (m : FieldMarks α)

/-- One symbol; `none` where no line of the grammar has it there. -/
def readSymbol (s : Reading α) (c : α) : Option (Reading α) :=
  match s.phase with
  | .key k =>
    if c = m.split then if k = [] then none else some { s with phase := .value k }
    else if m.parts c then none
    else some { s with phase := .key (k ++ [c]) }
  | .value k =>
    if c = m.quote then some { s with phase := .quoted k [] }
    else if m.parts c then none
    else some { s with phase := .bare k [c] }
  | .bare k v =>
    if c = m.sep then some { fields := s.fields ++ [(k, v)], phase := .key [] }
    else if m.parts c then none
    else some { s with phase := .bare k (v ++ [c]) }
  | .quoted k v =>
    if c = m.quote then some { s with phase := .closed k v }
    else if c = m.esc then some { s with phase := .escaped k v }
    else some { s with phase := .quoted k (v ++ [c]) }
  | .escaped k v =>
    if c = m.quote || c = m.esc then some { s with phase := .quoted k (v ++ [c]) } else none
  | .closed k v =>
    if c = m.sep then some { fields := s.fields ++ [(k, v)], phase := .key [] } else none

def readFields (l : List α) : Option (List (List α × List α)) :=
  (l.foldlM m.readSymbol {}).bind Reading.atEnd

end FieldMarks

end Read

section RoundTrip

variable {α : Type*} [DecidableEq α] (m : FieldMarks α)

namespace FieldMarks

/-- A key is not empty, and has no mark in it which ends it. -/
def IsKey (k : List α) : Prop := k ≠ [] ∧ ∀ c ∈ k, m.parts c = false

lemma parts_split : m.parts m.split = true := by simp [parts]

lemma parts_sep : m.parts m.sep = true := by simp [parts]

lemma readSymbol_key {k : List α} {fs : List (List α × List α)} {l : List α}
    (hl : ∀ c ∈ l, m.parts c = false) :
    l.foldlM m.readSymbol ⟨fs, .key k⟩ = some ⟨fs, .key (k ++ l)⟩ := by
  induction l generalizing k with
  | nil => simp
  | cons c l ih =>
    obtain ⟨hc, hl⟩ := List.forall_mem_cons.mp hl
    have hsplit : c ≠ m.split := by
      rintro rfl
      exact absurd hc (by simp [parts_split])
    have hstep : m.readSymbol ⟨fs, .key k⟩ c = some ⟨fs, .key (k ++ [c])⟩ := by
      simp [readSymbol, hsplit, hc]
    rw [List.foldlM_cons, hstep, Option.bind_eq_bind, Option.bind_some, ih hl, List.append_assoc]
    rfl

lemma readSymbol_bare {k v : List α} {fs : List (List α × List α)} {l : List α}
    (hl : ∀ c ∈ l, m.parts c = false) :
    l.foldlM m.readSymbol ⟨fs, .bare k v⟩ = some ⟨fs, .bare k (v ++ l)⟩ := by
  induction l generalizing v with
  | nil => simp
  | cons c l ih =>
    obtain ⟨hc, hl⟩ := List.forall_mem_cons.mp hl
    have hsep : c ≠ m.sep := by
      rintro rfl
      exact absurd hc (by simp [parts_sep])
    have hstep : m.readSymbol ⟨fs, .bare k v⟩ c = some ⟨fs, .bare k (v ++ [c])⟩ := by
      simp [readSymbol, hsep, hc]
    rw [List.foldlM_cons, hstep, Option.bind_eq_bind, Option.bind_some, ih hl, List.append_assoc]
    rfl

lemma writeFields_cons_cons (f g : List α × List α) (fields : List (List α × List α)) :
    m.writeFields (f :: g :: fields) = m.writeField f ++ m.sep :: m.writeFields (g :: fields) := by
  simp [writeFields, List.intercalate]

/-- What an escaped symbol looks like. -/
lemma escape_cons (c : α) (l : List α) : m.escape (c :: l) =
    (if c = m.esc ∨ c = m.quote then [m.esc, c] else [c]) ++ m.escape l := by
  unfold escape replaceSymbol
  by_cases hesc : c = m.esc
  · simp [hesc, m.esc_ne_quote]
  · by_cases hquote : c = m.quote
    · simp [hquote, m.esc_ne_quote.symm]
    · simp [hesc, hquote]

/-- Whatever stands in quotes is read as it was. -/
lemma readSymbol_quoted {k v : List α} {fs : List (List α × List α)} (l : List α) :
    (m.escape l).foldlM m.readSymbol ⟨fs, .quoted k v⟩ = some ⟨fs, .quoted k (v ++ l)⟩ := by
  induction l generalizing v with
  | nil => simp [escape, replaceSymbol]
  | cons c l ih =>
    have hstep : (if c = m.esc ∨ c = m.quote then [m.esc, c] else [c]).foldlM m.readSymbol
        ⟨fs, .quoted k v⟩ = some ⟨fs, .quoted k (v ++ [c])⟩ := by
      by_cases hesc : c = m.esc
      · simp [hesc, readSymbol, m.esc_ne_quote]
      · by_cases hquote : c = m.quote
        · simp [hquote, readSymbol, m.esc_ne_quote]
        · simp [hesc, hquote, readSymbol]
    rw [escape_cons, List.foldlM_append, hstep, Option.bind_eq_bind, Option.bind_some, ih,
      List.append_assoc]
    rfl

/-- After a field its key and its value are read, and only a separator or the end may follow. -/
inductive After (fs : List (List α × List α)) (k v : List α) : Reading α → Prop
  | bare : After fs k v ⟨fs, .bare k v⟩
  | closed : After fs k v ⟨fs, .closed k v⟩

lemma readSymbol_field {k v : List α} (hk : m.IsKey k) (fs : List (List α × List α)) :
    ∃ s, (m.writeField (k, v)).foldlM m.readSymbol ⟨fs, .key []⟩ = some s ∧ After fs k v s := by
  have hkey : (k ++ [m.split]).foldlM m.readSymbol ⟨fs, .key []⟩ = some ⟨fs, .value k⟩ := by
    rw [List.foldlM_append, readSymbol_key m hk.2]
    simp [readSymbol, hk.1]
  have hsplit : m.writeField (k, v) = (k ++ [m.split]) ++ m.writeValue v := by
    simp [writeField]
  rw [hsplit, List.foldlM_append, hkey, Option.bind_eq_bind, Option.bind_some]
  unfold writeValue
  split
  · refine ⟨⟨fs, .closed k v⟩, ?_, .closed⟩
    have hopen : m.readSymbol ⟨fs, .value k⟩ m.quote = some ⟨fs, .quoted k []⟩ := by
      simp [readSymbol]
    rw [List.foldlM_cons, hopen, Option.bind_eq_bind, Option.bind_some, List.foldlM_append,
      readSymbol_quoted]
    simp [readSymbol]
  · rename_i hbare
    rw [Bool.or_eq_true, not_or, decide_eq_true_eq, Bool.not_eq_true, List.any_eq_false] at hbare
    obtain ⟨hne, hplain⟩ := hbare
    obtain ⟨c, l, rfl⟩ := List.exists_cons_of_ne_nil hne
    have hall : ∀ d ∈ c :: l, m.parts d = false := fun d hd => Bool.not_eq_true _ |>.mp (hplain d hd)
    have hc := hall c List.mem_cons_self
    have hquote : c ≠ m.quote := by
      rintro rfl
      exact absurd hc (by simp [parts])
    have hopen : m.readSymbol ⟨fs, .value k⟩ c = some ⟨fs, .bare k [c]⟩ := by
      simp [readSymbol, hquote, hc]
    refine ⟨⟨fs, .bare k (c :: l)⟩, ?_, .bare⟩
    rw [List.foldlM_cons, hopen, Option.bind_eq_bind, Option.bind_some,
      readSymbol_bare m (List.forall_mem_cons.mp hall).2]
    rfl

lemma mem_escape {c : α} {l : List α} (h : c ∈ m.escape l) : c = m.esc ∨ c ∈ l := by
  induction l with
  | nil => simp [escape, replaceSymbol] at h
  | cons d l ih =>
    rw [escape_cons, List.mem_append] at h
    cases h with
    | inl h =>
      split at h
      · rw [List.mem_cons, List.mem_singleton] at h
        exact h.imp_right fun hd => List.mem_cons.mpr (.inl hd)
      · exact .inr (List.mem_cons.mpr (.inl (List.mem_singleton.mp h)))
    | inr h => exact (ih h).imp_right fun hl => List.mem_cons_of_mem d hl

/-- A line holds the marks, and what stands in its keys and values. -/
theorem mem_writeFields {fields : List (List α × List α)} {c : α} (h : c ∈ m.writeFields fields) :
    c ∈ [m.sep, m.split, m.quote, m.esc] ∨ ∃ f ∈ fields, c ∈ f.1 ∨ c ∈ f.2 := by
  have hvalue : ∀ v, c ∈ m.writeValue v → c ∈ [m.sep, m.split, m.quote, m.esc] ∨ c ∈ v := by
    intro v hv
    unfold writeValue at hv
    split at hv
    · rw [List.mem_cons, List.mem_append, List.mem_singleton] at hv
      rcases hv with rfl | hv | rfl
      · simp
      · exact (mem_escape m hv).imp_left fun hesc => by simp [hesc]
      · simp
    · exact .inr hv
  have hfield : ∀ f, c ∈ m.writeField f →
      c ∈ [m.sep, m.split, m.quote, m.esc] ∨ c ∈ f.1 ∨ c ∈ f.2 := by
    intro f hf
    unfold writeField at hf
    rw [List.mem_append, List.mem_cons] at hf
    rcases hf with hf | rfl | hf
    · exact .inr (.inl hf)
    · simp
    · exact (hvalue f.2 hf).imp_right .inr
  induction fields with
  | nil => simp [writeFields] at h
  | cons f fields ih =>
    cases fields with
    | nil =>
      have hone : m.writeFields [f] = m.writeField f := by simp [writeFields]
      rw [hone] at h
      exact (hfield f h).imp_right fun hc => ⟨f, List.mem_cons_self, hc⟩
    | cons g fields =>
      rw [writeFields_cons_cons, List.mem_append, List.mem_cons] at h
      rcases h with h | rfl | h
      · exact (hfield f h).imp_right fun hc => ⟨f, List.mem_cons_self, hc⟩
      · simp
      · exact (ih h).imp_right fun ⟨g, hg, hc⟩ => ⟨g, List.mem_cons_of_mem _ hg, hc⟩

variable {m}

omit [DecidableEq α] in
lemma After.atEnd {fs : List (List α × List α)} {k v : List α} {s : Reading α} (h : After fs k v s) :
    s.atEnd = some (fs ++ [(k, v)]) := by
  cases h <;> rfl

lemma After.sep {fs : List (List α × List α)} {k v : List α} {s : Reading α} (h : After fs k v s) :
    m.readSymbol s m.sep = some ⟨fs ++ [(k, v)], .key []⟩ := by
  cases h <;> simp [readSymbol]

/-- What is written is read back. -/
theorem readFields_writeFields {fields : List (List α × List α)} (hkeys : ∀ f ∈ fields, m.IsKey f.1) :
    m.readFields (m.writeFields fields) = some fields := by
  have hrun : ∀ (fields : List (List α × List α)) (fs : List (List α × List α)), fields ≠ [] →
      (∀ f ∈ fields, m.IsKey f.1) →
        ((m.writeFields fields).foldlM m.readSymbol ⟨fs, .key []⟩).bind Reading.atEnd =
          some (fs ++ fields) := by
    intro fields
    induction fields with
    | nil => exact fun fs h => absurd rfl h
    | cons f fields ih =>
      intro fs _ hkeys
      obtain ⟨hf, hkeys⟩ := List.forall_mem_cons.mp hkeys
      obtain ⟨s, hs, hafter⟩ := readSymbol_field m (v := f.2) hf fs
      cases fields with
      | nil =>
        have hone : m.writeFields [f] = m.writeField (f.1, f.2) := by simp [writeFields]
        rw [hone, hs, Option.bind_some, hafter.atEnd]
      | cons g fields =>
        rw [writeFields_cons_cons, List.foldlM_append, hs, Option.bind_eq_bind, Option.bind_some,
          List.foldlM_cons, hafter.sep, Option.bind_eq_bind, Option.bind_some,
          ih _ (List.cons_ne_nil g fields) hkeys, List.append_assoc]
        rfl
  cases fields with
  | nil => rfl
  | cons f fields => exact hrun (f :: fields) [] (List.cons_ne_nil f fields) hkeys

end FieldMarks

end RoundTrip

end GpuReservation.Library
