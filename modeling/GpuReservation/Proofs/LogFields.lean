import GpuReservation.Model.LogFields
import Mathlib.Data.Bool.AllAny
import Mathlib.Tactic.Common

/-!
# What a log line says

A line of the log is read back field by field: no value ends its own field or its own line.
-/

namespace GpuReservation.Proofs

open GpuReservation.Library GpuReservation.Model

/-- Where `str.splitlines` ends a line. -/
def lineBreaks : List Char :=
  ['\n', '\r', '\x0b', '\x0c', '\x1c', '\x1d', '\x1e', '\u0085', '\u2028', '\u2029']

/-- The marks of the grammar of `kv`. -/
def logMarks : FieldMarks Char where
  sep := ' '
  split := '='
  quote := '"'
  esc := '\\'
  esc_ne_quote := by decide
  quote_ne_sep := by decide
  quote_ne_split := by decide
  sep_ne_split := by decide

/-- A reader of the log. -/
def readLine (line : String) : Option (List (String × String)) :=
  (logMarks.readFields line.toList).map fun fields =>
    fields.map fun f => (String.ofList f.1, String.ofList f.2)

/-- Neither None nor empty. -/
def given : FieldValue → Bool
  | .absent => false
  | value => value.render ≠ ""

section Line

variable (isprintable : Char → Bool)

/-- The keys and the values which a line should say. -/
def saidFields (fields : List (String × FieldValue)) : List (String × String) :=
  (fields.filter fun f => given f.2).map fun f => (normalKey f.1, scrub isprintable f.2.render)

def saidSymbols (fields : List (String × FieldValue)) : List (List Char × List Char) :=
  (saidFields isprintable fields).map fun f => (f.1.toList, f.2.toList)

lemma parts_iff (c : Char) : logMarks.parts c = true ↔ c = ' ' ∨ c = '=' ∨ c = '"' := by
  unfold FieldMarks.parts
  rw [Bool.or_eq_true, Bool.or_eq_true, decide_eq_true_eq, decide_eq_true_eq, decide_eq_true_eq,
    or_assoc]
  rfl

lemma needsQuoting_eq (value : String) : needsQuoting value = value.toList.any logMarks.parts := by
  unfold needsQuoting
  congr 1
  funext c
  rw [Bool.eq_iff_iff, parts_iff]
  simp

lemma toList_escapeQuotes (value : String) :
    (escapeQuotes value).toList = logMarks.escape value.toList := by
  simp [escapeQuotes, FieldMarks.escape, logMarks]

/-- The three ways to write a value are the two of the grammar. -/
lemma kvPart_toList (f : String × FieldValue) : (kvPart isprintable f).map String.toList =
    if given f.2 then
      some (logMarks.writeField ((normalKey f.1).toList, (scrub isprintable f.2.render).toList))
    else none := by
  obtain ⟨key, value⟩ := f
  have hvalue : ∀ rendered : String, (if rendered = "" then none
      else if scrub isprintable rendered = "" then some (normalKey key ++ "=\"\"")
      else if needsQuoting (scrub isprintable rendered) then
        some (normalKey key ++ "=\"" ++ escapeQuotes (scrub isprintable rendered) ++ "\"")
      else some (normalKey key ++ "=" ++ scrub isprintable rendered)).map String.toList =
      if rendered ≠ "" then some (logMarks.writeField
        ((normalKey key).toList, (scrub isprintable rendered).toList)) else none := by
    intro rendered
    generalize scrub isprintable rendered = scrubbed
    by_cases hr : rendered = ""
    · simp [hr]
    rw [if_neg hr, if_pos hr]
    by_cases hempty : scrubbed = ""
    · simp [hempty, FieldMarks.writeField, FieldMarks.writeValue, FieldMarks.escape, replaceSymbol,
        logMarks]
    have hne : scrubbed.toList ≠ [] := by simpa using hempty
    rw [if_neg hempty, needsQuoting_eq]
    unfold FieldMarks.writeField FieldMarks.writeValue
    by_cases hparts : scrubbed.toList.any logMarks.parts = true
    · simp only [hparts, if_true, Bool.or_true, Option.map_some, String.toList_append,
        toList_escapeQuotes]
      simp [logMarks]
    · rw [Bool.not_eq_true] at hparts
      simp only [hparts, hne, Bool.false_eq_true, if_false, Bool.or_false, decide_false,
        Option.map_some, String.toList_append]
      simp [logMarks]
  cases value with
  | absent => rfl
  | text | truth | items | bag | shown => simpa [kvPart, given] using hvalue _

lemma kv_toList (fields : List (String × FieldValue)) :
    (kv isprintable fields).toList = logMarks.writeFields (saidSymbols isprintable fields) := by
  unfold kv FieldMarks.writeFields saidSymbols saidFields
  rw [String.toList_intercalate]
  congr 1
  induction fields with
  | nil => rfl
  | cons f fields ih =>
    have hf := kvPart_toList isprintable f
    by_cases hgiven : given f.2
    · rw [if_pos hgiven, Option.map_eq_some_iff] at hf
      obtain ⟨part, hpart, hlist⟩ := hf
      simp only [List.filterMap_cons, hpart, List.filter_cons, hgiven, if_true, List.map_cons, hlist, ih]
    · rw [if_neg hgiven, Option.map_eq_none_iff] at hf
      simp only [List.filterMap_cons, hf, List.filter_cons, hgiven, ih]
      simp

/-- What a key is made of: letters, digits, underscores and dots. -/
lemma mem_normalKey {key : String} {c : Char} (h : c ∈ (normalKey key).toList) : keyOk c = true := by
  unfold normalKey at h
  rw [String.toList_ofList, List.mem_map] at h
  obtain ⟨d, -, rfl⟩ := h
  split
  · assumption
  · decide

lemma parts_of_keyOk {c : Char} (h : keyOk c = true) : logMarks.parts c = false := by
  rw [Bool.eq_false_iff]
  intro hp
  rcases (parts_iff c).mp hp with rfl | rfl | rfl <;> revert h <;> decide

lemma not_lineBreak_of_keyOk {c : Char} (h : keyOk c = true) : c ∉ lineBreaks := by
  intro hc
  have hall : ∀ d ∈ lineBreaks, keyOk d = false :=
    List.all_iff_forall_prop.mp (by decide)
  rw [hall c hc] at h
  exact Bool.noConfusion h

/-- No value forges a field or a line. -/
theorem kv_readLine (hbreak : ∀ c ∈ lineBreaks, isprintable c = false)
    (fields : List (String × FieldValue)) (hkeys : ∀ f ∈ fields, normalKey f.1 ≠ "") :
    (∀ c ∈ (kv isprintable fields).toList, c ∉ lineBreaks) ∧
      readLine (kv isprintable fields) = some (saidFields isprintable fields) := by
  have hsaid : ∀ f ∈ saidSymbols isprintable fields, ∃ g ∈ fields,
      f = ((normalKey g.1).toList, (scrub isprintable g.2.render).toList) := by
    intro f hf
    simp only [saidSymbols, saidFields, List.map_map, List.mem_map, List.mem_filter] at hf
    obtain ⟨g, ⟨hg, -⟩, rfl⟩ := hf
    exact ⟨g, hg, rfl⟩
  constructor
  · intro c hc hline
    rw [kv_toList] at hc
    rcases logMarks.mem_writeFields hc with hmark | ⟨f, hf, hc⟩
    · have hmarks : ∀ d ∈ lineBreaks,
          d ∉ [logMarks.sep, logMarks.split, logMarks.quote, logMarks.esc] :=
        List.all_iff_forall_prop.mp (by decide)
      exact hmarks c hline hmark
    · obtain ⟨g, -, rfl⟩ := hsaid f hf
      dsimp only at hc
      rcases hc with hc | hc
      · exact not_lineBreak_of_keyOk (mem_normalKey hc) hline
      · simp only [scrub, String.toList_ofList, List.mem_filter] at hc
        rw [hbreak c hline] at hc
        exact Bool.noConfusion hc.2
  · have hread : logMarks.readFields (kv isprintable fields).toList =
        some (saidSymbols isprintable fields) := by
      rw [kv_toList]
      apply FieldMarks.readFields_writeFields
      intro f hf
      obtain ⟨g, hg, rfl⟩ := hsaid f hf
      unfold FieldMarks.IsKey
      dsimp only
      exact ⟨by simpa using hkeys g hg, fun c hc => parts_of_keyOk (mem_normalKey hc)⟩
    unfold readLine
    rw [hread, Option.map_some, saidSymbols, List.map_map]
    congr 1
    conv_rhs => rw [← List.map_id (saidFields isprintable fields)]
    apply List.map_congr_left
    intro f _
    simp

/-- A value which closes its quote, begins a field and breaks the line. -/
theorem kv_readLine_forged :
    let ascii := fun c : Char => 32 ≤ c.toNat && c.toNat < 127
    let fields := [("event", .text "login"), ("user_", .text "x\" event=\"root\nuser=y\\")]
    (∀ c ∈ (kv ascii fields).toList, c ∉ lineBreaks) ∧
      readLine (kv ascii fields) =
        some [("event", "login"), ("user", "x\" event=\"rootuser=y\\")] := by
  have h := kv_readLine (fun c : Char => 32 ≤ c.toNat && c.toNat < 127)
    (List.all_iff_forall_prop.mp (by decide))
    [("event", .text "login"), ("user_", .text "x\" event=\"root\nuser=y\\")] (by decide)
  refine ⟨h.1, h.2.trans (congrArg some ?_)⟩
  decide

end Line

end GpuReservation.Proofs
