import GpuReservation.Library.InTurn
import GpuReservation.Model.NodePlacement
import Mathlib.Tactic.Common

/-!
# The nodes a placement allows

`matches` answers as Kubernetes' rules do, but for integers: it compares them without a bound, and raises
on those of too many digits.
-/

namespace GpuReservation.Proofs

open GpuReservation.Library GpuReservation.Model

/-! ### Kubernetes' rules -/

/-- `strconv.ParseInt(s, 10, 64)`. -/
def parseInt64 (s : String) : Option Int := (goInt? s).filter fun n => -2 ^ 63 ≤ n && n < 2 ^ 63

def operatorHolds (values : List String) (value : Option String) : Operator → Prop
  | .inSet => ∃ v, value = some v ∧ v ∈ values
  | .notInSet => ∀ v, value = some v → v ∉ values
  | .labelExists => ∃ v, value = some v
  | .doesNotExist => value = none
  | .gt => ∃ v b m n, value = some v ∧ values = [b] ∧ parseInt64 v = some m ∧
      parseInt64 b = some n ∧ n < m
  | .lt => ∃ v b m n, value = some v ∧ values = [b] ∧ parseInt64 v = some m ∧
      parseInt64 b = some n ∧ m < n

/-- A node has the pairs of a selector. -/
def selectorHolds (selector : List (String × String)) (labels : Dict String String) : Prop :=
  ∀ kv ∈ selector, labels.get? kv.1 = some kv.2

def requirementHolds (r : RawRequirement) (value : Option String) : Prop :=
  ∃ op : Operator, r.operator = some op.text ∧ operatorHolds (r.values.getD []) value op

/-- A term is not empty, and all of it holds. -/
def termAllows (t : RawTerm) (nodeName : String) (labels : Dict String String) : Prop :=
  (t.matchExpressions.getD [] ≠ [] ∨ t.matchFields.getD [] ≠ []) ∧
    (∀ r ∈ t.matchExpressions.getD [], requirementHolds r (r.key.bind labels.get?)) ∧
    ∀ r ∈ t.matchFields.getD [], requirementHolds r (some nodeName)

def kubernetesAllows (spec : PlacementSpec) (nodeName : String) (labels : Dict String String) :
    Prop :=
  selectorHolds (spec.nodeSelector.getD ∅).entries labels ∧
    ∀ terms, spec.required = some terms → ∃ t ∈ terms.getD [], termAllows t nodeName labels

/-! ### What the integers do -/

section Requirement

variable (r : NodeRequirement) (value : Option String)

/-- `Gt` or `Lt` on two decimal literals. -/
def Compares (v b : String) (m n : Int) : Prop :=
  (r.operator = .gt ∨ r.operator = .lt) ∧ value = some v ∧ r.values = [b] ∧ goInt? v = some m ∧
    goInt? b = some n

/-- One of the literals has too many digits. -/
def Overlong : Prop := ∃ v b m n, Compares r value v b m n ∧ (tooLong v || tooLong b) = true

/-- The requirement holds if integers of any size are compared, as far as `int()` takes them. -/
def HoldsUnbounded : Prop :=
  ¬ Overlong r value ∧ (operatorHolds r.values value r.operator ∨
    ∃ v b m n, Compares r value v b m n ∧ if r.operator = .gt then n < m else m < n)

lemma goInt?_of_parseInt64 {s : String} {n : Int} (h : parseInt64 s = some n) : goInt? s = some n := by
  unfold parseInt64 at h
  rw [Option.filter_eq_some_iff] at h
  exact h.1

variable {r value}

lemma compareInts_eq_none {compare : Int → Int → Bool} {values : List String} :
    compareInts compare value values = none ↔ ∃ v b m n, value = some v ∧ values = [b] ∧
      goInt? v = some m ∧ goInt? b = some n ∧ (tooLong v || tooLong b) = true := by
  unfold compareInts
  constructor
  · intro h
    split at h
    · split at h
      · split at h
        · exact ⟨_, _, _, _, rfl, rfl, ‹_›, ‹_›, ‹_›⟩
        · exact absurd h (Option.some_ne_none _)
      · exact absurd h (Option.some_ne_none _)
    · exact absurd h (Option.some_ne_none _)
  · rintro ⟨v, b, m, n, rfl, rfl, hm, hn, hlong⟩
    simp only [hm, hn]
    exact if_pos hlong

lemma compareInts_eq_true {compare : Int → Int → Bool} {values : List String} :
    compareInts compare value values = some true ↔ ∃ v b m n, value = some v ∧ values = [b] ∧
      goInt? v = some m ∧ goInt? b = some n ∧ (tooLong v || tooLong b) = false ∧
        compare m n = true := by
  unfold compareInts
  constructor
  · intro h
    split at h
    · split at h
      · split at h
        · exact absurd h.symm (Option.some_ne_none _)
        · exact ⟨_, _, _, _, rfl, rfl, ‹_›, ‹_›, Bool.eq_false_iff.mpr ‹_›, Option.some.inj h⟩
      · exact Bool.noConfusion (Option.some.inj h)
    · exact Bool.noConfusion (Option.some.inj h)
  · rintro ⟨v, b, m, n, rfl, rfl, hm, hn, hlong, hcompare⟩
    simp only [hm, hn, hlong, hcompare]
    rfl

lemma requirement_eq_none : r.matches? value = none ↔ Overlong r value := by
  obtain ⟨key, operator, values⟩ := r
  cases operator with
  | gt | lt => simp [NodeRequirement.matches?, compareInts_eq_none, Overlong, Compares, and_assoc]
  | inSet | notInSet | labelExists | doesNotExist =>
    simp [NodeRequirement.matches?, Overlong, Compares]

/-- Kubernetes' integers are among those that are compared. -/
lemma holdsUnbounded_of_holds (h : operatorHolds r.values value r.operator) :
    HoldsUnbounded r value ∨ Overlong r value := by
  by_cases hlong : Overlong r value
  · exact .inr hlong
  · exact .inl ⟨hlong, .inl h⟩

/-- A comparison, where the literals are not too long. -/
lemma compares_iff {P : Int → Int → Prop} : (∃ v b m n, value = some v ∧ r.values = [b] ∧
      goInt? v = some m ∧ goInt? b = some n ∧ (tooLong v || tooLong b) = false ∧ P m n) ∧
        (r.operator = .gt ∨ r.operator = .lt) ↔
    ¬ Overlong r value ∧ ∃ v b m n, Compares r value v b m n ∧ P m n := by
  constructor
  · rintro ⟨⟨v, b, m, n, rfl, hb, hm, hn, hlong, hP⟩, hop⟩
    refine ⟨?_, v, b, m, n, ⟨hop, rfl, hb, hm, hn⟩, hP⟩
    rintro ⟨v', b', m', n', ⟨-, hv', hb', -, -⟩, hlong'⟩
    obtain rfl := Option.some.inj hv'
    obtain ⟨rfl, -⟩ := List.cons.inj (hb.symm.trans hb')
    rw [hlong] at hlong'
    exact Bool.noConfusion hlong'
  · rintro ⟨hshort, v, b, m, n, hcompares, hP⟩
    obtain ⟨hop, rfl, hb, hm, hn⟩ := hcompares
    refine ⟨⟨v, b, m, n, rfl, hb, hm, hn, ?_, hP⟩, hop⟩
    rw [Bool.eq_false_iff]
    exact fun hlong => hshort ⟨v, b, m, n, ⟨hop, rfl, hb, hm, hn⟩, hlong⟩

/-- Gt and Lt compare the integers as Kubernetes does, where it has them at all. -/
lemma compares_of_holds (hop : r.operator = .gt ∨ r.operator = .lt)
    (h : operatorHolds r.values value r.operator) :
    ∃ v b m n, Compares r value v b m n ∧ if r.operator = .gt then n < m else m < n := by
  rcases hop with hop | hop
  all_goals
    rw [hop] at h ⊢
    obtain ⟨v, b, m, n, hv, hb, hm, hn, hlt⟩ := h
    refine ⟨v, b, m, n, ⟨by simp [hop], hv, hb, goInt?_of_parseInt64 hm, goInt?_of_parseInt64 hn⟩, ?_⟩
    simpa using hlt

lemma requirement_eq_true : r.matches? value = some true ↔ HoldsUnbounded r value := by
  by_cases hop : r.operator = .gt ∨ r.operator = .lt
  · have hcompares : HoldsUnbounded r value ↔ ¬ Overlong r value ∧
        ∃ v b m n, Compares r value v b m n ∧ if r.operator = .gt then n < m else m < n := by
      unfold HoldsUnbounded
      constructor
      · rintro ⟨hshort, h | h⟩
        · exact ⟨hshort, compares_of_holds hop h⟩
        · exact ⟨hshort, h⟩
      · exact fun h => ⟨h.1, .inr h.2⟩
    rw [hcompares, ← compares_iff]
    unfold NodeRequirement.matches?
    rcases hop with hop | hop
    · rw [hop]
      simp [compareInts_eq_true]
    · rw [hop]
      simp [compareInts_eq_true]
  · obtain ⟨key, operator, values⟩ := r
    cases operator with
    | gt | lt => simp at hop
    | inSet | notInSet | labelExists | doesNotExist =>
      cases value <;> simp [NodeRequirement.matches?, NodeRequirement.matches, HoldsUnbounded,
        Overlong, Compares, operatorHolds]

end Requirement

/-! ### Terms -/

section Term

variable (t : NodeSelectorTerm) (nodeName : String) (labels : Dict String String)

/-- The requirements of a term, each with the node's value for it. -/
def termEntries : List (NodeRequirement × Option String) :=
  t.matchExpressions.map (fun r => (r, labels.get? r.key)) ++
    t.matchFields.map fun r => (r, some nodeName)

def TermHolds (entries : List (NodeRequirement × Option String)) : Prop :=
  entries ≠ [] ∧ ∀ e ∈ entries, operatorHolds e.1.values e.2 e.1.operator

def TermHoldsUnbounded (entries : List (NodeRequirement × Option String)) : Prop :=
  entries ≠ [] ∧ ∀ e ∈ entries, HoldsUnbounded e.1 e.2

/-- A literal of too many digits is come to: what stands before it holds. -/
def TermOverlong (entries : List (NodeRequirement × Option String)) : Prop :=
  ∃ l₁ e l₂, entries = l₁ ++ e :: l₂ ∧ Overlong e.1 e.2 ∧ ∀ d ∈ l₁, HoldsUnbounded d.1 d.2

lemma term_matches? : t.matches? nodeName labels =
    if termEntries t nodeName labels = [] then some false
    else (termEntries t nodeName labels).allM fun e => e.1.matches? e.2 := by
  unfold NodeSelectorTerm.matches? termEntries
  rw [allM_append, allM_map, allM_map]
  by_cases hempty : t.matchExpressions = [] ∧ t.matchFields = []
  · simp [hempty]
  · rw [if_neg (by simpa using hempty), if_neg (by simpa using hempty)]
    rfl

lemma term_eq_true : t.matches? nodeName labels = some true ↔
    TermHoldsUnbounded (termEntries t nodeName labels) := by
  rw [term_matches?]
  unfold TermHoldsUnbounded
  split
  · simp_all
  · rename_i hne
    simp only [allM_eq_some_true, requirement_eq_true]
    exact (and_iff_right hne).symm

lemma term_eq_none : t.matches? nodeName labels = none ↔
    TermOverlong (termEntries t nodeName labels) := by
  rw [term_matches?]
  unfold TermOverlong
  split
  · rename_i hempty
    rw [hempty]
    simp
  · simp only [allM_eq_none, requirement_eq_true, requirement_eq_none]

variable {t nodeName labels}

/-- A term that holds is found to hold, unless a literal in it has too many digits. -/
lemma ne_false_of_termHolds (h : TermHolds (termEntries t nodeName labels)) :
    t.matches? nodeName labels ≠ some false := by
  rw [term_matches?, if_neg h.1]
  intro hfalse
  obtain ⟨e, he, hrequirement⟩ := exists_of_allM_eq_some_false hfalse
  cases holdsUnbounded_of_holds (h.2 e he) with
  | inl hholds =>
    rw [requirement_eq_true.mpr hholds] at hrequirement
    exact absurd hrequirement (by decide)
  | inr hlong =>
    rw [requirement_eq_none.mpr hlong] at hrequirement
    exact absurd hrequirement.symm (Option.some_ne_none _)

end Term

/-! ### Placements -/

section Placement

variable {nodeName : String} {labels : Dict String String}

/-- Where the integers make a difference: the node has what the selector asks for, and either a literal
of too many digits is come to before a term holds, or no term holds, but one would if the integers had no
bound. -/
def Misjudges (p : NodePlacement) (nodeName : String) (labels : Dict String String) : Prop :=
  selectorHolds p.nodeSelector labels ∧
    ∃ terms, p.affinityTerms = some terms ∧
      ((∃ l₁ t l₂, terms = l₁ ++ t :: l₂ ∧ TermOverlong (termEntries t nodeName labels) ∧
          ∀ u ∈ l₁, ¬ TermHoldsUnbounded (termEntries u nodeName labels)) ∨
        (∀ t ∈ terms, ¬ TermHolds (termEntries t nodeName labels)) ∧
          ∃ t ∈ terms, TermHoldsUnbounded (termEntries t nodeName labels))

def PlacementHolds (p : NodePlacement) (nodeName : String) (labels : Dict String String) : Prop :=
  selectorHolds p.nodeSelector labels ∧
    ∀ terms, p.affinityTerms = some terms →
      ∃ t ∈ terms, TermHolds (termEntries t nodeName labels)

/-- It returns, and returns whether the placement holds. -/
def Evaluates (p : NodePlacement) (nodeName : String) (labels : Dict String String) (allows : Prop) : Prop :=
  ∃ b, p.matches? nodeName labels = some b ∧ (b = true ↔ allows)

lemma evaluates_iff (p : NodePlacement) :
    Evaluates p nodeName labels (PlacementHolds p nodeName labels) ↔ ¬ Misjudges p nodeName labels := by
  obtain ⟨selector, affinity⟩ := p
  unfold Evaluates NodePlacement.matches? PlacementHolds Misjudges
  dsimp only
  have hany : selector.any (fun kv => labels.get? kv.1 ≠ some kv.2) = true ↔
      ¬ selectorHolds selector labels := by
    unfold selectorHolds
    simp
  by_cases hselector : selectorHolds selector labels
  · rw [if_neg (by rw [hany, not_not]; exact hselector)]
    cases affinity with
    | none => simp [hselector]
    | some terms =>
      have hstuck : terms.anyM (fun t => t.matches? nodeName labels) = none ↔
          ∃ l₁ t l₂, terms = l₁ ++ t :: l₂ ∧ TermOverlong (termEntries t nodeName labels) ∧
            ∀ u ∈ l₁, ¬ TermHoldsUnbounded (termEntries u nodeName labels) := by
        simp only [anyM_eq_none, term_eq_none, Ne, term_eq_true]
      simp only [hselector, Option.some.injEq, forall_eq', exists_eq_left', true_and, ← hstuck]
      cases hresult : terms.anyM fun t => t.matches? nodeName labels with
      | none => simp
      | some b =>
        cases b with
        | true =>
          obtain ⟨t, ht, htrue⟩ := exists_of_anyM_eq_some_true hresult
          have hunbounded : ∃ t ∈ terms, TermHoldsUnbounded (termEntries t nodeName labels) :=
            ⟨t, ht, (term_eq_true t nodeName labels).mp htrue⟩
          simp [hunbounded]
        | false =>
          have hall := (anyM_eq_some_false _ _).mp hresult
          have hnone : ¬ ∃ t ∈ terms, TermHolds (termEntries t nodeName labels) := by
            rintro ⟨t, ht, h⟩
            exact ne_false_of_termHolds h (hall t ht)
          have hnot : ¬ ∃ t ∈ terms, TermHoldsUnbounded (termEntries t nodeName labels) := by
            rintro ⟨t, ht, h⟩
            have htrue := (term_eq_true t nodeName labels).mpr h
            rw [hall t ht] at htrue
            exact absurd htrue (by decide)
          simp [hnot, hnone]
  · rw [if_pos (hany.mpr hselector)]
    simp [hselector]

end Placement

/-! ### Where it returns -/

section Returns

variable {nodeName : String} {labels : Dict String String}

lemma requirement_matches {r : NodeRequirement} {value : Option String} {b : Bool}
    (h : r.matches? value = some b) : r.matches value = b := by
  obtain ⟨key, operator, values⟩ := r
  cases operator with
  | gt | lt =>
    unfold NodeRequirement.matches? compareInts at h
    unfold NodeRequirement.matches
    dsimp only at h ⊢
    split at h
    · rename_i v c
      rw [Option.bind_some]
      split at h
      · rename_i m n hm hn
        split at h
        · exact absurd h.symm (Option.some_ne_none _)
        · rw [hm]
          dsimp only
          rw [hn]
          exact Option.some.inj h
      · rename_i hnone
        obtain rfl := Option.some.inj h
        cases hm : goInt? v with
        | none => rfl
        | some m =>
          cases hn : goInt? c with
          | none =>
            dsimp only
            rw [hn]
            rfl
          | some n => exact absurd hn (hnone m n hm)
    · rename_i hnone
      obtain rfl := Option.some.inj h
      split
      · rename_i m c hm
        obtain ⟨v, rfl, -⟩ := Option.bind_eq_some_iff.mp hm
        exact absurd rfl (hnone v c rfl)
      · rfl
  | inSet | notInSet | labelExists | doesNotExist => exact Option.some.inj h

lemma term_matches {t : NodeSelectorTerm} {b : Bool} (h : t.matches? nodeName labels = some b) :
    t.matches nodeName labels = b := by
  unfold NodeSelectorTerm.matches
  rw [term_matches?] at h
  split at h
  · rename_i hempty
    simp_all [termEntries]
  · rename_i hne
    have hall := all_of_allM (q := fun e => e.1.matches e.2) (fun _ _ => requirement_matches) h
    have hnonempty : (t.matchExpressions ≠ [] || t.matchFields ≠ []) = true := by
      rw [Bool.or_eq_true, decide_eq_true_eq, decide_eq_true_eq, ← not_and_or]
      simpa [termEntries] using hne
    rw [hnonempty, Bool.true_and, ← hall]
    unfold termEntries
    rw [List.all_append, List.all_map, List.all_map]
    rfl

/-- Where it returns, it returns what the controller goes by. -/
theorem placement_matches {p : NodePlacement} {b : Bool} (h : p.matches? nodeName labels = some b) :
    p.matches nodeName labels = b := by
  unfold NodePlacement.matches? at h
  unfold NodePlacement.matches
  split at h
  · rename_i hany
    obtain rfl := Option.some.inj h
    rw [Bool.and_eq_false_iff, List.all_eq_false]
    left
    simpa using hany
  · rename_i hall
    have hselector : (p.nodeSelector.all fun kv => labels.get? kv.1 = some kv.2) = true := by
      simpa using hall
    rw [hselector, Bool.true_and]
    cases hterms : p.affinityTerms with
    | none =>
      rw [hterms] at h
      exact Option.some.inj h
    | some terms =>
      rw [hterms] at h
      exact any_of_anyM (fun _ _ => term_matches) h

end Returns

/-! ### Reading the spec -/

section Read

variable {nodeName : String} {labels : Dict String String}

lemma text_injective {op op' : Operator} (h : op.text = op'.text) : op = op' := by
  cases op <;> cases op' <;> first | rfl | exact absurd h (by decide)

lemma nodeRequirement_eq_some {operators : List Operator} {key : Option String} {r : RawRequirement}
    {q : NodeRequirement} (h : nodeRequirement operators key r = some q) :
    r.operator = some q.operator.text ∧ r.key = some q.key ∧ r.values.getD [] = q.values := by
  unfold nodeRequirement at h
  split at h
  · rename_i operator reqKey hoperator hkey
    split at h
    · exact absurd h.symm (Option.some_ne_none _)
    · obtain rfl := Option.some.inj h
      obtain ⟨text, htext, hfind⟩ := Option.bind_eq_some_iff.mp hoperator
      have hop := List.find?_some hfind
      rw [decide_eq_true_eq] at hop
      exact ⟨htext.trans (congrArg some hop.symm), hkey, rfl⟩
  · exact absurd h.symm (Option.some_ne_none _)

lemma requirementHolds_iff {r : RawRequirement} {q : NodeRequirement} {value : Option String}
    (hoperator : r.operator = some q.operator.text) (hvalues : r.values.getD [] = q.values) :
    requirementHolds r value ↔ operatorHolds q.values value q.operator := by
  unfold requirementHolds
  rw [hvalues, hoperator]
  constructor
  · rintro ⟨op, htext, hholds⟩
    rwa [text_injective (Option.some.inj htext)]
  · exact fun h => ⟨q.operator, rfl, h⟩

/-- A list of requirements holds as it was read. -/
lemma forall_requirementHolds_iff {raw : Option (List RawRequirement)} {operators : List Operator}
    {key : Option String} {l : List NodeRequirement} (h : nodeRequirements raw operators key = some l)
    (value : String → Option String) :
    (∀ r ∈ raw.getD [], requirementHolds r (r.key.bind value)) ↔
      ∀ q ∈ l, operatorHolds q.values (value q.key) q.operator := by
  constructor
  · intro hall q hq
    obtain ⟨r, hr, hread⟩ := exists_of_mapM h hq
    obtain ⟨hoperator, hkey, hvalues⟩ := nodeRequirement_eq_some hread
    have hholds := hall r hr
    rwa [requirementHolds_iff hoperator hvalues, hkey] at hholds
  · intro hall r hr
    obtain ⟨q, hq, hread⟩ := exists_read_of_mapM h hr
    obtain ⟨hoperator, hkey, hvalues⟩ := nodeRequirement_eq_some hread
    rw [requirementHolds_iff hoperator hvalues, hkey]
    exact hall q hq

lemma requirementHolds_of_field {r : RawRequirement} {operators : List Operator} {key : Option String}
    {q : NodeRequirement} (h : nodeRequirement operators key r = some q) :
    r.key.bind (fun _ => some nodeName) = some nodeName := by
  rw [(nodeRequirement_eq_some h).2.1]
  rfl

lemma termAllows_iff {raw : RawTerm} {t : NodeSelectorTerm} (h : nodeSelectorTerm raw = some t) :
    termAllows raw nodeName labels ↔ TermHolds (termEntries t nodeName labels) := by
  unfold nodeSelectorTerm at h
  split at h
  · rename_i expressions fields hexpressions hfields
    obtain rfl := Option.some.inj h
    have hlabels := forall_requirementHolds_iff hexpressions labels.get?
    have hname := forall_requirementHolds_iff hfields fun _ => some nodeName
    have hkeys : ∀ r ∈ raw.matchFields.getD [], r.key.bind (fun _ => some nodeName) = some nodeName := by
      intro r hr
      obtain ⟨q, -, hread⟩ := exists_read_of_mapM hfields hr
      exact requirementHolds_of_field hread
    have hname' : (∀ r ∈ raw.matchFields.getD [], requirementHolds r (some nodeName)) ↔
        ∀ q ∈ fields, operatorHolds q.values (some nodeName) q.operator := by
      rw [← hname]
      exact forall₂_congr fun r hr => by rw [hkeys r hr]
    have hnil : termEntries ⟨expressions, fields⟩ nodeName labels = [] ↔
        raw.matchExpressions.getD [] = [] ∧ raw.matchFields.getD [] = [] := by
      rw [← eq_nil_iff_of_mapM hexpressions, ← eq_nil_iff_of_mapM hfields]
      simp [termEntries]
    unfold termAllows TermHolds
    rw [hlabels, hname', ← not_and_or, Ne, hnil]
    unfold termEntries
    rw [List.forall_mem_append, List.forall_mem_map, List.forall_mem_map]
  · exact absurd h.symm (Option.some_ne_none _)

lemma placementHolds_iff {spec : PlacementSpec} {p : NodePlacement}
    (h : getPodNodePlacement spec = some p) :
    kubernetesAllows spec nodeName labels ↔ PlacementHolds p nodeName labels := by
  have hsorted : ∀ selector : Dict String String,
      selectorHolds (sortedItems selector) labels ↔ selectorHolds selector.entries labels := by
    intro selector
    simp [selectorHolds, sortedItems, List.mem_insertionSort]
  unfold getPodNodePlacement at h
  dsimp only at h
  split at h
  · exact absurd h.symm (Option.some_ne_none _)
  · unfold kubernetesAllows PlacementHolds
    cases hrequired : spec.required with
    | none =>
      rw [hrequired] at h
      obtain rfl := Option.some.inj h
      simp [hsorted]
    | some terms =>
      rw [hrequired] at h
      obtain ⟨digested, hread, rfl⟩ := Option.map_eq_some_iff.mp h
      dsimp only
      rw [hsorted]
      refine and_congr_right fun _ => ?_
      simp only [Option.some.injEq, forall_eq']
      constructor
      · rintro ⟨raw, hraw, hallows⟩
        obtain ⟨t, ht, hterm⟩ := exists_read_of_mapM hread hraw
        exact ⟨t, ht, (termAllows_iff hterm).mp hallows⟩
      · rintro ⟨t, ht, hholds⟩
        obtain ⟨raw, hraw, hterm⟩ := exists_of_mapM hread ht
        exact ⟨raw, hraw, (termAllows_iff hterm).mpr hholds⟩

end Read

/-- The placement read off a pod is judged by Kubernetes' rules, but for the integers. -/
theorem getPodNodePlacement_evaluates_iff {spec : PlacementSpec} {p : NodePlacement}
    (h : getPodNodePlacement spec = some p) (nodeName : String) (labels : Dict String String) :
    Evaluates p nodeName labels (kubernetesAllows spec nodeName labels) ↔
      ¬ Misjudges p nodeName labels := by
  rw [← evaluates_iff]
  unfold Evaluates
  rw [placementHolds_iff h]

/-- An `h100` node of a generation after the fifth. -/
def newerNodeSpec : PlacementSpec where
  nodeSelector := some (Dict.ofList [("gpu", "h100")])
  required := some (some [
    { matchExpressions := some [{ key := some "gen", operator := some "Gt", values := some ["5"] }] }])

theorem getPodNodePlacement_evaluates_iff_newerNode :
    Evaluates
        { nodeSelector := [("gpu", "h100")]
          affinityTerms := some [{ matchExpressions := [⟨"gen", .gt, ["5"]⟩] }] }
        "node" (Dict.ofList [("gpu", "h100"), ("gen", "6")])
        (kubernetesAllows newerNodeSpec "node" (Dict.ofList [("gpu", "h100"), ("gen", "6")])) ↔
      ¬ Misjudges
        { nodeSelector := [("gpu", "h100")]
          affinityTerms := some [{ matchExpressions := [⟨"gen", .gt, ["5"]⟩] }] }
        "node" (Dict.ofList [("gpu", "h100"), ("gen", "6")]) :=
  getPodNodePlacement_evaluates_iff (by decide) "node" _

/-- A node with a label out of range, to a pod which asks for a greater one than 5. -/
def outOfRangeSpec : PlacementSpec where
  required := some (some [
    { matchExpressions := some [{ key := some "gen", operator := some "Gt", values := some ["5"] }] }])

def outOfRangeLabels : Dict String String := Dict.ofList [("gen", "9223372036854775808")]

theorem not_getPodNodePlacement_evaluates : ¬ ∀ spec p nodeName labels,
    getPodNodePlacement spec = some p →
      Evaluates p nodeName labels (kubernetesAllows spec nodeName labels) := by
  intro h
  obtain ⟨b, hb, hallows⟩ := h outOfRangeSpec
    { affinityTerms := some [{ matchExpressions := [⟨"gen", .gt, ["5"]⟩] }] } "node" outOfRangeLabels
    (by decide)
  have htrue : b = true := Option.some.inj (hb.symm.trans (by decide))
  obtain ⟨t, ht, -, hexpressions, -⟩ := (hallows.mp htrue).2 _ rfl
  obtain rfl := List.mem_singleton.mp ht
  obtain ⟨op, htext, hholds⟩ := hexpressions _ (List.mem_singleton.mpr rfl)
  obtain rfl : op = .gt := text_injective (Option.some.inj htext).symm
  obtain ⟨v, -, m, -, hv, -, hm, -⟩ := hholds
  have hlabel : v = "9223372036854775808" := Option.some.inj (hv.symm.trans (by decide))
  have hrange : parseInt64 "9223372036854775808" = none := by decide
  rw [hlabel, hrange] at hm
  exact absurd hm.symm (Option.some_ne_none _)

end GpuReservation.Proofs
