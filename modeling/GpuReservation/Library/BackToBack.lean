import Mathlib.Data.List.MinMax
import Mathlib.Data.List.Sort
import Mathlib.Data.List.TakeWhile

/-!
# Greedy back-to-back walks

From an instant, take the longest window starting there, continue from its end, and never use a
window twice.  `start` and `stop` are the ends of a window and `key` is its identity.
-/

namespace GpuReservation.Library

variable {α ι τ : Type*} [DecidableEq ι] [LinearOrder τ]

/-- The windows not visited yet which start exactly at `e`, in list order. -/
def abutting (key : α → ι) (start : α → τ) (cands : List α) (visited : List ι) (e : τ) : List α :=
  cands.filter fun r => key r ∉ visited ∧ start r = e

/-- The walk itself.  Each step uses up a candidate, so `cands.length` is enough fuel
(`walk_complete`). -/
def walk (key : α → ι) (start stop : α → τ) (cands : List α) : Nat → List ι → τ → List α
  | 0, _, _ => []
  | fuel + 1, visited, e =>
    match (abutting key start cands visited e).argmax stop with
    | none => []
    | some r => r :: walk key start stop cands fuel (key r :: visited) (stop r)

/-- The end of the last window of a run which began at `e`. -/
def runEnd (stop : α → τ) (e : τ) (run : List α) : τ := (run.getLast?.map stop).getD e

variable {key : α → ι} {start stop : α → τ} {cands : List α}

omit [LinearOrder τ] in
@[simp] lemma runEnd_nil (e : τ) : runEnd stop e [] = e := rfl

omit [LinearOrder τ] in
@[simp] lemma runEnd_cons (e : τ) (r : α) (run : List α) :
    runEnd stop e (r :: run) = runEnd stop (stop r) run := by
  cases run with
  | nil => rfl
  | cons s run => simp [runEnd, List.getLast?_eq_some_getLast]

lemma mem_abutting {visited : List ι} {e : τ} {r : α} :
    r ∈ abutting key start cands visited e ↔ r ∈ cands ∧ key r ∉ visited ∧ start r = e := by
  simp [abutting]

lemma abutting_filter (p : α → Bool) (visited : List ι) (e : τ) :
    abutting key start (cands.filter p) visited e =
      (abutting key start cands visited e).filter p := by
  simp only [abutting, List.filter_filter]
  congr 1
  funext r
  exact Bool.and_comm _ _

lemma walk_mem {fuel : Nat} {visited : List ι} {e : τ} {r : α}
    (h : r ∈ walk key start stop cands fuel visited e) : r ∈ cands := by
  induction fuel generalizing visited e with
  | zero => simp [walk] at h
  | succ fuel ih =>
    rw [walk] at h
    cases hn : (abutting key start cands visited e).argmax stop with
    | none => simp [hn] at h
    | some s =>
      rw [hn] at h
      rcases List.mem_cons.mp h with rfl | h
      · exact (mem_abutting.mp (List.argmax_mem hn)).1
      · exact ih h

/-- Each window after the first starts where the one before it ends. -/
def Abut (start stop : α → τ) (run : List α) : Prop := run.IsChain fun a b => start b = stop a

lemma walk_abut {fuel : Nat} {visited : List ι} {a : α} :
    Abut start stop (a :: walk key start stop cands fuel visited (stop a)) := by
  induction fuel generalizing visited a with
  | zero => exact .singleton a
  | succ fuel ih =>
    rw [walk]
    cases hn : (abutting key start cands visited (stop a)).argmax stop with
    | none => exact .singleton a
    | some r => exact List.isChain_cons_cons.mpr ⟨(mem_abutting.mp (List.argmax_mem hn)).2.2, ih⟩

/-- In a run of abutting windows none of which runs backwards, none ends after the last. -/
lemma stop_le_runEnd {a : α} {run : List α} (hr : Abut start stop (a :: run))
    (hf : ∀ w ∈ a :: run, start w ≤ stop w) : ∀ w ∈ a :: run, stop w ≤ runEnd stop (stop a) run := by
  induction run generalizing a with
  | nil => simp
  | cons b run ih =>
    obtain ⟨hab, hr⟩ := List.isChain_cons_cons.mp hr
    have hle := ih hr fun w hw => hf w (List.mem_cons_of_mem a hw)
    rw [runEnd_cons]
    intro w hw
    rcases List.mem_cons.mp hw with rfl | hw
    · have hb : start b ≤ stop b := hf b (by simp)
      exact (hab ▸ hb).trans (hle b (by simp))
    · exact hle w hw

omit [LinearOrder τ] in
/-- In a run of abutting windows each starts where those before it end. -/
lemma Abut.start_eq {a r : α} {l₁ l₂ : List α} (h : Abut start stop (a :: (l₁ ++ r :: l₂))) :
    start r = runEnd stop (stop a) l₁ := by
  induction l₁ generalizing a with
  | nil => exact (List.isChain_cons_cons.mp h).1
  | cons b l₁ ih =>
    rw [runEnd_cons]
    exact ih (List.isChain_cons_cons.mp h).2

omit [LinearOrder τ] in
lemma exists_runEnd_eq (stop : α → τ) (a : α) (run : List α) :
    ∃ w ∈ a :: run, runEnd stop (stop a) run = stop w := by
  induction run generalizing a with
  | nil => exact ⟨a, by simp⟩
  | cons b run ih =>
    obtain ⟨w, hw, hend⟩ := ih b
    exact ⟨w, List.mem_cons_of_mem a hw, by simpa using hend⟩

/-- Consecutive windows of a walk abut. -/
lemma walk_chain {fuel : Nat} {visited : List ι} {e : τ} {l₁ l₂ : List α} {r : α}
    (h : walk key start stop cands fuel visited e = l₁ ++ r :: l₂) :
    start r = runEnd stop e l₁ := by
  induction fuel generalizing visited e l₁ with
  | zero => simp [walk] at h
  | succ fuel ih =>
    rw [walk] at h
    cases hn : (abutting key start cands visited e).argmax stop with
    | none => simp [hn] at h
    | some s =>
      rw [hn] at h
      cases l₁ with
      | nil =>
        obtain ⟨rfl, -⟩ := List.cons.inj h
        exact (mem_abutting.mp (List.argmax_mem hn)).2.2
      | cons t l₁ =>
        obtain ⟨rfl, h⟩ := List.cons.inj h
        rw [runEnd_cons]
        exact @ih (key s :: visited) _ _ (by simpa using h)

/-- Keeping the windows that end after `t` keeps the longest one, or leaves none at all. -/
lemma argmax_filter_lt (l : List α) (t : τ) :
    (l.filter fun r => t < stop r).argmax stop =
      (l.argmax stop).filter fun r => decide (t < stop r) := by
  induction l with
  | nil => rfl
  | cons a l ih =>
    rw [List.argmax_cons, List.filter_cons]
    cases hl : l.argmax stop with
    | none =>
      obtain rfl := List.argmax_eq_none.mp hl
      by_cases ha : t < stop a <;> simp [ha, List.argmax_singleton, Option.filter]
    | some c =>
      rw [hl] at ih
      by_cases ha : t < stop a
      · by_cases hc : t < stop c
        · simp only [ha, decide_true, if_true, List.argmax_cons, ih, Option.filter, hc]
          by_cases hac : stop a < stop c <;> simp [hac, ha, hc]
        · have hca : ¬ stop a < stop c := fun h => hc (ha.trans h)
          simp [ha, hc, List.argmax_cons, ih, hca, Option.filter]
      · by_cases hc : t < stop c
        · have hac : stop a < stop c := (not_lt.mp ha).trans_lt hc
          simp [ha, hc, ih, hac, Option.filter]
        · by_cases hac : stop a < stop c <;> simp [ha, hc, ih, hac, Option.filter]

/-- Dropping the windows that have ended by `t` cuts the walk at the first of its windows that
has ended by `t`. -/
theorem walk_filter_lt (t : τ) (fuel : Nat) (visited : List ι) (e : τ) :
    walk key start stop (cands.filter fun r => t < stop r) fuel visited e =
      (walk key start stop cands fuel visited e).takeWhile fun r => t < stop r := by
  induction fuel generalizing visited e with
  | zero => rfl
  | succ fuel ih =>
    rw [walk, walk, abutting_filter, argmax_filter_lt]
    cases (abutting key start cands visited e).argmax stop with
    | none => rfl
    | some r =>
      by_cases hr : t < stop r
      · simp [hr, ih, Option.filter]
      · simp [hr, Option.filter]

lemma length_unvisited_lt {visited : List ι} {r : α} (hr : r ∈ cands) (hv : key r ∉ visited) :
    (cands.filter fun x => key x ∉ key r :: visited).length <
      (cands.filter fun x => key x ∉ visited).length := by
  have h : (cands.filter fun x => key x ∉ key r :: visited) =
      (cands.filter fun x => key x ∉ visited).filter fun x => key x ≠ key r := by
    rw [List.filter_filter]
    congr 1
    funext x
    simp [not_or]
  rw [h, List.length_filter_lt_length_iff_exists]
  exact ⟨r, by simp [hr, hv], by simp⟩

/-- With fuel for every window not visited yet, more fuel changes nothing: the walk has stopped
because no window abuts. -/
lemma walk_succ_fuel {fuel : Nat} {visited : List ι}
    (h : (cands.filter fun x => key x ∉ visited).length ≤ fuel) (e : τ) :
    walk key start stop cands (fuel + 1) visited e = walk key start stop cands fuel visited e := by
  induction fuel generalizing visited e with
  | zero =>
    have hnone : abutting key start cands visited e = [] := by
      rw [List.eq_nil_iff_forall_not_mem]
      intro r hr
      obtain ⟨hr, hv, -⟩ := mem_abutting.mp hr
      have hmem : r ∈ cands.filter fun x => key x ∉ visited := by simp [hr, hv]
      rw [List.length_eq_zero_iff.mp (Nat.le_zero.mp h)] at hmem
      exact List.not_mem_nil hmem
    simp [walk, hnone]
  | succ fuel ih =>
    rw [walk, walk]
    cases hn : (abutting key start cands visited e).argmax stop with
    | none => rfl
    | some r =>
      obtain ⟨hr, hv, -⟩ := mem_abutting.mp (List.argmax_mem hn)
      have hlt := length_unvisited_lt hr hv
      have htail := @ih (key r :: visited) (by omega) (stop r)
      simp only [htail]

/-- Any fuel from the number of candidates on gives the same walk. -/
theorem walk_complete {fuel : Nat} (h : cands.length ≤ fuel) (e : τ) :
    walk key start stop cands fuel [] e = walk key start stop cands cands.length [] e := by
  induction fuel, h using Nat.le_induction with
  | base => rfl
  | succ n hn ih =>
    rw [walk_succ_fuel (by simpa using hn), ih]

lemma filter_orderedInsert_eq {p : α → Bool} {e : τ} (hp : ∀ r, p r → start r = e) (a : α)
    (l : List α) :
    (l.orderedInsert (fun x y => start x ≤ start y) a).filter p = (a :: l).filter p := by
  induction l with
  | nil => rfl
  | cons b l ih =>
    rw [List.orderedInsert]
    by_cases hab : start a ≤ start b
    · rw [if_pos hab]
    · rw [if_neg hab, List.filter_cons, ih]
      by_cases ha : p a
      · have hb : p b = false := by
          by_contra hb
          rw [hp a ha, hp b (by simpa using hb)] at hab
          exact hab le_rfl
        simp [ha, hb]
      · simp [ha, List.filter_cons]

/-- A stable sort by start keeps the order of windows which start together. -/
lemma filter_insertionSort_eq {p : α → Bool} {e : τ} (hp : ∀ r, p r → start r = e) (l : List α) :
    (l.insertionSort fun x y => start x ≤ start y).filter p = l.filter p := by
  induction l with
  | nil => rfl
  | cons a l ih =>
    rw [List.insertionSort_cons, filter_orderedInsert_eq hp, List.filter_cons, List.filter_cons, ih]

/-- Sorting the candidates by start beforehand does not change the walk. -/
theorem walk_insertionSort (fuel : Nat) (visited : List ι) (e : τ) :
    walk key start stop (cands.insertionSort fun x y => start x ≤ start y) fuel visited e =
      walk key start stop cands fuel visited e := by
  induction fuel generalizing visited e with
  | zero => rfl
  | succ fuel ih =>
    have h : abutting key start (cands.insertionSort fun x y => start x ≤ start y) visited e =
        abutting key start cands visited e :=
      filter_insertionSort_eq (e := e) (fun r hr => (by simpa using hr : _ ∧ _).2) cands
    rw [walk, walk, h]
    cases (abutting key start cands visited e).argmax stop with
    | none => rfl
    | some r => simp [ih]

section Greedy

/-- A walk visits no window twice, and none which was visited before. -/
lemma walk_fresh {fuel : Nat} {visited : List ι} {e : τ} :
    ((walk key start stop cands fuel visited e).map key).Nodup ∧
      ∀ r ∈ walk key start stop cands fuel visited e, key r ∉ visited := by
  induction fuel generalizing visited e with
  | zero => exact ⟨List.nodup_nil, fun r hr => absurd hr List.not_mem_nil⟩
  | succ fuel ih =>
    rw [walk]
    cases hn : (abutting key start cands visited e).argmax stop with
    | none => exact ⟨List.nodup_nil, fun r hr => absurd hr List.not_mem_nil⟩
    | some r =>
      obtain ⟨hnodup, hfresh⟩ := @ih (key r :: visited) (stop r)
      refine ⟨List.nodup_cons.mpr ⟨fun hmem => ?_, hnodup⟩, fun q hq => ?_⟩
      · obtain ⟨q, hq, hkey⟩ := List.mem_map.mp hmem
        exact hfresh q hq (hkey ▸ List.mem_cons_self)
      · rcases List.mem_cons.mp hq with rfl | hq
        · exact (mem_abutting.mp (List.argmax_mem hn)).2.1
        · exact fun hmem => hfresh q hq (List.mem_cons_of_mem _ hmem)

/-- Each window of a walk is the longest of those which start with it and were not visited. -/
lemma walk_longest {fuel : Nat} {visited : List ι} {e : τ} {l₁ l₂ : List α} {r : α}
    (h : walk key start stop cands fuel visited e = l₁ ++ r :: l₂) {q : α} (hq : q ∈ cands)
    (hnew : key q ∉ visited) (hrest : key q ∉ l₁.map key) (hstart : start q = start r) :
    stop q ≤ stop r := by
  induction fuel generalizing visited e l₁ with
  | zero => simp [walk] at h
  | succ fuel ih =>
    rw [walk] at h
    cases hn : (abutting key start cands visited e).argmax stop with
    | none => simp [hn] at h
    | some a =>
      rw [hn] at h
      cases l₁ with
      | nil =>
        obtain ⟨rfl, -⟩ := List.cons.inj h
        have hat : start a = e := (mem_abutting.mp (List.argmax_mem hn)).2.2
        exact List.le_of_mem_argmax (mem_abutting.mpr ⟨hq, hnew, hstart.trans hat⟩) hn
      | cons b l₁ =>
        obtain ⟨rfl, h⟩ := List.cons.inj h
        rw [List.map_cons, List.mem_cons, not_or] at hrest
        refine @ih (key a :: visited) _ _ (by simpa using h) ?_ hrest.2
        simpa using ⟨hrest.1, hnew⟩

/-- With fuel for every window not visited yet, a walk ends where no such window starts. -/
lemma walk_stuck {fuel : Nat} {visited : List ι}
    (h : (cands.filter fun x => key x ∉ visited).length ≤ fuel) {e : τ} {q : α} (hq : q ∈ cands)
    (hstart : start q = runEnd stop e (walk key start stop cands fuel visited e)) :
    key q ∈ visited ∨ key q ∈ (walk key start stop cands fuel visited e).map key := by
  induction fuel generalizing visited e with
  | zero =>
    by_contra hnew
    have hmem : q ∈ cands.filter fun x => key x ∉ visited := by
      simpa using ⟨hq, (not_or.mp hnew).1⟩
    rw [List.length_eq_zero_iff.mp (Nat.le_zero.mp h)] at hmem
    exact List.not_mem_nil hmem
  | succ fuel ih =>
    rw [walk] at hstart ⊢
    cases hn : (abutting key start cands visited e).argmax stop with
    | none =>
      rw [hn] at hstart
      by_contra hnew
      have hmem : q ∈ abutting key start cands visited e :=
        mem_abutting.mpr ⟨hq, (not_or.mp hnew).1, hstart⟩
      rw [List.argmax_eq_none.mp hn] at hmem
      exact List.not_mem_nil hmem
    | some r =>
      rw [hn] at hstart
      obtain ⟨hr, hv, -⟩ := mem_abutting.mp (List.argmax_mem hn)
      have hlt := length_unvisited_lt hr hv
      rcases @ih (key r :: visited) (by omega) (stop r) (by simpa using hstart) with hin | hin
      · rcases List.mem_cons.mp hin with heq | hin
        · exact .inr (heq ▸ List.mem_cons_self)
        · exact .inl hin
      · exact .inr (List.mem_cons_of_mem _ hin)

/-- A walk along windows which do not run backwards does not go back. -/
lemma le_runEnd_walk (hforward : ∀ r ∈ cands, start r ≤ stop r) (fuel : Nat) (visited : List ι)
    (e : τ) : e ≤ runEnd stop e (walk key start stop cands fuel visited e) := by
  induction fuel generalizing visited e with
  | zero => exact le_rfl
  | succ fuel ih =>
    rw [walk]
    cases hn : (abutting key start cands visited e).argmax stop with
    | none => exact le_rfl
    | some r =>
      obtain ⟨hr, -, hat⟩ := mem_abutting.mp (List.argmax_mem hn)
      rw [runEnd_cons]
      exact le_trans (hat ▸ hforward r hr) (ih _ (stop r))

/-- Where windows which start together and are not empty end together, no run of abutting windows
ends after the walk. -/
theorem runEnd_le_walk (hforward : ∀ r ∈ cands, start r ≤ stop r)
    (hkey : ∀ a ∈ cands, ∀ b ∈ cands, key a = key b → a = b)
    (hties : ∀ a ∈ cands, ∀ b ∈ cands, start a = start b → start a < stop a → start b < stop b →
      stop a = stop b)
    {fuel : Nat} {visited : List ι} (h : (cands.filter fun x => key x ∉ visited).length ≤ fuel)
    {e : τ} (hpast : ∀ q ∈ cands, key q ∈ visited → start q = e → stop q ≤ e)
    (hbehind : ∀ q ∈ cands, key q ∈ visited → start q ≤ e) {run : List α} (hrun : run ⊆ cands)
    (habut : ∀ l₁ r l₂, run = l₁ ++ r :: l₂ → start r = runEnd stop e l₁) :
    runEnd stop e run ≤ runEnd stop e (walk key start stop cands fuel visited e) := by
  induction run generalizing fuel visited e with
  | nil => exact le_runEnd_walk hforward fuel visited e
  | cons w run ih =>
    have hw : w ∈ cands := hrun List.mem_cons_self
    have hat : start w = e := habut [] w run rfl
    have hrest : ∀ l₁ r l₂, run = l₁ ++ r :: l₂ → start r = runEnd stop (stop w) l₁ := by
      intro l₁ r l₂ hsplit
      rw [← runEnd_cons, habut (w :: l₁) r l₂ (by rw [hsplit]; rfl)]
    rw [runEnd_cons]
    rcases eq_or_lt_of_le (hforward w hw) with hempty | hlong
    · -- an empty window leads nowhere
      rw [hat] at hempty
      rw [← hempty] at hrest ⊢
      exact ih h hpast hbehind (fun q hq => hrun (List.mem_cons_of_mem w hq)) hrest
    · have hunseen : key w ∉ visited := fun hmem =>
        absurd (hpast w hw hmem hat) (not_le_of_gt (hat ▸ hlong))
      have hmem : w ∈ abutting key start cands visited e := mem_abutting.mpr ⟨hw, hunseen, hat⟩
      have hfuel : w ∈ cands.filter fun x => key x ∉ visited := by simpa using ⟨hw, hunseen⟩
      cases fuel with
      | zero =>
        rw [List.length_eq_zero_iff.mp (Nat.le_zero.mp h)] at hfuel
        exact absurd hfuel List.not_mem_nil
      | succ fuel =>
        rw [walk]
        cases hn : (abutting key start cands visited e).argmax stop with
        | none =>
          rw [List.argmax_eq_none.mp hn] at hmem
          exact absurd hmem List.not_mem_nil
        | some r =>
          obtain ⟨hr, hv, hrat⟩ := mem_abutting.mp (List.argmax_mem hn)
          have hle : stop w ≤ stop r := List.le_of_mem_argmax hmem hn
          have hlong' : start r < stop r := by
            rw [hrat, ← hat]
            exact lt_of_lt_of_le hlong hle
          have hend : stop w = stop r := hties w hw r hr (hat.trans hrat.symm) hlong hlong'
          have hafter : e < stop r := hrat ▸ hlong'
          have hlt := length_unvisited_lt hr hv
          have hseen : ∀ q ∈ cands, key q ∈ key r :: visited → start q ≤ e := by
            intro q hq hin
            rcases List.mem_cons.mp hin with heq | hin
            · rw [hkey q hq r hr heq, hrat]
            · exact hbehind q hq hin
          rw [runEnd_cons, hend]
          rw [hend] at hrest
          refine ih (by omega) (fun q hq hin hqat => ?_) (fun q hq hin => ?_)
            (fun q hq => hrun (List.mem_cons_of_mem w hq)) hrest
          · exact absurd hqat (ne_of_lt (lt_of_le_of_lt (hseen q hq hin) hafter))
          · exact le_trans (hseen q hq hin) (le_of_lt hafter)

end Greedy

end GpuReservation.Library
