import GpuReservation.Model.Trace
import Mathlib.Data.Bool.AllAny
import Mathlib.Tactic.Common

/-!
# The whitelist of trace ids

A header value is taken over only if the whitelist has all of it, but for a line feed at its end.  A
scope binds an id which requests carry, unless the header value is the very marker for no id.
-/

namespace GpuReservation.Proofs

open GpuReservation.Model

def Whitelisted (id : String) : Prop :=
  1 ≤ id.toList.length ∧ id.toList.length ≤ 36 ∧ ∀ c ∈ id.toList, isTraceChar c = true

instance (id : String) : Decidable (Whitelisted id) := inferInstanceAs (Decidable (_ ∧ _ ∧ _))

lemma not_isTraceChar_lineFeed : isTraceChar '\n' = false := by decide

/-- What the expression matches, in full. -/
lemma traceRe_iff (raw : String) :
    traceRe raw = true ↔ Whitelisted raw ∨ ∃ id, Whitelisted id ∧ raw = id ++ "\n" := by
  unfold traceRe
  simp only [List.any_eq_true, List.mem_range'_1, Bool.and_eq_true, decide_eq_true_eq,
    List.all_eq_true, atDollar, Bool.or_eq_true]
  constructor
  · rintro ⟨n, ⟨hpos, hle⟩, ⟨hlen, hall⟩, hend⟩
    have hsplit := List.take_append_drop n raw.toList
    cases hend with
    | inl hend =>
      rw [hend, List.append_nil] at hsplit
      rw [hsplit] at hlen hall
      exact .inl ⟨by omega, by omega, hall⟩
    | inr hend =>
      rw [hend] at hsplit
      refine .inr ⟨String.ofList (raw.toList.take n), ?_, ?_⟩
      · unfold Whitelisted
        rw [String.toList_ofList]
        exact ⟨by omega, by omega, hall⟩
      · apply String.toList_injective
        simpa using hsplit.symm
  · rintro (⟨hpos, hle, hall⟩ | ⟨id, ⟨hpos, hle, hall⟩, rfl⟩)
    · exact ⟨raw.toList.length, by omega, by simpa using hall, by simp⟩
    · refine ⟨id.toList.length, by omega, ?_, by simp⟩
      simpa using hall

lemma adopt_eq_some {raw : Option String} {id : String} (h : adopt raw = some id) :
    raw = some id ∧ traceRe id = true := by
  unfold adopt at h
  rw [Option.filter_eq_some_iff, Bool.and_eq_true] at h
  exact ⟨h.1, h.2.2⟩

lemma adopt_of_whitelisted {id : String} (h : Whitelisted id) : adopt (some id) = some id := by
  unfold adopt
  rw [Option.filter_eq_some_iff, Bool.and_eq_true, decide_eq_true_eq]
  refine ⟨rfl, ?_, (traceRe_iff id).mpr (.inl h)⟩
  rintro rfl
  exact absurd h.1 (by decide)

lemma isTraceChar_of_hex {c : Char} (h : ('0' ≤ c ∧ c ≤ '9') ∨ ('a' ≤ c ∧ c ≤ 'f')) :
    isTraceChar c = true := by
  have hf : c ≤ 'f' → c ≤ 'z' := fun hc => hc.trans (by decide)
  unfold isTraceChar
  simp only [Bool.or_eq_true, Bool.and_eq_true, decide_eq_true_eq]
  tauto

/-- The prefix is cut to what the suffix leaves. -/
lemma newId_whitelisted (tracePrefix : String) (suffix : TokenHex suffixBytes) :
    Whitelisted (newId tracePrefix suffix) ∧ newId tracePrefix suffix ≠ noTrace := by
  have hsuffix : suffix.text.toList.length = 10 := suffix.length_eq
  have hhex : ∀ c ∈ suffix.text.toList, isTraceChar c = true :=
    fun c hc => isTraceChar_of_hex (suffix.hex c hc)
  obtain ⟨name, hname, hpos, hle, hall⟩ : ∃ name : String,
      newId tracePrefix suffix = name ++ "-" ++ suffix.text ∧ 1 ≤ name.toList.length ∧
        name.toList.length ≤ 25 ∧ ∀ c ∈ name.toList, isTraceChar c = true := by
    unfold newId
    rw [← String.length_toList, hsuffix]
    set cleaned := (tracePrefix.toList.filter isPrefixChar).take (36 - 10 - 1) with hcleaned
    by_cases hempty : cleaned = []
    · exact ⟨"work", by simp [hempty], by decide, by decide,
        List.all_iff_forall_prop.mp (by decide)⟩
    · refine ⟨String.ofList cleaned, by simp [hempty], ?_, ?_, ?_⟩
      · rw [String.toList_ofList]
        exact List.length_pos_iff.mpr hempty
      · rw [String.toList_ofList, hcleaned]
        exact List.length_take_le _ _
      · rw [String.toList_ofList]
        intro c hc
        have hkept := (List.mem_filter.mp (List.mem_of_mem_take hc)).2
        unfold isPrefixChar at hkept
        exact (Bool.and_eq_true _ _ ▸ hkept).1
  have hlist : (newId tracePrefix suffix).toList = name.toList ++ '-' :: suffix.text.toList := by
    rw [hname]
    simp
  constructor
  · unfold Whitelisted
    simp only [hlist, List.length_append, List.length_cons, hsuffix, List.mem_append, List.mem_cons]
    refine ⟨by omega, by omega, ?_⟩
    rintro c (hc | rfl | hc)
    · exact hall c hc
    · decide
    · exact hhex c hc
  · intro hmarker
    have hlen := congrArg (fun id => id.toList.length) hmarker
    simp [hlist, hsuffix, noTrace] at hlen

/-- The header values of the scopes which are entered. -/
def entered : TracedWork → List (Option String)
  | .done => []
  | .raise => []
  | .note rest => entered rest
  | .scope _ inbound _ body rest =>
    inbound :: entered body ++ if body.raises then [] else entered rest
  | .attempt body rest => entered body ++ entered rest
  | .task body rest => entered body ++ entered rest

/-- In a scope there is an id, and requests carry it; a scope which is left leaves the id before it. -/
def SightSound : TraceSight → Prop
  | .noted inScope current headers =>
    inScope = true → current ≠ noTrace ∧ headers = [(traceHeader, current)]
  | .left previous current => current = previous

lemma sightSound_noted {inScope : Bool} {current : String} (h : inScope = true → current ≠ noTrace) :
    SightSound (.noted inScope current (outboundHeaders current)) := by
  intro hscope
  unfold outboundHeaders
  exact ⟨h hscope, if_pos (h hscope)⟩

lemma traceId_ne_noTrace {inbound : Option String} (h : inbound ≠ some noTrace)
    (tracePrefix : String) (suffix : TokenHex suffixBytes) :
    (adopt inbound).getD (newId tracePrefix suffix) ≠ noTrace := by
  cases hadopt : adopt inbound with
  | none => exact (newId_whitelisted tracePrefix suffix).2
  | some id =>
    rintro rfl
    exact h (adopt_eq_some hadopt).1

/-- Work leaves the id as it was, whatever scopes it enters and however it ends. -/
lemma run_restores (w : TracedWork) (inScope : Bool) (id : String) : (w.run inScope id).2 = id := by
  induction w generalizing inScope id with
  | done => rfl
  | raise => rfl
  | note rest ih => exact ih inScope id
  | scope tracePrefix inbound suffix body rest _ ih =>
    unfold TracedWork.run
    split
    · rfl
    · exact ih inScope id
  | attempt body rest ihbody ih =>
    unfold TracedWork.run
    dsimp only
    rw [ihbody]
    exact ih inScope id
  | task body rest _ ih => exact ih inScope id

lemma run_sound {w : TracedWork} (hentered : some noTrace ∉ entered w) (inScope : Bool) (id : String)
    (hid : inScope = true → id ≠ noTrace) : ∀ s ∈ (w.run inScope id).1, SightSound s := by
  induction w generalizing inScope id with
  | done => simp [TracedWork.run]
  | raise => simp [TracedWork.run]
  | note rest ih =>
    unfold TracedWork.run
    exact List.forall_mem_cons.mpr ⟨sightSound_noted hid, ih hentered inScope id hid⟩
  | scope tracePrefix inbound suffix body rest ihbody ih =>
    unfold entered at hentered
    rw [List.cons_append, List.mem_cons, List.mem_append, not_or, not_or] at hentered
    obtain ⟨hinbound, hbody, hrest⟩ := hentered
    have hnew := traceId_ne_noTrace (Ne.symm hinbound) tracePrefix suffix
    have hinner := ihbody hbody true _ fun _ => hnew
    have hsights : ∀ s ∈ TraceSight.noted true ((adopt inbound).getD (newId tracePrefix suffix))
        (outboundHeaders ((adopt inbound).getD (newId tracePrefix suffix))) ::
          (body.run true ((adopt inbound).getD (newId tracePrefix suffix))).1 ++
            [TraceSight.left id id], SightSound s := by
      rw [List.cons_append, List.forall_mem_cons, List.forall_mem_append, List.forall_mem_singleton]
      exact ⟨sightSound_noted fun _ => hnew, hinner, rfl⟩
    unfold TracedWork.run
    split
    · exact hsights
    · rename_i hraises
      rw [if_neg hraises] at hrest
      exact List.forall_mem_append.mpr ⟨hsights, ih hrest inScope id hid⟩
  | attempt body rest ihbody ih =>
    unfold entered at hentered
    rw [List.mem_append, not_or] at hentered
    unfold TracedWork.run
    dsimp only
    rw [run_restores]
    exact List.forall_mem_append.mpr
      ⟨ihbody hentered.1 inScope id hid, ih hentered.2 inScope id hid⟩
  | task body rest ihbody ih =>
    unfold entered at hentered
    rw [List.mem_append, not_or] at hentered
    unfold TracedWork.run
    exact List.forall_mem_append.mpr
      ⟨ihbody hentered.1 inScope id hid, ih hentered.2 inScope id hid⟩

/-- A scope which takes the marker over has no id, and its requests carry none. -/
lemma marker_noted {w : TracedWork} (hentered : some noTrace ∈ entered w) (inScope : Bool)
    (id : String) : .noted true noTrace [] ∈ (w.run inScope id).1 := by
  induction w generalizing inScope id with
  | done => simp [entered] at hentered
  | raise => simp [entered] at hentered
  | note rest ih => exact List.mem_cons_of_mem _ (ih hentered inScope id)
  | scope tracePrefix inbound suffix body rest ihbody ih =>
    have hsights : some noTrace = inbound ∨ some noTrace ∈ entered body →
        .noted true noTrace [] ∈
          TraceSight.noted true ((adopt inbound).getD (newId tracePrefix suffix))
            (outboundHeaders ((adopt inbound).getD (newId tracePrefix suffix))) ::
              (body.run true ((adopt inbound).getD (newId tracePrefix suffix))).1 ++
                [TraceSight.left id id] := by
      rintro (rfl | hbody)
      · have hmarker : adopt (some noTrace) = some noTrace :=
          adopt_of_whitelisted ⟨by decide, by decide, List.all_iff_forall_prop.mp (by decide)⟩
        rw [hmarker, Option.getD_some]
        exact List.mem_cons_self
      · exact List.mem_append_left _ (List.mem_cons_of_mem _ (ihbody hbody true _))
    unfold entered at hentered
    rw [List.cons_append, List.mem_cons, List.mem_append, ← or_assoc] at hentered
    unfold TracedWork.run
    split
    · rename_i hraises
      rw [if_pos hraises] at hentered
      exact hsights (hentered.resolve_right (List.not_mem_nil))
    · rename_i hraises
      rw [if_neg hraises] at hentered
      cases hentered with
      | inl h => exact List.mem_append_left _ (hsights h)
      | inr h => exact List.mem_append_right _ (ih h inScope id)
  | attempt body rest ihbody ih =>
    unfold entered at hentered
    unfold TracedWork.run
    cases List.mem_append.mp hentered with
    | inl h => exact List.mem_append_left _ (ihbody h inScope id)
    | inr h => exact List.mem_append_right _ (ih h inScope _)
  | task body rest ihbody ih =>
    unfold entered at hentered
    unfold TracedWork.run
    cases List.mem_append.mp hentered with
    | inl h => exact List.mem_append_left _ (ihbody h inScope id)
    | inr h => exact List.mem_append_right _ (ih h inScope id)

/-- What the whitelist is for: of a header value, of an id that is minted, and of work in scopes. -/
structure TracesSound (raw : Option String) (tracePrefix : String) (suffix : TokenHex suffixBytes)
    (w : TracedWork) (outer : String) : Prop where
  adopted : ∀ id, adopt raw = some id → Whitelisted id
  minted : adopt (some (newId tracePrefix suffix)) = some (newId tracePrefix suffix)
  seen : ∀ s ∈ (w.run false outer).1, SightSound s
  restored : (w.run false outer).2 = outer

theorem tracesSound_iff (raw : Option String) (tracePrefix : String) (suffix : TokenHex suffixBytes)
    (w : TracedWork) (outer : String) :
    TracesSound raw tracePrefix suffix w outer ↔
      (∀ id, Whitelisted id → raw ≠ some (id ++ "\n")) ∧ some noTrace ∉ entered w := by
  constructor
  · intro h
    constructor
    · rintro id hid rfl
      have hadopt : adopt (some (id ++ "\n")) = some (id ++ "\n") := by
        unfold adopt
        rw [Option.filter_eq_some_iff, Bool.and_eq_true, decide_eq_true_eq]
        refine ⟨rfl, ?_, (traceRe_iff _).mpr (.inr ⟨id, hid, rfl⟩)⟩
        intro hempty
        simpa using congrArg String.toList hempty
      have hfeed := (h.adopted _ hadopt).2.2 '\n' (by simp)
      rw [not_isTraceChar_lineFeed] at hfeed
      exact Bool.noConfusion hfeed
    · intro hentered
      exact (h.seen _ (marker_noted hentered false outer) rfl).1 rfl
  · rintro ⟨hraw, hentered⟩
    refine ⟨?_, ?_, ?_, run_restores w false outer⟩
    · intro id hadopt
      obtain ⟨rfl, hre⟩ := adopt_eq_some hadopt
      rcases (traceRe_iff id).mp hre with hid | ⟨id, hid, rfl⟩
      · exact hid
      · exact absurd rfl (hraw id hid)
    · exact adopt_of_whitelisted (newId_whitelisted tracePrefix suffix).1
    · exact run_sound hentered false outer fun h => Bool.noConfusion h

example : adopt (some "a\n") = some "a\n" := by decide

/-- A push whose header is the marker. -/
theorem not_tracesSound : ¬ ∀ raw tracePrefix suffix w outer,
    TracesSound raw tracePrefix suffix w outer := by
  intro h
  have hpush := h none "push" ⟨"0123456789", by decide, List.all_iff_forall_prop.mp (by decide)⟩
    (.scope "push" (some "-") ⟨"0123456789", by decide, List.all_iff_forall_prop.mp (by decide)⟩ (.note .done) .done) noTrace
  exact absurd (hpush.seen (.noted true "-" []) (by decide)) fun hsound => (hsound rfl).1 rfl

end GpuReservation.Proofs
