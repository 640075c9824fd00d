import GpuReservation.Proofs.PlannedEvictions
import GpuReservation.Proofs.Reports

/-!
# The labels of the GPU classes

A fetch and a push replace the class maps.  They resolve the classes of the bulk list and those
which their own records name, while the reservations they retain may be of others.
-/

namespace GpuReservation.Proofs

open GpuReservation.Library GpuReservation.Model

/-- The GPU classes of the app: what it answers about one, and those it lists in bulk. -/
structure Catalogue where
  detail : Nat → Option GpuClassDetail
  listed : List GpuClassDetail
  detail_id : ∀ id c, detail id = some c → c.id = id
  listed_detail : ∀ c ∈ listed, detail c.id = some c

namespace Catalogue

variable (app : Catalogue)

/-- The label of a class which has one. -/
def label (id : Nat) : Option String := (app.detail id).bind fun c => c.labelValue.filter (· ≠ "")

def Lists (id : Nat) : Prop := ∃ c ∈ app.listed, c.id = id

/-- What may be answered where the classes are answered from the catalogue. -/
def answers (q : Request) (a : Answer q) : Prop :=
  canAnswer q a ∧ match q, a with
    | .fetchGpuClasses, classes => classes = some app.listed
    | .fetchGpuClass id, gpuClass => gpuClass = app.detail id
    | _, _ => True

variable {app}

lemma label_of_detail {c : GpuClassDetail} (h : app.detail c.id = some c) :
    app.label c.id = c.labelValue.filter (· ≠ "") := by
  rw [label, h, Option.bind_some]

end Catalogue

/-- The maps hold the labels of the known classes, and lead from each label back to a class which
carries it. -/
structure Resolves (app : Catalogue) (known : Nat → Prop) (maps : GpuClassMaps) : Prop where
  labels : ∀ id label, maps.labels.get? id = some label ↔ known id ∧ app.label id = some label
  ids : ∀ label id, maps.ids.get? label = some id → maps.labels.get? id = some label
  named : ∀ id label, maps.labels.get? id = some label → label ∈ maps.ids

namespace Resolves

variable {app : Catalogue} {known known' : Nat → Prop} {maps : GpuClassMaps} {c : GpuClassDetail}
  {classId : Nat}

lemma congr (h : Resolves app known maps)
    (hknown : ∀ id label, app.label id = some label → (known id ↔ known' id)) :
    Resolves app known' maps where
  labels id label := (h.labels id label).trans (and_congr_left (hknown id label))
  ids := h.ids
  named := h.named

/-- A class without a label changes nothing. -/
lemma of_unlabelled (h : Resolves app known maps) (hlabel : app.label classId = none) :
    Resolves app (fun id => known id ∨ id = classId) maps := by
  refine h.congr fun id label hid => ⟨.inl, fun hor => hor.resolve_right ?_⟩
  rintro rfl
  rw [hlabel] at hid
  cases hid

lemma add {label : String} (h : Resolves app known maps) (hlabel : app.label c.id = some label) :
    Resolves app (fun id => known id ∨ id = c.id) (maps.add c label) where
  labels id label' := by
    rw [GpuClassMaps.add, Dict.get?_set]
    split
    · rename_i hid
      subst hid
      rw [hlabel]
      exact ⟨fun hsame => ⟨.inr rfl, hsame⟩, fun hsame => hsame.2⟩
    · rename_i hid
      rw [h.labels]
      exact and_congr_left fun _ => ⟨.inl, fun hor => hor.resolve_right hid⟩
  ids label' id hback := by
    rw [GpuClassMaps.add, Dict.get?_set] at hback
    rw [GpuClassMaps.add, Dict.get?_set]
    split at hback
    · rename_i hsame
      rw [if_pos (Option.some_inj.mp hback).symm, hsame]
    · have hold := h.ids label' id hback
      split
      · -- the class had this label before
        rename_i hid
        subst hid
        rw [← hlabel, ((h.labels c.id label').mp hold).2]
      · exact hold
  named id label' hget := by
    rw [GpuClassMaps.add, Dict.get?_set] at hget
    rw [GpuClassMaps.add]
    split at hget
    · exact Dict.mem_set.mpr (.inl (Option.some_inj.mp hget).symm)
    · exact Dict.mem_set.mpr (.inr (h.named id label' hget))

lemma addLabelled (h : Resolves app known maps) (hc : app.detail c.id = some c) :
    Resolves app (fun id => known id ∨ id = c.id) (maps.addLabelled c) := by
  have hlabel := Catalogue.label_of_detail hc
  rw [GpuClassMaps.addLabelled]
  split
  · rename_i hnone
    exact h.of_unlabelled (hlabel.trans hnone)
  · rename_i label hsome
    exact h.add (hlabel.trans hsome)

/-- The bulk list. -/
lemma foldl_addLabelled {classes : List GpuClassDetail} (h : Resolves app known maps)
    (hclasses : ∀ c ∈ classes, app.detail c.id = some c) :
    Resolves app (fun id => known id ∨ ∃ c ∈ classes, c.id = id)
      (classes.foldl GpuClassMaps.addLabelled maps) := by
  induction classes generalizing known maps with
  | nil => exact h.congr fun id label _ => by simp
  | cons c classes ih =>
    have hstep := ih (h.addLabelled (hclasses c List.mem_cons_self))
      fun c' hc' => hclasses c' (List.mem_cons_of_mem c hc')
    refine hstep.congr fun id label _ => ?_
    rw [List.exists_mem_cons_iff, or_assoc, eq_comm]

/-- A class which is asked for by itself. -/
lemma resolveGpuClass_exec {s s' : ControllerState} {tr : List (Sigma Answer)} {maps' : GpuClassMaps}
    (h : Resolves app known maps)
    (hexec : (resolveGpuClass maps classId).Exec app.answers s tr maps' s') :
    Resolves app (fun id => known id ∨ id = classId) maps' := by
  rw [resolveGpuClass] at hexec
  split at hexec
  · rename_i hmem
    obtain ⟨-, rfl, -⟩ := hexec
    obtain ⟨label, hget⟩ := Dict.mem_iff_get?.mp hmem
    refine h.congr fun id _ _ => ⟨.inl, ?_⟩
    rintro (hknown | rfl)
    · exact hknown
    · exact ((h.labels id label).mp hget).1
  · rw [Prog.exec_ask_bind] at hexec
    obtain ⟨gpuClass, _, ⟨-, hanswer⟩, -, hexec⟩ := hexec
    obtain ⟨-, rfl, -⟩ := hexec
    obtain rfl : gpuClass = app.detail classId := hanswer
    cases hdetail : app.detail classId with
    | none =>
      refine h.of_unlabelled ?_
      rw [Catalogue.label, hdetail, Option.bind_none]
    | some c =>
      have hid : c.id = classId := app.detail_id classId c hdetail
      subst hid
      exact h.addLabelled hdetail

end Resolves

section Resolution

variable {app : Catalogue} {config : Config} {rep : Report} {s s' : ControllerState}
  {tr : List (Sigma Answer)} {classIds : List Nat} {prior maps : GpuClassMaps}

/-- The classes which are known are those of the bulk list and those asked for, up to the rest. -/
def ResolvedUpTo (app : Catalogue) (classIds rest : List Nat) (maps : GpuClassMaps) : Prop :=
  ∃ known, Resolves app known maps ∧
    ∀ id, app.Lists id ∨ id ∈ classIds ↔ known id ∨ id ∈ rest

lemma resolvedUpTo_step {x : Nat} {rest : List Nat} {maps' : GpuClassMaps}
    (h : ResolvedUpTo app classIds (x :: rest) maps)
    (hexec : (resolveGpuClass maps x).Exec app.answers s tr maps' s') :
    ResolvedUpTo app classIds rest maps' := by
  obtain ⟨known, hmaps, hknown⟩ := h
  refine ⟨_, hmaps.resolveGpuClass_exec hexec, fun id => ?_⟩
  rw [hknown id, List.mem_cons, or_assoc]

/-- Exactly the classes of the bulk list and those asked for are resolved. -/
lemma resolveGpuClassMaps_exec
    (h : (resolveGpuClassMaps classIds prior).Exec app.answers s tr maps s') :
    Resolves app (fun id => app.Lists id ∨ id ∈ classIds) maps := by
  rw [resolveGpuClassMaps, Prog.exec_ask_bind] at h
  obtain ⟨classes, tr', ⟨-, hanswer⟩, -, h⟩ := h
  obtain rfl : classes = some app.listed := hanswer
  have hempty : Resolves app (fun _ => False) { GpuClassMaps.empty with complete := true } :=
    ⟨fun id label => iff_of_false nofun fun hfalse => hfalse.1, nofun, nofun⟩
  have hbulk := hempty.foldl_addLabelled app.listed_detail
  have hstart : ResolvedUpTo app classIds classIds.dedup
      (app.listed.foldl GpuClassMaps.addLabelled { GpuClassMaps.empty with complete := true }) :=
    ⟨_, hbulk, fun id => by rw [List.mem_dedup, false_or, Catalogue.Lists]⟩
  obtain ⟨known, hmaps, hknown⟩ := Prog.exec_foldlM (fun rest d _ _ => ResolvedUpTo app classIds rest d)
    (fun _ _ _ _ _ _ _ _ hinv hbody => resolvedUpTo_step hinv hbody) hstart h
  refine hmaps.congr fun id _ _ => ?_
  rw [hknown id, or_iff_left List.not_mem_nil]

end Resolution

/-- Every class of an active reservation which could be resolved before, and to which the app still
gives the same label, is resolved after the report, and the label leads back to a class which
carries it. -/
def KeepsLabels (config : Config) (app : Catalogue) (rep : Report) (s : ControllerState) : Prop :=
  ∀ tr s', (rep.program config).Exec app.answers s tr () s' →
    ∀ r ∈ s'.reservations, r.status = .active →
      ∀ label, s.gpuClassLabels.get? r.gpuClassId = some label →
        app.label r.gpuClassId = some label →
        s'.gpuClassLabels.get? r.gpuClassId = some label ∧
          ∃ id, s'.gpuClassIds.get? label = some id ∧ s'.gpuClassLabels.get? id = some label

/-- The reservation is held, the report does not name it, and it is not dropped for that. -/
def Report.Retains (s : ControllerState) (r : ReservationResponse) : Report → Prop
  | .fetched rows => r ∈ s.reservations ∧ r.kind = .onDemand ∧ r.id ∉ rows.map (·.id)
  | .pushed records => finalRecord s.reservations r.id = some r ∧ r.id ∉ records.map (·.id)

/-- The classes of the reservations which are retained are in the bulk list, or are those of the
reservations which are reported. -/
def RetainedResolved (app : Catalogue) (rep : Report) (s : ControllerState) : Prop :=
  ∀ r, rep.Retains s r → r.status = .active →
    ∀ label, s.gpuClassLabels.get? r.gpuClassId = some label →
      app.label r.gpuClassId = some label →
      app.Lists r.gpuClassId ∨ r.gpuClassId ∈ rep.classIds

section Retained

variable {rep : Report} {s : ControllerState} {now : Instant} {r : ReservationResponse}

lemma finalRecord_eq_none {pushed : List ReservationResponse} {id : Nat} :
    finalRecord pushed id = none ↔ id ∉ pushed.map (·.id) := by
  rw [finalRecord, List.getLast?_eq_none_iff, List.filter_eq_nil_iff]
  simp

/-- Of the records which are held, the last of each id counts. -/
lemma get?_ofList_records (current : List ReservationResponse) (id : Nat) :
    (Dict.ofList (current.map fun r => (r.id, r))).get? id = finalRecord current id := by
  induction current using List.reverseRecOn with
  | nil => rfl
  | append_singleton current r ih =>
    rw [List.map_append, List.map_singleton, Dict.ofList, List.foldl_append, List.foldl_cons,
      List.foldl_nil, Dict.get?_set, finalRecord_snoc, ← ih]
    simp only [eq_comm]
    rfl

/-- A reservation which is held after the report was reported, or is retained. -/
lemma reported_or_retained (hr : r ∈ rep.installed now s.reservations) :
    r.gpuClassId ∈ rep.classIds ∨ rep.Retains s r := by
  cases rep with
  | fetched rows =>
    refine (List.mem_append.mp hr).imp (fun hlisted => List.mem_map_of_mem hlisted) fun hkept => ?_
    obtain ⟨hmem, hunlisted⟩ := List.mem_filter.mp hkept
    simp only [unlistedLease, Bool.and_eq_true, decide_eq_true_eq, List.mem_toFinset] at hunlisted
    exact ⟨hmem, hunlisted.1.1.1, hunlisted.1.2⟩
  | pushed records =>
    cases hlast : finalRecord records r.id with
    | some last =>
      obtain ⟨rfl, -⟩ := (mem_applyPushToActive_of_named hlast).mp hr
      exact .inl (List.mem_map_of_mem (finalRecord_id hlast).1)
    | none =>
      refine .inr ⟨?_, finalRecord_eq_none.mp hlast⟩
      have hheld := mem_applyPushToActive.mp hr
      rwa [get?_foldl_pushStep, hlast, Option.map_none, Option.getD_none, get?_ofList_records] at hheld

/-- A reservation which is retained is held after the report, if that comes early enough. -/
lemma mem_installed_of_retains (h : rep.Retains s r) (hactive : r.status = .active)
    (hnow : now < slotEnd r) : r ∈ rep.installed now s.reservations := by
  cases rep with
  | fetched rows =>
    obtain ⟨hmem, hkind, hunlisted⟩ := h
    refine List.mem_append_right _ (List.mem_filter.mpr ⟨hmem, ?_⟩)
    simp only [unlistedLease, Bool.and_eq_true, decide_eq_true_eq, List.mem_toFinset]
    exact ⟨⟨⟨hkind, hactive⟩, hunlisted⟩, hnow⟩
  | pushed records =>
    obtain ⟨hlast, hunnamed⟩ := h
    refine mem_applyPushToActive.mpr ?_
    rw [get?_foldl_pushStep, finalRecord_eq_none.mpr hunnamed, Option.map_none, Option.getD_none,
      get?_ofList_records, hlast]

end Retained

/-- A cluster without pods at one instant, and the classes as the catalogue has them. -/
def catalogueAnswer (app : Catalogue) (t : Instant) : ∀ q, Answer q
  | .fetchGpuClasses => some app.listed
  | .fetchGpuClass id => app.detail id
  | q => worldAnswer { clock := t } rfl {} q

lemma catalogueAnswer_answers (app : Catalogue) (t : Instant) (q : Request) :
    app.answers q (catalogueAnswer app t q) := by
  cases q with
  | fetchGpuClasses => exact ⟨⟨0, { gpuClasses := app.listed }, {}, {}, rfl⟩, rfl⟩
  | fetchGpuClass id =>
    refine ⟨⟨0, { gpuClasses := (app.detail id).toList }, {}, {}, ?_⟩, rfl⟩
    have hfind : (app.detail id).toList.find? (·.id = id) = app.detail id := by
      cases hdetail : app.detail id with
      | none => rfl
      | some c =>
        rw [Option.toList_some, List.find?_cons, decide_eq_true (app.detail_id id c hdetail)]
    rw [answer, hfind]
    rfl
  | _ => exact ⟨worldAnswer_canAnswer { clock := t } rfl {} _, trivial⟩

section Labels

variable {config : Config} {app : Catalogue} {rep : Report} {s : ControllerState}

lemma keepsLabels_of_retainedResolved (h : RetainedResolved app rep s) :
    KeepsLabels config app rep s := by
  intro tr s' hexec r hr hactive label hbefore hlabel
  obtain ⟨now, tr', maps, -, hmaps, hreservations, rfl⟩ := program_installs hexec
  have hresolves := resolveGpuClassMaps_exec hmaps
  have hknown : app.Lists r.gpuClassId ∨ r.gpuClassId ∈ rep.classIds := by
    rw [hreservations] at hr
    rcases reported_or_retained hr with hreported | hretained
    · exact .inr hreported
    · exact h r hretained hactive label hbefore hlabel
  have hget := (hresolves.labels r.gpuClassId label).mpr ⟨hknown, hlabel⟩
  obtain ⟨id, hid⟩ := Dict.mem_iff_get?.mp (hresolves.named r.gpuClassId label hget)
  exact ⟨hget, id, hid, hresolves.ids label id hid⟩

lemma retainedResolved_of_keepsLabels (h : KeepsLabels config app rep s) :
    RetainedResolved app rep s := by
  intro r hretained hactive label hbefore hlabel
  -- the report comes just before the window of the reservation ends
  have hexec := Prog.exec_runWith_eq (catalogueAnswer app (slotEnd r - 1)) (rep.program config) s
  obtain ⟨now, -, -, hnow, -, hreservations, -⟩ := program_installs hexec
  have hopen : now < slotEnd r := by
    rw [hnow]
    exact (Int.add_zero _).trans_lt (Int.sub_lt_self _ Int.one_pos)
  have hanswered := Prog.exec_mono (fun q a ha => ha ▸ catalogueAnswer_answers app _ q) hexec
  obtain ⟨-, tr', maps, -, hmaps, -, rfl⟩ := program_installs hanswered
  have hheld := mem_installed_of_retains hretained hactive hopen
  rw [← hreservations] at hheld
  have hget := (h _ _ hanswered r hheld hactive label hbefore hlabel).1
  exact ((resolveGpuClassMaps_exec hmaps).labels r.gpuClassId label |>.mp hget).1

end Labels

/-- A fetch or a push keeps the labels exactly if it resolves the classes of the reservations it
retains. -/
theorem keepsLabels_iff (config : Config) (app : Catalogue) (rep : Report) (s : ControllerState) :
    KeepsLabels config app rep s ↔ RetainedResolved app rep s :=
  ⟨retainedResolved_of_keepsLabels, keepsLabels_of_retainedResolved⟩

/-- Two classes, of which only the second is in the bulk list. -/
def halfListed : Catalogue where
  detail id :=
    if id = 1 then some { id := 1, labelValue := some "c" }
    else if id = 2 then some { id := 2, labelValue := some "d" }
    else none
  listed := [{ id := 2, labelValue := some "d" }]
  detail_id id c h := by
    split_ifs at h with hfirst hsecond
    · rw [← Option.some_inj.mp h, hfirst]
    · rw [← Option.some_inj.mp h, hsecond]
  listed_detail c h := by
    rw [List.mem_singleton.mp h]
    rfl

/-- A booking of the first class is held, and its class is resolved. -/
def unlistedClass : ControllerState :=
  { reservations := [runningBooking], gpuClassLabels := Dict.ofList [(1, "c")]
    gpuClassIds := Dict.ofList [("c", 1)], gpuClassesKnown := true, reservationsKnown := true }

/-- A booking of the second class is pushed. -/
theorem keepsLabels_false : ¬ ∀ config app rep s, KeepsLabels config app rep s := by
  intro h
  have hresolved := retainedResolved_of_keepsLabels
    (h {} halfListed (.pushed [{ runningBooking with id := 2, gpuClassId := 2 }]) unlistedClass)
  rcases hresolved runningBooking ⟨rfl, by decide⟩ rfl "c" rfl rfl with ⟨c, hc, hid⟩ | hnamed
  · rw [List.mem_singleton.mp hc] at hid
    cases hid
  · exact absurd hnamed (by decide)

end GpuReservation.Proofs
