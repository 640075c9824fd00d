import GpuReservation.Library.Exec
import GpuReservation.Model.Coalescing

/-!
# Triggers of on-demand admission coalesce and none is lost

A trigger which finds the lock held leaves the flag set, and the call which holds the lock looks at
the flag after each of its passes.
-/

namespace GpuReservation.Proofs

open GpuReservation.Library GpuReservation.Model

def passStart : AdmissionCall → Option Nat
  | .inPass since => some since
  | _ => none

/-- The passes which run now, by the steps they started at. -/
def passesRunning (r : AdmissionRun) : List Nat := r.calls.filterMap passStart

/-- How many passes have returned since step `t`. -/
def returnedSince (r : AdmissionRun) (t : Nat) : Nat := (r.passes.filter fun p => t < p.2).length

/-- The lock is held by a call which runs a pass. -/
def lockHeldByPass (r : AdmissionRun) : Prop :=
  passesRunning r = [] ∧ r.state.ondemandAdmissionLocked = false ∨
    ∃ since, passesRunning r = [since] ∧ r.state.ondemandAdmissionLocked = true

/-- No two passes run at once; a trigger after which no pass raised has been followed by a pass which
started no earlier, once no pass runs or two have returned; and after a pass raised the next trigger
starts one. -/
structure Coalesces (config : Config) (r : AdmissionRun) : Prop where
  alone : (passesRunning r).length ≤ 1
  followed : ∀ t ∈ r.triggers, (∀ x ∈ r.raises, x < t) →
    passesRunning r = [] ∨ 2 ≤ returnedSince r t → ∃ p ∈ r.passes, t ≤ p.1
  raised : ∀ call since, r.calls[call]? = some (.inPass since) →
    ∀ events : List AdmissionEvent, .trigger ∉ events →
      let r' := events.foldl (AdmissionRun.step config) (r.step config (.passRaises call))
      (r'.step config .trigger).calls = r'.calls ++ [.inPass r'.clock]

section Lock

lemma admissionTriggered_disabled {config : Config} (h : config.ondemandLeaseEnabled = false)
    (s : ControllerState) : s.admissionTriggered config = (s, false) := by
  rw [ControllerState.admissionTriggered, h]
  rfl

lemma admissionTriggered_locked {config : Config} (h : config.ondemandLeaseEnabled)
    {s : ControllerState} (hlocked : s.ondemandAdmissionLocked = true) :
    s.admissionTriggered config = ({ s with ondemandRerunRequested := true }, false) := by
  rw [ControllerState.admissionTriggered, if_neg (not_not.mpr h), if_pos hlocked]

lemma admissionTriggered_free {config : Config} (h : config.ondemandLeaseEnabled)
    {s : ControllerState} (hfree : s.ondemandAdmissionLocked = false) :
    s.admissionTriggered config =
      ({ s with ondemandAdmissionLocked := true, ondemandRerunRequested := false }, true) := by
  rw [ControllerState.admissionTriggered, if_neg (not_not.mpr h),
    if_neg (Bool.eq_false_iff.mp hfree)]

variable {config : Config} {r : AdmissionRun}

lemma passStart_inPass (since : Nat) (l : List AdmissionCall) :
    (AdmissionCall.inPass since :: l).filterMap passStart = since :: l.filterMap passStart := rfl

/-- A call which runs a pass is the only one, and is replaced by whatever comes after it. -/
lemma running_set {calls : List AdmissionCall} {call since : Nat}
    (h : calls[call]? = some (.inPass since)) (hone : (calls.filterMap passStart).length ≤ 1)
    (c : AdmissionCall) :
    calls.filterMap passStart = [since] ∧
      (calls.set call c).filterMap passStart = (passStart c).toList := by
  obtain ⟨hlt, hcall⟩ := List.getElem?_eq_some_iff.mp h
  have hsplit : calls = calls.take call ++ .inPass since :: calls.drop (call + 1) := by
    rw [← hcall, List.getElem_cons_drop, List.take_append_drop]
  have hset : calls.set call c = calls.take call ++ c :: calls.drop (call + 1) :=
    List.set_eq_take_append_cons_drop.trans (if_pos hlt)
  rw [hsplit, List.filterMap_append, passStart_inPass, List.length_append,
    List.length_cons] at hone
  have hbefore : (calls.take call).filterMap passStart = [] :=
    List.length_eq_zero_iff.mp (by omega)
  have hafter : (calls.drop (call + 1)).filterMap passStart = [] :=
    List.length_eq_zero_iff.mp (by omega)
  constructor
  · rw [hsplit, List.filterMap_append, hbefore, passStart_inPass, hafter]
    rfl
  · rw [hset, List.filterMap_append, hbefore, List.filterMap_cons, hafter]
    cases passStart c <;> rfl

lemma lockHeldByPass.alone (h : lockHeldByPass r) : (passesRunning r).length ≤ 1 := by
  rcases h with ⟨hnone, -⟩ | ⟨since, hone, -⟩
  · rw [hnone]
    exact Nat.zero_le 1
  · rw [hone]
    exact le_refl 1

/-- The one pass which runs. -/
lemma lockHeldByPass.running (h : lockHeldByPass r) {call since : Nat}
    (hcall : r.calls[call]? = some (.inPass since)) :
    passesRunning r = [since] ∧ r.state.ondemandAdmissionLocked = true := by
  have hrunning : passesRunning r = [since] := (running_set hcall h.alone .returned).1
  rcases h with ⟨hnone, -⟩ | ⟨since', hone, hlocked⟩
  · rw [hnone] at hrunning
    cases hrunning
  · exact ⟨hrunning, hlocked⟩

/-- A trigger starts a pass, or leaves the calls which run as they are. -/
lemma running_trigger :
    passesRunning (r.step config .trigger) =
      passesRunning r ++ if (r.state.admissionTriggered config).2 then [r.clock] else [] := by
  have hcalls : (r.step config .trigger).calls =
      r.calls ++ [if (r.state.admissionTriggered config).2 then .inPass r.clock else .returned] := rfl
  rw [passesRunning, hcalls, List.filterMap_append, passesRunning]
  cases (r.state.admissionTriggered config).2 <;> rfl

/-- What an event of a pass does where that pass runs. -/
lemma step_passReturns {call since : Nat} (hcall : r.calls[call]? = some (.inPass since)) :
    r.step config (.passReturns call) = { r with
      state := r.state.admissionPassReturned.1
      calls := r.calls.set call
        (if r.state.admissionPassReturned.2 then .inPass r.clock else .returned)
      clock := r.clock + 1
      passes := r.passes ++ [(since, r.clock)] } := by
  simp only [AdmissionRun.step, AdmissionRun.handle, hcall]

lemma step_passRaises {call since : Nat} (hcall : r.calls[call]? = some (.inPass since)) :
    r.step config (.passRaises call) = { r with
      state := r.state.admissionPassRaised
      calls := r.calls.set call .raised
      clock := r.clock + 1
      raises := r.raises ++ [r.clock] } := by
  simp only [AdmissionRun.step, AdmissionRun.handle, hcall]

/-- The event is of no pass which runs. -/
def idleEvent (r : AdmissionRun) (call : Nat) : Prop := ∀ since, r.calls[call]? ≠ some (.inPass since)

lemma step_passReturns_idle {call : Nat} (hcall : idleEvent r call) :
    r.step config (.passReturns call) = { r with clock := r.clock + 1 } := by
  simp only [AdmissionRun.step, AdmissionRun.handle]
  split
  · exact absurd ‹_› (hcall _)
  · rfl

lemma step_passRaises_idle {call : Nat} (hcall : idleEvent r call) :
    r.step config (.passRaises call) = { r with clock := r.clock + 1 } := by
  simp only [AdmissionRun.step, AdmissionRun.handle]
  split
  · exact absurd ‹_› (hcall _)
  · rfl

variable (config) in
/-- The pass which raised was the only one; nothing holds the lock. -/
lemma running_passRaises (h : lockHeldByPass r) {call since : Nat}
    (hcall : r.calls[call]? = some (.inPass since)) :
    passesRunning (r.step config (.passRaises call)) = [] ∧
      (r.step config (.passRaises call)).state.ondemandAdmissionLocked = false := by
  rw [step_passRaises hcall]
  exact ⟨(running_set hcall h.alone .raised).2, rfl⟩

variable (config) in
lemma running_passReturns (h : lockHeldByPass r) {call since : Nat}
    (hcall : r.calls[call]? = some (.inPass since)) :
    passesRunning (r.step config (.passReturns call)) =
      if r.state.admissionPassReturned.2 then [r.clock] else [] := by
  rw [step_passReturns hcall]
  refine (running_set hcall h.alone _).2.trans ?_
  cases r.state.admissionPassReturned.2 <;> rfl

lemma lockHeldByPass_step (h : lockHeldByPass r) (e : AdmissionEvent) :
    lockHeldByPass (r.step config e) := by
  cases e with
  | trigger =>
    rw [lockHeldByPass, running_trigger]
    have hstate : (r.step config .trigger).state = (r.state.admissionTriggered config).1 := rfl
    rw [hstate]
    cases henabled : config.ondemandLeaseEnabled with
    | false =>
      rw [admissionTriggered_disabled henabled]
      simpa [lockHeldByPass] using h
    | true =>
      rcases h with ⟨hnone, hfree⟩ | ⟨since, hone, hlocked⟩
      · rw [admissionTriggered_free henabled hfree, hnone]
        exact .inr ⟨r.clock, rfl, rfl⟩
      · rw [admissionTriggered_locked henabled hlocked, hone]
        exact .inr ⟨since, rfl, hlocked⟩
  | passReturns call =>
    by_cases hcall : ∃ since, r.calls[call]? = some (.inPass since)
    · obtain ⟨since, hcall⟩ := hcall
      rw [lockHeldByPass, running_passReturns config h hcall, step_passReturns hcall]
      dsimp only
      rw [ControllerState.admissionPassReturned]
      split
      · exact .inr ⟨r.clock, rfl, (h.running hcall).2⟩
      · exact .inl ⟨rfl, rfl⟩
    · rw [step_passReturns_idle (not_exists.mp hcall)]
      exact h
  | passRaises call =>
    by_cases hcall : ∃ since, r.calls[call]? = some (.inPass since)
    · obtain ⟨since, hcall⟩ := hcall
      exact .inl (running_passRaises config h hcall)
    · rw [step_passRaises_idle (not_exists.mp hcall)]
      exact h
  | elsewhere s => exact h

variable (config) in
/-- Where nothing holds the lock, nothing but a trigger takes it. -/
lemma free_step (hnone : passesRunning r = []) (hfree : r.state.ondemandAdmissionLocked = false)
    {e : AdmissionEvent} (he : e ≠ .trigger) :
    passesRunning (r.step config e) = [] ∧
      (r.step config e).state.ondemandAdmissionLocked = false := by
  have hidle : ∀ call, idleEvent r call := by
    intro call since hcall
    have hrunning := (lockHeldByPass.running (.inl ⟨hnone, hfree⟩) hcall).1
    rw [hnone] at hrunning
    cases hrunning
  cases e with
  | trigger => exact absurd rfl he
  | passReturns call =>
    rw [step_passReturns_idle (hidle call)]
    exact ⟨hnone, hfree⟩
  | passRaises call =>
    rw [step_passRaises_idle (hidle call)]
    exact ⟨hnone, hfree⟩
  | elsewhere s => exact ⟨hnone, hfree⟩

variable (config) in
lemma free_foldl {events : List AdmissionEvent} (hevents : .trigger ∉ events)
    (hnone : passesRunning r = []) (hfree : r.state.ondemandAdmissionLocked = false) :
    passesRunning (events.foldl (AdmissionRun.step config) r) = [] ∧
      (events.foldl (AdmissionRun.step config) r).state.ondemandAdmissionLocked = false := by
  induction events generalizing r with
  | nil => exact ⟨hnone, hfree⟩
  | cons e events ih =>
    rw [List.mem_cons, not_or] at hevents
    obtain ⟨hnone', hfree'⟩ := free_step config hnone hfree (Ne.symm hevents.1)
    exact ih hevents.2 hnone' hfree'

end Lock

section Followed

variable {config : Config} {r : AdmissionRun}

/-- How a trigger of step `t` stands. -/
inductive Stands (r : AdmissionRun) (t : Nat) : Prop
  | served (p : Nat × Nat) (hp : p ∈ r.passes) (h : t ≤ p.1)
  | inPass (since : Nat) (hrunning : passesRunning r = [since]) (h : t ≤ since)
      (hreturned : returnedSince r t ≤ 1)
  | waiting (hlocked : r.state.ondemandAdmissionLocked = true)
      (hrerun : r.state.ondemandRerunRequested = true) (hreturned : returnedSince r t = 0)
  | lost (x : Nat) (hx : x ∈ r.raises) (h : t ≤ x)

/-- Every trigger stands somewhere, and what is noted lies in the past. -/
structure KeepsTriggers (r : AdmissionRun) : Prop where
  lock : lockHeldByPass r
  triggered : ∀ t ∈ r.triggers, t < r.clock
  returned : ∀ p ∈ r.passes, p.2 < r.clock
  stands : ∀ t ∈ r.triggers, Stands r t

/-- What leaves the calls, the flags and the history as they are leaves a trigger where it is. -/
lemma Stands.congr {r' : AdmissionRun} {t : Nat} (hcalls : r'.calls = r.calls)
    (hlocked : r'.state.ondemandAdmissionLocked = r.state.ondemandAdmissionLocked)
    (hrerun : r'.state.ondemandRerunRequested = r.state.ondemandRerunRequested)
    (hpasses : r'.passes = r.passes) (hraises : r'.raises = r.raises) (h : Stands r t) :
    Stands r' t := by
  have hreturned : returnedSince r' t = returnedSince r t := by
    rw [returnedSince, hpasses, returnedSince]
  have hrunning : passesRunning r' = passesRunning r := by
    rw [passesRunning, hcalls, passesRunning]
  cases h with
  | served p hp h => exact .served p (hpasses ▸ hp) h
  | inPass since hr h hret => exact .inPass since (hrunning.trans hr) h (hreturned.trans_le hret)
  | waiting hl hre hret => exact .waiting (hlocked.trans hl) (hrerun.trans hre) (hreturned.trans hret)
  | lost x hx h => exact .lost x (hraises ▸ hx) h

lemma returnedSince_now (h : ∀ p ∈ r.passes, p.2 < r.clock) : returnedSince r r.clock = 0 := by
  rw [returnedSince, List.length_eq_zero_iff, List.filter_eq_nil_iff]
  intro p hp
  simpa using (h p hp).le

/-- A trigger which finds the lock held. -/
lemma step_trigger_locked (h : config.ondemandLeaseEnabled)
    (hlocked : r.state.ondemandAdmissionLocked = true) :
    r.step config .trigger = { r with
      state := { r.state with ondemandRerunRequested := true }
      calls := r.calls ++ [.returned]
      clock := r.clock + 1
      triggers := r.triggers ++ [r.clock] } := by
  simp only [AdmissionRun.step, AdmissionRun.handle, admissionTriggered_locked h hlocked]
  rfl

/-- A trigger which finds the lock free. -/
lemma step_trigger_free (h : config.ondemandLeaseEnabled)
    (hfree : r.state.ondemandAdmissionLocked = false) :
    r.step config .trigger = { r with
      state := { r.state with ondemandAdmissionLocked := true, ondemandRerunRequested := false }
      calls := r.calls ++ [.inPass r.clock]
      clock := r.clock + 1
      triggers := r.triggers ++ [r.clock] } := by
  simp only [AdmissionRun.step, AdmissionRun.handle, admissionTriggered_free h hfree]
  rfl

lemma running_append (r : AdmissionRun) (c : AdmissionCall) (calls : List AdmissionCall)
    (h : calls = r.calls ++ [c]) :
    calls.filterMap passStart = passesRunning r ++ (passStart c).toList := by
  rw [h, List.filterMap_append, passesRunning]
  cases hc : passStart c <;> simp [hc]

lemma stands_trigger (henabled : config.ondemandLeaseEnabled) (hlock : lockHeldByPass r) {t : Nat}
    (h : Stands r t) : Stands (r.step config .trigger) t := by
  rcases hlock with ⟨hnone, hfree⟩ | ⟨since, hone, hlocked⟩
  · rw [step_trigger_free henabled hfree]
    cases h with
    | served p hp h => exact .served p hp h
    | inPass since' hr h hret =>
      rw [hnone] at hr
      cases hr
    | waiting hl hre hret =>
      rw [hfree] at hl
      cases hl
    | lost x hx h => exact .lost x hx h
  · rw [step_trigger_locked henabled hlocked]
    cases h with
    | served p hp h => exact .served p hp h
    | inPass since' hr h hret =>
      exact .inPass since' ((running_append r .returned _ rfl).trans (by rw [hr]; rfl)) h hret
    | waiting hl hre hret => exact .waiting hl rfl hret
    | lost x hx h => exact .lost x hx h

/-- A trigger starts a pass itself, or asks for one. -/
lemma stands_triggered (henabled : config.ondemandLeaseEnabled) (h : KeepsTriggers r) :
    Stands (r.step config .trigger) r.clock := by
  have hnew : returnedSince r r.clock = 0 := returnedSince_now h.returned
  rcases h.lock with ⟨hnone, hfree⟩ | ⟨since, hone, hlocked⟩
  · rw [step_trigger_free henabled hfree]
    refine .inPass r.clock ?_ (le_refl _) (hnew.trans_le (Nat.zero_le 1))
    exact (running_append r (.inPass r.clock) _ rfl).trans (by rw [hnone]; rfl)
  · rw [step_trigger_locked henabled hlocked]
    exact .waiting hlocked rfl hnew

lemma stands_passReturns (hlock : lockHeldByPass r) {call since : Nat}
    (hcall : r.calls[call]? = some (.inPass since)) {t : Nat} (ht : t < r.clock) (h : Stands r t) :
    Stands (r.step config (.passReturns call)) t := by
  have hrunning := running_passReturns config hlock hcall
  have hreturned : returnedSince (r.step config (.passReturns call)) t = returnedSince r t + 1 := by
    rw [step_passReturns hcall, returnedSince, returnedSince, List.filter_append, List.length_append]
    simp [ht]
  have hpasses : (r.step config (.passReturns call)).passes = r.passes ++ [(since, r.clock)] := by
    rw [step_passReturns hcall]
  cases h with
  | served p hp h => exact .served p (hpasses ▸ List.mem_append_left _ hp) h
  | inPass since' hr h hret =>
    -- the pass which started at or after the trigger is the one which returns
    have hsame : since' = since := by
      have hone := (hlock.running hcall).1
      rw [hr] at hone
      exact (List.cons.inj hone).1
    refine .served (since, r.clock) ?_ (hsame ▸ h)
    rw [hpasses]
    exact List.mem_append_right _ (List.mem_singleton.mpr rfl)
  | waiting hl hre hret =>
    -- the flag is set, so that another pass starts now
    have hagain : r.state.admissionPassReturned.2 = true := by
      rw [ControllerState.admissionPassReturned, if_pos hre]
    rw [hagain, if_pos rfl] at hrunning
    exact .inPass r.clock hrunning ht.le (by rw [hreturned, hret])
  | lost x hx h =>
    refine .lost x ?_ h
    rw [step_passReturns hcall]
    exact hx

lemma stands_passRaises {call since : Nat} (hcall : r.calls[call]? = some (.inPass since)) {t : Nat}
    (ht : t < r.clock) : Stands (r.step config (.passRaises call)) t := by
  rw [step_passRaises hcall]
  exact .lost r.clock (List.mem_append_right _ (List.mem_singleton.mpr rfl)) ht.le

lemma keepsTriggers_step (henabled : config.ondemandLeaseEnabled) (h : KeepsTriggers r)
    (e : AdmissionEvent) : KeepsTriggers (r.step config e) := by
  have hlock : lockHeldByPass (r.step config e) := lockHeldByPass_step h.lock e
  have htriggered : ∀ t ∈ r.triggers, t < r.clock + 1 := fun t ht =>
    Nat.lt_succ_of_lt (h.triggered t ht)
  have hreturned : ∀ p ∈ r.passes, p.2 < r.clock + 1 := fun p hp =>
    Nat.lt_succ_of_lt (h.returned p hp)
  have hidle : ∀ (r' : AdmissionRun), lockHeldByPass r' → r' = { r with clock := r.clock + 1 } →
      KeepsTriggers r' := by
    rintro r' hlock' rfl
    exact ⟨hlock', htriggered, hreturned,
      fun t ht => Stands.congr (r := r) rfl rfl rfl rfl rfl (h.stands t ht)⟩
  cases e with
  | trigger =>
    have htriggers : (r.step config .trigger).triggers = r.triggers ++ [r.clock] := rfl
    refine ⟨hlock, fun t ht => ?_, hreturned, fun t ht => ?_⟩
    · rw [htriggers, List.mem_append, List.mem_singleton] at ht
      rcases ht with ht | rfl
      · exact htriggered t ht
      · exact Nat.lt_succ_self _
    · rw [htriggers, List.mem_append, List.mem_singleton] at ht
      rcases ht with ht | rfl
      · exact stands_trigger henabled h.lock (h.stands t ht)
      · exact stands_triggered henabled h
  | passReturns call =>
    by_cases hcall : ∃ since, r.calls[call]? = some (.inPass since)
    · obtain ⟨since, hcall⟩ := hcall
      refine ⟨hlock, ?_, ?_, fun t ht => ?_⟩
      · rw [step_passReturns hcall]
        exact htriggered
      · rw [step_passReturns hcall]
        intro p hp
        rcases List.mem_append.mp hp with hp | hp
        · exact hreturned p hp
        · rw [List.mem_singleton.mp hp]
          exact Nat.lt_succ_self _
      · rw [step_passReturns hcall] at ht
        exact stands_passReturns h.lock hcall (h.triggered t ht) (h.stands t ht)
    · exact hidle _ hlock (step_passReturns_idle (not_exists.mp hcall))
  | passRaises call =>
    by_cases hcall : ∃ since, r.calls[call]? = some (.inPass since)
    · obtain ⟨since, hcall⟩ := hcall
      refine ⟨hlock, ?_, ?_, fun t ht => ?_⟩
      · rw [step_passRaises hcall]
        exact htriggered
      · rw [step_passRaises hcall]
        exact hreturned
      · rw [step_passRaises hcall] at ht
        exact stands_passRaises hcall (h.triggered t ht)
    · exact hidle _ hlock (step_passRaises_idle (not_exists.mp hcall))
  | elsewhere s =>
    exact ⟨hlock, htriggered, hreturned,
      fun t ht => Stands.congr (r := r) rfl rfl rfl rfl rfl (h.stands t ht)⟩

lemma keepsTriggers_run (henabled : config.ondemandLeaseEnabled) (events : List AdmissionEvent) :
    KeepsTriggers (AdmissionRun.run config events) := by
  have hfrom : ∀ (events : List AdmissionEvent) r, KeepsTriggers r →
      KeepsTriggers (events.foldl (AdmissionRun.step config) r) := by
    intro events
    induction events with
    | nil => exact fun r h => h
    | cons e events ih => exact fun r h => ih _ (keepsTriggers_step henabled h e)
  exact hfrom events {} ⟨.inl ⟨rfl, rfl⟩, nofun, nofun, nofun⟩

end Followed

/-- However triggers, passes and the rest of the controller interleave, where leases are enabled. -/
theorem admission_coalesces {config : Config} (henabled : config.ondemandLeaseEnabled)
    (events : List AdmissionEvent) : Coalesces config (AdmissionRun.run config events) := by
  have h : KeepsTriggers (AdmissionRun.run config events) := keepsTriggers_run henabled events
  refine ⟨h.lock.alone, fun t ht hraises hover => ?_, fun call since hcall later hlater => ?_⟩
  · cases h.stands t ht with
    | served p hp hle => exact ⟨p, hp, hle⟩
    | inPass since hrunning _ hreturned =>
      rcases hover with hnone | htwo
      · rw [hrunning] at hnone
        cases hnone
      · omega
    | waiting hlocked _ hreturned =>
      rcases hover with hnone | htwo
      · rcases h.lock with ⟨-, hfree⟩ | ⟨since, hone, -⟩
        · rw [hlocked] at hfree
          cases hfree
        · rw [hone] at hnone
          cases hnone
      · omega
    | lost x hx hle => exact absurd (hraises x hx) (Nat.not_lt.mpr hle)
  · obtain ⟨hnone, hfree⟩ := running_passRaises config h.lock hcall
    obtain ⟨-, hfree'⟩ := free_foldl config hlater hnone hfree
    dsimp only
    rw [step_trigger_free henabled hfree']

/-- A trigger during a pass: another pass follows it. -/
theorem admission_coalesces_rerun :
    Coalesces {} (AdmissionRun.run {} [.trigger, .trigger, .passReturns 0, .passReturns 0]) ∧
      (AdmissionRun.run {} [.trigger, .trigger, .passReturns 0, .passReturns 0]).passes =
        [(0, 2), (2, 3)] :=
  ⟨admission_coalesces rfl _, by decide +kernel⟩

/-- With leases disabled a trigger starts nothing. -/
theorem not_admission_coalesces :
    ¬ ∀ config events, Coalesces config (AdmissionRun.run config events) := by
  intro h
  have hrun := h { ondemandLeaseEnabled := false } [.trigger]
  obtain ⟨p, hp, -⟩ := hrun.followed 0 (by decide +kernel) nofun (.inl (by decide +kernel))
  have hnone : (AdmissionRun.run { ondemandLeaseEnabled := false } [.trigger]).passes = [] := rfl
  rw [hnone] at hp
  cases hp

/-! The program of a call, run alone, does what the steps do. -/

section Program

variable {ans : ∀ q, Answer q → Prop} {config : Config} {s s' : ControllerState}
  {tr : List (Sigma Answer)}

/-- The passes a call makes, with what it does once each has returned. -/
lemma exec_runPasses (passes : Nat) :
    (runPasses config (passes + 1)).Exec ans s tr () s' ↔
      ∃ tr₁ tr₂ s₁, tr = tr₁ ++ tr₂ ∧
        (runOndemandAdmissionOnce config).Exec ans { s with ondemandRerunRequested := false } tr₁ ()
          s₁ ∧
        if s₁.admissionPassReturned.2 then (runPasses config passes).Exec ans s₁ tr₂ () s'
        else tr₂ = [] ∧ s' = s₁ := by
  rw [runPasses, Prog.exec_modify_bind, Prog.exec_bind]
  refine exists_congr fun tr₁ => exists_congr fun tr₂ => ?_
  rw [exists_comm]
  refine exists_congr fun s₁ => ?_
  have hrest : ((do
      let s ← Prog.get
      if s.ondemandRerunRequested then runPasses config passes else return ()) : Ctl Unit).Exec ans
        s₁ tr₂ () s' ↔
      if s₁.admissionPassReturned.2 then (runPasses config passes).Exec ans s₁ tr₂ () s'
      else tr₂ = [] ∧ s' = s₁ := by
    rw [Prog.exec_get_bind, ControllerState.admissionPassReturned]
    cases s₁.ondemandRerunRequested with
    | true => exact Iff.rfl
    | false => exact ⟨fun h => ⟨h.1, h.2.2⟩, fun h => ⟨h.1, rfl, h.2⟩⟩
  rw [← hrest]
  exact ⟨fun ⟨_, h⟩ => h, fun h => ⟨(), h⟩⟩

/-- The lock is taken before the first pass and given back after the last. -/
lemma exec_runOndemandAdmission (passes : Nat) :
    (runOndemandAdmission config passes).Exec ans s tr () s' ↔
      if (s.admissionTriggered config).2 then
        ∃ s₁, (runPasses config passes).Exec ans { s with ondemandAdmissionLocked := true } tr () s₁ ∧
          s' = { s₁ with ondemandAdmissionLocked := false }
      else tr = [] ∧ s' = (s.admissionTriggered config).1 := by
  rw [runOndemandAdmission, Prog.exec_get_bind]
  cases henabled : config.ondemandLeaseEnabled with
  | false =>
    rw [admissionTriggered_disabled henabled]
    exact ⟨fun h => ⟨h.1, h.2.2⟩, fun h => ⟨h.1, rfl, h.2⟩⟩
  | true =>
    cases hlocked : s.ondemandAdmissionLocked with
    | true =>
      rw [admissionTriggered_locked henabled hlocked]
      exact Prog.exec_modify
    | false =>
      rw [admissionTriggered_free henabled hlocked, if_pos rfl]
      change (runPasses config passes >>= fun _ => Prog.modify fun s =>
        { s with ondemandAdmissionLocked := false } : Ctl Unit).Exec ans
          { s with ondemandAdmissionLocked := true } tr () s' ↔ _
      rw [Prog.exec_bind]
      constructor
      · rintro ⟨tr₁, tr₂, _, s₁, rfl, hpasses, hunlock⟩
        obtain ⟨rfl, hs⟩ := Prog.exec_modify.mp hunlock
        rw [List.append_nil]
        exact ⟨s₁, hpasses, hs⟩
      · rintro ⟨s₁, hpasses, rfl⟩
        exact ⟨tr, [], (), s₁, (List.append_nil tr).symm, hpasses, Prog.exec_modify.mpr ⟨rfl, rfl⟩⟩

end Program

end GpuReservation.Proofs
