import UpTransportDds.Router.Attended
import UpTransportDds.Router.Wedge

/-! # Calls return

  `register_listener` only takes the table for a moment, but
  `unregister_listener` sleeps until the callback of its registration is over.
  In service it does not sleep forever: the guard in flight is released, no
  new one is created after the deactivation, and whoever sleeps is woken up.
-/

namespace UpTransportDds

open LTS

variable {UUri Listener Sample Message : Type}

/-! ### The steps of a call -/

/-- The call whose own step it is. -/
def Label.caller : Label UUri Listener Sample → Option CallId
  | .advance c => some c
  | _ => none

/-- A call that has taken `r` out of the table and looked at its counter. -/
def CallPc.WaitsOn (r : RegId) (pc : CallPc UUri Listener) : Prop :=
  pc = .asleep r ∨ pc = .awake r ∨ pc = .unregistered r

section steps
variable {s : State UUri Listener Sample Message} {c : CallId} {pc : CallPc UUri Listener}
  {r : RegId}

theorem Label.eq_advance {l : Label UUri Listener Sample} (h : l.caller = some c) :
    l = .advance c := by
  cases l with
  | advance c' => rw [Option.some.inj h]
  | _ => contradiction

theorem callPc_notifyIdle (hpc : s.callPc c = some pc) :
    (s.notifyIdle r).callPc c = some (pc.notify r) := by
  obtain ⟨call, -, hcall, rfl⟩ := mem_of_callPc hpc
  simp [State.callPc, hcall]

/-- A call that looks at the counter sleeps or returns. -/
theorem waitsOn_waitOn : (s.waitOn r).WaitsOn r := by
  unfold State.waitOn
  split
  · exact .inr (.inr rfl)
  · exact .inl rfl

variable [DecidableEq UUri] [UriMatches UUri] [DecidableEq Listener]
variable {env : Env UUri Sample Message} {s' : State UUri Listener Sample Message}
  {l : Label UUri Listener Sample}

/-- A call stays where it is until its own step, but for waking up. -/
theorem callPc_step (hpc : s.callPc c = some pc) (hcaller : l.caller ≠ some c)
    (h : Step env s l s') :
    s'.callPc c = some pc ∨ ∃ r, pc = .asleep r ∧ s'.callPc c = some (.awake r) := by
  have hother : ∀ {c' : CallId} {pc' : CallPc UUri Listener}
      {registry : Registry UUri Listener}, c' ≠ c →
      ({ s with registry := registry }.setPc c' pc').callPc c = some pc := by
    intro c' pc' registry hne
    rw [callPc_setPc_ne hne]
    exact hpc
  cases h with
  | enter site request =>
    left
    obtain ⟨call, -, hcall, hat⟩ := mem_of_callPc hpc
    show ((s.calls ++ _)[c]?).map Call.pc = some pc
    rw [List.getElem?_append_left (List.getElem?_eq_some_iff.mp hcall).1, hcall, ← hat]
    rfl
  | registerFail c' | register c' | removeFail c' | remove c' | deactivate c' | recheck c' =>
    refine .inl (hother ?_)
    rintro rfl
    exact hcaller rfl
  | @wake c' r hasleep =>
    by_cases heq : c' = c
    · subst heq
      obtain rfl := Option.some.inj (hpc.symm.trans hasleep)
      exact .inr ⟨r, rfl, callPc_setPc_self hpc⟩
    · exact .inl (hother heq)
  | @releaseLast t job aborted outcome htask hidle =>
    have hnotified := callPc_notifyIdle (r := job.reg)
      (s := { s with registry := s.registry.release job.reg }.setPhase t (.released outcome)) hpc
    rw [hnotified]
    cases pc with
    | asleep r =>
      rw [CallPc.notify]
      split
      · exact .inr ⟨r, rfl, rfl⟩
      · exact .inl rfl
    | _ => exact .inl rfl
  | _ => exact .inl hpc

/-- A call can take its own step unless it sleeps or has returned. -/
theorem caller_enabled (hpc : s.callPc c = some pc) (hdone : pc.done = false)
    (hasleep : ∀ r, pc ≠ .asleep r) : (router env).Enabled Label.caller (some c) s := by
  have hmove : ∀ {s' : State UUri Listener Sample Message}, Step env s (.advance c) s' →
      (router env).Enabled Label.caller (some c) s := fun hstep => ⟨_, _, rfl, hstep.next_eq⟩
  cases pc with
  | registering source sink listener =>
    cases hfilter : env.carriage.verifyFilterCriteria source sink with
    | error status => exact hmove (.registerFail c hpc (.inl hfilter))
    | ok =>
      cases hregister : s.registry.register source sink listener with
      | error status => exact hmove (.registerFail c hpc (.inr ⟨hfilter, hregister⟩))
      | ok registry => exact hmove (.register c hpc hregister hfilter)
  | removing source sink listener =>
    cases hfilter : env.carriage.verifyFilterCriteria source sink with
    | error status => exact hmove (.removeFail c hpc (.inl hfilter))
    | ok =>
      cases hremove : s.registry.remove source sink listener with
      | error status => exact hmove (.removeFail c hpc (.inr ⟨hfilter, hremove⟩))
      | ok removed => exact hmove (.remove c hpc hremove hfilter)
  | deactivating r => exact hmove (.deactivate c hpc)
  | asleep r => exact absurd rfl (hasleep r)
  | awake r => exact hmove (.recheck c hpc)
  | unregistered r | returned result => contradiction

theorem advance_registering {source : UUri} {sink : Option UUri} {listener : Listener}
    (hpc : s.callPc c = some (.registering source sink listener))
    (h : Step env s (.advance c) s') : ∃ result, s'.callPc c = some (.returned result) := by
  cases h with
  | registerFail _ _ _ => exact ⟨_, callPc_setPc_self hpc⟩
  | register _ _ _ _ => exact ⟨_, callPc_setPc_self hpc⟩
  | _ => simp_all

theorem advance_removing {source : UUri} {sink : Option UUri} {listener : Listener}
    (hpc : s.callPc c = some (.removing source sink listener))
    (h : Step env s (.advance c) s') : (∃ result, s'.callPc c = some (.returned result)) ∨
      ∃ r, s'.callPc c = some (.deactivating r) := by
  cases h with
  | removeFail _ _ _ => exact .inl ⟨_, callPc_setPc_self hpc⟩
  | remove _ _ _ _ => exact .inr ⟨_, callPc_setPc_self hpc⟩
  | _ => simp_all

theorem advance_deactivating (hpc : s.callPc c = some (.deactivating r))
    (h : Step env s (.advance c) s') : s'.callPc c = some (s.waitOn r) := by
  cases h with
  | deactivate _ hat =>
    obtain rfl := CallPc.deactivating.inj (Option.some.inj (hpc.symm.trans hat))
    exact callPc_setPc_self hpc
  | _ => simp_all

theorem advance_awake (hpc : s.callPc c = some (.awake r)) (h : Step env s (.advance c) s') :
    s'.callPc c = some (s.waitOn r) := by
  cases h with
  | recheck _ hat =>
    obtain rfl := CallPc.awake.inj (Option.some.inj (hpc.symm.trans hat))
    exact callPc_setPc_self hpc
  | _ => simp_all

/-- A call that waits for `r` goes on waiting for `r`, or returns. -/
theorem waitsOn_step (hpc : s.callPc c = some pc) (hwaits : pc.WaitsOn r) (h : Step env s l s') :
    ∃ pc', s'.callPc c = some pc' ∧ pc'.WaitsOn r := by
  by_cases hcaller : l.caller = some c
  · obtain rfl := Label.eq_advance hcaller
    rcases hwaits with rfl | rfl | rfl
    · cases h <;> simp_all
    · exact ⟨_, advance_awake hpc h, waitsOn_waitOn⟩
    · cases h <;> simp_all
  · rcases callPc_step hpc hcaller h with hsame | ⟨r', rfl, hawake⟩
    · exact ⟨pc, hsame, hwaits⟩
    · obtain rfl : r' = r := by simpa [CallPc.WaitsOn] using hwaits
      exact ⟨_, hawake, .inr (.inl rfl)⟩

end steps

/-! ### Every call returns -/

section returns
variable [DecidableEq UUri] [UriMatches UUri] [DecidableEq Listener]
variable {env : Env UUri Sample Message} {σ : RouterExecution Listener env}
  {k : Nat} {c : CallId} {pc : CallPc UUri Listener} {r : RegId}

/-- The guard in flight of a registration is released, if there is one. -/
theorem Attended.quiesces (h : Attended σ) (k : Nat) (r : RegId) :
    ∃ i, k ≤ i ∧ (σ.state i).registry.inFlight r = 0 := by
  by_contra hnever
  have hflying : ∀ i, k ≤ i → (σ.state i).registry.inFlight r ≠ 0 := by
    intro i hi hzero
    exact hnever ⟨i, hi, hzero⟩
  -- whoever holds the guard keeps the dispatcher busy
  have hbusy : ∀ i, k ≤ i → (σ.state i).dispatcher.job.isSome = true := by
    intro i hi
    have hr := h.reachable i
    rcases guard_of_owner ((reachable_counted hr).owner_of_ne_zero (hflying i hi)) with
      ⟨job, hpc, -⟩ | ⟨t, task, hcur, -, -, -⟩
    · rw [hpc]
      rfl
    · obtain ⟨_, -, hjob⟩ := (reachable_serial hr).current t hcur
      rw [hjob]
      rfl
  have hreceiving : ∀ i, k ≤ i → (σ.state i).dispatcher ≠ .receiving := by
    intro i hi hpc
    have hjob := hbusy i hi
    rw [hpc] at hjob
    contradiction
  have hcurrent : ∀ i, k ≤ i → (σ.state i).currentTask = (σ.state k).currentTask := by
    intro i hi
    induction i, hi using Nat.le_induction with
    | base => rfl
    | succ i hi ih =>
      have hsame := currentTask_step (fun hrecv => hreceiving i hi hrecv.1)
        (hbusy (i + 1) (Nat.le_succ_of_le hi)) (step_at σ i)
      exact hsame.2.trans ih
  obtain ⟨n, hn⟩ := h.goes_on (σ.state k).currentTask
  obtain ⟨i, -, -, hnot⟩ := h.attends (fun i => k ≤ i) (fun _ => False)
    (fun i hi _ => Nat.le_succ_of_le hi)
    ⟨n, fun i hi hk _ => by
      rw [hcurrent i hk]
      exact hn i hi⟩
    (fun i hi hpc => absurd hpc (hreceiving i hi))
    (fun i hi hrecv => absurd hrecv.1 (hreceiving i hi)) (Nat.le_refl k)
  exact hnot

theorem quiesced_at {i j : Nat} (h : (σ.state i).registry.Quiesced r) (hij : i ≤ j) :
    (σ.state j).registry.Quiesced r := by
  induction j, hij using Nat.le_induction with
  | base => exact h
  | succ j hij ih => exact (registry_evolves (step_at σ j)).quiesced ih

theorem waitsOn_at {i j : Nat} (h : ∃ pc, (σ.state i).callPc c = some pc ∧ pc.WaitsOn r)
    (hij : i ≤ j) : ∃ pc, (σ.state j).callPc c = some pc ∧ pc.WaitsOn r := by
  induction j, hij using Nat.le_induction with
  | base => exact h
  | succ j hij ih =>
    obtain ⟨pc, hpc, hwaits⟩ := ih
    exact waitsOn_step hpc hwaits (step_at σ j)

/-- A call that can take its own step takes it. -/
theorem caller_acts (hfair : σ.Fair Label.caller (some c)) (hpc : (σ.state k).callPc c = some pc)
    (hdone : pc.done = false) (hasleep : ∀ r, pc ≠ .asleep r) :
    ∃ i, k ≤ i ∧ (σ.state i).callPc c = some pc ∧
      Step env (σ.state i) (.advance c) (σ.state (i + 1)) := by
  obtain ⟨i, hi, hat, hcaller⟩ := σ.acts (fun i => (σ.state i).callPc c = some pc)
    (fun i hat hother => by
      rcases callPc_step hat hother (step_at σ i) with hsame | ⟨r, hsleeps, -⟩
      · exact hsame
      · exact absurd hsleeps (hasleep r))
    (fun i hat => caller_enabled hat hdone hasleep) hfair hpc
  have hstep := step_at σ i
  rw [Label.eq_advance hcaller] at hstep
  exact ⟨i, hi, hat, hstep⟩

/-- Whoever waits for a callback waits only until it is over. -/
theorem Attended.wait_ends (h : Attended σ) (hfair : σ.Fair Label.caller (some c))
    (hpc : (σ.state k).callPc c = some pc) (hwaits : pc.WaitsOn r) :
    ∃ i, k ≤ i ∧ (σ.state i).callPc c = some (.unregistered r) := by
  obtain ⟨i, hi, hzero⟩ := h.quiesces k r
  obtain ⟨pc', hat, hstill⟩ := waitsOn_at ⟨pc, hpc, hwaits⟩ hi
  have hknows := (reachable_waits (h.reachable i)).callOk hat
  rcases hstill with rfl | rfl | rfl
  · -- nobody sleeps on a counter that is zero
    exact absurd hzero hknows.2
  · obtain ⟨j, hj, hawake, hstep⟩ := caller_acts hfair hat rfl (by simp)
    have hquiet : (σ.state j).registry.inFlight r = 0 := (quiesced_at ⟨hknows, hzero⟩ hj).2
    have hnext := advance_awake hawake hstep
    rw [State.waitOn, if_pos hquiet] at hnext
    exact ⟨j + 1, by omega, hnext⟩
  · exact ⟨i, hi, hat⟩

theorem Attended.deactivation_ends (h : Attended σ) (hfair : σ.Fair Label.caller (some c))
    (hpc : (σ.state k).callPc c = some (.deactivating r)) :
    ∃ i, k ≤ i ∧ (σ.state i).callPc c = some (.unregistered r) := by
  obtain ⟨i, hi, hat, hstep⟩ := caller_acts hfair hpc rfl (by simp)
  obtain ⟨j, hj, hreturned⟩ :=
    h.wait_ends hfair (advance_deactivating hat hstep) waitsOn_waitOn
  exact ⟨j, by omega, hreturned⟩

/-- **Every call returns.** In service, neither `register_listener` nor
    `unregister_listener` hangs, however many callbacks of the registration
    are queued or running, as long as the thread that calls is not starved. -/
theorem calls_return (h : Attended σ) (hfair : σ.Fair Label.caller (some c))
    (hpc : (σ.state k).callPc c = some pc) :
    ∃ i pc', k ≤ i ∧ (σ.state i).callPc c = some pc' ∧ pc'.done = true := by
  cases pc with
  | registering source sink listener =>
    obtain ⟨i, hi, hat, hstep⟩ := caller_acts hfair hpc rfl (by simp)
    obtain ⟨result, hreturned⟩ := advance_registering hat hstep
    exact ⟨i + 1, _, by omega, hreturned, rfl⟩
  | removing source sink listener =>
    obtain ⟨i, hi, hat, hstep⟩ := caller_acts hfair hpc rfl (by simp)
    rcases advance_removing hat hstep with ⟨result, hreturned⟩ | ⟨r, hremoved⟩
    · exact ⟨i + 1, _, by omega, hreturned, rfl⟩
    · obtain ⟨j, hj, hreturned⟩ := h.deactivation_ends hfair hremoved
      exact ⟨j, _, by omega, hreturned, rfl⟩
  | deactivating r =>
    obtain ⟨i, hi, hreturned⟩ := h.deactivation_ends hfair hpc
    exact ⟨i, _, hi, hreturned, rfl⟩
  | asleep r =>
    obtain ⟨i, hi, hreturned⟩ := h.wait_ends hfair hpc (.inl rfl)
    exact ⟨i, _, hi, hreturned, rfl⟩
  | awake r =>
    obtain ⟨i, hi, hreturned⟩ := h.wait_ends hfair hpc (.inr (.inl rfl))
    exact ⟨i, _, hi, hreturned, rfl⟩
  | unregistered r => exact ⟨k, _, Nat.le_refl k, hpc, rfl⟩
  | returned result => exact ⟨k, _, Nat.le_refl k, hpc, rfl⟩

theorem caller_idle {s : State UUri Listener Sample Message} (hpc : s.callPc c = some pc)
    (hdone : pc.done = true) : ¬ (router env).Enabled Label.caller (some c) s := by
  intro ⟨l, s', hcaller, hmove⟩
  obtain rfl := Label.eq_advance hcaller
  have hadvance : s.advance env c = some s' := hmove
  cases pc with
  | unregistered r | returned result => simp [State.advance, hpc] at hadvance
  | _ => contradiction

end returns

/-- `unregister` is called while a callback of the listener runs. -/
def returnedRun : List TopicLabel :=
  [.enter .external (.register ⟨7⟩ none 0), .advance 0,
   .poller, .take (.ok [some ("peer", 7)]), .poller, .poller, .poller, .poller,
   .dispatcher, .dispatcher, .dispatcher, .poll 0,
   .enter .external (.unregister ⟨7⟩ none 0), .advance 1, .advance 1,
   .finish 0 false, .release 0, .complete 0, .advance 1,
   .dispatcher, .dispatcher, .dispatcher, .dispatcher]

/-- It sleeps, and then returns. -/
theorem calls_return_run : ∃ σ : Execution topicRouter,
    (σ.state 15).callPc 1 = some (.asleep 0) ∧
    ∃ i pc, 15 ≤ i ∧ (σ.state i).callPc 1 = some pc ∧ pc.done = true := by
  obtain ⟨tr, s, hexec, hrest, hfree, hlength, hasleep, hreturned⟩ : ∃ tr s,
      exec (State.next (topicEnv 4 2)) State.start returnedRun = some (tr, s) ∧ AtRest s ∧
        tr.all (·.1.foreign = 0) = true ∧ 15 < tr.length ∧
        (tr[15]?).map (fun e => e.1.callPc 1) = some (some (.asleep 0)) ∧
        s.callPc 1 = some (.unregistered 0) :=
    ⟨_, _, rfl, ⟨rfl, rfl, rfl, rfl, rfl, rfl⟩, rfl, by decide, rfl, rfl⟩
  obtain ⟨σ, hattended, hsteps, hstates⟩ :=
    attended_of_atRest hexec hrest (by simp [returnedRun, Label.Serving]) hfree
  rw [hsteps 15 hlength] at hasleep
  have hsleeps : (σ.state 15).callPc 1 = some (.asleep 0) := Option.some.inj hasleep
  refine ⟨σ, hsleeps, calls_return hattended ?_ hsleeps⟩
  -- the call has returned when the transport is at rest
  intro i henabled
  have hat : (σ.state (tr.length + i)).callPc 1 = some (.unregistered 0) := by
    rcases hstates i with hstate | hstate <;> rw [hstate]
    · exact hreturned
    · exact hreturned
  exact absurd (henabled (tr.length + i) (Nat.le_add_left i _)) (caller_idle hat rfl)

end UpTransportDds
