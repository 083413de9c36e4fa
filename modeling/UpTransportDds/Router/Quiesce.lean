import Mathlib
import UpTransportDds.Router.Wedge

/-! # When quiescing ends

  A party that waits where it may is never stuck: the other calls can run to
  their end, since only one callback is in flight and only one party waits
  for it, and so can unrelated work. Then a worker is free, finds the callback
  in no slot but its own, and takes it to its end.
-/

namespace UpTransportDds

open LTS

variable {UUri Listener Sample Message : Type}

/-! ### Lists -/

section lists
variable {α β : Type} {xs : List α} {i j : Nat} {x y : α} {f : α → α}

theorem sum_map_modify (g : α → Nat) (h : xs[i]? = some x) :
    ((xs.modify i f).map g).sum + g x = (xs.map g).sum + g (f x) := by
  induction xs generalizing i with
  | nil => simp at h
  | cons a xs ih =>
    cases i with
    | zero =>
      obtain rfl : a = x := by simpa using h
      rw [List.modify_zero_cons, List.map_cons, List.map_cons, List.sum_cons, List.sum_cons]
      omega
    | succ i =>
      have htail := ih (by simpa using h)
      rw [List.modify_succ_cons, List.map_cons, List.map_cons, List.sum_cons, List.sum_cons]
      omega

/-- Two elements that contribute the same are the same. -/
theorem index_unique {g : α → Option β} {b : β} (hnodup : (xs.filterMap g).Nodup)
    (hi : xs[i]? = some x) (hj : xs[j]? = some y) (hx : g x = some b) (hy : g y = some b) :
    i = j := by
  induction xs generalizing i j with
  | nil => simp at hi
  | cons a xs ih =>
    have hmem : ∀ {k z}, xs[k]? = some z → g z = some b → b ∈ xs.filterMap g :=
      fun hk hz => List.mem_filterMap.mpr ⟨_, List.mem_of_getElem? hk, hz⟩
    have htail : (xs.filterMap g).Nodup := by
      rw [List.filterMap_cons] at hnodup
      split at hnodup
      · exact hnodup
      · exact (List.nodup_cons.mp hnodup).2
    have hhead : g a = some b → b ∉ xs.filterMap g := by
      intro ha
      rw [List.filterMap_cons, ha] at hnodup
      exact (List.nodup_cons.mp hnodup).1
    cases i with
    | zero =>
      obtain rfl : a = x := by simpa using hi
      cases j with
      | zero => rfl
      | succ j => exact absurd (hmem (by simpa using hj) hy) (hhead hx)
    | succ i =>
      cases j with
      | zero =>
        obtain rfl : a = y := by simpa using hj
        exact absurd (hmem (by simpa using hi) hx) (hhead hy)
      | succ j =>
        have hindex : i = j := ih htail (by simpa using hi) (by simpa using hj)
        rw [hindex]

/-- What holds of one place at most is counted at most once. -/
theorem countP_le_one {p : α → Bool} (h : ∀ j y, xs[j]? = some y → p y = true → j = i) :
    xs.countP p ≤ 1 := by
  induction xs generalizing i with
  | nil => exact Nat.zero_le _
  | cons a xs ih =>
    rw [List.countP_cons]
    by_cases ha : p a = true
    · have hnone : xs.countP p = 0 := by
        apply List.countP_eq_zero.mpr
        intro y hy hpy
        obtain ⟨j, hj⟩ := List.mem_iff_getElem?.mp hy
        have hzero := h 0 a rfl ha
        have hsucc := h (j + 1) y (by simpa using hj) hpy
        omega
      simp [hnone, ha]
    · rw [if_neg ha, Nat.add_zero]
      cases i with
      | zero =>
        have hnone : xs.countP p = 0 := by
          apply List.countP_eq_zero.mpr
          intro y hy hpy
          obtain ⟨j, hj⟩ := List.mem_iff_getElem?.mp hy
          have hsucc := h (j + 1) y (by simpa using hj) hpy
          omega
        omega
      | succ i =>
        apply ih (i := i)
        intro j y hj hpy
        have hsucc := h (j + 1) y (by simpa using hj) hpy
        omega

end lists

/-! ### The work ahead -/

/-- How many steps a call is away from its return, waiting apart. -/
def CallPc.rank : CallPc UUri Listener → Nat
  | .registering _ _ _ => 1
  | .removing _ _ _ => 3
  | .deactivating _ => 2
  | .asleep _ => 1
  | .awake _ => 1
  | _ => 0

/-- How many steps a future is away from dropping its guard. -/
def Phase.rank : Phase → Nat
  | .spawned => 3
  | .suspended => 3
  | .woken _ => 3
  | .polling => 2
  | .dropping _ => 1
  | _ => 0

theorem Phase.rank_of_pollable {phase : Phase} (h : phase.pollable = true) : phase.rank = 3 := by
  cases phase <;> first | rfl | contradiction

/-- How many steps the live guard is away from being dropped. -/
def guardRank (dispatcher : Dispatcher Message) (tasks : List (Task Message)) : Nat :=
  match dispatcher with
  | .spawning _ => 4
  | dispatcher =>
    (dispatcher.task.bind fun t => (tasks[t]?).map fun task => task.phase.rank).getD 0

/-- The work ahead of a party that waits. -/
def State.rank (s : State UUri Listener Sample Message) : Nat :=
  (s.calls.map fun call => call.pc.rank).sum + s.foreign + guardRank s.dispatcher s.tasks

section rank
variable {s s' : State UUri Listener Sample Message} {c : CallId}
  {pc pc' : CallPc UUri Listener} {t : TaskId} {task : Task Message} {phase : Phase}

theorem callRank_setPc (hpc : s.callPc c = some pc) (hless : pc'.rank < pc.rank) :
    ((s.setPc c pc').calls.map fun call => call.pc.rank).sum <
      (s.calls.map fun call => call.pc.rank).sum := by
  obtain ⟨call, _, hcall, rfl⟩ := mem_of_callPc hpc
  have hsum := sum_map_modify (f := fun call : Call UUri Listener => { call with pc := pc' })
    (fun call => call.pc.rank) hcall
  rw [State.setPc_calls]
  simp only at hsum
  omega

theorem callRank_notifyIdle {r : RegId} :
    ((s.notifyIdle r).calls.map fun call => call.pc.rank).sum =
      (s.calls.map fun call => call.pc.rank).sum := by
  rw [State.notifyIdle_calls, List.map_map]
  congr 1
  apply List.map_congr_left
  intro call _
  show (call.pc.notify r).rank = call.pc.rank
  cases call.pc with
  | asleep r' =>
    rw [CallPc.notify]
    split <;> rfl
  | _ => rfl

theorem guardRank_of_task {dispatcher : Dispatcher Message} {tasks : List (Task Message)}
    (hcur : dispatcher.task = some t) (htask : tasks[t]? = some task) :
    guardRank dispatcher tasks = task.phase.rank := by
  cases dispatcher <;> simp_all [guardRank, Dispatcher.task]

/-- A future that gets closer to dropping its guard. -/
theorem guardRank_withPhase {dispatcher : Dispatcher Message} {tasks : List (Task Message)}
    (hcur : dispatcher.task = some t) (htask : tasks[t]? = some task)
    (hless : phase.rank < task.phase.rank) :
    guardRank dispatcher (withPhase tasks t phase) < guardRank dispatcher tasks := by
  rw [guardRank_of_task hcur htask, guardRank_of_task hcur (withPhase_self htask)]
  exact hless

theorem rank_lt_of_calls (hforeign : s'.foreign = s.foreign)
    (hdispatcher : s'.dispatcher = s.dispatcher) (htasks : s'.tasks = s.tasks)
    (hless : (s'.calls.map fun call => call.pc.rank).sum <
      (s.calls.map fun call => call.pc.rank).sum) : s'.rank < s.rank := by
  unfold State.rank
  rw [hforeign, hdispatcher, htasks]
  omega

theorem rank_lt_of_guard (hforeign : s'.foreign = s.foreign)
    (hcalls : (s'.calls.map fun call => call.pc.rank).sum =
      (s.calls.map fun call => call.pc.rank).sum)
    (hless : guardRank s'.dispatcher s'.tasks < guardRank s.dispatcher s.tasks) :
    s'.rank < s.rank := by
  unfold State.rank
  rw [hforeign, hcalls]
  omega

end rank

/-! ### Who can be in the way -/

section company
variable {s : State UUri Listener Sample Message} {c : CallId} {pc : CallPc UUri Listener}
  {w : Waiter} {r : RegId}

theorem CallPc.pending_of_waitsFor (h : pc.waitsFor = some r) : pc.pending = some r := by
  cases pc <;> simp_all [CallPc.waitsFor, CallPc.pending]

theorem DropPc.mem_pending_of_waitsFor {drop : DropPc} (h : drop.waitsFor = some r) :
    r ∈ drop.pending := by
  cases drop <;> simp_all [DropPc.waitsFor, DropPc.pending]

/-- A registration that somebody waits for is in nobody else's hands. -/
theorem waiter_unique (hh : Held s) (hwait : s.waitsFor w = some r) (hpc : s.callPc c = some pc)
    (hpending : pc.pending = some r) : w = .call c := by
  obtain ⟨call, hmem, hcall, rfl⟩ := mem_of_callPc hpc
  obtain ⟨_, hparties, _⟩ := List.nodup_append.mp hh.nodup
  obtain ⟨hcalls, _, hapart⟩ := List.nodup_append.mp hparties
  cases w with
  | call c' =>
    obtain ⟨call', hcall', hwait', _⟩ := call_of_waitsFor hwait
    have hindex : c' = c :=
      index_unique hcalls hcall' hcall (CallPc.pending_of_waitsFor hwait') hpending
    rw [hindex]
  | drop =>
    have hmine : r ∈ s.calls.filterMap fun call => call.pc.pending :=
      List.mem_filterMap.mpr ⟨call, hmem, hpending⟩
    exact absurd rfl (hapart r hmine r (DropPc.mem_pending_of_waitsFor hwait))

/-- A party that waits knows that the registration is inactive. -/
theorem inactive_of_waitsFor (hw : Waits s.registry s.calls s.drop)
    (hwait : s.waitsFor w = some r) : s.registry.Inactive r := by
  cases w with
  | call c =>
    obtain ⟨call, hcall, hwait', _⟩ := call_of_waitsFor hwait
    have hok := hw.calls call (List.mem_of_getElem? hcall)
    cases hpc : call.pc <;> rw [hpc] at hok hwait' <;> simp only [CallPc.waitsFor] at hwait'
    all_goals first | contradiction | obtain rfl := Option.some.inj hwait'
    · exact hok.1
    · exact hok
  | drop =>
    have hwait' : s.drop.waitsFor = some r := hwait
    have hok := hw.drop
    cases hpc : s.drop <;> rw [hpc] at hok hwait' <;> simp only [DropPc.waitsFor] at hwait'
    all_goals first | contradiction | obtain rfl := Option.some.inj hwait'
    · exact hok.1.1
    · exact hok.1

/-- Calls that wait for nothing in flight are not asleep. -/
theorem not_asleep (hw : Waits s.registry s.calls s.drop)
    (hzero : s.registry.inFlight r = 0) : s.callPc c ≠ some (.asleep r) := by
  intro hpc
  exact (hw.callOk hpc).2 hzero

/-- Only the party that waits can occupy a worker. -/
theorem busy_le_one (hd : Dropping s) (hwait : s.waitsFor w = some r)
    (hothers : ∀ c pc, s.callPc c = some pc → pc.done = false → w = .call c) :
    s.calls.countP Call.occupies + s.dropBusy ≤ 1 ∧
      (s.siteOf w = some .external → s.calls.countP Call.occupies + s.dropBusy = 0) := by
  have hcall : ∀ c call, s.calls[c]? = some call → call.occupies = true → w = .call c := by
    intro c call hcall hoccupies
    apply hothers c call.pc (by simp [State.callPc, hcall])
    simpa using (Bool.and_eq_true_iff.mp hoccupies).2
  cases w with
  | call c =>
    obtain ⟨call, hget, _, hbusy⟩ := call_of_waitsFor hwait
    have hpc : s.callPc c = some call.pc := by simp [State.callPc, hget]
    -- while a call waits `Drop` has not been entered
    have hlive : s.drop.rank = 0 := hd.live_of_call hpc hbusy
    have hdrop : s.dropBusy = 0 := by
      apply if_neg
      rintro ⟨_, hrunning⟩
      cases hpc : s.drop <;> simp_all [DropPc.rank, DropPc.running]
    have hone : s.calls.countP Call.occupies ≤ 1 := by
      apply countP_le_one (i := c)
      intro j y hj hoccupies
      exact (Waiter.call.inj (hcall j y hj hoccupies)).symm
    refine ⟨by omega, ?_⟩
    intro hsite
    -- a caller outside the runtime takes no worker either
    have hnone : s.calls.countP Call.occupies = 0 := by
      apply List.countP_eq_zero.mpr
      intro call' hmem hoccupies
      obtain ⟨j, hj⟩ := List.mem_iff_getElem?.mp hmem
      obtain rfl : c = j := Waiter.call.inj (hcall j call' hj hoccupies)
      have hworker := (Bool.and_eq_true_iff.mp hoccupies).1
      simp_all [State.siteOf]
    omega
  | drop =>
    have hnone : s.calls.countP Call.occupies = 0 := by
      apply List.countP_eq_zero.mpr
      intro call hmem hoccupies
      obtain ⟨j, hj⟩ := List.mem_iff_getElem?.mp hmem
      have hdrop := hcall j call hj hoccupies
      contradiction
    have hone := dropBusy_le_one (s := s)
    refine ⟨by omega, ?_⟩
    intro hsite
    have helsewhere : s.dropSite ≠ .worker := by
      rw [Option.some.inj hsite]
      decide
    rw [hnone, dropBusy_elsewhere helsewhere]

/-- Nobody else has the callback in the slot of its worker. -/
theorem not_slotted (hd : Dropping s) {task : Task Message} (hmem : task ∈ s.tasks)
    (hwait : s.waitsFor w = some r) (hkeeps : ¬ s.Keeps w) (hforeign : s.foreign = 0)
    (hothers : ∀ c pc, s.callPc c = some pc → pc.done = false → w = .call c) :
    s.slotted task = false := by
  cases hphase : task.phase with
  | woken o =>
    rw [slotted_of_woken hphase]
    by_contra hoccupied
    rw [Bool.not_eq_false] at hoccupied
    cases o with
    | call c =>
      obtain ⟨call, hcall, hopen⟩ := (Option.any_eq_true _ _).mp hoccupied
      obtain rfl := hothers c call.pc (by simp [State.callPc, hcall]) (by simpa using hopen)
      exact hkeeps ⟨task, hmem, hphase⟩
    | drop =>
      cases w with
      | call c =>
        -- while a call waits `Drop` has not been entered
        obtain ⟨call, hget, _, hbusy⟩ := call_of_waitsFor hwait
        have hlive : s.drop.rank = 0 :=
          hd.live_of_call (by simp [State.callPc, hget] : s.callPc c = some call.pc) hbusy
        have hrunning : s.drop.running = true := hoccupied
        cases hpc : s.drop <;> simp_all [DropPc.rank, DropPc.running]
      | drop => exact hkeeps ⟨task, hmem, hphase⟩
    | poll k =>
      have hpoll : s.polls[k]? = some true := by simpa [State.occupied] using hoccupied
      have hpos : 0 < s.foreign := List.countP_pos_iff.mpr ⟨true, List.mem_of_getElem? hpoll, rfl⟩
      omega
  | _ => simp only [State.slotted, hphase]

/-- Nobody else is inside the callback. -/
theorem not_inCall (hd : Dropping s) {t : TaskId} (hwait : s.waitsFor w = some r)
    (hsite : s.siteOf w ≠ some (.callback t))
    (hothers : ∀ c pc, s.callPc c = some pc → pc.done = false → w = .call c) :
    s.inCall t = false := by
  have hnone : s.calls.any (fun call => call.site = .callback t && !call.pc.done) = false := by
    apply List.any_eq_false.mpr
    intro call hmem hin
    obtain ⟨hcallback, hbusy⟩ := Bool.and_eq_true_iff.mp hin
    obtain ⟨j, hj⟩ := List.mem_iff_getElem?.mp hmem
    obtain rfl := hothers j call.pc (by simp [State.callPc, hj]) (by simpa using hbusy)
    apply hsite
    simp [State.siteOf, hj, of_decide_eq_true hcallback]
  -- `Drop` is the party that waits itself, or has not been entered
  have hdrop : (s.dropSite = .callback t && s.drop.running) = false := by
    rw [Bool.and_eq_false_iff]
    cases w with
    | call c =>
      obtain ⟨call, hget, _, hbusy⟩ := call_of_waitsFor hwait
      have hpc : s.callPc c = some call.pc := by simp [State.callPc, hget]
      have hlive : s.drop.rank = 0 := hd.live_of_call hpc hbusy
      cases hpc : s.drop <;> simp_all [DropPc.rank, DropPc.running]
    | drop =>
      refine .inl (decide_eq_false ?_)
      intro heq
      exact hsite (congrArg some heq)
  rw [State.inCall, hnone, hdrop]
  rfl

end company

/-! ### The next step -/

section progress
variable [DecidableEq UUri] [UriMatches UUri] [DecidableEq Listener]
variable {env : Env UUri Sample Message} {s s' : State UUri Listener Sample Message}
  {w : Waiter} {r : RegId} {c : CallId} {pc : CallPc UUri Listener}
  {l : Label UUri Listener Sample}

/-- Every party that waits for a callback in flight may wait for it. -/
def SafeWaits (env : Env UUri Sample Message) (s : State UUri Listener Sample Message) : Prop :=
  ∀ w, s.Blocked w → s.MayWait env w

/-- A runtime stays driven unless it is left undriven. -/
theorem driven_step (h : Step env s l s') (hl : l ≠ .undrive) (hdriven : s.driven = true) :
    s'.driven = true := by
  cases h with
  | drive _ => rfl
  | undrive _ _ _ => exact absurd rfl hl
  | _ => exact hdriven

/-- A party that begins to wait wakes up nobody by it. -/
theorem keeps_of_begin (h : Step env s l s') (hbegin : beginsWait s l = some w)
    (hkeeps : s'.Keeps w) : s.Keeps w := by
  cases h with
  | deactivate _ _ | drain _ => exact hkeeps
  | _ => simp_all [beginsWait]

theorem safeWaits_step (hw : Waits s.registry s.calls s.drop) (hi : SafeWaits env s)
    (hsafe : SafeWait env s l) (h : Step env s l s') : SafeWaits env s' := by
  intro w ⟨r, hwait', hflying'⟩
  rcases beginsWait_of_waitsFor h hwait' with hwait | ⟨hbegin, hentered⟩
  -- an old wait is where it was, and the count of an inactive registration only falls
  · have hle := (registry_evolves h).inFlight_le r (inactive_of_waitsFor hw hwait)
    have hblocked : s.Blocked w := ⟨r, hwait, by omega⟩
    obtain ⟨hsite, hkeeps, hdriven⟩ := hi w hblocked
    refine ⟨?_, ?_, driven_step h (fun hl => hsafe.2 hl w hblocked) hdriven⟩
    · rw [siteOf_step h (entered_of_waitsFor hwait)]
      exact hsite
    · exact fun hkept => hkeeps (keeps_of_step hwait h hkept)
  · obtain ⟨hsite, hkeeps, hdriven⟩ := hsafe.1 w hbegin
    refine ⟨?_, fun hkept => hkeeps (keeps_of_begin h hbegin hkept), ?_⟩
    · rw [siteOf_step h hentered]
      exact hsite
    · refine driven_step h ?_ hdriven
      rintro rfl
      contradiction

/-- A party whose registration has nothing in flight stops waiting. -/
theorem end_of_wait (hw : Waits s.registry s.calls s.drop) (hwait : s.waitsFor w = some r)
    (hzero : s.registry.inFlight r = 0) :
    ∃ l s', l.Unaided ∧ Step env s l s' ∧ SafeWait env s l ∧
      s'.waitsFor w ≠ some r := by
  cases w with
  | call c =>
    obtain ⟨pc, hpc, hwait'⟩ := Option.bind_eq_some_iff.mp hwait
    cases pc with
    | asleep r' =>
      obtain rfl : r' = r := Option.some.inj hwait'
      -- a sleeper would have been woken up
      exact absurd hpc (not_asleep hw hzero)
    | awake r' =>
      obtain rfl : r' = r := Option.some.inj hwait'
      refine ⟨.advance c, _, by simp [Label.Unaided], .recheck c hpc, ?_, ?_⟩
      · exact safeWait_of_quiet (by simp [beginsWait, hpc]) (by simp)
      · rw [waitsFor_setPc_self hpc, State.waitOn, if_pos hzero]
        simp [CallPc.waitsFor]
    | _ => contradiction
  | drop =>
    have hwait' : s.drop.waitsFor = some r := hwait
    cases hpc : s.drop with
    | asleep r' regs =>
      rw [hpc] at hwait'
      obtain rfl : r' = r := Option.some.inj hwait'
      have hok := hw.drop
      rw [hpc] at hok
      exact absurd hzero hok.1.2
    | awake r' regs =>
      rw [hpc] at hwait'
      obtain rfl : r' = r := Option.some.inj hwait'
      refine ⟨.drop, _, by simp [Label.Unaided], .recheckDrop hpc, ?_, ?_⟩
      · exact safeWait_of_quiet (by simp [beginsWait, hpc]) (by simp)
      · show (s.drainOn r' regs).waitsFor ≠ some r'
        rw [State.drainOn, if_pos hzero]
        simp [DropPc.waitsFor]
    | _ =>
      rw [hpc] at hwait'
      contradiction

/-- A call other than the one that waits comes closer to its return. -/
theorem other_call (hw : Waits s.registry s.calls s.drop) (hh : Held s)
    (hzero : ∀ r', r' ≠ r → s.registry.inFlight r' = 0) (hwait : s.waitsFor w = some r)
    (hpc : s.callPc c = some pc) (hbusy : pc.done = false) (hother : w ≠ .call c) :
    ∃ l s', l.Unaided ∧ Step env s l s' ∧ SafeWait env s l ∧ s'.rank < s.rank := by
  -- two parties never wait for one registration
  have hunique : ∀ r', pc.pending = some r' → s.registry.inFlight r' = 0 := by
    intro r' hpending
    apply hzero r'
    rintro rfl
    exact hother (waiter_unique hh hwait hpc hpending)
  have hquiet : beginsWait s (.advance c : Label UUri Listener Sample) = none := by
    -- each place has a next step, since nothing is in flight for the registration
    cases pc with
    | deactivating r' => simp [beginsWait, hpc, hunique r' rfl]
    | _ => simp [beginsWait, hpc]
  have hsafe : SafeWait env s (.advance c : Label UUri Listener Sample) :=
    safeWait_of_quiet hquiet (by simp)
  have hl : (.advance c : Label UUri Listener Sample).Unaided := by simp [Label.Unaided]
  refine ⟨.advance c, ?_⟩
  cases pc with
  | registering source sink listener =>
    cases hfilter : env.carriage.verifyFilterCriteria source sink with
    | error status =>
      exact ⟨_, hl, .registerFail c hpc (.inl hfilter), hsafe,
        rank_lt_of_calls rfl rfl rfl (callRank_setPc hpc Nat.zero_lt_one)⟩
    | ok =>
      cases hreg : s.registry.register source sink listener with
      | error status =>
        exact ⟨_, hl, .registerFail c hpc (.inr ⟨hfilter, hreg⟩), hsafe,
          rank_lt_of_calls rfl rfl rfl (callRank_setPc hpc Nat.zero_lt_one)⟩
      | ok registry =>
        exact ⟨_, hl, .register c hpc hreg hfilter, hsafe,
          rank_lt_of_calls rfl rfl rfl (callRank_setPc hpc Nat.zero_lt_one)⟩
  | removing source sink listener =>
    cases hfilter : env.carriage.verifyFilterCriteria source sink with
    | error status =>
      exact ⟨_, hl, .removeFail c hpc (.inl hfilter), hsafe,
        rank_lt_of_calls rfl rfl rfl (callRank_setPc hpc (by simp [CallPc.rank]))⟩
    | ok =>
      cases hrem : s.registry.remove source sink listener with
      | error status =>
        exact ⟨_, hl, .removeFail c hpc (.inr ⟨hfilter, hrem⟩), hsafe,
          rank_lt_of_calls rfl rfl rfl (callRank_setPc hpc (by simp [CallPc.rank]))⟩
      | ok removed =>
        exact ⟨_, hl, .remove c hpc hrem hfilter, hsafe,
          rank_lt_of_calls rfl rfl rfl (callRank_setPc hpc (by simp [CallPc.rank]))⟩
  | deactivating r' =>
    have hdone : s.waitOn r' = .unregistered r' := if_pos (hunique r' rfl)
    refine ⟨_, hl, .deactivate c hpc, hsafe, ?_⟩
    rw [hdone]
    exact rank_lt_of_calls rfl rfl rfl (callRank_setPc hpc (by simp [CallPc.rank]))
  | asleep r' => exact absurd hpc (not_asleep hw (hunique r' rfl))
  | awake r' =>
    have hdone : s.waitOn r' = .unregistered r' := if_pos (hunique r' rfl)
    refine ⟨_, hl, .recheck c hpc, hsafe, ?_⟩
    rw [hdone]
    exact rank_lt_of_calls rfl rfl rfl (callRank_setPc hpc (by simp [CallPc.rank]))
  | unregistered r' => contradiction
  | returned result => contradiction

/-- A future that holds its guard is the one the dispatcher waits for. -/
theorem guard_of_owner {dispatcher : Dispatcher Message} {tasks : List (Task Message)}
    (hown : owner dispatcher tasks = some r) :
    (∃ job, dispatcher = .spawning job ∧ job.reg = r) ∨
    ∃ t task, dispatcher.task = some t ∧ tasks[t]? = some task ∧
      task.phase.holdsGuard = true ∧ task.job.reg = r := by
  cases hcur : dispatcher.task with
  | none =>
    cases dispatcher <;> simp_all [owner, Dispatcher.task]
  | some t =>
    rw [owner_of_task hcur] at hown
    obtain ⟨task, htask, hguard⟩ := Option.bind_eq_some_iff.mp hown
    refine .inr ⟨t, task, rfl, htask, ?_⟩
    unfold Task.guard at hguard
    split at hguard
    · exact ⟨‹_›, Option.some.inj hguard⟩
    · contradiction

/-- A live future that is on no worker leaves all of them to others. -/
theorem Serial.none_onWorker {dispatcher : Dispatcher Message} {tasks : List (Task Message)}
    {t : TaskId} {task : Task Message} (hs : Serial dispatcher tasks)
    (hcur : dispatcher.task = some t) (htask : tasks[t]? = some task)
    (hoff : task.phase.onWorker = false) : tasks.countP (·.phase.onWorker) = 0 := by
  apply List.countP_eq_zero.mpr
  intro task' hmem hon
  obtain ⟨t', htask'⟩ := List.mem_iff_getElem?.mp hmem
  have hlive' : task'.phase.done = false := by
    cases hphase : task'.phase <;> simp_all [Phase.onWorker, Phase.done]
  obtain rfl := Option.some.inj (hcur.symm.trans (hs.live t' task' htask' hlive'))
  obtain rfl := Option.some.inj (htask.symm.trans htask')
  rw [hoff] at hon
  contradiction

/-- The guard that is waited for comes closer to being dropped. -/
theorem guard_progress (hr : Reachable (liveRouter env) s) (hworkers : 0 < env.workers)
    (hwait : s.waitsFor w = some r) (hmay : s.MayWait env w)
    (hflying : s.registry.inFlight r ≠ 0) (hforeign : s.foreign = 0)
    (hothers : ∀ c pc, s.callPc c = some pc → pc.done = false → w = .call c) :
    ∃ l s', l.Unaided ∧ Step env s l s' ∧ SafeWait env s l ∧ s'.rank < s.rank := by
  have hserial := reachable_serial hr.of_restrict
  have hcounted := reachable_counted hr.of_restrict
  have hdropping := reachable_dropping hr.of_restrict
  have hshut := (reachable_withinWorkers hr).1
  obtain ⟨hsite, hkeeps, hdriven⟩ := hmay
  have hown := hcounted.owner_of_ne_zero hflying
  -- no party but the futures and the dispatcher has to move
  have hsafe : ∀ l : Label UUri Listener Sample, beginsWait s l = none → l ≠ .undrive →
      SafeWait env s l := fun l hquiet hl => safeWait_of_quiet hquiet hl
  rcases guard_of_owner hown with ⟨job, hpc, _⟩ | ⟨t, task, hcur, htask, hguard, hreg⟩
  · -- the dispatcher is about to spawn the future
    refine ⟨.dispatcher, _, by simp [Label.Unaided], .spawn hpc, hsafe _ rfl (by simp), ?_⟩
    refine rank_lt_of_guard rfl rfl ?_
    rw [hpc, guardRank_of_task rfl List.getElem?_concat_length]
    simp [hshut, guardRank, Phase.rank]
  · have hlive := Phase.not_done_of_holdsGuard hguard
    have hslot : s.slotted task = false :=
      not_slotted hdropping (List.mem_of_getElem? htask) hwait hkeeps hforeign hothers
    -- with the calls out of the way there is a worker for a future that needs one
    have hfree : task.phase.onWorker = false → s.busy < env.workers := by
      intro hoff
      have hidle := hserial.none_onWorker hcur htask hoff
      obtain ⟨hone, hzero⟩ := busy_le_one hdropping hwait hothers
      rw [busy_eq, hidle, hforeign]
      rcases hsite with hexternal | ⟨_, hmany⟩
      · have hnone := hzero hexternal
        omega
      · omega
    have hless : ∀ {phase : Phase}, phase.rank < task.phase.rank →
        guardRank s.dispatcher (withPhase s.tasks t phase) < guardRank s.dispatcher s.tasks :=
      guardRank_withPhase hcur htask
    -- a future that could be polled is polled, or dropped if it has been aborted
    have hnext : task.phase.pollable = true →
        ∃ l s', l.Unaided ∧ Step env s l s' ∧ SafeWait env s l ∧ s'.rank < s.rank := by
      intro hpoll
      have hoff := Phase.off_of_pollable hpoll
      have hrank := Phase.rank_of_pollable hpoll
      cases habort : task.aborted with
      | false =>
        exact ⟨.poll t, _, by simp [Label.Unaided],
          .poll t htask hpoll habort hshut hdriven (hfree hoff) hslot, hsafe _ rfl (by simp),
          rank_lt_of_guard rfl rfl (hless (by rw [hrank]; decide))⟩
      | true =>
        exact ⟨.cancel t, _, by simp [Label.Unaided],
          .cancel t htask hpoll (hfree hoff) (.inl ⟨habort, hdriven, hslot⟩),
          hsafe _ rfl (by simp), rank_lt_of_guard rfl rfl (hless (by rw [hrank]; decide))⟩
    -- one case for each phase in which the guard is alive
    cases hphase : task.phase with
    | spawned | suspended | woken =>
      apply hnext
      rw [hphase]
      rfl
    | polling =>
      -- the callback may return: the party that waits is not inside it
      have hcall : s.inCall t = false := by
        refine not_inCall hdropping hwait ?_ hothers
        rcases hsite with hexternal | ⟨hworker, _⟩
        · simp [hexternal]
        · simp [hworker]
      exact ⟨.finish t false, _, by simp [Label.Unaided], .finish t false htask hphase hcall,
        hsafe _ rfl (by simp), rank_lt_of_guard rfl rfl (hless (by simp [Phase.rank, hphase]))⟩
    | dropping outcome =>
      obtain ⟨job, aborted, phase⟩ := task
      obtain rfl : phase = .dropping outcome := hphase
      -- the last guard: whoever waits is woken up by the same step
      have hlast : (s.registry.release job.reg).inFlight job.reg = 0 := by
        have hone := hcounted.eq_one _ (hserial.owner_eq htask rfl)
        simp [hone]
      refine ⟨.release t, _, by simp [Label.Unaided], .releaseLast t htask hlast,
        hsafe _ rfl (by simp), ?_⟩
      refine rank_lt_of_guard rfl ?_ (hless (by simp [Phase.rank]))
      exact callRank_notifyIdle
    | released outcome | complete outcome =>
      rw [hphase] at hguard
      contradiction

end progress

/-! ### Quiescing wedges exactly when a wait begins on the wrong thread -/

section wedging
variable [DecidableEq UUri] [UriMatches UUri] [DecidableEq Listener]

/-- Whoever waits can still get to the end of the wait, without a thread that
    comes to drive the runtime. -/
def NonWedged (env : Env UUri Sample Message) (s : State UUri Listener Sample Message) : Prop :=
  ∀ w r, s.waitsFor w = some r →
    ∃ s', Leads (unaidedRouter env) s s' ∧ s'.waitsFor w ≠ some r

variable {env : Env UUri Sample Message} {s s' : State UUri Listener Sample Message}
  {w : Waiter} {r : RegId} {l : Label UUri Listener Sample}
  {tr : Trace (State UUri Listener Sample Message) (Label UUri Listener Sample)}

/-- As long as a party waits, some step leads closer to the end. -/
theorem wait_progress (hworkers : 0 < env.workers) (hr : Reachable (liveRouter env) s)
    (hsafe : SafeWaits env s) (hwait : s.waitsFor w = some r) :
    ∃ l s', l.Unaided ∧ Step env s l s' ∧ SafeWait env s l ∧
      (s'.waitsFor w ≠ some r ∨ s'.rank < s.rank) := by
  have hw := reachable_waits hr.of_restrict
  -- first the wait itself, then other calls, then unrelated work, then the guard
  by_cases hflying : s.registry.inFlight r = 0
  · obtain ⟨l, s', hl, hstep, hsafe, hend⟩ := end_of_wait hw hwait hflying
    exact ⟨l, s', hl, hstep, hsafe, .inl hend⟩
  · by_cases hothers : ∃ c pc, s.callPc c = some pc ∧ pc.done = false ∧ w ≠ .call c
    · obtain ⟨c, pc, hpc, hbusy, hother⟩ := hothers
      have hzero : ∀ r', r' ≠ r → s.registry.inFlight r' = 0 := by
        intro r' hne
        have hcounted := reachable_counted hr.of_restrict
        rw [hcounted r', hcounted.owner_of_ne_zero hflying, if_neg]
        intro heq
        exact hne (Option.some.inj heq).symm
      obtain ⟨l, s', hl, hstep, hsafe, hless⟩ :=
        other_call hw (reachable_held hr.of_restrict) hzero hwait hpc hbusy hother
      exact ⟨l, s', hl, hstep, hsafe, .inr hless⟩
    · by_cases hforeign : s.foreign = 0
      · have hnobody : ∀ c pc, s.callPc c = some pc → pc.done = false → w = .call c := by
          intro c pc hpc hbusy
          by_contra hother
          exact hothers ⟨c, pc, hpc, hbusy, hother⟩
        have hmay := hsafe w ⟨r, hwait, hflying⟩
        obtain ⟨l, s', hl, hstep, hsafe, hless⟩ :=
          guard_progress hr hworkers hwait hmay hflying hforeign hnobody
        exact ⟨l, s', hl, hstep, hsafe, .inr hless⟩
      · have hpos : 0 < s.polls.countP id := Nat.pos_of_ne_zero hforeign
        obtain ⟨busy, hmem, hbusy⟩ := List.countP_pos_iff.mp hpos
        obtain ⟨k, hpoll⟩ := List.mem_iff_getElem?.mp hmem
        obtain rfl : busy = true := hbusy
        refine ⟨.vacate k, _, by simp [Label.Unaided], .vacate k hpoll,
          safeWait_of_quiet rfl (by simp), .inr ?_⟩
        have hless := foreign_vacate hpoll
        show (s.calls.map fun call => call.pc.rank).sum + (s.polls.set k false).countP id +
            guardRank s.dispatcher s.tasks <
          (s.calls.map fun call => call.pc.rank).sum + s.foreign +
            guardRank s.dispatcher s.tasks
        omega

theorem nonWedged_of_safeWaits (hworkers : 0 < env.workers) (hr : Reachable (liveRouter env) s)
    (hsafe : SafeWaits env s) : NonWedged env s := by
  intro w r _
  refine leads_of_rank (fun s => Reachable (liveRouter env) s ∧ SafeWaits env s)
    State.rank ?_ ⟨hr, hsafe⟩
  intro s ⟨hr, hsafe⟩ hwait
  obtain ⟨l, s', hl, hstep, hsafely, hnext⟩ :=
    wait_progress hworkers hr hsafe (not_not.mp hwait)
  refine ⟨l, s', ⟨hl, hstep.next_eq⟩, ?_⟩
  rcases hnext with hend | hless
  · exact .inl hend
  · refine .inr ⟨⟨hr.step ⟨hl.1, hstep.next_eq⟩, ?_⟩, hless⟩
    exact safeWaits_step (reachable_waits hr.of_restrict) hsafe hsafely hstep

/-- A wedged party never gets to the end of its wait. -/
theorem Wedged.not_nonWedged (h : Wedged env s w r) (hr : Reachable (liveRouter env) s) :
    ¬ NonWedged env s := by
  intro hnon
  obtain ⟨s', ⟨tr, hrun⟩, hend⟩ := hnon w r h.waits
  exact hend (h.run hr hrun).waits

/-- Along a run of safe waits, every party that waits may do so. -/
theorem run_safeWaits (h : InitRun (liveRouter env) tr s)
    (hsafe : ∀ e ∈ tr, SafeWait env e.1 e.2) : SafeWaits env s := by
  refine run_invariant
    (P := fun tr s => (∀ e ∈ tr, SafeWait env e.1 e.2) → SafeWaits env s) ?_ ?_ h hsafe
  · rintro s hs _ w ⟨r, hwait, _⟩
    rw [hs] at hwait
    cases w <;> contradiction
  · intro tr s l s' hrun ih hstep hsafe
    have hlast : SafeWait env s l := hsafe (s, l) (List.mem_append_right _ List.mem_cons_self)
    have hbefore := ih fun e he => hsafe e (List.mem_append_left _ he)
    exact safeWaits_step (reachable_waits hrun.reachable.of_restrict) hbefore hlast
      (Step.of_next hstep.2)

/-- A run after which a party waits where it may not ends in a wedge. -/
theorem wedges_of_exec (env : Env Topic (String × Nat) Topic) (ls : List TopicLabel)
    (w : Waiter) (site : Site) (hlive : ∀ l ∈ ls, l ≠ .shutdownRuntime)
    (h : (exec (State.next env) State.start ls).any (fun r => decide
      (r.2.Blocked w ∧ ¬ r.2.MayWait env w ∧ r.2.siteOf w = some site)) = true) :
    ∃ s : TopicState, Reachable (liveRouter env) s ∧ s.siteOf w = some site ∧
      ¬ NonWedged env s := by
  obtain ⟨⟨tr, s⟩, hexec, hends⟩ := (Option.any_eq_true _ _).mp h
  obtain ⟨⟨r, hwait, hflying⟩, hstuck, hsite⟩ := of_decide_eq_true hends
  have hrun : InitRun (liveRouter env) tr s := liveRun_of_exec hexec hlive
  have hwedged : Wedged env s w r := ⟨hwait, hflying, hstuck⟩
  exact ⟨s, hrun.reachable, hsite, hwedged.not_nonWedged hrun.reachable⟩

/-- A listener is registered and a future of it is spawned. -/
def spawnedRun : List TopicLabel :=
  [.enter .external (.register ⟨7⟩ none 0), .advance 0,
   .poller, .take (.ok [some ("peer", 7)]), .poller, .poller,
   .dispatcher, .dispatcher, .dispatcher]

/-- A task of the runtime unregisters the listener before the future has been
    polled. -/
def workerRun : List TopicLabel :=
  spawnedRun ++ [.enter .worker (.unregister ⟨7⟩ none 0), .advance 1, .advance 1]

/-- The callback unregisters its own listener. -/
def callbackRun : List TopicLabel :=
  spawnedRun ++
    [.poll 0, .enter (.callback 0) (.unregister ⟨7⟩ none 0), .advance 1, .advance 1]

/-- A task of the runtime wakes up the callback and then unregisters the
    listener. -/
def slotRun : List TopicLabel :=
  spawnedRun ++
    [.poll 0, .suspend 0, .enter .worker (.unregister ⟨7⟩ none 0), .wakeTask 0 (.call 1),
     .advance 1, .advance 1]

/-- Nobody drives the runtime when the listener is unregistered. -/
def undrivenRun : List TopicLabel :=
  spawnedRun ++
    [.undrive, .enter .external (.unregister ⟨7⟩ none 0), .advance 1, .advance 1]

end wedging

end UpTransportDds
