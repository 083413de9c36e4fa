import UpTransportDds.Router.Flow

/-! # Shutdown is quiescent

  Two things make `Drop` leave nothing behind. The steps of `Drop` come in a
  fixed order, and what each of them waited for stays so. And a registration
  that left the table is not forgotten: it is in the hands of exactly one
  party, which returns only after the registration has quiesced.
-/

namespace UpTransportDds

open LTS

variable {UUri Listener Sample Message : Type}

/-! ### Who answers for a registration -/

/-- The registrations that are in the table, or that some party has taken out
    of it and not yet waited for. -/
def State.held (s : State UUri Listener Sample Message) : List RegId :=
  s.registry.entries ++ (s.calls.filterMap (·.pc.pending) ++ s.drop.pending)

/-- The registration a step creates. -/
def created (s s' : State UUri Listener Sample Message) : List RegId :=
  List.range' s.registry.heap.length (s'.registry.heap.length - s.registry.heap.length)

/-- Every registration is held by one party or has quiesced. -/
structure Held (s : State UUri Listener Sample Message) : Prop where
  lt : ∀ r ∈ s.held, r < s.registry.heap.length
  nodup : s.held.Nodup
  cover : ∀ r < s.registry.heap.length, r ∈ s.held ∨ s.registry.Quiesced r

section lists
variable {α β : Type} {xs : List α} {i : Nat} {x : α} {f : α → α} {g : α → Option β}

/-- Changing one element changes what it contributes. -/
theorem filterMap_modify_perm (h : xs[i]? = some x) :
    ((g x).toList ++ (xs.modify i f).filterMap g).Perm ((g (f x)).toList ++ xs.filterMap g) := by
  induction xs generalizing i with
  | nil => simp at h
  | cons a xs ih =>
    cases i with
    | zero =>
      obtain rfl : a = x := by simpa using h
      rw [List.modify_zero_cons, List.filterMap_cons, List.filterMap_cons]
      cases g a <;> cases g (f a) <;> simp [List.Perm.swap]
    | succ i =>
      have htail := ih (by simpa using h)
      rw [List.modify_succ_cons, List.filterMap_cons, List.filterMap_cons]
      cases g a with
      | none => exact htail
      | some b =>
        have hswap := (htail.cons b)
        refine List.perm_middle.trans (hswap.trans ?_)
        exact List.perm_middle.symm

/-- What `eraseP` takes out is what `find?` finds. -/
theorem perm_of_find?_eraseP {p : α → Bool} (h : xs.find? p = some x) :
    xs.Perm (x :: xs.eraseP p) := by
  induction xs with
  | nil => simp at h
  | cons a xs ih =>
    by_cases hp : p a = true
    · rw [List.find?_cons_of_pos hp] at h
      obtain rfl : a = x := Option.some.inj h
      rw [List.eraseP_cons_of_pos hp]
    · rw [List.find?_cons_of_neg hp] at h
      rw [List.eraseP_cons_of_neg hp]
      exact ((ih h).cons a).trans (List.Perm.swap _ _ _)

end lists

/-! ### Passing a registration on -/

section passing
variable {s s' : State UUri Listener Sample Message} {c : CallId} {r : RegId}
  {pc pc' : CallPc UUri Listener} {regs : List RegId}

/-- A call that moves on gives up what it held and takes what it now holds. -/
theorem held_setPc (pc' : CallPc UUri Listener) (hpc : s.callPc c = some pc) :
    (pc.pending.toList ++ (s.setPc c pc').held).Perm (pc'.pending.toList ++ s.held) := by
  obtain ⟨call, _, hcall, rfl⟩ := mem_of_callPc hpc
  have hperm := filterMap_modify_perm
    (f := fun call : Call UUri Listener => { call with pc := pc' })
    (g := fun call => call.pc.pending) hcall
  rw [List.perm_iff_count] at hperm ⊢
  intro r
  have hr := hperm r
  simp only [State.held, State.setPc_registry, State.setPc_calls, State.setPc_drop,
    List.count_append] at hr ⊢
  omega

/-- A call that holds nothing before and after. -/
theorem held_setPc_none (hpc : s.callPc c = some pc) (hold : pc.pending = none)
    (hnew : pc'.pending = none) : s.held.Perm (s.setPc c pc').held := by
  have hperm := held_setPc pc' hpc
  rw [hold, hnew] at hperm
  exact hperm.symm

/-- A call that holds the same registration before and after. -/
theorem held_setPc_some (hpc : s.callPc c = some pc) (hold : pc.pending = some r)
    (hnew : pc'.pending = some r) : s.held.Perm (s.setPc c pc').held := by
  have hperm := held_setPc pc' hpc
  rw [hold, hnew] at hperm
  exact ((List.perm_append_left_iff _).mp hperm).symm

/-- A call that looks at the counter goes on holding the registration, or
    gives it up quiesced. -/
theorem held_waitOn (hpc : s.callPc c = some pc) (hold : pc.pending = some r)
    (hin : s.registry.Inactive r) :
    ∃ retired, s.held.Perm (retired ++ (s.setPc c (s.waitOn r)).held) ∧
      ∀ r ∈ retired, s.registry.Quiesced r := by
  by_cases hzero : s.registry.inFlight r = 0
  · have hwait : s.waitOn r = .unregistered r := if_pos hzero
    have hperm := held_setPc (s.waitOn r) hpc
    rw [hwait, hold] at hperm
    rw [hwait]
    refine ⟨[r], hperm.symm, ?_⟩
    intro r' hr'
    rw [List.mem_singleton.mp hr']
    exact ⟨hin, hzero⟩
  · have hwait : s.waitOn r = .asleep r := if_neg hzero
    refine ⟨[], held_setPc_some hpc hold ?_, fun r hr => absurd hr List.not_mem_nil⟩
    rw [hwait]
    rfl

/-- The same for `Drop`. -/
theorem held_drainOn (r : RegId) (regs : List RegId) (hold : s.drop.pending = r :: regs)
    (hin : s.registry.Inactive r) :
    ∃ retired, s.held.Perm (retired ++ { s with drop := s.drainOn r regs }.held) ∧
      ∀ r ∈ retired, s.registry.Quiesced r := by
  by_cases hzero : s.registry.inFlight r = 0
  · have hwait : s.drainOn r regs = .draining regs := if_pos hzero
    refine ⟨[r], ?_, ?_⟩
    · show (_ ++ (_ ++ s.drop.pending)).Perm ([r] ++ (_ ++ (_ ++ (s.drainOn r regs).pending)))
      rw [hold, hwait, List.perm_iff_count]
      intro r'
      simp only [DropPc.pending, List.count_append, List.count_cons, List.count_nil]
      omega
    · intro r' hr'
      rw [List.mem_singleton.mp hr']
      exact ⟨hin, hzero⟩
  · have hwait : s.drainOn r regs = .asleep r regs := if_neg hzero
    refine ⟨[], ?_, fun r hr => absurd hr List.not_mem_nil⟩
    show (_ ++ (_ ++ s.drop.pending)).Perm (_ ++ (_ ++ (s.drainOn r regs).pending))
    rw [hold, hwait]
    exact .refl _

theorem pending_notify : (pc.notify r).pending = pc.pending := by
  cases pc with
  | asleep r' =>
    rw [CallPc.notify]
    split <;> rfl
  | _ => rfl

theorem DropPc.pending_notify {drop : DropPc} : (drop.notify r).pending = drop.pending := by
  cases drop with
  | asleep r' regs =>
    rw [DropPc.notify]
    split <;> rfl
  | _ => rfl

theorem held_notifyIdle : (s.notifyIdle r).held = s.held := by
  simp only [State.held, State.notifyIdle_registry, State.notifyIdle_calls,
    State.notifyIdle_drop, DropPc.pending_notify, List.filterMap_map]
  congr 2
  apply List.filterMap_congr
  intro call _
  exact pending_notify

end passing

/-! ### Every registration is held or has quiesced -/

section holding
variable [DecidableEq UUri] [UriMatches UUri] [DecidableEq Listener]
variable {env : Env UUri Sample Message} {s s' : State UUri Listener Sample Message}
  {l : Label UUri Listener Sample}

/-- A step passes registrations on; those it lets go of have quiesced. -/
theorem held_step (hw : Waits s.registry s.calls s.drop) (h : Step env s l s') :
    ∃ retired, (s.held ++ created s s').Perm (retired ++ s'.held) ∧
      ∀ r ∈ retired, s'.registry.Quiesced r := by
  -- all but one of the rules create nothing
  have hpass : ∀ retired : List RegId, s'.registry.heap.length = s.registry.heap.length →
      s.held.Perm (retired ++ s'.held) → (s.held ++ created s s').Perm (retired ++ s'.held) := by
    intro retired hlen hperm
    rw [created, hlen, Nat.sub_self, List.range'_zero, List.append_nil]
    exact hperm
  have hnone : ∀ r ∈ ([] : List RegId), s'.registry.Quiesced r :=
    fun r hr => absurd hr List.not_mem_nil
  cases h with
  | enter site request _ _ =>
    refine ⟨[], hpass [] rfl ?_, hnone⟩
    have hstart : request.start.pending = none := by cases request <;> rfl
    simp [State.held, hstart]
  | registerFail c hpc _ => exact ⟨[], hpass [] rfl (held_setPc_none hpc rfl rfl), hnone⟩
  | removeFail c hpc _ => exact ⟨[], hpass [] rfl (held_setPc_none hpc rfl rfl), hnone⟩
  | @register c _ _ _ registry hpc hok =>
    obtain ⟨_, hheap, hentries⟩ := Registry.register_ok hok
    refine ⟨[], ?_, hnone⟩
    -- the new address enters at the end of the table, the call itself holds nothing
    have hmove : ({ s with registry := registry }.held).Perm
        ({ s with registry := registry }.setPc c (.returned (.ok ()))).held :=
      held_setPc_none hpc rfl rfl
    have hlen : registry.heap.length - s.registry.heap.length = 1 := by
      rw [hheap, List.length_append, List.length_singleton]
      omega
    rw [List.nil_append]
    refine List.Perm.trans ?_ hmove
    show (s.held ++ List.range' _ (registry.heap.length - _)).Perm (registry.entries ++ _)
    rw [hlen, hentries, List.perm_iff_count]
    intro r
    simp only [State.held, List.count_append, List.range'_one]
    omega
  | @remove c source sink listener r registry hpc hok =>
    obtain ⟨_, _, hheap, hentries⟩ := Registry.remove_ok hok
    refine ⟨[], hpass [] (by rw [State.setPc_registry, hheap]) ?_, hnone⟩
    -- the address moves from the table to the call
    have htable := perm_of_find?_eraseP (Registry.find?_of_remove hok)
    rw [← hentries] at htable
    have hmove : (({ s with registry := registry }.setPc c (.deactivating r)).held).Perm
        (r :: { s with registry := registry }.held) :=
      held_setPc (s := { s with registry := registry }) _ hpc
    refine List.Perm.trans ?_ hmove.symm
    exact htable.append_right _
  | @deactivate c r hpc =>
    -- the call lets go of `r` at once if nothing is in flight, else it goes on holding it
    have hsame : s.waitOn r = { s with registry := s.registry.deactivate r }.waitOn r := by
      simp [State.waitOn]
    obtain ⟨retired, hperm, hq⟩ := held_waitOn (s := { s with registry := s.registry.deactivate r })
      hpc rfl (inactive_deactivate (hw.callOk hpc))
    rw [← hsame] at hperm
    exact ⟨retired, hpass retired (by simp) hperm, hq⟩
  | recheck c hpc =>
    obtain ⟨retired, hperm, hq⟩ := held_waitOn hpc rfl (hw.callOk hpc)
    exact ⟨retired, hpass retired rfl hperm, hq⟩
  | wake c hpc => exact ⟨[], hpass [] rfl (held_setPc_some hpc rfl rfl), hnone⟩
  | beginActive hpc hbegin =>
    refine ⟨[], hpass [] (Registry.heap_length_begin hbegin) ?_, hnone⟩
    simp only [State.held, Registry.entries_begin hbegin, List.nil_append]
    exact .refl _
  | release t _ _ => exact ⟨[], hpass [] (by simp) (.refl _), hnone⟩
  | @releaseLast t job _ _ _ _ =>
    refine ⟨[], hpass [] (by simp) ?_, hnone⟩
    rw [held_notifyIdle]
    exact .refl _
  | enterDrop site hlive _ _ =>
    refine ⟨[], hpass [] rfl ?_, hnone⟩
    simp only [State.held, hlive]
    exact .refl _
  | takeEntries hpc =>
    refine ⟨[], hpass [] rfl ?_, hnone⟩
    -- the whole table moves to `Drop`
    simp only [State.held, hpc, Registry.takeEntries, DropPc.pending, List.nil_append,
      List.append_nil]
    exact List.perm_append_comm
  | @drain r regs hpc =>
    have hdrop := hw.drop
    rw [hpc] at hdrop
    have hsame : s.drainOn r regs =
        { s with registry := s.registry.deactivate r }.drainOn r regs := by
      simp [State.drainOn]
    obtain ⟨retired, hperm, hq⟩ :=
      held_drainOn (s := { s with registry := s.registry.deactivate r }) r regs
        (by rw [hpc]; rfl) (inactive_deactivate (hdrop r List.mem_cons_self))
    rw [← hsame] at hperm
    exact ⟨retired, hpass retired (by simp) hperm, hq⟩
  | @recheckDrop r regs hpc =>
    have hdrop := hw.drop
    rw [hpc] at hdrop
    obtain ⟨retired, hperm, hq⟩ :=
      held_drainOn r regs (by rw [hpc]; rfl) hdrop.1
    exact ⟨retired, hpass retired rfl hperm, hq⟩
  | _ =>
    refine ⟨[], hpass [] rfl ?_, hnone⟩
    simp [State.held, DropPc.pending, *]

theorem held_preserved (hi : Held s) (hw : Waits s.registry s.calls s.drop)
    (h : Step env s l s') : Held s' := by
  have hev := registry_evolves h
  obtain ⟨retired, hperm, hq⟩ := held_step hw h
  have hlt : ∀ r ∈ s.held ++ created s s', r < s'.registry.heap.length := by
    intro r hr
    have hle := hev.length_le
    rcases List.mem_append.mp hr with hold | hnew
    · exact Nat.lt_of_lt_of_le (hi.lt r hold) hle
    · exact Nat.lt_of_lt_of_eq (List.mem_range'_1.mp hnew).2 (Nat.add_sub_of_le hle)
  refine ⟨?_, ?_, ?_⟩
  · intro r hr
    exact hlt r (hperm.mem_iff.mpr (List.mem_append_right _ hr))
  · have hboth : (s.held ++ created s s').Nodup := by
      refine List.nodup_append.mpr ⟨hi.nodup, List.nodup_range', ?_⟩
      intro r hold r' hnew heq
      -- new addresses lie above all that were held before
      have hbelow := hi.lt r hold
      have habove := (List.mem_range'_1.mp hnew).1
      rw [heq] at hbelow
      exact Nat.not_lt.mpr habove hbelow
    exact (List.nodup_append.mp (hperm.nodup_iff.mp hboth)).2.1
  · intro r hr
    by_cases hnew : r < s.registry.heap.length
    -- an old registration was held or quiet, a new one is in the table
    · rcases hi.cover r hnew with hheld | hquiet
      · have hmem := hperm.mem_iff.mp (List.mem_append_left _ hheld)
        rcases List.mem_append.mp hmem with hgone | hkept
        · exact .inr (hq r hgone)
        · exact .inl hkept
      · exact .inr (hev.quiesced hquiet)
    · have hcreated : r ∈ created s s' := List.mem_range'_1.mpr
        ⟨Nat.not_lt.mp hnew, Nat.lt_of_lt_of_eq hr (Nat.add_sub_of_le hev.length_le).symm⟩
      have hmem := hperm.mem_iff.mp (List.mem_append_right _ hcreated)
      rcases List.mem_append.mp hmem with hgone | hkept
      · exact .inr (hq r hgone)
      · exact .inl hkept

theorem reachable_held (h : Reachable (router env) s) : Held s := by
  refine invariant_reachable (P := Held) ?_ ?_ h
  · intro s hs
    rw [hs]
    exact ⟨fun r hr => absurd hr List.not_mem_nil, List.nodup_nil,
      fun r hr => absurd hr (Nat.not_lt_zero r)⟩
  · intro s l s' hr hi hstep
    exact held_preserved hi (reachable_waits hr) (Step.of_next hstep)

end holding

/-! ### The steps of `Drop` come in order -/

/-- How far `Drop` has come. -/
def DropPc.rank : DropPc → Nat
  | .live => 0
  | .stopping => 1
  | .joiningPoller => 2
  | .takingEntries => 3
  | .draining _ => 4
  | .asleep _ _ => 4
  | .awake _ _ => 4
  | .joiningDispatcher => 5
  | .deletingContained => 6
  | .deletingParticipant => 7
  | .returned => 8

/-- What the steps that `Drop` has behind it have established. -/
structure Dropping (s : State UUri Listener Sample Message) : Prop where
  /-- Dropping needs the last reference, so no call is in progress. -/
  calls : 1 ≤ s.drop.rank → ∀ call ∈ s.calls, call.pc.done = true
  stopped : 2 ≤ s.drop.rank → s.stopped = true
  poller : 3 ≤ s.drop.rank → s.poller.ended = true
  table : 4 ≤ s.drop.rank → s.registry.entries = []
  dispatcher : 6 ≤ s.drop.rank → s.dispatcher.ended = true

section dropping
variable {s : State UUri Listener Sample Message} {c : CallId} {pc : CallPc UUri Listener}

/-- While a call is in progress, the transport is alive. -/
theorem Dropping.live_of_call (h : Dropping s) (hpc : s.callPc c = some pc)
    (hbusy : pc.done = false) : s.drop.rank = 0 := by
  by_contra hne
  obtain ⟨call, hmem, _, rfl⟩ := mem_of_callPc hpc
  have hdone := h.calls (Nat.one_le_iff_ne_zero.mpr hne) call hmem
  rw [hbusy] at hdone
  contradiction

/-- While `Drop` has not been entered, there is nothing to know. -/
theorem Dropping.of_live (h : s.drop.rank = 0) : Dropping s := by
  constructor <;> (intro hle; omega)

/-- A step in which `Drop` gets no further. -/
theorem Dropping.keep {s' : State UUri Listener Sample Message} (h : Dropping s)
    (hdrop : s'.drop.rank = s.drop.rank) (hcalls : s'.calls = s.calls)
    (hstopped : s'.stopped = s.stopped)
    (hpoller : s.poller.ended = true → s'.poller.ended = true)
    (htable : s'.registry.entries = s.registry.entries)
    (hdispatcher : s.dispatcher.ended = true → s'.dispatcher.ended = true) : Dropping s' where
  calls := by
    rw [hdrop, hcalls]
    exact h.calls
  stopped := by
    rw [hdrop, hstopped]
    exact h.stopped
  poller := fun hrank => hpoller (h.poller (hdrop ▸ hrank))
  table := by
    rw [hdrop, htable]
    exact h.table
  dispatcher := fun hrank => hdispatcher (h.dispatcher (hdrop ▸ hrank))

@[simp] theorem DropPc.rank_notify {drop : DropPc} {r : RegId} :
    (drop.notify r).rank = drop.rank := by
  cases drop with
  | asleep r' regs =>
    rw [DropPc.notify]
    split <;> rfl
  | _ => rfl

@[simp] theorem CallPc.done_notify {r : RegId} : (pc.notify r).done = pc.done := by
  cases pc with
  | asleep r' =>
    rw [CallPc.notify]
    split <;> rfl
  | _ => rfl

theorem rank_drainOn {r : RegId} {regs : List RegId} : (s.drainOn r regs).rank = 4 := by
  unfold State.drainOn
  split <;> rfl

/-- When `Drop` has returned, nobody holds a registration. -/
theorem held_of_returned (hd : Dropping s) (hret : s.drop = .returned) : s.held = [] := by
  have htable : s.registry.entries = [] := hd.table (by rw [hret]; decide)
  have hcalls : s.calls.filterMap (fun call => call.pc.pending) = [] := by
    rw [List.filterMap_eq_nil_iff]
    intro call hcall
    have hdone := hd.calls (by rw [hret]; decide) call hcall
    cases hpc : call.pc <;> simp_all [CallPc.done, CallPc.pending]
  rw [State.held, htable, hcalls, hret]
  rfl

variable [DecidableEq UUri] [UriMatches UUri] [DecidableEq Listener]
variable {env : Env UUri Sample Message} {s' : State UUri Listener Sample Message}
  {l : Label UUri Listener Sample}

theorem dropping_step (hi : Dropping s) (h : Step env s l s') : Dropping s' := by
  have hcall : ∀ {c pc}, s.callPc c = some pc → pc.done = false → s'.drop = s.drop →
      Dropping s' := by
    intro c pc hpc hbusy hsame
    -- no call is in progress once `Drop` has been entered
    refine .of_live ?_
    rw [hsame]
    exact hi.live_of_call hpc hbusy
  cases h with
  | enter site request hlive _ => exact .of_live (by rw [hlive]; rfl)
  | registerFail c hpc _ => exact hcall hpc rfl rfl
  | register c hpc _ => exact hcall hpc rfl rfl
  | removeFail c hpc _ => exact hcall hpc rfl rfl
  | remove c hpc _ => exact hcall hpc rfl rfl
  | deactivate c hpc => exact hcall hpc rfl rfl
  | recheck c hpc => exact hcall hpc rfl rfl
  | wake c hpc => exact hcall hpc rfl rfl
  | pollerPanic _ => exact hi.keep rfl rfl rfl (fun _ => rfl) rfl id
  | beginActive hpc hbegin =>
    exact hi.keep rfl rfl rfl id (Registry.entries_begin hbegin) (by simp [hpc, Dispatcher.ended])
  | releaseLast t _ _ =>
    -- a notification moves `Drop` only within its wait
    refine ⟨fun hrank call hcall => ?_, ?_, ?_, ?_, ?_⟩
    · obtain ⟨old, hold, rfl⟩ := List.mem_map.mp hcall
      rw [State.notifyIdle_drop, DropPc.rank_notify] at hrank
      show (old.pc.notify _).done = true
      rw [CallPc.done_notify]
      exact hi.calls hrank old hold
    all_goals rw [State.notifyIdle_drop, DropPc.rank_notify]
    · exact hi.stopped
    · exact hi.poller
    · exact hi.table
    · exact hi.dispatcher
  | enterDrop site _ hcalls _ =>
    refine ⟨fun _ call hcall => ?_, ?_, ?_, ?_, ?_⟩
    -- the last owner is dropped: no borrow, hence no call, is left
    · exact List.all_eq_true.mp hcalls call hcall
    all_goals
      intro hrank
      simp [DropPc.rank] at hrank
  | stop hpc =>
    refine ⟨fun _ => hi.calls (by rw [hpc]; decide), fun _ => rfl, ?_, ?_, ?_⟩
    all_goals
      intro hrank
      simp [DropPc.rank] at hrank
  | joinPoller hpc hended =>
    refine ⟨fun _ => hi.calls (by rw [hpc]; decide), fun _ => hi.stopped (by rw [hpc]; decide),
      fun _ => by rw [hended]; rfl, ?_, ?_⟩
    all_goals
      intro hrank
      simp [DropPc.rank] at hrank
  | joinPanicked hpc hended =>
    refine ⟨fun _ => hi.calls (by rw [hpc]; decide), fun _ => hi.stopped (by rw [hpc]; decide),
      fun _ => by rw [hended]; rfl, ?_, ?_⟩
    all_goals
      intro hrank
      simp [DropPc.rank] at hrank
  | takeEntries hpc =>
    refine ⟨fun _ => hi.calls (by rw [hpc]; decide), fun _ => hi.stopped (by rw [hpc]; decide),
      fun _ => hi.poller (by rw [hpc]; decide), fun _ => rfl, ?_⟩
    intro hrank
    simp [DropPc.rank] at hrank
  | drain hpc => exact hi.keep (by rw [hpc]; exact rank_drainOn) rfl rfl id rfl id
  | recheckDrop hpc => exact hi.keep (by rw [hpc]; exact rank_drainOn) rfl rfl id rfl id
  | wakeDrop hpc => exact hi.keep (by rw [hpc]; rfl) rfl rfl id rfl id
  | drained hpc =>
    refine ⟨fun _ => hi.calls (by rw [hpc]; decide), fun _ => hi.stopped (by rw [hpc]; decide),
      fun _ => hi.poller (by rw [hpc]; decide), fun _ => hi.table (by rw [hpc]; decide), ?_⟩
    intro hrank
    simp [DropPc.rank] at hrank
  | joinDispatcher hpc hended =>
    exact ⟨fun _ => hi.calls (by rw [hpc]; decide), fun _ => hi.stopped (by rw [hpc]; decide),
      fun _ => hi.poller (by rw [hpc]; decide), fun _ => hi.table (by rw [hpc]; decide),
      fun _ => hended⟩
  | deleteContained error hpc =>
    exact ⟨fun _ => hi.calls (by rw [hpc]; decide), fun _ => hi.stopped (by rw [hpc]; decide),
      fun _ => hi.poller (by rw [hpc]; decide), fun _ => hi.table (by rw [hpc]; decide),
      fun _ => hi.dispatcher (by rw [hpc]; decide)⟩
  | deleteParticipant error hpc =>
    exact ⟨fun _ => hi.calls (by rw [hpc]; decide), fun _ => hi.stopped (by rw [hpc]; decide),
      fun _ => hi.poller (by rw [hpc]; decide), fun _ => hi.table (by rw [hpc]; decide),
      fun _ => hi.dispatcher (by rw [hpc]; decide)⟩
  | _ =>
    exact hi.keep rfl rfl rfl (by simp [Poller.ended, *]) rfl (by simp [Dispatcher.ended, *])

theorem reachable_dropping (h : Reachable (router env) s) : Dropping s := by
  refine invariant (P := Dropping) ?_ ?_ h
  · intro s hs
    exact .of_live (by rw [hs]; rfl)
  · intro s l s' hi hstep
    exact dropping_step hi (Step.of_next hstep)

end dropping

/-! ### Quiescence -/

/-- Nothing of the transport is at work any more. -/
structure Quiescent (s : State UUri Listener Sample Message) : Prop where
  poller : s.poller.ended = true
  dispatcher : s.dispatcher.ended = true
  queue : s.queue = []
  registrations : ∀ r < s.registry.heap.length,
    s.registry.active r = false ∧ s.registry.inFlight r = 0
  callbacks : ∀ r, ¬ s.CallbackRunning r

section quiescence
variable [DecidableEq UUri] [UriMatches UUri] [DecidableEq Listener]
variable {env : Env UUri Sample Message} {s s' : State UUri Listener Sample Message}
  {l : Label UUri Listener Sample}
  {tr : Trace (State UUri Listener Sample Message) (Label UUri Listener Sample)}

/-- A transport whose `Drop` has returned is quiescent. -/
theorem quiescent_of_returned (h : Reachable (router env) s) (hret : s.drop = .returned) :
    Quiescent s := by
  have hd := reachable_dropping h
  have hended : s.dispatcher.ended = true := hd.dispatcher (by rw [hret]; decide)
  obtain ⟨hpoller, hqueue⟩ := reachable_disconnects h hended
  have hquiet : ∀ r < s.registry.heap.length, s.registry.Quiesced r := by
    intro r hr
    rcases (reachable_held h).cover r hr with hheld | hquiet
    · rw [held_of_returned hd hret] at hheld
      exact absurd hheld List.not_mem_nil
    · exact hquiet
  refine ⟨hpoller, hended, hqueue, fun r hr => ⟨(hquiet r hr).1.2, (hquiet r hr).2⟩, ?_⟩
  rintro r ⟨task, hmem, -, hrun⟩
  obtain ⟨t, htask⟩ := List.mem_iff_getElem?.mp hmem
  have hnone : s.dispatcher.task = none := by
    cases hpc : s.dispatcher <;> simp_all [Dispatcher.ended, Dispatcher.task]
  have hdone := (reachable_serial h).all_done hnone htask
  rw [Phase.not_done_of_holdsGuard (Phase.holdsGuard_of_running hrun)] at hdone
  contradiction

/-- `Drop` returns for good. -/
theorem returned_step (hret : s.drop = .returned) (h : Step env s l s') :
    s'.drop = .returned := by
  cases h with
  | releaseLast t _ _ => simp [hret, DropPc.notify]
  | enterDrop site hlive _ _ =>
    rw [hret] at hlive
    contradiction
  | _ => simp_all

theorem run_returned (hret : s.drop = .returned) (hrun : Run (router env) s tr s') :
    s'.drop = .returned := by
  refine hrun.stable (P := fun s => s.drop = .returned) ?_ hret
  intro s l s' hret hstep
  exact returned_step hret (Step.of_next hstep)

/-- A quiescent transport starts no callback. -/
theorem started_nil_of_returned (h : Reachable (router env) s) (hret : s.drop = .returned) :
    started s l = [] := by
  apply List.eq_nil_iff_forall_not_mem.mpr
  intro job hjob
  obtain ⟨t, task, -, htask, rfl, hphase⟩ := mem_started hjob
  have hguard : task.phase.holdsGuard = true := by rw [hphase]; rfl
  have hlt : task.job.reg < s.registry.heap.length := by
    have hone := (reachable_counted h).eq_one _ ((reachable_serial h).owner_eq htask hguard)
    exact Registry.lt_of_inFlight (by rw [hone]; decide)
  have hquiet := (quiescent_of_returned h hret).registrations _ hlt
  exact not_quiesced_of_guard (reachable_serial h) (reachable_counted h) htask hguard
    ⟨⟨hlt, hquiet.1⟩, hquiet.2⟩

/-- **Shutdown is quiescent.** When `Drop` has returned, both threads have
    ended, the channel is empty, every registration is inactive with nothing
    in flight, and no callback is running or ever starts again. -/
theorem shutdown_quiescent (h : Reachable (router env) s) (hret : s.drop = .returned) :
    Quiescent s ∧
    ∀ tr s', Run (router env) s tr s' → Quiescent s' ∧ observe started tr = [] := by
  refine ⟨quiescent_of_returned h hret, fun tr s' hrun => ⟨?_, ?_⟩⟩
  · exact quiescent_of_returned (h.run hrun) (run_returned hret hrun)
  · apply List.flatMap_eq_nil_iff.mpr
    rintro ⟨t, l⟩ hmem
    obtain ⟨pre, post, rfl⟩ := List.append_of_mem hmem
    obtain ⟨_, hpre, _, _⟩ := hrun.split
    exact started_nil_of_returned (h.run hpre) (run_returned hret hpre)

/-- The transport is dropped while a callback is suspended for good and a
    second message waits in the channel; the poller panics on the way. -/
def shutdownRun : List TopicLabel :=
  [.enter .external (.register ⟨7⟩ none 0), .advance 0,
   .poller, .take (.ok [some ("peer", 7), some ("peer", 7)]),
   .poller, .poller, .poller, .poller, .poller,
   .dispatcher, .dispatcher, .dispatcher, .poll 0, .suspend 0,
   .enterDrop .external, .drop, .pollerPanic, .drop, .drop, .drop,
   .dispatcher, .dispatcher, .dispatcher, .cancel 0, .release 0, .complete 0, .drop, .drop,
   .dispatcher, .dispatcher, .dispatcher, .dispatcher, .dispatcher, .dispatcher, .dispatcher,
   .drop, .deleted none, .deleted none]

theorem shutdown_quiescent_run : ∃ s, Reachable topicRouter s ∧ s.tasks ≠ [] ∧ Quiescent s := by
  obtain ⟨tr, s, hexec, htasks, hret⟩ : ∃ tr s,
      exec (State.next (topicEnv 4 2)) State.start shutdownRun = some (tr, s) ∧
        s.tasks.length = 1 ∧ s.drop = .returned := ⟨_, _, rfl, rfl, rfl⟩
  have hreach := (initRun_of_exec hexec).reachable
  refine ⟨s, hreach, ?_, (shutdown_quiescent hreach hret).1⟩
  intro hnil
  rw [hnil] at htasks
  contradiction

end quiescence

end UpTransportDds
