import UpTransportDds.Framework.Liveness
import UpTransportDds.Router.Order
import UpTransportDds.Router.Workers

/-! # When quiescing wedges

  `deactivate_and_wait` blocks its thread. If that thread is a worker of the
  runtime, the future it waits for needs another worker. If it is the worker
  that polls that very future, or the one that has it in its slot, no other
  worker can help; and nobody can while no thread drives the runtime.

  The module shows that any wait for a callback in flight that begins in such
  a place is stuck at once and for good. The next one shows that these are
  the only ways to wedge.
-/

namespace UpTransportDds

open LTS

variable {UUri Listener Sample Message : Type}

/-! ### Waiters -/

/-- A party that can wait in `deactivate_and_wait`. -/
inductive Waiter where
  /-- The call of `unregister_listener` with this number. -/
  | call (c : CallId)
  | drop
  deriving DecidableEq, Repr

/-- The party as the one that keeps its worker busy, if it is on one. -/
def Waiter.occupant : Waiter → Occupant
  | .call c => .call c
  | .drop => .drop

/-- The registration a call waits for, asleep or just woken up. -/
def CallPc.waitsFor : CallPc UUri Listener → Option RegId
  | .asleep r => some r
  | .awake r => some r
  | _ => none

/-- The registration `Drop` waits for. -/
def DropPc.waitsFor : DropPc → Option RegId
  | .asleep r _ => some r
  | .awake r _ => some r
  | _ => none

/-- The registration a party waits for. -/
def State.waitsFor (s : State UUri Listener Sample Message) : Waiter → Option RegId
  | .call c => (s.callPc c).bind CallPc.waitsFor
  | .drop => s.drop.waitsFor

/-- The thread a party runs on. -/
def State.siteOf (s : State UUri Listener Sample Message) : Waiter → Option Site
  | .call c => (s.calls[c]?).map Call.site
  | .drop => some s.dropSite

/-- The party that begins to wait with this step, for a callback in flight. -/
def beginsWait (s : State UUri Listener Sample Message) :
    Label UUri Listener Sample → Option Waiter
  | .advance c =>
    match s.callPc c with
    | some (.deactivating r) => if s.registry.inFlight r = 0 then none else some (.call c)
    | _ => none
  | .drop =>
    match s.drop with
    | .draining (r :: _) => if s.registry.inFlight r = 0 then none else some .drop
    | _ => none
  | _ => none

/-- A thread that may wait: one outside the runtime, or a worker that is not
    the only one and not inside a listener callback. -/
def SafeSite (env : Env UUri Sample Message) (site : Option Site) : Prop :=
  site = some .external ∨ (site = some .worker ∧ 2 ≤ env.workers)

/-- A future is in the slot of the worker that the party keeps busy. -/
def State.Keeps (s : State UUri Listener Sample Message) (w : Waiter) : Prop :=
  ∃ task ∈ s.tasks, task.phase = .woken w.occupant

/-- The party may wait for a callback: it is on a thread that may wait and does
    not keep the callback from the other workers, and the runtime is driven. -/
def State.MayWait (env : Env UUri Sample Message) (s : State UUri Listener Sample Message)
    (w : Waiter) : Prop :=
  SafeSite env (s.siteOf w) ∧ ¬ s.Keeps w ∧ s.driven = true

/-- The party waits for a callback that is in flight. -/
def State.Blocked (s : State UUri Listener Sample Message) (w : Waiter) : Prop :=
  ∃ r ∈ s.waitsFor w, s.registry.inFlight r ≠ 0

/-- The step begins no wait, or begins one that may be waited; and it does not
    leave the runtime undriven under a party that waits. -/
def SafeWait (env : Env UUri Sample Message) (s : State UUri Listener Sample Message)
    (l : Label UUri Listener Sample) : Prop :=
  (∀ w ∈ beginsWait s l, s.MayWait env w) ∧ (l = .undrive → ∀ w, ¬ s.Blocked w)

instance (env : Env UUri Sample Message) (site : Option Site) : Decidable (SafeSite env site) :=
  inferInstanceAs (Decidable (_ ∨ _))

instance (s : State UUri Listener Sample Message) (w : Waiter) : Decidable (s.Keeps w) :=
  inferInstanceAs (Decidable (∃ _ ∈ _, _))

instance (env : Env UUri Sample Message) (s : State UUri Listener Sample Message) (w : Waiter) :
    Decidable (s.MayWait env w) :=
  inferInstanceAs (Decidable (_ ∧ _ ∧ _))

instance (s : State UUri Listener Sample Message) (w : Waiter) : Decidable (s.Blocked w) :=
  decidable_of_iff ((s.waitsFor w).any fun r => s.registry.inFlight r ≠ 0) (by
    cases h : s.waitsFor w <;> simp [State.Blocked, h])

/-- Does the step leave the runtime undriven? -/
def Label.undrives : Label UUri Listener Sample → Bool
  | .undrive => true
  | _ => false

/-! ### Waiting through a step -/

section waiting
variable {s s' : State UUri Listener Sample Message} {c c' : CallId}
  {pc pc' : CallPc UUri Listener} {w : Waiter} {r : RegId}

theorem callPc_setPc_self (hpc : s.callPc c = some pc) : (s.setPc c pc').callPc c = some pc' := by
  obtain ⟨call, _, hcall, _⟩ := mem_of_callPc hpc
  simp [State.callPc, hcall]

theorem callPc_setPc_ne (h : c ≠ c') : (s.setPc c pc').callPc c' = s.callPc c' := by
  simp [State.callPc, List.getElem?_modify_ne _ _ h]

theorem siteOf_setPc : (s.setPc c pc').siteOf w = s.siteOf w := by
  cases w with
  | call c' =>
    by_cases h : c = c'
    · subst h
      cases hcall : s.calls[c]? <;> simp [State.siteOf, hcall]
    · simp [State.siteOf, List.getElem?_modify_ne _ _ h]
  | drop => rfl

@[simp] theorem CallPc.waitsFor_notify : (pc.notify r).waitsFor = pc.waitsFor := by
  cases pc with
  | asleep r' =>
    rw [CallPc.notify]
    split <;> rfl
  | _ => rfl

@[simp] theorem DropPc.waitsFor_notify {drop : DropPc} :
    (drop.notify r).waitsFor = drop.waitsFor := by
  cases drop with
  | asleep r' regs =>
    rw [DropPc.notify]
    split <;> rfl
  | _ => rfl

theorem waitsFor_notifyIdle : (s.notifyIdle r).waitsFor w = s.waitsFor w := by
  cases w with
  | call c =>
    cases hcall : s.calls[c]? <;> simp [State.waitsFor, State.callPc, hcall]
  | drop => simp [State.waitsFor]

theorem siteOf_notifyIdle : (s.notifyIdle r).siteOf w = s.siteOf w := by
  cases w with
  | call c =>
    cases hcall : s.calls[c]? <;> simp [State.siteOf, hcall]
  | drop => rfl

/-- The party has a thread: the call exists, or `Drop` has been entered. -/
def State.Entered (s : State UUri Listener Sample Message) : Waiter → Prop
  | .call c => c < s.calls.length
  | .drop => s.drop ≠ .live

theorem entered_of_waitsFor (h : s.waitsFor w = some r) : s.Entered w := by
  cases w with
  | call c =>
    obtain ⟨pc, hpc, _⟩ := Option.bind_eq_some_iff.mp h
    obtain ⟨call, _, hcall, _⟩ := mem_of_callPc hpc
    exact (List.getElem?_eq_some_iff.mp hcall).1
  | drop =>
    intro hlive
    have hdrop : s.drop.waitsFor = some r := h
    rw [hlive] at hdrop
    contradiction

/-- The parties that can wait now. -/
def State.waiters (s : State UUri Listener Sample Message) : List Waiter :=
  .drop :: (List.range s.calls.length).map .call

theorem mem_waiters (h : s.waitsFor w = some r) : w ∈ s.waiters := by
  cases w with
  | call c =>
    have hlt : c < s.calls.length := entered_of_waitsFor h
    exact List.mem_cons_of_mem _ (List.mem_map_of_mem (List.mem_range.mpr hlt))
  | drop => exact List.mem_cons_self

theorem forall_not_blocked_iff : (∀ w ∈ s.waiters, ¬ s.Blocked w) ↔ ∀ w, ¬ s.Blocked w := by
  constructor
  · intro h w hblocked
    obtain ⟨r, hwait, _⟩ := id hblocked
    exact h w (mem_waiters hwait) hblocked
  · exact fun h w _ => h w

instance (env : Env UUri Sample Message) (s : State UUri Listener Sample Message)
    (l : Label UUri Listener Sample) : Decidable (SafeWait env s l) :=
  decidable_of_iff ((beginsWait s l).all (fun w => s.MayWait env w) ∧
    (l.undrives = true → ∀ w ∈ s.waiters, ¬ s.Blocked w)) (by
    rw [forall_not_blocked_iff]
    cases l <;> cases h : beginsWait s _ <;> simp [SafeWait, Label.undrives, h])

/-- A step by which no wait begins, and that leaves the runtime driven, is safe. -/
theorem safeWait_of_quiet {env : Env UUri Sample Message} {l : Label UUri Listener Sample}
    (hquiet : beginsWait s l = none) (hl : l ≠ .undrive) : SafeWait env s l := by
  refine ⟨?_, fun hundrive => absurd hundrive hl⟩
  intro w hbegin
  rw [hquiet] at hbegin
  contradiction

/-- What a party other than call `c` waits for, after `c` has moved on. -/
theorem waitsFor_setPc_ne (h : w ≠ .call c) : (s.setPc c pc').waitsFor w = s.waitsFor w := by
  cases w with
  | call c' =>
    have hne : c ≠ c' := fun heq => h (heq ▸ rfl)
    simp [State.waitsFor, callPc_setPc_ne hne]
  | drop => rfl

theorem waitsFor_setPc_self (hpc : s.callPc c = some pc) :
    (s.setPc c pc').waitsFor (.call c) = pc'.waitsFor := by
  simp [State.waitsFor, callPc_setPc_self hpc]

theorem waitsFor_call (hpc : s.callPc c = some pc) : s.waitsFor (.call c) = pc.waitsFor := by
  simp [State.waitsFor, hpc]

theorem waitsFor_enter {call : Call UUri Listener} (h : s.waitsFor w = some r) :
    { s with calls := s.calls ++ [call] }.waitsFor w = some r := by
  cases w with
  | call c =>
    have hlt : c < s.calls.length := entered_of_waitsFor h
    simp only [State.waitsFor, State.callPc, List.getElem?_append_left hlt] at h ⊢
    exact h
  | drop => exact h

/-- A call that moves on from a point where it does not wait. -/
theorem waitsFor_setPc (hpc : s.callPc c = some pc) (hnone : pc.waitsFor = none)
    (h : s.waitsFor w = some r) : (s.setPc c pc').waitsFor w = some r := by
  by_cases hw : w = .call c
  · rw [hw, waitsFor_call hpc, hnone] at h
    contradiction
  · rw [waitsFor_setPc_ne hw]
    exact h

variable [DecidableEq UUri] [UriMatches UUri] [DecidableEq Listener]
variable {env : Env UUri Sample Message} {l : Label UUri Listener Sample}

/-- A party stays on its thread. -/
theorem siteOf_step (h : Step env s l s') (hw : s.Entered w) : s'.siteOf w = s.siteOf w := by
  cases h with
  | enter site request _ _ =>
    cases w with
    | call c => simp [State.siteOf, List.getElem?_append_left hw]
    | drop => rfl
  | registerFail c _ _ => exact siteOf_setPc
  | register c _ _ => exact siteOf_setPc
  | removeFail c _ _ => exact siteOf_setPc
  | remove c _ _ => exact siteOf_setPc
  | deactivate c _ => exact siteOf_setPc
  | recheck c _ => exact siteOf_setPc
  | wake c _ => exact siteOf_setPc
  | releaseLast t _ _ => exact siteOf_notifyIdle
  | enterDrop site hlive _ _ =>
    cases w with
    | call c => rfl
    | drop => exact absurd hlive hw
  | _ => rfl

/-- A wait only ends once the registration has nothing in flight. -/
theorem waitsFor_step (h : Step env s l s') (hw : s.waitsFor w = some r)
    (hflying : s.registry.inFlight r ≠ 0) : s'.waitsFor w = some r := by
  cases h with
  | enter site request _ _ => exact waitsFor_enter hw
  | registerFail c hpc _ => exact waitsFor_setPc hpc rfl hw
  | register c hpc _ =>
    have hmoved : (s.setPc c (.returned (.ok ()))).waitsFor w = some r := waitsFor_setPc hpc rfl hw
    cases w <;> exact hmoved
  | removeFail c hpc _ => exact waitsFor_setPc hpc rfl hw
  | @remove c _ _ _ r' _ hpc _ =>
    have hmoved : (s.setPc c (.deactivating r')).waitsFor w = some r := waitsFor_setPc hpc rfl hw
    cases w <;> exact hmoved
  | @deactivate c r' hpc =>
    have hmoved : (s.setPc c (s.waitOn r')).waitsFor w = some r := waitsFor_setPc hpc rfl hw
    cases w <;> exact hmoved
  | @recheck c r' hpc =>
    by_cases heq : w = .call c
    -- the loop condition is read again, and there is still something in flight
    · rw [heq, waitsFor_call hpc] at hw
      obtain rfl : r' = r := Option.some.inj hw
      rw [heq, waitsFor_setPc_self hpc, State.waitOn, if_neg hflying]
      rfl
    · rw [waitsFor_setPc_ne heq]
      exact hw
  | @wake c r' hpc =>
    by_cases heq : w = .call c
    · rw [heq, waitsFor_call hpc] at hw
      obtain rfl : r' = r := Option.some.inj hw
      rw [heq, waitsFor_setPc_self hpc]
      rfl
    · rw [waitsFor_setPc_ne heq]
      exact hw
  | releaseLast t _ _ =>
    rw [waitsFor_notifyIdle]
    cases w <;> exact hw
  | enterDrop site hlive _ _ =>
    cases w with
    | call c => exact hw
    -- nothing waits in a `Drop` that has not been entered
    | drop => exact absurd hlive (entered_of_waitsFor hw)
  | @recheckDrop r' regs hpc =>
    cases w with
    | call c => exact hw
    | drop =>
      have hdrop : s.drop.waitsFor = some r := hw
      rw [hpc] at hdrop
      obtain rfl : r' = r := Option.some.inj hdrop
      show (s.drainOn r' regs).waitsFor = some r'
      rw [State.drainOn, if_neg hflying]
      rfl
  | wakeDrop hpc =>
    cases w with
    | call c => exact hw
    | drop =>
      have hdrop : s.drop.waitsFor = some r := hw
      rw [hpc] at hdrop
      exact hdrop
  | _ =>
    cases w with
    | call c => exact hw
    | drop => simp_all [State.waitsFor, DropPc.waitsFor]

/-- A party waits because it began to. -/
theorem beginsWait_of_waitsFor (h : Step env s l s') (hw' : s'.waitsFor w = some r) :
    s.waitsFor w = some r ∨ (beginsWait s l = some w ∧ s.Entered w) := by
  -- most rules leave every wait alone or end it
  have hcall : ∀ {c pc pc'}, s.callPc c = some pc → pc'.waitsFor = none →
      (s.setPc c pc').waitsFor w = some r → s.waitsFor w = some r := by
    intro c pc pc' hpc hnone hwait
    by_cases heq : w = .call c
    · rw [heq, waitsFor_setPc_self hpc, hnone] at hwait
      contradiction
    · rw [waitsFor_setPc_ne heq] at hwait
      exact hwait
  cases h with
  | enter site request _ _ =>
    left
    cases w with
    | call c =>
      -- only the call at index `s.calls.length` is new, and it has not got to its wait
      rcases Nat.lt_trichotomy c s.calls.length with hlt | heq | hgt
      · simp only [State.waitsFor, State.callPc, List.getElem?_append_left hlt] at hw' ⊢
        exact hw'
      · subst heq
        simp only [State.waitsFor, State.callPc, List.getElem?_concat_length] at hw'
        cases request <;> contradiction
      · have hnone : (s.calls ++ [⟨site, request.start⟩])[c]? = none := by
          rw [List.getElem?_eq_none_iff, List.length_append, List.length_singleton]
          exact hgt
        simp only [State.waitsFor, State.callPc, hnone] at hw'
        contradiction
    | drop => exact hw'
  | registerFail c hpc _ => exact .inl (hcall hpc rfl hw')
  | register c hpc _ =>
    have hmoved : (s.setPc c (.returned (.ok ()))).waitsFor w = some r := by
      cases w <;> exact hw'
    exact .inl (hcall hpc rfl hmoved)
  | removeFail c hpc _ => exact .inl (hcall hpc rfl hw')
  | @remove c _ _ _ r' _ hpc _ =>
    have hmoved : (s.setPc c (.deactivating r')).waitsFor w = some r := by
      cases w <;> exact hw'
    exact .inl (hcall hpc rfl hmoved)
  | @deactivate c r' hpc =>
    -- the one step by which a call begins to wait
    have hmoved : (s.setPc c (s.waitOn r')).waitsFor w = some r := by
      cases w <;> exact hw'
    by_cases hzero : s.registry.inFlight r' = 0
    · rw [State.waitOn, if_pos hzero] at hmoved
      exact .inl (hcall hpc rfl hmoved)
    · by_cases heq : w = .call c
      · obtain ⟨call, _, hget, _⟩ := mem_of_callPc hpc
        refine .inr ⟨?_, ?_⟩
        · simp only [beginsWait, hpc, if_neg hzero, heq]
        · rw [heq]
          exact (List.getElem?_eq_some_iff.mp hget).1
      · rw [waitsFor_setPc_ne heq] at hmoved
        exact .inl hmoved
  | @recheck c r' hpc =>
    by_cases hzero : s.registry.inFlight r' = 0
    · rw [State.waitOn, if_pos hzero] at hw'
      exact .inl (hcall hpc rfl hw')
    · by_cases heq : w = .call c
      · rw [heq, waitsFor_setPc_self hpc, State.waitOn, if_neg hzero] at hw'
        rw [heq, waitsFor_call hpc]
        exact .inl hw'
      · rw [waitsFor_setPc_ne heq] at hw'
        exact .inl hw'
  | @wake c r' hpc =>
    by_cases heq : w = .call c
    · rw [heq, waitsFor_setPc_self hpc] at hw'
      rw [heq, waitsFor_call hpc]
      exact .inl hw'
    · rw [waitsFor_setPc_ne heq] at hw'
      exact .inl hw'
  | releaseLast t _ _ =>
    rw [waitsFor_notifyIdle] at hw'
    left
    cases w <;> exact hw'
  | @drain r' regs hpc =>
    cases w with
    | call c => exact .inl hw'
    | drop =>
      -- the one step by which `Drop` begins to wait
      have hdrop : (s.drainOn r' regs).waitsFor = some r := hw'
      by_cases hzero : s.registry.inFlight r' = 0
      · rw [State.drainOn, if_pos hzero] at hdrop
        contradiction
      · refine .inr ⟨?_, ?_⟩
        · simp only [beginsWait, hpc, if_neg hzero]
        · intro hlive
          rw [hpc] at hlive
          contradiction
  | @recheckDrop r' regs hpc =>
    cases w with
    | call c => exact .inl hw'
    | drop =>
      have hdrop : (s.drainOn r' regs).waitsFor = some r := hw'
      by_cases hzero : s.registry.inFlight r' = 0
      · rw [State.drainOn, if_pos hzero] at hdrop
        contradiction
      · rw [State.drainOn, if_neg hzero] at hdrop
        left
        show s.drop.waitsFor = some r
        rw [hpc]
        exact hdrop
  | wakeDrop hpc =>
    cases w with
    | call c => exact .inl hw'
    | drop =>
      left
      show s.drop.waitsFor = some r
      rw [hpc]
      exact hw'
  | _ =>
    left
    cases w with
    | call c => exact hw'
    | drop => simp_all [State.waitsFor, DropPc.waitsFor]

end waiting

/-! ### Slots -/

section slots
variable {tasks : List (Task Message)} {t : TaskId} {task : Task Message} {phase : Phase}
  {o : Occupant}

/-- A future stays in its slot while another one moves. -/
theorem woken_withPhase (htask : tasks[t]? = some task) (hother : task.phase ≠ .woken o)
    (h : ∃ task ∈ tasks, task.phase = .woken o) :
    ∃ task ∈ withPhase tasks t phase, task.phase = .woken o := by
  obtain ⟨task', hmem, hwoken⟩ := h
  obtain ⟨t', htask'⟩ := List.mem_iff_getElem?.mp hmem
  have hne : t ≠ t' := by
    rintro rfl
    obtain rfl := Option.some.inj (htask.symm.trans htask')
    exact hother hwoken
  exact ⟨task', List.mem_of_getElem? ((withPhase_ne hne).trans htask'), hwoken⟩

/-- A future is in a slot because it has been woken up. -/
theorem woken_of_withPhase (htask : tasks[t]? = some task) (hphase : phase ≠ .woken o)
    (h : ∃ task ∈ withPhase tasks t phase, task.phase = .woken o) :
    ∃ task ∈ tasks, task.phase = .woken o := by
  obtain ⟨task', hmem, hwoken⟩ := h
  obtain ⟨t', htask'⟩ := List.mem_iff_getElem?.mp hmem
  rcases withPhase_cases htask htask' with ⟨_, rfl⟩ | ⟨_, hold⟩
  · exact absurd hwoken hphase
  · exact ⟨task', List.mem_of_getElem? hold, hwoken⟩

variable {s s' : State UUri Listener Sample Message} {w : Waiter} {r : RegId}

theorem slotted_of_woken (h : task.phase = .woken o) : s.slotted task = s.occupied o := by
  simp only [State.slotted, h]

theorem CallPc.not_done_of_waitsFor {pc : CallPc UUri Listener} (h : pc.waitsFor = some r) :
    pc.done = false := by
  cases pc <;> simp_all [CallPc.waitsFor, CallPc.done]

theorem CallPc.not_starts_of_waitsFor {pc : CallPc UUri Listener} (h : pc.waitsFor = some r) :
    pc.starts = false := by
  cases pc <;> simp_all [CallPc.waitsFor, CallPc.starts]

theorem DropPc.running_of_waitsFor {drop : DropPc} (h : drop.waitsFor = some r) :
    drop.running = true := by
  cases drop <;> simp_all [DropPc.waitsFor, DropPc.running]

/-- A call that waits is one of the calls, and is in progress. -/
theorem call_of_waitsFor {c : CallId} (h : s.waitsFor (.call c) = some r) :
    ∃ call, s.calls[c]? = some call ∧ call.pc.waitsFor = some r ∧ call.pc.done = false := by
  obtain ⟨pc, hpc, hwait⟩ := Option.bind_eq_some_iff.mp h
  obtain ⟨call, _, hcall, rfl⟩ := mem_of_callPc hpc
  exact ⟨call, hcall, hwait, CallPc.not_done_of_waitsFor hwait⟩

/-- A party that waits is busy with nothing else. -/
theorem occupied_of_waitsFor (h : s.waitsFor w = some r) : s.occupied w.occupant = true := by
  cases w with
  | call c =>
    obtain ⟨call, hcall, _, hbusy⟩ := call_of_waitsFor h
    simp [State.occupied, Waiter.occupant, hcall, hbusy]
  | drop => exact DropPc.running_of_waitsFor h

/-- In particular it wakes up nobody. -/
theorem not_canWake_of_waitsFor (h : s.waitsFor w = some r) : s.canWake w.occupant = false := by
  cases w with
  | call c =>
    obtain ⟨call, hcall, hwait, _⟩ := call_of_waitsFor h
    simp [State.canWake, Waiter.occupant, hcall, CallPc.not_starts_of_waitsFor hwait]
  | drop =>
    have hwait : s.drop.waitsFor = some r := h
    have hpc : s.drop ≠ .stopping := by
      intro hpc
      rw [hpc] at hwait
      contradiction
    simp [State.canWake, Waiter.occupant, hpc]

variable [DecidableEq UUri] [UriMatches UUri] [DecidableEq Listener]
variable {env : Env UUri Sample Message} {l : Label UUri Listener Sample}

/-- From the slot of a party that waits, no worker takes a future. -/
theorem keeps_step (hup : s.shutdown = false) (hwait : s.waitsFor w = some r)
    (h : Step env s l s') (hkeeps : s.Keeps w) : s'.Keeps w := by
  have hslot : ∀ {task : Task Message}, s.slotted task = false →
      task.phase ≠ .woken w.occupant := by
    intro task hfree hwoken
    rw [slotted_of_woken hwoken, occupied_of_waitsFor hwait] at hfree
    contradiction
  cases h with
  | spawn _ =>
    obtain ⟨task, hmem, hwoken⟩ := hkeeps
    exact ⟨task, List.mem_append_left _ hmem, hwoken⟩
  | @abort _ t _ _ =>
    obtain ⟨task, hmem, hwoken⟩ := hkeeps
    obtain ⟨t', htask⟩ := List.mem_iff_getElem?.mp hmem
    by_cases heq : t = t'
    · refine ⟨{ task with aborted := true }, List.mem_of_getElem? (i := t') ?_, hwoken⟩
      simp [heq, htask]
    · exact ⟨task, List.mem_of_getElem? ((List.getElem?_modify_ne _ _ heq).trans htask), hwoken⟩
  | poll t htask _ _ _ _ _ hfree => exact woken_withPhase htask (hslot hfree) hkeeps
  | cancel t htask _ _ hcancel =>
    rcases hcancel with ⟨_, _, hfree⟩ | hshut
    · exact woken_withPhase htask (hslot hfree) hkeeps
    · rw [hup] at hshut
      contradiction
  | suspend t htask hphase _ | finish t _ htask hphase _ | wakeTask t _ htask hphase _ =>
    exact woken_withPhase htask (by simp [hphase]) hkeeps
  | release t htask _ | releaseLast t htask _ | complete t htask =>
    exact woken_withPhase htask (by simp) hkeeps
  | _ => exact hkeeps

/-- Only a wake-up brings a future into a slot. -/
theorem woken_of_step (hnot : ∀ t, l ≠ .wakeTask t o) (h : Step env s l s')
    (hwoken : ∃ task ∈ s'.tasks, task.phase = .woken o) :
    ∃ task ∈ s.tasks, task.phase = .woken o := by
  cases h with
  | spawn _ =>
    obtain ⟨task, hmem, hphase⟩ := hwoken
    rcases List.mem_append.mp hmem with hold | hnew
    · exact ⟨task, hold, hphase⟩
    · rw [List.mem_singleton.mp hnew] at hphase
      simp only at hphase
      split at hphase <;> contradiction
  | @abort _ t _ _ =>
    obtain ⟨task, hmem, hphase⟩ := hwoken
    rcases mem_modify hmem with hold | ⟨old, hold, rfl⟩
    · exact ⟨task, hold, hphase⟩
    · exact ⟨old, List.mem_of_getElem? hold, hphase⟩
  | wakeTask t o' htask _ _ =>
    refine woken_of_withPhase htask ?_ hwoken
    intro heq
    exact hnot t (by rw [Phase.woken.inj heq])
  | poll t htask _ _ _ _ _ _ | cancel t htask _ _ _ | suspend t htask _ _
  | release t htask _ | releaseLast t htask _ | complete t htask =>
    exact woken_of_withPhase htask (by simp) hwoken
  | finish t panicked htask _ _ => exact woken_of_withPhase htask (by simp) hwoken
  | _ => exact hwoken

/-- A party that waits gets no future into its slot. -/
theorem keeps_of_step (hwait : s.waitsFor w = some r) (h : Step env s l s')
    (hkeeps : s'.Keeps w) : s.Keeps w := by
  refine woken_of_step ?_ h hkeeps
  rintro t rfl
  cases h with
  | wakeTask _ _ _ _ hwake =>
    rw [not_canWake_of_waitsFor hwait] at hwake
    contradiction

end slots

/-! ### Waits that never end -/

/-- No thread comes from outside to drive the runtime, or shuts it down. -/
def Label.Unaided (l : Label UUri Listener Sample) : Prop :=
  l ≠ .shutdownRuntime ∧ l ≠ .drive

/-- The transport and the tasks of its runtime, left to themselves. -/
def unaidedRouter [DecidableEq UUri] [UriMatches UUri] [DecidableEq Listener]
    (env : Env UUri Sample Message) :
    System (State UUri Listener Sample Message) (Label UUri Listener Sample) :=
  (router env).restrict Label.Unaided

/-- The party waits for a callback in flight where it may not. -/
structure Wedged (env : Env UUri Sample Message) (s : State UUri Listener Sample Message)
    (w : Waiter) (r : RegId) : Prop where
  waits : s.waitsFor w = some r
  flying : s.registry.inFlight r ≠ 0
  stuck : ¬ s.MayWait env w

section wedged
variable {env : Env UUri Sample Message} {s s' : State UUri Listener Sample Message}
  {w : Waiter} {r : RegId}

/-- A party that waits on a worker keeps it busy. -/
theorem busy_of_waitsFor (hwait : s.waitsFor w = some r) (hsite : s.siteOf w = some .worker) :
    1 ≤ s.calls.countP Call.occupies + s.dropBusy := by
  cases w with
  | call c =>
    obtain ⟨call, hcall, _, hbusy⟩ := call_of_waitsFor hwait
    have hworker : call.site = .worker := by
      simpa [State.siteOf, hcall] using hsite
    have hpos : 0 < s.calls.countP Call.occupies := by
      refine List.countP_pos_iff.mpr ⟨call, List.mem_of_getElem? hcall, ?_⟩
      simp [Call.occupies, hworker, hbusy]
    omega
  | drop =>
    have hrunning : s.drop.running = true := DropPc.running_of_waitsFor hwait
    have hone : s.dropBusy = 1 := if_pos ⟨Option.some.inj hsite, hrunning⟩
    omega

/-- A party that waits inside a callback keeps its poll going. -/
theorem polling_of_waitsFor (hi : Sited s) (hwait : s.waitsFor w = some r) {t : TaskId}
    (hsite : s.siteOf w = some (.callback t)) : s.Polling t := by
  cases w with
  | call c =>
    obtain ⟨call, hcall, _, hbusy⟩ := call_of_waitsFor hwait
    have hcallback : call.site = .callback t := by
      simpa [State.siteOf, hcall] using hsite
    exact hi.calls call (List.mem_of_getElem? hcall) hbusy t hcallback
  | drop => exact hi.drop (DropPc.running_of_waitsFor hwait) t (Option.some.inj hsite)

/-- The four places where a party may not wait. -/
theorem not_mayWait_cases (hwait : s.waitsFor w = some r) (h : ¬ s.MayWait env w) :
    (s.siteOf w = some .worker ∧ env.workers ≤ 1) ∨ (∃ t, s.siteOf w = some (.callback t)) ∨
      s.Keeps w ∨ s.driven = false := by
  by_contra hnone
  simp only [not_or, not_exists, not_and, Nat.not_le] at hnone
  obtain ⟨hworker, hcallback, hkeeps, hdriven⟩ := hnone
  refine h ⟨?_, hkeeps, by simpa using hdriven⟩
  obtain ⟨site, hsite⟩ : ∃ site, s.siteOf w = some site := by
    cases w with
    | call c =>
      obtain ⟨call, hcall, _⟩ := call_of_waitsFor hwait
      exact ⟨call.site, by simp [State.siteOf, hcall]⟩
    | drop => exact ⟨s.dropSite, rfl⟩
  cases site with
  | external => exact .inl hsite
  | worker => exact .inr ⟨hsite, hworker hsite⟩
  | callback t => exact absurd hsite (hcallback t)

variable [DecidableEq UUri] [UriMatches UUri] [DecidableEq Listener]
variable {l : Label UUri Listener Sample}
  {tr : Trace (State UUri Listener Sample Message) (Label UUri Listener Sample)}

/-- While a party is wedged, no future gets to drop its guard. -/
theorem Wedged.no_dropping (h : Wedged env s w r) (hr : Reachable (liveRouter env) s)
    {t : TaskId} {task : Task Message} (htask : s.tasks[t]? = some task) (outcome : Outcome) :
    task.phase ≠ .dropping outcome := by
  intro hphase
  obtain ⟨_, hwithin, hundriven⟩ := reachable_withinWorkers hr
  have hon : 0 < s.tasks.countP (·.phase.onWorker) :=
    List.countP_pos_iff.mpr ⟨task, List.mem_of_getElem? htask, by rw [hphase]; rfl⟩
  have halive : s.Alive t := ⟨task, htask, by rw [hphase]; rfl⟩
  -- the only future alive is in no other phase
  have hlone : ∀ {t' : TaskId} {task' : Task Message}, s.tasks[t']? = some task' →
      task'.phase.done = false → task'.phase = .dropping outcome := by
    intro t' task' htask' hlive
    obtain rfl := alive_unique hr.of_restrict halive ⟨task', htask', hlive⟩
    obtain rfl := Option.some.inj (htask.symm.trans htask')
    exact hphase
  rcases not_mayWait_cases h.waits h.stuck with
    ⟨hsite, hone⟩ | ⟨t', hsite⟩ | ⟨task', hmem, hwoken⟩ | hoff
  · -- the one worker is blocked, but the future is on a worker as well
    have hblocked := busy_of_waitsFor h.waits hsite
    rw [busy_eq] at hwithin
    omega
  · obtain ⟨task', htask', hpolling⟩ :=
      polling_of_waitsFor (reachable_sited hr.of_restrict) h.waits hsite
    have hdropping := hlone htask' (by rw [hpolling]; rfl)
    rw [hpolling] at hdropping
    contradiction
  · obtain ⟨t', htask'⟩ := List.mem_iff_getElem?.mp hmem
    have hdropping := hlone htask' (by rw [hwoken]; rfl)
    rw [hwoken] at hdropping
    contradiction
  · -- the future is on a worker, but nobody drives the runtime
    have hzero := hundriven hoff
    rw [busy_eq] at hzero
    omega

/-- Counters only go down when a guard is dropped. -/
theorem flying_step (h : Step env s l s') (hflying : s.registry.inFlight r ≠ 0)
    (hno : ∀ (t : TaskId) (task : Task Message), s.tasks[t]? = some task →
      ∀ outcome, task.phase ≠ .dropping outcome) :
    s'.registry.inFlight r ≠ 0 := by
  cases h with
  | @register c _ _ _ registry hpc hok =>
    show registry.inFlight r ≠ 0
    rw [Registry.inFlight_register hok]
    exact hflying
  | @remove c _ _ _ _ registry hpc hok =>
    show registry.inFlight r ≠ 0
    rw [Registry.inFlight_remove hok]
    exact hflying
  | deactivate c hpc =>
    rw [State.setPc_registry, Registry.inFlight_deactivate]
    exact hflying
  | drain hpc =>
    rw [Registry.inFlight_deactivate]
    exact hflying
  | @beginActive job registry hpc hbegin =>
    show registry.inFlight r ≠ 0
    rw [Registry.inFlight_begin hbegin]
    omega
  | release t htask _ => exact absurd rfl (hno t _ htask _)
  | releaseLast t htask _ => exact absurd rfl (hno t _ htask _)
  | _ => exact hflying

/-- Only a thread that comes to drive the runtime makes it driven. -/
theorem driven_of_step (h : Step env s l s') (hl : l ≠ .drive) (hdriven : s'.driven = true) :
    s.driven = true := by
  cases h with
  | drive _ => exact absurd rfl hl
  | undrive _ _ hwas => exact hwas
  | _ => exact hdriven

/-- A wedged party stays wedged. -/
theorem Wedged.step (h : Wedged env s w r) (hr : Reachable (liveRouter env) s) (hl : l.Unaided)
    (hstep : Step env s l s') : Wedged env s' w r where
  waits := waitsFor_step hstep h.waits h.flying
  flying := flying_step hstep h.flying fun _ _ htask => h.no_dropping hr htask
  stuck := by
    rintro ⟨hsite, hkeeps, hdriven⟩
    rw [siteOf_step hstep (entered_of_waitsFor h.waits)] at hsite
    refine h.stuck ⟨hsite, ?_, driven_of_step hstep hl.2 hdriven⟩
    intro hkept
    exact hkeeps (keeps_step (reachable_withinWorkers hr).1 h.waits hstep hkept)

theorem Wedged.run (h : Wedged env s w r) (hr : Reachable (liveRouter env) s)
    (hrun : Run (unaidedRouter env) s tr s') : Wedged env s' w r := by
  have hboth : Reachable (liveRouter env) s' ∧ Wedged env s' w r := by
    refine hrun.stable
      (P := fun s => Reachable (liveRouter env) s ∧ Wedged env s w r) ?_ ⟨hr, h⟩
    intro s l s' ⟨hr, h⟩ ⟨hl, hnext⟩
    exact ⟨hr.step ⟨hl.1, hnext⟩, h.step hr hl (Step.of_next hnext)⟩
  exact hboth.2

/-- A wait that begins where it may not is wedged. -/
theorem wedged_of_begin (h : Step env s l s') (hbegin : beginsWait s l = some w)
    (hwrong : ¬ s.MayWait env w) : ∃ r, Wedged env s' w r := by
  unfold beginsWait at hbegin
  split at hbegin
  · rename_i c
    split at hbegin
    · rename_i r hpc
      split at hbegin
      · contradiction
      · rename_i hflying
        obtain rfl := Option.some.inj hbegin
        obtain rfl := h.unique (.deactivate c hpc)
        refine ⟨r, ?_, ?_, ?_⟩
        · have hmoved : (s.setPc c (s.waitOn r)).waitsFor (.call c) = some r := by
            rw [waitsFor_setPc_self hpc, State.waitOn, if_neg hflying]
            rfl
          exact hmoved
        · rw [State.setPc_registry, Registry.inFlight_deactivate]
          exact hflying
        · rw [State.MayWait, siteOf_setPc]
          exact hwrong
    · contradiction
  · split at hbegin
    · rename_i r regs hpc
      split at hbegin
      · contradiction
      · rename_i hflying
        obtain rfl := Option.some.inj hbegin
        obtain rfl := h.unique (.drain hpc)
        refine ⟨r, ?_, ?_, hwrong⟩
        · show (s.drainOn r regs).waitsFor = some r
          rw [State.drainOn, if_neg hflying]
          rfl
        · rw [Registry.inFlight_deactivate]
          exact hflying
    · contradiction
  · contradiction

/-- Whoever waits when the runtime is left undriven is wedged. -/
theorem wedged_of_undrive (h : Step env s .undrive s') (hblocked : s.Blocked w) :
    ∃ r, Wedged env s' w r := by
  obtain ⟨r, hwait, hflying⟩ := hblocked
  refine ⟨r, waitsFor_step h hwait hflying, ?_, ?_⟩
  · cases h with
    | undrive _ _ _ => exact hflying
  · rintro ⟨_, _, hdriven⟩
    cases h with
    | undrive _ _ _ => contradiction

/-- **A step that is not safe wedges somebody.** -/
theorem wedged_of_unsafe (h : Step env s l s') (hwrong : ¬ SafeWait env s l) :
    ∃ w r, Wedged env s' w r := by
  by_cases hbegins : ∀ w ∈ beginsWait s l, s.MayWait env w
  · have hundrive : ∃ w, l = .undrive ∧ s.Blocked w := by
      by_contra hnone
      refine hwrong ⟨hbegins, ?_⟩
      intro hl w hblocked
      exact hnone ⟨w, hl, hblocked⟩
    obtain ⟨w, rfl, hblocked⟩ := hundrive
    exact ⟨w, wedged_of_undrive h hblocked⟩
  · simp only [not_forall] at hbegins
    obtain ⟨w, hbegin, hmay⟩ := hbegins
    exact ⟨w, wedged_of_begin h hbegin hmay⟩

end wedged

end UpTransportDds
