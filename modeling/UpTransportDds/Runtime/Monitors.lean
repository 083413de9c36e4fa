import UpTransportDds.Framework.Monitor
import UpTransportDds.Runtime.Snapshot

/-! # The stop token and the health handle, lock by lock

  `StopToken` is a flag behind a mutex, with a condition variable for those
  who wait for it: the poller between two polls, and the dispatcher during a
  callback. `DdsHealth` is a mutex alone, which each of its calls holds to the
  end. The rest of the development takes their calls for single steps, and this
  is where they become so.
-/

namespace UpTransportDds

open LTS

/-! ### `StopToken` -/

inductive StopOp where
  | stop
  /-- The duration bounds the sleep, which may end at any time before. -/
  | wait
  | isStopped
  deriving DecidableEq, Repr

/-- `StopToken`. `stop` gives the lock back before it notifies, and `wait`
    looks at the flag again after its one sleep, whatever has ended it. -/
def stopToken : Monitor Bool StopOp (Option Bool) where
  init := false
  enter
    | _, _, .stop => (true, .answer none true)
    | true, stopped, .wait =>
      if stopped then (stopped, .answer (some true) false) else (stopped, .sleep)
    | false, stopped, .wait => (stopped, .answer (some stopped) false)
    | _, stopped, .isStopped => (stopped, .answer (some stopped) false)

/-- A flag that stays up. -/
def flagObject : Object Bool StopOp (Option Bool) where
  init := false
  apply
    | _, .stop => (true, none)
    | stopped, .wait => (stopped, some stopped)
    | stopped, .isStopped => (stopped, some stopped)

section flag
variable {stopped stopped' : Bool} {order : List (Effect StopOp (Option Bool))}

/-- The flag is up after a `stop`, and not before. -/
theorem flag_of_legal (h : flagObject.Legal stopped order stopped') :
    stopped' = true ↔ stopped = true ∨ ∃ e ∈ order, e.op = .stop := by
  induction order generalizing stopped with
  | nil =>
    obtain rfl : stopped = stopped' := h
    simp
  | cons e order ih =>
    obtain ⟨c, op, res⟩ := e
    rw [ih h.2]
    cases op <;> simp [flagObject]

/-- Only a `stop` answers nothing, and the others answer the flag. -/
theorem answer_of_legal {before after : List (Effect StopOp (Option Bool))}
    {e : Effect StopOp (Option Bool)}
    (h : flagObject.Legal false (before ++ e :: after) stopped) :
    (e.res = none ↔ e.op = .stop) ∧
      ∀ answer, e.res = some answer → (answer = true ↔ ∃ e' ∈ before, e'.op = .stop) := by
  obtain ⟨flag, hbefore, hanswer, -⟩ := Object.legal_append.mp h
  have hflag : flag = true ↔ ∃ e' ∈ before, e'.op = .stop := by
    simpa using flag_of_legal hbefore
  obtain ⟨c, op, res⟩ := e
  cases op with
  | stop =>
    obtain rfl : none = res := hanswer
    simp
  | wait | isStopped =>
    obtain rfl : some flag = res := hanswer
    simp [hflag]

end flag

theorem stopToken_implements : stopToken.Implements flagObject where
  init := rfl
  answers := by
    intro first v op v' res notify henter
    cases op with
    | stop =>
      simp only [stopToken, Prod.mk.injEq, Exit.answer.injEq] at henter
      obtain ⟨rfl, rfl, -⟩ := henter
      rfl
    | wait => cases first <;> cases v <;> simp_all [stopToken, flagObject]
    | isStopped =>
      have hanswer : (v, Exit.answer (some v) false) = (v', .answer res notify) := by
        cases first <;> exact henter
      simp only [Prod.mk.injEq, Exit.answer.injEq] at hanswer
      obtain ⟨rfl, rfl, -⟩ := hanswer
      rfl
  sleeps := by
    intro first v op v' henter
    cases op <;> cases first <;> cases v <;> simp_all [stopToken]

/-- Only a `wait` sleeps, and only while the flag is down. -/
theorem stopToken_alerts : stopToken.Alerts fun stopped op => op = .wait ∧ stopped = false where
  sleeps := by
    intro first v op v' henter
    cases op <;> cases first <;> cases v <;> simp_all [stopToken]
  waits := by
    intro first v op v' henter
    cases op <;> cases first <;> cases v <;> simp_all [stopToken]
  answers := by
    intro first v op v' res notify henter
    cases op <;> cases first <;> cases v <;> simp_all [stopToken]

/-- Nobody takes the flag down. -/
theorem stopToken_raised {first : Bool} {op : StopOp} {stopped : Bool}
    {exit : Exit (Option Bool)} (h : stopToken.enter first true op = (stopped, exit)) :
    stopped = true ∧ (op ≠ .stop → exit = .answer (some true) false) := by
  cases op <;> cases first <;> simp_all [stopToken]

/-! ### Runs -/

section runs
variable {s s' : MonitorState Bool StopOp (Option Bool)}
  {tr : Trace (MonitorState Bool StopOp (Option Bool)) (MonitorLabel StopOp)}

/-- **The flag is sticky**: the calls on a stop token have one order, in which
    each takes its place between its start and its end, and `wait` and
    `is_stopped` answer `true` in it if and only if a `stop` comes before. So
    whoever asks after a `stop` has returned is told. -/
theorem stop_is_sticky (h : InitRun stopToken.system tr s) :
    ∃ order, flagObject.Linearizes (observe stopToken.events tr) order s.value ∧
      (∀ before e after stopped, order = before ++ e :: after → e.res = some stopped →
        (stopped = true ↔ ∃ e' ∈ before, e'.op = .stop)) ∧
      ∀ c c' op stopped, [.respond c none, .invoke c' op].Sublist (observe stopToken.events tr) →
        .respond c' (some stopped) ∈ observe stopToken.events tr → stopped = true := by
  have hlinear := Monitor.linearizes stopToken_implements h
  refine ⟨_, hlinear, ?_, ?_⟩
  · intro before e after stopped heq hres
    have hlegal := hlinear.legal
    rw [heq] at hlegal
    exact (answer_of_legal hlegal).2 stopped hres
  · intro c c' op stopped hpair hrespond
    obtain ⟨stopping, hstop⟩ := hlinear.answered c none (hpair.subset List.mem_cons_self)
    obtain ⟨asking, hask⟩ := hlinear.answered c' (some stopped) hrespond
    -- the call of `stop` comes first in the order
    obtain ⟨front, back, heq, hfront, hback⟩ :=
      List.cons_sublist_iff.mp (hlinear.realTime _ hstop _ hask none op hpair)
    obtain ⟨mid, after, rfl⟩ := List.append_of_mem (List.singleton_sublist.mp hback)
    obtain ⟨before, rest, rfl⟩ := List.append_of_mem hfront
    have hlegal := hlinear.legal
    rw [heq] at hlegal
    have hstopping : stopping = .stop := by
      rw [List.append_assoc] at hlegal
      exact (answer_of_legal hlegal).1.mp rfl
    rw [← List.append_assoc] at hlegal
    apply ((answer_of_legal hlegal).2 stopped rfl).mpr
    exact ⟨⟨c, stopping, none⟩, by simp, hstopping⟩

end runs

/-- Calls 0 and 1 fall asleep, call 2 asks in vain, and call 3 puts the flag
    up. -/
def stoppedCalls : List (MonitorLabel StopOp) :=
  [.invoke .wait, .invoke .wait, .step 0, .step 0, .step 0, .step 1, .step 1, .step 1,
   .invoke .isStopped, .step 2, .step 2, .step 2, .step 2, .invoke .stop, .step 3, .step 3]

/-- Call 3 returns, and call 4 asks again. -/
def askedAgain : List (MonitorLabel StopOp) :=
  stoppedCalls ++ [.step 3, .step 3, .step 3, .invoke .isStopped, .step 4, .step 4, .step 4,
    .step 4]

theorem stop_is_sticky_run : ∃ tr s, InitRun stopToken.system tr s ∧
    tr.map Prod.snd = askedAgain ∧ .respond 4 (some true) ∈ observe stopToken.events tr ∧
    ∀ stopped, .respond 4 (some stopped) ∈ observe stopToken.events tr → stopped = true := by
  obtain ⟨tr, s, hexec, hlabels, hevents⟩ : ∃ tr s,
      exec stopToken.next stopToken.start askedAgain = some (tr, s) ∧
      tr.map Prod.snd = askedAgain ∧ observe stopToken.events tr =
        [.invoke 0 .wait, .invoke 1 .wait, .invoke 2 .isStopped,
         .effect ⟨2, .isStopped, some false⟩, .respond 2 (some false),
         .invoke 3 .stop, .effect ⟨3, .stop, none⟩, .respond 3 none,
         .invoke 4 .isStopped, .effect ⟨4, .isStopped, some true⟩, .respond 4 (some true)] :=
    ⟨_, _, rfl, rfl, rfl⟩
  have hrun : InitRun stopToken.system tr s := ⟨_, rfl, run_of_exec hexec⟩
  obtain ⟨order, -, -, htold⟩ := stop_is_sticky hrun
  refine ⟨tr, s, hrun, hlabels, by simp [hevents], ?_⟩
  intro stopped hrespond
  exact htold 3 4 .isStopped stopped (by rw [hevents]; decide) hrespond

section wakes
variable {s s' : MonitorState Bool StopOp (Option Bool)}
  {tr : Trace (MonitorState Bool StopOp (Option Bool)) (MonitorLabel StopOp)}

/-- Waiting, or about to answer that the token is stopped. -/
structure Heeds (c : Nat) (s : MonitorState Bool StopOp (Option Bool)) : Prop where
  raised : s.value = true
  answers : ∃ call, s.calls[c]? = some call ∧ call.op ≠ .stop ∧
    ∀ res, call.pc.answer? = some res → res = some true

/-- The flag stays up. -/
theorem raised_step {l : MonitorLabel StopOp} (h : s.value = true)
    (hstep : MonitorStep stopToken s l s') : s'.value = true := by
  cases hstep with
  | answer c hcall henter | sleep c hcall henter =>
    rw [h] at henter
    exact (stopToken_raised henter).1
  | _ => exact h

theorem heeds_step {c : Nat} {l : MonitorLabel StopOp} (h : Heeds c s)
    (hstep : MonitorStep stopToken s l s') : Heeds c s' := by
  refine ⟨raised_step h.raised hstep, ?_⟩
  obtain ⟨call, hcall, hop, hanswers⟩ := h.answers
  obtain ⟨call', hcall', hop', hsame | ⟨-, first, v', res, notify, henter, hanswer⟩⟩ :=
    hstep.keeps hcall
  · refine ⟨call', hcall', hop' ▸ hop, ?_⟩
    intro res hres
    exact hanswers res (hsame ▸ hres)
  · refine ⟨call', hcall', hop' ▸ hop, ?_⟩
    intro res' hres
    rw [h.raised] at henter
    have hraised := (stopToken_raised henter).2 hop
    rw [Exit.answer.injEq] at hraised
    rw [hanswer] at hres
    rw [← Option.some.inj hres, hraised.1]

/-- **A stop wakes every waiter**: once the flag is up, the calls in progress
    move at most nine times each, and where none of them can move, each has
    returned. Those that had no answer when the flag went up have told their
    caller of it; no timeout is needed for this. -/
theorem stop_wakes (hreach : Reachable stopToken.system s) (hstopped : s.value = true)
    (hrun : Run stopToken.system s tr s') (hcalls : ∀ e ∈ tr, ∀ op, e.2 ≠ .invoke op) :
    tr.length ≤ 9 * s.calls.length ∧
      ((∀ c, stopToken.next s' (.step c) = none) →
        ∀ (c : Nat) (call : MonitorCall StopOp (Option Bool)), s.calls[c]? = some call →
          ∃ res, s'.calls[c]? = some ⟨call.op, .returned res⟩ ∧
            (call.op ≠ .stop → call.pc.answer? = none → res = some true)) := by
  constructor
  · have honce : ∀ v op v', stopToken.enter false v op ≠ (v', .sleep) := by
      intro v op v' henter
      cases op <;> simp_all [stopToken]
    have hbound := Monitor.run_bounded honce hrun hcalls
    have hwork := MonitorState.work_le (s := s)
    omega
  · intro hstuck c call hcall
    have hraised : s'.value = true :=
      hrun.stable (P := fun s => s.value = true)
        (fun _ _ _ h hstep => raised_step h (.of_next hstep)) hstopped
    obtain ⟨call', hcall', hop⟩ : ∃ call', s'.calls[c]? = some call' ∧ call'.op = call.op := by
      refine hrun.stable (P := fun s => ∃ call', s.calls[c]? = some call' ∧ call'.op = call.op)
        ?_ ⟨call, hcall, rfl⟩
      intro t l t' ⟨old, hold, hop⟩ hstep
      obtain ⟨new, hnew, hop', -⟩ := (MonitorStep.of_next hstep).keeps hold
      exact ⟨new, hnew, hop'.trans hop⟩
    rcases Monitor.no_lost_wakeup stopToken_alerts (hreach.run hrun) hstuck hcall' with
      ⟨res, hreturned⟩ | ⟨-, -, hdown⟩
    · have hreturned' : call' = ⟨call.op, .returned res⟩ := by
        rw [← hop, ← hreturned]
      refine ⟨res, hreturned' ▸ hcall', ?_⟩
      intro hwaits hnone
      have hheeds : Heeds c s' := by
        refine hrun.stable (fun _ _ _ h hstep => heeds_step h (.of_next hstep)) ⟨hstopped, ?_⟩
        exact ⟨call, hcall, hwaits, by simp [hnone]⟩
      obtain ⟨last, hlast, -, hanswers⟩ := hheeds.answers
      apply hanswers res
      rw [← Option.some.inj (hcall'.symm.trans hlast), hreturned]
      rfl
    · rw [hraised] at hdown
      contradiction

end wakes

/-- Call 3 notifies, and the sleepers find the flag up. -/
def wokenCalls : List (MonitorLabel StopOp) :=
  [.step 3, .step 3, .step 3, .step 1, .step 1, .step 1, .step 1, .step 0, .step 0, .step 0,
   .step 0]

theorem stop_wakes_run : ∃ s s' tr, Reachable stopToken.system s ∧
    s.calls[0]? = some ⟨.wait, .asleep⟩ ∧ Run stopToken.system s tr s' ∧
    tr.map Prod.snd = wokenCalls ∧ tr.length ≤ 36 ∧
    s'.calls[0]? = some ⟨.wait, .returned (some true)⟩ := by
  obtain ⟨before, s, hexec, hraised, hcalls⟩ : ∃ tr s,
      exec stopToken.next stopToken.start stoppedCalls = some (tr, s) ∧ s.value = true ∧
      s.calls = [⟨.wait, .asleep⟩, ⟨.wait, .asleep⟩, ⟨.isStopped, .returned (some false)⟩,
        ⟨.stop, .leaving none true⟩] := ⟨_, _, rfl, rfl, rfl⟩
  have hreach : Reachable stopToken.system s := ⟨before, _, rfl, run_of_exec hexec⟩
  obtain ⟨tr, s', hexec', hlabels, hcalls'⟩ : ∃ tr s',
      exec stopToken.next s wokenCalls = some (tr, s') ∧ tr.map Prod.snd = wokenCalls ∧
      s'.calls = [⟨.wait, .returned (some true)⟩, ⟨.wait, .returned (some true)⟩,
        ⟨.isStopped, .returned (some false)⟩, ⟨.stop, .returned none⟩] := by
    obtain rfl := (Prod.mk.inj (Option.some.inj hexec)).2
    exact ⟨_, _, rfl, rfl, rfl⟩
  have hrun : Run stopToken.system s tr s' := run_of_exec hexec'
  have hnone : ∀ e ∈ tr, ∀ op, e.2 ≠ .invoke op := by
    intro e he op heq
    have hlabel : MonitorLabel.invoke op ∈ wokenCalls := by
      rw [← hlabels, ← heq]
      exact List.mem_map_of_mem he
    simp [wokenCalls] at hlabel
  have hstuck : ∀ c, stopToken.next s' (.step c) = none := by
    intro c
    rw [Monitor.next, Monitor.advance, hcalls']
    rcases c with _ | _ | _ | _ | c <;> rfl
  obtain ⟨hbound, hreturned⟩ := stop_wakes hreach hraised hrun hnone
  rw [hcalls] at hbound
  obtain ⟨res, hcall, hanswer⟩ := hreturned hstuck 0 ⟨.wait, .asleep⟩ (by rw [hcalls]; rfl)
  obtain rfl : res = some true := hanswer (by decide) rfl
  exact ⟨s, s', tr, hreach, by rw [hcalls]; rfl, hrun, hlabels, hbound, hcall⟩

/-! ### `DdsHealth` -/

/-- `DdsHealth`. Its `Mutex` has no condition variable, so that nobody sleeps. -/
def healthMonitor : Monitor HealthState HealthOp (Option HealthSnapshot) where
  init := {}
  enter
    | _, state, .record kind detail => (state.record kind detail, .answer none false)
    | _, state, .snapshot => (state, .answer (some state.snapshot) false)

theorem healthMonitor_implements : healthMonitor.Implements healthObject where
  init := rfl
  answers := by
    intro first state op state' res notify henter
    cases op with
    | record kind detail =>
      simp only [healthMonitor, Prod.mk.injEq, Exit.answer.injEq] at henter
      obtain ⟨rfl, rfl, -⟩ := henter
      rfl
    | snapshot =>
      simp only [healthMonitor, Prod.mk.injEq, Exit.answer.injEq] at henter
      obtain ⟨rfl, rfl, -⟩ := henter
      rfl
  sleeps := by
    intro first state op state' henter
    cases op <;> simp [healthMonitor] at henter

/-- **The health handle, lock by lock**: the calls have one order that respects
    real time, a snapshot reports the records before it, and any two snapshots
    agree on what they both show. -/
theorem health_linearizes
    {tr : Trace (MonitorState HealthState HealthOp (Option HealthSnapshot)) (MonitorLabel HealthOp)}
    {s : MonitorState HealthState HealthOp (Option HealthSnapshot)}
    (h : InitRun healthMonitor.system tr s) :
    ∃ order, healthObject.Linearizes (observe healthMonitor.events tr) order s.value ∧
      (∀ before c snapshot after, order = before ++ ⟨c, .snapshot, some snapshot⟩ :: after →
        snapshot.Reports (recordsOf before)) ∧
      ∀ c c' snapshot snapshot', ⟨c, .snapshot, some snapshot⟩ ∈ order →
        ⟨c', .snapshot, some snapshot'⟩ ∈ order →
        ∀ event ∈ snapshot.recentEvents, ∀ event' ∈ snapshot'.recentEvents,
          event.sequence = event'.sequence → event = event' := by
  have hlinear := Monitor.linearizes healthMonitor_implements h
  refine ⟨_, hlinear, ?_, ?_⟩
  · intro before c snapshot after heq
    have hlegal := hlinear.legal
    rw [heq] at hlegal
    exact reports_of_legal hlegal
  · intro c c' snapshot snapshot' hmem hmem'
    exact agree_of_legal hlinear.legal hmem hmem'

end UpTransportDds
