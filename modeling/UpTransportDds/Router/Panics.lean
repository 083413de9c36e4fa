import UpTransportDds.Router.Accounting

/-! # Counting callback panics

  `run_callback` does not ask a join error for its cause. It takes it for a
  panic of the callback if the stop flag is not set, and for a cancellation if
  it is. Apart from that, `catch_unwind` counts what unwinds from the job.

  The counter is therefore off by the panics that were ignored and by the
  cancellations and other unwinds that were counted, and by nothing else.
-/

namespace UpTransportDds

open LTS

variable {UUri Listener Sample Message : Type}

/-! ### Futures that have been decided on -/

/-- How many of the futures have ended by a panic. -/
def panics (tasks : List (Task Message)) : Nat :=
  tasks.countP fun task => task.phase.outcome = some .panicked

/-- Is `run_callback` still to decide on the last future? -/
def Dispatcher.undecided : Dispatcher Message → Bool
  | .waiting _ _ => true
  | .checkStop _ _ => true
  | .checkFinished _ _ => true
  | .joining _ _ => true
  | .failed => true
  | _ => false

/-- The callback panics that are about to be recorded. -/
def Dispatcher.counts : Dispatcher Message → Nat
  | .counting => 1
  | .caught => 1
  | _ => 0

/-- Is the dispatcher between two jobs, or done with all of them? -/
def Dispatcher.betweenJobs : Dispatcher Message → Bool
  | .receiving => true
  | .exited => true
  | _ => false

namespace State

/-- How the last future ended. -/
def lastOutcome (s : State UUri Listener Sample Message) : Option Outcome :=
  (s.tasks.getLast?).bind (·.phase.outcome)

/-- The futures that `run_callback` has decided on. -/
def judged (s : State UUri Listener Sample Message) : List (Task Message) :=
  if s.dispatcher.undecided then s.tasks.dropLast else s.tasks

end State

/-! ### Where the counter goes wrong -/

/-- A panic is taken for a cancellation. -/
def missed (s : State UUri Listener Sample Message) : Label UUri Listener Sample → List Unit
  | .dispatcher =>
    match s.dispatcher with
    | .failed => if s.stopped = true ∧ s.lastOutcome = some .panicked then [()] else []
    | _ => []
  | _ => []

/-- A cancellation is taken for a panic, or the job unwinds when its callback
    has long ended. -/
def spurious (s : State UUri Listener Sample Message) : Label UUri Listener Sample → List Unit
  | .dispatcher =>
    match s.dispatcher with
    | .failed => if s.stopped = false ∧ s.lastOutcome ≠ some .panicked then [()] else []
    | _ => []
  | .jobUnwind => [()]
  | _ => []

/-- The step does not mistake one cause for another. -/
def Attributed (s : State UUri Listener Sample Message) (l : Label UUri Listener Sample) : Prop :=
  missed s l = [] ∧ spurious s l = []

instance (s : State UUri Listener Sample Message) (l : Label UUri Listener Sample) :
    Decidable (Attributed s l) :=
  inferInstanceAs (Decidable (missed s l = [] ∧ spurious s l = []))

/-- After a join error, no cause is mistaken if the stop flag is unset exactly
    for a future that has panicked. -/
theorem attributed_failed {s : State UUri Listener Sample Message} (hpc : s.dispatcher = .failed) :
    Attributed s (.dispatcher : Label UUri Listener Sample) ↔
      (s.stopped = false ↔ s.lastOutcome = some .panicked) := by
  simp only [Attributed, missed, spurious, hpc]
  cases s.stopped <;> by_cases hpanic : s.lastOutcome = some .panicked <;> simp [hpanic]

/-! ### The last future -/

section last
variable {s : State UUri Listener Sample Message} {t : TaskId}

/-- Changing the last element leaves the others alone. -/
theorem dropLast_modify {α : Type} {xs : List α} {i : Nat} (f : α → α) (h : i + 1 = xs.length) :
    (xs.modify i f).dropLast = xs.dropLast := by
  apply List.ext_getElem?
  intro j
  simp only [List.getElem?_dropLast, List.length_modify, List.getElem?_modify]
  split
  · have hne : i ≠ j := by omega
    simp [hne]
  · rfl

theorem panics_dropLast :
    panics s.tasks =
      panics s.tasks.dropLast + if s.lastOutcome = some .panicked then 1 else 0 := by
  unfold State.lastOutcome panics
  rcases List.eq_nil_or_concat s.tasks with hnil | ⟨front, task, hlast⟩
  · simp [hnil]
  · simp [hlast, List.countP_append, List.countP_singleton]

theorem lastOutcome_eq (h : t + 1 = s.tasks.length) : s.lastOutcome = s.outcome t := by
  have ht : s.tasks.length - 1 = t := Nat.sub_eq_of_eq_add h.symm
  rw [State.lastOutcome, State.outcome, List.getLast?_eq_getElem?, ht]

theorem undecided_of_task {d : Dispatcher Message} (h : d.task = some t) : d.undecided = true := by
  cases d <;> simp_all [Dispatcher.task, Dispatcher.undecided]

end last

/-- The dispatcher waits for the last future. -/
def WaitsForLast (dispatcher : Dispatcher Message) (tasks : List (Task Message)) : Prop :=
  ∀ t, dispatcher.task = some t → t + 1 = tasks.length

/-- A future that moves is the last one, and has not been decided on. -/
theorem judged_withPhase {s : State UUri Listener Sample Message}
    (hserial : Serial s.dispatcher s.tasks)
    (hlast : WaitsForLast s.dispatcher s.tasks) {t : TaskId} {task : Task Message} {phase : Phase}
    (htask : s.tasks[t]? = some task) (hlive : task.phase.done = false) :
    (s.setPhase t phase).judged = s.judged := by
  have hwaited : s.dispatcher.task = some t := hserial.live t task htask hlive
  have hundecided := undecided_of_task hwaited
  simp only [State.judged, State.setPhase_dispatcher, State.setPhase_tasks, hundecided, if_true]
  exact dropLast_modify _ (hlast t hwaited)

section steps
variable [DecidableEq UUri] [UriMatches UUri] [DecidableEq Listener]
variable {env : Env UUri Sample Message} {s s' : State UUri Listener Sample Message}
  {l : Label UUri Listener Sample}

theorem waitsForLast_step (hi : WaitsForLast s.dispatcher s.tasks) (h : Step env s l s') :
    WaitsForLast s'.dispatcher s'.tasks := by
  have hsame : ∀ {d : Dispatcher Message} {tasks : List (Task Message)},
      d.task = s.dispatcher.task → tasks.length = s.tasks.length → WaitsForLast d tasks := by
    intro d tasks htask hlength t ht
    rw [hlength]
    exact hi t (htask ▸ ht)
  have hnone : ∀ {d : Dispatcher Message} {tasks : List (Task Message)}, d.task = none →
      WaitsForLast d tasks := by
    intro d tasks htask t ht
    rw [htask] at ht
    contradiction
  cases h with
  | spawn hpc =>
    intro t ht
    obtain rfl : s.tasks.length = t := Option.some.inj ht
    simp
  | recv hpc _ => exact hnone rfl
  | recvClosed hpc _ _ => exact hnone rfl
  | beginInactive hpc _ => exact hnone rfl
  | beginActive hpc _ => exact hnone rfl
  | leaveWait hpc _ => exact hsame (by rw [hpc]; rfl) rfl
  | stopSeen hpc _ => exact hsame (by rw [hpc]; rfl) rfl
  | stopUnseen hpc _ => exact hsame (by rw [hpc]; rfl) rfl
  | finishSeen hpc _ => exact hsame (by rw [hpc]; rfl) rfl
  | abort hpc _ => exact hsame (by rw [hpc]; rfl) (List.length_modify ..)
  | joinOk hpc _ => exact hnone rfl
  | joinError hpc _ _ => exact hnone rfl
  | ignore hpc _ => exact hnone rfl
  | blame hpc _ => exact hnone rfl
  | count hpc => exact hnone rfl
  | jobDone hpc => exact hnone rfl
  | jobUnwind hpc => exact hnone rfl
  | countCaught hpc => exact hnone rfl
  | poll t htask _ _ _ _ => exact hsame rfl (List.length_modify ..)
  | suspend t htask _ _ => exact hsame rfl (List.length_modify ..)
  | wakeTask t _ htask _ _ => exact hsame rfl (List.length_modify ..)
  | finish t _ htask _ _ => exact hsame rfl (List.length_modify ..)
  | cancel t htask _ _ _ => exact hsame rfl (List.length_modify ..)
  | release t htask _ => exact hsame rfl (List.length_modify ..)
  | releaseLast t htask _ => exact hsame rfl (List.length_modify ..)
  | complete t htask => exact hsame rfl (List.length_modify ..)
  | _ => exact hi

theorem reachable_waitsForLast (h : Reachable (router env) s) :
    WaitsForLast s.dispatcher s.tasks := by
  refine invariant (P := fun s => WaitsForLast s.dispatcher s.tasks) ?_ ?_ h
  · rintro _ rfl t ht
    contradiction
  · intro s l s' hi hstep
    exact waitsForLast_step hi (Step.of_next hstep)

/-- Only the two recording steps of the dispatcher report callback panics. -/
theorem panics_recorded (h : Step env s l s') :
    (recorded env s l).countP (fun error => error.1 = .callbackPanic) =
      match l with
      | .dispatcher => s.dispatcher.counts
      | _ => 0 := by
  cases h with
  | deleteContained error hpc => cases error <;> simp [recorded, hpc]
  | deleteParticipant error hpc => cases error <;> simp [recorded, hpc]
  | pollerPanic hpc => rfl
  | _ => simp [recorded, Dispatcher.counts, *]

/-! ### Balance -/

/-- What the step does to the futures decided on and to the panics about to be
    recorded. -/
theorem balance_judged (hserial : Serial s.dispatcher s.tasks)
    (hlast : WaitsForLast s.dispatcher s.tasks) (h : Step env s l s') :
    (match l with | .dispatcher => s.dispatcher.counts | _ => 0) + s'.dispatcher.counts +
        (missed s l).length + panics s.judged =
      s.dispatcher.counts + panics s'.judged + (spurious s l).length := by
  have hpanics := panics_dropLast (s := s)
  have hmove : ∀ {t : TaskId} {task : Task Message} {phase : Phase},
      s.tasks[t]? = some task → task.phase.done = false →
      0 + s.dispatcher.counts + 0 + panics s.judged =
        s.dispatcher.counts + panics (s.setPhase t phase).judged + 0 := by
    intro t task phase htask hlive
    rw [judged_withPhase hserial hlast htask hlive]
    omega
  cases h with
  | @abort job t hpc _ =>
    have hdrop := dropLast_modify (fun task : Task Message => { task with aborted := true })
      (hlast t (by rw [hpc]; rfl))
    simp [missed, spurious, Dispatcher.counts, State.judged, Dispatcher.undecided, hpc, hdrop]
  | @joinOk job t hpc hout =>
    have hreturned : s.lastOutcome = some .returned :=
      (lastOutcome_eq (hlast t (by rw [hpc]; rfl))).trans hout
    simp [missed, spurious, Dispatcher.counts, State.judged, Dispatcher.undecided, hpc, hpanics,
      hreturned]
  | ignore hpc hstop =>
    by_cases hpanic : s.lastOutcome = some .panicked
    -- a panic that is never counted
    · simp [missed, spurious, Dispatcher.counts, State.judged, Dispatcher.undecided, hpc, hstop,
        hpanic, hpanics]
      omega
    · simp [missed, spurious, Dispatcher.counts, State.judged, Dispatcher.undecided, hpc, hstop,
        hpanic, hpanics]
  | blame hpc hstop =>
    by_cases hpanic : s.lastOutcome = some .panicked
    · simp [missed, spurious, Dispatcher.counts, State.judged, Dispatcher.undecided, hpc, hstop,
        hpanic, hpanics]
      omega
    -- a cancellation that is going to be counted
    · simp [missed, spurious, Dispatcher.counts, State.judged, Dispatcher.undecided, hpc, hstop,
        hpanic, hpanics]
      omega
  | jobUnwind hpc =>
    simp [missed, spurious, Dispatcher.counts, State.judged, Dispatcher.undecided, hpc]
    omega
  | poll t htask hpoll _ _ _ =>
    exact hmove htask (Phase.not_done_of_holdsGuard (Phase.holdsGuard_of_pollable hpoll))
  | suspend t htask hpoll _ => exact hmove htask (by rw [hpoll]; rfl)
  | wakeTask t _ htask hpoll _ => exact hmove htask (by rw [hpoll]; rfl)
  | finish t _ htask hpoll _ => exact hmove htask (by rw [hpoll]; rfl)
  | cancel t htask hpoll _ _ =>
    exact hmove htask (Phase.not_done_of_holdsGuard (Phase.holdsGuard_of_pollable hpoll))
  | release t htask _ => exact hmove htask rfl
  | releaseLast t htask _ => exact hmove htask rfl
  | complete t htask => exact hmove htask rfl
  -- the dispatcher decides nothing
  | recv | recvClosed | beginInactive | beginActive | spawn | leaveWait | stopSeen | stopUnseen
  | finishSeen | joinError | count | jobDone | countCaught =>
    simp [missed, spurious, Dispatcher.counts, State.judged, Dispatcher.undecided, *]
  | _ => simp [missed, spurious, State.judged]

/-- **Step lemma**: a step keeps the balance between the counter and the
    futures decided on. -/
theorem balance_step (hserial : Serial s.dispatcher s.tasks)
    (hlast : WaitsForLast s.dispatcher s.tasks) (h : Step env s l s') :
    s'.health.callbackPanics + s'.dispatcher.counts + (missed s l).length + panics s.judged =
      s.health.callbackPanics + s.dispatcher.counts + panics s'.judged +
        (spurious s l).length := by
  have hcounter : s'.health.callbackPanics = s.health.callbackPanics +
      (recorded env s l).countP (fun error => error.1 = .callbackPanic) := by
    have hcount := s.health.counter_recordAll (recorded env s l) .callbackPanic
    rw [← health_step h] at hcount
    exact hcount
  have hjudged := balance_judged hserial hlast h
  rw [hcounter, panics_recorded h]
  omega

end steps

/-! ### Runs -/

section runs
variable [DecidableEq UUri] [UriMatches UUri] [DecidableEq Listener]
variable {env : Env UUri Sample Message} {s : State UUri Listener Sample Message}
  {tr : Trace (State UUri Listener Sample Message) (Label UUri Listener Sample)}

/-- In every run, the counter is off by the causes that were mistaken. -/
theorem run_balance (h : InitRun (router env) tr s) :
    s.health.callbackPanics + s.dispatcher.counts + (observe missed tr).length =
      panics s.judged + (observe spurious tr).length := by
  refine run_invariant (P := fun tr s => s.health.callbackPanics + s.dispatcher.counts +
    (observe missed tr).length = panics s.judged + (observe spurious tr).length) ?_ ?_ h
  · rintro s rfl
    rfl
  · intro tr s l s' hrun hi hstep
    have hreach := hrun.reachable
    have hbalance := balance_step (reachable_serial hreach) (reachable_waitsForLast hreach)
      (Step.of_next hstep)
    rw [observe_append, observe_append, observe_single, observe_single, List.length_append,
      List.length_append]
    omega

/-- Between two jobs, the counter is right exactly if as many panics were
    taken for something else as something else was taken for a panic. -/
theorem callbackPanics_iff (h : InitRun (router env) tr s)
    (hbetween : s.dispatcher.betweenJobs = true) :
    s.health.callbackPanics = panics s.tasks ↔
      (observe missed tr).length = (observe spurious tr).length := by
  have hbalance := run_balance h
  have hdecided : s.dispatcher.counts = 0 ∧ s.judged = s.tasks := by
    unfold State.judged
    cases hpc : s.dispatcher <;>
      simp_all [Dispatcher.betweenJobs, Dispatcher.counts, Dispatcher.undecided]
  rw [hdecided.1, hdecided.2] at hbalance
  omega

/-- **Callback panics are counted exactly**, in runs that mistake no cause for
    another: between two jobs the counter is the number of listener futures
    that have ended by a panic. -/
theorem panics_counted (h : InitRun (router env) tr s) (hall : ∀ e ∈ tr, Attributed e.1 e.2)
    (hbetween : s.dispatcher.betweenJobs = true) :
    s.health.callbackPanics = panics s.tasks := by
  rw [callbackPanics_iff h hbetween]
  have hmissed : observe missed tr = [] :=
    List.flatMap_eq_nil_iff.mpr fun e he => (hall e he).1
  have hspurious : observe spurious tr = [] :=
    List.flatMap_eq_nil_iff.mpr fun e he => (hall e he).2
  rw [hmissed, hspurious]

/-- One message reaches one listener, and its future is spawned. -/
def spawnLabels : List TopicLabel :=
  [.enter .external (.register ⟨7⟩ none 0), .advance 0,
   .poller, .take (.ok [some ("peer", 7)]), .poller, .poller, .poller,
   .dispatcher, .dispatcher, .dispatcher]

/-- The callback panics and is joined while the transport is alive. -/
def panicRun : List TopicLabel :=
  spawnLabels ++ [.poll 0, .finish 0 true, .release 0, .complete 0,
    .dispatcher, .dispatcher, .dispatcher, .dispatcher, .dispatcher, .dispatcher]

theorem panics_counted_run :
    ∃ (tr : Trace TopicState TopicLabel) (s : TopicState), InitRun topicRouter tr s ∧
      (∀ e ∈ tr, Attributed e.1 e.2) ∧ s.health.callbackPanics = panics s.tasks ∧
      panics s.tasks = 1 := by
  obtain ⟨tr, s, hexec, hall, hbetween, hpanics⟩ : ∃ tr s,
      exec (State.next (topicEnv 4 2)) State.start panicRun = some (tr, s) ∧
        tr.all (fun e => decide (Attributed e.1 e.2)) = true ∧
        s.dispatcher.betweenJobs = true ∧ panics s.tasks = 1 := ⟨_, _, rfl, rfl, rfl, rfl⟩
  have hrun := initRun_of_exec hexec
  have hattributed : ∀ e ∈ tr, Attributed e.1 e.2 := by
    intro e he
    simpa using List.all_eq_true.mp hall e he
  exact ⟨tr, s, hrun, hattributed, panics_counted hrun hattributed hbetween, hpanics⟩

/-- The runtime is shut down under a callback that has not started. -/
def cancelRun : List TopicLabel :=
  spawnLabels ++ [.shutdownRuntime, .cancel 0, .release 0, .complete 0,
    .dispatcher, .dispatcher, .dispatcher, .dispatcher, .dispatcher, .dispatcher]

/-- The callback panics, and the stop flag is set before it is looked at for
    the last time. -/
def latePanicRun : List TopicLabel :=
  spawnLabels ++ [.poll 0, .finish 0 true, .release 0, .complete 0,
    .dispatcher, .dispatcher, .dispatcher, .enterDrop .external, .drop,
    .dispatcher, .dispatcher]

/-- A cancellation is counted, and a panic is not. -/
theorem callback_panics_miscounted :
    (∃ (tr : Trace TopicState TopicLabel) (s : TopicState), InitRun topicRouter tr s ∧
      s.dispatcher.betweenJobs = true ∧ s.health.callbackPanics = 1 ∧ panics s.tasks = 0) ∧
    ∃ (tr : Trace TopicState TopicLabel) (s : TopicState), InitRun topicRouter tr s ∧
      s.dispatcher.betweenJobs = true ∧ s.health.callbackPanics = 0 ∧ panics s.tasks = 1 := by
  constructor
  · obtain ⟨tr, s, hexec, hs⟩ : ∃ tr s,
        exec (State.next (topicEnv 4 2)) State.start cancelRun = some (tr, s) ∧
          s.dispatcher.betweenJobs = true ∧ s.health.callbackPanics = 1 ∧ panics s.tasks = 0 :=
      ⟨_, _, rfl, rfl, rfl, rfl⟩
    exact ⟨tr, s, initRun_of_exec hexec, hs⟩
  · obtain ⟨tr, s, hexec, hs⟩ : ∃ tr s,
        exec (State.next (topicEnv 4 2)) State.start latePanicRun = some (tr, s) ∧
          s.dispatcher.betweenJobs = true ∧ s.health.callbackPanics = 0 ∧ panics s.tasks = 1 :=
      ⟨_, _, rfl, rfl, rfl, rfl⟩
    exact ⟨tr, s, initRun_of_exec hexec, hs⟩

end runs

end UpTransportDds
