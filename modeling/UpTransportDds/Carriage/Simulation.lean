import UpTransportDds.Carriage.Frame
import UpTransportDds.Router.Barrier

/-! # Every family is the router of frames

  One lemma for each step function says that a family's step, seen as a step
  on frames, is the step of the router of frames. Only the verification of
  filters differs, so the calls are assumed to pass it.
-/

namespace UpTransportDds

open LTS

variable {UUri Listener Sample Message : Type}

/-! ### One step -/

/-- The filters that a call is still to verify. -/
def CallPc.filters : CallPc UUri Listener → Option (UUri × Option UUri)
  | .registering source sink _ => some (source, sink)
  | .removing source sink _ => some (source, sink)
  | _ => none

section steps
variable {env : Env UUri Sample Message} {view : Message → Frame UUri}
  {s : State UUri Listener Sample Message}

theorem trySend_map (job : Job Message) :
    (s.map (env.verdict view) view).trySend (frameEnv env.config env.workers) (job.map view) =
      (s.trySend env job).map (List.map (Job.map view)) := by
  unfold State.trySend
  by_cases hended : s.dispatcher.ended = true
  · simp [hended, Except.map]
  · by_cases hroom : s.queue.length < env.config.dispatchCapacity
    · simp [hended, hroom, Except.map]
    · simp [hended, hroom, Except.map]

theorem pollerNext_map [UriMatches UUri] (h : env.carriage.Shows view) :
    (s.pollerNext env).map (State.map (env.verdict view) view) =
      ((s.map (env.verdict view) view).pollerNext (frameEnv env.config env.workers)).map
        State.quiet := by
  unfold State.pollerNext
  rw [State.map_poller]
  match hpc : s.poller with
  | .idle => cases hstop : s.stopped <;> simp [hstop, State.map, State.quiet, Poller.map]
  | .batch [] => simp [State.map, State.quiet, Poller.map]
  | .batch ((none, k) :: rest) => simp [State.map, State.quiet, Poller.map, Taken.map]
  | .batch ((some sample, k) :: rest) =>
    have hframe := receive_verdict env view sample
    cases hverdict : env.carriage.receive env.config.toDdsConfig sample with
    | own =>
      rw [hverdict] at hframe
      simp [hverdict, hframe, Verdict.map, State.map, State.quiet, Poller.map, Taken.map]
    | malformed detail =>
      rw [hverdict] at hframe
      simp [hverdict, hframe, Verdict.map, State.map, State.quiet, Poller.map, Taken.map,
        HealthState.eraseDetails_record]
    | accepted message =>
      rw [hverdict] at hframe
      simp [hverdict, hframe, Verdict.map, State.map, State.quiet, Poller.map, Taken.map, h.source,
        h.sink]
  | .fanout _ _ [] rest => simp [State.map, State.quiet, Poller.map]
  | .fanout k message (reg :: regs) rest =>
    have hsend : (s.map (env.verdict view) view).trySend (frameEnv env.config env.workers)
        ⟨k, reg, view message⟩ = (s.trySend env ⟨k, reg, message⟩).map (List.map (Job.map view)) :=
      trySend_map ⟨k, reg, message⟩
    simp only [Poller.map]
    rw [hsend]
    cases s.trySend env ⟨k, reg, message⟩ <;>
      simp [Except.map, State.map, State.quiet, Poller.map]
  | .rejecting detail k message reg regs rest =>
    simp [State.map, State.quiet, Poller.map, HealthState.eraseDetails_record]
  | .taking => rfl
  | .exited => rfl
  | .panicked _ _ => rfl

theorem take_map (result : Except DdsError (List (Option Sample))) :
    (s.take env result).map (State.map (env.verdict view) view) =
      ((s.map (env.verdict view) view).take (frameEnv env.config env.workers)
        (result.map (List.map (Option.map (env.verdict view))))).map State.quiet := by
  unfold State.take
  rw [State.map_poller]
  match hpc : s.poller, result with
  | .taking, .ok samples =>
    simp [State.map, State.quiet, Poller.map, Except.map, List.zipIdx_map, Taken.map]
  | .taking, .error error =>
    by_cases hkind : error.kind = .noData
    · simp [hkind, State.map, State.quiet, Poller.map, Except.map]
    · simp [hkind, State.map, State.quiet, Poller.map, Except.map,
        HealthState.eraseDetails_record]
  | .idle, _ => rfl
  | .batch _, _ => rfl
  | .fanout _ _ _ _, _ => rfl
  | .rejecting _ _ _ _ _ _, _ => rfl
  | .exited, _ => rfl
  | .panicked _ _, _ => rfl

theorem pollerPanic_map :
    s.pollerPanic.map (State.map (env.verdict view) view) =
      (s.map (env.verdict view) view).pollerPanic.map State.quiet := by
  unfold State.pollerPanic
  rw [State.map_poller, ended_map, toSubmit_map, unhandled_map]
  cases s.poller.ended with
  | true => rfl
  | false => simp [State.map, State.quiet, Poller.map]

theorem dispatcherNext_map :
    s.dispatcherNext.map (State.map (env.verdict view) view) =
      (s.map (env.verdict view) view).dispatcherNext.map State.quiet := by
  unfold State.dispatcherNext
  rw [State.map_dispatcher]
  match hpc : s.dispatcher with
  | .receiving =>
    simp only [Dispatcher.map, State.map_queue, State.map_poller, ended_map]
    cases hqueue : s.queue with
    | nil => cases s.poller.ended <;> simp [hqueue, State.map, State.quiet, Dispatcher.map]
    | cons job queue => simp [State.map, State.quiet, Dispatcher.map]
  | .starting job =>
    cases hbegin : s.registry.begin job.reg <;>
      simp [hbegin, State.map, State.quiet, Dispatcher.map]
  | .spawning job =>
    cases hshut : s.shutdown <;> simp [hshut, State.map, State.quiet, Dispatcher.map, Task.map]
  | .waiting job t =>
    simp only [Dispatcher.map, finished_map, State.map_stopped]
    cases s.finished t || s.stopped with
    | true => simp [State.map, State.quiet, Dispatcher.map]
    | false => rfl
  | .checkStop job t =>
    cases hstop : s.stopped <;> simp [hstop, State.map, State.quiet, Dispatcher.map]
  | .checkFinished job t =>
    simp only [Dispatcher.map, finished_map]
    cases s.finished t with
    | true => simp [State.map, State.quiet, Dispatcher.map]
    | false => simp [State.map, State.quiet, Dispatcher.map, abort_map]
  | .joining job t =>
    simp only [Dispatcher.map, outcome_map]
    match s.outcome t with
    | some .returned => simp [State.map, State.quiet, Dispatcher.map]
    | some .panicked => simp [State.map, State.quiet, Dispatcher.map]
    | some .cancelled => simp [State.map, State.quiet, Dispatcher.map]
    | none => rfl
  | .failed => cases hstop : s.stopped <;> simp [hstop, State.map, State.quiet, Dispatcher.map]
  | .counting => simp [State.map, State.quiet, Dispatcher.map, HealthState.eraseDetails_record]
  | .finishing => simp [State.map, State.quiet, Dispatcher.map]
  | .caught => simp [State.map, State.quiet, Dispatcher.map, HealthState.eraseDetails_record]
  | .exited => rfl

theorem jobUnwind_map :
    s.jobUnwind.map (State.map (env.verdict view) view) =
      (s.map (env.verdict view) view).jobUnwind.map State.quiet := by
  unfold State.jobUnwind
  rw [State.map_dispatcher]
  match hpc : s.dispatcher with
  | .finishing => simp [State.map, State.quiet, Dispatcher.map]
  | .receiving | .starting _ | .spawning _ | .waiting _ _ | .checkStop _ _ | .checkFinished _ _
  | .joining _ _ | .failed | .counting | .caught | .exited => rfl

theorem setPhase_map (t : TaskId) (phase : Phase) :
    (s.setPhase t phase).map (env.verdict view) view =
      ((s.map (env.verdict view) view).setPhase t phase).quiet := by
  simp [State.map, State.quiet, State.setPhase]

theorem poll_map (t : TaskId) :
    (s.poll env t).map (State.map (env.verdict view) view) =
      ((s.map (env.verdict view) view).poll (frameEnv env.config env.workers) t).map
        State.quiet := by
  unfold State.poll
  rw [State.map_tasks, List.getElem?_map, busy_map]
  cases htask : s.tasks[t]? with
  | none => rfl
  | some task =>
    simp only [Option.map_some, Task.map_phase, Task.map_aborted, State.map_shutdown,
      State.map_driven, slotted_map, frameEnv_workers]
    split
    · exact congrArg some (setPhase_map t .polling)
    · rfl

theorem endPoll_map (t : TaskId) (phase : Phase) :
    (s.endPoll t phase).map (State.map (env.verdict view) view) =
      ((s.map (env.verdict view) view).endPoll t phase).map State.quiet := by
  unfold State.endPoll
  rw [State.map_tasks, List.getElem?_map, inCall_map]
  cases htask : s.tasks[t]? with
  | none => rfl
  | some task =>
    simp only [Option.map_some, Task.map_phase]
    split
    · exact congrArg some (setPhase_map t phase)
    · rfl

theorem wakeTask_map (t : TaskId) (occupant : Occupant) :
    (s.wakeTask t occupant).map (State.map (env.verdict view) view) =
      ((s.map (env.verdict view) view).wakeTask t occupant).map State.quiet := by
  unfold State.wakeTask
  rw [State.map_tasks, List.getElem?_map, canWake_map]
  cases htask : s.tasks[t]? with
  | none => rfl
  | some task =>
    simp only [Option.map_some, Task.map_phase]
    split
    · exact congrArg some (setPhase_map t _)
    · rfl

theorem cancel_map (t : TaskId) :
    (s.cancel env t).map (State.map (env.verdict view) view) =
      ((s.map (env.verdict view) view).cancel (frameEnv env.config env.workers) t).map
        State.quiet := by
  unfold State.cancel
  rw [State.map_tasks, List.getElem?_map, busy_map]
  cases htask : s.tasks[t]? with
  | none => rfl
  | some task =>
    simp only [Option.map_some, Task.map_phase, Task.map_aborted, State.map_shutdown,
      State.map_driven, slotted_map, frameEnv_workers]
    split
    · exact congrArg some (setPhase_map t _)
    · rfl

theorem release_map (t : TaskId) :
    (s.release t).map (State.map (env.verdict view) view) =
      ((s.map (env.verdict view) view).release t).map State.quiet := by
  unfold State.release
  rw [State.map_tasks, List.getElem?_map]
  match htask : s.tasks[t]? with
  | some ⟨job, _, .dropping outcome⟩ =>
    simp only [Option.map_some, Task.map, Job.map_reg, State.map_registry]
    split <;> rename_i hidle
    · simp [State.map, State.quiet, State.setPhase, State.notifyIdle] at hidle ⊢
      simp [hidle]
    · simp [State.map, State.quiet, State.setPhase] at hidle ⊢
      simp [hidle]
  | some ⟨_, _, .spawned⟩ | some ⟨_, _, .polling⟩ | some ⟨_, _, .suspended⟩
  | some ⟨_, _, .woken _⟩ | some ⟨_, _, .released _⟩ | some ⟨_, _, .complete _⟩ | none => rfl

theorem complete_map (t : TaskId) :
    (s.complete t).map (State.map (env.verdict view) view) =
      ((s.map (env.verdict view) view).complete t).map State.quiet := by
  unfold State.complete
  rw [State.map_tasks, List.getElem?_map]
  match htask : s.tasks[t]? with
  | some ⟨_, _, .released outcome⟩ => exact congrArg some (setPhase_map t _)
  | some ⟨_, _, .spawned⟩ | some ⟨_, _, .polling⟩ | some ⟨_, _, .suspended⟩
  | some ⟨_, _, .woken _⟩ | some ⟨_, _, .dropping _⟩ | some ⟨_, _, .complete _⟩ | none => rfl

theorem enter_map (site : Site) (request : Request UUri Listener) :
    (s.enter env site request).map (State.map (env.verdict view) view) =
      ((s.map (env.verdict view) view).enter (frameEnv env.config env.workers) site request).map
        State.quiet := by
  unfold State.enter
  rw [State.map_drop, canEnter_map, frameEnv_workers]
  split
  · simp [State.map, State.quiet]
  · rfl

theorem setPc_map (c : CallId) (pc : CallPc UUri Listener) :
    (s.setPc c pc).map (env.verdict view) view =
      ((s.map (env.verdict view) view).setPc c pc).quiet := by
  simp [State.map, State.quiet, State.setPc]

theorem wake_map (c : CallId) :
    (s.wake c).map (State.map (env.verdict view) view) =
      ((s.map (env.verdict view) view).wake c).map State.quiet := by
  unfold State.wake
  rw [callPc_map]
  split
  · exact congrArg some (setPc_map c _)
  · rfl

theorem enterDrop_map (site : Site) :
    (s.enterDrop env site).map (State.map (env.verdict view) view) =
      ((s.map (env.verdict view) view).enterDrop (frameEnv env.config env.workers) site).map
        State.quiet := by
  unfold State.enterDrop
  rw [State.map_drop, canEnter_map, frameEnv_workers, State.map_calls]
  split
  · simp [State.map, State.quiet]
  · rfl

theorem dropNext_map :
    (s.dropNext env).map (State.map (env.verdict view) view) =
      ((s.map (env.verdict view) view).dropNext (frameEnv env.config env.workers)).map
        State.quiet := by
  unfold State.dropNext
  rw [State.map_drop]
  match s.drop with
  | .stopping => simp [State.map, State.quiet]
  | .joiningPoller =>
    simp only [State.map_poller]
    match s.poller with
    | .exited => simp [State.map, State.quiet, Poller.map, joinWorker]
    | .panicked _ _ =>
      simp [State.map, State.quiet, Poller.map, joinWorker, HealthState.eraseDetails_record]
    | .idle | .taking | .batch _ | .fanout _ _ _ _ | .rejecting _ _ _ _ _ _ => rfl
  | .takingEntries => simp [State.map, State.quiet]
  | .draining (r :: regs) =>
    simp only [drainOn_map]
    simp [State.map, State.quiet]
  | .draining [] => simp [State.map, State.quiet]
  | .awake r regs =>
    simp only [drainOn_map]
    simp [State.map, State.quiet]
  | .joiningDispatcher =>
    simp only [State.map_dispatcher, dispatcher_ended_map]
    cases s.dispatcher.ended <;> simp [State.map, State.quiet]
  | .live | .asleep _ _ | .deletingContained | .deletingParticipant | .returned => rfl

theorem wakeDrop_map :
    s.wakeDrop.map (State.map (env.verdict view) view) =
      (s.map (env.verdict view) view).wakeDrop.map State.quiet := by
  unfold State.wakeDrop
  rw [State.map_drop]
  split
  · simp [State.map, State.quiet]
  · rfl

theorem recordTeardown_eraseDetails (health : HealthState) (context context' : String)
    (error : Option DdsError) :
    (State.recordTeardown health context error).eraseDetails =
      (State.recordTeardown health.eraseDetails context' error).eraseDetails := by
  cases error <;> simp [State.recordTeardown, HealthState.eraseDetails_record]

theorem deleted_map (error : Option DdsError) :
    (s.deleted env error).map (State.map (env.verdict view) view) =
      ((s.map (env.verdict view) view).deleted (frameEnv env.config env.workers) error).map
        State.quiet := by
  have hhealth : ∀ context context',
      (State.recordTeardown s.health context error).eraseDetails =
        (State.recordTeardown s.health.eraseDetails context' error).eraseDetails :=
    fun context context' => recordTeardown_eraseDetails s.health context context' error
  unfold State.deleted
  rw [State.map_drop]
  match s.drop with
  | .deletingContained =>
    simp only [Option.map_some, State.map, State.quiet]
    rw [hhealth]
  | .deletingParticipant =>
    simp only [Option.map_some, State.map, State.quiet]
    rw [hhealth]
  | .live | .stopping | .joiningPoller | .takingEntries | .draining _ | .asleep _ _ | .awake _ _
  | .joiningDispatcher | .returned => rfl

/-- A call whose filters pass goes on alike. -/
theorem advance_map [DecidableEq UUri] [DecidableEq Listener] (c : CallId)
    (hfilter : ∀ pc source sink, s.callPc c = some pc → pc.filters = some (source, sink) →
      env.carriage.verifyFilterCriteria source sink = .ok ()) :
    (s.advance env c).map (State.map (env.verdict view) view) =
      ((s.map (env.verdict view) view).advance (frameEnv env.config env.workers) c).map
        State.quiet := by
  unfold State.advance
  rw [callPc_map]
  match hpc : s.callPc c with
  | some (.registering source sink listener) =>
    simp only [hfilter _ source sink hpc rfl, frameEnv_carriage,
      frameCarriage_verifyFilterCriteria, State.map_registry]
    cases s.registry.register source sink listener with
    | error status => exact congrArg some (setPc_map c _)
    | ok registry => simp [State.map, State.quiet, State.setPc]
  | some (.removing source sink listener) =>
    simp only [hfilter _ source sink hpc rfl, frameEnv_carriage,
      frameCarriage_verifyFilterCriteria, State.map_registry]
    cases s.registry.remove source sink listener with
    | error status => exact congrArg some (setPc_map c _)
    | ok removed => simp [State.map, State.quiet, State.setPc]
  | some (.deactivating r) =>
    simp only [waitOn_map]
    simp [State.map, State.quiet, State.setPc]
  | some (.awake r) =>
    simp only [waitOn_map]
    exact congrArg some (setPc_map c _)
  | some (.asleep _) | some (.unregistered _) | some (.returned _) | none => rfl

end steps

/-! ### Verified filters -/

section filters
variable {env : Env UUri Sample Message} {s s' : State UUri Listener Sample Message}
  {l : Label UUri Listener Sample}

/-- The calls that are still to verify their filters will accept them. -/
def State.Filtered (env : Env UUri Sample Message) (s : State UUri Listener Sample Message) :
    Prop :=
  ∀ call ∈ s.calls, ∀ source sink, call.pc.filters = some (source, sink) →
    env.carriage.verifyFilterCriteria source sink = .ok ()

/-- The filters of a call pass `verify`. -/
def Label.Filtered (verify : UUri → Option UUri → Except UStatus Unit) :
    Label UUri Listener Sample → Prop
  | .enter _ request => ∀ source sink, request.start.filters = some (source, sink) →
      verify source sink = .ok ()
  | _ => True

theorem notify_filters (r : RegId) (pc : CallPc UUri Listener) :
    (pc.notify r).filters = pc.filters := by
  cases pc with
  | asleep r' => by_cases hsame : r' = r <;> simp [CallPc.notify, CallPc.filters, hsame]
  | _ => rfl

theorem waitOn_filters (r : RegId) : (s.waitOn r).filters = none := by
  unfold State.waitOn
  split <;> rfl

theorem filtered_setPc {c : CallId} {pc : CallPc UUri Listener} (h : s.Filtered env)
    (hpc : pc.filters = none) : (s.setPc c pc).Filtered env := by
  intro call hcall source sink hfilters
  rcases mem_modify hcall with hold | ⟨old, _, rfl⟩
  · exact h call hold source sink hfilters
  · rw [show ({ old with pc := pc } : Call UUri Listener).pc.filters = none from hpc] at hfilters
    contradiction

theorem filtered_step [DecidableEq UUri] [UriMatches UUri] [DecidableEq Listener]
    (hi : s.Filtered env) (hl : l.Filtered env.carriage.verifyFilterCriteria)
    (h : Step env s l s') : s'.Filtered env := by
  cases h with
  | enter site request _ _ =>
    intro call hcall source sink hfilters
    rcases List.mem_append.mp hcall with hold | hnew
    · exact hi call hold source sink hfilters
    · obtain rfl := List.mem_singleton.mp hnew
      exact hl source sink hfilters
  | registerFail _ _ _ => exact filtered_setPc hi rfl
  | register _ _ _ _ => exact filtered_setPc hi rfl
  | removeFail _ _ _ => exact filtered_setPc hi rfl
  | remove _ _ _ _ => exact filtered_setPc hi rfl
  | deactivate _ _ => exact filtered_setPc hi (waitOn_filters _)
  | recheck _ _ => exact filtered_setPc hi (waitOn_filters _)
  | wake _ _ => exact filtered_setPc hi rfl
  | releaseLast t _ _ =>
    intro call hcall source sink hfilters
    obtain ⟨old, hold, rfl⟩ := List.mem_map.mp hcall
    rw [notify_filters] at hfilters
    exact hi old hold source sink hfilters
  | _ => exact hi

end filters

/-! ### The simulation -/

section simulation
variable [DecidableEq UUri] [UriMatches UUri] [DecidableEq Listener]

/-- The steps of the router of frames, with blank details. -/
def frameNext (config : ValidConfig) (workers : Nat)
    (s : State UUri Listener (Verdict (Frame UUri)) (Frame UUri))
    (l : Label UUri Listener (Verdict (Frame UUri))) :
    Option (State UUri Listener (Verdict (Frame UUri)) (Frame UUri)) :=
  (State.next (frameEnv config workers) s l).map State.quiet

variable {env : Env UUri Sample Message} {view : Message → Frame UUri}
  {s : State UUri Listener Sample Message}

/-- **One step of a family is the same step of the router of frames.** -/
theorem next_map (h : env.carriage.Shows view) (hi : s.Filtered env)
    (l : Label UUri Listener Sample) :
    (State.next env s l).map (State.map (env.verdict view) view) =
      frameNext env.config env.workers (s.map (env.verdict view) view)
        (l.map (env.verdict view)) := by
  cases l with
  | enter site request => exact enter_map site request
  | advance c =>
    apply advance_map
    intro pc source sink hpc hfilters
    obtain ⟨call, hcall, rfl⟩ := Option.map_eq_some_iff.mp hpc
    exact hi call (List.mem_of_getElem? hcall) source sink hfilters
  | wake c => exact wake_map c
  | poller => exact pollerNext_map h
  | take result =>
    cases result with
    | ok samples => exact take_map (.ok samples)
    | error error => exact take_map (.error error)
  | pollerPanic => exact pollerPanic_map
  | dispatcher => exact dispatcherNext_map
  | jobUnwind => exact jobUnwind_map
  | poll t => exact poll_map t
  | suspend t => exact endPoll_map t _
  | wakeTask t occupant => exact wakeTask_map t occupant
  | finish t panicked => exact endPoll_map t _
  | cancel t => exact cancel_map t
  | release t => exact release_map t
  | complete t => exact complete_map t
  | enterDrop site => exact enterDrop_map site
  | drop => exact dropNext_map
  | wakeDrop => exact wakeDrop_map
  | deleted error => exact deleted_map error
  | occupy =>
    unfold frameNext
    simp only [State.next, Label.map, busy_map, State.map_driven, frameEnv_workers]
    split
    · simp [State.map, State.quiet]
    · rfl
  | vacate k =>
    unfold frameNext
    simp only [State.next, Label.map, State.map_polls]
    split
    · simp [State.map, State.quiet]
    · rfl
  | drive =>
    unfold frameNext
    simp only [State.next, Label.map, State.map_driven]
    split
    · rfl
    · simp [State.map, State.quiet]
  | undrive =>
    unfold frameNext
    simp only [State.next, Label.map, busy_map, State.map_driven, frameEnv_workers]
    split
    · simp [State.map, State.quiet]
    · rfl
  | shutdownRuntime => simp [frameNext, State.next, Label.map, State.map, State.quiet]

omit [DecidableEq UUri] [UriMatches UUri] [DecidableEq Listener] in
theorem map_start (env : Env UUri Sample Message) (view : Message → Frame UUri) :
    (State.start : State UUri Listener Sample Message).map (env.verdict view) view =
      State.start := rfl

/-- **A run of a family is the same run of the router of frames.** -/
theorem run_map (env : Env UUri Sample Message) (view : Message → Frame UUri)
    (h : env.carriage.Shows view) {ls : List (Label UUri Listener Sample)}
    (hfilters : ∀ l ∈ ls, l.Filtered env.carriage.verifyFilterCriteria) :
    (exec (State.next env) State.start ls).map (fun r =>
        (r.1.map (Prod.map (State.map (env.verdict view) view) (Label.map (env.verdict view))),
          r.2.map (env.verdict view) view)) =
      exec (frameNext env.config env.workers) State.start
        (ls.map (Label.map (env.verdict view))) := by
  rw [← map_start env view]
  apply exec_map (P := State.Filtered env)
    (Q := Label.Filtered env.carriage.verifyFilterCriteria)
  · intro s l hs _
    exact next_map h hs l
  · intro s l s' hs hl hnext
    exact filtered_step hs hl (Step.of_next hnext)
  · intro call hcall
    exact absurd hcall List.not_mem_nil
  · exact hfilters

end simulation

end UpTransportDds
