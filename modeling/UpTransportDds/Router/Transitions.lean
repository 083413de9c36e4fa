import UpTransportDds.Router.Step

/-! # The running transport: transitions

  The transition function, read as a relation with one rule for each thing
  that can happen. Every invariant is proved by cases on these rules, so the
  function itself is unfolded here and nowhere else.
-/

namespace UpTransportDds

open LTS

variable {UUri Listener Sample Message : Type}

/-- A poll that ends was going on. -/
theorem State.endPoll_inv {s s' : State UUri Listener Sample Message} {t : TaskId}
    {phase : Phase} (h : s.endPoll t phase = some s') :
    ∃ task, s.tasks[t]? = some task ∧ task.phase = .polling ∧ s.inCall t = false ∧
      s' = s.setPhase t phase := by
  unfold State.endPoll at h
  split at h
  · split at h
    · rename_i hguard
      exact ⟨_, ‹_›, hguard.1, hguard.2, (Option.some.inj h).symm⟩
    · contradiction
  · contradiction

variable [DecidableEq UUri] [UriMatches UUri] [DecidableEq Listener]

/-- The transitions of a transport. -/
inductive Step (env : Env UUri Sample Message) (s : State UUri Listener Sample Message) :
    Label UUri Listener Sample → State UUri Listener Sample Message → Prop where
  -- calls
  | enter (site : Site) (request : Request UUri Listener) (hlive : s.drop = .live)
      (hsite : s.canEnter env.workers site = true) :
      Step env s (.enter site request) { s with calls := s.calls ++ [⟨site, request.start⟩] }
  | registerFail (c : CallId) {source : UUri} {sink : Option UUri} {listener : Listener}
      {status : UStatus} (hpc : s.callPc c = some (.registering source sink listener))
      (hfail : env.carriage.verifyFilterCriteria source sink = .error status ∨
        env.carriage.verifyFilterCriteria source sink = .ok () ∧
          s.registry.register source sink listener = .error status) :
      Step env s (.advance c) (s.setPc c (.returned (.error status)))
  | register (c : CallId) {source : UUri} {sink : Option UUri} {listener : Listener}
      {registry : Registry UUri Listener}
      (hpc : s.callPc c = some (.registering source sink listener))
      (hok : s.registry.register source sink listener = .ok registry)
      (hfilter : env.carriage.verifyFilterCriteria source sink = .ok ()) :
      Step env s (.advance c) ({ s with registry := registry }.setPc c (.returned (.ok ())))
  | removeFail (c : CallId) {source : UUri} {sink : Option UUri} {listener : Listener}
      {status : UStatus} (hpc : s.callPc c = some (.removing source sink listener))
      (hfail : env.carriage.verifyFilterCriteria source sink = .error status ∨
        env.carriage.verifyFilterCriteria source sink = .ok () ∧
          s.registry.remove source sink listener = .error status) :
      Step env s (.advance c) (s.setPc c (.returned (.error status)))
  | remove (c : CallId) {source : UUri} {sink : Option UUri} {listener : Listener}
      {r : RegId} {registry : Registry UUri Listener}
      (hpc : s.callPc c = some (.removing source sink listener))
      (hok : s.registry.remove source sink listener = .ok (r, registry))
      (hfilter : env.carriage.verifyFilterCriteria source sink = .ok ()) :
      Step env s (.advance c) ({ s with registry := registry }.setPc c (.deactivating r))
  | deactivate (c : CallId) {r : RegId} (hpc : s.callPc c = some (.deactivating r)) :
      Step env s (.advance c)
        ({ s with registry := s.registry.deactivate r }.setPc c (s.waitOn r))
  | recheck (c : CallId) {r : RegId} (hpc : s.callPc c = some (.awake r)) :
      Step env s (.advance c) (s.setPc c (s.waitOn r))
  | wake (c : CallId) {r : RegId} (hpc : s.callPc c = some (.asleep r)) :
      Step env s (.wake c) (s.setPc c (.awake r))
  -- the poller
  | pollStop (hpc : s.poller = .idle) (hstop : s.stopped = true) :
      Step env s .poller { s with poller := .exited }
  | pollRun (hpc : s.poller = .idle) (hstop : s.stopped = false) :
      Step env s .poller { s with poller := .taking }
  | takeOk (samples : List (Option Sample)) (hpc : s.poller = .taking) :
      Step env s (.take (.ok samples))
        { s with poller := .batch (samples.zipIdx s.taken), taken := s.taken + samples.length }
  | takeNoData (error : DdsError) (hpc : s.poller = .taking) (hkind : error.kind = .noData) :
      Step env s (.take (.error error)) { s with poller := .idle }
  | takeError (error : DdsError) (hpc : s.poller = .taking) (hkind : error.kind ≠ .noData) :
      Step env s (.take (.error error))
        { s with
          health := s.health.record .dds (env.carriage.name ++ " reader take: " ++ error.text)
          poller := .idle }
  | batchDone (hpc : s.poller = .batch []) :
      Step env s .poller { s with poller := .idle }
  | sampleEmpty {k : Nat} {rest : List (Taken Sample)}
      (hpc : s.poller = .batch ((none, k) :: rest)) :
      Step env s .poller { s with poller := .batch rest }
  | sampleOwn {sample : Sample} {k : Nat} {rest : List (Taken Sample)}
      (hpc : s.poller = .batch ((some sample, k) :: rest))
      (hown : env.carriage.receive env.config.toDdsConfig sample = .own) :
      Step env s .poller { s with poller := .batch rest }
  | sampleMalformed {sample : Sample} {k : Nat} {rest : List (Taken Sample)} {detail : String}
      (hpc : s.poller = .batch ((some sample, k) :: rest))
      (hmal : env.carriage.receive env.config.toDdsConfig sample = .malformed detail) :
      Step env s .poller
        { s with health := s.health.record .malformedSample detail, poller := .batch rest }
  | sampleAccepted {sample : Sample} {k : Nat} {rest : List (Taken Sample)} {message : Message}
      (hpc : s.poller = .batch ((some sample, k) :: rest))
      (hacc : env.carriage.receive env.config.toDdsConfig sample = .accepted message) :
      Step env s .poller
        { s with poller := .fanout k message (s.registry.matching
            (env.carriage.source message) (env.carriage.sink message)) rest }
  | fanoutDone {k : Nat} {message : Message} {rest : List (Taken Sample)}
      (hpc : s.poller = .fanout k message [] rest) :
      Step env s .poller { s with poller := .batch rest }
  | submitOk {k : Nat} {message : Message} {reg : RegId} {regs : List RegId}
      {rest : List (Taken Sample)} {queue : List (Job Message)}
      (hpc : s.poller = .fanout k message (reg :: regs) rest)
      (hsend : s.trySend env ⟨k, reg, message⟩ = .ok queue) :
      Step env s .poller { s with queue := queue, poller := .fanout k message regs rest }
  | submitFail {k : Nat} {message : Message} {reg : RegId} {regs : List RegId}
      {rest : List (Taken Sample)} {detail : String}
      (hpc : s.poller = .fanout k message (reg :: regs) rest)
      (hsend : s.trySend env ⟨k, reg, message⟩ = .error detail) :
      Step env s .poller { s with poller := .rejecting detail k message reg regs rest }
  | reject {detail : String} {k : Nat} {message : Message} {reg : RegId} {regs : List RegId}
      {rest : List (Taken Sample)} (hpc : s.poller = .rejecting detail k message reg regs rest) :
      Step env s .poller
        { s with health := s.health.record .dispatchBackpressure detail
                 poller := .fanout k message regs rest }
  | pollerPanic (hpc : s.poller.ended = false) :
      Step env s .pollerPanic
        { s with poller := .panicked s.poller.toSubmit s.poller.unhandled }
  -- the dispatcher
  | recv {job : Job Message} {queue : List (Job Message)} (hpc : s.dispatcher = .receiving)
      (hqueue : s.queue = job :: queue) :
      Step env s .dispatcher { s with queue := queue, dispatcher := .starting job }
  | recvClosed (hpc : s.dispatcher = .receiving) (hqueue : s.queue = [])
      (hended : s.poller.ended = true) :
      Step env s .dispatcher { s with dispatcher := .exited }
  | beginInactive {job : Job Message} (hpc : s.dispatcher = .starting job)
      (hbegin : s.registry.begin job.reg = none) :
      Step env s .dispatcher { s with dispatcher := .finishing }
  | beginActive {job : Job Message} {registry : Registry UUri Listener}
      (hpc : s.dispatcher = .starting job) (hbegin : s.registry.begin job.reg = some registry) :
      Step env s .dispatcher { s with registry := registry, dispatcher := .spawning job }
  | spawn {job : Job Message} (hpc : s.dispatcher = .spawning job) :
      Step env s .dispatcher
        { s with
          tasks := s.tasks ++
            [⟨job, false, if s.shutdown then .dropping .cancelled else .spawned⟩]
          dispatcher := .waiting job s.tasks.length }
  | leaveWait {job : Job Message} {t : TaskId} (hpc : s.dispatcher = .waiting job t)
      (hleave : s.finished t = true ∨ s.stopped = true) :
      Step env s .dispatcher { s with dispatcher := .checkStop job t }
  | stopSeen {job : Job Message} {t : TaskId} (hpc : s.dispatcher = .checkStop job t)
      (hstop : s.stopped = true) :
      Step env s .dispatcher { s with dispatcher := .checkFinished job t }
  | stopUnseen {job : Job Message} {t : TaskId} (hpc : s.dispatcher = .checkStop job t)
      (hstop : s.stopped = false) :
      Step env s .dispatcher { s with dispatcher := .joining job t }
  | finishSeen {job : Job Message} {t : TaskId} (hpc : s.dispatcher = .checkFinished job t)
      (hfin : s.finished t = true) :
      Step env s .dispatcher { s with dispatcher := .joining job t }
  | abort {job : Job Message} {t : TaskId} (hpc : s.dispatcher = .checkFinished job t)
      (hfin : s.finished t = false) :
      Step env s .dispatcher
        { s with tasks := s.tasks.modify t fun task => { task with aborted := true }
                 dispatcher := .joining job t }
  | joinOk {job : Job Message} {t : TaskId} (hpc : s.dispatcher = .joining job t)
      (hout : s.outcome t = some .returned) :
      Step env s .dispatcher { s with dispatcher := .finishing }
  | joinError {job : Job Message} {t : TaskId} {outcome : Outcome}
      (hpc : s.dispatcher = .joining job t) (hout : s.outcome t = some outcome)
      (herr : outcome ≠ .returned) :
      Step env s .dispatcher { s with dispatcher := .failed }
  | ignore (hpc : s.dispatcher = .failed) (hstop : s.stopped = true) :
      Step env s .dispatcher { s with dispatcher := .finishing }
  | blame (hpc : s.dispatcher = .failed) (hstop : s.stopped = false) :
      Step env s .dispatcher { s with dispatcher := .counting }
  | count (hpc : s.dispatcher = .counting) :
      Step env s .dispatcher
        { s with health := s.health.record .callbackPanic "listener callback panicked"
                 dispatcher := .finishing }
  | jobDone (hpc : s.dispatcher = .finishing) :
      Step env s .dispatcher { s with dispatcher := .receiving }
  | jobUnwind (hpc : s.dispatcher = .finishing) :
      Step env s .jobUnwind { s with dispatcher := .caught }
  | countCaught (hpc : s.dispatcher = .caught) :
      Step env s .dispatcher
        { s with health := s.health.record .callbackPanic "listener callback panicked"
                 dispatcher := .receiving }
  -- listener futures
  | poll (t : TaskId) {task : Task Message} (htask : s.tasks[t]? = some task)
      (hpoll : task.phase.pollable = true) (habort : task.aborted = false)
      (hshut : s.shutdown = false) (hdriven : s.driven = true) (hfree : s.busy < env.workers)
      (hslot : s.slotted task = false) :
      Step env s (.poll t) (s.setPhase t .polling)
  | suspend (t : TaskId) {task : Task Message} (htask : s.tasks[t]? = some task)
      (hpoll : task.phase = .polling) (hcall : s.inCall t = false) :
      Step env s (.suspend t) (s.setPhase t .suspended)
  | wakeTask (t : TaskId) (occupant : Occupant) {task : Task Message}
      (htask : s.tasks[t]? = some task) (hpoll : task.phase = .suspended)
      (hwake : s.canWake occupant = true) :
      Step env s (.wakeTask t occupant) (s.setPhase t (.woken occupant))
  | finish (t : TaskId) (panicked : Bool) {task : Task Message} (htask : s.tasks[t]? = some task)
      (hpoll : task.phase = .polling) (hcall : s.inCall t = false) :
      Step env s (.finish t panicked)
        (s.setPhase t (.dropping (if panicked then .panicked else .returned)))
  | cancel (t : TaskId) {task : Task Message} (htask : s.tasks[t]? = some task)
      (hpoll : task.phase.pollable = true) (hfree : s.busy < env.workers)
      (hcancel : task.aborted = true ∧ s.driven = true ∧ s.slotted task = false ∨
        s.shutdown = true) :
      Step env s (.cancel t) (s.setPhase t (.dropping .cancelled))
  | release (t : TaskId) {job : Job Message} {aborted : Bool} {outcome : Outcome}
      (htask : s.tasks[t]? = some ⟨job, aborted, .dropping outcome⟩)
      (hidle : (s.registry.release job.reg).inFlight job.reg ≠ 0) :
      Step env s (.release t)
        ({ s with registry := s.registry.release job.reg }.setPhase t (.released outcome))
  | releaseLast (t : TaskId) {job : Job Message} {aborted : Bool} {outcome : Outcome}
      (htask : s.tasks[t]? = some ⟨job, aborted, .dropping outcome⟩)
      (hidle : (s.registry.release job.reg).inFlight job.reg = 0) :
      Step env s (.release t)
        (({ s with registry := s.registry.release job.reg }.setPhase t
          (.released outcome)).notifyIdle job.reg)
  | complete (t : TaskId) {job : Job Message} {aborted : Bool} {outcome : Outcome}
      (htask : s.tasks[t]? = some ⟨job, aborted, .released outcome⟩) :
      Step env s (.complete t) (s.setPhase t (.complete outcome))
  -- `Drop`
  | enterDrop (site : Site) (hlive : s.drop = .live)
      (hcalls : s.calls.all (·.pc.done) = true) (hsite : s.canEnter env.workers site = true) :
      Step env s (.enterDrop site) { s with drop := .stopping, dropSite := site }
  | stop (hpc : s.drop = .stopping) :
      Step env s .drop { s with stopped := true, drop := .joiningPoller }
  | joinPoller (hpc : s.drop = .joiningPoller) (hended : s.poller = .exited) :
      Step env s .drop
        { s with health := joinWorker s.health (env.carriage.name ++ " poller") false
                 drop := .takingEntries }
  | joinPanicked {jobs : List (Job Message)} {rest : List (Taken Sample)}
      (hpc : s.drop = .joiningPoller) (hended : s.poller = .panicked jobs rest) :
      Step env s .drop
        { s with health := joinWorker s.health (env.carriage.name ++ " poller") true
                 drop := .takingEntries }
  | takeEntries (hpc : s.drop = .takingEntries) :
      Step env s .drop
        { s with registry := s.registry.takeEntries, drop := .draining s.registry.entries }
  | drain {r : RegId} {regs : List RegId} (hpc : s.drop = .draining (r :: regs)) :
      Step env s .drop
        { s with registry := s.registry.deactivate r, drop := s.drainOn r regs }
  | drained (hpc : s.drop = .draining []) :
      Step env s .drop { s with drop := .joiningDispatcher }
  | recheckDrop {r : RegId} {regs : List RegId} (hpc : s.drop = .awake r regs) :
      Step env s .drop { s with drop := s.drainOn r regs }
  | wakeDrop {r : RegId} {regs : List RegId} (hpc : s.drop = .asleep r regs) :
      Step env s .wakeDrop { s with drop := .awake r regs }
  | joinDispatcher (hpc : s.drop = .joiningDispatcher) (hended : s.dispatcher.ended = true) :
      Step env s .drop { s with drop := .deletingContained }
  | deleteContained (error : Option DdsError) (hpc : s.drop = .deletingContained) :
      Step env s (.deleted error)
        { s with
          health := State.recordTeardown s.health
            ("delete " ++ env.carriage.name ++ " contained entities") error
          drop := .deletingParticipant }
  | deleteParticipant (error : Option DdsError) (hpc : s.drop = .deletingParticipant) :
      Step env s (.deleted error)
        { s with
          health := State.recordTeardown s.health
            ("delete " ++ env.carriage.name ++ " participant") error
          drop := .returned }
  -- the surroundings
  | occupy (hdriven : s.driven = true) (hfree : s.busy < env.workers) :
      Step env s .occupy { s with polls := s.polls ++ [true] }
  | vacate (k : PollId) (hpoll : s.polls[k]? = some true) :
      Step env s (.vacate k) { s with polls := s.polls.set k false }
  | drive (hdriven : s.driven = false) : Step env s .drive { s with driven := true }
  | undrive (hworkers : env.workers = 1) (hidle : s.busy = 0) (hdriven : s.driven = true) :
      Step env s .undrive { s with driven := false }
  | shutdownRuntime : Step env s .shutdownRuntime { s with shutdown := true }

namespace Step

variable {env : Env UUri Sample Message} {s s' : State UUri Listener Sample Message}
  {l : Label UUri Listener Sample}

/-! ### The rules cover the transition function -/

theorem of_advance {c : CallId} (h : s.advance env c = some s') : Step env s (.advance c) s' := by
  unfold State.advance at h
  split at h
  -- a call of `register_listener`
  · rename_i hpc
    split at h
    · rename_i hverify
      obtain rfl := Option.some.inj h
      exact .registerFail c hpc (.inl hverify)
    · rename_i hverify
      split at h
      · rename_i hreg
        obtain rfl := Option.some.inj h
        exact .registerFail c hpc (.inr ⟨hverify, hreg⟩)
      · rename_i hreg
        obtain rfl := Option.some.inj h
        exact .register c hpc hreg hverify
  · rename_i hpc
    split at h
    · rename_i hverify
      obtain rfl := Option.some.inj h
      exact .removeFail c hpc (.inl hverify)
    · rename_i hverify
      split at h
      · rename_i hrem
        obtain rfl := Option.some.inj h
        exact .removeFail c hpc (.inr ⟨hverify, hrem⟩)
      · rename_i hrem
        obtain rfl := Option.some.inj h
        exact .remove c hpc hrem hverify
  · rename_i hpc
    obtain rfl := Option.some.inj h
    exact .deactivate c hpc
  · rename_i hpc
    obtain rfl := Option.some.inj h
    exact .recheck c hpc
  · contradiction

theorem of_wake {c : CallId} (h : s.wake c = some s') : Step env s (.wake c) s' := by
  unfold State.wake at h
  split at h
  · rename_i hpc
    obtain rfl := Option.some.inj h
    exact .wake c hpc
  · contradiction

theorem of_pollerNext (h : s.pollerNext env = some s') : Step env s .poller s' := by
  unfold State.pollerNext at h
  split at h
  · rename_i hpc
    obtain rfl := Option.some.inj h
    split
    · exact .pollStop hpc ‹_›
    · rename_i hstop
      exact .pollRun hpc (by simpa using hstop)
  · obtain rfl := Option.some.inj h
    exact .batchDone ‹_›
  · obtain rfl := Option.some.inj h
    exact .sampleEmpty ‹_›
  · rename_i hpc
    split at h
    · obtain rfl := Option.some.inj h
      exact .sampleOwn hpc ‹_›
    · obtain rfl := Option.some.inj h
      exact .sampleMalformed hpc ‹_›
    · obtain rfl := Option.some.inj h
      exact .sampleAccepted hpc ‹_›
  · obtain rfl := Option.some.inj h
    exact .fanoutDone ‹_›
  · rename_i hpc
    split at h
    · obtain rfl := Option.some.inj h
      exact .submitOk hpc ‹_›
    · obtain rfl := Option.some.inj h
      exact .submitFail hpc ‹_›
  · obtain rfl := Option.some.inj h
    exact .reject ‹_›
  · contradiction

theorem of_take {result : Except DdsError (List (Option Sample))}
    (h : s.take env result = some s') : Step env s (.take result) s' := by
  unfold State.take at h
  split at h
  · obtain rfl := Option.some.inj h
    exact .takeOk _ ‹_›
  · rename_i hpc
    split at h
    · obtain rfl := Option.some.inj h
      exact .takeNoData _ hpc ‹_›
    · obtain rfl := Option.some.inj h
      exact .takeError _ hpc ‹_›
  · contradiction

theorem of_pollerPanic (h : s.pollerPanic = some s') : Step env s .pollerPanic s' := by
  unfold State.pollerPanic at h
  split at h
  · contradiction
  · rename_i hpc
    obtain rfl := Option.some.inj h
    exact .pollerPanic (by simpa using hpc)

theorem of_dispatcherNext (h : s.dispatcherNext = some s') : Step env s .dispatcher s' := by
  unfold State.dispatcherNext at h
  split at h
  · rename_i hpc
    split at h
    · obtain rfl := Option.some.inj h
      exact .recv hpc ‹_›
    · rename_i hqueue
      split at h
      · obtain rfl := Option.some.inj h
        exact .recvClosed hpc hqueue ‹_›
      · contradiction
  · rename_i hpc
    split at h
    · obtain rfl := Option.some.inj h
      exact .beginInactive hpc ‹_›
    · obtain rfl := Option.some.inj h
      exact .beginActive hpc ‹_›
  · obtain rfl := Option.some.inj h
    exact .spawn ‹_›
  · rename_i hpc
    split at h
    · rename_i hleave
      obtain rfl := Option.some.inj h
      exact .leaveWait hpc (by simpa using hleave)
    · contradiction
  · rename_i hpc
    obtain rfl := Option.some.inj h
    split
    · exact .stopSeen hpc ‹_›
    · rename_i hstop
      exact .stopUnseen hpc (by simpa using hstop)
  · rename_i hpc
    split at h
    · obtain rfl := Option.some.inj h
      exact .finishSeen hpc ‹_›
    · rename_i hfin
      obtain rfl := Option.some.inj h
      exact .abort hpc (by simpa using hfin)
  · rename_i hpc
    split at h
    · obtain rfl := Option.some.inj h
      exact .joinOk hpc ‹_›
    · rename_i outcome hne hout
      obtain rfl := Option.some.inj h
      exact .joinError hpc hout (by rintro rfl; exact hne rfl)
    · contradiction
  · rename_i hpc
    obtain rfl := Option.some.inj h
    split
    · exact .ignore hpc ‹_›
    · rename_i hstop
      exact .blame hpc (by simpa using hstop)
  · obtain rfl := Option.some.inj h
    exact .count ‹_›
  · obtain rfl := Option.some.inj h
    exact .jobDone ‹_›
  · obtain rfl := Option.some.inj h
    exact .countCaught ‹_›
  · contradiction

theorem of_jobUnwind (h : s.jobUnwind = some s') : Step env s .jobUnwind s' := by
  unfold State.jobUnwind at h
  split at h
  · obtain rfl := Option.some.inj h
    exact .jobUnwind ‹_›
  · contradiction

theorem of_poll {t : TaskId} (h : s.poll env t = some s') : Step env s (.poll t) s' := by
  unfold State.poll at h
  split at h
  · split at h
    · rename_i hguard
      obtain rfl := Option.some.inj h
      obtain ⟨hpoll, habort, hshut, hdriven, hfree, hslot⟩ := hguard
      exact .poll t ‹_› hpoll habort hshut hdriven hfree hslot
    · contradiction
  · contradiction

theorem of_wakeTask {t : TaskId} {occupant : Occupant} (h : s.wakeTask t occupant = some s') :
    Step env s (.wakeTask t occupant) s' := by
  unfold State.wakeTask at h
  split at h
  · split at h
    · rename_i hguard
      obtain rfl := Option.some.inj h
      exact .wakeTask t occupant ‹_› hguard.1 hguard.2
    · contradiction
  · contradiction

theorem of_cancel {t : TaskId} (h : s.cancel env t = some s') : Step env s (.cancel t) s' := by
  unfold State.cancel at h
  split at h
  · split at h
    · rename_i hguard
      obtain rfl := Option.some.inj h
      exact .cancel t ‹_› hguard.1 hguard.2.1 hguard.2.2
    · contradiction
  · contradiction

theorem of_release {t : TaskId} (h : s.release t = some s') : Step env s (.release t) s' := by
  unfold State.release at h
  -- whether the guard was the last one decides about the notification
  split at h
  · rename_i htask
    obtain rfl := Option.some.inj h
    split
    · exact .releaseLast t htask ‹_›
    · exact .release t htask ‹_›
  · contradiction

theorem of_complete {t : TaskId} (h : s.complete t = some s') : Step env s (.complete t) s' := by
  unfold State.complete at h
  split at h
  · obtain rfl := Option.some.inj h
    exact .complete t ‹_›
  · contradiction

theorem of_dropNext (h : s.dropNext env = some s') : Step env s .drop s' := by
  unfold State.dropNext at h
  split at h
  · obtain rfl := Option.some.inj h
    exact .stop ‹_›
  · rename_i hpc
    dsimp only at h
    split at h
    · obtain rfl := Option.some.inj h
      exact .joinPoller hpc ‹_›
    · obtain rfl := Option.some.inj h
      exact .joinPanicked hpc ‹_›
    · contradiction
  · obtain rfl := Option.some.inj h
    exact .takeEntries ‹_›
  · obtain rfl := Option.some.inj h
    exact .drain ‹_›
  · obtain rfl := Option.some.inj h
    exact .drained ‹_›
  · obtain rfl := Option.some.inj h
    exact .recheckDrop ‹_›
  · rename_i hpc
    split at h
    · obtain rfl := Option.some.inj h
      exact .joinDispatcher hpc ‹_›
    · contradiction
  · contradiction

theorem of_wakeDrop (h : s.wakeDrop = some s') : Step env s .wakeDrop s' := by
  unfold State.wakeDrop at h
  split at h
  · obtain rfl := Option.some.inj h
    exact .wakeDrop ‹_›
  · contradiction

theorem of_deleted {error : Option DdsError} (h : s.deleted env error = some s') :
    Step env s (.deleted error) s' := by
  unfold State.deleted at h
  split at h
  · obtain rfl := Option.some.inj h
    exact .deleteContained error ‹_›
  · obtain rfl := Option.some.inj h
    exact .deleteParticipant error ‹_›
  · contradiction

/-- Every step of the transition function follows one of the rules. -/
theorem of_next (h : State.next env s l = some s') : Step env s l s' := by
  cases l with
  | enter site request =>
    simp only [State.next, State.enter] at h
    split at h
    · rename_i hguard
      obtain rfl := Option.some.inj h
      exact .enter site request hguard.1 hguard.2
    · contradiction
  | advance c => exact of_advance h
  | wake c => exact of_wake h
  | poller => exact of_pollerNext h
  | take result => exact of_take h
  | pollerPanic => exact of_pollerPanic h
  | dispatcher => exact of_dispatcherNext h
  | jobUnwind => exact of_jobUnwind h
  | poll t => exact of_poll h
  | suspend t =>
    obtain ⟨_, htask, hpoll, hcall, rfl⟩ := State.endPoll_inv h
    exact .suspend t htask hpoll hcall
  | finish t panicked =>
    obtain ⟨_, htask, hpoll, hcall, rfl⟩ := State.endPoll_inv h
    exact .finish t panicked htask hpoll hcall
  | wakeTask t occupant => exact of_wakeTask h
  | cancel t => exact of_cancel h
  | release t => exact of_release h
  | complete t => exact of_complete h
  | enterDrop site =>
    simp only [State.next, State.enterDrop] at h
    split at h
    · rename_i hguard
      obtain rfl := Option.some.inj h
      exact .enterDrop site hguard.1 hguard.2.1 hguard.2.2
    · contradiction
  | drop => exact of_dropNext h
  | wakeDrop => exact of_wakeDrop h
  | deleted error => exact of_deleted h
  | occupy =>
    simp only [State.next] at h
    split at h
    · rename_i hguard
      obtain rfl := Option.some.inj h
      exact .occupy hguard.1 hguard.2
    · contradiction
  | vacate k =>
    simp only [State.next] at h
    split at h
    · obtain rfl := Option.some.inj h
      exact .vacate k ‹_›
    · contradiction
  | drive =>
    simp only [State.next] at h
    split at h
    · contradiction
    · obtain rfl := Option.some.inj h
      exact .drive (by simpa using ‹¬ s.driven = true›)
  | undrive =>
    simp only [State.next] at h
    split at h
    · rename_i hguard
      obtain rfl := Option.some.inj h
      exact .undrive hguard.1 hguard.2.1 hguard.2.2
    · contradiction
  | shutdownRuntime =>
    obtain rfl := Option.some.inj h
    exact .shutdownRuntime

/-! ### The transition function follows the rules -/

theorem next_advance {c : CallId} (h : Step env s (.advance c) s') : s.advance env c = some s' := by
  cases h with
  | registerFail c hpc hfail =>
    -- the filter is verified before the table is looked at
    rcases hfail with hfilter | ⟨hfilter, hfail⟩
    · simp [State.advance, hpc, hfilter]
    · simp [State.advance, hpc, hfilter, hfail]
  | removeFail c hpc hfail =>
    rcases hfail with hfilter | ⟨hfilter, hfail⟩
    · simp [State.advance, hpc, hfilter]
    · simp [State.advance, hpc, hfilter, hfail]
  | _ => simp [State.advance, *]

theorem next_release {t : TaskId} (h : Step env s (.release t) s') : s.release t = some s' := by
  cases h with
  | release t htask hidle =>
    simp only [State.release, htask]
    exact congrArg some (if_neg hidle)
  | releaseLast t htask hidle =>
    simp only [State.release, htask]
    exact congrArg some (if_pos hidle)

/-- Every rule is a step of the transition function. -/
theorem next_eq (h : Step env s l s') : State.next env s l = some s' := by
  cases l with
  | advance c => exact next_advance h
  | release t => exact next_release h
  | enter site request => cases h; simp [State.next, State.enter, *]
  | wake c => cases h; simp [State.next, State.wake, *]
  | poller => cases h <;> simp [State.next, State.pollerNext, *]
  | take result => cases h <;> simp [State.next, State.take, *]
  | pollerPanic => cases h; simp [State.next, State.pollerPanic, *]
  | dispatcher => cases h <;> simp [State.next, State.dispatcherNext, *]
  | jobUnwind => cases h; simp [State.next, State.jobUnwind, *]
  | poll t => cases h; simp [State.next, State.poll, *]
  | suspend t => cases h; simp [State.next, State.endPoll, *]
  | wakeTask t occupant => cases h; simp [State.next, State.wakeTask, *]
  | finish t panicked => cases h; simp [State.next, State.endPoll, *]
  | cancel t => cases h; simp [State.next, State.cancel, *]
  | complete t => cases h; simp [State.next, State.complete, *]
  | enterDrop site => cases h; simp [State.next, State.enterDrop, *]
  | drop => cases h <;> simp [State.next, State.dropNext, *]
  | wakeDrop => cases h; simp [State.next, State.wakeDrop, *]
  | deleted error => cases h <;> simp [State.next, State.deleted, *]
  | occupy => cases h; simp [State.next, *]
  | vacate k => cases h; simp [State.next, *]
  | drive => cases h; simp [State.next, *]
  | undrive => cases h; simp [State.next, *]
  | shutdownRuntime => cases h; rfl

/-- The rules are the steps of a transport. -/
theorem router_step_iff : (router env).step s l s' ↔ Step env s l s' :=
  ⟨of_next, next_eq⟩

/-- The label decides the step. -/
theorem unique {s'' : State UUri Listener Sample Message} (h : Step env s l s')
    (h' : Step env s l s'') : s' = s'' :=
  Option.some.inj (h.next_eq.symm.trans h'.next_eq)

end Step

end UpTransportDds
