import UpTransportDds.Framework.System
import UpTransportDds.Router.State

/-! # The running transport: steps

  One step is one action of one party on shared state: a critical section, a
  channel operation, a read of the stop flag, a poll of a future. What a
  thread computes between two such actions belongs to the next one.

  The label names the party and carries what its surroundings decide (the
  result of `take`, how a callback ends). Given the label the step is a
  function, so runs can be evaluated.
-/

namespace UpTransportDds

open LTS

/-! ### Labels -/

inductive Label (UUri Listener Sample : Type) where
  /-- `register_listener` or `unregister_listener` is called. -/
  | enter (site : Site) (request : Request UUri Listener)
  /-- Call `c` takes its next step. -/
  | advance (c : CallId)
  /-- Call `c` wakes up from the condition variable without a notification. -/
  | wake (c : CallId)
  /-- The poller takes its next step. -/
  | poller
  /-- `reader.take` returns. -/
  | take (result : Except DdsError (List (Option Sample)))
  /-- The poller thread panics. -/
  | pollerPanic
  /-- The dispatcher takes its next step. -/
  | dispatcher
  /-- Dropping the job closure panics. -/
  | jobUnwind
  /-- A worker polls future `t`. -/
  | poll (t : TaskId)
  /-- The poll of `t` returns `Pending`. -/
  | suspend (t : TaskId)
  /-- The task that `occupant` stands for wakes up future `t`. -/
  | wakeTask (t : TaskId) (occupant : Occupant)
  /-- The callback of `t` returns, or panics. -/
  | finish (t : TaskId) (panicked : Bool)
  /-- A worker drops the aborted future `t` instead of polling it. -/
  | cancel (t : TaskId)
  /-- The `InFlight` guard of `t` is dropped. -/
  | release (t : TaskId)
  /-- Future `t` is gone; its join handle finishes. -/
  | complete (t : TaskId)
  /-- The last owner drops the transport. -/
  | enterDrop (site : Site)
  /-- `Drop` takes its next step. -/
  | drop
  /-- `Drop` wakes up from the condition variable without a notification. -/
  | wakeDrop
  /-- A DDS delete call of `Drop` returns, with its error if it failed. -/
  | deleted (error : Option DdsError)
  /-- A worker starts unrelated work. -/
  | occupy
  /-- A worker ends the unrelated work with this number. -/
  | vacate (k : PollId)
  /-- A thread enters `block_on` of the current-thread runtime. -/
  | drive
  /-- The thread that drives the current-thread runtime leaves `block_on`. -/
  | undrive
  /-- The tokio runtime is shut down. -/
  | shutdownRuntime

variable {UUri Listener Sample Message : Type}

/-- Where a new call starts. -/
def Request.start : Request UUri Listener → CallPc UUri Listener
  | .register source sink listener => .registering source sink listener
  | .unregister source sink listener => .removing source sink listener

/-- `idle.notify_all` of registration `r`, as a call sees it. -/
def CallPc.notify (r : RegId) : CallPc UUri Listener → CallPc UUri Listener
  | .asleep r' => if r' = r then .awake r' else .asleep r'
  | pc => pc

/-- `idle.notify_all` of registration `r`, as `Drop` sees it. -/
def DropPc.notify (r : RegId) : DropPc → DropPc
  | .asleep r' regs => if r' = r then .awake r' regs else .asleep r' regs
  | pc => pc

/-- The future `t` moves to `phase`. -/
def withPhase (tasks : List (Task Message)) (t : TaskId) (phase : Phase) : List (Task Message) :=
  tasks.modify t fun task => { task with phase := phase }

/-- `join_worker`, once the thread has ended. -/
def joinWorker (health : HealthState) (name : String) (panicked : Bool) : HealthState :=
  if panicked then health.record .workerPanic (name ++ " thread panicked") else health

namespace State

/-! ### Calls -/

/-- Call `c` moves to `pc`. -/
@[simps] def setPc (s : State UUri Listener Sample Message) (c : CallId)
    (pc : CallPc UUri Listener) : State UUri Listener Sample Message :=
  { s with calls := s.calls.modify c fun call => { call with pc := pc } }

/-- The loop condition of `deactivate_and_wait`, under the lock of `r`. -/
def waitOn (s : State UUri Listener Sample Message) (r : RegId) : CallPc UUri Listener :=
  if s.registry.inFlight r = 0 then .unregistered r else .asleep r

/-- A new call. It needs the transport alive and, on the runtime, a worker. -/
def enter (env : Env UUri Sample Message) (s : State UUri Listener Sample Message) (site : Site)
    (request : Request UUri Listener) : Option (State UUri Listener Sample Message) :=
  if s.drop = .live ∧ s.canEnter env.workers site then
    some { s with calls := s.calls ++ [⟨site, request.start⟩] }
  else
    none

/-- The next step of a call: `register_listener` and `unregister_listener`. -/
def advance [DecidableEq UUri] [DecidableEq Listener] (env : Env UUri Sample Message)
    (s : State UUri Listener Sample Message) (c : CallId) :
    Option (State UUri Listener Sample Message) :=
  match s.callPc c with
  | some (.registering source sink listener) =>
    match env.carriage.verifyFilterCriteria source sink with
    | .error status => some (s.setPc c (.returned (.error status)))
    | .ok () =>
      match s.registry.register source sink listener with
      | .error status => some (s.setPc c (.returned (.error status)))
      | .ok registry => some ({ s with registry := registry }.setPc c (.returned (.ok ())))
  | some (.removing source sink listener) =>
    match env.carriage.verifyFilterCriteria source sink with
    | .error status => some (s.setPc c (.returned (.error status)))
    | .ok () =>
      match s.registry.remove source sink listener with
      | .error status => some (s.setPc c (.returned (.error status)))
      | .ok (r, registry) => some ({ s with registry := registry }.setPc c (.deactivating r))
  | some (.deactivating r) =>
    some ({ s with registry := s.registry.deactivate r }.setPc c (s.waitOn r))
  | some (.awake r) => some (s.setPc c (s.waitOn r))
  | _ => none

/-- A spurious wake-up of a call. -/
def wake (s : State UUri Listener Sample Message) (c : CallId) :
    Option (State UUri Listener Sample Message) :=
  match s.callPc c with
  | some (.asleep r) => some (s.setPc c (.awake r))
  | _ => none

/-! ### The poller -/

/-- `dispatch.try_send(job)`: the new queue, or the detail of the refusal. -/
def trySend (env : Env UUri Sample Message) (s : State UUri Listener Sample Message)
    (job : Job Message) : Except String (List (Job Message)) :=
  if s.dispatcher.ended then
    .error "callback queue is disconnected"
  else if s.queue.length < env.config.dispatchCapacity then
    .ok (s.queue ++ [job])
  else
    .error "callback queue is full"

/-- The next step of the poller, outside `reader.take`. -/
def pollerNext [UriMatches UUri] (env : Env UUri Sample Message)
    (s : State UUri Listener Sample Message) : Option (State UUri Listener Sample Message) :=
  match s.poller with
  | .idle => some { s with poller := if s.stopped then .exited else .taking }
  | .batch [] => some { s with poller := .idle }
  | .batch ((none, _) :: rest) => some { s with poller := .batch rest }
  | .batch ((some sample, k) :: rest) =>
    match env.carriage.receive env.config.toDdsConfig sample with
    | .own => some { s with poller := .batch rest }
    | .malformed detail =>
      some { s with health := s.health.record .malformedSample detail, poller := .batch rest }
    | .accepted message =>
      let regs := s.registry.matching (env.carriage.source message) (env.carriage.sink message)
      some { s with poller := .fanout k message regs rest }
  | .fanout _ _ [] rest => some { s with poller := .batch rest }
  | .fanout k message (reg :: regs) rest =>
    match s.trySend env ⟨k, reg, message⟩ with
    | .ok queue => some { s with queue := queue, poller := .fanout k message regs rest }
    | .error detail => some { s with poller := .rejecting detail k message reg regs rest }
  | .rejecting detail k message _ regs rest =>
    some { s with health := s.health.record .dispatchBackpressure detail
                  poller := .fanout k message regs rest }
  | _ => none

/-- `reader.take` returns to the poller. -/
def take (env : Env UUri Sample Message) (s : State UUri Listener Sample Message)
    (result : Except DdsError (List (Option Sample))) :
    Option (State UUri Listener Sample Message) :=
  match s.poller, result with
  | .taking, .ok samples =>
    some { s with poller := .batch (samples.zipIdx s.taken), taken := s.taken + samples.length }
  | .taking, .error error =>
    if error.kind = .noData then
      some { s with poller := .idle }
    else
      let detail := env.carriage.name ++ " reader take: " ++ error.text
      some { s with health := s.health.record .dds detail, poller := .idle }
  | _, _ => none

/-- The poller thread unwinds and drops its sender. -/
def pollerPanic (s : State UUri Listener Sample Message) :
    Option (State UUri Listener Sample Message) :=
  if s.poller.ended then
    none
  else
    some { s with poller := .panicked s.poller.toSubmit s.poller.unhandled }

/-! ### The dispatcher -/

/-- The next step of the dispatcher: `start_dispatcher`'s loop, the job
    closure and `run_callback`. -/
def dispatcherNext (s : State UUri Listener Sample Message) :
    Option (State UUri Listener Sample Message) :=
  match s.dispatcher with
  | .receiving =>
    match s.queue with
    | job :: queue => some { s with queue := queue, dispatcher := .starting job }
    | [] => if s.poller.ended then some { s with dispatcher := .exited } else none
  | .starting job =>
    match s.registry.begin job.reg with
    | none => some { s with dispatcher := .finishing }
    | some registry => some { s with registry := registry, dispatcher := .spawning job }
  | .spawning job =>
    -- a runtime that is shut down drops the future inside `spawn`
    let phase := if s.shutdown then .dropping .cancelled else .spawned
    some { s with tasks := s.tasks ++ [⟨job, false, phase⟩]
                  dispatcher := .waiting job s.tasks.length }
  | .waiting job t =>
    if s.finished t || s.stopped then some { s with dispatcher := .checkStop job t } else none
  | .checkStop job t =>
    some { s with dispatcher := if s.stopped then .checkFinished job t else .joining job t }
  | .checkFinished job t =>
    if s.finished t then
      some { s with dispatcher := .joining job t }
    else
      some { s with tasks := s.tasks.modify t fun task => { task with aborted := true }
                    dispatcher := .joining job t }
  | .joining _ t =>
    match s.outcome t with
    | some .returned => some { s with dispatcher := .finishing }
    | some _ => some { s with dispatcher := .failed }
    | none => none
  | .failed => some { s with dispatcher := if s.stopped then .finishing else .counting }
  | .counting =>
    some { s with health := s.health.record .callbackPanic "listener callback panicked"
                  dispatcher := .finishing }
  | .finishing => some { s with dispatcher := .receiving }
  | .caught =>
    some { s with health := s.health.record .callbackPanic "listener callback panicked"
                  dispatcher := .receiving }
  | .exited => none

/-- A destructor of what the job closure still owns panics. -/
def jobUnwind (s : State UUri Listener Sample Message) :
    Option (State UUri Listener Sample Message) :=
  match s.dispatcher with
  | .finishing => some { s with dispatcher := .caught }
  | _ => none

/-! ### Listener futures -/

/-- Future `t` moves to `phase`. -/
@[simps] def setPhase (s : State UUri Listener Sample Message) (t : TaskId) (phase : Phase) :
    State UUri Listener Sample Message :=
  { s with tasks := withPhase s.tasks t phase }

/-- A worker polls the future. From the slot of a worker no other worker takes
    it. -/
def poll (env : Env UUri Sample Message) (s : State UUri Listener Sample Message) (t : TaskId) :
    Option (State UUri Listener Sample Message) :=
  match s.tasks[t]? with
  | some task =>
    if task.phase.pollable ∧ task.aborted = false ∧ s.shutdown = false ∧ s.driven ∧
        s.busy < env.workers ∧ s.slotted task = false then
      some (s.setPhase t .polling)
    else
      none
  | none => none

/-- The poll ends: the callback waits, returns or panics. -/
def endPoll (s : State UUri Listener Sample Message) (t : TaskId) (phase : Phase) :
    Option (State UUri Listener Sample Message) :=
  match s.tasks[t]? with
  | some task =>
    if task.phase = .polling ∧ s.inCall t = false then some (s.setPhase t phase) else none
  | none => none

/-- The task that `occupant` stands for wakes up the future, which goes to the
    slot of its worker. -/
def wakeTask (s : State UUri Listener Sample Message) (t : TaskId) (occupant : Occupant) :
    Option (State UUri Listener Sample Message) :=
  match s.tasks[t]? with
  | some task =>
    if task.phase = .suspended ∧ s.canWake occupant then
      some (s.setPhase t (.woken occupant))
    else
      none
  | none => none

/-- A worker drops the future because it was aborted, or because its runtime
    shuts down. An aborted future is taken like any other, whereas a shutdown
    drops all futures, wherever they are. -/
def cancel (env : Env UUri Sample Message) (s : State UUri Listener Sample Message)
    (t : TaskId) : Option (State UUri Listener Sample Message) :=
  match s.tasks[t]? with
  | some task =>
    if task.phase.pollable ∧ s.busy < env.workers ∧
        (task.aborted ∧ s.driven ∧ s.slotted task = false ∨ s.shutdown) then
      some (s.setPhase t (.dropping .cancelled))
    else
      none
  | none => none

/-- `idle.notify_all` of registration `r`. -/
@[simps] def notifyIdle (s : State UUri Listener Sample Message) (r : RegId) :
    State UUri Listener Sample Message :=
  { s with calls := s.calls.map fun call => { call with pc := call.pc.notify r }
           drop := s.drop.notify r }

/-- `InFlight::drop` of the guard that future `t` holds. -/
def release (s : State UUri Listener Sample Message) (t : TaskId) :
    Option (State UUri Listener Sample Message) :=
  match s.tasks[t]? with
  | some ⟨job, _, .dropping outcome⟩ =>
    let s := { s with registry := s.registry.release job.reg }.setPhase t (.released outcome)
    some (if s.registry.inFlight job.reg = 0 then s.notifyIdle job.reg else s)
  | _ => none

/-- The future is dropped completely and its join handle finishes. -/
def complete (s : State UUri Listener Sample Message) (t : TaskId) :
    Option (State UUri Listener Sample Message) :=
  match s.tasks[t]? with
  | some ⟨_, _, .released outcome⟩ => some (s.setPhase t (.complete outcome))
  | _ => none

/-! ### `Drop` -/

/-- The last owner drops the transport: no call borrows it any more. -/
def enterDrop (env : Env UUri Sample Message) (s : State UUri Listener Sample Message)
    (site : Site) : Option (State UUri Listener Sample Message) :=
  if s.drop = .live ∧ s.calls.all (·.pc.done) ∧ s.canEnter env.workers site then
    some { s with drop := .stopping, dropSite := site }
  else
    none

/-- The loop condition of `deactivate_and_wait`, under the lock of `r`. -/
def drainOn (s : State UUri Listener Sample Message) (r : RegId) (regs : List RegId) : DropPc :=
  if s.registry.inFlight r = 0 then .draining regs else .asleep r regs

/-- The next step of `Drop`, outside the DDS delete calls. -/
def dropNext (env : Env UUri Sample Message) (s : State UUri Listener Sample Message) :
    Option (State UUri Listener Sample Message) :=
  match s.drop with
  | .stopping => some { s with stopped := true, drop := .joiningPoller }
  | .joiningPoller =>
    let name := env.carriage.name ++ " poller"
    match s.poller with
    | .exited => some { s with health := joinWorker s.health name false, drop := .takingEntries }
    | .panicked _ _ =>
      some { s with health := joinWorker s.health name true, drop := .takingEntries }
    | _ => none
  | .takingEntries =>
    some { s with registry := s.registry.takeEntries, drop := .draining s.registry.entries }
  | .draining (r :: regs) =>
    some { s with registry := s.registry.deactivate r, drop := s.drainOn r regs }
  | .draining [] => some { s with drop := .joiningDispatcher }
  | .awake r regs => some { s with drop := s.drainOn r regs }
  | .joiningDispatcher =>
    -- the dispatcher catches the panics of its jobs and has none of its own
    if s.dispatcher.ended then some { s with drop := .deletingContained } else none
  | _ => none

/-- A spurious wake-up of `Drop`. -/
def wakeDrop (s : State UUri Listener Sample Message) :
    Option (State UUri Listener Sample Message) :=
  match s.drop with
  | .asleep r regs => some { s with drop := .awake r regs }
  | _ => none

/-- The health after a DDS delete call of `Drop`. -/
def recordTeardown (health : HealthState) (context : String) : Option DdsError → HealthState
  | none => health
  | some error => health.record .teardown (context ++ ": " ++ error.text)

/-- `delete_contained_entities`, then `delete_participant`. -/
def deleted (env : Env UUri Sample Message) (s : State UUri Listener Sample Message)
    (error : Option DdsError) : Option (State UUri Listener Sample Message) :=
  match s.drop with
  | .deletingContained =>
    let context := "delete " ++ env.carriage.name ++ " contained entities"
    some { s with health := recordTeardown s.health context error, drop := .deletingParticipant }
  | .deletingParticipant =>
    let context := "delete " ++ env.carriage.name ++ " participant"
    some { s with health := recordTeardown s.health context error, drop := .returned }
  | _ => none

/-! ### The transition function -/

def next [DecidableEq UUri] [UriMatches UUri] [DecidableEq Listener]
    (env : Env UUri Sample Message) (s : State UUri Listener Sample Message) :
    Label UUri Listener Sample → Option (State UUri Listener Sample Message)
  | .enter site request => s.enter env site request
  | .advance c => s.advance env c
  | .wake c => s.wake c
  | .poller => s.pollerNext env
  | .take result => s.take env result
  | .pollerPanic => s.pollerPanic
  | .dispatcher => s.dispatcherNext
  | .jobUnwind => s.jobUnwind
  | .poll t => s.poll env t
  | .suspend t => s.endPoll t .suspended
  | .wakeTask t occupant => s.wakeTask t occupant
  | .finish t panicked => s.endPoll t (.dropping (if panicked then .panicked else .returned))
  | .cancel t => s.cancel env t
  | .release t => s.release t
  | .complete t => s.complete t
  | .enterDrop site => s.enterDrop env site
  | .drop => s.dropNext env
  | .wakeDrop => s.wakeDrop
  | .deleted error => s.deleted env error
  | .occupy =>
    if s.driven ∧ s.busy < env.workers then some { s with polls := s.polls ++ [true] } else none
  | .vacate k =>
    if s.polls[k]? = some true then some { s with polls := s.polls.set k false } else none
  | .drive => if s.driven then none else some { s with driven := true }
  | .undrive =>
    if env.workers = 1 ∧ s.busy = 0 ∧ s.driven then some { s with driven := false } else none
  | .shutdownRuntime => some { s with shutdown := true }

end State

/-- A transport in its surroundings, from the return of `with_config` on. -/
def router [DecidableEq UUri] [UriMatches UUri] [DecidableEq Listener]
    (env : Env UUri Sample Message) :
    System (State UUri Listener Sample Message) (Label UUri Listener Sample) :=
  ofNext (· = State.start) (State.next env)

/-! ### A transport to run -/

/-- A sample carries its origin and a topic; topic 0 fails to decode. -/
def topicCarriage : Carriage Topic (String × Nat) Topic where
  name := "topic"
  originId := Prod.fst
  decode := fun sample => if sample.2 = 0 then .error "no topic" else .ok ⟨sample.2⟩
  source := id
  sink := fun _ => none
  verifyFilterCriteria := fun _ _ => .ok ()

/-- The topic transport with the given capacity and number of workers. -/
def topicEnv (capacity workers : Nat) (h : 0 < capacity := by decide) :
    Env Topic (String × Nat) Topic where
  carriage := topicCarriage
  config :=
    { domainId := 0, originId := "self", qos := DdsQos.default, dispatchCapacity := capacity,
      maxSamplesPerPoll := 64, pollInterval := 2000000,
      valid := by
        simp [DdsConfig.validate, DdsQos.default, Nat.ne_of_gt h]
        decide }
  workers := workers

abbrev TopicState := State Topic Nat (String × Nat) Topic

abbrev TopicLabel := Label Topic Nat (String × Nat)

/-- The topic transport with four places in its channel and two workers. -/
abbrev topicRouter : System TopicState TopicLabel := router (topicEnv 4 2)

/-- The run of the given labels, if each is possible in its turn. -/
theorem initRun_of_exec [DecidableEq UUri] [UriMatches UUri] [DecidableEq Listener]
    {env : Env UUri Sample Message} {s : State UUri Listener Sample Message}
    {tr : Trace (State UUri Listener Sample Message) (Label UUri Listener Sample)}
    {ls : List (Label UUri Listener Sample)}
    (h : exec (State.next env) State.start ls = some (tr, s)) : InitRun (router env) tr s :=
  ⟨State.start, rfl, run_of_exec h⟩

end UpTransportDds
