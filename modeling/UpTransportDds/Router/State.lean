import UpTransportDds.Runtime.Config
import UpTransportDds.Runtime.Health
import UpTransportDds.Runtime.Registry

/-! # The running transport: state

  One transport after `with_config`: its registry, its health, the stop token,
  the dispatch channel, and where every party stands that touches them.

  * any number of `register_listener` / `unregister_listener` calls, each
    made from a thread outside the runtime, from a task on one of its
    workers, or from inside a listener callback;
  * the poller thread;
  * the dispatcher thread;
  * the listener futures it spawns on the tokio runtime;
  * the workers of that runtime, and the slot in which a worker keeps a
    future that it has woken up;
  * the thread that drops the transport.

  The three carriage families run the same loops over different samples, so
  the state is generic in `Sample` and in the decoded `Message`.
-/

namespace UpTransportDds

/-! ### What the families differ in -/

/-- The parts of a transport that depend on its carriage family. -/
structure Carriage (UUri Sample Message : Type) where
  /-- The family's name in thread names and error texts. -/
  name : String
  /-- The `origin_id` field of a sample. -/
  originId : Sample → String
  /-- `decode_classic`, `decode_owned` or `decode_zero_copy`. -/
  decode : Sample → Except String Message
  /-- The source a decoded message is routed by. -/
  source : Message → UUri
  /-- The sink a decoded message is routed by. -/
  sink : Message → Option UUri
  /-- The check `register_listener` and `unregister_listener` make first. -/
  verifyFilterCriteria : UUri → Option UUri → Except UStatus Unit

/-- What the poller makes of a sample that carries data. -/
inductive Verdict (Message : Type) where
  /-- `sample.origin_id` is the transport's own. -/
  | own
  /-- The sample fails to decode. -/
  | malformed (detail : String)
  | accepted (message : Message)
  deriving DecidableEq, Repr

/-- The origin check and the decoding at the head of the poller's loop. -/
def Carriage.receive {UUri Sample Message : Type} (carriage : Carriage UUri Sample Message)
    (config : DdsConfig) (sample : Sample) : Verdict Message :=
  if carriage.originId sample = config.originId then
    .own
  else
    match carriage.decode sample with
    | .ok message => .accepted message
    | .error detail => .malformed detail

/-- What is accepted has been decoded. -/
theorem Carriage.decode_of_receive {UUri Sample Message : Type}
    {carriage : Carriage UUri Sample Message} {config : DdsConfig} {sample : Sample}
    {message : Message} (h : carriage.receive config sample = .accepted message) :
    carriage.decode sample = .ok message := by
  unfold receive at h
  split at h
  · contradiction
  · split at h
    · rename_i hdecode
      rw [hdecode, Verdict.accepted.inj h]
    · contradiction

/-- The fixed surroundings of a transport: its family, its configuration and
    the number of workers of the tokio runtime it was given. A current-thread
    runtime has one worker: the thread inside its `block_on`. -/
structure Env (UUri Sample Message : Type) where
  carriage : Carriage UUri Sample Message
  config : ValidConfig
  workers : Nat

/-! ### Addresses -/

abbrev CallId := Nat
abbrev TaskId := Nat
abbrev PollId := Nat

/-! ### Calls -/

/-- The thread a call is made from. A listener does not own its transport, so
    the transport is not dropped by its own poller or dispatcher. -/
inductive Site where
  /-- A thread that is no worker of the runtime. -/
  | external
  /-- A worker of the runtime that is polling some task. -/
  | worker
  /-- The worker that is polling listener future `t`, from inside it. -/
  | callback (t : TaskId)
  deriving DecidableEq, Repr

/-- The arguments of a call. -/
inductive Request (UUri Listener : Type) where
  | register (source : UUri) (sink : Option UUri) (listener : Listener)
  | unregister (source : UUri) (sink : Option UUri) (listener : Listener)
  deriving DecidableEq, Repr

/-- Where a call stands. -/
inductive CallPc (UUri Listener : Type) where
  | registering (source : UUri) (sink : Option UUri) (listener : Listener)
  | removing (source : UUri) (sink : Option UUri) (listener : Listener)
  /-- `r` has left the table; `deactivate_and_wait` is about to lock it. -/
  | deactivating (r : RegId)
  /-- Asleep on the `idle` condition of `r`. -/
  | asleep (r : RegId)
  /-- Woken up, but not yet holding the lock of `r` again. -/
  | awake (r : RegId)
  /-- `unregister` has removed `r` and returned `Ok`. -/
  | unregistered (r : RegId)
  /-- Returned without having removed anything. -/
  | returned (result : Except UStatus Unit)

structure Call (UUri Listener : Type) where
  site : Site
  pc : CallPc UUri Listener

/-! ### The poller -/

/-- One job of the dispatch channel. `sample` numbers the samples in the
    order `take` returned them; no step reads it. -/
structure Job (Message : Type) where
  sample : Nat
  reg : RegId
  message : Message
  deriving DecidableEq, Repr

/-- A taken sample with its number; `none` when `sample.data` is absent. -/
abbrev Taken (Sample : Type) := Option Sample × Nat

/-- Where the poller stands. -/
inductive Poller (Sample Message : Type) where
  /-- In `poll_stop.wait`. -/
  | idle
  /-- In `reader.take`. -/
  | taking
  /-- At the head of the loop over the samples of one batch. -/
  | batch (samples : List (Taken Sample))
  /-- At the head of the loop over the snapshot `regs` of one message. -/
  | fanout (sample : Nat) (message : Message) (regs : List RegId) (rest : List (Taken Sample))
  /-- `try_send` refused the job for `reg`; `submit` is about to record it. -/
  | rejecting (detail : String) (sample : Nat) (message : Message) (reg : RegId)
      (regs : List RegId) (rest : List (Taken Sample))
  | exited
  /-- Ended by a panic, with this work unfinished. -/
  | panicked (jobs : List (Job Message)) (rest : List (Taken Sample))

/-! ### The dispatcher -/

/-- Where the dispatcher stands; the job is the one it is executing. -/
inductive Dispatcher (Message : Type) where
  /-- In `receiver.recv`. -/
  | receiving
  /-- At `registration.begin`. -/
  | starting (job : Job Message)
  /-- Holding the `InFlight` guard, at `runtime.spawn`. -/
  | spawning (job : Job Message)
  /-- In the loop that waits for task `t` or for stop. -/
  | waiting (job : Job Message) (t : TaskId)
  /-- At `stop.is_stopped` of the abort decision. -/
  | checkStop (job : Job Message) (t : TaskId)
  /-- At `task.is_finished` of the abort decision. -/
  | checkFinished (job : Job Message) (t : TaskId)
  /-- In `runtime.block_on(task)`. -/
  | joining (job : Job Message) (t : TaskId)
  /-- The join gave an error; at the last `stop.is_stopped`. -/
  | failed
  /-- About to record a callback panic. -/
  | counting
  /-- The job closure is being dropped. -/
  | finishing
  /-- `catch_unwind` caught a panic of the job; about to record it. -/
  | caught
  | exited

/-! ### Listener futures -/

/-- What keeps a worker of the runtime busy, listener futures apart. -/
inductive Occupant where
  /-- The task that makes call `c`. -/
  | call (c : CallId)
  /-- The task that drops the transport. -/
  | drop
  /-- The poll of an unrelated task with this number. -/
  | poll (k : PollId)
  deriving DecidableEq, Repr

/-- How a listener future ended. -/
inductive Outcome where
  | returned
  | panicked
  | cancelled
  deriving DecidableEq, Repr

/-- Where a spawned future stands. -/
inductive Phase where
  /-- Spawned, not yet polled: the callback has not started. -/
  | spawned
  /-- A worker is polling it. -/
  | polling
  /-- Suspended at an `await`; if it has been woken up, any worker may take it
      from a queue. -/
  | suspended
  /-- Suspended and woken up by the task that `occupant` stands for: it is in
      the LIFO slot of that worker, where no other worker finds it. -/
  | woken (occupant : Occupant)
  /-- The callback has ended; its `InFlight` guard is still to be dropped. -/
  | dropping (outcome : Outcome)
  /-- The guard is dropped, the rest of the future is being dropped. -/
  | released (outcome : Outcome)
  /-- Dropped; the join handle reports it finished. -/
  | complete (outcome : Outcome)
  deriving DecidableEq, Repr

structure Task (Message : Type) where
  job : Job Message
  aborted : Bool
  phase : Phase
  deriving DecidableEq, Repr

/-! ### Dropping the transport -/

/-- Where `Drop` stands. -/
inductive DropPc where
  /-- The transport is alive. -/
  | live
  | stopping
  | joiningPoller
  | takingEntries
  /-- `deactivate_all`, with these entries still to be deactivated. -/
  | draining (regs : List RegId)
  /-- Asleep on the `idle` condition of `r`. -/
  | asleep (r : RegId) (regs : List RegId)
  /-- Woken up, but not yet holding the lock of `r` again. -/
  | awake (r : RegId) (regs : List RegId)
  | joiningDispatcher
  | deletingContained
  | deletingParticipant
  | returned
  deriving DecidableEq, Repr

/-! ### The state -/

structure State (UUri Listener Sample Message : Type) where
  registry : Registry UUri Listener
  calls : List (Call UUri Listener)
  health : HealthState
  /-- The flag of the `StopToken`. -/
  stopped : Bool
  /-- The jobs in the dispatch channel. -/
  queue : List (Job Message)
  /-- How many samples `take` has returned so far. -/
  taken : Nat
  poller : Poller Sample Message
  dispatcher : Dispatcher Message
  /-- Every future ever spawned. -/
  tasks : List (Task Message)
  drop : DropPc
  dropSite : Site
  /-- Every poll of an unrelated task, `true` while a worker is busy with it. -/
  polls : List Bool
  /-- Some thread drives the runtime, which can only fail to be so for a
      current-thread runtime. -/
  driven : Bool
  /-- The tokio runtime has been shut down. -/
  shutdown : Bool

variable {UUri Listener Sample Message : Type}

/-- The state in which `with_config` returns. -/
def State.start : State UUri Listener Sample Message where
  registry := Registry.empty
  calls := []
  health := {}
  stopped := false
  queue := []
  taken := 0
  poller := .idle
  dispatcher := .receiving
  tasks := []
  drop := .live
  dropSite := .external
  polls := []
  driven := true
  shutdown := false

/-! ### Reading the state -/

/-- Has the call returned? -/
def CallPc.done : CallPc UUri Listener → Bool
  | .unregistered _ => true
  | .returned _ => true
  | _ => false

/-- The registration the call has taken out of the table and not yet returned
    for. -/
def CallPc.pending : CallPc UUri Listener → Option RegId
  | .deactivating r => some r
  | .asleep r => some r
  | .awake r => some r
  | _ => none

/-- Has the call done nothing yet? -/
def CallPc.starts : CallPc UUri Listener → Bool
  | .registering _ _ _ => true
  | .removing _ _ _ => true
  | _ => false

/-- Has `Drop` been entered and not yet returned? -/
def DropPc.running : DropPc → Bool
  | .live => false
  | .returned => false
  | _ => true

/-- The registrations `deactivate_all` has taken out of the table and not yet
    waited for. -/
def DropPc.pending : DropPc → List RegId
  | .draining regs => regs
  | .asleep r regs => r :: regs
  | .awake r regs => r :: regs
  | _ => []

/-- Has the poller thread ended, and with it the only sender of the channel? -/
def Poller.ended : Poller Sample Message → Bool
  | .exited => true
  | .panicked _ _ => true
  | _ => false

/-- The jobs of the current message that `submit` has not returned for; after
    a panic, those it will never return for. -/
def Poller.toSubmit : Poller Sample Message → List (Job Message)
  | .fanout sample message regs _ => regs.map (⟨sample, ·, message⟩)
  | .rejecting _ sample message reg regs _ => (reg :: regs).map (⟨sample, ·, message⟩)
  | .panicked jobs _ => jobs
  | _ => []

/-- The samples of the current batch that are still to be looked at; after a
    panic, those that never will be. -/
def Poller.unhandled : Poller Sample Message → List (Taken Sample)
  | .batch samples => samples
  | .fanout _ _ _ rest => rest
  | .rejecting _ _ _ _ _ rest => rest
  | .panicked _ rest => rest
  | _ => []

/-- Has the dispatcher thread ended, and dropped the receiver? -/
def Dispatcher.ended : Dispatcher Message → Bool
  | .exited => true
  | _ => false

/-- The job the dispatcher is executing, until its future has been joined. -/
def Dispatcher.job : Dispatcher Message → Option (Job Message)
  | .starting job => some job
  | .spawning job => some job
  | .waiting job _ => some job
  | .checkStop job _ => some job
  | .checkFinished job _ => some job
  | .joining job _ => some job
  | _ => none

/-- The task the dispatcher is waiting for. -/
def Dispatcher.task : Dispatcher Message → Option TaskId
  | .waiting _ t => some t
  | .checkStop _ t => some t
  | .checkFinished _ t => some t
  | .joining _ t => some t
  | _ => none

/-- Is the join handle finished? -/
def Phase.done : Phase → Bool
  | .complete _ => true
  | _ => false

/-- How the future ended, once the join handle reports it. -/
def Phase.outcome : Phase → Option Outcome
  | .complete outcome => some outcome
  | _ => none

/-- May a worker poll the future next? -/
def Phase.pollable : Phase → Bool
  | .spawned => true
  | .suspended => true
  | .woken _ => true
  | _ => false

/-- Is a worker inside the future? -/
def Phase.onWorker : Phase → Bool
  | .polling => true
  | .dropping _ => true
  | .released _ => true
  | _ => false

/-- Does the future still hold its `InFlight` guard? -/
def Phase.holdsGuard : Phase → Bool
  | .spawned => true
  | .polling => true
  | .suspended => true
  | .woken _ => true
  | .dropping _ => true
  | _ => false

/-- Has the callback started and not yet ended? -/
def Phase.running : Phase → Bool
  | .polling => true
  | .suspended => true
  | .woken _ => true
  | _ => false

namespace State

/-- Is a call or `Drop` in progress inside the callback of task `t`? -/
def inCall (s : State UUri Listener Sample Message) (t : TaskId) : Bool :=
  s.calls.any (fun call => call.site = .callback t && !call.pc.done) ||
    (s.dropSite = .callback t && s.drop.running)

/-- The number of workers that are busy with unrelated tasks. -/
def foreign (s : State UUri Listener Sample Message) : Nat := s.polls.countP id

/-- The number of workers that cannot poll a task now. -/
def busy (s : State UUri Listener Sample Message) : Nat :=
  s.foreign + s.calls.countP (fun call => call.site = .worker && !call.pc.done) +
    (if s.dropSite = .worker ∧ s.drop.running then 1 else 0) +
    s.tasks.countP (·.phase.onWorker)

/-- Does the task still keep its worker busy? -/
def occupied (s : State UUri Listener Sample Message) : Occupant → Bool
  | .call c => (s.calls[c]?).any fun call => !call.pc.done
  | .drop => s.drop.running
  | .poll k => s.polls[k]? = some true

/-- Can the task wake up a future now? Of a task that makes a call the model
    shows the part from that call on, so what it has woken up before counts as
    woken up at the beginning of the call. -/
def canWake (s : State UUri Listener Sample Message) : Occupant → Bool
  | .call c => (s.calls[c]?).any fun call => call.site = .worker && call.pc.starts
  | .drop => s.dropSite = .worker && s.drop = .stopping
  | .poll k => s.polls[k]? = some true

/-- Is the future in the slot of a worker that is busy? -/
def slotted (s : State UUri Listener Sample Message) (task : Task Message) : Bool :=
  match task.phase with
  | .woken occupant => s.occupied occupant
  | _ => false

/-- Where call `c` stands. -/
def callPc (s : State UUri Listener Sample Message) (c : CallId) :
    Option (CallPc UUri Listener) :=
  (s.calls[c]?).map Call.pc

/-- Has the join handle of task `t` finished? -/
def finished (s : State UUri Listener Sample Message) (t : TaskId) : Bool :=
  (s.tasks[t]?).any (·.phase.done)

/-- What joining task `t` yields, once it is finished. -/
def outcome (s : State UUri Listener Sample Message) (t : TaskId) : Option Outcome :=
  (s.tasks[t]?).bind (·.phase.outcome)

/-- Can a call be entered at this site now? -/
def canEnter (s : State UUri Listener Sample Message) (workers : Nat) : Site → Bool
  | .external => true
  | .worker => s.driven && s.busy < workers
  | .callback t => (s.tasks[t]?).any (fun task => task.phase = .polling) && !s.inCall t

/-- A callback of registration `r` has started and not yet ended. -/
def CallbackRunning (s : State UUri Listener Sample Message) (r : RegId) : Prop :=
  ∃ task ∈ s.tasks, task.job.reg = r ∧ task.phase.running = true

end State

end UpTransportDds
