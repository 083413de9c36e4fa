import UpTransportDds.Carriage.Sample

/-! # Frames

  The loops of the families differ in what they make of a sample and in the
  texts they record. The router that is left when both are forgotten carries
  frames: a sample is what the poller makes of it, a message is the frame it
  shows its listener, and the details of the health events are blank.
-/

namespace UpTransportDds

/-! ### Frames -/

/-- What a listener can see of a message in every family. -/
structure Frame (UUri : Type) where
  source : UUri
  sink : Option UUri
  bytes : Bytes
  deriving DecidableEq, Repr

variable {UUri Listener Sample Sample' Message Message' : Type}

/-- The same verdict on the view of a message; the detail of a failure is
    blank. -/
def Verdict.map (view : Message → Message') : Verdict Message → Verdict Message'
  | .own => .own
  | .malformed _ => .malformed ""
  | .accepted message => .accepted (view message)

/-- Carries verdicts on frames. -/
@[simps] def frameCarriage (originId : String) :
    Carriage UUri (Verdict (Frame UUri)) (Frame UUri) where
  name := ""
  originId := fun
    | .own => originId
    | _ => ""
  decode := fun
    | .accepted frame => .ok frame
    | _ => .error ""
  source := Frame.source
  sink := Frame.sink
  verifyFilterCriteria := fun _ _ => .ok ()

/-- A router of frames with this configuration. -/
@[simps] def frameEnv (config : ValidConfig) (workers : Nat) :
    Env UUri (Verdict (Frame UUri)) (Frame UUri) where
  carriage := frameCarriage config.originId
  config := config
  workers := workers

/-- The messages of a family are routed by what they show. -/
structure Carriage.Shows (carriage : Carriage UUri Sample Message)
    (view : Message → Frame UUri) : Prop where
  source : ∀ message, carriage.source message = (view message).source
  sink : ∀ message, carriage.sink message = (view message).sink

/-- What a router makes of a sample, as a frame. -/
def Env.verdict (env : Env UUri Sample Message) (view : Message → Frame UUri) (sample : Sample) :
    Verdict (Frame UUri) :=
  (env.carriage.receive env.config.toDdsConfig sample).map view

theorem ValidConfig.originId_ne (config : ValidConfig) : config.originId ≠ "" := by
  intro hempty
  have hvalid := config.valid
  simp [DdsConfig.validate, hempty] at hvalid

/-- Verdicts are received as they are. -/
theorem receive_frame (config : ValidConfig) (verdict : Verdict Message)
    (view : Message → Frame UUri) :
    (frameCarriage config.originId).receive config.toDdsConfig (verdict.map view) =
      verdict.map view := by
  cases verdict with
  | own => simp [Carriage.receive, Verdict.map, frameCarriage]
  | malformed detail =>
    simp [Carriage.receive, Verdict.map, frameCarriage, config.originId_ne.symm]
  | accepted message =>
    simp [Carriage.receive, Verdict.map, frameCarriage, config.originId_ne.symm]

theorem receive_verdict (env : Env UUri Sample Message) (view : Message → Frame UUri)
    (sample : Sample) :
    (frameCarriage env.config.originId).receive env.config.toDdsConfig (env.verdict view sample) =
      (env.carriage.receive env.config.toDdsConfig sample).map view :=
  receive_frame env.config _ view

/-! ### Seeing a state -/

@[simps] def Job.map (view : Message → Message') (job : Job Message) : Job Message' where
  sample := job.sample
  reg := job.reg
  message := view job.message

@[simps] def Task.map (view : Message → Message') (task : Task Message) : Task Message' where
  job := task.job.map view
  aborted := task.aborted
  phase := task.phase

def Taken.map (see : Sample → Sample') (taken : Taken Sample) : Taken Sample' :=
  (taken.1.map see, taken.2)

def Poller.map (see : Sample → Sample') (view : Message → Message') :
    Poller Sample Message → Poller Sample' Message'
  | .idle => .idle
  | .taking => .taking
  | .batch samples => .batch (samples.map (Taken.map see))
  | .fanout k message regs rest => .fanout k (view message) regs (rest.map (Taken.map see))
  | .rejecting detail k message reg regs rest =>
    .rejecting detail k (view message) reg regs (rest.map (Taken.map see))
  | .exited => .exited
  | .panicked jobs rest => .panicked (jobs.map (Job.map view)) (rest.map (Taken.map see))

def Dispatcher.map (view : Message → Message') :
    Dispatcher Message → Dispatcher Message'
  | .receiving => .receiving
  | .starting job => .starting (job.map view)
  | .spawning job => .spawning (job.map view)
  | .waiting job t => .waiting (job.map view) t
  | .checkStop job t => .checkStop (job.map view) t
  | .checkFinished job t => .checkFinished (job.map view) t
  | .joining job t => .joining (job.map view) t
  | .failed => .failed
  | .counting => .counting
  | .finishing => .finishing
  | .caught => .caught
  | .exited => .exited

@[simps] def State.map (see : Sample → Sample') (view : Message → Message')
    (s : State UUri Listener Sample Message) : State UUri Listener Sample' Message' where
  registry := s.registry
  calls := s.calls
  health := s.health.eraseDetails
  stopped := s.stopped
  queue := s.queue.map (Job.map view)
  taken := s.taken
  poller := s.poller.map see view
  dispatcher := s.dispatcher.map view
  tasks := s.tasks.map (Task.map view)
  drop := s.drop
  dropSite := s.dropSite
  polls := s.polls
  driven := s.driven
  shutdown := s.shutdown

def Label.map (see : Sample → Sample') :
    Label UUri Listener Sample → Label UUri Listener Sample'
  | .enter site request => .enter site request
  | .advance c => .advance c
  | .wake c => .wake c
  | .poller => .poller
  | .take (.ok samples) => .take (.ok (samples.map (Option.map see)))
  | .take (.error error) => .take (.error error)
  | .pollerPanic => .pollerPanic
  | .dispatcher => .dispatcher
  | .jobUnwind => .jobUnwind
  | .poll t => .poll t
  | .suspend t => .suspend t
  | .wakeTask t occupant => .wakeTask t occupant
  | .finish t panicked => .finish t panicked
  | .cancel t => .cancel t
  | .release t => .release t
  | .complete t => .complete t
  | .enterDrop site => .enterDrop site
  | .drop => .drop
  | .wakeDrop => .wakeDrop
  | .deleted error => .deleted error
  | .occupy => .occupy
  | .vacate k => .vacate k
  | .drive => .drive
  | .undrive => .undrive
  | .shutdownRuntime => .shutdownRuntime

/-- The state with the details of its health events blanked. -/
@[simps] def State.quiet (s : State UUri Listener Sample Message) :
    State UUri Listener Sample Message :=
  { s with health := s.health.eraseDetails }

/-! ### What can be read off the view -/

section reading
variable {see : Sample → Sample'} {view : Message → Message'}
  {s : State UUri Listener Sample Message}

@[simp] theorem ended_map (poller : Poller Sample Message) :
    (poller.map see view).ended = poller.ended := by
  cases poller <;> rfl

@[simp] theorem dispatcher_ended_map (dispatcher : Dispatcher Message) :
    (dispatcher.map view).ended = dispatcher.ended := by
  cases dispatcher <;> rfl

theorem toSubmit_map (poller : Poller Sample Message) :
    (poller.map see view).toSubmit = poller.toSubmit.map (Job.map view) := by
  cases poller <;> simp [Poller.map, Poller.toSubmit, Job.map]

theorem unhandled_map (poller : Poller Sample Message) :
    (poller.map see view).unhandled = poller.unhandled.map (Taken.map see) := by
  cases poller <;> simp [Poller.map, Poller.unhandled]

@[simp] theorem busy_map : (s.map see view).busy = s.busy := by
  simp [State.busy, State.foreign, List.countP_map, Function.comp_def]

@[simp] theorem inCall_map (t : TaskId) : (s.map see view).inCall t = s.inCall t := by
  simp [State.inCall]

@[simp] theorem occupied_map (occupant : Occupant) :
    (s.map see view).occupied occupant = s.occupied occupant := by
  cases occupant <;> simp [State.occupied]

@[simp] theorem canWake_map (occupant : Occupant) :
    (s.map see view).canWake occupant = s.canWake occupant := by
  cases occupant <;> simp [State.canWake]

@[simp] theorem slotted_map (task : Task Message) :
    (s.map see view).slotted (task.map view) = s.slotted task := by
  cases hphase : task.phase <;> simp [State.slotted, hphase]

@[simp] theorem callPc_map (c : CallId) : (s.map see view).callPc c = s.callPc c := by
  simp [State.callPc]

@[simp] theorem finished_map (t : TaskId) : (s.map see view).finished t = s.finished t := by
  cases htask : s.tasks[t]? <;> simp [State.finished, htask]

@[simp] theorem outcome_map (t : TaskId) : (s.map see view).outcome t = s.outcome t := by
  cases htask : s.tasks[t]? <;> simp [State.outcome, htask]

@[simp] theorem canEnter_map (workers : Nat) (site : Site) :
    (s.map see view).canEnter workers site = s.canEnter workers site := by
  cases site with
  | callback t => cases htask : s.tasks[t]? <;> simp [State.canEnter, htask]
  | _ => simp [State.canEnter]

@[simp] theorem waitOn_map (r : RegId) : (s.map see view).waitOn r = s.waitOn r := rfl

@[simp] theorem drainOn_map (r : RegId) (regs : List RegId) :
    (s.map see view).drainOn r regs = s.drainOn r regs := rfl

/-- A change of one task that looks at nothing of its message. -/
theorem modify_map {change : Task Message → Task Message}
    {change' : Task Message' → Task Message'}
    (h : ∀ task, (change task).map view = change' (task.map view)) (tasks : List (Task Message))
    (t : TaskId) :
    (tasks.modify t change).map (Task.map view) = (tasks.map (Task.map view)).modify t change' := by
  apply List.ext_getElem?
  intro i
  by_cases hi : t = i
  · subst hi
    cases htask : tasks[t]? <;> simp [htask, h]
  · simp [hi]

@[simp] theorem withPhase_map (tasks : List (Task Message)) (t : TaskId) (phase : Phase) :
    (withPhase tasks t phase).map (Task.map view) =
      withPhase (tasks.map (Task.map view)) t phase := by
  apply modify_map
  intro task
  rfl

theorem abort_map (tasks : List (Task Message)) (t : TaskId) :
    (tasks.modify t fun task => { task with aborted := true }).map (Task.map view) =
      (tasks.map (Task.map view)).modify t fun task => { task with aborted := true } := by
  apply modify_map
  intro task
  rfl

end reading

end UpTransportDds
