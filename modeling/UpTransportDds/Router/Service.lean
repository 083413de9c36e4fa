import UpTransportDds.Router.Calls
import UpTransportDds.Router.Termination

/-! # In service

  As long as nobody drops a transport, shuts down its runtime or calls it from
  inside the runtime, somebody can always go on with the samples and the jobs
  that are there, and every step of poller, dispatcher or future brings them
  closer to their end. Only a callback that waits goes on for free.
-/

namespace UpTransportDds

open LTS

variable {UUri Listener Sample Message : Type}

/-! ### In service -/

/-- Calls come from threads outside the runtime; nobody drops the transport,
    shuts its runtime down or leaves it undriven, and the poller does not
    panic. -/
def Label.Serving : Label UUri Listener Sample → Prop
  | .enter site _ => site = .external
  | .enterDrop _ => False
  | .shutdownRuntime => False
  | .undrive => False
  | .pollerPanic => False
  | _ => True

/-- What is true of a transport in service. -/
structure InService (s : State UUri Listener Sample Message) : Prop where
  live : s.drop = .live
  running : s.stopped = false
  up : s.shutdown = false
  driven : s.driven = true
  polling : s.poller.ended = false
  unaborted : ∀ (t : TaskId) (task : Task Message), s.tasks[t]? = some task → task.aborted = false
  outside : ∀ call : Call UUri Listener, call ∈ s.calls → call.pc.done = false →
    call.site = .external

/-- The steps a future has left, if it does not wait any more. -/
def Phase.left : Phase → Nat
  | .spawned => 5
  | .suspended => 6
  | .woken _ => 5
  | .polling => 4
  | .dropping _ => 3
  | .released _ => 1
  | .complete _ => 0

namespace State

/-- The future that belongs to the job of the dispatcher, be it spawned or
    not. -/
def currentTask (s : State UUri Listener Sample Message) : TaskId :=
  s.dispatcher.task.getD s.tasks.length

/-- Is future `t` in the slot of a worker that is busy? -/
def kept (s : State UUri Listener Sample Message) (t : TaskId) : Bool :=
  (s.tasks[t]?).any s.slotted

/-- The steps that dispatcher and future have left until the next job. -/
def serviceWork (s : State UUri Listener Sample Message) : Nat :=
  s.dispatcher.work +
    ((s.dispatcher.task.bind fun t => s.tasks[t]?).map fun task => task.phase.left).getD 0

/-- Whose turn it is. -/
def attendant (s : State UUri Listener Sample Message) : Party :=
  match s.dispatcher with
  | .waiting _ t => if s.finished t then .dispatcher else .future
  | _ => .dispatcher

end State

/-- The samples of the batch come first, then the jobs of the message. -/
def Poller.rank : Poller Sample Message → Nat ×ₗ Nat
  | .taking => toLex (0, 0)
  | .idle => toLex (0, 1)
  | .batch samples => toLex (samples.length, 2)
  | .fanout _ _ regs rest => toLex (rest.length, 2 * regs.length + 3)
  | .rejecting _ _ _ _ regs rest => toLex (rest.length, 2 * regs.length + 4)
  | .exited => toLex (0, 0)
  | .panicked _ _ => toLex (0, 0)

/-! ### A transport stays in service -/

section calls
variable {s : State UUri Listener Sample Message} {c : CallId} {pc old : CallPc UUri Listener}
  {calls : List (Call UUri Listener)} {t : TaskId} {task : Task Message} {phase : Phase}

/-- A call that goes on is made from where it was. -/
theorem InService.setPc (h : InService s) (hpc : s.callPc c = some old) (hdone : old.done = false)
    {registry : Registry UUri Listener} :
    InService ({ s with registry := registry }.setPc c pc) := by
  refine { h with outside := ?_ }
  intro call hcall hopen
  rcases mem_modify hcall with hold | ⟨caller, hcaller, rfl⟩
  · exact h.outside call hold hopen
  · rw [State.callPc, hcaller] at hpc
    obtain rfl := Option.some.inj hpc
    exact h.outside caller (List.mem_of_getElem? hcaller) hdone

/-- A future that moves to another phase stays unaborted. -/
theorem InService.withPhase (h : InService s) (htask : s.tasks[t]? = some task) (t' : TaskId)
    (task' : Task Message) (htask' : (withPhase s.tasks t phase)[t']? = some task') :
    task'.aborted = false := by
  rcases withPhase_cases htask htask' with ⟨-, rfl⟩ | ⟨-, hold⟩
  · exact h.unaborted t task htask
  · exact h.unaborted t' task' hold

end calls

section steps
variable [DecidableEq UUri] [UriMatches UUri] [DecidableEq Listener]
variable {env : Env UUri Sample Message} {s s' : State UUri Listener Sample Message}
  {l : Label UUri Listener Sample}

/-- **Step lemma**: a transport in service stays in service. -/
theorem inService_step (hj : Joinable s.stopped s.dispatcher s.tasks) (h : InService s)
    (hl : l.Serving) (hstep : Step env s l s') : InService s' := by
  have hlive := h.live
  cases hstep with
  | enter site request =>
    refine { h with outside := ?_ }
    intro call hcall hopen
    rcases List.mem_append.mp hcall with hold | hnew
    · exact h.outside call hold hopen
    · rw [List.mem_singleton.mp hnew]
      exact hl
  | registerFail c hpc | register c hpc | removeFail c hpc | remove c hpc | deactivate c hpc
  | recheck c hpc | wake c hpc => exact h.setPc hpc rfl
  | pollStop hpc hstop =>
    rw [h.running] at hstop
    contradiction
  | spawn hpc =>
    refine { h with unaborted := ?_ }
    intro t task htask
    rcases List.mem_append.mp (List.mem_of_getElem? htask) with hold | hnew
    · obtain ⟨t', htask'⟩ := List.mem_iff_getElem?.mp hold
      exact h.unaborted t' task htask'
    · rw [List.mem_singleton.mp hnew]
  -- only a stop makes the dispatcher abort
  | abort hpc =>
    rw [hpc] at hj
    rw [Joinable, h.running] at hj
    contradiction
  | poll t htask | suspend t htask | wakeTask t occupant htask | finish t panicked htask
  | cancel t htask | complete t htask | release t htask =>
    exact { h with unaborted := h.withPhase htask }
  | @releaseLast t job aborted outcome htask =>
    refine { h with live := ?_, unaborted := h.withPhase htask, outside := ?_ }
    · show s.drop.notify job.reg = .live
      rw [hlive]
      rfl
    · intro call hcall hopen
      obtain ⟨old, hold, rfl⟩ := List.mem_map.mp hcall
      rw [CallPc.done_notify] at hopen
      exact h.outside old hold hopen
  | enterDrop | shutdownRuntime | undrive | pollerPanic => contradiction
  | stop hpc | joinPoller hpc | joinPanicked hpc | takeEntries hpc | drain hpc | drained hpc
  | recheckDrop hpc | wakeDrop hpc | joinDispatcher hpc | deleteContained _ hpc
  | deleteParticipant _ hpc =>
    rw [hlive] at hpc
    contradiction
  | _ => first | exact { h with } | exact { h with polling := rfl } | exact { h with driven := rfl }

end steps

/-! ### What poller and dispatcher have ahead of them -/

section poller
variable [DecidableEq UUri] [UriMatches UUri] [DecidableEq Listener]
variable {env : Env UUri Sample Message} {s s' : State UUri Listener Sample Message}
  {l : Label UUri Listener Sample}

/-- Every step of the poller comes closer to the next `take`. -/
theorem pollerRank_step (hrunning : s.stopped = false) (hended : s'.poller.ended = false)
    (htake : ¬ (s.poller = .taking ∧ l.party = .poller)) (h : Step env s l s') :
    s'.poller.rank < s.poller.rank ∨ s'.poller.rank = s.poller.rank ∧ l.party ≠ .poller := by
  -- within a message, or on to the next one
  have hwithin : ∀ {n i j : Nat}, i < j → toLex (n, i) < toLex (n, j) :=
    fun hless => Prod.Lex.toLex_lt_toLex.mpr (.inr ⟨rfl, hless⟩)
  have honward : ∀ {n i j : Nat}, toLex (n, i) < toLex (n + 1, j) :=
    Prod.Lex.toLex_lt_toLex.mpr (.inl (Nat.lt_succ_self _))
  cases h with
  | pollStop hpc hstop =>
    rw [hrunning] at hstop
    contradiction
  | pollRun hpc =>
    rw [hpc]
    exact .inl (hwithin Nat.zero_lt_one)
  | takeOk samples hpc | takeNoData error hpc | takeError error hpc => exact absurd ⟨hpc, rfl⟩ htake
  | batchDone hpc =>
    rw [hpc]
    exact .inl (hwithin Nat.one_lt_two)
  | sampleEmpty hpc | sampleOwn hpc | sampleMalformed hpc | sampleAccepted hpc =>
    rw [hpc]
    exact .inl honward
  | fanoutDone hpc =>
    rw [hpc]
    exact .inl (hwithin (Nat.lt_succ_self 2))
  | submitOk hpc | submitFail hpc =>
    rw [hpc]
    refine .inl (hwithin ?_)
    rw [List.length_cons]
    omega
  | reject hpc =>
    rw [hpc]
    exact .inl (hwithin (Nat.lt_succ_self _))
  | pollerPanic => contradiction
  | _ => exact .inr ⟨rfl, by simp [Label.party]⟩

/-- In `take`, the poller does nothing but return. -/
theorem take_of_taking (hpc : s.poller = .taking) (hparty : l.party = .poller)
    (hended : s'.poller.ended = false) (h : Step env s l s') : ∃ result, l = .take result := by
  cases h with
  | takeOk samples => exact ⟨.ok samples, rfl⟩
  | takeNoData error => exact ⟨.error error, rfl⟩
  | takeError error => exact ⟨.error error, rfl⟩
  | pollerPanic => contradiction
  | _ => simp_all [Label.party]

theorem enabled_of_step (h : Step env s l s') : (router env).Enabled Label.party l.party s :=
  ⟨l, s', rfl, h.next_eq⟩

/-- The poller can always go on. -/
theorem poller_enabled (hended : s.poller.ended = false) :
    (router env).Enabled Label.party .poller s := by
  cases hpc : s.poller with
  | idle =>
    cases hstop : s.stopped with
    | false => exact enabled_of_step (.pollRun hpc hstop)
    | true => exact enabled_of_step (.pollStop hpc hstop)
  | taking => exact enabled_of_step (.takeOk [] hpc)
  | batch samples =>
    cases samples with
    | nil => exact enabled_of_step (.batchDone hpc)
    | cons head rest =>
      obtain ⟨_ | sample, k⟩ := head
      · exact enabled_of_step (.sampleEmpty hpc)
      · cases hverdict : env.carriage.receive env.config.toDdsConfig sample with
        | own => exact enabled_of_step (.sampleOwn hpc hverdict)
        | malformed detail => exact enabled_of_step (.sampleMalformed hpc hverdict)
        | accepted message => exact enabled_of_step (.sampleAccepted hpc hverdict)
  | fanout k message regs rest =>
    cases regs with
    | nil => exact enabled_of_step (.fanoutDone hpc)
    | cons reg regs =>
      cases hsend : s.trySend env ⟨k, reg, message⟩ with
      | ok queue => exact enabled_of_step (.submitOk hpc hsend)
      | error detail => exact enabled_of_step (.submitFail hpc hsend)
  | rejecting detail k message reg regs rest => exact enabled_of_step (.reject hpc)
  | exited | panicked =>
    rw [hpc] at hended
    contradiction

end poller

section dispatcher
variable {s : State UUri Listener Sample Message} {t : TaskId} {task : Task Message}
  {phase : Phase}

/-- A future that comes closer to its end. -/
theorem serviceWork_withPhase (hcur : s.dispatcher.task = some t) (htask : s.tasks[t]? = some task)
    (hless : phase.left < task.phase.left) : (s.setPhase t phase).serviceWork < s.serviceWork := by
  have hphase : (withPhase s.tasks t phase)[t]? = some { task with phase := phase } :=
    withPhase_self htask
  unfold State.serviceWork
  rw [State.setPhase_dispatcher, State.setPhase_tasks, hcur, Option.bind_some, Option.bind_some,
    hphase, htask]
  show s.dispatcher.work + phase.left < s.dispatcher.work + task.phase.left
  omega

theorem Phase.left_of_pollable (h : phase.pollable = true) : 4 < phase.left := by
  cases phase with
  | spawned | woken => exact Nat.lt_succ_self 4
  | suspended => exact Nat.lt_of_succ_lt (Nat.lt_succ_self 5)
  | _ => contradiction

variable [DecidableEq UUri] [UriMatches UUri] [DecidableEq Listener]
variable {env : Env UUri Sample Message} {s' : State UUri Listener Sample Message}
  {l : Label UUri Listener Sample}

/-- Every step of dispatcher and future comes closer to the next job, unless
    the callback has to wait. -/
theorem serviceWork_step (hs : Serial s.dispatcher s.tasks) (hup : s.shutdown = false)
    (hwait : s.dispatcher.job.isSome = true → l ≠ .suspend s.currentTask)
    (hrecv : ¬ (s.dispatcher = .receiving ∧ l.party = .dispatcher)) (h : Step env s l s') :
    s'.serviceWork < s.serviceWork ∨
      s'.serviceWork = s.serviceWork ∧ s'.attendant = s.attendant ∧ l.party ≠ s.attendant := by
  have hcur : ∀ {t : TaskId} {task : Task Message}, s.tasks[t]? = some task →
      task.phase.done = false → s.dispatcher.task = some t := fun htask => hs.live _ _ htask
  -- whoever does not work on a job leaves the work to others
  have hothers : l.party ≠ .dispatcher → l.party ≠ .future → l.party ≠ s.attendant := by
    intro hdispatcher hfuture
    unfold State.attendant
    split
    · split
      · exact hdispatcher
      · exact hfuture
    · exact hdispatcher
  cases h with
  | recv hpc | recvClosed hpc => exact absurd ⟨hpc, rfl⟩ hrecv
  | spawn hpc =>
    left
    simp [State.serviceWork, hpc, Dispatcher.work, Dispatcher.task, hup, Phase.left]
  | poll t htask hpoll =>
    have hlive := Phase.not_done_of_holdsGuard (Phase.holdsGuard_of_pollable hpoll)
    exact .inl (serviceWork_withPhase (hcur htask hlive) htask (Phase.left_of_pollable hpoll))
  | cancel t htask hpoll =>
    have hlive := Phase.not_done_of_holdsGuard (Phase.holdsGuard_of_pollable hpoll)
    refine .inl (serviceWork_withPhase (hcur htask hlive) htask ?_)
    exact Nat.lt_of_succ_lt (Phase.left_of_pollable hpoll)
  | suspend t htask hpoll =>
    -- only the future of the current job is polled
    have hcurrent := hcur htask (by rw [hpoll]; rfl)
    obtain ⟨_, -, hjob⟩ := hs.current t hcurrent
    rw [hjob, State.currentTask, hcurrent] at hwait
    exact absurd rfl (hwait rfl)
  | wakeTask t _ htask hpoll =>
    refine .inl (serviceWork_withPhase (hcur htask (by rw [hpoll]; rfl)) htask ?_)
    rw [hpoll]
    exact Nat.lt_succ_self 5
  | finish t panicked htask hpoll =>
    refine .inl (serviceWork_withPhase (hcur htask (by rw [hpoll]; rfl)) htask ?_)
    rw [hpoll]
    exact Nat.lt_succ_self 3
  | release t htask | releaseLast t htask =>
    refine .inl (serviceWork_withPhase (hcur htask rfl) htask ?_)
    show 1 < 3
    omega
  | complete t htask =>
    exact .inl (serviceWork_withPhase (hcur htask rfl) htask Nat.zero_lt_one)
  -- an aborted future has no more steps ahead of it than before
  | abort hpc =>
    obtain ⟨task, htask, -⟩ := hs.current _ (by rw [hpc]; rfl)
    left
    simp [State.serviceWork, hpc, htask, Dispatcher.work, Dispatcher.task]
  | beginInactive hpc | beginActive hpc | leaveWait hpc | stopSeen hpc
  | stopUnseen hpc | finishSeen hpc | joinOk hpc | joinError hpc | ignore hpc | blame hpc
  | count hpc | jobDone hpc | jobUnwind hpc | countCaught hpc =>
    left
    simp only [State.serviceWork, hpc, Dispatcher.work, Dispatcher.task, Option.bind_none,
      Option.map_none, Option.getD_none]
    omega
  | _ => exact .inr ⟨rfl, rfl, hothers (by simp [Label.party]) (by simp [Label.party])⟩

/-- The dispatcher stays with the future of its job. -/
theorem currentTask_step (hrecv : ¬ (s.dispatcher = .receiving ∧ l.party = .dispatcher))
    (hjob : s'.dispatcher.job.isSome = true) (h : Step env s l s') :
    s.dispatcher.job.isSome = true ∧ s'.currentTask = s.currentTask := by
  cases h with
  | recv hpc | recvClosed hpc => exact absurd ⟨hpc, rfl⟩ hrecv
  | poll t | suspend t | wakeTask t | finish t | cancel t | release t | releaseLast t
  | complete t =>
    refine ⟨hjob, ?_⟩
    show s.dispatcher.task.getD (withPhase s.tasks t _).length = s.currentTask
    rw [withPhase, List.length_modify]
    rfl
  | beginActive hpc | spawn hpc | leaveWait hpc | stopSeen hpc | stopUnseen hpc
  | finishSeen hpc | abort hpc =>
    unfold State.currentTask
    rw [hpc]
    exact ⟨rfl, rfl⟩
  | beginInactive | joinOk | joinError | ignore | blame | count | jobDone | jobUnwind
  | countCaught => contradiction
  | _ => exact ⟨hjob, rfl⟩

/-- Job number `n` of the channel, as long as the dispatcher is not through
    with the job whose future is `t`. -/
def State.Behind (s : State UUri Listener Sample Message) (t : TaskId) (n : Nat)
    (job : Job Message) : Prop :=
  s.queue[n]? = some job ∧ (s.dispatcher.job.isSome = true → s.currentTask = t)

omit [DecidableEq UUri] [DecidableEq Listener] [UriMatches UUri] in
theorem received_eq_nil (hrecv : ¬ (s.dispatcher = .receiving ∧ l.party = .dispatcher)) :
    received s l = [] := by
  unfold received
  split
  · split
    · exact absurd ⟨‹_›, rfl⟩ hrecv
    · rfl
  · rfl

/-- The first job of the channel is received, the others move up. -/
theorem recv_inv {job : Job Message} {queue : List (Job Message)}
    (hrecv : s.dispatcher = .receiving ∧ l.party = .dispatcher) (hqueue : s.queue = job :: queue)
    (h : Step env s l s') : received s l = [job] ∧ s'.queue = queue := by
  obtain ⟨hpc, hparty⟩ := hrecv
  cases h with
  | recv _ hqueue' =>
    obtain ⟨rfl, rfl⟩ := List.cons.inj (hqueue.symm.trans hqueue')
    simp [received, hpc, hqueue]
  | recvClosed _ hempty =>
    rw [hqueue] at hempty
    contradiction
  | _ => simp_all [Label.party]

theorem behind_step {n : Nat} {job : Job Message}
    (hrecv : ¬ (s.dispatcher = .receiving ∧ l.party = .dispatcher)) (hi : s.Behind t n job)
    (h : Step env s l s') : s'.Behind t n job := by
  constructor
  · have hchannel := channel_step h
    rw [received_eq_nil hrecv, List.nil_append] at hchannel
    rw [← hchannel, List.getElem?_append_left (List.getElem?_eq_some_iff.mp hi.1).1]
    exact hi.1
  · intro hjob
    obtain ⟨hold, hsame⟩ := currentTask_step hrecv hjob h
    exact hsame.trans (hi.2 hold)

/-- In service no future is cancelled. -/
theorem InService.unstarted_eq_nil (hi : InService s) (h : Step env s l s') :
    unstarted s l = [] := by
  cases h with
  | cancel t htask _ _ hcancel =>
    rw [hi.unaborted t _ htask, hi.up] at hcancel
    exact absurd hcancel (by simp)
  | spawn hpc => simp [unstarted, hpc, hi.up]
  | _ => simp [unstarted, *]

/-- A callback that waits has been started. -/
theorem fresh_of_suspend (hs : Serial s.dispatcher s.tasks) (h : Step env s (.suspend t) s') :
    fresh s.dispatcher s.tasks = [] := by
  cases h with
  | suspend t htask hpoll =>
    exact hs.fresh_nil htask (by rw [hpoll]; rfl) (by simp [hpoll])

omit [DecidableEq UUri] [DecidableEq Listener] [UriMatches UUri] in
/-- A callback that has not been started has not been woken up either. -/
theorem not_kept_of_fresh {job : Job Message} (h : job ∈ fresh s.dispatcher s.tasks) :
    s.kept s.currentTask = false := by
  unfold State.kept State.currentTask
  cases hcur : s.dispatcher.task with
  | none => simp
  | some t =>
    unfold fresh at h
    rw [hcur] at h
    dsimp only at h
    split at h
    · rename_i hspawned
      obtain ⟨task, htask, hphase⟩ := (Option.any_eq_true _ _).mp hspawned
      simp [htask, State.slotted, of_decide_eq_true hphase]
    · exact absurd h List.not_mem_nil

/-- A job that is received stays fresh until it is started or skipped. -/
theorem fresh_step {job : Job Message} (hs : Serial s.dispatcher s.tasks) (hi : InService s)
    (h : Step env s l s') (hjob : job ∈ fresh s.dispatcher s.tasks ++ received s l)
    (hnot : job ∉ started s l ++ skipped s l) : job ∈ fresh s'.dispatcher s'.tasks := by
  have hmem := (unstarted_step hs h).subset hjob
  rw [hi.unstarted_eq_nil h, List.append_nil] at hmem
  exact (List.mem_append.mp hmem).resolve_left hnot

end dispatcher

/-! ### How a busy worker lets go of a future -/

section slots
variable {s s' : State UUri Listener Sample Message} {t : TaskId}

/-- Who has a future in the slot of its worker is known: in service it is the
    poll of an unrelated task. -/
def State.SlotsKnown (s : State UUri Listener Sample Message) : Prop :=
  ∀ (t : TaskId) (task : Task Message) (occupant : Occupant), s.tasks[t]? = some task →
    task.phase = .woken occupant → ∃ k, occupant = .poll k ∧ k < s.polls.length

/-- Future `t` is in no slot, or in that of a worker that has gone on. -/
def State.LetGo (s : State UUri Listener Sample Message) (t : TaskId) : Prop :=
  ∀ (task : Task Message) (occupant : Occupant), s.tasks[t]? = some task →
    task.phase = .woken occupant → ∃ k, occupant = .poll k ∧ s.polls[k]? = some false

/-- Future `t` is not suspended, unless it has been woken up. -/
def State.Active (s : State UUri Listener Sample Message) (t : TaskId) : Prop :=
  ∀ task : Task Message, s.tasks[t]? = some task → task.phase ≠ .suspended

theorem State.SlotsKnown.letGo (h : s.SlotsKnown) (hkept : s.kept t = false) : s.LetGo t := by
  intro task occupant htask hwoken
  obtain ⟨k, rfl, hk⟩ := h t task occupant htask hwoken
  refine ⟨k, rfl, ?_⟩
  have hfree : ¬ s.polls[k]? = some true := by
    simpa [State.kept, htask, State.slotted, hwoken, State.occupied] using hkept
  rw [List.getElem?_eq_getElem hk] at hfree ⊢
  simpa using hfree

theorem State.LetGo.not_kept (h : s.LetGo t) : s.kept t = false := by
  unfold State.kept
  rw [Option.any_eq_false]
  intro task htask
  unfold State.slotted
  split
  · rename_i occupant hwoken
    obtain ⟨k, rfl, hpoll⟩ := h task occupant htask hwoken
    simp [State.occupied, hpoll]
  · rfl

variable [DecidableEq UUri] [UriMatches UUri] [DecidableEq Listener]
variable {env : Env UUri Sample Message} {l : Label UUri Listener Sample}

/-- How a future comes to the phase that it is in after a step. -/
inductive Comes (s : State UUri Listener Sample Message) (t : TaskId) :
    Label UUri Listener Sample → Phase → Prop where
  | stays {l : Label UUri Listener Sample} {task : Task Message} (htask : s.tasks[t]? = some task) :
      Comes s t l task.phase
  | suspends : Comes s t (.suspend t) .suspended
  | wakes {occupant : Occupant} {task : Task Message} (htask : s.tasks[t]? = some task)
      (hphase : task.phase = .suspended) (hwake : s.canWake occupant = true) :
      Comes s t (.wakeTask t occupant) (.woken occupant)
  | goesOn {l : Label UUri Listener Sample} {phase : Phase} (hphase : phase ≠ .suspended)
      (hwoken : ∀ occupant, phase ≠ .woken occupant) : Comes s t l phase

omit [DecidableEq UUri] [DecidableEq Listener] [UriMatches UUri] in
theorem comes_withPhase {t' : TaskId} {task task' : Task Message} {phase : Phase}
    (htask : s.tasks[t']? = some task) (htask' : (withPhase s.tasks t' phase)[t]? = some task')
    (hself : t' = t → Comes s t l phase) : Comes s t l task'.phase := by
  rcases withPhase_cases htask htask' with ⟨hsame, rfl⟩ | ⟨-, hold⟩
  · exact hself hsame.symm
  · exact .stays hold

theorem comes_step (h : Step env s l s') {task' : Task Message}
    (htask' : s'.tasks[t]? = some task') : Comes s t l task'.phase := by
  cases h with
  | spawn hpc =>
    by_cases hlt : t < s.tasks.length
    · exact .stays ((List.getElem?_append_left hlt).symm.trans htask')
    · rw [List.getElem?_append_right (Nat.le_of_not_lt hlt)] at htask'
      rw [List.mem_singleton.mp (List.mem_of_getElem? htask')]
      refine .goesOn ?_ ?_ <;> dsimp only <;> split <;> simp
  | @abort _ t' hpc hfin =>
    rw [List.getElem?_modify] at htask'
    obtain ⟨task, htask, rfl⟩ := Option.map_eq_some_iff.mp htask'
    have hstays : Comes s t .dispatcher task.phase := .stays htask
    by_cases hself : t' = t
    · rw [if_pos hself]
      exact hstays
    · rw [if_neg hself]
      exact hstays
  | poll t' htask | cancel t' htask | release t' htask | releaseLast t' htask
  | complete t' htask =>
    exact comes_withPhase htask htask' fun _ => .goesOn (by simp) (by simp)
  | finish t' panicked htask =>
    exact comes_withPhase htask htask' fun _ => .goesOn (by simp) (by simp)
  | suspend t' htask => exact comes_withPhase htask htask' fun hsame => hsame ▸ .suspends
  | wakeTask t' occupant htask hphase hwake =>
    refine comes_withPhase htask htask' ?_
    rintro rfl
    exact .wakes htask hphase hwake
  | _ => exact .stays htask'

theorem polls_step (h : Step env s l s') :
    s.polls.length ≤ s'.polls.length ∧
      ∀ k : PollId, s.polls[k]? = some false → s'.polls[k]? = some false := by
  cases h with
  | occupy =>
    refine ⟨by simp, fun k hk => ?_⟩
    exact (List.getElem?_append_left (List.getElem?_eq_some_iff.mp hk).1).trans hk
  | vacate k' hpoll =>
    refine ⟨by simp, fun k hk => ?_⟩
    show (s.polls.set k' false)[k]? = some false
    rw [List.getElem?_set]
    split
    · rw [if_pos (List.getElem?_eq_some_iff.mp hpoll).1]
    · exact hk
  | _ => exact ⟨Nat.le_refl _, fun _ hk => hk⟩

theorem slotsKnown_step (hi : InService s) (hknown : s.SlotsKnown) (h : Step env s l s') :
    s'.SlotsKnown := by
  intro t task' occupant htask' hwoken
  obtain ⟨hlength, -⟩ := polls_step h
  have hcomes := comes_step h htask'
  rw [hwoken] at hcomes
  generalize hphase : Phase.woken occupant = phase at hcomes
  cases hcomes with
  | stays htask =>
    obtain ⟨k, rfl, hk⟩ := hknown t _ occupant htask hphase.symm
    exact ⟨k, rfl, Nat.lt_of_lt_of_le hk hlength⟩
  | suspends => contradiction
  | wakes htask hsuspended hwake =>
    obtain rfl := Phase.woken.inj hphase
    cases occupant with
    | call c =>
      -- calls come from outside the runtime
      obtain ⟨call, hcall, hstarts⟩ := (Option.any_eq_true _ _).mp hwake
      simp only [Bool.and_eq_true, decide_eq_true_eq] at hstarts
      have hopen : call.pc.done = false := by
        cases hpc : call.pc <;> simp_all [CallPc.starts, CallPc.done]
      rw [hi.outside call (List.mem_of_getElem? hcall) hopen] at hstarts
      exact absurd hstarts.1 (by decide)
    | drop => simp [State.canWake, hi.live] at hwake
    | poll k =>
      have hbusy : s.polls[k]? = some true := of_decide_eq_true hwake
      exact ⟨k, rfl, Nat.lt_of_lt_of_le (List.getElem?_eq_some_iff.mp hbusy).1 hlength⟩
  | goesOn _ hnot => exact absurd hphase.symm (hnot occupant)

/-- Only a wake-up puts a future into a slot. -/
theorem letGo_step (hletGo : s.LetGo t) (hnot : ∀ occupant, l ≠ .wakeTask t occupant)
    (h : Step env s l s') : s'.LetGo t := by
  intro task' occupant htask' hwoken
  obtain ⟨-, hover⟩ := polls_step h
  have hcomes := comes_step h htask'
  rw [hwoken] at hcomes
  generalize hphase : Phase.woken occupant = phase at hcomes
  cases hcomes with
  | stays htask =>
    obtain ⟨k, rfl, hk⟩ := hletGo _ occupant htask hphase.symm
    exact ⟨k, rfl, hover k hk⟩
  | suspends => contradiction
  | wakes => exact absurd rfl (hnot _)
  | goesOn _ hwoken => exact absurd hphase.symm (hwoken occupant)

/-- A future that does not wait again is not woken up again. -/
theorem active_step (hactive : s.Active t) (hnot : l ≠ .suspend t) (h : Step env s l s') :
    s'.Active t ∧ ∀ occupant, l ≠ .wakeTask t occupant := by
  constructor
  · intro task' htask'
    generalize hphase : task'.phase = phase
    have hcomes := comes_step h htask'
    rw [hphase] at hcomes
    cases hcomes with
    | stays htask => exact hactive _ htask
    | suspends => exact absurd rfl hnot
    | wakes => simp
    | goesOn hgoes => exact hgoes
  · rintro occupant rfl
    cases h with
    | wakeTask _ _ htask hphase => exact hactive _ htask hphase

theorem active_of_wakeTask {occupant : Occupant} (h : Step env s (.wakeTask t occupant) s') :
    s'.Active t := by
  cases h with
  | wakeTask _ _ htask =>
    intro task' htask'
    rcases withPhase_cases htask htask' with ⟨-, rfl⟩ | ⟨hne, -⟩
    · simp
    · exact absurd rfl hne

end slots

/-! ### Somebody can always go on -/

section enabled
variable {env : Env UUri Sample Message} {s : State UUri Listener Sample Message} {t : TaskId}
  {task : Task Message}

/-- A worker is left for a future that is on none. -/
theorem InService.worker_free (h : InService s) (hs : Serial s.dispatcher s.tasks)
    (hfree : s.foreign < env.workers) (hcur : s.dispatcher.task = some t)
    (htask : s.tasks[t]? = some task) (hoff : task.phase.onWorker = false) :
    s.busy < env.workers := by
  have hcalls : s.calls.countP Call.occupies = 0 := by
    apply List.countP_eq_zero.mpr
    intro call hcall hoccupies
    simp only [Call.occupies, Bool.and_eq_true, decide_eq_true_eq, Bool.not_eq_true'] at hoccupies
    rw [h.outside call hcall hoccupies.2] at hoccupies
    simp at hoccupies
  have hdrop : s.dropBusy = 0 := by simp [State.dropBusy, h.live, DropPc.running]
  rw [busy_eq, hs.none_onWorker hcur htask hoff, hcalls, hdrop]
  exact hfree

theorem InService.not_inCall (h : InService s) (t : TaskId) : s.inCall t = false := by
  unfold State.inCall
  rw [Bool.or_eq_false_iff, List.any_eq_false]
  refine ⟨?_, by simp [h.live, DropPc.running]⟩
  intro call hcall hinside
  simp only [Bool.and_eq_true, decide_eq_true_eq, Bool.not_eq_true'] at hinside
  rw [h.outside call hcall hinside.2] at hinside
  simp at hinside

variable [DecidableEq UUri] [UriMatches UUri] [DecidableEq Listener]
variable {s' : State UUri Listener Sample Message} {l : Label UUri Listener Sample}

/-- The future that the dispatcher waits for can go on, unless a busy worker
    keeps it. -/
theorem InService.future_enabled (h : InService s) (hs : Serial s.dispatcher s.tasks)
    (hfree : s.foreign < env.workers) (hkept : s.kept t = false)
    (hcur : s.dispatcher.task = some t) (htask : s.tasks[t]? = some task)
    (hlive : task.phase.done = false) : (router env).Enabled Label.party .future s := by
  have hunaborted := h.unaborted t task htask
  have hslot : s.slotted task = false := by simpa [State.kept, htask] using hkept
  have hpolled : task.phase.pollable = true → (router env).Enabled Label.party .future s := by
    intro hpoll
    have hbusy := h.worker_free hs hfree hcur htask (Phase.off_of_pollable hpoll)
    exact enabled_of_step (.poll t htask hpoll hunaborted h.up h.driven hbusy hslot)
  cases hphase : task.phase with
  | spawned | suspended | woken =>
    apply hpolled
    rw [hphase]
    rfl
  | polling => exact enabled_of_step (.finish t false htask hphase (h.not_inCall t))
  | dropping outcome =>
    obtain ⟨job, aborted, phase⟩ := task
    obtain rfl : phase = .dropping outcome := hphase
    by_cases hlast : (s.registry.release job.reg).inFlight job.reg = 0
    · exact enabled_of_step (.releaseLast t htask hlast)
    · exact enabled_of_step (.release t htask hlast)
  | released outcome =>
    obtain ⟨job, aborted, phase⟩ := task
    obtain rfl : phase = .released outcome := hphase
    exact enabled_of_step (.complete t htask)
  | complete outcome =>
    rw [hphase] at hlive
    contradiction

/-- Whose turn it is, can take it, as long as there is a job. -/
theorem attendant_enabled (hr : Reachable (router env) s) (h : InService s)
    (hfree : s.foreign < env.workers)
    (hkept : s.dispatcher.job.isSome = true → s.kept s.currentTask = false)
    (hjob : s.dispatcher = .receiving → s.queue ≠ []) :
    (router env).Enabled Label.party s.attendant s := by
  have hs := reachable_serial hr
  have hj := reachable_joinable hr
  unfold State.attendant
  cases hpc : s.dispatcher with
  | receiving =>
    obtain ⟨job, queue, hqueue⟩ := List.exists_cons_of_ne_nil (hjob hpc)
    exact enabled_of_step (.recv hpc hqueue)
  | starting job =>
    cases hbegin : s.registry.begin job.reg with
    | none => exact enabled_of_step (.beginInactive hpc hbegin)
    | some registry => exact enabled_of_step (.beginActive hpc hbegin)
  | spawning job => exact enabled_of_step (.spawn hpc)
  | waiting job t =>
    dsimp only
    cases hfin : s.finished t with
    | true => exact enabled_of_step (.leaveWait hpc (.inl hfin))
    | false =>
      have hcur : s.dispatcher.task = some t := by
        rw [hpc]
        rfl
      obtain ⟨task, htask, hjob⟩ := hs.current t hcur
      rw [hjob, State.currentTask, hcur] at hkept
      apply h.future_enabled hs hfree (hkept rfl) hcur htask
      rw [State.finished, htask] at hfin
      exact hfin
  | checkStop job t => exact enabled_of_step (.stopUnseen hpc h.running)
  | checkFinished job t =>
    rw [hpc] at hj
    rw [Joinable, h.running] at hj
    contradiction
  | joining job t =>
    rw [hpc] at hj
    obtain ⟨task, htask, hend⟩ := hj
    -- nobody has aborted the future, so it is complete
    have hdone : task.phase.done = true :=
      hend.resolve_right (by simp [h.unaborted t task htask])
    obtain ⟨outcome, hphase⟩ : ∃ outcome, task.phase = .complete outcome := by
      cases hphase : task.phase <;> rw [hphase] at hdone <;>
        first | contradiction | exact ⟨_, rfl⟩
    have hout : s.outcome t = some outcome := by
      simp [State.outcome, htask, hphase, Phase.outcome]
    by_cases hreturned : outcome = .returned
    · exact enabled_of_step (.joinOk hpc (by rw [hout, hreturned]))
    · exact enabled_of_step (.joinError hpc hout hreturned)
  | failed => exact enabled_of_step (.blame hpc h.running)
  | counting => exact enabled_of_step (.count hpc)
  | finishing => exact enabled_of_step (.jobDone hpc)
  | caught => exact enabled_of_step (.countCaught hpc)
  | exited =>
    -- the dispatcher ends after the poller only
    have hended := (reachable_disconnects hr (by rw [hpc]; rfl)).1
    rw [h.polling] at hended
    contradiction

end enabled

end UpTransportDds
