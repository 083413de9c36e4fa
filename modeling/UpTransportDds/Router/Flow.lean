import UpTransportDds.Framework.Flow
import UpTransportDds.Router.Barrier

/-! # The way of a sample

  What a step shows of the samples and jobs that pass through the transport,
  and the balance of each stage they pass:

  * the batch: `took` in, `handled` out, in order;
  * the fan-out: `snapshotted` in, `queued` or `rejected` out;
  * the channel: `queued` in, `received` out, in order;
  * the dispatcher: `received` in, `skipped` or `ended` out;
  * the start of a callback: `received` in, `started` out, in order.
-/

namespace UpTransportDds

open LTS

variable {UUri Listener Sample Message : Type}

/-! ### Observations -/

/-- The samples `reader.take` returns, with their numbers. -/
def took (s : State UUri Listener Sample Message) :
    Label UUri Listener Sample → List (Taken Sample)
  | .take (.ok samples) =>
    match s.poller with
    | .taking => samples.zipIdx s.taken
    | _ => []
  | _ => []

/-- The sample the poller turns to, with the registry it does so in. -/
def handledIn (s : State UUri Listener Sample Message) :
    Label UUri Listener Sample → List (Taken Sample × Registry UUri Listener)
  | .poller =>
    match s.poller with
    | .batch (sample :: _) => [(sample, s.registry)]
    | _ => []
  | _ => []

/-- The sample the poller turns to. -/
def handled (s : State UUri Listener Sample Message) (l : Label UUri Listener Sample) :
    List (Taken Sample) :=
  (handledIn s l).map Prod.fst

/-- The jobs of an accepted message: one for each registration that matches
    it, in table order. -/
def jobsOf [UriMatches UUri] (env : Env UUri Sample Message) (registry : Registry UUri Listener)
    (sample : Nat) (message : Message) : List (Job Message) :=
  (registry.matching (env.carriage.source message) (env.carriage.sink message)).map
    (⟨sample, ·, message⟩)

/-- The jobs a taken sample gives rise to. -/
def jobsFor [UriMatches UUri] (env : Env UUri Sample Message) :
    Taken Sample × Registry UUri Listener → List (Job Message)
  | ((none, _), _) => []
  | ((some sample, k), registry) =>
    match env.carriage.receive env.config.toDdsConfig sample with
    | .accepted message => jobsOf env registry k message
    | _ => []

/-- The jobs of the snapshot that the step takes of the table. -/
def snapshotted [UriMatches UUri] (env : Env UUri Sample Message)
    (s : State UUri Listener Sample Message) (l : Label UUri Listener Sample) :
    List (Job Message) :=
  (handledIn s l).flatMap (jobsFor env)

/-- The job that `try_send` accepts. -/
def queued (env : Env UUri Sample Message) (s : State UUri Listener Sample Message) :
    Label UUri Listener Sample → List (Job Message)
  | .poller =>
    match s.poller with
    | .fanout k message (reg :: _) _ =>
      match s.trySend env ⟨k, reg, message⟩ with
      | .ok _ => [⟨k, reg, message⟩]
      | .error _ => []
    | _ => []
  | _ => []

/-- The job whose refusal by the full queue is recorded. -/
def rejected (s : State UUri Listener Sample Message) :
    Label UUri Listener Sample → List (Job Message)
  | .poller =>
    match s.poller with
    | .rejecting detail k message reg _ _ =>
      if detail = "callback queue is full" then [⟨k, reg, message⟩] else []
    | _ => []
  | _ => []

/-- The job that `recv` returns. -/
def received (s : State UUri Listener Sample Message) :
    Label UUri Listener Sample → List (Job Message)
  | .dispatcher =>
    match s.dispatcher with
    | .receiving => s.queue.take 1
    | _ => []
  | _ => []

/-- The job that is not executed, its registration being deactivated. -/
def skipped (s : State UUri Listener Sample Message) :
    Label UUri Listener Sample → List (Job Message)
  | .dispatcher =>
    match s.dispatcher with
    | .starting job => if (s.registry.begin job.reg).isNone then [job] else []
    | _ => []
  | _ => []

/-- The job whose future is joined. -/
def ended (s : State UUri Listener Sample Message) :
    Label UUri Listener Sample → List (Job Message)
  | .dispatcher =>
    match s.dispatcher with
    | .joining job t => if (s.outcome t).isSome then [job] else []
    | _ => []
  | _ => []

/-- The job the dispatcher is executing, as long as its callback has not
    started. -/
def fresh (dispatcher : Dispatcher Message) (tasks : List (Task Message)) : List (Job Message) :=
  match dispatcher.task with
  | none => dispatcher.job.toList
  | some t =>
    if (tasks[t]?).any (fun task => task.phase = .spawned) then dispatcher.job.toList else []

/-! ### The channel -/

section channel
variable {env : Env UUri Sample Message} {s : State UUri Listener Sample Message}
  {job : Job Message} {queue : List (Job Message)} {detail : String}

theorem trySend_ok (h : s.trySend env job = .ok queue) :
    queue = s.queue ++ [job] ∧ s.queue.length < env.config.dispatchCapacity := by
  unfold State.trySend at h
  split at h
  · contradiction
  · split at h
    · exact ⟨(Except.ok.inj h).symm, ‹_›⟩
    · contradiction

theorem trySend_error (h : s.trySend env job = .error detail) :
    s.dispatcher.ended = true ∨ detail = "callback queue is full" := by
  unfold State.trySend at h
  split at h
  · exact .inl ‹_›
  · split at h
    · contradiction
    · exact .inr (Except.error.inj h).symm

end channel

/-! ### Callbacks that have not started -/

section fresh
variable {dispatcher : Dispatcher Message} {tasks : List (Task Message)} {task : Task Message}
  {t : TaskId} {phase : Phase}

/-- A future that has left its first phase is not fresh any more. -/
theorem fresh_withPhase (hphase : phase ≠ .spawned) :
    (fresh dispatcher (withPhase tasks t phase)).Sublist (fresh dispatcher tasks) := by
  unfold fresh
  cases htask : dispatcher.task with
  | none => exact .refl _
  | some t' =>
    by_cases heq : t = t'
    · subst heq
      have hnot : (withPhase tasks t phase)[t]?.any (fun task => task.phase = .spawned) =
          false := by
        cases hold : tasks[t]? <;> simp [withPhase, hold, hphase]
      simp [hnot]
    · simp only [withPhase_ne heq]
      exact .refl _

/-- A spawned future makes its job fresh. -/
theorem Serial.fresh_eq (hs : Serial dispatcher tasks) (htask : tasks[t]? = some task)
    (hphase : task.phase = .spawned) : fresh dispatcher tasks = [task.job] := by
  have hcur := hs.live t task htask (by rw [hphase]; rfl)
  obtain ⟨task', htask', hjob⟩ := hs.current t hcur
  obtain rfl := Option.some.inj (htask.symm.trans htask')
  simp [fresh, hcur, htask, hphase, hjob]

/-- The future the dispatcher waits for is not fresh in its later phases. -/
theorem Serial.fresh_nil (hs : Serial dispatcher tasks) (htask : tasks[t]? = some task)
    (hlive : task.phase.done = false) (hphase : task.phase ≠ .spawned) :
    fresh dispatcher tasks = [] := by
  simp [fresh, hs.live t task htask hlive, htask, hphase]

end fresh

/-! ### Each step balances -/

section steps
variable [DecidableEq UUri] [UriMatches UUri] [DecidableEq Listener]
variable {env : Env UUri Sample Message} {s s' : State UUri Listener Sample Message}
  {l : Label UUri Listener Sample}

/-- The dispatcher only ends after the poller, the one sender of the channel. -/
def Disconnects (s : State UUri Listener Sample Message) : Prop :=
  s.dispatcher.ended = true → s.poller.ended = true ∧ s.queue = []

theorem disconnects_step (hi : Disconnects s) (h : Step env s l s') : Disconnects s' := by
  -- as long as the poller lives, so does the dispatcher
  have hlive : s.poller.ended = false → s.dispatcher.ended = false := by
    intro hpoller
    by_contra hd
    have hended := (hi (by simpa using hd)).1
    rw [hpoller] at hended
    contradiction
  cases h with
  | recvClosed hpc hqueue hended => exact fun _ => ⟨hended, hqueue⟩
  | pollStop hpc _ => exact fun hd => ⟨rfl, (hi hd).2⟩
  | pollerPanic hpc => exact fun hd => ⟨rfl, (hi hd).2⟩
  | _ => intro hd; simp_all [Disconnects, Dispatcher.ended, Poller.ended]

/-- The batch hands its samples on in order. -/
theorem batch_step (h : Step env s l s') :
    s.poller.unhandled ++ took s l = handled s l ++ s'.poller.unhandled := by
  cases h with
  | pollerPanic hpc => simp [took, handled, handledIn, Poller.unhandled]
  | _ => simp [took, handled, handledIn, Poller.unhandled, *]

/-- The fan-out submits jobs in the order of the snapshot. -/
theorem fanout_order_step (h : Step env s l s') :
    (queued env s l ++ s'.poller.toSubmit).Sublist
      (s.poller.toSubmit ++ snapshotted env s l) := by
  -- a rejected job leaves a gap, but no step swaps two jobs
  cases h with
  | pollerPanic hpc => simp [queued, snapshotted, handledIn, Poller.toSubmit]
  | _ => simp [queued, snapshotted, handledIn, jobsFor, jobsOf, Poller.toSubmit, *]

/-- A refusal that is about to be recorded is that of a full queue. -/
def RefusedFull (poller : Poller Sample Message) : Prop :=
  match poller with
  | .rejecting detail _ _ _ _ _ => detail = "callback queue is full"
  | _ => True

theorem refusedFull_step (hd : Disconnects s) (hi : RefusedFull s.poller) (h : Step env s l s') :
    RefusedFull s'.poller := by
  cases h with
  | submitFail hpc hsend =>
    rcases trySend_error hsend with hended | hfull
    · -- a dispatcher that has ended leaves no poller to submit
      have hpoller := (hd hended).1
      rw [hpc] at hpoller
      contradiction
    · exact hfull
  | _ => first | exact hi | trivial

/-- The fan-out neither loses nor invents a job. -/
theorem fanout_bag_step (hi : RefusedFull s.poller) (h : Step env s l s') :
    (s.poller.toSubmit ++ snapshotted env s l).Perm
      ((queued env s l ++ rejected s l) ++ s'.poller.toSubmit) := by
  cases h with
  | pollerPanic hpc => simp [queued, rejected, snapshotted, handledIn, Poller.toSubmit]
  | @reject detail _ _ _ _ _ hpc =>
    -- a full queue is the reason, so the rejection is counted as such
    have hfull : detail = "callback queue is full" := by
      rw [hpc] at hi
      exact hi
    simp [queued, rejected, snapshotted, handledIn, Poller.toSubmit, hpc, hfull]
  | _ => simp [queued, rejected, snapshotted, handledIn, jobsFor, jobsOf, Poller.toSubmit, *]

/-- The channel hands its jobs on in order. -/
theorem channel_step (h : Step env s l s') :
    s.queue ++ queued env s l = received s l ++ s'.queue := by
  cases h with
  | submitOk hpc hsend => simp [queued, received, hpc, hsend, (trySend_ok hsend).1]
  | _ => simp [queued, received, *]

/-- The dispatcher neither loses nor invents a job. -/
theorem dispatcher_step (h : Step env s l s') :
    (s.dispatcher.job.toList ++ received s l).Perm
      ((skipped s l ++ ended s l) ++ s'.dispatcher.job.toList) := by
  cases h <;> simp [received, skipped, ended, Dispatcher.job, *]

/-- The channel never holds more than its capacity. -/
theorem capacity_step (hi : s.queue.length ≤ env.config.dispatchCapacity)
    (h : Step env s l s') : s'.queue.length ≤ env.config.dispatchCapacity := by
  cases h with
  | submitOk hpc hsend =>
    obtain ⟨rfl, hroom⟩ := trySend_ok hsend
    rw [List.length_append]
    exact hroom
  | recv hpc hqueue =>
    rw [hqueue] at hi
    exact Nat.le_of_succ_le hi
  | _ => exact hi

/-- Callbacks start in the order in which their jobs are received. -/
theorem started_step (hs : Serial s.dispatcher s.tasks) (h : Step env s l s') :
    (started s l ++ fresh s'.dispatcher s'.tasks).Sublist
      (fresh s.dispatcher s.tasks ++ received s l) := by
  cases h with
  | @poll t task htask hpoll _ _ _ =>
    have hlive := Phase.not_done_of_holdsGuard (Phase.holdsGuard_of_pollable hpoll)
    -- after the poll no job is fresh, whichever poll it was
    have hgone : fresh s.dispatcher (withPhase s.tasks t .polling) = [] := by
      have hs' : Serial s.dispatcher (withPhase s.tasks t .polling) := hs.withPhase htask hlive
      exact hs'.fresh_nil (withPhase_self htask) rfl (by simp)
    show (started s (.poll t) ++ fresh s.dispatcher (withPhase s.tasks t .polling)).Sublist _
    rw [hgone]
    by_cases hphase : task.phase = .spawned
    · obtain ⟨job, aborted, phase⟩ := task
      obtain rfl : phase = .spawned := hphase
      rw [hs.fresh_eq htask rfl]
      simp [started, received, htask]
    · -- a future that was suspended has been counted at its first poll
      have hnone : started s (.poll t) = [] := by
        obtain ⟨job, aborted, phase⟩ := task
        simp only [started, htask]
        cases phase <;> simp_all
      simp [hnone]
  | suspend t _ _ _ => simpa [started, received] using fresh_withPhase (by simp)
  | wakeTask t _ _ _ _ => simpa [started, received] using fresh_withPhase (by simp)
  | finish t panicked _ _ _ => simpa [started, received] using fresh_withPhase (by simp)
  | cancel t _ _ _ _ => simpa [started, received] using fresh_withPhase (by simp)
  | release t _ _ => simpa [started, received] using fresh_withPhase (by simp)
  | releaseLast t _ _ => simpa [started, received] using fresh_withPhase (by simp)
  | complete t _ => simpa [started, received] using fresh_withPhase (by simp)
  -- the job stays fresh, unless a runtime shut down cancels it at once
  | @spawn job hpc =>
    simp only [started, received, hpc, fresh, Dispatcher.task, Dispatcher.job]
    split <;> simp
  | @abort job t hpc _ =>
    cases htask : s.tasks[t]? <;>
      simp [started, received, fresh, hpc, htask, Dispatcher.task, Dispatcher.job]
  | _ => simp [started, received, fresh, Dispatcher.task, Dispatcher.job, *]

end steps

/-! ### Every run balances -/

section runs
variable [DecidableEq UUri] [UriMatches UUri] [DecidableEq Listener]
variable {env : Env UUri Sample Message} {s : State UUri Listener Sample Message}
  {tr : Trace (State UUri Listener Sample Message) (Label UUri Listener Sample)}

theorem reachable_disconnects (h : Reachable (router env) s) : Disconnects s := by
  refine invariant (P := Disconnects) ?_ ?_ h
  · rintro _ rfl hended
    contradiction
  · intro s l s' hi hstep
    exact disconnects_step hi (Step.of_next hstep)

theorem reachable_refusedFull (h : Reachable (router env) s) : RefusedFull s.poller := by
  refine invariant_reachable (P := fun s => RefusedFull s.poller) ?_ ?_ h
  · rintro _ rfl
    trivial
  · intro s l s' hr hi hstep
    exact refusedFull_step (reachable_disconnects hr) hi (Step.of_next hstep)

theorem reachable_capacity (h : Reachable (router env) s) :
    s.queue.length ≤ env.config.dispatchCapacity := by
  refine invariant (P := fun s => s.queue.length ≤ env.config.dispatchCapacity) ?_ ?_ h
  · rintro _ rfl
    exact Nat.zero_le _
  · intro s l s' hi hstep
    exact capacity_step hi (Step.of_next hstep)

/-- The samples taken are those handled, then those left of the batch. -/
theorem run_batch (h : InitRun (router env) tr s) :
    observe took tr = observe handled tr ++ s.poller.unhandled := by
  refine flow_queue (fun s => s.poller.unhandled) took handled ?_ ?_ h
  · rintro _ rfl
    rfl
  · intro s l s' _ hstep
    exact batch_step (Step.of_next hstep)

/-- The jobs queued, and those left to submit, are in snapshot order. -/
theorem run_fanout_order (h : InitRun (router env) tr s) :
    (observe (queued env) tr ++ s.poller.toSubmit).Sublist (observe (snapshotted env) tr) := by
  refine flow_filter (fun s => s.poller.toSubmit) (snapshotted env) (queued env) ?_ ?_ h
  · rintro _ rfl
    rfl
  · intro s l s' _ hstep
    exact fanout_order_step (Step.of_next hstep)

/-- The jobs snapshotted are those queued, those rejected and those left to
    submit. -/
theorem run_fanout (h : InitRun (router env) tr s) :
    (observe (snapshotted env) tr).Perm
      ((observe (queued env) tr ++ observe rejected tr) ++ s.poller.toSubmit) := by
  have hbag := flow_bag (fun s => s.poller.toSubmit) (snapshotted env)
    (fun s l => queued env s l ++ rejected s l) ?_ ?_ h
  · exact hbag.trans ((observe_both _ _ tr).append_right _)
  · rintro _ rfl
    rfl
  · intro s l s' hr hstep
    exact fanout_bag_step (reachable_refusedFull hr) (Step.of_next hstep)

/-- The jobs queued are those received, then those in the channel. -/
theorem run_channel (h : InitRun (router env) tr s) :
    observe (queued env) tr = observe received tr ++ s.queue := by
  refine flow_queue State.queue (queued env) received ?_ ?_ h
  · rintro _ rfl
    rfl
  · intro s l s' _ hstep
    exact channel_step (Step.of_next hstep)

/-- The jobs received are those skipped, those ended and the one the
    dispatcher is executing. -/
theorem run_dispatcher (h : InitRun (router env) tr s) :
    (observe received tr).Perm
      ((observe skipped tr ++ observe ended tr) ++ s.dispatcher.job.toList) := by
  have hbag := flow_bag (fun s => s.dispatcher.job.toList) received
    (fun s l => skipped s l ++ ended s l) ?_ ?_ h
  · exact hbag.trans ((observe_both _ _ tr).append_right _)
  · rintro _ rfl
    rfl
  · intro s l s' _ hstep
    exact dispatcher_step (Step.of_next hstep)

/-- Callbacks are started in the order in which their jobs are received. -/
theorem run_started (h : InitRun (router env) tr s) :
    (observe started tr ++ fresh s.dispatcher s.tasks).Sublist (observe received tr) := by
  refine flow_filter (fun s => fresh s.dispatcher s.tasks) received started ?_ ?_ h
  · rintro _ rfl
    rfl
  · intro s l s' hr hstep
    exact started_step (reachable_serial hr) (Step.of_next hstep)

end runs

end UpTransportDds
