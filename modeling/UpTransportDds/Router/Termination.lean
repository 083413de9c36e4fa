import UpTransportDds.Framework.Liveness
import UpTransportDds.Router.Quiesce
import Mathlib.Data.Prod.Lex

/-! # Shutdown terminates

  Once `Drop` has set the stop flag, every step of the transport uses up some
  of the work it still has: samples of the last batch, queued jobs, steps of
  the dispatcher and of its future, entries to drain. Only a callback that
  wakes itself up can go on for free, until the dispatcher has aborted it.
  Before that, the poller can go on polling until `Drop` has set the flag.

  So shutdown ends if neither of these two threads is starved, and until it
  ends there is always somebody who can take a step, as long as a worker is
  left to drop the aborted callback. A worker that is busy with unrelated work
  and has the callback in its slot does not leave it to the others.
-/

namespace UpTransportDds

open LTS

variable {UUri Listener Sample Message : Type}

/-! ### Whose step it is -/

inductive Party where
  | caller
  | poller
  | dispatcher
  | future
  | drop
  /-- Other users of the runtime, and timeouts. -/
  | surroundings
  deriving DecidableEq, Repr

def Label.party : Label UUri Listener Sample → Party
  | .enter _ _ => .caller
  | .advance _ => .caller
  | .enterDrop _ => .caller
  | .poller => .poller
  | .take _ => .poller
  | .pollerPanic => .poller
  | .dispatcher => .dispatcher
  | .jobUnwind => .dispatcher
  | .poll _ => .future
  | .suspend _ => .future
  | .finish _ _ => .future
  | .cancel _ => .future
  | .release _ => .future
  | .complete _ => .future
  | .drop => .drop
  | .deleted _ => .drop
  | .wake _ => .surroundings
  | .wakeDrop => .surroundings
  | .wakeTask _ _ => .surroundings
  | .occupy => .surroundings
  | .vacate _ => .surroundings
  | .drive => .surroundings
  | .undrive => .surroundings
  | .shutdownRuntime => .surroundings

/-- A step of one of the parties that shutdown waits for. -/
def Label.Closing (l : Label UUri Listener Sample) : Prop :=
  l.party ≠ .caller ∧ l.party ≠ .surroundings

/-- The transport, left to `Drop`, poller, dispatcher and futures. -/
def closingRouter [DecidableEq UUri] [UriMatches UUri] [DecidableEq Listener]
    (env : Env UUri Sample Message) :
    System (State UUri Listener Sample Message) (Label UUri Listener Sample) :=
  (router env).restrict Label.Closing

/-- `Drop` has been entered on a thread outside the runtime, and unrelated
    work leaves it a worker. Unless the runtime is shut down, it is driven and
    no callback is in the slot of a busy worker. -/
structure Closing [DecidableEq UUri] [UriMatches UUri] [DecidableEq Listener]
    (env : Env UUri Sample Message) (s : State UUri Listener Sample Message) : Prop where
  reachable : Reachable (router env) s
  entered : 1 ≤ s.drop.rank
  site : s.dropSite = .external
  free : s.foreign < env.workers
  served : s.shutdown = false → s.driven = true ∧ ∀ task ∈ s.tasks, s.slotted task = false

/-! ### The work ahead of a shutdown -/

/-- What a message costs the poller and, for each of its jobs, the dispatcher.
    `table` is the size of the registration table. -/
def sampleWork (table : Nat) : Nat := 2 + 17 * table

def Poller.work (table : Nat) : Poller Sample Message → Nat
  | .idle => 1
  | .taking => 0
  | .batch samples => 2 + samples.length * sampleWork table
  | .fanout _ _ regs rest => 3 + 17 * regs.length + rest.length * sampleWork table
  | .rejecting _ _ _ _ regs rest => 4 + 17 * regs.length + rest.length * sampleWork table
  | .exited => 0
  | .panicked _ _ => 0

def Dispatcher.work : Dispatcher Message → Nat
  | .exited => 0
  | .receiving => 1
  | .caught => 2
  | .finishing => 3
  | .counting => 4
  | .failed => 5
  | .joining _ _ => 6
  | .checkFinished _ _ => 7
  | .checkStop _ _ => 8
  | .waiting _ _ => 9
  | .spawning _ => 15
  | .starting _ => 16

/-- A future that is not aborted can be polled again and again for nothing. -/
def Task.work (task : Task Message) : Nat :=
  match task.phase with
  | .complete _ => 0
  | .released _ => 1
  | .dropping _ => 3
  | .polling => 5
  | .spawned => if task.aborted then 4 else 5
  | .suspended => if task.aborted then 4 else 5
  | .woken _ => if task.aborted then 4 else 5

def DropPc.work (table : Nat) : DropPc → Nat
  | .returned => 0
  | .deletingParticipant => 1
  | .deletingContained => 2
  | .joiningDispatcher => 3
  | .draining regs => 4 + 3 * regs.length
  | .asleep _ regs => 5 + 3 * regs.length
  | .awake _ regs => 6 + 3 * regs.length
  | .takingEntries => 5 + 3 * table
  | .joiningPoller => 6 + 3 * table
  | .stopping => 7 + 3 * table
  | .live => 8 + 3 * table

def Poller.inTake : Poller Sample Message → Bool
  | .taking => true
  | _ => false

namespace State

/-- The number of steps the parties have ahead of them, outside `take`. -/
def work (s : State UUri Listener Sample Message) : Nat :=
  s.poller.work s.registry.entries.length + 16 * s.queue.length + s.dispatcher.work +
    (s.tasks.map Task.work).sum + s.drop.work s.registry.entries.length

/-- The stop flag comes first, then the one `take` that may still return any
    number of samples, then the work that is left. -/
def closingRank (s : State UUri Listener Sample Message) : Nat ×ₗ Nat :=
  if s.drop = .stopping then toLex (2, 0)
  else toLex (if s.poller.inTake then 1 else 0, s.work)

/-- The party that brings the shutdown on when the others go round in circles. -/
def closingHelper (s : State UUri Listener Sample Message) : Party :=
  if s.drop = .stopping then .drop else .dispatcher

end State

section work
variable {s s' : State UUri Listener Sample Message} {tasks : List (Task Message)} {t : TaskId}
  {task : Task Message} {f : Task Message → Task Message} {drop : DropPc} {r : RegId}
  {table : Nat}

/-- A future that costs less than before. -/
theorem work_modify_lt (htask : tasks[t]? = some task) (hless : (f task).work < task.work) :
    ((tasks.modify t f).map Task.work).sum < (tasks.map Task.work).sum := by
  have hsum := sum_map_modify (f := f) Task.work htask
  omega

theorem work_modify_le (hle : ∀ task, tasks[t]? = some task → (f task).work ≤ task.work) :
    ((tasks.modify t f).map Task.work).sum ≤ (tasks.map Task.work).sum := by
  cases htask : tasks[t]? with
  | none =>
    have hsame := List.modify_eq_self (f := f) (List.getElem?_eq_none_iff.mp htask)
    exact Nat.le_of_eq (by rw [hsame])
  | some task =>
    have hsum := sum_map_modify (f := f) Task.work htask
    have hless := hle task htask
    omega

theorem work_modify_eq (htask : tasks[t]? = some task) (hsame : (f task).work = task.work) :
    ((tasks.modify t f).map Task.work).sum = (tasks.map Task.work).sum := by
  have hsum := sum_map_modify (f := f) Task.work htask
  omega

/-- Waking `Drop` up costs one step more. -/
theorem work_notify_le : (drop.notify r).work table ≤ drop.work table + 1 := by
  cases drop with
  -- only a wakeup moves the program counter, from `asleep` to `awake`
  | asleep r' regs =>
    rw [DropPc.notify]
    split
    · show 6 + 3 * regs.length ≤ 5 + 3 * regs.length + 1
      omega
    · exact Nat.le_succ _
  | _ => exact Nat.le_succ _

theorem work_drainOn {regs : List RegId} :
    (s.drainOn r regs).work table ≤ 5 + 3 * regs.length := by
  unfold State.drainOn
  split
  · show 4 + 3 * regs.length ≤ 5 + 3 * regs.length
    omega
  · exact Nat.le_refl _

theorem stopping_of_rank (hrank : 2 ≤ s.drop.rank) : s.drop ≠ .stopping := by
  intro hpc
  rw [hpc] at hrank
  simp [DropPc.rank] at hrank

/-- Less work is a smaller rank, unless `take` is called. -/
theorem closingRank_lt (hrank : 2 ≤ s.drop.rank) (hrank' : 2 ≤ s'.drop.rank)
    (htake : s'.poller.inTake = s.poller.inTake) (hless : s'.work < s.work) :
    s'.closingRank < s.closingRank := by
  unfold State.closingRank
  rw [if_neg (stopping_of_rank hrank), if_neg (stopping_of_rank hrank'), htake,
    Prod.Lex.toLex_lt_toLex]
  exact .inr ⟨rfl, hless⟩

theorem closingRank_eq (hrank : 2 ≤ s.drop.rank) (hrank' : 2 ≤ s'.drop.rank)
    (htake : s'.poller.inTake = s.poller.inTake) (hsame : s'.work = s.work) :
    s'.closingRank = s.closingRank := by
  unfold State.closingRank
  rw [if_neg (stopping_of_rank hrank), if_neg (stopping_of_rank hrank'), htake, hsame]

/-- The return of `take` is the end of the last one. -/
theorem closingRank_of_take (hrank : 2 ≤ s.drop.rank) (hrank' : 2 ≤ s'.drop.rank)
    (htake : s.poller.inTake = true) (htake' : s'.poller.inTake = false) :
    s'.closingRank < s.closingRank := by
  unfold State.closingRank
  rw [if_neg (stopping_of_rank hrank), if_neg (stopping_of_rank hrank'), htake, htake',
    Prod.Lex.toLex_lt_toLex]
  exact .inl Nat.zero_lt_one

theorem matching_le [UriMatches UUri] {registry : Registry UUri Listener} {source : UUri}
    {sink : Option UUri} : (registry.matching source sink).length ≤ registry.entries.length :=
  List.length_filter_le _ _

end work

/-! ### Every step uses up work -/

section descent
variable [DecidableEq UUri] [UriMatches UUri] [DecidableEq Listener]
variable {env : Env UUri Sample Message} {s s' : State UUri Listener Sample Message}
  {l : Label UUri Listener Sample}

/-- `Drop` never goes back, and stays on its thread. -/
theorem entered_step (hentered : 1 ≤ s.drop.rank) (h : Step env s l s') :
    s.drop.rank ≤ s'.drop.rank ∧ s'.dropSite = s.dropSite := by
  cases h with
  | enterDrop site hlive _ _ =>
    rw [hlive] at hentered
    simp [DropPc.rank] at hentered
  -- waking up and draining keep the rank
  | releaseLast t _ _ =>
    rw [State.notifyIdle_drop, DropPc.rank_notify]
    exact ⟨Nat.le_refl _, rfl⟩
  | drain hpc =>
    rw [hpc]
    exact ⟨Nat.le_of_eq rank_drainOn.symm, rfl⟩
  | recheckDrop hpc =>
    rw [hpc]
    exact ⟨Nat.le_of_eq rank_drainOn.symm, rfl⟩
  | _ => first | exact ⟨Nat.le_refl _, rfl⟩ | simp [DropPc.rank, *]

theorem poller_descends (hd : Dropping s) (hrank : 2 ≤ s.drop.rank) (hl : l.party = .poller)
    (h : Step env s l s') : s'.closingRank < s.closingRank := by
  have hstopped := hd.stopped hrank
  have hrank' : 2 ≤ s'.drop.rank :=
    Nat.le_trans hrank (entered_step (Nat.le_of_succ_le hrank) h).1
  -- what the other parties have ahead of them stays as it is
  have hless : s'.registry = s.registry → s'.dispatcher = s.dispatcher → s'.tasks = s.tasks →
      s'.drop = s.drop → s'.poller.inTake = s.poller.inTake →
      s'.poller.work s.registry.entries.length + 16 * s'.queue.length <
        s.poller.work s.registry.entries.length + 16 * s.queue.length →
      s'.closingRank < s.closingRank := by
    intro hregistry hdispatcher htasks hdrop htake hwork
    apply closingRank_lt hrank hrank' htake
    unfold State.work
    rw [hregistry, hdispatcher, htasks, hdrop]
    omega
  cases h with
  | pollStop hpc _ => exact hless rfl rfl rfl rfl (by rw [hpc]; rfl) (by simp [hpc, Poller.work])
  -- the stop flag is set, so the poller takes no further batch
  | pollRun hpc hstop =>
    rw [hstopped] at hstop
    contradiction
  -- however long the batch is, it is the last one
  | takeOk samples hpc => exact closingRank_of_take hrank hrank' (by rw [hpc]; rfl) rfl
  | takeNoData error hpc _ => exact closingRank_of_take hrank hrank' (by rw [hpc]; rfl) rfl
  | takeError error hpc _ => exact closingRank_of_take hrank hrank' (by rw [hpc]; rfl) rfl
  | batchDone hpc => exact hless rfl rfl rfl rfl (by rw [hpc]; rfl) (by simp [hpc, Poller.work])
  | sampleEmpty hpc =>
    apply hless rfl rfl rfl rfl (by rw [hpc]; rfl)
    simp only [hpc, Poller.work, List.length_cons, Nat.succ_mul, sampleWork]
    omega
  | sampleOwn hpc _ =>
    apply hless rfl rfl rfl rfl (by rw [hpc]; rfl)
    simp only [hpc, Poller.work, List.length_cons, Nat.succ_mul, sampleWork]
    omega
  | sampleMalformed hpc _ =>
    apply hless rfl rfl rfl rfl (by rw [hpc]; rfl)
    simp only [hpc, Poller.work, List.length_cons, Nat.succ_mul, sampleWork]
    omega
  -- a message has at most as many jobs as the table has entries
  | @sampleAccepted _ _ _ message hpc _ =>
    apply hless rfl rfl rfl rfl (by rw [hpc]; rfl)
    have hmatching : (s.registry.matching (env.carriage.source message)
        (env.carriage.sink message)).length ≤ s.registry.entries.length := matching_le
    simp only [hpc, Poller.work, List.length_cons, Nat.succ_mul, sampleWork]
    omega
  | fanoutDone hpc =>
    apply hless rfl rfl rfl rfl (by rw [hpc]; rfl)
    simp only [hpc, Poller.work, List.length_nil]
    omega
  -- the job moves into the queue, where it weighs one less
  | submitOk hpc hsend =>
    apply hless rfl rfl rfl rfl (by rw [hpc]; rfl)
    have hqueue := (trySend_ok hsend).1
    simp only [hpc, hqueue, Poller.work, List.length_cons, List.length_append, List.length_nil]
    omega
  | submitFail hpc _ =>
    apply hless rfl rfl rfl rfl (by rw [hpc]; rfl)
    simp only [hpc, Poller.work, List.length_cons]
    omega
  | reject hpc =>
    apply hless rfl rfl rfl rfl (by rw [hpc]; rfl)
    simp only [hpc, Poller.work]
    omega
  -- the panicked poller has nothing left to do
  | pollerPanic hended =>
    cases hpc : s.poller with
    | taking => exact closingRank_of_take hrank hrank' (by rw [hpc]; rfl) rfl
    | exited => rw [hpc] at hended; contradiction
    | panicked jobs rest => rw [hpc] at hended; contradiction
    | _ =>
      apply hless rfl rfl rfl rfl (by rw [hpc]; rfl)
      simp only [hpc, Poller.work]
      omega
  | _ => contradiction

theorem dispatcher_descends (hrank : 2 ≤ s.drop.rank) (hl : l.party = .dispatcher)
    (h : Step env s l s') : s'.closingRank < s.closingRank := by
  have hrank' : 2 ≤ s'.drop.rank :=
    Nat.le_trans hrank (entered_step (Nat.le_of_succ_le hrank) h).1
  -- what poller and `Drop` have ahead of them stays as it is
  have hless : s'.registry.entries = s.registry.entries → s'.poller = s.poller →
      s'.drop = s.drop →
      16 * s'.queue.length + s'.dispatcher.work + (s'.tasks.map Task.work).sum <
        16 * s.queue.length + s.dispatcher.work + (s.tasks.map Task.work).sum →
      s'.closingRank < s.closingRank := by
    intro hentries hpoller hdrop hwork
    apply closingRank_lt hrank hrank' (by rw [hpoller])
    unfold State.work
    rw [hentries, hpoller, hdrop]
    omega
  cases h with
  -- the weight of a queued job covers its way through the dispatcher
  | recv hpc hqueue =>
    apply hless rfl rfl rfl
    simp only [hpc, hqueue, Dispatcher.work, List.length_cons]
    omega
  | beginActive hpc hbegin =>
    apply hless (Registry.entries_begin hbegin) rfl rfl
    simp only [hpc, Dispatcher.work]
    omega
  -- what the spawning dispatcher gives up, the new future takes over
  | @spawn job hpc =>
    apply hless rfl rfl rfl
    have htask : (⟨job, false, if s.shutdown then .dropping .cancelled else .spawned⟩ :
        Task Message).work ≤ 5 := by
      cases s.shutdown <;> simp [Task.work]
    simp only [hpc, Dispatcher.work, List.map_append, List.sum_append, List.map_cons, List.map_nil,
      List.sum_cons, List.sum_nil]
    omega
  | @abort _ t hpc _ =>
    apply hless rfl rfl rfl
    have htasks : ((s.tasks.modify t fun task => { task with aborted := true }).map
        Task.work).sum ≤ (s.tasks.map Task.work).sum := by
      apply work_modify_le
      intro task _
      cases hphase : task.phase <;> simp [Task.work, hphase]
      all_goals split <;> decide
    simp only [hpc, Dispatcher.work]
    omega
  | _ =>
    first
    | contradiction
    | (refine hless rfl rfl rfl ?_
       simp only [Dispatcher.work, *]
       omega)

theorem drop_descends (hd : Dropping s) (hrank : 2 ≤ s.drop.rank) (hl : l.party = .drop)
    (h : Step env s l s') : s'.closingRank < s.closingRank := by
  have hrank' : 2 ≤ s'.drop.rank :=
    Nat.le_trans hrank (entered_step (Nat.le_of_succ_le hrank) h).1
  -- `Drop` alone moves, and the table keeps its size
  have hless : s'.registry.entries = s.registry.entries → s'.poller = s.poller →
      s'.dispatcher = s.dispatcher → s'.tasks = s.tasks → s'.queue = s.queue →
      s'.drop.work s.registry.entries.length < s.drop.work s.registry.entries.length →
      s'.closingRank < s.closingRank := by
    intro hentries hpoller hdispatcher htasks hqueue hwork
    apply closingRank_lt hrank hrank' (by rw [hpoller])
    unfold State.work
    rw [hentries, hpoller, hdispatcher, htasks, hqueue]
    omega
  cases h with
  -- the flag is set already
  | stop hpc =>
    rw [hpc] at hrank
    simp [DropPc.rank] at hrank
  | takeEntries hpc =>
    -- the table shrinks, which matters to a poller only
    have hended := hd.poller (by rw [hpc]; decide)
    have hidle : ∀ table, s.poller.work table = 0 := by
      intro table
      cases hpoller : s.poller <;> rw [hpoller] at hended <;> first | contradiction | rfl
    apply closingRank_lt hrank hrank' rfl
    simp only [State.work, hidle, hpc, DropPc.work]
    omega
  | @drain r regs hpc =>
    apply hless rfl rfl rfl rfl rfl
    apply Nat.lt_of_le_of_lt work_drainOn
    simp only [hpc, DropPc.work, List.length_cons]
    omega
  | @recheckDrop r regs hpc =>
    apply hless rfl rfl rfl rfl rfl
    apply Nat.lt_of_le_of_lt work_drainOn
    simp only [hpc, DropPc.work]
    omega
  | _ =>
    first
    | contradiction
    | (refine hless rfl rfl rfl rfl rfl ?_
       simp only [DropPc.work, *]
       omega)

/-- A future that is neither complete nor aborted: the dispatcher can come
    closer to aborting it. -/
theorem dispatcher_can_step (hs : Serial s.dispatcher s.tasks)
    (hj : Joinable s.stopped s.dispatcher s.tasks) (hstopped : s.stopped = true) {t : TaskId}
    {task : Task Message} (htask : s.tasks[t]? = some task) (hlive : task.phase.done = false)
    (habort : task.aborted = false) : ∃ s'', Step env s .dispatcher s'' := by
  have hcur := hs.live t task htask hlive
  -- the dispatcher waits for this future, in one of four places
  cases hpc : s.dispatcher <;> rw [hpc] at hcur hj <;> simp only [Dispatcher.task] at hcur
  all_goals first | contradiction | obtain rfl := Option.some.inj hcur
  · exact ⟨_, .leaveWait hpc (.inr hstopped)⟩
  · exact ⟨_, .stopSeen hpc hstopped⟩
  · cases hfin : s.finished _ with
    | true => exact ⟨_, .finishSeen hpc hfin⟩
    | false => exact ⟨_, .abort hpc hfin⟩
  -- when it joins, the future is complete or aborted
  · obtain ⟨task', htask', hended⟩ := hj
    obtain rfl := Option.some.inj (htask.symm.trans htask')
    rw [hlive, habort] at hended
    simp at hended

/-- A future gets closer to its end, or the dispatcher can get closer to
    aborting it. -/
theorem future_descends (hd : Dropping s) (hs : Serial s.dispatcher s.tasks)
    (hj : Joinable s.stopped s.dispatcher s.tasks) (hrank : 2 ≤ s.drop.rank)
    (hl : l.party = .future) (h : Step env s l s') :
    s'.closingRank < s.closingRank ∨
      s'.closingRank = s.closingRank ∧ ∃ s'', Step env s .dispatcher s'' := by
  have hstopped := hd.stopped hrank
  have hrank' : 2 ≤ s'.drop.rank :=
    Nat.le_trans hrank (entered_step (Nat.le_of_succ_le hrank) h).1
  -- a future touches its own work and, when it wakes `Drop`, that of `Drop`
  have hless : s'.registry.entries = s.registry.entries → s'.poller = s.poller →
      s'.dispatcher = s.dispatcher → s'.queue = s.queue →
      (s'.tasks.map Task.work).sum + s'.drop.work s.registry.entries.length <
        (s.tasks.map Task.work).sum + s.drop.work s.registry.entries.length →
      s'.closingRank < s.closingRank := by
    intro hentries hpoller hdispatcher hqueue hwork
    apply closingRank_lt hrank hrank' (by rw [hpoller])
    unfold State.work
    rw [hentries, hpoller, hdispatcher, hqueue]
    omega
  have hsame : s'.registry = s.registry → s'.poller = s.poller → s'.dispatcher = s.dispatcher →
      s'.queue = s.queue → s'.drop = s.drop →
      (s'.tasks.map Task.work).sum = (s.tasks.map Task.work).sum →
      s'.closingRank = s.closingRank := by
    intro hregistry hpoller hdispatcher hqueue hdrop hwork
    apply closingRank_eq hrank hrank' (by rw [hpoller])
    unfold State.work
    rw [hregistry, hpoller, hdispatcher, hqueue, hdrop, hwork]
  cases h with
  -- polling an unaborted future costs nothing, but can be stopped
  | @poll t task htask hpoll habort =>
    refine .inr ⟨hsame rfl rfl rfl rfl rfl (work_modify_eq htask ?_), ?_⟩
    · cases hphase : task.phase <;> simp_all [Task.work, Phase.pollable]
    · refine dispatcher_can_step hs hj hstopped htask ?_ habort
      exact Phase.not_done_of_holdsGuard (Phase.holdsGuard_of_pollable hpoll)
  -- only an aborted future cannot be polled again
  | @suspend t task htask hpoll _ =>
    cases habort : task.aborted with
    | false =>
      refine .inr ⟨hsame rfl rfl rfl rfl rfl (work_modify_eq htask ?_), ?_⟩
      · simp [Task.work, hpoll, habort]
      · exact dispatcher_can_step hs hj hstopped htask (by rw [hpoll]; rfl) habort
    | true =>
      refine .inl (hless rfl rfl rfl rfl (Nat.add_lt_add_right (work_modify_lt htask ?_) _))
      simp [Task.work, hpoll, habort]
  | @finish t panicked task htask hpoll _ =>
    refine .inl (hless rfl rfl rfl rfl (Nat.add_lt_add_right (work_modify_lt htask ?_) _))
    simp [Task.work, hpoll]
  | @cancel t task htask hpoll =>
    refine .inl (hless rfl rfl rfl rfl (Nat.add_lt_add_right (work_modify_lt htask ?_) _))
    cases hphase : task.phase <;> simp_all [Task.work, Phase.pollable]
    all_goals split <;> decide
  | release t htask _ =>
    refine .inl (hless rfl rfl rfl rfl (Nat.add_lt_add_right (work_modify_lt htask ?_) _))
    simp [Task.work]
  | @releaseLast t job aborted outcome htask _ =>
    refine .inl (hless rfl rfl rfl rfl ?_)
    -- the future uses up two steps, the woken `Drop` gets one of them
    have hsum : ((withPhase s.tasks t (.released outcome)).map Task.work).sum + 3 =
        (s.tasks.map Task.work).sum + 1 :=
      sum_map_modify Task.work htask
    have hdrop : (s.drop.notify job.reg).work s.registry.entries.length ≤
      s.drop.work s.registry.entries.length + 1 := work_notify_le
    show ((withPhase s.tasks t (.released outcome)).map Task.work).sum +
      (s.drop.notify job.reg).work _ < _
    omega
  | complete t htask =>
    refine .inl (hless rfl rfl rfl rfl (Nat.add_lt_add_right (work_modify_lt htask ?_) _))
    simp [Task.work]
  | _ => contradiction

/-- While `Drop` is about to set the flag, no other party changes that. -/
theorem stopping_step (hpc : s.drop = .stopping) (hl : l.Closing) (hother : l.party ≠ .drop)
    (h : Step env s l s') : s'.drop = .stopping := by
  cases h with
  | enterDrop site _ _ _ => exact absurd rfl hl.1
  | wakeDrop hpc' => exact absurd rfl hl.2
  | releaseLast t _ _ =>
    show s.drop.notify _ = .stopping
    rw [hpc]
    rfl
  | _ => first | exact hpc | exact absurd rfl hother

/-- The surroundings leave the workers and the runtime alone while they do
    nothing. -/
theorem surroundings_step (hl : l.Closing) (h : Step env s l s') :
    s'.polls = s.polls ∧ s'.driven = s.driven ∧ s'.shutdown = s.shutdown := by
  cases h with
  | occupy _ _ | vacate _ _ | drive _ | undrive _ _ _ | shutdownRuntime => exact absurd rfl hl.2
  | _ => exact ⟨rfl, rfl, rfl⟩

/-- No worker gets busy that was not. -/
theorem occupied_step (hl : l.Closing) (hentered : 1 ≤ s.drop.rank) (h : Step env s l s')
    {o : Occupant} (hoccupied : s'.occupied o = true) : s.occupied o = true := by
  cases o with
  | call c =>
    cases h with
    | enter _ _ _ _ | registerFail _ _ _ | register _ _ _ _ | removeFail _ _ _ | remove _ _ _ _
    | deactivate _ _ | recheck _ _ => exact absurd rfl hl.1
    | wake _ _ => exact absurd rfl hl.2
    | releaseLast t _ _ =>
      obtain ⟨call', hcall', hopen⟩ := (Option.any_eq_true _ _).mp hoccupied
      rw [State.notifyIdle_calls, List.getElem?_map] at hcall'
      obtain ⟨call, hcall, rfl⟩ := Option.map_eq_some_iff.mp hcall'
      rw [CallPc.done_notify] at hopen
      exact (Option.any_eq_true _ _).mpr ⟨call, hcall, hopen⟩
    | _ => exact hoccupied
  | drop =>
    -- a `Drop` that has been entered goes on until it returns
    show s.drop.running = true
    cases hpc : s.drop with
    | live =>
      rw [hpc] at hentered
      contradiction
    | returned =>
      have hreturned : s'.drop = .returned := returned_step hpc h
      have hrunning : s'.drop.running = true := hoccupied
      rw [hreturned] at hrunning
      contradiction
    | _ => rfl
  | poll k =>
    unfold State.occupied at hoccupied ⊢
    rw [(surroundings_step hl h).1] at hoccupied
    exact hoccupied

/-- No future gets into the slot of a busy worker. -/
theorem unslotted_step (hl : l.Closing) (hentered : 1 ≤ s.drop.rank) (h : Step env s l s')
    (hslots : ∀ task ∈ s.tasks, s.slotted task = false) :
    ∀ task ∈ s'.tasks, s'.slotted task = false := by
  intro task hmem
  cases hphase : task.phase with
  | woken o =>
    rw [slotted_of_woken hphase]
    by_contra hoccupied
    obtain ⟨old, hold, hwoken⟩ : ∃ old ∈ s.tasks, old.phase = .woken o := by
      refine woken_of_step ?_ h ⟨task, hmem, hphase⟩
      rintro t rfl
      exact hl.2 rfl
    have hfree := hslots old hold
    rw [slotted_of_woken hwoken] at hfree
    rw [occupied_step hl hentered h (by simpa using hoccupied)] at hfree
    contradiction
  | _ => simp only [State.slotted, hphase]

theorem Closing.step (h : Closing env s) (hmove : (closingRouter env).step s l s') :
    Closing env s' := by
  obtain ⟨hl, hnext⟩ := hmove
  have hstep : Step env s l s' := .of_next hnext
  obtain ⟨hrank, hsite⟩ := entered_step h.entered hstep
  obtain ⟨hpolls, hdriven, hshutdown⟩ := surroundings_step hl hstep
  exact
    { reachable := h.reachable.step hnext
      entered := Nat.le_trans h.entered hrank
      site := hsite.trans h.site
      free := by
        rw [State.foreign, hpolls]
        exact h.free
      served := by
        rw [hshutdown, hdriven]
        intro hup
        obtain ⟨hdriven, hslots⟩ := h.served hup
        exact ⟨hdriven, unslotted_step hl h.entered hstep hslots⟩ }

/-- **Every step lowers the rank**, or leaves it to one helper to do so. -/
theorem closingRank_step (h : Closing env s) (hmove : (closingRouter env).step s l s') :
    s'.closingRank < s.closingRank ∨
      s'.closingRank = s.closingRank ∧ s'.closingHelper = s.closingHelper ∧
        (closingRouter env).Enabled Label.party s.closingHelper s ∧
          l.party ≠ s.closingHelper := by
  have hd := reachable_dropping h.reachable
  obtain ⟨hl, hnext⟩ := hmove
  have hstep : Step env s l s' := .of_next hnext
  have hentered := h.entered
  by_cases hpc : s.drop = .stopping
  · have hhelper : s.closingHelper = .drop := if_pos hpc
    have hrank : s.closingRank = toLex (2, 0) := if_pos hpc
    by_cases hparty : l.party = .drop
    · -- `Drop` sets the flag
      left
      have hgone : s'.drop ≠ .stopping := by
        cases hstep <;> simp_all [Label.party]
      rw [hrank]
      unfold State.closingRank
      rw [if_neg hgone, Prod.Lex.toLex_lt_toLex]
      left
      show (if s'.poller.inTake then 1 else 0) < 2
      split <;> decide
    · right
      have hpc' := stopping_step hpc hl hparty hstep
      have hrank' : s'.closingRank = toLex (2, 0) := if_pos hpc'
      have hhelper' : s'.closingHelper = .drop := if_pos hpc'
      rw [hrank, hrank', hhelper, hhelper']
      refine ⟨rfl, rfl, ⟨.drop, _, rfl, ⟨?_, ?_⟩, (Step.stop hpc).next_eq⟩, hparty⟩
      · show Party.drop ≠ Party.caller
        decide
      · show Party.drop ≠ Party.surroundings
        decide
  · have hrank : 2 ≤ s.drop.rank := by
      cases hdrop : s.drop <;> rw [hdrop] at hentered hpc <;> simp_all [DropPc.rank]
    cases hparty : l.party with
    | caller => exact absurd hparty hl.1
    | surroundings => exact absurd hparty hl.2
    | poller => exact .inl (poller_descends hd hrank hparty hstep)
    | dispatcher => exact .inl (dispatcher_descends hrank hparty hstep)
    | drop => exact .inl (drop_descends hd hrank hparty hstep)
    | future =>
      have hserial := reachable_serial h.reachable
      have hjoinable := reachable_joinable h.reachable
      rcases future_descends hd hserial hjoinable hrank hparty hstep with
        hless | ⟨hsame, s'', hdispatch⟩
      · exact .inl hless
      · right
        have hhelper : s.closingHelper = .dispatcher := if_neg (stopping_of_rank hrank)
        have hrank' := Nat.le_trans hrank (entered_step hentered hstep).1
        have hhelper' : s'.closingHelper = .dispatcher := if_neg (stopping_of_rank hrank')
        rw [hhelper, hhelper']
        refine ⟨hsame, rfl, ⟨.dispatcher, s'', rfl, ⟨?_, ?_⟩, hdispatch.next_eq⟩, by decide⟩
        · show Party.dispatcher ≠ Party.caller
          decide
        · show Party.dispatcher ≠ Party.surroundings
          decide

end descent

/-! ### Somebody can always take a step -/

section progress
variable [DecidableEq UUri] [UriMatches UUri] [DecidableEq Listener]
variable {env : Env UUri Sample Message} {s : State UUri Listener Sample Message}

/-- The step goes on with a callback that was suspended. A callback nobody
    wakes up never takes it. -/
def Resumes (s : State UUri Listener Sample Message) (l : Label UUri Listener Sample) : Prop :=
  ∃ t task, l = .poll t ∧ s.tasks[t]? = some task ∧ task.phase = .suspended

/-- Some party that shutdown waits for can take a step, and need not wait for
    a callback to be woken up. -/
def State.CanClose (env : Env UUri Sample Message) (s : State UUri Listener Sample Message) :
    Prop :=
  ∃ l s', (closingRouter env).step s l s' ∧ ¬ Resumes s l

/-- A step of a party other than the futures resumes nothing. -/
theorem canClose_of_step {l : Label UUri Listener Sample}
    {s' : State UUri Listener Sample Message} (h : Step env s l s') (hcaller : l.party ≠ .caller)
    (hsurr : l.party ≠ .surroundings) (hpoll : ∀ t, l ≠ .poll t) : s.CanClose env := by
  refine ⟨l, s', ⟨⟨hcaller, hsurr⟩, h.next_eq⟩, ?_⟩
  intro ⟨t, _, heq, _⟩
  exact hpoll t heq

theorem canClose_of_drop {s' : State UUri Listener Sample Message} (h : Step env s .drop s') :
    s.CanClose env :=
  canClose_of_step h (by simp [Label.party]) (by simp [Label.party]) (by simp)

theorem canClose_of_poller {s' : State UUri Listener Sample Message}
    (h : Step env s .poller s') : s.CanClose env :=
  canClose_of_step h (by simp [Label.party]) (by simp [Label.party]) (by simp)

theorem canClose_of_dispatcher {s' : State UUri Listener Sample Message}
    (h : Step env s .dispatcher s') : s.CanClose env :=
  canClose_of_step h (by simp [Label.party]) (by simp [Label.party]) (by simp)

/-- A worker is free for a future that is on none. -/
theorem Closing.worker_free (h : Closing env s) {t : TaskId} {task : Task Message}
    (htask : s.tasks[t]? = some task) (hlive : task.phase.done = false)
    (hoff : task.phase.onWorker = false) : s.busy < env.workers := by
  have hserial := reachable_serial h.reachable
  have hd := reachable_dropping h.reachable
  have hidle := hserial.none_onWorker (hserial.live t task htask hlive) htask hoff
  have hcalls : s.calls.countP Call.occupies = 0 := by
    apply List.countP_eq_zero.mpr
    intro call hcall
    simp [Call.occupies, hd.calls h.entered call hcall]
  have hdrop : s.dropBusy = 0 := dropBusy_elsewhere (by rw [h.site]; simp)
  have hfree := h.free
  rw [busy_eq, hidle, hcalls, hdrop]
  omega

/-- Nothing inside a callback keeps its poll from ending. -/
theorem Closing.not_inCall (h : Closing env s) (t : TaskId) : s.inCall t = false := by
  have hd := reachable_dropping h.reachable
  unfold State.inCall
  rw [Bool.or_eq_false_iff]
  constructor
  · rw [List.any_eq_false]
    intro call hcall
    simp [hd.calls h.entered call hcall]
  · simp [h.site]

/-- A worker drops a future that is aborted, or whose runtime is shut down. -/
theorem Closing.cancels (h : Closing env s) {t : TaskId} {task : Task Message}
    (htask : s.tasks[t]? = some task) (hpoll : task.phase.pollable = true)
    (hend : task.aborted = true ∨ s.shutdown = true) : ∃ s', Step env s (.cancel t) s' := by
  have hlive := Phase.not_done_of_holdsGuard (Phase.holdsGuard_of_pollable hpoll)
  have hfree := h.worker_free htask hlive (Phase.off_of_pollable hpoll)
  refine ⟨_, .cancel t htask hpoll hfree ?_⟩
  cases hup : s.shutdown with
  | true => exact .inr rfl
  | false =>
    obtain ⟨hdriven, hslots⟩ := h.served hup
    refine .inl ⟨?_, hdriven, hslots task (List.mem_of_getElem? htask)⟩
    rw [hup] at hend
    exact hend.resolve_right Bool.false_ne_true

/-- A future that is not complete can come closer to its end, or the
    dispatcher to aborting it. -/
theorem Closing.future_canClose (h : Closing env s) (hrank : 2 ≤ s.drop.rank) {t : TaskId}
    {task : Task Message} (htask : s.tasks[t]? = some task) (hlive : task.phase.done = false) :
    s.CanClose env := by
  have hserial := reachable_serial h.reachable
  have hjoinable := reachable_joinable h.reachable
  have hstopped := (reachable_dropping h.reachable).stopped hrank
  -- every step but `poll` ends at once, and a poll can always end
  have hother : ∀ {l : Label UUri Listener Sample} {s'}, Step env s l s' → l.party = .future →
      (∀ t, l ≠ .poll t) → s.CanClose env := by
    intro l s' hstep hparty hpoll
    exact canClose_of_step hstep (by rw [hparty]; decide) (by rw [hparty]; decide) hpoll
  -- nobody has to wake the callback: the dispatcher aborts it, and a worker drops it
  have hpollable : task.phase.pollable = true → s.CanClose env := by
    intro hpoll
    cases habort : task.aborted with
    | true =>
      obtain ⟨s', hstep⟩ := h.cancels htask hpoll (.inl habort)
      exact hother hstep rfl (by simp)
    | false =>
      obtain ⟨s'', hstep⟩ := dispatcher_can_step hserial hjoinable hstopped htask hlive habort
      exact canClose_of_dispatcher hstep
  obtain ⟨job, aborted, phase⟩ := task
  cases phase with
  | spawned | suspended | woken => exact hpollable rfl
  | polling => exact hother (.finish t false htask rfl (h.not_inCall t)) rfl (by simp)
  | dropping outcome =>
    by_cases hzero : (s.registry.release job.reg).inFlight job.reg = 0
    · exact hother (.releaseLast t htask hzero) rfl (by simp)
    · exact hother (.release t htask hzero) rfl (by simp)
  | released outcome => exact hother (.complete t htask) rfl (by simp)
  | complete outcome => contradiction

/-- The poller can take a step until it ends. -/
theorem poller_canClose (hstopped : s.stopped = true) (hended : s.poller.ended = false) :
    s.CanClose env := by
  cases hpc : s.poller with
  | idle => exact canClose_of_poller (.pollStop hpc hstopped)
  | taking =>
    exact canClose_of_step (.takeOk [] hpc) (by simp [Label.party]) (by simp [Label.party])
      (by simp)
  | batch samples =>
    cases samples with
    | nil => exact canClose_of_poller (.batchDone hpc)
    | cons head rest =>
      obtain ⟨data, k⟩ := head
      cases data with
      | none => exact canClose_of_poller (.sampleEmpty hpc)
      | some sample =>
        cases hverdict : env.carriage.receive env.config.toDdsConfig sample with
        | own => exact canClose_of_poller (.sampleOwn hpc hverdict)
        | malformed detail => exact canClose_of_poller (.sampleMalformed hpc hverdict)
        | accepted message => exact canClose_of_poller (.sampleAccepted hpc hverdict)
  | fanout k message regs rest =>
    cases regs with
    | nil => exact canClose_of_poller (.fanoutDone hpc)
    | cons reg regs =>
      cases hsend : s.trySend env ⟨k, reg, message⟩ with
      | ok queue => exact canClose_of_poller (.submitOk hpc hsend)
      | error detail => exact canClose_of_poller (.submitFail hpc hsend)
  | rejecting detail k message reg regs rest => exact canClose_of_poller (.reject hpc)
  | exited => rw [hpc] at hended; contradiction
  | panicked jobs rest => rw [hpc] at hended; contradiction

/-- The dispatcher, or the future it waits for, can take a step until the
    dispatcher ends. -/
theorem Closing.dispatcher_canClose (h : Closing env s) (hrank : 3 ≤ s.drop.rank)
    (hended : s.dispatcher.ended = false) : s.CanClose env := by
  have hserial := reachable_serial h.reachable
  have hd := reachable_dropping h.reachable
  have hstopped := hd.stopped (Nat.le_of_succ_le hrank)
  cases hpc : s.dispatcher with
  | receiving =>
    cases hqueue : s.queue with
    | nil => exact canClose_of_dispatcher (.recvClosed hpc hqueue (hd.poller hrank))
    | cons job queue => exact canClose_of_dispatcher (.recv hpc hqueue)
  | starting job =>
    cases hbegin : s.registry.begin job.reg with
    | none => exact canClose_of_dispatcher (.beginInactive hpc hbegin)
    | some registry => exact canClose_of_dispatcher (.beginActive hpc hbegin)
  | spawning job => exact canClose_of_dispatcher (.spawn hpc)
  -- the stop flag ends the wait, whatever the future does
  | waiting job t => exact canClose_of_dispatcher (.leaveWait hpc (.inr hstopped))
  | checkStop job t => exact canClose_of_dispatcher (.stopSeen hpc hstopped)
  | checkFinished job t =>
    cases hfin : s.finished t with
    | true => exact canClose_of_dispatcher (.finishSeen hpc hfin)
    | false => exact canClose_of_dispatcher (.abort hpc hfin)
  | joining job t =>
    obtain ⟨task, htask, _⟩ := hserial.current t (by rw [hpc]; rfl)
    cases hdone : task.phase.outcome with
    | some outcome =>
      have hout : s.outcome t = some outcome := by simp [State.outcome, htask, hdone]
      by_cases hreturned : outcome = .returned
      · exact canClose_of_dispatcher (.joinOk hpc (by rw [hout, hreturned]))
      · exact canClose_of_dispatcher (.joinError hpc hout hreturned)
    | none =>
      apply h.future_canClose (Nat.le_of_succ_le hrank) htask
      cases hphase : task.phase <;> rw [hphase] at hdone <;> first | rfl | contradiction
  | failed => exact canClose_of_dispatcher (.ignore hpc hstopped)
  | counting => exact canClose_of_dispatcher (.count hpc)
  | finishing => exact canClose_of_dispatcher (.jobDone hpc)
  | caught => exact canClose_of_dispatcher (.countCaught hpc)
  | exited => rw [hpc] at hended; contradiction

/-- **No state before the return of `Drop` is stuck.** -/
theorem Closing.canClose (h : Closing env s) (hbefore : s.drop ≠ .returned) :
    s.CanClose env := by
  have hd := reachable_dropping h.reachable
  have hentered := h.entered
  cases hpc : s.drop with
  | live => rw [hpc] at hentered; contradiction
  | stopping => exact canClose_of_drop (.stop hpc)
  | joiningPoller =>
    cases hpoller : s.poller with
    | exited => exact canClose_of_drop (.joinPoller hpc hpoller)
    | panicked jobs rest => exact canClose_of_drop (.joinPanicked hpc hpoller)
    | _ => exact poller_canClose (hd.stopped (by rw [hpc]; decide)) (by rw [hpoller]; rfl)
  | takingEntries => exact canClose_of_drop (.takeEntries hpc)
  | draining regs =>
    cases regs with
    | nil => exact canClose_of_drop (.drained hpc)
    | cons r regs => exact canClose_of_drop (.drain hpc)
  | asleep r regs =>
    -- whoever holds the guard that `Drop` waits for can go on
    have hwaits := (reachable_waits h.reachable).drop
    rw [hpc] at hwaits
    have hown := (reachable_counted h.reachable).owner_of_ne_zero hwaits.1.2
    rcases guard_of_owner hown with ⟨job, hspawn, _⟩ | ⟨t, task, _, htask, hguard, _⟩
    · exact canClose_of_dispatcher (.spawn hspawn)
    · have hrank : 2 ≤ s.drop.rank := by
        rw [hpc]
        show 2 ≤ 4
        decide
      exact h.future_canClose hrank htask (Phase.not_done_of_holdsGuard hguard)
  | awake r regs => exact canClose_of_drop (.recheckDrop hpc)
  | joiningDispatcher =>
    cases hended : s.dispatcher.ended with
    | true => exact canClose_of_drop (.joinDispatcher hpc hended)
    | false => exact h.dispatcher_canClose (by rw [hpc]; decide) hended
  | deletingContained =>
    exact canClose_of_step (.deleteContained none hpc) (by simp [Label.party])
      (by simp [Label.party]) (by simp)
  | deletingParticipant =>
    exact canClose_of_step (.deleteParticipant none hpc) (by simp [Label.party])
      (by simp [Label.party]) (by simp)
  | returned => exact absurd hpc hbefore

end progress

/-! ### Termination -/

section termination
variable [DecidableEq UUri] [UriMatches UUri] [DecidableEq Listener]
variable {env : Env UUri Sample Message} {s : State UUri Listener Sample Message}

end termination

/-- `Drop` is entered while a callback is suspended and a job is queued. -/
def closingRun : List TopicLabel :=
  [.enter .external (.register ⟨7⟩ none 0), .advance 0,
   .enter .external (.register ⟨7⟩ none 1), .advance 1,
   .poller, .take (.ok [some ("peer", 7), none, some ("peer", 8)]), .poller, .poller, .poller,
   .dispatcher, .dispatcher, .dispatcher, .poll 0, .suspend 0, .enterDrop .external]

/-- `Drop` has been entered on a thread outside the runtime, and some worker
    is free. -/
structure DropEntered [DecidableEq UUri] [UriMatches UUri] [DecidableEq Listener]
    (env : Env UUri Sample Message) (s : State UUri Listener Sample Message) : Prop where
  reachable : Reachable (liveRouter env) s
  entered : 1 ≤ s.drop.rank
  site : s.dropSite = .external
  free : s.busy < env.workers

/-- Unrelated work wakes up the callback and goes on while the transport is
    dropped. -/
def slottedRun : List TopicLabel :=
  [.enter .external (.register ⟨7⟩ none 0), .advance 0,
   .poller, .take (.ok [some ("peer", 7)]), .poller, .poller, .poller, .poller,
   .dispatcher, .dispatcher, .dispatcher, .poll 0, .suspend 0, .occupy, .wakeTask 0 (.poll 0),
   .enterDrop .external, .drop, .poller, .drop, .drop, .drop,
   .dispatcher, .dispatcher, .dispatcher]

/-- Neither of the two threads can move, nor can the aborted callback. -/
structure Stuck (s : TopicState) : Prop where
  poller : s.poller = .exited
  dispatcher : s.dispatcher = .joining ⟨0, 0, ⟨7⟩⟩ 0
  tasks : s.tasks = [⟨⟨0, 0, ⟨7⟩⟩, true, .woken (.poll 0)⟩]
  drop : s.drop = .asleep 0 []
  polls : s.polls = [true]
  up : s.shutdown = false

theorem Stuck.no_step {s s' : TopicState} {l : TopicLabel} {env : Env Topic (String × Nat) Topic}
    (h : Stuck s) (hl : l.Closing) : ¬ Step env s l s' := by
  intro hstep
  have hpoller := h.poller
  have hdispatcher := h.dispatcher
  have hdrop := h.drop
  have htasks : ∀ {t : TaskId} {task : Task Topic}, s.tasks[t]? = some task →
      task = ⟨⟨0, 0, ⟨7⟩⟩, true, .woken (.poll 0)⟩ := by
    intro t task htask
    rw [h.tasks] at htask
    exact List.mem_singleton.mp (List.mem_of_getElem? htask)
  have hslot : s.slotted ⟨⟨0, 0, ⟨7⟩⟩, true, .woken (.poll 0)⟩ = true := by
    simp [State.slotted, State.occupied, h.polls]
  cases hstep with
  | poll t htask _ habort =>
    rw [htasks htask] at habort
    contradiction
  | cancel t htask _ _ hcancel =>
    rcases hcancel with ⟨_, _, hfree⟩ | hshut
    · rw [htasks htask, hslot] at hfree
      contradiction
    · rw [h.up] at hshut
      contradiction
  | suspend t htask hphase | finish t _ htask hphase =>
    rw [htasks htask] at hphase
    contradiction
  | release t htask | releaseLast t htask | complete t htask =>
    have hphase := htasks htask
    simp at hphase
  | joinOk hpc hout | joinError hpc hout =>
    obtain ⟨rfl, rfl⟩ := Dispatcher.joining.inj (hdispatcher.symm.trans hpc)
    simp [State.outcome, h.tasks, Phase.outcome] at hout
  | enter | registerFail | register | removeFail | remove | deactivate | recheck | enterDrop =>
    exact hl.1 rfl
  | wake | wakeDrop | wakeTask | occupy | vacate | drive | undrive | shutdownRuntime =>
    exact hl.2 rfl
  | pollerPanic hended =>
    rw [hpoller] at hended
    contradiction
  | _ => simp_all

end UpTransportDds
