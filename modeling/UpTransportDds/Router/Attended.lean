import UpTransportDds.Framework.Progress
import UpTransportDds.Router.Service

/-! # What a transport owes to its peers

  The samples it has taken are looked at, and each job they give rise to is
  rejected at once or gets its turn. Poller, dispatcher and workers may be
  slow, but are not starved; a callback may wait as often as it likes, but not
  forever. The poller comes back to `take` even if it does.
-/

namespace UpTransportDds

open LTS

variable {UUri Listener Sample Message : Type}

/-- An execution of a transport. -/
abbrev RouterExecution (Listener : Type) [DecidableEq UUri] [UriMatches UUri]
    [DecidableEq Listener] (env : Env UUri Sample Message) : Type :=
  Execution (router env : System (State UUri Listener Sample Message) (Label UUri Listener Sample))

/-! ### A transport at rest -/

section idle
variable [DecidableEq UUri] [UriMatches UUri] [DecidableEq Listener]
variable {env : Env UUri Sample Message} {s : State UUri Listener Sample Message}

theorem dispatcher_idle (hpc : s.dispatcher = .receiving) (hqueue : s.queue = [])
    (hended : s.poller.ended = false) : ¬ (router env).Enabled Label.party .dispatcher s := by
  intro ⟨l, s', hparty, hmove⟩
  cases Step.of_next hmove with
  | recv _ hjob =>
    rw [hqueue] at hjob
    contradiction
  | recvClosed _ _ hclosed =>
    rw [hended] at hclosed
    contradiction
  | _ => simp_all [Label.party]

theorem futures_idle (hdone : ∀ task ∈ s.tasks, task.phase.done = true) :
    ¬ (router env).Enabled Label.party .future s := by
  intro ⟨l, s', hparty, hmove⟩
  have hphase : ∀ {t : TaskId} {task : Task Message}, s.tasks[t]? = some task →
      task.phase.done = true := fun htask => hdone _ (List.mem_of_getElem? htask)
  cases Step.of_next hmove with
  | poll t htask hpoll | cancel t htask hpoll =>
    have hlive := Phase.not_done_of_holdsGuard (Phase.holdsGuard_of_pollable hpoll)
    rw [hphase htask] at hlive
    contradiction
  | suspend t htask hpoll | wakeTask t occupant htask hpoll | finish t panicked htask hpoll =>
    have hdone := hphase htask
    rw [hpoll] at hdone
    contradiction
  | release t htask | releaseLast t htask | complete t htask =>
    have hdone := hphase htask
    contradiction
  | _ => contradiction

end idle

/-- Nothing comes in. -/
def noData : Except DdsError (List (Option (String × Nat))) := .error ⟨.noData, "no data"⟩

/-- The run with the given labels, after which the poller polls forever. -/
theorem polling_after {env : Env Topic (String × Nat) Topic} {ls : List TopicLabel}
    {tr : Trace TopicState TopicLabel} {s : TopicState}
    (hexec : exec (State.next env) State.start ls = some (tr, s)) (hpoller : s.poller = .idle)
    (hrunning : s.stopped = false) (hserving : ∀ l ∈ ls, l.Serving) :
    ∃ σ : Execution (router env), σ.state 0 = State.start ∧
      (∀ i, i < tr.length → tr[i]? = some (σ.state i, σ.label i)) ∧
      (∀ i, σ.state (tr.length + i) = s ∨
        σ.state (tr.length + i) = { s with poller := .taking }) ∧
      (∀ i, (σ.label (tr.length + i)).party = .poller) ∧ ∀ i, (σ.label i).Serving := by
  have hrun : Run (router env) State.start tr s := run_of_exec hexec
  have hpoll : (router env).step s .poller { s with poller := .taking } :=
    (Step.pollRun hpoller hrunning).next_eq
  have htake : (router env).step { s with poller := .taking } (.take noData) s := by
    have hstep : Step env { s with poller := .taking } (.take noData) _ := .takeNoData _ rfl rfl
    have hback : { s with poller := .idle } = s := by rw [← hpoller]
    exact hback ▸ hstep.next_eq
  obtain ⟨σ, hstart, hrest, hsteps⟩ :=
    hrun.prepend (.cycle .poller (.take noData) hpoll htake) rfl
  have hstate : ∀ i, σ.state (tr.length + i) =
      if i % 2 = 0 then s else { s with poller := .taking } :=
    fun i => congrArg (fun σ => σ.state i) hrest
  have hlabel : ∀ i, σ.label (tr.length + i) = if i % 2 = 0 then .poller else .take noData :=
    fun i => congrArg (fun σ => σ.label i) hrest
  refine ⟨σ, hstart, hsteps, ?_, ?_, ?_⟩
  · intro i
    rw [hstate]
    split
    · exact .inl rfl
    · exact .inr rfl
  · intro i
    rw [hlabel]
    split <;> rfl
  · intro i
    by_cases hi : i < tr.length
    · have hmem := List.mem_map_of_mem (f := Prod.snd) (List.mem_of_getElem? (hsteps i hi))
      rw [labels_of_exec hexec] at hmem
      exact hserving _ hmem
    · obtain ⟨j, rfl⟩ := Nat.exists_eq_add_of_le (Nat.le_of_not_lt hi)
      rw [hlabel]
      split <;> trivial

/-! ### The poller goes on -/

section executions
variable [DecidableEq UUri] [UriMatches UUri] [DecidableEq Listener]
variable {env : Env UUri Sample Message} {σ : RouterExecution Listener env}
  {k n : Nat} {x : Taken Sample} {job : Job Message}

theorem step_at (σ : RouterExecution Listener env) (i : Nat) :
    Step env (σ.state i) (σ.label i) (σ.state (i + 1)) :=
  Step.of_next (σ.step i)

theorem reachable_start (h : σ.state 0 = State.start) : Reachable (router env) (σ.state 0) :=
  ⟨[], σ.state 0, h, .nil⟩

theorem reachable_at (h : Reachable (router env) (σ.state 0)) (i : Nat) :
    Reachable (router env) (σ.state i) :=
  σ.always (fun _ _ _ hr hmove => hr.step hmove) h i

/-- A transport that starts in service stays in service. -/
theorem inService_of_serving (hstart : σ.state 0 = State.start)
    (hserving : ∀ i, (σ.label i).Serving) (i : Nat) : InService (σ.state i) := by
  induction i with
  | zero =>
    rw [hstart]
    exact { live := rfl, running := rfl, up := rfl, driven := rfl, polling := rfl,
            unaborted := by simp [State.start], outside := by simp [State.start] }
  | succ i ih =>
    have hr := reachable_at (reachable_start hstart) i
    exact inService_step (reachable_joinable hr) ih (hserving i) (step_at σ i)

/-- An execution in which the poller is not starved, stopped or panicked,
    whatever becomes of the others. -/
structure Polled (σ : RouterExecution Listener env) : Prop where
  start : Reachable (router env) (σ.state 0)
  running : ∀ i, (σ.state i).stopped = false
  polling : ∀ i, (σ.state i).poller.ended = false
  fair : σ.Fair Label.party .poller

theorem Polled.reachable (h : Polled σ) (i : Nat) : Reachable (router env) (σ.state i) :=
  reachable_at h.start i

/-- What happens if the poller goes on. -/
theorem Polled.polls (h : Polled σ) (inv event : Nat → Prop)
    (hinv : ∀ i, inv i → ¬ event i → inv (i + 1))
    (htake : ∀ i, inv i → (σ.state i).poller = .taking ∧ (σ.label i).party = .poller → event i)
    (hk : inv k) : ∃ i, k ≤ i ∧ inv i ∧ event i := by
  refine σ.eventually inv event (fun i => (σ.state i).poller.rank) (fun _ => Party.poller) hinv
    ⟨0, ?_⟩ (fun _ => h.fair) hk
  intro i _ hholds hnot
  refine ⟨poller_enabled (h.polling i), ?_⟩
  rcases pollerRank_step (h.running i) (h.polling (i + 1))
    (fun htakes => hnot (htake i hholds htakes)) (step_at σ i) with hless | ⟨hsame, hother⟩
  · exact .inl hless
  · exact .inr ⟨hsame, rfl, hother⟩

/-- The poller turns to every sample of its batch. -/
theorem Polled.handles (h : Polled σ) (hx : x ∈ (σ.state k).poller.unhandled) :
    ∃ i, k ≤ i ∧ x ∈ handled (σ.state i) (σ.label i) := by
  have hstays : ∀ i, x ∈ (σ.state i).poller.unhandled → x ∉ handled (σ.state i) (σ.label i) →
      x ∈ (σ.state (i + 1)).poller.unhandled := by
    intro i hold hnot
    have hmem := List.mem_append_left (took (σ.state i) (σ.label i)) hold
    rw [batch_step (step_at σ i)] at hmem
    exact (List.mem_append.mp hmem).resolve_left hnot
  have htaking : ∀ i, x ∈ (σ.state i).poller.unhandled → (σ.state i).poller ≠ .taking := by
    intro i hold hpc
    rw [hpc] at hold
    exact absurd hold List.not_mem_nil
  obtain ⟨i, hi, -, hhandled⟩ := h.polls _ _ hstays
    (fun i hold htakes => absurd htakes.1 (htaking i hold)) hx
  exact ⟨i, hi, hhandled⟩

/-- The poller submits every job of its message. -/
theorem Polled.submits (h : Polled σ) (hjob : job ∈ (σ.state k).poller.toSubmit) :
    ∃ i, k ≤ i ∧
      job ∈ queued env (σ.state i) (σ.label i) ++ rejected (σ.state i) (σ.label i) := by
  have hstays : ∀ i, job ∈ (σ.state i).poller.toSubmit →
      job ∉ queued env (σ.state i) (σ.label i) ++ rejected (σ.state i) (σ.label i) →
      job ∈ (σ.state (i + 1)).poller.toSubmit := by
    intro i hold hnot
    have hmem := List.mem_append_left (snapshotted env (σ.state i) (σ.label i)) hold
    have hbag := fanout_bag_step (reachable_refusedFull (h.reachable i)) (step_at σ i)
    exact (List.mem_append.mp (hbag.subset hmem)).resolve_left hnot
  have htaking : ∀ i, job ∈ (σ.state i).poller.toSubmit → (σ.state i).poller ≠ .taking := by
    intro i hold hpc
    rw [hpc] at hold
    exact absurd hold List.not_mem_nil
  obtain ⟨i, hi, -, hsubmitted⟩ := h.polls _ _ hstays
    (fun i hold htakes => absurd htakes.1 (htaking i hold)) hjob
  exact ⟨i, hi, hsubmitted⟩

/-- The poller looks at every sample that it takes. -/
theorem Polled.looks_at (h : Polled σ) (hx : x ∈ took (σ.state k) (σ.label k)) :
    ∃ i, k ≤ i ∧ (x, (σ.state i).registry) ∈ handledIn (σ.state i) (σ.label i) := by
  have hmem := List.mem_append_right (σ.state k).poller.unhandled hx
  rw [batch_step (step_at σ k)] at hmem
  have hhandled : ∃ i, k ≤ i ∧ x ∈ handled (σ.state i) (σ.label i) := by
    rcases List.mem_append.mp hmem with hnow | hlater
    · exact ⟨k, Nat.le_refl k, hnow⟩
    · obtain ⟨i, hi, hhandled⟩ := h.handles hlater
      exact ⟨i, by omega, hhandled⟩
  obtain ⟨i, hi, hhandled⟩ := hhandled
  obtain ⟨⟨_, registry⟩, hin, rfl⟩ := List.mem_map.mp hhandled
  obtain rfl : registry = (σ.state i).registry := registry_of_handledIn hin
  exact ⟨i, hi, hin⟩

/-- Every job of a snapshot is queued or rejected. -/
theorem Polled.decides (h : Polled σ) (hjob : job ∈ snapshotted env (σ.state k) (σ.label k)) :
    ∃ i, k ≤ i ∧
      job ∈ queued env (σ.state i) (σ.label i) ++ rejected (σ.state i) (σ.label i) := by
  have hbag := fanout_bag_step (reachable_refusedFull (h.reachable k)) (step_at σ k)
  rcases List.mem_append.mp (hbag.subset (List.mem_append_right _ hjob)) with hnow | hlater
  · exact ⟨k, Nat.le_refl k, hnow⟩
  · obtain ⟨i, hi, hsubmitted⟩ := h.submits hlater
    exact ⟨i, by omega, hsubmitted⟩

/-- **The poller waits for nobody.** Whatever the listeners, the dispatcher and
    the workers do, it comes back to `take`, it looks at every sample it has
    taken, and every job of the sample is queued or rejected. -/
theorem poller_goes_on (h : Polled σ) (k : Nat) :
    (∃ i, k ≤ i ∧ ∃ result, σ.label i = .take result) ∧
    ∀ x ∈ took (σ.state k) (σ.label k), ∃ i, k ≤ i ∧
      (x, (σ.state i).registry) ∈ handledIn (σ.state i) (σ.label i) ∧
      ∀ job ∈ jobsFor env (x, (σ.state i).registry), ∃ j, i ≤ j ∧
        job ∈ queued env (σ.state j) (σ.label j) ++ rejected (σ.state j) (σ.label j) := by
  constructor
  · obtain ⟨i, hi, -, htakes, hparty⟩ := h.polls (fun _ => True)
      (fun i => (σ.state i).poller = .taking ∧ (σ.label i).party = .poller)
      (fun _ _ _ => trivial) (fun _ _ htakes => htakes) (k := k) trivial
    exact ⟨i, hi, take_of_taking htakes hparty (h.polling (i + 1)) (step_at σ i)⟩
  · intro x hx
    obtain ⟨i, hi, hin⟩ := h.looks_at hx
    refine ⟨i, hi, hin, ?_⟩
    intro job hjob
    exact h.decides (List.mem_flatMap.mpr ⟨_, hin, hjob⟩)

end executions

/-- A callback that waits forever. -/
def stuckRun : List TopicLabel :=
  [.enter .external (.register ⟨7⟩ none 0), .advance 0,
   .poller, .take (.ok [some ("peer", 7)]), .poller, .poller, .poller, .poller,
   .dispatcher, .dispatcher, .dispatcher, .poll 0, .suspend 0]

/-- The poller does not mind it. -/
theorem poller_goes_on_run : ∃ (σ : Execution topicRouter) (n : Nat),
    (∀ i, n ≤ i → (σ.state i).CallbackRunning 0) ∧
    ∀ k, (∃ i, k ≤ i ∧ ∃ result, σ.label i = .take result) ∧
      ∀ x ∈ took (σ.state k) (σ.label k), ∃ i, k ≤ i ∧
        (x, (σ.state i).registry) ∈ handledIn (σ.state i) (σ.label i) ∧
        ∀ job ∈ jobsFor (topicEnv 4 2) (x, (σ.state i).registry), ∃ j, i ≤ j ∧
          job ∈ queued (topicEnv 4 2) (σ.state j) (σ.label j) ++
            rejected (σ.state j) (σ.label j) := by
  obtain ⟨tr, s, hexec, hpoller, hrunning, htasks⟩ : ∃ tr s,
      exec (State.next (topicEnv 4 2)) State.start stuckRun = some (tr, s) ∧
        s.poller = .idle ∧ s.stopped = false ∧ s.tasks = [⟨⟨0, 0, ⟨7⟩⟩, false, .suspended⟩] :=
    ⟨_, _, rfl, rfl, rfl, rfl⟩
  obtain ⟨σ, hstart, -, hstates, hparty, hserving⟩ :=
    polling_after hexec hpoller hrunning (by simp [stuckRun, Label.Serving])
  have hservice := inService_of_serving hstart hserving
  refine ⟨σ, tr.length, ?_, poller_goes_on
    { start := reachable_start hstart
      running := fun i => (hservice i).running
      polling := fun i => (hservice i).polling
      fair := fun i _ => ⟨tr.length + i, Nat.le_add_left i _, hparty i⟩ }⟩
  intro i hi
  obtain ⟨j, rfl⟩ := Nat.exists_eq_add_of_le hi
  have hsame : (σ.state (tr.length + j)).tasks = s.tasks := by
    rcases hstates j with hstate | hstate <;> rw [hstate]
  exact ⟨⟨⟨0, 0, ⟨7⟩⟩, false, .suspended⟩, by simp [hsame, htasks], rfl, rfl⟩

/-! ### Every job gets its turn -/

section service
variable [DecidableEq UUri] [UriMatches UUri] [DecidableEq Listener]
variable {env : Env UUri Sample Message} {σ : RouterExecution Listener env}
  {k n : Nat} {x : Taken Sample} {job : Job Message}

/-- An execution in service, from the start of the transport on: a worker is
    always left for the callbacks, no callback waits forever, be it for an
    event or for a busy worker that has it in its slot, and nobody who serves
    is starved. -/
structure Attended (σ : RouterExecution Listener env) : Prop where
  start : σ.state 0 = State.start
  serving : ∀ i, (σ.label i).Serving
  workers : ∀ i, (σ.state i).foreign < env.workers
  patient : ∀ t, ∃ n, ∀ i, n ≤ i → σ.label i ≠ .suspend t
  unkept : ∀ t i, ∃ j, i ≤ j ∧ (σ.state j).kept t = false
  poller : σ.Fair Label.party .poller
  dispatcher : σ.Fair Label.party .dispatcher
  future : σ.Fair Label.party .future

theorem Attended.reachable (h : Attended σ) (i : Nat) : Reachable (router env) (σ.state i) :=
  reachable_at (reachable_start h.start) i

theorem Attended.service (h : Attended σ) (i : Nat) : InService (σ.state i) :=
  inService_of_serving h.start h.serving i

theorem Attended.polled (h : Attended σ) : Polled σ where
  start := h.reachable 0
  running i := (h.service i).running
  polling i := (h.service i).polling
  fair := h.poller

theorem Attended.fair (h : Attended σ) (s : State UUri Listener Sample Message) :
    σ.Fair Label.party s.attendant := by
  unfold State.attendant
  split
  · split
    · exact h.dispatcher
    · exact h.future
  · exact h.dispatcher

theorem Attended.slotsKnown (h : Attended σ) (i : Nat) : (σ.state i).SlotsKnown := by
  induction i with
  | zero =>
    rw [h.start]
    intro t task occupant htask
    contradiction
  | succ i ih => exact slotsKnown_step (h.service i) ih (step_at σ i)

/-- A future is not woken up any more from some moment on, and a wake-up before
    it is the last one. -/
theorem Attended.last_wakeTask (h : Attended σ) (t : TaskId) :
    ∃ n, ∀ i, n ≤ i → σ.label i ≠ .suspend t ∧ ∀ occupant, σ.label i ≠ .wakeTask t occupant := by
  obtain ⟨n, hn⟩ := h.patient t
  by_cases hwakes : ∃ i occupant, n ≤ i ∧ σ.label i = .wakeTask t occupant
  · obtain ⟨m, occupant, hm, hwake⟩ := hwakes
    have hactive : ∀ i, m + 1 ≤ i → (σ.state i).Active t := by
      intro i hi
      induction i, hi using Nat.le_induction with
      | base => exact active_of_wakeTask (hwake ▸ step_at σ m)
      | succ i hi ih => exact (active_step ih (hn i (by omega)) (step_at σ i)).1
    refine ⟨m + 1, fun i hi => ⟨hn i (by omega), ?_⟩⟩
    exact (active_step (hactive i hi) (hn i (by omega)) (step_at σ i)).2
  · exact ⟨n, fun i hi => ⟨hn i hi, fun occupant hwake => hwakes ⟨i, occupant, hi, hwake⟩⟩⟩

/-- A future does not wait any more from some moment on, be it for an event or
    for a worker. -/
theorem Attended.goes_on (h : Attended σ) (t : TaskId) :
    ∃ n, ∀ i, n ≤ i → σ.label i ≠ .suspend t ∧ (σ.state i).kept t = false := by
  obtain ⟨n, hn⟩ := h.last_wakeTask t
  obtain ⟨m, hm, hkept⟩ := h.unkept t n
  have hletGo : ∀ i, m ≤ i → (σ.state i).LetGo t := by
    intro i hi
    induction i, hi using Nat.le_induction with
    | base => exact (h.slotsKnown m).letGo hkept
    | succ i hi ih => exact letGo_step ih (hn i (by omega)).2 (step_at σ i)
  exact ⟨m, fun i hi => ⟨(hn i (by omega)).1, (hletGo i hi).not_kept⟩⟩

/-- What happens if dispatcher and future go on, unless the channel is empty. -/
theorem Attended.attends (h : Attended σ) (inv event : Nat → Prop)
    (hinv : ∀ i, inv i → ¬ event i → inv (i + 1))
    (hwait : ∃ n, ∀ i, n ≤ i → inv i → (σ.state i).dispatcher.job.isSome = true →
      σ.label i ≠ .suspend (σ.state i).currentTask ∧
        (σ.state i).kept (σ.state i).currentTask = false)
    (hqueue : ∀ i, inv i → (σ.state i).dispatcher = .receiving → (σ.state i).queue ≠ [])
    (hrecv : ∀ i, inv i → (σ.state i).dispatcher = .receiving ∧ (σ.label i).party = .dispatcher →
      event i)
    (hk : inv k) : ∃ i, k ≤ i ∧ inv i ∧ event i := by
  obtain ⟨n, hn⟩ := hwait
  refine σ.eventually inv event (fun i => (σ.state i).serviceWork)
    (fun i => (σ.state i).attendant) hinv ⟨n, ?_⟩ (fun i => h.fair (σ.state i)) hk
  intro i hi hholds hnot
  constructor
  · exact attendant_enabled (h.reachable i) (h.service i) (h.workers i)
      (fun hjob => (hn i hi hholds hjob).2) (hqueue i hholds)
  · exact serviceWork_step (reachable_serial (h.reachable i))
      (h.service i).up (fun hjob => (hn i hi hholds hjob).1)
      (fun hreceives => hnot (hrecv i hholds hreceives)) (step_at σ i)

/-- The dispatcher gets through with its job and receives the next one. -/
theorem Attended.receives (h : Attended σ) (hjob : (σ.state k).queue[n]? = some job) :
    ∃ i, k ≤ i ∧ (σ.state i).queue[n]? = some job ∧
      ((σ.state i).dispatcher = .receiving ∧ (σ.label i).party = .dispatcher) := by
  obtain ⟨m, hm⟩ := h.goes_on (σ.state k).currentTask
  obtain ⟨i, hi, hbehind, hreceives⟩ := h.attends
    (fun i => (σ.state i).Behind (σ.state k).currentTask n job)
    (fun i => (σ.state i).dispatcher = .receiving ∧ (σ.label i).party = .dispatcher)
    (fun i hbehind hnot => behind_step hnot hbehind (step_at σ i))
    ⟨m, fun i hi hbehind hbusy => by
      rw [hbehind.2 hbusy]
      exact hm i hi⟩
    (fun i hbehind _ hempty => by simp [State.Behind, hempty] at hbehind)
    (fun i _ hreceives => hreceives) ⟨hjob, fun _ => rfl⟩
  exact ⟨i, hi, hbehind.1, hreceives⟩

/-- Every job in the channel is received, however many there are before it. -/
theorem Attended.unqueues (h : Attended σ) (hjob : (σ.state k).queue[n]? = some job) :
    ∃ i, k ≤ i ∧ job ∈ received (σ.state i) (σ.label i) := by
  induction n generalizing k with
  | zero =>
    obtain ⟨i, hi, hqueued, hreceives⟩ := h.receives hjob
    obtain ⟨head, queue, hqueue⟩ := List.exists_cons_of_length_pos
      (List.getElem?_eq_some_iff.mp hqueued).1
    rw [hqueue] at hqueued
    refine ⟨i, hi, ?_⟩
    rw [(recv_inv hreceives hqueue (step_at σ i)).1, ← Option.some.inj hqueued]
    exact List.mem_singleton_self head
  | succ n ih =>
    obtain ⟨i, hi, hqueued, hreceives⟩ := h.receives hjob
    obtain ⟨head, queue, hqueue⟩ := List.exists_cons_of_length_pos
      (Nat.zero_lt_of_lt (List.getElem?_eq_some_iff.mp hqueued).1)
    have hmoved := (recv_inv hreceives hqueue (step_at σ i)).2
    rw [hqueue, List.getElem?_cons_succ, ← hmoved] at hqueued
    obtain ⟨j, hj, hreceived⟩ := ih hqueued
    exact ⟨j, by omega, hreceived⟩

/-- A job that is received is started or skipped. -/
theorem Attended.starts (h : Attended σ) (hjob : job ∈ received (σ.state k) (σ.label k)) :
    ∃ i, k ≤ i ∧ job ∈ started (σ.state i) (σ.label i) ++ skipped (σ.state i) (σ.label i) := by
  have hs : ∀ i, Serial (σ.state i).dispatcher (σ.state i).tasks :=
    fun i => reachable_serial (h.reachable i)
  -- the dispatcher does not receive while it has a job
  have hbusy : ∀ i, job ∈ fresh (σ.state i).dispatcher (σ.state i).tasks →
      (σ.state i).dispatcher ≠ .receiving := by
    intro i hfresh hpc
    rw [hpc] at hfresh
    exact absurd hfresh List.not_mem_nil
  by_cases hnow : job ∈ started (σ.state k) (σ.label k) ++ skipped (σ.state k) (σ.label k)
  · exact ⟨k, Nat.le_refl k, hnow⟩
  · obtain ⟨i, hi, -, hended⟩ := h.attends
      (fun i => job ∈ fresh (σ.state i).dispatcher (σ.state i).tasks)
      (fun i => job ∈ started (σ.state i) (σ.label i) ++ skipped (σ.state i) (σ.label i))
      (fun i hfresh hnot =>
        fresh_step (hs i) (h.service i) (step_at σ i) (List.mem_append_left _ hfresh) hnot)
      ⟨0, fun i _ hfresh _ => ⟨fun hsuspend => by
        rw [fresh_of_suspend (hs i) (hsuspend ▸ step_at σ i)] at hfresh
        exact absurd hfresh List.not_mem_nil, not_kept_of_fresh hfresh⟩⟩
      (fun i hfresh hpc => absurd hpc (hbusy i hfresh))
      (fun i hfresh hreceives => absurd hreceives.1 (hbusy i hfresh))
      (fresh_step (hs k) (h.service k) (step_at σ k) (List.mem_append_right _ hjob) hnow)
    exact ⟨i, by omega, hended⟩

/-- A job that the channel accepts gets its turn. -/
theorem Attended.serves (h : Attended σ) (hjob : job ∈ queued env (σ.state k) (σ.label k)) :
    ∃ i, k ≤ i ∧ job ∈ started (σ.state i) (σ.label i) ++ skipped (σ.state i) (σ.label i) := by
  have hmem := List.mem_append_right (σ.state k).queue hjob
  rw [channel_step (step_at σ k)] at hmem
  rcases List.mem_append.mp hmem with hreceived | hqueued
  · exact h.starts hreceived
  · obtain ⟨n, hn⟩ := List.mem_iff_getElem?.mp hqueued
    obtain ⟨i, hi, hreceived⟩ := h.unqueues hn
    obtain ⟨j, hj, hended⟩ := h.starts hreceived
    exact ⟨j, by omega, hended⟩

/-- A job of a snapshot is rejected or gets its turn. -/
theorem Attended.settles (h : Attended σ)
    (hjob : job ∈ snapshotted env (σ.state k) (σ.label k)) :
    ∃ i, k ≤ i ∧ (job ∈ rejected (σ.state i) (σ.label i) ∨
      job ∈ started (σ.state i) (σ.label i) ∨ job ∈ skipped (σ.state i) (σ.label i)) := by
  obtain ⟨i, hi, hdecided⟩ := h.polled.decides hjob
  rcases List.mem_append.mp hdecided with hqueued | hrejected
  · obtain ⟨j, hj, hended⟩ := h.serves hqueued
    exact ⟨j, by omega, .inr (List.mem_append.mp hended)⟩
  · exact ⟨i, hi, .inl hrejected⟩

/-- **Every sample is served.** In service, every sample that `take` returns is
    looked at, and each of its jobs is rejected, or its callback starts, unless
    its registration has been deactivated by then. -/
theorem taken_are_served (h : Attended σ) (hx : x ∈ took (σ.state k) (σ.label k)) :
    ∃ i, k ≤ i ∧ (x, (σ.state i).registry) ∈ handledIn (σ.state i) (σ.label i) ∧
      ∀ job ∈ jobsFor env (x, (σ.state i).registry), ∃ j, i ≤ j ∧
        (job ∈ rejected (σ.state j) (σ.label j) ∨ job ∈ started (σ.state j) (σ.label j) ∨
          job ∈ skipped (σ.state j) (σ.label j)) := by
  obtain ⟨i, hi, hin⟩ := h.polled.looks_at hx
  refine ⟨i, hi, hin, ?_⟩
  intro job hjob
  exact h.settles (List.mem_flatMap.mpr ⟨_, hin, hjob⟩)

end service

/-- Nothing is left to do. -/
structure AtRest (s : State UUri Listener Sample Message) : Prop where
  poller : s.poller = .idle
  running : s.stopped = false
  dispatcher : s.dispatcher = .receiving
  queue : s.queue = []
  tasks : s.tasks.all (·.phase.done) = true
  foreign : s.foreign = 0

theorem AtRest.not_kept {s : State UUri Listener Sample Message} (h : AtRest s) (t : TaskId) :
    s.kept t = false := by
  unfold State.kept
  rw [Option.any_eq_false]
  intro task htask
  have hdone := List.all_eq_true.mp h.tasks task (List.mem_of_getElem? htask)
  cases hphase : task.phase
  case complete outcome => simp [State.slotted, hphase]
  all_goals
    rw [hphase] at hdone
    contradiction

/-- A run in service that ends at rest goes on as an execution in service. -/
theorem attended_of_atRest {ls : List TopicLabel} {tr : Trace TopicState TopicLabel}
    {s : TopicState} (hexec : exec (State.next (topicEnv 4 2)) State.start ls = some (tr, s))
    (hrest : AtRest s) (hserving : ∀ l ∈ ls, l.Serving)
    (hfree : tr.all (·.1.foreign = 0) = true) :
    ∃ σ : Execution topicRouter, Attended σ ∧
      (∀ i, i < tr.length → tr[i]? = some (σ.state i, σ.label i)) ∧
      ∀ i, σ.state (tr.length + i) = s ∨
        σ.state (tr.length + i) = { s with poller := .taking } := by
  obtain ⟨σ, hstart, hsteps, hstates, hparty, hserves⟩ :=
    polling_after hexec hrest.poller hrest.running hserving
  have hlater : ∀ i, tr.length ≤ i → (σ.label i).party = .poller ∧ (σ.state i).foreign = 0 ∧
      (∀ t, (σ.state i).kept t = false) ∧
      ¬ topicRouter.Enabled Label.party .dispatcher (σ.state i) ∧
      ¬ topicRouter.Enabled Label.party .future (σ.state i) := by
    intro i hi
    obtain ⟨j, rfl⟩ := Nat.exists_eq_add_of_le hi
    refine ⟨hparty j, ?_⟩
    rcases hstates j with hstate | hstate <;> rw [hstate]
    · exact ⟨hrest.foreign, hrest.not_kept, dispatcher_idle hrest.dispatcher hrest.queue
        (by rw [hrest.poller]; rfl), futures_idle (List.all_eq_true.mp hrest.tasks)⟩
    · exact ⟨hrest.foreign, hrest.not_kept, dispatcher_idle hrest.dispatcher hrest.queue rfl,
        futures_idle (List.all_eq_true.mp hrest.tasks)⟩
  refine ⟨σ, { start := hstart, serving := hserves, workers := ?_, patient := ?_, unkept := ?_,
               poller := ?_, dispatcher := ?_, future := ?_ }, hsteps, hstates⟩
  · intro i
    by_cases hi : i < tr.length
    · have hnone := List.all_eq_true.mp hfree _ (List.mem_of_getElem? (hsteps i hi))
      rw [decide_eq_true_eq] at hnone
      rw [hnone]
      decide
    · rw [(hlater i (Nat.le_of_not_lt hi)).2.1]
      decide
  · refine fun t => ⟨tr.length, fun i hi hsuspend => ?_⟩
    have hpoller := (hlater i hi).1
    rw [hsuspend] at hpoller
    contradiction
  · intro t i
    exact ⟨tr.length + i, Nat.le_add_left i _, (hlater _ (Nat.le_add_right _ i)).2.2.1 t⟩
  · exact fun i _ => ⟨tr.length + i, Nat.le_add_left i _, hparty i⟩
  · intro i henabled
    exact absurd (henabled (tr.length + i) (Nat.le_add_left i _))
      (hlater _ (Nat.le_add_right _ i)).2.2.2.1
  · intro i henabled
    exact absurd (henabled (tr.length + i) (Nat.le_add_left i _))
      (hlater _ (Nat.le_add_right _ i)).2.2.2.2

/-- One sample for one listener, whose callback waits once. -/
def servedRun : List TopicLabel :=
  [.enter .external (.register ⟨7⟩ none 0), .advance 0,
   .poller, .take (.ok [some ("peer", 7)]), .poller, .poller, .poller, .poller,
   .dispatcher, .dispatcher, .dispatcher, .poll 0, .suspend 0, .poll 0, .finish 0 false,
   .release 0, .complete 0, .dispatcher, .dispatcher, .dispatcher, .dispatcher]

/-- The sample is looked at and served. -/
theorem taken_are_served_run : ∃ σ : Execution topicRouter,
    took (σ.state 3) (σ.label 3) = [(some ("peer", 7), 0)] ∧
    ∃ i, 3 ≤ i ∧ ((some ("peer", 7), 0), (σ.state i).registry) ∈
        handledIn (σ.state i) (σ.label i) ∧
      ∀ job ∈ jobsFor (topicEnv 4 2) ((some ("peer", 7), 0), (σ.state i).registry), ∃ j, i ≤ j ∧
        (job ∈ rejected (σ.state j) (σ.label j) ∨ job ∈ started (σ.state j) (σ.label j) ∨
          job ∈ skipped (σ.state j) (σ.label j)) := by
  obtain ⟨tr, s, hexec, hrest, hfree, hlength, htook⟩ : ∃ tr s,
      exec (State.next (topicEnv 4 2)) State.start servedRun = some (tr, s) ∧ AtRest s ∧
        tr.all (·.1.foreign = 0) = true ∧ 3 < tr.length ∧
        (tr[3]?).map (fun e => took e.1 e.2) = some [(some ("peer", 7), 0)] :=
    ⟨_, _, rfl, ⟨rfl, rfl, rfl, rfl, rfl, rfl⟩, rfl, by decide, rfl⟩
  obtain ⟨σ, hattended, hsteps, -⟩ :=
    attended_of_atRest hexec hrest (by simp [servedRun, Label.Serving]) hfree
  rw [hsteps 3 hlength] at htook
  have htaken : took (σ.state 3) (σ.label 3) = [(some ("peer", 7), 0)] := Option.some.inj htook
  refine ⟨σ, htaken, taken_are_served hattended ?_⟩
  rw [htaken]
  exact List.mem_singleton_self _

end UpTransportDds
