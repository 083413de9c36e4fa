import UpTransportDds.Router.Shutdown

/-! # Workers of the runtime

  A call from a task of the runtime occupies the worker that polls the task,
  and a call from a listener callback keeps the future of that callback from
  ending. While the runtime is alive, no more workers are busy than it has, and
  none while nobody drives it.
-/

namespace UpTransportDds

open LTS

variable {UUri Listener Sample Message : Type}

/-- The transport, on a runtime that is never shut down. -/
def liveRouter [DecidableEq UUri] [UriMatches UUri] [DecidableEq Listener]
    (env : Env UUri Sample Message) :
    System (State UUri Listener Sample Message) (Label UUri Listener Sample) :=
  (router env).restrict (· ≠ .shutdownRuntime)

/-- The run of the given labels on a runtime that is never shut down. -/
theorem liveRun_of_exec [DecidableEq UUri] [UriMatches UUri] [DecidableEq Listener]
    {env : Env UUri Sample Message} {s : State UUri Listener Sample Message}
    {tr : Trace (State UUri Listener Sample Message) (Label UUri Listener Sample)}
    {ls : List (Label UUri Listener Sample)}
    (h : exec (State.next env) State.start ls = some (tr, s))
    (hlive : ∀ l ∈ ls, l ≠ .shutdownRuntime) : InitRun (liveRouter env) tr s := by
  refine ⟨State.start, rfl, (run_of_exec h).restrict ?_⟩
  intro e he
  refine hlive e.2 ?_
  rw [← labels_of_exec h]
  exact List.mem_map_of_mem he

/-! ### Counting under a change -/

section counting
variable {α : Type} {xs : List α} {i : Nat} {x : α} {f : α → α}

/-- Changing one element of a list changes the count by what it counts for. -/
theorem countP_modify (p : α → Bool) (h : xs[i]? = some x) :
    (xs.modify i f).countP p + (if p x then 1 else 0) =
      xs.countP p + (if p (f x) then 1 else 0) := by
  induction xs generalizing i with
  | nil => simp at h
  | cons a xs ih =>
    cases i with
    | zero =>
      obtain rfl : a = x := by simpa using h
      rw [List.modify_zero_cons, List.countP_cons, List.countP_cons]
      omega
    | succ i =>
      have htail := ih (by simpa using h)
      rw [List.modify_succ_cons, List.countP_cons, List.countP_cons]
      omega

theorem countP_modify_le {p : α → Bool} (h : xs[i]? = some x)
    (hp : p (f x) = true → p x = true) : (xs.modify i f).countP p ≤ xs.countP p := by
  have hcount := countP_modify (f := f) p h
  by_cases hx : p x = true
  · rw [if_pos hx] at hcount
    split at hcount <;> omega
  · rw [if_neg hx, if_neg (fun hfx => hx (hp hfx))] at hcount
    omega

end counting

/-! ### Busy workers -/

/-- A future that could be polled is on no worker. -/
theorem Phase.off_of_pollable {phase : Phase} (h : phase.pollable = true) :
    phase.onWorker = false := by
  cases phase <;> first | rfl | contradiction

/-- The call occupies a worker. -/
def Call.occupies (call : Call UUri Listener) : Bool :=
  call.site = .worker && !call.pc.done

/-- No more workers are busy than the runtime has, and none of a runtime that
    nobody drives. -/
def WithinWorkers (env : Env UUri Sample Message) (s : State UUri Listener Sample Message) : Prop :=
  s.shutdown = false ∧ s.busy ≤ env.workers ∧ (s.driven = false → s.busy = 0)

section busy
variable {s s' : State UUri Listener Sample Message} {c : CallId}
  {pc pc' : CallPc UUri Listener} {t : TaskId} {task : Task Message} {phase : Phase}
  {env : Env UUri Sample Message}

/-- The workers that `Drop` occupies. -/
def State.dropBusy (s : State UUri Listener Sample Message) : Nat :=
  if s.dropSite = .worker ∧ s.drop.running then 1 else 0

theorem busy_eq : s.busy = s.foreign + s.calls.countP Call.occupies + s.dropBusy +
    s.tasks.countP (·.phase.onWorker) := rfl

/-- A call that moves on occupies no other worker than before. -/
theorem occupies_setPc (hpc : s.callPc c = some pc) (hbusy : pc.done = false) :
    (s.setPc c pc').calls.countP Call.occupies ≤ s.calls.countP Call.occupies := by
  obtain ⟨call, _, hcall, rfl⟩ := mem_of_callPc hpc
  refine countP_modify_le hcall ?_
  intro hoccupies
  have hsite := (Bool.and_eq_true_iff.mp hoccupies).1
  exact Bool.and_eq_true_iff.mpr ⟨hsite, by rw [hbusy]; rfl⟩

/-- Waking up does not make a call leave its worker. -/
theorem occupies_notify {r : RegId} :
    (s.notifyIdle r).calls.countP Call.occupies = s.calls.countP Call.occupies := by
  rw [State.notifyIdle_calls, List.countP_map]
  refine List.countP_congr ?_
  intro call _
  simp [Call.occupies]

@[simp] theorem DropPc.running_notify {drop : DropPc} {r : RegId} :
    (drop.notify r).running = drop.running := by
  cases drop with
  | asleep r' regs =>
    rw [DropPc.notify]
    split <;> rfl
  | _ => rfl

/-- A future that gets on a worker occupies one more. -/
theorem onWorker_withPhase_le (htask : s.tasks[t]? = some task) :
    (withPhase s.tasks t phase).countP (·.phase.onWorker) ≤
      s.tasks.countP (·.phase.onWorker) + 1 := by
  have hcount := countP_modify (f := fun task : Task Message => { task with phase := phase })
    (fun task => task.phase.onWorker) htask
  simp only [withPhase]
  split at hcount <;> split at hcount <;> omega

/-- A future that gets on no worker occupies none. -/
theorem onWorker_withPhase_off (htask : s.tasks[t]? = some task) (hoff : phase.onWorker = false) :
    (withPhase s.tasks t phase).countP (·.phase.onWorker) ≤
      s.tasks.countP (·.phase.onWorker) := by
  refine countP_modify_le htask ?_
  intro hon
  rw [hoff] at hon
  contradiction

/-- Unrelated work that ends leaves its worker. -/
theorem foreign_vacate {k : PollId} (hpoll : s.polls[k]? = some true) :
    (s.polls.set k false).countP id + 1 = s.foreign := by
  have hcount := countP_modify (f := fun _ => false) id hpoll
  rw [List.modify_eq_set_getElem?, hpoll] at hcount
  simpa [State.foreign] using hcount

/-- A future on a worker may change its phase. -/
theorem onWorker_withPhase (htask : s.tasks[t]? = some task)
    (hon : task.phase.onWorker = true) :
    (withPhase s.tasks t phase).countP (·.phase.onWorker) ≤
      s.tasks.countP (·.phase.onWorker) :=
  countP_modify_le htask fun _ => hon

/-- A step that occupies no new worker. -/
theorem WithinWorkers.keep (h : WithinWorkers env s) (hshut : s'.shutdown = s.shutdown)
    (hdriven : s'.driven = s.driven) (hforeign : s'.foreign ≤ s.foreign)
    (hcalls : s'.calls.countP Call.occupies ≤ s.calls.countP Call.occupies)
    (hdrop : s'.dropBusy ≤ s.dropBusy)
    (htasks : s'.tasks.countP (·.phase.onWorker) ≤ s.tasks.countP (·.phase.onWorker)) :
    WithinWorkers env s' := by
  have hbusy : s'.busy ≤ s.busy := by
    simp only [busy_eq]
    omega
  refine ⟨hshut.trans h.1, Nat.le_trans hbusy h.2.1, ?_⟩
  intro hundriven
  rw [hdriven] at hundriven
  exact Nat.le_zero.mp (Nat.le_trans hbusy (Nat.le_of_eq (h.2.2 hundriven)))

/-- A step that occupies one worker more, when one is free. -/
theorem WithinWorkers.take (h : WithinWorkers env s) (hfree : s.busy < env.workers)
    (hdriven : s'.driven = true) (hshut : s'.shutdown = s.shutdown)
    (hbusy : s'.busy ≤ s.busy + 1) : WithinWorkers env s' := by
  refine ⟨hshut.trans h.1, Nat.le_trans hbusy hfree, ?_⟩
  intro hundriven
  rw [hdriven] at hundriven
  contradiction

/-- A call on the runtime needs a worker that is free. -/
theorem free_of_canEnter {workers : Nat} (h : s.canEnter workers .worker = true) :
    s.driven = true ∧ s.busy < workers := by
  simpa [State.canEnter] using h

theorem dropBusy_le_one : s.dropBusy ≤ 1 := by
  unfold State.dropBusy
  split <;> decide

theorem dropBusy_elsewhere (hsite : s.dropSite ≠ .worker) : s.dropBusy = 0 :=
  if_neg fun h => hsite h.1

/-- `Drop` occupies its worker from the beginning. -/
theorem dropBusy_le (hsite : s'.dropSite = s.dropSite) (hrunning : s.drop.running = true) :
    s'.dropBusy ≤ s.dropBusy := by
  by_cases hworker : s.dropSite = .worker
  · have hone : s.dropBusy = 1 := if_pos ⟨hworker, hrunning⟩
    rw [hone]
    exact dropBusy_le_one
  · rw [dropBusy_elsewhere (by rw [hsite]; exact hworker)]
    exact Nat.zero_le _

variable [DecidableEq UUri] [UriMatches UUri] [DecidableEq Listener]
variable {l : Label UUri Listener Sample}

theorem withinWorkers_step (hi : WithinWorkers env s) (hlive : l ≠ .shutdownRuntime)
    (h : Step env s l s') : WithinWorkers env s' := by
  have hle : ∀ n : Nat, n ≤ n := Nat.le_refl
  cases h with
  | enter site request _ hsite =>
    -- a call takes a worker if that is where it is made from
    have hstart : (⟨site, request.start⟩ : Call UUri Listener).occupies =
        decide (site = .worker) := by
      cases request <;> simp [Call.occupies, Request.start, CallPc.done]
    by_cases heq : site = .worker
    · rw [heq] at hsite
      obtain ⟨hdriven, hfree⟩ := free_of_canEnter hsite
      refine hi.take hfree hdriven rfl ?_
      have hcalls : (s.calls ++ [(⟨site, request.start⟩ : Call UUri Listener)]).countP
          Call.occupies = s.calls.countP Call.occupies + 1 := by
        rw [List.countP_append, List.countP_singleton, hstart, heq]
        rfl
      show s.foreign + (s.calls ++ _).countP Call.occupies + s.dropBusy +
        s.tasks.countP _ ≤ s.busy + 1
      rw [hcalls, busy_eq]
      omega
    · refine hi.keep rfl rfl (hle _) ?_ (hle _) (hle _)
      simp [List.countP_append, hstart, heq]
  | registerFail c hpc _ => exact hi.keep rfl rfl (hle _) (occupies_setPc hpc rfl) (hle _) (hle _)
  | register c hpc _ => exact hi.keep rfl rfl (hle _) (occupies_setPc hpc rfl) (hle _) (hle _)
  | removeFail c hpc _ => exact hi.keep rfl rfl (hle _) (occupies_setPc hpc rfl) (hle _) (hle _)
  | remove c hpc _ => exact hi.keep rfl rfl (hle _) (occupies_setPc hpc rfl) (hle _) (hle _)
  | deactivate c hpc => exact hi.keep rfl rfl (hle _) (occupies_setPc hpc rfl) (hle _) (hle _)
  | recheck c hpc => exact hi.keep rfl rfl (hle _) (occupies_setPc hpc rfl) (hle _) (hle _)
  | wake c hpc => exact hi.keep rfl rfl (hle _) (occupies_setPc hpc rfl) (hle _) (hle _)
  | spawn hpc =>
    -- a new future is on no worker before it is polled
    refine hi.keep rfl rfl (hle _) (hle _) (hle _) ?_
    simp [hi.1, Phase.onWorker]
  | @abort job t hpc hfin =>
    refine hi.keep rfl rfl (hle _) (hle _) (hle _) ?_
    cases htask : s.tasks[t]? with
    | none =>
      have hsame := List.modify_eq_self
        (f := fun task : Task Message => { task with aborted := true })
        (List.getElem?_eq_none_iff.mp htask)
      exact Nat.le_of_eq (congrArg (List.countP _) hsame)
    | some task => exact countP_modify_le htask id
  | @poll t task htask hpoll _ _ hdriven hfree _ =>
    refine hi.take hfree hdriven rfl ?_
    -- the poll takes one of the free workers
    have hcount : (withPhase s.tasks t .polling).countP (·.phase.onWorker) ≤ _ :=
      onWorker_withPhase_le htask
    show s.foreign + s.calls.countP Call.occupies + s.dropBusy + _ ≤ s.busy + 1
    rw [busy_eq, State.setPhase_tasks]
    omega
  | cancel t htask hpoll hfree hcancel =>
    have hdriven : s.driven = true := by
      rcases hcancel with ⟨_, hdriven, _⟩ | hshut
      · exact hdriven
      · rw [hi.1] at hshut
        contradiction
    refine hi.take hfree hdriven rfl ?_
    have hcount : (withPhase s.tasks t (.dropping .cancelled)).countP (·.phase.onWorker) ≤ _ :=
      onWorker_withPhase_le htask
    show s.foreign + s.calls.countP Call.occupies + s.dropBusy + _ ≤ s.busy + 1
    rw [busy_eq, State.setPhase_tasks]
    omega
  | wakeTask t _ htask _ _ =>
    exact hi.keep rfl rfl (hle _) (hle _) (hle _) (onWorker_withPhase_off htask rfl)
  | suspend t htask hpoll _ =>
    exact hi.keep rfl rfl (hle _) (hle _) (hle _) (onWorker_withPhase htask (by rw [hpoll]; rfl))
  | finish t panicked htask hpoll _ =>
    exact hi.keep rfl rfl (hle _) (hle _) (hle _) (onWorker_withPhase htask (by rw [hpoll]; rfl))
  | release t htask _ =>
    exact hi.keep rfl rfl (hle _) (hle _) (hle _) (onWorker_withPhase htask rfl)
  | releaseLast t htask _ =>
    refine hi.keep rfl rfl (hle _) ?_ ?_ (onWorker_withPhase htask rfl)
    · rw [occupies_notify]
      exact hle _
    · simp [State.dropBusy]
  | complete t htask => exact hi.keep rfl rfl (hle _) (hle _) (hle _) (onWorker_withPhase htask rfl)
  | enterDrop site hdead _ hsite =>
    by_cases heq : site = .worker
    · rw [heq] at hsite
      obtain ⟨hdriven, hfree⟩ := free_of_canEnter hsite
      refine hi.take hfree hdriven rfl ?_
      -- so does `Drop`, if it is called on one
      have hone : ({ s with drop := .stopping, dropSite := site } :
        State UUri Listener Sample Message).dropBusy ≤ 1 := dropBusy_le_one
      show s.foreign + s.calls.countP Call.occupies + State.dropBusy _ + s.tasks.countP _ ≤
        s.busy + 1
      rw [busy_eq]
      omega
    · refine hi.keep rfl rfl (hle _) (hle _) ?_ (hle _)
      rw [dropBusy_elsewhere heq]
      exact Nat.zero_le _
  | stop hpc => exact hi.keep rfl rfl (hle _) (hle _) (dropBusy_le rfl (by rw [hpc]; rfl)) (hle _)
  | joinPoller hpc _ =>
    exact hi.keep rfl rfl (hle _) (hle _) (dropBusy_le rfl (by rw [hpc]; rfl)) (hle _)
  | joinPanicked hpc _ =>
    exact hi.keep rfl rfl (hle _) (hle _) (dropBusy_le rfl (by rw [hpc]; rfl)) (hle _)
  | takeEntries hpc =>
    exact hi.keep rfl rfl (hle _) (hle _) (dropBusy_le rfl (by rw [hpc]; rfl)) (hle _)
  | drain hpc => exact hi.keep rfl rfl (hle _) (hle _) (dropBusy_le rfl (by rw [hpc]; rfl)) (hle _)
  | drained hpc =>
    exact hi.keep rfl rfl (hle _) (hle _) (dropBusy_le rfl (by rw [hpc]; rfl)) (hle _)
  | recheckDrop hpc =>
    exact hi.keep rfl rfl (hle _) (hle _) (dropBusy_le rfl (by rw [hpc]; rfl)) (hle _)
  | wakeDrop hpc =>
    exact hi.keep rfl rfl (hle _) (hle _) (dropBusy_le rfl (by rw [hpc]; rfl)) (hle _)
  | joinDispatcher hpc _ =>
    exact hi.keep rfl rfl (hle _) (hle _) (dropBusy_le rfl (by rw [hpc]; rfl)) (hle _)
  | deleteContained error hpc =>
    exact hi.keep rfl rfl (hle _) (hle _) (dropBusy_le rfl (by rw [hpc]; rfl)) (hle _)
  | deleteParticipant error hpc =>
    exact hi.keep rfl rfl (hle _) (hle _) (dropBusy_le rfl (by rw [hpc]; rfl)) (hle _)
  | occupy hdriven hfree =>
    refine hi.take hfree hdriven rfl ?_
    have hforeign : (s.polls ++ [true]).countP id = s.foreign + 1 := by
      rw [List.countP_append]
      rfl
    show (s.polls ++ [true]).countP id + s.calls.countP Call.occupies + s.dropBusy +
      s.tasks.countP _ ≤ s.busy + 1
    rw [hforeign, busy_eq]
    omega
  | vacate k hpoll =>
    have hforeign := foreign_vacate hpoll
    exact hi.keep rfl rfl (Nat.le_of_lt (Nat.lt_of_succ_le (Nat.le_of_eq hforeign))) (hle _)
      (hle _) (hle _)
  | drive hdriven => exact ⟨hi.1, hi.2.1, fun _ => hi.2.2 hdriven⟩
  | undrive _ hidle _ => exact ⟨hi.1, hi.2.1, fun _ => hidle⟩
  | shutdownRuntime => exact absurd rfl hlive
  | _ => exact hi

theorem reachable_withinWorkers (h : Reachable (liveRouter env) s) : WithinWorkers env s := by
  refine invariant (P := WithinWorkers env) ?_ ?_ h
  · intro s hs
    rw [hs]
    exact ⟨rfl, Nat.zero_le _, fun _ => rfl⟩
  · intro s l s' hi hstep
    exact withinWorkers_step hi hstep.1 (Step.of_next hstep.2)

end busy

/-! ### Calls from callbacks -/

/-- The future is being polled. -/
def State.Polling (s : State UUri Listener Sample Message) (t : TaskId) : Prop :=
  ∃ task, s.tasks[t]? = some task ∧ task.phase = .polling

/-- A call from inside a callback keeps the poll of that callback going. -/
structure Sited (s : State UUri Listener Sample Message) : Prop where
  calls : ∀ call ∈ s.calls, call.pc.done = false → ∀ t, call.site = .callback t → s.Polling t
  drop : s.drop.running = true → ∀ t, s.dropSite = .callback t → s.Polling t

section sited
variable {s s' : State UUri Listener Sample Message} {c : CallId}
  {pc pc' : CallPc UUri Listener} {t t' : TaskId} {task : Task Message} {phase : Phase}
  {env : Env UUri Sample Message}

theorem inCall_of_call {call : Call UUri Listener} (hmem : call ∈ s.calls)
    (hbusy : call.pc.done = false) (hsite : call.site = .callback t) : s.inCall t = true := by
  unfold State.inCall
  rw [Bool.or_eq_true, List.any_eq_true]
  exact .inl ⟨call, hmem, by simp [hsite, hbusy]⟩

theorem inCall_of_drop (hrunning : s.drop.running = true) (hsite : s.dropSite = .callback t) :
    s.inCall t = true := by
  unfold State.inCall
  simp [hrunning, hsite]

/-- A callback can only make a call while it is polled. -/
theorem polling_of_canEnter {workers : Nat} (h : s.canEnter workers (.callback t) = true) :
    s.Polling t := by
  have hpolling := (Bool.and_eq_true_iff.mp h).1
  cases htask : s.tasks[t]? with
  | none =>
    rw [htask] at hpolling
    contradiction
  | some task =>
    rw [htask] at hpolling
    exact ⟨task, htask, by simpa using hpolling⟩

/-- A step that leaves the sites alone and ends no poll with a call in it. -/
theorem Sited.keep (h : Sited s)
    (hcalls : ∀ call' ∈ s'.calls, call'.pc.done = false →
      ∃ call ∈ s.calls, call.pc.done = false ∧ call.site = call'.site)
    (hdrop : s'.drop.running = true → s.drop.running = true ∧ s'.dropSite = s.dropSite)
    (hpolling : ∀ t, s.inCall t = true → s.Polling t → s'.Polling t) : Sited s' where
  calls := by
    intro call' hcall' hbusy' t hsite'
    obtain ⟨call, hcall, hbusy, hsite⟩ := hcalls call' hcall' hbusy'
    rw [← hsite] at hsite'
    exact hpolling t (inCall_of_call hcall hbusy hsite') (h.calls call hcall hbusy t hsite')
  drop := by
    intro hrunning' t hsite'
    obtain ⟨hrunning, hsite⟩ := hdrop hrunning'
    rw [hsite] at hsite'
    exact hpolling t (inCall_of_drop hrunning hsite') (h.drop hrunning t hsite')

/-- The other futures go on being polled. -/
theorem polling_withPhase (htask : s.tasks[t]? = some task) (hnot : t' = t → task.phase ≠ .polling)
    (htasks : s'.tasks = withPhase s.tasks t phase) (h : s.Polling t') : s'.Polling t' := by
  obtain ⟨task', htask', hphase⟩ := h
  refine ⟨task', ?_, hphase⟩
  rw [htasks, withPhase_ne, htask']
  rintro rfl
  obtain rfl := Option.some.inj (htask.symm.trans htask')
  exact hnot rfl hphase

/-- The calls after one of them has moved on. -/
theorem sites_setPc (hpc : s.callPc c = some pc) (hbusy : pc.done = false) :
    ∀ call' ∈ (s.setPc c pc').calls, call'.pc.done = false →
      ∃ call ∈ s.calls, call.pc.done = false ∧ call.site = call'.site := by
  intro call' hcall' hbusy'
  rcases mem_modify hcall' with hold | ⟨call, hcall, rfl⟩
  · exact ⟨call', hold, hbusy', rfl⟩
  · refine ⟨call, List.mem_of_getElem? hcall, ?_, rfl⟩
    obtain ⟨call₀, _, hcall₀, rfl⟩ := mem_of_callPc hpc
    obtain rfl := Option.some.inj (hcall₀.symm.trans hcall)
    exact hbusy

variable [DecidableEq UUri] [UriMatches UUri] [DecidableEq Listener]
variable {l : Label UUri Listener Sample}

theorem sited_step (hi : Sited s) (h : Step env s l s') : Sited s' := by
  have hsame : ∀ call' ∈ s.calls, call'.pc.done = false →
      ∃ call ∈ s.calls, call.pc.done = false ∧ call.site = call'.site :=
    fun call' hcall' hbusy' => ⟨call', hcall', hbusy', rfl⟩
  have hlive : s.drop.running = true → s.drop.running = true ∧ s.dropSite = s.dropSite :=
    fun hrunning => ⟨hrunning, rfl⟩
  have hstay : ∀ t, s.inCall t = true → s.Polling t → s.Polling t := fun _ _ h => h
  cases h with
  | enter site request hdead hsite =>
    refine ⟨?_, hi.drop⟩
    intro call hcall hbusy t hcallback
    rcases List.mem_append.mp hcall with hold | hnew
    · exact hi.calls call hold hbusy t hcallback
    · rw [List.mem_singleton.mp hnew] at hcallback
      -- a call from inside a callback needs that callback to be polled
      obtain rfl : site = .callback t := hcallback
      have hpolling : s.Polling t := polling_of_canEnter hsite
      exact hpolling
  | registerFail c hpc _ => exact hi.keep (sites_setPc hpc rfl) hlive hstay
  | register c hpc _ => exact hi.keep (sites_setPc hpc rfl) hlive hstay
  | removeFail c hpc _ => exact hi.keep (sites_setPc hpc rfl) hlive hstay
  | remove c hpc _ => exact hi.keep (sites_setPc hpc rfl) hlive hstay
  | deactivate c hpc => exact hi.keep (sites_setPc hpc rfl) hlive hstay
  | recheck c hpc => exact hi.keep (sites_setPc hpc rfl) hlive hstay
  | wake c hpc => exact hi.keep (sites_setPc hpc rfl) hlive hstay
  | spawn hpc =>
    refine hi.keep hsame hlive ?_
    -- spawning leaves the futures before it where they are
    rintro t - ⟨task, htask, hphase⟩
    refine ⟨task, ?_, hphase⟩
    exact (List.getElem?_append_left (List.getElem?_eq_some_iff.mp htask).1).trans htask
  | @abort _ t' hpc hfin =>
    refine hi.keep hsame hlive ?_
    rintro t - ⟨task, htask, hphase⟩
    by_cases heq : t' = t
    · exact ⟨{ task with aborted := true }, by simp [heq, htask], hphase⟩
    · exact ⟨task, (List.getElem?_modify_ne _ _ heq).trans htask, hphase⟩
  | poll t htask hpoll _ _ _ =>
    refine hi.keep hsame hlive fun t' _ => polling_withPhase htask ?_ rfl
    rintro - hphase
    rw [hphase] at hpoll
    contradiction
  | cancel t htask hpoll _ _ =>
    refine hi.keep hsame hlive fun t' _ => polling_withPhase htask ?_ rfl
    rintro - hphase
    rw [hphase] at hpoll
    contradiction
  | wakeTask t _ htask hpoll _ =>
    exact hi.keep hsame hlive fun t' _ => polling_withPhase htask (fun _ => by simp [hpoll]) rfl
  | suspend t htask hpoll hcall =>
    refine hi.keep hsame hlive fun t' hin => polling_withPhase htask ?_ rfl
    rintro rfl
    -- the poll cannot end while a call of the callback is in progress
    rw [hcall] at hin
    contradiction
  | finish t panicked htask hpoll hcall =>
    refine hi.keep hsame hlive fun t' hin => polling_withPhase htask ?_ rfl
    rintro rfl
    rw [hcall] at hin
    contradiction
  | release t htask _ =>
    exact hi.keep hsame hlive fun t' _ => polling_withPhase htask (by simp) rfl
  | releaseLast t htask _ =>
    refine hi.keep ?_ ?_ fun t' _ => polling_withPhase htask (by simp) rfl
    · intro call' hcall' hbusy'
      obtain ⟨call, hcall, rfl⟩ := List.mem_map.mp hcall'
      refine ⟨call, hcall, ?_, rfl⟩
      rw [← hbusy']
      exact CallPc.done_notify.symm
    · intro hrunning
      rw [State.notifyIdle_drop, DropPc.running_notify] at hrunning
      exact ⟨hrunning, rfl⟩
  | complete t htask =>
    exact hi.keep hsame hlive fun t' _ => polling_withPhase htask (by simp) rfl
  | enterDrop site hdead hcalls hsite =>
    refine ⟨hi.calls, ?_⟩
    intro _ t hcallback
    obtain rfl : site = .callback t := hcallback
    have hpolling : s.Polling t := polling_of_canEnter hsite
    exact hpolling
  | drain hpc => exact hi.keep hsame (fun _ => ⟨by rw [hpc]; rfl, rfl⟩) hstay
  | recheckDrop hpc => exact hi.keep hsame (fun _ => ⟨by rw [hpc]; rfl, rfl⟩) hstay
  | _ => exact hi.keep hsame (by simp [DropPc.running, *]) hstay

theorem reachable_sited (h : Reachable (router env) s) : Sited s := by
  refine invariant (P := Sited) ?_ ?_ h
  · intro s hs
    rw [hs]
    refine ⟨fun call hcall => absurd hcall List.not_mem_nil, fun hrunning => ?_⟩
    contradiction
  · intro s l s' hi hstep
    exact sited_step hi (Step.of_next hstep)

end sited

end UpTransportDds
