import UpTransportDds.Router.Transitions

/-! # One listener future at a time

  The dispatcher spawns a future, waits for its join handle and only then
  takes the next job. This module states what that gives:

  * `Serial`: every future but the one the dispatcher waits for is complete;
  * `Counted`: the `in_flight` counter of each registration counts the one
    guard that is alive, if it belongs to that registration;
  * `Joinable`: the dispatcher only joins a future that is complete or
    aborted, so it never joins one that may stay suspended forever.
-/

namespace UpTransportDds

open LTS

variable {UUri Listener Sample Message : Type}

/-! ### Tasks under a change of phase -/

section tasks
variable {tasks : List (Task Message)} {task : Task Message} {t t' : TaskId} {phase : Phase}

theorem withPhase_self (htask : tasks[t]? = some task) :
    (withPhase tasks t phase)[t]? = some { task with phase := phase } := by
  simp [withPhase, htask]

theorem withPhase_ne (h : t ≠ t') : (withPhase tasks t phase)[t']? = tasks[t']? := by
  simp [withPhase, h]

/-- A task after the change is the changed one or an old one. -/
theorem withPhase_cases (htask : tasks[t]? = some task)
    (h : (withPhase tasks t phase)[t']? = some task') :
    (t' = t ∧ task' = { task with phase := phase }) ∨ (t' ≠ t ∧ tasks[t']? = some task') := by
  by_cases heq : t' = t
  · subst heq
    rw [withPhase_self htask] at h
    exact .inl ⟨rfl, (Option.some.inj h).symm⟩
  · rw [withPhase_ne (Ne.symm heq)] at h
    exact .inr ⟨heq, h⟩

end tasks

/-! ### The invariants -/

/-- The registration whose `InFlight` guard the future holds. -/
def Task.guard (task : Task Message) : Option RegId :=
  if task.phase.holdsGuard then some task.job.reg else none

/-- The registration whose `InFlight` guard is alive: the dispatcher holds it
    between `begin` and `spawn`, the future from then on. -/
def owner (dispatcher : Dispatcher Message) (tasks : List (Task Message)) : Option RegId :=
  match dispatcher with
  | .spawning job => some job.reg
  | dispatcher => dispatcher.task.bind fun t => (tasks[t]?).bind Task.guard

/-- Only the future the dispatcher waits for can still be alive. -/
structure Serial (dispatcher : Dispatcher Message) (tasks : List (Task Message)) : Prop where
  /-- A future that is not complete is the one the dispatcher waits for. -/
  live : ∀ t task, tasks[t]? = some task → task.phase.done = false → dispatcher.task = some t
  /-- The dispatcher waits for a future of the job it executes. -/
  current : ∀ t, dispatcher.task = some t →
    ∃ task, tasks[t]? = some task ∧ dispatcher.job = some task.job

/-- Each `in_flight` counter counts the live guard. -/
def Counted (registry : Registry UUri Listener) (dispatcher : Dispatcher Message)
    (tasks : List (Task Message)) : Prop :=
  ∀ r, registry.inFlight r = if owner dispatcher tasks = some r then 1 else 0

/-- What the dispatcher knows when it stops waiting for a future. -/
def Joinable (stopped : Bool) (dispatcher : Dispatcher Message) (tasks : List (Task Message)) :
    Prop :=
  match dispatcher with
  | .checkStop _ t => stopped = true ∨ ∃ task, tasks[t]? = some task ∧ task.phase.done = true
  | .checkFinished _ _ => stopped = true
  | .joining _ t => ∃ task, tasks[t]? = some task ∧ (task.phase.done = true ∨ task.aborted = true)
  | _ => True

/-! ### Reading the invariants -/

section reading
variable {dispatcher : Dispatcher Message} {tasks : List (Task Message)} {task : Task Message}
  {t : TaskId} {registry registry' : Registry UUri Listener}

/-- Without a task to wait for, every future is complete. -/
theorem Serial.all_done (h : Serial dispatcher tasks) (hnone : dispatcher.task = none)
    (htask : tasks[t]? = some task) : task.phase.done = true := by
  by_contra hlive
  have := h.live t task htask (by simpa using hlive)
  rw [hnone] at this
  contradiction

theorem Phase.not_done_of_holdsGuard {phase : Phase} (h : phase.holdsGuard = true) :
    phase.done = false := by
  cases phase <;> simp_all [Phase.holdsGuard, Phase.done]

theorem Phase.holdsGuard_of_running {phase : Phase} (h : phase.running = true) :
    phase.holdsGuard = true := by
  cases phase <;> simp_all [Phase.holdsGuard, Phase.running]

theorem Phase.holdsGuard_of_pollable {phase : Phase} (h : phase.pollable = true) :
    phase.holdsGuard = true := by
  cases phase <;> simp_all [Phase.holdsGuard, Phase.pollable]

theorem owner_of_task (h : dispatcher.task = some t) :
    owner dispatcher tasks = (tasks[t]?).bind Task.guard := by
  cases dispatcher <;> simp_all [owner, Dispatcher.task]

/-- A future that holds its guard is the owner. -/
theorem Serial.owner_eq (h : Serial dispatcher tasks) (htask : tasks[t]? = some task)
    (hguard : task.phase.holdsGuard = true) : owner dispatcher tasks = some task.job.reg := by
  have hcur := h.live t task htask (Phase.not_done_of_holdsGuard hguard)
  rw [owner_of_task hcur, htask]
  simp [Task.guard, hguard]

theorem Counted.eq_one (h : Counted registry dispatcher tasks) (r : RegId)
    (hown : owner dispatcher tasks = some r) : registry.inFlight r = 1 := by
  simp [h r, hown]

theorem Counted.owner_of_ne_zero (h : Counted registry dispatcher tasks) {r : RegId}
    (hne : registry.inFlight r ≠ 0) : owner dispatcher tasks = some r := by
  have hr := h r
  by_contra hown
  rw [if_neg hown] at hr
  exact hne hr

/-- A registry with the same counters keeps the count. -/
theorem Counted.congr (h : Counted registry dispatcher tasks)
    (hsame : ∀ r, registry'.inFlight r = registry.inFlight r) :
    Counted registry' dispatcher tasks :=
  fun r => (hsame r).trans (h r)

/-- A change of owner that moves the counters along keeps the count. -/
theorem Counted.of_owner {dispatcher' : Dispatcher Message} {tasks' : List (Task Message)}
    (h : Counted registry dispatcher tasks)
    (hown : owner dispatcher' tasks' = owner dispatcher tasks) :
    Counted registry dispatcher' tasks' := by
  intro r
  rw [hown]
  exact h r

end reading

/-! ### Changes of phase -/

section phases
variable {dispatcher : Dispatcher Message} {tasks : List (Task Message)} {task : Task Message}
  {t : TaskId} {phase : Phase}

/-- A live future may change its phase. -/
theorem Serial.withPhase (h : Serial dispatcher tasks) (htask : tasks[t]? = some task)
    (hlive : task.phase.done = false) : Serial dispatcher (withPhase tasks t phase) where
  live := by
    intro t' task' htask' hlive'
    rcases withPhase_cases htask htask' with ⟨rfl, rfl⟩ | ⟨_, hold⟩
    · exact h.live t' task htask hlive
    · exact h.live t' task' hold hlive'
  current := by
    intro t' hcur
    obtain ⟨task', htask', hjob⟩ := h.current t' hcur
    -- the phase changes, the job does not
    by_cases heq : t = t'
    · subst heq
      obtain rfl := Option.some.inj (htask.symm.trans htask')
      exact ⟨_, withPhase_self htask, hjob⟩
    · exact ⟨task', (withPhase_ne heq).trans htask', hjob⟩

/-- The owner after a live future has changed its phase. -/
theorem Serial.owner_withPhase (h : Serial dispatcher tasks) (htask : tasks[t]? = some task)
    (hlive : task.phase.done = false) :
    owner dispatcher (UpTransportDds.withPhase tasks t phase) =
      if phase.holdsGuard then some task.job.reg else none := by
  rw [owner_of_task (h.live t task htask hlive), withPhase_self htask]
  simp [Task.guard]

/-- A future that keeps its guard leaves the owner alone. -/
theorem Serial.owner_keep (h : Serial dispatcher tasks) (htask : tasks[t]? = some task)
    (hguard : task.phase.holdsGuard = true) (hguard' : phase.holdsGuard = true) :
    owner dispatcher (UpTransportDds.withPhase tasks t phase) = owner dispatcher tasks := by
  rw [h.owner_withPhase htask (Phase.not_done_of_holdsGuard hguard), h.owner_eq htask hguard,
    if_pos hguard']

/-- Changing the phase of a future that is not complete keeps `Joinable`. -/
theorem Joinable.withPhase {stopped : Bool} (h : Joinable stopped dispatcher tasks)
    (htask : tasks[t]? = some task) (hlive : task.phase.done = false) :
    Joinable stopped dispatcher (UpTransportDds.withPhase tasks t phase) := by
  unfold Joinable at h ⊢
  split
  -- a complete future is not the one that moves
  · rename_i t'
    rcases h with hstop | ⟨task', htask', hdone⟩
    · exact .inl hstop
    · refine .inr ⟨task', ?_, hdone⟩
      rw [withPhase_ne, htask']
      rintro rfl
      obtain rfl := Option.some.inj (htask.symm.trans htask')
      rw [hlive] at hdone
      contradiction
  · exact h
  · rename_i t'
    obtain ⟨task', htask', hend⟩ := h
    by_cases heq : t = t'
    · subst heq
      obtain rfl := Option.some.inj (htask.symm.trans htask')
      refine ⟨_, withPhase_self htask, .inr ?_⟩
      exact hend.resolve_left (by simp [hlive])
    · exact ⟨task', (withPhase_ne heq).trans htask', hend⟩
  · trivial

end phases

/-! ### Preservation -/

section reading
variable {s : State UUri Listener Sample Message}

theorem finished_iff {t : TaskId} :
    s.finished t = true ↔ ∃ task, s.tasks[t]? = some task ∧ task.phase.done = true := by
  simp [State.finished, Option.any_eq_true]

theorem Phase.outcome_done {phase : Phase} {outcome : Outcome}
    (h : phase.outcome = some outcome) : phase.done = true := by
  cases phase <;> simp_all [Phase.outcome, Phase.done]

theorem outcome_eq {t : TaskId} {outcome : Outcome} (h : s.outcome t = some outcome) :
    ∃ task, s.tasks[t]? = some task ∧ task.phase.outcome = some outcome := by
  simpa [State.outcome, Option.bind_eq_some_iff] using h

/-- Joining leaves no future alive. -/
theorem Serial.joined {d : Dispatcher Message} (h : Serial s.dispatcher s.tasks)
    {job : Job Message} {t : TaskId} {outcome : Outcome}
    (hpc : s.dispatcher = .joining job t) (hout : s.outcome t = some outcome)
    (hd : d.task = none) : Serial d s.tasks where
  live := by
    intro t' task' htask' hlive
    have hcur := h.live t' task' htask' hlive
    rw [hpc] at hcur
    -- the joined future is the only one that could be alive, and is complete
    obtain rfl : t = t' := Option.some.inj hcur
    obtain ⟨task, htask, hdone⟩ := outcome_eq hout
    obtain rfl := Option.some.inj (htask.symm.trans htask')
    rw [Phase.outcome_done hdone] at hlive
    contradiction
  current := by
    intro t' hcur
    rw [hd] at hcur
    contradiction

/-- A future that has been joined holds no guard any more. -/
theorem owner_joined {job : Job Message} {t : TaskId} {outcome : Outcome}
    (hpc : s.dispatcher = .joining job t) (hout : s.outcome t = some outcome) :
    owner s.dispatcher s.tasks = none := by
  obtain ⟨task, htask, hphase⟩ := outcome_eq hout
  have hguard : task.guard = none := by
    unfold Task.guard
    cases hp : task.phase <;> simp_all [Phase.outcome, Phase.holdsGuard]
  rw [hpc]
  show (s.tasks[t]?).bind Task.guard = none
  rw [htask]
  exact hguard

/-- Dropping the guard takes the owner away and its counter down. -/
theorem Counted.release {t : TaskId} {job : Job Message} {aborted : Bool} {outcome : Outcome}
    (hi : Counted s.registry s.dispatcher s.tasks) (hs : Serial s.dispatcher s.tasks)
    (htask : s.tasks[t]? = some ⟨job, aborted, .dropping outcome⟩) :
    Counted (s.registry.release job.reg) s.dispatcher
      (UpTransportDds.withPhase s.tasks t (.released outcome)) := by
  intro r
  have hown : owner s.dispatcher s.tasks = some job.reg := hs.owner_eq htask rfl
  have hr := hi r
  rw [hown] at hr
  -- the counter of the guard was one; every other was zero
  rw [hs.owner_withPhase htask rfl, Registry.inFlight_release, hi.eq_one job.reg hown]
  by_cases heq : job.reg = r
  · simp [heq, Phase.holdsGuard]
  · simp_all [Phase.holdsGuard]

end reading

section dispatcher
variable {d d' : Dispatcher Message} {tasks : List (Task Message)}

/-- A dispatcher that waits for nothing and goes on to wait for nothing. -/
theorem Serial.idle (h : Serial d tasks) (hd : d.task = none) (hd' : d'.task = none) :
    Serial d' tasks where
  live := by
    intro t task htask hlive
    have := h.live t task htask hlive
    rw [hd] at this
    contradiction
  current := by
    intro t hcur
    rw [hd'] at hcur
    contradiction

/-- A dispatcher that goes on waiting for the same future of the same job. -/
theorem Serial.same (h : Serial d tasks) (htask : d'.task = d.task) (hjob : d'.job = d.job) :
    Serial d' tasks where
  live := fun t task h1 h2 => htask.trans (h.live t task h1 h2)
  current := fun t hcur => by
    rw [hjob]
    exact h.current t (htask ▸ hcur)

end dispatcher

section preservation
variable [DecidableEq UUri] [UriMatches UUri] [DecidableEq Listener]
variable {env : Env UUri Sample Message} {s s' : State UUri Listener Sample Message}
  {l : Label UUri Listener Sample}

theorem serial_step (hi : Serial s.dispatcher s.tasks) (h : Step env s l s') :
    Serial s'.dispatcher s'.tasks := by
  cases h with
  | recv hpc _ => rw [hpc] at hi; exact hi.idle rfl rfl
  | recvClosed hpc _ _ => rw [hpc] at hi; exact hi.idle rfl rfl
  | beginInactive hpc _ => rw [hpc] at hi; exact hi.idle rfl rfl
  | beginActive hpc _ => rw [hpc] at hi; exact hi.idle rfl rfl
  | @spawn job hpc =>
    rw [hpc] at hi
    refine ⟨?_, ?_⟩
    · intro t task htask hlive
      -- an old task is complete, so the live one is the new one
      by_cases hlt : t < s.tasks.length
      · rw [List.getElem?_append_left hlt] at htask
        rw [hi.all_done rfl htask] at hlive
        contradiction
      · have hlen := (List.getElem?_eq_some_iff.mp htask).1
        have hle : t ≤ s.tasks.length := by
          simp only [List.length_append, List.length_singleton] at hlen
          exact Nat.le_of_lt_succ hlen
        show some s.tasks.length = some t
        rw [Nat.le_antisymm hle (Nat.not_lt.mp hlt)]
    · intro t hcur
      obtain rfl : s.tasks.length = t := Option.some.inj hcur
      exact ⟨_, List.getElem?_concat_length, rfl⟩
  | leaveWait hpc _ => rw [hpc] at hi; exact hi.same rfl rfl
  | stopSeen hpc _ => rw [hpc] at hi; exact hi.same rfl rfl
  | stopUnseen hpc _ => rw [hpc] at hi; exact hi.same rfl rfl
  | finishSeen hpc _ => rw [hpc] at hi; exact hi.same rfl rfl
  | @abort job t hpc hfin =>
    rw [hpc] at hi
    refine ⟨?_, ?_⟩
    · intro t' task' htask' hlive
      -- aborting marks the task and leaves its phase
      simp only [List.getElem?_modify, Option.map_eq_map, Option.map_eq_some_iff] at htask'
      obtain ⟨task, htask, rfl⟩ := htask'
      apply hi.live t' task htask
      by_cases heq : t = t'
      · simpa [heq] using hlive
      · simpa [heq] using hlive
    · intro t' hcur
      obtain ⟨task, htask, hjob⟩ := hi.current t' hcur
      obtain rfl : t = t' := Option.some.inj hcur
      exact ⟨{ task with aborted := true }, by simp [htask], hjob⟩
  | joinOk hpc hout => exact hi.joined hpc hout rfl
  | joinError hpc hout _ => exact hi.joined hpc hout rfl
  | ignore hpc _ => rw [hpc] at hi; exact hi.idle rfl rfl
  | blame hpc _ => rw [hpc] at hi; exact hi.idle rfl rfl
  | count hpc => rw [hpc] at hi; exact hi.idle rfl rfl
  | jobDone hpc => rw [hpc] at hi; exact hi.idle rfl rfl
  | jobUnwind hpc => rw [hpc] at hi; exact hi.idle rfl rfl
  | countCaught hpc => rw [hpc] at hi; exact hi.idle rfl rfl
  | poll t htask hpoll _ _ _ =>
    exact hi.withPhase htask (Phase.not_done_of_holdsGuard (Phase.holdsGuard_of_pollable hpoll))
  | suspend t htask hpoll _ => exact hi.withPhase htask (by rw [hpoll]; rfl)
  | wakeTask t _ htask hpoll _ => exact hi.withPhase htask (by rw [hpoll]; rfl)
  | finish t _ htask hpoll _ => exact hi.withPhase htask (by rw [hpoll]; rfl)
  | cancel t htask hpoll _ _ =>
    exact hi.withPhase htask (Phase.not_done_of_holdsGuard (Phase.holdsGuard_of_pollable hpoll))
  | release t htask _ => exact hi.withPhase htask rfl
  | releaseLast t htask _ => exact hi.withPhase htask rfl
  | complete t htask => exact hi.withPhase htask rfl
  | _ => exact hi

theorem counted_step (hs : Serial s.dispatcher s.tasks)
    (hi : Counted s.registry s.dispatcher s.tasks) (h : Step env s l s') :
    Counted s'.registry s'.dispatcher s'.tasks := by
  cases h with
  | register c hpc hok => exact hi.congr fun r => Registry.inFlight_register hok
  | remove c hpc hok => exact hi.congr fun r => Registry.inFlight_remove hok
  | deactivate c hpc => exact hi.congr fun r => Registry.inFlight_deactivate _ _ r
  | drain hpc => exact hi.congr fun r => Registry.inFlight_deactivate _ _ r
  | takeEntries hpc => exact hi.congr fun r => rfl
  | recv hpc _ => exact hi.of_owner (by rw [hpc]; rfl)
  | recvClosed hpc _ _ => exact hi.of_owner (by rw [hpc]; rfl)
  | beginInactive hpc _ => exact hi.of_owner (by rw [hpc]; rfl)
  | @beginActive job registry hpc hbegin =>
    intro r
    have hr := hi r
    rw [hpc] at hr
    -- nobody owns a guard before, and this entry owns the only one after
    have hzero : s.registry.inFlight r = 0 := hr
    rw [Registry.inFlight_begin hbegin, hzero]
    simp [owner]
  | @spawn job hpc =>
    apply hi.of_owner
    rw [hpc]
    show (((s.tasks ++ _)[s.tasks.length]?).bind Task.guard) = some job.reg
    rw [List.getElem?_concat_length]
    cases s.shutdown <;> rfl
  | leaveWait hpc _ => exact hi.of_owner (by rw [hpc]; rfl)
  | stopSeen hpc _ => exact hi.of_owner (by rw [hpc]; rfl)
  | stopUnseen hpc _ => exact hi.of_owner (by rw [hpc]; rfl)
  | finishSeen hpc _ => exact hi.of_owner (by rw [hpc]; rfl)
  | @abort job t hpc hfin =>
    apply hi.of_owner
    rw [hpc]
    show ((s.tasks.modify t _)[t]?).bind Task.guard = (s.tasks[t]?).bind Task.guard
    rw [List.getElem?_modify_eq]
    cases s.tasks[t]? <;> rfl
  | joinOk hpc hout => exact hi.of_owner (owner_joined hpc hout).symm
  | joinError hpc hout _ => exact hi.of_owner (owner_joined hpc hout).symm
  | ignore hpc _ => exact hi.of_owner (by rw [hpc]; rfl)
  | blame hpc _ => exact hi.of_owner (by rw [hpc]; rfl)
  | count hpc => exact hi.of_owner (by rw [hpc]; rfl)
  | jobDone hpc => exact hi.of_owner (by rw [hpc]; rfl)
  | jobUnwind hpc => exact hi.of_owner (by rw [hpc]; rfl)
  | countCaught hpc => exact hi.of_owner (by rw [hpc]; rfl)
  | poll t htask hpoll _ _ _ =>
    exact hi.of_owner (hs.owner_keep htask (Phase.holdsGuard_of_pollable hpoll) rfl)
  | suspend t htask hpoll _ => exact hi.of_owner (hs.owner_keep htask (by rw [hpoll]; rfl) rfl)
  | wakeTask t _ htask hpoll _ =>
    exact hi.of_owner (hs.owner_keep htask (by rw [hpoll]; rfl) rfl)
  | finish t _ htask hpoll _ => exact hi.of_owner (hs.owner_keep htask (by rw [hpoll]; rfl) rfl)
  | cancel t htask hpoll _ _ =>
    exact hi.of_owner (hs.owner_keep htask (Phase.holdsGuard_of_pollable hpoll) rfl)
  | release t htask _ => exact hi.release hs htask
  | releaseLast t htask _ => exact hi.release hs htask
  | complete t htask =>
    refine hi.of_owner ((hs.owner_withPhase htask rfl).trans ?_)
    -- a released future has no guard any more, nor has a complete one
    rw [owner_of_task (hs.live t _ htask rfl), htask]
    rfl
  | _ => exact hi

theorem joinable_step (hs : Serial s.dispatcher s.tasks)
    (hi : Joinable s.stopped s.dispatcher s.tasks) (h : Step env s l s') :
    Joinable s'.stopped s'.dispatcher s'.tasks := by
  cases h with
  | spawn hpc => trivial
  | recv _ _ => trivial
  | recvClosed _ _ _ => trivial
  | beginInactive _ _ => trivial
  | beginActive _ _ => trivial
  | leaveWait hpc hleave =>
    rcases hleave with hfin | hstop
    · exact .inr (finished_iff.mp hfin)
    · exact .inl hstop
  | stopSeen hpc hstop => exact hstop
  | stopUnseen hpc hstop =>
    rw [hpc] at hi
    rcases hi with hstop' | ⟨task, htask, hdone⟩
    · rw [hstop] at hstop'
      contradiction
    · exact ⟨task, htask, .inl hdone⟩
  | finishSeen hpc hfin =>
    obtain ⟨task, htask, hdone⟩ := finished_iff.mp hfin
    exact ⟨task, htask, .inl hdone⟩
  | @abort job t hpc hfin =>
    rw [hpc] at hs
    obtain ⟨task, htask, _⟩ := hs.current t rfl
    exact ⟨{ task with aborted := true }, by simp [htask], .inr rfl⟩
  | joinOk _ _ => trivial
  | joinError _ _ _ => trivial
  | ignore _ _ => trivial
  | blame _ _ => trivial
  | count _ => trivial
  | jobDone _ => trivial
  | jobUnwind _ => trivial
  | countCaught _ => trivial
  | poll t htask hpoll _ _ _ =>
    exact hi.withPhase htask (Phase.not_done_of_holdsGuard (Phase.holdsGuard_of_pollable hpoll))
  | suspend t htask hpoll _ => exact hi.withPhase htask (by rw [hpoll]; rfl)
  | wakeTask t _ htask hpoll _ => exact hi.withPhase htask (by rw [hpoll]; rfl)
  | finish t _ htask hpoll _ => exact hi.withPhase htask (by rw [hpoll]; rfl)
  | cancel t htask hpoll _ _ =>
    exact hi.withPhase htask (Phase.not_done_of_holdsGuard (Phase.holdsGuard_of_pollable hpoll))
  | release t htask _ => exact hi.withPhase htask rfl
  | releaseLast t htask _ => exact hi.withPhase htask rfl
  | complete t htask => exact hi.withPhase htask rfl
  -- setting the flag only helps
  | stop hpc =>
    unfold Joinable at hi ⊢
    split
    · exact .inl rfl
    · rfl
    · rename_i hd
      rw [hd] at hi
      exact hi
    · trivial
  | _ => exact hi

end preservation

/-! ### Every reachable state -/

section reachable
variable [DecidableEq UUri] [UriMatches UUri] [DecidableEq Listener]
variable {env : Env UUri Sample Message} {s : State UUri Listener Sample Message}

theorem reachable_serial (h : Reachable (router env) s) : Serial s.dispatcher s.tasks := by
  refine invariant (P := fun s => Serial s.dispatcher s.tasks) ?_ ?_ h
  · rintro _ rfl
    exact ⟨by simp [State.start], by simp [State.start, Dispatcher.task]⟩
  · intro s l s' hi hstep
    exact serial_step hi (Step.of_next hstep)

theorem reachable_counted (h : Reachable (router env) s) :
    Counted s.registry s.dispatcher s.tasks := by
  refine invariant_reachable (P := fun s => Counted s.registry s.dispatcher s.tasks) ?_ ?_ h
  · rintro _ rfl r
    rfl
  · intro s l s' hr hi hstep
    exact counted_step (reachable_serial hr) hi (Step.of_next hstep)

theorem reachable_joinable (h : Reachable (router env) s) :
    Joinable s.stopped s.dispatcher s.tasks := by
  refine invariant_reachable (P := fun s => Joinable s.stopped s.dispatcher s.tasks) ?_ ?_ h
  · rintro _ rfl
    trivial
  · intro s l s' hr hi hstep
    exact joinable_step (reachable_serial hr) hi (Step.of_next hstep)

end reachable

end UpTransportDds
