import UpTransportDds.Router.Serial

/-! # Unregistration is a barrier

  `unregister` takes a registration out of the table, deactivates it and waits
  until its callback in flight is over. The waiting and the counting happen
  under the lock of the registration; the table has its own lock, and the
  poller and the dispatcher keep using the registration after it left the
  table. What ties these together is `CallOk`: the facts a call may rely on
  at each point of `deactivate_and_wait`.
-/

namespace UpTransportDds

open LTS

variable {UUri Listener Sample Message : Type}

/-! ### Lists under `modify` -/

section modify
variable {α : Type} {xs : List α} {i : Nat} {f : α → α} {x : α}

theorem mem_modify (h : x ∈ xs.modify i f) : x ∈ xs ∨ ∃ y, xs[i]? = some y ∧ x = f y := by
  obtain ⟨j, hj⟩ := List.mem_iff_getElem?.mp h
  rw [List.getElem?_modify] at hj
  by_cases heq : i = j
  · subst heq
    simp only [↓reduceIte, Option.map_eq_map, Option.map_eq_some_iff] at hj
    obtain ⟨y, hy, rfl⟩ := hj
    exact .inr ⟨y, hy, rfl⟩
  · simp only [heq, ↓reduceIte, Option.map_eq_map, Option.map_id'] at hj
    exact .inl (List.mem_of_getElem? hj)

end modify

/-! ### What a waiting party knows -/

/-- What holds of the registry while a call stands at a given point. -/
def CallOk (registry : Registry UUri Listener) : CallPc UUri Listener → Prop
  | .deactivating r => r < registry.heap.length
  | .asleep r => registry.Inactive r ∧ registry.inFlight r ≠ 0
  | .awake r => registry.Inactive r
  | .unregistered r => registry.Quiesced r
  | _ => True

/-- What holds of the registry while `Drop` stands at a given point. -/
def DropOk (registry : Registry UUri Listener) : DropPc → Prop
  | .draining regs => ∀ r ∈ regs, r < registry.heap.length
  | .asleep r regs =>
    (registry.Inactive r ∧ registry.inFlight r ≠ 0) ∧ ∀ r ∈ regs, r < registry.heap.length
  | .awake r regs => registry.Inactive r ∧ ∀ r ∈ regs, r < registry.heap.length
  | _ => True

/-- Every address in use is that of a registration, and every party that
    waits is entitled to. -/
structure Waits (registry : Registry UUri Listener) (calls : List (Call UUri Listener))
    (drop : DropPc) : Prop where
  entries : ∀ r ∈ registry.entries, r < registry.heap.length
  calls : ∀ call ∈ calls, CallOk registry call.pc
  drop : DropOk registry drop

section waits
variable {registry registry' : Registry UUri Listener} {pc : CallPc UUri Listener}
  {calls : List (Call UUri Listener)} {drop : DropPc}

/-- A call that sleeps is the only one that minds a counter going to zero. -/
theorem CallOk.mono (h : CallOk registry pc) (hev : registry.Evolves registry')
    (hsleep : ∀ r, pc = .asleep r → registry'.inFlight r ≠ 0) : CallOk registry' pc := by
  cases pc with
  | deactivating r => exact Nat.lt_of_lt_of_le h hev.length_le
  | asleep r => exact ⟨hev.inactive_mono h.1, hsleep r rfl⟩
  | awake r => exact hev.inactive_mono h
  | unregistered r => exact hev.quiesced h
  | _ => trivial

theorem DropOk.mono (h : DropOk registry drop) (hev : registry.Evolves registry')
    (hsleep : ∀ r regs, drop = .asleep r regs → registry'.inFlight r ≠ 0) :
    DropOk registry' drop := by
  have hlt : ∀ {r}, r < registry.heap.length → r < registry'.heap.length :=
    fun hr => Nat.lt_of_lt_of_le hr hev.length_le
  cases drop with
  | draining regs => exact fun r hr => hlt (h r hr)
  | asleep r regs =>
    exact ⟨⟨hev.inactive_mono h.1.1, hsleep r regs rfl⟩, fun r hr => hlt (h.2 r hr)⟩
  | awake r regs => exact ⟨hev.inactive_mono h.1, fun r hr => hlt (h.2 r hr)⟩
  | _ => trivial

/-- A step that lowers no counter keeps everyone's knowledge. -/
theorem Waits.mono (h : Waits registry calls drop) (hev : registry.Evolves registry')
    (hcount : ∀ r, registry.inFlight r ≤ registry'.inFlight r)
    (hentries : ∀ r ∈ registry'.entries, r < registry'.heap.length) :
    Waits registry' calls drop := by
  have hne : ∀ r, registry.inFlight r ≠ 0 → registry'.inFlight r ≠ 0 := by
    intro r hr hzero
    exact hr (Nat.le_zero.mp (hzero ▸ hcount r))
  refine ⟨hentries, fun call hcall => ?_, ?_⟩
  · refine (h.calls call hcall).mono hev fun r hpc => hne r ?_
    have := h.calls call hcall
    rw [hpc] at this
    exact this.2
  · refine h.drop.mono hev fun r regs hpc => hne r ?_
    have := h.drop
    rw [hpc] at this
    exact this.1.2

/-- One call moves on. -/
theorem Waits.setPc (h : Waits registry calls drop) {c : CallId} {pc : CallPc UUri Listener}
    (hpc : CallOk registry pc) :
    Waits registry (calls.modify c fun call => { call with pc := pc }) drop := by
  refine ⟨h.entries, fun call hcall => ?_, h.drop⟩
  rcases mem_modify hcall with hold | ⟨_, _, rfl⟩
  · exact h.calls call hold
  · exact hpc

/-- Dropping a guard: who sleeps on the registration is woken up when its
    counter reaches zero. -/
theorem CallOk.notify {r : RegId} (h : CallOk registry pc) (hev : registry.Evolves registry')
    (hkeep : ∀ r', r' ≠ r → registry'.inFlight r' = registry.inFlight r') :
    CallOk registry' (pc.notify r) := by
  cases pc with
  | asleep r' =>
    by_cases hr : r' = r
    · rw [CallPc.notify, if_pos hr]
      exact hev.inactive_mono h.1
    · rw [CallPc.notify, if_neg hr]
      exact ⟨hev.inactive_mono h.1, by rw [hkeep r' hr]; exact h.2⟩
  | _ => exact h.mono hev (fun _ hpc => by contradiction)

theorem DropOk.notify {r : RegId} (h : DropOk registry drop) (hev : registry.Evolves registry')
    (hkeep : ∀ r', r' ≠ r → registry'.inFlight r' = registry.inFlight r') :
    DropOk registry' (drop.notify r) := by
  cases drop with
  | asleep r' regs =>
    have hlt : ∀ r ∈ regs, r < registry'.heap.length :=
      fun r hr => Nat.lt_of_lt_of_le (h.2 r hr) hev.length_le
    by_cases hr : r' = r
    · rw [DropPc.notify, if_pos hr]
      exact ⟨hev.inactive_mono h.1.1, hlt⟩
    · rw [DropPc.notify, if_neg hr]
      exact ⟨⟨hev.inactive_mono h.1.1, by rw [hkeep r' hr]; exact h.1.2⟩, hlt⟩
  | _ => exact h.mono hev (fun _ _ hpc => by contradiction)

end waits

/-! ### Looking at the counter -/

section looking
variable {s : State UUri Listener Sample Message}

/-- What `deactivate_and_wait` knows after looking at the counter. -/
theorem callOk_waitOn {registry : Registry UUri Listener} {r : RegId}
    (hin : registry.Inactive r) (hsame : registry.inFlight r = s.registry.inFlight r) :
    CallOk registry (s.waitOn r) := by
  unfold State.waitOn
  split
  · rename_i hzero
    exact ⟨hin, hsame.trans hzero⟩
  · rename_i hne
    exact ⟨hin, hsame ▸ hne⟩

theorem dropOk_drainOn {registry : Registry UUri Listener} {r : RegId} {regs : List RegId}
    (hin : registry.Inactive r) (hsame : registry.inFlight r = s.registry.inFlight r)
    (hregs : ∀ r ∈ regs, r < registry.heap.length) : DropOk registry (s.drainOn r regs) := by
  unfold State.drainOn
  split
  · exact hregs
  · rename_i hne
    exact ⟨⟨hin, hsame ▸ hne⟩, hregs⟩

theorem inactive_deactivate {registry : Registry UUri Listener} {r : RegId}
    (h : r < registry.heap.length) : (registry.deactivate r).Inactive r :=
  ⟨by simpa using h, by simp⟩

/-- The point a call stands at is the point of one of the calls. -/
theorem mem_of_callPc {c : CallId} {pc : CallPc UUri Listener} (h : s.callPc c = some pc) :
    ∃ call ∈ s.calls, s.calls[c]? = some call ∧ call.pc = pc := by
  unfold State.callPc at h
  obtain ⟨call, hcall, rfl⟩ := Option.map_eq_some_iff.mp h
  exact ⟨call, List.mem_of_getElem? hcall, hcall, rfl⟩

theorem Waits.callOk {c : CallId} {pc : CallPc UUri Listener}
    (h : Waits s.registry s.calls s.drop) (hpc : s.callPc c = some pc) :
    CallOk s.registry pc := by
  obtain ⟨call, hcall, _, rfl⟩ := mem_of_callPc hpc
  exact h.calls call hcall

end looking

/-! ### Preservation -/

section preservation
variable [DecidableEq UUri] [UriMatches UUri] [DecidableEq Listener]
variable {env : Env UUri Sample Message} {s s' : State UUri Listener Sample Message}
  {l : Label UUri Listener Sample}

/-- Every step lets the registry evolve. -/
theorem registry_evolves (h : Step env s l s') : s.registry.Evolves s'.registry := by
  cases h with
  | register c hpc hok => exact Registry.evolves_register hok
  | remove c hpc hok => exact Registry.evolves_of_heap (Registry.remove_ok hok).2.2.1
  | deactivate c hpc => exact Registry.evolves_deactivate _ _
  | beginActive hpc hbegin => exact Registry.evolves_begin hbegin
  | release t htask _ => exact Registry.evolves_release _ _
  | releaseLast t htask _ => exact Registry.evolves_release _ _
  | takeEntries hpc => exact Registry.evolves_of_heap rfl
  | drain hpc => exact Registry.evolves_deactivate _ _
  | _ => exact Registry.Evolves.refl _

theorem waits_step (hi : Waits s.registry s.calls s.drop) (h : Step env s l s') :
    Waits s'.registry s'.calls s'.drop := by
  have hev := registry_evolves h
  cases h with
  | enter site request hlive hsite =>
    refine ⟨hi.entries, fun call hcall => ?_, hi.drop⟩
    -- a new call has taken nothing out of the table yet
    rcases List.mem_append.mp hcall with hold | hnew
    · exact hi.calls call hold
    · rw [List.mem_singleton.mp hnew]
      cases request <;> trivial
  | registerFail c hpc hfail => exact hi.setPc trivial
  | @register c _ _ _ registry hpc hok =>
    obtain ⟨_, hheap, hentries⟩ := Registry.register_ok hok
    -- the new entry is the newest address of the heap
    refine (hi.mono hev (fun r => Nat.le_of_eq (Registry.inFlight_register hok).symm) ?_).setPc
      trivial
    intro r hr
    show r < registry.heap.length
    replace hr : r ∈ registry.entries := hr
    rw [hentries, List.mem_append, List.mem_singleton] at hr
    rw [hheap, List.length_append]
    rcases hr with hr | rfl
    · exact Nat.lt_add_right _ (hi.entries r hr)
    · exact Nat.lt_succ_self _
  | removeFail c hpc hfail => exact hi.setPc trivial
  | @remove c _ _ _ r registry hpc hok =>
    -- what the call has removed was an entry, and the others stay
    obtain ⟨hmem, _, hheap, hentries⟩ := Registry.remove_ok hok
    refine (hi.mono hev (fun r => Nat.le_of_eq (Registry.inFlight_remove hok).symm) ?_).setPc ?_
    · intro r' hr'
      show r' < registry.heap.length
      replace hr' : r' ∈ registry.entries := hr'
      rw [hentries] at hr'
      rw [hheap]
      exact hi.entries r' (List.mem_of_mem_eraseP hr')
    · show r < registry.heap.length
      rw [hheap]
      exact hi.entries r hmem
  | deactivate c hpc =>
    -- from here on `r` is inactive, which is what a sleeper relies on
    have hlt := hi.callOk hpc
    refine (hi.mono hev (fun r => Nat.le_of_eq (Registry.inFlight_deactivate _ _ r).symm) ?_).setPc
      (callOk_waitOn (inactive_deactivate hlt) (Registry.inFlight_deactivate _ _ _))
    intro r hr
    rw [State.setPc_registry, Registry.heap_length_deactivate]
    exact hi.entries r hr
  | recheck c hpc => exact hi.setPc (callOk_waitOn (hi.callOk hpc) rfl)
  | wake c hpc => exact hi.setPc (hi.callOk hpc).1
  | beginActive hpc hbegin =>
    refine hi.mono hev (fun r => ?_) ?_
    -- a count that rises does not end a wait
    · rw [Registry.inFlight_begin hbegin]
      exact Nat.le_add_right _ _
    · intro r hr
      rw [Registry.entries_begin hbegin] at hr
      rw [Registry.heap_length_begin hbegin]
      exact hi.entries r hr
  | @release t job aborted outcome htask hidle =>
    -- not the last guard, so that whoever sleeps on its registration has to sleep on
    have hcount : ∀ r, s.registry.inFlight r ≠ 0 →
        (s.registry.release job.reg).inFlight r ≠ 0 := by
      intro r hr
      by_cases heq : job.reg = r
      · exact heq ▸ hidle
      · rw [Registry.inFlight_release, if_neg heq]
        exact hr
    refine ⟨fun r hr => ?_, fun call hcall => ?_, ?_⟩
    · rw [State.setPhase_registry, Registry.heap_length_release]
      exact hi.entries r hr
    · refine (hi.calls call hcall).mono hev fun r hpc => hcount r ?_
      have := hi.calls call hcall
      rw [hpc] at this
      exact this.2
    · refine hi.drop.mono hev fun r regs hpc => hcount r ?_
      have hdrop := hi.drop
      rw [show s.drop = _ from hpc] at hdrop
      exact hdrop.1.2
  | @releaseLast t job aborted outcome htask hidle =>
    -- the last guard: those who sleep on its registration are woken up, the others sleep on
    have hkeep : ∀ r', r' ≠ job.reg →
        (s.registry.release job.reg).inFlight r' = s.registry.inFlight r' := by
      intro r' hne
      rw [Registry.inFlight_release, if_neg (Ne.symm hne)]
    refine ⟨fun r hr => ?_, fun call hcall => ?_, ?_⟩
    · rw [State.notifyIdle_registry, State.setPhase_registry, Registry.heap_length_release]
      exact hi.entries r hr
    · obtain ⟨old, hold, rfl⟩ := List.mem_map.mp hcall
      exact (hi.calls old hold).notify hev hkeep
    · exact hi.drop.notify hev hkeep
  | enterDrop site _ _ _ => exact ⟨hi.entries, hi.calls, trivial⟩
  | stop hpc => exact ⟨hi.entries, hi.calls, trivial⟩
  | joinPoller hpc _ => exact ⟨hi.entries, hi.calls, trivial⟩
  | joinPanicked hpc _ => exact ⟨hi.entries, hi.calls, trivial⟩
  | takeEntries hpc =>
    -- the entries become the ones `Drop` has to wait for
    have hsame : Waits s.registry.takeEntries s.calls s.drop :=
      hi.mono hev (fun _ => Nat.le_refl _) (fun r hr => absurd hr List.not_mem_nil)
    exact ⟨hsame.entries, hsame.calls, hi.entries⟩
  | drain hpc =>
    have hdrop := hi.drop
    rw [hpc] at hdrop
    have hsame := hi.mono hev
      (fun r => Nat.le_of_eq (Registry.inFlight_deactivate _ _ r).symm)
      (fun r hr => by simpa using hi.entries r hr)
    refine ⟨hsame.entries, hsame.calls, dropOk_drainOn
      (inactive_deactivate (hdrop _ List.mem_cons_self)) (Registry.inFlight_deactivate _ _ _) ?_⟩
    intro r hr
    simpa using hdrop r (List.mem_cons_of_mem _ hr)
  | drained hpc => exact ⟨hi.entries, hi.calls, trivial⟩
  | recheckDrop hpc =>
    have hdrop := hi.drop
    rw [hpc] at hdrop
    exact ⟨hi.entries, hi.calls, dropOk_drainOn hdrop.1 rfl hdrop.2⟩
  | wakeDrop hpc =>
    have hdrop := hi.drop
    rw [hpc] at hdrop
    exact ⟨hi.entries, hi.calls, hdrop.1.1, hdrop.2⟩
  | joinDispatcher hpc _ => exact ⟨hi.entries, hi.calls, trivial⟩
  | deleteContained _ hpc => exact ⟨hi.entries, hi.calls, trivial⟩
  | deleteParticipant _ hpc => exact ⟨hi.entries, hi.calls, trivial⟩
  | _ => exact hi

theorem reachable_waits (h : Reachable (router env) s) : Waits s.registry s.calls s.drop := by
  refine invariant (P := fun s => Waits s.registry s.calls s.drop) ?_ ?_ h
  · rintro _ rfl
    refine ⟨fun r hr => absurd hr List.not_mem_nil, fun call hcall => ?_, trivial⟩
    exact absurd hcall List.not_mem_nil
  · intro s l s' hi hstep
    exact waits_step hi (Step.of_next hstep)

/-- Along a run the registry evolves. -/
theorem run_evolves {tr : Trace (State UUri Listener Sample Message) (Label UUri Listener Sample)}
    (h : Run (router env) s tr s') : s.registry.Evolves s'.registry := by
  refine h.stable (P := fun t => s.registry.Evolves t.registry) ?_ (Registry.Evolves.refl _)
  intro t l t' ht hstep
  exact ht.trans (registry_evolves (Step.of_next hstep))

end preservation

/-! ### Callbacks and their guards -/

/-- The job whose callback starts with this step: the first poll of its
    future. -/
def started (s : State UUri Listener Sample Message) :
    Label UUri Listener Sample → List (Job Message)
  | .poll t =>
    match s.tasks[t]? with
    | some ⟨job, _, .spawned⟩ => [job]
    | _ => []
  | _ => []

section guards
variable {s s' : State UUri Listener Sample Message} {l : Label UUri Listener Sample}

theorem mem_started {job : Job Message} (h : job ∈ started s l) :
    ∃ t task, l = .poll t ∧ s.tasks[t]? = some task ∧ task.job = job ∧
      task.phase = .spawned := by
  unfold started at h
  split at h
  · rename_i t
    split at h
    · rename_i htask
      exact ⟨t, _, rfl, htask, (List.mem_singleton.mp h).symm, rfl⟩
    · exact absurd h List.not_mem_nil
  · exact absurd h List.not_mem_nil

/-- A future that holds its guard keeps its registration from quiescing. -/
theorem not_quiesced_of_guard (hs : Serial s.dispatcher s.tasks)
    (hc : Counted s.registry s.dispatcher s.tasks) {t : TaskId} {task : Task Message}
    (htask : s.tasks[t]? = some task) (hguard : task.phase.holdsGuard = true) :
    ¬ s.registry.Quiesced task.job.reg := by
  intro hq
  have hone := hc.eq_one task.job.reg (hs.owner_eq htask hguard)
  rw [hq.2] at hone
  contradiction

variable [DecidableEq UUri] [UriMatches UUri] [DecidableEq Listener]
variable {env : Env UUri Sample Message}

/-- No callback of a quiesced registration is running. -/
theorem not_running_of_quiesced (h : Reachable (router env) s) {r : RegId}
    (hq : s.registry.Quiesced r) : ¬ s.CallbackRunning r := by
  rintro ⟨task, hmem, rfl, hrun⟩
  obtain ⟨t, htask⟩ := List.mem_iff_getElem?.mp hmem
  exact not_quiesced_of_guard (reachable_serial h) (reachable_counted h) htask
    (Phase.holdsGuard_of_running hrun) hq

/-- No callback of a quiesced registration starts. -/
theorem not_started_of_quiesced (h : Reachable (router env) s) {job : Job Message}
    (hq : s.registry.Quiesced job.reg) : job ∉ started s l := by
  intro hjob
  obtain ⟨t, task, -, htask, rfl, hphase⟩ := mem_started hjob
  exact not_quiesced_of_guard (reachable_serial h) (reachable_counted h) htask
    (by rw [hphase]; rfl) hq

/-- Once quiesced, a registration has run its last callback. -/
theorem quiesced_forever (h : Reachable (router env) s) {r : RegId}
    (hq : s.registry.Quiesced r)
    {tr : Trace (State UUri Listener Sample Message) (Label UUri Listener Sample)}
    (hrun : Run (router env) s tr s') :
    ¬ s'.CallbackRunning r ∧ ∀ job ∈ observe started tr, job.reg ≠ r := by
  refine ⟨not_running_of_quiesced (h.run hrun) ((run_evolves hrun).quiesced hq), ?_⟩
  rintro job hjob rfl
  obtain ⟨⟨t, l⟩, hstep, hstart⟩ := mem_observe.mp hjob
  obtain ⟨pre, post, rfl⟩ := List.append_of_mem hstep
  obtain ⟨_, hpre, _, _⟩ := hrun.split
  exact not_started_of_quiesced (h.run hpre) ((run_evolves hpre).quiesced hq) hstart

end guards

/-! ### The barrier -/

section barrier
variable [DecidableEq UUri] [UriMatches UUri] [DecidableEq Listener]
variable {env : Env UUri Sample Message} {s : State UUri Listener Sample Message}

/-- **Unregistration is a barrier.** When a call has unregistered `r`, no
    callback of `r` is running, and none ever starts again, whatever jobs for
    `r` are still on their way. -/
theorem unregister_barrier (h : Reachable (router env) s) {c : CallId} {r : RegId}
    (hret : s.callPc c = some (.unregistered r)) :
    ¬ s.CallbackRunning r ∧
    ∀ tr s', Run (router env) s tr s' →
      ¬ s'.CallbackRunning r ∧ ∀ job ∈ observe started tr, job.reg ≠ r := by
  have hq : s.registry.Quiesced r := (reachable_waits h).callOk hret
  refine ⟨not_running_of_quiesced h hq, fun tr s' hrun => ?_⟩
  exact quiesced_forever h hq hrun

/-- One listener is registered, gets a message of its topic and, while its
    callback runs, is unregistered. -/
def barrierRun : List TopicLabel :=
  [.enter .external (.register ⟨7⟩ none 0), .advance 0,
   .poller, .take (.ok [some ("peer", 7), some ("peer", 7)]), .poller, .poller, .poller, .poller,
   .poller, .dispatcher, .dispatcher, .dispatcher, .poll 0,
   .enter .external (.unregister ⟨7⟩ none 0), .advance 1, .advance 1,
   .finish 0 false, .release 0, .advance 1]

theorem unregister_barrier_run :
    ∃ s : TopicState, Reachable topicRouter s ∧
      s.queue.length = 1 ∧ ¬ s.CallbackRunning 0 := by
  obtain ⟨tr, s, hexec, hqueue, hret⟩ : ∃ tr s,
      exec (State.next (topicEnv 4 2)) State.start barrierRun = some (tr, s) ∧
        s.queue.length = 1 ∧ s.callPc 1 = some (.unregistered 0) := ⟨_, _, rfl, rfl, rfl⟩
  have hreach := (initRun_of_exec hexec).reachable
  exact ⟨s, hreach, hqueue, (unregister_barrier hreach hret).1⟩

end barrier

end UpTransportDds
