import UpTransportDds.Router.Order
import UpTransportDds.Runtime.Keys

/-! # What a listener is called with

  One registration gets at most one callback for each accepted sample, in the
  order of the samples, and only for messages that its filters accept. The
  filters of a registration never change, so the last holds of the table of
  any later moment.
-/

namespace UpTransportDds

open LTS

variable {UUri Listener Sample Message : Type}

/-! ### Filters -/

/-- Registrations keep what they accept while others are added. -/
theorem Registry.accepts_prefix [UriMatches UUri] {registry registry' : Registry UUri Listener}
    {source : UUri} {sink : Option UUri} {r : RegId} (hkeys : registry.keys <+: registry'.keys)
    (h : r < registry.heap.length) :
    registry'.accepts source sink r = registry.accepts source sink r := by
  have hlt : r < registry.keys.length := by rwa [keys_length]
  rw [accepts_eq, accepts_eq, keyOf, keyOf, List.prefix_iff_getElem?.mp hkeys r hlt,
    List.getElem?_eq_getElem hlt]

theorem Registry.lt_of_accepts [UriMatches UUri] {registry : Registry UUri Listener}
    {source : UUri} {sink : Option UUri} {r : RegId} (h : registry.accepts source sink r = true) :
    r < registry.heap.length := by
  rw [accepts_eq] at h
  obtain ⟨key, hkey, _⟩ := (Option.any_eq_true ..).mp h
  have hlt := (List.getElem?_eq_some_iff.mp hkey).1
  rwa [keys_length] at hlt

section keys
variable [DecidableEq UUri] [UriMatches UUri] [DecidableEq Listener]
variable {env : Env UUri Sample Message} {s s' : State UUri Listener Sample Message}
  {l : Label UUri Listener Sample}
  {tr : Trace (State UUri Listener Sample Message) (Label UUri Listener Sample)}

theorem keys_step (h : Step env s l s') : s.registry.keys <+: s'.registry.keys := by
  cases h with
  | @register c _ _ _ registry hpc hok =>
    show s.registry.keys <+: registry.keys
    rw [Registry.keys_register hok]
    exact List.prefix_append _ _
  | @remove c _ _ _ r registry hpc hok =>
    show s.registry.keys <+: registry.keys
    exact Registry.keys_remove hok ▸ List.prefix_refl _
  | deactivate c hpc => exact Registry.keys_deactivate ▸ List.prefix_refl _
  | @beginActive job registry hpc hbegin =>
    show s.registry.keys <+: registry.keys
    exact Registry.keys_begin hbegin ▸ List.prefix_refl _
  | release t htask _ => exact Registry.keys_release ▸ List.prefix_refl _
  | releaseLast t htask _ => exact Registry.keys_release ▸ List.prefix_refl _
  | drain hpc => exact Registry.keys_deactivate ▸ List.prefix_refl _
  | _ => exact List.prefix_refl _

theorem run_keys (h : Run (router env) s tr s') : s.registry.keys <+: s'.registry.keys := by
  refine h.stable (P := fun t => s.registry.keys <+: t.registry.keys) ?_ (List.prefix_refl _)
  intro t l t' ht hstep
  exact ht.trans (keys_step (Step.of_next hstep))

/-- The table of a snapshot is that of an earlier state of the run. -/
theorem keys_handledIn (h : InitRun (router env) tr s)
    {x : Taken Sample × Registry UUri Listener} (hx : x ∈ observe handledIn tr) :
    x.2.keys <+: s.registry.keys := by
  obtain ⟨⟨t, l⟩, hmem, hshown⟩ := mem_observe.mp hx
  obtain ⟨s₀, _, hrun⟩ := h
  obtain ⟨before, after, rfl⟩ := List.append_of_mem hmem
  obtain ⟨t', _, hstep, hrest⟩ := hrun.split
  rw [registry_of_handledIn hshown]
  exact (keys_step (Step.of_next hstep)).trans (run_keys hrest)

/-- The filters of a registration accept what its listener is called with. -/
theorem run_started_accepts (h : InitRun (router env) tr s) {job : Job Message}
    (hjob : job ∈ observe started tr) :
    s.registry.accepts (env.carriage.source job.message) (env.carriage.sink job.message) job.reg =
      true := by
  have hsnapshotted := (run_started_order h).subset hjob
  rw [observe_snapshotted] at hsnapshotted
  obtain ⟨⟨⟨data, k⟩, registry⟩, hhandled, hmade⟩ := List.mem_flatMap.mp hsnapshotted
  have hmatching : registry.accepts (env.carriage.source job.message)
      (env.carriage.sink job.message) job.reg = true := by
    cases data with
    | none => exact absurd hmade List.not_mem_nil
    | some sample =>
      simp only [jobsFor] at hmade
      split at hmade
      · obtain ⟨r, hr, rfl⟩ := List.mem_map.mp hmade
        exact (List.mem_filter.mp hr).2
      · exact absurd hmade List.not_mem_nil
  rw [Registry.accepts_prefix (keys_handledIn h hhandled) (Registry.lt_of_accepts hmatching)]
  exact hmatching

end keys

/-! ### Messages -/

/-- The message of a sample that the poller accepts. -/
def acceptedOf (env : Env UUri Sample Message) : Taken Sample → Option Message
  | (some sample, _) =>
    match env.carriage.receive env.config.toDdsConfig sample with
    | .accepted message => some message
    | _ => none
  | (none, _) => none

/-- The number of a sample does not matter. -/
theorem acceptedOf_taken {env : Env UUri Sample Message} {xs : List (Taken Sample)} :
    xs.filterMap (acceptedOf env) =
      (xs.map Prod.fst).filterMap fun data => acceptedOf env (data, 0) := by
  rw [List.filterMap_map]
  congr 1
  funext x
  obtain ⟨_ | sample, k⟩ := x <;> rfl

/-- Items that each give rise to at most one, in order. -/
theorem flatMap_sublist_filterMap {α β : Type} {f : α → List β} {g : α → Option β} {xs : List α}
    (h : ∀ x ∈ xs, (f x).Sublist (g x).toList) : (xs.flatMap f).Sublist (xs.filterMap g) := by
  induction xs with
  | nil => exact List.nil_sublist _
  | cons x xs ih =>
    have hhead := h x List.mem_cons_self
    have htail := ih fun y hy => h y (List.mem_cons_of_mem x hy)
    rw [List.flatMap_cons, List.filterMap_cons]
    cases hx : g x with
    | none =>
      rw [hx] at hhead
      rw [List.sublist_nil.mp hhead]
      exact htail
    | some y =>
      rw [hx] at hhead
      exact hhead.append htail

section messages
variable [UriMatches UUri] {env : Env UUri Sample Message}

/-- The jobs of a registration for one sample are those of its entries in the
    table. -/
theorem jobsFor_messages (x : Taken Sample × Registry UUri Listener) (r : RegId) :
    ((jobsFor env x).filter (·.reg = r)).map Job.message =
      (acceptedOf env x.1).toList.flatMap fun message =>
        if x.2.accepts (env.carriage.source message) (env.carriage.sink message) r = true then
          List.replicate (x.2.entries.count r) message
        else
          [] := by
  obtain ⟨⟨_ | sample, k⟩, registry⟩ := x
  · rfl
  simp only [jobsFor, acceptedOf]
  cases env.carriage.receive env.config.toDdsConfig sample with
  | own | malformed => rfl
  | accepted message =>
    have hsame : ((fun job : Job Message => decide (job.reg = r)) ∘
        fun reg => (⟨k, reg, message⟩ : Job Message)) = fun reg => decide (reg = r) := rfl
    simp only [jobsOf, Registry.matching, List.filter_map, List.map_map, hsame,
      Option.toList_some, List.flatMap_singleton]
    rw [List.filter_comm, List.filter_eq]
    split
    · rename_i haccepts
      rw [List.filter_replicate_of_pos haccepts, List.map_replicate]
      rfl
    · rename_i haccepts
      rw [List.filter_replicate_of_neg haccepts]
      rfl

/-- A registration gets at most one job of a sample. -/
theorem jobsFor_sublist {x : Taken Sample × Registry UUri Listener} (h : x.2.Ascending)
    (r : RegId) :
    (((jobsFor env x).filter (·.reg = r)).map Job.message).Sublist (acceptedOf env x.1).toList := by
  -- the table lists a registration once
  have hcount := List.nodup_iff_count_le_one.mp (h.imp Nat.ne_of_lt) r
  rw [jobsFor_messages]
  cases hmessage : acceptedOf env x.1 with
  | none => exact List.nil_sublist _
  | some message =>
    rw [Option.toList_some, List.flatMap_singleton]
    split
    · exact List.replicate_sublist_replicate message |>.mpr hcount
    · exact List.nil_sublist _

/-- A registration that is in the table gets a job of each sample that it
    accepts. -/
theorem jobsFor_listed {x : Taken Sample × Registry UUri Listener} (h : x.2.Ascending) {r : RegId}
    (hr : r ∈ x.2.entries) :
    ((jobsFor env x).filter (·.reg = r)).map Job.message =
      (acceptedOf env x.1).toList.filter fun message =>
        x.2.accepts (env.carriage.source message) (env.carriage.sink message) r := by
  have hcount : x.2.entries.count r = 1 := List.count_eq_one_of_mem (h.imp Nat.ne_of_lt) hr
  rw [jobsFor_messages, hcount]
  cases hmessage : acceptedOf env x.1 with
  | none => rfl
  | some message =>
    rw [Option.toList_some, List.flatMap_singleton, List.filter_cons]
    rfl

end messages

section calls
variable [DecidableEq UUri] [UriMatches UUri] [DecidableEq Listener]
variable {env : Env UUri Sample Message} {s : State UUri Listener Sample Message}
  {tr : Trace (State UUri Listener Sample Message) (Label UUri Listener Sample)}

/-- The messages a registration is called with are messages of the samples
    handled, in their order, each at most once. -/
theorem run_called (h : InitRun (router env) tr s) (r : RegId) :
    (((observe started tr).filter (·.reg = r)).map Job.message).Sublist
      ((observe handled tr).filterMap (acceptedOf env)) := by
  have hstarted := ((run_started_order h).filter (·.reg = r)).map Job.message
  rw [observe_snapshotted, List.filter_flatMap, List.map_flatMap] at hstarted
  refine hstarted.trans ?_
  rw [observe_handled, List.filterMap_map]
  apply flatMap_sublist_filterMap
  intro x hx
  obtain ⟨⟨t, l⟩, hmem, hshown⟩ := mem_observe.mp hx
  apply jobsFor_sublist
  rw [registry_of_handledIn hshown]
  exact reachable_ascending (h.reachable_of_mem hmem)

/-- A registration that is in the table whenever a sample is handled gets a
    job of each message that it accepts. -/
theorem run_listed (h : InitRun (router env) tr s) {r : RegId}
    (hlisted : ∀ x ∈ observe handledIn tr, x.1.1.isSome = true → r ∈ x.2.entries) :
    ((observe (snapshotted env) tr).filter (·.reg = r)).map Job.message =
      ((observe handled tr).filterMap (acceptedOf env)).filter fun message =>
        s.registry.accepts (env.carriage.source message) (env.carriage.sink message) r := by
  rw [observe_snapshotted, observe_handled, List.filter_flatMap, List.map_flatMap,
    List.filterMap_map, List.filterMap_eq_flatMap_toList, List.filter_flatMap]
  apply List.flatMap_congr
  intro x hx
  obtain ⟨⟨t, l⟩, hmem, hshown⟩ := mem_observe.mp hx
  have hearlier := h.reachable_of_mem hmem
  have htable := registry_of_handledIn hshown
  cases hdata : x.1.1 with
  | none =>
    obtain ⟨⟨data, k⟩, registry⟩ := x
    obtain rfl : data = none := hdata
    rfl
  | some sample =>
    have hr : r ∈ x.2.entries := hlisted x hx (by rw [hdata]; rfl)
    have hascending : x.2.Ascending := htable ▸ reachable_ascending hearlier
    have hlt : r < x.2.heap.length := by
      rw [htable] at hr ⊢
      exact (reachable_waits hearlier).entries r hr
    rw [jobsFor_listed hascending hr]
    apply List.filter_congr
    intro message _
    rw [Registry.accepts_prefix (keys_handledIn h hx) hlt]

end calls

/-! ### Jobs that are never called -/

/-- The job whose future is cancelled before its first poll. -/
def unstarted (s : State UUri Listener Sample Message) :
    Label UUri Listener Sample → List (Job Message)
  | .cancel t =>
    match s.tasks[t]? with
    | some ⟨job, _, .spawned⟩ => [job]
    | _ => []
  | .dispatcher =>
    match s.dispatcher with
    | .spawning job => if s.shutdown then [job] else []
    | _ => []
  | _ => []

/-- The jobs whose callbacks are still to be started. -/
def State.pending (s : State UUri Listener Sample Message) : List (Job Message) :=
  s.poller.toSubmit ++ s.queue ++ fresh s.dispatcher s.tasks

/-- Past its first phase, a future does not make its job fresh again. -/
theorem fresh_later {dispatcher : Dispatcher Message} {tasks : List (Task Message)}
    {task : Task Message} {t : TaskId} {phase : Phase} (hs : Serial dispatcher tasks)
    (htask : tasks[t]? = some task) (hlive : task.phase.done = false)
    (hold : task.phase ≠ .spawned) (hnew : phase ≠ .spawned) :
    fresh dispatcher tasks = [] ∧ fresh dispatcher (withPhase tasks t phase) = [] := by
  have hnil := hs.fresh_nil htask hlive hold
  have hsublist : (fresh dispatcher (withPhase tasks t phase)).Sublist (fresh dispatcher tasks) :=
    fresh_withPhase hnew
  rw [hnil] at hsublist
  exact ⟨hnil, List.sublist_nil.mp hsublist⟩

section unstarted
variable [DecidableEq UUri] [UriMatches UUri] [DecidableEq Listener]
variable {env : Env UUri Sample Message} {s s' : State UUri Listener Sample Message}
  {l : Label UUri Listener Sample}
  {tr : Trace (State UUri Listener Sample Message) (Label UUri Listener Sample)}

/-- A job that is received is called, skipped or cancelled, sooner or later. -/
theorem unstarted_step (hs : Serial s.dispatcher s.tasks) (h : Step env s l s') :
    (fresh s.dispatcher s.tasks ++ received s l).Perm
      ((started s l ++ (skipped s l ++ unstarted s l)) ++ fresh s'.dispatcher s'.tasks) := by
  cases h with
  | @poll t task htask hpoll _ _ _ =>
    have hlive := Phase.not_done_of_holdsGuard (Phase.holdsGuard_of_pollable hpoll)
    have hgone : fresh s.dispatcher (withPhase s.tasks t .polling) = [] := by
      have hs' : Serial s.dispatcher (withPhase s.tasks t .polling) := hs.withPhase htask hlive
      exact hs'.fresh_nil (withPhase_self htask) rfl (by simp)
    show (_ ++ received s (.poll t)).Perm
      (_ ++ fresh s.dispatcher (withPhase s.tasks t .polling))
    rw [hgone]
    by_cases hphase : task.phase = .spawned
    · obtain ⟨job, aborted, phase⟩ := task
      obtain rfl : phase = .spawned := hphase
      rw [hs.fresh_eq htask rfl]
      simp [started, received, skipped, unstarted, htask]
    · rw [hs.fresh_nil htask hlive hphase]
      obtain ⟨job, aborted, phase⟩ := task
      cases phase <;> simp_all [started, received, skipped, unstarted]
  | @cancel t task htask hpoll _ _ =>
    have hlive := Phase.not_done_of_holdsGuard (Phase.holdsGuard_of_pollable hpoll)
    have hgone : fresh s.dispatcher (withPhase s.tasks t (.dropping .cancelled)) = [] := by
      have hs' : Serial s.dispatcher (withPhase s.tasks t (.dropping .cancelled)) :=
        hs.withPhase htask hlive
      exact hs'.fresh_nil (withPhase_self htask) rfl (by simp)
    show (_ ++ received s (.cancel t)).Perm
      (_ ++ fresh s.dispatcher (withPhase s.tasks t (.dropping .cancelled)))
    rw [hgone]
    by_cases hphase : task.phase = .spawned
    · obtain ⟨job, aborted, phase⟩ := task
      obtain rfl : phase = .spawned := hphase
      rw [hs.fresh_eq htask rfl]
      simp [started, received, skipped, unstarted, htask]
    · rw [hs.fresh_nil htask hlive hphase]
      obtain ⟨job, aborted, phase⟩ := task
      cases phase <;> simp_all [started, received, skipped, unstarted]
  | suspend t htask hpoll _ =>
    obtain ⟨hnil, hnil'⟩ := fresh_later hs htask (by rw [hpoll]; rfl) (by simp [hpoll])
      (show Phase.suspended ≠ .spawned by simp)
    simp [started, received, skipped, unstarted, hnil, hnil']
  | wakeTask t occupant htask hpoll _ =>
    obtain ⟨hnil, hnil'⟩ := fresh_later hs htask (by rw [hpoll]; rfl) (by simp [hpoll])
      (show Phase.woken occupant ≠ .spawned by simp)
    simp [started, received, skipped, unstarted, hnil, hnil']
  | finish t panicked htask hpoll _ =>
    obtain ⟨hnil, hnil'⟩ := fresh_later hs htask (by rw [hpoll]; rfl) (by simp [hpoll])
      (show Phase.dropping (if panicked then .panicked else .returned) ≠ .spawned by simp)
    simp [started, received, skipped, unstarted, hnil, hnil']
  | @release t job aborted outcome htask _ | @releaseLast t job aborted outcome htask _ =>
    obtain ⟨hnil, hnil'⟩ := fresh_later hs htask rfl (by simp)
      (show Phase.released outcome ≠ .spawned by simp)
    simp [started, received, skipped, unstarted, hnil, hnil']
  | @complete t job aborted outcome htask =>
    obtain ⟨hnil, hnil'⟩ := fresh_later hs htask rfl (by simp)
      (show Phase.complete outcome ≠ .spawned by simp)
    simp [started, received, skipped, unstarted, hnil, hnil']
  -- the job stays fresh, unless a runtime shut down cancels it at once
  | @spawn job hpc =>
    cases hshut : s.shutdown <;>
      simp [started, received, skipped, unstarted, hpc, hshut, fresh, Dispatcher.task,
        Dispatcher.job]
  | @abort job t hpc _ =>
    cases htask : s.tasks[t]? <;>
      simp [started, received, skipped, unstarted, fresh, hpc, htask, Dispatcher.task,
        Dispatcher.job]
  -- what is joined has ended, so it was called or cancelled before
  | @joinOk job t hpc hout | @joinError job t _ hpc hout _ =>
    obtain ⟨task, htask, houtcome⟩ := outcome_eq hout
    have hphase : task.phase ≠ .spawned := by
      intro hspawned
      rw [hspawned] at houtcome
      contradiction
    simp [started, received, skipped, unstarted, fresh, Dispatcher.task, Dispatcher.job, hpc,
      htask, hphase]
  | _ => simp [started, received, skipped, unstarted, fresh, Dispatcher.task, Dispatcher.job, *]

/-- What becomes of the jobs of all snapshots. -/
theorem run_pending (h : InitRun (router env) tr s) :
    (observe (snapshotted env) tr).Perm
      (observe started tr ++
        ((observe rejected tr ++ (observe skipped tr ++ observe unstarted tr)) ++ s.pending)) := by
  classical
  have hreceived := flow_bag (fun s => fresh s.dispatcher s.tasks) received
    (fun s l => started s l ++ (skipped s l ++ unstarted s l)) ?_ ?_ h
  · have hspread := hreceived.trans (List.Perm.append_right _ ((observe_both _ _ tr).trans
      (List.Perm.append_left _ (observe_both _ _ tr))))
    have hfanout := run_fanout h
    rw [run_channel h] at hfanout
    rw [List.perm_iff_count] at hspread hfanout ⊢
    intro job
    have hjob := hspread job
    have hjob' := hfanout job
    simp only [State.pending, List.count_append] at hjob hjob' ⊢
    omega
  · intro s hs
    rw [hs]
    rfl
  · intro s l s' hr hstep
    exact unstarted_step (reachable_serial hr) (Step.of_next hstep)

/-- Where every job has been called, the callbacks are those of the snapshots,
    in their order. -/
theorem run_settled (h : InitRun (router env) tr s) (hrejected : observe rejected tr = [])
    (hskipped : observe skipped tr = []) (hunstarted : observe unstarted tr = [])
    (hpending : s.pending = []) : observe started tr = observe (snapshotted env) tr := by
  have hperm := run_pending h
  rw [hrejected, hskipped, hunstarted, hpending] at hperm
  simp only [List.append_nil] at hperm
  exact (run_started_order h).eq_of_length hperm.length_eq.symm

end unstarted

end UpTransportDds
