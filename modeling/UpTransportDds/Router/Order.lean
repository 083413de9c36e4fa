import UpTransportDds.Router.Flow

/-! # Callbacks are serialized and in order

  The order of the table is the order of registration, samples are numbered
  in the order they are taken, and every stage between the snapshot and the
  start of a callback keeps the order of the jobs it does not drop.
-/

namespace UpTransportDds

open LTS

variable {UUri Listener Sample Message : Type}

/-! ### The table -/

/-- The table lists its registrations in the order they were created. -/
def Registry.Ascending (registry : Registry UUri Listener) : Prop :=
  registry.entries.Pairwise (· < ·)

section table
variable [DecidableEq UUri] [UriMatches UUri] [DecidableEq Listener]
variable {env : Env UUri Sample Message} {s s' : State UUri Listener Sample Message}
  {l : Label UUri Listener Sample}

theorem ascending_step (hw : Waits s.registry s.calls s.drop) (hi : s.registry.Ascending)
    (h : Step env s l s') : s'.registry.Ascending := by
  cases h with
  | @register c _ _ _ registry hpc hok =>
    obtain ⟨_, _, hentries⟩ := Registry.register_ok hok
    show registry.entries.Pairwise (· < ·)
    rw [hentries, List.pairwise_append]
    refine ⟨hi, List.pairwise_singleton _ _, ?_⟩
    intro r hr r' hr'
    -- the new address is the first one that is free
    rw [List.mem_singleton.mp hr']
    exact hw.entries r hr
  | @remove c _ _ _ r registry hpc hok =>
    obtain ⟨_, _, _, hentries⟩ := Registry.remove_ok hok
    show registry.entries.Pairwise (· < ·)
    rw [hentries]
    exact hi.sublist List.eraseP_sublist
  | @beginActive job registry hpc hbegin =>
    show registry.entries.Pairwise (· < ·)
    rw [Registry.entries_begin hbegin]
    exact hi
  | takeEntries hpc => exact List.Pairwise.nil
  | _ => exact hi

theorem reachable_ascending (h : Reachable (router env) s) : s.registry.Ascending := by
  refine invariant_reachable (P := fun s => s.registry.Ascending) ?_ ?_ h
  · intro s hs
    rw [hs]
    exact List.Pairwise.nil
  · intro s l s' hr hi hstep
    exact ascending_step (reachable_waits hr) hi (Step.of_next hstep)

end table

/-! ### The samples -/

section stages
variable {tr : Trace (State UUri Listener Sample Message) (Label UUri Listener Sample)}

theorem observe_handled : observe handled tr = (observe handledIn tr).map Prod.fst :=
  observe_map _ _ _

theorem observe_snapshotted [UriMatches UUri] (env : Env UUri Sample Message) :
    observe (snapshotted env) tr = (observe handledIn tr).flatMap (jobsFor env) :=
  observe_flatMap _ _ _

/-- The registry in which a sample is handled is that of the moment. -/
theorem registry_of_handledIn {s : State UUri Listener Sample Message}
    {l : Label UUri Listener Sample} {x : Taken Sample × Registry UUri Listener}
    (h : x ∈ handledIn s l) : x.2 = s.registry := by
  unfold handledIn at h
  split at h
  · split at h
    · rw [List.mem_singleton.mp h]
    · exact absurd h List.not_mem_nil
  · exact absurd h List.not_mem_nil

end stages

section samples
variable [DecidableEq UUri] [UriMatches UUri] [DecidableEq Listener]
variable {env : Env UUri Sample Message} {s s' : State UUri Listener Sample Message}
  {l : Label UUri Listener Sample}
  {tr : Trace (State UUri Listener Sample Message) (Label UUri Listener Sample)}

theorem taken_step (h : Step env s l s') :
    List.range s.taken ++ (took s l).map Prod.snd = List.range s'.taken := by
  cases h with
  | takeOk samples hpc =>
    have hnew : (samples.zipIdx s.taken).map Prod.snd = List.range' s.taken samples.length :=
      List.zipIdx_map_snd _ _
    show List.range s.taken ++ (took s _).map Prod.snd = List.range (s.taken + samples.length)
    simp only [took, hpc, hnew]
    rw [List.range_eq_range', List.range_eq_range', ← List.range'_append_1, Nat.zero_add]
  | _ => simp [took]

/-- Samples are numbered in the order they are taken. -/
theorem run_numbered (h : InitRun (router env) tr s) :
    (observe took tr).map Prod.snd = List.range s.taken := by
  refine run_invariant (P := fun tr s => (observe took tr).map Prod.snd = List.range s.taken)
    ?_ ?_ h
  · intro s hs
    rw [hs]
    rfl
  · intro tr s l s' _ hi hstep
    rw [observe_append, observe_single, List.map_append, hi]
    exact taken_step (Step.of_next hstep)

/-- Samples are handled in the order of their numbers. -/
theorem run_handled_ascending (h : InitRun (router env) tr s) :
    (observe handledIn tr).Pairwise (fun x y => x.1.2 < y.1.2) := by
  have hbatch := run_batch h
  have hnumbers := run_numbered h
  rw [hbatch, List.map_append] at hnumbers
  -- the samples handled are a prefix of those taken
  have hsorted : ((observe handled tr).map Prod.snd).Pairwise (· < ·) := by
    have hrange : (List.range s.taken).Pairwise (· < ·) := List.pairwise_lt_range
    rw [← hnumbers] at hrange
    exact (List.pairwise_append.mp hrange).1
  rw [observe_handled, List.map_map, List.pairwise_map] at hsorted
  exact hsorted

end samples

/-! ### The jobs -/

/-- The order of delivery: by sample, then by registration. -/
def Job.before (job job' : Job Message) : Prop :=
  job.sample < job'.sample ∨ (job.sample = job'.sample ∧ job.reg < job'.reg)

section jobs
variable [UriMatches UUri] {env : Env UUri Sample Message}

/-- The jobs of a sample carry its number. -/
theorem sample_jobsFor {x : Taken Sample × Registry UUri Listener} {job : Job Message}
    (h : job ∈ jobsFor env x) : job.sample = x.1.2 := by
  obtain ⟨⟨_ | sample, k⟩, registry⟩ := x
  · exact absurd h List.not_mem_nil
  · simp only [jobsFor] at h
    split at h
    · obtain ⟨r, _, rfl⟩ := List.mem_map.mp h
      rfl
    · exact absurd h List.not_mem_nil

/-- The jobs of a sample are in the order of the table. -/
theorem jobsFor_before {x : Taken Sample × Registry UUri Listener} (h : x.2.Ascending) :
    (jobsFor env x).Pairwise Job.before := by
  obtain ⟨⟨_ | sample, k⟩, registry⟩ := x
  · exact List.Pairwise.nil
  · simp only [jobsFor]
    split
    · apply List.pairwise_map.mpr
      -- filtering the table keeps its order
      apply (h.sublist List.filter_sublist).imp
      intro r r' hlt
      exact .inr ⟨rfl, hlt⟩
    · exact List.Pairwise.nil

end jobs

section order
variable [DecidableEq UUri] [UriMatches UUri] [DecidableEq Listener]
variable {env : Env UUri Sample Message} {s s' : State UUri Listener Sample Message}
  {l : Label UUri Listener Sample}
  {tr : Trace (State UUri Listener Sample Message) (Label UUri Listener Sample)}

/-- Jobs are snapshotted in the order of delivery. -/
theorem run_snapshotted_before (h : InitRun (router env) tr s) :
    (observe (snapshotted env) tr).Pairwise Job.before := by
  rw [observe_snapshotted, List.pairwise_flatMap]
  refine ⟨?_, (run_handled_ascending h).imp ?_⟩
  -- within a sample the table decides, across samples the number
  · rintro x hx
    obtain ⟨⟨t, l⟩, hmem, hx⟩ := mem_observe.mp hx
    apply jobsFor_before
    rw [registry_of_handledIn hx]
    exact reachable_ascending (h.reachable_of_mem hmem)
  · intro x y hlt job hjob job' hjob'
    left
    rw [sample_jobsFor hjob, sample_jobsFor hjob']
    exact hlt

/-- Callbacks start in the order of the snapshots. -/
theorem run_started_order (h : InitRun (router env) tr s) :
    (observe started tr).Sublist (observe (snapshotted env) tr) := by
  have hstarted : (observe started tr).Sublist (observe received tr) :=
    (List.sublist_append_left _ _).trans (run_started h)
  have hreceived : (observe received tr).Sublist (observe (queued env) tr) := by
    rw [run_channel h]
    exact List.sublist_append_left _ _
  have hqueued : (observe (queued env) tr).Sublist (observe (snapshotted env) tr) :=
    (List.sublist_append_left _ _).trans (run_fanout_order h)
  exact hstarted.trans (hreceived.trans hqueued)

end order

/-! ### Serialization -/

/-- Future `t` has been spawned and not yet been dropped completely. -/
def State.Alive (s : State UUri Listener Sample Message) (t : TaskId) : Prop :=
  ∃ task, s.tasks[t]? = some task ∧ task.phase.done = false

section serialized
variable [DecidableEq UUri] [UriMatches UUri] [DecidableEq Listener]
variable {env : Env UUri Sample Message} {s s' : State UUri Listener Sample Message}
  {tr : Trace (State UUri Listener Sample Message) (Label UUri Listener Sample)}

theorem alive_unique (h : Reachable (router env) s) {t t' : TaskId} (ht : s.Alive t)
    (ht' : s.Alive t') : t = t' := by
  obtain ⟨task, htask, hlive⟩ := ht
  obtain ⟨task', htask', hlive'⟩ := ht'
  have hcur := (reachable_serial h).live t task htask hlive
  have hcur' := (reachable_serial h).live t' task' htask' hlive'
  exact Option.some.inj (hcur.symm.trans hcur')

/-- When a callback starts, no other future is alive. -/
theorem started_alone (h : Reachable (router env) s) {t t' : TaskId}
    (hstart : started s (.poll t : Label UUri Listener Sample) ≠ []) (ht' : s.Alive t') :
    t' = t := by
  obtain ⟨job, hjob⟩ := List.exists_mem_of_ne_nil _ hstart
  obtain ⟨u, task, hl, htask, -, hphase⟩ := mem_started hjob
  obtain rfl : t = u := Label.poll.inj hl
  exact alive_unique h ht' ⟨task, htask, by rw [hphase]; rfl⟩

/-- **Callbacks are serialized and in order.** At most one future is alive and
    the channel respects its bound; a callback starts when every other future
    has been dropped; and the callbacks that start form a subsequence of the
    snapshotted jobs, which are ordered by the number of their sample and then
    by their place in the table. -/
theorem callbacks_serialized (h : InitRun (router env) tr s) :
    (∀ t t', s.Alive t → s.Alive t' → t = t') ∧
    s.queue.length ≤ env.config.dispatchCapacity ∧
    (∀ s' t t', (s', Label.poll t) ∈ tr → started s' (.poll t) ≠ [] → s'.Alive t' → t' = t) ∧
    (observe started tr).Sublist (observe (snapshotted env) tr) ∧
    (observe (snapshotted env) tr).Pairwise Job.before ∧
    (observe took tr).map Prod.snd = List.range s.taken ∧
    s.registry.entries.Pairwise (· < ·) := by
  have hr := h.reachable
  refine ⟨fun t t' => alive_unique hr, reachable_capacity hr, ?_, run_started_order h,
    run_snapshotted_before h, run_numbered h, reachable_ascending hr⟩
  intro s' t t' hmem hstart
  exact started_alone (h.reachable_of_mem hmem) hstart

/-- Two listeners of one topic get two messages; the second one of them
    unregisters while the first callback runs. -/
def serializedRun : List TopicLabel :=
  [.enter .external (.register ⟨7⟩ none 0), .advance 0,
   .enter .external (.register ⟨7⟩ none 1), .advance 1,
   .poller, .take (.ok [some ("peer", 7), some ("peer", 7)]),
   .poller, .poller, .poller, .poller, .poller, .poller, .poller,
   .dispatcher, .dispatcher, .dispatcher, .poll 0, .suspend 0,
   .enter .external (.unregister ⟨7⟩ none 1), .advance 2, .advance 2,
   .poll 0, .finish 0 true, .release 0, .complete 0,
   .dispatcher, .dispatcher, .dispatcher, .dispatcher, .dispatcher, .dispatcher,
   .dispatcher, .dispatcher, .dispatcher,
   .dispatcher, .dispatcher, .dispatcher, .poll 1]

theorem callbacks_serialized_run :
    ∃ tr s, InitRun topicRouter tr s ∧
      (observe started tr).map (fun job => (job.sample, job.reg)) = [(0, 0), (1, 0)] ∧
      (observe started tr).Sublist (observe (snapshotted (topicEnv 4 2)) tr) := by
  obtain ⟨tr, s, hexec, hstarted⟩ : ∃ tr s,
      exec (State.next (topicEnv 4 2)) State.start serializedRun = some (tr, s) ∧
        (observe started tr).map (fun job => (job.sample, job.reg)) = [(0, 0), (1, 0)] :=
    ⟨_, _, rfl, rfl⟩
  have hrun := initRun_of_exec hexec
  exact ⟨tr, s, hrun, hstarted, (callbacks_serialized hrun).2.2.2.1⟩

end serialized

end UpTransportDds
