import UpTransportDds.Router.Order
import UpTransportDds.Runtime.Snapshot

/-! # Delivery accounting

  Every (sample, registration) pair of a snapshot is at every moment in
  exactly one place, and the counters of `DdsHealth` tell how many samples
  and jobs did not get through.
-/

namespace UpTransportDds

open LTS

variable {UUri Listener Sample Message : Type}

/-! ### The fates of a job -/

/-- Where a snapshotted job can be. -/
inductive Fate where
  | toSubmit
  | rejected
  | queued
  | skipped
  | running
  | ended
  deriving DecidableEq, Repr

/-- All fates. -/
def Fate.all : List Fate := [.toSubmit, .rejected, .queued, .skipped, .running, .ended]

theorem Fate.mem_all (fate : Fate) : fate ∈ Fate.all := by
  cases fate <;> decide

/-- The jobs of each fate, after the run `tr` to `s`. A job runs from its
    receipt to the end of its future. -/
def Fate.jobs (tr : Trace (State UUri Listener Sample Message) (Label UUri Listener Sample))
    (s : State UUri Listener Sample Message) : Fate → List (Job Message)
  | .toSubmit => s.poller.toSubmit
  | .rejected => observe UpTransportDds.rejected tr
  | .queued => s.queue
  | .skipped => observe UpTransportDds.skipped tr
  | .running => s.dispatcher.job.toList
  | .ended => observe UpTransportDds.ended tr

/-! ### The error history of a run -/

/-- What the step reports to `DdsHealth`. -/
def recorded (env : Env UUri Sample Message) (s : State UUri Listener Sample Message) :
    Label UUri Listener Sample → List (HealthErrorKind × String)
  | .poller =>
    match s.poller with
    | .batch ((some sample, _) :: _) =>
      match env.carriage.receive env.config.toDdsConfig sample with
      | .malformed detail => [(.malformedSample, detail)]
      | _ => []
    | .rejecting detail _ _ _ _ _ => [(.dispatchBackpressure, detail)]
    | _ => []
  | .take (.error error) =>
    match s.poller with
    | .taking =>
      if error.kind = .noData then []
      else [(.dds, env.carriage.name ++ " reader take: " ++ error.text)]
    | _ => []
  | .dispatcher =>
    match s.dispatcher with
    | .counting => [(.callbackPanic, "listener callback panicked")]
    | .caught => [(.callbackPanic, "listener callback panicked")]
    | _ => []
  | .drop =>
    match s.drop, s.poller with
    | .joiningPoller, .panicked _ _ =>
      [(.workerPanic, env.carriage.name ++ " poller" ++ " thread panicked")]
    | _, _ => []
  | .deleted (some error) =>
    match s.drop with
    | .deletingContained =>
      [(.teardown, "delete " ++ env.carriage.name ++ " contained entities" ++ ": " ++ error.text)]
    | .deletingParticipant =>
      [(.teardown, "delete " ++ env.carriage.name ++ " participant" ++ ": " ++ error.text)]
    | _ => []
  | _ => []

section health
variable [DecidableEq UUri] [UriMatches UUri] [DecidableEq Listener]
variable {env : Env UUri Sample Message} {s s' : State UUri Listener Sample Message}
  {l : Label UUri Listener Sample}
  {tr : Trace (State UUri Listener Sample Message) (Label UUri Listener Sample)}

theorem health_step (h : Step env s l s') :
    s'.health = s.health.recordAll (recorded env s l) := by
  cases h with
  | deleteContained error hpc =>
    cases error <;> simp [recorded, HealthState.recordAll, State.recordTeardown, hpc]
  | deleteParticipant error hpc =>
    cases error <;> simp [recorded, HealthState.recordAll, State.recordTeardown, hpc]
  | pollerPanic hpc => rfl
  | _ => simp [recorded, HealthState.recordAll, joinWorker, *]

/-- The health is the sum of what the steps reported. -/
theorem run_health (h : InitRun (router env) tr s) :
    s.health = HealthState.recordAll {} (observe (recorded env) tr) := by
  refine run_invariant
    (P := fun tr s => s.health = HealthState.recordAll {} (observe (recorded env) tr)) ?_ ?_ h
  · intro s hs
    rw [hs]
    rfl
  · intro tr s l s' _ hi hstep
    rw [health_step (Step.of_next hstep), hi, observe_append, observe_single]
    exact List.foldl_append.symm

/-- A snapshot taken now reports what the threads have reported so far. -/
theorem run_snapshot (h : InitRun (router env) tr s) :
    s.health.snapshot.Reports (observe (recorded env) tr) := by
  rw [run_health h]
  exact snapshot_recordAll

end health

/-! ### Counting samples and jobs -/

/-- A sample of another transport that does not decode. -/
def isMalformed (env : Env UUri Sample Message) : Taken Sample → Bool
  | (some sample, _) =>
    match env.carriage.receive env.config.toDdsConfig sample with
    | .malformed _ => true
    | _ => false
  | (none, _) => false

section counters
variable [DecidableEq UUri] [UriMatches UUri] [DecidableEq Listener]
variable {env : Env UUri Sample Message} {s s' : State UUri Listener Sample Message}
  {l : Label UUri Listener Sample}
  {tr : Trace (State UUri Listener Sample Message) (Label UUri Listener Sample)}

theorem malformed_step (h : Step env s l s') :
    (recorded env s l).countP (fun error => error.1 = .malformedSample) =
      ((handled s l).filter (isMalformed env)).length := by
  cases h with
  | deleteContained error hpc => cases error <;> simp [recorded, handled, handledIn, hpc]
  | deleteParticipant error hpc => cases error <;> simp [recorded, handled, handledIn, hpc]
  | pollerPanic hpc => rfl
  | _ => simp [recorded, handled, handledIn, isMalformed, *]

theorem drops_step (hi : RefusedFull s.poller) (h : Step env s l s') :
    (recorded env s l).countP (fun error => error.1 = .dispatchBackpressure) =
      (rejected s l).length := by
  cases h with
  | deleteContained error hpc => cases error <;> simp [recorded, rejected, hpc]
  | deleteParticipant error hpc => cases error <;> simp [recorded, rejected, hpc]
  | pollerPanic hpc => rfl
  | @reject detail _ _ _ _ _ hpc =>
    have hfull : detail = "callback queue is full" := by
      rw [hpc] at hi
      exact hi
    simp [recorded, rejected, hpc, hfull]
  | _ => simp [recorded, rejected, *]

/-- `malformed_samples` counts the malformed samples handled so far. -/
theorem run_malformed (h : InitRun (router env) tr s) :
    s.health.malformedSamples = ((observe handled tr).filter (isMalformed env)).length := by
  have hcount := observe_count (fun s => s.health.malformedSamples)
    (fun s l => (handled s l).filter (isMalformed env)) ?_ ?_ h
  · rw [hcount]
    simp only [observe, List.filter_flatMap]
  · intro s hs
    rw [hs]
    rfl
  · intro s l s' _ hstep
    have hrule := Step.of_next hstep
    have hcounter := s.health.counter_recordAll (recorded env s l) .malformedSample
    rw [← health_step hrule, malformed_step hrule] at hcounter
    exact hcounter

/-- `dispatch_drops` counts the jobs the full queue has rejected so far. -/
theorem run_drops (h : InitRun (router env) tr s) :
    s.health.dispatchDrops = (observe rejected tr).length := by
  refine observe_count (fun s => s.health.dispatchDrops) rejected ?_ ?_ h
  · intro s hs
    rw [hs]
    rfl
  · intro s l s' hr hstep
    have hrule := Step.of_next hstep
    have hcounter := s.health.counter_recordAll (recorded env s l) .dispatchBackpressure
    rw [← health_step hrule, drops_step (reachable_refusedFull hr) hrule] at hcounter
    exact hcounter

end counters

/-! ### The jobs of a sample -/

/-- What identifies a job: the sample and the registration. -/
def Job.pair (job : Job Message) : Nat × RegId := (job.sample, job.reg)

theorem Job.pair_ne_of_before {job job' : Job Message} (h : job.before job') :
    job.pair ≠ job'.pair := by
  intro heq
  have hsample : job.sample = job'.sample := congrArg Prod.fst heq
  have hreg : job.reg = job'.reg := congrArg Prod.snd heq
  rcases h with hlt | ⟨_, hlt⟩
  · exact Nat.ne_of_lt hlt hsample
  · exact Nat.ne_of_lt hlt hreg

/-- Samples with other numbers contribute nothing. -/
theorem filter_jobsFor_nil [UriMatches UUri] {env : Env UUri Sample Message}
    {xs : List (Taken Sample × Registry UUri Listener)} {k : Nat} (h : ∀ x ∈ xs, x.1.2 ≠ k) :
    (xs.flatMap (jobsFor env)).filter (fun job => job.sample = k) = [] := by
  rw [List.filter_eq_nil_iff]
  intro job hjob
  obtain ⟨x, hx, hjob⟩ := List.mem_flatMap.mp hjob
  rw [sample_jobsFor hjob]
  simpa using h x hx

/-- A snapshotted job stems from an accepted sample. -/
theorem accepted_of_snapshotted [UriMatches UUri] {env : Env UUri Sample Message}
    {tr : Trace (State UUri Listener Sample Message) (Label UUri Listener Sample)}
    {job : Job Message}
    (hjob : job ∈ observe (snapshotted env) tr) :
    ∃ sample registry, ((some sample, job.sample), registry) ∈ observe handledIn tr ∧
      env.carriage.receive env.config.toDdsConfig sample = .accepted job.message := by
  rw [observe_snapshotted] at hjob
  obtain ⟨⟨⟨data, k⟩, registry⟩, hx, hjob⟩ := List.mem_flatMap.mp hjob
  obtain rfl : job.sample = k := sample_jobsFor hjob
  cases data with
  | none => exact absurd hjob List.not_mem_nil
  | some sample =>
    refine ⟨sample, registry, hx, ?_⟩
    simp only [jobsFor] at hjob
    split at hjob
    · rename_i message hacc
      obtain ⟨r, _, hr⟩ := List.mem_map.mp hjob
      rw [hacc, ← hr]
    · exact absurd hjob List.not_mem_nil

section jobs
variable [DecidableEq UUri] [UriMatches UUri] [DecidableEq Listener]
variable {env : Env UUri Sample Message} {s s' : State UUri Listener Sample Message}
  {l : Label UUri Listener Sample}
  {tr : Trace (State UUri Listener Sample Message) (Label UUri Listener Sample)}

/-- The jobs that carry the number of a sample are the jobs it gave rise to
    when it was handled. -/
theorem run_jobs_of_sample (h : InitRun (router env) tr s)
    {x : Taken Sample × Registry UUri Listener} (hx : x ∈ observe handledIn tr) :
    (observe (snapshotted env) tr).filter (fun job => job.sample = x.1.2) = jobsFor env x := by
  have hascending := run_handled_ascending h
  rw [observe_snapshotted]
  obtain ⟨before, after, heq⟩ := List.append_of_mem hx
  rw [heq] at hascending ⊢
  obtain ⟨_, hafter, hbefore⟩ := List.pairwise_append.mp hascending
  have hnone : ∀ y ∈ before, y.1.2 ≠ x.1.2 :=
    fun y hy => Nat.ne_of_lt (hbefore y hy x List.mem_cons_self)
  have hnone' : ∀ y ∈ after, y.1.2 ≠ x.1.2 :=
    fun y hy => Nat.ne_of_gt ((List.pairwise_cons.mp hafter).1 y hy)
  have hown : (jobsFor env x).filter (fun job => job.sample = x.1.2) = jobsFor env x := by
    rw [List.filter_eq_self]
    intro job hjob
    simpa using sample_jobsFor hjob
  rw [List.flatMap_append, List.flatMap_cons, List.filter_append, List.filter_append,
    filter_jobsFor_nil hnone, filter_jobsFor_nil hnone', hown, List.nil_append, List.append_nil]

/-- No (sample, registration) pair is snapshotted twice. -/
theorem run_pairs_nodup (h : InitRun (router env) tr s) :
    ((observe (snapshotted env) tr).map Job.pair).Nodup := by
  rw [List.Nodup, List.pairwise_map]
  exact (run_snapshotted_before h).imp fun hbefore => Job.pair_ne_of_before hbefore

/-- The jobs snapshotted are spread over the fates. -/
theorem run_fates (h : InitRun (router env) tr s) :
    (observe (snapshotted env) tr).Perm (Fate.all.flatMap (Fate.jobs tr s)) := by
  classical
  have hfanout := run_fanout h
  have hdispatcher := run_dispatcher h
  rw [run_channel h] at hfanout
  rw [List.perm_iff_count] at hfanout hdispatcher ⊢
  intro job
  have hjob := hfanout job
  have hjob' := hdispatcher job
  simp only [List.count_append] at hjob hjob'
  simp only [Fate.all, Fate.jobs, List.flatMap_cons, List.flatMap_nil, List.count_append,
    List.count_nil]
  omega

end jobs

/-! ### The balance of a run -/

/-- The account of a run `tr` to `s`. -/
structure Accounted [DecidableEq UUri] [UriMatches UUri] [DecidableEq Listener]
    (env : Env UUri Sample Message)
    (tr : Trace (State UUri Listener Sample Message) (Label UUri Listener Sample))
    (s : State UUri Listener Sample Message) : Prop where
  /-- Taken samples are numbered and handled one by one, in order. -/
  taken : observe took tr = observe handled tr ++ s.poller.unhandled
  numbered : (observe took tr).map Prod.snd = List.range s.taken
  /-- An accepted sample has one job for each entry of the table that matches
      its source and sink at that moment. -/
  accepted : ∀ sample k registry message,
    ((some sample, k), registry) ∈ observe handledIn tr →
    env.carriage.receive env.config.toDdsConfig sample = .accepted message →
    registry.entries.Nodup ∧
    (observe (snapshotted env) tr).filter (fun job => job.sample = k) =
      (registry.entries.filter (registry.accepts (env.carriage.source message)
        (env.carriage.sink message))).map (⟨k, ·, message⟩)
  /-- A sample of the transport's own or a malformed one has no job. -/
  refused : ∀ sample k registry, ((some sample, k), registry) ∈ observe handledIn tr →
    (∀ message, env.carriage.receive env.config.toDdsConfig sample ≠ .accepted message) →
    (observe (snapshotted env) tr).filter (fun job => job.sample = k) = []
  /-- Handling a sample reports nothing unless it is malformed. -/
  handling : ∀ t t' sample k rest, (t, Label.poller) ∈ tr →
    t.poller = .batch ((some sample, k) :: rest) → (router env).step t .poller t' →
    t'.health = match env.carriage.receive env.config.toDdsConfig sample with
      | .malformed detail => t.health.record .malformedSample detail
      | _ => t.health
  malformed : s.health.malformedSamples = ((observe handled tr).filter (isMalformed env)).length
  drops : s.health.dispatchDrops = (observe rejected tr).length
  /-- Pairs are not duplicated, and each is in exactly one place. -/
  pairs : ((observe (snapshotted env) tr).map Job.pair).Nodup
  conserved : (observe (snapshotted env) tr).Perm (Fate.all.flatMap (Fate.jobs tr s))
  fate : ∀ job ∈ observe (snapshotted env) tr, ∃! fate, job ∈ Fate.jobs tr s fate
  /-- A listener is called at most once for a sample, with what it decodes
      to. -/
  calledOnce : ((observe started tr).map Job.pair).Nodup
  called : ∀ job ∈ observe started tr, job ∈ observe (snapshotted env) tr ∧
    ∃ sample registry, ((some sample, job.sample), registry) ∈ observe handledIn tr ∧
      env.carriage.receive env.config.toDdsConfig sample = .accepted job.message

section balance
variable [DecidableEq UUri] [UriMatches UUri] [DecidableEq Listener]
variable {env : Env UUri Sample Message} {s s' : State UUri Listener Sample Message}
  {tr : Trace (State UUri Listener Sample Message) (Label UUri Listener Sample)}

/-- What handling a sample does to the health. -/
theorem handling_step {sample : Sample} {k : Nat} {rest : List (Taken Sample)}
    (hpc : s.poller = .batch ((some sample, k) :: rest)) (h : Step env s .poller s') :
    s'.health = match env.carriage.receive env.config.toDdsConfig sample with
      | .malformed detail => s.health.record .malformedSample detail
      | _ => s.health := by
  rw [health_step h]
  simp only [recorded, hpc]
  cases env.carriage.receive env.config.toDdsConfig sample <;> rfl

theorem registry_handledIn (h : InitRun (router env) tr s)
    {x : Taken Sample × Registry UUri Listener} (hx : x ∈ observe handledIn tr) :
    x.2.Ascending := by
  obtain ⟨⟨t, l⟩, hmem, hx⟩ := mem_observe.mp hx
  rw [registry_of_handledIn hx]
  exact reachable_ascending (h.reachable_of_mem hmem)

/-- **Delivery accounting**: nothing is lost silently and nothing is
    duplicated. -/
theorem delivery_accounting (h : InitRun (router env) tr s) : Accounted env tr s where
  taken := run_batch h
  numbered := run_numbered h
  accepted := by
    intro sample k registry message hx hacc
    refine ⟨(registry_handledIn h hx).imp Nat.ne_of_lt, ?_⟩
    rw [run_jobs_of_sample h hx]
    simp only [jobsFor, hacc, jobsOf, Registry.matching]
  refused := by
    intro sample k registry hx hno
    rw [run_jobs_of_sample h hx]
    simp only [jobsFor]
  handling := by
    intro t t' sample k rest _ hpc hstep
    exact handling_step hpc (Step.of_next hstep)
  malformed := run_malformed h
  drops := run_drops h
  pairs := run_pairs_nodup h
  conserved := run_fates h
  fate := by
    intro job hjob
    exact existsUnique_place Fate.mem_all (run_fates h) (run_pairs_nodup h).of_map hjob
  calledOnce := (run_pairs_nodup h).sublist ((run_started_order h).map Job.pair)
  called := by
    intro job hjob
    have hsnap := (run_started_order h).subset hjob
    exact ⟨hsnap, accepted_of_snapshotted hsnap⟩

/-- Two listeners, a channel for one job, and a batch with a malformed sample
    and one of the transport's own. -/
def accountedRun : List TopicLabel :=
  [.enter .external (.register ⟨7⟩ none 0), .advance 0,
   .enter .external (.register ⟨7⟩ none 1), .advance 1,
   .poller, .take (.ok [some ("peer", 0), some ("self", 0), none, some ("peer", 7)]),
   .poller, .poller, .poller, .poller, .poller, .poller, .poller,
   .dispatcher, .dispatcher, .dispatcher, .poll 0]

theorem delivery_accounting_run :
    ∃ (tr : Trace TopicState TopicLabel) (s : TopicState), InitRun (router (topicEnv 1 2)) tr s ∧
      s.health.malformedSamples = 1 ∧ s.health.dispatchDrops = 1 ∧
      (Fate.jobs tr s .rejected).length = 1 ∧ (Fate.jobs tr s .running).length = 1 ∧
      ∀ job ∈ observe (snapshotted (topicEnv 1 2)) tr,
        ∃! fate, job ∈ Fate.jobs tr s fate := by
  obtain ⟨tr, s, hexec, hmalformed, hdrops, hrejected, hrunning⟩ : ∃ tr s,
      exec (State.next (topicEnv 1 2)) State.start accountedRun = some (tr, s) ∧
        s.health.malformedSamples = 1 ∧ s.health.dispatchDrops = 1 ∧
        (Fate.jobs tr s .rejected).length = 1 ∧ (Fate.jobs tr s .running).length = 1 :=
    ⟨_, _, rfl, rfl, rfl, rfl, rfl⟩
  have hrun := initRun_of_exec hexec
  exact ⟨tr, s, hrun, hmalformed, hdrops, hrejected, hrunning, (delivery_accounting hrun).fate⟩

end balance

end UpTransportDds
