import UpTransportDds.Carriage.Fleet
import UpTransportDds.Framework.Flow

/-! # Construction and teardown

  `with_config` creates a participant in the `DomainParticipantFactory`, five
  entities in it and two threads, and returns a transport that owns them. Each
  of these steps can fail. The first failure is returned with `?`, and the
  channel to the dispatcher panics on a capacity that it cannot allocate; there
  is no cleanup on the way, since only `Drop` of a finished transport deletes
  its participant. Nor does `Drop` get that far when it runs on one of the two
  threads that it joins.

  A participant lives in the factory from a successful `create_participant`
  until it is deleted. Dropping a handle deletes nothing.
-/

namespace UpTransportDds

open LTS

/-! ### What the families differ in -/

def Family.name : Family → String
  | .classic => "classic"
  | .owned => "owned"
  | .zeroCopy => "zero-copy"

/-- `CLASSIC_TOPIC_V1`, `OWNED_TOPIC_V1`, `ZERO_COPY_TOPIC_V1`. -/
def Family.topic : Family → String
  | .classic => "uprotocol.classic.v1"
  | .owned => "uprotocol.owned.v1"
  | .zeroCopy => "uprotocol.zero-copy.v1"

/-- `CLASSIC_TYPE_V1`, `OWNED_TYPE_V1`, `ZERO_COPY_TYPE_V1`. -/
def Family.typeName : Family → String
  | .classic => "UpDdsClassicSampleV1"
  | .owned => "UpDdsOwnedSampleV1"
  | .zeroCopy => "UpDdsZeroCopySampleV1"

/-! ### The factory and the threads -/

abbrev ParticipantId := Nat

/-- An entity of a participant. -/
inductive Entity where
  | topic (name typeName : String)
  | publisher
  | writer (qos : DdsQos)
  | subscriber
  | reader (qos : DdsQos)
  deriving DecidableEq, Repr

/-- The word for the entity in error texts. -/
def Entity.kind : Entity → String
  | .topic _ _ => "topic"
  | .publisher => "publisher"
  | .writer _ => "writer"
  | .subscriber => "subscriber"
  | .reader _ => "reader"

structure Participant where
  id : ParticipantId
  domainId : Int
  entities : List Entity
  deriving DecidableEq, Repr

inductive WorkerKind where
  | poller
  | dispatcher
  deriving DecidableEq, Repr

/-- A live worker thread, spawned for the transport of a participant. -/
structure Worker where
  participant : ParticipantId
  kind : WorkerKind
  deriving DecidableEq, Repr

/-- A transport that `with_config` has returned. -/
structure OwnedTransport where
  family : Family
  config : DdsConfig
  participant : ParticipantId
  deriving DecidableEq, Repr

/-- A process that uses the factory. -/
structure Factory where
  /-- The next participant gets this id. -/
  nextId : ParticipantId
  /-- The participants alive in the `DomainParticipantFactory`. -/
  participants : List Participant
  workers : List Worker
  /-- The transports that are alive. -/
  transports : List OwnedTransport
  deriving DecidableEq, Repr

namespace Factory

def start : Factory := ⟨0, [], [], []⟩

def addParticipant (s : Factory) (domainId : Int) : Factory :=
  { s with nextId := s.nextId + 1, participants := s.participants ++ [⟨s.nextId, domainId, []⟩] }

def addEntity (s : Factory) (p : ParticipantId) (entity : Entity) : Factory :=
  { s with participants := s.participants.map fun participant =>
      if participant.id = p then
        { participant with entities := participant.entities ++ [entity] }
      else
        participant }

def addWorker (s : Factory) (worker : Worker) : Factory :=
  { s with workers := s.workers ++ [worker] }

/-- `delete_contained_entities` of a live participant. -/
def deleteContained (s : Factory) (p : ParticipantId) : Factory :=
  { s with participants := s.participants.map fun participant =>
      if participant.id = p then { participant with entities := [] } else participant }

/-- `delete_participant`. It refuses a participant that has entities left. -/
def deleteParticipant (s : Factory) (p : ParticipantId) : Factory :=
  { s with participants :=
      s.participants.filter fun participant => participant.id ≠ p || participant.entities ≠ [] }

end Factory

/-! ### `with_config` -/

/-- What fails in a call of `with_config`, if it gets that far. -/
structure Faults where
  participant : Option DdsError := none
  topic : Option DdsError := none
  publisher : Option DdsError := none
  writer : Option DdsError := none
  subscriber : Option DdsError := none
  reader : Option DdsError := none
  /-- The `io::Error` of spawning the dispatcher, printed. -/
  dispatcher : Option String := none
  /-- The `io::Error` of spawning the poller, printed. -/
  poller : Option String := none
  deriving DecidableEq, Repr

/-- How a call of `with_config` fails: it returns an error, or it panics. -/
inductive Failure where
  | error (status : UStatus)
  | panic (message : String)
  deriving DecidableEq, Repr

/-- A computation that may fail half-way and leave something behind. A panic
    unwinds through `with_config`, which drops its handles as `?` does. -/
abbrev Build (α : Type) := ExceptT Failure (StateM Factory) α

namespace Build

/-- `?` on a result of a call that changes nothing. -/
def check (result : Except UStatus Unit) : Build Unit :=
  match result with
  | .error status => throw (.error status)
  | .ok () => pure ()

def createParticipant (name : String) (domainId : Int) (fault : Option DdsError) :
    Build ParticipantId :=
  match fault with
  | some error => throw (.error (ddsStatus ("create " ++ name ++ " participant") error))
  | none => do
    let s ← get
    set (s.addParticipant domainId)
    return s.nextId

def createEntity (name : String) (p : ParticipantId) (entity : Entity) (fault : Option DdsError) :
    Build Unit :=
  match fault with
  | some error => throw (.error (ddsStatus ("create " ++ name ++ " " ++ entity.kind) error))
  | none => modify (·.addEntity p entity)

/-- The most jobs that a channel can have room for. A slot of its buffer takes a
    stamp and a `Job`, 24 bytes, and the buffer has to fit an `isize`. -/
def maxSlots : Nat := (2 ^ 63 - 1) / 24

/-- `mpsc::sync_channel::<Job>`, which allocates the buffer. -/
def syncChannel (capacity : Nat) : Build Unit :=
  if capacity ≤ maxSlots then pure () else throw (.panic "capacity overflow")

/-- `start_dispatcher`. -/
def startDispatcher (p : ParticipantId) (capacity : Nat) (fault : Option String) :
    Build Unit := do
  syncChannel capacity
  match fault with
  | some error => throw (.error ⟨.resourceExhausted, "spawn callback dispatcher: " ++ error⟩)
  | none => modify (·.addWorker ⟨p, .dispatcher⟩)

/-- Spawning the poller. A failed spawn drops its closure, and with it the
    sender of the dispatch channel. -/
def startPoller (name : String) (p : ParticipantId) (fault : Option String) : Build Unit :=
  match fault with
  | some error => throw (.error ⟨.resourceExhausted, "spawn " ++ name ++ " poller: " ++ error⟩)
  | none => modify (·.addWorker ⟨p, .poller⟩)

/-- `with_config` of the three families. -/
def withConfig (family : Family) (config : DdsConfig) (faults : Faults) : Build OwnedTransport := do
  check config.validate
  let participant ← createParticipant family.name config.domainId faults.participant
  createEntity family.name participant (.topic family.topic family.typeName) faults.topic
  createEntity family.name participant .publisher faults.publisher
  createEntity family.name participant (.writer config.qos) faults.writer
  createEntity family.name participant .subscriber faults.subscriber
  createEntity family.name participant (.reader config.qos) faults.reader
  startDispatcher participant config.dispatchCapacity faults.dispatcher
  startPoller family.name participant faults.poller
  return ⟨family, config, participant⟩

end Build

/-! ### Operations -/

inductive FactoryLabel where
  | withConfig (family : Family) (config : DdsConfig) (faults : Faults)
  /-- Transport `i` is dropped, and `Drop` returns. -/
  | drop (i : Nat)
  /-- Transport `i` is dropped on its own poller or dispatcher thread. The last
      owner of it may be a listener that goes with a queued job. -/
  | dropOnWorker (i : Nat) (kind : WorkerKind)
  /-- Worker `i` ends by itself: a poller panics, or a dispatcher finds that
      its sender is gone. -/
  | workerEnds (i : Nat)

namespace Factory

/-- Has the poller of `p` ended, and dropped the sender of the channel? -/
def senderGone (s : Factory) (p : ParticipantId) : Prop := ⟨p, .poller⟩ ∉ s.workers

instance (s : Factory) (p : ParticipantId) : Decidable (s.senderGone p) :=
  inferInstanceAs (Decidable (_ ∉ s.workers))

/-- What `Drop` does: it joins both workers and deletes the participant with
    its entities. -/
def teardown (s : Factory) (p : ParticipantId) : Factory :=
  ({ s with workers := s.workers.filter (·.participant ≠ p) }.deleteContained p).deleteParticipant p

/-- What `Drop` does on a worker thread of its own transport: `join_worker`
    panics where it comes to the thread that it runs on, before anything has
    been deleted. On the dispatcher thread it has joined the poller by then. -/
def joinSelf (s : Factory) (p : ParticipantId) : WorkerKind → Factory
  | .poller => s
  | .dispatcher => { s with workers := s.workers.filter (· ≠ ⟨p, .poller⟩) }

/-- A call of `with_config`; a transport that it returns is alive from then
    on. -/
def construct (s : Factory) (family : Family) (config : DdsConfig) (faults : Faults) :
    Except Failure OwnedTransport × Factory :=
  match (Build.withConfig family config faults).run s with
  | (.ok transport, s) => (.ok transport, { s with transports := s.transports ++ [transport] })
  | (.error failure, s) => (.error failure, s)

def next (s : Factory) : FactoryLabel → Option Factory
  | .withConfig family config faults => some (s.construct family config faults).2
  | .drop i =>
    match s.transports[i]? with
    | some transport =>
      some ({ s with transports := s.transports.eraseIdx i }.teardown transport.participant)
    | none => none
  | .dropOnWorker i kind =>
    match s.transports[i]? with
    | some transport =>
      if ⟨transport.participant, kind⟩ ∈ s.workers then
        some ({ s with transports := s.transports.eraseIdx i }.joinSelf transport.participant kind)
      else
        none
    | none => none
  | .workerEnds i =>
    match s.workers[i]? with
    | some worker =>
      if worker.kind = .poller ∨ s.senderGone worker.participant then
        some { s with workers := s.workers.eraseIdx i }
      else
        none
    | none => none

end Factory

/-- Any sequence of constructions and drops in a process. -/
def factory : System Factory FactoryLabel := ofNext (· = Factory.start) Factory.next

/-! ### What is left behind -/

/-- A call of `with_config` that fails once its participant exists. -/
def Leaky (config : DdsConfig) (faults : Faults) : Prop :=
  config.validate = .ok () ∧ faults.participant = none ∧
    ¬ (faults.topic = none ∧ faults.publisher = none ∧ faults.writer = none ∧
      faults.subscriber = none ∧ faults.reader = none ∧
      config.dispatchCapacity ≤ Build.maxSlots ∧ faults.dispatcher = none ∧ faults.poller = none)

instance (config : DdsConfig) (faults : Faults) : Decidable (Leaky config faults) :=
  inferInstanceAs (Decidable (_ ∧ _ ∧ ¬ _))

def FactoryLabel.Leaky : FactoryLabel → Prop
  | .withConfig _ config faults => UpTransportDds.Leaky config faults
  | .dropOnWorker _ _ => True
  | _ => False

namespace Factory

/-- The participants alive, by id. -/
def ids (s : Factory) : List ParticipantId := s.participants.map Participant.id

/-- The participants that the live transports own. -/
def owned (s : Factory) : List ParticipantId := s.transports.map OwnedTransport.participant

/-- Only entities and these workers have come in addition. -/
structure Grows (s s' : Factory) (workers : List Worker) : Prop where
  nextId : s'.nextId = s.nextId
  ids : s'.ids = s.ids
  workers : s'.workers = s.workers ++ workers
  transports : s'.transports = s.transports

section growth
variable {s s' s'' : Factory} {workers workers' : List Worker}

theorem Grows.refl (s : Factory) : s.Grows s [] := ⟨rfl, rfl, (List.append_nil _).symm, rfl⟩

theorem Grows.trans (h : s.Grows s' workers) (h' : s'.Grows s'' workers') :
    s.Grows s'' (workers ++ workers') where
  nextId := h'.nextId.trans h.nextId
  ids := h'.ids.trans h.ids
  workers := by rw [h'.workers, h.workers, List.append_assoc]
  transports := h'.transports.trans h.transports

theorem ids_map (participants : List Participant) (p : ParticipantId)
    (f : Participant → Participant) (hf : ∀ participant, (f participant).id = participant.id) :
    (participants.map fun participant => if participant.id = p then f participant
      else participant).map Participant.id = participants.map Participant.id := by
  rw [List.map_map]
  apply List.map_congr_left
  intro participant _
  simp only [Function.comp]
  split
  · exact hf participant
  · rfl

theorem grows_addEntity (p : ParticipantId) (entity : Entity) : s.Grows (s.addEntity p entity) [] :=
  ⟨rfl, ids_map _ _ _ fun _ => rfl, (List.append_nil _).symm, rfl⟩

theorem grows_addWorker (worker : Worker) : s.Grows (s.addWorker worker) [worker] :=
  ⟨rfl, rfl, rfl, rfl⟩

end growth

/-- What a call of `with_config` returns and leaves behind. -/
inductive Constructed (s : Factory) (family : Family) (config : DdsConfig) (faults : Faults) :
    Except Failure OwnedTransport → Factory → Prop where
  | refused (failure : Failure)
      (hrefused : ¬ (config.validate = .ok () ∧ faults.participant = none)) :
      Constructed s family config faults (.error failure) s
  | leaked (failure : Failure) {s' : Factory} {workers : List Worker}
      (hleaky : Leaky config faults)
      (hgrows : (s.addParticipant config.domainId).Grows s' workers)
      (hworkers : workers <+: [⟨s.nextId, .dispatcher⟩]) :
      Constructed s family config faults (.error failure) s'
  | built {s' : Factory} (hclean : ¬ Leaky config faults)
      (hgrows : (s.addParticipant config.domainId).Grows s'
        [⟨s.nextId, .dispatcher⟩, ⟨s.nextId, .poller⟩]) :
      Constructed s family config faults (.ok ⟨family, config, s.nextId⟩) s'

end Factory

section construction
variable {s : Factory} {family : Family} {config : DdsConfig} {faults : Faults}

open Factory in
theorem Build.withConfig_run : s.Constructed family config faults
    ((Build.withConfig family config faults).run s).1
    ((Build.withConfig family config faults).run s).2 := by
  obtain ⟨participant, topic, publisher, writer, subscriber, reader, dispatcher, poller⟩ := faults
  cases hvalid : config.validate with
  | error status =>
    simp only [Build.withConfig, hvalid]
    exact .refused _ (by simp [hvalid])
  | ok _ =>
    simp only [Build.withConfig, hvalid]
    cases participant
    case some error => exact .refused _ (by simp)
    -- from here on, the participant is there
    have h₀ := Grows.refl (s.addParticipant config.domainId)
    cases topic
    case some error => exact .leaked _ ⟨hvalid, rfl, by simp⟩ h₀ List.nil_prefix
    have h₁ := h₀.trans (grows_addEntity s.nextId (.topic family.topic family.typeName))
    cases publisher
    case some error => exact .leaked _ ⟨hvalid, rfl, by simp⟩ h₁ List.nil_prefix
    have h₂ := h₁.trans (grows_addEntity s.nextId .publisher)
    cases writer
    case some error => exact .leaked _ ⟨hvalid, rfl, by simp⟩ h₂ List.nil_prefix
    have h₃ := h₂.trans (grows_addEntity s.nextId (.writer config.qos))
    cases subscriber
    case some error => exact .leaked _ ⟨hvalid, rfl, by simp⟩ h₃ List.nil_prefix
    have h₄ := h₃.trans (grows_addEntity s.nextId .subscriber)
    cases reader
    case some error => exact .leaked _ ⟨hvalid, rfl, by simp⟩ h₄ List.nil_prefix
    have h₅ := h₄.trans (grows_addEntity s.nextId (.reader config.qos))
    by_cases hslots : config.dispatchCapacity ≤ Build.maxSlots
    case neg =>
      simp only [Build.startDispatcher, Build.syncChannel, if_neg hslots]
      exact .leaked _ ⟨hvalid, rfl, by simp [hslots]⟩ h₅ List.nil_prefix
    simp only [Build.startDispatcher, Build.syncChannel, if_pos hslots]
    cases dispatcher
    case some error => exact .leaked _ ⟨hvalid, rfl, by simp⟩ h₅ List.nil_prefix
    have h₆ := h₅.trans (grows_addWorker ⟨s.nextId, .dispatcher⟩)
    cases poller
    case some error => exact .leaked _ ⟨hvalid, rfl, by simp⟩ h₆ (List.prefix_refl _)
    have h₇ := h₆.trans (grows_addWorker ⟨s.nextId, .poller⟩)
    exact .built (by simp [Leaky, hslots]) h₇

end construction

/-! ### Steps -/

/-- The participants that a step leaks. -/
def leaked (s : Factory) : FactoryLabel → List ParticipantId
  | .withConfig _ config faults => if Leaky config faults then [s.nextId] else []
  | .dropOnWorker i _ => (s.transports[i]?.map OwnedTransport.participant).toList
  | _ => []

namespace Factory

/-- The transitions of a process that uses the factory. -/
inductive Step (s : Factory) : FactoryLabel → Factory → Prop where
  | refused (family : Family) (config : DdsConfig) (faults : Faults)
      (hrefused : ¬ (config.validate = .ok () ∧ faults.participant = none)) :
      Step s (.withConfig family config faults) s
  | leaked (family : Family) (config : DdsConfig) (faults : Faults) {s' : Factory}
      {workers : List Worker} (hleaky : Leaky config faults)
      (hgrows : (s.addParticipant config.domainId).Grows s' workers)
      (hworkers : workers <+: [⟨s.nextId, .dispatcher⟩]) :
      Step s (.withConfig family config faults) s'
  | built (family : Family) (config : DdsConfig) (faults : Faults) {s' : Factory}
      (hclean : ¬ Leaky config faults)
      (hgrows : (s.addParticipant config.domainId).Grows s'
        [⟨s.nextId, .dispatcher⟩, ⟨s.nextId, .poller⟩]) :
      Step s (.withConfig family config faults)
        { s' with transports := s'.transports ++ [⟨family, config, s.nextId⟩] }
  | drop (i : Nat) {transport : OwnedTransport} (hlive : s.transports[i]? = some transport) :
      Step s (.drop i)
        ({ s with transports := s.transports.eraseIdx i }.teardown transport.participant)
  | dropOnWorker (i : Nat) {kind : WorkerKind} {transport : OwnedTransport}
      (hlive : s.transports[i]? = some transport) {workers : List Worker}
      (hworkers : workers ⊆ s.workers) :
      Step s (.dropOnWorker i kind)
        { s with transports := s.transports.eraseIdx i, workers := workers }
  | workerEnds (i : Nat) {worker : Worker} (hworker : s.workers[i]? = some worker)
      (hends : worker.kind = .poller ∨ s.senderGone worker.participant) :
      Step s (.workerEnds i) { s with workers := s.workers.eraseIdx i }

section steps
variable {s s' : Factory} {l : FactoryLabel}

theorem Step.of_construct (family : Family) (config : DdsConfig) (faults : Faults) :
    Step s (.withConfig family config faults) (s.construct family config faults).2 := by
  have hrun : s.Constructed family config faults
      ((Build.withConfig family config faults).run s).1
      ((Build.withConfig family config faults).run s).2 := Build.withConfig_run
  unfold construct
  generalize (Build.withConfig family config faults).run s = outcome at hrun ⊢
  obtain ⟨result, s'⟩ := outcome
  cases hrun with
  | refused failure hrefused => exact .refused family config faults hrefused
  | leaked failure hleaky hgrows hworkers =>
    exact .leaked family config faults hleaky hgrows hworkers
  | built hclean hgrows => exact .built family config faults hclean hgrows

theorem Step.of_next (h : s.next l = some s') : Step s l s' := by
  cases l with
  | withConfig family config faults =>
    obtain rfl := Option.some.inj h
    exact .of_construct family config faults
  | drop i =>
    simp only [next] at h
    split at h
    · obtain rfl := Option.some.inj h
      exact .drop i ‹_›
    · contradiction
  | dropOnWorker i kind =>
    simp only [next] at h
    split at h
    · split at h
      · obtain rfl := Option.some.inj h
        cases kind with
        | poller => exact .dropOnWorker i ‹_› (List.Subset.refl _)
        | dispatcher => exact .dropOnWorker i ‹_› (List.filter_subset_self _)
      · contradiction
    · contradiction
  | workerEnds i =>
    simp only [next] at h
    split at h
    · split at h
      · obtain rfl := Option.some.inj h
        exact .workerEnds i ‹_› ‹_›
      · contradiction
    · contradiction

@[simp] theorem ids_addParticipant (domainId : Int) :
    (s.addParticipant domainId).ids = s.ids ++ [s.nextId] := by
  simp [ids, addParticipant]

theorem ids_teardown (p : ParticipantId) : (s.teardown p).ids = s.ids.filter (· != p) := by
  simp only [ids, teardown, deleteParticipant, deleteContained, List.filter_map, List.map_map]
  induction s.participants with
  | nil => rfl
  | cons participant rest ih =>
    by_cases hp : participant.id = p
    · simpa [hp] using ih
    · simpa [hp] using ih

/-! ### Ids are fresh -/

/-- Ids are not used twice. -/
structure Fresh (s : Factory) : Prop where
  nodup : s.ids.Nodup
  ids : ∀ p ∈ s.ids, p < s.nextId
  workers : ∀ worker ∈ s.workers, worker.participant < s.nextId

theorem Fresh.addParticipant (h : s.Fresh) (domainId : Int) :
    (s.addParticipant domainId).Fresh where
  nodup := by
    rw [ids_addParticipant, List.nodup_append]
    refine ⟨h.nodup, List.nodup_singleton _, ?_⟩
    intro p hp p' hp'
    rw [List.mem_singleton.mp hp']
    exact Nat.ne_of_lt (h.ids p hp)
  ids := by
    intro p hp
    rw [ids_addParticipant] at hp
    rcases List.mem_append.mp hp with hold | hnew
    · exact Nat.lt_succ_of_lt (h.ids p hold)
    · rw [List.mem_singleton.mp hnew]
      exact Nat.lt_succ_self _
  workers := fun worker hworker => Nat.lt_succ_of_lt (h.workers worker hworker)

theorem Fresh.grows {workers : List Worker} (h : s.Fresh) (hgrows : s.Grows s' workers)
    (hworkers : ∀ worker ∈ workers, worker.participant < s.nextId) : s'.Fresh where
  nodup := hgrows.ids ▸ h.nodup
  ids := by
    rw [hgrows.ids, hgrows.nextId]
    exact h.ids
  workers := by
    rw [hgrows.workers, hgrows.nextId]
    intro worker hworker
    rcases List.mem_append.mp hworker with hold | hnew
    · exact h.workers worker hold
    · exact hworkers worker hnew

theorem Fresh.step (h : s.Fresh) (hstep : Step s l s') : s'.Fresh := by
  cases hstep with
  | refused family config faults hrefused => exact h
  | leaked family config faults hleaky hgrows hworkers =>
    apply (h.addParticipant config.domainId).grows hgrows
    intro worker hworker
    rw [List.mem_singleton.mp (hworkers.subset hworker)]
    exact Nat.lt_succ_self _
  | built family config faults hclean hgrows =>
    have hfresh := (h.addParticipant config.domainId).grows hgrows (by
      intro worker hworker
      rcases List.mem_pair.mp hworker with rfl | rfl <;> exact Nat.lt_succ_self _)
    exact ⟨hfresh.nodup, hfresh.ids, hfresh.workers⟩
  | drop i hlive =>
    refine ⟨?_, ?_, ?_⟩
    · rw [ids_teardown]
      exact h.nodup.filter _
    · intro p hp
      rw [ids_teardown] at hp
      exact h.ids p (List.mem_of_mem_filter hp)
    · intro worker hworker
      exact h.workers worker (List.mem_of_mem_filter hworker)
  | dropOnWorker i hlive hworkers =>
    exact ⟨h.nodup, h.ids, fun worker hmem => h.workers worker (hworkers hmem)⟩
  | workerEnds i hworker hends =>
    exact ⟨h.nodup, h.ids, fun worker hmem => h.workers worker (List.mem_of_mem_eraseIdx hmem)⟩

theorem reachable_fresh (h : Reachable factory s) : s.Fresh := by
  refine invariant ?_ ?_ h
  · rintro s rfl
    exact ⟨List.nodup_nil, by simp [start, Factory.ids], by simp [start]⟩
  · intro s l s' hs hstep
    exact hs.step (.of_next hstep)

/-! ### Who owns what -/

/-- A worker that belongs to a live transport, or a dispatcher that is about to
    end because its sender is gone. -/
def Accounted (s : Factory) (worker : Worker) : Prop :=
  worker.participant ∈ s.owned ∨ worker.kind = .dispatcher ∧ s.senderGone worker.participant

/-- The factory and the threads are as the live transports need them. -/
structure Exact (s : Factory) : Prop where
  participants : s.ids.Perm s.owned
  workers : ∀ worker ∈ s.workers, s.Accounted worker

/-- A worker that is accounted for stays so while others come with a fresh
    participant. -/
theorem Accounted.mono {worker : Worker} (h : s.Accounted worker)
    (howned : ∀ p ∈ s.owned, p ∈ s'.owned)
    (hpollers : ∀ p, ⟨p, .poller⟩ ∈ s'.workers → p ≠ worker.participant ∨
      ⟨p, .poller⟩ ∈ s.workers) : s'.Accounted worker := by
  rcases h with hlive | ⟨hkind, hgone⟩
  · exact .inl (howned _ hlive)
  · refine .inr ⟨hkind, ?_⟩
    intro hpoller
    rcases hpollers _ hpoller with hne | hold
    · exact hne rfl
    · exact hgone hold

theorem accounted_step (hfresh : s.Fresh) (h : ∀ worker ∈ s.workers, s.Accounted worker)
    (hkept : ¬ l.Leaky) (hstep : Step s l s') : ∀ worker ∈ s'.workers, s'.Accounted worker := by
  cases hstep with
  | refused family config faults hrefused => exact h
  | leaked family config faults hleaky hgrows hworkers => exact absurd hleaky hkept
  | dropOnWorker i hlive hworkers => exact absurd trivial hkept
  | @built family config faults s' hclean hgrows =>
    have hmem : ∀ worker ∈ s'.workers, worker ∈ s.workers ∨ worker.participant = s.nextId := by
      intro worker hworker
      rw [hgrows.workers] at hworker
      rcases List.mem_append.mp hworker with hold | hnew
      · exact .inl hold
      · rcases List.mem_pair.mp hnew with rfl | rfl <;> exact .inr rfl
    have howned : owned { s' with transports := s'.transports ++ [⟨family, config, s.nextId⟩] } =
        s.owned ++ [s.nextId] := by
      simp only [owned, hgrows.transports, List.map_append]
      rfl
    intro worker hworker
    rcases hmem worker hworker with hold | hnew
    · apply (h worker hold).mono
      · intro p hp
        rw [howned]
        exact List.mem_append_left _ hp
      · intro p hp
        rcases hmem _ hp with hold' | hnew
        · exact .inr hold'
        · obtain rfl : p = s.nextId := hnew
          exact .inl (Nat.ne_of_gt (hfresh.workers worker hold))
    · left
      rw [howned, hnew]
      exact List.mem_append_right _ List.mem_cons_self
  | @drop i transport hlive =>
    intro worker hworker
    obtain ⟨hold, hother⟩ := List.mem_filter.mp hworker
    rcases h worker hold with howner | ⟨hkind, hgone⟩
    · left
      obtain ⟨transport', hmem, howns⟩ := List.mem_map.mp howner
      refine List.mem_map.mpr ⟨transport', ?_, howns⟩
      rcases List.mem_cons.mp ((perm_eraseIdx hlive).symm.subset hmem) with rfl | hrest
      · exact absurd howns.symm (by simpa using hother)
      · exact hrest
    · exact .inr ⟨hkind, fun hpoller => hgone (List.mem_of_mem_filter hpoller)⟩
  | workerEnds i hworker hends =>
    intro worker hmem
    exact (h worker (List.mem_of_mem_eraseIdx hmem)).mono (fun p hp => hp) fun p hp =>
      .inr (List.mem_of_mem_eraseIdx hp)

theorem reachable_accounted (h : Reachable (factory.restrict fun l => ¬ l.Leaky) s) :
    ∀ worker ∈ s.workers, s.Accounted worker := by
  refine invariant_reachable (P := fun s => ∀ worker ∈ s.workers, s.Accounted worker) ?_ ?_ h
  · rintro s rfl worker hworker
    contradiction
  · rintro s l s' hreach hs ⟨hkept, hstep⟩
    exact accounted_step (reachable_fresh hreach.of_restrict) hs hkept (.of_next hstep)

/-- What a step creates is owned or leaked. -/
theorem balance_step {lost : List ParticipantId} (hfresh : s.Fresh)
    (h : s.ids.Perm (s.owned ++ lost)) (hstep : Step s l s') :
    s'.ids.Perm (s'.owned ++ (lost ++ UpTransportDds.leaked s l)) := by
  cases hstep with
  | refused family config faults hrefused =>
    have hclean : ¬ Leaky config faults := fun hleaky => hrefused ⟨hleaky.1, hleaky.2.1⟩
    rw [UpTransportDds.leaked, if_neg hclean, List.append_nil]
    exact h
  | leaked family config faults hleaky hgrows hworkers =>
    have howned : s'.owned = s.owned := congrArg (List.map _) hgrows.transports
    rw [UpTransportDds.leaked, if_pos hleaky, hgrows.ids, ids_addParticipant, howned,
      ← List.append_assoc]
    exact h.append_right _
  | @built family config faults s' hclean hgrows =>
    have howned : owned { s' with transports := s'.transports ++ [⟨family, config, s.nextId⟩] } =
        s.owned ++ [s.nextId] := by
      simp only [owned, hgrows.transports, List.map_append]
      rfl
    rw [UpTransportDds.leaked, if_neg hclean, List.append_nil, howned]
    show s'.ids.Perm _
    rw [hgrows.ids, ids_addParticipant]
    apply (h.append_right _).trans
    rw [List.append_assoc, List.append_assoc]
    exact List.perm_append_comm.append_left _
  | @drop i transport hlive =>
    have hout := (perm_eraseIdx hlive).map OwnedTransport.participant
    have hrest := (h.trans (hout.symm.append_right lost)).erase transport.participant
    rw [List.map_cons, List.cons_append, List.erase_cons_head,
      hfresh.nodup.erase_eq_filter] at hrest
    rw [ids_teardown]
    simp only [UpTransportDds.leaked, List.append_nil]
    exact hrest
  | @dropOnWorker i kind transport hlive workers hworkers =>
    -- the participant that the transport has owned goes over to the leaked ones
    have hout := (perm_eraseIdx hlive).map OwnedTransport.participant
    rw [UpTransportDds.leaked, hlive]
    show s.ids.Perm ((s.transports.eraseIdx i).map OwnedTransport.participant ++
      (lost ++ [transport.participant]))
    rw [← List.append_assoc]
    exact (h.trans (hout.symm.append_right lost)).trans (List.perm_append_singleton _ _).symm
  | workerEnds i hworker hends =>
    simp only [UpTransportDds.leaked, List.append_nil]
    exact h

/-- The participants alive are those of the live transports and those that
    have been leaked. -/
theorem run_ids {tr : Trace Factory FactoryLabel} (h : InitRun factory tr s) :
    s.ids.Perm (s.owned ++ observe UpTransportDds.leaked tr) := by
  refine run_invariant
    (P := fun tr s => s.ids.Perm (s.owned ++ observe UpTransportDds.leaked tr)) ?_ ?_ h
  · rintro s rfl
    exact .refl _
  · intro tr s l s' hrun hi hstep
    rw [observe_append, observe_single]
    exact balance_step (reachable_fresh hrun.reachable) hi (.of_next hstep)

end steps

end Factory

/-! ### Exactness -/

section exactness
variable {s s' : Factory} {l : FactoryLabel}

theorem leaked_eq_nil (hstep : s.next l = some s') : leaked s l = [] ↔ ¬ l.Leaky := by
  cases l with
  | withConfig family config faults => simp [leaked, FactoryLabel.Leaky]
  | drop i => simp [leaked, FactoryLabel.Leaky]
  | workerEnds i => simp [leaked, FactoryLabel.Leaky]
  | dropOnWorker i kind =>
    cases Factory.Step.of_next hstep with
    | dropOnWorker i hlive hworkers => simp [leaked, FactoryLabel.Leaky, hlive]

theorem observe_leaked_eq_nil {tr : Trace Factory FactoryLabel} (h : InitRun factory tr s) :
    observe leaked tr = [] ↔ ∀ e ∈ tr, ¬ e.2.Leaky := by
  refine run_invariant (P := fun tr _ => observe leaked tr = [] ↔ ∀ e ∈ tr, ¬ e.2.Leaky) ?_ ?_ h
  · intro s _
    simp
  · intro tr s l s' _ hi hstep
    rw [observe_append, observe_single, List.append_eq_nil_iff, hi, leaked_eq_nil hstep]
    simp [or_imp, forall_and]

/-- A construction that fails leaves the factory as it was, unless it fails
    after its participant was created. -/
theorem construct_error {family : Family} {config : DdsConfig} {faults : Faults}
    {failure : Failure} (h : (s.construct family config faults).1 = .error failure) :
    (s.construct family config faults).2 = s ↔ ¬ Leaky config faults := by
  have hrun : s.Constructed family config faults
      ((Build.withConfig family config faults).run s).1
      ((Build.withConfig family config faults).run s).2 := Build.withConfig_run
  unfold Factory.construct at h ⊢
  generalize (Build.withConfig family config faults).run s = outcome at hrun h ⊢
  obtain ⟨result, s'⟩ := outcome
  cases hrun with
  | refused failure hrefused =>
    simp only [true_iff]
    exact fun hleaky => hrefused ⟨hleaky.1, hleaky.2.1⟩
  | leaked failure hleaky hgrows hworkers =>
    simp only [hleaky, not_true, iff_false]
    rintro rfl
    have hlength := congrArg List.length hgrows.ids
    simp at hlength
  | built hclean hgrows => contradiction

/-- A valid configuration. -/
def someConfig : DdsConfig := (DdsConfig.new 4711 1 0).1

/-- Two constructions, one of which is refused, and a drop. -/
def cleanRun : List FactoryLabel :=
  [.withConfig .classic someConfig {}, .withConfig .owned { someConfig with originId := "" } {},
   .withConfig .zeroCopy someConfig {}, .drop 0]

/-- The poller of the only transport cannot be spawned. -/
def leakyRun : List FactoryLabel :=
  [.withConfig .classic someConfig { poller := some "os error 11" }]

/-- A configuration that `validate` accepts, with `usize::MAX` as the capacity of
    the dispatch channel. -/
def hugeConfig : DdsConfig := { someConfig with dispatchCapacity := 2 ^ 64 - 1 }

/-- A transport is dropped by a job that its dispatcher drops. -/
def selfJoiningRun : List FactoryLabel :=
  [.withConfig .classic someConfig {}, .dropOnWorker 0 .dispatcher, .workerEnds 0]

/-- No transport is left after these labels, but a participant. -/
theorem not_exact_of_exec {ls : List FactoryLabel} {tr : Trace Factory FactoryLabel}
    (hexec : exec Factory.next Factory.start ls = some (tr, s)) (howned : s.owned = [])
    (hids : s.ids = [0]) :
    ∃ tr s, InitRun factory tr s ∧ tr.map Prod.snd = ls ∧ s.owned = [] ∧ s.ids = [0] ∧
      ¬ s.Exact := by
  refine ⟨tr, s, ⟨_, rfl, run_of_exec hexec⟩, labels_of_exec hexec, howned, hids, ?_⟩
  intro hexact
  have hperm := hexact.participants
  rw [howned, hids] at hperm
  exact absurd hperm.length_eq (by decide)

end exactness

end UpTransportDds
