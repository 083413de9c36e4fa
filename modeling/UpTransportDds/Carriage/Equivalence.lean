import UpTransportDds.Carriage.Owned
import UpTransportDds.Carriage.Simulation
import UpTransportDds.Carriage.ZeroCopy

/-! # The families are one router

  The same items, each encoded by the family's own send path, and the same
  schedule make classic, owned and zero-copy call the same listeners in the
  same order, refuse the same jobs and record the same events: each of them
  does what the router of frames does.
-/

namespace UpTransportDds

open LTS

variable {UUri Listener Sample Message : Type}

/-! ### Items -/

/-- What a transport can receive in a sample. -/
inductive Item (UUri : Type) where
  | frame (source : UUri) (sink : Option UUri) (payload : Option Bytes)
  | malformed
  | own
  deriving DecidableEq, Repr

/-- What the poller makes of an item. -/
def Item.verdict : Item UUri → Verdict (Frame UUri)
  | .frame source sink payload => .accepted ⟨source, sink, payload.getD []⟩
  | .malformed => .malformed ""
  | .own => .own

/-- Does `sample` carry the item to a transport with this configuration?
    Frames come from the send path of a peer. -/
def Item.Encoded (carriage : Carriage UUri Sample Message)
    (Sends : DdsConfig → UUri → Option UUri → Option Bytes → Sample → Prop) (config : DdsConfig) :
    Item UUri → Sample → Prop
  | .frame source sink payload, sample =>
    ∃ peer : DdsConfig, peer.originId ≠ config.originId ∧ Sends peer source sink payload sample
  | .malformed, sample =>
    carriage.originId sample ≠ config.originId ∧ ∃ detail, carriage.decode sample = .error detail
  | .own, sample => carriage.originId sample = config.originId

/-- What is sent is received as the frame it was, under the sender's origin. -/
structure Carriage.Delivers (carriage : Carriage UUri Sample Message)
    (view : Message → Frame UUri)
    (Sends : DdsConfig → UUri → Option UUri → Option Bytes → Sample → Prop) : Prop
    extends carriage.Shows view where
  origin : ∀ peer source sink payload sample, Sends peer source sink payload sample →
    carriage.originId sample = peer.originId
  decode : ∀ peer source sink payload sample, Sends peer source sink payload sample →
    ∃ message, carriage.decode sample = .ok message ∧
      view message = ⟨source, sink, payload.getD []⟩

/-- An encoded item is taken for what it is. -/
theorem verdict_of_encoded {env : Env UUri Sample Message} {view : Message → Frame UUri}
    {Sends : DdsConfig → UUri → Option UUri → Option Bytes → Sample → Prop}
    (h : env.carriage.Delivers view Sends) {item : Item UUri} {sample : Sample}
    (hitem : item.Encoded env.carriage Sends env.config.toDdsConfig sample) :
    env.verdict view sample = item.verdict := by
  unfold Env.verdict Carriage.receive
  cases item with
  | frame source sink payload =>
    obtain ⟨peer, hpeer, hsent⟩ := hitem
    obtain ⟨message, hdecode, hview⟩ := h.decode _ _ _ _ _ hsent
    have horigin : env.carriage.originId sample ≠ env.config.originId := by
      rw [h.origin _ _ _ _ _ hsent]
      exact hpeer
    rw [if_neg horigin, hdecode]
    show Verdict.accepted (view message) = _
    rw [hview]
    rfl
  | malformed =>
    obtain ⟨horigin, detail, hdecode⟩ := hitem
    rw [if_neg horigin, hdecode]
    rfl
  | own =>
    rw [if_pos (show env.carriage.originId sample = env.config.originId from hitem)]
    rfl

/-! ### What is sent in each family -/

section families
variable {UAttributes UClassicMetadata UMessage UOwnedMetadata UZeroCopyMetadata : Type}

namespace ClassicRust
variable (rust : ClassicRust UUri UAttributes UClassicMetadata UMessage)

/-- What a listener sees of a message. -/
def view (message : UMessage) : Frame UUri :=
  ⟨rust.source message, rust.sink message, (rust.payload message).getD []⟩

/-- `send` writes the sample for a well-formed message. -/
def Sends (WellFormed : UMessage → Prop) (peer : DdsConfig) (source : UUri) (sink : Option UUri)
    (payload : Option Bytes) (sample : UpDdsClassicSampleV1) : Prop :=
  ∃ message, WellFormed message ∧ rust.source message = source ∧ rust.sink message = sink ∧
    rust.payload message = payload ∧
    ∃ write health, (rust.sendClassic peer (some write) health message).written = some sample

theorem delivers {WellFormed : UMessage → Prop} (h : rust.Lawful WellFormed) :
    rust.carriage.Delivers rust.view (rust.Sends WellFormed) where
  source := fun _ => rfl
  sink := fun _ => rfl
  origin := by
    intro peer source sink payload sample ⟨message, _, _, _, _, _, _, hwritten⟩
    exact (encodeClassic_eq_ok.mp (written_sendSample.mp hwritten)).1
  decode := by
    intro peer source sink payload sample ⟨message, hwell, hsource, hsink, hpayload, _, _, hwritten⟩
    refine ⟨message, (decode_encodeClassic peer h hwell).2 sample
      (written_sendSample.mp hwritten), ?_⟩
    unfold view
    rw [hsource, hsink, hpayload]

end ClassicRust

namespace OwnedRust
variable (rust : OwnedRust UUri UOwnedMetadata)

/-- What a listener sees of a frame. -/
def view (frame : UOwnedFrame UOwnedMetadata) : Frame UUri :=
  ⟨rust.source frame.metadata, rust.sink frame.metadata, frame.payload.getD []⟩

/-- `send_validated_owned` writes the sample for a frame. -/
def Sends (peer : DdsConfig) (source : UUri) (sink : Option UUri) (payload : Option Bytes)
    (sample : UpDdsOwnedSampleV1) : Prop :=
  ∃ frame : ValidatedOwnedFrame rust, rust.source frame.intoInner.metadata = source ∧
    rust.sink frame.intoInner.metadata = sink ∧ frame.intoInner.payload = payload ∧
    ∃ write health, (rust.sendValidatedOwned peer (some write) health frame).written = some sample

theorem delivers (h : rust.Lawful) : rust.carriage.Delivers rust.view rust.Sends where
  source := fun _ => rfl
  sink := fun _ => rfl
  origin := by
    intro peer source sink payload sample ⟨frame, _, _, _, _, _, hwritten⟩
    exact (encodeOwned_eq_ok.mp (written_sendSample.mp hwritten)).1
  decode := by
    intro peer source sink payload sample ⟨frame, hsource, hsink, hpayload, _, _, hwritten⟩
    refine ⟨frame.intoInner, (decode_encodeOwned peer h frame.valid).2 sample
      (written_sendSample.mp hwritten), ?_⟩
    unfold view
    rw [hsource, hsink, hpayload]

end OwnedRust

namespace ZeroCopyRust
variable (rust : ZeroCopyRust UUri UZeroCopyMetadata)

/-- What is received for a listener. -/
def view (received : UUri × Option UUri × DdsRxFrame) : Frame UUri :=
  ⟨received.1, received.2.1, received.2.2.payload⟩

/-- `send_prepared_zero_copy` writes the sample for a commit, whichever loan
    it is made in. -/
def Sends (peer : DdsConfig) (source : UUri) (sink : Option UUri) (payload : Option Bytes)
    (sample : UpDdsZeroCopySampleV1) : Prop :=
  ∃ commit : Commit UZeroCopyMetadata, commit.Granted ∧
    rust.source commit.spec.metadata = source ∧ rust.sink commit.spec.metadata = sink ∧
    commit.spec.hasPayload = payload.isSome ∧ commit.bytes = payload.getD [] ∧
    ∃ write health, commit.SendsInit rust peer write health sample ∨
      commit.SendsUninit rust peer write health sample

theorem sample_of_sends {peer : DdsConfig} {source : UUri} {sink : Option UUri}
    {payload : Option Bytes} {sample : UpDdsZeroCopySampleV1}
    (h : rust.Sends peer source sink payload sample) :
    ∃ commit : Commit UZeroCopyMetadata, sample = commit.sample rust peer ∧
      commit.received rust = (source, sink, ⟨commit.spec.encodedMetadata, payload.getD []⟩) := by
  obtain ⟨commit, hgranted, hsource, hsink, _, hbytes, write, health, hsent⟩ := h
  refine ⟨commit, ?_, ?_⟩
  · rcases hsent with hinit | huninit
    · exact (Commit.sendsInit_iff hgranted).mp hinit
    · exact (Commit.sendsUninit_iff hgranted).mp huninit
  · unfold Commit.received
    rw [hsource, hsink, hbytes]

theorem delivers (h : rust.Lawful) : rust.carriage.Delivers view rust.Sends where
  source := fun _ => rfl
  sink := fun _ => rfl
  origin := by
    intro peer source sink payload sample hsent
    obtain ⟨commit, rfl, _⟩ := rust.sample_of_sends hsent
    rfl
  decode := by
    intro peer source sink payload sample hsent
    obtain ⟨commit, rfl, hreceived⟩ := rust.sample_of_sends hsent
    refine ⟨_, Commit.decode_sample h, ?_⟩
    rw [hreceived]
    rfl

end ZeroCopyRust

/-! ### Reports -/

/-- The job whose refusal `submit` records, with the detail it records. -/
def refused (s : State UUri Listener Sample Message) :
    Label UUri Listener Sample → List (String × Job Message)
  | .poller =>
    match s.poller with
    | .rejecting detail k message reg _ _ => [(detail, ⟨k, reg, message⟩)]
    | _ => []
  | _ => []

/-- What a run can be compared by with a run of another family. -/
structure Report (UUri Listener : Type) where
  /-- The callbacks that have started, in order: the number of the sample, the
      registration and what its listener sees. -/
  called : List (Job (Frame UUri))
  /-- The refused jobs, in order. -/
  refused : List (String × Job (Frame UUri))
  /-- The registrations, by address. -/
  registrations : List (Registration UUri Listener)
  /-- The calls and where they stand. -/
  calls : List (Call UUri Listener)
  /-- The counters and the kinds of the events. -/
  health : HealthState

def report (view : Message → Frame UUri)
    (run : Trace (State UUri Listener Sample Message) (Label UUri Listener Sample) ×
      State UUri Listener Sample Message) : Report UUri Listener where
  called := (observe started run.1).map (Job.map view)
  refused := (observe refused run.1).map (Prod.map id (Job.map view))
  registrations := run.2.registry.heap
  calls := run.2.calls
  health := run.2.health.eraseDetails

theorem started_map {see : Sample → Verdict (Frame UUri)} {view : Message → Frame UUri}
    (s : State UUri Listener Sample Message) (l : Label UUri Listener Sample) :
    started (s.map see view) (l.map see) = (started s l).map (Job.map view) := by
  cases l with
  | poll t =>
    unfold started
    simp only [Label.map, State.map_tasks, List.getElem?_map]
    cases s.tasks[t]? with
    | none => rfl
    | some task =>
      obtain ⟨job, aborted, phase⟩ := task
      cases phase <;> rfl
  | take result => cases result <;> rfl
  | _ => rfl

theorem refused_map {see : Sample → Verdict (Frame UUri)} {view : Message → Frame UUri}
    (s : State UUri Listener Sample Message) (l : Label UUri Listener Sample) :
    refused (s.map see view) (l.map see) = (refused s l).map (Prod.map id (Job.map view)) := by
  cases l with
  | poller =>
    unfold refused
    rw [State.map_poller]
    cases s.poller <;> rfl
  | take result => cases result <;> rfl
  | _ => rfl

/-- A run and its view give the same report. -/
theorem report_map {see : Sample → Verdict (Frame UUri)} {view : Message → Frame UUri}
    (run : Trace (State UUri Listener Sample Message) (Label UUri Listener Sample) ×
      State UUri Listener Sample Message) :
    report id (run.1.map (Prod.map (State.map see view) (Label.map see)), run.2.map see view) =
      report view run := by
  have hcalled : observe started (run.1.map (Prod.map (State.map see view) (Label.map see))) =
      (observe started run.1).map (Job.map view) := observe_simulated started_map run.1
  have hrefused : observe refused (run.1.map (Prod.map (State.map see view) (Label.map see))) =
      (observe refused run.1).map (Prod.map id (Job.map view)) :=
    observe_simulated refused_map run.1
  have hid : Job.map (id : Frame UUri → Frame UUri) = id := rfl
  unfold report
  rw [hcalled, hrefused, hid]
  simp

/-! ### The same router -/

theorem Label.map_map {Sample' Sample'' : Type} (f : Sample → Sample') (g : Sample' → Sample'')
    (l : Label UUri Listener Sample) : (l.map f).map g = l.map (g ∘ f) := by
  cases l with
  | take result => cases result <;> simp [Label.map]
  | _ => rfl

theorem Label.filtered_map {Sample' : Type} {verify : UUri → Option UUri → Except UStatus Unit}
    {f : Sample → Sample'} {l : Label UUri Listener Sample} (h : l.Filtered verify) :
    (l.map f).Filtered verify := by
  cases l with
  | take result => cases result <;> trivial
  | _ => exact h

variable [DecidableEq UUri] [UriMatches UUri] [DecidableEq Listener]

/-- The report of the run of these labels, if it is possible. -/
def reportOf (env : Env UUri Sample Message) (view : Message → Frame UUri)
    (ls : List (Label UUri Listener Sample)) : Option (Report UUri Listener) :=
  (exec (State.next env) State.start ls).map (report view)

/-- The report of the router of frames. -/
def reportOfItems (config : ValidConfig) (workers : Nat)
    (ls : List (Label UUri Listener (Item UUri))) : Option (Report UUri Listener) :=
  (exec (frameNext config workers) State.start (ls.map (Label.map Item.verdict))).map (report id)

/-- **A family does what the router of frames does.** -/
theorem reportOf_eq (env : Env UUri Sample Message) {view : Message → Frame UUri}
    {Sends : DdsConfig → UUri → Option UUri → Option Bytes → Sample → Prop}
    (h : env.carriage.Delivers view Sends) {Carried : Type} (item : Carried → Item UUri)
    (sample : Carried → Sample) (hencoded : ∀ carried,
      (item carried).Encoded env.carriage Sends env.config.toDdsConfig (sample carried))
    {ls : List (Label UUri Listener Carried)}
    (hfilters : ∀ l ∈ ls, l.Filtered env.carriage.verifyFilterCriteria) :
    reportOf env view (ls.map (Label.map sample)) =
      reportOfItems env.config env.workers (ls.map (Label.map item)) := by
  have hverdict : env.verdict view ∘ sample = Item.verdict ∘ item :=
    funext fun carried => verdict_of_encoded h (hencoded carried)
  have hsamples : ∀ l ∈ ls.map (Label.map sample),
      l.Filtered env.carriage.verifyFilterCriteria := by
    intro l hl
    obtain ⟨l', hl', rfl⟩ := List.mem_map.mp hl
    exact Label.filtered_map (hfilters l' hl')
  have hrun := run_map env view h.toShows hsamples
  unfold reportOf reportOfItems
  have hlabels : (ls.map (Label.map sample)).map (Label.map (env.verdict view)) =
      (ls.map (Label.map item)).map (Label.map Item.verdict) := by
    rw [List.map_map, List.map_map]
    apply List.map_congr_left
    intro l _
    show (l.map sample).map (env.verdict view) = (l.map item).map Item.verdict
    rw [Label.map_map, Label.map_map, hverdict]
  rw [← hlabels, ← hrun, Option.map_map]
  congr 1
  funext run
  exact (report_map run).symm

section agreement
variable {classic : ClassicRust UUri UAttributes UClassicMetadata UMessage}
  {owned : OwnedRust UUri UOwnedMetadata} {zeroCopy : ZeroCopyRust UUri UZeroCopyMetadata}
  {WellFormed : UMessage → Prop} {config : ValidConfig}

/-- One item, as each family carries it to a transport with this
    configuration. -/
structure Carried (classic : ClassicRust UUri UAttributes UClassicMetadata UMessage)
    (WellFormed : UMessage → Prop) (owned : OwnedRust UUri UOwnedMetadata)
    (zeroCopy : ZeroCopyRust UUri UZeroCopyMetadata) (config : DdsConfig) where
  item : Item UUri
  inClassic : UpDdsClassicSampleV1
  inOwned : UpDdsOwnedSampleV1
  inZeroCopy : UpDdsZeroCopySampleV1
  classicEncoded : item.Encoded classic.carriage (classic.Sends WellFormed) config inClassic
  ownedEncoded : item.Encoded owned.carriage owned.Sends config inOwned
  zeroCopyEncoded : item.Encoded zeroCopy.carriage zeroCopy.Sends config inZeroCopy

/-- **The three families are the same router.** Under every schedule, with the
    same items and the same calls, they report the same, and none can take a
    step that another cannot. -/
theorem families_agree (hclassic : classic.Lawful WellFormed) (howned : owned.Lawful)
    (hzeroCopy : zeroCopy.Lawful) (workers : Nat)
    (ls : List (Label UUri Listener (Carried classic WellFormed owned zeroCopy config.toDdsConfig)))
    (hfilters : ∀ l ∈ ls, l.Filtered classic.verifyFilterCriteria) :
    reportOf ⟨classic.carriage, config, workers⟩ classic.view
        (ls.map (Label.map Carried.inClassic)) =
      reportOf ⟨owned.carriage, config, workers⟩ owned.view
        (ls.map (Label.map Carried.inOwned)) ∧
    reportOf ⟨owned.carriage, config, workers⟩ owned.view
        (ls.map (Label.map Carried.inOwned)) =
      reportOf ⟨zeroCopy.carriage, config, workers⟩ ZeroCopyRust.view
        (ls.map (Label.map Carried.inZeroCopy)) := by
  have hunfiltered : ∀ l ∈ ls, l.Filtered fun _ _ => .ok () := by
    intro l _
    cases l with
    | enter site request => exact fun _ _ _ => rfl
    | _ => trivial
  have hc := reportOf_eq ⟨classic.carriage, config, workers⟩ (classic.delivers hclassic)
    Carried.item Carried.inClassic Carried.classicEncoded hfilters
  have ho := reportOf_eq ⟨owned.carriage, config, workers⟩ (owned.delivers howned)
    Carried.item Carried.inOwned Carried.ownedEncoded hunfiltered
  have hz := reportOf_eq ⟨zeroCopy.carriage, config, workers⟩
    (zeroCopy.delivers hzeroCopy) Carried.item Carried.inZeroCopy Carried.zeroCopyEncoded
    hunfiltered
  exact ⟨hc.trans ho.symm, ho.trans hz.symm⟩

end agreement

end families

/-! ### A run in three families -/

/-- Another transport of the topic. -/
def topicPeer : DdsConfig := { (DdsConfig.new 1 1 0).1 with originId := "peer" }

/-- The capacity of the runs below. -/
theorem topicCapacity_pos : 0 < 4 := by decide

abbrev TopicCarried :=
  Carried topicClassic (fun m => m.1.number ≠ 0) topicOwned topicZeroCopy
    (topicEnv 4 2 topicCapacity_pos).config.toDdsConfig

def topicFrame : TopicCarried where
  item := .frame ⟨7⟩ none (some [1, 2])
  inClassic := ⟨"peer", List.replicate 7 1, true, [1, 2]⟩
  inOwned := ⟨"peer", List.replicate 7 1, true, [1, 2]⟩
  inZeroCopy := byteCommit.sample topicZeroCopy topicPeer
  classicEncoded := ⟨topicPeer, by decide, (⟨7⟩, some [1, 2]), by decide, rfl, rfl, rfl,
    fun _ => .ok (), {}, rfl⟩
  ownedEncoded := ⟨topicPeer, by decide, ⟨⟨⟨7⟩, some [1, 2]⟩, rfl⟩, rfl, rfl, rfl,
    fun _ => .ok (), {}, rfl⟩
  zeroCopyEncoded := ⟨topicPeer, by decide, byteCommit, rfl, rfl, rfl, rfl, rfl,
    fun _ => .ok (), {}, .inl ((Commit.sendsInit_iff (show byteCommit.Granted from rfl)).mpr rfl)⟩

def topicMalformed : TopicCarried where
  item := .malformed
  inClassic := ⟨"peer", [], false, []⟩
  inOwned := ⟨"peer", [], false, []⟩
  inZeroCopy := ⟨"peer", "", false, "", false, [], [1]⟩
  classicEncoded := ⟨by decide, _, rfl⟩
  ownedEncoded := ⟨by decide, _, rfl⟩
  zeroCopyEncoded := ⟨by decide, _, rfl⟩

def topicSelf : TopicCarried where
  item := .own
  inClassic := ⟨"self", [], false, []⟩
  inOwned := ⟨"self", [], false, []⟩
  inZeroCopy := ⟨"self", "", false, "", false, [], []⟩
  classicEncoded := rfl
  ownedEncoded := rfl
  zeroCopyEncoded := rfl

/-- A listener, a batch with one item of each kind, and the call of the
    listener. -/
def carriedRun : List (Label Topic Nat TopicCarried) :=
  [.enter .external (.register ⟨7⟩ none 0), .advance 0, .poller,
   .take (.ok [some topicMalformed, some topicSelf, none, some topicFrame]),
   .poller, .poller, .poller, .poller, .poller,
   .dispatcher, .dispatcher, .dispatcher, .poll 0]

theorem families_agree_topic : ∃ called : Report Topic Nat,
    called.called = [⟨3, 0, ⟨⟨7⟩, none, [1, 2]⟩⟩] ∧ called.health.malformedSamples = 1 ∧
    reportOf ⟨topicClassic.carriage, (topicEnv 4 2).config, 2⟩ topicClassic.view
      (carriedRun.map (Label.map Carried.inClassic)) = some called ∧
    reportOf ⟨topicOwned.carriage, (topicEnv 4 2).config, 2⟩ topicOwned.view
      (carriedRun.map (Label.map Carried.inOwned)) = some called ∧
    reportOf ⟨topicZeroCopy.carriage, (topicEnv 4 2).config, 2⟩ ZeroCopyRust.view
      (carriedRun.map (Label.map Carried.inZeroCopy)) = some called := by
  obtain ⟨howned, hzeroCopy⟩ := families_agree topicClassic_lawful topicOwned_lawful
    topicZeroCopy_lawful 2 carriedRun fun l _ => by
      cases l with
      | enter site request => exact fun _ _ _ => rfl
      | _ => trivial
  obtain ⟨called, hjobs, hmalformed, hclassic⟩ : ∃ called : Report Topic Nat,
      called.called = [⟨3, 0, ⟨⟨7⟩, none, [1, 2]⟩⟩] ∧ called.health.malformedSamples = 1 ∧
      reportOf ⟨topicClassic.carriage, (topicEnv 4 2).config, 2⟩ topicClassic.view
        (carriedRun.map (Label.map Carried.inClassic)) = some called :=
    ⟨_, rfl, rfl, rfl⟩
  exact ⟨called, hjobs, hmalformed, hclassic, howned.symm.trans hclassic,
    hzeroCopy.symm.trans (howned.symm.trans hclassic)⟩

end UpTransportDds
