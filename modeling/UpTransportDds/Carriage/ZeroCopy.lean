import UpTransportDds.Carriage.Sample
import UpTransportDds.Runtime.AlignedBytes

/-! # The zero-copy family

  Carries opaque metadata next to the bytes written into a transmit loan, and
  routes by side-band URIs. A loan is taken either zeroed or uninitialized;
  both paths commit the same sample. On the way back `decode_zero_copy`
  returns a source, a sink and a frame, and the listener gets the frame.
-/

namespace UpTransportDds

open Codec

/-- The parts of up-rust that the zero-copy family uses. -/
structure ZeroCopyRust (UUri UFrameMetadata : Type) where
  source : UFrameMetadata → UUri
  sink : UFrameMetadata → Option UUri
  /-- `UUri::to_uri(false)`. -/
  toUri : UUri → String
  /-- `str::parse::<UUri>`. -/
  parse : String → Except String UUri

/-- `PreparedTxLoanSpec` of up-rust. Without a payload its length is 0. -/
structure PreparedTxLoanSpec (UFrameMetadata : Type) where
  metadata : UFrameMetadata
  hasPayload : Bool
  encodedMetadata : Bytes
  payloadLen : Nat
  payloadAlignment : Nat
  absent : hasPayload = false → payloadLen = 0

structure UpDdsZeroCopySampleV1 where
  originId : String
  sourceUri : String
  hasSink : Bool
  sinkUri : String
  hasPayload : Bool
  encodedMetadata : Bytes
  payload : Bytes
  deriving DecidableEq, Repr

/-- A transmit loan whose payload has been initialized. -/
structure DdsTxBuffer (UFrameMetadata : Type) where
  metadata : UFrameMetadata
  sourceUri : String
  sinkUri : Option String
  hasPayload : Bool
  encodedMetadata : Bytes
  payload : AlignedBytes
  initialized : payload.Initialized

/-- A transmit loan whose payload need not have been initialized. -/
structure DdsUninitTxBuffer (UFrameMetadata : Type) where
  metadata : UFrameMetadata
  sourceUri : String
  sinkUri : Option String
  hasPayload : Bool
  encodedMetadata : Bytes
  payload : AlignedBytes

/-- The receive lease a listener gets. -/
structure DdsRxFrame where
  encodedMetadata : Bytes
  payload : Bytes
  deriving DecidableEq, Repr

variable {UUri UFrameMetadata : Type}

/-- Writes through `DdsTxBuffer::payload_mut`. -/
def DdsTxBuffer.storeAll (buffer : DdsTxBuffer UFrameMetadata) (writes : List (Nat × UInt8)) :
    DdsTxBuffer UFrameMetadata :=
  { buffer with
    payload := buffer.payload.storeAll writes
    initialized := AlignedBytes.initialized_storeAll buffer.initialized }

/-- Writes through `DdsUninitTxBuffer::payload_uninit_mut`. -/
def DdsUninitTxBuffer.storeAll (buffer : DdsUninitTxBuffer UFrameMetadata)
    (writes : List (Nat × UInt8)) : DdsUninitTxBuffer UFrameMetadata :=
  { buffer with payload := buffer.payload.storeAll writes }

/-- `DdsUninitTxBuffer::assume_payload_init`; that the payload is initialized
    is for the caller to know. -/
def DdsUninitTxBuffer.assumePayloadInit (buffer : DdsUninitTxBuffer UFrameMetadata)
    (h : buffer.payload.Initialized) : DdsTxBuffer UFrameMetadata where
  metadata := buffer.metadata
  sourceUri := buffer.sourceUri
  sinkUri := buffer.sinkUri
  hasPayload := buffer.hasPayload
  encodedMetadata := buffer.encodedMetadata
  payload := buffer.payload
  initialized := h

/-- The sample that `send_prepared_zero_copy` builds. -/
def encodeZeroCopy (config : DdsConfig) (buffer : DdsTxBuffer UFrameMetadata) :
    UpDdsZeroCopySampleV1 :=
  let (hasSink, sinkUri) :=
    match buffer.sinkUri with
    | none => (false, "")
    | some sink => (true, sink)
  { originId := config.originId
    sourceUri := buffer.sourceUri
    hasSink := hasSink
    sinkUri := sinkUri
    hasPayload := buffer.hasPayload
    encodedMetadata := buffer.encodedMetadata
    payload := buffer.payload.asSlice }

/-- `DdsZeroCopyCore::send_prepared_zero_copy`. -/
def sendPreparedZeroCopy (config : DdsConfig) (writer : Option (Writer UpDdsZeroCopySampleV1))
    (health : HealthState) (buffer : DdsTxBuffer UFrameMetadata) : Sent UpDdsZeroCopySampleV1 :=
  sendSample "zero-copy" writer health (.ok (encodeZeroCopy config buffer))

namespace ZeroCopyRust

/-- URIs are printed as what they are parsed from, and never as nothing. -/
structure Lawful (rust : ZeroCopyRust UUri UFrameMetadata) : Prop where
  toUri_ne : ∀ uri, rust.toUri uri ≠ ""
  parse_toUri : ∀ uri, rust.parse (rust.toUri uri) = .ok uri

variable (rust : ZeroCopyRust UUri UFrameMetadata)

/-- `decode_zero_copy`. -/
def decodeZeroCopy (sample : UpDdsZeroCopySampleV1) :
    Except String (UUri × Option UUri × DdsRxFrame) :=
  if !sample.hasSink && !sample.sinkUri.isEmpty then
    .error "zero-copy sample has sink bytes while has_sink is false"
  else if sample.hasSink && sample.sinkUri.isEmpty then
    .error "zero-copy sample has an empty present sink"
  else if !sample.hasPayload && !sample.payload.isEmpty then
    .error "zero-copy sample has payload bytes while has_payload is false"
  else
    (step "invalid zero-copy source URI" (rust.parse sample.sourceUri)).bind fun source =>
      (step "invalid zero-copy sink URI"
          (if sample.hasSink then (rust.parse sample.sinkUri).map some else .ok none)).bind
        fun sink => .ok (source, sink, ⟨sample.encodedMetadata, sample.payload⟩)

/-- `loan_parts`. -/
def loanParts (spec : PreparedTxLoanSpec UFrameMetadata) :
    UFrameMetadata × String × Option String × Bool × Bytes :=
  (spec.metadata,
    rust.toUri (rust.source spec.metadata),
    (rust.sink spec.metadata).map rust.toUri,
    spec.hasPayload,
    spec.encodedMetadata)

/-- `DdsZeroCopyCore::loan_prepared_tx`. -/
def loanPreparedTx (spec : PreparedTxLoanSpec UFrameMetadata) :
    Except UStatus (DdsTxBuffer UFrameMetadata) :=
  match hzeroed : AlignedBytes.zeroed spec.payloadLen spec.payloadAlignment with
  | .error status => .error status
  | .ok payload =>
    let (metadata, sourceUri, sinkUri, hasPayload, encodedMetadata) := rust.loanParts spec
    .ok { metadata := metadata, sourceUri := sourceUri, sinkUri := sinkUri,
          hasPayload := hasPayload, encodedMetadata := encodedMetadata, payload := payload,
          initialized := AlignedBytes.initialized_zeroed hzeroed }

/-- `DdsZeroCopyCore::loan_prepared_uninit_tx`. -/
def loanPreparedUninitTx (spec : PreparedTxLoanSpec UFrameMetadata) :
    Except UStatus (DdsUninitTxBuffer UFrameMetadata) :=
  match AlignedBytes.uninitialized spec.payloadLen spec.payloadAlignment with
  | .error status => .error status
  | .ok payload =>
    let (metadata, sourceUri, sinkUri, hasPayload, encodedMetadata) := rust.loanParts spec
    .ok { metadata := metadata, sourceUri := sourceUri, sinkUri := sinkUri,
          hasPayload := hasPayload, encodedMetadata := encodedMetadata, payload := payload }

/-- What the zero-copy loops differ in from those of the other families.
    Filters are not verified here. -/
def carriage : Carriage UUri UpDdsZeroCopySampleV1 (UUri × Option UUri × DdsRxFrame) where
  name := "zero-copy"
  originId := UpDdsZeroCopySampleV1.originId
  decode := rust.decodeZeroCopy
  source := fun received => received.1
  sink := fun received => received.2.1
  verifyFilterCriteria := fun _ _ => .ok ()

/-- The uninitialized loan for a spec, in the given storage. -/
def uninitLoan (spec : PreparedTxLoanSpec UFrameMetadata) (payload : AlignedBytes) :
    DdsUninitTxBuffer UFrameMetadata where
  metadata := spec.metadata
  sourceUri := rust.toUri (rust.source spec.metadata)
  sinkUri := (rust.sink spec.metadata).map rust.toUri
  hasPayload := spec.hasPayload
  encodedMetadata := spec.encodedMetadata
  payload := payload

/-- The initialized loan for a spec, in the given storage. -/
def loan (spec : PreparedTxLoanSpec UFrameMetadata) (payload : AlignedBytes)
    (h : payload.Initialized) : DdsTxBuffer UFrameMetadata :=
  (rust.uninitLoan spec payload).assumePayloadInit h

section loans
variable {spec : PreparedTxLoanSpec UFrameMetadata}

/-- A granted initialized loan holds zeros. -/
theorem loanPreparedTx_granted
    (h : layoutValid (max spec.payloadLen 1) spec.payloadAlignment = true) :
    ∃ hinit, rust.loanPreparedTx spec = .ok (rust.loan spec
      ⟨spec.payloadAlignment, List.replicate spec.payloadLen (some 0)⟩ hinit) := by
  have hzeroed : AlignedBytes.zeroed spec.payloadLen spec.payloadAlignment =
      .ok ⟨spec.payloadAlignment, List.replicate spec.payloadLen (some 0)⟩ :=
    AlignedBytes.allocate_eq_ok.mpr ⟨h, rfl⟩
  refine ⟨AlignedBytes.initialized_zeroed hzeroed, ?_⟩
  unfold loanPreparedTx
  split
  · rename_i status hfail
    rw [hzeroed] at hfail
    contradiction
  · rename_i payload hpayload
    obtain rfl := Except.ok.inj (hzeroed.symm.trans hpayload)
    rfl

/-- Only a valid layout is granted. -/
theorem layoutValid_of_loan {rust : ZeroCopyRust UUri UFrameMetadata}
    {buffer : DdsTxBuffer UFrameMetadata} (h : rust.loanPreparedTx spec = .ok buffer) :
    layoutValid (max spec.payloadLen 1) spec.payloadAlignment = true := by
  unfold loanPreparedTx at h
  split at h
  · contradiction
  · rename_i payload hzeroed
    exact (AlignedBytes.allocate_eq_ok.mp hzeroed).1

/-- A granted uninitialized loan holds nothing. -/
theorem loanPreparedUninitTx_granted
    (h : layoutValid (max spec.payloadLen 1) spec.payloadAlignment = true) :
    rust.loanPreparedUninitTx spec = .ok (rust.uninitLoan spec
      ⟨spec.payloadAlignment, List.replicate spec.payloadLen none⟩) := by
  have huninit : AlignedBytes.uninitialized spec.payloadLen spec.payloadAlignment =
      .ok ⟨spec.payloadAlignment, List.replicate spec.payloadLen none⟩ :=
    AlignedBytes.allocate_eq_ok.mpr ⟨h, rfl⟩
  unfold loanPreparedUninitTx
  rw [huninit]
  rfl

end loans

end ZeroCopyRust

/-! ### Commits -/

/-- A spec, and the bytes that are written into its loan before it is sent. -/
structure Commit (UFrameMetadata : Type) where
  spec : PreparedTxLoanSpec UFrameMetadata
  bytes : Bytes
  writes : List (Nat × UInt8)
  length : bytes.length = spec.payloadLen
  complete : AlignedBytes.Writes writes bytes

namespace Commit

/-- The loan is granted. -/
def Granted (commit : Commit UFrameMetadata) : Prop :=
  layoutValid (max commit.spec.payloadLen 1) commit.spec.payloadAlignment = true

section sending
variable (rust : ZeroCopyRust UUri UFrameMetadata) (config : DdsConfig)
  (write : Writer UpDdsZeroCopySampleV1) (health : HealthState) (commit : Commit UFrameMetadata)

/-- The sample written on the initialized path. -/
def SendsInit (sample : UpDdsZeroCopySampleV1) : Prop :=
  ∃ buffer, rust.loanPreparedTx commit.spec = .ok buffer ∧
    (sendPreparedZeroCopy config (some write) health (buffer.storeAll commit.writes)).written =
      some sample

/-- The sample written on the uninitialized path. -/
def SendsUninit (sample : UpDdsZeroCopySampleV1) : Prop :=
  ∃ buffer, rust.loanPreparedUninitTx commit.spec = .ok buffer ∧
    ∃ hinit : (buffer.storeAll commit.writes).payload.Initialized,
      (sendPreparedZeroCopy config (some write) health
        ((buffer.storeAll commit.writes).assumePayloadInit hinit)).written = some sample

/-- The source, the sink and the frame that were committed. -/
def received : UUri × Option UUri × DdsRxFrame :=
  (rust.source commit.spec.metadata, rust.sink commit.spec.metadata,
    ⟨commit.spec.encodedMetadata, commit.bytes⟩)

/-- The sample of the commit. -/
def sample : UpDdsZeroCopySampleV1 where
  originId := config.originId
  sourceUri := rust.toUri (rust.source commit.spec.metadata)
  hasSink := (rust.sink commit.spec.metadata).isSome
  sinkUri := ((rust.sink commit.spec.metadata).map rust.toUri).getD ""
  hasPayload := commit.spec.hasPayload
  encodedMetadata := commit.spec.encodedMetadata
  payload := commit.bytes

end sending

section paths
variable {rust : ZeroCopyRust UUri UFrameMetadata} {config : DdsConfig}
  {write : Writer UpDdsZeroCopySampleV1} {health : HealthState} {commit : Commit UFrameMetadata}

/-- Filling the loan gives the sample, whatever was in its storage before. -/
theorem encode_loan {payload : AlignedBytes} (hlen : payload.cells.length = commit.spec.payloadLen)
    (hinit : (payload.storeAll commit.writes).Initialized) :
    encodeZeroCopy config (rust.loan commit.spec (payload.storeAll commit.writes) hinit) =
      commit.sample rust config := by
  -- the writes cover the slice, so what was in the storage before is gone
  have hslice := AlignedBytes.asSlice_storeAll (hlen.trans commit.length.symm) commit.complete
  unfold sample encodeZeroCopy ZeroCopyRust.loan ZeroCopyRust.uninitLoan
  cases rust.sink commit.spec.metadata <;>
    simp [DdsUninitTxBuffer.assumePayloadInit, hslice]

/-- The initialized path writes the sample of the commit. -/
theorem sendsInit_iff (hg : commit.Granted) {sample : UpDdsZeroCopySampleV1} :
    commit.SendsInit rust config write health sample ↔ sample = commit.sample rust config := by
  obtain ⟨hinit, hloan⟩ := ZeroCopyRust.loanPreparedTx_granted rust hg
  have hencode : encodeZeroCopy config ((rust.loan commit.spec _ hinit).storeAll commit.writes) =
      commit.sample rust config :=
    encode_loan List.length_replicate (AlignedBytes.initialized_storeAll hinit)
  constructor
  · intro ⟨buffer, hbuffer, hwritten⟩
    obtain rfl := Except.ok.inj (hloan.symm.trans hbuffer)
    have hsample := Except.ok.inj (written_sendSample.mp hwritten)
    rw [← hsample, hencode]
  · intro hsample
    refine ⟨_, hloan, written_sendSample.mpr ?_⟩
    rw [hsample, hencode]

/-- So does the uninitialized path. -/
theorem sendsUninit_iff (hg : commit.Granted) {sample : UpDdsZeroCopySampleV1} :
    commit.SendsUninit rust config write health sample ↔ sample = commit.sample rust config := by
  have hloan := ZeroCopyRust.loanPreparedUninitTx_granted rust hg
  have hlen : (List.replicate commit.spec.payloadLen (none : Option UInt8)).length =
      commit.bytes.length := List.length_replicate.trans commit.length.symm
  have hencode : ∀ hinit, encodeZeroCopy config (((rust.uninitLoan commit.spec
      ⟨commit.spec.payloadAlignment, List.replicate commit.spec.payloadLen none⟩).storeAll
        commit.writes).assumePayloadInit hinit) = commit.sample rust config :=
    fun hinit => encode_loan List.length_replicate hinit
  constructor
  · intro ⟨buffer, hbuffer, hinit, hwritten⟩
    obtain rfl := Except.ok.inj (hloan.symm.trans hbuffer)
    have hsample := Except.ok.inj (written_sendSample.mp hwritten)
    rw [← hsample, hencode]
  · intro hsample
    -- the writes initialize every byte, as the unsafe cast asks for
    have hinit : (AlignedBytes.storeAll
        ⟨commit.spec.payloadAlignment, List.replicate commit.spec.payloadLen none⟩
        commit.writes).Initialized :=
      AlignedBytes.initialized_of_writes hlen commit.complete
    refine ⟨_, hloan, hinit, written_sendSample.mpr ?_⟩
    rw [hsample]
    exact congrArg Except.ok (hencode hinit)

/-- What was committed is received. -/
theorem decode_sample (h : rust.Lawful) :
    rust.decodeZeroCopy (commit.sample rust config) = .ok (commit.received rust) := by
  -- the spec rules payload bytes out where there is no payload
  have hpayload : commit.spec.hasPayload = true ∨ commit.bytes = [] := by
    cases hpresent : commit.spec.hasPayload with
    | true => exact .inl rfl
    | false =>
      right
      apply List.eq_nil_of_length_eq_zero
      rw [commit.length, commit.spec.absent hpresent]
  have hbytes : (!commit.spec.hasPayload && !commit.bytes.isEmpty) = false := by
    rcases hpayload with hpresent | hempty
    · simp [hpresent]
    · simp [hempty]
  unfold ZeroCopyRust.decodeZeroCopy sample received
  cases hsink : rust.sink commit.spec.metadata with
  | none => simp [hbytes, h.parse_toUri, step, Except.bind, Except.mapError]
  | some sink =>
    -- a printed sink is not empty, so it passes for a present one
    have hne : (rust.toUri sink).isEmpty = false := by
      simpa using h.toUri_ne sink
    simp [hbytes, hne, h.parse_toUri, step, Except.bind, Except.mapError, Except.map]

end paths

end Commit

/-! ### What the receiver gets -/

section receiving
variable {rust : ZeroCopyRust UUri UFrameMetadata} {commit : Commit UFrameMetadata}

/-- **Zero-copy carriage preserves what was committed.** Both paths write one
    sample. It carries the presence flag, and is received with the source, the
    sink, the metadata and the payload of the commit. A commit that differs in
    one of these is received differently, and the listener sees a different
    frame if the metadata or the payload differ. -/
theorem zero_copy_preserves (h : rust.Lawful) (hg : commit.Granted) (config : DdsConfig)
    (write : Writer UpDdsZeroCopySampleV1) (health : HealthState) :
    ∃ sample,
      (∀ s, commit.SendsInit rust config write health s ↔ s = sample) ∧
      (∀ s, commit.SendsUninit rust config write health s ↔ s = sample) ∧
      sample.hasPayload = commit.spec.hasPayload ∧
      (commit.bytes ≠ [] → commit.spec.hasPayload = true) ∧
      rust.decodeZeroCopy sample = .ok (rust.source commit.spec.metadata,
        rust.sink commit.spec.metadata, ⟨commit.spec.encodedMetadata, commit.bytes⟩) ∧
      ∀ (other : Commit UFrameMetadata) (config' : DdsConfig) (sample' : UpDdsZeroCopySampleV1),
        other.Granted → (other.SendsInit rust config' write health sample' ∨
          other.SendsUninit rust config' write health sample') →
        ∃ source sink frame, rust.decodeZeroCopy sample' = .ok (source, sink, frame) ∧
          (source = rust.source commit.spec.metadata ↔
            rust.source other.spec.metadata = rust.source commit.spec.metadata) ∧
          (sink = rust.sink commit.spec.metadata ↔
            rust.sink other.spec.metadata = rust.sink commit.spec.metadata) ∧
          (frame = ⟨commit.spec.encodedMetadata, commit.bytes⟩ ↔
            other.spec.encodedMetadata = commit.spec.encodedMetadata ∧
              other.bytes = commit.bytes) := by
  refine ⟨commit.sample rust config, fun s => Commit.sendsInit_iff hg,
    fun s => Commit.sendsUninit_iff hg, rfl, ?_, Commit.decode_sample h, ?_⟩
  · intro hne
    -- without a payload the loan has length zero
    by_contra habsent
    apply hne
    apply List.eq_nil_of_length_eq_zero
    rw [commit.length, commit.spec.absent (by simpa using habsent)]
  · intro other config' sample' hg' hsent
    -- on either path the other sample is that of its commit
    have hsample : sample' = other.sample rust config' := by
      rcases hsent with hinit | huninit
      · exact (Commit.sendsInit_iff hg').mp hinit
      · exact (Commit.sendsUninit_iff hg').mp huninit
    rw [hsample]
    exact ⟨_, _, _, Commit.decode_sample h, Iff.rfl, Iff.rfl, by rw [DdsRxFrame.mk.injEq]⟩

end receiving

/-- Metadata about a topic, whose URI is as long as its number and one more. -/
def topicZeroCopy : ZeroCopyRust Topic Topic where
  source := id
  sink := fun _ => none
  toUri := fun topic => String.ofList (List.replicate (topic.number + 1) '/')
  parse := fun uri => if uri.isEmpty then .error "empty URI" else .ok ⟨uri.length - 1⟩

theorem topicZeroCopy_lawful : topicZeroCopy.Lawful := by
  constructor
  · intro topic
    simp [topicZeroCopy, List.replicate_succ]
  · intro topic
    have hne : (String.ofList (List.replicate (topic.number + 1) '/')).isEmpty = false := by
      simp [List.replicate_succ]
    show (if (String.ofList _).isEmpty then Except.error "empty URI"
      else Except.ok (⟨(String.ofList _).length - 1⟩ : Topic)) = Except.ok topic
    rw [if_neg (by simp [hne]), String.length_ofList, List.length_replicate]
    rfl

/-- A commit without payload bytes. -/
def emptyCommit (topic : Nat) (hasPayload : Bool) : Commit Topic where
  spec :=
    { metadata := ⟨topic⟩, hasPayload := hasPayload, encodedMetadata := [], payloadLen := 0,
      payloadAlignment := 1, absent := fun _ => rfl }
  bytes := []
  writes := []
  length := rfl
  complete := fun i hi => absurd hi (Nat.not_lt_zero i)

/-- Two bytes, the first of them written twice. -/
def byteCommit : Commit Topic where
  spec :=
    { metadata := ⟨7⟩, hasPayload := true, encodedMetadata := [9], payloadLen := 2,
      payloadAlignment := 8, absent := by simp }
  bytes := [1, 2]
  writes := [(0, 5), (1, 2), (0, 1)]
  length := rfl
  complete := by
    intro i hi
    have hcases : i = 0 ∨ i = 1 := by
      simp only [List.length_cons, List.length_nil] at hi
      omega
    rcases hcases with rfl | rfl <;> rfl

/-- Its loan is aligned to 8 bytes. -/
theorem zero_copy_preserves_bytes :
    ∃ sample, (∀ s, byteCommit.SendsUninit topicZeroCopy (DdsConfig.new 1 1 0).1
        (fun _ => .ok ()) {} s ↔ s = sample) ∧
      topicZeroCopy.decodeZeroCopy sample = .ok (⟨7⟩, none, ⟨[9], [1, 2]⟩) := by
  obtain ⟨sample, _, huninit, _, _, hdecode, _⟩ := zero_copy_preserves topicZeroCopy_lawful
    (show byteCommit.Granted from rfl) (DdsConfig.new 1 1 0).1 (fun _ => .ok ()) {}
  exact ⟨sample, huninit, hdecode⟩

/-- An absent and a present but empty payload are received alike, and so are
    the frames of different sources. -/
theorem zero_copy_merges :
    (emptyCommit 7 false).spec.hasPayload ≠ (emptyCommit 7 true).spec.hasPayload ∧
    (emptyCommit 7 false).spec.metadata ≠ (emptyCommit 8 false).spec.metadata ∧
    ∃ absent present other,
      (emptyCommit 7 false).SendsInit topicZeroCopy (DdsConfig.new 1 1 0).1 (fun _ => .ok ()) {}
        absent ∧
      (emptyCommit 7 true).SendsInit topicZeroCopy (DdsConfig.new 1 1 0).1 (fun _ => .ok ()) {}
        present ∧
      (emptyCommit 8 false).SendsInit topicZeroCopy (DdsConfig.new 1 1 0).1 (fun _ => .ok ()) {}
        other ∧
      topicZeroCopy.decodeZeroCopy absent = .ok (⟨7⟩, none, ⟨[], []⟩) ∧
      topicZeroCopy.decodeZeroCopy present = .ok (⟨7⟩, none, ⟨[], []⟩) ∧
      topicZeroCopy.decodeZeroCopy other = .ok (⟨8⟩, none, ⟨[], []⟩) := by
  have hgranted : ∀ topic flag, (emptyCommit topic flag).Granted := fun _ _ => rfl
  have hsent : ∀ topic flag, (emptyCommit topic flag).SendsInit topicZeroCopy
      (DdsConfig.new 1 1 0).1 (fun _ => .ok ()) {}
      ((emptyCommit topic flag).sample topicZeroCopy (DdsConfig.new 1 1 0).1) :=
    fun topic flag => (Commit.sendsInit_iff (hgranted topic flag)).mpr rfl
  have hdecode : ∀ topic flag, topicZeroCopy.decodeZeroCopy
      ((emptyCommit topic flag).sample topicZeroCopy (DdsConfig.new 1 1 0).1) =
      .ok (⟨topic⟩, none, ⟨[], []⟩) :=
    fun topic flag => Commit.decode_sample topicZeroCopy_lawful
  exact ⟨by simp [emptyCommit], by simp [emptyCommit], _, _, _, hsent 7 false, hsent 7 true,
    hsent 8 false, hdecode 7 false, hdecode 7 true, hdecode 8 false⟩

end UpTransportDds
