import UpTransportDds.Carriage.Classic

/-! # The owned family

  Carries a validated frame: its metadata as a field block next to its
  payload. The field codec and the validation belong to up-rust.
-/

namespace UpTransportDds

open Codec

/-- `UOwnedFrame` of up-rust. -/
structure UOwnedFrame (UFrameMetadata : Type) where
  metadata : UFrameMetadata
  payload : Option Bytes
  deriving DecidableEq, Repr

/-- The parts of up-rust that the owned family uses. -/
structure OwnedRust (UUri UFrameMetadata : Type) where
  source : UFrameMetadata → UUri
  sink : UFrameMetadata → Option UUri
  encodeFrameMetadataFields : UFrameMetadata → Except String Bytes
  decodeFrameMetadataFields : Bytes → Except String UFrameMetadata
  validate : UOwnedFrame UFrameMetadata → Except String Unit

/-- `ValidatedOwnedFrame` of up-rust: a frame that `validate` accepts. -/
structure ValidatedOwnedFrame {UUri UFrameMetadata : Type} (rust : OwnedRust UUri UFrameMetadata)
    where
  intoInner : UOwnedFrame UFrameMetadata
  valid : rust.validate intoInner = .ok ()

structure UpDdsOwnedSampleV1 where
  originId : String
  metadataFields : Bytes
  hasPayload : Bool
  payload : Bytes
  deriving DecidableEq, Repr

/-- The two fields that carry the payload. -/
def UpDdsOwnedSampleV1.payloadFields (sample : UpDdsOwnedSampleV1) : Bool × Bytes :=
  (sample.hasPayload, sample.payload)

variable {UUri UFrameMetadata : Type}

namespace OwnedRust

/-- The field codec loses nothing of the metadata of a valid frame. -/
def Lawful (rust : OwnedRust UUri UFrameMetadata) : Prop :=
  ∀ frame, rust.validate frame = .ok () → ∃ fields,
    rust.encodeFrameMetadataFields frame.metadata = .ok fields ∧
      rust.decodeFrameMetadataFields fields = .ok frame.metadata

variable (rust : OwnedRust UUri UFrameMetadata)

/-- `decode_owned`. -/
def decodeOwned (sample : UpDdsOwnedSampleV1) : Except String (UOwnedFrame UFrameMetadata) :=
  if !sample.hasPayload && !sample.payload.isEmpty then
    .error "owned sample has payload bytes while has_payload is false"
  else
    (step "invalid owned metadata"
        (rust.decodeFrameMetadataFields sample.metadataFields)).bind fun metadata =>
      let frame := ⟨metadata, unflagged sample.hasPayload sample.payload⟩
      (step "invalid owned frame" (rust.validate frame)).bind fun _ => .ok frame

/-- The sample that `send_validated_owned` builds. -/
def encodeOwned (config : DdsConfig) (frame : UOwnedFrame UFrameMetadata) :
    Except UStatus UpDdsOwnedSampleV1 :=
  match rust.encodeFrameMetadataFields frame.metadata with
  | .error error => .error (invalid ("encode owned metadata: " ++ error))
  | .ok metadataFields =>
    let (hasPayload, payload) := flagged frame.payload
    .ok { originId := config.originId, metadataFields := metadataFields,
          hasPayload := hasPayload, payload := payload }

/-- `UPTransportDdsOwned::send_validated_owned`. -/
def sendValidatedOwned (config : DdsConfig) (writer : Option (Writer UpDdsOwnedSampleV1))
    (health : HealthState) (frame : ValidatedOwnedFrame rust) : Sent UpDdsOwnedSampleV1 :=
  sendSample "owned" writer health (rust.encodeOwned config frame.intoInner)

/-- What the owned loops differ in from those of the other families. Filters
    are not verified here. -/
def carriage : Carriage UUri UpDdsOwnedSampleV1 (UOwnedFrame UFrameMetadata) where
  name := "owned"
  originId := UpDdsOwnedSampleV1.originId
  decode := rust.decodeOwned
  source := fun frame => rust.source frame.metadata
  sink := fun frame => rust.sink frame.metadata
  verifyFilterCriteria := fun _ _ => .ok ()

section roundtrip
variable {rust : OwnedRust UUri UFrameMetadata} {config : DdsConfig}
  {sample : UpDdsOwnedSampleV1} {frame : UOwnedFrame UFrameMetadata}

theorem decodeOwned_eq_ok :
    rust.decodeOwned sample = .ok frame ↔
      Consistent sample.hasPayload sample.payload ∧
      rust.decodeFrameMetadataFields sample.metadataFields = .ok frame.metadata ∧
      rust.validate frame = .ok () ∧
      frame.payload = unflagged sample.hasPayload sample.payload := by
  obtain ⟨metadata, payload⟩ := frame
  have hchain : ∀ field : Option Bytes,
      ((step "invalid owned metadata"
          (rust.decodeFrameMetadataFields sample.metadataFields)).bind fun metadata =>
        (step "invalid owned frame" (rust.validate ⟨metadata, field⟩)).bind fun _ =>
          .ok (⟨metadata, field⟩ : UOwnedFrame UFrameMetadata)) = .ok ⟨metadata, payload⟩ ↔
      rust.decodeFrameMetadataFields sample.metadataFields = .ok metadata ∧
        rust.validate ⟨metadata, payload⟩ = .ok () ∧ payload = field := by
    intro field
    simp only [bind_eq_ok, step_eq_ok, Except.ok.injEq, UOwnedFrame.mk.injEq]
    constructor
    · rintro ⟨read, hread, _, hvalid, hmetadata, hpayload⟩
      rw [hmetadata, hpayload] at hvalid
      rw [hmetadata] at hread
      exact ⟨hread, hvalid, hpayload.symm⟩
    · rintro ⟨hread, hvalid, hpayload⟩
      rw [hpayload] at hvalid
      exact ⟨metadata, hread, (), hvalid, rfl, hpayload.symm⟩
  unfold decodeOwned Consistent
  cases hflag : sample.hasPayload <;> cases hpayload : sample.payload
  · simpa using hchain (unflagged false [])
  · simp
  · simpa using hchain (unflagged true [])
  · simpa using hchain (unflagged true _)

theorem encodeOwned_eq_ok :
    rust.encodeOwned config frame = .ok sample ↔
      sample.originId = config.originId ∧
      rust.encodeFrameMetadataFields frame.metadata = .ok sample.metadataFields ∧
      sample.payloadFields = flagged frame.payload := by
  unfold encodeOwned
  cases hencode : rust.encodeFrameMetadataFields frame.metadata with
  | error error => simp
  | ok fields =>
    obtain ⟨originId, metadataFields, hasPayload, payload⟩ := sample
    simp only [UpDdsOwnedSampleV1.payloadFields, Except.ok.injEq,
      UpDdsOwnedSampleV1.mk.injEq, Prod.ext_iff]
    constructor
    · intro ⟨horigin, hfields, hflag, hbytes⟩
      exact ⟨horigin.symm, hfields, hflag.symm, hbytes.symm⟩
    · intro ⟨horigin, hfields, hflag, hbytes⟩
      exact ⟨horigin.symm, hfields, hflag.symm, hbytes.symm⟩

/-- A valid frame can be encoded, and is decoded as it was. -/
theorem decode_encodeOwned (config : DdsConfig) (h : rust.Lawful)
    (hvalid : rust.validate frame = .ok ()) :
    (∃ sample, rust.encodeOwned config frame = .ok sample) ∧
    ∀ sample, rust.encodeOwned config frame = .ok sample → rust.decodeOwned sample = .ok frame := by
  obtain ⟨fields, hencode, hread⟩ := h frame hvalid
  constructor
  · simp [encodeOwned, hencode]
  · intro sample hsample
    obtain ⟨_, hfields, hpayload⟩ := encodeOwned_eq_ok.mp hsample
    rw [hencode] at hfields
    obtain rfl : fields = sample.metadataFields := Except.ok.inj hfields
    have hflag : sample.hasPayload = (flagged frame.payload).1 := congrArg Prod.fst hpayload
    have hbytes : sample.payload = (flagged frame.payload).2 := congrArg Prod.snd hpayload
    refine decodeOwned_eq_ok.mpr ⟨?_, hread, hvalid, ?_⟩
    · rw [hflag, hbytes]
      exact consistent_flagged
    · rw [hflag, hbytes, unflagged_flagged]

/-- The payload fields of an accepted sample are those of its frame. -/
theorem payloadFields_of_decode (hdecode : rust.decodeOwned sample = .ok frame) :
    flagged frame.payload = sample.payloadFields := by
  obtain ⟨hconsistent, _, _, hpayload⟩ := decodeOwned_eq_ok.mp hdecode
  rw [hpayload]
  exact flagged_unflagged hconsistent

/-- `Carries` for the owned family. -/
theorem carries_owned (h : rust.Lawful) (config : DdsConfig) (write : Writer UpDdsOwnedSampleV1)
    (health : HealthState) :
    Carries
      (fun frame sample => ∃ validated : ValidatedOwnedFrame rust,
        validated.intoInner = frame ∧
          (rust.sendValidatedOwned config (some write) health validated).written = some sample)
      rust.decodeOwned UpDdsOwnedSampleV1.payloadFields UOwnedFrame.payload
      (fun frame => rust.validate frame = .ok ()) where
  sends := by
    intro frame hvalid
    obtain ⟨sample, hencode⟩ := (decode_encodeOwned config h hvalid).1
    exact ⟨sample, ⟨frame, hvalid⟩, rfl, written_sendSample.mpr hencode⟩
  roundTrip := by
    intro frame sample hvalid ⟨validated, hframe, hwritten⟩
    have hencode := written_sendSample.mp hwritten
    rw [hframe] at hencode
    exact (decode_encodeOwned config h hvalid).2 sample hencode
  good := fun sample frame hdecode => (decodeOwned_eq_ok.mp hdecode).2.2.1
  canonical := by
    intro sample frame sample' hdecode ⟨validated, hframe, hwritten⟩
    have hencode := written_sendSample.mp hwritten
    rw [hframe] at hencode
    rw [(encodeOwned_eq_ok.mp hencode).2.2]
    exact payloadFields_of_decode hdecode
  presence := by
    intro frame sample ⟨validated, hframe, hwritten⟩
    have hencode := written_sendSample.mp hwritten
    rw [hframe] at hencode
    exact (encodeOwned_eq_ok.mp hencode).2.2
  rejects := by
    intro sample hflag hbytes frame hdecode
    rcases (decodeOwned_eq_ok.mp hdecode).1 with hset | hempty
    · rw [show sample.hasPayload = false from hflag] at hset
      contradiction
    · exact hbytes hempty

end roundtrip

end OwnedRust

/-- Frames about a topic, which is written in unary; 0 is no topic. -/
def topicOwned : OwnedRust Topic Topic where
  source := id
  sink := fun _ => none
  encodeFrameMetadataFields := fun topic => .ok (List.replicate topic.number 1)
  decodeFrameMetadataFields := fun fields => .ok ⟨fields.length⟩
  validate := fun frame => if frame.metadata.number = 0 then .error "no topic" else .ok ()

theorem topicOwned_lawful : topicOwned.Lawful := by
  intro frame _
  exact ⟨_, rfl, by simp [topicOwned]⟩

/-! ### Classic and owned samples -/

section both
variable {UAttributes UClassicMetadata UMessage : Type}
  {classic : ClassicRust UUri UAttributes UClassicMetadata UMessage}
  {owned : OwnedRust UUri UFrameMetadata} {WellFormed : UMessage → Prop}

/-- **Classic and owned samples round-trip, and their payload fields are
    canonical.** -/
theorem samples_canonical (hclassic : classic.Lawful WellFormed) (howned : owned.Lawful)
    (config : DdsConfig) (health : HealthState) (writeClassic : Writer UpDdsClassicSampleV1)
    (writeOwned : Writer UpDdsOwnedSampleV1) :
    Carries
      (fun m sample =>
        (classic.sendClassic config (some writeClassic) health m).written = some sample)
      classic.decodeClassic UpDdsClassicSampleV1.payloadFields classic.payload WellFormed ∧
    Carries
      (fun frame sample => ∃ validated : ValidatedOwnedFrame owned,
        validated.intoInner = frame ∧
          (owned.sendValidatedOwned config (some writeOwned) health validated).written =
            some sample)
      owned.decodeOwned UpDdsOwnedSampleV1.payloadFields UOwnedFrame.payload
      (fun frame => owned.validate frame = .ok ()) ∧
    (∀ sample sample' m, classic.decodeClassic sample = .ok m →
      classic.decodeClassic sample' = .ok m → sample.payloadFields = sample'.payloadFields) ∧
    (∀ sample sample' frame, owned.decodeOwned sample = .ok frame →
      owned.decodeOwned sample' = .ok frame → sample.payloadFields = sample'.payloadFields) := by
  have hm := ClassicRust.carries_classic hclassic config writeClassic health
  have hf := OwnedRust.carries_owned howned config writeOwned health
  refine ⟨hm, hf, ?_, ?_⟩
  · intro sample sample' m hdecode hdecode'
    exact hm.agree hdecode hdecode'
  · intro sample sample' frame hdecode hdecode'
    exact hf.agree hdecode hdecode'

end both

/-- A present but empty payload survives both ways. -/
theorem samples_canonical_topic :
    (∃ sample, (topicClassic.sendClassic (DdsConfig.new 1 1 0).1 (some fun _ => .ok ()) {}
        (⟨7⟩, some [])).written = some sample ∧
      topicClassic.decodeClassic sample = .ok (⟨7⟩, some []) ∧
      sample.payloadFields = (true, [])) ∧
    ∀ sample sample' frame, topicOwned.decodeOwned sample = .ok frame →
      topicOwned.decodeOwned sample' = .ok frame →
        sample.payloadFields = sample'.payloadFields := by
  obtain ⟨hm, _, _, hagree⟩ := samples_canonical topicClassic_lawful topicOwned_lawful
    (DdsConfig.new 1 1 0).1 {} (fun _ => .ok ()) (fun _ => .ok ())
  have hgood : ((⟨7⟩, some []) : Topic × Option Bytes).1.number ≠ 0 := by decide
  obtain ⟨sample, hsent⟩ := hm.sends (⟨7⟩, some []) hgood
  exact ⟨⟨sample, hsent, hm.roundTrip _ sample hgood hsent, hm.presence _ sample hsent⟩, hagree⟩

end UpTransportDds
