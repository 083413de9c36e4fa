import UpTransportDds.Carriage.Sample

/-! # The classic family

  Carries a `UMessage` as its protobuf attributes next to its payload. The
  attribute codec and the projections between messages and frames belong to
  up-rust; they are a parameter here, with what the transport relies on as
  `Lawful`.
-/

namespace UpTransportDds

open Codec

/-- The parts of up-rust that the classic family uses. Errors are given by the
    texts they print. -/
structure ClassicRust (UUri UAttributes UFrameMetadata UMessage : Type) where
  attributes : UMessage → UAttributes
  payload : UMessage → Option Bytes
  source : UMessage → UUri
  sink : UMessage → Option UUri
  writeToProtobufBytes : UAttributes → Except String Bytes
  parseFromProtobufBytes : Bytes → Except String UAttributes
  tryProjectAttributesToFrameMetadata : UAttributes → Except String UFrameMetadata
  tryProjectFrameToUmessage : UFrameMetadata → Option Bytes → Except String UMessage
  verifyFilterCriteria : UUri → Option UUri → Except UStatus Unit

structure UpDdsClassicSampleV1 where
  originId : String
  attributesProto : Bytes
  hasPayload : Bool
  payload : Bytes
  deriving DecidableEq, Repr

/-- The two fields that carry the payload. -/
def UpDdsClassicSampleV1.payloadFields (sample : UpDdsClassicSampleV1) : Bool × Bytes :=
  (sample.hasPayload, sample.payload)

variable {UUri UAttributes UFrameMetadata UMessage : Type}

namespace ClassicRust

/-- Attributes are written and parsed, and messages projected to frames and
    back, without loss as long as the message is well-formed, and a projection
    gives a well-formed message with the payload it was given. -/
structure Lawful (rust : ClassicRust UUri UAttributes UFrameMetadata UMessage)
    (WellFormed : UMessage → Prop) : Prop where
  attributes : ∀ m, WellFormed m → ∃ proto,
    rust.writeToProtobufBytes (rust.attributes m) = .ok proto ∧
      rust.parseFromProtobufBytes proto = .ok (rust.attributes m)
  projection : ∀ m, WellFormed m → ∃ metadata,
    rust.tryProjectAttributesToFrameMetadata (rust.attributes m) = .ok metadata ∧
      rust.tryProjectFrameToUmessage metadata (rust.payload m) = .ok m
  projected : ∀ metadata payload m,
    rust.tryProjectFrameToUmessage metadata payload = .ok m →
      WellFormed m ∧ rust.payload m = payload

variable (rust : ClassicRust UUri UAttributes UFrameMetadata UMessage)

/-- `decode_classic`. -/
def decodeClassic (sample : UpDdsClassicSampleV1) : Except String UMessage :=
  if !sample.hasPayload && !sample.payload.isEmpty then
    .error "classic sample has payload bytes while has_payload is false"
  else
    (step "invalid classic attributes"
        (rust.parseFromProtobufBytes sample.attributesProto)).bind fun attributes =>
      (step "invalid classic metadata"
          (rust.tryProjectAttributesToFrameMetadata attributes)).bind fun metadata =>
        step "invalid classic message"
          (rust.tryProjectFrameToUmessage metadata (unflagged sample.hasPayload sample.payload))

/-- The sample that `UPTransportDds::send` builds. -/
def encodeClassic (config : DdsConfig) (message : UMessage) :
    Except UStatus UpDdsClassicSampleV1 :=
  match rust.writeToProtobufBytes (rust.attributes message) with
  | .error error => .error (invalid ("encode classic attributes: " ++ error))
  | .ok attributesProto =>
    let (hasPayload, payload) := flagged (rust.payload message)
    .ok { originId := config.originId, attributesProto := attributesProto,
          hasPayload := hasPayload, payload := payload }

/-- `UPTransportDds::send`. -/
def sendClassic (config : DdsConfig) (writer : Option (Writer UpDdsClassicSampleV1))
    (health : HealthState) (message : UMessage) : Sent UpDdsClassicSampleV1 :=
  sendSample "classic" writer health (rust.encodeClassic config message)

/-- What the classic loops differ in from those of the other families. -/
def carriage : Carriage UUri UpDdsClassicSampleV1 UMessage where
  name := "classic"
  originId := UpDdsClassicSampleV1.originId
  decode := rust.decodeClassic
  source := rust.source
  sink := rust.sink
  verifyFilterCriteria := rust.verifyFilterCriteria

section roundtrip
variable {rust : ClassicRust UUri UAttributes UFrameMetadata UMessage}
  {WellFormed : UMessage → Prop} {config : DdsConfig} {sample : UpDdsClassicSampleV1}
  {message : UMessage}

theorem decodeClassic_eq_ok :
    rust.decodeClassic sample = .ok message ↔
      Consistent sample.hasPayload sample.payload ∧ ∃ attributes metadata,
        rust.parseFromProtobufBytes sample.attributesProto = .ok attributes ∧
        rust.tryProjectAttributesToFrameMetadata attributes = .ok metadata ∧
        rust.tryProjectFrameToUmessage metadata
          (unflagged sample.hasPayload sample.payload) = .ok message := by
  unfold decodeClassic Consistent
  cases hflag : sample.hasPayload <;> cases hpayload : sample.payload <;>
    simp [bind_eq_ok]

theorem encodeClassic_eq_ok :
    rust.encodeClassic config message = .ok sample ↔
      sample.originId = config.originId ∧
      rust.writeToProtobufBytes (rust.attributes message) = .ok sample.attributesProto ∧
      sample.payloadFields = flagged (rust.payload message) := by
  unfold encodeClassic
  cases hwrite : rust.writeToProtobufBytes (rust.attributes message) with
  | error error => simp
  | ok proto =>
    obtain ⟨originId, attributesProto, hasPayload, payload⟩ := sample
    simp only [UpDdsClassicSampleV1.payloadFields, Except.ok.injEq,
      UpDdsClassicSampleV1.mk.injEq, Prod.ext_iff]
    constructor
    · intro ⟨horigin, hproto, hflag, hbytes⟩
      exact ⟨horigin.symm, hproto, hflag.symm, hbytes.symm⟩
    · intro ⟨horigin, hproto, hflag, hbytes⟩
      exact ⟨horigin.symm, hproto, hflag.symm, hbytes.symm⟩

/-- A well-formed message can be encoded, and is decoded as it was. -/
theorem decode_encodeClassic (config : DdsConfig) (h : rust.Lawful WellFormed)
    (hm : WellFormed message) :
    (∃ sample, rust.encodeClassic config message = .ok sample) ∧
    ∀ sample, rust.encodeClassic config message = .ok sample →
      rust.decodeClassic sample = .ok message := by
  obtain ⟨proto, hwrite, hparse⟩ := h.attributes message hm
  obtain ⟨metadata, hmetadata, hmessage⟩ := h.projection message hm
  constructor
  · simp [encodeClassic, hwrite]
  · intro sample hencode
    obtain ⟨_, hproto, hfields⟩ := encodeClassic_eq_ok.mp hencode
    rw [hwrite] at hproto
    obtain rfl : proto = sample.attributesProto := Except.ok.inj hproto
    have hflag : sample.hasPayload = (flagged (rust.payload message)).1 :=
      congrArg Prod.fst hfields
    have hpayload : sample.payload = (flagged (rust.payload message)).2 :=
      congrArg Prod.snd hfields
    refine decodeClassic_eq_ok.mpr ⟨?_, _, metadata, hparse, hmetadata, ?_⟩
    · rw [hflag, hpayload]
      exact consistent_flagged
    · rw [hflag, hpayload, unflagged_flagged]
      exact hmessage

/-- The payload fields of an accepted sample are those of its message. -/
theorem payloadFields_of_decode (h : rust.Lawful WellFormed)
    (hdecode : rust.decodeClassic sample = .ok message) :
    WellFormed message ∧ flagged (rust.payload message) = sample.payloadFields := by
  obtain ⟨hconsistent, _, metadata, _, _, hmessage⟩ := decodeClassic_eq_ok.mp hdecode
  obtain ⟨hwell, hpayload⟩ := h.projected _ _ _ hmessage
  refine ⟨hwell, ?_⟩
  rw [hpayload]
  exact flagged_unflagged hconsistent

/-- `Carries` for the classic family. -/
theorem carries_classic (h : rust.Lawful WellFormed) (config : DdsConfig)
    (write : Writer UpDdsClassicSampleV1) (health : HealthState) :
    Carries (fun m sample => (rust.sendClassic config (some write) health m).written = some sample)
      rust.decodeClassic UpDdsClassicSampleV1.payloadFields rust.payload WellFormed where
  sends := by
    intro m hm
    obtain ⟨sample, hencode⟩ := (decode_encodeClassic config h hm).1
    exact ⟨sample, written_sendSample.mpr hencode⟩
  roundTrip := by
    intro m sample hm hwritten
    exact (decode_encodeClassic config h hm).2 sample (written_sendSample.mp hwritten)
  good := fun sample m hdecode => (payloadFields_of_decode h hdecode).1
  canonical := by
    intro sample m sample' hdecode hwritten
    rw [(encodeClassic_eq_ok.mp (written_sendSample.mp hwritten)).2.2]
    exact (payloadFields_of_decode h hdecode).2
  presence := fun m sample hwritten =>
    (encodeClassic_eq_ok.mp (written_sendSample.mp hwritten)).2.2
  rejects := by
    intro sample hflag hbytes m hdecode
    rcases (decodeClassic_eq_ok.mp hdecode).1 with hset | hempty
    · rw [show sample.hasPayload = false from hflag] at hset
      contradiction
    · exact hbytes hempty

end roundtrip

end ClassicRust

/-- Messages about a topic, which is written in unary; 0 is no topic. -/
def topicClassic : ClassicRust Topic Topic Topic (Topic × Option Bytes) where
  attributes := Prod.fst
  payload := Prod.snd
  source := Prod.fst
  sink := fun _ => none
  writeToProtobufBytes := fun topic => .ok (List.replicate topic.number 1)
  parseFromProtobufBytes := fun proto =>
    if proto = [] then .error "no topic" else .ok ⟨proto.length⟩
  tryProjectAttributesToFrameMetadata := .ok
  tryProjectFrameToUmessage := fun topic payload =>
    if topic.number = 0 then .error "no topic" else .ok (topic, payload)
  verifyFilterCriteria := fun _ _ => .ok ()

theorem topicClassic_lawful : topicClassic.Lawful fun m => m.1.number ≠ 0 where
  attributes := by
    intro m hm
    exact ⟨_, rfl, by simp [topicClassic, hm]⟩
  projection := by
    intro m hm
    exact ⟨m.1, rfl, if_neg hm⟩
  projected := by
    intro topic payload m hproject
    by_cases hzero : topic.number = 0
    · simp [topicClassic, hzero] at hproject
    · obtain rfl : (topic, payload) = m := by simpa [topicClassic, hzero] using hproject
      exact ⟨hzero, rfl⟩

end UpTransportDds
