import UpTransportDds.Carriage.Owned
import UpTransportDds.Carriage.ZeroCopy

/-! # Role processes: arguments, filters and messages

  Each role binary takes the same arguments. From them it makes the
  configuration of its transport, the filters it listens with, and the
  message it sends or answers with. URIs, builders and the projection of
  messages to frames belong to up-rust; they are a parameter here.
-/

namespace UpTransportDds

open Codec

/-! ### Arguments -/

inductive Role where
  | publisher
  | subscriber
  | notifier
  | notifyee
  | client
  | server
  deriving DecidableEq, Repr

inductive Encoding where
  | native
  | protobuf
  | xcdrv2
  | arrow
  | omgIdl
  deriving DecidableEq, Repr

inductive ReliabilityArg where
  | reliable
  | bestEffort
  deriving DecidableEq, Repr

/-- `Args`, without the route family. -/
structure Args where
  domainId : Int
  originId : Option String
  reliability : ReliabilityArg
  historyDepth : Nat
  encoding : Encoding
  localAuthority : String
  peerAuthority : String
  topicResourceId : UInt16
  methodResourceId : UInt16
  payload : String
  timeoutMs : Nat
  payloadAlignment : Nat
  deriving DecidableEq, Repr

/-- `config`, in the process `processId`, which has built no other. -/
def Args.config (args : Args) (processId : Nat) : DdsConfig :=
  let config := (DdsConfig.new processId 1 args.domainId).1
  { config with
    originId := args.originId.getD config.originId
    qos :=
      { reliability :=
          match args.reliability with
          | .reliable => .reliable
          | .bestEffort => .bestEffort
        historyDepth := args.historyDepth } }

def entityId : UInt32 := 0x5BA0

def entityVersion : UInt8 := 1

/-! ### up-rust -/

/-- What identifies and routes a message. -/
structure Head (UUri UMessageId : Type) where
  id : UMessageId
  source : UUri
  sink : Option UUri
  /-- The request that a response answers. -/
  requestId : Option UMessageId
  deriving DecidableEq, Repr

/-- The parts of up-rust, and of the wires built on it, that the role processes
    use. A builder takes the id of the message, which it generates in the
    code, before the payload. -/
structure RoleRust (UUri UMessageId PayloadEncoding UAttributes UFrameMetadata UMessage : Type)
    where
  classic : ClassicRust UUri UAttributes UFrameMetadata UMessage
  owned : OwnedRust UUri UFrameMetadata
  zeroCopy : ZeroCopyRust UUri UFrameMetadata
  tryFromParts : String → UInt32 → UInt8 → UInt16 → Except String UUri
  /-- `PayloadEncoding::RAW`. -/
  raw : PayloadEncoding
  protobufWire : PayloadEncoding
  xcdrV2Wire : PayloadEncoding
  arrowWire : PayloadEncoding
  omgIdlWire : PayloadEncoding
  /-- `UMessageBuilder::publish`: the topic. -/
  publish : UUri → UMessageId → Bytes → PayloadEncoding → Except String UMessage
  /-- `UMessageBuilder::notification`: the origin and the destination. -/
  notification : UUri → UUri → UMessageId → Bytes → PayloadEncoding → Except String UMessage
  /-- `UMessageBuilder::request`: the method to invoke, the reply-to address
      and the time to live. -/
  request : UUri → UUri → UInt32 → UMessageId → Bytes → PayloadEncoding → Except String UMessage
  /-- `UMessageBuilder::response`: the reply-to address, the id of the request
      and the invoked method. -/
  response : UUri → UMessageId → UUri → UMessageId → Bytes → PayloadEncoding →
    Except String UMessage
  /-- `UFrameMetadata::response`: the source, the sink and the id of the
      request. -/
  responseFrame : UUri → UUri → UMessageId → UMessageId → PayloadEncoding →
    Except String UFrameMetadata
  messageId : UMessage → UMessageId
  messageRequestId : UMessage → Option UMessageId
  frameId : UFrameMetadata → UMessageId
  frameRequestId : UFrameMetadata → Option UMessageId
  tryProjectUmessageToFrameMetadata : UMessage → Except String UFrameMetadata
  withPayload : UFrameMetadata → Bytes → Except String (UOwnedFrame UFrameMetadata)
  withoutPayload : UFrameMetadata → Except String (UOwnedFrame UFrameMetadata)
  /-- `UTxLoanSpec::payload` with a length and an alignment, prepared by the
      adapter of the wire. -/
  prepareTxLoanSpec : Encoding → UFrameMetadata → Nat → Nat →
    Except UStatus (PreparedTxLoanSpec UFrameMetadata)
  /-- What the adapter of the wire reads of the metadata of a sample. -/
  readMetadata : Encoding → Bytes → Except String UFrameMetadata

/-- An error of up-rust, as the status that a role process fails with. -/
def orInvalid {α : Type} (context : String) (x : Except String α) : Except UStatus α :=
  x.mapError fun error => invalid (context ++ ": " ++ error)

@[simp] theorem orInvalid_eq_ok {α : Type} {context : String} {x : Except String α} {a : α} :
    orInvalid context x = .ok a ↔ x = .ok a := by
  cases x <;> simp [orInvalid, Except.mapError]

variable {UUri UMessageId PayloadEncoding UAttributes UFrameMetadata UMessage : Type}

namespace RoleRust

variable (rust : RoleRust UUri UMessageId PayloadEncoding UAttributes UFrameMetadata UMessage)

/-- The head of a message. -/
def messageHead (message : UMessage) : Head UUri UMessageId where
  id := rust.messageId message
  source := rust.classic.source message
  sink := rust.classic.sink message
  requestId := rust.messageRequestId message

/-- The head of a frame. -/
def frameHead (metadata : UFrameMetadata) : Head UUri UMessageId where
  id := rust.frameId metadata
  source := rust.owned.source metadata
  sink := rust.owned.sink metadata
  requestId := rust.frameRequestId metadata

/-! ### The functions of a role process -/

/-- `encoding`. -/
def encoding : Encoding → PayloadEncoding
  | .native => rust.raw
  | .protobuf => rust.protobufWire
  | .xcdrv2 => rust.xcdrV2Wire
  | .arrow => rust.arrowWire
  | .omgIdl => rust.omgIdlWire

def topic (authority : String) (resourceId : UInt16) : Except UStatus UUri :=
  orInvalid "invalid topic URI" (rust.tryFromParts authority entityId entityVersion resourceId)

def endpoint (authority : String) : Except UStatus UUri :=
  orInvalid "invalid endpoint URI" (rust.tryFromParts authority entityId entityVersion 0)

def method (authority : String) (resourceId : UInt16) : Except UStatus UUri :=
  orInvalid "invalid method URI" (rust.tryFromParts authority entityId entityVersion resourceId)

/-- `outbound_message`. -/
def outboundMessage (role : Role) (args : Args) (id : UMessageId) : Except UStatus UMessage :=
  let payload := args.payload.toUTF8.data.toList
  let encoding := rust.encoding args.encoding
  match role with
  | .publisher =>
    (rust.topic args.localAuthority args.topicResourceId).bind fun topic =>
      orInvalid "build outbound message" (rust.publish topic id payload encoding)
  | .notifier =>
    (rust.topic args.localAuthority args.topicResourceId).bind fun topic =>
      (rust.endpoint args.peerAuthority).bind fun endpoint =>
        orInvalid "build outbound message" (rust.notification topic endpoint id payload encoding)
  | .client =>
    (rust.method args.peerAuthority args.methodResourceId).bind fun method =>
      (rust.endpoint args.localAuthority).bind fun endpoint =>
        orInvalid "build outbound message"
          (rust.request method endpoint (UInt32.ofNat (min args.timeoutMs (UInt32.size - 1))) id
            payload encoding)
  | .subscriber | .notifyee | .server => .error (invalid "passive role has no outbound request")

/-- `filters`. -/
def filters (role : Role) (args : Args) : Except UStatus (UUri × Option UUri) :=
  match role with
  | .subscriber =>
    (rust.topic args.peerAuthority args.topicResourceId).bind fun topic => .ok (topic, none)
  | .notifyee =>
    (rust.topic args.peerAuthority args.topicResourceId).bind fun topic =>
      (rust.endpoint args.localAuthority).bind fun endpoint => .ok (topic, some endpoint)
  | .client =>
    (rust.method args.peerAuthority args.methodResourceId).bind fun method =>
      (rust.endpoint args.localAuthority).bind fun endpoint => .ok (method, some endpoint)
  | .server =>
    (rust.endpoint args.peerAuthority).bind fun endpoint =>
      (rust.method args.localAuthority args.methodResourceId).bind fun method =>
        .ok (endpoint, some method)
  | .publisher | .notifier => .error (invalid "active one-way role has no filter")

/-- `response_metadata`. -/
def responseMetadata (request : UFrameMetadata) (args : Args) (id : UMessageId) :
    Except UStatus UFrameMetadata :=
  match rust.owned.sink request with
  | none => .error (invalid "request metadata has no sink")
  | some source =>
    orInvalid "build response metadata"
      (rust.responseFrame source (rust.owned.source request) (rust.frameId request) id
        (rust.encoding args.encoding))

/-- `response_message`. -/
def responseMessage (request : UMessage) (args : Args) (id : UMessageId) :
    Except UStatus UMessage :=
  match rust.classic.sink request with
  | none => .error (invalid "request has no sink")
  | some invokedMethod =>
    orInvalid "build response message"
      (rust.response (rust.classic.source request) (rust.messageId request) invokedMethod id
        ((rust.classic.payload request).getD []) (rust.encoding args.encoding))

/-- `frame_from_message`. -/
def frameFromMessage (message : UMessage) : Except UStatus (UOwnedFrame UFrameMetadata) :=
  (orInvalid "project frame metadata" (rust.tryProjectUmessageToFrameMetadata message)).bind
    fun metadata =>
      orInvalid "build owned frame"
        (match rust.classic.payload message with
          | some payload => rust.withPayload metadata payload
          | none => rust.withoutPayload metadata)

/-- A server has nothing to send first. -/
theorem outboundMessage_server (args : Args) (id : UMessageId) (message : UMessage) :
    rust.outboundMessage .server args id ≠ .ok message := by
  simp [outboundMessage]

/-! ### What the role processes rely on -/

/-- The method and the reply-to address of a request. -/
structure Addresses (Concrete : UUri → Prop) (resourceId : UUri → UInt16)
    (method endpoint : UUri) : Prop where
  concreteMethod : Concrete method
  concreteEndpoint : Concrete endpoint
  invoked : resourceId method ≠ 0
  replyTo : resourceId endpoint = 0

/-- What up-rust promises of URIs, of what its builders build and of what its
    codecs and adapters carry. `Concrete` URIs have no wildcards. -/
structure Lawful [UriMatches UUri]
    (rust : RoleRust UUri UMessageId PayloadEncoding UAttributes UFrameMetadata UMessage)
    (Concrete : UUri → Prop) (resourceId : UUri → UInt16) (WellFormed : UMessage → Prop) :
    Prop where
  classic : rust.classic.Lawful WellFormed
  owned : rust.owned.Lawful
  zeroCopy : rust.zeroCopy.Lawful
  tryFromParts : ∀ authority entity version resource uri,
    rust.tryFromParts authority entity version resource = .ok uri → resourceId uri = resource
  matches_concrete : ∀ filter uri, Concrete filter → uriMatches filter uri = true → uri = filter
  matches_resource : ∀ filter uri, uriMatches filter uri = true → resourceId filter = 0 →
    resourceId uri = 0
  /-- Only a method can be invoked, and a request has no wildcards. -/
  request : ∀ method replyTo ttl id payload encoding message,
    rust.request method replyTo ttl id payload encoding = .ok message →
      WellFormed message ∧ rust.messageHead message = ⟨id, replyTo, some method, none⟩ ∧
        Concrete method ∧ Concrete replyTo ∧ resourceId method ≠ 0
  response : ∀ replyTo requestId invokedMethod id payload encoding message,
    rust.response replyTo requestId invokedMethod id payload encoding = .ok message →
      WellFormed message ∧
        rust.messageHead message = ⟨id, invokedMethod, some replyTo, some requestId⟩
  responseFrame : ∀ source sink requestId id encoding metadata,
    rust.responseFrame source sink requestId id encoding = .ok metadata →
      rust.frameHead metadata = ⟨id, source, some sink, some requestId⟩
  project : ∀ message metadata,
    rust.tryProjectUmessageToFrameMetadata message = .ok metadata →
      rust.frameHead metadata = rust.messageHead message
  withPayload : ∀ metadata payload frame, rust.withPayload metadata payload = .ok frame →
    frame.metadata = metadata ∧ rust.owned.validate frame = .ok ()
  withoutPayload : ∀ metadata frame, rust.withoutPayload metadata = .ok frame →
    frame.metadata = metadata ∧ rust.owned.validate frame = .ok ()
  /-- The zero-copy core routes by the same fields of the metadata. -/
  routes : ∀ metadata, rust.zeroCopy.source metadata = rust.owned.source metadata ∧
    rust.zeroCopy.sink metadata = rust.owned.sink metadata
  prepareTxLoanSpec : ∀ wire metadata length alignment spec,
    rust.prepareTxLoanSpec wire metadata length alignment = .ok spec →
      spec.metadata = metadata ∧ spec.hasPayload = true ∧ spec.payloadLen = length ∧
        spec.payloadAlignment = alignment
  /-- What a wire reads of the metadata that a wire has written is what was
      written. -/
  readMetadata : ∀ wire wire' metadata length alignment spec read,
    rust.prepareTxLoanSpec wire metadata length alignment = .ok spec →
      rust.readMetadata wire' spec.encodedMetadata = .ok read → read = metadata

section laws
variable [UriMatches UUri]
  {rust : RoleRust UUri UMessageId PayloadEncoding UAttributes UFrameMetadata UMessage}
  {Concrete : UUri → Prop} {resourceId : UUri → UInt16} {WellFormed : UMessage → Prop}
  {args : Args} {id : UMessageId}

/-- A client's request goes from its endpoint to the method of its peer, which
    are its filters. -/
theorem outboundMessage_client (h : rust.Lawful Concrete resourceId WellFormed)
    {message : UMessage} (hbuilt : rust.outboundMessage .client args id = .ok message) :
    WellFormed message ∧ ∃ method endpoint,
      rust.filters .client args = .ok (method, some endpoint) ∧
      rust.messageHead message = ⟨id, endpoint, some method, none⟩ ∧
      Addresses Concrete resourceId method endpoint := by
  simp only [outboundMessage, bind_eq_ok, orInvalid_eq_ok] at hbuilt
  obtain ⟨method, hmethod, endpoint, hendpoint, hrequest⟩ := hbuilt
  obtain ⟨hwell, hhead, hconcrete, hreply, hresource⟩ := h.request _ _ _ _ _ _ _ hrequest
  refine ⟨hwell, method, endpoint, ?_, hhead, hconcrete, hreply, hresource, ?_⟩
  · simp only [filters, bind_eq_ok]
    exact ⟨method, hmethod, endpoint, hendpoint, rfl⟩
  · exact h.tryFromParts _ _ _ _ _ (orInvalid_eq_ok.mp hendpoint)

/-- A server listens to endpoints. -/
theorem filters_server (h : rust.Lawful Concrete resourceId WellFormed) {source : UUri}
    {sink : Option UUri} (hfilters : rust.filters .server args = .ok (source, sink)) :
    resourceId source = 0 := by
  simp only [filters, bind_eq_ok, Except.ok.injEq, Prod.mk.injEq] at hfilters
  obtain ⟨endpoint, hendpoint, method, hmethod, hsource, _⟩ := hfilters
  rw [← hsource]
  exact h.tryFromParts _ _ _ _ _ (orInvalid_eq_ok.mp hendpoint)

/-- A response message goes back where the request came from. -/
theorem responseMessage_ok (h : rust.Lawful Concrete resourceId WellFormed)
    {request message : UMessage} (hbuilt : rust.responseMessage request args id = .ok message) :
    WellFormed message ∧ ∃ sink, (rust.messageHead request).sink = some sink ∧
      rust.messageHead message = ⟨id, sink, some (rust.messageHead request).source,
        some (rust.messageHead request).id⟩ := by
  unfold responseMessage at hbuilt
  split at hbuilt
  · contradiction
  · rename_i invokedMethod hsink
    obtain ⟨hwell, hhead⟩ := h.response _ _ _ _ _ _ _ (orInvalid_eq_ok.mp hbuilt)
    exact ⟨hwell, invokedMethod, hsink, hhead⟩

/-- So does the metadata of a response frame. -/
theorem responseMetadata_ok (h : rust.Lawful Concrete resourceId WellFormed)
    {request metadata : UFrameMetadata}
    (hbuilt : rust.responseMetadata request args id = .ok metadata) :
    ∃ sink, (rust.frameHead request).sink = some sink ∧
      rust.frameHead metadata = ⟨id, sink, some (rust.frameHead request).source,
        some (rust.frameHead request).id⟩ := by
  unfold responseMetadata at hbuilt
  split at hbuilt
  · contradiction
  · rename_i source hsink
    exact ⟨source, hsink, h.responseFrame _ _ _ _ _ _ (orInvalid_eq_ok.mp hbuilt)⟩

/-- The frame of a message is valid and has its head. -/
theorem frameFromMessage_ok (h : rust.Lawful Concrete resourceId WellFormed) {message : UMessage}
    {frame : UOwnedFrame UFrameMetadata} (hframe : rust.frameFromMessage message = .ok frame) :
    rust.owned.validate frame = .ok () ∧
      rust.frameHead frame.metadata = rust.messageHead message := by
  simp only [frameFromMessage, bind_eq_ok, orInvalid_eq_ok] at hframe
  obtain ⟨metadata, hproject, hbuilt⟩ := hframe
  -- with or without a payload
  obtain ⟨hmetadata, hvalid⟩ : frame.metadata = metadata ∧ rust.owned.validate frame = .ok () := by
    split at hbuilt
    · exact h.withPayload _ _ _ hbuilt
    · exact h.withoutPayload _ _ hbuilt
  rw [hmetadata]
  exact ⟨hvalid, h.project _ _ hproject⟩

end laws

end RoleRust

end UpTransportDds
