import UpTransportDds.Roles.Args

/-! # Role processes: the route families

  `run_classic`, `run_owned` and `run_zero_copy` differ in the messages they
  exchange, in the transport that carries them and in when they wait for
  peers. A route says what each of them does.
-/

namespace UpTransportDds

open Codec

/-! ### Routes -/

/-- The steps a role process takes, each of which may end it with an error. -/
inductive Action where
  /-- `with_config`. -/
  | create
  /-- `wait_ready` for this many matches. -/
  | ready (matched : Nat)
  /-- `filters`, and the registration of a listener that forwards what it
      receives into the channel. -/
  | register
  /-- `outbound_message`, and its `send`. -/
  | send
  /-- `receive`: the first message out of the channel. -/
  | receive
  /-- The response to what has been received, and its `send`. -/
  | respond
  deriving DecidableEq, Repr

/-- Does the step send a message? -/
def Action.sends : Action → Bool
  | .send | .respond => true
  | _ => false

/-- What a route family does. -/
structure Route (UUri UMessageId Sample Received Message : Type) where
  /-- What `receive` waits for, in its error texts. -/
  what : String
  carriage : Carriage UUri Sample Received
  script : Role → List Action
  filters : Role → Args → Except UStatus (UUri × Option UUri)
  outbound : Role → Args → UMessageId → Except UStatus Message
  response : Message → Args → UMessageId → Except UStatus Message
  /-- What the transport answers, and the sample handed to its writer. -/
  send : DdsConfig → Args → Writer Sample → Message → Except UStatus Unit × Option Sample
  /-- What the listener gets of what has been received. -/
  listen : Args → Received → Option Message
  head : Message → Head UUri UMessageId

/-- The order of `run_classic` and `run_owned`. -/
def scriptOwned : Role → List Action
  | .publisher | .notifier => [.create, .ready 2, .send]
  | .client => [.create, .register, .ready 2, .send, .receive]
  | .server => [.create, .register, .receive, .ready 2, .respond]
  | .subscriber | .notifyee => [.create, .register, .receive]

/-- The order of `run_zero_copy`. -/
def scriptZeroCopy : Role → List Action
  | .publisher | .notifier => [.create, .ready 2, .send]
  | .client => [.create, .ready 2, .register, .send, .receive]
  | .server => [.create, .ready 1, .register, .receive, .respond]
  | .subscriber | .notifyee => [.create, .ready 1, .register, .receive]

/-- A client sends once, receives and does not respond. -/
def ClientScript (script : List Action) : Prop :=
  .respond ∉ script ∧ .receive ∈ script ∧ script.countP Action.sends = 1

theorem client_scriptOwned : ClientScript (scriptOwned .client) :=
  ⟨by decide, by decide, by decide⟩

theorem client_scriptZeroCopy : ClientScript (scriptZeroCopy .client) :=
  ⟨by decide, by decide, by decide⟩

/-- Nobody receives twice. -/
theorem once_scriptOwned (role : Role) : (scriptOwned role).count .receive ≤ 1 := by
  cases role <;> decide

theorem once_scriptZeroCopy (role : Role) : (scriptZeroCopy role).count .receive ≤ 1 := by
  cases role <;> decide

/-- The writes of `copy_from_slice` into a loan. -/
def copyFromSlice (bytes : Bytes) : List (Nat × UInt8) := bytes.zipIdx.map Prod.swap

/-- They leave the slice behind. -/
theorem writes_copyFromSlice (bytes : Bytes) : AlignedBytes.Writes (copyFromSlice bytes) bytes := by
  induction bytes using List.reverseRecOn with
  | nil =>
    intro i hi
    exact absurd hi (Nat.not_lt_zero i)
  | append_singleton bytes byte ih =>
    intro i hi
    have hwrites : copyFromSlice (bytes ++ [byte]) =
        copyFromSlice bytes ++ [(bytes.length, byte)] := by
      simp [copyFromSlice, List.zipIdx_append]
    rw [hwrites, AlignedBytes.lastWrite_append]
    by_cases hlast : bytes.length = i
    · rw [if_pos hlast, ← hlast]
      simp
    · have hlt : i < bytes.length := by
        simp only [List.length_append, List.length_singleton] at hi
        omega
      rw [if_neg hlast, ih i hlt, List.getElem?_append_left hlt]

variable {UUri UMessageId PayloadEncoding UAttributes UFrameMetadata UMessage : Type}

namespace RoleRust

variable (rust : RoleRust UUri UMessageId PayloadEncoding UAttributes UFrameMetadata UMessage)

/-- `run_classic`. -/
def routeClassic : Route UUri UMessageId UpDdsClassicSampleV1 UMessage UMessage where
  what := "classic message"
  carriage := rust.classic.carriage
  script := scriptOwned
  filters := rust.filters
  outbound := rust.outboundMessage
  response := rust.responseMessage
  send := fun config _ write message =>
    let sent := rust.classic.sendClassic config (some write) {} message
    (sent.result, sent.written)
  listen := fun _ message => some message
  head := rust.messageHead

/-- `send_owned` of up-rust: the frame is validated first. -/
def sendOwned (config : DdsConfig) (write : Writer UpDdsOwnedSampleV1)
    (frame : UOwnedFrame UFrameMetadata) : Except UStatus Unit × Option UpDdsOwnedSampleV1 :=
  match hvalid : rust.owned.validate frame with
  | .error error => (.error (invalid error), none)
  | .ok () =>
    let sent := rust.owned.sendValidatedOwned config (some write) {} ⟨frame, hvalid⟩
    (sent.result, sent.written)

/-- The frame a server answers with. -/
def responseOwned (context : String) (request : UOwnedFrame UFrameMetadata) (args : Args)
    (id : UMessageId) : Except UStatus (UOwnedFrame UFrameMetadata) :=
  (rust.responseMetadata request.metadata args id).bind fun metadata =>
    orInvalid context (rust.withPayload metadata (request.payload.getD []))

/-- `run_owned`. -/
def routeOwned : Route UUri UMessageId UpDdsOwnedSampleV1 (UOwnedFrame UFrameMetadata)
    (UOwnedFrame UFrameMetadata) where
  what := "owned frame"
  carriage := rust.owned.carriage
  script := scriptOwned
  filters := rust.filters
  outbound := fun role args id => (rust.outboundMessage role args id).bind rust.frameFromMessage
  response := rust.responseOwned "build owned response"
  send := fun config _ write frame => rust.sendOwned config write frame
  listen := fun _ frame => some frame
  head := fun frame => rust.frameHead frame.metadata

/-- `send_zero_copy`. -/
def sendZeroCopy (config : DdsConfig) (args : Args) (write : Writer UpDdsZeroCopySampleV1)
    (frame : UOwnedFrame UFrameMetadata) : Except UStatus Unit × Option UpDdsZeroCopySampleV1 :=
  let payload := frame.payload.getD []
  let loan := (rust.prepareTxLoanSpec args.encoding frame.metadata payload.length
    args.payloadAlignment).bind rust.zeroCopy.loanPreparedTx
  match loan with
  | .error status => (.error status, none)
  | .ok loan =>
    let sent := sendPreparedZeroCopy config (some write) {} (loan.storeAll (copyFromSlice payload))
    (sent.result, sent.written)

/-- `run_zero_copy`, over the adapter of the wire. What the adapter cannot
    read does not reach the listener. -/
def routeZeroCopy : Route UUri UMessageId UpDdsZeroCopySampleV1 (UUri × Option UUri × DdsRxFrame)
    (UOwnedFrame UFrameMetadata) where
  what := "copy-minimized frame"
  carriage := rust.zeroCopy.carriage
  script := scriptZeroCopy
  filters := rust.filters
  outbound := fun role args id => (rust.outboundMessage role args id).bind rust.frameFromMessage
  response := rust.responseOwned "build copy-minimized response"
  send := rust.sendZeroCopy
  listen := fun args (_, _, frame) =>
    match rust.readMetadata args.encoding frame.encodedMetadata with
    | .ok metadata => some ⟨metadata, some frame.payload⟩
    | .error _ => none
  head := fun frame => rust.frameHead frame.metadata

end RoleRust

/-! ### What the routes have in common -/

/-- Clients and servers of the route exchange requests and responses. -/
structure Route.Lawful {Sample Received Message : Type} [UriMatches UUri]
    (route : Route UUri UMessageId Sample Received Message) (Concrete : UUri → Prop)
    (resourceId : UUri → UInt16) (Good : Message → Prop) : Prop where
  matches_concrete : ∀ filter uri, Concrete filter → uriMatches filter uri = true → uri = filter
  matches_resource : ∀ filter uri, uriMatches filter uri = true → resourceId filter = 0 →
    resourceId uri = 0
  client : ClientScript (route.script .client)
  request : ∀ args id message, route.outbound .client args id = .ok message →
    Good message ∧ ∃ method endpoint,
      route.filters .client args = .ok (method, some endpoint) ∧
      route.head message = ⟨id, endpoint, some method, none⟩ ∧
      RoleRust.Addresses Concrete resourceId method endpoint
  passive : ∀ args id message, route.outbound .server args id ≠ .ok message
  server : ∀ args source sink, route.filters .server args = .ok (source, sink) →
    resourceId source = 0
  response : ∀ request args id message, route.response request args id = .ok message →
    Good message ∧ ∃ sink, (route.head request).sink = some sink ∧
      route.head message =
        ⟨id, sink, some (route.head request).source, some (route.head request).id⟩
  /-- What is sent is routed and received by its head. -/
  carries : ∀ config args write message sample received, Good message →
    (route.send config args write message).2 = some sample →
    route.carriage.decode sample = .ok received →
      route.carriage.source received = (route.head message).source ∧
      route.carriage.sink received = (route.head message).sink ∧
      ∀ args' heard, route.listen args' received = some heard →
        route.head heard = route.head message

namespace RoleRust

/-- A server has no frame to send first. -/
theorem outboundFrame_server
    (rust : RoleRust UUri UMessageId PayloadEncoding UAttributes UFrameMetadata UMessage)
    (args : Args) (id : UMessageId) (frame : UOwnedFrame UFrameMetadata) :
    (rust.outboundMessage .server args id).bind rust.frameFromMessage ≠ .ok frame := by
  intro hbuilt
  obtain ⟨message, hmessage, _⟩ := bind_eq_ok.mp hbuilt
  exact outboundMessage_server rust args id message hmessage

section laws
variable [UriMatches UUri]
  {rust : RoleRust UUri UMessageId PayloadEncoding UAttributes UFrameMetadata UMessage}
  {Concrete : UUri → Prop} {resourceId : UUri → UInt16} {WellFormed : UMessage → Prop}

/-- `Lawful` for the classic family. -/
theorem lawful_classic (h : rust.Lawful Concrete resourceId WellFormed) :
    rust.routeClassic.Lawful Concrete resourceId WellFormed where
  matches_concrete := h.matches_concrete
  matches_resource := h.matches_resource
  client := client_scriptOwned
  request := fun _ _ _ hbuilt => outboundMessage_client h hbuilt
  passive := outboundMessage_server rust
  server := fun _ _ _ hfilters => filters_server h hfilters
  response := fun _ _ _ _ hbuilt => responseMessage_ok h hbuilt
  carries := by
    intro config args write message sample received hwell hsent hdecode
    have hencode := written_sendSample.mp hsent
    have hsame := (ClassicRust.decode_encodeClassic config h.classic hwell).2 sample hencode
    obtain rfl : message = received := Except.ok.inj (hsame.symm.trans hdecode)
    refine ⟨rfl, rfl, ?_⟩
    intro args' heard hheard
    rw [← Option.some.inj hheard]

/-- The frame of a client's request. -/
theorem outboundFrame_client (h : rust.Lawful Concrete resourceId WellFormed) {args : Args}
    {id : UMessageId} {frame : UOwnedFrame UFrameMetadata}
    (hbuilt : (rust.outboundMessage .client args id).bind rust.frameFromMessage = .ok frame) :
    rust.owned.validate frame = .ok () ∧ ∃ method endpoint,
      rust.filters .client args = .ok (method, some endpoint) ∧
      rust.frameHead frame.metadata = ⟨id, endpoint, some method, none⟩ ∧
      Addresses Concrete resourceId method endpoint := by
  obtain ⟨message, hmessage, hframe⟩ := bind_eq_ok.mp hbuilt
  obtain ⟨_, method, endpoint, hfilters, hhead, hrest⟩ := outboundMessage_client h hmessage
  obtain ⟨hvalid, hsame⟩ := frameFromMessage_ok h hframe
  exact ⟨hvalid, method, endpoint, hfilters, hsame.trans hhead, hrest⟩

theorem responseOwned_ok (h : rust.Lawful Concrete resourceId WellFormed) {context : String}
    {request frame : UOwnedFrame UFrameMetadata} {args : Args} {id : UMessageId}
    (hbuilt : rust.responseOwned context request args id = .ok frame) :
    rust.owned.validate frame = .ok () ∧
      ∃ sink, (rust.frameHead request.metadata).sink = some sink ∧
        rust.frameHead frame.metadata = ⟨id, sink, some (rust.frameHead request.metadata).source,
          some (rust.frameHead request.metadata).id⟩ := by
  obtain ⟨metadata, hmetadata, hframe⟩ := bind_eq_ok.mp hbuilt
  obtain ⟨hsame, hvalid⟩ := h.withPayload _ _ _ (orInvalid_eq_ok.mp hframe)
  rw [hsame]
  exact ⟨hvalid, responseMetadata_ok h hmetadata⟩

/-- `Lawful` for the owned family. -/
theorem lawful_owned (h : rust.Lawful Concrete resourceId WellFormed) :
    rust.routeOwned.Lawful Concrete resourceId (fun frame => rust.owned.validate frame = .ok ())
    where
  matches_concrete := h.matches_concrete
  matches_resource := h.matches_resource
  client := client_scriptOwned
  request := fun _ _ _ hbuilt => outboundFrame_client h hbuilt
  passive := outboundFrame_server rust
  server := fun _ _ _ hfilters => filters_server h hfilters
  response := fun _ _ _ _ hbuilt => responseOwned_ok h hbuilt
  carries := by
    intro config args write frame sample received hvalid hsent hdecode
    have hencode : rust.owned.encodeOwned config frame = .ok sample := by
      simp only [routeOwned, sendOwned] at hsent
      split at hsent
      · contradiction
      · exact written_sendSample.mp hsent
    have hsame := (OwnedRust.decode_encodeOwned config h.owned hvalid).2 sample hencode
    obtain rfl : frame = received := Except.ok.inj (hsame.symm.trans hdecode)
    refine ⟨rfl, rfl, ?_⟩
    intro args' heard hheard
    rw [← Option.some.inj hheard]

/-- The loan that `send_zero_copy` fills, as a commit of the payload. -/
theorem sendZeroCopy_written (h : rust.Lawful Concrete resourceId WellFormed) {config : DdsConfig}
    {args : Args} {write : Writer UpDdsZeroCopySampleV1} {frame : UOwnedFrame UFrameMetadata}
    {sample : UpDdsZeroCopySampleV1}
    (hsent : (rust.sendZeroCopy config args write frame).2 = some sample) :
    ∃ commit : Commit UFrameMetadata,
      rust.prepareTxLoanSpec args.encoding frame.metadata (frame.payload.getD []).length
        args.payloadAlignment = .ok commit.spec ∧
      sample = commit.sample rust.zeroCopy config := by
  unfold sendZeroCopy at hsent
  simp only at hsent
  split at hsent
  · contradiction
  · rename_i loan hloan
    obtain ⟨spec, hspec, hbuffer⟩ := bind_eq_ok.mp hloan
    obtain ⟨_, _, hlength, _⟩ := h.prepareTxLoanSpec _ _ _ _ _ hspec
    let commit : Commit UFrameMetadata :=
      { spec := spec
        bytes := frame.payload.getD []
        writes := copyFromSlice (frame.payload.getD [])
        length := hlength.symm
        complete := writes_copyFromSlice _ }
    refine ⟨commit, hspec, ?_⟩
    exact (Commit.sendsInit_iff (ZeroCopyRust.layoutValid_of_loan hbuffer)).mp
      ⟨loan, hbuffer, hsent⟩

/-- `Lawful` for the zero-copy family, over every wire. -/
theorem lawful_zeroCopy (h : rust.Lawful Concrete resourceId WellFormed) :
    rust.routeZeroCopy.Lawful Concrete resourceId fun frame => rust.owned.validate frame = .ok ()
    where
  matches_concrete := h.matches_concrete
  matches_resource := h.matches_resource
  client := client_scriptZeroCopy
  request := fun _ _ _ hbuilt => outboundFrame_client h hbuilt
  passive := outboundFrame_server rust
  server := fun _ _ _ hfilters => filters_server h hfilters
  response := fun _ _ _ _ hbuilt => responseOwned_ok h hbuilt
  carries := by
    intro config args write frame sample received _ hsent hdecode
    obtain ⟨commit, hspec, hsample⟩ := sendZeroCopy_written h hsent
    have hreceived : rust.zeroCopy.decodeZeroCopy (commit.sample rust.zeroCopy config) =
        .ok (commit.received rust.zeroCopy) := Commit.decode_sample h.zeroCopy
    rw [hsample] at hdecode
    obtain rfl : commit.received rust.zeroCopy = received :=
      Except.ok.inj (hreceived.symm.trans hdecode)
    obtain ⟨hmetadata, _, _, _⟩ := h.prepareTxLoanSpec _ _ _ _ _ hspec
    obtain ⟨hsource, hsink⟩ := h.routes commit.spec.metadata
    rw [hmetadata] at hsource hsink
    refine ⟨?_, ?_, ?_⟩
    · show rust.zeroCopy.source commit.spec.metadata = rust.owned.source frame.metadata
      rw [hmetadata, hsource]
    · show rust.zeroCopy.sink commit.spec.metadata = rust.owned.sink frame.metadata
      rw [hmetadata, hsink]
    · intro args' heard hheard
      -- the receiver's wire need not be the sender's
      simp only [routeZeroCopy, Commit.received] at hheard
      split at hheard
      · rename_i metadata hread
        obtain rfl := Option.some.inj hheard
        show rust.frameHead metadata = rust.frameHead frame.metadata
        rw [h.readMetadata _ _ _ _ _ _ _ hspec hread]
      · contradiction

end laws

end RoleRust

end UpTransportDds
