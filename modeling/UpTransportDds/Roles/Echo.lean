import UpTransportDds.Roles.Correlation
import UpTransportDds.Roles.Provenance

/-! # Servers echo

  A server answers with the payload of the request that it has taken in. So a
  response brings back what was sent under the id that it names, over whichever
  family and through whatever else happens on the domain.
-/

namespace UpTransportDds

open LTS Codec

variable {UUri UMessageId Sample Received Message : Type}

/-! ### Routes -/

namespace Route

section routes
variable [DecidableEq UUri] [DecidableEq UMessageId] [UriMatches UUri]
  {route : Route UUri UMessageId Sample Received Message} {Good : Message → Prop}
  {arrives : Message → Message} {payload : Message → Bytes}

/-- In every run, what a process has taken in was sent by another one, is as it
    was sent and passes the filters; and it has nothing twice. -/
def TakesAsSent (route : Route UUri UMessageId Sample Received Message)
    (arrives : Message → Message) : Prop :=
  ∀ (s : List (RoleProcess UUri Sample Message)), Reachable route.domain s →
    ∀ (p : Nat) (P : RoleProcess UUri Sample Message), s[p]? = some P →
      (∀ message ∈ P.taken, route.Came arrives s p P message) ∧
        (P.taken.map fun message => (route.head message).id).Nodup

/-- In every run, a response that a process has taken in answers the one
    message with the id that it names, goes back where that came from and has
    its payload; a third process, which has taken the message in, has built the
    response from it and sent it. -/
def Echoes (route : Route UUri UMessageId Sample Received Message)
    (arrives : Message → Message) (payload : Message → Bytes) : Prop :=
  ∀ (s : List (RoleProcess UUri Sample Message)), Reachable route.domain s →
    ∀ (p : Nat) (P : RoleProcess UUri Sample Message) (response : Message) (id : UMessageId),
      s[p]? = some P → response ∈ P.taken → (route.head response).requestId = some id →
        ∃ (q : Nat) (Q : RoleProcess UUri Sample Message) (request : Message),
          s[q]? = some Q ∧ request ∈ Q.sent ∧ (route.head request).id = id ∧
          payload response = payload request ∧
          (route.head response).sink = some (route.head request).source ∧
          (route.head request).sink = some (route.head response).source ∧
          (∃ (r : Nat) (R : RoleProcess UUri Sample Message) (original : Message)
              (id' : UMessageId), r ≠ p ∧ r ≠ q ∧ s[r]? = some R ∧
            arrives request ∈ R.taken ∧ route.Came arrives s r R (arrives request) ∧
            original ∈ R.sent ∧ route.response (arrives request) R.args id' = .ok original ∧
            response = arrives original) ∧
          ∀ (q' : Nat) (Q' : RoleProcess UUri Sample Message) (other : Message),
            s[q']? = some Q' → other ∈ Q'.sent → (route.head other).id = id →
              q' = q ∧ other = request

theorem takesAsSent (h : route.Faithful Good arrives payload) : route.TakesAsSent arrives := by
  intro s hs p P hP
  have hsourced := (traced_reachable h hs).sourced p P hP
  obtain ⟨pending, -, -, hnodup⟩ := hsourced.pending
  exact ⟨hsourced.taken, (List.nodup_append.mp hnodup).2.1⟩

theorem echoes (h : route.Faithful Good arrives payload) : route.Echoes arrives payload := by
  intro s hs p P response id hP hresponse hid
  have htraced := traced_reachable h hs
  obtain ⟨r, R, original, hrp, hR, hsent, harrives, -⟩ :=
    (htraced.sourced p P hP).taken response hresponse
  have hhead : route.head response = route.head original := by
    rw [harrives, h.head_arrives]
  -- what names a request has been built as a response
  rcases (htraced.sourced r R hR).sent original hsent with
    ⟨id', hbuilt⟩ | ⟨taken, id', hreceived, hcame, hbuilt⟩
  · obtain ⟨-, -, hnone, -⟩ := h.outbound _ _ _ _ hbuilt
    rw [hhead, hnone] at hid
    contradiction
  · obtain ⟨-, hpayload, sink, hsink, hbuiltHead⟩ := h.response _ _ _ _ hbuilt
    have hmem : taken ∈ R.taken := by
      simp [RoleProcess.taken, hreceived]
    obtain ⟨q, Q, request, hqr, hQ, hrequest, htaken, -⟩ :=
      (htraced.sourced r R hR).taken taken hmem
    have hasked : route.head taken = route.head request := by
      rw [htaken, h.head_arrives]
    rw [hhead, hbuiltHead] at hid
    have hrequestId : (route.head request).id = id := by
      rw [← hasked]
      exact Option.some.inj hid
    refine ⟨q, Q, request, hQ, hrequest, hrequestId, ?_, ?_, ?_, ?_, ?_⟩
    · rw [harrives, h.payload_arrives, hpayload, htaken, h.payload_arrives]
    · rw [hhead, hbuiltHead, hasked]
    · rw [hhead, hbuiltHead, ← hasked, hsink]
    · rw [← htaken]
      exact ⟨r, R, original, id', hrp, Ne.symm hqr, hR, hmem, hcame, hsent, hbuilt, harrives⟩
    · intro q' Q' other hQ' hother hsame
      exact htraced.distinct q' q Q' Q other request hQ' hQ hother hrequest
        (hsame.trans hrequestId.symm)

/-- In every run of clients and servers, a client that finishes with `Ok` has
    been sent back the payload of a client with its filters: its own, where no
    other client has them. -/
def ClientsEcho (route : Route UUri UMessageId Sample Received Message)
    (payload : Message → Bytes) : Prop :=
  ∀ (s : List (RoleProcess UUri Sample Message)), Reachable route.peers s →
    ∀ (p : Nat) (P : RoleProcess UUri Sample Message), s[p]? = some P → P.role = .client →
      P.result = some (.ok ()) →
        ∃ response, P.received = some response ∧
          (∃ (q : Nat) (Q : RoleProcess UUri Sample Message), s[q]? = some Q ∧ Q.role = .client ∧
            route.filters .client Q.args = route.filters .client P.args ∧
            payload response = Q.args.payload.toUTF8.data.toList) ∧
          ((∀ (q : Nat) (Q : RoleProcess UUri Sample Message), s[q]? = some Q → Q.role = .client →
              route.filters .client Q.args = route.filters .client P.args → q = p) →
            payload response = P.args.payload.toUTF8.data.toList)

theorem clientsEcho {Concrete : UUri → Prop} {resourceId : UUri → UInt16}
    (hlawful : route.Lawful Concrete resourceId Good)
    (h : route.Faithful Good arrives payload) : route.ClientsEcho payload := by
  intro s hs p P hP hclient hok
  have hdomain := domain_of_peers hs
  have htraced := traced_reachable h hdomain
  obtain ⟨_, response, -, hreceived, ⟨q, Q, hQ, hrole, hfilters, other, hother, hid⟩, -⟩ :=
    correlates hlawful s hs p P hP hclient hok
  have htaken : response ∈ P.taken := by
    simp [RoleProcess.taken, hreceived]
  obtain ⟨q', Q', request, hQ', hrequest, -, hpayload, -, -, -, hunique⟩ :=
    echoes h s hdomain p P response _ hP htaken hid
  obtain ⟨rfl, rfl⟩ := hunique q Q other hQ hother rfl
  -- a client's message is no response, so it has the payload of the arguments
  have hsame : payload other = Q.args.payload.toUTF8.data.toList := by
    have hbuilt := (htraced.sourced q Q hQ).sent other hother
    obtain ⟨_, _, _, -, -, hhead⟩ :=
      (sound_reachable hlawful hs Q (List.mem_of_getElem? hQ)).asked hrole other hother
    rcases hbuilt with ⟨id, hbuilt⟩ | ⟨taken, id, -, -, hbuilt⟩
    · exact (h.outbound _ _ _ _ hbuilt).2.2.2
    · obtain ⟨-, -, _, -, hresponse⟩ := h.response _ _ _ _ hbuilt
      rw [hresponse] at hhead
      exact absurd (congrArg Head.requestId hhead) (by simp)
  refine ⟨response, hreceived, ⟨q, Q, hQ, hrole, hfilters, hpayload.trans hsame⟩, ?_⟩
  intro halone
  obtain rfl := halone q Q hQ hrole hfilters
  rw [hP] at hQ
  obtain rfl := Option.some.inj hQ
  exact hpayload.trans hsame

end routes

end Route

/-! ### The three families -/

section families
variable {PayloadEncoding UAttributes UFrameMetadata UMessage : Type}

namespace RoleRust

/-- What else up-rust promises of its builders: what they put into a message is
    in it. -/
structure Builders
    (rust : RoleRust UUri UMessageId PayloadEncoding UAttributes UFrameMetadata UMessage)
    (WellFormed : UMessage → Prop) : Prop where
  publish : ∀ topic id payload encoding message,
    rust.publish topic id payload encoding = .ok message → WellFormed message ∧
      rust.messageHead message = ⟨id, topic, none, none⟩ ∧
      rust.classic.payload message = some payload
  notification : ∀ origin destination id payload encoding message,
    rust.notification origin destination id payload encoding = .ok message → WellFormed message ∧
      rust.messageHead message = ⟨id, origin, some destination, none⟩ ∧
      rust.classic.payload message = some payload
  request : ∀ method replyTo ttl id payload encoding message,
    rust.request method replyTo ttl id payload encoding = .ok message →
      rust.classic.payload message = some payload
  response : ∀ replyTo requestId invokedMethod id payload encoding message,
    rust.response replyTo requestId invokedMethod id payload encoding = .ok message →
      rust.classic.payload message = some payload
  withPayload : ∀ metadata payload frame, rust.withPayload metadata payload = .ok frame →
    frame.payload = some payload
  withoutPayload : ∀ metadata frame, rust.withoutPayload metadata = .ok frame →
    frame.payload = none

/-- The payload of a message, empty if there is none. -/
def messagePayload
    (rust : RoleRust UUri UMessageId PayloadEncoding UAttributes UFrameMetadata UMessage)
    (message : UMessage) : Bytes :=
  (rust.classic.payload message).getD []

end RoleRust

/-- `payload_bytes`. -/
def UOwnedFrame.payloadBytes (frame : UOwnedFrame UFrameMetadata) : Bytes :=
  frame.payload.getD []

/-- A frame out of a copy-minimized transport always has a payload. -/
def UOwnedFrame.filled (frame : UOwnedFrame UFrameMetadata) : UOwnedFrame UFrameMetadata :=
  { frame with payload := some frame.payloadBytes }

namespace RoleRust

variable {rust : RoleRust UUri UMessageId PayloadEncoding UAttributes UFrameMetadata UMessage}
  {WellFormed : UMessage → Prop} {args : Args} {id : UMessageId}

/-- A response message has the payload of its request. -/
theorem payload_responseMessage (hb : rust.Builders WellFormed) {request message : UMessage}
    (hbuilt : rust.responseMessage request args id = .ok message) :
    rust.messagePayload message = rust.messagePayload request := by
  unfold responseMessage at hbuilt
  split at hbuilt
  · contradiction
  · have hpayload := hb.response _ _ _ _ _ _ _ (orInvalid_eq_ok.mp hbuilt)
    rw [messagePayload, hpayload]
    rfl

/-- A frame has the payload of its message. -/
theorem payload_frameFromMessage (hb : rust.Builders WellFormed) {message : UMessage}
    {frame : UOwnedFrame UFrameMetadata} (hframe : rust.frameFromMessage message = .ok frame) :
    frame.payloadBytes = rust.messagePayload message := by
  simp only [frameFromMessage, bind_eq_ok, orInvalid_eq_ok] at hframe
  obtain ⟨metadata, -, hbuilt⟩ := hframe
  unfold UOwnedFrame.payloadBytes messagePayload
  split at hbuilt
  · rename_i payload hpayload
    rw [hb.withPayload _ _ _ hbuilt, hpayload]
  · rename_i hnone
    rw [hb.withoutPayload _ _ hbuilt, hnone]

theorem sendOwned_encodes {config : DdsConfig} {write : Writer UpDdsOwnedSampleV1}
    {frame : UOwnedFrame UFrameMetadata} {sample : UpDdsOwnedSampleV1}
    (hsent : (rust.sendOwned config write frame).2 = some sample) :
    rust.owned.encodeOwned config frame = .ok sample := by
  unfold sendOwned at hsent
  split at hsent
  · contradiction
  · exact written_sendSample.mp hsent

variable [UriMatches UUri] {Concrete : UUri → Prop} {resourceId : UUri → UInt16}

/-- The first message of a role has the payload of its arguments. -/
theorem outboundMessage_ok (h : rust.Lawful Concrete resourceId WellFormed)
    (hb : rust.Builders WellFormed) {role : Role} {message : UMessage}
    (hbuilt : rust.outboundMessage role args id = .ok message) :
    WellFormed message ∧ (rust.messageHead message).id = id ∧
      (rust.messageHead message).requestId = none ∧
      rust.messagePayload message = args.payload.toUTF8.data.toList := by
  cases role with
  | publisher =>
    simp only [outboundMessage, bind_eq_ok, orInvalid_eq_ok] at hbuilt
    obtain ⟨topic, -, hpublish⟩ := hbuilt
    obtain ⟨hwell, hhead, hpayload⟩ := hb.publish _ _ _ _ _ hpublish
    simp [hwell, hhead, messagePayload, hpayload]
  | notifier =>
    simp only [outboundMessage, bind_eq_ok, orInvalid_eq_ok] at hbuilt
    obtain ⟨topic, -, endpoint, -, hnotify⟩ := hbuilt
    obtain ⟨hwell, hhead, hpayload⟩ := hb.notification _ _ _ _ _ _ hnotify
    simp [hwell, hhead, messagePayload, hpayload]
  | client =>
    simp only [outboundMessage, bind_eq_ok, orInvalid_eq_ok] at hbuilt
    obtain ⟨method, -, endpoint, -, hrequest⟩ := hbuilt
    obtain ⟨hwell, hhead, -⟩ := h.request _ _ _ _ _ _ _ hrequest
    have hpayload := hb.request _ _ _ _ _ _ _ hrequest
    simp [hwell, hhead, messagePayload, hpayload]
  | subscriber | notifyee | server => contradiction

/-- The first frame of a role. -/
theorem outboundFrame_ok (h : rust.Lawful Concrete resourceId WellFormed)
    (hb : rust.Builders WellFormed) {role : Role} {frame : UOwnedFrame UFrameMetadata}
    (hbuilt : (rust.outboundMessage role args id).bind rust.frameFromMessage = .ok frame) :
    rust.owned.validate frame = .ok () ∧ (rust.frameHead frame.metadata).id = id ∧
      (rust.frameHead frame.metadata).requestId = none ∧
      frame.payloadBytes = args.payload.toUTF8.data.toList := by
  obtain ⟨message, hmessage, hframe⟩ := bind_eq_ok.mp hbuilt
  obtain ⟨-, hid, hnone, hpayload⟩ := outboundMessage_ok h hb hmessage
  obtain ⟨hvalid, hhead⟩ := frameFromMessage_ok h hframe
  rw [hhead]
  exact ⟨hvalid, hid, hnone, (payload_frameFromMessage hb hframe).trans hpayload⟩

/-- The frame that a server answers with. -/
theorem responseFrame_ok (h : rust.Lawful Concrete resourceId WellFormed)
    (hb : rust.Builders WellFormed) {context : String} {request frame : UOwnedFrame UFrameMetadata}
    (hbuilt : rust.responseOwned context request args id = .ok frame) :
    rust.owned.validate frame = .ok () ∧ frame.payloadBytes = request.payloadBytes ∧
      ∃ sink, (rust.frameHead request.metadata).sink = some sink ∧
        rust.frameHead frame.metadata = ⟨id, sink, some (rust.frameHead request.metadata).source,
          some (rust.frameHead request.metadata).id⟩ := by
  obtain ⟨hvalid, hhead⟩ := responseOwned_ok h hbuilt
  refine ⟨hvalid, ?_, hhead⟩
  obtain ⟨metadata, -, hframe⟩ := bind_eq_ok.mp hbuilt
  rw [UOwnedFrame.payloadBytes, hb.withPayload _ _ _ (orInvalid_eq_ok.mp hframe)]
  rfl

theorem faithful_classic (h : rust.Lawful Concrete resourceId WellFormed)
    (hb : rust.Builders WellFormed) :
    rust.routeClassic.Faithful WellFormed (fun message => message) rust.messagePayload
    where
  once := once_scriptOwned
  outbound := fun _ _ _ _ hbuilt => outboundMessage_ok h hb hbuilt
  response := by
    intro request args id message hbuilt
    obtain ⟨hwell, hhead⟩ := responseMessage_ok h hbuilt
    exact ⟨hwell, payload_responseMessage hb hbuilt, hhead⟩
  origin := by
    intro config args write message sample hsent
    exact (ClassicRust.encodeClassic_eq_ok.mp (written_sendSample.mp hsent)).1
  carries := by
    intro config args write message sample received hwell hsent hdecode
    have hencode := written_sendSample.mp hsent
    have hsame := (ClassicRust.decode_encodeClassic config h.classic hwell).2 sample hencode
    obtain rfl : message = received := Except.ok.inj (hsame.symm.trans hdecode)
    refine ⟨rfl, rfl, ?_⟩
    intro args' heard hheard
    exact (Option.some.inj hheard).symm
  head_arrives := fun _ => rfl
  payload_arrives := fun _ => rfl

theorem faithful_owned (h : rust.Lawful Concrete resourceId WellFormed)
    (hb : rust.Builders WellFormed) :
    rust.routeOwned.Faithful (fun frame => rust.owned.validate frame = .ok ()) (fun frame => frame)
      UOwnedFrame.payloadBytes where
  once := once_scriptOwned
  outbound := fun _ _ _ _ hbuilt => outboundFrame_ok h hb hbuilt
  response := fun _ _ _ _ hbuilt => responseFrame_ok h hb hbuilt
  origin := by
    intro config args write frame sample hsent
    exact (OwnedRust.encodeOwned_eq_ok.mp (sendOwned_encodes hsent)).1
  carries := by
    intro config args write frame sample received hvalid hsent hdecode
    have hencode := sendOwned_encodes hsent
    have hsame := (OwnedRust.decode_encodeOwned config h.owned hvalid).2 sample hencode
    obtain rfl : frame = received := Except.ok.inj (hsame.symm.trans hdecode)
    refine ⟨rfl, rfl, ?_⟩
    intro args' heard hheard
    exact (Option.some.inj hheard).symm
  head_arrives := fun _ => rfl
  payload_arrives := fun _ => rfl

/-- What `send_zero_copy` writes is a commit of the payload. -/
theorem sendZeroCopy_commit (h : rust.Lawful Concrete resourceId WellFormed) {config : DdsConfig}
    {write : Writer UpDdsZeroCopySampleV1} {frame : UOwnedFrame UFrameMetadata}
    {sample : UpDdsZeroCopySampleV1}
    (hsent : (rust.sendZeroCopy config args write frame).2 = some sample) :
    ∃ commit : Commit UFrameMetadata, commit.bytes = frame.payloadBytes ∧
      commit.spec.metadata = frame.metadata ∧
      (∀ wire read, rust.readMetadata wire commit.spec.encodedMetadata = .ok read →
        read = frame.metadata) ∧
      sample = commit.sample rust.zeroCopy config := by
  unfold sendZeroCopy at hsent
  simp only at hsent
  split at hsent
  · contradiction
  · rename_i loan hloan
    obtain ⟨spec, hspec, hbuffer⟩ := bind_eq_ok.mp hloan
    obtain ⟨hmetadata, -, hlength, -⟩ := h.prepareTxLoanSpec _ _ _ _ _ hspec
    let commit : Commit UFrameMetadata :=
      { spec := spec
        bytes := frame.payloadBytes
        writes := copyFromSlice frame.payloadBytes
        length := hlength.symm
        complete := writes_copyFromSlice _ }
    refine ⟨commit, rfl, hmetadata, fun _ _ hread => h.readMetadata _ _ _ _ _ _ _ hspec hread, ?_⟩
    exact (Commit.sendsInit_iff (ZeroCopyRust.layoutValid_of_loan hbuffer)).mp
      ⟨loan, hbuffer, hsent⟩

theorem faithful_zeroCopy (h : rust.Lawful Concrete resourceId WellFormed)
    (hb : rust.Builders WellFormed) :
    rust.routeZeroCopy.Faithful (fun frame => rust.owned.validate frame = .ok ())
      UOwnedFrame.filled UOwnedFrame.payloadBytes where
  once := once_scriptZeroCopy
  outbound := fun _ _ _ _ hbuilt => outboundFrame_ok h hb hbuilt
  response := fun _ _ _ _ hbuilt => responseFrame_ok h hb hbuilt
  origin := by
    intro config args write frame sample hsent
    obtain ⟨commit, -, -, -, hsample⟩ := sendZeroCopy_commit h hsent
    rw [hsample]
    rfl
  carries := by
    intro config args write frame sample received _ hsent hdecode
    obtain ⟨commit, hbytes, hmetadata, hread, hsample⟩ := sendZeroCopy_commit h hsent
    rw [hsample, show rust.routeZeroCopy.carriage.decode (commit.sample rust.zeroCopy config) =
      .ok (commit.received rust.zeroCopy) from Commit.decode_sample h.zeroCopy] at hdecode
    obtain rfl := Except.ok.inj hdecode
    obtain ⟨hsource, hsink⟩ := h.routes commit.spec.metadata
    rw [hmetadata] at hsource hsink
    refine ⟨?_, ?_, ?_⟩
    · show rust.zeroCopy.source commit.spec.metadata = rust.owned.source frame.metadata
      rw [hmetadata, hsource]
    · show rust.zeroCopy.sink commit.spec.metadata = rust.owned.sink frame.metadata
      rw [hmetadata, hsink]
    · intro args' heard hheard
      simp only [routeZeroCopy, Commit.received] at hheard
      split at hheard
      · rename_i metadata hmetadata'
        obtain rfl := Option.some.inj hheard
        rw [hread _ _ hmetadata', hbytes]
        rfl
      · contradiction
  head_arrives := fun _ => rfl
  payload_arrives := fun _ => rfl

end RoleRust

end families

/-! ### Role processes -/

section results
variable {PayloadEncoding UAttributes UFrameMetadata UMessage : Type}
  [DecidableEq UUri] [DecidableEq UMessageId] [UriMatches UUri]
  {rust : RoleRust UUri UMessageId PayloadEncoding UAttributes UFrameMetadata UMessage}
  {Concrete : UUri → Prop} {resourceId : UUri → UInt16} {WellFormed : UMessage → Prop}

/-- **Integrity**: in every family and every interleaving of any roles, what a
    process takes in is what another one has sent, and nothing comes twice. -/
theorem roles_take_as_sent (h : rust.Lawful Concrete resourceId WellFormed)
    (hb : rust.Builders WellFormed) :
    rust.routeClassic.TakesAsSent (fun message => message) ∧
      rust.routeOwned.TakesAsSent (fun frame => frame) ∧
      rust.routeZeroCopy.TakesAsSent UOwnedFrame.filled :=
  ⟨Route.takesAsSent (RoleRust.faithful_classic h hb),
    Route.takesAsSent (RoleRust.faithful_owned h hb),
    Route.takesAsSent (RoleRust.faithful_zeroCopy h hb)⟩

/-- **Echo**: a response brings back the payload of the message that it
    names. -/
theorem roles_echo (h : rust.Lawful Concrete resourceId WellFormed)
    (hb : rust.Builders WellFormed) :
    rust.routeClassic.Echoes (fun message => message) rust.messagePayload ∧
      rust.routeOwned.Echoes (fun frame => frame) UOwnedFrame.payloadBytes ∧
      rust.routeZeroCopy.Echoes UOwnedFrame.filled UOwnedFrame.payloadBytes :=
  ⟨Route.echoes (RoleRust.faithful_classic h hb), Route.echoes (RoleRust.faithful_owned h hb),
    Route.echoes (RoleRust.faithful_zeroCopy h hb)⟩

/-- **Round trip**: a client that finishes with `Ok` has its payload back,
    unless another client shares its endpoint and its method. -/
theorem clients_get_echo (h : rust.Lawful Concrete resourceId WellFormed)
    (hb : rust.Builders WellFormed) :
    rust.routeClassic.ClientsEcho rust.messagePayload ∧
      rust.routeOwned.ClientsEcho UOwnedFrame.payloadBytes ∧
      rust.routeZeroCopy.ClientsEcho UOwnedFrame.payloadBytes :=
  ⟨Route.clientsEcho (RoleRust.lawful_classic h) (RoleRust.faithful_classic h hb),
    Route.clientsEcho (RoleRust.lawful_owned h) (RoleRust.faithful_owned h hb),
    Route.clientsEcho (RoleRust.lawful_zeroCopy h) (RoleRust.faithful_zeroCopy h hb)⟩

end results

/-! ### A client and a server -/

theorem pairRust_builders : pairRust.Builders (fun _ => True) where
  publish := by
    intro topic id payload encoding message hbuilt
    contradiction
  notification := by
    intro origin destination id payload encoding message hbuilt
    contradiction
  request := by
    intro method replyTo ttl id payload encoding message hbuilt
    cases method with
    | endpoint b => contradiction
    | method b =>
      cases replyTo with
      | method b' => contradiction
      | endpoint b' =>
        obtain rfl := Except.ok.inj hbuilt
        rfl
  response := by
    intro replyTo requestId invokedMethod id payload encoding message hbuilt
    obtain rfl := Except.ok.inj hbuilt
    rfl
  withPayload := by
    intro metadata payload frame hframe
    obtain rfl := Except.ok.inj hframe
    rfl
  withoutPayload := by
    intro metadata frame hframe
    obtain rfl := Except.ok.inj hframe
    rfl

theorem aloneStart_mixed : pairRust.routeZeroCopy.Mixed aloneStart :=
  ⟨fun P hP => (aloneStart_started.1 P hP).2, aloneStart_started.2⟩

/-- The server and the client have taken in a frame each. -/
theorem roles_take_as_sent_alone : ∃ tr s P, InitRun pairRust.routeZeroCopy.domain tr s ∧
    tr.map Prod.snd = aloneRun ∧ s[0]? = some P ∧ P.taken.length = 1 ∧
    ∀ message ∈ P.taken, pairRust.routeZeroCopy.Came UOwnedFrame.filled s 0 P message := by
  obtain ⟨tr, s, P, hexec, hP, htaken⟩ : ∃ tr s P,
      exec pairRust.routeZeroCopy.next aloneStart aloneRun = some (tr, s) ∧ s[0]? = some P ∧
      P.taken.length = 1 := ⟨_, _, _, rfl, rfl, rfl⟩
  have hrun : InitRun pairRust.routeZeroCopy.domain tr s :=
    ⟨aloneStart, aloneStart_mixed, run_of_exec hexec⟩
  have hsource := (roles_take_as_sent pairRust_lawful pairRust_builders).2.2 s hrun.reachable 0 P hP
  exact ⟨tr, s, P, hrun, labels_of_exec hexec, hP, htaken, hsource.1⟩

/-- The client's response names its request, and has its payload; the server has
    taken the request in. -/
theorem roles_echo_alone : ∃ tr s P response, InitRun pairRust.routeZeroCopy.domain tr s ∧
    tr.map Prod.snd = aloneRun ∧ s[1]? = some P ∧ response ∈ P.taken ∧
    (∃ (q : Nat) (Q : RoleProcess PairUri UpDdsZeroCopySampleV1 (UOwnedFrame PairHead))
      (request : UOwnedFrame PairHead), s[q]? = some Q ∧ request ∈ Q.sent ∧
      (pairRust.routeZeroCopy.head request).id = 1 ∧
      response.payloadBytes = request.payloadBytes ∧
      ∃ (r : Nat) (R : RoleProcess PairUri UpDdsZeroCopySampleV1 (UOwnedFrame PairHead))
        (original : UOwnedFrame PairHead), r ≠ 1 ∧ r ≠ q ∧ s[r]? = some R ∧
        request.filled ∈ R.taken ∧ original ∈ R.sent ∧ response = original.filled) := by
  obtain ⟨tr, s, P, response, hexec, hP, htaken, hnamed⟩ : ∃ tr s P response,
      exec pairRust.routeZeroCopy.next aloneStart aloneRun = some (tr, s) ∧ s[1]? = some P ∧
      response ∈ P.taken ∧ (pairRust.routeZeroCopy.head response).requestId = some 1 :=
    ⟨_, _, _, _, rfl, rfl, List.mem_cons_self, rfl⟩
  have hrun : InitRun pairRust.routeZeroCopy.domain tr s :=
    ⟨aloneStart, aloneStart_mixed, run_of_exec hexec⟩
  obtain ⟨q, Q, request, hQ, hsent, hid, hpayload, -, -,
      ⟨r, R, original, -, hrp, hrq, hR, hrequest, -, horiginal, -, hresponse⟩, -⟩ :=
    (roles_echo pairRust_lawful pairRust_builders).2.2 s hrun.reachable 1 P response 1 hP htaken
      hnamed
  exact ⟨tr, s, P, response, hrun, labels_of_exec hexec, hP, htaken, q, Q, request, hQ, hsent, hid,
    hpayload, r, R, original, hrp, hrq, hR, hrequest, horiginal, hresponse⟩

/-- The client is alone, and gets `dds-role-payload` back. -/
theorem clients_get_echo_alone : ∃ tr s P response, InitRun pairRust.routeZeroCopy.peers tr s ∧
    tr.map Prod.snd = aloneRun ∧ s[1]? = some P ∧ P.received = some response ∧
    response.payloadBytes = "dds-role-payload".toUTF8.data.toList := by
  obtain ⟨tr, s, P, hexec, hP, hrole, hresult, hargs, hlength, hserver⟩ : ∃ tr s P,
      exec pairRust.routeZeroCopy.next aloneStart aloneRun = some (tr, s) ∧ s[1]? = some P ∧
      P.role = .client ∧ P.result = some (.ok ()) ∧ P.args = pairArgs "dds-a-63" "dds-a" "dds-b" ∧
      s.length = 2 ∧ (s[0]?).map RoleProcess.role = some .server :=
    ⟨_, _, _, rfl, rfl, rfl, rfl, rfl, rfl, rfl⟩
  have hrun : InitRun pairRust.routeZeroCopy.peers tr s :=
    ⟨aloneStart, aloneStart_started, run_of_exec hexec⟩
  obtain ⟨response, hreceived, -, hown⟩ :=
    (clients_get_echo pairRust_lawful pairRust_builders).2.2 s hrun.reachable 1 P hP hrole hresult
  refine ⟨tr, s, P, response, hrun, labels_of_exec hexec, hP, hreceived, ?_⟩
  rw [hargs] at hown
  apply hown
  intro q Q hQ hclient _
  have hq : q < s.length := (List.getElem?_eq_some_iff.mp hQ).1
  have hne : q ≠ 0 := by
    intro hzero
    rw [hzero] at hQ
    rw [hQ, Option.map_some, hclient] at hserver
    contradiction
  omega

end UpTransportDds
