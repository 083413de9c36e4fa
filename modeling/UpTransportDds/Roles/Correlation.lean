import UpTransportDds.Roles.Traffic

/-! # Whose response a client takes

  A client takes the first message that passes its filters. These name the
  method of its peer and its own endpoint, so what passes them answers a
  request between the two; whose request that was nobody compares.
-/

namespace UpTransportDds

open LTS

variable {UUri UMessageId Sample Received Message : Type}

namespace Route

section correlation
variable [DecidableEq UUri] [DecidableEq UMessageId] [UriMatches UUri]
  {route : Route UUri UMessageId Sample Received Message} {Concrete : UUri → Prop}
  {resourceId : UUri → UInt16} {Good : Message → Prop}

/-- In every run, a client that finishes with `Ok` has received a response to a
    request that a client with its filters has sent; to its own request, where
    no other client has its filters. -/
def Correlates (route : Route UUri UMessageId Sample Received Message) : Prop :=
  ∀ (s : List (RoleProcess UUri Sample Message)), Reachable route.peers s →
    ∀ (p : Nat) (P : RoleProcess UUri Sample Message), s[p]? = some P → P.role = .client →
      P.result = some (.ok ()) →
        ∃ request response, P.sent = [request] ∧ P.received = some response ∧
          (∃ (q : Nat) (Q : RoleProcess UUri Sample Message), s[q]? = some Q ∧ Q.role = .client ∧
            route.filters .client Q.args = route.filters .client P.args ∧
            ∃ other ∈ Q.sent, (route.head response).requestId = some (route.head other).id) ∧
          ((∀ (q : Nat) (Q : RoleProcess UUri Sample Message), s[q]? = some Q → Q.role = .client →
              route.filters .client Q.args = route.filters .client P.args → q = p) →
            (route.head response).requestId = some (route.head request).id)

/-- `Correlates` for every lawful route. -/
theorem correlates (h : route.Lawful Concrete resourceId Good) : route.Correlates := by
  intro s hs p P hP hclient hok
  have hmem := List.mem_of_getElem? hP
  have hsound := sound_reachable h hs P hmem
  have hconforms := conforms_reachable h hs P hmem hclient
  have hunfailed : ∀ status, P.result ≠ some (.error status) := by
    intro status
    simp [hok]
  have htodo : P.todo = [] := hconforms.ended (by simp [hok])
  obtain ⟨request, hsent⟩ : ∃ request, P.sent = [request] := by
    have hone := hconforms.request hunfailed
    rw [htodo] at hone
    exact List.length_eq_one_iff.mp hone
  obtain ⟨response, hreceived⟩ : ∃ response, P.received = some response := by
    cases hreceived : P.received with
    | some response => exact ⟨response, rfl⟩
    | none =>
      have hlater := hconforms.response hunfailed hreceived
      rw [htodo] at hlater
      contradiction
  obtain ⟨q, Q, hQ, hrole, hfilters, other, hother, hid⟩ :
      ∃ (q : Nat) (Q : RoleProcess UUri Sample Message), s[q]? = some Q ∧ Q.role = .client ∧
        route.filters .client Q.args = route.filters .client P.args ∧
        ∃ other ∈ Q.sent, (route.head response).requestId = some (route.head other).id := by
    obtain ⟨htravels, hpasses⟩ := hsound.heard response (.inr hreceived)
    exact answers_of_passes h hsound hclient (by rw [hsent]; exact List.mem_cons_self) htravels
      hpasses
  refine ⟨request, response, hsent, hreceived, ⟨q, Q, hQ, hrole, hfilters, other, hother, hid⟩, ?_⟩
  intro halone
  -- then it has to be the client itself, which has sent nothing else
  obtain rfl : q = p := halone q Q hQ hrole hfilters
  rw [hP] at hQ
  obtain rfl := Option.some.inj hQ
  rw [hsent, List.mem_singleton] at hother
  rw [hid, hother]

end correlation

end Route

/-- **Whose response a client takes.** In every family and every interleaving of
    clients and servers, a client that finishes with `Ok` has received a
    response to a request that a client with its filters has sent: to its own,
    unless another client shares its endpoint and its method. -/
theorem clients_correlate {PayloadEncoding UAttributes UFrameMetadata UMessage : Type}
    [DecidableEq UUri] [DecidableEq UMessageId] [UriMatches UUri]
    {rust : RoleRust UUri UMessageId PayloadEncoding UAttributes UFrameMetadata UMessage}
    {Concrete : UUri → Prop} {resourceId : UUri → UInt16} {WellFormed : UMessage → Prop}
    (h : rust.Lawful Concrete resourceId WellFormed) :
    rust.routeClassic.Correlates ∧ rust.routeOwned.Correlates ∧ rust.routeZeroCopy.Correlates :=
  ⟨Route.correlates (RoleRust.lawful_classic h), Route.correlates (RoleRust.lawful_owned h),
    Route.correlates (RoleRust.lawful_zeroCopy h)⟩

/-! ### Two clients of one server -/

/-- The endpoints of `dds-a` and `dds-b`, and the methods with the default
    resource id. -/
inductive PairUri where
  | endpoint (b : Bool)
  | method (b : Bool)
  deriving DecidableEq, Repr

namespace PairUri

instance : UriMatches PairUri := ⟨fun filter uri => filter = uri⟩

def all : List PairUri := [.endpoint false, .endpoint true, .method false, .method true]

def resourceId : PairUri → UInt16
  | .endpoint _ => 0
  | .method _ => 0x1000

def tryFromParts (authority : String) (_ : UInt32) (_ : UInt8) (resourceId : UInt16) :
    Except String PairUri :=
  match all.find? fun uri =>
      uri.resourceId = resourceId &&
        authority = (match uri with
          | .endpoint b | .method b => if b then "dds-b" else "dds-a") with
  | some uri => .ok uri
  | none => .error "neither dds-a nor dds-b"

/-- `UUri::to_uri(false)`. -/
def toUri : PairUri → String
  | .endpoint false => "//dds-a/5BA0/1/0"
  | .endpoint true => "//dds-b/5BA0/1/0"
  | .method false => "//dds-a/5BA0/1/1000"
  | .method true => "//dds-b/5BA0/1/1000"

def parse (text : String) : Except String PairUri :=
  match all.find? fun uri => uri.toUri = text with
  | some uri => .ok uri
  | none => .error "unknown URI"

end PairUri

abbrev PairHead := Head PairUri UInt8

/-- URIs are written as their places in `PairUri.all`. -/
def PairHead.write (head : PairHead) : Bytes :=
  head.id :: UInt8.ofNat (PairUri.all.idxOf head.source) ::
    UInt8.ofNat ((head.sink.map PairUri.all.idxOf).getD PairUri.all.length) ::
      head.requestId.toList

def PairHead.parse : Bytes → Except String PairHead
  | id :: source :: sink :: rest =>
    match PairUri.all[source.toNat]? with
    | some source => .ok ⟨id, source, PairUri.all[sink.toNat]?, rest.head?⟩
    | none => .error "no source"
  | _ => .error "short head"

theorem PairHead.parse_write (head : PairHead) : PairHead.parse head.write = .ok head := by
  obtain ⟨id, source, sink, requestId⟩ := head
  have hsource : ∀ uri : PairUri,
      PairUri.all[(UInt8.ofNat (PairUri.all.idxOf uri)).toNat]? = some uri := by
    intro uri
    cases uri with
    | endpoint b | method b => cases b <;> rfl
  have hsink : PairUri.all[(UInt8.ofNat
      ((sink.map PairUri.all.idxOf).getD PairUri.all.length)).toNat]? = sink := by
    cases sink with
    | none => rfl
    | some uri => exact hsource uri
  have hrest : requestId.toList.head? = requestId := by
    cases requestId <;> rfl
  simp only [write, parse, hsource, hsink, hrest]

/-- up-rust between two authorities. -/
def pairRust : RoleRust PairUri UInt8 Encoding PairHead PairHead (PairHead × Option Bytes) where
  classic :=
    { attributes := Prod.fst
      payload := Prod.snd
      source := fun message => message.1.source
      sink := fun message => message.1.sink
      writeToProtobufBytes := fun head => .ok head.write
      parseFromProtobufBytes := PairHead.parse
      tryProjectAttributesToFrameMetadata := .ok
      tryProjectFrameToUmessage := fun head payload => .ok (head, payload)
      verifyFilterCriteria := fun _ _ => .ok () }
  owned :=
    { source := Head.source
      sink := Head.sink
      encodeFrameMetadataFields := fun head => .ok head.write
      decodeFrameMetadataFields := PairHead.parse
      validate := fun _ => .ok () }
  zeroCopy :=
    { source := Head.source
      sink := Head.sink
      toUri := PairUri.toUri
      parse := PairUri.parse }
  tryFromParts := PairUri.tryFromParts
  raw := .native
  protobufWire := .protobuf
  xcdrV2Wire := .xcdrv2
  arrowWire := .arrow
  omgIdlWire := .omgIdl
  publish := fun _ _ _ _ => .error "not a topic"
  notification := fun _ _ _ _ _ => .error "not a topic"
  request := fun method replyTo _ id payload _ =>
    match method, replyTo with
    | .method _, .endpoint _ => .ok (⟨id, replyTo, some method, none⟩, some payload)
    | _, _ => .error "not a method"
  response := fun replyTo requestId invokedMethod id payload _ =>
    .ok (⟨id, invokedMethod, some replyTo, some requestId⟩, some payload)
  responseFrame := fun source sink requestId id _ => .ok ⟨id, source, some sink, some requestId⟩
  messageId := fun message => message.1.id
  messageRequestId := fun message => message.1.requestId
  frameId := Head.id
  frameRequestId := Head.requestId
  tryProjectUmessageToFrameMetadata := fun message => .ok message.1
  withPayload := fun head payload => .ok ⟨head, some payload⟩
  withoutPayload := fun head => .ok ⟨head, none⟩
  prepareTxLoanSpec := fun _ head length alignment =>
    .ok { metadata := head, hasPayload := true, encodedMetadata := head.write,
          payloadLen := length, payloadAlignment := alignment, absent := by simp }
  readMetadata := fun _ bytes => PairHead.parse bytes

theorem PairUri.resourceId_of_parts (authority : String) (entity : UInt32) (version : UInt8)
    (resource : UInt16) (uri : PairUri)
    (h : PairUri.tryFromParts authority entity version resource = .ok uri) :
    uri.resourceId = resource := by
  unfold tryFromParts at h
  split at h
  · rename_i found hfound
    obtain rfl := Except.ok.inj h
    have hchosen := List.find?_some hfound
    simp only [Bool.and_eq_true, decide_eq_true_eq] at hchosen
    exact hchosen.1
  · contradiction

theorem PairUri.parse_toUri (uri : PairUri) : PairUri.parse uri.toUri = .ok uri := by
  cases uri with
  | endpoint b | method b => cases b <;> decide

theorem pairRust_lawful :
    pairRust.Lawful (fun _ => True) PairUri.resourceId (fun _ => True) where
  classic :=
    { attributes := fun message _ => ⟨_, rfl, PairHead.parse_write message.1⟩
      projection := fun message _ => ⟨message.1, rfl, rfl⟩
      projected := by
        intro head payload message hproject
        obtain rfl := Except.ok.inj hproject
        exact ⟨trivial, rfl⟩ }
  owned := fun frame _ => ⟨_, rfl, PairHead.parse_write frame.metadata⟩
  zeroCopy :=
    { toUri_ne := by
        intro uri
        cases uri with
        | endpoint b | method b => cases b <;> decide
      parse_toUri := PairUri.parse_toUri }
  tryFromParts := PairUri.resourceId_of_parts
  matches_concrete := by
    intro filter uri _ hmatches
    exact (of_decide_eq_true hmatches).symm
  matches_resource := by
    intro filter uri hmatches hfilter
    rw [← of_decide_eq_true hmatches]
    exact hfilter
  request := by
    intro method replyTo ttl id payload encoding message hbuilt
    cases method with
    | endpoint b => contradiction
    | method b =>
      cases replyTo with
      | method b' => contradiction
      | endpoint b' =>
        obtain rfl := Except.ok.inj hbuilt
        exact ⟨trivial, rfl, trivial, trivial, show (0x1000 : UInt16) ≠ 0 by decide⟩
  response := by
    intro replyTo requestId invokedMethod id payload encoding message hbuilt
    obtain rfl := Except.ok.inj hbuilt
    exact ⟨trivial, rfl⟩
  responseFrame := by
    intro source sink requestId id encoding metadata hbuilt
    obtain rfl := Except.ok.inj hbuilt
    rfl
  project := by
    intro message metadata hproject
    obtain rfl := Except.ok.inj hproject
    rfl
  withPayload := by
    intro metadata payload frame hframe
    obtain rfl := Except.ok.inj hframe
    exact ⟨rfl, rfl⟩
  withoutPayload := by
    intro metadata frame hframe
    obtain rfl := Except.ok.inj hframe
    exact ⟨rfl, rfl⟩
  routes := fun _ => ⟨rfl, rfl⟩
  prepareTxLoanSpec := by
    intro wire metadata length alignment spec hspec
    obtain rfl := Except.ok.inj hspec
    exact ⟨rfl, rfl, rfl, rfl⟩
  readMetadata := by
    intro wire wire' metadata length alignment spec read hspec hread
    obtain rfl := Except.ok.inj hspec
    exact (Except.ok.inj ((PairHead.parse_write metadata).symm.trans hread)).symm

/-- The default arguments of a process at `localAuthority`. -/
def pairArgs (originId localAuthority peerAuthority : String) : Args where
  domainId := 80
  originId := some originId
  reliability := .reliable
  historyDepth := 32
  encoding := .protobuf
  localAuthority := localAuthority
  peerAuthority := peerAuthority
  topicResourceId := 0x8001
  methodResourceId := 0x1000
  payload := "dds-role-payload"
  timeoutMs := 8000
  payloadAlignment := 8

/-- A server at `dds-b` and a client at `dds-a`, in the zero-copy family. -/
def aloneStart : List (RoleProcess PairUri UpDdsZeroCopySampleV1 (UOwnedFrame PairHead)) :=
  [pairRust.routeZeroCopy.start .server (pairArgs "dds-b-63" "dds-b" "dds-a") 1,
   pairRust.routeZeroCopy.start .client (pairArgs "dds-a-63" "dds-a" "dds-b") 2]

/-- The server answers, and the client skips its own sample before the answer. -/
def aloneRun : List (RoleLabel UInt8) :=
  [⟨0, .create (.ok ())⟩, ⟨0, .ready (.ok ())⟩, ⟨0, .register⟩, ⟨1, .create (.ok ())⟩,
   ⟨1, .ready (.ok ())⟩, ⟨1, .register⟩, ⟨1, .send 1 (.ok ())⟩, ⟨0, .deliver 0⟩,
   ⟨0, .receive⟩, ⟨0, .send 2 (.ok ())⟩, ⟨1, .deliver 0⟩, ⟨1, .deliver 0⟩, ⟨1, .receive⟩]

theorem aloneStart_started : pairRust.routeZeroCopy.Started aloneStart := by
  refine ⟨?_, ⟨80, ?_⟩, by decide⟩ <;> simp [aloneStart, Route.start, pairArgs]

/-- The only client gets its own response. -/
theorem clients_correlate_alone : ∃ tr s P, InitRun pairRust.routeZeroCopy.peers tr s ∧
    tr.map Prod.snd = aloneRun ∧ s[1]? = some P ∧
    ∃ request response, P.sent = [request] ∧ P.received = some response ∧
      (pairRust.routeZeroCopy.head response).requestId =
        some (pairRust.routeZeroCopy.head request).id := by
  obtain ⟨tr, s, P, hexec, hP, hrole, hresult, hlength, hserver⟩ : ∃ tr s P,
      exec pairRust.routeZeroCopy.next aloneStart aloneRun = some (tr, s) ∧ s[1]? = some P ∧
      P.role = .client ∧ P.result = some (.ok ()) ∧ s.length = 2 ∧
      (s[0]?).map RoleProcess.role = some .server :=
    ⟨_, _, _, rfl, rfl, rfl, rfl, rfl, rfl⟩
  have hrun : InitRun pairRust.routeZeroCopy.peers tr s :=
    ⟨aloneStart, aloneStart_started, run_of_exec hexec⟩
  obtain ⟨request, response, hsent, hreceived, _, hown⟩ :=
    (clients_correlate pairRust_lawful).2.2 s hrun.reachable 1 P hP hrole hresult
  refine ⟨tr, s, P, hrun, labels_of_exec hexec, hP, request, response, hsent, hreceived, hown ?_⟩
  intro q Q hQ hclient _
  have hq : q < s.length := (List.getElem?_eq_some_iff.mp hQ).1
  have hne : q ≠ 0 := by
    intro hzero
    rw [hzero] at hQ
    rw [hQ, Option.map_some, hclient] at hserver
    contradiction
  omega

/-- A server at `dds-b` and two clients at `dds-a`. -/
def pairStart : List (RoleProcess PairUri UpDdsClassicSampleV1 (PairHead × Option Bytes)) :=
  [pairRust.routeClassic.start .server (pairArgs "server" "dds-b" "dds-a") 1,
   pairRust.routeClassic.start .client (pairArgs "first" "dds-a" "dds-b") 2,
   pairRust.routeClassic.start .client (pairArgs "second" "dds-a" "dds-b") 3]

/-- All three register. Both clients send, and the server answers the first of
    them. Its answer is the first message that the second client hears. -/
def crossedRun : List (RoleLabel UInt8) :=
  [⟨0, .create (.ok ())⟩, ⟨0, .register⟩, ⟨1, .create (.ok ())⟩, ⟨1, .register⟩,
   ⟨2, .create (.ok ())⟩, ⟨2, .register⟩, ⟨1, .ready (.ok ())⟩, ⟨2, .ready (.ok ())⟩,
   ⟨1, .send 1 (.ok ())⟩, ⟨2, .send 2 (.ok ())⟩, ⟨0, .deliver 0⟩, ⟨0, .receive⟩,
   ⟨0, .ready (.ok ())⟩, ⟨0, .send 3 (.ok ())⟩, ⟨2, .deliver 0⟩, ⟨2, .deliver 0⟩,
   ⟨2, .deliver 0⟩, ⟨2, .receive⟩]

theorem pairStart_started : pairRust.routeClassic.Started pairStart := by
  refine ⟨?_, ⟨80, ?_⟩, by decide⟩ <;> simp [pairStart, Route.start, pairArgs]

/-- The second client finishes with `Ok` on the response to the first. -/
theorem clients_crossed : ∃ tr s P, InitRun pairRust.routeClassic.peers tr s ∧
    tr.map Prod.snd = crossedRun ∧ s[2]? = some P ∧ P.role = .client ∧
    P.result = some (.ok ()) ∧
    (P.sent.map fun request => (pairRust.routeClassic.head request).id) = [2] ∧
    (P.received.map fun response => (pairRust.routeClassic.head response).requestId) =
      some (some 1) := by
  obtain ⟨tr, s, P, hexec, hP, hrole, hresult, hsent, hreceived⟩ : ∃ tr s P,
      exec pairRust.routeClassic.next pairStart crossedRun = some (tr, s) ∧ s[2]? = some P ∧
      P.role = .client ∧ P.result = some (.ok ()) ∧
      (P.sent.map fun request => (pairRust.routeClassic.head request).id) = [2] ∧
      (P.received.map fun response => (pairRust.routeClassic.head response).requestId) =
        some (some 1) :=
    ⟨_, _, _, rfl, rfl, rfl, rfl, rfl, rfl⟩
  exact ⟨tr, s, P, ⟨pairStart, pairStart_started, run_of_exec hexec⟩, labels_of_exec hexec, hP,
    hrole, hresult, hsent, hreceived⟩

end UpTransportDds
