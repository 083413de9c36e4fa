import UpTransportDds.Domain.Sender
import UpTransportDds.Router.Blind

/-! # The transports of a domain

  Any number of transports of one family on one DDS domain. What one of them
  writes is on its way to the reader of every one of them, its own included.
  On the way, or in the reader, DDS may lose it. DDS keeps the samples of one
  writer in order, unless the steps that let one overtake another are used.

  A transport is the router with its surroundings: `reader.take` returns what
  its reader holds, and a failed `send` reports to its health.
-/

namespace UpTransportDds

open LTS

/-! ### State and labels -/

/-- A sample with the transport that has written it. -/
structure Packet (Node Sample : Type) where
  sender : Node
  sample : Sample
  deriving DecidableEq, Repr

/-- A transport and its reader. -/
structure Station (Node UUri Listener Sample Message : Type) where
  transport : State UUri Listener Sample Message
  /-- What is on the way to its reader, in the order in which it was written. -/
  transit : List (Packet Node Sample)
  /-- What its reader holds; an entry may be without data. -/
  cache : List (Option (Packet Node Sample))

/-- What the transports are built with. -/
structure Network (Node UUri Sample Message Value : Type) where
  sender : Sender UUri Sample Message Value
  config : Node → ValidConfig
  /-- The workers of the tokio runtime that each is given. -/
  workers : Node → Nat

abbrev Domain (Node UUri Listener Sample Message : Type) :=
  Node → Station Node UUri Listener Sample Message

inductive DomainLabel (Node UUri Listener Sample Value : Type) where
  /-- Transport `b` takes a step that needs nothing of the others. -/
  | internal (b : Node) (l : Label UUri Listener Sample)
  /-- `reader.take` of `b` returns the first `count` entries. -/
  | take (b : Node) (count : Nat)
  /-- `a` sends a value, and its writer answers. -/
  | send (a : Node) (value : Value) (answer : Except DdsError Unit)
  /-- The first sample of `a` that is on the way to `b` gets there. -/
  | arrive (b a : Node)
  /-- A sample on the way to `b` gets there before those ahead of it. -/
  | overtake (b : Node) (i : Nat)
  /-- A sample on the way to `b` is lost. -/
  | lose (b : Node) (i : Nat)
  /-- An entry of the reader of `b` is dropped, as its history is full. -/
  | overwrite (b : Node) (i : Nat)
  /-- The reader of `b` gets an entry without data. -/
  | notice (b : Node)

/-- Does the step keep the samples of each writer in order? -/
def DomainLabel.InOrder {Node UUri Listener Sample Value : Type} :
    DomainLabel Node UUri Listener Sample Value → Prop
  | .overtake _ _ => False
  | _ => True

variable {Node UUri Listener Sample Message Value : Type}

namespace Network

/-- The surroundings of transport `b`. -/
def env (net : Network Node UUri Sample Message Value) (b : Node) : Env UUri Sample Message where
  carriage := net.sender.carriage
  config := net.config b
  workers := net.workers b

/-- `send` of transport `a`, whose writer gives this answer. -/
def send (net : Network Node UUri Sample Message Value) (a : Node) (answer : Except DdsError Unit)
    (health : HealthState) (value : Value) : Sent Sample :=
  net.sender.send (net.config a).toDdsConfig (some fun _ => answer) health value

end Network

/-! ### Steps -/

namespace Domain
variable [DecidableEq Node]

/-- Something happens at `b`. -/
def update (s : Domain Node UUri Listener Sample Message) (b : Node)
    (station : Station Node UUri Listener Sample Message) :
    Domain Node UUri Listener Sample Message :=
  Function.update s b station

/-- The packets are on their way to everyone. -/
def broadcast (s : Domain Node UUri Listener Sample Message) (packets : List (Packet Node Sample)) :
    Domain Node UUri Listener Sample Message :=
  fun b => { s b with transit := (s b).transit ++ packets }

/-- The transport of `b` moves on. -/
def setTransport (s : Domain Node UUri Listener Sample Message) (b : Node)
    (transport : State UUri Listener Sample Message) : Domain Node UUri Listener Sample Message :=
  s.update b { s b with transport := transport }

/-- The entries that `reader.take` returns. -/
def taking (s : Domain Node UUri Listener Sample Message) (b : Node) (count : Nat) :
    List (Option Sample) :=
  ((s b).cache.take count).map (Option.map Packet.sample)

/-- All transports have just been built, and nothing has been written. -/
def start : Domain Node UUri Listener Sample Message := fun _ => ⟨State.start, [], []⟩

end Domain

namespace Network
variable [DecidableEq Node] [DecidableEq UUri] [UriMatches UUri] [DecidableEq Listener]

def next (net : Network Node UUri Sample Message Value)
    (s : Domain Node UUri Listener Sample Message) :
    DomainLabel Node UUri Listener Sample Value → Option (Domain Node UUri Listener Sample Message)
  | .internal _ (.take (.ok _)) => none
  | .internal b l => (State.next (net.env b) (s b).transport l).map (s.setTransport b)
  | .take b count =>
    if count ≤ (s b).cache.length ∧ (count : Int) ≤ (net.config b).maxSamplesPerPoll then
      ((s b).transport.take (net.env b) (.ok (s.taking b count))).map fun transport =>
        s.update b { s b with transport := transport, cache := (s b).cache.drop count }
    else
      none
  | .send a value answer =>
    -- `send` borrows the transport
    if (s a).transport.drop = .live then
      let sent := net.send a answer (s a).transport.health value
      some ((s.setTransport a ((s a).transport.withHealth sent.health)).broadcast
        (sent.written.toList.map fun sample => ⟨a, sample⟩))
    else
      none
  | .arrive b a =>
    ((s b).transit.find? (·.sender = a)).map fun packet =>
      s.update b { s b with transit := (s b).transit.eraseP (·.sender = a)
                            cache := (s b).cache ++ [some packet] }
  | .overtake b i =>
    ((s b).transit[i]?).map fun packet =>
      s.update b { s b with transit := (s b).transit.eraseIdx i
                            cache := (s b).cache ++ [some packet] }
  | .lose b i =>
    if i < (s b).transit.length then
      some (s.update b { s b with transit := (s b).transit.eraseIdx i })
    else
      none
  | .overwrite b i =>
    if i < (s b).cache.length then
      some (s.update b { s b with cache := (s b).cache.eraseIdx i })
    else
      none
  | .notice b => some (s.update b { s b with cache := (s b).cache ++ [none] })

/-- The transports of a domain, from the moment they have been built. -/
def system (net : Network Node UUri Sample Message Value) :
    System (Domain Node UUri Listener Sample Message)
      (DomainLabel Node UUri Listener Sample Value) :=
  ofNext (· = Domain.start) net.next

end Network

/-! ### A domain to run -/

/-- Two classic transports, each with four places in its channel. -/
def topicNetwork :
    Network Bool Topic UpDdsClassicSampleV1 (Topic × Option Bytes)
      { m : Topic × Option Bytes // m.1.number ≠ 0 } where
  sender := topicClassic.sender fun m => m.1.number ≠ 0
  config := fun b =>
    { domainId := 0, originId := toString b, qos := DdsQos.default, dispatchCapacity := 4,
      maxSamplesPerPoll := 64, pollInterval := 2000000
      valid := by cases b <;> rfl }
  workers := fun _ => 2

/-- A message about topic 7. -/
def topicMessage (payload : Bytes) : { m : Topic × Option Bytes // m.1.number ≠ 0 } :=
  ⟨(⟨7⟩, some payload), Nat.succ_ne_zero 6⟩

abbrev TopicDomain := Domain Bool Topic Nat UpDdsClassicSampleV1 (Topic × Option Bytes)

abbrev TopicDomainLabel :=
  DomainLabel Bool Topic Nat UpDdsClassicSampleV1 { m : Topic × Option Bytes // m.1.number ≠ 0 }

/-- Both transports send; the listener of the second is called with what the
    first has sent, although a write was reported to have failed. -/
def topicTraffic : List TopicDomainLabel :=
  [.internal true (.enter .external (.register ⟨7⟩ none 0)), .internal true (.advance 0),
   .send false (topicMessage [1]) (.ok ()), .send true (topicMessage [3]) (.ok ()),
   .send false (topicMessage [2]) (.error ⟨.timeout, "timeout"⟩),
   .arrive true false, .arrive true true, .arrive true false,
   .internal true .poller, .take true 3,
   .internal true .poller, .internal true .poller, .internal true .poller,
   .internal true .poller, .internal true .poller, .internal true .poller,
   .internal true .poller, .internal true .poller,
   .internal true .dispatcher, .internal true .dispatcher, .internal true .dispatcher,
   .internal true (.poll 0), .internal true (.finish 0 false), .internal true (.release 0),
   .internal true (.complete 0),
   .internal true .dispatcher, .internal true .dispatcher, .internal true .dispatcher,
   .internal true .dispatcher, .internal true .dispatcher, .internal true .dispatcher,
   .internal true .dispatcher, .internal true (.poll 1)]

theorem topicTraffic_inOrder : ∀ l ∈ topicTraffic, l.InOrder := by
  intro l hl
  cases l with
  | overtake b i => simp [topicTraffic] at hl
  | _ => trivial

end UpTransportDds
