import UpTransportDds.Domain.Transit
import UpTransportDds.Router.Calls

/-! # What a listener of a domain is called with

  From the `send` of one transport to the callbacks of another: nothing is
  made up on the way, nothing comes twice, nothing comes back to its own
  transport, and no two messages of one sender change places.
-/

namespace UpTransportDds

open LTS

variable {Node UUri Listener Sample Message Value : Type}

/-! ### Messages and their senders -/

namespace Network

/-- What sending a value amounts to at `b`. -/
def reaches (net : Network Node UUri Sample Message Value) (b : Node) (sent : Node × Value) :
    Option (Node × Message) :=
  if (net.config sent.1).toDdsConfig.originId = (net.config b).toDdsConfig.originId then
    none
  else
    match net.sender.encode (net.config sent.1).toDdsConfig sent.2 with
    | .ok _ => some (sent.1, net.sender.message sent.2)
    | .error _ => none

/-- What `b` accepts of a packet. -/
def accepts (net : Network Node UUri Sample Message Value) (b : Node)
    (packet : Packet Node Sample) : Option (Node × Message) :=
  match net.sender.carriage.receive (net.config b).toDdsConfig packet.sample with
  | .accepted message => some (packet.sender, message)
  | _ => none

variable {net : Network Node UUri Sample Message Value} {b : Node}

theorem sender_of_accepts {packet : Packet Node Sample} {call : Node × Message}
    (h : net.accepts b packet = some call) : call.1 = packet.sender := by
  unfold accepts at h
  split at h
  · rw [← Option.some.inj h]
  · contradiction

theorem acceptedOf_eq (packet : Option (Packet Node Sample)) (k : Nat) :
    acceptedOf (net.env b) (packet.map Packet.sample, k) =
      (packet.bind (net.accepts b)).map Prod.snd := by
  cases packet with
  | none => rfl
  | some packet =>
    simp only [acceptedOf, accepts, env, Option.map_some, Option.bind_some]
    cases net.sender.carriage.receive (net.config b).toDdsConfig packet.sample <;> rfl

/-- A peer accepts what was sent, unless it comes from its own origin. -/
theorem accepts_packetOf (hlawful : net.sender.Lawful) (sent : Node × Value) :
    (net.packetOf sent).bind (net.accepts b) = net.reaches b sent := by
  unfold packetOf reaches
  cases hencode : net.sender.encode (net.config sent.1).toDdsConfig sent.2 with
  | error status => simp
  | ok sample =>
    simp only [Option.bind_some, accepts, hlawful.receive hencode]
    by_cases hown : (net.config sent.1).toDdsConfig.originId = (net.config b).toDdsConfig.originId
    · rw [if_pos hown, if_pos hown]
    · rw [if_neg hown, if_neg hown]

theorem accepts_written (hlawful : net.sender.Lawful) (sent : List (Node × Value)) :
    (sent.filterMap net.packetOf).filterMap (net.accepts b) = sent.filterMap (net.reaches b) := by
  rw [List.filterMap_filterMap]
  congr 1
  funext x
  exact accepts_packetOf hlawful x

/-- What comes of the packets of `a` is what comes from `a`. -/
theorem accepts_filter [DecidableEq Node] (a : Node) (packets : List (Packet Node Sample)) :
    (packets.filterMap (net.accepts b)).filter (·.1 = a) =
      (packets.filter (·.sender = a)).filterMap (net.accepts b) := by
  induction packets with
  | nil => rfl
  | cons packet packets ih =>
    rw [List.filterMap_cons, List.filter_cons]
    cases hcall : net.accepts b packet with
    | none =>
      rw [ih]
      split
      · rw [List.filterMap_cons, hcall]
      · rfl
    | some call =>
      simp only [List.filter_cons, sender_of_accepts hcall]
      split
      · rw [List.filterMap_cons, hcall, ih]
      · exact ih

theorem packetOf_filter [DecidableEq Node] (a : Node) (sent : List (Node × Value)) :
    (sent.filterMap net.packetOf).filter (·.sender = a) =
      (sent.filter (·.1 = a)).filterMap net.packetOf := by
  induction sent with
  | nil => rfl
  | cons x sent ih =>
    rw [List.filterMap_cons, List.filter_cons]
    cases hpacket : net.packetOf x with
    | none =>
      rw [ih]
      split
      · rw [List.filterMap_cons, hpacket]
      · rfl
    | some packet =>
      have hsender : packet.sender = x.1 := by
        unfold packetOf at hpacket
        split at hpacket
        · rw [← Option.some.inj hpacket]
        · contradiction
      simp only [List.filter_cons, hsender]
      split
      · rw [List.filterMap_cons, hpacket, ih]
      · exact ih

/-- What is written and accepted is what was sent. -/
theorem accepts_observe (hlawful : net.sender.Lawful) (b : Node)
    (tr : Trace (Domain Node UUri Listener Sample Message)
      (DomainLabel Node UUri Listener Sample Value)) :
    (observe net.written tr).filterMap (net.accepts b) =
      (observe (fun _ l => DomainLabel.sends l) tr).filterMap (net.reaches b) := by
  rw [observe_written, accepts_written hlawful]

end Network

/-! ### The callbacks of a registration -/

section calls
variable [DecidableEq Node] [DecidableEq UUri] [UriMatches UUri] [DecidableEq Listener]
variable {net : Network Node UUri Sample Message Value}
  {s : Domain Node UUri Listener Sample Message}
  {tr : Trace (Domain Node UUri Listener Sample Message)
    (DomainLabel Node UUri Listener Sample Value)}

/-- The messages that the callbacks of a registration of `b` are started
    with, in their order. -/
def Domain.callsOf (b : Node) (r : RegId)
    (tr : Trace (Domain Node UUri Listener Sample Message)
      (DomainLabel Node UUri Listener Sample Value)) : List Message :=
  ((observe (Domain.showing b started) tr).filter (·.reg = r)).map Job.message

/-- What the router of `b` accepts are messages of the packets that it is
    returned. -/
theorem accepted_took (h : InitRun net.system tr s) (b : Node)
    {tr' : Trace (State UUri Listener Sample Message) (Label UUri Listener Sample)}
    (halike : Alike State.blind tr' (Domain.stepsOf b tr)) :
    (observe took tr').filterMap (acceptedOf (net.env b)) =
      (((observe (Domain.takenBy b) tr).filterMap id).filterMap (net.accepts b)).map Prod.snd := by
  have htook := run_took h b
  have hblind : Blind (took : State UUri Listener Sample Message → _) := fun _ _ => rfl
  rw [← observe_routerRun hblind halike] at htook
  rw [acceptedOf_taken, htook, List.filterMap_map, List.filterMap_filterMap, List.map_filterMap]
  congr 1
  funext packet
  exact Network.acceptedOf_eq packet 0

/-- What a registration of `b` is called with comes from packets that are
    returned to `b`. -/
theorem run_calls (h : InitRun net.system tr s) (b : Node) (r : RegId) :
    ∃ calls : List (Node × Message),
      calls.map Prod.snd = Domain.callsOf b r tr ∧
      calls.Sublist (((observe (Domain.takenBy b) tr).filterMap id).filterMap (net.accepts b)) := by
  obtain ⟨tr', a, hrun, halike, -⟩ := routerRun h b
  have hcalled := run_called hrun r
  have hblind : Blind (started : State UUri Listener Sample Message → _) := fun _ _ => rfl
  rw [observe_routerRun hblind halike] at hcalled
  have hhandled : (observe handled tr').Sublist (observe took tr') :=
    run_batch hrun ▸ List.sublist_append_left _ _
  have hsublist := hcalled.trans (hhandled.filterMap _)
  rw [accepted_took h b halike, List.sublist_map_iff] at hsublist
  obtain ⟨calls, hcalls, heq⟩ := hsublist
  exact ⟨calls, heq.symm, hcalls⟩

/-- The filters of a registration accept what its listener is called with. -/
theorem callsOf_accepted (h : InitRun net.system tr s) {b : Node} {r : RegId} {message : Message}
    (hmessage : message ∈ Domain.callsOf b r tr) :
    (s b).transport.registry.accepts (net.sender.carriage.source message)
      (net.sender.carriage.sink message) r = true := by
  obtain ⟨tr', a, hrun, halike, hblind⟩ := routerRun h b
  obtain ⟨job, hjob, hcalled⟩ := List.mem_map.mp hmessage
  obtain ⟨hstarted, hreg⟩ := List.mem_filter.mp hjob
  have hshow : Blind (started : State UUri Listener Sample Message → _) := fun _ _ => rfl
  rw [← observe_routerRun hshow halike] at hstarted
  have haccepted := run_started_accepts hrun hstarted
  have hregistry : a.registry = (s b).transport.registry := by
    have hsame : a.blind.registry = (s b).transport.blind.registry := by rw [hblind]
    exact hsame
  rw [hregistry, hcalled, of_decide_eq_true hreg] at haccepted
  exact haccepted

/-- **Listeners are called with what was sent**: each callback of a
    registration has a `send` of another origin of its own, whose message it
    is called with and its filters accept. -/
theorem called_as_sent (hlawful : net.sender.Lawful) (h : InitRun net.system tr s) (b : Node)
    (r : RegId) :
    ∃ calls : List (Node × Message),
      calls.map Prod.snd = Domain.callsOf b r tr ∧
      calls.Subperm ((observe (fun _ l => DomainLabel.sends l) tr).filterMap (net.reaches b)) ∧
      ∀ call ∈ calls, (s b).transport.registry.accepts (net.sender.carriage.source call.2)
        (net.sender.carriage.sink call.2) r = true := by
  obtain ⟨calls, hcalls, hsublist⟩ := run_calls h b r
  refine ⟨calls, hcalls, ?_, ?_⟩
  · rw [← Network.accepts_observe hlawful]
    have hwritten := (run_transit h b).filterMap (net.accepts b)
    have htaken : ((observe (Domain.takenBy b) tr).filterMap id).Sublist
        (((observe (Domain.takenBy b) tr).filterMap id ++ observe (Domain.lostBy b) tr) ++
          s.heldFor b) := by
      rw [List.append_assoc]
      exact List.sublist_append_left _ _
    exact (hsublist.trans (htaken.filterMap _)).subperm.trans hwritten.symm.subperm
  · intro call hcall
    apply callsOf_accepted h
    rw [← hcalls]
    exact List.mem_map_of_mem hcall

theorem called_as_sent_topic :
    ∃ (s : TopicDomain) (tr : Trace TopicDomain TopicDomainLabel)
      (calls : List (Bool × (Topic × Option Bytes))),
      InitRun topicNetwork.system tr s ∧
      Domain.callsOf true 0 tr = [(⟨7⟩, some [1]), (⟨7⟩, some [2])] ∧
      calls.map Prod.snd = Domain.callsOf true 0 tr ∧
      calls.Subperm [(false, (⟨7⟩, some [1])), (false, (⟨7⟩, some [2]))] := by
  obtain ⟨tr, s, hexec, hcalls, hsent⟩ : ∃ tr s,
      exec topicNetwork.next Domain.start topicTraffic = some (tr, s) ∧
        Domain.callsOf true 0 tr = [(⟨7⟩, some [1]), (⟨7⟩, some [2])] ∧
        (observe (fun _ l => DomainLabel.sends l) tr).filterMap (topicNetwork.reaches true) =
          [(false, (⟨7⟩, some [1])), (false, (⟨7⟩, some [2]))] :=
    ⟨_, _, rfl, rfl, rfl⟩
  have hrun : InitRun topicNetwork.system tr s := ⟨_, rfl, run_of_exec hexec⟩
  obtain ⟨calls, hmap, hsubperm, -⟩ :=
    called_as_sent (ClassicRust.sender_lawful topicClassic_lawful) hrun true 0
  exact ⟨s, tr, calls, hrun, hcalls, hmap, hsent ▸ hsubperm⟩

/-- **Messages of one sender come in order**, as long as DDS keeps the samples
    of each writer in order. -/
theorem called_in_order (hlawful : net.sender.Lawful) (h : InitRun net.system tr s)
    (hordered : ∀ e ∈ tr, e.2.InOrder) (b : Node) (r : RegId) :
    ∃ calls : List (Node × Message),
      calls.map Prod.snd = Domain.callsOf b r tr ∧
      ∀ a, (calls.filter (·.1 = a)).Sublist
        (((observe (fun _ l => DomainLabel.sends l) tr).filter (·.1 = a)).filterMap
          (net.reaches b)) := by
  obtain ⟨calls, hcalls, hsublist⟩ := run_calls h b r
  refine ⟨calls, hcalls, fun a => ?_⟩
  have hsent : ((observe (fun _ l => DomainLabel.sends l) tr).filter (·.1 = a)).filterMap
      (net.reaches b) = ((observe net.written tr).filter (·.sender = a)).filterMap
        (net.accepts b) := by
    rw [net.observe_written, Network.packetOf_filter, Network.accepts_written hlawful]
  have htaken := hsublist.filter (·.1 = a)
  rw [Network.accepts_filter] at htaken
  rw [hsent]
  exact htaken.trans ((run_ordered h hordered b a).filterMap _)

theorem called_in_order_topic :
    ∃ (tr : Trace TopicDomain TopicDomainLabel) (calls : List (Bool × (Topic × Option Bytes))),
      Domain.callsOf true 0 tr = [(⟨7⟩, some [1]), (⟨7⟩, some [2])] ∧
      calls.map Prod.snd = Domain.callsOf true 0 tr ∧
      (calls.filter (·.1 = false)).Sublist
        [(false, (⟨7⟩, some [1])), (false, (⟨7⟩, some [2]))] := by
  obtain ⟨tr, s, hexec, hcalls, hsent, hordered⟩ : ∃ tr s,
      exec topicNetwork.next Domain.start topicTraffic = some (tr, s) ∧
        Domain.callsOf true 0 tr = [(⟨7⟩, some [1]), (⟨7⟩, some [2])] ∧
        ((observe (fun _ l => DomainLabel.sends l) tr).filter (·.1 = false)).filterMap
          (topicNetwork.reaches true) = [(false, (⟨7⟩, some [1])), (false, (⟨7⟩, some [2]))] ∧
        tr.map Prod.snd = topicTraffic :=
    ⟨_, _, rfl, rfl, rfl, rfl⟩
  have hrun : InitRun topicNetwork.system tr s := ⟨_, rfl, run_of_exec hexec⟩
  have horder : ∀ e ∈ tr, e.2.InOrder := by
    intro e he
    have hlabel : e.2 ∈ topicTraffic := hordered ▸ List.mem_map_of_mem he
    exact topicTraffic_inOrder e.2 hlabel
  obtain ⟨calls, hmap, hsublist⟩ :=
    called_in_order (ClassicRust.sender_lawful topicClassic_lawful) hrun horder true 0
  exact ⟨tr, calls, hcalls, hmap, hsent ▸ hsublist false⟩

end calls

/-! ### A domain at rest -/

section settled
variable [DecidableEq Node] [DecidableEq UUri] [UriMatches UUri] [DecidableEq Listener]
variable {net : Network Node UUri Sample Message Value}
  {s : Domain Node UUri Listener Sample Message}
  {tr : Trace (Domain Node UUri Listener Sample Message)
    (DomainLabel Node UUri Listener Sample Value)}

/-- After the run `tr` to `s`, nothing that was written is still on its way to
    registration `r` of `b`, and nothing was given up on the way. -/
structure Settled (b : Node) (r : RegId)
    (tr : Trace (Domain Node UUri Listener Sample Message)
      (DomainLabel Node UUri Listener Sample Value))
    (s : Domain Node UUri Listener Sample Message) : Prop where
  /-- DDS has lost nothing, and has delivered everything. -/
  kept : observe (Domain.lostBy b) tr = []
  arrived : s.heldFor b = []
  /-- The threads of `b` have done their work. -/
  handled : (s b).transport.poller.unhandled = []
  called : (s b).transport.pending = []
  /-- No job was refused, skipped or cancelled. -/
  accepted : observe (Domain.showing b rejected) tr = []
  begun : observe (Domain.showing b skipped) tr = []
  polled : observe (Domain.showing b unstarted) tr = []
  /-- The registration was in the table all along. -/
  listed : ∀ x ∈ observe (Domain.showing b handledIn) tr, x.1.1.isSome = true → r ∈ x.2.entries

/-- What the filters of registration `r` of `b` accept. -/
def Domain.filters (net : Network Node UUri Sample Message Value) (b : Node) (r : RegId)
    (s : Domain Node UUri Listener Sample Message) (message : Message) : Bool :=
  (s b).transport.registry.accepts (net.sender.carriage.source message)
    (net.sender.carriage.sink message) r

/-- Where everything has settled, the callbacks are for all packets taken. -/
theorem settled_calls (h : InitRun net.system tr s) {b : Node} {r : RegId}
    (hsettled : Settled b r tr s) :
    Domain.callsOf b r tr =
      ((((observe (Domain.takenBy b) tr).filterMap id).filterMap (net.accepts b)).map
        Prod.snd).filter (s.filters net b r) := by
  obtain ⟨tr', a, hrun, halike, hblind⟩ := routerRun h b
  have hshow {α : Type} {obs : State UUri Listener Sample Message → Label UUri Listener Sample →
      List α} (hobs : Blind obs) : observe (Domain.showing b obs) tr = observe obs tr' :=
    (observe_routerRun hobs halike).symm
  have hrejected := hsettled.accepted
  have hskipped := hsettled.begun
  have hunstarted := hsettled.polled
  have hlisted := hsettled.listed
  rw [hshow fun _ _ => rfl] at hrejected hskipped hunstarted hlisted
  have hpending : a.pending = [] := by
    have hsame : a.blind.pending = (s b).transport.blind.pending := by rw [hblind]
    exact hsame.trans hsettled.called
  have hunhandled : a.poller.unhandled = [] := by
    have hsame : a.blind.poller = (s b).transport.blind.poller := by rw [hblind]
    exact (congrArg Poller.unhandled hsame).trans hsettled.handled
  have hregistry : a.registry = (s b).transport.registry := by
    have hsame : a.blind.registry = (s b).transport.blind.registry := by rw [hblind]
    exact hsame
  have hbatch := run_batch hrun
  rw [hunhandled, List.append_nil] at hbatch
  rw [Domain.callsOf, hshow fun _ _ => rfl, run_settled hrun hrejected hskipped hunstarted hpending,
    run_listed hrun hlisted, ← hbatch, accepted_took h b halike, hregistry]
  rfl

/-- **Exactly once**: where everything has settled, the callbacks of a
    registration are for all messages sent that its filters accept, one for
    each, and those of one sender in order if DDS has kept its samples so. -/
theorem called_exactly_once (hlawful : net.sender.Lawful) (h : InitRun net.system tr s) {b : Node}
    {r : RegId} (hsettled : Settled b r tr s) :
    ∃ calls : List (Node × Message),
      calls.map Prod.snd = Domain.callsOf b r tr ∧
      calls.Perm (((observe (fun _ l => DomainLabel.sends l) tr).filterMap
        (net.reaches b)).filter fun call => s.filters net b r call.2) ∧
      ((∀ e ∈ tr, e.2.InOrder) → ∀ a, calls.filter (·.1 = a) =
        (((observe (fun _ l => DomainLabel.sends l) tr).filter (·.1 = a)).filterMap
          (net.reaches b)).filter fun call => s.filters net b r call.2) := by
  have hwritten := run_transit h b
  rw [hsettled.kept, hsettled.arrived, List.append_nil, List.append_nil] at hwritten
  refine ⟨(((observe (Domain.takenBy b) tr).filterMap id).filterMap (net.accepts b)).filter
    fun call => s.filters net b r call.2, ?_, ?_, ?_⟩
  · rw [settled_calls h hsettled, List.filter_map]
    rfl
  · rw [← Network.accepts_observe hlawful]
    exact ((hwritten.filterMap (net.accepts b)).filter _).symm
  · intro hordered a
    -- nothing of `a` is missing, so its packets are all there in their order
    have hsame := (run_ordered h hordered b a).eq_of_length
      (hwritten.filter (·.sender = a)).length_eq.symm
    rw [List.filter_comm, Network.accepts_filter, hsame, net.observe_written,
      Network.packetOf_filter, Network.accepts_written hlawful]

theorem called_exactly_once_topic :
    ∃ (s : TopicDomain) (tr : Trace TopicDomain TopicDomainLabel)
      (calls : List (Bool × (Topic × Option Bytes))),
      InitRun topicNetwork.system tr s ∧ Settled true 0 tr s ∧
      calls.map Prod.snd = Domain.callsOf true 0 tr ∧
      calls.filter (·.1 = false) = [(false, (⟨7⟩, some [1])), (false, (⟨7⟩, some [2]))] := by
  obtain ⟨tr, s, hexec, hsettled, hsent, hordered⟩ : ∃ tr s,
      exec topicNetwork.next Domain.start topicTraffic = some (tr, s) ∧
        Settled true 0 tr s ∧
        (((observe (fun _ l => DomainLabel.sends l) tr).filter (·.1 = false)).filterMap
          (topicNetwork.reaches true)).filter (fun call => s.filters topicNetwork true 0 call.2) =
            [(false, (⟨7⟩, some [1])), (false, (⟨7⟩, some [2]))] ∧
        tr.map Prod.snd = topicTraffic :=
    ⟨_, _, rfl, ⟨rfl, rfl, rfl, rfl, rfl, rfl, rfl, by decide⟩, rfl, rfl⟩
  have hrun : InitRun topicNetwork.system tr s := ⟨_, rfl, run_of_exec hexec⟩
  obtain ⟨calls, hmap, -, hinorder⟩ :=
    called_exactly_once (ClassicRust.sender_lawful topicClassic_lawful) hrun hsettled
  have horder : ∀ e ∈ tr, e.2.InOrder := by
    intro e he
    have hlabel : e.2 ∈ topicTraffic := hordered ▸ List.mem_map_of_mem he
    exact topicTraffic_inOrder e.2 hlabel
  exact ⟨s, tr, calls, hrun, hsettled, hmap, (hinorder horder false).trans hsent⟩

end settled

end UpTransportDds
