import UpTransportDds.Domain.Delivery

/-! # The health of a transport in a domain

  `DdsHealth` is reported to by the threads of its transport and by `send`.
  Among transports that keep to their format no sample is ever malformed, and
  a transport that has been dropped does nothing any more.
-/

namespace UpTransportDds

open LTS

variable {Node UUri Listener Sample Message Value : Type}

/-! ### Reports -/

/-- What a `send` reports. -/
def Network.writerErrors (net : Network Node UUri Sample Message Value) (a : Node) (value : Value) :
    Except DdsError Unit → List (HealthErrorKind × String)
  | .ok () => []
  | .error error =>
    match net.sender.encode (net.config a).toDdsConfig value with
    | .ok _ => [(.dds, net.sender.carriage.name ++ " writer: " ++ error.text)]
    | .error _ => []

/-- What a step reports to the health of `b`. -/
def Network.reported [DecidableEq Node] (net : Network Node UUri Sample Message Value) (b : Node)
    (s : Domain Node UUri Listener Sample Message) :
    DomainLabel Node UUri Listener Sample Value → List (HealthErrorKind × String)
  | .send a value answer => if a = b then net.writerErrors a value answer else []
  | l => Domain.showing b (recorded (net.env b)) s l

theorem health_send (net : Network Node UUri Sample Message Value) (a : Node) (value : Value)
    (answer : Except DdsError Unit) (health : HealthState) :
    (net.send a answer health value).health =
      health.recordAll (net.writerErrors a value answer) := by
  unfold Network.send Sender.send sendSample Network.writerErrors
  cases net.sender.encode (net.config a).toDdsConfig value with
  | error status => cases answer <;> rfl
  | ok sample => cases answer <;> rfl

/-- Only errors of DDS come from `send`. -/
theorem reported_countP [DecidableEq Node] {net : Network Node UUri Sample Message Value}
    {b : Node} {kind : HealthErrorKind} (hkind : kind ≠ .dds)
    {s : Domain Node UUri Listener Sample Message}
    {l : DomainLabel Node UUri Listener Sample Value} :
    (net.reported b s l).countP (fun error => error.1 = kind) =
      (Domain.showing b (recorded (net.env b)) s l).countP (fun error => error.1 = kind) := by
  cases l with
  | send a value answer =>
    have hwriter : ∀ error ∈ net.writerErrors a value answer, error.1 = .dds := by
      intro error herror
      unfold Network.writerErrors at herror
      split at herror
      · contradiction
      · split at herror
        · rw [List.mem_singleton.mp herror]
        · contradiction
    show (if a = b then net.writerErrors a value answer else []).countP _ = 0
    rw [List.countP_eq_zero]
    intro error herror
    split at herror
    · simp [hwriter error herror, Ne.symm hkind]
    · contradiction
  | _ => rfl

/-- What is written decodes everywhere. -/
theorem not_malformed_of_written {net : Network Node UUri Sample Message Value}
    (hlawful : net.sender.Lawful) {b : Node} {packet : Packet Node Sample}
    {tr : Trace (Domain Node UUri Listener Sample Message)
      (DomainLabel Node UUri Listener Sample Value)}
    (hpacket : packet ∈ observe net.written tr) (k : Nat) :
    isMalformed (net.env b) (some packet.sample, k) = false := by
  rw [net.observe_written] at hpacket
  obtain ⟨sent, -, hpacketOf⟩ := List.mem_filterMap.mp hpacket
  unfold Network.packetOf at hpacketOf
  split at hpacketOf
  · rename_i sample hencode
    rw [← Option.some.inj hpacketOf]
    simp only [isMalformed, Network.env, hlawful.receive hencode]
    by_cases hown : (net.config sent.1).toDdsConfig.originId = (net.config b).toDdsConfig.originId
    · rw [if_pos hown]
    · rw [if_neg hown]
  · contradiction

section health
variable [DecidableEq Node] [DecidableEq UUri] [UriMatches UUri] [DecidableEq Listener]
variable {net : Network Node UUri Sample Message Value}
  {s s' : Domain Node UUri Listener Sample Message}
  {l : DomainLabel Node UUri Listener Sample Value}
  {tr : Trace (Domain Node UUri Listener Sample Message)
    (DomainLabel Node UUri Listener Sample Value)}

theorem reported_step (b : Node) (h : DomainStep net s l s') :
    (s' b).transport.health = (s b).transport.health.recordAll (net.reported b s l) := by
  cases h with
  | internal b' l hother hstep =>
    by_cases hsame : b' = b
    · obtain rfl := hsame
      rw [Domain.setTransport_self, health_step hstep]
      simp [Network.reported, Domain.showing, within, Domain.part]
    · rw [Domain.setTransport_ne (Ne.symm hsame)]
      simp [Network.reported, Domain.showing, within, Domain.part, hsame, HealthState.recordAll]
  | take b' count hcount hstep =>
    by_cases hsame : b' = b
    · obtain rfl := hsame
      rw [Domain.update_self, health_step hstep]
      simp [Network.reported, Domain.showing, within, Domain.part]
    · rw [Domain.update_ne (Ne.symm hsame)]
      simp [Network.reported, Domain.showing, within, Domain.part, hsame, HealthState.recordAll]
  | send a value answer hlive =>
    rw [Domain.broadcast_transport]
    by_cases hsame : a = b
    · obtain rfl := hsame
      rw [Domain.setTransport_self, State.withHealth_health, health_send]
      simp [Network.reported]
    · rw [Domain.setTransport_ne (Ne.symm hsame)]
      simp [Network.reported, hsame, HealthState.recordAll]
  | arrive b' | overtake b' | lose b' | overwrite b' | notice b' =>
    exact congrArg State.health (Domain.update_transport rfl)

theorem run_reported (h : InitRun net.system tr s) (b : Node) :
    (s b).transport.health = HealthState.recordAll {} (observe (net.reported b) tr) := by
  refine run_invariant (P := fun tr (s : Domain Node UUri Listener Sample Message) =>
    (s b).transport.health = HealthState.recordAll {} (observe (net.reported b) tr)) ?_ ?_ h
  · intro s hs
    rw [hs]
    rfl
  · intro tr s l s' _ hi hstep
    rw [reported_step b (DomainStep.of_next hstep), hi, observe_append, observe_single]
    exact List.foldl_append.symm

/-- **The health of a transport** is what its threads and its senders have
    reported, and a snapshot counts and shows just that. -/
theorem health_reported (h : InitRun net.system tr s) (b : Node) :
    (s b).transport.health.snapshot.Reports (observe (net.reported b) tr) := by
  rw [run_reported h b]
  exact snapshot_recordAll

theorem health_reported_topic : ∃ (tr : Trace TopicDomain TopicDomainLabel) (s : TopicDomain),
    InitRun topicNetwork.system tr s ∧
    HealthSnapshot.Reports (s false).transport.health.snapshot [(.dds, "classic writer: timeout")] ∧
    HealthSnapshot.Reports (s true).transport.health.snapshot [] := by
  obtain ⟨tr, s, hexec, hfailed, hnone⟩ : ∃ tr s,
      exec topicNetwork.next Domain.start topicTraffic = some (tr, s) ∧
        observe (topicNetwork.reported false) tr = [(.dds, "classic writer: timeout")] ∧
        observe (topicNetwork.reported true) tr = [] :=
    ⟨_, _, rfl, rfl, rfl⟩
  have hrun : InitRun topicNetwork.system tr s := ⟨_, rfl, run_of_exec hexec⟩
  exact ⟨tr, s, hrun, hfailed ▸ health_reported hrun false, hnone ▸ health_reported hrun true⟩

/-! ### Samples of lawful transports -/

/-- The other counters are those of the router. -/
theorem counter_routerRun (h : InitRun net.system tr s) {b : Node}
    {tr' : Trace (State UUri Listener Sample Message) (Label UUri Listener Sample)}
    {a : State UUri Listener Sample Message} (hrun : InitRun (router (net.env b)) tr' a)
    (halike : Alike State.blind tr' (Domain.stepsOf b tr)) {kind : HealthErrorKind}
    (hkind : kind ≠ .dds) : (s b).transport.health.counter kind = a.health.counter kind := by
  have hblind : Blind (recorded (net.env b) : State UUri Listener Sample Message → _) :=
    fun _ _ => rfl
  rw [run_reported h b, run_health hrun, HealthState.counter_recordAll,
    HealthState.counter_recordAll, observe_routerRun hblind halike]
  simp only [observe, List.countP_flatMap, Function.comp_def, reported_countP hkind]

/-- What the poller of `b` turns to has been written by a transport. -/
theorem not_malformed_of_handled (hlawful : net.sender.Lawful) (h : InitRun net.system tr s)
    {b : Node} {x : Taken Sample} (hx : x ∈ observe (Domain.showing b handled) tr) :
    isMalformed (net.env b) x = false := by
  obtain ⟨tr', a, hrun, halike, -⟩ := routerRun h b
  have hblind : Blind (handled : State UUri Listener Sample Message → _) := fun _ _ => rfl
  have hblind' : Blind (took : State UUri Listener Sample Message → _) := fun _ _ => rfl
  rw [← observe_routerRun hblind halike] at hx
  have htook : x ∈ observe took tr' := by
    rw [run_batch hrun]
    exact List.mem_append_left _ hx
  have hdata : x.1 ∈ (observe (Domain.takenBy b) tr).map (Option.map Packet.sample) := by
    rw [← run_took h b, ← observe_routerRun hblind' halike]
    exact List.mem_map_of_mem htook
  obtain ⟨entry, hentry, hsample⟩ := List.mem_map.mp hdata
  obtain ⟨data, k⟩ := x
  obtain rfl : entry.map Packet.sample = data := hsample
  cases entry with
  | none => rfl
  | some packet =>
    have hwritten : packet ∈ observe net.written tr := by
      apply (run_transit h b).mem_iff.mpr
      apply List.mem_append_left
      apply List.mem_append_left
      exact List.mem_filterMap.mpr ⟨_, hentry, rfl⟩
    exact not_malformed_of_written hlawful hwritten k

/-- **Lawful transports do not confuse each other**: none of them ever counts
    a malformed sample, however samples are lost or overtake each other. -/
theorem no_malformed_samples (hlawful : net.sender.Lawful) (h : InitRun net.system tr s)
    (b : Node) : (s b).transport.health.malformedSamples = 0 := by
  obtain ⟨tr', a, hrun, halike, -⟩ := routerRun h b
  have hblind : Blind (handled : State UUri Listener Sample Message → _) := fun _ _ => rfl
  have hcounter : (s b).transport.health.malformedSamples = a.health.malformedSamples :=
    counter_routerRun h hrun halike (show HealthErrorKind.malformedSample ≠ .dds by decide)
  rw [hcounter, run_malformed hrun, List.length_eq_zero_iff, List.filter_eq_nil_iff,
    observe_routerRun hblind halike]
  intro x hx
  simp [not_malformed_of_handled hlawful h hx]

theorem no_malformed_samples_topic : ∃ (tr : Trace TopicDomain TopicDomainLabel)
    (s : TopicDomain), InitRun topicNetwork.system tr s ∧
    (observe (Domain.showing true handled) tr).length = 3 ∧
    (s true).transport.health.malformedSamples = 0 := by
  obtain ⟨tr, s, hexec, hhandled⟩ : ∃ tr s,
      exec topicNetwork.next Domain.start topicTraffic = some (tr, s) ∧
        (observe (Domain.showing true handled) tr).length = 3 :=
    ⟨_, _, rfl, rfl⟩
  have hrun : InitRun topicNetwork.system tr s := ⟨_, rfl, run_of_exec hexec⟩
  exact ⟨tr, s, hrun, hhandled,
    no_malformed_samples (ClassicRust.sender_lawful topicClassic_lawful) hrun true⟩

/-- Where everything is that was ever written, seen from `b`. -/
structure PacketAccount (net : Network Node UUri Sample Message Value) (b : Node)
    (tr : Trace (Domain Node UUri Listener Sample Message)
      (DomainLabel Node UUri Listener Sample Value))
    (s : Domain Node UUri Listener Sample Message) (done waiting : List (Packet Node Sample)) :
    Prop where
  /-- A packet has been handled, waits in the batch of the poller, was lost,
      or is still to be taken. -/
  packets : (observe net.written tr).Perm
    (done ++ (waiting ++ (observe (Domain.lostBy b) tr ++ s.heldFor b)))
  done : done.map Packet.sample = (observe (Domain.showing b handled) tr).filterMap Prod.fst
  waiting : waiting.map Packet.sample = (s b).transport.poller.unhandled.filterMap Prod.fst
  /-- A job of a handled packet has been called, refused, skipped or
      cancelled, or is still to be called. -/
  jobs : (observe (Domain.showing b (snapshotted (net.env b))) tr).Perm
    (observe (Domain.showing b started) tr ++
      ((observe (Domain.showing b rejected) tr ++ (observe (Domain.showing b skipped) tr ++
        observe (Domain.showing b unstarted) tr)) ++ (s b).transport.pending))
  /-- What was refused is counted. -/
  drops : (s b).transport.health.dispatchDrops = (observe (Domain.showing b rejected) tr).length

theorem map_filterMap_id {α β : Type} (f : α → β) (xs : List (Option α)) :
    (xs.filterMap id).map f = (xs.map (Option.map f)).filterMap id := by
  rw [List.filterMap_map, List.map_filterMap]
  rfl

/-- **No packet vanishes** between the writer of one transport and the
    listeners of another. -/
theorem packets_accounted (h : InitRun net.system tr s) (b : Node) :
    ∃ done waiting, PacketAccount net b tr s done waiting := by
  obtain ⟨tr', a, hrun, halike, hblind⟩ := routerRun h b
  have hshow {α : Type} {obs : State UUri Listener Sample Message → Label UUri Listener Sample →
      List α} (hobs : Blind obs) : observe (Domain.showing b obs) tr = observe obs tr' :=
    (observe_routerRun hobs halike).symm
  have hpoller : a.poller = (s b).transport.poller := by
    have hsame : a.blind.poller = (s b).transport.blind.poller := by rw [hblind]
    exact hsame
  have hpending : a.pending = (s b).transport.pending := by
    have hsame : a.blind.pending = (s b).transport.blind.pending := by rw [hblind]
    exact hsame
  -- what was taken is what was handled, then what is left of the batch
  have htaken := run_took h b
  rw [hshow fun _ _ => rfl, run_batch hrun, List.map_append] at htaken
  obtain ⟨front, back, hsplit, hfront, hback⟩ := List.map_eq_append_iff.mp htaken.symm
  refine ⟨front.filterMap id, back.filterMap id, ?_, ?_, ?_, ?_, ?_⟩
  · have htransit := run_transit h b
    rw [hsplit, List.filterMap_append] at htransit
    simpa only [List.append_assoc] using htransit
  · rw [map_filterMap_id, hfront, List.filterMap_map, hshow fun _ _ => rfl]
    rfl
  · rw [map_filterMap_id, hback, List.filterMap_map, hpoller]
    rfl
  · rw [hshow fun _ _ => rfl, hshow fun _ _ => rfl, hshow fun _ _ => rfl, hshow fun _ _ => rfl,
      hshow fun _ _ => rfl, ← hpending]
    exact run_pending hrun
  · have hcounter : (s b).transport.health.dispatchDrops = a.health.dispatchDrops :=
      counter_routerRun h hrun halike (show HealthErrorKind.dispatchBackpressure ≠ .dds by decide)
    rw [hcounter, run_drops hrun, hshow fun _ _ => rfl]

theorem packets_accounted_topic : ∃ (tr : Trace TopicDomain TopicDomainLabel) (s : TopicDomain)
    (done waiting : List (Packet Bool UpDdsClassicSampleV1)),
    InitRun topicNetwork.system tr s ∧ (observe topicNetwork.written tr).length = 3 ∧
    (observe topicNetwork.written tr).Perm
      (done ++ (waiting ++ (observe (Domain.lostBy true) tr ++ s.heldFor true))) := by
  obtain ⟨tr, s, hexec, hwritten⟩ : ∃ tr s,
      exec topicNetwork.next Domain.start topicTraffic = some (tr, s) ∧
        (observe topicNetwork.written tr).length = 3 :=
    ⟨_, _, rfl, rfl⟩
  have hrun : InitRun topicNetwork.system tr s := ⟨_, rfl, run_of_exec hexec⟩
  obtain ⟨done, waiting, haccount⟩ := packets_accounted hrun true
  exact ⟨tr, s, done, waiting, hrun, hwritten, haccount.packets⟩

end health

/-! ### A transport that has been dropped -/

/-- Threads that have ended report nothing. -/
theorem recorded_nil {env : Env UUri Sample Message} {t : State UUri Listener Sample Message}
    (hpoller : t.poller.ended = true) (hdispatcher : t.dispatcher.ended = true)
    (hret : t.drop = .returned) (l : Label UUri Listener Sample) : recorded env t l = [] := by
  cases l with
  | poller =>
    unfold recorded
    cases hpc : t.poller <;> simp_all [Poller.ended]
  | take result =>
    unfold recorded
    cases hpc : t.poller <;> cases result <;> simp_all [Poller.ended]
  | dispatcher =>
    unfold recorded
    cases hpc : t.dispatcher <;> simp_all [Dispatcher.ended]
  | drop => simp [recorded, hret]
  | deleted error => cases error <;> simp [recorded, hret]
  | _ => rfl

section closed
variable [DecidableEq Node] [DecidableEq UUri] [UriMatches UUri] [DecidableEq Listener]
variable {net : Network Node UUri Sample Message Value}
  {s s' : Domain Node UUri Listener Sample Message}
  {l : DomainLabel Node UUri Listener Sample Value}
  {tr : Trace (Domain Node UUri Listener Sample Message)
    (DomainLabel Node UUri Listener Sample Value)}

theorem routerReachable (h : Reachable net.system s) (b : Node) :
    ∃ a, Reachable (router (net.env b)) a ∧ a.blind = (s b).transport.blind := by
  obtain ⟨tr, hrun⟩ := h
  obtain ⟨tr', a, hrouter, -, hblind⟩ := routerRun hrun b
  exact ⟨a, hrouter.reachable, hblind⟩

/-- A transport that has been dropped does nothing in a step. -/
structure Silent (net : Network Node UUri Sample Message Value) (b : Node)
    (s : Domain Node UUri Listener Sample Message)
    (l : DomainLabel Node UUri Listener Sample Value) : Prop where
  started : Domain.showing b started s l = []
  taken : Domain.takenBy b s l = []
  sent : l.sends.filter (·.1 = b) = []
  reported : net.reported b s l = []

theorem silent_step (h : Reachable net.system s) {b : Node}
    (hret : (s b).transport.drop = .returned) (hstep : DomainStep net s l s') :
    Silent net b s l ∧ (s' b).transport.drop = .returned := by
  obtain ⟨a, hreach, hblind⟩ := routerReachable h b
  have hsame : a = (s b).transport.withHealth a.health := State.eq_withHealth hblind
  have hreturned : a.drop = .returned := by
    rw [hsame]
    exact hret
  have hquiescent := quiescent_of_returned hreach hreturned
  have hpoller : (s b).transport.poller.ended = true := by
    have hended := hquiescent.poller
    rwa [hsame] at hended
  have hdispatcher : (s b).transport.dispatcher.ended = true := by
    have hended := hquiescent.dispatcher
    rwa [hsame] at hended
  have hstarted : ∀ l', started (s b).transport l' = [] := by
    intro l'
    have hnil := started_nil_of_returned (l := l') hreach hreturned
    rw [hsame] at hnil
    exact hnil
  have hnothing : ∀ {α : Type} {obs : State UUri Listener Sample Message →
      Label UUri Listener Sample → List α}, (∀ l', obs (s b).transport l' = []) →
        Domain.showing b obs s l = [] := by
    intro α obs hobs
    unfold Domain.showing within
    cases Domain.part b s l with
    | none => rfl
    | some l' => exact hobs l'
  refine ⟨⟨hnothing hstarted, ?_, ?_, ?_⟩, ?_⟩
  · cases hstep with
    | take b' count hcount hmove =>
      have hne : b' ≠ b := by
        intro hsame
        rw [hsame] at hmove
        cases hmove with
        | takeOk _ hpc =>
          rw [hpc] at hpoller
          contradiction
      exact if_neg hne
    | _ => rfl
  · cases hstep with
    | send a' value answer hlive =>
      have hne : a' ≠ b := by
        intro hsame
        rw [hsame, hret] at hlive
        contradiction
      simp [DomainLabel.sends, hne]
    | _ => rfl
  · cases hstep with
    | send a' value answer hlive =>
      have hne : a' ≠ b := by
        intro hsame
        rw [hsame, hret] at hlive
        contradiction
      exact if_neg hne
    | _ => exact hnothing (recorded_nil hpoller hdispatcher hret)
  · cases hpart : Domain.part b s l with
    | none =>
      have hidle : (s' b).transport.blind.drop = (s b).transport.blind.drop := by
        rw [blind_of_idle hstep hpart]
      exact hidle.trans hret
    | some l' => exact returned_step hret (step_of_part hstep hpart)

/-- **A dropped transport stays silent**: once `Drop` has returned, whatever
    the others do, its listeners are not called, it takes and sends nothing,
    and its health does not change. -/
theorem dropped_stays_silent (h : Reachable net.system s) {b : Node}
    (hret : (s b).transport.drop = .returned) (hrun : Run net.system s tr s') :
    (∀ r, Domain.callsOf b r tr = []) ∧ observe (Domain.takenBy b) tr = [] ∧
      (observe (fun _ l => DomainLabel.sends l) tr).filter (·.1 = b) = [] ∧
      (s' b).transport.drop = .returned ∧
      (s' b).transport.health = (s b).transport.health := by
  have hstable : ∀ {tr s'}, Run net.system s tr s' →
      Reachable net.system s' ∧ (s' b).transport.drop = .returned ∧
        (s' b).transport.health = (s b).transport.health := by
    intro tr s' hrun
    refine hrun.stable (P := fun s' => Reachable net.system s' ∧
      (s' b).transport.drop = .returned ∧
        (s' b).transport.health = (s b).transport.health) ?_ ⟨h, hret, rfl⟩
    intro t l t' ⟨ht, hdropped, hhealth⟩ hstep
    have hrule := DomainStep.of_next hstep
    obtain ⟨hsilent, hdropped'⟩ := silent_step ht hdropped hrule
    refine ⟨ht.step hstep, hdropped', ?_⟩
    rw [reported_step b hrule, hsilent.reported, ← hhealth]
    rfl
  have hsilent : ∀ e ∈ tr, Silent net b e.1 e.2 := by
    intro ⟨t, l⟩ hmem
    obtain ⟨before, after, rfl⟩ := List.append_of_mem hmem
    obtain ⟨t', hpre, hstep, _⟩ := hrun.split
    obtain ⟨ht, hdropped, _⟩ := hstable hpre
    exact (silent_step ht hdropped (DomainStep.of_next hstep)).1
  refine ⟨?_, ?_, ?_, (hstable hrun).2⟩
  · intro r
    have hnone : observe (Domain.showing b started) tr = [] :=
      List.flatMap_eq_nil_iff.mpr fun e he => (hsilent e he).started
    rw [Domain.callsOf, hnone]
    rfl
  · exact List.flatMap_eq_nil_iff.mpr fun e he => (hsilent e he).taken
  · rw [observe, List.filter_flatMap]
    exact List.flatMap_eq_nil_iff.mpr fun e he => (hsilent e he).sent

/-- The second transport has a listener and is dropped. -/
def droppedTraffic : List TopicDomainLabel :=
  [.internal true (.enter .external (.register ⟨7⟩ none 0)), .internal true (.advance 0),
   .internal true (.enterDrop .external), .internal true .drop, .internal true .poller,
   .internal true .drop, .internal true .drop, .internal true .drop, .internal true .drop,
   .internal true .dispatcher, .internal true .drop, .internal true (.deleted none),
   .internal true (.deleted none)]

theorem dropped_stays_silent_topic : ∃ (s s' : TopicDomain)
    (tr : Trace TopicDomain TopicDomainLabel),
    Reachable topicNetwork.system s ∧ (s true).transport.drop = .returned ∧
    Run topicNetwork.system s tr s' ∧ tr.length = 2 ∧ Domain.callsOf true 0 tr = [] := by
  obtain ⟨tr, s, tr', s', hexec, hexec', hret, hlength⟩ : ∃ tr s tr' s',
      exec topicNetwork.next Domain.start droppedTraffic = some (tr, s) ∧
        exec topicNetwork.next s [.send false (topicMessage [1]) (.ok ()), .arrive true false] =
          some (tr', s') ∧
        (s true).transport.drop = .returned ∧ tr'.length = 2 :=
    ⟨_, _, _, _, rfl, rfl, rfl, rfl⟩
  have hreach : Reachable topicNetwork.system s := ⟨tr, _, rfl, run_of_exec hexec⟩
  have hrun : Run topicNetwork.system s tr' s' := run_of_exec hexec'
  exact ⟨s, s', tr', hreach, hret, hrun, hlength, (dropped_stays_silent hreach hret hrun).1 0⟩

end closed

end UpTransportDds
