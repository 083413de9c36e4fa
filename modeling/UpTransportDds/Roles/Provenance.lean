import UpTransportDds.Roles.Traffic

/-! # Where messages come from

  Any mix of role processes on one domain. What a process takes in has been
  sent by another one, passes its filters and is as it was sent; and nothing is
  taken in twice. What it answers, it has taken in.
-/

namespace UpTransportDds

open LTS Codec

variable {UUri UMessageId Sample Received Message : Type}

/-- What the process has taken in, and still has. -/
def RoleProcess.taken (P : RoleProcess UUri Sample Message) : List Message :=
  P.channel ++ P.received.toList

namespace Route

/-- What a route makes of messages: what it sends is `Good`, carries the origin
    of its transport, and arrives as `arrives` says. -/
structure Faithful [UriMatches UUri] (route : Route UUri UMessageId Sample Received Message)
    (Good : Message → Prop) (arrives : Message → Message) (payload : Message → Bytes) : Prop where
  /-- A process receives once. -/
  once : ∀ role, (route.script role).count .receive ≤ 1
  outbound : ∀ role args id message, route.outbound role args id = .ok message →
    Good message ∧ (route.head message).id = id ∧ (route.head message).requestId = none ∧
      payload message = args.payload.toUTF8.data.toList
  response : ∀ request args id message, route.response request args id = .ok message →
    Good message ∧ payload message = payload request ∧ ∃ sink,
      (route.head request).sink = some sink ∧ route.head message =
        ⟨id, sink, some (route.head request).source, some (route.head request).id⟩
  origin : ∀ config args write message sample,
    (route.send config args write message).2 = some sample →
      route.carriage.originId sample = config.originId
  carries : ∀ config args write message sample received, Good message →
    (route.send config args write message).2 = some sample →
    route.carriage.decode sample = .ok received →
      route.carriage.source received = (route.head message).source ∧
      route.carriage.sink received = (route.head message).sink ∧
      ∀ args' heard, route.listen args' received = some heard → heard = arrives message
  head_arrives : ∀ message, route.head (arrives message) = route.head message
  payload_arrives : ∀ message, payload (arrives message) = payload message

/-! ### The domain -/

section domain
variable [DecidableEq UUri] [DecidableEq UMessageId] [UriMatches UUri]
  (route : Route UUri UMessageId Sample Received Message)

/-- Processes of any role that are started on one domain, with origins of their
    own. -/
def Mixed (s : List (RoleProcess UUri Sample Message)) : Prop :=
  (∀ P ∈ s, P = route.start P.role P.args P.processId) ∧
  (∃ domainId, ∀ P ∈ s, P.args.domainId = domainId) ∧
  (s.map fun P => P.config.originId).Nodup

/-- Any mix of roles on one domain. -/
def domain : System (List (RoleProcess UUri Sample Message)) (RoleLabel UMessageId) :=
  ofNext route.Mixed route.next

variable {route} {s : List (RoleProcess UUri Sample Message)}
  {tr : Trace (List (RoleProcess UUri Sample Message)) (RoleLabel UMessageId)}

/-- Clients and servers are one such mix. -/
theorem domain_of_peers (h : Reachable route.peers s) : Reachable route.domain s := by
  refine invariant (P := Reachable route.domain) ?_ ?_ h
  · intro s hstarted
    refine ⟨[], s, ⟨?_, hstarted.2⟩, Run.nil⟩
    intro P hP
    exact (hstarted.1 P hP).2
  · intro s l s' hreach hstep
    exact hreach.step hstep

end domain

/-! ### What holds of a process -/

section sources
variable [UriMatches UUri] (route : Route UUri UMessageId Sample Received Message)
  (Good : Message → Prop) (arrives : Message → Message)
  (s : List (RoleProcess UUri Sample Message))

/-- The message is what another process has sent, as it arrives, and process `p`
    lets it through its filters. -/
def Came (p : Nat) (P : RoleProcess UUri Sample Message) (message : Message) : Prop :=
  ∃ (q : Nat) (Q : RoleProcess UUri Sample Message) (original : Message), q ≠ p ∧
    s[q]? = some Q ∧ original ∈ Q.sent ∧ message = arrives original ∧
    ∃ source sink, route.filters P.role P.args = .ok (source, sink) ∧
      (Registration.create source sink ()).accepts (route.head message).source
        (route.head message).sink = true

/-- The process has sent the message, and the sample carries it. -/
def Wrote (sample : Sample) (message : Message) : Prop :=
  ∃ (q : Nat) (Q : RoleProcess UUri Sample Message) (write : Writer Sample), s[q]? = some Q ∧
    message ∈ Q.sent ∧ Good message ∧ (route.send Q.config Q.args write message).2 = some sample

/-- The message is the first one of a process, or its response to what it has
    received. -/
def Built (p : Nat) (P : RoleProcess UUri Sample Message) (message : Message) : Prop :=
  (∃ id, route.outbound P.role P.args id = .ok message) ∨
    ∃ request id, P.received = some request ∧ route.Came arrives s p P request ∧
      route.response request P.args id = .ok message

/-- The messages on their way are different, and different from those with
    these ids. -/
def OnTheWay (reader : List Sample) (ids : List UMessageId) : Prop :=
  ∃ pending : List (Sample × Message), pending.map Prod.fst = reader ∧
    (∀ e ∈ pending, route.Wrote Good s e.1 e.2) ∧
    (pending.map (fun e => (route.head e.2).id) ++ ids).Nodup

/-- What holds of process `p` of the domain. -/
structure Sourced (p : Nat) (P : RoleProcess UUri Sample Message) : Prop where
  registered : ∀ entry ∈ P.registry.heap,
    route.filters P.role P.args = .ok (entry.source, entry.sink)
  within : ∀ r ∈ P.registry.entries, r < P.registry.heap.length
  /-- Nobody registers twice. -/
  single : P.registry.entries.length ≤ 1
  /-- What has been received stays. -/
  once : P.todo.count .receive + P.received.toList.length ≤ 1
  sent : ∀ message ∈ P.sent, route.Built arrives s p P message
  taken : ∀ message ∈ P.taken, route.Came arrives s p P message
  pending : route.OnTheWay Good s P.reader (P.taken.map fun message => (route.head message).id)

/-- No two messages of the domain share an id. -/
def Distinct : Prop :=
  ∀ (q q' : Nat) (Q Q' : RoleProcess UUri Sample Message) (message message' : Message),
    s[q]? = some Q → s[q']? = some Q' → message ∈ Q.sent → message' ∈ Q'.sent →
      (route.head message).id = (route.head message').id → q = q' ∧ message = message'

end sources

/-! ### Persistence -/

section persistence
variable {route : Route UUri UMessageId Sample Received Message}
  {Good : Message → Prop} {arrives : Message → Message}
  {s s' : List (RoleProcess UUri Sample Message)} {p : Nat} {P : RoleProcess UUri Sample Message}

/-- Processes keep who they are and what they have sent. -/
def Later (s s' : List (RoleProcess UUri Sample Message)) : Prop :=
  ∀ (q : Nat) (Q : RoleProcess UUri Sample Message), s[q]? = some Q →
    ∃ Q', s'[q]? = some Q' ∧ Q'.role = Q.role ∧ Q'.args = Q.args ∧ Q'.processId = Q.processId ∧
      ∀ message ∈ Q.sent, message ∈ Q'.sent

theorem Wrote.later {sample : Sample} {message : Message} (h : Later s s')
    (hwrote : route.Wrote Good s sample message) : route.Wrote Good s' sample message := by
  obtain ⟨q, Q, write, hQ, hsent, hgood, hwritten⟩ := hwrote
  obtain ⟨Q', hQ', -, hargs, hprocess, hsent'⟩ := h q Q hQ
  refine ⟨q, Q', write, hQ', hsent' message hsent, hgood, ?_⟩
  rw [RoleProcess.config, hargs, hprocess]
  exact hwritten

theorem OnTheWay.later (h : Later s s') {reader : List Sample} {ids : List UMessageId}
    (hway : route.OnTheWay Good s reader ids) : route.OnTheWay Good s' reader ids := by
  obtain ⟨pending, hreader, hwrote, hnodup⟩ := hway
  exact ⟨pending, hreader, fun e he => (hwrote e he).later h, hnodup⟩

variable [UriMatches UUri]

theorem Came.later {message : Message} (h : Later s s')
    (hcame : route.Came arrives s p P message) : route.Came arrives s' p P message := by
  obtain ⟨q, Q, original, hne, hQ, hsent, harrives, hfilters⟩ := hcame
  obtain ⟨Q', hQ', -, -, -, hsent'⟩ := h q Q hQ
  exact ⟨q, Q', original, hne, hQ', hsent' original hsent, harrives, hfilters⟩

theorem Built.later {message : Message} (h : Later s s')
    (hbuilt : route.Built arrives s p P message) : route.Built arrives s' p P message := by
  rcases hbuilt with houtbound | ⟨request, id, hreceived, hcame, hresponse⟩
  · exact .inl houtbound
  · exact .inr ⟨request, id, hreceived, hcame.later h, hresponse⟩

theorem Sourced.later (h : Later s s') (hsourced : route.Sourced Good arrives s p P) :
    route.Sourced Good arrives s' p P := by
  exact
    { hsourced with
      sent := fun message hsent => (hsourced.sent message hsent).later h
      taken := fun message htaken => (hsourced.taken message htaken).later h
      pending := hsourced.pending.later h }

end persistence

/-! ### What a step sends -/

section sending
variable {route : Route UUri UMessageId Sample Received Message}
  {P P' : RoleProcess UUri Sample Message} {sample : Option Sample}

/-- What `Builds` says, with the id of the message. -/
def BuildsAs (route : Route UUri UMessageId Sample Received Message)
    (P : RoleProcess UUri Sample Message) (id : UMessageId) (message : Message) : Prop :=
  route.outbound P.role P.args id = .ok message ∨
    ∃ request, P.received = some request ∧ route.response request P.args id = .ok message

/-- The step sends nothing, or one message under the id of its label. -/
def Sends (route : Route UUri UMessageId Sample Received Message)
    (P P' : RoleProcess UUri Sample Message) (input : RoleInput UMessageId)
    (sample : Option Sample) : Prop :=
  (P'.sent = P.sent ∧ sample = none) ∨ ∃ id answer message, input = .send id answer ∧
    BuildsAs route P id message ∧ P'.sent = P.sent ++ [message] ∧
    (route.send P.config P.args (fun _ => answer) message).2 = sample

theorem goOn_sent {todo : List Action} (result : Except UStatus Unit) :
    (P.goOn todo result).sent = P.sent := by
  cases result <;> rfl

theorem sends_of_transmit {todo : List Action} {id : UMessageId} {answer : Except DdsError Unit}
    {built : Except UStatus Message}
    (hbuilt : ∀ message, built = .ok message → BuildsAs route P id message)
    (h : route.transmit P todo answer built = (P', sample)) :
    Sends route P P' (.send id answer) sample := by
  unfold transmit at h
  cases built with
  | error status =>
    obtain ⟨rfl, rfl⟩ := Prod.mk.inj h
    exact .inl ⟨rfl, rfl⟩
  | ok message =>
    obtain ⟨rfl, rfl⟩ := Prod.mk.inj h
    exact .inr ⟨id, answer, message, rfl, hbuilt message rfl, goOn_sent _, rfl⟩

variable [DecidableEq UUri] [UriMatches UUri]

theorem sends_of_act {input : RoleInput UMessageId} (h : route.act P input = some (P', sample)) :
    Sends route P P' input sample := by
  unfold act at h
  -- one case for each branch of `act`, in its order
  split at h
  case h_1 | h_2 =>
    obtain ⟨rfl, rfl⟩ := Prod.mk.inj (Option.some.inj h)
    exact .inl ⟨goOn_sent _, rfl⟩
  case h_3 | h_5 | h_6 =>
    split at h
    all_goals
      first
      | contradiction
      | obtain ⟨rfl, rfl⟩ := Prod.mk.inj (Option.some.inj h)
        exact .inl ⟨rfl, rfl⟩
  case h_4 =>
    exact sends_of_transmit (fun message hbuilt => .inl hbuilt) (Option.some.inj h)
  case h_7 =>
    obtain ⟨request, hreceived, hsent⟩ := Option.map_eq_some_iff.mp h
    exact sends_of_transmit (fun message hbuilt => .inr ⟨request, hreceived, hbuilt⟩) hsent
  case h_8 =>
    obtain ⟨carried, -, hdelivered⟩ := Option.map_eq_some_iff.mp h
    obtain ⟨rfl, rfl⟩ := Prod.mk.inj hdelivered
    exact .inl ⟨rfl, rfl⟩
  case h_9 =>
    obtain ⟨rfl, rfl⟩ := Prod.mk.inj (Option.some.inj h)
    exact .inl ⟨rfl, rfl⟩
  case h_10 =>
    contradiction

end sending

/-! ### What a process takes in -/

section taking
variable [UriMatches UUri] {route : Route UUri UMessageId Sample Received Message}
  {Good : Message → Prop} {arrives : Message → Message} {payload : Message → Bytes}
  {s s' : List (RoleProcess UUri Sample Message)} {p : Nat}
  {P P' : RoleProcess UUri Sample Message}

/-- What is heard of a sample is its message, and comes from another process. -/
theorem hear_came (h : route.Faithful Good arrives payload) (hP : s[p]? = some P)
    (hregistered : ∀ entry ∈ P.registry.heap,
      route.filters P.role P.args = .ok (entry.source, entry.sink))
    {sample : Sample} {message heard : Message} (hwrote : route.Wrote Good s sample message)
    (hheard : heard ∈ route.hear P sample) :
    heard = arrives message ∧ route.Came arrives s p P heard := by
  unfold hear at hheard
  split at hheard
  · rename_i received hreceive
    obtain ⟨r, hmatching, hlisten⟩ := List.mem_flatMap.mp hheard
    obtain ⟨q, Q, write, hQ, hsent, hgood, hwritten⟩ := hwrote
    obtain ⟨hsource, hsink, harrives⟩ := h.carries _ _ _ _ _ _ hgood hwritten
      (Carriage.decode_of_receive hreceive)
    have hself := harrives _ _ (Option.mem_toList.mp hlisten)
    -- the own origin is skipped
    have hne : q ≠ p := by
      rintro rfl
      rw [hP] at hQ
      obtain rfl := Option.some.inj hQ
      rw [Carriage.receive, if_pos (h.origin _ _ _ _ _ hwritten)] at hreceive
      contradiction
    -- the address in the table leads to a registration in the heap
    have haccepts := (List.mem_filter.mp hmatching).2
    obtain ⟨entry, hentry, haccepts⟩ : ∃ entry ∈ P.registry.heap,
        entry.accepts (route.carriage.source received) (route.carriage.sink received) = true := by
      unfold Registry.accepts at haccepts
      cases hentry : P.registry.heap[r]? with
      | none => simp [hentry] at haccepts
      | some entry =>
        rw [hentry] at haccepts
        exact ⟨entry, List.mem_of_getElem? hentry, haccepts⟩
    refine ⟨hself, q, Q, message, hne, hQ, hsent, hself, entry.source, entry.sink,
      hregistered entry hentry, ?_⟩
    rw [hsource, hsink] at haccepts
    rw [hself, h.head_arrives]
    exact haccepts
  · contradiction

/-- One registration hears a sample once. -/
theorem length_hear (hsingle : P.registry.entries.length ≤ 1) (sample : Sample) :
    (route.hear P sample).length ≤ 1 := by
  unfold hear
  split
  · rename_i received hreceive
    have hmatching : (P.registry.matching (route.carriage.source received)
        (route.carriage.sink received)).length ≤ 1 :=
      (List.length_filter_le _ _).trans hsingle
    generalize P.registry.matching _ _ = matching at hmatching
    cases matching with
    | nil => exact Nat.zero_le 1
    | cons r rest =>
      obtain rfl : rest = [] := by
        rw [List.length_cons] at hmatching
        exact List.eq_nil_of_length_eq_zero (by omega)
      rw [List.flatMap_singleton]
      cases route.listen P.args received <;> simp
  · exact Nat.zero_le 1

end taking

/-! ### What is on its way -/

section pending
variable {route : Route UUri UMessageId Sample Received Message} {Good : Message → Prop}
  {s s' : List (RoleProcess UUri Sample Message)} {reader : List Sample}
  {ids ids' : List UMessageId} {sample : Sample} {message : Message} {i : Nat}

/-- Some of what has been taken in is forgotten. -/
theorem OnTheWay.forget (hway : route.OnTheWay Good s reader ids) (hids : ids'.Subperm ids) :
    route.OnTheWay Good s reader ids' := by
  obtain ⟨pending, hreader, hwrote, hnodup⟩ := hway
  obtain ⟨kept, hperm, hsub⟩ := hids
  refine ⟨pending, hreader, hwrote, ?_⟩
  rw [← (hperm.append_left _).nodup_iff]
  exact hnodup.sublist (hsub.append_left _)

/-- A sample leaves the reader, and its message may be taken in. -/
theorem OnTheWay.deliver (hway : route.OnTheWay Good s reader ids)
    (hsample : reader[i]? = some sample) :
    ∃ message, route.Wrote Good s sample message ∧
      route.OnTheWay Good s (reader.eraseIdx i) ((route.head message).id :: ids) := by
  obtain ⟨pending, rfl, hwrote, hnodup⟩ := hway
  rw [List.getElem?_map] at hsample
  obtain ⟨⟨sample', message⟩, hpending, rfl⟩ := Option.map_eq_some_iff.mp hsample
  refine ⟨message, hwrote _ (List.mem_of_getElem? hpending), pending.eraseIdx i, ?_, ?_, ?_⟩
  · rw [List.eraseIdx_map]
  · intro e he
    exact hwrote e (List.mem_of_mem_eraseIdx he)
  · obtain ⟨hlt, hget⟩ := List.getElem?_eq_some_iff.mp hpending
    have hperm := (List.getElem_cons_eraseIdx_perm hlt).map fun e => (route.head e.2).id
    rw [hget, List.map_cons] at hperm
    rw [(List.perm_middle).nodup_iff]
    exact (hperm.append_right ids).nodup_iff.mpr hnodup

/-- A sample of a new message gets to the reader. -/
theorem OnTheWay.read (hway : route.OnTheWay Good s reader ids) (hlater : Later s s')
    (hwrote : route.Wrote Good s' sample message)
    (hnew : ∀ other sample', route.Wrote Good s sample' other →
      (route.head other).id ≠ (route.head message).id)
    (hids : (route.head message).id ∉ ids) :
    route.OnTheWay Good s' (reader ++ [sample]) ids := by
  obtain ⟨pending, rfl, hpending, hnodup⟩ := hway
  refine ⟨pending ++ [(sample, message)], by simp, ?_, ?_⟩
  · intro e he
    rcases List.mem_append.mp he with hold | hlast
    · exact (hpending e hold).later hlater
    · rw [List.mem_singleton.mp hlast]
      exact hwrote
  · have hperm : (pending ++ [(sample, message)]).map (fun e => (route.head e.2).id) ++ ids =
        pending.map (fun e => (route.head e.2).id) ++ (route.head message).id :: ids := by
      simp
    rw [hperm, List.perm_middle.nodup_iff, List.nodup_cons]
    refine ⟨?_, hnodup⟩
    intro hmem
    rcases List.mem_append.mp hmem with hold | hold
    · obtain ⟨e, he, hid⟩ := List.mem_map.mp hold
      exact hnew e.2 e.1 (hpending e he) hid
    · exact hids hold

end pending

/-! ### One step -/

section step
variable [UriMatches UUri] {route : Route UUri UMessageId Sample Received Message}
  {Good : Message → Prop} {arrives : Message → Message} {payload : Message → Bytes}
  {s s' : List (RoleProcess UUri Sample Message)} {p : Nat}
  {P P' : RoleProcess UUri Sample Message} {sample : Option Sample}

/-- What a process sends next is its first message, or a response to what it
    has taken in. -/
theorem built_of_builds (hsourced : route.Sourced Good arrives s p P) {action : Action}
    {message : Message} (hbuilds : Builds route P action message) :
    route.Built arrives s p P message := by
  cases hbuilds with
  | @outbound id message hbuilt => exact .inl ⟨id, hbuilt⟩
  | @response request id message hreceived hbuilt =>
    refine .inr ⟨request, id, hreceived, hsourced.taken request ?_, hbuilt⟩
    simp [RoleProcess.taken, hreceived]

/-- A script that has got shorter receives no more often. -/
theorem once_of_sublist {todo todo' : List Action} {n : Nat} (hsub : todo.Sublist todo')
    (h : todo'.count .receive + n ≤ 1) : todo.count .receive + n ≤ 1 :=
  (Nat.add_le_add_right (hsub.count_le _) n).trans h

/-- Ids of the domain are those of sent messages. -/
theorem Sourced.id_ne (h : route.Faithful Good arrives payload)
    (hsourced : route.Sourced Good arrives s p P) {id : UMessageId}
    (hfresh : ∀ Q ∈ s, ∀ other ∈ Q.sent, (route.head other).id ≠ id) :
    id ∉ P.taken.map fun message => (route.head message).id := by
  intro hmem
  obtain ⟨message, htaken, hid⟩ := List.mem_map.mp hmem
  obtain ⟨q, Q, original, -, hQ, hsent, harrives, -⟩ := hsourced.taken message htaken
  apply hfresh Q (List.mem_of_getElem? hQ) original hsent
  rw [← hid, harrives, h.head_arrives]

/-- A new message gets on its way. -/
theorem Sourced.read (h : route.Faithful Good arrives payload)
    (hsourced : route.Sourced Good arrives s p P) (hlater : Later s s')
    (hwrote : ∀ written ∈ sample, ∃ message, route.Wrote Good s' written message ∧
      ∀ Q ∈ s, ∀ other ∈ Q.sent, (route.head other).id ≠ (route.head message).id) :
    route.Sourced Good arrives s' p (P.read sample) := by
  have hkept := hsourced.later hlater
  refine { hkept with pending := ?_ }
  cases sample with
  | none =>
    show route.OnTheWay Good s' (P.reader ++ []) _
    rw [List.append_nil]
    exact hkept.pending
  | some written =>
    obtain ⟨message, hwritten, hfresh⟩ := hwrote written rfl
    refine hsourced.pending.read hlater hwritten ?_ (hsourced.id_ne h hfresh)
    rintro other sample' ⟨q, Q, write, hQ, hsent, -⟩
    exact hfresh Q (List.mem_of_getElem? hQ) other hsent

variable [DecidableEq UUri]

theorem acts_role (hacts : Acts route P P' sample) :
    P'.role = P.role ∧ P'.args = P.args ∧ P'.processId = P.processId ∧
      ∀ message ∈ P.sent, message ∈ P'.sent := by
  obtain ⟨hrole, hargs, hsent⟩ := acts_keeps hacts
  refine ⟨hrole, hargs, ?_, hsent⟩
  cases hacts <;> rfl

/-- Who has registered once does not get another registration. -/
theorem register_first (hsourced : route.Sourced Good arrives s p P) {source : UUri}
    {sink : Option UUri} {registry : Registry UUri Unit}
    (hfilters : route.filters P.role P.args = .ok (source, sink))
    (hregister : P.registry.register source sink () = .ok registry) :
    P.registry.entries = [] := by
  obtain ⟨hfresh, -, -⟩ := Registry.register_ok hregister
  cases hentries : P.registry.entries with
  | nil => rfl
  | cons r rest =>
    have hr := hsourced.within r (by rw [hentries]; exact List.mem_cons_self)
    have hkey := hsourced.registered _ (List.getElem_mem hr)
    rw [hfilters] at hkey
    obtain ⟨hsource, hsink⟩ := Prod.mk.inj (Except.ok.inj hkey)
    rw [hentries, List.any_cons, Bool.or_eq_false_iff] at hfresh
    have hother := hfresh.1
    unfold Registry.isFor at hother
    rw [List.getElem?_eq_getElem hr] at hother
    simp [Registration.isFor, ← hsource, ← hsink] at hother

/-- **Step lemma**: a step of a process keeps what holds of it. -/
theorem sourced_acts (h : route.Faithful Good arrives payload) (hP : s[p]? = some P)
    (hsourced : route.Sourced Good arrives s p P) (hacts : Acts route P P' sample) :
    route.Sourced Good arrives s p P' := by
  have ⟨hregistered, hwithin, hsingle, honce, hsent, htaken, hpending⟩ := hsourced
  have hended := once_of_sublist (List.nil_sublist _) honce
  have hrest : ∀ {action : Action} {todo : List Action}, P.todo = action :: todo →
      todo.count .receive + P.received.toList.length ≤ 1 := by
    intro action todo htodo
    exact once_of_sublist (htodo ▸ List.sublist_cons_self action todo) honce
  have hbuilt : ∀ {action : Action} {message : Message}, Builds route P action message →
      ∀ other ∈ P.sent ++ [message], route.Built arrives s p P other := by
    intro action message hbuilds other hother
    rcases List.mem_append.mp hother with hold | hnew
    · exact hsent other hold
    · rw [List.mem_singleton.mp hnew]
      exact built_of_builds hsourced hbuilds
  cases hacts with
  | fail => exact ⟨hregistered, hwithin, hsingle, hended, hsent, htaken, hpending⟩
  | pass htodo => exact ⟨hregistered, hwithin, hsingle, hrest htodo, hsent, htaken, hpending⟩
  | @register todo source sink registry htodo hfilters hregister =>
    have hfirst := register_first hsourced hfilters hregister
    obtain ⟨-, hheap, hentries⟩ := Registry.register_ok hregister
    rw [hfirst, List.nil_append] at hentries
    refine ⟨?_, ?_, ?_, hrest htodo, hsent, htaken, hpending⟩
    · intro entry hentry
      rw [RoleProcess.proceed_registry, hheap] at hentry
      rcases List.mem_append.mp hentry with hold | hnew
      · exact hregistered entry hold
      · rw [List.mem_singleton.mp hnew]
        exact hfilters
    · intro r hr
      rw [RoleProcess.proceed_registry, hentries, List.mem_singleton] at hr
      rw [RoleProcess.proceed_registry, hheap, hr, List.length_append, List.length_singleton]
      exact Nat.lt_succ_self _
    · rw [RoleProcess.proceed_registry, hentries]
      exact Nat.le_refl 1
  | transmit htodo hbuilds =>
    exact ⟨hregistered, hwithin, hsingle, hrest htodo, hbuilt hbuilds, htaken, hpending⟩
  | refused htodo hbuilds =>
    exact ⟨hregistered, hwithin, hsingle, hended, hbuilt hbuilds, htaken, hpending⟩
  | @receive todo message channel htodo hchannel =>
    have hforgets : (channel ++ [message]).Subperm P.taken := by
      rw [RoleProcess.taken, hchannel, List.cons_append]
      have hswap : (channel ++ [message]).Perm (message :: channel) :=
        List.perm_append_comm
      refine hswap.subperm.trans ?_
      exact ((List.sublist_append_left channel _).cons_cons message).subperm
    -- it is the first message that is received, so that nothing has been answered
    rw [htodo, List.count_cons_self] at honce
    have hnone : P.received = none := by
      rw [← Option.toList_eq_nil_iff]
      exact List.eq_nil_of_length_eq_zero (by omega)
    refine ⟨hregistered, hwithin, hsingle, ?_, ?_, ?_, ?_⟩
    · show todo.count .receive + 1 ≤ 1
      omega
    · intro other hother
      rcases hsent other hother with houtbound | ⟨request, id, hreceived, -⟩
      · exact .inl houtbound
      · rw [hnone] at hreceived
        contradiction
    · intro other hother
      exact htaken other (hforgets.subset hother)
    · obtain ⟨kept, hperm, hsub⟩ := hforgets
      exact hpending.forget ⟨_, hperm.map _, hsub.map _⟩
  | @deliver i sample hsample =>
    obtain ⟨message, hwrote, hway⟩ := hpending.deliver hsample
    have hheard : ∀ heard ∈ route.hear P sample, heard = arrives message ∧ _ :=
      fun heard => hear_came h hP hregistered hwrote
    have hlength : (route.hear P sample).length ≤ 1 := length_hear hsingle sample
    refine ⟨hregistered, hwithin, hsingle, honce, hsent, ?_, ?_⟩
    · intro other hother
      rcases List.mem_append.mp hother with hchannel | hreceived
      · rcases List.mem_append.mp hchannel with hold | hnew
        · exact htaken other (List.mem_append_left _ hold)
        · exact (hheard other hnew).2
      · exact htaken other (List.mem_append_right _ hreceived)
    · apply hway.forget
      cases hhear : route.hear P sample with
      | nil =>
        rw [RoleProcess.taken, List.append_nil]
        exact List.Subperm.cons_self
      | cons heard rest =>
        rw [hhear] at hheard hlength
        obtain rfl : rest = [] := by
          rw [List.length_cons] at hlength
          exact List.eq_nil_of_length_eq_zero (by omega)
        have hid : (route.head heard).id = (route.head message).id := by
          rw [(hheard heard List.mem_cons_self).1, h.head_arrives]
        have hperm : ((P.channel ++ [heard]) ++ P.received.toList).Perm (heard :: P.taken) := by
          rw [List.append_assoc, List.singleton_append]
          exact List.perm_middle
        rw [← hid]
        exact (hperm.map fun message => (route.head message).id).subperm
  | @lose i =>
    refine ⟨hregistered, hwithin, hsingle, honce, hsent, htaken, ?_⟩
    cases hsample : P.reader[i]? with
    | none =>
      show route.OnTheWay Good s (P.reader.eraseIdx i) _
      rw [List.eraseIdx_of_length_le (List.getElem?_eq_none_iff.mp hsample)]
      exact hpending
    | some sample =>
      obtain ⟨message, -, hway⟩ := hpending.deliver hsample
      exact hway.forget List.Subperm.cons_self

end step

/-! ### Runs -/

section runs
variable [DecidableEq UUri] [DecidableEq UMessageId] [UriMatches UUri]
  {route : Route UUri UMessageId Sample Received Message}
  {Good : Message → Prop} {arrives : Message → Message} {payload : Message → Bytes}
  {s s' : List (RoleProcess UUri Sample Message)} {l : RoleLabel UMessageId}

/-- What a step of the domain can be, with the id of what it sends. -/
theorem next_sends (h : route.Faithful Good arrives payload) (hstep : route.next s l = some s') :
    ∃ P P' sample, s[l.p]? = some P ∧ Acts route P P' sample ∧
      s' = (s.set l.p P').map (·.read sample) ∧
      ((P'.sent = P.sent ∧ sample = none) ∨ ∃ message write, P'.sent = P.sent ++ [message] ∧
        Good message ∧ (route.send P.config P.args write message).2 = sample ∧
        ∀ Q ∈ s, ∀ other ∈ Q.sent, (route.head other).id ≠ (route.head message).id) := by
  unfold next at hstep
  split at hstep
  · rename_i hfresh
    obtain ⟨P, hP, hact⟩ := Option.bind_eq_some_iff.mp hstep
    obtain ⟨⟨P', sample⟩, hmove, rfl⟩ := Option.map_eq_some_iff.mp hact
    refine ⟨P, P', sample, hP, acts_of_act hmove, rfl, ?_⟩
    rcases sends_of_act hmove with hnone | ⟨id, answer, message, hinput, hbuilds, hsent, hwrites⟩
    · exact .inl hnone
    · obtain ⟨hgood, hid⟩ : Good message ∧ (route.head message).id = id := by
        rcases hbuilds with hbuilt | ⟨request, -, hbuilt⟩
        · obtain ⟨hgood, hid, -⟩ := h.outbound _ _ _ _ hbuilt
          exact ⟨hgood, hid⟩
        · obtain ⟨hgood, -, sink, -, hhead⟩ := h.response _ _ _ _ hbuilt
          exact ⟨hgood, by rw [hhead]⟩
      refine .inr ⟨message, _, hsent, hgood, hwrites, ?_⟩
      rw [hinput] at hfresh
      intro Q hQ other hother
      have hall := List.all_eq_true.mp hfresh Q hQ
      rw [hid]
      exact of_decide_eq_true (List.all_eq_true.mp hall other hother)
  · contradiction

theorem later_next (hstep : route.next s l = some s') : Later s s' := by
  obtain ⟨P, P', sample, hP, hacts, rfl⟩ := next_cases hstep
  have hlt : l.p < s.length := (List.getElem?_eq_some_iff.mp hP).1
  intro q Q hQ
  rw [getElem?_broadcast hlt]
  by_cases hq : l.p = q
  · rw [if_pos hq]
    rw [← hq, hP] at hQ
    obtain rfl := Option.some.inj hQ
    obtain ⟨hrole, hargs, hprocess, hsent⟩ := acts_role hacts
    exact ⟨_, rfl, hrole, hargs, hprocess, hsent⟩
  · rw [if_neg hq, hQ]
    exact ⟨_, rfl, rfl, rfl, rfl, fun _ hmem => hmem⟩

/-- What holds of a domain. -/
structure Traced (route : Route UUri UMessageId Sample Received Message) (Good : Message → Prop)
    (arrives : Message → Message) (s : List (RoleProcess UUri Sample Message)) : Prop where
  sourced : ∀ (p : Nat) (P : RoleProcess UUri Sample Message), s[p]? = some P →
    route.Sourced Good arrives s p P
  distinct : route.Distinct s

theorem sourced_next (h : route.Faithful Good arrives payload)
    (hs : ∀ (p : Nat) (P : RoleProcess UUri Sample Message), s[p]? = some P →
      route.Sourced Good arrives s p P)
    (hstep : route.next s l = some s') (p : Nat) (Q : RoleProcess UUri Sample Message)
    (hQ : s'[p]? = some Q) : route.Sourced Good arrives s' p Q := by
  have hlater := later_next hstep
  obtain ⟨P, P', sample, hP, hacts, rfl, hsends⟩ := next_sends h hstep
  have hlt : l.p < s.length := (List.getElem?_eq_some_iff.mp hP).1
  have hwrote : ∀ written ∈ sample, ∃ message,
      route.Wrote Good ((s.set l.p P').map (·.read sample)) written message ∧
        ∀ Q ∈ s, ∀ other ∈ Q.sent, (route.head other).id ≠ (route.head message).id := by
    intro written hwritten
    rcases hsends with ⟨-, hnone⟩ | ⟨message, write, hsent, hgood, hwrites, hfresh⟩
    · rw [hnone] at hwritten
      exact absurd hwritten (Option.not_mem_none written)
    · refine ⟨message, ⟨l.p, P'.read sample, write, ?_, ?_, hgood, ?_⟩, hfresh⟩
      · rw [getElem?_broadcast hlt, if_pos rfl]
      · show message ∈ P'.sent
        rw [hsent]
        exact List.mem_append_right _ List.mem_cons_self
      · obtain ⟨-, hargs, hprocess, -⟩ := acts_role hacts
        have hconfig : (P'.read sample).config = P.config := by
          show P'.args.config P'.processId = P.args.config P.processId
          rw [hargs, hprocess]
        rw [hconfig, show (P'.read sample).args = P.args from hargs, hwrites]
        exact Option.mem_def.mp hwritten
  rw [getElem?_broadcast hlt] at hQ
  split at hQ
  · rename_i hself
    obtain rfl := Option.some.inj hQ
    rw [← hself]
    exact (sourced_acts h hP (hs l.p P hP) hacts).read h hlater hwrote
  · obtain ⟨R, hR, rfl⟩ := Option.map_eq_some_iff.mp hQ
    exact (hs p R hR).read h hlater hwrote

/-- Messages keep ids of their own. -/
theorem distinct_next (h : route.Faithful Good arrives payload) (hs : route.Distinct s)
    (hstep : route.next s l = some s') : route.Distinct s' := by
  obtain ⟨P, P', sample, hP, hacts, rfl, hsends⟩ := next_sends h hstep
  have hlt : l.p < s.length := (List.getElem?_eq_some_iff.mp hP).1
  -- who has sent a message had sent it before, or sends it now
  have hcases : ∀ {q : Nat} {Q : RoleProcess UUri Sample Message} {message : Message},
      ((s.set l.p P').map (·.read sample))[q]? = some Q → message ∈ Q.sent →
        (∃ R, s[q]? = some R ∧ message ∈ R.sent) ∨
          q = l.p ∧ P'.sent = P.sent ++ [message] ∧
            ∀ Q ∈ s, ∀ other ∈ Q.sent, (route.head other).id ≠ (route.head message).id := by
    intro q Q message hQ hmem
    rw [getElem?_broadcast hlt] at hQ
    split at hQ
    · rename_i hself
      obtain rfl := Option.some.inj hQ
      rcases hsends with ⟨hsame, -⟩ | ⟨new, write, hsent, -, -, hfresh⟩
      · exact .inl ⟨P, hself ▸ hP, hsame ▸ hmem⟩
      · have hmem' : message ∈ P.sent ++ [new] := hsent ▸ hmem
        rcases List.mem_append.mp hmem' with hold | hnew
        · exact .inl ⟨P, hself ▸ hP, hold⟩
        · obtain rfl := List.mem_singleton.mp hnew
          exact .inr ⟨hself.symm, hsent, hfresh⟩
    · obtain ⟨R, hR, rfl⟩ := Option.map_eq_some_iff.mp hQ
      exact .inl ⟨R, hR, hmem⟩
  intro q q' Q Q' message message' hQ hQ' hmem hmem' hid
  rcases hcases hQ hmem with ⟨R, hR, hold⟩ | ⟨hq, hnew, hfresh⟩
  · rcases hcases hQ' hmem' with ⟨R', hR', hold'⟩ | ⟨hq', hnew', hfresh'⟩
    · exact hs q q' R R' message message' hR hR' hold hold' hid
    · exact absurd hid (hfresh' R (List.mem_of_getElem? hR) message hold)
  · rcases hcases hQ' hmem' with ⟨R', hR', hold'⟩ | ⟨hq', hnew', hfresh'⟩
    · exact absurd hid.symm (hfresh R' (List.mem_of_getElem? hR') message' hold')
    · rw [hnew] at hnew'
      have hsame := List.append_cancel_left hnew'
      exact ⟨hq.trans hq'.symm, by simpa using hsame⟩

theorem traced_reachable (h : route.Faithful Good arrives payload)
    (hs : Reachable route.domain s) : route.Traced Good arrives s := by
  refine invariant (P := route.Traced Good arrives) ?_ ?_ hs
  · intro s hmixed
    constructor
    · intro p P hP
      rw [hmixed.1 P (List.mem_of_getElem? hP)]
      refine ⟨?_, ?_, ?_, ?_, ?_, ?_, [], ?_⟩ <;>
        simp [start, Registry.empty, RoleProcess.taken, h.once]
    · intro q q' Q Q' message message' hQ hQ' hmem
      rw [hmixed.1 Q (List.mem_of_getElem? hQ)] at hmem
      exact absurd hmem List.not_mem_nil
  · intro s l s' htraced hstep
    exact ⟨sourced_next h htraced.sourced hstep, distinct_next h htraced.distinct hstep⟩

end runs

end Route

end UpTransportDds
