import UpTransportDds.Roles.Process

/-! # What role processes send and receive

  On a domain of clients and servers every message is the request of a client
  or the response to one, a server takes nothing but requests and a client
  that has sent its request takes nothing but responses to requests from its
  endpoint to its method.
-/

namespace UpTransportDds

open LTS Codec RoleRust

variable {UUri UMessageId Sample Received Message : Type}

namespace Route

/-! ### What is on the domain -/

section heads
variable (route : Route UUri UMessageId Sample Received Message) (Concrete : UUri → Prop)
  (resourceId : UUri → UInt16) (s : List (RoleProcess UUri Sample Message))

/-- A client whose filters are this method and this endpoint has sent the
    request with this id from the endpoint to the method. -/
def Asked (id : UMessageId) (method endpoint : UUri) : Prop :=
  ∃ (q : Nat) (Q : RoleProcess UUri Sample Message), s[q]? = some Q ∧ Q.role = .client ∧
    route.filters .client Q.args = .ok (method, some endpoint) ∧
    Addresses Concrete resourceId method endpoint ∧
    ∃ request ∈ Q.sent, route.head request = ⟨id, endpoint, some method, none⟩

/-- The heads of requests, and of responses to them. -/
inductive Travels : Head UUri UMessageId → Prop where
  | request {id : UMessageId} {method endpoint : UUri} :
      route.Asked Concrete resourceId s id method endpoint →
        Travels ⟨id, endpoint, some method, none⟩
  | response {id requestId : UMessageId} {method endpoint : UUri} :
      route.Asked Concrete resourceId s requestId method endpoint →
        Travels ⟨id, method, some endpoint, some requestId⟩

/-- The head passes the filters of the process. -/
def Passes [UriMatches UUri] (P : RoleProcess UUri Sample Message)
    (head : Head UUri UMessageId) : Prop :=
  ∃ entry ∈ P.registry.heap, entry.accepts head.source head.sink = true

/-- A sample that carries a head of the domain. -/
def Written (Good : Message → Prop) (sample : Sample) : Prop :=
  ∃ config args write message, Good message ∧
    route.Travels Concrete resourceId s (route.head message) ∧
    (route.send config args write message).2 = some sample

/-- What holds of each process of the domain `s`. -/
structure Sound [UriMatches UUri] (Good : Message → Prop)
    (P : RoleProcess UUri Sample Message) : Prop where
  party : P.role = .client ∨ P.role = .server
  todo : ∀ action ∈ P.todo, action ∈ route.script P.role
  registered : ∀ entry ∈ P.registry.heap,
    route.filters P.role P.args = .ok (entry.source, entry.sink)
  asked : P.role = .client → ∀ request ∈ P.sent, ∃ id method endpoint,
    route.filters .client P.args = .ok (method, some endpoint) ∧
    Addresses Concrete resourceId method endpoint ∧
    route.head request = ⟨id, endpoint, some method, none⟩
  reader : ∀ sample ∈ P.reader, route.Written Concrete resourceId s Good sample
  heard : ∀ message, message ∈ P.channel ∨ P.received = some message →
    route.Travels Concrete resourceId s (route.head message) ∧ Passes P (route.head message)

end heads

section persistence
variable {route : Route UUri UMessageId Sample Received Message} {Concrete : UUri → Prop}
  {resourceId : UUri → UInt16} {s s' : List (RoleProcess UUri Sample Message)}

/-- Processes keep their arguments and what they have sent. -/
def Persists (s s' : List (RoleProcess UUri Sample Message)) : Prop :=
  ∀ (q : Nat) (Q : RoleProcess UUri Sample Message), s[q]? = some Q →
    ∃ Q', s'[q]? = some Q' ∧ Q'.role = Q.role ∧ Q'.args = Q.args ∧
      ∀ message ∈ Q.sent, message ∈ Q'.sent

theorem Asked.persist (h : Persists s s') {id : UMessageId} {method endpoint : UUri}
    (hasked : route.Asked Concrete resourceId s id method endpoint) :
    route.Asked Concrete resourceId s' id method endpoint := by
  obtain ⟨q, Q, hQ, hrole, hfilters, haddresses, request, hrequest, hhead⟩ := hasked
  obtain ⟨Q', hQ', hrole', hargs', hsent'⟩ := h q Q hQ
  refine ⟨q, Q', hQ', hrole'.trans hrole, ?_, haddresses, request, hsent' request hrequest, hhead⟩
  rw [hargs', hfilters]

theorem Travels.persist (h : Persists s s') {head : Head UUri UMessageId}
    (htravels : route.Travels Concrete resourceId s head) :
    route.Travels Concrete resourceId s' head := by
  cases htravels with
  | request hasked => exact .request (hasked.persist h)
  | response hasked => exact .response (hasked.persist h)

theorem Written.persist (h : Persists s s') {Good : Message → Prop} {sample : Sample}
    (hwritten : route.Written Concrete resourceId s Good sample) :
    route.Written Concrete resourceId s' Good sample := by
  obtain ⟨config, args, write, message, hgood, htravels, hsent⟩ := hwritten
  exact ⟨config, args, write, message, hgood, htravels.persist h, hsent⟩

theorem Sound.persist [UriMatches UUri] (h : Persists s s')
    {Good : Message → Prop} {P : RoleProcess UUri Sample Message}
    (hsound : route.Sound Concrete resourceId s Good P) :
    route.Sound Concrete resourceId s' Good P where
  party := hsound.party
  todo := hsound.todo
  registered := hsound.registered
  asked := hsound.asked
  reader := fun sample hsample => (hsound.reader sample hsample).persist h
  heard := fun message hmessage =>
    ⟨(hsound.heard message hmessage).1.persist h, (hsound.heard message hmessage).2⟩

/-- More to read does no harm if it carries heads of the domain. -/
theorem Sound.read [UriMatches UUri] {Good : Message → Prop}
    {P : RoleProcess UUri Sample Message} {sample : Option Sample}
    (hsound : route.Sound Concrete resourceId s Good P)
    (hwritten : ∀ written ∈ sample, route.Written Concrete resourceId s Good written) :
    route.Sound Concrete resourceId s Good (P.read sample) where
  party := hsound.party
  todo := hsound.todo
  registered := hsound.registered
  asked := hsound.asked
  reader := by
    intro other hother
    rcases List.mem_append.mp hother with hold | hnew
    · exact hsound.reader other hold
    · exact hwritten other (Option.mem_toList.mp hnew)
  heard := hsound.heard

end persistence

/-! ### One step -/

section step
variable [UriMatches UUri]
  {route : Route UUri UMessageId Sample Received Message} {Concrete : UUri → Prop}
  {resourceId : UUri → UInt16} {Good : Message → Prop}
  {s s' : List (RoleProcess UUri Sample Message)} {P P' : RoleProcess UUri Sample Message}
  {sample : Option Sample}

theorem acts_keeps [DecidableEq UUri] (h : Acts route P P' sample) :
    P'.role = P.role ∧ P'.args = P.args ∧ ∀ message ∈ P.sent, message ∈ P'.sent := by
  cases h with
  | transmit | refused => exact ⟨rfl, rfl, fun _ hmem => List.mem_append_left _ hmem⟩
  | _ => exact ⟨rfl, rfl, fun _ hmem => hmem⟩

/-- What is heard has the head of what was written, and passes the filters. -/
theorem hear_sound (h : route.Lawful Concrete resourceId Good) {sample : Sample}
    (hwritten : route.Written Concrete resourceId s Good sample) {message : Message}
    (hheard : message ∈ route.hear P sample) :
    route.Travels Concrete resourceId s (route.head message) ∧ Passes P (route.head message) := by
  unfold hear at hheard
  split at hheard
  · rename_i received hreceive
    obtain ⟨r, hmatching, hlisten⟩ := List.mem_flatMap.mp hheard
    obtain ⟨config, args, write, written, hgood, htravels, hsent⟩ := hwritten
    obtain ⟨hsource, hsink, hhead⟩ := h.carries _ _ _ _ _ _ hgood hsent
      (Carriage.decode_of_receive hreceive)
    rw [hhead _ _ (Option.mem_toList.mp hlisten)]
    refine ⟨htravels, ?_⟩
    rw [hsource, hsink] at hmatching
    -- the address in the table leads to a registration in the heap
    have haccepts := (List.mem_filter.mp hmatching).2
    unfold Registry.accepts at haccepts
    cases hentry : P.registry.heap[r]? with
    | none => simp [hentry] at haccepts
    | some entry =>
      rw [hentry] at haccepts
      exact ⟨entry, List.mem_of_getElem? hentry, haccepts⟩
  · contradiction

/-- A client sends nothing but requests. -/
theorem builds_client (h : route.Lawful Concrete resourceId Good)
    (hsound : route.Sound Concrete resourceId s Good P) {action : Action} {todo : List Action}
    {message : Message} (htodo : P.todo = action :: todo) (hbuilds : Builds route P action message)
    (hclient : P.role = .client) :
    ∃ id, route.outbound .client P.args id = .ok message := by
  have hscript := hsound.todo action (by rw [htodo]; exact List.mem_cons_self)
  rw [hclient] at hscript
  cases hbuilds with
  | outbound hbuilt =>
    rw [hclient] at hbuilt
    exact ⟨_, hbuilt⟩
  | response => exact absurd hscript h.client.1

/-- What a process sends is a request, or a response to a request that it has
    received. -/
theorem builds_travels (h : route.Lawful Concrete resourceId Good)
    (hsound : route.Sound Concrete resourceId s Good P) {action : Action} {todo : List Action}
    {message : Message} (htodo : P.todo = action :: todo) (hbuilds : Builds route P action message)
    (hpersists : Persists s s') {p : Nat} (hP : s'[p]? = some P') (hrole : P'.role = P.role)
    (hargs : P'.args = P.args) (hsent : message ∈ P'.sent) :
    Good message ∧ route.Travels Concrete resourceId s' (route.head message) := by
  rcases hsound.party with hclient | hserver
  · obtain ⟨id, hbuilt⟩ := builds_client h hsound htodo hbuilds hclient
    obtain ⟨hgood, method, endpoint, hfilters, hhead, haddresses⟩ := h.request _ _ _ hbuilt
    refine ⟨hgood, ?_⟩
    rw [hhead]
    refine .request ⟨p, P', hP, hrole.trans hclient, ?_, haddresses, message, hsent, hhead⟩
    rw [hargs, hfilters]
  · cases hbuilds with
    | outbound hbuilt =>
      rw [hserver] at hbuilt
      exact absurd hbuilt (h.passive _ _ _)
    | @response request id _ hreceived hbuilt =>
      obtain ⟨hgood, sink, hsink, hhead⟩ := h.response _ _ _ _ hbuilt
      obtain ⟨htravels, entry, hentry, haccepts⟩ := hsound.heard request (.inr hreceived)
      have hfilters := hsound.registered entry hentry
      rw [hserver] at hfilters
      refine ⟨hgood, ?_⟩
      rw [hhead]
      generalize route.head request = asked at htravels haccepts hsink
      cases htravels with
      | request hasked =>
        obtain rfl := Option.some.inj hsink
        exact .response (hasked.persist hpersists)
      | response hasked =>
        -- a response comes from a method, and a server listens to endpoints
        obtain ⟨_, _, _, _, _, haddresses, _⟩ := hasked
        have hmatches : uriMatches entry.source _ = true := (Bool.and_eq_true_iff.mp haccepts).1
        exact absurd (h.matches_resource _ _ hmatches (h.server _ _ _ hfilters)) haddresses.invoked

/-- The requests of a client, with one more that it sends. -/
theorem asked_sent (h : route.Lawful Concrete resourceId Good)
    (hsound : route.Sound Concrete resourceId s Good P) {action : Action} {todo : List Action}
    {message : Message} (htodo : P.todo = action :: todo)
    (hbuilds : Builds route P action message) (hclient : P.role = .client) :
    ∀ request ∈ P.sent ++ [message], ∃ id method endpoint,
      route.filters .client P.args = .ok (method, some endpoint) ∧
      Addresses Concrete resourceId method endpoint ∧
      route.head request = ⟨id, endpoint, some method, none⟩ := by
  intro request hrequest
  rcases List.mem_append.mp hrequest with hold | hnew
  · exact hsound.asked hclient request hold
  · rw [List.mem_singleton.mp hnew]
    obtain ⟨id, hbuilt⟩ := builds_client h hsound htodo hbuilds hclient
    obtain ⟨_, method, endpoint, hfilters, hhead, haddresses⟩ := h.request _ _ _ hbuilt
    exact ⟨id, method, endpoint, hfilters, haddresses, hhead⟩

/-- What a client that has sent its request lets through answers a client with
    its filters. -/
theorem answers_of_passes (h : route.Lawful Concrete resourceId Good)
    (hsound : route.Sound Concrete resourceId s Good P)
    (hclient : P.role = .client) {request : Message} (hrequest : request ∈ P.sent)
    {head : Head UUri UMessageId} (htravels : route.Travels Concrete resourceId s head)
    (hpasses : Passes P head) :
    ∃ (q : Nat) (Q : RoleProcess UUri Sample Message), s[q]? = some Q ∧ Q.role = .client ∧
      route.filters .client Q.args = route.filters .client P.args ∧
      ∃ other ∈ Q.sent, head.requestId = some (route.head other).id := by
  obtain ⟨_, method, endpoint, hfilters, haddresses, _⟩ := hsound.asked hclient request hrequest
  obtain ⟨entry, hentry, haccepts⟩ := hpasses
  -- the only filters are its method and its endpoint, and these have no wildcards
  have hregistered := hsound.registered entry hentry
  rw [hclient, hfilters] at hregistered
  obtain ⟨hmethod, hendpoint⟩ := Prod.mk.inj (Except.ok.inj hregistered)
  obtain ⟨hsource, hsink⟩ := Bool.and_eq_true_iff.mp haccepts
  rw [← hmethod] at hsource
  rw [← hendpoint] at hsink
  have hfrom : head.source = method :=
    h.matches_concrete _ _ haddresses.concreteMethod hsource
  cases htravels with
  | @request id other endpoint' hasked =>
    -- a request comes from an endpoint
    obtain ⟨_, _, _, _, _, hother, _⟩ := hasked
    obtain rfl : endpoint' = method := hfrom
    exact absurd hother.replyTo haddresses.invoked
  | @response id requestId method' endpoint' hasked =>
    obtain ⟨q, Q, hQ, hrole, hsame, _, other, hsent, hhead⟩ := hasked
    obtain rfl : method' = method := hfrom
    obtain rfl : endpoint' = endpoint :=
      h.matches_concrete _ _ haddresses.concreteEndpoint hsink
    refine ⟨q, Q, hQ, hrole, hsame.trans hfilters.symm, other, hsent, ?_⟩
    rw [hhead]

variable [DecidableEq UUri]

/-- What a process writes carries a head of the domain. -/
theorem acts_written (h : route.Lawful Concrete resourceId Good)
    (hsound : route.Sound Concrete resourceId s Good P) (hacts : Acts route P P' sample)
    (hpersists : Persists s s') {p : Nat} {Q : RoleProcess UUri Sample Message}
    (hQ : s'[p]? = some Q) (hrole : Q.role = P'.role) (hargs : Q.args = P'.args)
    (hsent : Q.sent = P'.sent) :
    ∀ written ∈ sample, route.Written Concrete resourceId s' Good written := by
  obtain ⟨hkeptRole, hkeptArgs, _⟩ := acts_keeps hacts
  have hQrole := hrole.trans hkeptRole
  have hQargs := hargs.trans hkeptArgs
  cases hacts with
  | transmit htodo hbuilds hwrites | refused htodo hbuilds hwrites =>
    intro written hwritten
    obtain ⟨hgood, htravels⟩ := builds_travels h hsound htodo hbuilds hpersists hQ hQrole hQargs
      (by rw [hsent]; exact List.mem_append_right _ List.mem_cons_self)
    exact ⟨_, _, _, _, hgood, htravels, hwrites.trans (Option.mem_def.mp hwritten)⟩
  | _ =>
    intro written hwritten
    exact absurd hwritten (Option.not_mem_none written)

/-- A step of a process keeps what holds of it. -/
theorem acts_sound (h : route.Lawful Concrete resourceId Good)
    (hsound : route.Sound Concrete resourceId s Good P) (hacts : Acts route P P' sample) :
    route.Sound Concrete resourceId s Good P' := by
  have ⟨hparty, htodos, hregistered, hasked, hreader, hheard⟩ := hsound
  -- the script only gets shorter
  have hrest : ∀ {action : Action} {todo : List Action}, P.todo = action :: todo →
      ∀ action ∈ todo, action ∈ route.script P.role := by
    intro action todo htodo other hother
    exact htodos other (by rw [htodo]; exact List.mem_cons_of_mem _ hother)
  cases hacts with
  | fail =>
    exact ⟨hparty, by simp, hregistered, hasked, hreader, hheard⟩
  | pass htodo hsends hreceive =>
    exact ⟨hparty, hrest htodo, hregistered, hasked, hreader, hheard⟩
  | @register todo source sink registry htodo hfilters hregister =>
    obtain ⟨_, hheap, _⟩ := Registry.register_ok hregister
    refine ⟨hparty, hrest htodo, ?_, hasked, hreader, ?_⟩
    · intro entry hentry
      simp only [RoleProcess.proceed_registry, hheap, List.mem_append, List.mem_singleton] at hentry
      rcases hentry with hold | hnew
      · exact hregistered entry hold
      · rw [hnew]
        exact hfilters
    · intro message hmessage
      obtain ⟨htravels, entry, hentry, haccepts⟩ := hheard message hmessage
      exact ⟨htravels, entry, by simp [hheap, hentry], haccepts⟩
  | transmit htodo hbuilds hwrites =>
    exact ⟨hparty, hrest htodo, hregistered, asked_sent h hsound htodo hbuilds, hreader, hheard⟩
  | refused htodo hbuilds hwrites =>
    exact ⟨hparty, by simp, hregistered, asked_sent h hsound htodo hbuilds, hreader, hheard⟩
  | @receive todo message channel htodo hchannel =>
    refine ⟨hparty, hrest htodo, hregistered, hasked, hreader, ?_⟩
    intro other hother
    apply hheard
    rcases hother with hlater | hfirst
    · left
      rw [hchannel]
      exact List.mem_cons_of_mem _ hlater
    · obtain rfl := Option.some.inj hfirst
      left
      rw [hchannel]
      exact List.mem_cons_self
  | @deliver i sample hsample =>
    refine ⟨hparty, htodos, hregistered, hasked, ?_, ?_⟩
    · intro other hother
      exact hreader other (List.mem_of_mem_eraseIdx hother)
    · intro message hmessage
      rcases hmessage with hchannel | hreceived
      · rcases List.mem_append.mp hchannel with hold | hnew
        · exact hheard message (.inl hold)
        · exact hear_sound h (hreader sample (List.mem_of_getElem? hsample)) hnew
      · exact hheard message (.inr hreceived)
  | lose =>
    refine ⟨hparty, htodos, hregistered, hasked, ?_, hheard⟩
    intro other hother
    exact hreader other (List.mem_of_mem_eraseIdx hother)

end step

/-! ### The course of a client -/

/-- How far a client is: as long as nothing fails, it has sent its request and
    received its response unless they are yet to come. -/
structure Conforms (P : RoleProcess UUri Sample Message) : Prop where
  ended : P.result ≠ none → P.todo = []
  request : (∀ status, P.result ≠ some (.error status)) →
    P.sent.length + P.todo.countP Action.sends = 1
  response : (∀ status, P.result ≠ some (.error status)) → P.received = none →
    .receive ∈ P.todo

/-- A process with steps to take has not ended. -/
theorem Conforms.unfailed {P : RoleProcess UUri Sample Message} (h : Conforms P) {action : Action}
    {todo : List Action} (htodo : P.todo = action :: todo) (status : UStatus) :
    P.result ≠ some (.error status) := by
  intro hresult
  have hended := h.ended (by simp [hresult])
  rw [htodo] at hended
  contradiction

/-- A step of the script keeps a client on course if it sends what its name
    says and receives what its name says. -/
theorem Conforms.proceed {P Q : RoleProcess UUri Sample Message} (h : Conforms P)
    {action : Action} {todo : List Action} (htodo : P.todo = action :: todo)
    (hsent : Q.sent.length = P.sent.length + if action.sends = true then 1 else 0)
    (hreceived : Q.received = none → P.received = none ∧ action ≠ .receive) :
    Conforms (Q.proceed todo) := by
  have hrequest := h.request (h.unfailed htodo)
  have hresponse := h.response (h.unfailed htodo)
  rw [htodo] at hrequest hresponse
  refine ⟨?_, fun _ => ?_, fun _ hnone => ?_⟩
  · -- a script that has been gone through has nothing left
    intro hresult
    cases todo with
    | nil => rfl
    | cons => simp at hresult
  · show Q.sent.length + todo.countP Action.sends = 1
    rw [List.countP_cons] at hrequest
    omega
  · obtain ⟨hnone, hother⟩ := hreceived hnone
    rcases List.mem_cons.mp (hresponse hnone) with hhead | htail
    · exact absurd hhead.symm hother
    · exact htail

theorem conforms_acts [DecidableEq UUri] [UriMatches UUri]
    {route : Route UUri UMessageId Sample Received Message}
    {P P' : RoleProcess UUri Sample Message} {sample : Option Sample}
    (h : Conforms P) (hacts : Acts route P P' sample) : Conforms P' := by
  cases hacts with
  | fail | refused => exact ⟨fun _ => rfl, by simp, by simp⟩
  | pass htodo hsends hreceive =>
    exact h.proceed htodo (by simp [hsends]) fun hnone => ⟨hnone, hreceive⟩
  | register htodo =>
    exact h.proceed htodo rfl fun hnone => ⟨hnone, by decide⟩
  | transmit htodo hbuilds =>
    cases hbuilds with
    | outbound | response =>
      exact h.proceed htodo (by simp [Action.sends]) fun hnone => ⟨hnone, by decide⟩
  | receive htodo hchannel =>
    refine h.proceed htodo rfl fun hnone => ?_
    contradiction
  | deliver | lose => exact ⟨h.ended, h.request, h.response⟩

/-! ### Runs -/

section runs
variable [DecidableEq UUri] [DecidableEq UMessageId] [UriMatches UUri]
  {route : Route UUri UMessageId Sample Received Message} {Concrete : UUri → Prop}
  {resourceId : UUri → UInt16} {Good : Message → Prop}
  {s s' : List (RoleProcess UUri Sample Message)} {l : RoleLabel UMessageId}

theorem persists_next (h : route.next s l = some s') : Persists s s' := by
  obtain ⟨P, P', sample, hP, hacts, rfl⟩ := next_cases h
  have hlt : l.p < s.length := (List.getElem?_eq_some_iff.mp hP).1
  intro q Q hQ
  rw [getElem?_broadcast hlt]
  by_cases hq : l.p = q
  · rw [if_pos hq]
    rw [← hq, hP] at hQ
    obtain rfl := Option.some.inj hQ
    obtain ⟨hrole, hargs, hsent⟩ := acts_keeps hacts
    exact ⟨_, rfl, hrole, hargs, hsent⟩
  · rw [if_neg hq, hQ]
    exact ⟨_, rfl, rfl, rfl, fun _ hmem => hmem⟩

theorem sound_next (h : route.Lawful Concrete resourceId Good)
    (hs : ∀ P ∈ s, route.Sound Concrete resourceId s Good P) (hstep : route.next s l = some s') :
    ∀ P ∈ s', route.Sound Concrete resourceId s' Good P := by
  have hpersists := persists_next hstep
  obtain ⟨P, P', sample, hP, hacts, rfl⟩ := next_cases hstep
  have hlt : l.p < s.length := (List.getElem?_eq_some_iff.mp hP).1
  have hsound := hs P (List.mem_of_getElem? hP)
  have hwritten := acts_written h hsound hacts hpersists (Q := P'.read sample)
    ((getElem?_broadcast hlt).trans (if_pos rfl)) rfl rfl rfl
  intro Q' hQ'
  obtain ⟨Q, hQ, rfl⟩ := List.mem_map.mp hQ'
  refine Sound.read ?_ hwritten
  rcases List.mem_or_eq_of_mem_set hQ with hother | hself
  · exact (hs Q hother).persist hpersists
  · rw [hself]
    exact (acts_sound h hsound hacts).persist hpersists

theorem sound_reachable (h : route.Lawful Concrete resourceId Good) (hs : Reachable route.peers s) :
    ∀ P ∈ s, route.Sound Concrete resourceId s Good P := by
  refine invariant (P := fun s => ∀ P ∈ s, route.Sound Concrete resourceId s Good P) ?_ ?_ hs
  · intro s hstarted P hP
    obtain ⟨hparty, hstart⟩ := hstarted.1 P hP
    rw [hstart]
    refine ⟨hparty, fun _ hmem => hmem, ?_, ?_, ?_, ?_⟩ <;> simp [start, Registry.empty]
  · intro s l s' hsound hstep
    exact sound_next h hsound hstep

theorem conforms_next (hs : ∀ P ∈ s, P.role = .client → Conforms P)
    (hstep : route.next s l = some s') : ∀ P ∈ s', P.role = .client → Conforms P := by
  obtain ⟨P, P', sample, hP, hacts, rfl⟩ := next_cases hstep
  intro Q' hQ' hclient
  obtain ⟨Q, hQ, rfl⟩ := List.mem_map.mp hQ'
  have hconforms : Conforms Q := by
    rcases List.mem_or_eq_of_mem_set hQ with hother | hself
    · exact hs Q hother hclient
    · have hrole : P.role = .client := by
        rw [← (acts_keeps hacts).1, ← hself]
        exact hclient
      rw [hself]
      exact conforms_acts (hs P (List.mem_of_getElem? hP) hrole) hacts
  exact ⟨hconforms.ended, hconforms.request, hconforms.response⟩

theorem conforms_reachable (h : route.Lawful Concrete resourceId Good)
    (hs : Reachable route.peers s) : ∀ P ∈ s, P.role = .client → Conforms P := by
  refine invariant (P := fun s => ∀ P ∈ s, P.role = .client → Conforms P) ?_ ?_ hs
  · intro s hstarted P hP hclient
    obtain ⟨_, hstart⟩ := hstarted.1 P hP
    rw [hstart, hclient]
    obtain ⟨_, hreceive, hsends⟩ := h.client
    refine ⟨by simp [start], fun _ => ?_, fun _ _ => hreceive⟩
    simpa [start] using hsends
  · intro s l s' hconforms hstep
    exact conforms_next hconforms hstep

end runs

end Route

end UpTransportDds
