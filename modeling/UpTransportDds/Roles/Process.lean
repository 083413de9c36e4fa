import UpTransportDds.Roles.Route
import UpTransportDds.Router.Order

/-! # Role processes on one domain

  Any number of role processes of one route family. What one of them writes
  is broadcast: it reaches the reader of every process of the domain, and from
  there, unless it is lost on the way, the channel of every process whose
  filters it passes. A process takes the first message out of its channel.
-/

namespace UpTransportDds

open LTS Codec

variable {UUri UMessageId Sample Received Message : Type}

/-! ### State and labels -/

structure RoleProcess (UUri Sample Message : Type) where
  role : Role
  args : Args
  processId : Nat
  /-- What is left of its script. -/
  todo : List Action
  registry : Registry UUri Unit
  /-- Samples on their way to the listener, in no order. -/
  reader : List Sample
  channel : List Message
  /-- The messages it has handed to its transport. -/
  sent : List Message
  /-- The message it has received. -/
  received : Option Message
  /-- What `run` returns. -/
  result : Option (Except UStatus Unit)

/-- A step of a process, with what its environment decides. -/
inductive RoleInput (UMessageId : Type) where
  /-- `with_config`, and what DDS answers to a valid configuration. -/
  | create (answer : Except UStatus Unit)
  /-- `wait_ready`, and its answer. -/
  | ready (answer : Except UStatus Unit)
  | register
  /-- A message is built with this id and sent, and the writer answers. -/
  | send (id : UMessageId) (answer : Except DdsError Unit)
  | receive
  /-- `receive` times out. -/
  | expire
  /-- The sample in this place of the reader gets to the listeners. -/
  | deliver (i : Nat)
  /-- The sample in this place of the reader is lost. -/
  | lose (i : Nat)
  deriving DecidableEq

/-- A step of process `p`. -/
structure RoleLabel (UMessageId : Type) where
  p : Nat
  input : RoleInput UMessageId

/-! ### Steps of one process -/

namespace RoleProcess

variable (P : RoleProcess UUri Sample Message)

def config : DdsConfig := P.args.config P.processId

/-- `?` on an error, which ends the process. -/
@[simps] def fail (status : UStatus) : RoleProcess UUri Sample Message :=
  { P with todo := [], result := some (.error status) }

/-- The rest of the script is next; after its last step `run` returns `Ok`. -/
@[simps] def proceed (todo : List Action) : RoleProcess UUri Sample Message :=
  { P with todo := todo, result := if todo.isEmpty then some (.ok ()) else none }

/-- `?` on the result of a step. -/
def goOn (todo : List Action) : Except UStatus Unit → RoleProcess UUri Sample Message
  | .ok () => P.proceed todo
  | .error status => P.fail status

/-- The process, after a sample has been written on the domain. -/
@[simps] def read (sample : Option Sample) : RoleProcess UUri Sample Message :=
  { P with reader := P.reader ++ sample.toList }

end RoleProcess

namespace Route

section steps
variable [DecidableEq UUri] [UriMatches UUri]
  (route : Route UUri UMessageId Sample Received Message) (P : RoleProcess UUri Sample Message)

/-- `filters` and `register_listener`. -/
def registerListener : Except UStatus (Registry UUri Unit) :=
  (route.filters P.role P.args).bind fun (source, sink) =>
    (route.carriage.verifyFilterCriteria source sink).bind fun _ =>
      P.registry.register source sink ()

/-- The messages that a sample brings to the channel: one for each listener
    that it passes the filters of. -/
def hear (sample : Sample) : List Message :=
  match route.carriage.receive P.config sample with
  | .accepted received =>
    (P.registry.matching (route.carriage.source received) (route.carriage.sink received)).flatMap
      fun _ => (route.listen P.args received).toList
  | _ => []

/-- Sends what has been built, or fails. -/
def transmit (todo : List Action) (answer : Except DdsError Unit) (built : Except UStatus Message) :
    RoleProcess UUri Sample Message × Option Sample :=
  match built with
  | .error status => (P.fail status, none)
  | .ok message =>
    let sent := route.send P.config P.args (fun _ => answer) message
    ({ P with sent := P.sent ++ [message] }.goOn todo sent.1, sent.2)

/-- The next step of a process, and the sample it writes. -/
def act (input : RoleInput UMessageId) : Option (RoleProcess UUri Sample Message × Option Sample) :=
  match P.todo, input with
  | .create :: todo, .create answer =>
    some (P.goOn todo (P.config.validate.bind fun _ => answer), none)
  | .ready _ :: todo, .ready answer => some (P.goOn todo answer, none)
  | .register :: todo, .register =>
    match route.registerListener P with
    | .error status => some (P.fail status, none)
    | .ok registry => some ({ P with registry := registry }.proceed todo, none)
  | .send :: todo, .send id answer =>
    some (route.transmit P todo answer (route.outbound P.role P.args id))
  | .receive :: todo, .receive =>
    match P.channel with
    | [] => none
    | message :: channel =>
      some ({ P with channel := channel, received := some message }.proceed todo, none)
  | .receive :: _, .expire =>
    -- a message that is there is taken even when the time is up
    if P.channel.isEmpty then
      some (P.fail ⟨.deadlineExceeded, "timed out waiting for " ++ route.what⟩, none)
    else
      none
  | .respond :: todo, .send id answer =>
    P.received.map fun request =>
      route.transmit P todo answer (route.response request P.args id)
  | _, .deliver i =>
    (P.reader[i]?).map fun sample =>
      ({ P with reader := P.reader.eraseIdx i, channel := P.channel ++ route.hear P sample }, none)
  | _, .lose i => some ({ P with reader := P.reader.eraseIdx i }, none)
  | _, _ => none

end steps

/-! ### The router below -/

section router
variable [UriMatches UUri]
  {route : Route UUri UMessageId Sample Received Message} {P : RoleProcess UUri Sample Message}
  {env : Env UUri Sample Received}

/-- The messages of a sample are those of the jobs that the router of the
    process makes of it. -/
theorem hear_eq_jobs (hcarriage : env.carriage = route.carriage)
    (hconfig : env.config.toDdsConfig = P.config) (sample : Sample) (k : Nat) :
    route.hear P sample = (jobsFor env ((some sample, k), P.registry)).flatMap
      fun job => (route.listen P.args job.message).toList := by
  simp only [hear, jobsFor, hcarriage, hconfig]
  cases route.carriage.receive P.config sample with
  | accepted received =>
    simp only [jobsOf, hcarriage, List.flatMap_map]
  | own | malformed => rfl

/-- What the router calls the listener with comes of a sample that it has
    taken, and of the table of that moment. -/
theorem heard_of_started [DecidableEq UUri] (hcarriage : env.carriage = route.carriage)
    (hconfig : env.config.toDdsConfig = P.config)
    {tr : Trace (State UUri Unit Sample Received) (Label UUri Unit Sample)}
    {s : State UUri Unit Sample Received} (h : InitRun (router env) tr s) {job : Job Received}
    (hjob : job ∈ observe started tr) {message : Message}
    (hlisten : route.listen P.args job.message = some message) :
    ∃ sample registry, ((some sample, job.sample), registry) ∈ observe handledIn tr ∧
      message ∈ route.hear { P with registry := registry } sample := by
  have hsnapshotted := (run_started_order h).subset hjob
  rw [observe_snapshotted] at hsnapshotted
  obtain ⟨⟨⟨data, k⟩, registry⟩, hhandled, hmade⟩ := List.mem_flatMap.mp hsnapshotted
  obtain rfl : job.sample = k := sample_jobsFor hmade
  cases data with
  | none => exact absurd hmade List.not_mem_nil
  | some sample =>
    refine ⟨sample, registry, hhandled, ?_⟩
    rw [hear_eq_jobs (P := { P with registry := registry }) hcarriage hconfig sample job.sample]
    exact List.mem_flatMap.mpr ⟨job, hmade, by rw [hlisten]; exact List.mem_singleton_self _⟩

end router

/-! ### The domain -/

section domain
variable [DecidableEq UUri] [DecidableEq UMessageId] [UriMatches UUri]
  (route : Route UUri UMessageId Sample Received Message)

/-- No message has this id yet. -/
def fresh (s : List (RoleProcess UUri Sample Message)) : RoleInput UMessageId → Bool
  | .send id _ => s.all fun P => P.sent.all fun message => (route.head message).id ≠ id
  | _ => true

/-- A step of one process. What it writes is on the way to every process, and
    to itself. -/
def next (s : List (RoleProcess UUri Sample Message)) (l : RoleLabel UMessageId) :
    Option (List (RoleProcess UUri Sample Message)) :=
  if route.fresh s l.input then
    (s[l.p]?).bind fun P =>
      (route.act P l.input).map fun (P', sample) => (s.set l.p P').map (·.read sample)
  else
    none

/-- A process before its first step. -/
def start (role : Role) (args : Args) (processId : Nat) : RoleProcess UUri Sample Message where
  role := role
  args := args
  processId := processId
  todo := route.script role
  registry := .empty
  reader := []
  channel := []
  sent := []
  received := none
  result := none

/-- Clients and servers that are started on one domain, with origins of their
    own. -/
def Started (s : List (RoleProcess UUri Sample Message)) : Prop :=
  (∀ P ∈ s, (P.role = .client ∨ P.role = .server) ∧
    P = route.start P.role P.args P.processId) ∧
  (∃ domainId, ∀ P ∈ s, P.args.domainId = domainId) ∧
  (s.map fun P => P.config.originId).Nodup

/-- Clients and servers on one domain. -/
def peers : System (List (RoleProcess UUri Sample Message)) (RoleLabel UMessageId) :=
  ofNext route.Started route.next

end domain

/-- Who is where, after a step of the domain. -/
theorem getElem?_broadcast {s : List (RoleProcess UUri Sample Message)} {p q : Nat}
    {P : RoleProcess UUri Sample Message} {sample : Option Sample} (hp : p < s.length) :
    ((s.set p P).map (·.read sample))[q]? =
      if p = q then some (P.read sample) else (s[q]?).map (·.read sample) := by
  rw [List.getElem?_map]
  by_cases hq : p = q
  · rw [if_pos hq, ← hq, List.getElem?_set_self hp]
    rfl
  · rw [if_neg hq, List.getElem?_set_ne hq]

/-! ### What a process can do -/

section moves
variable [DecidableEq UUri] [UriMatches UUri]
  {route : Route UUri UMessageId Sample Received Message}

/-- The messages that the next step of the script sends. -/
inductive Builds (route : Route UUri UMessageId Sample Received Message)
    (P : RoleProcess UUri Sample Message) : Action → Message → Prop where
  | outbound {id : UMessageId} {message : Message} :
      route.outbound P.role P.args id = .ok message → Builds route P .send message
  | response {request : Message} {id : UMessageId} {message : Message} :
      P.received = some request → route.response request P.args id = .ok message →
        Builds route P .respond message

/-- The steps of a process, by what they change. -/
inductive Acts (route : Route UUri UMessageId Sample Received Message)
    (P : RoleProcess UUri Sample Message) :
    RoleProcess UUri Sample Message → Option Sample → Prop where
  | fail {status : UStatus} : Acts route P (P.fail status) none
  | pass {action : Action} {todo : List Action} :
      P.todo = action :: todo → action.sends = false → action ≠ .receive →
        Acts route P (P.proceed todo) none
  | register {todo : List Action} {source : UUri} {sink : Option UUri}
      {registry : Registry UUri Unit} :
      P.todo = .register :: todo → route.filters P.role P.args = .ok (source, sink) →
        P.registry.register source sink () = .ok registry →
        Acts route P ({ P with registry := registry }.proceed todo) none
  | transmit {action : Action} {todo : List Action} {message : Message}
      {answer : Except DdsError Unit} {sample : Option Sample} :
      P.todo = action :: todo → Builds route P action message →
        (route.send P.config P.args (fun _ => answer) message).2 = sample →
        Acts route P ({ P with sent := P.sent ++ [message] }.proceed todo) sample
  /-- The send fails, whether or not a sample has been written. -/
  | refused {action : Action} {todo : List Action} {message : Message}
      {answer : Except DdsError Unit} {status : UStatus} {sample : Option Sample} :
      P.todo = action :: todo → Builds route P action message →
        (route.send P.config P.args (fun _ => answer) message).2 = sample →
        Acts route P ({ P with sent := P.sent ++ [message] }.fail status) sample
  | receive {todo : List Action} {message : Message} {channel : List Message} :
      P.todo = .receive :: todo → P.channel = message :: channel →
        Acts route P ({ P with channel := channel, received := some message }.proceed todo) none
  | deliver {i : Nat} {sample : Sample} : P.reader[i]? = some sample →
      Acts route P { P with reader := P.reader.eraseIdx i
                            channel := P.channel ++ route.hear P sample } none
  | lose {i : Nat} : Acts route P { P with reader := P.reader.eraseIdx i } none

theorem acts_goOn {P : RoleProcess UUri Sample Message} {action : Action} {todo : List Action}
    (htodo : P.todo = action :: todo) (hsends : action.sends = false) (hreceive : action ≠ .receive)
    (result : Except UStatus Unit) : Acts route P (P.goOn todo result) none := by
  cases result with
  | error status => exact .fail
  | ok => exact .pass htodo hsends hreceive

theorem acts_transmit {P P' : RoleProcess UUri Sample Message} {sample : Option Sample}
    {action : Action} {todo : List Action} {answer : Except DdsError Unit}
    {built : Except UStatus Message} (htodo : P.todo = action :: todo)
    (hbuilt : ∀ message, built = .ok message → Builds route P action message)
    (h : route.transmit P todo answer built = (P', sample)) : Acts route P P' sample := by
  unfold transmit at h
  cases built with
  | error status =>
    obtain ⟨rfl, rfl⟩ := Prod.mk.inj h
    exact .fail
  | ok message =>
    obtain ⟨rfl, rfl⟩ := Prod.mk.inj h
    cases (route.send P.config P.args (fun _ => answer) message).1 with
    | error status => exact .refused htodo (hbuilt message rfl) rfl
    | ok => exact .transmit htodo (hbuilt message rfl) rfl

/-- What a step of a process can be. -/
theorem acts_of_act {P P' : RoleProcess UUri Sample Message} {input : RoleInput UMessageId}
    {sample : Option Sample} (h : route.act P input = some (P', sample)) :
    Acts route P P' sample := by
  unfold act at h
  -- one case for each branch of `act`, in its order
  split at h
  case h_1 todo answer htodo =>
    obtain ⟨rfl, rfl⟩ := Prod.mk.inj (Option.some.inj h)
    exact acts_goOn htodo rfl (by decide) _
  case h_2 matched todo answer htodo =>
    obtain ⟨rfl, rfl⟩ := Prod.mk.inj (Option.some.inj h)
    exact acts_goOn htodo rfl Action.noConfusion _
  case h_3 todo htodo =>
    split at h
    · obtain ⟨rfl, rfl⟩ := Prod.mk.inj (Option.some.inj h)
      exact .fail
    · rename_i registry hregister
      obtain ⟨rfl, rfl⟩ := Prod.mk.inj (Option.some.inj h)
      obtain ⟨⟨source, sink⟩, hfilters, hrest⟩ := bind_eq_ok.mp hregister
      obtain ⟨_, _, hregistry⟩ := bind_eq_ok.mp hrest
      exact .register htodo hfilters hregistry
  case h_4 todo id answer htodo =>
    exact acts_transmit htodo (fun message hbuilt => .outbound hbuilt) (Option.some.inj h)
  case h_5 todo htodo =>
    split at h
    · contradiction
    · rename_i message channel hchannel
      obtain ⟨rfl, rfl⟩ := Prod.mk.inj (Option.some.inj h)
      exact .receive htodo hchannel
  case h_6 todo htodo =>
    split at h
    · obtain ⟨rfl, rfl⟩ := Prod.mk.inj (Option.some.inj h)
      exact .fail
    · contradiction
  case h_7 todo id answer htodo =>
    obtain ⟨request, hreceived, hsent⟩ := Option.map_eq_some_iff.mp h
    exact acts_transmit htodo (fun message hbuilt => .response hreceived hbuilt) hsent
  case h_8 i =>
    obtain ⟨carried, hcarried, hdelivered⟩ := Option.map_eq_some_iff.mp h
    obtain ⟨rfl, rfl⟩ := Prod.mk.inj hdelivered
    exact .deliver hcarried
  case h_9 i =>
    obtain ⟨rfl, rfl⟩ := Prod.mk.inj (Option.some.inj h)
    exact .lose
  case h_10 =>
    contradiction

/-- What a step of the domain can be: one process acts, and what it writes is
    on the way to all. -/
theorem next_cases [DecidableEq UMessageId] {s s' : List (RoleProcess UUri Sample Message)}
    {l : RoleLabel UMessageId}
    (h : route.next s l = some s') :
    ∃ P P' sample, s[l.p]? = some P ∧ Acts route P P' sample ∧
      s' = (s.set l.p P').map (·.read sample) := by
  unfold next at h
  split at h
  · obtain ⟨P, hP, hact⟩ := Option.bind_eq_some_iff.mp h
    obtain ⟨⟨P', sample⟩, hstep, rfl⟩ := Option.map_eq_some_iff.mp hact
    exact ⟨P, P', sample, hP, acts_of_act hstep, rfl⟩
  · contradiction

end moves

end Route

end UpTransportDds
