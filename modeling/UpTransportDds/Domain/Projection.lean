import UpTransportDds.Domain.Network

/-! # One transport of a domain

  The steps of a domain, by what they change, and the way back from a run of
  the domain to a run of the router of one of its transports. The two differ
  in the health, which a failed `send` reports to in between.
-/

namespace UpTransportDds

open LTS

variable {Node UUri Listener Sample Message Value : Type}

/-! ### Updates -/

namespace Domain

section broadcast
variable {s : Domain Node UUri Listener Sample Message} {b : Node}

@[simp] theorem broadcast_transport (packets : List (Packet Node Sample)) :
    (s.broadcast packets b).transport = (s b).transport := rfl

@[simp] theorem broadcast_transit (packets : List (Packet Node Sample)) :
    (s.broadcast packets b).transit = (s b).transit ++ packets := rfl

@[simp] theorem broadcast_cache (packets : List (Packet Node Sample)) :
    (s.broadcast packets b).cache = (s b).cache := rfl

end broadcast

section update
variable [DecidableEq Node]
  {s : Domain Node UUri Listener Sample Message} {a b : Node}
  {station : Station Node UUri Listener Sample Message}

theorem update_self : s.update b station b = station := by
  simp [update]

theorem update_ne (h : a ≠ b) : s.update b station a = s a := by
  simp [update, h]

/-- What happens to a reader does not touch its transport. -/
theorem update_transport (h : station.transport = (s a).transport) :
    (s.update a station b).transport = (s b).transport := by
  by_cases hsame : b = a
  · rw [hsame, update_self, h]
  · rw [update_ne hsame]

@[simp] theorem setTransport_transit (transport : State UUri Listener Sample Message) :
    (s.setTransport a transport b).transit = (s b).transit := by
  by_cases hsame : b = a
  · rw [hsame, setTransport, update_self]
  · rw [setTransport, update_ne hsame]

@[simp] theorem setTransport_cache (transport : State UUri Listener Sample Message) :
    (s.setTransport a transport b).cache = (s b).cache := by
  by_cases hsame : b = a
  · rw [hsame, setTransport, update_self]
  · rw [setTransport, update_ne hsame]

theorem setTransport_self (transport : State UUri Listener Sample Message) :
    (s.setTransport b transport b).transport = transport := by
  rw [setTransport, update_self]

theorem setTransport_ne (h : b ≠ a) (transport : State UUri Listener Sample Message) :
    (s.setTransport a transport b).transport = (s b).transport := by
  rw [setTransport, update_ne h]

end update

end Domain

/-! ### Steps -/

section steps
variable [DecidableEq Node] [DecidableEq UUri] [UriMatches UUri] [DecidableEq Listener]

/-- The steps of a domain. -/
inductive DomainStep (net : Network Node UUri Sample Message Value)
    (s : Domain Node UUri Listener Sample Message) :
    DomainLabel Node UUri Listener Sample Value → Domain Node UUri Listener Sample Message → Prop
    where
  | internal (b : Node) (l : Label UUri Listener Sample)
      {transport : State UUri Listener Sample Message} (hother : ∀ samples, l ≠ .take (.ok samples))
      (hstep : Step (net.env b) (s b).transport l transport) :
      DomainStep net s (.internal b l) (s.setTransport b transport)
  | take (b : Node) (count : Nat) {transport : State UUri Listener Sample Message}
      (hcount : count ≤ (s b).cache.length)
      (hstep : Step (net.env b) (s b).transport (.take (.ok (s.taking b count))) transport) :
      DomainStep net s (.take b count)
        (s.update b { s b with transport := transport, cache := (s b).cache.drop count })
  | send (a : Node) (value : Value) (answer : Except DdsError Unit)
      (hlive : (s a).transport.drop = .live) :
      DomainStep net s (.send a value answer)
        ((s.setTransport a ((s a).transport.withHealth
          (net.send a answer (s a).transport.health value).health)).broadcast
            ((net.send a answer (s a).transport.health value).written.toList.map (⟨a, ·⟩)))
  | arrive (b a : Node) {packet : Packet Node Sample}
      (hfirst : (s b).transit.find? (·.sender = a) = some packet) :
      DomainStep net s (.arrive b a)
        (s.update b { s b with transit := (s b).transit.eraseP (·.sender = a)
                               cache := (s b).cache ++ [some packet] })
  | overtake (b : Node) (i : Nat) {packet : Packet Node Sample}
      (hpacket : (s b).transit[i]? = some packet) :
      DomainStep net s (.overtake b i)
        (s.update b { s b with transit := (s b).transit.eraseIdx i
                               cache := (s b).cache ++ [some packet] })
  | lose (b : Node) (i : Nat) (hlt : i < (s b).transit.length) :
      DomainStep net s (.lose b i)
        (s.update b { s b with transit := (s b).transit.eraseIdx i })
  | overwrite (b : Node) (i : Nat) (hlt : i < (s b).cache.length) :
      DomainStep net s (.overwrite b i)
        (s.update b { s b with cache := (s b).cache.eraseIdx i })
  | notice (b : Node) :
      DomainStep net s (.notice b) (s.update b { s b with cache := (s b).cache ++ [none] })

variable {net : Network Node UUri Sample Message Value}
  {s s' : Domain Node UUri Listener Sample Message}
  {l : DomainLabel Node UUri Listener Sample Value}

theorem DomainStep.of_next (h : net.next s l = some s') : DomainStep net s l s' := by
  unfold Network.next at h
  -- one case for each branch of `next`, in its order
  split at h
  case h_1 => contradiction
  case h_2 b l hother =>
    obtain ⟨transport, hstep, rfl⟩ := Option.map_eq_some_iff.mp h
    exact .internal b l hother (Step.of_next hstep)
  case h_3 b count =>
    split at h
    · rename_i hguard
      obtain ⟨transport, hstep, rfl⟩ := Option.map_eq_some_iff.mp h
      exact .take b count hguard.1 (Step.of_take hstep)
    · contradiction
  case h_4 a value answer =>
    split at h
    · rename_i hlive
      rw [← Option.some.inj h]
      exact .send a value answer hlive
    · contradiction
  case h_5 b a =>
    obtain ⟨packet, hfirst, rfl⟩ := Option.map_eq_some_iff.mp h
    exact .arrive b a hfirst
  case h_6 b i =>
    obtain ⟨packet, hpacket, rfl⟩ := Option.map_eq_some_iff.mp h
    exact .overtake b i hpacket
  case h_7 b i =>
    split at h
    · rename_i hlt
      rw [← Option.some.inj h]
      exact .lose b i hlt
    · contradiction
  case h_8 b i =>
    split at h
    · rename_i hlt
      rw [← Option.some.inj h]
      exact .overwrite b i hlt
    · contradiction
  case h_9 b =>
    rw [← Option.some.inj h]
    exact .notice b

end steps

/-! ### The router of a transport -/

namespace Domain
variable [DecidableEq Node]

/-- The step of the router of `b` that a step of the domain is. -/
def part (b : Node) (s : Domain Node UUri Listener Sample Message) :
    DomainLabel Node UUri Listener Sample Value → Option (Label UUri Listener Sample)
  | .internal b' l => if b' = b then some l else none
  | .take b' count => if b' = b then some (.take (.ok (s.taking b count))) else none
  | _ => none

/-- The steps of the router of `b` in a run of the domain. -/
def stepsOf (b : Node)
    (tr : Trace (Domain Node UUri Listener Sample Message)
      (DomainLabel Node UUri Listener Sample Value)) :
    Trace (State UUri Listener Sample Message) (Label UUri Listener Sample) :=
  component (fun s => (s b).transport) (part b) tr

/-- What the router of `b` shows. -/
def showing {α : Type} (b : Node)
    (obs : State UUri Listener Sample Message → Label UUri Listener Sample → List α)
    (s : Domain Node UUri Listener Sample Message)
    (l : DomainLabel Node UUri Listener Sample Value) : List α :=
  within (fun s => (s b).transport) (part b) obs s l

theorem observe_stepsOf {α : Type} (b : Node)
    (obs : State UUri Listener Sample Message → Label UUri Listener Sample → List α)
    (tr : Trace (Domain Node UUri Listener Sample Message)
      (DomainLabel Node UUri Listener Sample Value)) :
    observe obs (stepsOf b tr) = observe (showing b obs) tr :=
  observe_component _ _ _ _

end Domain

section projection
variable [DecidableEq Node] [DecidableEq UUri] [UriMatches UUri] [DecidableEq Listener]
variable {net : Network Node UUri Sample Message Value}
  {s s' : Domain Node UUri Listener Sample Message}
  {l : DomainLabel Node UUri Listener Sample Value}
  {tr : Trace (Domain Node UUri Listener Sample Message)
    (DomainLabel Node UUri Listener Sample Value)}

/-- The router of `b` does not move unless it takes part, except that a
    failed `send` reports to its health. -/
theorem blind_of_idle {b : Node} (h : DomainStep net s l s') (hidle : Domain.part b s l = none) :
    (s' b).transport.blind = (s b).transport.blind := by
  cases h with
  | internal b' l hother hstep =>
    have hne : b ≠ b' := by
      intro hsame
      simp [Domain.part, hsame] at hidle
    rw [Domain.setTransport_ne hne]
  | take b' count hcount hstep =>
    have hne : b ≠ b' := by
      intro hsame
      simp [Domain.part, hsame] at hidle
    rw [Domain.update_ne hne]
  | send a value answer hlive =>
    rw [Domain.broadcast_transport]
    by_cases hsame : b = a
    · rw [hsame, Domain.setTransport_self, State.blind_withHealth]
    · rw [Domain.setTransport_ne hsame]
  | arrive b' | overtake b' | lose b' | overwrite b' | notice b' =>
    exact congrArg State.blind (Domain.update_transport rfl)

/-- Where it takes part, it takes a step of its own. -/
theorem step_of_part {b : Node} {l' : Label UUri Listener Sample} (h : DomainStep net s l s')
    (hpart : Domain.part b s l = some l') :
    Step (net.env b) (s b).transport l' (s' b).transport := by
  cases h with
  | internal b' l hother hstep =>
    simp only [Domain.part, Option.ite_none_right_eq_some, Option.some.injEq] at hpart
    obtain ⟨rfl, rfl⟩ := hpart
    rw [Domain.setTransport_self]
    exact hstep
  | take b' count hcount hstep =>
    simp only [Domain.part, Option.ite_none_right_eq_some, Option.some.injEq] at hpart
    obtain ⟨rfl, rfl⟩ := hpart
    rw [Domain.update_self]
    exact hstep
  | _ => contradiction

/-- **A run of the domain holds a run of each router**, up to its health. -/
theorem routerRun (h : InitRun net.system tr s) (b : Node) :
    ∃ tr' a, InitRun (router (net.env b)) tr' a ∧
      Alike State.blind tr' (Domain.stepsOf b tr) ∧ a.blind = (s b).transport.blind := by
  refine InitRun.component ?_ ?_ ?_ h
  · intro s hs
    rw [hs]
    exact ⟨State.start, rfl, rfl⟩
  · intro s l s' hstep hidle
    exact blind_of_idle (DomainStep.of_next hstep) hidle
  · intro s l s' l' a hstep hpart hblind
    obtain ⟨a', hmove, hblind'⟩ := (step_of_part (DomainStep.of_next hstep) hpart).blind hblind
    exact ⟨a', Step.next_eq hmove, hblind'⟩

end projection

/-- What the router of `b` shows in a run of the domain is what it shows in
    its own. -/
theorem observe_routerRun [DecidableEq Node] {b : Node} {α : Type}
    {obs : State UUri Listener Sample Message → Label UUri Listener Sample → List α}
    (hobs : Blind obs)
    {tr : Trace (Domain Node UUri Listener Sample Message)
      (DomainLabel Node UUri Listener Sample Value)}
    {tr' : Trace (State UUri Listener Sample Message) (Label UUri Listener Sample)}
    (h : Alike State.blind tr' (Domain.stepsOf b tr)) :
    observe obs tr' = observe (Domain.showing b obs) tr := by
  rw [observe_alike State.blind hobs.eq h, Domain.observe_stepsOf]

end UpTransportDds
