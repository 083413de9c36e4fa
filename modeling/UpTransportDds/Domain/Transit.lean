import UpTransportDds.Domain.Projection
import UpTransportDds.Router.Shutdown

/-! # The way of a packet

  What is written on the domain is, seen from the reader of one transport, on
  its way, in the reader, lost, or has been returned by `reader.take`. As long
  as no sample overtakes another, those of one sender that are returned are
  in the order in which it has written them.
-/

namespace UpTransportDds

open LTS

variable {Node UUri Listener Sample Message Value : Type}

/-! ### Observations -/

/-- The values that are sent, with their senders. -/
def DomainLabel.sends : DomainLabel Node UUri Listener Sample Value → List (Node × Value)
  | .send a value _ => [(a, value)]
  | _ => []

namespace Network

/-- The packet that sending a value gives. -/
def packetOf (net : Network Node UUri Sample Message Value) (sent : Node × Value) :
    Option (Packet Node Sample) :=
  match net.sender.encode (net.config sent.1).toDdsConfig sent.2 with
  | .ok sample => some ⟨sent.1, sample⟩
  | .error _ => none

/-- The packet that is handed to a writer. -/
def written (net : Network Node UUri Sample Message Value)
    (s : Domain Node UUri Listener Sample Message) :
    DomainLabel Node UUri Listener Sample Value → List (Packet Node Sample)
  | .send a value answer =>
    (net.send a answer (s a).transport.health value).written.toList.map (⟨a, ·⟩)
  | _ => []

/-- What is written is determined by what is sent. -/
theorem written_eq (net : Network Node UUri Sample Message Value)
    (s : Domain Node UUri Listener Sample Message)
    (l : DomainLabel Node UUri Listener Sample Value) :
    net.written s l = l.sends.filterMap net.packetOf := by
  cases l with
  | send a value answer =>
    simp only [written, DomainLabel.sends, packetOf, List.filterMap_cons, List.filterMap_nil]
    cases hencode : net.sender.encode (net.config a).toDdsConfig value with
    | error status => simp [send, Sender.send, sendSample, hencode]
    | ok sample =>
      have hwritten : (net.send a answer (s a).transport.health value).written = some sample :=
        written_sendSample.mpr hencode
      simp [hwritten]
  | _ => rfl

theorem observe_written (net : Network Node UUri Sample Message Value)
    (tr : Trace (Domain Node UUri Listener Sample Message)
      (DomainLabel Node UUri Listener Sample Value)) :
    observe net.written tr =
      (observe (fun _ l => DomainLabel.sends l) tr).filterMap net.packetOf := by
  simp only [observe, written_eq, List.filterMap_flatMap]

end Network

namespace Domain

/-- The packets that may still be returned to `b`. -/
def heldFor (b : Node) (s : Domain Node UUri Listener Sample Message) :
    List (Packet Node Sample) :=
  (s b).cache.filterMap id ++ (s b).transit

variable [DecidableEq Node]

/-- The entries that `reader.take` returns to `b`. -/
def takenBy (b : Node) (s : Domain Node UUri Listener Sample Message) :
    DomainLabel Node UUri Listener Sample Value → List (Option (Packet Node Sample))
  | .take b' count => if b' = b then (s b).cache.take count else []
  | _ => []

/-- The packet that `b` loses, on the way or in its reader. -/
def lostBy (b : Node) (s : Domain Node UUri Listener Sample Message) :
    DomainLabel Node UUri Listener Sample Value → List (Packet Node Sample)
  | .lose b' i => if b' = b then ((s b).transit[i]?).toList else []
  | .overwrite b' i => if b' = b then ((s b).cache[i]?).join.toList else []
  | _ => []

end Domain

/-! ### The first packet of a sender -/

section first
variable {α : Type} {p q : α → Bool} {xs : List α} {x : α}

/-- The first item of a kind leaves the others of that kind behind it. -/
theorem filter_of_find? (h : xs.find? p = some x) :
    xs.filter p = x :: (xs.eraseP p).filter p := by
  obtain ⟨hx, before, after, rfl, hbefore⟩ := List.find?_eq_some_iff_append.mp h
  have hnone : ∀ y ∈ before, ¬ p y = true := by
    intro y hy
    simpa using hbefore y hy
  rw [List.eraseP_append_right _ hnone, List.eraseP_cons_of_pos hx, List.filter_append,
    List.filter_append, List.filter_eq_nil_iff.mpr hnone, List.filter_cons_of_pos hx]
  rfl

/-- It matters to no other kind. -/
theorem filter_eraseP (hother : ∀ y, p y = true → q y = false) :
    (xs.eraseP p).filter q = xs.filter q := by
  induction xs with
  | nil => rfl
  | cons y xs ih =>
    by_cases hy : p y = true
    · rw [List.eraseP_cons_of_pos hy, List.filter_cons_of_neg (by simp [hother y hy])]
    · rw [List.eraseP_cons_of_neg hy, List.filter_cons, List.filter_cons, ih]

end first

/-! ### Steps -/

section places
variable {s : Domain Node UUri Listener Sample Message} {b : Node}

theorem heldFor_broadcast (packets : List (Packet Node Sample)) :
    (s.broadcast packets).heldFor b = s.heldFor b ++ packets := by
  simp [Domain.heldFor]

/-- What `take` leaves behind is what it does not return. -/
theorem heldFor_take (count : Nat) :
    s.heldFor b = ((s b).cache.take count).filterMap id ++
      (((s b).cache.drop count).filterMap id ++ (s b).transit) := by
  rw [← List.append_assoc, ← List.filterMap_append, List.take_append_drop, Domain.heldFor]

/-- An arrival moves a packet to the end of the cache. -/
theorem heldFor_arrival {packet : Packet Node Sample} {transit : List (Packet Node Sample)} :
    (((s b).cache ++ [some packet]).filterMap id ++ transit) =
      (s b).cache.filterMap id ++ packet :: transit := by
  simp

end places

section updates
variable [DecidableEq Node] {s : Domain Node UUri Listener Sample Message} {a b : Node}

theorem heldFor_update_self {station : Station Node UUri Listener Sample Message} :
    (s.update b station).heldFor b = station.cache.filterMap id ++ station.transit := by
  rw [Domain.heldFor, Domain.update_self]

theorem heldFor_update_ne {station : Station Node UUri Listener Sample Message} (h : a ≠ b) :
    (s.update a station).heldFor b = s.heldFor b := by
  rw [Domain.heldFor, Domain.update_ne (Ne.symm h), Domain.heldFor]

theorem heldFor_setTransport (transport : State UUri Listener Sample Message) :
    (s.setTransport a transport).heldFor b = s.heldFor b := by
  simp [Domain.heldFor]

end updates

section steps
variable [DecidableEq Node] [DecidableEq UUri] [UriMatches UUri] [DecidableEq Listener]
variable {net : Network Node UUri Sample Message Value}
  {s s' : Domain Node UUri Listener Sample Message}
  {l : DomainLabel Node UUri Listener Sample Value}

/-- The reader of `b` and the way to it gain what is written, and give away
    what is taken or lost. -/
theorem heldFor_step (b : Node) (h : DomainStep net s l s') :
    (s.heldFor b ++ net.written s l).Perm
      (((s.takenBy b l).filterMap id ++ s.lostBy b l) ++ s'.heldFor b) := by
  cases h with
  | internal b' l hother hstep =>
    simp [Network.written, Domain.takenBy, Domain.lostBy, heldFor_setTransport]
  | take b' count hcount hstep =>
    by_cases hsame : b' = b
    · rw [hsame, heldFor_update_self, heldFor_take count]
      simp [Network.written, Domain.takenBy, Domain.lostBy]
    · simp [Network.written, Domain.takenBy, Domain.lostBy, hsame, heldFor_update_ne hsame]
  | send a value answer hlive =>
    simp [Network.written, Domain.takenBy, Domain.lostBy, heldFor_broadcast, heldFor_setTransport]
  | @arrive b' a packet hfirst =>
    by_cases hsame : b' = b
    · rw [hsame] at hfirst ⊢
      simp only [Network.written, Domain.takenBy, Domain.lostBy, heldFor_update_self,
        heldFor_arrival, List.append_nil, List.filterMap_nil, List.nil_append]
      exact List.Perm.append_left _ (perm_of_find?_eraseP hfirst)
    · simp [Network.written, Domain.takenBy, Domain.lostBy, heldFor_update_ne hsame]
  | @overtake b' i packet hpacket =>
    by_cases hsame : b' = b
    · rw [hsame] at hpacket ⊢
      simp only [Network.written, Domain.takenBy, Domain.lostBy, heldFor_update_self,
        heldFor_arrival, List.append_nil, List.filterMap_nil, List.nil_append]
      exact List.Perm.append_left _ (perm_eraseIdx hpacket).symm
    · simp [Network.written, Domain.takenBy, Domain.lostBy, heldFor_update_ne hsame]
  | lose b' i hlt =>
    by_cases hsame : b' = b
    · rw [hsame] at hlt ⊢
      have hperm := (perm_eraseIdx (List.getElem?_eq_getElem hlt)).symm
      simp only [Network.written, Domain.takenBy, Domain.lostBy, heldFor_update_self,
        List.append_nil, List.filterMap_nil, List.nil_append, List.getElem?_eq_getElem hlt,
        Option.toList_some, if_true]
      exact (List.Perm.append_left _ hperm).trans List.perm_middle
    · simp [Network.written, Domain.takenBy, Domain.lostBy, hsame, heldFor_update_ne hsame]
  | overwrite b' i hlt =>
    by_cases hsame : b' = b
    · rw [hsame] at hlt ⊢
      have hperm := ((perm_eraseIdx (List.getElem?_eq_getElem hlt)).symm).filterMap id
      simp only [Network.written, Domain.takenBy, Domain.lostBy, heldFor_update_self,
        List.append_nil, List.filterMap_nil, List.nil_append, List.getElem?_eq_getElem hlt,
        Option.join_some, if_true, ← List.append_assoc]
      refine List.Perm.append_right _ (hperm.trans ?_)
      rw [List.filterMap_cons]
      cases (s b).cache[i] <;> exact List.Perm.refl _
    · simp [Network.written, Domain.takenBy, Domain.lostBy, hsame, heldFor_update_ne hsame]
  | notice b' =>
    by_cases hsame : b' = b
    · rw [hsame, heldFor_update_self]
      simp [Network.written, Domain.takenBy, Domain.lostBy, Domain.heldFor]
    · simp [Network.written, Domain.takenBy, Domain.lostBy, heldFor_update_ne hsame]

/-- The packets of one sender stay in order. -/
theorem ordered_step (b a : Node) (h : DomainStep net s l s') (hl : l.InOrder) :
    (((s.takenBy b l).filterMap id).filter (·.sender = a) ++
      (s'.heldFor b).filter (·.sender = a)).Sublist
    ((s.heldFor b).filter (·.sender = a) ++ (net.written s l).filter (·.sender = a)) := by
  rw [← List.filter_append, ← List.filter_append]
  cases h with
  | internal b' l hother hstep =>
    rw [heldFor_setTransport]
    exact List.Sublist.filter _ (List.sublist_append_left _ _)
  | take b' count hcount hstep =>
    apply List.Sublist.filter
    by_cases hsame : b' = b
    · rw [hsame, heldFor_update_self, heldFor_take (b := b) count]
      simp [Network.written, Domain.takenBy]
    · simp [Network.written, Domain.takenBy, hsame, heldFor_update_ne hsame]
  | send a' value answer hlive =>
    apply List.Sublist.filter
    rw [heldFor_broadcast, heldFor_setTransport]
    exact List.Sublist.refl _
  | @arrive b' a' packet hfirst =>
    by_cases hsame : b' = b
    · rw [hsame] at hfirst ⊢
      rw [heldFor_update_self, heldFor_arrival]
      simp only [Network.written, Domain.takenBy, List.append_nil, List.filterMap_nil,
        List.nil_append, Domain.heldFor]
      rw [List.filter_append, List.filter_append]
      refine List.Sublist.append (List.Sublist.refl _) ?_
      by_cases hsender : a' = a
      · -- the first packet of `a` is ahead of its others in either place
        rw [← hsender, filter_of_find? hfirst, List.filter_cons_of_pos]
        simpa using List.find?_some hfirst
      · have hpacket : packet.sender = a' := by simpa using List.find?_some hfirst
        rw [List.filter_cons_of_neg (by simp [hpacket, hsender]), filter_eraseP]
        intro other hother
        simp_all
    · rw [heldFor_update_ne hsame]
      exact List.Sublist.filter _ (List.sublist_append_left _ _)
  | overtake => contradiction
  | lose b' i hlt =>
    apply List.Sublist.filter
    by_cases hsame : b' = b
    · rw [hsame, heldFor_update_self]
      simp only [Network.written, Domain.takenBy, List.append_nil, List.filterMap_nil,
        List.nil_append, Domain.heldFor]
      exact List.Sublist.append (List.Sublist.refl _) (List.eraseIdx_sublist _ _)
    · simp [Network.written, Domain.takenBy, heldFor_update_ne hsame]
  | overwrite b' i hlt =>
    apply List.Sublist.filter
    by_cases hsame : b' = b
    · rw [hsame, heldFor_update_self]
      simp only [Network.written, Domain.takenBy, List.append_nil, List.filterMap_nil,
        List.nil_append, Domain.heldFor]
      exact ((List.eraseIdx_sublist _ _).filterMap _).append (List.Sublist.refl _)
    · simp [Network.written, Domain.takenBy, heldFor_update_ne hsame]
  | notice b' =>
    apply List.Sublist.filter
    by_cases hsame : b' = b
    · rw [hsame, heldFor_update_self]
      simp [Network.written, Domain.takenBy, Domain.heldFor]
    · simp [Network.written, Domain.takenBy, heldFor_update_ne hsame]

/-- What the router of `b` takes are the samples of these entries. -/
theorem took_step (b : Node) (h : DomainStep net s l s') :
    (Domain.showing b took s l).map Prod.fst =
      (s.takenBy b l).map (Option.map Packet.sample) := by
  cases h with
  | internal b' l hother hstep =>
    simp only [Domain.showing, within, Domain.part, Domain.takenBy, List.map_nil]
    by_cases hsame : b' = b
    · rw [if_pos hsame]
      cases l with
      | take result =>
        cases result with
        | error error => rfl
        | ok samples => exact absurd rfl (hother samples)
      | _ => rfl
    · rw [if_neg hsame]
      rfl
  | take b' count hcount hstep =>
    simp only [Domain.showing, within, Domain.part, Domain.takenBy]
    by_cases hsame : b' = b
    · rw [if_pos hsame, if_pos hsame]
      rw [hsame] at hstep
      cases hstep with
      | takeOk _ hpc => simp [took, hpc, Domain.taking]
    · rw [if_neg hsame, if_neg hsame]
      rfl
  | _ => rfl

end steps

/-! ### Runs -/

section runs
variable [DecidableEq Node] [DecidableEq UUri] [UriMatches UUri] [DecidableEq Listener]
variable {net : Network Node UUri Sample Message Value}
  {s : Domain Node UUri Listener Sample Message}
  {tr : Trace (Domain Node UUri Listener Sample Message)
    (DomainLabel Node UUri Listener Sample Value)}

/-- What is written is, for `b`, taken, lost, or still to be taken. -/
theorem run_transit (h : InitRun net.system tr s) (b : Node) :
    (observe net.written tr).Perm
      (((observe (Domain.takenBy b) tr).filterMap id ++ observe (Domain.lostBy b) tr) ++
        s.heldFor b) := by
  have hbag := flow_bag (fun s => s.heldFor b) net.written
    (fun s l => (s.takenBy b l).filterMap id ++ s.lostBy b l) ?_ ?_ h
  · refine hbag.trans (List.Perm.append_right _ ((observe_both _ _ tr).trans ?_))
    rw [show observe (fun s l => (Domain.takenBy b s l).filterMap id) tr =
      (observe (Domain.takenBy b) tr).filterMap id by simp only [observe, List.filterMap_flatMap]]
  · intro s hs
    rw [hs]
    rfl
  · intro s l s' _ hstep
    exact heldFor_step b (DomainStep.of_next hstep)

/-- What is taken of one sender is in the order in which it was written. -/
theorem run_ordered (h : InitRun net.system tr s) (hordered : ∀ e ∈ tr, e.2.InOrder)
    (b a : Node) :
    (((observe (Domain.takenBy b) tr).filterMap id).filter (·.sender = a)).Sublist
      ((observe net.written tr).filter (·.sender = a)) := by
  obtain ⟨s₀, hinit, hrun⟩ := h
  have hrestricted : InitRun (net.system.restrict DomainLabel.InOrder) tr s :=
    ⟨s₀, hinit, hrun.restrict hordered⟩
  have hfilter := flow_filter (fun s => (s.heldFor b).filter (·.sender = a))
    (fun s l => (net.written s l).filter (·.sender = a))
    (fun s l => ((s.takenBy b l).filterMap id).filter (·.sender = a)) ?_ ?_ hrestricted
  · have hsublist := (List.sublist_append_left _ _).trans hfilter
    simpa only [observe, List.filterMap_flatMap, List.filter_flatMap] using hsublist
  · intro s hs
    rw [show s = Domain.start from hs]
    rfl
  · intro s l s' _ hstep
    exact ordered_step b a (DomainStep.of_next hstep.2) hstep.1

/-- What the router of `b` takes are the samples of the entries it is
    returned. -/
theorem run_took (h : InitRun net.system tr s) (b : Node) :
    (observe (Domain.showing b took) tr).map Prod.fst =
      (observe (Domain.takenBy b) tr).map (Option.map Packet.sample) := by
  rw [← observe_map, ← observe_map]
  refine InitRun.observe_congr ?_ h
  intro s l s' hstep
  exact took_step b (DomainStep.of_next hstep)

end runs

end UpTransportDds
