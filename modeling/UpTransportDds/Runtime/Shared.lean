import UpTransportDds.Framework.System
import UpTransportDds.Runtime.Registry

/-! # A shared registry

  One `Registry` in the hands of any number of threads. They register and
  unregister listeners, take snapshots with `matching`, deactivate everything,
  and, for registrations they hold on to, begin callbacks and drop the guards
  of these callbacks again.

  The table has one lock and every registration another one. A step is one
  critical section under one of these locks, or an invocation or a return.
-/

namespace UpTransportDds

open LTS

variable {UUri Listener : Type}

/-! ### Operations -/

inductive RegistryOp (UUri Listener : Type) where
  | register (source : UUri) (sink : Option UUri) (listener : Listener)
  | unregister (source : UUri) (sink : Option UUri) (listener : Listener)
  | matching (source : UUri) (sink : Option UUri)
  | deactivateAll
  deriving DecidableEq, Repr

/-- What an operation answers. `deactivate_all` answers `()`, as if it were
    `Ok`. -/
inductive Answer (Entry : Type) where
  | result (result : Except UStatus Unit)
  | entries (entries : List Entry)

/-- Where a call on the registry stands. -/
inductive OpPc where
  /-- Before the lock of the table. -/
  | invoked
  /-- Before the lock of the first of these registrations, which have left the
      table. -/
  | deactivating (regs : List RegId)
  /-- Asleep on the `idle` condition of `r`, with `regs` still to come. -/
  | asleep (r : RegId) (regs : List RegId)
  /-- Notified or woken up, but not yet holding the lock of `r` again. -/
  | awake (r : RegId) (regs : List RegId)
  /-- About to return. -/
  | done (answer : Answer RegId)
  | returned (answer : Answer RegId)

structure OpCall (UUri Listener : Type) where
  op : RegistryOp UUri Listener
  pc : OpPc

/-- What an operation does under the lock of the table, and where it goes on
    from there. -/
def Registry.enter [DecidableEq UUri] [UriMatches UUri] [DecidableEq Listener]
    (registry : Registry UUri Listener) :
    RegistryOp UUri Listener → Registry UUri Listener × OpPc
  | .register source sink listener =>
    match registry.register source sink listener with
    | .error status => (registry, .done (.result (.error status)))
    | .ok registry => (registry, .done (.result (.ok ())))
  | .unregister source sink listener =>
    match registry.remove source sink listener with
    | .error status => (registry, .done (.result (.error status)))
    | .ok (r, registry) => (registry, .deactivating [r])
  | .matching source sink => (registry, .done (.entries (registry.matching source sink)))
  | .deactivateAll => (registry.takeEntries, .deactivating registry.entries)

/-! ### Guards -/

/-- Where an `InFlight` guard is. -/
inductive Place where
  /-- In the job closure that called `begin`. -/
  | closure
  /-- In a future that has not been polled. -/
  | future
  /-- In a future that has been polled. -/
  | callback
  deriving DecidableEq, Repr

/-- A live `InFlight` guard. -/
structure InFlight where
  reg : RegId
  place : Place
  deriving DecidableEq, Repr

/-- A guard only moves on: into a future, and with it to a worker. -/
def Place.next : Place → Option Place
  | .closure => some .future
  | .future => some .callback
  | .callback => none

/-! ### State and steps -/

structure Shared (UUri Listener : Type) where
  registry : Registry UUri Listener
  calls : List (OpCall UUri Listener)
  guards : List InFlight

/-- `Registry::default`, before any call. -/
def Shared.start : Shared UUri Listener := ⟨Registry.empty, [], []⟩

inductive SharedLabel (UUri Listener : Type) where
  /-- A thread calls the registry. -/
  | invoke (op : RegistryOp UUri Listener)
  /-- Call `c` enters its next critical section. -/
  | advance (c : Nat)
  /-- Call `c` wakes up from the condition variable without a notification. -/
  | wake (c : Nat)
  /-- Call `c` returns. -/
  | respond (c : Nat)
  /-- A thread that holds registration `r` begins a callback. -/
  | begin (r : RegId)
  /-- Guard `g` moves on. -/
  | hand (g : Nat)
  /-- Guard `g` is dropped: its callback has returned or unwound, or what
      holds it is dropped, aborted or never polled. -/
  | drop (g : Nat)

/-- `idle.notify_all` of registration `r`. -/
def OpPc.notify (r : RegId) : OpPc → OpPc
  | .asleep r' regs => if r' = r then .awake r' regs else .asleep r' regs
  | pc => pc

namespace Shared

/-- Call `c` moves to `pc`. -/
@[simps] def setPc (s : Shared UUri Listener) (c : Nat) (pc : OpPc) : Shared UUri Listener :=
  { s with calls := s.calls.modify c fun call => { call with pc := pc } }

/-- The loop condition of `deactivate_and_wait`, under the lock of `r`. -/
def waitOn (s : Shared UUri Listener) (r : RegId) (regs : List RegId) : OpPc :=
  if s.registry.inFlight r = 0 then .deactivating regs else .asleep r regs

/-- The next critical section of a call. -/
def advance [DecidableEq UUri] [UriMatches UUri] [DecidableEq Listener]
    (s : Shared UUri Listener) (c : Nat) : Option (Shared UUri Listener) :=
  match s.calls[c]? with
  | some ⟨op, .invoked⟩ =>
    let (registry, pc) := s.registry.enter op
    some ({ s with registry := registry }.setPc c pc)
  | some ⟨_, .deactivating []⟩ => some (s.setPc c (.done (.result (.ok ()))))
  | some ⟨_, .deactivating (r :: regs)⟩ =>
    some ({ s with registry := s.registry.deactivate r }.setPc c (s.waitOn r regs))
  | some ⟨_, .awake r regs⟩ => some (s.setPc c (s.waitOn r regs))
  | _ => none

/-- `InFlight::drop`. -/
def dropGuard (s : Shared UUri Listener) (g : Nat) : Option (Shared UUri Listener) :=
  match s.guards[g]? with
  | some guard =>
    let registry := s.registry.release guard.reg
    let calls :=
      if registry.inFlight guard.reg = 0 then
        s.calls.map fun call => { call with pc := call.pc.notify guard.reg }
      else
        s.calls
    some { registry := registry, calls := calls, guards := s.guards.eraseIdx g }
  | none => none

def next [DecidableEq UUri] [UriMatches UUri] [DecidableEq Listener]
    (s : Shared UUri Listener) : SharedLabel UUri Listener → Option (Shared UUri Listener)
  | .invoke op => some { s with calls := s.calls ++ [⟨op, .invoked⟩] }
  | .advance c => s.advance c
  | .wake c =>
    match s.calls[c]? with
    | some ⟨_, .asleep r regs⟩ => some (s.setPc c (.awake r regs))
    | _ => none
  | .respond c =>
    match s.calls[c]? with
    | some ⟨_, .done answer⟩ => some (s.setPc c (.returned answer))
    | _ => none
  | .begin r =>
    (s.registry.begin r).map fun registry =>
      { s with registry := registry, guards := s.guards ++ [⟨r, .closure⟩] }
  | .hand g =>
    match s.guards[g]? with
    | some guard =>
      guard.place.next.map fun place =>
        { s with guards := s.guards.set g { guard with place := place } }
    | none => none
  | .drop g => s.dropGuard g

/-- A call is where it was, or the one that moved. -/
theorem of_mem_setPc {s : Shared UUri Listener} {c : Nat} {pc : OpPc}
    {call : OpCall UUri Listener} (h : call ∈ (s.setPc c pc).calls) :
    call.pc = pc ∨ call ∈ s.calls := by
  obtain ⟨i, hi⟩ := List.mem_iff_getElem?.mp h
  rw [setPc_calls, List.getElem?_modify] at hi
  obtain ⟨old, hold, rfl⟩ := Option.map_eq_some_iff.mp hi
  by_cases hc : c = i
  · left
    simp [hc]
  · right
    simpa [hc] using List.mem_of_getElem? hold

end Shared

/-- The registry, shared by any number of threads. -/
def sharedRegistry [DecidableEq UUri] [UriMatches UUri] [DecidableEq Listener] :
    System (Shared UUri Listener) (SharedLabel UUri Listener) :=
  ofNext (· = Shared.start) Shared.next

/-- A shared registry of topics. -/
abbrev topicRegistry : System (Shared Topic Nat) (SharedLabel Topic Nat) := sharedRegistry

/-! ### Rules -/

variable [DecidableEq UUri] [UriMatches UUri] [DecidableEq Listener]

/-- The transitions of a shared registry. -/
inductive Shared.Step (s : Shared UUri Listener) :
    SharedLabel UUri Listener → Shared UUri Listener → Prop where
  | invoke (op : RegistryOp UUri Listener) :
      Step s (.invoke op) { s with calls := s.calls ++ [⟨op, .invoked⟩] }
  | enter (c : Nat) {op : RegistryOp UUri Listener} (hcall : s.calls[c]? = some ⟨op, .invoked⟩) :
      Step s (.advance c)
        ({ s with registry := (s.registry.enter op).1 }.setPc c (s.registry.enter op).2)
  | finish (c : Nat) {op : RegistryOp UUri Listener}
      (hcall : s.calls[c]? = some ⟨op, .deactivating []⟩) :
      Step s (.advance c) (s.setPc c (.done (.result (.ok ()))))
  | deactivate (c : Nat) {op : RegistryOp UUri Listener} {r : RegId} {regs : List RegId}
      (hcall : s.calls[c]? = some ⟨op, .deactivating (r :: regs)⟩) :
      Step s (.advance c)
        ({ s with registry := s.registry.deactivate r }.setPc c (s.waitOn r regs))
  | recheck (c : Nat) {op : RegistryOp UUri Listener} {r : RegId} {regs : List RegId}
      (hcall : s.calls[c]? = some ⟨op, .awake r regs⟩) :
      Step s (.advance c) (s.setPc c (s.waitOn r regs))
  | wake (c : Nat) {op : RegistryOp UUri Listener} {r : RegId} {regs : List RegId}
      (hcall : s.calls[c]? = some ⟨op, .asleep r regs⟩) :
      Step s (.wake c) (s.setPc c (.awake r regs))
  | respond (c : Nat) {op : RegistryOp UUri Listener} {answer : Answer RegId}
      (hcall : s.calls[c]? = some ⟨op, .done answer⟩) :
      Step s (.respond c) (s.setPc c (.returned answer))
  | begin (r : RegId) {registry : Registry UUri Listener}
      (hbegin : s.registry.begin r = some registry) :
      Step s (.begin r) { s with registry := registry, guards := s.guards ++ [⟨r, .closure⟩] }
  | hand (g : Nat) {guard : InFlight} {place : Place} (hguard : s.guards[g]? = some guard)
      (hplace : guard.place.next = some place) :
      Step s (.hand g) { s with guards := s.guards.set g { guard with place := place } }
  | drop (g : Nat) {guard : InFlight} (hguard : s.guards[g]? = some guard)
      (hbusy : (s.registry.release guard.reg).inFlight guard.reg ≠ 0) :
      Step s (.drop g)
        { registry := s.registry.release guard.reg
          calls := s.calls
          guards := s.guards.eraseIdx g }
  | dropLast (g : Nat) {guard : InFlight} (hguard : s.guards[g]? = some guard)
      (hidle : (s.registry.release guard.reg).inFlight guard.reg = 0) :
      Step s (.drop g)
        { registry := s.registry.release guard.reg
          calls := s.calls.map fun call => { call with pc := call.pc.notify guard.reg }
          guards := s.guards.eraseIdx g }

namespace Shared.Step

variable {s s' : Shared UUri Listener} {l : SharedLabel UUri Listener}

theorem of_advance {c : Nat} (h : s.advance c = some s') : Step s (.advance c) s' := by
  unfold Shared.advance at h
  split at h
  · obtain rfl := Option.some.inj h
    exact .enter c ‹_›
  · obtain rfl := Option.some.inj h
    exact .finish c ‹_›
  · obtain rfl := Option.some.inj h
    exact .deactivate c ‹_›
  · obtain rfl := Option.some.inj h
    exact .recheck c ‹_›
  · contradiction

theorem of_dropGuard {g : Nat} (h : s.dropGuard g = some s') : Step s (.drop g) s' := by
  unfold Shared.dropGuard at h
  split at h
  · rename_i hguard
    obtain rfl := Option.some.inj h
    split
    · exact .dropLast g hguard ‹_›
    · exact .drop g hguard ‹_›
  · contradiction

/-- Every step of the transition function follows one of the rules. -/
theorem of_next (h : s.next l = some s') : Step s l s' := by
  cases l with
  | invoke op =>
    obtain rfl := Option.some.inj h
    exact .invoke op
  | advance c => exact of_advance h
  | wake c =>
    simp only [Shared.next] at h
    split at h
    · obtain rfl := Option.some.inj h
      exact .wake c ‹_›
    · contradiction
  | respond c =>
    simp only [Shared.next] at h
    split at h
    · obtain rfl := Option.some.inj h
      exact .respond c ‹_›
    · contradiction
  | begin r =>
    obtain ⟨registry, hbegin, rfl⟩ := Option.map_eq_some_iff.mp h
    exact .begin r hbegin
  | hand g =>
    simp only [Shared.next] at h
    split at h
    · obtain ⟨place, hplace, rfl⟩ := Option.map_eq_some_iff.mp h
      exact .hand g ‹_› hplace
    · contradiction
  | drop g => exact of_dropGuard h

end Shared.Step

end UpTransportDds
