import UpTransportDds.Runtime.Config
import Mathlib.Data.List.Basic

/-! # Registrations and the registry

  A `Registration` is created by `register` and shared from then on: the
  table (`entries`) refers to it, and so do the poller's snapshots and the
  queued jobs. The table therefore holds addresses (`RegId`), and the
  registrations themselves live in a heap that only ever grows.

  Every function below is one critical section: the write or read lock of
  `entries`, or the mutex of one registration's state.
-/

namespace UpTransportDds

/-- `UUri::matches` of up-rust: does a filter match a concrete URI? -/
class UriMatches (UUri : Type) where
  uriMatches : UUri → UUri → Bool

export UriMatches (uriMatches)

/-- A topic number in the place of a URI; a filter matches its own topic. -/
structure Topic where
  number : Nat
  deriving DecidableEq, Repr

instance : UriMatches Topic := ⟨fun filter topic => filter = topic⟩

/-- The address of a registration. -/
abbrev RegId := Nat

/-! ### Registrations -/

/-- `Registration`, with the fields of its `RegistrationState`. -/
structure Registration (UUri Listener : Type) where
  source : UUri
  sink : Option UUri
  listener : Listener
  active : Bool
  inFlight : Nat
  deriving DecidableEq, Repr

variable {UUri Listener : Type}

/-- A registration as `register` creates it. -/
def Registration.create (source : UUri) (sink : Option UUri) (listener : Listener) :
    Registration UUri Listener :=
  ⟨source, sink, listener, true, 0⟩

/-- The comparison of `register` and `unregister`: both filters equal and the
    same listener object. -/
def Registration.isFor [DecidableEq UUri] [DecidableEq Listener]
    (entry : Registration UUri Listener) (source : UUri) (sink : Option UUri)
    (listener : Listener) : Bool :=
  entry.source = source && entry.sink = sink && entry.listener = listener

/-- The filter of `matching`. -/
def Registration.accepts [UriMatches UUri] (entry : Registration UUri Listener)
    (source : UUri) (sink : Option UUri) : Bool :=
  uriMatches entry.source source &&
    match entry.sink, sink with
    | none, none => true
    | some filter, some value => uriMatches filter value
    | _, _ => false

/-! ### The registry -/

/-- `Registry`: the table, and the registrations its addresses refer to. -/
structure Registry (UUri Listener : Type) where
  /-- Every registration ever created, by address. -/
  heap : List (Registration UUri Listener)
  /-- The table, in the order of its `Vec`. -/
  entries : List RegId
  deriving DecidableEq, Repr

namespace Registry

/-- `Registry::default`. -/
def empty : Registry UUri Listener := ⟨[], []⟩

/-- The `active` flag of a registration. -/
def active (registry : Registry UUri Listener) (r : RegId) : Bool :=
  (registry.heap[r]?).elim false (·.active)

/-- The `in_flight` counter of a registration. -/
def inFlight (registry : Registry UUri Listener) (r : RegId) : Nat :=
  (registry.heap[r]?).elim 0 (·.inFlight)

/-- Is `r` registered for exactly these filters and this listener? -/
def isFor [DecidableEq UUri] [DecidableEq Listener] (registry : Registry UUri Listener)
    (source : UUri) (sink : Option UUri) (listener : Listener) (r : RegId) : Bool :=
  (registry.heap[r]?).any (·.isFor source sink listener)

/-- Does `r` accept a message with this source and sink? -/
def accepts [UriMatches UUri] (registry : Registry UUri Listener) (source : UUri)
    (sink : Option UUri) (r : RegId) : Bool :=
  (registry.heap[r]?).any (·.accepts source sink)

/-- `Registry::register`. -/
def register [DecidableEq UUri] [DecidableEq Listener] (registry : Registry UUri Listener)
    (source : UUri) (sink : Option UUri) (listener : Listener) :
    Except UStatus (Registry UUri Listener) :=
  if registry.entries.any (registry.isFor source sink listener) then
    .error ⟨.alreadyExists, "listener is already registered"⟩
  else
    .ok { heap := registry.heap ++ [Registration.create source sink listener]
          entries := registry.entries ++ [registry.heap.length] }

/-- The critical section of `Registry::unregister`: the first entry for the
    key is removed from the table and returned. -/
def remove [DecidableEq UUri] [DecidableEq Listener] (registry : Registry UUri Listener)
    (source : UUri) (sink : Option UUri) (listener : Listener) :
    Except UStatus (RegId × Registry UUri Listener) :=
  match registry.entries.find? (registry.isFor source sink listener) with
  | none => .error ⟨.notFound, "listener is not registered"⟩
  | some r => .ok (r, { registry with
      entries := registry.entries.eraseP (registry.isFor source sink listener) })

/-- `Registry::matching`. -/
def matching [UriMatches UUri] (registry : Registry UUri Listener) (source : UUri)
    (sink : Option UUri) : List RegId :=
  registry.entries.filter (registry.accepts source sink)

/-- The critical section of `Registry::deactivate_all`: `mem::take`. -/
def takeEntries (registry : Registry UUri Listener) : Registry UUri Listener :=
  { registry with entries := [] }

/-- `Registration::begin`. -/
def begin (registry : Registry UUri Listener) (r : RegId) : Option (Registry UUri Listener) :=
  if registry.active r then
    some { registry with
      heap := registry.heap.modify r fun entry => { entry with inFlight := entry.inFlight + 1 } }
  else
    none

/-- The first half of `Registration::deactivate_and_wait`. -/
def deactivate (registry : Registry UUri Listener) (r : RegId) : Registry UUri Listener :=
  { registry with heap := registry.heap.modify r fun entry => { entry with active := false } }

/-- `InFlight::drop`, but for the notification. -/
def release (registry : Registry UUri Listener) (r : RegId) : Registry UUri Listener :=
  { registry with
    heap := registry.heap.modify r fun entry => { entry with inFlight := entry.inFlight - 1 } }

/-- `r` was created and has been deactivated. -/
def Inactive (registry : Registry UUri Listener) (r : RegId) : Prop :=
  r < registry.heap.length ∧ registry.active r = false

/-- `r` is inactive and has no callback in flight. -/
def Quiesced (registry : Registry UUri Listener) (r : RegId) : Prop :=
  registry.Inactive r ∧ registry.inFlight r = 0

/-- What time does to a registry: registrations stay, a deactivated one is
    never activated again and its counter never goes up again. -/
structure Evolves (registry registry' : Registry UUri Listener) : Prop where
  length_le : registry.heap.length ≤ registry'.heap.length
  inactive : ∀ r, registry.Inactive r → registry'.active r = false
  inFlight_le : ∀ r, registry.Inactive r → registry'.inFlight r ≤ registry.inFlight r

/-! ### What each operation does to flags and counters -/

section effects
variable (registry : Registry UUri Listener) (r r' : RegId)

theorem active_lt {registry : Registry UUri Listener} {r : RegId}
    (h : registry.active r = true) : r < registry.heap.length := by
  by_contra hlt
  simp [active, List.getElem?_eq_none (Nat.not_lt.mp hlt)] at h

theorem lt_of_inFlight {registry : Registry UUri Listener} {r : RegId}
    (h : registry.inFlight r ≠ 0) : r < registry.heap.length := by
  by_contra hlt
  simp [inFlight, List.getElem?_eq_none (Nat.not_lt.mp hlt)] at h

@[simp] theorem active_deactivate :
    (registry.deactivate r).active r' = (registry.active r' && decide (r ≠ r')) := by
  unfold active deactivate
  cases h : registry.heap[r']? <;> by_cases hr : r = r' <;> simp [h, hr]

@[simp] theorem inFlight_deactivate :
    (registry.deactivate r).inFlight r' = registry.inFlight r' := by
  unfold inFlight deactivate
  cases h : registry.heap[r']? <;> by_cases hr : r = r' <;> simp [h, hr]

@[simp] theorem active_release : (registry.release r).active r' = registry.active r' := by
  unfold active release
  cases h : registry.heap[r']? <;> by_cases hr : r = r' <;> simp [h, hr]

@[simp] theorem inFlight_release :
    (registry.release r).inFlight r' =
      if r = r' then registry.inFlight r - 1 else registry.inFlight r' := by
  unfold inFlight release
  by_cases hr : r = r'
  · subst hr
    cases h : registry.heap[r]? <;> simp [h]
  · cases h : registry.heap[r']? <;> simp [h, hr]

@[simp] theorem active_takeEntries : registry.takeEntries.active r = registry.active r := rfl

@[simp] theorem inFlight_takeEntries : registry.takeEntries.inFlight r = registry.inFlight r := rfl

variable {registry registry' : Registry UUri Listener} {r r' : RegId}

theorem begin_active (h : registry.begin r = some registry') : registry.active r = true := by
  unfold begin at h
  split at h
  · assumption
  · contradiction

theorem active_begin (h : registry.begin r = some registry') :
    registry'.active r' = registry.active r' := by
  unfold begin at h
  split at h
  · obtain rfl := Option.some.inj h
    unfold active
    cases h : registry.heap[r']? <;> by_cases hr : r = r' <;> simp [h, hr]
  · contradiction

theorem inFlight_begin (h : registry.begin r = some registry') :
    registry'.inFlight r' = registry.inFlight r' + if r = r' then 1 else 0 := by
  have hlt := active_lt (begin_active h)
  unfold begin at h
  split at h
  · obtain rfl := Option.some.inj h
    unfold inFlight
    by_cases hr : r = r'
    · subst hr
      simp [List.getElem?_eq_getElem hlt]
    · cases h : registry.heap[r']? <;> simp [h, hr]
  · contradiction

theorem entries_begin (h : registry.begin r = some registry') :
    registry'.entries = registry.entries := by
  unfold begin at h
  split at h
  · obtain rfl := Option.some.inj h; rfl
  · contradiction

theorem heap_length_begin (h : registry.begin r = some registry') :
    registry'.heap.length = registry.heap.length := by
  unfold begin at h
  split at h
  · obtain rfl := Option.some.inj h; simp
  · contradiction

@[simp] theorem heap_length_deactivate :
    (registry.deactivate r).heap.length = registry.heap.length := by
  simp [deactivate]

@[simp] theorem heap_length_release :
    (registry.release r).heap.length = registry.heap.length := by
  simp [release]

end effects

/-! ### Registering and removing -/

section table
variable [DecidableEq UUri] [DecidableEq Listener]
variable {registry registry' : Registry UUri Listener} {source : UUri} {sink : Option UUri}
  {listener : Listener} {r r' : RegId}

/-- What a successful `register` does. -/
theorem register_ok (h : registry.register source sink listener = .ok registry') :
    registry.entries.any (registry.isFor source sink listener) = false ∧
    registry'.heap = registry.heap ++ [Registration.create source sink listener] ∧
    registry'.entries = registry.entries ++ [registry.heap.length] := by
  unfold register at h
  split at h
  · contradiction
  · rename_i hfresh
    obtain rfl := Except.ok.inj h
    exact ⟨by simpa using hfresh, rfl, rfl⟩

/-- What a successful removal does. -/
theorem remove_ok (h : registry.remove source sink listener = .ok (r, registry')) :
    r ∈ registry.entries ∧ registry.isFor source sink listener r = true ∧
    registry'.heap = registry.heap ∧
    registry'.entries = registry.entries.eraseP (registry.isFor source sink listener) := by
  unfold remove at h
  split at h
  · contradiction
  · rename_i hfind
    simp only [Except.ok.injEq, Prod.mk.injEq] at h
    obtain ⟨rfl, rfl⟩ := h
    exact ⟨List.mem_of_find?_eq_some hfind, List.find?_some hfind, rfl, rfl⟩

/-- A successful removal takes the first entry for the key. -/
theorem find?_of_remove (h : registry.remove source sink listener = .ok (r, registry')) :
    registry.entries.find? (registry.isFor source sink listener) = some r := by
  unfold remove at h
  split at h
  · contradiction
  · rename_i hfind
    simp only [Except.ok.injEq, Prod.mk.injEq] at h
    rw [hfind, h.1]

theorem active_register (h : registry.register source sink listener = .ok registry') :
    registry'.active r = (registry.active r || decide (r = registry.heap.length)) := by
  obtain ⟨_, hheap, _⟩ := register_ok h
  unfold active
  rw [hheap, List.getElem?_append]
  by_cases hlt : r < registry.heap.length
  · simp [hlt, Nat.ne_of_lt hlt]
  · rw [if_neg hlt, List.getElem?_eq_none (Nat.not_lt.mp hlt)]
    by_cases heq : r = registry.heap.length
    · simp [Registration.create, heq]
    · have hout : r - registry.heap.length ≠ 0 :=
        Nat.sub_ne_zero_of_lt (Nat.lt_of_le_of_ne (Nat.not_lt.mp hlt) (Ne.symm heq))
      simp [heq, hout]

theorem inFlight_register (h : registry.register source sink listener = .ok registry') :
    registry'.inFlight r = registry.inFlight r := by
  obtain ⟨_, hheap, _⟩ := register_ok h
  unfold inFlight
  rw [hheap, List.getElem?_append]
  by_cases hlt : r < registry.heap.length
  · simp [hlt]
  · rw [if_neg hlt, List.getElem?_eq_none (Nat.not_lt.mp hlt)]
    cases hr : r - registry.heap.length <;> simp [Registration.create]

theorem inFlight_remove (h : registry.remove source sink listener = .ok (r, registry')) :
    registry'.inFlight r' = registry.inFlight r' := by
  obtain ⟨_, _, hheap, _⟩ := remove_ok h
  simp only [inFlight, hheap]

end table

/-! ### Registries evolve -/

section evolution
variable {registry registry' registry'' : Registry UUri Listener} {r : RegId}

theorem Evolves.refl (registry : Registry UUri Listener) : registry.Evolves registry :=
  ⟨Nat.le_refl _, fun _ h => h.2, fun _ _ => Nat.le_refl _⟩

theorem Evolves.inactive_mono (h : registry.Evolves registry') (hr : registry.Inactive r) :
    registry'.Inactive r :=
  ⟨Nat.lt_of_lt_of_le hr.1 h.length_le, h.inactive r hr⟩

/-- A quiesced registration stays quiesced. -/
theorem Evolves.quiesced (h : registry.Evolves registry') (hr : registry.Quiesced r) :
    registry'.Quiesced r :=
  ⟨h.inactive_mono hr.1, Nat.le_zero.mp (hr.2 ▸ h.inFlight_le r hr.1)⟩

theorem Evolves.trans (h : registry.Evolves registry') (h' : registry'.Evolves registry'') :
    registry.Evolves registry'' where
  length_le := Nat.le_trans h.length_le h'.length_le
  inactive := fun r hr => h'.inactive r (h.inactive_mono hr)
  inFlight_le := fun r hr =>
    Nat.le_trans (h'.inFlight_le r (h.inactive_mono hr)) (h.inFlight_le r hr)

/-- A registry with the same registrations. -/
theorem evolves_of_heap (h : registry'.heap = registry.heap) : registry.Evolves registry' := by
  refine ⟨Nat.le_of_eq (by rw [h]), fun r hr => ?_, fun r _ => ?_⟩
  · have := hr.2
    simpa only [active, h] using this
  · simp only [inFlight, h, Nat.le_refl]

theorem evolves_deactivate (registry : Registry UUri Listener) (r : RegId) :
    registry.Evolves (registry.deactivate r) where
  length_le := by simp
  inactive := fun r' hr => by simp [hr.2]
  inFlight_le := fun r' _ => by simp

theorem evolves_release (registry : Registry UUri Listener) (r : RegId) :
    registry.Evolves (registry.release r) where
  length_le := by simp
  inactive := fun r' hr => by simpa using hr.2
  inFlight_le := fun r' _ => by
    rw [inFlight_release]
    split
    · rename_i heq
      subst heq
      exact Nat.sub_le _ _
    · exact Nat.le_refl _

theorem evolves_begin (h : registry.begin r = some registry') : registry.Evolves registry' where
  length_le := Nat.le_of_eq (heap_length_begin h).symm
  inactive := fun r' hr => by rw [active_begin h, hr.2]
  inFlight_le := fun r' hr => by
    have hne : r ≠ r' := by
      rintro rfl
      have := begin_active h
      rw [hr.2] at this
      contradiction
    rw [inFlight_begin h, if_neg hne]
    exact Nat.le_refl _

theorem evolves_register [DecidableEq UUri] [DecidableEq Listener] {source : UUri}
    {sink : Option UUri} {listener : Listener}
    (h : registry.register source sink listener = .ok registry') :
    registry.Evolves registry' where
  length_le := by
    rw [(register_ok h).2.1]
    simp
  inactive := fun r' hr => by
    rw [active_register h, hr.2]
    simpa using Nat.ne_of_lt hr.1
  inFlight_le := fun r' _ => Nat.le_of_eq (inFlight_register h)

end evolution

end Registry

end UpTransportDds
