import Mathlib.Data.List.Perm.Basic
import UpTransportDds.Runtime.Registry

/-! # Keys of registrations

  A registration is created for a key: its two filters and its listener. The
  key never changes. Seen as a list of keys, the table does not depend on the
  addresses of its registrations any more.
-/

namespace UpTransportDds

variable {UUri Listener : Type}

/-! ### Keys -/

/-- What two registrations may not have in common. -/
structure RegKey (UUri Listener : Type) where
  source : UUri
  sink : Option UUri
  listener : Listener
  deriving DecidableEq, Repr

/-- A filter without a sink accepts messages without one; a filter with a sink
    those with a sink that it matches. -/
def RegKey.accepts [UriMatches UUri] (key : RegKey UUri Listener) (source : UUri)
    (sink : Option UUri) : Bool :=
  uriMatches key.source source &&
    match key.sink, sink with
    | none, none => true
    | some filter, some value => uriMatches filter value
    | _, _ => false

def Registration.key (entry : Registration UUri Listener) : RegKey UUri Listener :=
  ⟨entry.source, entry.sink, entry.listener⟩

/-! ### The keys of a registry -/

namespace Registry

/-- The key of each registration, by address. -/
def keys (registry : Registry UUri Listener) : List (RegKey UUri Listener) :=
  registry.heap.map Registration.key

def keyOf (registry : Registry UUri Listener) (r : RegId) : Option (RegKey UUri Listener) :=
  registry.keys[r]?

/-- The table, as a list of keys. -/
def table (registry : Registry UUri Listener) : List (RegKey UUri Listener) :=
  registry.entries.filterMap registry.keyOf

/-- The table refers to registrations that exist. -/
def Within (registry : Registry UUri Listener) (regs : List RegId) : Prop :=
  ∀ r ∈ regs, r < registry.heap.length

section keys
variable {registry registry' : Registry UUri Listener} {r : RegId} {regs : List RegId}

@[simp] theorem keys_length : registry.keys.length = registry.heap.length :=
  List.length_map _

theorem keyOf_eq : registry.keyOf r = (registry.heap[r]?).map Registration.key :=
  List.getElem?_map

@[simp] theorem keys_deactivate : (registry.deactivate r).keys = registry.keys := by
  apply List.ext_getElem?
  intro i
  cases h : registry.heap[i]? <;> by_cases hr : r = i <;>
    simp [keys, deactivate, Registration.key, h, hr]

@[simp] theorem keys_release : (registry.release r).keys = registry.keys := by
  apply List.ext_getElem?
  intro i
  cases h : registry.heap[i]? <;> by_cases hr : r = i <;>
    simp [keys, release, Registration.key, h, hr]

theorem keys_begin (h : registry.begin r = some registry') : registry'.keys = registry.keys := by
  unfold begin at h
  split at h
  · obtain rfl := Option.some.inj h
    apply List.ext_getElem?
    intro i
    cases h : registry.heap[i]? <;> by_cases hr : r = i <;>
      simp [keys, Registration.key, h, hr]
  · contradiction

/-- Registrations keep their keys while others are added. -/
theorem filterMap_keyOf (hkeys : registry.keys <+: registry'.keys) (h : registry.Within regs) :
    regs.filterMap registry'.keyOf = regs.filterMap registry.keyOf := by
  apply List.filterMap_congr
  intro r hr
  have hlt : r < registry.keys.length := by
    rw [keys_length]
    exact h r hr
  rw [keyOf, keyOf, List.getElem?_eq_getElem hlt]
  exact List.prefix_iff_getElem?.mp hkeys r hlt

theorem Within.mono (h : registry.Within regs) (hkeys : registry.keys <+: registry'.keys) :
    registry'.Within regs := by
  intro r hr
  have hle := hkeys.length_le
  rw [keys_length, keys_length] at hle
  exact Nat.lt_of_lt_of_le (h r hr) hle

end keys

section matching
variable [UriMatches UUri] {registry : Registry UUri Listener} {r : RegId} {source : UUri}
  {sink : Option UUri}

theorem accepts_eq :
    registry.accepts source sink r = (registry.keyOf r).any (·.accepts source sink) := by
  rw [keyOf_eq, accepts]
  cases registry.heap[r]? <;> rfl

theorem table_matching :
    (registry.matching source sink).filterMap registry.keyOf =
      registry.table.filter (·.accepts source sink) := by
  rw [matching, table, List.filter_filterMap, List.filterMap_filter]
  apply List.filterMap_congr
  intro r _
  rw [accepts_eq]
  cases registry.keyOf r with
  | none => rfl
  | some key => simp [Option.filter]

end matching

section tables
variable [DecidableEq UUri] [DecidableEq Listener]
variable {registry registry' : Registry UUri Listener} {r : RegId} {source : UUri}
  {sink : Option UUri} {listener : Listener}

theorem isFor_iff :
    registry.isFor source sink listener r = true ↔
      registry.keyOf r = some ⟨source, sink, listener⟩ := by
  rw [keyOf_eq, isFor]
  cases registry.heap[r]? with
  | none => simp
  | some entry => simp [Registration.isFor, Registration.key, and_assoc]

/-- `register` and `unregister` look for the key. -/
theorem any_isFor :
    registry.entries.any (registry.isFor source sink listener) = true ↔
      (⟨source, sink, listener⟩ : RegKey UUri Listener) ∈ registry.table := by
  rw [List.any_eq_true, table, List.mem_filterMap]
  constructor
  · rintro ⟨r, hr, hfor⟩
    exact ⟨r, hr, isFor_iff.mp hfor⟩
  · rintro ⟨r, hr, hkey⟩
    exact ⟨r, hr, isFor_iff.mpr hkey⟩

/-- A registration is new to the table exactly if its key is. -/
theorem register_error (h : (⟨source, sink, listener⟩ : RegKey UUri Listener) ∈ registry.table) :
    registry.register source sink listener =
      .error ⟨.alreadyExists, "listener is already registered"⟩ := by
  rw [register, if_pos (any_isFor.mpr h)]

theorem register_fresh (h : (⟨source, sink, listener⟩ : RegKey UUri Listener) ∉ registry.table) :
    ∃ registry', registry.register source sink listener = .ok registry' := by
  rw [register, if_neg (mt any_isFor.mp h)]
  exact ⟨_, rfl⟩

theorem keys_register (h : registry.register source sink listener = .ok registry') :
    registry'.keys = registry.keys ++ [⟨source, sink, listener⟩] := by
  rw [keys, (register_ok h).2.1, List.map_append]
  rfl

theorem table_register (hwithin : registry.Within registry.entries)
    (h : registry.register source sink listener = .ok registry') :
    registry'.table = registry.table ++ [⟨source, sink, listener⟩] := by
  have hkeys := keys_register h
  have hnew : registry'.keyOf registry.heap.length = some ⟨source, sink, listener⟩ := by
    rw [keyOf, hkeys, ← keys_length, List.getElem?_concat_length]
  rw [table, (register_ok h).2.2, List.filterMap_append,
    filterMap_keyOf (hkeys ▸ List.prefix_append _ _) hwithin]
  simp [hnew, table]

theorem remove_error (h : (⟨source, sink, listener⟩ : RegKey UUri Listener) ∉ registry.table) :
    registry.remove source sink listener =
      .error ⟨.notFound, "listener is not registered"⟩ := by
  have hnone : registry.entries.find? (registry.isFor source sink listener) = none := by
    rw [List.find?_eq_none]
    intro r hr hfor
    exact h (any_isFor.mp (List.any_eq_true.mpr ⟨r, hr, hfor⟩))
  rw [remove, hnone]

theorem remove_present (h : (⟨source, sink, listener⟩ : RegKey UUri Listener) ∈ registry.table) :
    ∃ r registry', registry.remove source sink listener = .ok (r, registry') := by
  obtain ⟨r, hr, hfor⟩ := List.any_eq_true.mp (any_isFor.mpr h)
  obtain ⟨r', hfind⟩ := Option.isSome_iff_exists.mp (List.find?_isSome.mpr ⟨r, hr, hfor⟩)
  rw [remove, hfind]
  exact ⟨_, _, rfl⟩

theorem keys_remove (h : registry.remove source sink listener = .ok (r, registry')) :
    registry'.keys = registry.keys := by
  rw [keys, keys, (remove_ok h).2.2.1]

theorem table_remove (h : registry.remove source sink listener = .ok (r, registry')) :
    registry'.table = registry.table.erase ⟨source, sink, listener⟩ := by
  have hkeys : registry'.keyOf = registry.keyOf := by
    funext r
    rw [keyOf, keyOf, keys_remove h]
  have hfor : registry.isFor source sink listener =
      fun r => (registry.keyOf r).any (· == ⟨source, sink, listener⟩) := by
    funext r
    rw [Bool.eq_iff_iff, isFor_iff]
    cases registry.keyOf r <;> simp
  rw [table, (remove_ok h).2.2.2, hkeys, table, List.erase_eq_eraseP', List.eraseP_filterMap, hfor]
  congr 2

end tables

end Registry

end UpTransportDds
