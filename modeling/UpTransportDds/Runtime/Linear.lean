import UpTransportDds.Framework.Flow
import UpTransportDds.Framework.Linearizable
import UpTransportDds.Runtime.Keys
import UpTransportDds.Runtime.Shared

/-! # The registry linearizes

  Seen from outside, a registry is a list of keys without repetition, in the
  order in which they were registered. Every operation works on this list at
  one moment: the critical section under the lock of the table. What
  `unregister` and `deactivate_all` do after it, one registration at a time,
  does not show.
-/

namespace UpTransportDds

open LTS

variable {UUri Listener : Type}

/-! ### The specification -/

/-- A set of keys that remembers the order of insertion. -/
def tableObject [DecidableEq UUri] [UriMatches UUri] [DecidableEq Listener] :
    Object (List (RegKey UUri Listener)) (RegistryOp UUri Listener)
      (Answer (RegKey UUri Listener)) where
  init := []
  apply
    | table, .register source sink listener =>
      if ⟨source, sink, listener⟩ ∈ table then
        (table, .result (.error ⟨.alreadyExists, "listener is already registered"⟩))
      else
        (table ++ [⟨source, sink, listener⟩], .result (.ok ()))
    | table, .unregister source sink listener =>
      if ⟨source, sink, listener⟩ ∈ table then
        (table.erase ⟨source, sink, listener⟩, .result (.ok ()))
      else
        (table, .result (.error ⟨.notFound, "listener is not registered"⟩))
    | table, .matching source sink =>
      (table, .entries (table.filter (·.accepts source sink)))
    | _, .deactivateAll => ([], .result (.ok ()))

section specification
variable [DecidableEq UUri] [UriMatches UUri] [DecidableEq Listener]
variable {table table' : List (RegKey UUri Listener)}

theorem nodup_apply (h : table.Nodup) (op : RegistryOp UUri Listener) :
    (tableObject.apply table op).1.Nodup := by
  cases op with
  | register source sink listener =>
    simp only [tableObject]
    split
    · exact h
    · rename_i hfresh
      exact List.nodup_append.mpr ⟨h, List.nodup_singleton _, by
        intro key hkey key' hkey'
        rw [List.mem_singleton.mp hkey']
        rintro rfl
        exact hfresh hkey⟩
  | unregister source sink listener =>
    simp only [tableObject]
    split
    · exact h.erase _
    · exact h
  | matching source sink => exact h
  | deactivateAll => exact List.nodup_nil

theorem nodup_of_legal
    {order : List (Effect (RegistryOp UUri Listener) (Answer (RegKey UUri Listener)))}
    (h : tableObject.Legal table order table') (hnodup : table.Nodup) : table'.Nodup := by
  induction order generalizing table with
  | nil => exact h ▸ hnodup
  | cons e order ih => exact ih h.2 (nodup_apply hnodup e.op)

end specification

/-! ### Calls, seen from outside -/

/-- The keys in an answer. -/
def Answer.keys (registry : Registry UUri Listener) :
    Answer RegId → Answer (RegKey UUri Listener)
  | .result outcome => .result outcome
  | .entries regs => .entries (regs.filterMap registry.keyOf)

/-- What a call past the lock of the table is going to answer. -/
def OpPc.answer : OpPc → Answer RegId
  | .done answer => answer
  | .returned answer => answer
  | _ => .result (.ok ())

/-- Where a call stands, as far as this shows. -/
def OpCall.stage (registry : Registry UUri Listener) (call : OpCall UUri Listener) :
    Stage (RegistryOp UUri Listener) (Answer (RegKey UUri Listener)) :=
  match call.pc with
  | .invoked => .invoked call.op
  | .returned _ => .responded
  | pc => .effective (pc.answer.keys registry)

/-- The registrations in an answer exist. -/
def Answer.Within (registry : Registry UUri Listener) : Answer RegId → Prop
  | .result _ => True
  | .entries regs => registry.Within regs

section calls
variable {registry registry' : Registry UUri Listener}

theorem Answer.keys_mono {answer : Answer RegId} (h : answer.Within registry)
    (hkeys : registry.keys <+: registry'.keys) : answer.keys registry' = answer.keys registry := by
  cases answer with
  | result result => rfl
  | entries regs => exact congrArg Answer.entries (Registry.filterMap_keyOf hkeys h)

theorem Answer.Within.mono {answer : Answer RegId} (h : answer.Within registry)
    (hkeys : registry.keys <+: registry'.keys) : answer.Within registry' := by
  cases answer with
  | result result => trivial
  | entries regs => exact Registry.Within.mono h hkeys

theorem OpCall.stage_mono {call : OpCall UUri Listener} (h : call.pc.answer.Within registry)
    (hkeys : registry.keys <+: registry'.keys) : call.stage registry' = call.stage registry := by
  obtain ⟨op, pc⟩ := call
  cases pc with
  | done answer => exact congrArg Stage.effective (Answer.keys_mono h hkeys)
  | _ => rfl

@[simp] theorem OpPc.answer_notify (r : RegId) (pc : OpPc) : (pc.notify r).answer = pc.answer := by
  cases pc with
  | asleep r' regs => by_cases h : r' = r <;> simp [notify, h, answer]
  | _ => rfl

/-- A notification does not show. -/
theorem OpCall.stage_notify (r : RegId) (op : RegistryOp UUri Listener) (pc : OpPc) :
    OpCall.stage registry ⟨op, pc.notify r⟩ = OpCall.stage registry ⟨op, pc⟩ := by
  cases pc with
  | asleep r' regs => by_cases h : r' = r <;> simp [OpPc.notify, h, OpCall.stage, OpPc.answer]
  | _ => rfl

variable {s : Shared UUri Listener}

theorem Shared.answer_waitOn (r : RegId) (regs : List RegId) :
    (s.waitOn r regs).answer = .result (.ok ()) := by
  unfold Shared.waitOn
  split <;> rfl

theorem Shared.stage_waitOn (op : RegistryOp UUri Listener) (r : RegId) (regs : List RegId) :
    OpCall.stage registry ⟨op, s.waitOn r regs⟩ = .effective (.result (.ok ())) := by
  unfold Shared.waitOn
  split <;> rfl

end calls

/-! ### What happens under the lock of the table -/

section enter
variable [DecidableEq UUri] [UriMatches UUri] [DecidableEq Listener]
variable {registry : Registry UUri Listener}

/-- **Linearization point**: under the lock of the table an operation does
    what it does to the set of keys. -/
theorem Registry.enter_spec (h : registry.Within registry.entries)
    (op : RegistryOp UUri Listener) :
    tableObject.apply registry.table op =
      ((registry.enter op).1.table, (registry.enter op).2.answer.keys (registry.enter op).1) := by
  cases op with
  | register source sink listener =>
    by_cases hmem : (⟨source, sink, listener⟩ : RegKey UUri Listener) ∈ registry.table
    · simp only [tableObject, if_pos hmem, Registry.enter, Registry.register_error hmem]
      rfl
    · obtain ⟨registry', hok⟩ := Registry.register_fresh hmem
      simp only [tableObject, if_neg hmem, Registry.enter, hok, Registry.table_register h hok]
      rfl
  | unregister source sink listener =>
    by_cases hmem : (⟨source, sink, listener⟩ : RegKey UUri Listener) ∈ registry.table
    · obtain ⟨r, registry', hok⟩ := Registry.remove_present hmem
      simp only [tableObject, if_pos hmem, Registry.enter, hok, Registry.table_remove hok]
      rfl
    · simp only [tableObject, if_neg hmem, Registry.enter, Registry.remove_error hmem]
      rfl
  | matching source sink =>
    exact congrArg (fun entries => (registry.table, Answer.entries entries))
      Registry.table_matching.symm
  | deactivateAll => rfl

/-- An operation leaves the lock of the table with its effect made. -/
theorem Registry.stage_enter (op : RegistryOp UUri Listener) :
    OpCall.stage (registry.enter op).1 ⟨op, (registry.enter op).2⟩ =
      .effective ((registry.enter op).2.answer.keys (registry.enter op).1) := by
  cases op with
  | register source sink listener =>
    simp only [Registry.enter]
    split <;> rfl
  | unregister source sink listener =>
    simp only [Registry.enter]
    split <;> rfl
  | matching source sink => rfl
  | deactivateAll => rfl

theorem Registry.keys_enter (op : RegistryOp UUri Listener) :
    registry.keys <+: (registry.enter op).1.keys := by
  cases op with
  | register source sink listener =>
    simp only [Registry.enter]
    split
    · exact List.prefix_refl _
    · rename_i hok
      rw [Registry.keys_register hok]
      exact List.prefix_append _ _
  | unregister source sink listener =>
    simp only [Registry.enter]
    split
    · exact List.prefix_refl _
    · rename_i hok
      exact Registry.keys_remove hok ▸ List.prefix_refl _
  | matching source sink => exact List.prefix_refl _
  | deactivateAll => exact List.prefix_refl _

theorem Registry.within_enter (h : registry.Within registry.entries)
    (op : RegistryOp UUri Listener) :
    (registry.enter op).1.Within (registry.enter op).1.entries ∧
      (registry.enter op).2.answer.Within (registry.enter op).1 := by
  cases op with
  | register source sink listener =>
    simp only [Registry.enter]
    split
    · exact ⟨h, trivial⟩
    · rename_i registry' hok
      refine ⟨?_, trivial⟩
      obtain ⟨_, hheap, hentries⟩ := Registry.register_ok hok
      intro r hr
      rw [hentries] at hr
      rw [hheap, List.length_append, List.length_singleton]
      rcases List.mem_append.mp hr with hold | hnew
      · exact Nat.lt_succ_of_lt (h r hold)
      · rw [List.mem_singleton.mp hnew]
        exact Nat.lt_succ_self _
  | unregister source sink listener =>
    simp only [Registry.enter]
    split
    · exact ⟨h, trivial⟩
    · rename_i r registry' hok
      refine ⟨?_, trivial⟩
      obtain ⟨_, _, hheap, hentries⟩ := Registry.remove_ok hok
      intro r' hr'
      rw [hentries] at hr'
      rw [hheap]
      exact h r' (List.mem_of_mem_eraseP hr')
  | matching source sink =>
    refine ⟨h, ?_⟩
    intro r hr
    exact h r (List.mem_of_mem_filter hr)
  | deactivateAll => exact ⟨fun _ hr => absurd hr List.not_mem_nil, trivial⟩

/-- Errors leave no trace in the registry. -/
theorem Registry.enter_error {op : RegistryOp UUri Listener} {status : UStatus}
    (h : (registry.enter op).2.answer = .result (.error status)) :
    (registry.enter op).1 = registry := by
  cases op with
  | register source sink listener =>
    simp only [Registry.enter] at h ⊢
    split at h
    · rfl
    · simp [OpPc.answer] at h
  | unregister source sink listener =>
    simp only [Registry.enter] at h ⊢
    split at h
    · rfl
    · simp [OpPc.answer] at h
  | matching source sink => rfl
  | deactivateAll => simp [Registry.enter, OpPc.answer] at h

end enter

/-! ### The atomic registry simulates the shared one -/

namespace Shared

/-- What shows of a shared registry. -/
def atomic (s : Shared UUri Listener) :
    Atomic (List (RegKey UUri Listener)) (RegistryOp UUri Listener)
      (Answer (RegKey UUri Listener)) where
  value := s.registry.table
  stage := fun c => (s.calls[c]?).elim .absent (·.stage s.registry)

/-- What a step shows. A call takes effect under the lock of the table. -/
def history [DecidableEq UUri] [UriMatches UUri] [DecidableEq Listener]
    (s : Shared UUri Listener) :
    SharedLabel UUri Listener →
      List (Event (RegistryOp UUri Listener) (Answer (RegKey UUri Listener)))
  | .invoke op => [.invoke s.calls.length op]
  | .advance c =>
    match s.calls[c]? with
    | some ⟨op, .invoked⟩ =>
      [.effect ⟨c, op, (s.registry.enter op).2.answer.keys (s.registry.enter op).1⟩]
    | _ => []
  | .respond c =>
    match s.calls[c]? with
    | some ⟨_, .done answer⟩ => [.respond c (answer.keys s.registry)]
    | _ => []
  | _ => []

/-- Addresses are only handed out for registrations that exist. -/
structure Within (s : Shared UUri Listener) : Prop where
  entries : s.registry.Within s.registry.entries
  answers : ∀ call ∈ s.calls, call.pc.answer.Within s.registry

section atomic
variable {s : Shared UUri Listener} {registry : Registry UUri Listener} {c : Nat}
  {op : RegistryOp UUri Listener} {pc pc' : OpPc}

theorem stage_atomic (hcall : s.calls[c]? = some ⟨op, pc⟩) :
    s.atomic.stage c = OpCall.stage s.registry ⟨op, pc⟩ := by
  simp [atomic, hcall]

theorem stage_length : s.atomic.stage s.calls.length = .absent := by
  simp [atomic]

theorem atomic_setPc (hcall : s.calls[c]? = some ⟨op, pc⟩) :
    (s.setPc c pc').atomic = s.atomic.move c (OpCall.stage s.registry ⟨op, pc'⟩) := by
  unfold atomic Atomic.move
  congr 1
  funext c'
  by_cases hc : c' = c
  · subst hc
    simp [hcall]
  · simp [hc, Ne.symm hc]

/-- A call whose stage does not change does not show. -/
theorem atomic_setPc_same (hcall : s.calls[c]? = some ⟨op, pc⟩)
    (hstage : OpCall.stage s.registry ⟨op, pc'⟩ = OpCall.stage s.registry ⟨op, pc⟩) :
    (s.setPc c pc').atomic = s.atomic := by
  rw [atomic_setPc hcall, hstage, ← stage_atomic hcall, Atomic.move, Function.update_eq_self]

theorem atomic_invoke :
    atomic { s with calls := s.calls ++ [⟨op, .invoked⟩] } =
      s.atomic.move s.calls.length (.invoked op) := by
  unfold atomic Atomic.move
  congr 1
  funext c
  rcases Nat.lt_trichotomy c s.calls.length with hlt | rfl | hgt
  · simp [List.getElem?_append_left hlt, Nat.ne_of_lt hlt]
  · simp [OpCall.stage]
  · simp [List.getElem?_append_right (Nat.le_of_lt hgt), Nat.ne_of_gt hgt,
      List.getElem?_eq_none (Nat.le_of_lt hgt), Nat.sub_ne_zero_of_lt hgt]

/-- New registrations show in the table only. -/
theorem atomic_registry (h : s.Within) (hkeys : s.registry.keys <+: registry.keys) :
    atomic { s with registry := registry } = { s.atomic with value := registry.table } := by
  unfold atomic
  congr 1
  funext c
  cases hcall : s.calls[c]? with
  | none => simp [hcall]
  | some call =>
    simp only [hcall, Option.elim]
    exact OpCall.stage_mono (h.answers call (List.mem_of_getElem? hcall)) hkeys

theorem atomic_registry_same (h : s.Within) (hkeys : registry.keys = s.registry.keys)
    (hentries : registry.entries = s.registry.entries) :
    atomic { s with registry := registry } = s.atomic := by
  have hkeyOf : registry.keyOf = s.registry.keyOf := by
    funext r
    rw [Registry.keyOf, Registry.keyOf, hkeys]
  have htable : registry.table = s.registry.table := by
    rw [Registry.table, Registry.table, hentries, hkeyOf]
  rw [atomic_registry h (hkeys ▸ List.prefix_refl _), htable]
  rfl

theorem atomic_notify (s : Shared UUri Listener) (r : RegId) (guards : List InFlight) :
    atomic ⟨s.registry, s.calls.map fun call => { call with pc := call.pc.notify r }, guards⟩ =
      s.atomic := by
  unfold atomic
  congr 1
  funext c
  simp only [List.getElem?_map]
  cases s.calls[c]? with
  | none => rfl
  | some call => exact OpCall.stage_notify r call.op call.pc

end atomic

/-! ### Step lemmas -/

section steps
variable {s s' : Shared UUri Listener} {c : Nat} {call : OpCall UUri Listener} {pc : OpPc}

theorem Within.setPc (h : s.Within) (hanswer : pc.answer.Within s.registry) :
    (s.setPc c pc).Within := by
  refine ⟨h.entries, ?_⟩
  intro call hmem
  rcases of_mem_setPc hmem with rfl | hold
  · exact hanswer
  · exact h.answers call hold

theorem Within.registry {registry : Registry UUri Listener} (h : s.Within)
    (hkeys : s.registry.keys <+: registry.keys) (hentries : registry.Within registry.entries) :
    Within { s with registry := registry } :=
  ⟨hentries, fun call hmem => (h.answers call hmem).mono hkeys⟩

theorem Within.registry_same {registry : Registry UUri Listener} (h : s.Within)
    (hkeys : registry.keys = s.registry.keys) (hentries : registry.entries = s.registry.entries) :
    Within { s with registry := registry } := by
  have hprefix : s.registry.keys <+: registry.keys := hkeys ▸ List.prefix_refl _
  exact h.registry hprefix (hentries ▸ h.entries.mono hprefix)

/-- Guards hold no addresses of the table. -/
theorem Within.guards (h : s.Within) (guards : List InFlight) :
    Within { s with guards := guards } :=
  ⟨h.entries, h.answers⟩

theorem Within.notify (h : s.Within) (r : RegId) (guards : List InFlight) :
    Within ⟨s.registry, s.calls.map fun call => { call with pc := call.pc.notify r }, guards⟩ := by
  refine ⟨h.entries, ?_⟩
  intro call hmem
  obtain ⟨old, hold, rfl⟩ := List.mem_map.mp hmem
  simpa using h.answers old hold

variable [DecidableEq UUri] [UriMatches UUri] [DecidableEq Listener]
  {l : SharedLabel UUri Listener}

theorem Within.step (h : s.Within) (hstep : Step s l s') : s'.Within := by
  cases hstep with
  | invoke op =>
    refine ⟨h.entries, ?_⟩
    intro call hmem
    rcases List.mem_append.mp hmem with hold | hnew
    · exact h.answers call hold
    · rw [List.mem_singleton.mp hnew]
      trivial
  | @enter c op hcall =>
    have hwithin := Registry.within_enter h.entries op
    exact Within.setPc (h.registry (Registry.keys_enter op) hwithin.1) hwithin.2
  | finish c hcall => exact h.setPc trivial
  | deactivate c hcall =>
    apply Within.setPc (h.registry_same Registry.keys_deactivate rfl)
    rw [answer_waitOn]
    trivial
  | recheck c hcall =>
    apply h.setPc
    rw [answer_waitOn]
    trivial
  | wake c hcall => exact h.setPc trivial
  | respond c hcall => exact h.setPc (h.answers _ (List.mem_of_getElem? hcall))
  | begin r hbegin =>
    exact (h.registry_same (Registry.keys_begin hbegin) (Registry.entries_begin hbegin)).guards _
  | hand g hguard hplace => exact h.guards _
  | drop g hguard hbusy => exact (h.registry_same Registry.keys_release rfl).guards _
  | dropLast g hguard hidle => exact (h.registry_same Registry.keys_release rfl).notify _ _

/-- **Step lemma**: each step is one of the atomic registry, or shows
    nothing. -/
theorem atomic_step (h : s.Within) (hstep : Step s l s') :
    ∃ tr, Run tableObject.atomic s.atomic tr s'.atomic ∧ tr.map Prod.snd = s.history l := by
  have hsilent : s'.atomic = s.atomic → s.history l = [] →
      ∃ tr, Run tableObject.atomic s.atomic tr s'.atomic ∧ tr.map Prod.snd = s.history l := by
    intro heq hnone
    exact ⟨[], heq ▸ Run.nil, hnone.symm⟩
  cases hstep with
  | invoke op =>
    rw [atomic_invoke]
    exact ⟨_, Run.single (.invoke _ op stage_length), rfl⟩
  | @enter c op hcall =>
    have hvalue := Registry.enter_spec h.entries op
    have hstage : s.atomic.stage c = .invoked op := stage_atomic hcall
    rw [atomic_setPc (s := { s with registry := (s.registry.enter op).1 }) hcall,
      atomic_registry h (Registry.keys_enter op), Registry.stage_enter]
    exact ⟨_, Run.single (.effect c op hstage hvalue), by simp [history, hcall]⟩
  | finish c hcall =>
    exact hsilent (atomic_setPc_same hcall rfl) (by simp [history, hcall])
  | @deactivate c op r regs hcall =>
    apply hsilent
    · rw [atomic_setPc_same (s := { s with registry := s.registry.deactivate r }) hcall
        (stage_waitOn _ _ _)]
      exact atomic_registry_same h Registry.keys_deactivate rfl
    · simp [history, hcall]
  | recheck c hcall =>
    exact hsilent (atomic_setPc_same hcall (stage_waitOn _ _ _)) (by simp [history, hcall])
  | wake c hcall => exact hsilent (atomic_setPc_same hcall rfl) rfl
  | @respond c op answer hcall =>
    have hstage : s.atomic.stage c = .effective (answer.keys s.registry) := stage_atomic hcall
    rw [atomic_setPc hcall]
    exact ⟨_, Run.single (.respond c _ hstage), by simp [history, hcall]⟩
  | begin r hbegin =>
    exact hsilent (atomic_registry_same h (Registry.keys_begin hbegin)
      (Registry.entries_begin hbegin)) rfl
  | hand g hguard hplace => exact hsilent rfl rfl
  | drop g hguard hbusy => exact hsilent (atomic_registry_same h Registry.keys_release rfl) rfl
  | @dropLast g guard hguard hidle =>
    apply hsilent _ rfl
    rw [← atomic_registry_same h (Registry.keys_release (r := guard.reg)) rfl]
    exact atomic_notify { s with registry := s.registry.release guard.reg } guard.reg _

theorem within_reachable (h : Reachable sharedRegistry s) : s.Within := by
  refine invariant ?_ ?_ h
  · rintro s rfl
    exact ⟨fun _ hr => absurd hr List.not_mem_nil, fun _ hmem => absurd hmem List.not_mem_nil⟩
  · intro s l s' hs hstep
    exact hs.step (.of_next hstep)

end steps

end Shared

/-! ### Keys come and go -/

section keys
variable [DecidableEq UUri] [UriMatches UUri] [DecidableEq Listener]

/-- The keys that an operation adds to the table. -/
def Registry.added (registry : Registry UUri Listener) :
    RegistryOp UUri Listener → List (RegKey UUri Listener)
  | .register source sink listener =>
    match registry.register source sink listener with
    | .ok _ => [⟨source, sink, listener⟩]
    | .error _ => []
  | _ => []

/-- The keys that an operation takes out of the table. -/
def Registry.taken (registry : Registry UUri Listener) :
    RegistryOp UUri Listener → List (RegKey UUri Listener)
  | .unregister source sink listener =>
    match registry.remove source sink listener with
    | .ok _ => [⟨source, sink, listener⟩]
    | .error _ => []
  | .deactivateAll => registry.table
  | _ => []

/-- The keys that a step adds: those of the calls of `register` that answer
    `Ok`. -/
def Shared.registered (s : Shared UUri Listener) :
    SharedLabel UUri Listener → List (RegKey UUri Listener)
  | .advance c =>
    match s.calls[c]? with
    | some ⟨op, .invoked⟩ => s.registry.added op
    | _ => []
  | _ => []

/-- The keys that a step removes: those of the calls of `unregister` that
    answer `Ok`, and for `deactivate_all` all there are. -/
def Shared.removed (s : Shared UUri Listener) :
    SharedLabel UUri Listener → List (RegKey UUri Listener)
  | .advance c =>
    match s.calls[c]? with
    | some ⟨op, .invoked⟩ => s.registry.taken op
    | _ => []
  | _ => []

theorem Registry.enter_balance {registry : Registry UUri Listener}
    (h : registry.Within registry.entries) (op : RegistryOp UUri Listener) :
    (registry.table ++ registry.added op).Perm
      (registry.taken op ++ (registry.enter op).1.table) := by
  cases op with
  | register source sink listener =>
    by_cases hmem : (⟨source, sink, listener⟩ : RegKey UUri Listener) ∈ registry.table
    · simp only [Registry.added, Registry.taken, Registry.enter, Registry.register_error hmem,
        List.append_nil]
      exact .refl _
    · obtain ⟨registry', hok⟩ := Registry.register_fresh hmem
      simp only [Registry.added, Registry.taken, Registry.enter, hok]
      rw [Registry.table_register h hok]
      exact .refl _
  | unregister source sink listener =>
    by_cases hmem : (⟨source, sink, listener⟩ : RegKey UUri Listener) ∈ registry.table
    · obtain ⟨r, registry', hok⟩ := Registry.remove_present hmem
      simp only [Registry.added, Registry.taken, Registry.enter, hok, List.append_nil]
      rw [Registry.table_remove hok]
      exact List.perm_cons_erase hmem
    · simp only [Registry.added, Registry.taken, Registry.enter, Registry.remove_error hmem,
        List.append_nil]
      exact .refl _
  | matching source sink =>
    simp only [Registry.added, Registry.taken, List.append_nil]
    exact .refl _
  | deactivateAll => exact .refl _

variable {s s' : Shared UUri Listener} {l : SharedLabel UUri Listener}

/-- A step that does not enter the table leaves it alone. -/
theorem Shared.table_step (h : s.Within) (hstep : Shared.Step s l s') :
    (s.registry.table ++ s.registered l).Perm (s.removed l ++ s'.registry.table) := by
  have hquiet : s.registered l = [] → s.removed l = [] →
      s'.registry.table = s.registry.table →
      (s.registry.table ++ s.registered l).Perm (s.removed l ++ s'.registry.table) := by
    intro hregistered hremoved htable
    rw [hregistered, hremoved, htable, List.append_nil]
    exact .refl _
  cases hstep with
  | @enter c op hcall =>
    simp only [Shared.registered, Shared.removed, hcall]
    exact Registry.enter_balance h.entries op
  | invoke op => exact hquiet rfl rfl rfl
  | finish c hcall =>
    exact hquiet (by simp [registered, hcall]) (by simp [removed, hcall]) rfl
  | @deactivate c op r regs hcall =>
    apply hquiet (by simp [registered, hcall]) (by simp [removed, hcall])
    exact congrArg Atomic.value (atomic_registry_same h Registry.keys_deactivate rfl)
  | recheck c hcall =>
    exact hquiet (by simp [registered, hcall]) (by simp [removed, hcall]) rfl
  | wake c hcall => exact hquiet rfl rfl rfl
  | respond c hcall => exact hquiet rfl rfl rfl
  | begin r hbegin =>
    apply hquiet rfl rfl
    exact congrArg Atomic.value (atomic_registry_same h (Registry.keys_begin hbegin)
      (Registry.entries_begin hbegin))
  | hand g hguard hplace => exact hquiet rfl rfl rfl
  | drop g hguard hbusy =>
    apply hquiet rfl rfl
    exact congrArg Atomic.value (atomic_registry_same h Registry.keys_release rfl)
  | dropLast g hguard hidle =>
    apply hquiet rfl rfl
    exact congrArg Atomic.value (atomic_registry_same h Registry.keys_release rfl)

end keys

/-! ### The registry linearizes -/

section registry
variable [DecidableEq UUri] [UriMatches UUri] [DecidableEq Listener]
variable {tr : Trace (Shared UUri Listener) (SharedLabel UUri Listener)} {s : Shared UUri Listener}

/-- The calls on a registry have one order, in which they work on a set of
    keys one after the other. -/
theorem registry_order (h : InitRun sharedRegistry tr s) :
    ∃ order, tableObject.Linearizes (observe Shared.history tr) order s.registry.table := by
  obtain ⟨a, rfl, hlinear⟩ := Object.linearizes_of_simulation tableObject
    (fun s a => a = s.atomic) Shared.history (by rintro s rfl; rfl)
    (by
      rintro s l s' a hreach rfl hstep
      obtain ⟨tr, hrun, hhistory⟩ :=
        Shared.atomic_step (Shared.within_reachable hreach) (.of_next hstep)
      exact ⟨tr, s'.atomic, hrun, hhistory, rfl⟩) h
  exact ⟨_, hlinear⟩

/-- What was registered and not removed is in the table. -/
theorem registered_perm (h : InitRun sharedRegistry tr s) :
    (observe Shared.registered tr).Perm (observe Shared.removed tr ++ s.registry.table) :=
  flow_bag (fun s => s.registry.table) Shared.registered Shared.removed (by rintro s rfl; rfl)
    (fun _ _ _ hreach hstep =>
      Shared.table_step (Shared.within_reachable hreach) (.of_next hstep)) h

/-- **The registry linearizes** to a set of keys in insertion order. In every
    state it reaches, no key is in the table twice; a key has been registered
    once more than it has been removed if it is in the table, and as often if
    it is not; and a call that is going to answer an error has left the
    registrations and the table as they were. -/
theorem registry_linearizes (h : InitRun sharedRegistry tr s) :
    (∃ order, tableObject.Linearizes (observe Shared.history tr) order s.registry.table) ∧
    s.registry.table.Nodup ∧
    (∀ key, (observe Shared.registered tr).count key =
      (observe Shared.removed tr).count key + if key ∈ s.registry.table then 1 else 0) ∧
    ∀ c op status s', s.calls[c]? = some ⟨op, .invoked⟩ →
      sharedRegistry.step s (.advance c) s' →
      s'.calls[c]? = some ⟨op, .done (.result (.error status))⟩ → s'.registry = s.registry := by
  obtain ⟨order, hlinear⟩ := registry_order h
  have hnodup : s.registry.table.Nodup := nodup_of_legal hlinear.legal List.nodup_nil
  refine ⟨⟨order, hlinear⟩, hnodup, ?_, ?_⟩
  · intro key
    rw [(registered_perm h).count_eq, List.count_append]
    congr 1
    split
    · rename_i hmem
      exact List.count_eq_one_of_mem hnodup hmem
    · rename_i hmem
      exact List.count_eq_zero_of_not_mem hmem
  · intro c op status s' hcall hstep herror
    have hnext : s' = { s with registry := (s.registry.enter op).1 }.setPc c
        (s.registry.enter op).2 := by
      have hadvance : s.advance c = some s' := hstep
      rw [Shared.advance, hcall] at hadvance
      exact (Option.some.inj hadvance).symm
    subst hnext
    simp only [Shared.setPc_calls, List.getElem?_modify_eq, hcall, Option.map_eq_map,
      Option.map_some, Option.some.injEq, OpCall.mk.injEq, true_and] at herror
    exact Registry.enter_error (congrArg OpPc.answer herror)

/-- A listener is unregistered twice while its callback runs, and registered
    again while the first call still waits. -/
def reregisterRun : List (SharedLabel Topic Nat) :=
  [.invoke (.register ⟨7⟩ none 0), .advance 0, .respond 0, .begin 0,
   .invoke (.unregister ⟨7⟩ none 0), .invoke (.unregister ⟨7⟩ none 0),
   .advance 1, .advance 2, .respond 2, .advance 1,
   .invoke (.register ⟨7⟩ none 0), .advance 3, .respond 3]

theorem registry_linearizes_run :
    ∃ tr s, InitRun topicRegistry tr s ∧
      s.calls[1]? = some ⟨.unregister ⟨7⟩ none 0, .asleep 0 []⟩ ∧
      (∃ order, tableObject.Linearizes (observe Shared.history tr) order s.registry.table) ∧
      s.registry.table = [⟨⟨7⟩, none, 0⟩] ∧
      (observe Shared.registered tr).count ⟨⟨7⟩, none, 0⟩ =
        (observe Shared.removed tr).count ⟨⟨7⟩, none, 0⟩ + 1 := by
  obtain ⟨tr, s, hexec, hasleep, htable⟩ : ∃ tr s,
      exec Shared.next Shared.start reregisterRun = some (tr, s) ∧
        s.calls[1]? = some ⟨.unregister ⟨7⟩ none 0, .asleep 0 []⟩ ∧
        s.registry.table = [⟨⟨7⟩, none, 0⟩] := ⟨_, _, rfl, rfl, rfl⟩
  have hrun : InitRun topicRegistry tr s := ⟨_, rfl, run_of_exec hexec⟩
  obtain ⟨hlinear, _, hcount, _⟩ := registry_linearizes hrun
  refine ⟨tr, s, hrun, hasleep, hlinear, htable, ?_⟩
  rw [hcount, htable]
  rfl

end registry

end UpTransportDds
