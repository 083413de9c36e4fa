import UpTransportDds.Framework.Flow
import UpTransportDds.Runtime.Shared

/-! # Counting what is in flight

  A registration counts its live guards. Whoever deactivates it sleeps until
  the count is zero, and is woken by the guard that brings it there. So a
  sleeper that nobody has notified still has a guard to wait for.
-/

namespace UpTransportDds

open LTS

variable {UUri Listener : Type}

/-! ### Under the lock of the table -/

section enter
variable [DecidableEq UUri] [UriMatches UUri] [DecidableEq Listener]
variable {registry : Registry UUri Listener} {r : RegId}

@[simp] theorem Registry.inFlight_enter (op : RegistryOp UUri Listener) :
    (registry.enter op).1.inFlight r = registry.inFlight r := by
  cases op with
  | register source sink listener =>
    simp only [Registry.enter]
    split
    · rfl
    · rename_i hok
      exact Registry.inFlight_register hok
  | unregister source sink listener =>
    simp only [Registry.enter]
    split
    · rfl
    · rename_i hok
      exact Registry.inFlight_remove hok
  | matching source sink => rfl
  | deactivateAll => rfl

theorem Registry.evolves_enter (op : RegistryOp UUri Listener) :
    registry.Evolves (registry.enter op).1 := by
  cases op with
  | register source sink listener =>
    simp only [Registry.enter]
    split
    · exact Registry.Evolves.refl registry
    · rename_i hok
      exact Registry.evolves_register hok
  | unregister source sink listener =>
    simp only [Registry.enter]
    split
    · exact Registry.Evolves.refl registry
    · rename_i hok
      exact Registry.evolves_of_heap (Registry.remove_ok hok).2.2.1
  | matching source sink => exact Registry.Evolves.refl registry
  | deactivateAll => exact Registry.evolves_of_heap rfl

/-- Nobody falls asleep holding the lock of the table. -/
theorem Registry.enter_not_asleep (op : RegistryOp UUri Listener) (regs : List RegId) :
    (registry.enter op).2 ≠ .asleep r regs := by
  cases op with
  | register source sink listener =>
    simp only [Registry.enter]
    split <;> simp
  | unregister source sink listener =>
    simp only [Registry.enter]
    split <;> simp
  | matching source sink => simp [Registry.enter]
  | deactivateAll => simp [Registry.enter]

end enter

/-! ### Guards and sleepers -/

namespace Shared

/-- The registrations that the live guards are for. -/
def held (s : Shared UUri Listener) : List RegId := s.guards.map InFlight.reg

/-- Counters and guards agree, and whoever sleeps has something to wait for. -/
structure Counted (s : Shared UUri Listener) : Prop where
  inFlight : ∀ r, s.registry.inFlight r = s.held.count r
  asleep : ∀ call ∈ s.calls, ∀ r regs, call.pc = .asleep r regs → s.registry.inFlight r ≠ 0

section guards
variable {s : Shared UUri Listener} {r : RegId} {c g : Nat} {guard : InFlight} {pc : OpPc}

/-- Moving a guard does not change what it is for. -/
theorem held_hand (hguard : s.guards[g]? = some guard) (place : Place) :
    (s.guards.set g { guard with place := place }).map InFlight.reg = s.held := by
  obtain ⟨hlt, rfl⟩ := List.getElem?_eq_some_iff.mp hguard
  rw [List.map_set, held]
  apply List.ext_getElem?
  intro i
  by_cases hi : g = i
  · subst hi
    simp [hlt]
  · simp [hi]

theorem held_drop (hguard : s.guards[g]? = some guard) :
    (guard.reg :: (s.guards.eraseIdx g).map InFlight.reg).Perm s.held :=
  (perm_eraseIdx hguard).map InFlight.reg

/-- Dropping a guard takes one from the counter of its registration, which is
    not zero before. -/
theorem inFlight_drop (h : ∀ r, s.registry.inFlight r = s.held.count r)
    (hguard : s.guards[g]? = some guard) (r : RegId) :
    (s.registry.release guard.reg).inFlight r =
      ((s.guards.eraseIdx g).map InFlight.reg).count r := by
  have hcount := (held_drop hguard).count_eq r
  rw [List.count_cons, ← h r] at hcount
  rw [Registry.inFlight_release]
  by_cases hr : guard.reg = r
  · subst hr
    simp only [beq_self_eq_true, if_true] at hcount ⊢
    omega
  · simp only [beq_iff_eq, if_neg hr] at hcount ⊢
    omega

/-- A call that moves to where it need not sleep. -/
theorem Counted.setPc (h : s.Counted)
    (hpc : ∀ r regs, pc = .asleep r regs → s.registry.inFlight r ≠ 0) :
    (s.setPc c pc).Counted := by
  refine ⟨h.inFlight, ?_⟩
  intro call hmem r regs hasleep
  rcases of_mem_setPc hmem with rfl | hold
  · exact hpc r regs hasleep
  · exact h.asleep call hold r regs hasleep

theorem Counted.registry {registry : Registry UUri Listener} (h : s.Counted)
    (hinFlight : ∀ r, registry.inFlight r = s.registry.inFlight r) :
    Counted { s with registry := registry } :=
  ⟨fun r => (hinFlight r).trans (h.inFlight r), fun call hmem r regs hasleep =>
    hinFlight r ▸ h.asleep call hmem r regs hasleep⟩

/-- `deactivate_and_wait` checks the counter before it sleeps. -/
theorem waitOn_asleep {r' : RegId} {regs regs' : List RegId}
    (h : s.waitOn r regs = .asleep r' regs') : s.registry.inFlight r' ≠ 0 := by
  unfold waitOn at h
  split at h
  · contradiction
  · rename_i hbusy
    obtain ⟨rfl, -⟩ := OpPc.asleep.inj h
    exact hbusy

/-- Whoever still sleeps after a notification waits for another registration. -/
theorem asleep_of_notify {r' : RegId} {regs : List RegId}
    (h : pc.notify r = .asleep r' regs) : pc = .asleep r' regs ∧ r' ≠ r := by
  cases pc with
  | asleep r₀ regs₀ =>
    by_cases hr : r₀ = r
    · simp [OpPc.notify, hr] at h
    · simp only [OpPc.notify, if_neg hr] at h
      obtain ⟨rfl, rfl⟩ := OpPc.asleep.inj h
      exact ⟨rfl, hr⟩
  | _ => simp [OpPc.notify] at h

end guards

/-! ### Step lemmas -/

section steps
variable [DecidableEq UUri] [UriMatches UUri] [DecidableEq Listener]
variable {s s' : Shared UUri Listener} {l : SharedLabel UUri Listener}

theorem Counted.step (h : s.Counted) (hstep : Step s l s') : s'.Counted := by
  cases hstep with
  | invoke op =>
    refine ⟨h.inFlight, ?_⟩
    intro call hmem r regs hasleep
    rcases List.mem_append.mp hmem with hold | hnew
    · exact h.asleep call hold r regs hasleep
    · rw [List.mem_singleton.mp hnew] at hasleep
      contradiction
  | enter c hcall =>
    apply Counted.setPc (h.registry fun r => Registry.inFlight_enter _)
    intro r regs hasleep
    exact absurd hasleep (Registry.enter_not_asleep _ regs)
  | finish c hcall => exact h.setPc (by simp)
  | deactivate c hcall =>
    apply Counted.setPc (h.registry fun r => Registry.inFlight_deactivate _ _ _)
    intro r regs hasleep
    rw [Registry.inFlight_deactivate]
    exact waitOn_asleep hasleep
  | recheck c hcall => exact h.setPc fun r regs hasleep => waitOn_asleep hasleep
  | wake c hcall => exact h.setPc (by simp)
  | respond c hcall => exact h.setPc (by simp)
  | begin r hbegin =>
    refine ⟨?_, ?_⟩
    · intro r'
      rw [Registry.inFlight_begin hbegin, h.inFlight, held, held, List.map_append,
        List.count_append, List.map_singleton, List.count_singleton]
      simp
    · intro call hmem r' regs hasleep
      have hbusy := h.asleep call hmem r' regs hasleep
      rw [Registry.inFlight_begin hbegin]
      omega
  | hand g hguard hplace =>
    refine ⟨?_, h.asleep⟩
    intro r
    rw [h.inFlight]
    exact congrArg (List.count r) (held_hand hguard _).symm
  | @drop g guard hguard hbusy =>
    refine ⟨inFlight_drop h.inFlight hguard, ?_⟩
    intro call hmem r regs hasleep
    by_cases hr : guard.reg = r
    · exact hr ▸ hbusy
    · rw [Registry.inFlight_release, if_neg hr]
      exact h.asleep call hmem r regs hasleep
  | @dropLast g guard hguard hidle =>
    refine ⟨inFlight_drop h.inFlight hguard, ?_⟩
    intro call hmem r regs hasleep
    obtain ⟨old, hold, rfl⟩ := List.mem_map.mp hmem
    obtain ⟨hpc, hr⟩ := asleep_of_notify hasleep
    -- the registration of the guard has no sleepers left
    rw [Registry.inFlight_release, if_neg (Ne.symm hr)]
    exact h.asleep old hold r regs hpc

theorem evolves_step (hstep : Step s l s') : s.registry.Evolves s'.registry := by
  cases hstep with
  | enter c hcall => exact Registry.evolves_enter _
  | deactivate c hcall => exact Registry.evolves_deactivate _ _
  | begin r hbegin => exact Registry.evolves_begin hbegin
  | drop g hguard hbusy => exact Registry.evolves_release _ _
  | dropLast g hguard hidle => exact Registry.evolves_release _ _
  | _ => exact Registry.Evolves.refl _

/-! ### Runs -/

theorem counted_reachable (h : Reachable sharedRegistry s) : s.Counted := by
  refine invariant ?_ ?_ h
  · rintro s rfl
    refine ⟨?_, ?_⟩
    · intro r
      rfl
    · intro call hmem
      exact absurd hmem List.not_mem_nil
  · intro s l s' hs hstep
    exact hs.step (.of_next hstep)

theorem evolves_run {tr : Trace (Shared UUri Listener) (SharedLabel UUri Listener)}
    (h : Run sharedRegistry s tr s') : s.registry.Evolves s'.registry := by
  induction h with
  | nil => exact Registry.Evolves.refl _
  | snoc _ hstep ih => exact ih.trans (evolves_step (.of_next hstep))

end steps

end Shared

/-! ### The counters are sound -/

section soundness
variable [DecidableEq UUri] [UriMatches UUri] [DecidableEq Listener]
variable {s : Shared UUri Listener} {r : RegId}

/-- **In-flight counting is sound.** The counter of a registration is the
    number of its live guards, so that no guard takes it below zero. A
    registration that has been deactivated stays inactive, and its counter
    does not go up again. Whoever sleeps on it without having been notified
    has a guard to wait for. -/
theorem in_flight_sound (h : Reachable sharedRegistry s) (r : RegId) :
    s.registry.inFlight r = (s.guards.map InFlight.reg).count r ∧
    (∀ guard ∈ s.guards, guard.reg = r → 0 < s.registry.inFlight r) ∧
    (∀ tr s', Run sharedRegistry s tr s' → r < s.registry.heap.length →
      s.registry.active r = false →
        s'.registry.active r = false ∧ s'.registry.inFlight r ≤ s.registry.inFlight r) ∧
    ∀ (c : Nat) op regs, s.calls[c]? = some ⟨op, .asleep r regs⟩ →
      0 < s.registry.inFlight r := by
  have hcounted := Shared.counted_reachable h
  refine ⟨hcounted.inFlight r, ?_, ?_, ?_⟩
  · rintro guard hmem rfl
    rw [hcounted.inFlight]
    exact List.count_pos_iff.mpr (List.mem_map_of_mem hmem)
  · intro tr s' hrun hlt hinactive
    have hevolves := Shared.evolves_run hrun
    have hr : s.registry.Inactive r := ⟨hlt, hinactive⟩
    exact ⟨hevolves.inactive r hr, hevolves.inFlight_le r hr⟩
  · intro c op regs hcall
    exact Nat.pos_of_ne_zero (hcounted.asleep _ (List.mem_of_getElem? hcall) r regs rfl)

/-- Two callbacks are in flight while their listener is unregistered. One has
    not been polled when it is dropped; the other still runs. -/
def sleeperRun : List (SharedLabel Topic Nat) :=
  [.invoke (.register ⟨7⟩ none 0), .advance 0, .begin 0, .begin 0, .hand 0, .hand 1, .hand 0,
   .invoke (.unregister ⟨7⟩ none 0), .advance 1, .advance 1, .wake 1, .advance 1, .drop 1]

theorem in_flight_sound_run :
    ∃ s : Shared Topic Nat, Reachable topicRegistry s ∧
      s.calls[1]? = some ⟨.unregister ⟨7⟩ none 0, .asleep 0 []⟩ ∧
      s.guards = [⟨0, .callback⟩] ∧ s.registry.inFlight 0 = 1 ∧ 0 < s.registry.inFlight 0 := by
  obtain ⟨tr, s, hexec, hasleep, hguards⟩ : ∃ tr s,
      exec Shared.next Shared.start sleeperRun = some (tr, s) ∧
        s.calls[1]? = some ⟨.unregister ⟨7⟩ none 0, .asleep 0 []⟩ ∧
        s.guards = [⟨0, .callback⟩] := ⟨_, _, rfl, rfl, rfl⟩
  have hreach : Reachable topicRegistry s := ⟨tr, _, rfl, run_of_exec hexec⟩
  obtain ⟨hcount, _, _, hpos⟩ := in_flight_sound hreach 0
  rw [hguards] at hcount
  exact ⟨s, hreach, hasleep, hguards, hcount, hpos 1 _ _ hasleep⟩

end soundness

end UpTransportDds
