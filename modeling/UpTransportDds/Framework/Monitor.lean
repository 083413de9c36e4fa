import Mathlib
import UpTransportDds.Framework.Linearizable

/-! # Monitors

  A value behind a mutex with one condition variable. The operations are
  called by any number of threads, and each works on the value in critical
  sections: the first one when it enters, another one each time it has been
  asleep. A sleeper may wake up at any time, with or without a notification.

  What a critical section does is all that a monitor has to say; the lock, the
  sleeping and the waking are the same for all of them.
-/

namespace LTS

variable {Value Op Res : Type}

/-! ### Monitors -/

/-- How a critical section ends. -/
inductive Exit (Res : Type) where
  /-- The operation is going to answer, after `notify_all` if `notify`. -/
  | answer (res : Res) (notify : Bool)
  /-- It waits on the condition variable. -/
  | sleep
  deriving DecidableEq, Repr

structure Monitor (Value Op Res : Type) where
  init : Value
  /-- The critical section of an operation: the first one, or one after it has
      been asleep. -/
  enter : (first : Bool) → Value → Op → Value × Exit Res

/-- Where a call stands. -/
inductive MonitorPc (Res : Type) where
  | invoked
  /-- It holds the lock, and is about to work on the value. -/
  | holding (first : Bool)
  /-- It holds the lock, and is about to give it back and answer. -/
  | leaving (res : Res) (notify : Bool)
  /-- It holds the lock, and is about to give it back and sleep. -/
  | parking
  | asleep
  /-- It waits for the lock after its sleep. -/
  | awake
  /-- At `notify_all`. -/
  | notifying (res : Res)
  | done (res : Res)
  | returned (res : Res)
  deriving DecidableEq, Repr

structure MonitorCall (Op Res : Type) where
  op : Op
  pc : MonitorPc Res
  deriving DecidableEq, Repr

structure MonitorState (Value Op Res : Type) where
  value : Value
  /-- The call that holds the lock. -/
  owner : Option Nat
  calls : List (MonitorCall Op Res)

inductive MonitorLabel (Op : Type) where
  /-- A thread calls an operation. -/
  | invoke (op : Op)
  /-- Call `c` moves on. -/
  | step (c : Nat)
  /-- The sleep of call `c` ends without a notification. -/
  | wake (c : Nat)
  deriving DecidableEq, Repr

namespace MonitorPc

/-- Does the call hold the lock? -/
def locked : MonitorPc Res → Bool
  | .holding _ => true
  | .leaving _ _ => true
  | .parking => true
  | _ => false

/-- Is the call going to notify? -/
def alerting : MonitorPc Res → Bool
  | .leaving _ notify => notify
  | .notifying _ => true
  | _ => false

/-- `notify_all`. -/
def notify : MonitorPc Res → MonitorPc Res
  | .asleep => .awake
  | pc => pc

/-- The answer that the call has come to. -/
def answer? : MonitorPc Res → Option Res
  | .leaving res _ => some res
  | .notifying res => some res
  | .done res => some res
  | .returned res => some res
  | _ => none

/-- How many steps are left, for a call that sleeps at most once. -/
def rank : MonitorPc Res → Nat
  | .invoked => 9
  | .holding true => 8
  | .parking => 7
  | .asleep => 6
  | .awake => 5
  | .holding false => 4
  | .leaving _ _ => 3
  | .notifying _ => 2
  | .done _ => 1
  | .returned _ => 0

end MonitorPc

namespace MonitorState

/-- Call `c` moves to `pc`. -/
def setPc (s : MonitorState Value Op Res) (c : Nat) (pc : MonitorPc Res) :
    MonitorState Value Op Res :=
  { s with calls := s.calls.modify c fun call => { call with pc := pc } }

/-- `notify_all`. -/
def notifyAll (s : MonitorState Value Op Res) : MonitorState Value Op Res :=
  { s with calls := s.calls.map fun call => { call with pc := call.pc.notify } }

end MonitorState

namespace Monitor
variable (mon : Monitor Value Op Res)

/-- What call `c` does next. -/
def advance (s : MonitorState Value Op Res) (c : Nat) : Option (MonitorState Value Op Res) :=
  match s.calls[c]? with
  | some ⟨_, .invoked⟩ =>
    if s.owner.isNone then some ({ s with owner := some c }.setPc c (.holding true)) else none
  | some ⟨op, .holding first⟩ =>
    match mon.enter first s.value op with
    | (value, .answer res notify) => some ({ s with value := value }.setPc c (.leaving res notify))
    | (value, .sleep) => some ({ s with value := value }.setPc c .parking)
  | some ⟨_, .leaving res notify⟩ =>
    some ({ s with owner := none }.setPc c (if notify then .notifying res else .done res))
  | some ⟨_, .parking⟩ => some ({ s with owner := none }.setPc c .asleep)
  | some ⟨_, .awake⟩ =>
    if s.owner.isNone then some ({ s with owner := some c }.setPc c (.holding false)) else none
  | some ⟨_, .notifying res⟩ => some (s.notifyAll.setPc c (.done res))
  | some ⟨_, .done res⟩ => some (s.setPc c (.returned res))
  | _ => none

def next (s : MonitorState Value Op Res) : MonitorLabel Op → Option (MonitorState Value Op Res)
  | .invoke op => some { s with calls := s.calls ++ [⟨op, .invoked⟩] }
  | .step c => mon.advance s c
  | .wake c =>
    match s.calls[c]? with
    | some ⟨_, .asleep⟩ => some (s.setPc c .awake)
    | _ => none

def start : MonitorState Value Op Res := ⟨mon.init, none, []⟩

/-- The monitor, shared by any number of threads. -/
def system : System (MonitorState Value Op Res) (MonitorLabel Op) :=
  ofNext (· = mon.start) mon.next

end Monitor

/-! ### Steps -/

/-- The steps of a monitor. -/
inductive MonitorStep (mon : Monitor Value Op Res) (s : MonitorState Value Op Res) :
    MonitorLabel Op → MonitorState Value Op Res → Prop where
  | invoke (op : Op) :
      MonitorStep mon s (.invoke op) { s with calls := s.calls ++ [⟨op, .invoked⟩] }
  | acquire (c : Nat) {op : Op} {pc : MonitorPc Res} {first : Bool}
      (hcall : s.calls[c]? = some ⟨op, pc⟩)
      (hpc : pc = if first then .invoked else .awake) (howner : s.owner = none) :
      MonitorStep mon s (.step c) ({ s with owner := some c }.setPc c (.holding first))
  | answer (c : Nat) {op : Op} {first : Bool} {value : Value} {res : Res} {notify : Bool}
      (hcall : s.calls[c]? = some ⟨op, .holding first⟩)
      (henter : mon.enter first s.value op = (value, .answer res notify)) :
      MonitorStep mon s (.step c) ({ s with value := value }.setPc c (.leaving res notify))
  | sleep (c : Nat) {op : Op} {first : Bool} {value : Value}
      (hcall : s.calls[c]? = some ⟨op, .holding first⟩)
      (henter : mon.enter first s.value op = (value, .sleep)) :
      MonitorStep mon s (.step c) ({ s with value := value }.setPc c .parking)
  | leave (c : Nat) {op : Op} {res : Res} {notify : Bool}
      (hcall : s.calls[c]? = some ⟨op, .leaving res notify⟩) :
      MonitorStep mon s (.step c)
        ({ s with owner := none }.setPc c (if notify then .notifying res else .done res))
  | park (c : Nat) {op : Op} (hcall : s.calls[c]? = some ⟨op, .parking⟩) :
      MonitorStep mon s (.step c) ({ s with owner := none }.setPc c .asleep)
  | notify (c : Nat) {op : Op} {res : Res} (hcall : s.calls[c]? = some ⟨op, .notifying res⟩) :
      MonitorStep mon s (.step c) (s.notifyAll.setPc c (.done res))
  | ret (c : Nat) {op : Op} {res : Res} (hcall : s.calls[c]? = some ⟨op, .done res⟩) :
      MonitorStep mon s (.step c) (s.setPc c (.returned res))
  | wake (c : Nat) {op : Op} (hcall : s.calls[c]? = some ⟨op, .asleep⟩) :
      MonitorStep mon s (.wake c) (s.setPc c .awake)

theorem MonitorStep.of_next {mon : Monitor Value Op Res} {s s' : MonitorState Value Op Res}
    {l : MonitorLabel Op} (h : mon.next s l = some s') : MonitorStep mon s l s' := by
  cases l with
  | invoke op =>
    obtain rfl := Option.some.inj h
    exact .invoke op
  | step c =>
    have hadvance : mon.advance s c = some s' := h
    unfold Monitor.advance at hadvance
    split at hadvance
    · rename_i op hcall
      split at hadvance
      · rename_i howner
        obtain rfl := Option.some.inj hadvance
        exact .acquire c hcall rfl (Option.isNone_iff_eq_none.mp howner)
      · contradiction
    · rename_i op first hcall
      split at hadvance
      · rename_i henter
        obtain rfl := Option.some.inj hadvance
        exact .answer c hcall henter
      · rename_i henter
        obtain rfl := Option.some.inj hadvance
        exact .sleep c hcall henter
    · rename_i hcall
      obtain rfl := Option.some.inj hadvance
      exact .leave c hcall
    · rename_i hcall
      obtain rfl := Option.some.inj hadvance
      exact .park c hcall
    · rename_i op hcall
      split at hadvance
      · rename_i howner
        obtain rfl := Option.some.inj hadvance
        exact .acquire c hcall rfl (Option.isNone_iff_eq_none.mp howner)
      · contradiction
    · rename_i hcall
      obtain rfl := Option.some.inj hadvance
      exact .notify c hcall
    · rename_i hcall
      obtain rfl := Option.some.inj hadvance
      exact .ret c hcall
    · contradiction
  | wake c =>
    simp only [Monitor.next] at h
    split at h
    · rename_i hcall
      obtain rfl := Option.some.inj h
      exact .wake c hcall
    · contradiction

/-! ### Calls -/

section calls
variable {s : MonitorState Value Op Res} {c i : Nat} {pc : MonitorPc Res}
  {call : MonitorCall Op Res}

@[simp] theorem MonitorState.setPc_value : (s.setPc c pc).value = s.value := rfl

@[simp] theorem MonitorState.setPc_owner : (s.setPc c pc).owner = s.owner := rfl

theorem MonitorState.setPc_calls : (s.setPc c pc).calls[i]? =
    (s.calls[i]?).map fun call => if c = i then { call with pc := pc } else call := by
  simp only [setPc, List.getElem?_modify]
  rfl

theorem MonitorState.notifyAll_calls : s.notifyAll.calls[i]? =
    (s.calls[i]?).map fun call => { call with pc := call.pc.notify } :=
  List.getElem?_map

/-- After a step of call `c`, a call is `c` at its new place, or another one
    where it was. -/
theorem MonitorState.of_setPc (h : (s.setPc c pc).calls[i]? = some call) :
    (i = c ∧ call.pc = pc ∧ ∃ old, s.calls[c]? = some old ∧ old.op = call.op) ∨
      (i ≠ c ∧ s.calls[i]? = some call) := by
  rw [setPc_calls] at h
  obtain ⟨old, hold, rfl⟩ := Option.map_eq_some_iff.mp h
  by_cases hc : c = i
  · left
    simp [hc, hold]
  · right
    simp [hc, hold, Ne.symm hc]

theorem MonitorState.setPc_self (h : s.calls[c]? = some call) :
    (s.setPc c pc).calls[c]? = some { call with pc := pc } := by
  rw [setPc_calls, h]
  simp

theorem MonitorState.setPc_ne (hne : i ≠ c) : (s.setPc c pc).calls[i]? = s.calls[i]? := by
  rw [setPc_calls]
  simp [Ne.symm hne]

@[simp] theorem MonitorPc.locked_notify : pc.notify.locked = pc.locked := by
  cases pc <;> rfl

theorem MonitorPc.notify_eq_parking : pc.notify = .parking ↔ pc = .parking := by
  cases pc <;> simp [notify]

theorem MonitorPc.notify_ne_asleep : pc.notify ≠ .asleep := by
  cases pc <;> simp [notify]

@[simp] theorem MonitorPc.answer?_notify : pc.notify.answer? = pc.answer? := by
  cases pc <;> rfl

/-- The call moves, or another one. -/
theorem MonitorState.call_setPc {v : Value} {o : Option Nat} {old : MonitorCall Op Res}
    (hcall : s.calls[i]? = some call) (hold : s.calls[c]? = some old) :
    ∃ call', (({ s with value := v, owner := o } : MonitorState Value Op Res).setPc c
        pc).calls[i]? = some call' ∧ call'.op = call.op ∧
      (call'.pc = call.pc ∨ old = call ∧ call'.pc = pc) := by
  by_cases hic : i = c
  · subst hic
    obtain rfl := Option.some.inj (hcall.symm.trans hold)
    exact ⟨_, MonitorState.setPc_self (s := { s with value := v, owner := o }) hold, rfl,
      .inr ⟨rfl, rfl⟩⟩
  · exact ⟨call, by rw [MonitorState.setPc_ne hic]; exact hcall, rfl, .inl rfl⟩

/-- What a step makes of a call: it keeps its operation, and comes to an answer
    in a critical section only. -/
theorem MonitorStep.keeps {mon : Monitor Value Op Res} {s' : MonitorState Value Op Res}
    {l : MonitorLabel Op} (hstep : MonitorStep mon s l s') (hcall : s.calls[i]? = some call) :
    ∃ call', s'.calls[i]? = some call' ∧ call'.op = call.op ∧
      (call'.pc.answer? = call.pc.answer? ∨ call.pc.answer? = none ∧
        ∃ first v' res notify, mon.enter first s.value call.op = (v', .answer res notify) ∧
          call'.pc.answer? = some res) := by
  -- all but the critical section with an answer
  have hsilent : ∀ {c : Nat} {old : MonitorCall Op Res} {pc : MonitorPc Res} {v : Value}
      {o : Option Nat}, s.calls[c]? = some old → pc.answer? = old.pc.answer? →
      ∃ call', (({ s with value := v, owner := o } : MonitorState Value Op Res).setPc c
          pc).calls[i]? = some call' ∧ call'.op = call.op ∧
        (call'.pc.answer? = call.pc.answer? ∨ call.pc.answer? = none ∧
          ∃ first v' res notify, mon.enter first s.value call.op = (v', .answer res notify) ∧
            call'.pc.answer? = some res) := by
    intro c old pc v o hold hsame
    obtain ⟨call', hcall', hop, hpc | ⟨heq, hpc⟩⟩ := MonitorState.call_setPc hcall hold
    · exact ⟨call', hcall', hop, .inl (by rw [hpc])⟩
    · exact ⟨call', hcall', hop, .inl (by rw [hpc, hsame, heq])⟩
  cases hstep with
  | invoke op =>
    have hlt := (List.getElem?_eq_some_iff.mp hcall).1
    exact ⟨call, by rw [List.getElem?_append_left hlt, hcall], rfl, .inl rfl⟩
  | @acquire c op pc first hold hpc howner =>
    apply hsilent hold
    rw [hpc]
    cases first <;> rfl
  | @answer c op first value res notify hold henter =>
    obtain ⟨call', hcall', hop, hpc | ⟨heq, hpc⟩⟩ := MonitorState.call_setPc hcall hold
    · exact ⟨call', hcall', hop, .inl (by rw [hpc])⟩
    · refine ⟨call', hcall', hop, .inr ⟨?_, first, value, res, notify, ?_, ?_⟩⟩
      · rw [← heq]
        rfl
      · rw [← heq]
        exact henter
      · rw [hpc]
        rfl
  | sleep c hold henter => exact hsilent hold rfl
  | @leave c op res notify hold =>
    apply hsilent hold
    cases notify <;> rfl
  | park c hold => exact hsilent hold rfl
  | @notify c op res hold =>
    have hnotified : s.notifyAll.calls[i]? = some { call with pc := call.pc.notify } := by
      rw [MonitorState.notifyAll_calls, hcall]
      rfl
    have hself : s.notifyAll.calls[c]? = some ⟨op, .notifying res⟩ := by
      rw [MonitorState.notifyAll_calls, hold]
      rfl
    have hmoved : ∃ call', (s.notifyAll.setPc c (.done res)).calls[i]? = some call' ∧ _ :=
      MonitorState.call_setPc hnotified hself
    obtain ⟨call', hcall', hop, hpc | ⟨heq, hpc⟩⟩ := hmoved
    · exact ⟨call', hcall', hop, .inl (by rw [hpc, MonitorPc.answer?_notify])⟩
    · refine ⟨call', hcall', hop, .inl ?_⟩
      have hanswer : (MonitorPc.notifying res).answer? = call.pc.notify.answer? :=
        congrArg (fun call => call.pc.answer?) heq
      rw [MonitorPc.answer?_notify] at hanswer
      rw [hpc, ← hanswer]
      rfl
  | ret c hold => exact hsilent hold rfl
  | wake c hold => exact hsilent hold rfl

end calls

/-! ### Mutual exclusion -/

/-- The lock is held by its owner, and by no one else. -/
structure Exclusive (s : MonitorState Value Op Res) : Prop where
  owner : ∀ c, s.owner = some c → ∃ call, s.calls[c]? = some call
  locked : ∀ c call, s.calls[c]? = some call → (call.pc.locked = true ↔ s.owner = some c)

section exclusion
variable {mon : Monitor Value Op Res} {s s' : MonitorState Value Op Res} {l : MonitorLabel Op}

/-- A call that moves takes the lock, keeps it, gives it back or is without
    it. -/
theorem Exclusive.move (h : Exclusive s) {c : Nat} {call : MonitorCall Op Res}
    (hcall : s.calls[c]? = some call) {v : Value} {o : Option Nat} {pc : MonitorPc Res}
    (hself : pc.locked = true ↔ o = some c)
    (hothers : ∀ i, i ≠ c → (o = some i ↔ s.owner = some i)) :
    Exclusive (({ s with value := v, owner := o } : MonitorState Value Op Res).setPc c pc) := by
  have hcall' : ({ s with value := v, owner := o } : MonitorState Value Op Res).calls[c]? =
      some call := hcall
  constructor
  · intro i hi
    by_cases hic : i = c
    · rw [hic, MonitorState.setPc_self hcall']
      exact ⟨_, rfl⟩
    · obtain ⟨other, hother⟩ := h.owner i ((hothers i hic).mp hi)
      rw [MonitorState.setPc_ne hic]
      exact ⟨other, hother⟩
  · intro i other hother
    rcases MonitorState.of_setPc hother with ⟨hic, hpc, -⟩ | ⟨hic, hold⟩
    · rw [hic, hpc]
      exact hself
    · rw [h.locked i other hold]
      exact (hothers i hic).symm

theorem Exclusive.notifyAll (h : Exclusive s) : Exclusive s.notifyAll := by
  constructor
  · intro i hi
    obtain ⟨call, hcall⟩ := h.owner i hi
    rw [MonitorState.notifyAll_calls, hcall]
    exact ⟨_, rfl⟩
  · intro i call hcall
    rw [MonitorState.notifyAll_calls] at hcall
    obtain ⟨old, hold, rfl⟩ := Option.map_eq_some_iff.mp hcall
    rw [MonitorPc.locked_notify]
    exact h.locked i old hold

theorem exclusive_step (h : Exclusive s) (hstep : MonitorStep mon s l s') : Exclusive s' := by
  cases hstep with
  | invoke op =>
    constructor
    · intro c hc
      obtain ⟨call, hcall⟩ := h.owner c hc
      have hlt := (List.getElem?_eq_some_iff.mp hcall).1
      exact ⟨call, by rw [List.getElem?_append_left hlt, hcall]⟩
    · intro c call hcall
      rw [List.getElem?_append] at hcall
      split at hcall
      · exact h.locked c call hcall
      · rename_i hge
        have hnone : s.owner ≠ some c := by
          intro howner
          obtain ⟨other, hother⟩ := h.owner c howner
          exact hge (List.getElem?_eq_some_iff.mp hother).1
        rw [List.getElem?_singleton] at hcall
        split at hcall
        · rw [← Option.some.inj hcall]
          simp [MonitorPc.locked, hnone]
        · contradiction
  | @acquire c op pc first hcall hpc howner =>
    refine h.move (v := s.value) hcall ?_ ?_
    · simp [MonitorPc.locked]
    · intro i hne
      simp [howner, Ne.symm hne]
  | @answer c op first value res notify hcall henter =>
    have howner := (h.locked c _ hcall).mp rfl
    exact h.move (o := s.owner) hcall (by simp [MonitorPc.locked, howner]) fun i _ => Iff.rfl
  | @sleep c op first value hcall henter =>
    have howner := (h.locked c _ hcall).mp rfl
    exact h.move (o := s.owner) hcall (by simp [MonitorPc.locked, howner]) fun i _ => Iff.rfl
  | @leave c op res notify hcall =>
    have howner := (h.locked c _ hcall).mp rfl
    refine h.move (v := s.value) hcall ?_ ?_
    · cases notify <;> simp [MonitorPc.locked]
    · intro i hne
      simp [howner, Ne.symm hne]
  | @park c op hcall =>
    have howner := (h.locked c _ hcall).mp rfl
    refine h.move (v := s.value) hcall ?_ ?_
    · simp [MonitorPc.locked]
    · intro i hne
      simp [howner, Ne.symm hne]
  | @notify c op res hcall =>
    have howner : s.owner ≠ some c := fun howner => by
      have hlocked := (h.locked c _ hcall).mpr howner
      contradiction
    have hcall' : s.notifyAll.calls[c]? = some ⟨op, .notifying res⟩ := by
      rw [MonitorState.notifyAll_calls, hcall]
      rfl
    exact h.notifyAll.move (v := s.value) (o := s.owner) hcall'
      (by simp [MonitorPc.locked, howner]) fun i _ => Iff.rfl
  | @ret c op res hcall | @wake c op hcall =>
    have howner : s.owner ≠ some c := fun howner => by
      have hlocked := (h.locked c _ hcall).mpr howner
      contradiction
    exact h.move (v := s.value) (o := s.owner) hcall
      (by simp [MonitorPc.locked, howner]) fun i _ => Iff.rfl

theorem reachable_exclusive (h : Reachable mon.system s) : Exclusive s := by
  refine invariant (P := Exclusive) ?_ ?_ h
  · intro s hs
    rw [show s = mon.start from hs]
    constructor
    · intro c hc
      contradiction
    · intro c call hcall
      contradiction
  · intro s l s' hi hstep
    exact exclusive_step hi (.of_next hstep)

end exclusion

/-! ### No lost wake-up -/

/-- Whoever may end the wait of a sleeper notifies: `blocked v op` says that
    `op` has a reason to wait while the value is `v`. -/
structure Monitor.Alerts (mon : Monitor Value Op Res) (blocked : Value → Op → Prop) : Prop where
  sleeps : ∀ {first v op v'}, mon.enter first v op = (v', .sleep) → blocked v' op
  /-- A section that ends in a wait of its own leaves the others blocked. -/
  waits : ∀ {first v op v'}, mon.enter first v op = (v', .sleep) →
    ∀ op', blocked v op' → blocked v' op'
  answers : ∀ {first v op v' res notify}, mon.enter first v op = (v', .answer res notify) →
    ∀ op', blocked v op' → blocked v' op' ∨ notify = true

/-- Some call is going to notify. -/
def Alerting (s : MonitorState Value Op Res) : Prop :=
  ∃ (c : Nat) (call : MonitorCall Op Res), s.calls[c]? = some call ∧ call.pc.alerting = true

/-- A sleeper has a reason to wait, or is going to be notified. -/
structure Alert (blocked : Value → Op → Prop) (s : MonitorState Value Op Res) : Prop where
  parking : ∀ (c : Nat) op, s.calls[c]? = some ⟨op, .parking⟩ → blocked s.value op
  asleep : ∀ (c : Nat) op, s.calls[c]? = some ⟨op, .asleep⟩ → blocked s.value op ∨ Alerting s

section alert
variable {mon : Monitor Value Op Res} {blocked : Value → Op → Prop}
  {s s' : MonitorState Value Op Res} {l : MonitorLabel Op} {c : Nat}
  {call : MonitorCall Op Res} {pc : MonitorPc Res} {v : Value} {o : Option Nat}

/-- A notification stays due while another call moves. -/
theorem Alerting.move (h : Alerting s) (hcall : s.calls[c]? = some call)
    (hself : call.pc.alerting = true → pc.alerting = true) :
    Alerting (({ s with value := v, owner := o } : MonitorState Value Op Res).setPc c pc) := by
  obtain ⟨i, other, hother, halerting⟩ := h
  by_cases hic : i = c
  · rw [hic, hcall] at hother
    obtain rfl := Option.some.inj hother
    exact ⟨c, _, MonitorState.setPc_self hcall, hself halerting⟩
  · refine ⟨i, other, ?_, halerting⟩
    rw [MonitorState.setPc_ne hic]
    exact hother

/-- A call moves, and the value stays. -/
theorem Alert.move (h : Alert blocked s) (hcall : s.calls[c]? = some call)
    (hself : call.pc.alerting = true → pc.alerting = true) (hparking : pc ≠ .parking)
    (hasleep : pc = .asleep → call.pc = .parking) :
    Alert blocked (({ s with owner := o } : MonitorState Value Op Res).setPc c pc) := by
  constructor
  · intro i op hi
    rcases MonitorState.of_setPc hi with ⟨-, hpc, -⟩ | ⟨hic, hold⟩
    · exact absurd hpc.symm hparking
    · exact h.parking i op hold
  · intro i op hi
    rcases MonitorState.of_setPc hi with ⟨-, hpc, old, hold, hop⟩ | ⟨hic, hold⟩
    · left
      obtain rfl := Option.some.inj (hcall.symm.trans hold)
      apply h.parking c op
      rw [hcall, ← hasleep hpc.symm, ← show call.op = op from hop]
    · rcases h.asleep i op hold with hblocked | halerting
      · exact .inl hblocked
      · exact .inr (halerting.move (v := s.value) hcall hself)

theorem alert_step (hmon : mon.Alerts blocked) (he : Exclusive s) (h : Alert blocked s)
    (hstep : MonitorStep mon s l s') : Alert blocked s' := by
  cases hstep with
  | invoke op =>
    have hold : ∀ {c : Nat} {op' : Op} {pc : MonitorPc Res},
        (s.calls ++ [⟨op, .invoked⟩])[c]? = some ⟨op', pc⟩ → pc ≠ .invoked →
          s.calls[c]? = some ⟨op', pc⟩ := by
      intro c op' pc hcall hpc
      rw [List.getElem?_append] at hcall
      split at hcall
      · exact hcall
      · rw [List.getElem?_singleton] at hcall
        split at hcall
        · cases Option.some.inj hcall
          exact absurd rfl hpc
        · contradiction
    constructor
    · intro c op' hcall
      exact h.parking c op' (hold hcall (by simp))
    · intro c op' hcall
      rcases h.asleep c op' (hold hcall (by simp)) with hblocked | ⟨i, call, hi, halerting⟩
      · exact .inl hblocked
      · refine .inr ⟨i, call, ?_, halerting⟩
        rw [List.getElem?_append_left (List.getElem?_eq_some_iff.mp hi).1]
        exact hi
  | @acquire c op pc first hcall hpc howner =>
    refine h.move hcall ?_ (by simp) (by simp)
    intro halerting
    rw [show MonitorPc.alerting pc = false by rw [hpc]; cases first <;> rfl] at halerting
    contradiction
  | @answer c op first value res notify hcall henter =>
    have howner := (he.locked c _ hcall).mp rfl
    constructor
    · -- no one else is in a critical section
      intro i op' hi
      rcases MonitorState.of_setPc hi with ⟨-, hpc, -⟩ | ⟨hic, hold⟩
      · contradiction
      · have howner' := (he.locked i _ hold).mp rfl
        exact absurd (Option.some.inj (howner'.symm.trans howner)) hic
    · intro i op' hi
      rcases MonitorState.of_setPc hi with ⟨-, hpc, -⟩ | ⟨hic, hold⟩
      · contradiction
      · rcases h.asleep i op' hold with hblocked | halerting
        · rcases hmon.answers henter op' hblocked with hstill | hnotify
          · exact .inl hstill
          · exact .inr ⟨c, _, MonitorState.setPc_self hcall, hnotify⟩
        · exact .inr (halerting.move (o := s.owner) hcall (by simp [MonitorPc.alerting]))
  | @sleep c op first value hcall henter =>
    have howner := (he.locked c _ hcall).mp rfl
    constructor
    · intro i op' hi
      rcases MonitorState.of_setPc hi with ⟨-, -, old, hold, hop⟩ | ⟨hic, hold⟩
      · obtain rfl := Option.some.inj (hcall.symm.trans hold)
        have hsame : op = op' := hop
        exact hsame ▸ hmon.sleeps henter
      · have howner' := (he.locked i _ hold).mp rfl
        exact absurd (Option.some.inj (howner'.symm.trans howner)) hic
    · intro i op' hi
      rcases MonitorState.of_setPc hi with ⟨-, hpc, -⟩ | ⟨hic, hold⟩
      · contradiction
      · rcases h.asleep i op' hold with hblocked | halerting
        · exact .inl (hmon.waits henter op' hblocked)
        · exact .inr (halerting.move (o := s.owner) hcall (by simp [MonitorPc.alerting]))
  | @leave c op res notify hcall =>
    refine h.move hcall ?_ ?_ ?_
    · cases notify <;> simp [MonitorPc.alerting]
    · cases notify <;> simp
    · cases notify <;> simp
  | @park c op hcall => exact h.move hcall (by simp [MonitorPc.alerting]) (by simp) (by simp)
  | @notify c op res hcall =>
    constructor
    · intro i op' hi
      rcases MonitorState.of_setPc hi with ⟨-, hpc, -⟩ | ⟨hic, hold⟩
      · contradiction
      · rw [MonitorState.notifyAll_calls] at hold
        obtain ⟨old, hold, heq⟩ := Option.map_eq_some_iff.mp hold
        obtain ⟨op'', pc⟩ := old
        obtain ⟨hop, hpc⟩ := MonitorCall.mk.inj heq
        obtain rfl : op'' = op' := hop
        obtain rfl : pc = .parking := MonitorPc.notify_eq_parking.mp hpc
        exact h.parking i op'' hold
    · -- no one is asleep any more
      intro i op' hi
      rcases MonitorState.of_setPc hi with ⟨-, hpc, -⟩ | ⟨hic, hold⟩
      · contradiction
      · rw [MonitorState.notifyAll_calls] at hold
        obtain ⟨old, hold, heq⟩ := Option.map_eq_some_iff.mp hold
        exact absurd (MonitorCall.mk.inj heq).2 MonitorPc.notify_ne_asleep
  | @ret c op res hcall =>
    exact h.move (o := s.owner) hcall (by simp [MonitorPc.alerting]) (by simp) (by simp)
  | @wake c op hcall =>
    exact h.move (o := s.owner) hcall (by simp [MonitorPc.alerting]) (by simp) (by simp)

theorem reachable_alert (hmon : mon.Alerts blocked) (h : Reachable mon.system s) :
    Alert blocked s := by
  refine invariant_reachable (P := Alert blocked) ?_ ?_ h
  · intro s hs
    rw [show s = mon.start from hs]
    constructor
    · intro c op hcall
      contradiction
    · intro c op hcall
      contradiction
  · intro s l s' hreach hi hstep
    exact alert_step hmon (reachable_exclusive hreach) hi (.of_next hstep)

/-- **No lost wake-up**: when no call can move, each of them has returned, or
    is asleep and has a reason to wait. -/
theorem Monitor.no_lost_wakeup (hmon : mon.Alerts blocked) (h : Reachable mon.system s)
    (hstuck : ∀ c, mon.next s (.step c) = none) (hcall : s.calls[c]? = some call) :
    (∃ res, call.pc = .returned res) ∨ call.pc = .asleep ∧ blocked s.value call.op := by
  have hexclusive := reachable_exclusive h
  -- whoever holds the lock can move, so it is free
  have howner : s.owner = none := by
    cases howner : s.owner with
    | none => rfl
    | some c' =>
      obtain ⟨holder, hholder⟩ := hexclusive.owner c' howner
      have hlocked := (hexclusive.locked c' holder hholder).mpr howner
      have hmoves := hstuck c'
      simp only [Monitor.next, Monitor.advance, hholder] at hmoves
      obtain ⟨op, pc⟩ := holder
      cases pc <;> simp_all [MonitorPc.locked]
      split at hmoves <;> simp at hmoves
  have hstays : ∀ {i : Nat} {other : MonitorCall Op Res}, s.calls[i]? = some other →
      (∃ res, other.pc = .returned res) ∨ other.pc = .asleep := by
    intro i other hother
    have hmoves := hstuck i
    simp only [Monitor.next, Monitor.advance, hother] at hmoves
    obtain ⟨op, pc⟩ := other
    cases pc <;> simp_all
    split at hmoves <;> simp at hmoves
  rcases hstays hcall with hreturned | hasleep
  · exact .inl hreturned
  · right
    refine ⟨hasleep, ?_⟩
    obtain ⟨op, pc⟩ := call
    obtain rfl : pc = .asleep := hasleep
    rcases (reachable_alert hmon h).asleep c op hcall with hblocked | ⟨i, other, hother, halerting⟩
    · exact hblocked
    · rcases hstays hother with ⟨res, hreturned⟩ | hsleeps
      · rw [hreturned] at halerting
        contradiction
      · rw [hsleeps] at halerting
        contradiction

end alert

/-! ### Bounds -/

/-- How many steps the calls have left, if each sleeps at most once. -/
def MonitorState.work (s : MonitorState Value Op Res) : Nat :=
  (s.calls.map fun call => call.pc.rank).sum

section bounds
variable {mon : Monitor Value Op Res} {s s' : MonitorState Value Op Res} {l : MonitorLabel Op}
  {c : Nat} {call : MonitorCall Op Res} {pc : MonitorPc Res}

theorem sum_modify {α : Type} {f : α → α} {g : α → Nat} {xs : List α} {i : Nat} {x : α}
    (h : xs[i]? = some x) :
    ((xs.modify i f).map g).sum + g x = (xs.map g).sum + g (f x) := by
  induction xs generalizing i with
  | nil => simp at h
  | cons y xs ih =>
    cases i with
    | zero =>
      obtain rfl : y = x := by simpa using h
      simp only [List.modify_zero_cons, List.map_cons, List.sum_cons]
      omega
    | succ i =>
      have htail := ih (by simpa using h)
      simp only [List.modify_succ_cons, List.map_cons, List.sum_cons]
      omega

theorem MonitorState.work_setPc {v : Value} {o : Option Nat} (h : s.calls[c]? = some call)
    (hrank : pc.rank < call.pc.rank) :
    (({ s with value := v, owner := o } : MonitorState Value Op Res).setPc c pc).work < s.work := by
  have hsum : (({ s with value := v, owner := o } : MonitorState Value Op Res).setPc c pc).work +
      call.pc.rank = s.work + pc.rank :=
    sum_modify (f := fun call => { call with pc := pc }) (g := fun call => call.pc.rank) h
  omega

theorem MonitorState.work_notifyAll : s.notifyAll.work ≤ s.work := by
  unfold work notifyAll
  generalize s.calls = calls
  induction calls with
  | nil => exact Nat.le_refl 0
  | cons call calls ih =>
    have hcall : call.pc.notify.rank ≤ call.pc.rank := by
      cases call.pc <;> simp [MonitorPc.notify, MonitorPc.rank]
    simp only [List.map_cons, List.sum_cons, List.map_map] at ih ⊢
    omega

theorem MonitorState.work_le : s.work ≤ 9 * s.calls.length := by
  unfold work
  induction s.calls with
  | nil => exact Nat.le_refl 0
  | cons call calls ih =>
    have hcall : call.pc.rank ≤ 9 := by
      cases call.pc with
      | holding first => cases first <;> simp [MonitorPc.rank]
      | _ => simp [MonitorPc.rank]
    simp only [List.map_cons, List.sum_cons, List.length_cons]
    omega

/-- Each step of a call is one of those it has left. -/
theorem work_step (honce : ∀ v op v', mon.enter false v op ≠ (v', .sleep))
    (hstep : MonitorStep mon s l s') (hmoves : ∀ op, l ≠ .invoke op) : s'.work < s.work := by
  cases hstep with
  | invoke op => exact absurd rfl (hmoves op)
  | @acquire c op pc first hcall hpc howner =>
    apply MonitorState.work_setPc (v := s.value) hcall
    rw [hpc]
    cases first <;> simp [MonitorPc.rank]
  | @answer c op first value res notify hcall henter =>
    apply MonitorState.work_setPc (o := s.owner) hcall
    cases first <;> simp [MonitorPc.rank]
  | @sleep c op first value hcall henter =>
    apply MonitorState.work_setPc (o := s.owner) hcall
    cases first with
    | true => simp [MonitorPc.rank]
    | false => exact absurd henter (honce _ _ _)
  | @leave c op res notify hcall =>
    apply MonitorState.work_setPc (v := s.value) hcall
    cases notify <;> simp [MonitorPc.rank]
  | @park c op hcall =>
    exact MonitorState.work_setPc (v := s.value) hcall (by simp [MonitorPc.rank])
  | @notify c op res hcall =>
    have hcall' : s.notifyAll.calls[c]? = some ⟨op, .notifying res⟩ := by
      rw [MonitorState.notifyAll_calls, hcall]
      rfl
    have hless := MonitorState.work_setPc (v := s.value) (o := s.owner) hcall'
      (show (MonitorPc.done res).rank < (MonitorPc.notifying res).rank by simp [MonitorPc.rank])
    exact Nat.lt_of_lt_of_le hless MonitorState.work_notifyAll
  | @ret c op res hcall | @wake c op hcall =>
    exact MonitorState.work_setPc (v := s.value) (o := s.owner) hcall (by simp [MonitorPc.rank])

/-- **Calls end**: where no call sleeps twice, the calls in progress take a
    bounded number of steps. -/
theorem Monitor.run_bounded (honce : ∀ v op v', mon.enter false v op ≠ (v', .sleep))
    {tr : Trace (MonitorState Value Op Res) (MonitorLabel Op)} (hrun : Run mon.system s tr s')
    (hmoves : ∀ e ∈ tr, ∀ op, e.2 ≠ .invoke op) : tr.length + s'.work ≤ s.work := by
  induction hrun with
  | nil => simp
  | @snoc t t' tr l hprefix hlast ih =>
    have hbefore := ih fun e he => hmoves e (List.mem_append_left _ he)
    have hless := work_step honce (.of_next hlast) (hmoves (t, l) (by simp))
    rw [List.length_append, List.length_singleton]
    omega

end bounds

/-! ### Linearizability -/

/-- The object that a monitor implements: an operation takes effect in the
    critical section after which it answers. -/
structure Monitor.Implements (mon : Monitor Value Op Res) (obj : Object Value Op Res) : Prop where
  init : mon.init = obj.init
  answers : ∀ {first v op v' res notify}, mon.enter first v op = (v', .answer res notify) →
    obj.apply v op = (v', res)
  sleeps : ∀ {first v op v'}, mon.enter first v op = (v', .sleep) → v' = v

/-- What a step shows of the calls. -/
def Monitor.events (mon : Monitor Value Op Res) (s : MonitorState Value Op Res) :
    MonitorLabel Op → List (Event Op Res)
  | .invoke op => [.invoke s.calls.length op]
  | .step c =>
    match s.calls[c]? with
    | some ⟨op, .holding first⟩ =>
      match (mon.enter first s.value op).2 with
      | .answer res _ => [.effect ⟨c, op, res⟩]
      | .sleep => []
    | some ⟨_, .done res⟩ => [.respond c res]
    | _ => []
  | .wake _ => []

/-- Where a call stands, as far as this shows. -/
def MonitorCall.stage (call : MonitorCall Op Res) : Stage Op Res :=
  match call.pc with
  | .leaving res _ => .effective res
  | .notifying res => .effective res
  | .done res => .effective res
  | .returned _ => .responded
  | _ => .invoked call.op

/-- The atomic object stands where the monitor stands. -/
structure Mirrors (s : MonitorState Value Op Res) (a : Atomic Value Op Res) : Prop where
  value : a.value = s.value
  stage : ∀ c, a.stage c = ((s.calls[c]?).map MonitorCall.stage).getD .absent

section linearizability
variable {mon : Monitor Value Op Res} {obj : Object Value Op Res}
  {s s' : MonitorState Value Op Res} {a : Atomic Value Op Res} {l : MonitorLabel Op} {c : Nat}
  {call : MonitorCall Op Res} {pc : MonitorPc Res} {v : Value} {o : Option Nat}

theorem Mirrors.move (h : Mirrors s a) (hcall : s.calls[c]? = some call) :
    Mirrors (({ s with value := v, owner := o } : MonitorState Value Op Res).setPc c pc)
      ({ a with value := v }.move c (MonitorCall.stage { call with pc := pc })) := by
  have hcall' : ({ s with value := v, owner := o } : MonitorState Value Op Res).calls[c]? =
      some call := hcall
  refine ⟨rfl, fun i => ?_⟩
  by_cases hic : i = c
  · rw [hic, Atomic.stage_move_self, MonitorState.setPc_self hcall']
    rfl
  · rw [Atomic.stage_move_ne hic, MonitorState.setPc_ne hic]
    exact h.stage i

/-- The call has moved, but nothing shows of it. -/
theorem Mirrors.keep (h : Mirrors s a) (hcall : s.calls[c]? = some call)
    (hstage : MonitorCall.stage { call with pc := pc } = call.stage) :
    Mirrors (({ s with owner := o } : MonitorState Value Op Res).setPc c pc) a := by
  have hcall' : ({ s with owner := o } : MonitorState Value Op Res).calls[c]? = some call := hcall
  refine ⟨h.value, fun i => ?_⟩
  by_cases hic : i = c
  · rw [hic, h.stage c, hcall, MonitorState.setPc_self hcall', Option.map_some, Option.map_some,
      hstage]
  · rw [MonitorState.setPc_ne hic]
    exact h.stage i

theorem Mirrors.notifyAll (h : Mirrors s a) : Mirrors s.notifyAll a := by
  refine ⟨h.value, fun i => ?_⟩
  rw [h.stage i, MonitorState.notifyAll_calls, Option.map_map]
  congr 2
  funext call
  obtain ⟨op, pc⟩ := call
  cases pc <;> rfl

theorem mirrors_step (hmon : mon.Implements obj) (h : Mirrors s a)
    (hstep : MonitorStep mon s l s') :
    ∃ tr' a', Run obj.atomic a tr' a' ∧ tr'.map Prod.snd = mon.events s l ∧ Mirrors s' a' := by
  cases hstep with
  | invoke op =>
    have habsent : a.stage s.calls.length = .absent := by
      rw [h.stage, List.getElem?_eq_none (Nat.le_refl _)]
      rfl
    refine ⟨_, _, Run.single (.invoke _ op habsent), rfl, ⟨h.value, fun i => ?_⟩⟩
    by_cases hi : i = s.calls.length
    · rw [hi, Atomic.stage_move_self]
      simp [MonitorCall.stage]
    · rw [Atomic.stage_move_ne hi, h.stage, List.getElem?_append]
      split
      · rfl
      · rw [List.getElem?_eq_none (by omega), List.getElem?_eq_none (by simp; omega)]
  | @acquire c op pc first hcall hpc howner =>
    refine ⟨[], a, Run.nil, ?_, h.keep hcall ?_⟩
    · cases first <;> simp [Monitor.events, hcall, hpc]
    · cases first <;> simp [MonitorCall.stage, hpc]
  | @answer c op first value res notify hcall henter =>
    have hinvoked : a.stage c = .invoked op := by
      rw [h.stage, hcall]
      rfl
    have happly : obj.apply a.value op = (value, res) := by
      rw [h.value]
      exact hmon.answers henter
    refine ⟨_, _, Run.single (.effect c op hinvoked happly), ?_, h.move hcall⟩
    simp [Monitor.events, hcall, henter]
  | @sleep c op first value hcall henter =>
    obtain rfl := hmon.sleeps henter
    refine ⟨[], a, Run.nil, ?_, h.keep (o := s.owner) hcall rfl⟩
    simp [Monitor.events, hcall, henter]
  | @leave c op res notify hcall =>
    refine ⟨[], a, Run.nil, ?_, h.keep hcall ?_⟩
    · simp [Monitor.events, hcall]
    · cases notify <;> rfl
  | @park c op hcall =>
    refine ⟨[], a, Run.nil, ?_, h.keep hcall rfl⟩
    simp [Monitor.events, hcall]
  | @notify c op res hcall =>
    have hcall' : s.notifyAll.calls[c]? = some ⟨op, .notifying res⟩ := by
      rw [MonitorState.notifyAll_calls, hcall]
      rfl
    refine ⟨[], a, Run.nil, ?_, h.notifyAll.keep (o := s.owner) hcall' rfl⟩
    simp [Monitor.events, hcall]
  | @ret c op res hcall =>
    have heffective : a.stage c = .effective res := by
      rw [h.stage, hcall]
      rfl
    refine ⟨_, _, Run.single (.respond c res heffective), ?_, ?_⟩
    · simp [Monitor.events, hcall]
    · have hmoved : Mirrors (s.setPc c (.returned res)) _ := h.move hcall
      rw [show ({ a with value := s.value } : Atomic Value Op Res) = a by rw [← h.value]] at hmoved
      exact hmoved
  | @wake c op hcall => exact ⟨[], a, Run.nil, rfl, h.keep (o := s.owner) hcall rfl⟩

/-- **Monitors linearize**, in the order of the critical sections after which
    they answer. -/
theorem Monitor.linearizes (hmon : mon.Implements obj)
    {tr : Trace (MonitorState Value Op Res) (MonitorLabel Op)} (h : InitRun mon.system tr s) :
    obj.Linearizes (observe mon.events tr) (effects (observe mon.events tr)) s.value := by
  have hinit : ∀ s, mon.system.init s → Mirrors s ⟨obj.init, fun _ => .absent⟩ := by
    intro s hs
    rw [show s = mon.start from hs]
    exact ⟨hmon.init.symm, fun c => rfl⟩
  obtain ⟨a, hmirrors, hlinear⟩ :=
    obj.linearizes_of_simulation Mirrors mon.events hinit
      (fun s l s' a _ hmirrors hstep => mirrors_step hmon hmirrors (.of_next hstep)) h
  rwa [hmirrors.value] at hlinear

end linearizability

end LTS
