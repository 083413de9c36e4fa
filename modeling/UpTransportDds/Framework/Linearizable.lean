import Mathlib.Logic.Function.Basic
import UpTransportDds.Framework.System

/-! # Linearizability

  A call on a shared object is invoked, takes effect at one moment and then
  responds. The atomic object does just this, for any number of calls at a
  time. Each of its histories has one order of the effects that a sequential
  object explains, and which calls that do not overlap cannot contradict.

  A concurrent object is linearizable as soon as the atomic one simulates it.
-/

namespace LTS

/-! ### Objects and histories -/

/-- A sequential object: what an operation makes of a value, and what it
    answers. -/
structure Object (Value Op Res : Type) where
  init : Value
  apply : Value → Op → Value × Res

/-- A call that has taken effect. -/
structure Effect (Op Res : Type) where
  call : Nat
  op : Op
  res : Res
  deriving DecidableEq, Repr

/-- What happens to a call. -/
inductive Event (Op Res : Type) where
  | invoke (c : Nat) (op : Op)
  | effect (e : Effect Op Res)
  | respond (c : Nat) (res : Res)
  deriving DecidableEq, Repr

/-- Where a call stands. -/
inductive Stage (Op Res : Type) where
  | absent
  | invoked (op : Op)
  | effective (res : Res)
  | responded
  deriving DecidableEq, Repr

variable {Value Op Res : Type}

def Event.effect? : Event Op Res → Option (Effect Op Res)
  | .effect e => some e
  | _ => none

/-- The effects of a history, in their order. -/
def effects (history : List (Event Op Res)) : List (Effect Op Res) :=
  history.filterMap Event.effect?

/-- Taken one after the other, the effects lead from `v` to `v'` and give the
    recorded answers. -/
def Object.Legal (obj : Object Value Op Res) : Value → List (Effect Op Res) → Value → Prop
  | v, [], v' => v = v'
  | v, e :: order, v' => (obj.apply v e.op).2 = e.res ∧ obj.Legal (obj.apply v e.op).1 order v'

/-- `order` is a linearization of the history, and leads to the value `v`. -/
structure Object.Linearizes (obj : Object Value Op Res) (history : List (Event Op Res))
    (order : List (Effect Op Res)) (v : Value) : Prop where
  legal : obj.Legal obj.init order v
  /-- No call takes effect twice. -/
  once : (order.map Effect.call).Nodup
  invoked : ∀ e ∈ order, .invoke e.call e.op ∈ history
  answered : ∀ c res, .respond c res ∈ history → ∃ op, ⟨c, op, res⟩ ∈ order
  /-- What has responded before another call is invoked comes before it. -/
  realTime : ∀ e ∈ order, ∀ e' ∈ order, ∀ res op,
    [.respond e.call res, .invoke e'.call op].Sublist history → [e, e'].Sublist order

section effects
variable {history history' : List (Event Op Res)} {e : Effect Op Res}

@[simp] theorem effects_append :
    effects (history ++ history') = effects history ++ effects history' :=
  List.filterMap_append

theorem mem_effects : e ∈ effects history ↔ .effect e ∈ history := by
  simp only [effects, List.mem_filterMap]
  constructor
  · rintro ⟨event, hmem, heq⟩
    cases event with
    | effect e' =>
      obtain rfl : e' = e := by simpa [Event.effect?] using heq
      exact hmem
    | _ => contradiction
  · intro hmem
    exact ⟨_, hmem, rfl⟩

end effects

section legal
variable {obj : Object Value Op Res} {v v' v'' : Value} {order order' : List (Effect Op Res)}

theorem Object.legal_append :
    obj.Legal v (order ++ order') v'' ↔ ∃ v', obj.Legal v order v' ∧ obj.Legal v' order' v'' := by
  induction order generalizing v with
  | nil => simp [Object.Legal]
  | cons e order ih => simp [Object.Legal, ih, and_assoc]

end legal

/-- A pair in a longer list: it was there before, or ends with the new
    element. -/
theorem pair_sublist_concat {α : Type} {xs : List α} {a b x : α} :
    [a, b].Sublist (xs ++ [x]) ↔ [a, b].Sublist xs ∨ a ∈ xs ∧ b = x := by
  constructor
  · intro h
    obtain ⟨front, back, hsplit, hfront, hback⟩ := List.sublist_append_iff.mp h
    cases back with
    | nil =>
      left
      rw [List.append_nil] at hsplit
      rwa [hsplit]
    | cons y back =>
      obtain ⟨rfl, rfl⟩ : y = x ∧ back = [] := by
        have hlen := hback.length_le
        rw [List.length_cons, List.length_singleton] at hlen
        have hnil : back = [] := List.eq_nil_of_length_eq_zero (by omega)
        subst hnil
        exact ⟨List.mem_singleton.mp (List.singleton_sublist.mp hback), rfl⟩
      right
      have hlast : front = [a] ∧ y = b := by
        have := List.append_inj' (show [a] ++ [b] = front ++ [y] from hsplit) rfl
        exact ⟨this.1.symm, by simpa using this.2.symm⟩
      rw [hlast.1] at hfront
      exact ⟨List.singleton_sublist.mp hfront, hlast.2.symm⟩
  · rintro (h | ⟨ha, rfl⟩)
    · exact h.trans (List.sublist_append_left _ _)
    · exact (List.singleton_sublist.mpr ha).append (List.Sublist.refl [b])

/-! ### The atomic object -/

/-- The value of an object, and where each call stands. -/
structure Atomic (Value Op Res : Type) where
  value : Value
  stage : Nat → Stage Op Res

namespace Atomic

/-- Call `c` moves to another stage. -/
def move (a : Atomic Value Op Res) (c : Nat) (stage : Stage Op Res) : Atomic Value Op Res :=
  { a with stage := Function.update a.stage c stage }

variable {a : Atomic Value Op Res} {c c' : Nat} {stage : Stage Op Res}

@[simp] theorem value_move : (a.move c stage).value = a.value := rfl

@[simp] theorem stage_move_self : (a.move c stage).stage c = stage := by
  simp [move]

theorem stage_move_ne (h : c' ≠ c) : (a.move c stage).stage c' = a.stage c' := by
  simp [move, h]

end Atomic

/-- The steps of the atomic object. -/
inductive Object.Step (obj : Object Value Op Res) (a : Atomic Value Op Res) :
    Event Op Res → Atomic Value Op Res → Prop where
  | invoke (c : Nat) (op : Op) (hstage : a.stage c = .absent) :
      obj.Step a (.invoke c op) (a.move c (.invoked op))
  | effect (c : Nat) (op : Op) {v : Value} {res : Res} (hstage : a.stage c = .invoked op)
      (happly : obj.apply a.value op = (v, res)) :
      obj.Step a (.effect ⟨c, op, res⟩) ({ a with value := v }.move c (.effective res))
  | respond (c : Nat) (res : Res) (hstage : a.stage c = .effective res) :
      obj.Step a (.respond c res) (a.move c .responded)

/-- The atomic object, which any number of calls share. -/
def Object.atomic (obj : Object Value Op Res) :
    System (Atomic Value Op Res) (Event Op Res) where
  init := (· = ⟨obj.init, fun _ => .absent⟩)
  step := obj.Step

/-! ### Its histories linearize -/

/-- The call that an event is about. -/
def Event.call : Event Op Res → Nat
  | .invoke c _ => c
  | .effect e => e.call
  | .respond c _ => c

/-- What the stage of call `c` tells of the history. -/
def Told (history : List (Event Op Res)) (c : Nat) : Stage Op Res → Prop
  | .absent => (∀ op, .invoke c op ∉ history) ∧ (∀ e ∈ effects history, e.call ≠ c) ∧
      ∀ res, .respond c res ∉ history
  | .invoked op => .invoke c op ∈ history ∧ (∀ e ∈ effects history, e.call ≠ c) ∧
      ∀ res, .respond c res ∉ history
  | .effective res => (∃ op, ⟨c, op, res⟩ ∈ effects history) ∧ ∀ res, .respond c res ∉ history
  | .responded => True

/-- What a history of the atomic object is like, and where it leads. -/
structure Historic (obj : Object Value Op Res) (history : List (Event Op Res))
    (a : Atomic Value Op Res) : Prop where
  told : ∀ c, Told history c (a.stage c)
  linearizes : obj.Linearizes history (effects history) a.value

section histories
variable {obj : Object Value Op Res} {history : List (Event Op Res)} {event : Event Op Res}
  {a a' : Atomic Value Op Res} {c : Nat} {stage : Stage Op Res}

/-- An event tells nothing of the other calls. -/
theorem Told.concat (h : Told history c stage) (hne : event.call ≠ c) :
    Told (history ++ [event]) c stage := by
  have hinvoke : ∀ op, Event.invoke c op ≠ event := by
    rintro op rfl
    exact hne rfl
  have hrespond : ∀ res, Event.respond c res ≠ event := by
    rintro res rfl
    exact hne rfl
  have heffect : (∀ e ∈ effects history, e.call ≠ c) →
      ∀ e ∈ effects (history ++ [event]), e.call ≠ c := by
    intro hold e he
    rcases List.mem_append.mp (mem_effects.mp he) with hmem | hmem
    · exact hold e (mem_effects.mpr hmem)
    · rw [List.mem_singleton] at hmem
      rintro rfl
      rw [← hmem] at hne
      exact hne rfl
  cases stage with
  | absent =>
    exact ⟨by simpa [hinvoke] using h.1, heffect h.2.1, by simpa [hrespond] using h.2.2⟩
  | invoked op =>
    exact ⟨List.mem_append_left _ h.1, heffect h.2.1, by simpa [hrespond] using h.2.2⟩
  | effective res =>
    obtain ⟨⟨op, hmem⟩, hnone⟩ := h
    refine ⟨⟨op, ?_⟩, by simpa [hrespond] using hnone⟩
    rw [effects_append]
    exact List.mem_append_left _ hmem
  | responded => trivial

/-- A step changes the stage of one call, and tells what is new of it. -/
theorem told_move (h : ∀ c, Told history c (a.stage c)) (hcall : event.call = c)
    (hnew : Told (history ++ [event]) c stage) (c' : Nat) :
    Told (history ++ [event]) c' ((a.move c stage).stage c') := by
  by_cases heq : c' = c
  · rw [heq, Atomic.stage_move_self]
    exact hnew
  · rw [Atomic.stage_move_ne heq]
    exact (h c').concat (by rw [hcall]; exact Ne.symm heq)

theorem Historic.invoke (h : Historic obj history a) {op : Op} (hstage : a.stage c = .absent) :
    Historic obj (history ++ [.invoke c op]) (a.move c (.invoked op)) := by
  have htold := h.told c
  rw [hstage] at htold
  obtain ⟨_, hnone, hsilent⟩ := htold
  have heffects : effects (history ++ [.invoke c op]) = effects history := by
    simp [effects, Event.effect?]
  refine ⟨told_move h.told rfl ⟨?_, ?_, ?_⟩, ?_⟩
  · exact List.mem_append_right _ List.mem_cons_self
  · rw [heffects]
    exact hnone
  · simpa using hsilent
  · rw [heffects]
    obtain ⟨hlegal, honce, hinvoked, hanswered, hreal⟩ := h.linearizes
    refine ⟨hlegal, honce, fun e he => List.mem_append_left _ (hinvoked e he), ?_, ?_⟩
    · intro c' res hmem
      exact hanswered c' res (by simpa using hmem)
    · intro e he e' he' res op' hpair
      rcases pair_sublist_concat.mp hpair with hold | ⟨_, hlast⟩
      · exact hreal e he e' he' res op' hold
      · -- the call that is invoked last has had no effect yet
        obtain ⟨hcall, _⟩ := Event.invoke.inj hlast
        exact absurd hcall (hnone e' he')

theorem Historic.effect (h : Historic obj history a) {op : Op} {v : Value} {res : Res}
    (hstage : a.stage c = .invoked op) (happly : obj.apply a.value op = (v, res)) :
    Historic obj (history ++ [.effect ⟨c, op, res⟩])
      ({ a with value := v }.move c (.effective res)) := by
  have htold := h.told c
  rw [hstage] at htold
  obtain ⟨hmem, hnone, hsilent⟩ := htold
  have heffects : effects (history ++ [.effect ⟨c, op, res⟩]) =
      effects history ++ [⟨c, op, res⟩] := by
    simp [effects, Event.effect?]
  refine ⟨told_move (a := { a with value := v }) h.told rfl ⟨⟨op, ?_⟩, ?_⟩, ?_⟩
  · rw [heffects]
    exact List.mem_append_right _ List.mem_cons_self
  · simpa using hsilent
  · rw [heffects]
    obtain ⟨hlegal, honce, hinvoked, hanswered, hreal⟩ := h.linearizes
    refine ⟨?_, ?_, ?_, ?_, ?_⟩
    · exact Object.legal_append.mpr ⟨a.value, hlegal, by rw [happly], by rw [happly]; rfl⟩
    · rw [List.map_append, List.nodup_append]
      refine ⟨honce, by simp, ?_⟩
      intro c' hc' c'' hc''
      obtain ⟨e, he, rfl⟩ := List.mem_map.mp hc'
      rw [List.mem_singleton.mp hc'']
      exact hnone e he
    · intro e he
      rcases List.mem_append.mp he with hold | hnew
      · exact List.mem_append_left _ (hinvoked e hold)
      · rw [List.mem_singleton.mp hnew]
        exact List.mem_append_left _ hmem
    · intro c' res' hrespond
      obtain ⟨op', hanswer⟩ := hanswered c' res' (by simpa using hrespond)
      exact ⟨op', List.mem_append_left _ hanswer⟩
    · intro e he e' he' res' op' hpair
      have hold : [Event.respond e.call res', .invoke e'.call op'].Sublist history := by
        rcases pair_sublist_concat.mp hpair with hold | ⟨_, hlast⟩
        · exact hold
        · contradiction
      have hfirst : e ∈ effects history := by
        rcases List.mem_append.mp he with hmem' | hlast
        · exact hmem'
        · -- the call that takes effect last has not responded yet
          rw [List.mem_singleton.mp hlast] at hold
          exact absurd (hold.subset List.mem_cons_self) (hsilent res')
      rcases List.mem_append.mp he' with hmem' | hlast
      · exact (hreal e hfirst e' hmem' res' op' hold).trans (List.sublist_append_left _ _)
      · rw [List.mem_singleton.mp hlast]
        exact pair_sublist_concat.mpr (.inr ⟨hfirst, rfl⟩)

theorem Historic.respond (h : Historic obj history a) {res : Res}
    (hstage : a.stage c = .effective res) :
    Historic obj (history ++ [.respond c res]) (a.move c .responded) := by
  have htold := h.told c
  rw [hstage] at htold
  obtain ⟨⟨op, hmem⟩, _⟩ := htold
  have heffects : effects (history ++ [.respond c res]) = effects history := by
    simp [effects, Event.effect?]
  refine ⟨told_move h.told rfl trivial, ?_⟩
  rw [heffects]
  obtain ⟨hlegal, honce, hinvoked, hanswered, hreal⟩ := h.linearizes
  refine ⟨hlegal, honce, fun e he => List.mem_append_left _ (hinvoked e he), ?_, ?_⟩
  · intro c' res' hrespond
    rcases List.mem_append.mp hrespond with hold | hnew
    · exact hanswered c' res' hold
    · obtain ⟨rfl, rfl⟩ := Event.respond.inj (List.mem_singleton.mp hnew)
      exact ⟨op, hmem⟩
  · intro e he e' he' res' op' hpair
    rcases pair_sublist_concat.mp hpair with hold | ⟨_, hlast⟩
    · exact hreal e he e' he' res' op' hold
    · contradiction

/-- **Histories of the atomic object linearize**, in the order in which their
    calls take effect. -/
theorem Object.linearizes {tr : Trace (Atomic Value Op Res) (Event Op Res)}
    (h : InitRun obj.atomic tr a) :
    obj.Linearizes (tr.map Prod.snd) (effects (tr.map Prod.snd)) a.value := by
  suffices hhistory : Historic obj (tr.map Prod.snd) a from hhistory.linearizes
  refine run_invariant (P := fun tr a => Historic obj (tr.map Prod.snd) a) ?_ ?_ h
  · intro a hinit
    obtain rfl : a = ⟨obj.init, fun _ => .absent⟩ := hinit
    refine ⟨fun c => ⟨by simp, by simp [effects], by simp⟩, ⟨rfl, List.nodup_nil, ?_, ?_, ?_⟩⟩
    · simp [effects]
    · simp
    · simp [effects]
  · intro tr a event a' _ hi hstep
    rw [List.map_append, List.map_singleton]
    cases hstep with
    | invoke c op hstage => exact hi.invoke hstage
    | effect c op hstage happly => exact hi.effect hstage happly
    | respond c res hstage => exact hi.respond hstage

end histories

/-! ### Concurrent objects -/

section concurrent
variable {State Label : Type} {sys : System State Label} {tr : Trace State Label} {s : State}

/-- **Linearizability rule**: a system that the atomic object simulates, event
    by event, linearizes. -/
theorem Object.linearizes_of_simulation (obj : Object Value Op Res)
    (R : State → Atomic Value Op Res → Prop) (events : State → Label → List (Event Op Res))
    (hinit : ∀ s, sys.init s → R s ⟨obj.init, fun _ => .absent⟩)
    (hstep : ∀ s l s' a, Reachable sys s → R s a → sys.step s l s' →
      ∃ tr' a', Run obj.atomic a tr' a' ∧ tr'.map Prod.snd = events s l ∧ R s' a')
    (h : InitRun sys tr s) :
    ∃ a, R s a ∧ obj.Linearizes (observe events tr) (effects (observe events tr)) a.value := by
  obtain ⟨tr', a, hrun, hevents, hrel⟩ :=
    h.simulated R events (fun s hs => ⟨_, rfl, hinit s hs⟩) hstep
  refine ⟨a, hrel, ?_⟩
  rw [← hevents]
  exact Object.linearizes hrun

end concurrent

end LTS
