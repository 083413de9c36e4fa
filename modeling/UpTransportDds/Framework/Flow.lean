import Mathlib.Data.List.Nodup
import Mathlib.Data.List.Pairwise
import Mathlib.Data.List.Perm.Basic
import UpTransportDds.Framework.System

/-! # Flows

  A component of a system takes items in, holds some of them and gives items
  out. What enters and what leaves are observations of the steps, what is held
  is read off the state. If every single step balances, so does every run.

  The three laws differ in what a step may do to the items it holds: keep
  their order (a queue), permute them (a bag), or lose some (a filter).
-/

namespace LTS

variable {State Label α : Type} {sys : System State Label} {tr : Trace State Label} {s : State}
variable (held : State → List α) (input output : State → Label → List α)

/-- **Flow rule**: a balance that holds of every step, for a relation between
    lists that survives concatenation, holds of every run. -/
theorem flow {R : List α → List α → Prop} (hrefl : ∀ xs, R xs xs)
    (htrans : ∀ {xs ys zs}, R xs ys → R ys zs → R xs zs)
    (happend : ∀ {xs ys xs' ys'}, R xs ys → R xs' ys' → R (xs ++ xs') (ys ++ ys'))
    (hinit : ∀ s, sys.init s → held s = [])
    (hstep : ∀ s l s', Reachable sys s → sys.step s l s' →
      R (held s ++ input s l) (output s l ++ held s'))
    (h : InitRun sys tr s) : R (observe input tr) (observe output tr ++ held s) := by
  refine run_invariant
    (P := fun tr s => R (observe input tr) (observe output tr ++ held s)) ?_ ?_ h
  · intro s hs
    rw [hinit s hs]
    exact hrefl _
  · intro tr s l s' hrun hi hs
    have hlocal := hstep s l s' hrun.reachable hs
    have hbefore := happend hi (hrefl (input s l))
    have hafter := happend (hrefl (observe output tr)) hlocal
    rw [List.append_assoc] at hbefore
    rw [← List.append_assoc] at hafter
    simpa using htrans hbefore (by simpa using hafter)

/-- A component that hands its items on in order. -/
theorem flow_queue (hinit : ∀ s, sys.init s → held s = [])
    (hstep : ∀ s l s', Reachable sys s → sys.step s l s' →
      held s ++ input s l = output s l ++ held s')
    (h : InitRun sys tr s) : observe input tr = observe output tr ++ held s :=
  flow held input output (R := (· = ·)) (fun _ => rfl) Eq.trans (fun h h' => by rw [h, h'])
    hinit hstep h

/-- A component that neither loses nor invents an item. -/
theorem flow_bag (hinit : ∀ s, sys.init s → held s = [])
    (hstep : ∀ s l s', Reachable sys s → sys.step s l s' →
      (held s ++ input s l).Perm (output s l ++ held s'))
    (h : InitRun sys tr s) : (observe input tr).Perm (observe output tr ++ held s) :=
  flow held input output (R := List.Perm) (fun _ => .refl _) .trans .append hinit hstep h

/-- A component that may drop items but keeps the order of the others. -/
theorem flow_filter (hinit : ∀ s, sys.init s → held s = [])
    (hstep : ∀ s l s', Reachable sys s → sys.step s l s' →
      (output s l ++ held s').Sublist (held s ++ input s l))
    (h : InitRun sys tr s) : (observe output tr ++ held s).Sublist (observe input tr) :=
  flow held input output (R := fun xs ys => ys.Sublist xs) (fun _ => .refl _)
    (fun h h' => h'.trans h) (fun h h' => h.append h') hinit hstep h

/-- Two observations made at every step, taken together. -/
theorem observe_both (obs obs' : State → Label → List α) (tr : Trace State Label) :
    (observe (fun s l => obs s l ++ obs' s l) tr).Perm (observe obs tr ++ observe obs' tr) := by
  induction tr using List.reverseRecOn with
  | nil => exact .refl _
  | append_singleton tr e ih =>
    obtain ⟨s, l⟩ := e
    have hstep := ih.append_right (obs s l ++ obs' s l)
    rw [observe_append, observe_append, observe_append, observe_single, observe_single,
      observe_single]
    apply hstep.trans
    rw [List.append_assoc, List.append_assoc]
    apply List.Perm.append_left _
    rw [← List.append_assoc, ← List.append_assoc]
    exact List.perm_append_comm.append_right _

/-- A number that every step raises by what the step shows counts the run. -/
theorem observe_count (number : State → Nat) (obs : State → Label → List α)
    (hinit : ∀ s, sys.init s → number s = 0)
    (hstep : ∀ s l s', Reachable sys s → sys.step s l s' →
      number s' = number s + (obs s l).length)
    (h : InitRun sys tr s) : number s = (observe obs tr).length := by
  refine run_invariant (P := fun tr s => number s = (observe obs tr).length) ?_ ?_ h
  · intro s hs
    exact hinit s hs
  · intro tr s l s' hrun hi hs
    rw [hstep s l s' hrun.reachable hs, hi, observe_append, observe_single, List.length_append]

/-- Items that are spread over the places of a list, without repetition, are
    each in exactly one place. -/
theorem existsUnique_place {β : Type} {places : List β} {content : β → List α} {items : List α}
    (hall : ∀ b, b ∈ places) (hperm : items.Perm (places.flatMap content))
    (hnodup : items.Nodup) {a : α} (ha : a ∈ items) : ∃! b, a ∈ content b := by
  have hspread := List.nodup_flatMap.mp (hperm.nodup_iff.mp hnodup)
  obtain ⟨b, -, hb⟩ := List.mem_flatMap.mp (hperm.mem_iff.mp ha)
  refine ⟨b, hb, ?_⟩
  intro b' hb'
  by_contra hne
  have hsymm : Std.Symm (Function.onFun List.Disjoint content) := ⟨fun _ _ h _ ha hb => h hb ha⟩
  have hdisjoint := hspread.2.forall (hall b) (hall b') (Ne.symm hne)
  exact hdisjoint hb hb'

/-- An item that is taken out, and what is left. -/
theorem perm_eraseIdx {items : List α} {i : Nat} {a : α} (h : items[i]? = some a) :
    (a :: items.eraseIdx i).Perm items := by
  obtain ⟨hlt, rfl⟩ := List.getElem?_eq_some_iff.mp h
  exact List.getElem_cons_eraseIdx_perm hlt

end LTS
