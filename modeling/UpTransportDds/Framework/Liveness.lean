import UpTransportDds.Framework.System
import Mathlib.Order.WellFounded

/-! # Liveness

  Rules for what a system can still do, and for what it cannot help doing.
-/

namespace LTS

variable {State Label : Type} {sys : System State Label} {s : State}

/-! ### What can still happen -/

/-- **Rank rule for possibility**: if from every state with `inv` that is not
    at the goal some step leads to the goal, or to a state with `inv` of a
    smaller rank, then the goal can be reached. -/
theorem leads_of_rank {goal : State → Prop} (inv : State → Prop) (rank : State → Nat)
    (hstep : ∀ s, inv s → ¬ goal s →
      ∃ l s', sys.step s l s' ∧ (goal s' ∨ inv s' ∧ rank s' < rank s))
    (hs : inv s) : ∃ s', Leads sys s s' ∧ goal s' := by
  induction hn : rank s using Nat.strongRecOn generalizing s with
  | ind n ih =>
    by_cases hgoal : goal s
    · exact ⟨s, Leads.refl s, hgoal⟩
    · obtain ⟨l, s', hmove, hnext⟩ := hstep s hs hgoal
      rcases hnext with hgoal' | ⟨hinv, hless⟩
      · exact ⟨s', Leads.of_step hmove, hgoal'⟩
      · obtain ⟨s'', hleads, hgoal''⟩ := ih (rank s') (hn ▸ hless) hinv rfl
        exact ⟨s'', Leads.step_then hmove hleads, hgoal''⟩

/-! ### What cannot go on forever -/

/-- An execution without an end. -/
structure Execution (sys : System State Label) where
  state : Nat → State
  label : Nat → Label
  step : ∀ i, sys.step (state i) (label i) (state (i + 1))

/-- Two steps back and forth, forever. -/
def Execution.cycle {s s' : State} (l l' : Label) (h : sys.step s l s') (h' : sys.step s' l' s) :
    Execution sys where
  state i := if i % 2 = 0 then s else s'
  label i := if i % 2 = 0 then l else l'
  step i := by
    rcases Nat.mod_two_eq_zero_or_one i with heven | hodd
    · have hnext : (i + 1) % 2 = 1 := by omega
      simpa [heven, hnext] using h
    · have hnext : (i + 1) % 2 = 0 := by omega
      simpa [hodd, hnext] using h'

section fairness
variable {Party α : Type} {party : Label → Party} {p : Party}

/-- Party `p` can take a step. -/
def System.Enabled (sys : System State Label) (party : Label → Party) (p : Party) (s : State) :
    Prop :=
  ∃ l s', party l = p ∧ sys.step s l s'

/-- **Weak fairness**: party `p` is not starved, that is, if from some moment
    on it can always take a step, then it takes one. -/
def Execution.Fair (σ : Execution sys) (party : Label → Party) (p : Party) : Prop :=
  ∀ i, (∀ j, i ≤ j → sys.Enabled party p (σ.state j)) → ∃ j, i ≤ j ∧ party (σ.label j) = p

/-- What every step preserves holds all along an execution. -/
theorem Execution.always {inv : State → Prop} (σ : Execution sys)
    (hinv : ∀ s l s', inv s → sys.step s l s' → inv s') (hs : inv (σ.state 0)) :
    ∀ i, inv (σ.state i) := by
  intro i
  induction i with
  | zero => exact hs
  | succ i ih => exact hinv _ _ _ ih (σ.step i)

variable [LT α] [WellFoundedLT α]

/-- **Rank rule for termination**: every step lowers the rank or leaves it as
    it is, and while it stays as it is one and the same helper could take a
    step, but does not. Then no execution is fair to all helpers. -/
theorem Execution.not_fair (σ : Execution sys) (inv : State → Prop) (rank : State → α)
    (helper : State → Party) (hinv : ∀ s l s', inv s → sys.step s l s' → inv s')
    (hstep : ∀ s l s', inv s → sys.step s l s' → rank s' < rank s ∨
      rank s' = rank s ∧ helper s' = helper s ∧ sys.Enabled party (helper s) s ∧
        party l ≠ helper s)
    (hs : inv (σ.state 0)) : ∃ i, ¬ σ.Fair party (helper (σ.state i)) := by
  have halways := σ.always hinv hs
  by_contra hfair
  have hdescent : ∀ (a : α) (i : Nat), rank (σ.state i) = a → False := by
    intro a
    -- by well-founded induction on the rank at time `i`
    induction a using WellFoundedLT.induction with
    | ind a ih =>
      intro i hrank
      -- no later step lowers the rank, so the helper never changes
      have hlevel : ∀ j, rank (σ.state (i + j)) = a ∧
          helper (σ.state (i + j)) = helper (σ.state i) := by
        intro j
        induction j with
        | zero => exact ⟨hrank, rfl⟩
        | succ j ihj =>
          rcases hstep _ _ _ (halways (i + j)) (σ.step (i + j)) with hless | ⟨hsame, hhelper, _⟩
          · rw [ihj.1] at hless
            exact (ih _ hless (i + j + 1) rfl).elim
          · exact ⟨hsame.trans ihj.1, hhelper.trans ihj.2⟩
      have hidle : ∀ j, i ≤ j → sys.Enabled party (helper (σ.state i)) (σ.state j) ∧
          party (σ.label j) ≠ helper (σ.state i) := by
        intro j hj
        obtain ⟨k, rfl⟩ := Nat.exists_eq_add_of_le hj
        obtain ⟨hk, hhelper⟩ := hlevel k
        rcases hstep _ _ _ (halways (i + k)) (σ.step (i + k)) with hless | ⟨_, _, henabled, hother⟩
        · rw [hk] at hless
          exact (ih _ hless (i + k + 1) rfl).elim
        · rw [hhelper] at henabled hother
          exact ⟨henabled, hother⟩
      -- a helper that could always move and never does is starved
      refine hfair ⟨i, fun hnot => ?_⟩
      obtain ⟨j, hj, hmoves⟩ := hnot i fun j hj => (hidle j hj).1
      exact (hidle j hj).2 hmoves
  exact hdescent _ 0 rfl

end fairness

end LTS
