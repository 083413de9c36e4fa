import UpTransportDds.Framework.Liveness

/-! # What fair executions come to

  A party that always could take a step takes one. A rank that goes down, from
  some moment on, and a helper that brings it down when nobody else does, lead
  an execution to an event. Both rules speak about the moments of one
  execution, so that results chain: each begins at the moment where the last
  one ended.
-/

namespace LTS

variable {State Label Party α : Type} {sys : System State Label} {party : Label → Party} {p : Party}

/-! ### The rest of an execution -/

/-- The execution from moment `n` on. -/
def Execution.drop (σ : Execution sys) (n : Nat) : Execution sys where
  state i := σ.state (n + i)
  label i := σ.label (n + i)
  step i := σ.step (n + i)

@[simp] theorem Execution.state_drop (σ : Execution sys) (n i : Nat) :
    (σ.drop n).state i = σ.state (n + i) := rfl

@[simp] theorem Execution.label_drop (σ : Execution sys) (n i : Nat) :
    (σ.drop n).label i = σ.label (n + i) := rfl

/-- A first step, and then an execution. -/
def Execution.cons {s s' : State} {l : Label} (hstep : sys.step s l s') (σ : Execution sys)
    (hσ : σ.state 0 = s') : Execution sys where
  state i := if i = 0 then s else σ.state (i - 1)
  label i := if i = 0 then l else σ.label (i - 1)
  step i := by
    cases i with
    | zero =>
      rw [← hσ] at hstep
      exact hstep
    | succ i => exact σ.step i

/-- A run, and then an execution. -/
theorem Run.prepend {s s' : State} {tr : Trace State Label} (h : Run sys s tr s')
    (σ : Execution sys) (hσ : σ.state 0 = s') :
    ∃ σ' : Execution sys, σ'.state 0 = s ∧ σ'.drop tr.length = σ ∧
      ∀ i, i < tr.length → tr[i]? = some (σ'.state i, σ'.label i) := by
  induction h generalizing σ with
  | nil => exact ⟨σ, hσ, by simp [Execution.drop], by simp⟩
  | @snoc t t' tr l hprefix hlast ih =>
    obtain ⟨σ', hstart, hrest, hsteps⟩ := ih (.cons hlast σ hσ) rfl
    have hstates : ∀ i, σ'.state (tr.length + i) = (Execution.cons hlast σ hσ).state i :=
      fun i => congrArg (fun σ => σ.state i) hrest
    have hlabels : ∀ i, σ'.label (tr.length + i) = (Execution.cons hlast σ hσ).label i :=
      fun i => congrArg (fun σ => σ.label i) hrest
    refine ⟨σ', hstart, ?_, ?_⟩
    · rw [List.length_append, List.length_singleton]
      cases σ with
      | mk state label step =>
        simp only [Execution.drop, Execution.mk.injEq]
        constructor
        · funext i
          rw [show tr.length + 1 + i = tr.length + (i + 1) by omega, hstates]
          rfl
        · funext i
          rw [show tr.length + 1 + i = tr.length + (i + 1) by omega, hlabels]
          rfl
    · intro i hi
      rw [List.length_append, List.length_singleton] at hi
      by_cases hold : i < tr.length
      · rw [List.getElem?_append_left hold]
        exact hsteps i hold
      · obtain rfl : i = tr.length := by omega
        have hstate := hstates 0
        have hlabel := hlabels 0
        rw [Nat.add_zero] at hstate hlabel
        rw [List.getElem?_append_right (Nat.le_refl _), hstate, hlabel]
        simp [Execution.cons]

/-! ### Events -/

/-- **Step rule**: while it waits for its next step, party `p` could take it.
    Then it does, and what held while it waited still holds. -/
theorem Execution.acts (σ : Execution sys) (inv : Nat → Prop)
    (hinv : ∀ i, inv i → party (σ.label i) ≠ p → inv (i + 1))
    (henabled : ∀ i, inv i → sys.Enabled party p (σ.state i)) (hfair : σ.Fair party p) {k : Nat}
    (hk : inv k) : ∃ i, k ≤ i ∧ inv i ∧ party (σ.label i) = p := by
  by_contra hnever
  have hidle : ∀ i, k ≤ i → inv i → party (σ.label i) ≠ p := by
    intro i hi hholds hacts
    exact hnever ⟨i, hi, hholds, hacts⟩
  have hwaits : ∀ i, inv (k + i) := by
    intro i
    induction i with
    | zero => exact hk
    | succ i ih => exact hinv (k + i) ih (hidle (k + i) (Nat.le_add_right k i) ih)
  have hholds : ∀ i, k ≤ i → inv i := by
    intro i hi
    obtain ⟨j, rfl⟩ := Nat.exists_eq_add_of_le hi
    exact hwaits j
  obtain ⟨i, hi, hacts⟩ := hfair k fun i hi => henabled i (hholds i hi)
  exact hidle i hi (hholds i hi) hacts

/-- **Rank rule for events**: until the event, and from some moment on, a helper
    could take a step, and every step lowers the rank, or leaves rank and
    helper as they are. Then a fair execution comes to the event. -/
theorem Execution.eventually [LT α] [WellFoundedLT α] (σ : Execution sys) (inv event : Nat → Prop)
    (rank : Nat → α) (helper : Nat → Party)
    (hinv : ∀ i, inv i → ¬ event i → inv (i + 1))
    (hrank : ∃ n, ∀ i, n ≤ i → inv i → ¬ event i →
      sys.Enabled party (helper i) (σ.state i) ∧ (rank (i + 1) < rank i ∨
        rank (i + 1) = rank i ∧ helper (i + 1) = helper i ∧ party (σ.label i) ≠ helper i))
    (hfair : ∀ i, σ.Fair party (helper i)) {k : Nat} (hk : inv k) :
    ∃ i, k ≤ i ∧ inv i ∧ event i := by
  by_contra hnever
  have hquiet : ∀ i, k ≤ i → inv i → ¬ event i := by
    intro i hi hholds hevent
    exact hnever ⟨i, hi, hholds, hevent⟩
  have hholds : ∀ i, k ≤ i → inv i := by
    intro i hi
    induction i, hi using Nat.le_induction with
    | base => exact hk
    | succ i hi ih => exact hinv i ih (hquiet i hi ih)
  obtain ⟨n, hn⟩ := hrank
  have hdescent : ∀ (a : α) (i : Nat), k ≤ i → n ≤ i → rank i = a → False := by
    intro a
    -- by well-founded induction on the rank at moment `i`
    induction a using WellFoundedLT.induction with
    | ind a ih =>
      intro i hki hni hlevel
      have hstep : ∀ j, i ≤ j → rank j = a → rank (j + 1) = a ∧ helper (j + 1) = helper j ∧
          party (σ.label j) ≠ helper j := by
        intro j hj hsame
        have hkj := Nat.le_trans hki hj
        rcases (hn j (Nat.le_trans hni hj) (hholds j hkj) (hquiet j hkj (hholds j hkj))).2 with
          hless | ⟨heq, hhelper, hother⟩
        · rw [hsame] at hless
          exact (ih _ hless (j + 1) (by omega) (by omega) rfl).elim
        · exact ⟨heq.trans hsame, hhelper, hother⟩
      -- the rank stays, and so does the helper
      have hstays : ∀ j, i ≤ j → rank j = a ∧ helper j = helper i := by
        intro j hj
        induction j, hj using Nat.le_induction with
        | base => exact ⟨hlevel, rfl⟩
        | succ j hj ihj =>
          obtain ⟨hrank, hhelper, -⟩ := hstep j hj ihj.1
          exact ⟨hrank, hhelper.trans ihj.2⟩
      -- so the helper waits for its step until it takes it
      obtain ⟨j, hj, -, hacts⟩ := σ.acts (fun j => i ≤ j) (fun j hj _ => Nat.le_succ_of_le hj)
        (fun j hj => by
          have hkj := Nat.le_trans hki hj
          rw [← (hstays j hj).2]
          exact (hn j (Nat.le_trans hni hj) (hholds j hkj) (hquiet j hkj (hholds j hkj))).1)
        (hfair i) (Nat.le_refl i)
      apply (hstep j hj (hstays j hj).1).2.2
      rw [(hstays j hj).2]
      exact hacts
  exact hdescent _ (max k n) (Nat.le_max_left k n) (Nat.le_max_right k n) rfl

end LTS
