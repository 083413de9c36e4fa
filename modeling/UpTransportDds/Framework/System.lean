import Mathlib.Data.List.Induction
import Mathlib.Tactic.Common

/-! # Labelled Transition Systems

  States, labels, finite runs and the rules used to reason about them.

  A run records, for every step, the state it was taken in and its label.
  What a system has *done* so far is then a function of the run
  (`observe`), so history never has to be part of the state.
-/

namespace LTS

variable {State Label : Type}

/-! ### Systems and runs -/

/-- A labelled transition system. -/
structure System (State Label : Type) where
  /-- The initial states. -/
  init : State → Prop
  /-- The transition relation. -/
  step : State → Label → State → Prop

/-- The steps of a run: the state each was taken in, and its label. -/
abbrev Trace (State Label : Type) := List (State × Label)

/-- `Run sys s tr s'`: the steps `tr` lead from `s` to `s'`. -/
inductive Run (sys : System State Label) (s : State) : Trace State Label → State → Prop where
  | nil : Run sys s [] s
  | snoc {s' s'' : State} {tr : Trace State Label} {l : Label} :
      Run sys s tr s' → sys.step s' l s'' → Run sys s (tr ++ [(s', l)]) s''

/-- `s'` can be reached from `s`. -/
def Leads (sys : System State Label) (s s' : State) : Prop := ∃ tr, Run sys s tr s'

/-- A run that starts in an initial state. -/
def InitRun (sys : System State Label) (tr : Trace State Label) (s : State) : Prop :=
  ∃ s₀, sys.init s₀ ∧ Run sys s₀ tr s

/-- `s` is reachable. -/
def Reachable (sys : System State Label) (s : State) : Prop := ∃ tr, InitRun sys tr s

/-- The same system with only the labels that satisfy `allowed`. -/
def System.restrict (sys : System State Label) (allowed : Label → Prop) :
    System State Label where
  init := sys.init
  step := fun s l s' => allowed l ∧ sys.step s l s'

namespace Run

variable {sys : System State Label} {s s' s'' : State} {tr tr' : Trace State Label} {l : Label}

theorem single (h : sys.step s l s') : Run sys s [(s, l)] s' := by
  simpa using Run.snoc Run.nil h

theorem append (h : Run sys s tr s') (h' : Run sys s' tr' s'') :
    Run sys s (tr ++ tr') s'' := by
  induction h' with
  | nil => simpa using h
  | snoc _ hstep ih => simpa [List.append_assoc] using Run.snoc ih hstep

theorem cons (hstep : sys.step s l s') (h : Run sys s' tr s'') :
    Run sys s ((s, l) :: tr) s'' :=
  append (single hstep) h

/-- A run of the restricted system is a run of the full one. -/
theorem of_restrict {allowed : Label → Prop} (h : Run (sys.restrict allowed) s tr s') :
    Run sys s tr s' := by
  induction h with
  | nil => exact Run.nil
  | snoc _ hstep ih => exact Run.snoc ih hstep.2

/-- A run with allowed labels only is a run of the restricted system. -/
theorem restrict {allowed : Label → Prop} (h : Run sys s tr s')
    (hall : ∀ e ∈ tr, allowed e.2) : Run (sys.restrict allowed) s tr s' := by
  induction h with
  | nil => exact Run.nil
  | snoc _ hstep ih =>
    refine Run.snoc (ih fun e he => hall e (List.mem_append_left _ he)) ⟨?_, hstep⟩
    exact hall _ (List.mem_append_right _ List.mem_cons_self)

/-- A run that does not stop at once begins with a step in its first state. -/
theorem head (h : Run sys s tr s') : (tr = [] ∧ s' = s) ∨ ∃ l rest, tr = (s, l) :: rest := by
  induction h with
  | nil => exact .inl ⟨rfl, rfl⟩
  | @snoc s' s'' tr l _ _ ih =>
    rcases ih with ⟨rfl, rfl⟩ | ⟨l', rest, rfl⟩
    · exact .inr ⟨l, [], rfl⟩
    · exact .inr ⟨l', rest ++ [(s', l)], rfl⟩

/-- The last step of a run. -/
theorem snoc_inv (h : Run sys s (tr ++ [(s', l)]) s'') :
    Run sys s tr s' ∧ sys.step s' l s'' := by
  generalize hsteps : tr ++ [(s', l)] = steps at h
  cases h with
  | nil => simp at hsteps
  | snoc hrun hstep =>
    obtain ⟨rfl, hlast⟩ := List.append_inj' hsteps rfl
    simp only [List.cons.injEq, Prod.mk.injEq, and_true] at hlast
    obtain ⟨rfl, rfl⟩ := hlast
    exact ⟨hrun, hstep⟩

/-- A run splits at each of its steps. -/
theorem split (h : Run sys s (tr ++ (s', l) :: tr') s'') :
    ∃ t, Run sys s tr s' ∧ sys.step s' l t ∧ Run sys t tr' s'' := by
  induction tr' using List.reverseRecOn generalizing s'' with
  | nil =>
    obtain ⟨hrun, hstep⟩ := snoc_inv h
    exact ⟨_, hrun, hstep, Run.nil⟩
  | append_singleton tr' e ih =>
    obtain ⟨e₁, e₂⟩ := e
    have h' : Run sys s ((tr ++ (s', l) :: tr') ++ [(e₁, e₂)]) s'' := by simpa using h
    obtain ⟨hrun, hlast⟩ := snoc_inv h'
    obtain ⟨t, hpre, hstep, hrest⟩ := ih hrun
    exact ⟨t, hpre, hstep, hrest.snoc hlast⟩

end Run

namespace Leads

variable {sys : System State Label} {s s' s'' : State} {l : Label}

theorem refl (s : State) : Leads sys s s := ⟨[], Run.nil⟩

theorem trans (h : Leads sys s s') (h' : Leads sys s' s'') : Leads sys s s'' := by
  obtain ⟨tr, hr⟩ := h
  obtain ⟨tr', hr'⟩ := h'
  exact ⟨tr ++ tr', hr.append hr'⟩

theorem of_step (h : sys.step s l s') : Leads sys s s' := ⟨_, Run.single h⟩

theorem step_then (h : sys.step s l s') (h' : Leads sys s' s'') : Leads sys s s'' :=
  (of_step h).trans h'

end Leads

/-! ### Invariant rules -/

section invariants
variable {sys : System State Label} {s s' : State} {tr tr' : Trace State Label} {l : Label}

theorem InitRun.append (h : InitRun sys tr s) (h' : Run sys s tr' s') :
    InitRun sys (tr ++ tr') s' := by
  obtain ⟨s₀, hinit, hrun⟩ := h
  exact ⟨s₀, hinit, hrun.append h'⟩

theorem InitRun.reachable (h : InitRun sys tr s) : Reachable sys s := ⟨tr, h⟩

/-- Every state a run passes through is reachable. -/
theorem InitRun.reachable_of_mem (h : InitRun sys tr s) (hmem : (s', l) ∈ tr) :
    Reachable sys s' := by
  obtain ⟨s₀, hinit, hrun⟩ := h
  obtain ⟨pre, post, rfl⟩ := List.append_of_mem hmem
  obtain ⟨_, hpre, _, _⟩ := hrun.split
  exact ⟨pre, s₀, hinit, hpre⟩

theorem Reachable.run (h : Reachable sys s) (h' : Run sys s tr s') : Reachable sys s' := by
  obtain ⟨_, hrun⟩ := h
  exact (hrun.append h').reachable

theorem Reachable.step (h : Reachable sys s) (hstep : sys.step s l s') : Reachable sys s' :=
  h.run (Run.single hstep)

theorem Reachable.of_restrict {allowed : Label → Prop}
    (h : Reachable (sys.restrict allowed) s) : Reachable sys s := by
  obtain ⟨tr, s₀, hinit, hrun⟩ := h
  exact ⟨tr, s₀, hinit, hrun.of_restrict⟩

/-- A predicate that every step preserves is preserved by every run. -/
theorem Run.stable {P : State → Prop}
    (hstep : ∀ s l s', P s → sys.step s l s' → P s')
    (h : Run sys s tr s') (hs : P s) : P s' := by
  induction h with
  | nil => exact hs
  | snoc _ hlast ih => exact hstep _ _ _ ih hlast

/-- **Invariant rule**: what holds initially and is preserved by every step
    holds in every reachable state. -/
theorem invariant {P : State → Prop} (hinit : ∀ s, sys.init s → P s)
    (hstep : ∀ s l s', P s → sys.step s l s' → P s') (h : Reachable sys s) : P s := by
  obtain ⟨_, s₀, h0, hrun⟩ := h
  exact hrun.stable hstep (hinit s₀ h0)

/-- **Invariant rule, relative form**: the step may use that its source is
    reachable, hence every invariant established before. -/
theorem invariant_reachable {P : State → Prop} (hinit : ∀ s, sys.init s → P s)
    (hstep : ∀ s l s', Reachable sys s → P s → sys.step s l s' → P s')
    (h : Reachable sys s) : P s := by
  obtain ⟨_, s₀, h0, hrun⟩ := h
  induction hrun with
  | nil => exact hinit _ h0
  | snoc hprefix hlast ih => exact hstep _ _ _ ⟨_, s₀, h0, hprefix⟩ ih hlast

/-- **Run rule**: the invariant relates the steps taken so far to the state
    they lead to. -/
theorem run_invariant {P : Trace State Label → State → Prop}
    (hinit : ∀ s, sys.init s → P [] s)
    (hstep : ∀ tr s l s', InitRun sys tr s → P tr s → sys.step s l s' →
      P (tr ++ [(s, l)]) s')
    (h : InitRun sys tr s) : P tr s := by
  obtain ⟨s₀, h0, hrun⟩ := h
  induction hrun with
  | nil => exact hinit _ h0
  | snoc hprefix hlast ih => exact hstep _ _ _ _ ⟨s₀, h0, hprefix⟩ ih hlast

end invariants

/-! ### Observations -/

section observations
variable {α : Type}

/-- What the steps of a run show, in order. -/
def observe (obs : State → Label → List α) (tr : Trace State Label) : List α :=
  tr.flatMap fun e => obs e.1 e.2

@[simp] theorem observe_nil (obs : State → Label → List α) :
    observe obs ([] : Trace State Label) = [] := rfl

@[simp] theorem observe_append (obs : State → Label → List α) (tr tr' : Trace State Label) :
    observe obs (tr ++ tr') = observe obs tr ++ observe obs tr' := by
  simp [observe]

@[simp] theorem observe_single (obs : State → Label → List α) (s : State) (l : Label) :
    observe obs [(s, l)] = obs s l := by
  simp [observe]

theorem observe_map {β : Type} (f : α → β) (obs : State → Label → List α)
    (tr : Trace State Label) :
    observe (fun s l => (obs s l).map f) tr = (observe obs tr).map f := by
  simp [observe, List.map_flatMap]

theorem observe_flatMap {β : Type} (f : α → List β) (obs : State → Label → List α)
    (tr : Trace State Label) :
    observe (fun s l => (obs s l).flatMap f) tr = (observe obs tr).flatMap f := by
  simp [observe, List.flatMap_assoc]

theorem mem_observe {obs : State → Label → List α} {tr : Trace State Label} {a : α} :
    a ∈ observe obs tr ↔ ∃ e ∈ tr, a ∈ obs e.1 e.2 := by
  simp [observe]

end observations

/-! ### Executable systems -/

/-- The system of a step function: the label resolves all nondeterminism. -/
def ofNext (init : State → Prop) (next : State → Label → Option State) :
    System State Label where
  init := init
  step := fun s l s' => next s l = some s'

section projection
variable {State' Label' α : Type} {init : State → Prop} {init' : State' → Prop}
  {next : State → Label → Option State} {next' : State' → Label' → Option State'}

/-- The trace a list of labels produces, when every label is possible. -/
def exec (next : State → Label → Option State) :
    State → List Label → Option (Trace State Label × State)
  | s, [] => some ([], s)
  | s, l :: ls => (next s l).bind fun s' => (exec next s' ls).map fun r => ((s, l) :: r.1, r.2)

theorem run_of_exec {s s' : State} {ls : List Label} {tr : Trace State Label}
    (h : exec next s ls = some (tr, s')) : Run (ofNext init next) s tr s' := by
  induction ls generalizing s tr with
  | nil =>
    simp only [exec, Option.some.injEq, Prod.mk.injEq] at h
    obtain ⟨rfl, rfl⟩ := h
    exact Run.nil
  | cons l ls ih =>
    simp only [exec, Option.bind_eq_some_iff, Option.map_eq_some_iff] at h
    obtain ⟨t, hstep, ⟨tr', s''⟩, hrest, heq⟩ := h
    simp only [Prod.mk.injEq] at heq
    obtain ⟨rfl, rfl⟩ := heq
    exact Run.cons hstep (ih hrest)

/-- The steps of the produced trace carry the given labels. -/
theorem labels_of_exec {s s' : State} {ls : List Label} {tr : Trace State Label}
    (h : exec next s ls = some (tr, s')) : tr.map Prod.snd = ls := by
  induction ls generalizing s tr with
  | nil =>
    simp only [exec, Option.some.injEq, Prod.mk.injEq] at h
    rw [← h.1]
    rfl
  | cons l ls ih =>
    simp only [exec, Option.bind_eq_some_iff, Option.map_eq_some_iff] at h
    obtain ⟨t, _, ⟨tr', s''⟩, hrest, heq⟩ := h
    simp only [Prod.mk.injEq] at heq
    obtain ⟨rfl, rfl⟩ := heq
    rw [List.map_cons, ih hrest]

end projection

/-! ### Simulations -/

section simulation
variable {State' Label' : Type} {next : State → Label → Option State}
  {next' : State' → Label' → Option State'} {f : State → State'} {g : Label → Label'}

/-- **Simulation rule**: if `f` and `g` carry each step over to one of the
    other system, and each refusal to a refusal, they carry over the runs. The
    step may use an invariant of the states and a property of the labels. -/
theorem exec_map {P : State → Prop} {Q : Label → Prop}
    (hstep : ∀ s l, P s → Q l → (next s l).map f = next' (f s) (g l))
    (hpreserve : ∀ s l s', P s → Q l → next s l = some s' → P s')
    {s : State} {ls : List Label} (hs : P s) (hall : ∀ l ∈ ls, Q l) :
    (exec next s ls).map (fun r => (r.1.map (Prod.map f g), f r.2)) =
      exec next' (f s) (ls.map g) := by
  induction ls generalizing s with
  | nil => rfl
  | cons l ls ih =>
    have hl := hall l List.mem_cons_self
    have hhead := hstep s l hs hl
    cases hnext : next s l with
    | none =>
      rw [hnext] at hhead
      simp [exec, hnext, ← hhead]
    | some s' =>
      rw [hnext] at hhead
      have htail := ih (hpreserve s l s' hs hl hnext) fun l' hl' =>
        hall l' (List.mem_cons_of_mem l hl')
      simp only [exec, hnext, Option.bind_some, List.map_cons, ← hhead, Option.map_some, ← htail,
        Option.map_map]
      rfl

/-- What corresponding traces show corresponds. -/
theorem observe_simulated {α β : Type} {obs : State → Label → List α}
    {obs' : State' → Label' → List β} {h : α → β}
    (hobs : ∀ s l, obs' (f s) (g l) = (obs s l).map h) (tr : Trace State Label) :
    observe obs' (tr.map (Prod.map f g)) = (observe obs tr).map h := by
  simp [observe, List.flatMap_map, List.map_flatMap, hobs]

end simulation

section relation
variable {State' Label' : Type} {sys : System State Label} {sys' : System State' Label'}

/-- **Simulation rule, relational form**: if related states step to related
    states, along a run of the other system with the given labels, then every
    run is matched by one. -/
theorem InitRun.simulated (R : State → State' → Prop) (labels : State → Label → List Label')
    (hinit : ∀ s, sys.init s → ∃ a, sys'.init a ∧ R s a)
    (hstep : ∀ s l s' a, Reachable sys s → R s a → sys.step s l s' →
      ∃ tr' a', Run sys' a tr' a' ∧ tr'.map Prod.snd = labels s l ∧ R s' a')
    {tr : Trace State Label} {s : State} (h : InitRun sys tr s) :
    ∃ tr' a, InitRun sys' tr' a ∧ tr'.map Prod.snd = observe labels tr ∧ R s a := by
  refine run_invariant (P := fun tr s => ∃ tr' a, InitRun sys' tr' a ∧
    tr'.map Prod.snd = observe labels tr ∧ R s a) ?_ ?_ h
  · intro s hs
    obtain ⟨a, ha, hrel⟩ := hinit s hs
    exact ⟨[], a, ⟨a, ha, Run.nil⟩, rfl, hrel⟩
  · intro tr s l s' hrun ⟨tr', a, hrun', hlabels, hrel⟩ hmove
    obtain ⟨tail, a', htail, hnew, hrel'⟩ := hstep s l s' a hrun.reachable hrel hmove
    refine ⟨tr' ++ tail, a', hrun'.append htail, ?_, hrel'⟩
    rw [List.map_append, hlabels, hnew, observe_append, observe_single]

end relation

end LTS
