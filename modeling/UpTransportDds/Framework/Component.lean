import UpTransportDds.Framework.System

/-! # Components

  A component of a larger system takes part in some of its steps. Seen from
  there, a run of the system is a run of the component, up to what the rest of
  the system does to the parts of its state that `erase` blanks: the component
  writes these, and reads them nowhere.
-/

namespace LTS

variable {State Label State' Label' Erased α : Type}

/-! ### The steps of a component -/

section component
variable (view : State → State') (part : State → Label → Option Label')

/-- The steps of a run that the component takes part in, as it sees them. -/
def component (tr : Trace State Label) : Trace State' Label' :=
  tr.filterMap fun e => (part e.1 e.2).map fun l => (view e.1, l)

/-- What the component shows of a step of the system. -/
def within (obs : State' → Label' → List α) (s : State) (l : Label) : List α :=
  (part s l).elim [] (obs (view s))

theorem component_append (tr tr' : Trace State Label) :
    component view part (tr ++ tr') = component view part tr ++ component view part tr' :=
  List.filterMap_append

theorem observe_component (obs : State' → Label' → List α) (tr : Trace State Label) :
    observe obs (component view part tr) = observe (within view part obs) tr := by
  induction tr with
  | nil => rfl
  | cons e tr ih =>
    have htail : observe (within view part obs) (e :: tr) =
        within view part obs e.1 e.2 ++ observe (within view part obs) tr := rfl
    rw [htail, ← ih, within]
    cases hpart : part e.1 e.2 with
    | none => simp [component, hpart]
    | some l => simp [component, hpart, observe]

end component

/-- Observations that agree on the steps of a system agree on its runs. -/
theorem InitRun.observe_congr {sys : System State Label} {obs obs' : State → Label → List α}
    (hstep : ∀ s l s', sys.step s l s' → obs s l = obs' s l) {tr : Trace State Label} {s : State}
    (h : InitRun sys tr s) : observe obs tr = observe obs' tr := by
  refine run_invariant (P := fun tr _ => observe obs tr = observe obs' tr) ?_ ?_ h
  · intro _ _
    rfl
  · intro tr s l s' _ hi hmove
    rw [observe_append, observe_append, observe_single, observe_single, hi, hstep s l s' hmove]

/-! ### Erasing -/

section erasing
variable (erase : State → Erased)

/-- Two runs that differ in what is erased only. -/
def Alike (tr tr' : Trace State Label) : Prop :=
  tr.map (Prod.map erase id) = tr'.map (Prod.map erase id)

/-- They show the same of everything that does not read what is erased. -/
theorem observe_alike {obs : State → Label → List α}
    (hobs : ∀ s s' l, erase s = erase s' → obs s l = obs s' l) {tr tr' : Trace State Label}
    (h : Alike erase tr tr') : observe obs tr = observe obs tr' := by
  unfold Alike at h
  induction tr generalizing tr' with
  | nil =>
    rw [List.map_nil, eq_comm, List.map_eq_nil_iff] at h
    rw [h]
  | cons e tr ih =>
    cases tr' with
    | nil => contradiction
    | cons e' tr' =>
      obtain ⟨hhead, htail⟩ := List.cons.inj h
      obtain ⟨hstate, hlabel⟩ := Prod.mk.inj hhead
      have hsame : obs e.1 e.2 = obs e'.1 e'.2 := by
        rw [show e.2 = e'.2 from hlabel]
        exact hobs _ _ _ hstate
      show obs e.1 e.2 ++ observe obs tr = obs e'.1 e'.2 ++ observe obs tr'
      rw [hsame, ih htail]

end erasing

/-! ### The component rule -/

section rule
variable {sys : System State Label} {sys' : System State' Label'} {view : State → State'}
  {part : State → Label → Option Label'} {erase : State' → Erased}

/-- **Component rule**: if the steps that the component takes part in are
    steps of its own, whatever is erased, and the others change nothing but
    what is erased, then every run of the system holds a run of the
    component. -/
theorem InitRun.component
    (hinit : ∀ s, sys.init s → ∃ a, sys'.init a ∧ erase a = erase (view s))
    (hidle : ∀ s l s', sys.step s l s' → part s l = none → erase (view s') = erase (view s))
    (hmove : ∀ s l s' l' a, sys.step s l s' → part s l = some l' → erase a = erase (view s) →
      ∃ a', sys'.step a l' a' ∧ erase a' = erase (view s'))
    {tr : Trace State Label} {s : State} (h : InitRun sys tr s) :
    ∃ tr' a, InitRun sys' tr' a ∧ Alike erase tr' (component view part tr) ∧
      erase a = erase (view s) := by
  refine run_invariant (P := fun tr s => ∃ tr' a, InitRun sys' tr' a ∧
    Alike erase tr' (LTS.component view part tr) ∧ erase a = erase (view s)) ?_ ?_ h
  · intro s hs
    obtain ⟨a, ha, herase⟩ := hinit s hs
    exact ⟨[], a, ⟨a, ha, Run.nil⟩, rfl, herase⟩
  · intro tr s l s' _ ⟨tr', a, hrun, halike, herase⟩ hstep
    rw [component_append]
    cases hpart : part s l with
    | none =>
      -- the component does not move
      refine ⟨tr', a, hrun, ?_, herase.trans (hidle s l s' hstep hpart).symm⟩
      simpa [LTS.component, hpart] using halike
    | some l' =>
      obtain ⟨a', hmoved, herase'⟩ := hmove s l s' l' a hstep hpart herase
      refine ⟨tr' ++ [(a, l')], a', hrun.append (Run.single hmoved), ?_, herase'⟩
      unfold Alike at halike ⊢
      rw [List.map_append, List.map_append, halike]
      simp [LTS.component, hpart, herase]

end rule

end LTS
