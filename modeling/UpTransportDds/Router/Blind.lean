import UpTransportDds.Framework.Component
import UpTransportDds.Router.Accounting

/-! # The threads never read the health

  Poller, dispatcher and `Drop` report to `DdsHealth` and decide nothing by
  it, so others may report to it as well. What they do is the same whatever
  the health is.
-/

namespace UpTransportDds

open LTS

variable {UUri Listener Sample Message : Type}

/-- The state with another health. -/
@[simps] def State.withHealth (s : State UUri Listener Sample Message) (health : HealthState) :
    State UUri Listener Sample Message :=
  { s with health := health }

/-- The state without its health. -/
def State.blind (s : State UUri Listener Sample Message) : State UUri Listener Sample Message :=
  s.withHealth {}

/-- States that differ in their health only. -/
theorem State.eq_withHealth {s s' : State UUri Listener Sample Message}
    (h : s.blind = s'.blind) : s = s'.withHealth s.health := by
  have hsame : s.blind.withHealth s.health = s'.blind.withHealth s.health := by rw [h]
  exact hsame

@[simp] theorem State.blind_withHealth (s : State UUri Listener Sample Message)
    (health : HealthState) : (s.withHealth health).blind = s.blind := rfl

section steps
variable [DecidableEq UUri] [UriMatches UUri] [DecidableEq Listener]
variable {env : Env UUri Sample Message} {s s' : State UUri Listener Sample Message}
  {l : Label UUri Listener Sample}

/-- A step is possible with every health. -/
theorem Step.withHealth (h : Step env s l s') (health : HealthState) :
    ∃ health', Step env (s.withHealth health) l (s'.withHealth health') := by
  cases h with
  | enter site request hlive hsite => exact ⟨_, .enter site request hlive hsite⟩
  | registerFail c hpc hfail => exact ⟨_, .registerFail c hpc hfail⟩
  | register c hpc hok hfilter => exact ⟨_, .register c hpc hok hfilter⟩
  | removeFail c hpc hfail => exact ⟨_, .removeFail c hpc hfail⟩
  | remove c hpc hok hfilter => exact ⟨_, .remove c hpc hok hfilter⟩
  | deactivate c hpc => exact ⟨_, .deactivate c hpc⟩
  | recheck c hpc => exact ⟨_, .recheck c hpc⟩
  | wake c hpc => exact ⟨_, .wake c hpc⟩
  | pollStop hpc hstop => exact ⟨_, .pollStop hpc hstop⟩
  | pollRun hpc hstop => exact ⟨_, .pollRun hpc hstop⟩
  | takeOk samples hpc => exact ⟨_, .takeOk samples hpc⟩
  | takeNoData error hpc hkind => exact ⟨_, .takeNoData error hpc hkind⟩
  | takeError error hpc hkind => exact ⟨_, .takeError error hpc hkind⟩
  | batchDone hpc => exact ⟨_, .batchDone hpc⟩
  | sampleEmpty hpc => exact ⟨_, .sampleEmpty hpc⟩
  | sampleOwn hpc hown => exact ⟨_, .sampleOwn hpc hown⟩
  | sampleMalformed hpc hmal => exact ⟨_, .sampleMalformed hpc hmal⟩
  | sampleAccepted hpc hacc => exact ⟨_, .sampleAccepted hpc hacc⟩
  | fanoutDone hpc => exact ⟨_, .fanoutDone hpc⟩
  | submitOk hpc hsend => exact ⟨_, .submitOk hpc hsend⟩
  | submitFail hpc hsend => exact ⟨_, .submitFail hpc hsend⟩
  | reject hpc => exact ⟨_, .reject hpc⟩
  | pollerPanic hpc => exact ⟨_, .pollerPanic hpc⟩
  | recv hpc hqueue => exact ⟨_, .recv hpc hqueue⟩
  | recvClosed hpc hqueue hended => exact ⟨_, .recvClosed hpc hqueue hended⟩
  | beginInactive hpc hbegin => exact ⟨_, .beginInactive hpc hbegin⟩
  | beginActive hpc hbegin => exact ⟨_, .beginActive hpc hbegin⟩
  | spawn hpc => exact ⟨_, .spawn hpc⟩
  | leaveWait hpc hleave => exact ⟨_, .leaveWait hpc hleave⟩
  | stopSeen hpc hstop => exact ⟨_, .stopSeen hpc hstop⟩
  | stopUnseen hpc hstop => exact ⟨_, .stopUnseen hpc hstop⟩
  | finishSeen hpc hfin => exact ⟨_, .finishSeen hpc hfin⟩
  | abort hpc hfin => exact ⟨_, .abort hpc hfin⟩
  | joinOk hpc hout => exact ⟨_, .joinOk hpc hout⟩
  | joinError hpc hout herr => exact ⟨_, .joinError hpc hout herr⟩
  | ignore hpc hstop => exact ⟨_, .ignore hpc hstop⟩
  | blame hpc hstop => exact ⟨_, .blame hpc hstop⟩
  | count hpc => exact ⟨_, .count hpc⟩
  | jobDone hpc => exact ⟨_, .jobDone hpc⟩
  | jobUnwind hpc => exact ⟨_, .jobUnwind hpc⟩
  | countCaught hpc => exact ⟨_, .countCaught hpc⟩
  | poll t htask hpoll habort hshut hdriven hfree hslot =>
    exact ⟨_, .poll t htask hpoll habort hshut hdriven hfree hslot⟩
  | suspend t htask hpoll hcall => exact ⟨_, .suspend t htask hpoll hcall⟩
  | wakeTask t occupant htask hpoll hwake => exact ⟨_, .wakeTask t occupant htask hpoll hwake⟩
  | finish t panicked htask hpoll hcall => exact ⟨_, .finish t panicked htask hpoll hcall⟩
  | cancel t htask hpoll hfree hcancel => exact ⟨_, .cancel t htask hpoll hfree hcancel⟩
  | release t htask hidle => exact ⟨_, .release t htask hidle⟩
  | releaseLast t htask hidle => exact ⟨_, .releaseLast t htask hidle⟩
  | complete t htask => exact ⟨_, .complete t htask⟩
  | enterDrop site hlive hcalls hsite => exact ⟨_, .enterDrop site hlive hcalls hsite⟩
  | stop hpc => exact ⟨_, .stop hpc⟩
  | joinPoller hpc hended => exact ⟨_, .joinPoller hpc hended⟩
  | joinPanicked hpc hended => exact ⟨_, .joinPanicked hpc hended⟩
  | takeEntries hpc => exact ⟨_, .takeEntries hpc⟩
  | drain hpc => exact ⟨_, .drain hpc⟩
  | drained hpc => exact ⟨_, .drained hpc⟩
  | recheckDrop hpc => exact ⟨_, .recheckDrop hpc⟩
  | wakeDrop hpc => exact ⟨_, .wakeDrop hpc⟩
  | joinDispatcher hpc hended => exact ⟨_, .joinDispatcher hpc hended⟩
  | deleteContained error hpc => exact ⟨_, .deleteContained error hpc⟩
  | deleteParticipant error hpc => exact ⟨_, .deleteParticipant error hpc⟩
  | occupy hdriven hfree => exact ⟨_, .occupy hdriven hfree⟩
  | vacate k hpoll => exact ⟨_, .vacate k hpoll⟩
  | drive hdriven => exact ⟨_, .drive hdriven⟩
  | undrive hworkers hidle hdriven => exact ⟨_, .undrive hworkers hidle hdriven⟩
  | shutdownRuntime => exact ⟨_, .shutdownRuntime⟩

/-- States that differ in their health only have the same steps. -/
theorem Step.blind {a : State UUri Listener Sample Message} (h : Step env s l s')
    (hblind : a.blind = s.blind) : ∃ a', Step env a l a' ∧ a'.blind = s'.blind := by
  obtain ⟨health', hstep⟩ := h.withHealth a.health
  rw [← State.eq_withHealth hblind] at hstep
  exact ⟨_, hstep, rfl⟩

end steps

/-! ### Blind observations -/

/-- An observation that does not depend on the health. -/
def Blind {α : Type} (obs : State UUri Listener Sample Message → Label UUri Listener Sample →
    List α) : Prop :=
  ∀ s l, obs s.blind l = obs s l

theorem Blind.eq {α : Type} {obs : State UUri Listener Sample Message →
    Label UUri Listener Sample → List α} (h : Blind obs)
    (s s' : State UUri Listener Sample Message) (l : Label UUri Listener Sample)
    (hblind : s.blind = s'.blind) : obs s l = obs s' l := by
  rw [← h s, ← h s', hblind]

end UpTransportDds
