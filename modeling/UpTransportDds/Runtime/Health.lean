import Mathlib.Tactic.Common

/-! # Health

  The error history of a transport: six counters and the most recent events.
  Every access holds the mutex of `DdsHealth`, so `record` is one atomic step.
-/

namespace UpTransportDds

/-! ### State -/

inductive HealthErrorKind where
  /-- A DDS reader or writer operation failed. -/
  | dds
  /-- A decoded outer sample violated its contract. -/
  | malformedSample
  /-- The bounded callback queue was full or disconnected. -/
  | dispatchBackpressure
  /-- A callback panicked. -/
  | callbackPanic
  /-- A poller or dispatcher thread panicked. -/
  | workerPanic
  /-- DDS entity teardown failed. -/
  | teardown
  deriving DecidableEq, Repr

structure HealthEvent where
  sequence : Nat
  kind : HealthErrorKind
  detail : String
  deriving DecidableEq, Repr

def MAX_HEALTH_EVENTS : Nat := 64

/-- The counters are `u64`; a history of 2^64 errors is out of reach. -/
structure HealthState where
  nextSequence : Nat := 0
  ddsErrors : Nat := 0
  malformedSamples : Nat := 0
  dispatchDrops : Nat := 0
  callbackPanics : Nat := 0
  workerPanics : Nat := 0
  teardownErrors : Nat := 0
  events : List HealthEvent := []
  deriving DecidableEq, Repr

/-! ### `DdsHealth::record` -/

/-- The counter that `record` increments for each kind. -/
def HealthState.count (state : HealthState) : HealthErrorKind → HealthState
  | .dds => { state with ddsErrors := state.ddsErrors + 1 }
  | .malformedSample => { state with malformedSamples := state.malformedSamples + 1 }
  | .dispatchBackpressure => { state with dispatchDrops := state.dispatchDrops + 1 }
  | .callbackPanic => { state with callbackPanics := state.callbackPanics + 1 }
  | .workerPanic => { state with workerPanics := state.workerPanics + 1 }
  | .teardown => { state with teardownErrors := state.teardownErrors + 1 }

/-- `push_back` on the ring of events, with `pop_front` at its limit. -/
def pushEvent (events : List HealthEvent) (event : HealthEvent) : List HealthEvent :=
  (if events.length = MAX_HEALTH_EVENTS then events.tail else events) ++ [event]

/-- `DdsHealth::record`. -/
def HealthState.record (state : HealthState) (kind : HealthErrorKind) (detail : String) :
    HealthState :=
  let state := state.count kind
  { state with
    nextSequence := state.nextSequence + 1
    events := pushEvent state.events ⟨state.nextSequence + 1, kind, detail⟩ }

/-- The counter of one kind. -/
def HealthState.counter (state : HealthState) : HealthErrorKind → Nat
  | .dds => state.ddsErrors
  | .malformedSample => state.malformedSamples
  | .dispatchBackpressure => state.dispatchDrops
  | .callbackPanic => state.callbackPanics
  | .workerPanic => state.workerPanics
  | .teardown => state.teardownErrors

/-- `record` adds one to the counter of its kind and leaves the others. -/
theorem HealthState.counter_record (state : HealthState) (kind kind' : HealthErrorKind)
    (detail : String) :
    (state.record kind detail).counter kind' =
      state.counter kind' + if kind = kind' then 1 else 0 := by
  cases kind <;> cases kind' <;> rfl

@[simp] theorem HealthState.counter_record_self (state : HealthState)
    (kind : HealthErrorKind) (detail : String) :
    (state.record kind detail).counter kind = state.counter kind + 1 := by
  simp [counter_record]

/-- Records a list of errors, one after the other. -/
def HealthState.recordAll (health : HealthState) (errors : List (HealthErrorKind × String)) :
    HealthState :=
  errors.foldl (fun health error => health.record error.1 error.2) health

theorem HealthState.counter_recordAll (health : HealthState)
    (errors : List (HealthErrorKind × String)) (kind : HealthErrorKind) :
    (health.recordAll errors).counter kind =
      health.counter kind + errors.countP (fun error => error.1 = kind) := by
  induction errors generalizing health with
  | nil => rfl
  | cons error errors ih =>
    show ((health.record error.1 error.2).recordAll errors).counter kind = _
    rw [ih, HealthState.counter_record, List.countP_cons]
    simp only [decide_eq_true_eq]
    omega

/-! ### Forgetting the details

  Two families word their details differently; what they have in common are
  the counters and the kinds of the events. -/

/-- The same history with every detail blanked. -/
def HealthState.eraseDetails (state : HealthState) : HealthState :=
  { state with events := state.events.map fun event => { event with detail := "" } }

theorem map_pushEvent (f : HealthEvent → HealthEvent) (events : List HealthEvent)
    (event : HealthEvent) :
    (pushEvent events event).map f = pushEvent (events.map f) (f event) := by
  unfold pushEvent
  by_cases h : events.length = MAX_HEALTH_EVENTS <;> simp [h]

theorem HealthState.eraseDetails_record (state : HealthState) (kind : HealthErrorKind)
    (detail : String) :
    (state.record kind detail).eraseDetails = state.eraseDetails.record kind "" := by
  cases kind <;> simp [record, count, eraseDetails, map_pushEvent]

@[simp] theorem HealthState.eraseDetails_eraseDetails (state : HealthState) :
    state.eraseDetails.eraseDetails = state.eraseDetails := by
  simp [eraseDetails]

end UpTransportDds
