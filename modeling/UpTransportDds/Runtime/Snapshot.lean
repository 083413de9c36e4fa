import Mathlib
import UpTransportDds.Framework.Linearizable
import UpTransportDds.Runtime.Health

/-! # Health snapshots

  `DdsHealth` is a handle that any number of threads share. `record` and
  `snapshot` each hold its mutex from the first read to the last write, so a
  call takes effect in one step.

  A snapshot is a window of the errors recorded so far: it counts all of them,
  and shows the last 64.
-/

namespace UpTransportDds

open LTS

/-! ### `DdsHealth::snapshot` -/

structure HealthSnapshot where
  ddsErrors : Nat
  malformedSamples : Nat
  dispatchDrops : Nat
  callbackPanics : Nat
  workerPanics : Nat
  teardownErrors : Nat
  recentEvents : List HealthEvent
  deriving DecidableEq, Repr

/-- `DdsHealth::snapshot`. -/
def HealthState.snapshot (state : HealthState) : HealthSnapshot where
  ddsErrors := state.ddsErrors
  malformedSamples := state.malformedSamples
  dispatchDrops := state.dispatchDrops
  callbackPanics := state.callbackPanics
  workerPanics := state.workerPanics
  teardownErrors := state.teardownErrors
  recentEvents := state.events

/-- The counter of one kind. -/
def HealthSnapshot.counter (snapshot : HealthSnapshot) : HealthErrorKind → Nat
  | .dds => snapshot.ddsErrors
  | .malformedSample => snapshot.malformedSamples
  | .dispatchBackpressure => snapshot.dispatchDrops
  | .callbackPanic => snapshot.callbackPanics
  | .workerPanic => snapshot.workerPanics
  | .teardown => snapshot.teardownErrors

theorem HealthState.counter_snapshot (state : HealthState) (kind : HealthErrorKind) :
    state.snapshot.counter kind = state.counter kind := by
  cases kind <;> rfl

/-- All kinds. -/
def HealthErrorKind.all : List HealthErrorKind :=
  [.dds, .malformedSample, .dispatchBackpressure, .callbackPanic, .workerPanic, .teardown]

/-! ### Windows -/

/-- The records as events, numbered from 1. -/
def numbered (records : List (HealthErrorKind × String)) : List HealthEvent :=
  records.mapIdx fun i record => ⟨i + 1, record.1, record.2⟩

/-- The last 64 of the records, as events. -/
def window (records : List (HealthErrorKind × String)) : List HealthEvent :=
  (numbered records).drop (records.length - MAX_HEALTH_EVENTS)

section windows
variable {records records' : List (HealthErrorKind × String)} {event : HealthEvent}

@[simp] theorem length_numbered : (numbered records).length = records.length :=
  List.length_mapIdx

theorem numbered_concat (record : HealthErrorKind × String) :
    numbered (records ++ [record]) =
      numbered records ++ [⟨records.length + 1, record.1, record.2⟩] := by
  simp [numbered, List.mapIdx_append]

/-- The number of an event says which record it is. -/
theorem getElem?_of_mem_numbered (h : event ∈ numbered records) :
    (numbered records)[event.sequence - 1]? = some event := by
  obtain ⟨i, hi⟩ := List.mem_iff_getElem?.mp h
  have hrecord := hi
  rw [numbered, List.getElem?_mapIdx, Option.map_eq_some_iff] at hrecord
  obtain ⟨record, _, rfl⟩ := hrecord
  exact hi

theorem numbered_mono (h : records <+: records') : numbered records <+: numbered records' := by
  obtain ⟨rest, rfl⟩ := h
  exact ⟨_, List.mapIdx_append.symm⟩

/-- Numbers are never given twice, whichever part of the history is looked at. -/
theorem eq_of_sequence_eq {event' : HealthEvent} {all : List (HealthErrorKind × String)}
    (hpre : records <+: all) (hpre' : records' <+: all) (h : event ∈ numbered records)
    (h' : event' ∈ numbered records') (heq : event.sequence = event'.sequence) :
    event = event' := by
  have hall := getElem?_of_mem_numbered ((numbered_mono hpre).subset h)
  have hall' := getElem?_of_mem_numbered ((numbered_mono hpre').subset h')
  rw [heq, hall'] at hall
  exact (Option.some.inj hall).symm

theorem length_window : (window records).length = min records.length MAX_HEALTH_EVENTS := by
  rw [window, List.length_drop, length_numbered]
  omega

/-- One more record moves the window on. -/
theorem window_concat (record : HealthErrorKind × String) :
    window (records ++ [record]) =
      pushEvent (window records) ⟨records.length + 1, record.1, record.2⟩ := by
  have hlength : (window records).length = min records.length MAX_HEALTH_EVENTS := length_window
  have hdrop : window (records ++ [record]) =
      (numbered records ++ [(⟨records.length + 1, record.1, record.2⟩ : HealthEvent)]).drop
        (records.length + 1 - MAX_HEALTH_EVENTS) := by
    rw [window, numbered_concat, List.length_append, List.length_singleton]
  rw [hdrop, pushEvent]
  by_cases hfull : records.length < MAX_HEALTH_EVENTS
  · have hroom : (window records).length ≠ MAX_HEALTH_EVENTS := by omega
    have hall : records.length + 1 - MAX_HEALTH_EVENTS = 0 := by omega
    have hall' : records.length - MAX_HEALTH_EVENTS = 0 := by omega
    rw [if_neg hroom, hall, List.drop_zero, window, hall', List.drop_zero]
  · -- the ring is full, and its first event is dropped
    have hring : (window records).length = MAX_HEALTH_EVENTS := by omega
    have hnext : records.length + 1 - MAX_HEALTH_EVENTS =
        records.length - MAX_HEALTH_EVENTS + 1 := by omega
    have hfits : records.length - MAX_HEALTH_EVENTS + 1 ≤ (numbered records).length := by
      rw [length_numbered]
      unfold MAX_HEALTH_EVENTS at *
      omega
    rw [if_pos hring, hnext, List.drop_append_of_le_length hfits, window, List.tail_drop]

end windows

/-! ### What the state knows of the records -/

section recording
variable {records : List (HealthErrorKind × String)}

theorem HealthState.recordAll_concat (health : HealthState) (record : HealthErrorKind × String) :
    health.recordAll (records ++ [record]) =
      (health.recordAll records).record record.1 record.2 := by
  simp [HealthState.recordAll]

theorem nextSequence_recordAll :
    (HealthState.recordAll {} records).nextSequence = records.length := by
  induction records using List.reverseRecOn with
  | nil => rfl
  | append_singleton records record ih =>
    rw [HealthState.recordAll_concat, List.length_append, List.length_singleton, ← ih]
    cases record.1 <;> rfl

/-- The events of the state are the window of what was recorded. -/
theorem events_recordAll : (HealthState.recordAll {} records).events = window records := by
  induction records using List.reverseRecOn with
  | nil => rfl
  | append_singleton records record ih =>
    have hsequence : (HealthState.recordAll {} records).nextSequence = records.length :=
      nextSequence_recordAll
    rw [HealthState.recordAll_concat, window_concat, ← ih, ← hsequence]
    cases record.1 <;> rfl

/-- `snapshot` reports the records so far, and nothing else. -/
structure HealthSnapshot.Reports (snapshot : HealthSnapshot)
    (records : List (HealthErrorKind × String)) : Prop where
  counter : ∀ kind, snapshot.counter kind = records.countP (fun record => record.1 = kind)
  total : (HealthErrorKind.all.map snapshot.counter).sum = records.length
  recent : snapshot.recentEvents = (numbered records).drop (records.length - 64)

theorem sum_counters (f : HealthErrorKind → Nat)
    (h : ∀ kind, f kind = records.countP (fun record => record.1 = kind)) :
    (HealthErrorKind.all.map f).sum = records.length := by
  have hcount : ∀ kind, f kind = records.countP (fun record => record.1 = kind) := h
  simp only [HealthErrorKind.all, List.map_cons, List.map_nil, List.sum_cons, List.sum_nil, hcount]
  clear hcount h
  induction records with
  | nil => rfl
  | cons record records ih =>
    obtain ⟨kind, detail⟩ := record
    simp only [List.countP_cons, List.length_cons, ← ih]
    cases kind <;> simp <;> omega

theorem snapshot_recordAll : (HealthState.recordAll {} records).snapshot.Reports records := by
  have hcounter : ∀ kind, (HealthState.recordAll {} records).snapshot.counter kind =
      records.countP (fun record => record.1 = kind) := by
    intro kind
    rw [HealthState.counter_snapshot, HealthState.counter_recordAll]
    cases kind <;> exact Nat.zero_add _
  exact ⟨hcounter, sum_counters _ hcounter, events_recordAll⟩

end recording

/-! ### The shared handle -/

inductive HealthOp where
  | record (kind : HealthErrorKind) (detail : String)
  | snapshot
  deriving DecidableEq, Repr

/-- `DdsHealth::default`, and what its operations do under the mutex. A
    `snapshot` answers with what it has seen. -/
def healthObject : Object HealthState HealthOp (Option HealthSnapshot) where
  init := {}
  apply
    | state, .record kind detail => (state.record kind detail, none)
    | state, .snapshot => (state, some state.snapshot)

/-- `DdsHealth`, shared by any number of threads. -/
abbrev ddsHealth : System (Atomic HealthState HealthOp (Option HealthSnapshot))
    (Event HealthOp (Option HealthSnapshot)) :=
  healthObject.atomic

/-- The records among the effects, in order. -/
def recordsOf (order : List (Effect HealthOp (Option HealthSnapshot))) :
    List (HealthErrorKind × String) :=
  order.filterMap fun e =>
    match e.op with
    | .record kind detail => some (kind, detail)
    | .snapshot => none

section sharing
variable {order order' : List (Effect HealthOp (Option HealthSnapshot))}
  {state state' : HealthState}

theorem recordsOf_append : recordsOf (order ++ order') = recordsOf order ++ recordsOf order' :=
  List.filterMap_append

/-- The value after some effects comes from the records among them. -/
theorem recordAll_of_legal (h : healthObject.Legal state order state') :
    state' = state.recordAll (recordsOf order) := by
  induction order generalizing state with
  | nil => exact h.symm
  | cons e order ih =>
    obtain ⟨c, op, res⟩ := e
    rw [ih h.2]
    cases op <;> rfl

/-- What a snapshot answers depends on the records before it. -/
theorem reports_of_legal {c : Nat} {snapshot : HealthSnapshot}
    (h : healthObject.Legal {} (order ++ ⟨c, .snapshot, some snapshot⟩ :: order') state) :
    snapshot.Reports (recordsOf order) := by
  obtain ⟨state', hbefore, hanswer, _⟩ := Object.legal_append.mp h
  obtain rfl : state'.snapshot = snapshot := Option.some.inj hanswer
  rw [recordAll_of_legal hbefore]
  exact snapshot_recordAll

/-- A snapshot shows events of records before it. -/
theorem shown_of_legal {c : Nat} {snapshot : HealthSnapshot}
    (h : healthObject.Legal {} order state) (hmem : ⟨c, .snapshot, some snapshot⟩ ∈ order) :
    ∃ records, records <+: recordsOf order ∧
      ∀ event ∈ snapshot.recentEvents, event ∈ numbered records := by
  obtain ⟨before, after, rfl⟩ := List.append_of_mem hmem
  refine ⟨recordsOf before, ⟨_, recordsOf_append.symm⟩, ?_⟩
  intro event hevent
  rw [(reports_of_legal h).recent] at hevent
  exact List.mem_of_mem_drop hevent

/-- Two snapshots give a number to the same event. -/
theorem agree_of_legal {c c' : Nat} {snapshot snapshot' : HealthSnapshot}
    (h : healthObject.Legal {} order state) (hmem : ⟨c, .snapshot, some snapshot⟩ ∈ order)
    (hmem' : ⟨c', .snapshot, some snapshot'⟩ ∈ order) :
    ∀ event ∈ snapshot.recentEvents, ∀ event' ∈ snapshot'.recentEvents,
      event.sequence = event'.sequence → event = event' := by
  intro event hevent event' hevent' hsequence
  obtain ⟨records, hpre, hnumbered⟩ := shown_of_legal h hmem
  obtain ⟨records', hpre', hnumbered'⟩ := shown_of_legal h hmem'
  exact eq_of_sequence_eq hpre hpre' (hnumbered event hevent) (hnumbered' event' hevent') hsequence

variable {tr : Trace (Atomic HealthState HealthOp (Option HealthSnapshot))
    (Event HealthOp (Option HealthSnapshot))}
  {a : Atomic HealthState HealthOp (Option HealthSnapshot)}

/-- **Health snapshots are exact windows.** The calls on a health handle have
    one order, in which every call of `record` and of `snapshot` takes its
    place between its start and its end. A snapshot reports the records that
    come before it: how many there are of each kind, and the last 64 of them
    with their numbers. Two snapshots agree on the events they both show. -/
theorem snapshots_exact (h : InitRun ddsHealth tr a) :
    ∃ order, healthObject.Linearizes (tr.map Prod.snd) order a.value ∧
      (∀ before c snapshot after, order = before ++ ⟨c, .snapshot, some snapshot⟩ :: after →
        snapshot.Reports (recordsOf before)) ∧
      ∀ c c' snapshot snapshot', ⟨c, .snapshot, some snapshot⟩ ∈ order →
        ⟨c', .snapshot, some snapshot'⟩ ∈ order →
        ∀ event ∈ snapshot.recentEvents, ∀ event' ∈ snapshot'.recentEvents,
          event.sequence = event'.sequence → event = event' := by
  have hlinear := Object.linearizes h
  refine ⟨effects (tr.map Prod.snd), hlinear, ?_, ?_⟩
  · intro before c snapshot after heq
    have hlegal := hlinear.legal
    rw [heq] at hlegal
    exact reports_of_legal hlegal
  · intro c c' snapshot snapshot' hmem hmem'
    exact agree_of_legal hlinear.legal hmem hmem'

/-- A snapshot overlaps two records, and sees one of them. -/
def overlapping : List (Event HealthOp (Option HealthSnapshot)) :=
  [.invoke 0 (.record .dds "timeout"), .invoke 1 .snapshot, .invoke 2 (.record .teardown "timeout"),
   .effect ⟨0, .record .dds "timeout", none⟩,
   .effect ⟨1, .snapshot, some ⟨1, 0, 0, 0, 0, 0, [⟨1, .dds, "timeout"⟩]⟩⟩,
   .effect ⟨2, .record .teardown "timeout", none⟩,
   .respond 1 (some ⟨1, 0, 0, 0, 0, 0, [⟨1, .dds, "timeout"⟩]⟩)]

theorem snapshots_exact_run : ∃ order before after,
    order = before ++ ⟨1, .snapshot, some ⟨1, 0, 0, 0, 0, 0, [⟨1, .dds, "timeout"⟩]⟩⟩ :: after ∧
    (∃ state, healthObject.Linearizes overlapping order state) ∧
    HealthSnapshot.Reports ⟨1, 0, 0, 0, 0, 0, [⟨1, .dds, "timeout"⟩]⟩ (recordsOf before) := by
  obtain ⟨tr, a, hrun, hhistory⟩ : ∃ tr a, InitRun ddsHealth tr a ∧
      tr.map Prod.snd = overlapping :=
    ⟨_, _, ⟨_, rfl, .cons (.invoke 0 _ rfl) <| .cons (.invoke 1 _ rfl) <|
      .cons (.invoke 2 _ rfl) <| .cons (.effect 0 _ rfl rfl) <| .cons (.effect 1 _ rfl rfl) <|
      .cons (.effect 2 _ rfl rfl) <| .single (.respond 1 _ rfl)⟩, rfl⟩
  obtain ⟨order, hlinear, hreports, _⟩ := snapshots_exact hrun
  rw [hhistory] at hlinear
  obtain ⟨op, hmem⟩ := hlinear.answered 1
    (some ⟨1, 0, 0, 0, 0, 0, [⟨1, .dds, "timeout"⟩]⟩) (by simp [overlapping])
  obtain rfl : op = .snapshot := by simpa [overlapping] using hlinear.invoked _ hmem
  obtain ⟨before, after, heq⟩ := List.append_of_mem hmem
  exact ⟨order, before, after, heq, ⟨_, hlinear⟩, hreports before 1 _ after heq⟩

end sharing

end UpTransportDds
