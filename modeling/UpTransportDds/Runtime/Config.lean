import Mathlib.Tactic.Common

/-! # Configuration

  `DdsConfig` with its constructor and its validation, and the status values
  that the fallible operations of the transport return.

  A transport only ever holds a configuration that passed `validate`
  (`ValidConfig`), since all three `with_config` constructors check it first.
-/

namespace UpTransportDds

/-! ### Status values -/

/-- The `UCode`s this crate fails with. -/
inductive UCode where
  | invalidArgument
  | notFound
  | alreadyExists
  | resourceExhausted
  | deadlineExceeded
  | unavailable
  | internal
  deriving DecidableEq, Repr

/-- `UStatus::fail_with_code`. -/
structure UStatus where
  code : UCode
  message : String
  deriving DecidableEq, Repr

/-- `runtime::invalid`. -/
def invalid (detail : String) : UStatus := ⟨.invalidArgument, detail⟩

/-- The variants of `DdsError` this crate tells apart. -/
inductive DdsErrorKind where
  | badParameter
  | inconsistentPolicy
  | outOfResources
  | timeout
  | notEnabled
  | alreadyDeleted
  | noData
  | other
  deriving DecidableEq, Repr

/-- A `DdsError`, with the text its `Display` prints. -/
structure DdsError where
  kind : DdsErrorKind
  text : String
  deriving DecidableEq, Repr

/-- `runtime::dds_status`. -/
def ddsStatus (context : String) (error : DdsError) : UStatus :=
  let code : UCode :=
    match error.kind with
    | .badParameter => .invalidArgument
    | .inconsistentPolicy => .invalidArgument
    | .outOfResources => .resourceExhausted
    | .timeout => .deadlineExceeded
    | .notEnabled => .unavailable
    | .alreadyDeleted => .unavailable
    | _ => .internal
  ⟨code, context ++ ": " ++ error.text⟩

/-! ### `DdsConfig` -/

inductive Reliability where
  | reliable
  | bestEffort
  deriving DecidableEq, Repr

structure DdsQos where
  reliability : Reliability
  historyDepth : Nat
  deriving DecidableEq, Repr

/-- `DdsQos::default`. -/
def DdsQos.default : DdsQos := ⟨.reliable, 32⟩

structure DdsConfig where
  domainId : Int
  originId : String
  qos : DdsQos
  dispatchCapacity : Nat
  maxSamplesPerPoll : Int
  /-- In nanoseconds. -/
  pollInterval : Nat
  deriving DecidableEq, Repr

/-- `format!("{}-{sequence}", std::process::id())`. -/
def formatOrigin (processId : Nat) (sequence : UInt64) : String :=
  toString processId ++ "-" ++ toString sequence.toNat

/-- `DdsConfig::new` in the process `processId` whose `NEXT_ORIGIN` is
    `nextOrigin`; returns the configuration and the new `NEXT_ORIGIN`, which
    wraps as `fetch_add` does. -/
def DdsConfig.new (processId : Nat) (nextOrigin : UInt64) (domainId : Int) :
    DdsConfig × UInt64 :=
  ({ domainId := domainId
     originId := formatOrigin processId nextOrigin
     qos := DdsQos.default
     dispatchCapacity := 256
     maxSamplesPerPoll := 64
     pollInterval := 2000000 }, nextOrigin + 1)

/-- `DdsConfig::validate`. Lengths of strings are in bytes. -/
def DdsConfig.validate (config : DdsConfig) : Except UStatus Unit :=
  if config.originId.isEmpty || config.originId.utf8ByteSize > 255 then
    .error (invalid "origin_id must contain 1..=255 bytes")
  else if config.dispatchCapacity = 0 then
    .error (invalid "dispatch_capacity must be greater than zero")
  else if config.maxSamplesPerPoll ≤ 0 then
    .error (invalid "max_samples_per_poll must be greater than zero")
  else if config.pollInterval = 0 then
    .error (invalid "poll_interval must be greater than zero")
  else if config.qos.historyDepth = 0 then
    .error (invalid "history_depth must be greater than zero")
  else
    .ok ()

/-- A configuration that a constructed transport can hold. -/
structure ValidConfig extends DdsConfig where
  valid : toDdsConfig.validate = .ok ()

/-- A validated capacity leaves room for at least one job, so the dispatch
    channel is never a rendezvous channel. -/
theorem ValidConfig.dispatchCapacity_pos (config : ValidConfig) :
    0 < config.dispatchCapacity := by
  have hvalid := config.valid
  unfold DdsConfig.validate at hvalid
  split at hvalid
  · contradiction
  · split at hvalid
    · contradiction
    · omega

end UpTransportDds
