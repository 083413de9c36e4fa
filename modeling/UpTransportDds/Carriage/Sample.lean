import UpTransportDds.Framework.Codec
import UpTransportDds.Router.Step

/-! # Carriage: what the families share

  The three `send` functions build a sample of their own and end alike: they
  take the writer, which is gone once the transport is closed, and hand the
  sample to it.
-/

namespace UpTransportDds

open Codec

abbrev Bytes := List UInt8

/-- A `DataWriter`: what it answers to each sample. -/
abbrev Writer (Sample : Type) := Sample → Except DdsError Unit

/-- What a `send` leaves behind. -/
structure Sent (Sample : Type) where
  result : Except UStatus Unit
  health : HealthState
  /-- The sample it has handed to the writer. -/
  written : Option Sample

/-- The end of every `send`, after its sample has been built or has failed to
    be. -/
def sendSample {Sample : Type} (name : String) (writer : Option (Writer Sample))
    (health : HealthState) (sample : Except UStatus Sample) : Sent Sample :=
  match sample with
  | .error status => ⟨.error status, health, none⟩
  | .ok sample =>
    match writer with
    | none => ⟨.error ⟨.unavailable, "transport is closed"⟩, health, none⟩
    | some write =>
      match write sample with
      | .ok () => ⟨.ok (), health, some sample⟩
      | .error error =>
        ⟨.error (ddsStatus ("write " ++ name ++ " sample") error),
          health.record .dds (name ++ " writer: " ++ error.text), some sample⟩

section sending
variable {Sample : Type} {name : String} {write : Writer Sample} {health : HealthState}
  {encoded : Except UStatus Sample} {sample : Sample}

/-- As long as the writer is there, the sample gets to it. -/
theorem written_sendSample :
    (sendSample name (some write) health encoded).written = some sample ↔ encoded = .ok sample := by
  cases encoded with
  | error status => simp [sendSample]
  | ok built =>
    cases hwrite : write built <;> simp [sendSample, hwrite]

end sending

/-! ### What a family carries -/

/-- A family carries its values: what is sent is received as it was, and an
    accepted sample has the payload fields that sending its value gives. -/
structure Carries {Value Sample : Type} (Sends : Value → Sample → Prop)
    (decode : Sample → Except String Value) (fields : Sample → Bool × Bytes)
    (payload : Value → Option Bytes) (Good : Value → Prop) : Prop
    extends Faithful Sends decode fields Good where
  presence : ∀ v sample, Sends v sample → fields sample = flagged (payload v)
  /-- Payload bytes without the flag are not accepted. -/
  rejects : ∀ sample, (fields sample).1 = false → (fields sample).2 ≠ [] →
    ∀ v, decode sample ≠ .ok v

end UpTransportDds
