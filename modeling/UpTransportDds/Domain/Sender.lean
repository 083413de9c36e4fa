import UpTransportDds.Carriage.Owned
import UpTransportDds.Carriage.ZeroCopy

/-! # Senders

  What the `send` functions of the families have in common, next to what their
  loops do: a value becomes a sample that carries the origin of its transport,
  and that a peer decodes to the message of the value.
-/

namespace UpTransportDds

/-- A family, with the values it sends. -/
structure Sender (UUri Sample Message Value : Type) where
  carriage : Carriage UUri Sample Message
  /-- The sample that is handed to the writer. -/
  encode : DdsConfig → Value → Except UStatus Sample
  /-- What a peer is to receive. -/
  message : Value → Message

namespace Sender

section sending
variable {UUri Sample Message Value : Type} (sender : Sender UUri Sample Message Value)

/-- The `send` of the family. -/
def send (config : DdsConfig) (writer : Option (Writer Sample)) (health : HealthState)
    (value : Value) : Sent Sample :=
  sendSample sender.carriage.name writer health (sender.encode config value)

/-- Samples carry the origin of their sender, and are received as they were
    sent. -/
structure Lawful : Prop where
  origin : ∀ config value sample, sender.encode config value = .ok sample →
    sender.carriage.originId sample = config.originId
  arrives : ∀ config value sample, sender.encode config value = .ok sample →
    sender.carriage.decode sample = .ok (sender.message value)

variable {sender}

/-- What a peer makes of a sample is decided by the two origins. -/
theorem Lawful.receive (h : sender.Lawful) {config config' : DdsConfig} {value : Value}
    {sample : Sample} (hencode : sender.encode config value = .ok sample) :
    sender.carriage.receive config' sample =
      if config.originId = config'.originId then .own else .accepted (sender.message value) := by
  unfold Carriage.receive
  rw [h.origin _ _ _ hencode, h.arrives _ _ _ hencode]

end sending

end Sender

/-! ### The three families -/

section families
variable {UUri UAttributes UFrameMetadata UMessage : Type}

/-- The classic family sends well-formed messages. -/
def ClassicRust.sender (rust : ClassicRust UUri UAttributes UFrameMetadata UMessage)
    (WellFormed : UMessage → Prop) :
    Sender UUri UpDdsClassicSampleV1 UMessage { m : UMessage // WellFormed m } where
  carriage := rust.carriage
  encode := fun config message => rust.encodeClassic config message.1
  message := Subtype.val

/-- The owned family sends validated frames. -/
def OwnedRust.sender (rust : OwnedRust UUri UFrameMetadata) :
    Sender UUri UpDdsOwnedSampleV1 (UOwnedFrame UFrameMetadata) (ValidatedOwnedFrame rust) where
  carriage := rust.carriage
  encode := fun config frame => rust.encodeOwned config frame.intoInner
  message := ValidatedOwnedFrame.intoInner

/-- The zero-copy family sends a loan, once it is granted and filled. -/
def ZeroCopyRust.sender (rust : ZeroCopyRust UUri UFrameMetadata) :
    Sender UUri UpDdsZeroCopySampleV1 (UUri × Option UUri × DdsRxFrame) (Commit UFrameMetadata)
    where
  carriage := rust.carriage
  encode := fun config commit =>
    (rust.loanPreparedTx commit.spec).map fun loan =>
      encodeZeroCopy config (loan.storeAll commit.writes)
  message := Commit.received rust

section laws
variable {classic : ClassicRust UUri UAttributes UFrameMetadata UMessage}
  {owned : OwnedRust UUri UFrameMetadata} {zeroCopy : ZeroCopyRust UUri UFrameMetadata}
  {WellFormed : UMessage → Prop}

theorem ClassicRust.sender_send (config : DdsConfig) (writer : Option (Writer _))
    (health : HealthState) (message : { m : UMessage // WellFormed m }) :
    (classic.sender WellFormed).send config writer health message =
      classic.sendClassic config writer health message.1 := rfl

theorem OwnedRust.sender_send (config : DdsConfig) (writer : Option (Writer _))
    (health : HealthState) (frame : ValidatedOwnedFrame owned) :
    owned.sender.send config writer health frame =
      owned.sendValidatedOwned config writer health frame := rfl

/-- A granted loan is sent as `send_prepared_zero_copy` does. -/
theorem ZeroCopyRust.sender_send (config : DdsConfig) (writer : Option (Writer _))
    (health : HealthState) (commit : Commit UFrameMetadata) {loan : DdsTxBuffer UFrameMetadata}
    (hloan : zeroCopy.loanPreparedTx commit.spec = .ok loan) :
    zeroCopy.sender.send config writer health commit =
      sendPreparedZeroCopy config writer health (loan.storeAll commit.writes) := by
  show sendSample _ _ _ ((zeroCopy.loanPreparedTx commit.spec).map _) = _
  rw [hloan]
  rfl

theorem ClassicRust.sender_lawful (h : classic.Lawful WellFormed) :
    (classic.sender WellFormed).Lawful where
  origin := fun _ _ _ hencode => (ClassicRust.encodeClassic_eq_ok.mp hencode).1
  arrives := fun config message sample hencode =>
    (ClassicRust.decode_encodeClassic config h message.2).2 sample hencode

theorem OwnedRust.sender_lawful (h : owned.Lawful) : owned.sender.Lawful where
  origin := fun _ _ _ hencode => (OwnedRust.encodeOwned_eq_ok.mp hencode).1
  arrives := fun config frame sample hencode =>
    (OwnedRust.decode_encodeOwned config h frame.valid).2 sample hencode

/-- What is sent of a commit is its sample. -/
theorem ZeroCopyRust.sender_sample {config : DdsConfig} {commit : Commit UFrameMetadata}
    {sample : UpDdsZeroCopySampleV1} (hencode : zeroCopy.sender.encode config commit = .ok sample) :
    sample = commit.sample zeroCopy config := by
  have hencode' : (zeroCopy.loanPreparedTx commit.spec).map (fun loan =>
      encodeZeroCopy config (loan.storeAll commit.writes)) = .ok sample := hencode
  cases hloan : zeroCopy.loanPreparedTx commit.spec with
  | error status =>
    rw [hloan] at hencode'
    contradiction
  | ok loan =>
    rw [hloan] at hencode'
    have hgranted : commit.Granted := ZeroCopyRust.layoutValid_of_loan hloan
    have hsent : commit.SendsInit zeroCopy config (fun _ => .ok ()) {} sample := by
      refine ⟨loan, hloan, ?_⟩
      rw [← Except.ok.inj hencode']
      rfl
    exact (Commit.sendsInit_iff hgranted).mp hsent

theorem ZeroCopyRust.sender_lawful (h : zeroCopy.Lawful) : zeroCopy.sender.Lawful where
  origin := by
    intro config commit sample hencode
    rw [sender_sample hencode]
    rfl
  arrives := by
    intro config commit sample hencode
    rw [sender_sample hencode]
    exact Commit.decode_sample h

end laws

end families

end UpTransportDds
