import Mathlib.Data.List.Nodup
import UpTransportDds.Carriage.Owned
import UpTransportDds.Carriage.ZeroCopy

/-! # Fleets

  Transports with generated origins, in processes on any number of hosts. A
  process counts its `DdsConfig::new` calls and writes its id in front of the
  count; which samples a transport takes for its own depends on nothing else.

  Process ids are unique among the live processes of one host, and only there.
-/

namespace UpTransportDds

open LTS

/-! ### Origins -/

theorem notMem_toDigits (n : Nat) : '-' ∉ Nat.toDigits 10 n := by
  intro hmem
  have hdigit := Nat.isDigit_of_mem_toDigits (by decide) (by decide) hmem
  exact absurd hdigit (by decide)

theorem toDigits_injective {n n' : Nat} (h : Nat.toDigits 10 n = Nat.toDigits 10 n') : n = n' := by
  rw [← Nat.ofDigitChars_ten_toDigits (n := n), h, Nat.ofDigitChars_ten_toDigits]

theorem toList_formatOrigin (processId : Nat) (sequence : UInt64) :
    (formatOrigin processId sequence).toList =
      Nat.toDigits 10 processId ++ '-' :: Nat.toDigits 10 sequence.toNat := by
  show (Nat.repr processId ++ "-" ++ Nat.repr sequence.toNat).toList = _
  simp [String.toList_append, Nat.toList_repr]

/-- An origin tells the process id and the count apart. -/
theorem formatOrigin_inj {processId processId' : Nat} {sequence sequence' : UInt64} :
    formatOrigin processId sequence = formatOrigin processId' sequence' ↔
      processId = processId' ∧ sequence = sequence' := by
  constructor
  · intro h
    have hlist := congrArg String.toList h
    rw [toList_formatOrigin, toList_formatOrigin, List.append_cons_inj_of_notMem
      (notMem_toDigits processId) (notMem_toDigits sequence.toNat)] at hlist
    obtain ⟨hprocess, _, hsequence⟩ := hlist
    exact ⟨toDigits_injective hprocess, UInt64.toNat_inj.mp (toDigits_injective hsequence)⟩
  · intro ⟨hprocess, hsequence⟩
    rw [hprocess, hsequence]

/-! ### Processes and transports -/

/-- The carriage family of a transport. -/
inductive Family where
  | classic
  | owned
  | zeroCopy
  deriving DecidableEq, Repr

abbrev ProcessId := Nat

/-- An operating system process, with its `NEXT_ORIGIN`. -/
structure Process where
  host : Nat
  pid : Nat
  live : Bool
  nextOrigin : UInt64
  deriving DecidableEq, Repr

/-- What `with_config` keeps of the configuration, and the family it belongs
    to. -/
structure Transport where
  family : Family
  config : ValidConfig

/-- All processes and transports there have ever been. -/
structure Fleet where
  processes : List Process
  transports : List Transport

inductive FleetLabel where
  /-- A process starts on a host. -/
  | spawn (host pid : Nat)
  /-- A process ends, and its transports with it. -/
  | exit (p : ProcessId)
  /-- A `DdsConfig::new` call that no transport is built from. -/
  | new (p : ProcessId) (domainId : Int)
  /-- A `DdsConfig::new` call, and the `with_config` of a family on its result
      with any settings but the origin changed. -/
  | build (p : ProcessId) (family : Family) (settings : DdsConfig)

/-- The configuration that process `process` builds its next transport from. -/
def Process.configure (process : Process) (settings : DdsConfig) : DdsConfig :=
  { settings with
    originId := (DdsConfig.new process.pid process.nextOrigin settings.domainId).1.originId }

/-- The process after a `DdsConfig::new` call. -/
def Process.count (process : Process) : Process :=
  { process with nextOrigin := (DdsConfig.new process.pid process.nextOrigin 0).2 }

/-- The transport `with_config` makes, if the configuration is valid. -/
def withConfig (family : Family) (config : DdsConfig) : List Transport :=
  match hvalid : config.validate with
  | .ok () => [⟨family, { config with valid := hvalid }⟩]
  | .error _ => []

namespace Fleet

/-- The live process `p`. -/
def running (s : Fleet) (p : ProcessId) : Option Process :=
  (s.processes[p]?).filter (·.live)

def next (s : Fleet) : FleetLabel → Option Fleet
  | .spawn host pid =>
    if s.processes.any (fun process =>
        process.live && process.host = host && process.pid = pid) then
      none
    else
      -- `NEXT_ORIGIN` is 1 in a new process
      some { s with processes := s.processes ++ [⟨host, pid, true, 1⟩] }
  | .exit p =>
    (s.running p).map fun process =>
      { s with processes := s.processes.set p { process with live := false } }
  | .new p _ =>
    (s.running p).map fun process =>
      { s with processes := s.processes.set p process.count }
  | .build p family settings =>
    (s.running p).map fun process =>
      { s with
        processes := s.processes.set p process.count
        transports := s.transports ++ withConfig family (process.configure settings) }

end Fleet

/-- Fleets, from before the first process starts. -/
def fleet : System Fleet FleetLabel := ofNext (· = ⟨[], []⟩) Fleet.next

/-! ### Where transports come from -/

/-- The call a transport was built from: the id of the process that made it
    and the value of its `NEXT_ORIGIN` before; and where the transport
    belongs. -/
structure Birth where
  family : Family
  domainId : Int
  processId : Nat
  sequence : UInt64
  deriving DecidableEq, Repr

/-- The birth of the transport that the step builds. -/
def births (s : Fleet) : FleetLabel → List Birth
  | .build p family settings =>
    match s.running p with
    | none => []
    | some process =>
      match (process.configure settings).validate with
      | .ok () => [⟨family, settings.domainId, process.pid, process.nextOrigin⟩]
      | .error _ => []
  | _ => []

/-- What decides which transports exchange samples, and which of these a
    transport takes for its own. -/
abbrev Address := Family × Int × String

def Transport.address (transport : Transport) : Address :=
  (transport.family, transport.config.domainId, transport.config.originId)

def Birth.address (birth : Birth) : Address :=
  (birth.family, birth.domainId, formatOrigin birth.processId birth.sequence)

theorem Birth.address_injective : Function.Injective Birth.address := by
  intro birth birth' h
  obtain ⟨family, domainId, processId, sequence⟩ := birth
  obtain ⟨family', domainId', processId', sequence'⟩ := birth'
  simp only [Birth.address, Prod.mk.injEq, formatOrigin_inj] at h
  obtain ⟨rfl, rfl, rfl, rfl⟩ := h
  rfl

section runs
variable {s s' : Fleet} {l : FleetLabel} {tr : Trace Fleet FleetLabel}

/-- A step adds a transport for each birth. -/
theorem addresses_step (h : s.next l = some s') :
    s'.transports.map Transport.address =
      s.transports.map Transport.address ++ (births s l).map Birth.address := by
  cases l with
  | spawn host pid =>
    simp only [Fleet.next] at h
    split at h
    · contradiction
    · obtain rfl := Option.some.inj h
      simp [births]
  | exit p =>
    obtain ⟨process, _, rfl⟩ := Option.map_eq_some_iff.mp h
    simp [births]
  | new p domainId =>
    obtain ⟨process, _, rfl⟩ := Option.map_eq_some_iff.mp h
    simp [births]
  | build p family settings =>
    obtain ⟨process, hrunning, rfl⟩ := Option.map_eq_some_iff.mp h
    -- a configuration that does not validate builds no transport
    have hborn : (withConfig family (process.configure settings)).map Transport.address =
        (births s (.build p family settings)).map Birth.address := by
      simp only [births, hrunning]
      unfold withConfig
      split <;> rename_i hvalid
      · simp only [hvalid]
        rfl
      · simp only [hvalid]
        rfl
    simp [hborn]

/-- Transports have the addresses they were born with. -/
theorem addresses_run (h : InitRun fleet tr s) :
    s.transports.map Transport.address = (observe births tr).map Birth.address := by
  apply run_invariant (P := fun tr s => s.transports.map Transport.address =
    (observe births tr).map Birth.address) _ _ h
  · intro s hinit
    rw [show s = ⟨[], []⟩ from hinit]
    rfl
  · intro tr s l s' _ ih hstep
    rw [addresses_step hstep, ih, observe_append, observe_single, List.map_append]

end runs

/-! ### Exact self-suppression -/

section suppression
variable {UUri Sample Message : Type}

/-- Samples carry the origin of the transport that wrote them, and each
    transport can write some. -/
structure Carriage.Stamps (carriage : Carriage UUri Sample Message)
    (Writes : DdsConfig → Sample → Prop) : Prop where
  origin : ∀ config sample, Writes config sample → carriage.originId sample = config.originId
  writes : ∀ config, ∃ sample, Writes config sample

/-- The samples written under `config` are skipped as self-originated under
    `config'` if and only if `same` holds. -/
def Carriage.SkipsIff (carriage : Carriage UUri Sample Message)
    (Writes : DdsConfig → Sample → Prop) (config config' : DdsConfig) (same : Prop) : Prop :=
  ∀ sample, Writes config sample → (carriage.receive config' sample = .own ↔ same)

theorem receive_eq_own {carriage : Carriage UUri Sample Message} {config : DdsConfig}
    {sample : Sample} :
    carriage.receive config sample = .own ↔ carriage.originId sample = config.originId := by
  unfold Carriage.receive
  split <;> rename_i horigin
  · simp [horigin]
  -- another origin is never skipped, whether or not the sample decodes
  · cases carriage.decode sample <;> simp [horigin]

theorem skipsIff_iff {carriage : Carriage UUri Sample Message} {Writes : DdsConfig → Sample → Prop}
    (h : carriage.Stamps Writes) {config config' : DdsConfig} {same : Prop} :
    carriage.SkipsIff Writes config config' same ↔
      (config.originId = config'.originId ↔ same) := by
  constructor
  · intro hskips
    -- one sample shows it, for all of them carry the same origin
    obtain ⟨sample, hwrites⟩ := h.writes config
    have hsample := hskips sample hwrites
    rw [receive_eq_own, h.origin config sample hwrites] at hsample
    exact hsample
  · intro hsame sample hwrites
    rw [receive_eq_own, h.origin config sample hwrites]
    exact hsame

variable {UAttributes UClassicMetadata UMessage UOwnedMetadata UZeroCopyMetadata : Type}

/-- A transport with this configuration has written the sample with `send`. -/
def ClassicRust.Writes (rust : ClassicRust UUri UAttributes UClassicMetadata UMessage)
    (config : DdsConfig) (sample : UpDdsClassicSampleV1) : Prop :=
  ∃ message write health,
    (rust.sendClassic config (some write) health message).written = some sample

/-- A transport with this configuration has written the sample with
    `send_validated_owned`. -/
def OwnedRust.Writes (rust : OwnedRust UUri UOwnedMetadata) (config : DdsConfig)
    (sample : UpDdsOwnedSampleV1) : Prop :=
  ∃ frame write health,
    (rust.sendValidatedOwned config (some write) health frame).written = some sample

/-- A core with this configuration has written the sample with
    `send_prepared_zero_copy`. -/
def ZeroCopyRust.Writes (_ : ZeroCopyRust UUri UZeroCopyMetadata) (config : DdsConfig)
    (sample : UpDdsZeroCopySampleV1) : Prop :=
  ∃ (buffer : DdsTxBuffer UZeroCopyMetadata) (write : Writer UpDdsZeroCopySampleV1)
    (health : HealthState),
    (sendPreparedZeroCopy config (some write) health buffer).written = some sample

theorem stamps_classic {rust : ClassicRust UUri UAttributes UClassicMetadata UMessage}
    (h : ∃ message proto, rust.writeToProtobufBytes (rust.attributes message) = .ok proto) :
    rust.carriage.Stamps rust.Writes where
  origin := by
    intro config sample ⟨message, write, health, hwritten⟩
    exact (ClassicRust.encodeClassic_eq_ok.mp (written_sendSample.mp hwritten)).1
  writes := by
    intro config
    obtain ⟨message, proto, hproto⟩ := h
    obtain ⟨sample, hsample⟩ : ∃ sample, rust.encodeClassic config message = .ok sample := by
      simp [ClassicRust.encodeClassic, hproto]
    exact ⟨sample, message, fun _ => .ok (), {}, written_sendSample.mpr hsample⟩

theorem stamps_owned {rust : OwnedRust UUri UOwnedMetadata}
    (h : ∃ (frame : ValidatedOwnedFrame rust) (fields : Bytes),
      rust.encodeFrameMetadataFields frame.intoInner.metadata = .ok fields) :
    rust.carriage.Stamps rust.Writes where
  origin := by
    intro config sample ⟨frame, write, health, hwritten⟩
    exact (OwnedRust.encodeOwned_eq_ok.mp (written_sendSample.mp hwritten)).1
  writes := by
    intro config
    obtain ⟨frame, fields, hfields⟩ := h
    obtain ⟨sample, hsample⟩ : ∃ sample, rust.encodeOwned config frame.intoInner = .ok sample := by
      simp [OwnedRust.encodeOwned, hfields]
    exact ⟨sample, frame, fun _ => .ok (), {}, written_sendSample.mpr hsample⟩

theorem stamps_zeroCopy {rust : ZeroCopyRust UUri UZeroCopyMetadata}
    (h : ∃ spec buffer, rust.loanPreparedTx spec = .ok buffer) :
    rust.carriage.Stamps rust.Writes where
  origin := by
    intro config sample ⟨buffer, write, health, hwritten⟩
    have hsample := Except.ok.inj (written_sendSample.mp hwritten)
    rw [← hsample]
    rfl
  writes := by
    intro config
    obtain ⟨_, buffer, _⟩ := h
    exact ⟨_, buffer, fun _ => .ok (), {}, written_sendSample.mpr rfl⟩

variable {classic : ClassicRust UUri UAttributes UClassicMetadata UMessage}
  {owned : OwnedRust UUri UOwnedMetadata} {zeroCopy : ZeroCopyRust UUri UZeroCopyMetadata}

/-- Of the samples that transports of one family on one domain write, each
    skips exactly its own. -/
def ExactSuppression (classic : ClassicRust UUri UAttributes UClassicMetadata UMessage)
    (owned : OwnedRust UUri UOwnedMetadata) (zeroCopy : ZeroCopyRust UUri UZeroCopyMetadata)
    (transports : List Transport) : Prop :=
  ∀ (a b : Nat) (A B : Transport), transports[a]? = some A → transports[b]? = some B →
    A.family = B.family → A.config.domainId = B.config.domainId →
    match A.family with
    | .classic =>
      classic.carriage.SkipsIff classic.Writes A.config.toDdsConfig B.config.toDdsConfig (a = b)
    | .owned =>
      owned.carriage.SkipsIff owned.Writes A.config.toDdsConfig B.config.toDdsConfig (a = b)
    | .zeroCopy =>
      zeroCopy.carriage.SkipsIff zeroCopy.Writes A.config.toDdsConfig B.config.toDdsConfig (a = b)

theorem exactSuppression_iff_nodup (hclassic : classic.carriage.Stamps classic.Writes)
    (howned : owned.carriage.Stamps owned.Writes)
    (hzeroCopy : zeroCopy.carriage.Stamps zeroCopy.Writes) (transports : List Transport) :
    ExactSuppression classic owned zeroCopy transports ↔
      (transports.map Transport.address).Nodup := by
  -- for each family, skipping depends on the origins alone
  have hskips : ∀ (a b : Nat) (A B : Transport),
      (match A.family with
        | .classic => classic.carriage.SkipsIff classic.Writes A.config.toDdsConfig
            B.config.toDdsConfig (a = b)
        | .owned => owned.carriage.SkipsIff owned.Writes A.config.toDdsConfig
            B.config.toDdsConfig (a = b)
        | .zeroCopy => zeroCopy.carriage.SkipsIff zeroCopy.Writes A.config.toDdsConfig
            B.config.toDdsConfig (a = b)) ↔
      (A.config.originId = B.config.originId ↔ a = b) := by
    intro a b A B
    cases A.family with
    | classic => exact skipsIff_iff hclassic
    | owned => exact skipsIff_iff howned
    | zeroCopy => exact skipsIff_iff hzeroCopy
  unfold ExactSuppression
  simp only [hskips]
  constructor
  · intro hexact
    -- two transports at one address would skip the samples of each other
    rw [List.nodup_iff_getElem?_ne_getElem?]
    intro a b hab hb heq
    rw [List.length_map] at hb
    have hA := List.getElem?_eq_getElem (Nat.lt_trans hab hb)
    have hB := List.getElem?_eq_getElem hb
    have haddress : (transports[a]).address = (transports[b]).address := by
      simpa [hA, hB] using heq
    obtain ⟨hfamily, hrest⟩ := Prod.mk.inj haddress
    obtain ⟨hdomain, horigin⟩ := Prod.mk.inj hrest
    have hsame : a = b := (hexact a b _ _ hA hB hfamily hdomain).mp horigin
    omega
  · intro hnodup a b A B hA hB hfamily hdomain
    constructor
    · intro horigin
      have haddress : A.address = B.address := by
        unfold Transport.address
        rw [hfamily, hdomain, horigin]
      have ha : a < (transports.map Transport.address).length := by
        rw [List.length_map]
        exact (List.getElem?_eq_some_iff.mp hA).1
      apply (List.getElem?_inj ha hnodup).mp
      simp [hA, hB, haddress]
    · intro hsame
      rw [hsame, hB] at hA
      rw [Option.some.inj hA]

/-- **Exactly when self-suppression is exact.** In every fleet whose transports
    keep their generated origins, transports of one family on one domain skip
    exactly their own samples if and only if no two of them come from
    `DdsConfig::new` calls made under the same process id at the same value of
    `NEXT_ORIGIN`. -/
theorem exactSuppression_iff
    (hclassic : ∃ message proto,
      classic.writeToProtobufBytes (classic.attributes message) = .ok proto)
    (howned : ∃ (frame : ValidatedOwnedFrame owned) (fields : Bytes),
      owned.encodeFrameMetadataFields frame.intoInner.metadata = .ok fields)
    (hzeroCopy : ∃ spec buffer, zeroCopy.loanPreparedTx spec = .ok buffer)
    {tr : Trace Fleet FleetLabel} {s : Fleet} (h : InitRun fleet tr s) :
    ExactSuppression classic owned zeroCopy s.transports ↔ (observe births tr).Nodup := by
  rw [exactSuppression_iff_nodup (stamps_classic hclassic) (stamps_owned howned)
    (stamps_zeroCopy hzeroCopy), addresses_run h, List.nodup_map_iff Birth.address_injective]

end suppression

/-- Two processes on one host and three transports. -/
def hostRun : List FleetLabel :=
  [.spawn 0 17, .spawn 0 18, .build 0 .classic (DdsConfig.new 0 0 0).1, .new 0 0,
   .build 1 .classic (DdsConfig.new 0 0 0).1, .build 0 .classic (DdsConfig.new 0 0 0).1]

theorem topic_sends :
    (∃ message proto,
      topicClassic.writeToProtobufBytes (topicClassic.attributes message) = .ok proto) ∧
    (∃ (frame : ValidatedOwnedFrame topicOwned) (fields : Bytes),
      topicOwned.encodeFrameMetadataFields frame.intoInner.metadata = .ok fields) ∧
    ∃ spec buffer, topicZeroCopy.loanPreparedTx spec = .ok buffer := by
  refine ⟨⟨(⟨7⟩, none), _, rfl⟩, ⟨⟨⟨⟨7⟩, none⟩, rfl⟩, _, rfl⟩, byteCommit.spec, ?_⟩
  obtain ⟨_, hloan⟩ := ZeroCopyRust.loanPreparedTx_granted topicZeroCopy
    (show byteCommit.Granted from rfl)
  exact ⟨_, hloan⟩

theorem exactSuppression_host : ∃ tr s, InitRun fleet tr s ∧ tr.map Prod.snd = hostRun ∧
    s.transports.length = 3 ∧
    ExactSuppression topicClassic topicOwned topicZeroCopy s.transports := by
  obtain ⟨tr, s, hexec, hthree, hbirths⟩ : ∃ tr s,
      exec Fleet.next ⟨[], []⟩ hostRun = some (tr, s) ∧ s.transports.length = 3 ∧
        (observe births tr).Nodup :=
    ⟨_, _, rfl, by decide, by decide⟩
  have hrun : InitRun fleet tr s := ⟨_, rfl, run_of_exec hexec⟩
  obtain ⟨hclassic, howned, hzeroCopy⟩ := topic_sends
  exact ⟨tr, s, hrun, labels_of_exec hexec, hthree,
    (exactSuppression_iff hclassic howned hzeroCopy hrun).mpr hbirths⟩

/-- Two processes on two hosts, each of which starts a classic transport. Both
    have the process id 1. -/
def hostsRun : List FleetLabel :=
  [.spawn 0 1, .spawn 1 1, .build 0 .classic (DdsConfig.new 0 0 0).1,
   .build 1 .classic (DdsConfig.new 0 0 0).1]

/-- Each of the two skips what the other sends. -/
theorem hosts_collide : ∃ tr s, InitRun fleet tr s ∧ tr.map Prod.snd = hostsRun ∧
    s.transports.map Transport.address = [(.classic, 0, "1-1"), (.classic, 0, "1-1")] ∧
    ¬ ExactSuppression topicClassic topicOwned topicZeroCopy s.transports := by
  obtain ⟨tr, s, hexec, haddresses⟩ : ∃ tr s, exec Fleet.next ⟨[], []⟩ hostsRun = some (tr, s) ∧
      s.transports.map Transport.address = [(.classic, 0, "1-1"), (.classic, 0, "1-1")] :=
    ⟨_, _, rfl, by decide⟩
  obtain ⟨hclassic, howned, hzeroCopy⟩ := topic_sends
  refine ⟨tr, s, ⟨_, rfl, run_of_exec hexec⟩, labels_of_exec hexec, haddresses, ?_⟩
  -- the two share an address
  rw [exactSuppression_iff_nodup (stamps_classic hclassic) (stamps_owned howned)
    (stamps_zeroCopy hzeroCopy), haddresses]
  decide

end UpTransportDds
