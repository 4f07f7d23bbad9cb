import NpcRuntime.Microphone.Codec

/-!
# The two microphone codecs together

The host accepts what the broker encodes exactly if it belongs to the host's lease and comes next on
its stream. `encode_hello` checks the schema of a shape that it makes itself and not that of the
hello, so it also encodes hellos that no side reads.
-/

namespace NpcRuntime.Microphone

open Reader
open Playback (noNul maximumEndpointIdBytes)

variable {bytes rest : Bytes}

/-- A string that the host's reader takes. -/
def Host.Accepts (value : Bytes) : Prop := (utf8 value && noNul value) = true

theorem Host.accepts_noNul {value : Bytes} (h : Accepts value) : noNul value = true := by
  rw [Accepts, Bool.and_eq_true] at h
  exact h.2

theorem maximumIdentifierBytes_lt' : 128 < 2 ^ 16 := by decide

/-! ## Leases that both sides accept -/

/-- A lease that both sides accept, whose names are UTF-8. -/
structure RehearsalLease.Accepted (lease : RehearsalLease) : Prop where
  native : validLease lease = true
  host : Host.validate lease = true
  streamId : utf8 lease.streamId = true
  sessionId : utf8 lease.sessionId = true
  turnId : utf8 lease.turnId = true
  endpointId : utf8 lease.inputEndpointId = true

theorem Host.bounded_fits {value : Bytes} {maximum : Nat} (h : bounded value maximum = true) :
    Fits maximum value ∧ noNul value = true := by
  simp only [bounded, Bool.and_eq_true, Bool.not_eq_true', decide_eq_true_eq] at h
  obtain ⟨⟨⟨hempty, hle⟩, hnul⟩, -⟩ := h
  exact ⟨⟨List.length_pos_iff.2 (List.isEmpty_eq_false_iff.1 hempty), hle⟩, hnul⟩

variable {lease : RehearsalLease}

/-- What the host checks of a lease, as far as its messages depend on it. -/
theorem RehearsalLease.Accepted.facts (h : lease.Accepted) :
    (Fits maximumIdentifierBytes lease.streamId ∧ Host.Accepts lease.streamId) ∧
      (Fits maximumIdentifierBytes lease.sessionId ∧ Host.Accepts lease.sessionId) ∧
      (Fits maximumIdentifierBytes lease.turnId ∧ Host.Accepts lease.turnId) ∧
      (Fits maximumEndpointIdBytes lease.inputEndpointId ∧ Host.Accepts lease.inputEndpointId) ∧
      lease.channels = 1 ∧ lease.maxFrames.toNat < 2 ^ 64 - 1 ∧
      lease.maxChunkBytes = maximumChunkBytes ∧ lease.activationSource = .pushToTalk := by
  have hhost := h.host
  simp only [Host.validate, Bool.and_eq_true, beq_iff_eq, bne_iff_ne, decide_eq_true_eq] at hhost
  obtain ⟨⟨⟨⟨⟨⟨⟨⟨⟨⟨⟨⟨⟨⟨⟨⟨⟨⟨⟨⟨⟨⟨⟨-, hstream⟩, -⟩, -⟩, -⟩, hsession⟩, hturn⟩, -⟩, -⟩, hduration⟩, hrate⟩,
    hchannels⟩, -⟩, hframes⟩, hchunk⟩, -⟩, -⟩, hendpoint⟩, -⟩, hsource⟩, -⟩, -⟩, -⟩, -⟩ := hhost
  have hstring : ∀ {value maximum}, Host.bounded value maximum = true → utf8 value = true →
      Fits maximum value ∧ Host.Accepts value := by
    intro value maximum hbounded hutf8
    obtain ⟨hfits, hnul⟩ := Host.bounded_fits hbounded
    exact ⟨hfits, by rw [Host.Accepts, hutf8, hnul]; rfl⟩
  refine ⟨hstring hstream h.streamId, hstring hsession h.sessionId, hstring hturn h.turnId,
    hstring hendpoint h.endpointId, hchannels, ?_, hchunk, hsource⟩
  have hle := UInt64.le_iff_toNat_le.1 hframes
  have hlt := UInt64.toNat_lt (lease.sampleRate.toUInt64 * lease.durationMs.toUInt64)
  rw [UInt64.toNat_div, show (1000 : UInt64).toNat = 1000 from rfl] at hle
  omega

/-! ## Hellos -/

/-- The hello that the host expects. -/
def Host.hello (lease : RehearsalLease) : StreamHello :=
  ⟨⟨.pushToTalk, lease.pttVirtualKey, lease.pttPressTransitionSequence, lease.pttPressedQpc⟩,
    Microphone.schemaVersion, lease.streamId, lease.sessionId, lease.turnId, lease.generation,
    lease.sampleRate, lease.channels, lease.maxFrames, lease.maxChunkBytes, lease.qpcFrequency⟩

/-- The identity, the activation and the format of the hello are those of the lease. -/
structure StreamHello.Matches (hello : StreamHello) (lease : RehearsalLease) : Prop where
  streamId : hello.streamId = lease.streamId
  sessionId : hello.sessionId = lease.sessionId
  turnId : hello.turnId = lease.turnId
  generation : hello.generation = lease.generation
  sampleRate : hello.sampleRate = lease.sampleRate
  channels : hello.channels = lease.channels
  maxFrames : hello.maxFrames = lease.maxFrames
  maxChunkBytes : hello.maxChunkBytes = lease.maxChunkBytes
  qpcFrequency : hello.qpcFrequency = lease.qpcFrequency
  activation : hello.toActivation = lease.toActivation

theorem StreamHello.eq_hello {hello : StreamHello}
    (hsource : lease.activationSource = .pushToTalk) :
    hello = Host.hello lease ↔
      hello.schemaVersion = Microphone.schemaVersion ∧ hello.Matches lease := by
  have hactivation : lease.toActivation = ⟨.pushToTalk, lease.pttVirtualKey,
      lease.pttPressTransitionSequence, lease.pttPressedQpc⟩ := by
    rw [← hsource]
  constructor
  · intro h
    subst h
    exact ⟨rfl, rfl, rfl, rfl, rfl, rfl, rfl, rfl, rfl, rfl, hactivation.symm⟩
  · intro h
    obtain ⟨hversion, hmatches⟩ := h
    obtain ⟨activation, version, stream, session, turn, generation, rate, channels, frames, chunk,
      frequency⟩ := hello
    obtain ⟨rfl, rfl, rfl, rfl, rfl, rfl, rfl, rfl, rfl, rfl⟩ := hmatches
    obtain rfl : version = Microphone.schemaVersion := hversion
    rw [Host.hello, ← hactivation]

namespace Host

theorem run_readHello {u : Unit} :
    (readHello lease).run bytes = some (u, rest) ↔
      (hello lease).Strings Accepts ∧ bytes = (hello lease).body ∧ rest = [] := by
  simp only [readHello, readString, run_bind_eq_some, run_exact, run_u16, run_u32, run_u64,
    run_string maximumIdentifierBytes_lt', run_readActivation, run_done, run_check]
  constructor
  · intro h
    obtain ⟨-, _, rfl, version, _, rfl, streamId, _, ⟨hstream, rfl⟩, sessionId, _,
      ⟨hsession, rfl⟩, turnId, _, ⟨hturn, rfl⟩, generation, _, rfl, rate, _, rfl, channels, _, rfl,
      frames, _, rfl, chunk, _, rfl, frequency, _, rfl, activation, _, rfl, -, _, ⟨rfl, rfl⟩,
      hmatches, hrest⟩ := h
    simp only [Bool.and_eq_true, beq_iff_eq] at hmatches
    obtain ⟨⟨⟨⟨⟨⟨⟨⟨⟨⟨⟨⟨⟨rfl, rfl⟩, rfl⟩, rfl⟩, rfl⟩, rfl⟩, rfl⟩, rfl⟩, rfl⟩, rfl⟩, hsource⟩, hkey⟩,
      hpress⟩, hpressed⟩ := hmatches
    have hactivation : activation = (hello lease).toActivation := by
      obtain ⟨source, key, press, pressed⟩ := activation
      obtain rfl : source = .pushToTalk := hsource
      obtain rfl : key = lease.pttVirtualKey := hkey
      obtain rfl : press = lease.pttPressTransitionSequence := hpress
      obtain rfl : pressed = lease.pttPressedQpc := hpressed
      rfl
    refine ⟨⟨hstream, hsession, hturn⟩, ?_, hrest.symm⟩
    simp only [StreamHello.body, hactivation, hello, List.append_assoc, List.append_nil]
  · intro h
    obtain ⟨hstrings, hbytes, rfl⟩ := h
    rw [hbytes, StreamHello.body]
    simp only [List.append_assoc]
    refine ⟨(), _, rfl, _, _, rfl, _, _, ⟨hstrings.streamId, rfl⟩, _, _,
      ⟨hstrings.sessionId, rfl⟩, _, _, ⟨hstrings.turnId, rfl⟩, _, _, rfl, _, _, rfl, _, _, rfl, _,
      _, rfl, _, _, rfl, _, _, rfl, _, [], (List.append_nil _).symm, (), [], ⟨rfl, rfl⟩, ?_, rfl⟩
    simp only [hello, beq_self_eq_true, Bool.and_self]

/-- **The host accepts one body**, the hello of its lease. -/
theorem decodeHello_eq_some (h : lease.Accepted) :
    decodeHello bytes lease = some () ↔ bytes = (hello lease).body := by
  obtain ⟨hstream, hsession, hturn, -⟩ := h.facts
  rw [decodeHello, decode_eq_some]
  simp only [run_readHello]
  constructor
  · intro h
    obtain ⟨-, -, hbytes, -⟩ := h
    exact hbytes
  · intro hbytes
    exact ⟨[], ⟨hstream, hsession, hturn⟩, hbytes, rfl⟩

/-- **Of the hellos that are encoded, the host accepts the one of its lease.** -/
theorem decodeHello_encoded (h : lease.Accepted) {hello : StreamHello}
    (hencode : Native.encodeHello hello = some bytes) :
    decodeHello bytes lease = some () ↔
      hello.schemaVersion = Microphone.schemaVersion ∧ hello.Matches lease := by
  obtain ⟨-, hstrings, rfl⟩ := Native.encodeHello_eq_some.1 hencode
  obtain ⟨hstream, hsession, hturn, -, -, -, -, hsource⟩ := h.facts
  rw [decodeHello_eq_some h, ← StreamHello.eq_hello hsource]
  constructor
  · intro hbody
    have hleaseStrings : (Host.hello lease).Strings (noNul · = true) :=
      ⟨⟨hstream.1, accepts_noNul hstream.2⟩, ⟨hsession.1, accepts_noNul hsession.2⟩,
        ⟨hturn.1, accepts_noNul hturn.2⟩⟩
    exact StreamHello.body_inj hstrings hleaseStrings hbody
  · intro hsame
    rw [hsame]

end Host

/-! ## Chunks -/

/-- The chunk is the next of the stream, and within the frames of the lease. -/
structure PcmChunk.Matches (chunk : PcmChunk) (source : Host.BrokerPcmInputSource) : Prop where
  sequence : chunk.sequence = source.nextSequence
  firstFrameIndex : chunk.firstFrameIndex = source.capturedFrames
  frames : source.capturedFrames.toNat + chunk.frameCount.toNat ≤ source.maxFrames.toNat

/-- The chunk as the host hands it on. -/
def PcmChunk.native (chunk : PcmChunk) (source : Host.BrokerPcmInputSource) :
    Host.NativePcmChunk :=
  ⟨source.identity, chunk.sequence, chunk.firstFrameQpc, chunk.firstFrameIndex, chunk.frameCount,
    chunk.pcm⟩

/-- A source of the lease, wherever on its stream it is. -/
def RehearsalLease.sourceAt (lease : RehearsalLease) (nextSequence : UInt64)
    (lastSequence : Option UInt64) (capturedFrames : UInt64)
    (receipt : Option Host.NativePcmReceipt) : Host.BrokerPcmInputSource :=
  { Host.connected lease with nextSequence, lastSequence, capturedFrames, receipt }

namespace Host

theorem run_readChunk {source : BrokerPcmInputSource} {value : NativePcmChunk} :
    (readChunk source).run bytes = some (value, rest) ↔
      ∃ chunk : PcmChunk, chunk.pcm.length < 2 ^ 32 ∧ bytes = chunk.body ∧ rest = [] ∧
        chunk.schemaVersion = schemaVersion ∧ chunk.firstFrameQpc ≠ 0 ∧ chunk.frameCount ≠ 0 ∧
        chunk.pcm.length ≤ source.maxChunkBytes.toNat ∧
        chunk.pcm.length = chunk.frameCount.toNat * source.channels.toNat * 2 ∧
        chunk.sequence = source.nextSequence ∧ chunk.firstFrameIndex = source.capturedFrames ∧
        saturate (source.capturedFrames.toNat + chunk.frameCount.toNat) ≤
          source.maxFrames.toNat ∧
        value = chunk.native source := by
  simp only [readChunk, run_bind_eq_some, run_exact, run_u32, run_u64, run_remaining, run_check,
    run_pure_eq_some, Bool.and_eq_true, beq_iff_eq, bne_iff_ne, decide_eq_true_eq,
    UInt32.le_iff_toNat_le]
  constructor
  · intro h
    obtain ⟨-, _, rfl, version, _, rfl, sequence, _, rfl, qpc, _, rfl, index, _, rfl, frames, _,
      rfl, size, _, rfl, pcm, _, ⟨hpcm, rfl⟩, -, _,
      ⟨⟨⟨⟨⟨⟨⟨⟨⟨hversion, hsequence⟩, hqpc⟩, hindex⟩, hframes⟩, hsize⟩, hle⟩, hlength⟩, htotal⟩, rfl⟩,
      rfl, rfl⟩ := h
    refine ⟨⟨version, sequence, qpc, index, frames, pcm⟩, by rw [hsize]; exact size.toNat_lt, ?_,
      rfl, hversion, hqpc, hframes, by rw [hsize]; exact hle, by rw [hsize]; exact hlength,
      hsequence, hindex, htotal, rfl⟩
    simp only [PcmChunk.body, hpcm, hsize, UInt32.ofNat_toNat, List.append_assoc]
  · intro h
    obtain ⟨chunk, hsmall, hbytes, rfl, hversion, hqpc, hframes, hle, hlength, hsequence, hindex,
      htotal, rfl⟩ := h
    have hsize : (UInt32.ofNat chunk.pcm.length).toNat = chunk.pcm.length :=
      UInt32.toNat_ofNat_of_lt' hsmall
    rw [hbytes, PcmChunk.body]
    simp only [List.append_assoc]
    exact ⟨(), _, rfl, _, _, rfl, _, _, rfl, _, _, rfl, _, _, rfl, _, _, rfl, _, _, rfl, _, _,
      ⟨rfl, rfl⟩, (), [], ⟨⟨⟨⟨⟨⟨⟨⟨⟨hversion, hsequence⟩, hqpc⟩, hindex⟩, hframes⟩, hsize.symm⟩,
        by rw [hsize]; exact hle⟩, by rw [hsize]; exact hlength⟩, htotal⟩, rfl⟩, rfl, rfl⟩

theorem saturate_le {n m : Nat} (h : m < 2 ^ 64 - 1) : saturate n ≤ m ↔ n ≤ m := by
  unfold saturate
  omega

/-- **Of the chunks that are encoded, the host accepts the next one of its stream.** -/
theorem decodeChunk_encoded (h : lease.Accepted) {chunk : PcmChunk}
    (hencode : Native.encodeChunk chunk lease.channels = some bytes) (nextSequence : UInt64)
    (lastSequence : Option UInt64) (capturedFrames : UInt64) (receipt : Option NativePcmReceipt)
    (value : NativePcmChunk) :
    decodeChunk bytes (lease.sourceAt nextSequence lastSequence capturedFrames receipt) =
        some value ↔
      chunk.Matches (lease.sourceAt nextSequence lastSequence capturedFrames receipt) ∧
        value = chunk.native
          (lease.sourceAt nextSequence lastSequence capturedFrames receipt) := by
  obtain ⟨hvalid, rfl⟩ := Native.encodeChunk_eq_some.1 hencode
  obtain ⟨-, -, -, -, hchannels, hframes, hchunk, -⟩ := h.facts
  have hsmall : chunk.pcm.length < 2 ^ 32 := lt_of_le_of_lt hvalid.pcm_le (by decide)
  rw [decodeChunk, decode_eq_some]
  simp only [run_readChunk]
  constructor
  · intro hread
    obtain ⟨-, chunk', hsmall', hbody, -, -, -, -, -, -, hsequence, hindex, htotal, rfl⟩ := hread
    obtain rfl := PcmChunk.body_inj hsmall hsmall' hbody
    exact ⟨⟨hsequence, hindex, (saturate_le hframes).1 htotal⟩, rfl⟩
  · intro hread
    obtain ⟨hmatches, hvalue⟩ := hread
    refine ⟨[], chunk, hsmall, rfl, rfl, hvalid.schemaVersion, hvalid.firstFrameQpc,
      hvalid.frameCount, ?_, ?_, hmatches.sequence, hmatches.firstFrameIndex,
      (saturate_le hframes).2 hmatches.frames, hvalue⟩
    · show _ ≤ lease.maxChunkBytes.toNat
      rw [hchunk]
      exact hvalid.pcm_le
    · rw [hvalid.pcm_length, Nat.mul_assoc]
      rfl

end Host

/-! ## Receipts -/

/-- The identity, the activation, the endpoint and the frames of the receipt are those of the
source. -/
structure RehearsalReceipt.Matches (receipt : RehearsalReceipt)
    (source : Host.BrokerPcmInputSource) : Prop where
  streamId : receipt.streamId = source.streamId
  sessionId : receipt.sessionId = source.identity.sessionId
  turnId : receipt.turnId = source.identity.turnId
  generation : receipt.generation = source.identity.generation
  mode : receipt.inputSelectionMode = source.inputSelectionMode
  endpointId : receipt.inputEndpointId = source.identity.inputEndpointId
  endpointGeneration : receipt.inputEndpointGeneration = source.identity.inputEndpointGeneration
  sampleRate : receipt.sampleRate = source.sampleRate
  channels : receipt.channels = source.channels
  capturedFrames : receipt.capturedFrames = source.capturedFrames
  maxFrames : receipt.capturedFrames ≤ source.maxFrames
  activationSource : receipt.activationSource = .pushToTalk
  virtualKey : receipt.pttVirtualKey = source.activation.pttVirtualKey
  pressSequence : receipt.pttPressTransitionSequence =
    source.activation.pttPressTransitionSequence
  pressedQpc : receipt.pttPressedQpc = source.activation.pttPressedQpc

/-- The receipt as the host keeps it. -/
def RehearsalReceipt.native (receipt : RehearsalReceipt) (source : Host.BrokerPcmInputSource) :
    Host.NativePcmReceipt :=
  ⟨source.identity, source.activation, receipt.capturedFrames, receipt.sourceCaptureComplete,
    receipt.cancelled, receipt.deviceLost, receipt.pttReleaseTransitionSequence,
    receipt.pttReleasedQpc⟩

/-- What the host checks of a receipt beyond that it matches. -/
structure RehearsalReceipt.Plausible (receipt : RehearsalReceipt) : Prop where
  schemaVersion : receipt.schemaVersion = Microphone.schemaVersion
  peak : -120000 ≤ receipt.peakMilliDbfs ∧ receipt.peakMilliDbfs ≤ 0
  rms : -120000 ≤ receipt.rmsMilliDbfs ∧ receipt.rmsMilliDbfs ≤ 0
  clipped : receipt.clippedSamples.toNat ≤
    Host.saturate (receipt.capturedFrames.toNat * receipt.channels.toNat)
  silent : receipt.silentFrames ≤ receipt.capturedFrames
  released : receipt.pttReleaseTransitionSequence = 0 ↔ receipt.pttReleasedQpc = 0
  ordered : receipt.pttReleaseTransitionSequence ≠ 0 →
    receipt.pttPressTransitionSequence < receipt.pttReleaseTransitionSequence ∧
      receipt.pttPressedQpc ≤ receipt.pttReleasedQpc
  complete : receipt.sourceCaptureComplete = true → receipt.pttReleaseTransitionSequence ≠ 0
  outcome : receipt.sourceCaptureComplete = true →
    receipt.cancelled = false ∧ receipt.deviceLost = false

namespace Host

theorem run_readReceiptIdentity {identity : ReceiptIdentity} :
    readReceiptIdentity.run bytes = some (identity, rest) ↔
      identity.Strings Accepts ∧ bytes = identity.body ++ rest := by
  simp only [readReceiptIdentity, readString, run_bind_eq_some, run_u8, run_u32, run_u64,
    run_string maximumIdentifierBytes_lt', run_string (show 1024 < 2 ^ 16 by decide), run_ofOption,
    run_pure_eq_some, Playback.AudioOutputSelectionMode.ofWire_eq_some]
  constructor
  · intro h
    obtain ⟨version, _, rfl, receiptId, _, ⟨hreceipt, rfl⟩, streamId, _, ⟨hstream, rfl⟩, sessionId,
      _, ⟨hsession, rfl⟩, turnId, _, ⟨hturn, rfl⟩, generation, _, rfl, modeRaw, _, rfl, mode, _,
      ⟨rfl, rfl⟩, endpointId, _, ⟨hendpoint, rfl⟩, endpointGeneration, _, rfl, rfl, rfl⟩ := h
    refine ⟨⟨hreceipt, hstream, hsession, hturn, hendpoint⟩, ?_⟩
    simp only [ReceiptIdentity.body, List.append_assoc]
  · intro h
    obtain ⟨hstrings, hbytes⟩ := h
    rw [hbytes, ReceiptIdentity.body]
    simp only [List.append_assoc]
    exact ⟨_, _, rfl, _, _, ⟨hstrings.receiptId, rfl⟩, _, _, ⟨hstrings.streamId, rfl⟩, _, _,
      ⟨hstrings.sessionId, rfl⟩, _, _, ⟨hstrings.turnId, rfl⟩, _, _, rfl, _, _, rfl, _, _,
      ⟨rfl, rfl⟩, _, _, ⟨hstrings.endpointId, rfl⟩, _, _, rfl, rfl, rfl⟩

/-- The host's test that a key was released as a whole. -/
theorem released_iff {releaseSequence releasedQpc : UInt64} :
    ((releaseSequence == 0) = (releasedQpc == 0)) ↔ (releaseSequence = 0 ↔ releasedQpc = 0) := by
  rw [Bool.eq_iff_iff, beq_iff_eq, beq_iff_eq]

theorem complete_iff {complete : Bool} {releaseSequence : UInt64} :
    (complete && releaseSequence == 0) = false ↔ (complete = true → releaseSequence ≠ 0) := by
  rw [← Bool.not_eq_true, Bool.and_eq_true, beq_iff_eq, not_and]

theorem neither_iff {condition this that : Bool} :
    (condition && (this || that)) = false ↔
      (condition = true → this = false ∧ that = false) := by
  rw [← Bool.not_eq_true, Bool.and_eq_true, Bool.or_eq_true, not_and, not_or, Bool.not_eq_true,
    Bool.not_eq_true]

theorem run_readReceipt {source : BrokerPcmInputSource} {value : NativePcmReceipt} :
    (readReceipt source).run bytes = some (value, rest) ↔
      ∃ receipt : RehearsalReceipt, receipt.Strings Accepts ∧ bytes = receipt.body ∧ rest = [] ∧
        receipt.Plausible ∧ receipt.Matches source ∧ value = receipt.native source := by
  simp only [readReceipt, run_bind_eq_some, run_exact, run_readReceiptIdentity, run_readMetrics,
    run_readOutcome, run_readActivation, run_u64, run_done, run_check, run_pure_eq_some,
    Bool.and_eq_true, beq_iff_eq, decide_eq_true_eq, Bool.not_eq_true', bne_iff_ne,
    decide_eq_false_iff_not, UInt64.not_le, UInt64.not_lt, released_iff, complete_iff, neither_iff]
  constructor
  · intro h
    obtain ⟨-, _, rfl, identity, _, ⟨hstrings, rfl⟩, metrics, _, rfl, outcome, _, rfl, activation,
      _, rfl, release, _, rfl, released, _, rfl, -, _, ⟨rfl, rfl⟩, -, _, ⟨hidentity, rfl⟩, -, _,
      ⟨hmetrics, rfl⟩, -, _, ⟨hactivation, rfl⟩, -, _, ⟨houtcome, rfl⟩, rfl, rfl⟩ := h
    obtain ⟨⟨⟨⟨⟨⟨⟨hversion, hstream⟩, hsession⟩, hturn⟩, hgeneration⟩, hmode⟩, hendpoint⟩,
      hendpointGeneration⟩ := hidentity
    obtain ⟨⟨⟨⟨⟨⟨⟨⟨⟨hrate, hchannels⟩, hframes⟩, hmaxFrames⟩, hpeakLow⟩, hpeakHigh⟩, hrmsLow⟩,
      hrmsHigh⟩, hclipped⟩, hsilent⟩ := hmetrics
    obtain ⟨⟨⟨⟨⟨⟨hsource, hkey⟩, hpress⟩, hpressed⟩, hreleased⟩, hordered⟩, hcomplete⟩ :=
      hactivation
    refine ⟨⟨identity, metrics, outcome, activation, release, released⟩, hstrings, ?_, rfl,
      ⟨hversion, ⟨hpeakLow, hpeakHigh⟩, ⟨hrmsLow, hrmsHigh⟩, hclipped, hsilent, hreleased,
        hordered, hcomplete, houtcome⟩,
      ⟨hstream, hsession, hturn, hgeneration, hmode, hendpoint, hendpointGeneration, hrate,
        hchannels, hframes, hmaxFrames, hsource, hkey, hpress, hpressed⟩, rfl⟩
    simp only [RehearsalReceipt.body, List.append_assoc, List.append_nil]
  · intro h
    obtain ⟨receipt, hstrings, hbytes, rfl, hcredible, hmatches, rfl⟩ := h
    rw [hbytes, RehearsalReceipt.body]
    simp only [List.append_assoc]
    exact ⟨(), _, rfl, _, _, ⟨hstrings, rfl⟩, _, _, rfl, _, _, rfl, _, _, rfl, _, _, rfl, _, [],
      (List.append_nil _).symm, (), [], ⟨rfl, rfl⟩, (), [],
      ⟨⟨⟨⟨⟨⟨⟨⟨hcredible.schemaVersion, hmatches.streamId⟩, hmatches.sessionId⟩, hmatches.turnId⟩,
        hmatches.generation⟩, hmatches.mode⟩, hmatches.endpointId⟩, hmatches.endpointGeneration⟩,
        rfl⟩, (), [],
      ⟨⟨⟨⟨⟨⟨⟨⟨⟨⟨hmatches.sampleRate, hmatches.channels⟩, hmatches.capturedFrames⟩,
        hmatches.maxFrames⟩, hcredible.peak.1⟩, hcredible.peak.2⟩, hcredible.rms.1⟩,
        hcredible.rms.2⟩, hcredible.clipped⟩, hcredible.silent⟩, rfl⟩, (), [],
      ⟨⟨⟨⟨⟨⟨⟨hmatches.activationSource, hmatches.virtualKey⟩, hmatches.pressSequence⟩,
        hmatches.pressedQpc⟩, hcredible.released⟩, hcredible.ordered⟩, hcredible.complete⟩,
        rfl⟩, (), [], ⟨hcredible.outcome, rfl⟩, rfl, rfl⟩

/-- **A receipt of push-to-talk that the broker takes for valid is plausible to the host.** -/
theorem plausible_of_valid {receipt : RehearsalReceipt} (h : validReceipt receipt = true)
    (hsource : receipt.activationSource = .pushToTalk) (hchannels : receipt.channels = 1) :
    receipt.Plausible := by
  simp only [validReceipt, Bool.and_eq_true, beq_iff_eq, Bool.not_eq_true', neither_iff] at h
  obtain ⟨⟨⟨⟨⟨⟨⟨⟨⟨⟨hversion, -⟩, -⟩, -⟩, -⟩, -⟩, -⟩, -⟩, hmetrics⟩, hactivation⟩, houtcome⟩ := h
  simp only [ReceiptMetrics.valid, Bool.and_eq_true, decide_eq_true_eq] at hmetrics
  obtain ⟨⟨⟨⟨⟨⟨⟨-, hpeakLow⟩, hpeakHigh⟩, hrmsLow⟩, hrmsHigh⟩, hframes⟩, hsilent⟩, hclipped⟩ :=
    hmetrics
  simp only [RehearsalReceipt.activationValid, Activation.valid, hsource, Bool.and_eq_true,
    Bool.or_eq_true, beq_iff_eq, decide_eq_true_eq, Bool.not_eq_true', reduceCtorEq,
    or_false] at hactivation
  obtain ⟨⟨⟨⟨-, hpress⟩, hpressed⟩, hrelease⟩, hcomplete⟩ := hactivation
  have hpos : ∀ {a b : UInt64}, a < b → b ≠ 0 := by
    intro a b hlt hzero
    rw [hzero] at hlt
    exact UInt64.not_lt_zero hlt
  have hreleased : receipt.pttPressTransitionSequence < receipt.pttReleaseTransitionSequence →
      receipt.pttReleaseTransitionSequence ≠ 0 := hpos
  have hclippedNat : receipt.clippedSamples.toNat ≤
      saturate (receipt.capturedFrames.toNat * receipt.channels.toNat) := by
    have hle := UInt64.le_iff_toNat_le.1 hclipped
    have hlt := receipt.capturedFrames.toNat_lt
    rw [hchannels, UInt64.toNat_mul, show (1 : UInt16).toUInt64.toNat = 1 from rfl, Nat.mul_one,
      Nat.mod_eq_of_lt hlt] at hle
    rw [hchannels, show (1 : UInt16).toNat = 1 from rfl, Nat.mul_one, saturate]
    omega
  refine ⟨hversion, ⟨hpeakLow, hpeakHigh⟩, ⟨hrmsLow, hrmsHigh⟩, hclippedNat, hsilent, ?_, ?_, ?_,
    houtcome⟩
  · rcases hrelease with hnone | hlater
    · exact iff_of_true hnone.1 hnone.2
    · exact iff_of_false (hreleased hlater.1)
        (hpos (UInt64.lt_of_lt_of_le hpressed hlater.2))
  · intro hne
    rcases hrelease with hnone | hlater
    · exact absurd hnone.1 hne
    · exact hlater
  · intro htrue
    rcases hcomplete with hfalse | hlater
    · rw [htrue] at hfalse
      cases hfalse
    · exact hreleased hlater

/-- **Of the receipts that are encoded, the host accepts those of its source whose name is UTF-8.** -/
theorem decodeReceipt_encoded (h : lease.Accepted) {receipt : RehearsalReceipt}
    (hencode : Native.encodeReceipt receipt = some bytes) (nextSequence : UInt64)
    (lastSequence : Option UInt64) (capturedFrames : UInt64) (earlier : Option NativePcmReceipt)
    (value : NativePcmReceipt) :
    decodeReceipt bytes (lease.sourceAt nextSequence lastSequence capturedFrames earlier) =
        some value ↔
      (utf8 receipt.receiptId = true ∧
          receipt.Matches (lease.sourceAt nextSequence lastSequence capturedFrames earlier)) ∧
        value = receipt.native
          (lease.sourceAt nextSequence lastSequence capturedFrames earlier) := by
  obtain ⟨hvalid, hstrings, rfl⟩ := Native.encodeReceipt_eq_some.1 hencode
  obtain ⟨hstream, hsession, hturn, hendpoint, hchannels, -⟩ := h.facts
  rw [decodeReceipt, decode_eq_some]
  simp only [run_readReceipt]
  constructor
  · intro hread
    obtain ⟨-, receipt', hstrings', hbody, -, -, hmatches, rfl⟩ := hread
    obtain rfl := RehearsalReceipt.body_inj hstrings
      (ReceiptIdentity.Strings.imp accepts_noNul hstrings') hbody
    have hutf8 := hstrings'.receiptId.2
    rw [Accepts, Bool.and_eq_true] at hutf8
    exact ⟨⟨hutf8.1, hmatches⟩, rfl⟩
  · intro hread
    obtain ⟨⟨hutf8, hmatches⟩, hvalue⟩ := hread
    refine ⟨[], receipt, ⟨⟨hstrings.receiptId.1, ?_⟩, ?_, ?_, ?_, ?_⟩, rfl, rfl, ?_, hmatches,
      hvalue⟩
    · rw [Accepts, hutf8, hstrings.receiptId.2]
      rfl
    · rw [hmatches.streamId]
      exact hstream
    · rw [hmatches.sessionId]
      exact hsession
    · rw [hmatches.turnId]
      exact hturn
    · rw [hmatches.endpointId]
      exact hendpoint
    · apply plausible_of_valid hvalid hmatches.activationSource
      rw [hmatches.channels]
      exact hchannels

end Host

/-! ## Agreement -/

/-- **The two codecs agree**: what the broker encodes it decodes to the same value, and what it
decodes is the encoding of its value, but for a hello exactly if it has the schema of the format.
The host accepts an encoded body exactly if it matches the lease and the source, but for a receipt
exactly if its name is UTF-8. -/
theorem microphone_wire_agreement (body : Bytes) (receipt : RehearsalReceipt) (chunk : PcmChunk)
    (channels : UInt16) (ack : ConsumerAck) (hello : StreamHello) :
    (Native.encodeReceipt receipt = some body ↔ Native.decodeReceipt body = some receipt) ∧
    (Native.encodeChunk chunk channels = some body ↔
      Native.decodeChunk body channels = some chunk) ∧
    (Native.encodeAck ack = some body ↔ Native.decodeAck body = some ack) ∧
    (Native.decodeHello body = some hello → Native.encodeHello hello = some body) ∧
    (Native.encodeHello hello = some body →
      ((Native.decodeHello body = some hello ∧ ∀ lease : RehearsalLease, lease.Accepted →
          (Host.decodeHello body lease = some () ↔ hello.Matches lease)) ↔
        hello.schemaVersion = schemaVersion)) ∧
    (∀ lease : RehearsalLease, lease.Accepted → ∀ (nextSequence : UInt64)
        (lastSequence : Option UInt64) (capturedFrames : UInt64)
        (earlier : Option Host.NativePcmReceipt) (source : Host.BrokerPcmInputSource),
      source = lease.sourceAt nextSequence lastSequence capturedFrames earlier →
      (Native.encodeChunk chunk lease.channels = some body →
        ∀ value, Host.decodeChunk body source = some value ↔
          chunk.Matches source ∧ value = chunk.native source) ∧
      (Native.encodeReceipt receipt = some body →
        ((∀ value, Host.decodeReceipt body source = some value ↔
            receipt.Matches source ∧ value = receipt.native source) ↔
          (receipt.Matches source → utf8 receipt.receiptId = true)))) := by
  refine ⟨Native.decodeReceipt_eq_some.symm, Native.decodeChunk_eq_some.symm,
    Native.decodeAck_eq_some.symm, fun h => (Native.decodeHello_eq_some.1 h).2, ?_, ?_⟩
  · intro hencode
    constructor
    · intro h
      exact (Native.decodeHello_eq_some.1 h.1).1
    · intro hversion
      refine ⟨Native.decodeHello_eq_some.2 ⟨hversion, hencode⟩, ?_⟩
      intro lease hlease
      rw [Host.decodeHello_encoded hlease hencode]
      exact and_iff_right hversion
  · intro lease hlease nextSequence lastSequence capturedFrames earlier source hsource
    subst hsource
    refine ⟨?_, ?_⟩
    · intro hencode value
      exact Host.decodeChunk_encoded hlease hencode _ _ _ _ value
    · intro hencode
      simp only [Host.decodeReceipt_encoded hlease hencode]
      constructor
      · intro h hmatches
        exact ((h _).2 ⟨hmatches, rfl⟩).1.1
      · intro hutf8 value
        constructor
        · intro h
          exact ⟨h.1.2, h.2⟩
        · intro h
          exact ⟨⟨hutf8 h.1, h.1⟩, h.2⟩

/-! ## A lease and its messages -/

/-- A second of speech while the key `T` is held. -/
def exampleLease : RehearsalLease where
  activationSource := .pushToTalk
  pttVirtualKey := 84
  pttPressTransitionSequence := 5
  pttPressedQpc := 100
  schemaVersion := schemaVersion
  streamId := [109]
  producerEndpoint := Host.endpointPrefix ++ [49]
  oneTimeToken := ⟨List.replicate 32 1, rfl⟩
  sessionId := [115]
  turnId := [116]
  generation := 1
  durationMs := 1000
  sampleRate := 16000
  channels := 1
  maxFrames := 16000
  maxChunkBytes := maximumChunkBytes
  expiresQpc := 1
  qpcFrequency := 10000000
  inputSelectionMode := .systemDefault
  inputEndpointId := [101]
  inputEndpointGeneration := 1

theorem exampleLease_accepted : exampleLease.Accepted :=
  ⟨by decide +kernel, by decide +kernel, by decide, by decide, by decide, by decide⟩

def exampleChunk : PcmChunk := ⟨schemaVersion, 1, 7, 0, 2, [0, 1, 2, 3]⟩

/-- The receipt after the chunk, when the key was released. -/
def exampleReceipt : RehearsalReceipt where
  schemaVersion := schemaVersion
  receiptId := [114]
  streamId := exampleLease.streamId
  sessionId := exampleLease.sessionId
  turnId := exampleLease.turnId
  generation := exampleLease.generation
  inputSelectionMode := exampleLease.inputSelectionMode
  inputEndpointId := exampleLease.inputEndpointId
  inputEndpointGeneration := exampleLease.inputEndpointGeneration
  sampleRate := exampleLease.sampleRate
  channels := exampleLease.channels
  capturedFrames := 2
  capturedDurationMicros := 125
  peakMilliDbfs := -32000
  rmsMilliDbfs := -36000
  clippedSamples := 0
  silentFrames := 0
  sourceCaptureComplete := true
  silenceDetected := false
  clippingDetected := false
  cancelled := false
  deviceLost := false
  toActivation := exampleLease.toActivation
  pttReleaseTransitionSequence := 6
  pttReleasedQpc := 200

theorem microphone_wire_agreement_example :
    (Native.decodeHello (Host.hello exampleLease).body = some (Host.hello exampleLease) ∧
        Host.decodeHello (Host.hello exampleLease).body exampleLease = some ()) ∧
      Host.decodeChunk exampleChunk.body (exampleLease.sourceAt 1 none 0 none) =
        some (exampleChunk.native (exampleLease.sourceAt 1 none 0 none)) ∧
      Native.decodeReceipt exampleReceipt.body = some exampleReceipt ∧
      Host.decodeReceipt exampleReceipt.body (exampleLease.sourceAt 2 (some 1) 2 none) =
        some (exampleReceipt.native (exampleLease.sourceAt 2 (some 1) 2 none)) := by
  have hreceipt : Native.encodeReceipt exampleReceipt = some exampleReceipt.body := by
    decide +kernel
  obtain ⟨-, -, -, -, hhellos, hchunks⟩ := microphone_wire_agreement (Host.hello exampleLease).body
    exampleReceipt exampleChunk 1 ⟨schemaVersion, 1, .cancel⟩ (Host.hello exampleLease)
  have hhello := (hhellos (by decide +kernel)).2 rfl
  obtain ⟨-, -, -, -, -, hsources⟩ := microphone_wire_agreement exampleChunk.body
    exampleReceipt exampleChunk 1 ⟨schemaVersion, 1, .cancel⟩ (Host.hello exampleLease)
  obtain ⟨hreceipts, -, -, -, -, hfinal⟩ := microphone_wire_agreement exampleReceipt.body
    exampleReceipt exampleChunk 1 ⟨schemaVersion, 1, .cancel⟩ (Host.hello exampleLease)
  refine ⟨⟨hhello.1, (hhello.2 exampleLease exampleLease_accepted).2
    ⟨rfl, rfl, rfl, rfl, rfl, rfl, rfl, rfl, rfl, rfl⟩⟩, ?_, hreceipts.1 hreceipt, ?_⟩
  · apply ((hsources exampleLease exampleLease_accepted 1 none 0 none _ rfl).1
      (by decide +kernel) _).2
    exact ⟨⟨rfl, rfl, by decide⟩, rfl⟩
  · have hutf8 : utf8 exampleReceipt.receiptId = true := by decide
    apply (((hfinal exampleLease exampleLease_accepted 2 (some 1) 2 none _ rfl).2
      hreceipt).2 (fun _ => hutf8) _).2
    exact ⟨⟨rfl, rfl, rfl, rfl, rfl, rfl, rfl, rfl, rfl, rfl, by decide, rfl, rfl, rfl, rfl⟩, rfl⟩

/-- **A hello of another schema is encoded and not decoded.** -/
theorem hello_schema_unchecked :
    ¬ ∀ (hello : StreamHello) (body : Bytes),
      Native.encodeHello hello = some body → Native.decodeHello body = some hello := by
  intro h
  have hsome : (Native.encodeHello { Host.hello exampleLease with schemaVersion := 7 }).isSome =
      true := by
    decide +kernel
  obtain ⟨body, hencode⟩ := Option.isSome_iff_exists.1 hsome
  have hversion := (Native.decodeHello_eq_some.1 (h _ body hencode)).1
  exact absurd hversion (by decide)

end NpcRuntime.Microphone
