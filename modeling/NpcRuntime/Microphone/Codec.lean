import NpcRuntime.Microphone.Wire

/-!
# What the broker's microphone codec accepts

Each decoder of the broker undoes the encoder, and accepts nothing else, but for the schema of a
hello, which its encoder does not look at.
-/

namespace NpcRuntime.Microphone

open Reader
open Playback (AudioOutputSelectionMode maximumEndpointIdBytes)
open Playback.Native (Readable appendBoundedString_eq_some)

variable {bytes rest : Bytes}

theorem maximumIdentifierBytes_lt : maximumIdentifierBytes < 2 ^ 16 := by decide

theorem maximumEndpointIdBytes_lt : maximumEndpointIdBytes < 2 ^ 16 := by decide

/-! ## Groups of numbers -/

theorem run_readActivation {activation : Activation} :
    readActivation.run bytes = some (activation, rest) ↔ bytes = activation.body ++ rest := by
  simp only [readActivation, run_bind_eq_some, run_u8, run_u32, run_u64, run_ofOption,
    run_pure_eq_some, ActivationSource.ofWire_eq_some]
  constructor
  · intro h
    obtain ⟨sourceRaw, _, rfl, source, _, ⟨rfl, rfl⟩, key, _, rfl, press, _, rfl, pressed, _, rfl,
      rfl, rfl⟩ := h
    simp only [Activation.body, List.append_assoc]
  · intro h
    rw [h, Activation.body]
    simp only [List.append_assoc]
    exact ⟨_, _, rfl, _, _, ⟨rfl, rfl⟩, _, _, rfl, _, _, rfl, _, _, rfl, rfl, rfl⟩

theorem run_readMetrics {metrics : ReceiptMetrics} :
    readMetrics.run bytes = some (metrics, rest) ↔ bytes = metrics.body ++ rest := by
  simp only [readMetrics, run_bind_eq_some, run_u16, run_u32, run_u64, run_pure_eq_some]
  constructor
  · intro h
    obtain ⟨rate, _, rfl, channels, _, rfl, frames, _, rfl, duration, _, rfl, peak, _, rfl, rms, _,
      rfl, clipped, _, rfl, silent, _, rfl, rfl, rfl⟩ := h
    simp only [ReceiptMetrics.body, UInt32.toUInt32_toInt32, List.append_assoc]
  · intro h
    rw [h, ReceiptMetrics.body]
    simp only [List.append_assoc]
    refine ⟨_, _, rfl, _, _, rfl, _, _, rfl, _, _, rfl, _, _, rfl, _, _, rfl, _, _, rfl, _, _, rfl,
      ?_, rfl⟩
    simp only [Int32.toInt32_toUInt32]

theorem run_readOutcome {outcome : ReceiptOutcome} :
    readOutcome.run bytes = some (outcome, rest) ↔ bytes = outcome.body ++ rest := by
  simp only [readOutcome, run_bind_eq_some, run_flag, run_pure_eq_some]
  constructor
  · intro h
    obtain ⟨complete, _, rfl, silence, _, rfl, clipping, _, rfl, cancelled, _, rfl, lost, _, rfl,
      rfl, rfl⟩ := h
    simp only [ReceiptOutcome.body, List.append_assoc]
  · intro h
    rw [h, ReceiptOutcome.body]
    simp only [List.append_assoc]
    exact ⟨_, _, rfl, _, _, rfl, _, _, rfl, _, _, rfl, _, _, rfl, rfl, rfl⟩

/-! ## Receipts -/

/-- The strings of a receipt are ones that a reader takes. -/
structure ReceiptIdentity.Strings (accepts : Bytes → Prop) (identity : ReceiptIdentity) :
    Prop where
  receiptId : Fits maximumIdentifierBytes identity.receiptId ∧ accepts identity.receiptId
  streamId : Fits maximumIdentifierBytes identity.streamId ∧ accepts identity.streamId
  sessionId : Fits maximumIdentifierBytes identity.sessionId ∧ accepts identity.sessionId
  turnId : Fits maximumIdentifierBytes identity.turnId ∧ accepts identity.turnId
  endpointId : Fits maximumEndpointIdBytes identity.inputEndpointId ∧
    accepts identity.inputEndpointId

variable {accepts : Bytes → Prop} {identity : ReceiptIdentity}

theorem ReceiptIdentity.Strings.imp {accepts' : Bytes → Prop}
    (hto : ∀ {value}, accepts value → accepts' value) (h : identity.Strings accepts) :
    identity.Strings accepts' :=
  ⟨⟨h.receiptId.1, hto h.receiptId.2⟩, ⟨h.streamId.1, hto h.streamId.2⟩,
    ⟨h.sessionId.1, hto h.sessionId.2⟩, ⟨h.turnId.1, hto h.turnId.2⟩,
    ⟨h.endpointId.1, hto h.endpointId.2⟩⟩

def ReceiptIdentity.body (identity : ReceiptIdentity) : Bytes :=
  u32le identity.schemaVersion ++ stringBytes identity.receiptId ++
    stringBytes identity.streamId ++ stringBytes identity.sessionId ++
    stringBytes identity.turnId ++ u64le identity.generation ++
    u8le identity.inputSelectionMode.toWire ++ stringBytes identity.inputEndpointId ++
    u64le identity.inputEndpointGeneration

def RehearsalReceipt.body (receipt : RehearsalReceipt) : Bytes :=
  receiptMagic ++ receipt.toReceiptIdentity.body ++ receipt.toReceiptMetrics.body ++
    receipt.toReceiptOutcome.body ++ receipt.toActivation.body ++
    u64le receipt.pttReleaseTransitionSequence ++ u64le receipt.pttReleasedQpc

variable {receipt : RehearsalReceipt}

namespace Native

@[simp] theorem appendString_eq_some {value : Bytes} {maximum : Nat} (hmaximum : maximum < 2 ^ 16) :
    appendString value maximum = some bytes ↔
      (Fits maximum value ∧ Playback.noNul value = true) ∧ bytes = stringBytes value :=
  appendBoundedString_eq_some hmaximum

theorem encodeReceipt_eq_some :
    encodeReceipt receipt = some bytes ↔
      validReceipt receipt = true ∧ receipt.Strings (Playback.noNul · = true) ∧
        bytes = receipt.body := by
  simp only [encodeReceipt, Option.bind_eq_bind, Option.ite_none_right_eq_some,
    Option.bind_eq_some_iff, appendString_eq_some maximumIdentifierBytes_lt,
    appendString_eq_some maximumEndpointIdBytes_lt, Option.some.injEq]
  constructor
  · intro h
    obtain ⟨hvalid, _, ⟨hreceipt, rfl⟩, _, ⟨hstream, rfl⟩, _, ⟨hsession, rfl⟩, _, ⟨hturn, rfl⟩, _,
      ⟨hendpoint, rfl⟩, hbody⟩ := h
    refine ⟨hvalid, ⟨hreceipt, hstream, hsession, hturn, hendpoint⟩, ?_⟩
    rw [← hbody]
    simp only [RehearsalReceipt.body, ReceiptIdentity.body, List.append_assoc]
  · intro h
    obtain ⟨hvalid, hstrings, hbody⟩ := h
    refine ⟨hvalid, _, ⟨hstrings.receiptId, rfl⟩, _, ⟨hstrings.streamId, rfl⟩, _,
      ⟨hstrings.sessionId, rfl⟩, _, ⟨hstrings.turnId, rfl⟩, _, ⟨hstrings.endpointId, rfl⟩, ?_⟩
    rw [hbody]
    simp only [RehearsalReceipt.body, ReceiptIdentity.body, List.append_assoc]

theorem run_readReceiptIdentity :
    readReceiptIdentity.run bytes = some (identity, rest) ↔
      identity.Strings (Playback.noNul · = true) ∧ bytes = identity.body ++ rest := by
  simp only [readReceiptIdentity, readString, run_bind_eq_some, run_u8, run_u32, run_u64,
    run_string maximumIdentifierBytes_lt, run_string maximumEndpointIdBytes_lt, run_ofOption,
    run_pure_eq_some, AudioOutputSelectionMode.ofWire_eq_some]
  constructor
  · intro h
    obtain ⟨version, _, rfl, receiptId, _, ⟨hreceipt, rfl⟩, streamId, _, ⟨hstream, rfl⟩, sessionId,
      _, ⟨hsession, rfl⟩, turnId, _, ⟨hturn, rfl⟩, generation, _, rfl, modeRaw, _, rfl, mode, _,
      ⟨rfl, rfl⟩, endpointId, _, ⟨hendpoint, rfl⟩, endpointGeneration, _, rfl, rfl, rfl⟩ := h
    refine ⟨⟨hreceipt, hstream, hsession, hturn, hendpoint⟩, ?_⟩
    simp only [ReceiptIdentity.body, List.append_assoc]
  · intro h
    obtain ⟨hstrings, hbytes⟩ := h
    rw [hbytes, ReceiptIdentity.body]
    simp only [List.append_assoc]
    exact ⟨_, _, rfl, _, _, ⟨hstrings.receiptId, rfl⟩, _, _, ⟨hstrings.streamId, rfl⟩, _, _,
      ⟨hstrings.sessionId, rfl⟩, _, _, ⟨hstrings.turnId, rfl⟩, _, _, rfl, _, _, rfl, _, _,
      ⟨rfl, rfl⟩, _, _, ⟨hstrings.endpointId, rfl⟩, _, _, rfl, rfl, rfl⟩

theorem run_readReceiptFields :
    readReceiptFields.run bytes = some (receipt, rest) ↔
      receipt.Strings (Playback.noNul · = true) ∧ bytes = receipt.body ∧ rest = [] := by
  simp only [readReceiptFields, run_bind_eq_some, run_exact, run_readReceiptIdentity,
    run_readMetrics, run_readOutcome, run_readActivation, run_u64, run_done, run_pure_eq_some]
  constructor
  · intro h
    obtain ⟨-, _, rfl, identity, _, ⟨hstrings, rfl⟩, metrics, _, rfl, outcome, _, rfl, activation,
      _, rfl, release, _, rfl, released, _, rfl, -, _, ⟨rfl, rfl⟩, rfl, rfl⟩ := h
    refine ⟨hstrings, ?_, rfl⟩
    simp only [RehearsalReceipt.body, List.append_assoc, List.append_nil]
  · intro h
    obtain ⟨hstrings, hbytes, rfl⟩ := h
    rw [hbytes, RehearsalReceipt.body]
    simp only [List.append_assoc]
    exact ⟨(), _, rfl, _, _, ⟨hstrings, rfl⟩, _, _, rfl, _, _, rfl, _, _, rfl, _, _, rfl, _, [],
      (List.append_nil _).symm, (), [], ⟨rfl, rfl⟩, rfl, rfl⟩

end Native

theorem ReceiptIdentity.Strings.length_body (h : identity.Strings accepts) :
    21 ≤ identity.body.length ∧ identity.body.length ≤ 1600 := by
  have hreceipt := h.receiptId.1.2
  have hstream := h.streamId.1.2
  have hsession := h.sessionId.1.2
  have hturn := h.turnId.1.2
  have hendpoint := h.endpointId.1.2
  simp only [maximumIdentifierBytes, maximumEndpointIdBytes] at *
  simp only [ReceiptIdentity.body, List.length_append, length_u8le, length_u32le, length_u64le,
    length_stringBytes]
  omega

theorem RehearsalReceipt.length_body (h : receipt.Strings accepts) :
    64 ≤ receipt.body.length ∧ receipt.body.length ≤ 4096 := by
  have hidentity := h.length_body
  simp only [RehearsalReceipt.body, ReceiptMetrics.body, ReceiptOutcome.body, Activation.body,
    receiptMagic, List.length_append, List.length_cons, List.length_nil, length_u8le, length_u16le,
    length_u32le, length_u64le]
  omega

/-- A receipt is read as itself only. -/
theorem RehearsalReceipt.body_inj {receipt' : RehearsalReceipt}
    (h : receipt.Strings (Playback.noNul · = true))
    (h' : receipt'.Strings (Playback.noNul · = true)) (heq : receipt.body = receipt'.body) :
    receipt = receipt' := by
  have hread := Native.run_readReceiptFields.2 ⟨h, rfl, rfl⟩
  have hread' := Native.run_readReceiptFields.2 ⟨h', heq, rfl⟩
  exact congrArg Prod.fst (Option.some.inj (hread.symm.trans hread'))

/-- **The broker's decoder accepts the encodings of receipts, and nothing else.** -/
theorem Native.decodeReceipt_eq_some :
    decodeReceipt bytes = some receipt ↔ encodeReceipt receipt = some bytes := by
  have hrun : ∀ rest, readReceipt.run bytes = some (receipt, rest) ↔
      encodeReceipt receipt = some bytes ∧ rest = [] := by
    intro rest
    simp only [readReceipt, run_bind_eq_some, run_readReceiptFields, run_check, run_pure_eq_some,
      encodeReceipt_eq_some]
    constructor
    · intro h
      obtain ⟨_, _, ⟨hstrings, hbody, rfl⟩, -, _, ⟨hvalid, rfl⟩, rfl, rfl⟩ := h
      exact ⟨⟨hvalid, hstrings, hbody⟩, rfl⟩
    · intro h
      obtain ⟨⟨hvalid, hstrings, hbody⟩, rfl⟩ := h
      exact ⟨receipt, [], ⟨hstrings, hbody, rfl⟩, (), [], ⟨hvalid, rfl⟩, rfl, rfl⟩
  apply guarded_decode_eq_some hrun
  intro h
  obtain ⟨-, hstrings, hbody⟩ := encodeReceipt_eq_some.1 h
  have hlength := RehearsalReceipt.length_body hstrings
  rw [hbody]
  omega

/-! ## Hellos -/

structure StreamHello.Strings (accepts : Bytes → Prop) (hello : StreamHello) : Prop where
  streamId : Fits maximumIdentifierBytes hello.streamId ∧ accepts hello.streamId
  sessionId : Fits maximumIdentifierBytes hello.sessionId ∧ accepts hello.sessionId
  turnId : Fits maximumIdentifierBytes hello.turnId ∧ accepts hello.turnId

def StreamHello.body (hello : StreamHello) : Bytes :=
  helloMagic ++ u32le hello.schemaVersion ++ stringBytes hello.streamId ++
    stringBytes hello.sessionId ++ stringBytes hello.turnId ++ u64le hello.generation ++
    u32le hello.sampleRate ++ u16le hello.channels ++ u64le hello.maxFrames ++
    u32le hello.maxChunkBytes ++ u64le hello.qpcFrequency ++ hello.toActivation.body

variable {hello : StreamHello}

namespace Native

theorem encodeHello_eq_some :
    encodeHello hello = some bytes ↔
      validLease (StreamHello.shape hello) = true ∧ hello.Strings (Playback.noNul · = true) ∧
        bytes = hello.body := by
  simp only [encodeHello, Option.bind_eq_bind, Option.ite_none_right_eq_some,
    Option.bind_eq_some_iff, appendString_eq_some maximumIdentifierBytes_lt, Option.some.injEq]
  constructor
  · intro h
    obtain ⟨hvalid, _, ⟨hstream, rfl⟩, _, ⟨hsession, rfl⟩, _, ⟨hturn, rfl⟩, hbody⟩ := h
    exact ⟨hvalid, ⟨hstream, hsession, hturn⟩, hbody.symm⟩
  · intro h
    obtain ⟨hvalid, hstrings, hbody⟩ := h
    exact ⟨hvalid, _, ⟨hstrings.streamId, rfl⟩, _, ⟨hstrings.sessionId, rfl⟩, _,
      ⟨hstrings.turnId, rfl⟩, hbody.symm⟩

theorem run_readHelloFields :
    readHelloFields.run bytes = some (hello, rest) ↔
      hello.Strings (Playback.noNul · = true) ∧ bytes = hello.body ∧ rest = [] := by
  simp only [readHelloFields, readString, run_bind_eq_some, run_exact, run_u16, run_u32, run_u64,
    run_string maximumIdentifierBytes_lt, run_readActivation, run_done, run_pure_eq_some]
  constructor
  · intro h
    obtain ⟨-, _, rfl, version, _, rfl, streamId, _, ⟨hstream, rfl⟩, sessionId, _,
      ⟨hsession, rfl⟩, turnId, _, ⟨hturn, rfl⟩, generation, _, rfl, rate, _, rfl, channels, _, rfl,
      frames, _, rfl, chunk, _, rfl, frequency, _, rfl, activation, _, rfl, -, _, ⟨rfl, rfl⟩, rfl,
      rfl⟩ := h
    refine ⟨⟨hstream, hsession, hturn⟩, ?_, rfl⟩
    simp only [StreamHello.body, List.append_assoc, List.append_nil]
  · intro h
    obtain ⟨hstrings, hbytes, rfl⟩ := h
    rw [hbytes, StreamHello.body]
    simp only [List.append_assoc]
    exact ⟨(), _, rfl, _, _, rfl, _, _, ⟨hstrings.streamId, rfl⟩, _, _, ⟨hstrings.sessionId, rfl⟩,
      _, _, ⟨hstrings.turnId, rfl⟩, _, _, rfl, _, _, rfl, _, _, rfl, _, _, rfl, _, _, rfl, _, _,
      rfl, _, [], (List.append_nil _).symm, (), [], ⟨rfl, rfl⟩, rfl, rfl⟩

end Native

theorem StreamHello.length_body (h : hello.Strings accepts) :
    48 ≤ hello.body.length ∧ hello.body.length ≤ 1024 := by
  have hstream := h.streamId.1.2
  have hsession := h.sessionId.1.2
  have hturn := h.turnId.1.2
  simp only [maximumIdentifierBytes] at *
  simp only [StreamHello.body, Activation.body, helloMagic, List.length_append, List.length_cons,
    List.length_nil, length_u8le, length_u16le, length_u32le, length_u64le, length_stringBytes]
  omega

/-- A hello is read as itself only. -/
theorem StreamHello.body_inj {hello' : StreamHello} (h : hello.Strings (Playback.noNul · = true))
    (h' : hello'.Strings (Playback.noNul · = true)) (heq : hello.body = hello'.body) :
    hello = hello' := by
  have hread := Native.run_readHelloFields.2 ⟨h, rfl, rfl⟩
  have hread' := Native.run_readHelloFields.2 ⟨h', heq, rfl⟩
  exact congrArg Prod.fst (Option.some.inj (hread.symm.trans hread'))

/-- **The broker's decoder accepts the encodings of hellos of its schema, and nothing else.** -/
theorem Native.decodeHello_eq_some :
    decodeHello bytes = some hello ↔
      hello.schemaVersion = schemaVersion ∧ encodeHello hello = some bytes := by
  have hrun : ∀ rest, readHello.run bytes = some (hello, rest) ↔
      (hello.schemaVersion = schemaVersion ∧ encodeHello hello = some bytes) ∧ rest = [] := by
    intro rest
    simp only [readHello, run_bind_eq_some, run_readHelloFields, run_check, run_pure_eq_some,
      Bool.and_eq_true, beq_iff_eq, Option.isSome_iff_exists]
    constructor
    · intro h
      obtain ⟨_, _, ⟨hstrings, hbody, rfl⟩, -, _, ⟨⟨hversion, encoded, hencode⟩, rfl⟩, rfl, rfl⟩ := h
      have hvalid := (encodeHello_eq_some.1 hencode).1
      exact ⟨⟨hversion, encodeHello_eq_some.2 ⟨hvalid, hstrings, hbody⟩⟩, rfl⟩
    · intro h
      obtain ⟨⟨hversion, hencode⟩, rfl⟩ := h
      obtain ⟨-, hstrings, hbody⟩ := encodeHello_eq_some.1 hencode
      exact ⟨hello, [], ⟨hstrings, hbody, rfl⟩, (), [], ⟨⟨hversion, bytes, hencode⟩, rfl⟩, rfl,
        rfl⟩
  apply guarded_decode_eq_some hrun
  intro h
  obtain ⟨-, hstrings, hbody⟩ := encodeHello_eq_some.1 h.2
  have hlength := StreamHello.length_body hstrings
  rw [hbody]
  omega

/-! ## Chunks -/

/-- What the encoder asks of a chunk. -/
structure PcmChunk.Valid (chunk : PcmChunk) (channels : UInt16) : Prop where
  schemaVersion : chunk.schemaVersion = Microphone.schemaVersion
  sequence : chunk.sequence ≠ 0
  firstFrameQpc : chunk.firstFrameQpc ≠ 0
  frameCount : chunk.frameCount ≠ 0
  channels_ne : channels ≠ 0
  channels_le : channels ≤ Playback.maximumChannels
  pcm_ne : chunk.pcm.isEmpty = false
  pcm_le : chunk.pcm.length ≤ maximumChunkBytes.toNat
  pcm_length : chunk.pcm.length = chunk.frameCount.toNat * (channels.toNat * 2)

def PcmChunk.body (chunk : PcmChunk) : Bytes :=
  chunkMagic ++ u32le chunk.schemaVersion ++ u64le chunk.sequence ++ u64le chunk.firstFrameQpc ++
    u64le chunk.firstFrameIndex ++ u32le chunk.frameCount ++
    u32le (UInt32.ofNat chunk.pcm.length) ++ chunk.pcm

variable {chunk : PcmChunk}

namespace Native

theorem encodeChunk_eq_some {channels : UInt16} :
    encodeChunk chunk channels = some bytes ↔ chunk.Valid channels ∧ bytes = chunk.body := by
  simp only [encodeChunk, Option.ite_none_left_eq_some, not_or, not_not, Option.some.injEq]
  constructor
  · intro h
    obtain ⟨⟨hversion, hsequence, hqpc, hcount, hchannels, hfew, hpcm, hshort, hlength⟩, hbody⟩ := h
    exact ⟨⟨hversion, hsequence, hqpc, hcount, hchannels, UInt16.not_lt.1 hfew, by simpa using hpcm,
      not_lt.1 hshort, hlength⟩, hbody.symm⟩
  · intro h
    obtain ⟨hvalid, hbody⟩ := h
    exact ⟨⟨hvalid.schemaVersion, hvalid.sequence, hvalid.firstFrameQpc, hvalid.frameCount,
      hvalid.channels_ne, UInt16.not_lt.2 hvalid.channels_le, by simp [hvalid.pcm_ne],
      not_lt.2 hvalid.pcm_le, hvalid.pcm_length⟩, hbody.symm⟩

theorem run_readChunkFields :
    readChunkFields.run bytes = some (chunk, rest) ↔
      chunk.pcm.length < 2 ^ 32 ∧ bytes = chunk.body ∧ rest = [] := by
  simp only [readChunkFields, run_bind_eq_some, run_exact, run_u32, run_u64, run_remaining,
    run_check, run_pure_eq_some, beq_iff_eq]
  constructor
  · intro h
    obtain ⟨-, _, rfl, version, _, rfl, sequence, _, rfl, qpc, _, rfl, index, _, rfl, frames, _,
      rfl, size, _, rfl, pcm, _, ⟨rfl, rfl⟩, -, _, ⟨hsize, rfl⟩, rfl, rfl⟩ := h
    refine ⟨by rw [hsize]; exact size.toNat_lt, ?_, rfl⟩
    simp only [PcmChunk.body, hsize, UInt32.ofNat_toNat, List.append_assoc]
  · intro h
    obtain ⟨hlength, hbytes, rfl⟩ := h
    rw [hbytes, PcmChunk.body]
    simp only [List.append_assoc]
    exact ⟨(), _, rfl, _, _, rfl, _, _, rfl, _, _, rfl, _, _, rfl, _, _, rfl, _, _, rfl, _, _,
      ⟨rfl, rfl⟩, (), [], ⟨(UInt32.toNat_ofNat_of_lt' hlength).symm, rfl⟩, rfl, rfl⟩

/-- **The broker's decoder accepts the encodings of chunks, and nothing else.** -/
theorem decodeChunk_eq_some {channels : UInt16} :
    decodeChunk bytes channels = some chunk ↔ encodeChunk chunk channels = some bytes := by
  have hrun : ∀ rest, (readChunk channels).run bytes = some (chunk, rest) ↔
      encodeChunk chunk channels = some bytes ∧ rest = [] := by
    intro rest
    simp only [readChunk, run_bind_eq_some, run_readChunkFields, run_check, run_pure_eq_some,
      Option.isSome_iff_exists]
    constructor
    · intro h
      obtain ⟨_, _, ⟨-, hbody, rfl⟩, -, _, ⟨⟨encoded, hencode⟩, rfl⟩, rfl, rfl⟩ := h
      exact ⟨encodeChunk_eq_some.2 ⟨(encodeChunk_eq_some.1 hencode).1, hbody⟩, rfl⟩
    · intro h
      obtain ⟨hencode, rfl⟩ := h
      obtain ⟨hvalid, hbody⟩ := encodeChunk_eq_some.1 hencode
      exact ⟨chunk, [], ⟨lt_of_le_of_lt hvalid.pcm_le (by decide), hbody, rfl⟩, (), [],
        ⟨⟨bytes, hencode⟩, rfl⟩, rfl, rfl⟩
  apply guarded_decode_eq_some hrun
  intro h
  obtain ⟨hvalid, hbody⟩ := encodeChunk_eq_some.1 h
  have hlength : bytes.length = 40 + chunk.pcm.length := by
    rw [hbody, PcmChunk.body]
    simp only [chunkMagic, List.length_append, List.length_cons, List.length_nil, length_u32le,
      length_u64le]
  have hle := hvalid.pcm_le
  omega

/-! ## Acknowledgements -/

/-- **The broker's decoder accepts the encodings of acknowledgements, and nothing else.** -/
theorem decodeAck_eq_some {ack : ConsumerAck} :
    decodeAck bytes = some ack ↔ encodeAck ack = some bytes := by
  have hrun : ∀ rest, readAck.run bytes = some (ack, rest) ↔
      (ack.schemaVersion = schemaVersion ∧ ack.sequence ≠ 0) ∧
        bytes = ackMagic ++ u32le ack.schemaVersion ++ u64le ack.sequence ++
          u8le ack.action.toWire ++ rest := by
    intro rest
    simp only [readAck, run_bind_eq_some, run_exact, run_u8, run_u32, run_u64, run_check,
      run_ofOption, run_pure_eq_some, Bool.and_eq_true, beq_iff_eq, bne_iff_ne,
      AckAction.ofWire_eq_some]
    constructor
    · intro h
      obtain ⟨-, _, rfl, version, _, rfl, sequence, _, rfl, raw, _, rfl, -, _, ⟨hvalid, rfl⟩,
        action, _, ⟨rfl, rfl⟩, rfl, rfl⟩ := h
      refine ⟨hvalid, ?_⟩
      simp only [List.append_assoc]
    · intro h
      obtain ⟨hvalid, hbytes⟩ := h
      rw [hbytes]
      simp only [List.append_assoc]
      exact ⟨(), _, rfl, _, _, rfl, _, _, rfl, _, _, rfl, (), _, ⟨hvalid, rfl⟩, _, _, ⟨rfl, rfl⟩,
        rfl, rfl⟩
  simp only [decodeAck, encodeAck, Option.ite_none_left_eq_some, Option.some.injEq, not_or, not_not,
    decode_eq_some, hrun]
  constructor
  · intro h
    obtain ⟨hlength, rest, hvalid, hbytes⟩ := h
    refine ⟨hvalid, ?_⟩
    have hrest : rest = [] := by
      rw [hbytes] at hlength
      simp only [ackMagic, List.length_append, List.length_cons, List.length_nil, length_u8le,
        length_u32le, length_u64le] at hlength
      exact List.length_eq_zero_iff.1 (by omega)
    rw [hbytes, hrest, List.append_nil]
  · intro h
    obtain ⟨hvalid, hbytes⟩ := h
    refine ⟨?_, [], hvalid, by rw [List.append_nil, hbytes]⟩
    rw [← hbytes]
    simp only [ackMagic, List.length_append, List.length_cons, List.length_nil, length_u8le,
      length_u32le, length_u64le]

end Native

/-- A chunk is read as itself only. -/
theorem PcmChunk.body_inj {chunk' : PcmChunk} (h : chunk.pcm.length < 2 ^ 32)
    (h' : chunk'.pcm.length < 2 ^ 32) (heq : chunk.body = chunk'.body) : chunk = chunk' := by
  have hread := Native.run_readChunkFields.2 ⟨h, rfl, rfl⟩
  have hread' := Native.run_readChunkFields.2 ⟨h', heq, rfl⟩
  exact congrArg Prod.fst (Option.some.inj (hread.symm.trans hread'))

end NpcRuntime.Microphone
