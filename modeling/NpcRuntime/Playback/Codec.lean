import NpcRuntime.Playback.Wire

/-!
# What the playback codecs accept

Each decoder accepts a body exactly if it is the encoding of the value it returns, and the value is
one that the decoder allows. The rules of the readers give both directions at once.
-/

namespace NpcRuntime.Playback

open Reader

/-! ## Visual speech cues -/

@[simp] theorem length_payload (cue : VisualSpeechCue) :
    cue.payload.length = visualSpeechCuePayloadBytes := by
  simp [VisualSpeechCue.payload, visualSpeechCuePayloadBytes]

variable {bytes rest : Bytes} {cue : VisualSpeechCue}

theorem run_readVisualSpeechCue {maximumFrames : Nat} :
    (readVisualSpeechCue maximumFrames).run bytes = some (cue, rest) ↔
      validVisualSpeechCue cue maximumFrames = true ∧ bytes = cue.payload ∧ rest = [] := by
  simp only [readVisualSpeechCue, run_bind_eq_some, run_u32, run_u64, run_u8, run_u16,
    run_check, run_done, run_pure_eq_some, beq_iff_eq]
  constructor
  · intro h
    obtain ⟨version, _, rfl, -, _, ⟨rfl, rfl⟩, startSample, _, rfl, durationSamples, _, rfl,
      viseme, _, rfl, reserved, _, rfl, strength, _, rfl, -, _, ⟨rfl, rfl⟩, -, _, ⟨rfl, rfl⟩,
      -, _, ⟨hvalid, rfl⟩, rfl, rfl⟩ := h
    refine ⟨hvalid, ?_, rfl⟩
    simp only [VisualSpeechCue.payload, List.append_assoc, List.append_nil]
  · intro h
    obtain ⟨hvalid, rfl, rfl⟩ := h
    simp only [VisualSpeechCue.payload, List.append_assoc]
    exact ⟨_, _, rfl, (), _, ⟨rfl, rfl⟩, _, _, rfl, _, _, rfl, _, _, rfl, _, _, rfl, _, [],
      (List.append_nil _).symm, (), [], ⟨rfl, rfl⟩, (), [], ⟨rfl, rfl⟩, (), [], ⟨hvalid, rfl⟩,
      rfl, rfl⟩

/-- **The decoder accepts the payloads of valid cues.** -/
theorem decodeVisualSpeechCuePayload_eq_some {payload : Bytes} {maximumFrames : Nat} :
    decodeVisualSpeechCuePayload payload maximumFrames = some cue ↔
      validVisualSpeechCue cue maximumFrames = true ∧ payload = cue.payload := by
  have hrun : ∀ rest, (readVisualSpeechCue maximumFrames).run payload = some (cue, rest) ↔
      (validVisualSpeechCue cue maximumFrames = true ∧ payload = cue.payload) ∧ rest = [] := by
    intro rest
    rw [run_readVisualSpeechCue, and_assoc]
  apply guarded_decode_eq_some hrun
  intro h
  rw [h.2]
  exact not_not.2 (length_payload cue)

theorem validVisualSpeechCue_mono {m n : Nat} (hle : m ≤ n)
    (h : validVisualSpeechCue cue m = true) : validVisualSpeechCue cue n = true := by
  simp only [validVisualSpeechCue, Bool.and_eq_true, decide_eq_true_eq] at h ⊢
  exact ⟨⟨h.1.1, by omega⟩, by omega⟩

/-- Valid cues with one payload are one cue. -/
theorem payload_inj {cue' : VisualSpeechCue} {m n : Nat} (h : validVisualSpeechCue cue m = true)
    (h' : validVisualSpeechCue cue' n = true) (heq : cue.payload = cue'.payload) : cue = cue' := by
  have hread : decodeVisualSpeechCuePayload cue.payload (max m n) = some cue :=
    decodeVisualSpeechCuePayload_eq_some.2
      ⟨validVisualSpeechCue_mono (Nat.le_max_left m n) h, rfl⟩
  have hread' : decodeVisualSpeechCuePayload cue.payload (max m n) = some cue' :=
    decodeVisualSpeechCuePayload_eq_some.2
      ⟨validVisualSpeechCue_mono (Nat.le_max_right m n) h', heq⟩
  exact Option.some.inj (hread.symm.trans hread')

/-! ## Frames -/

theorem toNat_length {body : Bytes} (h : body.length ≤ maximumWireFrameBytes) :
    (UInt32.ofNat body.length).toNat = body.length :=
  UInt32.toNat_ofNat_of_lt' (lt_of_le_of_lt h (by decide))

theorem ne_zero_length {body : Bytes} (hpos : 0 < body.length)
    (h : body.length ≤ maximumWireFrameBytes) : UInt32.ofNat body.length ≠ 0 := by
  intro hzero
  have hlength := toNat_length h
  rw [hzero] at hlength
  have hnone : body.length = 0 := hlength.symm
  omega

/-! ## Envelopes -/

variable {value : Bytes}

namespace Native

/-- A string that the session's reader takes. -/
def Readable (maximum : Nat) (value : Bytes) : Prop :=
  Fits maximum value ∧ noNul value = true

/-- The strings that can be read are those that can be appended. -/
theorem appendBoundedString_eq_some {maximum : Nat} (hmaximum : maximum < 2 ^ 16) :
    appendBoundedString value maximum = some bytes ↔
      Readable maximum value ∧ bytes = stringBytes value := by
  have hreadable : Readable maximum value ↔
      ¬(value.isEmpty || value.length > maximum || !noNul value || value.length > 65535) = true := by
    simp only [Readable, Fits, Bool.or_eq_true, decide_eq_true_eq, Bool.not_eq_true',
      List.isEmpty_iff_length_eq_zero, ← Bool.not_eq_true, not_or, not_not]
    constructor
    · intro h
      exact ⟨⟨⟨by omega, by omega⟩, h.2⟩, by omega⟩
    · intro h
      exact ⟨⟨by omega, by omega⟩, h.1.2⟩
  unfold appendBoundedString
  rw [Option.ite_none_left_eq_some, ← hreadable, Option.some.injEq, eq_comm]

@[simp] theorem run_readString :
    readString.run bytes = some (value, rest) ↔
      Readable maximumIdentifierBytes value ∧ bytes = stringBytes value ++ rest :=
  run_string (by decide)

@[simp] theorem run_readToken {token : AuthenticationToken} :
    readToken.run bytes = some (token, rest) ↔ bytes = token.bytes ++ rest := by
  simp only [readToken, run_bind_eq_some, run_take, run_ofOption]
  constructor
  · intro h
    obtain ⟨taken, _, ⟨hlength, rfl⟩, htoken, rfl⟩ := h
    rw [dif_pos hlength] at htoken
    obtain rfl := Option.some.inj htoken
    rfl
  · intro h
    exact ⟨token.bytes, rest, ⟨token.length_eq, h⟩, dif_pos token.length_eq, rfl⟩

end Native

/-- What the session's decoder asks of an envelope. -/
structure ProducerEnvelope.Valid (envelope : ProducerEnvelope) : Prop where
  schemaVersion : envelope.schemaVersion = Playback.schemaVersion
  sequence : envelope.sequence ≠ 0
  deadline : envelope.deadlineQpc ≠ 0
  generation : envelope.generation ≠ 0
  streamId : Native.Readable maximumIdentifierBytes envelope.streamId
  sessionId : Native.Readable maximumIdentifierBytes envelope.sessionId
  turnId : Native.Readable maximumIdentifierBytes envelope.turnId
  payload_length : envelope.payload.length ≤ maximumChunkBytes
  payload : Native.payloadValid envelope.command envelope.payload = true

def ProducerEnvelope.body (envelope : ProducerEnvelope) : Bytes :=
  envelopeMagic ++ u32le envelope.schemaVersion ++ u16le envelope.command.toWire ++ u16le 0 ++
    u64le envelope.sequence ++ u64le envelope.deadlineQpc ++ u64le envelope.generation ++
    stringBytes envelope.streamId ++ stringBytes envelope.sessionId ++
    stringBytes envelope.turnId ++ envelope.token.bytes ++
    u32le (UInt32.ofNat envelope.payload.length) ++ envelope.payload

namespace Native

variable {envelope : ProducerEnvelope}

theorem run_readEnvelope :
    readEnvelope.run bytes = some (envelope, rest) ↔
      envelope.Valid ∧ bytes = envelope.body ∧ rest = [] := by
  simp only [readEnvelope, run_bind_eq_some, run_exact, run_u32, run_u16, run_u64, run_readString,
    run_readToken, run_ofOption, run_check, run_remaining, run_pure_eq_some, Bool.and_eq_true,
    beq_iff_eq, bne_iff_ne, decide_eq_true_eq, ProducerCommand.ofWire_eq_some]
  constructor
  · intro h
    obtain ⟨-, _, rfl, version, _, rfl, commandRaw, _, rfl, reserved, _, rfl, sequence, _, rfl,
      deadline, _, rfl, generation, _, rfl, stream, _, ⟨hstream, rfl⟩, session, _,
      ⟨hsession, rfl⟩, turn, _, ⟨hturn, rfl⟩, -, _,
      ⟨⟨⟨⟨⟨hversion, rfl⟩, hsequence⟩, hdeadline⟩, hgeneration⟩, rfl⟩, command, _, ⟨rfl, rfl⟩,
      token, _, rfl, payloadSize, _, rfl, payload, _, ⟨rfl, rfl⟩, -, _,
      ⟨⟨⟨hsize, hlength⟩, hpayload⟩, rfl⟩, rfl, rfl⟩ := h
    refine ⟨⟨hversion, hsequence, hdeadline, hgeneration, hstream, hsession, hturn,
      by rw [hlength]; exact hsize, hpayload⟩, ?_, rfl⟩
    simp only [ProducerEnvelope.body, hlength, UInt32.ofNat_toNat, List.append_assoc]
  · intro h
    obtain ⟨hvalid, rfl, rfl⟩ := h
    have hlength : (UInt32.ofNat envelope.payload.length).toNat = envelope.payload.length :=
      UInt32.toNat_ofNat_of_lt' (lt_of_le_of_lt hvalid.payload_length (by decide))
    simp only [ProducerEnvelope.body, List.append_assoc]
    refine ⟨(), _, rfl, _, _, rfl, _, _, rfl, _, _, rfl, _, _, rfl, _, _, rfl, _, _, rfl, _, _,
      ⟨hvalid.streamId, rfl⟩, _, _, ⟨hvalid.sessionId, rfl⟩, _, _, ⟨hvalid.turnId, rfl⟩, (), _,
      ⟨⟨⟨⟨⟨hvalid.schemaVersion, rfl⟩, hvalid.sequence⟩, hvalid.deadline⟩, hvalid.generation⟩,
        rfl⟩, _, _, ⟨rfl, rfl⟩, _, _, rfl, _, _, rfl, _, _, ⟨rfl, rfl⟩, (), _,
      ⟨⟨⟨?_, hlength.symm⟩, hvalid.payload⟩, rfl⟩, rfl, rfl⟩
    rw [hlength]
    exact hvalid.payload_length

theorem body_length (h : envelope.Valid) :
    0 < envelope.body.length ∧ 4 ≤ envelope.body.length ∧
      envelope.body.length ≤ maximumWireFrameBytes := by
  have hstream := h.streamId.1.2
  have hsession := h.sessionId.1.2
  have hturn := h.turnId.1.2
  have hpayload := h.payload_length
  have htoken := envelope.token.length_eq
  rw [maximumChunkBytes_eq] at hpayload
  simp only [maximumIdentifierBytes] at hstream hsession hturn
  simp only [ProducerEnvelope.body, maximumWireFrameBytes_eq, envelopeMagic, List.length_append,
    List.length_cons, List.length_nil, length_u32le, length_u16le, length_u64le,
    length_stringBytes, htoken]
  omega

/-- **The session's decoder accepts the encodings of valid envelopes.** -/
theorem decodeEnvelope_eq_some {body : Bytes} :
    decodeEnvelope body = some envelope ↔ envelope.Valid ∧ body = envelope.body := by
  have hrun : ∀ rest, readEnvelope.run body = some (envelope, rest) ↔
      (envelope.Valid ∧ body = envelope.body) ∧ rest = [] := by
    intro rest
    rw [run_readEnvelope, and_assoc]
  apply guarded_decode_eq_some hrun
  intro h
  have hlength := body_length h.1
  rw [h.2]
  omega

/-- The endpoint reads a frame whose body is not empty and not too long. -/
theorem run_readFrame {body : Bytes} :
    readFrame.run bytes = some (body, rest) ↔
      (0 < body.length ∧ body.length ≤ maximumWireFrameBytes) ∧ bytes = framed body ++ rest := by
  simp only [readFrame, run_bind_eq_some, run_u32, run_ofOption, run_take, decodeFrameSize]
  constructor
  · intro h
    obtain ⟨size, _, rfl, size', _, ⟨hsize, rfl⟩, hlength, rfl⟩ := h
    split at hsize
    · cases hsize
    · next hallowed =>
      obtain rfl := Option.some.inj hsize
      obtain ⟨hzero, hlong⟩ := not_or.1 hallowed
      have hpos : size.toNat ≠ 0 := fun h => hzero (UInt32.toNat_inj.1 h)
      refine ⟨⟨by omega, by omega⟩, ?_⟩
      rw [framed, hlength, UInt32.ofNat_toNat, List.append_assoc]
  · intro h
    obtain ⟨⟨hpos, hle⟩, rfl⟩ := h
    have hlength := toNat_length hle
    refine ⟨UInt32.ofNat body.length, body ++ rest, by rw [framed, List.append_assoc],
      UInt32.ofNat body.length, _, ⟨if_neg ?_, rfl⟩, hlength.symm, rfl⟩
    rw [hlength, not_or]
    exact ⟨ne_zero_length hpos hle, not_lt.2 hle⟩

end Native

/-! ## Receipts and responses -/

def PlaybackReceipt.body (receipt : PlaybackReceipt) : Bytes :=
  u32le receipt.schemaVersion ++ stringBytes receipt.receiptId ++ stringBytes receipt.streamId ++
    stringBytes receipt.sessionId ++ stringBytes receipt.turnId ++ u64le receipt.generation ++
    u64le receipt.sourceFrames ++ u64le receipt.deviceFrames ++
    u64le receipt.sourceDurationMicros ++ u8le (flagByte receipt.sourceSubmissionComplete) ++
    u8le (flagByte receipt.endpointDrainComplete) ++ u8le (flagByte receipt.cancelled) ++
    u8le receipt.outputSelectionMode.toWire ++ stringBytes receipt.outputEndpointId ++
    u64le receipt.outputEndpointGeneration

/-- Whether there is a receipt, as a number. -/
def presence (present : Bool) : UInt16 := if present then 1 else 0

theorem eq_presence {raw : UInt16} {present : Bool} :
    raw ≤ 1 ∧ present = (raw != 0) ↔ raw = presence present := by
  constructor
  · intro h
    obtain ⟨hle, rfl⟩ := h
    have hnat : raw.toNat ≤ 1 := UInt16.le_iff_toNat_le.1 hle
    have hcases : raw.toNat = 0 ∨ raw.toNat = 1 := by omega
    rcases hcases with hzero | hone
    · obtain rfl : raw = 0 := UInt16.toNat_inj.1 hzero
      rfl
    · obtain rfl : raw = 1 := UInt16.toNat_inj.1 hone
      rfl
  · intro h
    subst h
    cases present <;> decide

theorem beq_one_of_le {raw : UInt16} (h : raw ≤ 1) : (raw == 1) = (raw != 0) := by
  rw [(eq_presence.1 ⟨h, rfl⟩ : raw = presence (raw != 0))]
  cases raw != 0 <;> rfl

def ProducerResponse.body (response : ProducerResponse) : Bytes :=
  responseMagic ++ u32le response.schemaVersion ++ u16le response.status.toWire ++
    u16le (presence response.receipt.isSome) ++ u64le response.responseToSequence ++
    u64le response.acceptedSourceFrames ++ (response.receipt.map PlaybackReceipt.body).getD []

/-- What a decoder asks of a receipt: of its strings `identifier` and `endpointId`. -/
structure WireReceipt.Readable (identifier endpointId : Bytes → Prop) (receipt : WireReceipt) :
    Prop where
  receiptId : identifier receipt.receiptId
  streamId : identifier receipt.streamId
  sessionId : identifier receipt.sessionId
  turnId : identifier receipt.turnId
  endpointId : endpointId receipt.outputEndpointId
  endpointGeneration : receipt.outputEndpointGeneration ≠ 0

namespace Native

/-- What the session's decoder asks of a receipt. -/
structure ValidReceipt (receipt : PlaybackReceipt) : Prop where
  schemaVersion : receipt.schemaVersion = Playback.schemaVersion
  readable : receipt.toWireReceipt.Readable (Readable maximumIdentifierBytes)
    (Readable maximumEndpointIdBytes)

theorem run_readReceipt {receipt : PlaybackReceipt} :
    readReceipt.run bytes = some (receipt, rest) ↔
      ValidReceipt receipt ∧ bytes = receipt.body ++ rest := by
  simp only [readReceipt, run_bind_eq_some, run_u32, run_u64, run_u8, run_flag, run_readString,
    run_string (show maximumEndpointIdBytes < 2 ^ 16 by decide), run_ofOption, run_check,
    run_pure_eq_some, beq_iff_eq, bne_iff_ne, AudioOutputSelectionMode.ofWire_eq_some]
  constructor
  · intro h
    obtain ⟨version, _, rfl, receiptId, _, ⟨hreceipt, rfl⟩, streamId, _, ⟨hstream, rfl⟩,
      sessionId, _, ⟨hsession, rfl⟩, turnId, _, ⟨hturn, rfl⟩, generation, _, rfl, sourceFrames, _,
      rfl, deviceFrames, _, rfl, duration, _, rfl, -, _, ⟨hversion, rfl⟩, sourceComplete, _, rfl,
      drainComplete, _, rfl, cancelled, _, rfl, modeRaw, _, rfl, mode, _, ⟨rfl, rfl⟩, endpointId,
      _, ⟨hendpoint, rfl⟩, endpointGeneration, _, rfl, -, _, ⟨hgeneration, rfl⟩, rfl, rfl⟩ := h
    refine ⟨⟨hversion, hreceipt, hstream, hsession, hturn, hendpoint, hgeneration⟩, ?_⟩
    simp only [PlaybackReceipt.body, List.append_assoc]
  · intro h
    obtain ⟨⟨hversion, hreadable⟩, rfl⟩ := h
    simp only [PlaybackReceipt.body, List.append_assoc]
    exact ⟨_, _, rfl, _, _, ⟨hreadable.receiptId, rfl⟩, _, _, ⟨hreadable.streamId, rfl⟩, _, _,
      ⟨hreadable.sessionId, rfl⟩, _, _, ⟨hreadable.turnId, rfl⟩, _, _, rfl, _, _, rfl, _, _, rfl,
      _, _, rfl, (), _, ⟨hversion, rfl⟩, _, _, rfl, _, _, rfl, _, _, rfl, _, _, rfl, _, _,
      ⟨rfl, rfl⟩, _, _, ⟨hreadable.endpointId, rfl⟩, _, _, rfl, (), _,
      ⟨hreadable.endpointGeneration, rfl⟩, rfl, rfl⟩

/-- What the session's decoder asks of a response. -/
structure ValidResponse (response : ProducerResponse) : Prop where
  schemaVersion : response.schemaVersion = Playback.schemaVersion
  sequence : response.responseToSequence ≠ 0
  receipt : ∀ receipt, response.receipt = some receipt → ValidReceipt receipt

variable {response : ProducerResponse}

theorem run_readResponse :
    readResponse.run bytes = some (response, rest) ↔
      ValidResponse response ∧ bytes = response.body ∧ rest = [] := by
  simp only [readResponse, run_bind_eq_some, run_exact, run_u32, run_u16, run_u64, run_check,
    run_ofOption, run_optional, run_readReceipt, run_done, run_pure_eq_some, Bool.and_eq_true,
    beq_iff_eq, bne_iff_ne, decide_eq_true_eq, ProducerStatus.ofWire_eq_some]
  constructor
  · intro h
    obtain ⟨-, _, rfl, version, _, rfl, statusRaw, _, rfl, hasReceipt, _, rfl, sequence, _, rfl,
      accepted, _, rfl, -, _, ⟨⟨⟨hversion, hflag⟩, hsequence⟩, rfl⟩, status, _, ⟨rfl, rfl⟩,
      receipt, _, ⟨hpresent, hsome, hnone⟩, -, _, ⟨rfl, rfl⟩, rfl, rfl⟩ := h
    refine ⟨⟨hversion, hsequence, fun receipt' hreceipt => (hsome receipt' hreceipt).1⟩, ?_, rfl⟩
    simp only [ProducerResponse.body, ← eq_presence.1 ⟨hflag, hpresent⟩, List.append_assoc]
    cases receipt with
    | none => rw [hnone rfl, Option.map_none, Option.getD_none]
    | some receipt =>
      rw [(hsome receipt rfl).2, Option.map_some, Option.getD_some, List.append_nil]
  · intro h
    obtain ⟨hvalid, rfl, rfl⟩ := h
    obtain ⟨hflag, hpresent⟩ := eq_presence.2 (rfl : _ = presence response.receipt.isSome)
    simp only [ProducerResponse.body, List.append_assoc]
    refine ⟨(), _, rfl, _, _, rfl, _, _, rfl, _, _, rfl, _, _, rfl, _, _, rfl, (), _,
      ⟨⟨⟨hvalid.schemaVersion, hflag⟩, hvalid.sequence⟩, rfl⟩, _, _, ⟨rfl, rfl⟩,
      response.receipt, [], ⟨hpresent, ?_, ?_⟩, (), [], ⟨rfl, rfl⟩, rfl, rfl⟩
    · intro receipt hreceipt
      refine ⟨hvalid.receipt receipt hreceipt, ?_⟩
      rw [hreceipt, Option.map_some, Option.getD_some, List.append_nil]
    · intro hnone
      rw [hnone, Option.map_none, Option.getD_none]

theorem response_body_length (h : ValidResponse response) :
    28 ≤ response.body.length ∧ response.body.length ≤ maximumWireFrameBytes := by
  simp only [ProducerResponse.body, maximumWireFrameBytes_eq, responseMagic, List.length_append,
    List.length_cons, List.length_nil, length_u32le, length_u16le, length_u64le]
  cases hreceipt : response.receipt with
  | none =>
    rw [Option.map_none, Option.getD_none, List.length_nil]
    omega
  | some receipt =>
    have hreadable := (h.receipt receipt hreceipt).readable
    have hreceiptId := hreadable.receiptId.1.2
    have hstream := hreadable.streamId.1.2
    have hsession := hreadable.sessionId.1.2
    have hturn := hreadable.turnId.1.2
    have hendpoint := hreadable.endpointId.1.2
    simp only [maximumIdentifierBytes, maximumEndpointIdBytes] at *
    simp only [Option.map_some, Option.getD_some, PlaybackReceipt.body, List.length_append,
      length_u32le, length_u64le, length_u8le, length_stringBytes]
    omega

/-- **The session's decoder accepts the encodings of valid responses.** -/
theorem decodeResponse_eq_some {body : Bytes} :
    decodeResponse body = some response ↔ ValidResponse response ∧ body = response.body := by
  have hrun : ∀ rest, readResponse.run body = some (response, rest) ↔
      (ValidResponse response ∧ body = response.body) ∧ rest = [] := by
    intro rest
    rw [run_readResponse, and_assoc]
  apply guarded_decode_eq_some hrun
  intro h
  have hlength := response_body_length h.1
  rw [h.2]
  omega

end Native

namespace Host

@[simp] theorem run_readString :
    readString.run bytes = some (value, rest) ↔
      validIdentifier value = true ∧ bytes = stringBytes value ++ rest := by
  rw [readString, run_string (by decide), Bool.and_eq_true]
  constructor
  · intro h
    exact ⟨h.1.2.2, h.2⟩
  · intro h
    obtain ⟨hfits, -, hutf8⟩ := validIdentifier_fits h.1
    exact ⟨⟨hfits, hutf8, h.1⟩, h.2⟩

/-- An endpoint that the producer's reader takes. -/
def EndpointId (value : Bytes) : Prop :=
  Fits maximumEndpointIdBytes value ∧ utf8 value = true ∧ noNul value = true

theorem run_readReceipt {receipt : WireReceipt} :
    readReceipt.run bytes = some (receipt, rest) ↔
      receipt.Readable (validIdentifier · = true) EndpointId ∧
        bytes = (⟨receipt, schemaVersion⟩ : PlaybackReceipt).body ++ rest := by
  simp only [readReceipt, readBoundedUtf8, run_bind_eq_some, run_u32, run_u64, run_u8, run_flag,
    run_readString, run_string (show maximumEndpointIdBytes < 2 ^ 16 by decide), run_ofOption,
    run_check, run_pure_eq_some, Bool.and_eq_true, beq_iff_eq, bne_iff_ne,
    AudioOutputSelectionMode.ofWire_eq_some]
  constructor
  · intro h
    obtain ⟨version, _, rfl, -, _, ⟨rfl, rfl⟩, receiptId, _, ⟨hreceipt, rfl⟩, streamId, _,
      ⟨hstream, rfl⟩, sessionId, _, ⟨hsession, rfl⟩, turnId, _, ⟨hturn, rfl⟩, generation, _, rfl,
      sourceFrames, _, rfl, deviceFrames, _, rfl, duration, _, rfl, sourceComplete, _, rfl,
      drainComplete, _, rfl, cancelled, _, rfl, modeRaw, _, rfl, mode, _, ⟨rfl, rfl⟩, endpointId,
      _, ⟨hendpoint, rfl⟩, endpointGeneration, _, rfl, -, _, ⟨hgeneration, rfl⟩, rfl, rfl⟩ := h
    refine ⟨⟨hreceipt, hstream, hsession, hturn, hendpoint, hgeneration⟩, ?_⟩
    simp only [PlaybackReceipt.body, List.append_assoc]
  · intro h
    obtain ⟨hreadable, rfl⟩ := h
    simp only [PlaybackReceipt.body, List.append_assoc]
    exact ⟨_, _, rfl, (), _, ⟨rfl, rfl⟩, _, _, ⟨hreadable.receiptId, rfl⟩, _, _,
      ⟨hreadable.streamId, rfl⟩, _, _, ⟨hreadable.sessionId, rfl⟩, _, _,
      ⟨hreadable.turnId, rfl⟩, _, _, rfl, _, _, rfl, _, _, rfl, _, _, rfl, _, _, rfl, _, _, rfl,
      _, _, rfl, _, _, rfl, _, _, ⟨rfl, rfl⟩, _, _, ⟨hreadable.endpointId, rfl⟩, _, _, rfl, (),
      _, ⟨hreadable.endpointGeneration, rfl⟩, rfl, rfl⟩

/-- What the producer's decoder asks of a response. -/
structure ValidResponse (response : WireResponse) : Prop where
  sequence : response.responseToSequence ≠ 0
  receipt : ∀ receipt, response.receipt = some receipt →
    receipt.Readable (validIdentifier · = true) EndpointId

/-- The response as the session makes it. -/
def native (response : WireResponse) : ProducerResponse :=
  ⟨schemaVersion, response.responseToSequence, response.status, response.acceptedSourceFrames,
    response.receipt.map fun receipt => ⟨receipt, schemaVersion⟩⟩

variable {response : WireResponse}

/-- The session can read what the producer can. -/
theorem ValidResponse.native (h : ValidResponse response) :
    Native.ValidResponse (native response) := by
  refine ⟨rfl, h.sequence, ?_⟩
  intro receipt hreceipt
  obtain ⟨wire, hwire, rfl⟩ := Option.map_eq_some_iff.1 hreceipt
  have hreadable := h.receipt wire hwire
  have hidentifier : ∀ {value}, validIdentifier value = true →
      Native.Readable maximumIdentifierBytes value := fun hvalid =>
    ⟨(validIdentifier_fits hvalid).1, (validIdentifier_fits hvalid).2.1⟩
  exact ⟨rfl, hidentifier hreadable.receiptId, hidentifier hreadable.streamId,
    hidentifier hreadable.sessionId, hidentifier hreadable.turnId,
    ⟨hreadable.endpointId.1, hreadable.endpointId.2.2⟩, hreadable.endpointGeneration⟩

theorem run_readResponse :
    readResponse.run bytes = some (response, rest) ↔
      ValidResponse response ∧ bytes = (native response).body ∧ rest = [] := by
  simp only [readResponse, run_bind_eq_some, run_exact, run_u32, run_u16, run_u64, run_check,
    run_ofOption, run_optional, run_readReceipt, run_done, run_pure_eq_some,
    beq_iff_eq, bne_iff_ne, decide_eq_true_eq, ProducerStatus.ofWire_eq_some]
  constructor
  · intro h
    obtain ⟨-, _, rfl, version, _, rfl, -, _, ⟨rfl, rfl⟩, statusRaw, _, rfl, status, _,
      ⟨rfl, rfl⟩, hasReceipt, _, rfl, -, _, ⟨hflag, rfl⟩, sequence, _, rfl, accepted, _, rfl,
      receipt, _, ⟨hpresent, hsome, hnone⟩, -, _, ⟨rfl, rfl⟩, -, _, ⟨hsequence, rfl⟩, rfl, rfl⟩ := h
    refine ⟨⟨hsequence, fun receipt' hreceipt => (hsome receipt' hreceipt).1⟩, ?_, rfl⟩
    rw [beq_one_of_le hflag] at hpresent
    simp only [ProducerResponse.body, native, Option.isSome_map, ← eq_presence.1 ⟨hflag, hpresent⟩,
      List.append_assoc]
    cases receipt with
    | none => rw [hnone rfl, Option.map_none, Option.map_none, Option.getD_none]
    | some receipt =>
      rw [(hsome receipt rfl).2, Option.map_some, Option.map_some, Option.getD_some,
        List.append_nil]
  · intro h
    obtain ⟨hvalid, rfl, rfl⟩ := h
    obtain ⟨hflag, hpresent⟩ := eq_presence.2 (rfl : _ = presence response.receipt.isSome)
    simp only [ProducerResponse.body, native, Option.isSome_map, List.append_assoc]
    refine ⟨(), _, rfl, _, _, rfl, (), _, ⟨rfl, rfl⟩, _, _, rfl, _, _, ⟨rfl, rfl⟩, _, _, rfl,
      (), _, ⟨hflag, rfl⟩, _, _, rfl, _, _, rfl, response.receipt, [],
      ⟨by rw [beq_one_of_le hflag]; exact hpresent, ?_, ?_⟩, (), [], ⟨rfl, rfl⟩, (), [],
      ⟨hvalid.sequence, rfl⟩, rfl, rfl⟩
    · intro receipt hreceipt
      refine ⟨hvalid.receipt receipt hreceipt, ?_⟩
      rw [hreceipt, Option.map_some, Option.map_some, Option.getD_some, List.append_nil]
    · intro hnone
      rw [hnone, Option.map_none, Option.map_none, Option.getD_none]

theorem run_readBody {body : Bytes} :
    readBody.run bytes = some (body, rest) ↔
      (0 < body.length ∧ body.length ≤ maximumWireFrameBytes) ∧ bytes = framed body ∧
        rest = [] := by
  simp only [readBody, run_bind_eq_some, run_u32, run_remaining, run_check, run_pure_eq_some,
    Bool.and_eq_true, beq_iff_eq, bne_iff_ne, decide_eq_true_eq]
  constructor
  · intro h
    obtain ⟨size, _, rfl, taken, _, ⟨rfl, rfl⟩, -, _, ⟨⟨⟨hzero, hle⟩, hlength⟩, rfl⟩, rfl, rfl⟩ := h
    have hpos : size.toNat ≠ 0 := fun h => hzero (UInt32.toNat_inj.1 h)
    refine ⟨⟨by omega, by omega⟩, ?_, rfl⟩
    rw [framed, hlength, UInt32.ofNat_toNat]
  · intro h
    obtain ⟨⟨hpos, hle⟩, rfl, rfl⟩ := h
    have hlength := toNat_length hle
    refine ⟨UInt32.ofNat body.length, body, rfl, body, [], ⟨rfl, rfl⟩, (), [],
      ⟨⟨⟨?_, by rw [hlength]; exact hle⟩, hlength.symm⟩, rfl⟩, rfl, rfl⟩
    exact ne_zero_length hpos hle

/-- **The producer's decoder accepts the frames of valid responses.** -/
theorem decodeResponse_eq_some {frame : Bytes} :
    decodeResponse frame = some response ↔
      ValidResponse response ∧ frame = framed (native response).body := by
  simp only [decodeResponse, Option.bind_eq_bind, Option.bind_eq_some_iff, decode_eq_some,
    run_readBody]
  constructor
  · intro h
    obtain ⟨body, ⟨rest, -, rfl, -⟩, hdecode⟩ := h
    split at hdecode
    · cases hdecode
    · obtain ⟨rest, hrun⟩ := decode_eq_some.1 hdecode
      obtain ⟨hvalid, rfl, -⟩ := run_readResponse.1 hrun
      exact ⟨hvalid, rfl⟩
  · intro h
    obtain ⟨hvalid, rfl⟩ := h
    obtain ⟨hshort, hlong⟩ := Native.response_body_length hvalid.native
    refine ⟨(native response).body, ⟨[], ⟨by omega, hlong⟩, rfl, rfl⟩, ?_⟩
    rw [if_neg (by omega)]
    exact decode_eq_some.2 ⟨[], run_readResponse.2 ⟨hvalid, rfl, rfl⟩⟩

end Host

end NpcRuntime.Playback
