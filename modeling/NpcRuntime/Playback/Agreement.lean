import NpcRuntime.Playback.Codec
import NpcRuntime.Playback.Visemes

/-!
# The two playback codecs together

A request of the producer is recovered by the session, unless it is a cue that ends after the last
frame that any lease may have. A response of the session is recovered by both sides exactly if its
receipt has this schema and strings that the producer takes: `append_receipt` does not look at
whether a string could be appended, so an identifier that is too long is left out of the frame.
-/

namespace NpcRuntime.Playback

open Reader

/-- What a decoder makes of a frame that is there alone. -/
def Native.received {α : Type} (decoder : Bytes → Option α) (frame : Bytes) : Option α :=
  match readFrame.run frame with
  | some (body, []) => decoder body
  | _ => none

theorem Native.received_framed {α : Type} {decoder : Bytes → Option α} {body : Bytes}
    (hpos : 0 < body.length) (hle : body.length ≤ maximumWireFrameBytes) :
    received decoder (framed body) = decoder body := by
  have hrun : readFrame.run (framed body) = some (body, []) :=
    run_readFrame.2 ⟨⟨hpos, hle⟩, (List.append_nil _).symm⟩
  simp only [received, hrun]

/-! ## Requests -/

/-- The envelope that a request stands for. -/
def PlaybackLease.envelope (lease : PlaybackLease) (command : ProducerCommand)
    (sequence deadline : UInt64) (payload : Bytes) : ProducerEnvelope :=
  ⟨schemaVersion, command, sequence, deadline, lease.generation, lease.streamId, lease.sessionId,
    lease.turnId, lease.oneTimeToken, payload⟩

def VisualSpeechCue.endSample (cue : VisualSpeechCue) : Nat :=
  cue.startSample.toNat + cue.durationSamples.toNat

theorem pushString_eq_some {value bytes : Bytes} :
    Host.pushString value = some bytes ↔
      validIdentifier value = true ∧ bytes = stringBytes value := by
  unfold Host.pushString
  by_cases hvalid : validIdentifier value = true
  · rw [if_pos hvalid, Option.some.injEq]
    exact ⟨fun h => ⟨hvalid, h.symm⟩, fun h => h.2.symm⟩
  · rw [if_neg hvalid]
    exact ⟨fun h => (by cases h), fun h => absurd h.1 hvalid⟩

theorem validIdentifier_readable {value : Bytes} (h : validIdentifier value = true) :
    Native.Readable maximumIdentifierBytes value :=
  ⟨(validIdentifier_fits h).1, (validIdentifier_fits h).2.1⟩

variable {frame : Bytes}

/-- What the producer's encoder accepts, and what it makes of it. -/
theorem encodeRequest_eq_some {lease : PlaybackLease} {command : ProducerCommand}
    {sequence deadline : UInt64} {payload : Bytes}
    (h : Host.encodeRequest lease command sequence deadline payload = some frame) :
    frame = framed (lease.envelope command sequence deadline payload).body ∧
      sequence ≠ 0 ∧ deadline ≠ 0 ∧ payload.length ≤ maximumChunkBytes ∧
      validIdentifier lease.streamId = true ∧ validIdentifier lease.sessionId = true ∧
      validIdentifier lease.turnId = true ∧
      (command ≠ .chunk → command ≠ .visualCue → payload = []) := by
  unfold Host.encodeRequest at h
  split at h
  · cases h
  · next hallowed =>
    obtain ⟨stream, hstream, h⟩ := Option.bind_eq_some_iff.1 h
    obtain ⟨session, hsession, h⟩ := Option.bind_eq_some_iff.1 h
    obtain ⟨turn, hturn, h⟩ := Option.bind_eq_some_iff.1 h
    obtain ⟨hstreamId, rfl⟩ := pushString_eq_some.1 hstream
    obtain ⟨hsessionId, rfl⟩ := pushString_eq_some.1 hsession
    obtain ⟨hturnId, rfl⟩ := pushString_eq_some.1 hturn
    simp only [not_or, not_lt] at hallowed
    obtain ⟨hsequence, hdeadline, hpayload, hcommand⟩ := hallowed
    simp only [Option.ite_none_left_eq_some, Option.some.injEq] at h
    obtain ⟨-, rfl⟩ := h
    refine ⟨rfl, hsequence, hdeadline, hpayload, hstreamId, hsessionId, hturnId, ?_⟩
    intro hchunk hcue
    cases command with
    | chunk => exact absurd rfl hchunk
    | visualCue => exact absurd rfl hcue
    | begin => simpa [Host.payloadRefused] using hcommand
    | finish => simpa [Host.payloadRefused] using hcommand
    | cancel => simpa [Host.payloadRefused] using hcommand

/-- **A request is recovered exactly if its payload is one that the session knows.** -/
theorem received_request {lease : PlaybackLease} {command : ProducerCommand}
    {sequence deadline : UInt64} {payload : Bytes} (hgeneration : lease.generation ≠ 0)
    (h : Host.encodeRequest lease command sequence deadline payload = some frame) :
    Native.received Native.decodeEnvelope frame =
        some (lease.envelope command sequence deadline payload) ↔
      Native.payloadValid command payload = true := by
  obtain ⟨rfl, hsequence, hdeadline, hpayload, hstream, hsession, hturn, -⟩ :=
    encodeRequest_eq_some h
  constructor
  · intro hreceived
    unfold Native.received at hreceived
    split at hreceived
    · exact (Native.decodeEnvelope_eq_some.1 hreceived).1.payload
    · cases hreceived
  · intro hvalid
    have henvelope : (lease.envelope command sequence deadline payload).Valid :=
      ⟨rfl, hsequence, hdeadline, hgeneration, validIdentifier_readable hstream,
        validIdentifier_readable hsession, validIdentifier_readable hturn, hpayload, hvalid⟩
    obtain ⟨hpos, -, hle⟩ := Native.body_length henvelope
    rw [Native.received_framed hpos hle]
    exact Native.decodeEnvelope_eq_some.2 ⟨henvelope, rfl⟩

/-- A cue of a lease is one that the session knows if it ends in time. -/
theorem payloadValid_cue {cue : VisualSpeechCue} {maxFrames : Nat}
    (h : validVisualSpeechCue cue maxFrames = true) :
    Native.payloadValid .visualCue cue.payload = true ↔ cue.endSample ≤ maximumSourceFrames := by
  have hdecode : Native.payloadValid .visualCue cue.payload = true ↔
      validVisualSpeechCue cue maximumSourceFrames = true := by
    show (decodeVisualSpeechCuePayload cue.payload maximumSourceFrames).isSome = true ↔ _
    rw [Option.isSome_iff_exists]
    simp only [decodeVisualSpeechCuePayload_eq_some]
    constructor
    · intro hsome
      obtain ⟨cue', hvalid, hpayload⟩ := hsome
      rw [payload_inj h hvalid hpayload]
      exact hvalid
    · intro hvalid
      exact ⟨cue, hvalid, rfl⟩
  rw [hdecode]
  simp only [validVisualSpeechCue, Bool.and_eq_true, decide_eq_true_eq, VisualSpeechCue.endSample]
    at h ⊢
  constructor
  · intro hvalid
    omega
  · intro hend
    exact ⟨⟨h.1.1, by omega⟩, by omega⟩

/-! ## Responses -/

/-- A receipt that both sides can read. -/
structure PlaybackReceipt.Readable (receipt : PlaybackReceipt) : Prop where
  schemaVersion : receipt.schemaVersion = Playback.schemaVersion
  receiptId : validIdentifier receipt.receiptId = true
  streamId : validIdentifier receipt.streamId = true
  sessionId : validIdentifier receipt.sessionId = true
  turnId : validIdentifier receipt.turnId = true
  endpointId : utf8 receipt.outputEndpointId = true

variable {response : ProducerResponse}

/-- What the session's encoder asks of an endpoint. -/
theorem encodeResponse_endpoint (h : Native.encodeResponse response = some frame) :
    response.schemaVersion = schemaVersion ∧ response.responseToSequence ≠ 0 ∧
      ∀ receipt, response.receipt = some receipt →
        Native.Readable maximumEndpointIdBytes receipt.outputEndpointId ∧
          receipt.outputEndpointGeneration ≠ 0 := by
  unfold Native.encodeResponse at h
  split at h
  · cases h
  · next hresponse =>
    split at h
    · cases h
    · next hreceipt =>
      simp only [not_or, not_not] at hresponse
      refine ⟨hresponse.1, hresponse.2, ?_⟩
      intro receipt hsome
      rw [hsome, Option.any_some] at hreceipt
      simp only [Bool.or_eq_true, decide_eq_true_eq, not_or, Bool.not_eq_true,
        Bool.not_eq_false', beq_iff_eq] at hreceipt
      obtain ⟨⟨⟨hempty, hlong⟩, hnul⟩, hgeneration⟩ := hreceipt
      refine ⟨⟨⟨?_, by omega⟩, hnul⟩, hgeneration⟩
      rw [List.isEmpty_eq_false_iff] at hempty
      exact List.length_pos_iff.2 hempty

/-- The frame of a response whose strings can all be appended. -/
theorem encodeResponse_eq (hvalid : Native.ValidResponse response)
    (h : Native.encodeResponse response = some frame) : frame = framed response.body := by
  unfold Native.encodeResponse at h
  simp only [Option.ite_none_left_eq_some, Option.some.injEq] at h
  obtain ⟨-, -, -, rfl⟩ := h
  have hpresence : (if response.receipt.isSome = true then 1 else 0 : UInt16) =
      presence response.receipt.isSome := rfl
  rw [hpresence]
  cases hreceipt : response.receipt with
  | none => rw [ProducerResponse.body, hreceipt]; rfl
  | some receipt =>
    have hreadable := (hvalid.receipt receipt hreceipt).readable
    have hidentifier : ∀ {value}, Native.Readable maximumIdentifierBytes value →
        Native.appendString value = stringBytes value := by
      intro value hvalue
      rw [Native.appendString, (Native.appendBoundedString_eq_some (by decide)).2 ⟨hvalue, rfl⟩,
        Option.getD_some]
    have hreceiptBody : Native.appendReceipt receipt = receipt.body := by
      rw [Native.appendReceipt, hidentifier hreadable.receiptId, hidentifier hreadable.streamId,
        hidentifier hreadable.sessionId, hidentifier hreadable.turnId,
        (Native.appendBoundedString_eq_some (by decide)).2 ⟨hreadable.endpointId, rfl⟩,
        Option.getD_some]
      rfl
    rw [ProducerResponse.body, hreceipt]
    simp only [hreceiptBody, Option.map_some, Option.getD_some]

/-- A response is its wire form in the schema of the format. -/
theorem native_wire (hversion : response.schemaVersion = schemaVersion) (hreceipt : ∀ receipt,
      response.receipt = some receipt → receipt.schemaVersion = schemaVersion) :
    Host.native response.wire = response := by
  obtain ⟨version, sequence, status, accepted, receipt⟩ := response
  obtain rfl : version = schemaVersion := hversion
  cases receipt with
  | none => rfl
  | some receipt =>
    obtain ⟨wire, version⟩ := receipt
    obtain rfl : version = schemaVersion := hreceipt _ rfl
    rfl

/-- **A response is recovered by both sides exactly if both can read its receipt.** -/
theorem received_response (h : Native.encodeResponse response = some frame) :
    (Native.received Native.decodeResponse frame = some response ∧
        Host.decodeResponse frame = some response.wire) ↔
      ∀ receipt, response.receipt = some receipt → receipt.Readable := by
  obtain ⟨hversion, hsequence, hendpoint⟩ := encodeResponse_endpoint h
  constructor
  · intro hreceived receipt hreceipt
    obtain ⟨hnative, hhost⟩ := hreceived
    have hvalid : Native.ValidResponse response := by
      unfold Native.received at hnative
      split at hnative
      · exact (Native.decodeResponse_eq_some.1 hnative).1
      · cases hnative
    obtain ⟨hwire, -⟩ := Host.decodeResponse_eq_some.1 hhost
    have hreadable := hwire.receipt receipt.toWireReceipt
      (by rw [ProducerResponse.wire, hreceipt]; rfl)
    exact ⟨(hvalid.receipt receipt hreceipt).schemaVersion, hreadable.receiptId,
      hreadable.streamId, hreadable.sessionId, hreadable.turnId, hreadable.endpointId.2.1⟩
  · intro hreadable
    have hwire : Host.ValidResponse response.wire := by
      refine ⟨hsequence, ?_⟩
      intro wire hsome
      obtain ⟨receipt, hreceipt, rfl⟩ := Option.map_eq_some_iff.1 hsome
      have hreceiptReadable := hreadable receipt hreceipt
      obtain ⟨⟨hfits, hnul⟩, hgeneration⟩ := hendpoint receipt hreceipt
      exact ⟨hreceiptReadable.receiptId, hreceiptReadable.streamId, hreceiptReadable.sessionId,
        hreceiptReadable.turnId, ⟨hfits, hreceiptReadable.endpointId, hnul⟩, hgeneration⟩
    have hsame : Host.native response.wire = response :=
      native_wire hversion fun receipt hreceipt => (hreadable receipt hreceipt).schemaVersion
    have hvalid : Native.ValidResponse response := hsame ▸ hwire.native
    obtain rfl := encodeResponse_eq hvalid h
    obtain ⟨hshort, hlong⟩ := Native.response_body_length hvalid
    refine ⟨?_, ?_⟩
    · rw [Native.received_framed (by omega) hlong]
      exact Native.decodeResponse_eq_some.2 ⟨hvalid, rfl⟩
    · exact Host.decodeResponse_eq_some.2 ⟨hwire, by rw [hsame]⟩

/-- **The two codecs agree**: the session recovers a request, a cue exactly if it ends after no more
frames than any lease may have, and both sides recover a response exactly if both can read its
receipt. -/
theorem playback_wire_agreement (toLowercase : Text → Text) :
    (∀ (lease : PlaybackLease) (command : ProducerCommand) (sequence deadline : UInt64)
        (payload frame : Bytes),
      lease.generation ≠ 0 → command ≠ .visualCue →
      Host.encodeRequest lease command sequence deadline payload = some frame →
      Native.received Native.decodeEnvelope frame =
        some (lease.envelope command sequence deadline payload)) ∧
    (∀ (lease : PlaybackLease) (alignment : Host.AlignmentEvent) (cue : VisualSpeechCue)
        (sequence deadline : UInt64) (frame : Bytes),
      lease.generation ≠ 0 → Host.visualCue toLowercase alignment lease = some cue →
      Host.encodeRequest lease .visualCue sequence deadline cue.payload = some frame →
      (Native.received Native.decodeEnvelope frame =
          some (lease.envelope .visualCue sequence deadline cue.payload) ↔
        cue.endSample ≤ maximumSourceFrames)) ∧
    (∀ (response : ProducerResponse) (frame : Bytes),
      Native.encodeResponse response = some frame →
      ((Native.received Native.decodeResponse frame = some response ∧
          Host.decodeResponse frame = some response.wire) ↔
        ∀ receipt, response.receipt = some receipt → receipt.Readable)) := by
  refine ⟨?_, ?_, fun response frame h => received_response h⟩
  · intro lease command sequence deadline payload frame hgeneration hcommand h
    apply (received_request hgeneration h).2
    obtain ⟨-, -, -, -, -, -, -, hplain⟩ := encodeRequest_eq_some h
    by_cases hchunk : command = .chunk
    · rw [hchunk]
      rfl
    · rw [hplain hchunk hcommand]
      cases command with
      | visualCue => exact absurd rfl hcommand
      | _ => rfl
  · intro lease alignment cue sequence deadline frame hgeneration hcue h
    rw [received_request hgeneration h]
    exact payloadValid_cue (Host.visualCue_valid hcue)

/-! ## A lease, and the answer to its last command -/

theorem length_exampleToken : (List.replicate 32 (1 : UInt8)).length = 32 := rfl

/-- One second of speech on a stream of the given name. -/
def exampleLease (streamId : Bytes) : PlaybackLease where
  streamId := streamId
  oneTimeToken := ⟨List.replicate 32 1, length_exampleToken⟩
  sessionId := [115]
  turnId := [116]
  generation := 1
  sampleRate := 48000
  channels := 1
  maxFrames := 48000
  maxChunkBytes := 65536
  expiresQpc := 1
  outputSelectionMode := .systemDefault
  outputEndpointId := [101]
  outputEndpointGeneration := 1

/-- The receipt of its session, which is named after the stream, behind `receipt-`. -/
def exampleResponse (streamId : Bytes) : ProducerResponse :=
  ⟨schemaVersion, 3, .ok, 0, some
    { schemaVersion := schemaVersion
      receiptId := [114, 101, 99, 101, 105, 112, 116, 45] ++ streamId
      streamId := streamId
      sessionId := [115]
      turnId := [116]
      generation := 1
      sourceFrames := 48000
      deviceFrames := 48000
      sourceDurationMicros := 1000000
      sourceSubmissionComplete := true
      endpointDrainComplete := true
      cancelled := false
      outputSelectionMode := .systemDefault
      outputEndpointId := [101]
      outputEndpointGeneration := 1 }⟩

/-- A cue of 80 ms at the start. -/
def exampleCue : VisualSpeechCue := ⟨0, 3840, 9, 32767⟩

theorem playback_wire_agreement_example :
    Native.received Native.decodeEnvelope
          (framed ((exampleLease [112]).envelope .finish 3 1 []).body) =
        some ((exampleLease [112]).envelope .finish 3 1 []) ∧
      Native.received Native.decodeEnvelope
          (framed ((exampleLease [112]).envelope .visualCue 2 1 exampleCue.payload).body) =
        some ((exampleLease [112]).envelope .visualCue 2 1 exampleCue.payload) ∧
      Native.received Native.decodeResponse (framed (exampleResponse [112]).body) =
          some (exampleResponse [112]) ∧
        Host.decodeResponse (framed (exampleResponse [112]).body) =
          some (exampleResponse [112]).wire := by
  obtain ⟨hplain, hcue, hresponse⟩ := playback_wire_agreement id
  refine ⟨hplain (exampleLease [112]) .finish 3 1 [] _ (by decide) (by decide) (by decide +kernel),
    ?_, ?_⟩
  · apply (hcue (exampleLease [112]) ⟨0, none, some ['a', 'a'], some .providerViseme, none, none⟩
      exampleCue 2 1 _ (by decide) (by decide +kernel) (by decide +kernel)).2
    decide
  · apply (hresponse (exampleResponse [112]) _ (by decide +kernel)).2
    intro receipt hreceipt
    obtain rfl := Option.some.inj hreceipt
    exact ⟨by decide, by decide +kernel, by decide, by decide, by decide, by decide⟩

/-- **A name of 129 bytes is left out of the frame.** Both sides take the name of the stream for the
receipt's and reject what follows. -/
theorem receiptId_skipped :
    ¬ ∀ (response : ProducerResponse) (frame : Bytes),
      Native.encodeResponse response = some frame →
        Native.received Native.decodeResponse frame = some response ∧
          Host.decodeResponse frame = some response.wire := by
  intro h
  have hsome : (Native.encodeResponse (exampleResponse (List.replicate 121 97))).isSome = true := by
    decide +kernel
  obtain ⟨frame, hframe⟩ := Option.isSome_iff_exists.1 hsome
  have hrejected : ((Native.encodeResponse (exampleResponse (List.replicate 121 97))).bind
      fun frame => Host.decodeResponse frame) = none := by
    decide +kernel
  rw [hframe, Option.bind_some, (h _ _ hframe).2] at hrejected
  cases hrejected

end NpcRuntime.Playback
