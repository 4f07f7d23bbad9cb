import NpcRuntime.Lib.Result
import NpcRuntime.Response.Envelope

/-!
# Decoding a provider response

The two ways in which `runtime-core/src/structured_response.rs` reads a provider's JSON:
`NpcResponseEnvelopeV1::from_json_strict` decodes the whole envelope with the derived decoder and
refuses it for any fault, and `ProviderResponseAdapter::decode` decodes field by field, where a
fault of an optional field costs that field only.

`serde_json` turns the text into a value. It is not part of the repository, so it is a parameter;
the derived decoders from values are given here, as the attributes of the types define them. Of
several faults in one value a derived decoder reports one, and which it is stays open.
-/

namespace NpcRuntime.Response

open Text Json

/-! ## Derived decoders -/

def decodeSchemaVersion : Decode NpcResponseSchemaVersion :=
  Decode.unitVariant [(npcResponseSchemaV1, .v1)]

def decodeSpoken : Decode SpokenResponseV1 := fun value => do
  let fields ← Fields.ofValue ["text"] value
  let text ← fields.required 0 "text" Decode.string
  return { text }

def decodeEmotionKind : Decode EmotionKindV1 :=
  Decode.unitVariant
    [("neutral", .neutral), ("joy", .joy), ("sadness", .sadness), ("anger", .anger),
      ("fear", .fear), ("surprise", .surprise), ("disgust", .disgust), ("contempt", .contempt),
      ("concern", .concern), ("amusement", .amusement)]

def decodeEmotion : Decode EmotionStateV1 := fun value => do
  let fields ← Fields.ofValue ["kind", "valence", "arousal", "intensity"] value
  let kind ← fields.required 0 "kind" decodeEmotionKind
  let valence ← fields.required 1 "valence" Decode.f32
  let arousal ← fields.required 2 "arousal" Decode.f32
  let intensity ← fields.required 3 "intensity" Decode.f32
  return { kind, valence, arousal, intensity }

def decodeVoiceStyleKind : Decode VoiceStyleKindV1 :=
  Decode.unitVariant
    [("neutral", .neutral), ("warm", .warm), ("tense", .tense), ("somber", .somber),
      ("excited", .excited), ("whisper", .whisper), ("shout", .shout)]

def decodeVoiceStyle : Decode VoiceStyleV1 := fun value => do
  let fields ← Fields.ofValue ["kind", "speaking_rate", "pitch_semitones", "energy"] value
  let kind ← fields.required 0 "kind" decodeVoiceStyleKind
  let speakingRate ← fields.required 1 "speaking_rate" Decode.f32
  let pitchSemitones ← fields.required 2 "pitch_semitones" Decode.f32
  let energy ← fields.required 3 "energy" Decode.f32
  return { kind, speakingRate, pitchSemitones, energy }

def decodeAnimationCueKind : Decode AnimationCueKindV1 :=
  Decode.unitVariant
    [("nod", .nod), ("shake_head", .shakeHead), ("look_at_player", .lookAtPlayer),
      ("look_away", .lookAway), ("gesture_open", .gestureOpen), ("gesture_point", .gesturePoint),
      ("idle_shift", .idleShift), ("viseme_stream", .visemeStream)]

def decodeAnimationCue : Decode AnimationCueV1 := fun value => do
  let fields ← Fields.ofValue ["kind", "start_offset_ms", "duration_ms", "intensity"] value
  let kind ← fields.required 0 "kind" decodeAnimationCueKind
  let startOffsetMs ← fields.required 1 "start_offset_ms" Decode.u64
  let durationMs ← fields.required 2 "duration_ms" Decode.u64
  let intensity ← fields.required 3 "intensity" Decode.f32
  return { kind, startOffsetMs, durationMs, intensity }

def decodeMemoryProposalKind : Decode MemoryProposalKindV1 :=
  Decode.unitVariant
    [("episodic", .episodic), ("fact", .fact), ("preference", .preference),
      ("quest_state", .questState)]

def decodeMemoryProposal : Decode MemoryProposalV1 := fun value => do
  let fields ← Fields.ofValue
    ["kind", "content", "importance", "evidence_turn_ids", "expires_after_ms"] value
  let kind ← fields.required 0 "kind" decodeMemoryProposalKind
  let content ← fields.required 1 "content" Decode.string
  let importance ← fields.required 2 "importance" Decode.f32
  let evidenceTurnIds ← fields.orDefault 3 "evidence_turn_ids" [] (Decode.vec Decode.string)
  let expiresAfterMs ← fields.optional 4 "expires_after_ms" Decode.u64
  return { kind, content, importance, evidenceTurnIds, expiresAfterMs }

def decodeInterruption : Decode InterruptionBehaviorV1 :=
  Decode.unitVariant
    [("barge_in_allowed", .bargeInAllowed), ("finish_clause", .finishClause),
      ("uninterruptible", .uninterruptible)]

def decodeAction : Decode OptionalActionV1 := fun value => do
  let fields ← Fields.ofValue
    ["action_id", "arguments", "rationale", "requires_confirmation"] value
  let actionId ← fields.required 0 "action_id" Decode.string
  let arguments ← fields.orDefault 1 "arguments" [] (Decode.map Decode.string)
  let rationale ← fields.required 2 "rationale" Decode.string
  let requiresConfirmation ← fields.orDefault 3 "requires_confirmation" false Decode.bool
  return { actionId, arguments, rationale, requiresConfirmation }

def decodeEnvelope : Decode NpcResponseEnvelopeV1 := fun value => do
  let fields ← Fields.ofValue topLevelFields value
  let schemaVersion ← fields.required 0 "schema_version" decodeSchemaVersion
  let spokenResponse ← fields.required 1 "spoken_response" decodeSpoken
  let emotion ← fields.orDefault 2 "emotion" none (Decode.option decodeEmotion)
  let voiceStyle ← fields.orDefault 3 "voice_style" {} decodeVoiceStyle
  let animationCues ← fields.orDefault 4 "animation_cues" [] (Decode.vec decodeAnimationCue)
  let memoryProposals ← fields.orDefault 5 "memory_proposals" [] (Decode.vec decodeMemoryProposal)
  let interruptionBehavior ←
    fields.orDefault 6 "interruption_behavior" .bargeInAllowed decodeInterruption
  let actions ← fields.orDefault 7 "actions" [] (Decode.vec decodeAction)
  return ⟨schemaVersion, spokenResponse, emotion, voiceStyle, animationCues, memoryProposals,
    interruptionBehavior, actions⟩

/-! ## The parser -/

/-- The calls into `serde_json` that read text. `next` and `nextString` are the first item of
`Deserializer::from_str(..).into_iter()` with its `byte_offset`, counted in characters: a value ends
at the end of a character. -/
structure SerdeJson where
  fromStr : Text → Except Json.Error Value
  schemaFromStr : Text → Except Json.Error NpcResponseSchemaVersion
  spokenFromStr : Text → Except Json.Error SpokenResponseV1
  next : Text → Option (Except Json.Error (Value × Nat))
  nextString : Text → Option (Except Json.Error (Text × Nat))

/-- `MalformedProviderOutput(error.to_string())`. -/
def malformed (error : Json.Error) : ResponseValidationError :=
  .malformedProviderOutput (.json error)

def asObject : Value → Except ResponseValidationError (List (Text × Value))
  | .object members => .ok members
  | _ => .error .expectedObject

def unsupportedTopLevelFields (members : List (Text × Value)) : List Text :=
  (members.map Prod.fst).filter fun field => !topLevelFields.any (·.toList == field)

/-! ## Strict decoding -/

def NpcResponseEnvelopeV1.fromJsonStrict (serde : SerdeJson) (raw : Text)
    (policy : ResponseValidationPolicy) : Except ResponseValidationError NpcResponseEnvelopeV1 := do
  validateProviderSize raw
  let value ← (serde.fromStr raw).mapError malformed
  let members ← asObject value
  match unsupportedTopLevelFields members with
  | field :: _ => .error (.unsupportedField field)
  | [] =>
    let response ← (decodeEnvelope value).mapError malformed
    response.validate policy
    return response

/-! ## Decoding with isolation -/

inductive ProviderResponseFormat where
  | structuredV1
  | plainTextCompatibility
deriving DecidableEq

/-- Why an optional field was replaced by its neutral value. -/
inductive IssueReason where
  | json (error : Json.Error)
  | validation (error : ResponseValidationError)
deriving DecidableEq

inductive ProviderResponseIssue where
  | unsupportedTopLevelField (field : Text)
  | optionalSubsystemNeutralized (subsystem : String) (reason : IssueReason)
deriving DecidableEq

structure DecodedNpcResponse where
  response : NpcResponseEnvelopeV1
  format : ProviderResponseFormat
  issues : List ProviderResponseIssue
deriving DecidableEq

section Isolation

variable {α : Type} (members : List (Text × Value)) (field : String)

def decodeRequired (d : Decode α) : Except ResponseValidationError α :=
  match members.lookup field.toList with
  | none => .error (.malformedProviderOutput (.json (.missingField field)))
  | some value => (d value).mapError fun error => .malformedProviderOutput (.field field error)

/-- Decode an optional field that is present, and check it. -/
def decodeChecked (d : Decode α) (validate : α → Check) (value : Value) : Except IssueReason α := do
  let decoded ← (d value).mapError .json
  (validate decoded).mapError .validation
  return decoded

def decodeIsolatedOptional (subsystem : String) (d : Decode α) (validate : α → Check) :
    Option α × List ProviderResponseIssue :=
  match members.lookup field.toList with
  | none => (none, [])
  | some .null => (none, [])
  | some value =>
    match decodeChecked d validate value with
    | .ok decoded => (some decoded, [])
    | .error reason => (none, [.optionalSubsystemNeutralized subsystem reason])

def decodeIsolatedDefault (subsystem : String) (neutral : α) (d : Decode α) (validate : α → Check) :
    α × List ProviderResponseIssue :=
  match members.lookup field.toList with
  | none => (neutral, [])
  | some value =>
    match decodeChecked d validate value with
    | .ok decoded => (decoded, [])
    | .error reason => (neutral, [.optionalSubsystemNeutralized subsystem reason])

end Isolation

section Lanes

variable (policy : ResponseValidationPolicy) (members : List (Text × Value))

def decodeEmotionLane : Option EmotionStateV1 × List ProviderResponseIssue :=
  decodeIsolatedOptional members "emotion" "emotion" decodeEmotion validateEmotion

def decodeVoiceStyleLane : VoiceStyleV1 × List ProviderResponseIssue :=
  decodeIsolatedDefault members "voice_style" "voice_style" {} decodeVoiceStyle validateVoiceStyle

def decodeAnimationLane : List AnimationCueV1 × List ProviderResponseIssue :=
  decodeIsolatedDefault members "animation_cues" "animation" [] (Decode.vec decodeAnimationCue)
    (validateAnimation policy)

def decodeMemoryLane : List MemoryProposalV1 × List ProviderResponseIssue :=
  decodeIsolatedDefault members "memory_proposals" "memory" [] (Decode.vec decodeMemoryProposal)
    (validateMemory policy)

def decodeInterruptionLane : InterruptionBehaviorV1 × List ProviderResponseIssue :=
  decodeIsolatedDefault members "interruption_behavior" "interruption" .bargeInAllowed
    decodeInterruption (validateInterruption policy)

def decodeActionsLane : List OptionalActionV1 × List ProviderResponseIssue :=
  decodeIsolatedDefault members "actions" "actions" [] (Decode.vec decodeAction)
    (validateActions policy)

/-- The response of which every optional lane is isolated. -/
def isolatedResponse (schemaVersion : NpcResponseSchemaVersion)
    (spokenResponse : SpokenResponseV1) : NpcResponseEnvelopeV1 where
  schemaVersion := schemaVersion
  spokenResponse := spokenResponse
  emotion := (decodeEmotionLane members).1
  voiceStyle := (decodeVoiceStyleLane members).1
  animationCues := (decodeAnimationLane policy members).1
  memoryProposals := (decodeMemoryLane policy members).1
  interruptionBehavior := (decodeInterruptionLane policy members).1
  actions := (decodeActionsLane policy members).1

def isolatedIssues : List ProviderResponseIssue :=
  (unsupportedTopLevelFields members).map .unsupportedTopLevelField ++
    (decodeEmotionLane members).2 ++ (decodeVoiceStyleLane members).2 ++
    (decodeAnimationLane policy members).2 ++ (decodeMemoryLane policy members).2 ++
    (decodeInterruptionLane policy members).2 ++ (decodeActionsLane policy members).2

end Lanes

namespace ProviderResponseAdapter

def decodeStructuredWithIsolation (serde : SerdeJson) (policy : ResponseValidationPolicy)
    (raw : Text) : Except ResponseValidationError DecodedNpcResponse := do
  let value ← (serde.fromStr raw).mapError malformed
  let members ← asObject value
  let schema ← decodeRequired members "schema_version" decodeSchemaVersion
  let spoken ← decodeRequired members "spoken_response" decodeSpoken
  validateSpoken policy spoken
  let response := isolatedResponse policy members schema spoken
  response.validate policy
  return { response, format := .structuredV1, issues := isolatedIssues policy members }

def decode (serde : SerdeJson) (policy : ResponseValidationPolicy) (raw : Text) :
    Except ResponseValidationError DecodedNpcResponse := do
  validateProviderSize raw
  let trimmed := trim raw
  if trimmed = [] then .error (.emptyText "provider response")
  else if trimmed.head? = some '{' ∨ trimmed.head? = some '[' then
    decodeStructuredWithIsolation serde policy trimmed
  else
    let response := NpcResponseEnvelopeV1.plainText trimmed
    response.validate policy
    return { response, format := .plainTextCompatibility, issues := [] }

end ProviderResponseAdapter

/-! ## One field -/

section Fields

variable {α : Type} {members : List (Text × Value)} {field : String} {d : Decode α}
  {validate : α → Check} {subsystem : String} {neutral : α}

variable {decoded : α}

theorem decodeChecked_eq_ok {value : Value} :
    decodeChecked d validate value = .ok decoded ↔
      d value = .ok decoded ∧ validate decoded = .ok () := by
  simp only [decodeChecked, bind_eq_ok, mapError_eq_ok, pure_eq_ok]
  constructor
  · rintro ⟨_, hdecode, _, hvalid, rfl⟩
    exact ⟨hdecode, hvalid⟩
  · rintro ⟨hdecode, hvalid⟩
    exact ⟨decoded, hdecode, (), hvalid, rfl⟩

/-- The two decoders agree on a required field. -/
theorem decodeRequired_eq_ok (index : Nat) :
    decodeRequired members field d = .ok decoded ↔
      (Fields.named members).required index field d = .ok decoded := by
  simp only [decodeRequired, Fields.required, Fields.get]
  cases hvalue : members.lookup field.toList with
  | none => simp
  | some value => simp only [mapError_eq_ok]

/-- A field with a default is isolated without an issue when the derived decoder accepts it and it
passes its check. -/
theorem decodeIsolatedDefault_clean (index : Nat) (hneutral : validate neutral = .ok ()) :
    decodeIsolatedDefault members field subsystem neutral d validate = (decoded, []) ↔
      (Fields.named members).orDefault index field neutral d = .ok decoded ∧
        validate decoded = .ok () := by
  simp only [decodeIsolatedDefault, Fields.orDefault, Fields.get]
  cases hvalue : members.lookup field.toList with
  | none =>
    simp only [Prod.mk.injEq, Except.ok.injEq, and_true]
    refine ⟨?_, And.left⟩
    rintro rfl
    exact ⟨rfl, hneutral⟩
  | some value =>
    simp only [← decodeChecked_eq_ok]
    cases decodeChecked d validate value <;> simp

/-- The same for the optional field. -/
theorem decodeIsolatedOptional_clean (index : Nat) {decoded : Option α} :
    decodeIsolatedOptional members field subsystem d validate = (decoded, []) ↔
      (Fields.named members).orDefault index field none (Decode.option d) = .ok decoded ∧
        ∀ value, decoded = some value → validate value = .ok () := by
  have hpresent : ∀ value, ((match decodeChecked d validate value with
      | .ok decoded => (some decoded, [])
      | .error reason => (none, [.optionalSubsystemNeutralized subsystem reason])) :
        Option α × List ProviderResponseIssue) = (decoded, []) ↔
      (d value).map some = .ok decoded ∧
        ∀ value, decoded = some value → validate value = .ok () := by
    intro value
    cases hchecked : decodeChecked d validate value with
    | ok checked =>
      obtain ⟨hdecode, hvalid⟩ := decodeChecked_eq_ok.1 hchecked
      simp only [hdecode, Except.map, Prod.mk.injEq, and_true, Except.ok.injEq]
      refine ⟨?_, And.left⟩
      rintro rfl
      refine ⟨rfl, ?_⟩
      rintro value ⟨⟩
      exact hvalid
    | error reason =>
      simp only [Prod.mk.injEq, reduceCtorEq, and_false, false_iff, not_and]
      intro hdecode hvalid
      obtain ⟨value', hvalue, rfl⟩ := map_eq_ok.1 hdecode
      rw [decodeChecked_eq_ok.2 ⟨hvalue, hvalid value' rfl⟩] at hchecked
      cases hchecked
  simp only [decodeIsolatedOptional, Fields.orDefault, Fields.get]
  cases hvalue : members.lookup field.toList with
  | none => cases decoded <;> simp
  | some value =>
    cases value with
    | null => cases decoded <;> simp [Decode.option]
    | bool b => exact hpresent _
    | number n => exact hpresent _
    | string s => exact hpresent _
    | array items => exact hpresent _
    | object members => exact hpresent _

/-- The derived decoder finds no unknown field when there is no unsupported one. -/
theorem ofValue_topLevelFields :
    Fields.ofValue topLevelFields (.object members) = .ok (.named members) ↔
      unsupportedTopLevelFields members = [] := by
  simp only [Fields.ofValue, unsupportedTopLevelFields, List.filter_map, List.map_eq_nil_iff]
  cases hfind : members.find? fun member => !topLevelFields.any (·.toList == member.1) with
  | none =>
    simp only [true_iff]
    exact List.filter_eq_nil_iff.2 fun member hmem => List.find?_eq_none.1 hfind member hmem
  | some member =>
    simp only [reduceCtorEq, false_iff]
    intro hnil
    exact List.filter_eq_nil_iff.1 hnil member (List.mem_of_find?_eq_some hfind)
      (List.find?_some hfind)

end Fields

/-! ## The two decoders agree -/

section Agreement

variable {policy : ResponseValidationPolicy} {members : List (Text × Value)}
  {response : NpcResponseEnvelopeV1}

theorem decodeEnvelope_eq_ok (hfields : unsupportedTopLevelFields members = []) :
    decodeEnvelope (.object members) = .ok response ↔
      (Fields.named members).required 0 "schema_version" decodeSchemaVersion =
        .ok response.schemaVersion ∧
      (Fields.named members).required 1 "spoken_response" decodeSpoken =
        .ok response.spokenResponse ∧
      (Fields.named members).orDefault 2 "emotion" none (Decode.option decodeEmotion) =
        .ok response.emotion ∧
      (Fields.named members).orDefault 3 "voice_style" {} decodeVoiceStyle =
        .ok response.voiceStyle ∧
      (Fields.named members).orDefault 4 "animation_cues" [] (Decode.vec decodeAnimationCue) =
        .ok response.animationCues ∧
      (Fields.named members).orDefault 5 "memory_proposals" [] (Decode.vec decodeMemoryProposal) =
        .ok response.memoryProposals ∧
      (Fields.named members).orDefault 6 "interruption_behavior" .bargeInAllowed
        decodeInterruption = .ok response.interruptionBehavior ∧
      (Fields.named members).orDefault 7 "actions" [] (Decode.vec decodeAction) =
        .ok response.actions := by
  simp only [decodeEnvelope, bind_eq_ok, ofValue_topLevelFields.2 hfields, Except.ok.injEq,
    exists_eq_left', pure_eq_ok]
  constructor
  · rintro ⟨_, h₁, _, h₂, _, h₃, _, h₄, _, h₅, _, h₆, _, h₇, _, h₈, rfl⟩
    exact ⟨h₁, h₂, h₃, h₄, h₅, h₆, h₇, h₈⟩
  · rintro ⟨h₁, h₂, h₃, h₄, h₅, h₆, h₇, h₈⟩
    exact ⟨_, h₁, _, h₂, _, h₃, _, h₄, _, h₅, _, h₆, _, h₇, _, h₈, rfl⟩

/-- Isolation without an issue: every optional lane is decoded by the derived decoder and passes its
check. -/
theorem isolated_clean :
    isolatedResponse policy members response.schemaVersion response.spokenResponse = response ∧
      isolatedIssues policy members = [] ↔
    unsupportedTopLevelFields members = [] ∧
      decodeEmotionLane members = (response.emotion, []) ∧
      decodeVoiceStyleLane members = (response.voiceStyle, []) ∧
      decodeAnimationLane policy members = (response.animationCues, []) ∧
      decodeMemoryLane policy members = (response.memoryProposals, []) ∧
      decodeInterruptionLane policy members = (response.interruptionBehavior, []) ∧
      decodeActionsLane policy members = (response.actions, []) := by
  cases response
  simp only [isolatedResponse, isolatedIssues, NpcResponseEnvelopeV1.mk.injEq, true_and,
    List.append_eq_nil_iff, List.map_eq_nil_iff, Prod.ext_iff]
  tauto

/-- Both decoders accept the same members with the same response. -/
theorem isolated_iff_strict :
    (decodeRequired members "schema_version" decodeSchemaVersion = .ok response.schemaVersion ∧
      decodeRequired members "spoken_response" decodeSpoken = .ok response.spokenResponse ∧
      isolatedResponse policy members response.schemaVersion response.spokenResponse = response ∧
      isolatedIssues policy members = []) ∧ response.validate policy = .ok () ↔
    unsupportedTopLevelFields members = [] ∧ decodeEnvelope (.object members) = .ok response ∧
      response.validate policy = .ok () := by
  obtain ⟨hstyle, hanimation, hmemory, hinterruption, hactions⟩ := neutral_lanes_valid policy
  rw [isolated_clean, decodeRequired_eq_ok 0, decodeRequired_eq_ok 1,
    NpcResponseEnvelopeV1.validate_eq_ok]
  simp only [decodeEmotionLane, decodeVoiceStyleLane, decodeAnimationLane, decodeMemoryLane,
    decodeInterruptionLane, decodeActionsLane]
  rw [decodeIsolatedOptional_clean 2, decodeIsolatedDefault_clean 3 hstyle,
    decodeIsolatedDefault_clean 4 hanimation, decodeIsolatedDefault_clean 5 hmemory,
    decodeIsolatedDefault_clean 6 hinterruption, decodeIsolatedDefault_clean 7 hactions]
  by_cases hfields : unsupportedTopLevelFields members = []
  · rw [decodeEnvelope_eq_ok hfields]
    tauto
  · simp [hfields]

theorem asObject_eq_ok {value : Value} :
    asObject value = .ok members ↔ value = .object members := by
  cases value <;> simp [asObject]

variable {raw : Text}

theorem validateProviderSize_eq_ok :
    validateProviderSize raw = .ok () ↔ utf8Len raw ≤ maxProviderResponseBytes := by
  simp [validateProviderSize]

variable {serde : SerdeJson}

/-- When strict decoding succeeds. -/
theorem fromJsonStrict_eq_ok :
    NpcResponseEnvelopeV1.fromJsonStrict serde raw policy = .ok response ↔
      utf8Len raw ≤ maxProviderResponseBytes ∧
      ∃ members, serde.fromStr raw = .ok (.object members) ∧
        unsupportedTopLevelFields members = [] ∧ decodeEnvelope (.object members) = .ok response ∧
        response.validate policy = .ok () := by
  simp only [NpcResponseEnvelopeV1.fromJsonStrict, bind_eq_ok, mapError_eq_ok, asObject_eq_ok]
  constructor
  · rintro ⟨_, hsize, value, hvalue, members, rfl, hrest⟩
    refine ⟨validateProviderSize_eq_ok.1 hsize, members, hvalue, ?_⟩
    cases hfields : unsupportedTopLevelFields members with
    | cons field rest =>
      rw [hfields] at hrest
      cases hrest
    | nil =>
      simp only [hfields, bind_eq_ok, mapError_eq_ok, pure_eq_ok] at hrest
      obtain ⟨_, hdecode, _, hvalid, rfl⟩ := hrest
      exact ⟨rfl, hdecode, hvalid⟩
  · rintro ⟨hsize, members, hvalue, hfields, hdecode, hvalid⟩
    refine ⟨(), validateProviderSize_eq_ok.2 hsize, _, hvalue, members, rfl, ?_⟩
    simp only [hfields, bind_eq_ok, mapError_eq_ok, pure_eq_ok]
    exact ⟨response, hdecode, (), hvalid, rfl⟩

/-- When decoding with isolation succeeds. -/
theorem decodeStructuredWithIsolation_eq_ok {decoded : DecodedNpcResponse} :
    ProviderResponseAdapter.decodeStructuredWithIsolation serde policy raw = .ok decoded ↔
      ∃ members schema spoken, serde.fromStr raw = .ok (.object members) ∧
        decodeRequired members "schema_version" decodeSchemaVersion = .ok schema ∧
        decodeRequired members "spoken_response" decodeSpoken = .ok spoken ∧
        (isolatedResponse policy members schema spoken).validate policy = .ok () ∧
        decoded = ⟨isolatedResponse policy members schema spoken, .structuredV1,
          isolatedIssues policy members⟩ := by
  simp only [ProviderResponseAdapter.decodeStructuredWithIsolation, bind_eq_ok, mapError_eq_ok,
    asObject_eq_ok, pure_eq_ok]
  constructor
  · rintro ⟨_, hvalue, members, rfl, schema, hschema, spoken, hspoken, _, -, _, hvalid, rfl⟩
    exact ⟨members, schema, spoken, hvalue, hschema, hspoken, hvalid, rfl⟩
  · rintro ⟨members, schema, spoken, hvalue, hschema, hspoken, hvalid, rfl⟩
    have hcheck := (NpcResponseEnvelopeV1.validate_eq_ok.1 hvalid).1
    exact ⟨_, hvalue, members, rfl, schema, hschema, spoken, hspoken, (), hcheck, (), hvalid, rfl⟩

/-- A text of JSON shape is decoded with isolation. -/
theorem decode_structured {serde : SerdeJson} {raw : Text}
    (hsize : utf8Len raw ≤ maxProviderResponseBytes) (hbrace : (trim raw).head? = some '{') :
    ProviderResponseAdapter.decode serde policy raw =
      ProviderResponseAdapter.decodeStructuredWithIsolation serde policy (trim raw) := by
  have hne : trim raw ≠ [] := by
    rintro hnil
    rw [hnil] at hbrace
    cases hbrace
  simp only [ProviderResponseAdapter.decode, validateProviderSize_eq_ok.2 hsize, bind, Except.bind]
  rw [if_neg hne, if_pos (.inl hbrace)]

end Agreement

/-- **Lenient and strict decoding agree**: a text of an object is decoded without an issue exactly
when the whole envelope is decoded, and to the same response. -/
theorem decode_clean_iff_strict (serde : SerdeJson) (policy : ResponseValidationPolicy) {raw : Text}
    (hsize : utf8Len raw ≤ maxProviderResponseBytes) (hbrace : (trim raw).head? = some '{')
    (response : NpcResponseEnvelopeV1) :
    (∃ decoded, ProviderResponseAdapter.decode serde policy raw = .ok decoded ∧
      decoded.issues = [] ∧ decoded.response = response) ↔
      NpcResponseEnvelopeV1.fromJsonStrict serde (trim raw) policy = .ok response := by
  rw [decode_structured hsize hbrace, fromJsonStrict_eq_ok]
  simp only [decodeStructuredWithIsolation_eq_ok]
  constructor
  · rintro ⟨_, ⟨members, schema, spoken, hvalue, hschema, hspoken, hvalid, rfl⟩, hissues, rfl⟩
    refine ⟨(utf8Len_trim_le raw).trans hsize, members, hvalue, ?_⟩
    exact isolated_iff_strict.1 ⟨⟨hschema, hspoken, rfl, hissues⟩, hvalid⟩
  · rintro ⟨-, members, hvalue, hstrict⟩
    obtain ⟨⟨hschema, hspoken, hresponse, hissues⟩, hvalid⟩ := isolated_iff_strict.2 hstrict
    refine ⟨_, ⟨members, _, _, hvalue, hschema, hspoken, ?_, rfl⟩, hissues, hresponse⟩
    rw [hresponse]
    exact hvalid

/-! ## A parser of known texts -/

namespace Sample

/-- A parser that knows the given texts and their values. A text that starts a known one is cut
short. -/
def parser (known : List (Text × Value)) : SerdeJson :=
  let fromStr (t : Text) : Except Json.Error Value :=
    match known.lookup t with
    | some value => .ok value
    | none => .error (.malformed "expected value")
  let next (t : Text) : Option (Except Json.Error (Value × Nat)) :=
    match known.find? fun entry => entry.1.isPrefixOf t with
    | some entry => some (.ok (entry.2, entry.1.length))
    | none =>
      if t = [] then none
      else if known.any fun entry => t.isPrefixOf entry.1 then
        some (.error (.eof "EOF while parsing a value"))
      else some (.error (.malformed "expected value"))
  { fromStr
    schemaFromStr := fun t => do decodeSchemaVersion (← fromStr t)
    spokenFromStr := fun t => do decodeSpoken (← fromStr t)
    next
    nextString := fun t => (next t).map fun item => do
      let (value, length) ← item
      return (← Decode.string value, length) }

/-- A member as it is written without spaces. -/
def member (key : String) (value : Text) : Text := '"' :: key.toList ++ '"' :: ':' :: value

def quoted (s : String) : Text := '"' :: s.toList ++ ['"']

def schemaMember : Text := member "schema_version" (quoted npcResponseSchemaV1)

def spokenObject : Text := '{' :: member "text" (quoted "Well met, traveller.") ++ ['}']

/-- An envelope of the two required fields. -/
def envelope : Text :=
  '{' :: schemaMember ++ ',' :: member "spoken_response" spokenObject ++ ['}']

def spokenValue : Value := .object [("text".toList, .string "Well met, traveller.".toList)]

def envelopeValue : Value :=
  .object [("schema_version".toList, .string npcResponseSchemaV1.toList),
    ("spoken_response".toList, spokenValue)]

def known : List (Text × Value) :=
  [(envelope, envelopeValue), (spokenObject, spokenValue),
    (quoted "schema_version", .string "schema_version".toList),
    (quoted "spoken_response", .string "spoken_response".toList),
    (quoted npcResponseSchemaV1, .string npcResponseSchemaV1.toList)]

end Sample

theorem decode_clean_iff_strict_sample :
    utf8Len (Sample.envelope ++ ['\n']) ≤ maxProviderResponseBytes ∧
      (trim (Sample.envelope ++ ['\n'])).head? = some '{' ∧
      NpcResponseEnvelopeV1.fromJsonStrict (Sample.parser Sample.known)
          (trim (Sample.envelope ++ ['\n'])) {} =
        .ok (NpcResponseEnvelopeV1.plainText "Well met, traveller.".toList) :=
  ⟨by decide +kernel, by decide +kernel,
    (decode_clean_iff_strict (Sample.parser Sample.known) {} (by decide +kernel)
      (by decide +kernel) _).1
      ⟨⟨.plainText "Well met, traveller.".toList, .structuredV1, []⟩, by decide +kernel, rfl, rfl⟩⟩

end NpcRuntime.Response
