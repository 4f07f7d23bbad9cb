import NpcRuntime.Lib.Json

/-!
# The response envelope and its checks

The types of `runtime-core/src/structured_response.rs` that a provider's answer is decoded into,
the policy it is checked against, and `NpcResponseEnvelopeV1::validate`, which checks the spoken
lane and every optional lane in turn.
-/

namespace NpcRuntime.Response

open Text Json

def npcResponseSchemaV1 : String := "npc_response.v1"
def maxProviderResponseBytes : Nat := 65536
def maxSpokenResponseBytes : Nat := 16384

/-- The fields an envelope may have, in declaration order. -/
def topLevelFields : List String :=
  ["schema_version", "spoken_response", "emotion", "voice_style", "animation_cues",
    "memory_proposals", "interruption_behavior", "actions"]

/-! ## The envelope -/

inductive NpcResponseSchemaVersion where
  | v1
deriving DecidableEq

structure SpokenResponseV1 where
  text : Text
deriving DecidableEq

inductive EmotionKindV1 where
  | neutral | joy | sadness | anger | fear | surprise | disgust | contempt | concern | amusement
deriving DecidableEq

structure EmotionStateV1 where
  kind : EmotionKindV1
  valence : F32
  arousal : F32
  intensity : F32
deriving DecidableEq

inductive VoiceStyleKindV1 where
  | neutral | warm | tense | somber | excited | whisper | shout
deriving DecidableEq

/-- The defaults are those of `VoiceStyleV1::default`. -/
structure VoiceStyleV1 where
  kind : VoiceStyleKindV1 := .neutral
  speakingRate : F32 := .finite 1
  pitchSemitones : F32 := .finite 0
  energy : F32 := .finite 1
deriving DecidableEq

inductive AnimationCueKindV1 where
  | nod | shakeHead | lookAtPlayer | lookAway | gestureOpen | gesturePoint | idleShift
  | visemeStream
deriving DecidableEq

structure AnimationCueV1 where
  kind : AnimationCueKindV1
  startOffsetMs : Nat
  durationMs : Nat
  intensity : F32
deriving DecidableEq

inductive MemoryProposalKindV1 where
  | episodic | fact | preference | questState
deriving DecidableEq

structure MemoryProposalV1 where
  kind : MemoryProposalKindV1
  content : Text
  importance : F32
  evidenceTurnIds : List Text
  expiresAfterMs : Option Nat
deriving DecidableEq

inductive InterruptionBehaviorV1 where
  | bargeInAllowed | finishClause | uninterruptible
deriving DecidableEq

structure OptionalActionV1 where
  actionId : Text
  arguments : List (Text × Text)
  rationale : Text
  requiresConfirmation : Bool
deriving DecidableEq

structure NpcResponseEnvelopeV1 where
  schemaVersion : NpcResponseSchemaVersion := .v1
  spokenResponse : SpokenResponseV1
  emotion : Option EmotionStateV1 := none
  voiceStyle : VoiceStyleV1 := {}
  animationCues : List AnimationCueV1 := []
  memoryProposals : List MemoryProposalV1 := []
  interruptionBehavior : InterruptionBehaviorV1 := .bargeInAllowed
  actions : List OptionalActionV1 := []
deriving DecidableEq

/-- `NpcResponseEnvelopeV1::plain_text`: the text, and every other lane neutral. -/
def NpcResponseEnvelopeV1.plainText (text : Text) : NpcResponseEnvelopeV1 :=
  { spokenResponse := ⟨text⟩ }

/-! ## The policy -/

structure ResponseValidationPolicy where
  maxSpokenResponseBytes : Nat := Response.maxSpokenResponseBytes
  maxAnimationCues : Nat := 32
  maxAnimationDurationMs : Nat := 60000
  maxMemoryProposals : Nat := 16
  maxMemoryTextBytes : Nat := 2000
  maxEvidenceTurnIds : Nat := 32
  maxActions : Nat := 8
  maxActionArguments : Nat := 16
  maxActionValueBytes : Nat := 1000
  maxActionRationaleBytes : Nat := 1000
  allowUninterruptible : Bool := false
  allowedAnimationCues : List AnimationCueKindV1 :=
    [.nod, .shakeHead, .lookAtPlayer, .lookAway, .gestureOpen, .gesturePoint, .idleShift,
      .visemeStream]
  allowedActionIds : List Text := []

/-- What `MalformedProviderOutput` carries: a text of its own, or the error of the decoder, with the
field it was found at where one is named. -/
inductive Malformed where
  | message (text : String)
  | duplicateField (field : Text)
  | json (error : Json.Error)
  | field (name : String) (error : Json.Error)
deriving DecidableEq

inductive ResponseValidationError where
  | providerOutputTooLarge (maximum : Nat)
  | expectedObject
  | malformedProviderOutput (reason : Malformed)
  | unsupportedField (field : Text)
  | emptyText (field : String)
  | textTooLarge (field : String)
  | invalidText (field : String)
  | outOfRange (field : String)
  | tooMany (field : String)
  | unsupportedAnimation (kind : AnimationCueKindV1)
  | unsupportedAction (actionId : Text)
  | uninterruptibleDisabled
deriving DecidableEq

/-! ## Checks -/

/-- A check passes or names the field that fails it. -/
abbrev Check := Except ResponseValidationError Unit

def Check.require (condition : Bool) (error : ResponseValidationError) : Check :=
  if condition then .ok () else .error error

def validateProviderSize (raw : Text) : Check :=
  .require (decide (utf8Len raw ≤ maxProviderResponseBytes))
    (.providerOutputTooLarge maxProviderResponseBytes)

/-- A control character other than the three line and tab characters. -/
def isDisallowedControl (ch : Char) : Bool :=
  isControl ch && !(ch == '\n' || ch == '\r' || ch == '\t')

def validateText (text : Text) (maximumBytes : Nat) (field : String) : Check := do
  Check.require (!isBlank text) (.emptyText field)
  Check.require (decide (utf8Len text ≤ maximumBytes)) (.textTooLarge field)
  Check.require (!text.any isDisallowedControl) (.invalidText field)

def finiteRange (value : F32) (minimum maximum : ℚ) (field : String) : Check :=
  match value with
  | .finite q => .require (decide (minimum ≤ q) && decide (q ≤ maximum)) (.outOfRange field)
  | .notFinite => .error (.outOfRange field)

def boundedCount (actual maximum : Nat) (field : String) : Check :=
  .require (decide (actual ≤ maximum)) (.tooMany field)

section Lanes

variable (policy : ResponseValidationPolicy)

def validateSpoken (spoken : SpokenResponseV1) : Check :=
  validateText spoken.text policy.maxSpokenResponseBytes "spoken response"

def validateEmotion (emotion : EmotionStateV1) : Check := do
  finiteRange emotion.valence (-1) 1 "emotion valence"
  finiteRange emotion.arousal 0 1 "emotion arousal"
  finiteRange emotion.intensity 0 1 "emotion intensity"

def validateVoiceStyle (style : VoiceStyleV1) : Check := do
  finiteRange style.speakingRate (1 / 2) 2 "voice speaking rate"
  finiteRange style.pitchSemitones (-12) 12 "voice pitch semitones"
  finiteRange style.energy 0 2 "voice energy"

def validateCue (cue : AnimationCueV1) : Check := do
  Check.require (policy.allowedAnimationCues.contains cue.kind) (.unsupportedAnimation cue.kind)
  Check.require (!(cue.durationMs == 0 || decide (policy.maxAnimationDurationMs < cue.durationMs)))
    (.outOfRange "animation duration")
  finiteRange cue.intensity 0 1 "animation intensity"

def validateAnimation (cues : List AnimationCueV1) : Check := do
  boundedCount cues.length policy.maxAnimationCues "animation cues"
  cues.forM (validateCue policy)

def validateProposal (proposal : MemoryProposalV1) : Check := do
  validateText proposal.content policy.maxMemoryTextBytes "memory content"
  finiteRange proposal.importance 0 1 "memory importance"
  boundedCount proposal.evidenceTurnIds.length policy.maxEvidenceTurnIds "memory evidence turn IDs"
  proposal.evidenceTurnIds.forM fun id => validateText id 64 "memory evidence turn ID"

def validateMemory (proposals : List MemoryProposalV1) : Check := do
  boundedCount proposals.length policy.maxMemoryProposals "memory proposals"
  proposals.forM (validateProposal policy)

def validateInterruption (behavior : InterruptionBehaviorV1) : Check :=
  .require (!(behavior == .uninterruptible && !policy.allowUninterruptible))
    .uninterruptibleDisabled

def validateAction (action : OptionalActionV1) : Check := do
  validateText action.actionId 128 "action ID"
  Check.require (policy.allowedActionIds.contains action.actionId)
    (.unsupportedAction action.actionId)
  boundedCount action.arguments.length policy.maxActionArguments "action arguments"
  action.arguments.forM fun argument => do
    validateText argument.1 64 "action argument key"
    validateText argument.2 policy.maxActionValueBytes "action argument value"
  validateText action.rationale policy.maxActionRationaleBytes "action rationale"

def validateActions (actions : List OptionalActionV1) : Check := do
  boundedCount actions.length policy.maxActions "actions"
  actions.forM (validateAction policy)

end Lanes

def NpcResponseEnvelopeV1.validate (policy : ResponseValidationPolicy)
    (response : NpcResponseEnvelopeV1) : Check := do
  validateSpoken policy response.spokenResponse
  match response.emotion with
  | some emotion => validateEmotion emotion
  | none => .ok ()
  validateVoiceStyle response.voiceStyle
  validateAnimation policy response.animationCues
  validateMemory policy response.memoryProposals
  validateInterruption policy response.interruptionBehavior
  validateActions policy response.actions

/-! ## Checks that pass -/

@[simp] theorem Check.require_eq_ok {condition : Bool} {error : ResponseValidationError} :
    Check.require condition error = .ok () ↔ condition = true := by
  by_cases h : condition = true <;> simp [Check.require, h]

/-- Two checks in a row pass when both do. -/
@[simp] theorem Check.bind_eq_ok {first : Check} {rest : Unit → Check} :
    (first >>= rest) = .ok () ↔ first = .ok () ∧ rest () = .ok () := by
  cases first <;> simp [bind, Except.bind]

/-- An envelope passes when each of its lanes does. -/
theorem NpcResponseEnvelopeV1.validate_eq_ok {policy : ResponseValidationPolicy}
    {response : NpcResponseEnvelopeV1} :
    response.validate policy = .ok () ↔
      validateSpoken policy response.spokenResponse = .ok () ∧
      (∀ emotion, response.emotion = some emotion → validateEmotion emotion = .ok ()) ∧
      validateVoiceStyle response.voiceStyle = .ok () ∧
      validateAnimation policy response.animationCues = .ok () ∧
      validateMemory policy response.memoryProposals = .ok () ∧
      validateInterruption policy response.interruptionBehavior = .ok () ∧
      validateActions policy response.actions = .ok () := by
  simp only [validate, Check.bind_eq_ok]
  cases response.emotion <;> simp

/-- The neutral value of every optional lane passes its check. -/
theorem neutral_lanes_valid (policy : ResponseValidationPolicy) :
    validateVoiceStyle {} = .ok () ∧ validateAnimation policy [] = .ok () ∧
      validateMemory policy [] = .ok () ∧ validateInterruption policy .bargeInAllowed = .ok () ∧
      validateActions policy [] = .ok () := by
  refine ⟨by decide +kernel, ?_, ?_, ?_, ?_⟩ <;>
    simp [validateAnimation, validateMemory, validateInterruption, validateActions, boundedCount]

end NpcRuntime.Response
