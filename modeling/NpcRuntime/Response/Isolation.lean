import NpcRuntime.Response.Decode

/-!
# Isolation of the optional lanes

`ProviderResponseAdapter::decode` reads every optional lane on its own: a lane of the decoded
response is a function of its own field, the spoken lane of the two required fields, and a faulty
lane gives its neutral value, which always passes. So the lanes cannot interfere
(`optional_lanes_isolated`).

The lanes still share the text they are written in. A text over the provider size limit is refused
as a whole, whatever its fields hold (`oversized_lane_refused`).
-/

namespace NpcRuntime.Response

open Text Json

/-! ## The optional fields -/

inductive OptionalField where
  | emotion
  | voiceStyle
  | animationCues
  | memoryProposals
  | interruptionBehavior
  | actions
deriving DecidableEq

/-- The field's name in the envelope. -/
def OptionalField.name : OptionalField → String
  | .emotion => "emotion"
  | .voiceStyle => "voice_style"
  | .animationCues => "animation_cues"
  | .memoryProposals => "memory_proposals"
  | .interruptionBehavior => "interruption_behavior"
  | .actions => "actions"

/-- The response with the field set to its neutral value. -/
def OptionalField.erase (response : NpcResponseEnvelopeV1) : OptionalField → NpcResponseEnvelopeV1
  | .emotion => { response with emotion := none }
  | .voiceStyle => { response with voiceStyle := {} }
  | .animationCues => { response with animationCues := [] }
  | .memoryProposals => { response with memoryProposals := [] }
  | .interruptionBehavior => { response with interruptionBehavior := .bargeInAllowed }
  | .actions => { response with actions := [] }

/-- The text is a JSON object with these members. -/
def IsObject (serde : SerdeJson) (raw : Text) (members : List (Text × Value)) : Prop :=
  (trim raw).head? = some '{' ∧ serde.fromStr (trim raw) = .ok (.object members)

/-! ## One lane -/

section Lane

variable {α : Type} {members : List (Text × Value)} {field : String} {d : Decode α}
  {validate : α → Check} {subsystem : String} {neutral : α}

/-- What an isolated lane decodes to passes its check. -/
theorem decodeIsolatedDefault_valid (hneutral : validate neutral = .ok ()) :
    validate (decodeIsolatedDefault members field subsystem neutral d validate).1 = .ok () := by
  simp only [decodeIsolatedDefault]
  cases members.lookup field.toList with
  | none => exact hneutral
  | some value =>
    cases hchecked : decodeChecked d validate value with
    | ok decoded => simpa [hchecked] using (decodeChecked_eq_ok.1 hchecked).2
    | error reason => simpa [hchecked] using hneutral

theorem decodeIsolatedOptional_valid {decoded : α}
    (h : (decodeIsolatedOptional members field subsystem d validate).1 = some decoded) :
    validate decoded = .ok () := by
  simp only [decodeIsolatedOptional] at h
  split at h
  · cases h
  · cases h
  · rename_i value _ _
    cases hchecked : decodeChecked d validate value with
    | ok checked =>
      rw [hchecked] at h
      cases h
      exact (decodeChecked_eq_ok.1 hchecked).2
    | error reason =>
      rw [hchecked] at h
      cases h

variable {members₁ members₂ : List (Text × Value)}
  (h : members₁.lookup field.toList = members₂.lookup field.toList)

include h

theorem decodeIsolatedDefault_congr :
    decodeIsolatedDefault members₁ field subsystem neutral d validate =
      decodeIsolatedDefault members₂ field subsystem neutral d validate := by
  simp only [decodeIsolatedDefault, h]

theorem decodeIsolatedOptional_congr :
    decodeIsolatedOptional members₁ field subsystem d validate =
      decodeIsolatedOptional members₂ field subsystem d validate := by
  simp only [decodeIsolatedOptional, h]

theorem decodeRequired_congr :
    decodeRequired members₁ field d = decodeRequired members₂ field d := by
  simp only [decodeRequired, h]

end Lane

section Lanes

variable {policy : ResponseValidationPolicy} {members members₁ members₂ : List (Text × Value)}
  {schema : NpcResponseSchemaVersion} {spoken : SpokenResponseV1}

/-- **Only the spoken lane can make an isolated response fail.** -/
theorem isolatedResponse_validate :
    (isolatedResponse policy members schema spoken).validate policy = .ok () ↔
      validateSpoken policy spoken = .ok () := by
  obtain ⟨hstyle, hanimation, hmemory, hinterruption, hactions⟩ := neutral_lanes_valid policy
  rw [NpcResponseEnvelopeV1.validate_eq_ok]
  refine ⟨And.left, fun hspoken => ⟨hspoken, ?_, ?_, ?_, ?_, ?_, ?_⟩⟩
  · exact fun emotion => decodeIsolatedOptional_valid
  · exact decodeIsolatedDefault_valid hstyle
  · exact decodeIsolatedDefault_valid hanimation
  · exact decodeIsolatedDefault_valid hmemory
  · exact decodeIsolatedDefault_valid hinterruption
  · exact decodeIsolatedDefault_valid hactions

/-- A lane depends on its own field only. -/
theorem isolatedResponse_erase (field : OptionalField)
    (hothers : ∀ key, key ≠ field.name.toList → members₁.lookup key = members₂.lookup key) :
    field.erase (isolatedResponse policy members₁ schema spoken) =
      field.erase (isolatedResponse policy members₂ schema spoken) := by
  have hlane : ∀ other : OptionalField, other ≠ field →
      members₁.lookup other.name.toList = members₂.lookup other.name.toList := by
    intro other hne
    apply hothers
    revert hne
    cases other <;> cases field <;> decide
  have hemotion : .emotion ≠ field → decodeEmotionLane members₁ = decodeEmotionLane members₂ :=
    fun hne => decodeIsolatedOptional_congr (hlane _ hne)
  have hstyle : .voiceStyle ≠ field →
      decodeVoiceStyleLane members₁ = decodeVoiceStyleLane members₂ :=
    fun hne => decodeIsolatedDefault_congr (hlane _ hne)
  have hanimation : .animationCues ≠ field →
      decodeAnimationLane policy members₁ = decodeAnimationLane policy members₂ :=
    fun hne => decodeIsolatedDefault_congr (hlane _ hne)
  have hmemory : .memoryProposals ≠ field →
      decodeMemoryLane policy members₁ = decodeMemoryLane policy members₂ :=
    fun hne => decodeIsolatedDefault_congr (hlane _ hne)
  have hinterruption : .interruptionBehavior ≠ field →
      decodeInterruptionLane policy members₁ = decodeInterruptionLane policy members₂ :=
    fun hne => decodeIsolatedDefault_congr (hlane _ hne)
  have hactions : .actions ≠ field →
      decodeActionsLane policy members₁ = decodeActionsLane policy members₂ :=
    fun hne => decodeIsolatedDefault_congr (hlane _ hne)
  cases field <;>
    simp only [ne_eq, reduceCtorEq, not_false_eq_true, true_implies, not_true_eq_false,
      false_implies] at hemotion hstyle hanimation hmemory hinterruption hactions <;>
    simp only [OptionalField.erase, isolatedResponse, *]

end Lanes

/-! ## Two texts -/

section TwoTexts

variable {serde : SerdeJson} {policy : ResponseValidationPolicy} {raw : Text}
  {members : List (Text × Value)}

/-- How the text of an object is decoded. -/
theorem decode_object (policy : ResponseValidationPolicy)
    (hsize : utf8Len raw ≤ maxProviderResponseBytes)
    (hobject : IsObject serde raw members) (decoded : DecodedNpcResponse) :
    ProviderResponseAdapter.decode serde policy raw = .ok decoded ↔
      ∃ schema spoken, decodeRequired members "schema_version" decodeSchemaVersion = .ok schema ∧
        decodeRequired members "spoken_response" decodeSpoken = .ok spoken ∧
        validateSpoken policy spoken = .ok () ∧
        decoded = ⟨isolatedResponse policy members schema spoken, .structuredV1,
          isolatedIssues policy members⟩ := by
  obtain ⟨hbrace, hvalue⟩ := hobject
  rw [decode_structured hsize hbrace, decodeStructuredWithIsolation_eq_ok, hvalue]
  simp only [Except.ok.injEq, Value.object.injEq, exists_and_left, exists_eq_left',
    isolatedResponse_validate]

/-- Whatever is decoded passes the check of the whole envelope. -/
theorem decode_valid {decoded : DecodedNpcResponse}
    (h : ProviderResponseAdapter.decode serde policy raw = .ok decoded) :
    decoded.response.validate policy = .ok () := by
  simp only [ProviderResponseAdapter.decode, bind_eq_ok] at h
  obtain ⟨_, -, h⟩ := h
  split_ifs at h
  · obtain ⟨members, schema, spoken, -, -, -, hvalid, rfl⟩ :=
      decodeStructuredWithIsolation_eq_ok.1 h
    exact hvalid
  · simp only [bind_eq_ok, pure_eq_ok] at h
    obtain ⟨_, hvalid, rfl⟩ := h
    exact hvalid

end TwoTexts

/-- **The optional lanes interfere neither with speech nor with each other.** Whatever is decoded
passes the check of the whole envelope. Two objects with the same required fields, each written in
a text of at most the provider size, are both refused, or both decoded with the same spoken text;
and when they differ in one optional field only, so do the responses. -/
theorem optional_lanes_isolated (serde : SerdeJson) (policy : ResponseValidationPolicy) :
    (∀ raw decoded, ProviderResponseAdapter.decode serde policy raw = .ok decoded →
      decoded.response.validate policy = .ok ()) ∧
    ∀ raw₁ raw₂ members₁ members₂, utf8Len raw₁ ≤ maxProviderResponseBytes →
      utf8Len raw₂ ≤ maxProviderResponseBytes →
      IsObject serde raw₁ members₁ → IsObject serde raw₂ members₂ →
      members₁.lookup "schema_version".toList = members₂.lookup "schema_version".toList →
      members₁.lookup "spoken_response".toList = members₂.lookup "spoken_response".toList →
      ((∃ error, ProviderResponseAdapter.decode serde policy raw₁ = .error error) ∧
        ∃ error, ProviderResponseAdapter.decode serde policy raw₂ = .error error) ∨
      ∃ decoded₁ decoded₂, ProviderResponseAdapter.decode serde policy raw₁ = .ok decoded₁ ∧
        ProviderResponseAdapter.decode serde policy raw₂ = .ok decoded₂ ∧
        decoded₁.response.spokenResponse.text = decoded₂.response.spokenResponse.text ∧
        ∀ field : OptionalField,
          (∀ key, key ≠ field.name.toList → members₁.lookup key = members₂.lookup key) →
          field.erase decoded₁.response = field.erase decoded₂.response := by
  refine ⟨fun raw decoded => decode_valid, ?_⟩
  intro raw₁ raw₂ members₁ members₂ hsize₁ hsize₂ hobject₁ hobject₂ hschema hspoken
  have hdecode₁ := decode_object policy hsize₁ hobject₁
  have hdecode₂ := decode_object policy hsize₂ hobject₂
  rw [decodeRequired_congr hschema, decodeRequired_congr hspoken] at hdecode₁
  cases hresult : ProviderResponseAdapter.decode serde policy raw₁ with
  | error error =>
    refine .inl ⟨⟨error, rfl⟩, ?_⟩
    cases hresult₂ : ProviderResponseAdapter.decode serde policy raw₂ with
    | error error => exact ⟨error, rfl⟩
    | ok decoded =>
      obtain ⟨schema, spoken, h₁, h₂, h₃, -⟩ := (hdecode₂ decoded).1 hresult₂
      rw [(hdecode₁ _).2 ⟨schema, spoken, h₁, h₂, h₃, rfl⟩] at hresult
      cases hresult
  | ok decoded =>
    obtain ⟨schema, spoken, h₁, h₂, h₃, rfl⟩ := (hdecode₁ decoded).1 hresult
    refine .inr ⟨_, _, rfl, (hdecode₂ _).2 ⟨schema, spoken, h₁, h₂, h₃, rfl⟩, rfl, ?_⟩
    intro field hothers
    exact isolatedResponse_erase field hothers

namespace Sample

/-- The envelope again, with a faulty emotion. -/
def faulty : Text :=
  '{' :: schemaMember ++ ',' :: member "spoken_response" spokenObject ++
    ',' :: member "emotion" (quoted "furious") ++ ['}']

/-- The fields of the envelope again, with an emotion of the provider size. -/
def oversizedFields : Text :=
  schemaMember ++ ',' :: member "spoken_response" spokenObject ++
    ',' :: member "emotion" ('"' :: List.replicate maxProviderResponseBytes 'x' ++ ['"'])

def oversized : Text := '{' :: (oversizedFields ++ ['}'])

/-- The members of the envelope, with an emotion. -/
def membersWith (emotion : Text) : List (Text × Value) :=
  [("schema_version".toList, .string npcResponseSchemaV1.toList),
    ("spoken_response".toList, spokenValue), ("emotion".toList, .string emotion)]

def members : List (Text × Value) :=
  [("schema_version".toList, .string npcResponseSchemaV1.toList),
    ("spoken_response".toList, spokenValue)]

def oversizedMembers : List (Text × Value) :=
  membersWith (List.replicate maxProviderResponseBytes 'x')

def lanesParser : SerdeJson :=
  parser ((oversized, .object oversizedMembers) ::
    (faulty, .object (membersWith "furious".toList)) :: known)

theorem parser_fromStr_first (t : Text) (value : Value) (rest : List (Text × Value)) :
    (parser ((t, value) :: rest)).fromStr t = .ok value := by
  simp [parser]

theorem isObject_oversized : IsObject lanesParser oversized oversizedMembers := by
  have htrim : trim oversized = oversized :=
    Trimmed.trim_eq ⟨⟨'{', oversizedFields ++ ['}'], rfl, by decide⟩,
      '}', '{' :: oversizedFields, (List.cons_append ..).symm, by decide⟩
  rw [IsObject, htrim, lanesParser, parser_fromStr_first]
  exact ⟨List.head?_cons, rfl⟩

theorem oversized_length : maxProviderResponseBytes < utf8Len oversized := by
  have hbrace := Char.utf8Size_pos '{'
  have hsize : 'x'.utf8Size = 1 := rfl
  simp only [oversized, oversizedFields, utf8Len_append, utf8Len_cons, member, utf8Len_replicate,
    hsize, Nat.mul_one]
  omega

end Sample

theorem optional_lanes_isolated_faulty :
    ∃ decoded₁ decoded₂,
      ProviderResponseAdapter.decode Sample.lanesParser {} Sample.envelope = .ok decoded₁ ∧
      ProviderResponseAdapter.decode Sample.lanesParser {} Sample.faulty = .ok decoded₂ ∧
      decoded₁.response.spokenResponse.text = decoded₂.response.spokenResponse.text := by
  have hdecoded : ¬ ∃ error,
      ProviderResponseAdapter.decode Sample.lanesParser {} Sample.envelope = .error error := by
    have hok : (ProviderResponseAdapter.decode Sample.lanesParser {}
      Sample.envelope).isOk = true := by decide +kernel
    rintro ⟨error, herror⟩
    rw [herror] at hok
    cases hok
  obtain ⟨hfails, -⟩ | ⟨decoded₁, decoded₂, h₁, h₂, htext, -⟩ :=
    (optional_lanes_isolated Sample.lanesParser {}).2 Sample.envelope Sample.faulty Sample.members
      (Sample.membersWith "furious".toList) (by decide +kernel) (by decide +kernel)
      ⟨by decide +kernel, by rfl⟩ ⟨by decide +kernel, by rfl⟩ rfl rfl
  · exact absurd hfails hdecoded
  · exact ⟨decoded₁, decoded₂, h₁, h₂, htext⟩

/-- Two objects with the same required fields, of which one is decoded and the other is refused for
the length of its emotion. -/
theorem oversized_lane_refused :
    IsObject Sample.lanesParser Sample.envelope Sample.members ∧
      IsObject Sample.lanesParser Sample.oversized Sample.oversizedMembers ∧
      Sample.members.lookup "schema_version".toList =
        Sample.oversizedMembers.lookup "schema_version".toList ∧
      Sample.members.lookup "spoken_response".toList =
        Sample.oversizedMembers.lookup "spoken_response".toList ∧
      (ProviderResponseAdapter.decode Sample.lanesParser {} Sample.envelope).isOk = true ∧
      ProviderResponseAdapter.decode Sample.lanesParser {} Sample.oversized =
        .error (.providerOutputTooLarge maxProviderResponseBytes) := by
  refine ⟨⟨by decide +kernel, rfl⟩, Sample.isObject_oversized, rfl, rfl, by decide +kernel, ?_⟩
  have hsize := Sample.oversized_length
  simp only [ProviderResponseAdapter.decode, validateProviderSize, Check.require,
    decide_eq_false (Nat.not_le.2 hsize)]
  rfl

end NpcRuntime.Response
