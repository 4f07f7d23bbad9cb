import NpcRuntime.Response.Streaming
import NpcRuntime.Response.SpeechFirst

/-!
# What was released is not contradicted

A speech-first session compares what it has released with what every later scan reports, and with
the strict response at its end. Neither comparison ever fails: an active session has opened its gate
for what it released (`Gated`), which every call keeps, and a later scan reports the same text
(`Opened.spoken_text`). So no call returns the error of a contradicted release (`perform_ne`).
-/

namespace NpcRuntime.Response

open Text Json Sentence StreamingResponseAdapterV1

variable {serde : SerdeJson}

/-- The error that a session returns when what it released is contradicted. -/
def changedAfterRelease : StreamingResponseError :=
  .invalidResponse (scanFault "speech-first spoken response changed after release")

/-! ## The gate -/

/-- What was released is the spoken response of the scan of a prefix of the buffer, and passed its
check. -/
def Opened (serde : SerdeJson) (a : StreamingResponseAdapterV1) (text : Text) : Prop :=
  ∃ before after complete, a.providerBuffer = before ++ after ∧
    scanSpeechFirstEnvelope serde before = .ok ⟨some ⟨text⟩, complete⟩ ∧
    validateSpoken a.policy ⟨text⟩ = .ok ()

/-- An active speech-first session has opened its gate for what it released. -/
def Gated (serde : SerdeJson) (a : StreamingResponseAdapterV1) : Prop :=
  a.state = .active → a.format = .structuredSpeechFirstV1 →
    ∀ text, a.speechFirstSpokenText = some text → Opened serde a text

theorem Opened.push {a : StreamingResponseAdapterV1} {text : Text} (h : Opened serde a text)
    (sequence : Nat) (delta : Text) :
    Opened serde { a with
      lastSequence := some sequence, providerBuffer := a.providerBuffer ++ delta } text := by
  obtain ⟨before, after, complete, hbuffer, hscan, hvalid⟩ := h
  refine ⟨before, after ++ delta, complete, ?_, hscan, hvalid⟩
  simp only [hbuffer, List.append_assoc]

/-- Every call keeps the gate. -/
theorem perform_gated {a a' : StreamingResponseAdapterV1} {call : StreamingCall}
    {result : Except StreamingResponseError (List SentenceSpan)} (h : Gated serde a)
    (hcall : a.perform serde call = .ok (result, a')) : Gated serde a' := by
  cases call with
  | pushDelta observed sequence delta =>
    simp only [perform, pushDelta] at hcall
    cases hcheck : a.checkDelta observed sequence delta with
    | error error =>
      rw [hcheck] at hcall
      cases hcall
      exact h
    | ok _ =>
      rw [hcheck] at hcall
      cases hformat : a.format with
      | structuredV1 =>
        simp only [hformat] at hcall
        cases hcall
        intro _ hspeech
        cases hspeech
      | structuredSpeechFirstV1 =>
        simp only [hformat] at hcall
        intro hactive _ text htext
        have hbefore := h (checkDelta_active hcheck).2 hformat
        rcases pushSpeechFirst_cases hcall with rfl |
          ⟨-, spoken, complete, sentences, hscan, hvalid, -, rfl⟩
        · exact (hbefore text htext).push sequence delta
        · cases htext
          exact ⟨_, [], complete, (List.append_nil _).symm, hscan, hvalid⟩
      | legacyPlainText =>
        simp only [hformat, pushLegacy] at hcall
        split at hcall
        · cases hcall
        · obtain ⟨_, -, hpair⟩ := bind_eq_ok.1 hcall
          cases hpair
          intro _ hspeech
          cases hspeech
  | finish observed =>
    simp only [perform, bind_eq_ok, pure_eq_ok] at hcall
    obtain ⟨⟨reply, after⟩, hfinish, hcall⟩ := hcall
    cases hcall
    cases reply with
    | error error =>
      rw [finish_refused hfinish]
      exact h
    | ok fin =>
      intro hactive
      rw [finish_closes hfinish] at hactive
      cases hactive
  | cancel observed =>
    simp only [perform, cancel] at hcall
    repeat' split at hcall
    all_goals cases hcall
    · exact h
    · intro hactive
      cases hactive
    · exact h
    · exact h

theorem run_gated {a a' : StreamingResponseAdapterV1} {calls : List StreamingCall}
    {released : List SentenceSpan} (h : Gated serde a)
    (hrun : a.run serde calls = .ok (released, a')) : Gated serde a' := by
  induction calls generalizing a released with
  | nil =>
    cases hrun
    exact h
  | cons call calls ih =>
    simp only [run, bind_eq_ok, pure_eq_ok] at hrun
    obtain ⟨⟨result, next⟩, hcall, ⟨rest, last⟩, hrest, hpair⟩ := hrun
    cases hpair
    exact ih (perform_gated h hcall) hrest

/-- What was released is what every later scan reports. -/
theorem Opened.spoken_text (hserde : serde.Lawful) {a : StreamingResponseAdapterV1}
    {text raw : Text} (h : Opened serde a text) (hlater : a.providerBuffer <+: raw)
    {spoken : SpokenResponseV1} {complete : Bool}
    (hscan : scanSpeechFirstEnvelope serde raw = .ok ⟨some spoken, complete⟩) :
    spoken.text = text := by
  obtain ⟨before, after, complete', hbuffer, hopened, -⟩ := h
  obtain ⟨more, rfl⟩ := hlater
  rw [hbuffer, List.append_assoc] at hscan
  rw [← scan_spoken_stable hserde hopened hscan]

/-! ## Errors that are not returned -/

/-- The call does not fail with the error of a contradicted release. -/
def Consistent {α : Type} (result : Except ResponseValidationError α) : Prop :=
  result ≠ .error (scanFault "speech-first spoken response changed after release")

section Consistent

variable {α β : Type}

theorem Consistent.ok (value : α) : Consistent (.ok value) := by simp [Consistent]

theorem Consistent.bind {first : Except ResponseValidationError α}
    {rest : α → Except ResponseValidationError β} (hfirst : Consistent first)
    (hrest : ∀ value, Consistent (rest value)) : Consistent (first >>= rest) := by
  cases first with
  | error error =>
    intro herror
    cases herror
    exact hfirst rfl
  | ok value => exact hrest value

theorem Consistent.mapError (result : Except Json.Error α) :
    Consistent (result.mapError malformed) := by
  cases result <;> simp [Consistent, Except.mapError, malformed, scanFault]

theorem Consistent.forM {check : α → Check} (h : ∀ value, Consistent (check value))
    (values : List α) : Consistent (values.forM check) := by
  induction values with
  | nil => exact .ok ()
  | cons value values ih =>
    exact Consistent.bind (h value) fun _ => ih

theorem Consistent.require {condition : Bool} {error : ResponseValidationError}
    (h : error ≠ scanFault "speech-first spoken response changed after release") :
    Consistent (Check.require condition error) := by
  cases condition <;> simp [Consistent, Check.require, h]

theorem validateText_consistent (text : Text) (maximum : Nat) (field : String) :
    Consistent (validateText text maximum field) :=
  (Consistent.require (by simp [scanFault])).bind fun _ =>
    (Consistent.require (by simp [scanFault])).bind fun _ => .require (by simp [scanFault])

theorem finiteRange_consistent (value : F32) (minimum maximum : ℚ) (field : String) :
    Consistent (finiteRange value minimum maximum field) := by
  cases value with
  | finite q => exact .require (by simp [scanFault])
  | notFinite => simp [Consistent, finiteRange, scanFault]

theorem boundedCount_consistent (actual maximum : Nat) (field : String) :
    Consistent (boundedCount actual maximum field) := .require (by simp [scanFault])

theorem validateEmotion_consistent (emotion : EmotionStateV1) :
    Consistent (validateEmotion emotion) :=
  (finiteRange_consistent _ _ _ _).bind fun _ =>
    (finiteRange_consistent _ _ _ _).bind fun _ => finiteRange_consistent _ _ _ _

theorem validateVoiceStyle_consistent (style : VoiceStyleV1) :
    Consistent (validateVoiceStyle style) :=
  (finiteRange_consistent _ _ _ _).bind fun _ =>
    (finiteRange_consistent _ _ _ _).bind fun _ => finiteRange_consistent _ _ _ _

theorem validateAnimation_consistent (policy : ResponseValidationPolicy)
    (cues : List AnimationCueV1) : Consistent (validateAnimation policy cues) := by
  refine (boundedCount_consistent _ _ _).bind fun _ => .forM (fun cue => ?_) _
  exact (Consistent.require (by simp [scanFault])).bind fun _ =>
    (Consistent.require (by simp [scanFault])).bind fun _ => finiteRange_consistent _ _ _ _

theorem validateMemory_consistent (policy : ResponseValidationPolicy)
    (proposals : List MemoryProposalV1) : Consistent (validateMemory policy proposals) := by
  refine (boundedCount_consistent _ _ _).bind fun _ => .forM (fun proposal => ?_) _
  refine (validateText_consistent _ _ _).bind fun _ => ?_
  refine (finiteRange_consistent _ _ _ _).bind fun _ => ?_
  refine (boundedCount_consistent _ _ _).bind fun _ => ?_
  exact .forM (fun id => validateText_consistent _ _ _) _

theorem validateActions_consistent (policy : ResponseValidationPolicy)
    (actions : List OptionalActionV1) : Consistent (validateActions policy actions) := by
  refine (boundedCount_consistent _ _ _).bind fun _ => .forM (fun action => ?_) _
  refine (validateText_consistent _ _ _).bind fun _ => ?_
  refine (Consistent.require (by simp [scanFault])).bind fun _ => ?_
  refine (boundedCount_consistent _ _ _).bind fun _ => ?_
  refine (Consistent.forM (fun argument => ?_) _).bind fun _ => validateText_consistent _ _ _
  exact (validateText_consistent _ _ _).bind fun _ => validateText_consistent _ _ _

theorem validate_consistent (policy : ResponseValidationPolicy) (response : NpcResponseEnvelopeV1) :
    Consistent (response.validate policy) := by
  have hoptional : Consistent (do
      validateVoiceStyle response.voiceStyle
      validateAnimation policy response.animationCues
      validateMemory policy response.memoryProposals
      validateInterruption policy response.interruptionBehavior
      validateActions policy response.actions) := by
    refine (validateVoiceStyle_consistent _).bind fun _ => ?_
    refine (validateAnimation_consistent _ _).bind fun _ => ?_
    refine (validateMemory_consistent _ _).bind fun _ => ?_
    refine (Consistent.require (by simp [scanFault])).bind fun _ => ?_
    exact validateActions_consistent _ _
  refine (validateText_consistent _ _ _).bind fun _ => ?_
  cases response.emotion with
  | none => exact hoptional
  | some emotion => exact (validateEmotion_consistent emotion).bind fun _ => hoptional

theorem fromJsonStrict_consistent (serde : SerdeJson) (raw : Text)
    (policy : ResponseValidationPolicy) :
    Consistent (NpcResponseEnvelopeV1.fromJsonStrict serde raw policy) := by
  refine (Consistent.require (by simp [scanFault])).bind fun _ => ?_
  refine (Consistent.mapError _).bind fun value => ?_
  refine Consistent.bind ?_ fun members => ?_
  · cases value <;> simp [Consistent, asObject, scanFault]
  · split
    · simp [Consistent, scanFault]
    · refine (Consistent.mapError _).bind fun response => ?_
      exact (validate_consistent policy response).bind fun _ => .ok response

theorem parseComplete_consistent (next : Text → Option (Except Json.Error (α × Nat)))
    (rest : Text) : Consistent (parseCompleteJsonValue next rest) := by
  unfold parseCompleteJsonValue
  split
  · exact .ok _
  · split
    · exact .ok _
    · split
      · exact .ok _
      · simp [Consistent, malformed, scanFault]
    · exact .ok _

theorem scanDelimiter_consistent (s : ScanState) : Consistent (scanDelimiter s) := by
  unfold scanDelimiter
  split
  · exact .ok _
  · split_ifs <;> simp [Consistent, scanFault]

theorem acceptField_consistent (serde : SerdeJson) (field valueRaw : Text) (gate : SpeechGate) :
    Consistent (acceptField serde field valueRaw gate) := by
  unfold acceptField
  split_ifs
  · refine (Consistent.mapError _).bind fun schema => ?_
    split_ifs <;> simp [Consistent, scanFault]
  · exact (Consistent.mapError _).bind fun spoken => .ok _
  · exact .ok _

theorem scanField_consistent (serde : SerdeJson) (field : Text) (s : ScanState) :
    Consistent (scanField serde field s) := by
  unfold scanField
  split
  · exact .ok _
  · split_ifs
    · simp [Consistent, scanFault]
    · simp [Consistent, scanFault]
    · simp [Consistent, scanFault]
    · refine (parseComplete_consistent _ _).bind fun item => ?_
      cases item with
      | none => exact .ok _
      | some item =>
        exact (acceptField_consistent _ _ _ _).bind fun gate => scanDelimiter_consistent _

theorem scanRound_consistent (serde : SerdeJson) (s : ScanState) :
    Consistent (scanRound serde s) := by
  unfold scanRound
  split
  · exact .ok _
  · split_ifs
    · simp only [scanClose]
      split_ifs <;> simp [Consistent, scanFault, Except.map]
    · refine (parseComplete_consistent _ _).bind fun item => ?_
      cases item with
      | none => exact .ok _
      | some item => exact scanField_consistent _ _ _

theorem scan_consistent (serde : SerdeJson) (raw : Text) :
    Consistent (scanSpeechFirstEnvelope serde raw) := by
  unfold scanSpeechFirstEnvelope
  split
  · exact .ok _
  · rename_i rest _
    split_ifs
    · simp [Consistent, scanFault]
    · generalize rest.length + 1 = fuel
      generalize ({ rest } : ScanState) = s
      induction fuel generalizing s with
      | zero => exact .ok _
      | succ fuel ih =>
        refine (scanRound_consistent serde s).bind fun round => ?_
        cases round with
        | done scan => exact .ok scan
        | again next => exact ih next

end Consistent

/-! ## A release is not contradicted -/

section Release

variable {a a' : StreamingResponseAdapterV1} {error : StreamingResponseError}

theorem Consistent.ne {α : Type} {fault : ResponseValidationError}
    (h : Consistent (.error fault : Except ResponseValidationError α)) :
    StreamingResponseError.invalidResponse fault ≠ changedAfterRelease := by
  rintro heq
  cases heq
  exact h rfl

theorem requireActiveGeneration_ne {observed : Nat}
    (h : a.requireActiveGeneration observed = .error error) : error ≠ changedAfterRelease := by
  simp only [requireActiveGeneration, requireGeneration] at h
  split_ifs at h <;> cases h <;> simp [changedAfterRelease]

theorem checkDelta_ne {observed sequence : Nat} {delta : Text}
    (h : a.checkDelta observed sequence delta = .error error) : error ≠ changedAfterRelease := by
  simp only [checkDelta] at h
  cases hactive : a.requireActiveGeneration observed with
  | error refused =>
    rw [hactive] at h
    cases h
    exact requireActiveGeneration_ne hactive
  | ok _ =>
    rw [hactive] at h
    simp only [bind, Except.bind] at h
    split at h
    · rename_i refused hadvance
      cases h
      simp only [requireAdvance] at hadvance
      split at hadvance
      · split_ifs at hadvance
        cases hadvance
        simp [changedAfterRelease]
      · cases hadvance
    · simp only [requireRoom] at h
      split_ifs at h <;> cases h <;> simp [changedAfterRelease, scanFault]

/-- A push never finds that the spoken response changed. -/
theorem pushSpeechFirst_ne (hserde : serde.Lawful)
    (hopened : ∀ text, a.speechFirstSpokenText = some text → Opened serde a text)
    (h : a.pushSpeechFirst serde = .ok (.error error, a')) : error ≠ changedAfterRelease := by
  simp only [pushSpeechFirst, refuse] at h
  split at h
  · rename_i fault hscan
    cases h
    have hconsistent := scan_consistent serde a.providerBuffer
    rw [hscan] at hconsistent
    exact hconsistent.ne
  · cases h
  · rename_i spoken complete hscan
    split at h
    · rename_i fault hvalid
      cases h
      have hconsistent := validateText_consistent spoken.text a.policy.maxSpokenResponseBytes
        "spoken response"
      rw [validateSpoken] at hvalid
      rw [hvalid] at hconsistent
      exact hconsistent.ne
    · split at h
      · rename_i text htext
        have hsame := (hopened text htext).spoken_text hserde List.prefix_rfl hscan
        rw [if_neg (by simp [hsame])] at h
        cases h
      · obtain ⟨sentences, -, hpair⟩ := bind_eq_ok.1 h
        cases hpair

/-- Neither does the end of the session. -/
theorem finishSpeechFirst_ne (hserde : serde.Lawful)
    (hopened : ∀ text, a.speechFirstSpokenText = some text → Opened serde a text)
    (h : a.finishSpeechFirst serde = .ok (.error error, a')) : error ≠ changedAfterRelease := by
  simp only [finishSpeechFirst, refuse] at h
  split at h
  · rename_i fault hscan
    cases h
    have hconsistent := scan_consistent serde a.providerBuffer
    rw [hscan] at hconsistent
    exact hconsistent.ne
  · rename_i scan hscan
    split_ifs at h with hincomplete
    · cases h
      simp [changedAfterRelease, scanFault]
    · split at h
      · cases h
        simp [changedAfterRelease, scanFault]
      · rename_i text htext
        split at h
        · rename_i fault hstrict
          cases h
          have hconsistent := fromJsonStrict_consistent serde a.providerBuffer a.policy
          rw [hstrict] at hconsistent
          exact hconsistent.ne
        · rename_i response hstrict
          obtain ⟨spoken, rfl⟩ := scan_complete_spoken hscan (by simpa using hincomplete)
          have hspoken := scan_strict_spoken hserde hscan hstrict
          have hsame := (hopened text htext).spoken_text hserde List.prefix_rfl hscan
          rw [if_neg (by simp [hspoken, hsame])] at h
          cases h

/-- **No call on a session returns the error of a contradicted release.** -/
theorem perform_ne (hserde : serde.Lawful) (hgated : Gated serde a) {call : StreamingCall}
    (h : a.perform serde call = .ok (.error error, a')) : error ≠ changedAfterRelease := by
  cases call with
  | pushDelta observed sequence delta =>
    simp only [perform, pushDelta] at h
    cases hcheck : a.checkDelta observed sequence delta with
    | error refused =>
      rw [hcheck] at h
      cases h
      exact checkDelta_ne hcheck
    | ok _ =>
      rw [hcheck] at h
      cases hformat : a.format with
      | structuredV1 =>
        simp only [hformat] at h
        cases h
      | structuredSpeechFirstV1 =>
        simp only [hformat] at h
        refine pushSpeechFirst_ne hserde ?_ h
        intro text htext
        exact (hgated (checkDelta_active hcheck).2 hformat text htext).push sequence delta
      | legacyPlainText =>
        simp only [hformat, pushLegacy] at h
        split at h
        · cases h
        · obtain ⟨_, -, hpair⟩ := bind_eq_ok.1 h
          cases hpair
  | finish observed =>
    simp only [perform, bind_eq_ok, pure_eq_ok] at h
    obtain ⟨⟨reply, after⟩, hfinish, hpair⟩ := h
    cases reply with
    | ok fin => cases hpair
    | error refused =>
      cases hpair
      simp only [finish] at hfinish
      cases hactive : a.requireActiveGeneration observed with
      | error refused =>
        rw [hactive] at hfinish
        cases hfinish
        exact requireActiveGeneration_ne hactive
      | ok _ =>
        rw [hactive] at hfinish
        cases hformat : a.format with
        | structuredV1 =>
          simp only [hformat, finishStructured, refuse] at hfinish
          split at hfinish
          · rename_i fault hstrict
            cases hfinish
            have hconsistent := fromJsonStrict_consistent serde a.providerBuffer a.policy
            rw [hstrict] at hconsistent
            exact hconsistent.ne
          · obtain ⟨_, -, hfinish⟩ := bind_eq_ok.1 hfinish
            cases hfinish
        | structuredSpeechFirstV1 =>
          simp only [hformat] at hfinish
          exact finishSpeechFirst_ne hserde
            (hgated (requireActiveGeneration_eq_ok.1 hactive).2 hformat) hfinish
        | legacyPlainText =>
          simp only [hformat, finishLegacy, refuse] at hfinish
          split at hfinish
          · rename_i fault hvalid
            cases hfinish
            have hconsistent := validate_consistent a.policy
              (NpcResponseEnvelopeV1.plainText a.providerBuffer)
            rw [hvalid] at hconsistent
            exact hconsistent.ne
          · split at hfinish
            · cases hfinish
            · obtain ⟨_, -, hfinish⟩ := bind_eq_ok.1 hfinish
              cases hfinish
  | cancel observed =>
    simp only [perform, cancel, requireGeneration] at h
    split at h
    · rename_i refused hrefused
      split_ifs at hrefused
      cases hrefused
      cases h
      simp [changedAfterRelease]
    · split at h <;> cases h
      simp [changedAfterRelease]

end Release

end NpcRuntime.Response
