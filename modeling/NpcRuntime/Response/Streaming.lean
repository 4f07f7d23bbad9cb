import NpcRuntime.Sentence.Partition
import NpcRuntime.Response.Scan

/-!
# The streaming response adapter

`StreamingResponseAdapterV1` of `runtime-core/src/structured_response.rs` stands between the
provider's deltas and the speech lane. Its three formats release sentences at different times: all
at the end (`structuredV1`), all at once when the speech gate opens (`structuredSpeechFirstV1`), or
as they come (`legacyPlainText`). Whatever the format and the calls, a session that finishes has
released every sentence of its response exactly once (`released_exactly_once`).

A call returns or panics (`Fault`): the segmenter panics on some blank texts, and its configuration
is asserted when one is made.
-/

namespace NpcRuntime.Response

open Text Sentence

inductive StreamingResponseFormatV1 where
  | structuredV1
  | structuredSpeechFirstV1
  | legacyPlainText
deriving DecidableEq

structure FinalizedStreamingResponseV1 where
  response : NpcResponseEnvelopeV1
  format : StreamingResponseFormatV1
  readySentences : List SentenceSpan
  allSentences : List SentenceSpan
deriving DecidableEq

inductive StreamingAdapterState where
  | active
  | cancelled
  | finalized
deriving DecidableEq

inductive StreamingResponseError where
  | staleGeneration (expected received : Nat)
  | closed
  | nonMonotonicSequence (previous received : Nat)
  | unsupportedRouteFormat (format : String)
  | invalidResponse (error : ResponseValidationError)
deriving DecidableEq

/-- `from_route_metadata`, on the route's value of `npc_response_format`. -/
def StreamingResponseFormatV1.fromRouteMetadata (value : Option String) :
    Except StreamingResponseError (Option StreamingResponseFormatV1) :=
  match value with
  | some "structured_v1" => .ok (some .structuredV1)
  | some "structured_speech_first_v1" => .ok (some .structuredSpeechFirstV1)
  | some "legacy_plain_text" => .ok (some .legacyPlainText)
  | some value => .error (.unsupportedRouteFormat value)
  | none => .ok none

structure StreamingResponseAdapterV1 where
  format : StreamingResponseFormatV1
  policy : ResponseValidationPolicy
  sentenceConfig : SentenceSegmenterConfig
  sentenceSegmenter : Option SentenceSegmenter
  cancellationGeneration : Nat
  state : StreamingAdapterState := .active
  lastSequence : Option Nat := none
  providerBuffer : Text := []
  releasedSentences : List SentenceSpan := []
  speechFirstSpokenText : Option Text := none

/-- `SentenceSegmenter::new`, which asserts that the configuration is valid. -/
def newSegmenter (cfg : SentenceSegmenterConfig) : Except Fault SentenceSegmenter :=
  if cfg.Valid then .ok {} else .error .panic

/-- All sentences of a text, by a segmenter of its own. -/
def segmentText (cfg : SentenceSegmenterConfig) (text : Text) :
    Except Fault (List SentenceSpan) := do
  let segmenter ← newSegmenter cfg
  let (segmenter, sentences) ← pushSpans cfg text segmenter
  let (_, more) ← finishSpans cfg segmenter
  return sentences ++ more

namespace StreamingResponseAdapterV1

/-- Legacy routes own a segmenter. -/
def ownSegmenter (format : StreamingResponseFormatV1) (sentenceConfig : SentenceSegmenterConfig) :
    Except Fault (Option SentenceSegmenter) :=
  if format = .legacyPlainText then (newSegmenter sentenceConfig).map some else .ok none

def new (format : StreamingResponseFormatV1) (policy : ResponseValidationPolicy)
    (sentenceConfig : SentenceSegmenterConfig) (cancellationGeneration : Nat) :
    Except Fault StreamingResponseAdapterV1 := do
  let sentenceSegmenter ← ownSegmenter format sentenceConfig
  return { format, policy, sentenceConfig, sentenceSegmenter, cancellationGeneration }

def requireGeneration (a : StreamingResponseAdapterV1) (observedGeneration : Nat) :
    Except StreamingResponseError Unit :=
  if observedGeneration = a.cancellationGeneration then .ok ()
  else .error (.staleGeneration a.cancellationGeneration observedGeneration)

def requireActiveGeneration (a : StreamingResponseAdapterV1) (observedGeneration : Nat) :
    Except StreamingResponseError Unit := do
  a.requireGeneration observedGeneration
  if a.state = .active then .ok () else .error .closed

def releasedSpokenText (a : StreamingResponseAdapterV1) : Option Text := a.speechFirstSpokenText

/-- The most a session may buffer. -/
def maximumBytes (a : StreamingResponseAdapterV1) : Nat :=
  match a.format with
  | .structuredV1 | .structuredSpeechFirstV1 => maxProviderResponseBytes
  | .legacyPlainText => min a.policy.maxSpokenResponseBytes maxSpokenResponseBytes

def requireAdvance (a : StreamingResponseAdapterV1) (sequence : Nat) :
    Except StreamingResponseError Unit :=
  match a.lastSequence with
  | some previous =>
    if sequence ≤ previous then .error (.nonMonotonicSequence previous sequence) else .ok ()
  | none => .ok ()

def requireRoom (a : StreamingResponseAdapterV1) (delta : Text) :
    Except StreamingResponseError Unit :=
  if a.maximumBytes < utf8Len a.providerBuffer + utf8Len delta then
    .error (.invalidResponse (.providerOutputTooLarge a.maximumBytes))
  else if a.format = .legacyPlainText ∧ delta.any isDisallowedControl then
    .error (.invalidResponse (.invalidText "spoken response"))
  else .ok ()

/-- The checks of `push_delta` before anything changes. -/
def checkDelta (a : StreamingResponseAdapterV1) (observedGeneration sequence : Nat) (delta : Text) :
    Except StreamingResponseError Unit := do
  a.requireActiveGeneration observedGeneration
  a.requireAdvance sequence
  a.requireRoom delta

/-- What a call returns, with the adapter it leaves. -/
abbrev Reply (α : Type) := Except StreamingResponseError α × StreamingResponseAdapterV1

/-- The call returns an error and leaves the adapter as it is. -/
def refuse {α : Type} (a : StreamingResponseAdapterV1) (error : ResponseValidationError) :
    Except Fault (Reply α) :=
  .ok (.error (.invalidResponse error), a)

/-- A delta of the speech-first format: rescan, and open the gate once. -/
def pushSpeechFirst (serde : SerdeJson) (a : StreamingResponseAdapterV1) :
    Except Fault (Reply (List SentenceSpan)) :=
  match scanSpeechFirstEnvelope serde a.providerBuffer with
  | .error error => a.refuse error
  | .ok ⟨none, _⟩ => .ok (.ok [], a)
  | .ok ⟨some spoken, _⟩ =>
    match validateSpoken a.policy spoken with
    | .error error => a.refuse error
    | .ok () =>
      match a.speechFirstSpokenText with
      | some released =>
        if released ≠ spoken.text then
          a.refuse (scanFault "speech-first spoken response changed after release")
        else .ok (.ok [], a)
      | none => do
        let sentences ← segmentText a.sentenceConfig spoken.text
        return (.ok sentences, { a with
          speechFirstSpokenText := some spoken.text
          releasedSentences := a.releasedSentences ++ sentences })

/-- A delta of the legacy format: segment it. -/
def pushLegacy (delta : Text) (a : StreamingResponseAdapterV1) :
    Except Fault (Reply (List SentenceSpan)) :=
  match a.sentenceSegmenter with
  | none => .error .panic
  | some segmenter => do
    let (segmenter, sentences) ← pushSpans a.sentenceConfig delta segmenter
    return (.ok sentences, { a with
      sentenceSegmenter := some segmenter
      releasedSentences := a.releasedSentences ++ sentences })

/-- Returns the sentences that became ready. -/
def pushDelta (serde : SerdeJson) (observedGeneration sequence : Nat) (delta : Text)
    (a : StreamingResponseAdapterV1) : Except Fault (Reply (List SentenceSpan)) :=
  match a.checkDelta observedGeneration sequence delta with
  | .error error => .ok (.error error, a)
  | .ok () =>
    let a := { a with
      lastSequence := some sequence
      providerBuffer := a.providerBuffer ++ delta }
    match a.format with
    | .structuredV1 => .ok (.ok [], a)
    | .structuredSpeechFirstV1 => a.pushSpeechFirst serde
    | .legacyPlainText => a.pushLegacy delta

/-- The end of a session: its response and its sentences. -/
def finalized (a : StreamingResponseAdapterV1) (response : NpcResponseEnvelopeV1)
    (readySentences allSentences : List SentenceSpan) :
    Except Fault (Reply FinalizedStreamingResponseV1) :=
  .ok (.ok { response, format := a.format, readySentences, allSentences },
    { a with state := .finalized })

def finishStructured (serde : SerdeJson) (a : StreamingResponseAdapterV1) :
    Except Fault (Reply FinalizedStreamingResponseV1) :=
  match NpcResponseEnvelopeV1.fromJsonStrict serde a.providerBuffer a.policy with
  | .error error => a.refuse error
  | .ok response => do
    let sentences ← segmentText a.sentenceConfig response.spokenResponse.text
    a.finalized response sentences sentences

def finishSpeechFirst (serde : SerdeJson) (a : StreamingResponseAdapterV1) :
    Except Fault (Reply FinalizedStreamingResponseV1) :=
  match scanSpeechFirstEnvelope serde a.providerBuffer with
  | .error error => a.refuse error
  | .ok scan =>
    if !scan.complete then
      a.refuse (scanFault "speech-first response ended before the top-level object closed")
    else
      match a.speechFirstSpokenText with
      | none =>
        a.refuse (scanFault "speech-first response omitted its required validated fields")
      | some released =>
        match NpcResponseEnvelopeV1.fromJsonStrict serde a.providerBuffer a.policy with
        | .error error => a.refuse error
        | .ok response =>
          if released ≠ response.spokenResponse.text then
            a.refuse (scanFault "speech-first spoken response changed after release")
          else a.finalized response [] a.releasedSentences

def finishLegacy (a : StreamingResponseAdapterV1) :
    Except Fault (Reply FinalizedStreamingResponseV1) :=
  let response := NpcResponseEnvelopeV1.plainText a.providerBuffer
  match response.validate a.policy with
  | .error error => a.refuse error
  | .ok () =>
    match a.sentenceSegmenter with
    | none => .error .panic
    | some segmenter => do
      let (segmenter, ready) ← finishSpans a.sentenceConfig segmenter
      let a := { a with
        sentenceSegmenter := some segmenter
        releasedSentences := a.releasedSentences ++ ready }
      a.finalized response ready a.releasedSentences

def finish (serde : SerdeJson) (observedGeneration : Nat) (a : StreamingResponseAdapterV1) :
    Except Fault (Reply FinalizedStreamingResponseV1) :=
  match a.requireActiveGeneration observedGeneration with
  | .error error => .ok (.error error, a)
  | .ok () =>
    match a.format with
    | .structuredV1 => a.finishStructured serde
    | .structuredSpeechFirstV1 => a.finishSpeechFirst serde
    | .legacyPlainText => a.finishLegacy

def cancel (observedGeneration : Nat) (a : StreamingResponseAdapterV1) :
    Except StreamingResponseError Unit × StreamingResponseAdapterV1 :=
  match a.requireGeneration observedGeneration with
  | .error error => (.error error, a)
  | .ok () =>
    match a.state with
    | .active =>
      (.ok (), { a with state := .cancelled, providerBuffer := [], sentenceSegmenter := none })
    | .cancelled => (.ok (), a)
    | .finalized => (.error .closed, a)

end StreamingResponseAdapterV1

/-! ## Calls -/

inductive StreamingCall where
  | pushDelta (observedGeneration sequence : Nat) (delta : Text)
  | finish (observedGeneration : Nat)
  | cancel (observedGeneration : Nat)
deriving DecidableEq

def StreamingCall.observedGeneration : StreamingCall → Nat
  | .pushDelta generation _ _ => generation
  | .finish generation => generation
  | .cancel generation => generation

namespace StreamingResponseAdapterV1

/-- The sentences a call releases, and none when it is refused. -/
def perform (serde : SerdeJson) (call : StreamingCall) (a : StreamingResponseAdapterV1) :
    Except Fault (Reply (List SentenceSpan)) :=
  match call with
  | .pushDelta generation sequence delta => a.pushDelta serde generation sequence delta
  | .finish generation => do
    let (result, a) ← a.finish serde generation
    return (result.map (·.readySentences), a)
  | .cancel generation => .ok ((a.cancel generation).1.map fun _ => [], (a.cancel generation).2)

/-- What a sequence of calls releases, refused ones included, and the adapter it leaves. -/
def run (serde : SerdeJson) : List StreamingCall → StreamingResponseAdapterV1 →
    Except Fault (List SentenceSpan × StreamingResponseAdapterV1)
  | [], a => .ok ([], a)
  | call :: calls, a => do
    let (result, a) ← a.perform serde call
    let (more, a) ← run serde calls a
    return (result.toOption.getD [] ++ more, a)

/-- Every sentence that is released, as long as the session goes on: nothing, or what the gate let
through, or the spans of the text so far. -/
def Released (a : StreamingResponseAdapterV1) (released : List SentenceSpan) : Prop :=
  a.state = .active →
    match a.format with
    | .structuredV1 => released = []
    | .structuredSpeechFirstV1 => a.releasedSentences = released ∧
      match a.speechFirstSpokenText with
      | none => released = []
      | some text => segmentText a.sentenceConfig text = .ok released
    | .legacyPlainText => a.releasedSentences = released ∧ a.sentenceConfig.Valid ∧
      ∃ segmenter, a.sentenceSegmenter = some segmenter ∧
        Progress a.providerBuffer segmenter released

end StreamingResponseAdapterV1

/-! ## Segmenting a whole text -/

variable {cfg : SentenceSegmenterConfig}

theorem segmentText_eq (hvalid : cfg.Valid) (text : Text) :
    segmentText cfg text = Sentence.segment cfg [text] := by
  simp only [segmentText, newSegmenter, if_pos hvalid, Sentence.segment, segmentFrom, bind,
    Except.bind]
  cases pushSpans cfg text {} with
  | error fault => rfl
  | ok pushed =>
    dsimp only
    cases finishSpans cfg pushed.1 <;> rfl

theorem segmentText_partitions {text : Text} {spans : List SentenceSpan}
    (h : segmentText cfg text = .ok spans) : Partitions text spans := by
  by_cases hvalid : cfg.Valid
  · rw [segmentText_eq hvalid] at h
    simpa using segment_partitions hvalid h
  · simp only [segmentText, newSegmenter, if_neg hvalid] at h
    cases h

/-! ## One call -/

namespace StreamingResponseAdapterV1

variable {serde : SerdeJson} {a a' : StreamingResponseAdapterV1} {released : List SentenceSpan}

variable {generation : Nat}

theorem requireActiveGeneration_eq_ok :
    a.requireActiveGeneration generation = .ok () ↔
      generation = a.cancellationGeneration ∧ a.state = .active := by
  simp only [requireActiveGeneration, requireGeneration]
  by_cases hgeneration : generation = a.cancellationGeneration <;>
    by_cases hstate : a.state = .active <;> simp [hgeneration, hstate, bind, Except.bind]

variable {sequence : Nat} {delta : Text}

theorem checkDelta_active (h : a.checkDelta generation sequence delta = .ok ()) :
    generation = a.cancellationGeneration ∧ a.state = .active := by
  simp only [checkDelta, bind_eq_ok] at h
  obtain ⟨_, hrequire, -⟩ := h
  exact requireActiveGeneration_eq_ok.1 hrequire

variable {error : StreamingResponseError}

/-- A call that is refused at the door changes nothing. -/
theorem pushDelta_atDoor (h : a.requireActiveGeneration generation = .error error) :
    a.pushDelta serde generation sequence delta = .ok (.error error, a) := by
  simp only [pushDelta, checkDelta, h, bind, Except.bind]

theorem finish_atDoor (h : a.requireActiveGeneration generation = .error error) :
    a.finish serde generation = .ok (.error error, a) := by
  simp only [finish, h]

theorem requireActiveGeneration_stale (h : generation ≠ a.cancellationGeneration) :
    a.requireActiveGeneration generation =
      .error (.staleGeneration a.cancellationGeneration generation) := by
  simp [requireActiveGeneration, requireGeneration, h, bind, Except.bind]

theorem requireActiveGeneration_closed (h : generation = a.cancellationGeneration)
    (hclosed : a.state ≠ .active) : a.requireActiveGeneration generation = .error .closed := by
  simp [requireActiveGeneration, requireGeneration, h, hclosed, bind, Except.bind]

variable {result : Except StreamingResponseError (List SentenceSpan)}

/-- What a speech-first push does behind the checks: it changes nothing, or it opens the gate. -/
theorem pushSpeechFirst_cases (h : a.pushSpeechFirst serde = .ok (result, a')) :
    a' = a ∨ (a.speechFirstSpokenText = none ∧ ∃ spoken complete sentences,
      scanSpeechFirstEnvelope serde a.providerBuffer = .ok ⟨some spoken, complete⟩ ∧
      validateSpoken a.policy spoken = .ok () ∧
      segmentText a.sentenceConfig spoken.text = .ok sentences ∧
      a' = { a with
        speechFirstSpokenText := some spoken.text
        releasedSentences := a.releasedSentences ++ sentences }) := by
  simp only [pushSpeechFirst, refuse] at h
  split at h
  · cases h
    exact .inl rfl
  · cases h
    exact .inl rfl
  · rename_i spoken complete hscan
    split at h
    · cases h
      exact .inl rfl
    · rename_i hvalid
      split at h
      · split_ifs at h <;> cases h <;> exact .inl rfl
      · rename_i htext
        obtain ⟨sentences, hsegment, hpair⟩ := bind_eq_ok.1 h
        cases hpair
        exact .inr ⟨htext, spoken, complete, sentences, hscan, hvalid, hsegment, rfl⟩

/-- A push that succeeds has taken its delta in. -/
theorem pushDelta_takes {result : List SentenceSpan}
    (h : a.pushDelta serde generation sequence delta = .ok (.ok result, a')) :
    a'.state = a.state ∧ a'.providerBuffer = a.providerBuffer ++ delta ∧
      a'.lastSequence = some sequence := by
  simp only [pushDelta, pushLegacy] at h
  split at h
  · cases h
  · split at h
    · cases h
      exact ⟨rfl, rfl, rfl⟩
    · rcases pushSpeechFirst_cases h with rfl | ⟨-, -, -, -, -, -, -, rfl⟩ <;>
        exact ⟨rfl, rfl, rfl⟩
    · split at h
      · cases h
      · obtain ⟨_, -, hpair⟩ := bind_eq_ok.1 h
        cases hpair
        exact ⟨rfl, rfl, rfl⟩

/-- A push that is refused leaves the session open, and a legacy one as it is. -/
theorem pushDelta_refused
    (h : a.pushDelta serde generation sequence delta = .ok (.error error, a')) :
    a'.state = a.state ∧ (a.format = .legacyPlainText → a' = a) := by
  simp only [pushDelta, pushLegacy] at h
  split at h
  · cases h
    exact ⟨rfl, fun _ => rfl⟩
  · split at h
    · cases h
    · rename_i hformat
      refine ⟨?_, fun hlegacy => ?_⟩
      · rcases pushSpeechFirst_cases h with rfl | ⟨-, -, -, -, -, -, -, rfl⟩ <;> rfl
      · rw [hformat] at hlegacy
        cases hlegacy
    · split at h
      · cases h
      · obtain ⟨_, -, hpair⟩ := bind_eq_ok.1 h
        cases hpair

theorem pushSpeechFirst_released (hformat : a.format = .structuredSpeechFirstV1)
    (h : a.Released released) (hpush : a.pushSpeechFirst serde = .ok (result, a')) :
    a'.Released (released ++ result.toOption.getD []) := by
  simp only [pushSpeechFirst, refuse] at hpush
  split at hpush
  · cases hpush
    simpa [Except.toOption] using h
  · cases hpush
    simpa [Except.toOption] using h
  · split at hpush
    · cases hpush
      simpa [Except.toOption] using h
    · split at hpush
      · split_ifs at hpush <;> cases hpush <;> simpa [Except.toOption] using h
      · rename_i htext
        simp only [bind_eq_ok, pure_eq_ok] at hpush
        obtain ⟨sentences, hsegment, hpush⟩ := hpush
        cases hpush
        intro hactive
        have hbefore := h hactive
        simp only [hformat, htext] at hbefore
        obtain ⟨hsentences, rfl⟩ := hbefore
        simp only [hformat, Except.toOption, Option.getD_some, List.nil_append]
        exact ⟨by rw [hsentences, List.nil_append], hsegment⟩

/-- Progress of the segmenter over one delta. -/
theorem pushSpans_progress (hvalid : cfg.Valid) {segmenter segmenter' : SentenceSegmenter}
    {text : Text} {spans emitted : List SentenceSpan} (h : Progress text segmenter spans)
    (hpush : pushSpans cfg delta segmenter = .ok (segmenter', emitted)) :
    Progress (text ++ delta) segmenter' (spans ++ emitted) := by
  have hloop := @extractLoop_cases cfg { segmenter with buffer := segmenter.buffer ++ delta }
    hvalid _ (Nat.lt_succ_self _)
  rw [pushSpans, extract] at hpush
  rcases hloop with ⟨-, hpanic⟩ | ⟨-, s', more, hok, -, hrun⟩
  · rw [hpanic] at hpush
    cases hpush
  · rw [hok] at hpush
    cases hpush
    exact hrun _ _ (h.push delta)

/-- A push keeps the account of what is released. -/
theorem pushDelta_released (h : a.Released released)
    (hpush : a.pushDelta serde generation sequence delta = .ok (result, a')) :
    a'.Released (released ++ result.toOption.getD []) := by
  simp only [pushDelta] at hpush
  cases hcheck : a.checkDelta generation sequence delta with
  | error error =>
    rw [hcheck] at hpush
    cases hpush
    simpa [Except.toOption] using h
  | ok _ =>
    rw [hcheck] at hpush
    have hbefore := h (checkDelta_active hcheck).2
    cases hformat : a.format with
    | structuredV1 =>
      simp only [hformat] at hpush hbefore
      cases hpush
      intro _
      simpa [hformat, Except.toOption] using hbefore
    | structuredSpeechFirstV1 =>
      simp only [hformat] at hpush hbefore
      exact pushSpeechFirst_released rfl (fun _ => hbefore) hpush
    | legacyPlainText =>
      simp only [hformat] at hpush hbefore
      obtain ⟨hsentences, hvalid, segmenter, hsegmenter, hprogress⟩ := hbefore
      simp only [pushLegacy, hsegmenter, bind_eq_ok, pure_eq_ok] at hpush
      obtain ⟨⟨segmenter', sentences⟩, hspans, hpush⟩ := hpush
      cases hpush
      intro _
      simp only [Except.toOption, Option.getD_some]
      exact ⟨by rw [hsentences], hvalid, segmenter', rfl,
        pushSpans_progress hvalid hprogress hspans⟩

/-- **The end of a session**: with what it releases itself, every sentence of the response was
released once. -/
theorem finish_finalized {fin : FinalizedStreamingResponseV1} (h : a.Released released)
    (hfinish : a.finish serde generation = .ok (.ok fin, a')) :
    released ++ fin.readySentences = fin.allSentences ∧
      Partitions fin.response.spokenResponse.text fin.allSentences := by
  simp only [finish] at hfinish
  cases hactive : a.requireActiveGeneration generation with
  | error error =>
    rw [hactive] at hfinish
    cases hfinish
  | ok _ =>
    rw [hactive] at hfinish
    have hbefore := h (requireActiveGeneration_eq_ok.1 hactive).2
    cases hformat : a.format with
    | structuredV1 =>
      simp only [hformat, finishStructured] at hfinish hbefore
      split at hfinish
      · cases hfinish
      · simp only [bind_eq_ok] at hfinish
        obtain ⟨sentences, hsegment, hfinish⟩ := hfinish
        cases hfinish
        exact ⟨by rw [hbefore, List.nil_append], segmentText_partitions hsegment⟩
    | structuredSpeechFirstV1 =>
      simp only [hformat, finishSpeechFirst] at hfinish hbefore
      split at hfinish
      · cases hfinish
      · split_ifs at hfinish
        · cases hfinish
        · split at hfinish
          · cases hfinish
          · rename_i text htext
            split at hfinish
            · cases hfinish
            · split_ifs at hfinish with hsame
              · cases hfinish
              · cases hfinish
                simp only [htext] at hbefore
                rw [not_not] at hsame
                obtain ⟨hsentences, hsegment⟩ := hbefore
                refine ⟨by simpa using hsentences.symm, ?_⟩
                rw [hsentences, ← hsame]
                exact segmentText_partitions hsegment
    | legacyPlainText =>
      simp only [hformat, finishLegacy] at hfinish hbefore
      obtain ⟨hsentences, hvalid, segmenter, hsegmenter, hprogress⟩ := hbefore
      split at hfinish
      · cases hfinish
      · simp only [hsegmenter, bind_eq_ok] at hfinish
        obtain ⟨⟨segmenter', ready⟩, hspans, hfinish⟩ := hfinish
        cases hfinish
        obtain ⟨s', emitted, hok, htiles⟩ := @finishSpans_ok a.sentenceConfig _ _ _ hprogress
        rw [hok] at hspans
        cases hspans
        rw [hsentences]
        exact ⟨rfl, htiles.partitions⟩

/-- What a finish does: it is refused and leaves the adapter, or it closes the session. -/
theorem finish_cases {reply : Except StreamingResponseError FinalizedStreamingResponseV1}
    (hfinish : a.finish serde generation = .ok (reply, a')) :
    (∃ error, reply = .error error ∧ a' = a) ∨
      ∃ fin sentenceSegmenter releasedSentences, reply = .ok fin ∧
        a' = { a with state := .finalized, sentenceSegmenter, releasedSentences } := by
  simp only [finish, finishStructured, finishSpeechFirst, finishLegacy, refuse, finalized]
    at hfinish
  repeat' split at hfinish
  all_goals first
    | (cases hfinish
       exact .inl ⟨_, rfl, rfl⟩)
    | (cases hfinish
       exact .inr ⟨_, _, _, rfl, rfl⟩)
    | (obtain ⟨_, -, hfinish⟩ := bind_eq_ok.1 hfinish
       cases hfinish
       exact .inr ⟨_, _, _, rfl, rfl⟩)
    | cases hfinish

/-- A finish that is refused leaves the adapter. -/
theorem finish_refused (hfinish : a.finish serde generation = .ok (.error error, a')) : a' = a := by
  rcases finish_cases hfinish with ⟨_, -, rfl⟩ | ⟨_, _, _, hok, -⟩
  · rfl
  · cases hok

/-- A finish that is accepted closes the session. -/
theorem finish_closes {fin : FinalizedStreamingResponseV1}
    (hfinish : a.finish serde generation = .ok (.ok fin, a')) : a'.state = .finalized := by
  rcases finish_cases hfinish with ⟨_, herror, -⟩ | ⟨_, _, _, -, rfl⟩
  · cases herror
  · rfl

variable {call : StreamingCall}

/-- Every call keeps the account of what is released. -/
theorem perform_released (h : a.Released released)
    (hcall : a.perform serde call = .ok (result, a')) :
    a'.Released (released ++ result.toOption.getD []) := by
  cases call with
  | pushDelta generation sequence delta => exact pushDelta_released h hcall
  | finish generation =>
    simp only [perform, bind_eq_ok, pure_eq_ok] at hcall
    obtain ⟨⟨reply, after⟩, hfinish, hcall⟩ := hcall
    cases hcall
    cases reply with
    | error error =>
      rw [finish_refused hfinish]
      simpa [Except.map, Except.toOption] using h
    | ok fin =>
      intro hactive
      rw [finish_closes hfinish] at hactive
      cases hactive
  | cancel generation =>
    simp only [perform, Except.ok.injEq, Prod.mk.injEq] at hcall
    obtain ⟨rfl, rfl⟩ := hcall
    simp only [cancel]
    split
    · simpa [Except.map, Except.toOption] using h
    · split
      · intro hactive
        cases hactive
      · simpa [Except.map, Except.toOption] using h
      · simpa [Except.map, Except.toOption] using h

/-- Every run keeps it. -/
theorem run_released {calls : List StreamingCall} {more : List SentenceSpan}
    (h : a.Released released) (hrun : a.run serde calls = .ok (more, a')) :
    a'.Released (released ++ more) := by
  induction calls generalizing a released more with
  | nil =>
    cases hrun
    rwa [List.append_nil]
  | cons call calls ih =>
    simp only [run, bind_eq_ok, pure_eq_ok] at hrun
    obtain ⟨⟨result, next⟩, hcall, ⟨rest, last⟩, hrest, hpair⟩ := hrun
    cases hpair
    rw [← List.append_assoc]
    exact ih (perform_released h hcall) hrest

theorem new_released {format : StreamingResponseFormatV1} {policy : ResponseValidationPolicy}
    (hnew : new format policy cfg generation = .ok a) :
    a.Released [] ∧ a.cancellationGeneration = generation := by
  simp only [new, bind_eq_ok, pure_eq_ok] at hnew
  obtain ⟨segmenter, hsegmenter, rfl⟩ := hnew
  refine ⟨fun _ => ?_, rfl⟩
  cases format with
  | structuredV1 => rfl
  | structuredSpeechFirstV1 => exact ⟨rfl, rfl⟩
  | legacyPlainText =>
    rw [ownSegmenter, if_pos rfl, newSegmenter] at hsegmenter
    split_ifs at hsegmenter with hvalid
    · cases hsegmenter
      exact ⟨rfl, hvalid, {}, rfl, Progress.start⟩
    · cases hsegmenter

/-- What is set when a session is made and stays. -/
structure SameRoute (a a' : StreamingResponseAdapterV1) : Prop where
  format_eq : a'.format = a.format
  policy_eq : a'.policy = a.policy
  config_eq : a'.sentenceConfig = a.sentenceConfig
  generation_eq : a'.cancellationGeneration = a.cancellationGeneration

theorem SameRoute.refl (a : StreamingResponseAdapterV1) : SameRoute a a := ⟨rfl, rfl, rfl, rfl⟩

theorem SameRoute.trans {b : StreamingResponseAdapterV1} (h : SameRoute a a')
    (hnext : SameRoute a' b) : SameRoute a b :=
  ⟨hnext.format_eq.trans h.format_eq, hnext.policy_eq.trans h.policy_eq,
    hnext.config_eq.trans h.config_eq, hnext.generation_eq.trans h.generation_eq⟩

theorem perform_sameRoute (hcall : a.perform serde call = .ok (result, a')) : SameRoute a a' := by
  cases call with
  | pushDelta generation sequence delta =>
    simp only [perform, pushDelta, pushSpeechFirst, pushLegacy, refuse] at hcall
    repeat' split at hcall
    all_goals first
      | (cases hcall <;> exact ⟨rfl, rfl, rfl, rfl⟩)
      | (obtain ⟨_, -, hcall⟩ := bind_eq_ok.1 hcall
         cases hcall
         exact ⟨rfl, rfl, rfl, rfl⟩)
  | finish generation =>
    simp only [perform, bind_eq_ok, pure_eq_ok] at hcall
    obtain ⟨⟨reply, after⟩, hfinish, hcall⟩ := hcall
    cases hcall
    rcases finish_cases hfinish with ⟨_, -, rfl⟩ | ⟨_, _, _, -, rfl⟩
    · exact SameRoute.refl _
    · exact ⟨rfl, rfl, rfl, rfl⟩
  | cancel generation =>
    simp only [perform, cancel] at hcall
    repeat' split at hcall
    all_goals
      cases hcall
      exact ⟨rfl, rfl, rfl, rfl⟩

theorem run_sameRoute {calls : List StreamingCall} {more : List SentenceSpan}
    (hrun : a.run serde calls = .ok (more, a')) : SameRoute a a' := by
  induction calls generalizing a more with
  | nil =>
    cases hrun
    exact SameRoute.refl _
  | cons call calls ih =>
    simp only [run, bind_eq_ok, pure_eq_ok] at hrun
    obtain ⟨⟨result, next⟩, hcall, ⟨rest, last⟩, hrest, hpair⟩ := hrun
    cases hpair
    exact (perform_sameRoute hcall).trans (ih hrest)

/-! ## Calls that release nothing -/

/-- A call of another generation changes nothing. -/
theorem perform_stale (hstale : call.observedGeneration ≠ a.cancellationGeneration) :
    a.perform serde call =
      .ok (.error (.staleGeneration a.cancellationGeneration call.observedGeneration), a) := by
  cases call with
  | pushDelta generation sequence delta =>
    exact pushDelta_atDoor (requireActiveGeneration_stale hstale)
  | finish generation =>
    have hdoor : a.finish serde generation =
        .ok (.error (.staleGeneration a.cancellationGeneration generation), a) :=
      finish_atDoor (requireActiveGeneration_stale hstale)
    rw [perform, hdoor]
    rfl
  | cancel generation =>
    have hrequire : a.requireGeneration generation =
        .error (.staleGeneration a.cancellationGeneration generation) := if_neg hstale
    simp only [perform, cancel, hrequire]
    rfl

/-- A call on a closed session releases nothing, and the session stays closed. -/
theorem perform_closed (serde : SerdeJson) (call : StreamingCall) (hclosed : a.state ≠ .active) :
    ∃ result a', a.perform serde call = .ok (result, a') ∧ result.toOption.getD [] = [] ∧
      a'.state ≠ .active := by
  by_cases hstale : call.observedGeneration = a.cancellationGeneration
  · cases call with
    | pushDelta generation sequence delta =>
      exact ⟨_, a, pushDelta_atDoor (requireActiveGeneration_closed hstale hclosed), rfl, hclosed⟩
    | finish generation =>
      refine ⟨.error .closed, a, ?_, rfl, hclosed⟩
      have hdoor : a.finish serde generation = .ok (.error .closed, a) :=
        finish_atDoor (requireActiveGeneration_closed hstale hclosed)
      rw [perform, hdoor]
      rfl
    | cancel generation =>
      have hrequire : a.requireGeneration generation = .ok () := if_pos hstale
      refine ⟨_, _, rfl, ?_, ?_⟩
      · simp only [cancel, hrequire]
        cases a.state <;> rfl
      · simp only [cancel, hrequire]
        cases hstate : a.state with
        | active => exact absurd hstate hclosed
        | cancelled => simp [hstate]
        | finalized => simp [hstate]
  · exact ⟨_, a, perform_stale hstale, rfl, hclosed⟩

theorem run_closed (calls : List StreamingCall) (hclosed : a.state ≠ .active) :
    ∃ a', a.run serde calls = .ok ([], a') := by
  induction calls generalizing a with
  | nil => exact ⟨a, rfl⟩
  | cons call calls ih =>
    obtain ⟨result, next, hcall, hnone, hnext⟩ := perform_closed serde call hclosed
    obtain ⟨last, hlast⟩ := ih hnext
    refine ⟨last, ?_⟩
    simp only [run, hcall, bind, Except.bind, hlast, hnone]
    rfl

/-- A cancel or a finish that is accepted closes the session. -/
theorem perform_closes {sentences : List SentenceSpan}
    (hcloses : ∀ generation sequence delta, call ≠ .pushDelta generation sequence delta)
    (hcall : a.perform serde call = .ok (.ok sentences, a')) : a'.state ≠ .active := by
  cases call with
  | pushDelta generation sequence delta => exact absurd rfl (hcloses generation sequence delta)
  | finish generation =>
    simp only [perform, bind_eq_ok, pure_eq_ok] at hcall
    obtain ⟨⟨reply, after⟩, hfinish, hcall⟩ := hcall
    cases reply with
    | error error => cases hcall
    | ok fin =>
      cases hcall
      rw [finish_closes hfinish]
      simp
  | cancel generation =>
    simp only [perform, cancel] at hcall
    split at hcall
    · cases hcall
    · split at hcall
      · cases hcall
        simp
      · rename_i hstate
        cases hcall
        simp [hstate]
      · cases hcall

end StreamingResponseAdapterV1

/-! ## Sessions -/

/-- **Every sentence is released exactly once.** Whatever calls come before the session finishes,
what they release and what the finish releases are together all sentences of the response, each at
its exact range; and once a cancel or a finish is accepted no call releases anything, as no call of
another generation ever does. -/
theorem released_exactly_once {serde : SerdeJson} {format : StreamingResponseFormatV1}
    {policy : ResponseValidationPolicy} {cfg : SentenceSegmenterConfig} {generation : Nat}
    {fresh a : StreamingResponseAdapterV1} {calls : List StreamingCall}
    {released : List SentenceSpan}
    (hnew : StreamingResponseAdapterV1.new format policy cfg generation = .ok fresh)
    (hrun : fresh.run serde calls = .ok (released, a)) :
    (∀ observed fin a', a.finish serde observed = .ok (.ok fin, a') →
      released ++ fin.readySentences = fin.allSentences ∧
      ∀ sentence ∈ fin.allSentences, slice fin.response.spokenResponse.text
        sentence.textStartBytes sentence.textEndBytes = some sentence.text) ∧
    (∀ call sentences a' later,
      (∀ observed sequence delta, call ≠ .pushDelta observed sequence delta) →
      a.perform serde call = .ok (.ok sentences, a') →
      ∃ last, a'.run serde later = .ok ([], last)) ∧
    ∀ call, call.observedGeneration ≠ generation →
      a.perform serde call =
        .ok (.error (.staleGeneration generation call.observedGeneration), a) := by
  obtain ⟨hfresh, hgeneration⟩ := StreamingResponseAdapterV1.new_released hnew
  have hreleased : a.Released released := by
    simpa using StreamingResponseAdapterV1.run_released hfresh hrun
  refine ⟨?_, ?_, ?_⟩
  · intro observed fin a' hfinish
    obtain ⟨hall, hparts⟩ := StreamingResponseAdapterV1.finish_finalized hreleased hfinish
    exact ⟨hall, hparts.exact⟩
  · intro call sentences a' later hcloses hcall
    exact StreamingResponseAdapterV1.run_closed later
      (StreamingResponseAdapterV1.perform_closes hcloses hcall)
  · intro call hstale
    have hsame : a.cancellationGeneration = generation := by
      rw [← hgeneration]
      exact (StreamingResponseAdapterV1.run_sameRoute hrun).generation_eq
    rw [← hsame] at hstale ⊢
    exact StreamingResponseAdapterV1.perform_stale hstale

namespace Sample

def legacyText : Text := "This is a complete sentence. Here is another one!".toList

def legacyAdapter : StreamingResponseAdapterV1 where
  format := .legacyPlainText
  policy := {}
  sentenceConfig := {}
  sentenceSegmenter := some {}
  cancellationGeneration := 7

/-- A legacy session of two deltas. -/
def legacyCalls : List StreamingCall :=
  [.pushDelta 7 1 (legacyText.take 23), .pushDelta 7 2 (legacyText.drop 23)]

def firstSentence : SentenceSpan := ⟨1, 0, 28, "This is a complete sentence.".toList⟩

def secondSentence : SentenceSpan := ⟨2, 29, 49, "Here is another one!".toList⟩

/-- The session after its two deltas. -/
def legacyPushed : StreamingResponseAdapterV1 :=
  { legacyAdapter with
    sentenceSegmenter := some ⟨"Here is another one!".toList, 29, 2⟩
    lastSequence := some 2
    providerBuffer := legacyText
    releasedSentences := [firstSentence] }

def legacyFinished : FinalizedStreamingResponseV1 where
  response := NpcResponseEnvelopeV1.plainText legacyText
  format := .legacyPlainText
  readySentences := [secondSentence]
  allSentences := [firstSentence, secondSentence]

end Sample

theorem released_exactly_once_legacy :
    StreamingResponseAdapterV1.new .legacyPlainText {} {} 7 = .ok Sample.legacyAdapter ∧
      Sample.legacyAdapter.run (Sample.parser []) Sample.legacyCalls =
        .ok ([Sample.firstSentence], Sample.legacyPushed) ∧
      (Sample.legacyPushed.finish (Sample.parser []) 7).map Prod.fst =
        .ok (.ok Sample.legacyFinished) ∧
      [Sample.firstSentence] ++ Sample.legacyFinished.readySentences =
        Sample.legacyFinished.allSentences := by
  have hnew : StreamingResponseAdapterV1.new .legacyPlainText {} {} 7 =
      .ok Sample.legacyAdapter := rfl
  have hrun : Sample.legacyAdapter.run (Sample.parser []) Sample.legacyCalls =
      .ok ([Sample.firstSentence], Sample.legacyPushed) := rfl
  have hfinish : (Sample.legacyPushed.finish (Sample.parser []) 7).map Prod.fst =
      .ok (.ok Sample.legacyFinished) := by decide +kernel
  obtain ⟨⟨reply, closed⟩, hreply, rfl⟩ := map_eq_ok.1 hfinish
  exact ⟨hnew, hrun, hfinish, ((released_exactly_once hnew hrun).1 7 _ closed hreply).1⟩

end NpcRuntime.Response
