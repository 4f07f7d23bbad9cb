import Mathlib.Data.List.Pairwise
import NpcRuntime.Response.Release

/-!
# Speech-first sessions agree with whole envelopes

A session pushes the deltas of a provider and finishes. In the speech-first format it speaks before
the envelope is complete, so what it has released must be what the whole envelope says. It is: a
released text is never contradicted by a later scan, whether the session finalizes depends on the
text alone and not on its split into deltas, and a session that finalizes agrees with the session
that waits for the whole envelope (`speech_first_agrees`).

A scan that stops behind a value at the end of the text reports no spoken response, also when an
earlier scan did (`value_at_end_reports_nothing`).
-/

namespace NpcRuntime.Response

open Text Json Sentence StreamingResponseAdapterV1

variable {serde : SerdeJson} {policy : ResponseValidationPolicy} {cfg : SentenceSegmenterConfig}
  {generation : Nat}

/-! ## Sessions -/

/-- Push the deltas with their sequence numbers up to the first refusal, and finish. -/
def sessionFrom (serde : SerdeJson) (generation : Nat) :
    List (Nat × Text) → StreamingResponseAdapterV1 →
      Except Fault (Except StreamingResponseError FinalizedStreamingResponseV1)
  | [], a => (a.finish serde generation).map Prod.fst
  | (sequence, delta) :: deltas, a => do
    match ← a.pushDelta serde generation sequence delta with
    | (.error error, _) => return .error error
    | (.ok _, a) => sessionFrom serde generation deltas a

def session (serde : SerdeJson) (format : StreamingResponseFormatV1)
    (policy : ResponseValidationPolicy) (cfg : SentenceSegmenterConfig) (generation : Nat)
    (deltas : List (Nat × Text)) :
    Except Fault (Except StreamingResponseError FinalizedStreamingResponseV1) := do
  let a ← StreamingResponseAdapterV1.new format policy cfg generation
  sessionFrom serde generation deltas a

/-- The text of a session. -/
def wholeText (deltas : List (Nat × Text)) : Text := (deltas.map Prod.snd).flatten

def Increasing (deltas : List (Nat × Text)) : Prop := (deltas.map Prod.fst).Pairwise (· < ·)

/-! ## What a session depends on -/

/-- The whole text is an envelope that the scanner and the strict decoder accept, with these
sentences. -/
structure Accepts (serde : SerdeJson) (policy : ResponseValidationPolicy)
    (cfg : SentenceSegmenterConfig) (raw : Text) (response : NpcResponseEnvelopeV1)
    (sentences : List SentenceSpan) : Prop where
  scanned : scanSpeechFirstEnvelope serde raw = .ok ⟨some response.spokenResponse, true⟩
  strict : NpcResponseEnvelopeV1.fromJsonStrict serde raw policy = .ok response
  segmented : segmentText cfg response.spokenResponse.text = .ok sentences

/-- The session has taken in the text `t`, and released the sentences. -/
structure Streams (serde : SerdeJson) (format : StreamingResponseFormatV1)
    (policy : ResponseValidationPolicy) (cfg : SentenceSegmenterConfig) (generation : Nat)
    (a : StreamingResponseAdapterV1) (t : Text) (released : List SentenceSpan) : Prop where
  format_eq : a.format = format
  policy_eq : a.policy = policy
  config_eq : a.sentenceConfig = cfg
  generation_eq : a.cancellationGeneration = generation
  active : a.state = .active
  buffer_eq : a.providerBuffer = t
  gated : Gated serde a
  released : a.Released released

variable {fin : FinalizedStreamingResponseV1} {raw : Text} {response : NpcResponseEnvelopeV1}
  {all : List SentenceSpan} {deltas : List (Nat × Text)}

section Sessions

variable {format : StreamingResponseFormatV1} {a a' : StreamingResponseAdapterV1} {t delta : Text}
  {released sentences : List SentenceSpan} {sequence : Nat}

theorem new_streams (serde : SerdeJson)
    (hnew : StreamingResponseAdapterV1.new format policy cfg generation = .ok a) :
    Streams serde format policy cfg generation a [] [] ∧ a.lastSequence = none := by
  have hreleased := (new_released hnew).1
  simp only [StreamingResponseAdapterV1.new, bind_eq_ok, pure_eq_ok] at hnew
  obtain ⟨segmenter, -, rfl⟩ := hnew
  exact ⟨⟨rfl, rfl, rfl, rfl, rfl, rfl, fun _ _ _ htext => (by cases htext), hreleased⟩, rfl⟩

theorem Streams.push (h : Streams serde format policy cfg generation a t released)
    (hpush : a.pushDelta serde generation sequence delta = .ok (.ok sentences, a')) :
    Streams serde format policy cfg generation a' (t ++ delta) (released ++ sentences) := by
  have hcall : a.perform serde (.pushDelta generation sequence delta) = .ok (.ok sentences, a') :=
    hpush
  have hroute := perform_sameRoute hcall
  obtain ⟨hstate, hbuffer, -⟩ := pushDelta_takes hpush
  exact ⟨hroute.format_eq.trans h.format_eq, hroute.policy_eq.trans h.policy_eq,
    hroute.config_eq.trans h.config_eq, hroute.generation_eq.trans h.generation_eq,
    hstate.trans h.active, by rw [hbuffer, h.buffer_eq], perform_gated h.gated hcall,
    pushDelta_released h.released hpush⟩

/-- A speech-first session that finalizes has taken in an envelope that is accepted. -/
theorem Streams.finish (hserde : serde.Lawful)
    (h : Streams serde .structuredSpeechFirstV1 policy cfg generation a t released)
    (hfinish : a.finish serde generation = .ok (.ok fin, a')) :
    Accepts serde policy cfg t fin.response fin.allSentences ∧
      fin = ⟨fin.response, .structuredSpeechFirstV1, [], fin.allSentences⟩ := by
  have hdoor : a.requireActiveGeneration generation = .ok () :=
    requireActiveGeneration_eq_ok.2 ⟨h.generation_eq.symm, h.active⟩
  have hgate := h.released h.active
  simp only [h.format_eq] at hgate
  simp only [StreamingResponseAdapterV1.finish, hdoor, h.format_eq, finishSpeechFirst, refuse,
    finalized, h.buffer_eq, h.policy_eq] at hfinish
  split at hfinish
  · cases hfinish
  · rename_i scan hscan
    split_ifs at hfinish with hincomplete
    · cases hfinish
    · split at hfinish
      · cases hfinish
      · rename_i text htext
        split at hfinish
        · cases hfinish
        · rename_i response hstrict
          split_ifs at hfinish with hsame
          · cases hfinish
          · cases hfinish
            rw [not_not] at hsame
            obtain ⟨spoken, rfl⟩ := scan_complete_spoken hscan (by simpa using hincomplete)
            have hspoken := scan_strict_spoken hserde hscan hstrict
            simp only [htext, h.config_eq] at hgate
            refine ⟨⟨by rw [hspoken]; exact hscan, hstrict, ?_⟩, rfl⟩
            rw [← hsame, hgate.1]
            exact hgate.2

/-- The checks let a delta of a text within the provider size through. -/
theorem Streams.checkDelta (h : Streams serde format policy cfg generation a t released)
    (hformat : format ≠ .legacyPlainText)
    (hroom : utf8Len (t ++ delta) ≤ maxProviderResponseBytes)
    (hadvance : ∀ previous, a.lastSequence = some previous → previous < sequence) :
    a.checkDelta generation sequence delta = .ok () := by
  have hdoor : a.requireActiveGeneration generation = .ok () :=
    requireActiveGeneration_eq_ok.2 ⟨h.generation_eq.symm, h.active⟩
  have hsequence : a.requireAdvance sequence = .ok () := by
    unfold requireAdvance
    cases hlast : a.lastSequence with
    | none => rfl
    | some previous =>
      have := hadvance previous hlast
      exact if_neg (by omega)
  have hmaximum : a.maximumBytes = maxProviderResponseBytes := by
    unfold maximumBytes
    rw [h.format_eq]
    cases format <;> first | rfl | exact absurd rfl hformat
  rw [utf8Len_append] at hroom
  have hspace : a.requireRoom delta = .ok () := by
    unfold requireRoom
    rw [hmaximum, h.buffer_eq, h.format_eq, if_neg (by omega), if_neg (by simp [hformat])]
  simp only [StreamingResponseAdapterV1.checkDelta, hdoor, hsequence, hspace, bind, Except.bind]

/-- In an accepted envelope every delta is taken in, and the gate is open at its end. -/
theorem Streams.push_ok (hserde : serde.Lawful) {rest : Text}
    (haccepts : Accepts serde policy cfg raw response all)
    (h : Streams serde .structuredSpeechFirstV1 policy cfg generation a t released)
    (hraw : raw = t ++ delta ++ rest)
    (hadvance : ∀ previous, a.lastSequence = some previous → previous < sequence) :
    ∃ sentences a', a.pushDelta serde generation sequence delta = .ok (.ok sentences, a') ∧
      (rest = [] → a'.speechFirstSpokenText ≠ none) := by
  obtain ⟨hsize, -, -, -, -, hvalid⟩ := fromJsonStrict_eq_ok.1 haccepts.strict
  have hroom : utf8Len (t ++ delta) ≤ maxProviderResponseBytes := by
    rw [hraw, utf8Len_append] at hsize
    omega
  have hcheck := h.checkDelta (by simp) hroom hadvance
  have hspoken := (NpcResponseEnvelopeV1.validate_eq_ok.1 hvalid).1
  have hwhole := haccepts.scanned
  rw [hraw] at hwhole
  obtain ⟨⟨reported, complete⟩, hscan⟩ := scan_prefix_ok hserde hwhole rfl
  simp only [pushDelta, hcheck, h.format_eq, pushSpeechFirst, h.buffer_eq, hscan]
  cases reported with
  | none =>
    refine ⟨[], _, rfl, ?_⟩
    rintro rfl
    rw [List.append_nil, hscan] at hwhole
    cases hwhole
  | some spoken =>
    obtain rfl := scan_spoken_stable hserde hscan hwhole
    simp only [h.policy_eq, hspoken]
    cases htext : a.speechFirstSpokenText with
    | none =>
      simp only [h.config_eq, haccepts.segmented, bind, Except.bind]
      exact ⟨all, _, rfl, fun _ => by simp⟩
    | some text =>
      have hlater : a.providerBuffer <+: t ++ delta := by
        rw [h.buffer_eq]
        exact List.prefix_append t delta
      have hopened := (h.gated h.active h.format_eq text htext).spoken_text hserde hlater hscan
      simp only [hopened, ne_eq, not_true_eq_false, if_false]
      exact ⟨[], _, rfl, fun _ => by simp⟩

/-- An accepted envelope finalizes once the gate is open. -/
theorem Streams.finish_ok (hserde : serde.Lawful)
    (haccepts : Accepts serde policy cfg t response all)
    (h : Streams serde .structuredSpeechFirstV1 policy cfg generation a t released)
    (hopen : a.speechFirstSpokenText ≠ none) :
    (a.finish serde generation).map Prod.fst =
      .ok (.ok ⟨response, .structuredSpeechFirstV1, [], all⟩) := by
  have hdoor : a.requireActiveGeneration generation = .ok () :=
    requireActiveGeneration_eq_ok.2 ⟨h.generation_eq.symm, h.active⟩
  obtain ⟨text, htext⟩ := Option.ne_none_iff_exists'.1 hopen
  have hlater : a.providerBuffer <+: t := by simp [h.buffer_eq]
  have hsame := (h.gated h.active h.format_eq text htext).spoken_text hserde hlater
    haccepts.scanned
  have hgate := h.released h.active
  simp only [h.format_eq, htext, h.config_eq] at hgate
  rw [← hsame, haccepts.segmented] at hgate
  have hall : a.releasedSentences = all := hgate.1.trans (Except.ok.inj hgate.2).symm
  simp [StreamingResponseAdapterV1.finish, hdoor, h.format_eq, finishSpeechFirst, h.buffer_eq,
    h.policy_eq, haccepts.scanned, htext, haccepts.strict, hsame, finalized, hall, Except.map]

/-- A session that waits for the whole envelope takes in every delta of an accepted one. -/
theorem Streams.pushStructured_ok {rest : Text}
    (haccepts : Accepts serde policy cfg raw response all)
    (h : Streams serde .structuredV1 policy cfg generation a t released)
    (hraw : raw = t ++ delta ++ rest)
    (hadvance : ∀ previous, a.lastSequence = some previous → previous < sequence) :
    ∃ a', a.pushDelta serde generation sequence delta = .ok (.ok [], a') := by
  have hsize := (fromJsonStrict_eq_ok.1 haccepts.strict).1
  have hroom : utf8Len (t ++ delta) ≤ maxProviderResponseBytes := by
    rw [hraw, utf8Len_append] at hsize
    omega
  have hcheck := h.checkDelta (by simp) hroom hadvance
  simp only [pushDelta, hcheck, h.format_eq]
  exact ⟨_, rfl⟩

theorem Streams.finishStructured_ok (haccepts : Accepts serde policy cfg t response all)
    (h : Streams serde .structuredV1 policy cfg generation a t released) :
    (a.finish serde generation).map Prod.fst = .ok (.ok ⟨response, .structuredV1, all, all⟩) := by
  have hdoor : a.requireActiveGeneration generation = .ok () :=
    requireActiveGeneration_eq_ok.2 ⟨h.generation_eq.symm, h.active⟩
  simp [StreamingResponseAdapterV1.finish, hdoor, h.format_eq, finishStructured, h.buffer_eq,
    h.policy_eq, h.config_eq, haccepts.strict, haccepts.segmented, finalized, Except.map, bind,
    Except.bind]

/-! ## Whole sessions -/

/-- A speech-first session that finalizes has taken in an accepted envelope, and its outcome is read
off that envelope. -/
theorem sessionFrom_accepts (hserde : serde.Lawful)
    (h : Streams serde .structuredSpeechFirstV1 policy cfg generation a t released)
    (hsession : sessionFrom serde generation deltas a = .ok (.ok fin)) :
    Accepts serde policy cfg (t ++ wholeText deltas) fin.response fin.allSentences ∧
      fin = ⟨fin.response, .structuredSpeechFirstV1, [], fin.allSentences⟩ := by
  induction deltas generalizing a t released with
  | nil =>
    obtain ⟨⟨reply, closed⟩, hfinish, rfl⟩ := map_eq_ok.1 hsession
    simpa [wholeText] using h.finish hserde hfinish
  | cons pushed deltas ih =>
    obtain ⟨sequence, delta⟩ := pushed
    obtain ⟨⟨reply, next⟩, hpush, hrest⟩ := bind_eq_ok.1 hsession
    cases reply with
    | error error => cases hrest
    | ok sentences =>
      have hwhole : t ++ wholeText ((sequence, delta) :: deltas) =
          t ++ delta ++ wholeText deltas := by simp [wholeText]
      rw [hwhole]
      exact ih (h.push hpush) hrest

/-- The deltas go on behind what the session has seen. -/
def Follows (a : StreamingResponseAdapterV1) (deltas : List (Nat × Text)) : Prop :=
  Increasing deltas ∧
    ∀ previous, a.lastSequence = some previous → ∀ pushed ∈ deltas, previous < pushed.1

theorem Follows.push (h : Follows a ((sequence, delta) :: deltas))
    (hlast : a'.lastSequence = some sequence) : Follows a' deltas := by
  obtain ⟨hincreasing, -⟩ := h
  simp only [Increasing, List.map_cons, List.pairwise_cons, List.mem_map] at hincreasing
  refine ⟨hincreasing.2, ?_⟩
  intro previous hprevious pushed hpushed
  rw [hlast] at hprevious
  cases hprevious
  exact hincreasing.1 _ ⟨pushed, hpushed, rfl⟩

/-- A speech-first session over an accepted envelope finalizes. -/
theorem sessionFrom_finalizes (hserde : serde.Lawful)
    (haccepts : Accepts serde policy cfg raw response all)
    (h : Streams serde .structuredSpeechFirstV1 policy cfg generation a t released)
    (hraw : raw = t ++ wholeText deltas) (hfollows : Follows a deltas)
    (hopen : raw = t → a.speechFirstSpokenText ≠ none) :
    sessionFrom serde generation deltas a =
      .ok (.ok ⟨response, .structuredSpeechFirstV1, [], all⟩) := by
  induction deltas generalizing a t released with
  | nil =>
    have hend : raw = t := by simpa [wholeText] using hraw
    subst hend
    exact Streams.finish_ok hserde haccepts h (hopen rfl)
  | cons pushed deltas ih =>
    obtain ⟨sequence, delta⟩ := pushed
    have hsplit : raw = t ++ delta ++ wholeText deltas := by rw [hraw]; simp [wholeText]
    obtain ⟨sentences, next, hpush, hgate⟩ := Streams.push_ok hserde haccepts h hsplit
      fun previous hlast => hfollows.2 previous hlast _ List.mem_cons_self
    obtain ⟨-, -, hlast⟩ := pushDelta_takes hpush
    have hrest : sessionFrom serde generation deltas next =
        .ok (.ok ⟨response, .structuredSpeechFirstV1, [], all⟩) := by
      apply ih (h.push hpush) hsplit (hfollows.push hlast)
      intro hend
      apply hgate
      simpa using hend.symm.trans hsplit
    simp only [sessionFrom, hpush, bind, Except.bind, hrest]

/-- A session that waits for the whole of an accepted envelope finalizes. -/
theorem sessionFrom_structured (haccepts : Accepts serde policy cfg raw response all)
    (h : Streams serde .structuredV1 policy cfg generation a t released)
    (hraw : raw = t ++ wholeText deltas) (hfollows : Follows a deltas) :
    sessionFrom serde generation deltas a = .ok (.ok ⟨response, .structuredV1, all, all⟩) := by
  induction deltas generalizing a t released with
  | nil =>
    have hend : raw = t := by simpa [wholeText] using hraw
    subst hend
    exact h.finishStructured_ok haccepts
  | cons pushed deltas ih =>
    obtain ⟨sequence, delta⟩ := pushed
    have hsplit : raw = t ++ delta ++ wholeText deltas := by rw [hraw]; simp [wholeText]
    obtain ⟨next, hpush⟩ := h.pushStructured_ok haccepts hsplit
      fun previous hlast => hfollows.2 previous hlast _ List.mem_cons_self
    obtain ⟨-, -, hlast⟩ := pushDelta_takes hpush
    simp only [sessionFrom, hpush, bind, Except.bind,
      ih (h.push hpush) hsplit (hfollows.push hlast)]

end Sessions

/-- An empty text is no envelope. -/
theorem Accepts.ne_nil {sentences : List SentenceSpan}
    (h : Accepts serde policy cfg raw response sentences) : raw ≠ [] := by
  rintro rfl
  cases h.scanned

theorem new_structured (format : StreamingResponseFormatV1) (hformat : format ≠ .legacyPlainText)
    (policy : ResponseValidationPolicy) (cfg : SentenceSegmenterConfig) (generation : Nat) :
    ∃ a, StreamingResponseAdapterV1.new format policy cfg generation = .ok a := by
  simp [StreamingResponseAdapterV1.new, ownSegmenter, hformat, bind, Except.bind, pure, Except.pure]

/-- **When a speech-first session finalizes depends on its text alone.** -/
theorem session_speechFirst_iff (hserde : serde.Lawful) (hincreasing : Increasing deltas) :
    session serde .structuredSpeechFirstV1 policy cfg generation deltas = .ok (.ok fin) ↔
      Accepts serde policy cfg (wholeText deltas) fin.response fin.allSentences ∧
        fin = ⟨fin.response, .structuredSpeechFirstV1, [], fin.allSentences⟩ := by
  obtain ⟨a, hnew⟩ := new_structured .structuredSpeechFirstV1 (by simp) policy cfg generation
  obtain ⟨hstreams, hlast⟩ := new_streams serde hnew
  simp only [session, hnew, bind, Except.bind]
  constructor
  · intro hsession
    exact sessionFrom_accepts hserde hstreams hsession
  · rintro ⟨haccepts, hfin⟩
    rw [hfin]
    apply sessionFrom_finalizes hserde haccepts hstreams rfl
    · refine ⟨hincreasing, ?_⟩
      simp [hlast]
    · intro hnil
      exact absurd hnil haccepts.ne_nil

theorem session_structured (hincreasing : Increasing deltas)
    (haccepts : Accepts serde policy cfg (wholeText deltas) response all) :
    session serde .structuredV1 policy cfg generation deltas =
      .ok (.ok ⟨response, .structuredV1, all, all⟩) := by
  obtain ⟨a, hnew⟩ := new_structured .structuredV1 (by simp) policy cfg generation
  obtain ⟨hstreams, hlast⟩ := new_streams serde hnew
  simp only [session, hnew, bind, Except.bind]
  apply sessionFrom_structured haccepts hstreams rfl
  refine ⟨hincreasing, ?_⟩
  simp [hlast]

/-- What a push releases is recorded, and is what every later scan reports. -/
theorem pushDelta_opens (hserde : serde.Lawful) {a a' : StreamingResponseAdapterV1}
    {released sentences : List SentenceSpan} {observed sequence : Nat} {delta : Text}
    (hformat : a.format = .structuredSpeechFirstV1) (hgated : Gated serde a)
    (hreleased : a.Released released)
    (hpush : a.pushDelta serde observed sequence delta = .ok (.ok sentences, a'))
    (hsome : sentences ≠ []) :
    ∃ text, a'.speechFirstSpokenText = some text ∧
      segmentText a.sentenceConfig text = .ok (released ++ sentences) ∧
      ∀ more spoken complete,
        scanSpeechFirstEnvelope serde (a'.providerBuffer ++ more) = .ok ⟨some spoken, complete⟩ →
          spoken.text = text := by
  have hcall : a.perform serde (.pushDelta observed sequence delta) = .ok (.ok sentences, a') :=
    hpush
  have hroute := perform_sameRoute hcall
  have hactive : a'.state = .active := by
    rw [(pushDelta_takes hpush).1]
    simp only [pushDelta] at hpush
    cases hcheck : a.checkDelta observed sequence delta with
    | error error =>
      rw [hcheck] at hpush
      cases hpush
    | ok _ => exact (checkDelta_active hcheck).2
  have hafter := pushDelta_released hreleased hpush hactive
  simp only [hroute.format_eq, hformat, Except.toOption, Option.getD_some] at hafter
  cases htext : a'.speechFirstSpokenText with
  | none =>
    simp only [htext] at hafter
    exact absurd (List.append_eq_nil_iff.1 hafter.2).2 hsome
  | some text =>
    simp only [htext, hroute.config_eq] at hafter
    have hopened := perform_gated hgated hcall hactive (hroute.format_eq.trans hformat) text htext
    exact ⟨text, rfl, hafter.2, fun more spoken complete hscan =>
      hopened.spoken_text hserde (List.prefix_append _ more) hscan⟩

/-- **Speech-first sessions agree with whole envelopes.** The text of what a push releases is what
every later scan of the session reports, if it reports a spoken response, and no call finds that it
changed. Whether a session finalizes, and with what, depends on its text and not on the deltas, and
the session that waits for the whole envelope then finalizes with the same response and sentences.
-/
theorem speech_first_agrees (hserde : serde.Lawful) (policy : ResponseValidationPolicy)
    (cfg : SentenceSegmenterConfig) (generation : Nat) :
    (∀ fresh calls released a,
      StreamingResponseAdapterV1.new .structuredSpeechFirstV1 policy cfg generation = .ok fresh →
      fresh.run serde calls = .ok (released, a) →
      (∀ observed sequence delta sentences a',
        a.pushDelta serde observed sequence delta = .ok (.ok sentences, a') → sentences ≠ [] →
        ∃ text, a'.speechFirstSpokenText = some text ∧
          segmentText cfg text = .ok (released ++ sentences) ∧
          ∀ more spoken complete,
            scanSpeechFirstEnvelope serde (a'.providerBuffer ++ more) =
              .ok ⟨some spoken, complete⟩ → spoken.text = text) ∧
      ∀ call error a', a.perform serde call = .ok (.error error, a') →
        error ≠ changedAfterRelease) ∧
    (∀ deltas deltas', wholeText deltas = wholeText deltas' → Increasing deltas →
      Increasing deltas' → ∀ fin,
        session serde .structuredSpeechFirstV1 policy cfg generation deltas = .ok (.ok fin) ↔
          session serde .structuredSpeechFirstV1 policy cfg generation deltas' = .ok (.ok fin)) ∧
    ∀ deltas deltas', wholeText deltas = wholeText deltas' → Increasing deltas →
      Increasing deltas' → ∀ fin,
        session serde .structuredSpeechFirstV1 policy cfg generation deltas = .ok (.ok fin) →
          ∃ fin', session serde .structuredV1 policy cfg generation deltas' = .ok (.ok fin') ∧
            fin'.response = fin.response ∧ fin'.allSentences = fin.allSentences := by
  refine ⟨?_, ?_, ?_⟩
  · intro fresh calls released a hnew hrun
    obtain ⟨hstreams, -⟩ := new_streams serde hnew
    have hroute := run_sameRoute hrun
    have hgated := run_gated hstreams.gated hrun
    have hreleased := run_released hstreams.released hrun
    rw [List.nil_append] at hreleased
    refine ⟨?_, fun call error a' hcall => perform_ne hserde hgated hcall⟩
    intro observed sequence delta sentences a' hpush hsome
    have hopens := pushDelta_opens hserde (hroute.format_eq.trans hstreams.format_eq) hgated
      hreleased hpush hsome
    rwa [hroute.config_eq, hstreams.config_eq] at hopens
  · intro deltas deltas' hsame hincreasing hincreasing' fin
    rw [session_speechFirst_iff hserde hincreasing, session_speechFirst_iff hserde hincreasing',
      hsame]
  · intro deltas deltas' hsame hincreasing hincreasing' fin hsession
    have haccepts := ((session_speechFirst_iff hserde hincreasing).1 hsession).1
    rw [hsame] at haccepts
    exact ⟨_, session_structured hincreasing' haccepts, rfl, rfl⟩

/-! ## A lawful parser -/

namespace Sample

section Lawful

variable {entries : List (Text × Value)}

/-- No known text starts another one. -/
def Apart (entries : List (Text × Value)) : Prop :=
  entries.Pairwise fun entry other => ¬ entry.1 <+: other.1 ∧ ¬ other.1 <+: entry.1

instance (entries : List (Text × Value)) : Decidable (Apart entries) :=
  inferInstanceAs (Decidable (List.Pairwise _ _))

variable {t : Text}

theorem Apart.unique (h : Apart entries) {entry other : Text × Value} (hentry : entry ∈ entries)
    (hother : other ∈ entries) (ht : entry.1 <+: t) (ht' : other.1 <+: t) : entry = other := by
  by_contra hne
  have : Std.Symm fun entry other : Text × Value =>
      ¬ entry.1 <+: other.1 ∧ ¬ other.1 <+: entry.1 := ⟨fun _ _ hnot => hnot.symm⟩
  have hapart := List.Pairwise.forall h hentry hother hne
  rcases List.prefix_or_prefix_of_prefix ht ht' with hle | hle
  · exact hapart.1 hle
  · exact hapart.2 hle

theorem find_known (h : Apart entries) {entry : Text × Value} :
    (entries.find? fun entry => entry.1.isPrefixOf t) = some entry ↔
      entry ∈ entries ∧ entry.1 <+: t := by
  constructor
  · intro hfind
    exact ⟨List.mem_of_find?_eq_some hfind, by simpa using List.find?_some hfind⟩
  · rintro ⟨hmem, hle⟩
    have hsome : (entries.find? fun entry => entry.1.isPrefixOf t).isSome = true :=
      List.find?_isSome.2 ⟨entry, hmem, List.isPrefixOf_iff_prefix.2 hle⟩
    obtain ⟨other, hother⟩ := Option.isSome_iff_exists.1 hsome
    rw [hother, h.unique (List.mem_of_find?_eq_some hother) hmem
      (by simpa using List.find?_some hother) hle]

variable {value : Value} {n : Nat}

theorem next_known (h : Apart entries) :
    (parser entries).next t = some (.ok (value, n)) ↔
      ∃ entry ∈ entries, entry.1 <+: t ∧ entry.2 = value ∧ entry.1.length = n := by
  constructor
  · intro hnext
    simp only [parser] at hnext
    split at hnext
    · rename_i entry hfind
      obtain ⟨hmem, hle⟩ := (find_known h).1 hfind
      cases hnext
      exact ⟨entry, hmem, hle, rfl, rfl⟩
    · split_ifs at hnext <;> cases hnext
  · rintro ⟨entry, hmem, hle, rfl, rfl⟩
    simp only [parser, (find_known h).2 ⟨hmem, hle⟩]

theorem nextString_eq (t : Text) :
    (parser entries).nextString t = ((parser entries).next t).map fun item => do
      let (value, length) ← item
      return (← Decode.string value, length) := rfl

theorem nextString_known {t key : Text} :
    (parser entries).nextString t = some (.ok (key, n)) ↔
      (parser entries).next t = some (.ok (.string key, n)) := by
  rw [nextString_eq]
  cases (parser entries).next t with
  | none => simp
  | some item =>
    cases item with
    | error error => simp [bind, Except.bind]
    | ok item =>
      obtain ⟨value, length⟩ := item
      cases value <;> simp [Decode.string, bind, Except.bind, pure, Except.pure]

variable (h : Apart entries)

include h

/-- At the start of a known text the parser waits. -/
theorem next_waits {t u : Text} (ht : t ≠ [])
    (hnext : (parser entries).next (t ++ u) = some (.ok (value, n))) (hlength : t.length < n) :
    (parser entries).next t = some (.error (.eof "EOF while parsing a value")) := by
  obtain ⟨entry, hmem, hle, -, rfl⟩ := (next_known h).1 hnext
  have hstart : t <+: entry.1 :=
    List.prefix_of_prefix_length_le (List.prefix_append t u) hle hlength.le
  have hnone : (entries.find? fun entry => entry.1.isPrefixOf t) = none := by
    rw [Option.eq_none_iff_forall_ne_some]
    intro other hfind
    obtain ⟨hother, hother'⟩ := (find_known h).1 hfind
    obtain rfl := h.unique hother hmem (hother'.trans (List.prefix_append t u)) hle
    exact absurd hother'.length_le (by omega)
  have hany : (entries.any fun entry => t.isPrefixOf entry.1) = true :=
    List.any_eq_true.2 ⟨entry, hmem, List.isPrefixOf_iff_prefix.2 hstart⟩
  simp only [parser, hnone, if_neg ht, hany, if_true]

theorem next_whole {t u : Text} (hnext : (parser entries).next (t ++ u) = some (.ok (value, n)))
    (hlength : n ≤ t.length) : (parser entries).next t = some (.ok (value, n)) := by
  obtain ⟨entry, hmem, hle, hvalue, rfl⟩ := (next_known h).1 hnext
  exact (next_known h).2 ⟨entry, hmem,
    List.prefix_of_prefix_length_le hle (List.prefix_append t u) hlength, hvalue, rfl⟩

theorem next_more (u : Text) (hnext : (parser entries).next t = some (.ok (value, n))) :
    (parser entries).next (t ++ u) = some (.ok (value, n)) := by
  obtain ⟨entry, hmem, hle, hvalue, rfl⟩ := (next_known h).1 hnext
  exact (next_known h).2 ⟨entry, hmem, hle.trans (List.prefix_append t u), hvalue, rfl⟩

/-- The text of a value is read as that value. -/
theorem fromStr_next (hnext : (parser entries).next t = some (.ok (value, n))) :
    (parser entries).fromStr (t.take n) = .ok value := by
  obtain ⟨entry, hmem, hle, rfl, rfl⟩ := (next_known h).1 hnext
  rw [← List.prefix_iff_eq_take.1 hle]
  have hlookup : entries.lookup entry.1 = some entry.2 := by
    obtain ⟨before, after, rfl⟩ := List.append_of_mem hmem
    refine List.lookup_eq_some_iff.2 ⟨before, after, rfl, ?_⟩
    intro other hother
    rw [bne_iff_ne]
    intro heq
    have hapart := (List.pairwise_append.1 h).2.2 other hother entry List.mem_cons_self
    exact hapart.2 (heq ▸ List.prefix_rfl)
  simp only [parser, hlookup]

/-- **A parser that knows texts apart is lawful**, if it knows the objects among them as their
members make them up. -/
theorem parser_lawful
    (hobjects : ∀ entry ∈ entries, ∀ members, readObject (parser entries) entry.1 = some members →
      ∃ object, entry.2 = .object object ∧ ∀ key, object.lookup key = members.lookup key) :
    (parser entries).Lawful where
  next_whole _ _ _ _ hnext hlength := next_whole h hnext hlength
  next_more _ u _ _ hnext _ := next_more h u hnext
  next_part _ _ _ _ ht hnext hlength := .inl (.inr ⟨_, next_waits h ht hnext hlength, rfl⟩)
  nextString_whole _ _ _ _ hnext hlength :=
    nextString_known.2 (next_whole h (nextString_known.1 hnext) hlength)
  nextString_more _ u _ _ hnext _ := nextString_known.2 (next_more h u (nextString_known.1 hnext))
  nextString_part t _ _ _ ht hnext hlength := by
    have hwaits := next_waits h ht (nextString_known.1 hnext) hlength
    refine .inr ⟨.eof "EOF while parsing a value", ?_, rfl⟩
    rw [nextString_eq, hwaits]
    rfl
  schema_typed t value n schema hnext hschema := by
    have hread : (parser entries).schemaFromStr (t.take n) =
        ((parser entries).fromStr (t.take n) >>= decodeSchemaVersion) := rfl
    rw [hread, fromStr_next h hnext] at hschema
    exact hschema
  spoken_typed t value n spoken hnext hspoken := by
    have hread : (parser entries).spokenFromStr (t.take n) =
        ((parser entries).fromStr (t.take n) >>= decodeSpoken) := rfl
    rw [hread, fromStr_next h hnext] at hspoken
    exact hspoken
  object_members raw value members hvalue hmembers _ := by
    simp only [parser] at hvalue
    split at hvalue
    · rename_i found hlookup
      cases hvalue
      obtain ⟨before, after, hknown, -⟩ := List.lookup_eq_some_iff.1 hlookup
      exact hobjects (raw, value) (by rw [hknown]; simp) members hmembers
    · cases hvalue

end Lawful

/-- The envelope and a field of an optional lane. -/
def laneKnown : List (Text × Value) :=
  known ++ [(quoted "emotion", .string "emotion".toList), ("null".toList, .null)]

theorem laneKnown_lawful : (parser laneKnown).Lawful := by
  refine parser_lawful (by decide +kernel) ?_
  intro entry hentry members hmembers
  simp only [laneKnown, known, List.cons_append, List.nil_append, List.mem_cons,
    List.not_mem_nil, or_false] at hentry
  rcases hentry with rfl | rfl | rfl | rfl | rfl | rfl | rfl
  · have hread : readObject (parser laneKnown) envelope =
        some [("schema_version".toList, .string npcResponseSchemaV1.toList),
          ("spoken_response".toList, spokenValue)] := rfl
    rw [hread] at hmembers
    cases hmembers
    exact ⟨_, rfl, fun key => rfl⟩
  all_goals cases hmembers

def opening : Text := '{' :: schemaMember ++ ',' :: member "spoken_response" spokenObject ++ [',']

def wellMet : Text := "Well met, traveller.".toList

def speechFirstAdapter : StreamingResponseAdapterV1 where
  format := .structuredSpeechFirstV1
  policy := {}
  sentenceConfig := {}
  sentenceSegmenter := none
  cancellationGeneration := 7

/-- The session has spoken, and waits for the next field. -/
def opened : StreamingResponseAdapterV1 :=
  { speechFirstAdapter with
    lastSequence := some 1
    providerBuffer := opening
    releasedSentences := [⟨1, 0, 20, wellMet⟩]
    speechFirstSpokenText := some wellMet }

/-- The envelope in two deltas. -/
def envelopeDeltas : List (Nat × Text) := [(1, envelope.take 40), (4, envelope.drop 40)]

end Sample

theorem value_at_end_reports_nothing :
    (Sample.parser Sample.laneKnown).Lawful ∧
      StreamingResponseAdapterV1.new .structuredSpeechFirstV1 {} {} 7 =
        .ok Sample.speechFirstAdapter ∧
      Sample.speechFirstAdapter.run (Sample.parser Sample.laneKnown)
        [.pushDelta 7 1 Sample.opening] = .ok ([⟨1, 0, 20, Sample.wellMet⟩], Sample.opened) ∧
      scanSpeechFirstEnvelope (Sample.parser Sample.laneKnown)
        (Sample.opened.providerBuffer ++ Sample.member "emotion" "null".toList) =
          .ok ⟨none, false⟩ :=
  ⟨Sample.laneKnown_lawful, rfl, rfl, by decide +kernel⟩

theorem speech_first_agrees_greeting :
    session (Sample.parser Sample.laneKnown) .structuredSpeechFirstV1 {} {} 7
        Sample.envelopeDeltas =
      .ok (.ok ⟨.plainText Sample.wellMet, .structuredSpeechFirstV1, [],
        [⟨1, 0, 20, Sample.wellMet⟩]⟩) ∧
    ∃ fin, session (Sample.parser Sample.laneKnown) .structuredV1 {} {} 7 [(1, Sample.envelope)] =
        .ok (.ok fin) ∧
      fin.response = .plainText Sample.wellMet ∧
      fin.allSentences = [⟨1, 0, 20, Sample.wellMet⟩] := by
  have hsession : session (Sample.parser Sample.laneKnown) .structuredSpeechFirstV1 {} {} 7
        Sample.envelopeDeltas =
      .ok (.ok ⟨.plainText Sample.wellMet, .structuredSpeechFirstV1, [],
        [⟨1, 0, 20, Sample.wellMet⟩]⟩) := by decide +kernel
  have hagree := (speech_first_agrees Sample.laneKnown_lawful {} {} 7).2.2 Sample.envelopeDeltas
    [(1, Sample.envelope)] (by decide +kernel) (by unfold Increasing; decide)
    (by unfold Increasing; decide) _ hsession
  exact ⟨hsession, hagree⟩

end NpcRuntime.Response
