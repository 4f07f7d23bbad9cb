import NpcRuntime.Lib.Machine
import NpcRuntime.Supervisor.Lanes

/-!
# Supervisor: outcome of a turn

Whatever the providers, the audio sink and the interleaving do, the outcome of a turn is consistent
(`turn_outcome_consistent`): its sentences come from one provider, no further provider is tried once
a delta was accepted, and every delivered sentence is where it says it is in the full response.

The invariant has a part for each lane. The language model lane accounts for what it has sent and
is about to send (`LlmOk`), by the account that its adapter keeps (`Released`). The speech lane has
got what was sent, in order (`SpeechOk`). And the turn is not settled when the language model lane
has failed behind a sentence: it only does so when the turn is cancelled or the speech lane has
failed too (`failed`).
-/

namespace NpcRuntime.Lanes

open Text Sentence Response

/-! ## Sentences of a text -/

/-- Each sentence is where it says it is, and they are numbered upwards. -/
structure Located (text : Text) (sentences : List SentenceSpan) : Prop where
  exact : ∀ sentence ∈ sentences,
    slice text sentence.textStartBytes sentence.textEndBytes = some sentence.text
  increasing : sentences.Pairwise fun a b => a.sentenceId < b.sentenceId

namespace Located

theorem nil (text : Text) : Located text [] := ⟨by simp, .nil⟩

theorem of_partitions {text : Text} {sentences : List SentenceSpan}
    (h : Partitions text sentences) : Located text sentences := by
  refine ⟨h.exact, ?_⟩
  have hids : (sentences.map (·.sentenceId)).Pairwise (· < ·) := by
    rw [h.numbered]
    exact List.pairwise_lt_range'
  exact List.pairwise_map.1 hids

/-- Text behind them does not move them. -/
theorem append {text : Text} {sentences : List SentenceSpan} (h : Located text sentences)
    (more : Text) : Located (text ++ more) sentences := by
  refine ⟨?_, h.increasing⟩
  intro sentence hs
  obtain ⟨before, after, rfl, hstart, hend⟩ := slice_eq_some.1 (h.exact sentence hs)
  exact slice_eq_some.2 ⟨before, after ++ more, by rw [List.append_assoc], hstart, hend⟩

end Located

/-- What a session has released is in the text that is reported if it fails. -/
theorem located_of_released {a : StreamingResponseAdapterV1} {released : List SentenceSpan}
    (h : a.Released released) (hactive : a.state = .active) {providerOutput : Text}
    (houtput : a.format = .legacyPlainText → a.providerBuffer = providerOutput) :
    Located (safePartialResponse a.format providerOutput a) released := by
  have hreleased := h hactive
  cases hformat : a.format with
  | structuredV1 =>
    simp only [hformat] at hreleased
    rw [hreleased]
    exact .nil _
  | structuredSpeechFirstV1 =>
    simp only [hformat] at hreleased
    obtain ⟨-, htext⟩ := hreleased
    simp only [safePartialResponse, StreamingResponseAdapterV1.releasedSpokenText]
    cases hspoken : a.speechFirstSpokenText with
    | none =>
      simp only [hspoken] at htext
      rw [htext]
      exact .nil _
    | some text =>
      simp only [hspoken] at htext
      exact .of_partitions (segmentText_partitions htext)
  | legacyPlainText =>
    simp only [hformat] at hreleased
    obtain ⟨-, -, segmenter, -, consumed, hbuffer, -, -, htiles⟩ := hreleased
    simp only [safePartialResponse]
    rw [← houtput hformat, hbuffer]
    exact (Located.of_partitions htiles.partitions).append _

/-! ## The record of a turn -/

namespace LaneEvent

def isTried : LaneEvent → Bool
  | .tried _ => true
  | _ => false

/-- The provider that an accepted delta or a sentence comes from. -/
def source : LaneEvent → Option ProviderDescriptor
  | .tried _ => none
  | .accepted provider _ | .sent provider _ => some provider

def sentence : LaneEvent → Option SentenceSpan
  | .sent _ sentence => some sentence
  | _ => none

end LaneEvent

/-- The sentences that were sent. -/
def sentences (history : List LaneEvent) : List SentenceSpan :=
  history.filterMap LaneEvent.sentence

/-- Nothing was accepted from the providers that were tried. -/
def Untouched (history : List LaneEvent) : Prop := ∀ event ∈ history, event.isTried = true

theorem Untouched.sentences_eq {history : List LaneEvent} (h : Untouched history) :
    sentences history = [] := by
  refine List.filterMap_eq_nil_iff.2 ?_
  intro event hevent
  have htried := h event hevent
  cases event with
  | tried provider => rfl
  | accepted provider text => cases htried
  | sent provider sentence => cases htried

/-- Providers are tried before anything is accepted, and then one provider is heard. -/
structure Orderly (history : List LaneEvent) (owner : ProviderDescriptor) : Prop where
  ordered : history.Pairwise fun earlier later =>
    later.isTried = true → earlier.isTried = true
  owned : ∀ event ∈ history, ∀ provider ∈ event.source, provider = owner

variable {event : LaneEvent}

namespace Orderly

variable {history : List LaneEvent} {owner : ProviderDescriptor}

/-- A provider may be tried as long as nothing was accepted. -/
theorem tried (h : Orderly history owner) (hnone : Untouched history)
    (provider : ProviderDescriptor) : Orderly (history ++ [.tried provider]) provider := by
  refine ⟨List.pairwise_append.2 ⟨h.ordered, List.pairwise_singleton _ _, ?_⟩, ?_⟩
  · intro event hevent _ _ _
    exact hnone event hevent
  · intro event hevent source hsource
    have htried : event.isTried = true := by
      rcases List.mem_append.1 hevent with hold | hnew
      · exact hnone event hold
      · rw [List.mem_singleton.1 hnew]
        rfl
    cases event with
    | tried provider => cases hsource
    | accepted provider text => cases htried
    | sent provider sentence => cases htried

/-- What its owner brings is no try. -/
theorem heard (h : Orderly history owner) (htried : event.isTried = false)
    (hsource : event.source = some owner) : Orderly (history ++ [event]) owner := by
  refine ⟨List.pairwise_append.2 ⟨h.ordered, List.pairwise_singleton _ _, ?_⟩, ?_⟩
  · intro _ _ later hlater hlaterTried
    rw [List.mem_singleton.1 hlater, htried] at hlaterTried
    cases hlaterTried
  · intro other hother provider hprovider
    rcases List.mem_append.1 hother with hold | hnew
    · exact h.owned other hold provider hprovider
    · rw [List.mem_singleton.1 hnew, hsource] at hprovider
      exact (Option.mem_some_iff.1 hprovider).symm

end Orderly

/-! ## The language model lane -/

/-- The lane sends no more sentences. -/
def LlmPhase.quiet : LlmPhase → Bool
  | .finished _ | .panicked => true
  | .doing (.send _ _) _ => false
  | .doing _ next => next.quiet
  | _ => false

def LlmPhase.hasFailed : LlmPhase → Bool
  | .finished (.error _) => true
  | _ => false

/-- The session of an attempt has released what was sent and what is about to be. -/
structure Serves (setup : Setup) (owner : ProviderDescriptor) (route : LlmRoute)
    (attempt : Attempt) (released : List SentenceSpan) : Prop where
  owner_eq : attempt.provider = owner
  released : attempt.adapter.Released released
  active : attempt.adapter.state = .active
  generation_eq : attempt.adapter.cancellationGeneration = setup.generation
  format_eq : attempt.adapter.format = route.format
  output : route.format = .legacyPlainText →
    attempt.adapter.providerBuffer = attempt.providerOutput

/-- The first delta has come. -/
theorem Serves.heard {setup : Setup} {owner : ProviderDescriptor} {route : LlmRoute}
    {attempt : Attempt} {released : List SentenceSpan}
    (h : Serves setup owner route attempt released) :
    Serves setup owner route { attempt with firstDelta := false } released :=
  ⟨h.owner_eq, h.released, h.active, h.generation_eq, h.format_eq, h.output⟩

/-- Where the lane may be, with the sentences that wait to be sent. -/
def LlmOk (setup : Setup) (owner : ProviderDescriptor) (history : List LaneEvent) :
    LlmPhase → List SentenceSpan → Prop
  | .choosing _ _ _, waiting => Untouched history ∧ waiting = []
  | .opening _ provider _, waiting => Untouched history ∧ waiting = [] ∧ provider = owner
  | .streaming route attempt _, waiting =>
    Serves setup owner route attempt (sentences history ++ waiting) ∧
      (attempt.providerOutput = [] → Untouched history ∧ waiting = []) ∧
      (attempt.firstDelta = true → attempt.providerOutput = [])
  | .pushing route attempt _ delta, waiting =>
    Serves setup owner route attempt (sentences history) ∧ waiting = [] ∧
      attempt.firstDelta = false ∧ delta.text ≠ []
  | .doing .emit next, waiting => next.hasFailed = false ∧ LlmOk setup owner history next waiting
  | .doing (.send provider sentence) next, waiting =>
    provider = owner ∧ next.hasFailed = false ∧
      LlmOk setup owner history next (waiting ++ [sentence])
  | .doing .drop next, waiting =>
    next.quiet = true ∧ next.hasFailed = false ∧ LlmOk setup owner history next waiting
  | .finished (.ok result), waiting => Located result.fullText (sentences history ++ waiting)
  | .finished (.error _), _ => True
  | .panicked, _ => True

variable {next : LlmPhase}

section LlmOk

variable {setup : Setup} {owner : ProviderDescriptor} {history : List LaneEvent}
  {waiting : List SentenceSpan}

theorem sentences_append_sent (provider : ProviderDescriptor) (sentence : SentenceSpan) :
    sentences (history ++ [.sent provider sentence]) = sentences history ++ [sentence] := by
  simp [sentences, LaneEvent.sentence]

theorem sentences_append_of_none (h : event.sentence = none) :
    sentences (history ++ [event]) = sentences history := by
  simp [sentences, h]

/-- The first sentence that waits is sent. -/
theorem LlmOk.sent {phase : LlmPhase} {sentence : SentenceSpan}
    (h : LlmOk setup owner history phase (sentence :: waiting)) :
    LlmOk setup owner (history ++ [.sent owner sentence]) phase waiting := by
  have hshift : sentences (history ++ [.sent owner sentence]) ++ waiting =
      sentences history ++ sentence :: waiting := by
    rw [sentences_append_sent, List.append_assoc]
    rfl
  induction phase generalizing waiting with
  | choosing route rest lastError => cases h.2
  | opening route provider rest => cases h.2.1
  | streaming route attempt rest =>
    obtain ⟨hserves, hempty, hfirst⟩ := h
    refine ⟨hshift ▸ hserves, ?_, hfirst⟩
    intro houtput
    cases (hempty houtput).2
  | pushing route attempt rest delta => cases h.2.1
  | doing op next ih =>
    cases op with
    | emit => exact ⟨h.1, ih h.2 hshift⟩
    | send provider more =>
      refine ⟨h.1, h.2.1, ih h.2.2 ?_⟩
      rw [← List.append_assoc, hshift, List.append_assoc]
      rfl
    | drop => exact ⟨h.1, h.2.1, ih h.2.2 hshift⟩
  | finished result =>
    cases result with
    | error error => trivial
    | ok result =>
      show Located _ _
      rw [hshift]
      exact h
  | panicked => trivial

theorem hasFailed_after (h : next.hasFailed = false) (ops : List LaneOp) :
    (LlmPhase.after ops next).hasFailed = false := by
  cases ops with
  | nil => exact h
  | cons op ops => rfl

/-- Sentences that are ready wait behind those that do already. -/
theorem LlmOk.sendAll {next : LlmPhase} {ready : List SentenceSpan}
    (h : LlmOk setup owner history next (waiting ++ ready)) (hfailed : next.hasFailed = false) :
    LlmOk setup owner history (.after (sendAll owner ready) next) waiting := by
  induction ready generalizing waiting with
  | nil =>
    rw [List.append_nil] at h
    exact h
  | cons sentence ready ih =>
    have hrest : LlmOk setup owner history (.after (Lanes.sendAll owner ready) next)
        (waiting ++ [sentence]) := by
      refine ih ?_
      rw [List.append_assoc]
      exact h
    exact ⟨rfl, rfl, hasFailed_after hfailed _, hrest⟩

/-- Events at the end of the lane. -/
theorem LlmOk.emits (h : LlmOk setup owner history next waiting) (hquiet : next.quiet = true)
    (hfailed : next.hasFailed = false) (degradations : List Degradation) :
    (LlmPhase.after (degradations.map fun _ => .emit) next).quiet = true ∧
      LlmOk setup owner history (.after (degradations.map fun _ => .emit) next) waiting := by
  induction degradations with
  | nil => exact ⟨hquiet, h⟩
  | cons degradation degradations ih => exact ⟨ih.1, hasFailed_after hfailed _, ih.2⟩

end LlmOk

/-! ## The speech lane -/

/-- The sentence that was delivered. -/
def DeliveredSentence.span (d : DeliveredSentence) : SentenceSpan :=
  ⟨d.sentenceId, d.textStartBytes, d.textEndBytes, d.text⟩

@[simp] theorem span_deliverSentence (sentence : SentenceSpan) (receipt : Option PlaybackReceipt) :
    (deliverSentence sentence receipt).span = sentence := rfl

/-- The sentences that the lane has delivered so far. -/
def SpeechLane.spans (lane : SpeechLane) : List SentenceSpan :=
  lane.delivered.map DeliveredSentence.span

def SpeechPhase.hasFailed : SpeechPhase → Bool
  | .finished (.error _) | .panicked _ => true
  | _ => false

/-- Where the lane may be, with what was sent and what is in the channel. -/
def SpeechOk (sent channel : List SentenceSpan) (closed : Bool) : SpeechPhase → Prop
  | .receiving lane => lane.spans ++ channel = sent
  | .trying lane sentence _ | .starting lane sentence _ _ | .synthesizing lane sentence _ _ |
    .playing lane sentence _ => lane.spans ++ sentence :: channel = sent
  | .emitting next => next.hasEnded = false ∧ SpeechOk sent channel closed next
  | .finished (.ok result) => closed = true ∧ result.delivered.map DeliveredSentence.span = sent
  | .finished (.error _) | .panicked _ => True

variable {lane : SpeechLane}

section SpeechOk

variable {sent channel : List SentenceSpan} {closed : Bool} {phase : SpeechPhase}

theorem SpeechOk.close (h : SpeechOk sent channel closed phase) :
    SpeechOk sent channel true phase := by
  induction phase with
  | receiving | trying | starting | synthesizing | playing | panicked => exact h
  | emitting next ih => exact ⟨h.1, ih h.2⟩
  | finished result =>
    cases result with
    | error error => trivial
    | ok result => exact ⟨rfl, h.2⟩

/-- A sentence is sent to a lane that runs. -/
theorem SpeechOk.send (h : SpeechOk sent channel closed phase) (hruns : phase.hasEnded = false)
    (sentence : SentenceSpan) :
    SpeechOk (sent ++ [sentence]) (channel ++ [sentence]) closed phase := by
  induction phase with
  | receiving lane =>
    show _ ++ (_ ++ _) = _
    rw [← List.append_assoc, h]
  | trying lane current | starting lane current | synthesizing lane current
  | playing lane current =>
    show lane.spans ++ current :: (channel ++ [sentence]) = _
    rw [← List.cons_append, ← List.append_assoc, h]
  | emitting next ih => exact ⟨h.1, ih h.2 h.1⟩
  | finished | panicked => cases hruns

variable {sentence : SentenceSpan} (h : lane.spans ++ sentence :: channel = sent)

include h

/-- The current sentence is delivered. -/
theorem SpeechOk.deliver (receipt : Option PlaybackReceipt) :
    SpeechOk sent channel closed (lane.deliver sentence receipt) := by
  refine ⟨rfl, ?_⟩
  show SpeechLane.spans _ ++ channel = sent
  simp only [SpeechLane.spans, List.map_append, List.map_cons, List.map_nil, span_deliverSentence,
    List.append_assoc]
  exact h

theorem SpeechOk.subtitle : SpeechOk sent channel closed (lane.subtitle sentence) := by
  unfold SpeechLane.subtitle
  split_ifs
  · exact SpeechOk.deliver h none
  · refine ⟨rfl, SpeechOk.deliver ?_ none⟩
    exact h

theorem SpeechOk.voiced (primary : Option ProviderDescriptor) (provider : ProviderDescriptor)
    (receipt : PlaybackReceipt) :
    SpeechOk sent channel closed (lane.voiced primary sentence provider receipt) := by
  unfold SpeechLane.voiced
  dsimp only
  split
  · refine SpeechOk.deliver ?_ _
    exact h
  · refine SpeechOk.deliver ?_ _
    exact h
  · refine ⟨rfl, SpeechOk.deliver ?_ _⟩
    exact h

theorem SpeechOk.tryCandidate (setup : Setup) (provider : ProviderDescriptor)
    (rest : List ProviderDescriptor) (permit : Bool) :
    SpeechOk sent channel closed (lane.tryCandidate setup sentence provider rest permit) := by
  unfold SpeechLane.tryCandidate
  split
  · exact SpeechOk.subtitle h
  · split_ifs <;> exact h

theorem SpeechOk.endPlayback (setup : Setup) (provider : ProviderDescriptor)
    (receipt : Option PlaybackReceipt) :
    SpeechOk sent channel closed (State.endPlayback setup lane sentence provider receipt) := by
  unfold State.endPlayback
  split
  · split_ifs
    · exact SpeechOk.voiced h _ _ _
    · trivial
  · exact SpeechOk.subtitle h

end SpeechOk

/-! ## The turn -/

/-- Nothing is said of a sentence that is not in the response. -/
def Settles (cancelled : Bool) (llm : Except SupervisorError LlmLaneResult)
    (speech : Except SupervisorError SpeechLaneResult) : Prop :=
  ∀ delivered, speech.map (·.delivered) = .ok delivered →
    match llm with
    | .ok result => Located result.fullText (delivered.map DeliveredSentence.span)
    | .error _ => cancelled = true ∨ delivered = []

/-- The outcome that a turn reports is consistent. -/
def Consistent (outcome : TurnOutcome) : Prop :=
  Located outcome.fullResponse (outcome.delivered.map DeliveredSentence.span)

/-- Where the turn may be. Before its first event it may not know yet that it is cancelled. -/
def JoinOk (cancelled : Bool) (outcome : TurnOutcome) : JoinPhase → Prop
  | .awaiting => outcome.delivered = []
  | .settling llm speech => outcome.delivered = [] ∧ Settles cancelled llm speech
  | .emitting next => JoinOk cancelled outcome next
  | .committing _ | .deferring _ | .closing _ | .completing | .ended => Consistent outcome

theorem Consistent.of_none {outcome : TurnOutcome} (h : outcome.delivered = []) :
    Consistent outcome := by
  unfold Consistent
  rw [h]
  exact .nil _

section JoinOk

variable {cancelled : Bool} {outcome : TurnOutcome} {phase : JoinPhase}

theorem JoinOk.consistent (h : JoinOk cancelled outcome phase) : Consistent outcome := by
  induction phase with
  | awaiting => exact .of_none h
  | settling llm speech => exact .of_none h.1
  | emitting next ih => exact ih h
  | committing | deferring | closing | completing | ended => exact h

/-- A turn that may be cancelled promises less. -/
theorem JoinOk.mono {cancelled' : Bool} (h : JoinOk cancelled outcome phase)
    (himp : cancelled = true → cancelled' = true) : JoinOk cancelled' outcome phase := by
  induction phase with
  | settling llm speech =>
    refine ⟨h.1, ?_⟩
    intro delivered hdelivered
    have hsettled := h.2 delivered hdelivered
    cases llm with
    | ok result => exact hsettled
    | error error => exact hsettled.imp himp id
  | emitting next ih => exact ih h
  | awaiting | committing | deferring | closing | completing | ended => exact h

end JoinOk

/-- The turn behind its lanes. -/
def JoinInv (s : State) : Prop :=
  match s.join with
  | .emitting next => JoinOk s.cancelled s.outcome next
  | phase => JoinOk false s.outcome phase

theorem JoinInv.of_ok {s : State} (h : JoinOk false s.outcome s.join) : JoinInv s := by
  unfold JoinInv
  split
  · rename_i next hjoin
    rw [hjoin] at h
    exact JoinOk.mono h nofun
  · exact h

theorem JoinInv.cancel {s : State} (h : JoinInv s) : JoinInv { s with cancelled := true } := by
  unfold JoinInv at h ⊢
  split
  · rename_i next hjoin
    rw [hjoin] at h
    exact JoinOk.mono h fun _ => rfl
  · rename_i phase hphase
    split at h
    · rename_i next hjoin
      exact absurd hjoin (hphase next)
    · exact h

/-! ## The invariant -/

structure LanesInv (setup : Setup) (s : State) : Prop where
  llm : ∃ owner, Orderly s.history owner ∧ LlmOk setup owner s.history s.llm []
  closed : s.closed = true → s.llm.quiet = true
  speech : SpeechOk (sentences s.history) s.channel s.closed s.speech
  failed : s.llm.hasFailed = true →
    s.cancelled = true ∨ s.speech.hasFailed = true ∨ sentences s.history = []
  join : JoinInv s

namespace LanesInv

variable {setup : Setup} {s : State}

/-- A lane that may still send has its sender. -/
theorem not_closed (h : LanesInv setup s) (hphase : s.llm.quiet = false) : ¬ s.closed = true := by
  intro hclosed
  rw [h.closed hclosed] at hphase
  cases hphase

section Llm

variable {owner : ProviderDescriptor} {history : List LaneEvent} {phase : LlmPhase}

section

variable (h : LanesInv setup s)

include h

/-- The language model lane moves on. -/
theorem moveTo (horderly : Orderly s.history owner) (hok : LlmOk setup owner s.history phase [])
    (hquiet : s.closed = true → phase.quiet = true) (hfailed : phase.hasFailed = false) :
    LanesInv setup { s with llm := phase } where
  llm := ⟨owner, horderly, hok⟩
  closed := hquiet
  speech := h.speech
  failed := fun hphase => absurd hphase (Bool.eq_false_iff.1 hfailed)
  join := h.join

/-- It moves on while it may still send. -/
theorem move (hopen : s.llm.quiet = false) (horderly : Orderly s.history owner)
    (hok : LlmOk setup owner s.history phase []) (hfailed : phase.hasFailed = false) :
    LanesInv setup { s with llm := phase } :=
  h.moveTo horderly hok (fun hclosed => absurd hclosed (h.not_closed hopen)) hfailed

/-- It notes something down, and moves on. -/
theorem note (hevent : event.sentence = none) (horderly : Orderly (s.history ++ [event]) owner)
    (hok : LlmOk setup owner (s.history ++ [event]) phase []) (hopen : s.llm.quiet = false)
    (hfailed : phase.hasFailed = false) :
    LanesInv setup { s with llm := phase, history := s.history ++ [event] } where
  llm := ⟨owner, horderly, hok⟩
  closed := fun hclosed => absurd hclosed (h.not_closed hopen)
  speech := by
    rw [sentences_append_of_none hevent]
    exact h.speech
  failed := fun hphase => absurd hphase (Bool.eq_false_iff.1 hfailed)
  join := h.join

/-- It returns a result. -/
theorem finishOk {result : LlmLaneResult}
    (hlocated : Located result.fullText (sentences s.history)) :
    LanesInv setup (s.finishLlm (.ok result)) where
  llm := by
    obtain ⟨owner, horderly, -⟩ := h.llm
    refine ⟨owner, horderly, ?_⟩
    show Located _ (_ ++ [])
    rw [List.append_nil]
    exact hlocated
  closed := fun _ => rfl
  speech := h.speech.close
  failed := by
    intro hphase
    cases hphase
  join := h.join

/-- It returns an error, for one of the three reasons it can have. -/
theorem finishError (error : SupervisorError)
    (hreason : s.cancelled = true ∨ s.speech.hasFailed = true ∨ sentences s.history = []) :
    LanesInv setup (s.finishLlm (.error error)) where
  llm := by
    obtain ⟨owner, horderly, -⟩ := h.llm
    exact ⟨owner, horderly, trivial⟩
  closed := fun _ => rfl
  speech := h.speech.close
  failed := fun _ => hreason
  join := h.join

theorem panics : LanesInv setup s.panicLlm where
  llm := by
    obtain ⟨owner, horderly, -⟩ := h.llm
    exact ⟨owner, horderly, trivial⟩
  closed := fun _ => rfl
  speech := h.speech.close
  failed := by
    intro hphase
    cases hphase
  join := h.join

theorem runOp {op : LaneOp} (hllm : s.llm = .doing op next) :
    LanesInv setup (s.runOp setup op next) := by
  obtain ⟨owner, horderly, hok⟩ := h.llm
  rw [hllm] at hok
  cases op with
  | emit =>
    simp only [State.runOp]
    split_ifs with hcancelled
    · exact h.finishError _ (.inl hcancelled)
    · refine h.moveTo horderly hok.2 ?_ hok.1
      intro hclosed
      have hquiet := h.closed hclosed
      rw [hllm] at hquiet
      exact hquiet
  | send provider sentence =>
    obtain ⟨rfl, hfailed, hnext⟩ := hok
    have hopen : ¬ s.closed = true := h.not_closed (by rw [hllm]; rfl)
    simp only [State.runOp]
    split_ifs with hended hroom
    · -- The receiver is gone and the channel is open, so the speech lane has failed.
      refine h.finishError _ (.inr (.inl ?_))
      have hspeech := h.speech
      cases hphase : s.speech with
      | finished result =>
        cases result with
        | error error => rfl
        | ok result =>
          rw [hphase] at hspeech
          exact absurd hspeech.1 hopen
      | panicked message => rfl
      | receiving | trying | starting | synthesizing | playing | emitting =>
        rw [hphase] at hended
        cases hended
    · refine ⟨⟨provider, horderly.heard rfl rfl, hnext.sent⟩,
        fun hclosed => absurd hclosed hopen, ?_,
        fun hphase => absurd hphase (Bool.eq_false_iff.1 hfailed), h.join⟩
      rw [sentences_append_sent]
      exact h.speech.send (by simpa using hended) sentence
    · exact h
  | drop =>
    obtain ⟨hquiet, hfailed, hnext⟩ := hok
    exact ⟨⟨owner, horderly, hnext⟩, fun _ => hquiet, h.speech.close,
      fun hphase => absurd hphase (Bool.eq_false_iff.1 hfailed), h.join⟩

theorem tryCandidate {route : LlmRoute} {provider : ProviderDescriptor}
    {rest : List ProviderDescriptor} {lastError : String}
    (hllm : s.llm = .choosing route (provider :: rest) lastError) (permit : Except String Unit) :
    LanesInv setup (s.tryCandidate setup route provider rest lastError permit) := by
  obtain ⟨owner, horderly, hok⟩ := h.llm
  rw [hllm] at hok
  have hopen : s.llm.quiet = false := by rw [hllm]; rfl
  unfold State.tryCandidate
  split_ifs with htransition hcancelled
  · exact h.move hopen horderly hok rfl
  · exact h.finishError _ (.inl hcancelled)
  · cases permit with
    | error error => exact h.move hopen horderly hok rfl
    | ok _ =>
      refine h.note rfl (horderly.tried hok.1 provider) ⟨?_, rfl, rfl⟩ hopen rfl
      intro event hevent
      rcases List.mem_append.1 hevent with hold | hnew
      · exact hok.1 event hold
      · rw [List.mem_singleton.1 hnew]
        rfl

theorem openStream {route : LlmRoute} {provider : ProviderDescriptor}
    {rest : List ProviderDescriptor} (hllm : s.llm = .opening route provider rest)
    (result : Except ProviderError Unit) :
    LanesInv setup (s.openStream setup route provider rest result) := by
  obtain ⟨owner, horderly, hok⟩ := h.llm
  rw [hllm] at hok
  obtain ⟨hnone, -, rfl⟩ := hok
  have hopen : s.llm.quiet = false := by rw [hllm]; rfl
  cases result with
  | error error => exact h.move hopen horderly ⟨rfl, hnone, rfl⟩ rfl
  | ok _ =>
    simp only [State.openStream]
    split
    · exact h.panics
    · rename_i adapter hnew
      refine h.move hopen horderly ⟨?_, fun _ => ⟨hnone, rfl⟩, fun _ => rfl⟩ rfl
      obtain ⟨hreleased, hgeneration⟩ := StreamingResponseAdapterV1.new_released hnew
      rw [hnone.sentences_eq]
      obtain ⟨_, -, hadapter⟩ := bind_eq_ok.1 hnew
      cases hadapter
      exact ⟨rfl, hreleased, rfl, hgeneration, rfl, fun _ => rfl⟩

end

section Stream

variable {route : LlmRoute} {attempt : Attempt} {rest : List ProviderDescriptor}

theorem receiveDelta (h : LanesInv setup s) (hllm : s.llm = .streaming route attempt rest)
    (delta : LlmDelta) : LanesInv setup (s.receiveDelta route attempt rest delta) := by
  obtain ⟨owner, horderly, hok⟩ := h.llm
  rw [hllm] at hok
  obtain ⟨hserves, -, -⟩ := hok
  rw [List.append_nil] at hserves
  have hopen : s.llm.quiet = false := by rw [hllm]; rfl
  unfold State.receiveDelta
  split_ifs with hempty hfirst
  · exact h
  · exact h.move hopen horderly ⟨rfl, hserves.heard, rfl, rfl, hempty⟩ rfl
  · exact h.move hopen horderly ⟨hserves.heard, rfl, rfl, hempty⟩ rfl

/-- A session that fails has released sentences of the text it leaves. -/
theorem located_partialResult {released : List SentenceSpan}
    (hserves : Serves setup owner route attempt released) {adapter : StreamingResponseAdapterV1}
    (hreleased : adapter.Released released) (hactive : adapter.state = .active)
    (hformat : adapter.format = route.format)
    (hlegacy : route.format = .legacyPlainText → adapter = attempt.adapter)
    (error : SupervisorError) :
    Located (partialResult route attempt adapter error).fullText released := by
  have hlocated := @located_of_released adapter released hreleased hactive attempt.providerOutput
    (by
      intro hplain
      rw [hformat] at hplain
      rw [hlegacy hplain]
      exact hserves.output hplain)
  rw [hformat] at hlocated
  exact hlocated

theorem failStream (h : LanesInv setup s) (hllm : s.llm = .streaming route attempt rest)
    (error : ProviderError) : LanesInv setup (s.failStream route attempt rest error) := by
  obtain ⟨owner, horderly, hok⟩ := h.llm
  rw [hllm] at hok
  obtain ⟨hserves, hempty, -⟩ := hok
  rw [List.append_nil] at hserves
  have hopen : s.llm.quiet = false := by rw [hllm]; rfl
  unfold State.failStream
  split_ifs with houtput
  · exact h.move hopen horderly (hempty houtput) rfl
  · exact h.finishOk (located_partialResult hserves hserves.released hserves.active
      hserves.format_eq (fun _ => rfl) _)

theorem pushDelta (h : LanesInv setup s) {delta : LlmDelta}
    (hllm : s.llm = .pushing route attempt rest delta) :
    LanesInv setup (s.pushDelta setup route attempt rest delta) := by
  obtain ⟨owner, horderly, hok⟩ := h.llm
  rw [hllm] at hok
  obtain ⟨hserves, -, hfirst, hdelta⟩ := hok
  obtain rfl := hserves.owner_eq
  have hopen : s.llm.quiet = false := by rw [hllm]; rfl
  unfold State.pushDelta
  split
  · exact h.panics
  · rename_i error adapter hpush
    have hcall : attempt.adapter.perform setup.serde (.pushDelta setup.generation delta.sequence
      delta.text) = .ok (.error error, adapter) := hpush
    have hroute := StreamingResponseAdapterV1.perform_sameRoute hcall
    obtain ⟨hstate, hlegacy⟩ := StreamingResponseAdapterV1.pushDelta_refused hpush
    have hreleased := StreamingResponseAdapterV1.pushDelta_released hserves.released hpush
    simp only [Except.toOption, Option.getD_none, List.append_nil] at hreleased
    refine h.finishOk (located_partialResult hserves hreleased (hstate.trans hserves.active)
      (hroute.format_eq.trans hserves.format_eq) ?_ _)
    intro hplain
    exact hlegacy (hserves.format_eq.trans hplain)
  · rename_i ready adapter hpush
    have hcall : attempt.adapter.perform setup.serde (.pushDelta setup.generation delta.sequence
      delta.text) = .ok (.ok ready, adapter) := hpush
    have hroute := StreamingResponseAdapterV1.perform_sameRoute hcall
    obtain ⟨hstate, hbuffer, -⟩ := StreamingResponseAdapterV1.pushDelta_takes hpush
    have hreleased := StreamingResponseAdapterV1.pushDelta_released hserves.released hpush
    -- The session goes on with the delta in its output.
    have hnext : LlmOk setup attempt.provider (s.history ++ [.accepted attempt.provider delta.text])
        (.streaming route { attempt with
          adapter, providerOutput := attempt.providerOutput ++ delta.text } rest) ready := by
      refine ⟨?_, ?_, ?_⟩
      · rw [sentences_append_of_none rfl]
        refine ⟨rfl, hreleased, hstate.trans hserves.active,
          hroute.generation_eq.trans hserves.generation_eq,
          hroute.format_eq.trans hserves.format_eq, ?_⟩
        intro hplain
        rw [hbuffer, hserves.output hplain]
      · intro houtput
        exact absurd (List.append_eq_nil_iff.1 houtput).2 hdelta
      · intro hnoDelta
        have hboth : attempt.firstDelta = true := hnoDelta
        rw [hfirst] at hboth
        cases hboth
    have hsend := @LlmOk.sendAll setup attempt.provider _ [] _ ready hnext rfl
    refine h.note rfl (horderly.heard rfl rfl) ?_ hopen (hasFailed_after rfl _)
    split_ifs
    · exact ⟨hasFailed_after rfl _, hsend⟩
    · exact hsend

theorem endStream (h : LanesInv setup s) (hllm : s.llm = .streaming route attempt rest) :
    LanesInv setup (s.endStream setup route attempt rest) := by
  obtain ⟨owner, horderly, hok⟩ := h.llm
  rw [hllm] at hok
  obtain ⟨hserves, hempty, hfirst⟩ := hok
  rw [List.append_nil] at hserves
  obtain rfl := hserves.owner_eq
  have hopen : s.llm.quiet = false := by rw [hllm]; rfl
  unfold State.endStream
  split_ifs with hnoDelta
  · exact h.move hopen horderly ⟨rfl, hempty (hfirst hnoDelta)⟩ rfl
  · split
    · exact h.panics
    · rename_i error adapter hfinish
      obtain rfl := StreamingResponseAdapterV1.finish_refused hfinish
      exact h.finishOk (located_partialResult hserves hserves.released hserves.active
        hserves.format_eq (fun _ => rfl) _)
    · rename_i finalized adapter hfinish
      obtain ⟨hall, hparts⟩ :=
        StreamingResponseAdapterV1.finish_finalized hserves.released hfinish
      -- The sentences of the finish are the rest of those of the response.
      have hdone : LlmOk setup attempt.provider s.history
          (.finished (.ok (completeResult route attempt.provider finalized)))
          finalized.readySentences := by
        show Located _ _
        rw [hall]
        exact .of_partitions hparts
      obtain ⟨hquiet, hlast⟩ :=
        hdone.emits rfl rfl (providerFallback route.primary attempt.provider)
      have hsend := @LlmOk.sendAll setup attempt.provider s.history [] (.doing .drop _)
        finalized.readySentences ⟨hquiet, hasFailed_after rfl _, hlast⟩ rfl
      dsimp only
      rw [List.append_assoc, LlmPhase.after, List.foldr_append]
      exact h.move hopen horderly hsend (hasFailed_after rfl _)

end Stream

theorem stepLlm (h : LanesInv setup s) (answer : LlmAnswer) :
    LanesInv setup (s.stepLlm setup answer) := by
  unfold State.stepLlm
  split
  · rename_i route lastError hllm
    obtain ⟨owner, -, hok⟩ := h.llm
    rw [hllm] at hok
    exact h.finishError _ (.inr (.inr hok.1.sentences_eq))
  · rename_i permit hllm
    exact h.tryCandidate hllm permit
  · rename_i result hllm
    exact h.openStream hllm result
  · split_ifs with hcancelled
    · exact h.finishError _ (.inl hcancelled)
    · exact h
  · rename_i delta hllm
    exact h.receiveDelta hllm delta
  · rename_i error hllm
    exact h.failStream hllm error
  · rename_i hllm
    exact h.endStream hllm
  · rename_i hllm
    exact h.pushDelta hllm
  · rename_i hllm
    exact h.runOp hllm
  · exact h

end Llm

/-! ## The other parties -/

section

variable (h : LanesInv setup s)

include h

/-- The speech lane moves on. -/
theorem speak {phase : SpeechPhase} {channel : List SentenceSpan}
    (hruns : s.speech.hasFailed = false)
    (hok : SpeechOk (sentences s.history) channel s.closed phase) :
    LanesInv setup { s with channel := channel, speech := phase } where
  llm := h.llm
  closed := h.closed
  speech := hok
  failed := by
    intro hllm
    rcases h.failed hllm with hcancelled | hfailed | hnone
    · exact .inl hcancelled
    · rw [hruns] at hfailed
      cases hfailed
    · exact .inr (.inr hnone)
  join := h.join

theorem receiveSentence (hspeech : s.speech = .receiving lane) :
    LanesInv setup (s.receiveSentence setup lane) := by
  have hok := h.speech
  rw [hspeech] at hok
  have hruns : s.speech.hasFailed = false := by rw [hspeech]; rfl
  unfold State.receiveSentence
  split
  · rename_i sentence channel hchannel
    rw [hchannel] at hok
    refine h.speak hruns ?_
    split_ifs
    · exact hok
    · exact ⟨rfl, hok⟩
  · rename_i hchannel
    rw [hchannel] at hok
    split_ifs with hclosed
    · refine h.speak hruns ⟨hclosed, ?_⟩
      have hall : lane.spans ++ [] = sentences s.history := hok
      rw [List.append_nil] at hall
      exact hall
    · exact h

theorem stepSpeech (answer : SpeechAnswer) : LanesInv setup (s.stepSpeech setup answer) := by
  have hok := h.speech
  unfold State.stepSpeech
  split <;> rename_i hspeech
  · split_ifs
    · exact h.speak (by rw [hspeech]; rfl) trivial
    · exact h
  · exact h.receiveSentence hspeech
  · rw [hspeech] at hok
    exact h.speak (by rw [hspeech]; rfl) (SpeechOk.subtitle hok)
  · rw [hspeech] at hok
    exact h.speak (by rw [hspeech]; rfl) (SpeechOk.tryCandidate hok _ _ _ _)
  · rw [hspeech] at hok
    refine h.speak (by rw [hspeech]; rfl) ?_
    split_ifs <;> exact hok
  · rw [hspeech] at hok
    refine h.speak (by rw [hspeech]; rfl) ?_
    split_ifs
    · exact ⟨rfl, rfl, hok⟩
    · exact hok
  · rw [hspeech] at hok
    exact h.speak (by rw [hspeech]; rfl) (SpeechOk.endPlayback hok _ _ _)
  · rw [hspeech] at hok
    refine h.speak (by rw [hspeech]; rfl) ?_
    split_ifs
    · trivial
    · exact hok.2
  · split_ifs with hended
    · exact h
    · refine h.speak ?_ trivial
      cases hphase : s.speech <;> first | rfl | (rw [hphase] at hended; exact absurd rfl hended)
  · exact h

/-- The turn moves on. -/
theorem goOn {phase : JoinPhase} {outcome : TurnOutcome}
    (hjoin : JoinInv { s with join := phase, outcome := outcome }) :
    LanesInv setup { s with join := phase, outcome := outcome } :=
  ⟨h.llm, h.closed, h.speech, h.failed, hjoin⟩

theorem endTurn (hconsistent : Consistent s.outcome) (result : Except SupervisorError Unit) :
    LanesInv setup (s.endTurn result) :=
  h.goOn (.of_ok hconsistent)

end

variable {speech : Except SupervisorError SpeechLaneResult}
  {llm : Except SupervisorError LlmLaneResult}

section

variable (h : LanesInv setup s)

include h

/-- What the two lanes return fits together, unless the turn is cancelled. -/
theorem settles (hllm : s.llm = .finished llm) (hspeech : s.speech = .finished speech) :
    Settles s.cancelled llm speech := by
  intro delivered hdelivered
  obtain ⟨result, rfl, rfl⟩ := map_eq_ok.1 hdelivered
  have hheard := h.speech
  rw [hspeech] at hheard
  obtain ⟨-, hspans⟩ := hheard
  cases llm with
  | ok text =>
    obtain ⟨owner, -, hok⟩ := h.llm
    rw [hllm] at hok
    have hlocated : Located text.fullText (sentences s.history ++ []) := hok
    rw [List.append_nil, ← hspans] at hlocated
    exact hlocated
  | error error =>
    rcases h.failed (by rw [hllm]; rfl) with hcancelled | hfailed | hnone
    · exact .inl hcancelled
    · rw [hspeech] at hfailed
      cases hfailed
    · rw [hnone] at hspans
      exact .inr (List.map_eq_nil_iff.1 hspans)

theorem joinLanes (hjoin : s.join = .awaiting) : LanesInv setup s.joinLanes := by
  have hnone : s.outcome.delivered = [] := by
    have hinv := h.join
    rw [JoinInv, hjoin] at hinv
    exact hinv
  unfold State.joinLanes
  split
  · exact h.endTurn (.of_none hnone) _
  · exact h.endTurn (.of_none hnone) _
  · rename_i llm speech degradations hllm hspeech _
    exact h.goOn ⟨hnone, h.settles hllm hspeech⟩
  · exact h.endTurn (.of_none hnone) _
  · rename_i llm speech error hllm hspeech _
    exact h.goOn ⟨hnone, h.settles hllm hspeech⟩
  · exact h

theorem settle (hjoin : s.join = .settling llm speech) : LanesInv setup (s.settle llm speech) := by
  have hinv := h.join
  rw [JoinInv, hjoin] at hinv
  obtain ⟨hnone, hsettles⟩ := hinv
  cases speech with
  | error error => exact h.endTurn (.of_none hnone) _
  | ok result =>
    have hsettled := hsettles result.delivered rfl
    cases llm with
    | error error =>
      rcases hsettled with hfalse | hempty
      · cases hfalse
      · exact h.goOn (.of_ok (Consistent.of_none hempty))
    | ok text => exact h.goOn (.of_ok hsettled)

theorem stepJoin (answer : JoinAnswer) : LanesInv setup (s.stepJoin answer) := by
  have hinv := h.join
  unfold State.stepJoin
  unfold JoinInv at hinv
  split <;> rename_i hjoin
  · exact h.joinLanes hjoin
  · exact h.settle hjoin
  · rw [hjoin] at hinv
    exact h.goOn (.of_ok hinv)
  · rw [hjoin] at hinv
    exact h.endTurn hinv _
  · rw [hjoin] at hinv
    exact h.goOn (.of_ok hinv)
  · rw [hjoin] at hinv
    exact h.goOn (.of_ok hinv)
  · rw [hjoin] at hinv
    exact h.endTurn hinv _
  · rw [hjoin] at hinv
    exact h.goOn (.of_ok hinv)
  · rw [hjoin] at hinv
    exact h.endTurn hinv _
  · rw [hjoin] at hinv
    split_ifs with hcancelled
    · exact h.endTurn (JoinOk.consistent hinv) _
    · -- The event went out, so the turn was not cancelled.
      rw [Bool.not_eq_true] at hcancelled
      rw [hcancelled] at hinv
      exact h.goOn (.of_ok hinv)
  · exact h

/-- **Every action keeps the lanes in step.** -/
theorem step (action : Action) : LanesInv setup (Lanes.step setup action s) := by
  cases action with
  | cancel => exact ⟨h.llm, h.closed, h.speech, fun _ => .inl rfl, h.join.cancel⟩
  | llm answer => exact h.stepLlm answer
  | speech answer => exact h.stepSpeech answer
  | effects result => exact ⟨h.llm, h.closed, h.speech, h.failed, h.join⟩
  | join answer => exact h.stepJoin answer

end

theorem start (setup : Setup) : LanesInv setup (Lanes.start setup) := by
  refine ⟨⟨⟨"", .languageModel, .local, false⟩, ⟨.nil, by simp [Lanes.start]⟩, ?_⟩, ?_, rfl,
    fun _ => .inr (.inr rfl), rfl⟩
  · simp only [Lanes.start, startLlm]
    split
    · trivial
    · split
      · trivial
      · exact ⟨by simp [Untouched], rfl⟩
  · intro hclosed
    simp only [Lanes.start] at hclosed ⊢
    split at hclosed
    · rename_i result hfinished
      rw [hfinished]
      rfl
    · cases hclosed

theorem run (setup : Setup) (actions : List Action) :
    LanesInv setup (runFrom (Lanes.step setup) actions (Lanes.start setup)) :=
  inv_runFrom (LanesInv setup) (fun _ action h => h.step action) (.start setup) actions

end LanesInv

/-- Before a provider is tried nothing was accepted. -/
theorem Orderly.not_accepted {history before after : List LaneEvent}
    {owner provider : ProviderDescriptor} (h : Orderly history owner)
    (hsplit : history = before ++ .tried provider :: after) (earlier : ProviderDescriptor)
    (text : Text) : LaneEvent.accepted earlier text ∉ before := by
  intro hmem
  have hordered := h.ordered
  rw [hsplit, List.pairwise_append] at hordered
  cases hordered.2.2 _ hmem _ List.mem_cons_self rfl

/-- **Turn outcome consistency.** For every format, every list of providers, all that they and the
audio sink do, and every interleaving: the sentences that are sent come from one provider, no
provider is tried once a delta of an earlier one was accepted, and in the outcome every delivered
sentence is where it says it is, with increasing IDs. -/
theorem turn_outcome_consistent (setup : Setup) (actions : List Action) :
    (∀ provider provider' sentence sentence',
      .sent provider sentence ∈ (runFrom (step setup) actions (start setup)).history →
      .sent provider' sentence' ∈ (runFrom (step setup) actions (start setup)).history →
        provider = provider') ∧
    (∀ before provider after, (runFrom (step setup) actions (start setup)).history =
      before ++ .tried provider :: after → ∀ earlier text, .accepted earlier text ∉ before) ∧
    ∀ outcome ∈ (runFrom (step setup) actions (start setup)).turnOutcome,
      (∀ d ∈ outcome.delivered,
        slice outcome.fullResponse d.textStartBytes d.textEndBytes = some d.text) ∧
      outcome.delivered.Pairwise fun d d' => d.sentenceId < d'.sentenceId := by
  have hinv := LanesInv.run setup actions
  generalize runFrom (step setup) actions (start setup) = s at hinv ⊢
  obtain ⟨owner, horderly, -⟩ := hinv.llm
  refine ⟨?_, ?_, ?_⟩
  · intro provider provider' sentence sentence' hsent hsent'
    rw [horderly.owned _ hsent provider rfl, horderly.owned _ hsent' provider' rfl]
  · intro before provider after hsplit
    exact horderly.not_accepted hsplit
  · intro outcome houtcome
    have hconsistent : Consistent s.outcome := by
      have hjoin := hinv.join
      unfold JoinInv at hjoin
      split at hjoin <;> exact JoinOk.consistent hjoin
    have hsame : outcome = s.outcome := by
      unfold State.turnOutcome at houtcome
      split at houtcome
      · exact (Option.mem_some_iff.1 houtcome).symm
      · cases houtcome
    rw [hsame]
    have hincreasing := List.pairwise_map.1 hconsistent.increasing
    refine ⟨?_, hincreasing⟩
    intro d hd
    exact hconsistent.exact d.span (List.mem_map_of_mem hd)

namespace Sample

def provider (id : String) (modality : ProviderModality) : ProviderDescriptor :=
  ⟨id, modality, .local, false⟩

/-- Two language models, and no voice. -/
def twoModels : Setup where
  serde := Response.Sample.parser []
  routeFormat := some "legacy_plain_text"
  routing := ⟨⟨.fullyLocal, .offline, [], false⟩, ⟨true, false⟩⟩
  languageModels := [provider "first" .languageModel, provider "second" .languageModel]
  speech := []
  sentenceConfig := {}
  sentenceChannelCapacity := 1
  generation := 7

/-- A delta of the second model. -/
def heard (sequence : Nat) (text : Text) : Action := .llm (.next (some (.ok ⟨text, sequence⟩)))

/-- The first model cannot be reached. The second one says a sentence and breaks off behind the
next one; there is no voice, so that the sentence goes to the subtitles. -/
def fallbackTurn : List Action :=
  [.llm (.circuit (.ok ())), .llm (.opened (.error ⟨"first", "unreachable"⟩)), .llm .go,
    .llm (.circuit (.ok ())), .llm (.opened (.ok ())),
    heard 1 (Response.Sample.legacyText.take 23), .llm .go, .llm .go, .llm .go,
    heard 2 (Response.Sample.legacyText.drop 23), .llm .go, .llm .go, .llm .go, .llm .go,
    .speech .receive, .speech .go, .speech .go, .speech .go, .speech .go,
    .llm (.next (some (.error ⟨"second", "connection lost"⟩))), .speech .receive,
    .effects (.ok (.ok [])), .join .go, .join .go, .join .go, .join .go, .join .go,
    .join (.committed (.ok ())), .join .go, .join .go]

def fallbackOutcome : TurnOutcome where
  lifecycle := .failed
  fullResponse := Response.Sample.legacyText
  delivered := [deliverSentence Response.Sample.firstSentence none]
  degradations := [.audioToSubtitles]
  selectedLlmProvider := some "second"
  error := some (.streamFailed ⟨"second", "connection lost"⟩)

end Sample

theorem turn_outcome_consistent_fallback :
    (runFrom (step Sample.twoModels) Sample.fallbackTurn (start Sample.twoModels)).turnOutcome =
        some Sample.fallbackOutcome ∧
      ∀ d ∈ Sample.fallbackOutcome.delivered, slice Sample.fallbackOutcome.fullResponse
        d.textStartBytes d.textEndBytes = some d.text := by
  have houtcome : (runFrom (step Sample.twoModels) Sample.fallbackTurn
      (start Sample.twoModels)).turnOutcome = some Sample.fallbackOutcome := by decide +kernel
  exact ⟨houtcome,
    ((turn_outcome_consistent Sample.twoModels Sample.fallbackTurn).2.2 _ houtcome).1⟩

end NpcRuntime.Lanes
