import NpcRuntime.Lib.Lists
import NpcRuntime.Lib.Machine
import NpcRuntime.Protocol.Envelope

/-!
# Channel ordering

`SequenceTracker` of `protocol/src/envelope.rs`: the receiver of a channel accepts envelopes in
order and remembers the last sequence number and the highest cancellation generation it has seen.
`Channel` keeps the envelopes it has accepted beside the tracker.

A `Cancel` body announces a new generation, and the tracker learns of it only from the next envelope
that carries it, so work of the old generation still passes behind a cancellation
(`old_work_passes_behind_cancel`). The channel obeys its cancellations exactly if the envelope that
follows one carries the new generation (`channel_ordered_iff`).
-/

namespace NpcRuntime.Protocol

variable (prost : Prost)

structure SequenceTracker where
  expectedLaunchNonce : LaunchNonce
  expectedSessionId : SessionId
  lastSequence : Nat := 0
  highestCancellationGeneration : Nat := 0
  ordering : OrderingPolicy
deriving DecidableEq

namespace SequenceTracker

/-- The checks of `observe`. The sequence number is a `u64` above `last_sequence`, so the successor
of `last_sequence` does not overflow. -/
def check (tracker : SequenceTracker) (envelope : EnvelopeV1)
    (context : EnvelopeValidationContext) : EnvelopeCheck := do
  let context := { context with
    expectedLaunchNonce := some tracker.expectedLaunchNonce
    expectedSessionId := some tracker.expectedSessionId }
  envelope.validate prost context
  require (decide (tracker.lastSequence < envelope.sequence))
    (.replayOrReorder tracker.lastSequence envelope.sequence)
  require (tracker.ordering != .strictContiguous || envelope.sequence == tracker.lastSequence + 1)
    (.sequenceGap (tracker.lastSequence + 1) envelope.sequence)
  require (decide (tracker.highestCancellationGeneration ≤ envelope.cancellationGeneration))
    (.staleCancellationGeneration tracker.highestCancellationGeneration
      envelope.cancellationGeneration)

def observe (tracker : SequenceTracker) (envelope : EnvelopeV1)
    (context : EnvelopeValidationContext) : EnvelopeCheck × SequenceTracker :=
  match tracker.check prost envelope context with
  | .error error => (.error error, tracker)
  | .ok () =>
    (.ok (), { tracker with
      lastSequence := envelope.sequence
      highestCancellationGeneration :=
        max tracker.highestCancellationGeneration envelope.cancellationGeneration })

theorem observe_error {tracker tracker' : SequenceTracker} {envelope : EnvelopeV1}
    {context : EnvelopeValidationContext} {error : EnvelopeValidationError}
    (h : tracker.observe prost envelope context = (.error error, tracker')) :
    tracker' = tracker := by
  unfold observe at h
  split at h
  · exact (Prod.mk.inj h).2.symm
  · cases h

end SequenceTracker

/-- A tracker and the envelopes it has accepted, oldest first. -/
structure Channel where
  tracker : SequenceTracker
  accepted : List EnvelopeV1 := []
deriving DecidableEq

/-- An envelope and the context it is validated in. -/
abbrev Presented := EnvelopeV1 × EnvelopeValidationContext

namespace Channel

def step (presented : Presented) (c : Channel) : Channel :=
  match c.tracker.observe prost presented.1 presented.2 with
  | (.ok (), tracker) => ⟨tracker, c.accepted ++ [presented.1]⟩
  | (.error _, tracker) => ⟨tracker, c.accepted⟩

def new (launch : LaunchNonce) (session : SessionId) (ordering : OrderingPolicy) : Channel :=
  { tracker := { expectedLaunchNonce := launch, expectedSessionId := session, ordering } }

/-! ## What an accepted envelope does -/

variable {prost} {c : Channel} {presented : Presented}

/-- What `observe` demands of an envelope: it is valid here, its number is in order, and its
generation is not below the watermark. -/
structure Acceptable (prost : Prost) (c : Channel) (presented : Presented) : Prop where
  valid : presented.1.validate prost { presented.2 with
    expectedLaunchNonce := some c.tracker.expectedLaunchNonce
    expectedSessionId := some c.tracker.expectedSessionId } = .ok ()
  later : c.tracker.lastSequence < presented.1.sequence
  next : c.tracker.ordering = .strictContiguous →
    presented.1.sequence = c.tracker.lastSequence + 1
  current : c.tracker.highestCancellationGeneration ≤ presented.1.cancellationGeneration

theorem check_eq_ok :
    c.tracker.check prost presented.1 presented.2 = .ok () ↔ Acceptable prost c presented := by
  simp only [SequenceTracker.check, bind_eq_ok, require_eq_ok, decide_eq_true_eq,
    Bool.or_eq_true, bne_iff_ne, beq_iff_eq]
  constructor
  · intro h
    obtain ⟨_, hvalid, _, hlater, _, hnext, hcurrent⟩ := h
    exact ⟨hvalid, hlater, fun hstrict => hnext.resolve_left (absurd hstrict), hcurrent⟩
  · intro h
    refine ⟨(), h.valid, (), h.later, (), ?_, h.current⟩
    by_cases hstrict : c.tracker.ordering = .strictContiguous
    · exact .inr (h.next hstrict)
    · exact .inl hstrict

theorem step_cases (prost : Prost) (presented : Presented) (c : Channel) :
    (¬Acceptable prost c presented ∧ step prost presented c = c) ∨
    (Acceptable prost c presented ∧
      step prost presented c =
        { tracker := { c.tracker with
            lastSequence := presented.1.sequence
            highestCancellationGeneration := presented.1.cancellationGeneration }
          accepted := c.accepted ++ [presented.1] }) := by
  rw [← check_eq_ok]
  cases hcheck : c.tracker.check prost presented.1 presented.2 with
  | error error =>
    refine .inl ⟨(by simp), ?_⟩
    simp only [step, SequenceTracker.observe, hcheck]
  | ok u =>
    refine .inr ⟨rfl, ?_⟩
    have hmax := Nat.max_eq_right (check_eq_ok.1 hcheck).current
    simp only [step, SequenceTracker.observe, hcheck, hmax]

/-! ## The watermarks -/

/-- The watermarks bound what has been accepted. -/
structure Watermarks (c : Channel) : Prop where
  sequence : ∀ e ∈ c.accepted, e.sequence ≤ c.tracker.lastSequence
  count : c.tracker.ordering = .strictContiguous → c.tracker.lastSequence = c.accepted.length
  generation : ∀ e ∈ c.accepted,
    e.cancellationGeneration ≤ c.tracker.highestCancellationGeneration

theorem Watermarks.step (h : Watermarks c) (presented : Presented) :
    Watermarks (step prost presented c) := by
  obtain ⟨-, heq⟩ | ⟨hok, heq⟩ := step_cases prost presented c <;> rw [heq]
  · exact h
  · refine ⟨?_, ?_, ?_⟩
    · intro e he
      rcases List.mem_append.1 he with hold | hnew
      · exact Nat.le_trans (h.sequence e hold) (Nat.le_of_lt hok.later)
      · rw [List.mem_singleton.1 hnew]
    · intro hstrict
      rw [hok.next hstrict, h.count hstrict, List.length_append, List.length_singleton]
    · intro e he
      rcases List.mem_append.1 he with hold | hnew
      · exact Nat.le_trans (h.generation e hold) hok.current
      · rw [List.mem_singleton.1 hnew]

/-! ## Ordering -/

/-- `later` obeys the cancellation that `e` carries, if it carries one. -/
def Obeys (e later : EnvelopeV1) : Prop :=
  ∀ cancel, e.body = some (.cancel cancel) → cancel.newGeneration ≤ later.cancellationGeneration

/-- What the channel promises in a state. -/
structure ChannelOrdered (prost : Prost) (c : Channel) : Prop where
  increasing : (c.accepted.map EnvelopeV1.sequence).Pairwise (· < ·)
  contiguous : c.tracker.ordering = .strictContiguous →
    c.accepted.map EnvelopeV1.sequence = List.range' 1 c.accepted.length
  generations : (c.accepted.map EnvelopeV1.cancellationGeneration).Pairwise (· ≤ ·)
  refusals : ∀ (presented : Presented) (error : EnvelopeValidationError) (tracker),
    c.tracker.observe prost presented.1 presented.2 = (.error error, tracker) →
      tracker = c.tracker
  cancels : c.accepted.Pairwise Obeys

/-- An acceptable envelope that follows a cancellation carries its generation. -/
def Heeds (prost : Prost) (c : Channel) (presented : Presented) : Prop :=
  Acceptable prost c presented → ∀ last, c.accepted.getLast? = some last → Obeys last presented.1

/-- Behind obeyed cancellations only the last envelope can make a demand. -/
theorem obeys_all_iff {accepted : List EnvelopeV1} (hobeyed : accepted.Pairwise Obeys)
    {e : EnvelopeV1} (hgeneration : ∀ a ∈ accepted,
      a.cancellationGeneration ≤ e.cancellationGeneration) :
    (∀ a ∈ accepted, Obeys a e) ↔ ∀ last, accepted.getLast? = some last → Obeys last e := by
  constructor
  · intro h last hlast
    exact h last (List.mem_of_getLast? hlast)
  · intro h a ha
    obtain rfl | ⟨front, last, rfl⟩ := List.eq_nil_or_concat accepted
    · cases ha
    · rw [List.concat_eq_append] at hobeyed hgeneration ha h
      rcases List.mem_append.1 ha with hfront | hlast
      · intro cancel hcancel
        have hbefore := (List.pairwise_append.1 hobeyed).2.2 a hfront last List.mem_cons_self
        have hle := hgeneration last (List.mem_append_right front List.mem_cons_self)
        exact Nat.le_trans (hbefore cancel hcancel) hle
      · rw [List.mem_singleton.1 hlast]
        exact h last (by simp)

theorem channelOrdered_step_iff (hw : Watermarks c) (h : ChannelOrdered prost c)
    (presented : Presented) :
    ChannelOrdered prost (step prost presented c) ↔ Heeds prost c presented := by
  obtain ⟨hnot, heq⟩ | ⟨hok, heq⟩ := step_cases prost presented c <;> rw [heq]
  · exact iff_of_true h fun hok => absurd hok hnot
  · have hgeneration : ∀ e ∈ c.accepted,
        e.cancellationGeneration ≤ presented.1.cancellationGeneration := fun e he =>
      Nat.le_trans (hw.generation e he) hok.current
    have hcancels : (c.accepted ++ [presented.1]).Pairwise Obeys ↔ Heeds prost c presented := by
      rw [pairwise_concat, obeys_all_iff h.cancels hgeneration]
      exact ⟨fun hall _ => hall.2, fun hheeds => ⟨h.cancels, hheeds hok⟩⟩
    rw [← hcancels]
    refine ⟨fun hordered => hordered.cancels, fun hobeyed => ⟨?_, ?_, ?_, ?_, hobeyed⟩⟩
    · rw [List.map_append, List.map_singleton, pairwise_concat]
      refine ⟨h.increasing, ?_⟩
      intro n hn
      obtain ⟨e, he, rfl⟩ := List.mem_map.1 hn
      exact Nat.lt_of_le_of_lt (hw.sequence e he) hok.later
    · intro hstrict
      rw [List.map_append, h.contiguous hstrict, List.length_append, List.length_singleton,
        List.range'_concat]
      simp [hok.next hstrict, hw.count hstrict, Nat.add_comm]
    · rw [List.map_append, List.map_singleton, pairwise_concat]
      refine ⟨h.generations, ?_⟩
      intro n hn
      obtain ⟨e, he, rfl⟩ := List.mem_map.1 hn
      exact hgeneration e he
    · intro presented error tracker hobserve
      exact SequenceTracker.observe_error prost hobserve

/-- **Channel ordering.** In every state of a channel the accepted envelopes are in order, their
generations never fall, refusals leave the watermarks alone and the cancellations are obeyed,
exactly if every acceptable envelope that follows an accepted cancellation carries the generation
it announced. -/
theorem channel_ordered_iff (prost : Prost) (launch : LaunchNonce) (session : SessionId)
    (ordering : OrderingPolicy) (presented : List Presented) :
    (∀ pre, pre <+: presented →
      ChannelOrdered prost (runFrom (step prost) pre (new launch session ordering))) ↔
      Along (step prost) (Heeds prost) presented (new launch session ordering) := by
  refine along_iff_prefixes Watermarks (ChannelOrdered prost) (fun _ p hw => hw.step p)
    (fun _ p hw h => channelOrdered_step_iff hw h p) ?_ ?_
  · exact ⟨(by simp [new]), fun _ => rfl, (by simp [new])⟩
  · exact ⟨.nil, fun _ => rfl, .nil, fun _ _ _ h => SequenceTracker.observe_error prost h, .nil⟩

/-! ## Old work behind a cancellation -/

/-- An envelope of generation zero, sent at tick 100 for tick 101. -/
def oldEnvelope (sequence bodyBytes : Nat) (body : Body) : EnvelopeV1 :=
  { protocolVersion := some .v100
    launchNonce := some ⟨List.replicate 16 1⟩
    sessionId := some ⟨List.replicate 16 2⟩
    turnId := none
    traceId := some ⟨List.replicate 16 4⟩
    sequence
    qpcTimestampTicks := 100
    qpcFrequencyHz := 1
    deadlineQpcTicks := 101
    cancellationGeneration := 0
    declaredBodyBytes := bodyBytes
    body := some body }

def cancelToOne : EnvelopeV1 := oldEnvelope 1 2 (.cancel ⟨1, []⟩)

def oldHeartbeat : EnvelopeV1 := oldEnvelope 2 3 (.heartbeat ⟨0, ['a'], []⟩)

/-- The encoded sizes of these two envelopes. -/
def oldSizes : Prost where
  bodyLen
    | .cancel _ => 2
    | _ => 3
  envelopeLen envelope := if envelope.sequence = 1 then 79 else 80

/-- A cancellation to generation 1 is accepted, and then a heartbeat of generation 0. -/
theorem old_work_passes_behind_cancel :
    ¬ ∀ (prost : Prost) (launch : LaunchNonce) (session : SessionId) (ordering : OrderingPolicy)
      (presented : List Presented),
      ChannelOrdered prost (runFrom (step prost) presented (new launch session ordering)) := by
  intro h
  have hordered := h oldSizes ⟨List.replicate 16 1⟩ ⟨List.replicate 16 2⟩ .strictContiguous
    [(cancelToOne, .permissiveForTime 100), (oldHeartbeat, .permissiveForTime 100)]
  have haccepted : (runFrom (step oldSizes)
      [(cancelToOne, .permissiveForTime 100), (oldHeartbeat, .permissiveForTime 100)]
      (new ⟨List.replicate 16 1⟩ ⟨List.replicate 16 2⟩ .strictContiguous)).accepted =
    [cancelToOne, oldHeartbeat] := by decide
  have hobeyed := hordered.cancels
  rw [haccepted] at hobeyed
  have hobeys := (List.pairwise_cons.1 hobeyed).1 oldHeartbeat List.mem_cons_self
  exact absurd (hobeys ⟨1, []⟩ rfl) (by decide)

end Channel

end NpcRuntime.Protocol
