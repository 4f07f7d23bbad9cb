import NpcRuntime.Playback.Agreement
import NpcRuntime.Playback.Session

/-!
# A playback session is safe against any producer

Whatever envelopes arrive, in whatever order with the calls of the endpoint and the reads of the
device: what is not authenticated changes nothing, the sequences that are authenticated increase,
frames are accepted only on an open stream and within the budget, cues are in order, and a session
that has ended keeps its receipt. The invariant is `PlaybackSession.Inv`; `dispatch_cases` says all
that an authenticated command can do.
-/

namespace NpcRuntime.Playback

namespace PlaybackSession

/-! ## What a command does -/

/-- The outcomes of an authenticated command. -/
inductive Dispatched (session : PlaybackSession) (envelope : ProducerEnvelope) (nowQpc : UInt64) :
    ProducerResponse × PlaybackSession → Prop
  | refused (status : ProducerStatus) (hok : status ≠ .ok) (hcancelled : status ≠ .cancelled) :
      Dispatched session envelope nowQpc (session.answer envelope.sequence status)
  | begun (hcommand : envelope.command = .begin) (hstate : session.state = .allocated)
      (htoken : session.tokenConsumed = false) :
      Dispatched session envelope nowQpc
        ({ session with
          tokenConsumed := true
          streamDeadlineQpc := session.streamDeadline nowQpc
          state := .streaming }.answer envelope.sequence .ok)
  | accepted (count : Nat) (hcommand : envelope.command = .chunk)
      (hstate : session.state = .streaming) (htoken : session.tokenConsumed = true)
      (hcount : count = envelope.payload.length / session.lease.blockAlign.toNat)
      (hbudget : count ≤ (session.lease.maxFrames - session.sourceFrames).toNat)
      (hroom : count ≤ session.ring.capacity - session.ring.available)
      (after : PlaybackSession)
      (hafter : after = { session.written envelope.payload with
        sourceFrames := session.sourceFrames + UInt64.ofNat count }) :
      Dispatched session envelope nowQpc
        (after.respond envelope.sequence .ok (UInt64.ofNat count), after)
  | cued (cue : VisualSpeechCue) (hcommand : envelope.command = .visualCue)
      (hstate : session.state = .streaming) (htoken : session.tokenConsumed = true)
      (hcue : decodeVisualSpeechCuePayload envelope.payload session.lease.maxFrames.toNat =
        some cue)
      (hcount : session.visualSpeechCues.length < maximumVisualSpeechCues)
      (hlast : session.overlaps cue = false) :
      Dispatched session envelope nowQpc
        ({ session with visualSpeechCues := session.visualSpeechCues ++ [cue] }.answer
          envelope.sequence .ok)
  | finished (hcommand : envelope.command = .finish) (hstate : session.state = .streaming)
      (htoken : session.tokenConsumed = true) :
      Dispatched session envelope nowQpc
        ({ session with
          sourceSubmissionComplete := true
          state := .sourceFinished }.answer envelope.sequence .ok)
  | cancelled (hcommand : envelope.command = .cancel) (hdrained : session.state ≠ .drained)
      (hfailed : session.state ≠ .failed) :
      Dispatched session envelope nowQpc (session.cancel.answer envelope.sequence .cancelled)

variable {session : PlaybackSession} {envelope : ProducerEnvelope} {nowQpc : UInt64}

theorem streams_iff : session.streams = true ↔
    session.state = .streaming ∧ session.tokenConsumed = true := by
  rw [streams, Bool.and_eq_true, beq_iff_eq]

/-- **All that an authenticated command can do.** -/
theorem dispatch_cases (session : PlaybackSession) (envelope : ProducerEnvelope)
    (nowQpc : UInt64) :
    Dispatched session envelope nowQpc (session.dispatch envelope nowQpc) := by
  have hrefused : ∀ status, status ≠ ProducerStatus.ok → status ≠ .cancelled →
      Dispatched session envelope nowQpc (session.answer envelope.sequence status) :=
    fun status => .refused status
  cases hcommand : envelope.command with
  | begin =>
    simp only [dispatch, hcommand, processBegin]
    by_cases hopen : session.state ≠ .allocated ∨ session.tokenConsumed = true
    · rw [if_pos hopen]
      exact hrefused _ (by decide) (by decide)
    · rw [if_neg hopen]
      simp only [not_or, not_not, Bool.not_eq_true] at hopen
      exact .begun hcommand hopen.1 hopen.2
  | chunk =>
    simp only [dispatch, hcommand, processChunk]
    by_cases hstreams : session.streams = true
    · rw [if_neg (by rw [hstreams]; decide)]
      split
      · exact hrefused _ (by decide) (by decide)
      · split
        · exact hrefused _ (by decide) (by decide)
        · next hbudget =>
          split
          · exact hrefused _ (by decide) (by decide)
          · next hroom =>
            rw [if_neg]
            · obtain ⟨hstate, htoken⟩ := streams_iff.1 hstreams
              exact .accepted _ hcommand hstate htoken rfl (not_lt.1 hbudget) (not_lt.1 hroom) _ rfl
            · simp only [Ring.write, length_pcmFrames, Ring.accepted_eq (not_lt.1 hroom), ne_eq,
                not_true_eq_false, lt_irrefl, decide_false, Bool.false_eq_true, or_self,
                not_false_eq_true]
    · rw [if_pos (by simpa using hstreams)]
      exact hrefused _ (by decide) (by decide)
  | visualCue =>
    simp only [dispatch, hcommand, processVisualCue]
    by_cases hstreams : session.streams = true
    · rw [if_neg (by rw [hstreams]; decide)]
      obtain ⟨hstate, htoken⟩ := streams_iff.1 hstreams
      cases hcue : decodeVisualSpeechCuePayload envelope.payload session.lease.maxFrames.toNat with
      | none => exact hrefused _ (by decide) (by decide)
      | some cue =>
        by_cases hwrong : session.visualSpeechCues.length ≥ maximumVisualSpeechCues ∨
            session.overlaps cue = true
        · simp only [if_pos hwrong]
          exact hrefused _ (by decide) (by decide)
        · simp only [if_neg hwrong]
          simp only [not_or, not_le, Bool.not_eq_true] at hwrong
          exact .cued cue hcommand hstate htoken hcue hwrong.1 hwrong.2
    · rw [if_pos (by simpa using hstreams)]
      exact hrefused _ (by decide) (by decide)
  | finish =>
    simp only [dispatch, hcommand, processFinish]
    by_cases hstreams : session.streams = true
    · rw [if_neg (by rw [hstreams]; decide)]
      obtain ⟨hstate, htoken⟩ := streams_iff.1 hstreams
      exact .finished hcommand hstate htoken
    · rw [if_pos (by simpa using hstreams)]
      exact hrefused _ (by decide) (by decide)
  | cancel =>
    simp only [dispatch, hcommand, processCancel]
    by_cases hover : session.state = .drained ∨ session.state = .failed
    · rw [if_pos hover]
      exact hrefused _ (by decide) (by decide)
    · rw [if_neg hover]
      obtain ⟨hdrained, hfailed⟩ := not_or.1 hover
      exact .cancelled hcommand hdrained hfailed

variable {actualProducerProcessId : UInt32}

/-- What is not authenticated changes nothing. -/
theorem process_refused (h : session.authenticate envelope actualProducerProcessId nowQpc ≠ .ok) :
    session.process envelope actualProducerProcessId nowQpc =
      session.answer envelope.sequence
        (session.authenticate envelope actualProducerProcessId nowQpc) := by
  unfold process
  rw [if_pos h]

theorem process_authenticated
    (h : session.authenticate envelope actualProducerProcessId nowQpc = .ok) :
    session.process envelope actualProducerProcessId nowQpc =
      { session with lastSequence := envelope.sequence }.dispatch envelope nowQpc := by
  unfold process
  rw [if_neg (not_not.2 h)]

/-- What an authenticated envelope is. -/
theorem authenticate_ok (h : session.authenticate envelope actualProducerProcessId nowQpc = .ok) :
    actualProducerProcessId = session.expectedProducerProcessId ∧
      envelope.token = session.lease.oneTimeToken ∧
      (envelope.streamId = session.lease.streamId ∧ envelope.sessionId = session.lease.sessionId ∧
        envelope.turnId = session.lease.turnId ∧
        envelope.generation = session.lease.generation) ∧
      session.lastSequence < envelope.sequence := by
  unfold authenticate at h
  split at h
  · cases h
  · split at h
    · cases h
    · next hprocess =>
      split at h
      · cases h
      · next htoken =>
        split at h
        · cases h
        · next hidentity =>
          split at h
          · cases h
          · next hsequence =>
            simp only [not_or, not_not] at hprocess htoken hidentity
            exact ⟨hprocess.2, htoken, hidentity, UInt64.not_le.1 hsequence⟩

/-! ## The invariant -/

/-- Cues in order: each ends before the later ones start. -/
def InOrder (cues : List VisualSpeechCue) : Prop :=
  cues.Pairwise fun cue later => cue.endSample ≤ later.startSample.toNat

structure Inv (session : PlaybackSession) : Prop where
  device_le : session.deviceFrames ≤ session.sourceFrames
  source_le : session.sourceFrames ≤ session.lease.maxFrames
  /-- The ring has taken every frame that was accepted. -/
  written : session.ring.writeCursor = session.sourceFrames.toNat
  valid : ∀ cue ∈ session.visualSpeechCues,
    validVisualSpeechCue cue session.lease.maxFrames.toNat = true
  ordered : InOrder session.visualSpeechCues
  undrained : session.state ≠ .drained → session.endpointDrainComplete = false

variable {cue : VisualSpeechCue}

/-- A valid cue ends inside the frames, where the source's sum is exact. -/
theorem endSample_le {maxFrames : UInt64} (h : validVisualSpeechCue cue maxFrames.toNat = true) :
    cue.startSample.toNat < cue.endSample ∧ cue.endSample ≤ maxFrames.toNat ∧
      (cue.startSample + cue.durationSamples).toNat = cue.endSample := by
  simp only [validVisualSpeechCue, Bool.and_eq_true, bne_iff_ne, decide_eq_true_eq, ne_eq,
    ← UInt64.toNat_inj] at h
  obtain ⟨⟨⟨⟨hduration, -⟩, -⟩, hstart⟩, hroom⟩ := h
  have hlt := maxFrames.toNat_lt
  have hzero : (0 : UInt64).toNat = 0 := rfl
  rw [UInt64.toNat_add, VisualSpeechCue.endSample]
  omega

/-- The last of ordered cues ends last. -/
theorem InOrder.append {cues : List VisualSpeechCue} {maxFrames : UInt64} (h : InOrder cues)
    (hvalid : ∀ other ∈ cues, validVisualSpeechCue other maxFrames.toNat = true) (hlast :
      (cues.getLast?.any fun previous => decide (cue.startSample < previous.startSample +
      previous.durationSamples)) = false) : InOrder (cues ++ [cue]) := by
  refine List.pairwise_append.2 ⟨h, List.pairwise_singleton _ _, ?_⟩
  intro other hother last hcue
  obtain rfl := List.mem_singleton.1 hcue
  obtain ⟨before, previous, rfl⟩ : ∃ before previous, cues = before ++ [previous] :=
    ⟨cues.dropLast, cues.getLast (List.ne_nil_of_mem hother),
      (List.dropLast_append_getLast _).symm⟩
  rw [List.getLast?_concat, Option.any_some, decide_eq_false_iff_not, UInt64.not_lt,
    UInt64.le_iff_toNat_le] at hlast
  obtain ⟨hlong, -, hsum⟩ := endSample_le
    (hvalid previous (List.mem_append_right _ (List.mem_singleton_self _)))
  rw [hsum] at hlast
  rcases List.mem_append.1 hother with hbefore | hsame
  · have hle := (List.pairwise_append.1 h).2.2 other hbefore previous (List.mem_singleton_self _)
    omega
  · obtain rfl := List.mem_singleton.1 hsame
    exact hlast

theorem inv_create {lease : PlaybackLease} {expectedProducerProcessId : UInt32}
    {ringCapacityFrames : UInt32} {policy : ValidationPolicy}
    (h : create lease expectedProducerProcessId ringCapacityFrames policy = some session) :
    session.Inv ∧ session.lease = lease ∧
      session.expectedProducerProcessId = expectedProducerProcessId ∧
      session.state = .allocated ∧ session.lastSequence = 0 := by
  unfold create at h
  split at h
  · obtain ⟨-, h⟩ := Option.ite_none_left_eq_some.1 h
    obtain rfl := Option.some.inj h
    refine ⟨⟨UInt64.le_refl _, ?_, rfl, ?_, List.Pairwise.nil, fun _ => rfl⟩, rfl, rfl, rfl, rfl⟩
    · exact UInt64.le_iff_toNat_le.2 (Nat.zero_le _)
    · intro cue hcue
      cases hcue
  · cases h

/-- Frames within the budget are added without a carry. -/
theorem toNat_add_frames (hle : session.sourceFrames ≤ session.lease.maxFrames) {count : Nat}
    (hbudget : count ≤ (session.lease.maxFrames - session.sourceFrames).toNat) :
    (session.sourceFrames + UInt64.ofNat count).toNat = session.sourceFrames.toNat + count ∧
      session.sourceFrames.toNat + count ≤ session.lease.maxFrames.toNat := by
  rw [UInt64.toNat_sub_of_le _ _ hle] at hbudget
  have hle := UInt64.le_iff_toNat_le.1 hle
  have hlt := session.lease.maxFrames.toNat_lt
  rw [UInt64.toNat_add, UInt64.toNat_ofNat']
  omega

/-- A session that is stopped keeps the invariant. -/
theorem Inv.stopped (h : session.Inv) (state : SessionState) :
    Inv { session with
      ring := session.ring.clear
      visualSpeechCues := []
      endpointDrainComplete := false
      state := state } := by
  refine ⟨h.device_le, h.source_le, h.written, ?_, List.Pairwise.nil, fun _ => rfl⟩
  intro cue hcue
  cases hcue

theorem Inv.dispatch (h : session.Inv) : (session.dispatch envelope nowQpc).2.Inv := by
  have hcases := dispatch_cases session envelope nowQpc
  generalize session.dispatch envelope nowQpc = outcome at hcases ⊢
  cases hcases with
  | refused => exact h
  | begun hcommand hstate htoken =>
    exact ⟨h.device_le, h.source_le, h.written, h.valid, h.ordered, fun _ =>
      h.undrained (by rw [hstate]; decide)⟩
  | accepted count hcommand hstate htoken hcount hbudget hroom after hafter =>
    obtain ⟨hsum, hle⟩ := toNat_add_frames h.source_le hbudget
    subst hafter
    refine ⟨?_, UInt64.le_iff_toNat_le.2 (by rw [← hsum] at hle; exact hle), ?_, h.valid, h.ordered,
      h.undrained⟩
    · apply UInt64.le_iff_toNat_le.2
      have hdevice := UInt64.le_iff_toNat_le.1 h.device_le
      show session.deviceFrames.toNat ≤ (session.sourceFrames + UInt64.ofNat count).toNat
      omega
    · show session.ring.writeCursor + session.ring.accepted _ =
        (session.sourceFrames + UInt64.ofNat count).toNat
      rw [length_pcmFrames, ← hcount, Ring.accepted_eq hroom, h.written, hsum]
  | cued cue hcommand hstate htoken hcue hcount hlast =>
    obtain ⟨hvalid, -⟩ := decodeVisualSpeechCuePayload_eq_some.1 hcue
    refine ⟨h.device_le, h.source_le, h.written, ?_, h.ordered.append h.valid hlast, h.undrained⟩
    intro other hother
    rcases List.mem_append.1 hother with hold | hnew
    · exact h.valid other hold
    · obtain rfl := List.mem_singleton.1 hnew
      exact hvalid
  | finished hcommand hstate htoken =>
    exact ⟨h.device_le, h.source_le, h.written, h.valid, h.ordered, fun _ =>
      h.undrained (by rw [hstate]; decide)⟩
  | cancelled hcommand hdrained hfailed =>
    exact h.stopped _

/-- Every call of a session keeps the invariant. -/
theorem Inv.step (h : session.Inv) (operation : SessionOperation) :
    (operation.step session).Inv := by
  cases operation with
  | process envelope actualProducerProcessId nowQpc =>
    show (session.process envelope actualProducerProcessId nowQpc).2.Inv
    by_cases hauthentic : session.authenticate envelope actualProducerProcessId nowQpc = .ok
    · rw [process_authenticated hauthentic]
      exact Inv.dispatch ⟨h.device_le, h.source_le, h.written, h.valid, h.ordered, h.undrained⟩
    · rw [process_refused hauthentic]
      exact h
  | recordDeviceFrames frames =>
    show (session.recordDeviceFrames frames).Inv
    unfold recordDeviceFrames
    split
    · refine ⟨?_, h.source_le, h.written, h.valid, h.ordered, h.undrained⟩
      show (if session.sourceFrames ≤ session.deviceFrames + frames then session.sourceFrames
        else session.deviceFrames + frames) ≤ session.sourceFrames
      by_cases hmore : session.sourceFrames ≤ session.deviceFrames + frames
      · rw [if_pos hmore]
        exact UInt64.le_refl _
      · rw [if_neg hmore]
        exact UInt64.le_of_lt (UInt64.not_le.1 hmore)
    · exact h
  | markDeviceDrained =>
    show session.markDeviceDrained.Inv
    unfold markDeviceDrained
    split
    · exact ⟨h.device_le, h.source_le, h.written, h.valid, h.ordered, fun hdrained =>
        absurd rfl hdrained⟩
    · exact h
  | cancel => exact h.stopped _
  | markDeviceLost => exact h.stopped _
  | deviceRead count =>
    exact ⟨h.device_le, h.source_le, h.written, h.valid, h.ordered, h.undrained⟩

/-- What no call changes: whose session it is. -/
def SameOwner (session after : PlaybackSession) : Prop :=
  after.lease = session.lease ∧
    after.expectedProducerProcessId = session.expectedProducerProcessId

theorem dispatch_owner (session : PlaybackSession) (envelope : ProducerEnvelope)
    (nowQpc : UInt64) :
    session.SameOwner (session.dispatch envelope nowQpc).2 ∧
      (session.dispatch envelope nowQpc).2.lastSequence = session.lastSequence := by
  have hcases := dispatch_cases session envelope nowQpc
  generalize session.dispatch envelope nowQpc = outcome at hcases ⊢
  cases hcases with
  | accepted count hcommand hstate htoken hcount hbudget hroom after hafter =>
    subst hafter
    exact ⟨⟨rfl, rfl⟩, rfl⟩
  | _ => exact ⟨⟨rfl, rfl⟩, rfl⟩

/-- The sequence of a call that is authenticated. -/
def authenticated (session : PlaybackSession) : SessionOperation → Option UInt64
  | .process envelope actualProducerProcessId nowQpc =>
    if session.authenticate envelope actualProducerProcessId nowQpc = .ok then
      some envelope.sequence
    else none
  | _ => none

theorem step_owner (session : PlaybackSession) (operation : SessionOperation) :
    session.SameOwner (operation.step session) ∧
      (operation.step session).lastSequence =
        (session.authenticated operation).getD session.lastSequence := by
  cases operation with
  | process envelope actualProducerProcessId nowQpc =>
    show session.SameOwner (session.process envelope actualProducerProcessId nowQpc).2 ∧
      (session.process envelope actualProducerProcessId nowQpc).2.lastSequence = _
    simp only [authenticated]
    by_cases hauthentic : session.authenticate envelope actualProducerProcessId nowQpc = .ok
    · rw [process_authenticated hauthentic, if_pos hauthentic]
      exact dispatch_owner { session with lastSequence := envelope.sequence } envelope nowQpc
    · rw [process_refused hauthentic, if_neg hauthentic]
      exact ⟨⟨rfl, rfl⟩, rfl⟩
  | recordDeviceFrames frames =>
    show session.SameOwner (session.recordDeviceFrames frames) ∧
      (session.recordDeviceFrames frames).lastSequence = _
    unfold recordDeviceFrames
    split <;> exact ⟨⟨rfl, rfl⟩, rfl⟩
  | markDeviceDrained =>
    show session.SameOwner session.markDeviceDrained ∧ session.markDeviceDrained.lastSequence = _
    unfold markDeviceDrained
    split <;> exact ⟨⟨rfl, rfl⟩, rfl⟩
  | cancel => exact ⟨⟨rfl, rfl⟩, rfl⟩
  | markDeviceLost => exact ⟨⟨rfl, rfl⟩, rfl⟩
  | deviceRead count => exact ⟨⟨rfl, rfl⟩, rfl⟩

theorem authenticated_lt {operation : SessionOperation} {sequence : UInt64}
    (h : session.authenticated operation = some sequence) : session.lastSequence < sequence := by
  cases operation with
  | process envelope actualProducerProcessId nowQpc =>
    obtain ⟨hauthentic, hsequence⟩ := Option.ite_none_right_eq_some.1 h
    obtain rfl := Option.some.inj hsequence
    exact (authenticate_ok hauthentic).2.2.2
  | _ => cases h

/-- **Authenticated sequences increase.** -/
theorem authenticated_pairwise (operations : List SessionOperation) (session : PlaybackSession) :
    (observed SessionOperation.step authenticated operations session).Pairwise (· < ·) := by
  apply observed_pairwise (fun _ => True) (fun session sequence => session.lastSequence < sequence)
    (fun _ _ _ => trivial) _ _ _ trivial
  · intro session operation sequence _ h
    exact authenticated_lt h
  · intro session operation sequence _ h
    rw [(step_owner session operation).2] at h
    cases hnow : session.authenticated operation with
    | none =>
      rw [hnow] at h
      exact h
    | some now =>
      rw [hnow] at h
      exact UInt64.lt_trans (authenticated_lt hnow) h
  · intro session operation sequence later _ h hlater
    rw [(step_owner session operation).2, h] at hlater
    exact hlater

theorem runFrom_concat (operations : List SessionOperation) (operation : SessionOperation)
    (session : PlaybackSession) :
    runFrom SessionOperation.step (operations ++ [operation]) session =
      operation.step (runFrom SessionOperation.step operations session) := by
  rw [runFrom, List.foldl_append]
  rfl

/-- The session keeps the last sequence that it authenticated. -/
theorem lastSequence_runFrom (operations : List SessionOperation) (session : PlaybackSession) :
    (runFrom SessionOperation.step operations session).lastSequence =
      (observed SessionOperation.step authenticated operations session).getLast?.getD
        session.lastSequence := by
  induction operations using List.reverseRecOn with
  | nil => rfl
  | append_singleton operations operation ih =>
    rw [runFrom_concat, (step_owner _ operation).2, observed_append, ih]
    cases hnow : (runFrom SessionOperation.step operations session).authenticated operation with
    | none => simp [observed, hnow]
    | some sequence => simp [observed, hnow]

/-! ## Open streams -/

/-- The producer was answered so. -/
def Answered (command : ProducerCommand) (status : ProducerStatus) (session : PlaybackSession) :
    SessionOperation → Prop
  | .process envelope actualProducerProcessId nowQpc =>
    envelope.command = command ∧
      (session.process envelope actualProducerProcessId nowQpc).1.status = status
  | _ => False

/-- Frames were accepted. -/
def AcceptsFrames (session : PlaybackSession) (operation : SessionOperation) : Prop :=
  Answered .chunk .ok session operation ∨
    (operation.step session).sourceFrames ≠ session.sourceFrames

/-- The stream ends: by an accepted Finish, by a cancellation or with the device. -/
def Ends (session : PlaybackSession) (operation : SessionOperation) : Prop :=
  Answered .finish .ok session operation ∨ Answered .cancel .cancelled session operation ∨
    operation = .cancel ∨ operation = .markDeviceLost

/-- Not yet ended. -/
def IsOpen (session : PlaybackSession) : Prop :=
  session.state = .allocated ∨ session.state = .streaming

theorem authenticate_ne_cancelled (session : PlaybackSession) (envelope : ProducerEnvelope)
    (actualProducerProcessId : UInt32) (nowQpc : UInt64) :
    session.authenticate envelope actualProducerProcessId nowQpc ≠ .cancelled := by
  unfold authenticate
  repeat' split
  all_goals decide

/-- A call that is refused leaves the session as it is, one that is authenticated is dispatched. -/
theorem process_cases (session : PlaybackSession) (envelope : ProducerEnvelope)
    (actualProducerProcessId : UInt32) (nowQpc : UInt64) :
    (∃ status, status ≠ .ok ∧ status ≠ .cancelled ∧
      session.process envelope actualProducerProcessId nowQpc =
        session.answer envelope.sequence status) ∨
      Dispatched { session with lastSequence := envelope.sequence } envelope nowQpc
        (session.process envelope actualProducerProcessId nowQpc) := by
  by_cases hauthentic : session.authenticate envelope actualProducerProcessId nowQpc = .ok
  · right
    rw [process_authenticated hauthentic]
    exact dispatch_cases _ _ _
  · exact .inl ⟨_, hauthentic, authenticate_ne_cancelled _ _ _ _, process_refused hauthentic⟩

/-- What the calls of the producer do to the stream. -/
theorem process_stream (session : PlaybackSession) (envelope : ProducerEnvelope)
    (actualProducerProcessId : UInt32) (nowQpc : UInt64) :
    let operation := SessionOperation.process envelope actualProducerProcessId nowQpc
    let after := (session.process envelope actualProducerProcessId nowQpc).2
    (AcceptsFrames session operation → session.state = .streaming) ∧
      (after.IsOpen → session.IsOpen ∧ ¬ Ends session operation) ∧
      (after.state = .streaming → session.state = .streaming ∨
        Answered .begin .ok session operation) := by
  have hcases := process_cases session envelope actualProducerProcessId nowQpc
  simp only [AcceptsFrames, Ends, Answered, SessionOperation.step, reduceCtorEq, or_false, IsOpen]
  generalize session.process envelope actualProducerProcessId nowQpc = outcome at hcases ⊢
  rcases hcases with ⟨status, hok, hcancelled, rfl⟩ | hdispatched
  · simp [answer, respond, hok, hcancelled]
  · cases hdispatched with
    | refused status hok hcancelled => simp [answer, respond, hok, hcancelled]
    | begun hcommand hstate htoken => simp_all [answer, respond]
    | accepted count hcommand hstate htoken hcount hbudget hroom after hafter =>
      simp_all [respond, written]
    | cued cue hcommand hstate htoken hcue hcount hlast => simp_all [answer, respond]
    | finished hcommand hstate htoken => simp_all [answer, respond]
    | cancelled hcommand hdrained hfailed => simp_all [answer, respond, cancel]

/-- The calls of the endpoint leave the stream open at most, and accept no frames. -/
theorem step_stream (session : PlaybackSession) (operation : SessionOperation) :
    (AcceptsFrames session operation → session.state = .streaming) ∧
      ((operation.step session).IsOpen → session.IsOpen ∧ ¬ Ends session operation) ∧
      ((operation.step session).state = .streaming → session.state = .streaming ∨
        Answered .begin .ok session operation) := by
  cases operation with
  | process envelope actualProducerProcessId nowQpc => exact process_stream _ _ _ _
  | recordDeviceFrames frames =>
    simp only [AcceptsFrames, Ends, Answered, SessionOperation.step, recordDeviceFrames, IsOpen]
    split <;> simp
  | markDeviceDrained =>
    simp only [AcceptsFrames, Ends, Answered, SessionOperation.step, markDeviceDrained, IsOpen]
    split <;> simp
  | cancel => simp [AcceptsFrames, Answered, SessionOperation.step, cancel, IsOpen]
  | markDeviceLost => simp [AcceptsFrames, Answered, SessionOperation.step, markDeviceLost, IsOpen]
  | deviceRead count =>
    simp [AcceptsFrames, Ends, Answered, SessionOperation.step, deviceRead, IsOpen]

/-- A call of a run, and the session it meets. -/
def Occurs (P : PlaybackSession → SessionOperation → Prop) (operations : List SessionOperation)
    (session : PlaybackSession) : Prop :=
  ¬ Along SessionOperation.step (fun session operation => ¬ P session operation) operations session

/-- **An open stream has begun and not ended.** -/
theorem open_stream {session : PlaybackSession} (hstate : session.state = .allocated)
    (operations : List SessionOperation) :
    ((runFrom SessionOperation.step operations session).IsOpen →
        ¬ Occurs Ends operations session) ∧
      ((runFrom SessionOperation.step operations session).state = .streaming →
        Occurs (Answered .begin .ok) operations session) := by
  induction operations using List.reverseRecOn with
  | nil =>
    refine ⟨fun _ hends => hends trivial, ?_⟩
    intro hstreaming
    rw [show session.state = .streaming from hstreaming] at hstate
    cases hstate
  | append_singleton operations operation ih =>
    rw [runFrom_concat]
    obtain ⟨-, hopen, hbegun⟩ :=
      step_stream (runFrom SessionOperation.step operations session) operation
    simp only [Occurs, along_append, Along, and_true, not_and, not_not] at ih ⊢
    constructor
    · intro hafter
      obtain ⟨hbefore, hends⟩ := hopen hafter
      exact fun hall => hends (hall (ih.1 hbefore))
    · intro hafter hnone
      rcases hbegun hafter with hbefore | hnow
      · exact absurd hnone (ih.2 hbefore)
      · exact hnow

/-! ## Accepted cues -/

/-- The cue of a call that is accepted. -/
def acceptedCue (session : PlaybackSession) (operation : SessionOperation) :
    Option VisualSpeechCue :=
  match operation with
  | .process envelope actualProducerProcessId nowQpc =>
    if envelope.command = .visualCue ∧
        (session.process envelope actualProducerProcessId nowQpc).1.status = .ok then
      decodeVisualSpeechCuePayload envelope.payload session.lease.maxFrames.toNat
    else none
  | _ => none

/-- A cue that may still be accepted: it starts where the last one ends, or later. -/
def Awaits (session : PlaybackSession) (cue : VisualSpeechCue) : Prop :=
  session.IsOpen ∧ ∀ previous ∈ session.visualSpeechCues,
    previous.endSample ≤ cue.startSample.toNat

/-- An accepted cue is behind the others, and with them afterwards. -/
theorem acceptedCue_eq_some (hinv : session.Inv) {operation : SessionOperation}
    (h : session.acceptedCue operation = some cue) :
    validVisualSpeechCue cue session.lease.maxFrames.toNat = true ∧ session.Awaits cue ∧
      cue ∈ (operation.step session).visualSpeechCues := by
  cases operation with
  | process envelope actualProducerProcessId nowQpc =>
    obtain ⟨⟨hcommand, hok⟩, hcue⟩ := Option.ite_none_right_eq_some.1 h
    have hcases := process_cases session envelope actualProducerProcessId nowQpc
    simp only [SessionOperation.step]
    generalize session.process envelope actualProducerProcessId nowQpc = outcome at hcases hok ⊢
    rcases hcases with ⟨status, hrefused, -, rfl⟩ | hdispatched
    · exact absurd hok hrefused
    · cases hdispatched with
      | refused status hrefused hcancelled => exact absurd hok hrefused
      | cued other _ hstate htoken hother hcount hlast =>
        obtain rfl : other = cue := Option.some.inj (hother.symm.trans hcue)
        have hvalid := (decodeVisualSpeechCuePayload_eq_some.1 hcue).1
        refine ⟨hvalid, ⟨.inr hstate, ?_⟩, List.mem_append_right _ (List.mem_singleton_self _)⟩
        intro previous hprevious
        exact (List.pairwise_append.1 (hinv.ordered.append hinv.valid hlast)).2.2 _ hprevious _
          (List.mem_singleton_self _)
      | begun hother | accepted _ hother | finished hother | cancelled hother =>
        rw [hcommand] at hother
        cases hother
  | _ => cases h

/-- The cues of an open stream stay. -/
theorem cues_step (session : PlaybackSession) (operation : SessionOperation)
    (hopen : (operation.step session).IsOpen) (hcue : cue ∈ session.visualSpeechCues) :
    cue ∈ (operation.step session).visualSpeechCues := by
  cases operation with
  | process envelope actualProducerProcessId nowQpc =>
    have hcases := process_cases session envelope actualProducerProcessId nowQpc
    simp only [SessionOperation.step] at hopen ⊢
    generalize session.process envelope actualProducerProcessId nowQpc = outcome at hcases hopen ⊢
    rcases hcases with ⟨status, hrefused, -, rfl⟩ | hdispatched
    · exact hcue
    · cases hdispatched with
      | accepted count hcommand hstate htoken hcount hbudget hroom after hafter =>
        subst hafter
        exact hcue
      | cued other _ hstate htoken hother hcount hlast => exact List.mem_append_left _ hcue
      | refused | begun | finished => exact hcue
      | cancelled =>
        rcases hopen with hopen | hopen <;> cases hopen
  | recordDeviceFrames frames =>
    show cue ∈ (session.recordDeviceFrames frames).visualSpeechCues
    unfold recordDeviceFrames
    split <;> exact hcue
  | markDeviceDrained =>
    show cue ∈ session.markDeviceDrained.visualSpeechCues
    unfold markDeviceDrained
    split <;> exact hcue
  | cancel =>
    rcases hopen with hopen | hopen <;> cases hopen
  | markDeviceLost =>
    rcases hopen with hopen | hopen <;> cases hopen
  | deviceRead count => exact hcue

/-- **Accepted cues are in order**, and valid. -/
theorem acceptedCue_inOrder (hinv : session.Inv) (operations : List SessionOperation) :
    InOrder (observed SessionOperation.step acceptedCue operations session) ∧
      ∀ cue ∈ observed SessionOperation.step acceptedCue operations session,
        validVisualSpeechCue cue session.lease.maxFrames.toNat = true := by
  constructor
  · apply observed_pairwise Inv Awaits (fun _ operation h => h.step operation) _ _ _ hinv
    · intro session operation cue hinv h
      exact (acceptedCue_eq_some hinv h).2.1
    · intro session operation cue hinv h
      refine ⟨((step_stream session operation).2.1 h.1).1, ?_⟩
      intro previous hprevious
      exact h.2 previous (cues_step session operation h.1 hprevious)
    · intro session operation cue later hinv h hlater
      exact hlater.2 cue (acceptedCue_eq_some hinv h).2.2
  · intro cue hcue
    apply mem_observed (fun other => other.Inv ∧ other.lease = session.lease)
      (fun _ cue => validVisualSpeechCue cue session.lease.maxFrames.toNat = true) _ _ _
      ⟨hinv, rfl⟩ hcue
    · intro other operation h
      exact ⟨h.1.step operation, (step_owner other operation).1.1.trans h.2⟩
    · intro other operation cue h hnow
      rw [← h.2]
      exact (acceptedCue_eq_some h.1 hnow).1
    · intro other operation cue _ h
      exact h

/-! ## Ended sessions -/

/-- **A session that has ended keeps its receipt**: its calls are refused, or confirm that it is
cancelled. -/
theorem process_terminal (hinv : session.Inv) (hterminal : session.terminal = true)
    (envelope : ProducerEnvelope) (actualProducerProcessId : UInt32) (nowQpc : UInt64) :
    let outcome := session.process envelope actualProducerProcessId nowQpc
    outcome.2.state = session.state ∧ outcome.2.receipt = session.receipt ∧
      outcome.1.receipt = some session.receipt ∧ outcome.1.status ≠ .ok ∧
      (outcome.1.status = .cancelled →
        envelope.command = .cancel ∧ session.state = .cancelled) := by
  have hcases := process_cases session envelope actualProducerProcessId nowQpc
  simp only
  generalize session.process envelope actualProducerProcessId nowQpc = outcome at hcases ⊢
  rcases hcases with ⟨status, hok, hcancelled, rfl⟩ | hdispatched
  · exact ⟨rfl, rfl, if_pos hterminal, hok, fun h => absurd h hcancelled⟩
  · cases hdispatched with
    | refused status hok hcancelled =>
      exact ⟨rfl, rfl, if_pos hterminal, hok, fun h => absurd h hcancelled⟩
    | cancelled hcommand hdrained hfailed =>
      have hstate : session.state = .cancelled := by
        simpa [terminal, show session.state ≠ .drained from hdrained,
          show session.state ≠ .failed from hfailed] using hterminal
      have hreceipt : { session with lastSequence := envelope.sequence }.cancel.receipt =
          session.receipt := by
        unfold receipt
        rw [hinv.undrained hdrained, hstate]
        rfl
      refine ⟨hstate.symm, hreceipt, ?_, ?_, fun _ => ⟨hcommand, hstate⟩⟩
      rotate_left
      · intro hok
        cases hok
      rw [← hreceipt]
      rfl
    | begun _ hstate | accepted _ _ hstate | cued _ _ hstate | finished _ hstate =>
      simp [terminal, show session.state = _ from hstate] at hterminal

end PlaybackSession

/-! ## The claim about runs -/

namespace PlaybackSession

/-- **A playback session is safe against any producer.** From its creation, whatever the calls and
envelopes are:

* the device has played no more frames than were accepted, and these are within the lease,
* the accepted cues are in order and inside the lease's frames,
* an envelope of another process, token or identity, or of a sequence that is not new, changes
  nothing,
* the sequences of the authenticated commands increase,
* frames are accepted only after an accepted Begin and before anything that ends the stream,
* a session that has ended keeps its receipt: calls are refused, or confirm a cancellation. -/
theorem playback_session_safety {lease : PlaybackLease}
    {expectedProducerProcessId ringCapacityFrames : UInt32} {policy : ValidationPolicy}
    {session : PlaybackSession}
    (h : create lease expectedProducerProcessId ringCapacityFrames policy = some session)
    (operations : List SessionOperation) :
    let final := runFrom SessionOperation.step operations session
    (final.deviceFrames ≤ final.sourceFrames ∧ final.sourceFrames ≤ lease.maxFrames) ∧
      (InOrder (observed SessionOperation.step acceptedCue operations session) ∧
        ∀ cue ∈ observed SessionOperation.step acceptedCue operations session,
          cue.startSample.toNat < cue.endSample ∧ cue.endSample ≤ lease.maxFrames.toNat) ∧
      (∀ envelope actualProducerProcessId nowQpc,
        actualProducerProcessId ≠ expectedProducerProcessId ∨
          envelope.token ≠ lease.oneTimeToken ∨
          ¬ (envelope.streamId = lease.streamId ∧ envelope.sessionId = lease.sessionId ∧
            envelope.turnId = lease.turnId ∧ envelope.generation = lease.generation) ∨
          envelope.sequence ≤ final.lastSequence →
        (final.process envelope actualProducerProcessId nowQpc).2 = final) ∧
      ((observed SessionOperation.step authenticated operations session).Pairwise (· < ·) ∧
        final.lastSequence =
          (observed SessionOperation.step authenticated operations session).getLast?.getD 0) ∧
      (∀ operation, AcceptsFrames final operation →
        Occurs (Answered .begin .ok) operations session ∧ ¬ Occurs Ends operations session) ∧
      (final.terminal = true → ∀ envelope actualProducerProcessId nowQpc,
        let outcome := final.process envelope actualProducerProcessId nowQpc
        outcome.2.state = final.state ∧ outcome.2.receipt = final.receipt ∧
          outcome.1.receipt = some final.receipt ∧ outcome.1.status ≠ .ok ∧
          (outcome.1.status = .cancelled →
            envelope.command = .cancel ∧ final.state = .cancelled)) := by
  obtain ⟨hinv, hlease, hproducer, hstate, hzero⟩ := inv_create h
  intro final
  obtain ⟨hfinal, howner⟩ : final.Inv ∧ session.SameOwner final := by
    apply inv_runFrom (fun other => other.Inv ∧ session.SameOwner other) _ ⟨hinv, rfl, rfl⟩
    intro other operation hother
    obtain ⟨hlease, hproducer⟩ := (step_owner other operation).1
    exact ⟨hother.1.step operation, hlease.trans hother.2.1, hproducer.trans hother.2.2⟩
  have hmax : final.lease = lease := howner.1.trans hlease
  refine ⟨⟨hfinal.device_le, hmax ▸ hfinal.source_le⟩, ?_, ?_,
    ⟨authenticated_pairwise operations session, ?_⟩, ?_, ?_⟩
  · obtain ⟨hordered, hvalid⟩ := acceptedCue_inOrder hinv operations
    refine ⟨hordered, ?_⟩
    intro cue hcue
    obtain ⟨hlong, hinside, -⟩ := endSample_le (hvalid cue hcue)
    rw [hlease] at hinside
    exact ⟨hlong, hinside⟩
  · intro envelope actualProducerProcessId nowQpc hwrong
    have hunauthentic : final.authenticate envelope actualProducerProcessId nowQpc ≠ .ok := by
      intro hok
      obtain ⟨hprocess, htoken, hidentity, hsequence⟩ := authenticate_ok hok
      rw [hmax] at htoken hidentity
      rcases hwrong with hwrong | hwrong | hwrong | hwrong
      · exact hwrong (hprocess.trans (howner.2.trans hproducer))
      · exact hwrong htoken
      · exact hwrong hidentity
      · exact UInt64.not_lt.2 hwrong hsequence
    rw [process_refused hunauthentic]
    rfl
  · rw [← hzero]
    exact lastSequence_runFrom operations session
  · intro operation haccepts
    have hstreaming := (step_stream final operation).1 haccepts
    obtain ⟨hopen, hbegun⟩ := open_stream hstate operations
    exact ⟨hbegun hstreaming, hopen (.inr hstreaming)⟩
  · intro hterminal envelope actualProducerProcessId nowQpc
    exact process_terminal hfinal hterminal envelope actualProducerProcessId nowQpc

/-- A whole stream of two frames with a cue, which the device plays to its end. -/
def exampleStream : List SessionOperation :=
  let send (command : ProducerCommand) (sequence : UInt64) (payload : Bytes) :=
    .process ((exampleLease [112]).envelope command sequence 1 payload) 7 1
  [send .begin 1 [], send .chunk 2 [1, 0, 2, 0], send .visualCue 3 exampleCue.payload,
    .deviceRead 2, .recordDeviceFrames 2, send .finish 4 [], .markDeviceDrained]

theorem playback_session_safety_example : ∃ session,
    create (exampleLease [112]) 7 96 ⟨10000000, 50000000⟩ = some session ∧
      let final := runFrom SessionOperation.step exampleStream session
      final.state = .drained ∧ final.deviceFrames = 2 ∧ 2 ≤ final.sourceFrames ∧
        observed SessionOperation.step acceptedCue exampleStream session = [exampleCue] ∧
        exampleCue.endSample ≤ 48000 ∧
        ∀ envelope, (final.process envelope 7 1).1.receipt = some final.receipt := by
  obtain ⟨session, hsession⟩ := Option.isSome_iff_exists.1
    (show (create (exampleLease [112]) 7 96 ⟨10000000, 50000000⟩).isSome = true by decide)
  have hrun : (create (exampleLease [112]) 7 96 ⟨10000000, 50000000⟩).map (fun session =>
      let final := runFrom SessionOperation.step exampleStream session
      (final.state, final.deviceFrames,
        observed SessionOperation.step acceptedCue exampleStream session)) =
      some (.drained, 2, [exampleCue]) := by
    decide +kernel
  rw [hsession, Option.map_some, Option.some.injEq, Prod.mk.injEq, Prod.mk.injEq] at hrun
  obtain ⟨hstate, hdevice, hcues⟩ := hrun
  obtain ⟨⟨hplayed, -⟩, ⟨-, hinside⟩, -, -, -, hended⟩ :=
    playback_session_safety hsession exampleStream
  rw [hcues] at hinside
  rw [hdevice] at hplayed
  have hterminal : (runFrom SessionOperation.step exampleStream session).terminal = true := by
    rw [terminal, hstate]
    rfl
  exact ⟨session, hsession, hstate, hdevice, hplayed, hcues,
    (hinside _ (List.mem_singleton_self _)).2, fun envelope =>
    (hended hterminal envelope 7 1).2.2.1⟩

end PlaybackSession

end NpcRuntime.Playback
