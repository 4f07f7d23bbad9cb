import Mathlib.Data.List.ReduceOption
import NpcRuntime.Lib.Machine
import NpcRuntime.Recognition.Session

/-!
# The events of a recognition session are well formed

Every event that `next_event` returns is allowed by the ones before it (`Lawful`): a turn begins with
its one `TurnStarted`, its revisions count up from 1, it ends at most once at its latest revision,
and nothing follows `Cancelled`. The session keeps books about what it has normalized (`Books`), the
events that are still in the queue included.

A cancelled session answers `Cancelled` once and then nothing, and its socket gets no more frames.
-/

namespace NpcRuntime.Recognition

/-! ## The law -/

namespace RecognitionEvent

def turn : RecognitionEvent → Option Text
  | .turnStarted turnId | .turnResumed turnId _ | .turnEnded turnId _ _ => some turnId
  | .transcript event => some event.turnId
  | .sessionStarted _ | .warning _ _ | .cancelled => none

/-- The turn that an event is a revision of. -/
def revised : RecognitionEvent → Option Text
  | .turnResumed turnId _ => some turnId
  | .transcript event => some event.turnId
  | _ => none

def endedTurn : RecognitionEvent → Option Text
  | .turnEnded turnId _ _ => some turnId
  | _ => none

end RecognitionEvent

open RecognitionEvent

/-- How many revisions of the turn there are. -/
def revisionsOf (turnId : Text) (events : List RecognitionEvent) : Nat :=
  events.countP fun event => event.revised = some turnId

/-- The number of a revision, in 64 bits that saturate. -/
def revisionNumber (n : Nat) : UInt64 := UInt64.ofNat (min n (2 ^ 64 - 1))

/-- The event may come after these. -/
def Allowed (before : List RecognitionEvent) (event : RecognitionEvent) : Prop :=
  .cancelled ∉ before ∧ match event with
  | .turnStarted turnId => ∀ e ∈ before, e.turn ≠ some turnId
  | .transcript item => .turnStarted item.turnId ∈ before ∧
      item.revision = revisionNumber (revisionsOf item.turnId before + 1)
  | .turnResumed turnId revision => .turnStarted turnId ∈ before ∧
      revision = revisionNumber (revisionsOf turnId before + 1)
  | .turnEnded turnId revision _ => .turnStarted turnId ∈ before ∧
      revision = revisionNumber (revisionsOf turnId before) ∧
      ∀ e ∈ before, e.endedTurn ≠ some turnId
  | .sessionStarted _ | .warning _ _ | .cancelled => True

/-- Every event is allowed by the ones before it. -/
def Lawful (events : List RecognitionEvent) : Prop :=
  ∀ before event after, events = before ++ event :: after → Allowed before event

theorem lawful_nil : Lawful [] := by
  intro before event after h
  simp at h

theorem Lawful.of_append {events more : List RecognitionEvent} (h : Lawful (events ++ more)) :
    Lawful events := by
  intro before event after hevents
  exact h before event (after ++ more) (by rw [hevents]; simp)

variable {event : RecognitionEvent}

theorem Lawful.concat {events : List RecognitionEvent} (h : Lawful events)
    (hallowed : Allowed events event) : Lawful (events ++ [event]) := by
  intro before e after hsplit
  rcases List.eq_nil_or_concat after with rfl | ⟨after, last, rfl⟩
  · obtain ⟨rfl, hlast⟩ := List.append_inj' hsplit rfl
    obtain rfl := List.singleton_inj.1 hlast
    exact hallowed
  · rw [List.concat_eq_append, ← List.cons_append, ← List.append_assoc] at hsplit
    exact h before e after (List.append_inj' hsplit rfl).1

theorem revisionsOf_concat (turnId : Text) (events : List RecognitionEvent)
    (event : RecognitionEvent) :
    revisionsOf turnId (events ++ [event]) =
      revisionsOf turnId events + if event.revised = some turnId then 1 else 0 := by
  simp [revisionsOf, List.countP_append, List.countP_singleton]

theorem nextRevision_revisionNumber (n : Nat) :
    HostedSession.nextRevision (revisionNumber n) = revisionNumber (n + 1) := by
  unfold HostedSession.nextRevision revisionNumber
  by_cases hfull : 2 ^ 64 - 1 ≤ n
  · rw [min_eq_right hfull, min_eq_right (hfull.trans (Nat.le_succ n))]
    rfl
  · have hlt : n < 2 ^ 64 - 1 := not_le.1 hfull
    have hne : UInt64.ofNat n ≠ -1 := by
      intro h
      have hnat : (UInt64.ofNat n).toNat = (-1 : UInt64).toNat := congrArg UInt64.toNat h
      rw [UInt64.toNat_ofNat_of_lt' (hlt.trans (by decide))] at hnat
      have : (-1 : UInt64).toNat = 2 ^ 64 - 1 := rfl
      omega
    rw [min_eq_left hlt.le, min_eq_left hlt, if_neg hne, UInt64.ofNat_add]
    rfl

/-! ## The books -/

namespace HostedSession

/-- What the session knows about the events that it has normalized. -/
structure Books (events : List RecognitionEvent) (session : HostedSession) : Prop where
  lawful : Lawful events
  quiet : .cancelled ∉ events
  started : ∀ turnId, turnId ∈ session.startedTurns ↔ .turnStarted turnId ∈ events
  known : ∀ event ∈ events, ∀ turnId, event.turn = some turnId → turnId ∈ session.startedTurns
  revision : ∀ turnId, session.revisions turnId = revisionNumber (revisionsOf turnId events)
  ended : ∀ event ∈ events, ∀ turnId, event.endedTurn = some turnId → turnId ∈ session.endedTurns

/-- The books of a session that has returned some events: the queue is in them. -/
def InBooks (returned : List RecognitionEvent) (session : HostedSession) : Prop :=
  Books (returned ++ session.pending) session

variable {returned : List RecognitionEvent}

/-- The books are about the queue, the turns and the revisions. -/
theorem InBooks.of_eq {session session' : HostedSession} (h : InBooks returned session)
    (hpending : session'.pending = session.pending)
    (hstarted : session'.startedTurns = session.startedTurns)
    (hrevisions : session'.revisions = session.revisions)
    (hended : session'.endedTurns = session.endedTurns) : InBooks returned session' := by
  rw [InBooks, hpending]
  exact ⟨h.lawful, h.quiet, hstarted ▸ h.started, hstarted ▸ h.known, hrevisions ▸ h.revision,
    hended ▸ h.ended⟩

section Normalize

variable {returned : List RecognitionEvent} {session : HostedSession} (h : InBooks returned session)

include h

theorem InBooks.push (revisions : Text → UInt64) (ended : Finset Text) (flushDeadline : Bool)
    (hallowed : Allowed (returned ++ session.pending) event) (hquiet : event ≠ .cancelled)
    (hold : ∀ turnId, event ≠ .turnStarted turnId)
    (hturn : ∀ turnId, event.turn = some turnId → turnId ∈ session.startedTurns) (hrevisions : ∀
      turnId, revisions turnId = revisionNumber (revisionsOf turnId (returned ++ session.pending)
      + if event.revised = some turnId then 1 else 0)) (hended : session.endedTurns ⊆ ended)
    (hevent : ∀ turnId, event.endedTurn = some turnId → turnId ∈ ended) :
    InBooks returned ({ session with
      revisions := revisions
      endedTurns := ended
      flushDeadline := flushDeadline }.push event) := by
  have hevents : returned ++ (session.pending ++ [event]) =
      (returned ++ session.pending) ++ [event] := (List.append_assoc ..).symm
  show Books (returned ++ (session.pending ++ [event])) _
  rw [hevents]
  refine ⟨h.lawful.concat hallowed, ?_, fun turnId => ?_, fun e he turnId hturnId => ?_,
    fun turnId => ?_, fun e he turnId hturnId => ?_⟩
  · rw [List.mem_append, List.mem_singleton]
    exact fun hmem => hmem.elim h.quiet fun heq => hquiet heq.symm
  · rw [List.mem_append, List.mem_singleton]
    refine (h.started turnId).trans ⟨.inl, fun hmem => hmem.resolve_right fun heq => ?_⟩
    exact hold turnId heq.symm
  · rcases List.mem_append.1 he with he | he
    · exact h.known e he turnId hturnId
    · obtain rfl := List.mem_singleton.1 he
      exact hturn turnId hturnId
  · rw [revisionsOf_concat]
    exact hrevisions turnId
  · rcases List.mem_append.1 he with he | he
    · exact hended (h.ended e he turnId hturnId)
    · obtain rfl := List.mem_singleton.1 he
      exact hevent turnId hturnId

/-- A turn is started before anything else is said about it. -/
theorem InBooks.ensureTurnStarted (turnId : Text) :
    InBooks returned (session.ensureTurnStarted turnId) ∧
      turnId ∈ (session.ensureTurnStarted turnId).startedTurns := by
  unfold HostedSession.ensureTurnStarted
  by_cases hstarted : turnId ∈ session.startedTurns
  · rw [if_pos hstarted]
    exact ⟨h, hstarted⟩
  · rw [if_neg hstarted]
    refine ⟨?_, Finset.mem_insert_self _ _⟩
    have hnew : ∀ e ∈ returned ++ session.pending, e.turn ≠ some turnId :=
      fun e he hturn => hstarted (h.known e he turnId hturn)
    show Books (returned ++ (session.pending ++ [.turnStarted turnId])) _
    rw [← List.append_assoc]
    refine ⟨h.lawful.concat ⟨h.quiet, hnew⟩, ?_, fun other => ?_, fun e he other hother => ?_,
      fun other => ?_, fun e he other hother => ?_⟩
    · rw [List.mem_append, List.mem_singleton]
      exact fun hmem => hmem.elim h.quiet fun heq => by cases heq
    · show other ∈ insert turnId session.startedTurns ↔ _
      rw [Finset.mem_insert, List.mem_append, List.mem_singleton, h.started, or_comm,
        RecognitionEvent.turnStarted.injEq]
    · show other ∈ insert turnId session.startedTurns
      rcases List.mem_append.1 he with he | he
      · exact Finset.mem_insert_of_mem (h.known e he other hother)
      · obtain rfl := List.mem_singleton.1 he
        obtain rfl := Option.some.inj hother
        exact Finset.mem_insert_self _ _
    · rw [revisionsOf_concat]
      exact h.revision other
    · rcases List.mem_append.1 he with he | he
      · exact h.ended e he other hother
      · obtain rfl := List.mem_singleton.1 he
        cases hother

/-- A revision of a turn that has started. -/
theorem InBooks.revise {turnId : Text} (hstarted : turnId ∈ session.startedTurns)
    (hturn : event.turn = some turnId) (hrevised : event.revised = some turnId)
    (hended : event.endedTurn = none) (hold : ∀ turnId, event ≠ .turnStarted turnId)
    (hallowed : Allowed (returned ++ session.pending) event) :
    InBooks returned ((session.countRevision turnId).push event) := by
  refine h.push (Function.update session.revisions turnId
    (nextRevision (session.revisions turnId))) session.endedTurns session.flushDeadline hallowed ?_
    hold ?_ (fun other => ?_) (Finset.Subset.refl _) fun other hother => ?_
  · rintro rfl
    cases hturn
  · intro other hother
    obtain rfl := Option.some.inj (hturn.symm.trans hother)
    exact hstarted
  · by_cases hother : other = turnId
    · subst hother
      rw [Function.update_self, if_pos hrevised, h.revision, nextRevision_revisionNumber]
    · have hne : event.revised ≠ some other := by
        rw [hrevised]
        exact fun heq => hother (Option.some.inj heq).symm
      rw [Function.update_of_ne hother, if_neg hne, h.revision]
      rfl
  · rw [hended] at hother
    cases hother

theorem InBooks.normalize (event : WireEvent) : InBooks returned (session.normalize event) := by
  cases event with
  | sessionStarted providerSessionId =>
    exact h.push session.revisions session.endedTurns session.flushDeadline ⟨h.quiet, trivial⟩
      (fun heq => by cases heq) (fun _ heq => by cases heq) (fun _ hturn => by cases hturn)
      (fun turnId => h.revision turnId) (Finset.Subset.refl _) fun _ hended => by cases hended
  | warning code message =>
    exact h.push session.revisions session.endedTurns session.flushDeadline ⟨h.quiet, trivial⟩
      (fun heq => by cases heq) (fun _ heq => by cases heq) (fun _ hturn => by cases hturn)
      (fun turnId => h.revision turnId) (Finset.Subset.refl _) fun _ hended => by cases hended
  | turnStarted turnId => exact (h.ensureTurnStarted turnId).1
  | transcript item =>
    obtain ⟨hin, hstarted⟩ := h.ensureTurnStarted item.turnId
    refine hin.revise hstarted rfl rfl rfl (fun _ heq => by cases heq) ⟨hin.quiet, ?_, ?_⟩
    · exact (hin.started _).1 hstarted
    · show Function.update _ item.turnId _ item.turnId = _
      rw [Function.update_self, hin.revision, nextRevision_revisionNumber]
  | turnResumed turnId =>
    obtain ⟨hin, hstarted⟩ := h.ensureTurnStarted turnId
    refine hin.revise hstarted rfl rfl rfl (fun _ heq => by cases heq) ⟨hin.quiet, ?_, ?_⟩
    · exact (hin.started _).1 hstarted
    · show Function.update _ turnId _ turnId = _
      rw [Function.update_self, hin.revision, nextRevision_revisionNumber]
  | turnEnded turnId reason =>
    obtain ⟨hin, hstarted⟩ := h.ensureTurnStarted turnId
    show InBooks returned (session.normalizeEnd turnId reason)
    unfold HostedSession.normalizeEnd
    by_cases hended : turnId ∈ (session.ensureTurnStarted turnId).endedTurns
    · simpa only [hended, if_true] using hin
    · simp only [hended, if_false]
      have hallowed : ∀ reason, Allowed
          (returned ++ (session.ensureTurnStarted turnId).pending)
          (.turnEnded turnId ((session.ensureTurnStarted turnId).revisions turnId) reason) :=
        fun _ => ⟨hin.quiet, (hin.started _).1 hstarted, hin.revision turnId,
          fun e he heq => hended (hin.ended e he turnId heq)⟩
      refine hin.push _ (insert turnId _) false (hallowed _) (fun heq => by cases heq)
        (fun _ heq => by cases heq) (fun other hother => ?_) (fun other => hin.revision other)
        (Finset.subset_insert _ _) fun other hother => ?_
      · obtain rfl := Option.some.inj hother
        exact hstarted
      · obtain rfl := Option.some.inj hother
        exact Finset.mem_insert_self _ _

end Normalize

/-! ## Runs -/

inductive HostedCall where
  | sendAudio (pcm : List UInt8) (outcome : SendOutcome)
  | flush (reason : FlushReason) (outcome : SendOutcome)
  | cancel
  | close (outcome : SendOutcome) (closes : Bool)
  | nextEvent (arrivals : List Arrival)
  /-- The token is cancelled. -/
  | cancelExternally

variable (base64 : List UInt8 → Text)

def step (call : HostedCall) (session : HostedSession) : HostedSession :=
  match call with
  | .sendAudio pcm outcome => (sendAudio base64 pcm outcome session).2
  | .flush reason outcome => (flush reason outcome session).2
  | .cancel => session.cancel
  | .close outcome closes => (close outcome closes session).2
  | .nextEvent arrivals => (nextEvent arrivals session).2
  | .cancelExternally => { session with cancellation := true }

def answerOf : Except SttError (NextEvent × List Arrival) → Option (Option RecognitionEvent)
  | .ok (.returned event, _) => some event
  | _ => none

/-- What a call of `next_event` returns. -/
def answer (session : HostedSession) : HostedCall → Option (Option RecognitionEvent)
  | .nextEvent arrivals => answerOf (nextEvent arrivals session).1
  | _ => none

def answers (calls : List HostedCall) (session : HostedSession) : List (Option RecognitionEvent) :=
  observed (step base64) answer calls session

/-- The events that are returned. -/
def returnedEvents (calls : List HostedCall) (session : HostedSession) : List RecognitionEvent :=
  (answers base64 calls session).reduceOption

/-- What holds of a session and the events that it has returned. -/
def Consistent (returned : List RecognitionEvent) (session : HostedSession) : Prop :=
  if session.state = .cancelled then
    session.pending = [] ∧ Lawful returned ∧
      (session.cancellationEventPending = true ↔ .cancelled ∉ returned)
  else InBooks returned session ∧ session.cancellationEventPending = false

variable {session : HostedSession}

theorem consistent_of_books (h : InBooks returned session) (hstate : session.state ≠ .cancelled)
    (hpending : session.cancellationEventPending = false) : Consistent returned session := by
  unfold Consistent
  rw [if_neg hstate]
  exact ⟨h, hpending⟩

/-- A session that is cancelled forgets its queue. -/
theorem consistent_cancel (h : Consistent returned session) :
    Consistent returned session.cancel := by
  unfold cancel
  by_cases hstate : session.state ≠ .active
  · rwa [if_pos hstate]
  · have hstate : session.state = .active := not_not.1 hstate
    have hbooks : InBooks returned session := by
      unfold Consistent at h
      rw [if_neg (by simp [hstate])] at h
      exact h.1
    rw [if_neg (not_not.2 hstate)]
    refine (if_pos rfl).mpr ⟨rfl, hbooks.lawful.of_append, ?_⟩
    exact iff_of_true rfl fun hmem => hbooks.quiet (List.mem_append_left _ hmem)

theorem consistent_cancelNow (h : InBooks returned session) (hstate : session.state = .active) :
    Consistent (returned ++ [.cancelled]) session.cancelNow := by
  have hquiet : .cancelled ∉ returned := fun hmem => h.quiet (List.mem_append_left _ hmem)
  unfold cancelNow cancel
  rw [if_neg (not_not.2 hstate)]
  refine (if_pos rfl).mpr ⟨rfl, h.lawful.of_append.concat ⟨hquiet, trivial⟩, ?_⟩
  exact iff_of_false Bool.false_ne_true (not_not.2 (by simp))

/-- The events of an answer. -/
def NextEvent.events : NextEvent → List RecognitionEvent
  | .returned event => event.toList
  | .waiting => []

/-- A frame is normalized event by event. -/
theorem InBooks.foldl (h : InBooks returned session) (events : List WireEvent) :
    InBooks returned (events.foldl HostedSession.normalize session) := by
  induction events generalizing session with
  | nil => exact h
  | cons event events ih => exact ih (h.normalize event)

theorem normalize_keeps (session : HostedSession) (event : WireEvent) :
    (session.normalize event).state = session.state ∧
      (session.normalize event).cancellationEventPending = session.cancellationEventPending ∧
      (session.normalize event).transport = session.transport := by
  have hensure : ∀ turnId, (session.ensureTurnStarted turnId).state = session.state ∧
      (session.ensureTurnStarted turnId).cancellationEventPending =
        session.cancellationEventPending ∧
      (session.ensureTurnStarted turnId).transport = session.transport := by
    intro turnId
    unfold ensureTurnStarted
    split <;> exact ⟨rfl, rfl, rfl⟩
  cases event with
  | sessionStarted providerSessionId => exact ⟨rfl, rfl, rfl⟩
  | warning code message => exact ⟨rfl, rfl, rfl⟩
  | turnStarted turnId => exact hensure turnId
  | transcript item => exact hensure item.turnId
  | turnResumed turnId => exact hensure turnId
  | turnEnded turnId reason =>
    show (session.normalizeEnd turnId reason).state = _ ∧
      (session.normalizeEnd turnId reason).cancellationEventPending = _ ∧
      (session.normalizeEnd turnId reason).transport = _
    unfold normalizeEnd
    by_cases hended : turnId ∈ (session.ensureTurnStarted turnId).endedTurns
    · simp only [hended, if_true]
      exact hensure turnId
    · simp only [hended, if_false]
      exact hensure turnId

theorem foldl_normalize_keeps (session : HostedSession) (events : List WireEvent) :
    (events.foldl HostedSession.normalize session).state = session.state ∧
      (events.foldl HostedSession.normalize session).cancellationEventPending =
        session.cancellationEventPending ∧
      (events.foldl HostedSession.normalize session).transport = session.transport := by
  induction events generalizing session with
  | nil => exact ⟨rfl, rfl, rfl⟩
  | cons event events ih =>
    obtain ⟨hstate, hpending, htransport⟩ := normalize_keeps session event
    obtain ⟨hstate', hpending', htransport'⟩ := ih (session.normalize event)
    exact ⟨hstate'.trans hstate, hpending'.trans hpending, htransport'.trans htransport⟩

/-- A session that goes on. -/
structure Open (returned : List RecognitionEvent) (session : HostedSession) : Prop where
  books : InBooks returned session
  state : session.state = .active
  notPending : session.cancellationEventPending = false

theorem Open.consistent (h : Open returned session) : Consistent returned session :=
  consistent_of_books h.books (by simp [h.state]) h.notPending

theorem triple_popEvent (returned : List RecognitionEvent) :
    Triple (Open returned) popEvent
      (fun event session => match event with
        | some event => Open (returned ++ [event]) session
        | none => Open returned session ∧ session.pending = [])
      (Consistent returned) := by
  refine triple_get fun session h => ?_
  cases hpending : session.pending with
  | nil =>
    refine triple_pure _ ?_
    rintro _ rfl
    exact ⟨h, hpending⟩
  | cons event pending =>
    rintro _ rfl
    refine ⟨?_, h.state, h.notPending⟩
    have hbooks := h.books
    show Books (returned ++ [event] ++ pending) _
    rw [InBooks, hpending] at hbooks
    rw [List.append_assoc]
    exact ⟨hbooks.lawful, hbooks.quiet, hbooks.started, hbooks.known, hbooks.revision, hbooks.ended⟩

theorem triple_takeFrame (returned : List RecognitionEvent) (frame : ServerFrame) :
    Triple (Open returned) (takeFrame frame) (fun _ => Open returned) (Consistent returned) := by
  refine triple_get fun session h => ?_
  have hparse : Triple (· = session) (liftExcept (session.protocol.parseFrame frame))
      (fun _ => (· = session)) (Consistent returned) :=
    triple_liftExcept (fun _ _ _ hs => hs) fun _ hs => hs ▸ h.consistent
  refine triple_bind hparse fun parsed => ?_
  obtain ⟨events, protocol⟩ := parsed
  refine triple_modify ?_
  rintro _ rfl
  rename_i session
  obtain ⟨hstate, hpending, -⟩ := foldl_normalize_keeps { session with protocol } events
  have hbooks : InBooks returned { session with protocol } := h.books.of_eq rfl rfl rfl rfl
  exact ⟨hbooks.foldl events, hstate.trans h.state, hpending.trans h.notPending⟩

/-- A session whose socket has ended. -/
theorem triple_endSession (returned : List RecognitionEvent) (arrivals : List Arrival) :
    Triple (Open returned) (endSession arrivals)
      (fun answer => Consistent (returned ++ NextEvent.events answer.1)) (Consistent returned) := by
  intro session h
  show Consistent (returned ++ []) { session with state := .closed }
  rw [List.append_nil]
  exact consistent_of_books (h.books.of_eq rfl rfl rfl rfl) (by simp) h.notPending

/-- **The loop** returns the first event that a frame gives, or what ends the wait. -/
theorem triple_receiveLoop (returned : List RecognitionEvent) (arrivals : List Arrival) :
    Triple (Open returned) (receiveLoop arrivals)
      (fun answer => Consistent (returned ++ NextEvent.events answer.1)) (Consistent returned) := by
  induction arrivals with
  | nil => exact triple_pure _ fun session h => by simpa [NextEvent.events] using h.consistent
  | cons arrival arrivals ih =>
    cases arrival with
    | cancelled =>
      exact fun session h => consistent_cancelNow (h.books.of_eq rfl rfl rfl rfl) h.state
    | timedOut => exact fun session h => h.consistent
    | failed => exact fun session h => h.consistent
    | ended => exact triple_endSession returned arrivals
    | frame frame =>
      unfold receiveLoop
      by_cases hclosed : frame = .closed
      · rw [if_pos hclosed]
        exact triple_endSession returned arrivals
      · rw [if_neg hclosed]
        refine triple_bind (triple_takeFrame returned frame) fun _ => ?_
        refine triple_bind (triple_popEvent returned) fun event => ?_
        cases event with
        | some event => exact triple_pure _ fun session h => h.consistent
        | none => exact ih.mono (fun session h => h.1) (fun _ _ h => h) fun _ h => h

theorem triple_nextEvent (returned : List RecognitionEvent) (arrivals : List Arrival) :
    Triple (Consistent returned) (nextEvent arrivals)
      (fun answer => Consistent (returned ++ NextEvent.events answer.1)) (Consistent returned) := by
  refine triple_get fun session h => ?_
  have hnone : Consistent (returned ++ []) session := by rwa [List.append_nil]
  by_cases htold : session.cancellationEventPending
  · rw [if_pos htold]
    rintro _ rfl
    rename_i session
    show Consistent (returned ++ [.cancelled]) { session with cancellationEventPending := false }
    unfold Consistent at h ⊢
    by_cases hcancelled : session.state = .cancelled
    · rw [if_pos hcancelled] at h
      obtain ⟨hempty, hlawful, htells⟩ := h
      refine (if_pos hcancelled).mpr ⟨hempty, hlawful.concat ⟨htells.1 htold, trivial⟩, ?_⟩
      exact iff_of_false Bool.false_ne_true (not_not.2 (by simp))
    · rw [if_neg hcancelled] at h
      cases htold.symm.trans h.2
  · rw [if_neg htold]
    by_cases hactive : session.state ≠ .active
    · rw [if_pos hactive]
      rintro _ rfl
      exact hnone
    · rw [if_neg hactive]
      have hstate : session.state = .active := not_not.1 hactive
      have hopen : Open returned session := by
        unfold Consistent at h
        rw [if_neg (by simp [hstate])] at h
        exact ⟨h.1, hstate, h.2⟩
      by_cases hcancelled : session.cancellation
      · rw [if_pos hcancelled]
        rintro _ rfl
        exact consistent_cancelNow hopen.books hopen.state
      · rw [if_neg hcancelled]
        refine triple_bind ((triple_popEvent returned).mono ?_ (fun _ _ h => h) fun _ h => h)
          fun event => ?_
        · rintro _ rfl
          exact hopen
        cases event with
        | some event => exact triple_pure _ fun session h => h.consistent
        | none =>
          exact (triple_receiveLoop returned arrivals).mono (fun session h => h.1) (fun _ _ h => h)
            fun _ h => h

/-- What a session has handed over, and its deadline, are not in the books. -/
theorem consistent_of_eq {session session' : HostedSession} (h : Consistent returned session)
    (hstate : session'.state = session.state)
    (htold : session'.cancellationEventPending = session.cancellationEventPending)
    (hpending : session'.pending = session.pending)
    (hstarted : session'.startedTurns = session.startedTurns)
    (hrevisions : session'.revisions = session.revisions)
    (hended : session'.endedTurns = session.endedTurns) : Consistent returned session' := by
  unfold Consistent at h ⊢
  rw [hstate, htold, hpending]
  by_cases hcancelled : session.state = .cancelled
  · rwa [if_pos hcancelled] at h ⊢
  · rw [if_neg hcancelled] at h ⊢
    exact ⟨h.1.of_eq hpending hstarted hrevisions hended, h.2⟩

theorem keeps_ensureActive (returned : List RecognitionEvent) :
    Keeps (Consistent returned) ensureActive := by
  have hmodify : Triple (Consistent returned) (modify fun session : HostedSession =>
      if session.cancellation ∧ session.state = .active then session.cancel else session :
        SessionCall Unit) (fun _ => Consistent returned) (Consistent returned) := by
    refine triple_modify fun session h => ?_
    by_cases hcancelled : session.cancellation ∧ session.state = .active
    · rw [if_pos hcancelled]
      exact consistent_cancel h
    · rwa [if_neg hcancelled]
  refine triple_bind hmodify fun _ => triple_get fun session h => ?_
  by_cases hactive : session.state = .active
  · rw [if_pos hactive]
    exact triple_pure _ fun _ heq => heq ▸ h
  · rw [if_neg hactive]
    exact triple_throw _ fun _ heq => heq ▸ h

theorem keeps_sendWithTimeout (returned : List RecognitionEvent) (frame : ClientFrame)
    (outcome : SendOutcome) (timeoutMessage : String) :
    Keeps (Consistent returned) (sendWithTimeout frame outcome timeoutMessage) := by
  intro session h
  have hhanded : Consistent returned (session.handOver frame) :=
    consistent_of_eq h rfl rfl rfl rfl rfl rfl
  cases outcome with
  | sent => exact hhanded
  | timedOut => exact hhanded
  | failed => exact hhanded

theorem keeps_sendAudio (base64 : List UInt8 → Text) (returned : List RecognitionEvent)
    (pcm : List UInt8) (outcome : SendOutcome) :
    Keeps (Consistent returned) (sendAudio base64 pcm outcome) := by
  refine triple_bind (keeps_ensureActive returned) fun _ => ?_
  by_cases hempty : pcm = []
  · rw [if_pos hempty]
    exact triple_pure _ fun _ h => h
  · rw [if_neg hempty]
    by_cases hlarge : pcm.length > 1024 * 1024
    · rw [if_pos hlarge]
      exact triple_throw _ fun _ h => h
    · rw [if_neg hlarge]
      exact triple_get fun session h => (keeps_sendWithTimeout returned _ outcome _).mono
        (fun _ heq => heq ▸ h) (fun _ _ h => h) fun _ h => h

theorem keeps_flush (returned : List RecognitionEvent) (reason : FlushReason)
    (outcome : SendOutcome) : Keeps (Consistent returned) (flush reason outcome) := by
  refine triple_bind (keeps_ensureActive returned) fun _ => triple_get fun session h => ?_
  refine triple_bind ((keeps_sendWithTimeout returned _ outcome _).mono (fun _ heq => heq ▸ h)
    (fun _ _ h => h) fun _ h => h) fun _ => triple_modify fun _ h => ?_
  exact consistent_of_eq h rfl rfl rfl rfl rfl rfl

theorem keeps_close (returned : List RecognitionEvent) (outcome : SendOutcome) (closes : Bool) :
    Keeps (Consistent returned) (close outcome closes) := by
  refine triple_get fun session h => ?_
  by_cases hactive : session.state = .active
  · rw [if_pos hactive]
    have hsession : Open returned session := by
      unfold Consistent at h
      rw [if_neg (by simp [hactive])] at h
      exact ⟨h.1, hactive, h.2⟩
    have hsend : Triple (· = session) (sendWithTimeout session.protocol.closeFrame outcome
        "close send timed out") (fun _ => Open returned) (Consistent returned) := by
      rintro _ rfl
      rename_i session
      have hhanded : Open returned (session.handOver session.protocol.closeFrame) :=
        ⟨hsession.books.of_eq rfl rfl rfl rfl, hsession.state, hsession.notPending⟩
      cases outcome with
      | sent => exact hhanded
      | timedOut => exact hhanded.consistent
      | failed => exact hhanded.consistent
    refine triple_bind hsend fun _ => ?_
    by_cases hcloses : closes
    · rw [if_pos hcloses]
      exact triple_modify fun _ h =>
        consistent_of_books (h.books.of_eq rfl rfl rfl rfl) (by simp) h.notPending
    · rw [if_neg hcloses]
      exact triple_throw _ fun _ h => h.consistent
  · rw [if_neg hactive]
    exact triple_pure _ fun _ heq => heq ▸ h

section Run

variable {base64 : List UInt8 → Text} {returned : List RecognitionEvent} {session : HostedSession}

/-- **Every call** keeps the events and the session consistent. -/
theorem consistent_step (h : Consistent returned session) (call : HostedCall) :
    Consistent (returned ++ ((answer session call).bind id).toList) (session.step base64 call) := by
  cases call with
  | sendAudio pcm outcome =>
    show Consistent (returned ++ []) _
    rw [List.append_nil]
    exact (keeps_sendAudio base64 returned pcm outcome).after h
  | flush reason outcome =>
    show Consistent (returned ++ []) _
    rw [List.append_nil]
    exact (keeps_flush returned reason outcome).after h
  | cancel =>
    show Consistent (returned ++ []) _
    rw [List.append_nil]
    exact consistent_cancel h
  | close outcome closes =>
    show Consistent (returned ++ []) _
    rw [List.append_nil]
    exact (keeps_close returned outcome closes).after h
  | cancelExternally =>
    show Consistent (returned ++ []) _
    rw [List.append_nil]
    exact consistent_of_eq h rfl rfl rfl rfl rfl rfl
  | nextEvent arrivals =>
    have hends := triple_nextEvent returned arrivals session h
    show Consistent (returned ++ ((answerOf (nextEvent arrivals session).1).bind id).toList)
      (nextEvent arrivals session).2
    generalize nextEvent arrivals session = out at hends
    obtain ⟨_ | ⟨_ | _, _⟩, session'⟩ := out
    · show Consistent (returned ++ []) session'
      rw [List.append_nil]
      exact hends
    · exact hends
    · exact hends

/-- **Every run** keeps them consistent. -/
theorem consistent_run (h : Consistent returned session) (calls : List HostedCall) :
    Consistent (returned ++ returnedEvents base64 calls session)
      (runFrom (step base64) calls session) := by
  induction calls generalizing returned session with
  | nil =>
    show Consistent (returned ++ []) session
    rwa [List.append_nil]
  | cons call calls ih =>
    have hstep : Consistent (returned ++ ((answer session call).bind id).toList)
        (session.step base64 call) := consistent_step h call
    have hrun := ih hstep
    have hevents : returnedEvents base64 (call :: calls) session =
        ((answer session call).bind id).toList ++
          returnedEvents base64 calls (session.step base64 call) := by
      show ((answer session call).toList ++ _).reduceOption = _
      rw [List.reduceOption_append]
      congr 1
      rcases answer session call with _ | _ | event <;> rfl
    rw [hevents, ← List.append_assoc]
    exact hrun

theorem lawful_of_consistent (h : Consistent returned session) : Lawful returned := by
  unfold Consistent at h
  by_cases hcancelled : session.state = .cancelled
  · rw [if_pos hcancelled] at h
    exact h.2.1
  · rw [if_neg hcancelled] at h
    exact h.1.lawful.of_append

theorem consistent_new (protocol : ProviderSession) (transport : List ClientFrame)
    (cancellation : Bool) : Consistent [] (new protocol transport cancellation) := by
  refine consistent_of_books ⟨lawful_nil, List.not_mem_nil, fun turnId => ?_, fun e he => ?_,
    fun turnId => rfl, fun e he => ?_⟩ (by simp [new]) rfl
  · simp [new]
  · cases he
  · cases he

/-! ## Cancellation -/

/-- A cancelled session does nothing but say so, once. -/
theorem step_cancelled (hstate : session.state = .cancelled) (call : HostedCall) :
    (session.step base64 call).state = .cancelled ∧
      (session.step base64 call).transport = session.transport ∧
      ((answer session call = none ∧
          (session.step base64 call).cancellationEventPending = session.cancellationEventPending) ∨
        (answer session call = some (if session.cancellationEventPending then some .cancelled
            else none) ∧
          (session.step base64 call).cancellationEventPending = false)) := by
  have hactive : ¬ session.state = .active := by simp [hstate]
  have hensure : ensureActive session =
      (.error (.cancelled session.protocol.providerId), session) := by
    have hmodify : (if session.cancellation ∧ session.state = .active then session.cancel
        else session) = session := if_neg fun h => hactive h.2
    unfold ensureActive
    rw [call_bind_modify, hmodify, call_bind_get, if_neg hactive]
    rfl
  have hunchanged : ∀ call, session.step base64 call = session → answer session call = none →
      (session.step base64 call).state = .cancelled ∧
      (session.step base64 call).transport = session.transport ∧
      ((answer session call = none ∧
          (session.step base64 call).cancellationEventPending = session.cancellationEventPending) ∨
        (answer session call = some (if session.cancellationEventPending then some .cancelled
            else none) ∧
          (session.step base64 call).cancellationEventPending = false)) := by
    intro call hstep hanswer
    rw [hstep]
    exact ⟨hstate, rfl, .inl ⟨hanswer, rfl⟩⟩
  cases call with
  | sendAudio pcm outcome =>
    have hcall : (sendAudio base64 pcm outcome session).2 = session := by
      rw [sendAudio, call_bind_of_error hensure]
    exact hunchanged _ hcall rfl
  | flush reason outcome =>
    have hcall : (flush reason outcome session).2 = session := by
      rw [flush, call_bind_of_error hensure]
    exact hunchanged _ hcall rfl
  | cancel =>
    have hcall : session.cancel = session := if_pos hactive
    exact hunchanged _ hcall rfl
  | close outcome closes =>
    have hcall : (close outcome closes session).2 = session := by
      rw [close, call_bind_get, if_neg hactive]
      rfl
    exact hunchanged _ hcall rfl
  | cancelExternally => exact ⟨hstate, rfl, .inl ⟨rfl, rfl⟩⟩
  | nextEvent arrivals =>
    by_cases htold : session.cancellationEventPending
    · have hcall : nextEvent arrivals session = (.ok (.returned (some .cancelled), arrivals),
          { session with cancellationEventPending := false }) := by
        rw [nextEvent, call_bind_get, if_pos htold]
        rfl
      simp [step, answer, answerOf, hcall, htold, hstate]
    · have hcall : nextEvent arrivals session = (.ok (.returned none, arrivals), session) := by
        rw [nextEvent, call_bind_get, if_neg htold, if_pos hactive]
        rfl
      simp [step, answer, answerOf, hcall, htold, hstate]

/-- **A cancelled session** says `Cancelled` at most once more, hands nothing over and returns
nothing else. -/
theorem run_cancelled (hstate : session.state = .cancelled) (calls : List HostedCall) :
    (runFrom (step base64) calls session).transport = session.transport ∧
      if session.cancellationEventPending then
        ∀ event rest, answers base64 calls session = event :: rest →
          event = some .cancelled ∧ ∀ event ∈ rest, event = none
      else ∀ event ∈ answers base64 calls session, event = none := by
  induction calls generalizing session with
  | nil =>
    refine ⟨rfl, ?_⟩
    split
    · exact fun event rest h => by cases h
    · exact fun event h => by cases h
  | cons call calls ih =>
    obtain ⟨hstate', htransport, hanswer⟩ := @step_cancelled base64 _ hstate call
    obtain ⟨hrun, hanswers⟩ := ih hstate'
    refine ⟨hrun.trans htransport, ?_⟩
    have hsplit : answers base64 (call :: calls) session =
        (answer session call).toList ++ answers base64 calls (session.step base64 call) := rfl
    rcases hanswer with ⟨hnone, hpending⟩ | ⟨hsome, hpending⟩
    · rw [hsplit, hnone, ← hpending]
      exact hanswers
    · rw [hpending, if_neg Bool.false_ne_true] at hanswers
      rw [hsplit, hsome]
      by_cases htold : session.cancellationEventPending
      · rw [if_pos htold, if_pos htold]
        rintro event rest ⟨⟩
        exact ⟨rfl, hanswers⟩
      · rw [if_neg htold, if_neg htold]
        intro event hevent
        rcases List.mem_cons.1 hevent with rfl | hevent
        · rfl
        · exact hanswers event hevent

/-- The calls that look for a cancellation. -/
def HostedCall.looks : HostedCall → Bool
  | .close .. | .cancelExternally => false
  | _ => true

/-- **A cancellation that is found** ends the session, with one last frame. -/
theorem step_found (hstate : session.state = .active) (hbooks : Consistent returned session)
    {call : HostedCall} (hlooks : call.looks) (hcancelled : session.cancellation ∨ call = .cancel) :
    (session.step base64 call).state = .cancelled ∧
      (session.step base64 call).transport =
        session.transport ++ [session.protocol.cancelFrame] := by
  have hcancel : session.cancel.state = .cancelled ∧
      session.cancel.transport = session.transport ++ [session.protocol.cancelFrame] := by
    rw [cancel, if_neg (not_not.2 hstate)]
    exact ⟨rfl, rfl⟩
  by_cases hcall : call = .cancel
  · subst hcall
    exact hcancel
  have htoken : session.cancellation := hcancelled.resolve_right hcall
  have hensure : ensureActive session =
      (.error (.cancelled session.cancel.protocol.providerId), session.cancel) := by
    have hinactive : session.cancel.state ≠ .active := by simp [hcancel.1]
    rw [ensureActive, call_bind_modify, if_pos ⟨htoken, hstate⟩, call_bind_get, if_neg hinactive]
    rfl
  cases call with
  | sendAudio pcm outcome =>
    have hcall : (sendAudio base64 pcm outcome session).2 = session.cancel := by
      rw [sendAudio, call_bind_of_error hensure]
    rw [step, hcall]
    exact hcancel
  | flush reason outcome =>
    have hcall : (flush reason outcome session).2 = session.cancel := by
      rw [flush, call_bind_of_error hensure]
    rw [step, hcall]
    exact hcancel
  | cancel => exact absurd rfl hcall
  | close outcome closes => cases hlooks
  | cancelExternally => cases hlooks
  | nextEvent arrivals =>
    have htold : ¬ session.cancellationEventPending := by
      unfold Consistent at hbooks
      rw [if_neg (by simp [hstate])] at hbooks
      simp [hbooks.2]
    have hcall : (nextEvent arrivals session).2 = session.cancelNow := by
      rw [nextEvent, call_bind_get, if_neg htold, if_neg (not_not.2 hstate), if_pos htoken]
      rfl
    rw [step, hcall]
    exact hcancel

end Run

/-- What holds of the events of a run. -/
structure EventLaw (base64 : List UInt8 → Text) (session : HostedSession)
    (calls : List HostedCall) : Prop where
  lawful : Lawful (returnedEvents base64 calls session)
  /-- A cancelled session hands nothing over, and it returns `Cancelled` once, then nothing. -/
  cancelled : ∀ before after, calls = before ++ after →
    (runFrom (step base64) before session).state = .cancelled →
    (runFrom (step base64) calls session).transport =
        (runFrom (step base64) before session).transport ∧
      if .cancelled ∈ returnedEvents base64 before session then
        ∀ event ∈ answers base64 after (runFrom (step base64) before session), event = none
      else ∀ event rest, answers base64 after (runFrom (step base64) before session) =
          event :: rest → event = some .cancelled ∧ ∀ event ∈ rest, event = none
  /-- A call that looks for the cancellation cancels the session and hands one last frame over. -/
  found : ∀ before call after, calls = before ++ call :: after →
    let session := runFrom (step base64) before session
    session.state = .active → call.looks → session.cancellation ∨ call = .cancel →
    (session.step base64 call).state = .cancelled ∧
      (session.step base64 call).transport =
        session.transport ++ [session.protocol.cancelFrame]

/-- **The events of a session are well formed**, whatever the provider sends and in whatever order
the calls come. -/
theorem recognition_events_lawful (base64 : List UInt8 → Text) (protocol : ProviderSession)
    (transport : List ClientFrame) (cancellation : Bool) (calls : List HostedCall) :
    EventLaw base64 (new protocol transport cancellation) calls where
  lawful := lawful_of_consistent (consistent_run (consistent_new protocol transport cancellation) calls)
  cancelled := by
    rintro before after rfl hstate
    have hconsistent : Consistent ([] ++ returnedEvents base64 before _)
        (runFrom (step base64) before _) :=
      consistent_run (consistent_new protocol transport cancellation) before
    rw [Consistent, if_pos hstate] at hconsistent
    obtain ⟨-, -, htells⟩ := hconsistent
    rw [runFrom_append]
    obtain ⟨htransport, hanswers⟩ := @run_cancelled base64 _ hstate after
    refine ⟨htransport, ?_⟩
    by_cases htold : .cancelled ∈ returnedEvents base64 before (new protocol transport cancellation)
    · rw [if_neg fun h => htells.1 h htold] at hanswers
      rw [if_pos htold]
      exact hanswers
    · rw [if_pos (htells.2 htold)] at hanswers
      rw [if_neg htold]
      exact hanswers
  found := by
    rintro before call after rfl session hstate hlooks hcancelled
    exact step_found hstate (consistent_run (consistent_new protocol transport cancellation) before)
      hlooks hcancelled

/-- A session that is closed before it finds an external cancellation never returns `Cancelled`. -/
theorem closed_before_found :
    ¬ ∀ (base64 : List UInt8 → Text) (protocol : ProviderSession) (before after : List HostedCall)
        (arrivals : List Arrival),
      (runFrom (step base64) before (new protocol [] false)).state = .active →
      .cancelled ∈ returnedEvents base64
        (before ++ .cancelExternally :: after ++ [.nextEvent arrivals]) (new protocol [] false) := by
  intro h
  have hmem := h (fun _ => []) (.deepgram true) [] [.close .sent true] [] rfl
  have hnone : returnedEvents (fun _ => [])
      ([] ++ .cancelExternally :: [.close .sent true] ++ [.nextEvent []])
      (new (.deepgram true) [] false) = [] := rfl
  rw [hnone] at hmem
  cases hmem

end HostedSession

end NpcRuntime.Recognition
