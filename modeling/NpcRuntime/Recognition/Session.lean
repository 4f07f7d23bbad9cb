import Mathlib.Data.Finset.Insert
import NpcRuntime.Lib.Calls
import NpcRuntime.Recognition.Protocols

/-!
# A hosted recognition session

`HostedSession` of `providers-stt/src/hosted.rs`. The socket is seen from the session: what is handed
to it is kept in `transport`, and how a send ends and what arrives are inputs of the calls. A call of
`next_event` waits when nothing more arrives.
-/

namespace NpcRuntime.Recognition

inductive SessionState where
  | active
  | cancelled
  | closed
deriving DecidableEq

/-- How `send` ends under its timeout. -/
inductive SendOutcome where
  | sent
  | timedOut
  | failed
deriving DecidableEq

/-- What the select of `next_event` gives. -/
inductive Arrival where
  | frame (frame : ServerFrame)
  /-- The socket has ended. -/
  | ended
  | timedOut
  | failed
  | cancelled
deriving DecidableEq

structure HostedSession where
  /-- The frames that have been handed to the socket. -/
  transport : List ClientFrame
  protocol : ProviderSession
  /-- Whether the token is cancelled. -/
  cancellation : Bool
  state : SessionState
  cancellationEventPending : Bool
  pending : List RecognitionEvent
  revisions : Text → UInt64
  startedTurns : Finset Text
  endedTurns : Finset Text
  flushDeadline : Bool

/-- What a call of `next_event` that does not fail comes to. -/
inductive NextEvent where
  | returned (event : Option RecognitionEvent)
  | waiting
deriving DecidableEq

abbrev SessionCall (α : Type) := ExceptT SttError (StateM HostedSession) α

namespace HostedSession

/-- `start_session`, with what it has sent. -/
def new (protocol : ProviderSession) (transport : List ClientFrame) (cancellation : Bool) :
    HostedSession where
  transport := transport
  protocol := protocol
  cancellation := cancellation
  state := .active
  cancellationEventPending := false
  pending := []
  revisions := fun _ => 0
  startedTurns := ∅
  endedTurns := ∅
  flushDeadline := false

/-! ## Normalization -/

def push (event : RecognitionEvent) (session : HostedSession) : HostedSession :=
  { session with pending := session.pending ++ [event] }

def ensureTurnStarted (turnId : Text) (session : HostedSession) : HostedSession :=
  if turnId ∈ session.startedTurns then session
  else { session with startedTurns := insert turnId session.startedTurns }.push (.turnStarted turnId)

/-- `saturating_add(1)`. -/
def nextRevision (revision : UInt64) : UInt64 := if revision = -1 then revision else revision + 1

def countRevision (turnId : Text) (session : HostedSession) : HostedSession :=
  { session with
    revisions := Function.update session.revisions turnId (nextRevision (session.revisions turnId)) }

def normalizeTranscript (transcript : WireTranscript) (session : HostedSession) : HostedSession :=
  let session := (session.ensureTurnStarted transcript.turnId).countRevision transcript.turnId
  session.push (.transcript {
    turnId := transcript.turnId
    revision := session.revisions transcript.turnId
    text := transcript.text
    status := transcript.status
    language := transcript.language
    confidence := transcript.confidence
    audioStartMs := transcript.audioStartMs
    audioEndMs := transcript.audioEndMs })

def normalizeEnd (turnId : Text) (reason : TurnEndReason) (session : HostedSession) :
    HostedSession :=
  let session := session.ensureTurnStarted turnId
  if turnId ∈ session.endedTurns then session
  else
    let reason := if session.flushDeadline then .manualFlush else reason
    { session with
      endedTurns := insert turnId session.endedTurns
      flushDeadline := false }.push (.turnEnded turnId (session.revisions turnId) reason)

def normalize (session : HostedSession) : WireEvent → HostedSession
  | .sessionStarted providerSessionId => session.push (.sessionStarted providerSessionId)
  | .turnStarted turnId => session.ensureTurnStarted turnId
  | .transcript transcript => session.normalizeTranscript transcript
  | .turnResumed turnId =>
    let session := (session.ensureTurnStarted turnId).countRevision turnId
    session.push (.turnResumed turnId (session.revisions turnId))
  | .turnEnded turnId reason => session.normalizeEnd turnId reason
  | .warning code message => session.push (.warning code message)

/-! ## Calls -/

def handOver (frame : ClientFrame) (session : HostedSession) : HostedSession :=
  { session with transport := session.transport ++ [frame] }

/-- `cancel`; how its send and the close end does not matter. -/
def cancel (session : HostedSession) : HostedSession :=
  if session.state ≠ .active then session
  else
    { session with
      state := .cancelled
      pending := []
      cancellationEventPending := true }.handOver session.protocol.cancelFrame

def ensureActive : SessionCall Unit := do
  modify fun session =>
    if session.cancellation ∧ session.state = .active then session.cancel else session
  let session ← get
  if session.state = .active then return () else throw (.cancelled session.protocol.providerId)

def sendWithTimeout (frame : ClientFrame) (outcome : SendOutcome) (timeoutMessage : String) :
    SessionCall Unit := do
  modify (handOver frame)
  match outcome with
  | .sent => return ()
  | .timedOut => throw (.timeout (← get).protocol.providerId timeoutMessage)
  | .failed => throw (.transport (← get).protocol.providerId)

def sendAudio (base64 : List UInt8 → Text) (pcm : List UInt8) (outcome : SendOutcome) :
    SessionCall Unit := do
  ensureActive
  if pcm = [] then return ()
  else if pcm.length > 1024 * 1024 then throw (.invalidRequest "audio chunk exceeds one MiB")
  else sendWithTimeout ((← get).protocol.audioFrame base64 pcm) outcome "audio send timed out"

def flush (reason : FlushReason) (outcome : SendOutcome) : SessionCall Unit := do
  ensureActive
  sendWithTimeout ((← get).protocol.flushFrame reason) outcome "flush send timed out"
  modify fun session => { session with flushDeadline := true }

/-- `close`; `closes` says whether the socket can be closed. -/
def close (outcome : SendOutcome) (closes : Bool) : SessionCall Unit := do
  let session ← get
  if session.state = .active then
    sendWithTimeout session.protocol.closeFrame outcome "close send timed out"
    if closes then modify fun session => { session with state := .closed }
    else throw (.transport session.protocol.providerId)
  else return ()

/-- A cancellation that `next_event` notices. -/
def cancelNow (session : HostedSession) : HostedSession :=
  { session.cancel with cancellationEventPending := false }

/-- The first of the queued events. -/
def popEvent : SessionCall (Option RecognitionEvent) := do
  let session ← get
  match session.pending with
  | event :: pending =>
    set { session with pending }
    return some event
  | [] => return none

/-- A frame is parsed, and its events are queued. -/
def takeFrame (frame : ServerFrame) : SessionCall Unit := do
  let (events, protocol) ← liftExcept ((← get).protocol.parseFrame frame)
  modify fun session => events.foldl normalize { session with protocol }

/-- The socket has ended. -/
def endSession (arrivals : List Arrival) : SessionCall (NextEvent × List Arrival) := do
  modify fun session => { session with state := .closed }
  return (.returned none, arrivals)

/-- The loop of `next_event`, with what arrives; what it has not looked at is left. -/
def receiveLoop : List Arrival → SessionCall (NextEvent × List Arrival)
  | [] => return (.waiting, [])
  | .cancelled :: arrivals => do
    modify fun session => { session with cancellation := true }.cancelNow
    return (.returned (some .cancelled), arrivals)
  | .timedOut :: _ => do
    let session ← get
    throw (.timeout session.protocol.providerId
      (if session.flushDeadline then "provider flush timed out" else "provider receive timed out"))
  | .failed :: _ => do throw (.transport (← get).protocol.providerId)
  | .ended :: arrivals => endSession arrivals
  | .frame frame :: arrivals =>
    if frame = .closed then endSession arrivals
    else do
      takeFrame frame
      match ← popEvent with
      | some event => return (.returned (some event), arrivals)
      | none => receiveLoop arrivals

def nextEvent (arrivals : List Arrival) : SessionCall (NextEvent × List Arrival) := do
  let session ← get
  if session.cancellationEventPending then
    set { session with cancellationEventPending := false }
    return (.returned (some .cancelled), arrivals)
  else if session.state ≠ .active then return (.returned none, arrivals)
  else if session.cancellation then
    set session.cancelNow
    return (.returned (some .cancelled), arrivals)
  else match ← popEvent with
  | some event => return (.returned (some event), arrivals)
  | none => receiveLoop arrivals

end HostedSession

end NpcRuntime.Recognition
