import NpcRuntime.Diagnostics.Types
import NpcRuntime.Lib.Calls
import NpcRuntime.Lib.Serde
import NpcRuntime.Lib.Table

/-!
# The crash marker

`diagnostics/src/recovery.rs`. A call may be refused by the file system at each of its system
calls: `Faults` says where. The marker file and the temporary files of the processes that write it
are the whole directory.
-/

namespace NpcRuntime.Diagnostics

open Text

/-! ## Markers and what is reported of them -/

inductive RecoveryPhase where
  | starting | loadingConfiguration | startingRuntime | running | shuttingDown
deriving DecidableEq

structure CrashMarker where
  schemaVersion : Text
  sessionId : Text
  applicationVersion : Text
  startedAtUtc : Text
  updatedAtUtc : Text
  phase : RecoveryPhase
  lastEventMonotonicNs : Option UInt64
  recoveryAttempt : UInt16
deriving DecidableEq

inductive IoErrorKind where
  | alreadyExists | permissionDenied | other
deriving DecidableEq

inductive RecoveryError where
  | invalidMarker
  | invalidRecoveryMetadata
  | markerTooLarge
  | sessionMismatch
  | io (kind : IoErrorKind)
deriving DecidableEq

def validTimestamp (value : Text) : Bool :=
  !isBlank value && utf8Len value ≤ 64 && !value.any isControl && value.contains 'T' &&
    (value.getLast? = some 'Z' || value.contains '+')

def CrashMarker.validate (marker : CrashMarker) : Except RecoveryError Unit :=
  if marker.schemaVersion ≠ "1.0.0".toList || !isIdentifier marker.sessionId 128 ||
      !isIdentifier marker.applicationVersion 64 || !validTimestamp marker.startedAtUtc ||
      !validTimestamp marker.updatedAtUtc || marker.recoveryAttempt > 100 then
    .error .invalidMarker
  else .ok ()

inductive PreviousExitStatus where
  | noMarker | uncleanExit | corruptMarker
deriving DecidableEq

structure PreviousSessionMetadata where
  status : PreviousExitStatus
  sessionId : Option Text
  applicationVersion : Option Text
  startedAtUtc : Option Text
  lastUpdatedAtUtc : Option Text
  lastPhase : Option RecoveryPhase
  lastEventMonotonicNs : Option UInt64
  priorRecoveryAttempt : Option UInt16
deriving DecidableEq

/-- `details_absent`. -/
def PreviousSessionMetadata.detailsAbsent (previous : PreviousSessionMetadata) : Bool :=
  previous.sessionId.isNone && previous.applicationVersion.isNone &&
    previous.startedAtUtc.isNone && previous.lastUpdatedAtUtc.isNone &&
    previous.lastPhase.isNone && previous.lastEventMonotonicNs.isNone &&
    previous.priorRecoveryAttempt.isNone

structure RecoveryMetadata where
  schemaVersion : Text
  currentSessionId : Text
  previousSession : PreviousSessionMetadata
  suggestedActions : List SuggestedAction
deriving DecidableEq

def RecoveryMetadata.validate (recovery : RecoveryMetadata) : Except RecoveryError Unit :=
  let previous := recovery.previousSession
  if recovery.schemaVersion ≠ "1.0.0".toList || !isIdentifier recovery.currentSessionId 128 ||
      recovery.suggestedActions.length > maxSuggestedActions ||
      recovery.suggestedActions.any fun action => !action.validate.isOk then
    .error .invalidRecoveryMetadata
  else match previous.status with
  | .uncleanExit =>
    if (previous.sessionId.any fun value => isIdentifier value 128) &&
        previous.sessionId ≠ some recovery.currentSessionId &&
        (previous.applicationVersion.any fun value => isIdentifier value 64) &&
        previous.startedAtUtc.any validTimestamp && previous.lastUpdatedAtUtc.any validTimestamp &&
        previous.lastPhase.isSome && previous.priorRecoveryAttempt.any (· ≤ 100) then .ok ()
    else .error .invalidRecoveryMetadata
  | .noMarker | .corruptMarker =>
    if previous.detailsAbsent then .ok () else .error .invalidRecoveryMetadata

/-! ## The file system -/

/-- The system calls of an operation, in the order in which it makes them. -/
inductive SystemCall where
  | createDirAll | openMarker | metadata | readToEnd
  | createDirAllToWrite | openTemporary | writeAll | syncAll
  | rename | removeDestination | renameAgain
  | removeFile
deriving DecidableEq

/-- Which system calls the file system refuses. -/
abbrev Faults := SystemCall → Option IoErrorKind

/-- The errors of a rename that `replace_file` answers by removing the destination. -/
def IoErrorKind.blocksReplacement (kind : IoErrorKind) : Bool :=
  kind = .alreadyExists || kind = .permissionDenied

/-- A rename replaces its destination: it is refused only where a removal of the destination is
refused as well. -/
def AtomicRename (faults : Faults) : Prop :=
  ∀ kind, faults .rename = some kind → kind.blocksReplacement →
    ∃ kind', faults .removeDestination = some kind'

structure Directory where
  marker : Option Bytes
  /-- The temporary files, by the id of the process. -/
  temporaries : Table Nat Bytes

/-- Something a process does in the directory. -/
abbrev Store (α : Type) := ExceptT RecoveryError (StateM Directory) α

def attempt (faults : Faults) (call : SystemCall) : Store Unit :=
  match faults call with
  | some kind => throw (.io kind)
  | none => pure ()

def maxMarkerBytes : Nat := 16 * 1024

namespace CrashMarkerStore

variable (serde : Serde CrashMarker) (process : Nat) (faults : Faults)

def emptyPrevious (status : PreviousExitStatus) : PreviousSessionMetadata where
  status := status
  sessionId := none
  applicationVersion := none
  startedAtUtc := none
  lastUpdatedAtUtc := none
  lastPhase := none
  lastEventMonotonicNs := none
  priorRecoveryAttempt := none

/-- `read_current` of the marker file; it changes nothing. -/
def readCurrent (file : Option Bytes) : Except RecoveryError (Option CrashMarker) := do
  if let some kind := faults .openMarker then throw (.io kind)
  match file with
  | none => return none
  | some content =>
    if let some kind := faults .metadata then throw (.io kind)
    if content.length > maxMarkerBytes then throw .markerTooLarge
    if let some kind := faults .readToEnd then throw (.io kind)
    let bytes := content.take (maxMarkerBytes + 1)
    if bytes.length > maxMarkerBytes then throw .markerTooLarge
    match serde.fromSlice bytes with
    | none => throw .invalidMarker
    | some marker =>
      marker.validate
      return some marker

def readPrevious (file : Option Bytes) : Except RecoveryError PreviousSessionMetadata :=
  match readCurrent serde faults file with
  | .ok (some marker) => .ok {
      status := .uncleanExit
      sessionId := some marker.sessionId
      applicationVersion := some marker.applicationVersion
      startedAtUtc := some marker.startedAtUtc
      lastUpdatedAtUtc := some marker.updatedAtUtc
      lastPhase := some marker.phase
      lastEventMonotonicNs := marker.lastEventMonotonicNs
      priorRecoveryAttempt := some marker.recoveryAttempt }
  | .ok none => .ok (emptyPrevious .noMarker)
  | .error .invalidMarker | .error .markerTooLarge => .ok (emptyPrevious .corruptMarker)
  | .error error => .error error

/-- `replace_file(&temporary, &self.marker_path())`. -/
def replaceFile : Store Unit := do
  let moved (directory : Directory) : Directory :=
    { marker := directory.temporaries.lookup process
      temporaries := directory.temporaries.erase process }
  match faults .rename with
  | none => modify moved
  | some kind =>
    if kind.blocksReplacement && (← get).marker.isSome then
      attempt faults .removeDestination
      modify fun directory => { directory with marker := none }
      attempt faults .renameAgain
      modify moved
    else throw (.io kind)

def writeMarker (marker : CrashMarker) : Store Unit := do
  let bytes := serde.toVec marker
  if bytes.length > maxMarkerBytes then throw .markerTooLarge
  attempt faults .createDirAllToWrite
  attempt faults .openTemporary
  modify fun directory =>
    { directory with temporaries := directory.temporaries.insert process [] }
  attempt faults .writeAll
  modify fun directory =>
    { directory with temporaries := directory.temporaries.insert process bytes }
  attempt faults .syncAll
  replaceFile process faults

def suggestedActions : PreviousExitStatus → List SuggestedAction
  | .noMarker => []
  | .uncleanExit =>
    [{ actionId := "recovery.restart_component".toList
       kind := .restartComponent
       label := "Restart the affected local component".toList
       targetId := some "runtime".toList
       requiresConfirmation := true },
     { actionId := "recovery.open_help".toList
       kind := .openBundledHelp
       label := "Open the bundled recovery guide".toList
       targetId := some "startup_recovery".toList
       requiresConfirmation := false }]
  | .corruptMarker =>
    [{ actionId := "recovery.retry_check".toList
       kind := .retryCheck
       label := "Run startup diagnostics".toList
       targetId := some "startup.integrity".toList
       requiresConfirmation := false }]

def beginSession (marker : CrashMarker) : Store RecoveryMetadata := do
  liftExcept marker.validate
  attempt faults .createDirAll
  let previousSession ← liftExcept (readPrevious serde faults (← get).marker)
  let actions := suggestedActions previousSession.status
  writeMarker serde process faults marker
  let recovery : RecoveryMetadata := {
    schemaVersion := "1.0.0".toList
    currentSessionId := marker.sessionId
    previousSession
    suggestedActions := actions }
  -- the marker is replaced by now
  liftExcept recovery.validate
  return recovery

def updatePhase (sessionId : Text) (phase : RecoveryPhase) (updatedAtUtc : Text)
    (lastEventMonotonicNs : Option UInt64) : Store Unit := do
  match ← liftExcept (readCurrent serde faults (← get).marker) with
  | none => throw .sessionMismatch
  | some marker =>
    if marker.sessionId ≠ sessionId then throw .sessionMismatch
    let marker := { marker with phase, updatedAtUtc, lastEventMonotonicNs }
    liftExcept marker.validate
    writeMarker serde process faults marker

def markCleanExit (sessionId : Text) : Store Unit := do
  match ← liftExcept (readCurrent serde faults (← get).marker) with
  | none => return
  | some marker =>
    if marker.sessionId ≠ sessionId then throw .sessionMismatch
    attempt faults .removeFile
    modify fun directory => { directory with marker := none }

end CrashMarkerStore

end NpcRuntime.Diagnostics
