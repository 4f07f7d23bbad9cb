import Mathlib.Logic.Function.Basic
import NpcRuntime.Diagnostics.Redaction
import NpcRuntime.Lib.Calls
import NpcRuntime.Lib.Lines
import NpcRuntime.Lib.Serde

/-!
# The local event log

`diagnostics/src/store.rs`, on a disk that refuses nothing. The managed files are numbered: 0 is the
active file, `index` the one that `rotated_path` gives. `serde_json` at the stored record is a
parameter; its `from_str` of a line is `fromSlice` of the line's bytes.
-/

namespace NpcRuntime.Diagnostics

open Text Json

def minFileBytes : Nat := 4 * 1024
def maxFileBytesLimit : Nat := 16 * 1024 * 1024
def maxRotatedFilesLimit : Nat := 10
def maxEventBytesHardLimit : Nat := 64 * 1024
def maxReadEventsHardLimit : Nat := 10000

structure LocalEventLogConfig where
  sessionId : Text
  maxFileBytes : Nat
  maxRotatedFiles : Nat
  maxEventBytes : Nat
  verbosity : DiagnosticVerbosity
deriving DecidableEq

structure StoredDiagnosticEvent where
  schemaVersion : Text
  sessionId : Text
  sequence : UInt64
  event : DiagnosticEvent
  redactions : List RedactionFinding
deriving DecidableEq

structure EventWriteReceipt where
  sequence : UInt64
  serializedBytes : Nat
  redactionCount : Nat
  rotated : Bool
  discardedOversizedFiles : Nat
  filteredByVerbosity : Bool
deriving DecidableEq

structure EventReadResult where
  events : List StoredDiagnosticEvent
  skippedCorruptRecords : Nat
deriving DecidableEq

inductive EventStoreError where
  | invalidConfiguration
  | invalidEvent (message : String)
  | eventTooLarge
  | readTooLarge
  /-- `io::ErrorKind::InvalidData`: a line that is not UTF-8. -/
  | invalidData
  | serialize (error : Json.Error)
deriving DecidableEq

namespace LocalEventLogConfig

def conservative (sessionId : Text) : LocalEventLogConfig where
  sessionId := sessionId
  maxFileBytes := 512 * 1024
  maxRotatedFiles := 3
  maxEventBytes := 16 * 1024
  verbosity := .standard

def maximumDiskBytes (config : LocalEventLogConfig) : Nat :=
  min (config.maxFileBytes * (config.maxRotatedFiles + 1)) (2 ^ 64 - 1)

def validate (config : LocalEventLogConfig) : Except EventStoreError Unit :=
  if ¬ isIdentifier config.sessionId 128 ∨ config.maxFileBytes < minFileBytes ∨
      config.maxFileBytes > maxFileBytesLimit then .error .invalidConfiguration
  else if config.maxRotatedFiles > maxRotatedFilesLimit ∨ config.maxEventBytes = 0 ∨
      config.maxEventBytes > maxEventBytesHardLimit ∨
      config.maxEventBytes > config.maxFileBytes then .error .invalidConfiguration
  else .ok ()

end LocalEventLogConfig

/-- The files of the directory. -/
abbrev LogFiles := Nat → Option Bytes

def LogFiles.remove (files : LogFiles) (index : Nat) : LogFiles := Function.update files index none

/-- `fs::rename`; nothing where the source is not there. -/
def LogFiles.rename (files : LogFiles) (source destination : Nat) : LogFiles :=
  match files source with
  | none => files
  | some content => LogFiles.remove (Function.update files destination (some content)) source

/-- One round of the loop over the managed files: the file is removed and counted if it is too
large. -/
def discardStep (config : LocalEventLogConfig) (state : LogFiles × Nat) (index : Nat) :
    LogFiles × Nat :=
  if (state.1 index).any fun content => content.length > config.maxFileBytes then
    (LogFiles.remove state.1 index, state.2 + 1)
  else state

def discardOversizedManagedFiles (config : LocalEventLogConfig) (files : LogFiles) :
    LogFiles × Nat :=
  (List.range (config.maxRotatedFiles + 1)).foldl (discardStep config) (files, 0)

def rotate (files : LogFiles) (retainedFiles : Nat) : LogFiles :=
  if retainedFiles = 0 then LogFiles.remove files 0
  else
    let moved := (List.range' 1 (retainedFiles - 1)).reverse.foldl
      (fun files index => LogFiles.rename files index (index + 1))
      (LogFiles.remove files retainedFiles)
    LogFiles.rename moved 0 1

def verbosityToU8 : DiagnosticVerbosity → UInt8
  | .essential => 0
  | .standard => 1
  | .verbose => 2

def verbosityFromU8 (value : UInt8) : DiagnosticVerbosity :=
  if value = 0 then .essential else if value = 2 then .verbose else .standard

structure LocalEventLog where
  config : LocalEventLogConfig
  atomicVerbosity : UInt8
  nextSequence : UInt64
  pendingDiscardedOversizedFiles : Nat
  files : LogFiles

/-- The event that is stored for one, and the findings in it. -/
def redactedEvent (tables : UnicodeTables) (event : DiagnosticEvent) :
    Except EventStoreError (DiagnosticEvent × List RedactionFinding) := do
  let redacted := redactJsonValue tables event.toValue
  let event ← (decodeEvent redacted.1).mapError EventStoreError.serialize
  event.validate.mapError EventStoreError.invalidEvent
  return (event, redacted.2)

namespace LocalEventLog

variable (tables : UnicodeTables) (serde : Serde StoredDiagnosticEvent)

def new (config : LocalEventLogConfig) (files : LogFiles) :
    Except EventStoreError LocalEventLog := do
  config.validate
  let (files, discarded) := discardOversizedManagedFiles config files
  return {
    config
    atomicVerbosity := verbosityToU8 config.verbosity
    nextSequence := 0
    pendingDiscardedOversizedFiles := discarded
    files }

def setVerbosity (verbosity : DiagnosticVerbosity) (log : LocalEventLog) : LocalEventLog :=
  { log with atomicVerbosity := verbosityToU8 verbosity }

def verbosity (log : LocalEventLog) : DiagnosticVerbosity := verbosityFromU8 log.atomicVerbosity

def existingBytes (log : LocalEventLog) : Nat := ((log.files 0).map List.length).getD 0

/-- Whether a line of so many bytes makes the log rotate. -/
def rotatesFor (log : LocalEventLog) (length : Nat) : Bool :=
  log.existingBytes > 0 && log.existingBytes + length > log.config.maxFileBytes

/-- The line of a stored event goes to the disk. -/
def write (log : LocalEventLog) (line : Bytes) : LocalEventLog :=
  let files := if log.rotatesFor line.length then rotate log.files log.config.maxRotatedFiles
    else log.files
  { log with
    files := Function.update files 0 (some ((files 0).getD [] ++ line))
    nextSequence := if log.nextSequence = -1 then log.nextSequence else log.nextSequence + 1 }

def append (event : DiagnosticEvent) :
    ExceptT EventStoreError (StateM LocalEventLog) EventWriteReceipt := do
  liftExcept (event.validate.mapError EventStoreError.invalidEvent)
  if ¬ event.shouldRecord (← get).verbosity then
    return {
      sequence := (← get).nextSequence
      serializedBytes := 0
      redactionCount := 0
      rotated := false
      discardedOversizedFiles := 0
      filteredByVerbosity := true }
  let (files, discarded) := discardOversizedManagedFiles (← get).config (← get).files
  let discardedOversizedFiles := (← get).pendingDiscardedOversizedFiles + discarded
  modify fun log => { log with files, pendingDiscardedOversizedFiles := 0 }
  let (event, redactions) ← liftExcept (redactedEvent tables event)
  let log ← get
  let stored : StoredDiagnosticEvent := {
    schemaVersion := "1.0.0".toList
    sessionId := log.config.sessionId
    sequence := log.nextSequence
    event, redactions }
  let line := serde.toVec stored ++ [lineFeed]
  if line.length > log.config.maxEventBytes ∨ line.length > maxEventBytesHardLimit ∨
      line.length > log.config.maxFileBytes then throw .eventTooLarge
  modify fun log => log.write line
  return {
    sequence := log.nextSequence
    serializedBytes := line.length
    redactionCount := (redactions.map RedactionFinding.count).sum
    rotated := log.rotatesFor line.length
    discardedOversizedFiles
    filteredByVerbosity := false }

/-- The files from the oldest to the active one. -/
def oldestFirst (log : LocalEventLog) : List Nat :=
  (List.range (log.config.maxRotatedFiles + 1)).reverse

/-- The record of a line, if it is not skipped as corrupt. -/
def readLine (config : LocalEventLogConfig) (line : Bytes) : Option StoredDiagnosticEvent :=
  if line.length > config.maxEventBytes then none
  else (serde.fromSlice line).filter fun record =>
    record.schemaVersion = "1.0.0".toList && isIdentifier record.sessionId 128 &&
      record.event.validate.isOk

/-- The records that are kept while the files are read, and the number of the others. -/
structure Window where
  retained : List StoredDiagnosticEvent
  skipped : Nat

def Window.take (config : LocalEventLogConfig) (maxEvents : Nat) (window : Window) (line : Bytes) :
    Except EventStoreError Window :=
  if ¬ utf8 line then .error .invalidData
  else match readLine serde config line with
  | none => .ok { window with skipped := window.skipped + 1 }
  | some record =>
    if maxEvents = 0 then .ok window
    else
      let retained := if window.retained.length = maxEvents then window.retained.tail
        else window.retained
      .ok { window with retained := retained ++ [record] }

/-- The lines that a reader gets of one file. -/
def fileLines (log : LocalEventLog) (index : Nat) : List Bytes :=
  match log.files index with
  | none => []
  | some content => lines (content.take (log.config.maxFileBytes + 1))

def readRecent (maxEvents : Nat) (log : LocalEventLog) : Except EventStoreError EventReadResult := do
  if maxEvents > maxReadEventsHardLimit then throw .readTooLarge
  let window ← log.oldestFirst.foldlM (fun window index =>
    (log.fileLines index).foldlM (Window.take serde log.config maxEvents) window) ⟨[], 0⟩
  return { events := window.retained, skippedCorruptRecords := window.skipped }

end LocalEventLog

end NpcRuntime.Diagnostics
