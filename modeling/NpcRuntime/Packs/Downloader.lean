import NpcRuntime.Lib.Calls
import NpcRuntime.Lib.Saturating
import NpcRuntime.Packs.Download
import NpcRuntime.Packs.Selection

/-!
# The downloader

`model-manager/src/downloader.rs` and the journal store of `journal.rs`, at one artifact, in a
process that may die at any operation and on a disk that may refuse it, both with any part of the
operation done. What the process meets is an `environment`: a moment for every operation, in order.
HTTP and URLs come from other crates, so a reply is any reply.

A write is done when it returns, but it outlives a crash only from the next `sync_data` on. Every
byte of the file remembers the response that it is from; the program does not look at that.
-/

namespace NpcRuntime.Packs

open Text

/-! ## The disk -/

/-- Where a byte of the file is from. -/
inductive ByteSource where
  | response (number : Nat) (validator : Option Text)
  | foreign
deriving DecidableEq

structure FileByte where
  byte : UInt8
  source : ByteSource
deriving DecidableEq

structure DownloadDisk where
  /-- The file at the destination. -/
  file : Option (List FileByte)
  /-- How many of its bytes outlive a crash. -/
  synced : Nat
  /-- The saved journal of the artifact. -/
  journal : Option DownloadJournal
  /-- Where the furthest write has ended. -/
  reach : Nat
deriving DecidableEq

namespace DownloadDisk

def content (disk : DownloadDisk) : List FileByte := disk.file.getD []

def bytes (disk : DownloadDisk) : Bytes := disk.content.map FileByte.byte

/-- A hole in a file reads as zeros. -/
def hole (length : Nat) : List FileByte := List.replicate length ⟨0, .foreign⟩

def openRw (disk : DownloadDisk) : DownloadDisk := { disk with file := some disk.content }

def setLen (length : Nat) (disk : DownloadDisk) : DownloadDisk :=
  { disk with
    file := some (disk.content.take length ++ hole (length - disk.content.length))
    synced := min disk.synced length }

def writeAt (position : Nat) (written : List FileByte) (disk : DownloadDisk) : DownloadDisk :=
  { disk with
    file := some (disk.content.take position ++ hole (position - disk.content.length) ++ written ++
      disk.content.drop (position + written.length))
    synced := min disk.synced position
    reach := max disk.reach (position + written.length) }

def syncData (disk : DownloadDisk) : DownloadDisk := { disk with synced := disk.content.length }

/-- A crash: of what was not synced, something may be left. -/
def crash (left : Bytes) (disk : DownloadDisk) : DownloadDisk :=
  let content := disk.content.take disk.synced ++
    (left.map fun byte => ⟨byte, .foreign⟩).take (disk.content.length - disk.synced)
  { disk with file := disk.file.map fun _ => content, synced := content.length }

end DownloadDisk

/-! ## The network -/

/-- The value of a header field. -/
abbrev HeaderValue := Bytes

def HeaderValue.toStr (value : HeaderValue) : Option Text :=
  if value.all fun b => b = 9 || (32 ≤ b && b < 127) then
    some (value.map fun b => Char.ofNat b.toNat)
  else none

structure DownloadRequest where
  url : Text
  /-- `bytes={offset}-`. -/
  range : Option Nat
  ifRange : Option Text
deriving DecidableEq

/-- What the select over the stream of the body and the token gives next. -/
inductive BodyItem where
  | chunk (bytes : Bytes)
  | clientError
  | idleTimeout
  | cancelled
deriving DecidableEq

structure DownloadResponse where
  status : Nat
  etag : Option HeaderValue
  contentRange : Option HeaderValue
  contentLength : Option HeaderValue
  body : List BodyItem
deriving DecidableEq

inductive DownloadReply where
  | response (response : DownloadResponse)
  | clientError
  | cancelled
deriving DecidableEq

/-- An operation fails, or the process dies in it, when so much of it is done. -/
structure OperationFault where
  dies : Bool
  progress : Nat
deriving DecidableEq

/-- What one operation meets. -/
structure Moment where
  fault : Option OperationFault
  cancelled : Bool
  reply : DownloadRequest → DownloadReply

structure Url where
  scheme : Text
  host : Option Text
  username : Text
  password : Option Text
deriving DecidableEq

/-- `Url::parse`, and `IpAddr::is_loopback` of a host that parses. -/
structure UrlLibrary where
  parse : Text → Option Url
  loopbackAddress : Text → Bool

/-! ## Errors -/

inductive VerificationError where
  | io
  | sizeMismatch (expected : Nat)
  | digestMismatch (expected actual : Sha256Digest)
deriving DecidableEq

inductive JournalError where
  | io
  | invalidArtifactId (value : Text)
deriving DecidableEq

inductive DownloadError where
  | declaredSizeOutsidePolicy (size : Nat)
  | noSources
  | invalidUrl (source : Text)
  | insecureUrl (source : Text)
  | client
  | httpStatus (status : Nat)
  | cancelled
  | idleTimeout
  | io
  | unsafeDestination
  | unpreparedDestination
  | journal (error : JournalError)
  | journalManifestMismatch
  | resume (error : ResumeError)
  | resumeNotHonored
  | missingContentRange
  | invalidContentRange
  | invalidContentLength
  | remoteSizeChanged (expected actual : Nat)
  | bodyTooLarge
  | sizeOverflow
  | verification (error : VerificationError)
  | join
  | selection (error : PackSelectionError)
  /-- `PackSelectionError::ArtifactAuthorizationMismatch`. -/
  | artifactAuthorizationMismatch
deriving DecidableEq

/-- Why a call does not return a value: it returns an error, or its process is gone. -/
inductive Stop where
  | failed (error : DownloadError)
  | died
deriving DecidableEq

/-! ## What is read off a response -/

/-- `split_once`. -/
def splitOnce (separator : Char) : Text → Option (Text × Text)
  | [] => none
  | c :: rest =>
    if c = separator then some ([], rest)
    else (splitOnce separator rest).map fun parts => (c :: parts.1, parts.2)

/-- `str::parse::<u64>`. -/
def parseU64 (value : Text) : Option Nat :=
  let digits := if value.head? = some '+' then value.tail else value
  if digits ≠ [] ∧ digits.all Char.isDigit ∧ Nat.ofDigitChars 10 digits 0 ≤ u64Max then
    some (Nat.ofDigitChars 10 digits 0)
  else none

def strongEtag (value : Option HeaderValue) : Option Text := do
  let value ← (← value).toStr
  if ¬ "W/".toList.isPrefixOf value ∧ value ≠ [] then some value else none

def partialExtent (response : DownloadResponse) (expectedTotal : Nat) :
    Except DownloadError (Option Nat × Nat) := do
  let raw ← okOr (response.contentRange.bind HeaderValue.toStr) .missingContentRange
  let (range, total) ← okOr ((raw.dropPrefix? "bytes ".toList).bind fun rest =>
    splitOnce '/' rest) .invalidContentRange
  let (start, _) ← okOr (splitOnce '-' range) .invalidContentRange
  let start ← okOr (parseU64 start) .invalidContentRange
  let total ← okOr (parseU64 total) .invalidContentRange
  require (total == expectedTotal) (.remoteSizeChanged expectedTotal total)
  return (some start, total)

def responseExtent (response : DownloadResponse) (expectedTotal : Nat) :
    Except DownloadError (Option Nat × Nat) :=
  if response.status = 206 then partialExtent response expectedTotal
  else match response.contentLength.bind HeaderValue.toStr with
  | none => .ok (none, expectedTotal)
  | some length => do
    let length ← okOr (parseU64 length) .invalidContentLength
    require (length == expectedTotal) (.remoteSizeChanged expectedTotal length)
    return (none, expectedTotal)

def verifyArtifact (codec : Codec) (artifactId : Text) (expectedSize : Nat)
    (expectedSha256 : Sha256Digest) (reader : Bytes) : Except VerificationError ArtifactEvidence := do
  require (reader.length == expectedSize) (.sizeMismatch expectedSize)
  let actual := codec.sha256 reader
  require (actual == expectedSha256) (.digestMismatch expectedSha256 actual)
  return ⟨artifactId, reader.length, actual⟩

structure DownloadPolicy where
  checkpointBytes : Nat
  maximumArtifactBytes : Nat
  allowHttpLoopback : Bool
deriving DecidableEq

/-- The authorization with its table of artifacts. -/
structure DownloadAuthorization extends PackSelectionAuthorizationV1 where
  artifacts : List (Text × Nat × Sha256Digest)

def DownloadAuthorization.validateDownloadArtifact (selection : DownloadAuthorization)
    (identity : PackRevision) (artifact : ArtifactV1) : Except DownloadError Unit := do
  require (selection.identity == identity) (.selection .authorizationMismatch)
  (validatePolicyScopeAndKind selection.policy selection.kind selection.scope).mapError .selection
  require (selection.artifacts.lookup artifact.id == some (artifact.sizeBytes, artifact.sha256))
    .artifactAuthorizationMismatch

def allowedUrl (urls : UrlLibrary) (url : Url) (allowHttpLoopback : Bool) : Bool :=
  if url.scheme = "https".toList ∧ url.host.isSome ∧ url.username = [] ∧ url.password = none then true
  else allowHttpLoopback && url.scheme = "http".toList && url.username = [] &&
    url.password.isNone && url.host.any fun host =>
      host.map Char.toLower = "localhost".toList || urls.loopbackAddress host

/-! ## The download -/

structure DownloadWorld where
  disk : DownloadDisk
  /-- How many responses have come so far. -/
  responses : Nat
  /-- How many operations there have been in this call. -/
  clock : Nat

abbrev Download (α : Type) := ExceptT Stop (StateM DownloadWorld) α

def fail {α : Type} (error : DownloadError) : Download α := throw (.failed error)

/-- `?` on a result. -/
def liftDownload {α : Type} (x : Except DownloadError α) : Download α :=
  liftExcept (x.mapError Stop.failed)

namespace Downloader

variable (environment : Nat → Moment)

def nextMoment : Download Moment := do
  let world ← get
  modify fun world => { world with clock := world.clock + 1 }
  return environment world.clock

/-- An operation that the process survives or not. -/
def survive : Download Moment := do
  let moment ← nextMoment environment
  if moment.fault.any OperationFault.dies then throw .died else return moment

/-- An operation on the disk; `part` is what it does when only so much of it is done. -/
def operate (error : DownloadError) (whole : DownloadDisk → DownloadDisk)
    (part : Nat → DownloadDisk → DownloadDisk) : Download Unit := do
  match (← nextMoment environment).fault with
  | none => modify fun world => { world with disk := whole world.disk }
  | some fault =>
    modify fun world => { world with disk := part fault.progress world.disk }
    throw (if fault.dies then .died else .failed error)

/-- An operation that changes nothing. -/
def look (error : DownloadError) : Download Unit :=
  operate environment error id fun _ => id

/-- An operation of one step, which is done or not. -/
def change (error : DownloadError) (f : DownloadDisk → DownloadDisk) : Download Unit :=
  operate environment error f fun progress => if progress = 0 then id else f

def validateDownloadDestination : Download Unit := look environment .unsafeDestination

def secureOpenRwFile : Download Unit := change environment .io .openRw

def load (artifactId : Text) : Download (Option DownloadJournal) := do
  liftDownload (require (isToken artifactId 1 128) (.journal (.invalidArtifactId artifactId)))
  look environment (.journal .io)
  return (← get).disk.journal

def save (journal : DownloadJournal) : Download Unit := do
  liftDownload (require (isToken journal.artifactId 1 128)
    (.journal (.invalidArtifactId journal.artifactId)))
  change environment (.journal .io) fun disk => { disk with journal := some journal }

def truncate (length : Nat) : Download Unit := do
  validateDownloadDestination environment
  secureOpenRwFile environment
  change environment .io (.setLen length)
  change environment .io .syncData

def restartDownload (journal : DownloadJournal) : Download DownloadJournal := do
  truncate environment 0
  save environment journal.restart
  return journal.restart

def reconcileFileAndJournal (journal : DownloadJournal) : Download DownloadJournal := do
  look environment .io
  let fileSize := (← get).disk.content.length
  if fileSize < journal.receivedBytes then
    truncate environment 0
    return journal.restart
  else if fileSize > journal.receivedBytes then
    truncate environment journal.receivedBytes
    return journal
  else return journal

def checkpoint (journal : DownloadJournal) (uncommitted : Nat) : Download DownloadJournal := do
  look environment .io
  change environment .io .syncData
  let journal ← liftDownload ((journal.recordBytes uncommitted).mapError .resume)
  save environment journal
  return journal

/-- `File::open` and `verify_artifact`, on a thread of its own. -/
def openAndVerify (codec : Codec) (artifact : ArtifactV1) :
    Download (Except VerificationError ArtifactEvidence) := do
  match (← nextMoment environment).fault with
  | some fault =>
    if fault.dies then throw .died
    else if fault.progress = 0 then fail .join
    else return .error .io
  | none =>
    match (← get).disk.file with
    | none => return .error .io
    | some content =>
      return verifyArtifact codec artifact.id artifact.sizeBytes artifact.sha256
        (content.map FileByte.byte)

def verifyCompletedFile (codec : Codec) (artifact : ArtifactV1) (journal : DownloadJournal) :
    Download ArtifactEvidence := do
  match ← openAndVerify environment codec artifact with
  | .error error =>
    let _ ← restartDownload environment journal
    fail (.verification error)
  | .ok evidence =>
    let journal ← liftDownload ((journal.markVerified evidence).mapError .resume)
    save environment journal
    return evidence

/-- `request.send()` under the token; the response gets a number. -/
def send (request : DownloadRequest) : Download (Nat × DownloadResponse) := do
  match (← survive environment).reply request with
  | .cancelled => fail .cancelled
  | .clientError => fail .client
  | .response response =>
    let number := (← get).responses
    modify fun world => { world with responses := number + 1 }
    return (number, response)

/-- `write_all` of a chunk; when it fails, the first bytes may be written. -/
def writeAll (position : Nat) (written : List FileByte) : Download Unit :=
  operate environment .io (.writeAt position written) fun progress =>
    .writeAt position (written.take progress)

/-- The loop over the body; the bytes are written from `position` on. -/
def receive (policy : DownloadPolicy) (artifact : ArtifactV1) (source : ByteSource) :
    List BodyItem → DownloadJournal → (uncommitted position : Nat) →
      Download (DownloadJournal × Nat)
  | [], journal, uncommitted, _ => return (journal, uncommitted)
  | item :: body, journal, uncommitted, position => do
    let _ ← survive environment
    match item with
    | .cancelled =>
      let _ ← checkpoint environment journal uncommitted
      fail .cancelled
    | .idleTimeout => fail .idleTimeout
    | .clientError => fail .client
    | .chunk bytes =>
      let projected := journal.receivedBytes + uncommitted + bytes.length
      liftDownload (require (projected ≤ u64Max) .sizeOverflow)
      liftDownload (require (projected ≤ artifact.sizeBytes) .bodyTooLarge)
      writeAll environment position (bytes.map fun byte => ⟨byte, source⟩)
      let uncommitted := uncommitted + bytes.length
      let position := position + bytes.length
      if uncommitted ≥ policy.checkpointBytes then
        let journal ← checkpoint environment journal uncommitted
        receive policy artifact source body journal 0 position
      else receive policy artifact source body journal uncommitted position

def resumeRequest (url : Text) (journal : DownloadJournal) : DownloadRequest :=
  if journal.receivedBytes > 0 then ⟨url, some journal.receivedBytes, journal.validator⟩
  else ⟨url, none, none⟩

/-- Whether a response goes on where the journal is. -/
def honors (journal : DownloadJournal) (status : Nat) (rangeStart : Option Nat)
    (validator : Option Text) : Bool :=
  journal.receivedBytes = 0 ||
    (status = 206 && rangeStart = some journal.receivedBytes && validator = journal.validator)

/-- The body of a response that is accepted, and the end of the download. -/
def takeBody (codec : Codec) (policy : DownloadPolicy) (artifact : ArtifactV1) (number : Nat)
    (response : DownloadResponse) (journal : DownloadJournal) : Download ArtifactEvidence := do
  secureOpenRwFile environment
  look environment .io
  let (journal, uncommitted) ← receive environment policy artifact
    (.response number (strongEtag response.etag)) response.body journal 0 journal.receivedBytes
  let journal ← checkpoint environment journal uncommitted
  verifyCompletedFile environment codec artifact journal

/-- Bytes without a validator are not gone on from. -/
def restartUnvalidated (journal : DownloadJournal) : Download DownloadJournal :=
  if journal.receivedBytes > 0 ∧ journal.validator.isNone then restartDownload environment journal
  else return journal

/-- The attempts that are left; the first of two may restart. -/
def attempts (codec : Codec) (policy : DownloadPolicy) (artifact : ArtifactV1) (url : Text) :
    Nat → DownloadJournal → Download ArtifactEvidence
  | 0, _ => fail .resumeNotHonored
  | left + 1, journal => do
    liftDownload (require (!(← nextMoment environment).cancelled) .cancelled)
    let journal ← restartUnvalidated environment journal
    let (number, response) ← send environment (resumeRequest url journal)
    liftDownload (require (200 ≤ response.status && response.status < 300)
      (.httpStatus response.status))
    let validator := strongEtag response.etag
    let (rangeStart, totalSize) ← liftDownload (responseExtent response artifact.sizeBytes)
    if ¬ honors journal response.status rangeStart validator then
      if left = 1 then
        let journal ← restartDownload environment journal
        attempts codec policy artifact url left journal
      else fail .resumeNotHonored
    else
      let journal ← liftDownload ((journal.acceptResponse
        ⟨response.status, rangeStart, totalSize, validator⟩).mapError .resume)
      takeBody environment codec policy artifact number response journal

def downloadFromUrl (codec : Codec) (policy : DownloadPolicy) (artifact : ArtifactV1) (url : Text) :
    Download ArtifactEvidence := do
  look environment .unpreparedDestination
  let journal := (← load environment artifact.id).getD
    (.new artifact.id artifact.sizeBytes artifact.sha256)
  liftDownload (require (journal.expectedSize == artifact.sizeBytes &&
    journal.expectedSha256 == artifact.sha256 && journal.artifactId == artifact.id)
    .journalManifestMismatch)
  let journal ← reconcileFileAndJournal environment journal
  save environment journal
  if journal.receivedBytes = journal.expectedSize then
    verifyCompletedFile environment codec artifact journal
  else attempts environment codec policy artifact url 2 journal

/-- Whether no other mirror is tried after an error. -/
def final : DownloadError → Bool
  | .cancelled | .journal _ => true
  | _ => false

def trySources (codec : Codec) (urls : UrlLibrary) (policy : DownloadPolicy) (artifact : ArtifactV1) :
    List Text → Option DownloadError → Download ArtifactEvidence
  | [], lastError => fail (lastError.getD .noSources)
  | source :: sources, _ => do
    let url ← liftDownload (okOr (urls.parse source) (.invalidUrl source))
    liftDownload (require (allowedUrl urls url policy.allowHttpLoopback)
      (.insecureUrl source))
    tryCatch (downloadFromUrl environment codec policy artifact source) fun
      | .died => throw .died
      | .failed error =>
        if final error then fail error
        else trySources codec urls policy artifact sources (some error)

def download (codec : Codec) (urls : UrlLibrary) (policy : DownloadPolicy) (identity : PackRevision)
    (artifact : ArtifactV1) (selection : DownloadAuthorization) : Download ArtifactEvidence := do
  liftDownload (require (0 < artifact.sizeBytes && artifact.sizeBytes ≤ policy.maximumArtifactBytes)
    (.declaredSizeOutsidePolicy artifact.sizeBytes))
  liftDownload (selection.validateDownloadArtifact identity artifact)
  validateDownloadDestination environment
  trySources environment codec urls policy artifact artifact.sourceUrls none

end Downloader

end NpcRuntime.Packs
