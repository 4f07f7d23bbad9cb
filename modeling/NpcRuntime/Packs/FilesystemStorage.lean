import NpcRuntime.Lib.Calls
import NpcRuntime.Lib.Machine
import NpcRuntime.Packs.Lifecycle

/-!
# The storage on disk

`FilesystemPackStorage` of `model-manager/src/filesystem.rs`. Its state is the disk and, next to
it, the three kinds of files it keeps its books in: the active pointer of each pack, the references
and the consumed replay keys. The calls of the file system are parameters (`Disk`): each may fail,
and may find the disk changed.

What only touches trees of files is written over the disk alone (`DiskCall`); the rest runs under
the lock of its file.
-/

namespace NpcRuntime.Packs

open Text

def activePointerSchemaV1 : Text := "npc.active-pack/v1".toList
def installIndexSchemaV1 : Text := "npc.install-index/v1".toList
def activationReceiptSchemaV1 : Text := "npc.activation-receipt/v1".toList

structure ActivePackPointerV1 where
  schema : Text
  packId : PackId
  activeRevision : Revision
  previousRevisions : List Revision
  generation : Nat
deriving DecidableEq

structure InstalledFileV1 where
  relativePath : Text
  sizeBytes : Nat
  sha256 : Sha256Digest
deriving DecidableEq

/-- The evidence is in the order of the artifacts' identifiers. -/
structure InstallIndexV1 where
  schema : Text
  identity : PackRevision
  manifestSha256 : Sha256Digest
  artifacts : List ArtifactEvidence
  files : List InstalledFileV1
  contentTreeSha256 : Sha256Digest
  totalFileBytes : Nat
deriving DecidableEq

structure ActivationReceiptV1 where
  schema : Text
  attestationSha256 : Sha256Digest
  replayKey : Sha256Digest
  staged : StagedContentBindingV1
deriving DecidableEq

/-! ## The disk -/

/-- A tree of files the storage works on. -/
inductive Tree where
  | staging (transactionId : Text)
  | version (identity : PackRevision)
  | downloads (identity : PackRevision)
deriving DecidableEq

inductive Folder where
  | tree (tree : Tree)
  | metadata (tree : Tree)
  | versions (packId : PackId)
  | pack (packId : PackId)
deriving DecidableEq

/-- A file the storage keeps its books in, with a lock of its own. -/
inductive StateFile where
  | active (packId : PackId)
  | references
  | attestationReplay
deriving DecidableEq

/-- What `atomic_write_json` did: where it fails, the old file may have been replaced already. -/
inductive WriteOutcome where
  | written
  | failed (error : StorageError) (replaced : Bool)
deriving DecidableEq

abbrev DiskCall (δ α : Type) := ExceptT StorageError (StateM δ) α

/-- The calls of the file system. -/
structure Disk (δ : Type) where
  isDir : Tree → StateM δ Bool
  isPresent : Tree → StateM δ Bool
  secureCreateDirAll : Folder → DiskCall δ Unit
  rejectLink : Folder → DiskCall δ Unit
  removeDirAll : Tree → DiskCall δ Unit
  rename : Tree → Tree → DiskCall δ Unit
  /-- The index in the metadata of a tree. -/
  readIndex : Tree → DiskCall δ InstallIndexV1
  writeIndex : Tree → InstallIndexV1 → DiskCall δ Unit
  writeManifest : Tree → ModelPackManifestV1 → DiskCall δ Unit
  writeReceipt : Tree → ActivationReceiptV1 → DiskCall δ Unit
  /-- `index_files`: every file of the tree but its metadata, hashed. -/
  indexFiles : Tree → DiskCall δ (List InstalledFileV1)
  /-- Opening a downloaded artifact and `verify_artifact`. -/
  verifyDownload : PackRevision → ArtifactV1 → DiskCall δ ArtifactEvidence
  extractArtifact : ArtifactV1 → PackRevision → Tree → DiskCall δ Unit
  /-- The process and the counter in the name of a transaction. -/
  transaction : StateM δ Text
  lock : StateFile → DiskCall δ Unit
  unlock : StateFile → DiskCall δ Unit
  /-- Reading and parsing a file; one that is not there reads as empty. -/
  readJson : StateFile → DiskCall δ Unit
  atomicWriteJson : StateFile → StateM δ WriteOutcome
  /-- `fs::remove_file`, also when there is nothing to remove. -/
  removeFile : StateFile → DiskCall δ Unit

structure FilesystemCodec extends Codec where
  /-- `serde_json::to_vec` of an inventory. -/
  files : Encoding (List InstalledFileV1)
  /-- `ManifestError::to_string`. -/
  manifestError : ManifestError → Text

variable {δ : Type}

def ensure (condition : Bool) (message : String) : DiskCall δ Unit :=
  if condition then pure () else throw ⟨message.toList⟩

def validateFilesystemToken (value : Text) : DiskCall δ Unit :=
  ensure (isToken value 1 512) "invalid filesystem token"

def contentTreeDigest (codec : FilesystemCodec) (files : List InstalledFileV1) :
    DiskCall δ Sha256Digest :=
  match codec.files files with
  | .error error => throw ⟨error.message⟩
  | .ok encoded =>
    let domain := ("npc-staged-content-tree-v1".toList.map fun c => UInt8.ofNat c.toNat) ++ [0]
    pure (codec.sha256 (domain ++ encoded))

/-- The sum of the sizes, which has to fit. -/
def totalBytes (files : List InstalledFileV1) (message : String) : DiskCall δ Nat := do
  let total := (files.map InstalledFileV1.sizeBytes).sum
  ensure (decide (total ≤ u64Max)) message
  return total

namespace Disk

/-- The paths of an inventory that was just walked lie under its root. -/
def verifyIndex (disk : Disk δ) (codec : FilesystemCodec) (tree : Tree) (index : InstallIndexV1) :
    DiskCall δ Bool := do
  let actual ← disk.indexFiles tree
  if actual ≠ index.files then return false
  else
    let digest ← contentTreeDigest codec actual
    if digest ≠ index.contentTreeSha256 then return false
    else
      let total ← totalBytes actual "installed content byte count overflow"
      return total == index.totalFileBytes

/-! ## Trees -/

/-- One artifact on its way from the downloads into the staging tree. -/
def stageArtifact (disk : Disk δ) (identity : PackRevision) (staging : Tree)
    (supplied : Table Text ArtifactEvidence) (artifact : ArtifactV1) : DiskCall δ Unit := do
  match supplied.lookup artifact.id with
  | none => throw ⟨"artifact evidence is missing".toList⟩
  | some declared =>
    ensure (declared.sizeBytes == artifact.sizeBytes && declared.sha256 == artifact.sha256)
      "artifact evidence differs from manifest"
    validateFilesystemToken artifact.id
    disk.secureCreateDirAll (.tree (.downloads identity))
    let actual ← disk.verifyDownload identity artifact
    ensure (actual == declared) "verified artifact changed before staging"
    disk.extractArtifact artifact identity staging
    let afterExtraction ← disk.verifyDownload identity artifact
    ensure (afterExtraction == actual) "verified artifact changed during extraction"

def stageContent (disk : Disk δ) (codec : FilesystemCodec) (manifest : ModelPackManifestV1)
    (staging : Tree) (supplied : Table Text ArtifactEvidence) : DiskCall δ Unit := do
  manifest.artifacts.forM (disk.stageArtifact manifest.identity staging supplied)
  let files ← disk.indexFiles staging
  let contentTreeSha256 ← contentTreeDigest codec files
  let totalFileBytes ← totalBytes files "staged content byte count overflow"
  disk.secureCreateDirAll (.metadata staging)
  match manifest.digest codec.toCodec with
  | .error error => throw ⟨codec.manifestError error⟩
  | .ok manifestSha256 =>
    disk.writeManifest staging manifest
    disk.writeIndex staging
      { schema := installIndexSchemaV1
        identity := manifest.identity
        manifestSha256
        artifacts := supplied.ascending
        files
        contentTreeSha256
        totalFileBytes }

def stage (disk : Disk δ) (codec : FilesystemCodec) (manifest : ModelPackManifestV1)
    (evidence : List ArtifactEvidence) : DiskCall δ StagedPack := do
  match manifest.validate with
  | .error error => throw ⟨codec.manifestError error⟩
  | .ok () =>
    let identity := manifest.identity
    let supplied := Table.collect ArtifactEvidence.artifactId id evidence
    ensure (supplied.entries.length == manifest.artifacts.length)
      "artifact evidence is incomplete or duplicated"
    let transaction ← disk.transaction
    let transactionId :=
      identity.packId.value ++ '-' :: identity.revision.value ++ '-' :: transaction
    validateFilesystemToken transactionId
    let staging := Tree.staging transactionId
    disk.secureCreateDirAll (.tree staging)
    disk.rejectLink (.tree staging)
    tryCatch (disk.stageContent codec manifest staging supplied) fun error => do
      tryCatch (disk.removeDirAll staging) fun _ => pure ()
      throw error
    return { identity, transactionId }

/-- Where the staged content is: still staged, or committed as an inactive version. -/
def stagedContentRoot (disk : Disk δ) (staged : StagedPack) : DiskCall δ Tree := do
  if ← disk.isDir (.staging staged.transactionId) then return .staging staged.transactionId
  else if ← disk.isDir (.version staged.identity) then return .version staged.identity
  else throw ⟨"staged or atomically committed inactive content is missing".toList⟩

/-- The index of a tree that has to be of a revision. -/
def readIndexOf (disk : Disk δ) (tree : Tree) (identity : PackRevision) (message : String) :
    DiskCall δ InstallIndexV1 := do
  let index ← disk.readIndex tree
  ensure (index.schema == installIndexSchemaV1 && index.identity == identity) message
  return index

/-- The tree still matches the index. -/
def ensureIndex (disk : Disk δ) (codec : FilesystemCodec) (tree : Tree) (index : InstallIndexV1)
    (message : String) : DiskCall δ Unit := do
  let verified ← disk.verifyIndex codec tree index
  ensure verified message

/-- The tree has that very index, and matches it. -/
def ensureSameIndex (disk : Disk δ) (codec : FilesystemCodec) (tree : Tree)
    (index : InstallIndexV1) (message : String) : DiskCall δ Unit := do
  let existing ← disk.readIndex tree
  ensure (existing == index) message
  disk.ensureIndex codec tree existing message

def stagedContentBinding (disk : Disk δ) (codec : FilesystemCodec) (staged : StagedPack) :
    DiskCall δ StagedContentBindingV1 := do
  validateFilesystemToken staged.transactionId
  let root ← disk.stagedContentRoot staged
  disk.rejectLink (.tree root)
  let index ← disk.readIndexOf root staged.identity "staged transaction identity mismatch"
  disk.ensureIndex codec root index "staged content tree does not match its index"
  return {
    identity := index.identity
    transactionId := staged.transactionId
    manifestSha256 := index.manifestSha256
    contentTreeSha256 := index.contentTreeSha256
    fileCount := index.files.length
    totalFileBytes := index.totalFileBytes }

def commitInactive (disk : Disk δ) (codec : FilesystemCodec) (staged : StagedPack) :
    DiskCall δ Unit := do
  validateFilesystemToken staged.transactionId
  let staging := Tree.staging staged.transactionId
  disk.rejectLink (.tree staging)
  let index ← disk.readIndexOf staging staged.identity "staged transaction identity mismatch"
  disk.ensureIndex codec staging index "staged content tree does not match its immutable index"
  let destination := Tree.version staged.identity
  disk.secureCreateDirAll (.versions staged.identity.packId)
  disk.rejectLink (.versions staged.identity.packId)
  if ← disk.isPresent destination then
    disk.rejectLink (.tree destination)
    disk.ensureSameIndex codec destination index
      "immutable inactive version already contains different content"
    disk.removeDirAll staging
  else
    disk.rename staging destination
    disk.rejectLink (.tree destination)
    disk.ensureSameIndex codec destination index
      "atomically committed inactive version changed during publication"

/-- The first half of `activate`: the attested content is in its version directory. -/
def publishVersion (disk : Disk δ) (codec : FilesystemCodec) (consumed : List Sha256Digest)
    (staged : StagedPack) (authorization : ActivationAuthorization) : DiskCall δ Unit := do
  validateFilesystemToken staged.transactionId
  let root ← disk.stagedContentRoot staged
  disk.rejectLink (.tree root)
  let binding ← disk.stagedContentBinding codec staged
  ensure (binding == authorization.staged)
    "attested staged-content binding changed before activation"
  disk.readJson .attestationReplay
  ensure (consumed.contains authorization.replayKey)
    "activation authorization replay key was not durably consumed"
  let index ← disk.readIndexOf root staged.identity "staged transaction identity mismatch"
  disk.writeReceipt root
    { schema := activationReceiptSchemaV1
      attestationSha256 := authorization.attestationSha256
      replayKey := authorization.replayKey
      staged := binding }
  let destination := Tree.version staged.identity
  disk.secureCreateDirAll (.versions staged.identity.packId)
  disk.rejectLink (.versions staged.identity.packId)
  if root = destination then
    disk.ensureSameIndex codec destination index
      "inactive installed version changed before activation"
  else if ← disk.isPresent destination then
    disk.ensureSameIndex codec destination index
      "immutable version directory already contains different content"
    disk.removeDirAll root
  else
    disk.rename root destination
    disk.rejectLink (.tree destination)
    let activated ← disk.readIndex destination
    let verified ← disk.verifyIndex codec destination activated
    ensure (verified && activated.contentTreeSha256 == authorization.staged.contentTreeSha256 &&
        activated.manifestSha256 == authorization.staged.manifestSha256)
      "atomically moved version does not match its attested staged tree"

def inspect (disk : Disk δ) (codec : FilesystemCodec) (target : PackRevision) :
    DiskCall δ StorageInspection := do
  let root := Tree.version target
  if ← disk.isDir root then
    let index ← disk.readIndexOf root target "installed version metadata mismatch"
    let healthy ← tryCatch (disk.verifyIndex codec root index) fun _ => pure false
    return {
      present := true
      contentHealthy := healthy
      manifestSha256 := some index.manifestSha256
      contentTreeSha256 := some index.contentTreeSha256
      artifactEvidence := Table.collect ArtifactEvidence.artifactId id index.artifacts }
  else
    return {
      present := false
      contentHealthy := false
      manifestSha256 := none
      contentTreeSha256 := none
      artifactEvidence := ∅ }

/-- A tree goes, if it is there. -/
def removeTree (disk : Disk δ) (tree : Tree) : DiskCall δ Unit := do
  if ← disk.isPresent tree then
    disk.rejectLink (.tree tree)
    disk.removeDirAll tree

end Disk

/-! ## The books -/

/-- The storage: the disk, and what its state files hold. -/
structure FilesystemPackStorage (δ : Type) where
  disk : δ
  pointers : Table PackId ActivePackPointerV1 := ∅
  references : Table PackId (List Text) := ∅
  consumed : List Sha256Digest := []

abbrev FilesystemCall (δ α : Type) := ExceptT StorageError (StateM (FilesystemPackStorage δ)) α

/-- A call that only touches the disk. -/
def onDisk {α : Type} (call : DiskCall δ α) : FilesystemCall δ α := fun s =>
  let (result, disk) := call s.disk
  (result, { s with disk })

namespace FilesystemPackStorage

/-- The operation between taking the lock of a file and giving it back. -/
def withLock {α : Type} (env : Disk δ) (file : StateFile) (operation : FilesystemCall δ α) :
    FilesystemCall δ α := do
  onDisk (env.lock file)
  let result : Except StorageError α ← (fun s => let (result, s) := operation s; (.ok result, s))
  onDisk (env.unlock file)
  match result with
  | .ok a => pure a
  | .error error => throw error

/-- `atomic_write_json`, with what the file holds when it was replaced. -/
def write (env : Disk δ) (file : StateFile)
    (replace : FilesystemPackStorage δ → FilesystemPackStorage δ) : FilesystemCall δ Unit :=
  fun s =>
    let (outcome, disk) := env.atomicWriteJson file s.disk
    match outcome with
    | .written => (.ok (), replace { s with disk })
    | .failed error true => (.error error, replace { s with disk })
    | .failed error false => (.error error, { s with disk })

def readActivePointerUnlocked (env : Disk δ) (packId : PackId) :
    FilesystemCall δ (Option ActivePackPointerV1) := do
  onDisk (env.readJson (.active packId))
  match (← get).pointers.lookup packId with
  | none => return none
  | some pointer =>
    onDisk (ensure (pointer.schema == activePointerSchemaV1 && pointer.packId == packId)
      "active pointer identity or schema mismatch")
    return some pointer

def activePointer (env : Disk δ) (packId : PackId) :
    FilesystemCall δ (Option ActivePackPointerV1) :=
  withLock env (.active packId) (readActivePointerUnlocked env packId)

def writeActivePointer (env : Disk δ) (pointer : ActivePackPointerV1) : FilesystemCall δ Unit := do
  onDisk (env.secureCreateDirAll (.pack pointer.packId))
  onDisk (env.rejectLink (.pack pointer.packId))
  write env (.active pointer.packId) fun s =>
    { s with pointers := s.pointers.insert pointer.packId pointer }

def readReferences (env : Disk δ) : FilesystemCall δ (Table PackId (List Text)) := do
  onDisk (env.readJson .references)
  return (← get).references

def referenceCount (env : Disk δ) (packId : PackId) : FilesystemCall δ Nat :=
  withLock env .references do
    let references ← readReferences env
    return ((references.lookup packId).getD []).length

def addReference (env : Disk δ) (packId : PackId) (consumer : Text) : FilesystemCall δ Unit :=
  withLock env .references do
    let references ← readReferences env
    write env .references fun s => { s with
      references := references.insert packId
        (((references.lookup packId).getD []).insert consumer) }

def removeReference (env : Disk δ) (packId : PackId) (consumer : Text) : FilesystemCall δ Bool :=
  withLock env .references do
    let references ← readReferences env
    let consumers := (references.lookup packId).getD []
    let rest := consumers.erase consumer
    write env .references fun s => { s with
      references := if rest = [] then references.erase packId
                    else references.insert packId rest }
    return consumers.contains consumer

def consumeAttestationReplayKey (env : Disk δ) (replayKey : Sha256Digest) :
    FilesystemCall δ Bool :=
  withLock env .attestationReplay do
    onDisk (env.readJson .attestationReplay)
    let consumed := (← get).consumed
    if consumed.contains replayKey then return false
    else
      write env .attestationReplay fun s => { s with consumed := consumed.insert replayKey }
      return true

/-! ## The active pointer -/

/-- Adjacent repetitions go (`Vec::dedup`). -/
def dedup (revisions : List Revision) : List Revision := revisions.destutter (· ≠ ·)

/-- The revisions before the active one, when `revision` becomes active. -/
def pushed (prior : Option ActivePackPointerV1) (revision : Revision) : List Revision :=
  match prior with
  | none => []
  | some pointer =>
    if pointer.activeRevision ≠ revision then
      pointer.previousRevisions ++ [pointer.activeRevision]
    else pointer.previousRevisions

def nextGeneration (prior : Option ActivePackPointerV1) : Nat :=
  match prior with
  | none => 1
  | some pointer => min (pointer.generation + 1) u64Max

/-- The pointer of `activate`. -/
def activatedPointer (identity : PackRevision) (prior : Option ActivePackPointerV1) :
    ActivePackPointerV1 where
  schema := activePointerSchemaV1
  packId := identity.packId
  activeRevision := identity.revision
  previousRevisions := dedup (pushed prior identity.revision)
  generation := nextGeneration prior

/-- The pointer of `activate_existing`, with no dedup. -/
def existingPointer (identity : PackRevision) (prior : Option ActivePackPointerV1) :
    ActivePackPointerV1 where
  schema := activePointerSchemaV1
  packId := identity.packId
  activeRevision := identity.revision
  previousRevisions := pushed prior identity.revision
  generation := nextGeneration prior

/-- A pointer is read and replaced under its lock. -/
def updatePointer (env : Disk δ) (packId : PackId)
    (next : Option ActivePackPointerV1 → ActivePackPointerV1) : FilesystemCall δ Unit :=
  withLock env (.active packId) do
    let prior ← readActivePointerUnlocked env packId
    writeActivePointer env (next prior)

def activate (env : Disk δ) (codec : FilesystemCodec) (staged : StagedPack)
    (authorization : ActivationAuthorization) : FilesystemCall δ Unit := do
  let consumed := (← get).consumed
  onDisk (env.publishVersion codec consumed staged authorization)
  updatePointer env staged.identity.packId (activatedPointer staged.identity)

def activateExisting (env : Disk δ) (target : PackRevision) : FilesystemCall δ Unit := do
  let installed ← onDisk (liftM (env.isDir (.version target)))
  onDisk (ensure installed "activation target is not installed")
  updatePointer env target.packId (existingPointer target)

/-- The pointer behind a persisted rollback: the last revision is taken off, and the one that was
active comes in its place. -/
def swapped (pointer : ActivePackPointerV1) : Option ActivePackPointerV1 :=
  pointer.previousRevisions.getLast?.map fun target =>
    { pointer with
      activeRevision := target
      previousRevisions := pointer.previousRevisions.dropLast ++ [pointer.activeRevision]
      generation := min (pointer.generation + 1) u64Max }

def rollbackPersisted (env : Disk δ) (packId : PackId) : FilesystemCall δ PackRevision := do
  let references ← referenceCount env packId
  onDisk (ensure (references == 0) "pack has active consumers")
  withLock env (.active packId) do
    match ← readActivePointerUnlocked env packId with
    | none => throw ⟨"pack has no active revision".toList⟩
    | some pointer =>
      match swapped pointer with
      | none => throw ⟨"pack has no persisted rollback target".toList⟩
      | some next =>
        let identity : PackRevision := ⟨packId, next.activeRevision⟩
        let installed ← onDisk (liftM (env.isDir (.version identity)))
        onDisk (ensure installed "persisted rollback target is missing")
        writeActivePointer env next
        return identity

def removeRevision (env : Disk δ) (target : PackRevision) : FilesystemCall δ Unit := do
  let references ← referenceCount env target.packId
  onDisk (ensure (references == 0) "cannot remove referenced pack")
  let pointer ← activePointer env target.packId
  if pointer.any fun pointer => pointer.activeRevision == target.revision then
    onDisk (env.removeFile (.active target.packId))
    modify fun s => { s with pointers := s.pointers.erase target.packId }
  onDisk (env.removeTree (.version target))
  onDisk (env.removeTree (.downloads target))

end FilesystemPackStorage

/-- `impl PackStorage for FilesystemPackStorage`. -/
def filesystemPackStorage (env : Disk δ) (codec : FilesystemCodec) :
    PackStorage (FilesystemPackStorage δ) where
  stage manifest evidence := onDisk (env.stage codec manifest evidence)
  stagedContentBinding staged := onDisk (env.stagedContentBinding codec staged)
  commitInactive staged := onDisk (env.commitInactive codec staged)
  consumeAttestationReplayKey := FilesystemPackStorage.consumeAttestationReplayKey env
  activate := FilesystemPackStorage.activate env codec
  activateExisting := FilesystemPackStorage.activateExisting env
  inspect target := onDisk (env.inspect codec target)
  removeRevision := FilesystemPackStorage.removeRevision env
  addReference := FilesystemPackStorage.addReference env
  removeReference := FilesystemPackStorage.removeReference env
  referenceCount := FilesystemPackStorage.referenceCount env

/-! ## What the calls do to the books -/

namespace FilesystemPackStorage

/-- A property of the books, whatever the disk is. -/
def OfBooks (inv : FilesystemPackStorage δ → Prop) : Prop := ∀ s disk, inv s → inv { s with disk }

section Rules

variable {env : Disk δ} {α : Type} {inv pre fails : FilesystemPackStorage δ → Prop}
  {post : α → FilesystemPackStorage δ → Prop}

theorem onDisk_keeps (hinv : OfBooks inv) (call : DiskCall δ α) : Keeps inv (onDisk call) := by
  intro s hs
  simp only [onDisk]
  obtain ⟨error | a, disk⟩ := call s.disk
  · exact hinv s disk hs
  · exact hinv s disk hs

theorem onDisk_ensure (condition : Bool) (message : String) :
    Triple inv (onDisk (ensure condition message)) (fun _ s => inv s ∧ condition = true) inv := by
  intro s hs
  cases condition with
  | false => exact hs
  | true => exact ⟨hs, rfl⟩

variable {file : StateFile}

/-- Giving the lock back may fail as well. -/
theorem withLock_triple {operation : FilesystemCall δ α} (hpre : OfBooks pre)
    (hpost : ∀ a, OfBooks (post a)) (hfails : OfBooks fails) (h : Triple pre operation post fails) :
    Triple pre (withLock env file operation) post
      (fun s => pre s ∨ fails s ∨ ∃ a, post a s) := by
  have hoperation : Triple pre
      ((fun s => (.ok (operation s).1, (operation s).2)) :
        FilesystemCall δ (Except StorageError α))
      (fun result s => Ends post fails (result, s)) fails := h
  refine triple_bind ((onDisk_keeps hpre _).mono_fails fun _ => .inl) fun _ => ?_
  refine triple_bind (hoperation.mono_fails fun _ h => .inr (.inl h)) fun result => ?_
  cases result with
  | error error =>
    refine triple_bind ((onDisk_keeps hfails _).mono_fails fun _ h => .inr (.inl h)) fun _ => ?_
    exact triple_throw error fun _ h => .inr (.inl h)
  | ok a =>
    refine triple_bind ((onDisk_keeps (hpost a) _).mono_fails fun _ h => .inr (.inr ⟨a, h⟩))
      fun _ => ?_
    exact triple_pure a fun _ h => h

theorem withLock_keeps {operation : FilesystemCall δ α} (hinv : OfBooks inv)
    (h : Keeps inv operation) : Keeps inv (withLock env file operation) := by
  refine (withLock_triple hinv (fun _ => hinv) hinv h).mono_fails ?_
  rintro s (h | h | ⟨-, h⟩) <;> exact h

/-- A failed write may have replaced the file. -/
theorem write_triple {file : StateFile}
    {replace : FilesystemPackStorage δ → FilesystemPackStorage δ}
    {done : FilesystemPackStorage δ → Prop} (hpre : OfBooks pre)
    (h : ∀ s, pre s → done (replace s)) :
    Triple pre (write env file replace) (fun _ => done) (fun s => pre s ∨ done s) := by
  intro s hs
  simp only [write]
  obtain ⟨outcome, disk⟩ := env.atomicWriteJson file s.disk
  have hdisk := hpre s disk hs
  match outcome with
  | .written => exact h _ hdisk
  | .failed _ true => exact .inr (h _ hdisk)
  | .failed _ false => exact .inl hdisk

theorem write_keeps {replace : FilesystemPackStorage δ → FilesystemPackStorage δ}
    (hinv : OfBooks inv) (h : ∀ s, inv s → inv (replace s)) : Keeps inv (write env file replace) :=
  (write_triple hinv h).mono_fails fun _ h => h.elim id id

theorem readActivePointer_triple (hinv : OfBooks inv) (packId : PackId) :
    Triple inv (readActivePointerUnlocked env packId)
      (fun pointer s => inv s ∧ pointer = s.pointers.lookup packId ∧
        ∀ found, pointer = some found → found.packId = packId) inv := by
  refine triple_bind (onDisk_keeps hinv _) fun _ => triple_get fun s hs => ?_
  cases hfound : s.pointers.lookup packId with
  | none =>
    refine triple_pure _ ?_
    rintro _ rfl
    exact ⟨hs, hfound.symm, by simp⟩
  | some pointer =>
    refine triple_bind ((onDisk_ensure _ _).mono_fails ?_) fun _ => triple_pure _ ?_
    · rintro _ rfl
      exact hs
    · rintro _ ⟨rfl, hpointer⟩
      refine ⟨hs, hfound.symm, ?_⟩
      rintro _ ⟨⟩
      exact beq_iff_eq.1 (Bool.and_eq_true_iff.1 hpointer).2

theorem activePointer_triple (hinv : OfBooks inv) (packId : PackId) :
    Triple inv (activePointer env packId)
      (fun pointer s => inv s ∧ pointer = s.pointers.lookup packId) inv := by
  refine (withLock_triple hinv (fun _ s disk h => ⟨hinv s disk h.1, h.2⟩) hinv
    ((readActivePointer_triple hinv packId).mono (fun _ h => h) ?_ fun _ h => h)).mono_fails ?_
  · exact fun _ _ h => ⟨h.1, h.2.1⟩
  · rintro s (h | h | ⟨-, h, -⟩) <;> exact h

/-- The pointers are these. -/
abbrev Pointers (pointers : Table PackId ActivePackPointerV1) (s : FilesystemPackStorage δ) :
    Prop :=
  s.pointers = pointers

/-- The call puts the next pointers in place, and may have done so where it fails. -/
abbrev Switches (pointers : Table PackId ActivePackPointerV1) (call : FilesystemCall δ α)
    (next : Table PackId ActivePackPointerV1) : Prop :=
  Triple (Pointers pointers) call (fun _ => Pointers next)
    (fun s => Pointers pointers s ∨ Pointers next s)

variable {pointers next : Table PackId ActivePackPointerV1}

theorem switches_onDisk_bind {β : Type} {call : DiskCall δ β} {rest : β → FilesystemCall δ α}
    (h : ∀ b, Switches pointers (rest b) next) : Switches pointers (onDisk call >>= rest) next :=
  triple_bind ((onDisk_keeps (fun _ _ h => h) _).mono_fails fun _ => .inl) h

theorem switches_writeActivePointer (pointer : ActivePackPointerV1) :
    Switches pointers (writeActivePointer env pointer)
      (pointers.insert pointer.packId pointer) := by
  refine switches_onDisk_bind fun _ => switches_onDisk_bind fun _ => ?_
  refine write_triple (fun _ _ h => h) ?_
  rintro s rfl
  rfl

theorem switches_updatePointer {packId : PackId}
    {next : Option ActivePackPointerV1 → ActivePackPointerV1}
    (hnext : ∀ prior, (next prior).packId = packId) :
    Switches pointers (updatePointer env packId next)
      (pointers.insert packId (next (pointers.lookup packId))) := by
  have hupdate : Switches pointers
      (readActivePointerUnlocked env packId >>= fun prior => writeActivePointer env (next prior))
      (pointers.insert packId (next (pointers.lookup packId))) := by
    refine triple_bind ((readActivePointer_triple (fun _ _ h => h) packId).mono_fails
      fun _ => .inl) fun prior => ?_
    rintro s ⟨rfl, rfl, -⟩
    have hwrite := @switches_writeActivePointer δ env s.pointers (next (s.pointers.lookup packId))
    rw [hnext] at hwrite
    exact hwrite s rfl
  refine (withLock_triple (fun _ _ h => h) (fun _ _ _ h => h) (fun _ _ h => h)
    hupdate).mono_fails ?_
  rintro s (h | h | ⟨-, h⟩)
  · exact .inl h
  · exact h
  · exact .inr h

end Rules

section Switches

variable {env : Disk δ} {codec : FilesystemCodec} {pointers : Table PackId ActivePackPointerV1}

theorem switches_activate (staged : StagedPack) (authorization : ActivationAuthorization) :
    Switches pointers (activate env codec staged authorization)
      (pointers.insert staged.identity.packId
        (activatedPointer staged.identity (pointers.lookup staged.identity.packId))) := by
  refine triple_get fun s hs => ?_
  refine triple_bind ((onDisk_keeps ?_ _).mono ?_ (fun _ _ h => h) fun _ => .inl) fun _ =>
    switches_updatePointer fun _ => rfl
  · exact fun _ _ h => h
  · rintro _ rfl
    exact hs

theorem switches_activateExisting (target : PackRevision) :
    Switches pointers (activateExisting env target) (pointers.insert target.packId
      (existingPointer target (pointers.lookup target.packId))) :=
  switches_onDisk_bind fun _ => switches_onDisk_bind fun _ => switches_updatePointer fun _ => rfl

variable {inv : FilesystemPackStorage δ → Prop}

theorem readReferences_keeps (hinv : OfBooks inv) : Keeps inv (readReferences env) := by
  refine triple_bind (onDisk_keeps hinv _) fun _ => triple_get fun s hs => triple_pure _ ?_
  rintro _ rfl
  exact hs

theorem referenceCount_keeps (hinv : OfBooks inv) (packId : PackId) :
    Keeps inv (referenceCount env packId) :=
  withLock_keeps hinv (triple_bind (readReferences_keeps hinv) fun _ => triple_pure _ fun _ h => h)

/-- The pointers behind the removal of a revision: an active one takes its pointer with it. -/
def removedPointers (pointers : Table PackId ActivePackPointerV1) (target : PackRevision) :
    Table PackId ActivePackPointerV1 :=
  if (pointers.lookup target.packId).any fun pointer => pointer.activeRevision == target.revision
  then pointers.erase target.packId else pointers

theorem switches_removeRevision (target : PackRevision) :
    Switches pointers (removeRevision env target) (removedPointers pointers target) := by
  refine triple_bind ((referenceCount_keeps (fun _ _ h => h) _).mono_fails fun _ => .inl)
    fun _ => switches_onDisk_bind fun _ => ?_
  refine triple_bind ((activePointer_triple (fun _ _ h => h) target.packId).mono_fails
    fun _ => .inl) fun pointer => ?_
  have hrest : Keeps (Pointers (removedPointers pointers target)) (do
      onDisk (env.removeTree (.version target))
      onDisk (env.removeTree (.downloads target))) :=
    triple_bind (onDisk_keeps (fun _ _ h => h) _) fun _ => onDisk_keeps (fun _ _ h => h) _
  rintro s ⟨rfl, rfl⟩
  split_ifs with hactive
  · -- the file of the pointer goes first
    have hfile : Keeps (Pointers s.pointers) (onDisk (env.removeFile (.active target.packId))) :=
      onDisk_keeps (fun _ _ h => h) _
    refine (triple_bind (hfile.mono_fails fun _ => .inl) fun _ =>
      triple_bind (triple_modify ?_) fun _ => hrest.mono_fails fun _ => .inr) s rfl
    intro s' hs'
    rw [removedPointers, if_pos hactive, hs']
  · refine (hrest.mono_fails fun _ => .inr) s ?_
    rw [removedPointers, if_neg hactive]

/-- A persisted rollback swaps the active revision with the last one before it. -/
theorem rollbackPersisted_triple (packId : PackId) :
    Triple (Pointers pointers) (rollbackPersisted env packId)
      (fun identity s => ∃ next, (pointers.lookup packId).bind swapped = some next ∧
        identity = ⟨packId, next.activeRevision⟩ ∧ Pointers (pointers.insert packId next) s)
      (fun _ => True) := by
  refine triple_bind ((referenceCount_keeps (fun _ _ h => h) _).mono_fails fun _ _ => trivial)
    fun _ => ?_
  refine triple_bind ((onDisk_keeps (fun _ _ h => h) _).mono_fails fun _ _ => trivial) fun _ => ?_
  refine (withLock_triple (fun _ _ h => h) (fun _ _ _ h => h) (fun _ _ _ => trivial)
    (triple_bind ((readActivePointer_triple (fun _ _ h => h) packId).mono_fails
      fun _ _ => trivial) fun pointer => ?_)).mono_fails fun _ _ => trivial
  cases pointer with
  | none => exact triple_throw _ fun _ _ => trivial
  | some pointer =>
    rintro s ⟨rfl, hpointer, hpack⟩
    cases hnext : swapped pointer with
    | none =>
      simp only [hnext]
      trivial
    | some next =>
      simp only [hnext]
      have hpackId : next.packId = packId := by
        simp only [swapped, Option.map_eq_some_iff] at hnext
        obtain ⟨_, -, rfl⟩ := hnext
        exact hpack pointer rfl
      have hwrite := @switches_writeActivePointer δ env s.pointers next
      rw [hpackId] at hwrite
      refine (triple_bind ((onDisk_keeps (fun _ _ h => h) _).mono_fails fun _ _ => trivial)
        fun _ => triple_bind ((onDisk_keeps (fun _ _ h => h) _).mono_fails fun _ _ => trivial)
        fun _ => triple_bind (hwrite.mono_fails fun _ _ => trivial) fun _ => triple_pure _ ?_) s rfl
      intro s' hs'
      refine ⟨next, ?_, rfl, hs'⟩
      rw [← hpointer]
      exact hnext

end Switches

section Contract

variable {env : Disk δ} {codec : FilesystemCodec} {inv : FilesystemPackStorage δ → Prop}

/-- The books behind a consumption with that answer. -/
def Consumed (inv : FilesystemPackStorage δ → Prop) (replayKey : Sha256Digest) :
    Bool → FilesystemPackStorage δ → Prop
  | false, s => inv s
  | true, s => ∃ before, inv before ∧ replayKey ∉ before.consumed ∧
      s = { before with consumed := before.consumed.insert replayKey }

theorem consume_triple (hdisk : OfBooks inv) (replayKey : Sha256Digest) :
    Triple inv (consumeAttestationReplayKey env replayKey) (Consumed inv replayKey)
      (fun s => ∃ fresh, Consumed inv replayKey fresh s) := by
  have hconsumed : ∀ fresh, OfBooks (Consumed inv replayKey fresh) := by
    rintro (_ | _) s disk h
    · exact hdisk s disk h
    · obtain ⟨before, hbefore, hfresh, rfl⟩ := h
      exact ⟨{ before with disk }, hdisk before disk hbefore, hfresh, rfl⟩
  have hfails : OfBooks fun s => ∃ fresh, Consumed inv replayKey fresh s :=
    fun s disk ⟨fresh, h⟩ => ⟨fresh, hconsumed fresh s disk h⟩
  refine (withLock_triple hdisk hconsumed hfails ?_).mono_fails ?_
  · refine triple_bind ((onDisk_keeps hdisk _).mono_fails fun _ h => ⟨false, h⟩) fun _ =>
      triple_get fun s hs => ?_
    show Triple _ (ite _ _ _) _ _
    split_ifs with hused
    · exact triple_pure _ fun _ h => h ▸ hs
    · -- what was read is still there when the file is written
      have hwrite := @write_triple δ env (fun s' => inv s' ∧ s'.consumed = s.consumed)
        .attestationReplay (fun s' => { s' with consumed := s.consumed.insert replayKey })
        (Consumed inv replayKey true) (fun s' disk h => ⟨hdisk s' disk h.1, h.2⟩) ?_
      · refine triple_bind (hwrite.mono ?_ (fun _ _ h => h) ?_) fun _ => triple_pure _ fun _ h => h
        · rintro _ rfl
          exact ⟨hs, rfl⟩
        · exact fun s' h => h.elim (fun h => ⟨false, h.1⟩) fun h => ⟨true, h⟩
      · rintro s' ⟨hs', heq⟩
        refine ⟨s', hs', ?_, by rw [heq]⟩
        rw [heq]
        simpa using hused
  · rintro s (h | h | h)
    · exact ⟨false, h⟩
    · exact h
    · exact h

/-- What the calls that switch nothing keep. -/
theorem quiet_keeps (hdisk : OfBooks inv)
    (hreferences : ∀ s references, inv s → inv { s with references })
    (hconsumed : ∀ s replayKey, inv s → inv { s with consumed := s.consumed.insert replayKey })
    {op : StorageOp} (hop : op.switches = false) {s : FilesystemPackStorage δ} (hs : inv s) :
    inv ((filesystemPackStorage env codec).after s op) := by
  cases op with
  | stage | stagedContentBinding | commitInactive | inspect => exact (onDisk_keeps hdisk _).after hs
  | activate | activateExisting | removeRevision => cases hop
  | referenceCount packId => exact (referenceCount_keeps hdisk packId).after hs
  | consumeAttestationReplayKey replayKey =>
    have hkept : ∀ fresh s, Consumed inv replayKey fresh s → inv s := by
      rintro (_ | _) s h
      · exact h
      · obtain ⟨before, hbefore, -, rfl⟩ := h
        exact hconsumed before replayKey hbefore
    exact Keeps.after ((consume_triple hdisk replayKey).mono (fun _ h => h) hkept
      fun s ⟨fresh, h⟩ => hkept fresh s h) hs
  | addReference packId consumer =>
    exact Keeps.after (withLock_keeps hdisk (triple_bind (readReferences_keeps hdisk)
      fun _ => write_keeps hdisk fun s h => hreferences s _ h)) hs
  | removeReference packId consumer =>
    exact Keeps.after (withLock_keeps hdisk (triple_bind (readReferences_keeps hdisk)
      fun _ => triple_bind (write_keeps hdisk fun s h => hreferences s _ h)
        fun _ => triple_pure _ fun _ h => h)) hs

/-- The pointers stay where nothing is switched. -/
theorem pointers_quiet {s s' : FilesystemPackStorage δ}
    (h : QuietStorageRun (filesystemPackStorage env codec) s s') : s'.pointers = s.pointers := by
  refine inv_chain (Pointers s.pointers) ?_ h rfl
  rintro t _ ⟨op, hop, rfl⟩ ht
  exact quiet_keeps (fun _ _ h => h) (fun _ _ h => h) (fun _ _ h => h) hop ht

theorem updatePointer_keeps (hdisk : OfBooks inv)
    (hpointers : ∀ s pointers, inv s → inv { s with pointers }) (packId : PackId)
    (next : Option ActivePackPointerV1 → ActivePackPointerV1) :
    Keeps inv (updatePointer env packId next) := by
  have hread : Keeps inv (readActivePointerUnlocked env packId) :=
    (readActivePointer_triple hdisk packId).mono (fun _ h => h) (fun _ _ h => h.1) fun _ h => h
  refine withLock_keeps hdisk (triple_bind hread fun prior => ?_)
  exact triple_bind (onDisk_keeps hdisk _) fun _ => triple_bind (onDisk_keeps hdisk _) fun _ =>
    write_keeps hdisk fun s h => hpointers s _ h

theorem removeRevision_keeps (hdisk : OfBooks inv)
    (hpointers : ∀ s pointers, inv s → inv { s with pointers }) (target : PackRevision) :
    Keeps inv (removeRevision env target) := by
  have hrest : Keeps inv (do
      onDisk (env.removeTree (.version target))
      onDisk (env.removeTree (.downloads target))) :=
    triple_bind (onDisk_keeps hdisk _) fun _ => onDisk_keeps hdisk _
  have hread : Keeps inv (activePointer env target.packId) :=
    (activePointer_triple hdisk target.packId).mono (fun _ h => h) (fun _ _ h => h.1) fun _ h => h
  refine triple_bind (referenceCount_keeps hdisk _) fun _ => triple_bind (onDisk_keeps hdisk _)
    fun _ => triple_bind hread fun pointer => ?_
  split_ifs
  · exact triple_bind (onDisk_keeps hdisk _) fun _ =>
      triple_bind (triple_modify fun s h => hpointers s _ h) fun _ => hrest
  · exact hrest

/-- What every call keeps. -/
theorem after_keeps (hdisk : OfBooks inv)
    (hpointers : ∀ s pointers, inv s → inv { s with pointers })
    (hreferences : ∀ s references, inv s → inv { s with references })
    (hconsumed : ∀ s replayKey, inv s → inv { s with consumed := s.consumed.insert replayKey })
    (op : StorageOp) {s : FilesystemPackStorage δ} (hs : inv s) :
    inv ((filesystemPackStorage env codec).after s op) := by
  by_cases hop : op.switches = false
  · exact quiet_keeps hdisk hreferences hconsumed hop hs
  cases op with
  | activate staged authorization =>
    refine Keeps.after (triple_get fun t ht => triple_bind ((onDisk_keeps hdisk _).mono ?_
      (fun _ _ h => h) fun _ h => h) fun _ => updatePointer_keeps hdisk hpointers _ _) hs
    rintro _ rfl
    exact ht
  | activateExisting target =>
    exact Keeps.after (triple_bind (onDisk_keeps hdisk _) fun _ =>
      triple_bind (onDisk_keeps hdisk _) fun _ => updatePointer_keeps hdisk hpointers _ _) hs
  | removeRevision target => exact (removeRevision_keeps hdisk hpointers target).after hs
  | _ => exact absurd rfl hop

end Contract

end FilesystemPackStorage

/-- The storage on disk meets the contract. -/
def filesystemReplayProtected (env : Disk δ) (codec : FilesystemCodec) :
    ReplayProtectedStorage (FilesystemPackStorage δ) where
  toPackStorage := filesystemPackStorage env codec
  consumed s replayKey := replayKey ∈ s.consumed
  consumed_after _ op replayKey h :=
    @FilesystemPackStorage.after_keeps δ env codec (fun t => replayKey ∈ t.consumed)
      (fun _ _ h => h) (fun _ _ h => h) (fun _ _ h => h) (fun _ _ h => List.mem_insert_of_mem h)
      op _ h
  consumed_once s replayKey s' h := by
    have hbefore : FilesystemPackStorage.OfBooks fun t : FilesystemPackStorage δ =>
        t.consumed = s.consumed := fun _ _ h => h
    obtain ⟨before, hsame, hfresh, rfl⟩ :=
      (FilesystemPackStorage.consume_triple hbefore replayKey).ok rfl h
    exact ⟨hsame ▸ hfresh, List.mem_insert_self⟩

end NpcRuntime.Packs
