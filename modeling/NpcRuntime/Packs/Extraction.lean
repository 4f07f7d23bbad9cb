import NpcRuntime.Lib.Rows
import NpcRuntime.Packs.FilesystemStorage
import NpcRuntime.Packs.MemoryStorage
import Mathlib.Data.List.Sort

/-!
# Extraction and the staged tree

`model-manager/src/extraction.rs`, and `index_files` of `filesystem.rs`: artifacts are written into
a staging tree, whose files are then hashed into the index that is attested. What the archive
decoders read from a verified file comes with the artifact, and the file system may refuse any file.

The index leaves out the directory `.npc`, where the storage keeps its own files. No check keeps
artifacts out of it.

* Every file that is extracted is listed, so that trees with one digest hold the same files, exactly
  where no artifact that writes a file has its destination there (`staged_attested`).
* A manifest that hides its only file is valid (`hidden_artifact`).
-/

namespace NpcRuntime.Packs

open Text NpcRuntime.Path

inductive ExtractionError where
  | path (error : ArchivePathError)
  | archive (error : ArchiveValidationError)
  | io (message : Text)
  | decoding (message : Text)
  | nonUtf8Path
  | missingArchiveFormat
  | reparseOrNonDirectory (path : Text)
  | destinationCollision (path : Text)
  | sourceSizeChanged (expected actual : Nat)
  | expandedSizeChanged (path : Text)
  | expandedSizeOverflow
  | unsupportedTarType (kind : ArchiveEntryKind)
  | memberOutsideStripPrefix (path : Text)
  | missingRequiredMember (path : Text)
  | duplicateRequiredMember (path : Text)
deriving DecidableEq

/-! ## The staging tree -/

/-- A file under the staging root. -/
structure StagedFile where
  path : Text
  content : Bytes
deriving DecidableEq

abbrev StagedTree := Rows StagedFile.path

/-- The answers of the file system: to the check of the staging root, and to each file that is to be
created in a tree of the given files. -/
structure StagingFileSystem where
  rejectLink : Except ExtractionError Unit
  prepare : (files : List Text) → (path : Text) → Except ExtractionError Unit

/-- `prepare_parent` and `create_new_file`, with what is written then. -/
def createNewFile (fs : StagingFileSystem) (tree : StagedTree) (path : Text) (content : Bytes) :
    Except ExtractionError StagedTree := do
  fs.prepare (tree.rows.map StagedFile.path) path
  okOr (tree.insert? ⟨path, content⟩) (.destinationCollision path)

/-! ## Extraction -/

/-- A member of an archive as the decoder yields it. A name that is not UTF-8 is `none`. -/
structure ArchiveMember where
  name : Option Text
  kind : ArchiveEntryKind
  size : Nat
  content : Bytes
deriving DecidableEq

/-- A verified file, and what the decoder of each format reads from it. -/
structure VerifiedSource where
  bytes : Bytes
  members : ArchiveFormatV1 → Except ExtractionError (List ArchiveMember)

structure ExtractedArtifact where
  files : List Text
  totalBytes : Nat
deriving DecidableEq

def validatePath (path : Text) : Except ExtractionError ValidatedArchivePath :=
  (validateRelativeArchivePath path).mapError .path

def installSingleFile (fs : StagingFileSystem) (artifact : ArtifactV1) (bytes : Bytes)
    (tree : StagedTree) : Except ExtractionError (ExtractedArtifact × StagedTree) := do
  let relative ← validatePath artifact.destination
  let copied := bytes.take (artifact.sizeBytes + 1)
  let tree ← createNewFile fs tree relative.value copied
  require (copied.length = artifact.sizeBytes)
    (.sourceSizeChanged artifact.sizeBytes copied.length)
  return (⟨[relative.value], copied.length⟩, tree)

/-- The path of a member under the destination. -/
def strippedMember (artifact : ArtifactV1) (member : ValidatedArchivePath) :
    Except ExtractionError ValidatedArchivePath :=
  match artifact.stripPrefix with
  | none => .ok member
  | some stripPrefix => do
    let stripPrefix ← validatePath stripPrefix
    let stripped ← okOr (member.value.dropPrefix? (stripPrefix.value ++ ['/']))
      (.memberOutsideStripPrefix member.value)
    validatePath stripped

/-- No paths are required, or this is one of them. -/
def ArtifactV1.selects (artifact : ArtifactV1) (relative : Text) : Bool :=
  artifact.requiredPaths.isEmpty ||
    artifact.requiredPaths.any fun required => toAsciiLowercase required = toAsciiLowercase relative

/-- The path a member is written to, if it is; `found` are the members so far. -/
def selectedArchiveMember (artifact : ArtifactV1) (member : Text) (found : List Text) :
    Except ExtractionError (Option ValidatedArchivePath × List Text) := do
  let member ← validatePath member
  let relative ← strippedMember artifact member
  if !artifact.selects relative.value then return (none, found)
  else
    require (!found.contains (toAsciiLowercase relative.value))
      (.duplicateRequiredMember relative.value)
    return (some relative, toAsciiLowercase relative.value :: found)

def requireArchiveMembers (artifact : ArtifactV1) (found : List Text) :
    Except ExtractionError Unit :=
  artifact.requiredPaths.forM fun required =>
    require (found.contains (toAsciiLowercase required)) (.missingRequiredMember required)

/-- What the loop over the members has done. -/
structure Extraction where
  tree : StagedTree
  files : List Text
  total : Nat
  found : List Text

/-- The body of the loop over the members. Tar members of other kinds are refused here, too. -/
def extractMember (fs : StagingFileSystem) (artifact : ArtifactV1) (format : ArchiveFormatV1)
    (destination : ValidatedArchivePath) (state : Extraction) (member : ArchiveMember) :
    Except ExtractionError Extraction := do
  let name ← okOr member.name .nonUtf8Path
  if member.kind = .directory then return state
  else
    require (format = .zip || member.kind = .file) (.unsupportedTarType member.kind)
    let (selected, found) ← selectedArchiveMember artifact name state.found
    match selected with
    | none => return state
    | some relative =>
      let target := destination.value ++ '/' :: relative.value
      let copied := member.content.take (member.size + 1)
      let tree ← createNewFile fs state.tree target copied
      require (copied.length = member.size) (.expandedSizeChanged name)
      require (state.total + copied.length ≤ u64Max) .expandedSizeOverflow
      return ⟨tree, state.files ++ [target], state.total + copied.length, found⟩

/-- The entry that is checked beforehand. -/
def ArchiveMember.entry (member : ArchiveMember) : Except ExtractionError ArchiveEntry := do
  let name ← okOr member.name .nonUtf8Path
  return ⟨name, member.kind, member.size⟩

/-- `extract_zip` and `extract_tar_path`. -/
def extractMembers (fs : StagingFileSystem) (artifact : ArtifactV1) (format : ArchiveFormatV1)
    (members : List ArchiveMember) (policy : ArchivePolicy) (tree : StagedTree) :
    Except ExtractionError (ExtractedArtifact × StagedTree) := do
  let destination ← validatePath artifact.destination
  let entries ← members.mapM ArchiveMember.entry
  let _ ← (validateArchiveEntries entries policy).mapError .archive
  let state ← members.foldlM (extractMember fs artifact format destination) ⟨tree, [], 0, []⟩
  requireArchiveMembers artifact state.found
  return (⟨state.files, state.total⟩, state.tree)

def extractArtifact (fs : StagingFileSystem) (policy : ArchivePolicy) (artifact : ArtifactV1)
    (source : VerifiedSource) (tree : StagedTree) :
    Except ExtractionError (ExtractedArtifact × StagedTree) := do
  fs.rejectLink
  match artifact.kind with
  | .file => installSingleFile fs artifact source.bytes tree
  | .archive =>
    match artifact.archiveFormat with
    | none => .error .missingArchiveFormat
    | some format =>
      let members ← source.members format
      extractMembers fs artifact format members policy tree

/-- The artifacts of a manifest, one after another. -/
def extractArtifacts (fs : StagingFileSystem) (policy : ArchivePolicy)
    (sources : ArtifactV1 → VerifiedSource) (artifacts : List ArtifactV1) (tree : StagedTree) :
    Except ExtractionError StagedTree :=
  artifacts.foldlM (fun tree artifact => do
    let extracted ← extractArtifact fs policy artifact (sources artifact) tree
    return extracted.2) tree

/-! ## The index -/

/-- `relative.starts_with(".npc")`. -/
def reserved (path : Text) : Bool := (components path).head? = some ".npc".toList

def StagedFile.installed (codec : Codec) (file : StagedFile) : InstalledFileV1 :=
  ⟨file.path, file.content.length, codec.sha256 file.content⟩

def indexFiles (codec : Codec) (tree : StagedTree) : List InstalledFileV1 :=
  ((tree.rows.filter fun file => !reserved file.path).map
    (StagedFile.installed codec)).insertionSort fun left right =>
      left.relativePath ≤ right.relativePath

/-- The digest that is attested. -/
def contentTreeSha256 (codec : FilesystemCodec) (tree : StagedTree) :
    Except StorageError Sha256Digest :=
  ((contentTreeDigest codec (indexFiles codec.toCodec tree) :
    DiskCall Unit Sha256Digest).run ()).1


/-! ## What an artifact writes -/

/-- The files that are written to a tree, all of them in `.npc` if a path is, and none if not. -/
structure Wrote (destination : Text) (tree tree' : StagedTree) (written : List StagedFile) :
    Prop where
  rows : tree'.rows = tree.rows ++ written
  inside : ∀ file ∈ written, reserved file.path = reserved destination

theorem reserved_child (a r : Text) : reserved (a ++ '/' :: r) = reserved a := by
  obtain ⟨first, rest, hfirst⟩ := List.exists_cons_of_ne_nil (components_ne_nil a)
  simp [reserved, components_append, hfirst]

namespace Wrote

variable {destination : Text} {tree tree' tree'' : StagedTree} {written written' : List StagedFile}

theorem nil : Wrote destination tree tree [] := ⟨by simp, by simp⟩

theorem append (h : Wrote destination tree tree' written)
    (h' : Wrote destination tree' tree'' written') :
    Wrote destination tree tree'' (written ++ written') := by
  refine ⟨?_, ?_⟩
  · rw [h'.rows, h.rows, List.append_assoc]
  · intro file hfile
    rcases List.mem_append.1 hfile with hfile | hfile
    · exact h.inside file hfile
    · exact h'.inside file hfile

end Wrote

variable {fs : StagingFileSystem} {path : Text} {tree tree' : StagedTree}

theorem createNewFile_ok {content : Bytes} (h : createNewFile fs tree path content = .ok tree') :
    tree'.rows = tree.rows ++ [⟨path, content⟩] := by
  simp only [createNewFile, bind_eq_ok, okOr_eq_ok] at h
  obtain ⟨-, -, hinsert⟩ := h
  exact (Rows.insert?_eq_some.1 hinsert).2

theorem createNewFile_wrote {destination : Text} {content : Bytes}
    (h : createNewFile fs tree path content = .ok tree')
    (hpath : reserved path = reserved destination) :
    Wrote destination tree tree' [⟨path, content⟩] := by
  refine ⟨createNewFile_ok h, ?_⟩
  intro file hfile
  rw [List.mem_singleton.1 hfile]
  exact hpath

theorem validatePath_ok {validated : ValidatedArchivePath} (h : validatePath path = .ok validated) :
    validated.value = forwardSlashes path := by
  rw [validatePath, mapError_eq_ok] at h
  rw [(validateRelativeArchivePath_ok h).1]

variable {artifact : ArtifactV1} {extracted : ExtractedArtifact}

/-- A single file is always written. -/
theorem installSingleFile_wrote {bytes : Bytes}
    (h : installSingleFile fs artifact bytes tree = .ok (extracted, tree')) :
    ∃ file, extracted.files = [file.path] ∧
      Wrote (forwardSlashes artifact.destination) tree tree' [file] := by
  simp only [installSingleFile, bind_eq_ok, pure_eq_ok, Prod.mk.injEq] at h
  obtain ⟨relative, hrelative, created, hcreate, -, -, rfl, rfl⟩ := h
  have hpath := validatePath_ok hrelative
  exact ⟨⟨relative.value, _⟩, rfl, createNewFile_wrote hcreate (by rw [hpath])⟩

/-- A member is passed over only where paths are required. -/
theorem selectedArchiveMember_none {member : Text} {found found' : List Text}
    (h : selectedArchiveMember artifact member found = .ok (none, found')) :
    artifact.requiredPaths ≠ [] := by
  intro hnone
  rw [selectedArchiveMember, bind_eq_ok] at h
  obtain ⟨validated, -, h⟩ := h
  rw [bind_eq_ok] at h
  obtain ⟨relative, -, h⟩ := h
  have hselects : artifact.selects relative.value = true := by simp [ArtifactV1.selects, hnone]
  rw [if_neg (by simp [hselects])] at h
  simp only [bind_eq_ok, pure_eq_ok, Prod.mk.injEq] at h
  obtain ⟨-, -, hsome, -⟩ := h
  cases hsome

variable {format : ArchiveFormatV1}

/-- A member that is passed over is a directory, or is not among the required ones. -/
theorem extractMember_ok {destination : ValidatedArchivePath} {state state' : Extraction}
    {member : ArchiveMember}
    (h : extractMember fs artifact format destination state member = .ok state') :
    (state' = state ∧ (member.kind = .directory ∨ artifact.requiredPaths ≠ [])) ∨
    (member.kind ≠ .directory ∧ ∃ file, state'.files = state.files ++ [file.path] ∧
      Wrote destination.value state.tree state'.tree [file]) := by
  rw [extractMember, bind_eq_ok] at h
  obtain ⟨name, -, h⟩ := h
  by_cases hkind : member.kind = .directory
  · rw [if_pos hkind, pure_eq_ok] at h
    exact .inl ⟨h.symm, .inl hkind⟩
  · rw [if_neg hkind, bind_eq_ok] at h
    obtain ⟨-, -, h⟩ := h
    rw [bind_eq_ok] at h
    obtain ⟨⟨selected, found⟩, hselected, h⟩ := h
    cases selected with
    | none =>
      exact .inl ⟨(pure_eq_ok.1 h).symm, .inr (selectedArchiveMember_none hselected)⟩
    | some relative =>
      simp only [bind_eq_ok, pure_eq_ok] at h
      obtain ⟨created, hcreate, -, -, -, -, rfl⟩ := h
      exact .inr ⟨hkind, ⟨_, _⟩, rfl, createNewFile_wrote hcreate (reserved_child _ _)⟩

/-- The loop, by induction on the members. -/
theorem foldlM_extractMember_ok {destination : ValidatedArchivePath} {members : List ArchiveMember}
    {state state' : Extraction}
    (h : members.foldlM (extractMember fs artifact format destination) state = .ok state') :
    ∃ written, state'.files = state.files ++ written.map StagedFile.path ∧
      Wrote destination.value state.tree state'.tree written ∧ (written = [] → state' = state) ∧
      ((∀ member ∈ members, member.kind = .directory) → written = []) ∧
      (artifact.requiredPaths = [] → written = [] →
        ∀ member ∈ members, member.kind = .directory) := by
  induction members generalizing state with
  | nil =>
    cases pure_eq_ok.1 h
    exact ⟨[], by simp, .nil, fun _ => rfl, fun _ => rfl, by simp⟩
  | cons member members ih =>
    rw [List.foldlM_cons, bind_eq_ok] at h
    obtain ⟨next, hmember, hrest⟩ := h
    obtain ⟨written, hfiles, hwrote, hsame, hnone, hall⟩ := ih hrest
    rcases extractMember_ok hmember with ⟨rfl, hskipped⟩ | ⟨hkind, file, hfile, hone⟩
    · refine ⟨written, hfiles, hwrote, hsame, ?_, ?_⟩
      · intro hdirectories
        exact hnone fun other hother => hdirectories other (List.mem_cons_of_mem _ hother)
      · intro hempty hwritten
        have hdirectory := hskipped.resolve_right (not_not_intro hempty)
        exact List.forall_mem_cons.2 ⟨hdirectory, hall hempty hwritten⟩
    · refine ⟨file :: written, ?_, hone.append hwrote, ?_, ?_, ?_⟩
      · rw [hfiles, hfile, List.append_assoc]
        rfl
      · intro hwritten
        cases hwritten
      · intro hdirectories
        exact absurd (hdirectories member List.mem_cons_self) hkind
      · intro _ hwritten
        cases hwritten

/-- The artifact writes at least one file. -/
def ArtifactV1.Installs (artifact : ArtifactV1) (source : VerifiedSource) : Prop :=
  artifact.kind = .file ∨ artifact.requiredPaths ≠ [] ∨
    ∃ format members, artifact.archiveFormat = some format ∧ source.members format = .ok members ∧
      ∃ member ∈ members, member.kind ≠ .directory

variable {policy : ArchivePolicy}

theorem extractMembers_wrote {members : List ArchiveMember}
    (h : extractMembers fs artifact format members policy tree = .ok (extracted, tree')) :
    ∃ written, extracted.files = written.map StagedFile.path ∧
      Wrote (forwardSlashes artifact.destination) tree tree' written ∧
      (written ≠ [] ↔ artifact.requiredPaths ≠ [] ∨
        ∃ member ∈ members, member.kind ≠ .directory) := by
  simp only [extractMembers, bind_eq_ok, pure_eq_ok, Prod.mk.injEq] at h
  obtain ⟨destination, hdestination, _, -, _, -, state, hfold, _, hrequired, rfl, rfl⟩ := h
  obtain ⟨written, hfiles, hwrote, hsame, hnone, hall⟩ := foldlM_extractMember_ok hfold
  rw [← validatePath_ok hdestination]
  refine ⟨written, hfiles, hwrote, ?_⟩
  constructor
  · intro hwritten
    by_contra hneither
    rw [not_or, not_exists] at hneither
    refine hwritten (hnone fun member hmember => ?_)
    by_contra hkind
    exact hneither.2 member ⟨hmember, hkind⟩
  · intro hinstalls hwritten
    by_cases hempty : artifact.requiredPaths = []
    · obtain ⟨member, hmember, hkind⟩ := hinstalls.resolve_left (not_not_intro hempty)
      exact hkind (hall hempty hwritten member hmember)
    · obtain ⟨required, hmem⟩ := List.exists_mem_of_ne_nil _ hempty
      have hfound := forM_eq_ok.1 hrequired required hmem
      rw [hsame hwritten] at hfound
      simp at hfound

/-- **One artifact.** It writes exactly the files it reports, all of them in `.npc` or none. -/
theorem extractArtifact_wrote {source : VerifiedSource}
    (h : extractArtifact fs policy artifact source tree = .ok (extracted, tree')) :
    ∃ written, extracted.files = written.map StagedFile.path ∧
      Wrote (forwardSlashes artifact.destination) tree tree' written ∧
      (written ≠ [] ↔ artifact.Installs source) := by
  rw [extractArtifact, bind_eq_ok] at h
  obtain ⟨-, -, h⟩ := h
  cases hkind : artifact.kind with
  | file =>
    rw [hkind] at h
    obtain ⟨file, hfiles, hwrote⟩ := installSingleFile_wrote h
    exact ⟨[file], hfiles, hwrote, iff_of_true (List.cons_ne_nil _ _) (.inl hkind)⟩
  | archive =>
    rw [hkind] at h
    cases hformat : artifact.archiveFormat with
    | none =>
      rw [hformat] at h
      cases h
    | some format =>
      rw [hformat] at h
      obtain ⟨members, hmembers, h⟩ := bind_eq_ok.1 h
      obtain ⟨written, hfiles, hwrote, hiff⟩ := extractMembers_wrote h
      refine ⟨written, hfiles, hwrote, hiff.trans ?_⟩
      simp [ArtifactV1.Installs, hkind, hformat, hmembers]

/-- No artifact that writes a file has its destination in `.npc`. -/
def Unreserved (sources : ArtifactV1 → VerifiedSource) (artifacts : List ArtifactV1) : Prop :=
  ∀ artifact ∈ artifacts, artifact.Installs (sources artifact) →
    reserved (forwardSlashes artifact.destination) = false

/-- **The artifacts of a manifest**, by induction. -/
theorem extractArtifacts_unreserved {sources : ArtifactV1 → VerifiedSource}
    {artifacts : List ArtifactV1}
    (h : extractArtifacts fs policy sources artifacts tree = .ok tree') :
    (∀ file ∈ tree'.rows, reserved file.path = false) ↔
      (∀ file ∈ tree.rows, reserved file.path = false) ∧ Unreserved sources artifacts := by
  unfold extractArtifacts at h
  induction artifacts generalizing tree with
  | nil =>
    cases pure_eq_ok.1 h
    simp [Unreserved]
  | cons artifact artifacts ih =>
    rw [List.foldlM_cons, bind_eq_ok] at h
    obtain ⟨next, hnext, hrest⟩ := h
    obtain ⟨⟨extracted, next'⟩, hextract, hpure⟩ := bind_eq_ok.1 hnext
    cases pure_eq_ok.1 hpure
    obtain ⟨written, -, hwrote, hinstalls⟩ := extractArtifact_wrote hextract
    have hwritten : (∀ file ∈ written, reserved file.path = false) ↔
        (artifact.Installs (sources artifact) →
          reserved (forwardSlashes artifact.destination) = false) := by
      rw [← hinstalls]
      constructor
      · intro hfiles hne
        obtain ⟨file, hfile⟩ := List.exists_mem_of_ne_nil _ hne
        exact (hwrote.inside file hfile).symm.trans (hfiles file hfile)
      · intro hdestination file hfile
        exact (hwrote.inside file hfile).trans (hdestination (List.ne_nil_of_mem hfile))
    rw [ih hrest, hwrote.rows, List.forall_mem_append, hwritten, and_assoc, Unreserved, Unreserved,
      List.forall_mem_cons]

/-! ## What the digest attests -/

variable {codec : Codec} {tree : StagedTree}

theorem mem_indexFiles {entry : InstalledFileV1} :
    entry ∈ indexFiles codec tree ↔
      ∃ file ∈ tree.rows, reserved file.path = false ∧ file.installed codec = entry := by
  simp [indexFiles, and_assoc]

/-- What is hashed in front of the inventory. -/
def contentTreeDomain : Bytes :=
  ("npc-staged-content-tree-v1".toList.map fun c => UInt8.ofNat c.toNat) ++ [0]

theorem contentTreeSha256_eq_ok {codec : FilesystemCodec} {digest : Sha256Digest} :
    contentTreeSha256 codec tree = .ok digest ↔
      ∃ encoded, codec.files (indexFiles codec.toCodec tree) = .ok encoded ∧
        codec.sha256 (contentTreeDomain ++ encoded) = digest := by
  cases hencoded : codec.files (indexFiles codec.toCodec tree) with
  | error error =>
    have hfails : contentTreeSha256 codec tree = .error ⟨error.message⟩ := by
      unfold contentTreeSha256 contentTreeDigest
      rw [hencoded]
      rfl
    rw [hfails]
    simp
  | ok encoded =>
    have hdigest : contentTreeSha256 codec tree =
        .ok (codec.sha256 (contentTreeDomain ++ encoded)) := by
      unfold contentTreeSha256 contentTreeDigest
      rw [hencoded]
      rfl
    rw [hdigest]
    generalize contentTreeDomain = domain
    simp

/-- What is hashed of two trees does not collide, and the encoder keeps their inventories apart. -/
structure CollisionFree (codec : FilesystemCodec) (tree other : StagedTree) : Prop where
  contents : ∀ file ∈ tree.rows, ∀ file' ∈ other.rows,
    codec.sha256 file.content = codec.sha256 file'.content → file.content = file'.content
  inventories : ∀ encoded encoded', codec.files (indexFiles codec.toCodec tree) = .ok encoded →
    codec.files (indexFiles codec.toCodec other) = .ok encoded' →
    codec.sha256 (contentTreeDomain ++ encoded) = codec.sha256 (contentTreeDomain ++ encoded') →
    encoded = encoded'
  encodings : codec.files (indexFiles codec.toCodec tree) =
      codec.files (indexFiles codec.toCodec other) →
    indexFiles codec.toCodec tree = indexFiles codec.toCodec other

theorem CollisionFree.symm {codec : FilesystemCodec} {tree other : StagedTree}
    (h : CollisionFree codec tree other) : CollisionFree codec other tree where
  contents file hfile file' hfile' heq := (h.contents file' hfile' file hfile heq.symm).symm
  inventories encoded encoded' hencoded hencoded' heq :=
    (h.inventories encoded' encoded hencoded' hencoded heq.symm).symm
  encodings heq := (h.encodings heq.symm).symm

/-- The digest fixes the files that are listed. -/
theorem listed_of_digest {codec : FilesystemCodec} {tree other : StagedTree}
    {digest : Sha256Digest} (hfree : CollisionFree codec tree other)
    (htree : contentTreeSha256 codec tree = .ok digest)
    (hother : contentTreeSha256 codec other = .ok digest) {file : StagedFile}
    (hfile : file ∈ tree.rows) (hlisted : reserved file.path = false) : file ∈ other.rows := by
  obtain ⟨encoded, hencoded, hsha⟩ := contentTreeSha256_eq_ok.1 htree
  obtain ⟨encoded', hencoded', hsha'⟩ := contentTreeSha256_eq_ok.1 hother
  have hbytes := hfree.inventories _ _ hencoded hencoded' (hsha.trans hsha'.symm)
  have hindex := hfree.encodings (by rw [hencoded, hencoded', hbytes])
  have hmem : file.installed codec.toCodec ∈ indexFiles codec.toCodec other := by
    rw [← hindex]
    exact mem_indexFiles.2 ⟨file, hfile, hlisted, rfl⟩
  obtain ⟨file', hfile', -, heq⟩ := mem_indexFiles.1 hmem
  obtain ⟨hpath, -, hcontent⟩ := InstalledFileV1.mk.inj heq
  have hsame := hfree.contents file hfile file' hfile' hcontent.symm
  obtain ⟨path, content⟩ := file
  obtain ⟨path', content'⟩ := file'
  obtain rfl : path' = path := hpath
  obtain rfl : content = content' := hsame
  exact hfile'

/-- A valid manifest that is staged: its artifacts are extracted into an empty tree. -/
structure Staging where
  fs : StagingFileSystem
  policy : ArchivePolicy
  sources : ArtifactV1 → VerifiedSource
  manifest : ModelPackManifestV1
  tree : StagedTree
  valid : manifest.validate = .ok ()
  extracted : extractArtifacts fs policy sources manifest.artifacts (.empty _) = .ok tree

def Staging.Unreserved (staging : Staging) : Prop :=
  Packs.Unreserved staging.sources staging.manifest.artifacts

/-- Every file of the tree is in its index. -/
def Listed (codec : Codec) (tree : StagedTree) : Prop :=
  ∀ file ∈ tree.rows, file.installed codec ∈ indexFiles codec tree

theorem listed_iff : Listed codec tree ↔ ∀ file ∈ tree.rows, reserved file.path = false := by
  constructor
  · intro h file hfile
    obtain ⟨file', -, hlisted, heq⟩ := mem_indexFiles.1 (h file hfile)
    obtain ⟨hpath, -, -⟩ := InstalledFileV1.mk.inj heq
    rw [← hpath]
    exact hlisted
  · intro h file hfile
    exact mem_indexFiles.2 ⟨file, hfile, h file hfile, rfl⟩

theorem Staging.listed_iff {staging : Staging} :
    Listed codec staging.tree ↔ staging.Unreserved := by
  rw [Packs.listed_iff, extractArtifacts_unreserved staging.extracted]
  simp [Rows.empty, Staging.Unreserved]

/-- The attested digests of two stagings cover what is installed. -/
structure Attested (codec : FilesystemCodec) (staging other : Staging) : Prop where
  listed : Listed codec.toCodec staging.tree
  listed' : Listed codec.toCodec other.tree
  same : ∀ digest, contentTreeSha256 codec staging.tree = .ok digest →
    contentTreeSha256 codec other.tree = .ok digest →
    CollisionFree codec staging.tree other.tree →
    ∀ file, file ∈ staging.tree.rows ↔ file ∈ other.tree.rows

/-- **The digest and what is installed.** Every file that is extracted is listed, so that trees with
one digest hold the same files, exactly where no artifact that writes a file has its destination in
`.npc`. -/
theorem staged_attested (codec : FilesystemCodec) (staging other : Staging) :
    Attested codec staging other ↔ staging.Unreserved ∧ other.Unreserved := by
  constructor
  · intro h
    exact ⟨Staging.listed_iff.1 h.listed, Staging.listed_iff.1 h.listed'⟩
  · intro h
    obtain ⟨hstaging, hother⟩ := h
    have hlisted : Listed codec.toCodec staging.tree := Staging.listed_iff.2 hstaging
    have hlisted' : Listed codec.toCodec other.tree := Staging.listed_iff.2 hother
    refine ⟨hlisted, hlisted', ?_⟩
    intro digest hdigest hdigest' hfree file
    constructor
    · intro hfile
      exact listed_of_digest hfree hdigest hdigest' hfile (listed_iff.1 hlisted file hfile)
    · intro hfile
      exact listed_of_digest hfree.symm hdigest' hdigest hfile (listed_iff.1 hlisted' file hfile)

/-! ## A destination in `.npc` -/

/-- The manifest of the tests, with a file of one byte among the storage's own. -/
def hiddenManifest (sha256 : String) : ModelPackManifestV1 :=
  { sampleManifest firstRevision with
    artifacts :=
      [{ id := "weights".toList
         kind := .file
         sourceUrls := ["https://models".toList]
         sizeBytes := 1
         sha256 := ⟨sha256.toList⟩
         destination := ".npc/weights.bin".toList }]
    selfTest := { (sampleManifest firstRevision).selfTest with expectedOutputSha256 := none } }

/-- The file is the text `1`. -/
def hiddenStaging : Staging where
  fs := ⟨.ok (), fun _ _ => .ok ()⟩
  policy := {}
  sources _ := ⟨['1'.toNat.toUInt8], fun _ => .ok []⟩
  manifest := hiddenManifest "6b86b273ff34fce19d6b804eff5a3f5747ada4eaa22f1d49c01e52ddb7875b4b"
  tree := ⟨[⟨".npc/weights.bin".toList, ['1'.toNat.toUInt8]⟩], List.nodup_singleton _⟩
  valid := by decide +kernel
  extracted := by decide +kernel

/-- The file of the pack is in no index, with whatever encoder and digest. -/
theorem hidden_artifact :
    ¬ ∃ codec : FilesystemCodec, ∀ staging other : Staging, Attested codec staging other := by
  intro h
  obtain ⟨codec, hattested⟩ := h
  have hlisted := listed_iff.1 (hattested hiddenStaging hiddenStaging).listed
  have hreserved := hlisted _ List.mem_cons_self
  exact absurd hreserved (by decide)

end NpcRuntime.Packs
