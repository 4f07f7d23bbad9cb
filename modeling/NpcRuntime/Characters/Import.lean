import NpcRuntime.Characters.Prompt
import NpcRuntime.Lib.Distinct

/-!
# The legacy importer

`LegacyImportPlan::materialize` of `character-db/src/import.rs`: it picks a candidate for each
artifact of a scanned tree, and stages what the candidates hold in a copy of a profile, as records
of a source whose review is pending. The scan, which makes the plan, is not here: a plan is any list
of artifacts with any candidates. SHA-256 and the `Debug` form of a string are parameters. A lookup
that panics is an error of its own.
-/

namespace NpcRuntime.Characters

open Text

/-- SHA-256, of the UTF-8 of a text, and `format!("{:?}")` of a string. -/
structure ImportCodec where
  sha256 : Text → List UInt8
  debugString : Text → Text

inductive ImportedArtifactKind where
  | worldText | publicLore | characterBiography | characterKnowledge | styleExamples | identityImage
deriving DecidableEq

structure SourceFingerprint where
  sourceId : Text
  revision : Text
  relativePath : Text
  rawSha256 : Text
  normalizedSha256 : Text
  byteLength : Nat
deriving DecidableEq

structure AcceptedArtifact where
  logicalPath : Text
  kind : ImportedArtifactKind
  candidates : List SourceFingerprint
  selectedSourceId : Option Text
deriving DecidableEq

structure DuplicateSourceConflict where
  logicalPath : Text
  candidates : List SourceFingerprint
deriving DecidableEq

/-- The manifest without its lists of sources and of rejected files. -/
structure LegacyImportManifest where
  schemaVersion : Text
  targetProfileId : Text
  accepted : List AcceptedArtifact
  conflicts : List DuplicateSourceConflict
deriving DecidableEq

structure ConflictResolution where
  logicalPath : Text
  selectedSourceId : Text
deriving DecidableEq

structure IdentityAsset where
  schemaVersion : Text
  assetId : Text
  characterId : Text
  sourcePath : Text
  sourceSha256 : Text
  byteLength : Nat
  localOnly : Bool
  reviewStatus : ReviewStatus
deriving DecidableEq

inductive LegacyPayload where
  | text (text : Text)
  | style (lines : List Text)
  | image
deriving DecidableEq

structure ScannedCandidate where
  logicalPath : Text
  kind : ImportedArtifactKind
  fingerprint : SourceFingerprint
  payload : LegacyPayload
deriving DecidableEq

structure LegacyImportPlan where
  manifest : LegacyImportManifest
  candidates : List (Text × List ScannedCandidate)
deriving DecidableEq

structure LegacyImportMaterialization where
  stagedProfile : GameProfile
  identityAssets : List IdentityAsset
  manifest : LegacyImportManifest
  activatable : Bool

inductive LegacyImportError where
  | unresolvedConflicts (logicalPaths : List Text)
  | invalidResolution (logicalPath sourceId : Text)
  | unknownCharacter (id : Text)
  | characterDb (error : CharacterDbError)
  /-- An index or an `expect` panics. -/
  | panicked
deriving DecidableEq

/-! ## Texts -/

/-- `split("\n\n")`, with what was read of the part so far. -/
def splitParagraphsFrom (part : Text) : Text → List Text
  | '\n' :: '\n' :: rest => part :: splitParagraphsFrom [] rest
  | c :: rest => splitParagraphsFrom (part ++ [c]) rest
  | [] => [part]

def splitParagraphs (text : Text) : List Text := splitParagraphsFrom [] text

/-- A paragraph that is too long, cut between its characters. -/
def fragments (maxBytes : Nat) (fragment : Text) : Text → List Text
  | [] => if fragment.isEmpty then [] else [fragment]
  | c :: rest =>
    if fragment.utf8Len + c.utf8Size > maxBytes then
      fragment :: fragments maxBytes [c] rest
    else fragments maxBytes (fragment ++ [c]) rest

/-- The loop over the paragraphs, with the chunk that is still open. -/
def chunksFrom (maxBytes : Nat) (current : Text) : List Text → List Text
  | [] => if current.isEmpty then [] else [current]
  | part :: rest =>
    let paragraph := part.trim
    if paragraph.isEmpty then chunksFrom maxBytes current rest
    else if paragraph.utf8Len > maxBytes then
      (if current.isEmpty then [] else [current]) ++ fragments maxBytes [] paragraph ++
        chunksFrom maxBytes [] rest
    else
      let separator := if current.isEmpty then 0 else 2
      if current.utf8Len + separator + paragraph.utf8Len > maxBytes then
        current :: chunksFrom maxBytes paragraph rest
      else
        chunksFrom maxBytes
          ((if current.isEmpty then [] else current ++ ['\n', '\n']) ++ paragraph) rest

def splitChunks (text : Text) (maxBytes : Nat) : List Text :=
  chunksFrom maxBytes [] (splitParagraphs text)

/-- `split_once(": ")`, with what was read so far. -/
def splitOnceFrom (before : Text) : Text → Option (Text × Text)
  | ':' :: ' ' :: rest => some (before, rest)
  | c :: rest => splitOnceFrom (before ++ [c]) rest
  | [] => none

def splitSpeaker (line fallback : Text) : Text × Text :=
  match (splitOnceFrom [] line).filter fun parts => !parts.1.isBlank && !parts.2.isBlank with
  | some (speaker, text) => (speaker.trim, text.trim)
  | none => (fallback, line.trim)

def slugify (value : Text) : Text :=
  ['-'].intercalate (((value.map fun c => if c.isAlphanum then c.toLower else '-').splitOn
    '-').filter fun part => !part.isEmpty)

def decimal (n : Nat) : Text := (toString n).toList

/-- `format!("{}\0{}\0…")`. -/
def joinIdentity (parts : List Text) : Text := [Char.ofNat 0].intercalate parts

/-- The first twenty digits of `hex_sha256`. -/
def ImportCodec.shortHash (codec : ImportCodec) (identity : Text) : Text :=
  (hex (codec.sha256 identity)).take 20

def provenanceId (codec : ImportCodec) (logicalPath : Text) (source : SourceFingerprint) : Text :=
  "legacy-source-".toList ++ codec.shortHash
    (joinIdentity [logicalPath, source.sourceId, source.revision, source.rawSha256])

def characterIdForPath (logicalPath : Text) (profile : GameProfile) :
    Except LegacyImportError Text := do
  let folder ← okOr (logicalPath.splitOn '/')[1]? (.unknownCharacter logicalPath)
  if folder = "default".toList then
    okOr ((profile.characters.filter (·.backgroundNpc)).map (·.id)).min?
      (.unknownCharacter "default".toList)
  else
    okOr ((profile.characters.find? (·.id = slugify folder)).map (·.id))
      (.unknownCharacter (slugify folder))

/-! ## Selection -/

namespace LegacyImportPlan

variable (plan : LegacyImportPlan)

/-- The source that is selected for a path: the last resolution of the path counts. -/
def resolution (resolutions : List ConflictResolution) (logicalPath : Text) : Option Text :=
  (resolutions.reverse.find? (·.logicalPath = logicalPath)).map (·.selectedSourceId)

/-- `min_by` of the source identifiers: the first one of the least. -/
def leastSource : List ScannedCandidate → Option ScannedCandidate
  | [] => none
  | candidate :: rest => some (rest.foldl (fun least next =>
      if next.fingerprint.sourceId < least.fingerprint.sourceId then next else least) candidate)

/-- The candidate of an artifact. -/
def selectCandidate (resolutions : List ConflictResolution) (accepted : AcceptedArtifact) :
    Except LegacyImportError ScannedCandidate := do
  let (_, candidates) ← okOr (plan.candidates.find? (·.1 = accepted.logicalPath)) .panicked
  if (candidates.map (·.fingerprint.normalizedSha256)).dedup.length = 1 then
    okOr (leastSource candidates) .panicked
  else
    let sourceId ← okOr (resolution resolutions accepted.logicalPath) .panicked
    okOr (candidates.find? (·.fingerprint.sourceId = sourceId))
      (.invalidResolution accepted.logicalPath sourceId)

/-- The candidates of all artifacts, in the order of the manifest. -/
def select (resolutions : List ConflictResolution) :
    Except LegacyImportError (List ScannedCandidate) := do
  let unresolved := plan.manifest.conflicts.filter fun conflict =>
    (resolution resolutions conflict.logicalPath).isNone
  require unresolved.isEmpty (.unresolvedConflicts (unresolved.map (·.logicalPath)))
  plan.manifest.accepted.mapM (plan.selectCandidate resolutions)

end LegacyImportPlan

/-! ## Staging -/

/-- `iter_mut().find(..)`: the first element that passes is changed. -/
def updateFirst {α : Type} (p : α → Bool) (f : α → α) : List α → List α
  | [] => []
  | a :: l => if p a then f a :: l else a :: updateFirst p f l

def legacyProvenance (id : Text) (candidate : ScannedCandidate) : ProvenanceRecord where
  id := id
  title := "Legacy import ".toList ++ candidate.logicalPath
  kind := .legacyImport
  sourceUrl := none
  license := none
  notes := some "Quarantined pending provenance and rights review.".toList
  sourceRevision := some candidate.fingerprint.revision
  sourcePath := some candidate.logicalPath
  sourceSha256 := some candidate.fingerprint.rawSha256
  reviewStatus := some .pending
  transformVersion := some "legacy-character-import-v1".toList

namespace GameProfile

/-- The source of a candidate is recorded as pending, unless it has been. -/
def addProvenance (id : Text) (candidate : ScannedCandidate) (profile : GameProfile) :
    GameProfile :=
  if profile.hasProvenance id then profile
  else { profile with
    content := { profile.content with
      provenance := profile.content.provenance ++ [legacyProvenance id candidate] } }

def addKnowledge (record : KnowledgeRecord) (profile : GameProfile) : GameProfile :=
  { profile with
    content := { profile.content with knowledge := profile.content.knowledge ++ [record] } }

/-- A reference is added, and the references are sorted. -/
def addReference (owner reference : Text) (profile : GameProfile) : GameProfile :=
  { profile with
    characters := updateFirst (·.id = owner) (fun character => { character with
      knowledgeRefs := sortedDedup (fun other : Text => other)
        (character.knowledgeRefs ++ [reference]) })
        profile.characters }

end GameProfile

/-- `{authority:?}`. -/
def KnowledgeAuthority.debug : KnowledgeAuthority → Text
  | .coreCanon => "CoreCanon".toList
  | .gamePublic => "GamePublic".toList
  | .characterAuthored => "CharacterAuthored".toList

/-- `{owner_character_id:?}`. -/
def ImportCodec.debugOption (codec : ImportCodec) : Option Text → Text
  | none => "None".toList
  | some value => "Some(".toList ++ codec.debugString value ++ ")".toList

/-- One chunk of `add_knowledge_chunks`. -/
def addKnowledgeChunk (codec : ImportCodec) (idPrefix : Text) (authority : KnowledgeAuthority)
    (owner : Option Text) (spoilerTier source : Text) (profile : GameProfile)
    (chunk : Text × Nat) : GameProfile :=
  let identity := joinIdentity
    [authority.debug, codec.debugOption owner, source, decimal chunk.2, chunk.1]
  let id := idPrefix ++ ['-'] ++ codec.shortHash identity
  let added := profile.addKnowledge
    ⟨id, authority, owner, chunk.1, ["legacy-unclassified".toList], spoilerTier, source⟩
  match owner with
  | some owner => added.addReference owner id
  | none => added

def addKnowledgeChunks (codec : ImportCodec) (idPrefix : Text) (authority : KnowledgeAuthority)
    (owner : Option Text) (text spoilerTier source : Text) (profile : GameProfile) : GameProfile :=
  (splitChunks text 16000).zipIdx.foldl
    (addKnowledgeChunk codec idPrefix authority owner spoilerTier source) profile

/-- The example of a line. -/
def legacyStyle (codec : ImportCodec) (character : CharacterProfile) (source : Text)
    (line : Text × Nat) : StyleExample :=
  let (speaker, text) := splitSpeaker line.1 character.displayName
  { id := "legacy-style-".toList ++ codec.shortHash
      (joinIdentity [character.id, source, decimal line.2, line.1])
    speaker := speaker
    text := text
    situationTags := ["legacy-unclassified".toList]
    toneTags := []
    weightMillis := 1000
    provenanceId := source }

/-- The lines are added to the examples of a character, which are sorted. -/
def GameProfile.addStyles (codec : ImportCodec) (owner source : Text) (lines : List Text)
    (profile : GameProfile) : GameProfile :=
  { profile with
    characters := updateFirst (·.id = owner) (fun character => { character with
      styleExamples := sortedDedup (fun style : StyleExample => style.id)
        (character.styleExamples ++ lines.zipIdx.map (legacyStyle codec character source)) })
          profile.characters }

def identityAsset (characterId : Text) (candidate : ScannedCandidate) : IdentityAsset where
  schemaVersion := characterDbSchemaVersion
  assetId := "legacy-image-".toList ++ candidate.fingerprint.rawSha256.take 20
  characterId := characterId
  sourcePath := candidate.logicalPath
  sourceSha256 := candidate.fingerprint.rawSha256
  byteLength := candidate.fingerprint.byteLength
  localOnly := true
  reviewStatus := .pending

/-- What a candidate holds is staged, as content of the given source. -/
def stagePayload (codec : ImportCodec) (spoilerTier source : Text) (candidate : ScannedCandidate)
    (profile : GameProfile) : Except LegacyImportError (GameProfile × List IdentityAsset) :=
  match candidate.kind, candidate.payload with
  | .worldText, .text text =>
    .ok (addKnowledgeChunks codec "legacy-core".toList .coreCanon none text spoilerTier source
      profile, [])
  | .publicLore, .text text =>
    .ok (addKnowledgeChunks codec "legacy-public".toList .gamePublic none text spoilerTier source
      profile, [])
  | .characterBiography, .text text | .characterKnowledge, .text text => do
    let characterId ← characterIdForPath candidate.logicalPath profile
    .ok (addKnowledgeChunks codec "legacy-character".toList .characterAuthored (some characterId)
      text spoilerTier source profile, [])
  | .styleExamples, .style lines => do
    let characterId ← characterIdForPath candidate.logicalPath profile
    require (profile.hasCharacter characterId) (.unknownCharacter characterId)
    .ok (profile.addStyles codec characterId source lines, [])
  | .identityImage, .image => do
    let characterId ← characterIdForPath candidate.logicalPath profile
    .ok (profile, [identityAsset characterId candidate])
  | _, _ => .error (.characterDb (.invalidInput
      ("legacy payload kind mismatch for " ++ String.ofList candidate.logicalPath)))

/-- One candidate, and then the rest. -/
def stageCandidates (codec : ImportCodec) (spoilerTier : Text) :
    List ScannedCandidate → GameProfile →
      Except LegacyImportError (GameProfile × List IdentityAsset)
  | [], profile => .ok (profile, [])
  | candidate :: rest, profile => do
    let source := provenanceId codec candidate.logicalPath candidate.fingerprint
    let (staged, assets) ← stagePayload codec spoilerTier source candidate
      (profile.addProvenance source candidate)
    let (final, more) ← stageCandidates codec spoilerTier rest staged
    .ok (final, assets ++ more)

/-- The lists of a staged profile are sorted, and of each identifier one record is kept. -/
def GameProfile.tidied (profile : GameProfile) : GameProfile :=
  { profile with
    content := { profile.content with
      knowledge := sortedDedup (fun record : KnowledgeRecord => record.id)
        profile.content.knowledge
      provenance := profile.content.provenance.insertionSort fun left right =>
        left.id ≤ right.id } }

/-- The tier of what is imported: the first one that is enabled, or the first. -/
def GameProfile.importTier (profile : GameProfile) : Option Text :=
  ((profile.content.spoilerTiers.find? (·.defaultEnabled)).or
    profile.content.spoilerTiers.head?).map (·.id)

def LegacyImportPlan.materialize (codec : ImportCodec) (plan : LegacyImportPlan)
    (base : GameProfile) (resolutions : List ConflictResolution) :
    Except LegacyImportError LegacyImportMaterialization := do
  require (base.id = plan.manifest.targetProfileId) (.characterDb (.invalidInput
    ("import targets `" ++ String.ofList plan.manifest.targetProfileId ++
      "` but base profile is `" ++ String.ofList base.id ++ "`")))
  let selected ← plan.select resolutions
  let spoilerTier ← okOr base.importTier
    (.characterDb (.invalidInput "profile has no spoiler tier"))
  let (staged, assets) ← stageCandidates codec spoilerTier selected base
  require staged.tidied.valid (.characterDb .invalidProfile)
  .ok
    { stagedProfile := staged.tidied
      identityAssets := sortedDedup IdentityAsset.assetId assets
      manifest := { plan.manifest with
        accepted := List.zipWith (fun artifact candidate =>
          { artifact with selectedSourceId := some candidate.fingerprint.sourceId })
            plan.manifest.accepted selected }
      activatable := false }

end NpcRuntime.Characters
