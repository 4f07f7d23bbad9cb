import NpcRuntime.Packs.Archive
import Mathlib.Data.Char
import Mathlib.Data.List.Infix
import Mathlib.Data.List.Lex
import Mathlib.Data.Prod.Lex

/-!
# Pack manifests

`model-manager/src/manifest.rs`: the identifiers of a model pack, its manifest, the checks a
manifest has to pass and its digest. The JSON encoder and SHA-256 come from other crates and are
parameters (`Codec`).

Ordered sets are lists in ascending order.
-/

namespace NpcRuntime.Packs

open Text

abbrev Bytes := List UInt8

/-- `serde_json::Error`. -/
structure SerdeError where
  message : Text
deriving DecidableEq

/-- `serde_json::to_vec` at one type. -/
abbrev Encoding (α : Type) := α → Except SerdeError Bytes

def modelPackManifestSchemaV1 : Text := "npc.model-pack/v1".toList
def maxPackBytes : Nat := 512 * 1024 * 1024 * 1024
def maxArtifacts : Nat := 256

/-! ## Identifiers -/

structure PackId where
  value : Text
deriving DecidableEq

structure Revision where
  value : Text
deriving DecidableEq

structure Sha256Digest where
  value : Text
deriving DecidableEq

structure PackRevision where
  packId : PackId
  revision : Revision
deriving DecidableEq

theorem PackRevision.ext {a b : PackRevision} (hpack : a.packId = b.packId)
    (hrevision : a.revision = b.revision) : a = b := by
  cases a
  cases b
  exact congrArg₂ PackRevision.mk hpack hrevision

/-- The derived order: by pack, then by revision. -/
instance : LinearOrder PackRevision :=
  LinearOrder.lift' (fun identity => toLex (identity.packId.value, identity.revision.value))
    (by
      intro a b h
      obtain ⟨⟨pack⟩, ⟨revision⟩⟩ := a
      obtain ⟨⟨pack'⟩, ⟨revision'⟩⟩ := b
      obtain ⟨rfl, rfl⟩ := Prod.mk.inj (toLex.injective h)
      rfl)

inductive ManifestError where
  | invalidPackId (value : Text)
  | invalidRevision (value : Text)
  | invalidSha256 (value : Text)
  | unsupportedSchema (schema : Text)
  | mutableSourceRevision (revision : Text)
  | invalidText (field : String)
  | artifactCount (count : Nat)
  | duplicateArtifactId (id : Text)
  | sourceUrlCount (id : Text)
  | emptyArtifact (id : Text)
  | missingArchiveFormat (id : Text)
  | unexpectedArchiveFormat (id : Text)
  | insecureUrl (url : Text)
  | invalidUrl (url : Text)
  | unsafeDestination (artifact : Text) (source : ArchivePathError)
  | unsafeSelfTestFixture (source : ArchivePathError)
  | duplicateDestination (path : Text)
  | packTooLarge
  | storageUnderreported (declared artifacts : Nat)
  | peakInstallUnderreported
  | invertedHardwareRange (field : String)
  | incompleteHardware
  | incompleteCompatibility
  | ambiguousRedistributionLicense
  | invalidSelfTestTimeout (millis : Nat)
  | invalidSelfTestBackends
  | serialization (error : SerdeError)
deriving DecidableEq

def PackId.parse (value : Text) : Except ManifestError PackId :=
  if 3 ≤ utf8Len value ∧ utf8Len value ≤ 96 ∧
      (value.all fun c => c.isLower || c.isDigit || c == '-' || c == '.') ∧
      value.head?.any Char.isAlphanum ∧ value.getLast?.any Char.isAlphanum ∧
      ¬['.', '.'] <:+: value ∧ ¬['.', '-'] <:+: value ∧ ¬['-', '.'] <:+: value then
    .ok ⟨value⟩
  else .error (.invalidPackId value)

def Revision.parse (value : Text) : Except ManifestError Revision :=
  if 1 ≤ utf8Len value ∧ utf8Len value ≤ 128 ∧
      (value.all fun c => c.isAlphanum || c == '.' || c == '-' || c == '_' || c == '+') ∧
      value ≠ ['.'] ∧ value ≠ ['.', '.'] then
    .ok ⟨value⟩
  else .error (.invalidRevision value)

/-! ## The manifest -/

inductive ArtifactKind where
  | archive
  | file
deriving DecidableEq

inductive ArchiveFormatV1 where
  | zip
  | tar
  | tarGz
  | tarBz2
deriving DecidableEq

structure ArtifactV1 where
  id : Text
  kind : ArtifactKind
  archiveFormat : Option ArchiveFormatV1 := none
  sourceUrls : List Text
  sizeBytes : Nat
  sha256 : Sha256Digest
  destination : Text
  stripPrefix : Option Text := none
  requiredPaths : List Text := []
deriving DecidableEq

inductive Platform where
  | windows10
  | windows11
deriving DecidableEq

inductive Architecture where
  | x86_64
deriving DecidableEq

structure RuntimeCompatibilityV1 where
  runtime : Text
  abi : Text
  minimumRuntimeRevision : Option Text
  supportedPlatforms : List Platform
  supportedArchitectures : List Architecture
deriving DecidableEq

inductive Accelerator where
  | cpu
  | cuda
  | directMl
  | vulkan
deriving DecidableEq

structure HardwareRequirementsV1 where
  minimumRamBytes : Nat
  recommendedRamBytes : Nat
  minimumVramBytes : Option Nat
  recommendedVramBytes : Option Nat
  minimumCpuThreads : Nat
  accelerators : List Accelerator
  requiredCpuFeatures : List Text
deriving DecidableEq

inductive QualityTier where
  | fast
  | balanced
  | quality
  | experimental
deriving DecidableEq

structure ResourceEnvelopeV1 where
  storageBytes : Nat
  peakInstallBytes : Nat
  measuredRamBytes : Option Nat
  measuredVramBytes : Option Nat
  measuredLoadMillis : Option Nat
  benchmarkHardware : Option Text
  qualityTier : QualityTier
  languages : List Text
deriving DecidableEq

inductive ModelPackKindV1 where
  | languageModel
  | speechRecognition
  | speechSynthesis
  | embedding
  | vision
  | lipSync
  | animation
  | other
deriving DecidableEq

inductive ModelPackScopeV1 where
  | generic
  | gameSpecific
deriving DecidableEq

structure ModelPackCapabilityV1 where
  kind : ModelPackKindV1
  scope : ModelPackScopeV1
deriving DecidableEq

inductive LicensePermission where
  | allowed
  | prohibited
  | restricted
  | unknown
deriving DecidableEq

structure LicenseMetadataV1 where
  spdxExpression : Option Text
  licenseName : Text
  licenseUrl : Text
  attribution : Text
  redistributable : Bool
  commercialUse : LicensePermission
  derivativeUse : LicensePermission
  acceptanceRequired : Bool
  notices : List Text
deriving DecidableEq

structure SelfTestV1 where
  kind : Text
  suiteRevision : Text
  allowedRuntimeBackends : List Text
  inputFixture : Text
  expectedOutputSha256 : Option Sha256Digest
  timeoutMillis : Nat
deriving DecidableEq

structure ModelPackManifestV1 where
  schema : Text
  packId : PackId
  revision : Revision
  displayName : Text
  description : Text
  sourceProject : Text
  sourceRevision : Text
  capability : ModelPackCapabilityV1
  artifacts : List ArtifactV1
  runtime : RuntimeCompatibilityV1
  hardware : HardwareRequirementsV1
  resources : ResourceEnvelopeV1
  license : LicenseMetadataV1
  selfTest : SelfTestV1
deriving DecidableEq

/-! ## Checks -/

def requireText (field : String) (value : Text) (min max : Nat) : Except ManifestError Unit :=
  require (decide (min ≤ utf8Len (trim value)) && decide (utf8Len (trim value) ≤ max) &&
    !value.contains (Char.ofNat 0)) (.invalidText field)

/-- Letters, digits, dots, dashes and underscores, as every token check of the crate has them. -/
def isToken (value : Text) (min max : Nat) : Bool :=
  decide (min ≤ utf8Len value) && decide (utf8Len value ≤ max) &&
    value.all fun c => c.isAlphanum || c == '.' || c == '-' || c == '_'

def requireToken (field : String) (value : Text) (min max : Nat) : Except ManifestError Unit :=
  require (isToken value min max) (.invalidText field)

def validateHttpsUrl (url : Text) : Except ManifestError Unit := do
  let rest ← okOr (url.dropPrefix? "https://".toList) (.insecureUrl url)
  require (rest != [] && rest.head? != some '/' && !rest.contains '@' && !rest.any isWhitespace)
    (.invalidUrl url)

/-- What the loop over the artifacts has seen. -/
structure ArtifactChecks where
  ids : List Text := []
  destinations : List Text := []
  total : Nat := 0

/-- The loop over `required_paths`: safe and distinct paths. -/
def checkRequiredPath (artifact : Text) (required : List Text) (path : Text) :
    Except ManifestError (List Text) := do
  let path ← (validateRelativeArchivePath path).mapError (.unsafeDestination artifact)
  require (!required.contains (toAsciiLowercase path.value)) (.duplicateDestination path.value)
  return toAsciiLowercase path.value :: required

/-- The body of the loop over the artifacts. -/
def checkArtifact (state : ArtifactChecks) (artifact : ArtifactV1) :
    Except ManifestError ArtifactChecks := do
  requireToken "artifact.id" artifact.id 1 128
  require (!state.ids.contains (toAsciiLowercase artifact.id)) (.duplicateArtifactId artifact.id)
  require (artifact.sourceUrls != [] && decide (artifact.sourceUrls.length ≤ 8))
    (.sourceUrlCount artifact.id)
  artifact.sourceUrls.forM validateHttpsUrl
  require (artifact.sizeBytes != 0) (.emptyArtifact artifact.id)
  require (!(artifact.kind == .archive && artifact.archiveFormat.isNone))
    (.missingArchiveFormat artifact.id)
  require (!(artifact.kind == .file && artifact.archiveFormat.isSome))
    (.unexpectedArchiveFormat artifact.id)
  let total := state.total + artifact.sizeBytes
  require (decide (total ≤ u64Max)) .packTooLarge
  let _ ← (validateRelativeArchivePath artifact.destination).mapError
    (.unsafeDestination artifact.id)
  artifact.stripPrefix.forM fun stripPrefix => do
    require (artifact.kind == .archive) (.unexpectedArchiveFormat artifact.id)
    let _ ← (validateRelativeArchivePath stripPrefix).mapError (.unsafeDestination artifact.id)
    return ()
  require (artifact.requiredPaths == [] ||
      (artifact.kind == .archive && decide (artifact.requiredPaths.length ≤ 1024)))
    (.unexpectedArchiveFormat artifact.id)
  let _ ← artifact.requiredPaths.foldlM (checkRequiredPath artifact.id) []
  let destination := forwardSlashes (toAsciiLowercase artifact.destination)
  require (!state.destinations.contains destination) (.duplicateDestination artifact.destination)
  return { ids := toAsciiLowercase artifact.id :: state.ids
           destinations := destination :: state.destinations
           total }

namespace ModelPackManifestV1

/-- The names, and where the pack comes from. -/
def validateHeader (manifest : ModelPackManifestV1) : Except ManifestError Unit := do
  require (manifest.schema == modelPackManifestSchemaV1) (.unsupportedSchema manifest.schema)
  let _ ← PackId.parse manifest.packId.value
  let _ ← Revision.parse manifest.revision.value
  requireText "display_name" manifest.displayName 1 160
  requireText "description" manifest.description 1 4096
  requireText "source_project" manifest.sourceProject 1 512
  requireText "source_revision" manifest.sourceRevision 1 256
  require (!(["main", "master", "head", "latest"].map String.toList).contains
    (toAsciiLowercase manifest.sourceRevision)) (.mutableSourceRevision manifest.sourceRevision)

/-- The artifacts, and the bytes they have together. -/
def validateArtifacts (manifest : ModelPackManifestV1) : Except ManifestError Nat := do
  require (manifest.artifacts != [] && decide (manifest.artifacts.length ≤ maxArtifacts))
    (.artifactCount manifest.artifacts.length)
  let checks ← manifest.artifacts.foldlM checkArtifact {}
  return checks.total

def validateResources (manifest : ModelPackManifestV1) (total : Nat) :
    Except ManifestError Unit := do
  require (decide (total ≤ maxPackBytes) && decide (manifest.resources.storageBytes ≤ maxPackBytes))
    .packTooLarge
  require (decide (total ≤ manifest.resources.storageBytes))
    (.storageUnderreported manifest.resources.storageBytes total)
  require (decide (manifest.resources.storageBytes ≤ manifest.resources.peakInstallBytes))
    .peakInstallUnderreported

def validateHardware (manifest : ModelPackManifestV1) : Except ManifestError Unit := do
  let hardware := manifest.hardware
  require (decide (hardware.minimumRamBytes ≤ hardware.recommendedRamBytes))
    (.invertedHardwareRange "ram")
  require (hardware.minimumVramBytes.all fun minimum =>
      hardware.recommendedVramBytes.all fun recommended => decide (minimum ≤ recommended))
    (.invertedHardwareRange "vram")
  require (hardware.minimumCpuThreads != 0 && hardware.accelerators != []) .incompleteHardware
  require (manifest.runtime.supportedPlatforms != [] &&
      manifest.runtime.supportedArchitectures != [] && manifest.resources.languages != [])
    .incompleteCompatibility
  requireText "runtime.runtime" manifest.runtime.runtime 1 128
  requireText "runtime.abi" manifest.runtime.abi 1 128

def validateLicense (manifest : ModelPackManifestV1) : Except ManifestError Unit := do
  requireText "license.name" manifest.license.licenseName 1 256
  validateHttpsUrl manifest.license.licenseUrl
  requireText "license.attribution" manifest.license.attribution 1 8192
  require (!(manifest.license.redistributable && manifest.license.commercialUse == .unknown))
    .ambiguousRedistributionLicense

def validateSelfTest (manifest : ModelPackManifestV1) : Except ManifestError Unit := do
  let selfTest := manifest.selfTest
  requireToken "self_test.kind" selfTest.kind 1 64
  requireToken "self_test.suite_revision" selfTest.suiteRevision 1 128
  require (selfTest.allowedRuntimeBackends != [] &&
    decide (selfTest.allowedRuntimeBackends.length ≤ 16)) .invalidSelfTestBackends
  selfTest.allowedRuntimeBackends.forM fun backend =>
    requireToken "self_test.runtime_backend" backend 1 128
  let _ ← (validateRelativeArchivePath selfTest.inputFixture).mapError .unsafeSelfTestFixture
  require (decide (100 ≤ selfTest.timeoutMillis) && decide (selfTest.timeoutMillis ≤ 300000))
    (.invalidSelfTestTimeout selfTest.timeoutMillis)

def validate (manifest : ModelPackManifestV1) : Except ManifestError Unit := do
  manifest.validateHeader
  let total ← manifest.validateArtifacts
  manifest.validateResources total
  manifest.validateHardware
  manifest.validateLicense
  manifest.validateSelfTest

def identity (manifest : ModelPackManifestV1) : PackRevision :=
  ⟨manifest.packId, manifest.revision⟩

end ModelPackManifestV1

/-- The functions of other crates that a manifest digest is made with. -/
structure Codec where
  /-- `Sha256Digest::of_bytes`. -/
  sha256 : Bytes → Sha256Digest
  manifest : Encoding ModelPackManifestV1

def ModelPackManifestV1.digest (codec : Codec) (manifest : ModelPackManifestV1) :
    Except ManifestError Sha256Digest := do
  manifest.validate
  let encoded ← (codec.manifest manifest).mapError .serialization
  return codec.sha256 encoded

/-! ## Distinct artifacts -/

theorem checkArtifact_ok {state state' : ArtifactChecks} {artifact : ArtifactV1}
    (h : checkArtifact state artifact = .ok state') :
    toAsciiLowercase artifact.id ∉ state.ids ∧
      state'.ids = toAsciiLowercase artifact.id :: state.ids := by
  simp only [checkArtifact, bind_eq_ok, require_eq_ok, pure_eq_ok, Bool.not_eq_true',
    List.contains_eq_mem, decide_eq_false_iff_not] at h
  obtain ⟨_, -, _, hfresh, _, -, _, -, _, -, _, -, _, -, _, -, _, -, _, -, _, -, _, -, _, -, rfl⟩ :=
    h
  exact ⟨hfresh, rfl⟩

theorem foldlM_checkArtifact_ids {artifacts : List ArtifactV1} {state state' : ArtifactChecks}
    (h : artifacts.foldlM checkArtifact state = .ok state') (hids : state.ids.Nodup) :
    (artifacts.map fun artifact => toAsciiLowercase artifact.id).Nodup ∧
      ∀ artifact ∈ artifacts, toAsciiLowercase artifact.id ∉ state.ids := by
  induction artifacts generalizing state with
  | nil => simp
  | cons artifact artifacts ih =>
    rw [List.foldlM_cons, bind_eq_ok] at h
    obtain ⟨next, hcheck, hrest⟩ := h
    obtain ⟨hfresh, hnext⟩ := checkArtifact_ok hcheck
    obtain ⟨hdistinct, hothers⟩ := ih hrest (hnext ▸ List.nodup_cons.2 ⟨hfresh, hids⟩)
    rw [hnext] at hothers
    refine ⟨?_, ?_⟩
    · rw [List.map_cons, List.nodup_cons]
      refine ⟨?_, hdistinct⟩
      intro hmem
      obtain ⟨other, hother, heq⟩ := List.mem_map.1 hmem
      exact hothers other hother (heq ▸ List.mem_cons_self)
    · intro other hother
      rcases List.mem_cons.1 hother with rfl | hother
      · exact hfresh
      · intro hmem
        exact hothers other hother (List.mem_cons_of_mem _ hmem)

/-- The artifacts of a valid manifest have distinct ids. -/
theorem ModelPackManifestV1.artifact_ids_nodup {manifest : ModelPackManifestV1}
    (h : manifest.validate = .ok ()) : (manifest.artifacts.map ArtifactV1.id).Nodup := by
  simp only [validate, validateArtifacts, bind_eq_ok, pure_eq_ok] at h
  obtain ⟨_, -, _, ⟨_, -, checks, hchecks, -⟩, -⟩ := h
  have hlower := (foldlM_checkArtifact_ids hchecks List.nodup_nil).1
  refine List.Nodup.of_map toAsciiLowercase ?_
  rwa [List.map_map]

end NpcRuntime.Packs
