import NpcRuntime.Lib.Machine
import NpcRuntime.Lib.Saturating
import NpcRuntime.Subtitles.Style
import Mathlib.Data.Char
import Mathlib.Data.List.Lex
import Mathlib.Data.List.Sort
import Mathlib.Data.Prod.Lex

/-!
# Subtitle preferences

`subtitle-engine/src/preferences.rs`: the scoped preference document, its checks, how the entries
of a scope chain and a style combine into the effective style, and the manager that saves and
resets entries.

The file is the document it holds. `documentBytes`, the length of the document's JSON, is a
parameter, and so is how each write of the file ends.
-/

namespace NpcRuntime.Subtitles

open Text

/-- A bound of a preference, and how it is shown. -/
structure Bound where
  value : ℚ
  shown : String

def subtitlePreferenceSchemaVersion : Nat := 1
def maxDocumentBytes : Nat := 128 * 1024
def maxScopeIdBytes : Nat := 128
def minSafeAreaDp : Bound := ⟨0, "0"⟩
def maxSafeAreaDp : Bound := ⟨256, "256"⟩
def minTextScale : Bound := ⟨3 / 4, "0.75"⟩
def maxTextScale : Bound := ⟨2, "2"⟩
def minOpacity : Bound := ⟨1 / 4, "0.25"⟩
def maxOpacity : Bound := ⟨1, "1"⟩

def supportedSubtitleOverrideFields : List String :=
  ["safeAreaDp", "textScale", "backplateEnabled", "opacity"]

inductive SubtitlePreferenceError where
  | invalid (message : Text)
  | revisionConflict
  | confirmationRequired
  | unsupportedSchema (version : Nat)
  | invalidAssets (message : Text)
  | persistence (message : Text)
deriving DecidableEq

/-- The error as text. -/
def StyleError.message : StyleError → Text
  | .unsupportedSchema version =>
    "subtitle style schema ".toList ++ Nat.toDigits 10 version ++ " is not supported".toList
  | .noStyles => "subtitle style manifest contains no styles".toList
  | .missingDefault id => "default subtitle style `".toList ++ id ++ "` does not exist".toList
  | .emptyId => "subtitle style id must not be empty".toList
  | .invalidFontRole id =>
    "subtitle style `".toList ++ id ++ "` references an empty font role".toList
  | .invalidNumber id =>
    "subtitle style `".toList ++ id ++ "` contains a non-positive or non-finite number".toList
  | .invalidRange id => "subtitle style `".toList ++ id ++ "` contains an invalid range".toList
  | .invalidColor id =>
    "subtitle style `".toList ++ id ++ "` contains unsafe color/HDR metadata".toList
  | .invalidEffects id =>
    "subtitle style `".toList ++ id ++ "` contains invalid effect geometry or color".toList

/-! ## Scopes and entries -/

inductive SubtitlePreferenceScope where
  | global
  | game (gameProfileId : Text)
  | character (gameProfileId characterId : Text)
deriving DecidableEq

/-- The derived order: by variant, then by the identifiers. -/
def SubtitlePreferenceScope.key : SubtitlePreferenceScope → Nat ×ₗ Text ×ₗ Text
  | .global => toLex (0, toLex ([], []))
  | .game gameProfileId => toLex (1, toLex (gameProfileId, []))
  | .character gameProfileId characterId => toLex (2, toLex (gameProfileId, characterId))

structure SubtitlePreferenceOverrides where
  safeAreaDp : Option ℚ
  textScale : Option ℚ
  backplateEnabled : Option Bool
  opacity : Option ℚ
deriving DecidableEq

def validateOptionalRange (field : String) (value : Option ℚ) (minimum maximum : Bound) :
    Except SubtitlePreferenceError Unit :=
  require (value.all (within minimum.value maximum.value))
    (.invalid (field ++ " must be finite and between " ++ minimum.shown ++ " and " ++
      maximum.shown).toList)

namespace SubtitlePreferenceOverrides

def isEmpty (overrides : SubtitlePreferenceOverrides) : Bool :=
  overrides.safeAreaDp.isNone && overrides.textScale.isNone &&
    overrides.backplateEnabled.isNone && overrides.opacity.isNone

def validate (overrides : SubtitlePreferenceOverrides) : Except SubtitlePreferenceError Unit := do
  validateOptionalRange "safeAreaDp" overrides.safeAreaDp minSafeAreaDp maxSafeAreaDp
  validateOptionalRange "textScale" overrides.textScale minTextScale maxTextScale
  validateOptionalRange "opacity" overrides.opacity minOpacity maxOpacity

end SubtitlePreferenceOverrides

structure ScopedSubtitlePreferences where
  scope : SubtitlePreferenceScope
  /-- `none` inherits from the next broader scope. -/
  selectedStyleId : Option Text
  overrides : SubtitlePreferenceOverrides
deriving DecidableEq

def ScopedSubtitlePreferences.isEmpty (entry : ScopedSubtitlePreferences) : Bool :=
  entry.selectedStyleId.isNone && entry.overrides.isEmpty

structure SubtitlePreferenceDocument where
  schemaVersion : Nat
  revision : Nat
  entries : List ScopedSubtitlePreferences
deriving DecidableEq

/-! ## Checks -/

/-- An ASCII letter or digit, or one of `-`, `_`, `.` and `:`. -/
def scopeIdChar (c : Char) : Bool :=
  c.isAlphanum || c = '-' || c = '_' || c = '.' || c = ':'

def validateScopeId (field : String) (value : Text) : Except SubtitlePreferenceError Unit :=
  require (!value.isEmpty && value.utf8Len ≤ maxScopeIdBytes && value.all scopeIdChar)
    (.invalid (field ++ " is not a bounded identifier").toList)

def validateScope : SubtitlePreferenceScope → Except SubtitlePreferenceError Unit
  | .global => .ok ()
  | .game gameProfileId => validateScopeId "gameProfileId" gameProfileId
  | .character gameProfileId characterId => do
    validateScopeId "gameProfileId" gameProfileId
    validateScopeId "characterId" characterId

def validateEntry (entry : ScopedSubtitlePreferences) (styles : StyleManifest) :
    Except SubtitlePreferenceError Unit := do
  validateScope entry.scope
  entry.selectedStyleId.forM fun styleId =>
    require (styles.style styleId).isSome
      (.invalid ("unknown subtitle style `".toList ++ styleId ++ "`".toList))
  entry.overrides.validate

/-- The loop over the entries, which remembers the scopes it has met. -/
def validateEntries (styles : StyleManifest) (scopes : List SubtitlePreferenceScope) :
    List ScopedSubtitlePreferences → Except SubtitlePreferenceError Unit
  | [] => .ok ()
  | entry :: entries => do
    validateEntry entry styles
    require (!entry.isEmpty)
      (.invalid "empty subtitle preference entries are not persisted".toList)
    require (!scopes.contains entry.scope)
      (.invalid "subtitle preference scopes must be unique".toList)
    validateEntries styles (entry.scope :: scopes) entries

def validateDocument (document : SubtitlePreferenceDocument) (styles : StyleManifest) :
    Except SubtitlePreferenceError Unit := do
  require (document.schemaVersion = subtitlePreferenceSchemaVersion)
    (.unsupportedSchema document.schemaVersion)
  require (document.entries.length ≤ 512) (.invalid "too many subtitle preference scopes".toList)
  validateEntries styles [] document.entries

/-! ## The effective style -/

inductive SubtitleEffectiveSource where
  | bundledManifestDefault (styleId : Text)
  | bundledStyle (styleId : Text)
  | rendererDefault
  | persistedScope (scope : SubtitlePreferenceScope)
deriving DecidableEq

structure SubtitleEffectiveValue (α : Type) where
  value : α
  source : SubtitleEffectiveSource
deriving DecidableEq

structure EffectiveResolution where
  styleId : SubtitleEffectiveValue Text
  safeAreaDp : SubtitleEffectiveValue ℚ
  textScale : SubtitleEffectiveValue ℚ
  backplateEnabled : SubtitleEffectiveValue Bool
  opacity : SubtitleEffectiveValue ℚ
  style : SubtitleStyle
deriving DecidableEq

/-- The scopes a scope inherits from, the broadest first. -/
def scopeChain : SubtitlePreferenceScope → List SubtitlePreferenceScope
  | .global => [.global]
  | .game gameProfileId => [.global, .game gameProfileId]
  | .character gameProfileId characterId =>
    [.global, .game gameProfileId, .character gameProfileId characterId]

/-- The narrowest entry that selects a value wins. -/
def effectiveOverride {α : Type} (entries : List ScopedSubtitlePreferences)
    (select : ScopedSubtitlePreferences → Option α) (fallback : α)
    (fallbackSource : SubtitleEffectiveSource) : SubtitleEffectiveValue α :=
  match entries.reverse.findSome? fun entry => (select entry).map (·, entry.scope) with
  | some (value, scope) => ⟨value, .persistedScope scope⟩
  | none => ⟨fallback, fallbackSource⟩

/-- The style with the supported overrides applied. -/
def SubtitleStyle.patched (style : SubtitleStyle) (safeAreaDp textScale : ℚ)
    (backplateEnabled : Bool) : SubtitleStyle :=
  { style with
    geometry := { style.geometry with safeMarginDp := safeAreaDp }
    typography := { style.typography with
      bodySizeDp := style.typography.bodySizeDp * textScale
      speakerSizeDp := style.typography.speakerSizeDp * textScale }
    effects := { style.effects with
      backplate := { style.effects.backplate with enabled := backplateEnabled } } }

/-- The entries of the chain of a scope. -/
def chainEntries (document : SubtitlePreferenceDocument) (scope : SubtitlePreferenceScope) :
    List ScopedSubtitlePreferences :=
  (scopeChain scope).filterMap fun scope => document.entries.find? fun entry => entry.scope = scope

def resolveEffective (document : SubtitlePreferenceDocument)
    (requestedScope : SubtitlePreferenceScope) (styles : StyleManifest) :
    Except SubtitlePreferenceError EffectiveResolution := do
  let entries := chainEntries document requestedScope
  let styleId := effectiveOverride entries (·.selectedStyleId) styles.defaultStyleId
    (.bundledManifestDefault styles.defaultStyleId)
  let style ← okOr (styles.style styleId.value)
    (.invalid ("unknown style `".toList ++ styleId.value ++ "`".toList))
  let safeAreaDp := effectiveOverride entries (·.overrides.safeAreaDp) style.geometry.safeMarginDp
    (.bundledStyle styleId.value)
  let textScale := effectiveOverride entries (·.overrides.textScale) 1 .rendererDefault
  let backplateEnabled := effectiveOverride entries (·.overrides.backplateEnabled)
    style.effects.backplate.enabled (.bundledStyle styleId.value)
  let opacity := effectiveOverride entries (·.overrides.opacity) 1 .rendererDefault
  let effective := style.patched safeAreaDp.value textScale.value backplateEnabled.value
  effective.validate.mapError fun error =>
    .invalid ("effective style is outside the renderer contract: ".toList ++ error.message)
  return { styleId, safeAreaDp, textScale, backplateEnabled, opacity, style := effective }

/-! ## The manager -/

inductive SubtitlePreferenceMigrationState where
  | current
  | initializedDefaults
  | migratedLegacyV0
deriving DecidableEq

structure SubtitlePreferenceMigration where
  state : SubtitlePreferenceMigrationState
  fromSchemaVersion : Option Nat
  detail : String
deriving DecidableEq

def currentMigration : SubtitlePreferenceMigration :=
  ⟨.current, none, "Native subtitle preferences use the current scoped schema v1."⟩

/-- What the preference file holds: a document of this schema, a legacy one, or something that
cannot be loaded. -/
inductive StoredPreferences where
  | current (document : SubtitlePreferenceDocument)
  | legacy (revision : Nat) (selectedStyleId : Option Text)
      (overrides : SubtitlePreferenceOverrides)
  | unreadable (error : SubtitlePreferenceError)
deriving DecidableEq

/-- `load_document`: the document, how it came about, and whether it has to be written back. -/
def loadDocument : Option StoredPreferences → Except SubtitlePreferenceError
    (SubtitlePreferenceDocument × SubtitlePreferenceMigration × Bool)
  | none => .ok (⟨subtitlePreferenceSchemaVersion, 0, []⟩,
      ⟨.initializedDefaults, none, "Initialized native subtitle preferences from the validated " ++
        "bundled manifest; no font binaries were installed or downloaded."⟩, true)
  | some (.current document) => .ok (document, currentMigration, false)
  | some (.legacy revision selectedStyleId overrides) =>
    let entry : ScopedSubtitlePreferences := ⟨.global, selectedStyleId, overrides⟩
    .ok (⟨subtitlePreferenceSchemaVersion, satAdd revision 1,
        if entry.isEmpty then [] else [entry]⟩,
      ⟨.migratedLegacyV0, some 0, "Atomically migrated the legacy global subtitle style and " ++
        "renderer-supported overrides to scoped schema v1."⟩, true)
  | some (.unreadable error) => .error error

/-- How a write of the preference file ends: it goes through, it fails before the file is replaced,
or the file is replaced and the directory does not sync. -/
inductive WriteOutcome where
  | synced
  | failed (message : Text)
  | unsynced (message : Text)
deriving DecidableEq

/-- `atomic_write`: the result, and the file it leaves. -/
def atomicWrite (documentBytes : SubtitlePreferenceDocument → Nat) (outcome : WriteOutcome)
    (document : SubtitlePreferenceDocument) (file : Option StoredPreferences) :
    Except SubtitlePreferenceError Unit × Option StoredPreferences :=
  match outcome with
  | .failed message => (.error (.persistence message), file)
  | .synced =>
    if documentBytes document > maxDocumentBytes then
      (.error (.persistence "subtitle preferences exceed the byte limit".toList), file)
    else (.ok (), some (.current document))
  | .unsynced message =>
    if documentBytes document > maxDocumentBytes then
      (.error (.persistence "subtitle preferences exceed the byte limit".toList), file)
    else (.error (.persistence message), some (.current document))

structure SubtitlePreferenceManager where
  styles : StyleManifest
  document : SubtitlePreferenceDocument
  migration : SubtitlePreferenceMigration
  /-- The file at the manager's path. -/
  file : Option StoredPreferences
deriving DecidableEq

structure AvailableSubtitleStyle where
  styleId : Text
  bodyFontRole : Text
  speakerFontRole : Text
  safeAreaDp : ℚ
  bodySizeDp : ℚ
  speakerSizeDp : ℚ
  backplateEnabled : Bool
deriving DecidableEq

def availableStyle (style : SubtitleStyle) : AvailableSubtitleStyle where
  styleId := style.id
  bodyFontRole := style.typography.bodyFontRole
  speakerFontRole := style.typography.speakerFontRole
  safeAreaDp := style.geometry.safeMarginDp
  bodySizeDp := style.typography.bodySizeDp
  speakerSizeDp := style.typography.speakerSizeDp
  backplateEnabled := style.effects.backplate.enabled

structure SubtitlePreferenceSnapshot where
  revision : Nat
  entries : List ScopedSubtitlePreferences
  requestedScope : SubtitlePreferenceScope
  effective : EffectiveResolution
  availableStyles : List AvailableSubtitleStyle
  supportedOverrideFields : List String
  migration : SubtitlePreferenceMigration
deriving DecidableEq

structure SaveSubtitlePreferencesRequest where
  expectedRevision : Nat
  entry : ScopedSubtitlePreferences
deriving DecidableEq

structure ResetSubtitlePreferencesRequest where
  expectedRevision : Nat
  scope : SubtitlePreferenceScope
  explicitUserConfirmation : Bool
deriving DecidableEq

def canonicalizeEntries (entries : List ScopedSubtitlePreferences) :
    List ScopedSubtitlePreferences :=
  entries.insertionSort fun left right => left.scope.key ≤ right.scope.key

namespace SubtitlePreferenceManager

/-- `new_with_assets`, for a style manifest. -/
def newWithAssets (documentBytes : SubtitlePreferenceDocument → Nat) (styles : StyleManifest)
    (file : Option StoredPreferences) (outcome : WriteOutcome) :
    Except SubtitlePreferenceError SubtitlePreferenceManager := do
  styles.validate.mapError fun error => .invalidAssets error.message
  require (decide (styles.styles.map SubtitleStyle.id).Nodup)
    (.invalidAssets "style ids must be unique".toList)
  let (document, migration, persistNow) ← loadDocument file
  validateDocument document styles
  if persistNow then
    let (result, file) := atomicWrite documentBytes outcome document file
    result
    return ⟨styles, document, migration, file⟩
  else return ⟨styles, document, migration, file⟩

def snapshotFromState (m : SubtitlePreferenceManager) (scope : SubtitlePreferenceScope) :
    Except SubtitlePreferenceError SubtitlePreferenceSnapshot := do
  let effective ← resolveEffective m.document scope m.styles
  return {
    revision := m.document.revision
    entries := m.document.entries
    requestedScope := scope
    effective
    availableStyles := m.styles.styles.map availableStyle
    supportedOverrideFields := supportedSubtitleOverrideFields
    migration := m.migration }

/-- The document a save puts together and checks. -/
def saveCandidate (m : SubtitlePreferenceManager) (request : SaveSubtitlePreferencesRequest) :
    Except SubtitlePreferenceError SubtitlePreferenceDocument := do
  validateEntry request.entry m.styles
  require (!request.entry.isEmpty)
    (.invalid "empty subtitle preferences must use the explicit reset operation".toList)
  require (request.expectedRevision = m.document.revision) .revisionConflict
  let others := m.document.entries.filter fun entry => entry.scope ≠ request.entry.scope
  let candidate : SubtitlePreferenceDocument :=
    { m.document with
      revision := satAdd m.document.revision 1
      entries := canonicalizeEntries (others ++ [request.entry]) }
  validateDocument candidate m.styles
  return candidate

/-- The document a reset puts together and checks. -/
def resetCandidate (m : SubtitlePreferenceManager) (request : ResetSubtitlePreferencesRequest) :
    Except SubtitlePreferenceError SubtitlePreferenceDocument := do
  validateScope request.scope
  require request.explicitUserConfirmation .confirmationRequired
  require (request.expectedRevision = m.document.revision) .revisionConflict
  let candidate : SubtitlePreferenceDocument :=
    { m.document with
      revision := satAdd m.document.revision 1
      entries := m.document.entries.filter fun entry => entry.scope ≠ request.scope }
  validateDocument candidate m.styles
  return candidate

/-- The tail of a save and of a reset: write the candidate, take it over, answer with a snapshot. -/
def persist (documentBytes : SubtitlePreferenceDocument → Nat) (m : SubtitlePreferenceManager)
    (outcome : WriteOutcome) (candidate : SubtitlePreferenceDocument)
    (scope : SubtitlePreferenceScope) :
    Except SubtitlePreferenceError SubtitlePreferenceSnapshot × SubtitlePreferenceManager :=
  match atomicWrite documentBytes outcome candidate m.file with
  | (.error error, file) => (.error error, { m with file })
  | (.ok (), file) =>
    let m := { m with document := candidate, migration := currentMigration, file }
    (m.snapshotFromState scope, m)

def save (documentBytes : SubtitlePreferenceDocument → Nat) (m : SubtitlePreferenceManager)
    (request : SaveSubtitlePreferencesRequest) (outcome : WriteOutcome) :
    Except SubtitlePreferenceError SubtitlePreferenceSnapshot × SubtitlePreferenceManager :=
  match m.saveCandidate request with
  | .error error => (.error error, m)
  | .ok candidate => m.persist documentBytes outcome candidate request.entry.scope

def reset (documentBytes : SubtitlePreferenceDocument → Nat) (m : SubtitlePreferenceManager)
    (request : ResetSubtitlePreferencesRequest) (outcome : WriteOutcome) :
    Except SubtitlePreferenceError SubtitlePreferenceSnapshot × SubtitlePreferenceManager :=
  match m.resetCandidate request with
  | .error error => (.error error, m)
  | .ok candidate => m.persist documentBytes outcome candidate request.scope

end SubtitlePreferenceManager

end NpcRuntime.Subtitles
