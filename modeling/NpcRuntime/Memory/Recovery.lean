import NpcRuntime.Lib.Files
import NpcRuntime.Lib.Path
import NpcRuntime.Lib.Result
import NpcRuntime.Lib.Bytes

/-!
# Recovering a database from a backup

`recover_database` of `memory/src/store.rs`. The backup is checked and copied next to the
destination, the files at the destination go to a quarantine directory one by one, and the copy
takes their place. What SQLite says of a file, which sidecars it leaves at the copy and which steps
of the file system fail is up to the environment; directories are not modelled.

Only the last rename has a way back. A failure between the copy and that rename leaves the copy
behind, and after a failure at a sidecar the database is in quarantine. What SQLite has left at the
copy stays behind in any case. Without those the recovery is safe (`recovery_safe_iff`).
-/

namespace NpcRuntime.Memory

open Text NpcRuntime.Path

/-- A path, by its components. -/
abbrev FilePath := List Text

/-- `Path::file_name`. -/
def fileName (path : FilePath) : Option Text := path.getLast?.filter (· ≠ ['.', '.'])

/-- `Path::parent`, where that of the empty path is the current directory. -/
def parentOf (path : FilePath) : FilePath := path.dropLast

/-- `OsString::push`. -/
def pushed (path : FilePath) (suffix : String) : FilePath :=
  path.dropLast ++ [path.getLast?.getD [] ++ suffix.toList]

def sqliteSidecarPaths (database : FilePath) : List FilePath :=
  [pushed database "-wal", pushed database "-shm"]

structure IntegrityReport where
  ok : Bool
  messages : List Text
  schemaVersion : Int
  deliveredTurns : Nat
  derivedMemories : Nat
deriving DecidableEq

structure RecoveryReport where
  destination : FilePath
  quarantinedDatabase : Option FilePath
  integrity : IntegrityReport
deriving DecidableEq

structure IoError where
  message : Text
deriving DecidableEq

structure SqliteError where
  message : Text
deriving DecidableEq

/-- The cases of `MemoryError` that a recovery returns. -/
inductive RecoveryError where
  | database (error : SqliteError)
  | invalidData (message : Text)
  | io (error : IoError)
deriving DecidableEq

/-- The steps that the file system may refuse. -/
inductive RecoveryStep where
  | createParent
  | copyBackup
  | createQuarantine
  | quarantineDatabase
  | quarantineSidecar (sidecar : FilePath)
  | place
  | restoreDatabase
  | restoreSidecar (sidecar : FilePath)
  | removeTemporary
deriving DecidableEq

/-- A database that is opened read-only and checked. -/
inductive InspectedDatabase where
  | backup
  | copy
deriving DecidableEq

structure RecoveryEnvironment where
  fails : RecoveryStep → Option IoError
  /-- What a copy that fails has written. -/
  torn : Option Bytes
  /-- Opening a file that is not there. -/
  cannotOpen : SqliteError
  /-- Opening a file, its pragmas and `integrity_report`. -/
  inspect : InspectedDatabase → Bytes → Except SqliteError IntegrityReport
  /-- The sidecar that a copy with this content has after it was opened read-only and closed. With
  the header of a write-ahead log it keeps both. -/
  leaves : Bytes → FilePath → Option Bytes
  /-- The two `Uuid::new_v4`. -/
  restoreId : Text
  quarantineId : Text

/-! ## The steps -/

section Steps

variable (env : RecoveryEnvironment) (backup destination : FilePath)

def artifacts : List FilePath := destination :: sqliteSidecarPaths destination

def artifactsExist (files : Files FilePath Bytes) : Bool :=
  (artifacts destination).any fun path => (files path).isSome

/-- The name of the destination, as it appears in the names made from it. -/
def baseName : Text := (fileName destination).getD "memory.sqlite".toList

def temporaryPath : FilePath :=
  parentOf destination ++ ['.' :: baseName destination ++ ".restore-".toList ++
    env.restoreId ++ ".tmp".toList]

/-- The copy and its sidecars. -/
def temporaryFiles : List FilePath := artifacts (temporaryPath env destination)

def quarantineDirectory : FilePath :=
  parentOf destination ++ [baseName destination ++ ".quarantine-".toList ++ env.quarantineId]

/-- Everything in front of the copy; it returns the content of the backup. -/
def checkRecovery (replaceExisting : Bool) (files : Files FilePath Bytes) :
    Except RecoveryError Bytes := do
  require (backup != destination)
    (.invalidData "recovery source and destination must differ".toList)
  let content ← okOr (files backup) (.database env.cannotOpen)
  let report ← (env.inspect .backup content).mapError .database
  require report.ok (.invalidData ("backup failed integrity validation: ".toList ++
    "; ".toList.intercalate report.messages))
  require (!(artifactsExist destination files && !replaceExisting))
    (.invalidData ("recovery destination or its SQLite sidecars already exist: ".toList ++
      join destination))
  (env.fails .createParent).forM fun error => .error (.io error)
  return content

/-- `let _ = std::fs::remove_file(&temporary)`. -/
def removeTemporary (files : Files FilePath Bytes) : Files FilePath Bytes :=
  match env.fails .removeTemporary with
  | some _ => files
  | none => files.remove (temporaryPath env destination)

/-- Opening the copy writes its sidecars, and closing it need not remove them. -/
def openCopy (content : Bytes) (files : Files FilePath Bytes) : Files FilePath Bytes := fun path =>
  if path ∈ sqliteSidecarPaths (temporaryPath env destination) then
    (env.leaves content path).or (files path)
  else files path

/-- The copy, checked in turn. -/
def copyBackup (content : Bytes) (files : Files FilePath Bytes) :
    Except RecoveryError IntegrityReport × Files FilePath Bytes :=
  let temporary := temporaryPath env destination
  match env.fails .copyBackup with
  | some error =>
    (.error (.io error), match env.torn with
      | some content => files.write temporary content
      | none => files)
  | none =>
    let files := openCopy env destination content (files.write temporary content)
    match env.inspect .copy content with
    | .error error => (.error (.database error), files)
    | .ok report =>
      if report.ok then (.ok report, files)
      else (.error (.invalidData "copied backup failed integrity validation".toList),
        removeTemporary env destination files)

/-- The loop over the sidecars. -/
def quarantineSidecars (directory : FilePath) :
    List FilePath → Files FilePath Bytes → Except RecoveryError Unit × Files FilePath Bytes
  | [], files => (.ok (), files)
  | sidecar :: sidecars, files =>
    if (files sidecar).isSome then
      match fileName sidecar with
      | none => (.error (.invalidData "SQLite sidecar has no file name".toList), files)
      | some name =>
        match env.fails (.quarantineSidecar sidecar) with
        | some error => (.error (.io error), files)
        | none => quarantineSidecars directory sidecars (files.rename sidecar (directory ++ [name]))
    else quarantineSidecars directory sidecars files

def quarantinedDatabase : FilePath :=
  quarantineDirectory env destination ++ [baseName destination]

/-- The quarantine of what stands at the destination; it returns whether the database did. -/
def quarantine (files : Files FilePath Bytes) :
    Except RecoveryError Bool × Files FilePath Bytes :=
  match env.fails .createQuarantine with
  | some error => (.error (.io error), files)
  | none =>
    let mainExisted := (files destination).isSome
    let moved : Except RecoveryError Unit × Files FilePath Bytes :=
      if mainExisted then
        match env.fails .quarantineDatabase with
        | some error => (.error (.io error), files)
        | none => (.ok (), files.rename destination (quarantinedDatabase env destination))
      else (.ok (), files)
    match moved with
    | (.error error, files) => (.error error, files)
    | (.ok (), files) =>
      match quarantineSidecars env (quarantineDirectory env destination)
        (sqliteSidecarPaths destination) files with
      | (.error error, files) => (.error error, files)
      | (.ok (), files) => (.ok mainExisted, files)

/-- `let _ = std::fs::rename(..)` out of the quarantine. -/
def restore (step : RecoveryStep) (quarantined original : FilePath)
    (files : Files FilePath Bytes) : Files FilePath Bytes :=
  if (files quarantined).isSome then
    match env.fails step with
    | some _ => files
    | none => files.rename quarantined original
  else files

def restoreSidecars (directory : FilePath) :
    List FilePath → Files FilePath Bytes → Files FilePath Bytes
  | [], files => files
  | sidecar :: sidecars, files =>
    restoreSidecars directory sidecars (match fileName sidecar with
      | some name => restore env (.restoreSidecar sidecar) (directory ++ [name]) sidecar files
      | none => files)

/-- The way back behind the last rename; the empty directory is then removed. -/
def rollbackQuarantine (mainExisted : Bool) (files : Files FilePath Bytes) :
    Files FilePath Bytes :=
  restoreSidecars env (quarantineDirectory env destination) (sqliteSidecarPaths destination)
    (if mainExisted then
      restore env .restoreDatabase (quarantinedDatabase env destination) destination files
    else files)

/-- The last rename. A quarantine says whether it holds the database. -/
def place (integrity : IntegrityReport) (quarantined : Option Bool)
    (files : Files FilePath Bytes) :
    Except RecoveryError RecoveryReport × Files FilePath Bytes :=
  match env.fails .place with
  | some error =>
    let files := match quarantined with
      | some mainExisted => rollbackQuarantine env destination mainExisted files
      | none => files
    (.error (.io error), removeTemporary env destination files)
  | none =>
    (.ok
      { destination
        quarantinedDatabase := quarantined.map fun mainExisted =>
          if mainExisted then quarantinedDatabase env destination
          else quarantineDirectory env destination
        integrity },
      files.rename (temporaryPath env destination) destination)

def recoverDatabase (replaceExisting : Bool) (files : Files FilePath Bytes) :
    Except RecoveryError RecoveryReport × Files FilePath Bytes :=
  match checkRecovery env backup destination replaceExisting files with
  | .error error => (.error error, files)
  | .ok content =>
    let exist := artifactsExist destination files
    match copyBackup env destination content files with
    | (.error error, files) => (.error error, files)
    | (.ok integrity, files) =>
      if exist then
        match quarantine env destination files with
        | (.error error, files) => (.error error, files)
        | (.ok mainExisted, files) => place env destination integrity (some mainExisted) files
      else place env destination integrity none files

end Steps

/-! ## Names -/

section Names

variable (env : RecoveryEnvironment) (destination : FilePath)

/-- The last component. -/
def lastName : Text := destination.getLast?.getD []

@[simp] theorem lastName_pushed (suffix : String) :
    lastName (pushed destination suffix) = lastName destination ++ suffix.toList := by
  rw [lastName, pushed, List.getLast?_concat, Option.getD_some, lastName]

@[simp] theorem lastName_concat (directory : FilePath) (name : Text) :
    lastName (directory ++ [name]) = name := by
  rw [lastName, List.getLast?_concat, Option.getD_some]

/-- The base name is the last component, unless that is no name of a file. -/
theorem baseName_cases : baseName destination = lastName destination ∨
    baseName destination = "memory.sqlite".toList ∧
      (lastName destination = [] ∨ lastName destination = ['.', '.']) := by
  unfold baseName fileName lastName
  cases destination.getLast? with
  | none => exact .inr ⟨rfl, .inl rfl⟩
  | some name =>
    by_cases hname : name = ['.', '.']
    · subst hname
      exact .inr ⟨rfl, .inr rfl⟩
    · simp [Option.filter, hname]

theorem lastName_length_le : (lastName destination).length ≤ (baseName destination).length := by
  rcases baseName_cases destination with hbase | ⟨hbase, hlast | hlast⟩
  · rw [hbase]
  · rw [hlast]
    exact Nat.zero_le _
  · rw [hlast, hbase]
    decide

theorem fileName_pushed {suffix : String} (h : 3 ≤ suffix.toList.length) :
    fileName (pushed destination suffix) = some (lastName destination ++ suffix.toList) := by
  have hlength : lastName destination ++ suffix.toList ≠ ['.', '.'] := by
    intro heq
    have := congrArg List.length heq
    simp only [List.length_append, List.length_cons, List.length_nil] at this
    omega
  unfold lastName at hlength
  simp [fileName, pushed, lastName, Option.filter, hlength]

theorem length_le_parentOf : destination.length ≤ (parentOf destination).length + 1 := by
  rw [parentOf, List.length_dropLast]
  omega

theorem length_pushed (suffix : String) :
    (pushed destination suffix).length = (parentOf destination).length + 1 := by
  rw [pushed, List.length_append, List.length_singleton, parentOf]

theorem ne_pushed {suffix : String} (h : suffix.toList ≠ []) :
    destination ≠ pushed destination suffix := by
  intro heq
  have hname := congrArg lastName heq
  rw [lastName_pushed, List.self_eq_append_right] at hname
  exact h hname

theorem destination_notMem_sidecars : destination ∉ sqliteSidecarPaths destination := by
  simp only [sqliteSidecarPaths, List.mem_cons, List.not_mem_nil, or_false, not_or]
  exact ⟨ne_pushed destination (by decide), ne_pushed destination (by decide)⟩

/-- Where the files of the destination go. -/
def recoveryMoves : List (FilePath × FilePath) :=
  (destination, quarantinedDatabase env destination) ::
    (sqliteSidecarPaths destination).map fun sidecar =>
      (sidecar, quarantineDirectory env destination ++ [(fileName sidecar).getD []])

theorem recoveryMoves_eq : recoveryMoves env destination =
    [(destination, quarantineDirectory env destination ++ [baseName destination]),
      (pushed destination "-wal",
        quarantineDirectory env destination ++ [lastName destination ++ "-wal".toList]),
      (pushed destination "-shm",
        quarantineDirectory env destination ++ [lastName destination ++ "-shm".toList])] := by
  simp only [recoveryMoves, sqliteSidecarPaths, quarantinedDatabase, List.map_cons, List.map_nil,
    fileName_pushed destination (show 3 ≤ "-wal".toList.length by decide),
    fileName_pushed destination (show 3 ≤ "-shm".toList.length by decide), Option.getD_some]

theorem recoveryMoves_apart : Files.Apart (recoveryMoves env destination) := by
  have hsidecars : pushed destination "-wal" ≠ pushed destination "-shm" := by
    intro heq
    have hname := congrArg lastName heq
    rw [lastName_pushed, lastName_pushed] at hname
    exact absurd (List.append_cancel_left hname) (by decide)
  have hbase : ∀ suffix : String, ¬suffix.toList <:+ "memory.sqlite".toList →
      baseName destination ≠ lastName destination ++ suffix.toList := by
    intro suffix hsuffix heq
    rcases baseName_cases destination with hname | ⟨hname, -⟩
    · rw [hname, List.self_eq_append_right] at heq
      exact hsuffix (heq ▸ List.nil_suffix)
    · exact hsuffix ⟨lastName destination, heq.symm.trans hname⟩
  have hdeep : ∀ path : FilePath, path.length ≤ (parentOf destination).length + 1 →
      ∀ name, path ≠ quarantineDirectory env destination ++ [name] := by
    intro path hpath name heq
    rw [heq, quarantineDirectory, List.length_append, List.length_append] at hpath
    simp only [List.length_singleton] at hpath
    omega
  have hfirst := hdeep destination (length_le_parentOf destination)
  have hwal := hdeep _ (length_pushed destination "-wal").le
  have hshm := hdeep _ (length_pushed destination "-shm").le
  rw [recoveryMoves_eq, Files.Apart]
  simp only [List.map_cons, List.map_nil, List.cons_append, List.nil_append, List.nodup_cons,
    List.mem_cons, List.not_mem_nil, or_false, not_or, not_false_eq_true, List.nodup_nil, and_true,
    List.append_cancel_left_eq, List.cons.injEq]
  exact ⟨⟨ne_pushed _ (by decide), ne_pushed _ (by decide), hfirst _, hfirst _, hfirst _⟩,
    ⟨hsidecars, hwal _, hwal _, hwal _⟩, ⟨hshm _, hshm _, hshm _⟩,
    ⟨hbase _ (by decide), hbase _ (by decide)⟩, by decide⟩

variable {path : FilePath}

theorem mem_artifacts : path ∈ artifacts destination ↔
    path = destination ∨ path = pushed destination "-wal" ∨ path = pushed destination "-shm" := by
  simp [artifacts, sqliteSidecarPaths]

/-- The names of the temporary files are longer than those at the destination. -/
theorem temporaryFiles_notMem_artifacts (h : path ∈ temporaryFiles env destination) :
    path ∉ artifacts destination := by
  have hlong : (lastName destination).length + 4 < (lastName path).length := by
    have hle := lastName_length_le destination
    have hrest : ".restore-".toList.length = 9 := by decide
    have htemporary : (lastName destination).length + 4 <
        (lastName (temporaryPath env destination)).length := by
      rw [temporaryPath, lastName_concat]
      simp only [List.length_append, List.length_cons, hrest]
      omega
    rcases (mem_artifacts _).1 h with rfl | rfl | rfl
    · exact htemporary
    all_goals
      rw [lastName_pushed, List.length_append]
      exact htemporary.trans_le (Nat.le_add_right ..)
  intro hmem
  rcases (mem_artifacts _).1 hmem with rfl | rfl | rfl
  · omega
  all_goals
    rw [lastName_pushed, List.length_append] at hlong
    exact absurd hlong (by simp)

theorem temporaryFiles_ne_quarantined (h : path ∈ temporaryFiles env destination) (name : Text) :
    path ≠ quarantineDirectory env destination ++ [name] := by
  have hpath : path.length = (parentOf destination).length + 1 := by
    have htemporary : (temporaryPath env destination).length =
        (parentOf destination).length + 1 := by
      rw [temporaryPath, List.length_append, List.length_singleton]
    have hparent : (parentOf (temporaryPath env destination)).length =
        (parentOf destination).length := by
      rw [parentOf, List.length_dropLast, htemporary, Nat.add_sub_cancel]
    rcases (mem_artifacts _).1 h with rfl | rfl | rfl
    · exact htemporary
    all_goals rw [length_pushed, hparent]
  rintro rfl
  simp [quarantineDirectory] at hpath

theorem temporaryPath_mem : temporaryPath env destination ∈ temporaryFiles env destination :=
  List.mem_cons_self

end Names

/-! ## Stages -/

section Stages

variable {env : RecoveryEnvironment} {destination directory : FilePath}
  {sidecars : List FilePath} {files : Files FilePath Bytes}

/-- The moves of the sidecars. -/
def sidecarMoves (directory : FilePath) (sidecars : List FilePath) :
    List (FilePath × FilePath) :=
  sidecars.map fun sidecar => (sidecar, directory ++ [(fileName sidecar).getD []])

/-- The steps that move the existing sidecars do not fail. -/
def SidecarsGo (env : RecoveryEnvironment) (sidecars : List FilePath)
    (files : Files FilePath Bytes) : Prop :=
  ∀ sidecar ∈ sidecars, (files sidecar).isSome → env.fails (.quarantineSidecar sidecar) = none

/-- **The loop over the sidecars.** It moves them all, or stops with an error and touches nothing
but them. -/
theorem quarantineSidecars_spec (hnames : ∀ sidecar ∈ sidecars, (fileName sidecar).isSome)
    (happart : Files.Apart (sidecarMoves directory sidecars)) :
    (SidecarsGo env sidecars files ∧ quarantineSidecars env directory sidecars files =
      (.ok (), Files.moveEach (sidecarMoves directory sidecars) files)) ∨
    (¬SidecarsGo env sidecars files ∧ ∃ error files',
      quarantineSidecars env directory sidecars files = (.error error, files') ∧
        ∀ path, path ∉ (sidecarMoves directory sidecars).map Prod.fst →
          path ∉ (sidecarMoves directory sidecars).map Prod.snd → files' path = files path) := by
  induction sidecars generalizing files with
  | nil => exact .inl ⟨by simp [SidecarsGo], rfl⟩
  | cons sidecar sidecars ih =>
    obtain ⟨name, hname⟩ := Option.isSome_iff_exists.1 (hnames sidecar List.mem_cons_self)
    have hrest : ∀ other ∈ sidecars, (fileName other).isSome := fun other hother =>
      hnames other (List.mem_cons_of_mem _ hother)
    obtain ⟨-, hsource, -, htarget, -, happart'⟩ := Files.Apart.cons happart
    have hsources : (sidecarMoves directory sidecars).map Prod.fst = sidecars := by
      simp [sidecarMoves, Function.comp_def]
    change sidecar ∉ (sidecarMoves directory sidecars).map Prod.fst at hsource
    change _ ∉ (sidecarMoves directory sidecars).map Prod.fst at htarget
    rw [hsources] at hsource htarget
    rw [hname, Option.getD_some] at htarget
    have hgo : SidecarsGo env (sidecar :: sidecars) files ↔
        ((files sidecar).isSome → env.fails (.quarantineSidecar sidecar) = none) ∧
          SidecarsGo env sidecars (files.move sidecar (directory ++ [name])) := by
      have hsame : ∀ other ∈ sidecars,
          files.move sidecar (directory ++ [name]) other = files other := fun other hother =>
        Files.move_other (ne_of_mem_of_not_mem hother hsource)
          (ne_of_mem_of_not_mem hother htarget)
      simp only [SidecarsGo, List.forall_mem_cons]
      refine and_congr_right fun _ => forall₂_congr fun other hother => ?_
      rw [hsame other hother]
    have hmoves : sidecarMoves directory (sidecar :: sidecars) =
        (sidecar, directory ++ [name]) :: sidecarMoves directory sidecars := by
      rw [sidecarMoves, List.map_cons, hname, Option.getD_some, sidecarMoves]
    rw [hgo, hmoves, Files.moveEach, quarantineSidecars, hname]
    by_cases hexists : (files sidecar).isSome
    · rw [if_pos hexists]
      cases hfails : env.fails (.quarantineSidecar sidecar) with
      | some error =>
        refine .inr ⟨fun h => ?_, _, _, rfl, fun _ _ _ => rfl⟩
        cases h.1 hexists
      | none =>
        have hmove : files.move sidecar (directory ++ [name]) =
            files.rename sidecar (directory ++ [name]) := if_pos hexists
        dsimp only
        rw [← hmove]
        obtain ⟨hgoes, hrun⟩ | ⟨hstops, error, files', hrun, hother⟩ :=
          @ih (files.move sidecar (directory ++ [name])) hrest happart'
        · exact .inl ⟨⟨fun _ => rfl, hgoes⟩, hrun⟩
        · refine .inr ⟨fun h => hstops h.2, error, files', hrun, fun path hfirst hsecond => ?_⟩
          simp only [List.map_cons, List.mem_cons, not_or] at hfirst hsecond
          rw [hother path hfirst.2 hsecond.2, Files.move_other hfirst.1 hsecond.1]
    · have hmove : files.move sidecar (directory ++ [name]) = files := if_neg hexists
      rw [if_neg hexists, hmove]
      obtain ⟨hgoes, hrun⟩ | ⟨hstops, error, files', hrun, hother⟩ := @ih files hrest happart'
      · exact .inl ⟨⟨fun h => absurd h hexists, hgoes⟩, hrun⟩
      · refine .inr ⟨fun h => hstops h.2, error, files', hrun, fun path hfirst hsecond => ?_⟩
        simp only [List.map_cons, List.mem_cons, not_or] at hfirst hsecond
        exact hother path hfirst.2 hsecond.2

variable (env destination) in
theorem sidecar_names : ∀ sidecar ∈ sqliteSidecarPaths destination,
    (fileName sidecar).isSome := by
  intro sidecar hmem
  simp only [sqliteSidecarPaths, List.mem_cons, List.not_mem_nil, or_false] at hmem
  rcases hmem with rfl | rfl
  · rw [fileName_pushed destination (by decide)]
    rfl
  · rw [fileName_pushed destination (by decide)]
    rfl

theorem recoveryMoves_sources :
    (recoveryMoves env destination).map Prod.fst = artifacts destination := by
  simp [recoveryMoves, artifacts, Function.comp_def]

/-- Nothing is in the way of the names made from fresh identifiers. -/
structure FreshNames (env : RecoveryEnvironment) (destination : FilePath)
    (files : Files FilePath Bytes) : Prop where
  temporary : ∀ path ∈ temporaryFiles env destination, files path = none
  quarantined : ∀ name, files (quarantineDirectory env destination ++ [name]) = none

/-- The steps that move the existing files into quarantine do not fail. -/
structure QuarantineGoes (env : RecoveryEnvironment) (destination : FilePath)
    (files : Files FilePath Bytes) : Prop where
  directory : env.fails .createQuarantine = none
  database : (files destination).isSome → env.fails .quarantineDatabase = none
  sidecars : SidecarsGo env (sqliteSidecarPaths destination) files

theorem quarantineGoes_congr {files' : Files FilePath Bytes}
    (h : ∀ path ∈ artifacts destination, files' path = files path) :
    QuarantineGoes env destination files' ↔ QuarantineGoes env destination files := by
  have hdatabase := h destination List.mem_cons_self
  have hsidecars : SidecarsGo env (sqliteSidecarPaths destination) files' ↔
      SidecarsGo env (sqliteSidecarPaths destination) files :=
    forall₂_congr fun sidecar hmem => by rw [h sidecar (List.mem_cons_of_mem _ hmem)]
  constructor
  · intro ⟨h₁, h₂, h₃⟩
    exact ⟨h₁, hdatabase ▸ h₂, hsidecars.1 h₃⟩
  · intro ⟨h₁, h₂, h₃⟩
    exact ⟨h₁, hdatabase ▸ h₂, hsidecars.2 h₃⟩

theorem mem_recoveryMoves {move : FilePath × FilePath} (h : move ∈ recoveryMoves env destination) :
    move.1 ∈ artifacts destination ∧
      ∃ name, move.2 = quarantineDirectory env destination ++ [name] := by
  refine ⟨@recoveryMoves_sources env destination ▸ List.mem_map_of_mem h, ?_⟩
  rcases List.mem_cons.1 h with rfl | h
  · exact ⟨_, rfl⟩
  · obtain ⟨sidecar, -, rfl⟩ := List.mem_map.1 h
    exact ⟨_, rfl⟩

/-- No move names a temporary file. -/
theorem temporaryFiles_notMem_moves {path : FilePath} (h : path ∈ temporaryFiles env destination) :
    path ∉ (recoveryMoves env destination).map Prod.fst ∧
      path ∉ (recoveryMoves env destination).map Prod.snd := by
  refine ⟨?_, fun hmem => ?_⟩
  · rw [recoveryMoves_sources]
    exact temporaryFiles_notMem_artifacts env destination h
  · obtain ⟨move, hmove, heq⟩ := List.mem_map.1 hmem
    obtain ⟨-, name, hname⟩ := mem_recoveryMoves hmove
    exact temporaryFiles_ne_quarantined env destination h name (heq.symm.trans hname)

/-- **The quarantine.** It moves all that is there, or stops with an error and leaves the copy. -/
theorem quarantine_spec :
    (QuarantineGoes env destination files ∧ quarantine env destination files =
      (.ok (files destination).isSome, Files.moveEach (recoveryMoves env destination) files)) ∨
    (¬QuarantineGoes env destination files ∧ ∃ error files',
      quarantine env destination files = (.error error, files') ∧
        files' (temporaryPath env destination) = files (temporaryPath env destination)) := by
  have happart := recoveryMoves_apart env destination
  obtain ⟨-, hsource, -, htarget, -, happart'⟩ := Files.Apart.cons happart
  obtain ⟨hsources, htargets⟩ :=
    temporaryFiles_notMem_moves (temporaryPath_mem env destination)
  rw [recoveryMoves, List.map_cons, List.mem_cons, not_or] at hsources htargets
  obtain ⟨hfirst, hothers⟩ := hsources
  obtain ⟨hdatabase, hquarantined⟩ := htargets
  cases hdirectory : env.fails .createQuarantine with
  | some error =>
    refine .inr ⟨fun h => ?_, .io error, files, by simp only [quarantine, hdirectory], rfl⟩
    cases hdirectory.symm.trans h.directory
  | none =>
    by_cases hmain : (files destination).isSome → env.fails .quarantineDatabase = none
    · have hrun : quarantine env destination files =
          match quarantineSidecars env (quarantineDirectory env destination)
            (sqliteSidecarPaths destination)
            (files.move destination (quarantinedDatabase env destination)) with
          | (.error error, files) => (.error error, files)
          | (.ok (), files') => (.ok (files destination).isSome, files') := by
        by_cases hexists : (files destination).isSome
        · simp only [quarantine, hdirectory, hexists, if_pos, hmain hexists, Files.move]
        · simp only [quarantine, hdirectory, hexists, Files.move]
          rfl
      have hsame : SidecarsGo env (sqliteSidecarPaths destination)
          (files.move destination (quarantinedDatabase env destination)) ↔
            SidecarsGo env (sqliteSidecarPaths destination) files := by
        have hsources : (sidecarMoves (quarantineDirectory env destination)
            (sqliteSidecarPaths destination)).map Prod.fst = sqliteSidecarPaths destination := by
          simp [sidecarMoves, Function.comp_def]
        change destination ∉ (sidecarMoves _ _).map Prod.fst at hsource
        change _ ∉ (sidecarMoves _ _).map Prod.fst at htarget
        rw [hsources] at hsource htarget
        refine forall₂_congr fun sidecar hmem => ?_
        rw [Files.move_other (ne_of_mem_of_not_mem hmem hsource)
          (ne_of_mem_of_not_mem hmem htarget)]
      rw [hrun]
      obtain ⟨hgoes, hloop⟩ | ⟨hstops, error, files', hloop, hother⟩ :=
        @quarantineSidecars_spec env (quarantineDirectory env destination)
          (sqliteSidecarPaths destination)
          (files.move destination (quarantinedDatabase env destination))
          (sidecar_names destination) happart'
      · rw [hloop]
        exact .inl ⟨⟨hdirectory, hmain, hsame.1 hgoes⟩, rfl⟩
      · rw [hloop]
        refine .inr ⟨fun h => hstops (hsame.2 h.sidecars), error, files', rfl, ?_⟩
        exact (hother _ hothers hquarantined).trans (Files.move_other hfirst hdatabase)
    · refine .inr ⟨fun h => hmain h.database, ?_⟩
      simp only [Classical.not_imp] at hmain
      obtain ⟨hexists, hfails⟩ := hmain
      obtain ⟨error, hfails⟩ := Option.ne_none_iff_exists'.1 hfails
      refine ⟨.io error, files, ?_, rfl⟩
      simp only [quarantine, hdirectory, hexists, if_pos, hfails]

/-- **The way back.** If no rename fails, all files come back. -/
theorem rollbackQuarantine_eq (hdatabase : env.fails .restoreDatabase = none)
    (hsidecars : ∀ sidecar ∈ sqliteSidecarPaths destination,
      env.fails (.restoreSidecar sidecar) = none) {mainExisted : Bool}
    (habsent : mainExisted = false → files (quarantinedDatabase env destination) = none) :
    rollbackQuarantine env destination mainExisted files =
      Files.moveEach (Files.back (recoveryMoves env destination)) files := by
  have hrestore : ∀ step quarantined original, env.fails step = none →
      ∀ files : Files FilePath Bytes, restore env step quarantined original files =
        files.move quarantined original := by
    intro step quarantined original hstep files
    simp only [restore, hstep, Files.move]
  have hloop : ∀ sidecars : List FilePath,
      (∀ sidecar ∈ sidecars, (fileName sidecar).isSome ∧
        env.fails (.restoreSidecar sidecar) = none) → ∀ files : Files FilePath Bytes,
      restoreSidecars env (quarantineDirectory env destination) sidecars files =
        Files.moveEach (Files.back (sidecarMoves (quarantineDirectory env destination) sidecars))
          files := by
    intro sidecars h
    induction sidecars with
    | nil => exact fun _ => rfl
    | cons sidecar sidecars ih =>
      intro files
      obtain ⟨hname, hstep⟩ := h sidecar List.mem_cons_self
      obtain ⟨name, hname⟩ := Option.isSome_iff_exists.1 hname
      rw [restoreSidecars, hname]
      dsimp only
      rw [hrestore _ _ _ hstep, ih fun other hother => h other (List.mem_cons_of_mem _ hother)]
      simp only [sidecarMoves, Files.back, List.map_cons, Prod.swap_prod_mk, Files.moveEach, hname,
        Option.getD_some]
  have hmain : (if mainExisted then
      restore env .restoreDatabase (quarantinedDatabase env destination) destination files
    else files) = files.move (quarantinedDatabase env destination) destination := by
    cases mainExisted with
    | true => exact hrestore _ _ _ hdatabase files
    | false => simp [Files.move, habsent]
  rw [rollbackQuarantine, hmain, hloop _ fun sidecar hmem =>
    ⟨sidecar_names destination sidecar hmem, hsidecars sidecar hmem⟩]
  rfl

end Stages

/-! ## Recovery -/

section Recovery

variable {env : RecoveryEnvironment} {backup destination : FilePath} {replaceExisting : Bool}
  {files : Files FilePath Bytes}

/-- A failed recovery leaves what was at the destination and no temporary file; one that goes through
leaves the backup there and no sidecar. -/
def SafeEnd (env : RecoveryEnvironment) (backup destination : FilePath)
    (files : Files FilePath Bytes) :
    Except RecoveryError RecoveryReport × Files FilePath Bytes → Prop
  | (.error _, files') =>
    (∀ path ∈ artifacts destination, files' path = files path) ∧
      ∀ path ∈ temporaryFiles env destination, files' path = none
  | (.ok _, files') =>
    files' destination = files backup ∧ ∀ sidecar ∈ sqliteSidecarPaths destination,
      files' sidecar = none

def RecoverySafe (env : RecoveryEnvironment) (backup destination : FilePath)
    (replaceExisting : Bool) (files : Files FilePath Bytes) : Prop :=
  SafeEnd env backup destination files
    (recoverDatabase env backup destination replaceExisting files)

/-- A copy with this content can be removed without a trace. -/
structure NoTrace (env : RecoveryEnvironment) (destination : FilePath) (content : Bytes) : Prop where
  removed : env.fails .removeTemporary = none
  sidecars : ∀ sidecar ∈ sqliteSidecarPaths (temporaryPath env destination),
    env.leaves content sidecar = none

/-- What a recovery needs behind its checks. -/
structure StepsHold (env : RecoveryEnvironment) (destination : FilePath) (content : Bytes)
    (files : Files FilePath Bytes) : Prop where
  /-- A copy that fails leaves no file. -/
  torn : env.fails .copyBackup ≠ none → env.torn = none
  /-- The copy can be opened and checked. -/
  inspects : env.fails .copyBackup = none → ∃ report, env.inspect .copy content = .ok report
  /-- A copy that is not used leaves no trace. -/
  removes : env.fails .copyBackup = none → ∀ report, env.inspect .copy content = .ok report →
    report.ok = false ∨ env.fails .place ≠ none → NoTrace env destination content
  /-- The existing files can be moved away. -/
  quarantines : env.fails .copyBackup = none → ∀ report,
    env.inspect .copy content = .ok report → report.ok → artifactsExist destination files →
      QuarantineGoes env destination files

variable {content : Bytes}

theorem checkRecovery_backup
    (h : checkRecovery env backup destination replaceExisting files = .ok content) :
    files backup = some content := by
  simp only [checkRecovery, bind_eq_ok, require_eq_ok, okOr_eq_ok, pure_eq_ok] at h
  obtain ⟨_, -, content', hbackup, _, -, _, -, _, -, _, -, rfl⟩ := h
  exact hbackup

variable {files' : Files FilePath Bytes}

/-- A copy that is still there is a trace. -/
theorem not_safeEnd_of_copy {error : RecoveryError} {copy : Bytes}
    (h : files' (temporaryPath env destination) = some copy) :
    ¬SafeEnd env backup destination files (.error error, files') := by
  rintro ⟨-, hgone⟩
  cases (hgone _ (temporaryPath_mem env destination)).symm.trans h

/-- The files with the copy of `content` and what opening it has left. -/
structure Copied (env : RecoveryEnvironment) (destination : FilePath) (content : Bytes)
    (files : Files FilePath Bytes) : Prop where
  copy : files (temporaryPath env destination) = some content
  sidecars : ∀ sidecar ∈ sqliteSidecarPaths (temporaryPath env destination),
    files sidecar = env.leaves content sidecar

theorem Copied.congr (h : Copied env destination content files)
    (heq : ∀ path ∈ temporaryFiles env destination, files' path = files path) :
    Copied env destination content files' :=
  ⟨(heq _ List.mem_cons_self).trans h.copy, fun sidecar hmem =>
    (heq sidecar (List.mem_cons_of_mem _ hmem)).trans (h.sidecars sidecar hmem)⟩

/-- What the copy has written. -/
theorem openCopy_spec (hfresh : FreshNames env destination files) (content : Bytes) :
    Copied env destination content
        (openCopy env destination content (files.write (temporaryPath env destination) content)) ∧
      ∀ path, path ∉ temporaryFiles env destination →
        openCopy env destination content (files.write (temporaryPath env destination) content)
          path = files path := by
  have hcopy := destination_notMem_sidecars (temporaryPath env destination)
  refine ⟨⟨?_, fun sidecar hmem => ?_⟩, fun path hpath => ?_⟩
  · rw [openCopy, if_neg hcopy]
    exact Function.update_self ..
  · have hwritten : files.write (temporaryPath env destination) content sidecar = none :=
      (Function.update_of_ne (ne_of_mem_of_not_mem hmem hcopy) ..).trans
        (hfresh.temporary sidecar (List.mem_cons_of_mem _ hmem))
    rw [openCopy, if_pos hmem, hwritten, Option.or_none]
  · rw [openCopy, if_neg fun hmem => hpath (List.mem_cons_of_mem _ hmem)]
    have hne : path ≠ temporaryPath env destination := fun heq => hpath (List.mem_cons.2 (.inl heq))
    exact Function.update_of_ne hne ..

/-- Where the rest is as it was, an error is safe exactly if the copy can be removed without a
trace. -/
theorem safeEnd_removeTemporary_iff {error : RecoveryError}
    (hkept : ∀ path ∈ artifacts destination, files' path = files path)
    (hcopied : Copied env destination content files') :
    SafeEnd env backup destination files
        (.error error, removeTemporary env destination files') ↔
      NoTrace env destination content := by
  have hcopy := destination_notMem_sidecars (temporaryPath env destination)
  unfold removeTemporary
  cases hremove : env.fails .removeTemporary with
  | some ioError =>
    refine iff_of_false (not_safeEnd_of_copy hcopied.copy) fun h => ?_
    cases hremove.symm.trans h.removed
  | none =>
    have hothers : ∀ path, path ≠ temporaryPath env destination →
        files'.remove (temporaryPath env destination) path = files' path :=
      fun path hne => Function.update_of_ne hne ..
    constructor
    · rintro ⟨-, hgone⟩
      refine ⟨hremove, fun sidecar hmem => ?_⟩
      rw [← hcopied.sidecars sidecar hmem, ← hothers sidecar (ne_of_mem_of_not_mem hmem hcopy)]
      exact hgone sidecar (List.mem_cons_of_mem _ hmem)
    · intro htrace
      refine ⟨fun path hmem => ?_, fun path hmem => ?_⟩
      · have hne : path ≠ temporaryPath env destination := fun heq =>
          temporaryFiles_notMem_artifacts env destination (temporaryPath_mem env destination)
            (heq ▸ hmem)
        exact (hothers path hne).trans (hkept path hmem)
      · rcases List.mem_cons.1 hmem with rfl | hmem
        · exact Function.update_self ..
        · exact (hothers path (ne_of_mem_of_not_mem hmem hcopy)).trans
            ((hcopied.sidecars path hmem).trans (htrace.sidecars path hmem))

/-- The last rename, from files in which the way is free and can be gone back. -/
theorem place_safe_iff {integrity : IntegrityReport} {quarantined : Option Bool}
    {free back : Files FilePath Bytes} (hbackup : files backup = some content)
    (hcopy : Copied env destination content free)
    (hfree : ∀ sidecar ∈ sqliteSidecarPaths destination, free sidecar = none)
    (hback : (match quarantined with
      | some mainExisted => rollbackQuarantine env destination mainExisted free
      | none => free) = back) (hkept : ∀ path ∈ artifacts destination, back path = files path)
    (hcopy' : Copied env destination content back) :
    SafeEnd env backup destination files (place env destination integrity quarantined free) ↔
      (env.fails .place ≠ none → NoTrace env destination content) := by
  have htemporary :=
    temporaryFiles_notMem_artifacts env destination (temporaryPath_mem env destination)
  unfold place
  cases hplace : env.fails .place with
  | some error =>
    rw [hback]
    exact (safeEnd_removeTemporary_iff hkept hcopy').trans (by simp)
  | none =>
    have hne : temporaryPath env destination ≠ destination := fun heq =>
      htemporary (List.mem_cons.2 (.inl heq))
    refine iff_of_true ⟨?_, fun sidecar hmem => ?_⟩ (by simp)
    · rw [Files.rename_target hne, hcopy.copy, hbackup]
    · have hsidecar : sidecar ≠ temporaryPath env destination := by
        rintro rfl
        exact htemporary (List.mem_cons_of_mem _ hmem)
      have hdestination := ne_of_mem_of_not_mem hmem (destination_notMem_sidecars destination)
      rw [Files.rename_other hsidecar hdestination, hfree sidecar hmem]

/-- The last rename behind a quarantine. -/
theorem place_quarantined_safe_iff (hfresh : FreshNames env destination files)
    (hdatabase : env.fails .restoreDatabase = none)
    (hsidecars : ∀ sidecar ∈ sqliteSidecarPaths destination,
      env.fails (.restoreSidecar sidecar) = none) {integrity : IntegrityReport}
    {copied : Files FilePath Bytes} (hbackup : files backup = some content)
    (hcopy : Copied env destination content copied)
    (hothers : ∀ path, path ∉ temporaryFiles env destination → copied path = files path) :
    SafeEnd env backup destination files
        (place env destination integrity (some (copied destination).isSome)
          (Files.moveEach (recoveryMoves env destination) copied)) ↔
      (env.fails .place ≠ none → NoTrace env destination content) := by
  set free := Files.moveEach (recoveryMoves env destination) copied
  have happart := recoveryMoves_apart env destination
  have hvacant : ∀ move ∈ recoveryMoves env destination, copied move.2 = none := by
    intro move hmem
    obtain ⟨-, name, hname⟩ := mem_recoveryMoves hmem
    rw [hname, hothers _ fun hmem =>
      temporaryFiles_ne_quarantined env destination hmem name rfl]
    exact hfresh.quarantined name
  have hmoved := Files.moveEach_spec happart hvacant
  have hthere : Copied env destination content free := hcopy.congr fun path hmem =>
    Files.moveEach_other (temporaryFiles_notMem_moves hmem).1 (temporaryFiles_notMem_moves hmem).2
  have hgone : ∀ sidecar ∈ sqliteSidecarPaths destination, free sidecar = none := by
    intro sidecar hmem
    have hsources : sidecar ∈ (recoveryMoves env destination).map Prod.fst := by
      rw [recoveryMoves_sources]
      exact List.mem_cons_of_mem _ hmem
    obtain ⟨move, hmove, rfl⟩ := List.mem_map.1 hsources
    exact (hmoved move hmove).1
  have habsent : (copied destination).isSome = false →
      free (quarantinedDatabase env destination) = none := by
    intro hnone
    have hmain := (hmoved (destination, quarantinedDatabase env destination)
      List.mem_cons_self).2
    exact hmain.trans (Option.not_isSome_iff_eq_none.1 (by simp [hnone]))
  have hreturned := @Files.moveEach_back _ _ _ copied _ free happart hvacant
    fun _ _ => ⟨rfl, rfl⟩
  have hback : ∀ path ∈ artifacts destination,
      Files.moveEach (Files.back (recoveryMoves env destination)) free path = files path := by
    intro path hmem
    have hother : path ∉ temporaryFiles env destination := fun htemporary =>
      temporaryFiles_notMem_artifacts env destination htemporary hmem
    rw [← @recoveryMoves_sources env] at hmem
    obtain ⟨move, hmove, rfl⟩ := List.mem_map.1 hmem
    exact (hreturned move hmove).trans (hothers _ hother)
  have hstill : Copied env destination content
      (Files.moveEach (Files.back (recoveryMoves env destination)) free) := by
    refine hthere.congr fun path hmem => ?_
    obtain ⟨hsource, htarget⟩ := temporaryFiles_notMem_moves hmem
    apply Files.moveEach_other
    · simpa [Files.back, Function.comp_def] using htarget
    · simpa [Files.back, Function.comp_def] using hsource
  exact place_safe_iff hbackup hthere hgone (rollbackQuarantine_eq hdatabase hsidecars habsent)
    hback hstill

/-- **The recovery is safe.** Apart from the renames out of the quarantine, which the caller has to
rely on, this needs every step between the copy and the last rename. -/
theorem recovery_safe_iff (hfresh : FreshNames env destination files)
    (hdatabase : env.fails .restoreDatabase = none)
    (hsidecars : ∀ sidecar ∈ sqliteSidecarPaths destination,
      env.fails (.restoreSidecar sidecar) = none) :
    RecoverySafe env backup destination replaceExisting files ↔
      ∀ content, checkRecovery env backup destination replaceExisting files = .ok content →
        StepsHold env destination content files := by
  rw [RecoverySafe, recoverDatabase]
  cases hcheck : checkRecovery env backup destination replaceExisting files with
  | error error =>
    exact iff_of_true ⟨fun _ _ => rfl, hfresh.temporary⟩ (by rintro _ ⟨⟩)
  | ok content =>
    have hbackup := checkRecovery_backup hcheck
    have hone : (∀ content', Except.ok content = (.ok content' : Except RecoveryError Bytes) →
        StepsHold env destination content' files) ↔ StepsHold env destination content files := by
      constructor
      · exact fun h => h content rfl
      · rintro h _ ⟨⟩
        exact h
    rw [hone]
    cases hcopy : env.fails .copyBackup with
    | some error =>
      have hholds : StepsHold env destination content files ↔ env.torn = none := by
        constructor
        · exact fun h => h.torn (by simp [hcopy])
        · intro htorn
          exact ⟨fun _ => htorn, by simp [hcopy], by simp [hcopy], by simp [hcopy]⟩
      rw [hholds]
      cases htorn : env.torn with
      | some torn =>
        simp only [copyBackup, hcopy, htorn]
        exact iff_of_false (not_safeEnd_of_copy (Function.update_self ..)) (by simp)
      | none =>
        simp only [copyBackup, hcopy, htorn]
        exact iff_of_true ⟨fun _ _ => rfl, hfresh.temporary⟩ trivial
    | none =>
      set copied := openCopy env destination content
        (files.write (temporaryPath env destination) content) with hcopied
      obtain ⟨hthere, hothers⟩ := openCopy_spec hfresh content
      rw [← hcopied] at hthere hothers
      have hkept : ∀ path ∈ artifacts destination, copied path = files path := fun path hmem =>
        hothers path fun htemporary =>
          temporaryFiles_notMem_artifacts env destination htemporary hmem
      cases hinspect : env.inspect .copy content with
      | error error =>
        simp only [copyBackup, hcopy, hinspect]
        refine iff_of_false (not_safeEnd_of_copy hthere.copy) fun h => ?_
        obtain ⟨report, hreport⟩ := h.inspects hcopy
        cases hinspect.symm.trans hreport
      | ok report =>
        have hholds : StepsHold env destination content files ↔
            (report.ok = false ∨ env.fails .place ≠ none → NoTrace env destination content) ∧
              (report.ok → artifactsExist destination files →
                QuarantineGoes env destination files) := by
          constructor
          · exact fun h => ⟨h.removes hcopy report hinspect, h.quarantines hcopy report hinspect⟩
          · rintro ⟨hremoves, hquarantines⟩
            refine ⟨by simp [hcopy], fun _ => ⟨report, hinspect⟩, fun _ report' hreport' => ?_,
              fun _ report' hreport' => ?_⟩
            · cases hinspect.symm.trans hreport'
              exact hremoves
            · cases hinspect.symm.trans hreport'
              exact hquarantines
        rw [hholds]
        cases hok : report.ok with
        | false =>
          simp only [copyBackup, hcopy, hinspect, hok]
          refine (safeEnd_removeTemporary_iff hkept hthere).trans ?_
          simp
        | true =>
          simp only [copyBackup, hcopy, hinspect, hok, if_pos]
          rw [← hcopied]
          cases hexist : artifactsExist destination files with
          | false =>
            have hnothing : ∀ path ∈ artifacts destination, files path = none := by
              simpa [artifactsExist, List.any_eq_false] using hexist
            simp only [Bool.false_eq_true, if_false]
            have hfree : ∀ sidecar ∈ sqliteSidecarPaths destination, copied sidecar = none := by
              intro sidecar hmem
              rw [hkept sidecar (List.mem_cons_of_mem _ hmem)]
              exact hnothing sidecar (List.mem_cons_of_mem _ hmem)
            have hplace : SafeEnd env backup destination files
                (place env destination report none copied) ↔ _ :=
              place_safe_iff hbackup hthere hfree rfl hkept hthere
            exact hplace.trans (by simp)
          | true =>
            simp only [if_pos]
            obtain ⟨hgoes, hrun⟩ | ⟨hstops, error, files', hrun, hleft⟩ :=
              @quarantine_spec env destination copied
            · rw [hrun]
              refine (place_quarantined_safe_iff hfresh hdatabase hsidecars hbackup hthere
                hothers).trans ?_
              have hmoves := (quarantineGoes_congr hkept).1 hgoes
              simp [hmoves]
            · rw [hrun]
              refine iff_of_false (not_safeEnd_of_copy (hleft.trans hthere.copy)) fun h => ?_
              exact hstops ((quarantineGoes_congr hkept).2 (h.2 trivial trivial))

/-- An environment in which one step is refused. -/
def refusing (refused : Option RecoveryStep) : RecoveryEnvironment where
  fails step := if some step = refused then some ⟨"access denied".toList⟩ else none
  torn := none
  cannotOpen := ⟨"unable to open database file".toList⟩
  inspect _ _ := .ok ⟨true, [], 1, 0, 0⟩
  leaves _ _ := none
  restoreId := "1".toList
  quarantineId := "2".toList

theorem refusing_other {refused : Option RecoveryStep} {step : RecoveryStep}
    (h : some step ≠ refused) : (refusing refused).fails step = none :=
  if_neg h

def memoryDatabase : FilePath := ["memory.sqlite".toList]

def memoryBackup : FilePath := ["backup.sqlite".toList]

/-- A database with a write-ahead log, and a backup. -/
def openDatabase : Files FilePath Bytes := fun path =>
  if path = memoryDatabase then some [1]
  else if path = pushed memoryDatabase "-wal" then some [2]
  else if path = memoryBackup then some [3]
  else none

theorem openDatabase_fresh (refused : Option RecoveryStep) :
    FreshNames (refusing refused) memoryDatabase openDatabase := by
  constructor
  · have hnames : temporaryFiles (refusing refused) memoryDatabase =
        temporaryFiles (refusing none) memoryDatabase := rfl
    rw [hnames]
    decide +kernel
  · intro name
    have hdeep : ∀ path : FilePath, path.length = 1 →
        quarantineDirectory (refusing refused) memoryDatabase ++ [name] ≠ path := by
      rintro path hsingle rfl
      simp [quarantineDirectory] at hsingle
    rw [openDatabase, if_neg (hdeep _ rfl), if_neg (hdeep _ rfl), if_neg (hdeep _ rfl)]

/-- A recovery in which the last rename is refused. -/
theorem recovery_safe_iff_place :
    RecoverySafe (refusing (some .place)) memoryBackup memoryDatabase true openDatabase ↔
      ∀ content, checkRecovery (refusing (some .place)) memoryBackup memoryDatabase true
          openDatabase = .ok content →
        StepsHold (refusing (some .place)) memoryDatabase content openDatabase :=
  recovery_safe_iff (openDatabase_fresh _) (refusing_other (by decide))
    fun _ _ => refusing_other (by simp)

/-- A recovery that cannot move the write-ahead log leaves the database in quarantine. -/
theorem database_left_in_quarantine :
    ¬ ∀ (env : RecoveryEnvironment) (backup destination : FilePath) (replaceExisting : Bool)
        (files : Files FilePath Bytes), FreshNames env destination files →
      env.fails .restoreDatabase = none →
      (∀ sidecar ∈ sqliteSidecarPaths destination,
        env.fails (.restoreSidecar sidecar) = none) →
      RecoverySafe env backup destination replaceExisting files := by
  intro h
  have hsafe := h (refusing (some (.quarantineSidecar (pushed memoryDatabase "-wal"))))
    memoryBackup memoryDatabase true openDatabase (openDatabase_fresh _) (refusing_other (by simp))
    fun _ _ => refusing_other (by simp)
  have hgone : (recoverDatabase
      (refusing (some (.quarantineSidecar (pushed memoryDatabase "-wal")))) memoryBackup
      memoryDatabase true openDatabase).2 memoryDatabase = none := by
    decide +kernel
  have hbefore : openDatabase memoryDatabase = some [1] := by decide +kernel
  have hbackup : openDatabase memoryBackup = some [3] := by decide +kernel
  rw [RecoverySafe] at hsafe
  generalize recoverDatabase _ memoryBackup memoryDatabase true openDatabase = out at hsafe hgone
  obtain ⟨error | report, files'⟩ := out
  · have hsame := hsafe.1 memoryDatabase List.mem_cons_self
    rw [hbefore] at hsame
    cases hgone.symm.trans hsame
  · have hplaced := hsafe.1
    rw [hbackup] at hplaced
    cases hgone.symm.trans hplaced

end Recovery

end NpcRuntime.Memory
