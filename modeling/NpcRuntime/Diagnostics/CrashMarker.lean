import NpcRuntime.Diagnostics.Recovery
import NpcRuntime.Lib.Machine

/-!
# The crash marker tells the truth

`Held` is what a marker file shows to a reader. A run keeps an account of its own: which session
was the last to begin and was not marked clean, and the last marker written for it. Along every run
the file holds what the account says, so a new session reports it
(`crash_marker_truthful_iff`), as long as no session begins a second time while its own marker is there: that
call replaces the marker first and fails then.
-/

namespace NpcRuntime.Diagnostics

open CrashMarkerStore

/-! ## What a marker file holds -/

inductive Held where
  | nothing
  | marker (marker : CrashMarker)
  | garbage
deriving DecidableEq

variable {marker : CrashMarker}

section Reading

variable (serde : Serde CrashMarker)

def held : Option Bytes → Held
  | none => .nothing
  | some content =>
    if content.length > maxMarkerBytes then .garbage
    else match serde.fromSlice content with
    | none => .garbage
    | some marker => if marker.validate.isOk then .marker marker else .garbage

/-- What `read_current` gives for a file. -/
inductive Reads (faults : Faults) (file : Option Bytes) :
    Except RecoveryError (Option CrashMarker) → Prop
  | refused (kind : IoErrorKind)
      (hfault : ∃ call ∈ [SystemCall.openMarker, .metadata, .readToEnd], faults call = some kind) :
      Reads faults file (.error (.io kind))
  | nothing (hheld : held serde file = .nothing) : Reads faults file (.ok none)
  | marker (marker : CrashMarker) (hheld : held serde file = .marker marker) :
      Reads faults file (.ok (some marker))
  | garbage (error : RecoveryError) (hheld : held serde file = .garbage)
      (herror : error = .invalidMarker ∨ error = .markerTooLarge) : Reads faults file (.error error)

variable {serde}

theorem CrashMarker.validate_cases (marker : CrashMarker) :
    marker.validate = .ok () ∨ marker.validate = .error .invalidMarker := by
  unfold CrashMarker.validate
  split_ifs
  · exact .inr rfl
  · exact .inl rfl

theorem reads_readCurrent (faults : Faults) (file : Option Bytes) :
    Reads serde faults file (readCurrent serde faults file) := by
  unfold readCurrent
  cases hopen : faults .openMarker with
  | some kind => exact .refused kind ⟨_, by simp, hopen⟩
  | none =>
    cases file with
    | none => exact .nothing rfl
    | some content =>
      cases hmetadata : faults .metadata with
      | some kind => exact .refused kind ⟨_, by simp, hmetadata⟩
      | none =>
        by_cases hlarge : content.length > maxMarkerBytes
        · simp only [hlarge, if_true]
          exact .garbage _ (by simp [held, hlarge]) (.inr rfl)
        · simp only [hlarge, if_false]
          cases hread : faults .readToEnd with
          | some kind => exact .refused kind ⟨_, by simp, hread⟩
          | none =>
            have htake : content.take (maxMarkerBytes + 1) = content :=
              List.take_of_length_le (by omega)
            simp only [htake, hlarge, if_false]
            cases hslice : serde.fromSlice content with
            | none => exact .garbage _ (by simp [held, hlarge, hslice]) (.inl rfl)
            | some marker =>
              rcases marker.validate_cases with hvalid | hvalid
              · simp only [hvalid]
                exact .marker marker (by simp [held, hlarge, hslice, hvalid, Except.isOk, Except.toBool])
              · simp only [hvalid]
                exact .garbage _ (by simp [held, hlarge, hslice, hvalid, Except.isOk, Except.toBool])
                  (.inl rfl)

/-- The report about what the file held. -/
def reportOf : Held → PreviousSessionMetadata
  | .nothing => emptyPrevious .noMarker
  | .garbage => emptyPrevious .corruptMarker
  | .marker marker => {
      status := .uncleanExit
      sessionId := some marker.sessionId
      applicationVersion := some marker.applicationVersion
      startedAtUtc := some marker.startedAtUtc
      lastUpdatedAtUtc := some marker.updatedAtUtc
      lastPhase := some marker.phase
      lastEventMonotonicNs := marker.lastEventMonotonicNs
      priorRecoveryAttempt := some marker.recoveryAttempt }

theorem readPrevious_ok {faults : Faults} {file : Option Bytes}
    {previous : PreviousSessionMetadata} (h : readPrevious serde faults file = .ok previous) :
    previous = reportOf (held serde file) := by
  have hreads := @reads_readCurrent serde faults file
  unfold readPrevious at h
  generalize readCurrent serde faults file = read at h hreads
  cases hreads with
  | refused kind hfault => cases h
  | nothing hheld =>
    cases h
    rw [hheld]
    rfl
  | marker marker hheld =>
    cases h
    rw [hheld]
    rfl
  | garbage error hheld herror => rcases herror with rfl | rfl <;> cases h <;> rw [hheld] <;> rfl

/-- A file that nothing keeps from being read has a report. -/
theorem readPrevious_isOk {faults : Faults} (h : ∀ call, faults call = none)
    (file : Option Bytes) : (readPrevious serde faults file).isOk := by
  have hreads := @reads_readCurrent serde faults file
  unfold readPrevious
  generalize readCurrent serde faults file = read at hreads
  cases hreads with
  | refused kind hfault =>
    obtain ⟨call, -, hfault⟩ := hfault
    rw [h] at hfault
    cases hfault
  | nothing hheld => rfl
  | marker marker hheld => rfl
  | garbage error hheld herror => rcases herror with rfl | rfl <;> rfl

theorem valid_of_held {file : Option Bytes} (h : held serde file = .marker marker) :
    marker.validate = .ok () := by
  unfold held at h
  cases file with
  | none => cases h
  | some content =>
    simp only at h
    split_ifs at h with hlarge
    cases hslice : serde.fromSlice content with
    | none =>
      rw [hslice] at h
      cases h
    | some found =>
      rw [hslice] at h
      simp only at h
      split_ifs at h with hvalid
      cases h
      rcases marker.validate_cases with hok | herror
      · exact hok
      · rw [herror] at hvalid
        cases hvalid

theorem held_toVec (hserde : serde.RoundTrips) (hvalid : marker.validate = .ok ())
    (hlength : (serde.toVec marker).length ≤ maxMarkerBytes) :
    held serde (some (serde.toVec marker)) = .marker marker := by
  have hlarge : ¬ (serde.toVec marker).length > maxMarkerBytes := by omega
  simp [held, hlarge, hserde marker, hvalid, Except.isOk, Except.toBool]

end Reading

/-! ## Writing -/

section Writing

variable {serde : Serde CrashMarker} {process : Nat} {faults : Faults}

/-- The system calls that have to go through to replace the marker. -/
def Writable (faults : Faults) : Prop :=
  ∀ call ∈ [SystemCall.createDirAllToWrite, .openTemporary, .writeAll, .syncAll, .rename],
    faults call = none

theorem triple_attempt {pre : Directory → Prop} (call : SystemCall) :
    Triple pre (attempt faults call) (fun _ directory => pre directory ∧ faults call = none) pre := by
  unfold attempt
  cases hfault : faults call with
  | none => exact triple_pure _ fun directory h => ⟨h, rfl⟩
  | some kind => exact triple_throw _ fun directory h => h

/-- A system call that goes through does nothing else. -/
theorem attempt_of_none {call : SystemCall} (h : faults call = none) :
    attempt faults call = pure () := by
  unfold attempt
  rw [h]

theorem triple_replaceFile (hatomic : AtomicRename faults) (file : Option Bytes) (bytes : Bytes) :
    Triple
      (fun directory => directory.marker = file ∧ directory.temporaries.lookup process = some bytes)
      (replaceFile process faults)
      (fun _ directory => directory.marker = some bytes ∧ faults .rename = none)
      (fun directory => directory.marker = file) := by
  unfold replaceFile
  cases hrename : faults .rename with
  | none => exact triple_modify fun directory h => ⟨h.2, rfl⟩
  | some kind =>
    refine triple_get fun directory h => ?_
    by_cases hblocks : kind.blocksReplacement && directory.marker.isSome
    · simp only [hblocks, if_true]
      obtain ⟨kind', hremove⟩ := hatomic kind hrename (Bool.and_eq_true _ _ ▸ hblocks).1
      simp only [attempt, hremove]
      intro directory' hdirectory
      rw [hdirectory]
      exact h.1
    · simp only [hblocks]
      exact triple_throw _ fun directory' hdirectory => hdirectory ▸ h.1

/-- **A write replaces the marker or leaves it.** -/
theorem triple_writeMarker (hatomic : AtomicRename faults) (marker : CrashMarker)
    (file : Option Bytes) :
    Triple (fun directory => directory.marker = file) (writeMarker serde process faults marker)
      (fun _ directory => directory.marker = some (serde.toVec marker) ∧
        (serde.toVec marker).length ≤ maxMarkerBytes ∧ Writable faults)
      (fun directory => directory.marker = file) := by
  unfold writeMarker
  by_cases hlarge : (serde.toVec marker).length > maxMarkerBytes
  · simp only [hlarge, if_true]
    exact triple_throw _ fun directory h => h
  simp only [hlarge, if_false]
  refine triple_bind (triple_attempt .createDirAllToWrite) fun _ => ?_
  refine triple_bind (triple_attempt .openTemporary |>.mono_fails fun _ h => h.1) fun _ => ?_
  refine triple_modify_bind (fun directory => directory.marker = file ∧
    faults .createDirAllToWrite = none ∧ faults .openTemporary = none)
    (fun directory h => ⟨h.1.1, h.1.2, h.2⟩) ?_
  refine triple_bind (triple_attempt .writeAll |>.mono_fails fun _ h => h.1) fun _ => ?_
  refine triple_modify_bind (fun directory =>
    (directory.marker = file ∧ directory.temporaries.lookup process = some (serde.toVec marker)) ∧
      faults .createDirAllToWrite = none ∧ faults .openTemporary = none ∧ faults .writeAll = none)
    (fun directory h => ⟨⟨h.1.1, AList.lookup_insert _⟩, h.1.2.1, h.1.2.2, h.2⟩) ?_
  refine triple_bind (triple_attempt .syncAll |>.mono_fails fun _ h => h.1.1) fun _ => ?_
  intro directory h
  refine (triple_replaceFile hatomic file (serde.toVec marker) directory h.1.1).mono ?_ ?_
  · intro _ directory' hreplaced
    refine ⟨hreplaced.1, by omega, ?_⟩
    simp only [Writable, List.forall_mem_cons, List.not_mem_nil, false_implies, implies_true,
      and_true]
    exact ⟨h.1.2.1, h.1.2.2.1, h.1.2.2.2, h.2, hreplaced.2⟩
  · exact fun directory' hkept => hkept

theorem writeMarker_through (hwritable : Writable faults)
    (hlength : (serde.toVec marker).length ≤ maxMarkerBytes) (directory : Directory) :
    (writeMarker serde process faults marker directory).1 = .ok () := by
  have hlarge : ¬ (serde.toVec marker).length > maxMarkerBytes := by omega
  simp only [Writable, List.forall_mem_cons] at hwritable
  obtain ⟨hcreate, hopen, hwrite, hsync, hrename, -⟩ := hwritable
  unfold writeMarker replaceFile
  simp only [hlarge, if_false, attempt_of_none hcreate, attempt_of_none hopen,
    attempt_of_none hwrite, attempt_of_none hsync, hrename]
  rfl

/-- What `begin_session` reports of a file, for the session of a marker. -/
def metadataOf (marker : CrashMarker) (file : Held) : RecoveryMetadata where
  schemaVersion := "1.0.0".toList
  currentSessionId := marker.sessionId
  previousSession := reportOf file
  suggestedActions := suggestedActions (reportOf file).status

/-- `begin_session` gets as far as replacing the marker. -/
structure Replaces (serde : Serde CrashMarker) (faults : Faults) (marker : CrashMarker)
    (file : Option Bytes) : Prop where
  valid : marker.validate = .ok ()
  created : faults .createDirAll = none
  read : (readPrevious serde faults file).isOk
  fits : (serde.toVec marker).length ≤ maxMarkerBytes
  writable : Writable faults

theorem triple_liftExcept {α : Type} {pre : Directory → Prop} (x : Except RecoveryError α) :
    Triple pre (liftExcept x : Store α) (fun a directory => pre directory ∧ x = .ok a) pre := by
  cases x with
  | ok a => exact triple_pure _ fun directory h => ⟨h, rfl⟩
  | error error => exact triple_throw _ fun directory h => h

/-- **What `begin_session` does**: it fails and leaves the file, or it replaces the marker and
answers what the check of its own report says. -/
theorem triple_beginSession (hatomic : AtomicRename faults) (marker : CrashMarker)
    (file : Option Bytes) :
    Triple (fun directory => directory.marker = file) (beginSession serde process faults marker)
      (fun recovery directory => directory.marker = some (serde.toVec marker) ∧
        Replaces serde faults marker file ∧ recovery = metadataOf marker (held serde file) ∧
        recovery.validate = .ok ())
      (fun directory => directory.marker = file ∨
        directory.marker = some (serde.toVec marker) ∧ Replaces serde faults marker file ∧
          (metadataOf marker (held serde file)).validate ≠ .ok ()) := by
  refine triple_bind (triple_liftExcept marker.validate |>.mono_fails fun _ h => .inl h) fun _ => ?_
  refine triple_bind (triple_attempt .createDirAll |>.mono_fails fun _ h => .inl h.1) fun _ => ?_
  refine triple_get fun directory hdirectory => ?_
  obtain ⟨⟨hfile, hvalid⟩, hcreated⟩ := hdirectory
  rw [hfile]
  refine triple_bind (triple_liftExcept (readPrevious serde faults file) |>.mono_fails
    fun directory' h => .inl (h ▸ hfile)) fun previous => ?_
  intro directory' hdirectory
  obtain ⟨rfl, hread⟩ := hdirectory
  obtain rfl := readPrevious_ok hread
  refine triple_bind ((triple_writeMarker hatomic marker file).mono_fails fun _ h => .inl h)
    (fun _ => ?_) directory' hfile
  have hok : (readPrevious serde faults file).isOk := by
    rw [hread]
    rfl
  have hreplaces : (serde.toVec marker).length ≤ maxMarkerBytes ∧ Writable faults →
      Replaces serde faults marker file := fun h => ⟨hvalid, hcreated, hok, h.1, h.2⟩
  show Triple _ (liftExcept (metadataOf marker (held serde file)).validate >>= fun _ =>
    pure (metadataOf marker (held serde file))) _ _
  cases hmetadata : (metadataOf marker (held serde file)).validate with
  | error error =>
    exact triple_throw _ fun directory h => .inr ⟨h.1, hreplaces h.2, by simp⟩
  | ok _ => exact triple_pure _ fun directory h => ⟨h.1, hreplaces h.2, rfl, hmetadata⟩

theorem beginSession_through (hatomic : AtomicRename faults) {marker : CrashMarker}
    {directory : Directory} (h : Replaces serde faults marker directory.marker) :
    (beginSession serde process faults marker directory).1 =
        ((metadataOf marker (held serde directory.marker)).validate.map
          fun _ => metadataOf marker (held serde directory.marker)) ∧
      (beginSession serde process faults marker directory).2.marker =
        some (serde.toVec marker) := by
  have hread : readPrevious serde faults directory.marker =
      .ok (reportOf (held serde directory.marker)) := by
    have hok := h.read
    cases hprevious : readPrevious serde faults directory.marker with
    | ok previous => rw [readPrevious_ok hprevious]
    | error error =>
      rw [hprevious] at hok
      cases hok
  obtain ⟨directory', hwrite⟩ : ∃ directory',
      writeMarker serde process faults marker directory = (.ok (), directory') :=
    ⟨_, Prod.ext (writeMarker_through h.writable h.fits directory) rfl⟩
  have hfile := ((triple_writeMarker hatomic marker directory.marker).ok rfl hwrite).1
  have hbegin : beginSession serde process faults marker directory =
      (liftExcept (metadataOf marker (held serde directory.marker)).validate >>= fun _ =>
        pure (metadataOf marker (held serde directory.marker)) : Store RecoveryMetadata)
        directory' := by
    unfold beginSession
    rw [call_bind_liftExcept h.valid, attempt_of_none h.created,
      call_bind_of_ok (show (pure () : Store Unit) directory = (.ok (), directory) from rfl),
      call_bind_of_ok (show (get : Store Directory) directory = (.ok directory, directory) from rfl),
      call_bind_liftExcept hread, call_bind_of_ok hwrite]
    rfl
  rw [hbegin]
  cases (metadataOf marker (held serde directory.marker)).validate with
  | ok _ => exact ⟨rfl, hfile⟩
  | error _ => exact ⟨rfl, hfile⟩

theorem triple_updatePhase (hatomic : AtomicRename faults) (sessionId : Text)
    (phase : RecoveryPhase) (updatedAtUtc : Text) (lastEventMonotonicNs : Option UInt64)
    (file : Option Bytes) :
    Triple (fun directory => directory.marker = file)
      (updatePhase serde process faults sessionId phase updatedAtUtc lastEventMonotonicNs)
      (fun _ directory => ∃ marker : CrashMarker, held serde file = .marker marker ∧
        marker.sessionId = sessionId ∧
        let marker := { marker with phase, updatedAtUtc, lastEventMonotonicNs }
        marker.validate = .ok () ∧ (serde.toVec marker).length ≤ maxMarkerBytes ∧
          directory.marker = some (serde.toVec marker))
      (fun directory => directory.marker = file) := by
  refine triple_get fun directory hdirectory => ?_
  rw [hdirectory]
  have hreads := @reads_readCurrent serde faults file
  refine triple_bind (triple_liftExcept _ |>.mono_fails fun directory' h => h ▸ hdirectory)
    fun read => ?_
  intro directory' h
  obtain ⟨rfl, hread⟩ := h
  rw [hread] at hreads
  cases hreads with
  | nothing hheld => exact hdirectory
  | marker marker hheld =>
    dsimp only
    by_cases hsession : marker.sessionId ≠ sessionId
    · rw [if_pos hsession]
      exact hdirectory
    rw [if_neg hsession]
    refine triple_bind (triple_liftExcept _) (fun _ => ?_) directory' hdirectory
    intro directory'' h
    refine (triple_writeMarker hatomic _ file directory'' h.1).mono ?_ fun _ h => h
    intro _ written hwritten
    exact ⟨marker, hheld, not_not.1 hsession, h.2, hwritten.2.1, hwritten.1⟩

theorem triple_markCleanExit (sessionId : Text) (file : Option Bytes) :
    Triple (fun directory => directory.marker = file) (markCleanExit serde faults sessionId)
      (fun _ directory => held serde file = .nothing ∧ directory.marker = file ∨
        ∃ marker, held serde file = .marker marker ∧ marker.sessionId = sessionId ∧
          directory.marker = none)
      (fun directory => directory.marker = file) := by
  refine triple_get fun directory hdirectory => ?_
  rw [hdirectory]
  have hreads := @reads_readCurrent serde faults file
  refine triple_bind (triple_liftExcept _ |>.mono_fails fun directory' h => h ▸ hdirectory)
    fun read => ?_
  intro directory' h
  obtain ⟨rfl, hread⟩ := h
  rw [hread] at hreads
  cases hreads with
  | nothing hheld => exact .inl ⟨hheld, hdirectory⟩
  | marker marker hheld =>
    dsimp only
    by_cases hsession : marker.sessionId ≠ sessionId
    · rw [if_pos hsession]
      exact hdirectory
    rw [if_neg hsession]
    refine triple_bind (triple_attempt .removeFile |>.mono_fails fun _ h => h) (fun _ => ?_)
      directory' hdirectory
    exact triple_modify fun directory h => .inr ⟨marker, hheld, not_not.1 hsession, rfl⟩

end Writing

/-! ## Reports -/

theorem CrashMarker.validate_ok (h : marker.validate = .ok ()) :
    isIdentifier marker.sessionId 128 ∧ isIdentifier marker.applicationVersion 64 ∧
      validTimestamp marker.startedAtUtc ∧ validTimestamp marker.updatedAtUtc ∧
      marker.recoveryAttempt ≤ 100 := by
  unfold CrashMarker.validate at h
  split_ifs at h with hwrong
  simp [and_assoc] at hwrong
  exact hwrong.2

/-- Every action that is suggested passes its own check. -/
theorem suggestedActions_valid (status : PreviousExitStatus) :
    (suggestedActions status).length ≤ maxSuggestedActions ∧
      ∀ action ∈ suggestedActions status, action.validate.isOk := by
  cases status <;> decide +kernel

variable {file : Held}

/-- **A report passes its check unless the marker belongs to the session itself.** -/
theorem validate_metadataOf (hvalid : marker.validate = .ok ())
    (hfile : ∀ found, file = .marker found → found.validate = .ok ()) :
    (metadataOf marker file).validate = .ok () ↔
      ∀ found, file = .marker found → found.sessionId ≠ marker.sessionId := by
  have hactions := suggestedActions_valid (reportOf file).status
  have hidentifier := (CrashMarker.validate_ok hvalid).1
  have hshape : ¬ ((metadataOf marker file).schemaVersion ≠ "1.0.0".toList ||
      !isIdentifier (metadataOf marker file).currentSessionId 128 ||
      (metadataOf marker file).suggestedActions.length > maxSuggestedActions ||
      (metadataOf marker file).suggestedActions.any fun action => !action.validate.isOk) := by
    simp only [metadataOf, hidentifier]
    simpa using hactions
  unfold RecoveryMetadata.validate
  simp only [hshape]
  cases file with
  | nothing => simp [metadataOf, reportOf, emptyPrevious, PreviousSessionMetadata.detailsAbsent]
  | garbage => simp [metadataOf, reportOf, emptyPrevious, PreviousSessionMetadata.detailsAbsent]
  | marker found =>
    obtain ⟨hsession, hversion, hstarted, hupdated, hattempt⟩ :=
      CrashMarker.validate_ok (hfile found rfl)
    simp [metadataOf, reportOf, hsession, hversion, hstarted, hupdated, hattempt]

/-! ## Runs -/

inductive StoreOperation where
  | beginSession (marker : CrashMarker)
  | updatePhase (sessionId : Text) (phase : RecoveryPhase) (updatedAtUtc : Text)
      (lastEventMonotonicNs : Option UInt64)
  | markCleanExit (sessionId : Text)
  /-- The process ends without another call. -/
  | crash

/-- A call of a process, on a file system that renames atomically. -/
structure StoreCall where
  process : Nat
  faults : Faults
  atomic : AtomicRename faults
  operation : StoreOperation

inductive StoreAnswer where
  | began (result : Except RecoveryError RecoveryMetadata)
  | done (result : Except RecoveryError Unit)
  | crashed

def StoreAnswer.failed : StoreAnswer → Bool
  | .began result => !result.isOk
  | .done result => !result.isOk
  | .crashed => false

def StoreCall.perform (serde : Serde CrashMarker) (call : StoreCall) (directory : Directory) :
    StoreAnswer × Directory :=
  match call.operation with
  | .beginSession marker =>
    let out := beginSession serde call.process call.faults marker directory
    (.began out.1, out.2)
  | .updatePhase sessionId phase updatedAtUtc lastEventMonotonicNs =>
    let out := updatePhase serde call.process call.faults sessionId phase updatedAtUtc
      lastEventMonotonicNs directory
    (.done out.1, out.2)
  | .markCleanExit sessionId =>
    let out := markCleanExit serde call.faults sessionId directory
    (.done out.1, out.2)
  | .crash => (.crashed, directory)

/-- The account of a run: the last session that began, with the last marker written for it, unless
it was marked clean. Before any session, it is what the file held at first. -/
def accountAfter (account : Held) (operation : StoreOperation) : StoreAnswer → Held
  | .began (.ok _) =>
    match operation with
    | .beginSession marker => .marker marker
    | _ => account
  | .done (.ok _) =>
    match operation, account with
    | .updatePhase _ phase updatedAtUtc lastEventMonotonicNs, .marker marker =>
      .marker { marker with phase, updatedAtUtc, lastEventMonotonicNs }
    | .markCleanExit _, _ => .nothing
    | _, _ => account
  | _ => account

structure MarkerWorld where
  directory : Directory
  account : Held

namespace MarkerWorld

variable (serde : Serde CrashMarker)

def initial (directory : Directory) : MarkerWorld := ⟨directory, held serde directory.marker⟩

def step (call : StoreCall) (world : MarkerWorld) : MarkerWorld :=
  let out := call.perform serde world.directory
  ⟨out.2, accountAfter world.account call.operation out.1⟩

/-- The session in whose name a call changes an existing marker. -/
def actsFor : StoreOperation → Option Text
  | .updatePhase sessionId _ _ _ => some sessionId
  | .markCleanExit sessionId => some sessionId
  | _ => none

/-- What the marker promises of a call. -/
structure Truthful (world : MarkerWorld) (call : StoreCall) : Prop where
  /-- A call that fails leaves the marker file as it was. -/
  failed : (call.perform serde world.directory).1.failed →
    (call.perform serde world.directory).2.marker = world.directory.marker
  /-- Only the session that owns the marker updates or removes it. -/
  owned : ∀ sessionId, actsFor call.operation = some sessionId →
    (call.perform serde world.directory).2.marker ≠ world.directory.marker →
    ∃ marker, world.account = .marker marker ∧ marker.sessionId = sessionId
  /-- An unclean exit is reported exactly for a session that began and was not marked clean. -/
  unclean : ∀ recovery, (call.perform serde world.directory).1 = .began (.ok recovery) →
    (recovery.previousSession.status = .uncleanExit ↔ ∃ marker, world.account = .marker marker)
  /-- It is reported with the last marker written. -/
  exactly : ∀ recovery, (call.perform serde world.directory).1 = .began (.ok recovery) →
    ∀ marker, world.account = .marker marker → recovery.previousSession = reportOf (.marker marker)
  /-- No marker is reported exactly if there is no such session. -/
  clean : ∀ recovery, (call.perform serde world.directory).1 = .began (.ok recovery) →
    (recovery.previousSession.status = .noMarker ↔ world.account = .nothing)
  /-- A corrupt marker is reported exactly if a file is there that holds no valid marker, and
  nothing of it is. -/
  corrupt : ∀ recovery, (call.perform serde world.directory).1 = .began (.ok recovery) →
    (recovery.previousSession.status = .corruptMarker ↔
      world.directory.marker.isSome ∧ ∀ marker, held serde world.directory.marker ≠ .marker marker) ∧
    (recovery.previousSession.status = .corruptMarker →
      recovery.previousSession.detailsAbsent)

/-- A session begins while a marker of its own is in the file, and gets as far as replacing it by
another one. -/
def BeginsTwice (world : MarkerWorld) (call : StoreCall) : Prop :=
  ∃ marker found, call.operation = .beginSession marker ∧
    held serde world.directory.marker = .marker found ∧ found.sessionId = marker.sessionId ∧
    Replaces serde call.faults marker world.directory.marker ∧
    world.directory.marker ≠ some (serde.toVec marker)

variable {serde}

/-- The file holds what the account says. -/
def Told (serde : Serde CrashMarker) (world : MarkerWorld) : Prop :=
  held serde world.directory.marker = world.account

theorem status_reportOf_uncleanExit :
    (reportOf file).status = .uncleanExit ↔ ∃ marker, file = .marker marker := by
  cases file <;> simp [reportOf, emptyPrevious]

theorem status_reportOf_noMarker : (reportOf file).status = .noMarker ↔ file = .nothing := by
  cases file <;> simp [reportOf, emptyPrevious]

theorem status_reportOf_corruptMarker :
    (reportOf file).status = .corruptMarker ↔ file = .garbage := by
  cases file <;> simp [reportOf, emptyPrevious]

theorem held_eq_garbage {file : Option Bytes} :
    held serde file = .garbage ↔
      file.isSome ∧ ∀ marker, held serde file ≠ .marker marker := by
  cases file with
  | none => simp [held]
  | some content =>
    simp only [held]
    split_ifs
    · simp
    · cases serde.fromSlice content with
      | none => simp
      | some marker =>
        by_cases hvalid : marker.validate.isOk <;> simp [hvalid]

/-- **Sessions.** What a call does in the directory, kind by kind. -/
inductive Performed (serde : Serde CrashMarker) (world : MarkerWorld) (call : StoreCall) :
    StoreAnswer × Directory → Prop
  | kept (answer : StoreAnswer) (directory : Directory)
      (hfile : directory.marker = world.directory.marker)
      (hanswer : answer.failed ∨ call.operation = .crash ∧ answer = .crashed) :
      Performed serde world call (answer, directory)
  | replacedInVain (marker : CrashMarker) (error : RecoveryError) (directory : Directory)
      (hoperation : call.operation = .beginSession marker)
      (hfile : directory.marker = some (serde.toVec marker))
      (htwice : BeginsTwice serde world call) :
      Performed serde world call (.began (.error error), directory)
  | began (marker : CrashMarker) (directory : Directory)
      (hoperation : call.operation = .beginSession marker)
      (hfile : directory.marker = some (serde.toVec marker))
      (hvalid : marker.validate = .ok ())
      (hfits : (serde.toVec marker).length ≤ maxMarkerBytes)
      (hother : ∀ found, held serde world.directory.marker = .marker found →
        found.sessionId ≠ marker.sessionId) :
      Performed serde world call
        (.began (.ok (metadataOf marker (held serde world.directory.marker))), directory)
  | updated (sessionId : Text) (phase : RecoveryPhase) (updatedAtUtc : Text)
      (lastEventMonotonicNs : Option UInt64) (marker updated : CrashMarker) (directory : Directory)
      (hoperation : call.operation =
        .updatePhase sessionId phase updatedAtUtc lastEventMonotonicNs)
      (hheld : held serde world.directory.marker = .marker marker)
      (howner : marker.sessionId = sessionId)
      (hupdated : updated = { marker with phase, updatedAtUtc, lastEventMonotonicNs })
      (hvalid : updated.validate = .ok ())
      (hfits : (serde.toVec updated).length ≤ maxMarkerBytes)
      (hfile : directory.marker = some (serde.toVec updated)) :
      Performed serde world call (.done (.ok ()), directory)
  | nothingToClean (sessionId : Text) (directory : Directory)
      (hoperation : call.operation = .markCleanExit sessionId)
      (hheld : held serde world.directory.marker = .nothing)
      (hfile : directory.marker = world.directory.marker) :
      Performed serde world call (.done (.ok ()), directory)
  | cleaned (sessionId : Text) (marker : CrashMarker) (directory : Directory)
      (hoperation : call.operation = .markCleanExit sessionId)
      (hheld : held serde world.directory.marker = .marker marker)
      (howner : marker.sessionId = sessionId) (hfile : directory.marker = none) :
      Performed serde world call (.done (.ok ()), directory)

theorem performed (world : MarkerWorld) (call : StoreCall) :
    Performed serde world call (call.perform serde world.directory) := by
  unfold StoreCall.perform
  cases hoperation : call.operation with
  | beginSession marker =>
    have hends := @triple_beginSession serde call.process call.faults call.atomic marker
      world.directory.marker world.directory rfl
    dsimp only
    generalize beginSession serde call.process call.faults marker world.directory = out at hends ⊢
    obtain ⟨error | recovery, directory⟩ := out
    · rcases hends with hkept | ⟨hfile, hreplaces, hrefused⟩
      · exact .kept _ _ hkept (.inl rfl)
      · by_cases hsame : world.directory.marker = some (serde.toVec marker)
        · exact .kept _ _ (hfile.trans hsame.symm) (.inl rfl)
        · refine .replacedInVain marker error directory hoperation hfile ?_
          rw [ne_eq, validate_metadataOf hreplaces.valid fun found => valid_of_held] at hrefused
          push Not at hrefused
          obtain ⟨found, hheld, hsession⟩ := hrefused
          exact ⟨marker, found, hoperation, hheld, hsession, hreplaces, hsame⟩
    · obtain ⟨hfile, hreplaces, rfl, hvalid⟩ := hends
      exact .began marker directory hoperation hfile hreplaces.valid hreplaces.fits
        ((validate_metadataOf hreplaces.valid fun found => valid_of_held).1 hvalid)
  | updatePhase sessionId phase updatedAtUtc lastEventMonotonicNs =>
    have hends := @triple_updatePhase serde call.process call.faults call.atomic
      sessionId phase updatedAtUtc lastEventMonotonicNs world.directory.marker world.directory rfl
    dsimp only
    generalize updatePhase serde call.process call.faults sessionId phase updatedAtUtc
      lastEventMonotonicNs world.directory = out at hends ⊢
    obtain ⟨error | _, directory⟩ := out
    · exact .kept _ _ hends (.inl rfl)
    · obtain ⟨marker, hheld, howner, hvalid, hfits, hfile⟩ := hends
      exact .updated sessionId phase updatedAtUtc lastEventMonotonicNs marker _ directory hoperation
        hheld howner rfl hvalid hfits hfile
  | markCleanExit sessionId =>
    have hends := @triple_markCleanExit serde call.faults sessionId
      world.directory.marker world.directory rfl
    dsimp only
    generalize markCleanExit serde call.faults sessionId world.directory = out at hends ⊢
    obtain ⟨error | _, directory⟩ := out
    · exact .kept _ _ hends (.inl rfl)
    · rcases hends with ⟨hheld, hfile⟩ | ⟨marker, hheld, howner, hfile⟩
      · exact .nothingToClean sessionId directory hoperation hheld hfile
      · exact .cleaned sessionId marker directory hoperation hheld howner hfile
  | crash => exact .kept _ _ rfl (.inr ⟨hoperation, rfl⟩)

theorem told_initial (directory : Directory) : Told serde (initial serde directory) := rfl

/-- The file keeps telling what the account says. -/
theorem told_step (hserde : serde.RoundTrips) {world : MarkerWorld} {call : StoreCall}
    (htold : Told serde world) (honce : ¬ BeginsTwice serde world call) :
    Told serde (step serde call world) := by
  have hperformed := @performed serde world call
  unfold step
  generalize call.perform serde world.directory = out at hperformed ⊢
  unfold Told at htold ⊢
  cases hperformed with
  | kept answer directory hfile hanswer =>
    have haccount : accountAfter world.account call.operation answer = world.account := by
      rcases hanswer with hfailed | ⟨-, rfl⟩
      · cases answer with
        | began result =>
          cases result with
          | ok recovery => cases hfailed
          | error error => rfl
        | done result =>
          cases result with
          | ok _ => cases hfailed
          | error error => rfl
        | crashed => rfl
      · rfl
    simp only [hfile, haccount, htold]
  | replacedInVain marker error directory hoperation hfile htwice => exact absurd htwice honce
  | began marker directory hoperation hfile hvalid hfits hother =>
    simp only [hfile, hoperation, accountAfter, held_toVec hserde hvalid hfits]
  | updated sessionId phase updatedAtUtc lastEventMonotonicNs marker updated directory hoperation
      hheld howner hupdated hvalid hfits hfile =>
    simp only [hfile, hoperation, ← htold, hheld, accountAfter, held_toVec hserde hvalid hfits]
    exact congrArg Held.marker hupdated
  | nothingToClean sessionId directory hoperation hheld hfile =>
    simp only [hfile, hoperation, accountAfter, hheld]
  | cleaned sessionId marker directory hoperation hheld howner hfile =>
    simp only [hfile, hoperation, accountAfter, held]

/-- **One call is truthful exactly if it does not begin a session a second time.** -/
theorem truthful_iff_of_told {world : MarkerWorld} (htold : Told serde world) (call : StoreCall) :
    Truthful serde world call ↔ ¬ BeginsTwice serde world call := by
  have hperformed := @performed serde world call
  constructor
  · rintro htruthful ⟨marker, found, hoperation, hheld, hsession, hreplaces, hother⟩
    have hthrough := @beginSession_through _ call.process _ call.atomic _ _ hreplaces
    have hrefused : (metadataOf marker (held serde world.directory.marker)).validate ≠ .ok () := by
      rw [ne_eq, validate_metadataOf hreplaces.valid fun found => valid_of_held]
      exact fun h => h found hheld hsession
    have hperform : call.perform serde world.directory =
        (.began (beginSession serde call.process call.faults marker world.directory).1,
          (beginSession serde call.process call.faults marker world.directory).2) := by
      unfold StoreCall.perform
      rw [hoperation]
    have hfailed := htruthful.failed
    rw [hperform, hthrough.1, hthrough.2] at hfailed
    refine hother (hfailed ?_).symm
    cases hvalidate : (metadataOf marker (held serde world.directory.marker)).validate with
    | ok _ => exact absurd hvalidate hrefused
    | error error => rfl
  · intro honce
    cases hout : call.perform serde world.directory with
    | mk answer directory =>
      rw [hout] at hperformed
      have hreport : ∀ recovery, answer = .began (.ok recovery) →
          recovery.previousSession = reportOf world.account := by
        rintro recovery rfl
        cases hperformed with
        | kept _ _ hfile hanswer => rcases hanswer with h | ⟨-, h⟩ <;> cases h
        | began marker _ _ _ _ _ _ => rw [← htold]; rfl
      refine ⟨?_, ?_, ?_, ?_, ?_, ?_⟩ <;> rw [hout]
      · intro hfailed
        cases hperformed with
        | kept _ _ hfile hanswer => exact hfile
        | replacedInVain _ _ _ _ _ htwice => exact absurd htwice honce
        | _ => cases hfailed
      · intro sessionId hacts hchanged
        cases hperformed with
        | kept _ _ hfile hanswer => exact absurd hfile hchanged
        | replacedInVain _ _ _ _ _ htwice => exact absurd htwice honce
        | began _ _ hoperation _ _ _ _ =>
          rw [hoperation] at hacts
          cases hacts
        | updated _ _ _ _ marker _ _ hoperation hheld howner _ _ _ _ =>
          rw [hoperation] at hacts
          cases hacts
          exact ⟨marker, htold ▸ hheld, howner⟩
        | nothingToClean _ _ hoperation hheld hfile => exact absurd hfile hchanged
        | cleaned _ marker _ hoperation hheld howner hfile =>
          rw [hoperation] at hacts
          cases hacts
          exact ⟨marker, htold ▸ hheld, howner⟩
      · intro recovery hrecovery
        rw [hreport recovery hrecovery]
        exact status_reportOf_uncleanExit
      · intro recovery hrecovery marker haccount
        rw [hreport recovery hrecovery, haccount]
      · intro recovery hrecovery
        rw [hreport recovery hrecovery]
        exact status_reportOf_noMarker
      · intro recovery hrecovery
        rw [hreport recovery hrecovery]
        refine ⟨?_, ?_⟩
        · rw [status_reportOf_corruptMarker, ← htold]
          exact held_eq_garbage
        · intro hcorrupt
          rw [status_reportOf_corruptMarker.1 hcorrupt]
          rfl

/-- **The crash marker tells the truth along exactly the runs in which no session begins while a
marker of its own is in the file.** -/
theorem crash_marker_truthful_iff (hserde : serde.RoundTrips) (directory : Directory) (calls : List StoreCall) :
    Along (step serde) (Truthful serde) calls (initial serde directory) ↔
      Along (step serde) (fun world call => ¬ BeginsTwice serde world call) calls
        (initial serde directory) :=
  along_congr (Told serde) (fun _ _ htold honce => told_step hserde htold honce)
    (fun _ call htold => truthful_iff_of_told htold call) (told_initial directory)

/-! ### A session that begins twice -/

/-- A marker of one session, and its text. -/
def sessionMarker (startedAtUtc : Text) : CrashMarker where
  schemaVersion := "1.0.0".toList
  sessionId := "session-1".toList
  applicationVersion := "2.0.0".toList
  startedAtUtc := startedAtUtc
  updatedAtUtc := startedAtUtc
  phase := .starting
  lastEventMonotonicNs := none
  recoveryAttempt := 0

theorem sessionId_sessionMarker (t t' : Text) :
    (sessionMarker t).sessionId = (sessionMarker t').sessionId := rfl

def markerTextStart : Text :=
  ("\"schemaVersion\":\"1.0.0\",\"sessionId\":\"session-1\"," ++
    "\"applicationVersion\":\"2.0.0\",\"startedAtUtc\":\"").toList

def markerTextMiddle : Text := "\",\"updatedAtUtc\":\"".toList

def markerTextEnd : Text :=
  "\",\"phase\":\"starting\",\"lastEventMonotonicNs\":null,\"recoveryAttempt\":0\x7d".toList

def sessionMarkerText (startedAtUtc : Text) : Bytes :=
  0x7b :: (ascii markerTextStart ++ (ascii startedAtUtc ++ (ascii markerTextMiddle ++
    (ascii startedAtUtc ++ ascii markerTextEnd))))

theorem length_sessionMarkerText (startedAtUtc : Text) :
    (sessionMarkerText startedAtUtc).length ≤ 200 + 2 * startedAtUtc.length := by
  have hpieces : markerTextStart.length + markerTextMiddle.length + markerTextEnd.length ≤ 199 := by
    decide +kernel
  simp only [sessionMarkerText, ascii, List.length_cons, List.length_append, List.length_map]
  omega

theorem sessionMarkerText_ne {t t' : Text} (hlength : t.length = t'.length)
    (hne : ascii t ≠ ascii t') : sessionMarkerText t ≠ sessionMarkerText t' := by
  intro h
  have hrest := List.append_cancel_left (List.cons.inj h).2
  exact hne (List.append_inj hrest (by simp [ascii, hlength])).1

def tenOClock : Text := "2026-08-30T10:00:00Z".toList

def elevenOClock : Text := "2026-08-30T11:00:00Z".toList

theorem oClock_ne : sessionMarkerText tenOClock ≠ sessionMarkerText elevenOClock :=
  sessionMarkerText_ne (by decide +kernel) (by decide +kernel)

def markerTexts : List (CrashMarker × Bytes) :=
  [(sessionMarker tenOClock, sessionMarkerText tenOClock),
    (sessionMarker elevenOClock, sessionMarkerText elevenOClock)]

instance : Countable CrashMarker := by
  refine Function.Injective.countable (f := fun marker => (marker.schemaVersion, marker.sessionId,
    marker.applicationVersion, marker.startedAtUtc, marker.updatedAtUtc, marker.phase.ctorIdx,
    marker.lastEventMonotonicNs.map UInt64.toNat, marker.recoveryAttempt.toNat)) ?_
  rintro ⟨schema, session, version, started, updated, phase, event, attempt⟩
    ⟨schema', session', version', started', updated', phase', event', attempt'⟩ h
  simp only [Prod.mk.injEq] at h
  obtain ⟨rfl, rfl, rfl, rfl, rfl, hphase, hevent, hattempt⟩ := h
  have hphase : phase = phase' := by cases phase <;> cases phase' <;> first | rfl | cases hphase
  have hevent : event = event' :=
    Option.map_injective (fun _ _ => UInt64.toNat_inj.1) hevent
  rw [hphase, hevent, UInt16.toNat_inj.1 hattempt]

/-- The two markers, written as they are. -/
noncomputable def markerSerde : Serde CrashMarker := Serde.ofTexts markerTexts

theorem markerSerde_roundTrips : markerSerde.RoundTrips := by
  refine Serde.ofTexts_roundTrips ?_ ?_
  · simp [markerTexts, oClock_ne]
  · simp [markerTexts, sessionMarkerText]

theorem sessionMarker_ne : sessionMarker tenOClock ≠ sessionMarker elevenOClock :=
  fun h => absurd (congrArg CrashMarker.startedAtUtc h) (by decide +kernel)

theorem markerSerde_tenOClock :
    markerSerde.toVec (sessionMarker tenOClock) = sessionMarkerText tenOClock := by
  simp [markerSerde, Serde.ofTexts, Serde.textOf, markerTexts]

theorem markerSerde_elevenOClock :
    markerSerde.toVec (sessionMarker elevenOClock) = sessionMarkerText elevenOClock := by
  simp [markerSerde, Serde.ofTexts, Serde.textOf, markerTexts, sessionMarker_ne]

/-- A call on a file system that refuses nothing. -/
def undisturbed (operation : StoreOperation) : StoreCall where
  process := 1
  faults := fun _ => none
  atomic := fun kind h => by cases h
  operation := operation

/-- After a crash a session begins under the id that it had before: the call replaces its marker
and fails. -/
theorem marker_replaced_in_vain :
    ¬ ∀ serde : Serde CrashMarker, serde.RoundTrips → ∀ directory calls,
      Along (step serde) (Truthful serde) calls (initial serde directory) := by
  intro h
  have hvalid : ∀ t ∈ [tenOClock, elevenOClock], (sessionMarker t).validate = .ok () := by
    decide +kernel
  have hfits : ∀ t ∈ [tenOClock, elevenOClock],
      (sessionMarkerText t).length ≤ maxMarkerBytes := by
    intro t ht
    have hlength : t.length = 20 := by
      revert t
      decide +kernel
    have := length_sessionMarkerText t
    rw [hlength] at this
    exact this.trans (by decide)
  have hheld : held markerSerde (some (sessionMarkerText tenOClock)) =
      .marker (sessionMarker tenOClock) := by
    have hlength := hfits tenOClock (by simp)
    rw [← markerSerde_tenOClock] at hlength ⊢
    exact held_toVec markerSerde_roundTrips (hvalid tenOClock (by simp)) hlength
  have htwice : BeginsTwice markerSerde
      (initial markerSerde ⟨some (sessionMarkerText tenOClock), ∅⟩)
      (undisturbed (.beginSession (sessionMarker elevenOClock))) := by
    refine ⟨sessionMarker elevenOClock, sessionMarker tenOClock, rfl, hheld,
      sessionId_sessionMarker _ _, ?_, ?_⟩
    · have hlength := hfits elevenOClock (by simp)
      rw [← markerSerde_elevenOClock] at hlength
      exact ⟨hvalid elevenOClock (by simp), rfl, readPrevious_isOk (fun _ => rfl) _, hlength,
        fun _ _ => rfl⟩
    · rw [markerSerde_elevenOClock]
      exact fun h => oClock_ne (Option.some.inj h)
  have htruthful := h markerSerde markerSerde_roundTrips ⟨some (sessionMarkerText tenOClock), ∅⟩
    [undisturbed (.beginSession (sessionMarker elevenOClock))]
  exact (truthful_iff_of_told (told_initial _) _).1 htruthful.1 htwice

/-- A session that begins and is marked clean. -/
theorem crash_marker_truthful_session :
    Along (step markerSerde) (Truthful markerSerde)
      [undisturbed (.beginSession (sessionMarker tenOClock)),
        undisturbed (.markCleanExit "session-1".toList)] (initial markerSerde ⟨none, ∅⟩) := by
  refine (crash_marker_truthful_iff markerSerde_roundTrips _ _).2 ⟨?_, ?_, trivial⟩
  · rintro ⟨marker, found, -, hheld, -⟩
    cases hheld
  · rintro ⟨marker, found, hoperation, -⟩
    cases hoperation

end MarkerWorld

end NpcRuntime.Diagnostics
