import Mathlib.Algebra.Order.BigOperators.Group.List
import Mathlib.Data.Rat.Denumerable
import Mathlib.Tactic.DeriveCountable
import NpcRuntime.Diagnostics.EventLog
import NpcRuntime.Lib.Machine

/-!
# The event log is bounded and loses only its oldest events

Beside the files runs an account of them: which events this session has appended, and in which file
each of them lies. A rotation moves the files and the account alike, and what falls off is the
oldest file.

Along every run the managed files keep their bounds. What is still there of this session is the end
of what it appended, and a reader gets it behind the records of earlier sessions
(`event_log_keeps_newest`), as long as no event goes behind an unfinished line that spoils it and
the lines that are read are UTF-8.
-/

namespace NpcRuntime.Diagnostics

open Text

/-! ## Files -/

variable {i : Nat}

section Files

variable {config : LocalEventLogConfig} {files : LogFiles}

/-- A managed file that is there is small. -/
def SmallAt (config : LocalEventLogConfig) (files : LogFiles) (i : Nat) : Prop :=
  ∀ content, files i = some content → content.length ≤ config.maxFileBytes

theorem discard_of_small (h : ∀ i ≤ config.maxRotatedFiles, SmallAt config files i) :
    discardOversizedManagedFiles config files = (files, 0) := by
  unfold discardOversizedManagedFiles
  have hindices : ∀ i ∈ List.range (config.maxRotatedFiles + 1), i ≤ config.maxRotatedFiles :=
    fun i hi => by simpa [Nat.lt_succ_iff] using hi
  generalize List.range (config.maxRotatedFiles + 1) = indices at hindices
  induction indices with
  | nil => rfl
  | cons i indices ih =>
    have hfits : ((files i).any fun content => content.length > config.maxFileBytes) = false := by
      cases hfile : files i with
      | none => rfl
      | some content =>
        have := h i (hindices i List.mem_cons_self) content hfile
        simpa using this
    rw [List.foldl_cons, show discardStep config (files, 0) i = (files, 0) from
      if_neg (by rw [hfits]; exact Bool.false_ne_true)]
    exact ih fun j hj => hindices j (List.mem_cons_of_mem _ hj)

/-- A file that is visited is small or gone from then on. -/
theorem smallAt_discard (indices : List Nat) {state : LogFiles × Nat}
    (h : i ∈ indices ∨ SmallAt config state.1 i) :
    SmallAt config (indices.foldl (discardStep config) state).1 i := by
  induction indices generalizing state with
  | nil => exact h.resolve_left (List.not_mem_nil)
  | cons j indices ih =>
    refine ih ?_
    unfold discardStep
    by_cases hlarge : (state.1 j).any fun content => content.length > config.maxFileBytes
    · rw [if_pos hlarge]
      by_cases hij : i = j
      · right
        intro content hcontent
        simp [LogFiles.remove, hij] at hcontent
      · refine h.imp (fun hmem => (List.mem_cons.1 hmem).resolve_left hij) fun hsmall => ?_
        intro content hcontent
        exact hsmall content (by simpa [LogFiles.remove, hij] using hcontent)
    · rw [if_neg hlarge]
      by_cases hij : i = j
      · right
        intro content hcontent
        rw [hij] at hcontent
        rw [hcontent] at hlarge
        simpa using hlarge
      · exact h.imp (fun hmem => (List.mem_cons.1 hmem).resolve_left hij) id

/-- What is left of the managed files is not too large. -/
theorem smallAt_discardOversized (hi : i ≤ config.maxRotatedFiles) :
    SmallAt config (discardOversizedManagedFiles config files).1 i :=
  smallAt_discard _ (.inl (by simpa [Nat.lt_succ_iff] using hi))

theorem rename_apply (files : LogFiles) {source destination : Nat}
    (hfree : files destination = none) (i : Nat) :
    LogFiles.rename files source destination i =
      if i = source then none else if i = destination then files source else files i := by
  unfold LogFiles.rename
  cases hsource : files source with
  | none =>
    show files i = _
    by_cases hi : i = source
    · rw [if_pos hi, hi, hsource]
    · by_cases hi' : i = destination
      · rw [if_neg hi, if_pos hi', hi', hfree]
      · rw [if_neg hi, if_neg hi']
  | some content =>
    simp only [LogFiles.remove, Function.update_apply]

/-- **A rotation** moves every file on by one place; the last one is lost. -/
theorem rotate_apply (files : LogFiles) (retained i : Nat) :
    rotate files retained i =
      if i = 0 then none else if i ≤ retained then files (i - 1) else files i := by
  unfold rotate
  by_cases hretained : retained = 0
  · simp only [hretained, if_true, LogFiles.remove, Function.update_apply]
    by_cases hi : i = 0
    · simp [hi]
    · simp [hi]
  -- after the files `k, …, retained - 1` have moved, file `k` is free
  have hmoved : ∀ n k, k + n = retained → 0 < k → ∀ i,
      ((List.range' k n).reverse.foldl (fun files index => LogFiles.rename files index (index + 1))
        (LogFiles.remove files retained)) i =
        if i = k then none else if k < i ∧ i ≤ retained then files (i - 1) else files i := by
    intro n
    induction n with
    | zero =>
      intro k hk hpos i
      have hk : k = retained := by omega
      simp only [List.range'_zero, List.reverse_nil, List.foldl_nil, LogFiles.remove,
        Function.update_apply, hk]
      have hnot : ¬ (retained < i ∧ i ≤ retained) := by omega
      simp only [hnot, if_false]
    | succ n ih =>
      intro k hk hpos i
      rw [List.range'_succ, List.reverse_cons, List.foldl_append, List.foldl_cons, List.foldl_nil,
        rename_apply _ (by rw [ih (k + 1) (by omega) (by omega), if_pos rfl]),
        ih (k + 1) (by omega) (by omega), ih (k + 1) (by omega) (by omega)]
      by_cases hik : i = k
      · simp [hik]
      · by_cases hik' : i = k + 1
        · subst hik'
          have : k + 1 ≤ retained := by omega
          simp [this]
        · have hiff : (k + 1 < i ∧ i ≤ retained) ↔ (k < i ∧ i ≤ retained) := by omega
          simp only [hik, hik', if_false, hiff]
  have hrest := hmoved (retained - 1) 1 (by omega) (by omega)
  simp only [hretained, if_false]
  rw [rename_apply _ (by rw [hrest, if_pos rfl]), hrest, hrest]
  by_cases hi : i = 0
  · simp [hi]
  · by_cases hi' : i = 1
    · subst hi'
      have : 1 ≤ retained := by omega
      simp [this]
    · have hiff : (1 < i ∧ i ≤ retained) ↔ i ≤ retained := by omega
      simp only [hi, hi', if_false, hiff]

end Files

/-! ## Reading -/

/-- The last entries of a list. -/
def lastEntries {α : Type} (n : Nat) (l : List α) : List α := l.drop (l.length - n)

theorem length_lastEntries {α : Type} (n : Nat) (l : List α) :
    (lastEntries n l).length = min n l.length := by
  simp only [lastEntries, List.length_drop]
  omega

/-- The window moves on by one entry. -/
theorem lastEntries_concat {α : Type} {n : Nat} (hn : n ≠ 0) (l : List α) (a : α) :
    lastEntries n (l ++ [a]) =
      (if (lastEntries n l).length = n then (lastEntries n l).tail else lastEntries n l) ++ [a] := by
  rw [length_lastEntries]
  unfold lastEntries
  by_cases hfull : min n l.length = n
  · have hskip : l.length + 1 - n = l.length - n + 1 := by omega
    rw [if_pos hfull, List.length_append, List.length_singleton, hskip, List.drop_append_of_le_length
      (by omega), List.tail_drop]
  · have hall : l.length - n = 0 := by omega
    have hall' : l.length + 1 - n = 0 := by omega
    rw [if_neg hfull, List.length_append, List.length_singleton, hall, hall']
    rfl

section Reading

open LocalEventLog

variable {serde : Serde StoredDiagnosticEvent} {config : LocalEventLogConfig}

/-- What the lines are to a reader, line by line. -/
def readings (serde : Serde StoredDiagnosticEvent) (config : LocalEventLogConfig)
    (lines : List Bytes) : List (Option StoredDiagnosticEvent) :=
  lines.map (readLine serde config)

theorem readings_append (lines more : List Bytes) :
    readings serde config (lines ++ more) =
      readings serde config lines ++ readings serde config more := List.map_append

/-- What has been read before more lines. -/
def windowOf (maxEvents : Nat) (seen : List (Option StoredDiagnosticEvent)) : Window where
  retained := lastEntries maxEvents (seen.filterMap id)
  skipped := seen.countP (·.isNone)

theorem take_windowOf (maxEvents : Nat) (seen : List (Option StoredDiagnosticEvent)) {line : Bytes}
    (hutf8 : utf8 line) :
    (windowOf maxEvents seen).take serde config maxEvents line =
      .ok (windowOf maxEvents (seen ++ [readLine serde config line])) := by
  unfold Window.take
  rw [if_neg (by simpa using hutf8)]
  cases hline : readLine serde config line with
  | none => simp [windowOf, List.filterMap_append, List.countP_append]
  | some record =>
    by_cases hzero : maxEvents = 0
    · simp [hzero, windowOf, lastEntries, List.filterMap_append, List.countP_append]
    · have hrecords : (seen ++ [some record]).filterMap id = seen.filterMap id ++ [record] := by
        simp [List.filterMap_append]
      simp only [hzero, if_false, windowOf, hrecords, lastEntries_concat hzero, List.countP_append]
      simp

/-- Lines that are UTF-8 are all taken. -/
theorem foldlM_take (maxEvents : Nat) (seen : List (Option StoredDiagnosticEvent))
    {lines : List Bytes} (hutf8 : ∀ line ∈ lines, utf8 line) :
    lines.foldlM (Window.take serde config maxEvents) (windowOf maxEvents seen) =
      .ok (windowOf maxEvents (seen ++ readings serde config lines)) := by
  induction lines generalizing seen with
  | nil => simp [readings, pure, Except.pure]
  | cons line lines ih =>
    rw [List.foldlM_cons, take_windowOf maxEvents seen (hutf8 line List.mem_cons_self)]
    show lines.foldlM _ (windowOf maxEvents (seen ++ [readLine serde config line])) = _
    rw [ih _ fun line' hline' => hutf8 line' (List.mem_cons_of_mem _ hline'), List.append_assoc]
    rfl

/-- What the managed files are to a reader. -/
def contents (serde : Serde StoredDiagnosticEvent) (log : LocalEventLog) :
    List (Option StoredDiagnosticEvent) :=
  log.oldestFirst.flatMap fun index => readings serde log.config (log.fileLines index)

/-- **A reading** of files whose lines are UTF-8 gives the last records and counts the other
lines. -/
theorem readRecent_eq (log : LocalEventLog) {maxEvents : Nat}
    (hmax : maxEvents ≤ maxReadEventsHardLimit)
    (hutf8 : ∀ i ≤ log.config.maxRotatedFiles, ∀ line ∈ log.fileLines i, utf8 line) :
    readRecent serde maxEvents log = .ok {
      events := lastEntries maxEvents ((contents serde log).filterMap id)
      skippedCorruptRecords := (contents serde log).countP (·.isNone) } := by
  have hloop : ∀ (indices : List Nat) (seen : List (Option StoredDiagnosticEvent)),
      (∀ i ∈ indices, i ≤ log.config.maxRotatedFiles) →
      indices.foldlM (fun window index =>
        (log.fileLines index).foldlM (Window.take serde log.config maxEvents) window)
        (windowOf maxEvents seen) =
        .ok (windowOf maxEvents (seen ++ indices.flatMap fun index =>
          readings serde log.config (log.fileLines index))) := by
    intro indices
    induction indices with
    | nil => intro seen _; simp [pure, Except.pure]
    | cons i indices ih =>
      intro seen hindices
      rw [List.foldlM_cons, foldlM_take maxEvents seen (hutf8 i (hindices i List.mem_cons_self))]
      show indices.foldlM _ (windowOf maxEvents
        (seen ++ readings serde log.config (log.fileLines i))) = _
      rw [ih _ fun j hj => hindices j (List.mem_cons_of_mem _ hj), List.append_assoc]
      rfl
  have hindices : ∀ i ∈ log.oldestFirst, i ≤ log.config.maxRotatedFiles := by
    intro i hi
    simpa [oldestFirst, Nat.lt_succ_iff] using hi
  have hwindow := hloop log.oldestFirst [] hindices
  have hempty : windowOf maxEvents [] = ⟨[], 0⟩ := by simp [windowOf, lastEntries]
  rw [hempty] at hwindow
  unfold readRecent
  rw [if_neg (by omega)]
  rw [hwindow]
  rfl

end Reading

/-! ## Appending -/

variable {log : LocalEventLog}

section Appending

open LocalEventLog

variable (tables : UnicodeTables) (serde : Serde StoredDiagnosticEvent)

/-- The record of an event in a log. -/
def recordOf (log : LocalEventLog) (event : DiagnosticEvent) (redactions : List RedactionFinding) :
    StoredDiagnosticEvent where
  schemaVersion := "1.0.0".toList
  sessionId := log.config.sessionId
  sequence := log.nextSequence
  event := event
  redactions := redactions

/-- The bytes that a record takes on disk. -/
def lineOf (record : StoredDiagnosticEvent) : Bytes := serde.toVec record ++ [lineFeed]

/-- A line is within the bounds for one event. -/
def Fits (config : LocalEventLogConfig) (line : Bytes) : Prop :=
  ¬ (line.length > config.maxEventBytes ∨ line.length > maxEventBytesHardLimit ∨
    line.length > config.maxFileBytes)

instance (config : LocalEventLogConfig) (line : Bytes) : Decidable (Fits config line) :=
  inferInstanceAs (Decidable (¬ _))

/-- The record that an `append` of the event writes, if it writes. -/
def recordToWrite (log : LocalEventLog) (event : DiagnosticEvent) : Option StoredDiagnosticEvent :=
  if event.validate.isOk ∧ event.shouldRecord log.verbosity then
    match redactedEvent tables event with
    | .error _ => none
    | .ok (event, redactions) =>
      let record := recordOf log event redactions
      if Fits log.config (lineOf serde record) then some record else none
  else none

/-- The managed files of a log are small. -/
def LocalEventLog.Small (log : LocalEventLog) : Prop :=
  ∀ i ≤ log.config.maxRotatedFiles, SmallAt log.config log.files i

/-- **What `append` does.** -/
inductive Appends (log : LocalEventLog) (event : DiagnosticEvent) :
    Except EventStoreError EventWriteReceipt × LocalEventLog → Prop
  | nothing (answer : Except EventStoreError EventWriteReceipt) (pending : Nat)
      (hnone : recordToWrite tables serde log event = none)
      (hanswer : ∀ receipt, answer = .ok receipt → receipt.filteredByVerbosity) :
      Appends log event (answer, { log with pendingDiscardedOversizedFiles := pending })
  | record (record : StoredDiagnosticEvent) (receipt : EventWriteReceipt) (pending : Nat)
      (hrecord : recordToWrite tables serde log event = some record)
      (hfits : Fits log.config (lineOf serde record)) (hsequence : record.sequence = log.nextSequence)
      (hunfiltered : receipt.filteredByVerbosity = false)
      (hrotated : receipt.rotated = log.rotatesFor (lineOf serde record).length) :
      Appends log event (.ok receipt,
        { log with pendingDiscardedOversizedFiles := pending }.write (lineOf serde record))

variable {tables serde}

theorem appends (log : LocalEventLog) (hsmall : log.Small) (event : DiagnosticEvent) :
    Appends tables serde log event (append tables serde event log) := by
  unfold append
  cases hvalid : event.validate with
  | error message =>
    rw [call_bind_liftExcept_error (show (Except.error message : Except String Unit).mapError
      EventStoreError.invalidEvent = .error (.invalidEvent message) from rfl)]
    exact .nothing _ log.pendingDiscardedOversizedFiles
      (by simp [recordToWrite, hvalid, Except.isOk, Except.toBool]) (fun receipt h => by cases h)
  | ok _ =>
    rw [call_bind_liftExcept (show (Except.ok () : Except String Unit).mapError
      EventStoreError.invalidEvent = .ok () from rfl), call_bind_get]
    by_cases hrecord : event.shouldRecord log.verbosity
    · have hguard : event.validate.isOk ∧ event.shouldRecord log.verbosity :=
        ⟨by rw [hvalid]; rfl, hrecord⟩
      rw [if_neg (by simpa using hrecord), call_bind_get, call_bind_get,
        discard_of_small hsmall]
      dsimp only
      rw [call_bind_get, call_bind_modify]
      cases hredacted : redactedEvent tables event with
      | error error =>
        rw [call_bind_liftExcept_error (Eq.refl (Except.error error))]
        exact .nothing _ 0 (by simp only [recordToWrite, if_pos hguard, hredacted])
          (fun receipt h => by cases h)
      | ok redacted =>
        obtain ⟨redactedEvent, redactions⟩ := redacted
        rw [call_bind_liftExcept (Eq.refl (Except.ok (redactedEvent, redactions))), call_bind_get]
        -- the record of the log whose observations have been reported is that of the log
        split
        · rename_i hlarge
          have hfits : ¬ Fits log.config (lineOf serde (recordOf log redactedEvent redactions)) :=
            not_not.2 hlarge
          exact .nothing _ 0 (by simp only [recordToWrite, if_pos hguard, hredacted, if_neg hfits])
            (fun receipt h => by cases h)
        · rename_i hfits
          have hfits : Fits log.config (lineOf serde (recordOf log redactedEvent redactions)) := hfits
          exact .record (recordOf log redactedEvent redactions) _ 0
            (by simp only [recordToWrite, if_pos hguard, hredacted, if_pos hfits]) hfits rfl rfl rfl
    · rw [if_pos (by simpa using hrecord)]
      exact .nothing _ log.pendingDiscardedOversizedFiles
        (by simp [recordToWrite, hrecord]) (fun receipt h => by cases h; rfl)

/-- Where a written line goes. -/
theorem files_write (log : LocalEventLog) (line : Bytes) (hi : i ≤ log.config.maxRotatedFiles) :
    (log.write line).files i =
      if i = 0 then
        some ((if log.rotatesFor line.length then [] else (log.files 0).getD []) ++ line)
      else if log.rotatesFor line.length then log.files (i - 1) else log.files i := by
  unfold LocalEventLog.write
  by_cases hrotates : log.rotatesFor line.length
  · simp only [hrotates, if_true, Function.update_apply, rotate_apply, hi]
    by_cases hzero : i = 0
    · simp [hzero]
    · simp [hzero]
  · simp only [hrotates, Function.update_apply]
    rfl

theorem small_write (hsmall : log.Small) {line : Bytes} (hfits : Fits log.config line) :
    (log.write line).Small := by
  intro i hi content hcontent
  have hi : i ≤ log.config.maxRotatedFiles := hi
  show content.length ≤ log.config.maxFileBytes
  have hline : line.length ≤ log.config.maxFileBytes := by
    simp only [Fits, not_or, not_lt] at hfits
    exact hfits.2.2
  rw [files_write log line hi] at hcontent
  by_cases hzero : i = 0
  · rw [if_pos hzero] at hcontent
    obtain rfl := Option.some.inj hcontent
    by_cases hrotates : log.rotatesFor line.length
    · simpa [hrotates] using hline
    · have hexisting : ((log.files 0).getD []).length = log.existingBytes := by
        unfold LocalEventLog.existingBytes
        cases log.files 0 <;> rfl
      simp only [LocalEventLog.rotatesFor, Bool.and_eq_true, decide_eq_true_eq, not_and,
        not_lt] at hrotates
      simp only [List.length_append]
      split_ifs
      · simpa using hline
      · rw [hexisting]
        by_cases hempty : log.existingBytes = 0
        · omega
        · exact hrotates (by omega)
  · rw [if_neg hzero] at hcontent
    split_ifs at hcontent
    · exact hsmall (i - 1) (by omega) content hcontent
    · exact hsmall i hi content hcontent

theorem fileLines_of_small (hsmall : log.Small) (hi : i ≤ log.config.maxRotatedFiles) :
    log.fileLines i = ((log.files i).map lines).getD [] := by
  unfold LocalEventLog.fileLines
  cases hfile : log.files i with
  | none => rfl
  | some content =>
    have := hsmall i hi content hfile
    show lines (content.take (log.config.maxFileBytes + 1)) = lines content
    rw [List.take_of_length_le (by omega)]

end Appending

/-! ## The account of a session -/

structure LogWorld where
  log : LocalEventLog
  /-- What this session has appended. -/
  appended : List StoredDiagnosticEvent
  /-- Which of it lies in each file. -/
  own : Nat → List StoredDiagnosticEvent

inductive LogOperation where
  | append (event : DiagnosticEvent)
  | setVerbosity (verbosity : DiagnosticVerbosity)
  | readRecent (maxEvents : Nat)

namespace LogWorld

open LocalEventLog

variable (tables : UnicodeTables) (serde : Serde StoredDiagnosticEvent)

/-- A session on a log that has been opened. -/
def opened (log : LocalEventLog) : LogWorld := ⟨log, [], fun _ => []⟩

/-- The account after a record: a rotation moves everything on by one file. -/
def place (own : Nat → List StoredDiagnosticEvent) (rotated : Bool)
    (record : StoredDiagnosticEvent) (i : Nat) : List StoredDiagnosticEvent :=
  if i = 0 then (if rotated then [] else own 0) ++ [record]
  else if rotated then own (i - 1) else own i

/-- The account follows the answer of an `append`. -/
def account (world : LogWorld) (record? : Option StoredDiagnosticEvent)
    (out : Except EventStoreError EventWriteReceipt × LocalEventLog) : LogWorld :=
  match out, record? with
  | (.ok receipt, log), some record =>
    if receipt.filteredByVerbosity then { world with log }
    else ⟨log, world.appended ++ [record], place world.own receipt.rotated record⟩
  | (_, log), _ => { world with log }

def step (operation : LogOperation) (world : LogWorld) : LogWorld :=
  match operation with
  | .append event =>
    account world (recordToWrite tables serde world.log event) (append tables serde event world.log)
  | .setVerbosity verbosity => { world with log := world.log.setVerbosity verbosity }
  | .readRecent _ => world

/-- The events of this session that are still on disk, oldest first. -/
def retained (world : LogWorld) : List StoredDiagnosticEvent :=
  world.log.oldestFirst.flatMap world.own

/-- The size of the managed files together. -/
def diskBytes (log : LocalEventLog) : Nat :=
  (log.oldestFirst.map fun i => ((log.files i).map List.length).getD 0).sum

/-- What the log promises after an operation. -/
structure Keeps (world : LogWorld) (operation : LogOperation) : Prop where
  /-- Every managed file is within its bound. -/
  fileBound : (step tables serde operation world).log.Small
  /-- The managed files together are within theirs. -/
  diskBound : diskBytes (step tables serde operation world).log ≤
    (step tables serde operation world).log.config.maximumDiskBytes
  /-- The events on disk lie where the account has them. -/
  onDisk : ∀ i ≤ world.log.config.maxRotatedFiles,
    (step tables serde operation world).own i ≠ [] →
    ∃ content, (step tables serde operation world).log.files i = some content ∧
      ((step tables serde operation world).own i).flatMap (lineOf serde) <:+ content
  /-- They are the last ones that were appended. -/
  newest : (step tables serde operation world).retained <:+
    (step tables serde operation world).appended
  /-- The sequence numbers are consecutive. -/
  numbered : (step tables serde operation world).appended.map (fun record => record.sequence.toNat) =
    List.range (step tables serde operation world).appended.length
  /-- A reading gives the last records, those of this session at the end, and counts all other
  lines. -/
  read : ∀ maxEvents, operation = .readRecent maxEvents → maxEvents ≤ maxReadEventsHardLimit →
    ∃ others : List StoredDiagnosticEvent,
      (contents serde world.log).filterMap id = others ++ world.retained ∧
      readRecent serde maxEvents world.log = .ok {
        events := lastEntries maxEvents (others ++ world.retained)
        skippedCorruptRecords := (contents serde world.log).countP (·.isNone) }

/-- What an operation meets. An event that is written is one of the first `2 ^ 64`, begins a line of
its own in the active file, and `serde_json` reads what it has written of it, which it does not of
every number. The files that are read are UTF-8. -/
def Meets (world : LogWorld) : LogOperation → Prop
  | .append event =>
    ∀ record, recordToWrite tables serde world.log event = some record →
      world.appended.length < 2 ^ 64 ∧
      (unfinished ((world.log.files 0).getD []) = [] ∨
        world.log.rotatesFor (lineOf serde record).length) ∧
      serde.fromSlice (serde.toVec record) = some record
  | .setVerbosity _ => True
  | .readRecent maxEvents => maxEvents ≤ maxReadEventsHardLimit →
      ∀ i ≤ world.log.config.maxRotatedFiles, ∀ line ∈ world.log.fileLines i, utf8 line

/-- The account agrees with the files. -/
structure Inv (world : LogWorld) : Prop where
  small : world.log.Small
  valid : world.log.config.validate = .ok ()
  next : world.log.nextSequence.toNat = min world.appended.length (2 ^ 64 - 1)
  numbered : world.appended.map (fun record => record.sequence.toNat) =
    List.range world.appended.length
  onDisk : ∀ i ≤ world.log.config.maxRotatedFiles, world.own i ≠ [] →
    ∃ content, world.log.files i = some content ∧
      (world.own i).flatMap (lineOf serde) <:+ content
  newest : world.retained <:+ world.appended
  /-- In every file the events of this session are the last ones, and behind one of them there is
  nothing foreign. -/
  read : ∃ foreign : Nat → List (Option StoredDiagnosticEvent),
    (∀ i ≤ world.log.config.maxRotatedFiles,
      readings serde world.log.config (world.log.fileLines i) =
        foreign i ++ (world.own i).map some) ∧
    ∀ i j, i < j → j ≤ world.log.config.maxRotatedFiles → world.own j ≠ [] → foreign i = []

variable {tables serde}

theorem account_none (world : LogWorld)
    (out : Except EventStoreError EventWriteReceipt × LocalEventLog) :
    account world none out = { world with log := out.2 } := by
  obtain ⟨_ | _, log⟩ := out <;> rfl

variable {world : LogWorld} {record : StoredDiagnosticEvent}

theorem account_some {receipt : EventWriteReceipt}
    (hunfiltered : receipt.filteredByVerbosity = false) :
    account world (some record) (.ok receipt, log) =
      ⟨log, world.appended ++ [record], place world.own receipt.rotated record⟩ := by
  simp [account, hunfiltered]

theorem inv_opened {config : LocalEventLogConfig} {files : LogFiles}
    (h : LocalEventLog.new config files = .ok log) : Inv serde (opened log) := by
  unfold LocalEventLog.new at h
  rw [bind_eq_ok] at h
  obtain ⟨_, hvalid, h⟩ := h
  cases h
  refine ⟨fun i hi => smallAt_discardOversized hi, hvalid, rfl, rfl,
    fun i _ h => absurd rfl h, ?_, ?_⟩
  · simp [retained, opened]
  · exact ⟨_, fun i _ => (List.append_nil _).symm, fun i j _ _ h => absurd rfl h⟩

/-- A session's events behind foreign ones, file by file, are so together. -/
theorem flatMap_behind {α β : Type} {l : List α} {foreign own : α → List β}
    (h : l.Pairwise fun earlier later => own earlier ≠ [] → foreign later = []) :
    l.flatMap (fun a => foreign a ++ own a) = l.flatMap foreign ++ l.flatMap own := by
  induction l with
  | nil => rfl
  | cons a l ih =>
    obtain ⟨ha, hl⟩ := List.pairwise_cons.1 h
    simp only [List.flatMap_cons, ih hl]
    by_cases hown : own a = []
    · simp [hown]
    · have hlater : l.flatMap foreign = [] := by
        rw [List.flatMap_eq_nil_iff]
        exact fun later hmem => ha later hmem hown
      simp [hlater]

theorem pairwise_oldestFirst (log : LocalEventLog) :
    log.oldestFirst.Pairwise fun earlier later => later < earlier ∧
      earlier ≤ log.config.maxRotatedFiles := by
  unfold oldestFirst
  rw [List.pairwise_reverse]
  refine List.Pairwise.imp_of_mem ?_ List.pairwise_lt_range
  intro i j _ hj hij
  exact ⟨hij, by simpa [Nat.lt_succ_iff] using hj⟩

/-- To a reader of all files, the events that are left come last. -/
theorem Inv.contents_eq (h : Inv serde world) :
    ∃ others, contents serde world.log = others ++ world.retained.map some := by
  obtain ⟨foreign, hforeign, hbehind⟩ := h.read
  refine ⟨world.log.oldestFirst.flatMap foreign, ?_⟩
  have hfiles : contents serde world.log = world.log.oldestFirst.flatMap fun i =>
      foreign i ++ (world.own i).map some := by
    refine List.flatMap_congr fun i hi => hforeign i ?_
    simpa [oldestFirst, Nat.lt_succ_iff] using hi
  rw [hfiles, flatMap_behind]
  · rw [retained, List.map_flatMap]
  · refine (pairwise_oldestFirst world.log).imp fun {earlier later} horder hown => ?_
    exact hbehind later earlier horder.1 horder.2 fun h => hown (by rw [h]; rfl)

/-- The events on disk after a record. -/
theorem retained_place (log : LocalEventLog) (own : Nat → List StoredDiagnosticEvent)
    (rotated : Bool) (record : StoredDiagnosticEvent) :
    ∃ kept, kept <:+ log.oldestFirst.flatMap own ∧
      log.oldestFirst.flatMap (place own rotated record) = kept ++ [record] := by
  have hplace : log.oldestFirst.flatMap (place own rotated record) =
      (List.range log.config.maxRotatedFiles).reverse.flatMap
        (fun i => place own rotated record (i + 1)) ++ place own rotated record 0 := by
    rw [oldestFirst, List.range_succ_eq_map, List.reverse_cons, List.flatMap_append,
      ← List.map_reverse, List.flatMap_map]
    simp
  cases rotated with
  | true =>
    refine ⟨(List.range log.config.maxRotatedFiles).reverse.flatMap own, ?_, ?_⟩
    · rw [oldestFirst, List.range_succ, List.reverse_append, List.reverse_singleton,
        List.singleton_append, List.flatMap_cons]
      exact List.suffix_append _ _
    · rw [hplace]
      simp [place]
  | false =>
    refine ⟨log.oldestFirst.flatMap own, List.suffix_refl _, ?_⟩
    rw [hplace, oldestFirst, List.range_succ_eq_map, List.reverse_cons, List.flatMap_append,
      ← List.map_reverse, List.flatMap_map]
    simp [place]

/-- The lines behind a record that begins a line of its own. -/
theorem fileLines_write (hsmall : log.Small) (hline : lineFeed ∉ serde.toVec record)
    (hreturn : stripReturn (serde.toVec record) = serde.toVec record)
    (hfits : Fits log.config (lineOf serde record))
    (hbegins : unfinished ((log.files 0).getD []) = [] ∨
      log.rotatesFor (lineOf serde record).length) (hi : i ≤ log.config.maxRotatedFiles) :
    (log.write (lineOf serde record)).fileLines i =
      if i = 0 then
        (if log.rotatesFor (lineOf serde record).length then [] else log.fileLines 0) ++
          [serde.toVec record]
      else if log.rotatesFor (lineOf serde record).length then log.fileLines (i - 1)
      else log.fileLines i := by
  rw [fileLines_of_small (small_write hsmall hfits) hi, files_write log _ hi]
  by_cases hrotates : log.rotatesFor (lineOf serde record).length
  · simp only [hrotates, if_true]
    by_cases hzero : i = 0
    · simp only [hzero, if_true, Option.map_some, Option.getD_some]
      rw [lineOf, lines_append_line _ hline]
      show [stripReturn (serde.toVec record)] = _
      rw [hreturn]
      rfl
    · simp only [hzero, if_false]
      rw [fileLines_of_small hsmall (by omega)]
  · have hfinished := hbegins.resolve_right hrotates
    by_cases hzero : i = 0
    · simp only [hzero, hrotates, if_true, Bool.false_eq_true, if_false, Option.map_some,
        Option.getD_some]
      rw [lineOf, lines_append_line _ hline, hfinished, List.nil_append, hreturn,
        fileLines_of_small hsmall (Nat.zero_le _), ← lines_of_unfinished_eq_nil hfinished]
      cases log.files 0 <;> rfl
    · simp only [hzero, hrotates, Bool.false_eq_true, if_false]
      exact (fileLines_of_small hsmall hi).symm

/-- The readings after a record. -/
theorem Inv.read_write (h : Inv serde world)
    (hfileLines : ∀ i ≤ world.log.config.maxRotatedFiles,
      (world.log.write (lineOf serde record)).fileLines i =
        if i = 0 then
          (if world.log.rotatesFor (lineOf serde record).length then [] else world.log.fileLines 0) ++
            [serde.toVec record]
        else if world.log.rotatesFor (lineOf serde record).length then world.log.fileLines (i - 1)
        else world.log.fileLines i)
    (hread : readLine serde world.log.config (serde.toVec record) = some record) :
    ∃ foreign : Nat → List (Option StoredDiagnosticEvent),
      (∀ i ≤ world.log.config.maxRotatedFiles,
        readings serde world.log.config ((world.log.write (lineOf serde record)).fileLines i) =
          foreign i ++ (place world.own
            (world.log.rotatesFor (lineOf serde record).length) record i).map some) ∧
      ∀ i j, i < j → j ≤ world.log.config.maxRotatedFiles →
        place world.own (world.log.rotatesFor (lineOf serde record).length) record j ≠ [] →
        foreign i = [] := by
  obtain ⟨foreign, hforeign, hbehind⟩ := h.read
  have hlast : readings serde world.log.config [serde.toVec record] = [some record] := by
    simp only [readings, List.map_cons, List.map_nil, hread]
  by_cases hrotates : world.log.rotatesFor (lineOf serde record).length
  · -- the active file is new, and the others have moved on
    simp only [hrotates, if_true] at hfileLines ⊢
    refine ⟨fun i => if i = 0 then [] else foreign (i - 1), fun i hi => ?_, fun i j hij hj hown => ?_⟩
    · rw [hfileLines i hi]
      by_cases hzero : i = 0
      · simp only [hzero, if_true, place, List.nil_append, hlast]
        rfl
      · simp only [hzero, if_false, if_true, place]
        exact hforeign (i - 1) (by omega)
    · have hj' : j ≠ 0 := by omega
      simp only [place, hj', if_false, if_true] at hown
      by_cases hzero : i = 0
      · simp [hzero]
      · simp only [hzero, if_false]
        exact hbehind (i - 1) (j - 1) (by omega) (by omega) hown
  · simp only [hrotates, Bool.false_eq_true, if_false] at hfileLines ⊢
    refine ⟨foreign, fun i hi => ?_, fun i j hij hj hown => ?_⟩
    · rw [hfileLines i hi]
      by_cases hzero : i = 0
      · subst hzero
        simp only [if_true, place, readings_append, hforeign 0 hi, hlast, Bool.false_eq_true,
          if_false, List.map_append, List.append_assoc]
        rfl
      · simp only [hzero, if_false, place]
        exact hforeign i hi
    · have hj' : j ≠ 0 := by omega
      simp only [place, hj', if_false] at hown
      exact hbehind i j hij hj hown

/-- **A record that is written**, and reads back. -/
theorem Inv.write (hline : lineFeed ∉ serde.toVec record)
    (hreturn : stripReturn (serde.toVec record) = serde.toVec record) (h : Inv serde world)
    (hfits : Fits world.log.config (lineOf serde record))
    (hsequence : record.sequence = world.log.nextSequence) (hcount : world.appended.length < 2 ^ 64)
    (hbegins : unfinished ((world.log.files 0).getD []) = [] ∨
      world.log.rotatesFor (lineOf serde record).length)
    (hread : readLine serde world.log.config (serde.toVec record) = some record) :
    Inv serde ⟨world.log.write (lineOf serde record), world.appended ++ [record],
      place world.own (world.log.rotatesFor (lineOf serde record).length) record⟩ := by
  obtain ⟨kept, hkept, hretained⟩ := retained_place world.log world.own
    (world.log.rotatesFor (lineOf serde record).length) record
  have hnumber : record.sequence.toNat = world.appended.length := by
    rw [hsequence, h.next]
    omega
  have hsmall := small_write h.small hfits
  refine ⟨hsmall, h.valid, ?_, ?_, fun i hi hown => ?_, ?_, ?_⟩
  · have hnext := h.next
    show (if world.log.nextSequence = -1 then world.log.nextSequence
      else world.log.nextSequence + 1).toNat = _
    rw [List.length_append, List.length_singleton]
    by_cases hlast : world.log.nextSequence = -1
    · rw [if_pos hlast]
      rw [hlast] at hnext ⊢
      have : (-1 : UInt64).toNat = 2 ^ 64 - 1 := rfl
      omega
    · rw [if_neg hlast, UInt64.toNat_add]
      have hne : world.log.nextSequence.toNat ≠ 2 ^ 64 - 1 :=
        fun heq => hlast (UInt64.toNat_inj.1 heq)
      have hone : (1 : UInt64).toNat = 1 := rfl
      rw [hone]
      omega
  · rw [List.map_append, h.numbered, List.length_append, List.length_singleton, List.range_succ]
    simp [hnumber]
  · have hfile := files_write world.log (lineOf serde record) hi
    by_cases hzero : i = 0
    · subst hzero
      rw [if_pos rfl] at hfile
      refine ⟨_, hfile, ?_⟩
      simp only [place, if_true, List.flatMap_append, List.flatMap_singleton]
      by_cases hrotates : world.log.rotatesFor (lineOf serde record).length
      · simp [hrotates]
      · simp only [hrotates]
        by_cases hempty : world.own 0 = []
        · simp [hempty]
        · obtain ⟨content, hcontent, before, hbefore⟩ := h.onDisk 0 (Nat.zero_le _) hempty
          exact ⟨before, by simp [hcontent, ← hbefore]⟩
    · rw [if_neg hzero] at hfile
      simp only [place, hzero, if_false] at hown ⊢
      rw [hfile]
      by_cases hrotates : world.log.rotatesFor (lineOf serde record).length
      · simp only [hrotates, if_true] at hown ⊢
        exact h.onDisk (i - 1) ((Nat.sub_le i 1).trans hi) hown
      · simp only [hrotates] at hown ⊢
        exact h.onDisk i hi hown
  · show world.log.oldestFirst.flatMap _ <:+ _
    rw [hretained]
    obtain ⟨before, hbefore⟩ := hkept.trans h.newest
    exact ⟨before, by rw [← List.append_assoc, hbefore]⟩
  · exact h.read_write (fun i hi => fileLines_write h.small hline hreturn hfits hbegins hi) hread

/-- A record that reads back passes every check of a reader. -/
theorem Inv.readLine_record (h : Inv serde world) {event : DiagnosticEvent}
    (hrecord : recordToWrite tables serde world.log event = some record)
    (hback : serde.fromSlice (serde.toVec record) = some record) :
    readLine serde world.log.config (serde.toVec record) = some record := by
  unfold recordToWrite at hrecord
  split_ifs at hrecord
  cases hredacted : redactedEvent tables event with
  | error error => simp [hredacted] at hrecord
  | ok redacted =>
    simp only [hredacted] at hrecord
    split_ifs at hrecord with hfits
    obtain rfl := Option.some.inj hrecord
    have hlength : (serde.toVec (recordOf world.log redacted.1 redacted.2)).length ≤
        world.log.config.maxEventBytes := by
      simp only [Fits, lineOf, List.length_append, List.length_singleton, not_or, not_lt] at hfits
      omega
    have hsession : isIdentifier world.log.config.sessionId 128 := by
      have hvalid := h.valid
      unfold LocalEventLogConfig.validate at hvalid
      split_ifs at hvalid with hbounds hmore
      simp only [not_or, not_not] at hbounds
      exact hbounds.1
    have hvalidated : redacted.1.validate.isOk := by
      unfold redactedEvent at hredacted
      rw [bind_eq_ok] at hredacted
      obtain ⟨stored, -, hredacted⟩ := hredacted
      rw [bind_eq_ok] at hredacted
      obtain ⟨_, hvalidate, hredacted⟩ := hredacted
      cases hredacted
      cases hvalidates : stored.validate with
      | error message => simp [hvalidates, Except.mapError] at hvalidate
      | ok _ => rfl
    rw [readLine, if_neg (by omega), hback]
    simp [recordOf, hsession, hvalidated, Option.filter]

/-- What is observed beside the files does not matter. -/
theorem Inv.with_log (h : Inv serde world) (pending : Nat) (verbosity : UInt8) :
    Inv serde { world with log := { world.log with
      pendingDiscardedOversizedFiles := pending, atomicVerbosity := verbosity } } :=
  ⟨h.small, h.valid, h.next, h.numbered, h.onDisk, h.newest, h.read⟩

/-- **The account goes on agreeing with the files.** -/
theorem Inv.step (hline : ∀ record, lineFeed ∉ serde.toVec record)
    (hreturn : ∀ record, stripReturn (serde.toVec record) = serde.toVec record) {world : LogWorld}
    (h : Inv serde world) {operation : LogOperation} (hmeets : Meets tables serde world operation) :
    Inv serde (step tables serde operation world) := by
  cases operation with
  | setVerbosity verbosity => exact h.with_log _ _
  | readRecent maxEvents => exact h
  | append event =>
    have happends := @appends tables serde world.log h.small event
    show Inv serde (account world _ (append tables serde event world.log))
    generalize append tables serde event world.log = out at happends ⊢
    cases happends with
    | nothing answer pending hnone hanswer =>
      rw [hnone, account_none]
      exact h.with_log pending _
    | record record receipt pending hrecord hfits hsequence hunfiltered hrotated =>
      obtain ⟨hcount, hbegins, hback⟩ := hmeets record hrecord
      have hread := h.readLine_record hrecord hback
      rw [hrecord, account_some hunfiltered, hrotated]
      exact (h.with_log pending world.log.atomicVerbosity).write (hline record) (hreturn record)
        hfits hsequence hcount hbegins hread

/-- Small files are within the bound of the disk. -/
theorem diskBytes_le (hsmall : log.Small) (hvalid : log.config.validate = .ok ()) :
    diskBytes log ≤ log.config.maximumDiskBytes := by
  have hsum : diskBytes log ≤ (log.config.maxRotatedFiles + 1) * log.config.maxFileBytes := by
    refine (List.sum_le_card_nsmul _ log.config.maxFileBytes ?_).trans ?_
    · intro size hsize
      obtain ⟨i, hi, rfl⟩ := List.mem_map.1 hsize
      cases hfile : log.files i with
      | none => exact Nat.zero_le _
      | some content =>
        exact hsmall i (by simpa [oldestFirst, Nat.lt_succ_iff] using hi) content hfile
    · simp [oldestFirst]
  unfold LocalEventLogConfig.validate at hvalid
  split_ifs at hvalid with hbounds hmore
  simp only [not_or, not_lt] at hbounds hmore
  have hlimit : (log.config.maxRotatedFiles + 1) * log.config.maxFileBytes ≤
      (maxRotatedFilesLimit + 1) * maxFileBytesLimit :=
    Nat.mul_le_mul (Nat.succ_le_succ hmore.1) hbounds.2.2
  have hfinite : (maxRotatedFilesLimit + 1) * maxFileBytesLimit ≤ 2 ^ 64 - 1 := by decide
  exact le_min (hsum.trans (Nat.mul_comm _ _).le) (hsum.trans (hlimit.trans hfinite))

theorem Inv.keeps (hline : ∀ record, lineFeed ∉ serde.toVec record)
    (hreturn : ∀ record, stripReturn (serde.toVec record) = serde.toVec record) (h : Inv serde world)
    {operation : LogOperation} (hmeets : Meets tables serde world operation) :
    Keeps tables serde world operation := by
  have hstep := h.step hline hreturn hmeets
  have hconfig : (LogWorld.step tables serde operation world).log.config = world.log.config := by
    cases operation with
    | setVerbosity verbosity => rfl
    | readRecent maxEvents => rfl
    | append event =>
      have happends := @appends tables serde world.log h.small event
      show (account world _ (append tables serde event world.log)).log.config = _
      generalize append tables serde event world.log = out at happends ⊢
      cases happends with
      | nothing answer pending hnone hanswer => rw [hnone, account_none]
      | record record receipt pending hrecord hfits hsequence hunfiltered hrotated =>
        rw [hrecord, account_some hunfiltered]
        rfl
  refine ⟨hstep.small, diskBytes_le hstep.small hstep.valid, fun i hi => hstep.onDisk i (hconfig ▸ hi),
    hstep.newest, hstep.numbered, ?_⟩
  rintro maxEvents rfl hmax
  obtain ⟨others, hothers⟩ := h.contents_eq
  have hrecords : (contents serde world.log).filterMap id =
      others.filterMap id ++ world.retained := by
    rw [hothers, List.filterMap_append, List.filterMap_map]
    simp
  refine ⟨others.filterMap id, hrecords, ?_⟩
  rw [readRecent_eq world.log hmax (hmeets hmax), hrecords]

/-- **The event log keeps its bounds and the newest events, and a reader gets them**, along every run
of operations that meet no line or file that spoils it. -/
theorem event_log_keeps_newest (hline : ∀ record, lineFeed ∉ serde.toVec record)
    (hreturn : ∀ record, stripReturn (serde.toVec record) = serde.toVec record)
    {config : LocalEventLogConfig} {files : LogFiles} {log : LocalEventLog}
    (hnew : LocalEventLog.new config files = .ok log) {operations : List LogOperation}
    (hmeets : Along (LogWorld.step tables serde) (Meets tables serde) operations (opened log)) :
    Along (LogWorld.step tables serde) (Keeps tables serde) operations (opened log) :=
  hmeets.mono_inv (Inv serde) (fun _ _ h hmeets => h.step hline hreturn hmeets)
    (fun _ _ h hmeets => h.keeps hline hreturn hmeets) (inv_opened hnew)

/-- The first half of a two-byte character, which a crash has left. -/
def tornCharacter : LogFiles := Function.update (fun _ => none) 0 (some [0xc3])

/-- A file that is not UTF-8 makes every reading fail. -/
theorem torn_character_unreadable :
    ¬ ∀ (tables : UnicodeTables) (serde : Serde StoredDiagnosticEvent),
      (∀ record, lineFeed ∉ serde.toVec record) →
      (∀ record, stripReturn (serde.toVec record) = serde.toVec record) →
      ∀ (config : LocalEventLogConfig) (files : LogFiles) (log : LocalEventLog),
        LocalEventLog.new config files = .ok log → ∀ operations,
          Along (step tables serde) (Keeps tables serde) operations (opened log) := by
  intro h
  have hnew : LocalEventLog.new (.conservative "s".toList) tornCharacter =
      .ok ⟨.conservative "s".toList, 1, 0, 0, tornCharacter⟩ := by
    rw [LocalEventLog.new, discard_of_small fun i _ content hcontent => ?_]
    · rfl
    · by_cases hi : i = 0
      · subst hi
        obtain rfl := Option.some.inj hcontent
        decide
      · simp [tornCharacter, hi] at hcontent
  have hkeeps := (h .ascii ⟨fun _ => [], fun _ => none⟩ (fun _ => List.not_mem_nil)
    (fun _ => rfl) _ _ _ hnew [.readRecent 1]).1
  obtain ⟨others, -, hread⟩ := hkeeps.read 1 rfl (by decide)
  have hfails : readRecent ⟨fun _ => [], fun _ => none⟩ 1
      ⟨.conservative "s".toList, 1, 0, 0, tornCharacter⟩ = .error .invalidData := by decide
  cases hfails.symm.trans hread

/-! ## A session -/

instance : Countable UInt64 := Function.Injective.countable fun _ _ => UInt64.toNat_inj.1

instance {α : Type} [Countable α] : Countable (TextMap α) :=
  Function.Injective.countable (f := TextMap.entries) fun _ _ => TextMap.ext

deriving instance Countable for F64
deriving instance Countable for Severity
deriving instance Countable for DiagnosticStatus
deriving instance Countable for ClockSource
deriving instance Countable for ObservationProvenance
deriving instance Countable for TimingEvidence
deriving instance Countable for DiagnosticEvent
deriving instance Countable for RedactionKind
deriving instance Countable for RedactionFinding
deriving instance Countable for StoredDiagnosticEvent

def started : DiagnosticEvent where
  monotonicNs := 1
  component := "runtime".toList
  eventName := "started".toList
  severity := .info
  status := .ok
  provenance := .measured
  traceId := none
  spanId := none
  durationMs := none
  timing := none
  errorCode := none
  providerId := none
  modelId := none
  numeric := .empty
  labels := .empty

/-- A log that an earlier session has left with a line that is no record. -/
def corruptLine : LogFiles := Function.update (fun _ => none) 0 (some [0x78, lineFeed])

def corruptLog : LocalEventLog := ⟨.conservative "s".toList, 1, 0, 0, corruptLine⟩

def startedJson : Bytes :=
  ascii ("\x7b\"schemaVersion\":\"1.0.0\",\"sessionId\":\"s\",\"sequence\":0,\"event\":" ++
    "\x7b\"monotonicNs\":1,\"component\":\"runtime\",\"eventName\":\"started\"," ++
    "\"severity\":\"info\",\"status\":\"ok\",\"provenance\":\"measured\"," ++
    "\"traceId\":null,\"spanId\":null,\"durationMs\":null,\"timing\":null," ++
    "\"errorCode\":null,\"providerId\":null,\"modelId\":null," ++
    "\"numeric\":\x7b\x7d,\"labels\":\x7b\x7d\x7d,\"redactions\":[]\x7d").toList

/-- The record of that event, written as it is. -/
noncomputable def startedSerde : Serde StoredDiagnosticEvent :=
  Serde.ofTexts [(recordOf corruptLog started [], startedJson)]

theorem startedSerde_roundTrips : startedSerde.RoundTrips :=
  Serde.ofTexts_roundTrips (by simp) fun entry hentry =>
    ⟨0x22, by
      rw [List.mem_singleton.1 hentry]
      decide +kernel, by decide⟩

theorem mem_toVec_startedSerde {b : UInt8} (hb : b ∈ startedSerde.toVec record) :
    b < 0x80 ∧ b ≠ lineFeed ∧ b ≠ 0x0d := by
  have hjson : ∀ b ∈ startedJson, b < 0x80 ∧ b ≠ lineFeed ∧ b ≠ 0x0d := by decide +kernel
  have htext : b ∈ startedJson ∨ b = 0 := by
    by_cases hrecord : recordOf corruptLog started [] = record
    · left
      simpa [startedSerde, Serde.ofTexts, Serde.textOf, hrecord] using hb
    · right
      simp only [startedSerde, Serde.ofTexts, Serde.textOf, List.find?_cons, hrecord, decide_false,
        List.find?_nil] at hb
      exact List.eq_of_mem_replicate hb
  obtain hb | rfl := htext
  · exact hjson b hb
  · decide

theorem stripReturn_startedSerde (record : StoredDiagnosticEvent) :
    stripReturn (startedSerde.toVec record) = startedSerde.toVec record :=
  if_neg fun hreturn => (mem_toVec_startedSerde (List.mem_of_getLast? hreturn)).2.2 rfl

/-- An event is appended behind the corrupt line, and read. -/
theorem event_log_keeps_newest_behind_corrupt_line :
    Along (step .ascii startedSerde) (Keeps .ascii startedSerde)
      [.readRecent 10, .append started, .readRecent 10] (opened corruptLog) := by
  have hnew : LocalEventLog.new (.conservative "s".toList) corruptLine = .ok corruptLog := by
    rw [LocalEventLog.new, discard_of_small fun i _ content hcontent => ?_]
    · rfl
    · by_cases hi : i = 0
      · subst hi
        obtain rfl := Option.some.inj hcontent
        decide
      · simp [corruptLine, hi] at hcontent
  have hcorrupt : ∀ i, ∀ line ∈ corruptLog.fileLines i, utf8 line := by
    intro i line hline
    by_cases hi : i = 0
    · subst hi
      obtain rfl := List.mem_singleton.1 hline
      decide
    · simp [LocalEventLog.fileLines, corruptLog, corruptLine, hi] at hline
  refine event_log_keeps_newest (fun record hmem => (mem_toVec_startedSerde hmem).2.1 rfl)
    stripReturn_startedSerde hnew ⟨fun _ i _ => hcorrupt i, fun record _ =>
      ⟨by decide, .inl (by decide), startedSerde_roundTrips record⟩, fun _ i hi line hline => ?_,
      trivial⟩
  have hopened : Inv startedSerde (opened corruptLog) := inv_opened hnew
  have hsmall : corruptLog.Small := hopened.small
  have happends := @appends .ascii startedSerde corruptLog hsmall started
  change i ≤ (account (opened corruptLog) (recordToWrite .ascii startedSerde corruptLog started)
    (append .ascii startedSerde started corruptLog)).log.config.maxRotatedFiles at hi
  change line ∈ (account (opened corruptLog) (recordToWrite .ascii startedSerde corruptLog started)
    (append .ascii startedSerde started corruptLog)).log.fileLines i at hline
  generalize append .ascii startedSerde started corruptLog = out at happends hi hline
  cases happends with
  | nothing answer pending hnone hanswer =>
    rw [hnone, account_none] at hline
    exact hcorrupt i line hline
  | record record receipt pending hrecord hfits hsequence hunfiltered hrotated =>
    rw [hrecord, account_some hunfiltered] at hi hline
    have hascii : utf8 (startedSerde.toVec record) :=
      utf8_of_ascii fun b hb => (mem_toVec_startedSerde hb).1
    change line ∈ (corruptLog.write (lineOf startedSerde record)).fileLines i at hline
    rw [fileLines_write hsmall (fun hmem => (mem_toVec_startedSerde hmem).2.1 rfl)
      (stripReturn_startedSerde record) hfits (.inl (by decide)) hi] at hline
    split_ifs at hline with hzero hrotates
    · exact (List.mem_singleton.1 hline) ▸ hascii
    · obtain hline | hline := List.mem_append.1 hline
      · exact hcorrupt 0 line hline
      · exact (List.mem_singleton.1 hline) ▸ hascii
    · exact hcorrupt (i - 1) line hline
    · exact hcorrupt i line hline

end LogWorld

end NpcRuntime.Diagnostics
