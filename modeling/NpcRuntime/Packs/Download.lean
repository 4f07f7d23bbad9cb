import NpcRuntime.Packs.Manifest

/-!
# Download journals

`DownloadJournal` of `model-manager/src/lifecycle.rs`: how far an artifact has been received, and
what its evidence has to say.
-/

namespace NpcRuntime.Packs

structure ArtifactEvidence where
  artifactId : Text
  sizeBytes : Nat
  sha256 : Sha256Digest
deriving DecidableEq

structure DownloadJournal where
  artifactId : Text
  expectedSize : Nat
  expectedSha256 : Sha256Digest
  receivedBytes : Nat
  validator : Option Text
  complete : Bool
deriving DecidableEq

structure ResumeResponse where
  status : Nat
  rangeStart : Option Nat
  totalSize : Nat
  validator : Option Text
deriving DecidableEq

inductive ResumeError where
  | alreadyComplete
  | remoteSizeChanged (expected actual : Nat)
  | rangeNotHonored
  | validatorChanged
  | unexpectedStatus (status : Nat)
  | invalidValidator
  | sizeOverflow
  | exceedsExpectedSize
  | evidenceMismatch
deriving DecidableEq

namespace DownloadJournal

def new (artifactId : Text) (expectedSize : Nat) (expectedSha256 : Sha256Digest) :
    DownloadJournal :=
  { artifactId, expectedSize, expectedSha256, receivedBytes := 0, validator := none
    complete := false }

def acceptResponse (journal : DownloadJournal) (response : ResumeResponse) :
    Except ResumeError DownloadJournal := do
  require (!journal.complete) .alreadyComplete
  require (response.totalSize == journal.expectedSize)
    (.remoteSizeChanged journal.expectedSize response.totalSize)
  if 0 < journal.receivedBytes then
    require (response.status == 206 && response.rangeStart == some journal.receivedBytes)
      .rangeNotHonored
    require (journal.validator.isSome && response.validator == journal.validator)
      .validatorChanged
  else
    require (response.status == 200 || response.status == 206) (.unexpectedStatus response.status)
    require (!(response.status == 206 && response.rangeStart != some 0)) .rangeNotHonored
  require (response.validator != some []) .invalidValidator
  return { journal with validator := response.validator }

def recordBytes (journal : DownloadJournal) (count : Nat) : Except ResumeError DownloadJournal := do
  let next := journal.receivedBytes + count
  require (decide (next ≤ u64Max)) .sizeOverflow
  require (decide (next ≤ journal.expectedSize)) .exceedsExpectedSize
  return { journal with receivedBytes := next }

def markVerified (journal : DownloadJournal) (evidence : ArtifactEvidence) :
    Except ResumeError DownloadJournal := do
  require (evidence.artifactId == journal.artifactId &&
      evidence.sizeBytes == journal.expectedSize && evidence.sha256 == journal.expectedSha256 &&
      journal.receivedBytes == journal.expectedSize) .evidenceMismatch
  return { journal with complete := true }

def restart (journal : DownloadJournal) : DownloadJournal :=
  { journal with receivedBytes := 0, validator := none, complete := false }

end DownloadJournal

/-- A call on a journal. -/
inductive JournalCall where
  | acceptResponse (response : ResumeResponse)
  | recordBytes (count : Nat)
  | markVerified (evidence : ArtifactEvidence)
  | restart
deriving DecidableEq

def JournalCall.apply (journal : DownloadJournal) : JournalCall → Except ResumeError DownloadJournal
  | .acceptResponse response => journal.acceptResponse response
  | .recordBytes count => journal.recordBytes count
  | .markVerified evidence => journal.markVerified evidence
  | .restart => .ok journal.restart

/-! ## Calls that succeed -/

variable {evidence : ArtifactEvidence}

namespace DownloadJournal

section Calls

variable {journal journal' : DownloadJournal}

theorem markVerified_eq_ok (h : journal.markVerified evidence = .ok journal') :
    journal.receivedBytes = journal.expectedSize ∧ journal' = { journal with complete := true } := by
  simp only [markVerified, bind_eq_ok, require_eq_ok, Bool.and_eq_true, beq_iff_eq,
    pure_eq_ok] at h
  obtain ⟨_, ⟨-, hreceived⟩, rfl⟩ := h
  exact ⟨hreceived, rfl⟩

theorem recordBytes_eq_ok {count : Nat}
    (h : journal.recordBytes count = .ok journal') :
    journal.receivedBytes + count ≤ journal.expectedSize ∧
      journal' = { journal with receivedBytes := journal.receivedBytes + count } := by
  simp only [recordBytes, bind_eq_ok, require_eq_ok, decide_eq_true_eq,
    pure_eq_ok] at h
  obtain ⟨_, -, _, hfits, rfl⟩ := h
  exact ⟨hfits, rfl⟩

theorem acceptResponse_eq_ok {response : ResumeResponse}
    (h : journal.acceptResponse response = .ok journal') :
    journal.complete = false ∧ journal' = { journal with validator := response.validator } ∧
      (journal.receivedBytes = 0 ∨ journal.validator.isSome ∧
        response.validator = journal.validator) := by
  simp only [acceptResponse, bind_eq_ok, require_eq_ok] at h
  obtain ⟨_, hincomplete, _, -, h⟩ := h
  have hincomplete : journal.complete = false := by simpa using hincomplete
  by_cases hreceived : 0 < journal.receivedBytes
  · simp only [hreceived, if_true, bind_eq_ok, require_eq_ok, Bool.and_eq_true, beq_iff_eq,
      pure_eq_ok] at h
    obtain ⟨_, -, _, hvalidator, _, -, rfl⟩ := h
    exact ⟨hincomplete, rfl, .inr hvalidator⟩
  · simp only [hreceived, if_false, bind_eq_ok, require_eq_ok, pure_eq_ok] at h
    obtain ⟨_, -, _, -, _, -, rfl⟩ := h
    exact ⟨hincomplete, rfl, .inl (by omega)⟩

end Calls

end DownloadJournal

/-! ## What a journal is for -/

namespace DownloadJournal

/-- Two journals expect the same bytes. -/
def SameTarget (a b : DownloadJournal) : Prop :=
  a.artifactId = b.artifactId ∧ a.expectedSize = b.expectedSize ∧
    a.expectedSha256 = b.expectedSha256

theorem SameTarget.trans {a b c : DownloadJournal} (h : SameTarget a b) (h' : SameTarget b c) :
    SameTarget a c :=
  ⟨h.1.trans h'.1, h.2.1.trans h'.2.1, h.2.2.trans h'.2.2⟩

theorem sameTarget_restart (journal : DownloadJournal) : SameTarget journal journal.restart :=
  ⟨rfl, rfl, rfl⟩

variable {journal journal' : DownloadJournal}

theorem sameTarget_markVerified (h : journal.markVerified evidence = .ok journal') :
    SameTarget journal journal' := by
  simp only [markVerified, bind_eq_ok, pure_eq_ok] at h
  obtain ⟨_, -, rfl⟩ := h
  exact ⟨rfl, rfl, rfl⟩

theorem markVerified_evidence (h : journal.markVerified evidence = .ok journal') :
    evidence.artifactId = journal.artifactId ∧ evidence.sizeBytes = journal.expectedSize ∧
      evidence.sha256 = journal.expectedSha256 := by
  simp only [markVerified, bind_eq_ok, require_eq_ok, Bool.and_eq_true, beq_iff_eq] at h
  obtain ⟨_, ⟨⟨⟨hid, hsize⟩, hsha⟩, -⟩, -⟩ := h
  exact ⟨hid, hsize, hsha⟩

/-- No call changes what a journal is for. -/
theorem sameTarget_apply {call : JournalCall} (h : call.apply journal = .ok journal') :
    SameTarget journal journal' := by
  cases call with
  | acceptResponse response =>
    simp only [JournalCall.apply, acceptResponse, bind_eq_ok] at h
    split at h <;> simp only [bind_eq_ok, pure_eq_ok] at h
    · obtain ⟨_, -, _, -, _, -, _, -, _, -, rfl⟩ := h
      exact ⟨rfl, rfl, rfl⟩
    · obtain ⟨_, -, _, -, _, -, _, -, _, -, rfl⟩ := h
      exact ⟨rfl, rfl, rfl⟩
  | recordBytes count =>
    simp only [JournalCall.apply, recordBytes, bind_eq_ok, pure_eq_ok] at h
    obtain ⟨_, -, _, -, rfl⟩ := h
    exact ⟨rfl, rfl, rfl⟩
  | markVerified evidence => exact sameTarget_markVerified h
  | restart =>
    cases h
    exact sameTarget_restart journal

end DownloadJournal

end NpcRuntime.Packs
