import NpcRuntime.Packs.DownloadStates

/-!
# What a download loses

The bytes that a saved journal counts are there for the next attempt, unless there is a reason to
begin again. `Watched.download` is `download` with a record of every operation that leaves fewer of
them than it found, and of the place in the program where it stands (`forgets_download`).

What a watched call keeps holds of the call itself. So one rule a function says all: which state of
the disk it leaves, that a file it has verified is the artifact, and that what it loses it loses for
a reason. The last needs a condition on the replies, so it stands under a proposition `C` of its
own.
-/

namespace NpcRuntime.Packs

open Text DownloadDisk

namespace DownloadDisk

/-- `received_bytes` of the saved journal. -/
def savedBytes (disk : DownloadDisk) : Nat :=
  match disk.journal with
  | some journal => journal.receivedBytes
  | none => 0

/-- How many of the bytes that the saved journal counts the file has. -/
def available (disk : DownloadDisk) : Nat := min disk.savedBytes disk.content.length

/-- Nothing that was saved is gone. -/
def Retains (before after : DownloadDisk) : Prop :=
  before.savedBytes ≤ after.savedBytes ∧ before.available ≤ after.available

instance (before after : DownloadDisk) : Decidable (Retains before after) :=
  inferInstanceAs (Decidable (_ ∧ _))

section Retains

variable {before disk disk' : DownloadDisk} {journal : DownloadJournal}

theorem Retains.refl (disk : DownloadDisk) : Retains disk disk := ⟨le_refl _, le_refl _⟩

theorem Retains.trans (h : Retains before disk) (h' : Retains disk disk') :
    Retains before disk' :=
  ⟨h.1.trans h'.1, h.2.trans h'.2⟩

theorem retains_of_nothing (h : before.savedBytes = 0) : Retains before disk := by
  simp [Retains, available, h]

theorem savedBytes_of_journal (h : disk.journal = some journal) :
    disk.savedBytes = journal.receivedBytes := by
  simp [savedBytes, h]

/-- The saved journal stays, and the file has what there was of its bytes. -/
theorem retains_of_le (hjournal : disk'.journal = disk.journal)
    (hlength : disk.available ≤ disk'.content.length) : Retains disk disk' := by
  have hsaved : disk'.savedBytes = disk.savedBytes := by rw [savedBytes, hjournal, savedBytes]
  exact ⟨hsaved.ge, le_min ((min_le_left _ _).trans hsaved.ge) hlength⟩

/-- A journal that counts no less than was saved, and no more than the file has. -/
theorem retains_save (hbytes : before.savedBytes ≤ journal.receivedBytes)
    (hlength : journal.receivedBytes ≤ disk.content.length) :
    Retains before { disk with journal := some journal } :=
  ⟨hbytes, (min_le_left _ _).trans (le_min hbytes (hbytes.trans hlength))⟩

theorem retains_writeAt (position : Nat) (written : List FileByte) (disk : DownloadDisk) :
    Retains disk (disk.writeAt position written) := by
  refine retains_of_le rfl ((min_le_right _ _).trans ?_)
  show _ ≤ (disk.content.take position ++ hole (position - disk.content.length) ++ written ++
    disk.content.drop (position + written.length)).length
  simp only [List.length_append, List.length_take, List.length_drop, hole, List.length_replicate]
  omega

end Retains

end DownloadDisk

/-- Where in the program saved bytes are lost. -/
inductive LossPlace where
  | reconciliation
  | unvalidated
  | notHonored (response : DownloadResponse)
  | verification
  | crash
  | elsewhere
deriving DecidableEq

structure Loss where
  place : LossPlace
  before : DownloadDisk
  after : DownloadDisk
deriving DecidableEq

/-- **A loss with a cause**: the file is shorter than the journal says, there is no validator, the
response is no `206` at the exact offset with the same strong validator, or a file of the full
declared length has failed its verification. -/
def Loss.Lawful (artifact : ArtifactV1) (loss : Loss) : Prop :=
  ∃ journal, loss.before.journal = some journal ∧
    match loss.place with
    | .reconciliation | .crash => loss.before.content.length < journal.receivedBytes
    | .unvalidated => journal.validator = none
    | .notHonored response => ¬ (response.status = 206 ∧
        (∃ total, responseExtent response artifact.sizeBytes =
          .ok (some journal.receivedBytes, total)) ∧
        strongEtag response.etag = journal.validator)
    | .verification => loss.before.content.length = artifact.sizeBytes ∧
        journal.receivedBytes = artifact.sizeBytes
    | .elsewhere => False

namespace Downloader

/-! ## The watched download -/

abbrev WatchedDownload (α : Type) := Observed Stop DownloadWorld Loss α

def recordLoss (place : LossPlace) (before after : DownloadWorld) : List Loss :=
  if Retains before.disk after.disk then [] else [⟨place, before.disk, after.disk⟩]

/-- The call, with what it loses at this place. -/
def noting {α : Type} (place : LossPlace) (call : Download α) : WatchedDownload α :=
  recorded (recordLoss place) call

abbrev plain {α : Type} (call : Download α) : WatchedDownload α := noting .elsewhere call

namespace Watched

variable (environment : Nat → Moment)

def verifyCompletedFile (codec : Codec) (artifact : ArtifactV1) (journal : DownloadJournal) :
    WatchedDownload ArtifactEvidence := do
  match ← plain (openAndVerify environment codec artifact) with
  | .error error =>
    let _ ← noting .verification (restartDownload environment journal)
    plain (fail (.verification error))
  | .ok evidence =>
    let journal ← plain (liftDownload ((journal.markVerified evidence).mapError .resume))
    plain (save environment journal)
    return evidence

def receive (policy : DownloadPolicy) (artifact : ArtifactV1) (source : ByteSource) :
    List BodyItem → DownloadJournal → (uncommitted position : Nat) →
      WatchedDownload (DownloadJournal × Nat)
  | [], journal, uncommitted, _ => return (journal, uncommitted)
  | item :: body, journal, uncommitted, position => do
    let _ ← plain (survive environment)
    match item with
    | .cancelled =>
      let _ ← plain (checkpoint environment journal uncommitted)
      plain (fail .cancelled)
    | .idleTimeout => plain (fail .idleTimeout)
    | .clientError => plain (fail .client)
    | .chunk bytes =>
      let projected := journal.receivedBytes + uncommitted + bytes.length
      plain (liftDownload (require (projected ≤ u64Max) .sizeOverflow))
      plain (liftDownload (require (projected ≤ artifact.sizeBytes) .bodyTooLarge))
      plain (writeAll environment position (bytes.map fun byte => ⟨byte, source⟩))
      let uncommitted := uncommitted + bytes.length
      let position := position + bytes.length
      if uncommitted ≥ policy.checkpointBytes then
        let journal ← plain (checkpoint environment journal uncommitted)
        receive policy artifact source body journal 0 position
      else receive policy artifact source body journal uncommitted position

def takeBody (codec : Codec) (policy : DownloadPolicy) (artifact : ArtifactV1) (number : Nat)
    (response : DownloadResponse) (journal : DownloadJournal) :
    WatchedDownload ArtifactEvidence := do
  plain (secureOpenRwFile environment)
  plain (look environment .io)
  let (journal, uncommitted) ← receive environment policy artifact
    (.response number (strongEtag response.etag)) response.body journal 0 journal.receivedBytes
  let journal ← plain (checkpoint environment journal uncommitted)
  verifyCompletedFile environment codec artifact journal

def attempts (codec : Codec) (policy : DownloadPolicy) (artifact : ArtifactV1) (url : Text) :
    Nat → DownloadJournal → WatchedDownload ArtifactEvidence
  | 0, _ => plain (fail .resumeNotHonored)
  | left + 1, journal => do
    let moment ← plain (nextMoment environment)
    plain (liftDownload (require (!moment.cancelled) .cancelled))
    let journal ← noting .unvalidated (restartUnvalidated environment journal)
    let (number, response) ← plain (send environment (resumeRequest url journal))
    plain (liftDownload (require (200 ≤ response.status && response.status < 300)
      (.httpStatus response.status)))
    let validator := strongEtag response.etag
    let (rangeStart, totalSize) ← plain (liftDownload (responseExtent response artifact.sizeBytes))
    if ¬ honors journal response.status rangeStart validator then
      if left = 1 then
        let journal ← noting (.notHonored response) (restartDownload environment journal)
        attempts codec policy artifact url left journal
      else plain (fail .resumeNotHonored)
    else
      let journal ← plain (liftDownload ((journal.acceptResponse
        ⟨response.status, rangeStart, totalSize, validator⟩).mapError .resume))
      takeBody environment codec policy artifact number response journal

/-- The file and the journal are made to agree, and the journal is saved. -/
def reconcile (journal : DownloadJournal) : Download DownloadJournal := do
  let journal ← reconcileFileAndJournal environment journal
  save environment journal
  return journal

def downloadFromUrl (codec : Codec) (policy : DownloadPolicy) (artifact : ArtifactV1)
    (url : Text) : WatchedDownload ArtifactEvidence := do
  plain (look environment .unpreparedDestination)
  let saved ← plain (load environment artifact.id)
  let journal := saved.getD (.new artifact.id artifact.sizeBytes artifact.sha256)
  plain (liftDownload (require (journal.expectedSize == artifact.sizeBytes &&
    journal.expectedSha256 == artifact.sha256 && journal.artifactId == artifact.id)
    .journalManifestMismatch))
  let journal ← noting .reconciliation (reconcile environment journal)
  if journal.receivedBytes = journal.expectedSize then
    verifyCompletedFile environment codec artifact journal
  else attempts environment codec policy artifact url 2 journal

def trySources (codec : Codec) (urls : UrlLibrary) (policy : DownloadPolicy)
    (artifact : ArtifactV1) :
    List Text → Option DownloadError → WatchedDownload ArtifactEvidence
  | [], lastError => plain (fail (lastError.getD .noSources))
  | source :: sources, _ => do
    let url ← plain (liftDownload (okOr (urls.parse source) (.invalidUrl source)))
    plain (liftDownload (require (allowedUrl urls url policy.allowHttpLoopback)
      (.insecureUrl source)))
    tryCatch (downloadFromUrl environment codec policy artifact source) fun
      | .died => throw .died
      | .failed error =>
        if final error then plain (fail error)
        else trySources codec urls policy artifact sources (some error)

def download (codec : Codec) (urls : UrlLibrary) (policy : DownloadPolicy)
    (identity : PackRevision) (artifact : ArtifactV1) (selection : DownloadAuthorization) :
    WatchedDownload ArtifactEvidence := do
  plain (liftDownload (require
    (0 < artifact.sizeBytes && artifact.sizeBytes ≤ policy.maximumArtifactBytes)
    (.declaredSizeOutsidePolicy artifact.sizeBytes)))
  plain (liftDownload (selection.validateDownloadArtifact identity artifact))
  plain (validateDownloadDestination environment)
  trySources environment codec urls policy artifact artifact.sourceUrls none

end Watched

/-! ## Without the record -/

section Forgets

variable {environment : Nat → Moment} {codec : Codec} {artifact : ArtifactV1}

theorem forgets_noting {α : Type} (place : LossPlace) (call : Download α) :
    Forgets (noting place call) call :=
  forgets_recorded _ call

theorem forgets_verifyCompletedFile (journal : DownloadJournal) :
    Forgets (Watched.verifyCompletedFile environment codec artifact journal)
      (verifyCompletedFile environment codec artifact journal) := by
  refine forgets_bind (forgets_noting _ _) fun result => ?_
  cases result with
  | error error => exact forgets_bind (forgets_noting _ _) fun _ => forgets_noting _ _
  | ok evidence =>
    refine forgets_bind (forgets_noting _ _) fun journal => ?_
    exact forgets_bind (forgets_noting _ _) fun _ => forgets_pure _

theorem forgets_receive (policy : DownloadPolicy) (source : ByteSource) (body : List BodyItem)
    (journal : DownloadJournal) (uncommitted position : Nat) :
    Forgets
      (Watched.receive environment policy artifact source body journal uncommitted position)
      (receive environment policy artifact source body journal uncommitted position) := by
  induction body generalizing journal uncommitted position with
  | nil => exact forgets_pure _
  | cons item body ih =>
    refine forgets_bind (forgets_noting _ _) fun _ => ?_
    cases item with
    | cancelled => exact forgets_bind (forgets_noting _ _) fun _ => forgets_noting _ _
    | idleTimeout => exact forgets_noting _ _
    | clientError => exact forgets_noting _ _
    | chunk bytes =>
      refine forgets_bind (forgets_noting _ _) fun _ => ?_
      refine forgets_bind (forgets_noting _ _) fun _ => ?_
      refine forgets_bind (forgets_noting _ _) fun _ => ?_
      by_cases hfull : uncommitted + bytes.length ≥ policy.checkpointBytes
      · simp only [hfull, if_true]
        exact forgets_bind (forgets_noting _ _) fun journal => ih journal _ _
      · simp only [hfull, if_false]
        exact ih journal _ _

theorem forgets_takeBody (policy : DownloadPolicy) (number : Nat) (response : DownloadResponse)
    (journal : DownloadJournal) :
    Forgets (Watched.takeBody environment codec policy artifact number response journal)
      (takeBody environment codec policy artifact number response journal) := by
  refine forgets_bind (forgets_noting _ _) fun _ => ?_
  refine forgets_bind (forgets_noting _ _) fun _ => ?_
  refine forgets_bind (forgets_receive _ _ _ _ _ _) fun received => ?_
  exact forgets_bind (forgets_noting _ _) fun journal => forgets_verifyCompletedFile journal

theorem forgets_attempts (policy : DownloadPolicy) (url : Text) (left : Nat)
    (journal : DownloadJournal) :
    Forgets (Watched.attempts environment codec policy artifact url left journal)
      (attempts environment codec policy artifact url left journal) := by
  induction left generalizing journal with
  | zero => exact forgets_noting _ _
  | succ left ih =>
    refine forgets_bind (forgets_noting _ _) fun moment => ?_
    refine forgets_bind (forgets_noting _ _) fun _ => ?_
    refine forgets_bind (forgets_noting _ _) fun journal => ?_
    refine forgets_bind (forgets_noting _ _) fun reply => ?_
    obtain ⟨number, response⟩ := reply
    refine forgets_bind (forgets_noting _ _) fun _ => ?_
    refine forgets_bind (forgets_noting _ _) fun extent => ?_
    obtain ⟨rangeStart, totalSize⟩ := extent
    by_cases hhonors : honors journal response.status rangeStart (strongEtag response.etag)
    · simp only [hhonors, not_true, if_false]
      exact forgets_bind (forgets_noting _ _) fun journal => forgets_takeBody _ _ _ journal
    · simp only [hhonors]
      by_cases hfirst : left = 1
      · rw [if_pos hfirst, if_pos hfirst]
        exact forgets_bind (forgets_noting _ _) fun journal => ih journal
      · rw [if_neg hfirst, if_neg hfirst]
        exact forgets_noting _ _

theorem forgets_downloadFromUrl (policy : DownloadPolicy) (url : Text) :
    Forgets (Watched.downloadFromUrl environment codec policy artifact url)
      (downloadFromUrl environment codec policy artifact url) := by
  refine forgets_bind (forgets_noting _ _) fun _ => ?_
  refine forgets_bind (forgets_noting _ _) fun saved => ?_
  refine forgets_bind (forgets_noting _ _) fun _ => ?_
  have hrest : ∀ journal : DownloadJournal, (do
      let journal ← reconcileFileAndJournal environment journal
      save environment journal
      if journal.receivedBytes = journal.expectedSize then
        verifyCompletedFile environment codec artifact journal
      else attempts environment codec policy artifact url 2 journal) =
      Watched.reconcile environment journal >>= fun journal =>
        if journal.receivedBytes = journal.expectedSize then
          verifyCompletedFile environment codec artifact journal
        else attempts environment codec policy artifact url 2 journal := by
    intro journal
    simp only [Watched.reconcile, bind_assoc, pure_bind]
  rw [hrest]
  refine forgets_bind (forgets_noting _ _) fun journal => ?_
  by_cases hreceived : journal.receivedBytes = journal.expectedSize
  · rw [if_pos hreceived, if_pos hreceived]
    exact forgets_verifyCompletedFile journal
  · rw [if_neg hreceived, if_neg hreceived]
    exact forgets_attempts policy url 2 journal

theorem forgets_trySources (urls : UrlLibrary) (policy : DownloadPolicy) (sources : List Text)
    (lastError : Option DownloadError) :
    Forgets (Watched.trySources environment codec urls policy artifact sources lastError)
      (trySources environment codec urls policy artifact sources lastError) := by
  induction sources generalizing lastError with
  | nil => exact forgets_noting _ _
  | cons source sources ih =>
    refine forgets_bind (forgets_noting _ _) fun url => ?_
    refine forgets_bind (forgets_noting _ _) fun _ => ?_
    refine forgets_tryCatch (forgets_downloadFromUrl policy source) fun stop => ?_
    cases stop with
    | died => exact forgets_throw _
    | failed error =>
      by_cases hfinal : final error
      · simp only [hfinal, if_true]
        exact forgets_noting _ _
      · simp only [hfinal]
        exact ih (some error)

/-- **The watched download is the download.** -/
theorem forgets_download (urls : UrlLibrary) (policy : DownloadPolicy) (identity : PackRevision)
    (selection : DownloadAuthorization) :
    Forgets (Watched.download environment codec urls policy identity artifact selection)
      (download environment codec urls policy identity artifact selection) := by
  refine forgets_bind (forgets_noting _ _) fun _ => ?_
  refine forgets_bind (forgets_noting _ _) fun _ => ?_
  refine forgets_bind (forgets_noting _ _) fun _ => ?_
  exact forgets_trySources urls policy artifact.sourceUrls none

end Forgets

/-! ## What is lost -/

/-- Under `C`, what was lost so far was lost for a reason; if nothing was, all is there. -/
structure Accounted (C : Prop) (artifact : ArtifactV1) (start : DownloadDisk)
    (P : DownloadDisk → Prop) (s : DownloadWorld × List Loss) : Prop where
  disk : P s.1.disk
  lawful : C → ∀ loss ∈ s.2, loss.Lawful artifact
  retains : s.2 = [] → Retains start s.1.disk

/-- What a call at this place may do to the disk. -/
abbrev Explained (C : Prop) (artifact : ArtifactV1) (place : LossPlace)
    (before after : DownloadDisk) : Prop :=
  C → Retains before after ∨ Loss.Lawful artifact ⟨place, before, after⟩

/-- A watched call that is accounted for, whether it returns or not. -/
abbrev Accounts {α : Type} (C : Prop) (artifact : ArtifactV1) (start : DownloadDisk)
    (P : DownloadDisk → Prop) (call : WatchedDownload α) (Q : α → DownloadDisk → Prop)
    (F : DownloadDisk → Prop) : Prop :=
  Triple (Accounted C artifact start P) call (fun a => Accounted C artifact start (Q a))
    (Accounted C artifact start F)

section Accounted

variable {C : Prop} {artifact : ArtifactV1} {start : DownloadDisk} {place : LossPlace}
  {P F : DownloadDisk → Prop} {α : Type} {Q : α → DownloadDisk → Prop}

theorem Accounts.requiring {call : WatchedDownload α} {P' : DownloadDisk → Prop}
    (h : Accounts C artifact start P call Q F) (hP : ∀ disk, P' disk → P disk) :
    Accounts C artifact start P' call Q F :=
  h.mono (fun _ h => ⟨hP _ h.disk, h.lawful, h.retains⟩) (fun _ _ h => h) fun _ h => h

theorem Accounted.next {world world' : DownloadWorld} {losses : List Loss}
    (h : Accounted C artifact start P (world, losses)) (hP : F world'.disk)
    (hexplained : Explained C artifact place world.disk world'.disk) :
    Accounted C artifact start F (world', losses ++ recordLoss place world world') := by
  by_cases hretains : Retains world.disk world'.disk
  · simp only [recordLoss, hretains, if_true, List.append_nil]
    exact ⟨hP, h.lawful, fun hempty => (h.retains hempty).trans hretains⟩
  · simp only [recordLoss, hretains, if_false]
    refine ⟨hP, fun hC loss hloss => ?_, fun hempty => ?_⟩
    · rcases List.mem_append.1 hloss with hloss | hloss
      · exact h.lawful hC loss hloss
      · rw [List.mem_singleton.1 hloss]
        exact (hexplained hC).resolve_left hretains
    · simp at hempty

variable {call : Download α}

/-- **A watched call** is accounted for when what it does is explained. -/
theorem triple_noting (h : ∀ before, P before → Triple (OnDisk (· = before)) call
      (fun a => OnDisk fun after => Q a after ∧ Explained C artifact place before after)
      (OnDisk fun after => F after ∧ Explained C artifact place before after)) :
    Accounts C artifact start P (noting place call) Q F := by
  rintro ⟨world, losses⟩ hs
  have hcall := h world.disk hs.disk world rfl
  show Ends _ _ ((call world).1, (call world).2, losses ++ recordLoss place world (call world).2)
  rcases hout : call world with ⟨error | a, world'⟩
  · rw [hout] at hcall
    exact hs.next hcall.1 hcall.2
  · rw [hout] at hcall
    exact hs.next hcall.1 hcall.2

/-- A call that loses nothing. -/
theorem triple_keeping (h : ∀ before, Triple (OnDisk fun disk => P disk ∧ Retains before disk) call
      (fun a => OnDisk fun disk => Q a disk ∧ Retains before disk)
      (OnDisk fun disk => F disk ∧ Retains before disk)) :
    Accounts C artifact start P (noting place call) Q F := by
  refine triple_noting fun before hbefore => (h before).mono ?_
    (fun _ _ h => ⟨h.1, fun _ => .inl h.2⟩) fun _ h => ⟨h.1, fun _ => .inl h.2⟩
  rintro world rfl
  exact ⟨hbefore, Retains.refl _⟩

/-- A call before which there was a reason to lose what is saved. -/
theorem triple_losing (h : Triple (OnDisk P) call (fun a => OnDisk (Q a)) (OnDisk F))
    (hexplained : ∀ before after, P before → Explained C artifact place before after) :
    Accounts C artifact start P (noting place call) Q F := by
  refine triple_noting fun before hbefore world hworld => ?_
  subst hworld
  exact (h world hbefore).mono (fun _ _ h => ⟨h, hexplained _ _ hbefore⟩)
    fun _ h => ⟨h, hexplained _ _ hbefore⟩

variable {error : DownloadError}

/-- A failure of the program's own. -/
theorem triple_failing (h : ∀ disk, P disk → F disk) :
    Accounts C artifact start P (plain (fail error : Download α)) Q F :=
  triple_keeping fun _ => triple_fail fun _ hdisk => ⟨h _ hdisk.1, hdisk.2⟩

/-- A computation that the disk has no part in. -/
theorem triple_computing {x : Except DownloadError α}
    (hok : ∀ a, x = .ok a → ∀ disk, P disk → Q a disk) (h : ∀ disk, P disk → F disk) :
    Accounts C artifact start P (plain (liftDownload x)) Q F :=
  triple_keeping fun _ => triple_liftDownload (R := fun a disk => Q a disk ∧ _)
    (fun a ha _ hdisk => ⟨hok a ha _ hdisk.1, hdisk.2⟩) fun _ hdisk => ⟨h _ hdisk.1, hdisk.2⟩

theorem triple_checking {condition : Bool} (h : ∀ disk, P disk → F disk) :
    Accounts C artifact start P (plain (liftDownload (require condition error)))
      (fun _ disk => P disk ∧ condition = true) F :=
  triple_computing (fun _ hok _ hdisk => ⟨hdisk, require_eq_ok.1 hok⟩) h

theorem triple_looking {environment : Nat → Moment} (h : ∀ disk, P disk → F disk) :
    Accounts C artifact start P (plain (look environment error)) (fun _ => P) F :=
  triple_keeping fun _ => triple_look fun _ hdisk => ⟨h _ hdisk.1, hdisk.2⟩

end Accounted

/-! ## What the program loses -/

/-- How many bytes a body has, if it ends without an error. -/
def delivered : List BodyItem → Option Nat
  | [] => some 0
  | .chunk bytes :: body => (delivered body).map (bytes.length + ·)
  | _ :: _ => none

section Calls

variable {C : Prop} {environment : Nat → Moment} {artifact : ArtifactV1}
  {journal : DownloadJournal} {start : DownloadDisk}

theorem triple_checkpoint_retains {number uncommitted : Nat} (before : DownloadDisk) :
    Triple (OnDisk fun disk =>
        Receiving artifact number journal uncommitted disk ∧ Retains before disk)
      (checkpoint environment journal uncommitted) (fun _ => OnDisk (Retains before))
      (OnDisk (Retains before)) := by
  refine triple_bind (triple_look fun _ h => h.2) fun _ => ?_
  refine triple_bind (triple_change (Q := fun disk =>
      Receiving artifact number journal uncommitted disk ∧ Retains before disk)
    (fun _ h => ⟨h.1.syncData, h.2⟩) (fun _ h => h.2) fun _ h => h.2) fun _ => ?_
  refine triple_bind (triple_liftDownload (R := fun journal' disk =>
      (before.savedBytes ≤ journal'.receivedBytes ∧
        journal'.receivedBytes ≤ disk.content.length) ∧ Retains before disk)
    (fun journal' hjournal' disk h => ⟨?_, h.2⟩) fun _ h => h.2) fun journal' => ?_
  · obtain ⟨-, rfl⟩ := DownloadJournal.recordBytes_eq_ok (mapError_eq_ok.1 hjournal')
    obtain ⟨saved, hsaved, -, hreceived, -⟩ := h.1.saved
    have hbytes := h.2.1
    rw [savedBytes_of_journal hsaved, hreceived] at hbytes
    exact ⟨hbytes.trans (Nat.le_add_right _ _), h.1.length.ge⟩
  · exact triple_bind (triple_save (Q := Retains before) (fun _ h => retains_save h.1.1 h.1.2)
      (fun _ h => h.2) fun _ h => h) fun _ => triple_pure _ fun _ h => h

theorem triple_noted_checkpoint {number uncommitted : Nat} :
    Accounts C artifact start (Receiving artifact number journal uncommitted)
      (plain (checkpoint environment journal uncommitted))
      (fun journal' disk => Receiving artifact number journal' 0 disk ∧
        (journal'.validator = journal.validator ∧
          journal'.receivedBytes = journal.receivedBytes + uncommitted) ∧
        disk.journal = some journal')
      (Sound artifact) :=
  triple_keeping fun before => (triple_checkpoint.and (triple_checkpoint_retains before)).mono
    (fun _ h => ⟨h.1, h⟩) (fun _ _ h => h) fun _ h => h

/-- The end of a download that returns. -/
abbrev Fetched {α : Type} (codec : Codec) (artifact : ArtifactV1) (_ : α) (disk : DownloadDisk) :
    Prop :=
  Sound artifact disk ∧ Genuine codec artifact disk

/-- **Verification** leaves the artifact or begins again, and can lose only a file of full length,
unless there is nothing to lose. -/
theorem triple_verifyCompletedFile (codec : Codec) (hreceived : C →
      journal.receivedBytes = 0 ∨ journal.receivedBytes = artifact.sizeBytes) :
    Accounts C artifact start (Linked artifact journal)
      (Watched.verifyCompletedFile environment codec artifact journal) (Fetched codec artifact)
      (Sound artifact) := by
  refine triple_bind (triple_keeping (Q := fun result disk => Linked artifact journal disk ∧
      ∀ evidence, result = .ok evidence → Genuine codec artifact disk) fun before =>
    (triple_openAndVerify codec fun _ h => ⟨h.1.sound, h.2⟩).mono (fun _ h => h)
      (fun _ _ h => ⟨⟨h.1.1, h.2⟩, h.1.2⟩) fun _ h => h) fun result => ?_
  cases result with
  | error error =>
    refine triple_bind (triple_losing (Q := fun _ => Sound artifact) (fun world h => ?_)
      fun before after h hC => ?_) fun _ => triple_failing fun _ h => h
    · exact (triple_restartDownload h.1.journalOf world h.1.sound).mono (fun _ _ h => h.sound)
        fun _ h => h
    · rcases hreceived hC with hzero | hfull
      · exact .inl (retains_of_nothing ((savedBytes_of_journal h.1.saved).trans hzero))
      · exact .inr ⟨journal, h.1.saved, h.1.length.trans hfull, hfull⟩
  | ok evidence =>
    refine triple_bind (triple_computing (Q := fun journal' disk =>
        (Placed artifact journal' disk ∧ Genuine codec artifact disk) ∧
          disk.journal = some journal ∧ journal'.receivedBytes = journal.receivedBytes)
      (fun journal' hjournal' disk h => ?_) fun _ h => h.1.sound) fun journal' => ?_
    · obtain ⟨hcomplete, rfl⟩ := DownloadJournal.markVerified_eq_ok (mapError_eq_ok.1 hjournal')
      obtain ⟨hlinked, hgenuine⟩ := h
      have hof : JournalOf artifact { journal with complete := true } :=
        ⟨hlinked.journalOf.target, hlinked.journalOf.received_le, fun _ => hcomplete⟩
      exact ⟨⟨⟨hlinked.sound, hof, hlinked.length, hlinked.synced, hlinked.source⟩,
        hgenuine evidence rfl⟩, hlinked.saved, rfl⟩
    · refine triple_bind (triple_keeping (Q := fun _ disk => Sound artifact disk ∧
          Genuine codec artifact disk) fun before => triple_save
          (Q := fun disk => (Sound artifact disk ∧ Genuine codec artifact disk) ∧
            Retains before disk)
          (fun disk h => ⟨⟨h.1.1.1.save.sound, h.1.1.2⟩, retains_save ?_ h.1.1.1.length.ge⟩)
          (fun _ h => ⟨h.1.1.1.sound, h.2⟩) fun _ h => ⟨h.1.1, h.2⟩)
        fun _ => triple_pure _ fun _ h => h
      have hbytes := h.2.1
      rwa [savedBytes_of_journal h.1.2.1, ← h.1.2.2] at hbytes

/-- **A body** loses nothing, and one that ends is all received. -/
theorem triple_receive (policy : DownloadPolicy) (number : Nat) (body : List BodyItem)
    (journal : DownloadJournal) (uncommitted : Nat) :
    Accounts C artifact start (Receiving artifact number journal uncommitted)
      (Watched.receive environment policy artifact (.response number journal.validator) body
        journal uncommitted (journal.receivedBytes + uncommitted))
      (fun result disk => Receiving artifact number result.1 result.2 disk ∧
        ∃ n, delivered body = some n ∧
          result.1.receivedBytes + result.2 = journal.receivedBytes + uncommitted + n)
      (Sound artifact) := by
  induction body generalizing journal uncommitted with
  | nil => exact triple_pure _ fun _ h => ⟨⟨h.disk, 0, rfl, rfl⟩, h.lawful, h.retains⟩
  | cons item body ih =>
    refine triple_bind (triple_keeping (Q := fun _ =>
      Receiving artifact number journal uncommitted) fun _ =>
        triple_survive fun _ h => ⟨h.1.sound, h.2⟩) fun moment => ?_
    cases item with
    | cancelled =>
      exact triple_bind triple_noted_checkpoint fun _ => triple_failing fun _ h => h.1.sound
    | idleTimeout => exact triple_failing fun _ h => h.sound
    | clientError => exact triple_failing fun _ h => h.sound
    | chunk bytes =>
      refine triple_bind (triple_checking fun _ h => h.sound) fun _ => ?_
      refine triple_bind (triple_checking fun _ h => h.1.sound) fun _ => ?_
      refine triple_bind (triple_keeping (Q := fun _ =>
          Receiving artifact number journal (uncommitted + bytes.length)) fun before =>
        ((triple_writeChunk bytes).and (triple_operate (P := Retains before) (Q := Retains before)
          (F := Retains before) (fun disk h => h.trans (retains_writeAt _ _ disk))
          fun _ disk h => h.trans (retains_writeAt _ _ disk))).mono
          (fun _ h => ⟨⟨h.1.1.1, of_decide_eq_true h.1.2⟩, h.2⟩) (fun _ _ h => h) fun _ h => h)
        fun _ => ?_
      by_cases hfull : uncommitted + bytes.length ≥ policy.checkpointBytes
      · rw [if_pos hfull]
        refine triple_bind triple_noted_checkpoint fun journal' s h => ?_
        have hreceive := ih journal' 0 s ⟨h.disk.1, h.lawful, h.retains⟩
        rw [h.disk.2.1.1, h.disk.2.1.2, Nat.add_zero, ← Nat.add_assoc] at hreceive
        refine hreceive.mono (fun result s h => ?_) fun _ h => h
        obtain ⟨n, hn, htotal⟩ := h.disk.2
        exact ⟨⟨h.disk.1, bytes.length + n, by rw [delivered, hn]; rfl, by omega⟩, h.lawful,
          h.retains⟩
      · rw [if_neg hfull]
        have hreceive := ih journal (uncommitted + bytes.length)
        rw [← Nat.add_assoc] at hreceive
        refine hreceive.mono (fun _ h => h) (fun result s h => ?_) fun _ h => h
        obtain ⟨n, hn, htotal⟩ := h.disk.2
        exact ⟨⟨h.disk.1, bytes.length + n, by rw [delivered, hn]; rfl, by omega⟩, h.lawful,
          h.retains⟩

/-- A body that is accepted and ends brings all that is left, unless there is nothing at all. -/
def Suffices (artifact : ArtifactV1) (journal : DownloadJournal) (body : List BodyItem) : Prop :=
  ∀ n, delivered body = some n →
    journal.receivedBytes + n = 0 ∨ artifact.sizeBytes ≤ journal.receivedBytes + n

theorem triple_takeBody (codec : Codec) (policy : DownloadPolicy) (number : Nat)
    {response : DownloadResponse} (hvalidator : journal.validator = strongEtag response.etag)
    (hsuffices : C → Suffices artifact journal response.body) :
    Accounts C artifact start (Receiving artifact number journal 0)
      (Watched.takeBody environment codec policy artifact number response journal)
      (Fetched codec artifact) (Sound artifact) := by
  refine triple_bind (triple_keeping (Q := fun _ => Receiving artifact number journal 0)
    fun before => triple_change (Q := fun disk => Receiving artifact number journal 0 disk ∧
        Retains before disk) (fun disk h => ⟨?_, h.2⟩) (fun _ h => ⟨h.1.sound, h.2⟩)
      fun _ h => ⟨h.1.sound, h.2⟩) fun _ => ?_
  · obtain ⟨h, -⟩ := h
    exact ⟨h.reach, h.journalOf, h.incomplete, h.length, h.fits, h.synced, h.source, h.saved⟩
  refine triple_bind (triple_looking fun _ h => h.sound) fun _ => ?_
  rw [← hvalidator]
  refine triple_bind (triple_receive policy number response.body journal 0)
    fun result => ?_
  intro s h
  obtain ⟨⟨hreceiving, n, hn, htotal⟩, hlawful, hretains⟩ := h
  have hcheckpoint : Accounts C artifact start (Receiving artifact number result.1 result.2)
      (plain (checkpoint environment result.1 result.2)) _ _ := triple_noted_checkpoint
  refine triple_bind hcheckpoint (fun journal' s h => ?_) s ⟨hreceiving, hlawful, hretains⟩
  obtain ⟨⟨hreceiving', ⟨-, hreceived⟩, hsaved⟩, hlawful, hretains⟩ := h
  have hlinked : Linked artifact journal' s.1.disk :=
    ⟨⟨hreceiving'.sound, hreceiving'.journalOf, hreceiving'.length,
      le_antisymm (hreceiving'.synced.2.trans hreceiving'.length.le) hreceiving'.synced.1,
      number, hreceiving'.source⟩, hsaved⟩
  have hfits := hreceiving'.fits
  refine triple_verifyCompletedFile codec (fun hC => ?_) s ⟨hlinked, hlawful, hretains⟩
  rcases hsuffices hC n hn with hnothing | hall
  · exact .inl (by omega)
  · exact .inr (by omega)

theorem triple_noted_restartUnvalidated :
    Accounts C artifact start (Linked artifact journal)
      (noting .unvalidated (restartUnvalidated environment journal))
      (Linked artifact) (Sound artifact) := by
  unfold restartUnvalidated
  by_cases hunvalidated : journal.receivedBytes > 0 ∧ journal.validator.isNone
  · rw [if_pos hunvalidated]
    exact triple_losing (fun world h => triple_restartDownload h.journalOf world h.sound)
      fun _ _ h _ => .inr ⟨journal, h.saved, Option.isNone_iff_eq_none.1 hunvalidated.2⟩
  · rw [if_neg hunvalidated]
    exact triple_keeping fun _ => triple_pure _ fun _ h => h

theorem triple_noted_send {request : DownloadRequest} {P F : DownloadDisk → Prop}
    (h : ∀ disk, P disk → F disk) :
    Accounts C artifact start P (plain (send environment request))
      (fun reply disk => P disk ∧ ∃ n, (environment n).reply request = .response reply.2) F := by
  have hsurvive : Triple (OnDisk fun _ => True) (survive environment)
      (fun moment => OnDisk fun _ => ∃ n, environment n = moment) (OnDisk fun _ => True) := by
    intro world _
    show Ends _ _ ((if (environment world.clock).fault.any OperationFault.dies then throw .died
      else return environment world.clock : Download Moment) _)
    by_cases hdies : (environment world.clock).fault.any OperationFault.dies
    · rw [if_pos hdies]
      trivial
    · rw [if_neg hdies]
      exact ⟨world.clock, rfl⟩
  have hreply : Triple (OnDisk fun _ => True) (send environment request)
      (fun reply => OnDisk fun _ => ∃ n, (environment n).reply request = .response reply.2)
      (OnDisk fun _ => True) := by
    refine triple_bind hsurvive fun moment => ?_
    rintro world ⟨n, rfl⟩
    cases hreply : (environment n).reply request with
    | cancelled => trivial
    | clientError => trivial
    | response response => exact ⟨n, hreply⟩
  exact triple_keeping fun before => ((triple_send fun _ hdisk => ⟨h _ hdisk.1, hdisk.2⟩).and
    hreply).mono (fun _ hdisk => ⟨hdisk, trivial⟩)
      (fun _ _ hdisk => ⟨⟨hdisk.1.1, hdisk.2⟩, hdisk.1.2⟩) fun _ hdisk => hdisk.1

/-! ### The reconciliation -/

/-- The saved journal stays, and the file has as many bytes. -/
def Holding (saved : Option DownloadJournal) (length : Nat) (disk : DownloadDisk) : Prop :=
  disk.journal = saved ∧ length ≤ disk.content.length

theorem keeps_truncate_holding (saved : Option DownloadJournal) (length : Nat) :
    Keeps (OnDisk (Holding saved length)) (truncate environment length) := by
  refine triple_bind (triple_look fun _ h => h) fun _ => ?_
  refine triple_bind (triple_change (Q := Holding saved length) (fun _ h => h) (fun _ h => h)
    fun _ h => h) fun _ => ?_
  refine triple_bind (triple_change (Q := Holding saved length) (fun disk h => ⟨h.1, ?_⟩)
    (fun _ h => h) fun _ h => h) fun _ => ?_
  · rw [content_setLen h.2, List.length_take, min_eq_left h.2]
  · exact triple_change (fun _ h => h) (fun _ h => h) fun _ h => h

/-- A file that is not shorter than the journal says keeps what it counts. -/
theorem triple_reconcile_holding {saved : Option DownloadJournal} :
    Triple (OnDisk (Holding saved journal.receivedBytes))
      (reconcileFileAndJournal environment journal)
      (fun journal' => OnDisk fun disk =>
        Holding saved journal.receivedBytes disk ∧ journal' = journal)
      (OnDisk (Holding saved journal.receivedBytes)) := by
  refine triple_bind (triple_look fun _ h => h) fun _ => triple_get fun world hworld => ?_
  have hless : ¬ world.disk.content.length < journal.receivedBytes := not_lt.2 hworld.2
  by_cases hmore : world.disk.content.length > journal.receivedBytes
  · simp only [hless, hmore, if_true, if_false]
    refine triple_bind ((keeps_truncate_holding saved _).mono ?_ (fun _ _ h => h) fun _ h => h)
      fun _ => triple_pure _ fun _ h => ⟨h, rfl⟩
    rintro _ rfl
    exact hworld
  · simp only [hless, hmore, if_false]
    refine triple_pure _ ?_
    rintro _ rfl
    exact ⟨hworld, rfl⟩

/-- **The reconciliation** loses something only where the file is shorter than the journal says. -/
theorem triple_noted_reconcile {saved : Option DownloadJournal} :
    Accounts C artifact start (fun disk => Sound artifact disk ∧ disk.journal = saved)
      (noting .reconciliation (Watched.reconcile environment
        (saved.getD (.new artifact.id artifact.sizeBytes artifact.sha256))))
      (Linked artifact) (Sound artifact) := by
  refine triple_noting fun before hbefore => ?_
  generalize hjournal : saved.getD (.new artifact.id artifact.sizeBytes artifact.sha256) = journal
  have hlinks : Triple (OnDisk fun disk => Sound artifact disk ∧ disk.journal = saved)
      (Watched.reconcile environment journal) (fun journal => OnDisk (Linked artifact journal))
      (OnDisk (Sound artifact)) := by
    subst hjournal
    exact triple_bind triple_reconcile_loaded fun journal => triple_bind
      (triple_save (Q := Linked artifact journal) (fun disk h => h.save) (fun _ h => h.sound)
        fun _ h => h.sound) fun _ => triple_pure _ fun _ h => h
  have hbytes : before.savedBytes = journal.receivedBytes := by
    cases saved with
    | none => rw [← hjournal, savedBytes, hbefore.2]; rfl
    | some journal => rw [← hjournal, savedBytes_of_journal hbefore.2]; rfl
  by_cases hless : before.content.length < journal.receivedBytes
  · have hsaved : before.journal = some journal := by
      cases saved with
      | none => rw [← hjournal] at hless; exact absurd hless (Nat.not_lt_zero _)
      | some journal => rw [← hjournal]; exact hbefore.2
    rintro world rfl
    exact (hlinks world hbefore).mono (fun _ _ h => ⟨h, fun _ => .inr ⟨journal, hsaved, hless⟩⟩)
      fun _ h => ⟨h, fun _ => .inr ⟨journal, hsaved, hless⟩⟩
  · have hretains : ∀ disk, Holding saved journal.receivedBytes disk → Retains before disk :=
      fun disk h => retains_of_le (h.1.trans hbefore.2.symm)
        ((min_le_left _ _).trans (hbytes.le.trans h.2))
    have hkeeps : Triple (OnDisk (Holding saved journal.receivedBytes))
        (Watched.reconcile environment journal) (fun _ => OnDisk (Retains before))
        (OnDisk (Retains before)) := by
      refine triple_bind (triple_reconcile_holding.mono_fails fun _ h => hretains _ h)
        fun journal' => triple_bind (triple_save (Q := Retains before) (fun disk h => ?_)
          (fun _ h => hretains _ h.1) fun _ h => h) fun _ => triple_pure _ fun _ h => h
      exact h.2 ▸ retains_save hbytes.le h.1.2
    refine (hlinks.and hkeeps).mono ?_ (fun _ _ h => ⟨h.1, fun _ => .inl h.2⟩)
      fun _ h => ⟨h.1, fun _ => .inl h.2⟩
    rintro world rfl
    exact ⟨hbefore, hbefore.2, not_lt.1 hless⟩

/-! ### The attempts and the mirrors -/

/-- A response that goes on where the journal is, and whose body is taken. -/
def Accepted (artifact : ArtifactV1) (journal : DownloadJournal) (response : DownloadResponse) :
    Prop :=
  (200 ≤ response.status && response.status < 300) = true ∧ ∃ rangeStart totalSize journal',
    responseExtent response artifact.sizeBytes = .ok (rangeStart, totalSize) ∧
    honors journal response.status rangeStart (strongEtag response.etag) = true ∧
    journal.acceptResponse ⟨response.status, rangeStart, totalSize, strongEtag response.etag⟩ =
      .ok journal'

/-- No body that is accepted ends early. -/
def NoShortBody (artifact : ArtifactV1) (environment : Nat → Moment) : Prop :=
  ∀ n, ∀ url ∈ artifact.sourceUrls, ∀ journal response, JournalOf artifact journal →
    (environment n).reply (resumeRequest url journal) = .response response →
    Accepted artifact journal response → Suffices artifact journal response.body

theorem triple_attempts (codec : Codec) (policy : DownloadPolicy) {url : Text}
    (hurl : url ∈ artifact.sourceUrls) (hbodies : C → NoShortBody artifact environment)
    (left : Nat) (journal : DownloadJournal) :
    Accounts C artifact start (Linked artifact journal)
      (Watched.attempts environment codec policy artifact url left journal)
      (Fetched codec artifact) (Sound artifact) := by
  induction left generalizing journal with
  | zero => exact triple_failing fun _ h => h.sound
  | succ left ih =>
    refine triple_bind (triple_keeping (Q := fun _ => Linked artifact journal) fun _ =>
      triple_nextMoment environment) fun moment => ?_
    refine triple_bind (triple_checking fun _ h => h.sound) fun _ => ?_
    refine triple_bind (triple_noted_restartUnvalidated.requiring fun _ h => h.1)
      fun journal => ?_
    refine triple_bind (triple_noted_send fun _ h => h.sound) fun reply => ?_
    obtain ⟨number, response⟩ := reply
    refine triple_bind (triple_checking fun _ h => h.1.sound) fun _ => ?_
    refine triple_bind (triple_computing (Q := fun extent disk => Linked artifact journal disk ∧
        (∃ n, (environment n).reply (resumeRequest url journal) = .response response) ∧
        (200 ≤ response.status && response.status < 300) = true ∧
        responseExtent response artifact.sizeBytes = .ok extent)
      (fun extent hextent _ h => ⟨h.1.1, h.1.2, h.2, hextent⟩) fun _ h => h.1.1.sound)
      fun extent => ?_
    obtain ⟨rangeStart, totalSize⟩ := extent
    rintro s ⟨⟨hlinked, ⟨n, hreply⟩, hstatus, hextent⟩, hlawful, hretains⟩
    by_cases hhonors : honors journal response.status rangeStart (strongEtag response.etag)
    · simp only [hhonors, not_true, if_false]
      refine triple_bind (triple_computing (Q := fun journal' disk =>
          Receiving artifact number journal' 0 disk ∧ journal.acceptResponse
            ⟨response.status, rangeStart, totalSize, strongEtag response.etag⟩ = .ok journal')
        (fun journal' haccept disk h => ?_) fun _ h => h.sound)
        (fun journal' s h => ?_) s ⟨hlinked, hlawful, hretains⟩
      · have haccept := mapError_eq_ok.1 haccept
        exact ⟨h.receiving number haccept, haccept⟩
      · obtain ⟨⟨hreceiving, haccept⟩, hlawful, hretains⟩ := h
        have hsuffices : C → Suffices artifact
            { journal with validator := strongEtag response.etag } response.body :=
          fun hC => hbodies hC n url hurl journal response hlinked.journalOf hreply
            ⟨hstatus, rangeStart, totalSize, journal', hextent, hhonors, haccept⟩
        obtain ⟨-, rfl, -⟩ := DownloadJournal.acceptResponse_eq_ok haccept
        exact triple_takeBody codec policy number rfl hsuffices s
          ⟨hreceiving, hlawful, hretains⟩
    · simp only [hhonors]
      by_cases hfirst : left = 1
      · rw [if_pos Bool.false_ne_true, if_pos hfirst]
        refine triple_bind (triple_losing (P := Linked artifact journal)
          (fun world h => triple_restartDownload h.journalOf world h.sound)
          fun _ _ h _ => .inr ⟨journal, h.saved, ?_⟩) ih s ⟨hlinked, hlawful, hretains⟩
        rintro ⟨hrange, ⟨total, hstart⟩, hsame⟩
        rw [hextent] at hstart
        cases hstart
        simp [honors, hrange, hsame] at hhonors
      · rw [if_pos Bool.false_ne_true, if_neg hfirst]
        exact triple_failing (fun _ h => h.sound) s ⟨hlinked, hlawful, hretains⟩

theorem triple_downloadFromUrl (codec : Codec) (policy : DownloadPolicy) {url : Text}
    (hurl : url ∈ artifact.sourceUrls) (hbodies : C → NoShortBody artifact environment) :
    Accounts C artifact start (Sound artifact)
      (Watched.downloadFromUrl environment codec policy artifact url) (Fetched codec artifact)
      (Sound artifact) := by
  refine triple_bind (triple_looking fun _ h => h) fun _ => ?_
  refine triple_bind (triple_keeping (Q := fun saved disk => Sound artifact disk ∧
    disk.journal = saved) fun before => triple_load.mono (fun _ h => h)
      (fun _ _ h => ⟨⟨h.1.1, h.2⟩, h.1.2⟩) fun _ h => h) fun saved => ?_
  refine triple_bind (triple_checking fun _ h => h.1) fun _ => ?_
  refine triple_bind (triple_noted_reconcile.requiring fun _ h => h.1) fun journal => ?_
  by_cases hreceived : journal.receivedBytes = journal.expectedSize
  · rw [if_pos hreceived]
    intro s h
    have hsize := h.disk.journalOf.target.2.1
    exact triple_verifyCompletedFile codec (fun _ => .inr (hreceived.trans hsize.symm)) s h
  · rw [if_neg hreceived]
    exact triple_attempts codec policy hurl hbodies 2 journal

theorem triple_trySources (codec : Codec) (urls : UrlLibrary) (policy : DownloadPolicy)
    (hbodies : C → NoShortBody artifact environment) (sources : List Text)
    (hsources : ∀ source ∈ sources, source ∈ artifact.sourceUrls)
    (lastError : Option DownloadError) :
    Accounts C artifact start (Sound artifact)
      (Watched.trySources environment codec urls policy artifact sources lastError)
      (Fetched codec artifact) (Sound artifact) := by
  induction sources generalizing lastError with
  | nil => exact triple_failing fun _ h => h
  | cons source sources ih =>
    refine triple_bind (triple_computing (fun _ _ _ h => h) fun _ h => h) fun url => ?_
    refine triple_bind (triple_checking fun _ h => h) fun _ => ?_
    refine triple_tryCatch ((triple_downloadFromUrl codec policy
      (hsources source List.mem_cons_self) hbodies).requiring fun _ h => h.1) fun stop => ?_
    cases stop with
    | died => exact triple_throw _ fun _ h => h
    | failed error =>
      by_cases hfinal : final error
      · simp only [hfinal, if_true]
        exact triple_failing fun _ h => h
      · simp only [hfinal]
        exact ih (fun source hsource => hsources source (List.mem_cons_of_mem _ hsource))
          (some error)

theorem triple_watched_download (codec : Codec) (urls : UrlLibrary) (policy : DownloadPolicy)
    (identity : PackRevision) (selection : DownloadAuthorization)
    (hbodies : C → NoShortBody artifact environment) :
    Accounts C artifact start (Sound artifact)
      (Watched.download environment codec urls policy identity artifact selection)
      (Fetched codec artifact) (Sound artifact) := by
  refine triple_bind (triple_checking fun _ h => h) fun _ => ?_
  refine triple_bind (triple_computing (fun _ _ _ h => h.1) fun _ h => h.1) fun _ => ?_
  refine triple_bind (triple_looking fun _ h => h) fun _ => ?_
  exact triple_trySources codec urls policy hbodies _ (fun _ h => h) none

/-- **A download** that returns leaves the artifact, and one that does not a disk to go on from. -/
theorem triple_download (codec : Codec) (urls : UrlLibrary) (policy : DownloadPolicy)
    (identity : PackRevision) (selection : DownloadAuthorization) :
    Triple (OnDisk (Sound artifact))
      (download environment codec urls policy identity artifact selection)
      (fun _ => OnDisk fun disk => Sound artifact disk ∧ Genuine codec artifact disk)
      (OnDisk (Sound artifact)) := by
  intro world h
  rw [← forgets_download urls policy identity selection (world, [])]
  have hbodies : False → NoShortBody artifact environment := False.elim
  have hends := triple_watched_download codec urls policy identity selection hbodies (world, [])
    ⟨h, fun hC => hC.elim, fun _ => Retains.refl _⟩
  rcases hout : Watched.download environment codec urls policy identity artifact selection
    (world, []) with ⟨error | a, s⟩
  · rw [hout] at hends
    exact hends.disk
  · rw [hout] at hends
    exact hends.disk

end Calls

end Downloader

end NpcRuntime.Packs
