import NpcRuntime.Packs.Downloader

/-!
# The states of a download

Three states of the disk carry a download, wherever a call is cut off: `Sound` at every moment,
`Linked` where the file, the journal at hand and the saved one agree, and `Receiving` while a body
comes in, when the file is ahead of the journals.
-/

namespace NpcRuntime.Packs

open DownloadDisk

/-- A byte may stand in a file of the validator; without one, it is from the response itself. -/
def FromResponse (number : Nat) (validator : Option Text) (b : FileByte) : Prop :=
  match validator with
  | some v => ∃ number, b.source = .response number (some v)
  | none => b.source = .response number none

theorem fromResponse_self {number : Nat} {validator : Option Text} {b : FileByte}
    (h : b.source = .response number validator) : FromResponse number validator b := by
  cases validator with
  | none => exact h
  | some v => exact ⟨number, h⟩

/-- The bytes are from responses with the validator, or from one response. -/
def OneSource (validator : Option Text) (content : List FileByte) : Prop :=
  ∃ number, ∀ b ∈ content, FromResponse number validator b

theorem oneSource_nil (validator : Option Text) : OneSource validator [] :=
  ⟨0, fun _ h => absurd h List.not_mem_nil⟩

/-- A journal of the artifact. -/
structure JournalOf (artifact : ArtifactV1) (journal : DownloadJournal) : Prop where
  target : (DownloadJournal.new artifact.id artifact.sizeBytes artifact.sha256).SameTarget journal
  received_le : journal.receivedBytes ≤ journal.expectedSize
  complete : journal.complete → journal.receivedBytes = journal.expectedSize

/-- The file is as its saved journal says. -/
structure Sound (artifact : ArtifactV1) (disk : DownloadDisk) : Prop where
  reach : disk.reach ≤ artifact.sizeBytes
  synced : disk.synced ≤ disk.content.length
  journal : ∀ journal, disk.journal = some journal → JournalOf artifact journal ∧
    (journal.receivedBytes ≤ disk.content.length → journal.receivedBytes ≤ disk.synced ∧
      OneSource journal.validator (disk.content.take journal.receivedBytes))

/-- The file is as the journal at hand says. -/
structure Placed (artifact : ArtifactV1) (journal : DownloadJournal) (disk : DownloadDisk) : Prop where
  sound : Sound artifact disk
  journalOf : JournalOf artifact journal
  length : disk.content.length = journal.receivedBytes
  synced : disk.synced = journal.receivedBytes
  source : OneSource journal.validator disk.content

/-- The journal at hand is the saved one, too. -/
structure Linked (artifact : ArtifactV1) (journal : DownloadJournal) (disk : DownloadDisk) : Prop
    extends Placed artifact journal disk where
  saved : disk.journal = some journal

/-- A body comes in; `uncommitted` bytes of it are not in the journals. -/
structure Receiving (artifact : ArtifactV1) (number : Nat) (journal : DownloadJournal)
    (uncommitted : Nat) (disk : DownloadDisk) : Prop where
  reach : disk.reach ≤ artifact.sizeBytes
  journalOf : JournalOf artifact journal
  incomplete : journal.complete = false
  length : disk.content.length = journal.receivedBytes + uncommitted
  fits : journal.receivedBytes + uncommitted ≤ artifact.sizeBytes
  synced : journal.receivedBytes ≤ disk.synced ∧ disk.synced ≤ disk.content.length
  source : ∀ b ∈ disk.content, FromResponse number journal.validator b
  saved : ∃ saved, disk.journal = some saved ∧ JournalOf artifact saved ∧
    saved.receivedBytes = journal.receivedBytes ∧
    (saved.receivedBytes = 0 ∨ saved.validator = journal.validator)

variable {uncommitted : Nat}

section Disk

variable {artifact : ArtifactV1} {journal : DownloadJournal} {disk : DownloadDisk} {number : Nat}

theorem journalOf_restart (h : JournalOf artifact journal) : JournalOf artifact journal.restart :=
  ⟨h.target.trans (DownloadJournal.sameTarget_restart _), Nat.zero_le _, fun h => by cases h⟩

theorem Placed.save (h : Placed artifact journal disk) :
    Linked artifact journal { disk with journal := some journal } where
  sound := by
    refine ⟨h.sound.reach, h.sound.synced, fun journal' hjournal => ?_⟩
    obtain rfl := Option.some.inj hjournal
    refine ⟨h.journalOf, fun _ => ⟨h.synced.ge, ?_⟩⟩
    show OneSource _ (disk.content.take _)
    rw [List.take_of_length_le h.length.le]
    exact h.source
  journalOf := h.journalOf
  length := h.length
  synced := h.synced
  source := h.source
  saved := rfl

theorem Sound.openRw (h : Sound artifact disk) : Sound artifact disk.openRw :=
  ⟨h.reach, h.synced, h.journal⟩

theorem content_setLen {length : Nat} (hlength : length ≤ disk.content.length) :
    (disk.setLen length).content = disk.content.take length := by
  show disk.content.take length ++ hole (length - disk.content.length) = _
  rw [Nat.sub_eq_zero_of_le hlength]
  exact List.append_nil _

/-- A file that is cut has lost what its journal counts, or none of it. -/
theorem Sound.setLen (h : Sound artifact disk) {length : Nat}
    (hlength : length ≤ disk.content.length) : Sound artifact (disk.setLen length) := by
  have hcontent := content_setLen hlength
  have hlen : (disk.setLen length).content.length = length := by
    rw [hcontent, List.length_take, min_eq_left hlength]
  refine ⟨h.reach, ?_, fun journal hjournal => ?_⟩
  · rw [hlen]
    exact min_le_right _ _
  · obtain ⟨hof, hbytes⟩ := h.journal journal hjournal
    refine ⟨hof, fun hreceived => ?_⟩
    rw [hlen] at hreceived
    obtain ⟨hsynced, hsource⟩ := hbytes (hreceived.trans hlength)
    refine ⟨le_min hsynced hreceived, ?_⟩
    rw [hcontent, List.take_take, min_eq_left hreceived]
    exact hsource

theorem Sound.syncData (h : Sound artifact disk) : Sound artifact disk.syncData :=
  ⟨h.reach, le_refl _, fun journal hjournal =>
    ⟨(h.journal journal hjournal).1, fun hreceived =>
      ⟨hreceived, ((h.journal journal hjournal).2 hreceived).2⟩⟩⟩

theorem content_crash (left : Bytes) (disk : DownloadDisk) :
    (disk.crash left).content = disk.content.take disk.synced ++
      (left.map fun byte => ⟨byte, .foreign⟩).take (disk.content.length - disk.synced) := by
  cases hfile : disk.file with
  | none => simp [DownloadDisk.crash, content, hfile]
  | some _ => simp [DownloadDisk.crash, content, hfile]

/-- What a crash leaves still has the bytes that the saved journal counts, or not so many. -/
theorem Sound.crash (h : Sound artifact disk) (left : Bytes) : Sound artifact (disk.crash left) := by
  have hcontent := content_crash left disk
  have hsynced : (disk.crash left).synced = (disk.crash left).content.length := by
    rw [hcontent]
    rfl
  have hlength : (disk.crash left).content.length ≤ disk.content.length := by
    rw [hcontent, List.length_append, List.length_take, List.length_take, min_eq_left h.synced]
    have := h.synced
    omega
  refine ⟨h.reach, hsynced.le, fun journal hjournal => ?_⟩
  obtain ⟨hof, hbytes⟩ := h.journal journal hjournal
  refine ⟨hof, fun hreceived => ?_⟩
  obtain ⟨hreceived', hsource⟩ := hbytes (hreceived.trans hlength)
  refine ⟨hsynced ▸ hreceived, ?_⟩
  rw [hcontent, List.take_append_of_le_length (by
    rw [List.length_take, min_eq_left h.synced]
    exact hreceived'), List.take_take, min_eq_left hreceived']
  exact hsource

theorem Receiving.sound (h : Receiving artifact number journal uncommitted disk) :
    Sound artifact disk := by
  refine ⟨h.reach, h.synced.2, fun journal' hjournal => ?_⟩
  obtain ⟨saved, hsaved, hof, hreceived, hvalidator⟩ := h.saved
  obtain rfl := Option.some.inj (hsaved.symm.trans hjournal)
  refine ⟨hof, fun _ => ⟨hreceived ▸ h.synced.1, ?_⟩⟩
  rcases hvalidator with hzero | hvalidator
  · rw [hzero]
    exact oneSource_nil _
  · rw [hvalidator]
    exact ⟨number, fun b hb => h.source b (List.mem_of_mem_take hb)⟩

/-- Bytes of the response go to the end of the file. -/
theorem Receiving.writeAt (h : Receiving artifact number journal uncommitted disk)
    {written : List FileByte} (hwritten : ∀ b ∈ written, FromResponse number journal.validator b)
    (hfits : journal.receivedBytes + uncommitted + written.length ≤ artifact.sizeBytes) :
    Receiving artifact number journal (uncommitted + written.length)
      (disk.writeAt (journal.receivedBytes + uncommitted) written) := by
  have hcontent : (disk.writeAt (journal.receivedBytes + uncommitted) written).content =
      disk.content ++ written := by
    show disk.content.take _ ++ hole _ ++ written ++ disk.content.drop _ = _
    rw [← h.length, List.take_length, Nat.sub_self, List.drop_eq_nil_of_le (Nat.le_add_right _ _)]
    simp [hole]
  refine ⟨max_le h.reach hfits, h.journalOf, h.incomplete, ?_, by omega, ⟨?_, ?_⟩, ?_, h.saved⟩
  · rw [hcontent, List.length_append, h.length]
    omega
  · exact le_min h.synced.1 (Nat.le_add_right _ _)
  · rw [hcontent, List.length_append]
    exact (min_le_left _ _).trans (h.synced.2.trans (Nat.le_add_right _ _))
  · intro b hb
    rw [hcontent, List.mem_append] at hb
    exact hb.elim (h.source b) (hwritten b)

/-- A response that is accepted goes on with what is in the file. -/
theorem Linked.receiving {journal' : DownloadJournal} {response : ResumeResponse}
    (h : Linked artifact journal disk) (number : Nat)
    (haccept : journal.acceptResponse response = .ok journal') :
    Receiving artifact number journal' 0 disk := by
  obtain ⟨hincomplete, rfl, hvalidator⟩ := DownloadJournal.acceptResponse_eq_ok haccept
  have hof : JournalOf artifact { journal with validator := response.validator } :=
    ⟨h.journalOf.target, h.journalOf.received_le, h.journalOf.complete⟩
  have hsize : journal.expectedSize = artifact.sizeBytes := h.journalOf.target.2.1.symm
  refine ⟨h.sound.reach, hof, hincomplete, h.length, hsize ▸ h.journalOf.received_le,
    ⟨h.synced.ge, h.sound.synced⟩, fun b hb => ?_, journal, h.saved, h.journalOf, rfl, ?_⟩
  · obtain ⟨number', hsource⟩ := h.source
    rcases hvalidator with hzero | ⟨hsome, hsame⟩
    · rw [List.eq_nil_of_length_eq_zero (h.length.trans hzero)] at hb
      exact absurd hb List.not_mem_nil
    · -- with a validator it does not matter which response it was
      obtain ⟨v, hv⟩ := Option.isSome_iff_exists.1 hsome
      have hb := hsource b hb
      rw [hv] at hb
      rw [hsame, hv]
      exact hb
  · exact hvalidator.imp id fun hvalidator => hvalidator.2.symm

theorem Receiving.syncData (h : Receiving artifact number journal uncommitted disk) :
    Receiving artifact number journal uncommitted disk.syncData :=
  ⟨h.reach, h.journalOf, h.incomplete, h.length, h.fits,
    ⟨by show _ ≤ disk.content.length; rw [h.length]; exact Nat.le_add_right _ _, le_refl _⟩,
    h.source, h.saved⟩

end Disk

/-! ## Operations -/

/-- A property of the disk, of a world. -/
abbrev OnDisk (P : DownloadDisk → Prop) (world : DownloadWorld) : Prop := P world.disk

namespace Downloader

section Operations

variable {environment : Nat → Moment} {P Q F : DownloadDisk → Prop} {error : DownloadError}

theorem triple_fail {α : Type} {post : α → DownloadWorld → Prop} (h : ∀ disk, P disk → F disk) :
    Triple (OnDisk P) (fail error : Download α) post (OnDisk F) :=
  triple_throw _ fun world hworld => h world.disk hworld

theorem triple_liftDownload {α : Type} {x : Except DownloadError α}
    {R : α → DownloadDisk → Prop} (h : ∀ a, x = .ok a → ∀ disk, P disk → R a disk)
    (hfails : ∀ disk, P disk → F disk) :
    Triple (OnDisk P) (liftDownload x) (fun a => OnDisk (R a)) (OnDisk F) :=
  triple_liftExcept (fun a ha world hworld => h a (mapError_eq_ok.1 ha) world.disk hworld)
    fun world hworld => hfails world.disk hworld

theorem triple_nextMoment (environment : Nat → Moment) :
    Triple (OnDisk P) (nextMoment environment) (fun _ => OnDisk P) (OnDisk F) :=
  fun _ hworld => hworld

theorem triple_survive (h : ∀ disk, P disk → F disk) :
    Triple (OnDisk P) (survive environment) (fun _ => OnDisk P) (OnDisk F) := by
  refine triple_bind (triple_nextMoment environment) fun moment => ?_
  by_cases hdies : moment.fault.any OperationFault.dies
  · rw [if_pos hdies]
    exact triple_throw _ fun world hworld => h world.disk hworld
  · rw [if_neg hdies]
    exact triple_pure _ fun _ hworld => hworld

theorem triple_require {condition : Bool} (h : ∀ disk, P disk → F disk) :
    Triple (OnDisk P) (liftDownload (require condition error))
      (fun _ => OnDisk fun disk => P disk ∧ condition = true) (OnDisk F) :=
  triple_liftDownload (R := fun _ disk => P disk ∧ condition = true)
    (fun _ hok _ hdisk => ⟨hdisk, require_eq_ok.1 hok⟩) h

theorem triple_operate {whole : DownloadDisk → DownloadDisk}
    {part : Nat → DownloadDisk → DownloadDisk} (h : ∀ disk, P disk → Q (whole disk))
    (hpart : ∀ n disk, P disk → F (part n disk)) :
    Triple (OnDisk P) (operate environment error whole part) (fun _ => OnDisk Q) (OnDisk F) := by
  refine triple_bind (triple_nextMoment environment) fun moment => ?_
  cases moment.fault with
  | none => exact triple_modify fun world hworld => h world.disk hworld
  | some fault =>
    exact triple_modify_bind (OnDisk F)
      (fun world hworld => hpart fault.progress world.disk hworld)
      (triple_throw _ fun _ hworld => hworld)

theorem triple_look (h : ∀ disk, P disk → F disk) :
    Triple (OnDisk P) (look environment error) (fun _ => OnDisk P) (OnDisk F) :=
  triple_operate (fun _ hdisk => hdisk) fun _ disk hdisk => h disk hdisk

theorem triple_change {f : DownloadDisk → DownloadDisk} (h : ∀ disk, P disk → Q (f disk))
    (hbefore : ∀ disk, P disk → F disk) (hafter : ∀ disk, Q disk → F disk) :
    Triple (OnDisk P) (change environment error f) (fun _ => OnDisk Q) (OnDisk F) := by
  refine triple_operate h fun n disk hdisk => ?_
  by_cases hn : n = 0
  · rw [if_pos hn]
    exact hbefore disk hdisk
  · rw [if_neg hn]
    exact hafter _ (h disk hdisk)

end Operations

section Calls

variable {environment : Nat → Moment} {artifact : ArtifactV1} {journal : DownloadJournal}

theorem triple_save {F : DownloadDisk → Prop} {P Q : DownloadDisk → Prop}
    (h : ∀ disk, P disk → Q { disk with journal := some journal })
    (hbefore : ∀ disk, P disk → F disk) (hafter : ∀ disk, Q disk → F disk) :
    Triple (OnDisk P) (save environment journal) (fun _ => OnDisk Q) (OnDisk F) :=
  triple_bind (triple_liftDownload (R := fun _ => P) (fun _ _ _ hdisk => hdisk) hbefore) fun _ =>
    triple_change h hbefore hafter

theorem triple_send {P F : DownloadDisk → Prop} {request : DownloadRequest}
    (h : ∀ disk, P disk → F disk) :
    Triple (OnDisk P) (send environment request) (fun _ => OnDisk P) (OnDisk F) := by
  refine triple_bind (triple_survive h) fun moment => ?_
  cases moment.reply request with
  | cancelled => exact triple_fail h
  | clientError => exact triple_fail h
  | response response =>
    refine triple_get fun world hworld => ?_
    refine triple_bind (triple_modify fun world' hworld' => ?_) fun _ => triple_pure _ fun _ h => h
    subst hworld'
    exact hworld

theorem triple_load {P : DownloadDisk → Prop} {artifactId : Text} :
    Triple (OnDisk P) (load environment artifactId)
      (fun saved => OnDisk fun disk => P disk ∧ disk.journal = saved) (OnDisk P) := by
  refine triple_bind (triple_require fun _ h => h) fun _ => ?_
  refine triple_bind (triple_look fun _ h => h.1) fun _ => ?_
  refine triple_get fun world hworld => triple_pure _ fun world' hworld' => ?_
  subst hworld'
  exact ⟨hworld.1, rfl⟩

/-- **A file that is cut** at `length` keeps its first bytes, durably. -/
theorem triple_truncate (length : Nat) (kept : List FileByte) :
    Triple (OnDisk fun disk => Sound artifact disk ∧ length ≤ disk.content.length ∧
        disk.content.take length = kept)
      (truncate environment length)
      (fun _ => OnDisk fun disk => Sound artifact disk ∧ disk.content = kept ∧
        disk.synced = kept.length)
      (OnDisk (Sound artifact)) := by
  refine triple_bind (triple_look fun _ h => h.1) fun _ => ?_
  refine triple_bind (triple_change (Q := fun disk => Sound artifact disk ∧
      length ≤ disk.content.length ∧ disk.content.take length = kept)
    (fun _ h => ⟨h.1.openRw, h.2⟩) (fun _ h => h.1) fun _ h => h.1) fun _ => ?_
  refine triple_bind (triple_change (Q := fun disk => Sound artifact disk ∧ disk.content = kept)
    (fun _ h => ⟨h.1.setLen h.2.1, (content_setLen h.2.1).trans h.2.2⟩)
    (fun _ h => h.1) fun _ h => h.1) fun _ => ?_
  refine triple_change (fun disk h => ⟨h.1.syncData, h.2, ?_⟩) (fun _ h => h.1) fun _ h => h.1
  show disk.content.length = _
  rw [h.2]

/-- **A restart** leaves no file and a journal that says so. -/
theorem triple_restartDownload (hjournal : JournalOf artifact journal) :
    Triple (OnDisk (Sound artifact)) (restartDownload environment journal)
      (fun journal' => OnDisk (Linked artifact journal')) (OnDisk (Sound artifact)) := by
  refine triple_bind ((triple_truncate 0 []).mono
    (fun world h => ⟨h, Nat.zero_le _, List.take_zero⟩) (fun _ _ h => h) fun _ h => h) fun _ => ?_
  refine triple_bind (triple_save (Q := Linked artifact journal.restart) (fun disk h => ?_)
    (fun _ h => h.1) fun _ h => h.sound) fun _ => triple_pure _ fun _ h => h
  refine Placed.save ⟨h.1, journalOf_restart hjournal, ?_, h.2.2, ?_⟩
  · rw [h.2.1]
    rfl
  · rw [h.2.1]
    exact oneSource_nil _

/-- **The file and the journal are made to agree.** -/
theorem triple_reconcile (hjournal : JournalOf artifact journal) :
    Triple (OnDisk fun disk => Sound artifact disk ∧
        (disk.journal = some journal ∨ journal.receivedBytes = 0))
      (reconcileFileAndJournal environment journal)
      (fun journal' => OnDisk (Placed artifact journal')) (OnDisk (Sound artifact)) := by
  refine triple_bind (triple_look fun _ h => h.1) fun _ => triple_get fun world hworld => ?_
  obtain ⟨hsound, hsaved⟩ := hworld
  -- what the journal counts is in the file, if the file is so long
  have hbytes : journal.receivedBytes ≤ world.disk.content.length →
      journal.receivedBytes ≤ world.disk.synced ∧
        OneSource journal.validator (world.disk.content.take journal.receivedBytes) := by
    rcases hsaved with hsaved | hzero
    · exact (hsound.journal journal hsaved).2
    · rw [hzero]
      exact fun _ => ⟨Nat.zero_le _, oneSource_nil _⟩
  by_cases hless : world.disk.content.length < journal.receivedBytes
  · simp only [hless, if_true]
    refine triple_bind ((triple_truncate 0 []).mono ?_ (fun _ _ h => h) fun _ h => h) fun _ =>
      triple_pure _ fun world' h => ⟨h.1, journalOf_restart hjournal, ?_, h.2.2, ?_⟩
    · rintro _ rfl
      exact ⟨hsound, Nat.zero_le _, List.take_zero⟩
    · rw [h.2.1]
      rfl
    · rw [h.2.1]
      exact oneSource_nil _
  · obtain ⟨hsynced, hsource⟩ := hbytes (not_lt.1 hless)
    by_cases hmore : world.disk.content.length > journal.receivedBytes
    · simp only [hless, hmore, if_true, if_false]
      have hkept : (world.disk.content.take journal.receivedBytes).length = journal.receivedBytes :=
        List.length_take_of_le hmore.le
      refine triple_bind ((triple_truncate journal.receivedBytes
          (world.disk.content.take journal.receivedBytes)).mono ?_ (fun _ _ h => h) fun _ h => h)
        fun _ => triple_pure _ fun world' h => ⟨h.1, hjournal, ?_, h.2.2.trans hkept, ?_⟩
      · rintro _ rfl
        exact ⟨hsound, hmore.le, rfl⟩
      · rw [h.2.1, hkept]
      · rw [h.2.1]
        exact hsource
    · simp only [hless, hmore, if_false]
      have hlength : world.disk.content.length = journal.receivedBytes := by omega
      refine triple_pure _ ?_
      rintro _ rfl
      refine ⟨hsound, hjournal, hlength, ?_, ?_⟩
      · have := hsound.synced
        omega
      · rwa [List.take_of_length_le hlength.le] at hsource

/-- The journal at hand is the saved one, or a new one. -/
theorem triple_reconcile_loaded {saved : Option DownloadJournal} :
    Triple (OnDisk fun disk => Sound artifact disk ∧ disk.journal = saved)
      (reconcileFileAndJournal environment
        (saved.getD (.new artifact.id artifact.sizeBytes artifact.sha256)))
      (fun journal => OnDisk (Placed artifact journal)) (OnDisk (Sound artifact)) := by
  rintro world ⟨hsound, hsaved⟩
  cases saved with
  | none =>
    exact triple_reconcile ⟨⟨rfl, rfl, rfl⟩, Nat.zero_le _, fun h => by cases h⟩ world
      ⟨hsound, .inr rfl⟩
  | some journal =>
    exact triple_reconcile (hsound.journal journal hsaved).1 world ⟨hsound, .inl hsaved⟩

/-- The file is the artifact. -/
def Genuine (codec : Codec) (artifact : ArtifactV1) (disk : DownloadDisk) : Prop :=
  disk.bytes.length = artifact.sizeBytes ∧ codec.sha256 disk.bytes = artifact.sha256

theorem verifyArtifact_eq_ok {codec : Codec} {bytes : Bytes} {evidence : ArtifactEvidence}
    (h : verifyArtifact codec artifact.id artifact.sizeBytes artifact.sha256 bytes = .ok evidence) :
    bytes.length = artifact.sizeBytes ∧ codec.sha256 bytes = artifact.sha256 := by
  simp only [verifyArtifact, bind_eq_ok, require_eq_ok, beq_iff_eq] at h
  obtain ⟨_, hsize, _, hsha, -⟩ := h
  exact ⟨hsize, hsha⟩

theorem triple_openAndVerify (codec : Codec) {P F : DownloadDisk → Prop}
    (hfails : ∀ disk, P disk → F disk) :
    Triple (OnDisk P) (openAndVerify environment codec artifact)
      (fun result => OnDisk fun disk => P disk ∧
        ∀ evidence, result = .ok evidence → Genuine codec artifact disk) (OnDisk F) := by
  refine triple_bind (triple_nextMoment environment) fun moment => ?_
  cases moment.fault with
  | some fault =>
    show Triple _ (ite _ _ _) _ _
    by_cases hdies : fault.dies
    · rw [if_pos hdies]
      exact triple_throw _ fun world h => hfails _ h
    · rw [if_neg hdies]
      by_cases hprogress : fault.progress = 0
      · rw [if_pos hprogress]
        exact triple_fail hfails
      · rw [if_neg hprogress]
        exact triple_pure _ fun world h => ⟨h, fun evidence hevidence => by cases hevidence⟩
  | none =>
    refine triple_get fun world hworld => ?_
    cases hfile : world.disk.file with
    | none =>
      refine triple_pure _ ?_
      rintro _ rfl
      exact ⟨hworld, fun evidence hevidence => by cases hevidence⟩
    | some content =>
      refine triple_pure _ fun world' hworld' => ?_
      subst hworld'
      refine ⟨hworld, fun evidence hevidence => ?_⟩
      have hbytes : world'.disk.bytes = content.map FileByte.byte := by
        simp [DownloadDisk.bytes, DownloadDisk.content, hfile]
      rw [Genuine, hbytes]
      exact verifyArtifact_eq_ok hevidence

/-- **A checkpoint** commits what is not committed. -/
theorem triple_checkpoint {number : Nat} :
    Triple (OnDisk (Receiving artifact number journal uncommitted))
      (checkpoint environment journal uncommitted)
      (fun journal' => OnDisk fun disk => Receiving artifact number journal' 0 disk ∧
        (journal'.validator = journal.validator ∧
          journal'.receivedBytes = journal.receivedBytes + uncommitted) ∧
        disk.journal = some journal')
      (OnDisk (Sound artifact)) := by
  refine triple_bind (triple_look fun _ h => h.sound) fun _ => ?_
  refine triple_bind (triple_change (Q := fun disk => Receiving artifact number journal uncommitted
      disk ∧ disk.synced = disk.content.length) (fun _ h => ⟨h.syncData, rfl⟩) (fun _ h => h.sound)
    fun _ h => h.1.sound) fun _ => ?_
  refine triple_bind (triple_liftDownload (R := fun journal' disk =>
      Receiving artifact number journal uncommitted disk ∧ disk.synced = disk.content.length ∧
        journal.recordBytes uncommitted = .ok journal')
    (fun journal' hjournal' disk h => ⟨h.1, h.2, mapError_eq_ok.1 hjournal'⟩) fun _ h => h.1.sound)
    fun journal' => ?_
  refine triple_bind (triple_save (Q := fun disk => Receiving artifact number journal' 0 disk ∧
      (journal'.validator = journal.validator ∧
        journal'.receivedBytes = journal.receivedBytes + uncommitted) ∧
      disk.journal = some journal') (fun disk h => ?_)
    (fun _ h => h.1.sound) fun _ h => h.1.sound) fun _ => triple_pure _ fun _ h => h
  obtain ⟨hreceiving, hsynced, hrecord⟩ := h
  obtain ⟨hfits, rfl⟩ := DownloadJournal.recordBytes_eq_ok hrecord
  have hof : JournalOf artifact { journal with
      receivedBytes := journal.receivedBytes + uncommitted } :=
    ⟨hreceiving.journalOf.target, hfits, fun hcomplete => by
      cases hreceiving.incomplete.symm.trans hcomplete⟩
  refine ⟨⟨hreceiving.reach, hof, hreceiving.incomplete, hreceiving.length, hreceiving.fits,
    ⟨?_, hreceiving.synced.2⟩, hreceiving.source, _, rfl, hof, rfl, .inr rfl⟩, ⟨rfl, rfl⟩, rfl⟩
  rw [hsynced, hreceiving.length]

/-- A chunk of the response that fits goes to the end of the file. -/
theorem triple_writeChunk {number : Nat} (bytes : Bytes) :
    Triple (OnDisk fun disk => Receiving artifact number journal uncommitted disk ∧
        journal.receivedBytes + uncommitted + bytes.length ≤ artifact.sizeBytes)
      (writeAll environment (journal.receivedBytes + uncommitted)
        (bytes.map fun byte => ⟨byte, .response number journal.validator⟩))
      (fun _ => OnDisk (Receiving artifact number journal (uncommitted + bytes.length)))
      (OnDisk (Sound artifact)) := by
  generalize hbytes : bytes.map (fun byte => (⟨byte, .response number journal.validator⟩ :
    FileByte)) = written
  have hlength : written.length = bytes.length := by rw [← hbytes, List.length_map]
  have hwritten : ∀ b ∈ written, FromResponse number journal.validator b := by
    intro b hb
    rw [← hbytes] at hb
    obtain ⟨byte, -, rfl⟩ := List.mem_map.1 hb
    exact fromResponse_self rfl
  refine triple_operate (fun disk h => ?_) fun n disk h => ?_
  · exact hlength ▸ h.1.writeAt hwritten (hlength ▸ h.2)
  · have htaken : ∀ b ∈ written.take n, FromResponse number journal.validator b :=
      fun b hb => hwritten b (List.mem_of_mem_take hb)
    refine (h.1.writeAt htaken ?_).sound
    have htake := List.length_take_le' n written
    omega

end Calls

end Downloader

end NpcRuntime.Packs
