import NpcRuntime.Lib.Machine
import NpcRuntime.Packs.Retention

/-!
# Runs of downloads

Downloads of one artifact under one identity, which names the file and its journal. A download may
die at any operation, and there are crashes. The bytes that a saved journal counts are from responses
with one strong validator, or from one response that had none, wherever a call is cut off
(`downloads_never_spliced`).

A body that ends before its declared length comes to the same verification as a whole one, and the
failure of that restarts the download (`short_body_lost`). Where no body that is accepted ends
early, all that is ever lost is lost for a reason (`losses_lawful`).
-/

namespace NpcRuntime.Packs

open DownloadDisk

inductive DownloadStep where
  | download (selection : DownloadAuthorization) (environment : Nat → Moment)
  | crash (left : Bytes)

/-- No body that a download of the step accepts ends early. -/
def DownloadStep.NoShortBody (artifact : ArtifactV1) : DownloadStep → Prop
  | .download _ environment => Downloader.NoShortBody artifact environment
  | .crash _ => True

/-- What is on the disk under one identity, and how many responses have come. -/
structure DownloadState where
  disk : DownloadDisk
  responses : Nat

namespace DownloadState

variable (codec : Codec) (urls : UrlLibrary) (policy : DownloadPolicy) (identity : PackRevision)
  (artifact : ArtifactV1)

def call (selection : DownloadAuthorization) (environment : Nat → Moment) (state : DownloadState) :
    Except Stop ArtifactEvidence × DownloadWorld :=
  Downloader.download environment codec urls policy identity artifact selection
    ⟨state.disk, state.responses, 0⟩

def step (step : DownloadStep) (state : DownloadState) : DownloadState :=
  match step with
  | .download selection environment =>
    let world := (state.call codec urls policy identity artifact selection environment).2
    ⟨world.disk, world.responses⟩
  | .crash left => { state with disk := state.disk.crash left }

/-- Nothing has been downloaded; whatever file is there is not from a response. -/
def fresh (file : Option Bytes) : DownloadState where
  disk := {
    file := file.map fun bytes => bytes.map fun byte => ⟨byte, .foreign⟩
    synced := (file.getD []).length
    journal := none
    reach := 0 }
  responses := 0

/-- The saved journal tells the truth about the durable bytes, and nothing was written beyond the
declared size. -/
structure Unspliced (disk : DownloadDisk) : Prop where
  received_le : ∀ journal, disk.journal = some journal → journal.receivedBytes ≤ journal.expectedSize
  oneSource : ∀ journal, disk.journal = some journal → journal.receivedBytes ≤ disk.synced →
    OneSource journal.validator (disk.content.take journal.receivedBytes)
  complete : ∀ journal, disk.journal = some journal → journal.complete →
    journal.receivedBytes = journal.expectedSize
  reach : disk.reach ≤ artifact.sizeBytes

/-- What a step promises. A download that returns evidence leaves the artifact. -/
structure Kept (state : DownloadState) (step : DownloadStep) : Prop where
  unspliced : Unspliced artifact (state.step codec urls policy identity artifact step).disk
  genuine : ∀ selection environment evidence world,
    step = .download selection environment →
    state.call codec urls policy identity artifact selection environment = (.ok evidence, world) →
    Downloader.Genuine codec artifact world.disk

variable {codec urls policy identity artifact}

theorem unspliced_of_sound {disk : DownloadDisk} (h : Sound artifact disk) :
    Unspliced artifact disk := by
  refine ⟨fun journal hjournal => (h.journal journal hjournal).1.received_le,
    fun journal hjournal hsynced => ?_,
    fun journal hjournal => (h.journal journal hjournal).1.complete, h.reach⟩
  exact ((h.journal journal hjournal).2 (hsynced.trans h.synced)).2

theorem sound_fresh (file : Option Bytes) : Sound artifact (fresh file).disk := by
  refine ⟨Nat.zero_le _, ?_, fun journal hjournal => by cases hjournal⟩
  cases file with
  | none => exact le_refl _
  | some bytes => simp [fresh, DownloadDisk.content]

variable {state : DownloadState}

theorem sound_step (h : Sound artifact state.disk) (step : DownloadStep) :
    Sound artifact (state.step codec urls policy identity artifact step).disk := by
  cases step with
  | crash left => exact h.crash left
  | download selection environment =>
    have hends := @Downloader.triple_download environment artifact codec urls policy identity
      selection ⟨state.disk, state.responses, 0⟩ h
    show Sound artifact (state.call codec urls policy identity artifact selection environment).2.disk
    unfold call
    generalize Downloader.download environment codec urls policy identity artifact selection
      ⟨state.disk, state.responses, 0⟩ = out at hends ⊢
    obtain ⟨stop | evidence, world⟩ := out
    · exact hends
    · exact hends.1

theorem genuine_call (h : Sound artifact state.disk) {selection : DownloadAuthorization}
    {environment : Nat → Moment} {evidence : ArtifactEvidence} {world : DownloadWorld}
    (hcall : state.call codec urls policy identity artifact selection environment =
      (.ok evidence, world)) : Downloader.Genuine codec artifact world.disk :=
  ((Downloader.triple_download codec urls policy identity selection).ok
    (s := ⟨state.disk, state.responses, 0⟩) h hcall).2

/-- **Resumed downloads are never spliced**, in any run of downloads, which may be cut off at any
operation, and crashes. -/
theorem downloads_never_spliced (file : Option Bytes) (steps : List DownloadStep) :
    Along (step codec urls policy identity artifact) (Kept codec urls policy identity artifact)
      steps (fresh file) := by
  refine Along.mono_inv (P := fun _ _ => True) (fun state => Sound artifact state.disk)
    (fun _ step h _ => sound_step h step) (fun state step h _ => ?_) (sound_fresh file)
    (along_of_forall (fun _ _ => trivial) steps _)
  refine ⟨unspliced_of_sound (sound_step h step), fun selection environment evidence world _
    hcall => genuine_call h hcall⟩

/-! ## What the steps lose -/

variable (codec urls policy identity artifact)

/-- `call`, with what it loses. -/
def watch (selection : DownloadAuthorization) (environment : Nat → Moment) (state : DownloadState) :
    Except Stop ArtifactEvidence × DownloadWorld × List Loss :=
  Downloader.Watched.download environment codec urls policy identity artifact selection
    (⟨state.disk, state.responses, 0⟩, [])

/-- What a step loses. -/
def losses (step : DownloadStep) (state : DownloadState) : List Loss :=
  match step with
  | .download selection environment =>
    (state.watch codec urls policy identity artifact selection environment).2.2
  | .crash left =>
    Downloader.recordLoss .crash ⟨state.disk, state.responses, 0⟩
      ⟨state.disk.crash left, state.responses, 0⟩

/-- **Progress is not thrown away without cause**: what the step loses has one, and where it loses
nothing, all that was saved is there. -/
structure Retained (state : DownloadState) (step : DownloadStep) : Prop where
  watched : ∀ selection environment,
    step = .download selection environment →
    ((state.watch codec urls policy identity artifact selection environment).1,
      (state.watch codec urls policy identity artifact selection environment).2.1) =
        state.call codec urls policy identity artifact selection environment
  lawful : ∀ loss ∈ state.losses codec urls policy identity artifact step, loss.Lawful artifact
  retains : state.losses codec urls policy identity artifact step = [] →
    Retains state.disk (state.step codec urls policy identity artifact step).disk

variable {codec urls policy identity artifact}

theorem watch_call (selection : DownloadAuthorization) (environment : Nat → Moment)
    (state : DownloadState) :
    ((state.watch codec urls policy identity artifact selection environment).1,
      (state.watch codec urls policy identity artifact selection environment).2.1) =
        state.call codec urls policy identity artifact selection environment :=
  Downloader.forgets_download urls policy identity selection _

/-- A crash takes nothing that was saved from a file that is not shorter than the journal says. -/
theorem explained_crash {disk : DownloadDisk} (h : Sound artifact disk) (left : Bytes) :
    Retains disk (disk.crash left) ∨ Loss.Lawful artifact ⟨.crash, disk, disk.crash left⟩ := by
  cases hsaved : disk.journal with
  | none => exact .inl (retains_of_nothing (by rw [savedBytes, hsaved]))
  | some journal =>
    by_cases hless : disk.content.length < journal.receivedBytes
    · exact .inr ⟨journal, hsaved, hless⟩
    · refine .inl (retains_of_le rfl ?_)
      have hsynced := ((h.journal journal hsaved).2 (not_lt.1 hless)).1
      rw [content_crash, List.length_append, List.length_take, available,
        savedBytes_of_journal hsaved]
      omega

/-- **A step** without a short body loses nothing without a cause. -/
theorem retained_step (h : Sound artifact state.disk) {step : DownloadStep}
    (hbodies : step.NoShortBody artifact) :
    Retained codec urls policy identity artifact state step := by
  have hstart : Downloader.Accounted True artifact state.disk (Sound artifact)
      (⟨state.disk, state.responses, 0⟩, []) :=
    ⟨h, fun _ _ hloss => absurd hloss List.not_mem_nil, fun _ => Retains.refl _⟩
  cases step with
  | crash left =>
    have hnext : Downloader.Accounted True artifact state.disk (Sound artifact)
        (⟨state.disk.crash left, state.responses, 0⟩, [] ++ Downloader.recordLoss .crash _ _) :=
      hstart.next (h.crash left) fun _ => explained_crash h left
    exact ⟨fun _ _ hstep => (nomatch hstep), hnext.lawful trivial, hnext.retains⟩
  | download selection environment =>
    have hkeeps : Keeps (Downloader.Accounted True artifact state.disk (Sound artifact))
        (Downloader.Watched.download environment codec urls policy identity artifact selection) :=
      (Downloader.triple_watched_download codec urls policy identity selection
        fun _ => hbodies).mono (fun _ h => h) (fun _ _ h => ⟨h.disk.1, h.lawful, h.retains⟩)
        fun _ h => h
    have hends := hkeeps.after hstart
    have hdisk : (state.watch codec urls policy identity artifact selection environment).2.1.disk =
        (state.step codec urls policy identity artifact (.download selection environment)).disk :=
      congrArg (fun out => out.2.disk) (watch_call selection environment state)
    exact ⟨fun selection environment _ => watch_call _ _ _, hends.lawful trivial,
      fun hempty => hdisk ▸ hends.retains hempty⟩

/-- **No progress is thrown away without cause**, in any run of downloads, which may be cut off at
any operation, and crashes, where no body that is accepted ends early. -/
theorem losses_lawful (file : Option Bytes) (steps : List DownloadStep)
    (h : Along (step codec urls policy identity artifact)
      (fun _ step => step.NoShortBody artifact) steps (fresh file)) :
    Along (step codec urls policy identity artifact) (Retained codec urls policy identity artifact)
      steps (fresh file) :=
  h.mono_inv (fun state => Sound artifact state.disk) (fun _ step hsound _ => sound_step hsound step)
    (fun _ _ hsound hbodies => retained_step hsound hbodies) (sound_fresh file)

/-! ## A body that ends early -/

/-- A server that answers every request with that body, and without a `Content-Length`. -/
def serves (body : List BodyItem) (_ : Nat) : Moment where
  fault := none
  cancelled := false
  reply _ := .response ⟨200, some "v1".toUTF8.toList, none, none, body⟩

def fourBytes : ArtifactV1 where
  id := "weights".toList
  kind := .file
  sourceUrls := ["https://models".toList]
  sizeBytes := 4
  sha256 := ⟨"88d4266fd4e6338d13b845fcf289579d209c897823b9217da3e161936f031589".toList⟩
  destination := "weights.bin".toList

/-- Only `abcd` is ever hashed here. -/
def fourCodec : Codec where
  sha256 _ := fourBytes.sha256
  manifest _ := .error ⟨[]⟩

def oneHost : UrlLibrary where
  parse url := some ⟨"https".toList, some url, [], none⟩
  loopbackAddress _ := false

/-- Every byte is checkpointed. -/
def everyByte : DownloadPolicy := ⟨1, 4, false⟩

def weightsIdentity : PackRevision := ⟨⟨"pack".toList⟩, ⟨"r1".toList⟩⟩

def weightsSelection : DownloadAuthorization where
  policy := apiFirstSelectionPolicyV1
  identity := weightsIdentity
  manifestSha256 := fourBytes.sha256
  kind := .lipSync
  scope := .generic
  selectionId := "selection".toList
  selectedUnixSeconds := 1
  activationAllowed := true
  fitEvidenceSha256 := none
  artifacts := [(fourBytes.id, fourBytes.sizeBytes, fourBytes.sha256)]

def downloadFrom (body : List BodyItem) : DownloadStep :=
  .download weightsSelection (serves body)

theorem losses_lawful_wholeBody :
    Along (step fourCodec oneHost everyByte weightsIdentity fourBytes)
      (Retained fourCodec oneHost everyByte weightsIdentity fourBytes)
      [downloadFrom [.chunk [97, 98, 99, 100]], .crash []] (fresh none) := by
  refine losses_lawful none _ ⟨?_, trivial, trivial⟩
  intro n url hurl journal response hof hreply haccepted received hreceived
  cases hreply
  cases hreceived
  exact .inr (Nat.le_add_left _ _)

/-- Two of the four bytes come and are checkpointed. The body ends, and they are thrown away. -/
theorem short_body_lost :
    ¬ Along (step fourCodec oneHost everyByte weightsIdentity fourBytes)
      (Retained fourCodec oneHost everyByte weightsIdentity fourBytes)
      [downloadFrom [.chunk [97, 98]]] (fresh none) := by
  intro h
  have hlosses : ((losses fourCodec oneHost everyByte weightsIdentity fourBytes
      (downloadFrom [.chunk [97, 98]]) (fresh none)).map fun loss => (loss.place, loss.before.content.length,
        loss.before.savedBytes, loss.after.savedBytes)) = [(.verification, 2, 2, 0)] := by
    decide +kernel
  obtain ⟨loss, hloss, hplace⟩ := List.mem_map.1 (hlosses ▸ List.mem_singleton_self _)
  obtain ⟨journal, -, hlawful⟩ := h.1.lawful loss hloss
  simp only [Prod.mk.injEq] at hplace
  obtain ⟨hplace, hlength, -⟩ := hplace
  rw [hplace] at hlawful
  exact absurd (hlength.symm.trans hlawful.1) (by decide)

end DownloadState

end NpcRuntime.Packs
