import NpcRuntime.Media.Moves
import Mathlib.Data.List.Perm.Subperm
import Mathlib.Tactic.Linarith

/-!
# The limit on reappearing residuals

The broker admits at most so many residuals in a second that were not held on screen before. It
takes a residual to be on screen while it holds it, and nearly every path that hides the overlay
ends the hold. The one that does not is a target callback with the geometry there was: it restarts
the overlay and keeps the hold (`restartsOverlay`), so the next patch counts as a replacement. A
run without such a callback keeps the limit (`residual_flicker_limited`).
-/

namespace NpcRuntime.Media

variable (policy : BrokerPolicy)

/-- A geometry that maps to the overlay as the one there was. -/
def MediaBroker.mapsAgain (b : MediaBroker) (geometry : Option TargetGeometry) : Bool :=
  geometry.any fun shown =>
    (b.targetGeometry.any fun known => sameMaterialGeometry known shown) &&
      (calculateOverlayGeometry shown).isSome

/-- A target callback that hides the overlay and leaves the geometry and the hold as they are: the
mapping is the one there was, and the overlay is kept disabled or starts anew. -/
def MediaBroker.restartsOverlay (b : MediaBroker) (state : TargetState)
    (geometry : Option TargetGeometry) (answer : OverlayAnswer) : Bool :=
  state.failure.isNone && state != .minimized && b.mapsAgain geometry &&
    (b.diagnostics.captureBackend = .desktopDuplication ||
      answer.failure.isNone && answer.excluded)

/-- The move does not restart the overlay while a residual is held. -/
def keepsHold (b : MediaBroker) : Move → Bool
  | .callback (.targetState state geometry answer _) =>
    b.heldResidual.isNone || !b.restartsOverlay state geometry answer
  | _ => true

/-! ## The hold follows the screen -/

/-- A residual that is held is on screen, or there is no target to show one on. -/
structure Tracked (b : MediaBroker) : Prop where
  held : b.heldResidual.isSome → b.platform.residual.isSome ∨ b.targetGeometry = none
  overlay : b.overlayGeometry.isSome → b.targetGeometry.isSome

namespace MediaBroker

variable {b : MediaBroker}

/-- Where the hold has ended, only the geometries matter. -/
theorem tracked_of_none (hheld : b.heldResidual = none)
    (hoverlay : b.overlayGeometry.isSome → b.targetGeometry.isSome) : Tracked b :=
  ⟨fun h => by simp [hheld] at h, hoverlay⟩

theorem tracked_fail (h : Tracked b) (failure : Failure) (state : BrokerState)
    (recovery : RecoveryAction) : Tracked (b.fail failure state recovery) :=
  tracked_of_none rfl h.overlay

theorem handleFailure_held (failure : Failure) (clock : MonotonicTime) :
    (b.handleFailure policy failure clock).heldResidual = none ∧
      (b.handleFailure policy failure clock).overlayGeometry = b.overlayGeometry ∧
      (b.handleFailure policy failure clock).targetGeometry = b.targetGeometry := by
  unfold handleFailure
  split
  · simp
  · split <;> simp

theorem tracked_handleFailure (hoverlay : b.overlayGeometry.isSome → b.targetGeometry.isSome)
    (failure : Failure) (clock : MonotonicTime) :
    Tracked (b.handleFailure policy failure clock) := by
  obtain ⟨hheld, hsame, hsame'⟩ := handleFailure_held policy (b := b) failure clock
  exact tracked_of_none hheld (by rw [hsame, hsame']; exact hoverlay)

theorem tracked_handleFrame (h : Tracked b) (frame : FrameDescriptor) (clock : MonotonicTime) :
    Tracked (b.handleFrame policy frame clock) := by
  unfold handleFrame
  split
  · exact h
  · dsimp only
    split
    · exact tracked_of_none rfl h.overlay
    · split
      · apply tracked_handleFailure
        exact h.overlay
      · exact ⟨h.held, h.overlay⟩

theorem tracked_minimize (h : Tracked b) (previous : TargetState)
    (geometry : Option TargetGeometry) : Tracked (b.minimize previous geometry) := by
  unfold minimize
  split
  · split
    · exact tracked_of_none rfl h.overlay
    · exact tracked_of_none rfl fun _ => rfl
  · exact tracked_of_none rfl h.overlay

/-- Showing the overlay ends the hold, unless the overlay starts or is kept disabled. -/
theorem showOverlay_held (answer : OverlayAnswer) (clock : MonotonicTime)
    (h : b.heldResidual = none ∨ b.overlayGeometry = none ∨
      (b.diagnostics.captureBackend = .desktopDuplication ||
        answer.failure.isNone && answer.excluded) = false) :
    (b.showOverlay policy answer clock).heldResidual = none := by
  by_cases hoverlay : b.overlayGeometry.isNone = true
  · rw [showOverlay, if_pos hoverlay]
    exact (handleFailure_held policy _ clock).1
  · rcases h with hheld | hnone | hfails
    · rcases (fades_showOverlay policy (b := b) answer clock).held with hended | hsame
      · exact hended
      · exact hsame.trans hheld
    · simp [hnone] at hoverlay
    · simp only [Bool.or_eq_false_iff, decide_eq_false_iff_not, Bool.and_eq_false_iff] at hfails
      rw [showOverlay_eq policy (Bool.eq_false_iff.2 hoverlay), if_neg hfails.1, startOverlay]
      cases hfailure : answer.failure with
      | some failure =>
        dsimp only
        split <;> rfl
      | none =>
        have hexcluded : answer.excluded = false := by simpa [hfailure] using hfails.2
        simp only [hexcluded]
        rfl

theorem startOverlay_geometry (answer : OverlayAnswer) :
    (b.startOverlay policy answer).targetGeometry = b.targetGeometry := by
  unfold startOverlay
  split
  · split <;> rfl
  · split <;> rfl

theorem showOverlay_geometry (answer : OverlayAnswer) (clock : MonotonicTime) :
    (b.showOverlay policy answer clock).targetGeometry = b.targetGeometry := by
  by_cases hoverlay : b.overlayGeometry.isNone = true
  · rw [showOverlay, if_pos hoverlay]
    exact (handleFailure_held policy _ clock).2.2
  · rw [showOverlay_eq policy (Bool.eq_false_iff.2 hoverlay)]
    split
    · rfl
    · exact startOverlay_geometry policy answer

/-- A geometry that is taken over ends the hold, unless it is the one there was. -/
theorem takeGeometry_held (geometry : TargetGeometry) :
    (b.takeGeometry geometry).heldResidual = none ∨
      ∃ known, b.targetGeometry = some known ∧ sameMaterialGeometry known geometry = true := by
  unfold takeGeometry
  cases hknown : b.targetGeometry with
  | none => exact .inl rfl
  | some known =>
    by_cases hsame : sameMaterialGeometry known geometry = true
    · exact .inr ⟨known, rfl, hsame⟩
    · exact .inl (by simp only [if_neg hsame]; rfl)

variable (h : Tracked b)

include h

theorem tracked_handleTargetState (state : TargetState) (geometry : Option TargetGeometry)
    (answer : OverlayAnswer) (clock : MonotonicTime)
    (hkeeps : b.heldResidual = none ∨ b.restartsOverlay state geometry answer = false) :
    Tracked (b.handleTargetState policy state geometry answer clock) := by
  have hstate : Tracked (b.setTargetState state) := ⟨h.held, h.overlay⟩
  rcases handleTargetState_cases policy b state geometry answer clock with
    ⟨failure, -, heq⟩ | ⟨hfailure, ⟨-, heq⟩ | ⟨hminimized, ⟨-, heq⟩ | ⟨shown, rfl, heq⟩⟩⟩
  · rw [heq]
    exact tracked_handleFailure policy hstate.overlay failure clock
  · rw [heq]
    exact tracked_minimize hstate _ geometry
  · rw [heq]
    exact hstate
  · rw [heq]
    have hfades := fades_takeGeometry (b := b.setTargetState state) shown
    refine tracked_of_none ?_ ?_
    · apply showOverlay_held
      rcases takeGeometry_held (b := b.setTargetState state) shown with hended | hsame
      · exact .inl hended
      · obtain ⟨known, hknown, hsame⟩ := hsame
        rcases hkeeps with hheld | hrestarts
        · rcases hfades.held with hended | hkept
          · exact .inl hended
          · exact .inl (hkept.trans hheld)
        · have hmaps : b.mapsAgain (some shown) = (calculateOverlayGeometry shown).isSome := by
            have hknown' : b.targetGeometry = some known := hknown
            simp [mapsAgain, hknown', hsame]
          have hvisible : (state != TargetState.minimized) = true := by simpa using hminimized
          have hoverlay : ((b.setTargetState state).takeGeometry shown).overlayGeometry =
              calculateOverlayGeometry shown := calculateOverlayGeometry_epoch shown _
          rw [restartsOverlay, hfailure, hvisible, hmaps] at hrestarts
          rw [hoverlay]
          rcases Bool.and_eq_false_iff.1 hrestarts with hnone | hfails
          · exact .inr (.inl (by simpa using hnone))
          · refine .inr (.inr ?_)
            rw [(takeGeometry_platform shown).1]
            exact hfails
    · intro _
      rw [showOverlay_geometry]
      rfl

theorem tracked_dropDevice : Tracked b.dropDevice := by
  unfold dropDevice
  dsimp only
  split
  · exact tracked_of_none rfl fun _ => rfl
  · next hnone => exact ⟨fun _ => .inr hnone, h.overlay⟩

theorem tracked_beginRecovery (answers : RecoveryAnswers) :
    Tracked (b.beginRecovery policy answers) := by
  have htaken : Tracked b.takePendingRecovery := ⟨h.held, h.overlay⟩
  have hdropped := tracked_dropDevice htaken
  unfold beginRecovery
  dsimp only
  split
  · split
    · exact tracked_handleFailure policy hdropped.overlay _ answers.clock
    · exact ⟨hdropped.held, hdropped.overlay⟩
  · unfold recreateAudio
    split
    · exact tracked_of_none rfl h.overlay
    · exact ⟨h.held, h.overlay⟩
  · split
    · exact ⟨h.held, h.overlay⟩
    · split
      · exact ⟨h.held, h.overlay⟩
      · split
        all_goals exact ⟨h.held, h.overlay⟩
  · exact htaken

theorem tracked_start (audio hotkey : Option Failure) : Tracked (b.start audio hotkey) := by
  unfold start
  split
  · exact h
  · split
    · exact tracked_of_none rfl h.overlay
    · split
      · exact tracked_of_none rfl h.overlay
      · exact ⟨h.held, h.overlay⟩

theorem tracked_stop : Tracked b.stop := by
  unfold stop
  split
  · exact h
  · exact ⟨fun _ => .inr rfl, fun hsome => by simp at hsome⟩

theorem tracked_submitPatch (patch : MouthPatch) : Tracked (b.submitPatch policy patch) := by
  unfold submitPatch
  split
  · exact tracked_of_none rfl h.overlay
  · exact ⟨h.held, h.overlay⟩

theorem tracked_submitOcclusionEvidence (evidence : OcclusionEvidence) :
    Tracked (b.submitOcclusionEvidence evidence) := by
  unfold submitOcclusionEvidence
  split
  · exact tracked_of_none rfl h.overlay
  · exact ⟨h.held, h.overlay⟩

theorem tracked_endCapture (backend : CaptureBackend) (failure : Option Failure)
    (clock : MonotonicTime) : Tracked (b.endCapture policy backend failure clock) := by
  unfold endCapture
  split
  · split
    · exact ⟨h.held, h.overlay⟩
    · exact tracked_handleFailure policy h.overlay _ clock
  · exact ⟨h.held, h.overlay⟩

theorem tracked_compose (now : MonotonicTime) : Tracked (b.compose policy now) := by
  rcases compose_cases policy b now with ⟨frame, overlay, -, -, hcomposed⟩ | ⟨-, heq⟩
  · generalize b.compose policy now = after at hcomposed
    cases hcomposed with
    | presented _ _ _ => exact ⟨fun _ => .inl rfl, h.overlay⟩
    | kept _ => exact ⟨h.held, h.overlay⟩
    | pristine _ => exact tracked_of_none rfl h.overlay
  · rw [heq]
    exact ⟨h.held, h.overlay⟩

/-- **Every move that keeps the hold keeps it on screen.** -/
theorem tracked_apply {move : Move} (hkeeps : keepsHold b move = true) :
    Tracked (move.apply policy b) := by
  cases move with
  | start audio hotkey => exact tracked_start h audio hotkey
  | stop => exact tracked_stop h
  | refuse failure state recovery => exact tracked_fail h failure state recovery
  | adoptTarget target =>
    refine tracked_of_none rfl ?_
    intro hsome
    simp [Move.apply, adoptTarget] at hsome
  | clearTarget =>
    refine tracked_of_none rfl ?_
    intro hsome
    simp [Move.apply, clearTarget] at hsome
  | submitPatch patch => exact tracked_submitPatch policy h patch
  | submitOcclusionEvidence evidence => exact tracked_submitOcclusionEvidence h evidence
  | cancelGeneration newGeneration => exact tracked_of_none rfl h.overlay
  | callback report =>
    cases report with
    | frame captured clock => exact tracked_handleFrame policy h captured clock
    | failure failed clock => exact tracked_handleFailure policy h.overlay failed clock
    | targetState state geometry answer clock =>
      apply tracked_handleTargetState policy h state geometry answer clock
      simpa [keepsHold] using hkeeps
  | createDevice answer clock =>
    cases answer with
    | some failure => exact tracked_handleFailure policy h.overlay failure clock
    | none => exact ⟨h.held, h.overlay⟩
  | beginCapture backend => exact ⟨h.held, h.overlay⟩
  | endCapture backend failure clock => exact tracked_endCapture policy h backend failure clock
  | recover answers => exact tracked_beginRecovery policy h answers
  | compose now => exact tracked_compose policy h now

end MediaBroker

/-! ## The limit -/

/-- The reshows in a window of one second. -/
def reshowsFrom (start : MonotonicTime) (reshows : List MonotonicTime) : Nat :=
  reshows.countP fun reshow => start ≤ reshow && reshow < start + residualReshowWindow

/-- The reshows of the last second. -/
def lastReshows (time : MonotonicTime) (reshows : List MonotonicTime) : List MonotonicTime :=
  reshows.filter fun reshow => time - reshow < residualReshowWindow

/-- Up to a time, the limiter has recorded the reshows that still count, and kept the limit. -/
structure Limited (time : MonotonicTime) (b : MediaBroker) : Prop where
  past : ∀ reshow ∈ b.platform.reshows, reshow ≤ time
  recorded : (lastReshows time b.platform.reshows).Subperm b.recentResidualReshows
  bounded : ∀ start, reshowsFrom start b.platform.reshows ≤ (reshowLimit policy).toNat

namespace Limited

variable {policy} {b : MediaBroker} {time now : MonotonicTime}

/-- Time may pass. -/
theorem later (h : Limited policy time b) (hnow : time ≤ now) : Limited policy now b where
  past := fun reshow hreshow => (h.past reshow hreshow).trans hnow
  recorded := by
    have hfewer : (lastReshows now b.platform.reshows).Sublist
        (lastReshows time b.platform.reshows) := by
      apply List.monotone_filter_right
      intro reshow hreshow
      simp only [decide_eq_true_eq] at hreshow ⊢
      linarith
    exact hfewer.subperm.trans h.recorded
  bounded := h.bounded

/-- What leaves the record alone keeps the limit. -/
theorem of_eq (h : Limited policy time b) {b' : MediaBroker}
    (hreshows : b'.platform.reshows = b.platform.reshows)
    (hrecent : b'.recentResidualReshows = b.recentResidualReshows) : Limited policy time b' :=
  ⟨by rw [hreshows]; exact h.past, by rw [hreshows, hrecent]; exact h.recorded,
    by rw [hreshows]; exact h.bounded⟩

/-- The limiter drops no reshow that still counts. -/
theorem recentReshows (h : Limited policy now b) :
    (lastReshows now b.platform.reshows).Subperm (b.recentReshows now) := by
  have hkept : (lastReshows now b.platform.reshows).filter (fun reshow =>
      !(reshow > now || now - reshow ≥ residualReshowWindow)) =
        lastReshows now b.platform.reshows := by
    apply List.filter_eq_self.2
    intro reshow hreshow
    obtain ⟨hmem, hrecent⟩ := List.mem_filter.1 hreshow
    have hpast := h.past reshow hmem
    simp only [decide_eq_true_eq] at hrecent
    simp only [Bool.not_eq_true', Bool.or_eq_false_iff, decide_eq_false_iff_not, gt_iff_lt, not_lt,
      ge_iff_le, not_le]
    exact ⟨hpast, hrecent⟩
  rw [← hkept]
  exact h.recorded.filter _

/-- A reshow that the limiter had room for keeps the limit. -/
theorem bounded_cons (h : Limited policy now b)
    (hroom : (b.recentReshows now).length < (reshowLimit policy).toNat) (start : MonotonicTime) :
    reshowsFrom start (now :: b.platform.reshows) ≤ (reshowLimit policy).toNat := by
  by_cases hwindow : start ≤ now ∧ now < start + residualReshowWindow
  · have hfewer : reshowsFrom start b.platform.reshows ≤
        (lastReshows now b.platform.reshows).length := by
      rw [lastReshows, ← List.countP_eq_length_filter]
      apply List.countP_mono_left
      intro reshow hreshow hin
      simp only [Bool.and_eq_true, decide_eq_true_eq] at hin ⊢
      linarith
    rw [reshowsFrom, List.countP_cons_of_pos (by simpa using hwindow)]
    exact Nat.succ_le_of_lt ((hfewer.trans h.recentReshows.length_le).trans_lt hroom)
  · rw [reshowsFrom, List.countP_cons_of_neg (by simpa using hwindow)]
    exact h.bounded start

/-- **A composition keeps the limit.** -/
theorem compose (h : Limited policy now b) (htracked : Tracked b) :
    Limited policy now (b.compose policy now) := by
  rcases MediaBroker.compose_cases policy b now with
    ⟨frame, overlay, -, hoverlay, hcomposed⟩ | ⟨-, heq⟩
  · generalize b.compose policy now = after at hcomposed
    cases hcomposed with
    | kept _ => exact h.of_eq rfl rfl
    | pristine hrecent =>
      rcases hrecent with rfl | rfl
      · exact h.of_eq rfl rfl
      · exact ⟨h.past, h.recentReshows, h.bounded⟩
    | @presented latest recent _ _ hadmits =>
      rcases hadmits with ⟨held, hheld, -, rfl⟩ | ⟨hroom, rfl⟩
      · -- A residual that is held is on screen, so its replacement is no reshow.
        have hshown : b.platform.residual.isSome := by
          have hheld' : b.heldResidual.isSome := by
            have hsame : b.heldResidual = some held := hheld
            rw [hsame]
            rfl
          rcases htracked.held hheld' with hshown | hnone
          · exact hshown
          · have htarget := htracked.overlay (by rw [hoverlay]; rfl)
            rw [hnone] at htarget
            cases htarget
        refine h.of_eq ?_ rfl
        show (if b.platform.residual.isNone then now :: b.platform.reshows
          else b.platform.reshows) = _
        rw [if_neg (by simpa [Option.isSome_iff_ne_none] using hshown)]
      · have hrecorded : (lastReshows now b.platform.reshows).Subperm (b.recentReshows now) :=
          h.recentReshows
        by_cases hhidden : b.platform.residual.isNone = true
        · have hreshows : (b.clearMailboxes.presented frame latest
              (b.clearMailboxes.recentReshows now ++ [now]) now).platform.reshows =
                now :: b.platform.reshows := by
            show (if b.platform.residual.isNone then now :: b.platform.reshows
              else b.platform.reshows) = _
            rw [if_pos hhidden]
          refine ⟨?_, ?_, ?_⟩
          · rw [hreshows]
            intro reshow hreshow
            rcases List.mem_cons.1 hreshow with rfl | hreshow
            · exact le_rfl
            · exact h.past reshow hreshow
          · rw [hreshows]
            have hcons : lastReshows now (now :: b.platform.reshows) =
                now :: lastReshows now b.platform.reshows := by
              rw [lastReshows,
                List.filter_cons_of_pos (by simp [residualReshowWindow, milliseconds])]
              rfl
            rw [hcons]
            exact ((List.subperm_cons now).2 hrecorded).trans
              (List.perm_append_singleton now _).symm.subperm
          · rw [hreshows]
            exact h.bounded_cons hroom
        · have hreshows : (b.clearMailboxes.presented frame latest
              (b.clearMailboxes.recentReshows now ++ [now]) now).platform.reshows =
                b.platform.reshows := by
            show (if b.platform.residual.isNone then now :: b.platform.reshows
              else b.platform.reshows) = _
            rw [if_neg hhidden]
          refine ⟨by rw [hreshows]; exact h.past, ?_, by rw [hreshows]; exact h.bounded⟩
          rw [hreshows]
          exact hrecorded.trans (List.sublist_append_left _ _).subperm
  · rw [heq]
    exact h.of_eq rfl rfl

end Limited

/-! ## Runs -/

section Runs

variable {policy} {b : MediaBroker} {time : MonotonicTime}

section

variable (h : Limited policy time b)

include h

/-- What fades has not reappeared. -/
theorem Limited.fades {b' : MediaBroker} (hfades : Fades b b') : Limited policy time b' :=
  h.of_eq hfades.reshows hfades.recentResidualReshows

theorem limited_dropDevice : Limited policy time b.dropDevice := by
  unfold MediaBroker.dropDevice
  dsimp only
  split
  · exact h.of_eq rfl rfl
  · exact h.of_eq rfl rfl

theorem limited_beginRecovery (answers : RecoveryAnswers) :
    Limited policy time (b.beginRecovery policy answers) := by
  have htaken : Limited policy time b.takePendingRecovery := h.of_eq rfl rfl
  have hdropped := limited_dropDevice htaken
  unfold MediaBroker.beginRecovery
  dsimp only
  split
  · split
    · exact hdropped.fades (MediaBroker.fades_handleFailure policy _ answers.clock)
    · exact hdropped.of_eq rfl rfl
  · unfold MediaBroker.recreateAudio
    split
    · exact h.of_eq rfl rfl
    · exact h.of_eq rfl rfl
  · split
    · exact h.of_eq rfl rfl
    · split
      · exact h.of_eq rfl rfl
      · split
        all_goals exact h.of_eq rfl rfl
  · exact htaken

/-- **Nothing but a composition shows a residual.** -/
theorem limited_apply {move : Move} (hmove : move.composes = false) :
    Limited policy time (move.apply policy b) := by
  cases move with
  | start audio hotkey =>
    show Limited policy time (b.start audio hotkey)
    unfold MediaBroker.start
    split
    · exact h
    · split
      · exact h.of_eq rfl rfl
      · split
        all_goals exact h.of_eq rfl rfl
  | stop =>
    show Limited policy time b.stop
    unfold MediaBroker.stop
    split
    all_goals exact h.of_eq rfl rfl
  | refuse failure state recovery => exact h.of_eq rfl rfl
  | adoptTarget target => exact h.of_eq rfl rfl
  | clearTarget => exact h.of_eq rfl rfl
  | submitPatch patch =>
    show Limited policy time (b.submitPatch policy patch)
    unfold MediaBroker.submitPatch
    split
    all_goals exact h.of_eq rfl rfl
  | submitOcclusionEvidence evidence =>
    show Limited policy time (b.submitOcclusionEvidence evidence)
    unfold MediaBroker.submitOcclusionEvidence
    split
    all_goals exact h.of_eq rfl rfl
  | cancelGeneration newGeneration => exact h.of_eq rfl rfl
  | callback report => exact h.fades (report.fades policy b)
  | createDevice answer clock =>
    cases answer with
    | some failure => exact h.fades (MediaBroker.fades_handleFailure policy failure clock)
    | none => exact h.of_eq rfl rfl
  | beginCapture backend => exact h.of_eq rfl rfl
  | endCapture backend failure clock =>
    exact h.fades (MediaBroker.fades_endCapture policy backend failure clock)
  | recover answers => exact limited_beginRecovery h answers
  | compose now => cases hmove

end

/-- A run of moves that show no residual. -/
theorem limited_runFrom {moves : List Move} (hmoves : ∀ move ∈ moves, move.composes = false)
    (hkeeps : Along (Move.apply policy) (fun b move => keepsHold b move) moves b)
    (h : Limited policy time b) (htracked : Tracked b) :
    Limited policy time (runFrom (Move.apply policy) moves b) ∧
      Tracked (runFrom (Move.apply policy) moves b) := by
  induction moves generalizing b with
  | nil => exact ⟨h, htracked⟩
  | cons move moves ih =>
    exact ih (fun other hother => hmoves other (List.mem_cons_of_mem _ hother)) hkeeps.2
      (limited_apply h (hmoves move List.mem_cons_self))
      (MediaBroker.tracked_apply policy htracked hkeeps.1)

/-- An operation keeps the limit up to its own time. -/
theorem limited_perform {operation : Operation} (h : Limited policy time b) (htracked : Tracked b)
    (hkeeps : Along (Move.apply policy) (fun b move => keepsHold b move)
      (operation.moves policy b) b)
    (htime : ∀ now, operation.tickTime = some now → time ≤ now) :
    Limited policy (operation.tickTime.getD time) (operation.perform policy b) ∧
      Tracked (operation.perform policy b) := by
  rw [perform_eq]
  rcases operation.moves_composes policy b with ⟨now, answers, rfl, -, hmoves⟩ | hquiet
  · rw [hmoves] at hkeeps ⊢
    obtain ⟨hrecovery, hcompose, -⟩ := along_append.1 hkeeps
    have hlater := h.later (htime now rfl)
    obtain ⟨hlimited, hheld⟩ := limited_runFrom (fun move hmove =>
        Move.composes_of_isInternal (recoveryMoves_isInternal policy b now answers move hmove))
      hrecovery hlater htracked
    rw [runFrom_append]
    exact ⟨hlimited.compose hheld, MediaBroker.tracked_apply policy hheld hcompose⟩
  · obtain ⟨hlimited, hheld⟩ := limited_runFrom hquiet hkeeps h htracked
    refine ⟨?_, hheld⟩
    cases htick : operation.tickTime with
    | none => exact hlimited
    | some now => exact hlimited.later (htime now htick)

/-- A run with ticks in the order of time keeps the limit. -/
theorem limited_run {operations : List Operation} (h : Limited policy time b)
    (htracked : Tracked b) (hkeeps : Meets policy (fun b move => keepsHold b move) operations b)
    (htimes : (operations.filterMap Operation.tickTime).Pairwise (· ≤ ·))
    (hlater : ∀ now ∈ operations.filterMap Operation.tickTime, time ≤ now) :
    ∃ last, Limited policy last (runFrom (Operation.perform policy) operations b) := by
  induction operations generalizing b time with
  | nil => exact ⟨time, h⟩
  | cons operation operations ih =>
    have htime : ∀ now, operation.tickTime = some now → time ≤ now := by
      intro now hnow
      exact hlater now (List.mem_filterMap.2 ⟨operation, List.mem_cons_self, hnow⟩)
    obtain ⟨hlimited, hheld⟩ := limited_perform h htracked hkeeps.1 htime
    apply ih hlimited hheld hkeeps.2
    · cases htick : operation.tickTime with
      | none => rwa [List.filterMap_cons_none htick] at htimes
      | some now =>
        rw [List.filterMap_cons_some htick] at htimes
        exact (List.pairwise_cons.1 htimes).2
    · intro now hnow
      cases htick : operation.tickTime with
      | none =>
        rw [List.filterMap_cons_none htick] at hlater
        exact hlater now hnow
      | some earlier =>
        rw [List.filterMap_cons_some htick] at htimes
        exact (List.pairwise_cons.1 htimes).1 now hnow

theorem reshowLimit_toNat :
    (reshowLimit policy).toNat = min policy.timing.maxResidualReshowsPerSecond.toNat 3 := by
  show (if policy.timing.maxResidualReshowsPerSecond ≤ 3 then
    policy.timing.maxResidualReshowsPerSecond else 3).toNat = _
  by_cases hle : policy.timing.maxResidualReshowsPerSecond ≤ 3
  · rw [if_pos hle]
    exact (Nat.min_eq_left (UInt32.le_iff_toNat_le.1 hle)).symm
  · rw [if_neg hle]
    exact (Nat.min_eq_right (Nat.le_of_not_le fun h => hle (UInt32.le_iff_toNat_le.2 h))).symm

/-- **The residual flickers within the limit** along every run that does not restart the overlay
on an unchanged geometry while a residual is held. -/
theorem residual_flicker_limited {operations : List Operation}
    (htimes : (operations.filterMap Operation.tickTime).Pairwise (· ≤ ·))
    (hkeeps : Meets policy (fun b move => keepsHold b move) operations .initial)
    (start : MonotonicTime) :
    reshowsFrom start
        (runFrom (Operation.perform policy) operations .initial).platform.reshows ≤
      min policy.timing.maxResidualReshowsPerSecond.toNat 3 := by
  obtain ⟨first, hfirst⟩ : ∃ first : MonotonicTime,
      ∀ now ∈ operations.filterMap Operation.tickTime, first ≤ now := by
    cases hticks : operations.filterMap Operation.tickTime with
    | nil => exact ⟨0, by simp⟩
    | cons now later =>
      rw [hticks] at htimes
      refine ⟨now, ?_⟩
      intro other hother
      rcases List.mem_cons.1 hother with rfl | hother
      · exact le_rfl
      · exact (List.pairwise_cons.1 htimes).1 other hother
  have hinitial : Limited policy first .initial :=
    ⟨by simp [MediaBroker.initial], by simp [MediaBroker.initial, lastReshows],
      by simp [MediaBroker.initial, reshowsFrom]⟩
  have htracked : Tracked .initial := MediaBroker.tracked_of_none rfl fun h => by cases h
  obtain ⟨last, hlast⟩ := limited_run hinitial htracked hkeeps htimes hfirst
  rw [← reshowLimit_toNat]
  exact hlast.bounded start

end Runs

/-! ### A target that is reported again -/

/-- Two patches on screen, one after the other. -/
def twoPatches : List Operation :=
  started ++ targetSelected :: patchedFrame 1 1000 ++ patchedFrame 2 2000

/-- The same target is reported before each of four patches. -/
def reportedAgain : List Operation :=
  started ++ targetSelected :: patchedFrame 1 1000 ++ targetSelected :: patchedFrame 2 2000 ++
    targetSelected :: patchedFrame 3 3000 ++ targetSelected :: patchedFrame 4 4000

theorem residual_flicker_limited_twoPatches :
    (twoPatches.filterMap Operation.tickTime).Pairwise (· ≤ ·) ∧
      Meets .default (fun b move => keepsHold b move) twoPatches .initial ∧
      reshowsFrom 0 (runFrom (Operation.perform .default) twoPatches .initial).platform.reshows ≤
        3 := by
  have htimes : (twoPatches.filterMap Operation.tickTime).Pairwise (· ≤ ·) := by decide
  have hkeeps : Meets .default (fun b move => keepsHold b move) twoPatches .initial := by
    decide +kernel
  exact ⟨htimes, hkeeps, residual_flicker_limited htimes hkeeps 0⟩

/-- **A target that is reported again lets residuals through**: each report hides the residual and
leaves it held, so four patches become visible in four microseconds. -/
theorem reshow_uncounted :
    (reportedAgain.filterMap Operation.tickTime).Pairwise (· ≤ ·) ∧
      min BrokerPolicy.default.timing.maxResidualReshowsPerSecond.toNat 3 <
        reshowsFrom 0
          (runFrom (Operation.perform .default) reportedAgain .initial).platform.reshows := by
  refine ⟨by decide, by decide +kernel⟩

end NpcRuntime.Media
