import NpcRuntime.Media.Moves

/-!
# The recovery that is pending

One slot holds the recovery that a failure asks for, and whatever fails or starts next writes it
anew. A recovery that is owed is therefore lost when a move writes another one before it was
attempted, and a failure that some answer of the platform returns is owed without being written at
all. `undisturbed` says of the inputs of a move that neither happens; `recovery_pending` says that a
run of such moves loses nothing.
-/

namespace NpcRuntime.Media

variable (policy : BrokerPolicy)

/-- **No recovery is lost**: what is owed on a running broker is pending. -/
def RecoveryPending (b : MediaBroker) : Prop :=
  b.running = true →
    (b.owed.graphics = true → b.diagnostics.pendingRecovery = .recreateGraphicsDevice) ∧
      (b.owed.audio = true → b.diagnostics.pendingRecovery = .recreateAudioClient)

/-! ## Inputs that disturb no recovery -/

/-- A failure of neither kind. -/
def Failure.harmless (failure : Failure) : Bool := !failure.losesDevice && !failure.isAudio

/-- Nothing is owed. -/
def OwedRecovery.settled (owed : OwedRecovery) : Bool := !owed.graphics && !owed.audio

/-- Of each kind that is owed, the failure is another one. -/
def OwedRecovery.expects (owed : OwedRecovery) (failure : Failure) : Bool :=
  (!owed.graphics || failure.losesDevice) && (!owed.audio || failure.isAudio)

/-- A protected frame of the capture that runs. -/
def MediaBroker.exposes (b : MediaBroker) (frame : FrameDescriptor) : Bool :=
  let stamped := b.stamped frame
  b.running && frame.deviceGeneration == b.diagnostics.deviceGeneration &&
    b.targetGeometry.isSome && stamped.geometryEpoch == b.diagnostics.geometryEpoch &&
    stamped.sequence != 0 && stamped.sequence > b.diagnostics.latestFrameSequence &&
    stamped.capturedQpc > b.diagnostics.latestFrameQpc && stamped.protectedContent

/-- What the overlay answers: it starts and is excluded from capture, unless nothing is owed. -/
def OwedRecovery.bears (owed : OwedRecovery) (answer : OverlayAnswer) : Bool :=
  match answer.failure with
  | some failure => owed.settled && failure.harmless
  | none => owed.settled || answer.excluded

/-- **Nothing that the caller or the platform gives this move disturbs what is owed.** While
something is owed the broker gets failures of that kind only, no target is selected, cleared or
refused, no frame is protected, a target that is shown maps and starts an overlay, and no capture
starts. The answers whose failure does not ask for its own recovery are harmless. -/
def undisturbed (b : MediaBroker) : Move → Bool
  | .refuse failure _ _ => b.owed.settled && failure.harmless
  | .adoptTarget _ | .clearTarget => b.owed.settled
  | .callback (.frame frame _) => b.owed.settled || !b.exposes frame
  | .callback (.failure failure _) => b.owed.expects failure
  | .callback (.targetState state geometry answer _) =>
    if state.failure.isSome then b.owed.settled
    else if state = .minimized then true
    else geometry.all fun shown =>
      if (calculateOverlayGeometry shown).isNone then b.owed.settled
      else b.diagnostics.captureBackend = .desktopDuplication || b.owed.bears answer
  | .createDevice answer _ => answer.all b.owed.expects
  | .endCapture _ none _ => b.owed.settled
  | .endCapture backend (some failure) _ =>
    if fallsBack policy backend failure then failure.harmless else b.owed.expects failure
  | .recover answers =>
    match b.diagnostics.pendingRecovery with
    | .recreateGraphicsDevice => answers.graphics.all b.owed.expects
    | .recreateAudioClient => answers.audio.all fun failure => !failure.losesDevice
    | _ => true
  | _ => true

/-- A broker that does not run owes nothing. -/
def keepsRecovery (b : MediaBroker) (move : Move) : Bool := !b.running || undisturbed policy b move

/-! ## Rules -/

section Rules

variable {policy} {b b' : MediaBroker} {failure : Failure}

theorem OwedRecovery.settled_iff {owed : OwedRecovery} :
    owed.settled = true ↔ owed.graphics = false ∧ owed.audio = false := by
  simp [OwedRecovery.settled]

theorem OwedRecovery.expects_of_settled {owed : OwedRecovery} (h : owed.settled = true)
    (failure : Failure) : owed.expects failure = true := by
  obtain ⟨hgraphics, haudio⟩ := OwedRecovery.settled_iff.1 h
  simp [OwedRecovery.expects, hgraphics, haudio]

theorem Failure.losesDevice_of_isAudio (h : failure.isAudio = true) :
    failure.losesDevice = false := by
  simp [Failure.losesDevice, h]

/-- **A step that writes nothing**, and owes nothing anew. -/
structure Keeps (b b' : MediaBroker) : Prop where
  running : b'.running = b.running
  pending : b'.diagnostics.pendingRecovery = b.diagnostics.pendingRecovery
  graphics : b'.owed.graphics = true → b.owed.graphics = true
  audio : b'.owed.audio = true → b.owed.audio = true

theorem RecoveryPending.keeps (h : RecoveryPending b) (hkeeps : Keeps b b') :
    RecoveryPending b' := by
  intro hrunning
  obtain ⟨hgraphics, haudio⟩ := h (hkeeps.running ▸ hrunning)
  rw [hkeeps.pending]
  exact ⟨fun howed => hgraphics (hkeeps.graphics howed), fun howed => haudio (hkeeps.audio howed)⟩

/-- Where nothing is owed, anything may be written. -/
theorem RecoveryPending.of_settled (h : b.owed.settled = true) : RecoveryPending b := by
  obtain ⟨hgraphics, haudio⟩ := OwedRecovery.settled_iff.1 h
  intro _
  rw [hgraphics, haudio]
  exact ⟨fun howed => (by cases howed), fun howed => (by cases howed)⟩

namespace MediaBroker

/-- A harmless failure where nothing is owed. -/
theorem fail_pending (hsettled : b.owed.settled = true) (hharmless : failure.harmless = true)
    (state : BrokerState) (recovery : RecoveryAction) :
    RecoveryPending (b.fail failure state recovery) := by
  obtain ⟨hgraphics, haudio⟩ := OwedRecovery.settled_iff.1 hsettled
  simp only [Failure.harmless, Bool.and_eq_true, Bool.not_eq_true'] at hharmless
  refine .of_settled (OwedRecovery.settled_iff.2 ⟨?_, ?_⟩)
  · simp [OwedRecovery.report, hgraphics, hharmless.1]
  · simp [OwedRecovery.report, haudio, hharmless.2]

/-- A failure asks for its own recovery. -/
theorem handleFailure_spec (failure : Failure) (clock : MonotonicTime) :
    (b.handleFailure policy failure clock).owed = b.owed.report failure ∧
      (failure.losesDevice = true → (b.handleFailure policy failure clock).diagnostics.pendingRecovery
        = .recreateGraphicsDevice) ∧
      (failure.isAudio = true → (b.handleFailure policy failure clock).diagnostics.pendingRecovery
        = .recreateAudioClient) := by
  have haudio : failure.isAudio = true ↔
      failure.domain = .audioCapture ∨ failure.domain = .audioRender := by
    simp [Failure.isAudio]
  unfold handleFailure
  split
  · next hdomain =>
    refine ⟨rfl, fun hdevice => ?_, fun _ => rfl⟩
    rw [Failure.losesDevice_of_isAudio (haudio.2 hdomain)] at hdevice
    cases hdevice
  · next hdomain =>
    have hnot : ∀ {p : Prop}, failure.isAudio = true → p := fun h => absurd (haudio.1 h) hdomain
    split <;> refine ⟨rfl, fun hdevice => ?_, hnot⟩ <;>
      first
      | rfl
      | simp_all [Failure.losesDevice]

theorem handleFailure_pending (hexpects : b.owed.expects failure = true) (clock : MonotonicTime) :
    RecoveryPending (b.handleFailure policy failure clock) := by
  obtain ⟨howed, hdevice, haudio⟩ := @handleFailure_spec policy b failure clock
  simp only [OwedRecovery.expects, Bool.and_eq_true, Bool.or_eq_true, Bool.not_eq_true'] at hexpects
  intro _
  rw [howed]
  constructor
  · intro hgraphics
    refine hdevice ?_
    rcases (Bool.or_eq_true ..).mp hgraphics with hbefore | hnow
    · exact hexpects.1.resolve_left (by simp [hbefore])
    · exact hnow
  · intro haudible
    refine haudio ?_
    rcases (Bool.or_eq_true ..).mp haudible with hbefore | hnow
    · exact hexpects.2.resolve_left (by simp [hbefore])
    · exact hnow

end MediaBroker

end Rules

/-! ## Moves -/

namespace MediaBroker

variable {policy} {b : MediaBroker}

/-- A frame exposes the target where it passes the checks of `handle_frame`. -/
theorem exposes_eq (frame : FrameDescriptor) :
    b.exposes frame =
      (!(!b.running || frame.deviceGeneration != b.diagnostics.deviceGeneration ||
          b.targetGeometry.isNone) &&
        !((b.stamped frame).geometryEpoch != b.diagnostics.geometryEpoch ||
          (b.stamped frame).sequence == 0 ||
          (b.stamped frame).sequence ≤ b.diagnostics.latestFrameSequence ||
          (b.stamped frame).capturedQpc ≤ b.diagnostics.latestFrameQpc) &&
        (b.stamped frame).protectedContent) := by
  have hgeometry : b.targetGeometry.isSome = !b.targetGeometry.isNone := by
    cases b.targetGeometry <;> rfl
  have hlt : ∀ x y : UInt64, decide (x > y) = !decide (x ≤ y) := by
    intro x y
    simp [← UInt64.not_le]
  simp only [exposes, hgeometry, hlt, Bool.not_or, Bool.not_not, bne, Bool.and_assoc]

theorem handleFrame_pending (h : RecoveryPending b) {frame : FrameDescriptor}
    (hcalm : b.owed.settled = true ∨ b.exposes frame = false) (clock : MonotonicTime) :
    RecoveryPending (b.handleFrame policy frame clock) := by
  rw [exposes_eq] at hcalm
  unfold handleFrame
  split
  · exact h
  · next haccepted =>
    dsimp only
    split
    · exact h.keeps ⟨rfl, rfl, id, id⟩
    · next hfresh =>
      split
      · next hprotected =>
        rw [Bool.eq_false_iff.2 haccepted, Bool.eq_false_iff.2 hfresh, hprotected] at hcalm
        refine handleFailure_pending (OwedRecovery.expects_of_settled ?_ _) clock
        exact hcalm.resolve_right (by simp)
      · exact h.keeps ⟨rfl, rfl, id, id⟩

theorem keeps_takeGeometry (geometry : TargetGeometry) : Keeps b (b.takeGeometry geometry) := by
  unfold takeGeometry
  split
  · split
    all_goals exact ⟨rfl, rfl, id, id⟩
  · exact ⟨rfl, rfl, id, id⟩

theorem keeps_minimize (previous : TargetState) (geometry : Option TargetGeometry) :
    Keeps b (b.minimize previous geometry) := by
  unfold minimize
  split
  · split
    all_goals exact ⟨rfl, rfl, id, id⟩
  · exact ⟨rfl, rfl, id, id⟩

theorem startOverlay_pending (h : RecoveryPending b) {answer : OverlayAnswer}
    (hbears : b.owed.bears answer = true) : RecoveryPending (b.startOverlay policy answer) := by
  unfold startOverlay
  unfold OwedRecovery.bears at hbears
  cases hanswer : answer.failure with
  | some failure =>
    rw [hanswer] at hbears
    simp only [Bool.and_eq_true] at hbears
    dsimp only
    split
    all_goals exact fail_pending hbears.1 hbears.2 _ _
  | none =>
    rw [hanswer] at hbears
    simp only [Bool.or_eq_true] at hbears
    dsimp only
    split
    · next hshown =>
      have hsettled : b.owed.settled = true := hbears.resolve_right (by simpa using hshown)
      exact fail_pending (b := { b.stopOverlay with
        diagnostics := { b.diagnostics with overlayBackend := .none } }) hsettled (by decide) _ _
    · exact h.keeps ⟨rfl, rfl, id, id⟩

theorem handleTargetState_pending (h : RecoveryPending b) {state : TargetState}
    {geometry : Option TargetGeometry} {answer : OverlayAnswer} {clock : MonotonicTime}
    (hcalm : undisturbed policy b (.callback (.targetState state geometry answer clock)) = true) :
    RecoveryPending (b.handleTargetState policy state geometry answer clock) := by
  have hstate : Keeps b (b.setTargetState state) := ⟨rfl, rfl, id, id⟩
  simp only [undisturbed] at hcalm
  rcases handleTargetState_cases policy b state geometry answer clock with
    ⟨failure, hfailure, heq⟩ |
      ⟨hfailure, ⟨hminimized, heq⟩ | ⟨hminimized, ⟨rfl, heq⟩ | ⟨shown, rfl, heq⟩⟩⟩
  · rw [hfailure, Option.isSome_some, if_pos rfl] at hcalm
    rw [heq]
    exact handleFailure_pending (b := b.setTargetState state)
      (OwedRecovery.expects_of_settled hcalm _) clock
  · rw [heq]
    exact (h.keeps hstate).keeps (keeps_minimize _ geometry)
  · rw [heq]
    exact h.keeps hstate
  · rw [hfailure, Option.isSome_none, if_neg Bool.false_ne_true, if_neg hminimized,
      Option.all_some] at hcalm
    have htaken := (h.keeps hstate).keeps (keeps_takeGeometry shown)
    have howed : ((b.setTargetState state).takeGeometry shown).owed = b.owed := by
      unfold takeGeometry
      split
      · split
        all_goals rfl
      · rfl
    have hbackend : ((b.setTargetState state).takeGeometry shown).diagnostics.captureBackend =
        b.diagnostics.captureBackend :=
      (takeGeometry_platform (b := b.setTargetState state) shown).1
    have hoverlay : ((b.setTargetState state).takeGeometry shown).overlayGeometry =
        calculateOverlayGeometry shown := calculateOverlayGeometry_epoch shown _
    rw [heq]
    by_cases hmapped : (calculateOverlayGeometry shown).isNone = true
    · rw [if_pos hmapped] at hcalm
      rw [showOverlay, hoverlay, if_pos hmapped]
      exact handleFailure_pending (OwedRecovery.expects_of_settled (howed ▸ hcalm) _) clock
    · rw [if_neg hmapped, Bool.or_eq_true, decide_eq_true_eq] at hcalm
      rw [showOverlay_eq policy (by rw [hoverlay]; exact Bool.eq_false_iff.2 hmapped), hbackend]
      split
      · exact htaken.keeps ⟨rfl, rfl, id, id⟩
      · next hcaptured =>
        have hshown : RecoveryPending
            ((b.setTargetState state).takeGeometry shown).stopOverlay.disallowOverlay :=
          htaken.keeps ⟨rfl, rfl, id, id⟩
        refine startOverlay_pending hshown ?_
        show ((b.setTargetState state).takeGeometry shown).owed.bears answer = true
        rw [howed]
        exact hcalm.resolve_left hcaptured

theorem endCapture_pending (h : RecoveryPending b) {backend : CaptureBackend}
    {failure : Option Failure} {clock : MonotonicTime}
    (hcalm : undisturbed policy b (.endCapture backend failure clock) = true) :
    RecoveryPending (b.endCapture policy backend failure clock) := by
  cases failure with
  | none => exact .of_settled hcalm
  | some failure =>
    by_cases hfallback : fallsBack policy backend failure = true
    · simp only [undisturbed, if_pos hfallback, Failure.harmless, Bool.and_eq_true,
        Bool.not_eq_true'] at hcalm
      simp only [endCapture, if_pos hfallback]
      refine h.keeps ⟨rfl, rfl, ?_, ?_⟩
      · simp [OwedRecovery.report, hcalm.1]
      · simp [OwedRecovery.report, hcalm.2]
    · simp only [undisturbed, if_neg hfallback] at hcalm
      simp only [endCapture, if_neg hfallback]
      exact handleFailure_pending hcalm clock

theorem dropDevice_owed : b.dropDevice.owed = b.owed := by
  unfold dropDevice
  dsimp only
  split
  all_goals rfl

theorem keeps_compose (now : MonotonicTime) : Keeps b (b.compose policy now) := by
  rcases compose_cases policy b now with ⟨frame, overlay, -, -, hcomposed⟩ | ⟨-, heq⟩
  · generalize b.compose policy now = after at hcomposed
    cases hcomposed with
    | presented _ _ _ => exact ⟨rfl, rfl, id, id⟩
    | kept _ => exact ⟨rfl, rfl, id, id⟩
    | pristine _ => exact ⟨rfl, rfl, id, id⟩
  · rw [heq]
    exact ⟨rfl, rfl, id, id⟩

end MediaBroker

open MediaBroker

variable {policy} {b : MediaBroker}

/-- A recovery that is pending leaves no other owed. -/
theorem RecoveryPending.owed (h : RecoveryPending b) (hrunning : b.running = true) :
    (b.diagnostics.pendingRecovery ≠ .recreateGraphicsDevice → b.owed.graphics = false) ∧
      (b.diagnostics.pendingRecovery ≠ .recreateAudioClient → b.owed.audio = false) := by
  obtain ⟨hgraphics, haudio⟩ := h hrunning
  constructor
  · intro hother
    apply Bool.eq_false_iff.2
    intro howed
    exact hother (hgraphics howed)
  · intro hother
    apply Bool.eq_false_iff.2
    intro howed
    exact hother (haudio howed)

/-- **The attempt of a recovery loses none.** -/
theorem RecoveryPending.beginRecovery (h : RecoveryPending b) (hrunning : b.running = true)
    {answers : RecoveryAnswers} (hcalm : undisturbed policy b (.recover answers) = true) :
    RecoveryPending (b.beginRecovery policy answers) := by
  obtain ⟨hgraphics, haudio⟩ := h.owed hrunning
  unfold MediaBroker.beginRecovery
  unfold undisturbed at hcalm
  cases hpending : b.diagnostics.pendingRecovery with
  | recreateGraphicsDevice =>
    rw [hpending] at hcalm
    dsimp only at hcalm ⊢
    cases hanswer : answers.graphics with
    | some failure =>
      rw [hanswer, Option.all_some] at hcalm
      refine handleFailure_pending ?_ answers.clock
      rw [dropDevice_owed]
      exact hcalm
    | none =>
      refine .of_settled (OwedRecovery.settled_iff.2 ⟨rfl, ?_⟩)
      show b.takePendingRecovery.dropDevice.owed.audio = false
      rw [dropDevice_owed]
      exact haudio (by rw [hpending]; decide)
  | recreateAudioClient =>
    have hnone := hgraphics (by rw [hpending]; decide)
    rw [hpending] at hcalm
    dsimp only at hcalm ⊢
    unfold MediaBroker.recreateAudio
    cases hanswer : answers.audio with
    | some failure =>
      rw [hanswer, Option.all_some, Bool.not_eq_true'] at hcalm
      refine .of_settled (OwedRecovery.settled_iff.2 ⟨?_, rfl⟩)
      simp [OwedRecovery.report, hnone, hcalm]
    | none => exact .of_settled (OwedRecovery.settled_iff.2 ⟨hnone, rfl⟩)
  | retrySameBackend =>
    have hsettled := OwedRecovery.settled_iff.2
      ⟨hgraphics (by rw [hpending]; decide), haudio (by rw [hpending]; decide)⟩
    dsimp only
    split
    · exact .of_settled hsettled
    · split
      · exact .of_settled hsettled
      · split
        all_goals exact .of_settled hsettled
  | _ =>
    exact .of_settled (OwedRecovery.settled_iff.2
      ⟨hgraphics (by rw [hpending]; decide), haudio (by rw [hpending]; decide)⟩)

theorem start_pending (h : RecoveryPending b) (audio hotkey : Option Failure) :
    RecoveryPending (b.start audio hotkey) := by
  unfold MediaBroker.start
  split
  · exact h
  · next hstopped =>
    split
    · exact fun hrunning => absurd hrunning hstopped
    · split
      · exact fun hrunning => absurd hrunning hstopped
      · exact .of_settled rfl

/-- Only `start` makes a broker run. -/
theorem apply_stopped (hstopped : b.running = false) {move : Move}
    (hstart : ∀ audio hotkey, move ≠ .start audio hotkey) :
    (move.apply policy b).running = false := by
  cases move with
  | start audio hotkey => exact absurd rfl (hstart audio hotkey)
  | stop =>
    show b.stop.running = false
    unfold MediaBroker.stop
    split
    · exact hstopped
    · rfl
  | submitPatch patch =>
    show (b.submitPatch policy patch).running = false
    unfold MediaBroker.submitPatch
    split
    all_goals exact hstopped
  | submitOcclusionEvidence evidence =>
    show (b.submitOcclusionEvidence evidence).running = false
    unfold MediaBroker.submitOcclusionEvidence
    split
    all_goals exact hstopped
  | compose now => exact (keeps_compose now).running.trans hstopped
  | refuse | adoptTarget | clearTarget | cancelGeneration => exact hstopped
  | callback | createDevice | beginCapture | endCapture | recover =>
    exact (apply_running policy rfl b).trans hstopped

/-- **A move that disturbs nothing loses no recovery.** -/
theorem RecoveryPending.apply (h : RecoveryPending b) {move : Move}
    (hkeeps : keepsRecovery policy b move = true) : RecoveryPending (move.apply policy b) := by
  by_cases hstart : ∃ audio hotkey, move = .start audio hotkey
  · obtain ⟨audio, hotkey, rfl⟩ := hstart
    exact start_pending h audio hotkey
  by_cases hrunning : b.running = true
  · have hcalm : undisturbed policy b move = true := by simpa [keepsRecovery, hrunning] using hkeeps
    cases move with
    | start audio hotkey => exact absurd ⟨audio, hotkey, rfl⟩ hstart
    | stop =>
      show RecoveryPending b.stop
      unfold MediaBroker.stop
      split
      · exact h
      · intro hnever
        cases hnever
    | refuse failure state recovery =>
      obtain ⟨hsettled, hharmless⟩ := (Bool.and_eq_true ..).mp hcalm
      exact fail_pending hsettled hharmless state recovery
    | adoptTarget target => exact .of_settled hcalm
    | clearTarget => exact .of_settled hcalm
    | submitPatch patch =>
      show RecoveryPending (b.submitPatch policy patch)
      unfold MediaBroker.submitPatch
      split
      all_goals exact h
    | submitOcclusionEvidence evidence =>
      show RecoveryPending (b.submitOcclusionEvidence evidence)
      unfold MediaBroker.submitOcclusionEvidence
      split
      all_goals exact h
    | cancelGeneration newGeneration => exact h
    | callback report =>
      cases report with
      | frame captured clock => exact handleFrame_pending h (by simpa [undisturbed] using hcalm) clock
      | failure failed clock => exact handleFailure_pending hcalm clock
      | targetState state geometry answer clock => exact handleTargetState_pending h hcalm
    | createDevice answer clock =>
      cases answer with
      | some failure => exact handleFailure_pending hcalm clock
      | none => exact h.keeps ⟨rfl, rfl, fun howed => (by cases howed), id⟩
    | beginCapture backend => exact h
    | endCapture backend failure clock => exact endCapture_pending h hcalm
    | recover answers => exact h.beginRecovery hrunning hcalm
    | compose now => exact h.keeps (keeps_compose now)
  · intro hnever
    have hstopped := @apply_stopped policy b (Bool.eq_false_iff.2 hrunning)
      move fun audio hotkey heq => hstart ⟨audio, hotkey, heq⟩
    rw [hstopped] at hnever
    cases hnever

/-- **No recovery is lost** along a run in which nothing disturbs a recovery that is owed. -/
theorem recovery_pending {operations : List Operation}
    (hkeeps : Meets policy (fun b move => keepsRecovery policy b move) operations .initial)
    {pre : List Operation} (hpre : pre <+: operations) :
    RecoveryPending (runFrom (Operation.perform policy) pre .initial) :=
  hkeeps.inv RecoveryPending (fun _ _ h hmove => h.apply hmove)
    (.of_settled rfl) hpre

/-! ### Two failures at once -/

def deviceRemoved : Operation :=
  .callback (.failure ⟨.device, .deviceRemoved, true, "Graphics device removed"⟩ 0)

def audioLost : Operation :=
  .callback (.failure ⟨.audioRender, .backendUnavailable, true, "Audio endpoint lost"⟩ 0)

/-- The graphics device is removed and comes back. -/
def deviceRecreated : List Operation :=
  started ++ [deviceRemoved, .tick (milliseconds 1000) compliantRecovery]

theorem recovery_pending_deviceRecreated :
    Meets .default (fun b move => keepsRecovery .default b move) deviceRecreated .initial ∧
      RecoveryPending (runFrom (Operation.perform .default)
        (started ++ [deviceRemoved]) .initial) := by
  have hkeeps : Meets .default (fun b move => keepsRecovery .default b move) deviceRecreated
      .initial := by
    decide +kernel
  have hpre : started ++ [deviceRemoved] <+: deviceRecreated :=
    ⟨[.tick (milliseconds 1000) compliantRecovery], rfl⟩
  exact ⟨hkeeps, recovery_pending hkeeps hpre⟩

/-- **A lost audio device takes the place of a removed graphics device**, whose recovery is still
owed. -/
theorem recovery_overwritten :
    ¬RecoveryPending (runFrom (Operation.perform .default)
      (started ++ [deviceRemoved, audioLost]) .initial) := by
  intro h
  have hrunning : (runFrom (Operation.perform .default) (started ++ [deviceRemoved, audioLost])
      .initial).running = true := by
    decide +kernel
  have howed : (runFrom (Operation.perform .default) (started ++ [deviceRemoved, audioLost])
      .initial).owed.graphics = true := by
    decide +kernel
  have hpending : (runFrom (Operation.perform .default) (started ++ [deviceRemoved, audioLost])
      .initial).diagnostics.pendingRecovery = .recreateAudioClient := by
    decide +kernel
  rw [(h hrunning).1 howed] at hpending
  cases hpending

end NpcRuntime.Media
