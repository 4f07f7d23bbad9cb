import NpcRuntime.Lib.Calls
import NpcRuntime.Lib.Result
import NpcRuntime.Lib.Saturating
import NpcRuntime.Lib.Table
import NpcRuntime.Lib.Text
import Mathlib.Algebra.Order.Field.Rat

/-!
# Actor tracks

`identity-engine/src/tracker.rs`: the detections of a frame are matched with the tracks of the
frames before, tracks without a detection are lost and after a grace period retired, and detections
without a track start one.

Coordinates and scores are exact rationals in place of `f32`. What the tracker computes from two
boxes, from two embeddings, and for the name of a track is a parameter (`Perception`), so that
nothing below depends on it.

**An update writes as it goes**: its four loops change the tracks one by one, and a track id or an
epoch that cannot be counted up any more returns out of the middle of them. An update is therefore a
call on the tracker and the events so far, which a failure leaves half changed.
-/

namespace NpcRuntime.Identity

open Text

abbrev TrackId := Nat

abbrev TrackEpoch := Nat

inductive TrackPhase where
  | visible
  | offscreen
deriving DecidableEq

structure BoundingBox where
  x : ℚ
  y : ℚ
  width : ℚ
  height : ℚ
deriving DecidableEq

def BoundingBox.translated (bounds : BoundingBox) (dx dy : ℚ) : BoundingBox :=
  { bounds with x := bounds.x + dx, y := bounds.y + dy }

/-- What a tracker sees in boxes and embeddings, and how it names a track. -/
structure Perception (Embedding : Type) where
  validEmbedding : Embedding → Bool
  /-- `cosine_similarity`, where both embeddings are of one model space. -/
  cosineSimilarity : Embedding → Embedding → Option ℚ
  intersectionOverUnion : BoundingBox → BoundingBox → ℚ
  normalizedCenterDistance : BoundingBox → BoundingBox → ℚ
  /-- The digest of the namespace, the track and its first frame. -/
  encounterId : Text → TrackId → Nat → Text

structure ActorDetection (Embedding : Type) where
  detectorLocalId : Option Text
  bounds : BoundingBox
  confidence : ℚ
  embedding : Option Embedding
deriving DecidableEq

structure FrameActors (Embedding : Type) where
  frameIndex : Nat
  timestampMs : Nat
  detections : List (ActorDetection Embedding)

structure TrackerConfig where
  encounterNamespace : Text
  minimumDetectionConfidence : ℚ
  minimumIntersectionOverUnion : ℚ
  maximumNormalizedCenterDistance : ℚ
  minimumAppearanceSimilarity : ℚ
  appearanceWeight : ℚ
  selectedActorMatchBonus : ℚ
  velocitySmoothing : ℚ
  maximumMissedFrames : Nat
  selectedActorMaximumMissedFrames : Nat
deriving DecidableEq

inductive TrackerError where
  | invalidConfiguration
  | invalidEncounterNamespace
  | invalidDetectionConfidence
  | invalidDetectorLocalId
  | duplicateDetectorLocalId (localId : Text)
  | nonMonotonicFrameIndex
  | nonMonotonicTimestamp
  | unknownTrack (trackId : TrackId)
  | trackIdExhausted
  | trackEpochExhausted
  | internalAssociationInvariant
  | invalidGeometry
  | invalidEmbedding
deriving DecidableEq

def unitInterval (value : ℚ) : Bool := 0 ≤ value && value ≤ 1

def TrackerConfig.validate (config : TrackerConfig) : Except TrackerError Unit := do
  require (!config.encounterNamespace.isBlank && config.encounterNamespace.utf8Len ≤ 256)
    .invalidEncounterNamespace
  require ([config.minimumDetectionConfidence, config.minimumIntersectionOverUnion,
    config.appearanceWeight, config.velocitySmoothing].all unitInterval) .invalidConfiguration
  require (-1 ≤ config.minimumAppearanceSimilarity && config.minimumAppearanceSimilarity ≤ 1 &&
    0 < config.maximumNormalizedCenterDistance && 0 ≤ config.selectedActorMatchBonus &&
    config.maximumMissedFrames ≤ config.selectedActorMaximumMissedFrames) .invalidConfiguration

variable {Embedding : Type}

structure TrackState (Embedding : Type) where
  trackId : TrackId
  trackEpoch : TrackEpoch
  phase : TrackPhase
  bounds : BoundingBox
  velocityXPerFrame : ℚ
  velocityYPerFrame : ℚ
  firstSeenFrame : Nat
  lastSeenFrame : Nat
  missedFrames : Nat
  encounterId : Text
  lastEmbedding : Option Embedding
deriving DecidableEq

structure ActorTrackSnapshot where
  trackId : TrackId
  trackEpoch : TrackEpoch
  phase : TrackPhase
  bounds : BoundingBox
  velocityXPerFrame : ℚ
  velocityYPerFrame : ℚ
  firstSeenFrame : Nat
  lastSeenFrame : Nat
  missedFrames : Nat
  selected : Bool
  encounterId : Text
deriving DecidableEq

inductive TrackEvent where
  | created (trackId : TrackId) (trackEpoch : TrackEpoch)
  | updated (trackId : TrackId) (trackEpoch : TrackEpoch)
  | lost (trackId : TrackId) (trackEpoch : TrackEpoch)
  | reacquired (trackId : TrackId) (trackEpoch : TrackEpoch)
  | retired (trackId : TrackId) (finalEpoch : TrackEpoch) (encounterId : Text)
  | selectionCleared (retiredTrackId : TrackId)
deriving DecidableEq

structure TrackedDetection (Embedding : Type) where
  detectionIndex : Nat
  trackId : TrackId
  trackEpoch : TrackEpoch
  embedding : Option Embedding
deriving DecidableEq

structure TrackerUpdate (Embedding : Type) where
  frameIndex : Nat
  tracks : List ActorTrackSnapshot
  observations : List (TrackedDetection Embedding)
  events : List TrackEvent
  selectedTrackId : Option TrackId
deriving DecidableEq

def TrackState.snapshot (track : TrackState Embedding) (selected : Bool) : ActorTrackSnapshot where
  trackId := track.trackId
  trackEpoch := track.trackEpoch
  phase := track.phase
  bounds := track.bounds
  velocityXPerFrame := track.velocityXPerFrame
  velocityYPerFrame := track.velocityYPerFrame
  firstSeenFrame := track.firstSeenFrame
  lastSeenFrame := track.lastSeenFrame
  missedFrames := track.missedFrames
  selected := selected
  encounterId := track.encounterId

def TrackState.predictedBounds (track : TrackState Embedding) (frameIndex : Nat) : BoundingBox :=
  let elapsed : ℚ := (frameIndex - track.lastSeenFrame : Nat)
  track.bounds.translated (track.velocityXPerFrame * elapsed) (track.velocityYPerFrame * elapsed)

structure ActorTracker (Embedding : Type) where
  config : TrackerConfig
  nextTrackId : Nat
  tracks : Table TrackId (TrackState Embedding)
  selectedTrackId : Option TrackId
  lastFrameIndex : Option Nat
  lastTimestampMs : Option Nat

namespace ActorTracker

def new (config : TrackerConfig) : Except TrackerError (ActorTracker Embedding) := do
  config.validate
  return { config, nextTrackId := 1, tracks := ∅, selectedTrackId := none, lastFrameIndex := none,
           lastTimestampMs := none }

variable (s : ActorTracker Embedding)

def selectActor (trackId : TrackId) : Except TrackerError (ActorTracker Embedding) :=
  if trackId ∈ s.tracks then .ok { s with selectedTrackId := some trackId }
  else .error (.unknownTrack trackId)

def clearSelection : ActorTracker Embedding := { s with selectedTrackId := none }

def snapshot : List ActorTrackSnapshot :=
  s.tracks.ascending.map fun track => track.snapshot (s.selectedTrackId = some track.trackId)

end ActorTracker

/-! ## Association -/

def ActorDetection.validate (perception : Perception Embedding)
    (detection : ActorDetection Embedding) : Except TrackerError Unit := do
  require (0 < detection.bounds.width && 0 < detection.bounds.height) .invalidGeometry
  require (unitInterval detection.confidence) .invalidDetectionConfidence
  require (detection.detectorLocalId.all fun localId =>
    !localId.isBlank && localId.utf8Len ≤ 256) .invalidDetectorLocalId
  require (detection.embedding.all perception.validEmbedding) .invalidEmbedding

/-- The detections of a frame with the detector-local ids before them. -/
def validateDetections (perception : Perception Embedding) :
    List Text → List (ActorDetection Embedding) → Except TrackerError Unit
  | _, [] => .ok ()
  | seen, detection :: rest => do
    detection.validate perception
    match detection.detectorLocalId with
    | none => validateDetections perception seen rest
    | some localId => do
      require (localId ∉ seen) (.duplicateDetectorLocalId localId)
      validateDetections perception (localId :: seen) rest

def validateFrame (perception : Perception Embedding) (s : ActorTracker Embedding)
    (frame : FrameActors Embedding) : Except TrackerError Unit := do
  require (s.lastFrameIndex.all fun last => last < frame.frameIndex) .nonMonotonicFrameIndex
  require (s.lastTimestampMs.all fun last => last ≤ frame.timestampMs) .nonMonotonicTimestamp
  validateDetections perception [] frame.detections

def associationScore (perception : Perception Embedding) (s : ActorTracker Embedding)
    (track : TrackState Embedding) (detection : ActorDetection Embedding) (frameIndex : Nat) :
    Option ℚ :=
  let config := s.config
  let predicted := track.predictedBounds frameIndex
  let iou := perception.intersectionOverUnion predicted detection.bounds
  let distance := perception.normalizedCenterDistance predicted detection.bounds
  let appearance := track.lastEmbedding.bind fun previous =>
    detection.embedding.bind fun current => perception.cosineSimilarity previous current
  let geometricGate := config.minimumIntersectionOverUnion ≤ iou ||
    distance ≤ config.maximumNormalizedCenterDistance
  let appearanceGate := appearance.any fun similarity =>
    config.minimumAppearanceSimilarity ≤ similarity
  if !geometricGate && !appearanceGate then none
  else if appearance.any fun similarity => similarity < config.minimumAppearanceSimilarity then none
  else
    let proximity := min (max (1 - distance / config.maximumNormalizedCenterDistance) 0) 1
    let appearanceScore := (appearance.map fun score => (score + 1) / 2).getD (1 / 2)
    let geometryWeight := 1 - config.appearanceWeight
    let score := geometryWeight * (3 / 5 * iou + 2 / 5 * proximity) +
      config.appearanceWeight * appearanceScore
    some (if s.selectedTrackId = some track.trackId then score + config.selectedActorMatchBonus
      else score)

/-- A detection that counts, with its place in the frame. -/
structure Eligible (Embedding : Type) where
  detectionIndex : Nat
  detection : ActorDetection Embedding
deriving DecidableEq

def eligibleDetections (config : TrackerConfig) (frame : FrameActors Embedding) :
    List (Eligible Embedding) :=
  (frame.detections.zipIdx.filter fun (detection, _) =>
    config.minimumDetectionConfidence ≤ detection.confidence).map fun (detection, index) =>
      ⟨index, detection⟩

structure CandidatePair (Embedding : Type) where
  trackId : TrackId
  eligible : Eligible Embedding
  score : ℚ

/-- The better score first, then the lower track id, then the lower detection index. -/
def CandidatePair.before (left right : CandidatePair Embedding) : Prop :=
  right.score < left.score ∨ right.score = left.score ∧ (left.trackId < right.trackId ∨
    left.trackId = right.trackId ∧ left.eligible.detectionIndex ≤ right.eligible.detectionIndex)

instance : DecidableRel (@CandidatePair.before Embedding) := fun _ _ =>
  inferInstanceAs (Decidable (_ ∨ _ ∧ (_ ∨ _ ∧ _)))

def candidatePairs (perception : Perception Embedding) (s : ActorTracker Embedding)
    (frame : FrameActors Embedding) : List (CandidatePair Embedding) :=
  (s.tracks.ascending.flatMap fun track =>
    (eligibleDetections s.config frame).filterMap fun eligible =>
      (associationScore perception s track eligible.detection frame.frameIndex).map
        fun score => ⟨track.trackId, eligible, score⟩).insertionSort CandidatePair.before

/-- The pairs that are taken, in turn: those whose track and whose detection are still free. -/
def takeFree (taken : List (CandidatePair Embedding)) :
    List (CandidatePair Embedding) → List (CandidatePair Embedding)
  | [] => taken
  | candidate :: rest =>
    if candidate.trackId ∉ taken.map CandidatePair.trackId ∧
        candidate.eligible.detectionIndex ∉ taken.map (·.eligible.detectionIndex) then
      takeFree (taken ++ [candidate]) rest
    else takeFree taken rest

def assignments (perception : Perception Embedding) (s : ActorTracker Embedding)
    (frame : FrameActors Embedding) : List (CandidatePair Embedding) :=
  (takeFree [] (candidatePairs perception s frame)).insertionSort fun left right =>
    left.eligible.detectionIndex ≤ right.eligible.detectionIndex

/-- The tracks in order, without the assigned ones. -/
def unassignedTracks (s : ActorTracker Embedding) (assigned : List (CandidatePair Embedding)) :
    List TrackId :=
  (s.tracks.keys.insertionSort (· ≤ ·)).filter fun trackId =>
    trackId ∉ assigned.map CandidatePair.trackId

/-- The eligible detections that no track was assigned. -/
def newcomers (config : TrackerConfig) (frame : FrameActors Embedding)
    (assigned : List (CandidatePair Embedding)) : List (Eligible Embedding) :=
  (eligibleDetections config frame).filter fun eligible =>
    eligible.detectionIndex ∉ assigned.map (·.eligible.detectionIndex)

/-! ## The update -/

/-- The tracker and what the update has collected so far. -/
structure Progress (Embedding : Type) where
  tracker : ActorTracker Embedding
  events : List TrackEvent
  observations : List (TrackedDetection Embedding)
  retire : List TrackId

abbrev UpdateCall (Embedding : Type) := ExceptT TrackerError (StateM (Progress Embedding))

def nextEpoch (epoch : TrackEpoch) : Except TrackerError TrackEpoch :=
  if epoch < u64Max then .ok (epoch + 1) else .error .trackEpochExhausted

namespace Progress

/-- `get_mut(id)` and a write through it. -/
def write (trackId : TrackId) (f : TrackState Embedding → TrackState Embedding)
    (p : Progress Embedding) : Progress Embedding :=
  { p with tracker := { p.tracker with tracks := p.tracker.tracks.modify trackId f } }

def emit (event : TrackEvent) (p : Progress Embedding) : Progress Embedding :=
  { p with events := p.events ++ [event] }

def observe (observation : TrackedDetection Embedding) (p : Progress Embedding) :
    Progress Embedding :=
  { p with observations := p.observations ++ [observation] }

end Progress

/-- The velocity of a matched track, smoothed. -/
def TrackState.steered (smoothing : ℚ) (frameIndex : Nat) (bounds : BoundingBox)
    (track : TrackState Embedding) : TrackState Embedding :=
  let elapsed : ℚ := (max (frameIndex - track.lastSeenFrame) 1 : Nat)
  { track with
    velocityXPerFrame := smoothing * ((bounds.x - track.bounds.x) / elapsed) +
      (1 - smoothing) * track.velocityXPerFrame
    velocityYPerFrame := smoothing * ((bounds.y - track.bounds.y) / elapsed) +
      (1 - smoothing) * track.velocityYPerFrame }

def matchTrack (frameIndex : Nat) (pair : CandidatePair Embedding) : UpdateCall Embedding Unit := do
  let p ← get
  match p.tracker.tracks.lookup pair.trackId with
  | none => throw .internalAssociationInvariant
  | some track => do
    let detection := pair.eligible.detection
    modify (Progress.write pair.trackId
      (TrackState.steered p.tracker.config.velocitySmoothing frameIndex detection.bounds))
    let reacquired := track.phase = .offscreen
    let epoch ← if reacquired then liftExcept (nextEpoch track.trackEpoch)
      else pure track.trackEpoch
    modify (Progress.write pair.trackId fun track =>
      { track with trackEpoch := epoch, phase := .visible, bounds := detection.bounds
                   lastSeenFrame := frameIndex, missedFrames := 0
                   lastEmbedding := detection.embedding })
    modify (Progress.emit
      (if reacquired then .reacquired pair.trackId epoch else .updated pair.trackId epoch))
    modify (Progress.observe
      ⟨pair.eligible.detectionIndex, pair.trackId, epoch, detection.embedding⟩)

/-- A track that has no detection in this frame. -/
def missTrack (frameIndex : Nat) (trackId : TrackId) : UpdateCall Embedding Unit := do
  let p ← get
  match p.tracker.tracks.lookup trackId with
  | none => throw .internalAssociationInvariant
  | some track => do
    let missed := frameIndex - track.lastSeenFrame
    modify (Progress.write trackId fun track => { track with missedFrames := missed })
    if track.phase = .visible then
      -- the phase is written before the epoch is counted up
      modify (Progress.write trackId fun track => { track with phase := .offscreen })
      let epoch ← liftExcept (nextEpoch track.trackEpoch)
      modify (Progress.write trackId fun track => { track with trackEpoch := epoch })
      modify (Progress.emit (.lost trackId epoch))
    let grace := if p.tracker.selectedTrackId = some trackId
      then p.tracker.config.selectedActorMaximumMissedFrames
      else p.tracker.config.maximumMissedFrames
    if grace < missed then
      modify fun p => { p with retire := p.retire ++ [trackId] }

def createTrack (perception : Perception Embedding) (frameIndex : Nat)
    (eligible : Eligible Embedding) : UpdateCall Embedding Unit := do
  let p ← get
  let trackId := p.tracker.nextTrackId
  if trackId < u64Max then
    let detection := eligible.detection
    let track : TrackState Embedding :=
      { trackId, trackEpoch := 1, phase := .visible, bounds := detection.bounds
        velocityXPerFrame := 0, velocityYPerFrame := 0, firstSeenFrame := frameIndex
        lastSeenFrame := frameIndex, missedFrames := 0
        encounterId := perception.encounterId p.tracker.config.encounterNamespace trackId frameIndex
        lastEmbedding := detection.embedding }
    modify fun p => { p with tracker := { p.tracker with
      nextTrackId := trackId + 1, tracks := p.tracker.tracks.insert trackId track } }
    modify (Progress.emit (.created trackId 1))
    modify (Progress.observe ⟨eligible.detectionIndex, trackId, 1, detection.embedding⟩)
  else throw .trackIdExhausted

def retireTrack (trackId : TrackId) (p : Progress Embedding) : Progress Embedding :=
  match p.tracker.tracks.lookup trackId with
  | none => p
  | some track =>
    let removed := { p with tracker := { p.tracker with tracks := p.tracker.tracks.erase trackId } }
    let announced := removed.emit (.retired trackId track.trackEpoch track.encounterId)
    if p.tracker.selectedTrackId = some trackId then
      { announced with tracker := { announced.tracker with selectedTrackId := none } }.emit
        (.selectionCleared trackId)
    else announced

/-- `ActorTrackerV1::update`. -/
def update (perception : Perception Embedding) (frame : FrameActors Embedding) :
    UpdateCall Embedding (TrackerUpdate Embedding) := do
  let p ← get
  liftExcept (validateFrame perception p.tracker frame)
  let assigned := assignments perception p.tracker frame
  assigned.forM (matchTrack frame.frameIndex)
  let matched ← get
  (unassignedTracks matched.tracker assigned).forM (missTrack frame.frameIndex)
  (newcomers p.tracker.config frame assigned).forM (createTrack perception frame.frameIndex)
  modify fun p => p.retire.foldl (fun p trackId => retireTrack trackId p) p
  modify fun p => { p with
    observations := p.observations.insertionSort fun left right =>
      left.detectionIndex ≤ right.detectionIndex
    tracker := { p.tracker with lastFrameIndex := some frame.frameIndex
                                lastTimestampMs := some frame.timestampMs } }
  let p ← get
  return { frameIndex := frame.frameIndex, tracks := p.tracker.snapshot
           observations := p.observations, events := p.events
           selectedTrackId := p.tracker.selectedTrackId }

/-- The result of an update and the tracker after it. -/
def ActorTracker.update (perception : Perception Embedding) (frame : FrameActors Embedding)
    (s : ActorTracker Embedding) :
    Except TrackerError (TrackerUpdate Embedding) × ActorTracker Embedding :=
  let (result, p) := Identity.update perception frame ⟨s, [], [], []⟩
  (result, p.tracker)

end NpcRuntime.Identity
