import NpcRuntime.Identity.Tracker

/-!
# What an update does

The four loops of an update, each with what holds after any part of it: tracks matched (`Matched`),
missed (`Missed`), created (`Joined`) and retired (`Retiring`). `update_ok` puts them together for a
valid frame that finds room for its ids and epochs.
-/

namespace NpcRuntime.Identity

variable {Embedding : Type} {perception : Perception Embedding} {s : ActorTracker Embedding}
  {frame : FrameActors Embedding}

/-! ## The matching -/

theorem takeFree_nodup (taken rest : List (CandidatePair Embedding))
    (htracks : (taken.map CandidatePair.trackId).Nodup)
    (hindexes : (taken.map (·.eligible.detectionIndex)).Nodup) :
    ((takeFree taken rest).map CandidatePair.trackId).Nodup ∧
      ((takeFree taken rest).map (·.eligible.detectionIndex)).Nodup := by
  induction rest generalizing taken with
  | nil => exact ⟨htracks, hindexes⟩
  | cons candidate rest ih =>
    rw [takeFree]
    split
    case isTrue hfree =>
      apply ih
      · rw [List.map_append, List.map_singleton, List.nodup_append']
        exact ⟨htracks, List.nodup_singleton _, List.disjoint_singleton.2 hfree.1⟩
      · rw [List.map_append, List.map_singleton, List.nodup_append']
        exact ⟨hindexes, List.nodup_singleton _, List.disjoint_singleton.2 hfree.2⟩
    case isFalse => exact ih taken htracks hindexes

variable {pair : CandidatePair Embedding}

theorem mem_takeFree {taken rest : List (CandidatePair Embedding)}
    (h : pair ∈ takeFree taken rest) : pair ∈ taken ∨ pair ∈ rest := by
  induction rest generalizing taken with
  | nil => exact .inl h
  | cons candidate rest ih =>
    rw [takeFree] at h
    split at h
    · obtain htaken | hrest := ih h
      · obtain htaken | hlast := List.mem_append.1 htaken
        · exact .inl htaken
        · exact .inr (List.mem_cons.2 (.inl (List.mem_singleton.1 hlast)))
      · exact .inr (List.mem_cons_of_mem _ hrest)
    · obtain htaken | hrest := ih h
      · exact .inl htaken
      · exact .inr (List.mem_cons_of_mem _ hrest)

theorem assignments_perm (perception : Perception Embedding) (s : ActorTracker Embedding)
    (frame : FrameActors Embedding) :
    (assignments perception s frame).Perm (takeFree [] (candidatePairs perception s frame)) :=
  List.perm_insertionSort _ _

/-- No track and no detection is assigned twice. -/
theorem assignments_nodup (perception : Perception Embedding) (s : ActorTracker Embedding)
    (frame : FrameActors Embedding) :
    ((assignments perception s frame).map CandidatePair.trackId).Nodup ∧
      ((assignments perception s frame).map (·.eligible.detectionIndex)).Nodup := by
  have hfree := takeFree_nodup [] (candidatePairs perception s frame) List.nodup_nil List.nodup_nil
  have hperm := assignments_perm perception s frame
  exact ⟨(hperm.map _).nodup_iff.2 hfree.1, (hperm.map _).nodup_iff.2 hfree.2⟩

/-- Every track is filed under its own id, and ids are counted up. -/
structure ActorTracker.Keyed (s : ActorTracker Embedding) : Prop where
  own : ∀ id track, s.tracks.lookup id = some track → track.trackId = id
  below : ∀ id ∈ s.tracks, id < s.nextTrackId
  bounded : s.nextTrackId ≤ u64Max

theorem mem_assignments (hkeyed : s.Keyed) (h : pair ∈ assignments perception s frame) :
    pair.trackId ∈ s.tracks ∧ pair.eligible ∈ eligibleDetections s.config frame := by
  have hmem := (assignments_perm perception s frame).mem_iff.1 h
  obtain hmem | hmem := mem_takeFree hmem
  · cases hmem
  rw [candidatePairs, List.mem_insertionSort, List.mem_flatMap] at hmem
  obtain ⟨track, htrack, hpair⟩ := hmem
  obtain ⟨eligible, heligible, hscore⟩ := List.mem_filterMap.1 hpair
  obtain ⟨score, -, rfl⟩ := Option.map_eq_some_iff.1 hscore
  obtain ⟨id, hid⟩ := Table.mem_ascending.1 htrack
  refine ⟨?_, heligible⟩
  rw [hkeyed.own id track hid]
  exact Table.mem_of_lookup hid

theorem eligible_index_nodup (config : TrackerConfig) (frame : FrameActors Embedding) :
    ((eligibleDetections config frame).map Eligible.detectionIndex).Nodup := by
  rw [eligibleDetections, List.map_map]
  have hindexes : (frame.detections.zipIdx.map Prod.snd).Nodup := by
    rw [List.zipIdx_map_snd]
    exact List.nodup_range'
  exact (hindexes.sublist (List.filter_sublist.map _))

/-! ## What a frame makes of a track -/

/-- A track with a detection in this frame. -/
def TrackState.refreshed (smoothing : ℚ) (frameIndex : Nat) (detection : ActorDetection Embedding)
    (track : TrackState Embedding) : TrackState Embedding :=
  { track.steered smoothing frameIndex detection.bounds with
    trackEpoch := if track.phase = .offscreen then track.trackEpoch + 1 else track.trackEpoch
    phase := .visible
    bounds := detection.bounds
    lastSeenFrame := frameIndex
    missedFrames := 0
    lastEmbedding := detection.embedding }

/-- A track without one. -/
def TrackState.missed (frameIndex : Nat) (track : TrackState Embedding) : TrackState Embedding :=
  { track with
    trackEpoch := if track.phase = .visible then track.trackEpoch + 1 else track.trackEpoch
    phase := .offscreen
    missedFrames := frameIndex - track.lastSeenFrame }

def matchEvent (id : TrackId) (track : TrackState Embedding) : TrackEvent :=
  if track.phase = .offscreen then .reacquired id (track.trackEpoch + 1)
  else .updated id track.trackEpoch

def missEvents (id : TrackId) (track : TrackState Embedding) : List TrackEvent :=
  if track.phase = .visible then [.lost id (track.trackEpoch + 1)] else []

/-- The track is beyond its grace period. -/
def overdue (s : ActorTracker Embedding) (frameIndex : Nat) (id : TrackId)
    (track : TrackState Embedding) : Bool :=
  (if s.selectedTrackId = some id then s.config.selectedActorMaximumMissedFrames
    else s.config.maximumMissedFrames) < frameIndex - track.lastSeenFrame

/-- The epoch of a matched track: a new one if it had been lost. -/
def TrackState.matchedEpoch (track : TrackState Embedding) : TrackEpoch :=
  if track.phase = .offscreen then track.trackEpoch + 1 else track.trackEpoch

/-- Where a round of the matching loop ends. -/
def Progress.matchWith (frameIndex : Nat) (pair : CandidatePair Embedding)
    (track : TrackState Embedding) (p : Progress Embedding) : Progress Embedding :=
  (((((p.write pair.trackId (TrackState.steered p.tracker.config.velocitySmoothing frameIndex
    pair.eligible.detection.bounds)).write pair.trackId fun seen =>
      { seen with trackEpoch := track.matchedEpoch, phase := .visible
                  bounds := pair.eligible.detection.bounds
                  lastSeenFrame := frameIndex, missedFrames := 0
                  lastEmbedding := pair.eligible.detection.embedding })).emit
    (matchEvent pair.trackId track)).observe
      ⟨pair.eligible.detectionIndex, pair.trackId, track.matchedEpoch,
        pair.eligible.detection.embedding⟩)

variable {frameIndex : Nat} {p : Progress Embedding} {track : TrackState Embedding}

theorem matchTrack_ok (hlookup : p.tracker.tracks.lookup pair.trackId = some track)
    (hroom : track.phase = .offscreen → track.trackEpoch < u64Max) :
    matchTrack frameIndex pair p = (.ok ⟨⟩, p.matchWith frameIndex pair track) := by
  unfold matchTrack
  rw [call_bind_get, hlookup]
  by_cases hphase : track.phase = .offscreen
  · have hepoch : nextEpoch track.trackEpoch = .ok (track.trackEpoch + 1) := if_pos (hroom hphase)
    simp only [Progress.matchWith, TrackState.matchedEpoch, matchEvent, hphase, if_true, hepoch]
    rfl
  · simp only [Progress.matchWith, TrackState.matchedEpoch, matchEvent, hphase, if_false]
    rfl

/-- Where a round of the loop over the unassigned tracks ends. -/
def Progress.missWith (frameIndex : Nat) (id : TrackId) (track : TrackState Embedding)
    (p : Progress Embedding) : Progress Embedding :=
  let counted := p.write id fun seen =>
    { seen with missedFrames := frameIndex - track.lastSeenFrame }
  let lost :=
    if track.phase = .visible then
      (((counted.write id fun seen => { seen with phase := .offscreen }).write id fun seen =>
        { seen with trackEpoch := track.trackEpoch + 1 }).emit (.lost id (track.trackEpoch + 1)))
    else counted
  if overdue p.tracker frameIndex id track then { lost with retire := lost.retire ++ [id] }
  else lost

variable {id : TrackId}

theorem missTrack_ok (hlookup : p.tracker.tracks.lookup id = some track)
    (hroom : track.phase = .visible → track.trackEpoch < u64Max) :
    missTrack frameIndex id p = (.ok ⟨⟩, p.missWith frameIndex id track) := by
  unfold missTrack
  rw [call_bind_get, hlookup]
  by_cases hphase : track.phase = .visible
  · have hepoch : nextEpoch track.trackEpoch = .ok (track.trackEpoch + 1) := if_pos (hroom hphase)
    simp only [Progress.missWith, overdue, hphase, if_true, hepoch, decide_eq_true_eq]
    by_cases hover : (if p.tracker.selectedTrackId = some id
        then p.tracker.config.selectedActorMaximumMissedFrames
        else p.tracker.config.maximumMissedFrames) < frameIndex - track.lastSeenFrame
    · simp only [hover, if_true]
      rfl
    · simp only [hover, if_false]
      rfl
  · simp only [Progress.missWith, overdue, hphase, if_false, decide_eq_true_eq]
    by_cases hover : (if p.tracker.selectedTrackId = some id
        then p.tracker.config.selectedActorMaximumMissedFrames
        else p.tracker.config.maximumMissedFrames) < frameIndex - track.lastSeenFrame
    · simp only [hover, if_true]
      rfl
    · simp only [hover, if_false]
      rfl

/-- Where a round of the loop over the newcomers ends. -/
def Progress.createWith (perception : Perception Embedding) (frameIndex : Nat)
    (eligible : Eligible Embedding) (p : Progress Embedding) : Progress Embedding :=
  ((({ p with tracker := { p.tracker with
      nextTrackId := p.tracker.nextTrackId + 1
      tracks := p.tracker.tracks.insert p.tracker.nextTrackId
        { trackId := p.tracker.nextTrackId, trackEpoch := 1, phase := .visible
          bounds := eligible.detection.bounds, velocityXPerFrame := 0, velocityYPerFrame := 0
          firstSeenFrame := frameIndex, lastSeenFrame := frameIndex, missedFrames := 0
          encounterId := perception.encounterId p.tracker.config.encounterNamespace
            p.tracker.nextTrackId frameIndex
          lastEmbedding := eligible.detection.embedding } } }).emit
    (.created p.tracker.nextTrackId 1)).observe
      ⟨eligible.detectionIndex, p.tracker.nextTrackId, 1, eligible.detection.embedding⟩)

variable {eligible : Eligible Embedding}

theorem createTrack_ok (hroom : p.tracker.nextTrackId < u64Max) :
    createTrack perception frameIndex eligible p =
      (.ok ⟨⟩, p.createWith perception frameIndex eligible) := by
  unfold createTrack
  rw [call_bind_get]
  simp only [hroom, if_true]
  rfl

/-! ## The loops -/

/-- What the matching makes of a track. -/
def matchedTrack (s : ActorTracker Embedding) (frame : FrameActors Embedding)
    (done : List (CandidatePair Embedding)) (id : TrackId) (track : TrackState Embedding) :
    TrackState Embedding :=
  match done.find? fun pair => pair.trackId = id with
  | some pair =>
    track.refreshed s.config.velocitySmoothing frame.frameIndex pair.eligible.detection
  | none => track

variable {done : List (CandidatePair Embedding)}

theorem matchedTrack_of_notMem (h : id ∉ done.map CandidatePair.trackId)
    (track : TrackState Embedding) : matchedTrack s frame done id track = track := by
  have hnone : (done.find? fun pair => pair.trackId = id) = none := by
    rw [List.find?_eq_none]
    intro pair hpair hid
    exact h (List.mem_map.2 ⟨pair, hpair, of_decide_eq_true hid⟩)
  rw [matchedTrack, hnone]

theorem matchedTrack_of_mem (s : ActorTracker Embedding) (frame : FrameActors Embedding)
    (h : id ∈ done.map CandidatePair.trackId) (track : TrackState Embedding) :
    ∃ pair ∈ done, pair.trackId = id ∧ matchedTrack s frame done id track =
      track.refreshed s.config.velocitySmoothing frame.frameIndex pair.eligible.detection := by
  obtain ⟨first, hfirst, hid⟩ := List.mem_map.1 h
  obtain ⟨pair, hpair⟩ := Option.isSome_iff_exists.1
    (List.find?_isSome (p := fun pair => decide (pair.trackId = id)).2
      ⟨first, hfirst, decide_eq_true hid⟩)
  have hid' : pair.trackId = id := by simpa using List.find?_some hpair
  refine ⟨pair, List.mem_of_find?_eq_some hpair, hid', ?_⟩
  rw [matchedTrack, hpair]

/-- The tracker while its tracks are matched and missed. -/
structure Matched (s : ActorTracker Embedding) (frame : FrameActors Embedding)
    (done : List (CandidatePair Embedding)) (p : Progress Embedding) : Prop where
  same : { p.tracker with tracks := s.tracks } = s
  tracks : ∀ id, p.tracker.tracks.lookup id =
    (s.tracks.lookup id).map (matchedTrack s frame done id)
  events : p.events = done.flatMap fun pair =>
    ((s.tracks.lookup pair.trackId).map (matchEvent pair.trackId)).toList
  tracksSeen : p.observations.map (·.trackId) = done.map (·.trackId)
  indexesSeen : p.observations.map (·.detectionIndex) = done.map (·.eligible.detectionIndex)
  retire : p.retire = []

theorem Matched.next (h : Matched s frame done p)
    (hfree : pair.trackId ∉ done.map CandidatePair.trackId)
    (htrack : s.tracks.lookup pair.trackId = some track) :
    Matched s frame (done ++ [pair]) (p.matchWith frame.frameIndex pair track) := by
  have hconfig : p.tracker.config = s.config := (ActorTracker.mk.inj h.same).1
  refine ⟨h.same, fun id => ?_, ?_, ?_, ?_, h.retire⟩
  · show ((Table.modify _ _ (Table.modify _ _ p.tracker.tracks)).lookup id) = _
    rw [Table.lookup_modify, Table.lookup_modify]
    by_cases hid : id = pair.trackId
    · subst hid
      have hfind : ((done ++ [pair]).find? fun other => other.trackId = pair.trackId) =
          some pair := by
        rw [List.find?_append, List.find?_eq_none.2, Option.none_or]
        · simp
        · intro other hother heq
          exact hfree (List.mem_map.2 ⟨other, hother, of_decide_eq_true heq⟩)
      rw [if_pos rfl, if_pos rfl, h.tracks, htrack]
      simp only [Option.map_some, matchedTrack_of_notMem hfree, hconfig]
      simp only [matchedTrack, hfind]
      rfl
    · have hfind : ((done ++ [pair]).find? fun other => other.trackId = id) =
          done.find? fun other => other.trackId = id := by
        rw [List.find?_append]
        simp [Ne.symm hid]
      rw [if_neg hid, if_neg hid, h.tracks]
      congr 1
      funext track
      simp only [matchedTrack, hfind]
  · show p.events ++ [matchEvent pair.trackId track] = _
    rw [h.events, List.flatMap_append, List.flatMap_singleton, htrack]
    rfl
  · show (p.observations ++ [_]).map _ = _
    rw [List.map_append, List.map_append, h.tracksSeen]
    rfl
  · show (p.observations ++ [_]).map _ = _
    rw [List.map_append, List.map_append, h.indexesSeen]
    rfl

/-- The tracker while its unassigned tracks are missed. -/
structure Missed (s : ActorTracker Embedding) (frame : FrameActors Embedding)
    (assigned : List (CandidatePair Embedding)) (done : List TrackId)
    (p : Progress Embedding) : Prop where
  same : { p.tracker with tracks := s.tracks } = s
  tracks : ∀ id, p.tracker.tracks.lookup id = (s.tracks.lookup id).map fun track =>
    if id ∈ done then track.missed frame.frameIndex else matchedTrack s frame assigned id track
  events : p.events = (assigned.flatMap fun pair =>
      ((s.tracks.lookup pair.trackId).map (matchEvent pair.trackId)).toList) ++
    done.flatMap fun id => ((s.tracks.lookup id).map (missEvents id)).getD []
  tracksSeen : p.observations.map (·.trackId) = assigned.map (·.trackId)
  indexesSeen : p.observations.map (·.detectionIndex) = assigned.map (·.eligible.detectionIndex)
  retire : p.retire = done.filter fun id => (s.tracks.lookup id).any (overdue s frame.frameIndex id)

variable {assigned : List (CandidatePair Embedding)}

theorem Matched.missed (h : Matched s frame assigned p) : Missed s frame assigned [] p := by
  refine ⟨h.same, ?_, ?_, h.tracksSeen, h.indexesSeen, h.retire⟩
  · simpa using h.tracks
  · simpa using h.events

theorem overdue_congr {s s' : ActorTracker Embedding} (hconfig : s'.config = s.config)
    (hselected : s'.selectedTrackId = s.selectedTrackId) (frameIndex : Nat) (id : TrackId)
    (track : TrackState Embedding) :
    overdue s' frameIndex id track = overdue s frameIndex id track := by
  rw [overdue, overdue, hconfig, hselected]

theorem Missed.next {done : List TrackId} (h : Missed s frame assigned done p) (hfree : id ∉ done)
    (hunassigned : id ∉ assigned.map CandidatePair.trackId)
    (htrack : s.tracks.lookup id = some track) :
    Missed s frame assigned (done ++ [id]) (p.missWith frame.frameIndex id track) := by
  have hover := overdue_congr (ActorTracker.mk.inj h.same).1 (ActorTracker.mk.inj h.same).2.2.2.1
    frame.frameIndex id track
  have hwritten : (p.missWith frame.frameIndex id track).tracker.tracks =
      if track.phase = .visible then
        ((p.tracker.tracks.modify id fun seen =>
          { seen with missedFrames := frame.frameIndex - track.lastSeenFrame }).modify id
            fun seen => { seen with phase := .offscreen }).modify id fun seen =>
              { seen with trackEpoch := track.trackEpoch + 1 }
      else p.tracker.tracks.modify id fun seen =>
        { seen with missedFrames := frame.frameIndex - track.lastSeenFrame } := by
    unfold Progress.missWith
    split <;> split <;> rfl
  have hevents : (p.missWith frame.frameIndex id track).events =
      p.events ++ missEvents id track := by
    unfold Progress.missWith missEvents
    split <;> split <;> simp [Progress.emit, Progress.write]
  have hretire : (p.missWith frame.frameIndex id track).retire =
      if overdue p.tracker frame.frameIndex id track then p.retire ++ [id] else p.retire := by
    unfold Progress.missWith
    split <;> split <;> rfl
  have hobservations : (p.missWith frame.frameIndex id track).observations = p.observations := by
    unfold Progress.missWith
    split <;> split <;> rfl
  refine ⟨?_, fun other => ?_, ?_, ?_, ?_, ?_⟩
  · rw [← h.same]
    unfold Progress.missWith
    split <;> split <;> rfl
  · rw [hwritten]
    by_cases hother : other = id
    · subst hother
      have hlookup : p.tracker.tracks.lookup other = some track := by
        rw [h.tracks, htrack, Option.map_some, if_neg hfree, matchedTrack_of_notMem hunassigned]
      by_cases hphase : track.phase = .visible
      · simp only [if_pos hphase, Table.lookup_modify, if_true, hlookup, htrack, Option.map_some,
          List.mem_append, List.mem_singleton, or_true, TrackState.missed]
      · have hoff : track.phase = .offscreen := by
          cases hcase : track.phase
          · exact absurd hcase hphase
          · rfl
        rw [if_neg hphase, Table.lookup_modify, if_pos rfl, hlookup, htrack]
        simp [TrackState.missed, hoff]
    · have hmem : other ∈ done ++ [id] ↔ other ∈ done := by simp [hother]
      split <;> simp only [Table.lookup_modify, if_neg hother, h.tracks, hmem]
  · rw [hevents, h.events, List.flatMap_append, List.flatMap_singleton, htrack, List.append_assoc]
    rfl
  · rw [hobservations, h.tracksSeen]
  · rw [hobservations, h.indexesSeen]
  · rw [hretire, hover, h.retire, List.filter_append, List.filter_singleton, htrack]
    by_cases hdue : overdue s frame.frameIndex id track = true
    · simp [hdue]
    · simp [hdue]

/-- What a frame makes of the tracks before it. -/
def frameTrack (s : ActorTracker Embedding) (frame : FrameActors Embedding)
    (assigned : List (CandidatePair Embedding)) (id : TrackId) (track : TrackState Embedding) :
    TrackState Embedding :=
  if id ∈ assigned.map CandidatePair.trackId then matchedTrack s frame assigned id track
  else track.missed frame.frameIndex

/-- The events of a frame about the tracks before it, as long as they live. -/
def frameEvents (s : ActorTracker Embedding) (assigned : List (CandidatePair Embedding))
    (missed : List TrackId) : List TrackEvent :=
  (assigned.flatMap fun pair =>
    ((s.tracks.lookup pair.trackId).map (matchEvent pair.trackId)).toList) ++
  missed.flatMap fun id => ((s.tracks.lookup id).map (missEvents id)).getD []

/-- The tracker while newcomers start their tracks. -/
structure Joined (s : ActorTracker Embedding) (frame : FrameActors Embedding)
    (assigned : List (CandidatePair Embedding)) (missed : List TrackId)
    (done : List (Eligible Embedding)) (p : Progress Embedding) : Prop where
  same : { p.tracker with tracks := s.tracks, nextTrackId := s.nextTrackId } = s
  nextTrackId : p.tracker.nextTrackId = s.nextTrackId + done.length
  before : ∀ id < s.nextTrackId, p.tracker.tracks.lookup id =
    (s.tracks.lookup id).map (frameTrack s frame assigned id)
  fresh : ∀ id, s.nextTrackId ≤ id →
    (id ∈ p.tracker.tracks ↔ id < p.tracker.nextTrackId) ∧
      ∀ track, p.tracker.tracks.lookup id = some track →
        track.trackId = id ∧ track.phase = .visible ∧ track.trackEpoch = 1 ∧
          track.lastSeenFrame = frame.frameIndex
  events : p.events = frameEvents s assigned missed ++
    (List.range' s.nextTrackId done.length).map fun id => .created id 1
  tracksSeen : p.observations.map (·.trackId) =
    assigned.map (·.trackId) ++ List.range' s.nextTrackId done.length
  indexesSeen : p.observations.map (·.detectionIndex) =
    assigned.map (·.eligible.detectionIndex) ++ done.map (·.detectionIndex)
  retire : p.retire =
    missed.filter fun id => (s.tracks.lookup id).any (overdue s frame.frameIndex id)

variable {missed : List TrackId}

theorem Missed.joined (hkeyed : s.Keyed) (h : Missed s frame assigned missed p)
    (hmissed : ∀ id ∈ s.tracks, id ∈ missed ↔ id ∉ assigned.map CandidatePair.trackId) :
    Joined s frame assigned missed [] p := by
  have hnext : p.tracker.nextTrackId = s.nextTrackId := (ActorTracker.mk.inj h.same).2.1
  refine ⟨?_, by simpa using hnext, fun id _ => ?_, fun id hid => ⟨?_, ?_⟩, ?_, ?_, ?_, h.retire⟩
  · rw [← hnext]
    exact h.same
  · rw [h.tracks]
    refine Option.map_congr fun track htrack => ?_
    have hmem := hmissed id (Table.mem_of_lookup htrack)
    by_cases hid : id ∈ assigned.map CandidatePair.trackId
    · rw [if_neg fun hin => hmem.1 hin hid, frameTrack, if_pos hid]
    · rw [if_pos (hmem.2 hid), frameTrack, if_neg hid]
  · rw [hnext]
    have hnone : id ∉ s.tracks := fun hin => absurd (hkeyed.below id hin) (not_lt.2 hid)
    have habsent : id ∉ p.tracker.tracks := by
      rw [← AList.lookup_eq_none, h.tracks, AList.lookup_eq_none.2 hnone]
      rfl
    exact iff_of_false habsent (not_lt.2 hid)
  · intro track htrack
    rw [h.tracks] at htrack
    obtain ⟨old, hold, -⟩ := Option.map_eq_some_iff.1 htrack
    exact absurd (hkeyed.below id (Table.mem_of_lookup hold)) (not_lt.2 hid)
  · simpa [frameEvents] using h.events
  · simpa using h.tracksSeen
  · simpa using h.indexesSeen

theorem Joined.next {done : List (Eligible Embedding)} (h : Joined s frame assigned missed done p) :
    Joined s frame assigned missed (done ++ [eligible])
      (p.createWith perception frame.frameIndex eligible) := by
  have hlookup : ∀ id,
      (p.createWith perception frame.frameIndex eligible).tracker.tracks.lookup id = if id = p.tracker.nextTrackId then some _ else p.tracker.tracks.lookup id :=
    fun id => Table.lookup_insert_eq p.tracker.nextTrackId id _ p.tracker.tracks
  have hnext : (p.createWith perception frame.frameIndex eligible).tracker.nextTrackId =
      p.tracker.nextTrackId + 1 := rfl
  have hrange : List.range' s.nextTrackId (done ++ [eligible]).length =
      List.range' s.nextTrackId done.length ++ [p.tracker.nextTrackId] := by
    rw [List.length_append, List.length_singleton, List.range'_concat, h.nextTrackId, one_mul]
  refine ⟨h.same, ?_, fun id hid => ?_, fun id hid => ?_, ?_, ?_, ?_, h.retire⟩
  · rw [hnext, h.nextTrackId, List.length_append, List.length_singleton, Nat.add_assoc]
  · have hne : id ≠ p.tracker.nextTrackId := by
      rw [h.nextTrackId]
      omega
    rw [hlookup, if_neg hne, h.before id hid]
  · obtain ⟨hmem, htrack⟩ := h.fresh id hid
    rw [← AList.lookup_isSome, hlookup, hnext]
    by_cases heq : id = p.tracker.nextTrackId
    · subst heq
      simp
    · rw [if_neg heq, AList.lookup_isSome, hmem]
      exact ⟨by omega, htrack⟩
  · show p.events ++ [TrackEvent.created p.tracker.nextTrackId 1] = _
    rw [h.events, hrange, List.map_append, List.append_assoc]
    rfl
  · show (p.observations ++ [_]).map _ = _
    rw [List.map_append, h.tracksSeen, hrange, List.append_assoc]
    rfl
  · show (p.observations ++ [_]).map _ = _
    rw [List.map_append, h.indexesSeen, List.map_append, List.append_assoc]
    rfl

/-- The events of a retirement. -/
def retireEvents (s : ActorTracker Embedding) (id : TrackId) : List TrackEvent :=
  match s.tracks.lookup id with
  | none => []
  | some track => .retired id track.trackEpoch track.encounterId ::
      if s.selectedTrackId = some id then [.selectionCleared id] else []

/-- The tracker while overdue tracks are retired. -/
structure Retiring (p : Progress Embedding) (done : List TrackId) (p' : Progress Embedding) :
    Prop where
  same : { p'.tracker with tracks := p.tracker.tracks
                           selectedTrackId := p.tracker.selectedTrackId } = p.tracker
  tracks : ∀ id, p'.tracker.tracks.lookup id =
    if id ∈ done then none else p.tracker.tracks.lookup id
  selected : ∀ id, p'.tracker.selectedTrackId = some id ↔
    p.tracker.selectedTrackId = some id ∧ id ∉ done
  events : p'.events = p.events ++ done.flatMap (retireEvents p.tracker)
  observations : p'.observations = p.observations

theorem Retiring.next {p' : Progress Embedding} {done : List TrackId} (h : Retiring p done p')
    (hfree : id ∉ done) (hlive : id ∈ p.tracker.tracks) :
    Retiring p (done ++ [id]) (retireTrack id p') := by
  obtain ⟨track, htrack⟩ := Option.isSome_iff_exists.1 (AList.lookup_isSome.2 hlive)
  have hlookup : p'.tracker.tracks.lookup id = some track := by rw [h.tracks, if_neg hfree, htrack]
  have hselected : p'.tracker.selectedTrackId = some id ↔ p.tracker.selectedTrackId = some id := by
    rw [h.selected]
    exact and_iff_left hfree
  have htracks : (retireTrack id p').tracker.tracks = p'.tracker.tracks.erase id := by
    simp only [retireTrack, hlookup]
    split <;> rfl
  have hevents : (retireTrack id p').events = p'.events ++ retireEvents p.tracker id := by
    simp only [retireTrack, hlookup, retireEvents, htrack, hselected]
    split <;> simp [Progress.emit]
  refine ⟨?_, fun other => ?_, fun other => ?_, ?_, ?_⟩
  · rw [← h.same]
    simp only [retireTrack, hlookup]
    split <;> rfl
  · rw [htracks, Table.lookup_erase_eq]
    by_cases hother : other = id
    · simp [hother]
    · simp [hother, h.tracks]
  · have hmem : other ∉ done ++ [id] ↔ other ∉ done ∧ other ≠ id := by simp [not_or]
    rw [hmem, ← and_assoc, ← h.selected]
    simp only [retireTrack, hlookup]
    split
    case isTrue hclears =>
      refine iff_of_false (fun hnone => by cases hnone) fun hother => hother.2 ?_
      exact Option.some.inj (hother.1.symm.trans hclears)
    case isFalse hkeeps =>
      exact ⟨fun hother => ⟨hother, fun heq => hkeeps (heq ▸ hother)⟩, And.left⟩
  · rw [hevents, h.events, List.flatMap_append, List.flatMap_singleton, List.append_assoc]
  · rw [← h.observations]
    simp only [retireTrack, hlookup]
    split <;> rfl

theorem retire_spec {ids : List TrackId} (hnodup : ids.Nodup)
    (hlive : ∀ id ∈ ids, id ∈ p.tracker.tracks) :
    Retiring p ids (ids.foldl (fun p id => retireTrack id p) p) := by
  induction ids using List.reverseRecOn with
  | nil => exact ⟨rfl, by simp, by simp, by simp, rfl⟩
  | append_singleton done id ih =>
    rw [List.nodup_append'] at hnodup
    rw [List.foldl_append]
    exact (ih hnodup.1 fun other hother => hlive other (List.mem_append_left _ hother)).next
      (List.disjoint_singleton.1 hnodup.2.2) (hlive id (by simp))

/-! ## The update -/

/-- No epoch that the frame counts up is the last one. -/
def EpochsFit (perception : Perception Embedding) (s : ActorTracker Embedding)
    (frame : FrameActors Embedding) : Prop :=
  ∀ id track, s.tracks.lookup id = some track →
    (track.phase = .visible ↔ id ∉ (assignments perception s frame).map CandidatePair.trackId) →
    track.trackEpoch < u64Max

/-- The frame can count up the epochs it counts up, and the ids do not run out. -/
structure HasRoom (perception : Perception Embedding) (s : ActorTracker Embedding)
    (frame : FrameActors Embedding) : Prop where
  epochs : EpochsFit perception s frame
  ids : s.nextTrackId + (newcomers s.config frame (assignments perception s frame)).length ≤ u64Max

/-- Where an update that succeeds ends, told by its stages. -/
structure Updated (perception : Perception Embedding) (s : ActorTracker Embedding)
    (frame : FrameActors Embedding) (missed : List TrackId) (joined retiring : Progress Embedding)
    (u : TrackerUpdate Embedding) (s' : ActorTracker Embedding) : Prop where
  nodup : missed.Nodup
  unassigned : ∀ id, id ∈ missed ↔
    id ∈ s.tracks ∧ id ∉ (assignments perception s frame).map CandidatePair.trackId
  joins : Joined s frame (assignments perception s frame) missed
    (newcomers s.config frame (assignments perception s frame)) joined
  retires : Retiring joined joined.retire retiring
  tracker : s' = { retiring.tracker with lastFrameIndex := some frame.frameIndex
                                         lastTimestampMs := some frame.timestampMs }
  observations : u.observations.Perm retiring.observations
  events : u.events = retiring.events
  selected : u.selectedTrackId = retiring.tracker.selectedTrackId

theorem phase_eq_offscreen : track.phase = .offscreen ↔ track.phase ≠ .visible := by
  cases track.phase <;> simp

/-- The matching loop, where the epochs fit. -/
theorem matching_ok (hkeyed : s.Keyed) (hepochs : EpochsFit perception s frame) :
    ∃ p, (assignments perception s frame).forM (matchTrack frame.frameIndex) ⟨s, [], [], []⟩ =
      (.ok ⟨⟩, p) ∧ Matched s frame (assignments perception s frame) p := by
  have hstart : Matched s frame [] ⟨s, [], [], []⟩ := by
    refine ⟨rfl, fun id => ?_, rfl, rfl, rfl, rfl⟩
    cases s.tracks.lookup id <;> rfl
  refine forM_ok (Matched s frame) ?_ hstart
  intro done pair rest p hlist hdone
  have hnodup := (assignments_nodup perception s frame).1
  rw [hlist, List.map_append, List.map_cons] at hnodup
  have hfree : pair.trackId ∉ done.map CandidatePair.trackId := by
    intro hmem
    exact List.disjoint_left.1 (List.nodup_append'.1 hnodup).2.2 hmem List.mem_cons_self
  have hpair : pair ∈ assignments perception s frame := by simp [hlist]
  obtain ⟨track, htrack⟩ := Option.isSome_iff_exists.1
    (AList.lookup_isSome.2 (mem_assignments hkeyed hpair).1)
  have hlookup : p.tracker.tracks.lookup pair.trackId = some track := by
    rw [hdone.tracks, htrack, Option.map_some, matchedTrack_of_notMem hfree]
  refine ⟨_, matchTrack_ok hlookup fun hoff => ?_, hdone.next hfree htrack⟩
  exact hepochs _ _ htrack (iff_of_false (phase_eq_offscreen.1 hoff)
    (not_not.2 (List.mem_map_of_mem hpair)))

theorem mem_unassignedTracks : id ∈ unassignedTracks p.tracker assigned ↔
      id ∈ p.tracker.tracks ∧ id ∉ assigned.map CandidatePair.trackId := by
  simp only [unassignedTracks, List.mem_filter, List.mem_insertionSort, decide_eq_true_eq]
  exact Iff.rfl

theorem unassignedTracks_nodup (p : Progress Embedding)
    (assigned : List (CandidatePair Embedding)) : (unassignedTracks p.tracker assigned).Nodup :=
  ((List.perm_insertionSort _ _).nodup_iff.2 p.tracker.tracks.keys_nodup).filter _

/-- The loop over the unassigned tracks, where the epochs fit. -/
theorem missing_ok (hepochs : EpochsFit perception s frame)
    (h : Matched s frame (assignments perception s frame) p) :
    ∃ p', (unassignedTracks p.tracker (assignments perception s frame)).forM
        (missTrack frame.frameIndex) p = (.ok ⟨⟩, p') ∧
      Missed s frame (assignments perception s frame)
        (unassignedTracks p.tracker (assignments perception s frame)) p' := by
  refine forM_ok (Missed s frame (assignments perception s frame)) ?_ h.missed
  intro done id rest q hlist hdone
  have hnodup := unassignedTracks_nodup p (assignments perception s frame)
  rw [hlist] at hnodup
  have hfree : id ∉ done := fun hmem =>
    List.disjoint_left.1 (List.nodup_append'.1 hnodup).2.2 hmem List.mem_cons_self
  have hmem : id ∈ unassignedTracks p.tracker (assignments perception s frame) := by simp [hlist]
  obtain ⟨hlive, hunassigned⟩ := mem_unassignedTracks.1 hmem
  obtain ⟨seen, hseen⟩ := Option.isSome_iff_exists.1 (AList.lookup_isSome.2 hlive)
  rw [h.tracks] at hseen
  obtain ⟨track, htrack, -⟩ := Option.map_eq_some_iff.1 hseen
  have hlookup : q.tracker.tracks.lookup id = some track := by
    rw [hdone.tracks, htrack, Option.map_some, if_neg hfree, matchedTrack_of_notMem hunassigned]
  exact ⟨_, missTrack_ok hlookup fun hvisible =>
    hepochs _ _ htrack (iff_of_true hvisible hunassigned),
    hdone.next hfree hunassigned htrack⟩

/-- The loop over the newcomers, on a tracker with room. -/
theorem joining_ok (hroom : HasRoom perception s frame)
    (h : Joined s frame (assignments perception s frame) missed [] p) :
    ∃ p', (newcomers s.config frame (assignments perception s frame)).forM
        (createTrack perception frame.frameIndex) p = (.ok ⟨⟩, p') ∧
      Joined s frame (assignments perception s frame) missed
        (newcomers s.config frame (assignments perception s frame)) p' := by
  refine forM_ok (Joined s frame (assignments perception s frame) missed) ?_ h
  intro done eligible rest q hlist hdone
  have hlength := congrArg List.length hlist
  rw [List.length_append, List.length_cons] at hlength
  have hids := hroom.ids
  refine ⟨_, createTrack_ok ?_, hdone.next⟩
  rw [hdone.nextTrackId]
  omega

/-- What an update returns and leaves, after its loops. -/
def finish (frame : FrameActors Embedding) (p : Progress Embedding) :
    TrackerUpdate Embedding × ActorTracker Embedding :=
  let tracker := { p.tracker with lastFrameIndex := some frame.frameIndex
                                  lastTimestampMs := some frame.timestampMs }
  ({ frameIndex := frame.frameIndex, tracks := tracker.snapshot
     observations := p.observations.insertionSort fun left right =>
       left.detectionIndex ≤ right.detectionIndex
     events := p.events, selectedTrackId := p.tracker.selectedTrackId }, tracker)

/-- **A valid frame with room is processed.** -/
theorem update_ok (hkeyed : s.Keyed) (hvalid : validateFrame perception s frame = .ok ())
    (hroom : HasRoom perception s frame) : ∃ missed joined retiring u s',
      s.update perception frame = (.ok u, s') ∧
        Updated perception s frame missed joined retiring u s' := by
  obtain ⟨p, hmatching, hmatched⟩ := matching_ok hkeyed hroom.epochs
  obtain ⟨q, hmissing, hmissed⟩ := missing_ok hroom.epochs hmatched
  have hkeys : ∀ id, id ∈ p.tracker.tracks ↔ id ∈ s.tracks := by
    intro id
    rw [← AList.lookup_isSome, hmatched.tracks, Option.isSome_map, AList.lookup_isSome]
  have hmem : ∀ id, id ∈ unassignedTracks p.tracker (assignments perception s frame) ↔
      id ∈ s.tracks ∧ id ∉ (assignments perception s frame).map CandidatePair.trackId := by
    intro id
    rw [mem_unassignedTracks, hkeys]
  obtain ⟨r, hjoining, hjoined⟩ := joining_ok hroom
    (hmissed.joined hkeyed fun id hid => by rw [hmem id, and_iff_right hid])
  have hretire : ∀ id ∈ r.retire, id ∈ r.tracker.tracks := by
    intro id hid
    rw [hjoined.retire, List.mem_filter, hmem] at hid
    rw [← AList.lookup_isSome, hjoined.before id (hkeyed.below id hid.1.1), Option.isSome_map,
      AList.lookup_isSome]
    exact hid.1.1
  have hnodup : r.retire.Nodup := by
    rw [hjoined.retire]
    exact (unassignedTracks_nodup p _).filter _
  have hrun : s.update perception frame =
      (.ok (finish frame (r.retire.foldl (fun p id => retireTrack id p) r)).1,
        (finish frame (r.retire.foldl (fun p id => retireTrack id p) r)).2) := by
    simp only [ActorTracker.update]
    unfold update
    rw [call_bind_get, call_bind_liftExcept hvalid, call_bind_of_ok hmatching, call_bind_get,
      call_bind_of_ok hmissing, call_bind_of_ok hjoining, call_bind_modify, call_bind_modify,
      call_bind_get]
    rfl
  exact ⟨_, r, _, _, _, hrun, unassignedTracks_nodup p _, hmem, hjoined,
    retire_spec hnodup hretire, rfl, List.perm_insertionSort _ _, rfl, rfl⟩

end NpcRuntime.Identity
