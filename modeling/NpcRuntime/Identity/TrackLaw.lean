import NpcRuntime.Identity.FrameSpec
import NpcRuntime.Lib.Machine

/-!
# The law of actor tracks

What a processed frame shows (`FrameLaw`), and what a run of updates, selections and clears has
reached (`TrackLaw`): detections and tracks are matched one to one, ids are never used twice, epochs
grow, a track is visible exactly if the last processed frame observed it, and every track that
leaves is announced once.

**The laws hold as long as the counters do not run out.** An update that runs out of ids or epochs
fails in the middle of its loops and keeps what they have written. A frame needs an id for each new
detection and counts an epoch up at most once, so no run with fewer detections and frames than the
counters can count gets there (`CountersLast`).
-/

namespace NpcRuntime.Identity

variable {Embedding : Type} {perception : Perception Embedding} {s s' : ActorTracker Embedding}
  {frame : FrameActors Embedding} {u : TrackerUpdate Embedding}

/-! ## What a processed frame shows -/

def TrackEvent.createdId : TrackEvent → Option TrackId
  | .created id _ => some id
  | _ => none

def TrackEvent.retiredId : TrackEvent → Option TrackId
  | .retired id _ _ => some id
  | _ => none

/-- A processed frame: the tracker before it, what it returned and the tracker after it. -/
structure FrameLaw (s : ActorTracker Embedding) (frame : FrameActors Embedding)
    (u : TrackerUpdate Embedding) (s' : ActorTracker Embedding) : Prop where
  /-- Each eligible detection has exactly one track. -/
  detections : (u.observations.map (·.detectionIndex)).Perm
    ((eligibleDetections s.config frame).map (·.detectionIndex))
  /-- No track has two detections, and every track that has one lives. -/
  exclusive : (u.observations.map (·.trackId)).Nodup ∧
    ∀ observation ∈ u.observations, observation.trackId ∈ s'.tracks
  epochs : ∀ id track track', s.tracks.lookup id = some track → s'.tracks.lookup id = some track' →
    track.trackEpoch ≤ track'.trackEpoch
  /-- A lost or reacquired track has a greater epoch. -/
  advances : ∀ id epoch, .lost id epoch ∈ u.events ∨ .reacquired id epoch ∈ u.events →
    ∃ track, s.tracks.lookup id = some track ∧ track.trackEpoch < epoch ∧
      ∀ track', s'.tracks.lookup id = some track' → track'.trackEpoch = epoch
  visible : ∀ id track', s'.tracks.lookup id = some track' →
    (track'.phase = .visible ↔ id ∈ u.observations.map (·.trackId))
  retired : (u.events.filterMap TrackEvent.retiredId).Nodup ∧
    ∀ id, id ∈ u.events.filterMap TrackEvent.retiredId ↔ id ∈ s.tracks ∧ id ∉ s'.tracks
  /-- The selection is kept, or its end is announced. -/
  selected : ∀ id, s.selectedTrackId = some id → id ∈ s.tracks →
    s'.selectedTrackId = some id ∧ id ∈ s'.tracks ∨
      s'.selectedTrackId = none ∧ .selectionCleared id ∈ u.events
  unselected : s.selectedTrackId = none → s'.selectedTrackId = none
  reported : u.selectedTrackId = s'.selectedTrackId
  /-- New ids are the next ones. -/
  created : ∃ k, u.events.filterMap TrackEvent.createdId = List.range' s.nextTrackId k ∧
    s'.nextTrackId = s.nextTrackId + k ∧
    ∀ id, id ∈ s'.tracks ∧ id ∉ s.tracks ↔ id ∈ List.range' s.nextTrackId k

theorem mem_frameEvents {assigned : List (CandidatePair Embedding)} {missed : List TrackId}
    {event : TrackEvent} (h : event ∈ frameEvents s assigned missed) :
    (∃ pair ∈ assigned, ∃ track, s.tracks.lookup pair.trackId = some track ∧
      event = matchEvent pair.trackId track) ∨
    ∃ id ∈ missed, ∃ track, s.tracks.lookup id = some track ∧ track.phase = .visible ∧
      event = .lost id (track.trackEpoch + 1) := by
  obtain hmatch | hmiss := List.mem_append.1 h
  · obtain ⟨pair, hpair, hevent⟩ := List.mem_flatMap.1 hmatch
    obtain ⟨track, htrack, rfl⟩ := Option.map_eq_some_iff.1 (Option.mem_toList.1 hevent)
    exact .inl ⟨pair, hpair, track, htrack, rfl⟩
  · obtain ⟨id, hid, hevent⟩ := List.mem_flatMap.1 hmiss
    cases htrack : s.tracks.lookup id with
    | none => simp [htrack] at hevent
    | some track =>
      rw [htrack, Option.map_some, Option.getD_some, missEvents] at hevent
      split at hevent
      case isTrue hvisible =>
        exact .inr ⟨id, hid, track, htrack, hvisible, List.mem_singleton.1 hevent⟩
      case isFalse => cases hevent

theorem frameEvents_quiet (assigned : List (CandidatePair Embedding)) (missed : List TrackId) :
    (frameEvents s assigned missed).filterMap TrackEvent.createdId = [] ∧
      (frameEvents s assigned missed).filterMap TrackEvent.retiredId = [] := by
  have hquiet : ∀ event ∈ frameEvents s assigned missed,
      event.createdId = none ∧ event.retiredId = none := by
    intro event hevent
    obtain ⟨pair, _, track, _, rfl⟩ | ⟨id, _, track, _, _, rfl⟩ := mem_frameEvents hevent
    · unfold matchEvent
      split <;> exact ⟨rfl, rfl⟩
    · exact ⟨rfl, rfl⟩
  exact ⟨List.filterMap_eq_nil_iff.2 fun event hevent => (hquiet event hevent).1,
    List.filterMap_eq_nil_iff.2 fun event hevent => (hquiet event hevent).2⟩

theorem retireEvents_ids {ids : List TrackId} (hlive : ∀ id ∈ ids, id ∈ s.tracks) :
    (ids.flatMap (retireEvents s)).filterMap TrackEvent.createdId = [] ∧
      (ids.flatMap (retireEvents s)).filterMap TrackEvent.retiredId = ids := by
  induction ids with
  | nil => exact ⟨rfl, rfl⟩
  | cons id ids ih =>
    obtain ⟨hcreated, hretired⟩ :=
      ih fun other hother => hlive other (List.mem_cons_of_mem _ hother)
    obtain ⟨track, htrack⟩ := Option.isSome_iff_exists.1
      (AList.lookup_isSome.2 (hlive id List.mem_cons_self))
    rw [List.flatMap_cons, List.filterMap_append, List.filterMap_append, hcreated, hretired]
    simp only [retireEvents, htrack]
    by_cases hselected : s.selectedTrackId = some id
    · simp [hselected, TrackEvent.createdId, TrackEvent.retiredId]
    · simp [hselected, TrackEvent.createdId, TrackEvent.retiredId]

theorem createdEvents_ids (ids : List TrackId) :
    (ids.map fun id => TrackEvent.created id 1).filterMap TrackEvent.createdId = ids ∧
      (ids.map fun id => TrackEvent.created id 1).filterMap TrackEvent.retiredId = [] := by
  induction ids with
  | nil => exact ⟨rfl, rfl⟩
  | cons id ids ih => exact ⟨congrArg (id :: ·) ih.1, ih.2⟩

variable {id : TrackId}

section Updated

variable {missed : List TrackId} {joined retiring : Progress Embedding}

section

variable (h : Updated perception s frame missed joined retiring u s')

include h

theorem Updated.retired_mem (hid : id ∈ joined.retire) :
    id ∈ s.tracks ∧ id ∉ (assignments perception s frame).map CandidatePair.trackId := by
  rw [h.joins.retire, List.mem_filter] at hid
  exact (h.unassigned id).1 hid.1

theorem Updated.lookup (id : TrackId) :
    s'.tracks.lookup id =
      if id ∈ joined.retire then none else joined.tracker.tracks.lookup id := by
  rw [h.tracker]
  exact h.retires.tracks id

theorem Updated.lookup_before (hkeyed : s.Keyed) {track : TrackState Embedding}
    (htrack : s.tracks.lookup id = some track) :
    s'.tracks.lookup id = if id ∈ joined.retire then none
      else some (frameTrack s frame (assignments perception s frame) id track) := by
  rw [h.lookup, h.joins.before id (hkeyed.below id (Table.mem_of_lookup htrack)), htrack]
  rfl

/-- Tracks leave by retiring. -/
theorem Updated.leaves (hkeyed : s.Keyed) :
    id ∈ joined.retire ↔ id ∈ s.tracks ∧ id ∉ s'.tracks := by
  constructor
  · intro hid
    refine ⟨(h.retired_mem hid).1, ?_⟩
    rw [← AList.lookup_eq_none, h.lookup, if_pos hid]
  · intro hid
    obtain ⟨hlive, hgone⟩ := hid
    obtain ⟨track, htrack⟩ := Option.isSome_iff_exists.1 (AList.lookup_isSome.2 hlive)
    by_contra hkept
    rw [← AList.lookup_eq_none, h.lookup_before hkeyed htrack, if_neg hkept] at hgone
    cases hgone

end

variable {track' : TrackState Embedding}

section

variable (h : Updated perception s frame missed joined retiring u s')

include h

/-- A live track is one from before that was not retired, or a new one. -/
theorem Updated.live (htrack : s'.tracks.lookup id = some track') :
    (∃ track, s.tracks.lookup id = some track ∧ id ∉ joined.retire ∧
      track' = frameTrack s frame (assignments perception s frame) id track) ∨
    (id ∈ List.range' s.nextTrackId
        (newcomers s.config frame (assignments perception s frame)).length ∧
      track'.trackId = id ∧ track'.phase = .visible ∧ track'.trackEpoch = 1 ∧
        track'.lastSeenFrame = frame.frameIndex) := by
  rw [h.lookup] at htrack
  by_cases hretire : id ∈ joined.retire
  · rw [if_pos hretire] at htrack
    cases htrack
  rw [if_neg hretire] at htrack
  by_cases hid : id < s.nextTrackId
  · rw [h.joins.before id hid] at htrack
    obtain ⟨track, hs, rfl⟩ := Option.map_eq_some_iff.1 htrack
    exact .inl ⟨track, hs, hretire, rfl⟩
  · obtain ⟨hmem, hfresh⟩ := h.joins.fresh id (not_lt.1 hid)
    have hbelow := hmem.1 (Table.mem_of_lookup htrack)
    rw [h.joins.nextTrackId] at hbelow
    exact .inr ⟨by rw [List.mem_range'_1]; exact ⟨not_lt.1 hid, hbelow⟩, hfresh track' htrack⟩

theorem Updated.tracksSeen :
    (u.observations.map (·.trackId)).Perm
      ((assignments perception s frame).map (·.trackId) ++ List.range' s.nextTrackId
        (newcomers s.config frame (assignments perception s frame)).length) := by
  rw [← h.joins.tracksSeen, ← h.retires.observations]
  exact h.observations.map _

theorem Updated.events_eq :
    u.events = frameEvents s (assignments perception s frame) missed ++
      (List.range' s.nextTrackId
        (newcomers s.config frame (assignments perception s frame)).length).map
          (fun id => .created id 1) ++ joined.retire.flatMap (retireEvents joined.tracker) := by
  rw [h.events, h.retires.events, h.joins.events]

theorem Updated.retire_live (hkeyed : s.Keyed) :
    ∀ id ∈ joined.retire, id ∈ joined.tracker.tracks := by
  intro id hid
  have hlive := (h.retired_mem hid).1
  rw [← AList.lookup_isSome, h.joins.before id (hkeyed.below id hlive), Option.isSome_map,
    AList.lookup_isSome]
  exact hlive

theorem Updated.ids (hkeyed : s.Keyed) :
    u.events.filterMap TrackEvent.createdId = List.range' s.nextTrackId
        (newcomers s.config frame (assignments perception s frame)).length ∧
      u.events.filterMap TrackEvent.retiredId = joined.retire := by
  have hquiet := frameEvents_quiet (s := s) (assignments perception s frame) missed
  have hcreated := createdEvents_ids (List.range' s.nextTrackId
    (newcomers s.config frame (assignments perception s frame)).length)
  have hretired := retireEvents_ids (h.retire_live hkeyed)
  rw [h.events_eq]
  simp only [List.filterMap_append]
  rw [hquiet.1, hquiet.2, hcreated.1, hcreated.2, hretired.1, hretired.2]
  simp

end

/-! ### The clauses of the law -/

theorem frameTrack_cases (s : ActorTracker Embedding) (frame : FrameActors Embedding)
    (id : TrackId) (track : TrackState Embedding) (assigned : List (CandidatePair Embedding)) :
    (id ∈ assigned.map CandidatePair.trackId ∧
      (frameTrack s frame assigned id track).phase = .visible ∧
      (frameTrack s frame assigned id track).trackEpoch =
        if track.phase = .offscreen then track.trackEpoch + 1 else track.trackEpoch) ∨
    (id ∉ assigned.map CandidatePair.trackId ∧
      (frameTrack s frame assigned id track).phase = .offscreen ∧
      (frameTrack s frame assigned id track).trackEpoch =
        if track.phase = .visible then track.trackEpoch + 1 else track.trackEpoch) := by
  by_cases hid : id ∈ assigned.map CandidatePair.trackId
  · obtain ⟨pair, _, _, hmatched⟩ := matchedTrack_of_mem s frame hid track
    rw [frameTrack, if_pos hid, hmatched]
    exact .inl ⟨hid, rfl, rfl⟩
  · rw [frameTrack, if_neg hid]
    exact .inr ⟨hid, rfl, rfl⟩

variable (h : Updated perception s frame missed joined retiring u s')

include h

theorem Updated.visible (hkeyed : s.Keyed) (htrack : s'.tracks.lookup id = some track') :
    track'.phase = .visible ↔ id ∈ u.observations.map (·.trackId) := by
  rw [h.tracksSeen.mem_iff, List.mem_append]
  obtain ⟨track, hs, _, rfl⟩ | ⟨hrange, _, hvisible, _⟩ := h.live htrack
  · have hold : id ∉ List.range' s.nextTrackId
        (newcomers s.config frame (assignments perception s frame)).length := by
      rw [List.mem_range'_1]
      exact fun hrange => absurd (hkeyed.below id (Table.mem_of_lookup hs)) (not_lt.2 hrange.1)
    obtain ⟨hin, hphase, _⟩ | ⟨hout, hphase, _⟩ :=
      frameTrack_cases s frame id track (assignments perception s frame)
    · exact iff_of_true hphase (.inl hin)
    · rw [hphase]
      exact iff_of_false (by decide) (not_or.2 ⟨hout, hold⟩)
  · exact iff_of_true hvisible (.inr hrange)

theorem Updated.advances (hkeyed : s.Keyed) {epoch : TrackEpoch}
    (hevent : .lost id epoch ∈ u.events ∨ .reacquired id epoch ∈ u.events) :
    ∃ track, s.tracks.lookup id = some track ∧ track.trackEpoch < epoch ∧
      ∀ track', s'.tracks.lookup id = some track' → track'.trackEpoch = epoch := by
  -- both are events of the first two loops
  have hearly : ∀ event ∈ u.events, (event = .lost id epoch ∨ event = .reacquired id epoch) →
      event ∈ frameEvents s (assignments perception s frame) missed := by
    intro event hmem hform
    rw [h.events_eq, List.mem_append, List.mem_append] at hmem
    obtain (hmem | hmem) | hmem := hmem
    · exact hmem
    · obtain ⟨other, _, rfl⟩ := List.mem_map.1 hmem
      simp at hform
    · obtain ⟨other, _, hmem⟩ := List.mem_flatMap.1 hmem
      unfold retireEvents at hmem
      split at hmem
      · cases hmem
      · split at hmem <;> simp at hmem <;> grind
  have hend : ∀ track, s.tracks.lookup id = some track →
      epoch = (frameTrack s frame (assignments perception s frame) id track).trackEpoch →
      ∀ track', s'.tracks.lookup id = some track' → track'.trackEpoch = epoch := by
    intro track htrack hepoch track' htrack'
    rw [h.lookup_before hkeyed htrack] at htrack'
    split at htrack'
    · cases htrack'
    · obtain rfl := Option.some.inj htrack'
      exact hepoch.symm
  obtain hlost | hreacquired := hevent
  · obtain ⟨pair, _, track, _, hevent⟩ | ⟨other, hother, track, htrack, hvisible, hevent⟩ :=
      mem_frameEvents (hearly _ hlost (.inl rfl))
    · unfold matchEvent at hevent
      split at hevent <;> cases hevent
    · cases hevent
      refine ⟨track, htrack, Nat.lt_succ_self _, hend track htrack ?_⟩
      obtain ⟨hin, _⟩ | ⟨_, _, hepoch⟩ := frameTrack_cases s frame id track
        (assignments perception s frame)
      · exact absurd hin ((h.unassigned id).1 hother).2
      · rw [hepoch, if_pos hvisible]
  · obtain ⟨pair, hpair, track, htrack, hevent⟩ | ⟨other, _, track, _, _, hevent⟩ :=
      mem_frameEvents (hearly _ hreacquired (.inr rfl))
    · unfold matchEvent at hevent
      split at hevent
      case isTrue hoff =>
        cases hevent
        refine ⟨track, htrack, Nat.lt_succ_self _, hend track htrack ?_⟩
        obtain ⟨_, _, hepoch⟩ | ⟨hout, _⟩ := frameTrack_cases s frame
          pair.trackId track (assignments perception s frame)
        · rw [hepoch, if_pos hoff]
        · exact absurd (List.mem_map_of_mem hpair) hout
      case isFalse => cases hevent
    · cases hevent

theorem Updated.epoch_le (hkeyed : s.Keyed) {track : TrackState Embedding}
    (htrack : s.tracks.lookup id = some track) (htrack' : s'.tracks.lookup id = some track') :
    track.trackEpoch ≤ track'.trackEpoch := by
  rw [h.lookup_before hkeyed htrack] at htrack'
  split at htrack'
  · cases htrack'
  · obtain rfl := Option.some.inj htrack'
    obtain ⟨_, _, hepoch⟩ | ⟨_, _, hepoch⟩ := frameTrack_cases s frame id track
      (assignments perception s frame)
    · rw [hepoch]
      split
      · exact Nat.le_succ _
      · exact le_rfl
    · rw [hepoch]
      split
      · exact Nat.le_succ _
      · exact le_rfl

/-- Assigned detections and newcomers are the eligible detections. -/
theorem Updated.detections (hkeyed : s.Keyed) : (u.observations.map (·.detectionIndex)).Perm
      ((eligibleDetections s.config frame).map (·.detectionIndex)) := by
  have hseen : (u.observations.map (·.detectionIndex)).Perm
      ((assignments perception s frame).map (·.eligible.detectionIndex) ++
        (newcomers s.config frame (assignments perception s frame)).map (·.detectionIndex)) := by
    rw [← h.joins.indexesSeen, ← h.retires.observations]
    exact h.observations.map _
  refine hseen.trans ?_
  have hassigned := (assignments_nodup perception s frame).2
  have heligible := eligible_index_nodup s.config frame
  have hnew : ((newcomers s.config frame (assignments perception s frame)).map
      (·.detectionIndex)).Nodup := heligible.sublist (List.filter_sublist.map _)
  have hdisjoint : List.Disjoint
      ((assignments perception s frame).map (·.eligible.detectionIndex))
      ((newcomers s.config frame (assignments perception s frame)).map (·.detectionIndex)) := by
    rw [List.disjoint_right]
    intro index hindex
    obtain ⟨eligible, hmem, rfl⟩ := List.mem_map.1 hindex
    exact of_decide_eq_true (List.mem_filter.1 hmem).2
  rw [List.perm_ext_iff_of_nodup (List.nodup_append'.2 ⟨hassigned, hnew, hdisjoint⟩) heligible]
  intro index
  rw [List.mem_append]
  constructor
  · intro hindex
    obtain hindex | hindex := hindex
    · obtain ⟨pair, hpair, rfl⟩ := List.mem_map.1 hindex
      exact List.mem_map_of_mem (mem_assignments hkeyed hpair).2
    · exact (List.filter_sublist.map _).subset hindex
  · intro hindex
    obtain ⟨eligible, hmem, rfl⟩ := List.mem_map.1 hindex
    by_cases hin : eligible.detectionIndex ∈
        (assignments perception s frame).map (·.eligible.detectionIndex)
    · exact .inl hin
    · exact .inr (List.mem_map_of_mem (List.mem_filter.2 ⟨hmem, decide_eq_true hin⟩))

theorem Updated.exclusive (hkeyed : s.Keyed) : (u.observations.map (·.trackId)).Nodup ∧
      ∀ observation ∈ u.observations, observation.trackId ∈ s'.tracks := by
  have hlive : ∀ id ∈ (assignments perception s frame).map CandidatePair.trackId,
      id ∈ s.tracks := by
    intro id hid
    obtain ⟨pair, hpair, rfl⟩ := List.mem_map.1 hid
    exact (mem_assignments hkeyed hpair).1
  refine ⟨h.tracksSeen.nodup_iff.2 (List.nodup_append'.2
    ⟨(assignments_nodup perception s frame).1, List.nodup_range', ?_⟩), fun observation hmem => ?_⟩
  · rw [List.disjoint_left]
    intro id hid hrange
    exact absurd (hkeyed.below id (hlive id hid)) (not_lt.2 (List.mem_range'_1.1 hrange).1)
  · obtain hassigned | hrange :=
      List.mem_append.1 (h.tracksSeen.mem_iff.1 (List.mem_map_of_mem hmem))
    · by_contra hgone
      exact (h.retired_mem ((h.leaves hkeyed).2 ⟨hlive _ hassigned, hgone⟩)).2 hassigned
    · obtain ⟨hnew, hbelow⟩ := List.mem_range'_1.1 hrange
      have hkept : observation.trackId ∉ joined.retire := fun hretired =>
        absurd (hkeyed.below _ (h.retired_mem hretired).1) (not_lt.2 hnew)
      rw [← AList.lookup_isSome, h.lookup, if_neg hkept, AList.lookup_isSome,
        (h.joins.fresh _ hnew).1, h.joins.nextTrackId]
      exact hbelow

/-- The selection ends with its track. -/
theorem Updated.selected_iff (id : TrackId) :
    s'.selectedTrackId = some id ↔ s.selectedTrackId = some id ∧ id ∉ joined.retire := by
  have hjoined : joined.tracker.selectedTrackId = s.selectedTrackId :=
    (ActorTracker.mk.inj h.joins.same).2.2.2.1
  rw [h.tracker, ← hjoined]
  exact h.retires.selected id

theorem Updated.unselected (hnone : s.selectedTrackId = none) : s'.selectedTrackId = none := by
  rw [Option.eq_none_iff_forall_ne_some]
  intro id hid
  have := ((h.selected_iff id).1 hid).1
  rw [hnone] at this
  cases this

theorem Updated.selection (hkeyed : s.Keyed) (hselected : s.selectedTrackId = some id)
    (hlive : id ∈ s.tracks) :
    s'.selectedTrackId = some id ∧ id ∈ s'.tracks ∨
      s'.selectedTrackId = none ∧ .selectionCleared id ∈ u.events := by
  have hjoined : joined.tracker.selectedTrackId = some id := by
    rw [← hselected]
    exact (ActorTracker.mk.inj h.joins.same).2.2.2.1
  by_cases hretired : id ∈ joined.retire
  · refine .inr ⟨?_, ?_⟩
    · rw [Option.eq_none_iff_forall_ne_some]
      intro other hother
      obtain ⟨hsame, hkept⟩ := (h.selected_iff other).1 hother
      rw [hselected] at hsame
      exact hkept (Option.some.inj hsame ▸ hretired)
    · rw [h.events_eq, List.mem_append]
      obtain ⟨track, htrack⟩ := Option.isSome_iff_exists.1
        (AList.lookup_isSome.2 (h.retire_live hkeyed id hretired))
      refine .inr (List.mem_flatMap.2 ⟨id, hretired, ?_⟩)
      simp [retireEvents, htrack, hjoined]
  · refine .inl ⟨(h.selected_iff id).2 ⟨hselected, hretired⟩, ?_⟩
    by_contra hgone
    exact hretired ((h.leaves hkeyed).2 ⟨hlive, hgone⟩)

theorem Updated.next_eq :
    s'.nextTrackId = s.nextTrackId +
      (newcomers s.config frame (assignments perception s frame)).length := by
  rw [h.tracker, ← h.joins.nextTrackId]
  exact (ActorTracker.mk.inj h.retires.same).2.1

theorem Updated.keyed (hkeyed : s.Keyed) (hroom : HasRoom perception s frame) : s'.Keyed := by
  have hown : ∀ id track, (frameTrack s frame (assignments perception s frame) id track).trackId =
      track.trackId := by
    intro id track
    unfold frameTrack matchedTrack
    split
    · split <;> rfl
    · rfl
  refine ⟨fun id track' htrack => ?_, fun id hid => ?_, ?_⟩
  · obtain ⟨track, hs, _, rfl⟩ | ⟨_, hid, _⟩ := h.live htrack
    · rw [hown]
      exact hkeyed.own id track hs
    · exact hid
  · obtain ⟨track', htrack⟩ := Option.isSome_iff_exists.1 (AList.lookup_isSome.2 hid)
    rw [h.next_eq]
    obtain ⟨track, hs, _⟩ | ⟨hrange, _⟩ := h.live htrack
    · exact Nat.lt_add_right _ (hkeyed.below id (Table.mem_of_lookup hs))
    · exact (List.mem_range'_1.1 hrange).2
  · rw [h.next_eq]
    exact hroom.ids

/-- **Every processed frame is lawful.** -/
theorem Updated.frameLaw (hkeyed : s.Keyed) : FrameLaw s frame u s' where
  detections := h.detections hkeyed
  exclusive := h.exclusive hkeyed
  epochs := fun _ _ _ htrack htrack' => h.epoch_le hkeyed htrack htrack'
  advances := fun _ _ => h.advances hkeyed
  visible := fun _ _ => h.visible hkeyed
  retired := by
    rw [(h.ids hkeyed).2]
    refine ⟨?_, fun id => h.leaves hkeyed⟩
    rw [h.joins.retire]
    exact h.nodup.filter _
  selected := fun _ => h.selection hkeyed
  unselected := h.unselected
  reported := by rw [h.selected, h.tracker]
  created := by
    refine ⟨_, (h.ids hkeyed).1, h.next_eq, fun id => ?_⟩
    constructor
    · intro hid
      obtain ⟨track', htrack⟩ := Option.isSome_iff_exists.1 (AList.lookup_isSome.2 hid.1)
      obtain ⟨track, hs, _⟩ | ⟨hrange, _⟩ := h.live htrack
      · exact absurd (Table.mem_of_lookup hs) hid.2
      · exact hrange
    · intro hrange
      have hnew := (List.mem_range'_1.1 hrange).1
      have hold : id ∉ s.tracks := fun hold => absurd (hkeyed.below id hold) (not_lt.2 hnew)
      have hmem : id ∈ u.observations.map (·.trackId) :=
        h.tracksSeen.mem_iff.2 (List.mem_append_right _ hrange)
      obtain ⟨observation, hobservation, rfl⟩ := List.mem_map.1 hmem
      exact ⟨(h.exclusive hkeyed).2 _ hobservation, hold⟩

end Updated

/-! ## Runs -/

/-- A tracker with the updates it has returned. -/
structure Tracking (Embedding : Type) where
  tracker : ActorTracker Embedding
  updates : List (TrackerUpdate Embedding)

inductive TrackerCall (Embedding : Type) where
  | update (frame : FrameActors Embedding)
  | selectActor (trackId : TrackId)
  | clearSelection

def TrackerCall.next (perception : Perception Embedding) (call : TrackerCall Embedding)
    (t : Tracking Embedding) : Tracking Embedding :=
  match call with
  | .update frame =>
    match t.tracker.update perception frame with
    | (.ok u, s') => ⟨s', t.updates ++ [u]⟩
    | (.error _, s') => ⟨s', t.updates⟩
  | .selectActor trackId =>
    match t.tracker.selectActor trackId with
    | .ok s' => ⟨s', t.updates⟩
    | .error _ => t
  | .clearSelection => ⟨t.tracker.clearSelection, t.updates⟩

/-- A frame that passes its checks can count up; the other calls need no room. -/
def TrackerCall.HasRoom (perception : Perception Embedding) (t : Tracking Embedding)
    (call : TrackerCall Embedding) : Prop :=
  match call with
  | .update frame => validateFrame perception t.tracker frame = .ok () →
    Identity.HasRoom perception t.tracker frame
  | _ => True

namespace Tracking

def createdIds (t : Tracking Embedding) : List TrackId :=
  (t.updates.flatMap (·.events)).filterMap TrackEvent.createdId

def retiredIds (t : Tracking Embedding) : List TrackId :=
  (t.updates.flatMap (·.events)).filterMap TrackEvent.retiredId

end Tracking

/-- The law of the whole run, in the state it has reached. -/
structure TrackLaw (t : Tracking Embedding) : Prop where
  /-- No track id is used twice. -/
  neverReused : t.createdIds.Nodup
  /-- The live tracks are the created ones that were not retired, each announced once. -/
  announced : t.retiredIds.Nodup ∧ (∀ id ∈ t.retiredIds, id ∈ t.createdIds) ∧
    ∀ id, id ∈ t.tracker.tracks ↔ id ∈ t.createdIds ∧ id ∉ t.retiredIds
  /-- A track is visible exactly if the last processed frame observed it. -/
  visible : ∀ id track, t.tracker.tracks.lookup id = some track →
    (track.phase = .visible ↔
      ∃ u ∈ t.updates.getLast?, id ∈ u.observations.map TrackedDetection.trackId)
  selected : ∀ id, t.tracker.selectedTrackId = some id → id ∈ t.tracker.tracks

/-- The law of one call: a frame that was processed is lawful. -/
def TrackerCall.Lawful (perception : Perception Embedding) (t : Tracking Embedding)
    (call : TrackerCall Embedding) : Prop :=
  ∀ frame u s', call = .update frame → t.tracker.update perception frame = (.ok u, s') →
    FrameLaw t.tracker frame u s'

/-- The laws of a run: of every frame, of the state reached, and of the epochs from any state
before. -/
structure TracksLawful (perception : Perception Embedding) (calls : List (TrackerCall Embedding))
    (t : Tracking Embedding) : Prop where
  frames : Along (TrackerCall.next perception) (TrackerCall.Lawful perception) calls t
  reached : TrackLaw (runFrom (TrackerCall.next perception) calls t)
  epochs : ∀ pre, pre <+: calls → ∀ id track track',
    (runFrom (TrackerCall.next perception) pre t).tracker.tracks.lookup id = some track →
    (runFrom (TrackerCall.next perception) calls t).tracker.tracks.lookup id = some track' →
    track.trackEpoch ≤ track'.trackEpoch

/-- What a run with room keeps. -/
structure TrackInv (t : Tracking Embedding) : Prop where
  keyed : t.tracker.Keyed
  law : TrackLaw t
  created : ∀ id ∈ t.createdIds, id < t.tracker.nextTrackId

theorem update_invalid {error : TrackerError}
    (h : validateFrame perception s frame = .error error) :
    s.update perception frame = (.error error, s) := by
  simp only [ActorTracker.update]
  unfold update
  rw [call_bind_get, call_bind_liftExcept_error h]

variable {t : Tracking Embedding}

/-- What one update does to a run. -/
theorem TrackerCall.update_next (hkeyed : t.tracker.Keyed)
    (hroom : (TrackerCall.update frame).HasRoom perception t) :
    (TrackerCall.update frame).next perception t = t ∨
      ∃ u s', t.tracker.update perception frame = (.ok u, s') ∧
        FrameLaw t.tracker frame u s' ∧ s'.Keyed ∧
        (TrackerCall.update frame).next perception t = ⟨s', t.updates ++ [u]⟩ := by
  cases hvalid : validateFrame perception t.tracker frame with
  | error error =>
    left
    simp only [TrackerCall.next, update_invalid hvalid]
  | ok _ =>
    right
    obtain ⟨_, _, _, u, s', hrun, hupdated⟩ := update_ok hkeyed hvalid (hroom hvalid)
    refine ⟨u, s', hrun, hupdated.frameLaw hkeyed, hupdated.keyed hkeyed (hroom hvalid), ?_⟩
    simp only [TrackerCall.next, hrun]

theorem TrackInv.update (h : TrackInv t) (hframe : FrameLaw t.tracker frame u s')
    (hkeyed : s'.Keyed) : TrackInv ⟨s', t.updates ++ [u]⟩ := by
  obtain ⟨k, hids, hnext, hnew⟩ := hframe.created
  have hcreated : (⟨s', t.updates ++ [u]⟩ : Tracking Embedding).createdIds =
      t.createdIds ++ List.range' t.tracker.nextTrackId k := by
    simp [Tracking.createdIds, List.filterMap_append, ← hids]
  have hretired : (⟨s', t.updates ++ [u]⟩ : Tracking Embedding).retiredIds =
      t.retiredIds ++ u.events.filterMap TrackEvent.retiredId := by
    simp [Tracking.retiredIds, List.filterMap_append]
  have hfresh : ∀ id ∈ t.createdIds, id ∉ List.range' t.tracker.nextTrackId k := by
    intro id hid hrange
    exact absurd (h.created id hid) (not_lt.2 (List.mem_range'_1.1 hrange).1)
  have hleave := hframe.retired.2
  have hlive := h.law.announced.2.2
  refine ⟨hkeyed, ⟨?_, ⟨?_, ?_, ?_⟩, ?_, ?_⟩, ?_⟩
  · rw [hcreated, List.nodup_append']
    exact ⟨h.law.neverReused, List.nodup_range', List.disjoint_left.2 hfresh⟩
  · rw [hretired, List.nodup_append']
    refine ⟨h.law.announced.1, hframe.retired.1, List.disjoint_left.2 fun id hid hgone => ?_⟩
    exact ((hlive id).1 ((hleave id).1 hgone).1).2 hid
  · rw [hretired, hcreated]
    intro id hid
    obtain hid | hid := List.mem_append.1 hid
    · exact List.mem_append_left _ (h.law.announced.2.1 id hid)
    · exact List.mem_append_left _ ((hlive id).1 ((hleave id).1 hid).1).1
  · intro id
    rw [hretired, hcreated, List.mem_append, List.mem_append, hleave, ← hnew id]
    have := hlive id
    have hold : id ∈ t.retiredIds → id ∉ s'.tracks := by
      intro hgone hin
      have hcase : id ∈ t.tracker.tracks ∨ id ∉ t.tracker.tracks := Classical.em _
      obtain hold | hold := hcase
      · exact ((hlive id).1 hold).2 hgone
      · exact hfresh id (h.law.announced.2.1 id hgone) ((hnew id).1 ⟨hin, hold⟩)
    tauto
  · intro id track' htrack
    rw [hframe.visible id track' htrack]
    simp
  · intro id hselected
    cases hbefore : t.tracker.selectedTrackId with
    | none =>
      have hafter := hframe.unselected hbefore
      rw [hselected] at hafter
      cases hafter
    | some other =>
      obtain hkept | hcleared := hframe.selected other hbefore (h.law.selected other hbefore)
      · rw [hselected] at hkept
        exact Option.some.inj hkept.1 ▸ hkept.2
      · rw [hselected] at hcleared
        cases hcleared.1
  · rw [hcreated]
    intro id hid
    rw [hnext]
    obtain hid | hid := List.mem_append.1 hid
    · exact Nat.lt_add_right k (h.created id hid)
    · exact (List.mem_range'_1.1 hid).2

variable {call : TrackerCall Embedding}

/-- **A call with room keeps the laws.** -/
theorem TrackInv.next (h : TrackInv t) (hroom : call.HasRoom perception t) :
    TrackInv (call.next perception t) := by
  cases call with
  | update frame =>
    obtain hsame | ⟨u, s', _, hframe, hkeyed, hnext⟩ := TrackerCall.update_next h.keyed hroom
    · rw [hsame]
      exact h
    · rw [hnext]
      exact h.update hframe hkeyed
  | selectActor trackId =>
    simp only [TrackerCall.next, ActorTracker.selectActor]
    by_cases hlive : trackId ∈ t.tracker.tracks
    · rw [if_pos hlive]
      refine ⟨⟨h.keyed.own, h.keyed.below, h.keyed.bounded⟩, ⟨h.law.neverReused, h.law.announced,
        h.law.visible, fun id hid => ?_⟩, h.created⟩
      obtain rfl := Option.some.inj hid
      exact hlive
    · rw [if_neg hlive]
      exact h
  | clearSelection =>
    refine ⟨⟨h.keyed.own, h.keyed.below, h.keyed.bounded⟩, ⟨h.law.neverReused, h.law.announced,
      h.law.visible, fun id hid => ?_⟩, h.created⟩
    cases hid

theorem TrackInv.lawful (h : TrackInv t) (hroom : call.HasRoom perception t) :
    call.Lawful perception t := by
  intro frame u s' hcall hrun
  subst hcall
  cases hvalid : validateFrame perception t.tracker frame with
  | error error =>
    rw [update_invalid hvalid] at hrun
    cases hrun
  | ok _ =>
    obtain ⟨_, _, _, u', s'', hrun', hupdated⟩ := update_ok h.keyed hvalid (hroom hvalid)
    rw [hrun'] at hrun
    cases hrun
    exact hupdated.frameLaw h.keyed

theorem trackInv_new {config : TrackerConfig} (h : ActorTracker.new config = .ok s) :
    TrackInv ⟨s, []⟩ := by
  simp only [ActorTracker.new, bind_eq_ok, pure_eq_ok] at h
  obtain ⟨_, _, rfl⟩ := h
  refine ⟨⟨fun id track htrack => ?_, fun id hid => ?_, by show 1 ≤ u64Max; decide⟩,
    ⟨List.nodup_nil, ⟨List.nodup_nil, fun _ h => h, fun id => ?_⟩, fun id track htrack => ?_, fun id hid => ?_⟩, ?_⟩
  · cases htrack
  · cases AList.lookup_isSome.2 hid
  · exact iff_of_false (fun hid => by cases AList.lookup_isSome.2 hid)
      (by simp [Tracking.createdIds])
  · cases htrack
  · cases hid
  · intro id hid
    cases hid

/-- From a state on, a track's epoch does not go below what it is there. -/
structure EpochAtLeast (id : TrackId) (epoch : TrackEpoch) (t : Tracking Embedding) : Prop where
  inv : TrackInv t
  old : id < t.tracker.nextTrackId
  least : ∀ track, t.tracker.tracks.lookup id = some track → epoch ≤ track.trackEpoch

theorem EpochAtLeast.next {epoch : TrackEpoch} (h : EpochAtLeast id epoch t)
    (hroom : call.HasRoom perception t) : EpochAtLeast id epoch (call.next perception t) := by
  have hinv := h.inv.next hroom
  cases call with
  | update frame =>
    obtain hsame | ⟨u, s', _, hframe, _, hnext⟩ := TrackerCall.update_next h.inv.keyed hroom
    · rw [hsame]
      exact h
    · rw [hnext] at hinv ⊢
      obtain ⟨k, _, hcount, hnew⟩ := hframe.created
      refine ⟨hinv, ?_, fun track' htrack' => ?_⟩
      · show id < s'.nextTrackId
        rw [hcount]
        exact Nat.lt_add_right k h.old
      · cases htrack : t.tracker.tracks.lookup id with
        | none =>
          have hrange := (hnew id).1 ⟨Table.mem_of_lookup htrack', AList.lookup_eq_none.1 htrack⟩
          exact absurd h.old (not_lt.2 (List.mem_range'_1.1 hrange).1)
        | some track =>
          exact (h.least track htrack).trans (hframe.epochs id track track' htrack htrack')
  | selectActor trackId =>
    simp only [TrackerCall.next, ActorTracker.selectActor] at hinv ⊢
    by_cases hlive : trackId ∈ t.tracker.tracks
    · rw [if_pos hlive] at hinv ⊢
      exact ⟨hinv, h.old, h.least⟩
    · rw [if_neg hlive]
      exact h
  | clearSelection => exact ⟨hinv, h.old, h.least⟩

/-! ## Counters that do not run out -/

def TrackerCall.frame? : TrackerCall Embedding → Option (FrameActors Embedding)
  | .update frame => some frame
  | _ => none

/-- The frames of a run. -/
def framesOf (calls : List (TrackerCall Embedding)) : List (FrameActors Embedding) :=
  calls.filterMap TrackerCall.frame?

/-- The detections of a run. -/
def detectionsOf (calls : List (TrackerCall Embedding)) : List (ActorDetection Embedding) :=
  (framesOf calls).flatMap FrameActors.detections

/-- The run brings no more frames and detections than the counters can count. -/
structure CountersLast (calls : List (TrackerCall Embedding)) : Prop where
  ids : (detectionsOf calls).length < u64Max
  epochs : (framesOf calls).length ≤ u64Max

/-- How far the counters are after `detections` detections and `frames` frames. -/
structure Counted (detections frames : Nat) (s : ActorTracker Embedding) : Prop where
  ids : s.nextTrackId ≤ detections + 1
  epochs : ∀ id track, s.tracks.lookup id = some track → track.trackEpoch ≤ frames

theorem newcomers_length_le (config : TrackerConfig) (frame : FrameActors Embedding)
    (assigned : List (CandidatePair Embedding)) :
    (newcomers config frame assigned).length ≤ frame.detections.length := by
  unfold newcomers eligibleDetections
  refine (List.length_filter_le _ _).trans ?_
  rw [List.length_map]
  exact (List.length_filter_le _ _).trans List.length_zipIdx.le

theorem frameTrack_epoch_le (s : ActorTracker Embedding) (frame : FrameActors Embedding)
    (assigned : List (CandidatePair Embedding)) (id : TrackId) (track : TrackState Embedding) :
    (frameTrack s frame assigned id track).trackEpoch ≤ track.trackEpoch + 1 := by
  obtain ⟨_, _, hepoch⟩ | ⟨_, _, hepoch⟩ := frameTrack_cases s frame id track assigned <;>
  · rw [hepoch]
    split
    · exact le_rfl
    · exact Nat.le_succ _

namespace Counted

variable {detections frames : Nat}

section

variable (h : Counted detections frames s)

include h

theorem hasRoom (hids : detections + frame.detections.length < u64Max) (hepochs : frames < u64Max) :
    HasRoom perception s frame := by
  refine ⟨fun id track htrack _ => (h.epochs id track htrack).trans_lt hepochs, ?_⟩
  have hnew := newcomers_length_le s.config frame (assignments perception s frame)
  have hnext := h.ids
  omega

/-- A frame takes at most an id for each detection and counts an epoch up at most once. -/
theorem updated {missed : List TrackId} {joined retiring : Progress Embedding}
    (hupdated : Updated perception s frame missed joined retiring u s') :
    Counted (detections + frame.detections.length) (frames + 1) s' := by
  refine ⟨?_, fun id track' htrack' => ?_⟩
  · have hnew := newcomers_length_le s.config frame (assignments perception s frame)
    have hnext := h.ids
    rw [hupdated.next_eq]
    omega
  · obtain ⟨track, htrack, _, rfl⟩ | ⟨_, _, _, hepoch, _⟩ := hupdated.live htrack'
    · exact (frameTrack_epoch_le s frame _ id track).trans
        (Nat.succ_le_succ (h.epochs id track htrack))
    · rw [hepoch]
      exact Nat.le_add_left 1 frames

theorem mono {detections' frames' : Nat} (hdetections : detections ≤ detections')
    (hframes : frames ≤ frames') : Counted detections' frames' s :=
  ⟨h.ids.trans (Nat.succ_le_succ hdetections),
    fun id track htrack => (h.epochs id track htrack).trans hframes⟩

end

/-- What one call counts. -/
theorem next (h : Counted detections frames t.tracker) (hkeyed : t.tracker.Keyed)
    (hroom : call.HasRoom perception t) :
    Counted (detections + (detectionsOf [call]).length) (frames + (framesOf [call]).length)
      (call.next perception t).tracker := by
  cases call with
  | update frame =>
    have hone : (detectionsOf [.update frame]).length = frame.detections.length := by
      simp [detectionsOf, framesOf, TrackerCall.frame?]
    rw [hone]
    cases hvalid : validateFrame perception t.tracker frame with
    | error error =>
      simp only [TrackerCall.next, update_invalid hvalid]
      exact h.mono (Nat.le_add_right ..) (Nat.le_add_right ..)
    | ok _ =>
      obtain ⟨_, _, _, u, s', hrun, hupdated⟩ := update_ok hkeyed hvalid (hroom hvalid)
      simp only [TrackerCall.next, hrun]
      exact h.updated hupdated
  | selectActor trackId =>
    simp only [TrackerCall.next, ActorTracker.selectActor]
    by_cases hlive : trackId ∈ t.tracker.tracks
    · rw [if_pos hlive]
      exact ⟨h.ids, h.epochs⟩
    · rw [if_neg hlive]
      exact h
  | clearSelection => exact ⟨h.ids, h.epochs⟩

end Counted

/-- Every frame of a run within the counters has room. -/
theorem along_hasRoom {calls : List (TrackerCall Embedding)} {detections frames : Nat}
    (hinv : TrackInv t) (h : Counted detections frames t.tracker)
    (hids : detections + (detectionsOf calls).length < u64Max)
    (hepochs : frames + (framesOf calls).length ≤ u64Max) :
    Along (TrackerCall.next perception) (TrackerCall.HasRoom perception) calls t := by
  induction calls generalizing t detections frames with
  | nil => trivial
  | cons call calls ih =>
    have hdetections : (detectionsOf (call :: calls)).length =
        (detectionsOf [call]).length + (detectionsOf calls).length := by
      rw [← List.singleton_append]
      simp only [detectionsOf, framesOf, List.filterMap_append, List.flatMap_append,
        List.length_append]
    have hframes : (framesOf (call :: calls)).length =
        (framesOf [call]).length + (framesOf calls).length := by
      rw [← List.singleton_append, framesOf, List.filterMap_append, List.length_append]
      rfl
    rw [hdetections] at hids
    rw [hframes] at hepochs
    have hroom : call.HasRoom perception t := by
      cases call with
      | update frame =>
        intro _
        have hone : (detectionsOf [.update frame]).length = frame.detections.length := by
          simp [detectionsOf, framesOf, TrackerCall.frame?]
        have hcount : (framesOf [.update frame]).length = 1 := rfl
        exact h.hasRoom (by omega) (by omega)
      | selectActor | clearSelection => exact trivial
    exact ⟨hroom, ih (hinv.next hroom) (h.next hinv.keyed hroom) (by omega) (by omega)⟩

/-- **Every run within the counters is lawful.** -/
theorem tracks_lawful {config : TrackerConfig} (h : ActorTracker.new config = .ok s)
    {calls : List (TrackerCall Embedding)}
    (hcounters : CountersLast calls) : TracksLawful perception calls ⟨s, []⟩ := by
  have hstart := trackInv_new h
  have hcounted : Counted 0 0 s := by
    simp only [ActorTracker.new, bind_eq_ok, pure_eq_ok] at h
    obtain ⟨_, _, rfl⟩ := h
    exact ⟨le_rfl, fun id track htrack => by cases htrack⟩
  have hroom : Along (TrackerCall.next perception) (TrackerCall.HasRoom perception) calls
      ⟨s, []⟩ := along_hasRoom hstart hcounted (by simpa using hcounters.ids)
        (by simpa using hcounters.epochs)
  refine ⟨hroom.mono_inv TrackInv (fun _ _ hinv => hinv.next) (fun _ _ hinv => hinv.lawful) hstart,
    (hroom.inv TrackInv (fun _ _ hinv => hinv.next) hstart).law, ?_⟩
  intro pre hpre id track track' htrack htrack'
  obtain ⟨rest, rfl⟩ := hpre
  rw [runFrom_append] at htrack'
  obtain ⟨hbefore, hafter⟩ := along_append.1 hroom
  have hinv := hbefore.inv TrackInv (fun _ _ hinv => hinv.next) hstart
  have hleast : EpochAtLeast id track.trackEpoch
      (runFrom (TrackerCall.next perception) pre ⟨s, []⟩) := by
    refine ⟨hinv, hinv.keyed.below id (Table.mem_of_lookup htrack), fun other hother => ?_⟩
    rw [htrack] at hother
    obtain rfl := Option.some.inj hother
    exact le_rfl
  exact (hafter.inv (EpochAtLeast id track.trackEpoch) (fun _ _ hinv => hinv.next) hleast).least
    track' htrack'

/-! ### An actor that leaves and comes back -/

def exampleConfig : TrackerConfig where
  encounterNamespace := "default-session".toList
  minimumDetectionConfidence := 7 / 20
  minimumIntersectionOverUnion := 1 / 20
  maximumNormalizedCenterDistance := 5 / 2
  minimumAppearanceSimilarity := 13 / 20
  appearanceWeight := 1 / 4
  selectedActorMatchBonus := 2 / 25
  velocitySmoothing := 11 / 20
  maximumMissedFrames := 1
  selectedActorMaximumMissedFrames := 2

/-- Boxes overlap when they are the same. -/
def samePlace : Perception Unit where
  validEmbedding := fun _ => true
  cosineSimilarity := fun _ _ => none
  intersectionOverUnion := fun left right => if left = right then 1 else 0
  normalizedCenterDistance := fun left right => if left = right then 0 else 3
  encounterId := fun encounterNamespace _ _ => encounterNamespace

def actorAt (x : ℚ) : ActorDetection Unit := ⟨none, ⟨x, 0, 1, 1⟩, 1, none⟩

def emptyTracker : ActorTracker Unit := ⟨exampleConfig, 1, ∅, none, none, none⟩

/-- The first of two actors is selected and misses two frames, the second stays away for good. -/
def absences : List (TrackerCall Unit) :=
  [.update ⟨1, 10, [actorAt 0, actorAt 5]⟩, .selectActor 1, .update ⟨2, 20, []⟩,
    .update ⟨3, 30, []⟩, .update ⟨4, 40, [actorAt 0]⟩, .clearSelection, .update ⟨4, 40, []⟩]

theorem tracks_lawful_absences :
    (runFrom (TrackerCall.next samePlace) absences ⟨emptyTracker, []⟩).updates.map
        TrackerUpdate.events =
      [[.created 1 1, .created 2 1], [.lost 1 2, .lost 2 2],
        [.retired 2 2 "default-session".toList], [.reacquired 1 3]] ∧
    TracksLawful samePlace absences ⟨emptyTracker, []⟩ := by
  have hvalid : exampleConfig.validate = .ok () := by decide +kernel
  have hnew : ActorTracker.new exampleConfig = .ok emptyTracker := by
    simp only [ActorTracker.new, hvalid]
    rfl
  exact ⟨by decide +kernel, tracks_lawful hnew ⟨by decide +kernel, by decide +kernel⟩⟩

end NpcRuntime.Identity
