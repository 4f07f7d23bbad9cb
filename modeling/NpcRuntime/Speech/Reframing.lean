import NpcRuntime.Speech.Bridge
import Mathlib.Data.List.TakeWhile

/-!
# The bridge cuts and joins audio, and loses none

Whatever the provider's events: the audio that the stream yields is numbered from one, is an initial
part of the audio accepted, in whole frames, and is all of it when the stream ends well. Timing
keeps its order, and what comes before any audio stays before it. `Inv` says so of what has been
yielded and what is held back; `streamFrom_ending` says how a stream ends.
-/

namespace NpcRuntime.Speech

/-! ## What is yielded -/

def SpeechStreamItem.isTiming : SpeechStreamItem → Bool
  | .audio _ => false
  | .alignment _ => true

def SpeechStreamItem.chunk : SpeechStreamItem → Option AudioChunk
  | .audio chunk => some chunk
  | .alignment _ => none

/-- The items of a stream, without an error. -/
def items (yielded : List Yielded) : List SpeechStreamItem := yielded.filterMap Except.toOption

def audioChunks (items : List SpeechStreamItem) : List AudioChunk :=
  items.filterMap SpeechStreamItem.chunk

def timings (items : List SpeechStreamItem) : List SpeechStreamItem :=
  items.filter SpeechStreamItem.isTiming

def pcm (items : List SpeechStreamItem) : List UInt8 :=
  ((audioChunks items).map AudioChunk.pcmS16le).flatten

theorem audioChunks_append (left right : List SpeechStreamItem) :
    audioChunks (left ++ right) = audioChunks left ++ audioChunks right := List.filterMap_append

theorem timings_append (left right : List SpeechStreamItem) :
    timings (left ++ right) = timings left ++ timings right := List.filter_append ..

theorem pcm_append (left right : List SpeechStreamItem) :
    pcm (left ++ right) = pcm left ++ pcm right := by
  rw [pcm, audioChunks_append, List.map_append, List.flatten_append]
  rfl

variable {metadata : List SpeechStreamItem}

section

variable (h : ∀ item ∈ metadata, item.isTiming = true)

include h

theorem audioChunks_timing : audioChunks metadata = [] := by
  rw [audioChunks, List.filterMap_eq_nil_iff]
  intro item hitem
  cases item with
  | audio chunk => exact absurd (h _ hitem) (by simp [SpeechStreamItem.isTiming])
  | alignment event => rfl

theorem pcm_timing : pcm metadata = [] := by
  rw [pcm, audioChunks_timing h]
  rfl

theorem timings_timing : timings metadata = metadata :=
  List.filter_eq_self.2 h

end

/-! ## What the provider hands over -/

/-- The timing of an event, item by item. -/
def timingOf (config : StreamConfig) : Upstream → List SpeechStreamItem
  | .ok (.alignment words) => words.map wordItem
  | .ok (.viseme visemes) => visemes.map (visemeItem config)
  | _ => []

def isAudio : Upstream → Bool
  | .ok (.audio _) => true
  | _ => false

/-- The events before the first one with audio. -/
def early (events : List Upstream) : List Upstream := events.takeWhile fun event => !isAudio event

variable {config : StreamConfig}

theorem isTiming_timingOf {event : Upstream} {item : SpeechStreamItem}
    (h : item ∈ timingOf config event) : item.isTiming = true := by
  unfold timingOf at h
  split at h
  · obtain ⟨word, -, rfl⟩ := List.mem_map.1 h
    rfl
  · obtain ⟨viseme, -, rfl⟩ := List.mem_map.1 h
    rfl
  · cases h

theorem early_append {events : List Upstream} (h : events.any isAudio = true)
    (more : List Upstream) : early (events ++ more) = early events := by
  induction events with
  | nil => cases h
  | cons event events ih =>
    rw [List.cons_append, early, early, List.takeWhile_cons, List.takeWhile_cons]
    by_cases haudio : isAudio event = true
    · rw [haudio]
      rfl
    · rw [List.any_cons, Bool.or_eq_true] at h
      have hrest := ih (h.resolve_left haudio)
      simp only [early] at hrest
      rw [hrest]

/-- The timing before any audio is where the timing begins. -/
theorem early_initial (config : StreamConfig) (events : List Upstream) :
    (early events).flatMap (timingOf config) <+: events.flatMap (timingOf config) := by
  obtain ⟨rest, hrest⟩ : early events <+: events := List.takeWhile_prefix _
  refine ⟨rest.flatMap (timingOf config), ?_⟩
  rw [← List.flatMap_append, hrest]

variable {before rest : List Upstream}

namespace StreamState

/-- The chunk that an event hands over, if it is accepted. -/
def accepts (config : StreamConfig) (state : StreamState) : Upstream → Option PcmChunk
  | .ok (.audio chunk) =>
    match validatePcmChunk config.providerId chunk state.expectedSequence
        config.expectedOutput with
    | .error _ => none
    | .ok () => some chunk
  | _ => none

/-- The chunks that are accepted before the stream ends. -/
def acceptedChunks (config : StreamConfig) : List Upstream → StreamState → List PcmChunk
  | [], _ => []
  | event :: events, state =>
    (state.accepts config event).toList ++
      match (state.onEvent config event).2 with
      | some next => acceptedChunks config events next
      | none => []

/-- The state after events that do not end the stream. -/
def after (config : StreamConfig) : List Upstream → StreamState → Option StreamState
  | [], state => some state
  | event :: events, state => (state.onEvent config event).2.bind (after config events)

/-! ## The invariant -/

/-- Audio that may be yielded: some, and in whole frames if what was accepted is. -/
def Frames (config : StreamConfig) (whole : Prop) (data : List UInt8) : Prop :=
  data ≠ [] ∧ (whole → config.expectedOutput.channels * 2 ∣ data.length)

/-- What has been yielded: the audio `bytes`, and of the timing `timing` what does not wait, with
`first` before any audio. -/
structure Emitted (config : StreamConfig) (whole : Prop) (first timing : List SpeechStreamItem)
    (bytes : List UInt8) (out : List SpeechStreamItem) (state : StreamState) : Prop where
  sequence : state.nextCoreSequence = min ((audioChunks out).length + 1) u64Max
  numbered : (audioChunks out).map AudioChunk.sequence =
    (List.range (audioChunks out).length).map fun i => min (i + 1) u64Max
  chunks : ∀ chunk ∈ audioChunks out,
    chunk.endOfStream = false ∧ Frames config whole chunk.pcmS16le
  bytes : pcm out = bytes
  waiting : state.audioStarted = false → out = []
  drained : state.audioStarted = true → state.pendingMetadata = []
  timed : ∀ item ∈ state.pendingMetadata, item.isTiming = true
  timing : timings out ++ state.pendingMetadata = timing
  early : state.audioStarted = true → first <+: out

variable {config : StreamConfig} {whole : Prop} {first timing : List SpeechStreamItem}
  {bytes : List UInt8} {out : List SpeechStreamItem} {state : StreamState}

/-- The numbers of the audio that has been yielded, and of one chunk more. -/
theorem Emitted.numbered_snoc (h : Emitted config whole first timing bytes out state)
    (chunk : PcmChunk) (endOfStream : Bool) :
    (audioChunks out ++ [coreAudio chunk state.nextCoreSequence endOfStream]).map
        AudioChunk.sequence =
      (List.range (audioChunks out ++
        [coreAudio chunk state.nextCoreSequence endOfStream]).length).map
          fun i => min (i + 1) u64Max := by
  rw [List.map_append, List.length_append, List.length_singleton, List.range_succ,
    List.map_append, h.numbered]
  simp only [List.map_cons, List.map_nil, coreAudio, h.sequence]

variable {chunk : PcmChunk}

/-- **Audio goes out.** -/
theorem Emitted.emitAudio (h : Emitted config whole first timing bytes out state)
    (hfirst : first <+: timing) (hframes : Frames config whole chunk.data) :
    Emitted config whole first timing (bytes ++ chunk.data) (out ++ (state.emitAudio chunk).1)
      (state.emitAudio chunk).2 := by
  have hsame : (if state.audioStarted then state.pendingMetadata else []) = [] := by
    by_cases hstarted : state.audioStarted = true
    · rw [if_pos hstarted, h.drained hstarted]
    · rw [if_neg hstarted]
  obtain ⟨metadata, hmetadata, hall, htimed⟩ : ∃ metadata,
      metadata = (if state.audioStarted then [] else state.pendingMetadata) ∧
      metadata = state.pendingMetadata ∧ ∀ item ∈ metadata, item.isTiming = true := by
    refine ⟨_, rfl, ?_, ?_⟩
    · by_cases hstarted : state.audioStarted = true
      · rw [if_pos hstarted, h.drained hstarted]
      · rw [if_neg hstarted]
    · split
      · intro item hitem
        cases hitem
      · exact h.timed
  have hchunks : audioChunks (out ++ (state.emitAudio chunk).1) =
      audioChunks out ++ [coreAudio chunk state.nextCoreSequence false] := by
    rw [audioChunks_append, StreamState.emitAudio, ← hmetadata]
    simp only
    rw [audioChunks_append, audioChunks_timing htimed]
    rfl
  refine ⟨?_, ?_, ?_, ?_, ?_, ?_, ?_, ?_, ?_⟩
  · show satAdd state.nextCoreSequence 1 = _
    rw [hchunks, List.length_append, List.length_singleton, h.sequence, satAdd_min_left]
  · rw [hchunks]
    exact h.numbered_snoc chunk false
  · intro emitted hemitted
    rw [hchunks] at hemitted
    rcases List.mem_append.1 hemitted with hold | hnew
    · exact h.chunks emitted hold
    · rw [List.mem_singleton.1 hnew]
      exact ⟨rfl, hframes⟩
  · rw [pcm, hchunks, List.map_append, List.flatten_append, ← h.bytes]
    simp [pcm, coreAudio]
  · intro hstarted
    cases hstarted
  · intro _
    exact hsame
  · intro item hitem
    change item ∈ (if state.audioStarted then state.pendingMetadata else []) at hitem
    rw [hsame] at hitem
    cases hitem
  · show timings (out ++ _) ++ (if state.audioStarted then state.pendingMetadata else []) = timing
    rw [hsame, List.append_nil, timings_append, StreamState.emitAudio, ← hmetadata]
    simp only
    rw [timings_append, timings_timing htimed, hall, ← h.timing]
    simp [timings, SpeechStreamItem.isTiming]
  · intro _
    by_cases hstarted : state.audioStarted = true
    · exact (h.early hstarted).trans (List.prefix_append _ _)
    · -- Nothing was yielded yet, so all the timing waits.
      have hwaits := h.timing
      rw [h.waiting (by simpa using hstarted)] at hwaits ⊢
      rw [List.nil_append, StreamState.emitAudio, ← hmetadata, hall]
      change state.pendingMetadata = timing at hwaits
      rw [hwaits]
      exact hfirst.trans (List.prefix_append _ _)

/-- What is held back. -/
def held (state : StreamState) : List UInt8 := (state.pendingAudio.map PcmChunk.data).getD []

section

variable (h : Emitted config whole first timing bytes out state)

include h

/-- What was held back is yielded. -/
theorem Emitted.releasePrevious (hfirst : first <+: timing)
    (hpending : ∀ chunk, state.pendingAudio = some chunk → Frames config whole chunk.data) :
    Emitted config whole first timing (bytes ++ held state) (out ++ state.releasePrevious.1)
        state.releasePrevious.2 ∧
      state.releasePrevious.2.hasNonSilentSample = state.hasNonSilentSample := by
  unfold StreamState.releasePrevious held
  cases hprevious : state.pendingAudio with
  | none =>
    refine ⟨?_, rfl⟩
    simpa using h
  | some previous =>
    refine ⟨?_, rfl⟩
    have hnone : Emitted config whole first timing bytes out { state with pendingAudio := none } :=
      ⟨h.sequence, h.numbered, h.chunks, h.bytes, h.waiting, h.drained, h.timed, h.timing, h.early⟩
    exact hnone.emitAudio hfirst (hpending previous hprevious)

/-- A chunk is yielded but for its last frame. -/
theorem Emitted.holdTail (hfirst : first <+: timing)
    (hformat : chunk.format = config.expectedOutput)
    (hchannels : config.expectedOutput.channels ≠ 0) (hframes : Frames config whole chunk.data) :
    (∃ yielded, Emitted config whole first timing yielded (out ++ (state.holdTail chunk).1)
        (state.holdTail chunk).2 ∧
      yielded ++ held (state.holdTail chunk).2 = bytes ++ chunk.data) ∧
      (∃ tail, (state.holdTail chunk).2.pendingAudio = some tail ∧
        Frames config whole tail.data) ∧
      (state.holdTail chunk).2.hasNonSilentSample = state.hasNonSilentSample := by
  unfold StreamState.holdTail
  simp only [hformat]
  by_cases hlong : chunk.data.length > config.expectedOutput.channels * 2
  · simp only [if_pos hlong]
    have hpending : ∀ tail, Emitted config whole first timing bytes out
        { state with pendingAudio := some tail } := fun tail =>
      ⟨h.sequence, h.numbered, h.chunks, h.bytes, h.waiting, h.drained, h.timed, h.timing, h.early⟩
    refine ⟨⟨_, (hpending _).emitAudio hfirst ⟨?_, ?_⟩, ?_⟩, ⟨_, rfl, ?_, ?_⟩, rfl⟩
    · apply List.ne_nil_of_length_pos
      rw [List.length_take]
      omega
    · intro hwhole
      rw [List.length_take_of_le (Nat.sub_le _ _)]
      exact Nat.dvd_sub (hframes.2 hwhole) (dvd_refl _)
    · simp only [held, StreamState.emitAudio, Option.map_some, Option.getD_some, List.append_assoc,
        List.take_append_drop]
    · apply List.ne_nil_of_length_pos
      rw [List.length_drop]
      omega
    · intro _
      rw [List.length_drop, Nat.sub_sub_self (le_of_lt hlong)]
  · simp only [if_neg hlong]
    refine ⟨⟨bytes, ?_, rfl⟩, ⟨chunk, rfl, hframes⟩, trivial⟩
    rw [List.append_nil]
    exact ⟨h.sequence, h.numbered, h.chunks, h.bytes, h.waiting, h.drained, h.timed, h.timing,
      h.early⟩

/-- Nothing waits where audio has started. -/
theorem Emitted.releaseMetadata : state.releaseMetadata = ([], state) := by
  unfold StreamState.releaseMetadata
  by_cases hstarted : state.audioStarted = true
  · rw [if_pos hstarted]
    have hdrained := h.drained hstarted
    cases state
    simp only at hdrained
    rw [hdrained]
  · rw [if_neg hstarted]

end

/-- What has been yielded and what is held back, after events that were read and chunks that were
accepted. -/
structure Inv (config : StreamConfig) (whole : Prop) (events : List Upstream)
    (accepted : List PcmChunk) (out : List SpeechStreamItem) (state : StreamState) : Prop where
  emitted : Emitted config whole ((early events).flatMap (timingOf config))
    (events.flatMap (timingOf config)) (pcm out) out state
  bytes : pcm out ++ held state = (accepted.map PcmChunk.data).flatten
  pending : ∀ chunk, state.pendingAudio = some chunk → Frames config whole chunk.data
  nothing : state.pendingAudio = none → accepted = []
  started : state.audioStarted = true → events.any isAudio = true
  sound : state.hasNonSilentSample = accepted.any fun chunk => hasNonSilent chunk.data

theorem inv_initial : Inv config whole [] [] [] .initial where
  emitted := ⟨rfl, rfl, fun _ h => (nomatch h), rfl, fun _ => rfl, fun h => (nomatch h),
    fun _ h => (nomatch h), rfl, fun h => (nomatch h)⟩
  bytes := rfl
  pending := fun _ h => nomatch h
  nothing := fun _ => rfl
  started := fun h => nomatch h
  sound := rfl

variable {events : List Upstream} {accepted : List PcmChunk}

theorem validatePcmChunk_eq_ok {providerId : String} {expectedSequence : Nat}
    {expectedOutput : AudioFormat} {u : Unit} :
    validatePcmChunk providerId chunk expectedSequence expectedOutput = .ok u ↔
      chunk.sequence = expectedSequence ∧ chunk.format = expectedOutput ∧ chunk.data ≠ [] ∧
        2 ∣ chunk.data.length := by
  unfold validatePcmChunk
  by_cases hsequence : chunk.sequence = expectedSequence
  · by_cases hformat : chunk.format = expectedOutput
    · by_cases hdata : chunk.data = [] ∨ ¬ 2 ∣ chunk.data.length
      · rw [if_neg (not_not.2 hsequence), if_neg (not_not.2 hformat), if_pos hdata]
        constructor
        · intro h
          cases h
        · intro h
          exact absurd hdata (by simp [h.2.2.1, h.2.2.2])
      · rw [if_neg (not_not.2 hsequence), if_neg (not_not.2 hformat), if_neg hdata]
        rw [not_or, not_not] at hdata
        exact ⟨fun _ => ⟨hsequence, hformat, hdata⟩, fun _ => rfl⟩
    · rw [if_neg (not_not.2 hsequence), if_pos hformat]
      simp [hformat]
  · rw [if_pos hsequence]
    simp [hsequence]

/-- The timing of audio is none, and what came before it stays what came first. -/
theorem timing_audio (events : List Upstream) {event : Upstream} (h : isAudio event = true) :
    (events ++ [event]).flatMap (timingOf config) = events.flatMap (timingOf config) ∧
      early (events ++ [event]) = early events := by
  have hnothing : timingOf config event = [] := by
    unfold isAudio at h
    split at h
    · rfl
    · cases h
  refine ⟨by simp [hnothing], ?_⟩
  by_cases haudio : events.any isAudio = true
  · exact early_append haudio _
  · have hnone : ∀ event ∈ events, (!isAudio event) = true := by
      intro event hevent
      by_contra h
      exact haudio (List.any_eq_true.2 ⟨event, hevent, by simpa using h⟩)
    have hall : early events = events := List.takeWhile_eq_self_iff.2 hnone
    rw [hall, early, List.takeWhile_append_of_pos hnone]
    simp [h]

section

variable (h : Inv config whole events accepted out state)

include h

/-- **An accepted chunk.** -/
theorem Inv.onAudio (hchannels : config.expectedOutput.channels ≠ 0)
    (hformat : chunk.format = config.expectedOutput) (hframes : Frames config whole chunk.data) :
    Inv config whole (events ++ [.ok (.audio chunk)]) (accepted ++ [chunk])
      (out ++ (state.onAudio chunk).1) (state.onAudio chunk).2 := by
  obtain ⟨htiming, hearly⟩ := @timing_audio config events (.ok (.audio chunk)) rfl
  have hfirst := early_initial config events
  have haccepted : Emitted config whole ((early events).flatMap (timingOf config))
      (events.flatMap (timingOf config)) (pcm out) out { state with
        expectedSequence := satAdd state.expectedSequence 1
        hasNonSilentSample := state.hasNonSilentSample || hasNonSilent chunk.data } := by
    have he := h.emitted
    exact ⟨he.sequence, he.numbered, he.chunks, he.bytes, he.waiting, he.drained, he.timed,
      he.timing, he.early⟩
  obtain ⟨hprevious, hsound⟩ := haccepted.releasePrevious hfirst h.pending
  obtain ⟨⟨yielded, hheld, hyielded⟩, ⟨tail, htail, htailFrames⟩, hkept⟩ :=
    hprevious.holdTail hfirst hformat hchannels hframes
  unfold StreamState.onAudio
  simp only [hheld.releaseMetadata, List.append_nil, ← List.append_assoc]
  have hbytes := hheld.bytes
  refine ⟨?_, ?_, ?_, ?_, ?_, ?_⟩
  · rw [htiming, hearly, hbytes]
    exact hheld
  · rw [hbytes, hyielded, List.map_append, List.flatten_append]
    show pcm out ++ held state ++ chunk.data = _
    rw [h.bytes]
    simp
  · intro pending hpending
    rw [htail] at hpending
    cases hpending
    exact htailFrames
  · intro hnone
    rw [htail] at hnone
    cases hnone
  · intro _
    simp [isAudio]
  · rw [hkept, hsound, List.any_append, h.sound]
    simp

/-- **Timing** is yielded at once, or waits. -/
theorem Inv.onTiming {event : Upstream} {items : List SpeechStreamItem}
    (hitems : timingOf config event = items) :
    (∃ yielded next, state.onTiming config items = (yielded.map .ok, some next) ∧
        Inv config whole (events ++ [event]) accepted (out ++ yielded) next) ∨
      ∃ error, state.onTiming config items = ([.error error], none) := by
  have he := h.emitted
  have htimed : ∀ item ∈ items, item.isTiming = true :=
    fun item hitem => isTiming_timingOf (hitems ▸ hitem)
  have hflat : (events ++ [event]).flatMap (timingOf config) =
      events.flatMap (timingOf config) ++ items := by
    rw [List.flatMap_append, List.flatMap_singleton, hitems]
  unfold StreamState.onTiming
  by_cases hstarted : state.audioStarted = true
  · refine .inl ⟨items, state, by rw [if_pos hstarted], ?_⟩
    have haudio := h.started hstarted
    have hchunks : audioChunks (out ++ items) = audioChunks out := by
      rw [audioChunks_append, audioChunks_timing htimed, List.append_nil]
    have hpcm : pcm (out ++ items) = pcm out := by
      rw [pcm, hchunks]
      rfl
    refine ⟨⟨?_, ?_, ?_, rfl, ?_, he.drained, he.timed, ?_, ?_⟩, ?_, h.pending, h.nothing, ?_,
      h.sound⟩
    · rw [hchunks]
      exact he.sequence
    · rw [hchunks]
      exact he.numbered
    · rw [hchunks]
      exact he.chunks
    · intro hfalse
      rw [hstarted] at hfalse
      cases hfalse
    · have htiming := he.timing
      rw [he.drained hstarted, List.append_nil] at htiming ⊢
      rw [timings_append, timings_timing htimed, htiming, hflat]
    · intro _
      rw [early_append haudio]
      exact (he.early hstarted).trans (List.prefix_append _ _)
    · rw [hpcm]
      exact h.bytes
    · intro _
      rw [List.any_append, haudio]
      rfl
  · by_cases hroom : state.pendingMetadata.length + items.length > maxPendingTimingEvents
    · exact .inr ⟨_, by rw [if_neg hstarted, if_pos hroom]⟩
    · refine .inl ⟨[], _, by rw [if_neg hstarted, if_neg hroom, List.map_nil], ?_⟩
      rw [List.append_nil]
      refine ⟨⟨he.sequence, he.numbered, he.chunks, rfl, he.waiting, ?_, ?_, ?_, ?_⟩, h.bytes,
        h.pending, h.nothing, ?_, h.sound⟩
      · intro htrue
        exact absurd htrue hstarted
      · intro item hitem
        rcases List.mem_append.1 hitem with hold | hnew
        · exact he.timed item hold
        · exact htimed item hnew
      · rw [hflat, ← he.timing, List.append_assoc]
      · intro htrue
        exact absurd htrue hstarted
      · intro htrue
        exact absurd htrue hstarted

/-- An event that yields nothing and changes nothing. -/
theorem Inv.usage : Inv config whole (events ++ [.ok .usage]) accepted out state := by
  have he := h.emitted
  have hflat : (events ++ [Except.ok TtsEvent.usage]).flatMap (timingOf config) =
      events.flatMap (timingOf config) := by
    simp [timingOf]
  have hany : (events ++ [Except.ok TtsEvent.usage]).any isAudio = events.any isAudio := by
    simp [isAudio]
  refine ⟨⟨he.sequence, he.numbered, he.chunks, rfl, he.waiting, he.drained, he.timed, ?_, ?_⟩,
    h.bytes, h.pending, h.nothing, ?_, h.sound⟩
  · rw [hflat]
    exact he.timing
  · intro hstarted
    rw [early_append (h.started hstarted)]
    exact he.early hstarted
  · rw [hany]
    exact h.started

end

/-! ## How a stream goes on and ends -/

/-- What a stream that ends well yields last. -/
def closing (last : PcmChunk) (state : StreamState) : List SpeechStreamItem :=
  state.pendingMetadata ++ [.audio (coreAudio last state.nextCoreSequence true)]

/-- What is yielded last. -/
inductive Ending (config : StreamConfig) (state : StreamState) :
    List Upstream → List Yielded → Prop
  | exhausted : Ending config state []
      [.error (bridgeError config.providerId .protocol "missing_completed_event" false)]
  | failed (event : Upstream) (rest : List Upstream) (error : ProviderError)
      (hevent : state.onEvent config event = ([.error error], none))
      (haccepts : state.accepts config event = none) :
      Ending config state (event :: rest) [.error error]
  | completed (rest : List Upstream) (last : PcmChunk) (hlast : state.pendingAudio = some last)
      (hsound : state.hasNonSilentSample = true) :
      Ending config state (.ok .completed :: rest) ((state.closing last).map .ok)

/-- The chunks of accepted audio are in the format and in whole frames. -/
def AllWhole (config : StreamConfig) (whole : Prop) (chunks : List PcmChunk) : Prop :=
  whole → ∀ chunk ∈ chunks, config.expectedOutput.channels * 2 ∣ chunk.data.length

/-- **The step lemma.** An event goes on with the stream, or ends it. -/
theorem onEvent_cases (h : Inv config whole events accepted out state)
    (hchannels : config.expectedOutput.channels ≠ 0) (event : Upstream)
    (hwhole : AllWhole config whole (state.accepts config event).toList) :
    (∃ yielded next, state.onEvent config event = (yielded.map .ok, some next) ∧
        Inv config whole (events ++ [event]) (accepted ++ (state.accepts config event).toList)
          (out ++ yielded) next) ∨
      ∃ yielded, state.onEvent config event = (yielded, none) ∧
        state.accepts config event = none ∧ ∀ rest, Ending config state (event :: rest) yielded := by
  have hfailed : ∀ event error, state.onEvent config event = ([.error error], none) →
      state.accepts config event = none →
      ∃ yielded, state.onEvent config event = (yielded, none) ∧
        state.accepts config event = none ∧ ∀ rest, Ending config state (event :: rest) yielded :=
    fun event error hstop hnone => ⟨_, hstop, hnone, fun rest => .failed _ rest _ hstop hnone⟩
  cases event with
  | error error => exact .inr (hfailed _ _ rfl rfl)
  | ok event =>
    cases event with
    | audio chunk =>
      cases hvalid : validatePcmChunk config.providerId chunk state.expectedSequence
          config.expectedOutput with
      | error error =>
        refine .inr (hfailed _ error ?_ ?_)
        · simp only [StreamState.onEvent, hvalid]
        · simp only [StreamState.accepts, hvalid]
      | ok u =>
        simp only [StreamState.onEvent, StreamState.accepts, hvalid] at hwhole ⊢
        obtain ⟨-, hformat, hdata, -⟩ := validatePcmChunk_eq_ok.1 hvalid
        refine .inl ⟨_, _, rfl, ?_⟩
        exact h.onAudio hchannels hformat
          ⟨hdata, fun hw => hwhole hw chunk (List.mem_singleton.2 rfl)⟩
    | alignment words =>
      have hkeep : accepted ++ (state.accepts config (.ok (.alignment words))).toList = accepted :=
        List.append_nil accepted
      rw [hkeep]
      rcases @Inv.onTiming _ _ _ _ _ _ h (.ok (.alignment words)) _ rfl with hnext | ⟨error, hstop⟩
      · exact .inl hnext
      · exact .inr (hfailed _ error hstop rfl)
    | viseme visemes =>
      have hkeep : accepted ++ (state.accepts config (.ok (.viseme visemes))).toList = accepted :=
        List.append_nil accepted
      rw [hkeep]
      rcases @Inv.onTiming _ _ _ _ _ _ h (.ok (.viseme visemes)) _ rfl with hnext | ⟨error, hstop⟩
      · exact .inl hnext
      · exact .inr (hfailed _ error hstop rfl)
    | usage =>
      refine .inl ⟨[], state, rfl, ?_⟩
      simpa only [StreamState.accepts, Option.toList_none, List.append_nil] using h.usage
    | interrupted => exact .inr (hfailed _ _ rfl rfl)
    | completed =>
      refine .inr ?_
      cases hlast : state.pendingAudio with
      | none =>
        refine hfailed _ (bridgeError config.providerId .protocol "empty_audio_stream" false) ?_ rfl
        simp only [StreamState.onEvent, StreamState.onCompleted, hlast]
      | some last =>
        by_cases hsound : state.hasNonSilentSample = true
        · refine ⟨_, ?_, rfl, fun rest => .completed rest last hlast hsound⟩
          simp only [StreamState.onEvent, StreamState.onCompleted, hlast, hsound]
          rfl
        · rw [Bool.not_eq_true] at hsound
          refine hfailed _ (bridgeError config.providerId .protocol "silent_audio_stream" false)
            ?_ rfl
          simp only [StreamState.onEvent, StreamState.onCompleted, hlast, hsound]
          rfl

/-- **The run lemma.** A stream yields items, without an error, and then its ending. -/
theorem streamFrom_ending (hchannels : config.expectedOutput.channels ≠ 0) (rest : List Upstream)
    (h : Inv config whole events accepted out state)
    (hwhole : AllWhole config whole (acceptedChunks config rest state)) :
    ∃ before ended yielded next ending, rest = before ++ ended ∧
      after config before state = some next ∧
      streamFrom config rest state = yielded.map .ok ++ ending ∧
      Inv config whole (events ++ before) (accepted ++ acceptedChunks config before state)
        (out ++ yielded) next ∧
      acceptedChunks config rest state = acceptedChunks config before state ∧
      Ending config next ended ending := by
  induction rest generalizing events accepted out state with
  | nil =>
    refine ⟨[], [], [], state, _, rfl, rfl, rfl, ?_, rfl, .exhausted⟩
    simpa [acceptedChunks] using h
  | cons event rest ih =>
    have hnow : AllWhole config whole (state.accepts config event).toList :=
      fun hw chunk hchunk => hwhole hw chunk (List.mem_append_left _ hchunk)
    rcases onEvent_cases h hchannels event hnow with
      ⟨yielded, next, hevent, hnext⟩ | ⟨yielded, hevent, hnone, hending⟩
    · have hlater : AllWhole config whole (acceptedChunks config rest next) := by
        intro hw chunk hchunk
        refine hwhole hw chunk ?_
        rw [acceptedChunks, hevent]
        exact List.mem_append_right _ hchunk
      obtain ⟨before, ended, more, last, ending, rfl, hafter, hstream, hinv, hchunks, hlast⟩ :=
        ih hnext hlater
      refine ⟨event :: before, ended, yielded ++ more, last, ending, rfl, ?_, ?_, ?_, ?_, hlast⟩
      · simp only [after, hevent, Option.bind_some, hafter]
      · simp only [streamFrom, hevent, hstream, List.map_append, List.append_assoc]
      · simp only [acceptedChunks, hevent]
        simpa only [List.append_assoc, List.singleton_append, List.cons_append, List.nil_append]
          using hinv
      · simp only [acceptedChunks, hevent, hchunks]
    · refine ⟨[], event :: rest, [], state, yielded, rfl, rfl, ?_, ?_, ?_, hending rest⟩
      · simp only [streamFrom, hevent]
        rfl
      · simpa [acceptedChunks] using h
      · simp only [acceptedChunks, hevent, hnone]
        rfl

/-- What was read without ending the stream is a first part of it. -/
theorem streamFrom_after (hchannels : config.expectedOutput.channels ≠ 0) {next : StreamState}
    (h : Inv config whole events accepted out state)
    (hafter : after config before state = some next)
    (hwhole : AllWhole config whole (acceptedChunks config before state)) :
    ∃ yielded, streamFrom config (before ++ rest) state =
        yielded.map .ok ++ streamFrom config rest next ∧
      Inv config whole (events ++ before) (accepted ++ acceptedChunks config before state)
        (out ++ yielded) next := by
  induction before generalizing events accepted out state with
  | nil =>
    cases hafter
    refine ⟨[], rfl, ?_⟩
    simpa [acceptedChunks] using h
  | cons event before ih =>
    have hnow : AllWhole config whole (state.accepts config event).toList :=
      fun hw chunk hchunk => hwhole hw chunk (List.mem_append_left _ hchunk)
    rcases onEvent_cases h hchannels event hnow with
      ⟨yielded, between, hevent, hnext⟩ | ⟨yielded, hevent, -⟩
    · rw [after, hevent, Option.bind_some] at hafter
      have hlater : AllWhole config whole (acceptedChunks config before between) := by
        intro hw chunk hchunk
        refine hwhole hw chunk ?_
        rw [acceptedChunks, hevent]
        exact List.mem_append_right _ hchunk
      obtain ⟨more, hstream, hinv⟩ := ih hnext hafter hlater
      refine ⟨yielded ++ more, ?_, ?_⟩
      · simp only [List.cons_append, streamFrom, hevent, hstream, List.map_append,
          List.append_assoc]
      · simp only [acceptedChunks, hevent]
        simpa only [List.append_assoc, List.singleton_append, List.cons_append, List.nil_append]
          using hinv
    · rw [after, hevent] at hafter
      cases hafter

end StreamState

/-! ## Streams -/

open StreamState

theorem items_append (left right : List Yielded) :
    items (left ++ right) = items left ++ items right := List.filterMap_append

@[simp] theorem items_ok (yielded : List SpeechStreamItem) :
    items (yielded.map Except.ok) = yielded := by
  rw [items, List.filterMap_map]
  exact List.filterMap_some

/-- An element of a list whose last one is known. -/
theorem last_or_mem {α : Type} {xs before after : List α} {last x : α}
    (h : xs ++ [last] = before ++ x :: after) : after = [] ∧ x = last ∨ x ∈ xs := by
  rcases List.eq_nil_or_concat after with rfl | ⟨rest, final, rfl⟩
  · exact .inl ⟨rfl, (List.append_inj' h rfl).2 |> List.singleton_inj.1 |>.symm⟩
  · refine .inr ?_
    rw [List.concat_eq_append, ← List.cons_append, ← List.append_assoc] at h
    rw [(List.append_inj' h rfl).1]
    exact List.mem_append_right _ List.mem_cons_self

theorem acceptedChunks_append (rest : List Upstream) {state next : StreamState}
    (h : after config before state = some next) :
    acceptedChunks config (before ++ rest) state =
      acceptedChunks config before state ++ acceptedChunks config rest next := by
  induction before generalizing state with
  | nil =>
    cases h
    rfl
  | cons event before ih =>
    rw [after] at h
    rw [List.cons_append, acceptedChunks, acceptedChunks, List.append_assoc]
    cases hnext : (state.onEvent config event).2 with
    | none =>
      rw [hnext] at h
      cases h
    | some between =>
      rw [hnext, Option.bind_some] at h
      simp only
      rw [ih h]

/-- What is accepted is whole samples. -/
theorem even_acceptedChunks {events : List Upstream} {state : StreamState} {chunk : PcmChunk}
    (h : chunk ∈ acceptedChunks config events state) : 2 ∣ chunk.data.length := by
  induction events generalizing state with
  | nil => cases h
  | cons event events ih =>
    rw [acceptedChunks] at h
    rcases List.mem_append.1 h with hnow | hlater
    · rw [Option.mem_toList] at hnow
      unfold accepts at hnow
      split at hnow
      · split at hnow
        · cases hnow
        · next hvalid =>
          cases hnow
          exact (validatePcmChunk_eq_ok.1 hvalid).2.2.2
      · cases hnow
    · split at hlater
      · exact ih hlater
      · cases hlater

/-- The audio that a stream accepts. -/
def acceptedPcm (config : StreamConfig) (events : List Upstream) : List UInt8 :=
  ((acceptedChunks config events .initial).map PcmChunk.data).flatten

/-- Every chunk that is accepted is in whole frames. -/
def Whole (config : StreamConfig) (events : List Upstream) : Prop :=
  ∀ chunk ∈ acceptedChunks config events .initial,
    config.expectedOutput.channels * 2 ∣ chunk.data.length

/-- `Completed` is reached after audio that is not silent. -/
def Completes (config : StreamConfig) (before : List Upstream) : Prop :=
  (after config before .initial).isSome = true ∧ acceptedChunks config before .initial ≠ [] ∧
    ∃ chunk ∈ acceptedChunks config before .initial, hasNonSilent chunk.data = true

/-- What a stream promises. -/
structure Reframed (config : StreamConfig) (events : List Upstream) (stream : List Yielded) :
    Prop where
  /-- The audio is numbered 1, 2, 3 and so on, as far as 64 bits go. -/
  numbered : (audioChunks (items stream)).map AudioChunk.sequence =
    (List.range (audioChunks (items stream)).length).map fun i => min (i + 1) u64Max
  lossless : pcm (items stream) <+: acceptedPcm config events
  complete : pcm (items stream) = acceptedPcm config events ↔
    (∀ error, .error error ∉ stream) ∨ acceptedChunks config events .initial = []
  nonempty : ∀ chunk ∈ audioChunks (items stream), chunk.pcmS16le ≠ []
  frames : config.expectedOutput.channels = 1 ∨ Whole config events →
    ∀ chunk ∈ audioChunks (items stream),
      config.expectedOutput.channels * 2 ∣ chunk.pcmS16le.length
  /-- The mark of the end is on the very last item. -/
  marked : ∀ before chunk after, stream = before ++ .ok (.audio chunk) :: after →
    chunk.endOfStream = true → after = []
  ended : (∃ chunk ∈ audioChunks (items stream), chunk.endOfStream = true) ↔
    ∃ before after, events = before ++ .ok .completed :: after ∧ Completes config before
  timing : ∀ before after, events = before ++ .ok .completed :: after → Completes config before →
    timings (items stream) = before.flatMap (timingOf config) ∧
      ((early before).flatMap (timingOf config)).map .ok <+: stream
  /-- Nothing follows an error. -/
  failed : ∀ before error after, stream = before ++ .error error :: after → after = []

variable {config : StreamConfig} {whole : Prop} {events : List Upstream}
  {accepted : List PcmChunk} {out : List SpeechStreamItem} {state : StreamState}

/-- What is yielded where a stream ends well. -/
theorem StreamState.Inv.completed (h : Inv config whole events accepted out state)
    {last : PcmChunk} (hlast : state.pendingAudio = some last) :
    audioChunks (out ++ state.closing last) =
        audioChunks out ++ [coreAudio last state.nextCoreSequence true] ∧
      pcm (out ++ state.closing last) = (accepted.map PcmChunk.data).flatten ∧
      timings (out ++ state.closing last) = events.flatMap (timingOf config) := by
  have htimed := h.emitted.timed
  unfold closing
  refine ⟨?_, ?_, ?_⟩
  · rw [audioChunks_append, audioChunks_append, audioChunks_timing htimed]
    rfl
  · rw [pcm_append, pcm_append, pcm_timing htimed, ← h.bytes, held, hlast]
    simp [pcm, audioChunks, SpeechStreamItem.chunk, coreAudio]
  · rw [timings_append, timings_append, timings_timing htimed, ← h.emitted.timing]
    simp [timings, SpeechStreamItem.isTiming]

/-- Audio waits only where some was accepted. -/
theorem StreamState.Inv.accepted_ne_nil (h : Inv config whole events accepted out state)
    {last : PcmChunk} (hlast : state.pendingAudio = some last) : accepted ≠ [] := by
  intro hempty
  have hbytes := h.bytes
  rw [hempty, held, hlast] at hbytes
  exact (h.pending last hlast).1 (List.append_eq_nil_iff.1 hbytes).2

theorem whole_of_mono (h : config.expectedOutput.channels = 1 ∨ Whole config events) :
    Whole config events := by
  rcases h with hmono | hwhole
  · intro chunk hchunk
    rw [hmono]
    exact even_acceptedChunks hchunk
  · exact hwhole

section

variable (hchannels : config.expectedOutput.channels ≠ 0)

include hchannels

/-- A stream that reaches `Completed` ends well. -/
theorem stream_completes {before rest : List Upstream} (h : Completes config before) :
    ∃ out state last,
      Inv config (Whole config (before ++ .ok .completed :: rest)) before
        (acceptedChunks config (before ++ .ok .completed :: rest) .initial) out state ∧
      state.pendingAudio = some last ∧
      validatedStream config (before ++ .ok .completed :: rest) =
        (out ++ state.closing last).map .ok := by
  obtain ⟨hreached, hsome, chunk, hchunk, hsound⟩ := h
  obtain ⟨next, hnext⟩ := Option.isSome_iff_exists.1 hreached
  have hstops : acceptedChunks config (.ok .completed :: rest) next = [] := by
    simp only [acceptedChunks, accepts, onEvent, onCompleted, Option.toList_none, List.nil_append]
    split
    · next heq =>
      split at heq
      · cases heq
      · split at heq <;> cases heq
    · rfl
  have haccepted : acceptedChunks config (before ++ .ok .completed :: rest) .initial =
      acceptedChunks config before .initial := by
    rw [acceptedChunks_append _ hnext, hstops, List.append_nil]
  have hwhole : AllWhole config (Whole config (before ++ .ok .completed :: rest))
      (acceptedChunks config before .initial) := fun hw => haccepted ▸ hw
  obtain ⟨out, hstream, hinv⟩ := streamFrom_after hchannels inv_initial hnext hwhole
  rw [List.nil_append, List.nil_append, List.nil_append, ← haccepted] at hinv
  have hsounds : next.hasNonSilentSample = true := by
    rw [hinv.sound, haccepted]
    exact List.any_eq_true.2 ⟨chunk, hchunk, hsound⟩
  cases hlast : next.pendingAudio with
  | none => exact absurd (haccepted ▸ hinv.nothing hlast) hsome
  | some last =>
    refine ⟨out, next, last, hinv, hlast, ?_⟩
    rw [validatedStream, hstream, List.map_append]
    simp only [streamFrom, onEvent, onCompleted, hlast, hsounds]
    rfl

/-- All timing is yielded in its order, and what came before any audio before it. -/
theorem completed_timing (h : Completes config before) :
    timings (items (validatedStream config (before ++ .ok .completed :: rest))) =
        before.flatMap (timingOf config) ∧
      ((early before).flatMap (timingOf config)).map .ok <+:
        validatedStream config (before ++ .ok .completed :: rest) := by
  obtain ⟨out, state, last, hinv, hlast, hstream⟩ := @stream_completes config hchannels _ rest h
  rw [hstream]
  refine ⟨?_, List.IsPrefix.map _ ?_⟩
  · rw [items_ok]
    exact (hinv.completed hlast).2.2
  · by_cases hstarted : state.audioStarted = true
    · exact (hinv.emitted.early hstarted).trans (List.prefix_append _ _)
    · -- Nothing was yielded before, so all the timing is first.
      have hwaits := hinv.emitted.timing
      rw [hinv.emitted.waiting (by simpa using hstarted)] at hwaits ⊢
      change state.pendingMetadata = _ at hwaits
      rw [List.nil_append, closing, hwaits]
      exact (early_initial config before).trans (List.prefix_append _ _)

/-- **A stream that ends well.** -/
theorem reframed_completed (h : Completes config before) :
    Reframed config (before ++ .ok .completed :: rest)
      (validatedStream config (before ++ .ok .completed :: rest)) := by
  obtain ⟨out, state, last, hinv, hlast, hstream⟩ := @stream_completes config hchannels _ rest h
  obtain ⟨hchunks, hpcm, htimings⟩ := hinv.completed hlast
  have he := hinv.emitted
  have hall : ∀ chunk ∈ audioChunks (out ++ state.closing last),
      Frames config (Whole config (before ++ .ok .completed :: rest)) chunk.pcmS16le := by
    rw [hchunks]
    intro chunk hchunk
    rcases List.mem_append.1 hchunk with hold | hnew
    · exact (he.chunks chunk hold).2
    · rw [List.mem_singleton.1 hnew]
      exact hinv.pending last hlast
  rw [hstream]
  have hnoerror : ∀ error : ProviderError,
      Except.error error ∉ (out ++ state.closing last).map Except.ok := by
    intro error herror
    obtain ⟨item, -, hitem⟩ := List.mem_map.1 herror
    cases hitem
  refine ⟨?_, ?_, ?_, ?_, ?_, ?_, ?_, ?_, ?_⟩
  · rw [items_ok, hchunks]
    exact he.numbered_snoc last true
  · rw [items_ok, hpcm]
    exact List.prefix_refl _
  · rw [items_ok, hpcm]
    exact ⟨fun _ => .inl hnoerror, fun _ => rfl⟩
  · rw [items_ok]
    exact fun chunk hchunk => (hall chunk hchunk).1
  · rw [items_ok]
    exact fun hwhole chunk hchunk => (hall chunk hchunk).2 (whole_of_mono hwhole)
  · intro first chunk after hsplit hmark
    rw [closing, ← List.append_assoc, List.map_append] at hsplit
    rcases last_or_mem hsplit with ⟨hafter, -⟩ | hmem
    · exact hafter
    · obtain ⟨item, hitem, hok⟩ := List.mem_map.1 hmem
      cases hok
      have hchunk : chunk ∈ audioChunks (out ++ state.pendingMetadata) :=
        List.mem_filterMap.2 ⟨_, hitem, rfl⟩
      rw [audioChunks_append, audioChunks_timing he.timed, List.append_nil] at hchunk
      rw [(he.chunks chunk hchunk).1] at hmark
      cases hmark
  · rw [items_ok, hchunks]
    exact ⟨fun _ => ⟨before, rest, rfl, h⟩,
      fun _ => ⟨_, List.mem_append_right _ (List.mem_singleton.2 rfl), rfl⟩⟩
  · intro first after hsplit hcompletes
    rw [← hstream, hsplit]
    exact completed_timing hchannels hcompletes
  · intro first error after hsplit
    exact absurd (hsplit ▸ List.mem_append_right _ List.mem_cons_self) (hnoerror error)

end

/-- **A stream that ends with an error.** -/
theorem reframed_failed {stream : List Yielded} {error : ProviderError} (hnot : ¬ ∃ before after,
      events = before ++ .ok .completed :: after ∧ Completes config before) (hinv : Inv config
      (Whole config events) before (acceptedChunks config events .initial) out state)
    (hstream : stream = out.map .ok ++ [.error error]) : Reframed config events stream := by
  have he := hinv.emitted
  have hitems : items stream = out := by
    rw [hstream, items_append, items_ok]
    exact List.append_nil out
  refine ⟨?_, ?_, ?_, ?_, ?_, ?_, ?_, ?_, ?_⟩
  · rw [hitems]
    exact he.numbered
  · rw [hitems, acceptedPcm, ← hinv.bytes]
    exact List.prefix_append _ _
  · have herror : Except.error error ∈ stream := by
      rw [hstream]
      exact List.mem_append_right _ (List.mem_singleton.2 rfl)
    rw [hitems, acceptedPcm, ← hinv.bytes]
    constructor
    · intro hall
      refine .inr (hinv.nothing ?_)
      have hheld : held state = [] := List.self_eq_append_right.1 hall
      by_contra hsome
      obtain ⟨chunk, hchunk⟩ := Option.ne_none_iff_exists'.1 hsome
      rw [held, hchunk] at hheld
      exact (hinv.pending chunk hchunk).1 hheld
    · intro h
      rcases h with hnone | hempty
      · exact absurd herror (hnone error)
      · have hbytes := hinv.bytes
        rw [hempty] at hbytes
        rw [(List.append_eq_nil_iff.1 hbytes).1, (List.append_eq_nil_iff.1 hbytes).2]
        rfl
  · rw [hitems]
    exact fun chunk hchunk => (he.chunks chunk hchunk).2.1
  · rw [hitems]
    exact fun hwhole chunk hchunk => (he.chunks chunk hchunk).2.2 (whole_of_mono hwhole)
  · intro first chunk after hsplit hmark
    rcases last_or_mem (hstream ▸ hsplit) with ⟨hafter, -⟩ | hmem
    · exact hafter
    · obtain ⟨item, hitem, hok⟩ := List.mem_map.1 hmem
      cases hok
      rw [(he.chunks chunk (List.mem_filterMap.2 ⟨_, hitem, rfl⟩)).1] at hmark
      cases hmark
  · rw [hitems]
    constructor
    · intro h
      obtain ⟨chunk, hchunk, hmark⟩ := h
      rw [(he.chunks chunk hchunk).1] at hmark
      cases hmark
    · intro h
      exact absurd h hnot
  · intro first after hsplit hcompletes
    exact absurd ⟨first, after, hsplit, hcompletes⟩ hnot
  · intro first final after hsplit
    rcases last_or_mem (hstream ▸ hsplit) with ⟨hafter, -⟩ | hmem
    · exact hafter
    · obtain ⟨item, -, hok⟩ := List.mem_map.1 hmem
      cases hok

/-- **The bridge cuts and joins audio, and loses none.** -/
theorem validatedStream_reframed (config : StreamConfig) (events : List Upstream)
    (hchannels : config.expectedOutput.channels = 1 ∨ config.expectedOutput.channels = 2) :
    Reframed config events (validatedStream config events) := by
  have hsome : config.expectedOutput.channels ≠ 0 := by omega
  by_cases hcompletes : ∃ before after,
      events = before ++ .ok .completed :: after ∧ Completes config before
  · obtain ⟨before, after, rfl, hbefore⟩ := hcompletes
    exact reframed_completed hsome hbefore
  · obtain ⟨before, ended, yielded, next, ending, hevents, hafter, hstream, hinv, haccepted,
      hending⟩ := streamFrom_ending hsome events inv_initial (fun hw => hw :
        AllWhole config (Whole config events) (acceptedChunks config events .initial))
    rw [List.nil_append, List.nil_append, List.nil_append, ← haccepted] at hinv
    cases hending with
    | exhausted => exact reframed_failed hcompletes hinv hstream
    | failed event rest error hevent haccepts => exact reframed_failed hcompletes hinv hstream
    | completed rest last hlast hsound =>
      refine absurd ⟨before, rest, hevents, ?_, ?_, ?_⟩ hcompletes
      · rw [hafter]
        rfl
      · rw [← haccepted]
        exact hinv.accepted_ne_nil hlast
      · rw [hinv.sound, haccepted] at hsound
        exact List.any_eq_true.1 hsound

/-- **An empty stream loses nothing and ends with an error.** -/
theorem empty_stream_fails : ¬ ∀ (config : StreamConfig) (events : List Upstream),
    config.expectedOutput.channels = 1 →
    (pcm (items (validatedStream config events)) = acceptedPcm config events ↔
      ∀ error, .error error ∉ validatedStream config events) := by
  intro h
  have hnone := (h ⟨"provider", "model", ⟨.pcmS16Le, 24000, 1⟩⟩ [.ok .completed] rfl).1 rfl
  exact hnone _ (List.mem_singleton.2 rfl)

/-- Timing, then two frames in two chunks. -/
theorem validatedStream_reframed_example :
    Reframed ⟨"provider", "model", ⟨.pcmS16Le, 24000, 1⟩⟩
      [.ok (.viseme [⟨.phoneme, "a", 0, 20⟩]),
        .ok (.audio ⟨0, ⟨.pcmS16Le, 24000, 1⟩, [1, 0]⟩),
        .ok (.audio ⟨1, ⟨.pcmS16Le, 24000, 1⟩, [2, 0, 3, 0]⟩), .ok .completed]
      [.ok (visemeItem ⟨"provider", "model", ⟨.pcmS16Le, 24000, 1⟩⟩ ⟨.phoneme, "a", 0, 20⟩),
        .ok (.audio ⟨1, 24000, 1, [1, 0], false⟩), .ok (.audio ⟨2, 24000, 1, [2, 0], false⟩),
        .ok (.audio ⟨3, 24000, 1, [3, 0], true⟩)] :=
  validatedStream_reframed ⟨"provider", "model", ⟨.pcmS16Le, 24000, 1⟩⟩
    [.ok (.viseme [⟨.phoneme, "a", 0, 20⟩]),
      .ok (.audio ⟨0, ⟨.pcmS16Le, 24000, 1⟩, [1, 0]⟩),
      .ok (.audio ⟨1, ⟨.pcmS16Le, 24000, 1⟩, [2, 0, 3, 0]⟩), .ok .completed] (.inl rfl)

end NpcRuntime.Speech
