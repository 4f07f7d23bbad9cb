import NpcRuntime.Sentence.Boundary

/-!
# Spans partition the stream

What the segmenter is for: it tiles the text with spans and blanks (`Tiles`). From a tiling
follows everything the callers rely on (`Partitions`): exact byte ranges, trimmed texts, IDs that
count up, disjoint spans in order, and every character that is no whitespace in exactly one span.

Every step of the extraction loop extends the tiling by one cut, as long as the cut holds a
character that is no whitespace. A blank cut makes the slice `raw_sentence[leading..trimmed_end]`
run backwards, and the call panics. A stream is partitioned exactly when no buffer that a push
scans is of a kind that cuts off a blank (`spans_partition_iff`).
-/

namespace NpcRuntime.Sentence

open Text

variable {cfg : SentenceSegmenterConfig} {s : SentenceSegmenter}

/-! ## The buffers a stream scans -/

/-- The buffers that one `push_spans` scans, and the buffer it leaves. -/
def scanned (cfg : SentenceSegmenterConfig) : Nat → Text → List Text × Text
  | 0, buffer => ([], buffer)
  | fuel + 1, buffer =>
    match findBoundary cfg buffer false with
    | none => ([buffer], buffer)
    | some boundary =>
      if isBlank (buffer.drop boundary) then ([buffer], [])
      else
        let more := scanned cfg fuel (buffer.drop boundary)
        (buffer :: more.1, more.2)

/-- The buffers that a stream scans, each with the text that has not arrived yet. -/
def scans (cfg : SentenceSegmenterConfig) : List Text → Text → List (Text × Text)
  | [], _ => []
  | delta :: deltas, buffer =>
    let pushed := scanned cfg ((buffer ++ delta).length + 1) (buffer ++ delta)
    pushed.1.map (fun buffer => (buffer, deltas.flatten)) ++ scans cfg deltas pushed.2

theorem mem_scanned (fuel : Nat) (buffer : Text) : buffer ∈ (scanned cfg (fuel + 1) buffer).1 := by
  simp only [scanned]
  split
  · exact List.mem_singleton_self _
  · split_ifs
    · exact List.mem_singleton_self _
    · exact List.mem_cons_self

/-! ## One cut -/

variable {boundary : Nat}

/-- Whether a buffer with a boundary is of a kind that cuts off a blank shows in the cut. -/
theorem isBlank_cut (hvalid : cfg.Valid) {buffer : Text}
    (hfind : findBoundary cfg buffer false = some boundary) :
    isBlank (buffer.take boundary) = true ↔ CutsBlank cfg buffer := by
  rw [← cutsBlank_iff hvalid]
  constructor
  · intro hblank
    exact ⟨boundary, hfind, hblank⟩
  · rintro ⟨other, hother, hblank⟩
    rw [hfind] at hother
    cases hother
    exact hblank

/-- A buffer without a boundary is of no such kind. -/
theorem not_cutsBlank (hvalid : cfg.Valid) {buffer : Text}
    (hfind : findBoundary cfg buffer false = none) : ¬ CutsBlank cfg buffer := by
  intro hcuts
  obtain ⟨boundary, hsome, -⟩ := (cutsBlank_iff hvalid).2 hcuts
  rw [hfind] at hsome
  cases hsome

/-- A blank cut slices backwards. -/
theorem cutSentence_blank (hpos : 0 < boundary) (hle : boundary ≤ s.buffer.length)
    (hblank : isBlank (s.buffer.take boundary) = true) :
    cutSentence s boundary = .error .panic := by
  have hall := isBlank_iff.1 hblank
  have hstart : trimStart (s.buffer.take boundary) = [] := List.dropWhile_eq_nil_iff.2 hall
  have hend : trimEnd (s.buffer.take boundary) = [] := (List.rdropWhile_eq_nil_iff).2 hall
  have hne : s.buffer.take boundary ≠ [] := by
    rw [← List.length_pos_iff_ne_nil, List.length_take]
    omega
  have hlen := utf8Len_pos hne
  simp only [cutSentence]
  rw [hstart, hend, slice_reversed (by simpa using hlen)]

/-- Any other cut emits the trimmed text. -/
theorem cutSentence_trimmed {lead core trail : Text}
    (hraw : s.buffer.take boundary = lead ++ core ++ trail) (hlead : isBlank lead = true)
    (hcore : Trimmed core) (htrail : isBlank trail = true) :
    cutSentence s boundary =
      .ok (⟨s.buffer.drop boundary, s.bufferSourceStart + utf8Len (lead ++ core ++ trail),
          s.nextSentenceId + 1⟩,
        [⟨s.nextSentenceId, s.bufferSourceStart + utf8Len lead,
          s.bufferSourceStart + utf8Len lead + utf8Len core, core⟩]) := by
  have hstart : trimStart (lead ++ core ++ trail) = core ++ trail := by
    rw [List.append_assoc]
    apply trimStart_append hlead
    obtain ⟨c, rest, rfl, hc⟩ := hcore.first
    exact ⟨c, rest ++ trail, rfl, hc⟩
  have hend : trimEnd (lead ++ core ++ trail) = lead ++ core := by
    apply trimEnd_append htrail
    obtain ⟨c, rest, hrest, hc⟩ := hcore.last
    exact ⟨c, lead ++ rest, by rw [hrest, List.append_assoc], hc⟩
  have hleading : utf8Len (lead ++ core ++ trail) - utf8Len (core ++ trail) = utf8Len lead := by
    simp only [utf8Len_append]
    omega
  simp only [cutSentence]
  rw [hraw, hstart, hend, hleading, utf8Len_append lead core, slice_append]
  dsimp only
  rw [if_neg hcore.ne_nil, ← Nat.add_assoc]

/-! ## Tilings -/

/-- The text is read off from left to right as blanks and trimmed spans, numbered from one. -/
inductive Tiles : Text → List SentenceSpan → Prop
  | nil : Tiles [] []
  | blank {t spaces : Text} {spans : List SentenceSpan} :
      Tiles t spans → isBlank spaces = true → Tiles (t ++ spaces) spans
  | span {t core : Text} {spans : List SentenceSpan} :
      Tiles t spans → Trimmed core →
      Tiles (t ++ core) (spans ++ [⟨spans.length + 1, utf8Len t, utf8Len t + utf8Len core, core⟩])

/-- What the callers of the segmenter rely on. -/
structure Partitions (text : Text) (spans : List SentenceSpan) : Prop where
  exact : ∀ span ∈ spans, slice text span.textStartBytes span.textEndBytes = some span.text
  trimmed : ∀ span ∈ spans, Trimmed span.text
  numbered : spans.map (·.sentenceId) = List.range' 1 spans.length
  ordered : spans.Pairwise fun a b => a.textEndBytes ≤ b.textStartBytes
  covered : ∀ i c, text[i]? = some c → isWhitespace c = false → ∃! span, span ∈ spans ∧
    span.textStartBytes ≤ utf8Len (text.take i) ∧ utf8Len (text.take (i + 1)) ≤ span.textEndBytes

section Tiles

variable {t : Text} {spans : List SentenceSpan} (h : Tiles t spans)

include h

/-- A span is a piece of the text. -/
theorem Tiles.piece {span : SentenceSpan} (hs : span ∈ spans) :
    ∃ before after, t = before ++ span.text ++ after ∧ span.textStartBytes = utf8Len before ∧
      span.textEndBytes = utf8Len before + utf8Len span.text := by
  induction h with
  | nil => cases hs
  | @blank t spaces spans _ _ ih =>
    obtain ⟨before, after, ht, hstart, hend⟩ := ih hs
    exact ⟨before, after ++ spaces, by rw [ht, List.append_assoc], hstart, hend⟩
  | @span t core spans _ _ ih =>
    rcases List.mem_append.1 hs with hold | hnew
    · obtain ⟨before, after, ht, hstart, hend⟩ := ih hold
      exact ⟨before, after ++ core, by rw [ht, List.append_assoc], hstart, hend⟩
    · rw [List.mem_singleton.1 hnew]
      exact ⟨t, [], by simp, rfl, rfl⟩

theorem Tiles.end_le {span : SentenceSpan} (hs : span ∈ spans) : span.textEndBytes ≤ utf8Len t := by
  obtain ⟨before, after, rfl, -, hend⟩ := h.piece hs
  simp only [utf8Len_append]
  omega

theorem Tiles.trimmed : ∀ span ∈ spans, Trimmed span.text := by
  induction h with
  | nil => exact fun span hs => by cases hs
  | blank _ _ ih => exact ih
  | span _ hcore ih =>
    intro span hs
    rcases List.mem_append.1 hs with hold | hnew
    · exact ih span hold
    · rw [List.mem_singleton.1 hnew]
      exact hcore

theorem Tiles.numbered : spans.map (·.sentenceId) = List.range' 1 spans.length := by
  induction h with
  | nil => rfl
  | blank _ _ ih => exact ih
  | span _ _ ih =>
    rw [List.map_append, ih, List.length_append, List.length_singleton, List.range'_concat]
    simp [Nat.add_comm]

theorem Tiles.ordered : spans.Pairwise fun a b => a.textEndBytes ≤ b.textStartBytes := by
  induction h with
  | nil => exact List.Pairwise.nil
  | blank _ _ ih => exact ih
  | span ht _ ih =>
    refine List.pairwise_append.2 ⟨ih, List.pairwise_singleton _ _, ?_⟩
    intro a ha b hb
    rw [List.mem_singleton.1 hb]
    exact ht.end_le ha

/-- A character that is no whitespace is in exactly one span. -/
theorem Tiles.covered {i : Nat} {c : Char} (hi : t[i]? = some c) (hc : isWhitespace c = false) :
    ∃! span, span ∈ spans ∧
      span.textStartBytes ≤ utf8Len (t.take i) ∧ utf8Len (t.take (i + 1)) ≤ span.textEndBytes := by
  induction h with
  | nil => cases hi
  | @blank t spaces spans _ hspaces ih =>
    rcases Nat.lt_or_ge i t.length with hlt | hge
    · rw [List.getElem?_append_left hlt] at hi
      rw [List.take_append_of_le_length hlt.le, List.take_append_of_le_length hlt]
      exact ih hi
    · rw [List.getElem?_append_right hge] at hi
      rw [isBlank_iff.1 hspaces c (List.mem_of_getElem? hi)] at hc
      cases hc
  | @span t core spans ht hcore ih =>
    rcases Nat.lt_or_ge i t.length with hlt | hge
    · -- The character is in the old text, which ends where the new span starts.
      rw [List.getElem?_append_left hlt] at hi
      rw [List.take_append_of_le_length hlt.le, List.take_append_of_le_length hlt]
      obtain ⟨span, ⟨hmem, hcover⟩, hunique⟩ := ih hi
      refine ⟨span, ⟨List.mem_append_left _ hmem, hcover⟩, ?_⟩
      rintro other ⟨hother, hstart, hend⟩
      rcases List.mem_append.1 hother with hold | hnew
      · exact hunique other ⟨hold, hstart, hend⟩
      · rw [List.mem_singleton.1 hnew] at hstart
        have h₁ := utf8Len_take_lt hlt
        have h₂ := utf8Len_take_le t (i + 1)
        dsimp only at hstart
        omega
    · -- The character is in the new span, and the old ones end before it.
      have htake : ∀ n, t.length ≤ n → utf8Len ((t ++ core).take n) =
          utf8Len t + utf8Len (core.take (n - t.length)) := by
        intro n hn
        rw [List.take_append, List.take_of_length_le hn, utf8Len_append]
      have hbound : i < (t ++ core).length := (List.getElem?_eq_some_iff.1 hi).1
      have hstep := utf8Len_take_lt hbound
      have hle := utf8Len_take_le (t ++ core) (i + 1)
      rw [utf8Len_append] at hle
      have hfrom := htake i hge
      refine ⟨_, ⟨List.mem_append_right _ List.mem_cons_self, ?_, hle⟩, ?_⟩
      · dsimp only
        omega
      · rintro other ⟨hother, -, hend⟩
        rcases List.mem_append.1 hother with hold | hnew
        · have := ht.end_le hold
          omega
        · exact List.mem_singleton.1 hnew

/-- A tiling partitions the text. -/
theorem Tiles.partitions : Partitions t spans where
  exact := by
    intro span hs
    obtain ⟨before, after, rfl, hstart, hend⟩ := h.piece hs
    rw [hstart, hend]
    exact slice_append before span.text after
  trimmed := h.trimmed
  numbered := h.numbered
  ordered := h.ordered
  covered := fun _ _ hi hc => h.covered hi hc

end Tiles

/-! ## Runs tile the text -/

/-- The spans so far tile the text up to the buffer. -/
def Progress (text : Text) (s : SentenceSegmenter) (spans : List SentenceSpan) : Prop :=
  ∃ consumed, text = consumed ++ s.buffer ∧ s.bufferSourceStart = utf8Len consumed ∧
    s.nextSentenceId = spans.length + 1 ∧ Tiles consumed spans

section Progress

variable {text : Text} {spans : List SentenceSpan}

theorem Progress.push (h : Progress text s spans) (delta : Text) :
    Progress (text ++ delta) { s with buffer := s.buffer ++ delta } spans := by
  obtain ⟨consumed, rfl, hrest⟩ := h
  exact ⟨consumed, List.append_assoc _ _ _, hrest⟩

theorem Progress.discard (h : Progress text s spans) (hblank : isBlank s.buffer = true) :
    Progress text (discardBuffer s) spans := by
  obtain ⟨consumed, rfl, hstart, hid, htiles⟩ := h
  refine ⟨consumed ++ s.buffer, (List.append_nil _).symm, ?_, hid, htiles.blank hblank⟩
  rw [utf8Len_append, ← hstart]
  rfl

/-- A cut that is not blank emits one span and extends the tiling by it. -/
theorem cutSentence_ok (hcut : isBlank (s.buffer.take boundary) = false) :
    ∃ s' span, cutSentence s boundary = .ok (s', [span]) ∧ s'.buffer = s.buffer.drop boundary ∧
      ∀ text spans, Progress text s spans → Progress text s' (spans ++ [span]) := by
  obtain ⟨lead, core, trail, hraw, hlead, hcore, htrail⟩ := exists_trimmed hcut
  refine ⟨_, _, cutSentence_trimmed hraw hlead hcore htrail, rfl, ?_⟩
  rintro text spans ⟨consumed, rfl, hstart, hid, htiles⟩
  have hnext := ((htiles.blank hlead).span hcore).blank htrail
  have hbytes : utf8Len consumed + utf8Len lead = utf8Len (consumed ++ lead) := by
    rw [utf8Len_append]
  rw [hstart, hid, hbytes]
  refine ⟨consumed ++ lead ++ core ++ trail, ?_, ?_, ?_, hnext⟩
  · conv_lhs => rw [← List.take_append_drop boundary s.buffer, hraw]
    simp only [List.append_assoc]
  · simp only [utf8Len_append]
    omega
  · rw [List.length_append, List.length_singleton]

/-- The extraction loop of a push: it panics at the first buffer of a kind that cuts off a blank,
and otherwise extends the tiling. -/
theorem extractLoop_cases (hvalid : cfg.Valid) {fuel : Nat} (hfuel : s.buffer.length < fuel) :
    ((∃ buffer ∈ (scanned cfg fuel s.buffer).1, CutsBlank cfg buffer) ∧
      extractLoop cfg false fuel s = .error .panic) ∨
    ((∀ buffer ∈ (scanned cfg fuel s.buffer).1, ¬ CutsBlank cfg buffer) ∧
      ∃ s' emitted, extractLoop cfg false fuel s = .ok (s', emitted) ∧
        s'.buffer = (scanned cfg fuel s.buffer).2 ∧
        ∀ text spans, Progress text s spans → Progress text s' (spans ++ emitted)) := by
  induction fuel generalizing s with
  | zero => exact absurd hfuel (Nat.not_lt_zero _)
  | succ fuel ih =>
    have hhead := @mem_scanned cfg fuel s.buffer
    simp only [scanned, extractLoop] at hhead ⊢
    cases hfind : findBoundary cfg s.buffer false with
    | none =>
      refine .inr ⟨?_, s, [], rfl, rfl, fun text spans hp => by rwa [List.append_nil]⟩
      intro buffer hmem
      obtain rfl := List.mem_singleton.1 hmem
      exact not_cutsBlank hvalid hfind
    | some boundary =>
      obtain ⟨hpos, hle⟩ := findBoundary_bounds hfind
      rw [hfind] at hhead
      dsimp only at hhead ⊢
      cases hcut : isBlank (s.buffer.take boundary) with
      | true =>
        refine .inl ⟨⟨s.buffer, hhead, (isBlank_cut hvalid hfind).1 hcut⟩, ?_⟩
        rw [cutSentence_blank hpos hle hcut]
        rfl
      | false =>
        have hnot : ¬ CutsBlank cfg s.buffer := by
          rw [← isBlank_cut hvalid hfind, hcut]
          exact Bool.false_ne_true
        obtain ⟨s', span, hok, hbuffer, hprogress⟩ := cutSentence_ok hcut
        rw [hok, ← hbuffer]
        simp only [bind, Except.bind, pure, Except.pure]
        cases hblank : isBlank s'.buffer with
        | true =>
          refine .inr ⟨?_, _, _, rfl, rfl, ?_⟩
          · intro buffer hmem
            rw [if_pos rfl] at hmem
            obtain rfl := List.mem_singleton.1 hmem
            exact hnot
          · intro text spans hp
            exact (hprogress text spans hp).discard hblank
        | false =>
          rw [if_neg Bool.false_ne_true, if_neg Bool.false_ne_true]
          have hshorter : s'.buffer.length < fuel := by
            rw [hbuffer, List.length_drop]
            omega
          rcases ih hshorter with ⟨⟨buffer, hmem, hcuts⟩, herr⟩ |
            ⟨hclean, s'', more, hmore, hkept, hrun⟩
          · rw [herr]
            exact .inl ⟨⟨buffer, List.mem_cons_of_mem _ hmem, hcuts⟩, rfl⟩
          · rw [hmore]
            refine .inr ⟨?_, s'', _, rfl, hkept, ?_⟩
            · intro buffer hmem
              rcases List.mem_cons.1 hmem with rfl | hmem
              · exact hnot
              · exact hclean buffer hmem
            · intro text spans hp
              rw [← List.append_assoc]
              exact hrun text _ (hprogress text spans hp)

/-- `finish_spans` emits what is left. -/
theorem finishSpans_ok (h : Progress text s spans) :
    ∃ s' emitted, finishSpans cfg s = .ok (s', emitted) ∧ Tiles text (spans ++ emitted) := by
  unfold finishSpans extract extractLoop findBoundary
  rw [if_pos rfl]
  cases hblank : isBlank s.buffer with
  | true =>
    obtain ⟨consumed, rfl, -, -, htiles⟩ := h
    refine ⟨s, [], rfl, ?_⟩
    rw [List.append_nil]
    exact htiles.blank hblank
  | false =>
    have hcut : isBlank (s.buffer.take s.buffer.length) = false := by rwa [List.take_length]
    obtain ⟨s', span, hok, hbuffer, hprogress⟩ := cutSentence_ok hcut
    rw [List.drop_length] at hbuffer
    obtain ⟨consumed, htext, -, -, htiles⟩ := hprogress text spans h
    rw [hbuffer, List.append_nil] at htext
    refine ⟨discardBuffer s', [span], ?_, htext ▸ htiles⟩
    rw [if_neg Bool.false_ne_true]
    dsimp only
    rw [hok]
    simp only [bind, Except.bind, hbuffer]
    rfl

/-- A stream from any state on. -/
theorem segmentFrom_cases (hvalid : cfg.Valid) (deltas : List Text) (h : Progress text s spans) :
    ((∃ scan ∈ scans cfg deltas s.buffer, CutsBlank cfg scan.1) ∧
      segmentFrom cfg deltas s = .error .panic) ∨
    ((∀ scan ∈ scans cfg deltas s.buffer, ¬ CutsBlank cfg scan.1) ∧
      ∃ emitted, segmentFrom cfg deltas s = .ok emitted ∧
        Tiles (text ++ deltas.flatten) (spans ++ emitted)) := by
  induction deltas generalizing s text spans with
  | nil =>
    obtain ⟨s', emitted, hok, htiles⟩ := @finishSpans_ok cfg s text spans h
    refine .inr ⟨fun scan hmem => (by cases hmem), emitted, ?_, by simpa using htiles⟩
    rw [segmentFrom, hok]
    rfl
  | cons delta deltas ih =>
    have hpush := h.push delta
    have hloop := @extractLoop_cases cfg { s with buffer := s.buffer ++ delta } hvalid _
      (Nat.lt_succ_self _)
    rw [segmentFrom, pushSpans, extract]
    simp only [scans]
    rcases hloop with ⟨⟨buffer, hmem, hcuts⟩, herr⟩ | ⟨hclean, s', emitted, hok, hkept, hrun⟩
    · refine .inl ⟨⟨(buffer, deltas.flatten), ?_, hcuts⟩, ?_⟩
      · exact List.mem_append_left _ (List.mem_map_of_mem hmem)
      · rw [herr]
        rfl
    · have hhead : ∀ scan ∈ (scanned cfg ((s.buffer ++ delta).length + 1) (s.buffer ++ delta)).1.map
          (fun buffer => (buffer, deltas.flatten)), ¬ CutsBlank cfg scan.1 := by
        intro scan hscan
        obtain ⟨buffer, hmem, rfl⟩ := List.mem_map.1 hscan
        exact hclean buffer hmem
      rw [← hkept, hok]
      rcases ih (hrun _ _ hpush) with ⟨⟨scan, hmem, hcuts⟩, herr⟩ | ⟨htail, more, hmore, htiles⟩
      · refine .inl ⟨⟨scan, List.mem_append_right _ hmem, hcuts⟩, ?_⟩
        simp only [bind, Except.bind, herr]
      · refine .inr ⟨?_, emitted ++ more, ?_, ?_⟩
        · intro scan hmem
          rcases List.mem_append.1 hmem with hmem | hmem
          · exact hhead scan hmem
          · exact htail scan hmem
        · simp only [bind, Except.bind, hmore]
          rfl
        · simpa [List.append_assoc] using htiles

end Progress

theorem Progress.start : Progress [] {} [] := ⟨[], rfl, rfl, rfl, Tiles.nil⟩

/-- A stream panics, or its spans partition the text. -/
theorem segment_cases (hvalid : cfg.Valid) (deltas : List Text) :
    ((∃ scan ∈ scans cfg deltas [], CutsBlank cfg scan.1) ∧ segment cfg deltas = .error .panic) ∨
    ((∀ scan ∈ scans cfg deltas [], ¬ CutsBlank cfg scan.1) ∧
      ∃ spans, segment cfg deltas = .ok spans ∧ Partitions deltas.flatten spans) := by
  rcases segmentFrom_cases hvalid deltas Progress.start with hpanic | ⟨hclean, spans, hok, htiles⟩
  · exact .inl hpanic
  · exact .inr ⟨hclean, spans, hok, htiles.partitions⟩

theorem segment_partitions (hvalid : cfg.Valid) {deltas : List Text} {spans : List SentenceSpan}
    (hok : segment cfg deltas = .ok spans) : Partitions deltas.flatten spans := by
  rcases segment_cases hvalid deltas with ⟨-, herror⟩ | ⟨-, emitted, hemitted, hparts⟩
  · rw [herror] at hok
    cases hok
  · rw [hemitted] at hok
    cases hok
    exact hparts

theorem segment_ok_iff (hvalid : cfg.Valid) (deltas : List Text) :
    (∃ spans, segment cfg deltas = .ok spans) ↔
      ∀ scan ∈ scans cfg deltas [], ¬ CutsBlank cfg scan.1 := by
  rcases segment_cases hvalid deltas with
    ⟨⟨scan, hmem, hcuts⟩, herror⟩ | ⟨hclean, spans, hok, -⟩
  · rw [herror]
    exact ⟨by simp, fun hclean => absurd hcuts (hclean scan hmem)⟩
  · exact ⟨fun _ => hclean, fun _ => ⟨spans, hok⟩⟩

/-- **Every stream terminates, and its spans partition the text exactly when no push scans a
buffer that cuts off a blank.** -/
theorem spans_partition_iff (hvalid : cfg.Valid) (deltas : List Text) :
    segment cfg deltas ≠ .error .outOfFuel ∧
      ((∃ spans, segment cfg deltas = .ok spans ∧ Partitions deltas.flatten spans) ↔
        ∀ scan ∈ scans cfg deltas [], ¬ CutsBlank cfg scan.1) := by
  constructor
  · rcases segment_cases hvalid deltas with ⟨-, herror⟩ | ⟨-, spans, hok, -⟩
    · rw [herror]
      simp
    · rw [hok]
      simp
  · rw [← segment_ok_iff hvalid]
    constructor
    · rintro ⟨spans, hok, -⟩
      exact ⟨spans, hok⟩
    · rintro ⟨spans, hok⟩
      exact ⟨spans, hok, segment_partitions hvalid hok⟩

/-- The stream of `segments_across_stream_chunks`. -/
def Sample.twoSentences : List Text :=
  ["This is a complete sent".toList, "ence. Here is another one!".toList]

theorem spans_partition_iff_twoSentences :
    ({} : SentenceSegmenterConfig).Valid ∧
      ∃ spans, segment {} Sample.twoSentences = .ok spans ∧
        Partitions Sample.twoSentences.flatten spans :=
  have hvalid := SentenceSegmenterConfig.default_valid
  ⟨hvalid, (spans_partition_iff hvalid Sample.twoSentences).2.2 (by decide +kernel)⟩

/-- A blank line of eighteen characters: the cut at its newline slices `18..0`. -/
theorem blank_line_panics :
    ({} : SentenceSegmenterConfig).Valid ∧
      segment {} [List.replicate 17 ' ' ++ ['\n']] = .error .panic ∧
      ¬ ∃ spans, segment {} [List.replicate 17 ' ' ++ ['\n']] = .ok spans ∧
        Partitions [List.replicate 17 ' ' ++ ['\n']].flatten spans := by
  have hpanic : segment {} [List.replicate 17 ' ' ++ ['\n']] = .error .panic := by decide +kernel
  refine ⟨SentenceSegmenterConfig.default_valid, hpanic, ?_⟩
  rintro ⟨spans, hok, -⟩
  rw [hpanic] at hok
  cases hok

end NpcRuntime.Sentence
