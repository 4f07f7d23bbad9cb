import NpcRuntime.Sentence.Partition
import NpcRuntime.Response.Delivery

/-!
# Committing what the segmenter releases

A `SentenceSpan` carries the byte range that delivery and memory code commits. The tracker takes a
range only when both its ends are semantic boundaries: the ends of the text, or a position next to
whitespace or punctuation. The segmenter cuts by its own rules, and two kinds of buffer break the
agreement: one whose leading whitespace is cut off on its own (the call panics), and one that
starts with a word longer than the hard limit, which is cut inside (`CutsWord`). Without these
every released span is recorded (`released_spans_commit_iff`).
-/

namespace NpcRuntime.Response

open Text Sentence DeliveredSpanTracker

variable {cfg : SentenceSegmenterConfig} {s : SentenceSegmenter}

/-! ## Clean splits -/

/-- The tracker accepts the position between the two texts. -/
def CleanSplit (before after : Text) : Prop :=
  before = [] ∨ after = [] ∨ before.getLast?.any isWordBoundaryChar = true ∨
    after.head?.any isWordBoundaryChar = true

theorem isSemanticBoundary_append {before after : Text} :
    isSemanticBoundary (before ++ after) (utf8Len before) = true ↔ CleanSplit before after := by
  have hempty : ∀ t : Text, utf8Len t = 0 ↔ t = [] := by
    intro t
    refine ⟨fun h => ?_, by rintro rfl; rfl⟩
    by_contra hne
    have := utf8Len_pos hne
    omega
  simp only [isSemanticBoundary, splitAtByte_append, CleanSplit, ← hempty]
  simp [or_assoc]

theorem isWordBoundaryChar_whitespace {ch : Char} (h : isWhitespace ch = true) :
    isWordBoundaryChar ch = true := by
  simp [isWordBoundaryChar, h]

theorem isWordBoundaryChar_softMark {ch : Char} (h : isSoftMark ch = true) :
    isWordBoundaryChar ch = true := by
  simp only [isSoftMark, Bool.or_eq_true, beq_iff_eq] at h
  rcases h with ((rfl | rfl) | rfl) | rfl <;> decide

/-- A blank may stand on either side of the split. -/
theorem cleanSplit_blank {before blank after : Text} (hblank : isBlank blank = true) :
    CleanSplit (before ++ blank) after ↔ CleanSplit before (blank ++ after) := by
  cases blank using List.reverseRecOn with
  | nil => simp
  | append_singleton blank ch =>
    have hspace := isBlank_iff.1 hblank
    have hleft : CleanSplit (before ++ (blank ++ [ch])) after := by
      refine .inr (.inr (.inl ?_))
      rw [← List.append_assoc, List.getLast?_concat]
      exact isWordBoundaryChar_whitespace (hspace ch (by simp))
    have hright : CleanSplit before (blank ++ [ch] ++ after) := by
      refine .inr (.inr (.inr ?_))
      cases blank with
      | nil => exact isWordBoundaryChar_whitespace (hspace ch (by simp))
      | cons c blank => exact isWordBoundaryChar_whitespace (hspace c (by simp))
    exact ⟨fun _ => hright, fun _ => hleft⟩

/-! ## Cuts inside a word -/

/-- The kind of buffer that is cut inside a word: up to the hard limit there is no whitespace, no
soft mark and no sentence mark that cuts, and neither of the characters around the limit is a word
boundary. -/
def CutsWord (cfg : SentenceSegmenterConfig) (buffer : Text) : Prop :=
  (∀ i < cfg.hardLimitChars, goesOn cfg buffer i = true) ∧
    buffer[cfg.hardLimitChars - 1]?.any (fun ch => !isWordBoundaryChar ch) = true ∧
    buffer[cfg.hardLimitChars]?.any (fun ch => !isWordBoundaryChar ch) = true

instance (cfg : SentenceSegmenterConfig) (buffer : Text) : Decidable (CutsWord cfg buffer) := by
  unfold CutsWord; infer_instance

variable {buffer : Text} {boundary : Nat}

theorem cleanSplit_cut (hpos : 0 < boundary) (hle : boundary ≤ buffer.length) :
    CleanSplit (buffer.take boundary) (buffer.drop boundary) ↔ boundary = buffer.length ∨
      buffer[boundary - 1]?.any isWordBoundaryChar = true ∨
      buffer[boundary]?.any isWordBoundaryChar = true := by
  have hbefore : buffer.take boundary ≠ [] := by
    rw [← List.length_pos_iff_ne_nil, List.length_take]
    omega
  have hafter : buffer.drop boundary = [] ↔ boundary = buffer.length := by
    rw [List.drop_eq_nil_iff]
    omega
  have hlast : (buffer.take boundary).getLast? = buffer[boundary - 1]? := by
    rw [List.getLast?_eq_getElem?, List.length_take, Nat.min_eq_left hle,
      List.getElem?_take_of_lt (by omega)]
  rw [CleanSplit, hafter, hlast, List.head?_drop]
  simp [hbefore]

/-- Whitespace that is consumed stands before the cut. -/
theorem consumeWhitespace_space {pos : Nat}
    (hspace : 0 < ((buffer.drop pos).takeWhile isWhitespace).length) :
    buffer[consumeWhitespace buffer pos - 1]?.any isWordBoundaryChar = true := by
  obtain ⟨c, hc, hwhite⟩ := getElem?_lead (Nat.sub_lt hspace Nat.one_pos)
  rw [List.getElem?_drop] at hc
  have hindex : consumeWhitespace buffer pos - 1 =
      pos + (((buffer.drop pos).takeWhile isWhitespace).length - 1) := by
    rw [consumeWhitespace]
    omega
  rw [hindex, hc]
  exact isWordBoundaryChar_whitespace hwhite

/-- Otherwise the cut follows the character before it. -/
theorem consumeWhitespace_char {pos : Nat} {ch : Char} (hch : buffer[pos - 1]? = some ch)
    (hboundary : isWordBoundaryChar ch = true) :
    buffer[consumeWhitespace buffer pos - 1]?.any isWordBoundaryChar = true := by
  rcases Nat.eq_zero_or_pos ((buffer.drop pos).takeWhile isWhitespace).length with hnone | hsome
  · rw [consumeWhitespace, hnone, Nat.add_zero, hch]
    exact hboundary
  · exact consumeWhitespace_space hsome

/-- A cut after a newline or a sentence mark follows whitespace. -/
theorem markBoundary_char {i boundary : Nat} {ch : Char} {previous : Option Char}
    (hch : buffer[i]? = some ch) (h : markBoundary cfg buffer i ch previous = some boundary) :
    buffer[boundary - 1]?.any isWordBoundaryChar = true := by
  unfold markBoundary at h
  split_ifs at h with hnewline hends
  · cases h
    rw [Bool.and_eq_true, beq_iff_eq] at hnewline
    have hmark : isWordBoundaryChar ch = true := by
      rw [hnewline.1]
      decide
    exact consumeWhitespace_char (by simpa using hch) hmark
  · unfold terminalBoundary at h
    dsimp only at h
    split_ifs at h with hspace
    cases h
    apply consumeWhitespace_space
    obtain ⟨c, hc, hwhite⟩ := (Option.any_eq_true _ _).1 hspace
    obtain ⟨rest, hrest⟩ := List.head?_eq_some_iff.1 hc
    rw [hrest, List.takeWhile_cons_of_pos hwhite]
    exact Nat.succ_pos _

/-- A word that goes on up to the hard limit is cut there. -/
theorem findBoundary_of_cutsWord (hvalid : cfg.Valid)
    (hfind : findBoundary cfg buffer false = some boundary) (hword : CutsWord cfg buffer) :
    boundary = cfg.hardLimitChars := by
  obtain ⟨hmin, hsoftMin, hhardSoft⟩ := hvalid
  obtain ⟨hgoes, hlast, -⟩ := hword
  obtain ⟨c, hc, -⟩ := (Option.any_eq_true _ _).1 hlast
  have hlen := (List.getElem?_eq_some_iff.1 hc).1
  obtain ⟨i, hat, hfirst⟩ := findBoundary_eq_some_iff.1 hfind
  have hlimit : i < cfg.hardLimitChars := by
    by_contra hge
    exact boundaryAt_ne_none_of_hard hlen (by omega) (hfirst _ (by omega))
  obtain ⟨ch, hch, hcase⟩ := boundaryAt_cases hat
  rcases hcase with hmark | ⟨-, soft, hsoft, -, -⟩ | ⟨-, -, hhard, rfl⟩
  · rw [((goesOn_iff hch).1 (hgoes i hlimit)).2.2] at hmark
    cases hmark
  · obtain ⟨d, hd, hmark⟩ := lastEnd_char hsoft
    have hb := lastEnd_bounds hsoft
    rw [List.length_take] at hb
    rw [List.getElem?_take_of_lt (by omega)] at hd
    rw [((goesOn_iff hd).1 (hgoes _ (by omega))).2.1] at hmark
    cases hmark
  · rw [bestWordBoundary_eq]
    cases hspace : lastEnd isWhitespace (buffer.take (i + 1)) with
    | none => exact (Nat.le_antisymm hlimit hhard :)
    | some e =>
      obtain ⟨d, hd, hwhite⟩ := lastEnd_char hspace
      have hb := lastEnd_bounds hspace
      rw [List.length_take] at hb
      rw [List.getElem?_take_of_lt (by omega)] at hd
      rw [((goesOn_iff hd).1 (hgoes _ (by omega))).1] at hwhite
      cases hwhite

/-- A cut that follows no word boundary is the hard limit's, inside a word that goes on. -/
theorem goesOn_of_findBoundary (hvalid : cfg.Valid)
    (hfind : findBoundary cfg buffer false = some boundary)
    (hword : buffer[boundary - 1]?.any isWordBoundaryChar = false) :
    boundary = cfg.hardLimitChars ∧ ∀ j < cfg.hardLimitChars, goesOn cfg buffer j = true := by
  obtain ⟨hmin, hsoftMin, hhardSoft⟩ := hvalid
  obtain ⟨i, hat, hfirst⟩ := findBoundary_eq_some_iff.1 hfind
  obtain ⟨ch, hch, hcase⟩ := boundaryAt_cases hat
  have hi := (List.getElem?_eq_some_iff.1 hch).1
  rcases hcase with hmark | ⟨-, soft, hsoft, -, rfl⟩ | ⟨hmark, hnosoft, hhard, rfl⟩
  · rw [markBoundary_char hch hmark] at hword
    cases hword
  · obtain ⟨d, hd, hmark⟩ := lastEnd_char hsoft
    have hb := lastEnd_bounds hsoft
    rw [List.length_take] at hb
    rw [List.getElem?_take_of_lt (by omega)] at hd
    rw [consumeWhitespace_char hd (isWordBoundaryChar_softMark hmark)] at hword
    cases hword
  · have hlimit : i + 1 = cfg.hardLimitChars := by
      by_contra hne
      exact boundaryAt_ne_none_of_hard (by omega) (by omega)
        (hfirst (cfg.hardLimitChars - 1) (by omega))
    rw [bestWordBoundary_eq] at hword ⊢
    cases hspace : lastEnd isWhitespace (buffer.take (i + 1)) with
    | some e =>
      obtain ⟨d, hd, hwhite⟩ := lastEnd_char hspace
      have hb := lastEnd_bounds hspace
      rw [List.length_take] at hb
      rw [List.getElem?_take_of_lt (by omega)] at hd
      rw [hspace, Option.getD_some, hd, Option.any_some, isWordBoundaryChar_whitespace hwhite]
        at hword
      cases hword
    | none =>
      refine ⟨hlimit, ?_⟩
      intro j hj
      have hc := List.getElem?_eq_getElem (show j < buffer.length by omega)
      refine goesOn_of_hard (by omega) hch hmark hnosoft hfirst (by omega) hc ?_
      apply Bool.eq_false_iff.2
      intro hwhite
      have htake : (buffer.take (i + 1))[j]? = some buffer[j] := by
        rw [List.getElem?_take_of_lt (by omega), hc]
      obtain ⟨e, he, -⟩ := exists_lastEnd htake hwhite
      rw [hspace] at he
      cases he

/-- **The first boundary is clean unless it cuts inside a word.** -/
theorem cleanSplit_findBoundary (hvalid : cfg.Valid)
    (hfind : findBoundary cfg buffer false = some boundary) :
    CleanSplit (buffer.take boundary) (buffer.drop boundary) ↔ ¬ CutsWord cfg buffer := by
  obtain ⟨hpos, hle⟩ := findBoundary_bounds hfind
  have hnot : ∀ o : Option Char, o.any (fun ch => !isWordBoundaryChar ch) = true ↔
      o.isSome = true ∧ o.any isWordBoundaryChar = false := by
    intro o
    cases o <;> simp
  rw [cleanSplit_cut hpos hle]
  constructor
  · intro hclean hword
    obtain rfl := findBoundary_of_cutsWord hvalid hfind hword
    obtain ⟨-, hbefore, hafter⟩ := hword
    rw [hnot] at hbefore hafter
    rw [hbefore.2, hafter.2] at hclean
    have hlt : cfg.hardLimitChars < buffer.length := by simpa using hafter.1
    rcases hclean with hend | hbad | hbad
    · omega
    · cases hbad
    · cases hbad
  · intro hword
    by_contra hclean
    rw [not_or, not_or, Bool.not_eq_true, Bool.not_eq_true] at hclean
    obtain ⟨hend, hbefore, hafter⟩ := hclean
    obtain ⟨rfl, hgoes⟩ := goesOn_of_findBoundary hvalid hfind hbefore
    refine hword ⟨hgoes, (hnot _).2 ⟨?_, hbefore⟩, (hnot _).2 ⟨?_, hafter⟩⟩
    · simpa using by omega
    · simpa using by omega

/-- A buffer without a boundary is not cut at all. -/
theorem not_cutsWord (hvalid : cfg.Valid) (hfind : findBoundary cfg buffer false = none) :
    ¬ CutsWord cfg buffer := by
  obtain ⟨hmin, hsoftMin, hhardSoft⟩ := hvalid
  rintro ⟨-, hlast, -⟩
  obtain ⟨c, hc, -⟩ := (Option.any_eq_true _ _).1 hlast
  have hlt := (List.getElem?_eq_some_iff.1 hc).1
  have hhard : boundaryAt cfg buffer (cfg.hardLimitChars - 1) ≠ none :=
    boundaryAt_ne_none_of_hard hlt (by omega)
  obtain ⟨j, -, boundary, hsome, -⟩ := exists_findBoundary hhard
  rw [hfind] at hsome
  cases hsome

/-! ## Spans with clean ends -/

/-- Both ends of the span are semantic boundaries of the text. -/
def CleanSpan (text : Text) (span : SentenceSpan) : Prop :=
  isSemanticBoundary text span.textStartBytes = true ∧
    isSemanticBoundary text span.textEndBytes = true

/-- The buffer starts at a clean split of the text, and the spans before it are clean. -/
def CleanProgress (text : Text) (s : SentenceSegmenter) (spans : List SentenceSpan) : Prop :=
  ∃ consumed, text = consumed ++ s.buffer ∧ s.bufferSourceStart = utf8Len consumed ∧
    CleanSplit consumed s.buffer ∧ ∀ span ∈ spans, CleanSpan text span

section CleanProgress

variable {text : Text} {spans : List SentenceSpan}

theorem CleanSplit.append_left (lead : Text) {before after : Text} (hne : before ≠ []) :
    CleanSplit (lead ++ before) after ↔ CleanSplit before after := by
  rw [CleanSplit, CleanSplit, List.getLast?_append_of_ne_nil _ hne]
  simp [hne]

variable {emitted : List SentenceSpan} {s' : SentenceSegmenter}

/-- A cut that is not blank extends clean progress when it is clean, and otherwise its span has an
end that the tracker refuses. -/
theorem cutSentence_clean (hcut : isBlank (s.buffer.take boundary) = false)
    (hok : cutSentence s boundary = .ok (s', emitted)) (h : CleanProgress text s spans) :
    (CleanSplit (s.buffer.take boundary) (s.buffer.drop boundary) →
      CleanProgress text s' (spans ++ emitted)) ∧
    (¬ CleanSplit (s.buffer.take boundary) (s.buffer.drop boundary) →
      ∃ span ∈ emitted, ¬ CleanSpan text span) := by
  obtain ⟨lead, core, trail, hraw, hlead, hcore, htrail⟩ := exists_trimmed hcut
  rw [cutSentence_trimmed hraw hlead hcore htrail] at hok
  cases hok
  obtain ⟨consumed, rfl, hstart, hsplit, hspans⟩ := h
  have hbuffer : s.buffer = lead ++ (core ++ trail ++ s.buffer.drop boundary) := by
    conv_lhs => rw [← List.take_append_drop boundary s.buffer, hraw]
    simp only [List.append_assoc]
  have hne : lead ++ core ++ trail ≠ [] := by simp [hcore.ne_nil]
  -- The split at the cut and the split at the end of the span differ by the trailing blank.
  have hcutSplit : CleanSplit (lead ++ core ++ trail) (s.buffer.drop boundary) ↔
      CleanSplit (consumed ++ lead ++ core) (trail ++ s.buffer.drop boundary) := by
    rw [← cleanSplit_blank htrail, ← CleanSplit.append_left consumed hne]
    simp only [List.append_assoc]
  have hend : isSemanticBoundary (consumed ++ s.buffer)
      (s.bufferSourceStart + utf8Len lead + utf8Len core) = true ↔
      CleanSplit (lead ++ core ++ trail) (s.buffer.drop boundary) := by
    rw [hcutSplit, ← isSemanticBoundary_append, hstart, ← utf8Len_append, ← utf8Len_append]
    conv_lhs => rw [hbuffer]
    simp only [List.append_assoc]
  have hbegin : isSemanticBoundary (consumed ++ s.buffer)
      (s.bufferSourceStart + utf8Len lead) = true := by
    rw [hbuffer, ← cleanSplit_blank hlead, ← isSemanticBoundary_append] at hsplit
    rw [hstart, ← utf8Len_append]
    conv_lhs => rw [hbuffer]
    simpa only [List.append_assoc] using hsplit
  rw [hraw]
  constructor
  · intro hclean
    refine ⟨consumed ++ (lead ++ core ++ trail), ?_, ?_, ?_, ?_⟩
    · conv_lhs => rw [hbuffer]
      simp only [List.append_assoc]
    · simp only [hstart, utf8Len_append]
    · exact (CleanSplit.append_left _ hne).2 hclean
    · intro span hmem
      rcases List.mem_append.1 hmem with hold | hnew
      · exact hspans span hold
      · rw [List.mem_singleton.1 hnew]
        exact ⟨hbegin, hend.2 hclean⟩
  · intro hdirty
    refine ⟨_, List.mem_singleton_self _, ?_⟩
    intro hspan
    exact hdirty (hend.1 hspan.2)

theorem CleanProgress.discard (h : CleanProgress text s spans) :
    CleanProgress text (discardBuffer s) spans := by
  obtain ⟨consumed, rfl, hstart, -, hspans⟩ := h
  refine ⟨consumed ++ s.buffer, (List.append_nil _).symm, ?_, .inr (.inl rfl), hspans⟩
  rw [utf8Len_append, ← hstart]
  rfl

/-- A cut that succeeds was not blank, and drops what it cuts off. -/
theorem cutSentence_eq_ok (hpos : 0 < boundary) (hle : boundary ≤ s.buffer.length)
    (hok : cutSentence s boundary = .ok (s', emitted)) :
    isBlank (s.buffer.take boundary) = false ∧ s'.buffer = s.buffer.drop boundary := by
  cases hcut : isBlank (s.buffer.take boundary) with
  | true =>
    rw [cutSentence_blank hpos hle hcut] at hok
    cases hok
  | false =>
    obtain ⟨next, span, heq, hbuffer, -⟩ := cutSentence_ok hcut
    rw [heq] at hok
    cases hok
    exact ⟨rfl, hbuffer⟩

/-- The extraction loop of a push keeps clean progress as long as no buffer is cut inside a word,
and otherwise emits a span with an end that the tracker refuses. -/
theorem extractLoop_clean (hvalid : cfg.Valid) {fuel : Nat} (h : CleanProgress text s spans)
    (hok : extractLoop cfg false fuel s = .ok (s', emitted)) :
    ((∀ buffer ∈ (scanned cfg fuel s.buffer).1, ¬ CutsWord cfg buffer) ∧
      CleanProgress text s' (spans ++ emitted)) ∨
    ((∃ buffer ∈ (scanned cfg fuel s.buffer).1, CutsWord cfg buffer) ∧
      ∃ span ∈ emitted, ¬ CleanSpan text span) := by
  induction fuel generalizing s spans emitted with
  | zero => cases hok
  | succ fuel ih =>
    have hhead := @mem_scanned cfg fuel s.buffer
    simp only [extractLoop, scanned] at hok hhead ⊢
    cases hfind : findBoundary cfg s.buffer false with
    | none =>
      rw [hfind] at hok
      cases hok
      refine .inl ⟨?_, by rwa [List.append_nil]⟩
      intro buffer hmem
      obtain rfl := List.mem_singleton.1 hmem
      exact not_cutsWord hvalid hfind
    | some boundary =>
      obtain ⟨hpos, hle⟩ := findBoundary_bounds hfind
      rw [hfind] at hok hhead
      dsimp only at hok hhead ⊢
      cases hcutResult : cutSentence s boundary with
      | error fault =>
        rw [hcutResult] at hok
        cases hok
      | ok cut =>
        obtain ⟨next, first⟩ := cut
        obtain ⟨hcut, hbuffer⟩ := cutSentence_eq_ok hpos hle hcutResult
        obtain ⟨hclean, hdirty⟩ := cutSentence_clean hcut hcutResult h
        rw [cleanSplit_findBoundary hvalid hfind] at hclean hdirty
        rw [hcutResult] at hok
        simp only [bind, Except.bind, pure, Except.pure] at hok
        rw [← hbuffer] at hhead ⊢
        by_cases hword : CutsWord cfg s.buffer
        · obtain ⟨span, hspan, hbad⟩ := hdirty (not_not.2 hword)
          refine .inr ⟨⟨_, hhead, hword⟩, span, ?_, hbad⟩
          split_ifs at hok
          · cases hok
            exact hspan
          · cases hmore : extractLoop cfg false fuel next with
            | error fault =>
              rw [hmore] at hok
              cases hok
            | ok rest =>
              rw [hmore] at hok
              cases hok
              exact List.mem_append_left _ hspan
        · by_cases hblank : isBlank next.buffer = true
          · rw [if_pos hblank] at hok ⊢
            cases hok
            refine .inl ⟨?_, (hclean hword).discard⟩
            intro buffer hmem
            obtain rfl := List.mem_singleton.1 hmem
            exact hword
          · rw [if_neg hblank] at hok ⊢
            cases hmore : extractLoop cfg false fuel next with
            | error fault =>
              rw [hmore] at hok
              cases hok
            | ok rest =>
              rw [hmore] at hok
              cases hok
              rcases ih (hclean hword) hmore with ⟨hscans, hprogress⟩ |
                ⟨⟨buffer, hmem, hcuts⟩, span, hspan, hbad⟩
              · refine .inl ⟨?_, by rwa [← List.append_assoc]⟩
                intro buffer hmem
                rcases List.mem_cons.1 hmem with rfl | hmem
                · exact hword
                · exact hscans buffer hmem
              · exact .inr ⟨⟨buffer, List.mem_cons_of_mem _ hmem, hcuts⟩, span,
                  List.mem_append_right _ hspan, hbad⟩

/-- What `finish_spans` emits ends with the text. -/
theorem finishSpans_clean (h : CleanProgress text s spans)
    (hok : finishSpans cfg s = .ok (s', emitted)) :
    ∀ span ∈ spans ++ emitted, CleanSpan text span := by
  unfold finishSpans extract extractLoop findBoundary at hok
  rw [if_pos rfl] at hok
  by_cases hblank : isBlank s.buffer = true
  · rw [if_pos hblank] at hok
    cases hok
    rw [List.append_nil]
    exact h.choose_spec.2.2.2
  · rw [if_neg hblank] at hok
    dsimp only at hok
    cases hcutResult : cutSentence s s.buffer.length with
    | error fault =>
      rw [hcutResult] at hok
      cases hok
    | ok cut =>
      obtain ⟨next, first⟩ := cut
      have hcut : isBlank (s.buffer.take s.buffer.length) = false := by
        rw [List.take_length]
        exact Bool.eq_false_iff.2 hblank
      have hpos : 0 < s.buffer.length := by
        apply List.length_pos_of_ne_nil
        rintro hnil
        rw [hnil] at hblank
        exact hblank rfl
      obtain ⟨-, hbuffer⟩ := cutSentence_eq_ok hpos le_rfl hcutResult
      rw [List.drop_length] at hbuffer
      rw [hcutResult] at hok
      simp only [bind, Except.bind, pure, Except.pure, hbuffer] at hok
      cases hok
      obtain ⟨consumed, -, -, -, hspans⟩ := (cutSentence_clean hcut hcutResult h).1
        (.inr (.inl (List.drop_length)))
      exact hspans

end CleanProgress

/-- Whether the spans of a text that does not panic are all clean shows in the buffers scanned. -/
theorem segment_clean_iff (hvalid : cfg.Valid) {text : Text} {spans : List SentenceSpan}
    (hok : Sentence.segment cfg [text] = .ok spans) :
    (∀ span ∈ spans, CleanSpan text span) ↔
      ∀ scan ∈ scans cfg [text] [], ¬ CutsWord cfg scan.1 := by
  have hstart : CleanProgress text { buffer := [] ++ text } [] :=
    ⟨[], rfl, rfl, .inl rfl, by simp⟩
  simp only [Sentence.segment, segmentFrom, pushSpans, extract] at hok
  simp only [scans, List.append_nil, List.flatten_nil, List.mem_map, forall_exists_index, and_imp,
    forall_apply_eq_imp_iff₂]
  cases hpush : extractLoop cfg false (([] ++ text).length + 1) { buffer := [] ++ text } with
  | error fault =>
    rw [hpush] at hok
    cases hok
  | ok pushed =>
    obtain ⟨s', first⟩ := pushed
    rw [hpush] at hok
    simp only [bind, Except.bind, pure, Except.pure] at hok
    cases hfinish : finishSpans cfg s' with
    | error fault =>
      rw [hfinish] at hok
      cases hok
    | ok finished =>
      obtain ⟨s'', last⟩ := finished
      rw [hfinish] at hok
      cases hok
      rcases extractLoop_clean hvalid hstart hpush with ⟨hscans, hprogress⟩ |
        ⟨⟨buffer, hmem, hcuts⟩, span, hspan, hbad⟩
      · refine ⟨fun _ => hscans, fun _ => ?_⟩
        simpa using finishSpans_clean hprogress hfinish
      · constructor
        · intro hall
          exact absurd (hall span (List.mem_append_left _ hspan)) hbad
        · intro hnone
          exact absurd hcuts (hnone buffer hmem)

/-! ## Recording -/

/-- Non-empty evidence of the current generation for a span. -/
def Delivers (generation : Nat) (span : SentenceSpan) (evidence : DeliveryEvidenceV1) : Prop :=
  evidence.cancellationGeneration = generation ∧ evidence.sentenceId = span.sentenceId ∧
    evidence.textStartBytes = span.textStartBytes ∧ evidence.textEndBytes = span.textEndBytes ∧
    isEmptyAudio evidence = false

/-- What the records of a list of evidence return, one after another. -/
def DeliveredSpanTracker.recordAll :
    List DeliveryEvidenceV1 → DeliveredSpanTracker →
      List (Except DeliveryCommitError DeliveryRecordOutcome)
  | [], _ => []
  | evidence :: rest, t => (t.record evidence).1 :: (t.record evidence).2.recordAll rest

section Recording

variable {t : DeliveredSpanTracker} {generation : Nat} {spans : List SentenceSpan}
  {receipts : List DeliveryEvidenceV1}

/-- A clean span behind the ledger is recorded. -/
theorem record_span {span : SentenceSpan} {evidence : DeliveryEvidenceV1}
    (hstate : t.state = .active)
    (hne : span.text ≠ [])
    (hslice : slice t.spokenResponse span.textStartBytes span.textEndBytes = some span.text)
    (hclean : CleanSpan t.spokenResponse span)
    (hbehind : ∀ committed ∈ t.spans, committed.textEndBytes ≤ span.textStartBytes)
    (hdelivers : Delivers t.cancellationGeneration span evidence) :
    t.record evidence =
      (.ok .recorded, { t with spans := t.spans ++ [t.committedSpan evidence] }) := by
  obtain ⟨hgeneration, -, hstart, hstop, haudio⟩ := hdelivers
  have hlt := (slice_bounds hslice hne).1
  refine record_recorded hgeneration hstate ?_ haudio ?_ ?_
  · rw [hstart, hstop]
    exact validateRange_eq_ok.2 ⟨⟨span.text, hne, hslice⟩, hclean⟩
  · rw [List.find?_eq_none]
    intro committed hmem hsame
    simp only [sameRange, Bool.and_eq_true, beq_iff_eq] at hsame
    have := hbehind committed hmem
    omega
  · cases hlast : t.spans.getLast? with
    | none => simp [overlapsLast, hlast]
    | some last =>
      have := hbehind last (List.mem_of_getLast? hlast)
      simp only [overlapsLast, hlast, Option.any_some, Bool.or_eq_false_iff,
        decide_eq_false_iff_not]
      omega

/-- Clean spans in order are all recorded. -/
theorem recordAll_recorded (hstate : t.state = .active)
    (hexact : ∀ span ∈ spans, span.text ≠ [] ∧
      slice t.spokenResponse span.textStartBytes span.textEndBytes = some span.text)
    (hclean : ∀ span ∈ spans, CleanSpan t.spokenResponse span)
    (hordered : spans.Pairwise fun a b => a.textEndBytes ≤ b.textStartBytes)
    (hbehind : ∀ committed ∈ t.spans, ∀ span ∈ spans,
      committed.textEndBytes ≤ span.textStartBytes)
    (hgeneration : t.cancellationGeneration = generation)
    (hreceipts : List.Forall₂ (Delivers generation) spans receipts) :
    ∀ result ∈ t.recordAll receipts, result = .ok .recorded := by
  induction hreceipts generalizing t with
  | nil => simp [recordAll]
  | @cons span evidence spans receipts hdelivers hrest ih =>
    obtain ⟨hne, hslice⟩ := hexact span List.mem_cons_self
    rw [List.pairwise_cons] at hordered
    have hstop : evidence.textEndBytes = span.textEndBytes := hdelivers.2.2.2.1
    have hrecord := record_span hstate hne hslice (hclean span List.mem_cons_self)
      (fun committed hmem => hbehind committed hmem span List.mem_cons_self)
      (hgeneration ▸ hdelivers)
    rw [recordAll, hrecord]
    refine List.forall_mem_cons.2 ⟨rfl, ?_⟩
    apply ih (t := { t with spans := t.spans ++ [t.committedSpan evidence] }) hstate
      (fun span hmem => hexact span (List.mem_cons_of_mem _ hmem))
      (fun span hmem => hclean span (List.mem_cons_of_mem _ hmem)) hordered.2 ?_ hgeneration
    intro committed hcommitted later hlater
    rcases List.mem_append.1 hcommitted with hold | hnew
    · exact hbehind committed hold later (List.mem_cons_of_mem _ hlater)
    · rw [List.mem_singleton.1 hnew]
      simp only [committedSpan]
      rw [hstop]
      exact hordered.1 later hlater

/-- Spans that are all recorded are clean. -/
theorem clean_of_recordAll (hreceipts : List.Forall₂ (Delivers generation) spans receipts)
    (hall : ∀ result ∈ t.recordAll receipts, result = .ok .recorded) :
    ∀ span ∈ spans, CleanSpan t.spokenResponse span := by
  induction hreceipts generalizing t with
  | nil => simp
  | @cons span evidence spans receipts hdelivers hrest ih =>
    obtain ⟨-, -, hstart, hstop, -⟩ := hdelivers
    rw [recordAll, List.forall_mem_cons] at hall
    rcases record_cases evidence t with ⟨error, heq⟩ | ⟨heq, -⟩ | ⟨heq, -, -, hrange, -⟩
    · rw [heq] at hall
      cases hall.1
    · rw [heq] at hall
      cases hall.1
    · rw [heq] at hall
      rw [hstart, hstop] at hrange
      refine List.forall_mem_cons.2 ⟨(validateRange_eq_ok.1 hrange).2, ?_⟩
      exact ih (t := { t with spans := t.spans ++ [t.committedSpan evidence] }) hall.2

/-- A subtitle receipt for a span. -/
def subtitleReceipt (generation : Nat) (span : SentenceSpan) : DeliveryEvidenceV1 :=
  ⟨generation, span.sentenceId, span.textStartBytes, span.textEndBytes, .subtitle, 0, 0⟩

theorem subtitleReceipt_delivers (generation : Nat) (spans : List SentenceSpan) :
    List.Forall₂ (Delivers generation) spans (spans.map (subtitleReceipt generation)) := by
  induction spans with
  | nil => exact .nil
  | cons span spans ih => exact .cons ⟨rfl, rfl, rfl, rfl, rfl⟩ ih

end Recording

/-- **Everything the segmenter releases of a text can be committed exactly when no buffer it scans
cuts off a blank or cuts inside a word.** -/
theorem released_spans_commit_iff (hvalid : cfg.Valid) {generation : Nat} {text : Text}
    {fresh : DeliveredSpanTracker} (hnew : DeliveredSpanTracker.new generation text = .ok fresh) :
    (∃ spans, Sentence.segment cfg [text] = .ok spans ∧
      ∀ receipts, List.Forall₂ (Delivers generation) spans receipts →
        ∀ result ∈ fresh.recordAll receipts, result = .ok .recorded) ↔
      ∀ scan ∈ scans cfg [text] [], ¬ CutsBlank cfg scan.1 ∧ ¬ CutsWord cfg scan.1 := by
  obtain ⟨-, rfl⟩ := new_eq_ok.1 hnew
  have hpartition := segment_ok_iff hvalid [text]
  constructor
  · rintro ⟨spans, hok, hcommit⟩
    have hblank := hpartition.1 ⟨spans, hok⟩
    have hclean := clean_of_recordAll (subtitleReceipt_delivers generation spans)
      (hcommit _ (subtitleReceipt_delivers generation spans))
    have hword := (segment_clean_iff hvalid hok).1 hclean
    exact fun scan hmem => ⟨hblank scan hmem, hword scan hmem⟩
  · intro hclean
    obtain ⟨spans, hok⟩ := hpartition.2 fun scan hmem => (hclean scan hmem).1
    have hparts := segment_partitions hvalid hok
    rw [List.flatten_singleton] at hparts
    refine ⟨spans, hok, ?_⟩
    intro receipts hreceipts
    exact recordAll_recorded rfl
      (fun span hmem => ⟨(hparts.trimmed span hmem).ne_nil, hparts.exact span hmem⟩)
      ((segment_clean_iff hvalid hok).2 fun scan hmem => (hclean scan hmem).2) hparts.ordered
      (by simp) rfl hreceipts

/-- Two sentences in one delta. -/
def Sample.greeting : Text := "This is a complete sentence. Here is another one!".toList

theorem released_spans_commit_greeting :
    ∃ fresh, DeliveredSpanTracker.new 7 Sample.greeting = .ok fresh ∧
      ∃ spans, Sentence.segment {} [Sample.greeting] = .ok spans ∧
        ∀ receipts, List.Forall₂ (Delivers 7) spans receipts →
          ∀ result ∈ fresh.recordAll receipts, result = .ok .recorded :=
  ⟨⟨7, Sample.greeting, .active, []⟩, by decide +kernel,
    (released_spans_commit_iff SentenceSegmenterConfig.default_valid (by decide +kernel)).2
      (by decide +kernel)⟩

/-- A text of a script without spaces, one character longer than the hard limit. -/
def Sample.unspaced : Text := List.replicate 221 '\u597d'

/-- It is released in two spans, and the tracker refuses both. -/
theorem unspaced_not_committed :
    ({} : SentenceSegmenterConfig).Valid ∧
      ∃ fresh, DeliveredSpanTracker.new 7 Sample.unspaced = .ok fresh ∧
        ¬ ∃ spans, Sentence.segment {} [Sample.unspaced] = .ok spans ∧
          ∀ receipts, List.Forall₂ (Delivers 7) spans receipts →
            ∀ result ∈ fresh.recordAll receipts, result = .ok .recorded := by
  refine ⟨SentenceSegmenterConfig.default_valid, ⟨7, Sample.unspaced, .active, []⟩,
    by decide +kernel, ?_⟩
  rintro ⟨spans, hok, hcommit⟩
  have hspans : Sentence.segment {} [Sample.unspaced] =
      .ok [⟨1, 0, 660, List.replicate 220 '\u597d'⟩, ⟨2, 660, 663, ['\u597d']⟩] := by
    decide +kernel
  rw [hspans] at hok
  cases hok
  have hrefused := hcommit _ (subtitleReceipt_delivers 7 _) (.error .invalidSemanticBoundary)
    (by decide +kernel)
  cases hrefused

end NpcRuntime.Response
