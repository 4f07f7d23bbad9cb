import NpcRuntime.Lib.Result
import NpcRuntime.Sentence.Partition

/-!
# The hard limit

A boundary is found before the walk passes `hard_limit_chars`, so what a push leaves pending is
shorter than that. A sentence that is cut at a newline, at a soft mark or at the hard limit itself
ends by then too. A sentence that is cut at a sentence mark does not: the closing quotes and brackets
behind the mark go with it, however many there are (`Overruns`).
-/

namespace NpcRuntime.Sentence

open Text

variable {cfg : SentenceSegmenterConfig} {s : SentenceSegmenter}

/-- The end of the closing quotes and brackets behind index `i`. -/
def closedEnd (buffer : Text) (i : Nat) : Nat :=
  i + 1 + ((buffer.drop (i + 1)).takeWhile isCloser).length

def leadLength (buffer : Text) : Nat := (buffer.takeWhile isWhitespace).length

/-- The first boundary of the buffer is behind a sentence mark, and the closing quotes and brackets
there end more than the hard limit behind the leading whitespace. -/
def Overruns (cfg : SentenceSegmenterConfig) (buffer : Text) : Prop :=
  ∃ i ch, buffer[i]? = some ch ∧ (∀ j < i, boundaryAt cfg buffer j = none) ∧
    endsSentence cfg buffer i ch (buffer.take i).getLast? = true ∧
    startsWithSpace (buffer.drop (closedEnd buffer i)) = true ∧
    leadLength buffer + cfg.hardLimitChars < closedEnd buffer i

/-! ## The length of a cut sentence -/

variable {c : Char} {buffer : Text}

section Cut

variable {raw lead core trail : Text}

theorem core_end_le (hraw : raw = lead ++ core ++ trail) (hcore : Trimmed core) {n : Nat}
    (hblank : isBlank (raw.drop n) = true) : lead.length + core.length ≤ n := by
  obtain ⟨c, rest, rfl, hc⟩ := hcore.last
  by_contra hlong
  rw [not_le] at hlong
  have hmem : c ∈ raw.drop n := by
    rw [List.mem_drop_iff_getElem]
    refine ⟨lead.length + rest.length - n, ?_, ?_⟩
    · simp only [hraw, List.length_append, List.length_singleton] at hlong ⊢
      omega
    · have hindex : n + (lead.length + rest.length - n) = (lead ++ rest).length := by
        simp only [List.length_append, List.length_singleton] at hlong ⊢
        omega
      simp only [hraw, hindex]
      simp
  rw [isBlank_iff.1 hblank c hmem] at hc
  cases hc

theorem le_core_end (hraw : raw = lead ++ core ++ trail) (htrail : isBlank trail = true) {n : Nat}
    (hn : raw[n]? = some c) (hc : isWhitespace c = false) : n < lead.length + core.length := by
  by_contra hlong
  rw [not_lt] at hlong
  rw [hraw, List.getElem?_append_right (by simpa using hlong)] at hn
  rw [isBlank_iff.1 htrail c (List.mem_of_getElem? hn)] at hc
  cases hc

theorem leadLength_eq {rest : Text} (hbuffer : buffer = lead ++ core ++ rest)
    (hlead : isBlank lead = true) (hcore : Trimmed core) : leadLength buffer = lead.length := by
  obtain ⟨c, tail, rfl, hc⟩ := hcore.first
  rw [leadLength, hbuffer, List.append_assoc,
    List.takeWhile_append_of_pos (isBlank_iff.1 hlead), List.cons_append,
    List.takeWhile_cons_of_neg (by simp [hc]), List.append_nil]

end Cut

/-- Behind a position there is whitespace up to its `consume_whitespace`. -/
theorem isBlank_drop_consumeWhitespace (buffer : Text) (pos : Nat) :
    isBlank ((buffer.take (consumeWhitespace buffer pos)).drop pos) = true := by
  rw [consumeWhitespace, List.drop_take, Nat.add_sub_cancel_left,
    ← List.prefix_iff_eq_take.1 (List.takeWhile_prefix isWhitespace)]
  exact isBlank_iff.2 fun c hc => List.mem_takeWhile_imp hc

theorem isCloser_not_whitespace (h : isCloser c = true) : isWhitespace c = false := by
  simp only [isCloser, Bool.or_eq_true, beq_iff_eq] at h
  rcases h with (((rfl | rfl) | rfl) | rfl) | rfl <;> decide

variable {i : Nat} {previous : Option Char}

theorem endsSentence_not_whitespace (h : endsSentence cfg buffer i c previous = true) :
    isWhitespace c = false := by
  simp only [endsSentence, Bool.and_eq_true, Bool.or_eq_true, beq_iff_eq] at h
  rcases h.2 with (rfl | rfl) | ⟨⟨rfl, -⟩, -⟩ <;> decide

/-- The last character of a closed sentence is a closer or the mark itself. -/
theorem exists_before_closedEnd {ch : Char} (hch : buffer[i]? = some ch)
    (hends : endsSentence cfg buffer i ch previous = true) :
    ∃ c, buffer[closedEnd buffer i - 1]? = some c ∧ isWhitespace c = false := by
  have hall : ∀ c ∈ (buffer.drop (i + 1)).takeWhile isCloser, isCloser c = true :=
    fun c hc => List.mem_takeWhile_imp hc
  obtain ⟨rest, hrest⟩ := List.takeWhile_prefix (l := buffer.drop (i + 1)) isCloser
  unfold closedEnd
  generalize (buffer.drop (i + 1)).takeWhile isCloser = closers at hall hrest
  rcases List.eq_nil_or_concat closers with rfl | ⟨before, last, rfl⟩
  · exact ⟨ch, by simpa using hch, endsSentence_not_whitespace hends⟩
  · refine ⟨last, ?_, isCloser_not_whitespace (hall last (by simp))⟩
    have hindex : i + 1 + (before ++ [last]).length - 1 = i + 1 + before.length := by
      simp only [List.length_append, List.length_singleton]
      omega
    rw [List.concat_eq_append] at hrest ⊢
    rw [hindex, ← List.getElem?_drop, ← hrest]
    simp

theorem markBoundary_of_endsSentence {ch : Char}
    (hends : endsSentence cfg buffer i ch previous = true)
    (hspace : startsWithSpace (buffer.drop (closedEnd buffer i)) = true) :
    markBoundary cfg buffer i ch previous =
      some (consumeWhitespace buffer (closedEnd buffer i)) := by
  have hnewline : (ch == '\n') = false := by
    by_contra h
    rw [Bool.not_eq_false, beq_iff_eq] at h
    have hblank := endsSentence_not_whitespace hends
    rw [h] at hblank
    cases hblank
  rw [markBoundary, hnewline, Bool.false_and, if_neg Bool.false_ne_true, if_pos hends,
    terminalBoundary]
  exact if_pos hspace

/-- A sentence that overruns is the one that is cut. -/
theorem Overruns.at {buffer : Text} {i boundary : Nat} (h : Overruns cfg buffer)
    (hat : boundaryAt cfg buffer i = some boundary)
    (hfirst : ∀ j < i, boundaryAt cfg buffer j = none) :
    ∃ ch, buffer[i]? = some ch ∧
      endsSentence cfg buffer i ch (buffer.take i).getLast? = true ∧
      markBoundary cfg buffer i ch (buffer.take i).getLast? =
        some (consumeWhitespace buffer (closedEnd buffer i)) ∧
      leadLength buffer + cfg.hardLimitChars < closedEnd buffer i := by
  obtain ⟨j, ch, hch, hbefore, hends, hspace, hlong⟩ := h
  have hmark := markBoundary_of_endsSentence hends hspace
  have hj : boundaryAt cfg buffer j ≠ none := by
    rw [boundaryAt, hch, Option.bind_some, hmark]
    simp
  have hle : i ≤ j := not_lt.1 fun hlt => hj (hfirst j hlt)
  have hge : j ≤ i := not_lt.1 fun hlt => by
    rw [hbefore i hlt] at hat
    cases hat
  obtain rfl := le_antisymm hle hge
  exact ⟨ch, hch, hends, hmark, hlong⟩

theorem Overruns.find (h : Overruns cfg buffer) : findBoundary cfg buffer false ≠ none := by
  obtain ⟨i, ch, hch, hfirst, hends, hspace, -⟩ := h
  have hat : boundaryAt cfg buffer i =
      some (consumeWhitespace buffer (closedEnd buffer i)) := by
    rw [boundaryAt, hch, Option.bind_some, markBoundary_of_endsSentence hends hspace]
    rfl
  rw [findBoundary_eq_some_iff.2 ⟨i, hat, hfirst⟩]
  exact Option.some_ne_none _

/-- **A cut sentence** is longer than the hard limit exactly when it overruns. -/
theorem cut_length_iff (hvalid : cfg.Valid) {lead core trail : Text} {boundary : Nat}
    (hfind : findBoundary cfg buffer false = some boundary)
    (hraw : buffer.take boundary = lead ++ core ++ trail) (hlead : isBlank lead = true)
    (hcore : Trimmed core) (htrail : isBlank trail = true) :
    core.length ≤ cfg.hardLimitChars ↔ ¬ Overruns cfg buffer := by
  obtain ⟨i, hat, hfirst⟩ := findBoundary_eq_some_iff.1 hfind
  obtain ⟨ch, hch, hcase⟩ := boundaryAt_cases hat
  have hi := (List.getElem?_eq_some_iff.1 hch).1
  -- The hard limit is a boundary, so the walk stops there at the latest.
  have hhard : i + 1 ≤ cfg.hardLimitChars := by
    by_contra hlong
    have hpos : 0 < cfg.hardLimitChars := hvalid.1.trans_le (hvalid.2.1.trans hvalid.2.2)
    have hnone := hfirst (cfg.hardLimitChars - 1) (by omega)
    exact boundaryAt_ne_none_of_hard (by omega) (by omega) hnone
  have hshort : ∀ n ≤ i + 1, isBlank ((buffer.take boundary).drop n) = true →
      core.length ≤ cfg.hardLimitChars := by
    intro n hn hblank
    have hend := core_end_le hraw hcore hblank
    omega
  rcases hcase with hmark | ⟨hmark, soft, hsoft, -, rfl⟩ | ⟨hmark, -, -, rfl⟩
  · unfold markBoundary at hmark
    by_cases hnewline : (ch == '\n' && decide (cfg.minSentenceChars ≤ i + 1)) = true
    · rw [if_pos hnewline] at hmark
      cases hmark
      refine iff_of_true (hshort (i + 1) le_rfl (isBlank_drop_consumeWhitespace ..)) ?_
      intro hover
      obtain ⟨c, hc, hends, -⟩ := hover.at hat hfirst
      obtain rfl := Option.some.inj (hch.symm.trans hc)
      have hblank := endsSentence_not_whitespace hends
      rw [Bool.and_eq_true, beq_iff_eq] at hnewline
      rw [hnewline.1] at hblank
      cases hblank
    rw [if_neg hnewline] at hmark
    by_cases hends : endsSentence cfg buffer i ch (buffer.take i).getLast? = true
    · rw [if_pos hends] at hmark
      unfold terminalBoundary at hmark
      by_cases hspace : startsWithSpace (buffer.drop (closedEnd buffer i)) = true
      · have hboundary : boundary = consumeWhitespace buffer (closedEnd buffer i) := by
          unfold closedEnd at hspace ⊢
          rw [if_pos hspace] at hmark
          exact (Option.some.inj hmark).symm
        have hend : lead.length + core.length = closedEnd buffer i := by
          refine le_antisymm (core_end_le hraw hcore ?_) ?_
          · rw [hboundary]
            exact isBlank_drop_consumeWhitespace ..
          · obtain ⟨c, hc, hword⟩ := exists_before_closedEnd hch hends
            have hpos : 0 < closedEnd buffer i := by
              unfold closedEnd
              omega
            have hle : closedEnd buffer i ≤ boundary := by
              rw [hboundary]
              exact Nat.le_add_right ..
            have hin : (buffer.take boundary)[closedEnd buffer i - 1]? = some c := by
              rw [List.getElem?_take_of_lt (by omega)]
              exact hc
            have hlt := le_core_end hraw htrail hin hword
            omega
        have hlength : leadLength buffer = lead.length := by
          have hbuffer : buffer = lead ++ core ++ (trail ++ buffer.drop boundary) := by
            rw [← List.append_assoc, ← hraw, List.take_append_drop]
          exact leadLength_eq hbuffer hlead hcore
        constructor
        · intro hle hover
          obtain ⟨-, -, -, -, hlong⟩ := hover.at hat hfirst
          omega
        · intro hnot
          by_contra hlong
          refine hnot ⟨i, ch, hch, hfirst, hends, hspace, ?_⟩
          omega
      · unfold closedEnd at hspace
        rw [if_neg hspace] at hmark
        cases hmark
    · rw [if_neg hends] at hmark
      cases hmark
  · have hle := (lastEnd_bounds hsoft).2
    rw [List.length_take] at hle
    refine iff_of_true (hshort soft (by omega) (isBlank_drop_consumeWhitespace buffer soft)) ?_
    intro hover
    obtain ⟨c, hc, -, hsome, -⟩ := hover.at hat hfirst
    obtain rfl := Option.some.inj (hch.symm.trans hc)
    cases hmark.symm.trans hsome
  · have hle := (@bestWordBoundary_bounds buffer (i + 1) (Nat.succ_pos i)).2
    refine iff_of_true (hshort _ hle ?_) ?_
    · rw [List.drop_eq_nil_of_le (List.length_take_le _ _)]
      rfl
    · intro hover
      obtain ⟨c, hc, -, hsome, -⟩ := hover.at hat hfirst
      obtain rfl := Option.some.inj (hch.symm.trans hc)
      cases hmark.symm.trans hsome

/-! ## Runs -/

variable {s' : SentenceSegmenter} {spans : List SentenceSpan} {s : SentenceSegmenter}

/-- The loop of a push leaves less than the hard limit, and its sentences are within the limit
exactly when no buffer that it scans overruns. -/
theorem extractLoop_hardLimit (hvalid : cfg.Valid) {fuel : Nat} (hfuel : s.buffer.length < fuel)
    (h : extractLoop cfg false fuel s = .ok (s', spans)) :
    s'.buffer = (scanned cfg fuel s.buffer).2 ∧ s'.buffer.length < cfg.hardLimitChars ∧
      ((∀ span ∈ spans, span.text.length ≤ cfg.hardLimitChars) ↔
        ∀ buffer ∈ (scanned cfg fuel s.buffer).1, ¬ Overruns cfg buffer) := by
  have hlimit : 0 < cfg.hardLimitChars := hvalid.1.trans_le (hvalid.2.1.trans hvalid.2.2)
  induction fuel generalizing s spans with
  | zero => exact absurd hfuel (Nat.not_lt_zero _)
  | succ fuel ih =>
    simp only [scanned, extractLoop] at h ⊢
    cases hfind : findBoundary cfg s.buffer false with
    | none =>
      rw [hfind] at h
      cases h
      refine ⟨rfl, ?_, iff_of_true (by simp) ?_⟩
      · by_contra hlong
        have hat : boundaryAt cfg s'.buffer (cfg.hardLimitChars - 1) ≠ none :=
          boundaryAt_ne_none_of_hard (by omega) (by omega)
        obtain ⟨j, -, boundary, hsome, -⟩ := exists_findBoundary hat
        cases hfind.symm.trans hsome
      · intro buffer hbuffer hover
        obtain rfl := List.mem_singleton.1 hbuffer
        exact hover.find hfind
    | some boundary =>
      obtain ⟨hpos, hle⟩ := findBoundary_bounds hfind
      rw [hfind] at h
      dsimp only at h ⊢
      cases hcut : isBlank (s.buffer.take boundary) with
      | true =>
        rw [cutSentence_blank hpos hle hcut] at h
        cases h
      | false =>
        obtain ⟨lead, core, trail, hraw, hlead, hcore, htrail⟩ := exists_trimmed hcut
        have hlength := cut_length_iff hvalid hfind hraw hlead hcore htrail
        rw [cutSentence_trimmed hraw hlead hcore htrail] at h
        by_cases hblank : isBlank (s.buffer.drop boundary) = true
        · rw [if_pos hblank]
          simp only [bind, Except.bind, hblank, if_true] at h
          cases h
          refine ⟨rfl, hlimit, ?_⟩
          simpa using hlength
        · rw [if_neg hblank]
          obtain ⟨⟨after, first⟩, hfirst, h⟩ := bind_eq_ok.1 h
          cases hfirst
          rw [if_neg hblank] at h
          obtain ⟨⟨last, more⟩, hmore, h⟩ := bind_eq_ok.1 h
          cases h
          have hshorter : (s.buffer.drop boundary).length < fuel := by
            rw [List.length_drop]
            omega
          obtain ⟨hbuffer, hshort, hiff⟩ := ih hshorter hmore
          refine ⟨hbuffer, hshort, ?_⟩
          rw [List.forall_mem_cons, ← hiff, ← hlength]
          simp

/-- `finish_spans` emits a sentence that is no longer than what is pending. -/
theorem finishSpans_hardLimit (h : finishSpans cfg s = .ok (s', spans)) :
    s'.buffer = (if isBlank s.buffer then s.buffer else []) ∧
      ∀ span ∈ spans, span.text.length ≤ s.buffer.length := by
  unfold finishSpans extract extractLoop findBoundary at h
  rw [if_pos rfl] at h
  cases hblank : isBlank s.buffer with
  | true =>
    rw [hblank] at h
    cases h
    exact ⟨rfl, by simp⟩
  | false =>
    have hcut : isBlank (s.buffer.take s.buffer.length) = false := by rwa [List.take_length]
    obtain ⟨lead, core, trail, hraw, hlead, hcore, htrail⟩ := exists_trimmed hcut
    rw [hblank, if_neg Bool.false_ne_true] at h
    dsimp only at h
    rw [cutSentence_trimmed hraw hlead hcore htrail] at h
    have hnone : isBlank (s.buffer.drop s.buffer.length) = true := by
      rw [List.drop_length]
      rfl
    simp only [bind, Except.bind, hnone, if_true] at h
    cases h
    refine ⟨rfl, ?_⟩
    rintro span hspan
    obtain rfl := List.mem_singleton.1 hspan
    rw [List.take_length] at hraw
    have hlength := congrArg List.length hraw
    simp only [List.length_append] at hlength
    show core.length ≤ s.buffer.length
    omega

inductive SegmenterCall where
  | push (delta : Text)
  | finish

def SegmenterCall.apply (cfg : SentenceSegmenterConfig) (s : SentenceSegmenter) :
    SegmenterCall → Except Fault (SentenceSegmenter × List SentenceSpan)
  | .push delta => pushSpans cfg delta s
  | .finish => finishSpans cfg s

/-- A run of calls, with all spans that they emit. -/
def runCalls (cfg : SentenceSegmenterConfig) : List SegmenterCall → SentenceSegmenter →
    Except Fault (SentenceSegmenter × List SentenceSpan)
  | [], s => .ok (s, [])
  | call :: calls, s => do
    let (s, spans) ← call.apply cfg s
    let (s, more) ← runCalls cfg calls s
    return (s, spans ++ more)

/-- The buffers that the pushes of a run scan. -/
def scannedAlong (cfg : SentenceSegmenterConfig) : List SegmenterCall → Text → List Text
  | [], _ => []
  | .push delta :: calls, buffer =>
    let pushed := scanned cfg ((buffer ++ delta).length + 1) (buffer ++ delta)
    pushed.1 ++ scannedAlong cfg calls pushed.2
  | .finish :: calls, buffer => scannedAlong cfg calls (if isBlank buffer then buffer else [])

/-- From a state within the limit on. -/
theorem runCalls_hardLimit (hvalid : cfg.Valid) {calls : List SegmenterCall}
    (hs : s.buffer.length < cfg.hardLimitChars) (h : runCalls cfg calls s = .ok (s', spans)) :
    s'.buffer.length < cfg.hardLimitChars ∧
      ((∀ span ∈ spans, span.text.length ≤ cfg.hardLimitChars) ↔
        ∀ buffer ∈ scannedAlong cfg calls s.buffer, ¬ Overruns cfg buffer) := by
  induction calls generalizing s spans with
  | nil =>
    cases h
    exact ⟨hs, by simp [scannedAlong]⟩
  | cons call calls ih =>
    obtain ⟨⟨after, first⟩, hfirst, h⟩ := bind_eq_ok.1 h
    obtain ⟨⟨last, more⟩, hmore, h⟩ := bind_eq_ok.1 h
    cases h
    cases call with
    | push delta =>
      obtain ⟨hbuffer, hshort, hiff⟩ := extractLoop_hardLimit hvalid (Nat.lt_succ_self _) hfirst
      obtain ⟨hlast, hrest⟩ := ih hshort hmore
      refine ⟨hlast, ?_⟩
      rw [List.forall_mem_append, hiff, hrest, scannedAlong, List.forall_mem_append, hbuffer]
    | finish =>
      obtain ⟨hbuffer, hspans⟩ := finishSpans_hardLimit hfirst
      have hshort : after.buffer.length < cfg.hardLimitChars := by
        rw [hbuffer]
        split
        · exact hs
        · exact (Nat.zero_le _).trans_lt hs
      obtain ⟨hlast, hrest⟩ := ih hshort hmore
      refine ⟨hlast, ?_⟩
      rw [List.forall_mem_append, hrest, scannedAlong, hbuffer]
      exact and_iff_right fun span hspan => (hspans span hspan).trans hs.le

/-- **The hard limit** holds of a run exactly when no buffer that is scanned overruns: what is pending
is always shorter, and every sentence is no longer. -/
theorem hard_limit_iff (hvalid : cfg.Valid) (calls : List SegmenterCall) (s : SentenceSegmenter)
    (spans : List SentenceSpan) (h : runCalls cfg calls {} = .ok (s, spans)) :
    (s.buffer.length < cfg.hardLimitChars ∧
      ∀ span ∈ spans, span.text.length ≤ cfg.hardLimitChars) ↔
      ∀ buffer ∈ scannedAlong cfg calls [], ¬ Overruns cfg buffer := by
  have hlimit : 0 < cfg.hardLimitChars := hvalid.1.trans_le (hvalid.2.1.trans hvalid.2.2)
  have hstart : ({} : SentenceSegmenter).buffer.length < cfg.hardLimitChars := hlimit
  obtain ⟨hpending, hiff⟩ := runCalls_hardLimit hvalid hstart h
  rw [hiff]
  exact and_iff_right hpending

/-- Four characters are the limit. -/
def Sample.fourChars : SentenceSegmenterConfig where
  minSentenceChars := 1
  softBoundaryChars := 4
  hardLimitChars := 4

theorem hard_limit_iff_fourChars :
    runCalls Sample.fourChars [.push "abc! d".toList, .finish] {} =
      .ok (⟨[], 6, 3⟩, [⟨1, 0, 4, "abc!".toList⟩, ⟨2, 5, 6, "d".toList⟩]) ∧
    ∀ buffer ∈ scannedAlong Sample.fourChars [.push "abc! d".toList, .finish] [],
      ¬ Overruns Sample.fourChars buffer := by
  have hrun : runCalls Sample.fourChars [.push "abc! d".toList, .finish] {} =
      .ok (⟨[], 6, 3⟩, [⟨1, 0, 4, "abc!".toList⟩, ⟨2, 5, 6, "d".toList⟩]) := by decide +kernel
  have hvalid : Sample.fourChars.Valid := by decide
  exact ⟨hrun, (hard_limit_iff hvalid _ _ _ hrun).1 (by decide)⟩

/-- The closing brackets go with the sentence, beyond the limit. -/
theorem closers_overrun : ¬ ∀ (cfg : SentenceSegmenterConfig) (calls : List SegmenterCall)
    (s : SentenceSegmenter) (spans : List SentenceSpan), cfg.Valid →
    runCalls cfg calls {} = .ok (s, spans) →
    s.buffer.length < cfg.hardLimitChars ∧
      ∀ span ∈ spans, span.text.length ≤ cfg.hardLimitChars := by
  intro h
  have hrun : runCalls Sample.fourChars [.push "abc!))) d".toList] {} =
      .ok (⟨"d".toList, 8, 2⟩, [⟨1, 0, 7, "abc!)))".toList⟩]) := by decide +kernel
  have hspans := (h Sample.fourChars _ _ _ (by decide) hrun).2
  revert hspans
  decide

end NpcRuntime.Sentence
