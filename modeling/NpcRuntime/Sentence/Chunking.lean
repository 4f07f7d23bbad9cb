import NpcRuntime.Sentence.Partition

/-!
# Segmentation and provider chunking

A push cuts sentences out of the text that has arrived. When is the cut the one that the whole
text would give? `find_boundary` looks ahead in two places: past a sentence mark, for the closing
quotes and the whitespace that prove it, and past a boundary, for the whitespace that belongs to
the cut. A cut that the walk makes while a look-ahead is still open hangs on the next delta
(`Hangs`); so does a cut that throws a blank remainder away before the text goes on.

A stream none of whose cuts hangs is segmented like the whole text in one push
(`segmentation_independent_of_chunking`). Whitespace that is split over two deltas is the case the
streaming provider produces: what the second delta brings of it counts as the start of the next
sentence.
-/

namespace NpcRuntime.Sentence

open Text

/-- A sentence mark whose closing quotes reach the end of the buffer, and that the text still to
come proves. -/
def OpenMark (cfg : SentenceSegmenterConfig) (buffer rest : Text) (i : Nat) : Prop :=
  buffer[i]?.any (fun ch => endsSentence cfg buffer i ch (buffer.take i).getLast?) = true ∧
    (buffer.drop (i + 1)).all isCloser = true ∧ startsWithSpace (rest.dropWhile isCloser) = true

/-- The boundary at a mark or a soft mark, which takes the whitespace behind it along. -/
def markOrSoft (cfg : SentenceSegmenterConfig) (buffer : Text) (i : Nat) : Option Nat :=
  buffer[i]?.bind fun ch =>
    (markBoundary cfg buffer i ch (buffer.take i).getLast?).or
      (softBoundary cfg buffer i (lastEnd isSoftMark (buffer.take (i + 1))))

/-- The kinds of cut that hang on the text still to come: the walk has passed an open mark; the
whitespace that the cut takes along goes on; or a blank remainder is discarded and the text goes
on. -/
def HangsAt (cfg : SentenceSegmenterConfig) (buffer rest : Text) (i boundary : Nat) : Prop :=
  (∃ j ≤ i, OpenMark cfg buffer rest j) ∨
    (markOrSoft cfg buffer i = some buffer.length ∧ startsWithSpace rest = true) ∨
    (buffer.drop boundary ≠ [] ∧ isBlank (buffer.drop boundary) = true ∧ isBlank rest = false)

/-- The first boundary of the buffer hangs on the text still to come. -/
def Hangs (cfg : SentenceSegmenterConfig) (buffer rest : Text) : Prop :=
  ∃ i < buffer.length, ∃ boundary ∈ boundaryAt cfg buffer i,
    (∀ j < i, boundaryAt cfg buffer j = none) ∧ HangsAt cfg buffer rest i boundary

instance (cfg : SentenceSegmenterConfig) (buffer rest : Text) (i : Nat) :
    Decidable (OpenMark cfg buffer rest i) := by
  unfold OpenMark; infer_instance

instance (cfg : SentenceSegmenterConfig) (buffer rest : Text) (i boundary : Nat) :
    Decidable (HangsAt cfg buffer rest i boundary) := by
  unfold HangsAt; infer_instance

instance (cfg : SentenceSegmenterConfig) (buffer rest : Text) :
    Decidable (Hangs cfg buffer rest) := by
  unfold Hangs; infer_instance

variable {cfg : SentenceSegmenterConfig} {buffer rest : Text}

/-! ## Looking ahead -/

theorem startsWithSpace_append {t u : Text} (h : t ≠ []) :
    startsWithSpace (t ++ u) = startsWithSpace t := by
  obtain ⟨c, t, rfl⟩ := List.exists_cons_of_ne_nil h
  rfl

variable {pos : Nat}

/-- Whitespace is consumed as before, unless it reaches the end and goes on. -/
theorem consumeWhitespace_append (hpos : pos ≤ buffer.length)
    (h : consumeWhitespace buffer pos = buffer.length → startsWithSpace rest = false) :
    consumeWhitespace (buffer ++ rest) pos = consumeWhitespace buffer pos := by
  simp only [consumeWhitespace] at h ⊢
  rw [List.drop_append_of_le_length hpos, List.takeWhile_append]
  split_ifs with hall
  · rw [List.length_drop] at hall
    have hstop := h (by omega)
    have hnil : rest.takeWhile isWhitespace = [] := by
      cases rest with
      | nil => rfl
      | cons c rest => exact List.takeWhile_cons_of_neg (by simpa [startsWithSpace] using hstop)
    rw [hnil, List.append_nil, List.length_drop, hall]
  · rfl

/-- Whitespace that goes on is consumed further. -/
theorem lt_consumeWhitespace_append (hpos : pos ≤ buffer.length)
    (h : consumeWhitespace buffer pos = buffer.length) (hspace : startsWithSpace rest = true) :
    buffer.length < consumeWhitespace (buffer ++ rest) pos := by
  simp only [consumeWhitespace] at h ⊢
  have hall : ((buffer.drop pos).takeWhile isWhitespace).length = (buffer.drop pos).length := by
    rw [List.length_drop]
    omega
  rw [List.drop_append_of_le_length hpos, List.takeWhile_append, if_pos hall, List.length_append,
    List.length_drop]
  have hone : 0 < (rest.takeWhile isWhitespace).length := by
    cases rest with
    | nil => cases hspace
    | cons c rest =>
      rw [List.takeWhile_cons_of_pos (by simpa [startsWithSpace] using hspace)]
      exact Nat.succ_pos _
  omega

theorem drop_closed (t : Text) (pos : Nat) :
    t.drop (pos + ((t.drop pos).takeWhile isCloser).length) = (t.drop pos).dropWhile isCloser := by
  rw [← List.drop_drop]
  conv_lhs =>
    arg 2
    rw [← List.takeWhile_append_dropWhile (p := isCloser) (l := t.drop pos)]
  exact List.drop_left

theorem isAbbreviation_append (hpos : pos ≤ buffer.length) :
    isAbbreviation cfg (buffer ++ rest) pos = isAbbreviation cfg buffer pos := by
  unfold isAbbreviation lastToken
  rw [List.take_append_of_le_length hpos]

variable {previous : Option Char}

/-- A period before a digit stays one. -/
theorem isDecimal_append {i : Nat} (hi : i < buffer.length)
    (h : isDecimal buffer i previous = true) : isDecimal (buffer ++ rest) i previous = true := by
  simp only [isDecimal] at h ⊢
  rw [List.drop_append_of_le_length hi]
  cases hdrop : buffer.drop (i + 1) with
  | nil =>
    rw [hdrop, Bool.and_eq_true] at h
    cases h.2
  | cons c t => rwa [hdrop] at h

/-- What ends a sentence of the whole text ends one of the buffer. -/
theorem endsSentence_of_append {i : Nat} {ch : Char} (hi : i < buffer.length)
    (h : endsSentence cfg (buffer ++ rest) i ch previous = true) :
    endsSentence cfg buffer i ch previous = true := by
  simp only [endsSentence] at h ⊢
  rw [isAbbreviation_append hi] at h
  cases hdecimal : isDecimal buffer i previous with
  | true =>
    rw [isDecimal_append hi hdecimal] at h
    exact h
  | false =>
    simp only [Bool.and_eq_true, Bool.or_eq_true, Bool.not_eq_true', Bool.not_false,
      and_true] at h ⊢
    exact ⟨h.1, h.2.imp_right fun hperiod => ⟨hperiod.1.1, hperiod.2⟩⟩

/-- The converse, unless a digit follows a period at the end of the buffer. -/
theorem endsSentence_append {i : Nat} {ch : Char} (hi : i < buffer.length)
    (h : buffer.drop (i + 1) = [] → rest.head?.any Char.isDigit = false) :
    endsSentence cfg (buffer ++ rest) i ch previous = endsSentence cfg buffer i ch previous := by
  have hdecimal : isDecimal (buffer ++ rest) i previous = isDecimal buffer i previous := by
    simp only [isDecimal]
    rw [List.drop_append_of_le_length hi]
    cases hdrop : buffer.drop (i + 1) with
    | nil =>
      rw [List.nil_append, h hdrop]
      rfl
    | cons c t => rfl
  simp only [endsSentence]
  rw [isAbbreviation_append hi, hdecimal]

theorem isDigit_not_space {t : Text} (h : t.head?.any Char.isDigit = true) :
    startsWithSpace (t.dropWhile isCloser) = false := by
  cases t with
  | nil => rfl
  | cons c t =>
    have hdigit : c.isDigit = true := h
    rw [Char.isDigit, Bool.and_eq_true, decide_eq_true_eq, decide_eq_true_eq] at hdigit
    have hcloser : isCloser c = false := by
      apply Bool.eq_false_iff.2
      intro hc
      simp only [isCloser, Bool.or_eq_true, beq_iff_eq] at hc
      rcases hc with (((rfl | rfl) | rfl) | rfl) | rfl <;> revert hdigit <;> decide
    have hspace : isWhitespace c = false := by
      have hlow : 48 ≤ c.toNat := hdigit.1
      have hhigh : c.toNat ≤ 57 := hdigit.2
      simp only [isWhitespace, Bool.or_eq_false_iff, Bool.and_eq_false_iff, decide_eq_false_iff_not,
        beq_eq_false_iff_ne]
      omega
    rw [List.dropWhile_cons_of_neg (by simp [hcloser])]
    exact hspace

theorem terminalBoundary_eq (t : Text) (pos : Nat) :
    terminalBoundary t pos =
      if startsWithSpace ((t.drop pos).dropWhile isCloser) then
        some (consumeWhitespace t (pos + ((t.drop pos).takeWhile isCloser).length))
      else none := by
  rw [terminalBoundary, drop_closed]

theorem terminalBoundary_append_none (hpos : pos ≤ buffer.length)
    (h : terminalBoundary buffer pos = none) (hopen : (buffer.drop pos).all isCloser = true →
      startsWithSpace (rest.dropWhile isCloser) = false) :
    terminalBoundary (buffer ++ rest) pos = none := by
  rw [terminalBoundary_eq] at h ⊢
  split_ifs at h with hspace
  rw [if_neg]
  rw [List.drop_append_of_le_length hpos, List.dropWhile_append]
  split_ifs with hempty
  · rw [List.isEmpty_iff, List.dropWhile_eq_nil_iff] at hempty
    rw [hopen (List.all_eq_true.2 hempty)]
    exact Bool.false_ne_true
  · rwa [startsWithSpace_append fun hnil => hempty (List.isEmpty_iff.2 hnil)]

variable {boundary : Nat}

/-- A mark that the buffer proves stays proved. Only the whitespace behind it may go on. -/
theorem terminalBoundary_append (hpos : pos ≤ buffer.length)
    (h : terminalBoundary buffer pos = some boundary) :
    ∃ closed ≤ buffer.length, boundary = consumeWhitespace buffer closed ∧
      terminalBoundary (buffer ++ rest) pos = some (consumeWhitespace (buffer ++ rest) closed) := by
  have hle := (List.takeWhile_prefix isCloser : (buffer.drop pos).takeWhile _ <+: _).length_le
  rw [List.length_drop] at hle
  rw [terminalBoundary_eq] at h ⊢
  split_ifs at h with hspace
  have hne : (buffer.drop pos).dropWhile isCloser ≠ [] := by
    intro hnil
    rw [hnil] at hspace
    cases hspace
  have hclosers : ((buffer.drop pos).takeWhile isCloser).length ≠ (buffer.drop pos).length := by
    intro heq
    have hsplit :=
      congrArg List.length (@List.takeWhile_append_dropWhile _ isCloser (buffer.drop pos))
    rw [List.length_append, heq] at hsplit
    exact hne (List.length_eq_zero_iff.1 (by omega))
  cases h
  refine ⟨_, by omega, rfl, ?_⟩
  rw [List.drop_append_of_le_length hpos, List.dropWhile_append, List.takeWhile_append,
    if_neg hclosers, if_neg (fun hempty => hne (List.isEmpty_iff.1 hempty)),
    startsWithSpace_append hne, if_pos hspace]

/-- An open mark cuts behind the buffer once its whitespace has arrived. -/
theorem terminalBoundary_append_open (hpos : pos ≤ buffer.length)
    (hclosers : (buffer.drop pos).all isCloser = true)
    (hspace : startsWithSpace (rest.dropWhile isCloser) = true) :
    ∃ boundary, terminalBoundary (buffer ++ rest) pos = some boundary ∧
      buffer.length < boundary := by
  have hall := List.all_eq_true.1 hclosers
  have hdrop : ((buffer ++ rest).drop pos).dropWhile isCloser = rest.dropWhile isCloser := by
    rw [List.drop_append_of_le_length hpos, List.dropWhile_append_of_pos hall]
  refine ⟨_, by rw [terminalBoundary_eq, hdrop, if_pos hspace], ?_⟩
  rw [List.drop_append_of_le_length hpos, List.takeWhile_append_of_pos hall, List.length_append,
    List.length_drop]
  have hclosed : pos + (buffer.length - pos + (rest.takeWhile isCloser).length) =
      (buffer ++ rest.takeWhile isCloser).length := by
    rw [List.length_append]
    omega
  rw [hclosed]
  have hsplit : buffer ++ rest = buffer ++ rest.takeWhile isCloser ++ rest.dropWhile isCloser := by
    rw [List.append_assoc, List.takeWhile_append_dropWhile]
  rw [hsplit]
  have hend : consumeWhitespace (buffer ++ rest.takeWhile isCloser)
      (buffer ++ rest.takeWhile isCloser).length = (buffer ++ rest.takeWhile isCloser).length := by
    rw [consumeWhitespace, List.drop_length]
    rfl
  have hlt := lt_consumeWhitespace_append le_rfl hend hspace
  rw [List.length_append] at hlt ⊢
  omega

/-! ## Boundaries of the whole text -/

section Index

variable {i : Nat} {ch : Char} {previous : Option Char}

theorem markBoundary_append_none (hch : buffer[i]? = some ch)
    (h : markBoundary cfg buffer i ch (buffer.take i).getLast? = none)
    (hopen : ¬ OpenMark cfg buffer rest i) :
    markBoundary cfg (buffer ++ rest) i ch (buffer.take i).getLast? = none := by
  have hi := (List.getElem?_eq_some_iff.1 hch).1
  simp only [markBoundary] at h ⊢
  split_ifs at h with hnewline hends
  · rw [if_neg hnewline]
    split_ifs
    · apply terminalBoundary_append_none hi h
      intro hclosers
      refine Bool.eq_false_iff.2 fun hspace => hopen ⟨?_, hclosers, hspace⟩
      rw [hch]
      exact hends
    · rfl
  · rw [if_neg hnewline, if_neg fun happend => hends (endsSentence_of_append hi happend)]

theorem markBoundary_append (hi : i < buffer.length)
    (h : markBoundary cfg buffer i ch previous = some boundary) :
    ∃ pos ≤ buffer.length, boundary = consumeWhitespace buffer pos ∧
      markBoundary cfg (buffer ++ rest) i ch previous =
        some (consumeWhitespace (buffer ++ rest) pos) := by
  simp only [markBoundary] at h ⊢
  split_ifs at h with hnewline hends
  · cases h
    exact ⟨i + 1, hi, rfl, if_pos hnewline⟩
  · have hmore : buffer.drop (i + 1) ≠ [] := by
      intro hnil
      rw [terminalBoundary_eq, hnil] at h
      cases h
    rw [if_neg hnewline, endsSentence_append hi (fun hnil => absurd hnil hmore), if_pos hends]
    exact terminalBoundary_append hi h

/-- An open mark is a mark of the whole text, and cuts behind the buffer. -/
theorem markBoundary_append_open (hch : buffer[i]? = some ch) (hopen : OpenMark cfg buffer rest i) :
    ∃ boundary, markBoundary cfg (buffer ++ rest) i ch (buffer.take i).getLast? = some boundary ∧
      buffer.length < boundary := by
  have hi := (List.getElem?_eq_some_iff.1 hch).1
  obtain ⟨hends, hclosers, hspace⟩ := hopen
  rw [hch, Option.any_some] at hends
  have hdigit : rest.head?.any Char.isDigit = false := by
    apply Bool.eq_false_iff.2
    intro hdigit
    rw [isDigit_not_space hdigit] at hspace
    cases hspace
  have hnewline : ¬ (ch == '\n' && decide (cfg.minSentenceChars ≤ i + 1)) = true := by
    intro hnewline
    rw [Bool.and_eq_true, beq_iff_eq] at hnewline
    rw [hnewline.1, endsSentence_whitespace (by decide)] at hends
    cases hends
  simp only [markBoundary]
  rw [if_neg hnewline, endsSentence_append hi fun _ => hdigit, if_pos hends]
  exact terminalBoundary_append_open hi hclosers hspace

theorem softBoundary_append {soft : Option Nat} :
    softBoundary cfg (buffer ++ rest) i soft =
      (softBoundary cfg buffer i soft).bind fun _ =>
        soft.map (consumeWhitespace (buffer ++ rest)) := by
  simp only [softBoundary]
  split_ifs
  · cases soft <;> rfl
  · rfl

theorem markOrSoft_append_eq (hch : buffer[i]? = some ch) :
    markOrSoft cfg (buffer ++ rest) i =
      (markBoundary cfg (buffer ++ rest) i ch (buffer.take i).getLast?).or
        (softBoundary cfg (buffer ++ rest) i (lastEnd isSoftMark (buffer.take (i + 1)))) := by
  have hi := (List.getElem?_eq_some_iff.1 hch).1
  rw [markOrSoft, List.getElem?_append_left hi, hch, Option.bind_some,
    List.take_append_of_le_length hi.le, List.take_append_of_le_length hi]

theorem markOrSoft_append_none (hi : i < buffer.length) (h : markOrSoft cfg buffer i = none)
    (hopen : ¬ OpenMark cfg buffer rest i) : markOrSoft cfg (buffer ++ rest) i = none := by
  have hch := List.getElem?_eq_getElem hi
  rw [markOrSoft, hch, Option.bind_some, Option.or_eq_none_iff] at h
  rw [markOrSoft_append_eq hch, markBoundary_append_none hch h.1 hopen, softBoundary_append, h.2]
  rfl

/-- The whole text cuts at the same mark or soft mark. Only the whitespace behind it may go on. -/
theorem markOrSoft_append (h : markOrSoft cfg buffer i = some boundary)
    (hopen : ¬ OpenMark cfg buffer rest i) :
    ∃ pos ≤ buffer.length, boundary = consumeWhitespace buffer pos ∧
      markOrSoft cfg (buffer ++ rest) i = some (consumeWhitespace (buffer ++ rest) pos) := by
  obtain ⟨ch, hch, hcut⟩ := Option.bind_eq_some_iff.1 h
  have hi := (List.getElem?_eq_some_iff.1 hch).1
  rw [markOrSoft_append_eq hch]
  rcases Option.or_eq_some_iff.1 hcut with hmark | ⟨hnomark, hsoft⟩
  · obtain ⟨pos, hpos, hboundary, happend⟩ := markBoundary_append hi hmark
    exact ⟨pos, hpos, hboundary, by rw [happend]; rfl⟩
  · rw [markBoundary_append_none hch hnomark hopen, softBoundary_append, hsoft]
    unfold softBoundary at hsoft
    split_ifs at hsoft
    obtain ⟨soft, hmark, rfl⟩ := Option.map_eq_some_iff.1 hsoft
    have hb := lastEnd_bounds hmark
    rw [List.length_take] at hb
    exact ⟨soft, by omega, rfl, by rw [hmark]; rfl⟩

section

variable (hi : i < buffer.length)

include hi

theorem boundaryAt_eq :
    boundaryAt cfg buffer i = (markOrSoft cfg buffer i).or (hardBoundary cfg buffer i) := by
  rw [boundaryAt, markOrSoft, List.getElem?_eq_getElem hi, Option.bind_some, Option.bind_some,
    Option.or_assoc]

theorem boundaryAt_append_eq :
    boundaryAt cfg (buffer ++ rest) i =
      (markOrSoft cfg (buffer ++ rest) i).or (hardBoundary cfg buffer i) := by
  rw [boundaryAt_eq (by rw [List.length_append]; omega), hardBoundary, hardBoundary,
    bestWordBoundary,
    bestWordBoundary, List.take_append_of_le_length hi]

theorem boundaryAt_append_none (h : boundaryAt cfg buffer i = none)
    (hopen : ¬ OpenMark cfg buffer rest i) : boundaryAt cfg (buffer ++ rest) i = none := by
  rw [boundaryAt_eq hi, Option.or_eq_none_iff] at h
  rw [boundaryAt_append_eq hi, markOrSoft_append_none hi h.1 hopen, h.2]
  rfl

theorem boundaryAt_append_some (h : boundaryAt cfg buffer i = some boundary)
    (hopen : ¬ OpenMark cfg buffer rest i)
    (hedge : markOrSoft cfg buffer i = some buffer.length → startsWithSpace rest = false) :
    boundaryAt cfg (buffer ++ rest) i = some boundary := by
  rw [boundaryAt_eq hi] at h
  rw [boundaryAt_append_eq hi]
  rcases Option.or_eq_some_iff.1 h with hcut | ⟨hnone, hhard⟩
  · obtain ⟨pos, hpos, rfl, happend⟩ := markOrSoft_append hcut hopen
    rw [happend, consumeWhitespace_append hpos fun hend => hedge (by rw [hcut, hend])]
    rfl
  · rw [markOrSoft_append_none hi hnone hopen, hhard]
    rfl

/-- With an open mark, or with whitespace that goes on, the whole text cuts behind the buffer. -/
theorem boundaryAt_append_behind (h : OpenMark cfg buffer rest i ∨
      markOrSoft cfg buffer i = some buffer.length ∧ startsWithSpace rest = true) :
    ∃ boundary, boundaryAt cfg (buffer ++ rest) i = some boundary ∧ buffer.length < boundary := by
  rw [boundaryAt_append_eq hi]
  by_cases hopen : OpenMark cfg buffer rest i
  · have hch := List.getElem?_eq_getElem hi
    obtain ⟨boundary, hmark, hlt⟩ := markBoundary_append_open hch hopen
    exact ⟨boundary, by rw [markOrSoft_append_eq hch, hmark]; rfl, hlt⟩
  · obtain ⟨hcut, hspace⟩ := h.resolve_left hopen
    obtain ⟨pos, hpos, hend, happend⟩ := markOrSoft_append hcut hopen
    exact ⟨_, by rw [happend]; rfl, lt_consumeWhitespace_append hpos hend.symm hspace⟩

end

/-- When the whole text makes the cut of the buffer, no mark up to it is open. -/
theorem findBoundary_append_settled (hat : boundaryAt cfg buffer i = some boundary)
    (hfirst : ∀ j < i, boundaryAt cfg buffer j = none) (hi : i < buffer.length)
    (h : findBoundary cfg (buffer ++ rest) false = some boundary) (j : Nat) (hj : j ≤ i) :
    ¬ (OpenMark cfg buffer rest j ∨
      j = i ∧ markOrSoft cfg buffer i = some buffer.length ∧ startsWithSpace rest = true) := by
  have hle := (boundaryAt_bounds hat).2
  obtain ⟨k, hk, hbefore⟩ := findBoundary_eq_some_iff.1 h
  -- A boundary behind the buffer is not the one found.
  have hnot : ∀ l < buffer.length, l ≤ k → ¬ (OpenMark cfg buffer rest l ∨
      markOrSoft cfg buffer l = some buffer.length ∧ startsWithSpace rest = true) := by
    intro l hl hlk hopen
    obtain ⟨b, hb, hlt⟩ := boundaryAt_append_behind hl hopen
    rcases Nat.lt_or_eq_of_le hlk with hlt' | rfl
    · rw [hbefore l hlt'] at hb
      cases hb
    · rw [hk] at hb
      cases hb
      omega
  have hik : i ≤ k := by
    by_contra hlt
    have hnone := boundaryAt_append_none (by omega) (hfirst k (by omega))
      (fun hopen => hnot k (by omega) le_rfl (.inl hopen))
    rw [hk] at hnone
    cases hnone
  rintro (hopen | ⟨rfl, hedge⟩)
  · exact hnot j (by omega) (by omega) (.inl hopen)
  · exact hnot j hi hik (.inr hedge)

end Index

/-- **A cut hangs exactly when the whole text would cut elsewhere, or when a blank remainder is
thrown away before the text goes on.** -/
theorem hangs_iff (h : findBoundary cfg buffer false = some boundary) :
    Hangs cfg buffer rest ↔
      findBoundary cfg (buffer ++ rest) false ≠ some boundary ∨
        (buffer.drop boundary ≠ [] ∧ isBlank (buffer.drop boundary) = true ∧
          isBlank rest = false) := by
  obtain ⟨i, hat, hfirst⟩ := findBoundary_eq_some_iff.1 h
  have hi : i < buffer.length := by
    obtain ⟨ch, hch, -⟩ := boundaryAt_cases hat
    exact (List.getElem?_eq_some_iff.1 hch).1
  constructor
  · rintro ⟨j, hj, b, hb, hbefore, hhangs⟩
    have hji : j = i := by
      rcases Nat.lt_trichotomy j i with hlt | heq | hgt
      · rw [Option.mem_def, hfirst j hlt] at hb
        cases hb
      · exact heq
      · rw [hbefore i hgt] at hat
        cases hat
    subst hji
    obtain rfl : b = boundary := Option.some.inj ((Option.mem_def.1 hb).symm.trans hat)
    rcases hhangs with ⟨l, hl, hopen⟩ | hedge | hblank
    · exact .inl fun hsame => findBoundary_append_settled hat hfirst hi hsame l hl (.inl hopen)
    · exact .inl fun hsame =>
        findBoundary_append_settled hat hfirst hi hsame j le_rfl (.inr ⟨rfl, hedge⟩)
    · exact .inr hblank
  · intro hcases
    by_contra hhangs
    have hnot : ¬ HangsAt cfg buffer rest i boundary :=
      fun hhere => hhangs ⟨i, hi, boundary, hat, hfirst, hhere⟩
    unfold HangsAt at hnot
    rw [not_or, not_or] at hnot
    obtain ⟨hopen, hedge, hblank⟩ := hnot
    rcases hcases with hne | hdiscard
    · refine hne (findBoundary_eq_some_iff.2 ⟨i, ?_, ?_⟩)
      · exact boundaryAt_append_some hi hat (fun hmark => hopen ⟨i, le_rfl, hmark⟩)
          fun hend => Bool.eq_false_iff.2 fun hspace => hedge ⟨hend, hspace⟩
      · intro j hj
        exact boundaryAt_append_none (by omega) (hfirst j hj) fun hmark => hopen ⟨j, hj.le, hmark⟩
    · exact hblank hdiscard

/-! ## Chunks and the whole text -/

/-- The state with more text in the buffer. -/
def SentenceSegmenter.append (s : SentenceSegmenter) (t : Text) : SentenceSegmenter :=
  { s with buffer := s.buffer ++ t }

variable {s : SentenceSegmenter}

theorem cutSentence_append (hle : boundary ≤ s.buffer.length) :
    cutSentence (s.append rest) boundary =
      (cutSentence s boundary).map fun cut => (cut.1.append rest, cut.2) := by
  simp only [cutSentence, SentenceSegmenter.append]
  rw [List.take_append_of_le_length hle, List.drop_append_of_le_length hle]
  cases slice (s.buffer.take boundary)
    (utf8Len (s.buffer.take boundary) - utf8Len (trimStart (s.buffer.take boundary)))
    (utf8Len (trimEnd (s.buffer.take boundary))) with
  | none => rfl
  | some sentence =>
    dsimp only
    split_ifs <;> rfl

variable {s' : SentenceSegmenter}

theorem cutSentence_buffer {emitted : List SentenceSpan}
    (h : cutSentence s boundary = .ok (s', emitted)) : s'.buffer = s.buffer.drop boundary := by
  unfold cutSentence at h
  dsimp only at h
  split at h
  · cases h
  · split_ifs at h <;> cases h <;> rfl

/-- Enough fuel is as good as any. -/
theorem extractLoop_fuel {flush : Bool} {fuel more : Nat} (hfuel : s.buffer.length < fuel)
    (hmore : s.buffer.length < more) :
    extractLoop cfg flush fuel s = extractLoop cfg flush more s := by
  induction fuel generalizing s more with
  | zero => exact absurd hfuel (Nat.not_lt_zero _)
  | succ fuel ih =>
    obtain ⟨more, rfl⟩ := Nat.exists_eq_succ_of_ne_zero (Nat.ne_zero_of_lt hmore)
    simp only [extractLoop]
    cases hfind : findBoundary cfg s.buffer flush with
    | none => rfl
    | some boundary =>
      obtain ⟨hpos, hle⟩ := findBoundary_bounds hfind
      dsimp only
      cases hcut : cutSentence s boundary with
      | error fault => rfl
      | ok cut =>
        have hbuffer : cut.1.buffer = s.buffer.drop boundary := cutSentence_buffer hcut
        have hshorter : cut.1.buffer.length < fuel ∧ cut.1.buffer.length < more := by
          rw [hbuffer, List.length_drop]
          omega
        simp only [bind, Except.bind]
        rw [ih hshorter.1 hshorter.2]


theorem extract_none {flush : Bool} (hfind : findBoundary cfg s.buffer flush = none) :
    extract cfg flush s = .ok (s, []) := by
  rw [extract, extractLoop, hfind]

/-- One round of the extraction loop. -/
theorem extract_some {flush : Bool} {boundary : Nat} {s' : SentenceSegmenter}
    {emitted : List SentenceSpan} (hfind : findBoundary cfg s.buffer flush = some boundary)
    (hcut : cutSentence s boundary = .ok (s', emitted)) :
    extract cfg flush s =
      if isBlank s'.buffer then .ok (discardBuffer s', emitted)
      else (extract cfg flush s').map fun out => (out.1, emitted ++ out.2) := by
  have hshorter : s'.buffer.length < s.buffer.length := by
    obtain ⟨hpos, hle⟩ := findBoundary_bounds hfind
    rw [cutSentence_buffer hcut, List.length_drop]
    omega
  rw [extract, extractLoop, hfind]
  dsimp only
  rw [hcut]
  simp only [bind, Except.bind]
  rw [extractLoop_fuel hshorter (Nat.lt_succ_self _)]
  split_ifs
  · rfl
  · simp only [extract]
    cases extractLoop cfg flush (s'.buffer.length + 1) s' <;> rfl

/-- From `s` the whole text gives `emitted` and goes on from `s'`, unless nothing is left and all
that is still to come is blank. -/
def Resumes (cfg : SentenceSegmenterConfig) (rest : Text) (s : SentenceSegmenter)
    (emitted : List SentenceSpan) (s' : SentenceSegmenter) : Prop :=
  extract cfg false (s.append rest) =
      (extract cfg false (s'.append rest)).map (fun out => (out.1, emitted ++ out.2)) ∨
    isBlank rest = true ∧ s'.buffer = [] ∧
      ∃ t, extract cfg false (s.append rest) = .ok (t, emitted) ∧ t.buffer = []

theorem Resumes.refl (s : SentenceSegmenter) : Resumes cfg rest s [] s := by
  left
  cases extract cfg false (s.append rest) <;> rfl

theorem Resumes.cons {s' s'' : SentenceSegmenter} {span : SentenceSpan} {more : List SentenceSpan}
    (hround : extract cfg false (s.append rest) =
      (extract cfg false (s'.append rest)).map fun out => (out.1, [span] ++ out.2))
    (h : Resumes cfg rest s' more s'') : Resumes cfg rest s (span :: more) s'' := by
  rcases h with hgoes | ⟨hrest, hnil, t, ht, htnil⟩
  · left
    rw [hround, hgoes]
    cases extract cfg false (s''.append rest) <;> rfl
  · refine .inr ⟨hrest, hnil, t, ?_, htnil⟩
    rw [hround, ht]
    rfl

/-- One settled cut: the whole text makes it too. -/
theorem extract_append_round (hvalid : cfg.Valid)
    (hfind : findBoundary cfg s.buffer false = some boundary)
    (hclean : ¬ CutsBlank cfg s.buffer ∧ ¬ Hangs cfg s.buffer rest) :
    ∃ s' span, cutSentence s boundary = .ok (s', [span]) ∧ s'.buffer = s.buffer.drop boundary ∧
      ¬ (s'.buffer ≠ [] ∧ isBlank s'.buffer = true ∧ isBlank rest = false) ∧
      extract cfg false (s.append rest) =
        if isBlank (s'.buffer ++ rest) then .ok (discardBuffer (s'.append rest), [span])
        else (extract cfg false (s'.append rest)).map fun out => (out.1, [span] ++ out.2) := by
  have hsettled := (not_congr (hangs_iff hfind)).1 hclean.2
  rw [not_or, not_not] at hsettled
  obtain ⟨hwhole, hkeep⟩ := hsettled
  have hcut : isBlank (s.buffer.take boundary) = false :=
    Bool.eq_false_iff.2 fun hblank => hclean.1 ((isBlank_cut hvalid hfind).1 hblank)
  obtain ⟨s', span, hok, hbuffer, -⟩ := cutSentence_ok hcut
  refine ⟨s', span, hok, hbuffer, ?_, ?_⟩
  · rw [hbuffer]
    exact hkeep
  · have happend : cutSentence (s.append rest) boundary = .ok (s'.append rest, [span]) := by
      rw [cutSentence_append (findBoundary_bounds hfind).2, hok]
      rfl
    exact @extract_some cfg (s.append rest) false boundary (s'.append rest) [span] hwhole happend

/-- The cut that leaves a blank. -/
theorem Resumes.last {span : SentenceSpan} (hblank : isBlank s'.buffer = true)
    (hkeep : ¬ (s'.buffer ≠ [] ∧ isBlank s'.buffer = true ∧ isBlank rest = false)) (hround :
      extract cfg false (s.append rest) = if isBlank (s'.buffer ++ rest) then .ok (discardBuffer
      (s'.append rest), [span]) else (extract cfg false (s'.append rest)).map fun out => (out.1,
      [span] ++ out.2)) : Resumes cfg rest s [span] (discardBuffer s') := by
  rw [isBlank_append, hblank, Bool.true_and] at hround
  cases hrest : isBlank rest with
  | true =>
    rw [hrest, if_pos rfl] at hround
    exact .inr ⟨hrest, rfl, _, hround, rfl⟩
  | false =>
    -- What is left of the buffer is empty, so that discarding it changes nothing.
    have hnil : s'.buffer = [] := by
      by_contra hne
      exact hkeep ⟨hne, hblank, hrest⟩
    have hdiscard : discardBuffer s' = s' := by
      cases s'
      simp only [discardBuffer] at hnil ⊢
      simp [hnil]
    rw [hrest, if_neg Bool.false_ne_true] at hround
    rw [hdiscard]
    exact .cons hround (.refl s')

/-- A push of settled cuts: the whole text gives the same spans and goes on from the state that
the push leaves. -/
theorem push_settled (hvalid : cfg.Valid) {fuel : Nat} (hfuel : s.buffer.length < fuel)
    (hclean : ∀ buffer ∈ (scanned cfg fuel s.buffer).1,
      ¬ CutsBlank cfg buffer ∧ ¬ Hangs cfg buffer rest) :
    ∃ s' emitted, extractLoop cfg false fuel s = .ok (s', emitted) ∧
      s'.buffer = (scanned cfg fuel s.buffer).2 ∧ findBoundary cfg s'.buffer false = none ∧
      Resumes cfg rest s emitted s' := by
  induction fuel generalizing s with
  | zero => exact absurd hfuel (Nat.not_lt_zero _)
  | succ fuel ih =>
    have hhere := hclean s.buffer (mem_scanned fuel s.buffer)
    simp only [scanned] at hclean ⊢
    simp only [extractLoop]
    cases hfind : findBoundary cfg s.buffer false with
    | none => exact ⟨s, [], rfl, rfl, hfind, .refl s⟩
    | some boundary =>
      rw [hfind] at hclean
      dsimp only at hclean ⊢
      obtain ⟨s', span, hok, hbuffer, hkeep, hround⟩ := extract_append_round hvalid hfind hhere
      rw [hok]
      rw [← hbuffer] at hclean ⊢
      simp only [bind, Except.bind, pure, Except.pure]
      cases hblank : isBlank s'.buffer with
      | true => exact ⟨_, _, rfl, rfl, rfl, .last hblank hkeep hround⟩
      | false =>
        rw [hblank, if_neg Bool.false_ne_true] at hclean
        rw [isBlank_append, hblank, Bool.false_and, if_neg Bool.false_ne_true] at hround
        rw [if_neg Bool.false_ne_true, if_neg Bool.false_ne_true]
        have hshorter : s'.buffer.length < fuel := by
          obtain ⟨hpos, hle⟩ := findBoundary_bounds hfind
          rw [hbuffer, List.length_drop]
          omega
        obtain ⟨s'', more, hmore, hkept, hstable, hrun⟩ :=
          ih hshorter fun buffer hmem => hclean buffer (List.mem_cons_of_mem _ hmem)
        rw [hmore]
        exact ⟨s'', span :: more, rfl, hkept, hstable, .cons hround hrun⟩

variable {deltas : List Text}

theorem segmentFrom_push {delta : Text} {emitted : List SentenceSpan}
    (h : pushSpans cfg delta s = .ok (s', emitted)) :
    segmentFrom cfg (delta :: deltas) s = (segmentFrom cfg deltas s').map (emitted ++ ·) := by
  rw [segmentFrom, h]
  cases hrest : segmentFrom cfg deltas s' <;> simp only [bind, Except.bind, hrest] <;> rfl

theorem finishSpans_blank (h : isBlank s.buffer = true) : finishSpans cfg s = .ok (s, []) := by
  apply extract_none
  rw [findBoundary, if_pos rfl, if_pos h]

/-- Blank text gives no spans. -/
theorem segmentFrom_blank (hvalid : cfg.Valid) (hbuffer : isBlank s.buffer = true)
    (hdeltas : isBlank deltas.flatten = true)
    (hclean : ∀ scan ∈ scans cfg deltas s.buffer, ¬ CutsBlank cfg scan.1) :
    segmentFrom cfg deltas s = .ok [] := by
  induction deltas generalizing s with
  | nil =>
    rw [segmentFrom, finishSpans_blank hbuffer]
    rfl
  | cons delta deltas ih =>
    rw [List.flatten_cons, isBlank_append, Bool.and_eq_true] at hdeltas
    have hpushed : isBlank (s.buffer ++ delta) = true := by
      rw [isBlank_append, hbuffer, hdeltas.1]
      rfl
    unfold scans scanned at hclean
    have hnone : findBoundary cfg (s.buffer ++ delta) false = none := by
      cases hfind : findBoundary cfg (s.buffer ++ delta) false with
      | none => rfl
      | some boundary =>
        have hcut : isBlank ((s.buffer ++ delta).take boundary) = true :=
          isBlank_iff.2 fun c hc => isBlank_iff.1 hpushed c (List.mem_of_mem_take hc)
        refine absurd ((cutsBlank_iff hvalid).1 ⟨boundary, hfind, hcut⟩)
          (hclean (s.buffer ++ delta, deltas.flatten) (List.mem_append_left _ ?_))
        rw [hfind]
        dsimp only
        split_ifs <;> exact List.mem_map_of_mem List.mem_cons_self
    rw [hnone] at hclean
    rw [segmentFrom_push (extract_none hnone),
      ih hpushed hdeltas.2 fun scan hmem => hclean scan (List.mem_append_right _ hmem)]
    rfl

/-- From a state in which nothing is left to cut. -/
theorem segmentFrom_flatten (hvalid : cfg.Valid) (hstable : findBoundary cfg s.buffer false = none)
    (hclean : ∀ scan ∈ scans cfg deltas s.buffer, ¬ CutsBlank cfg scan.1 ∧ ¬ Hangs cfg scan.1
      scan.2) : segmentFrom cfg deltas s = segmentFrom cfg [deltas.flatten] s := by
  induction deltas generalizing s with
  | nil =>
    have hsame : pushSpans cfg [] s = .ok (s, []) := by
      rw [pushSpans, List.append_nil]
      exact extract_none hstable
    rw [List.flatten_nil, segmentFrom_push hsame]
    cases segmentFrom cfg [] s <;> rfl
  | cons delta deltas ih =>
    obtain ⟨s', emitted, hpush, hkept, hstable', hrun⟩ :=
      @push_settled cfg deltas.flatten (s.append delta) hvalid _ (Nat.lt_succ_self _)
        fun buffer hmem => hclean (buffer, deltas.flatten)
          (List.mem_append_left _ (List.mem_map_of_mem hmem))
    have hchunk : pushSpans cfg delta s = .ok (s', emitted) := hpush
    have htail : ∀ scan ∈ scans cfg deltas s'.buffer,
        ¬ CutsBlank cfg scan.1 ∧ ¬ Hangs cfg scan.1 scan.2 := by
      rw [hkept]
      exact fun scan hmem => hclean scan (List.mem_append_right _ hmem)
    have hwhole : pushSpans cfg (delta :: deltas).flatten s =
        extract cfg false ((s.append delta).append deltas.flatten) := by
      rw [pushSpans, List.flatten_cons, SentenceSegmenter.append, SentenceSegmenter.append,
        List.append_assoc]
    rw [segmentFrom_push hchunk]
    rcases hrun with hgoes | ⟨hrest, hnil, t, ht, htnil⟩
    · rw [ih hstable' htail]
      have hnext : pushSpans cfg deltas.flatten s' =
          extract cfg false (s'.append deltas.flatten) := rfl
      cases hout : extract cfg false (s'.append deltas.flatten) with
      | error fault =>
        rw [hout] at hgoes hnext
        rw [segmentFrom, hnext, segmentFrom, hwhole, hgoes]
        rfl
      | ok out =>
        rw [hout] at hgoes hnext
        rw [segmentFrom_push hnext, segmentFrom_push (hwhole.trans hgoes)]
        cases segmentFrom cfg [] out.1 <;> simp [Except.map]
    · have hnone : segmentFrom cfg deltas s' = .ok [] := by
        refine segmentFrom_blank hvalid ?_ hrest fun scan hmem => (htail scan hmem).1
        rw [hnil]
        rfl
      have hfinish : segmentFrom cfg [] t = .ok [] := by
        rw [segmentFrom, finishSpans_blank (by rw [htnil]; rfl)]
        rfl
      rw [hnone, segmentFrom_push (hwhole.trans ht), hfinish]

/-- **A stream none of whose cuts hangs on the text still to come, and none of which is blank, is
segmented like the whole text in one push.** -/
theorem segmentation_independent_of_chunking (hvalid : cfg.Valid) (deltas : List Text)
    (hclean : ∀ scan ∈ scans cfg deltas [], ¬ CutsBlank cfg scan.1 ∧ ¬ Hangs cfg scan.1 scan.2) :
    ∃ spans, segment cfg deltas = .ok spans ∧ segment cfg [deltas.flatten] = .ok spans := by
  have hstart : Progress [] {} [] := ⟨[], rfl, rfl, rfl, Tiles.nil⟩
  have hsame : segment cfg deltas = segment cfg [deltas.flatten] :=
    segmentFrom_flatten hvalid rfl hclean
  rcases segmentFrom_cases hvalid deltas hstart with
    ⟨⟨scan, hmem, hcuts⟩, -⟩ | ⟨-, spans, hok, -⟩
  · exact absurd hcuts (hclean scan hmem).1
  · have hspans : segment cfg deltas = .ok spans := hok
    exact ⟨spans, hspans, hsame ▸ hspans⟩

theorem segmentation_independent_of_chunking_twoSentences :
    ({} : SentenceSegmenterConfig).Valid ∧
      ∃ spans, segment {} Sample.twoSentences = .ok spans ∧
        segment {} [Sample.twoSentences.flatten] = .ok spans :=
  have hvalid := SentenceSegmenterConfig.default_valid
  ⟨hvalid, segmentation_independent_of_chunking hvalid Sample.twoSentences (by decide +kernel)⟩

/-- Whitespace split over two deltas: what the second delta brings of it counts as the start of the
next sentence, which is then long enough to end at `Hi!`. -/
def Sample.splitWhitespace : List Text :=
  ["The first sentence ends here. ".toList, List.replicate 17 ' ' ++ "Hi! ok".toList]

theorem split_whitespace_changes_spans :
    ({} : SentenceSegmenterConfig).Valid ∧
      (segment {} Sample.splitWhitespace).map List.length = .ok 3 ∧
      (segment {} [Sample.splitWhitespace.flatten]).map List.length = .ok 2 ∧
      segment {} Sample.splitWhitespace ≠ segment {} [Sample.splitWhitespace.flatten] := by
  have hchunks : (segment {} Sample.splitWhitespace).map List.length = .ok 3 := by decide +kernel
  have hwhole : (segment {} [Sample.splitWhitespace.flatten]).map List.length = .ok 2 := by
    decide +kernel
  refine ⟨SentenceSegmenterConfig.default_valid, hchunks, hwhole, ?_⟩
  intro hsame
  rw [hsame, hwhole] at hchunks
  cases hchunks

end NpcRuntime.Sentence
