import Mathlib.Data.Nat.Find
import NpcRuntime.Sentence.Segmenter

/-!
# Boundaries, index by index

`find_boundary` walks over the buffer with two accumulators, the last soft mark and the previous
character. Both are functions of the text before the index, so what the walk decides at an index
is a function of the buffer and the index (`boundaryAt`), and the walk returns the boundary of the
first index that has one (`findBoundary_eq_some_iff`).
-/

namespace NpcRuntime.Sentence

open Text

/-- The boundary `find_boundary` sees at index `i`. -/
def boundaryAt (cfg : SentenceSegmenterConfig) (buffer : Text) (i : Nat) : Option Nat :=
  buffer[i]?.bind fun ch =>
    (markBoundary cfg buffer i ch (buffer.take i).getLast?).or
      ((softBoundary cfg buffer i (lastEnd isSoftMark (buffer.take (i + 1)))).or
        (hardBoundary cfg buffer i))

variable {cfg : SentenceSegmenterConfig}

/-! ## The walk -/

/-- One round of the walk. -/
theorem scan_cons (before rest : Text) (ch : Char) :
    scan cfg (before ++ ch :: rest) (ch :: rest) before.length (lastEnd isSoftMark before)
      before.getLast? =
      (boundaryAt cfg (before ++ ch :: rest) before.length).or
        (scan cfg (before ++ ch :: rest) rest (before ++ [ch]).length
          (lastEnd isSoftMark (before ++ [ch]))
          (before ++ [ch]).getLast?) := by
  have hchar : (before ++ ch :: rest)[before.length]? = some ch := by simp
  have hbefore : (before ++ ch :: rest).take before.length = before := List.take_left
  have hupto : (before ++ ch :: rest).take (before.length + 1) = before ++ [ch] := by
    rw [List.take_append]
    simp
  rw [scan, boundaryAt, hchar, Option.bind_some, hbefore, hupto, lastEnd_concat]
  simp only [List.length_append, List.length_singleton, List.getLast?_concat]
  cases (markBoundary cfg (before ++ ch :: rest) before.length ch before.getLast?).or
    ((softBoundary cfg (before ++ ch :: rest) before.length
      (if isSoftMark ch = true then some (before.length + 1) else lastEnd isSoftMark before)).or
      (hardBoundary cfg (before ++ ch :: rest) before.length)) <;> rfl

/-- The walk from an index on finds the first boundary from there on. -/
theorem scan_eq_some_iff (before rest : Text) (boundary : Nat) :
    scan cfg (before ++ rest) rest before.length (lastEnd isSoftMark before) before.getLast? =
      some boundary ↔
      ∃ i, before.length ≤ i ∧ boundaryAt cfg (before ++ rest) i = some boundary ∧
        ∀ j, before.length ≤ j → j < i → boundaryAt cfg (before ++ rest) j = none := by
  induction rest generalizing before with
  | nil =>
    constructor
    · intro h
      cases h
    · rintro ⟨i, hi, hat, -⟩
      rw [boundaryAt, List.append_nil, List.getElem?_eq_none hi] at hat
      cases hat
  | cons ch rest ih =>
    have hnext := ih (before ++ [ch])
    rw [List.append_assoc, List.singleton_append] at hnext
    rw [scan_cons, Option.or_eq_some_iff, hnext, List.length_append, List.length_singleton]
    constructor
    · rintro (hhere | ⟨hnone, i, hi, hat, hfirst⟩)
      · exact ⟨before.length, le_rfl, hhere, fun j hj hlt => absurd hlt (by omega)⟩
      · refine ⟨i, by omega, hat, ?_⟩
        intro j hj hlt
        rcases Nat.lt_or_eq_of_le hj with hlater | rfl
        · exact hfirst j hlater hlt
        · exact hnone
    · rintro ⟨i, hi, hat, hfirst⟩
      rcases Nat.lt_or_eq_of_le hi with hlater | rfl
      · exact .inr ⟨hfirst _ le_rfl hlater, i, hlater, hat, fun j hj hlt => hfirst j (by omega) hlt⟩
      · exact .inl hat

variable {buffer : Text} {boundary : Nat}

/-- **`find_boundary` returns the boundary of the first index that has one.** -/
theorem findBoundary_eq_some_iff :
    findBoundary cfg buffer false = some boundary ↔
      ∃ i, boundaryAt cfg buffer i = some boundary ∧ ∀ j < i, boundaryAt cfg buffer j = none := by
  have h := @scan_eq_some_iff cfg [] buffer boundary
  rw [List.nil_append, List.length_nil] at h
  simp only [Nat.zero_le, true_and, true_implies] at h
  exact h

/-! ## Boundaries are inside the buffer -/

variable {pos : Nat}

theorem consumeWhitespace_bounds (h : pos ≤ buffer.length) :
    pos ≤ consumeWhitespace buffer pos ∧ consumeWhitespace buffer pos ≤ buffer.length := by
  have hle := (List.takeWhile_prefix isWhitespace : (buffer.drop pos).takeWhile _ <+: _).length_le
  rw [List.length_drop] at hle
  simp only [consumeWhitespace]
  omega

theorem terminalBoundary_bounds (h : pos ≤ buffer.length)
    (hb : terminalBoundary buffer pos = some boundary) :
    pos ≤ boundary ∧ boundary ≤ buffer.length := by
  have hle := (List.takeWhile_prefix isCloser : (buffer.drop pos).takeWhile _ <+: _).length_le
  rw [List.length_drop] at hle
  unfold terminalBoundary at hb
  dsimp only at hb
  split_ifs at hb
  cases hb
  have hclosed : pos + ((buffer.drop pos).takeWhile isCloser).length ≤ buffer.length := by omega
  have hbounds := consumeWhitespace_bounds hclosed
  omega

theorem bestWordBoundary_bounds (hpos : 0 < pos) :
    0 < bestWordBoundary buffer pos ∧ bestWordBoundary buffer pos ≤ pos := by
  simp only [bestWordBoundary]
  split_ifs with hwords
  · exact ⟨hpos, le_rfl⟩
  · have hle := (List.rdropWhile_prefix (fun ch => !isWhitespace ch) (buffer.take pos)).length_le
    rw [List.length_take] at hle
    exact ⟨List.length_pos_of_ne_nil hwords, by omega⟩

variable {i : Nat} {ch : Char}

/-- A mark cuts after itself. -/
theorem markBoundary_bounds {previous : Option Char} (hi : i < buffer.length)
    (h : markBoundary cfg buffer i ch previous = some boundary) :
    i + 1 ≤ boundary ∧ boundary ≤ buffer.length := by
  unfold markBoundary at h
  split_ifs at h
  · cases h
    exact consumeWhitespace_bounds hi
  · exact terminalBoundary_bounds hi h

theorem boundaryAt_cases (h : boundaryAt cfg buffer i = some boundary) :
    ∃ ch, buffer[i]? = some ch ∧
      (markBoundary cfg buffer i ch (buffer.take i).getLast? = some boundary ∨
        (markBoundary cfg buffer i ch (buffer.take i).getLast? = none ∧
          ∃ soft, lastEnd isSoftMark (buffer.take (i + 1)) = some soft ∧
            cfg.softBoundaryChars ≤ i + 1 ∧
            boundary = consumeWhitespace buffer soft) ∨
        (markBoundary cfg buffer i ch (buffer.take i).getLast? = none ∧
          softBoundary cfg buffer i (lastEnd isSoftMark (buffer.take (i + 1))) = none ∧
          cfg.hardLimitChars ≤ i + 1 ∧ boundary = bestWordBoundary buffer (i + 1))) := by
  obtain ⟨ch, hch, hb⟩ := Option.bind_eq_some_iff.1 h
  refine ⟨ch, hch, ?_⟩
  rw [Option.or_eq_some_iff, Option.or_eq_some_iff] at hb
  rcases hb with hmark | ⟨hmark, hsoft | ⟨hsoft, hhard⟩⟩
  · exact .inl hmark
  · unfold softBoundary at hsoft
    split_ifs at hsoft with hlimit
    obtain ⟨soft, hs, rfl⟩ := Option.map_eq_some_iff.1 hsoft
    exact .inr (.inl ⟨hmark, soft, hs, hlimit, rfl⟩)
  · unfold hardBoundary at hhard
    split_ifs at hhard with hlimit
    cases hhard
    exact .inr (.inr ⟨hmark, hsoft, hlimit, rfl⟩)

/-- A boundary cuts off at least one character, and no more than there are. -/
theorem boundaryAt_bounds (h : boundaryAt cfg buffer i = some boundary) :
    0 < boundary ∧ boundary ≤ buffer.length := by
  obtain ⟨ch, hch, hcase⟩ := boundaryAt_cases h
  have hi := (List.getElem?_eq_some_iff.1 hch).1
  rcases hcase with hmark | ⟨-, soft, hsoft, -, rfl⟩ | ⟨-, -, -, rfl⟩
  · have := markBoundary_bounds hi hmark
    omega
  · have hb := lastEnd_bounds hsoft
    rw [List.length_take] at hb
    have hle : soft ≤ buffer.length := by omega
    have := consumeWhitespace_bounds hle
    omega
  · have hb := @bestWordBoundary_bounds buffer (i + 1) (Nat.succ_pos i)
    omega

theorem findBoundary_bounds {flush : Bool} (h : findBoundary cfg buffer flush = some boundary) :
    0 < boundary ∧ boundary ≤ buffer.length := by
  cases flush with
  | true =>
    unfold findBoundary at h
    rw [if_pos rfl] at h
    split_ifs at h with hblank
    cases h
    refine ⟨List.length_pos_of_ne_nil fun hnil => hblank ?_, le_rfl⟩
    rw [hnil]
    rfl
  | false =>
    obtain ⟨i, hat, -⟩ := findBoundary_eq_some_iff.1 h
    exact boundaryAt_bounds hat

/-! ## Blank cuts -/

/-- The character at index `i` goes on with a word, and cuts nothing. -/
def goesOn (cfg : SentenceSegmenterConfig) (buffer : Text) (i : Nat) : Bool :=
  buffer[i]?.all fun ch => !isWhitespace ch && !isSoftMark ch &&
    (markBoundary cfg buffer i ch (buffer.take i).getLast?).isNone

/-- The kinds of buffer whose leading whitespace is cut off on its own: a newline in it from
`min_sentence_chars` on; as much of it as the hard limit; or a word behind it that runs up to the
hard limit without a soft mark and without a sentence mark that cuts. -/
def CutsBlank (cfg : SentenceSegmenterConfig) (buffer : Text) : Prop :=
  let lead := (buffer.takeWhile isWhitespace).length
  (∃ i < lead, cfg.minSentenceChars ≤ i + 1 ∧ buffer[i]? = some '\n') ∨
    cfg.hardLimitChars ≤ lead ∨
    (0 < lead ∧ cfg.hardLimitChars ≤ buffer.length ∧
      ∀ i < cfg.hardLimitChars, lead ≤ i → goesOn cfg buffer i = true)

instance (cfg : SentenceSegmenterConfig) (buffer : Text) : Decidable (CutsBlank cfg buffer) := by
  unfold CutsBlank; infer_instance

theorem goesOn_iff (hch : buffer[i]? = some ch) :
    goesOn cfg buffer i = true ↔ isWhitespace ch = false ∧ isSoftMark ch = false ∧
      markBoundary cfg buffer i ch (buffer.take i).getLast? = none := by
  simp [goesOn, hch, and_assoc]

theorem bestWordBoundary_eq (buffer : Text) (pos : Nat) :
    bestWordBoundary buffer pos = (lastEnd isWhitespace (buffer.take pos)).getD pos := by
  simp only [bestWordBoundary, lastEnd]
  split_ifs <;> rfl

/-- Whitespace before the limit keeps the word boundary behind it. -/
theorem lt_bestWordBoundary (hi : i < pos) (hch : buffer[i]? = some ch)
    (hspace : isWhitespace ch = true) : i < bestWordBoundary buffer pos := by
  have htake : (buffer.take pos)[i]? = some ch := by rw [List.getElem?_take_of_lt hi, hch]
  obtain ⟨e, he, hlt⟩ := exists_lastEnd htake hspace
  rw [bestWordBoundary_eq, he]
  exact hlt

theorem isSoftMark_whitespace (h : isWhitespace ch = true) : isSoftMark ch = false := by
  simp only [isSoftMark]
  apply Bool.eq_false_iff.2
  intro hmark
  simp only [Bool.or_eq_true, beq_iff_eq] at hmark
  rcases hmark with ((rfl | rfl) | rfl) | rfl <;> revert h <;> decide

/-- A soft mark stands behind the leading whitespace. -/
theorem lead_lt_soft {n soft : Nat} (h : lastEnd isSoftMark (buffer.take n) = some soft) :
    (buffer.takeWhile isWhitespace).length < soft := by
  obtain ⟨d, hd, hmark⟩ := lastEnd_char h
  have hb := lastEnd_bounds h
  rw [List.length_take] at hb
  rw [List.getElem?_take_of_lt (by omega)] at hd
  by_contra hle
  obtain ⟨e, he, hwhite⟩ :=
    getElem?_lead (show soft - 1 < (buffer.takeWhile isWhitespace).length by omega)
  rw [hd] at he
  cases he
  rw [isSoftMark_whitespace hwhite] at hmark
  cases hmark

/-- Whitespace ends no sentence. -/
theorem endsSentence_whitespace {previous : Option Char} (h : isWhitespace ch = true) :
    endsSentence cfg buffer i ch previous = false := by
  have hne : ch ≠ '!' ∧ ch ≠ '?' ∧ ch ≠ '.' := by
    refine ⟨?_, ?_, ?_⟩ <;> rintro rfl <;> revert h <;> decide
  simp only [endsSentence]
  simp [hne.1, hne.2.1, hne.2.2]

/-- A newline in the leading whitespace cuts at the end of it. -/
theorem consumeWhitespace_lead (h : pos ≤ (buffer.takeWhile isWhitespace).length) :
    consumeWhitespace buffer pos = (buffer.takeWhile isWhitespace).length := by
  induction buffer generalizing pos with
  | nil => simpa [consumeWhitespace] using h
  | cons ch buffer ih =>
    cases pos with
    | zero => simp [consumeWhitespace]
    | succ pos =>
      by_cases hch : isWhitespace ch = true
      · rw [List.takeWhile_cons_of_pos hch, List.length_cons] at h ⊢
        rw [← ih (Nat.le_of_succ_le_succ h)]
        simp only [consumeWhitespace]
        rw [List.drop_succ_cons]
        omega
      · rw [List.takeWhile_cons_of_neg hch] at h
        exact absurd h (Nat.not_succ_le_zero _)

/-- A boundary at an index of the leading whitespace is inside it. -/
theorem boundaryAt_lead (hi : i < (buffer.takeWhile isWhitespace).length)
    (h : boundaryAt cfg buffer i = some boundary) :
    boundary ≤ (buffer.takeWhile isWhitespace).length := by
  obtain ⟨c, hc, hspace⟩ := getElem?_lead hi
  obtain ⟨ch, hch, hcase⟩ := boundaryAt_cases h
  obtain rfl : c = ch := Option.some.inj (hc.symm.trans hch)
  rcases hcase with hmark | ⟨-, soft, hsoft, -, rfl⟩ | ⟨-, -, -, rfl⟩
  · unfold markBoundary at hmark
    rw [endsSentence_whitespace hspace, if_neg Bool.false_ne_true] at hmark
    split_ifs at hmark
    cases hmark
    exact (consumeWhitespace_lead hi).le
  · have hb := lastEnd_bounds hsoft
    rw [List.length_take] at hb
    have hlt := lead_lt_soft hsoft
    omega
  · have := @bestWordBoundary_bounds buffer (i + 1) (Nat.succ_pos i)
    omega

/-- At the hard limit there is a boundary. -/
theorem boundaryAt_ne_none_of_hard (hi : i < buffer.length) (hhard : cfg.hardLimitChars ≤ i + 1) :
    boundaryAt cfg buffer i ≠ none := by
  intro hnone
  rw [boundaryAt, List.getElem?_eq_getElem hi, Option.bind_some, Option.or_eq_none_iff,
    Option.or_eq_none_iff, hardBoundary, if_pos hhard] at hnone
  cases hnone.2.2

theorem boundaryAt_eq_none (hch : buffer[i]? = some ch) (h : boundaryAt cfg buffer i = none) :
    markBoundary cfg buffer i ch (buffer.take i).getLast? = none := by
  rw [boundaryAt, hch, Option.bind_some, Option.or_eq_none_iff] at h
  exact h.1

/-- The walk stops at an index that has a boundary, or before it. -/
theorem exists_findBoundary (h : boundaryAt cfg buffer i ≠ none) :
    ∃ j ≤ i, ∃ boundary, findBoundary cfg buffer false = some boundary ∧
      boundaryAt cfg buffer j = some boundary := by
  classical
  have hex : ∃ i, boundaryAt cfg buffer i ≠ none := ⟨i, h⟩
  obtain ⟨boundary, hb⟩ := Option.ne_none_iff_exists'.1 (Nat.find_spec hex)
  refine ⟨Nat.find hex, Nat.find_min' hex h, boundary, ?_, hb⟩
  exact findBoundary_eq_some_iff.2 ⟨_, hb, fun j hj => not_not.1 (Nat.find_min hex hj)⟩

/-- The word behind the leading whitespace is not cut off before the hard limit. -/
theorem boundaryAt_word (hlead : 0 < (buffer.takeWhile isWhitespace).length) (hword : ∀ i <
      cfg.hardLimitChars, (buffer.takeWhile isWhitespace).length ≤ i → goesOn cfg buffer i =
      true) (hi : i < cfg.hardLimitChars) (hword_i : (buffer.takeWhile isWhitespace).length ≤ i)
    (h : boundaryAt cfg buffer i = some boundary) :
    boundary ≤ (buffer.takeWhile isWhitespace).length := by
  obtain ⟨ch, hch, hcase⟩ := boundaryAt_cases h
  rcases hcase with hmark | ⟨-, soft, hsoft, -, rfl⟩ | ⟨-, -, -, rfl⟩
  · rw [((goesOn_iff hch).1 (hword i hi hword_i)).2.2] at hmark
    cases hmark
  · obtain ⟨d, hd, hmark⟩ := lastEnd_char hsoft
    have hb := lastEnd_bounds hsoft
    rw [List.length_take] at hb
    rw [List.getElem?_take_of_lt (by omega)] at hd
    have hlt := lead_lt_soft hsoft
    rw [((goesOn_iff hd).1 (hword _ (by omega) (by omega))).2.1] at hmark
    cases hmark
  · obtain ⟨c, hc, hwhite⟩ := getElem?_lead (Nat.sub_lt hlead Nat.one_pos)
    have htake : (buffer.take (i + 1))[(buffer.takeWhile isWhitespace).length - 1]? = some c := by
      rw [List.getElem?_take_of_lt (by omega), hc]
    obtain ⟨e, he, -⟩ := exists_lastEnd htake hwhite
    rw [bestWordBoundary_eq, he, Option.getD_some]
    by_contra hgt
    obtain ⟨d, hd, hspace⟩ := lastEnd_char he
    have hb := lastEnd_bounds he
    rw [List.length_take] at hb
    rw [List.getElem?_take_of_lt (by omega)] at hd
    rw [((goesOn_iff hd).1 (hword (e - 1) (by omega) (by omega))).1] at hspace
    cases hspace

/-- Where only the hard limit cuts, the characters before it that are no whitespace go on. -/
theorem goesOn_of_hard {j : Nat} {c : Char} (hlimit : cfg.softBoundaryChars ≤ i + 1)
    (hch : buffer[i]? = some ch)
    (hmark : markBoundary cfg buffer i ch (buffer.take i).getLast? = none)
    (hnosoft : softBoundary cfg buffer i (lastEnd isSoftMark (buffer.take (i + 1))) = none)
    (hfirst : ∀ j < i, boundaryAt cfg buffer j = none) (hj : j ≤ i) (hc : buffer[j]? = some c)
    (hword : isWhitespace c = false) : goesOn cfg buffer j = true := by
  refine (goesOn_iff hc).2 ⟨hword, ?_, ?_⟩
  · apply Bool.eq_false_iff.2
    intro hsoft
    have htake : (buffer.take (i + 1))[j]? = some c := by
      rw [List.getElem?_take_of_lt (by omega), hc]
    obtain ⟨e, he, -⟩ := exists_lastEnd htake hsoft
    rw [softBoundary, if_pos hlimit, he] at hnosoft
    cases hnosoft
  · rcases Nat.lt_or_eq_of_le hj with hlt | rfl
    · exact boundaryAt_eq_none hc (hfirst j hlt)
    · rwa [Option.some.inj (hch.symm.trans hc)] at hmark

/-- A blank cut comes from a buffer of one of the three kinds. -/
theorem cutsBlank_of_findBoundary (hvalid : cfg.Valid)
    (hfind : findBoundary cfg buffer false = some boundary)
    (hblank : boundary ≤ (buffer.takeWhile isWhitespace).length) : CutsBlank cfg buffer := by
  obtain ⟨hmin, hsoftMin, hhardSoft⟩ := hvalid
  have hpos := (findBoundary_bounds hfind).1
  obtain ⟨i, hat, hfirst⟩ := findBoundary_eq_some_iff.1 hfind
  obtain ⟨ch, hch, hcase⟩ := boundaryAt_cases hat
  have hi := (List.getElem?_eq_some_iff.1 hch).1
  rcases hcase with hmark | ⟨-, soft, hsoft, -, rfl⟩ | ⟨hmark, hnosoft, hhard, rfl⟩
  · have hb := markBoundary_bounds hi hmark
    have hlt : i < (buffer.takeWhile isWhitespace).length := by omega
    obtain ⟨c, hc, hwhite⟩ := getElem?_lead hlt
    obtain rfl : c = ch := Option.some.inj (hc.symm.trans hch)
    unfold markBoundary at hmark
    rw [endsSentence_whitespace hwhite, if_neg Bool.false_ne_true] at hmark
    split_ifs at hmark with hnewline
    rw [Bool.and_eq_true, beq_iff_eq, decide_eq_true_eq] at hnewline
    exact .inl ⟨i, hlt, hnewline.2, by rw [hch, hnewline.1]⟩
  · have hb := lastEnd_bounds hsoft
    rw [List.length_take] at hb
    have hle : soft ≤ buffer.length := by omega
    have hcut := consumeWhitespace_bounds hle
    have hlt := lead_lt_soft hsoft
    omega
  · by_cases hinside : cfg.hardLimitChars ≤ (buffer.takeWhile isWhitespace).length
    · exact .inr (.inl hinside)
    -- The walk stops at the hard limit, so it saw no other boundary before it.
    refine .inr (.inr ⟨by omega, by omega, ?_⟩)
    intro j hj hlead
    have hc := List.getElem?_eq_getElem (show j < buffer.length by omega)
    refine goesOn_of_hard (by omega) hch hmark hnosoft hfirst (by omega) hc ?_
    apply Bool.eq_false_iff.2
    intro hwhite
    have := lt_bestWordBoundary (show j < i + 1 by omega) hc hwhite
    omega

/-- A buffer of one of the three kinds has an index with a boundary, and the first one cuts inside
the leading whitespace. -/
theorem findBoundary_of_cutsBlank (hvalid : cfg.Valid) (h : CutsBlank cfg buffer) :
    ∃ boundary, findBoundary cfg buffer false = some boundary ∧
      boundary ≤ (buffer.takeWhile isWhitespace).length := by
  obtain ⟨hmin, hsoftMin, hhardSoft⟩ := hvalid
  have hlen := (List.takeWhile_prefix isWhitespace : buffer.takeWhile _ <+: _).length_le
  rcases h with ⟨i, hi, hmin, hnewline⟩ | hhard | ⟨hlead, hhard, hword⟩
  · have hsome : boundaryAt cfg buffer i ≠ none := by
      intro hnone
      have hmark := boundaryAt_eq_none hnewline hnone
      rw [markBoundary, if_pos (by simp [hmin])] at hmark
      cases hmark
    obtain ⟨j, hj, boundary, hfind, hat⟩ := exists_findBoundary hsome
    exact ⟨boundary, hfind, boundaryAt_lead (by omega) hat⟩
  · have hsome : boundaryAt cfg buffer (cfg.hardLimitChars - 1) ≠ none :=
      boundaryAt_ne_none_of_hard (by omega) (by omega)
    obtain ⟨j, hj, boundary, hfind, hat⟩ := exists_findBoundary hsome
    exact ⟨boundary, hfind, boundaryAt_lead (by omega) hat⟩
  · have hsome : boundaryAt cfg buffer (cfg.hardLimitChars - 1) ≠ none :=
      boundaryAt_ne_none_of_hard (by omega) (by omega)
    obtain ⟨j, hj, boundary, hfind, hat⟩ := exists_findBoundary hsome
    refine ⟨boundary, hfind, ?_⟩
    rcases Nat.lt_or_ge j (buffer.takeWhile isWhitespace).length with hlt | hge
    · exact boundaryAt_lead hlt hat
    · exact boundaryAt_word hlead hword (by omega) hge hat

/-- **The first boundary cuts off a blank exactly for the buffers of the three kinds.** -/
theorem cutsBlank_iff (hvalid : cfg.Valid) :
    (∃ boundary, findBoundary cfg buffer false = some boundary ∧
      isBlank (buffer.take boundary) = true) ↔ CutsBlank cfg buffer := by
  constructor
  · rintro ⟨boundary, hfind, hblank⟩
    rw [isBlank_take_iff (findBoundary_bounds hfind).2] at hblank
    exact cutsBlank_of_findBoundary hvalid hfind hblank
  · intro hkind
    obtain ⟨boundary, hfind, hle⟩ := findBoundary_of_cutsBlank hvalid hkind
    exact ⟨boundary, hfind, (isBlank_take_iff (findBoundary_bounds hfind).2).2 hle⟩

end NpcRuntime.Sentence
