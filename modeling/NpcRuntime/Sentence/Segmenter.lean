import NpcRuntime.Lib.Text

/-!
# Sentence segmenter

`runtime-core/src/sentence.rs`: provider deltas are appended to a buffer, and every call cuts off
the sentences it can already see.

Positions inside the buffer are counted in characters here. The source counts them in bytes, but
every offset it computes is the end of a character; the byte offsets it stores (`text_start_bytes`,
`text_end_bytes`, `buffer_source_start`) are bytes here too. A slice that Rust would panic on is
`Fault.panic`, and the extraction loop carries fuel, which never runs out (`spans_partition_iff`).
-/

namespace NpcRuntime.Sentence

open Text

structure SentenceSegmenterConfig where
  minSentenceChars : Nat := 18
  softBoundaryChars : Nat := 96
  hardLimitChars : Nat := 220
  abbreviations : List Text :=
    ["mr.", "mrs.", "ms.", "dr.", "prof.", "sr.", "jr.", "st.", "vs.", "e.g.", "i.e.", "etc.",
      "u.s."].map String.toList

/-- The assertions of `SentenceSegmenter::new`. -/
def SentenceSegmenterConfig.Valid (cfg : SentenceSegmenterConfig) : Prop :=
  0 < cfg.minSentenceChars ∧ cfg.minSentenceChars ≤ cfg.softBoundaryChars ∧
    cfg.softBoundaryChars ≤ cfg.hardLimitChars

instance (cfg : SentenceSegmenterConfig) : Decidable cfg.Valid := by
  unfold SentenceSegmenterConfig.Valid; infer_instance

theorem SentenceSegmenterConfig.default_valid : ({} : SentenceSegmenterConfig).Valid := by decide

structure SentenceSpan where
  sentenceId : Nat
  textStartBytes : Nat
  textEndBytes : Nat
  text : Text
deriving DecidableEq

structure SentenceSegmenter where
  buffer : Text := []
  bufferSourceStart : Nat := 0
  nextSentenceId : Nat := 1
deriving DecidableEq

/-! ## Character classes -/

def isSoftMark (ch : Char) : Bool := ch == ',' || ch == ';' || ch == ':' || ch == '\u2014'

def isCloser (ch : Char) : Bool :=
  ch == '"' || ch == '\'' || ch == ')' || ch == ']' || ch == '}'

/-- The characters `is_abbreviation` trims from a token. -/
def isOpener (ch : Char) : Bool := ch == '"' || ch == '\'' || ch == '(' || ch == '['

/-- The text goes on with whitespace. -/
def startsWithSpace (t : Text) : Bool := t.head?.any isWhitespace

/-! ## Boundaries -/

section Boundaries

variable (cfg : SentenceSegmenterConfig) (buffer : Text)

def consumeWhitespace (pos : Nat) : Nat := pos + ((buffer.drop pos).takeWhile isWhitespace).length

/-- The cut after a sentence mark: past its closing quotes and the whitespace that must follow. At
the end of the buffer the mark is held back. -/
def terminalBoundary (pos : Nat) : Option Nat :=
  let closed := pos + ((buffer.drop pos).takeWhile isCloser).length
  if startsWithSpace (buffer.drop closed) then some (consumeWhitespace buffer closed) else none

/-- The end of the last whitespace before `pos`, or `pos`. -/
def bestWordBoundary (pos : Nat) : Nat :=
  let words := (buffer.take pos).rdropWhile fun ch => !isWhitespace ch
  if words = [] then pos else words.length

/-- Whether the period at index `i` stands between two digits. -/
def isDecimal (i : Nat) (previous : Option Char) : Bool :=
  previous.any Char.isDigit && (buffer.drop (i + 1)).head?.any Char.isDigit

/-- `trim_matches` and `to_ascii_lowercase` of the last word before `pos`. -/
def lastToken (pos : Nat) : Text :=
  ((((buffer.take pos).rtakeWhile fun ch => !isWhitespace ch).dropWhile isOpener).rdropWhile
    isOpener).map Char.toLower

def isAbbreviation (pos : Nat) : Bool :=
  let token := lastToken buffer pos
  cfg.abbreviations.contains token ||
    (decide (utf8Len token ≤ 3) && token.getLast? == some '.' && token.dropLast.all Char.isAlpha)

/-- The character at index `i` may end a sentence. -/
def endsSentence (i : Nat) (ch : Char) (previous : Option Char) : Bool :=
  decide (cfg.minSentenceChars ≤ i + 1) &&
    (ch == '!' || ch == '?' ||
      (ch == '.' && !isDecimal buffer i previous && !isAbbreviation cfg buffer (i + 1)))

/-- The cut at a newline or a sentence mark. -/
def markBoundary (i : Nat) (ch : Char) (previous : Option Char) : Option Nat :=
  if ch == '\n' && decide (cfg.minSentenceChars ≤ i + 1) then
    some (consumeWhitespace buffer (i + 1))
  else if endsSentence cfg buffer i ch previous then terminalBoundary buffer (i + 1)
  else none

/-- The cut at the last soft mark, once the soft limit is reached. -/
def softBoundary (i : Nat) (lastSoft : Option Nat) : Option Nat :=
  if cfg.softBoundaryChars ≤ i + 1 then lastSoft.map (consumeWhitespace buffer) else none

/-- The cut at the hard limit. -/
def hardBoundary (i : Nat) : Option Nat :=
  if cfg.hardLimitChars ≤ i + 1 then some (bestWordBoundary buffer (i + 1)) else none

/-- The scan of `find_boundary` from index `i` on. -/
def scan : Text → Nat → Option Nat → Option Char → Option Nat
  | [], _, _, _ => none
  | ch :: rest, i, lastSoft, previous =>
    let lastSoft := if isSoftMark ch then some (i + 1) else lastSoft
    match (markBoundary cfg buffer i ch previous).or
      ((softBoundary cfg buffer i lastSoft).or (hardBoundary cfg buffer i)) with
    | some boundary => some boundary
    | none => scan rest (i + 1) lastSoft (some ch)

def findBoundary (flush : Bool) : Option Nat :=
  if flush then if isBlank buffer then none else some buffer.length
  else scan cfg buffer buffer 0 none none

end Boundaries

/-! ## Extraction -/

inductive Fault where
  | panic
  | outOfFuel
deriving DecidableEq

/-- The body of the extraction loop: cut off `boundary` characters. The next state keeps the whole
remainder. -/
def cutSentence (s : SentenceSegmenter) (boundary : Nat) :
    Except Fault (SentenceSegmenter × List SentenceSpan) :=
  let raw := s.buffer.take boundary
  let leading := utf8Len raw - utf8Len (trimStart raw)
  let trimmedEnd := utf8Len (trimEnd raw)
  match slice raw leading trimmedEnd with
  | none => .error .panic
  | some sentence =>
    let next : SentenceSegmenter :=
      { buffer := s.buffer.drop boundary
        bufferSourceStart := s.bufferSourceStart + utf8Len raw
        nextSentenceId := s.nextSentenceId }
    if sentence = [] then .ok (next, [])
    else
      .ok ({ next with nextSentenceId := s.nextSentenceId + 1 },
        [{ sentenceId := s.nextSentenceId
           textStartBytes := s.bufferSourceStart + leading
           textEndBytes := s.bufferSourceStart + trimmedEnd
           text := sentence }])

/-- The early break: a blank remainder is discarded. -/
def discardBuffer (s : SentenceSegmenter) : SentenceSegmenter :=
  { s with bufferSourceStart := s.bufferSourceStart + utf8Len s.buffer, buffer := [] }

def extractLoop (cfg : SentenceSegmenterConfig) (flush : Bool) :
    Nat → SentenceSegmenter → Except Fault (SentenceSegmenter × List SentenceSpan)
  | 0, _ => .error .outOfFuel
  | fuel + 1, s =>
    match findBoundary cfg s.buffer flush with
    | none => .ok (s, [])
    | some boundary => do
      let (s, emitted) ← cutSentence s boundary
      if isBlank s.buffer then return (discardBuffer s, emitted)
      else
        let (s, more) ← extractLoop cfg flush fuel s
        return (s, emitted ++ more)

def extract (cfg : SentenceSegmenterConfig) (flush : Bool) (s : SentenceSegmenter) :
    Except Fault (SentenceSegmenter × List SentenceSpan) :=
  extractLoop cfg flush (s.buffer.length + 1) s

def pushSpans (cfg : SentenceSegmenterConfig) (delta : Text) (s : SentenceSegmenter) :
    Except Fault (SentenceSegmenter × List SentenceSpan) :=
  extract cfg false { s with buffer := s.buffer ++ delta }

def finishSpans (cfg : SentenceSegmenterConfig) (s : SentenceSegmenter) :
    Except Fault (SentenceSegmenter × List SentenceSpan) :=
  extract cfg true s

/-- All spans of a stream: `push_spans` for each delta and then `finish_spans`. -/
def segmentFrom (cfg : SentenceSegmenterConfig) : List Text → SentenceSegmenter →
    Except Fault (List SentenceSpan)
  | [], s => do
    let (_, spans) ← finishSpans cfg s
    return spans
  | delta :: deltas, s => do
    let (s, spans) ← pushSpans cfg delta s
    let more ← segmentFrom cfg deltas s
    return spans ++ more

def segment (cfg : SentenceSegmenterConfig) (deltas : List Text) :
    Except Fault (List SentenceSpan) :=
  segmentFrom cfg deltas {}

end NpcRuntime.Sentence
