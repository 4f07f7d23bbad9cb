import NpcRuntime.Lib.Bytes

/-!
# Lines of a byte stream

`BufRead::lines`: the pieces between line feeds, without a carriage return at their end, and what
follows the last line feed unless it is empty. `unfinished` is that last piece.
-/

namespace NpcRuntime

def lineFeed : UInt8 := 0x0a

/-- A line without the carriage return in front of its line feed. -/
def stripReturn (line : Bytes) : Bytes := if line.getLast? = some 0x0d then line.dropLast else line

/-- The lines from within a line on, of which `current` has been read. -/
def linesFrom (current : Bytes) : Bytes → List Bytes
  | [] => if current = [] then [] else [current]
  | b :: rest =>
    if b = lineFeed then stripReturn current :: linesFrom [] rest
    else linesFrom (current ++ [b]) rest

def lines (bytes : Bytes) : List Bytes := linesFrom [] bytes

/-- What follows the last line feed, in front of which `current` has been read. -/
def unfinishedFrom (current : Bytes) : Bytes → Bytes
  | [] => current
  | b :: rest => unfinishedFrom (if b = lineFeed then [] else current ++ [b]) rest

def unfinished (bytes : Bytes) : Bytes := unfinishedFrom [] bytes

/-- The lines that end with a line feed. -/
def finishedFrom (current : Bytes) : Bytes → List Bytes
  | [] => []
  | b :: rest =>
    if b = lineFeed then stripReturn current :: finishedFrom [] rest
    else finishedFrom (current ++ [b]) rest

def finished (bytes : Bytes) : List Bytes := finishedFrom [] bytes

theorem linesFrom_eq (current bytes : Bytes) :
    linesFrom current bytes = finishedFrom current bytes ++
      if unfinishedFrom current bytes = [] then [] else [unfinishedFrom current bytes] := by
  induction bytes generalizing current with
  | nil => rfl
  | cons b rest ih =>
    by_cases hb : b = lineFeed
    · simp only [linesFrom, finishedFrom, unfinishedFrom, hb, if_true, List.cons_append]
      rw [ih]
    · simp only [linesFrom, finishedFrom, unfinishedFrom, hb, if_false]
      exact ih _

/-- The lines are the finished ones, and what is left unfinished. -/
theorem lines_eq (bytes : Bytes) :
    lines bytes = finished bytes ++ if unfinished bytes = [] then [] else [unfinished bytes] :=
  linesFrom_eq [] bytes

theorem lines_of_unfinished_eq_nil {bytes : Bytes} (h : unfinished bytes = []) :
    lines bytes = finished bytes := by
  rw [lines_eq, h, if_pos rfl, List.append_nil]

theorem finishedFrom_append (current bytes more : Bytes) :
    finishedFrom current (bytes ++ more) =
      finishedFrom current bytes ++ finishedFrom (unfinishedFrom current bytes) more := by
  induction bytes generalizing current with
  | nil => rfl
  | cons b rest ih =>
    by_cases hb : b = lineFeed
    · simp only [List.cons_append, finishedFrom, unfinishedFrom, hb, if_true]
      rw [ih]
    · simp only [List.cons_append, finishedFrom, unfinishedFrom, hb, if_false]
      exact ih _

theorem unfinishedFrom_append (current bytes more : Bytes) :
    unfinishedFrom current (bytes ++ more) = unfinishedFrom (unfinishedFrom current bytes) more := by
  induction bytes generalizing current with
  | nil => rfl
  | cons b rest ih => exact ih _

theorem finishedFrom_line (current : Bytes) {line : Bytes} (h : lineFeed ∉ line) :
    finishedFrom current (line ++ [lineFeed]) = [stripReturn (current ++ line)] := by
  induction line generalizing current with
  | nil => simp [finishedFrom]
  | cons b rest ih =>
    have hb : b ≠ lineFeed := fun hb => h (hb ▸ List.mem_cons_self)
    simp only [List.cons_append, finishedFrom, hb, if_false]
    rw [ih _ fun hrest => h (List.mem_cons_of_mem _ hrest), List.append_assoc]
    rfl

theorem unfinishedFrom_line (current line : Bytes) :
    unfinishedFrom current (line ++ [lineFeed]) = [] := by
  rw [unfinishedFrom_append]
  simp [unfinishedFrom]

/-- **A line that is appended** comes behind the finished lines, and what was left unfinished is its
beginning. -/
theorem lines_append_line (bytes : Bytes) {line : Bytes} (h : lineFeed ∉ line) :
    lines (bytes ++ (line ++ [lineFeed])) =
      finished bytes ++ [stripReturn (unfinished bytes ++ line)] := by
  have hunfinished : unfinished (bytes ++ (line ++ [lineFeed])) = [] := by
    show unfinishedFrom [] _ = []
    rw [unfinishedFrom_append, unfinishedFrom_line]
  rw [lines_of_unfinished_eq_nil hunfinished]
  show finishedFrom [] _ = _
  rw [finishedFrom_append, finishedFrom_line _ h]
  rfl

end NpcRuntime
