import NpcRuntime.Lib.Text

/-!
# Regular expressions, leftmost first

Search and replacement as the `regex` crate does them: of the matches that start leftmost, the one
that a backtracking matcher prefers. `results` lists the matches at one place in that order. A class
is a set of characters, and only classes repeat without a bound.

Which characters are word characters or digits is in the Unicode tables of the crate; they are a
parameter, known where the character is ASCII.

Expressions that match no empty text are meant: a search that finds one moves on by a character.
-/

namespace NpcRuntime

structure UnicodeTables where
  /-- `\w`. -/
  word : Char → Bool
  /-- `\d`. -/
  digit : Char → Bool
  word_ascii : ∀ c : Char, c.toNat < 128 → word c = (c.isAlphanum || c = '_')
  digit_ascii : ∀ c : Char, c.toNat < 128 → digit c = c.isDigit

/-- Tables that know no characters but those of ASCII. -/
def UnicodeTables.ascii : UnicodeTables where
  word c := c.isAlphanum || c = '_'
  digit := Char.isDigit
  word_ascii _ _ := rfl
  digit_ascii _ _ := rfl

inductive Regex where
  | empty
  /-- A character class. -/
  | set (accepts : Char → Bool)
  | seq (first second : Regex)
  /-- Either expression; the first one is preferred. -/
  | alt (preferred other : Regex)
  /-- A class repeated so many times or more, as often as possible, or as rarely if `lazy`. -/
  | many (accepts : Char → Bool) (least : Nat) (lazy : Bool)
  /-- The capture group `$1`. -/
  | group (body : Regex)
  /-- `\b`. -/
  | boundary

/-- A match: the text, its first capture group, and what follows it. -/
structure Hit where
  taken : Text
  group : Option Text
  rest : Text
deriving DecidableEq

namespace Regex

/-- Expressions one after the other. -/
def sequence : List Regex → Regex
  | [] => .empty
  | [re] => re
  | re :: more => .seq re (sequence more)

/-- One of the expressions; earlier ones are preferred. -/
def choice : List Regex → Regex
  | [] => .set fun _ => false
  | [re] => re
  | re :: more => .alt re (choice more)

/-- `re?`. -/
def optional (re : Regex) : Regex := .alt re .empty

/-- `re{least,least + more}`. -/
def between (re : Regex) : (least more : Nat) → Regex
  | 0, 0 => .empty
  | 0, more + 1 => optional (.seq re (between re 0 more))
  | least + 1, more => .seq re (between re least more)

def literal (t : Text) : Regex := sequence (t.map fun c => .set (· = c))

variable (tables : UnicodeTables)

def wordAt (c : Option Char) : Bool := c.any tables.word

/-- The matches at one place, preferred ones first; `before` is the character in front of it. -/
def results : Regex → Option Char → Text → List Hit
  | .empty, _, rest => [⟨[], none, rest⟩]
  | .set _, _, [] => []
  | .set accepts, _, c :: rest => if accepts c then [⟨[c], none, rest⟩] else []
  | .seq first second, before, rest =>
    (results first before rest).flatMap fun hit =>
      (results second (hit.taken.getLast?.or before) hit.rest).map fun hit' =>
        ⟨hit.taken ++ hit'.taken, hit.group.or hit'.group, hit'.rest⟩
  | .alt preferred other, before, rest => results preferred before rest ++ results other before rest
  | .many accepts least lazy, _, rest =>
    let longest := (rest.takeWhile accepts).length
    let lengths := List.range' least (longest + 1 - least)
    (if lazy then lengths else lengths.reverse).map fun n => ⟨rest.take n, none, rest.drop n⟩
  | .group body, before, rest =>
    (results body before rest).map fun hit => { hit with group := some hit.taken }
  | .boundary, before, rest =>
    if wordAt tables before ≠ wordAt tables rest.head? then [⟨[], none, rest⟩] else []

/-- The text as the search goes through it: characters between the matches, and the matches. -/
inductive Segment where
  | kept (c : Char)
  | found (hit : Hit)
deriving DecidableEq

/-- The search from one place on; the next `skip` characters belong to a match. -/
def segments (re : Regex) : Option Char → Nat → Text → List Segment
  | _, _, [] => []
  | _, skip + 1, c :: rest => segments re (some c) skip rest
  | before, 0, c :: rest =>
    match (results tables re before (c :: rest)).head? with
    | some hit => .found hit :: segments re (some c) (hit.taken.length - 1) rest
    | none => .kept c :: segments re (some c) 0 rest

def Segment.hit? : Segment → Option Hit
  | .kept _ => none
  | .found hit => some hit

/-- `find_iter`. -/
def findIter (re : Regex) (t : Text) : List Hit :=
  (segments tables re none 0 t).filterMap Segment.hit?

/-- A replacement: `$1`, where it starts with it, and a text. -/
structure Replacement where
  keepsGroup : Bool
  text : Text

def Replacement.of (replacement : Replacement) (hit : Hit) : Text :=
  (if replacement.keepsGroup then hit.group.getD [] else []) ++ replacement.text

def Segment.replaced (replacement : Replacement) : Segment → Text
  | .kept c => [c]
  | .found hit => replacement.of hit

/-- `replace_all`. -/
def replaceAll (re : Regex) (replacement : Replacement) (t : Text) : Text :=
  (segments tables re none 0 t).flatMap (Segment.replaced replacement)

end Regex

end NpcRuntime
