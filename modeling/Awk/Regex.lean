import Awk.Regex.Machine
import Awk.Regex.Parser

/-! Regular expressions: the first match in a text, all matches, and the text between them. Of the
matches that start first, the one that the alternatives and repetitions prefer is taken. -/

namespace Awk

/-- A regular expression that is ready to run. -/
structure Regex where
  code : Regex.Code
  deriving Repr

namespace Regex

/-- The expression of a text, if it is valid. -/
def compile? (pattern : String) : Option Regex := (Pattern.parse pattern).map fun p => ⟨p.compile⟩

/-- The first match at or after a place, given the character before it and the text after. -/
def findFrom (r : Regex) (before : Option Char) (place : Nat) (s : List Char) : Option Match :=
  search r.code before place [] none s

/-- The first match in a text. -/
def find? (r : Regex) (text : String) : Option Match := r.findFrom none 0 text.toList

/-- Whether there is a match in a text. -/
def isMatch (r : Regex) (text : String) : Bool := (r.find? text).isSome

/-- The next match of a series. An empty one may not stand where the last match ended, and the
search goes on one character later. -/
def nextMatch (r : Regex) (before : Option Char) (place : Nat) (last : Option Nat) (s : List Char) :
    Option Match :=
  match r.findFrom before place s with
  | none => none
  | some m =>
    if m.start = m.stop && last = some m.stop then
      match s with
      | [] => none
      | c :: s => r.findFrom (some c) (place + 1) s
    else some m

/-- A match in a series: the text since the match before it, and its own. -/
structure Piece where
  gap : List Char
  matched : List Char
  deriving Repr, DecidableEq

/-- The matches in a text one after the other, and the text after the last. -/
def piecesFrom (r : Regex) : Nat → Option Char → Nat → Option Nat → List Char →
    List Piece × List Char
  | 0, _, _, _, s => ([], s)
  | n + 1, before, place, last, s =>
    match r.nextMatch before place last s with
    | none => ([], s)
    | some m =>
      let gap := s.take (m.start - place)
      let s := s.drop (m.start - place)
      let matched := s.take (m.stop - m.start)
      let s := s.drop (m.stop - m.start)
      let before := (matched.getLast? <|> gap.getLast?) <|> before
      let (pieces, tail) := r.piecesFrom n before m.stop (some m.stop) s
      (⟨gap, matched⟩ :: pieces, tail)

/-- The matches in a text one after the other, and the text after the last. -/
def pieces (r : Regex) (s : List Char) : List Piece × List Char :=
  r.piecesFrom (s.length + 1) none 0 none s

/-- The text between the matches. -/
def split (r : Regex) (s : List Char) : List (List Char) :=
  let (pieces, tail) := r.pieces s
  pieces.map (·.gap) ++ [tail]

end Regex

/-- The expressions compiled so far. -/
structure RegexCache where
  entries : List (String × Regex)
  deriving Repr

namespace RegexCache

def empty : RegexCache := ⟨[]⟩

def size (c : RegexCache) : Nat := c.entries.length

/-- The expression of a pattern and the cache after it. A pattern that is not valid is not kept. -/
def get (c : RegexCache) (pattern : String) : Option Regex × RegexCache :=
  match c.entries.lookup pattern with
  | some r => (some r, c)
  | none => match Regex.compile? pattern with
    | some r => (some r, ⟨(pattern, r) :: c.entries⟩)
    | none => (none, c)

end RegexCache

end Awk
