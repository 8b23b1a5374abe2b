import Awk.Unicode.CharSet

/-! Regular expressions as trees: sets of characters, tests of the place between two characters, and
their combinations. An alternation prefers its left side, a greedy repetition one more round.

The functions that combine patterns keep them simple: sequences and alternations lean to the right,
what matches only the empty text is left out of a sequence and not repeated, an alternation of sets
is a set, and what all branches start with stands before them. -/

namespace Awk.Regex

open Unicode (CharSet)

/-- What counts as a character of a word. -/
inductive WordClass where
  | ascii
  | unicode
  deriving Repr, DecidableEq

/-- A test of the place between two characters. The half tests look at one side only. -/
inductive Look where
  | textStart
  | textEnd
  | lineStart
  | lineEnd
  /-- Lines that end with a carriage return, a line feed or both. -/
  | anyLineStart
  | anyLineEnd
  | wordBoundary (words : WordClass)
  | notWordBoundary (words : WordClass)
  | wordStart (words : WordClass)
  | wordEnd (words : WordClass)
  | wordStartHalf (words : WordClass)
  | wordEndHalf (words : WordClass)
  deriving Repr, DecidableEq

/-- A regular expression. -/
inductive Pattern where
  | empty
  | set (members : CharSet)
  | look (test : Look)
  | concat (first second : Pattern)
  | alternate (preferred other : Pattern)
  /-- From `least` to `most` rounds; without `most` any number. -/
  | repeated (least : Nat) (most : Option Nat) (greedy : Bool) (body : Pattern)
  /-- A group that is told apart from others by its number. -/
  | group (number : Nat) (body : Pattern)
  deriving Repr, DecidableEq, Inhabited

namespace Pattern

/-- How many nodes a tree has. -/
def nodeCount : Pattern → Nat
  | empty => 1
  | set _ => 1
  | look _ => 1
  | concat p q => p.nodeCount + q.nodeCount + 1
  | alternate p q => p.nodeCount + q.nodeCount + 1
  | repeated _ _ _ p => p.nodeCount + 1
  | group _ p => p.nodeCount + 1

/-- What a sequence consists of. -/
def parts : Pattern → List Pattern
  | empty => []
  | concat p q => p.parts ++ q.parts
  | p => [p]

/-- What an alternation chooses from. -/
def branches : Pattern → List Pattern
  | alternate p q => p.branches ++ q.branches
  | p => [p]

/-- Whether a pattern is one character. -/
def isLiteral : Pattern → Bool
  | set ⟨[(lo, hi)]⟩ => lo = hi
  | _ => false

/-- Whether a pattern is a set of several characters, or of none. -/
def isClass : Pattern → Bool
  | set s => !(set s).isLiteral
  | _ => false

/-- The members of a pattern that is a set. -/
def members : Pattern → CharSet
  | set s => s
  | _ => .empty

/-- Whether a pattern can only match the empty text, whatever the text. -/
def isBlank : Pattern → Bool
  | empty => true
  | set _ => false
  | look _ => true
  | concat p q => p.isBlank && q.isBlank
  | alternate p q => p.isBlank && q.isBlank
  | repeated _ most _ p => most.isSome && p.isBlank
  | group _ p => p.isBlank

/-- A sequence of parts. -/
def ofParts : List Pattern → Pattern
  | [] => empty
  | [p] => p
  | p :: ps => concat p (ofParts ps)

/-- A pattern for each of several in turn. -/
def concatAll (ps : List Pattern) : Pattern := ofParts (ps.flatMap parts)

/-- An alternation of branches. -/
def ofBranches : List Pattern → Pattern
  | [] => set .empty
  | [p] => p
  | p :: ps => alternate p (ofBranches ps)

/-- The parts of a sequence, of which neighbouring characters count as one. -/
def items (p : Pattern) : List (List Pattern) :=
  p.parts.splitBy fun p q => p.isLiteral && q.isLiteral

/-- The longest list that both lists start with. -/
def sharedStart {α : Type} [DecidableEq α] : List α → List α → List α
  | a :: as, b :: bs => if a = b then a :: sharedStart as bs else []
  | _, _ => []

/-- How many parts all branches start with, if each has several items and they share whole ones. -/
def sharedParts (bs : List Pattern) : Nat :=
  match bs.map items with
  | [] => 0
  | first :: others =>
    if (first :: others).any (·.length < 2) then 0
    else (others.foldl sharedStart first).flatten.length

/-- A pattern for the first that fits of several, as simple as so many steps can make it. -/
def alternateFrom : Nat → List Pattern → Pattern
  | 0, bs => ofBranches bs
  | n + 1, bs =>
    let bs := bs.flatMap branches
    if bs.length < 2 then ofBranches bs
    else if bs.all isLiteral || bs.all isClass then
      set (.ofRanges (bs.flatMap (·.members.ranges)))
    else match sharedParts bs with
      | 0 => ofBranches bs
      | k =>
        let rest := alternateFrom n (bs.map fun b => ofParts (b.parts.drop k))
        concatAll ((bs.headD empty).parts.take k ++ [rest])

/-- A pattern for the first that fits of several. -/
def alternateAll (bs : List Pattern) : Pattern :=
  alternateFrom (bs.foldl (fun n b => n + b.nodeCount) 1) bs

/-- Rounds of a pattern. One round of what matches only the empty text is as good as several. -/
def rounds (least : Nat) (most : Option Nat) (greedy : Bool) (p : Pattern) : Pattern :=
  let least := if p.isBlank then min least 1 else least
  let most := if p.isBlank then some (min (most.getD 1) 1) else most
  if most = some 0 then empty
  else if least = 1 && most = some 1 then p
  else repeated least most greedy p

/-- The least length of what a pattern matches; none where it is not known since a part of the
pattern matches nothing. -/
def leastLength : Pattern → Option Nat
  | empty => some 0
  | set s => if s.isEmpty then none else some 1
  | look _ => some 0
  | concat p q => do return (← p.leastLength) + (← q.leastLength)
  | alternate p q => do return min (← p.leastLength) (← q.leastLength)
  | repeated least _ _ p => p.leastLength.map (least * ·)
  | group _ p => p.leastLength

/-- Whether every match starts with a test. -/
def leads (test : Look) : Pattern → Bool
  | empty => false
  | set _ => false
  | look l => l = test
  | concat p q => p.leads test || (p.isBlank && q.leads test)
  | alternate p q => p.leads test && q.leads test
  | repeated least _ _ p => 0 < least && p.leads test
  | group _ p => p.leads test

/-- Whether every match ends with a test. -/
def trails (test : Look) : Pattern → Bool
  | empty => false
  | set _ => false
  | look l => l = test
  | concat p q => q.trails test || (q.isBlank && p.trails test)
  | alternate p q => p.trails test && q.trails test
  | repeated least _ _ p => 0 < least && p.trails test
  | group _ p => p.trails test

end Pattern

end Awk.Regex
