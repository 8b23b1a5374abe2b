import Awk.Regex.Bracket
import Awk.Regex.Extent
import Awk.Unicode.TextSet

/-! Reading regular expressions, the whole: groups, flags, alternatives and repetitions. One pass
over the text keeps the groups that are open; `Pattern.parse` fails where the expression is not
valid, nests too deep or would be too large. -/

namespace Awk.Regex

open Unicode (CharSet letterSet letterOrNumberSet)
open Reader

/-- How deep the constructs of an expression may nest. -/
def maxDepth : Nat := 250

/-- An item of a sequence. Only a pattern can be repeated; a change of flags takes a place but
matches nothing. -/
inductive SequenceItem where
  | pattern (part : Nested Pattern)
  | flags
  deriving Repr

/-- The sequences of a group that are done, in reverse, and the one under way, in reverse. -/
structure GroupBody where
  branches : List (Nested Pattern) := []
  items : List SequenceItem := []
  deriving Repr

namespace GroupBody

/-- The sequence under way as a pattern. Two items or more are one level deeper. -/
def sequence (b : GroupBody) : Nested Pattern :=
  let parts := b.items.reverse.filterMap fun
    | .pattern p => some p
    | .flags => none
  let depth := (parts.map (·.depth)).foldl max 0
  ⟨.concatAll (parts.map (·.content)), if b.items.length ≤ 1 then depth else depth + 1⟩

/-- The whole as a pattern. Two branches or more are one level deeper. -/
def whole (b : GroupBody) : Nested Pattern :=
  let parts := (b.sequence :: b.branches).reverse
  let depth := (parts.map (·.depth)).foldl max 0
  ⟨.alternateAll (parts.map (·.content)), if b.branches.isEmpty then depth else depth + 1⟩

def push (b : GroupBody) (p : Pattern) (depth : Nat) : GroupBody :=
  { b with items := .pattern ⟨p, depth⟩ :: b.items }

def alternate (b : GroupBody) : GroupBody := ⟨b.sequence :: b.branches, []⟩

/-- The last item with rounds put around it. -/
def repeat? (b : GroupBody) (f : Flags) (least : Nat) (most : Option Nat) (greedy : Bool) :
    Option GroupBody :=
  match b.items with
  | .pattern ⟨p, depth⟩ :: items =>
    some ⟨b.branches, .pattern ⟨.rounds least most (greedy != f.swapGreed) p, depth + 1⟩ :: items⟩
  | _ => none

end GroupBody

/-- What is around a group that is open: the flags and the group's body up to there, and the number
of the open group if it has one. -/
structure Surrounding where
  flags : Flags
  body : GroupBody
  number : Option Nat
  deriving Repr

/-- Where a parser stands: the flags in force, what is around the groups that are open, innermost
first, the group under way, how many groups have a number so far, and their names. -/
structure State where
  flags : Flags := {}
  outer : List Surrounding := []
  body : GroupBody := {}
  numbered : Nat := 0
  names : List (List Char) := []
  deriving Repr

/-- Sets the flag of a letter. -/
def Flags.set? (f : Flags) (value : Bool) : Char → Option Flags
  | 'i' => some { f with ignoreCase := value }
  | 'm' => some { f with multiLine := value }
  | 's' => some { f with dotAll := value }
  | 'U' => some { f with swapGreed := value }
  | 'u' => some { f with unicode := value }
  | 'R' => some { f with anyNewline := value }
  | 'x' => some { f with verbose := value }
  | _ => none

/-- Changes flags by letters; those after a hyphen are cleared. No letter stands twice, and one
follows the hyphen. -/
def Flags.apply (f : Flags) (value : Bool) (seen : List Char) : List Char → Option Flags
  | [] => some f
  | c :: r =>
    if seen.contains c then none
    else if c = '-' then if r.isEmpty then none else f.apply false (c :: seen) r
    else do
      let f ← f.set? value c
      f.apply value (c :: seen) r

/-- Whether a character may stand in a group's name. -/
def isNameChar (first : Bool) (c : Char) : Bool :=
  c = '_' || if first then letterSet.contains c
    else c = '.' || c = '[' || c = ']' || letterOrNumberSet.contains c

/-- A group's name and the angle after it. -/
def groupName (names : List (List Char)) : Reader (List Char) := do
  let s ← rest
  let name := s.takeWhile (· ≠ '>')
  set (s.drop name.length)
  require ((← next) = '>')
  match name with
  | [] => invalid
  | c :: r =>
    require (isNameChar true c && r.all (isNameChar false) && !names.contains name)
    return name

namespace State

/-- Opens a group without a number, whose inside has the flags `f`. -/
def openPlain (st : State) (f : Flags) : State :=
  { st with flags := f, outer := ⟨st.flags, st.body, none⟩ :: st.outer, body := {} }

/-- Opens a group that has a number. -/
def openNumbered (st : State) : State :=
  { st with
    outer := ⟨st.flags, st.body, some (st.numbered + 1)⟩ :: st.outer
    body := {}
    numbered := st.numbered + 1 }

/-- What an opening parenthesis starts: a group, with or without a name or flags, or a change of the
flags for the rest of the group around it. -/
def group (st : State) : Reader State := do
  skipBlank st.flags
  match ← rest with
  | '?' :: 'P' :: '<' :: r =>
    set r
    named
  | '?' :: '<' :: r =>
    require (r.head? ≠ some '=' && r.head? ≠ some '!')
    set r
    named
  | '?' :: r =>
    let letters := r.takeWhile fun c => c ≠ ':' && c ≠ ')'
    set (r.drop letters.length)
    let f ← lift (st.flags.apply true [] letters)
    if (← next) = ':' then return st.openPlain f
    else
      require (!letters.isEmpty)
      return { st with flags := f, body := { st.body with items := .flags :: st.body.items } }
  | _ => return st.openNumbered
where
  named : Reader State := do
    let name ← groupName st.names
    return { st.openNumbered with names := name :: st.names }

/-- Closes the innermost group. -/
def close? (st : State) : Option State :=
  match st.outer with
  | [] => none
  | around :: outer =>
    let inner := st.body.whole
    let content := match around.number with
      | some n => .group n inner.content
      | none => inner.content
    some { st with
      flags := around.flags
      outer
      body := around.body.push content (inner.depth + 1) }

/-- Rounds put around the last item; a question mark that follows makes them lazy. -/
def rounds (st : State) (least : Nat) (most : Option Nat) : Reader State := do
  let lazy ← eat ['?']
  let body ← lift (st.body.repeat? st.flags least most (!lazy))
  return { st with body }

/-- Rounds that are counted in braces, after the opening one. -/
def countedRounds (st : State) : Reader State := do
  let f := st.flags
  skipBlank f
  let least ← decimal? f
  let (least, most) ←
    if (← peek) = ',' then
      let _ ← nextSkip f
      let least ← lift least
      if (← peek) = '}' then pure (least, none)
      else
        let most ← lift (← decimal? f)
        pure (least, some most)
    else
      let least ← lift least
      pure (least, some least)
  require ((← nextSkip f) = '}')
  require (most.all (least ≤ ·))
  st.rounds least most

def set (st : State) (s : CharSet) : State := { st with body := st.body.push (.set s) 0 }

/-- A character that stands for itself. -/
def char (st : State) (c : Char) : State := st.set (st.flags.foldCase ⟨[(c.toNat, c.toNat)]⟩)

def look (st : State) (l : Look) : State := { st with body := st.body.push (.look l) 0 }

/-- What an escape comes to outside of brackets. -/
def atom (st : State) : Atom → Option State
  | .char c => some (st.char c)
  | .byte n => if st.flags.unicode || n < 128 then some (st.char (Char.ofNat n)) else none
  | .set s => some (st.set s)
  | .look l => some (st.look l)

/-- The characters that a dot stands for. -/
def dotSet (f : Flags) : CharSet :=
  if f.dotAll then .all
  else (CharSet.ofCodes (if f.anyNewline then [10, 13] else [10])).complement

/-- Reads one construct, which starts with `c`. -/
def step (st : State) (c : Char) : Reader State :=
  let f := st.flags
  match c with
  | '(' => st.group
  | ')' => lift st.close?
  | '|' => return { st with body := st.body.alternate }
  | '[' => do
    let b ← bracket f
    return { st with body := st.body.push (.set b.content) b.depth }
  | '?' => st.rounds 0 (some 1)
  | '*' => st.rounds 0 none
  | '+' => st.rounds 1 none
  | '{' => st.countedRounds
  | '\\' => do lift (st.atom (← escape f))
  | '.' => do
    require f.unicode
    return st.set (dotSet f)
  | '^' =>
    return st.look (if !f.multiLine then .textStart
      else if f.anyNewline then .anyLineStart else .lineStart)
  | '$' =>
    return st.look (if !f.multiLine then .textEnd
      else if f.anyNewline then .anyLineEnd else .lineEnd)
  | _ => return st.char c

/-- Reads constructs to the end of the text. -/
def run : Nat → State → Reader State
  | 0, st => return st
  | n + 1, st => do
    skipBlank st.flags
    if ← atEnd then return st
    run n (← st.step (← next))

end State

/-- The pattern that a text denotes, if the text is a valid expression. -/
def Pattern.parse (text : String) : Option Pattern := do
  let s := text.toList
  let (st, rest) ← (State.run (s.length + 1) {}).run s
  let whole := st.body.whole
  if rest.isEmpty && st.outer.isEmpty && whole.depth ≤ maxDepth && whole.content.fits then
    some whole.content
  else none

end Awk.Regex
