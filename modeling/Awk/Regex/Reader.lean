import Awk.Regex.Class

/-! Reading regular expressions, the small parts: blanks and comments, numbers, escapes and classes
of characters in brackets. A reader takes characters off the front of the text, or fails where the
expression is not valid. -/

namespace Awk.Regex

open Unicode (CharSet)

/-- How an expression is read at a place. -/
structure Flags where
  ignoreCase : Bool := false
  multiLine : Bool := false
  dotAll : Bool := false
  swapGreed : Bool := false
  unicode : Bool := true
  anyNewline : Bool := false
  /-- Blanks and comments do not count. -/
  verbose : Bool := false
  deriving Repr, DecidableEq

namespace Flags

def words (f : Flags) : WordClass := if f.unicode then .unicode else .ascii

/-- A set with the other letter case of its members, where case does not count. -/
def foldCase (f : Flags) (s : CharSet) : CharSet :=
  if !f.ignoreCase then s
  else if f.unicode then s.foldCase
  else
    let swapped := (List.range 26).flatMap fun i =>
      (if s.contains (Char.ofNat (65 + i)) then [97 + i] else []) ++
        if s.contains (Char.ofNat (97 + i)) then [65 + i] else []
    s.union (.ofCodes swapped)

/-- A set or its complement. Without Unicode there is no complement, as it would hold bytes that are
no character. -/
def negateIf (f : Flags) (negated : Bool) (s : CharSet) : Option CharSet :=
  if !negated then some s else if f.unicode then some s.complement else none

/-- The set that a class comes to after its members are known. -/
def close (f : Flags) (negated : Bool) (s : CharSet) : Option CharSet :=
  f.negateIf negated (f.foldCase s)

end Flags

/-- A reader of regular expressions. -/
abbrev Reader := StateT (List Char) Option

namespace Reader

def invalid {α : Type} : Reader α := fun _ => none

/-- What is yet to be read. -/
def rest : Reader (List Char) := get

def atEnd : Reader Bool := do return (← get).isEmpty

/-- The next character, which must be there. -/
def peek : Reader Char := fun s => s.head?.map (·, s)

/-- Takes the next character. -/
def next : Reader Char := fun
  | c :: r => some (c, r)
  | [] => none

/-- The text after any blanks and comments. A comment runs to the end of its line. -/
def blankless : List Char → List Char
  | [] => []
  | '#' :: r => afterComment r
  | c :: r => if spaceSet.contains c then blankless r else c :: r
where
  afterComment : List Char → List Char
    | [] => []
    | '\n' :: r => blankless r
    | _ :: r => afterComment r

/-- Skips blanks and comments where they do not count. -/
def skipBlank (f : Flags) : Reader Unit := modify fun s => if f.verbose then blankless s else s

/-- Takes the next character and any blanks after it. -/
def nextSkip (f : Flags) : Reader Char := do
  let c ← next
  skipBlank f
  return c

/-- Takes a text if it comes next. -/
def eat (text : List Char) : Reader Bool := fun s =>
  some (if text.isPrefixOf s then (true, s.drop text.length) else (false, s))

/-- Fails unless a condition holds. -/
def require (condition : Bool) : Reader Unit := if condition then pure () else invalid

def lift {α : Type} (a : Option α) : Reader α := fun s => a.map (·, s)

/-- Takes characters that satisfy `p`, and the blanks among them. -/
def takeSkip (f : Flags) (p : Char → Bool) : Nat → Reader (List Char)
  | 0 => pure []
  | n + 1 => do
    match (← rest).head? with
    | some c =>
      if p c then
        let _ ← nextSkip f
        return c :: (← takeSkip f p n)
      else return []
    | none => return []

/-- Takes all characters that satisfy `p`, and the blanks among them. -/
def takeAllSkip (f : Flags) (p : Char → Bool) : Reader (List Char) := do
  takeSkip f p (← rest).length

/-- A number of at most 32 bits with blanks around it; none where there are no digits. -/
def decimal? (f : Flags) : Reader (Option Nat) := do
  modify (·.dropWhile spaceSet.contains)
  let digits ← takeAllSkip f Char.isDigit
  let _ ← takeAllSkip f spaceSet.contains
  if digits.isEmpty then return none
  let n := digits.foldl (fun n d => 10 * n + (d.toNat - '0'.toNat)) 0
  require (n < 4294967296)
  return some n

end Reader

open Reader

/-- What an escape or a single character stands for. -/
inductive Atom where
  | char (c : Char)
  /-- A code below 256 written with two digits, which is a byte where Unicode is off. -/
  | byte (code : Nat)
  | set (members : CharSet)
  | look (test : Look)
  deriving Repr

def isHex (c : Char) : Bool := c.isDigit || ('a' ≤ c && c ≤ 'f') || ('A' ≤ c && c ≤ 'F')

/-- The character of a hexadecimal code. -/
def charOfHex (digits : List Char) : Option Char :=
  let n := Unicode.hexValue (digits.map Char.toLower)
  if h : digits ≠ [] ∧ n.isValidChar then some (Char.ofNatAux n h.2) else none

/-- The code of an escape whose letter takes `count` digits, or any in braces. -/
def hexAtom (f : Flags) (count : Nat) : Reader Atom := do
  skipBlank f
  if (← peek) = '{' then
    let _ ← nextSkip f
    let digits ← takeAllSkip f isHex
    require ((← nextSkip f) = '}')
    return .char (← lift (charOfHex digits))
  else
    let digits ← takeSkip f isHex count
    require (digits.length = count)
    let c ← lift (charOfHex digits)
    return if count = 2 then .byte c.toNat else .char c

/-- What stands before and after the first separator. -/
def cut? (separator : List Char) : List Char → Option (List Char × List Char)
  | [] => none
  | c :: r =>
    if separator.isPrefixOf (c :: r) then some ([], (c :: r).drop separator.length)
    else (cut? separator r).map fun (before, after) => (c :: before, after)

/-- The set of a name, or of a property and its value, in a class; the flag says that it is written
as a set of other characters. -/
def propertySet? (name : List Char) : Bool × Option CharSet :=
  let value := fun (p : List Char × List Char) => valueSet? (looseName p.1) (looseName p.2)
  match cut? ['!', '='] name with
  | some p => (true, value p)
  | none => match cut? [':'] name <|> cut? ['='] name with
    | some p => (false, value p)
    | none => (false, namedSet? (looseName name))

/-- A class by the name of a property, after its letter. -/
def propertyAtom (f : Flags) (negated : Bool) : Reader Atom := do
  require f.unicode
  skipBlank f
  let c ← nextSkip f
  if c ≠ '{' then
    require (c ≠ '\\')
    return .set (← lift ((namedSet? (looseName [c])).bind (f.close negated)))
  else
    let name ← takeAllSkip f (· ≠ '}')
    require ((← next) = '}')
    let (unequal, found) := propertySet? name
    return .set (← lift (found.bind (f.close (negated != unequal))))

/-- The digits, blanks or word characters. -/
def perlSet (f : Flags) : Char → CharSet
  | 'd' => if f.unicode then digitSet else (asciiSet? "digit").getD .empty
  | 's' => if f.unicode then spaceSet else (asciiSet? "space").getD .empty
  | _ => if f.unicode then wordSet else (asciiSet? "word").getD .empty

/-- The test that `\b` stands for: a bare one or one with a name in braces. Braces that start with
something else than a name are left for a repetition. -/
def boundaryAtom (f : Flags) : Reader Atom := do
  let isNamePart := fun c : Char => c.isAlpha || c = '-'
  match ← rest with
  | '{' :: r =>
    let inner := if f.verbose then blankless r else r
    match inner with
    | [] => invalid
    | c :: _ =>
      if !isNamePart c then return .look (.wordBoundary f.words)
      set inner
      let name ← takeAllSkip f isNamePart
      require ((← next) = '}')
      match String.ofList name with
      | "start" => return .look (.wordStart f.words)
      | "end" => return .look (.wordEnd f.words)
      | "start-half" => return .look (.wordStartHalf f.words)
      | "end-half" => return .look (.wordEndHalf f.words)
      | _ => invalid
  | _ => return .look (.wordBoundary f.words)

/-- What an escape stands for, after its backslash. Any other ASCII character than a letter, a digit
or an angle stands for itself. -/
def escape (f : Flags) : Reader Atom := do
  let c ← next
  match c with
  | 'x' => hexAtom f 2
  | 'u' => hexAtom f 4
  | 'U' => hexAtom f 8
  | 'p' => propertyAtom f false
  | 'P' => propertyAtom f true
  | 'd' | 's' | 'w' => return .set (perlSet f c)
  | 'D' | 'S' | 'W' => return .set (← lift (f.negateIf true (perlSet f c.toLower)))
  | 'a' => return .char '\x07'
  | 'f' => return .char '\x0c'
  | 't' => return .char '\t'
  | 'n' => return .char '\n'
  | 'r' => return .char '\r'
  | 'v' => return .char '\x0b'
  | 'A' => return .look .textStart
  | 'z' => return .look .textEnd
  | 'b' => boundaryAtom f
  | 'B' => return .look (.notWordBoundary f.words)
  | '<' => return .look (.wordStart f.words)
  | '>' => return .look (.wordEnd f.words)
  | _ =>
    require (c.toNat < 128 && !c.isAlphanum)
    return .char c

end Awk.Regex
