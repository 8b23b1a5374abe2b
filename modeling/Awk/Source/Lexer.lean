import Awk.Source.Token
import Awk.Source.Literal

/-! From a program's text to its lexemes. At each place the longest token is taken; blanks, comments
and continued lines are dropped, newlines kept. Each step says how many characters it takes, so that
the lexemes and what is dropped between them make up the text. -/

namespace Awk

/-- Why a text has no tokens. -/
inductive LexicalError where
  | unterminatedString
  | unterminatedRegex
  | unexpectedCharacter (c : Char)
  deriving Repr, DecidableEq

namespace LexicalError

def message : LexicalError → String
  | unterminatedString => "unterminated string"
  | unterminatedRegex => "unterminated regular expression"
  | unexpectedCharacter c => "unexpected character '" ++ String.singleton c ++ "'"

end LexicalError

namespace Lexer

def isBlank (c : Char) : Bool :=
  c = ' ' || c = '\t' || c = '\r' || c = '\x0c' || c = '\x0b'

/-- Blanks that may stand between a backslash and the newline that it hides. -/
def isJoinBlank (c : Char) : Bool := c = ' ' || c = '\t' || c = '\r'

def isNameStart (c : Char) : Bool := c.isAlpha || c = '_'

def isNameChar (c : Char) : Bool := c.isAlphanum || c = '_'

/-- The number of leading characters that satisfy `p`. -/
def count (p : Char → Bool) (s : List Char) : Nat := (s.takeWhile p).length

/-- Whether `s` starts with the characters of `word`. -/
def startsWith (word s : List Char) : Bool := word.isPrefixOf s

/-- The length of an exponent at the front of `s`; 0 where there is none. -/
def exponentLength : List Char → Nat
  | e :: r =>
    if e = 'e' || e = 'E' then
      let signed := match r with
        | '+' :: _ | '-' :: _ => 1
        | _ => 0
      let digits := count Char.isDigit (r.drop signed)
      if digits = 0 then 0 else 1 + signed + digits
    else 0
  | [] => 0

/-- The length of a numeral at the front of `s`: digits with an optional point and fraction, or a
point and digits, and an optional exponent. -/
def numeralLength (s : List Char) : Nat :=
  let whole := count Char.isDigit s
  let mantissa := match s.drop whole with
    | '.' :: r =>
      let fraction := count Char.isDigit r
      if whole = 0 && fraction = 0 then 0 else whole + 1 + fraction
    | _ => whole
  if mantissa = 0 then 0 else mantissa + exponentLength (s.drop mantissa)

/-- A numeral in canonical form: `007` is `7` and `1.0` is `1`. -/
def numeralValue (s : List Char) : Value :=
  let text := String.ofList s
  match readInteger text with
  | some i => .ofInt i
  | none => .ofFloat ((readReal text).getD 0.0)

/-- The body of a string after its opening quote: its length, and whether a quote closes it. A
backslash hides the character after it; an unhidden newline ends the text. -/
def stringBody : List Char → Nat × Bool
  | [] => (0, false)
  | ['\\'] => (0, false)
  | '\\' :: _ :: r => let (n, closed) := stringBody r; (n + 2, closed)
  | c :: r =>
    if c = '"' then (0, true)
    else if c = '\n' then (0, false)
    else let (n, closed) := stringBody r; (n + 1, closed)

/-- What one step takes: a token or nothing, and a number of characters. -/
structure Taken where
  token : Option Token
  length : Nat

/-- A step that fails tells the characters that the error covers. -/
abbrev Step := Except (LexicalError × Nat) Taken

/-- A slash: a division sign after an operand, and the start of a regular expression elsewhere. -/
def slash (afterOperand : Bool) (s : List Char) : Step :=
  let divides : Symbol × Nat := if startsWith ['/', '='] s then (.divAssign, 2) else (.slash, 1)
  if afterOperand then .ok ⟨some (.symbol divides.1), divides.2⟩
  else match Literal.regexBody? false (s.drop divides.2) with
    | none => .error (.unterminatedRegex, s.length)
    | some (pattern, n) =>
      let opening := if divides.2 = 2 then ['='] else []
      .ok ⟨some (.regex (String.ofList (opening ++ pattern))), divides.2 + n⟩

/-- A name: a reserved word, a function about to be called, or a variable. -/
def word (s : List Char) : Taken :=
  let n := count isNameChar s
  let name := String.ofList (s.take n)
  match Keyword.ofName? name with
  | some k => ⟨some (.keyword k), n⟩
  | none =>
    if startsWith ['('] (s.drop n) then ⟨some (.call name), n⟩ else ⟨some (.ident name), n⟩

/-- A string with its quotes. -/
def quoted (s : List Char) : Step :=
  let (n, closed) := stringBody (s.drop 1)
  if closed then
    let body := String.ofList ((s.drop 1).take n)
    .ok ⟨some (.string (Literal.unescape body)), n + 2⟩
  else .error (.unterminatedString, n + 1)

/-- A backslash with blanks up to a newline, which joins two lines. -/
def join (s : List Char) : Step :=
  let n := count isJoinBlank (s.drop 1)
  if startsWith ['\n'] (s.drop (1 + n)) then .ok ⟨none, n + 2⟩
  else .error (.unexpectedCharacter '\\', n + 1)

/-- A delimiter or operator sign, the longest that fits. -/
def sign (c : Char) (s : List Char) : Step :=
  match Symbol.spellings.find? fun p => startsWith p.1.toList s with
  | some (spelling, symbol) => .ok ⟨some (.symbol symbol), spelling.toList.length⟩
  | none => .error (.unexpectedCharacter c, 1)

/-- One step from the text `c :: r`. -/
def step (afterOperand : Bool) (c : Char) (r : List Char) : Step :=
  let s := c :: r
  if isBlank c then .ok ⟨none, count isBlank s⟩
  else if c = '#' then .ok ⟨none, count (· ≠ '\n') s⟩
  else if c = '\n' then .ok ⟨some .newline, 1⟩
  else if c = '\\' then join s
  else if c = '"' then quoted s
  else if c = '/' then slash afterOperand s
  else if isNameStart c then .ok (word s)
  else
    let n := numeralLength s
    if n = 0 then sign c s else .ok ⟨some (.number (numeralValue (s.take n))), n⟩

/-- The lexemes of `s`, which starts at byte `at_`, ended by the end of input. Each step takes a
character, so `fuel` as large as the text suffices. -/
def lexemes : Nat → Bool → Nat → List Char → Except (LexicalError × Span) (List Lexeme)
  | 0, _, at_, _ => .ok [⟨.eof, ⟨at_, at_⟩⟩]
  | _ + 1, _, at_, [] => .ok [⟨.eof, ⟨at_, at_⟩⟩]
  | fuel + 1, afterOperand, at_, c :: r =>
    match step afterOperand c r with
    | .error (e, n) => .error (e, ⟨at_, at_ + byteCount ((c :: r).take n)⟩)
    | .ok ⟨token, n⟩ =>
      let stop := at_ + byteCount ((c :: r).take n)
      let rest := (c :: r).drop n
      match token with
      | none => lexemes fuel afterOperand stop rest
      | some t => (lexemes fuel t.endsOperand stop rest).map (⟨t, ⟨at_, stop⟩⟩ :: ·)

end Lexer

/-- The lexemes of a program's text. -/
def lex (source : String) : Except (LexicalError × Span) (List Lexeme) :=
  Lexer.lexemes (source.toList.length + 1) false 0 source.toList

end Awk
