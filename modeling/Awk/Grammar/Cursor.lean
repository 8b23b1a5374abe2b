import Awk.Ast.Program
import Awk.Source.Lexer

/-! The parser's state and its primitive steps. A parser reads lexemes from a cursor; it ends with a
result or a syntax error and with the cursor where it then stands, or it runs out of fuel, which is
kept apart from both. -/

namespace Awk

/-- What a syntax error says. -/
inductive SyntaxCause where
  | lexical (error : LexicalError)
  | unexpected (found : Token)
  | expected (what : String) (found : Token)
  | notAssignable (operator : Operator)
  | emptyParentheses
  | missingArguments (builtin : Builtin)
  | redefined (function : Name)
  | duplicateParameter (name : Name)
  | missingFormat
  deriving Repr, DecidableEq

namespace SyntaxCause

def message : SyntaxCause → String
  | lexical e => e.message
  | unexpected found => "syntax error: unexpected " ++ found.describe
  | expected what found => "expected " ++ what ++ ", found " ++ found.describe
  | notAssignable o => "operand of `" ++ o.symbol ++ "` is not assignable"
  | emptyParentheses => "empty parentheses"
  | missingArguments b => "`" ++ b.name ++ "` needs an argument list"
  | redefined f => "function `" ++ f ++ "` redefined"
  | duplicateParameter p => "duplicate parameter `" ++ p ++ "`"
  | missingFormat => "printf: no format"

end SyntaxCause

/-- A syntax error and the place that it concerns. -/
structure SyntaxError where
  cause : SyntaxCause
  span : Span
  deriving Repr, DecidableEq

namespace SyntaxError

def message (e : SyntaxError) : String := e.cause.message

end SyntaxError

/-- Where a parser stands: the lexemes to come, ended by the end of input; whether `>` redirects
output and does not compare; and the range patterns met so far. -/
structure Cursor where
  rest : List Lexeme
  redirects : Bool
  ranges : Nat
  deriving Repr

namespace Cursor

def start (lexemes : List Lexeme) : Cursor := ⟨lexemes, false, 0⟩

/-- The token that stands `n` places ahead. -/
def peek (c : Cursor) (n : Nat) : Token := (c.rest[n]?.map Lexeme.token).getD .eof

def token (c : Cursor) : Token := c.peek 0

def span (c : Cursor) : Span := (c.rest.head?.map Lexeme.span).getD ⟨0, 0⟩

/-- Moves past the current token. The end of input stays. -/
def advance (c : Cursor) : Cursor :=
  match c.rest with
  | _ :: l :: r => { c with rest := l :: r }
  | _ => c

/-- Drops the lexemes at the front whose tokens satisfy `p`. -/
def skip (p : Token → Bool) (c : Cursor) : Cursor :=
  { c with rest := c.rest.dropWhile fun l => p l.token }

end Cursor

/-- A parser: `none` is out of fuel. -/
abbrev Parser (α : Type) := ExceptT SyntaxError (StateT Cursor Option) α

namespace Parser

def outOfFuel {α : Type} : Parser α := fun _ => none

/-- The current token. -/
def token : Parser Token := do return (← get).token

def peek (n : Nat) : Parser Token := do return (← get).peek n

def span : Parser Span := do return (← get).span

def advance : Parser Unit := modify Cursor.advance

def fail {α : Type} (cause : SyntaxCause) (span : Span) : Parser α := throw ⟨cause, span⟩

/-- Fails at the current token, which is not what was expected. -/
def failExpected {α : Type} (what : String) : Parser α := do
  fail (.expected what (← token)) (← span)

def failUnexpected {α : Type} : Parser α := do fail (.unexpected (← token)) (← span)

/-- Whether the current token is `t`. -/
def check (t : Token) : Parser Bool := do return (← token) = t

/-- Takes the token `t` if it is the current one. -/
def eat (t : Token) : Parser Bool := do
  if ← check t then
    advance
    return true
  else return false

/-- Takes a delimiter or fails. -/
def expect (s : Symbol) : Parser Unit := do
  if ← eat (.symbol s) then return ()
  else failExpected ("`" ++ s.spelling ++ "`")

def skipNewlines : Parser Unit := modify (Cursor.skip (· = .newline))

/-- Skips newlines and semicolons. -/
def skipTerminators : Parser Unit :=
  modify (Cursor.skip fun t => t = .newline || t = .symbol .semicolon)

/-- Runs `p` with `>` read as a comparison or as a redirection, and restores how it was read. -/
def withRedirects {α : Type} (redirects : Bool) (p : Parser α) : Parser α := fun c =>
  match p { c with redirects } with
  | none => none
  | some (result, c') => some (result, { c' with redirects := c.redirects })

/-- Runs `p`; if it fails, goes back to where it started. -/
def attempt {α : Type} (p : Parser α) : Parser (Option α) := fun c =>
  match p c with
  | none => none
  | some (.ok a, c') => some (.ok (some a), c')
  | some (.error _, c') => some (.ok none, { c' with rest := c.rest })

end Parser

end Awk
