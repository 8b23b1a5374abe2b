import Awk.Value
import Awk.Source.Span

/-! The tokens of a program and what each is called in an error message. -/

namespace Awk

/-- The name of a variable, an array or a function. -/
abbrev Name := String

/-- The reserved words. -/
inductive Keyword where
  | begin_ | end_ | function | if_ | else_ | while_ | for_ | do_
  | break_ | continue_ | next | exit | return_ | delete | in_ | getline | print | printf
  deriving Repr, DecidableEq

namespace Keyword

def spelling : Keyword → String
  | begin_ => "BEGIN" | end_ => "END" | function => "function"
  | if_ => "if" | else_ => "else" | while_ => "while" | for_ => "for" | do_ => "do"
  | break_ => "break" | continue_ => "continue" | next => "next" | exit => "exit"
  | return_ => "return" | delete => "delete" | in_ => "in" | getline => "getline"
  | print => "print" | printf => "printf"

def all : List Keyword :=
  [begin_, end_, function, if_, else_, while_, for_, do_, break_, continue_, next, exit,
   return_, delete, in_, getline, print, printf]

/-- The reserved word that a name is, if it is one. `func` is short for `function`. -/
def ofName? (name : Name) : Option Keyword :=
  if name = "func" then some function else all.find? (·.spelling = name)

end Keyword

/-- Delimiters and operator signs. -/
inductive Symbol where
  | lbrace | rbrace | lparen | rparen | lbracket | rbracket | semicolon | comma
  | assign | addAssign | subAssign | mulAssign | divAssign | modAssign | powAssign
  | question | colon | oror | andand | tilde | notTilde
  | less | lessEq | eqeq | notEq | greaterEq | greater | append | pipe
  | plus | minus | star | slash | percent | caret | bang | incr | decr | dollar
  deriving Repr, DecidableEq

namespace Symbol

/-- Every sign with each of its spellings, longer spellings first. -/
def spellings : List (String × Symbol) :=
  [("**=", powAssign),
   ("+=", addAssign), ("-=", subAssign), ("*=", mulAssign), ("/=", divAssign),
   ("%=", modAssign), ("^=", powAssign), ("||", oror), ("&&", andand), ("!~", notTilde),
   ("<=", lessEq), ("==", eqeq), ("!=", notEq), (">=", greaterEq), (">>", append),
   ("**", caret), ("++", incr), ("--", decr),
   ("\x7b", lbrace), ("\x7d", rbrace), ("(", lparen), (")", rparen), ("[", lbracket),
   ("]", rbracket), (";", semicolon), (",", comma), ("=", assign), ("?", question),
   (":", colon), ("~", tilde), ("<", less), (">", greater), ("|", pipe), ("+", plus),
   ("-", minus), ("*", star), ("/", slash), ("%", percent), ("^", caret), ("!", bang),
   ("$", dollar)]

/-- The spelling that messages use: of two, the one without stars. -/
def spelling : Symbol → String
  | powAssign => "^="
  | caret => "^"
  | s => ((spellings.find? (·.2 = s)).map (·.1)).getD ""

end Symbol

inductive Token where
  /-- A numeral, in canonical form. -/
  | number (value : Value)
  /-- A string, its escapes decoded. -/
  | string (text : String)
  /-- A regular expression without its slashes. -/
  | regex (pattern : String)
  | ident (name : Name)
  /-- A name with an opening parenthesis right behind it. -/
  | call (name : Name)
  | keyword (word : Keyword)
  | symbol (sign : Symbol)
  | newline
  | eof
  deriving Repr, DecidableEq, Inhabited

namespace Token

/-- Whether a slash after this token divides, and does not open a regular expression. -/
def endsOperand : Token → Bool
  | number _ | string _ | regex _ | ident _ | call _ => true
  | symbol s =>
    s = .rparen || s = .rbracket || s = .dollar || s = .incr || s = .decr
  | _ => false

/-- What a message calls the token that it found. -/
def describe : Token → String
  | number value => "number " ++ value.text
  | string _ => "string"
  | regex _ => "regular expression"
  | ident name | call name => "`" ++ name ++ "`"
  | keyword word => "`" ++ word.spelling ++ "`"
  | symbol sign => "`" ++ sign.spelling ++ "`"
  | newline => "newline"
  | eof => "end of input"

end Token

/-- A token with its place. -/
structure Lexeme where
  token : Token
  span : Span
  deriving Repr, DecidableEq, Inhabited

end Awk
