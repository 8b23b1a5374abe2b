/-! Command lines of the shell: words, redirections, simple commands and the ways to join
commands. -/

namespace Awk.Shell

/-- A part of a word: text as it is, or the value of a parameter. A quoted part is not divided. -/
inductive Part where
  | text (s : String) (quoted : Bool)
  | parameter (name : String) (quoted : Bool)
  deriving Repr, DecidableEq

abbrev Word := List Part

inductive RedirectionKind where
  | input
  | output
  | append
  /-- Takes the place where another stream goes. -/
  | duplicate
  deriving Repr, DecidableEq

/-- A change of where a stream comes from or goes to. -/
structure Redirection where
  stream : Nat
  kind : RedirectionKind
  target : Word
  deriving Repr, DecidableEq

/-- A command line. -/
inductive Script where
  | nothing
  | simple (words : List Word) (redirections : List Redirection)
  | redirected (body : Script) (redirections : List Redirection)
  | subshell (body : Script)
  | negated (body : Script)
  /-- The `else` part is taken if the test fails. -/
  | choice (test yes no : Script)
  /-- Runs while the test succeeds, or until it does. -/
  | loop (wanted : Bool) (test body : Script)
  | forEach (name : String) (words : List Word) (body : Script)
  | pipe (first second : Script)
  | andThen (first second : Script)
  | orElse (first second : Script)
  | sequence (first second : Script)
  deriving Repr, Inhabited

/-- A lexical unit: a word, an operator or the start of a redirection. -/
inductive Lexeme where
  | word (w : Word)
  | operator (symbol : String)
  | redirection (stream : Nat) (kind : RedirectionKind)
  deriving Repr, DecidableEq

/-- Why a command line cannot be read. -/
inductive Fault where
  | unterminatedQuote
  | unexpected (what : String) (expected : Option String)
  | badLoopVariable
  deriving Repr, DecidableEq

def Fault.message : Fault → String
  | unterminatedQuote => "Syntax error: Unterminated quoted string"
  | unexpected what none => "Syntax error: " ++ what ++ " unexpected"
  | unexpected what (some e) =>
    "Syntax error: " ++ what ++ " unexpected (expecting \"" ++ e ++ "\")"
  | badLoopVariable => "Syntax error: Bad for loop variable"

def isNameStart (c : Char) : Bool := c.isAlpha || c = '_'

def isNamePart (c : Char) : Bool := c.isAlphanum || c = '_'

/-- The name of a parameter after a dollar sign, and the rest. -/
def parameterName? : List Char → Option (String × List Char)
  | '\x7b' :: r =>
    match r.dropWhile (· ≠ '\x7d') with
    | _ :: rest => some (String.ofList (r.takeWhile (· ≠ '\x7d')), rest)
    | [] => none
  | c :: r =>
    if c = '$' || c = '?' || c = '#' || c = '@' || c = '*' || c.isDigit then
      some (c.toString, r)
    else if isNameStart c then
      some (String.ofList (c :: r.takeWhile isNamePart), r.dropWhile isNamePart)
    else none
  | [] => none

/-- The inside of double quotes, after those parts that are there, and what follows. -/
def doubleQuoted : Nat → List Part → List Char → Option (List Part × List Char)
  | 0, _, _ => none
  | _, _, [] => none
  | _, parts, '"' :: r => some (parts, r)
  | n + 1, parts, '\\' :: c :: r =>
    if c = '\n' then doubleQuoted n parts r
    else if c = '$' || c = '\x60' || c = '"' || c = '\\' then
      doubleQuoted n (parts ++ [.text c.toString true]) r
    else doubleQuoted n (parts ++ [.text ("\\" ++ c.toString) true]) r
  | n + 1, parts, '$' :: r =>
    match parameterName? r with
    | some (name, r) => doubleQuoted n (parts ++ [.parameter name true]) r
    | none => doubleQuoted n (parts ++ [.text "$" true]) r
  | n + 1, parts, c :: r => doubleQuoted n (parts ++ [.text c.toString true]) r

def endsWord (c : Char) : Bool := " \t\n;&|<>()".toList.contains c

/-- A word, after those parts that are there, and what follows. -/
def readWord : Nat → List Part → List Char → Except Fault (List Part × List Char)
  | 0, parts, s => .ok (parts, s)
  | _, parts, [] => .ok (parts, [])
  | n + 1, parts, c :: r =>
    if endsWord c then .ok (parts, c :: r)
    else if c = '\'' then
      match r.dropWhile (· ≠ '\'') with
      | _ :: rest =>
        readWord n (parts ++ [.text (String.ofList (r.takeWhile (· ≠ '\''))) true]) rest
      | [] => .error .unterminatedQuote
    else if c = '"' then
      match doubleQuoted (r.length + 1) [.text "" true] r with
      | some (inner, rest) => readWord n (parts ++ inner) rest
      | none => .error .unterminatedQuote
    else if c = '\\' then
      match r with
      | [] => readWord n (parts ++ [.text "\\" true]) []
      | '\n' :: rest => readWord n parts rest
      | d :: rest => readWord n (parts ++ [.text d.toString true]) rest
    else if c = '$' then
      match parameterName? r with
      | some (name, rest) => readWord n (parts ++ [.parameter name false]) rest
      | none => readWord n (parts ++ [.text "$" false]) r
    else readWord n (parts ++ [.text c.toString false]) r

/-- A redirection of a stream, after its number. -/
def redirection? (stream : Option Nat) : List Char → Option (Lexeme × List Char)
  | '>' :: '>' :: r => some (.redirection (stream.getD 1) .append, r)
  | '>' :: '&' :: r => some (.redirection (stream.getD 1) .duplicate, r)
  | '>' :: '|' :: r => some (.redirection (stream.getD 1) .output, r)
  | '>' :: r => some (.redirection (stream.getD 1) .output, r)
  | '<' :: '&' :: r => some (.redirection (stream.getD 0) .duplicate, r)
  | '<' :: r => some (.redirection (stream.getD 0) .input, r)
  | _ => none

/-- The operator at the front. -/
def operator? : List Char → Option (String × List Char)
  | '&' :: '&' :: r => some ("&&", r)
  | '|' :: '|' :: r => some ("||", r)
  | ';' :: ';' :: r => some (";;", r)
  | c :: r => if c = ';' || c = '&' || c = '|' || c = '(' || c = ')' then some (c.toString, r)
    else if c = '\n' then some ("\n", r) else none
  | [] => none

/-- The lexemes of a command line. -/
def lexemes : Nat → List Char → Except Fault (List Lexeme)
  | 0, _ => .ok []
  | _, [] => .ok []
  | n + 1, c :: r =>
    if c = ' ' || c = '\t' then lexemes n r
    else if c = '#' then lexemes n (r.dropWhile (· ≠ '\n'))
    else
      let numbered := match c :: r with
        | d :: r => if d.isDigit then redirection? (some (d.toNat - '0'.toNat)) r else none
        | [] => none
      match numbered <|> redirection? none (c :: r) with
      | some (l, rest) => do return l :: (← lexemes n rest)
      | none => match operator? (c :: r) with
        | some (symbol, rest) => do return .operator symbol :: (← lexemes n rest)
        | none => do
          let (parts, rest) ← readWord (r.length + 1) [] (c :: r)
          return .word parts :: (← lexemes n rest)

/-- A reader of lexemes. -/
abbrev Reader := StateT (List Lexeme) (Except Fault)

namespace Reader

def peek : Reader (Option Lexeme) := do return (← get).head?

def skip : Reader Unit := modify List.tail

/-- Takes an operator if it comes next. -/
def eat (symbol : String) : Reader Bool := do
  if (← peek) = some (.operator symbol) then
    skip
    return true
  else return false

def skipNewlines : Reader Unit := modify (·.dropWhile (· = .operator "\n"))

/-- A word that is written as one plain text. -/
def keyword (text : String) : Word := text.toList.map fun c => .text c.toString false

/-- The keyword that a word is, where a command may start. -/
def keyword? (w : Word) : Option String :=
  let keywords := ["if", "then", "elif", "else", "fi", "while", "until", "do", "done", "for",
    "\x7b", "\x7d", "!"]
  keywords.find? fun text => w = keyword text

/-- The name that a word is. -/
def loopName? (w : Word) : Option String := do
  let pieces ← w.mapM fun
    | .text s false => some s
    | _ => none
  let name := (String.join pieces).toList
  if name.head?.any isNameStart && name.all isNamePart then return .ofList name else none

/-- The keywords that end a list of commands. -/
def closers : List String := ["then", "elif", "else", "fi", "do", "done", "\x7d"]

def peekKeyword : Reader (Option String) := do
  match ← peek with
  | some (.word w) => return keyword? w
  | _ => return none

def unexpected {α : Type} (expected : Option String) : Reader α := do
  let what := match ← peek with
    | none => "end of file"
    | some (.operator "\n") => "newline"
    | some (.operator s) => "\"" ++ s ++ "\""
    | some (.word w) => match keyword? w with
      | some k => "\"" ++ k ++ "\""
      | none => "word"
    | some (.redirection ..) => "redirection"
  throw (.unexpected what expected)

/-- Takes a keyword, which must come next. -/
def expectKeyword (text : String) : Reader Unit := do
  if (← peekKeyword) = some text then skip else unexpected (some text)

/-- The words up to what is none. -/
def words : Nat → Reader (List Word)
  | 0 => return []
  | n + 1 => do
    match ← peek with
    | some (.word w) =>
      skip
      return w :: (← words n)
    | _ => return []

/-- Redirections at the front. -/
def redirections : Nat → Reader (List Redirection)
  | 0 => return []
  | n + 1 => do
    match ← get with
    | .redirection stream kind :: .word target :: rest =>
      set rest
      return ⟨stream, kind, target⟩ :: (← redirections n)
    | .redirection .. :: _ =>
      skip
      unexpected none
    | _ => return []

/-- The words and redirections of a simple command. -/
def simple : Nat → List Word → List Redirection → Reader Script
  | 0, words, rs => return .simple words rs
  | n + 1, words, rs => do
    match ← peek with
    | some (.word w) =>
      skip
      simple n (words ++ [w]) rs
    | some (.redirection ..) =>
      let more ← redirections ((← get).length)
      simple n words (rs ++ more)
    | _ => return .simple words rs

mutual

/-- Lists of commands, up to what closes them. -/
def list : Nat → Reader Script
  | 0 => return .nothing
  | n + 1 => do
    match ← peek with
    | none => return .nothing
    | some (.operator ")") => return .nothing
    | some (.operator ";") => unexpected none
    | some (.operator "\n") =>
      skip
      list n
    | _ => if (← peekKeyword).any closers.contains then return .nothing else joined n

/-- A list that starts with a command. -/
def joined : Nat → Reader Script
  | 0 => return .nothing
  | n + 1 => do
    let first ← conditional n (← pipeline n)
    if (← eat ";") || (← eat "&") || (← eat "\n") then
      let rest ← list n
      match rest with
      | .nothing => return first
      | _ => return .sequence first rest
    else return first

/-- What may follow a pipeline under a condition. -/
def conditional : Nat → Script → Reader Script
  | 0, first => return first
  | n + 1, first => do
    if ← eat "&&" then
      skipNewlines
      conditional n (.andThen first (← pipeline n))
    else if ← eat "||" then
      skipNewlines
      conditional n (.orElse first (← pipeline n))
    else return first

def pipeline : Nat → Reader Script
  | 0 => return .nothing
  | n + 1 => do
    if (← peekKeyword) = some "!" then
      skip
      return .negated (← pipeline n)
    else
      let first ← command n
      if ← eat "|" then
        skipNewlines
        return .pipe first (← pipeline n)
      else return first

/-- A list of commands that is not empty unless the text ends. -/
def nonempty : Nat → Reader Script
  | 0 => return .nothing
  | n + 1 => do
    match ← list n, ← peek with
    | .nothing, some _ => unexpected none
    | body, _ => return body

/-- What follows the test of an `if`. -/
def branches : Nat → Script → Reader Script
  | 0, _ => return .nothing
  | n + 1, test => do
    expectKeyword "then"
    let yes ← nonempty n
    match ← peekKeyword with
    | some "elif" =>
      skip
      return .choice test yes (← branches n (← nonempty n))
    | some "else" =>
      skip
      let no ← nonempty n
      expectKeyword "fi"
      return .choice test yes no
    | _ =>
      expectKeyword "fi"
      return .choice test yes .nothing

/-- The body of a loop. -/
def loopBody : Nat → Reader Script
  | 0 => return .nothing
  | n + 1 => do
    expectKeyword "do"
    let body ← nonempty n
    expectKeyword "done"
    return body

/-- The words that a variable goes through, and the body for each. -/
def forLoop : Nat → Reader Script
  | 0 => return .nothing
  | n + 1 => do
    match ← peek with
    | some (.word w) =>
      match loopName? w with
      | none => throw .badLoopVariable
      | some name =>
        skip
        skipNewlines
        let values ← match ← peek with
          | some (.word w) => if w = keyword "in" then do skip; words ((← get).length) else pure []
          | _ => pure []
        let _ ← eat ";"
        skipNewlines
        return .forEach name values (← loopBody n)
    | _ => throw .badLoopVariable

/-- A command that starts with a keyword or a parenthesis, without its redirections; none if it is a
simple one. -/
def compound : Nat → Reader (Option Script)
  | 0 => return none
  | n + 1 => do
    if ← eat "(" then
      let body ← nonempty n
      if ← eat ")" then return some (.subshell body) else unexpected (some ")")
    else match ← peekKeyword with
      | some "\x7b" =>
        skip
        let body ← nonempty n
        expectKeyword "\x7d"
        return some body
      | some "if" =>
        skip
        return some (← branches n (← nonempty n))
      | some "while" =>
        skip
        let test ← nonempty n
        return some (.loop true test (← loopBody n))
      | some "until" =>
        skip
        let test ← nonempty n
        return some (.loop false test (← loopBody n))
      | some "for" =>
        skip
        return some (← forLoop n)
      | _ => return none

def command : Nat → Reader Script
  | 0 => return .nothing
  | n + 1 => do
    match ← compound n with
    | some body =>
      match ← redirections ((← get).length) with
      | [] => return body
      | rs => return .redirected body rs
    | none =>
      let size := (← get).length
      match ← peek, ← peekKeyword with
      | some (.word _), none => simple size [] []
      | some (.redirection ..), _ => simple size [] []
      | _, _ => unexpected none

end

end Reader

/-- Reads a command line. -/
def parse (text : String) : Except Fault Script := do
  let s := text.toList
  let tokens ← lexemes (s.length + 1) s
  let (script, rest) ← (Reader.list (8 * tokens.length + 8)).run tokens
  match rest with
  | [] => return script
  | _ => match (Reader.unexpected (α := Unit) none).run rest with
    | .error f => .error f
    | .ok _ => return script

end Awk.Shell
