import Awk.Grammar.Expr

/-! Statements and blocks. Each call takes one unit of fuel. -/

namespace Awk.Parser

/-- Whether a statement can end before this token. -/
def endsStatement : Token → Bool
  | .symbol .semicolon | .newline | .symbol .rbrace | .eof => true
  | _ => false

/-- The redirection that a sign starts after a print list. -/
def redirection? : Token → Option RedirectKind
  | .symbol .greater => some .truncate
  | .symbol .append => some .append
  | .symbol .pipe => some .pipe
  | _ => none

/-- Whether a print list can end before this token. -/
def endsPrint (t : Token) : Bool := endsStatement t || (redirection? t).isSome

/-- An expression, unless the statement ends first. -/
def optionalExpr (fuel : Nat) : Parser (Option Expr) := do
  if endsStatement (← token) then return none else return some (← expr fuel)

/-- A condition in parentheses. -/
def condition (fuel : Nat) : Parser Expr := do
  expect .lparen
  let e ← withRedirects false do
    skipNewlines
    let e ← expr fuel
    skipNewlines
    return e
  expect .rparen
  return e

/-- A clause of `for`, unless `close` comes first. -/
def forClause (fuel : Nat) (close : Symbol) : Parser (Option Expr) := do
  if ← check (.symbol close) then return none else return some (← expr fuel)

/-- A print list in parentheses with nothing but the end of the list behind it. -/
def parenthesizedList (fuel : Nat) : Parser (List Expr) := do
  advance
  let list ← withRedirects false (exprList fuel .rparen)
  expect .rparen
  if endsPrint (← token) then return list else failUnexpected

/-- The arguments of `print` or `printf`. -/
def printList (fuel : Nat) : Parser (List Expr) := do
  if endsPrint (← token) then return []
  else if ← check (.symbol .lparen) then
    match ← attempt (parenthesizedList fuel) with
    | some list => return list
    | none => exprList fuel .semicolon
  else exprList fuel .semicolon

/-- The arguments of `print` or `printf` and where the output goes. -/
def printRest (fuel : Nat) : Parser (List Expr × Option Redirect) := do
  let list ← printList fuel
  match redirection? (← token) with
  | some kind =>
    advance
    return (list, some ⟨kind, ← concatInto fuel []⟩)
  | none => return (list, none)

def print (fuel : Nat) : Parser Statement := do
  advance
  let (list, output) ← withRedirects true (printRest fuel)
  return .print list output

/-- `printf`, which needs a format. -/
def printf (fuel : Nat) : Parser Statement := do
  let place ← span
  advance
  let (list, output) ← withRedirects true (printRest fuel)
  if list.isEmpty then fail .missingFormat place else return .printf list output

def delete (fuel : Nat) : Parser Statement := do
  advance
  match ← token with
  | .ident array =>
    advance
    if ← eat (.symbol .lbracket) then
      let list ← exprList fuel .rbracket
      expect .rbracket
      return .delete array (some list)
    else return .delete array none
  | _ => failExpected "array name"

/-- Ends a statement that has to stand alone. -/
def ended (s : Statement) : Parser Statement := do
  if endsStatement (← token) then return s else failUnexpected

/-- The variable and the array of a loop over keys, if that is what comes next. -/
def keyLoop? (c : Cursor) : Option (Name × Name) :=
  match c.peek 0, c.peek 1, c.peek 2, c.peek 3 with
  | .ident name, .keyword .in_, .ident array, .symbol .rparen => some (name, array)
  | _, _, _, _ => none

mutual

/-- Statements between braces. -/
def block : Nat → BlockKind → Parser Block
  | 0, _ => outOfFuel
  | n + 1, kind => do
    expect .lbrace
    return .mk kind (← statements n)

/-- Statements up to a closing brace. -/
def statements : Nat → Parser (List Statement)
  | 0 => outOfFuel
  | n + 1 => do
    skipTerminators
    if ← eat (.symbol .rbrace) then return []
    else if ← check .eof then failExpected "`\x7d`"
    else
      let s ← statement n
      return s :: (← statements n)

/-- The body of `if`, `else` or a loop: a block, one statement, or nothing before a semicolon. -/
def body : Nat → BlockKind → Parser Block
  | 0, _ => outOfFuel
  | n + 1, kind => do
    skipNewlines
    if ← check (.symbol .lbrace) then block n kind
    else if ← eat (.symbol .semicolon) then return .mk kind []
    else return .mk kind [← statement n]

def statement : Nat → Parser Statement
  | 0 => outOfFuel
  | n + 1 => do
    match ← token with
    | .symbol .lbrace => return .block (← block n .simple)
    | .keyword .if_ => ifStatement n
    | .keyword .while_ =>
      advance
      let e ← condition n
      return .while_ e (← body n .iteration)
    | .keyword .for_ => forStatement n
    | .keyword .do_ =>
      advance
      let b ← body n .iteration
      skipTerminators
      if ← eat (.keyword .while_) then ended (.doWhile b (← condition n))
      else failExpected "`while`"
    | .keyword .break_ =>
      advance
      ended .break_
    | .keyword .continue_ =>
      advance
      ended .continue_
    | .keyword .next =>
      advance
      ended .next
    | .keyword .exit =>
      advance
      ended (.exit (← optionalExpr n))
    | .keyword .return_ =>
      advance
      ended (.return_ (← optionalExpr n))
    | .keyword .delete => ended (← delete n)
    | .keyword .print => ended (← print n)
    | .keyword .printf => ended (← printf n)
    | _ => ended (.expr (← expr n))

/-- `if` with its `else`, which may stand after newlines and semicolons. -/
def ifStatement : Nat → Parser Statement
  | 0 => outOfFuel
  | n + 1 => do
    advance
    let e ← condition n
    let yes ← body n .simple
    let before ← get
    skipTerminators
    if ← eat (.keyword .else_) then return .if_ e yes (some (← body n .simple))
    else
      set before
      return .if_ e yes none

def forStatement : Nat → Parser Statement
  | 0 => outOfFuel
  | n + 1 => do
    advance
    expect .lparen
    match keyLoop? (← get) with
    | some (name, array) =>
      advance
      advance
      advance
      advance
      return .forIn name array (← body n .iteration)
    | none =>
      let (start, test, step) ← withRedirects false do
        let start ← forClause n .semicolon
        expect .semicolon
        skipNewlines
        let test ← forClause n .semicolon
        expect .semicolon
        skipNewlines
        return (start, test, ← forClause n .rparen)
      expect .rparen
      return .for_ start test step (← body n .iteration)

end

end Awk.Parser
