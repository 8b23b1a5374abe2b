import Awk.Grammar.Cursor

/-! Expressions. Each level of the grammar appends what it reads to the expression under way, in the
order of the text. Only the operands of `&&` and `||` and the branches of a conditional become
expressions of their own, so that they can be skipped. Each call takes one unit of fuel. -/

namespace Awk.Parser

/-- The operator of an assignment sign. -/
def assignment? : Token → Option Operator
  | .symbol .assign => some .assign
  | .symbol .addAssign => some .addAssign
  | .symbol .subAssign => some .subAssign
  | .symbol .mulAssign => some .mulAssign
  | .symbol .divAssign => some .divAssign
  | .symbol .modAssign => some .modAssign
  | .symbol .powAssign => some .powAssign
  | _ => none

/-- The operator of a comparison sign; `>` is none where it redirects. -/
def comparison? (redirects : Bool) : Token → Option Operator
  | .symbol .less => some .less
  | .symbol .lessEq => some .lessEq
  | .symbol .eqeq => some .equal
  | .symbol .notEq => some .notEqual
  | .symbol .greaterEq => some .greaterEq
  | .symbol .greater => if redirects then none else some .greater
  | _ => none

def matching? : Token → Option Operator
  | .symbol .tilde => some .matches
  | .symbol .notTilde => some .notMatches
  | _ => none

def additive? : Token → Option Operator
  | .symbol .plus => some .add
  | .symbol .minus => some .sub
  | _ => none

def multiplicative? : Token → Option Operator
  | .symbol .star => some .mul
  | .symbol .slash => some .div
  | .symbol .percent => some .mod
  | _ => none

/-- The operator of a sign before an operand. -/
def sign? : Token → Option Operator
  | .symbol .bang => some .not
  | .symbol .minus => some .neg
  | .symbol .plus => some .plus
  | _ => none

/-- `++` or `--` before an operand. -/
def stepBefore? : Token → Option Operator
  | .symbol .incr => some .preIncr
  | .symbol .decr => some .preDecr
  | _ => none

def stepAfter? : Token → Option Operator
  | .symbol .incr => some .postIncr
  | .symbol .decr => some .postDecr
  | _ => none

/-- Whether a token starts an operand that is concatenated with the one before it. -/
def startsOperand : Token → Bool
  | .number _ | .string _ | .ident _ | .call _ => true
  | .symbol s => s = .dollar || s = .lparen || s = .incr || s = .decr
  | _ => false

/-- What a name that is called calls. -/
def callee (name : Name) : Callee :=
  match Builtin.ofName? name with
  | some b => .builtin b
  | none => .user name

mutual

/-- A whole expression, assignment included. -/
def expr : Nat → Parser Expr
  | 0 => outOfFuel
  | n + 1 => exprInto n []

/-- Expressions with commas between them; none if `close` comes first. -/
def exprList : Nat → Symbol → Parser (List Expr)
  | 0, _ => outOfFuel
  | n + 1, close => do
    skipNewlines
    if ← check (.symbol close) then return []
    else exprListRest n

def exprListRest : Nat → Parser (List Expr)
  | 0 => outOfFuel
  | n + 1 => do
    let e ← expr n
    if ← eat (.symbol .comma) then
      skipNewlines
      return e :: (← exprListRest n)
    else return [e]

/-- Assignment: to the right. -/
def exprInto : Nat → Expr → Parser Expr
  | 0, _ => outOfFuel
  | n + 1, e => do
    let e ← conditionalInto n e
    match assignment? (← token) with
    | some o =>
      advance
      skipNewlines
      exprInto n (e.push (.op o))
    | none => return e

def conditionalInto : Nat → Expr → Parser Expr
  | 0, _ => outOfFuel
  | n + 1, e => do
    let e ← orInto n e
    if ← eat (.symbol .question) then
      skipNewlines
      let e := (e.push (.op .question)).pushLazy (← expr n)
      skipNewlines
      expect .colon
      skipNewlines
      return (e.push (.op .colon)).pushLazy (← conditionalInto n [])
    else return e

def orInto : Nat → Expr → Parser Expr
  | 0, _ => outOfFuel
  | n + 1, e => do orRest n (← andInto n e)

def orRest : Nat → Expr → Parser Expr
  | 0, _ => outOfFuel
  | n + 1, e => do
    if ← eat (.symbol .oror) then
      skipNewlines
      orRest n ((e.push (.op .or)).pushLazy (← andInto n []))
    else return e

def andInto : Nat → Expr → Parser Expr
  | 0, _ => outOfFuel
  | n + 1, e => do andRest n (← memInto n e)

def andRest : Nat → Expr → Parser Expr
  | 0, _ => outOfFuel
  | n + 1, e => do
    if ← eat (.symbol .andand) then
      skipNewlines
      andRest n ((e.push (.op .and)).pushLazy (← memInto n []))
    else return e

/-- Membership: `in` and the name of an array. -/
def memInto : Nat → Expr → Parser Expr
  | 0, _ => outOfFuel
  | n + 1, e => do memRest n (← matchInto n e)

def memRest : Nat → Expr → Parser Expr
  | 0, _ => outOfFuel
  | n + 1, e => do
    if ← eat (.keyword .in_) then
      match ← token with
      | .ident array =>
        advance
        memRest n ((e.push (.op .mem)).push (.var array))
      | _ => failExpected "array name"
    else return e

def matchInto : Nat → Expr → Parser Expr
  | 0, _ => outOfFuel
  | n + 1, e => do matchRest n (← comparisonInto n e)

def matchRest : Nat → Expr → Parser Expr
  | 0, _ => outOfFuel
  | n + 1, e => do
    match matching? (← token) with
    | some o =>
      advance
      matchRest n (← comparisonInto n (e.push (.op o)))
    | none => return e

def comparisonInto : Nat → Expr → Parser Expr
  | 0, _ => outOfFuel
  | n + 1, e => do comparisonRest n (← concatInto n e)

def comparisonRest : Nat → Expr → Parser Expr
  | 0, _ => outOfFuel
  | n + 1, e => do
    match comparison? (← get).redirects (← token) with
    | some o =>
      advance
      comparisonRest n (← concatInto n (e.push (.op o)))
    | none => return e

/-- Operands side by side. The part of the expression that starts here is the command of a
`| getline` behind it. -/
def concatInto : Nat → Expr → Parser Expr
  | 0, _ => outOfFuel
  | n + 1, e => do concatRest n e.length (← additiveInto n e)

def concatRest : Nat → Nat → Expr → Parser Expr
  | 0, _, _ => outOfFuel
  | n + 1, start, e => do
    if (← token) = .symbol .pipe && (← peek 1) = .keyword .getline then
      advance
      advance
      let target ← target? n
      let read := Term.getline target (.command (e.drop start))
      concatRest n start (Expr.push (e.take start) read)
    else if startsOperand (← token) then
      concatRest n start (← additiveInto n e)
    else return e

def additiveInto : Nat → Expr → Parser Expr
  | 0, _ => outOfFuel
  | n + 1, e => do additiveRest n (← multiplicativeInto n e)

def additiveRest : Nat → Expr → Parser Expr
  | 0, _ => outOfFuel
  | n + 1, e => do
    match additive? (← token) with
    | some o =>
      advance
      additiveRest n (← multiplicativeInto n (e.push (.op o)))
    | none => return e

def multiplicativeInto : Nat → Expr → Parser Expr
  | 0, _ => outOfFuel
  | n + 1, e => do multiplicativeRest n (← unaryInto n e)

def multiplicativeRest : Nat → Expr → Parser Expr
  | 0, _ => outOfFuel
  | n + 1, e => do
    match multiplicative? (← token) with
    | some o =>
      advance
      multiplicativeRest n (← unaryInto n (e.push (.op o)))
    | none => return e

def unaryInto : Nat → Expr → Parser Expr
  | 0, _ => outOfFuel
  | n + 1, e => do
    match sign? (← token) with
    | some o =>
      advance
      unaryInto n (e.push (.op o))
    | none => powerInto n e

/-- A power; its exponent may carry a sign. -/
def powerInto : Nat → Expr → Parser Expr
  | 0, _ => outOfFuel
  | n + 1, e => do
    let e ← stepInto n e
    if ← eat (.symbol .caret) then unaryInto n (e.push (.op .pow))
    else return e

/-- An operand with `++` or `--` behind it if it can be assigned to. -/
def stepInto : Nat → Expr → Parser Expr
  | 0, _ => outOfFuel
  | n + 1, e => do
    let (e, assignable) ← operandInto n e
    match stepAfter? (← token) with
    | some o =>
      if assignable then
        advance
        return e.push (.op o)
      else return e
    | none => return e

/-- One operand, and whether it can be assigned to. -/
def operandInto : Nat → Expr → Parser (Expr × Bool)
  | 0, _ => outOfFuel
  | n + 1, e => do
    let place ← span
    match ← token with
    | .symbol .dollar =>
      advance
      let e := e.push (.op .field)
      let t ← token
      match (stepBefore? t).or (sign? t) with
      | some o =>
        advance
        return ((← operandInto n (e.push (.op o))).1, true)
      | none => return ((← operandInto n e).1, true)
    | .symbol .incr => stepBeforeInto n .preIncr place e
    | .symbol .decr => stepBeforeInto n .preDecr place e
    | .number v =>
      advance
      return (e.push (.value v), false)
    | .string s =>
      advance
      return (e.push (.value (.ofString s)), false)
    | .regex p =>
      advance
      return (e.push (.regex p), false)
    | .symbol .lparen =>
      advance
      let list ← withRedirects false (exprList n .rparen)
      skipNewlines
      expect .rparen
      match list with
      | [] => fail .emptyParentheses place
      | [inner] => return (e.push (.group inner), false)
      | parts =>
        if ← check (.keyword .in_) then return (e.push (.subscript parts), false)
        else failExpected "`in` after subscript list"
    | .call name =>
      advance
      return (e.push (.call (callee name) (← arguments n)), false)
    | .ident name =>
      advance
      match Builtin.ofName? name with
      | some b =>
        if ← check (.symbol .lparen) then
          return (e.push (.call (.builtin b) (← arguments n)), false)
        else if b = .length then return (e.push (.call (.builtin b) []), false)
        else fail (.missingArguments b) place
      | none =>
        if ← eat (.symbol .lbracket) then
          return (e.push (.element name (← subscript n)), true)
        else return (e.push (.var name), true)
    | .keyword .getline =>
      advance
      let target ← target? n
      if ← eat (.symbol .less) then
        let (file, _) ← operandInto n []
        return (e.push (.getline target (.file file)), false)
      else return (e.push (.getline target .main), false)
    | .symbol .minus | .symbol .plus | .symbol .bang => return (← unaryInto n e, false)
    | _ => failUnexpected

/-- `++` or `--`, which stands at `place`, before an operand that can be assigned to. -/
def stepBeforeInto : Nat → Operator → Span → Expr → Parser (Expr × Bool)
  | 0, _, _, _ => outOfFuel
  | n + 1, o, place, e => do
    advance
    let (e, assignable) ← operandInto n (e.push (.op o))
    if assignable then return (e, false) else fail (.notAssignable o) place

/-- The arguments of a call, in parentheses. -/
def arguments : Nat → Parser (List Expr)
  | 0 => outOfFuel
  | n + 1 => do
    expect .lparen
    let list ← withRedirects false (exprList n .rparen)
    skipNewlines
    expect .rparen
    return list

/-- A subscript after its opening bracket. -/
def subscript : Nat → Parser (List Expr)
  | 0 => outOfFuel
  | n + 1 => do
    let list ← withRedirects false (exprList n .rbracket)
    if list.isEmpty then failExpected "subscript"
    else
      skipNewlines
      expect .rbracket
      return list

/-- The place that a `getline` stores into, if one is written. -/
def target? : Nat → Parser (Option (Target Expr))
  | 0 => outOfFuel
  | n + 1 => do
    match ← token with
    | .symbol .dollar =>
      advance
      return some (.field (← operandInto n []).1)
    | .ident name =>
      if (Builtin.ofName? name).isSome then return none
      else
        advance
        if ← eat (.symbol .lbracket) then return some (.element name (← subscript n))
        else return some (.var name)
    | _ => return none

end

end Awk.Parser
