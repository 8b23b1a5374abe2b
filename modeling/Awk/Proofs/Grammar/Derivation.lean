import Awk.Grammar.Program
import Awk.Proofs.Expression.Spelling

/-! The derivation tree of an expression: each level of the grammar puts the operator that it takes
over the operands that it reads for it. An operand that is an expression of its own is a leaf, as it
is in the flat list. -/

namespace Awk

namespace Expr

/-- The term that an operand becomes that is evaluated only when its value is needed. -/
def lazyTerm : Expr → Term
  | [.value v] => .value v
  | [.var n] => .var n
  | [.regex p] => .regex p
  | [.group g] => .group g
  | e => .group e

end Expr

namespace Tree

/-- An operand that is evaluated only when its value is needed. -/
def lazily (e : Expr) : Tree := .operand e.lazyTerm

end Tree

namespace Parser

mutual

def unaryTree : Nat → Parser Tree
  | 0 => outOfFuel
  | n + 1 => do
    match sign? (← token) with
    | some o =>
      advance
      return .before o (← unaryTree n)
    | none => powerTree n

def powerTree : Nat → Parser Tree
  | 0 => outOfFuel
  | n + 1 => do
    let l ← stepTree n
    if ← eat (.symbol .caret) then return .between .pow l (← unaryTree n)
    else return l

def stepTree : Nat → Parser Tree
  | 0 => outOfFuel
  | n + 1 => do
    let (t, assignable) ← operandTree n
    match stepAfter? (← token) with
    | some o =>
      if assignable then
        advance
        return .after t o
      else return t
    | none => return t

/-- One operand, and whether it can be assigned to. -/
def operandTree : Nat → Parser (Tree × Bool)
  | 0 => outOfFuel
  | n + 1 => do
    let place ← span
    match ← token with
    | .symbol .dollar =>
      advance
      let t ← token
      match (stepBefore? t).or (sign? t) with
      | some o =>
        advance
        return (.before .field (.before o (← operandTree n).1), true)
      | none => return (.before .field (← operandTree n).1, true)
    | .symbol .incr => stepBeforeTree n .preIncr place
    | .symbol .decr => stepBeforeTree n .preDecr place
    | .number v =>
      advance
      return (.operand (.value v), false)
    | .string s =>
      advance
      return (.operand (.value (.ofString s)), false)
    | .regex p =>
      advance
      return (.operand (.regex p), false)
    | .symbol .lparen =>
      advance
      let list ← withRedirects false (exprList n .rparen)
      skipNewlines
      expect .rparen
      match list with
      | [] => fail .emptyParentheses place
      | [inner] => return (.operand (.group inner), false)
      | parts =>
        if ← check (.keyword .in_) then return (.operand (.subscript parts), false)
        else failExpected "`in` after subscript list"
    | .call name =>
      advance
      return (.operand (.call (callee name) (← arguments n)), false)
    | .ident name =>
      advance
      match Builtin.ofName? name with
      | some b =>
        if ← check (.symbol .lparen) then
          return (.operand (.call (.builtin b) (← arguments n)), false)
        else if b = .length then return (.operand (.call (.builtin b) []), false)
        else fail (.missingArguments b) place
      | none =>
        if ← eat (.symbol .lbracket) then
          return (.operand (.element name (← subscript n)), true)
        else return (.operand (.var name), true)
    | .keyword .getline =>
      advance
      let target ← target? n
      if ← eat (.symbol .less) then
        let (file, _) ← operandInto n []
        return (.operand (.getline target (.file file)), false)
      else return (.operand (.getline target .main), false)
    | .symbol .minus | .symbol .plus | .symbol .bang => return (← unaryTree n, false)
    | _ => failUnexpected

def stepBeforeTree : Nat → Operator → Span → Parser (Tree × Bool)
  | 0, _, _ => outOfFuel
  | n + 1, o, place => do
    advance
    let (t, assignable) ← operandTree n
    if assignable then return (.before o t, false) else fail (.notAssignable o) place

end

def multiplicativeRestTree : Nat → Tree → Parser Tree
  | 0, _ => outOfFuel
  | n + 1, l => do
    match multiplicative? (← token) with
    | some o =>
      advance
      multiplicativeRestTree n (.between o l (← unaryTree n))
    | none => return l

def multiplicativeTree : Nat → Parser Tree
  | 0 => outOfFuel
  | n + 1 => do multiplicativeRestTree n (← unaryTree n)

def additiveRestTree : Nat → Tree → Parser Tree
  | 0, _ => outOfFuel
  | n + 1, l => do
    match additive? (← token) with
    | some o =>
      advance
      additiveRestTree n (.between o l (← multiplicativeTree n))
    | none => return l

def additiveTree : Nat → Parser Tree
  | 0 => outOfFuel
  | n + 1 => do additiveRestTree n (← multiplicativeTree n)

/-- A `| getline` makes what stands before it its command. -/
def concatRestTree : Nat → Tree → Parser Tree
  | 0, _ => outOfFuel
  | n + 1, l => do
    if (← token) = .symbol .pipe && (← peek 1) = .keyword .getline then
      advance
      advance
      let target ← target? n
      concatRestTree n (.operand (.getline target (.command l.written)))
    else if startsOperand (← token) then
      concatRestTree n (.between .concat l (← additiveTree n))
    else return l

def concatTree : Nat → Parser Tree
  | 0 => outOfFuel
  | n + 1 => do concatRestTree n (← additiveTree n)

def comparisonRestTree : Nat → Tree → Parser Tree
  | 0, _ => outOfFuel
  | n + 1, l => do
    match comparison? (← get).redirects (← token) with
    | some o =>
      advance
      comparisonRestTree n (.between o l (← concatTree n))
    | none => return l

def comparisonTree : Nat → Parser Tree
  | 0 => outOfFuel
  | n + 1 => do comparisonRestTree n (← concatTree n)

def matchRestTree : Nat → Tree → Parser Tree
  | 0, _ => outOfFuel
  | n + 1, l => do
    match matching? (← token) with
    | some o =>
      advance
      matchRestTree n (.between o l (← comparisonTree n))
    | none => return l

def matchTree : Nat → Parser Tree
  | 0 => outOfFuel
  | n + 1 => do matchRestTree n (← comparisonTree n)

def memRestTree : Nat → Tree → Parser Tree
  | 0, _ => outOfFuel
  | n + 1, l => do
    if ← eat (.keyword .in_) then
      match ← token with
      | .ident array =>
        advance
        memRestTree n (.between .mem l (.operand (.var array)))
      | _ => failExpected "array name"
    else return l

def memTree : Nat → Parser Tree
  | 0 => outOfFuel
  | n + 1 => do memRestTree n (← matchTree n)

def andRestTree : Nat → Tree → Parser Tree
  | 0, _ => outOfFuel
  | n + 1, l => do
    if ← eat (.symbol .andand) then
      skipNewlines
      andRestTree n (.between .and l (.lazily (← memInto n [])))
    else return l

def andTree : Nat → Parser Tree
  | 0 => outOfFuel
  | n + 1 => do andRestTree n (← memTree n)

def orRestTree : Nat → Tree → Parser Tree
  | 0, _ => outOfFuel
  | n + 1, l => do
    if ← eat (.symbol .oror) then
      skipNewlines
      orRestTree n (.between .or l (.lazily (← andInto n [])))
    else return l

def orTree : Nat → Parser Tree
  | 0 => outOfFuel
  | n + 1 => do orRestTree n (← andTree n)

def conditionalTree : Nat → Parser Tree
  | 0 => outOfFuel
  | n + 1 => do
    let condition ← orTree n
    if ← eat (.symbol .question) then
      skipNewlines
      let chosen := .between .question condition (.lazily (← expr n))
      skipNewlines
      expect .colon
      skipNewlines
      return .between .colon chosen (.lazily (← conditionalInto n []))
    else return condition

def exprTree : Nat → Parser Tree
  | 0 => outOfFuel
  | n + 1 => do
    let l ← conditionalTree n
    match assignment? (← token) with
    | some o =>
      advance
      skipNewlines
      return .between o l (← exprTree n)
    | none => return l

end Parser

end Awk
