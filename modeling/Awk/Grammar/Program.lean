import Awk.Grammar.Statement

/-! Whole programs: pattern-action items and functions. `parse` gives a program's text the program
or the first syntax error. -/

namespace Awk

namespace Parser

/-- Whether a pattern can end before this token. -/
def endsPattern : Token → Bool
  | .symbol .lbrace | .symbol .comma | .newline | .symbol .semicolon | .eof => true
  | _ => false

/-- Whether a negated regular expression can end before this token and be a pattern by itself. -/
def endsNegation : Token → Bool
  | .symbol .andand | .symbol .oror => true
  | t => endsPattern t

/-- A part of a compound pattern: a regular expression, possibly negated, or an expression. -/
def patternLeaf (fuel : Nat) : Parser Pattern := do
  match ← token, ← peek 1, endsNegation (← peek 2) with
  | .symbol .bang, .regex p, true =>
    advance
    advance
    return .not (.regex p)
  | _, _, _ =>
    let e ← memInto fuel []
    return match e.regex? with
      | some p => .regex p
      | none => .expr e

mutual

def patternAndRest : Nat → Pattern → Parser Pattern
  | 0, _ => outOfFuel
  | n + 1, left => do
    if ← eat (.symbol .andand) then
      skipNewlines
      patternAndRest n (.and left (← patternLeaf n))
    else return left

def patternOrRest : Nat → Pattern → Parser Pattern
  | 0, _ => outOfFuel
  | n + 1, left => do
    if ← eat (.symbol .oror) then
      skipNewlines
      patternOrRest n (.or left (← patternAndRest n (← patternLeaf n)))
    else return left

end

/-- A compound pattern with nothing but the end of the pattern behind it. -/
def compoundPattern (fuel : Nat) : Parser Pattern := do
  let p ← patternOrRest fuel (← patternAndRest fuel (← patternLeaf fuel))
  if endsPattern (← token) then return p else failUnexpected

/-- A pattern: a compound one, or else one expression. -/
def pattern (fuel : Nat) : Parser Pattern := do
  match ← attempt (compoundPattern fuel) with
  | some p => return p
  | none => return .expr (← expr fuel)

/-- The pattern of an item; a range takes the next number. -/
def itemPattern (fuel : Nat) : Parser Pattern := do
  match ← token with
  | .keyword .begin_ =>
    advance
    return .begin_
  | .keyword .end_ =>
    advance
    return .end_
  | .symbol .lbrace => return .all
  | _ =>
    let first ← pattern fuel
    if ← eat (.symbol .comma) then
      skipNewlines
      let last ← pattern fuel
      let id := (← get).ranges
      modify fun c => { c with ranges := c.ranges + 1 }
      return .range id first last
    else return first

/-- An item. A pattern by itself prints the records that it selects. -/
def item (fuel : Nat) : Parser Item := do
  let p ← itemPattern fuel
  if ← check (.symbol .lbrace) then return ⟨p, ← block fuel .program⟩
  else if p.isBegin || p.isEnd then failExpected "`\x7b`"
  else return ⟨p, .mk .program [.print [] none]⟩

/-- The parameters of a function, all different. -/
def parameters : Nat → List Name → Parser (List Name)
  | 0, _ => outOfFuel
  | n + 1, before => do
    match ← token with
    | .ident name =>
      if before.contains name then fail (.duplicateParameter name) (← span)
      else
        advance
        skipNewlines
        if ← eat (.symbol .comma) then
          skipNewlines
          parameters n (before ++ [name])
        else return before ++ [name]
    | _ => return before

/-- A function. Its span reaches over the token behind its body. -/
def function (fuel : Nat) : Parser Function := do
  let first ← span
  advance
  let name ← match ← token with
    | .ident name | .call name => pure name
    | _ => failExpected "function name"
  advance
  expect .lparen
  skipNewlines
  let ps ← parameters fuel []
  expect .rparen
  skipNewlines
  let b ← block fuel .routine
  return ⟨name, ps, b, first.merge (← span)⟩

/-- Items and functions up to the end of input, after what is read so far. -/
def program : Nat → Program → Parser Program
  | 0, _ => outOfFuel
  | n + 1, p => do
    skipTerminators
    if ← check .eof then return { p with ranges := (← get).ranges }
    else if ← check (.keyword .function) then
      let f ← function n
      if (p.function? f.name).isSome then fail (.redefined f.name) f.span
      else program n { p with functions := p.functions ++ [f] }
    else
      let i ← item n
      program n { p with items := p.items ++ [i] }

/-- Fuel for a number of lexemes. Between two tokens the grammar goes down fewer than thirty
levels. -/
def fuelFor (lexemes : Nat) : Nat := 32 * (lexemes + 2)

end Parser

/-- The program of a list of lexemes; `none` would be out of fuel. -/
def parseLexemes (lexemes : List Lexeme) : Option (Except SyntaxError Program) :=
  (Parser.program (Parser.fuelFor lexemes.length) .empty (.start lexemes)).map (·.1)

/-- The program that a text spells, or its first syntax error. -/
def parse (source : String) : Except SyntaxError Program :=
  match lex source with
  | .error (e, span) => .error ⟨.lexical e, span⟩
  | .ok lexemes =>
    (parseLexemes lexemes).getD (.error ⟨.unexpected .eof, ⟨0, 0⟩⟩)

end Awk
