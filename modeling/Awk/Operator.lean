/-! The operators of expressions: for each its arity, place, precedence and associativity. From
these alone an expression's structure is recovered. -/

namespace Awk

inductive Associativity where
  | leftToRight
  | rightToLeft
  deriving Repr, DecidableEq

inductive Arity where
  | unary
  | binary
  | ternary
  deriving Repr, DecidableEq

/-- Where an operator stands to its operands. -/
inductive Fixity where
  | before
  | after
  | between
  deriving Repr, DecidableEq

/-- The operators. `concat` is the concatenation that a program writes as nothing, `question` and
`colon` are the halves of the conditional, and `field` is `$`. -/
inductive Operator where
  | assign | addAssign | subAssign | mulAssign | divAssign | modAssign | powAssign
  | question | colon
  | or | and | mem | matches | notMatches
  | less | lessEq | equal | notEqual | greaterEq | greater
  | concat
  | add | sub | mul | div | mod
  | plus | neg | not
  | pow
  | preIncr | preDecr | postIncr | postDecr
  | field
  deriving Repr, DecidableEq, Inhabited

namespace Operator

/-- Binding strength, from 1, the loosest, to 15. -/
def precedence : Operator → Nat
  | assign | addAssign | subAssign | mulAssign | divAssign | modAssign | powAssign => 1
  | question | colon => 2
  | or => 3
  | and => 4
  | mem => 5
  | .matches | notMatches => 6
  | less | lessEq | equal | notEqual | greaterEq | greater => 7
  | concat => 8
  | add | sub => 9
  | mul | div | mod => 10
  | plus | neg => 11
  | not => 12
  | pow => 13
  | preIncr | preDecr | postIncr | postDecr => 14
  | field => 15

def associativity : Operator → Associativity
  | assign | addAssign | subAssign | mulAssign | divAssign | modAssign | powAssign
  | question | pow => .rightToLeft
  | _ => .leftToRight

def arity : Operator → Arity
  | question | colon => .ternary
  | plus | neg | not | preIncr | preDecr | postIncr | postDecr | field => .unary
  | _ => .binary

def fixity : Operator → Fixity
  | plus | neg | not | preIncr | preDecr | field => .before
  | postIncr | postDecr => .after
  | _ => .between

def isBefore (o : Operator) : Bool := o.fixity = .before

def isAfter (o : Operator) : Bool := o.fixity = .after

def isAssignment (o : Operator) : Bool := o.precedence = 1

/-- Whether a pending `o` is reduced before `incoming` is taken up. -/
def bindsTighter (o incoming : Operator) : Bool :=
  incoming.precedence < o.precedence ||
    (o.precedence = incoming.precedence && incoming.associativity = .leftToRight)

/-- The spelling in a program. -/
def symbol : Operator → String
  | assign => "=" | addAssign => "+=" | subAssign => "-=" | mulAssign => "*="
  | divAssign => "/=" | modAssign => "%=" | powAssign => "^="
  | question => "?" | colon => ":"
  | or => "||" | and => "&&" | mem => "in" | .matches => "~" | notMatches => "!~"
  | less => "<" | lessEq => "<=" | equal => "==" | notEqual => "!="
  | greaterEq => ">=" | greater => ">"
  | concat => ""
  | add | plus => "+"
  | sub | neg => "-"
  | mul => "*" | div => "/" | mod => "%"
  | not => "!" | pow => "^"
  | preIncr | postIncr => "++"
  | preDecr | postDecr => "--"
  | field => "$"

/-- The spelling in a listing, where concatenation shows. -/
def display : Operator → String
  | concat => "<concat>"
  | o => o.symbol

/-- The operator behind a compound assignment. -/
def compoundBase? : Operator → Option Operator
  | addAssign => some add
  | subAssign => some sub
  | mulAssign => some mul
  | divAssign => some div
  | modAssign => some mod
  | powAssign => some pow
  | _ => none

/-- Every operator, loosest group first. -/
def all : List Operator :=
  [assign, addAssign, subAssign, mulAssign, divAssign, modAssign, powAssign, question, colon,
   or, and, mem, .matches, notMatches, less, lessEq, equal, notEqual, greaterEq, greater,
   concat, add, sub, mul, div, mod, plus, neg, not, pow, preIncr, preDecr, postIncr, postDecr,
   field]

theorem mem_all (o : Operator) : o ∈ all := by cases o <;> decide

end Operator

end Awk
