import Awk.Builtin
import Awk.Operator
import Awk.Source.Token

/-! Expressions as flat lists. An expression is its operands and operators in the order in which
they are written; parentheses and the operands that may be skipped are expressions within it.
Precedence gives the structure when the expression is evaluated. -/

namespace Awk

/-- What a call names. -/
inductive Callee where
  | builtin (function : Builtin)
  | user (name : Name)
  deriving Repr, DecidableEq

namespace Callee

def name : Callee → String
  | builtin f => f.name
  | user n => n

end Callee

/-- A place that `getline` can store into. -/
inductive Target (ε : Type) where
  | var (name : Name)
  | element (name : Name) (subscript : List ε)
  | field (index : ε)
  deriving Repr

/-- Where `getline` reads from. -/
inductive InputSource (ε : Type) where
  | main
  | file (name : ε)
  | command (text : ε)
  deriving Repr

/-- A part of an expression. -/
inductive Term where
  | value (value : Value)
  | var (name : Name)
  | element (name : Name) (subscript : List (List Term))
  | op (operator : Operator)
  /-- An expression that is evaluated when its value is needed. -/
  | group (inner : List Term)
  /-- The subscript list on the left of `in`. -/
  | subscript (parts : List (List Term))
  | regex (pattern : String)
  | call (callee : Callee) (arguments : List (List Term))
  | getline (target : Option (Target (List Term))) (source : InputSource (List Term))
  deriving Repr, Inhabited

/-- Operands and operators in the order of the program. -/
abbrev Expr := List Term

namespace Term

/-- Whether a complete operand ends with the term. -/
def leavesValue : Term → Bool
  | op o => o.isAfter
  | _ => true

end Term

namespace Expr

/-- Whether the expression ends with a complete operand. -/
def endsWithValue (e : Expr) : Bool := (e.getLast?.map Term.leavesValue).getD false

/-- Appends a term. An operator that stands before its operand, met after a complete operand, starts
a second operand: a concatenation goes between the two. -/
def push (e : Expr) (t : Term) : Expr :=
  match t with
  | .op o => if o.isBefore && e.endsWithValue then e ++ [.op .concat, t] else e ++ [t]
  | _ => e ++ [t]

/-- The expression of a list of terms, appended one by one. -/
def ofTerms (terms : List Term) : Expr := terms.foldl push []

/-- The pattern of an expression that is one regular expression. -/
def regex? : Expr → Option String
  | [.regex pattern] => some pattern
  | _ => none

/-- The name of an expression that is one variable. -/
def name? : Expr → Option Name
  | [.var name] => some name
  | _ => none

/-- Appends an operand that is evaluated only when its value is needed. One that has no effects of
its own stands for itself. -/
def pushLazy (e operand : Expr) : Expr :=
  match operand with
  | [.value v] => e.push (.value v)
  | [.var n] => e.push (.var n)
  | [.regex p] => e.push (.regex p)
  | [.group g] => e.push (.group g)
  | _ => e.push (.group operand)

theorem endsWithValue_append_singleton (e : Expr) (t : Term) :
    endsWithValue (e ++ [t]) = t.leavesValue := by simp [endsWithValue]

theorem endsWithValue_push (e : Expr) (t : Term) : (e.push t).endsWithValue = t.leavesValue := by
  unfold push
  split
  · split
    · rw [show ∀ o : Operator, e ++ [.op .concat, .op o] = (e ++ [.op .concat]) ++ [.op o] by simp]
      exact endsWithValue_append_singleton _ _
    · exact endsWithValue_append_singleton _ _
  · exact endsWithValue_append_singleton _ _

end Expr

end Awk
