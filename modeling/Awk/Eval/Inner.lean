import Awk.Eval.Machine

/-! Evaluation that may run out of fuel. What an expression or a statement does is stated in terms
of how the expressions and blocks inside of it are evaluated, which `Inner` holds; the recursion is
closed in one place elsewhere. -/

namespace Awk

/-- That there is no fuel left. -/
structure OutOfFuel where
  deriving Repr, DecidableEq

/-- Something done to a machine that may run out of fuel. The machine is then left as it is. -/
abbrev Run := EStateM OutOfFuel Machine

namespace Run

instance : MonadLift Act Run := ⟨fun a m => let (r, m) := a m; .ok r m⟩

def outOfFuel {α : Type} : Run α := throw {}

/-- Repeats `pass` while it says so. -/
def repeatWhile (pass : Run Bool) : Nat → Run Unit
  | 0 => outOfFuel
  | n + 1 => do if ← pass then repeatWhile pass n else return ()

/-- Does `f` for the items in order, while it says so. -/
def forWhile {α : Type} (f : α → Run Bool) : List α → Run Unit
  | [] => return ()
  | a :: as => do if ← f a then forWhile f as else return ()

/-- The results of `f` for the items in order. -/
def collect {α β : Type} (f : α → Run β) : List α → Run (List β)
  | [] => return []
  | a :: as => do
    let b ← f a
    return b :: (← collect f as)

end Run

/-- How the parts of an expression or a statement are evaluated: an expression up to its operand,
and a block up to the jump that it absorbs. The fuel bounds the rounds of a loop. -/
structure Inner where
  fuel : Nat
  operand : Expr → Run Operand
  block : Block → Run Flag

namespace Inner

open Machine

/-- The value of an operand. -/
def valueOf : Operand → Act Value
  | .value v => return v
  | .null => return .empty
  | .place p => getPlace p
  | .regex pattern => do return .ofBool (← recordMatches pattern)

/-- The value of an expression. -/
def value (self : Inner) (e : Expr) : Run Value := do valueOf (← self.operand e)

/-- The operand that a delayed one comes to. -/
def settle (self : Inner) : Delayed → Run Operand
  | .ready o => return o
  | .group e => self.operand e

/-- The value of a delayed operand. -/
def force (self : Inner) (d : Delayed) : Run Value := do valueOf (← self.settle d)

/-- The pattern that an operand stands for where one is wanted. -/
def patternOf : Operand → Act String
  | .regex pattern => return pattern
  | o => do return (← valueOf o).text

/-- The pattern that a delayed operand stands for where one is wanted. One in a group is
evaluated. -/
def pattern (self : Inner) : Delayed → Run String
  | .ready (.regex pattern) => return pattern
  | d => do return (← self.force d).text

/-- The key of a list of subscripts. -/
def subscriptKey (self : Inner) (parts : List Expr) : Run String := do
  let values ← Run.collect self.value parts
  joinSubscript values

end Inner

end Awk
