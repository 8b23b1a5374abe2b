import Awk.Number.Canonical

/-! What can go wrong while a program runs. None of it stops the run: the diagnostic is reported
and evaluation goes on with a stated value. -/

namespace Awk

inductive Diagnostic where
  | breakOutsideLoop
  | continueOutsideLoop
  /-- The array of `in`, the operand of `++` or `--` or the target of `split` is no variable. -/
  | notAVariable
  /-- The target of an assignment, `sub` or `gsub` cannot be assigned to. -/
  | notAssignable
  | negativeFieldIndex (index : Int)
  | fieldIndexTooLarge (index : Nat)
  | wrongArgumentCount (builtin : String)
  | tooManyArguments (function : String)
  | unknownFunction (name : String)
  | divisionByZero
  | invalidRegex (pattern : String)
  | io (target reason : String)
  | malformedExpression
  deriving Repr, DecidableEq

namespace Diagnostic

/-- The text that is reported. -/
def message : Diagnostic → String
  | breakOutsideLoop => "break not in iteration"
  | continueOutsideLoop => "continue not in iteration"
  | notAVariable => "value is not a variable"
  | notAssignable => "Lhs is not a variable"
  | negativeFieldIndex index => "negative field index $" ++ Int.text index
  | fieldIndexTooLarge index => "field index $" ++ Int.text index ++ " is too large"
  | wrongArgumentCount name => "Invalid number of arguments for '" ++ name ++ "'"
  | tooManyArguments name => "Too many function args for '" ++ name ++ "'"
  | unknownFunction name => "No function '" ++ name ++ "'"
  | divisionByZero => "division by zero"
  | invalidRegex pattern => "invalid regular expression /" ++ pattern ++ "/"
  | io target reason => target ++ ": " ++ reason
  | malformedExpression => "malformed expression"

end Diagnostic

end Awk
