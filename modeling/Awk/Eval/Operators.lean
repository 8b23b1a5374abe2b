import Awk.Eval.Inner

/-! What operators do to operands. The logical operators and the conditional leave the operands that
they do not need as they are; assignments give back the place. -/

namespace Awk.Inner

open Machine

/-- Adds to a place. The operators that stand before it give the new value, the others the old one
as a number. -/
def applyStep (o : Operator) (operand : Delayed) : Act Delayed := do
  match operand with
  | .ready (.place p) =>
    let old ← getPlace p
    let new := Arithmetic.step old (if o = .preIncr || o = .postIncr then 1 else -1)
    assign p new
    return .ofValue (if o = .preIncr || o = .preDecr then new else Arithmetic.numeric old)
  | _ =>
    report .notAVariable
    return .ofValue (.ofInt 0)

/-- Applies an operator to one operand. -/
def applyUnary (self : Inner) (o : Operator) (operand : Delayed) : Run Delayed := do
  match o with
  | .plus => return .ofValue (Arithmetic.numeric (← self.force operand))
  | .neg => return .ofValue (Arithmetic.negate (← self.force operand))
  | .not => return .ofValue (.ofBool (!(← self.force operand).toBool))
  | .field =>
    let v ← self.force operand
    return .ready (.place (.field (← fieldIndex v)))
  | .preIncr | .preDecr | .postIncr | .postDecr => applyStep o operand
  | _ =>
    report .malformedExpression
    return .ofValue .empty

/-- Assigns the value on the right, or what a compound assignment makes of it, to the place on the
left. -/
def applyAssignment (self : Inner) (o : Operator) (left right : Delayed) : Run Delayed := do
  let v ← self.force right
  match left with
  | .ready (.place p) =>
    match o.compoundBase? with
    | some base =>
      let old ← getPlace p
      let new ← arithmetic base old v
      assign p new
    | none => assign p v
    return .ready (.place p)
  | _ =>
    report .notAssignable
    return .ofValue v

/-- Whether an array has an element. -/
def applyMem (self : Inner) (left right : Delayed) : Run Delayed := do
  let key ← self.force left
  match right with
  | .ready (.place (.scalar name)) =>
    return .ofValue (.ofBool ((← get).env.hasElement name key.text))
  | _ =>
    report .notAVariable
    return .ofValue (.ofInt 0)

/-- Applies an operator that stands between two operands. -/
def applyBinary (self : Inner) (o : Operator) (left right : Delayed) : Run Delayed := do
  if o.isAssignment then self.applyAssignment o left right
  else match o with
    | .question => return if (← self.force left).toBool then right else .ready .null
    | .colon => return if left.isNull then right else left
    | .or =>
      if (← self.force left).toBool then return .ofValue (.ofBool true)
      else return .ofValue (.ofBool (← self.force right).toBool)
    | .and =>
      if (← self.force left).toBool then return .ofValue (.ofBool (← self.force right).toBool)
      else return .ofValue (.ofBool false)
    | .mem => self.applyMem left right
    | .matches | .notMatches =>
      let text ← self.force left
      let pattern ← self.pattern right
      return .ofValue (.ofBool ((← isMatch pattern text.text) = (o = .matches)))
    | .less | .lessEq | .equal | .notEqual | .greaterEq | .greater =>
      let a ← self.force left
      let b ← self.force right
      return .ofValue (.ofBool (Arithmetic.relation o a b))
    | .concat =>
      let a ← self.force left
      let b ← self.force right
      return .ofValue ⟨a.text ++ b.text⟩
    | .add | .sub | .mul | .div | .mod | .pow =>
      let a ← self.force left
      let b ← self.force right
      return .ofValue (← arithmetic o a b)
    | _ =>
      report .malformedExpression
      return .ofValue .empty

end Awk.Inner
