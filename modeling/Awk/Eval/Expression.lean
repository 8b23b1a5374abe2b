import Awk.Eval.Calls
import Awk.Eval.Operators

/-! The evaluation of an expression: its terms are pushed on a frame of their own, operators are
applied as precedence asks, and the single operand that is left is the result. -/

namespace Awk.Inner

open Machine

def apply (self : Inner) : Reduction Delayed → Run Delayed
  | .unary o d => self.applyUnary o d
  | .binary o left right => self.applyBinary o left right

/-- Applies the pending operator. Where its operands do not stand as they should, that is reported
and the frame starts anew with an empty value. -/
def reduce (self : Inner) : Run Unit := do
  let m ← get
  match m.frames with
  | [] => return ()
  | top :: rest =>
    match top.takeReduction? with
    | some (r, top) =>
      set { m with frames := top :: rest }
      let result ← self.apply r
      modifyFrame (·.complete result)
    | none =>
      report .malformedExpression
      modifyFrame fun _ => Frame.empty.pushOperand (.ofValue .empty)

/-- Applies pending operators, `n` at most, while the frame is as `p` says. -/
def reduceWhile (self : Inner) (p : Frame Delayed → Bool) : Nat → Run Unit
  | 0 => return ()
  | n + 1 => do
    if ← frameHas p then
      self.reduce
      self.reduceWhile p n
    else return ()

/-- How many operators are pending. -/
def pendingCount : Act Nat := do return ((← get).frames.head?.map (·.pending.length)).getD 0

/-- Pushes an operator. Those that bind tighter are applied before, unless it stands before its
operand. -/
def pushOperator (self : Inner) (o : Operator) : Run Unit := do
  unless o.isBefore do
    self.reduceWhile (·.shouldReduce o) (← pendingCount)
  modifyFrame (·.pushOp o)

/-- Pushes an operand. After another operand a concatenation goes before it. -/
def pushOperand (self : Inner) (d : Delayed) : Run Unit := do
  if ← frameHas (·.value) then self.pushOperator .concat
  modifyFrame (·.pushOperand d)

/-- Pushes a term. -/
def pushTerm (self : Inner) : Term → Run Unit
  | .op o => self.pushOperator o
  | .value v => self.pushOperand (.ofValue v)
  | .var name => self.pushOperand (.ready (.place (.scalar name)))
  | .element name subscript => do
    let key ← self.subscriptKey subscript
    self.pushOperand (.ready (.place (.element name key)))
  | .group inner => self.pushOperand (.group inner)
  | .subscript parts => do
    let key ← self.subscriptKey parts
    self.pushOperand (.ofValue ⟨key⟩)
  | .regex pattern => self.pushOperand (.ready (.regex pattern))
  | .call callee parts => do
    let v ← self.call callee parts
    self.pushOperand (.ofValue v)
  | .getline target source => do
    let v ← self.getline target source
    self.pushOperand (.ofValue v)

def pushTerms (self : Inner) : List Term → Run Unit
  | [] => return ()
  | t :: ts => do
    self.pushTerm t
    self.pushTerms ts

/-- The result of the innermost frame, with all operators applied. More or less than one operand is
reported, unless there is nothing at all. -/
def finish (self : Inner) : Run Delayed := do
  self.reduceWhile Frame.hasPending (← pendingCount)
  match (← get).frames with
  | [] => return .ofValue .empty
  | top :: _ =>
    if top.slots.isEmpty then return .ofValue .empty
    else match top.result? with
      | some d => return d
      | none =>
        report .malformedExpression
        return .ofValue .empty

/-- Evaluates on a frame of its own, which goes however that ends. -/
def onFrame {α : Type} (x : Run α) : Run α := fun m =>
  match x (beginFrame m).2 with
  | .ok a m => .ok a (endFrame m).2
  | .error e m => .error e (endFrame m).2

/-- Evaluates the terms of an expression on a frame of their own. -/
def terms (self : Inner) (e : Expr) : Run Delayed := onFrame do
  self.pushTerms e
  self.finish

/-- Evaluates an expression up to its operand. -/
def expression (self : Inner) (e : Expr) : Run Operand := do self.settle (← self.terms e)

end Awk.Inner
