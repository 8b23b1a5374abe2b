import Awk.Ast.Expr

/-! The evaluation of one expression by precedence. Terms are pushed from left to right; an operator
that binds looser than the pending one has that applied first. A frame only says what is to be
applied to what: what the operands are, and how an operator is applied to them, is up to the
evaluator. -/

namespace Awk

/-- Something that can be assigned to, with its subscript or index already known. -/
inductive Place where
  | scalar (name : Name)
  | element (name : Name) (key : String)
  | field (index : Nat)
  deriving Repr, DecidableEq

/-- The result of an expression before its value is asked for. -/
inductive Operand where
  | value (v : Value)
  /-- What a condition that is false leaves for the second branch to replace. -/
  | null
  | place (p : Place)
  /-- A regular expression, which as a value says whether the record matches. -/
  | regex (pattern : String)
  deriving Repr, DecidableEq

/-- What an operator is applied to. A group is evaluated when its value is needed, and at most
once. -/
inductive Delayed where
  | ready (o : Operand)
  | group (e : Expr)
  deriving Repr

namespace Delayed

def ofValue (v : Value) : Delayed := .ready (.value v)

def isNull : Delayed → Bool
  | ready .null => true
  | _ => false

end Delayed

inductive Slot (ι : Type) where
  | operand (i : ι)
  | op (o : Operator)
  deriving Repr

/-- An operator and what it is applied to. -/
inductive Reduction (ι : Type) where
  | unary (o : Operator) (operand : ι)
  | binary (o : Operator) (left right : ι)
  deriving Repr

/-- An expression under evaluation: what has been pushed, last first; the operators that are
pending, the innermost first; and whether an operand stands last. -/
structure Frame (ι : Type) where
  slots : List (Slot ι)
  pending : List Operator
  value : Bool
  deriving Repr

namespace Frame

variable {ι : Type}

def empty : Frame ι := ⟨[], [], false⟩

def hasPending (f : Frame ι) : Bool := !f.pending.isEmpty

/-- Whether the pending operator is to be applied before `incoming` is pushed. -/
def shouldReduce (f : Frame ι) (incoming : Operator) : Bool :=
  f.value && f.pending.head?.any (·.bindsTighter incoming)

def pushOp (f : Frame ι) (o : Operator) : Frame ι :=
  ⟨.op o :: f.slots, o :: f.pending, o.isAfter⟩

def pushOperand (f : Frame ι) (i : ι) : Frame ι := ⟨.operand i :: f.slots, f.pending, true⟩

/-- Takes off the last operator with its operands, if they stand as they should. -/
def takeReduction? (f : Frame ι) : Option (Reduction ι × Frame ι) :=
  match f.slots with
  | .operand i :: .op o :: slots =>
    if o.isBefore then some (.unary o i, { f with slots })
    else match slots with
      | .operand left :: slots => some (.binary o left i, { f with slots })
      | _ => none
  | .op o :: .operand i :: slots =>
    if o.isAfter then some (.unary o i, { f with slots }) else none
  | _ => none

/-- Pushes the result of the reduction taken last. -/
def complete (f : Frame ι) (result : ι) : Frame ι :=
  pushOperand { f with pending := f.pending.tail } result

/-- The single item that is left when all operators are applied. -/
def result? (f : Frame ι) : Option ι :=
  match f.slots with
  | [.operand i] => some i
  | _ => none

end Frame

end Awk
