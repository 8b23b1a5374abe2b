import Awk.Value
import Awk.Operator

/-! Arithmetic on values. Two integers are computed exactly, and as doubles where the result leaves
the 64-bit range; a real on either side makes both doubles; two operands that are no numbers give
0. Only a zero divisor is an error. -/

namespace Awk.Arithmetic

/-- The two operands of an operation as it sees them. -/
inductive Operands where
  | integers (a b : Int)
  | reals (a b : Float)
  | neither
  deriving Repr

/-- A number as a double; no number is 0. -/
def real : Option Number → Float
  | some (.integer i) => Value.floatOfInt i
  | some (.real x) => x
  | none => 0.0

def classify (a b : Value) : Operands :=
  match a.toNumber?, b.toNumber? with
  | some (.integer i), some (.integer j) => .integers i j
  | none, none => .neither
  | m, n => .reals (real m) (real n)

/-- An exact result, or the double that stands in for it out of range. -/
def exactOr (exact : Int) (otherwise : Float) : Value :=
  if inRange exact then .ofInt exact else .ofFloat otherwise

/-- `base ^ exponent` where it is in range. A base of magnitude two or more leaves the range within
sixty-four steps, so that no large power is computed. -/
def integerPower? (base : Int) (exponent : Nat) : Option Int :=
  if base = 0 then some (if exponent = 0 then 1 else 0)
  else if base = 1 then some 1
  else if base = -1 then some (if exponent % 2 = 0 then 1 else -1)
  else if exponent < 64 then
    let p := base.pow exponent
    if inRange p then some p else none
  else none

/-- Integers to an exponent of 32 bits are exact while in range. -/
def power (base exponent : Int) : Value :=
  let exact :=
    if 0 ≤ exponent ∧ exponent < 4294967296 then integerPower? base exponent.toNat else none
  match exact with
  | some p => .ofInt p
  | none => .ofFloat (Float.pow (Value.floatOfInt base) (Value.floatOfInt exponent))

/-- The remainder of integers, which has the sign of the dividend; that of the doubles where the
quotient leaves the range. -/
def remainder (i j : Int) : Value :=
  if inRange (i.tdiv j) then .ofInt (i.tmod j)
  else .ofFloat (Float.remainder (Value.floatOfInt i) (Value.floatOfInt j))

def divide (x y : Float) : Option Value :=
  if y == 0.0 then none else some (.ofFloat (x / y))

/-- An arithmetic operator, or the one behind a compound assignment, on two values; `none` for a
division by zero. -/
def apply (o : Operator) (a b : Value) : Option Value :=
  match o.compoundBase?.getD o, classify a b with
  | _, .neither => some (.ofInt 0)
  | .add, .integers i j =>
    some (exactOr (i + j) (Value.floatOfInt i + Value.floatOfInt j))
  | .add, .reals x y => some (.ofFloat (x + y))
  | .sub, .integers i j =>
    some (exactOr (i - j) (Value.floatOfInt i - Value.floatOfInt j))
  | .sub, .reals x y => some (.ofFloat (x - y))
  | .mul, .integers i j =>
    some (exactOr (i * j) (Value.floatOfInt i * Value.floatOfInt j))
  | .mul, .reals x y => some (.ofFloat (x * y))
  | .div, .integers i j => divide (Value.floatOfInt i) (Value.floatOfInt j)
  | .div, .reals x y => divide x y
  | .mod, .integers i j => if j = 0 then none else some (remainder i j)
  | .mod, .reals x y => if y == 0.0 then none else some (.ofFloat (Float.remainder x y))
  | .pow, .integers i j => some (power i j)
  | .pow, .reals x y => some (.ofFloat (Float.pow x y))
  | _, _ => some (.ofInt 0)

/-- Unary minus. -/
def negate (v : Value) : Value :=
  match v.toNumber? with
  | some (.integer i) => exactOr (-i) (-Value.floatOfInt i)
  | some (.real x) => .ofFloat (-x)
  | none => .ofInt 0

/-- Unary plus: the numeric reading. -/
def numeric (v : Value) : Value :=
  match v.toNumber? with
  | some (.integer i) => .ofInt i
  | some (.real x) => .ofFloat x
  | none => .ofInt 0

/-- The numeric reading plus `delta`, for `++` and `--`. -/
def step (v : Value) (delta : Int) : Value :=
  (apply .add (numeric v) (.ofInt delta)).getD .empty

/-- A relational operator on two values. -/
def relation (o : Operator) (a b : Value) : Bool :=
  match o with
  | .less => a.compare b = .lt
  | .lessEq => a.compare b ≠ .gt
  | .equal => a.compare b = .eq
  | .notEqual => a.compare b ≠ .eq
  | .greaterEq => a.compare b ≠ .lt
  | .greater => a.compare b = .gt
  | _ => false

end Awk.Arithmetic
