import Awk.Number.Range

/-! Doubles as exact numbers. `Binary64.ofBits` reads the 64 bits of a double, a finite one as a
`Dyadic`, `± mantissa · 2 ^ exponent`; rounding to an integer and the remainder of a division are
then exact arithmetic on natural numbers. -/

namespace Awk

/-- The number `mantissa · 2 ^ exponent`, negated if `negative`. Zero keeps its sign. -/
structure Dyadic where
  negative : Bool
  mantissa : Nat
  exponent : Int
  deriving Repr, DecidableEq

/-- What the bits of a double say. -/
inductive Binary64 where
  | nan
  | infinite (negative : Bool)
  | finite (value : Dyadic)
  deriving Repr, DecidableEq

namespace Binary64

/-- Splits the bits into sign, eleven bits of exponent and fifty-two of fraction. -/
def ofBits (bits : UInt64) : Binary64 :=
  let n := bits.toNat
  let negative := n / Nat.pow 2 63 == 1
  let biased : Nat := n / Nat.pow 2 52 % 2048
  let fraction : Nat := n % Nat.pow 2 52
  if biased = 2047 then
    if fraction = 0 then infinite negative else nan
  else if biased = 0 then finite ⟨negative, fraction, -1074⟩
  else finite ⟨negative, Nat.pow 2 52 + fraction, (biased : Int) - 1075⟩

def ofFloat (x : Float) : Binary64 := ofBits x.toBits

end Binary64

namespace Dyadic

/-- The magnitude as a quotient of natural numbers, numerator and denominator. -/
def ratio (d : Dyadic) : Nat × Nat :=
  if 0 ≤ d.exponent then (d.mantissa * Nat.pow 2 d.exponent.toNat, 1)
  else (d.mantissa, Nat.pow 2 (-d.exponent).toNat)

theorem ratio_den_pos (d : Dyadic) : 0 < d.ratio.2 := by
  unfold ratio; split
  · exact Nat.one_pos
  · exact Nat.two_pow_pos _

def isIntegral (d : Dyadic) : Bool := d.ratio.1 % d.ratio.2 == 0

/-- The integer part, the fraction dropped toward zero. -/
def truncate (d : Dyadic) : Int :=
  let n := Int.ofNat (d.ratio.1 / d.ratio.2)
  if d.negative then -n else n

/-- The nearest integer; a half goes away from zero. -/
def round (d : Dyadic) : Int :=
  let n := Int.ofNat ((2 * d.ratio.1 + d.ratio.2) / (2 * d.ratio.2))
  if d.negative then -n else n

/-- The remainder of dividing `a` by `b` with the quotient dropped toward zero: exact, with the
sign of `a`. -/
def rem (a b : Dyadic) : Dyadic :=
  let e := min a.exponent b.exponent
  let m := a.mantissa * Nat.pow 2 (a.exponent - e).toNat
  let n := b.mantissa * Nat.pow 2 (b.exponent - e).toNat
  ⟨a.negative, m % n, e⟩

/-- The double of a number that is one. A zero is not scaled. -/
def toFloat (d : Dyadic) : Float :=
  let x := if d.mantissa = 0 then 0.0 else (Float.ofNat d.mantissa).scaleB d.exponent
  if d.negative then -x else x

end Dyadic

/-- An integer, or a bound beyond all of them. -/
inductive Rounded where
  | int (value : Int)
  | below
  | above
  deriving Repr, DecidableEq

namespace Float

/-- The nearest integer to a double that is a number. -/
def rounded (x : Float) : Rounded :=
  match Binary64.ofFloat x with
  | .nan => .int 0
  | .infinite true => .below
  | .infinite false => .above
  | .finite d => .int d.round

/-- The integer part of a double, held within the signed 64-bit range; no number is 0. -/
def toInteger (x : Float) : Int :=
  match Binary64.ofFloat x with
  | .nan => 0
  | .infinite true => minInteger
  | .infinite false => maxInteger
  | .finite d => clamp d.truncate

/-- The remainder of a division whose quotient is dropped toward zero. -/
def remainder (x y : Float) : Float :=
  match Binary64.ofFloat x, Binary64.ofFloat y with
  | .finite a, .finite b => if b.mantissa = 0 then 0.0 / 0.0 else (a.rem b).toFloat
  | .finite _, .infinite _ => x
  | _, _ => 0.0 / 0.0

/-- The integer part of a double, as a double. -/
def truncated (x : Float) : Float := if x < 0 then x.ceil else x.floor

end Float

end Awk
