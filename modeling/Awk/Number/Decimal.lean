import Awk.Number.Dyadic

/-! Decimal digits of exact quotients. `roundDiv` rounds a quotient to the nearest integer with a
stated rule for halves; `fixedPlaces` and `significant` write a magnitude with a given number of
places or digits, and `shortest` with the fewest digits that still lie nearer to the double than
to its neighbours. -/

namespace Awk.Decimal

/-- Where a quotient halfway between two integers goes. -/
inductive Tie where
  | toEven
  | up
  deriving Repr, DecidableEq

/-- The integer nearest to `num / den`. -/
def roundDiv (num den : Nat) (tie : Tie) : Nat :=
  let q := num / den
  let r := num % den
  if 2 * r < den then q
  else if den < 2 * r then q + 1
  else match tie with
    | .up => q + 1
    | .toEven => if q % 2 = 0 then q else q + 1

/-- Decimal digits with their scale: the number `digits · 10 ^ exponent`. -/
structure Scaled where
  digits : Nat
  exponent : Int
  deriving Repr, DecidableEq

/-- The decimal digits of a natural number, most significant first. -/
def digitChars (n : Nat) : List Char := Nat.toDigits 10 n

/-- Digits filled up with zeros in front to at least `width`. -/
def padZeros (width : Nat) (ds : List Char) : List Char :=
  List.replicate (width - ds.length) '0' ++ ds

/-- `num / den` scaled by `10 ^ k`, as a quotient. -/
def scale (num den : Nat) (k : Int) : Nat × Nat :=
  if 0 ≤ k then (num * Nat.pow 10 k.toNat, den) else (num, den * Nat.pow 10 (-k).toNat)

/-- The exponent of the leading decimal digit of a positive quotient: `10 ^ e ≤ num / den <
10 ^ (e + 1)`. The lengths of numerator and denominator give it up to one. -/
def leadingExponent (num den : Nat) : Int :=
  let guess : Int := (digitChars num).length - (digitChars den).length
  let (a, b) := scale num den (-guess)
  if b ≤ a then guess else guess - 1

/-- The digits of a text with a point before the last `places` of them. -/
def pointed (places : Nat) (ds : List Char) : List Char :=
  let ds := padZeros (places + 1) ds
  if places = 0 then ds
  else ds.take (ds.length - places) ++ '.' :: ds.drop (ds.length - places)

/-- A quotient with `places` digits after the point, a half going to the even neighbour. -/
def fixedPlaces (num den places : Nat) : List Char :=
  pointed places (digitChars (roundDiv (num * Nat.pow 10 places) den .toEven))

/-- A quotient rounded to `places + 1` digits, and the exponent of the leading one. -/
def significant (num den places : Nat) : Nat × Int :=
  if num = 0 then (0, 0)
  else
    let e := leadingExponent num den
    let (a, b) := scale num den (places - e)
    let n := roundDiv a b .toEven
    if n < Nat.pow 10 (places + 1) then (n, e) else (n / 10, e + 1)

/-- The interval of magnitudes that read back as a double, as numerators over one denominator:
its ends lie halfway to the neighbours and belong to it if the mantissa is even. -/
structure Interval where
  low : Nat
  value : Nat
  high : Nat
  den : Nat
  closed : Bool

/-- The interval around a positive double. Below a power of two the neighbour is twice as near. -/
def Interval.ofDyadic (d : Dyadic) : Interval :=
  let (num, den) := d.ratio
  let (unit, _) := ({ d with mantissa := 1 } : Dyadic).ratio
  let narrow := d.mantissa = Nat.pow 2 52 ∧ -1074 < d.exponent
  { low := 4 * num - (if narrow then unit else 2 * unit)
    value := 4 * num
    high := 4 * num + 2 * unit
    den := 4 * den
    closed := d.mantissa % 2 = 0 }

namespace Interval

/-- Whether `n · 10 ^ e` lies in the interval. -/
def holds (i : Interval) (n : Nat) (e : Int) : Bool :=
  let (p, q) := scale n 1 e
  if i.closed then i.low * q ≤ p * i.den && p * i.den ≤ i.high * q
  else i.low * q < p * i.den && p * i.den < i.high * q

/-- The nearest of the interval's points on the grid of multiples of `10 ^ e`; halfway between
two it is the upper one. -/
def onGrid? (i : Interval) (e : Int) : Option Nat :=
  let (a, b) := scale i.value i.den (-e)
  let n := a / b
  let near := roundDiv a b .up
  let far := if near = n then n + 1 else n
  if i.holds near e then some near else if i.holds far e then some far else none

/-- The first grid at or below `10 ^ e` that has a point in the interval, tried `fuel` times. -/
def firstGrid (i : Interval) : Nat → Int → Scaled
  | 0, e => ⟨(scale i.value i.den (-e)).1 / (scale i.value i.den (-e)).2, e⟩
  | fuel + 1, e =>
    match i.onGrid? e with
    | some n => ⟨n, e⟩
    | none => firstGrid i fuel (e - 1)

end Interval

/-- The fewest digits that read back as the positive double `d`, and of those the nearest.
Seventeen digits always do. -/
def shortest (d : Dyadic) : Scaled :=
  let i := Interval.ofDyadic d
  i.firstGrid 17 (leadingExponent i.value i.den)

/-- Trailing zeros moved from the digits into the exponent. -/
def Scaled.strip : Nat → Scaled → Scaled
  | 0, s => s
  | fuel + 1, s =>
    if s.digits ≠ 0 ∧ s.digits % 10 = 0 then strip fuel ⟨s.digits / 10, s.exponent + 1⟩ else s

end Awk.Decimal
