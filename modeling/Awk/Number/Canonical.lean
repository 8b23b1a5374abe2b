import Awk.Number.Decimal

/-! The canonical text of a number. An integral double that fifty-three bits hold is written as an
integer; any other with the fewest digits that read back, positionally from `1e-5` to below `1e16`
and with an exponent outside. -/

namespace Awk

/-- The decimal text of an integer. -/
def Int.text (i : Int) : String :=
  match i with
  | .ofNat n => String.ofList (Decimal.digitChars n)
  | .negSucc n => String.ofList ('-' :: Decimal.digitChars (n + 1))

namespace Canonical

/-- `digits · 10 ^ exponent` written without an exponent. -/
def positional (s : Decimal.Scaled) : List Char :=
  if 0 ≤ s.exponent then
    Decimal.digitChars s.digits ++ List.replicate s.exponent.toNat '0'
  else Decimal.pointed (-s.exponent).toNat (Decimal.digitChars s.digits)

/-- `digits · 10 ^ exponent` with one digit before the point and an exponent. -/
def exponential (s : Decimal.Scaled) : List Char :=
  let ds := Decimal.digitChars s.digits
  let mantissa := match ds with
    | [d] => [d]
    | d :: rest => d :: '.' :: rest
    | [] => []
  mantissa ++ 'e' :: (Int.text (s.exponent + (ds.length - 1 : Nat))).toList

/-- Magnitudes that are written without an exponent: `1e-5 ≤ num / den < 1e16`. -/
def isPositional (num den : Nat) : Bool := den ≤ num * Nat.pow 10 5 && num < den * Nat.pow 10 16

/-- The canonical text of a finite double. -/
def ofDyadic (d : Dyadic) : String :=
  let (num, den) := d.ratio
  if d.isIntegral && num < Nat.pow 2 53 * den then Int.text d.truncate
  else
    let s := (Decimal.shortest d).strip 400
    let text := if isPositional num den then positional s else exponential s
    String.ofList (if d.negative then '-' :: text else text)

/-- The canonical text of a double. -/
def ofFloat (x : Float) : String :=
  match Binary64.ofFloat x with
  | .nan => "nan"
  | .infinite true => "-inf"
  | .infinite false => "inf"
  | .finite d => ofDyadic d

end Canonical

end Awk
