import Awk.Number.Range

/-! Which texts are numbers. After blanks at both ends are dropped, an integer is an optional sign
and digits within the signed 64-bit range; a real is an optional sign, digits with an optional
point and fraction, or a point and digits, and an optional exponent. Names such as `inf` and
hexadecimal texts are not numbers. -/

namespace Awk

/-- A numeral taken apart. `exponent` is the written one. -/
structure Numeral where
  negative : Bool
  whole : List Char
  fraction : List Char
  exponent : Int
  deriving Repr, DecidableEq

/-- The value of a list of decimal digits. -/
def digitsValue (ds : List Char) : Nat := ds.foldl (fun n d => 10 * n + (d.toNat - '0'.toNat)) 0

namespace Numeral

/-- Blanks that may surround a number. -/
def isBlank (c : Char) : Bool := c = ' ' || c = '\t' || c = '\n'

/-- `s` without the blanks at its ends. -/
def trim (s : List Char) : List Char := ((s.dropWhile isBlank).reverse.dropWhile isBlank).reverse

/-- An optional sign: whether it is a minus, and the rest. -/
def sign : List Char → Bool × List Char
  | '+' :: r => (false, r)
  | '-' :: r => (true, r)
  | r => (false, r)

/-- An optional point and the digits after it, and the rest. -/
def fractionOf : List Char → List Char × List Char
  | '.' :: r => (r.takeWhile Char.isDigit, r.dropWhile Char.isDigit)
  | r => ([], r)

/-- An optional exponent that ends the text. -/
def exponentOf : List Char → Option Int
  | [] => some 0
  | c :: r =>
    if c = 'e' || c = 'E' then
      let (negative, ds) := sign r
      if ds.isEmpty || !ds.all Char.isDigit then none
      else some (if negative then -(digitsValue ds : Int) else digitsValue ds)
    else none

/-- Takes a whole text apart as a numeral. -/
def ofChars? (s : List Char) : Option Numeral :=
  let (negative, s) := sign s
  let whole := s.takeWhile Char.isDigit
  let (fraction, s) := fractionOf (s.dropWhile Char.isDigit)
  if whole.isEmpty && fraction.isEmpty then none
  else (exponentOf s).map fun exponent => ⟨negative, whole, fraction, exponent⟩

/-- The double nearest to the numeral. Exponents that lead past every double are cut short: they
give an infinity or a zero whatever the digits. -/
def toFloat (n : Numeral) : Float :=
  let m := digitsValue (n.whole ++ n.fraction)
  let e := n.exponent - n.fraction.length
  let size : Int := (n.whole ++ n.fraction).length
  let x :=
    if m = 0 then 0.0
    else if 400 < e then 1.0 / 0.0
    else if e + size < -400 then 0.0
    else if 0 ≤ e then Float.ofScientific m false e.toNat
    else Float.ofScientific m true (-e).toNat
  if n.negative then -x else x

end Numeral

/-- The integer that a text spells, if it does and is in range. -/
def readInteger (text : String) : Option Int :=
  let (negative, ds) := Numeral.sign (Numeral.trim text.toList)
  if ds.isEmpty || !ds.all Char.isDigit then none
  else
    let i : Int := if negative then -(digitsValue ds : Int) else digitsValue ds
    if inRange i then some i else none

/-- The double that a text spells, if it does. -/
def readReal (text : String) : Option Float :=
  (Numeral.ofChars? (Numeral.trim text.toList)).map Numeral.toFloat

end Awk
