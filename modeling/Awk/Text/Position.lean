import Awk.Number.Dyadic

/-! Characters of a text by their positions, which count from 1. -/

namespace Awk.Position

/-- Where a text first occurs in another; 0 if it does not. -/
def index (needle : List Char) (s : List Char) : Nat :=
  go 1 s
where
  go (place : Nat) : List Char → Nat
    | [] => if needle.isEmpty then place else 0
    | c :: r => if needle.isPrefixOf (c :: r) then place else go (place + 1) r

/-- The first position at or after a bound. -/
def lower (count : Nat) : Rounded → Int
  | .int i => max i 1
  | .below => 1
  | .above => count + 1

/-- The position past the last of those that are `length` many from `start`, or go to the end. From
minus infinity, infinitely many go to the end. -/
def upper (count : Nat) (start : Rounded) (length : Option Rounded) : Int :=
  match start, length with
  | _, none => count + 1
  | .below, some .above => count + 1
  | .below, some _ => 0
  | .above, some _ => count + 1
  | .int i, some (.int n) => min (i + n) (count + 1)
  | .int _, some .above => count + 1
  | .int _, some .below => 0

/-- The characters at the positions from a rounded start on, as many as a rounded length says. -/
def substring (s : List Char) (start : Float) (length : Option Float) : List Char :=
  let first := lower s.length (Float.rounded start)
  let stop := upper s.length (Float.rounded start) (length.map Float.rounded)
  (s.drop (first - 1).toNat).take (stop - first).toNat

end Awk.Position
