/-! Sets of characters as lists of ranges of code points. The ranges of a canonical set ascend and
leave gaps, so that a test can stop early; every operation here gives one. -/

namespace Awk.Unicode

/-- The greatest code point. -/
def lastCode : Nat := 0x10ffff

/-- A set of code points: the inclusive ranges that make it up. -/
structure CharSet where
  ranges : List (Nat × Nat)
  deriving Repr, DecidableEq, Inhabited

namespace CharSet

def empty : CharSet := ⟨[]⟩

def all : CharSet := ⟨[(0, lastCode)]⟩

/-- Whether ascending ranges hold `c`. -/
def rangesHold : List (Nat × Nat) → Nat → Bool
  | [], _ => false
  | (lo, hi) :: r, c => if c < lo then false else c ≤ hi || rangesHold r c

def contains (s : CharSet) (c : Char) : Bool := rangesHold s.ranges c.toNat

/-- Joins ranges that ascend by their start where they touch or overlap. -/
def join : List (Nat × Nat) → List (Nat × Nat)
  | [] => []
  | [p] => [p]
  | (lo, hi) :: (lo', hi') :: r =>
    if lo' ≤ hi + 1 then join ((lo, max hi hi') :: r) else (lo, hi) :: join ((lo', hi') :: r)
termination_by s => s.length

/-- The canonical set of any ranges. -/
def ofRanges (ranges : List (Nat × Nat)) : CharSet :=
  ⟨join (ranges.mergeSort fun p q => p.1 ≤ q.1)⟩

def union (s t : CharSet) : CharSet := ofRanges (s.ranges ++ t.ranges)

/-- The gaps of ascending ranges from `start` on. -/
def gaps (start : Nat) : List (Nat × Nat) → List (Nat × Nat)
  | [] => if start ≤ lastCode then [(start, lastCode)] else []
  | (lo, hi) :: r => if start < lo then (start, lo - 1) :: gaps (hi + 1) r else gaps (hi + 1) r

def complement (s : CharSet) : CharSet := ⟨gaps 0 s.ranges⟩

def inter (s t : CharSet) : CharSet := (s.complement.union t.complement).complement

def diff (s t : CharSet) : CharSet := s.inter t.complement

def symmDiff (s t : CharSet) : CharSet := (s.union t).diff (s.inter t)

/-- A set from its code points one by one. -/
def ofCodes (codes : List Nat) : CharSet := ofRanges (codes.map fun c => (c, c))

def isEmpty (s : CharSet) : Bool := s.ranges.isEmpty

end CharSet

/-- The value of a small hexadecimal digit. -/
def hexDigit (c : Char) : Nat :=
  if c.isDigit then c.toNat - '0'.toNat else c.toNat - 'a'.toNat + 10

/-- The value of small hexadecimal digits. -/
def hexValue (ds : List Char) : Nat := ds.foldl (fun n d => 16 * n + hexDigit d) 0

/-- The items of a table's lines. -/
def tableItems (lines : List String) : List (List Char) :=
  lines.flatMap fun line => (line.splitOn " ").map String.toList

namespace CharSet

/-- Reads `a` or `a-b`, in hexadecimal. -/
def rangeOf (item : List Char) : Nat × Nat :=
  let lo := hexValue (item.takeWhile (· ≠ '-'))
  match item.dropWhile (· ≠ '-') with
  | _ :: hi => (lo, hexValue hi)
  | [] => (lo, lo)

/-- The set that a table's lines list. -/
def ofTable (lines : List String) : CharSet := ofRanges ((tableItems lines).map rangeOf)

end CharSet

end Awk.Unicode
