import Awk.Unicode.CharSet

/-! The encoded forms of the characters of a set, as rows of ranges of bytes. A row stands for all
texts that take one byte from each of its ranges in turn; the rows of a set are disjoint and
ascend. -/

namespace Awk.Unicode

/-- The bytes from `first` to `last`. -/
structure ByteRange where
  first : UInt8
  last : UInt8
  deriving Repr, DecidableEq

namespace ByteRange

/-- Where codes from `lo` to `hi` must be cut since only part of a block of `block` codes, all codes
that share their leading bytes, is among them: the last code before the cut and the first after. -/
def blockCut? (lo hi block : Nat) : Option (Nat × Nat) :=
  if lo / block = hi / block then none
  else if lo % block ≠ 0 then
    let next := (lo / block + 1) * block
    some (next - 1, next)
  else if hi % block ≠ block - 1 then
    let next := hi / block * block
    some (next - 1, next)
  else none

/-- Where codes from `lo` to `hi` must be cut to come nearer to a single row: around the surrogates,
where the encoded length changes, and at the ends of blocks. -/
def cut? (lo hi : Nat) : Option (Nat × Nat) :=
  if lo < 0xe000 && 0xd7ff < hi then some (0xd7ff, 0xe000)
  else match [0x7f, 0x7ff, 0xffff].find? fun m => lo ≤ m && m < hi with
    | some m => some (m, m + 1)
    | none => if hi ≤ 0x7f then none else [0x40, 0x1000, 0x40000].findSome? (blockCut? lo hi)

/-- The row of codes that are not to be cut. -/
def row (lo hi : Nat) : List ByteRange :=
  List.zipWith ByteRange.mk (String.utf8EncodeChar (Char.ofNat lo))
    (String.utf8EncodeChar (Char.ofNat hi))

/-- The rows of the codes from `lo` to `hi`, by so many cuts one after the other. -/
def rowsFrom : Nat → Nat → Nat → List (List ByteRange)
  | 0, _, _ => []
  | n + 1, lo, hi =>
    match cut? lo hi with
    | some (before, after) => rowsFrom n lo before ++ rowsFrom n after hi
    | none => if lo ≤ hi then [row lo hi] else []

/-- No range takes more cuts one after the other. -/
def maxCuts : Nat := 32

/-- The rows of the codes from `lo` to `hi`. -/
def rows (lo hi : Nat) : List (List ByteRange) := rowsFrom maxCuts lo hi

end ByteRange

/-- The encoded forms of the members of a set. -/
def CharSet.byteRows (s : CharSet) : List (List ByteRange) :=
  s.ranges.flatMap fun (lo, hi) => ByteRange.rows lo hi

end Awk.Unicode
