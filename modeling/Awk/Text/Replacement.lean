import Awk.Regex

/-! The replacement of matches. In a replacement `&` stands for the matched text; a backslash takes
the meaning from an `&` or a backslash after it. -/

namespace Awk.Replacement

/-- A replacement with the matched text filled in. -/
def expand (matched : List Char) : List Char → List Char
  | [] => []
  | '\\' :: '&' :: r => '&' :: expand matched r
  | '\\' :: '\\' :: r => '\\' :: expand matched r
  | '&' :: r => matched ++ expand matched r
  | c :: r => c :: expand matched r

/-- The matches that count. An empty match right after another one does not. -/
def counted : List Regex.Piece → List Regex.Piece
  | [] => []
  | p :: ps => p :: ps.filter fun q => !(q.gap.isEmpty && q.matched.isEmpty)

/-- The text of pieces as it was. -/
def restored (pieces : List Regex.Piece) : List Char := pieces.flatMap fun p => p.gap ++ p.matched

/-- The text of pieces with the matches replaced. -/
def replaced (replacement : List Char) (pieces : List Regex.Piece) : List Char :=
  pieces.flatMap fun p => p.gap ++ expand p.matched replacement

/-- Replaces the first match or all of them, and how many that are. -/
def replace (pieces : List Regex.Piece) (tail replacement : List Char) (all : Bool) :
    List Char × Nat :=
  let ps := counted pieces
  let n := if all then ps.length else min 1 ps.length
  (replaced replacement (ps.take n) ++ restored (ps.drop n) ++ tail, n)

end Awk.Replacement
