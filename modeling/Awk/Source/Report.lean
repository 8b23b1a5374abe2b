import Awk.Grammar.Cursor
import Awk.Number.Canonical
import Awk.Unicode.Width

/-! Reports of syntax errors: what is wrong, where, and the line with the place underlined. Places
in a report count characters. -/

namespace Awk

/-- How many characters start before a byte. -/
def charOffset : List Char → Nat → Nat
  | [], _ => 0
  | c :: r, byte => if byte = 0 then 0 else charOffset r (byte - c.utf8Size) + 1

/-- The characters of a span. An empty span before a character is taken for that character. -/
def Span.characters (s : Span) (source : List Char) : Span :=
  let start := charOffset source s.start
  let stop := max (charOffset source s.stop) start
  if stop = start && start < source.length then ⟨start, start + 1⟩ else ⟨start, stop⟩

/-- Whether a character ends a line. -/
def endsLine (c : Char) : Bool :=
  ('\n'.toNat ≤ c.toNat && c.toNat ≤ '\r'.toNat) || c = '\u0085' || c = '\u2028' || c = '\u2029'

/-- Divides a text into lines, each with its end. A carriage return and the newline behind it are
one end. -/
def sourceLines : List Char → List (List Char)
  | [] => []
  | '\r' :: '\n' :: r => ['\r', '\n'] :: sourceLines r
  | c :: r =>
    if endsLine c then [c] :: sourceLines r
    else match sourceLines r with
      | [] => [[c]]
      | line :: lines => (c :: line) :: lines

/-- A line of a source: its number, the place of its first character, and its text. -/
structure Line where
  number : Nat
  start : Nat
  text : List Char
  deriving Repr, DecidableEq

namespace Line

/-- The last of the lines that starts at or before a place, or else `best`. -/
def holding (place : Nat) (best : Line) (number start : Nat) : List (List Char) → Line
  | [] => best
  | text :: rest =>
    if start ≤ place then
      holding place ⟨number, start, text⟩ (number + 1) (start + text.length) rest
    else best

/-- The line of a place in a source. -/
def ofPlace (source : List Char) (place : Nat) : Line :=
  holding place ⟨1, 0, []⟩ 1 0 (sourceLines source)

/-- The text without the white space at its end. -/
def trimmed (l : Line) : List Char := (l.text.reverse.dropWhile Unicode.isWhiteSpace).reverse

end Line

namespace Report

/-- The columns that a character takes, which for a tab depends on how many characters are before
it. -/
def cellWidth (c : Char) (before : Nat) : Nat :=
  if c = '\t' then 4 - before % 4
  else if Unicode.isWhiteSpace c then 1
  else Unicode.width c

/-- The widths of the first `count` places of a line; a place past its text is one column wide. -/
def cellWidths (text : List Char) (count : Nat) : List Nat :=
  let cells := text.zipIdx.map fun (c, i) => cellWidth c i
  (cells ++ List.replicate (count - text.length) 1).take count

/-- A line's text as it is shown. -/
def shown (text : List Char) : List Char :=
  text.zipIdx.flatMap fun (c, i) =>
    if Unicode.isWhiteSpace c then List.replicate (cellWidth c i) ' ' else [c]

/-- Draws a row below a line. A place has a mark for its first column and one for the others. -/
def row (widths : List Nat) (marks : Nat → Char × Char) : List Char :=
  widths.zipIdx.flatMap fun (width, i) =>
    let (first, others) := marks i
    (List.replicate width others).set 0 first

/-- The marks that underline a span, with the place where the message hangs. -/
def underline (span : Span) (hook : Nat) (place : Nat) : Char × Char :=
  let inside := span.start ≤ place && place < span.stop
  if place = hook then if inside then ('┬', '─') else ('│', ' ')
  else if inside then ('─', '─')
  else (' ', ' ')

/-- The marks that lead from the hook to the message. -/
def arrow (hook : Nat) (place : Nat) : Char × Char :=
  if place = hook then ('╰', '─')
  else if hook < place then ('─', '─')
  else (' ', ' ')

/-- The report of a syntax error in a source of a given name. -/
def render (name source : String) (e : SyntaxError) : String :=
  let characters := source.toList
  let span := e.span.characters characters
  let line := Line.ofPlace characters span.start
  let text := line.trimmed
  let number := Int.text line.number
  let margin := String.ofList (List.replicate (number.length + 2) ' ')
  let inLine : Span := ⟨span.start - line.start, span.stop - line.start⟩
  let hook := max ((span.start + span.stop) / 2) span.start - line.start
  let widths := cellWidths text (inLine.stop + 2)
  "".intercalate
    ["Error: ", e.message, "\n",
     margin, "╭─[", name, ":", number, ":", Int.text (inLine.start + 1), "]\n",
     margin, "│\n",
     " ", number, " │ ", .ofList (shown text), "\n",
     margin, "│ ", .ofList (row widths (underline inLine hook)), "\n",
     margin, "│ ", .ofList (row widths (arrow hook)), " ", e.message, "\n",
     .ofList (List.replicate (number.length + 2) '─'), "╯\n"]

end Report

end Awk
