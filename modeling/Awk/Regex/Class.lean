import Awk.Regex.Pattern
import Awk.Unicode.Age
import Awk.Unicode.Break
import Awk.Unicode.Case
import Awk.Unicode.Category
import Awk.Unicode.Property
import Awk.Unicode.Script

/-! The sets of characters that have a name in a regular expression, and when a test of a place
holds. -/

namespace Awk.Regex

open Unicode

/-- Decimal digits of any script. -/
def digitSet : CharSet := (category? "nd").getD .empty

def spaceSet : CharSet := (property? "whitespace").getD .empty

/-- Letters, marks, decimal digits, connecting punctuation and joiners. -/
def wordSet : CharSet :=
  [property? "alphabetic", category? "m", category? "nd", category? "pc",
    property? "joincontrol"].foldl (fun s t => s.union (t.getD .empty)) .empty

/-- The ranges between pairs of characters. -/
def span (ranges : List (Char × Char)) : CharSet :=
  .ofRanges (ranges.map fun (a, b) => (a.toNat, b.toNat))

/-- The named sets that hold ASCII characters only. -/
def asciiSet? : String → Option CharSet
  | "alnum" => some (span [('0', '9'), ('A', 'Z'), ('a', 'z')])
  | "alpha" => some (span [('A', 'Z'), ('a', 'z')])
  | "ascii" => some (span [('\x00', '\x7f')])
  | "blank" => some (span [('\t', '\t'), (' ', ' ')])
  | "cntrl" => some (span [('\x00', '\x1f'), ('\x7f', '\x7f')])
  | "digit" => some (span [('0', '9')])
  | "graph" => some (span [('!', '~')])
  | "lower" => some (span [('a', 'z')])
  | "print" => some (span [(' ', '~')])
  | "punct" => some (span [('!', '/'), (':', '@'), ('[', '\x60'), ('\x7b', '~')])
  | "space" => some (span [('\t', '\r'), (' ', ' ')])
  | "upper" => some (span [('A', 'Z')])
  | "word" => some (span [('0', '9'), ('A', 'Z'), ('a', 'z'), ('_', '_')])
  | "xdigit" => some (span [('0', '9'), ('A', 'F'), ('a', 'f')])
  | _ => none

/-- A name without what does not matter in it: letter case, blanks, hyphens, low lines, characters
past ASCII and a leading `is`, which only the name `isc` keeps. -/
def looseName (name : List Char) : String :=
  let matters := fun c : Char => c.toNat < 128 && c ≠ ' ' && c ≠ '_' && c ≠ '-'
  match name.map Char.toLower with
  | 'i' :: 's' :: r =>
    let body := r.filter matters
    if body = ['c'] then "isc" else .ofList body
  | r => .ofList (r.filter matters)

/-- The members of a general category or of one of the sets that go by a category's name. -/
def generalCategory? : String → Option CharSet
  | "any" => some .all
  | "assigned" => (category? "cn").map .complement
  | "ascii" => asciiSet? "ascii"
  | name => category? name

/-- The set of a loose name: a property, a general category or a script. Three short names are
categories though properties have them too. -/
def namedSet? (name : String) : Option CharSet :=
  let property := if ["cf", "sc", "lc"].contains name then none else property? name
  property <|> generalCategory? name <|> script? name

/-- The set of a property's name and a value's. -/
def valueSet? (property value : String) : Option CharSet :=
  if ["gc", "generalcategory"].contains property then generalCategory? value
  else if ["sc", "script"].contains property then script? value
  else if ["scx", "scriptextensions"].contains property then scriptExtension? value
  else if property = "age" then age? value
  else if ["gcb", "graphemeclusterbreak"].contains property then
    breakClass? graphemeBreakTable value
  else if ["wb", "wordbreak"].contains property then breakClass? wordBreakTable value
  else if ["sb", "sentencebreak"].contains property then breakClass? sentenceBreakTable value
  else none

namespace WordClass

/-- Whether there is a character and it belongs to a word. -/
def holds : WordClass → Option Char → Bool
  | _, none => false
  | ascii, some c => c.isAlphanum || c = '_'
  | unicode, some c => if c.toNat < 128 then c.isAlphanum || c = '_' else wordSet.contains c

end WordClass

namespace Look

/-- Whether the test holds between two characters; none stands for an end of the text. -/
def holds (before after : Option Char) : Look → Bool
  | textStart => before.isNone
  | textEnd => after.isNone
  | lineStart => before.isNone || before = some '\n'
  | lineEnd => after.isNone || after = some '\n'
  | anyLineStart =>
    before.isNone || before = some '\n' || (before = some '\r' && after ≠ some '\n')
  | anyLineEnd =>
    after.isNone || after = some '\r' || (after = some '\n' && before ≠ some '\r')
  | wordBoundary w => w.holds before != w.holds after
  | notWordBoundary w => w.holds before == w.holds after
  | wordStart w => !w.holds before && w.holds after
  | wordEnd w => w.holds before && !w.holds after
  | wordStartHalf w => !w.holds before
  | wordEndHalf w => !w.holds after

end Look

end Awk.Regex
