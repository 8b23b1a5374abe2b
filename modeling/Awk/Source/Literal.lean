/-! The bodies of string and regular expression literals. `unescape` decodes the escapes of a
string; `regexBody?` finds where a regular expression ends. -/

namespace Awk.Literal

def isOctal (c : Char) : Bool := '0' ≤ c && c ≤ '7'

def octalValue (c : Char) : Nat := c.toNat - '0'.toNat

/-- The character that `\c` stands for; an unknown escape stands for the character itself. -/
def escaped (c : Char) : Char :=
  match c with
  | 'n' => '\n'
  | 't' => '\t'
  | 'r' => '\r'
  | 'a' => '\x07'
  | 'b' => '\x08'
  | 'f' => '\x0c'
  | 'v' => '\x0b'
  | c => c

/-- What the characters read so far leave open. -/
inductive Pending where
  | nothing
  | backslash
  /-- One or two octal digits, which a third may follow. -/
  | octal (value count : Nat)
  deriving Repr, DecidableEq

/-- Decodes escapes after what is pending. A backslash before a newline joins the lines, and one at
the end stands for itself. -/
def unescapeFrom : Pending → List Char → List Char
  | .nothing, [] => []
  | .backslash, [] => ['\\']
  | .octal v _, [] => [Char.ofNat v]
  | .nothing, c :: r => if c = '\\' then unescapeFrom .backslash r else c :: unescapeFrom .nothing r
  | .backslash, c :: r =>
    if isOctal c then unescapeFrom (.octal (octalValue c) 1) r
    else if c = '\n' then unescapeFrom .nothing r
    else escaped c :: unescapeFrom .nothing r
  | .octal v n, c :: r =>
    if n < 3 && isOctal c then unescapeFrom (.octal (8 * v + octalValue c) (n + 1)) r
    else if c = '\\' then Char.ofNat v :: unescapeFrom .backslash r
    else Char.ofNat v :: c :: unescapeFrom .nothing r

/-- Decodes the escapes of a string literal's body. -/
def unescape (body : String) : String := String.ofList (unescapeFrom .nothing body.toList)

/-- A regular expression after its opening slash: the pattern, and how many characters it takes with
the closing slash. There is none if the line ends first. A slash inside brackets does not close it,
an escaped one loses its backslash, and a bracket right after an opening one is an ordinary
character. -/
def regexBody? (inBrackets : Bool) : List Char → Option (List Char × Nat)
  | [] => none
  | '\n' :: _ => none
  | ['\\'] => none
  | '\\' :: '\n' :: _ => none
  | '\\' :: c :: r =>
    (regexBody? inBrackets r).map fun (p, n) =>
      (if c = '/' then '/' :: p else '\\' :: c :: p, n + 2)
  | '[' :: '^' :: ']' :: r =>
    if inBrackets then (regexBody? false r).map fun (p, n) => ('[' :: '^' :: ']' :: p, n + 3)
    else (regexBody? true r).map fun (p, n) => ('[' :: '^' :: ']' :: p, n + 3)
  | '[' :: '^' :: r => (regexBody? true r).map fun (p, n) => ('[' :: '^' :: p, n + 2)
  | '[' :: ']' :: r => (regexBody? (!inBrackets) r).map fun (p, n) => ('[' :: ']' :: p, n + 2)
  | c :: r =>
    if c = '/' && !inBrackets then some ([], 1)
    else
      let inBrackets := if c = '[' then true else if c = ']' then false else inBrackets
      (regexBody? inBrackets r).map fun (p, n) => (c :: p, n + 1)

end Awk.Literal
